import Mathlib.Data.List.Induction
import StackScript.Proofs.Symbol

/-!
# Adding symbols to tables

A table that has been empty holds the first of all symbols of each name that have been added to it,
in the order in which they were.
-/

namespace StackScript.SymbolTable

variable {table later : SymbolTable} {id : SymbolId}

/-- A number that a name has in a table is its number in all that the table grows to. -/
theorem indexOf?_of_prefix (grown : table.symbols <+: later.symbols) {name : String}
    (found : table.indexOf? name = some id) : later.indexOf? name = some id := by
  obtain ⟨more, shape⟩ := grown
  unfold indexOf? at found ⊢
  rw [← shape, List.findIdx?_append, found]
  rfl

theorem indexOf?_eq_none_iff {name : String} :
    table.indexOf? name = none ↔ ∀ entry ∈ table.symbols, entry.name ≠ name := by
  simp [indexOf?]

/-! ## Adding symbols in turn -/

/-- The table with symbols in it, one after the other. -/
def addAll (table : SymbolTable) (symbols : List Symbol) : SymbolTable :=
  symbols.foldl add table

theorem addAll_concat (table : SymbolTable) (symbols : List Symbol) (symbol : Symbol) :
    table.addAll (symbols ++ [symbol]) = (table.addAll symbols).add symbol :=
  List.foldl_append

theorem addAll_append (table : SymbolTable) (front back : List Symbol) :
    table.addAll (front ++ back) = (table.addAll front).addAll back :=
  List.foldl_append

/-- A symbol is added unless there is one of its name. -/
theorem symbols_add_of_notMem {symbol : Symbol}
    (new : symbol.name ∉ table.symbols.map Symbol.name) :
    (table.add symbol).symbols = table.symbols ++ [symbol] := by
  have unknown : table.indexOf? symbol.name = none :=
    indexOf?_eq_none_iff.2 fun entry member same => new (same ▸ List.mem_map_of_mem member)
  rw [add, intern, unknown]

theorem add_of_mem {symbol : Symbol} (known : symbol.name ∈ table.symbols.map Symbol.name) :
    table.add symbol = table := by
  obtain ⟨entry, member, same⟩ := List.mem_map.1 known
  cases found : table.indexOf? symbol.name with
  | some id => rw [add, intern, found]
  | none => exact absurd same (indexOf?_eq_none_iff.1 found entry member)

/-- Adding adds no other symbols. -/
theorem mem_addAll {symbols : List Symbol} {entry : Symbol}
    (member : entry ∈ (table.addAll symbols).symbols) :
    entry ∈ table.symbols ∨ entry ∈ symbols := by
  induction symbols generalizing table with
  | nil => exact .inl member
  | cons symbol symbols induction =>
      rcases @induction (table.add symbol) member with earlier | later
      · rcases mem_intern earlier with here | rfl
        · exact .inl here
        · exact .inr List.mem_cons_self
      · exact .inr (List.mem_cons_of_mem _ later)

theorem prefix_addAll (table : SymbolTable) (symbols : List Symbol) :
    table.symbols <+: (table.addAll symbols).symbols := by
  induction symbols generalizing table with
  | nil => exact List.prefix_refl _
  | cons symbol symbols induction =>
      exact (table.prefix_intern symbol).trans (induction (table.add symbol))

/-- What has been added has its name in the table. -/
theorem name_mem_addAll (table : SymbolTable) {symbols : List Symbol} {symbol : Symbol}
    (member : symbol ∈ symbols) :
    symbol.name ∈ (table.addAll symbols).symbols.map Symbol.name := by
  induction symbols generalizing table with
  | nil => exact absurd member List.not_mem_nil
  | cons first symbols induction =>
      rcases List.mem_cons.1 member with rfl | later
      · obtain ⟨entry, found, same, -⟩ := table.get?_intern symbol
        have kept := get?_of_prefix (prefix_addAll (table.add symbol) symbols) found
        exact same ▸ List.mem_map_of_mem (List.mem_of_getElem? kept)
      · exact induction (table.add first) later

/-- Names stay different. -/
theorem nodup_addAll (distinct : (table.symbols.map Symbol.name).Nodup) (symbols : List Symbol) :
    ((table.addAll symbols).symbols.map Symbol.name).Nodup := by
  induction symbols generalizing table with
  | nil => exact distinct
  | cons symbol symbols induction =>
      refine @induction (table.add symbol) ?_
      by_cases known : symbol.name ∈ table.symbols.map Symbol.name
      · rw [add_of_mem known]
        exact distinct
      · rw [symbols_add_of_notMem known, List.map_append]
        refine List.nodup_append.2
          ⟨distinct, List.pairwise_singleton _ _, fun name member other last => ?_⟩
        rintro rfl
        exact known (List.mem_singleton.1 last ▸ member)

/-- If a key tells symbols apart as their names do, a table that started empty has the keys of the
symbols that were added, each where it was first met. -/
theorem map_addAll_empty {κ : Type} [BEq κ] [LawfulBEq κ] (key : Symbol → κ)
    {symbols : List Symbol}
    (same : ∀ left ∈ symbols, ∀ right ∈ symbols, key left = key right ↔ left.name = right.name) :
    (empty.addAll symbols).symbols.map key = (symbols.map key).eraseDups := by
  induction symbols using List.reverseRecOn with
  | nil => rfl
  | append_singleton symbols symbol induction =>
      have earlier : (empty.addAll symbols).symbols.map key = (symbols.map key).eraseDups :=
        induction fun left first right second => same left (List.mem_append_left _ first) right
          (List.mem_append_left _ second)
      have known : symbol.name ∈ (empty.addAll symbols).symbols.map Symbol.name ↔
          key symbol ∈ symbols.map key := by
        rw [← List.mem_eraseDups (l := symbols.map key), ← earlier, List.mem_map, List.mem_map]
        refine exists_congr fun entry => and_congr_right fun member =>
          (same entry ?_ symbol ?_).symm
        · rcases mem_addAll member with none | member
          · exact absurd none List.not_mem_nil
          · exact List.mem_append_left _ member
        · exact List.mem_append_right _ List.mem_cons_self
      rw [addAll_concat, List.map_append, List.eraseDups_append, ← earlier]
      by_cases met : key symbol ∈ symbols.map key
      · rw [add_of_mem (known.2 met)]
        simp [List.removeAll, List.mem_map.1 met]
      · rw [symbols_add_of_notMem (mt known.1 met)]
        simp [List.removeAll, met, List.eraseDups_cons]

/-- A symbol of a table that started empty is the first one of its name that was added. -/
theorem exists_first_of_mem_addAll {symbols : List Symbol} {entry : Symbol}
    (member : entry ∈ (empty.addAll symbols).symbols) :
    ∃ before after, symbols = before ++ entry :: after ∧
      entry.name ∉ before.map Symbol.name := by
  induction symbols using List.reverseRecOn with
  | nil => exact absurd member List.not_mem_nil
  | append_singleton symbols symbol induction =>
      have names : ∀ name, name ∈ (empty.addAll symbols).symbols.map Symbol.name ↔
          name ∈ symbols.map Symbol.name := fun name => by
        rw [map_addAll_empty Symbol.name fun _ _ _ _ => Iff.rfl, List.mem_eraseDups]
      rw [addAll_concat] at member
      by_cases known : symbol.name ∈ (empty.addAll symbols).symbols.map Symbol.name
      · rw [add_of_mem known] at member
        obtain ⟨before, after, rfl, new⟩ := induction member
        exact ⟨before, after ++ [symbol], by simp, new⟩
      · rw [symbols_add_of_notMem known, List.mem_append, List.mem_singleton] at member
        rcases member with earlier | rfl
        · obtain ⟨before, after, rfl, new⟩ := induction earlier
          exact ⟨before, after ++ [symbol], by simp, new⟩
        · exact ⟨symbols, [], rfl, mt (names _).2 known⟩

end StackScript.SymbolTable
