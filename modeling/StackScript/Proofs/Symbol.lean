import StackScript.Symbol
import StackScript.Ty

/-!
# Growing symbol tables

Symbols are only ever added at the end of a table, so the number of a symbol goes on standing for
it. What a symbol stands for has a static type.
-/

namespace StackScript

/-- The type of a copy of a symbol's cell. -/
def Content.type : Content → Ty
  | identifier | string _ => .string
  | integer _ => .integer

namespace SymbolTable

/-- What the symbol of a number stands for. -/
def content? (table : SymbolTable) (id : SymbolId) : Option Content :=
  (table.get? id).map Symbol.content

variable {table later : SymbolTable} {id : SymbolId}

/-- A table has what an earlier one had. -/
theorem get?_of_prefix (grown : table.symbols <+: later.symbols) {symbol : Symbol}
    (found : table.get? id = some symbol) : later.get? id = some symbol := by
  obtain ⟨more, shape⟩ := grown
  have inside : id < table.symbols.length := (List.getElem?_eq_some_iff.1 found).1
  rw [get?, ← shape, List.getElem?_append_left inside]
  exact found

theorem content?_of_prefix (grown : table.symbols <+: later.symbols) {content : Content}
    (found : table.content? id = some content) : later.content? id = some content := by
  obtain ⟨symbol, there, rfl⟩ := Option.map_eq_some_iff.1 found
  rw [content?, get?_of_prefix grown there, Option.map_some]

/-- A symbol that stands for something has a number below the size of its table. -/
theorem lt_size_of_content? {content : Content} (found : table.content? id = some content) :
    id < table.size := by
  obtain ⟨symbol, there, -⟩ := Option.map_eq_some_iff.1 found
  exact (List.getElem?_eq_some_iff.1 there).1

theorem prefix_intern (table : SymbolTable) (symbol : Symbol) :
    table.symbols <+: (table.intern symbol).1.symbols := by
  unfold intern
  split
  · exact List.prefix_refl _
  · exact List.prefix_append _ _

/-- The number that interning answers is that of a symbol of the same name. -/
theorem get?_intern (table : SymbolTable) (symbol : Symbol) :
    ∃ entry, (table.intern symbol).1.get? (table.intern symbol).2 = some entry ∧
      entry.name = symbol.name ∧ (entry ∈ table.symbols ∨ entry = symbol) := by
  unfold intern
  split
  next id known =>
    obtain ⟨inside, same, -⟩ := List.findIdx?_eq_some_iff_getElem.1 known
    refine ⟨table.symbols[id], List.getElem?_eq_getElem inside, by simpa using same, ?_⟩
    exact .inl (List.getElem_mem inside)
  next =>
    refine ⟨symbol, ?_, rfl, .inr rfl⟩
    simp [get?, size]

/-- Interning adds no other symbol than the one that is interned. -/
theorem mem_intern {symbol entry : Symbol} (member : entry ∈ (table.intern symbol).1.symbols) :
    entry ∈ table.symbols ∨ entry = symbol := by
  unfold intern at member
  split at member
  · exact .inl member
  · simpa using member

end SymbolTable

end StackScript
