import StackScript.Proofs.Phrase.Renaming
import StackScript.Proofs.Tree.Growth

/-!
# Drafting renamed phrases

Renamed phrases have syntax trees that differ in their lines only. A name is entered where its new
one is, since different names stay different and no name is that of a constant. The same checks
fail, in the same order and on the same types.
-/

namespace StackScript

variable {renames : Renaming}

/-! ## Symbols -/

theorem Symbol.Renamed.lawful {symbol symbol' : Symbol} (renamed : symbol.Renamed renames symbol') :
    symbol.Lawful ∧ symbol'.Lawful := by
  cases renamed with
  | @identifier name known line line' =>
      obtain ⟨⟨c, first, begins⟩, ⟨c', first', begins'⟩⟩ := renames.isName name known
      exact ⟨.identifier line first begins, .identifier line' first' begins'⟩
  | string text line line' => exact ⟨.string text line, .string text line'⟩
  | integer value line line' => exact ⟨.integer value line, .integer value line'⟩

theorem Symbol.Renamed.content_eq {symbol symbol' : Symbol}
    (renamed : symbol.Renamed renames symbol') : symbol.content = symbol'.content := by
  cases renamed <;> rfl

/-- Renamed symbols have one name exactly if the symbols have. -/
theorem Symbol.Renamed.name_eq_iff {entry entry' symbol symbol' : Symbol}
    (entries : entry.Renamed renames entry') (symbols : symbol.Renamed renames symbol') :
    entry.name = symbol.name ↔ entry'.name = symbol'.name := by
  -- The first characters of names tell the kinds of symbols apart, whatever variables are called.
  have apart (differs : ¬ entry.content.Alike symbol.content) :
      entry.name = symbol.name ↔ entry'.name = symbol'.name := by
    refine iff_of_false (fun same => differs ?_) (fun same => differs ?_)
    · exact entries.lawful.1.alike symbols.lawful.1 same
    · rw [entries.content_eq, symbols.content_eq]
      exact entries.lawful.2.alike symbols.lawful.2 same
  cases entries with
  | identifier known line line' =>
      cases symbols with
      | identifier known' line line' => exact (renames.injective.eq_iff known known').symm
      | string text line line' => exact apart id
      | integer value line line' => exact apart id
  | string text line line' =>
      cases symbols with
      | identifier known' line line' => exact apart id
      | string text line line' => exact Iff.rfl
      | integer value line line' => exact apart id
  | integer value line line' =>
      cases symbols with
      | identifier known' line line' => exact apart id
      | string text line line' => exact apart id
      | integer value line line' => exact Iff.rfl

/-- As many symbols, one by one renamed. -/
def SymbolTable.Renamed (renames : Renaming) (left right : SymbolTable) : Prop :=
  List.Forall₂ (Symbol.Renamed renames) left.symbols right.symbols

namespace SymbolTable.Renamed

variable {left right : SymbolTable} {symbol symbol' : Symbol}

theorem indexOf?_eq (tables : left.Renamed renames right)
    (symbols : symbol.Renamed renames symbol') :
    left.indexOf? symbol.name = right.indexOf? symbol'.name := by
  unfold indexOf?
  obtain ⟨entries⟩ := left
  obtain ⟨entries'⟩ := right
  change List.Forall₂ _ entries entries' at tables
  induction tables with
  | nil => rfl
  | cons first others induction =>
      have same := first.name_eq_iff symbols
      simp only [List.findIdx?_cons, same, induction]

/-- A renamed symbol gets the number that the symbol gets. -/
theorem intern (tables : left.Renamed renames right) (symbols : symbol.Renamed renames symbol') :
    (left.intern symbol).1.Renamed renames (right.intern symbol').1 ∧
      (left.intern symbol).2 = (right.intern symbol').2 := by
  have sizes : left.size = right.size := List.Forall₂.length_eq tables
  have same := tables.indexOf?_eq symbols
  unfold SymbolTable.intern
  rw [← same]
  cases left.indexOf? symbol.name with
  | some id => exact ⟨tables, rfl⟩
  | none => exact ⟨List.rel_append tables (.cons symbols .nil), sizes⟩

end SymbolTable.Renamed

/-! ## Nodes and diagnostics -/

/-- A node without its line. -/
def Node.outline (node : Node) : Form × Ty :=
  (node.form, node.type)

/-- A diagnostic without its line, and without the wording of a fault of the grammar. -/
def Diagnostic.outline (diagnostic : Diagnostic) : Problem :=
  match diagnostic.problem with
  | .malformed _ => .malformed ""
  | problem => problem

/-- Renamed symbols, the same nodes but for their lines, and the same diagnostics but for lines and
wordings. -/
structure Draft.Renamed (renames : Renaming) (left right : Draft) : Prop where
  symbols : left.symbols.Renamed renames right.symbols
  nodes : left.tree.nodes.map Node.outline = right.tree.nodes.map Node.outline
  problems : left.diagnostics.map Diagnostic.outline = right.diagnostics.map Diagnostic.outline

/-- Renamed drafts, answered together with the same. -/
def Draft.Agree {α : Type} (renames : Renaming) (first second : Draft × α) : Prop :=
  first.1.Renamed renames second.1 ∧ first.2 = second.2

namespace Draft.Renamed

variable {left right : Draft}

theorem size_eq (renamed : left.Renamed renames right) : left.tree.size = right.tree.size := by
  have sizes := congrArg Array.size renamed.nodes
  rwa [Array.size_map, Array.size_map] at sizes

theorem form_eq (renamed : left.Renamed renames right) (id : NodeId) :
    (left.tree.get? id).map Node.form = (right.tree.get? id).map Node.form := by
  have outline (tree : Tree) : (tree.get? id).map Node.form =
      (tree.nodes.map Node.outline)[id]?.map Prod.fst := by
    rw [Array.getElem?_map, Option.map_map]
    rfl
  rw [outline, outline, renamed.nodes]

theorem typeOf_eq (renamed : left.Renamed renames right) (id : NodeId) :
    left.tree.typeOf id = right.tree.typeOf id := by
  have outline (tree : Tree) : (tree.get? id).map Node.type =
      (tree.nodes.map Node.outline)[id]?.map Prod.snd := by
    rw [Array.getElem?_map, Option.map_map]
    rfl
  rw [Tree.typeOf, Tree.typeOf, outline, outline, renamed.nodes]

theorem report (renamed : left.Renamed renames right) (line line' : Nat)
    {problem problem' : Problem}
    (same : Diagnostic.outline ⟨line, problem⟩ = Diagnostic.outline ⟨line', problem'⟩) :
    (left.report line problem).Renamed renames (right.report line' problem') where
  symbols := renamed.symbols
  nodes := renamed.nodes
  problems := by
    simp only [Draft.report, Array.map_push, renamed.problems, same]

theorem intern (renamed : left.Renamed renames right) {symbol symbol' : Symbol}
    (symbols : symbol.Renamed renames symbol') :
    Agree renames (left.intern symbol) (right.intern symbol') := by
  obtain ⟨tables, ids⟩ := renamed.symbols.intern symbols
  exact ⟨⟨tables, renamed.nodes, renamed.problems⟩, ids⟩

theorem push (renamed : left.Renamed renames right) (form : Form) (type : Ty) (line line' : Nat) :
    Agree renames (left.push form type line) (right.push form type line') := by
  refine ⟨⟨renamed.symbols, ?_, renamed.problems⟩, renamed.size_eq⟩
  simp only [Draft.push, Tree.push, Array.map_push, renamed.nodes, Node.outline]

theorem checkCondition (renamed : left.Renamed renames right) (line line' : Nat)
    (condition : NodeId) :
    (left.checkCondition line condition).Renamed renames
      (right.checkCondition line' condition) := by
  simp only [Draft.checkCondition, renamed.typeOf_eq]
  split
  · exact renamed
  · exact renamed.report line line' rfl

theorem ifThen (renamed : left.Renamed renames right) (line line' : Nat)
    (condition body : NodeId) :
    Agree renames (left.ifThen line condition body) (right.ifThen line' condition body) :=
  (renamed.checkCondition line line' condition).push _ _ line line'

theorem ifElse (renamed : left.Renamed renames right) (line line' : Nat)
    (condition body otherwise : NodeId) :
    Agree renames (left.ifElse line condition body otherwise)
      (right.ifElse line' condition body otherwise) :=
  (renamed.checkCondition line line' condition).push _ _ line line'

/-- Nodes are folded into sequences alike. -/
theorem agree_fold {first second : Draft × NodeId}
    (agree : Agree renames first second) (line line' : Nat) (rest : List NodeId) :
    Agree renames
      (rest.foldl (fun (draft, folded) next => draft.sequence line folded next) first)
      (rest.foldl (fun (draft, folded) next => draft.sequence line' folded next) second) := by
  induction rest generalizing first second with
  | nil => exact agree
  | cons next rest induction =>
      obtain ⟨left, folded⟩ := first
      obtain ⟨right, folded'⟩ := second
      obtain ⟨renamed, rfl⟩ := agree
      exact induction (Draft.Renamed.push renamed _ _ line line')

theorem block (renamed : left.Renamed renames right) (line line' : Nat) (ids : List NodeId) :
    Agree renames (left.block line ids) (right.block line' ids) := by
  cases ids with
  | nil => exact renamed.push _ _ line line'
  | cons first rest =>
      have begun : Agree renames (left, first) (right, first) := ⟨renamed, rfl⟩
      exact agree_fold begun line line' rest

theorem equals (renamed : left.Renamed renames right) (line line' : Nat) (first second : NodeId) :
    Agree renames (left.equals line first second) (right.equals line' first second) := by
  simp only [Draft.equals, renamed.typeOf_eq]
  split
  · exact renamed.push _ _ line line'
  · exact (renamed.report line line' rfl).push _ _ line line'

theorem assign (renamed : left.Renamed renames right) (line line' : Nat) (target : SymbolId)
    (value : NodeId) :
    Agree renames (left.assign line target value) (right.assign line' target value) := by
  rw [Draft.assign, Draft.assign, renamed.typeOf_eq]
  exact renamed.push _ _ line line'

theorem coerce (renamed : left.Renamed renames right) (line line' : Nat) (operand : NodeId)
    (coercion : Coercion) :
    Agree renames (left.coerce line operand coercion) (right.coerce line' operand coercion) := by
  cases coercion <;> exact renamed.push _ _ line line'

theorem add (renamed : left.Renamed renames right) (line line' : Nat) (first second : NodeId) :
    Agree renames (left.add line first second) (right.add line' first second) := by
  simp only [Draft.add, renamed.typeOf_eq]
  cases converted : Coercion.forAddend (right.tree.typeOf first) (right.tree.typeOf second) with
  | error problem => exact (renamed.report line line' rfl).push _ _ line line'
  | ok coercion =>
      cases coercion with
      | none => exact renamed.push _ _ line line'
      | some coercion =>
          obtain ⟨coerced, ids⟩ := renamed.coerce line line' second coercion
          simp only [ids]
          exact coerced.push _ _ line line'

theorem giveUp (renamed : left.Renamed renames right) (error error' : GrammarError)
    (line line' : Nat) : Agree renames (left.giveUp error line) (right.giveUp error' line') := by
  have same : Diagnostic.outline ⟨error.line, .malformed error.fault.message⟩ =
      Diagnostic.outline ⟨error'.line, .malformed error'.fault.message⟩ := rfl
  exact (renamed.report error.line error'.line same).push _ _ line line'

end Draft.Renamed

/-! ## Phrases -/

open Draft (Agree)

variable {left right : Draft}

theorem Expression.agree_draftAtom {symbol symbol' : Symbol}
    (mentions : symbol.Renamed renames symbol') (renamed : left.Renamed renames right)
    (line line' : Nat) :
    Agree renames (draftAtom left symbol line) (draftAtom right symbol' line') := by
  obtain ⟨interned, ids⟩ := renamed.intern mentions
  simp only [draftAtom, mentions.content_eq, ids]
  split <;> exact interned.push _ _ line line'

theorem Expression.Renamed.agree_draft {expression expression' : Expression}
    (phrases : expression.Renamed renames expression') (renamed : left.Renamed renames right) :
    Agree renames (expression.draft left) (expression'.draft right) := by
  induction phrases generalizing left right with
  | atom mentions line line' => exact Expression.agree_draftAtom mentions renamed line line'
  | assign stores _ line line' induction =>
      obtain ⟨interned, symbols⟩ := renamed.intern stores
      obtain ⟨drafted, ids⟩ := induction interned
      simp only [Expression.draft, symbols, ids]
      exact drafted.assign line line' _ _
  | equals _ _ line line' inductionLeft inductionRight =>
      obtain ⟨drafted, lefts⟩ := inductionLeft renamed
      obtain ⟨drafted', rights⟩ := inductionRight drafted
      simp only [Expression.draft, lefts, rights]
      exact drafted'.equals line line' _ _
  | add _ _ line line' inductionLeft inductionRight =>
      obtain ⟨drafted, lefts⟩ := inductionLeft renamed
      obtain ⟨drafted', rights⟩ := inductionRight drafted
      simp only [Expression.draft, lefts, rights]
      exact drafted'.add line line' _ _

theorem Fragment.Renamed.renamed_draft {fragment fragment' : Fragment}
    (phrases : fragment.Renamed renames fragment') (renamed : left.Renamed renames right) :
    (fragment.draft left).Renamed renames (fragment'.draft right) := by
  cases phrases with
  | target mentions => exact (renamed.intern mentions).1
  | expression values => exact (values.agree_draft renamed).1

theorem Fragment.renamed_foldl {fragments fragments' : List Fragment}
    (kept : List.Forall₂ (Fragment.Renamed renames) fragments fragments')
    (renamed : left.Renamed renames right) :
    (fragments.foldl Fragment.draft left).Renamed renames
      (fragments'.foldl Fragment.draft right) := by
  induction kept generalizing left right with
  | nil => exact renamed
  | cons first _ induction => exact induction (first.renamed_draft renamed)

namespace Statement

mutual

theorem Renamed.agree_draft {statement statement' : Statement} {left right : Draft}
    (phrases : statement.Renamed renames statement') (renamed : left.Renamed renames right) :
    Agree renames (statement.draft left) (statement'.draft right) := by
  cases phrases with
  | empty line line' => exact renamed.push _ _ line line'
  | evaluate values line line' =>
      obtain ⟨drafted, ids⟩ := values.agree_draft renamed
      simp only [Statement.draft, ids]
      exact drafted.push _ _ line line'
  | print values line line' =>
      obtain ⟨drafted, ids⟩ := values.agree_draft renamed
      simp only [Statement.draft, ids]
      exact drafted.push _ _ line line'
  | input stores line line' =>
      obtain ⟨interned, symbols⟩ := renamed.intern stores
      simp only [Statement.draft, symbols]
      exact interned.push _ _ line line'
  | ifThen decides bodies line line' =>
      obtain ⟨decided, conditions⟩ := decides.agree_draft renamed
      obtain ⟨drafted, ids⟩ := bodies.agree_draft decided
      simp only [Statement.draft, conditions, ids]
      exact drafted.ifThen line line' _ _
  | ifElse decides bodies others line line' =>
      obtain ⟨decided, conditions⟩ := decides.agree_draft renamed
      obtain ⟨drafted, ids⟩ := bodies.agree_draft decided
      obtain ⟨drafted', ids'⟩ := others.agree_draft drafted
      simp only [Statement.draft, conditions, ids, ids']
      exact drafted'.ifElse line line' _ _ _
  | block all line line' =>
      obtain ⟨drafted, ids⟩ := all.agree_draftAll renamed
      simp only [Statement.draft, ids]
      exact drafted.block line line' _
  | broken kept error error' line line' =>
      simp only [Statement.draft]
      exact (Fragment.renamed_foldl kept renamed).giveUp error error' line line'
  | unclosed all error error' line line' =>
      simp only [Statement.draft]
      exact (all.agree_draftAll renamed).1.giveUp error error' line line'

theorem AllRenamed.agree_draftAll {statements statements' : List Statement} {left right : Draft}
    (phrases : AllRenamed renames statements statements') (renamed : left.Renamed renames right) :
    Agree renames (draftAll left statements) (draftAll right statements') := by
  cases phrases with
  | nil => exact ⟨renamed, rfl⟩
  | cons firsts rests =>
      obtain ⟨drafted, ids⟩ := firsts.agree_draft renamed
      obtain ⟨drafted', others⟩ := rests.agree_draftAll drafted
      simp only [draftAll, ids, others]
      exact ⟨drafted', rfl⟩

end

end Statement

theorem Draft.renamed_empty : Draft.empty.Renamed renames .empty :=
  ⟨.nil, rfl, rfl⟩

/-- Alike tokens have syntax trees, symbols and diagnostics that agree. -/
theorem Script.agree_draft {tokens others : List PlacedToken}
    (alike : renames.Alike tokens others) :
    Agree renames (ofTokens tokens).draft (ofTokens others).draft := by
  obtain ⟨drafted, ids⟩ := (renamed_ofTokens alike).agree_draftAll Draft.renamed_empty
  simp only [draft, ids]
  exact drafted.block _ _ _

end StackScript
