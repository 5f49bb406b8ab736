import StackScript.Proofs.Compilation.Grammar
import StackScript.Proofs.Grammar.Numbering
import StackScript.Proofs.Phrase.Resumption

/-!
# Scripts with a fault

A clause between statements that is none itself costs a script one fault and one statement. The
statements around it have the trees that they have without it.
-/

namespace StackScript

/-! ## Errors in terms -/

/-- The number of error statements in a term. -/
def Term.errors : Term → Nat
  | error => 1
  | sequence first second => first.errors + second.errors
  | evaluate value | print value | assign _ value => value.errors
  | ifThen condition body => condition.errors + body.errors
  | ifElse condition body otherwise => condition.errors + body.errors + otherwise.errors
  | equals left right | add left right => left.errors + right.errors
  | coerceToString operand | coerceToInteger operand => operand.errors
  | empty | input _ | identifier _ | stringConstant _ | integerConstant _ => 0

theorem Term.errors_addend (left : Ty) (right : Term) :
    (addend left right).errors = right.errors := by
  unfold addend
  split
  next coercion _ => cases coercion <;> rfl
  · rfl
  · rfl

theorem Expression.errors_term (expression : Expression) (ids : String → SymbolId) :
    (expression.term ids).errors = 0 := by
  induction expression with
  | atom symbol line =>
      simp only [term]
      split <;> rfl
  | assign target value line induction => exact induction
  | equals left right line inductionLeft inductionRight =>
      rw [term, Term.errors, inductionLeft, inductionRight]
  | add left right line inductionLeft inductionRight =>
      rw [term, Term.errors, Term.errors_addend, inductionLeft, inductionRight]

namespace Statement

theorem GivenUp.errors_term {statement : Statement} (givenUp : statement.GivenUp)
    (ids : String → SymbolId) : (statement.term ids).errors = 1 := by
  induction givenUp with
  | broken fragments error line => rfl
  | ifThen condition line runs induction =>
      rw [term, Term.errors, condition.errors_term, induction]

theorem GivenUp.faults_eq {statement : Statement} (givenUp : statement.GivenUp) :
    statement.faults = 1 := by
  induction givenUp with
  | broken fragments error line => rfl
  | ifThen condition line runs induction => exact induction

/-! ## Statements in turn -/

theorem terms_append (ids : String → SymbolId) (front back : List Statement) :
    terms ids (front ++ back) = terms ids front ++ terms ids back := by
  induction front with
  | nil => rfl
  | cons first front induction => rw [List.cons_append, terms, terms, induction, List.cons_append]

theorem allMentions_append (front back : List Statement) :
    allMentions (front ++ back) = allMentions front ++ allMentions back := by
  induction front with
  | nil => rfl
  | cons first front induction =>
      rw [List.cons_append, allMentions, allMentions, induction, List.append_assoc]

theorem allFaults_append (front back : List Statement) :
    allFaults (front ++ back) = allFaults front + allFaults back := by
  induction front with
  | nil => exact (Nat.zero_add _).symm
  | cons first front induction =>
      rw [List.cons_append, allFaults, allFaults, induction, Nat.add_assoc]

end Statement

/-- The topmost nodes of the statements of a script, in order. -/
def Script.topmost (script : Script) : List NodeId :=
  (Statement.draftAll .empty script.statements).2

namespace Compilation

/-- The topmost nodes stand for the terms of the statements. -/
theorem map_term_topmost (tokens : List PlacedToken) :
    (Script.ofTokens tokens).topmost.map (ofTokens tokens).draft.tree.term =
      Statement.terms (ofTokens tokens).draft.symbols.idOf
        (Script.ofTokens tokens).statements := by
  have all := Statement.denoteAll_draftAll (Script.ofTokens tokens).statements .empty
  have grows := Draft.grows_block
    (Statement.draftAll .empty (Script.ofTokens tokens).statements).1
    (Script.ofTokens tokens).line (Script.ofTokens tokens).topmost
  refine Eq.trans ?_ (all.terms _ grows.symbols)
  exact List.map_congr_left fun id member =>
    Tree.term_of_prefix grows.nodes id (all.inside id member)

/-- The term of a script is that of its statements in turn. -/
theorem term_eq_inTurn_topmost (tokens : List PlacedToken) :
    (ofTokens tokens).term =
      .inTurn ((Script.ofTokens tokens).topmost.map (ofTokens tokens).draft.tree.term) := by
  rw [map_term_topmost, term_ofTokens]

/-- The nodes of a script stand for the trees that those of another one stand for, but for the
numbers of symbols, which have the same names. -/
def SameTrees (compilation other : Compilation) (ids others : List NodeId) : Prop :=
  ∃ number : SymbolId → SymbolId,
    (∀ id symbol, compilation.draft.symbols.get? id = some symbol →
      ∃ entry, other.draft.symbols.get? (number id) = some entry ∧ entry.name = symbol.name) ∧
    others.map other.draft.tree.term =
      ids.map fun id => (compilation.draft.tree.term id).renumber number

/-- The table of a script has an entry for each name that its statements mention. -/
theorem exists_get?_symbols {tokens : List PlacedToken} {symbol : Symbol}
    (mentioned : symbol ∈ Statement.allMentions (Script.ofTokens tokens).statements) :
    ∃ entry, (ofTokens tokens).draft.symbols.get?
        ((ofTokens tokens).draft.symbols.idOf symbol.name) = some entry ∧
      entry.name = symbol.name := by
  rw [symbols_ofTokens]
  obtain ⟨entry, -, found, same⟩ :=
    SymbolTable.exists_get?_idOf (SymbolTable.name_mem_addAll .empty mentioned)
  exact ⟨entry, found, same⟩

theorem mentioned_of_get?_symbols {tokens : List PlacedToken} {id : SymbolId} {symbol : Symbol}
    (found : (ofTokens tokens).draft.symbols.get? id = some symbol) :
    symbol ∈ Statement.allMentions (Script.ofTokens tokens).statements := by
  have member := List.mem_of_getElem? found
  rw [symbols_ofTokens] at member
  exact (SymbolTable.mem_addAll member).resolve_left List.not_mem_nil

/-- The number that the name of a symbol has in another table. -/
def renumbering (compilation other : Compilation) (id : SymbolId) : SymbolId :=
  other.draft.symbols.idOf ((compilation.draft.symbols.get? id).elim "" Symbol.name)

theorem renumbering_of_get? {compilation other : Compilation} {id : SymbolId} {symbol : Symbol}
    (found : compilation.draft.symbols.get? id = some symbol) :
    compilation.renumbering other id = other.draft.symbols.idOf symbol.name := by
  rw [renumbering, found, Option.elim_some]

/-- Statements that show the trees of a script have the trees of its nodes, wherever they stand. -/
theorem sameTrees {tokens others : List PlacedToken} {statements : List Statement}
    {trees : List Grammar.Statement} {ids : List NodeId}
    (alone : Statement.ShowAll (Script.ofTokens tokens).statements trees)
    (show' : Statement.ShowAll statements trees)
    (among : Statement.allMentions statements ⊆
      Statement.allMentions (Script.ofTokens others).statements)
    (there : ids.map (ofTokens others).draft.tree.term =
      Statement.terms (ofTokens others).draft.symbols.idOf statements) :
    SameTrees (ofTokens tokens) (ofTokens others) (Script.ofTokens tokens).topmost ids := by
  obtain ⟨names, terms⟩ := alone.same show'
  refine ⟨(ofTokens tokens).renumbering (ofTokens others), fun id symbol found => ?_, ?_⟩
  · have named : symbol.name ∈ (Statement.allMentions statements).map Symbol.name :=
      names ▸ List.mem_map_of_mem (mentioned_of_get?_symbols found)
    obtain ⟨mention, member, same⟩ := List.mem_map.1 named
    obtain ⟨entry, found', same'⟩ := exists_get?_symbols (among member)
    rw [renumbering_of_get? found, ← same]
    exact ⟨entry, found', same'⟩
  · have renumbered (symbol : Symbol)
        (member : symbol ∈ Statement.allMentions (Script.ofTokens tokens).statements) :
        (ofTokens tokens).renumbering (ofTokens others)
            ((ofTokens tokens).draft.symbols.idOf symbol.name) =
          (ofTokens others).draft.symbols.idOf symbol.name := by
      obtain ⟨entry, found, same⟩ := exists_get?_symbols member
      rw [renumbering_of_get? found, same]
    rw [there, ← terms, ← Statement.renumber_terms renumbered, ← map_term_topmost, List.map_map]
    rfl

/-- If a clause that is no statement and begins with no `else` stands between two scripts that
derive from the grammar, one fault of the grammar is recorded. The statements at the top level are
those of the first script, then one with a single error statement in it, then those of the second
script, and the statements around the faulty one have the trees that they have in scripts of their
own. -/
theorem resumes_behind_clause {front clause back : List PlacedToken}
    (before : ∃ trees, Grammar.Statement.DeriveAll (front.map PlacedToken.token) trees)
    (isClause : Token.IsClause (clause.map PlacedToken.token))
    (begins : (clause.map PlacedToken.token).head? ≠ some .elseKeyword)
    (wrong : ∀ tree, ¬Grammar.Statement.Derives (clause.map PlacedToken.token) tree)
    (behind : ∃ trees, Grammar.Statement.DeriveAll (back.map PlacedToken.token) trees)
    (position : Position) :
    let tokens := front ++ clause ++ back ++ [⟨.endOfFile, position⟩]
    (ofTokens tokens).draft.faults = 1 ∧
      (ofTokens tokens).term =
        .inTurn ((Script.ofTokens tokens).topmost.map (ofTokens tokens).draft.tree.term) ∧
      ∃ ids faulty others, (Script.ofTokens tokens).topmost = ids ++ faulty :: others ∧
        ((ofTokens tokens).draft.tree.term faulty).errors = 1 ∧
        ∀ last : Position,
          SameTrees (ofTokens (front ++ [⟨.endOfFile, last⟩])) (ofTokens tokens)
              (Script.ofTokens (front ++ [⟨.endOfFile, last⟩])).topmost ids ∧
            SameTrees (ofTokens (back ++ [⟨.endOfFile, last⟩])) (ofTokens tokens)
              (Script.ofTokens (back ++ [⟨.endOfFile, last⟩])).topmost others := by
  intro tokens
  obtain ⟨_, before⟩ := before
  obtain ⟨_, behind⟩ := behind
  obtain ⟨treesBefore, before, nearestBefore⟩ := before.nearest
  obtain ⟨treesBehind, behind, nearestBehind⟩ := behind.nearest
  obtain ⟨statements, faulty, others, shape, showBefore, givenUp, showBehind⟩ :=
    Script.exists_givenUp before nearestBefore isClause begins wrong behind nearestBehind position
  have mentions : Statement.allMentions (Script.ofTokens tokens).statements =
      Statement.allMentions statements ++ (faulty.mentions ++ Statement.allMentions others) := by
    rw [shape, Statement.allMentions_append, Statement.allMentions]
  have terms := map_term_topmost tokens
  rw [shape, Statement.terms_append, Statement.terms, List.map_eq_append_iff] at terms
  obtain ⟨ids, rest, whole, first, later⟩ := terms
  obtain ⟨id, others', rfl, error, last⟩ := List.map_eq_cons_iff.1 later
  refine ⟨?_, term_eq_inTurn_topmost tokens, ids, id, others', whole, ?_, fun position => ⟨?_, ?_⟩⟩
  · rw [faults_ofTokens, shape, Statement.allFaults_append, Statement.allFaults,
      (Statement.areWhole_iff _).1 showBefore.areWhole, givenUp.faults_eq,
      (Statement.areWhole_iff _).1 showBehind.areWhole]
  · rw [error, givenUp.errors_term]
  · exact sameTrees (Script.showAll_of_derive before nearestBefore position) showBefore
      (mentions ▸ List.subset_append_left _ _) first
  · refine sameTrees (Script.showAll_of_derive behind nearestBehind position) showBehind ?_ last
    rw [mentions]
    exact fun _ member => List.mem_append_right _ (List.mem_append_right _ member)

/-- A conditional that an `else` could follow. -/
def openConditional : List PlacedToken :=
  [.ifKeyword, .leftParen, .identifier "a", .equal, .string "x", .rightParen, .printKeyword,
    .identifier "a", .semicolon].map (PlacedToken.mk · .start)

/-- A conditional that prints two values with no sign between them. -/
def missingSign : List PlacedToken :=
  [.ifKeyword, .leftParen, .identifier "b", .equal, .identifier "a", .rightParen, .printKeyword,
    .identifier "b", .identifier "c", .semicolon].map (PlacedToken.mk · .start)

/-- An assignment of a constant. -/
def assignment : List PlacedToken :=
  [.identifier "b", .assign, .integer 2, .semicolon].map (PlacedToken.mk · .start)

theorem resumes_behind_clause_missingSign :
    let tokens := openConditional ++ missingSign ++ assignment ++ [⟨.endOfFile, .start⟩]
    (ofTokens tokens).draft.faults = 1 ∧
      ∃ ids faulty others, (Script.ofTokens tokens).topmost = ids ++ faulty :: others ∧
        ((ofTokens tokens).draft.tree.term faulty).errors = 1 ∧
          SameTrees (ofTokens (assignment ++ [⟨.endOfFile, .start⟩])) (ofTokens tokens)
            (Script.ofTokens (assignment ++ [⟨.endOfFile, .start⟩])).topmost others := by
  have before :
      ∃ trees, Grammar.Statement.DeriveAll (openConditional.map PlacedToken.token) trees :=
    (Script.areWhole_iff_derive (by decide) .start).1 (by decide +kernel)
  have behind : ∃ trees, Grammar.Statement.DeriveAll (assignment.map PlacedToken.token) trees :=
    (Script.areWhole_iff_derive (by decide) .start).1 (by decide +kernel)
  have wrong (tree : Grammar.Statement) :
      ¬Grammar.Statement.Derives (missingSign.map PlacedToken.token) tree := fun derives => by
    have derive := Grammar.Statement.DeriveAll.cons derives .nil
    rw [List.append_nil] at derive
    have whole := (Script.areWhole_iff_derive (by decide) .start).2 ⟨_, derive⟩
    exact absurd whole (by decide +kernel)
  have isClause : Token.IsClause (missingSign.map PlacedToken.token) :=
    ⟨(missingSign.map PlacedToken.token).dropLast, rfl, by decide⟩
  obtain ⟨faults, -, ids, faulty, others, shape, errors, same⟩ :=
    resumes_behind_clause before isClause (by decide) wrong behind .start
  exact ⟨faults, ids, faulty, others, shape, errors, (same .start).2⟩

end Compilation

end StackScript
