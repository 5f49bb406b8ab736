import StackScript.Proofs.Grammar.Drafting

/-!
# Trees up to the numbers of symbols

Statements that show one tree mention the same names and have the same term, given the numbers of
these names. Other numbers make no other difference to the term.
-/

namespace StackScript

/-! ## Numbers -/

/-- A term with other numbers for its symbols. -/
def Term.renumber (number : SymbolId → SymbolId) : Term → Term
  | sequence first second => .sequence (first.renumber number) (second.renumber number)
  | empty => .empty
  | evaluate value => .evaluate (value.renumber number)
  | print value => .print (value.renumber number)
  | input target => .input (number target)
  | ifThen condition body => .ifThen (condition.renumber number) (body.renumber number)
  | ifElse condition body otherwise =>
      .ifElse (condition.renumber number) (body.renumber number) (otherwise.renumber number)
  | error => .error
  | equals left right => .equals (left.renumber number) (right.renumber number)
  | assign target value => .assign (number target) (value.renumber number)
  | add left right => .add (left.renumber number) (right.renumber number)
  | identifier symbol => .identifier (number symbol)
  | stringConstant symbol => .stringConstant (number symbol)
  | integerConstant symbol => .integerConstant (number symbol)
  | coerceToString operand => .coerceToString (operand.renumber number)
  | coerceToInteger operand => .coerceToInteger (operand.renumber number)

namespace Term

variable (number : SymbolId → SymbolId)

@[simp] theorem type_renumber (term : Term) : (term.renumber number).type = term.type := by
  induction term <;> simp_all [renumber, type]

theorem renumber_addend (left : Ty) (right : Term) :
    (addend left right).renumber number = addend left (right.renumber number) := by
  unfold addend
  rw [type_renumber]
  split
  next coercion _ => cases coercion <;> rfl
  · rfl
  · rfl

theorem renumber_inTurn (terms : List Term) :
    (inTurn terms).renumber number = inTurn (terms.map (renumber number)) := by
  cases terms with
  | nil => rfl
  | cons first rest =>
      rw [inTurn]
      induction rest generalizing first with
      | nil => rfl
      | cons next rest induction => exact induction _

end Term

section

variable {number : SymbolId → SymbolId} {ids others : String → SymbolId}

theorem Expression.renumber_term {expression : Expression}
    (same : ∀ symbol ∈ expression.mentions, number (ids symbol.name) = others symbol.name) :
    (expression.term ids).renumber number = expression.term others := by
  induction expression with
  | atom symbol line =>
      have found := same symbol (List.mem_singleton_self _)
      simp only [term]
      split <;> exact congrArg _ found
  | assign target value line induction =>
      obtain ⟨first, rest⟩ := List.forall_mem_cons.1 same
      rw [term, Term.renumber, first, induction rest, term]
  | equals left right line inductionLeft inductionRight =>
      obtain ⟨first, second⟩ := List.forall_mem_append.1 same
      rw [term, Term.renumber, inductionLeft first, inductionRight second, term]
  | add left right line inductionLeft inductionRight =>
      obtain ⟨first, second⟩ := List.forall_mem_append.1 same
      rw [term, Term.renumber, Term.renumber_addend, ← Term.type_renumber number (left.term ids),
        inductionLeft first, inductionRight second, term]

namespace Statement

mutual

/-- The term of a statement over other numbers is that over its own numbers, renumbered. -/
theorem renumber_term {statement : Statement}
    (same : ∀ symbol ∈ statement.mentions, number (ids symbol.name) = others symbol.name) :
    (statement.term ids).renumber number = statement.term others := by
  cases statement with
  | empty | broken | unclosed => rfl
  | evaluate value line | print value line => exact congrArg _ (Expression.renumber_term same)
  | input target line => exact congrArg _ (same target (List.mem_singleton_self _))
  | ifThen condition body line =>
      obtain ⟨first, second⟩ := List.forall_mem_append.1 same
      rw [term, Term.renumber, Expression.renumber_term first, renumber_term second, term]
  | ifElse condition body otherwise line =>
      obtain ⟨first, rest⟩ := List.forall_mem_append.1 same
      obtain ⟨second, third⟩ := List.forall_mem_append.1 rest
      rw [term, Term.renumber, Expression.renumber_term first, renumber_term second,
        renumber_term third, term]
  | block statements line => rw [term, Term.renumber_inTurn, renumber_terms same, term]

theorem renumber_terms {statements : List Statement}
    (same : ∀ symbol ∈ allMentions statements, number (ids symbol.name) = others symbol.name) :
    (terms ids statements).map (Term.renumber number) = terms others statements := by
  cases statements with
  | nil => rfl
  | cons first rest =>
      obtain ⟨front, back⟩ := List.forall_mem_append.1 same
      rw [terms, List.map_cons, renumber_term front, renumber_terms back, terms]

end

end Statement

end

/-! ## Trees -/

/-- Expressions that show one tree mention the same names and have the same terms. -/
theorem Expression.Shows.same {expression other : Expression} {tree : Grammar.Expression}
    (shows' : expression.Shows tree) (shows'' : other.Shows tree) :
    expression.mentions.map Symbol.name = other.mentions.map Symbol.name ∧
      ∀ ids, expression.term ids = other.term ids := by
  induction shows' generalizing other with
  | identifier | string | integer => cases shows''; exact ⟨rfl, fun _ => rfl⟩
  | assign name line place assigned induction =>
      cases shows'' with
      | assign _ _ _ assigned' =>
          obtain ⟨names, terms⟩ := induction assigned'
          simp only [mentions, List.map_cons, Symbol.identifier, names, term, terms, implies_true,
            and_self]
  | equals place front back inductionFront inductionBack =>
      cases shows'' with
      | equals _ front' back' =>
          obtain ⟨names, terms⟩ := inductionFront front'
          obtain ⟨names', terms'⟩ := inductionBack back'
          simp only [mentions, List.map_append, names, names', term, terms, terms', implies_true,
            and_self]
  | add place front back inductionFront inductionBack =>
      cases shows'' with
      | add _ front' back' =>
          obtain ⟨names, terms⟩ := inductionFront front'
          obtain ⟨names', terms'⟩ := inductionBack back'
          simp only [mentions, List.map_append, names, names', term, terms, terms', implies_true,
            and_self]

namespace Statement

mutual

/-- Statements that show one tree mention the same names and have the same terms. -/
theorem Shows.same {statement other : Statement} {tree : Grammar.Statement}
    (shows' : statement.Shows tree) (shows'' : other.Shows tree) :
    statement.mentions.map Symbol.name = other.mentions.map Symbol.name ∧
      ∀ ids, statement.term ids = other.term ids := by
  cases shows' with
  | empty line | input name line place => cases shows''; exact ⟨rfl, fun _ => rfl⟩
  | evaluate line evaluated =>
      cases shows'' with
      | evaluate _ evaluated' =>
          obtain ⟨names, terms⟩ := evaluated.same evaluated'
          exact ⟨names, fun ids => congrArg Term.evaluate (terms ids)⟩
  | print line printed =>
      cases shows'' with
      | print _ printed' =>
          obtain ⟨names, terms⟩ := printed.same printed'
          exact ⟨names, fun ids => congrArg Term.print (terms ids)⟩
  | ifThen line decided runs =>
      cases shows'' with
      | ifThen _ decided' runs' =>
          obtain ⟨names, terms⟩ := decided.same decided'
          obtain ⟨names', terms'⟩ := runs.same runs'
          simp only [mentions, List.map_append, names, names', term, terms, terms', implies_true,
            and_self]
  | ifElse line decided runs elses =>
      cases shows'' with
      | ifElse _ decided' runs' elses' =>
          obtain ⟨names, terms⟩ := decided.same decided'
          obtain ⟨names', terms'⟩ := runs.same runs'
          obtain ⟨names'', terms''⟩ := elses.same elses'
          simp only [mentions, List.map_append, names, names', names'', term, terms, terms',
            terms'', implies_true, and_self]
  | block line all =>
      cases shows'' with
      | block _ all' =>
          obtain ⟨names, terms⟩ := all.same all'
          exact ⟨names, fun ids => congrArg Term.inTurn (terms ids)⟩

theorem ShowAll.same {statements others : List Statement} {trees : List Grammar.Statement}
    (show' : ShowAll statements trees) (show'' : ShowAll others trees) :
    (allMentions statements).map Symbol.name = (allMentions others).map Symbol.name ∧
      ∀ ids, terms ids statements = terms ids others := by
  cases show' with
  | nil => cases show''; exact ⟨rfl, fun _ => rfl⟩
  | cons head tail =>
      cases show'' with
      | cons head' tail' =>
          obtain ⟨names, terms'⟩ := head.same head'
          obtain ⟨names', terms''⟩ := tail.same tail'
          simp only [allMentions, List.map_append, names, names', terms, terms', terms'',
            implies_true, and_self]

end

end Statement

end StackScript
