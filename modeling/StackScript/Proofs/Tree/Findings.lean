import StackScript.Proofs.Tree.Denotation

/-!
# The diagnostics of phrases

Which diagnostics are recorded when a phrase is drafted can be said by recursion on the phrase: the
operands and parts of it come first, then its own check, and the fault of a statement that was given
up comes behind what is left of the statement. The checks look at static types only, and these are
those of the phrases.
-/

namespace StackScript

/-! ## Types of expressions -/

/-- The static type of an expression. -/
def Expression.type : Expression → Ty
  | atom symbol _ => symbol.content.type
  | assign _ value _ => value.type
  | equals _ _ _ => .bool
  | add left _ _ => left.type.ofSum

theorem Expression.type_term (expression : Expression) (ids : String → SymbolId) :
    (expression.term ids).type = expression.type := by
  induction expression with
  | atom symbol line =>
      simp only [term, type]
      cases symbol.content <;> rfl
  | assign target value line induction => exact induction
  | equals left right line => rfl
  | add left right line induction => exact congrArg Ty.ofSum induction

/-- In whatever an expression's draft grows to, its node has the type of the expression. -/
theorem Expression.typeOf_draft (expression : Expression) {draft later : Draft}
    (grows : (expression.draft draft).1.Grows later) :
    later.tree.typeOf (expression.draft draft).2 = expression.type := by
  have denotes := (expression.denotes_draft draft).grows grows
  rw [denotes.recorded, denotes.term later.symbols (List.prefix_refl _), expression.type_term]

/-! ## Checks -/

namespace Diagnostic

/-- What is wrong with a condition of a type, if anything is. -/
def ofCondition (line : Nat) (found : Ty) : List Diagnostic :=
  if found = .bool then [] else [⟨line, .conditionNotBoolean found⟩]

/-- What is wrong with a comparison of values of two types, if anything is. -/
def ofComparison (line : Nat) (left right : Ty) : List Diagnostic :=
  if left = right then [] else [⟨line, .typesDiffer left right⟩]

/-- What is wrong with an addition of values of two types, if anything is. -/
def ofSum (line : Nat) (left right : Ty) : List Diagnostic :=
  match Coercion.forAddend left right with
  | .ok _ => []
  | .error problem => [⟨line, problem⟩]

/-- A fault of the grammar. -/
def ofError (error : GrammarError) : Diagnostic :=
  ⟨error.line, .malformed error.fault.message⟩

end Diagnostic

open Diagnostic

namespace Draft

theorem diagnostics_checkCondition (draft : Draft) (line : Nat) (condition : NodeId) :
    (draft.checkCondition line condition).diagnostics.toList =
      draft.diagnostics.toList ++ ofCondition line (draft.tree.typeOf condition) := by
  simp only [checkCondition, ofCondition]
  split
  · exact (List.append_nil _).symm
  · exact Array.toList_push

theorem diagnostics_equals (draft : Draft) (line : Nat) (left right : NodeId) :
    (draft.equals line left right).1.diagnostics.toList = draft.diagnostics.toList ++
      ofComparison line (draft.tree.typeOf left) (draft.tree.typeOf right) := by
  simp only [equals, ofComparison, push]
  split
  · exact (List.append_nil _).symm
  · exact Array.toList_push

theorem diagnostics_coerce (draft : Draft) (line : Nat) (operand : NodeId) (coercion : Coercion) :
    (draft.coerce line operand coercion).1.diagnostics = draft.diagnostics := by
  cases coercion <;> rfl

theorem diagnostics_add (draft : Draft) (line : Nat) (left right : NodeId) :
    (draft.add line left right).1.diagnostics.toList = draft.diagnostics.toList ++
      ofSum line (draft.tree.typeOf left) (draft.tree.typeOf right) := by
  simp only [add, ofSum]
  cases fits : Coercion.forAddend (draft.tree.typeOf left) (draft.tree.typeOf right) with
  | error problem => exact Array.toList_push
  | ok coercion =>
      rw [List.append_nil]
      cases coercion with
      | none => rfl
      | some coercion => exact congrArg Array.toList (draft.diagnostics_coerce line right coercion)

theorem diagnostics_block (draft : Draft) (line : Nat) (ids : List NodeId) :
    (draft.block line ids).1.diagnostics = draft.diagnostics := by
  cases ids with
  | nil => rfl
  | cons first rest =>
      rw [block]
      induction rest generalizing draft first with
      | nil => rfl
      | cons next rest induction => exact induction _ _

theorem diagnostics_giveUp (draft : Draft) (error : GrammarError) (line : Nat) :
    (draft.giveUp error line).1.diagnostics.toList =
      draft.diagnostics.toList ++ [ofError error] :=
  Array.toList_push

end Draft

/-! ## Phrases -/

/-- The diagnostics of an expression. -/
def Expression.findings : Expression → List Diagnostic
  | atom _ _ => []
  | assign _ value _ => value.findings
  | equals left right line =>
      left.findings ++ right.findings ++ ofComparison line left.type right.type
  | add left right line => left.findings ++ right.findings ++ ofSum line left.type right.type

/-- The diagnostics of a fragment. -/
def Fragment.findings : Fragment → List Diagnostic
  | target _ => []
  | expression value => value.findings

mutual

/-- The diagnostics of a statement. -/
def Statement.findings : Statement → List Diagnostic
  | .empty _ | .input _ _ => []
  | .evaluate value _ | .print value _ => value.findings
  | .ifThen condition body line =>
      condition.findings ++ body.findings ++ ofCondition line condition.type
  | .ifElse condition body otherwise line =>
      condition.findings ++ body.findings ++ otherwise.findings ++ ofCondition line condition.type
  | .block statements _ => Statement.allFindings statements
  | .broken fragments error _ => fragments.flatMap Fragment.findings ++ [ofError error]
  | .unclosed statements error _ => Statement.allFindings statements ++ [ofError error]

/-- The diagnostics of statements in turn. -/
def Statement.allFindings : List Statement → List Diagnostic
  | [] => []
  | first :: rest => first.findings ++ Statement.allFindings rest

end

theorem Expression.diagnostics_draft (expression : Expression) (draft : Draft) :
    (expression.draft draft).1.diagnostics.toList =
      draft.diagnostics.toList ++ expression.findings := by
  induction expression generalizing draft with
  | atom symbol line =>
      simp only [Expression.draft, draftAtom, findings, List.append_nil]
      split <;> rfl
  | assign target value line induction => exact induction _
  | equals left right line inductionLeft inductionRight =>
      simp only [Expression.draft, findings, Draft.diagnostics_equals, inductionLeft,
        inductionRight, left.typeOf_draft (right.grows_draft _), right.typeOf_draft (.refl _),
        List.append_assoc]
  | add left right line inductionLeft inductionRight =>
      simp only [Expression.draft, findings, Draft.diagnostics_add, inductionLeft,
        inductionRight, left.typeOf_draft (right.grows_draft _), right.typeOf_draft (.refl _),
        List.append_assoc]

theorem Fragment.diagnostics_foldl (fragments : List Fragment) (draft : Draft) :
    (fragments.foldl Fragment.draft draft).diagnostics.toList =
      draft.diagnostics.toList ++ fragments.flatMap findings := by
  induction fragments generalizing draft with
  | nil => exact (List.append_nil _).symm
  | cons first fragments induction =>
      rw [List.foldl_cons, induction, List.flatMap_cons, ← List.append_assoc]
      congr 1
      cases first with
      | target symbol => exact (List.append_nil _).symm
      | expression value => exact value.diagnostics_draft draft

namespace Statement

mutual

/-- Drafting a statement records its diagnostics. -/
theorem diagnostics_draft (statement : Statement) (draft : Draft) :
    (statement.draft draft).1.diagnostics.toList =
      draft.diagnostics.toList ++ statement.findings := by
  cases statement with
  | empty line | input target line => exact (List.append_nil _).symm
  | evaluate value line | print value line => exact value.diagnostics_draft draft
  | ifThen condition body line =>
      have checked := Draft.diagnostics_checkCondition (body.draft (condition.draft draft).1).1
        line (condition.draft draft).2
      rw [condition.typeOf_draft (grows_draft body _), diagnostics_draft body,
        condition.diagnostics_draft] at checked
      rw [findings, ← List.append_assoc, ← List.append_assoc]
      exact checked
  | ifElse condition body otherwise line =>
      have checked := Draft.diagnostics_checkCondition
        (otherwise.draft (body.draft (condition.draft draft).1).1).1 line (condition.draft draft).2
      rw [condition.typeOf_draft ((grows_draft body _).trans (grows_draft otherwise _)),
        diagnostics_draft otherwise, diagnostics_draft body,
        condition.diagnostics_draft] at checked
      rw [findings, ← List.append_assoc, ← List.append_assoc, ← List.append_assoc]
      exact checked
  | block statements line =>
      exact (congrArg Array.toList (Draft.diagnostics_block _ _ _)).trans
        (diagnostics_draftAll statements draft)
  | broken fragments error line =>
      rw [findings, ← List.append_assoc, ← Fragment.diagnostics_foldl]
      exact Draft.diagnostics_giveUp _ error line
  | unclosed statements error line =>
      rw [findings, ← List.append_assoc, ← diagnostics_draftAll statements]
      exact Draft.diagnostics_giveUp _ error line

theorem diagnostics_draftAll (statements : List Statement) (draft : Draft) :
    (draftAll draft statements).1.diagnostics.toList =
      draft.diagnostics.toList ++ allFindings statements := by
  cases statements with
  | nil => exact (List.append_nil _).symm
  | cons first rest =>
      rw [allFindings, ← List.append_assoc, ← diagnostics_draft first]
      exact diagnostics_draftAll rest _

end

end Statement

/-- The diagnostics of a script are those of its statements in turn. -/
theorem Script.diagnostics_draft (script : Script) :
    script.draft.1.diagnostics.toList = Statement.allFindings script.statements :=
  (congrArg Array.toList (Draft.diagnostics_block _ _ _)).trans
    ((Statement.diagnostics_draftAll script.statements .empty).trans (List.nil_append _))

end StackScript
