import Mathlib.Data.List.Forall2
import Mathlib.Data.Set.Function
import StackScript.Phrase.Parser
import StackScript.Proofs.Token.Names

/-!
# Reading alike tokens

Two rows of tokens are alike if they differ in their places and in the names of variables only, and
different names stay different. What is read from alike tokens is alike: the same phrases are
complete, the same are given up, and reading goes on at the same tokens. Lines are not compared, and
neither are the faults of phrases that are given up, whose wording mentions names.
-/

namespace StackScript

/-- The first character is one that names begin with. -/
def Lexer.IsName (name : String) : Prop :=
  ∃ c, name.toList.head? = some c ∧ beginsName c = true

/-- A change of the names of variables that keeps different names different. -/
structure Renaming where
  /-- The names that may be changed. -/
  scope : Set String
  /-- The new name for each of them. -/
  newName : String → String
  injective : Set.InjOn newName scope
  isName : ∀ name ∈ scope, Lexer.IsName name ∧ Lexer.IsName (newName name)

/-- The token with a changed name if it is a variable, and otherwise the same token. -/
inductive Token.Renamed (renames : Renaming) : Token → Token → Prop
  | identifier {name : String} (known : name ∈ renames.scope) :
      Renamed renames (.identifier name) (.identifier (renames.newName name))
  | same {token : Token} (plain : ∀ name, token ≠ .identifier name) : Renamed renames token token

/-- Tokens at any places, with the names of variables changed. -/
def Renaming.Alike (renames : Renaming) : List PlacedToken → List PlacedToken → Prop :=
  List.Forall₂ fun left right => left.token.Renamed renames right.token

/-- A symbol entered for any line, with its name changed if it is a variable. -/
inductive Symbol.Renamed (renames : Renaming) : Symbol → Symbol → Prop
  | identifier {name : String} (known : name ∈ renames.scope) (line line' : Nat) :
      Renamed renames (.identifier name line) (.identifier (renames.newName name) line')
  | string (text : String) (line line' : Nat) :
      Renamed renames (.string text line) (.string text line')
  | integer (value : Int64) (line line' : Nat) :
      Renamed renames (.integer value line) (.integer value line')

/-- An expression on any lines, with renamed symbols. -/
inductive Expression.Renamed (renames : Renaming) : Expression → Expression → Prop
  | atom {symbol symbol' : Symbol} (mentions : symbol.Renamed renames symbol')
      (line line' : Nat) : Renamed renames (.atom symbol line) (.atom symbol' line')
  | assign {target target' : Symbol} {value value' : Expression}
      (stores : target.Renamed renames target') (values : Renamed renames value value')
      (line line' : Nat) :
      Renamed renames (.assign target value line) (.assign target' value' line')
  | equals {left left' right right' : Expression} (lefts : Renamed renames left left')
      (rights : Renamed renames right right') (line line' : Nat) :
      Renamed renames (.equals left right line) (.equals left' right' line')
  | add {left left' right right' : Expression} (lefts : Renamed renames left left')
      (rights : Renamed renames right right') (line line' : Nat) :
      Renamed renames (.add left right line) (.add left' right' line')

/-- A fragment with renamed symbols. -/
inductive Fragment.Renamed (renames : Renaming) : Fragment → Fragment → Prop
  | target {symbol symbol' : Symbol} (mentions : symbol.Renamed renames symbol') :
      Renamed renames (.target symbol) (.target symbol')
  | expression {value value' : Expression} (values : value.Renamed renames value') :
      Renamed renames (.expression value) (.expression value')

mutual

/-- A statement on any lines, with renamed symbols; a statement that was given up keeps renamed
fragments. -/
inductive Statement.Renamed (renames : Renaming) : Statement → Statement → Prop
  | empty (line line' : Nat) : Statement.Renamed renames (.empty line) (.empty line')
  | evaluate {value value' : Expression} (values : value.Renamed renames value')
      (line line' : Nat) : Statement.Renamed renames (.evaluate value line) (.evaluate value' line')
  | print {value value' : Expression} (values : value.Renamed renames value')
      (line line' : Nat) : Statement.Renamed renames (.print value line) (.print value' line')
  | input {target target' : Symbol} (stores : target.Renamed renames target')
      (line line' : Nat) : Statement.Renamed renames (.input target line) (.input target' line')
  | ifThen {condition condition' : Expression} {body body' : Statement}
      (decides : condition.Renamed renames condition')
      (bodies : Statement.Renamed renames body body') (line line' : Nat) :
      Statement.Renamed renames (.ifThen condition body line) (.ifThen condition' body' line')
  | ifElse {condition condition' : Expression} {body body' otherwise otherwise' : Statement}
      (decides : condition.Renamed renames condition')
      (bodies : Statement.Renamed renames body body')
      (others : Statement.Renamed renames otherwise otherwise') (line line' : Nat) :
      Statement.Renamed renames (.ifElse condition body otherwise line)
        (.ifElse condition' body' otherwise' line')
  | block {statements statements' : List Statement}
      (all : Statement.AllRenamed renames statements statements') (line line' : Nat) :
      Statement.Renamed renames (.block statements line) (.block statements' line')
  | broken {fragments fragments' : List Fragment}
      (kept : List.Forall₂ (Fragment.Renamed renames) fragments fragments')
      (error error' : GrammarError) (line line' : Nat) :
      Statement.Renamed renames (.broken fragments error line) (.broken fragments' error' line')
  | unclosed {statements statements' : List Statement}
      (all : Statement.AllRenamed renames statements statements')
      (error error' : GrammarError) (line line' : Nat) :
      Statement.Renamed renames (.unclosed statements error line)
        (.unclosed statements' error' line')

/-- As many statements, one by one renamed. -/
inductive Statement.AllRenamed (renames : Renaming) : List Statement → List Statement → Prop
  | nil : Statement.AllRenamed renames [] []
  | cons {first first' : Statement} {rest rest' : List Statement}
      (firsts : Statement.Renamed renames first first')
      (rests : Statement.AllRenamed renames rest rest') :
      Statement.AllRenamed renames (first :: rest) (first' :: rest')

end

variable {renames : Renaming}

/-! ## Cursors -/

/-- The tokens that have not been read are alike. -/
def Cursor.Renamed (renames : Renaming) (left right : Cursor) : Prop :=
  renames.Alike left.rest right.rest

namespace Cursor.Renamed

variable {left right : Cursor}

theorem length_eq (renamed : left.Renamed renames right) :
    left.rest.length = right.rest.length :=
  List.Forall₂.length_eq renamed

theorem advance (renamed : left.Renamed renames right) :
    left.advance.Renamed renames right.advance := by
  obtain ⟨rest, lastLine, nodeLine⟩ := left
  obtain ⟨rest', lastLine', nodeLine'⟩ := right
  cases renamed with
  | nil => exact .nil
  | cons first others => exact others

/-- Both rows are at their ends, or variables are next in both, or the same token is. -/
theorem peek_cases (renamed : left.Renamed renames right) :
    (left.peek? = none ∧ right.peek? = none) ∨
      (∃ name ∈ renames.scope, left.peek? = some (.identifier name) ∧
        right.peek? = some (.identifier (renames.newName name))) ∨
      ∃ token, (∀ name, token ≠ .identifier name) ∧ left.peek? = some token ∧
        right.peek? = some token := by
  obtain ⟨rest, lastLine, nodeLine⟩ := left
  obtain ⟨rest', lastLine', nodeLine'⟩ := right
  cases renamed with
  | nil => exact .inl ⟨rfl, rfl⟩
  | @cons placed placed' rest rest' first others =>
      obtain ⟨token, position⟩ := placed
      obtain ⟨token', position'⟩ := placed'
      cases first with
      | identifier known => exact .inr (.inl ⟨_, known, rfl, rfl⟩)
      | same plain => exact .inr (.inr ⟨_, plain, rfl, rfl⟩)

/-- A token that is no variable is next in both rows or in neither. -/
theorem peek_iff (renamed : left.Renamed renames right) {token : Token}
    (plain : ∀ name, token ≠ .identifier name) :
    left.peek? = some token ↔ right.peek? = some token := by
  rcases renamed.peek_cases with ⟨found, found'⟩ | ⟨name, -, found, found'⟩ | ⟨_, -, found, found'⟩
  · rw [found, found']
  · rw [found, found', Option.some.injEq, Option.some.injEq]
    exact iff_of_false (plain _).symm (plain _).symm
  · rw [found, found']

/-- What is decided by whether a token that is no variable is next is decided alike. -/
theorem decide_next (renamed : left.Renamed renames right) {token : Token}
    (plain : ∀ name, token ≠ .identifier name) {α : Type} {alike : α → α → Prop}
    {found found' missing missing' : α} (there : alike found found')
    (elsewhere : alike missing missing') :
    alike (if left.peek? = some token then found else missing)
      (if right.peek? = some token then found' else missing') := by
  by_cases next : left.peek? = some token
  · rw [if_pos next, if_pos ((renamed.peek_iff plain).1 next)]
    exact there
  · rw [if_neg next, if_neg (next ∘ (renamed.peek_iff plain).2)]
    exact elsewhere

theorem atEnd_eq (renamed : left.Renamed renames right) : left.atEnd = right.atEnd := by
  unfold atEnd
  rcases renamed.peek_cases with ⟨found, found'⟩ | ⟨name, -, found, found'⟩ | ⟨_, -, found, found'⟩
  all_goals rw [found, found']

theorem recoverFrom {rest rest' : List PlacedToken} (alike : renames.Alike rest rest')
    (lastLine lastLine' nodeLine nodeLine' : Nat) :
    (Cursor.recoverFrom lastLine nodeLine rest).Renamed renames
      (Cursor.recoverFrom lastLine' nodeLine' rest') := by
  induction alike generalizing lastLine lastLine' nodeLine nodeLine' with
  | nil => exact .nil
  | @cons placed placed' rest rest' first others induction =>
      have skipped := induction placed.position.line placed'.position.line placed.position.line
        placed'.position.line
      have stays : renames.Alike (placed :: rest) (placed' :: rest') := .cons first others
      simp only [Cursor.recoverFrom]
      generalize placed.token = token at first ⊢
      generalize placed'.token = token' at first ⊢
      cases first with
      | identifier known => exact skipped
      | same plain => cases token <;> first | exact skipped | exact stays | exact others

theorem recover (renamed : left.Renamed renames right) :
    left.recover.Renamed renames right.recover :=
  recoverFrom renamed _ _ _ _

end Cursor.Renamed

/-! ## Expressions -/

/-- Alike values are read and alike tokens are left, or both are given up with alike fragments. -/
inductive Outcome.Renamed {α : Type} (renames : Renaming) (alike : α → α → Prop) :
    Outcome α → Outcome α → Prop
  | parsed {value value' : α} {next next' : Cursor} (values : alike value value')
      (nexts : next.Renamed renames next') :
      Renamed renames alike (.parsed value next) (.parsed value' next')
  | failed {fragments fragments' : List Fragment} {error error' : GrammarError}
      {next next' : Cursor} (kept : List.Forall₂ (Fragment.Renamed renames) fragments fragments')
      (nexts : next.Renamed renames next') :
      Renamed renames alike (.failed fragments error next) (.failed fragments' error' next')

namespace Outcome.Renamed

variable {α β : Type} {alike : α → α → Prop} {alike' : β → β → Prop} {outcome outcome' : Outcome α}

theorem bind {continuation continuation' : α → Cursor → Outcome β}
    (firsts : outcome.Renamed renames alike outcome')
    (seconds : ∀ value value' next next', alike value value' → next.Renamed renames next' →
      (continuation value next).Renamed renames alike' (continuation' value' next')) :
    (outcome.bind continuation).Renamed renames alike' (outcome'.bind continuation') := by
  cases firsts with
  | parsed values nexts => exact seconds _ _ _ _ values nexts
  | failed kept nexts => exact .failed kept nexts

theorem after {fragment fragment' : Fragment} (fragments : fragment.Renamed renames fragment')
    (renamed : outcome.Renamed renames alike outcome') :
    (outcome.after fragment).Renamed renames alike (outcome'.after fragment') := by
  cases renamed with
  | parsed values nexts => exact .parsed values nexts
  | failed kept nexts => exact .failed (.cons fragments kept) nexts

end Outcome.Renamed

namespace Expression

/-- From alike tokens, alike expressions are read. -/
def Reads (renames : Renaming) (read : Cursor → Outcome Expression) : Prop :=
  ∀ left right : Cursor, left.Renamed renames right →
    (read left).Renamed renames (Expression.Renamed renames) (read right)

variable {inner operand : Cursor → Outcome Expression}
variable {join : Expression → Expression → Nat → Expression}

theorem reads_readPrimary (nested : Reads renames inner) :
    Reads renames (readPrimary inner) := by
  intro left right renamed
  unfold readPrimary
  rcases renamed.peek_cases with
    ⟨found, found'⟩ | ⟨name, known, found, found'⟩ | ⟨token, plain, found, found'⟩
  · rw [found, found']
    exact .failed .nil renamed
  · rw [found, found']
    exact .parsed (.atom (.identifier known _ _) _ _) renamed.advance
  · rw [found, found']
    cases token with
    | identifier name => exact absurd rfl (plain name)
    | string text => exact .parsed (.atom (.string text _ _) _ _) renamed.advance
    | integer value => exact .parsed (.atom (.integer value _ _) _ _) renamed.advance
    | leftParen =>
        refine (nested _ _ renamed.advance).bind fun value value' next next' values nexts => ?_
        exact nexts.decide_next (by simp) (.parsed values nexts.advance)
          (.failed (.cons (.expression values) .nil) nexts)
    | _ => exact .failed .nil renamed

theorem renamed_readChain {operator : Token} (plain : ∀ name, operator ≠ .identifier name)
    (joined : ∀ {left left' right right' : Expression} line line', left.Renamed renames left' →
      right.Renamed renames right' →
        (join left right line).Renamed renames (join left' right' line'))
    (reads : Reads renames operand) (count : Nat) {value value' : Expression}
    (values : value.Renamed renames value') {left right : Cursor}
    (renamed : left.Renamed renames right) :
    (readChain operator join operand count value left).Renamed renames
      (Expression.Renamed renames) (readChain operator join operand count value' right) := by
  induction count generalizing value value' left right with
  | zero => exact .parsed values renamed
  | succ count induction =>
      rw [readChain, readChain]
      refine renamed.decide_next plain ?_ (.parsed values renamed)
      refine ((reads _ _ renamed.advance).after (.expression values)).bind ?_
      exact fun _ _ _ _ rights nexts => induction (joined _ _ values rights) nexts

theorem reads_readOperands {operator : Token} (plain : ∀ name, operator ≠ .identifier name)
    (joined : ∀ {left left' right right' : Expression} line line', left.Renamed renames left' →
      right.Renamed renames right' →
        (join left right line).Renamed renames (join left' right' line'))
    (reads : Reads renames operand) : Reads renames (readOperands operator join operand) := by
  intro left right renamed
  refine (reads left right renamed).bind fun value value' next next' values nexts => ?_
  rw [nexts.length_eq]
  exact renamed_readChain plain joined reads _ values nexts

theorem reads_readComparison (nested : Reads renames inner) :
    Reads renames (readComparison inner) := by
  refine reads_readOperands (by simp) (fun _ _ lefts rights => .equals lefts rights _ _) ?_
  refine reads_readOperands (by simp) (fun _ _ lefts rights => .add lefts rights _ _) ?_
  exact reads_readPrimary nested

/-- An assignment is next in both rows, to renamed targets, or in neither. -/
theorem target?_cases {left right : Cursor} (renamed : left.Renamed renames right) :
    (target? left = none ∧ target? right = none) ∨
      ∃ symbol symbol', symbol.Renamed renames symbol' ∧ target? left = some symbol ∧
        target? right = some symbol' := by
  unfold target?
  rw [left.peekSecond?_eq_peek?_advance, right.peekSecond?_eq_peek?_advance]
  rcases renamed.peek_cases with
    ⟨found, found'⟩ | ⟨name, known, found, found'⟩ | ⟨token, plain, found, found'⟩
  · rw [found, found']
    exact .inl ⟨rfl, rfl⟩
  · rw [found, found']
    by_cases assigns : left.advance.peek? = some .assign
    · rw [assigns, (renamed.advance.peek_iff (by simp)).1 assigns]
      exact .inr ⟨_, _, .identifier known _ _, rfl, rfl⟩
    · have differs : right.advance.peek? ≠ some .assign :=
        assigns ∘ (renamed.advance.peek_iff (by simp)).2
      left
      split <;> simp_all
  · rw [found, found']
    left
    split <;> simp_all

theorem reads_readNested (depth : Nat) : Reads renames (readNested depth) := by
  induction depth with
  | zero => exact fun left right renamed => .failed .nil renamed
  | succ depth induction =>
      intro left right renamed
      rw [readNested, readNested]
      rcases target?_cases renamed with ⟨none, none'⟩ | ⟨symbol, symbol', stores, found, found'⟩
      · rw [none, none']
        exact reads_readComparison induction left right renamed
      · rw [found, found']
        have values := induction _ _ renamed.advance.advance
        refine (values.after (.target stores)).bind fun _ _ _ _ values nexts => ?_
        exact .parsed (.assign stores values _ _) nexts

theorem reads_read : Reads renames read := by
  intro left right renamed
  rw [read, read, renamed.length_eq]
  exact reads_readNested _ left right renamed

end Expression

/-! ## Statements -/

namespace Statement

/-- Renamed statements, with alike tokens left. -/
def Follow (renames : Renaming) (first second : Statement × Cursor) : Prop :=
  first.1.Renamed renames second.1 ∧ first.2.Renamed renames second.2

/-- From alike tokens, alike statements are read. -/
def Reads (renames : Renaming) (read : Cursor → Statement × Cursor) : Prop :=
  ∀ left right : Cursor, left.Renamed renames right → Follow renames (read left) (read right)

variable {inner : Cursor → Statement × Cursor} {left right : Cursor}

theorem follow_giveUp {fragments fragments' : List Fragment}
    (kept : List.Forall₂ (Fragment.Renamed renames) fragments fragments')
    (error error' : GrammarError) (renamed : left.Renamed renames right) :
    Follow renames (giveUp fragments error left) (giveUp fragments' error' right) :=
  ⟨.broken kept _ _ _ _, renamed.recover⟩

theorem follow_complete {outcome outcome' : Outcome Statement}
    (renamed : outcome.Renamed renames (Statement.Renamed renames) outcome') :
    Follow renames (complete outcome) (complete outcome') := by
  cases renamed with
  | parsed statements nexts => exact ⟨statements, nexts⟩
  | failed kept nexts => exact follow_giveUp kept _ _ nexts

theorem renamed_readSemicolon (wanted : Expectation) {fragment fragment' : Fragment}
    {make make' : Nat → Statement} (fragments : fragment.Renamed renames fragment')
    (made : ∀ line line', (make line).Renamed renames (make' line'))
    (renamed : left.Renamed renames right) :
    (readSemicolon wanted fragment make left).Renamed renames (Statement.Renamed renames)
      (readSemicolon wanted fragment' make' right) := by
  unfold readSemicolon
  exact renamed.decide_next (by simp) (.parsed (made _ _) renamed.advance)
    (.failed (.cons fragments .nil) renamed)

theorem renamed_readValue (wanted : Expectation) {make : Expression → Nat → Statement}
    (made : ∀ {value value' : Expression} line line', value.Renamed renames value' →
      (make value line).Renamed renames (make value' line'))
    (renamed : left.Renamed renames right) :
    (readValue wanted make left).Renamed renames (Statement.Renamed renames)
      (readValue wanted make right) :=
  (Expression.reads_read left right renamed).bind fun _ _ _ _ values nexts =>
    renamed_readSemicolon wanted (.expression values) (fun line line' => made line line' values)
      nexts

theorem renamed_readInput (renamed : left.Renamed renames right) :
    (readInput left).Renamed renames (Statement.Renamed renames) (readInput right) := by
  unfold readInput
  rcases renamed.peek_cases with
    ⟨found, found'⟩ | ⟨name, known, found, found'⟩ | ⟨token, plain, found, found'⟩
  · rw [found, found']
    exact .failed .nil renamed
  · rw [found, found']
    have named := Symbol.Renamed.identifier known left.advance.line right.advance.line
    exact renamed_readSemicolon _ (.target named) (fun _ _ => .input named _ _) renamed.advance
  · rw [found, found']
    cases token with
    | identifier name => exact absurd rfl (plain name)
    | _ => exact .failed .nil renamed

theorem renamed_readCondition (renamed : left.Renamed renames right) :
    (readCondition left).Renamed renames (Expression.Renamed renames) (readCondition right) := by
  unfold readCondition
  refine renamed.decide_next (by simp) ?_ (.failed .nil renamed)
  have conditions := Expression.reads_read _ _ renamed.advance
  refine conditions.bind fun value value' next next' values nexts => ?_
  exact nexts.decide_next (by simp) (.parsed values nexts.advance)
    (.failed (.cons (.expression values) .nil) nexts)

theorem follow_readBranches (nested : Reads renames inner) (line line' : Nat)
    {condition condition' : Expression} (decides : condition.Renamed renames condition')
    (renamed : left.Renamed renames right) :
    Follow renames (readBranches inner line condition left)
      (readBranches inner line' condition' right) := by
  obtain ⟨bodies, nexts⟩ := nested left right renamed
  have others := nested _ _ nexts.advance
  simp only [readBranches]
  exact nexts.decide_next (by simp) ⟨.ifElse decides bodies others.1 _ _, others.2⟩
    ⟨.ifThen decides bodies _ _, nexts⟩

theorem renamed_readMany (nested : Reads renames inner) (count : Nat)
    (renamed : left.Renamed renames right) :
    AllRenamed renames (readMany inner count left).1 (readMany inner count right).1 ∧
      (readMany inner count left).2.Renamed renames (readMany inner count right).2 := by
  induction count generalizing left right with
  | zero => exact ⟨.nil, renamed⟩
  | succ count induction =>
      have closes : left.peek? = some .rightBrace ↔ right.peek? = some .rightBrace :=
        renamed.peek_iff (by simp)
      rw [readMany, readMany, renamed.atEnd_eq]
      simp only [closes]
      split
      · exact ⟨.nil, renamed⟩
      · obtain ⟨firsts, nexts⟩ := nested left right renamed
        obtain ⟨others, last⟩ := induction nexts
        exact ⟨.cons firsts others, last⟩

theorem follow_readBlock (nested : Reads renames inner) (renamed : left.Renamed renames right) :
    Follow renames (readBlock inner left) (readBlock inner right) := by
  obtain ⟨all, nexts⟩ := renamed_readMany nested left.rest.length renamed
  simp only [readBlock]
  rw [renamed.length_eq] at all nexts ⊢
  exact nexts.decide_next (by simp) ⟨.block all _ _, nexts.advance⟩
    ⟨.unclosed all _ _ _ _, nexts.recover⟩

theorem reads_readNested (depth : Nat) : Reads renames (readNested depth) := by
  induction depth with
  | zero => exact fun left right renamed => follow_giveUp .nil _ _ renamed
  | succ depth induction =>
      intro left right renamed
      have evaluates := follow_complete (renamed_readValue .semicolonAfterExpression
        (fun line line' values => .evaluate values line line') renamed)
      simp only [readNested]
      rcases renamed.peek_cases with
        ⟨found, found'⟩ | ⟨name, known, found, found'⟩ | ⟨token, plain, found, found'⟩
      · rw [found, found']
        exact evaluates
      · rw [found, found']
        exact evaluates
      · rw [found, found']
        cases token with
        | semicolon => exact ⟨.empty _ _, renamed.advance⟩
        | printKeyword =>
            exact follow_complete (renamed_readValue _
              (fun line line' values => .print values line line') renamed.advance)
        | inputKeyword => exact follow_complete (renamed_readInput renamed.advance)
        | ifKeyword =>
            have conditions := renamed_readCondition renamed.advance
            generalize readCondition left.advance = outcome at conditions ⊢
            generalize readCondition right.advance = outcome' at conditions ⊢
            cases conditions with
            | parsed values nexts => exact follow_readBranches induction _ _ values nexts
            | failed kept nexts => exact follow_giveUp kept _ _ nexts
        | leftBrace => exact follow_readBlock induction renamed.advance
        | elseKeyword => exact follow_giveUp .nil _ _ renamed
        | _ => exact evaluates

theorem reads_read : Reads renames read := by
  intro left right renamed
  rw [read, read, renamed.length_eq]
  exact reads_readNested _ left right renamed

end Statement

namespace Script

theorem reads_readStatement : Statement.Reads renames readStatement := by
  intro left right renamed
  unfold readStatement
  exact renamed.decide_next (by simp) ⟨.broken .nil _ _ _ _, renamed.advance⟩
    (Statement.reads_read left right renamed)

theorem renamed_readMany (count : Nat) {left right : Cursor}
    (renamed : left.Renamed renames right) :
    Statement.AllRenamed renames (readMany count left).1 (readMany count right).1 := by
  induction count generalizing left right with
  | zero => exact .nil
  | succ count induction =>
      rw [readMany, readMany, renamed.atEnd_eq]
      split
      · exact .nil
      · obtain ⟨firsts, nexts⟩ := reads_readStatement left right renamed
        exact .cons firsts (induction nexts)

/-- From alike tokens, alike scripts are read. -/
theorem renamed_ofTokens {tokens others : List PlacedToken} (alike : renames.Alike tokens others) :
    Statement.AllRenamed renames (ofTokens tokens).statements (ofTokens others).statements := by
  have length : tokens.length = others.length := List.Forall₂.length_eq alike
  simp only [ofTokens, length]
  exact renamed_readMany _ alike

end Script

end StackScript
