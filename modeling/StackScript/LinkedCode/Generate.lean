import StackScript.LinkedCode
import StackScript.Tree.Term

/-!
# Code generation

Each term becomes a segment of linked code. A statement leaves the operand stack as it found it, an
expression leaves one value more. The else part of a conditional is generated before the jump over
it, so instructions are not created in list order.
-/

namespace StackScript

namespace Term

/-- The operation that compares with the value of a term. -/
def comparison (left : Term) : Operation :=
  if left.type = .bool then .boolEqual else .equal

/-- The operation that makes a string of the value of a term. -/
def conversionToString (operand : Term) : Operation :=
  if operand.type = .bool then .boolToString else .integerToString

/-- The code with the segment of a term, and that segment. -/
def generate (code : LinkedCode) : Term → LinkedCode × Segment
  | sequence first second =>
      let (code, first) := first.generate code
      let (code, second) := second.generate code
      code.append first second
  | empty | error => code.emit .nop
  | evaluate value =>
      let (code, value) := value.generate code
      let (code, discard) := code.emit .discard
      code.append value discard
  | print value =>
      let (code, value) := value.generate code
      let (code, write) := code.emit .print
      code.append value write
  | input target => code.emitWith .input (some target)
  | ifThen condition body =>
      let (code, condition) := condition.generate code
      let (code, skip) := code.emit .jumpIfFalse
      let (code, body) := body.generate code
      let (code, last) := code.emitLanding skip.head
      let code := code.setTarget skip.head last.head
      code.join condition [skip, body, last]
  | ifElse condition body otherwise =>
      let (code, condition) := condition.generate code
      let (code, skip) := code.emit .jumpIfFalse
      let (code, body) := body.generate code
      let (code, otherwise) := otherwise.generate code
      let (code, otherwise) := code.land otherwise skip.head
      let code := code.setTarget skip.head otherwise.head
      let (code, leave) := code.emit .jump
      let (code, last) := code.emitLanding leave.head
      let code := code.setTarget leave.head last.head
      code.join condition [skip, body, leave, otherwise, last]
  | equals left right =>
      let operation := left.comparison
      let (code, left) := left.generate code
      let (code, right) := right.generate code
      let (code, compare) := code.emit operation
      code.join left [right, compare]
  | assign target value =>
      let (code, value) := value.generate code
      let (code, store) := code.emitWith .getTop (some target)
      code.append value store
  | add left right =>
      let (code, left) := left.generate code
      let (code, right) := right.generate code
      let (code, sum) := code.emit .add
      code.join left [right, sum]
  | identifier symbol | stringConstant symbol | integerConstant symbol =>
      code.emitWith .push (some symbol)
  | coerceToString operand =>
      let operation := operand.conversionToString
      let (code, operand) := operand.generate code
      let (code, convert) := code.emit operation
      code.append operand convert
  | coerceToInteger operand =>
      let (code, operand) := operand.generate code
      let (code, convert) := code.emit .stringToInteger
      code.append operand convert

end Term

/-- The linked code of a term, not yet numbered. -/
def LinkedCode.ofTerm (term : Term) : LinkedCode :=
  let (code, segment) := term.generate .empty
  { code with head := some segment.head }

end StackScript
