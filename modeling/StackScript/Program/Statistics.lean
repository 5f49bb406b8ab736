import StackScript.Program
import StackScript.Text.Column
import StackScript.Text.Percentage

/-!
# Program statistics

The size of a program and how often each kind of instruction occurs in it, the most frequent first
and those of equal frequency by name.
-/

namespace StackScript

/-- A kind of instruction and the number of its occurrences. -/
structure Frequency where
  /-- The name of the instruction. -/
  name : String
  /-- The number of its occurrences. -/
  count : Nat
deriving DecidableEq, Repr

namespace Frequency

/-- Frequencies with one more occurrence of a name; a new name comes last. -/
def increment (name : String) : List Frequency → List Frequency
  | [] => [⟨name, 1⟩]
  | first :: others =>
      if first.name = name then ⟨name, first.count + 1⟩ :: others
      else first :: increment name others

/-- The frequencies of instructions, in the order of first occurrence. -/
def ofCode (code : List Instruction) : List Frequency :=
  code.foldl (fun frequencies instruction => increment instruction.name frequencies) []

/-- Whether a frequency is listed in front of another. -/
def precedes (left right : Frequency) : Bool :=
  right.count < left.count || (left.count = right.count && left.name ≤ right.name)

/-- Frequencies in the order in which they are listed. -/
def sorted (frequencies : List Frequency) : List Frequency :=
  frequencies.mergeSort precedes

/-- The line of a frequency among a number of instructions. -/
def row (total : Nat) (frequency : Frequency) : String :=
  "  " ++ Text.leftAligned 12 frequency.name ++ " "
    ++ Text.rightAligned 4 (Text.decimal frequency.count) ++ " ("
    ++ Text.rightAligned 5 (Text.percentage frequency.count total) ++ "%)"

end Frequency

/-- The statistics of a program, from the frequencies of its instructions in any order. -/
def Program.statisticsOf (program : Program) (frequencies : List Frequency) : String :=
  let total := program.code.length
  Text.lines
    (["Instructions: " ++ Text.decimal total,
      "Cells:        " ++ Text.decimal program.cells.length,
      "Op frequency:"]
      ++ (Frequency.sorted frequencies).map (Frequency.row total))

/-- The statistics of a program. -/
def Program.statistics (program : Program) : String :=
  program.statisticsOf (Frequency.ofCode program.code)

end StackScript
