import StackScript.Compilation
import StackScript.Proofs.LinkedCode.Assembly
import StackScript.Proofs.Result
import StackScript.Proofs.Term.Parts
import StackScript.Proofs.Tree.Typing

/-!
# From script to accepted program

A script without diagnostics is a well-typed statement over its symbols. Its program is the code of
that statement, unless an offset cannot be written, and the check finds the heights that belong to
the shapes of the code.
-/

namespace StackScript

namespace Compilation

variable {text : String} {compilation : Compilation}

/-- A script that is read without diagnostics is a well-typed statement. -/
theorem wellTyped (read : ofText? text = .ok compilation)
    (clean : compilation.draft.diagnostics.size = 0) :
    compilation.term.WellTyped compilation.draft.symbols := by
  obtain ⟨tokens, scanned, rfl⟩ := Result.map_eq_ok_iff.1 read
  have named : Draft.empty.Named := fun symbol member => absurd member List.not_mem_nil
  have last := Draft.grows_block
    (Statement.draftAll .empty (Script.ofTokens (Token.significant tokens)).statements).1
    (Script.ofTokens (Token.significant tokens)).line
    (Statement.draftAll .empty (Script.ofTokens (Token.significant tokens)).statements).2
  obtain ⟨runs, -⟩ := Statement.runs_draftAll _
    (Script.lawful_ofTokens (Token.lawful_significant scanned)) named (last.clean clean)
  exact (Draft.runs_block _ _ runs).typed

/-- The program of a script over its symbols, or the offset that cannot be written. -/
theorem program?_cases (read : ofText? text = .ok compilation)
    (clean : compilation.draft.diagnostics.size = 0) :
    (compilation.term.Fits →
        compilation.program? = .ok (compilation.term.program compilation.draft.symbols)) ∧
      (¬ compilation.term.Fits → ∃ index,
        compilation.program? = .error (.assembly (.displacementOverflow index))) := by
  obtain ⟨fit, unfit⟩ := Program.ofLinked?_ofTerm (wellTyped read clean).within
  have linked : compilation.linked? = .ok ((LinkedCode.ofTerm compilation.term).number 1) :=
    if_pos clean
  have made : compilation.program? =
      (Program.ofLinked? compilation.draft.symbols.assignSlots
        ((LinkedCode.ofTerm compilation.term).number 1)).mapError .assembly := by
    rw [program?, linked]
    rfl
  rw [made]
  refine ⟨fun fits => by rw [fit fits]; rfl, fun far => ?_⟩
  obtain ⟨index, failed⟩ := unfit far
  exact ⟨index, by rw [failed]; rfl⟩

/-- A script that has a program has no diagnostics, and the program is its code over its symbols. -/
theorem eq_of_program? (read : ofText? text = .ok compilation) {program : Program}
    (made : compilation.program? = .ok program) :
    compilation.term.WellTyped compilation.draft.symbols ∧ compilation.term.Fits ∧
      program = compilation.term.program compilation.draft.symbols := by
  obtain ⟨linked, gated, -⟩ := Result.bind_eq_ok_iff.1 made
  have clean : compilation.draft.diagnostics.size = 0 := by
    unfold linked? at gated
    split at gated
    · assumption
    · contradiction
  obtain ⟨fit, unfit⟩ := program?_cases read clean
  by_cases fits : compilation.term.Fits
  · rw [fit fits, Except.ok.injEq] at made
    exact ⟨wellTyped read clean, fits, made.symm⟩
  · obtain ⟨index, failed⟩ := unfit fits
    rw [failed] at made
    contradiction

theorem ofText?_of_program? (read : ofText? text = .ok compilation) :
    Program.ofText? text = compilation.program? := by
  rw [Program.ofText?, read]
  rfl

end Compilation

/-- The program of a well-typed statement is accepted, with the heights of its shapes. -/
theorem Term.WellTyped.accepted {table : SymbolTable} {term : Term} (typed : term.WellTyped table)
    (fits : term.Fits) :
    Instruction.heights (term.program table).code (term.program table).cells.length =
      .ok (heightsOf (term.shapes [] ++ [some []])) := by
  rw [SymbolTable.length_cells]
  exact typed.heights_eq fits

namespace Compilation

/-- A script without diagnostics whose linked code has fewer than `2 ^ 31` instructions has a
program with a cell for each symbol, and the program is accepted. Each part of the script has in it
the code that it is compiled to by itself; a statement is begun and left with an empty stack, and an
expression leaves one value more than it found. -/
theorem accepted_of_clean {text : String} {compilation : Compilation}
    (read : ofText? text = .ok compilation) (clean : compilation.draft.diagnostics.size = 0)
    (short : (LinkedCode.ofTerm compilation.term).length < 2 ^ 31) :
    ∃ program heights, compilation.program? = .ok program ∧ Program.ofText? text = .ok program ∧
      program.cells.length = compilation.symbols.size ∧ program.check = .ok () ∧
      Instruction.heights program.code program.cells.length = .ok heights ∧
      heights[program.code.length]? = some (some 0) ∧
      ∀ offset shape part, Term.Part compilation.term offset shape part →
        ∃ code,
          Program.ofLinked? compilation.symbols ((LinkedCode.ofTerm part).number 1) =
            .ok ⟨code, program.cells⟩ ∧
          StandsAt program.code offset code ∧
          heights[offset]? = some (some shape.length) ∧
          heights[offset + code.length]? =
            some (some (if part.kind.isStatement then shape.length else shape.length + 1)) ∧
          (part.kind.isStatement = true → shape.length = 0) := by
  rw [LinkedCode.length_ofTerm] at short
  have typed := wellTyped read clean
  have fits := Term.fits_of_length short
  have made := (program?_cases read clean).1 fits
  have heights := typed.accepted fits
  refine ⟨_, _, made, (ofText?_of_program? read).trans made, ?_,
    Heights.check_eq_ok_iff.2 ⟨_, heights⟩, heights, ?_, fun offset shape part held => ?_⟩
  · rw [SymbolTable.length_cells, symbols, SymbolTable.size_assignSlots]
  · exact getElem?_heightsOf.2 ⟨[], compilation.term.getElem?_shapes_append [] [some []] 0, rfl⟩
  · obtain ⟨sound, empty, stands⟩ := held.stands typed
    have inside := stands.code.add_length_le part.length_code_pos
    have fits' : part.Fits := Term.fits_of_length (by omega)
    refine ⟨part.code, (Program.ofLinked?_ofTerm sound.within).1 fits', stands.code,
      getElem?_heightsOf.2 ⟨_, stands.begun, rfl⟩,
      getElem?_heightsOf.2 ⟨_, stands.ended, ?_⟩,
      fun statement => by rw [empty statement]; rfl⟩
    rw [Term.leaves]
    split <;> rfl

/-- A script that adds to the line it reads, unless the line is empty. -/
def successor : String :=
  "input n; if (n == \"\") print \"none\"; else \x7b s = 1 + n; print \"next: \" + s; \x7d"

/-- The script is read without diagnostics, and its code is short. -/
theorem read_successor :
    ∃ compilation, ofText? successor = .ok compilation ∧
      compilation.draft.diagnostics.size = 0 ∧
      (LinkedCode.ofTerm compilation.term).length = 20 := by
  have facts : ((ofText? successor).toOption.map fun compilation =>
      (compilation.draft.diagnostics.size, (LinkedCode.ofTerm compilation.term).length)) =
        some (0, 20) := by decide +kernel
  obtain ⟨compilation, read, sizes⟩ := Option.map_eq_some_iff.1 facts
  rw [Prod.mk.injEq] at sizes
  exact ⟨compilation, Result.toOption_eq_some_iff.1 read, sizes⟩

theorem accepted_of_clean_successor :
    ∃ compilation, ofText? successor = .ok compilation ∧
      compilation.draft.diagnostics.size = 0 ∧
      (LinkedCode.ofTerm compilation.term).length < 2 ^ 31 ∧
      ∃ program, Program.ofText? successor = .ok program ∧
        program.cells.length = compilation.symbols.size ∧ program.check = .ok () := by
  obtain ⟨compilation, read, clean, length⟩ := read_successor
  have short : (LinkedCode.ofTerm compilation.term).length < 2 ^ 31 := by
    rw [length]
    decide
  obtain ⟨program, heights, -, made, cells, accepted, -⟩ := accepted_of_clean read clean short
  exact ⟨compilation, read, clean, short, program, made, cells, accepted⟩

end Compilation

end StackScript
