import Mathlib.Algebra.Group.Nat.Defs
import StackScript.Program.Image
import StackScript.Proofs.Wire

/-!
# Programs and their images

A program whose numbers fit the machine is read back from its image, whatever is behind it, and the
beginning of an image is not an image. Other bytes may be read as a program too; they are never
fewer than those of its own image.
-/

namespace StackScript

/-- The slot of an instruction is a machine word. -/
def Instruction.Representable (instruction : Instruction) : Prop :=
  ∀ slot, instruction.slot? = some slot → slot < 2 ^ 64

/-- A text in a cell has a length that is a machine word. -/
def Cell.Representable : Cell → Prop
  | .string text => (Text.Utf8.encode text).length < 2 ^ 64
  | _ => True

/-- All that is counted in a program is counted by machine words. -/
structure Program.Representable (program : Program) : Prop where
  code_length : program.code.length < 2 ^ 64
  cells_length : program.cells.length < 2 ^ 64
  code : ∀ instruction ∈ program.code, instruction.Representable
  cells : ∀ cell ∈ program.cells, cell.Representable

namespace Image

open Wire

/-! ## Writing and reading back -/

theorem reads_tag {tag : Nat} (small : tag < 2 ^ 32) :
    Reads (readNatural 32) (natural tag) tag :=
  reads_natural (by decide) small

theorem reads_slot {slot : Nat} (fits : slot < 2 ^ 64) :
    Reads (readNatural 64) (natural slot) slot :=
  reads_natural (by decide) fits

theorem reads_offset (offset : Int32) (build : Int32 → Instruction) :
    Reads (do return build (Int32.ofInt (← readSigned 32))) (signed offset.toInt)
      (build offset) := by
  have fits : zigzag offset.toInt < 2 ^ 32 := zigzag_lt_iff.2 ⟨offset.le_toInt, offset.toInt_lt⟩
  have reads := (reads_signed (by decide) fits).map fun n => build (Int32.ofInt n)
  rwa [Int32.ofInt_toInt] at reads

theorem reads_value (value : Int64) :
    Reads (do return Cell.integer (Int64.ofInt (← readSigned 64))) (signed value.toInt)
      (.integer value) := by
  have fits : zigzag value.toInt < 2 ^ 64 := zigzag_lt_iff.2 ⟨value.le_toInt, value.toInt_lt⟩
  have reads := (reads_signed (by decide) fits).map fun n => Cell.integer (Int64.ofInt n)
  rwa [Int64.ofInt_toInt] at reads

theorem reads_instruction {instruction : Instruction} (fits : instruction.Representable) :
    Reads readInstruction (writeInstruction instruction) instruction := by
  cases instruction with
  | push slot | getTop slot | input slot =>
      exact (reads_tag (by decide)).bind ((reads_slot (fits slot rfl)).map _)
  | jump offset | jumpIfFalse offset =>
      exact (reads_tag (by decide)).bind (reads_offset offset _)
  | _ => exact (reads_tag (by decide)).andThen (.pure _)

theorem reads_cell {cell : Cell} (fits : cell.Representable) :
    Reads readCell (writeCell cell) cell := by
  cases cell with
  | string text => exact (reads_tag (by decide)).bind ((reads_text fits).map _)
  | integer value => exact (reads_tag (by decide)).bind (reads_value value)
  | _ => exact (reads_tag (by decide)).andThen (.pure _)

theorem reads_program {program : Program} (fits : program.Representable) :
    Reads readProgram (list writeInstruction program.code ++ list writeCell program.cells)
      program :=
  (reads_list fits.code_length fun instruction member =>
    reads_instruction (fits.code instruction member)).bind
      ((reads_list fits.cells_length fun cell member => reads_cell (fits.cells cell member)).map
        (Program.mk program.code))

/-! ## What reading takes -/

theorem spends_tag : Spends (readNatural 32) fun tag spent => (natural tag).length ≤ spent := by
  intro bytes tag rest read
  obtain ⟨spent, counted, -, short⟩ := spends_natural (by decide) bytes tag rest read
  exact ⟨spent, counted, short⟩

/-- An instruction that stands behind its tag is read from enough bytes if its operand is. -/
theorem spends_slot {tag spent : Nat} (short : (natural tag).length ≤ spent)
    {build : Nat → Instruction} (slots : ∀ slot, (build slot).slot? = some slot)
    (written : ∀ slot, writeInstruction (build slot) = natural tag ++ natural slot) :
    Spends (do return build (← readNatural 64)) fun instruction more =>
      instruction.Representable ∧ (writeInstruction instruction).length ≤ spent + more := by
  refine (spends_natural (by decide)).map fun slot more ⟨fits, shorter⟩ => ⟨?_, ?_⟩
  · intro found same
    rw [slots, Option.some.injEq] at same
    rwa [← same]
  · rw [written, List.length_append]
    omega

theorem spends_offset {tag spent : Nat} (short : (natural tag).length ≤ spent)
    {build : Int32 → Instruction} (slots : ∀ offset, (build offset).slot? = none)
    (written : ∀ offset, writeInstruction (build offset) = natural tag ++ signed offset.toInt) :
    Spends (do return build (Int32.ofInt (← readSigned 32))) fun instruction more =>
      instruction.Representable ∧ (writeInstruction instruction).length ≤ spent + more := by
  refine (spends_signed (by decide)).map fun n more ⟨fits, shorter⟩ => ⟨?_, ?_⟩
  · intro found same
    rw [slots] at same
    cases same
  · obtain ⟨low, high⟩ := zigzag_lt_iff.1 fits
    rw [written, List.length_append, Int32.toInt_ofInt_of_le low high]
    omega

theorem spends_instruction : Spends readInstruction fun instruction spent =>
    instruction.Representable ∧ (writeInstruction instruction).length ≤ spent := by
  refine spends_tag.bind fun tag spent short => ?_
  split
  case h_2 | h_3 | h_6 => exact spends_slot short (fun _ => rfl) fun _ => rfl
  case h_7 | h_8 => exact spends_offset short (fun _ => rfl) fun _ => rfl
  case h_15 => exact .throw _
  all_goals exact .pure ⟨fun _ impossible => (nomatch impossible), short⟩

theorem spends_cell : Spends readCell fun cell spent =>
    cell.Representable ∧ (writeCell cell).length ≤ spent := by
  refine spends_tag.bind fun tag spent short => ?_
  split
  next => exact .pure ⟨trivial, short⟩
  next => exact .pure ⟨trivial, short⟩
  next =>
    refine spends_text.map fun text more ⟨fits, shorter⟩ => ⟨fits, ?_⟩
    rw [writeCell, List.length_append]
    omega
  next =>
    refine (spends_signed (by decide)).map fun n more ⟨fits, shorter⟩ => ⟨trivial, ?_⟩
    obtain ⟨low, high⟩ := zigzag_lt_iff.1 fits
    rw [writeCell, List.length_append, Int64.toInt_ofInt_of_le low high]
    omega
  next => exact .throw _

theorem spends_program : Spends readProgram fun program spent =>
    program.Representable ∧
      (list writeInstruction program.code ++ list writeCell program.cells).length ≤ spent := by
  refine (spends_list spends_instruction).bind fun code spent ⟨few, codeFits, short⟩ => ?_
  refine (spends_list spends_cell).map fun cells more ⟨fewer, cellsFit, shorter⟩ => ?_
  refine ⟨⟨few, fewer, codeFits, cellsFit⟩, ?_⟩
  simp only [List.length_append]
  omega

end Image

namespace Program

/-! ## Images -/

/-- Behind the letters and the version, an image is read as a program. -/
theorem ofImage?_eq (body : List UInt8) :
    ofImage? (Image.magic ++ [Image.version] ++ body) =
      match Image.readProgram body with
      | .ok (program, _) => .ok program
      | .error fault => .error (.unreadable fault) :=
  rfl

/-- What a program is read from begins like an image of this version. -/
theorem eq_of_ofImage? {bytes : List UInt8} {program : Program}
    (read : ofImage? bytes = .ok program) :
    ∃ body rest, bytes = Image.magic ++ [Image.version] ++ body ∧
      Image.readProgram body = .ok (program, rest) := by
  rw [ofImage?] at read
  split at read
  next begins =>
    obtain ⟨behind, rfl⟩ := List.isPrefixOf_iff_prefix.1 begins
    rw [List.drop_left] at read
    split at read
    · cases read
    next found body =>
      split at read
      next same =>
        subst same
        split at read
        next found rest whole =>
          cases read
          exact ⟨body, rest, by rw [List.append_assoc]; rfl, whole⟩
        · cases read
      · cases read
  · cases read

theorem ofImage?_take {program : Program} (fits : program.Representable) {count : Nat}
    (short : count < program.image.length) :
    ofImage? (program.image.take count) =
      .error (if count < 5 then .badMagic else .unreadable .endOfBytes) := by
  have shape : program.image = Image.magic ++ [Image.version] ++
      (Wire.list Image.writeInstruction program.code ++
        Wire.list Image.writeCell program.cells) :=
    List.append_assoc _ _ _
  rw [shape] at short ⊢
  match count with
  | 0 | 1 | 2 | 3 | 4 => rfl
  | count + 5 =>
      rw [if_neg (by omega)]
      have cut := (Image.reads_program fits).cut count (Nat.lt_of_add_lt_add_right (by
        rwa [List.length_append, Nat.add_comm] at short))
      have unread := ofImage?_eq ((Wire.list Image.writeInstruction program.code ++
        Wire.list Image.writeCell program.cells).take count)
      rw [cut] at unread
      exact unread

/-- A program is read back from its image and any bytes behind it, and from no part of its image;
bytes that are read as a program are at least as many as those of its image, and their program can
be written and read again. -/
theorem image_codec :
    (∀ program : Program, program.Representable →
      (∀ rest, ofImage? (program.image ++ rest) = .ok program) ∧
      ∀ count < program.image.length, ofImage? (program.image.take count) =
        .error (if count < 5 then .badMagic else .unreadable .endOfBytes)) ∧
    ∀ bytes program, ofImage? bytes = .ok program →
      program.Representable ∧ program.image.length ≤ bytes.length ∧
        ofImage? program.image = .ok program := by
  have reads (program : Program) (fits : program.Representable) (rest : List UInt8) :
      ofImage? (program.image ++ rest) = .ok program := by
    rw [image, List.append_assoc _ _ (Wire.list _ program.cells), List.append_assoc _ _ rest,
      ofImage?_eq, (Image.reads_program fits).whole rest]
  refine ⟨fun program fits => ⟨reads program fits, fun count => ofImage?_take fits⟩, ?_⟩
  intro bytes program read
  obtain ⟨body, rest, rfl, whole⟩ := eq_of_ofImage? read
  obtain ⟨spent, counted, fits, short⟩ := Image.spends_program body program rest whole
  refine ⟨fits, ?_, ?_⟩
  · rw [List.length_append] at short
    simp only [image, List.length_append]
    omega
  · have again := reads program fits []
    rwa [List.append_nil] at again

/-- An image with a jump back and a text that is not ASCII, and an image of another length than that
of its program, since the slot in it has a needless byte. -/
theorem image_codec_needlessByte :
    let program : Program := ⟨[.push 300, .jump (-5), .print], [.string "né", .integer (-12)]⟩
    let longer : List UInt8 := [0x4D, 0x59, 0x43, 0x42, 1, 1, 1, 0x80, 0, 0]
    ofImage? (program.image ++ [7]) = .ok program ∧
      ofImage? (program.image.take 9) = .error (.unreadable .endOfBytes) ∧
      (image ⟨[.push 0], []⟩).length ≤ longer.length ∧
      ofImage? (image ⟨[.push 0], []⟩) = .ok ⟨[.push 0], []⟩ := by
  intro program longer
  have slots : ∀ instruction ∈ program.code, instruction.Representable := by
    intro instruction member slot same
    simp only [program, List.mem_cons, List.not_mem_nil, or_false] at member
    rcases member with rfl | rfl | rfl <;> cases same
    decide
  have texts : ∀ cell ∈ program.cells, cell.Representable := by
    intro cell member
    simp only [program, List.mem_cons, List.not_mem_nil, or_false] at member
    rcases member with rfl | rfl
    · show (Text.Utf8.encode "né").length < 2 ^ 64
      decide
    · trivial
  have fits : program.Representable := ⟨by decide, by decide, slots, texts⟩
  have long : 9 < program.image.length := by
    simp [program, image, Image.magic, Wire.list, Image.writeInstruction, Wire.natural]
  obtain ⟨read, cut⟩ := image_codec.1 program fits
  obtain ⟨-, short, again⟩ := image_codec.2 longer ⟨[.push 0], []⟩ rfl
  exact ⟨read [7], cut 9 long, short, again⟩

end Program

end StackScript
