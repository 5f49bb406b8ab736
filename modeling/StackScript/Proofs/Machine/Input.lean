import StackScript.Proofs.Machine.Execution

/-!
# Reading lines

The instructions of a run that read take the lines of the input one after the other, whatever is
done between them. What is stored is a line without its line feed, and without one carriage return
in front of that; but a last line that no line feed ends loses a carriage return too. Behind the
last line the empty text is read.
-/

namespace StackScript

/-! ## Lines -/

namespace InputStream

/-- A line of a stream. -/
structure Line where
  /-- The bytes up to the line feed or the end of the stream. -/
  content : List UInt8
  /-- Whether a line feed ends it. -/
  fed : Bool
deriving DecidableEq, Repr

namespace Line

/-- The bytes that a line takes up in its stream. -/
def bytes (line : Line) : List UInt8 :=
  line.content ++ if line.fed then [10] else []

/-- The text of a line. A carriage return is no part of it if the line feed follows. -/
def text (line : Line) : String :=
  Text.Utf8.decodeLossy (if line.fed then dropReturn line.content else line.content)

/-- The text of a line without a carriage return at its end, whatever follows that. -/
def trimmed (line : Line) : String :=
  Text.Utf8.decodeLossy (dropReturn line.content)

/-- Only a last line without a line feed loses a carriage return that is part of it. -/
theorem trimmed_eq_text {line : Line} (ends : line.fed = true ∨ line.content.getLast? ≠ some 13) :
    line.trimmed = line.text := by
  unfold trimmed text
  rcases ends with fed | other
  · rw [if_pos fed]
  · rw [dropReturn, if_neg other, ite_self]

end Line

/-- The lines of bytes in front of which there is one byte more, which is no line feed. -/
def extend (byte : UInt8) : List Line → List Line
  | [] => [⟨[byte], false⟩]
  | line :: others => { line with content := byte :: line.content } :: others

/-- The lines of some bytes. -/
def lines : List UInt8 → List Line
  | [] => []
  | byte :: rest => if byte = 10 then ⟨[], true⟩ :: lines rest else extend byte (lines rest)

/-- The lines make up the bytes. -/
theorem flatMap_bytes_lines (bytes : List UInt8) : (lines bytes).flatMap Line.bytes = bytes := by
  induction bytes with
  | nil => rfl
  | cons byte rest induction =>
      rw [lines]
      split
      next feed => rw [List.flatMap_cons, induction, feed]; rfl
      next =>
        cases shape : lines rest <;> rw [shape] at induction <;> rw [← induction] <;> rfl

/-- A line goes up to the next line feed. -/
theorem lineFeed_notMem_content {bytes : List UInt8} {line : Line} (member : line ∈ lines bytes) :
    10 ∉ line.content := by
  induction bytes generalizing line with
  | nil => contradiction
  | cons byte rest induction =>
      rw [lines] at member
      split at member
      next =>
        rcases List.mem_cons.1 member with rfl | later
        · exact List.not_mem_nil
        · exact induction later
      next other =>
        cases shape : lines rest with
        | nil =>
            rw [shape] at member
            obtain rfl := List.mem_singleton.1 member
            simpa using Ne.symm other
        | cons first others =>
            rw [shape] at member induction
            rcases List.mem_cons.1 member with rfl | later
            · simpa [Ne.symm other] using induction List.mem_cons_self
            · exact induction (List.mem_cons_of_mem _ later)

/-- A line feed ends every line but the last one. -/
theorem fed_of_mem_dropLast {bytes : List UInt8} {line : Line}
    (member : line ∈ (lines bytes).dropLast) : line.fed = true := by
  induction bytes generalizing line with
  | nil => contradiction
  | cons byte rest induction =>
      rw [lines] at member
      split at member
      next =>
        cases shape : lines rest with
        | nil =>
            rw [shape] at member
            contradiction
        | cons first others =>
            rw [shape] at member induction
            rcases List.mem_cons.1 member with rfl | later
            · rfl
            · exact induction later
      next =>
        rcases shape : lines rest with _ | ⟨first, _ | ⟨second, others⟩⟩ <;>
          rw [shape] at member induction
        case cons.cons =>
          have ended : first.fed = true := induction List.mem_cons_self
          rcases List.mem_cons.1 member with rfl | later
          · exact ended
          · exact induction (List.mem_cons_of_mem _ later)
        all_goals contradiction

/-- Reading up to a line feed takes the first line and leaves the others. -/
theorem lines_split (bytes : List UInt8) :
    bytes.takeWhile (· ≠ 10) = ((lines bytes).head?.map Line.content).getD [] ∧
      lines (bytes.dropWhile (· ≠ 10)).tail = (lines bytes).tail := by
  induction bytes with
  | nil => exact ⟨rfl, rfl⟩
  | cons byte rest induction =>
      by_cases feed : byte = 10
      · simp [lines, feed]
      · obtain ⟨first, others⟩ := induction
        have passes : decide (byte ≠ 10) = true := decide_eq_true feed
        simp only [lines, if_neg feed, List.takeWhile_cons, List.dropWhile_cons, passes, if_true,
          first, others]
        cases lines rest <;> exact ⟨rfl, rfl⟩

/-- Reading from a stream that is not closed answers its first line, or the empty text if there is
none, and leaves the other lines. -/
theorem readLine_ofBytes (bytes : List UInt8) :
    ∃ rest, (ofBytes bytes).readLine =
        (.ok (((lines bytes).head?.map Line.trimmed).getD ""), ofBytes rest) ∧
      lines rest = (lines bytes).tail := by
  obtain ⟨first, others⟩ := lines_split bytes
  refine ⟨_, ?_, others⟩
  have text : Text.Utf8.decodeLossy (dropReturn (bytes.takeWhile (· ≠ 10))) =
      ((lines bytes).head?.map Line.trimmed).getD "" := by
    rw [first]
    cases (lines bytes).head? with
    | none => simp [dropReturn, Text.Utf8.decodeLossy, Text.Utf8.pieces]
    | some line => rfl
  unfold readLine ofBytes
  simp only [text]
  cases bytes.dropWhile (· ≠ 10) <;> rfl

end InputStream

namespace Machine

/-! ## Instructions that read -/

/-- An instruction reads the next line or leaves the input as it was. -/
theorem Executes.input_eq {state next : State} {instruction : Instruction} {distance : Int}
    (rule : Executes state instruction distance next) :
    next.input = if instruction.readsInput then state.input.readLine.2 else state.input := by
  cases rule with
  | input flushed read active => exact (congrArg Prod.snd read).symm
  | _ => rfl

section Runs

variable {limits : Limits} {code : List Instruction} {start config next : Config} {count : Nat}

/-- Some turns lead from one configuration to another, and a number of them read a line. -/
inductive Consumes (limits : Limits) (code : List Instruction) (start : Config) :
    Config → Nat → Prop
  | refl : Consumes limits code start start 0
  | tail {config next : Config} {count : Nat} {instruction : Instruction}
      (earlier : Consumes limits code start config count)
      (here : code[config.ip]? = some instruction) (turn : Turn limits code config next) :
      Consumes limits code start next (count + if instruction.readsInput then 1 else 0)

theorem Reaches.consumes (reach : Reaches limits code start config) :
    ∃ count, Consumes limits code start config count := by
  induction reach with
  | refl => exact ⟨0, .refl⟩
  | tail _ turn induction =>
      obtain ⟨count, earlier⟩ := induction
      cases turn with
      | intro found done lands => exact ⟨_, earlier.tail found (.intro found done lands)⟩

/-- After some lines have been read, those behind them are left. -/
theorem Consumes.input_eq {bytes : List UInt8} (begun : start.state.input = .ofBytes bytes)
    (consumes : Consumes limits code start config count) :
    ∃ rest, config.state.input = .ofBytes rest ∧
      InputStream.lines rest = (InputStream.lines bytes).drop count := by
  induction consumes with
  | refl => exact ⟨bytes, begun, rfl⟩
  | @tail _ _ _ instruction earlier here turn induction =>
      obtain ⟨rest, left, others⟩ := induction
      cases turn with
      | @intro ip target state next other distance found done lands =>
          obtain rfl : instruction = other := Option.some.inj (here.symm.trans found)
          have input : next.input = if instruction.readsInput then state.input.readLine.2
              else state.input := (executes_of_attempt done).1.input_eq
          -- What is left has the lines behind those that have been read, so the next one is taken.
          obtain ⟨behind, read, fewer⟩ := InputStream.readLine_ofBytes rest
          rw [left, read] at input
          cases reads : instruction.readsInput with
          | true =>
              rw [reads, if_pos rfl] at input
              exact ⟨behind, input, by rw [fewer, others, List.tail_drop]; rfl⟩
          | false =>
              rw [reads, if_neg Bool.false_ne_true] at input
              exact ⟨rest, input, others⟩

/-- An instruction that reads from a stream that is not closed stores the first line, and nothing
about the input makes it fault. -/
theorem attempt_input_ends {state : State} {bytes : List UInt8} (limits : Limits) (ip slot : Nat)
    (opened : state.input = .ofBytes bytes) :
    Ends (attempt limits ip (.input slot)) state
      (fun distance next => distance = 1 ∧ next.stack = state.stack ∧
        next.pool = state.pool.set slot
          (.string (((InputStream.lines bytes).head?.map InputStream.Line.trimmed).getD "")) ∧
        (state.pool.get? slot).isSome)
      (fun fault _ => Exceeds limits state fault ∨ fault = .stream .flushClosed ∨
        fault = .badCell ip slot ∧ state.pool.get? slot = none) := by
  obtain ⟨rest, read, -⟩ := InputStream.readLine_ofBytes bytes
  refine ends_bind ((begin_ends limits state).imp ?_ fun fault _ exceeds => .inl exceeds.2)
  rintro _ _ ⟨rfl, -⟩
  refine ends_bind (ends_bind (ends_withOutput (fun output flushed => ?_)
    (fun fault output failed => ?_)))
  · refine ends_bind (ends_readLine (fun text input answered => ?_)
      (fun fault input failed => ?_))
    · rw [State.begun, opened, read] at answered
      cases answered
      exact ends_store (fun active => ends_pure ⟨rfl, rfl, rfl, active⟩)
        (fun inactive => .inr (.inr ⟨rfl, inactive⟩))
    · rw [State.begun, opened, read] at failed
      cases failed
  · have closed : fault = .flushClosed := by
      unfold OutputStream.flush at failed
      split at failed <;> cases failed
      rfl
    exact .inr (.inl (congrArg Fault.stream closed))

end Runs

/-! ## Programs -/

/-- On every way that a run takes, its instructions that read go through the lines of the input one
by one. Where some lines have been read, what is left is the lines behind them, and an instruction
that reads stores the next one without a carriage return at its end, or the empty text if there is
none. It faults only for a bound, a closed output, or a cell that is not in use. What is stored is
the text of the line, unless it is the last one, a carriage return ends it and no line feed does. -/
theorem inputs_read_lines (limits : Limits) (program : Program) (bytes : List UInt8)
    (output : OutputStream) :
    (∀ config, Reaches limits program.code (.start program (.ofBytes bytes) output) config →
      ∃ count, Consumes limits program.code (.start program (.ofBytes bytes) output) config
        count) ∧
    (∀ config count,
      Consumes limits program.code (.start program (.ofBytes bytes) output) config count →
        config.state.input = .ofBytes
          (((InputStream.lines bytes).drop count).flatMap InputStream.Line.bytes) ∧
        ∀ slot, program.code[config.ip]? = some (.input slot) →
          Ends (attempt limits config.ip (.input slot)) config.state
            (fun distance next => distance = 1 ∧ next.stack = config.state.stack ∧
              next.pool = config.state.pool.set slot (.string
                (((InputStream.lines bytes)[count]?.map InputStream.Line.trimmed).getD "")) ∧
              (config.state.pool.get? slot).isSome)
            (fun fault _ => Exceeds limits config.state fault ∨ fault = .stream .flushClosed ∨
              fault = .badCell config.ip slot ∧ config.state.pool.get? slot = none)) ∧
    (∀ line ∈ InputStream.lines bytes, 10 ∉ line.content) ∧
    (∀ line ∈ (InputStream.lines bytes).dropLast, line.trimmed = line.text) ∧
    ∀ line ∈ InputStream.lines bytes, line.trimmed ≠ line.text →
      line.fed = false ∧ line.content.getLast? = some 13 := by
  refine ⟨fun config => Reaches.consumes, fun config count consumes => ?_,
    fun line => InputStream.lineFeed_notMem_content, fun line member => ?_,
    fun line member differs => ?_⟩
  · obtain ⟨rest, left, others⟩ := consumes.input_eq rfl
    refine ⟨?_, fun slot here => ?_⟩
    · rw [left, ← others, InputStream.flatMap_bytes_lines]
    · have ended := attempt_input_ends limits config.ip slot left
      rwa [others, List.head?_drop] at ended
  · exact InputStream.Line.trimmed_eq_text (.inl (InputStream.fed_of_mem_dropLast member))
  · by_cases fed : line.fed = true
    · exact absurd (InputStream.Line.trimmed_eq_text (.inl fed)) differs
    · by_cases last : line.content.getLast? = some 13
      · exact ⟨by simpa using fed, last⟩
      · exact absurd (InputStream.Line.trimmed_eq_text (.inr last)) differs

/-- A program that reads two lines. -/
def readingTwice : Program := ⟨[.input 0, .input 1], [.unknown, .unknown]⟩

/-- Two lines, the last of which ends in a carriage return and no line feed. -/
def twoLines : List UInt8 := [97, 13, 10, 98, 13]

/-- The configuration in which the first of two lines has been read. -/
def oneRead : Config :=
  ⟨1, [], ⟨[.string (InputStream.Line.trimmed ⟨[97, 13], true⟩), .unknown]⟩, 1, .ofBytes [98, 13],
    .unbounded⟩

theorem consumes_oneRead :
    Consumes .standard readingTwice.code (.start readingTwice (.ofBytes twoLines) .unbounded)
      oneRead 1 := by
  have turn : Turn .standard readingTwice.code
      (.start readingTwice (.ofBytes twoLines) .unbounded) oneRead := .intro rfl rfl rfl
  have here : readingTwice.code[0]? = some (.input 0) := rfl
  exact .tail .refl here turn

theorem inputs_read_lines_twoLines :
    Consumes .standard readingTwice.code (.start readingTwice (.ofBytes twoLines) .unbounded)
        oneRead 1 ∧
      readingTwice.code[1]? = some (.input 1) ∧
      ∃ next, Turn .standard readingTwice.code oneRead ⟨2, next⟩ ∧
        next.pool.cells = [.string (InputStream.Line.trimmed ⟨[97, 13], true⟩),
          .string (InputStream.Line.trimmed ⟨[98, 13], false⟩)] := by
  have ended := ((inputs_read_lines .standard readingTwice twoLines .unbounded).2.1 oneRead 1
    consumes_oneRead).2 1 rfl
  unfold Ends at ended
  split at ended
  next distance next done =>
    obtain ⟨rfl, -, pool, -⟩ := ended
    exact ⟨consumes_oneRead, rfl, next, .intro rfl done rfl, congrArg Pool.cells pool⟩
  next fault next failed => cases failed

/-- A line is not always stored with all that belongs to it: a last line may end in a carriage
return and no line feed. -/
theorem not_inputs_read_text :
    ¬ ∀ (limits : Limits) (program : Program) (bytes : List UInt8) (output : OutputStream)
        (config next : Config) (count slot : Nat) (line : InputStream.Line),
      Consumes limits program.code (.start program (.ofBytes bytes) output) config count →
        program.code[config.ip]? = some (.input slot) → Turn limits program.code config next →
          (InputStream.lines bytes)[count]? = some line →
            next.state.pool.get? slot = some (.string line.text) := by
  intro holds
  have turn : Turn .standard readingTwice.code oneRead
      ⟨2, [], ⟨[.string (InputStream.Line.trimmed ⟨[97, 13], true⟩),
        .string (InputStream.Line.trimmed ⟨[98, 13], false⟩)]⟩, 2, .ofBytes [], .unbounded⟩ :=
    .intro rfl rfl rfl
  have stored := holds .standard readingTwice twoLines .unbounded oneRead _ 1 1 _ consumes_oneRead
    rfl turn rfl
  have same : InputStream.Line.trimmed ⟨[98, 13], false⟩ =
      InputStream.Line.text ⟨[98, 13], false⟩ := Cell.string.inj (Option.some.inj stored)
  exact absurd same (by decide +kernel)

end Machine

end StackScript
