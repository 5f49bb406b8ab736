import StackScript.Text.Utf8

/-!
# Streams

A program reads lines from one stream of bytes and writes text to another. Either may be closed at
some point: the input behind its last byte, the output after a number of bytes or of flushes.
-/

namespace StackScript

/-- A use of a closed stream. -/
inductive StreamFault where
  | readClosed
  | writeClosed
  | flushClosed
deriving DecidableEq, Repr

/-- The wording of a fault. -/
def StreamFault.message : StreamFault → String
  | readClosed => "read closed"
  | writeClosed => "write closed"
  | flushClosed => "flush closed"

/-- A stream to read from. -/
structure InputStream where
  /-- The bytes that have not been read. -/
  bytes : List UInt8
  /-- Whether reading behind the last byte fails. -/
  closed : Bool
deriving DecidableEq, Repr

namespace InputStream

/-- The stream of some bytes. -/
def ofBytes (bytes : List UInt8) : InputStream := ⟨bytes, false⟩

/-- Bytes without one carriage return at their end. -/
def dropReturn (bytes : List UInt8) : List UInt8 :=
  if bytes.getLast? = some 13 then bytes.dropLast else bytes

/-- The text of the next line, and the stream behind it. A line ends with a line feed or with the
stream; a carriage return at its end is no part of its text. -/
def readLine (stream : InputStream) : Except StreamFault String × InputStream :=
  let line := stream.bytes.takeWhile (· ≠ 10)
  let text := Text.Utf8.decodeLossy (dropReturn line)
  match stream.bytes.dropWhile (· ≠ 10) with
  | _ :: rest => (.ok text, { stream with bytes := rest })
  | [] =>
      (if stream.closed then .error .readClosed else .ok text, { stream with bytes := [] })

end InputStream

/-- A stream to write to. -/
structure OutputStream where
  /-- The bytes that have been written. -/
  written : Array UInt8
  /-- The number of bytes that can still be written, if it is bounded. -/
  room : Option Nat
  /-- The number of flushes that will still succeed, if it is bounded. -/
  flushes : Option Nat
deriving DecidableEq, Repr

namespace OutputStream

/-- The empty stream that is never closed. -/
def unbounded : OutputStream := ⟨#[], none, none⟩

/-- Write some bytes, or as many of them as there is room for. -/
def write (stream : OutputStream) (bytes : List UInt8) : Except StreamFault Unit × OutputStream :=
  match stream.room with
  | none => (.ok (), { stream with written := stream.written ++ bytes })
  | some room =>
      let next : OutputStream :=
        { stream with
          written := stream.written ++ bytes.take room
          room := some (room - bytes.length) }
      (if bytes.length ≤ room then .ok () else .error .writeClosed, next)

/-- Hand on what has been written. -/
def flush (stream : OutputStream) : Except StreamFault Unit × OutputStream :=
  match stream.flushes with
  | none => (.ok (), stream)
  | some 0 => (.error .flushClosed, stream)
  | some (left + 1) => (.ok (), { stream with flushes := some left })

end OutputStream

end StackScript
