/-
`BufferInputStream` and `BufferOutputStream`.

An input stream never stands behind its buffer: every read first asks for
enough bytes and otherwise leaves with `std::out_of_range`.  An output stream
that owns its buffer grows before every write, so a write never fails.  What
one stream writes, the other reads.
-/

import Tg2Sip.Lib.LittleEndian
import Tg2Sip.Lib.Reading
import Tg2Sip.Voip.Protocol

namespace Tg2Sip.Voip

/-- Why an incoming packet is given up.  `outOfRange` is the exception that the
receive thread catches; the others are the early returns. -/
inductive Discarded where
  | outOfRange
  | wrongPeerTag
  | relayResponse
  | tooSmall
  | tooLong
  | wrongFingerprint
  | wrongDecryptedLength
  | wrongHash
  | wrongInnerLength
  | tooLittlePadding
  | flagsMissing
  | wrongCallId
  | wrongProtocol
  | unknownType
  deriving DecidableEq, Repr

structure BufferInputStream where
  buffer : Bytes
  offset : Nat
  within : offset ≤ buffer.length

namespace BufferInputStream

def ofBytes (buffer : Bytes) : BufferInputStream :=
  { buffer := buffer
    offset := 0
    within := Nat.zero_le _ }

def rest (stream : BufferInputStream) : Bytes := stream.buffer.drop stream.offset

def remaining (stream : BufferInputStream) : Nat := stream.buffer.length - stream.offset

def advance (count : Nat) (stream : BufferInputStream) : BufferInputStream :=
  { stream with
    offset := min (stream.offset + count) stream.buffer.length
    within := Nat.min_le_right _ _ }

theorem rest_length (stream : BufferInputStream) : stream.rest.length = stream.remaining := by
  unfold rest remaining
  rw [List.length_drop]

@[simp] theorem ofBytes_rest (buffer : Bytes) : (ofBytes buffer).rest = buffer := rfl

end BufferInputStream

def inputStream : Reading.Source BufferInputStream UInt8 where
  remaining := BufferInputStream.rest
  advance := BufferInputStream.advance
  remaining_advance := by
    intro count stream
    have within := stream.within
    unfold BufferInputStream.rest
    change stream.buffer.drop (min (stream.offset + count) stream.buffer.length) = _
    rw [List.drop_drop]
    by_cases inside : stream.offset + count ≤ stream.buffer.length
    · rw [Nat.min_eq_left inside]
    · rw [Nat.min_eq_right (by omega), List.drop_length, List.drop_eq_nil_of_le (by omega)]
  advance_zero := by
    intro stream
    unfold BufferInputStream.advance
    congr 1
    exact Nat.min_eq_left stream.within
  advance_advance := by
    intro first second stream
    unfold BufferInputStream.advance
    congr 1
    change min (min (stream.offset + first) stream.buffer.length + second)
      stream.buffer.length = min (stream.offset + (first + second)) stream.buffer.length
    omega

abbrev Read := Reading.Reader BufferInputStream Discarded

/-- A text that is read, and of which no part is. -/
abbrev Reads {Value : Type} (reader : Read Value) (text : Bytes) (value : Value) : Prop :=
  Reading.Reads inputStream .outOfRange reader text value

def ensureEnoughRemaining (need : Nat) : Read Unit := do
  let stream ← get
  if stream.remaining < need then throw .outOfRange

def readBytes (count : Nat) : Read Bytes := do
  ensureEnoughRemaining count
  let stream ← get
  set (stream.advance count)
  pure (stream.rest.take count)

def readByte : Read UInt8 := (fun bytes => bytes.headD 0) <$> readBytes 1

def readInt16 : Read (BitVec 16) := LittleEndian.value 16 <$> readBytes 2

def readInt32 : Read (BitVec 32) := LittleEndian.value 32 <$> readBytes 4

def readInt64 : Read (BitVec 64) := LittleEndian.value 64 <$> readBytes 8

/-- Three bytes follow a first byte of 254 or more. -/
def readTlLength : Read Nat := do
  let l ← readByte
  if l < 254 then pure l.toNat
  else (fun bytes => (LittleEndian.value 32 bytes).toNat) <$> readBytes 3

/-- `Seek(GetOffset() + count)`. -/
def skip (count : Nat) : Read Unit := do
  let stream ← get
  if stream.offset + count > stream.buffer.length then throw .outOfRange
  set (stream.advance count)

theorem readBytes_run (count : Nat) (stream : BufferInputStream) :
    (readBytes count).run stream =
      if stream.remaining < count then .error .outOfRange
      else .ok (stream.rest.take count, stream.advance count) := by
  unfold readBytes ensureEnoughRemaining
  by_cases short : stream.remaining < count
  · rw [if_pos short]
    simp [StateT.run_bind, short]
    rfl
  · rw [if_neg short]
    simp [StateT.run_bind, short]
    rfl

theorem skip_run (count : Nat) (stream : BufferInputStream) :
    (skip count).run stream =
      if stream.remaining < count then .error .outOfRange
      else .ok ((), stream.advance count) := by
  have within := stream.within
  have same : stream.offset + count > stream.buffer.length ↔ stream.remaining < count := by
    unfold BufferInputStream.remaining
    omega
  unfold skip
  by_cases short : stream.remaining < count
  · rw [if_pos short]
    simp [StateT.run_bind, same, short]
    rfl
  · rw [if_neg short]
    simp [StateT.run_bind, same, short]
    rfl

theorem readBytes_reads (bytes : Bytes) : Reads (readBytes bytes.length) bytes bytes where
  whole := by
    intro stream rest stands
    change stream.rest = bytes ++ rest at stands
    have length := stream.rest_length
    rw [stands, List.length_append] at length
    rw [readBytes_run, if_neg (by omega), stands, List.take_left]
    rfl
  starved := by
    intro stream missing some part
    change stream.rest ++ missing = bytes at part
    have length := stream.rest_length
    have positive := List.length_pos_of_ne_nil some
    rw [readBytes_run, if_pos]
    rw [← part, List.length_append]
    omega

theorem skip_reads (bytes : Bytes) : Reads (skip bytes.length) bytes () where
  whole := by
    intro stream rest stands
    change stream.rest = bytes ++ rest at stands
    have length := stream.rest_length
    rw [stands, List.length_append] at length
    rw [skip_run, if_neg (by omega)]
    rfl
  starved := by
    intro stream missing some part
    change stream.rest ++ missing = bytes at part
    have length := stream.rest_length
    have positive := List.length_pos_of_ne_nil some
    rw [skip_run, if_pos]
    rw [← part, List.length_append]
    omega

theorem readByte_reads (byte : UInt8) : Reads readByte [byte] byte :=
  (readBytes_reads [byte]).map (fun (bytes : Bytes) => bytes.headD 0)

theorem number_reads {width count : Nat} (enough : width ≤ 8 * count) (number : BitVec width) :
    Reads (LittleEndian.value width <$> readBytes count) (LittleEndian.bytes count number)
      number := by
  have reads := (readBytes_reads (LittleEndian.bytes count number)).map
    (LittleEndian.value width)
  rw [LittleEndian.length_bytes, LittleEndian.value_bytes enough] at reads
  exact reads

/-- A stream that owns its buffer: what is written, and how much room there is. -/
structure BufferOutputStream where
  buffer : Bytes
  size : Nat
  fits : buffer.length ≤ size

namespace BufferOutputStream

def ofSize (size : Nat) : BufferOutputStream :=
  { buffer := []
    size := size
    fits := Nat.zero_le _ }

/-- `ExpandBufferIfNeeded`: the size afterwards. -/
def expandBufferIfNeeded (stream : BufferOutputStream) (need : Nat) : Nat :=
  if stream.buffer.length + need > stream.size then
    if need < 1024 then stream.size + 1024 else stream.size + need
  else stream.size

theorem expandBufferIfNeeded_enough (stream : BufferOutputStream) (need : Nat) :
    stream.buffer.length + need ≤ stream.expandBufferIfNeeded need := by
  have fits := stream.fits
  unfold expandBufferIfNeeded
  split
  · split
    · omega
    · omega
  · omega

def writeBytes (stream : BufferOutputStream) (bytes : Bytes) : BufferOutputStream :=
  { buffer := stream.buffer ++ bytes
    size := stream.expandBufferIfNeeded bytes.length
    fits := by
      rw [List.length_append]
      exact stream.expandBufferIfNeeded_enough bytes.length }

def writeByte (stream : BufferOutputStream) (byte : UInt8) : BufferOutputStream :=
  stream.writeBytes [byte]

def writeInt16 (stream : BufferOutputStream) (i : BitVec 16) : BufferOutputStream :=
  stream.writeBytes (LittleEndian.bytes 2 i)

def writeInt32 (stream : BufferOutputStream) (i : BitVec 32) : BufferOutputStream :=
  stream.writeBytes (LittleEndian.bytes 4 i)

def writeInt64 (stream : BufferOutputStream) (i : BitVec 64) : BufferOutputStream :=
  stream.writeBytes (LittleEndian.bytes 8 i)

@[simp] theorem ofSize_buffer (size : Nat) : (ofSize size).buffer = [] := rfl

@[simp] theorem writeBytes_buffer (stream : BufferOutputStream) (bytes : Bytes) :
    (stream.writeBytes bytes).buffer = stream.buffer ++ bytes := rfl

@[simp] theorem writeByte_buffer (stream : BufferOutputStream) (byte : UInt8) :
    (stream.writeByte byte).buffer = stream.buffer ++ [byte] := rfl

@[simp] theorem writeInt16_buffer (stream : BufferOutputStream) (i : BitVec 16) :
    (stream.writeInt16 i).buffer = stream.buffer ++ LittleEndian.bytes 2 i := rfl

@[simp] theorem writeInt32_buffer (stream : BufferOutputStream) (i : BitVec 32) :
    (stream.writeInt32 i).buffer = stream.buffer ++ LittleEndian.bytes 4 i := rfl

@[simp] theorem writeInt64_buffer (stream : BufferOutputStream) (i : BitVec 64) :
    (stream.writeInt64 i).buffer = stream.buffer ++ LittleEndian.bytes 8 i := rfl

end BufferOutputStream

end Tg2Sip.Voip
