/-
Stream data.

A packet of stream data holds one item, or two or three; an item is a piece of
an audio stream, perhaps with copies of earlier pieces, or a segment of a video
frame.  `HandleAudioInput` and `SendVideoFrame` write single items, and
`ProcessIncomingPacket` hands what it reads to the jitter buffer or to the
packet reassembler.  The data is taken from the packet buffer and checked
against the length of the packet only.
-/

import Tg2Sip.Voip.Header

namespace Tg2Sip.Voip

def streamDataFlagLen16 : UInt8 := 0x40

def streamDataXflagKeyframe : BitVec 16 := 0x8000
def streamDataXflagFragmented : BitVec 16 := 0x4000
def streamDataXflagExtraFec : BitVec 16 := 0x2000

def sdlenMask : BitVec 16 := 0x7FF

/-- Where the data of an incoming stream goes: `jitterBuffer` and
`packetReassembler` say whether the stream has one. -/
inductive StreamType where
  | audio (jitterBuffer : Bool) (frameDuration : BitVec 16)
  | video (packetReassembler : Bool)
  | other
  deriving DecidableEq, Repr

structure Stream where
  id : UInt8
  type : StreamType
  deriving DecidableEq, Repr

/-- What is handed over: `JitterBuffer::HandleInput` or
`PacketReassembler::AddFragment`. -/
inductive Handed where
  | input (data : Bytes) (pts : BitVec 32) (isEC : Bool)
  | fragment (data : Bytes) (fragmentIndex fragmentCount : UInt8) (pts : BitVec 32)
      (keyframe : Bool)
  deriving DecidableEq, Repr

/-- An item up to its data; `sdlen` still carries the flags. -/
structure StreamItem where
  streamID : UInt8
  sdlen : BitVec 16
  pts : BitVec 32
  fragmentIndex : UInt8
  fragmentCount : UInt8
  deriving DecidableEq, Repr

def StreamItem.fragmented (item : StreamItem) : Bool :=
  item.sdlen &&& streamDataXflagFragmented != 0

def StreamItem.extraFEC (item : StreamItem) : Bool := item.sdlen &&& streamDataXflagExtraFec != 0

def StreamItem.keyframe (item : StreamItem) : Bool := item.sdlen &&& streamDataXflagKeyframe != 0

def StreamItem.length (item : StreamItem) : Nat := (item.sdlen &&& sdlenMask).toNat

def readSdlen (streamID : UInt8) : Read (BitVec 16) :=
  if streamID &&& streamDataFlagLen16 ≠ 0 then readInt16
  else (fun byte => byte.toBitVec.setWidth 16) <$> readByte

def readFragmentByte (sdlen : BitVec 16) : Read UInt8 :=
  if sdlen &&& streamDataXflagFragmented ≠ 0 then readByte else pure 0

def readStreamItem : Read StreamItem := do
  let streamID ← readByte
  let sdlen ← readSdlen streamID
  let pts ← readInt32
  let fragmentIndex ← readFragmentByte sdlen
  let fragmentCount ← readFragmentByte sdlen
  pure ⟨streamID &&& 0x3F, sdlen, pts, fragmentIndex, fragmentCount⟩

def readFec : Read Bytes := do
  let dlen ← readByte
  readBytes dlen.toNat

/-- The copies are handed over with the times of the pieces before this one. -/
def handFec (pts : BitVec 32) (frameDuration : BitVec 16) (fecCount : Nat)
    (copies : List Bytes) : List Handed :=
  copies.zipIdx.map (fun (data, j) =>
    .input data (pts - BitVec.ofNat 32 (fecCount - j - 1) * frameDuration.setWidth 32) true)

/-- The copies behind the data, as far as they can be read, and where the
stream stands then. -/
def handleFec (item : StreamItem) (frameDuration : BitVec 16) (stream : BufferInputStream) :
    List Handed × Except Discarded BufferInputStream :=
  match (do skip item.length; readByte : Read UInt8).run stream with
  | .error why => ([], .error why)
  | .ok (fecCount, behind) =>
      let (copies, rest) := Reading.collect readFec fecCount.toNat behind
      (handFec item.pts frameDuration fecCount.toNat copies, rest)

def streamOf (streams : List Stream) (streamID : UInt8) : Option StreamType :=
  (streams.find? (fun known => known.id = streamID)).map Stream.type

def handleItem (streams : List Stream) (item : StreamItem) (data : Bytes)
    (stream : BufferInputStream) : List Handed × Except Discarded BufferInputStream :=
  match streamOf streams item.streamID with
  | some (.audio true frameDuration) =>
      let (copies, rest) :=
        if item.extraFEC then handleFec item frameDuration stream else ([], .ok stream)
      (.input data item.pts false :: copies, rest)
  | some (.video true) =>
      ([.fragment data item.fragmentIndex item.fragmentCount item.pts item.keyframe], .ok stream)
  | _ => ([], .ok stream)

/-- The stream data of a packet with `count` items; `buffer` is the packet
buffer and `len` the length of the packet.  Between two items the length is
passed over once more, also behind copies. -/
def handleStreamData (streams : List Stream) (buffer : Bytes) (len : Nat) :
    Nat → BufferInputStream → List Handed × Option Discarded
  | 0, _ => ([], none)
  | count + 1, stream =>
      match readStreamItem.run stream with
      | .error why => ([], some why)
      | .ok (item, behind) =>
          if behind.offset + item.length > len then ([], none)
          else
            match handleItem streams item ((buffer.drop behind.offset).take item.length) behind with
            | (handed, .error why) => (handed, some why)
            | (handed, .ok rest) =>
                if count = 0 then (handed, none)
                else
                  match (skip item.length).run rest with
                  | .error why => (handed, some why)
                  | .ok (_, next) =>
                      let (others, fault) := handleStreamData streams buffer len count next
                      (handed ++ others, fault)

def readStreamEc : Read (UInt8 × BitVec 32 × UInt8) := do
  let streamID ← readByte
  let lastTimestamp ← readInt32
  let count ← readByte
  pure (streamID, lastTimestamp, count)

/-- `PKT_STREAM_EC`: only copies. -/
def handleStreamEc (streams : List Stream) (stream : BufferInputStream) :
    List Handed × Option Discarded :=
  match readStreamEc.run stream with
  | .error why => ([], some why)
  | .ok ((streamID, lastTimestamp, count), behind) =>
      match streams.find? (fun known => known.id = streamID) with
      | none => ([], none)
      | some known =>
          let (copies, rest) := Reading.collect readFec count.toNat behind
          let fault := match rest with
            | .error why => some why
            | .ok _ => none
          match known.type with
          | .audio true frameDuration =>
              (handFec lastTimestamp frameDuration count.toNat copies, fault)
          | _ => ([], fault)

def fecFlag (copies : Option (List Bytes)) : BitVec 16 :=
  if copies.isSome then streamDataXflagExtraFec else 0#16

def writeAudioHeader (data : Bytes) (audioTimestampOut : BitVec 32)
    (copies : Option (List Bytes)) : BufferOutputStream :=
  if data.length > 255 ∨ copies.isSome then
    (((BufferOutputStream.ofSize 1500).writeByte (1 ||| streamDataFlagLen16)).writeInt16
      (BitVec.ofNat 16 data.length ||| fecFlag copies)).writeInt32 audioTimestampOut
  else
    (((BufferOutputStream.ofSize 1500).writeByte 1).writeByte
      (UInt8.ofNat data.length)).writeInt32 audioTimestampOut

def writeCopy (pkt : BufferOutputStream) (copy : Bytes) : BufferOutputStream :=
  (pkt.writeByte (UInt8.ofNat copy.length)).writeBytes copy

/-- The part of `HandleAudioInput` that makes the packet: `copies` are the
newest of `ecAudioPackets`, or none when there are no extra copies. -/
def writeAudio (data : Bytes) (audioTimestampOut : BitVec 32) (copies : Option (List Bytes)) :
    Bytes :=
  let pkt := (writeAudioHeader data audioTimestampOut copies).writeBytes data
  match copies with
  | none => pkt.buffer
  | some copies => (copies.foldl writeCopy (pkt.writeByte (UInt8.ofNat copies.length))).buffer

/-- `PKT_STREAM_EC`, for a peer before version 7. -/
def writeStreamEc (streamID : UInt8) (audioTimestampOut : BitVec 32) (copies : List Bytes) :
    Bytes :=
  (copies.foldl writeCopy ((((BufferOutputStream.ofSize 1500).writeByte streamID).writeInt32
    audioTimestampOut).writeByte (UInt8.ofNat copies.length))).buffer

structure VideoFrame where
  data : Bytes
  keyframe : Bool
  deriving DecidableEq, Repr

def segmentSize : Nat := 1024

def VideoFrame.segmentCount (frame : VideoFrame) : Nat :=
  frame.data.length / segmentSize + if frame.data.length % segmentSize > 0 then 1 else 0

def VideoFrame.segment (frame : VideoFrame) (seg : Nat) : Bytes :=
  (frame.data.drop (seg * segmentSize)).take segmentSize

def VideoFrame.lengthAndFlags (frame : VideoFrame) (seg : Nat) : BitVec 16 :=
  let lengthAndFlags := BitVec.ofNat 16 (frame.segment seg).length &&& sdlenMask
  let lengthAndFlags :=
    if frame.segmentCount > 1 then lengthAndFlags ||| streamDataXflagFragmented
    else lengthAndFlags
  if frame.keyframe then lengthAndFlags ||| streamDataXflagKeyframe else lengthAndFlags

/-- One round of the loop of `SendVideoFrame`. -/
def VideoFrame.writeSegment (frame : VideoFrame) (streamID : UInt8) (pts : BitVec 32)
    (seg : Nat) : Bytes :=
  let pkt := (BufferOutputStream.ofSize 1500).writeByte (streamID ||| streamDataFlagLen16)
  let pkt := (pkt.writeInt16 (frame.lengthAndFlags seg)).writeInt32 pts
  let pkt :=
    if frame.segmentCount > 1 then
      (pkt.writeByte (UInt8.ofNat seg)).writeByte (UInt8.ofNat frame.segmentCount)
    else pkt
  (pkt.writeBytes (frame.segment seg)).buffer

/-! ### Items are read back -/

def sdlenText (first : UInt8) (sdlen : BitVec 16) : Bytes :=
  if first &&& streamDataFlagLen16 ≠ 0 then LittleEndian.bytes 2 sdlen
  else [UInt8.ofNat sdlen.toNat]

def fragmentText (sdlen : BitVec 16) (fragmentIndex fragmentCount : UInt8) : Bytes :=
  if sdlen &&& streamDataXflagFragmented ≠ 0 then [fragmentIndex, fragmentCount] else []

def itemText (first : UInt8) (sdlen : BitVec 16) (pts : BitVec 32)
    (fragmentIndex fragmentCount : UInt8) : Bytes :=
  [first] ++ (sdlenText first sdlen ++
    (int32Text pts ++ fragmentText sdlen fragmentIndex fragmentCount))

theorem int16_reads (i : BitVec 16) : Reads readInt16 (LittleEndian.bytes 2 i) i :=
  number_reads (by decide) i

theorem sdlen_reads {first : UInt8} {sdlen : BitVec 16}
    (fits : first &&& streamDataFlagLen16 = 0 → sdlen.toNat < 256) :
    Reads (readSdlen first) (sdlenText first sdlen) sdlen := by
  unfold readSdlen sdlenText
  by_cases long : first &&& streamDataFlagLen16 ≠ 0
  · rw [if_pos long, if_pos long]
    exact int16_reads sdlen
  · have small := fits (not_not.mp long)
    have byte : (UInt8.ofNat sdlen.toNat).toBitVec.setWidth 16 = sdlen := by
      apply BitVec.eq_of_toNat_eq
      rw [BitVec.toNat_setWidth, UInt8.toNat_toBitVec, UInt8.toNat_ofNat_of_lt' small]
      exact Nat.mod_eq_of_lt sdlen.isLt
    have reads := (readByte_reads (UInt8.ofNat sdlen.toNat)).map
      (fun byte => byte.toBitVec.setWidth 16)
    rw [byte] at reads
    rw [if_neg long, if_neg long]
    exact reads

theorem item_reads {first : UInt8} {sdlen : BitVec 16} (pts : BitVec 32)
    {fragmentIndex fragmentCount : UInt8}
    (fits : first &&& streamDataFlagLen16 = 0 → sdlen.toNat < 256)
    (whole : sdlen &&& streamDataXflagFragmented = 0 → fragmentIndex = 0 ∧ fragmentCount = 0) :
    Reads readStreamItem (itemText first sdlen pts fragmentIndex fragmentCount)
      ⟨first &&& 0x3F, sdlen, pts, fragmentIndex, fragmentCount⟩ := by
  apply (readByte_reads first).bind
  apply (sdlen_reads fits).bind
  apply (int32_reads pts).bind
  unfold fragmentText readFragmentByte
  by_cases fragmented : sdlen &&& streamDataXflagFragmented ≠ 0
  · rw [if_pos fragmented, if_pos fragmented]
    exact (readByte_reads fragmentIndex).bind
      ((readByte_reads fragmentCount).last Reading.Reads.pure)
  · obtain ⟨index, count⟩ := whole (not_not.mp fragmented)
    rw [if_neg fragmented, if_neg fragmented, index, count]
    exact Reading.Reads.pure.last (Reading.Reads.pure.last Reading.Reads.pure)

theorem length_masked {length : Nat} (small : length < 2048) :
    BitVec.ofNat 16 length &&& sdlenMask = BitVec.ofNat 16 length := by
  apply BitVec.eq_of_toNat_eq
  have inside : length < 2 ^ 16 := Nat.lt_trans small (by decide)
  rw [BitVec.toNat_and, BitVec.toNat_ofNat, Nat.mod_eq_of_lt inside]
  exact Nat.and_two_pow_sub_one_of_lt_two_pow (n := 11) small

theorem masked_length {length : Nat} (small : length < 2048) {flags : BitVec 16}
    (above : flags &&& sdlenMask = 0#16) :
    ((BitVec.ofNat 16 length ||| flags) &&& sdlenMask).toNat = length := by
  rw [BitVec.and_or_distrib_right, length_masked small, above, BitVec.or_zero,
    BitVec.toNat_ofNat]
  exact Nat.mod_eq_of_lt (Nat.lt_trans small (by decide))

theorem flags_and {length : Nat} (small : length < 2048) (flags : BitVec 16) {flag : BitVec 16}
    (above : sdlenMask &&& flag = 0#16) :
    (BitVec.ofNat 16 length ||| flags) &&& flag = flags &&& flag := by
  have clear : BitVec.ofNat 16 length &&& flag = 0#16 := by
    rw [← length_masked small, BitVec.and_assoc, above, BitVec.and_zero]
  rw [BitVec.and_or_distrib_right, clear, BitVec.zero_or]

/-- The packet buffer holds what the stream reads, and the packet is as long. -/
structure Holds (buffer : Bytes) (len : Nat) (stream : BufferInputStream) : Prop where
  begins : ∃ behind, buffer = stream.buffer ++ behind
  inside : stream.buffer.length ≤ len

theorem Holds.advance {buffer : Bytes} {len : Nat} {stream : BufferInputStream}
    (holds : Holds buffer len stream) (count : Nat) : Holds buffer len (stream.advance count) :=
  { begins := holds.begins
    inside := holds.inside }

variable {buffer data rest : Bytes} {len : Nat} {stream : BufferInputStream}

theorem Holds.taken (holds : Holds buffer len stream) (stands : stream.rest = data ++ rest) :
    (buffer.drop stream.offset).take data.length = data := by
  obtain ⟨behind, whole⟩ := holds.begins
  rw [whole, List.drop_append_of_le_length stream.within]
  change (stream.rest ++ behind).take data.length = data
  rw [stands, List.append_assoc, List.take_left]

theorem Holds.fits (holds : Holds buffer len stream) (stands : stream.rest = data ++ rest) :
    ¬ stream.offset + data.length > len := by
  have length := stream.rest_length
  have within := stream.within
  have inside := holds.inside
  unfold BufferInputStream.remaining at length
  rw [stands, List.length_append] at length
  omega

theorem item_is_handled {streams : List Stream} {item : StreamItem} {text : Bytes}
    (holds : Holds buffer len stream) (reads : Reads readStreamItem text item)
    (length : item.length = data.length) (stands : stream.rest = text ++ (data ++ rest))
    {handed : List Handed} {next : BufferInputStream}
    (handles : handleItem streams item data (stream.advance text.length) = (handed, .ok next)) :
    handleStreamData streams buffer len 1 stream = (handed, none) := by
  have behind : (stream.advance text.length).rest = data ++ rest :=
    inputStream.remaining_behind stands
  have whole := reads.whole stream (data ++ rest) stands
  change readStreamItem.run stream = .ok (item, stream.advance text.length) at whole
  unfold handleStreamData
  rw [whole]
  dsimp only
  rw [length, if_neg ((holds.advance text.length).fits behind),
    (holds.advance text.length).taken behind, handles]
  rfl

def copyText (copy : Bytes) : Bytes := [UInt8.ofNat copy.length] ++ copy

def copiesText (copies : List Bytes) : Bytes :=
  [UInt8.ofNat copies.length] ++ copies.flatMap copyText

theorem fec_reads {copy : Bytes} (short : copy.length < 256) :
    Reads readFec (copyText copy) copy := by
  have byte : (UInt8.ofNat copy.length).toNat = copy.length := UInt8.toNat_ofNat_of_lt' short
  apply (readByte_reads _).bind
  rw [byte]
  exact readBytes_reads copy

theorem copies_read {copies : List Bytes} (short : ∀ copy ∈ copies, copy.length < 256)
    (stands : stream.rest = copies.flatMap copyText ++ rest) :
    ∃ next, Reading.collect readFec copies.length stream = (copies, .ok next) := by
  have reads := Reading.Reads.many (fun copy member => fec_reads (short copy member))
  exact ⟨_, Reading.collect_of_many (reads.whole stream rest stands)⟩

theorem fec_is_handled {item : StreamItem} (length : item.length = data.length)
    (frameDuration : BitVec 16) {copies : List Bytes} (few : copies.length < 256)
    (short : ∀ copy ∈ copies, copy.length < 256)
    (stands : stream.rest = data ++ (copiesText copies ++ rest)) :
    ∃ next, handleFec item frameDuration stream =
      (handFec item.pts frameDuration copies.length copies, .ok next) := by
  have byte : (UInt8.ofNat copies.length).toNat = copies.length := UInt8.toNat_ofNat_of_lt' few
  have count : Reads (do skip data.length; readByte) (data ++ [UInt8.ofNat copies.length])
      (UInt8.ofNat copies.length) := (skip_reads data).bind (readByte_reads _)
  have stands : stream.rest =
      (data ++ [UInt8.ofNat copies.length]) ++ (copies.flatMap copyText ++ rest) := by
    rw [stands, copiesText]
    simp only [List.append_assoc]
  have behind := inputStream.remaining_behind stands
  obtain ⟨next, collected⟩ := copies_read short behind
  have whole := count.whole stream _ stands
  refine ⟨next, ?_⟩
  unfold handleFec
  rw [length, whole]
  dsimp only
  rw [byte, collected]

def audioFirst (data : Bytes) (copies : Option (List Bytes)) : UInt8 :=
  if data.length > 255 ∨ copies.isSome then 1 ||| streamDataFlagLen16 else 1

def audioSdlen (data : Bytes) (copies : Option (List Bytes)) : BitVec 16 :=
  BitVec.ofNat 16 data.length ||| fecFlag copies

def audioText (data : Bytes) (pts : BitVec 32) (copies : Option (List Bytes)) : Bytes :=
  itemText (audioFirst data copies) (audioSdlen data copies) pts 0 0

def audioBehind (copies : Option (List Bytes)) : Bytes :=
  match copies with
  | none => []
  | some copies => copiesText copies

theorem foldl_writeCopy_buffer (copies : List Bytes) (pkt : BufferOutputStream) :
    (copies.foldl writeCopy pkt).buffer = pkt.buffer ++ copies.flatMap copyText := by
  induction copies generalizing pkt with
  | nil => rw [List.foldl_nil, List.flatMap_nil, List.append_nil]
  | cons copy copies ih =>
      rw [List.foldl_cons, ih, List.flatMap_cons]
      simp only [writeCopy, copyText, BufferOutputStream.writeBytes_buffer,
        BufferOutputStream.writeByte_buffer, List.append_assoc]

theorem audio_not_fragmented {data : Bytes} (small : data.length < 2048)
    (copies : Option (List Bytes)) :
    audioSdlen data copies &&& streamDataXflagFragmented = 0#16 := by
  rw [audioSdlen, flags_and small _ (by decide)]
  cases copies with
  | none => decide
  | some copies => exact (by decide : streamDataXflagExtraFec &&& streamDataXflagFragmented = 0#16)

theorem audioSdlen_short {data : Bytes} {copies : Option (List Bytes)}
    (short : ¬ (data.length > 255 ∨ copies.isSome)) :
    (audioSdlen data copies).toNat = data.length := by
  obtain ⟨small, none⟩ := not_or.mp short
  rw [audioSdlen, fecFlag, if_neg none, BitVec.or_zero, BitVec.toNat_ofNat]
  exact Nat.mod_eq_of_lt (Nat.lt_of_le_of_lt (Nat.le_of_not_lt small) (by decide))

theorem writeAudioHeader_buffer {data : Bytes} (small : data.length < 2048) (pts : BitVec 32)
    (copies : Option (List Bytes)) :
    (writeAudioHeader data pts copies).buffer = audioText data pts copies := by
  have whole : ¬ audioSdlen data copies &&& streamDataXflagFragmented ≠ 0 :=
    not_not.mpr (audio_not_fragmented small copies)
  unfold writeAudioHeader audioText itemText fragmentText sdlenText audioFirst
  rw [if_neg whole]
  by_cases long : data.length > 255 ∨ copies.isSome
  · rw [if_pos long, if_pos long, if_pos (by decide)]
    rfl
  · rw [if_neg long, if_neg long, if_neg (by decide), audioSdlen_short long]
    rfl

theorem writeAudio_eq {data : Bytes} (small : data.length < 2048) (pts : BitVec 32)
    (copies : Option (List Bytes)) :
    writeAudio data pts copies = audioText data pts copies ++ (data ++ audioBehind copies) := by
  rw [← writeAudioHeader_buffer small, ← List.append_assoc]
  cases copies with
  | none => exact (List.append_nil _).symm
  | some copies =>
      change (copies.foldl writeCopy _).buffer = _
      rw [foldl_writeCopy_buffer]
      simp only [audioBehind, copiesText, BufferOutputStream.writeBytes_buffer,
        BufferOutputStream.writeByte_buffer, List.append_assoc]

theorem audio_reads (data : Bytes) (pts : BitVec 32) (copies : Option (List Bytes)) :
    Reads readStreamItem (audioText data pts copies) ⟨1, audioSdlen data copies, pts, 0, 0⟩ := by
  have streamID : audioFirst data copies &&& 0x3F = 1 := by
    unfold audioFirst
    split
    · decide
    · decide
  have fits : audioFirst data copies &&& streamDataFlagLen16 = 0 →
      (audioSdlen data copies).toNat < 256 := by
    intro bit
    by_cases long : data.length > 255 ∨ copies.isSome
    · rw [audioFirst, if_pos long] at bit
      exact absurd bit (by decide)
    · rw [audioSdlen_short long]
      exact Nat.lt_succ_of_le (Nat.le_of_not_lt (not_or.mp long).1)
  have reads : Reads readStreamItem (audioText data pts copies) _ :=
    item_reads pts fits (fun _ => ⟨rfl, rfl⟩)
  rw [streamID] at reads
  exact reads

def handedAudio (data : Bytes) (pts : BitVec 32) (frameDuration : BitVec 16)
    (copies : Option (List Bytes)) : List Handed :=
  .input data pts false ::
    match copies with
    | none => []
    | some copies => handFec pts frameDuration copies.length copies

def FewShort (copies : List Bytes) : Prop :=
  copies.length < 256 ∧ ∀ copy ∈ copies, copy.length < 256

/-- A piece of an audio stream is handed to the jitter buffer with its copies. -/
theorem audio_is_handed_over {streams : List Stream} {frameDuration : BitVec 16}
    (known : streamOf streams 1 = some (.audio true frameDuration))
    (small : data.length < 2048) (pts : BitVec 32) {copies : Option (List Bytes)}
    (fit : ∀ list, copies = some list → FewShort list)
    (holds : Holds buffer len stream)
    (stands : stream.rest = writeAudio data pts copies ++ rest) :
    handleStreamData streams buffer len 1 stream =
      (handedAudio data pts frameDuration copies, none) := by
  have length : StreamItem.length ⟨1, audioSdlen data copies, pts, 0, 0⟩ = data.length := by
    apply masked_length small
    cases copies with
    | none => decide
    | some copies => exact (by decide : streamDataXflagExtraFec &&& sdlenMask = 0#16)
  have extraFEC : StreamItem.extraFEC ⟨1, audioSdlen data copies, pts, 0, 0⟩ = copies.isSome := by
    change (audioSdlen data copies &&& streamDataXflagExtraFec != 0) = _
    rw [audioSdlen, flags_and small _ (by decide)]
    cases copies with
    | none => decide
    | some copies =>
        exact (by decide : (streamDataXflagExtraFec &&& streamDataXflagExtraFec != 0) = true)
  rw [writeAudio_eq small, List.append_assoc, List.append_assoc] at stands
  have behind : (stream.advance (audioText data pts copies).length).rest =
      data ++ (audioBehind copies ++ rest) :=
    inputStream.remaining_behind stands
  have handles : ∃ next, handleItem streams ⟨1, audioSdlen data copies, pts, 0, 0⟩ data
      (stream.advance (audioText data pts copies).length) =
        (handedAudio data pts frameDuration copies, .ok next) := by
    unfold handleItem
    dsimp only
    rw [known, extraFEC]
    cases copies with
    | none => exact ⟨_, rfl⟩
    | some list =>
        obtain ⟨few, short⟩ := fit list rfl
        obtain ⟨next, handled⟩ := fec_is_handled length frameDuration few short behind
        refine ⟨next, ?_⟩
        dsimp only [Option.isSome_some]
        rw [if_pos rfl, handled]
        rfl
  obtain ⟨next, handled⟩ := handles
  exact item_is_handled holds (audio_reads data pts copies) length stands handled

/-- The copies that a peer before version 7 is sent apart. -/
theorem copies_are_handed_over {streams : List Stream} {streamID : UInt8}
    {frameDuration : BitVec 16}
    (known : streamOf streams streamID = some (.audio true frameDuration)) (pts : BitVec 32)
    {copies : List Bytes} (fit : FewShort copies)
    (stands : stream.rest = writeStreamEc streamID pts copies ++ rest) :
    handleStreamEc streams stream = (handFec pts frameDuration copies.length copies, none) := by
  obtain ⟨few, short⟩ := fit
  have byte : (UInt8.ofNat copies.length).toNat = copies.length := UInt8.toNat_ofNat_of_lt' few
  have header : Reads readStreamEc
      ([streamID] ++ (int32Text pts ++ [UInt8.ofNat copies.length]))
      (streamID, pts, UInt8.ofNat copies.length) :=
    (readByte_reads streamID).bind
      ((int32_reads pts).bind ((readByte_reads _).last Reading.Reads.pure))
  have stands : stream.rest = ([streamID] ++ (int32Text pts ++ [UInt8.ofNat copies.length])) ++
      (copies.flatMap copyText ++ rest) := by
    rw [stands, writeStreamEc, foldl_writeCopy_buffer]
    simp only [int32Text, BufferOutputStream.writeInt32_buffer,
      BufferOutputStream.writeByte_buffer, BufferOutputStream.ofSize_buffer, List.nil_append,
      List.append_assoc]
  have behind := inputStream.remaining_behind stands
  obtain ⟨next, collected⟩ := copies_read short behind
  unfold handleStreamEc
  rw [header.whole stream _ stands]
  dsimp only
  unfold streamOf at known
  cases found : streams.find? (fun known => known.id = streamID) with
  | none =>
      rw [found] at known
      cases known
  | some entry =>
      rw [found] at known
      have type := Option.some.inj known
      dsimp only
      rw [byte, collected, type]

/-! ### Video -/

def VideoFrame.flags (frame : VideoFrame) : BitVec 16 :=
  (if frame.segmentCount > 1 then streamDataXflagFragmented else 0#16) |||
    if frame.keyframe then streamDataXflagKeyframe else 0#16

/-- A frame of a single segment carries no numbers. -/
def VideoFrame.fragmentIndex (frame : VideoFrame) (seg : Nat) : UInt8 :=
  if frame.segmentCount > 1 then UInt8.ofNat seg else 0

def VideoFrame.fragmentCount (frame : VideoFrame) : UInt8 :=
  if frame.segmentCount > 1 then UInt8.ofNat frame.segmentCount else 0

theorem segment_small (frame : VideoFrame) (seg : Nat) : (frame.segment seg).length < 2048 := by
  have short := List.length_take_le segmentSize (frame.data.drop (seg * segmentSize))
  exact Nat.lt_of_le_of_lt short (by decide)

theorem lengthAndFlags_eq (frame : VideoFrame) (seg : Nat) :
    frame.lengthAndFlags seg =
      BitVec.ofNat 16 (frame.segment seg).length ||| frame.flags := by
  unfold VideoFrame.lengthAndFlags VideoFrame.flags
  rw [length_masked (segment_small frame seg)]
  dsimp only
  cases frame.keyframe with
  | true =>
      by_cases many : frame.segmentCount > 1
      · rw [if_pos rfl, if_pos rfl, if_pos many, if_pos many, BitVec.or_assoc]
      · rw [if_pos rfl, if_pos rfl, if_neg many, if_neg many, BitVec.zero_or]
  | false =>
      by_cases many : frame.segmentCount > 1
      · rw [if_neg Bool.false_ne_true, if_neg Bool.false_ne_true, if_pos many, if_pos many,
          BitVec.or_zero]
      · rw [if_neg Bool.false_ne_true, if_neg Bool.false_ne_true, if_neg many, if_neg many,
          BitVec.or_zero, BitVec.or_zero]

theorem videoFlags_fragmented (frame : VideoFrame) :
    frame.flags &&& streamDataXflagFragmented ≠ 0 ↔ frame.segmentCount > 1 := by
  unfold VideoFrame.flags
  split
  · rename_i many
    refine iff_of_true ?_ many
    split
    · decide
    · decide
  · rename_i one
    refine iff_of_false ?_ one
    split
    · decide
    · decide

theorem videoFlags_keyframe (frame : VideoFrame) :
    (frame.flags &&& streamDataXflagKeyframe != 0) = frame.keyframe := by
  unfold VideoFrame.flags
  cases frame.keyframe with
  | true =>
      split
      · decide
      · decide
  | false =>
      split
      · decide
      · decide

theorem videoFlags_above (frame : VideoFrame) : frame.flags &&& sdlenMask = 0#16 := by
  unfold VideoFrame.flags
  split
  · split
    · decide
    · decide
  · split
    · decide
    · decide

def videoText (frame : VideoFrame) (streamID : UInt8) (pts : BitVec 32) (seg : Nat) : Bytes :=
  itemText (streamID ||| streamDataFlagLen16) (frame.lengthAndFlags seg) pts
    (frame.fragmentIndex seg) frame.fragmentCount

theorem lengthAndFlags_fragmented (frame : VideoFrame) (seg : Nat) :
    frame.lengthAndFlags seg &&& streamDataXflagFragmented ≠ 0 ↔ frame.segmentCount > 1 := by
  rw [lengthAndFlags_eq, flags_and (segment_small frame seg) _ (by decide)]
  exact videoFlags_fragmented frame

theorem long_first (streamID : UInt8) : (streamID ||| streamDataFlagLen16) &&&
    streamDataFlagLen16 ≠ 0 := by
  intro clear
  have bits := congrArg UInt8.toBitVec clear
  rw [UInt8.toBitVec_and, UInt8.toBitVec_or] at bits
  revert bits
  generalize streamID.toBitVec = number
  revert number
  decide

theorem writeSegment_eq (frame : VideoFrame) (streamID : UInt8) (pts : BitVec 32) (seg : Nat) :
    frame.writeSegment streamID pts seg =
      videoText frame streamID pts seg ++ frame.segment seg := by
  unfold VideoFrame.writeSegment videoText itemText sdlenText fragmentText
    VideoFrame.fragmentIndex VideoFrame.fragmentCount
  rw [if_pos (long_first streamID)]
  dsimp only
  by_cases many : frame.segmentCount > 1
  · rw [if_pos ((lengthAndFlags_fragmented frame seg).mpr many)]
    simp only [if_pos many, int32Text, BufferOutputStream.writeBytes_buffer,
      BufferOutputStream.writeInt32_buffer, BufferOutputStream.writeInt16_buffer,
      BufferOutputStream.writeByte_buffer, BufferOutputStream.ofSize_buffer, List.append_assoc,
      List.nil_append, List.cons_append]
  · rw [if_neg (mt (lengthAndFlags_fragmented frame seg).mp many)]
    simp only [if_neg many, int32Text, BufferOutputStream.writeBytes_buffer,
      BufferOutputStream.writeInt32_buffer, BufferOutputStream.writeInt16_buffer,
      BufferOutputStream.writeByte_buffer, BufferOutputStream.ofSize_buffer, List.append_assoc,
      List.nil_append, List.append_nil]

def VideoFrame.handedSegment (frame : VideoFrame) (pts : BitVec 32) (seg : Nat) : Handed :=
  .fragment (frame.segment seg) (frame.fragmentIndex seg) frame.fragmentCount pts frame.keyframe

theorem low_streamID {streamID : UInt8} (low : streamID < 64) :
    (streamID ||| streamDataFlagLen16) &&& 0x3F = streamID := by
  have bits : ∀ number : BitVec 8, number < 64 → (number ||| 0x40) &&& 0x3F = number := by
    decide
  exact UInt8.eq_of_toBitVec_eq (bits streamID.toBitVec low)

/-- A segment of a video frame is handed to the packet reassembler. -/
theorem segment_is_handed_over {streams : List Stream} {streamID : UInt8}
    (low : streamID < 64) (known : streamOf streams streamID = some (.video true))
    (frame : VideoFrame) (pts : BitVec 32) (seg : Nat) (holds : Holds buffer len stream)
    (stands : stream.rest = frame.writeSegment streamID pts seg ++ rest) :
    handleStreamData streams buffer len 1 stream = ([frame.handedSegment pts seg], none) := by
  have whole : frame.lengthAndFlags seg &&& streamDataXflagFragmented = 0 →
      frame.fragmentIndex seg = 0 ∧ frame.fragmentCount = 0 := by
    intro clear
    have one : ¬ frame.segmentCount > 1 := fun many =>
      (lengthAndFlags_fragmented frame seg).mpr many clear
    exact ⟨if_neg one, if_neg one⟩
  have reads := item_reads pts (fun short => absurd short (long_first streamID)) whole
  rw [low_streamID low] at reads
  have small := segment_small frame seg
  have length : StreamItem.length ⟨streamID, frame.lengthAndFlags seg, pts,
      frame.fragmentIndex seg, frame.fragmentCount⟩ = (frame.segment seg).length := by
    change (frame.lengthAndFlags seg &&& sdlenMask).toNat = _
    rw [lengthAndFlags_eq]
    exact masked_length small (videoFlags_above frame)
  have keyframe : StreamItem.keyframe ⟨streamID, frame.lengthAndFlags seg, pts,
      frame.fragmentIndex seg, frame.fragmentCount⟩ = frame.keyframe := by
    change (frame.lengthAndFlags seg &&& streamDataXflagKeyframe != 0) = _
    rw [lengthAndFlags_eq, flags_and small _ (by decide)]
    exact videoFlags_keyframe frame
  rw [writeSegment_eq, List.append_assoc] at stands
  apply item_is_handled holds reads length stands
  unfold handleItem
  dsimp only
  rw [known, keyframe]
  rfl

theorem segments_make_beginning (frame : VideoFrame) (count : Nat) :
    (List.range count).flatMap frame.segment = frame.data.take (count * segmentSize) := by
  induction count with
  | zero => rw [List.range_zero, List.flatMap_nil, Nat.zero_mul, List.take_zero]
  | succ count ih =>
      rw [List.range_succ, List.flatMap_append, ih, Nat.succ_mul, List.take_add]
      rw [List.flatMap_cons, List.flatMap_nil, List.append_nil]
      rfl

theorem length_le_segments (frame : VideoFrame) :
    frame.data.length ≤ frame.segmentCount * segmentSize := by
  unfold VideoFrame.segmentCount segmentSize
  split
  · omega
  · omega

theorem segments_make_frame (frame : VideoFrame) :
    (List.range frame.segmentCount).flatMap frame.segment = frame.data := by
  rw [segments_make_beginning]
  exact List.take_of_length_le (length_le_segments frame)

theorem segment_nonempty {frame : VideoFrame} {seg : Nat} (inside : seg < frame.segmentCount) :
    (frame.segment seg).length > 0 := by
  have begins : seg * segmentSize < frame.data.length := by
    unfold VideoFrame.segmentCount segmentSize at inside
    unfold segmentSize
    split at inside
    · omega
    · omega
  unfold VideoFrame.segment
  rw [List.length_take, List.length_drop]
  exact Nat.lt_min.mpr ⟨by decide, Nat.sub_pos_of_lt begins⟩

end Tg2Sip.Voip
