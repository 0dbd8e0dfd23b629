/-
The three forms of a packet header.

`WritePacketHeader` writes the short form for a peer of version 8 or later,
`decryptedAudioBlock` while the connection waits for the init packets, and
`simpleAudioBlock` otherwise; `ProcessIncomingPacket` reads them.  A header is
read back in each form when the lengths of its extras fit, and no part of it is
read.  The long forms carry less:
`decryptedAudioBlock` leaves the extras out, and so does `simpleAudioBlock`
before version 6.
-/

import Tg2Sip.Voip.Buffers

namespace Tg2Sip.Voip

inductive ConnectionState where
  | waitInit
  | waitInitAck
  | established
  | failed
  | reconnecting
  deriving DecidableEq, Repr

/-- What a controller knows about the call and the peer. -/
structure Peering where
  state : ConnectionState
  peerVersion : Int
  connectionMaxLayer : Int
  callID : Bytes
  callID_length : callID.length = 16

def Peering.shortFormat (self : Peering) : Bool :=
  decide (self.peerVersion ≥ 8) ||
    (self.peerVersion == 0 && decide (self.connectionMaxLayer ≥ 92))

def Peering.waiting (self : Peering) : Bool :=
  self.state == .waitInit || self.state == .waitInitAck

/-- The bytes that `rand_bytes` gives for a header. -/
structure HeaderNonce where
  randomID : BitVec 64
  randBytes : Bytes
  randBytes_length : randBytes.length = 7

def protocolName : BitVec 32 := 0x50567247

def pflagHasData : BitVec 32 := 1
def pflagHasExtra : BitVec 32 := 2
def pflagHasCallId : BitVec 32 := 4
def pflagHasProto : BitVec 32 := 8
def pflagHasSeq : BitVec 32 := 16
def pflagHasRecentRecv : BitVec 32 := 32

def xpflagHasExtra : UInt8 := 1

def tlidDecryptedAudioBlock : BitVec 32 := 0xDBF948C1
def tlidSimpleAudioBlock : BitVec 32 := 0xCC0D0E76

def writeExtra (s : BufferOutputStream) (extra : Extra) : BufferOutputStream :=
  ((s.writeByte (UInt8.ofNat (extra.data.length + 1))).writeByte extra.type).writeBytes extra.data

def writeExtras (s : BufferOutputStream) (extras : List Extra) : BufferOutputStream :=
  if extras.isEmpty then s.writeByte 0
  else extras.foldl writeExtra
    ((s.writeByte xpflagHasExtra).writeByte (UInt8.ofNat extras.length))

/-- The length of a string, in one byte or behind the byte 254 in three. -/
def writeLength (s : BufferOutputStream) (length : BitVec 32) : BufferOutputStream :=
  if length.toNat ≤ 253 then s.writeByte (UInt8.ofNat length.toNat)
  else (s.writeByte 254).writeBytes (LittleEndian.bytes 3 length)

def writeRandom (s : BufferOutputStream) (random : HeaderNonce) : BufferOutputStream :=
  ((s.writeInt64 random.randomID).writeByte 7).writeBytes random.randBytes

def writeNumbers (s : BufferOutputStream) (packet : Packet) : BufferOutputStream :=
  ((s.writeInt32 packet.ackId).writeInt32 packet.pseq).writeInt32 packet.acks

def Peering.pflags (self : Peering) (type : UInt8) (length : BitVec 32) : BitVec 32 :=
  let pflags := pflagHasRecentRecv ||| pflagHasSeq
  let pflags := if length.toNat > 0 then pflags ||| pflagHasData else pflags
  let pflags := if self.waiting then pflags ||| (pflagHasCallId ||| pflagHasProto) else pflags
  pflags ||| (type.toBitVec.setWidth 32 <<< 24)

def Peering.writeDecryptedAudioBlock (self : Peering) (random : HeaderNonce)
    (s : BufferOutputStream) (packet : Packet) (length : BitVec 32) : BufferOutputStream :=
  let pflags := self.pflags packet.type length
  let s := (writeRandom (s.writeInt32 tlidDecryptedAudioBlock) random).writeInt32 pflags
  let s := if pflags &&& pflagHasCallId ≠ 0 then s.writeBytes self.callID else s
  let s := writeNumbers s packet
  let s := if pflags &&& pflagHasProto ≠ 0 then s.writeInt32 protocolName else s
  if length.toNat > 0 then writeLength s length else s

def Peering.writeSimpleAudioBlock (self : Peering) (random : HeaderNonce)
    (s : BufferOutputStream) (packet : Packet) (length : BitVec 32) : BufferOutputStream :=
  let lenWithHeader := length + 13
  let s := writeRandom (s.writeInt32 tlidSimpleAudioBlock) random
  let s := if lenWithHeader.toNat > 0 then writeLength s lenWithHeader else s
  let s := writeNumbers (s.writeByte packet.type) packet
  if self.peerVersion ≥ 6 then writeExtras s packet.extras else s

/-- `WritePacketHeader`; the packet holds what the controller puts into it. -/
def Peering.writePacketHeader (self : Peering) (random : HeaderNonce) (s : BufferOutputStream)
    (packet : Packet) (length : BitVec 32) : BufferOutputStream :=
  if self.shortFormat then
    writeExtras (writeNumbers (s.writeByte packet.type) packet) packet.extras
  else if self.waiting then self.writeDecryptedAudioBlock random s packet length
  else self.writeSimpleAudioBlock random s packet length

/-- The part of `SendOrEnqueuePacket` that makes the packet. -/
def Peering.writePacket (self : Peering) (random : HeaderNonce) (packet : Packet) : Bytes :=
  ((self.writePacketHeader random (.ofSize 1500) packet
    (BitVec.ofNat 32 packet.data.length)).writeBytes packet.data).buffer

structure Header where
  type : UInt8
  ackId : SeqNo
  pseq : SeqNo
  acks : BitVec 32
  pflags : UInt8
  packetInnerLen : BitVec 64
  deriving DecidableEq, Repr

def pad4 (x : Nat) : Nat :=
  let r := 4 - (x + if x ≤ 253 then 1 else 0) % 4
  if r = 4 then 0 else r

def skipString : Read Unit := do
  let length ← readTlLength
  skip (length + pad4 length)

def readShortHeader (innerLen : BitVec 64) : Read Header := do
  let type ← readByte
  let ackId ← readInt32
  let pseq ← readInt32
  let acks ← readInt32
  let pflags ← readByte
  pure ⟨type, ackId, pseq, acks, pflags, innerLen - 14⟩

def Peering.readCallId (self : Peering) (flags : BitVec 32) : Read Unit :=
  if flags &&& pflagHasCallId ≠ 0 then do
    let pktCallID ← readBytes 16
    if pktCallID ≠ self.callID then throw .wrongCallId else pure ()
  else pure ()

def readProto (flags : BitVec 32) : Read Unit :=
  if flags &&& pflagHasProto ≠ 0 then do
    let proto ← readInt32
    if proto ≠ protocolName then throw .wrongProtocol else pure ()
  else pure ()

def skipExtra (flags : BitVec 32) : Read Unit :=
  if flags &&& pflagHasExtra ≠ 0 then skipString else pure ()

def readDataLength (flags : BitVec 32) : Read Nat :=
  if flags &&& pflagHasData ≠ 0 then readTlLength else pure 0

def readFlags : Read (BitVec 32) := do
  let flags ← readInt32
  if flags &&& pflagHasSeq ≠ 0 ∧ flags &&& pflagHasRecentRecv ≠ 0 then pure flags
  else throw .flagsMissing

def Peering.readDecryptedAudioBlock (self : Peering) : Read Header := do
  let _ ← readInt64
  skipString
  let flags ← readFlags
  self.readCallId flags
  let ackId ← readInt32
  let pseq ← readInt32
  let acks ← readInt32
  readProto flags
  skipExtra flags
  let packetInnerLen ← readDataLength flags
  pure ⟨UInt8.ofBitVec ((flags >>> 24).setWidth 8), ackId, pseq, acks, 0,
    BitVec.ofNat 64 packetInnerLen⟩

def Peering.readSimpleAudioBlock (self : Peering) : Read Header := do
  let _ ← readInt64
  skipString
  let packetInnerLen ← readTlLength
  let type ← readByte
  let ackId ← readInt32
  let pseq ← readInt32
  let acks ← readInt32
  let pflags ← if self.peerVersion ≥ 6 then readByte else pure 0
  pure ⟨type, ackId, pseq, acks, pflags, BitVec.ofNat 64 packetInnerLen⟩

/-- The part of `ProcessIncomingPacket` that reads the header. -/
def Peering.readHeader (self : Peering) (innerLen : BitVec 64) : Read Header :=
  if self.shortFormat then readShortHeader innerLen
  else do
    let tlid ← readInt32
    if tlid = tlidDecryptedAudioBlock then self.readDecryptedAudioBlock
    else if tlid = tlidSimpleAudioBlock then self.readSimpleAudioBlock
    else throw .unknownType

/-- An extra without a type is out of range in `ProcessExtraData`. -/
def readExtra : Read Extra := do
  let extraLen ← readByte
  let xbuffer ← readBytes extraLen.toNat
  match xbuffer with
  | [] => throw .outOfRange
  | type :: data => pure ⟨type, data⟩

def readExtras (pflags : UInt8) : Read (List Extra) :=
  if pflags &&& xpflagHasExtra ≠ 0 then do
    let extraCount ← readByte
    Reading.many readExtra extraCount.toNat
  else pure []

def extrasFlag (extras : List Extra) : UInt8 := if extras.isEmpty then 0 else xpflagHasExtra

def extrasText (extras : List Extra) : Bytes :=
  if extras.isEmpty then [] else [UInt8.ofNat extras.length] ++ extras.flatMap extraText

def lengthText (length : BitVec 32) : Bytes :=
  if length.toNat ≤ 253 then [UInt8.ofNat length.toNat]
  else [254] ++ LittleEndian.bytes 3 length

def randomText (random : HeaderNonce) : Bytes := [7] ++ random.randBytes

def int32Text (i : BitVec 32) : Bytes := LittleEndian.bytes 4 i

def numbersText (packet : Packet) (behind : Bytes) : Bytes :=
  int32Text packet.ackId ++ (int32Text packet.pseq ++ (int32Text packet.acks ++ behind))

theorem writeExtra_buffer (s : BufferOutputStream) (extra : Extra) :
    (writeExtra s extra).buffer = s.buffer ++ extraText extra := by
  simp only [writeExtra, extraText, BufferOutputStream.writeBytes_buffer,
    BufferOutputStream.writeByte_buffer, List.append_assoc, List.cons_append, List.nil_append]

theorem foldl_writeExtra_buffer (extras : List Extra) (s : BufferOutputStream) :
    (extras.foldl writeExtra s).buffer = s.buffer ++ extras.flatMap extraText := by
  induction extras generalizing s with
  | nil => rw [List.foldl_nil, List.flatMap_nil, List.append_nil]
  | cons extra extras ih =>
      rw [List.foldl_cons, ih, writeExtra_buffer, List.flatMap_cons, List.append_assoc]

theorem writeExtras_buffer (s : BufferOutputStream) (extras : List Extra) :
    (writeExtras s extras).buffer = s.buffer ++ ([extrasFlag extras] ++ extrasText extras) := by
  unfold writeExtras extrasFlag extrasText
  cases extras with
  | nil => rfl
  | cons extra extras =>
      simp only [List.isEmpty_cons, Bool.false_eq_true, if_false, foldl_writeExtra_buffer,
        BufferOutputStream.writeByte_buffer, List.append_assoc]

theorem writeLength_buffer (s : BufferOutputStream) (length : BitVec 32) :
    (writeLength s length).buffer = s.buffer ++ lengthText length := by
  unfold writeLength lengthText
  split
  · rfl
  · simp only [BufferOutputStream.writeBytes_buffer, BufferOutputStream.writeByte_buffer,
      List.append_assoc]

theorem writeRandom_buffer (s : BufferOutputStream) (random : HeaderNonce) :
    (writeRandom s random).buffer =
      s.buffer ++ (LittleEndian.bytes 8 random.randomID ++ randomText random) := by
  simp only [writeRandom, randomText, BufferOutputStream.writeBytes_buffer,
    BufferOutputStream.writeByte_buffer, BufferOutputStream.writeInt64_buffer,
    List.append_assoc]

theorem writeNumbers_buffer (s : BufferOutputStream) (packet : Packet) :
    (writeNumbers s packet).buffer = s.buffer ++ numbersText packet [] := by
  simp only [writeNumbers, numbersText, int32Text, BufferOutputStream.writeInt32_buffer,
    List.append_assoc, List.append_nil]

theorem numbersText_append (packet : Packet) (first second : Bytes) :
    numbersText packet first ++ second = numbersText packet (first ++ second) := by
  simp only [numbersText, List.append_assoc]

theorem int32_reads (i : BitVec 32) : Reads readInt32 (int32Text i) i :=
  number_reads (by decide) i

theorem int64_reads (i : BitVec 64) : Reads readInt64 (LittleEndian.bytes 8 i) i :=
  number_reads (by decide) i

theorem length_reads {length : BitVec 32} (small : length.toNat < 2 ^ 24) :
    Reads readTlLength (lengthText length) length.toNat := by
  unfold readTlLength lengthText
  split
  · rename_i short
    have byte : (UInt8.ofNat length.toNat).toNat = length.toNat :=
      UInt8.toNat_ofNat_of_lt' (Nat.lt_of_le_of_lt short (by decide))
    have below : UInt8.ofNat length.toNat < 254 := by
      rw [UInt8.lt_iff_toNat_lt, byte]
      exact Nat.lt_of_le_of_lt short (by decide)
    apply (readByte_reads _).last
    rw [if_pos below, byte]
    exact Reading.Reads.pure
  · apply (readByte_reads 254).bind
    have reads := (readBytes_reads (LittleEndian.bytes 3 length)).map
      (fun bytes => (LittleEndian.value 32 bytes).toNat)
    rw [LittleEndian.length_bytes, LittleEndian.value_bytes_of_lt small] at reads
    exact reads

theorem random_reads (random : HeaderNonce) : Reads skipString (randomText random) () := by
  have seven : Reads readTlLength [7] 7 := length_reads (by decide : (7#32).toNat < 2 ^ 24)
  apply seven.bind
  have reads := skip_reads random.randBytes
  rw [random.randBytes_length] at reads
  exact reads

theorem extra_reads {extra : Extra} (small : extra.data.length ≤ 254) :
    Reads readExtra (extraText extra) extra := by
  have byte : (UInt8.ofNat (extra.data.length + 1)).toNat = extra.data.length + 1 :=
    UInt8.toNat_ofNat_of_lt' (Nat.lt_of_le_of_lt (Nat.succ_le_succ small) (by decide))
  apply (readByte_reads _).bind
  rw [byte]
  exact (readBytes_reads (extra.type :: extra.data)).last Reading.Reads.pure

theorem extras_reads {extras : List Extra} (few : extras.length < 256)
    (small : ∀ extra ∈ extras, extra.data.length ≤ 254) :
    Reads (readExtras (extrasFlag extras)) (extrasText extras) extras := by
  unfold readExtras extrasFlag extrasText
  by_cases empty : extras.isEmpty = true
  · rw [if_pos empty, if_pos empty, List.isEmpty_iff.mp empty, if_neg (by decide)]
    exact Reading.Reads.pure
  · have byte : (UInt8.ofNat extras.length).toNat = extras.length :=
      UInt8.toNat_ofNat_of_lt' few
    rw [if_neg empty, if_neg empty, if_pos (by decide)]
    apply (readByte_reads _).bind
    rw [byte]
    exact Reading.Reads.many (fun extra member => extra_reads (small extra member))

/-! ### Both sides -/

/-- The two ends of a call agree on what decides the form of a header. -/
structure Peering.Agrees (sender receiver : Peering) : Prop where
  form : sender.shortFormat = receiver.shortFormat
  callID : sender.callID = receiver.callID
  extras : sender.shortFormat = false → (sender.peerVersion ≥ 6 ↔ receiver.peerVersion ≥ 6)

/-- The extras that a header of this form carries. -/
def Peering.carriedExtras (self : Peering) (extras : List Extra) : List Extra :=
  if self.shortFormat then extras
  else if self.waiting then []
  else if self.peerVersion ≥ 6 then extras
  else []

def Peering.carried (self : Peering) (packet : Packet) : Packet :=
  { packet with extras := self.carriedExtras packet.extras }

/-- The length of the inner packet, as the receiver sees it. -/
def Peering.packetInnerLen (self : Peering) (length : BitVec 32) (innerLen : BitVec 64) :
    BitVec 64 :=
  if self.shortFormat then innerLen - 14
  else if self.waiting then BitVec.ofNat 64 length.toNat
  else BitVec.ofNat 64 (length + 13).toNat

def Peering.header (self : Peering) (packet : Packet) (length : BitVec 32)
    (innerLen : BitVec 64) : Header :=
  { type := packet.type
    ackId := packet.ackId
    pseq := packet.pseq
    acks := packet.acks
    pflags := extrasFlag (self.carriedExtras packet.extras)
    packetInnerLen := self.packetInnerLen length innerLen }

def shortText (packet : Packet) : Bytes :=
  [packet.type] ++ numbersText packet [extrasFlag packet.extras]

def Peering.decryptedText (self : Peering) (random : HeaderNonce) (packet : Packet)
    (length : BitVec 32) : Bytes :=
  int32Text tlidDecryptedAudioBlock ++ (LittleEndian.bytes 8 random.randomID ++
    (randomText random ++ (int32Text (self.pflags packet.type length) ++ (self.callID ++
      numbersText packet (int32Text protocolName ++
        if length.toNat > 0 then lengthText length else [])))))

def Peering.simpleText (self : Peering) (random : HeaderNonce) (packet : Packet)
    (length : BitVec 32) : Bytes :=
  int32Text tlidSimpleAudioBlock ++ (LittleEndian.bytes 8 random.randomID ++
    (randomText random ++ (lengthText (length + 13) ++ ([packet.type] ++
      numbersText packet
        (if self.peerVersion ≥ 6 then [extrasFlag packet.extras] else [])))))

def Peering.headerText (self : Peering) (random : HeaderNonce) (packet : Packet)
    (length : BitVec 32) : Bytes :=
  if self.shortFormat then shortText packet
  else if self.waiting then self.decryptedText random packet length
  else self.simpleText random packet length

def lowFlags (hasData : Bool) : BitVec 32 := if hasData then 61 else 60

def blockFlags (hasData : Bool) (type : UInt8) : BitVec 32 :=
  lowFlags hasData ||| (type.toBitVec.setWidth 32 <<< 24)

theorem lowFlags_lt (hasData : Bool) : (lowFlags hasData).toNat < 2 ^ 24 := by
  cases hasData with
  | false => decide
  | true => decide

theorem pflags_eq {self : Peering} (waiting : self.waiting = true) (type : UInt8)
    (length : BitVec 32) :
    self.pflags type length = blockFlags (decide (length.toNat > 0)) type := by
  unfold Peering.pflags blockFlags
  dsimp only
  rw [if_pos waiting]
  by_cases data : length.toNat > 0
  · rw [if_pos data, decide_eq_true data]
    rfl
  · rw [if_neg data, decide_eq_false data]
    rfl

theorem bit_of_small {number : BitVec 32} (small : number.toNat < 2 ^ 24) {bit : Nat}
    (high : 24 ≤ bit) : number.getLsbD bit = false :=
  Nat.testBit_lt_two_pow
    (Nat.lt_of_lt_of_le small (Nat.pow_le_pow_right (by decide) high))

theorem blockFlags_and (hasData : Bool) (type : UInt8) {flag : BitVec 32}
    (small : flag.toNat < 2 ^ 24) :
    blockFlags hasData type &&& flag = lowFlags hasData &&& flag := by
  apply BitVec.eq_of_getLsbD_eq
  intro bit _
  unfold blockFlags
  rw [BitVec.getLsbD_and, BitVec.getLsbD_and, BitVec.getLsbD_or, BitVec.getLsbD_shiftLeft]
  by_cases low : bit < 24
  · rw [decide_eq_true low]
    simp only [Bool.not_true, Bool.and_false, Bool.false_and, Bool.or_false]
  · rw [bit_of_small small (Nat.le_of_not_lt low), Bool.and_false, Bool.and_false]

theorem blockFlags_type (hasData : Bool) (type : UInt8) :
    UInt8.ofBitVec ((blockFlags hasData type >>> 24).setWidth 8) = type := by
  apply UInt8.eq_of_toBitVec_eq
  apply BitVec.eq_of_getLsbD_eq
  intro bit inside
  have high := bit_of_small (lowFlags_lt hasData) (Nat.le_add_right 24 bit)
  have back : 24 + bit - 24 = bit := by omega
  have within : 24 + bit < 32 := by omega
  have notLow : ¬ 24 + bit < 24 := by omega
  have small : bit < 32 := by omega
  unfold blockFlags
  rw [BitVec.getLsbD_setWidth, BitVec.getLsbD_ushiftRight, BitVec.getLsbD_or, high,
    BitVec.getLsbD_shiftLeft, BitVec.getLsbD_setWidth, back, decide_eq_true inside,
    decide_eq_true within, decide_eq_false notLow, decide_eq_true small]
  simp only [Bool.not_false, Bool.true_and, Bool.false_or]

theorem flag_set (hasData : Bool) (type : UInt8) {flag : BitVec 32} (small : flag.toNat < 2 ^ 24)
    (set : 60#32 &&& flag ≠ 0) : blockFlags hasData type &&& flag ≠ 0 := by
  rw [blockFlags_and hasData type small]
  cases hasData with
  | false => exact set
  | true =>
      intro clear
      have both : 60#32 &&& flag = 60#32 &&& (61#32 &&& flag) := by
        rw [← BitVec.and_assoc]
        rfl
      change 61#32 &&& flag = 0 at clear
      rw [clear] at both
      exact set (both.trans BitVec.and_zero)

theorem flag_clear (hasData : Bool) (type : UInt8) :
    ¬ blockFlags hasData type &&& pflagHasExtra ≠ 0 := by
  rw [blockFlags_and hasData type (by decide)]
  cases hasData with
  | false => decide
  | true => decide

theorem data_flag (hasData : Bool) (type : UInt8) :
    blockFlags hasData type &&& pflagHasData ≠ 0 ↔ hasData = true := by
  rw [blockFlags_and hasData type (by decide)]
  cases hasData with
  | false => decide
  | true => decide

theorem numbers_read {Value : Type} {next : SeqNo → SeqNo → BitVec 32 → Read Value}
    {packet : Packet} {behind : Bytes} {value : Value}
    (reads : Reads (next packet.ackId packet.pseq packet.acks) behind value) :
    Reads (do
      let ackId ← readInt32
      let pseq ← readInt32
      let acks ← readInt32
      next ackId pseq acks) (numbersText packet behind) value :=
  (int32_reads packet.ackId).bind
    ((int32_reads packet.pseq).bind ((int32_reads packet.acks).bind reads))

theorem shortHeader_reads {self : Peering} (short : self.shortFormat = true) (packet : Packet)
    (length : BitVec 32) (innerLen : BitVec 64) :
    Reads (readShortHeader innerLen) (shortText packet) (self.header packet length innerLen) := by
  have extras : self.carriedExtras packet.extras = packet.extras := if_pos short
  have inner : self.packetInnerLen length innerLen = innerLen - 14 := if_pos short
  unfold Peering.header
  rw [extras, inner]
  apply (readByte_reads packet.type).bind
  apply numbers_read
  exact (readByte_reads _).last Reading.Reads.pure

theorem readFlags_reads (hasData : Bool) (type : UInt8) :
    Reads readFlags (int32Text (blockFlags hasData type)) (blockFlags hasData type) := by
  apply (int32_reads _).last
  rw [if_pos ⟨flag_set hasData type (by decide) (by decide),
    flag_set hasData type (by decide) (by decide)⟩]
  exact Reading.Reads.pure

theorem callId_reads (self : Peering) (hasData : Bool) (type : UInt8) :
    Reads (self.readCallId (blockFlags hasData type)) self.callID () := by
  unfold Peering.readCallId
  rw [if_pos (flag_set hasData type (by decide) (by decide))]
  have reads := readBytes_reads self.callID
  rw [self.callID_length] at reads
  apply reads.last
  rw [if_neg (by simp only [ne_eq, not_true_eq_false, not_false_eq_true])]
  exact Reading.Reads.pure

theorem proto_reads (hasData : Bool) (type : UInt8) :
    Reads (readProto (blockFlags hasData type)) (int32Text protocolName) () := by
  unfold readProto
  rw [if_pos (flag_set hasData type (by decide) (by decide))]
  apply (int32_reads _).last
  rw [if_neg (by simp only [ne_eq, not_true_eq_false, not_false_eq_true])]
  exact Reading.Reads.pure

theorem dataLength_reads {length : BitVec 32} (small : length.toNat < 2 ^ 24) (type : UInt8) :
    Reads (readDataLength (blockFlags (decide (length.toNat > 0)) type))
      (if length.toNat > 0 then lengthText length else []) length.toNat := by
  unfold readDataLength
  by_cases data : length.toNat > 0
  · rw [if_pos ((data_flag _ _).mpr (decide_eq_true data)), if_pos data]
    exact length_reads small
  · rw [if_neg (fun set => data (of_decide_eq_true ((data_flag _ _).mp set))), if_neg data,
      Nat.eq_zero_of_not_pos data]
    exact Reading.Reads.pure

theorem decryptedAudioBlock_reads {sender receiver : Peering}
    (sameCall : sender.callID = receiver.callID) (long : sender.shortFormat = false)
    (waiting : sender.waiting = true) (random : HeaderNonce) (packet : Packet)
    {length : BitVec 32} (small : length.toNat < 2 ^ 24) (innerLen : BitVec 64) :
    Reads receiver.readDecryptedAudioBlock
      (LittleEndian.bytes 8 random.randomID ++ (randomText random ++
        (int32Text (sender.pflags packet.type length) ++ (sender.callID ++
          numbersText packet (int32Text protocolName ++
            if length.toNat > 0 then lengthText length else [])))))
      (sender.header packet length innerLen) := by
  have notShort : ¬ sender.shortFormat = true := by rw [long]; decide
  have extras : sender.carriedExtras packet.extras = [] := by
    unfold Peering.carriedExtras
    rw [if_neg notShort, if_pos waiting]
  have inner : sender.packetInnerLen length innerLen = BitVec.ofNat 64 length.toNat := by
    unfold Peering.packetInnerLen
    rw [if_neg notShort, if_pos waiting]
  unfold Peering.header
  rw [extras, inner, sameCall, pflags_eq waiting]
  apply (int64_reads _).bind
  apply (random_reads random).bind
  apply (readFlags_reads _ _).bind
  apply (callId_reads receiver _ _).bind
  apply numbers_read
  apply (proto_reads _ _).bind
  have noExtra : Reads (skipExtra (blockFlags (decide (length.toNat > 0)) packet.type)) [] () := by
    unfold skipExtra
    rw [if_neg (flag_clear _ _)]
    exact Reading.Reads.pure
  apply noExtra.bind
  apply (dataLength_reads small _).last
  rw [blockFlags_type]
  exact Reading.Reads.pure

theorem simpleAudioBlock_reads {sender receiver : Peering}
    (sameExtras : sender.peerVersion ≥ 6 ↔ receiver.peerVersion ≥ 6)
    (long : sender.shortFormat = false) (past : sender.waiting = false)
    (random : HeaderNonce) (packet : Packet) {length : BitVec 32}
    (small : (length + 13).toNat < 2 ^ 24) (innerLen : BitVec 64) :
    Reads receiver.readSimpleAudioBlock
      (LittleEndian.bytes 8 random.randomID ++ (randomText random ++
        (lengthText (length + 13) ++ ([packet.type] ++ numbersText packet
          (if sender.peerVersion ≥ 6 then [extrasFlag packet.extras] else [])))))
      (sender.header packet length innerLen) := by
  have notShort : ¬ sender.shortFormat = true := by rw [long]; decide
  have notWaiting : ¬ sender.waiting = true := by rw [past]; decide
  have inner : sender.packetInnerLen length innerLen = BitVec.ofNat 64 (length + 13).toNat := by
    unfold Peering.packetInnerLen
    rw [if_neg notShort, if_neg notWaiting]
  unfold Peering.header Peering.carriedExtras
  rw [if_neg notShort, if_neg notWaiting, inner]
  apply (int64_reads _).bind
  apply (random_reads random).bind
  apply (length_reads small).bind
  apply (readByte_reads packet.type).bind
  apply numbers_read
  by_cases carries : sender.peerVersion ≥ 6
  · rw [if_pos carries, if_pos (sameExtras.mp carries), if_pos carries]
    exact (readByte_reads _).last Reading.Reads.pure
  · rw [if_neg carries, if_neg (fun received => carries (sameExtras.mpr received)),
      if_neg carries]
    exact Reading.Reads.pure.bind Reading.Reads.pure

theorem header_reads {sender receiver : Peering} (agrees : sender.Agrees receiver)
    (random : HeaderNonce) (packet : Packet) {length : BitVec 32}
    (small : (length + 13).toNat < 2 ^ 24) (smaller : length.toNat < 2 ^ 24)
    (innerLen : BitVec 64) :
    Reads (receiver.readHeader innerLen) (sender.headerText random packet length)
      (sender.header packet length innerLen) := by
  unfold Peering.readHeader Peering.headerText
  rw [← agrees.form]
  cases form : sender.shortFormat with
  | true =>
      rw [if_pos rfl, if_pos rfl]
      exact shortHeader_reads form packet length innerLen
  | false =>
      rw [if_neg Bool.false_ne_true, if_neg Bool.false_ne_true]
      cases waits : sender.waiting with
      | true =>
          rw [if_pos rfl]
          apply (int32_reads tlidDecryptedAudioBlock).bind
          rw [if_pos rfl]
          exact decryptedAudioBlock_reads agrees.callID form waits random packet smaller innerLen
      | false =>
          rw [if_neg Bool.false_ne_true]
          apply (int32_reads tlidSimpleAudioBlock).bind
          rw [if_neg (by decide), if_pos rfl]
          exact simpleAudioBlock_reads (agrees.extras form) form waits random packet small innerLen

/-! ### What is written is the text -/

theorem writeDecryptedAudioBlock_buffer {self : Peering} (waiting : self.waiting = true)
    (random : HeaderNonce) (s : BufferOutputStream) (packet : Packet) (length : BitVec 32) :
    (self.writeDecryptedAudioBlock random s packet length).buffer =
      s.buffer ++ self.decryptedText random packet length := by
  unfold Peering.writeDecryptedAudioBlock Peering.decryptedText
  rw [pflags_eq waiting]
  dsimp only
  rw [if_pos (flag_set _ _ (by decide) (by decide)),
    if_pos (flag_set _ _ (by decide) (by decide))]
  by_cases data : length.toNat > 0
  · rw [if_pos data, if_pos data]
    simp only [writeLength_buffer, writeNumbers_buffer, writeRandom_buffer, int32Text,
      BufferOutputStream.writeInt32_buffer, BufferOutputStream.writeBytes_buffer,
      List.append_assoc, numbersText_append, List.nil_append]
  · rw [if_neg data, if_neg data]
    simp only [writeNumbers_buffer, writeRandom_buffer, int32Text,
      BufferOutputStream.writeInt32_buffer, BufferOutputStream.writeBytes_buffer,
      List.append_assoc, numbersText_append, List.nil_append, List.append_nil]

/-- The length with the header is only zero when it overflows. -/
theorem writeSimpleAudioBlock_buffer (self : Peering) (random : HeaderNonce)
    (s : BufferOutputStream) (packet : Packet) {length : BitVec 32}
    (positive : (length + 13).toNat > 0) :
    (self.writeSimpleAudioBlock random s packet length).buffer =
      s.buffer ++ (self.simpleText random packet length ++
        if self.peerVersion ≥ 6 then extrasText packet.extras else []) := by
  unfold Peering.writeSimpleAudioBlock Peering.simpleText
  dsimp only
  rw [if_pos positive]
  by_cases carries : self.peerVersion ≥ 6
  · rw [if_pos carries, if_pos carries, if_pos carries]
    simp only [writeExtras_buffer, writeNumbers_buffer, writeLength_buffer, writeRandom_buffer,
      int32Text, BufferOutputStream.writeInt32_buffer, BufferOutputStream.writeByte_buffer,
      List.append_assoc, numbersText_append, List.nil_append]
  · rw [if_neg carries, if_neg carries, if_neg carries]
    simp only [writeNumbers_buffer, writeLength_buffer, writeRandom_buffer,
      int32Text, BufferOutputStream.writeInt32_buffer, BufferOutputStream.writeByte_buffer,
      List.append_assoc, List.append_nil]

theorem writePacketHeader_buffer (self : Peering) (random : HeaderNonce)
    (s : BufferOutputStream) (packet : Packet) {length : BitVec 32}
    (positive : (length + 13).toNat > 0) :
    (self.writePacketHeader random s packet length).buffer =
      s.buffer ++ (self.headerText random packet length ++
        extrasText (self.carriedExtras packet.extras)) := by
  unfold Peering.writePacketHeader Peering.headerText Peering.carriedExtras
  cases form : self.shortFormat with
  | true =>
      simp only [if_true, writeExtras_buffer, writeNumbers_buffer, shortText,
        BufferOutputStream.writeByte_buffer, List.append_assoc, numbersText_append,
        List.nil_append]
  | false =>
      rw [if_neg Bool.false_ne_true, if_neg Bool.false_ne_true, if_neg Bool.false_ne_true]
      cases waits : self.waiting with
      | true =>
          rw [if_pos rfl, if_pos rfl, if_pos rfl, writeDecryptedAudioBlock_buffer waits]
          exact congrArg (fun text => s.buffer ++ text) (List.append_nil _).symm
      | false =>
          rw [if_neg Bool.false_ne_true, if_neg Bool.false_ne_true, if_neg Bool.false_ne_true,
            writeSimpleAudioBlock_buffer _ _ _ _ positive]
          split
          · rfl
          · rfl

def Peering.readPacket (self : Peering) (innerLen : BitVec 64) : Read Packet := do
  let header ← self.readHeader innerLen
  let extras ← readExtras header.pflags
  let stream ← get
  pure
    { type := header.type
      ackId := header.ackId
      pseq := header.pseq
      acks := header.acks
      extras := extras
      data := stream.rest }

/-- What the assertions and the widths of the fields ask of a packet. -/
structure Packet.Fits (packet : Packet) : Prop where
  data : packet.data.length + 13 < 2 ^ 24
  count : packet.extras.length < 256
  extras : ∀ extra ∈ packet.extras, extra.data.length ≤ 254

theorem Packet.Fits.length {packet : Packet} (fits : packet.Fits) :
    (BitVec.ofNat 32 packet.data.length).toNat = packet.data.length := by
  have data := fits.data
  rw [BitVec.toNat_ofNat]
  exact Nat.mod_eq_of_lt (by omega)

theorem Packet.Fits.lengthWithHeader {packet : Packet} (fits : packet.Fits) :
    (BitVec.ofNat 32 packet.data.length + 13).toNat = packet.data.length + 13 := by
  have data := fits.data
  rw [BitVec.toNat_add, fits.length]
  change (packet.data.length + 13) % 2 ^ 32 = _
  exact Nat.mod_eq_of_lt (by omega)

theorem Packet.Fits.carried {packet : Packet} (fits : packet.Fits) (sender : Peering) :
    (sender.carriedExtras packet.extras).length < 256 ∧
      ∀ extra ∈ sender.carriedExtras packet.extras, extra.data.length ≤ 254 := by
  have all := And.intro fits.count fits.extras
  have none : ([] : List Extra).length < 256 ∧
      ∀ extra ∈ ([] : List Extra), extra.data.length ≤ 254 :=
    ⟨by decide, fun extra inside => absurd inside List.not_mem_nil⟩
  unfold Peering.carriedExtras
  split
  · exact all
  · split
    · exact none
    · split
      · exact all
      · exact none

def Peering.packetText (self : Peering) (random : HeaderNonce) (packet : Packet) : Bytes :=
  self.headerText random packet (BitVec.ofNat 32 packet.data.length) ++
    extrasText (self.carriedExtras packet.extras)

theorem writePacket_eq (self : Peering) (random : HeaderNonce) {packet : Packet}
    (fits : packet.Fits) :
    self.writePacket random packet = self.packetText random packet ++ packet.data := by
  unfold Peering.writePacket Peering.packetText
  rw [BufferOutputStream.writeBytes_buffer, writePacketHeader_buffer]
  · rw [BufferOutputStream.ofSize_buffer, List.nil_append]
  · rw [fits.lengthWithHeader]
    omega

theorem packetText_reads {sender receiver : Peering} (agrees : sender.Agrees receiver)
    (random : HeaderNonce) {packet : Packet} (fits : packet.Fits) (innerLen : BitVec 64) :
    Reads (do
      let header ← receiver.readHeader innerLen
      let extras ← readExtras header.pflags
      pure (header, extras)) (sender.packetText random packet)
      (sender.header packet (BitVec.ofNat 32 packet.data.length) innerLen,
        sender.carriedExtras packet.extras) := by
  have data := fits.data
  have carried := fits.carried sender
  apply (header_reads agrees random packet (by rw [fits.lengthWithHeader]; omega)
    (by rw [fits.length]; omega) innerLen).bind
  exact (extras_reads carried.1 carried.2).last Reading.Reads.pure

theorem readPacket_eq (self : Peering) (innerLen : BitVec 64) :
    self.readPacket innerLen = (do
      let read ← (do
        let header ← self.readHeader innerLen
        let extras ← readExtras header.pflags
        pure (header, extras))
      let stream ← get
      pure
        { type := read.1.type
          ackId := read.1.ackId
          pseq := read.1.pseq
          acks := read.1.acks
          extras := read.2
          data := stream.rest }) := by
  unfold Peering.readPacket
  simp only [bind_assoc, pure_bind]

theorem packet_read_before {sender receiver : Peering} (agrees : sender.Agrees receiver)
    (random : HeaderNonce) {packet : Packet} (fits : packet.Fits) (innerLen : BitVec 64)
    (rest : Bytes) :
    (receiver.readPacket innerLen).run' (.ofBytes (sender.writePacket random packet ++ rest)) =
      .ok { sender.carried packet with data := packet.data ++ rest } := by
  have reads := packetText_reads agrees random fits innerLen
  rw [writePacket_eq sender random fits, readPacket_eq, List.append_assoc]
  have stands : inputStream.remaining
      (.ofBytes (sender.packetText random packet ++ (packet.data ++ rest))) =
        sender.packetText random packet ++ (packet.data ++ rest) := rfl
  have whole := reads.whole _ _ stands
  have behind := inputStream.remaining_behind stands
  rw [StateT.run'_eq, StateT.run_bind, whole]
  change Except.ok (Packet.mk packet.type packet.ackId packet.pseq packet.acks
    (sender.carriedExtras packet.extras) (inputStream.remaining (inputStream.advance _ _))) = _
  rw [behind]
  rfl

/-- The length of what is read stands in one byte, which also counts the type. -/
theorem readExtra_small : Reading.Ensures readExtra (fun extra => extra.data.length ≤ 254) := by
  refine Reading.Ensures.any.bind ?_
  intro extraLen _
  have width : Reading.Ensures (readBytes extraLen.toNat)
      (fun bytes => bytes.length = extraLen.toNat) := by
    intro stream bytes behind read
    rw [readBytes_run] at read
    split at read
    · cases read
    · rename_i enough
      cases read
      rw [List.length_take, stream.rest_length]
      exact Nat.min_eq_left (Nat.le_of_not_lt enough)
  refine width.bind ?_
  intro xbuffer length
  cases xbuffer with
  | nil =>
      intro stream extra behind read
      cases read
  | cons type data =>
      apply Reading.Ensures.pure
      have byte := extraLen.toNat_lt
      rw [List.length_cons] at length
      dsimp only
      omega

theorem readExtras_small (pflags : UInt8) : Reading.Ensures (readExtras pflags)
    (fun extras => ∀ extra ∈ extras, extra.data.length ≤ 254) := by
  unfold readExtras
  split
  · refine Reading.Ensures.any.bind ?_
    intro extraCount _
    exact readExtra_small.many _
  · exact Reading.Ensures.pure (List.forall_mem_nil _)

theorem readPacket_small (self : Peering) (innerLen : BitVec 64) :
    Reading.Ensures (self.readPacket innerLen)
      (fun packet => ∀ extra ∈ packet.extras, extra.data.length ≤ 254) := by
  refine Reading.Ensures.any.bind ?_
  intro header _
  refine (readExtras_small header.pflags).bind ?_
  intro extras small
  refine Reading.Ensures.any.bind ?_
  intro stream _
  exact Reading.Ensures.pure small

theorem carriedExtras_carriedExtras (self : Peering) (extras : List Extra) :
    self.carriedExtras (self.carriedExtras extras) = self.carriedExtras extras := by
  unfold Peering.carriedExtras
  split
  · rfl
  · split
    · rfl
    · split
      · rfl
      · rfl

theorem writePacket_carried (self : Peering) (random : HeaderNonce) (packet : Packet) :
    self.writePacket random (self.carried packet) = self.writePacket random packet := by
  unfold Peering.writePacket Peering.writePacketHeader Peering.carried Peering.carriedExtras
  cases form : self.shortFormat with
  | true => rfl
  | false =>
      cases waits : self.waiting with
      | true => rfl
      | false =>
          unfold Peering.writeSimpleAudioBlock
          dsimp only
          by_cases carries : self.peerVersion ≥ 6
          · simp only [if_pos carries, Bool.false_eq_true, if_false]
          · simp only [if_neg carries, Bool.false_eq_true, if_false]
            rfl

theorem fits_carried {self : Peering} {packet : Packet}
    (data : packet.data.length + 13 < 2 ^ 24) (few : packet.extras.length < 256)
    (small : ∀ extra ∈ self.carriedExtras packet.extras, extra.data.length ≤ 254) :
    (self.carried packet).Fits where
  data := data
  count := by
    change (self.carriedExtras packet.extras).length < 256
    unfold Peering.carriedExtras
    split
    · exact few
    · split
      · exact Nat.zero_lt_succ _
      · split
        · exact few
        · exact Nat.zero_lt_succ _
  extras := small

/-- What one end writes the other reads exactly when the lengths of the extras
that the header carries fit into their bytes; of a header that lost its end
it then reads nothing. -/
theorem written_packet_is_read {sender receiver : Peering} (agrees : sender.Agrees receiver)
    (random : HeaderNonce) {packet : Packet} (data : packet.data.length + 13 < 2 ^ 24)
    (few : packet.extras.length < 256) (innerLen : BitVec 64) :
    ((receiver.readPacket innerLen).run' (.ofBytes (sender.writePacket random packet)) =
        .ok (sender.carried packet) ↔
      ∀ extra ∈ sender.carriedExtras packet.extras, extra.data.length ≤ 254) ∧
      ((∀ extra ∈ sender.carriedExtras packet.extras, extra.data.length ≤ 254) →
        ∀ part, part <+: sender.writePacket random packet →
          part.length + packet.data.length < (sender.writePacket random packet).length →
          (receiver.readPacket innerLen).run' (.ofBytes part) = .error .outOfRange) := by
  have idempotent : sender.carried (sender.carried packet) = sender.carried packet := by
    unfold Peering.carried
    dsimp only
    rw [carriedExtras_carriedExtras]
  constructor
  · constructor
    · intro read
      exact (readPacket_small receiver innerLen).holds read
    · intro small
      have fits := fits_carried data few small
      have whole := packet_read_before agrees random fits innerLen []
      rw [List.append_nil, List.append_nil, writePacket_carried, idempotent] at whole
      exact whole
  · intro small part before shorter
    have fits := fits_carried data few small
    have reads := packetText_reads agrees random fits innerLen
    rw [← writePacket_carried] at before shorter
    have length : (sender.carried packet).data = packet.data := rfl
    rw [← length] at shorter
    rw [writePacket_eq sender random fits] at before shorter
    rw [readPacket_eq]
    rw [List.length_append] at shorter
    have inside := (List.prefix_append _ _ : sender.packetText random (sender.carried packet) <+:
      _ ++ (sender.carried packet).data)
    obtain ⟨missing, lost⟩ := List.prefix_of_prefix_length_le before inside (by omega)
    have some : missing ≠ [] := by
      intro empty
      rw [empty, List.append_nil] at lost
      rw [lost] at shorter
      exact Nat.lt_irrefl _ shorter
    rw [StateT.run'_eq, StateT.run_bind, reads.starved (.ofBytes part) missing some lost]
    rfl

def blockPeering : Peering :=
  { state := .established
    peerVersion := 6
    connectionMaxLayer := 74
    callID := List.replicate 16 0
    callID_length := rfl }

def blockNonce : HeaderNonce :=
  { randomID := 0
    randBytes := List.replicate 7 0
    randBytes_length := rfl }

theorem simple_block_is_read :
    (blockPeering.readPacket 0).run'
      (.ofBytes (blockPeering.writePacket blockNonce ⟨4, 7, 8, 0, [⟨3, [1, 2]⟩], [5, 6]⟩)) =
        .ok ⟨4, 7, 8, 0, [⟨3, [1, 2]⟩], [5, 6]⟩ :=
  (written_packet_is_read ⟨rfl, rfl, fun _ => Iff.rfl⟩ blockNonce (by decide) (by decide)
    0).1.mpr (by decide)

end Tg2Sip.Voip
