/-
Two `VoIPController`s and the network between them.

A controller numbers its packets with `seq` and puts into every header the
highest number it has received and the mask of the ones before it.  Packets
that must arrive are kept in `queuedPackets` and sent again under new numbers;
extras are repeated in every header.  Both are dropped when an acknowledgement
seems to cover them.

A packet that was sent stays in the network for ever: it may be delivered at
any time, any number of times, or never.  Times are ticks of one clock, and
zero stands for a time that was not set.  `numbered`, `accepted` and
`processed` are not part of the program: they record how many numbers the
controller has given out, the numbers that it has accepted and the extras that
it has processed.  A packet stays in the network as it was written; `asRead` is
what the bytes of its lengths make of its extras at the other end.
-/

import Tg2Sip.Voip.ReceiveWindow

namespace Tg2Sip.Voip

abbrev Bytes := List UInt8

structure RecentOutgoingPacket where
  seq : SeqNo
  ackTime : Nat
  deriving DecidableEq, Repr

/-- `seqs` are the numbers of the last 16 transmissions, the latest one first. -/
structure QueuedPacket where
  type : UInt8
  data : Bytes
  seqs : List SeqNo
  firstSentTime : Nat
  lastSentTime : Nat
  retryInterval : Nat
  timeout : Nat
  deriving DecidableEq, Repr

structure Extra where
  type : UInt8
  data : Bytes
  deriving DecidableEq, Repr

structure UnacknowledgedExtraData where
  extra : Extra
  firstContainingSeq : SeqNo
  deriving DecidableEq, Repr

structure PendingOutgoingPacket where
  seq : SeqNo
  type : UInt8
  data : Bytes
  deriving DecidableEq, Repr

structure Packet where
  type : UInt8
  ackId : SeqNo
  pseq : SeqNo
  acks : BitVec 32
  extras : List Extra
  data : Bytes
  deriving DecidableEq, Repr

structure Controller where
  seq : SeqNo
  lastSentSeq : SeqNo
  window : ReceiveWindow
  lastRemoteAckSeq : SeqNo
  recentOutgoingPackets : List RecentOutgoingPacket
  queuedPackets : List QueuedPacket
  currentExtras : List UnacknowledgedExtraData
  sendQueue : List PendingOutgoingPacket
  numbered : Nat
  accepted : List SeqNo
  processed : List Extra

def Controller.initial : Controller :=
  { seq := 1
    lastSentSeq := 0
    window := .initial
    lastRemoteAckSeq := 0
    recentOutgoingPackets := []
    queuedPackets := []
    currentExtras := []
    sendQueue := []
    numbered := 0
    accepted := []
    processed := [] }

def maxRecentPackets : Nat := 128

/-- `GenerateOutSeq`, and the packet waits to be sent under that number. -/
def Controller.enqueue (self : Controller) (type : UInt8) (data : Bytes) : Controller :=
  { self with
    seq := self.seq + 1
    sendQueue := self.sendQueue ++ [⟨self.seq, type, data⟩]
    numbered := self.numbered + 1 }

def Controller.sendPacketReliably (self : Controller) (type : UInt8) (data : Bytes)
    (retryInterval timeout : Nat) : Controller :=
  { self with
    queuedPackets := self.queuedPackets ++
      [{ type := type
         data := data
         seqs := []
         firstSentTime := 0
         lastSentTime := 0
         retryInterval := retryInterval
         timeout := timeout }] }

def QueuedPacket.expired (packet : QueuedPacket) (now : Instant) : Bool :=
  decide (packet.timeout > 0) && decide (packet.firstSentTime > 0) &&
    decide (now.ticks - packet.firstSentTime ≥ packet.timeout)

def QueuedPacket.due (packet : QueuedPacket) (now : Instant) : Bool :=
  decide (now.ticks - packet.lastSentTime ≥ packet.retryInterval)

/-- `seqs.Add`, with the times of the transmission. -/
def QueuedPacket.resend (packet : QueuedPacket) (seq : SeqNo) (now : Instant) : QueuedPacket :=
  { packet with
    seqs := (seq :: packet.seqs).take 16
    lastSentTime := now.ticks
    firstSentTime := if packet.firstSentTime = 0 then now.ticks else packet.firstSentTime }

/-- The loop of `UpdateQueuedPackets`: the packets that stay, the ones to send
and the next number. -/
def updateQueue (now : Instant) (seq : SeqNo) :
    List QueuedPacket → List QueuedPacket × List PendingOutgoingPacket × SeqNo
  | [] => ([], [], seq)
  | packet :: rest =>
      if packet.expired now then updateQueue now seq rest
      else if packet.due now then
        let (kept, sends, last) := updateQueue now (seq + 1) rest
        (packet.resend seq now :: kept, ⟨seq, packet.type, packet.data⟩ :: sends, last)
      else
        let (kept, sends, last) := updateQueue now seq rest
        (packet :: kept, sends, last)

def Controller.updateQueuedPackets (self : Controller) (now : Instant) : Controller :=
  let (kept, sends, seq) := updateQueue now self.seq self.queuedPackets
  { self with
    seq := seq
    queuedPackets := kept
    sendQueue := self.sendQueue ++ sends
    numbered := self.numbered + sends.length }

def replaceExtra (extra : Extra) :
    List UnacknowledgedExtraData → Option (List UnacknowledgedExtraData)
  | [] => none
  | held :: rest =>
      if held.extra.type = extra.type then some (⟨extra, 0⟩ :: rest)
      else (replaceExtra extra rest).map (fun replaced => held :: replaced)

def Controller.sendExtra (self : Controller) (extra : Extra) : Controller :=
  { self with
    currentExtras := (replaceExtra extra self.currentExtras).getD
      (self.currentExtras ++ [⟨extra, 0⟩]) }

def UnacknowledgedExtraData.note (pseq : SeqNo) (held : UnacknowledgedExtraData) :
    UnacknowledgedExtraData :=
  if held.firstContainingSeq = 0 then { held with firstContainingSeq := pseq } else held

def trimRecent (packets : List RecentOutgoingPacket) : List RecentOutgoingPacket :=
  packets.drop (packets.length - maxRecentPackets)

/-- `WritePacketHeader` for a packet of the queue. -/
def Controller.writePacket (self : Controller) (pending : PendingOutgoingPacket) :
    Packet × Controller :=
  ({ type := pending.type
     ackId := self.window.lastRemoteSeq
     pseq := pending.seq
     acks := ackMask self.window.recvPacketTimes
     extras := self.currentExtras.map (fun held => held.extra)
     data := pending.data },
    { self with
      currentExtras := self.currentExtras.map (fun held => held.note pending.seq)
      recentOutgoingPackets := trimRecent (self.recentOutgoingPackets ++ [⟨pending.seq, 0⟩])
      lastSentSeq := pending.seq
      sendQueue := self.sendQueue.erase pending })

theorem writePacket_recent (self : Controller) (pending : PendingOutgoingPacket) :
    (self.writePacket pending).2.recentOutgoingPackets =
      trimRecent (self.recentOutgoingPackets ++ [⟨pending.seq, 0⟩]) := by
  dsimp only [Controller.writePacket]

/-! ### Receiving -/

/-- One round of the loop over the mask. -/
def markRound (ackId : SeqNo) (acks : BitVec 32) (now : Instant)
    (packets : List RecentOutgoingPacket) (i : Nat) : List RecentOutgoingPacket :=
  packets.map (fun packet =>
    if packet.ackTime ≠ 0 then packet
    else if acks.getLsbD (31 - i) && packet.seq == ackId - BitVec.ofNat 32 (i + 1) then
      { packet with ackTime := now.ticks }
    else packet)

def markAcknowledged (ackId : SeqNo) (acks : BitVec 32) (now : Instant)
    (packets : List RecentOutgoingPacket) : List RecentOutgoingPacket :=
  (List.range 31).foldl (markRound ackId acks now) packets

/-- `didAck`: one of the last transmissions is marked and not too old. -/
def QueuedPacket.didAck (packet : QueuedPacket) (lastRemoteAckSeq : SeqNo)
    (recent : List RecentOutgoingPacket) : Bool :=
  (packet.seqs.takeWhile (fun seq => seq != 0)).any (fun seq =>
    seqgt lastRemoteAckSeq seq && decide ((lastRemoteAckSeq - seq).toNat < 32) &&
      recent.any (fun sent => sent.seq == seq && decide (sent.ackTime > 0)))

def UnacknowledgedExtraData.covered (held : UnacknowledgedExtraData)
    (lastRemoteAckSeq : SeqNo) : Bool :=
  held.firstContainingSeq != 0 &&
    (lastRemoteAckSeq == held.firstContainingSeq || seqgt lastRemoteAckSeq held.firstContainingSeq)

/-- The part of `ProcessIncomingPacket` behind `seqgt(ackId, lastRemoteAckSeq)`. -/
def Controller.acknowledge (self : Controller) (ackId : SeqNo) (acks : BitVec 32)
    (now : Instant) : Controller :=
  let recent := markAcknowledged ackId acks now self.recentOutgoingPackets
  { self with
    lastRemoteAckSeq := ackId
    recentOutgoingPackets := recent
    queuedPackets := self.queuedPackets.filter (fun packet => !packet.didAck ackId recent)
    currentExtras := self.currentExtras.filter (fun held => !held.covered ackId) }

theorem acknowledge_recent (self : Controller) (ackId : SeqNo) (acks : BitVec 32)
    (now : Instant) :
    (self.acknowledge ackId acks now).recentOutgoingPackets =
      markAcknowledged ackId acks now self.recentOutgoingPackets := by
  dsimp only [Controller.acknowledge]

inductive Dropped where
  | packet (packet : QueuedPacket)
  | extra (held : UnacknowledgedExtraData)
  deriving DecidableEq, Repr

def Controller.drops (self : Controller) (ackId : SeqNo) (acks : BitVec 32) (now : Instant) :
    List Dropped :=
  let recent := markAcknowledged ackId acks now self.recentOutgoingPackets
  (self.queuedPackets.filter (fun packet => packet.didAck ackId recent)).map Dropped.packet ++
    (self.currentExtras.filter (fun held => held.covered ackId)).map Dropped.extra

/-- The byte in front counts the type with the data. -/
def extraText (extra : Extra) : Bytes :=
  [UInt8.ofNat (extra.data.length + 1)] ++ (extra.type :: extra.data)

/-- The extras that the bytes of their lengths lead to; behind the first one
without a type, or with too little left, the packet is given up. -/
def takeExtras : Nat → Bytes → List Extra
  | 0, _ => []
  | count + 1, length :: type :: rest =>
      if length = 0 ∨ rest.length < length.toNat - 1 then []
      else ⟨type, rest.take (length.toNat - 1)⟩ ::
        takeExtras count (rest.drop (length.toNat - 1))
  | _ + 1, _ => []

/-- The packet with the extras that the other end reads.  The number of extras
and the length of each are written in one byte. -/
def Packet.asRead (packet : Packet) : Packet :=
  { packet with
    extras := takeExtras (packet.extras.length % 256)
      (packet.extras.flatMap extraText ++ packet.data) }

theorem takeExtras_cons (count : Nat) (length type : UInt8) (rest : Bytes) :
    takeExtras (count + 1) (length :: type :: rest) =
      if length = 0 ∨ rest.length < length.toNat - 1 then []
      else ⟨type, rest.take (length.toNat - 1)⟩ ::
        takeExtras count (rest.drop (length.toNat - 1)) := rfl

theorem takeExtras_texts {extras : List Extra}
    (small : ∀ extra ∈ extras, extra.data.length ≤ 254) (behind : Bytes) :
    takeExtras extras.length (extras.flatMap extraText ++ behind) = extras := by
  induction extras with
  | nil => rfl
  | cons extra extras ih =>
      obtain ⟨first, others⟩ := List.forall_mem_cons.mp small
      have length : (UInt8.ofNat (extra.data.length + 1)).toNat = extra.data.length + 1 :=
        UInt8.toNat_ofNat_of_lt' (Nat.lt_of_le_of_lt (Nat.succ_le_succ first) (by decide))
      have nonzero : UInt8.ofNat (extra.data.length + 1) ≠ 0 := by
        intro zero
        rw [zero] at length
        exact Nat.succ_ne_zero _ length.symm
      have text : extraText extra ++ (extras.flatMap extraText ++ behind) =
          UInt8.ofNat (extra.data.length + 1) :: extra.type ::
            (extra.data ++ (extras.flatMap extraText ++ behind)) := rfl
      rw [List.flatMap_cons, List.append_assoc, text, List.length_cons, takeExtras_cons, length,
        Nat.add_sub_cancel, if_neg, List.take_left, List.drop_left, ih others]
      rintro (zero | short)
      · exact nonzero zero
      · rw [List.length_append] at short
        omega

theorem takeExtras_small {count : Nat} {bytes : Bytes} :
    ∀ extra ∈ takeExtras count bytes, extra.data.length ≤ 254 := by
  induction count generalizing bytes with
  | zero => exact List.forall_mem_nil _
  | succ count ih =>
      unfold takeExtras
      split
      · contradiction
      · rename_i length type rest same
        cases same
        split
        · exact List.forall_mem_nil _
        · refine List.forall_mem_cons.mpr ⟨?_, ih⟩
          have width := length.toNat_lt
          rw [List.length_take]
          omega
      · exact List.forall_mem_nil _

/-- A packet is read with the extras it was written with exactly when the
lengths of the extras fit into their bytes. -/
theorem asRead_eq_iff {packet : Packet} (few : packet.extras.length < 256) :
    packet.asRead = packet ↔ ∀ extra ∈ packet.extras, extra.data.length ≤ 254 := by
  constructor
  · intro same extra member
    rw [← same] at member
    exact takeExtras_small extra member
  · intro small
    unfold Packet.asRead
    rw [Nat.mod_eq_of_lt few, takeExtras_texts small]

/-- The packet is recorded, and its extras are processed: `ProcessExtraData` throws
for none of them, because the callers of `SendExtra` write what it reads. -/
def Controller.take (self : Controller) (packet : Packet) (now : Instant) : Controller :=
  { self with
    window := (self.window.receive packet.pseq now).2
    accepted := self.accepted ++ [packet.pseq]
    processed := self.processed ++ packet.extras }

/-- `ProcessIncomingPacket`, from the decision about the number on. -/
def Controller.processIncomingPacket (self : Controller) (packet : Packet) (now : Instant) :
    List Dropped × Controller :=
  if (self.window.receive packet.pseq now).1.accepts then
    if seqgt packet.ackId self.lastRemoteAckSeq then
      (self.drops packet.ackId packet.acks now,
        (self.take packet now).acknowledge packet.ackId packet.acks now)
    else ([], self.take packet now)
  else ([], self)

inductive Side where
  | caller
  | callee
  deriving DecidableEq, Repr

def Side.peer : Side → Side
  | .caller => .callee
  | .callee => .caller

structure System where
  controller : Side → Controller
  sent : Side → List Packet

inductive Action where
  | enqueue (side : Side) (type : UInt8) (data : Bytes)
  | sendReliably (side : Side) (type : UInt8) (data : Bytes) (retryInterval timeout : Nat)
  | updateQueued (side : Side) (now : Instant)
  | sendExtra (side : Side) (extra : Extra)
  | transmit (side : Side) (pending : PendingOutgoingPacket)
  | deliver (side : Side) (packet : Packet) (now : Instant)

def System.put (system : System) (side : Side) (controller : Controller) : System :=
  { system with controller := Function.update system.controller side controller }

def System.send (system : System) (side : Side) (packet : Packet) : System :=
  { system with sent := Function.update system.sent side (system.sent side ++ [packet]) }

def System.step : LabelledMachine.Step System Action (Side × Dropped) := fun system action =>
  match action with
  | .enqueue side type data =>
      some ([], system.put side ((system.controller side).enqueue type data))
  | .sendReliably side type data retryInterval timeout =>
      some ([], system.put side
        ((system.controller side).sendPacketReliably type data retryInterval timeout))
  | .updateQueued side now =>
      some ([], system.put side ((system.controller side).updateQueuedPackets now))
  | .sendExtra side extra =>
      some ([], system.put side ((system.controller side).sendExtra extra))
  | .transmit side pending =>
      if pending ∈ (system.controller side).sendQueue then
        let written := (system.controller side).writePacket pending
        some ([], (system.put side written.2).send side written.1)
      else none
  | .deliver side packet now =>
      if packet ∈ system.sent side.peer then
        let processed := (system.controller side).processIncomingPacket packet.asRead now
        some (processed.1.map (fun dropped => (side, dropped)), system.put side processed.2)
      else none

def System.initial : System :=
  { controller := fun _ => .initial
    sent := fun _ => [] }

abbrev Exchanged := LabelledMachine.Transition System Action (Side × Dropped)

abbrev SystemRun (taken : List Exchanged) (system : System) : Prop :=
  LabelledMachine.Run System.step System.initial taken system

end Tg2Sip.Voip
