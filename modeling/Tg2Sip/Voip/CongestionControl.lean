/-
`CongestionControl`: what becomes of the packets that are in flight.

A hundred slots hold the packets that were sent and not yet acknowledged.  A
packet leaves its slot when it is acknowledged, when it has been there for
more than two seconds, or when every slot is taken and it is the oldest; the
last two count as losses.  The bitrate is changed by the average of what was
in flight.  A slot with the time zero is free.  Times are ticks where the source
subtracts seconds as `double`: the two may differ on a boundary to the tick.
-/

import Mathlib.Data.List.Chain
import Mathlib.Data.List.Perm.Basic
import Tg2Sip.Lib.Run
import Tg2Sip.Voip.HistoricBuffer

namespace Tg2Sip.Voip

structure InflightPacket where
  seq : SeqNo
  sendTime : Nat
  size : BitVec 64
  deriving DecidableEq, Repr

def slotCount : Nat := 100

def second : Nat := 1000000

inductive ControlAction where
  | none
  | increase
  | decrease
  deriving DecidableEq, Repr

structure CongestionControl where
  inflightPackets : List InflightPacket
  slots : inflightPackets.length = slotCount
  lastSentSeq : SeqNo
  inflightDataSize : BitVec 64
  lossCount : BitVec 32
  inflightHistory : HistoricBuffer (BitVec 64) 30
  lastActionTime : Nat
  cwnd : BitVec 64

/-- What happens to a packet, what a tick notes and what is done about it. -/
inductive Fate where
  | sent (packet : InflightPacket)
  | acknowledged (packet : InflightPacket)
  | lost (packet : InflightPacket)
  | noted (size : BitVec 64)
  | acted (action : ControlAction) (asked answered : Nat)
  deriving DecidableEq, Repr

namespace InflightPacket

def inFlight (packet : InflightPacket) : Bool := decide (packet.sendTime > 0)

def free (packet : InflightPacket) : InflightPacket := { packet with sendTime := 0 }

def late (now : Instant) (packet : InflightPacket) : Bool :=
  packet.inFlight && decide (now.ticks - packet.sendTime > 2 * second)

end InflightPacket

def acknowledgeIn (seq : SeqNo) :
    List InflightPacket → Option InflightPacket × List InflightPacket
  | [] => (none, [])
  | packet :: rest =>
      if packet.seq = seq ∧ packet.inFlight then (some packet, packet.free :: rest)
      else
        let (found, rest) := acknowledgeIn seq rest
        (found, packet :: rest)

/-- The loop of `PacketSent`: the first free slot, or else the first of the
oldest ones.  `slot` is the place and the time of the oldest one so far. -/
def pickSlot (i : Nat) (slot : Option (Nat × Nat)) : List InflightPacket → Option Nat
  | [] => slot.map Prod.fst
  | packet :: rest =>
      if packet.sendTime = 0 then some i
      else
        match slot with
        | none => pickSlot (i + 1) (some (i, packet.sendTime)) rest
        | some (place, smallestSendTime) =>
            if smallestSendTime > packet.sendTime then
              pickSlot (i + 1) (some (i, packet.sendTime)) rest
            else pickSlot (i + 1) (some (place, smallestSendTime)) rest

/-- The middle of `GetBandwidthControlAction`. -/
def wantedFor (cwnd inflightAvg : BitVec 64) : ControlAction :=
  let max := cwnd + cwnd / 10
  let min := cwnd - cwnd / 10
  if inflightAvg < min then .increase
  else if inflightAvg > max then .decrease
  else .none

namespace CongestionControl

def create (cwnd : BitVec 64) : CongestionControl :=
  { inflightPackets := List.replicate slotCount ⟨0, 0, 0⟩
    slots := List.length_replicate
    lastSentSeq := 0
    inflightDataSize := 0
    lossCount := 0
    inflightHistory := .create (Nat.succ_pos 29)
    lastActionTime := 0
    cwnd := cwnd }

theorem acknowledgeIn_length (seq : SeqNo) (packets : List InflightPacket) :
    (acknowledgeIn seq packets).2.length = packets.length := by
  induction packets with
  | nil => rfl
  | cons packet rest ih =>
      unfold acknowledgeIn
      split
      · rfl
      · rw [List.length_cons, List.length_cons, ih]

def packetAcknowledged (self : CongestionControl) (seq : SeqNo) : List Fate × CongestionControl :=
  match (acknowledgeIn seq self.inflightPackets).1 with
  | none => ([], self)
  | some packet =>
      ([.acknowledged packet],
        { self with
          inflightPackets := (acknowledgeIn seq self.inflightPackets).2
          slots := by rw [acknowledgeIn_length, self.slots]
          inflightDataSize := self.inflightDataSize - packet.size })

def place (self : CongestionControl) (slot : Nat) (old packet : InflightPacket) :
    List Fate × CongestionControl :=
  let lost := if old.inFlight then [old] else []
  (lost.map Fate.lost ++ [.sent packet],
    { self with
      inflightPackets := self.inflightPackets.set slot packet
      slots := by rw [List.length_set, self.slots]
      lastSentSeq := packet.seq
      inflightDataSize :=
        (if old.inFlight then self.inflightDataSize - old.size else self.inflightDataSize) +
          packet.size
      lossCount := if old.inFlight then self.lossCount + 1 else self.lossCount })

/-- There is always a slot. -/
def packetSent (self : CongestionControl) (seq : SeqNo) (size : BitVec 64) (now : Instant) :
    List Fate × CongestionControl :=
  if !seqgt seq self.lastSentSeq || seq == self.lastSentSeq then ([], self)
  else
    match pickSlot 0 none self.inflightPackets with
    | none => ([], self)
    | some slot => self.place slot (self.inflightPackets.getD slot ⟨0, 0, 0⟩) ⟨seq, now.ticks, size⟩

/-- One reading of the clock stands for those of the loop. -/
def tick (self : CongestionControl) (now : Instant) : List Fate × CongestionControl :=
  let lost := self.inflightPackets.filter (InflightPacket.late now)
  let inflightDataSize := lost.foldl (fun size packet => size - packet.size) self.inflightDataSize
  (lost.map Fate.lost ++ [.noted inflightDataSize],
    { self with
      inflightPackets := self.inflightPackets.map
        (fun packet => if packet.late now then packet.free else packet)
      slots := by rw [List.length_map, self.slots]
      inflightDataSize := inflightDataSize
      lossCount := self.lossCount + BitVec.ofNat 32 lost.length
      inflightHistory := self.inflightHistory.add inflightDataSize })

def wantedAction (self : CongestionControl) : ControlAction :=
  wantedFor self.cwnd self.inflightHistory.average

/-- `asked` and `answered` are the two readings of the clock. -/
def getBandwidthControlAction (self : CongestionControl) (asked answered : Instant) :
    List Fate × CongestionControl :=
  if asked.ticks - self.lastActionTime < second then ([], self)
  else
    match self.wantedAction with
    | .none => ([], self)
    | action =>
        ([.acted action asked.ticks answered.ticks],
          { self with lastActionTime := answered.ticks })

end CongestionControl

inductive CongestionEvent where
  | sent (seq : SeqNo) (size : BitVec 64) (now : Instant)
  | acknowledged (seq : SeqNo)
  | tick (now : Instant)
  | control (asked answered : Instant)

def CongestionControl.step : LabelledMachine.Step CongestionControl CongestionEvent Fate
  | self, .sent seq size now => some (self.packetSent seq size now)
  | self, .acknowledged seq => some (self.packetAcknowledged seq)
  | self, .tick now => some (self.tick now)
  | self, .control asked answered => some (self.getBandwidthControlAction asked answered)

def inFlightIn (packets : List InflightPacket) : List InflightPacket :=
  packets.filter InflightPacket.inFlight

def sizeOf (packets : List InflightPacket) : BitVec 64 := (packets.map InflightPacket.size).sum

theorem inFlightIn_cons (packet : InflightPacket) (packets : List InflightPacket) :
    inFlightIn (packet :: packets) =
      (if packet.inFlight then [packet] else []) ++ inFlightIn packets := by
  unfold inFlightIn
  rw [List.filter_cons]
  split
  · rfl
  · rfl

theorem inFlightIn_append (first second : List InflightPacket) :
    inFlightIn (first ++ second) = inFlightIn first ++ inFlightIn second :=
  List.filter_append ..

theorem free_not_inFlight (packet : InflightPacket) : packet.free.inFlight = false := rfl

theorem acknowledgeIn_leaves {seq : SeqNo} {packets : List InflightPacket}
    {packet : InflightPacket} (found : (acknowledgeIn seq packets).1 = some packet) :
    (inFlightIn packets).Perm (packet :: inFlightIn (acknowledgeIn seq packets).2) := by
  induction packets with
  | nil => cases found
  | cons first rest ih =>
      unfold acknowledgeIn at found ⊢
      by_cases here : first.seq = seq ∧ first.inFlight = true
      · rw [if_pos here] at found ⊢
        rw [← Option.some.inj found, inFlightIn_cons, inFlightIn_cons, if_pos here.2,
          free_not_inFlight]
        exact List.Perm.refl _
      · rw [if_neg here] at found ⊢
        have left := ih found
        rw [inFlightIn_cons, inFlightIn_cons]
        exact (left.append_left _).trans List.perm_middle

theorem set_leaves {packets : List InflightPacket} {slot : Nat} (inside : slot < packets.length)
    {packet : InflightPacket} (now : packet.inFlight = true) :
    ∃ rest, (inFlightIn packets).Perm
        ((if packets[slot].inFlight then [packets[slot]] else []) ++ rest) ∧
      (inFlightIn (packets.set slot packet)).Perm (packet :: rest) := by
  refine ⟨inFlightIn (packets.take slot) ++ inFlightIn (packets.drop (slot + 1)), ?_, ?_⟩
  · have split := List.take_append_drop slot packets
    rw [List.drop_eq_getElem_cons inside] at split
    have parts := congrArg inFlightIn split
    rw [inFlightIn_append, inFlightIn_cons] at parts
    rw [← parts]
    exact List.perm_append_comm_assoc ..
  · rw [List.set_eq_take_append_cons_drop, if_pos inside, inFlightIn_append, inFlightIn_cons,
      if_pos now]
    exact List.perm_middle

theorem late_leaves (now : Instant) (packets : List InflightPacket) :
    (inFlightIn packets).Perm (packets.filter (InflightPacket.late now) ++
      inFlightIn (packets.map
        (fun packet => if packet.late now then packet.free else packet))) := by
  induction packets with
  | nil => exact List.Perm.refl _
  | cons packet rest ih =>
      rw [inFlightIn_cons, List.map_cons, inFlightIn_cons, List.filter_cons]
      by_cases late : packet.late now = true
      · have flying : packet.inFlight = true := (Bool.and_eq_true_iff.mp late).1
        rw [if_pos late, if_pos late, if_pos flying, free_not_inFlight]
        exact ih.cons packet
      · rw [if_neg late, if_neg late]
        exact (ih.append_left _).trans (List.perm_append_comm_assoc ..)

/-- The slot that was picked is free, or no slot is and it is one of the oldest. -/
structure Picked (packets : List InflightPacket) (slot : Nat) (old : InflightPacket) : Prop where
  found : packets[slot]? = some old
  oldest : old.sendTime = 0 ∨
    ∀ packet ∈ packets, packet.sendTime ≠ 0 ∧ old.sendTime ≤ packet.sendTime

def Best (seen : List InflightPacket) : Option (Nat × Nat) → Prop
  | none => seen = []
  | some (place, time) => ∃ old, seen[place]? = some old ∧ old.sendTime = time ∧
      ∀ packet ∈ seen, packet.sendTime ≠ 0 ∧ time ≤ packet.sendTime

theorem Best.last {seen : List InflightPacket} {packet : InflightPacket}
    (taken : packet.sendTime ≠ 0)
    (smallest : ∀ other ∈ seen, other.sendTime ≠ 0 ∧ packet.sendTime ≤ other.sendTime) :
    Best (seen ++ [packet]) (some (seen.length, packet.sendTime)) := by
  refine ⟨packet, ?_, rfl, ?_⟩
  · rw [List.getElem?_append_right (Nat.le_refl _), Nat.sub_self]
    rfl
  · rw [List.forall_mem_append, List.forall_mem_singleton]
    exact ⟨smallest, taken, Nat.le_refl _⟩

theorem pickSlot_best {seen rest : List InflightPacket} {best : Option (Nat × Nat)}
    (some : seen ++ rest ≠ []) (held : Best seen best) :
    ∃ slot old, pickSlot seen.length best rest = Option.some slot ∧
      Picked (seen ++ rest) slot old := by
  induction rest generalizing seen best with
  | nil =>
      rw [List.append_nil] at some ⊢
      cases best with
      | none => exact absurd held some
      | some best =>
          obtain ⟨place, time⟩ := best
          obtain ⟨old, found, same, smallest⟩ := held
          rw [← same] at smallest
          exact ⟨place, old, rfl, ⟨found, Or.inr smallest⟩⟩
  | cons packet rest ih =>
      have later : seen ++ packet :: rest = (seen ++ [packet]) ++ rest := List.append_cons ..
      have length : (seen ++ [packet]).length = seen.length + 1 := List.length_append
      rw [later] at some
      unfold pickSlot
      by_cases free : packet.sendTime = 0
      · rw [if_pos free]
        refine ⟨seen.length, packet, rfl, ⟨?_, Or.inl free⟩⟩
        rw [List.getElem?_append_right (Nat.le_refl _), Nat.sub_self]
        rfl
      · rw [if_neg free, later, ← length]
        cases best with
        | none =>
            apply ih some
            apply Best.last free
            rw [show seen = [] from held]
            exact fun _ member => absurd member List.not_mem_nil
        | some best =>
            obtain ⟨place, time⟩ := best
            obtain ⟨old, found, same, smallest⟩ := held
            dsimp only
            by_cases older : time > packet.sendTime
            · rw [if_pos older]
              apply ih some
              apply Best.last free
              intro other member
              exact ⟨(smallest other member).1,
                Nat.le_trans (Nat.le_of_lt older) (smallest other member).2⟩
            · rw [if_neg older]
              apply ih some
              refine ⟨old, ?_, same, ?_⟩
              · rw [List.getElem?_append_left (List.getElem?_eq_some_iff.mp found).1]
                exact found
              · rw [List.forall_mem_append, List.forall_mem_singleton]
                exact ⟨smallest, free, Nat.le_of_not_lt older⟩

theorem pickSlot_picked (self : CongestionControl) :
    ∃ slot old, pickSlot 0 none self.inflightPackets = some slot ∧
      Picked self.inflightPackets slot old := by
  have some : [] ++ self.inflightPackets ≠ [] := by
    intro empty
    have slots := self.slots
    rw [List.nil_append] at empty
    rw [empty] at slots
    cases slots
  exact pickSlot_best some (rfl : Best [] none)

theorem packetSent_cases (self : CongestionControl) (seq : SeqNo) (size : BitVec 64)
    (now : Instant) : self.packetSent seq size now = ([], self) ∨
      ∃ slot old, Picked self.inflightPackets slot old ∧
        self.packetSent seq size now = self.place slot old ⟨seq, now.ticks, size⟩ := by
  unfold CongestionControl.packetSent
  split
  · exact Or.inl rfl
  · obtain ⟨slot, old, chosen, picked⟩ := pickSlot_picked self
    refine Or.inr ⟨slot, old, picked, ?_⟩
    rw [chosen]
    dsimp only
    rw [List.getD_eq_getElem?_getD, picked.found]
    rfl

/-! ### The balance -/

open LabelledMachine

def Fate.sentPacket : Fate → Option InflightPacket
  | .sent packet => some packet
  | _ => none

def Fate.acknowledgedPacket : Fate → Option InflightPacket
  | .acknowledged packet => some packet
  | _ => none

def Fate.lostPacket : Fate → Option InflightPacket
  | .lost packet => some packet
  | _ => none

def sentIn (fates : List Fate) : List InflightPacket := fates.filterMap Fate.sentPacket

def acknowledgedOf (fates : List Fate) : List InflightPacket :=
  fates.filterMap Fate.acknowledgedPacket

def lostIn (fates : List Fate) : List InflightPacket := fates.filterMap Fate.lostPacket

/-- Every packet that was sent was acknowledged, was lost, or is in flight. -/
structure Balanced (fates : List Fate) (control : CongestionControl) : Prop where
  packets : (sentIn fates).Perm
    (acknowledgedOf fates ++ lostIn fates ++ inFlightIn control.inflightPackets)
  size : control.inflightDataSize = sizeOf (inFlightIn control.inflightPackets)
  losses : control.lossCount = BitVec.ofNat 32 (lostIn fates).length

theorem sizeOf_perm {first second : List InflightPacket} (perm : first.Perm second) :
    sizeOf first = sizeOf second :=
  (perm.map InflightPacket.size).sum_eq

theorem sizeOf_append (first second : List InflightPacket) :
    sizeOf (first ++ second) = sizeOf first + sizeOf second := by
  unfold sizeOf
  rw [List.map_append, List.sum_append]

theorem sizeOf_none : sizeOf [] = 0 := rfl

theorem sizeOf_one (packet : InflightPacket) : sizeOf [packet] = packet.size :=
  add_zero packet.size

theorem foldl_size (packets : List InflightPacket) (size : BitVec 64) :
    packets.foldl (fun size packet => size - packet.size) size = size - sizeOf packets := by
  induction packets generalizing size with
  | nil => exact (sub_zero size).symm
  | cons packet packets ih =>
      rw [List.foldl_cons, ih, sub_sub]
      rfl

structure Settles (control target : CongestionControl) (later : List Fate) : Prop where
  packets : (inFlightIn control.inflightPackets ++ sentIn later).Perm
    (acknowledgedOf later ++ lostIn later ++ inFlightIn target.inflightPackets)
  size : target.inflightDataSize =
    control.inflightDataSize + sizeOf (sentIn later) - sizeOf (acknowledgedOf later ++ lostIn later)
  losses : target.lossCount = control.lossCount + BitVec.ofNat 32 (lostIn later).length

theorem Balanced.settles {fates later : List Fate} {control target : CongestionControl}
    (balanced : Balanced fates control) (settles : Settles control target later) :
    Balanced (fates ++ later) target where
  packets := by
    unfold sentIn acknowledgedOf lostIn
    rw [List.filterMap_append, List.filterMap_append, List.filterMap_append, List.perm_iff_count]
    intro packet
    have before := balanced.packets.count_eq packet
    have now := settles.packets.count_eq packet
    simp only [List.count_append] at before now ⊢
    unfold sentIn acknowledgedOf lostIn at before now
    omega
  size := by
    have sizes := sizeOf_perm settles.packets
    rw [sizeOf_append, sizeOf_append] at sizes
    rw [settles.size, balanced.size, sizes, add_sub_cancel_left]
  losses := by
    unfold lostIn
    rw [settles.losses, balanced.losses, List.filterMap_append, List.length_append,
      BitVec.ofNat_add]
    rfl

theorem settles_nothing (control : CongestionControl) :
    Settles control control [] where
  packets := List.Perm.of_eq (List.append_nil _)
  size := by
    change _ = control.inflightDataSize + 0 - 0
    rw [sub_zero, add_zero]
  losses := (add_zero _).symm

theorem lostIn_lost (packets : List InflightPacket) : lostIn (packets.map Fate.lost) = packets := by
  unfold lostIn
  rw [List.filterMap_map]
  exact List.filterMap_some ..

theorem filterMap_lost {Seen : Type} {see : Fate → Option Seen}
    (unseen : ∀ packet, see (.lost packet) = none) (packets : List InflightPacket) :
    (packets.map Fate.lost).filterMap see = [] := by
  rw [List.filterMap_map]
  exact List.filterMap_eq_nil_iff.mpr (fun packet _ => unseen packet)

theorem sentIn_lost (packets : List InflightPacket) : sentIn (packets.map Fate.lost) = [] :=
  filterMap_lost (fun _ => rfl) packets

theorem acknowledgedOf_lost (packets : List InflightPacket) :
    acknowledgedOf (packets.map Fate.lost) = [] :=
  filterMap_lost (fun _ => rfl) packets

theorem settles_lost {control target : CongestionControl} {lost : List InflightPacket}
    {last : Fate} (sent : List InflightPacket) (sends : sentIn [last] = sent)
    (keepsAcknowledged : acknowledgedOf [last] = []) (keepsLost : lostIn [last] = [])
    (packets : (inFlightIn control.inflightPackets ++ sent).Perm
      (lost ++ inFlightIn target.inflightPackets))
    (size : target.inflightDataSize = control.inflightDataSize + sizeOf sent - sizeOf lost)
    (losses : target.lossCount = control.lossCount + BitVec.ofNat 32 lost.length) :
    Settles control target (lost.map Fate.lost ++ [last]) := by
  have sentNow : sentIn (lost.map Fate.lost ++ [last]) = sent := by
    rw [← sends, ← List.nil_append (sentIn [last]), ← sentIn_lost lost]
    exact List.filterMap_append
  have acknowledgedNow : acknowledgedOf (lost.map Fate.lost ++ [last]) = [] := by
    have parts : acknowledgedOf (lost.map Fate.lost ++ [last]) =
      acknowledgedOf (lost.map Fate.lost) ++ acknowledgedOf [last] := List.filterMap_append
    rw [parts, acknowledgedOf_lost, keepsAcknowledged, List.append_nil]
  have lostNow : lostIn (lost.map Fate.lost ++ [last]) = lost := by
    have parts : lostIn (lost.map Fate.lost ++ [last]) =
      lostIn (lost.map Fate.lost) ++ lostIn [last] := List.filterMap_append
    rw [parts, lostIn_lost, keepsLost, List.append_nil]
  exact
    { packets := by
        rw [sentNow, acknowledgedNow, lostNow, List.nil_append]
        exact packets
      size := by
        rw [sentNow, acknowledgedNow, lostNow, List.nil_append]
        exact size
      losses := by
        rw [lostNow]
        exact losses }

theorem settles_place {control : CongestionControl} {slot : Nat} {old packet : InflightPacket}
    (picked : Picked control.inflightPackets slot old) (now : packet.inFlight = true) :
    Settles control (control.place slot old packet).2 (control.place slot old packet).1 := by
  obtain ⟨inside, same⟩ := List.getElem?_eq_some_iff.mp picked.found
  obtain ⟨rest, before, after⟩ := set_leaves inside now
  rw [same] at before
  apply settles_lost [packet] rfl rfl rfl
  · refine (before.append_right _).trans ?_
    rw [List.append_assoc]
    exact ((List.perm_append_comm.trans after.symm).append_left _)
  · change (if old.inFlight then control.inflightDataSize - old.size
      else control.inflightDataSize) + packet.size = _
    by_cases taken : old.inFlight = true
    · rw [if_pos taken, if_pos taken, sizeOf_one, sizeOf_one, sub_add_eq_add_sub]
    · rw [if_neg taken, if_neg taken, sizeOf_one, sizeOf_none, sub_zero]
  · change (if old.inFlight then control.lossCount + 1 else control.lossCount) = _
    by_cases taken : old.inFlight = true
    · rw [if_pos taken, if_pos taken]
      rfl
    · rw [if_neg taken, if_neg taken]
      exact (add_zero _).symm

theorem settles_acknowledged (control : CongestionControl) (seq : SeqNo) :
    Settles control (control.packetAcknowledged seq).2 (control.packetAcknowledged seq).1 := by
  unfold CongestionControl.packetAcknowledged
  cases found : (acknowledgeIn seq control.inflightPackets).1 with
  | none => exact settles_nothing control
  | some packet =>
      have left := acknowledgeIn_leaves found
      exact
        { packets := (List.Perm.of_eq (List.append_nil _)).trans left
          size := by
            change _ - packet.size = _ + 0 - (packet.size + 0)
            rw [add_zero, add_zero]
          losses := (add_zero _).symm }

theorem settles_tick (control : CongestionControl) (now : Instant) :
    Settles control (control.tick now).2 (control.tick now).1 := by
  apply settles_lost [] rfl rfl rfl
  · rw [List.append_nil]
    exact late_leaves now control.inflightPackets
  · rw [sizeOf_none, add_zero, ← foldl_size]
    rfl
  · rfl

theorem settles_sent (control : CongestionControl) (seq : SeqNo) (size : BitVec 64)
    (now : Instant) :
    Settles control (control.packetSent seq size now).2 (control.packetSent seq size now).1 := by
  rcases packetSent_cases control seq size now with refused | ⟨slot, old, picked, placed⟩
  · rw [refused]
    exact settles_nothing control
  · rw [placed]
    exact settles_place picked (decide_eq_true now.started)

theorem settles_control (control : CongestionControl) (asked answered : Instant) :
    Settles control (control.getBandwidthControlAction asked answered).2
      (control.getBandwidthControlAction asked answered).1 := by
  unfold CongestionControl.getBandwidthControlAction
  split
  · exact settles_nothing control
  · split
    · exact settles_nothing control
    · exact
        { packets := List.Perm.of_eq (List.append_nil _)
          size := (settles_nothing control).size
          losses := (settles_nothing control).losses }

/-! ### Over every run -/

section Runs

variable {cwnd : BitVec 64} {control source target : CongestionControl} {label : CongestionEvent}
  {output : List Fate} {taken : List (Transition CongestionControl CongestionEvent Fate)}

theorem settles_step (stepped : source.step label = some (output, target)) :
    Settles source target output := by
  cases label with
  | sent seq size now =>
      have settles := settles_sent source seq size now
      rw [Option.some.inj stepped] at settles
      exact settles
  | acknowledged seq =>
      have settles := settles_acknowledged source seq
      rw [Option.some.inj stepped] at settles
      exact settles
  | tick now =>
      have settles := settles_tick source now
      rw [Option.some.inj stepped] at settles
      exact settles
  | control asked answered =>
      have settles := settles_control source asked answered
      rw [Option.some.inj stepped] at settles
      exact settles

/-- Every packet that was sent was acknowledged, was lost or is in flight, and
the two counters are the size of the last and the number of the lost ones. -/
theorem packets_are_accounted_for
    (run : Run CongestionControl.step (CongestionControl.create cwnd) taken control) :
    Balanced (history taken) control := by
  have always : ∀ transition ∈ taken, True := fun _ _ => trivial
  apply Run.invariant _ _ run always
  · exact ⟨List.Perm.refl _, rfl, rfl⟩
  · intro taken source label output target _ balanced stepped _
    rw [history_append, history_cons, history_nil, List.append_nil]
    exact balanced.settles (settles_step stepped)

def sampleTime (ticks : Nat) : Instant := ⟨ticks + 1, Nat.succ_pos ticks⟩

def sampleTraffic : List CongestionEvent :=
  [.sent 1 100 (sampleTime 0), .sent 2 50 (sampleTime 1), .acknowledged 1,
    .tick (sampleTime 2000002), .control (sampleTime 2000003) (sampleTime 2000004)]

def sampleFates : List Fate :=
  [.sent ⟨1, 1, 100⟩, .sent ⟨2, 2, 50⟩, .acknowledged ⟨1, 1, 100⟩, .lost ⟨2, 2, 50⟩, .noted 0,
    .acted .increase 2000004 2000005]

theorem sampleTraffic_runs : ∃ taken control,
    Run CongestionControl.step (CongestionControl.create 1024) taken control ∧
      history taken = sampleFates := by
  have replayed : (replay CongestionControl.step (CongestionControl.create 1024)
      sampleTraffic).map (fun reached => history reached.1) = some sampleFates := rfl
  exact Run.of_replay_map replayed

theorem sample_packets_are_accounted_for : ∃ taken control,
    Run CongestionControl.step (CongestionControl.create 1024) taken control ∧
      history taken = sampleFates ∧ Balanced (history taken) control := by
  obtain ⟨taken, control, run, same⟩ := sampleTraffic_runs
  exact ⟨taken, control, run, same, packets_are_accounted_for run⟩

/-- What a step may lose. -/
def LostBy (control : CongestionControl) (packet : InflightPacket) : CongestionEvent → Prop
  | .sent _ _ _ => packet ∈ control.inflightPackets ∧
      ∀ other ∈ control.inflightPackets, other.inFlight = true ∧ packet.sendTime ≤ other.sendTime
  | .acknowledged _ => False
  | .tick now => packet ∈ control.inflightPackets ∧ packet.late now = true
  | .control _ _ => False

theorem lost_member {lost : List InflightPacket} {last : Fate} {packet : InflightPacket}
    (other : Fate.lost packet ≠ last) :
    Fate.lost packet ∈ lost.map Fate.lost ++ [last] ↔ packet ∈ lost := by
  rw [List.mem_append, List.mem_singleton, List.mem_map]
  constructor
  · rintro (⟨same, member, injected⟩ | last)
    · rw [← Fate.lost.inj injected]
      exact member
    · exact absurd last other
  · intro member
    exact Or.inl ⟨packet, member, rfl⟩

theorem place_loses {slot : Nat} {old packet lost : InflightPacket}
    (picked : Picked control.inflightPackets slot old)
    (member : Fate.lost lost ∈ (control.place slot old packet).1) :
    lost ∈ control.inflightPackets ∧
      ∀ other ∈ control.inflightPackets,
        other.inFlight = true ∧ lost.sendTime ≤ other.sendTime := by
  unfold CongestionControl.place at member
  dsimp only at member
  rw [lost_member Fate.noConfusion] at member
  split at member
  · rename_i flying
    rw [List.mem_singleton.mp member]
    have taken : old.sendTime > 0 := of_decide_eq_true flying
    refine ⟨List.mem_of_getElem? picked.found, ?_⟩
    intro other among
    obtain ⟨busy, older⟩ := (picked.oldest.resolve_left (Nat.ne_of_gt taken)) other among
    exact ⟨decide_eq_true (Nat.pos_of_ne_zero busy), older⟩
  · exact absurd member List.not_mem_nil

theorem sent_loses {seq : SeqNo} {size : BitVec 64} {now : Instant} {packet : InflightPacket}
    (member : Fate.lost packet ∈ (control.packetSent seq size now).1) :
    packet ∈ control.inflightPackets ∧ ∀ other ∈ control.inflightPackets,
      other.inFlight = true ∧ packet.sendTime ≤ other.sendTime := by
  rcases packetSent_cases control seq size now with refused | ⟨slot, old, picked, placed⟩
  · rw [refused] at member
    exact absurd member List.not_mem_nil
  · rw [placed] at member
    exact place_loses picked member

theorem acknowledged_loses_none {seq : SeqNo} {packet : InflightPacket} :
    Fate.lost packet ∉ (control.packetAcknowledged seq).1 := by
  intro member
  unfold CongestionControl.packetAcknowledged at member
  split at member
  · exact absurd member List.not_mem_nil
  · cases List.mem_singleton.mp member

theorem tick_loses {now : Instant} {packet : InflightPacket} :
    Fate.lost packet ∈ (control.tick now).1 ↔
      packet ∈ control.inflightPackets ∧ packet.late now = true := by
  unfold CongestionControl.tick
  dsimp only
  rw [lost_member Fate.noConfusion, List.mem_filter]

theorem control_loses_none {asked answered : Instant} {packet : InflightPacket} :
    Fate.lost packet ∉ (control.getBandwidthControlAction asked answered).1 := by
  intro member
  unfold CongestionControl.getBandwidthControlAction at member
  split at member
  · exact absurd member List.not_mem_nil
  · split at member
    · exact absurd member List.not_mem_nil
    · cases List.mem_singleton.mp member

/-- A tick loses exactly what is late, and a new packet only the oldest one,
when all slots are taken. -/
theorem losses_are_late_or_oldest {start : CongestionControl}
    (run : Run CongestionControl.step start taken control) :
    ∀ transition ∈ taken, ∀ packet,
      (Fate.lost packet ∈ transition.output →
        LostBy transition.source packet transition.label) ∧
      ∀ now, transition.label = .tick now →
        LostBy transition.source packet transition.label →
        Fate.lost packet ∈ transition.output := by
  have always : ∀ transition ∈ taken, True := fun _ _ => trivial
  apply Run.invariant _ _ run always
  · exact fun _ member => absurd member List.not_mem_nil
  · intro taken source label output target _ before stepped _
    rw [List.forall_mem_append, List.forall_mem_singleton]
    refine ⟨before, ?_⟩
    dsimp only
    cases label with
    | sent seq size now =>
        have given := congrArg Prod.fst (Option.some.inj stepped)
        rw [← show (source.packetSent seq size now).1 = output from given]
        exact fun _ => ⟨sent_loses, fun _ other => CongestionEvent.noConfusion other⟩
    | acknowledged seq =>
        have given := congrArg Prod.fst (Option.some.inj stepped)
        rw [← show (source.packetAcknowledged seq).1 = output from given]
        exact fun _ => ⟨fun member => absurd member acknowledged_loses_none,
          fun _ other => CongestionEvent.noConfusion other⟩
    | tick now =>
        have given := congrArg Prod.fst (Option.some.inj stepped)
        rw [← show (source.tick now).1 = output from given]
        exact fun _ => ⟨tick_loses.mp, fun _ _ => tick_loses.mpr⟩
    | control asked answered =>
        have given := congrArg Prod.fst (Option.some.inj stepped)
        rw [← show (source.getBandwidthControlAction asked answered).1 = output from given]
        exact fun _ => ⟨fun member => absurd member control_loses_none,
          fun _ other => CongestionEvent.noConfusion other⟩

theorem sample_loss_is_late : ∃ taken control,
    Run CongestionControl.step (CongestionControl.create 1024) taken control ∧
      Fate.lost ⟨2, 2, 50⟩ ∈ history taken ∧ ∀ transition ∈ taken, ∀ packet,
        Fate.lost packet ∈ transition.output →
          LostBy transition.source packet transition.label := by
  obtain ⟨taken, control, run, same⟩ := sampleTraffic_runs
  refine ⟨taken, control, run, ?_, ?_⟩
  · rw [same]
    decide
  · intro transition member packet
    exact (losses_are_late_or_oldest run transition member packet).1

end Runs

open RecentValues

def Fate.notedSize : Fate → Option (BitVec 64)
  | .noted size => some size
  | _ => none

def Fate.actionTimes : Fate → Option (Nat × Nat)
  | .acted _ asked answered => some (asked, answered)
  | _ => none

def notedIn (fates : List Fate) : List (BitVec 64) := fates.filterMap Fate.notedSize

def actionsIn (fates : List Fate) : List (Nat × Nat) := fates.filterMap Fate.actionTimes

def lastActionIn (fates : List Fate) : Nat := ((actionsIn fates).getLast?.map Prod.snd).getD 0

def Apart (earlier later : Nat × Nat) : Prop := earlier.2 + second ≤ later.1

/-- What decides about the bitrate, read off what was noted and done. -/
structure Remembers (cwnd : BitVec 64) (fates : List Fate) (control : CongestionControl) :
    Prop where
  cwnd : control.cwnd = cwnd
  shows : Ring.Shows control.inflightHistory 0 (notedIn fates).reverse
  last : control.lastActionTime = lastActionIn fates
  apart : (actionsIn fates).IsChain Apart

section Bitrate

variable {cwnd : BitVec 64} {control source target : CongestionControl} {label : CongestionEvent}
  {fates later : List Fate} {taken : List (Transition CongestionControl CongestionEvent Fate)}

theorem notedIn_append : notedIn (fates ++ later) = notedIn fates ++ notedIn later :=
  List.filterMap_append

theorem actionsIn_append : actionsIn (fates ++ later) = actionsIn fates ++ actionsIn later :=
  List.filterMap_append

theorem notedIn_lost (lost : List InflightPacket) : notedIn (lost.map Fate.lost) = [] :=
  filterMap_lost (fun _ => rfl) lost

theorem actionsIn_lost (lost : List InflightPacket) : actionsIn (lost.map Fate.lost) = [] :=
  filterMap_lost (fun _ => rfl) lost

theorem Remembers.quiet (remembers : Remembers cwnd fates control) (notes : notedIn later = [])
    (acts : actionsIn later = []) (window : target.cwnd = control.cwnd)
    (sizes : target.inflightHistory = control.inflightHistory)
    (time : target.lastActionTime = control.lastActionTime) :
    Remembers cwnd (fates ++ later) target where
  cwnd := window.trans remembers.cwnd
  shows := by
    rw [sizes, notedIn_append, notes, List.append_nil]
    exact remembers.shows
  last := by
    unfold lastActionIn
    rw [time, actionsIn_append, acts, List.append_nil]
    exact remembers.last
  apart := by
    rw [actionsIn_append, acts, List.append_nil]
    exact remembers.apart

theorem Remembers.sent (remembers : Remembers cwnd fates control) (seq : SeqNo)
    (size : BitVec 64) (now : Instant) :
    Remembers cwnd (fates ++ (control.packetSent seq size now).1)
      (control.packetSent seq size now).2 := by
  rcases packetSent_cases control seq size now with refused | ⟨slot, old, picked, placed⟩
  · rw [refused]
    exact remembers.quiet rfl rfl rfl rfl rfl
  · rw [placed]
    have notes : notedIn (control.place slot old ⟨seq, now.ticks, size⟩).1 = [] := by
      unfold CongestionControl.place
      dsimp only
      rw [notedIn_append, notedIn_lost]
      rfl
    have acts : actionsIn (control.place slot old ⟨seq, now.ticks, size⟩).1 = [] := by
      unfold CongestionControl.place
      dsimp only
      rw [actionsIn_append, actionsIn_lost]
      rfl
    exact remembers.quiet notes acts rfl rfl rfl

theorem Remembers.acknowledged (remembers : Remembers cwnd fates control) (seq : SeqNo) :
    Remembers cwnd (fates ++ (control.packetAcknowledged seq).1)
      (control.packetAcknowledged seq).2 := by
  unfold CongestionControl.packetAcknowledged
  split
  · exact remembers.quiet rfl rfl rfl rfl rfl
  · exact remembers.quiet rfl rfl rfl rfl rfl

theorem Remembers.tick (remembers : Remembers cwnd fates control) (now : Instant) :
    Remembers cwnd (fates ++ (control.tick now).1) (control.tick now).2 := by
  unfold CongestionControl.tick
  dsimp only
  generalize control.inflightPackets.filter (InflightPacket.late now) = lost
  generalize lost.foldl (fun size packet => size - packet.size) control.inflightDataSize = size
  have noted : notedIn (lost.map Fate.lost ++ [.noted size]) = [size] := by
    rw [notedIn_append, notedIn_lost]
    rfl
  have acted : actionsIn (lost.map Fate.lost ++ [.noted size]) = [] := by
    rw [actionsIn_append, actionsIn_lost]
    rfl
  exact
    { cwnd := remembers.cwnd
      shows := by
        rw [notedIn_append, noted, List.reverse_append]
        exact remembers.shows.put size
      last := by
        unfold lastActionIn
        rw [actionsIn_append, acted, List.append_nil]
        exact remembers.last
      apart := by
        rw [actionsIn_append, acted, List.append_nil]
        exact remembers.apart }

theorem Remembers.acted (remembers : Remembers cwnd fates control) (action : ControlAction)
    {asked answered : Nat} (elapsed : ¬ asked - control.lastActionTime < second) :
    Remembers cwnd (fates ++ [.acted action asked answered])
      { control with lastActionTime := answered } where
  cwnd := remembers.cwnd
  shows := by
    rw [notedIn_append]
    change Ring.Shows _ 0 (notedIn fates ++ []).reverse
    rw [List.append_nil]
    exact remembers.shows
  last := by
    unfold lastActionIn
    rw [actionsIn_append]
    change answered = ((actionsIn fates ++ [(asked, answered)]).getLast?.map Prod.snd).getD 0
    rw [List.getLast?_concat]
    rfl
  apart := by
    rw [actionsIn_append]
    change (actionsIn fates ++ [(asked, answered)]).IsChain Apart
    rw [List.isChain_append]
    refine ⟨remembers.apart, List.isChain_singleton _, ?_⟩
    intro earlier last later first
    rw [← Option.some.inj first]
    have time := remembers.last
    unfold lastActionIn at time
    rw [Option.mem_def.mp last] at time
    have same : control.lastActionTime = earlier.2 := time
    unfold Apart second at *
    omega

theorem Remembers.asked (remembers : Remembers cwnd fates control) (asked answered : Instant) :
    Remembers cwnd (fates ++ (control.getBandwidthControlAction asked answered).1)
      (control.getBandwidthControlAction asked answered).2 := by
  unfold CongestionControl.getBandwidthControlAction
  split
  · exact remembers.quiet rfl rfl rfl rfl rfl
  · rename_i elapsed
    split
    · exact remembers.quiet rfl rfl rfl rfl rfl
    · exact remembers.acted _ elapsed

theorem Remembers.average (remembers : Remembers cwnd fates control) :
    control.inflightHistory.average = (newest 30 (notedIn fates)).sum / 30 := by
  rw [average_eq, remembers.shows.sum, List.take_reverse, (List.reverse_perm _).sum_eq]
  rfl

end Bitrate

end Tg2Sip.Voip
