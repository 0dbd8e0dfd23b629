/-
What an acknowledgement is worth.

The mask names the packets that were received from the highest number
downwards, but the receiver of the mask reads its highest bit as the packet
before that one.  A packet is therefore marked as acknowledged when the packet
with the next number was received, and a packet that must arrive is dropped
when the one behind one of its transmissions did.
-/

import Tg2Sip.Voip.Protocol

namespace Tg2Sip.Voip

/-- Fewer packets than half of the range were numbered. -/
def Controller.Few (self : Controller) : Prop := self.numbered < 2 ^ 31 - 1

def Controller.Issued (self : Controller) (seq : SeqNo) : Prop :=
  1 ≤ seq.toNat ∧ seq.toNat ≤ self.numbered

structure WindowSound (window : ReceiveWindow) (accepted : List SeqNo) : Prop where
  latest : window.lastRemoteSeq = 0 ∨ window.lastRemoteSeq ∈ accepted
  arrived : ∀ index : Fin 32, window.recvPacketTimes index ≠ 0 →
    ∃ seq ∈ accepted, seq.toNat + index.val = window.lastRemoteSeq.toNat

/-- What the header of a packet says was accepted. -/
structure AcksSound (ackId : SeqNo) (acks : BitVec 32) (accepted : List SeqNo) : Prop where
  latest : ackId = 0 ∨ ackId ∈ accepted
  arrived : ∀ index : Fin 32, acks.getLsbD (31 - index.val) = true →
    ∃ seq ∈ accepted, seq.toNat + index.val = ackId.toNat

theorem AcksSound.more {ackId : SeqNo} {acks : BitVec 32} {accepted : List SeqNo}
    (sound : AcksSound ackId acks accepted) (later : List SeqNo) :
    AcksSound ackId acks (accepted ++ later) := by
  constructor
  · rcases sound.latest with zero | member
    · exact .inl zero
    · exact .inr (List.mem_append_left _ member)
  · intro index marked
    obtain ⟨seq, member, same⟩ := sound.arrived index marked
    exact ⟨seq, List.mem_append_left _ member, same⟩

theorem WindowSound.acks {window : ReceiveWindow} {accepted : List SeqNo}
    (sound : WindowSound window accepted) :
    AcksSound window.lastRemoteSeq (ackMask window.recvPacketTimes) accepted := by
  refine ⟨sound.latest, ?_⟩
  intro index marked
  rw [ackMask_bit, decide_eq_true_eq] at marked
  exact sound.arrived index (by omega)

theorem seqgt_small {s1 s2 : SeqNo} (firstSmall : s1.toNat < 2 ^ 31)
    (secondSmall : s2.toNat < 2 ^ 31) : seqgt s1 s2 = decide (s2.toNat < s1.toNat) := by
  rw [seqgt_eq]
  apply SerialNumber.follows_of_small
  · exact Nat.le_of_lt_succ firstSmall
  · exact Nat.le_of_lt_succ secondSmall

theorem WindowSound.receive {window : ReceiveWindow} {accepted : List SeqNo}
    (sound : WindowSound window accepted) {pseq : SeqNo} (now : Instant)
    (small : pseq.toNat < 2 ^ 31) (lastSmall : window.lastRemoteSeq.toNat < 2 ^ 31)
    (accepts : (window.receive pseq now).1.accepts = true) :
    WindowSound (window.receive pseq now).2 (accepted ++ [pseq]) := by
  have last : pseq ∈ accepted ++ [pseq] :=
    List.mem_append_right _ (List.mem_singleton.mpr rfl)
  have smaller := seqgt_small small lastSmall
  have dealt := receipt window pseq now
  generalize (window.receive pseq now).1 = verdict at dealt accepts
  generalize (window.receive pseq now).2 = target at dealt ⊢
  cases dealt with
  | leapt after far =>
      refine ⟨.inr last, ?_⟩
      intro index impossible
      exact absurd rfl impossible
  | advanced after near =>
      rw [smaller, decide_eq_true_eq] at after
      have diff := BitVec.toNat_sub_of_le (BitVec.le_def.mpr (Nat.le_of_lt after))
      rw [diff]
      refine ⟨.inr last, ?_⟩
      intro index arrived
      dsimp only at arrived ⊢
      by_cases first : index = 0
      · subst first
        exact ⟨pseq, last, rfl⟩
      · by_cases gap : index.val < pseq.toNat - window.lastRemoteSeq.toNat
        · exact absurd (shiftTimes_gap _ now first gap) arrived
        · rw [shiftTimes_moved _ now first (by omega)] at arrived
          obtain ⟨seq, member, same⟩ := sound.arrived _ arrived
          dsimp only at same
          exact ⟨seq, List.mem_append_left _ member, by omega⟩
  | repeated => cases accepts
  | @filled index after behind missing =>
      rw [smaller, decide_eq_false_iff_not] at after
      rw [BitVec.toNat_sub_of_le (BitVec.le_def.mpr (Nat.le_of_not_lt after))] at behind
      constructor
      · rcases sound.latest with zero | member
        · exact .inl zero
        · exact .inr (List.mem_append_left _ member)
      · intro other arrived
        dsimp only at arrived ⊢
        by_cases here : other = index
        · refine ⟨pseq, last, ?_⟩
          rw [here]
          omega
        · rw [Function.update_of_ne here] at arrived
          obtain ⟨seq, member, same⟩ := sound.arrived other arrived
          exact ⟨seq, List.mem_append_left _ member, same⟩
  | late => cases accepts

/-- Some round of the loop over the mask names the number. -/
def NamedBy (ackId : SeqNo) (acks : BitVec 32) (seq : SeqNo) : Prop :=
  ∃ i < 31, acks.getLsbD (31 - i) = true ∧ seq = ackId - BitVec.ofNat 32 (i + 1)

theorem markRound_cases {ackId : SeqNo} {acks : BitVec 32} {now : Instant}
    {packets : List RecentOutgoingPacket} {i : Nat} (round : i < 31)
    {packet : RecentOutgoingPacket} (member : packet ∈ markRound ackId acks now packets i) :
    packet ∈ packets ∨ NamedBy ackId acks packet.seq := by
  obtain ⟨earlier, inside, rfl⟩ := List.mem_map.mp member
  split
  · exact .inl inside
  · split
    · rename_i named
      rw [Bool.and_eq_true, beq_iff_eq] at named
      exact .inr ⟨i, round, named.1, named.2⟩
    · exact .inl inside

theorem markRounds_cases {ackId : SeqNo} {acks : BitVec 32} {now : Instant} {rounds : List Nat}
    (short : ∀ i ∈ rounds, i < 31) {packets : List RecentOutgoingPacket}
    {packet : RecentOutgoingPacket}
    (member : packet ∈ rounds.foldl (markRound ackId acks now) packets) :
    packet ∈ packets ∨ NamedBy ackId acks packet.seq := by
  induction rounds generalizing packets with
  | nil => exact .inl member
  | cons i rest ih =>
      rcases ih (fun other inRest => short other (List.mem_cons_of_mem _ inRest)) member with
        earlier | named
      · exact markRound_cases (short i List.mem_cons_self) earlier
      · exact .inr named

theorem markAcknowledged_cases {ackId : SeqNo} {acks : BitVec 32} {now : Instant}
    {packets : List RecentOutgoingPacket} {packet : RecentOutgoingPacket}
    (member : packet ∈ markAcknowledged ackId acks now packets) :
    packet ∈ packets ∨ NamedBy ackId acks packet.seq :=
  markRounds_cases (fun _ inRange => List.mem_range.mp inRange) member

def NextAccepted (seq : SeqNo) (accepted : List SeqNo) : Prop :=
  ∃ next ∈ accepted, next.toNat = seq.toNat + 1

theorem NextAccepted.more {seq : SeqNo} {accepted : List SeqNo}
    (next : NextAccepted seq accepted) (later : List SeqNo) :
    NextAccepted seq (accepted ++ later) := by
  obtain ⟨number, member, same⟩ := next
  exact ⟨number, List.mem_append_left _ member, same⟩

/-- The bit of a received packet marks the packet before it. -/
theorem NamedBy.nextAccepted {ackId : SeqNo} {acks : BitVec 32} {seq : SeqNo}
    {accepted : List SeqNo} (named : NamedBy ackId acks seq)
    (sound : AcksSound ackId acks accepted) (positive : ∀ number ∈ accepted, 1 ≤ number.toNat) :
    NextAccepted seq accepted := by
  obtain ⟨i, round, marked, rfl⟩ := named
  have inside : i < 32 := by omega
  obtain ⟨number, member, same⟩ := sound.arrived ⟨i, inside⟩ marked
  have one := positive number member
  refine ⟨number, member, ?_⟩
  have small : (BitVec.ofNat 32 (i + 1)).toNat = i + 1 := by
    rw [BitVec.toNat_ofNat, Nat.mod_eq_of_lt (by omega)]
  dsimp only at same
  have order : BitVec.ofNat 32 (i + 1) ≤ ackId := by
    rw [BitVec.le_def, small]
    omega
  rw [BitVec.toNat_sub_of_le order, small]
  omega

/-- The numbers that were given out between two states of a controller. -/
def NumberedBetween (source target : Controller) (seq : SeqNo) : Prop :=
  ∃ number, source.numbered < number ∧ number ≤ target.numbered ∧ seq = BitVec.ofNat 32 number

/-- Everything but receiving a packet. -/
structure Controller.Sends (source target : Controller) : Prop where
  window : target.window = source.window
  accepted : target.accepted = source.accepted
  numbered : source.numbered ≤ target.numbered
  next : source.seq = BitVec.ofNat 32 (source.numbered + 1) →
    target.seq = BitVec.ofNat 32 (target.numbered + 1)
  pending : source.seq = BitVec.ofNat 32 (source.numbered + 1) →
    ∀ packet ∈ target.sendQueue, packet ∈ source.sendQueue ∨
      NumberedBetween source target packet.seq
  recent : ∀ packet ∈ target.recentOutgoingPackets,
    packet ∈ source.recentOutgoingPackets ∨ packet.ackTime = 0

theorem sendPacketReliably_sends (self : Controller) (type : UInt8) (data : Bytes)
    (retryInterval timeout : Nat) :
    self.Sends (self.sendPacketReliably type data retryInterval timeout) where
  window := rfl
  accepted := rfl
  numbered := Nat.le_refl _
  next counted := counted
  pending _ _ member := .inl member
  recent _ member := .inl member

theorem sendExtra_sends (self : Controller) (extra : Extra) :
    self.Sends (self.sendExtra extra) where
  window := rfl
  accepted := rfl
  numbered := Nat.le_refl _
  next counted := counted
  pending _ _ member := .inl member
  recent _ member := .inl member

theorem next_number (number : Nat) :
    (BitVec.ofNat 32 number : SeqNo) + 1 = BitVec.ofNat 32 (number + 1) :=
  (BitVec.ofNat_add number 1).symm

theorem enqueue_sends (self : Controller) (type : UInt8) (data : Bytes) :
    self.Sends (self.enqueue type data) where
  window := rfl
  accepted := rfl
  numbered := Nat.le_succ _
  next counted := by
    dsimp only [Controller.enqueue]
    rw [counted, next_number]
  pending counted packet member := by
    rcases List.mem_append.mp member with earlier | last
    · exact .inl earlier
    · rw [List.mem_singleton.mp last]
      exact .inr ⟨self.numbered + 1, Nat.lt_succ_self _, Nat.le_refl _, counted⟩
  recent _ member := .inl member

theorem updateQueue_numbers (now : Instant) {seq : SeqNo} {numbered : Nat}
    (counted : seq = BitVec.ofNat 32 (numbered + 1)) (packets : List QueuedPacket) :
    (updateQueue now seq packets).2.2 =
        BitVec.ofNat 32 (numbered + (updateQueue now seq packets).2.1.length + 1) ∧
      ∀ packet ∈ (updateQueue now seq packets).2.1, ∃ number, numbered < number ∧
        number ≤ numbered + (updateQueue now seq packets).2.1.length ∧
        packet.seq = BitVec.ofNat 32 number := by
  induction packets generalizing seq numbered with
  | nil => exact ⟨counted, List.forall_mem_nil _⟩
  | cons packet rest ih =>
      unfold updateQueue
      split
      · exact ih counted
      · split
        · have next : seq + 1 = BitVec.ofNat 32 (numbered + 1 + 1) := by
            rw [counted, next_number]
          have behind := ih next
          generalize updateQueue now (seq + 1) rest = result at behind ⊢
          obtain ⟨kept, sends, last⟩ := result
          obtain ⟨final, numbers⟩ := behind
          dsimp only at final numbers ⊢
          rw [List.length_cons]
          constructor
          · rw [final]
            congr 1
            omega
          · intro sent member
            rcases List.mem_cons.mp member with rfl | later
            · exact ⟨numbered + 1, by omega, by omega, counted⟩
            · obtain ⟨number, above, within, same⟩ := numbers sent later
              exact ⟨number, by omega, by omega, same⟩
        · exact ih counted

theorem updateQueuedPackets_sends (self : Controller) (now : Instant) :
    self.Sends (self.updateQueuedPackets now) where
  window := rfl
  accepted := rfl
  numbered := Nat.le_add_right _ _
  next counted := (updateQueue_numbers now counted self.queuedPackets).1
  pending counted packet member := by
    rcases List.mem_append.mp member with earlier | sent
    · exact .inl earlier
    · exact .inr ((updateQueue_numbers now counted self.queuedPackets).2 packet sent)
  recent _ member := .inl member

theorem pushed_recent {packets : List RecentOutgoingPacket} {seq : SeqNo}
    {packet : RecentOutgoingPacket} (member : packet ∈ trimRecent (packets ++ [⟨seq, 0⟩])) :
    packet ∈ packets ∨ packet.ackTime = 0 := by
  rcases List.mem_append.mp (List.mem_of_mem_drop member) with earlier | last
  · exact .inl earlier
  · rw [List.mem_singleton.mp last]
    exact .inr rfl

theorem writePacket_sends (self : Controller) (pending : PendingOutgoingPacket) :
    self.Sends (self.writePacket pending).2 where
  window := rfl
  accepted := rfl
  numbered := Nat.le_refl _
  next counted := counted
  pending _ _ member := .inl (List.mem_of_mem_erase member)
  recent _ member := by
    rw [writePacket_recent] at member
    exact pushed_recent member

/-! ### The invariant of the system -/

structure Sound (system : System) : Prop where
  next : ∀ side, (system.controller side).seq =
    BitVec.ofNat 32 ((system.controller side).numbered + 1)
  pending : ∀ side, ∀ packet ∈ (system.controller side).sendQueue,
    (system.controller side).Issued packet.seq
  issued : ∀ side, ∀ packet ∈ system.sent side, (system.controller side).Issued packet.pseq
  acks : ∀ side, ∀ packet ∈ system.sent side,
    AcksSound packet.ackId packet.acks (system.controller side).accepted
  window : ∀ side, WindowSound (system.controller side).window (system.controller side).accepted
  accepted : ∀ side, ∀ seq ∈ (system.controller side).accepted,
    (system.controller side.peer).Issued seq
  marked : ∀ side, ∀ packet ∈ (system.controller side).recentOutgoingPackets,
    packet.ackTime ≠ 0 → NextAccepted packet.seq (system.controller side.peer).accepted

theorem initial_sound : Sound System.initial where
  next _ := rfl
  pending _ := List.forall_mem_nil _
  issued _ := List.forall_mem_nil _
  acks _ := List.forall_mem_nil _
  window _ := ⟨.inl rfl, fun _ impossible => absurd rfl impossible⟩
  accepted _ := List.forall_mem_nil _
  marked _ := List.forall_mem_nil _

@[simp] theorem put_self (system : System) (side : Side) (controller : Controller) :
    (system.put side controller).controller side = controller := Function.update_self ..

theorem put_other (system : System) {side other : Side} (controller : Controller)
    (different : other ≠ side) :
    (system.put side controller).controller other = system.controller other :=
  Function.update_of_ne different ..

@[simp] theorem put_sent (system : System) (side : Side) (controller : Controller) :
    (system.put side controller).sent = system.sent := rfl

@[simp] theorem send_controller (system : System) (side : Side) (packet : Packet) :
    (system.send side packet).controller = system.controller := rfl

theorem send_mem {system : System} {side other : Side} {packet sent : Packet}
    (member : sent ∈ (system.send side packet).sent other) :
    sent ∈ system.sent other ∨ other = side ∧ sent = packet := by
  unfold System.send at member
  dsimp only at member
  by_cases same : other = side
  · subst same
    rw [Function.update_self] at member
    rcases List.mem_append.mp member with earlier | last
    · exact .inl earlier
    · exact .inr ⟨rfl, List.mem_singleton.mp last⟩
  · rw [Function.update_of_ne same] at member
    exact .inl member

theorem sent_mem (system : System) (side : Side) (packet : Packet) {other : Side}
    {sent : Packet} (member : sent ∈ system.sent other) :
    sent ∈ (system.send side packet).sent other := by
  unfold System.send
  dsimp only
  by_cases same : other = side
  · subst same
    rw [Function.update_self]
    exact List.mem_append_left _ member
  · rw [Function.update_of_ne same]
    exact member

theorem send_last (system : System) (side : Side) (packet : Packet) :
    packet ∈ (system.send side packet).sent side := by
  unfold System.send
  dsimp only
  rw [Function.update_self]
  exact List.mem_append_right _ (List.mem_singleton.mpr rfl)

theorem Side.peer_ne (side : Side) : side.peer ≠ side := by
  cases side <;> decide

theorem Side.peer_peer (side : Side) : side.peer.peer = side := by
  cases side <;> rfl

theorem Controller.Issued.grow {source target : Controller} {seq : SeqNo}
    (issued : source.Issued seq) (more : source.numbered ≤ target.numbered) :
    target.Issued seq :=
  ⟨issued.1, Nat.le_trans issued.2 more⟩

theorem NumberedBetween.issued {source target : Controller} {seq : SeqNo}
    (between : NumberedBetween source target seq) (few : target.Few) : target.Issued seq := by
  obtain ⟨number, above, within, rfl⟩ := between
  unfold Controller.Few at few
  have small : (BitVec.ofNat 32 number).toNat = number := by
    rw [BitVec.toNat_ofNat, Nat.mod_eq_of_lt (by omega)]
  unfold Controller.Issued
  omega

theorem Sound.sends {system : System} {side : Side} {target : Controller} (sound : Sound system)
    (sends : (system.controller side).Sends target) (few : target.Few) :
    Sound (system.put side target) := by
  have elsewhere {other : Side} (different : other ≠ side) :=
    put_other system target different
  constructor
  · intro other
    by_cases same : other = side
    · subst same
      rw [put_self]
      exact sends.next (sound.next other)
    · rw [elsewhere same]
      exact sound.next other
  · intro other
    by_cases same : other = side
    · subst same
      rw [put_self]
      intro packet member
      rcases sends.pending (sound.next other) packet member with earlier | fresh
      · exact (sound.pending other packet earlier).grow sends.numbered
      · exact fresh.issued few
    · rw [elsewhere same]
      exact sound.pending other
  · intro other packet member
    by_cases same : other = side
    · subst same
      rw [put_self]
      exact (sound.issued other packet member).grow sends.numbered
    · rw [elsewhere same]
      exact sound.issued other packet member
  · intro other packet member
    by_cases same : other = side
    · subst same
      rw [put_self, sends.accepted]
      exact sound.acks other packet member
    · rw [elsewhere same]
      exact sound.acks other packet member
  · intro other
    by_cases same : other = side
    · subst same
      rw [put_self, sends.accepted, sends.window]
      exact sound.window other
    · rw [elsewhere same]
      exact sound.window other
  · intro other seq member
    have before : seq ∈ (system.controller other).accepted := by
      by_cases same : other = side
      · subst same
        rw [put_self, sends.accepted] at member
        exact member
      · rw [elsewhere same] at member
        exact member
    have issued := sound.accepted other seq before
    by_cases same : other.peer = side
    · rw [← same] at sends ⊢
      rw [put_self]
      exact issued.grow sends.numbered
    · rw [elsewhere same]
      exact issued
  · intro other packet member late
    have before : packet ∈ (system.controller other).recentOutgoingPackets := by
      by_cases same : other = side
      · subst same
        rw [put_self] at member
        exact (sends.recent packet member).resolve_right late
      · rw [elsewhere same] at member
        exact member
    have next := sound.marked other packet before late
    by_cases same : other.peer = side
    · rw [← same] at sends ⊢
      rw [put_self, sends.accepted]
      exact next
    · rw [elsewhere same]
      exact next

theorem Sound.send {system : System} {side : Side} {packet : Packet} (sound : Sound system)
    (issued : (system.controller side).Issued packet.pseq)
    (acks : AcksSound packet.ackId packet.acks (system.controller side).accepted) :
    Sound (system.send side packet) := by
  constructor
  · exact sound.next
  · exact sound.pending
  · intro other sent member
    rcases send_mem member with earlier | ⟨rfl, rfl⟩
    · exact sound.issued other sent earlier
    · exact issued
  · intro other sent member
    rcases send_mem member with earlier | ⟨rfl, rfl⟩
    · exact sound.acks other sent earlier
    · exact acks
  · exact sound.window
  · exact sound.accepted
  · exact sound.marked

structure Controller.Accepts (source target : Controller) (packet : Packet) : Prop where
  seq : target.seq = source.seq
  numbered : target.numbered = source.numbered
  sendQueue : target.sendQueue = source.sendQueue
  window : ∃ now, (source.window.receive packet.pseq now).1.accepts = true ∧
    target.window = (source.window.receive packet.pseq now).2
  accepted : target.accepted = source.accepted ++ [packet.pseq]
  recent : ∀ sent ∈ target.recentOutgoingPackets,
    sent ∈ source.recentOutgoingPackets ∨ NamedBy packet.ackId packet.acks sent.seq

theorem take_accepts {self : Controller} {packet : Packet} {now : Instant}
    (accepts : (self.window.receive packet.pseq now).1.accepts = true) :
    self.Accepts (self.take packet now) packet where
  seq := rfl
  numbered := rfl
  sendQueue := rfl
  window := ⟨now, accepts, rfl⟩
  accepted := rfl
  recent _ member := .inl member

theorem Controller.Accepts.acknowledge {self taken : Controller} {packet : Packet}
    (accepts : self.Accepts taken packet)
    (same : taken.recentOutgoingPackets = self.recentOutgoingPackets) (now : Instant) :
    self.Accepts (taken.acknowledge packet.ackId packet.acks now) packet where
  seq := accepts.seq
  numbered := accepts.numbered
  sendQueue := accepts.sendQueue
  window := accepts.window
  accepted := accepts.accepted
  recent sent member := by
    rw [acknowledge_recent, same] at member
    exact markAcknowledged_cases member

theorem processed_accepts (self : Controller) (packet : Packet) (now : Instant) :
    (self.processIncomingPacket packet now).2 = self ∨
      self.Accepts (self.processIncomingPacket packet now).2 packet := by
  unfold Controller.processIncomingPacket
  split
  · rename_i accepts
    right
    split
    · exact (take_accepts accepts).acknowledge rfl now
    · exact take_accepts accepts
  · exact .inl rfl

theorem Controller.Accepts.asWritten {source target : Controller} {packet : Packet}
    (accepts : source.Accepts target packet.asRead) : source.Accepts target packet where
  seq := accepts.seq
  numbered := accepts.numbered
  sendQueue := accepts.sendQueue
  window := accepts.window
  accepted := accepts.accepted
  recent := accepts.recent

theorem Controller.Issued.small {self : Controller} {seq : SeqNo} (issued : self.Issued seq)
    (few : self.Few) : seq.toNat < 2 ^ 31 := by
  have bound := issued.2
  unfold Controller.Few at few
  omega

theorem Sound.lastSmall {system : System} (sound : Sound system)
    (few : ∀ side, (system.controller side).Few) (side : Side) :
    (system.controller side).window.lastRemoteSeq.toNat < 2 ^ 31 := by
  rcases (sound.window side).latest with zero | member
  · rw [zero]
    decide
  · exact (sound.accepted side _ member).small (few side.peer)

theorem Sound.positive {system : System} (sound : Sound system) (side : Side) :
    ∀ seq ∈ (system.controller side).accepted, 1 ≤ seq.toNat :=
  fun seq member => (sound.accepted side seq member).1

theorem Sound.accepts {system : System} {side : Side} {target : Controller} {packet : Packet}
    (sound : Sound system) (few : ∀ side, (system.controller side).Few)
    (sent : packet ∈ system.sent side.peer)
    (accepts : (system.controller side).Accepts target packet) :
    Sound (system.put side target) := by
  have elsewhere {other : Side} (different : other ≠ side) :=
    put_other system target different
  have issued := sound.issued side.peer packet sent
  have acks := sound.acks side.peer packet sent
  constructor
  · intro other
    by_cases same : other = side
    · subst same
      rw [put_self, accepts.seq, accepts.numbered]
      exact sound.next other
    · rw [elsewhere same]
      exact sound.next other
  · intro other
    by_cases same : other = side
    · subst same
      rw [put_self, accepts.sendQueue]
      intro pending member
      exact (sound.pending other pending member).grow (Nat.le_of_eq accepts.numbered.symm)
    · rw [elsewhere same]
      exact sound.pending other
  · intro other earlier member
    by_cases same : other = side
    · subst same
      rw [put_self]
      exact (sound.issued other earlier member).grow (Nat.le_of_eq accepts.numbered.symm)
    · rw [elsewhere same]
      exact sound.issued other earlier member
  · intro other earlier member
    by_cases same : other = side
    · subst same
      rw [put_self, accepts.accepted]
      exact (sound.acks other earlier member).more _
    · rw [elsewhere same]
      exact sound.acks other earlier member
  · intro other
    by_cases same : other = side
    · subst same
      obtain ⟨now, taken, shape⟩ := accepts.window
      rw [put_self, accepts.accepted, shape]
      exact (sound.window other).receive now (issued.small (few other.peer))
        (sound.lastSmall few other) taken
    · rw [elsewhere same]
      exact sound.window other
  · intro other seq member
    by_cases same : other = side
    · subst same
      rw [put_self, accepts.accepted] at member
      rw [elsewhere (Side.peer_ne other)]
      rcases List.mem_append.mp member with earlier | last
      · exact sound.accepted other seq earlier
      · rw [List.mem_singleton.mp last]
        exact issued
    · rw [elsewhere same] at member
      have before := sound.accepted other seq member
      by_cases back : other.peer = side
      · rw [← back] at accepts ⊢
        rw [put_self]
        exact before.grow (Nat.le_of_eq accepts.numbered.symm)
      · rw [elsewhere back]
        exact before
  · intro other recent member late
    by_cases same : other = side
    · subst same
      rw [put_self] at member
      rw [elsewhere (Side.peer_ne other)]
      rcases accepts.recent recent member with earlier | named
      · exact sound.marked other recent earlier late
      · exact named.nextAccepted acks (sound.positive other.peer)
    · rw [elsewhere same] at member
      have next := sound.marked other recent member late
      by_cases back : other.peer = side
      · rw [← back] at accepts ⊢
        rw [put_self, accepts.accepted]
        exact next.more _
      · rw [elsewhere back]
        exact next

/-! ### Runs -/

/-- A step is one controller sending, a packet written and sent, or a packet
delivered. -/
inductive Moved (source : System) : Action → List (Side × Dropped) → System → Prop where
  | sends {action : Action} {side : Side} {controller : Controller} :
      (source.controller side).Sends controller →
      Moved source action [] (source.put side controller)
  | transmitted {side : Side} {pending : PendingOutgoingPacket} :
      pending ∈ (source.controller side).sendQueue →
      Moved source (.transmit side pending) []
        ((source.put side ((source.controller side).writePacket pending).2).send side
          ((source.controller side).writePacket pending).1)
  | delivered {side : Side} {packet : Packet} {now : Instant} :
      packet ∈ source.sent side.peer →
      Moved source (.deliver side packet now)
        (((source.controller side).processIncomingPacket packet.asRead now).1.map
          (fun dropped => (side, dropped)))
        (source.put side ((source.controller side).processIncomingPacket packet.asRead now).2)

theorem step_moved {source target : System} {action : Action} {output : List (Side × Dropped)}
    (fired : source.step action = some (output, target)) : Moved source action output target := by
  cases action with
  | enqueue side type data =>
      cases fired
      exact .sends (enqueue_sends _ type data)
  | sendReliably side type data retryInterval timeout =>
      cases fired
      exact .sends (sendPacketReliably_sends _ type data retryInterval timeout)
  | updateQueued side now =>
      cases fired
      exact .sends (updateQueuedPackets_sends _ now)
  | sendExtra side extra =>
      cases fired
      exact .sends (sendExtra_sends _ extra)
  | transmit side pending =>
      simp only [System.step] at fired
      split at fired
      · rename_i waiting
        cases fired
        exact .transmitted waiting
      · cases fired
  | deliver side packet now =>
      simp only [System.step] at fired
      split at fired
      · rename_i sent
        cases fired
        exact .delivered sent
      · cases fired

theorem Moved.numbered {source target : System} {action : Action}
    {output : List (Side × Dropped)} (moved : Moved source action output target) (side : Side) :
    (source.controller side).numbered ≤ (target.controller side).numbered := by
  have updated : ∀ (moving : Side) (controller : Controller),
      (source.controller moving).numbered ≤ controller.numbered →
      (source.controller side).numbered ≤
        ((source.put moving controller).controller side).numbered := by
    intro moving controller grown
    by_cases same : side = moving
    · subst same
      rw [put_self]
      exact grown
    · exact Nat.le_of_eq (by rw [put_other _ _ same])
  cases moved with
  | sends sends => exact updated _ _ sends.numbered
  | transmitted waiting => exact updated _ _ (writePacket_sends _ _).numbered
  | @delivered receiver packet now sent =>
      apply updated
      rcases processed_accepts (source.controller receiver) packet.asRead now with same | accepts
      · exact Nat.le_of_eq (by rw [same])
      · exact Nat.le_of_eq accepts.numbered.symm

theorem put_same (system : System) (side : Side) :
    system.put side (system.controller side) = system := by
  unfold System.put
  rw [Function.update_eq_self]

theorem Moved.sound {source target : System} {action : Action} {output : List (Side × Dropped)}
    (moved : Moved source action output target) (sound : Sound source)
    (few : ∀ side, (target.controller side).Few) : Sound target := by
  have fewBefore : ∀ side, (source.controller side).Few :=
    fun side => Nat.lt_of_le_of_lt (moved.numbered side) (few side)
  cases moved with
  | @sends action side controller sends =>
      have fewHere := few side
      rw [put_self] at fewHere
      exact sound.sends sends fewHere
  | @transmitted side pending waiting =>
      have sends := writePacket_sends (source.controller side) pending
      apply (sound.sends sends (fewBefore side)).send
      · rw [put_self]
        exact sound.pending side pending waiting
      · rw [put_self]
        exact (sound.window side).acks
  | @delivered side packet now sent =>
      rcases processed_accepts (source.controller side) packet.asRead now with same | accepts
      · rw [same, put_same]
        exact sound
      · exact sound.accepts fewBefore sent accepts.asWritten

/-- The numbers are given out, so a run with few numbers had few of them all along. -/
theorem sound_of_run {taken : List Exchanged} {system : System} (run : SystemRun taken system) :
    (∀ side, (system.controller side).Few) → Sound system := by
  induction run with
  | nil => exact fun _ => initial_sound
  | snoc earlier fired ih =>
      intro few
      have moved := step_moved fired
      have fewBefore := fun side => Nat.lt_of_le_of_lt (moved.numbered side) (few side)
      exact moved.sound (ih fewBefore) few

theorem numbered_of_run {first last : System} {taken : List Exchanged}
    (run : LabelledMachine.Run System.step first taken last) (side : Side) :
    (first.controller side).numbered ≤ (last.controller side).numbered := by
  induction run with
  | nil => exact Nat.le_refl _
  | snoc earlier fired ih => exact Nat.le_trans ih ((step_moved fired).numbered side)

theorem few_at {taken : List Exchanged} {system : System} (run : SystemRun taken system)
    (few : ∀ side, (system.controller side).Few) {exchanged : Exchanged}
    (member : exchanged ∈ taken) : ∀ side, (exchanged.source.controller side).Few := by
  obtain ⟨before, after, rfl⟩ := List.append_of_mem member
  intro side
  have here := (step_moved run.at_split.2).numbered side
  have later := numbered_of_run run.behind side
  exact Nat.lt_of_le_of_lt (Nat.le_trans here later) (few side)

theorem sound_at {taken : List Exchanged} {system : System} (run : SystemRun taken system)
    (few : ∀ side, (system.controller side).Few) {exchanged : Exchanged}
    (member : exchanged ∈ taken) : Sound exchanged.source := by
  obtain ⟨before, after, _, toSource, _⟩ := run.split member
  exact sound_of_run toSource (few_at run few member)

theorem Moved.dropped {source target : System} {action : Action}
    {output : List (Side × Dropped)} (moved : Moved source action output target) {side : Side}
    {dropped : Dropped} (member : (side, dropped) ∈ output) :
    ∃ packet now, packet ∈ source.sent side.peer ∧
      dropped ∈ (source.controller side).drops packet.ackId packet.acks now := by
  cases moved with
  | sends => cases member
  | transmitted => cases member
  | @delivered receiver packet now sent =>
      obtain ⟨inside, gone, same⟩ := List.mem_map.mp member
      cases same
      refine ⟨packet, now, sent, ?_⟩
      unfold Controller.processIncomingPacket at gone
      split at gone
      · split at gone
        · exact gone
        · cases gone
      · cases gone

theorem didAck_marked {packet : QueuedPacket} {lastRemoteAckSeq : SeqNo}
    {recent : List RecentOutgoingPacket} (acked : packet.didAck lastRemoteAckSeq recent = true) :
    ∃ sent ∈ recent, sent.seq ∈ packet.seqs ∧ sent.ackTime ≠ 0 := by
  obtain ⟨seq, inside, covered⟩ := List.any_eq_true.mp acked
  rw [Bool.and_eq_true] at covered
  obtain ⟨sent, member, marked⟩ := List.any_eq_true.mp covered.2
  rw [Bool.and_eq_true, beq_iff_eq, decide_eq_true_eq] at marked
  refine ⟨sent, member, ?_, by omega⟩
  rw [marked.1]
  exact (List.takeWhile_prefix _).subset inside

/-- A packet is only marked as acknowledged when the peer has accepted the one
with the next number. -/
theorem marked_only_before_accepted {taken : List Exchanged} {system : System}
    (run : SystemRun taken system) (few : ∀ side, (system.controller side).Few) (side : Side)
    {packet : RecentOutgoingPacket}
    (member : packet ∈ (system.controller side).recentOutgoingPackets)
    (marked : packet.ackTime ≠ 0) :
    NextAccepted packet.seq (system.controller side.peer).accepted :=
  (sound_of_run run few).marked side packet member marked

/-- A packet that must arrive is only dropped as acknowledged when the peer has
accepted the packet behind one of its transmissions. -/
theorem dropped_packets_precede_accepted {taken : List Exchanged} {system : System}
    (run : SystemRun taken system) (few : ∀ side, (system.controller side).Few)
    {exchanged : Exchanged} (member : exchanged ∈ taken) {side : Side} {packet : QueuedPacket}
    (dropped : (side, Dropped.packet packet) ∈ exchanged.output) :
    ∃ seq ∈ packet.seqs,
      NextAccepted seq (exchanged.source.controller side.peer).accepted := by
  have sound := sound_at run few member
  obtain ⟨before, after, shape, _, fired⟩ := run.split member
  obtain ⟨carrier, now, sent, gone⟩ := (step_moved fired).dropped dropped
  rcases List.mem_append.mp gone with packets | extras
  · obtain ⟨other, inside, same⟩ := List.mem_map.mp packets
    cases same
    obtain ⟨recent, marked, numbered, late⟩ := didAck_marked (List.mem_filter.mp inside).2
    refine ⟨recent.seq, numbered, ?_⟩
    rcases markAcknowledged_cases marked with earlier | named
    · exact sound.marked side recent earlier late
    · exact named.nextAccepted (sound.acks side.peer carrier sent) (sound.positive side.peer)
  · obtain ⟨_, _, different⟩ := List.mem_map.mp extras
    cases different

/-- The caller's first packet is lost, and its second one arrives. -/
def lossy : List Action :=
  [.sendReliably .caller 1 [7] 1 10, .updateQueued .caller ⟨1, by decide⟩,
    .transmit .caller ⟨1, 1, [7]⟩, .enqueue .caller 4 [], .transmit .caller ⟨2, 4, []⟩,
    .deliver .callee ⟨4, 0, 2, 0, [], []⟩ ⟨2, by decide⟩, .enqueue .callee 4 [],
    .transmit .callee ⟨1, 4, []⟩,
    .deliver .caller ⟨4, 2, 1, 0x80000000, [], []⟩ ⟨3, by decide⟩]

/-- The packet that must arrive is dropped, and only the one behind it was
ever accepted. -/
theorem lost_packet_is_dropped :
    ∃ taken system, SystemRun taken system ∧
      (system.controller .callee).accepted = [2] ∧
      ∃ exchanged ∈ taken,
        (Side.caller, Dropped.packet ⟨1, [7], [1], 1, 1, 1, 10⟩) ∈ exchanged.output ∧
        ∃ seq ∈ ([1] : List SeqNo),
          NextAccepted seq (exchanged.source.controller .callee).accepted := by
  have replayed : (LabelledMachine.replay System.step System.initial lossy).map (fun reached =>
      ((reached.2.controller .callee).accepted, (reached.2.controller .caller).numbered,
        (reached.2.controller .callee).numbered, LabelledMachine.history reached.1)) =
    some ([2], 2, 1, [(.caller, .packet ⟨1, [7], [1], 1, 1, 1, 10⟩)]) := rfl
  obtain ⟨taken, system, run, summary⟩ := LabelledMachine.Run.of_replay_map replayed
  simp only [Prod.mk.injEq] at summary
  obtain ⟨accepted, caller, callee, history⟩ := summary
  have few : ∀ side, (system.controller side).Few := by
    intro side
    unfold Controller.Few
    cases side with
    | caller => omega
    | callee => omega
  have output := history.symm ▸ List.mem_singleton_self _
  obtain ⟨exchanged, member, dropped⟩ := List.mem_flatMap.mp output
  exact ⟨taken, system, run, accepted, exchanged, member, dropped,
    dropped_packets_precede_accepted run few member dropped⟩

end Tg2Sip.Voip
