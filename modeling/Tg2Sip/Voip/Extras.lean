/-
Extras arrive before they are forgotten.

An extra stands in every header from the first one that contains it, and it is
dropped when the peer reports a number at or behind that one.  This is sound as
long as the headers are written in the order of their numbers and the length of
every extra fits into its byte: the packet with the reported number contains
the extra, and the peer has processed it.
-/

import Mathlib.Data.List.Nodup
import Mathlib.Data.List.Perm.Subperm
import Tg2Sip.Voip.Acknowledgement

namespace Tg2Sip.Voip

def extraTypes : List UInt8 := [1, 2, 3, 4, 5, 6, 7]

/-- An extra of a known type that passes the assertion.  That of `SendGroupCallKey`
does not: it has 256 bytes. -/
structure Extra.Allowed (extra : Extra) : Prop where
  type : extra.type ∈ extraTypes
  small : extra.data.length ≤ 254

/-- An extra of a type stands where the one before it stood. -/
structure Controller.ExtrasAllowed (controller : Controller) : Prop where
  allowed : ∀ held ∈ controller.currentExtras, held.extra.Allowed
  distinct : (controller.currentExtras.map (fun held => held.extra.type)).Nodup

theorem Controller.ExtrasAllowed.of_same {self other : Controller} (fit : self.ExtrasAllowed)
    (same : other.currentExtras = self.currentExtras) : other.ExtrasAllowed where
  allowed := same ▸ fit.allowed
  distinct := same ▸ fit.distinct

theorem initial_extrasAllowed : Controller.initial.ExtrasAllowed where
  allowed := List.forall_mem_nil _
  distinct := List.nodup_nil

theorem replaceExtra_allowed {extra : Extra} (allowed : extra.Allowed)
    {held replaced : List UnacknowledgedExtraData}
    (found : replaceExtra extra held = some replaced)
    (before : ∀ one ∈ held, one.extra.Allowed) : ∀ one ∈ replaced, one.extra.Allowed := by
  induction held generalizing replaced with
  | nil => cases found
  | cons first rest ih =>
      obtain ⟨firstAllowed, restAllowed⟩ := List.forall_mem_cons.mp before
      unfold replaceExtra at found
      by_cases same : first.extra.type = extra.type
      · rw [if_pos same] at found
        cases found
        exact List.forall_mem_cons.mpr ⟨allowed, restAllowed⟩
      · rw [if_neg same] at found
        obtain ⟨later, inside, rfl⟩ := Option.map_eq_some_iff.mp found
        exact List.forall_mem_cons.mpr ⟨firstAllowed, ih inside restAllowed⟩

theorem replaceExtra_types {extra : Extra} {held replaced : List UnacknowledgedExtraData}
    (found : replaceExtra extra held = some replaced) :
    replaced.map (fun one => one.extra.type) = held.map (fun one => one.extra.type) := by
  induction held generalizing replaced with
  | nil => cases found
  | cons first rest ih =>
      unfold replaceExtra at found
      by_cases same : first.extra.type = extra.type
      · rw [if_pos same] at found
        cases found
        rw [List.map_cons, List.map_cons, same]
      · rw [if_neg same] at found
        obtain ⟨later, inside, rfl⟩ := Option.map_eq_some_iff.mp found
        rw [List.map_cons, List.map_cons, ih inside]

theorem replaceExtra_none {extra : Extra} {held : List UnacknowledgedExtraData}
    (missing : replaceExtra extra held = none) :
    extra.type ∉ held.map (fun one => one.extra.type) := by
  induction held with
  | nil => exact List.not_mem_nil
  | cons first rest ih =>
      unfold replaceExtra at missing
      by_cases same : first.extra.type = extra.type
      · rw [if_pos same] at missing
        cases missing
      · rw [if_neg same] at missing
        rw [List.map_cons, List.mem_cons, not_or]
        exact ⟨fun equal => same equal.symm, ih (Option.map_eq_none_iff.mp missing)⟩

theorem note_extra (pseq : SeqNo) (held : UnacknowledgedExtraData) :
    (held.note pseq).extra = held.extra := by
  unfold UnacknowledgedExtraData.note
  split
  · rfl
  · rfl

theorem Controller.ExtrasAllowed.sendExtra {self : Controller} (fit : self.ExtrasAllowed)
    {extra : Extra} (allowed : extra.Allowed) : (self.sendExtra extra).ExtrasAllowed := by
  cases found : replaceExtra extra self.currentExtras with
  | some replaced =>
      have same : (self.sendExtra extra).currentExtras = replaced := by
        unfold Controller.sendExtra
        rw [found]
        rfl
      constructor
      · exact same ▸ replaceExtra_allowed allowed found fit.allowed
      · rw [same, replaceExtra_types found]
        exact fit.distinct
  | none =>
      have same : (self.sendExtra extra).currentExtras = self.currentExtras ++ [⟨extra, 0⟩] := by
        unfold Controller.sendExtra
        rw [found]
        rfl
      constructor
      · rw [same]
        exact List.forall_mem_append.mpr ⟨fit.allowed, List.forall_mem_singleton.mpr allowed⟩
      · rw [same, List.map_append, List.map_singleton]
        apply List.nodup_append.mpr
        refine ⟨fit.distinct, List.nodup_singleton _, ?_⟩
        intro type before last inside equal
        rw [List.mem_singleton.mp inside] at equal
        exact replaceExtra_none found (equal ▸ before)

theorem Controller.ExtrasAllowed.writePacket {self : Controller} (fit : self.ExtrasAllowed)
    (pending : PendingOutgoingPacket) : (self.writePacket pending).2.ExtrasAllowed where
  allowed := by
    intro noted inside
    obtain ⟨held, member, rfl⟩ := List.mem_map.mp inside
    rw [note_extra]
    exact fit.allowed held member
  distinct := by
    have same : (fun held : UnacknowledgedExtraData => held.extra.type) ∘
        (fun held : UnacknowledgedExtraData => held.note pending.seq) =
          fun held => held.extra.type :=
      funext (fun held => congrArg Extra.type (note_extra pending.seq held))
    dsimp only [Controller.writePacket]
    rw [List.map_map]
    rw [same]
    exact fit.distinct

theorem Controller.ExtrasAllowed.processIncomingPacket {self : Controller}
    (fit : self.ExtrasAllowed) (packet : Packet) (now : Instant) :
    (self.processIncomingPacket packet now).2.ExtrasAllowed := by
  unfold Controller.processIncomingPacket
  split
  · split
    · exact
        { allowed := fun held inside => fit.allowed held (List.mem_filter.mp inside).1
          distinct := fit.distinct.sublist (List.filter_sublist.map _) }
    · exact fit.of_same rfl
  · exact fit

theorem Controller.ExtrasAllowed.written_few {self : Controller} (fit : self.ExtrasAllowed)
    (pending : PendingOutgoingPacket) : (self.writePacket pending).1.extras.length < 256 := by
  have known : self.currentExtras.map (fun held => held.extra.type) ⊆ extraTypes := by
    intro type inside
    obtain ⟨held, member, rfl⟩ := List.mem_map.mp inside
    exact (fit.allowed held member).type
  have few := (fit.distinct.subperm known).length_le
  rw [List.length_map] at few
  dsimp only [Controller.writePacket]
  rw [List.length_map]
  exact Nat.lt_of_le_of_lt few (by decide)

theorem Controller.ExtrasAllowed.written_small {self : Controller} (fit : self.ExtrasAllowed)
    (pending : PendingOutgoingPacket) :
    ∀ extra ∈ (self.writePacket pending).1.extras, extra.data.length ≤ 254 := by
  intro extra inside
  obtain ⟨held, member, rfl⟩ := List.mem_map.mp inside
  exact (fit.allowed held member).small

/-- The extras that the callers of `SendExtra` hand over are allowed. -/
def Action.Allowed : Action → Prop
  | .sendExtra _ extra => extra.Allowed
  | _ => True

/-- Every packet of the network is read as it was written. -/
structure Legible (system : System) : Prop where
  allowed : ∀ side, (system.controller side).ExtrasAllowed
  read : ∀ side, ∀ packet ∈ system.sent side, packet.asRead = packet

theorem Legible.put {system : System} (legible : Legible system) (side : Side)
    {controller : Controller} (fit : controller.ExtrasAllowed) :
    Legible (system.put side controller) where
  allowed := by
    intro other
    by_cases same : other = side
    · subst same
      rw [put_self]
      exact fit
    · rw [put_other _ _ same]
      exact legible.allowed other
  read := legible.read

def InOrder (exchanged : Exchanged) : Prop :=
  ∀ side pending, exchanged.label = .transmit side pending →
    (exchanged.source.controller side).lastSentSeq.toNat < pending.seq.toNat

/-- An extra that is waiting is in every packet from its first one on. -/
def ContainedIn (held : UnacknowledgedExtraData) (sent : List Packet) : Prop :=
  held.firstContainingSeq ≠ 0 →
    ∀ packet ∈ sent, held.firstContainingSeq.toNat ≤ packet.pseq.toNat →
      held.extra ∈ packet.extras

structure Carried (system : System) : Prop where
  written : ∀ side, ∀ packet ∈ system.sent side,
    packet.pseq.toNat ≤ (system.controller side).lastSentSeq.toNat
  noted : ∀ side, ∀ held ∈ (system.controller side).currentExtras,
    held.firstContainingSeq ≠ 0 →
    ∃ packet ∈ system.sent side, packet.pseq = held.firstContainingSeq
  contained : ∀ side, ∀ held ∈ (system.controller side).currentExtras,
    ContainedIn held (system.sent side)
  processed : ∀ side, ∀ seq ∈ (system.controller side).accepted,
    ∃ packet ∈ system.sent side.peer, packet.pseq = seq ∧
      packet.extras ⊆ (system.controller side).processed

structure Controller.Keeps (source target : Controller) (sent : List Packet) : Prop where
  lastSentSeq : target.lastSentSeq = source.lastSentSeq
  currentExtras : ∀ held ∈ target.currentExtras,
    held ∈ source.currentExtras ∨ held.firstContainingSeq = 0
  accepted : ∀ seq ∈ target.accepted, seq ∈ source.accepted ∨
    ∃ packet ∈ sent, packet.pseq = seq ∧ packet.extras ⊆ target.processed
  processed : source.processed ⊆ target.processed

theorem Controller.Keeps.acknowledge {self taken : Controller} {sent : List Packet}
    (keeps : self.Keeps taken sent) (ackId : SeqNo) (acks : BitVec 32) (now : Instant) :
    self.Keeps (taken.acknowledge ackId acks now) sent where
  lastSentSeq := keeps.lastSentSeq
  currentExtras held member := keeps.currentExtras held (List.mem_filter.mp member).1
  accepted := keeps.accepted
  processed := keeps.processed

theorem Controller.Keeps.refl (self : Controller) (sent : List Packet) : self.Keeps self sent where
  lastSentSeq := rfl
  currentExtras _ member := .inl member
  accepted _ member := .inl member
  processed := List.Subset.refl _

theorem Carried.keeps {system : System} {side : Side} {target : Controller}
    (carried : Carried system)
    (keeps : (system.controller side).Keeps target (system.sent side.peer)) :
    Carried (system.put side target) := by
  constructor
  · intro other packet member
    by_cases same : other = side
    · subst same
      rw [put_self, keeps.lastSentSeq]
      exact carried.written other packet member
    · rw [put_other _ _ same]
      exact carried.written other packet member
  · intro other held member noted
    by_cases same : other = side
    · subst same
      rw [put_self] at member
      rcases keeps.currentExtras held member with earlier | fresh
      · exact carried.noted other held earlier noted
      · exact absurd fresh noted
    · rw [put_other _ _ same] at member
      exact carried.noted other held member noted
  · intro other held member
    by_cases same : other = side
    · subst same
      rw [put_self] at member
      rcases keeps.currentExtras held member with earlier | fresh
      · exact carried.contained other held earlier
      · intro noted
        exact absurd fresh noted
    · rw [put_other _ _ same] at member
      exact carried.contained other held member
  · intro other seq member
    by_cases same : other = side
    · subst same
      rw [put_self] at member ⊢
      rcases keeps.accepted seq member with earlier | fresh
      · obtain ⟨packet, sent, number, extras⟩ := carried.processed other seq earlier
        exact ⟨packet, sent, number, List.Subset.trans extras keeps.processed⟩
      · exact fresh
    · rw [put_other _ _ same] at member ⊢
      exact carried.processed other seq member

theorem Carried.transmitted {system : System} {side : Side} (carried : Carried system)
    {pending : PendingOutgoingPacket}
    (higher : (system.controller side).lastSentSeq.toNat < pending.seq.toNat) :
    Carried ((system.put side ((system.controller side).writePacket pending).2).send side
      ((system.controller side).writePacket pending).1) := by
  constructor
  · intro other packet member
    rw [send_controller]
    rcases send_mem member with earlier | ⟨rfl, rfl⟩
    · have before := carried.written other packet earlier
      by_cases same : other = side
      · subst same
        rw [put_self]
        exact Nat.le_of_lt (Nat.lt_of_le_of_lt before higher)
      · rw [put_other _ _ same]
        exact before
    · rw [put_self]
      exact Nat.le_refl _
  · intro other held member noted
    rw [send_controller] at member
    by_cases same : other = side
    · subst same
      rw [put_self] at member
      obtain ⟨waiting, inside, rfl⟩ := List.mem_map.mp member
      unfold UnacknowledgedExtraData.note at noted ⊢
      split
      · exact ⟨_, send_last _ _ _, rfl⟩
      · rename_i before
        obtain ⟨packet, sent, number⟩ := carried.noted other waiting inside before
        exact ⟨packet, sent_mem _ _ _ sent, number⟩
    · rw [put_other _ _ same] at member
      obtain ⟨packet, sent, number⟩ := carried.noted other held member noted
      exact ⟨packet, sent_mem _ _ _ sent, number⟩
  · intro other held member noted packet sent first
    rw [send_controller] at member
    by_cases same : other = side
    · subst same
      rw [put_self] at member
      obtain ⟨waiting, inside, rfl⟩ := List.mem_map.mp member
      have contained : (waiting.note pending.seq).extra = waiting.extra := by
        unfold UnacknowledgedExtraData.note
        split <;> rfl
      rw [contained]
      rcases send_mem sent with earlier | ⟨_, rfl⟩
      · by_cases fresh : waiting.firstContainingSeq = 0
        · -- the first header with this extra is the one that is written now
          have before := carried.written other packet earlier
          rw [UnacknowledgedExtraData.note, if_pos fresh] at first
          dsimp only at first
          omega
        · rw [UnacknowledgedExtraData.note, if_neg fresh] at first
          exact carried.contained other waiting inside fresh packet earlier first
      · exact List.mem_map_of_mem inside
    · rw [put_other _ _ same] at member
      rcases send_mem sent with earlier | ⟨here, _⟩
      · exact carried.contained other held member noted packet earlier first
      · exact absurd here same
  · intro other seq member
    rw [send_controller] at member ⊢
    have more : ∀ packet, packet ∈ system.sent other.peer → packet ∈
        ((system.put side ((system.controller side).writePacket pending).2).send side
          ((system.controller side).writePacket pending).1).sent other.peer :=
      fun packet sent => sent_mem _ _ _ sent
    by_cases same : other = side
    · subst same
      rw [put_self] at member ⊢
      obtain ⟨packet, sent, number, extras⟩ := carried.processed other seq member
      exact ⟨packet, more packet sent, number, extras⟩
    · rw [put_other _ _ same] at member ⊢
      obtain ⟨packet, sent, number, extras⟩ := carried.processed other seq member
      exact ⟨packet, more packet sent, number, extras⟩

theorem Carried.acknowledged {system : System} {side : Side} (carried : Carried system)
    {held : UnacknowledgedExtraData}
    (waiting : held ∈ (system.controller side).currentExtras)
    (noted : held.firstContainingSeq ≠ 0) {ackId : SeqNo}
    (reached : held.firstContainingSeq.toNat ≤ ackId.toNat)
    (accepted : ackId ∈ (system.controller side.peer).accepted) :
    held.extra ∈ (system.controller side.peer).processed := by
  obtain ⟨packet, sent, number, extras⟩ := carried.processed side.peer ackId accepted
  rw [Side.peer_peer] at sent
  apply extras
  apply carried.contained side held waiting noted packet sent
  rw [number]
  exact reached

def answered : List Action :=
  [.sendExtra .caller ⟨1, [9]⟩, .enqueue .caller 4 [], .transmit .caller ⟨1, 4, []⟩,
    .deliver .callee ⟨4, 0, 1, 0, [⟨1, [9]⟩], []⟩ ⟨1, Nat.succ_pos 0⟩, .enqueue .callee 4 [],
    .transmit .callee ⟨1, 4, []⟩,
    .deliver .caller ⟨4, 1, 1, 0x80000000, [], []⟩ ⟨2, Nat.succ_pos 1⟩]

end Tg2Sip.Voip
