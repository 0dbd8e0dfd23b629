/-
The receive window of `VoIPController`.

`lastRemoteSeq` is the highest sequence number that was received, and
`recvPacketTimes` holds the arrival times of that packet and of the 31 before
it; zero means that the packet has not arrived.  The times are only compared
with zero here.  `WritePacketHeader` turns them into the mask of acknowledged
packets, the latest one in the highest bit.
-/

import Mathlib.Logic.Function.Basic
import Tg2Sip.Lib.RecentNumbers
import Tg2Sip.Lib.SerialNumber

namespace Tg2Sip.Voip

open RecentNumbers (Ledger Verdict acceptances leaps)

/-- A `uint32_t` sequence number. -/
abbrev SeqNo := BitVec 32

def seqMax : Nat := 0xFFFFFFFF

def seqgt (s1 s2 : SeqNo) : Bool :=
  decide (s1 > s2) && decide ((s1 - s2).toNat ≤ seqMax / 2) ||
    decide (s1 < s2) && decide ((s2 - s1).toNat > seqMax / 2)

theorem seqgt_eq (s1 s2 : SeqNo) : seqgt s1 s2 = SerialNumber.follows s1 s2 := rfl

/-- What `GetCurrentTime` returns: the monotonic clock is past its start. -/
structure Instant where
  ticks : Nat
  started : 0 < ticks

/-- `double recvPacketTimes[32]`. -/
abbrev Times := Fin 32 → Nat

structure ReceiveWindow where
  lastRemoteSeq : SeqNo
  recvPacketTimes : Times

def ReceiveWindow.initial : ReceiveWindow := ⟨0, fun _ => 0⟩

/-- `memmove` of the times by `diff`, `memset` of the gap, and the time of the
new packet. -/
def shiftTimes (times : Times) (diff : Nat) (now : Instant) : Times :=
  let moved : Times := fun index =>
    if index.val < diff then times index else times ⟨index.val - diff, by omega⟩
  let cleared : Times := fun index =>
    if diff > 1 ∧ index.val < diff then 0 else moved index
  Function.update cleared 0 now.ticks

/-- The part of `ProcessIncomingPacket` that decides about a sequence number. -/
def ReceiveWindow.receive (window : ReceiveWindow) (pseq : SeqNo) (now : Instant) :
    Verdict × ReceiveWindow :=
  if seqgt pseq window.lastRemoteSeq then
    let diff := (pseq - window.lastRemoteSeq).toNat
    if diff > 31 then (.leapt, ⟨pseq, fun _ => 0⟩)
    else (.advanced, ⟨pseq, shiftTimes window.recvPacketTimes diff now⟩)
  else if inside : (window.lastRemoteSeq - pseq).toNat < 32 then
    let index : Fin 32 := ⟨(window.lastRemoteSeq - pseq).toNat, inside⟩
    if window.recvPacketTimes index ≠ 0 then (.repeated, window)
    else
      (.filled, { window with
        recvPacketTimes := Function.update window.recvPacketTimes index now.ticks })
  else (.late, window)

/-- The five ways in which a sequence number is dealt with. -/
inductive Receipt (window : ReceiveWindow) (pseq : SeqNo) (now : Instant) :
    Verdict → ReceiveWindow → Prop where
  | leapt : seqgt pseq window.lastRemoteSeq = true →
      31 < (pseq - window.lastRemoteSeq).toNat →
      Receipt window pseq now .leapt ⟨pseq, fun _ => 0⟩
  | advanced : seqgt pseq window.lastRemoteSeq = true →
      (pseq - window.lastRemoteSeq).toNat ≤ 31 →
      Receipt window pseq now .advanced
        ⟨pseq, shiftTimes window.recvPacketTimes (pseq - window.lastRemoteSeq).toNat now⟩
  | repeated {index : Fin 32} : seqgt pseq window.lastRemoteSeq = false →
      (window.lastRemoteSeq - pseq).toNat = index.val → window.recvPacketTimes index ≠ 0 →
      Receipt window pseq now .repeated window
  | filled {index : Fin 32} : seqgt pseq window.lastRemoteSeq = false →
      (window.lastRemoteSeq - pseq).toNat = index.val → window.recvPacketTimes index = 0 →
      Receipt window pseq now .filled { window with
        recvPacketTimes := Function.update window.recvPacketTimes index now.ticks }
  | late : seqgt pseq window.lastRemoteSeq = false →
      32 ≤ (window.lastRemoteSeq - pseq).toNat → Receipt window pseq now .late window

theorem receipt (window : ReceiveWindow) (pseq : SeqNo) (now : Instant) :
    Receipt window pseq now (window.receive pseq now).1 (window.receive pseq now).2 := by
  unfold ReceiveWindow.receive
  cases after : seqgt pseq window.lastRemoteSeq with
  | true =>
      rw [if_pos rfl]
      by_cases far : (pseq - window.lastRemoteSeq).toNat > 31
      · rw [if_pos far]
        exact .leapt after far
      · rw [if_neg far]
        exact .advanced after (by omega)
  | false =>
      rw [if_neg Bool.false_ne_true]
      by_cases inside : (window.lastRemoteSeq - pseq).toNat < 32
      · rw [dif_pos inside]
        by_cases seen : window.recvPacketTimes ⟨(window.lastRemoteSeq - pseq).toNat, inside⟩ ≠ 0
        · rw [if_pos seen]
          exact .repeated after rfl seen
        · rw [if_neg seen]
          exact .filled after rfl (Decidable.not_not.mp seen)
      · rw [dif_neg inside]
        exact .late after (by omega)

structure Arrival where
  pseq : SeqNo
  now : Instant

def ReceiveWindow.step : LabelledMachine.Step ReceiveWindow Arrival Verdict :=
  fun window arrival =>
    some ([(window.receive arrival.pseq arrival.now).1],
      (window.receive arrival.pseq arrival.now).2)

abbrev WindowRun (taken : List (LabelledMachine.Transition ReceiveWindow Arrival Verdict))
    (window : ReceiveWindow) : Prop :=
  LabelledMachine.Run ReceiveWindow.step ReceiveWindow.initial taken window

/-- The ledger counts without a wrap, and knows what has a time. -/
structure Follows (window : ReceiveWindow) (ledger : Ledger) : Prop where
  highest : BitVec.ofInt 32 ledger.highest = window.lastRemoteSeq
  recorded : ∀ index : Fin 32,
    window.recvPacketTimes index ≠ 0 ↔ ledger.known (ledger.highest - index.val) = true
  above : ∀ number, ledger.highest < number → ledger.known number = false

theorem shiftTimes_zero (times : Times) (diff : Nat) (now : Instant) :
    shiftTimes times diff now 0 = now.ticks := by
  unfold shiftTimes
  rw [Function.update_self]

theorem shiftTimes_gap (times : Times) {diff : Nat} (now : Instant) {index : Fin 32}
    (later : index ≠ 0) (gap : index.val < diff) : shiftTimes times diff now index = 0 := by
  have positive : 0 < index.val := by
    have nonzero : index.val ≠ 0 := fun zero => later (Fin.ext zero)
    omega
  unfold shiftTimes
  rw [Function.update_of_ne later, if_pos ⟨by omega, gap⟩]

theorem shiftTimes_moved (times : Times) {diff : Nat} (now : Instant) {index : Fin 32}
    (later : index ≠ 0) (behind : diff ≤ index.val) :
    shiftTimes times diff now index = times ⟨index.val - diff, by omega⟩ := by
  unfold shiftTimes
  rw [Function.update_of_ne later, if_neg (by omega)]
  exact if_neg (by omega)

/-- The number that a sequence number stands for: the nearest one. -/
def numberOf (ledger : Ledger) (window : ReceiveWindow) (pseq : SeqNo) : Int :=
  ledger.highest + SerialNumber.distance pseq window.lastRemoteSeq

theorem ofInt_numberOf {window : ReceiveWindow} {ledger : Ledger}
    (follows : Follows window ledger) (pseq : SeqNo) :
    BitVec.ofInt 32 (numberOf ledger window pseq) = pseq := by
  rw [numberOf, BitVec.ofInt_add, follows.highest]
  exact SerialNumber.add_distance pseq window.lastRemoteSeq

theorem Follows.leap {pseq : SeqNo} {number : Int} (named : BitVec.ofInt 32 number = pseq) :
    Follows ⟨pseq, fun _ => 0⟩ ⟨number, fun other => false && decide (other = number)⟩ where
  highest := named
  recorded index := by simp
  above other _ := rfl

theorem Follows.advance {window : ReceiveWindow} {ledger : Ledger}
    (follows : Follows window ledger) {pseq : SeqNo} {diff : Nat} (positive : 0 < diff)
    (named : BitVec.ofInt 32 (ledger.highest + diff) = pseq) (now : Instant) :
    Follows ⟨pseq, shiftTimes window.recvPacketTimes diff now⟩
      ⟨ledger.highest + diff, ledger.add (ledger.highest + diff)⟩ := by
  refine ⟨named, ?_, ?_⟩
  · intro index
    dsimp only [Ledger.add]
    rw [Bool.or_eq_true, decide_eq_true_eq]
    by_cases first : index = 0
    · subst first
      rw [shiftTimes_zero]
      have started := now.started
      constructor
      · intro _
        left
        simp
      · intro _
        omega
    · have later : index.val ≠ 0 := fun zero => first (Fin.ext zero)
      by_cases gap : index.val < diff
      · rw [shiftTimes_gap _ _ first gap,
          follows.above (ledger.highest + diff - index.val) (by omega)]
        constructor
        · intro impossible
          exact absurd rfl impossible
        · intro seen
          rcases seen with same | known
          · omega
          · cases known
      · rw [shiftTimes_moved _ _ first (by omega), follows.recorded]
        have same : ledger.highest - ((index.val - diff : Nat) : Int) =
            ledger.highest + diff - index.val := by omega
        rw [same]
        constructor
        · intro known
          exact .inr known
        · intro seen
          rcases seen with impossible | known
          · omega
          · exact known
  · intro number beyond
    dsimp only [Ledger.add] at beyond ⊢
    rw [follows.above number (by omega), decide_eq_false (by omega), Bool.or_false]

theorem Follows.fill {window : ReceiveWindow} {ledger : Ledger}
    (follows : Follows window ledger) (index : Fin 32) (now : Instant) :
    Follows
      { window with recvPacketTimes := Function.update window.recvPacketTimes index now.ticks }
      { ledger with known := ledger.add (ledger.highest - index.val) } := by
  refine ⟨follows.highest, ?_, ?_⟩
  · intro other
    dsimp only [Ledger.add]
    rw [Bool.or_eq_true, decide_eq_true_eq]
    by_cases same : other = index
    · subst same
      have started := now.started
      rw [Function.update_self]
      constructor
      · intro _
        exact .inl rfl
      · intro _
        omega
    · have different : other.val ≠ index.val := fun equal => same (Fin.ext equal)
      rw [Function.update_of_ne same, follows.recorded]
      constructor
      · intro known
        exact .inr known
      · intro seen
        rcases seen with impossible | known
        · omega
        · exact known
  · intro number beyond
    dsimp only [Ledger.add] at beyond ⊢
    rw [follows.above number beyond, decide_eq_false (by omega), Bool.or_false]

/-- A sequence number is dealt with as the nearest number would be. -/
theorem receive_follows {window : ReceiveWindow} {ledger : Ledger}
    (follows : Follows window ledger) (pseq : SeqNo) (now : Instant) :
    (ledger.offer 32 false (numberOf ledger window pseq)).1 = (window.receive pseq now).1 ∧
      Follows (window.receive pseq now).2
        (ledger.offer 32 false (numberOf ledger window pseq)).2 := by
  have named := ofInt_numberOf follows pseq
  have dealt := receipt window pseq now
  generalize (window.receive pseq now).1 = verdict at dealt ⊢
  generalize (window.receive pseq now).2 = target at dealt ⊢
  unfold Ledger.offer
  cases after : seqgt pseq window.lastRemoteSeq with
  | true =>
      have positive := SerialNumber.distance_pos_iff.mpr after
      rw [SerialNumber.distance_of_follows after] at positive
      rw [numberOf, SerialNumber.distance_of_follows after] at named ⊢
      rw [if_pos (by omega)]
      cases dealt with
      | leapt _ far =>
          rw [if_pos (by omega)]
          exact ⟨rfl, Follows.leap named⟩
      | advanced _ near =>
          rw [if_neg (by omega)]
          exact ⟨rfl, follows.advance (by omega) named now⟩
      | repeated other => cases after.symm.trans other
      | filled other => cases after.symm.trans other
      | late other => cases after.symm.trans other
  | false =>
      rw [numberOf, SerialNumber.distance_of_not_follows after, ← Int.sub_eq_add_neg]
      rw [if_neg (by omega)]
      cases dealt with
      | leapt other => cases after.symm.trans other
      | advanced other => cases after.symm.trans other
      | @repeated index _ behind seen =>
          rw [behind, if_pos (by omega), if_pos ((follows.recorded index).mp seen)]
          exact ⟨rfl, follows⟩
      | @filled index _ behind missing =>
          have unknown : ¬ledger.known (ledger.highest - index.val) = true :=
            fun known => (follows.recorded index).mpr known missing
          rw [behind, if_pos (by omega), if_neg unknown]
          exact ⟨rfl, follows.fill index now⟩
      | late _ old =>
          rw [if_neg (by omega)]
          exact ⟨rfl, follows⟩

/-! ### The mask of acknowledgements -/

/-- `acks` behind the first rounds of the loop in `WritePacketHeader`. -/
def ackLoop (times : Times) : Nat → BitVec 32
  | 0 => 0
  | i + 1 =>
      let acks := ackLoop times i
      let marked := if times (Fin.ofNat 32 i) > 0 then acks ||| 1 else acks
      if i < 31 then marked <<< 1 else marked

def ackMask (times : Times) : BitVec 32 := ackLoop times 32

def arrivedBits (times : Times) : Nat → BitVec 32
  | 0 => 0
  | i + 1 =>
      let shifted := arrivedBits times i <<< 1
      if times (Fin.ofNat 32 i) > 0 then shifted ||| 1 else shifted

theorem ackLoop_eq (times : Times) {count : Nat} (within : count ≤ 31) :
    ackLoop times count = arrivedBits times count <<< 1 := by
  induction count with
  | zero => rfl
  | succ count ih =>
      rw [ackLoop, arrivedBits, ih (by omega), if_pos (by omega)]

theorem ackMask_eq (times : Times) : ackMask times = arrivedBits times 32 := by
  rw [ackMask, ackLoop, arrivedBits, ackLoop_eq times (Nat.le_refl 31), if_neg (by omega)]

theorem arrivedBits_bit (times : Times) {count : Nat} (within : count ≤ 32) (bit : Nat) :
    (arrivedBits times count).getLsbD bit =
      (decide (bit < count) && decide (0 < times (Fin.ofNat 32 (count - (bit + 1))))) := by
  induction count generalizing bit with
  | zero =>
      rw [decide_eq_false (Nat.not_lt_zero bit), Bool.false_and]
      exact BitVec.getLsbD_zero
  | succ count ih =>
      have earlier := fun lower => ih (by omega) lower
      rw [arrivedBits]
      cases bit with
      | zero =>
          have last : count + 1 - (0 + 1) = count := rfl
          rw [last, decide_eq_true (Nat.succ_pos count), Bool.true_and]
          split <;> rename_i arrived
          · rw [decide_eq_true arrived]
            simp
          · rw [decide_eq_false arrived]
            simp
      | succ bit =>
          have inside : decide (bit + 1 < 32) = true ∨ decide (bit < count) = false := by
            rw [decide_eq_true_eq, decide_eq_false_iff_not]
            omega
          have moved : count + 1 - (bit + 1 + 1) = count - (bit + 1) := by omega
          split <;> rcases inside with small | large <;>
            simp [*]

/-- Bit `31 - index` says whether the packet `index` before the latest arrived. -/
theorem ackMask_bit (times : Times) (index : Fin 32) :
    (ackMask times).getLsbD (31 - index.val) = decide (0 < times index) := by
  have inside := index.isLt
  have same : Fin.ofNat 32 (32 - (31 - index.val + 1)) = index := by
    apply Fin.ext
    rw [Fin.val_ofNat]
    omega
  rw [ackMask_eq, arrivedBits_bit times (Nat.le_refl 32), same, decide_eq_true (by omega),
    Bool.true_and]

abbrev Received := LabelledMachine.Transition ReceiveWindow Arrival Verdict

structure Numbered (taken : List Received) (window : ReceiveWindow)
    (offers : List RecentNumbers.Offer) (ledger : Ledger) : Prop where
  run : LabelledMachine.Run (Ledger.step 32 false) (Ledger.start 0) offers ledger
  follows : Follows window ledger
  labels : offers.map (fun offer => BitVec.ofInt 32 offer.label) =
    taken.map (fun received => received.label.pseq)
  verdicts : offers.map (fun offer => offer.output) = taken.map (fun received => received.output)
  nearest : ∀ offer ∈ offers, 2 * (offer.label - offer.source.highest).natAbs ≤ 2 ^ 32

theorem run_numbered {taken : List Received} {window : ReceiveWindow}
    (run : WindowRun taken window) : ∃ offers ledger, Numbered taken window offers ledger := by
  induction run with
  | nil =>
      refine ⟨[], Ledger.start 0, .nil, ⟨rfl, ?_, fun _ _ => rfl⟩, rfl, rfl,
        List.forall_mem_nil _⟩
      intro index
      simp [ReceiveWindow.initial, Ledger.start]
  | @snoc taken source target arrival output earlier fired ih =>
      obtain ⟨offers, ledger, numbered⟩ := ih
      cases fired
      obtain ⟨sameVerdict, follows⟩ := receive_follows numbered.follows arrival.pseq arrival.now
      have named := ofInt_numberOf numbered.follows arrival.pseq
      generalize shape : numberOf ledger source arrival.pseq = number at sameVerdict follows named
      have offered : ledger.step 32 false number = some (_, _) := rfl
      refine ⟨_, _, numbered.run.snoc offered, follows, ?_, ?_, ?_⟩
      · rw [List.map_append, List.map_append, numbered.labels, List.map_singleton,
          List.map_singleton, named]
      · rw [List.map_append, List.map_append, numbered.verdicts, List.map_singleton,
          List.map_singleton, sameVerdict]
      · intro offer member
        rcases List.mem_append.mp member with inEarlier | last
        · exact numbered.nearest offer inEarlier
        · rw [List.mem_singleton.mp last, ← shape, numberOf]
          have bound := SerialNumber.distance_bound arrival.pseq source.lastRemoteSeq
          dsimp only
          omega

/-- Every packet that arrives is taken for the number nearest to the highest
one.  A number is accepted once, or twice when the window leapt to it; it is
refused only when it was accepted before or is 32 behind.  The mask names
accepted packets only, and all of the last 32 but one that was leapt to. -/
theorem packets_are_accepted_once {taken : List Received} {window : ReceiveWindow}
    (run : WindowRun taken window) :
    ∃ offers ledger, Numbered taken window offers ledger ∧
      (∀ number, leaps number offers ≤ 1 ∧
        acceptances number offers ≤ 1 + leaps number offers) ∧
      (∀ before offer after, offers = before ++ offer :: after →
        (offer.output = [.repeated] → 0 < acceptances offer.label before) ∧
          (offer.output = [.late] → offer.label + 32 ≤ offer.source.highest)) ∧
      ∀ index : Fin 32,
        if (ackMask window.recvPacketTimes).getLsbD (31 - index.val) then
          0 < acceptances (ledger.highest - index.val) offers
        else acceptances (ledger.highest - index.val) offers ≤
          leaps (ledger.highest - index.val) offers := by
  obtain ⟨offers, ledger, numbered⟩ := run_numbered run
  have records := RecentNumbers.records_of_run numbered.run
  refine ⟨offers, ledger, numbered, ?_, ?_, ?_⟩
  · intro number
    exact ⟨records.leapOnce number, records.once number⟩
  · intro before offer after shape
    have numberedRun := numbered.run
    rw [shape] at numberedRun
    exact RecentNumbers.refused_of_run numberedRun
  · intro index
    have recorded := numbered.follows.recorded index
    have inside := index.isLt
    rw [ackMask_bit]
    split
    · rename_i arrived
      rw [decide_eq_true_eq] at arrived
      exact records.sound _ (recorded.mp (by omega))
    · rename_i missing
      rw [decide_eq_true_eq] at missing
      have unknown : ledger.known (ledger.highest - index.val) = false := by
        cases known : ledger.known (ledger.highest - index.val) with
        | false => rfl
        | true =>
            have arrived := recorded.mpr known
            omega
      exact records.loose _ (by omega) unknown

/-- The packet that the window leaps to is accepted again. -/
theorem leapt_packet_is_accepted_twice :
    ∃ taken window, WindowRun taken window ∧
      taken.map (fun received => received.output) =
        [[.advanced], [.advanced], [.repeated], [.filled], [.leapt], [.filled], [.late]] ∧
      ∃ offers ledger, Numbered taken window offers ledger ∧
        ∀ number, leaps number offers ≤ 1 ∧
          acceptances number offers ≤ 1 + leaps number offers := by
  have replayed : LabelledMachine.replay ReceiveWindow.step ReceiveWindow.initial
    ([1, 3, 3, 2, 100, 100, 7].map (fun pseq => ⟨pseq, 1, Nat.one_pos⟩)) = some (_, _) := rfl
  have run := LabelledMachine.Run.of_replay replayed
  obtain ⟨offers, ledger, numbered, once, _⟩ := packets_are_accepted_once run
  exact ⟨_, _, run, by decide, offers, ledger, numbered, once⟩

end Tg2Sip.Voip
