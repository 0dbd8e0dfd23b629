/-
`PacketReassembler`.

A fragment of another frame than the last one begins a new count; a frame is
handed on when as many fragments have been counted as it has parts and no part
is empty.  The parts of an earlier frame stay where they are, and a fragment
that comes twice is counted twice, so what is handed on is a frame only as
long as no fragment is repeated.
-/

import Mathlib.Data.List.Nodup
import Mathlib.Data.List.Perm.Subperm
import Tg2Sip.Voip.StreamData

namespace Tg2Sip.Voip

/-- The arguments of `AddFragment`. -/
structure Fragment where
  data : Bytes
  fragmentIndex : UInt8
  fragmentCount : UInt8
  pts : BitVec 32
  keyframe : Bool
  deriving DecidableEq, Repr

/-- The arguments of the callback. -/
structure Assembled where
  packet : Bytes
  pts : BitVec 32
  keyframe : Bool
  deriving DecidableEq, Repr

structure PacketReassembler where
  currentTimestamp : BitVec 32
  currentPacketPartCount : Nat
  few : currentPacketPartCount ≤ 255
  parts : Vector Bytes 255
  currentIsKeyframe : Bool
  receivedPartCount : BitVec 32

namespace PacketReassembler

/-- The time and the key frame flag are left as they are found. -/
def create (currentTimestamp : BitVec 32) (currentIsKeyframe : Bool) : PacketReassembler :=
  { currentTimestamp := currentTimestamp
    currentPacketPartCount := 0
    few := Nat.zero_le _
    parts := Vector.replicate 255 []
    currentIsKeyframe := currentIsKeyframe
    receivedPartCount := 0 }

def part (self : PacketReassembler) (index : Nat) : Bytes := self.parts[index]?.getD []

/-- A fragment of another frame begins a new count. -/
def restart (self : PacketReassembler) (fragment : Fragment) : PacketReassembler :=
  if fragment.pts ≠ self.currentTimestamp then
    { self with
      currentTimestamp := fragment.pts
      currentPacketPartCount := fragment.fragmentCount.toNat
      few := Nat.le_of_lt_succ fragment.fragmentCount.toNat_lt
      currentIsKeyframe := fragment.keyframe
      receivedPartCount := 0 }
  else self

/-- There are never fewer `parts` than `currentPacketPartCount`. -/
def store (self : PacketReassembler) (fragment : Fragment) : PacketReassembler :=
  { self with
    parts :=
      if fragment.fragmentIndex.toNat < self.currentPacketPartCount then
        self.parts.setIfInBounds fragment.fragmentIndex.toNat fragment.data
      else self.parts
    receivedPartCount := self.receivedPartCount + 1 }

def anyAreEmpty (self : PacketReassembler) : Bool :=
  (List.range self.currentPacketPartCount).any (fun index => (self.part index).isEmpty)

def complete (self : PacketReassembler) : Bool :=
  !self.anyAreEmpty && self.receivedPartCount == BitVec.ofNat 32 self.currentPacketPartCount

def packet (self : PacketReassembler) : Bytes :=
  (List.range self.currentPacketPartCount).flatMap self.part

def clear (self : PacketReassembler) : PacketReassembler :=
  { self with
    parts := Vector.ofFn (fun index =>
      if index.val < self.currentPacketPartCount then [] else self.part index.val)
    currentPacketPartCount := 0
    few := Nat.zero_le _
    currentTimestamp := 0 }

/-- The end of `AddFragment`, behind a stored fragment. -/
def finish (self : PacketReassembler) : List Assembled × PacketReassembler :=
  if self.complete then ([⟨self.packet, self.currentTimestamp, self.currentIsKeyframe⟩], self.clear)
  else ([], self)

/-- `AddFragment`, and what the callback is given. -/
def addFragment (self : PacketReassembler) (fragment : Fragment) :
    List Assembled × PacketReassembler :=
  let self := self.restart fragment
  if fragment.fragmentCount = 0 ∨ fragment.fragmentCount = 1 then
    ([⟨fragment.data, fragment.pts, fragment.keyframe⟩], self)
  else (self.store fragment).finish

def addFragments (self : PacketReassembler) :
    List Fragment → List Assembled × PacketReassembler
  | [] => ([], self)
  | fragment :: fragments =>
      let (first, self) := self.addFragment fragment
      let (others, self) := self.addFragments fragments
      (first ++ others, self)

end PacketReassembler

def VideoFrame.fragment (frame : VideoFrame) (pts : BitVec 32) (seg : Nat) : Fragment :=
  { data := frame.segment seg
    fragmentIndex := frame.fragmentIndex seg
    fragmentCount := frame.fragmentCount
    pts := pts
    keyframe := frame.keyframe }

def VideoFrame.assembled (frame : VideoFrame) (pts : BitVec 32) : Assembled :=
  ⟨frame.data, pts, frame.keyframe⟩

/-- The reassembler has the given segments of a frame, and no others count. -/
structure Gathers (frame : VideoFrame) (pts : BitVec 32) (reassembler : PacketReassembler)
    (segs : List Nat) : Prop where
  timestamp : reassembler.currentTimestamp = pts
  count : reassembler.currentPacketPartCount = frame.segmentCount
  keyframe : reassembler.currentIsKeyframe = frame.keyframe
  received : reassembler.receivedPartCount.toNat = segs.length
  distinct : segs.Nodup
  inside : ∀ seg ∈ segs, seg < frame.segmentCount
  stored : ∀ seg ∈ segs, reassembler.part seg = frame.segment seg

/-- A frame that needs more than one packet, and whose segments can be numbered. -/
structure VideoFrame.Split (frame : VideoFrame) : Prop where
  many : frame.segmentCount > 1
  few : frame.segmentCount ≤ 255

variable {frame : VideoFrame} {pts : BitVec 32} {reassembler : PacketReassembler}
  {segs : List Nat} {seg : Nat}

theorem VideoFrame.Split.fragmentCount (split : frame.Split) :
    frame.fragmentCount.toNat = frame.segmentCount := by
  rw [VideoFrame.fragmentCount, if_pos split.many]
  exact UInt8.toNat_ofNat_of_lt' (Nat.lt_succ_of_le split.few)

theorem VideoFrame.Split.fragmentIndex (split : frame.Split)
    (inside : seg < frame.segmentCount) : (frame.fragmentIndex seg).toNat = seg := by
  rw [VideoFrame.fragmentIndex, if_pos split.many]
  exact UInt8.toNat_ofNat_of_lt' (Nat.lt_of_lt_of_le inside (Nat.le_succ_of_le split.few))

theorem VideoFrame.Split.not_alone (split : frame.Split) :
    ¬ (frame.fragmentCount = 0 ∨ frame.fragmentCount = 1) := by
  have count := split.fragmentCount
  have many := split.many
  rintro (none | one)
  · rw [none] at count
    change 0 = _ at count
    omega
  · rw [one] at count
    change 1 = _ at count
    omega

theorem restart_same (same : pts = reassembler.currentTimestamp) (seg : Nat) :
    reassembler.restart (frame.fragment pts seg) = reassembler :=
  if_neg (not_not.mpr same)

theorem gathers_restart (split : frame.Split) (other : pts ≠ reassembler.currentTimestamp)
    (seg : Nat) : Gathers frame pts (reassembler.restart (frame.fragment pts seg)) [] := by
  unfold PacketReassembler.restart
  change Gathers frame pts (if pts ≠ reassembler.currentTimestamp then _ else _) []
  rw [if_pos other]
  exact
    { timestamp := rfl
      count := split.fragmentCount
      keyframe := rfl
      received := rfl
      distinct := List.nodup_nil
      inside := fun _ member => absurd member List.not_mem_nil
      stored := fun _ member => absurd member List.not_mem_nil }

theorem Gathers.restart (gathers : Gathers frame pts reassembler segs) (seg : Nat) :
    reassembler.restart (frame.fragment pts seg) = reassembler :=
  restart_same gathers.timestamp.symm seg

theorem store_part {fragment : Fragment} (index : fragment.fragmentIndex.toNat = seg)
    (known : seg < reassembler.currentPacketPartCount) (other : Nat) :
    (reassembler.store fragment).part other =
      if other = seg then fragment.data else reassembler.part other := by
  have inside : seg < 255 := Nat.lt_of_lt_of_le known reassembler.few
  unfold PacketReassembler.store PacketReassembler.part
  dsimp only
  rw [index, if_pos known, Vector.getElem?_setIfInBounds]
  by_cases same : other = seg
  · rw [if_pos same.symm, if_pos inside, if_pos same]
    rfl
  · rw [if_neg (Ne.symm same), if_neg same]

theorem Gathers.among (gathers : Gathers frame pts reassembler segs) :
    segs.Subperm (List.range frame.segmentCount) :=
  List.subperm_of_subset gathers.distinct
    (fun seg member => List.mem_range.mpr (gathers.inside seg member))

theorem Gathers.length_le (gathers : Gathers frame pts reassembler segs) :
    segs.length ≤ frame.segmentCount := by
  have bound := gathers.among.length_le
  rw [List.length_range] at bound
  exact bound

theorem Gathers.store (split : frame.Split) (gathers : Gathers frame pts reassembler segs)
    (inside : seg < frame.segmentCount) (new : seg ∉ segs) :
    Gathers frame pts (reassembler.store (frame.fragment pts seg)) (seg :: segs) := by
  have known : seg < reassembler.currentPacketPartCount := by
    rw [gathers.count]
    exact inside
  have less : segs.length < 2 ^ 32 - 1 :=
    Nat.lt_of_le_of_lt (Nat.le_trans gathers.length_le split.few) (by decide)
  have parts : ∀ other, (reassembler.store (frame.fragment pts seg)).part other =
      if other = seg then frame.segment seg else reassembler.part other :=
    store_part (split.fragmentIndex inside) known
  exact
    { timestamp := gathers.timestamp
      count := gathers.count
      keyframe := gathers.keyframe
      received := by
        change (reassembler.receivedPartCount + 1).toNat = segs.length + 1
        rw [BitVec.toNat_add, gathers.received]
        exact Nat.mod_eq_of_lt (Nat.add_lt_of_lt_sub less)
      distinct := List.nodup_cons.mpr ⟨new, gathers.distinct⟩
      inside := List.forall_mem_cons.mpr ⟨inside, gathers.inside⟩
      stored := by
        intro other member
        rw [parts other]
        split
        · rename_i same
          rw [same]
        · rename_i different
          exact gathers.stored other ((List.mem_cons.mp member).resolve_left different) }

theorem Gathers.present (gathers : Gathers frame pts reassembler segs)
    (whole : segs.length = frame.segmentCount) {seg : Nat} (inside : seg < frame.segmentCount) :
    seg ∈ segs := by
  have enough : (List.range frame.segmentCount).length = segs.length := by
    rw [List.length_range, whole]
  have perm := gathers.among.perm_of_length_le (Nat.le_of_eq enough)
  exact perm.mem_iff.mpr (List.mem_range.mpr inside)

theorem Gathers.packet (gathers : Gathers frame pts reassembler segs)
    (whole : segs.length = frame.segmentCount) : reassembler.packet = frame.data := by
  unfold PacketReassembler.packet
  rw [gathers.count, ← segments_make_frame]
  apply List.flatMap_congr
  intro seg member
  exact gathers.stored seg (gathers.present whole (List.mem_range.mp member))

theorem Gathers.none_empty (gathers : Gathers frame pts reassembler segs)
    (whole : segs.length = frame.segmentCount) : reassembler.anyAreEmpty = false := by
  unfold PacketReassembler.anyAreEmpty
  rw [List.any_eq_false]
  intro seg member
  rw [gathers.count] at member
  have inside := List.mem_range.mp member
  rw [gathers.stored seg (gathers.present whole inside), List.isEmpty_iff_length_eq_zero]
  exact Nat.ne_of_gt (segment_nonempty inside)

theorem Gathers.complete_iff (split : frame.Split) (gathers : Gathers frame pts reassembler segs) :
    reassembler.complete = true ↔ segs.length = frame.segmentCount := by
  have small : frame.segmentCount < 2 ^ 32 := Nat.lt_of_le_of_lt split.few (by decide)
  have counted : reassembler.receivedPartCount =
      BitVec.ofNat 32 reassembler.currentPacketPartCount ↔ segs.length = frame.segmentCount := by
    rw [gathers.count, ← BitVec.toNat_inj, gathers.received, BitVec.toNat_ofNat,
      Nat.mod_eq_of_lt small]
  unfold PacketReassembler.complete
  rw [Bool.and_eq_true, beq_iff_eq, counted]
  constructor
  · exact And.right
  · intro whole
    rw [gathers.none_empty whole]
    exact ⟨rfl, whole⟩

theorem VideoFrame.Split.addFragment (split : frame.Split) (reassembler : PacketReassembler)
    (pts : BitVec 32) (seg : Nat) :
    reassembler.addFragment (frame.fragment pts seg) =
      ((reassembler.restart (frame.fragment pts seg)).store (frame.fragment pts seg)).finish :=
  if_neg split.not_alone

theorem Gathers.more (split : frame.Split)
    (gathers : Gathers frame pts (reassembler.restart (frame.fragment pts seg)) segs)
    (inside : seg < frame.segmentCount) (new : seg ∉ segs)
    (missing : segs.length + 1 ≠ frame.segmentCount) :
    ∃ next, reassembler.addFragment (frame.fragment pts seg) = ([], next) ∧
      Gathers frame pts next (seg :: segs) := by
  have stored := gathers.store split inside new
  have incomplete := mt (stored.complete_iff split).mp missing
  refine ⟨_, ?_, stored⟩
  rw [split.addFragment, PacketReassembler.finish, if_neg incomplete]

/-- The last fragment hands the frame on, and nothing is waited for. -/
theorem Gathers.last (split : frame.Split)
    (gathers : Gathers frame pts (reassembler.restart (frame.fragment pts seg)) segs)
    (inside : seg < frame.segmentCount) (new : seg ∉ segs)
    (whole : segs.length + 1 = frame.segmentCount) :
    ∃ next, reassembler.addFragment (frame.fragment pts seg) = ([frame.assembled pts], next) ∧
      next.currentPacketPartCount = 0 ∧ next.receivedPartCount.toNat = frame.segmentCount := by
  have stored := gathers.store split inside new
  have complete := (stored.complete_iff split).mpr whole
  refine ⟨((reassembler.restart (frame.fragment pts seg)).store (frame.fragment pts seg)).clear,
    ?_, rfl, stored.received.trans whole⟩
  rw [split.addFragment, PacketReassembler.finish, if_pos complete, stored.packet whole,
    stored.timestamp, stored.keyframe]
  rfl

/-! ### The segments of one frame -/

theorem addFragments_cons (reassembler : PacketReassembler) (fragment : Fragment)
    (fragments : List Fragment) :
    (reassembler.addFragments (fragment :: fragments)).1 =
      (reassembler.addFragment fragment).1 ++
        ((reassembler.addFragment fragment).2.addFragments fragments).1 := rfl

theorem Gathers.run (split : frame.Split) {order : List Nat}
    (gathers : Gathers frame pts reassembler segs) (distinct : order.Nodup)
    (inside : ∀ seg ∈ order, seg < frame.segmentCount) (new : ∀ seg ∈ order, seg ∉ segs)
    (some : order ≠ []) (whole : segs.length + order.length = frame.segmentCount) :
    (reassembler.addFragments (order.map (frame.fragment pts))).1 = [frame.assembled pts] := by
  induction order generalizing reassembler segs with
  | nil => exact absurd rfl some
  | cons seg order ih =>
      rw [List.forall_mem_cons] at inside new
      obtain ⟨apart, distinct⟩ := List.nodup_cons.mp distinct
      rw [List.length_cons] at whole
      rw [← gathers.restart seg] at gathers
      rw [List.map_cons, addFragments_cons]
      cases order with
      | nil =>
          obtain ⟨next, added, _⟩ := gathers.last split inside.1 new.1 whole
          rw [added]
          rfl
      | cons second order =>
          rw [List.length_cons] at whole
          obtain ⟨next, added, gathers⟩ := gathers.more split inside.1 new.1 (by omega)
          rw [added]
          apply ih gathers distinct inside.2 _ (List.cons_ne_nil _ _)
          · rw [List.length_cons, List.length_cons]
            omega
          · intro other member
            have different : other ≠ seg := fun same => apart (same ▸ member)
            exact List.not_mem_cons_of_ne_of_not_mem different (new.2 other member)

theorem alone_addFragment (alone : ¬ frame.segmentCount > 1) (inside : seg < frame.segmentCount) :
    reassembler.addFragment (frame.fragment pts seg) =
      ([frame.assembled pts], reassembler.restart (frame.fragment pts seg)) := by
  have one : frame.segmentCount = 1 := by omega
  have first : seg = 0 := by omega
  have data := segments_make_frame frame
  rw [one, List.range_one, List.flatMap_cons, List.flatMap_nil, List.append_nil] at data
  have count : frame.fragmentCount = 0 := if_neg alone
  have handed : reassembler.addFragment (frame.fragment pts 0) =
      ([⟨frame.segment 0, pts, frame.keyframe⟩], reassembler.restart (frame.fragment pts 0)) :=
    if_pos (Or.inl count)
  rw [first, handed, data]
  rfl

/-- A frame whose segments come in a row is handed on once, whatever their
order and whatever came before. -/
theorem frame_is_reassembled (few : frame.segmentCount ≤ 255) (some : frame.data ≠ [])
    (other : pts ≠ reassembler.currentTimestamp) {order : List Nat}
    (perm : order.Perm (List.range frame.segmentCount)) :
    (reassembler.addFragments (order.map (frame.fragment pts))).1 = [frame.assembled pts] := by
  have inside : ∀ seg ∈ order, seg < frame.segmentCount := fun seg member =>
    List.mem_range.mp (perm.mem_iff.mp member)
  have length := perm.length_eq
  rw [List.length_range] at length
  have positive : 0 < frame.segmentCount := by
    have covered := length_le_segments frame
    have nonempty := List.length_pos_of_ne_nil some
    by_contra none
    rw [Nat.eq_zero_of_not_pos none, Nat.zero_mul] at covered
    omega
  cases order with
  | nil => exact absurd length (Nat.ne_of_lt positive)
  | cons seg order =>
      by_cases many : frame.segmentCount > 1
      · have split : frame.Split := ⟨many, few⟩
        have gathers := gathers_restart split other seg
        have run := gathers.run split (perm.nodup_iff.mpr List.nodup_range) inside
          (fun _ _ => List.not_mem_nil) (List.cons_ne_nil _ _)
          (by rw [length]; exact Nat.zero_add _)
        rw [List.map_cons, addFragments_cons, split.addFragment, gathers.restart] at run
        rw [List.map_cons, addFragments_cons, split.addFragment]
        exact run
      · have alone : order = [] := by
          rw [List.length_cons] at length
          exact List.eq_nil_of_length_eq_zero (by omega)
        rw [alone, List.map_cons, addFragments_cons,
          alone_addFragment many (inside seg List.mem_cons_self)]
        rfl

def segmentsOf (arrived : List (BitVec 32 × Nat)) (pts : BitVec 32) : List Nat :=
  (arrived.filter (fun known => known.1 = pts)).map Prod.snd

structure Arrived (video : BitVec 32 → VideoFrame) (arrived : List (BitVec 32 × Nat)) : Prop where
  few : ∀ pts, (video pts).segmentCount ≤ 255
  distinct : arrived.Nodup
  inside : ∀ known ∈ arrived, known.2 < (video known.1).segmentCount

/-- The reassembler waits for the rest of a frame, or for nothing: then no
fragment is stored, and `receivedPartCount` only grows. -/
inductive Waits (video : BitVec 32 → VideoFrame) (arrived : List (BitVec 32 × Nat))
    (reassembler : PacketReassembler) : Prop where
  | frame (segs : List Nat) (split : (video reassembler.currentTimestamp).Split)
      (gathers : Gathers (video reassembler.currentTimestamp) reassembler.currentTimestamp
        reassembler segs)
      (known : ∀ seg ∈ segs, (reassembler.currentTimestamp, seg) ∈ arrived)
  | nothing (none : reassembler.currentPacketPartCount = 0)
      (received : reassembler.receivedPartCount.toNat ≤
        255 + (segmentsOf arrived reassembler.currentTimestamp).length)

structure Whole (video : BitVec 32 → VideoFrame) (arrived : List (BitVec 32 × Nat))
    (handed : List Assembled) : Prop where
  frames : ∀ frame ∈ handed, frame = (video frame.pts).assembled frame.pts
  some : ∀ frame ∈ handed, 0 < (video frame.pts).segmentCount
  arrived : ∀ frame ∈ handed, ∀ seg < (video frame.pts).segmentCount, (frame.pts, seg) ∈ arrived
  once : (handed.map Assembled.pts).Nodup

variable {video : BitVec 32 → VideoFrame} {arrived : List (BitVec 32 × Nat)}
  {handed : List Assembled}

theorem Arrived.segments_few (state : Arrived video arrived) (pts : BitVec 32) :
    (segmentsOf arrived pts).length ≤ 255 := by
  have distinct : (segmentsOf arrived pts).Nodup := by
    refine List.Nodup.map_on ?_ (state.distinct.filter _)
    intro first firstMember second secondMember same
    have firstPts := of_decide_eq_true (List.mem_filter.mp firstMember).2
    have secondPts := of_decide_eq_true (List.mem_filter.mp secondMember).2
    exact Prod.ext (firstPts.trans secondPts.symm) same
  have inside : segmentsOf arrived pts ⊆ List.range (video pts).segmentCount := by
    intro seg member
    obtain ⟨known, found, rfl⟩ := List.mem_map.mp member
    obtain ⟨present, same⟩ := List.mem_filter.mp found
    have below := state.inside known present
    rw [of_decide_eq_true same] at below
    exact List.mem_range.mpr below
  have bound := (List.subperm_of_subset distinct inside).length_le
  rw [List.length_range] at bound
  exact Nat.le_trans bound (state.few pts)

theorem segmentsOf_append (pts : BitVec 32) (seg : Nat) :
    segmentsOf (arrived ++ [(pts, seg)]) pts = segmentsOf arrived pts ++ [seg] := by
  unfold segmentsOf
  rw [List.filter_append, List.map_append, List.filter_singleton, decide_eq_true rfl]
  rfl

theorem Whole.keeps (state : Whole video arrived handed) (known : BitVec 32 × Nat) :
    Whole video (arrived ++ [known]) handed :=
  { frames := state.frames
    some := state.some
    arrived := fun frame member seg inside =>
      List.mem_append_left _ (state.arrived frame member seg inside)
    once := state.once }

theorem Whole.hands (state : Whole video arrived handed) (new : (pts, seg) ∉ arrived)
    (inside : seg < (video pts).segmentCount)
    (all : ∀ other < (video pts).segmentCount, (pts, other) ∈ arrived ++ [(pts, seg)]) :
    Whole video (arrived ++ [(pts, seg)]) (handed ++ [(video pts).assembled pts]) where
  frames := by
    rw [List.forall_mem_append, List.forall_mem_singleton]
    exact ⟨state.frames, rfl⟩
  some := by
    rw [List.forall_mem_append, List.forall_mem_singleton]
    exact ⟨state.some, Nat.zero_lt_of_lt inside⟩
  arrived := by
    rw [List.forall_mem_append, List.forall_mem_singleton]
    exact ⟨(state.keeps _).arrived, all⟩
  once := by
    rw [List.map_append, List.map_singleton, List.nodup_append]
    refine ⟨state.once, List.nodup_singleton _, ?_⟩
    intro first firstMember second secondMember same
    obtain ⟨frame, member, rfl⟩ := List.mem_map.mp firstMember
    rw [List.mem_singleton.mp secondMember] at same
    have early := state.arrived frame member seg (by rw [same]; exact inside)
    rw [same] at early
    exact new early

theorem nothing_addFragment (split : frame.Split)
    (none : reassembler.currentPacketPartCount = 0)
    (small : reassembler.receivedPartCount.toNat + 1 < 2 ^ 32)
    (same : pts = reassembler.currentTimestamp) (seg : Nat) :
    ∃ next, reassembler.addFragment (frame.fragment pts seg) = ([], next) ∧
      next.currentTimestamp = pts ∧ next.currentPacketPartCount = 0 ∧
      next.receivedPartCount.toNat = reassembler.receivedPartCount.toNat + 1 := by
  have received : (reassembler.store (frame.fragment pts seg)).receivedPartCount.toNat =
      reassembler.receivedPartCount.toNat + 1 := by
    change (reassembler.receivedPartCount + 1).toNat = _
    rw [BitVec.toNat_add]
    exact Nat.mod_eq_of_lt small
  have incomplete : ¬ (reassembler.store (frame.fragment pts seg)).complete = true := by
    unfold PacketReassembler.complete
    rw [Bool.and_eq_true, beq_iff_eq, ← BitVec.toNat_inj, received]
    change ¬ (_ ∧ _ = (BitVec.ofNat 32 reassembler.currentPacketPartCount).toNat)
    rw [none]
    exact fun both => absurd both.2 (Nat.succ_ne_zero _)
  refine ⟨reassembler.store (frame.fragment pts seg), ?_, same.symm, none, received⟩
  rw [split.addFragment, restart_same same, PacketReassembler.finish, if_neg incomplete]

theorem follows_split (whole : Whole video arrived handed)
    (new : (pts, seg) ∉ arrived) (inside : seg < (video pts).segmentCount)
    (split : (video pts).Split)
    (gathers : Gathers (video pts) pts (reassembler.restart ((video pts).fragment pts seg)) segs)
    (known : ∀ seg ∈ segs, (pts, seg) ∈ arrived) :
    ∃ out next, reassembler.addFragment ((video pts).fragment pts seg) = (out, next) ∧
      Waits video (arrived ++ [(pts, seg)]) next ∧
      Whole video (arrived ++ [(pts, seg)]) (handed ++ out) := by
  have fresh : seg ∉ segs := fun member => new (known seg member)
  have arrivedNow : ∀ other ∈ seg :: segs, (pts, other) ∈ arrived ++ [(pts, seg)] := by
    rw [List.forall_mem_cons]
    exact ⟨List.mem_append_right _ (List.mem_singleton.mpr rfl),
      fun other member => List.mem_append_left _ (known other member)⟩
  by_cases last : segs.length + 1 = (video pts).segmentCount
  · obtain ⟨next, added, none, received⟩ := gathers.last split inside fresh last
    have stored := gathers.store split inside fresh
    refine ⟨_, next, added, .nothing none ?_, whole.hands new inside ?_⟩
    · rw [received]
      exact Nat.le_add_right_of_le split.few
    · intro other below
      exact arrivedNow other (stored.present last below)
  · obtain ⟨next, added, gathers⟩ := gathers.more split inside fresh last
    have time := gathers.timestamp
    refine ⟨_, next, added, ?_, ?_⟩
    · apply Waits.frame (seg :: segs)
      · rw [time]
        exact split
      · rw [time]
        exact gathers
      · rw [time]
        exact arrivedNow
    · rw [List.append_nil]
      exact whole.keeps _

theorem Arrived.snoc (state : Arrived video arrived) (new : (pts, seg) ∉ arrived)
    (inside : seg < (video pts).segmentCount) : Arrived video (arrived ++ [(pts, seg)]) where
  few := state.few
  distinct := by
    rw [List.nodup_append]
    refine ⟨state.distinct, List.nodup_singleton _, ?_⟩
    intro first member second single same
    rw [same, List.mem_singleton.mp single] at member
    exact new member
  inside := by
    rw [List.forall_mem_append, List.forall_mem_singleton]
    exact ⟨state.inside, inside⟩

theorem follows_alone (waits : Waits video arrived reassembler)
    (whole : Whole video arrived handed) (new : (pts, seg) ∉ arrived)
    (inside : seg < (video pts).segmentCount) (alone : ¬ (video pts).segmentCount > 1) :
    Waits video (arrived ++ [(pts, seg)])
        (reassembler.restart ((video pts).fragment pts seg)) ∧
      Whole video (arrived ++ [(pts, seg)]) (handed ++ [(video pts).assembled pts]) := by
  constructor
  · have count : (video pts).fragmentCount = 0 := if_neg alone
    by_cases same : pts = reassembler.currentTimestamp
    · rw [restart_same same]
      cases waits with
      | frame segs split gathers known =>
          rw [← same] at split
          exact absurd split.many alone
      | nothing none received =>
          apply Waits.nothing none
          rw [← same] at received ⊢
          rw [segmentsOf_append, List.length_append]
          exact Nat.le_trans received (Nat.add_le_add_left (Nat.le_add_right _ _) 255)
    · have other : reassembler.restart ((video pts).fragment pts seg) = _ := if_pos same
      rw [other]
      apply Waits.nothing
      · change (video pts).fragmentCount.toNat = 0
        rw [count]
        rfl
      · exact Nat.zero_le _
  · apply whole.hands new inside
    intro other below
    have only : other = seg := by omega
    rw [only]
    exact List.mem_append_right _ (List.mem_singleton.mpr rfl)

theorem follows_add (state : Arrived video arrived) (waits : Waits video arrived reassembler)
    (whole : Whole video arrived handed) (new : (pts, seg) ∉ arrived)
    (inside : seg < (video pts).segmentCount) :
    ∃ out next, reassembler.addFragment ((video pts).fragment pts seg) = (out, next) ∧
      Waits video (arrived ++ [(pts, seg)]) next ∧
      Whole video (arrived ++ [(pts, seg)]) (handed ++ out) := by
  by_cases many : (video pts).segmentCount > 1
  · have split : (video pts).Split := ⟨many, state.few pts⟩
    by_cases same : pts = reassembler.currentTimestamp
    · cases waits with
      | frame segs split gathers known =>
          rw [← same] at split gathers known
          apply follows_split whole new inside split _ known
          rw [gathers.restart]
          exact gathers
      | nothing none received =>
          have few := state.segments_few reassembler.currentTimestamp
          obtain ⟨next, added, time, still, counted⟩ := nothing_addFragment split none (by omega)
            same seg
          refine ⟨[], next, added, .nothing still ?_, ?_⟩
          · rw [counted, time, segmentsOf_append, List.length_append]
            rw [← same] at received
            exact Nat.succ_le_succ received
          · rw [List.append_nil]
            exact whole.keeps _
    · exact follows_split whole new inside split (gathers_restart split same seg)
        (fun _ member => absurd member List.not_mem_nil)
  · obtain ⟨waits, whole⟩ := follows_alone waits whole new inside many
    exact ⟨_, _, alone_addFragment many inside, waits, whole⟩

theorem follows_run (state : Arrived video arrived) (waits : Waits video arrived reassembler)
    (whole : Whole video arrived handed) {later : List (BitVec 32 × Nat)}
    (all : Arrived video (arrived ++ later)) :
    Whole video (arrived ++ later) (handed ++ (reassembler.addFragments
      (later.map (fun known => (video known.1).fragment known.1 known.2))).1) := by
  induction later generalizing reassembler arrived handed with
  | nil =>
      rw [List.append_nil]
      change Whole video arrived (handed ++ [])
      rw [List.append_nil]
      exact whole
  | cons known later ih =>
      obtain ⟨pts, seg⟩ := known
      have apart := List.nodup_append.mp all.distinct
      have new : (pts, seg) ∉ arrived := fun member =>
        apart.2.2 _ member _ List.mem_cons_self rfl
      have inside := all.inside (pts, seg) (List.mem_append_right _ List.mem_cons_self)
      obtain ⟨out, next, added, waits, whole⟩ := follows_add state waits whole new inside
      rw [List.append_cons] at all ⊢
      rw [List.map_cons, addFragments_cons, added, ← List.append_assoc]
      exact ih (state.snoc new inside) waits whole all

/-- From the start, whatever segments arrive and in whatever order: what is
handed on are frames that have arrived as a whole, and each of them once. -/
theorem handed_frames_have_arrived (all : Arrived video arrived) (currentTimestamp : BitVec 32)
    (currentIsKeyframe : Bool) :
    Whole video arrived ((PacketReassembler.create currentTimestamp currentIsKeyframe).addFragments
      (arrived.map (fun known => (video known.1).fragment known.1 known.2))).1 := by
  have start : Arrived video [] :=
    { few := all.few
      distinct := List.nodup_nil
      inside := fun _ member => absurd member List.not_mem_nil }
  have none : Whole video [] [] :=
    { frames := fun _ member => absurd member List.not_mem_nil
      some := fun _ member => absurd member List.not_mem_nil
      arrived := fun _ member => absurd member List.not_mem_nil
      once := List.nodup_nil }
  have all : Arrived video ([] ++ arrived) := all
  exact follows_run start (.nothing rfl (Nat.zero_le _)) none all

end Tg2Sip.Voip
