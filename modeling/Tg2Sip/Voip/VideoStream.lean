/-
A video stream, from `SendVideoFrame` to the renderer.

The sender numbers its frames and cuts them into segments, one a packet.  On
the way packets may be lost or change places, but none comes twice.  What the
renderer is given are frames that were sent, each once, and a frame that is
not a key frame only behind the frame before it.
-/

import Mathlib.Data.List.Chain
import Tg2Sip.Lib.Run
import Tg2Sip.Voip.PacketReassembler

namespace Tg2Sip.Voip

structure VideoSender where
  streamID : UInt8
  low : streamID < 64
  videoFrameCount : BitVec 32
  videoKeyframeRequested : Bool

/-- `requestKeyFrame` is what a detected loss sets. -/
inductive VideoEvent where
  | frame (frame : VideoFrame)
  | requestKeyFrame
  deriving DecidableEq, Repr

namespace VideoSender

def create (streamID : UInt8) (low : streamID < 64) : VideoSender :=
  { streamID := streamID
    low := low
    videoFrameCount := 0
    videoKeyframeRequested := false }

def packets (streamID : UInt8) (pts : BitVec 32) (frame : VideoFrame) : List Bytes :=
  (List.range frame.segmentCount).map (frame.writeSegment streamID pts)

/-- A frame is dropped while a key frame is waited for. -/
def drops (self : VideoSender) (frame : VideoFrame) : Bool :=
  self.videoKeyframeRequested && !frame.keyframe

def sendVideoFrame (self : VideoSender) (frame : VideoFrame) : List Bytes × VideoSender :=
  if self.drops frame then ([], self)
  else
    (packets self.streamID self.videoFrameCount frame,
      { self with
        videoFrameCount := self.videoFrameCount + 1
        videoKeyframeRequested := false })

def step : LabelledMachine.Step VideoSender VideoEvent Bytes
  | self, .frame frame => some (self.sendVideoFrame frame)
  | self, .requestKeyFrame => some ([], { self with videoKeyframeRequested := true })

end VideoSender

structure Shown where
  frame : Bytes
  pts : BitVec 32
  deriving DecidableEq, Repr

structure VideoReceiver where
  packetReassembler : PacketReassembler
  lastReceivedVideoFrameNumber : BitVec 32

namespace VideoReceiver

def create (packetReassembler : PacketReassembler) : VideoReceiver :=
  { packetReassembler := packetReassembler
    lastReceivedVideoFrameNumber := BitVec.allOnes 32 }

def continues (self : VideoReceiver) (frame : Assembled) : Bool :=
  self.lastReceivedVideoFrameNumber == BitVec.allOnes 32 ||
    self.lastReceivedVideoFrameNumber == frame.pts - 1 || frame.keyframe

/-- With a renderer that knows the stream. -/
def processIncomingVideoFrame (self : VideoReceiver) (frame : Assembled) :
    List Shown × VideoReceiver :=
  if self.continues frame then
    ([⟨frame.packet, frame.pts⟩], { self with lastReceivedVideoFrameNumber := frame.pts })
  else ([], self)

def processIncomingVideoFrames (self : VideoReceiver) :
    List Assembled → List Shown × VideoReceiver
  | [] => ([], self)
  | frame :: frames =>
      let (first, self) := self.processIncomingVideoFrame frame
      let (others, self) := self.processIncomingVideoFrames frames
      (first ++ others, self)

/-- What is handed over for the stream, piece by piece. -/
def handle (self : VideoReceiver) : List Handed → List Shown × VideoReceiver
  | .fragment data fragmentIndex fragmentCount pts keyframe :: handed =>
      let (frames, packetReassembler) :=
        self.packetReassembler.addFragment ⟨data, fragmentIndex, fragmentCount, pts, keyframe⟩
      let (first, self) :=
        { self with packetReassembler := packetReassembler }.processIncomingVideoFrames frames
      let (others, self) := self.handle handed
      (first ++ others, self)
  | .input _ _ _ :: handed => self.handle handed
  | [] => ([], self)

end VideoReceiver

/-- A packet on its way: the packet buffer, its length and the stream behind
the header.  `position` is the place of the packet among those sent. -/
structure Arriving (packets : List Bytes) where
  position : Fin packets.length
  buffer : Bytes
  len : Nat
  stream : BufferInputStream
  rest : Bytes
  holds : Holds buffer len stream
  stands : stream.rest = packets.get position ++ rest

def Arriving.plain (packets : List Bytes) (position : Fin packets.length) : Arriving packets :=
  { position := position
    buffer := packets.get position
    len := (packets.get position).length
    stream := .ofBytes (packets.get position)
    rest := []
    holds :=
      { begins := ⟨[], (List.append_nil _).symm⟩
        inside := Nat.le_refl _ }
    stands := (List.append_nil _).symm }

def VideoReceiver.receive (self : VideoReceiver) (streams : List Stream) {packets : List Bytes} :
    List (Arriving packets) → List Shown × VideoReceiver
  | [] => ([], self)
  | arrival :: arrivals =>
      let handed := (handleStreamData streams arrival.buffer arrival.len 1 arrival.stream).1
      let (first, self) := self.handle handed
      let (others, self) := self.receive streams arrivals
      (first ++ others, self)

def Assembled.shown (frame : Assembled) : Shown := ⟨frame.packet, frame.pts⟩

/-- What may be shown behind what. -/
def Continues (earlier later : Assembled) : Prop :=
  earlier.pts = BitVec.allOnes 32 ∨ earlier.pts = later.pts - 1 ∨ later.keyframe = true

theorem continues_iff (self : VideoReceiver) (frame : Assembled) :
    self.continues frame = true ↔ self.lastReceivedVideoFrameNumber = BitVec.allOnes 32 ∨
      self.lastReceivedVideoFrameNumber = frame.pts - 1 ∨ frame.keyframe = true := by
  unfold VideoReceiver.continues
  rw [Bool.or_eq_true, Bool.or_eq_true, beq_iff_eq, beq_iff_eq, or_assoc]

/-- What is shown is a chain among the frames that are handed on. -/
theorem shown_chain (self : VideoReceiver) (frames : List Assembled) :
    ∃ kept, List.Sublist kept frames ∧
      (self.processIncomingVideoFrames frames).1 = kept.map Assembled.shown ∧
      (∀ first ∈ kept.head?, self.continues first = true) ∧ kept.IsChain Continues := by
  induction frames generalizing self with
  | nil =>
      exact ⟨[], List.Sublist.refl _, rfl, fun _ none => (Option.not_mem_none _ none).elim, .nil⟩
  | cons frame frames ih =>
      unfold VideoReceiver.processIncomingVideoFrames VideoReceiver.processIncomingVideoFrame
      by_cases continues : self.continues frame = true
      · obtain ⟨kept, among, shown, first, chain⟩ :=
          ih { self with lastReceivedVideoFrameNumber := frame.pts }
        rw [if_pos continues]
        refine ⟨frame :: kept, among.cons_cons frame, ?_, ?_, ?_⟩
        · dsimp only
          rw [shown]
          rfl
        · intro head same
          rw [← Option.some.inj same]
          exact continues
        · rw [List.isChain_cons]
          exact ⟨fun next head => (continues_iff _ next).mp (first next head), chain⟩
      · obtain ⟨kept, among, shown, first, chain⟩ := ih self
        rw [if_neg continues]
        exact ⟨kept, among.cons frame, shown, first, chain⟩

theorem process_packetReassembler (self : VideoReceiver) (packetReassembler : PacketReassembler)
    (frames : List Assembled) :
    { self with packetReassembler := packetReassembler }.processIncomingVideoFrames frames =
      ((self.processIncomingVideoFrames frames).1,
        { (self.processIncomingVideoFrames frames).2 with
          packetReassembler := packetReassembler }) := by
  induction frames generalizing self with
  | nil => rfl
  | cons frame frames ih =>
      have same : { self with packetReassembler := packetReassembler }.processIncomingVideoFrame
          frame = ((self.processIncomingVideoFrame frame).1,
            { (self.processIncomingVideoFrame frame).2 with
              packetReassembler := packetReassembler }) := by
        unfold VideoReceiver.processIncomingVideoFrame
        by_cases continues : self.continues frame = true
        · rw [if_pos continues]
          exact if_pos continues
        · rw [if_neg continues]
          exact if_neg continues
      rw [VideoReceiver.processIncomingVideoFrames, same]
      dsimp only
      rw [ih]
      rfl

theorem process_append (self : VideoReceiver) (first second : List Assembled) :
    (self.processIncomingVideoFrames (first ++ second)).1 =
      (self.processIncomingVideoFrames first).1 ++
        ((self.processIncomingVideoFrames first).2.processIncomingVideoFrames second).1 := by
  induction first generalizing self with
  | nil => rfl
  | cons frame frames ih =>
      rw [List.cons_append]
      change _ ++ (VideoReceiver.processIncomingVideoFrames _ (frames ++ second)).1 = _
      rw [ih, ← List.append_assoc]
      rfl

theorem handle_segment (self : VideoReceiver) (frame : VideoFrame) (pts : BitVec 32) (seg : Nat) :
    self.handle [frame.handedSegment pts seg] =
      let added := self.packetReassembler.addFragment (frame.fragment pts seg)
      ((self.processIncomingVideoFrames added.1).1,
        { (self.processIncomingVideoFrames added.1).2 with packetReassembler := added.2 }) := by
  unfold VideoReceiver.handle VideoFrame.handedSegment
  dsimp only
  rw [process_packetReassembler]
  change (_ ++ [], _) = _
  rw [List.append_nil]
  rfl

/-- The number of a frame and of a segment in it. -/
abbrev Label := BitVec 32 × Nat

/-- What `SendVideoFrame` writes for a segment of a frame with this number. -/
def writeLabel (video : BitVec 32 → VideoFrame) (streamID : UInt8) (label : Label) : Bytes :=
  (video label.1).writeSegment streamID label.1 label.2

def fragmentOf (video : BitVec 32 → VideoFrame) (label : Label) : Fragment :=
  (video label.1).fragment label.1 label.2

def Arriving.label {write : Label → Bytes} {labels : List Label}
    (arriving : Arriving (labels.map write)) : Label :=
  labels.get (arriving.position.cast (List.length_map write))

theorem Arriving.stands_label {write : Label → Bytes} {labels : List Label}
    (arriving : Arriving (labels.map write)) :
    arriving.stream.rest = write arriving.label ++ arriving.rest := by
  have stands := arriving.stands
  rw [List.get_eq_getElem, List.getElem_map] at stands
  exact stands

variable {video : BitVec 32 → VideoFrame} {streamID : UInt8} {streams : List Stream}
  {labels : List Label}

theorem receive_eq (low : streamID < 64) (known : streamOf streams streamID = some (.video true))
    (self : VideoReceiver) (arrivals : List (Arriving (labels.map (writeLabel video streamID)))) :
    (self.receive streams arrivals).1 = (self.processIncomingVideoFrames
      (self.packetReassembler.addFragments
        (arrivals.map (fun arriving => fragmentOf video arriving.label))).1).1 := by
  induction arrivals generalizing self with
  | nil => rfl
  | cons arriving arrivals ih =>
      have handed := segment_is_handed_over low known (video arriving.label.1) arriving.label.1
        arriving.label.2 arriving.holds arriving.stands_label
      have behind := ih (self.handle [(video arriving.label.1).handedSegment arriving.label.1
        arriving.label.2]).2
      rw [List.map_cons, addFragments_cons, process_append]
      unfold VideoReceiver.receive
      rw [handed]
      change _ ++ (VideoReceiver.receive _ streams arrivals).1 = _
      rw [behind, handle_segment]
      unfold fragmentOf
      dsimp only
      generalize self.packetReassembler.addFragment _ = added
      rw [process_packetReassembler (self.processIncomingVideoFrames added.1).2 added.2]

/-! ### What a sender has sent -/

open LabelledMachine

/-- The frame that a step sends, unless it is dropped. -/
def sentFrame (transition : Transition VideoSender VideoEvent Bytes) : Option VideoFrame :=
  match transition.label with
  | .frame frame => if transition.source.drops frame then none else some frame
  | .requestKeyFrame => none

def sentFrames (taken : List (Transition VideoSender VideoEvent Bytes)) : List VideoFrame :=
  taken.filterMap sentFrame

def numbered (frames : List VideoFrame) : List (BitVec 32 × VideoFrame) :=
  frames.zipIdx.map (fun (frame, number) => (BitVec.ofNat 32 number, frame))

def packetsOf (streamID : UInt8) (frames : List VideoFrame) : List Bytes :=
  (numbered frames).flatMap (fun (pts, frame) => VideoSender.packets streamID pts frame)

theorem packetsOf_snoc (streamID : UInt8) (frames : List VideoFrame) (frame : VideoFrame) :
    packetsOf streamID (frames ++ [frame]) = packetsOf streamID frames ++
      VideoSender.packets streamID (BitVec.ofNat 32 frames.length) frame := by
  unfold packetsOf numbered
  rw [List.zipIdx_append, List.map_append, List.flatMap_append, List.zipIdx_singleton,
    List.map_singleton, List.flatMap_cons, List.flatMap_nil, List.append_nil, Nat.zero_add]

structure Sent (streamID : UInt8) (taken : List (Transition VideoSender VideoEvent Bytes))
    (sender : VideoSender) : Prop where
  stream : sender.streamID = streamID
  count : sender.videoFrameCount = BitVec.ofNat 32 (sentFrames taken).length
  packets : history taken = packetsOf streamID (sentFrames taken)

theorem Sent.quiet {streamID : UInt8} {taken : List (Transition VideoSender VideoEvent Bytes)}
    {sender target : VideoSender} {event : VideoEvent} (sent : Sent streamID taken sender)
    (none : sentFrame ⟨sender, event, [], target⟩ = none)
    (sameID : target.streamID = sender.streamID)
    (sameCount : target.videoFrameCount = sender.videoFrameCount) :
    Sent streamID (taken ++ [⟨sender, event, [], target⟩]) target := by
  have frames : sentFrames (taken ++ [⟨sender, event, [], target⟩]) = sentFrames taken := by
    unfold sentFrames
    rw [List.filterMap_append, List.filterMap_cons, none, List.filterMap_nil]
    exact List.append_nil _
  exact
    { stream := sameID.trans sent.stream
      count := by
        rw [frames, sameCount]
        exact sent.count
      packets := by
        rw [frames, history_append]
        exact (List.append_nil _).trans sent.packets }

theorem Sent.frame {streamID : UInt8} {taken : List (Transition VideoSender VideoEvent Bytes)}
    {sender target : VideoSender} {frame : VideoFrame} (sent : Sent streamID taken sender)
    {output : List Bytes}
    (some : sentFrame ⟨sender, .frame frame, output, target⟩ = some frame)
    (written : output = VideoSender.packets sender.streamID sender.videoFrameCount frame)
    (sameID : target.streamID = sender.streamID)
    (counted : target.videoFrameCount = sender.videoFrameCount + 1) :
    Sent streamID (taken ++ [⟨sender, .frame frame, output, target⟩]) target := by
  have frames : sentFrames (taken ++ [⟨sender, .frame frame, output, target⟩]) =
      sentFrames taken ++ [frame] := by
    unfold sentFrames
    rw [List.filterMap_append, List.filterMap_cons, some, List.filterMap_nil]
  exact
    { stream := sameID.trans sent.stream
      count := by
        rw [frames, counted, sent.count, List.length_append, BitVec.ofNat_add]
        rfl
      packets := by
        rw [frames, packetsOf_snoc, history_append, sent.packets, written, sent.stream, sent.count]
        exact congrArg (_ ++ ·) (List.append_nil _) }

theorem sent_run {streamID : UInt8} {low : streamID < 64}
    {taken : List (Transition VideoSender VideoEvent Bytes)} {sender : VideoSender}
    (run : Run VideoSender.step (VideoSender.create streamID low) taken sender) :
    Sent streamID taken sender := by
  have always : ∀ transition ∈ taken, True := fun _ _ => trivial
  apply Run.invariant _ _ run always
  · exact ⟨rfl, rfl, rfl⟩
  · intro taken source label output target _ sent stepped _
    cases label with
    | requestKeyFrame =>
        cases stepped
        exact sent.quiet rfl rfl rfl
    | frame frame =>
        change some (source.sendVideoFrame frame) = _ at stepped
        unfold VideoSender.sendVideoFrame at stepped
        by_cases drops : source.drops frame = true
        · rw [if_pos drops] at stepped
          cases stepped
          exact sent.quiet (if_pos drops) rfl rfl
        · rw [if_neg drops] at stepped
          cases stepped
          exact sent.frame (if_neg drops) rfl rfl rfl

def videoOf (frames : List VideoFrame) (pts : BitVec 32) : VideoFrame :=
  frames[pts.toNat]?.getD ⟨[], false⟩

def labelsOf (frames : List VideoFrame) : List Label :=
  (numbered frames).flatMap (fun (pts, frame) =>
    (List.range frame.segmentCount).map (fun seg => (pts, seg)))

section Labels

variable {frames : List VideoFrame}

/-- As long as the numbers do not wrap, a number belongs to one frame. -/
theorem numbered_video (few : frames.length ≤ 2 ^ 32) {pts : BitVec 32} {frame : VideoFrame}
    (member : (pts, frame) ∈ numbered frames) :
    videoOf frames pts = frame ∧ pts.toNat < frames.length := by
  obtain ⟨⟨known, number⟩, found, same⟩ := List.mem_map.mp member
  obtain ⟨rfl, rfl⟩ := Prod.mk.inj same
  have inside := List.mem_zipIdx' found
  have back : (BitVec.ofNat 32 number).toNat = number := by
    rw [BitVec.toNat_ofNat]
    exact Nat.mod_eq_of_lt (Nat.lt_of_lt_of_le inside.1 few)
  unfold videoOf
  rw [back, List.getElem?_eq_getElem inside.1]
  exact ⟨inside.2.symm, inside.1⟩

theorem packetsOf_labels (few : frames.length ≤ 2 ^ 32) (streamID : UInt8) :
    packetsOf streamID frames = (labelsOf frames).map (writeLabel (videoOf frames) streamID) := by
  unfold packetsOf labelsOf
  rw [List.map_flatMap]
  apply List.flatMap_congr
  rintro ⟨pts, frame⟩ member
  dsimp only
  rw [List.map_map]
  apply List.map_congr_left
  intro seg _
  change frame.writeSegment streamID pts seg =
    (videoOf frames pts).writeSegment streamID pts seg
  rw [(numbered_video few member).1]

theorem label_inside (few : frames.length ≤ 2 ^ 32) {label : Label}
    (member : label ∈ labelsOf frames) :
    label.2 < (videoOf frames label.1).segmentCount := by
  obtain ⟨⟨pts, frame⟩, known, found⟩ := List.mem_flatMap.mp member
  obtain ⟨seg, below, rfl⟩ := List.mem_map.mp found
  rw [(numbered_video few known).1]
  exact List.mem_range.mp below

theorem numbered_distinct (few : frames.length ≤ 2 ^ 32) :
    ((numbered frames).map Prod.fst).Nodup := by
  have numbers : (numbered frames).map Prod.fst =
      (List.range frames.length).map (BitVec.ofNat 32) := by
    have second := frames.zipIdx_map_snd 0
    rw [← List.range_eq_range'] at second
    unfold numbered
    rw [← second, List.map_map, List.map_map]
    rfl
  rw [numbers]
  refine List.Nodup.map_on ?_ List.nodup_range
  intro first firstMember second secondMember same
  have numbers := congrArg BitVec.toNat same
  rw [BitVec.toNat_ofNat, BitVec.toNat_ofNat,
    Nat.mod_eq_of_lt (Nat.lt_of_lt_of_le (List.mem_range.mp firstMember) few),
    Nat.mod_eq_of_lt (Nat.lt_of_lt_of_le (List.mem_range.mp secondMember) few)] at numbers
  exact numbers

theorem labels_distinct (few : frames.length ≤ 2 ^ 32) : (labelsOf frames).Nodup := by
  unfold labelsOf
  rw [List.nodup_flatMap]
  constructor
  · rintro ⟨pts, frame⟩ _
    exact List.nodup_range.map (fun _ _ same => (Prod.mk.inj same).2)
  · have distinct := numbered_distinct few
    unfold List.Nodup at distinct
    rw [List.pairwise_map] at distinct
    apply distinct.imp
    intro first second different label firstMember secondMember
    obtain ⟨_, _, rfl⟩ := List.mem_map.mp firstMember
    obtain ⟨_, _, same⟩ := List.mem_map.mp secondMember
    exact different (Prod.mk.inj same).1.symm

theorem video_few (small : ∀ frame ∈ frames, frame.segmentCount ≤ 255) (pts : BitVec 32) :
    (videoOf frames pts).segmentCount ≤ 255 := by
  unfold videoOf
  cases found : frames[pts.toNat]? with
  | none => exact Nat.zero_le _
  | some frame => exact small frame (List.mem_of_getElem? found)

theorem arriving_arrived (few : frames.length ≤ 2 ^ 32)
    (small : ∀ frame ∈ frames, frame.segmentCount ≤ 255) {write : Label → Bytes}
    (arrivals : List (Arriving ((labelsOf frames).map write)))
    (once : (arrivals.map Arriving.position).Nodup) :
    Arrived (videoOf frames) (arrivals.map Arriving.label) where
  few := video_few small
  distinct := by
    have labels : arrivals.map Arriving.label = (arrivals.map Arriving.position).map
        (fun position => (labelsOf frames).get (position.cast (List.length_map write))) := by
      rw [List.map_map]
      rfl
    rw [labels]
    refine List.Nodup.map_on ?_ once
    intro first _ second _ same
    have places := List.nodup_iff_injective_get.mp (labels_distinct few) same
    have numbers := congrArg Fin.val places
    exact Fin.ext numbers
  inside := by
    intro label member
    obtain ⟨arriving, _, rfl⟩ := List.mem_map.mp member
    exact label_inside few (List.get_mem _ _)

end Labels

/-- Whatever packets of a video stream arrive, each at most once, and in
whatever order: the renderer is given frames that were sent, each at most
once, and none but key frames behind a gap. -/
theorem shown_frames_were_sent {streamID : UInt8} {low : streamID < 64}
    {taken : List (Transition VideoSender VideoEvent Bytes)} {sender : VideoSender}
    (run : Run VideoSender.step (VideoSender.create streamID low) taken sender)
    (few : (sentFrames taken).length ≤ 2 ^ 32)
    (small : ∀ frame ∈ sentFrames taken, frame.segmentCount ≤ 255)
    {streams : List Stream} (known : streamOf streams streamID = some (.video true))
    (currentTimestamp : BitVec 32) (currentIsKeyframe : Bool)
    (arrivals : List (Arriving (history taken)))
    (once : (arrivals.map Arriving.position).Nodup) :
    ∃ kept : List Assembled,
      ((VideoReceiver.create (.create currentTimestamp currentIsKeyframe)).receive streams
        arrivals).1 = kept.map Assembled.shown ∧
      (∀ frame ∈ kept, ∃ sent, (sentFrames taken)[frame.pts.toNat]? = some sent ∧
        frame = sent.assembled frame.pts) ∧
      (kept.map Assembled.pts).Nodup ∧ kept.IsChain Continues := by
  have packets := (sent_run run).packets.trans (packetsOf_labels few streamID)
  revert arrivals once
  rw [packets]
  intro arrivals once
  have whole := handed_frames_have_arrived (arriving_arrived few small arrivals once)
    currentTimestamp currentIsKeyframe
  rw [List.map_map] at whole
  have shown := receive_eq low known
    (VideoReceiver.create (.create currentTimestamp currentIsKeyframe)) arrivals
  obtain ⟨kept, among, chosen, _, chain⟩ := shown_chain
    (VideoReceiver.create (.create currentTimestamp currentIsKeyframe)) _
  refine ⟨kept, shown.trans chosen, ?_, (among.map _).nodup whole.once, chain⟩
  intro frame member
  have handed := among.subset member
  have same := whole.frames frame handed
  have some := whole.some frame handed
  unfold videoOf at same some
  cases found : (sentFrames taken)[frame.pts.toNat]? with
  | none =>
      rw [found] at some
      exact absurd some (Nat.lt_irrefl 0)
  | some sent =>
      rw [found] at same
      exact ⟨sent, rfl, same⟩

def sampleFrame : VideoFrame := ⟨[1, 2, 3], true⟩

theorem sampleID_low : (2 : UInt8) < 64 := by decide

def sampleSender : VideoSender := .create 2 sampleID_low

def sampleSent : List (Transition VideoSender VideoEvent Bytes) :=
  [⟨sampleSender, .frame sampleFrame, (sampleSender.sendVideoFrame sampleFrame).1,
    (sampleSender.sendVideoFrame sampleFrame).2⟩]

theorem sample_frame_was_sent :
    ∃ kept : List Assembled,
      ((VideoReceiver.create (.create 7 false)).receive [⟨2, .video true⟩]
        [Arriving.plain (history sampleSent) ⟨0, Nat.succ_pos 0⟩]).1 = kept.map Assembled.shown ∧
      (∀ frame ∈ kept, ∃ sent, (sentFrames sampleSent)[frame.pts.toNat]? = some sent ∧
        frame = sent.assembled frame.pts) ∧
      (kept.map Assembled.pts).Nodup ∧ kept.IsChain Continues := by
  have run : Run VideoSender.step sampleSender sampleSent
      (sampleSender.sendVideoFrame sampleFrame).2 := Run.nil.snoc rfl
  have frames : sentFrames sampleSent = [sampleFrame] := rfl
  apply shown_frames_were_sent run _ _ rfl 7 false
  · exact List.nodup_singleton _
  · rw [frames]
    exact Nat.one_le_two_pow
  · rw [frames, List.forall_mem_singleton]
    decide

/-- The packets of a frame, in whatever order, show the frame once, whatever
came before; only a gap before a frame that is no key frame keeps it back. -/
theorem whole_frame_is_shown {streamID : UInt8} (low : streamID < 64) {streams : List Stream}
    (known : streamOf streams streamID = some (.video true)) {frame : VideoFrame}
    (few : frame.segmentCount ≤ 255) (some : frame.data ≠ []) {pts : BitVec 32}
    {receiver : VideoReceiver} (other : pts ≠ receiver.packetReassembler.currentTimestamp)
    (arrivals : List (Arriving (VideoSender.packets streamID pts frame)))
    (all : (arrivals.map Arriving.position).Perm (List.finRange _)) :
    (receiver.receive streams arrivals).1 =
      if receiver.continues (frame.assembled pts) then [⟨frame.data, pts⟩] else [] := by
  have packets : VideoSender.packets streamID pts frame =
      ((List.range frame.segmentCount).map (fun seg => (pts, seg))).map
        (writeLabel (fun _ => frame) streamID) := by
    rw [List.map_map]
    rfl
  revert arrivals all
  rw [packets]
  intro arrivals all
  have labels : ∀ arriving ∈ arrivals, arriving.label = (pts, arriving.position.val) := by
    intro arriving _
    unfold Arriving.label
    rw [List.get_eq_getElem, List.getElem_map, List.getElem_range]
    rfl
  have fragments : arrivals.map (fun arriving => fragmentOf (fun _ => frame) arriving.label) =
      (arrivals.map (fun arriving => arriving.position.val)).map (frame.fragment pts) := by
    refine Eq.trans (List.map_congr_left ?_) List.map_map.symm
    intro arriving member
    rw [labels arriving member]
    rfl
  have order : (arrivals.map (fun arriving => arriving.position.val)).Perm
      (List.range frame.segmentCount) := by
    have perm := all.map Fin.val
    rw [List.map_map, List.map_coe_finRange_eq_range] at perm
    refine perm.trans (List.Perm.of_eq (congrArg List.range ?_))
    rw [List.length_map, List.length_map, List.length_range]
  rw [receive_eq low known, fragments, frame_is_reassembled few some other order]
  change (receiver.processIncomingVideoFrame (frame.assembled pts)).1 ++ [] = _
  unfold VideoReceiver.processIncomingVideoFrame
  by_cases continues : receiver.continues (frame.assembled pts) = true
  · rw [if_pos continues, if_pos continues]
    rfl
  · rw [if_neg continues, if_neg continues]
    rfl

theorem sample_frame_is_shown :
    ((VideoReceiver.create (.create 7 false)).receive [⟨2, .video true⟩]
      [Arriving.plain (VideoSender.packets 2 0 sampleFrame) ⟨0, Nat.succ_pos 0⟩]).1 =
        [⟨[1, 2, 3], 0⟩] :=
  whole_frame_is_shown (by decide) rfl (by decide) (List.cons_ne_nil _ _) (by decide) _ (.refl _)

end Tg2Sip.Voip
