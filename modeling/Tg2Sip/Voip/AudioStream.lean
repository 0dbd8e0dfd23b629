/-
An audio stream, from `HandleAudioInput` to the jitter buffer.

Every piece that is sent has a time of its own, and in a bad network a packet
also carries copies of the newest pieces.  The copies carry no times: the
receiver counts them back from the time of the packet, so that they are right
only when the pieces in between were kept as well.  A sender that cannot get
its packets out drops its pieces, but clears the queue in the end.
-/

import Tg2Sip.Lib.Run
import Tg2Sip.Voip.HistoricBuffer
import Tg2Sip.Voip.StreamData

namespace Tg2Sip.Voip

open RecentValues (newest)

/-- What `HandleAudioInput` finds as other functions have left it. -/
structure AudioSettings where
  stopping : Bool
  videoSource : Bool
  maxUnsentStreamPackets : BitVec 32
  waitingForAcks : Bool
  dontSendPackets : Int
  receivedInitAck : Bool
  peerVersion : Int
  shittyInternetMode : Bool
  extraEcLevel : Nat
  deriving DecidableEq, Repr

structure AudioSender where
  streamID : UInt8
  frameDuration : BitVec 16
  unsentStreamPackets : BitVec 32
  unsentStreamPacketsHistory : HistoricBuffer (BitVec 32) 5
  ecAudioPackets : List Bytes
  audioTimestampOut : BitVec 32

inductive AudioOutput where
  | clearSendQueue
  | streamData (packet : Bytes)
  | streamEc (packet : Bytes)
  deriving DecidableEq, Repr

/-- `drained` is any change that other functions make to the counter. -/
inductive AudioEvent where
  | input (settings : AudioSettings) (data secondary : Bytes)
  | drained (unsentStreamPackets : BitVec 32)
  deriving DecidableEq, Repr

namespace AudioSender

def create (streamID : UInt8) (frameDuration : BitVec 16) (audioTimestampOut : BitVec 32) :
    AudioSender :=
  { streamID := streamID
    frameDuration := frameDuration
    unsentStreamPackets := 0
    unsentStreamPacketsHistory := .create (Nat.succ_pos 4)
    ecAudioPackets := []
    audioTimestampOut := audioTimestampOut }

/-- The counter is noted; a queue that has been full for long is given up. -/
def note (self : AudioSender) (settings : AudioSettings) : List AudioOutput × AudioSender :=
  let history := self.unsentStreamPacketsHistory.add self.unsentStreamPackets
  if history.average ≥ settings.maxUnsentStreamPackets ∧ settings.videoSource = false then
    ([.clearSendQueue],
      { self with
        unsentStreamPacketsHistory := history.reset
        unsentStreamPackets := 0 })
  else ([], { self with unsentStreamPacketsHistory := history })

def stalled (self : AudioSender) (settings : AudioSettings) : Bool :=
  decide (self.unsentStreamPackets ≥ settings.maxUnsentStreamPackets)

def heldBack (self : AudioSender) (settings : AudioSettings) : Bool :=
  settings.waitingForAcks || decide (settings.dontSendPackets > 0) || self.stalled settings

/-- Both kinds of peers are sent copies only then. -/
def hasCopy (settings : AudioSettings) (secondary : Bytes) : Bool :=
  !secondary.isEmpty && settings.shittyInternetMode

def keep (self : AudioSender) (settings : AudioSettings) (secondary : Bytes) : List Bytes :=
  if hasCopy settings secondary then newest 4 (self.ecAudioPackets ++ [secondary])
  else self.ecAudioPackets

def packets (self : AudioSender) (settings : AudioSettings) (data secondary : Bytes) :
    List AudioOutput :=
  let copies := newest settings.extraEcLevel (self.keep settings secondary)
  if hasCopy settings secondary then
    if settings.peerVersion ≥ 7 then
      [.streamData (writeAudio data self.audioTimestampOut (some copies))]
    else
      [.streamData (writeAudio data self.audioTimestampOut none),
        .streamEc (writeStreamEc self.streamID self.audioTimestampOut copies)]
  else [.streamData (writeAudio data self.audioTimestampOut none)]

def send (self : AudioSender) (settings : AudioSettings) (data secondary : Bytes) :
    List AudioOutput × AudioSender :=
  (self.packets settings data secondary,
    { self with
      unsentStreamPackets := self.unsentStreamPackets + 1
      ecAudioPackets := self.keep settings secondary
      audioTimestampOut := self.audioTimestampOut + self.frameDuration.setWidth 32 })

def sends (self : AudioSender) (settings : AudioSettings) : Bool :=
  !settings.stopping && !(self.note settings).2.heldBack settings && settings.receivedInitAck

def handleAudioInput (self : AudioSender) (settings : AudioSettings) (data secondary : Bytes) :
    List AudioOutput × AudioSender :=
  if settings.stopping then ([], self)
  else
    let (cleared, self) := self.note settings
    if self.heldBack settings || !settings.receivedInitAck then (cleared, self)
    else
      let (packets, self) := self.send settings data secondary
      (cleared ++ packets, self)

def step : LabelledMachine.Step AudioSender AudioEvent AudioOutput
  | self, .input settings data secondary => some (self.handleAudioInput settings data secondary)
  | self, .drained unsentStreamPackets =>
      some ([], { self with unsentStreamPackets := unsentStreamPackets })

end AudioSender

open LabelledMachine

abbrev AudioTransition := Transition AudioSender AudioEvent AudioOutput

def countStall (count : Nat) (transition : AudioTransition) : Nat :=
  match transition.label with
  | .drained _ => count
  | .input settings _ _ =>
      if settings.stopping then count
      else if (transition.source.note settings).2.stalled settings then count + 1
      else 0

def stalledInARow (taken : List AudioTransition) : Nat := taken.foldl countStall 0

/-- The limit stays as it is, and the counter counts packets that exist. -/
def Plain (limit : BitVec 32) (transition : AudioTransition) : Prop :=
  ∀ settings data secondary, transition.label = .input settings data secondary →
    settings.videoSource = false ∧ settings.maxUnsentStreamPackets = limit ∧
      transition.source.unsentStreamPackets.toNat < 2 ^ 29

theorem sum_toNat {values : List (BitVec 32)} (few : values.length ≤ 5)
    (small : ∀ value ∈ values, value.toNat < 2 ^ 29) :
    values.sum.toNat = (values.map BitVec.toNat).sum ∧
      (values.map BitVec.toNat).sum ≤ values.length * 2 ^ 29 := by
  induction values with
  | nil => exact ⟨rfl, Nat.le_refl 0⟩
  | cons value values ih =>
      rw [List.length_cons] at few
      rw [List.forall_mem_cons] at small
      obtain ⟨same, bound⟩ := ih (Nat.le_of_succ_le few) small.2
      rw [List.sum_cons, List.map_cons, List.sum_cons, List.length_cons, BitVec.toNat_add, same]
      omega

theorem sum_ge {limit : BitVec 32} {values : List (BitVec 32)}
    (full : ∀ value ∈ values, limit ≤ value) :
    values.length * limit.toNat ≤ (values.map BitVec.toNat).sum := by
  induction values with
  | nil => exact Nat.le_of_eq (Nat.zero_mul _)
  | cons value values ih =>
      rw [List.forall_mem_cons] at full
      have most := ih full.2
      have first : limit.toNat ≤ value.toNat := full.1
      rw [List.length_cons, List.map_cons, List.sum_cons, Nat.succ_mul]
      omega

theorem average_ge {history : HistoricBuffer (BitVec 32) 5} {values : List (BitVec 32)}
    (shows : RecentValues.Ring.Shows history 0 values) {limit : BitVec 32}
    (enough : 5 ≤ values.length) (full : ∀ value ∈ values.take 5, limit ≤ value)
    (small : ∀ value ∈ values.take 5, value.toNat < 2 ^ 29) : history.average ≥ limit := by
  have five : (values.take 5).length = 5 := by
    rw [List.length_take]
    exact Nat.min_eq_left enough
  obtain ⟨same, _⟩ := sum_toNat (Nat.le_of_eq five) small
  have most := sum_ge full
  rw [five] at most
  rw [average_eq, shows.sum, ge_iff_le, BitVec.le_def, BitVec.toNat_udiv, same]
  change limit.toNat ≤ (List.map BitVec.toNat (values.take 5)).sum / 5
  omega

/-- The newest values of the history belong to the stalls in a row. -/
structure Stalls (limit : BitVec 32) (count : Nat) (sender : AudioSender)
    (values : List (BitVec 32)) : Prop where
  shows : RecentValues.Ring.Shows sender.unsentStreamPacketsHistory 0 values
  few : count ≤ 4
  enough : count ≤ values.length
  full : ∀ value ∈ values.take count, limit ≤ value
  small : ∀ value ∈ values.take count, value.toNat < 2 ^ 29

variable {limit : BitVec 32} {count : Nat} {sender target : AudioSender} {values : List (BitVec 32)}
  {settings : AudioSettings}

theorem stalls_none (shows : RecentValues.Ring.Shows sender.unsentStreamPacketsHistory 0 values) :
    Stalls limit 0 sender values where
  shows := shows
  few := Nat.zero_le 4
  enough := Nat.zero_le _
  full := fun _ member => absurd member List.not_mem_nil
  small := fun _ member => absurd member List.not_mem_nil

theorem Stalls.keeps (stalls : Stalls limit count sender values)
    (same : target.unsentStreamPacketsHistory = sender.unsentStreamPacketsHistory) :
    Stalls limit count target values where
  shows := by
    rw [same]
    exact stalls.shows
  few := stalls.few
  enough := stalls.enough
  full := stalls.full
  small := stalls.small

/-- A fifth stall in a row would find the average at the limit. -/
theorem Stalls.more (stalls : Stalls limit count sender values)
    {history : HistoricBuffer (BitVec 32) 5} {unsent : BitVec 32}
    (added : RecentValues.Ring.Shows history 0 (unsent :: values))
    (above : limit ≤ unsent) (small : unsent.toNat < 2 ^ 29) (below : ¬ history.average ≥ limit) :
    Stalls limit (count + 1) { sender with unsentStreamPacketsHistory := history }
      (unsent :: values) where
  shows := added
  few := by
    by_contra many
    have four : count = 4 := by
      have few := stalls.few
      omega
    have enough := stalls.enough
    have full := stalls.full
    have smaller := stalls.small
    rw [four] at enough full smaller
    apply below
    apply average_ge added (Nat.succ_le_succ enough)
    · rw [List.take_succ_cons, List.forall_mem_cons]
      exact ⟨above, full⟩
    · rw [List.take_succ_cons, List.forall_mem_cons]
      exact ⟨small, smaller⟩
  enough := Nat.succ_le_succ stalls.enough
  full := by
    rw [List.take_succ_cons, List.forall_mem_cons]
    exact ⟨above, stalls.full⟩
  small := by
    rw [List.take_succ_cons, List.forall_mem_cons]
    exact ⟨small, stalls.small⟩

theorem note_stalls (positive : 0 < limit) (video : settings.videoSource = false)
    (same : settings.maxUnsentStreamPackets = limit)
    (small : sender.unsentStreamPackets.toNat < 2 ^ 29)
    (stalls : Stalls limit count sender values) :
    ∃ later, Stalls limit (if (sender.note settings).2.stalled settings then count + 1 else 0)
      (sender.note settings).2 later := by
  have added := stalls.shows.put sender.unsentStreamPackets
  unfold AudioSender.note
  dsimp only
  by_cases resets : (sender.unsentStreamPacketsHistory.add
      sender.unsentStreamPackets).average ≥ settings.maxUnsentStreamPackets ∧
        settings.videoSource = false
  · rw [if_pos resets]
    have low : AudioSender.stalled { sender with
        unsentStreamPacketsHistory := (sender.unsentStreamPacketsHistory.add
          sender.unsentStreamPackets).reset
        unsentStreamPackets := 0 } settings = false := by
      apply decide_eq_false
      rw [same]
      exact BitVec.not_le.mpr positive
    rw [low]
    exact ⟨[], stalls_none (RecentValues.Ring.shows_fill 0 _)⟩
  · rw [if_neg resets]
    dsimp only
    by_cases high : AudioSender.stalled { sender with
        unsentStreamPacketsHistory := sender.unsentStreamPacketsHistory.add
          sender.unsentStreamPackets } settings = true
    · rw [if_pos high]
      have above := of_decide_eq_true high
      rw [same] at above resets
      have below := fun average => resets ⟨average, video⟩
      exact ⟨_, stalls.more added above small below⟩
    · rw [if_neg high]
      exact ⟨_, stalls_none added⟩

theorem handle_history (sender : AudioSender) (settings : AudioSettings) (data secondary : Bytes) :
    (sender.handleAudioInput settings data secondary).2.unsentStreamPacketsHistory =
      if settings.stopping then sender.unsentStreamPacketsHistory
      else (sender.note settings).2.unsentStreamPacketsHistory := by
  unfold AudioSender.handleAudioInput
  by_cases stopping : settings.stopping = true
  · rw [if_pos stopping, if_pos stopping]
  · rw [if_neg stopping, if_neg stopping]
    dsimp only
    split
    · rfl
    · rfl

/-- With one limit and without video, at most four pieces in a row are dropped
because the queue is full: the next one is sent, or finds the queue cleared. -/
theorem stalls_are_broken {start : AudioSender} {taken : List AudioTransition}
    {sender : AudioSender} (fresh : start.unsentStreamPacketsHistory = .create (Nat.succ_pos 4))
    (run : Run AudioSender.step start taken sender) (positive : 0 < limit)
    (plain : ∀ transition ∈ taken, Plain limit transition) : stalledInARow taken ≤ 4 := by
  have held : ∃ values, Stalls limit (stalledInARow taken) sender values := by
    apply Run.invariant _ _ run plain
    · refine ⟨[], stalls_none ?_⟩
      rw [fresh]
      exact RecentValues.Ring.shows_fill 0 _
    · intro taken source label output target _ stalls stepped plain
      obtain ⟨values, stalls⟩ := stalls
      unfold stalledInARow at stalls ⊢
      rw [List.foldl_append, List.foldl_cons, List.foldl_nil]
      cases label with
      | drained unsent =>
          cases stepped
          exact ⟨values, stalls.keeps rfl⟩
      | input settings data secondary =>
          change some (source.handleAudioInput settings data secondary) = _ at stepped
          have reached := congrArg Prod.snd (Option.some.inj stepped)
          obtain ⟨video, same, small⟩ := plain settings data secondary rfl
          have history := handle_history source settings data secondary
          rw [reached] at history
          unfold countStall
          dsimp only
          by_cases stopping : settings.stopping = true
          · rw [if_pos stopping] at history ⊢
            exact ⟨values, stalls.keeps history⟩
          · rw [if_neg stopping] at history ⊢
            obtain ⟨later, stalls⟩ := note_stalls positive video same small stalls
            exact ⟨later, stalls.keeps history⟩
  obtain ⟨_, stalls⟩ := held
  exact stalls.few

def sampleSettings : AudioSettings :=
  { stopping := false
    videoSource := false
    maxUnsentStreamPackets := 2
    waitingForAcks := false
    dontSendPackets := 0
    receivedInitAck := true
    peerVersion := 9
    shittyInternetMode := true
    extraEcLevel := 2 }

def sampleVoice : AudioSender := .create 1 60 0

def sampleFull : AudioSender := { sampleVoice with unsentStreamPackets := 2 }

def sampleStall : List AudioTransition :=
  [⟨sampleVoice, .drained 2, [], sampleFull⟩,
    ⟨sampleFull, .input sampleSettings [1] [],
      (sampleFull.handleAudioInput sampleSettings [1] []).1, (sampleFull.handleAudioInput sampleSettings [1] []).2⟩]

theorem sample_stall_is_broken : stalledInARow sampleStall ≤ 4 := by
  have filled : Run AudioSender.step sampleVoice [⟨sampleVoice, .drained 2, [], sampleFull⟩]
      sampleFull := Run.nil.snoc rfl
  have run : Run AudioSender.step sampleVoice sampleStall
      (sampleFull.handleAudioInput sampleSettings [1] []).2 := filled.snoc rfl
  apply stalls_are_broken rfl run (by decide : (0 : BitVec 32) < 2)
  intro transition member settings data secondary same
  unfold sampleStall at member
  rw [List.mem_cons, List.mem_singleton] at member
  rcases member with rfl | rfl
  · cases same
  · cases same
    exact ⟨rfl, rfl, by decide⟩

/-! ### Times -/

/-- A piece that was sent: its time, its data and what was kept as its copy. -/
structure Piece where
  time : BitVec 32
  data : Bytes
  copy : Option Bytes
  deriving DecidableEq, Repr

def pieceOf (time : BitVec 32) (settings : AudioSettings) (data secondary : Bytes) : Piece :=
  { time := time
    data := data
    copy := if AudioSender.hasCopy settings secondary then some secondary else none }

def sentPiece (transition : AudioTransition) : Option Piece :=
  match transition.label with
  | .drained _ => none
  | .input settings data secondary =>
      if transition.source.sends settings then
        some (pieceOf transition.source.audioTimestampOut settings data secondary)
      else none

def sentPieces (taken : List AudioTransition) : List Piece := taken.filterMap sentPiece

def timeOf (start : AudioSender) (count : Nat) : BitVec 32 :=
  start.audioTimestampOut + BitVec.ofNat 32 count * start.frameDuration.setWidth 32

structure Keeps (start : AudioSender) (pieces : List Piece) (sender : AudioSender) : Prop where
  streamID : sender.streamID = start.streamID
  frameDuration : sender.frameDuration = start.frameDuration
  time : sender.audioTimestampOut = timeOf start pieces.length
  times : ∀ index, ∀ piece ∈ pieces[index]?, piece.time = timeOf start index
  copies : sender.ecAudioPackets = newest 4 (pieces.filterMap Piece.copy)

variable {start : AudioSender} {pieces : List Piece} {data secondary : Bytes}

theorem timeOf_add (start : AudioSender) (count later : Nat) :
    timeOf start (count + later) =
      timeOf start count + BitVec.ofNat 32 later * start.frameDuration.setWidth 32 := by
  unfold timeOf
  rw [BitVec.ofNat_add, add_mul, ← add_assoc]

theorem timeOf_succ (start : AudioSender) (count : Nat) :
    timeOf start (count + 1) = timeOf start count + start.frameDuration.setWidth 32 := by
  rw [timeOf_add]
  congr 1
  exact one_mul _

/-- Nothing that the pieces depend on is changed. -/
structure SameVoice (sender target : AudioSender) : Prop where
  streamID : target.streamID = sender.streamID
  frameDuration : target.frameDuration = sender.frameDuration
  time : target.audioTimestampOut = sender.audioTimestampOut
  copies : target.ecAudioPackets = sender.ecAudioPackets

theorem note_voice (sender : AudioSender) (settings : AudioSettings) :
    SameVoice sender (sender.note settings).2 := by
  unfold AudioSender.note
  dsimp only
  split
  · exact ⟨rfl, rfl, rfl, rfl⟩
  · exact ⟨rfl, rfl, rfl, rfl⟩

theorem SameVoice.keep (same : SameVoice sender target) (settings : AudioSettings)
    (secondary : Bytes) : target.keep settings secondary = sender.keep settings secondary := by
  unfold AudioSender.keep
  rw [same.copies]

theorem Keeps.voice (keeps : Keeps start pieces sender)
    (same : SameVoice sender target) : Keeps start pieces target where
  streamID := same.streamID.trans keeps.streamID
  frameDuration := same.frameDuration.trans keeps.frameDuration
  time := same.time.trans keeps.time
  times := keeps.times
  copies := same.copies.trans keeps.copies

theorem Keeps.keep (keeps : Keeps start pieces sender) (settings : AudioSettings)
    (data secondary : Bytes) :
    sender.keep settings secondary = newest 4 ((pieces ++
      [pieceOf sender.audioTimestampOut settings data secondary]).filterMap Piece.copy) := by
  unfold AudioSender.keep pieceOf
  rw [List.filterMap_append, keeps.copies]
  by_cases copied : AudioSender.hasCopy settings secondary = true
  · rw [if_pos copied, if_pos copied]
    exact RecentValues.newest_newest (Nat.le_add_right 4 _)
  · rw [if_neg copied, if_neg copied]
    exact congrArg (newest 4) (List.append_nil _).symm

theorem Keeps.send (keeps : Keeps start pieces sender) (settings : AudioSettings)
    (data secondary : Bytes) :
    Keeps start (pieces ++ [pieceOf sender.audioTimestampOut settings data secondary])
      (sender.send settings data secondary).2 where
  streamID := keeps.streamID
  frameDuration := keeps.frameDuration
  time := by
    rw [List.length_append]
    change sender.audioTimestampOut + sender.frameDuration.setWidth 32 = timeOf start (_ + 1)
    rw [timeOf_succ, keeps.time, keeps.frameDuration]
  times := by
    intro index piece found
    by_cases known : index < pieces.length
    · rw [List.getElem?_append_left known] at found
      exact keeps.times index piece found
    · rw [List.getElem?_append_right (Nat.le_of_not_lt known)] at found
      obtain ⟨first, same⟩ := List.getElem?_eq_some_iff.mp found
      rw [List.length_singleton] at first
      have last : index = pieces.length := by omega
      rw [List.getElem_singleton] at same
      rw [← same, last]
      exact keeps.time
  copies := keeps.keep settings data secondary

theorem handle_sends (sends : sender.sends settings = true) (data secondary : Bytes) :
    sender.handleAudioInput settings data secondary =
      ((sender.note settings).1 ++ (sender.note settings).2.packets settings data secondary,
        ((sender.note settings).2.send settings data secondary).2) := by
  unfold AudioSender.sends at sends
  rw [Bool.and_eq_true, Bool.and_eq_true, Bool.not_eq_true', Bool.not_eq_true'] at sends
  obtain ⟨⟨running, free⟩, ready⟩ := sends
  unfold AudioSender.handleAudioInput
  rw [running, if_neg Bool.false_ne_true]
  dsimp only
  rw [free, ready, if_neg (by decide)]
  rfl

theorem handle_drops (drops : ¬ sender.sends settings = true) (data secondary : Bytes) :
    SameVoice sender (sender.handleAudioInput settings data secondary).2 := by
  unfold AudioSender.sends at drops
  unfold AudioSender.handleAudioInput
  by_cases stopping : settings.stopping = true
  · rw [if_pos stopping]
    exact ⟨rfl, rfl, rfl, rfl⟩
  · rw [if_neg stopping]
    dsimp only
    have held :
        ((sender.note settings).2.heldBack settings || !settings.receivedInitAck) = true := by
      rw [Bool.not_eq_true] at stopping
      rw [stopping] at drops
      cases free : (sender.note settings).2.heldBack settings with
      | true => rfl
      | false =>
          rw [free] at drops
          cases ready : settings.receivedInitAck with
          | true => exact absurd ready drops
          | false => rfl
    rw [if_pos held]
    exact note_voice sender settings

/-- Whatever happens, the sender keeps the newest copies and counts the time. -/
theorem keeps_run {taken : List AudioTransition} (fresh : start.ecAudioPackets = [])
    (run : Run AudioSender.step start taken sender) : Keeps start (sentPieces taken) sender := by
  have always : ∀ transition ∈ taken, True := fun _ _ => trivial
  apply Run.invariant _ _ run always
  · exact
      { streamID := rfl
        frameDuration := rfl
        time := by
          unfold timeOf
          change _ = _ + 0 * _
          rw [zero_mul, add_zero]
        times := fun _ _ found => (Option.not_mem_none _ found).elim
        copies := fresh }
  · intro taken source label output target _ keeps stepped _
    unfold sentPieces
    rw [List.filterMap_append]
    cases label with
    | drained unsent =>
        cases stepped
        rw [List.filterMap_cons_none rfl]
        rw [List.filterMap_nil, List.append_nil]
        exact keeps.voice ⟨rfl, rfl, rfl, rfl⟩
    | input settings data secondary =>
        change some (source.handleAudioInput settings data secondary) = _ at stepped
        have reached := congrArg Prod.snd (Option.some.inj stepped)
        dsimp only at reached
        rw [← reached]
        by_cases sends : source.sends settings = true
        · have piece : sentPiece ⟨source, .input settings data secondary, output,
              (source.handleAudioInput settings data secondary).2⟩ =
              some (pieceOf source.audioTimestampOut settings data secondary) := if_pos sends
          have sent := (keeps.voice (note_voice source settings)).send settings data secondary
          rw [(note_voice source settings).time] at sent
          rw [List.filterMap_cons_some piece, List.filterMap_nil, handle_sends sends]
          exact sent
        · have none : sentPiece ⟨source, .input settings data secondary, output,
              (source.handleAudioInput settings data secondary).2⟩ = none := if_neg sends
          rw [List.filterMap_cons_none none, List.filterMap_nil, List.append_nil]
          exact keeps.voice (handle_drops sends data secondary)

/-! ### What the jitter buffer is given -/

def AudioOutput.bytes : AudioOutput → Bytes
  | .clearSendQueue => []
  | .streamData packet => packet
  | .streamEc packet => packet

def AudioOutput.handed (streams : List Stream) (buffer : Bytes) (len : Nat)
    (stream : BufferInputStream) : AudioOutput → List Handed
  | .clearSendQueue => []
  | .streamData _ => (handleStreamData streams buffer len 1 stream).1
  | .streamEc _ => (handleStreamEc streams stream).1

def Piece.copied (piece : Piece) : Handed := .input (piece.copy.getD []) piece.time true

/-- What should be handed over: the piece itself, and the copies of the newest
pieces, each with its own time. -/
def AudioOutput.due (settings : AudioSettings) (secondary : Bytes) (piece : Piece)
    (recent : List Piece) : AudioOutput → List Handed
  | .clearSendQueue => []
  | .streamData _ =>
      .input piece.data piece.time false ::
        if AudioSender.hasCopy settings secondary && decide (settings.peerVersion ≥ 7) then
          recent.map Piece.copied
        else []
  | .streamEc _ => recent.map Piece.copied

theorem handFec_recent {all : List Piece} {level : Nat}
    (times : ∀ index, ∀ piece ∈ all[index]?, piece.time = timeOf start index)
    (kept : ∀ piece ∈ newest level all, piece.copy.isSome) :
    handFec (timeOf start (all.length - 1)) start.frameDuration
        ((newest level all).filterMap Piece.copy).length
        ((newest level all).filterMap Piece.copy) =
      (newest level all).map Piece.copied := by
  have copies : (newest level all).filterMap Piece.copy =
      (newest level all).map (fun piece => piece.copy.getD []) := by
    rw [← List.filterMap_eq_map]
    apply List.filterMap_congr
    intro piece member
    obtain ⟨copy, known⟩ := Option.isSome_iff_exists.mp (kept piece member)
    rw [Function.comp, known]
    rfl
  have length := RecentValues.newest_length level all
  rw [copies, List.length_map]
  unfold handFec
  apply List.ext_getElem
  · rw [List.length_map, List.length_zipIdx, List.length_map, List.length_map]
  · intro index first second
    rw [List.length_map] at second
    have inside : all.length - level + index < all.length := by omega
    have place : (newest level all)[index] = all[all.length - level + index] :=
      List.getElem_drop ..
    have time := times (all.length - level + index) (newest level all)[index] (by
      rw [place]
      exact List.getElem?_eq_getElem inside)
    have last : all.length - 1 = (all.length - level + index) +
        ((newest level all).length - index - 1) := by omega
    have counted : timeOf start (all.length - 1) -
        BitVec.ofNat 32 ((newest level all).length - index - 1) *
          start.frameDuration.setWidth 32 = timeOf start (all.length - level + index) := by
      rw [last, timeOf_add, add_sub_cancel_right]
    rw [List.getElem_map, List.getElem_zipIdx, List.getElem_map, List.getElem_map, Nat.zero_add]
    dsimp only
    rw [counted, ← time]
    rfl

theorem note_outputs {output : AudioOutput} (member : output ∈ (sender.note settings).1) :
    output = .clearSendQueue := by
  unfold AudioSender.note at member
  dsimp only at member
  split at member
  · exact List.mem_singleton.mp member
  · exact absurd member List.not_mem_nil

theorem Keeps.newest_copies (keeps : Keeps start pieces sender) (low : settings.extraEcLevel ≤ 4)
    (kept : ∀ piece ∈ newest settings.extraEcLevel (pieces ++
      [pieceOf sender.audioTimestampOut settings data secondary]), piece.copy.isSome) :
    newest settings.extraEcLevel (sender.keep settings secondary) =
      (newest settings.extraEcLevel (pieces ++
        [pieceOf sender.audioTimestampOut settings data secondary])).filterMap Piece.copy := by
  rw [keeps.keep settings data secondary, ← (RecentValues.newest_filterMap kept).1]
  generalize (pieces ++ [pieceOf sender.audioTimestampOut settings data
    secondary]).filterMap Piece.copy = copies
  have enough : newest settings.extraEcLevel (newest 4 copies ++ []) =
      newest settings.extraEcLevel (copies ++ []) := RecentValues.newest_newest low
  rw [List.append_nil, List.append_nil] at enough
  exact enough

theorem newest_copies_fit (low : settings.extraEcLevel ≤ 4)
    (short : ∀ piece ∈ pieces, ∀ copy ∈ piece.copy, copy.length < 256)
    (shortNow : secondary.length < 256) (time : BitVec 32) (data : Bytes) :
    FewShort ((newest settings.extraEcLevel (pieces ++
      [pieceOf time settings data secondary])).filterMap Piece.copy) := by
  constructor
  · have few := List.length_filterMap_le Piece.copy (newest settings.extraEcLevel (pieces ++
      [pieceOf time settings data secondary]))
    rw [RecentValues.newest_length] at few
    omega
  · intro copy member
    obtain ⟨piece, recent, known⟩ := List.mem_filterMap.mp member
    rcases List.mem_append.mp (List.mem_of_mem_drop recent) with earlier | now
    · exact short piece earlier copy known
    · rw [List.mem_singleton.mp now] at known
      unfold pieceOf at known
      dsimp only at known
      split at known
      · rw [← Option.some.inj known]
        exact shortNow
      · cases known

theorem Keeps.handed (keeps : Keeps start pieces sender) (first : start.streamID = 1)
    (low : settings.extraEcLevel ≤ 4) (small : data.length < 2048)
    (short : ∀ piece ∈ pieces, ∀ copy ∈ piece.copy, copy.length < 256)
    (shortNow : secondary.length < 256)
    (kept : AudioSender.hasCopy settings secondary = true →
      ∀ piece ∈ newest settings.extraEcLevel (pieces ++
        [pieceOf sender.audioTimestampOut settings data secondary]), piece.copy.isSome)
    {streams : List Stream} (known : streamOf streams 1 = some (.audio true start.frameDuration))
    {output : AudioOutput} (written : output ∈ sender.packets settings data secondary)
    {buffer rest : Bytes} {len : Nat} {stream : BufferInputStream} (holds : Holds buffer len stream)
    (stands : stream.rest = output.bytes ++ rest) :
    output.handed streams buffer len stream =
      output.due settings secondary (pieceOf sender.audioTimestampOut settings data secondary)
        (newest settings.extraEcLevel (pieces ++
          [pieceOf sender.audioTimestampOut settings data secondary])) := by
  have alone : ∀ {packet : Bytes}, packet = writeAudio data sender.audioTimestampOut none →
      stream.rest = packet ++ rest → (handleStreamData streams buffer len 1 stream).1 =
        [.input data sender.audioTimestampOut false] := by
    intro packet same stands
    rw [same] at stands
    rw [audio_is_handed_over known small _ (fun _ none => by cases none) holds stands]
    rfl
  unfold AudioSender.packets at written
  by_cases copied : AudioSender.hasCopy settings secondary = true
  · have same := keeps.newest_copies low (kept copied)
    have fit := newest_copies_fit low short shortNow sender.audioTimestampOut data
    have fec := handFec_recent (keeps.send settings data secondary).times (kept copied)
    have now : timeOf start ((pieces ++ [pieceOf sender.audioTimestampOut settings data
        secondary]).length - 1) = sender.audioTimestampOut := by
      rw [List.length_append]
      exact keeps.time.symm
    rw [now] at fec
    rw [← same] at fit fec
    rw [if_pos copied] at written
    unfold AudioOutput.due
    rw [copied, Bool.true_and, ← fec]
    by_cases version : settings.peerVersion ≥ 7
    · rw [if_pos version, List.mem_singleton] at written
      rw [written] at stands ⊢
      dsimp only
      rw [if_pos (decide_eq_true version)]
      have fits : ∀ list, some (newest settings.extraEcLevel (sender.keep settings secondary)) =
          some list → FewShort list := by
        intro list same
        rw [← Option.some.inj same]
        exact fit
      exact congrArg Prod.fst (audio_is_handed_over known small _ fits holds stands)
    · rw [if_neg version, List.mem_cons, List.mem_singleton] at written
      rcases written with written | written
      · rw [written] at stands ⊢
        dsimp only
        rw [if_neg (mt of_decide_eq_true version)]
        exact alone rfl stands
      · rw [written] at stands ⊢
        change stream.rest = writeStreamEc sender.streamID sender.audioTimestampOut _ ++ rest
          at stands
        rw [keeps.streamID, first] at stands
        exact congrArg Prod.fst (copies_are_handed_over known _ fit stands)
  · rw [if_neg copied, List.mem_singleton] at written
    rw [written] at stands ⊢
    unfold AudioOutput.due
    rw [Bool.not_eq_true] at copied
    rw [copied]
    exact alone rfl stands

/-- In a bad network the pieces reach the jitter buffer with their own times,
and so do the copies, as long as a copy of each of the newest pieces was kept. -/
theorem pieces_keep_their_times {taken : List AudioTransition}
    (fresh : start.ecAudioPackets = []) (first : start.streamID = 1)
    (run : Run AudioSender.step start taken sender) (sends : sender.sends settings = true)
    (low : settings.extraEcLevel ≤ 4) (small : data.length < 2048)
    (short : ∀ piece ∈ sentPieces taken, ∀ copy ∈ piece.copy, copy.length < 256)
    (shortNow : secondary.length < 256)
    (kept : AudioSender.hasCopy settings secondary = true →
      ∀ piece ∈ newest settings.extraEcLevel (sentPieces taken ++
        [pieceOf sender.audioTimestampOut settings data secondary]), piece.copy.isSome)
    {streams : List Stream} (known : streamOf streams 1 = some (.audio true start.frameDuration))
    {output : AudioOutput} (written : output ∈ (sender.handleAudioInput settings data secondary).1)
    {buffer rest : Bytes} {len : Nat} {stream : BufferInputStream} (holds : Holds buffer len stream)
    (stands : stream.rest = output.bytes ++ rest) :
    output.handed streams buffer len stream =
      output.due settings secondary (pieceOf sender.audioTimestampOut settings data secondary)
        (newest settings.extraEcLevel (sentPieces taken ++
          [pieceOf sender.audioTimestampOut settings data secondary])) := by
  have voice := note_voice sender settings
  have keeps := (keeps_run fresh run).voice voice
  rw [handle_sends sends] at written
  rcases List.mem_append.mp written with noted | packet
  · rw [note_outputs noted]
    rfl
  · rw [← voice.time] at kept ⊢
    exact keeps.handed first low small short shortNow kept known packet holds stands

def sampleInput : List AudioOutput × AudioSender :=
  sampleVoice.handleAudioInput sampleSettings [1] [2]

def samplePacket : Bytes := writeAudio [3] 60 (some [[2], [4]])

theorem sample_copies_keep_their_times :
    (AudioOutput.streamData samplePacket).handed [⟨1, .audio true 60⟩] samplePacket
        samplePacket.length (.ofBytes samplePacket) =
      [.input [3] 60 false, .input [2] 0 true, .input [4] 60 true] := by
  have run : Run AudioSender.step sampleVoice
      [⟨sampleVoice, .input sampleSettings [1] [2], sampleInput.1, sampleInput.2⟩] sampleInput.2 :=
    Run.nil.snoc rfl
  have handed : (AudioOutput.streamData samplePacket).handed [⟨1, .audio true 60⟩] samplePacket
      samplePacket.length (.ofBytes samplePacket) =
        (AudioOutput.streamData samplePacket).due sampleSettings [4]
          (pieceOf sampleInput.2.audioTimestampOut sampleSettings [3] [4]) _ :=
    pieces_keep_their_times rfl rfl run (by decide) (by decide) (by decide) (by decide)
      (by decide) (by decide) rfl (by decide) ⟨⟨[], rfl⟩, Nat.le_refl _⟩ (List.append_nil _).symm
  exact handed

end Tg2Sip.Voip
