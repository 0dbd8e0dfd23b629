/-
`UpdateAudioBitrate`: the bitrate of the encoder under the congestion control.

The controller asks the congestion control for an action and moves the bitrate
by a step; when packets are lost it stays at the rate of the poor network, and
`UpdateAudioBitrateLimit` starts over with the limit and the initial rate for
the network and for data saving.  It is called for a new configuration, for
another network on either side, when the peer asks for data saving, and behind
a receive timeout, also when nothing has changed.
-/

import Mathlib.Algebra.Group.Nat.Defs
import Tg2Sip.Voip.CongestionControl

namespace Tg2Sip.Voip

open LabelledMachine

/-- What the server configures. -/
structure BitrateConfig where
  maxAudioBitrate : BitVec 32
  maxAudioBitrateGPRS : BitVec 32
  maxAudioBitrateEDGE : BitVec 32
  maxAudioBitrateSaving : BitVec 32
  initAudioBitrate : BitVec 32
  initAudioBitrateGPRS : BitVec 32
  initAudioBitrateEDGE : BitVec 32
  initAudioBitrateSaving : BitVec 32
  audioBitrateStepIncr : BitVec 32
  audioBitrateStepDecr : BitVec 32
  minAudioBitrate : BitVec 32

inductive NetworkType where
  | gprs
  | edge
  | other
  deriving DecidableEq, Repr

/-- `bitrate` is the one that the encoder was asked for. -/
structure AudioBitrate where
  conctl : CongestionControl
  bitrate : BitVec 32
  maxBitrate : BitVec 32

namespace BitrateConfig

/-- What is used when the server says nothing. -/
def defaults : BitrateConfig :=
  { maxAudioBitrate := 20000
    maxAudioBitrateGPRS := 8000
    maxAudioBitrateEDGE := 16000
    maxAudioBitrateSaving := 8000
    initAudioBitrate := 16000
    initAudioBitrateGPRS := 8000
    initAudioBitrateEDGE := 8000
    initAudioBitrateSaving := 8000
    audioBitrateStepIncr := 1000
    audioBitrateStepDecr := 1000
    minAudioBitrate := 8000 }

def limits (config : BitrateConfig) (dataSaving : Bool) (networkType : NetworkType) :
    BitVec 32 × BitVec 32 :=
  if dataSaving then (config.maxAudioBitrateSaving, config.initAudioBitrateSaving)
  else
    match networkType with
    | .gprs => (config.maxAudioBitrateGPRS, config.initAudioBitrateGPRS)
    | .edge => (config.maxAudioBitrateEDGE, config.initAudioBitrateEDGE)
    | .other => (config.maxAudioBitrate, config.initAudioBitrate)

def follow (config : BitrateConfig) (shittyInternetMode : Bool) (maxBitrate bitrate : BitVec 32)
    (act : ControlAction) : BitVec 32 :=
  if shittyInternetMode then 8000
  else
    match act with
    | .decrease =>
        if bitrate > 8000 then
          if bitrate < config.minAudioBitrate + config.audioBitrateStepDecr then
            config.minAudioBitrate
          else bitrate - config.audioBitrateStepDecr
        else bitrate
    | .increase =>
        if bitrate < maxBitrate then bitrate + config.audioBitrateStepIncr else bitrate
    | .none => bitrate

end BitrateConfig

/-- What `GetBandwidthControlAction` returned. -/
def actionOf : List Fate → ControlAction
  | [.acted action _ _] => action
  | _ => .none

namespace AudioBitrate

def updateAudioBitrateLimit (config : BitrateConfig) (audio : AudioBitrate) (dataSaving : Bool)
    (networkType : NetworkType) : AudioBitrate :=
  { audio with
    bitrate := (config.limits dataSaving networkType).2
    maxBitrate := (config.limits dataSaving networkType).1 }

/-- The end of `InitializeAudio`: the encoder is new. -/
def create (config : BitrateConfig) (conctl : CongestionControl) (dataSaving : Bool)
    (networkType : NetworkType) : AudioBitrate :=
  updateAudioBitrateLimit config
    { conctl := conctl
      bitrate := 20000
      maxBitrate := 0 } dataSaving networkType

/-- The beginning of `UpdateAudioBitrate`. -/
def updateAudioBitrate (config : BitrateConfig) (audio : AudioBitrate)
    (shittyInternetMode : Bool) (asked answered : Instant) : List Fate × AudioBitrate :=
  let (fates, conctl) := audio.conctl.getBandwidthControlAction asked answered
  (fates,
    { audio with
      conctl := conctl
      bitrate := config.follow shittyInternetMode audio.maxBitrate audio.bitrate
        (actionOf fates) })

end AudioBitrate

/-- What the controller does with the congestion control and the bitrate. -/
inductive BitrateEvent where
  | sent (seq : SeqNo) (size : BitVec 64) (now : Instant)
  | acknowledged (seq : SeqNo)
  | tick (now : Instant)
  | update (shittyInternetMode : Bool) (asked answered : Instant)
  | limit (dataSaving : Bool) (networkType : NetworkType)

def AudioBitrate.step (config : BitrateConfig) :
    LabelledMachine.Step AudioBitrate BitrateEvent Fate
  | audio, .sent seq size now =>
      let (fates, conctl) := audio.conctl.packetSent seq size now
      some (fates, { audio with conctl := conctl })
  | audio, .acknowledged seq =>
      let (fates, conctl) := audio.conctl.packetAcknowledged seq
      some (fates, { audio with conctl := conctl })
  | audio, .tick now =>
      let (fates, conctl) := audio.conctl.tick now
      some (fates, { audio with conctl := conctl })
  | audio, .update shittyInternetMode asked answered =>
      some (audio.updateAudioBitrate config shittyInternetMode asked answered)
  | audio, .limit dataSaving networkType =>
      some ([], audio.updateAudioBitrateLimit config dataSaving networkType)

/-- `DebugCtl(1, param)`. -/
def AudioBitrate.debugCtl (audio : AudioBitrate) (param : BitVec 32) : AudioBitrate :=
  { audio with
    bitrate := param
    maxBitrate := param }

inductive AudioControl where
  | event (event : BitrateEvent)
  | debugCtl (param : BitVec 32)

/-- The application may set the bitrate in between. -/
def AudioBitrate.control (config : BitrateConfig) :
    LabelledMachine.Step AudioBitrate AudioControl Fate
  | audio, .event event => audio.step config event
  | audio, .debugCtl param => some ([], audio.debugCtl param)

/-- The rates go by steps of one size, and those to start with are in the range. -/
structure BitrateConfig.Graded (config : BitrateConfig) : Prop where
  decrease : config.audioBitrateStepIncr.toNat ∣ config.audioBitrateStepDecr.toNat
  poor : config.audioBitrateStepIncr.toNat ∣ 8000
  least : config.audioBitrateStepIncr.toNat ∣ config.minAudioBitrate.toNat
  low : config.minAudioBitrate.toNat ≤ 8000
  room : config.minAudioBitrate.toNat + config.audioBitrateStepDecr.toNat < 2 ^ 32
  top : ∀ dataSaving networkType,
    config.audioBitrateStepIncr.toNat ∣ (config.limits dataSaving networkType).1.toNat ∧
      8000 ≤ (config.limits dataSaving networkType).1.toNat
  first : ∀ dataSaving networkType,
    config.audioBitrateStepIncr.toNat ∣ (config.limits dataSaving networkType).2.toNat ∧
      config.minAudioBitrate.toNat ≤ (config.limits dataSaving networkType).2.toNat ∧
      (config.limits dataSaving networkType).2.toNat ≤
        (config.limits dataSaving networkType).1.toNat

theorem defaults_graded : BitrateConfig.defaults.Graded where
  decrease := by decide
  poor := by decide
  least := by decide
  low := by decide
  room := by decide
  top := by
    intro dataSaving networkType
    cases dataSaving <;> cases networkType <;> decide
  first := by
    intro dataSaving networkType
    cases dataSaving <;> cases networkType <;> decide

structure BitrateConfig.Allows (config : BitrateConfig) (maxBitrate bitrate : BitVec 32) :
    Prop where
  graded : config.audioBitrateStepIncr.toNat ∣ bitrate.toNat
  least : config.minAudioBitrate.toNat ≤ bitrate.toNat
  most : bitrate.toNat ≤ maxBitrate.toNat

section Range

variable {config : BitrateConfig} {maxBitrate bitrate : BitVec 32}

theorem step_fits {unit below above : Nat} (first : unit ∣ below) (second : unit ∣ above)
    (less : below < above) : below + unit ≤ above := by
  obtain ⟨count, rfl⟩ := first
  obtain ⟨more, rfl⟩ := second
  have fewer : count < more := Nat.lt_of_mul_lt_mul_left less
  calc unit * count + unit = unit * (count + 1) := (Nat.mul_succ unit count).symm
    _ ≤ unit * more := Nat.mul_le_mul_left unit fewer

theorem increase_allowed (allows : config.Allows maxBitrate bitrate)
    (graded : config.audioBitrateStepIncr.toNat ∣ maxBitrate.toNat) (less : bitrate < maxBitrate) :
    config.Allows maxBitrate (bitrate + config.audioBitrateStepIncr) := by
  have fits := step_fits allows.graded graded (BitVec.lt_def.mp less)
  have sum : (bitrate + config.audioBitrateStepIncr).toNat =
      bitrate.toNat + config.audioBitrateStepIncr.toNat := by
    rw [BitVec.toNat_add]
    exact Nat.mod_eq_of_lt (Nat.lt_of_le_of_lt fits maxBitrate.isLt)
  exact
    { graded := by
        rw [sum]
        exact Nat.dvd_add allows.graded (Nat.dvd_refl _)
      least := by
        rw [sum]
        exact Nat.le_add_right_of_le allows.least
      most := by
        rw [sum]
        exact fits }

theorem decrease_allowed (sound : config.Graded) (allows : config.Allows maxBitrate bitrate)
    (enough : ¬ bitrate < config.minAudioBitrate + config.audioBitrateStepDecr) :
    config.Allows maxBitrate (bitrate - config.audioBitrateStepDecr) := by
  have sum : (config.minAudioBitrate + config.audioBitrateStepDecr).toNat =
      config.minAudioBitrate.toNat + config.audioBitrateStepDecr.toNat := by
    rw [BitVec.toNat_add]
    exact Nat.mod_eq_of_lt sound.room
  rw [BitVec.lt_def, sum] at enough
  have difference : (bitrate - config.audioBitrateStepDecr).toNat =
      bitrate.toNat - config.audioBitrateStepDecr.toNat := by
    apply BitVec.toNat_sub_of_le
    rw [BitVec.le_def]
    omega
  exact
    { graded := by
        rw [difference]
        exact Nat.dvd_sub allows.graded sound.decrease
      least := by
        rw [difference]
        omega
      most := by
        rw [difference]
        exact Nat.le_trans (Nat.sub_le _ _) allows.most }

theorem follow_allowed (sound : config.Graded) (allows : config.Allows maxBitrate bitrate)
    (graded : config.audioBitrateStepIncr.toNat ∣ maxBitrate.toNat)
    (high : 8000 ≤ maxBitrate.toNat) (shittyInternetMode : Bool) (act : ControlAction) :
    config.Allows maxBitrate (config.follow shittyInternetMode maxBitrate bitrate act) := by
  unfold BitrateConfig.follow
  split
  · exact ⟨sound.poor, sound.low, high⟩
  · cases act with
    | none => exact allows
    | increase =>
        dsimp only
        split
        · rename_i less
          exact increase_allowed allows graded less
        · exact allows
    | decrease =>
        dsimp only
        split
        · split
          · exact ⟨sound.least, Nat.le_refl _, Nat.le_trans sound.low high⟩
          · rename_i enough
            exact decrease_allowed sound allows enough
        · exact allows

end Range

/-- The limit is one of the network kinds, and the bitrate is in its range. -/
structure InRange (config : BitrateConfig) (audio : AudioBitrate) : Prop where
  allows : config.Allows audio.maxBitrate audio.bitrate
  graded : config.audioBitrateStepIncr.toNat ∣ audio.maxBitrate.toNat
  high : 8000 ≤ audio.maxBitrate.toNat

section Runs

variable {config : BitrateConfig} {cwnd : BitVec 64} {conctl : CongestionControl}
  {dataSaving : Bool} {networkType : NetworkType} {audio : AudioBitrate}
  {taken : List (Transition AudioBitrate BitrateEvent Fate)}
  {controlled : List (Transition AudioBitrate AudioControl Fate)}

theorem inRange_limit (sound : config.Graded) (audio : AudioBitrate) (dataSaving : Bool)
    (networkType : NetworkType) :
    InRange config (audio.updateAudioBitrateLimit config dataSaving networkType) := by
  obtain ⟨gradedTop, high⟩ := sound.top dataSaving networkType
  obtain ⟨graded, least, most⟩ := sound.first dataSaving networkType
  exact ⟨⟨graded, least, most⟩, gradedTop, high⟩

/-- With the steps of the configuration, the bitrate stays between the lowest
one and the limit of the network, whatever happens. -/
theorem bitrate_stays_in_range (sound : config.Graded)
    (run : Run (AudioBitrate.step config)
      (AudioBitrate.create config conctl dataSaving networkType) taken audio) :
    config.minAudioBitrate.toNat ≤ audio.bitrate.toNat ∧
      audio.bitrate.toNat ≤ audio.maxBitrate.toNat := by
  have range : InRange config audio := by
    apply Run.keeps _ run (inRange_limit sound _ dataSaving networkType)
    intro source label output target stepped range
    cases label with
    | sent seq size now =>
        cases stepped
        exact ⟨range.allows, range.graded, range.high⟩
    | acknowledged seq =>
        cases stepped
        exact ⟨range.allows, range.graded, range.high⟩
    | tick now =>
        cases stepped
        exact ⟨range.allows, range.graded, range.high⟩
    | update shittyInternetMode asked answered =>
        cases stepped
        exact ⟨follow_allowed sound range.allows range.graded range.high _ _, range.graded,
          range.high⟩
    | limit dataSaving networkType =>
        cases stepped
        exact inRange_limit sound _ dataSaving networkType
  exact ⟨range.allows.least, range.allows.most⟩

def sampleUpdates : List BitrateEvent :=
  [.update false (sampleTime 1000000) (sampleTime 1000001),
    .update false (sampleTime 1300000) (sampleTime 1300001),
    .update false (sampleTime 2000002) (sampleTime 2000003)]

theorem sampleUpdates_run : ∃ taken audio,
    Run (AudioBitrate.step .defaults)
      (AudioBitrate.create .defaults (CongestionControl.create 1024) false .other) taken audio ∧
      (audio.bitrate, audio.maxBitrate, history taken) =
        (18000, 20000, [.acted .increase 1000001 1000002, .acted .increase 2000003 2000004]) := by
  have replayed : (replay (AudioBitrate.step .defaults)
      (AudioBitrate.create .defaults (CongestionControl.create 1024) false .other)
      sampleUpdates).map (fun reached =>
        (reached.2.bitrate, reached.2.maxBitrate, history reached.1)) =
      some (18000, 20000,
        [.acted .increase 1000001 1000002, .acted .increase 2000003 2000004]) := rfl
  exact Run.of_replay_map replayed

theorem sample_bitrate_is_in_range : ∃ taken audio,
    Run (AudioBitrate.step .defaults)
      (AudioBitrate.create .defaults (CongestionControl.create 1024) false .other) taken audio ∧
      audio.bitrate = 18000 ∧ 8000 ≤ audio.bitrate.toNat ∧
      audio.bitrate.toNat ≤ audio.maxBitrate.toNat := by
  obtain ⟨taken, audio, run, seen⟩ := sampleUpdates_run
  exact ⟨taken, audio, run, congrArg Prod.fst seen, bitrate_stays_in_range defaults_graded run⟩

/-! ### What changes the bitrate -/

end Runs

end Tg2Sip.Voip
