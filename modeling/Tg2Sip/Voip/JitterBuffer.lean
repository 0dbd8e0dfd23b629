/-
`JitterBuffer`: 64 slots for packets that wait to be played.

A slot is in use while it has a buffer of the pool, and its data are what is in
that buffer.  `HandleInput` files a packet under its timestamp, `HandleOutput`
takes the packet with the next timestamp.  `Tick` adapts the delay to averages
of `double` values; what it measures is an argument here, and `minDelay`, which
only ever changes by one, is a natural number.  Histories and counters that
nothing but those averages and the log reads are left out.
-/

import Mathlib.Algebra.Group.Int.Defs
import Mathlib.Data.List.FinRange
import Mathlib.Logic.Function.Basic
import Tg2Sip.Lib.Run
import Tg2Sip.Voip.BufferPool
import Tg2Sip.Voip.Protocol

namespace Tg2Sip.Voip

abbrev Timestamp := BitVec 32

def jitterSlotSize : Nat := 1024

/-- `jitter_packet_t` in a slot. -/
structure JitterSlot where
  buffer : Option (Fin 64)
  timestamp : Timestamp
  size : Nat
  isEC : Bool
  deriving DecidableEq, Repr

structure JitterConfig where
  step : Nat
  maxMinDelay : Nat
  maxUsedSlots : Nat
  lossesToReset : Nat

structure JitterBuffer where
  bufferPool : BufferPool 64
  memory : Fin 64 → Bytes
  slots : Fin 64 → JitterSlot
  nextTimestamp : Int
  minDelay : Nat
  minMinDelay : Nat
  lostCount : Nat
  lostSinceReset : Nat
  gotSinceReset : Nat
  wasReset : Bool
  needBuffering : Bool
  dontIncMinDelay : Nat
  dontDecMinDelay : Nat
  lostPackets : Int
  outstandingDelayChange : Int
  dontChangeDelay : Nat
  first : Bool

def JitterBuffer.initial (minMinDelay : Nat) : JitterBuffer :=
  { bufferPool := .empty
    memory := fun _ => []
    slots := fun _ => ⟨none, 0, 0, false⟩
    nextTimestamp := 0
    minDelay := 6
    minMinDelay := minMinDelay
    lostCount := 0
    lostSinceReset := 0
    gotSinceReset := 0
    wasReset := true
    needBuffering := true
    dontIncMinDelay := 0
    dontDecMinDelay := 0
    lostPackets := 0
    outstandingDelayChange := 0
    dontChangeDelay := 0
    first := true }

def JitterBuffer.currentDelay (self : JitterBuffer) : Nat :=
  (List.finRange 64).countP (fun i => (self.slots i).buffer.isSome)

/-- `bufferPool.Reuse(slots[i].buffer); slots[i].buffer=NULL`, if it has one. -/
def JitterBuffer.release (self : JitterBuffer) (i : Fin 64) : JitterBuffer :=
  match (self.slots i).buffer with
  | none => self
  | some buffer =>
      { self with
        bufferPool := self.bufferPool.reuse buffer
        slots := Function.update self.slots i { self.slots i with buffer := none } }

/-- A loop over the slots that releases some of them. -/
def JitterBuffer.releaseWhere (self : JitterBuffer) (chosen : JitterSlot → Bool) : JitterBuffer :=
  (List.finRange 64).foldl
    (fun buffer i => if chosen (buffer.slots i) then buffer.release i else buffer) self

/-- The first slot in use with the timestamp. -/
def JitterBuffer.find (self : JitterBuffer) (timestamp : Int) : Option (Fin 64) :=
  (List.finRange 64).find? (fun i =>
    (self.slots i).buffer.isSome && decide (((self.slots i).timestamp.toNat : Int) = timestamp))

def JitterBuffer.advance (config : JitterConfig) (self : JitterBuffer) : JitterBuffer :=
  { self with nextTimestamp := self.nextTimestamp + config.step }

def JitterBuffer.restart (self : JitterBuffer) : JitterBuffer :=
  { self with
    wasReset := true
    needBuffering := true
    lostSinceReset := 0
    gotSinceReset := 0
    outstandingDelayChange := 0
    dontChangeDelay := 0 }

def JitterBuffer.reset (self : JitterBuffer) : JitterBuffer :=
  (self.releaseWhere (fun _ => true)).restart

def copyInto (old data : Bytes) : Bytes := data ++ old.drop data.length

def JitterBuffer.overwrite (self : JitterBuffer) (i buffer : Fin 64) (data : Bytes)
    (isEC : Bool) : JitterBuffer :=
  { self with
    memory := Function.update self.memory buffer (copyInto (self.memory buffer) data)
    slots := Function.update self.slots i
      { self.slots i with
        size := data.length
        isEC := isEC } }

/-- The end of `PutInternal`; without a buffer the data are not copied. -/
def JitterBuffer.store (self : JitterBuffer) (i : Fin 64) (timestamp : Timestamp) (data : Bytes)
    (isEC : Bool) : JitterBuffer :=
  let got := self.bufferPool.get
  { self with
    bufferPool := got.2
    memory := match got.1 with
      | some buffer => Function.update self.memory buffer (copyInto (self.memory buffer) data)
      | none => self.memory
    slots := Function.update self.slots i ⟨got.1, timestamp, data.length, isEC⟩ }

/-- The slot with the lowest timestamp below the largest one. -/
def JitterBuffer.oldest (self : JitterBuffer) : Option (Fin 64) × Nat :=
  (List.finRange 64).foldl (fun best i =>
    if (self.slots i).buffer.isSome && decide ((self.slots i).timestamp.toNat < best.2) then
      (some i, (self.slots i).timestamp.toNat)
    else best) (none, 0xFFFFFFFF)

/-- The slot for a new packet; `none` stands for an access behind the slots. -/
def JitterBuffer.place (config : JitterConfig) (self : JitterBuffer) :
    Option (JitterBuffer × Fin 64) :=
  match (List.finRange 64).find? (fun i => (self.slots i).buffer.isNone) with
  | some i =>
      if self.currentDelay ≥ config.maxUsedSlots then
        self.oldest.1.map (fun oldest => ((self.advance config).release oldest, oldest))
      else some (self, i)
  | none => self.oldest.1.map (fun oldest => ((self.advance config).release oldest, oldest))

/-- The first packet behind a reset sets the next timestamp. -/
def JitterBuffer.resync (config : JitterConfig) (self : JitterBuffer) (timestamp : Timestamp) :
    JitterBuffer :=
  let counted := { self with gotSinceReset := self.gotSinceReset + 1 }
  if counted.wasReset then
    { counted with
      wasReset := false
      outstandingDelayChange := 0
      nextTimestamp := (timestamp.toNat : Int) - (config.step * counted.minDelay : Nat)
      first := true }
  else counted

def JitterBuffer.dropLate (self : JitterBuffer) : JitterBuffer :=
  self.releaseWhere (fun slot =>
    decide ((slot.timestamp.toNat : Int) < self.nextTimestamp - 1))

def JitterBuffer.noteLate (self : JitterBuffer) (timestamp : Timestamp) : JitterBuffer :=
  if (timestamp.toNat : Int) < self.nextTimestamp then
    { self with lostPackets := self.lostPackets - 1 }
  else self

/-- What `PutInternal` does before it looks for a slot. -/
def JitterBuffer.prepare (config : JitterConfig) (self : JitterBuffer) (timestamp : Timestamp) :
    JitterBuffer :=
  ((self.resync config timestamp).dropLate).noteLate timestamp

/-- `HandleInput` and `PutInternal`. -/
def JitterBuffer.handleInput (config : JitterConfig) (self : JitterBuffer) (data : Bytes)
    (timestamp : Timestamp) (isEC : Bool) : Option JitterBuffer :=
  if data.length > jitterSlotSize then some self
  else
    match self.find timestamp.toNat with
    | some i =>
        match (self.slots i).buffer with
        | some buffer =>
            if isEC then some self else some (self.overwrite i buffer data isEC)
        | none => some self
    | none =>
        ((self.prepare config timestamp).place config).map (fun placed =>
          placed.1.store placed.2 timestamp data isEC)

/-! ### Output -/

/-- What `GetInternal` gives to its caller.  For a packet that does not fit
nothing is copied, and `HandleOutput` returns the length of the buffer. -/
inductive Played where
  | frame (timestamp : Timestamp) (data : Bytes) (isEC : Bool)
  | unfit (timestamp : Timestamp)
  | missing
  | buffering
  deriving DecidableEq, Repr

/-- The slot is emptied, and its packet is played when it fits. -/
def JitterBuffer.getSlot (config : JitterConfig) (self : JitterBuffer) (i buffer : Fin 64)
    (len : Nat) (offset : Int) : Played × JitterBuffer :=
  let slot := self.slots i
  let released := self.release i
  let advanced := if offset = 0 then released.advance config else released
  (if len < slot.size then .unfit slot.timestamp
    else .frame slot.timestamp ((self.memory buffer).take slot.size) slot.isEC,
    { advanced with
      lostCount := 0
      needBuffering := false })

def JitterBuffer.countLoss (self : JitterBuffer) (offset : Int) : JitterBuffer :=
  { self with
    lostCount := self.lostCount + 1
    lostPackets := if offset = 0 then self.lostPackets + 1 else self.lostPackets
    lostSinceReset := if offset = 0 then self.lostSinceReset + 1 else self.lostSinceReset }

/-- What is set before the reset behind too many losses. -/
def JitterBuffer.giveUp (self : JitterBuffer) : JitterBuffer :=
  { self with
    dontIncMinDelay := 16
    dontDecMinDelay := self.dontDecMinDelay + 128
    nextTimestamp :=
      if self.currentDelay < self.minDelay then
        self.nextTimestamp - (self.minDelay - self.currentDelay : Nat)
      else self.nextTimestamp
    lostCount := 0 }

def JitterBuffer.lostTooMany (config : JitterConfig) (self : JitterBuffer) : Bool :=
  decide (self.lostCount ≥ config.lossesToReset) ||
    decide (self.gotSinceReset > self.minDelay * 25) &&
      decide (self.lostSinceReset > self.gotSinceReset / 2)

def JitterBuffer.miss (config : JitterConfig) (self : JitterBuffer) (offset : Int) :
    JitterBuffer :=
  if (self.countLoss offset).lostTooMany config then (self.countLoss offset).giveUp.reset
  else self.countLoss offset

def JitterBuffer.getInternal (config : JitterConfig) (self : JitterBuffer) (len : Nat)
    (offset : Int) (advance : Bool) : Played × JitterBuffer :=
  match self.find (self.nextTimestamp + offset * config.step) with
  | some i =>
      match (self.slots i).buffer with
      | some buffer => self.getSlot config i buffer len offset
      | none => (.missing, self)
  | none =>
      let moved := if advance then self.advance config else self
      if moved.needBuffering then (.buffering, moved)
      else (.missing, moved.miss config offset)

/-- One round of the loop that drops packets at the start: the first slot with
the next timestamp is released, also when it is one that is no more in use. -/
def JitterBuffer.dropNext (config : JitterConfig) (self : JitterBuffer) : JitterBuffer :=
  let released :=
    match (List.finRange 64).find? (fun i =>
        decide (((self.slots i).timestamp.toNat : Int) = self.nextTimestamp)) with
    | some i => self.release i
    | none => self
  released.advance config

def JitterBuffer.started (self : JitterBuffer) : JitterBuffer := { self with first := false }

/-- What `HandleOutput` does the first time. -/
def JitterBuffer.start (config : JitterConfig) (self : JitterBuffer) : JitterBuffer :=
  if self.first then
    if self.currentDelay > 5 then
      (JitterBuffer.dropNext config)^[self.currentDelay - self.minDelay] self.started
    else self.started
  else self

def JitterBuffer.scale (self : JitterBuffer) (advance : Bool) : Nat × JitterBuffer :=
  if self.outstandingDelayChange < 0 then
    (40, { self with outstandingDelayChange := self.outstandingDelayChange + 20 })
  else if self.outstandingDelayChange > 0 then
    (80, { self with outstandingDelayChange := self.outstandingDelayChange - 20 })
  else if advance && self.currentDelay == 0 then (80, self)
  else (60, self)

/-- `HandleOutput`: what is played, for how long. -/
def JitterBuffer.handleOutput (config : JitterConfig) (self : JitterBuffer) (len : Nat)
    (offset : Int) (advance : Bool) : Played × Nat × JitterBuffer :=
  let got := (self.start config).getInternal config len offset advance
  (got.1, got.2.scale advance)

inductive Drift where
  | farAbove
  | above
  | near
  | below
  deriving DecidableEq, Repr

structure Measured where
  resync : Bool
  noLatePackets : Bool
  stddevDelay : Nat
  drift : Drift
  deriving DecidableEq, Repr

/-- The change of `minDelay` in `Tick`. -/
def JitterBuffer.adapt (self : JitterBuffer) (stddevDelay : Nat) : JitterBuffer :=
  if self.minDelay < stddevDelay then
    let raised := { self with dontDecMinDelay := 100 }
    if raised.dontIncMinDelay = 0 then
      { raised with
        minDelay := raised.minDelay + 1
        outstandingDelayChange := raised.outstandingDelayChange + 60
        dontChangeDelay := raised.dontChangeDelay + 32
        dontIncMinDelay := 25 }
    else raised
  else if stddevDelay < self.minDelay ∧ self.dontDecMinDelay = 0 then
    { self with
      minDelay := self.minDelay - 1
      outstandingDelayChange := self.outstandingDelayChange - 60
      dontChangeDelay := self.dontChangeDelay + 32
      dontDecMinDelay := self.dontDecMinDelay + 25 }
  else self

/-- The correction of the delay in `Tick`. -/
def JitterBuffer.correct (self : JitterBuffer) (drift : Drift) : JitterBuffer :=
  match drift with
  | .farAbove =>
      { self with
        outstandingDelayChange := self.outstandingDelayChange - 60
        dontChangeDelay := self.dontChangeDelay + 10 }
  | .above =>
      { self with
        outstandingDelayChange := self.outstandingDelayChange - 20
        dontChangeDelay := self.dontChangeDelay + 10 }
  | .near => self
  | .below =>
      { self with
        outstandingDelayChange := self.outstandingDelayChange + 20
        dontChangeDelay := self.dontChangeDelay + 10 }

/-- What `Tick` does with the number of late packets. -/
def JitterBuffer.noteMeasured (self : JitterBuffer) (measured : Measured) : JitterBuffer :=
  { self with
    wasReset := self.wasReset || measured.resync
    dontDecMinDelay :=
      if measured.noLatePackets then self.dontDecMinDelay - 1 else self.dontDecMinDelay }

/-- The end of `Tick`. -/
def JitterBuffer.settle (self : JitterBuffer) (drift : Drift) : JitterBuffer :=
  let corrected := if self.dontChangeDelay = 0 then self.correct drift else self
  { corrected with dontChangeDelay := corrected.dontChangeDelay - 1 }

def JitterBuffer.tick (config : JitterConfig) (self : JitterBuffer) (measured : Measured) :
    JitterBuffer :=
  let stddevDelay := min (max measured.stddevDelay self.minMinDelay) config.maxMinDelay
  ((self.noteMeasured measured).adapt stddevDelay).settle measured.drift

def JitterBuffer.setMinPacketCount (self : JitterBuffer) (count : Nat) : JitterBuffer :=
  { self with
    minDelay := count
    minMinDelay := count }

def JitterBuffer.getAndResetLostPacketCount (self : JitterBuffer) : Int × JitterBuffer :=
  (self.lostPackets, { self with lostPackets := 0 })

inductive JitterCall where
  | handleInput (data : Bytes) (timestamp : Timestamp) (isEC : Bool)
  | handleOutput (len : Nat) (offset : Int) (advance : Bool)
  | tick (measured : Measured)
  | setMinPacketCount (count : Nat)
  | getAndResetLostPacketCount

def JitterBuffer.step (config : JitterConfig) :
    LabelledMachine.Step JitterBuffer JitterCall Played := fun self call =>
  match call with
  | .handleInput data timestamp isEC =>
      (self.handleInput config data timestamp isEC).map (fun after => ([], after))
  | .handleOutput len offset advance =>
      let (played, _, after) := self.handleOutput config len offset advance
      some ([played], after)
  | .tick measured => some ([], self.tick config measured)
  | .setMinPacketCount count => some ([], self.setMinPacketCount count)
  | .getAndResetLostPacketCount => some ([], self.getAndResetLostPacketCount.2)

end Tg2Sip.Voip
