/-
The two controllers over bytes.

The network carries the bytes that `SendOrEnqueuePacket` makes, and a
controller reads the header, judges the number and reads the extras, each as
far as it gets.  While both ends use the short form, a run over bytes is a run
of the controllers over packets, and nothing that was sent is given up for its
form.  This asks of the callers of `SendExtra` what `WritePacketHeader` asserts:
an extra of at most 254 bytes.  There are never too many extras, because one of
a type replaces the one before it.
-/

import Tg2Sip.Voip.Extras
import Tg2Sip.Voip.Header

namespace Tg2Sip.Voip

def collectExtras (pflags : UInt8) (stream : BufferInputStream) :
    List Extra × Except Discarded BufferInputStream :=
  if pflags &&& xpflagHasExtra ≠ 0 then
    match readByte.run stream with
    | .error why => ([], .error why)
    | .ok (extraCount, behind) => Reading.collect readExtra extraCount.toNat behind
  else ([], .ok stream)

theorem collectExtras_of_read {pflags : UInt8} {stream behind : BufferInputStream}
    {extras : List Extra} (read : (readExtras pflags).run stream = .ok (extras, behind)) :
    collectExtras pflags stream = (extras, .ok behind) := by
  unfold readExtras at read
  unfold collectExtras
  by_cases flag : pflags &&& xpflagHasExtra ≠ 0
  · rw [if_pos flag, StateT.run_bind] at read
    rw [if_pos flag]
    cases first : readByte.run stream with
    | error why =>
        rw [first] at read
        cases read
    | ok result =>
        obtain ⟨extraCount, middle⟩ := result
        rw [first] at read
        exact Reading.collect_of_many read
  · rw [if_neg flag] at read
    rw [if_neg flag]
    cases read
    rfl

inductive Report where
  | dropped (what : Dropped)
  | discarded (why : Discarded)
  deriving DecidableEq, Repr

def faultReports {Value : Type} : Except Discarded Value → List Report
  | .ok _ => []
  | .error why => [.discarded why]

/-- `ProcessIncomingPacket` on the decrypted bytes.  The acknowledgements are
processed before the extras are read. -/
def Controller.processIncomingBytes (self : Controller) (peering : Peering) (bytes : Bytes)
    (now : Instant) : List Report × Controller :=
  match (peering.readHeader (BitVec.ofNat 64 bytes.length)).run (.ofBytes bytes) with
  | .error why => ([.discarded why], self)
  | .ok (header, stream) =>
      if (self.window.receive header.pseq now).1.accepts then
        let (extras, rest) := collectExtras header.pflags stream
        let (dropped, controller) := self.processIncomingPacket
          { type := header.type
            ackId := header.ackId
            pseq := header.pseq
            acks := header.acks
            extras := extras
            data := [] } now
        (dropped.map .dropped ++ faultReports rest, controller)
      else ([], self)

structure WireSystem where
  controller : Side → Controller
  sent : Side → List Bytes

inductive WireAction where
  | enqueue (side : Side) (type : UInt8) (data : Bytes)
  | sendReliably (side : Side) (type : UInt8) (data : Bytes) (retryInterval timeout : Nat)
  | updateQueued (side : Side) (now : Instant)
  | sendExtra (side : Side) (extra : Extra)
  | transmit (side : Side) (pending : PendingOutgoingPacket) (random : HeaderNonce)
  | deliver (side : Side) (bytes : Bytes) (now : Instant)

def WireSystem.put (wire : WireSystem) (side : Side) (controller : Controller) : WireSystem :=
  { wire with controller := Function.update wire.controller side controller }

def WireSystem.send (wire : WireSystem) (side : Side) (bytes : Bytes) : WireSystem :=
  { wire with sent := Function.update wire.sent side (wire.sent side ++ [bytes]) }

def WireSystem.step (peering : Side → Peering) :
    LabelledMachine.Step WireSystem WireAction (Side × Report) := fun wire action =>
  match action with
  | .enqueue side type data =>
      some ([], wire.put side ((wire.controller side).enqueue type data))
  | .sendReliably side type data retryInterval timeout =>
      some ([], wire.put side
        ((wire.controller side).sendPacketReliably type data retryInterval timeout))
  | .updateQueued side now =>
      some ([], wire.put side ((wire.controller side).updateQueuedPackets now))
  | .sendExtra side extra =>
      some ([], wire.put side ((wire.controller side).sendExtra extra))
  | .transmit side pending random =>
      if pending ∈ (wire.controller side).sendQueue then
        let written := (wire.controller side).writePacket pending
        some ([], (wire.put side written.2).send side
          ((peering side).writePacket random written.1))
      else none
  | .deliver side bytes now =>
      if bytes ∈ wire.sent side.peer then
        let processed := (wire.controller side).processIncomingBytes (peering side) bytes now
        some (processed.1.map (fun report => (side, report)), wire.put side processed.2)
      else none

def WireSystem.initial : WireSystem :=
  { controller := fun _ => .initial
    sent := fun _ => [] }

abbrev WireRun (peering : Side → Peering)
    (taken : List (LabelledMachine.Transition WireSystem WireAction (Side × Report)))
    (wire : WireSystem) : Prop :=
  LabelledMachine.Run (WireSystem.step peering) WireSystem.initial taken wire

def SmallData (data : Bytes) : Prop := data.length + 13 < 2 ^ 24

structure Controller.Sendable (controller : Controller) : Prop where
  pending : ∀ pending ∈ controller.sendQueue, SmallData pending.data
  queued : ∀ packet ∈ controller.queuedPackets, SmallData packet.data
  extras : controller.ExtrasAllowed

theorem initial_sendable : Controller.initial.Sendable where
  pending := List.forall_mem_nil _
  queued := List.forall_mem_nil _
  extras := initial_extrasAllowed

theorem enqueue_sendable {self : Controller} (sendable : self.Sendable) (type : UInt8)
    {data : Bytes} (small : SmallData data) : (self.enqueue type data).Sendable where
  pending := List.forall_mem_append.mpr
    ⟨sendable.pending, List.forall_mem_singleton.mpr small⟩
  queued := sendable.queued
  extras := sendable.extras.of_same rfl

theorem sendPacketReliably_sendable {self : Controller} (sendable : self.Sendable)
    (type : UInt8) {data : Bytes} (small : SmallData data) (retryInterval timeout : Nat) :
    (self.sendPacketReliably type data retryInterval timeout).Sendable where
  pending := sendable.pending
  queued := List.forall_mem_append.mpr ⟨sendable.queued, List.forall_mem_singleton.mpr small⟩
  extras := sendable.extras.of_same rfl

theorem updateQueue_small (now : Instant) {packets : List QueuedPacket}
    (small : ∀ packet ∈ packets, SmallData packet.data) (seq : SeqNo) :
    (∀ packet ∈ (updateQueue now seq packets).1, SmallData packet.data) ∧
      ∀ pending ∈ (updateQueue now seq packets).2.1, SmallData pending.data := by
  induction packets generalizing seq with
  | nil => exact ⟨List.forall_mem_nil _, List.forall_mem_nil _⟩
  | cons packet rest ih =>
      obtain ⟨first, others⟩ := List.forall_mem_cons.mp small
      unfold updateQueue
      split
      · exact ih others seq
      · split
        · have later := ih others (seq + 1)
          exact ⟨List.forall_mem_cons.mpr ⟨first, later.1⟩,
            List.forall_mem_cons.mpr ⟨first, later.2⟩⟩
        · have later := ih others seq
          exact ⟨List.forall_mem_cons.mpr ⟨first, later.1⟩, later.2⟩

theorem updateQueuedPackets_sendable {self : Controller} (sendable : self.Sendable)
    (now : Instant) : (self.updateQueuedPackets now).Sendable := by
  have updated := updateQueue_small now sendable.queued self.seq
  exact
    { pending := List.forall_mem_append.mpr ⟨sendable.pending, updated.2⟩
      queued := updated.1
      extras := sendable.extras.of_same rfl }

theorem sendExtra_sendable {self : Controller} (sendable : self.Sendable) {extra : Extra}
    (allowed : extra.Allowed) : (self.sendExtra extra).Sendable where
  pending := sendable.pending
  queued := sendable.queued
  extras := sendable.extras.sendExtra allowed

theorem writePacket_sendable {self : Controller} (sendable : self.Sendable)
    (pending : PendingOutgoingPacket) : (self.writePacket pending).2.Sendable where
  pending := fun other inside => sendable.pending other (List.mem_of_mem_erase inside)
  queued := sendable.queued
  extras := sendable.extras.writePacket pending

theorem processIncomingPacket_sendable {self : Controller} (sendable : self.Sendable)
    (packet : Packet) (now : Instant) :
    (self.processIncomingPacket packet now).2.Sendable where
  pending := by
    unfold Controller.processIncomingPacket
    split
    · split
      · exact sendable.pending
      · exact sendable.pending
    · exact sendable.pending
  queued := by
    unfold Controller.processIncomingPacket
    split
    · split
      · exact fun queued inside => sendable.queued queued (List.mem_filter.mp inside).1
      · exact sendable.queued
    · exact sendable.queued
  extras := sendable.extras.processIncomingPacket packet now

theorem writePacket_fits {self : Controller} (sendable : self.Sendable)
    {pending : PendingOutgoingPacket} (waiting : pending ∈ self.sendQueue) :
    (self.writePacket pending).1.Fits where
  data := sendable.pending pending waiting
  count := sendable.extras.written_few pending
  extras := sendable.extras.written_small pending

/-! ### Bytes are processed as the packet that was written -/

theorem carried_short {sender : Peering} (short : sender.shortFormat = true) (packet : Packet) :
    sender.carried packet = packet := by
  unfold Peering.carried Peering.carriedExtras
  rw [if_pos short]

theorem writePacket_nonce {sender : Peering} (short : sender.shortFormat = true)
    (first second : HeaderNonce) (packet : Packet) :
    sender.writePacket first packet = sender.writePacket second packet := by
  unfold Peering.writePacket Peering.writePacketHeader
  rw [if_pos short, if_pos short]

theorem processIncomingBytes_written {sender receiver : Peering}
    (agrees : sender.Agrees receiver) (random : HeaderNonce) {packet : Packet}
    (fits : packet.Fits) (self : Controller) (now : Instant) :
    self.processIncomingBytes receiver (sender.writePacket random packet) now =
      ((self.processIncomingPacket (sender.carried packet) now).1.map .dropped,
        (self.processIncomingPacket (sender.carried packet) now).2) := by
  have small := fits.data
  have carried := fits.carried sender
  have stands : inputStream.remaining (.ofBytes (sender.writePacket random packet)) =
      sender.headerText random packet (BitVec.ofNat 32 packet.data.length) ++
        (extrasText (sender.carriedExtras packet.extras) ++ packet.data) := by
    rw [← List.append_assoc]
    exact writePacket_eq sender random fits
  have header := (header_reads agrees random packet (by rw [fits.lengthWithHeader]; omega)
    (by rw [fits.length]; omega)
    (BitVec.ofNat 64 (sender.writePacket random packet).length)).whole _ _ stands
  have extras := (extras_reads carried.1 carried.2).whole _ _
    (inputStream.remaining_behind stands)
  unfold Controller.processIncomingBytes
  rw [header]
  dsimp only [Peering.header]
  rw [collectExtras_of_read extras]
  by_cases accepted : (self.window.receive packet.pseq now).1.accepts = true
  · rw [if_pos accepted]
    exact congrArg (fun reports => (reports, _)) (List.append_nil _)
  · have refused : self.processIncomingPacket (sender.carried packet) now = ([], self) :=
      if_neg accepted
    rw [if_neg accepted, refused]
    rfl

/-- What the callers of the controllers are bound to. -/
def WireAction.Fits : WireAction → Prop
  | .enqueue _ _ data => SmallData data
  | .sendReliably _ _ data _ _ => SmallData data
  | .sendExtra _ extra => extra.Allowed
  | _ => True

structure Shadows (peering : Side → Peering) (wire : WireSystem) (system : System) : Prop where
  controllers : wire.controller = system.controller
  sent : ∀ side random,
    wire.sent side = (system.sent side).map ((peering side).writePacket random)
  fits : ∀ side, ∀ packet ∈ system.sent side, packet.Fits
  sendable : ∀ side, (system.controller side).Sendable

theorem initial_shadows (peering : Side → Peering) :
    Shadows peering WireSystem.initial System.initial where
  controllers := rfl
  sent _ _ := rfl
  fits _ := List.forall_mem_nil _
  sendable _ := initial_sendable

theorem forall_update {controllers : Side → Controller} {property : Controller → Prop}
    (all : ∀ side, property (controllers side)) {moving : Side} {controller : Controller}
    (moved : property controller) (side : Side) :
    property (Function.update controllers moving controller side) := by
  by_cases same : side = moving
  · subst same
    rw [Function.update_self]
    exact moved
  · rw [Function.update_of_ne same]
    exact all side

theorem Shadows.put {peering : Side → Peering} {wire : WireSystem} {system : System}
    (shadows : Shadows peering wire system) (side : Side) {controller : Controller}
    (sendable : controller.Sendable) :
    Shadows peering (wire.put side controller) (system.put side controller) where
  controllers := by
    dsimp only [WireSystem.put, System.put]
    rw [shadows.controllers]
  sent := shadows.sent
  fits := shadows.fits
  sendable := forall_update shadows.sendable sendable

theorem Shadows.send {peering : Side → Peering} {wire : WireSystem} {system : System}
    (shadows : Shadows peering wire system) (side : Side)
    (short : (peering side).shortFormat = true) (random : HeaderNonce) {packet : Packet}
    (fits : packet.Fits) :
    Shadows peering (wire.send side ((peering side).writePacket random packet))
      (system.send side packet) where
  controllers := shadows.controllers
  sent := by
    intro other nonce
    dsimp only [WireSystem.send, System.send]
    by_cases same : other = side
    · subst same
      rw [Function.update_self, Function.update_self, List.map_append, List.map_singleton,
        shadows.sent other nonce, writePacket_nonce short random nonce]
    · rw [Function.update_of_ne same, Function.update_of_ne same]
      exact shadows.sent other nonce
  fits := by
    intro other
    dsimp only [System.send]
    by_cases same : other = side
    · subst same
      rw [Function.update_self]
      exact List.forall_mem_append.mpr
        ⟨shadows.fits other, List.forall_mem_singleton.mpr fits⟩
    · rw [Function.update_of_ne same]
      exact shadows.fits other
  sendable := shadows.sendable

def Side.shown (dropped : Side × Dropped) : Side × Report := (dropped.1, .dropped dropped.2)

theorem wire_simulated {peering : Side → Peering}
    (agrees : ∀ side, (peering side.peer).Agrees (peering side))
    (short : ∀ side, (peering side).shortFormat = true) (random : HeaderNonce)
    (wire : WireSystem) (action : WireAction) (output : List (Side × Report))
    (target : WireSystem) (system : System) (shadows : Shadows peering wire system)
    (fired : WireSystem.step peering wire action = some (output, target))
    (fits : action.Fits) :
    ∃ seen dropped next, System.step system seen = some (dropped, next) ∧
      output = dropped.map Side.shown ∧ Shadows peering target next := by
  have same := shadows.controllers
  cases action with
  | enqueue side type data =>
      cases fired
      rw [same]
      exact ⟨.enqueue side type data, [], _, rfl, rfl,
        shadows.put side (enqueue_sendable (shadows.sendable side) type fits)⟩
  | sendReliably side type data retryInterval timeout =>
      cases fired
      rw [same]
      exact ⟨.sendReliably side type data retryInterval timeout, [], _, rfl, rfl,
        shadows.put side (sendPacketReliably_sendable (shadows.sendable side) type fits
          retryInterval timeout)⟩
  | updateQueued side now =>
      cases fired
      rw [same]
      exact ⟨.updateQueued side now, [], _, rfl, rfl,
        shadows.put side (updateQueuedPackets_sendable (shadows.sendable side) now)⟩
  | sendExtra side extra =>
      cases fired
      rw [same]
      exact ⟨.sendExtra side extra, [], _, rfl, rfl,
        shadows.put side (sendExtra_sendable (shadows.sendable side) fits)⟩
  | transmit side pending nonce =>
      dsimp only [WireSystem.step] at fired
      rw [same] at fired
      by_cases waiting : pending ∈ (system.controller side).sendQueue
      · rw [if_pos waiting] at fired
        cases fired
        exact ⟨.transmit side pending, [], _, if_pos waiting, rfl,
          (shadows.put side (writePacket_sendable (shadows.sendable side) pending)).send side
            (short side) nonce (writePacket_fits (shadows.sendable side) waiting)⟩
      · rw [if_neg waiting] at fired
        cases fired
  | deliver side bytes now =>
      dsimp only [WireSystem.step] at fired
      rw [same] at fired
      by_cases inside : bytes ∈ wire.sent side.peer
      · rw [if_pos inside] at fired
        rw [shadows.sent side.peer random] at inside
        obtain ⟨packet, sent, rfl⟩ := List.mem_map.mp inside
        have fit := shadows.fits _ packet sent
        have read : packet.asRead = packet := (asRead_eq_iff fit.count).mpr fit.extras
        rw [processIncomingBytes_written (agrees side) random fit,
          carried_short (short side.peer)] at fired
        cases fired
        refine ⟨.deliver side packet now, _, _, if_pos sent, ?_, ?_⟩
        · rw [read, List.map_map, List.map_map]
          rfl
        · rw [read]
          exact shadows.put side
            (processIncomingPacket_sendable (shadows.sendable side) packet now)
      · rw [if_neg inside] at fired
        cases fired

/-- While both ends use the short form, the controllers move over bytes as they
do over packets, and no packet is given up for its form. -/
theorem wire_run_is_packet_run {peering : Side → Peering}
    (agrees : ∀ side, (peering side.peer).Agrees (peering side))
    (short : ∀ side, (peering side).shortFormat = true)
    {taken : List (LabelledMachine.Transition WireSystem WireAction (Side × Report))}
    {wire : WireSystem} (run : WireRun peering taken wire)
    (fits : ∀ transition ∈ taken, transition.label.Fits) :
    ∃ exchanged system, SystemRun exchanged system ∧
      LabelledMachine.history taken =
        (LabelledMachine.history exchanged).map (fun dropped => (dropped.1, .dropped dropped.2)) ∧
      wire.controller = system.controller ∧
      ∀ side random,
        wire.sent side = (system.sent side).map ((peering side).writePacket random) := by
  obtain ⟨exchanged, system, reached, history, shadows⟩ :=
    run.simulated (initial_shadows peering)
      (wire_simulated agrees short blockNonce) fits
  exact ⟨exchanged, system, reached, history, shadows.controllers, shadows.sent⟩

def shortPeering : Peering := { blockPeering with peerVersion := 9 }

def extraOnTheWire : List WireAction :=
  [.sendExtra .caller ⟨1, [9]⟩, .enqueue .caller 4 [], .transmit .caller ⟨1, 4, []⟩ blockNonce,
    .deliver .callee [4, 0, 0, 0, 0, 1, 0, 0, 0, 0, 0, 0, 0, 1, 1, 2, 1, 9]
      ⟨1, Nat.zero_lt_one⟩]

def WireAction.fits : WireAction → Bool
  | .enqueue _ _ data => decide (data.length + 13 < 2 ^ 24)
  | .sendReliably _ _ data _ _ => decide (data.length + 13 < 2 ^ 24)
  | .sendExtra _ extra => decide (extra.type ∈ extraTypes) && decide (extra.data.length ≤ 254)
  | _ => true

theorem fits_of_check {action : WireAction} (checked : action.fits = true) : action.Fits := by
  cases action with
  | enqueue side type data =>
      exact (of_decide_eq_true checked : data.length + 13 < 2 ^ 24)
  | sendReliably side type data retryInterval timeout =>
      exact (of_decide_eq_true checked : data.length + 13 < 2 ^ 24)
  | sendExtra side extra =>
      obtain ⟨type, small⟩ := Bool.and_eq_true_iff.mp checked
      exact ⟨of_decide_eq_true type, of_decide_eq_true small⟩
  | _ => trivial

theorem extra_is_processed_over_bytes :
    ∃ taken wire, WireRun (fun _ => shortPeering) taken wire ∧
      (wire.controller .callee).processed = [⟨1, [9]⟩] ∧
      ∃ exchanged system, SystemRun exchanged system ∧ wire.controller = system.controller := by
  have replayed : (LabelledMachine.replay (WireSystem.step (fun _ => shortPeering))
      WireSystem.initial extraOnTheWire).map
        (fun reached => (reached.1.all (fun transition => transition.label.fits),
          (reached.2.controller .callee).processed)) = some (true, [⟨1, [9]⟩]) := rfl
  obtain ⟨taken, wire, run, summary⟩ := LabelledMachine.Run.of_replay_map replayed
  obtain ⟨checked, processed⟩ := Prod.mk.inj summary
  obtain ⟨exchanged, system, reached, _, same, _⟩ :=
    wire_run_is_packet_run (fun _ => ⟨rfl, rfl, fun _ => Iff.rfl⟩) (fun _ => rfl) run
      (fun transition member => fits_of_check (List.all_eq_true.mp checked transition member))
  exact ⟨taken, wire, run, processed, exchanged, system, reached, same⟩

end Tg2Sip.Voip
