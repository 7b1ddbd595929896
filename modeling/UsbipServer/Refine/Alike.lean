import UsbipServer.Spec.TwoRuns
import Mathlib.Data.List.InsertIdx

namespace UsbipServer

open Wire Library

/-! Two states that the new host can not tell apart: they differ in what was
only recorded, in calls begun before the reset, in who holds `receive_lock` and
in the parts of the two transfer buffers that were not written since. -/

/-- Calls begun since the reset, with the same arguments and as many resets
ago. -/
structure Call.Alike (first second : State) (left right : Call) : Prop where
  ep : left.ep = right.ep
  data : left.data = right.data
  generation : left.generation - first.device.resetGeneration =
    right.generation - second.device.resetGeneration
  begun : first.calls ≤ left.id
  alsoBegun : second.calls ≤ right.id

structure DeviceState.Alike (first second : State)
    (left right : DeviceState) : Prop where
  stopped : left.deviceStopped = right.deviceStopped
  stored : ∀ endpoint, (left.endpointData endpoint).map Cell.byte =
    (right.endpointData endpoint).map Cell.byte
  configurationValue : left.configurationValue = right.configurationValue
  controlAnswered : left.controlAnswered = right.controlAnswered
  generation : left.resetGeneration - first.device.resetGeneration =
    right.resetGeneration - second.device.resetGeneration

/-- An application thread that is not in a call begun since `first`. -/
def CallPhase.isOld (first : State) : CallPhase → Bool
  | .idle => true
  | .waiting call => call.id < first.calls
  | .stored call => call.id < first.calls

inductive CallPhase.Alike (first second : State) : CallPhase → CallPhase → Prop
  | old {left right : CallPhase} (before : left.isOld first = true)
      (alsoBefore : right.isOld second = true) : Alike first second left right
  | waiting {left right : Call} (call : Call.Alike first second left right) :
      Alike first second (.waiting left) (.waiting right)
  | stored {left right : Call} (call : Call.Alike first second left right) :
      Alike first second (.stored left) (.stored right)

def PendingUrb.anonymous (urb : PendingUrb) : PendingUrb :=
  { urb with ticket := 0 }

/-- A submit whose data is among the first `extent` bytes of `rx_buffer`. -/
structure Request.Alike (extent : Nat) (left right : Request) : Prop where
  command : left.command = right.command
  arrived : left.command.payload.length ≤ extent
  outward : left.direction = 0 →
    left.command.payload.length = left.transferBufferLength.toNat

inductive Continuation.Alike (extent : Nat) :
    Continuation → Continuation → Prop
  | control {left right : Request} (request : Request.Alike extent left right) :
      Alike extent (.control left) (.control right)
  | receive {left right : Request} (request : Request.Alike extent left right)
      (outward : left.direction = 0) :
      Alike extent (.receive left) (.receive right)
  | isoOut {left right : Request} {packet : IsoPacket} {rest : List IsoPacket}
      (request : Request.Alike extent left right)
      (inside : ∀ piece ∈ packet :: rest,
        piece.offset.toNat + piece.length.toNat ≤ extent) :
      Alike extent (.isoOut left packet rest) (.isoOut right packet rest)
  | isoIn {left right : PendingUrb} {actual : List Nat} {packet : IsoPacket}
      {rest : List IsoPacket} {back : IsoReturn}
      (urb : left.anonymous = right.anonymous)
      (inward : left.direction ≠ 0) :
      Alike extent (.isoIn left actual packet rest back)
        (.isoIn right actual packet rest back)
  | reset {reason : ResetReason} : Alike extent (.reset reason) (.reset reason)

inductive Phase.Alike (first second : State) (extent : Nat) :
    Phase → Phase → Prop
  | accept : Alike first second extent .accept .accept
  | serve : Alike first second extent .serve .serve
  | control {left right : Request} (request : Request.Alike extent left right) :
      Alike first second extent (.control left) (.control right)
  | answer {left right : Request} {data : List Byte}
      (request : Request.Alike extent left right) :
      Alike first second extent (.answer left data) (.answer right data)
  | fetchAnswered {left right : Request} {supported : Bool}
      (request : Request.Alike extent left right) :
      Alike first second extent (.fetchAnswered left supported)
        (.fetchAnswered right supported)
  | fetchReply {left right : Request} {supported answered : Bool}
      (request : Request.Alike extent left right) :
      Alike first second extent (.fetchReply left supported answered)
        (.fetchReply right supported answered)
  | isoSchedule {left right : Request}
      (request : Request.Alike extent left right) :
      Alike first second extent (.isoSchedule left) (.isoSchedule right)
  | lock {left right : Continuation}
      (next : Continuation.Alike extent left right) :
      Alike first second extent (.lock left) (.lock right)
  | calling {made : Nat} {left right : Continuation}
      (next : Continuation.Alike extent left right) :
      Alike first second extent (.callback none made left)
        (.callback none made right)
  | posting {made : Nat} {left right : Continuation} {call other : Call}
      (posts : Call.Alike first second call other)
      (next : Continuation.Alike extent left right) :
      Alike first second extent (.callback (some call) made left)
        (.callback (some other) made right)
  | clearEvent {status : Bool} :
      Alike first second extent (.clearEvent status) (.clearEvent status)
  | pass {now index : Nat} :
      Alike first second extent (.pass now index) (.pass now index)
  | reset {reason : ResetReason} :
      Alike first second extent (.reset reason) (.reset reason)
  | resetEvent {reason : ResetReason} :
      Alike first second extent (.resetEvent reason) (.resetEvent reason)
  | stop : Alike first second extent .stop .stop
  | stopped : Alike first second extent .stopped .stopped

/-- What the server thread has besides its place. -/
structure Same (first second : State) (extent : Nat) (s t : State) : Prop where
  tcpip : s.tcpip = t.tcpip
  device : DeviceState.Alike first second s.device t.device
  imported : s.deviceImported = t.deviceImported
  pending : s.pendingUrbs.map PendingUrb.anonymous =
    t.pendingUrbs.map PendingUrb.anonymous
  endpoints : s.endpoints = t.endpoints
  received : ∀ index < extent, s.rxBuffer index = t.rxBuffer index
  threads : ∀ thread, CallPhase.Alike first second (s.threads thread).call
    (t.threads thread).call
  begun : first.calls ≤ s.calls ∧ second.calls ≤ t.calls
  grown : first.trace.length ≤ s.trace.length ∧
    second.trace.length ≤ t.trace.length
  heard : first.heardSince s = second.heardSince t
  covered : ∀ earlier, Event.submit earlier ∈ first.eventsSince s →
    earlier.command.payload.length ≤ extent

/-- How much of the data of an isochronous IN transfer is in `tx_buffer`. -/
def Phase.packed : Phase → Nat
  | .lock (.isoIn _ actual _ _ _) => actual.sum
  | .callback _ _ (.isoIn _ actual _ _ _) => actual.sum
  | _ => 0

structure Related (first second : State) (extent : Nat) (s t : State) :
    Prop where
  same : Same first second extent s t
  phase : Phase.Alike first second extent s.phase t.phase
  packed : ∀ index < s.phase.packed,
    (s.txBuffer index).byte = (t.txBuffer index).byte

/-- Events that tell neither a callback nor the arrival of a submit. -/
def Event.isAside : Event → Bool
  | .callback _ => false
  | .submit _ => false
  | _ => true

section

variable {first second s t : State} {extent : Nat}

theorem State.eventsSince_emit (grown : first.trace.length ≤ s.trace.length)
    (events : List Event) :
    first.eventsSince (s.emit events) = first.eventsSince s ++ events :=
  List.drop_append_of_le_length grown

theorem State.heardSince_emit (grown : first.trace.length ≤ s.trace.length)
    (events : List Event) :
    first.heardSince (s.emit events) =
      first.heardSince s ++ events.filterMap Event.heard := by
  rw [State.heardSince, State.eventsSince_emit grown, List.filterMap_append]
  rfl

theorem Event.heard_aside {events : List Event}
    (aside : ∀ event ∈ events, event.isAside = true) :
    events.filterMap Event.heard = [] := by
  apply List.filterMap_eq_nil_iff.mpr
  intro event member
  have apart := aside event member
  cases event with
  | callback => contradiction
  | _ => rfl

theorem State.length_emit (grown : first.trace.length ≤ s.trace.length)
    (events : List Event) :
    first.trace.length ≤ (s.emit events).trace.length := by
  simp only [State.emit, List.length_append]
  omega

theorem Same.emit {events others : List Event}
    (same : Same first second extent s t)
    (aside : ∀ event ∈ events, event.isAside = true)
    (alsoAside : ∀ event ∈ others, event.isAside = true) :
    Same first second extent (s.emit events) (t.emit others) := by
  obtain ⟨grown, alsoGrown⟩ := same.grown
  refine { same with
    grown := ⟨State.length_emit grown events,
      State.length_emit alsoGrown others⟩
    heard := ?_
    covered := ?_ }
  · rw [State.heardSince_emit grown, State.heardSince_emit alsoGrown,
      Event.heard_aside aside, Event.heard_aside alsoAside, same.heard]
  · intro earlier member
    rw [State.eventsSince_emit grown] at member
    rcases List.mem_append.mp member with before | now
    · exact same.covered earlier before
    · exact absurd (aside _ now) (by simp [Event.isAside])

theorem Same.record {event other : Event}
    (same : Same first second extent s t) (aside : event.isAside = true)
    (alsoAside : other.isAside = true) :
    Same first second extent (s.emit [event]) (t.emit [other]) :=
  same.emit (by simpa using aside) (by simpa using alsoAside)

theorem Same.goto {left right : Phase} (same : Same first second extent s t)
    (phase : Phase.Alike first second extent left right)
    (free : left.packed = 0) :
    Related first second extent (s.goto left) (t.goto right) := by
  refine ⟨{ same with }, phase, ?_⟩
  intro index bound
  rw [State.goto, free] at bound
  contradiction

theorem Same.connected (same : Same first second extent s t) (tcpip : Tcpip) :
    Same first second extent { s with tcpip := tcpip }
      { t with tcpip := tcpip } :=
  { same with tcpip := rfl }

theorem Same.sendReply {reply other : Reply}
    (same : Same first second extent s t) (parts : reply.parts = other.parts) :
    (sendReply reply s).1 = (sendReply other t).1 ∧
      Same first second extent (sendReply reply s).2
        (sendReply other t).2 := by
  have written : tcpipServerWriteAll s.tcpip reply.parts =
      tcpipServerWriteAll t.tcpip other.parts := by
    rw [same.tcpip, parts]
  have status : (UsbipServer.sendReply reply s).1 =
      (UsbipServer.sendReply other t).1 := by
    change (tcpipServerWriteAll s.tcpip reply.parts).1 = _
    rw [written]
    rfl
  refine ⟨status, ?_⟩
  simp only [UsbipServer.sendReply, written]
  apply (same.connected _).record
  · split <;> rfl
  · split <;> rfl

theorem slice_bytes {left right : Buffer Cell} {length : Nat}
    (agree : ∀ index < length, (left index).byte = (right index).byte) :
    (left.slice 0 length).map Cell.byte =
      (right.slice 0 length).map Cell.byte := by
  simp only [Buffer.slice, List.map_map]
  apply List.map_congr_left
  intro index member
  simpa using agree index (List.mem_range.mp member)

theorem retSubmitReply_parts {left right : Transfer} {urbStatus : UInt32}
    {actualLength : Nat} {sendData : Bool} {txBuffer other : Buffer Cell}
    (seqnum : left.seqnum = right.seqnum)
    (agree : sendData = true → ∀ index < actualLength,
      (txBuffer index).byte = (other index).byte) :
    (retSubmitReply left urbStatus actualLength sendData txBuffer).parts =
      (retSubmitReply right urbStatus actualLength sendData other).parts := by
  simp only [Reply.parts, Reply.header, retSubmitReply, seqnum]
  cases sendData with
  | false => rfl
  | true =>
      simp only [if_true]
      rw [slice_bytes (agree rfl)]

theorem Same.finishSubmit {left right : Request} {urbStatus : UInt32}
    {actualLength : Nat} {sendData : Bool}
    (same : Same first second extent s t)
    (request : Request.Alike extent left right)
    (agree : sendData = true → ∀ index < actualLength,
      (s.txBuffer index).byte = (t.txBuffer index).byte) :
    Related first second extent
      (finishSubmit left urbStatus actualLength sendData s)
      (finishSubmit right urbStatus actualLength sendData t) := by
  have seqnum : (left.transfer false).seqnum = (right.transfer false).seqnum :=
    congrArg (fun command => command.header.seqnum) request.command
  obtain ⟨status, sent⟩ := same.sendReply
    (@retSubmitReply_parts _ _ urbStatus actualLength sendData _ _ seqnum agree)
  simp only [UsbipServer.finishSubmit, transmitRetSubmit, status]
  exact sent.goto .clearEvent rfl

theorem PendingUrb.eq_of_anonymous {left right : PendingUrb}
    (same : left.anonymous = right.anonymous) :
    right = { left with ticket := right.ticket } := by
  obtain ⟨⟨_, _, _, _, _, _⟩, _, _, _, _⟩ := left
  obtain ⟨⟨_, _, _, _, _, _⟩, _, _, _, _⟩ := right
  simp only [anonymous, mk.injEq, Transfer.mk.injEq, true_and] at same ⊢
  obtain ⟨⟨rfl, rfl, rfl, rfl, rfl⟩, rfl, rfl, rfl, rfl⟩ := same
  exact ⟨⟨rfl, rfl, rfl, rfl, rfl⟩, rfl, rfl, rfl, rfl⟩

theorem isoReply_parts {urb : PendingUrb} {ticket : Nat} {actual : List Nat}
    {txBuffer other : Buffer Cell}
    (agree : urb.direction ≠ 0 → ∀ index < actual.sum,
      (txBuffer index).byte = (other index).byte) :
    (isoReply urb actual txBuffer).parts =
      (isoReply { urb with ticket := ticket } actual other).parts := by
  simp only [Reply.parts, Reply.header, isoReply]
  by_cases inward : urb.direction ≠ 0
  · rw [if_pos inward, if_pos inward, slice_bytes (agree inward)]
  · rw [if_neg inward, if_neg inward]

theorem Same.lostConnection (same : Same first second extent s t) :
    Related first second extent (lostConnection s) (lostConnection t) := by
  have cleared : Same first second extent
      { s with deviceImported := false, pendingUrbs := [] }
      { t with deviceImported := false, pendingUrbs := [] } :=
    { same with imported := rfl, pending := rfl }
  exact (cleared.record rfl rfl).goto .reset rfl

theorem Same.erase (same : Same first second extent s t) (index : Nat) :
    Same first second extent
      { s with pendingUrbs := s.pendingUrbs.eraseIdx index }
      { t with pendingUrbs := t.pendingUrbs.eraseIdx index } := by
  refine { same with pending := ?_ }
  simp only [← List.eraseIdx_map, same.pending]

theorem Same.finishIso {urb : PendingUrb} {ticket : Nat} {actual : List Nat}
    {back : IsoReturn} (same : Same first second extent s t)
    (agree : urb.direction ≠ 0 → ∀ index < actual.sum,
      (s.txBuffer index).byte = (t.txBuffer index).byte) :
    Related first second extent (finishIso urb actual back s)
      (finishIso { urb with ticket := ticket } actual back t) := by
  obtain ⟨status, sent⟩ :=
    same.sendReply (@isoReply_parts urb ticket actual _ _ agree)
  cases back with
  | command =>
      simp only [UsbipServer.finishIso, status]
      exact sent.goto .clearEvent rfl
  | pass now index =>
      have erased := sent.erase index
      simp only [UsbipServer.finishIso, status]
      split
      · exact erased.goto .pass rfl
      · exact erased.lostConnection

theorem Same.transmitIso {dev : UsbipDevice} {urb : PendingUrb} {ticket : Nat}
    {back : IsoReturn} {packets : List IsoPacket} {actual : List Nat}
    (same : Same first second extent s t)
    (agree : urb.direction ≠ 0 → ∀ index < actual.sum,
      (s.txBuffer index).byte = (t.txBuffer index).byte) :
    Related first second extent
      (transmitIsoRetSubmit dev urb back packets actual s)
      (transmitIsoRetSubmit dev { urb with ticket := ticket } back packets
        actual t) := by
  induction packets generalizing actual with
  | nil => exact same.finishIso agree
  | cons packet rest induction =>
      simp only [transmitIsoRetSubmit]
      split
      next outward =>
        apply induction
        exact fun inward => absurd outward inward
      next inward =>
        split
        · exact ⟨{ same with }, .lock (.isoIn rfl inward), agree inward⟩
        · apply induction
          intro _ index bound
          apply agree inward
          simpa using bound

theorem Request.Alike.direction {left right : Request}
    (request : Request.Alike extent left right) :
    right.direction = left.direction :=
  (congrArg (fun command => command.header.direction) request.command).symm

theorem Request.Alike.ep {left right : Request}
    (request : Request.Alike extent left right) : right.ep = left.ep :=
  (congrArg (fun command => command.header.ep) request.command).symm

theorem Request.Alike.transferBufferLength {left right : Request}
    (request : Request.Alike extent left right) :
    right.transferBufferLength = left.transferBufferLength :=
  (congrArg (fun command => command.submit.transferBufferLength)
    request.command).symm

theorem Same.finishControl {left right : Request} {supported : Bool}
    {txLength : Nat} (same : Same first second extent s t)
    (request : Request.Alike extent left right)
    (agree : ∀ index < txLength,
      (s.txBuffer index).byte = (t.txBuffer index).byte) :
    Related first second extent (finishControl left supported txLength s)
      (finishControl right supported txLength t) := by
  unfold UsbipServer.finishControl
  rw [request.direction, request.transferBufferLength]
  split
  · exact same.finishSubmit request (by simp)
  · split
    · exact same.finishSubmit request (by simp)
    · exact same.finishSubmit request fun _ => agree

theorem Same.controlHandled {left right : Request} {supported : Bool}
    (same : Same first second extent s t)
    (request : Request.Alike extent left right) :
    Related first second extent (controlHandled left supported s)
      (controlHandled right supported t) := by
  unfold UsbipServer.controlHandled
  rw [request.direction]
  split
  · exact same.goto (.fetchAnswered request) rfl
  · apply same.finishControl request
    intro index bound
    contradiction

theorem Same.deliverPackets {dev : UsbipDevice} {left right : Request}
    {packets : List IsoPacket} (same : Same first second extent s t)
    (request : Request.Alike extent left right)
    (inside : ∀ piece ∈ packets,
      piece.offset.toNat + piece.length.toNat ≤ extent) :
    Related first second extent (deliverPackets dev left packets s)
      (deliverPackets dev right packets t) := by
  induction packets with
  | nil =>
      exact same.goto (.isoSchedule request) rfl
  | cons packet rest induction =>
      simp only [UsbipServer.deliverPackets]
      split
      · exact same.goto (.lock (.isoOut request inside)) rfl
      · apply induction
        intro piece member
        exact inside piece (List.mem_cons_of_mem packet member)

theorem Same.queue {urb other : PendingUrb}
    (same : Same first second extent s t)
    (alike : urb.anonymous = other.anonymous) :
    Related first second extent
      (({ s with pendingUrbs := s.pendingUrbs ++ [urb] }.emit
        [.queued urb]).goto (.clearEvent true))
      (({ t with pendingUrbs := t.pendingUrbs ++ [other] }.emit
        [.queued other]).goto (.clearEvent true)) := by
  have filed : Same first second extent
      { s with pendingUrbs := s.pendingUrbs ++ [urb] }
      { t with pendingUrbs := t.pendingUrbs ++ [other] } := by
    refine { same with pending := ?_ }
    simp only [List.map_append, same.pending, List.map_cons, alike]
  exact (filed.record rfl rfl).goto .clearEvent rfl

theorem Same.length_pending (same : Same first second extent s t) :
    t.pendingUrbs.length = s.pendingUrbs.length := by
  have lengths := congrArg List.length same.pending
  rw [List.length_map, List.length_map] at lengths
  exact lengths.symm

theorem Same.processSubmit {dev : UsbipDevice} {left right : Request}
    (same : Same first second extent s t)
    (request : Request.Alike extent left right)
    (inside : isIsochronous s.endpoints left.command.header = true →
      ∀ piece ∈ left.outPackets,
        piece.offset.toNat + piece.length.toNat ≤ extent) :
    Related first second extent (processSubmit dev left s)
      (processSubmit dev right t) := by
  have kind : isIsochronous t.endpoints right.command.header =
      isIsochronous s.endpoints left.command.header := by
    rw [same.endpoints, request.command]
  have packets : right.outPackets = left.outPackets := by
    rw [Request.outPackets, Request.outPackets, request.direction,
      Request.isoPackets, Request.isoPackets, request.command]
  have urb : left.urb.anonymous = right.urb.anonymous := by
    simp [Request.urb, PendingUrb.anonymous, Request.transfer, Request.seqnum,
      Request.ep, Request.direction, Request.transferBufferLength,
      request.command]
  unfold UsbipServer.processSubmit
  rw [kind, packets, request.ep, request.direction,
    request.transferBufferLength, same.length_pending]
  split
  next iso => exact same.deliverPackets request (inside iso)
  next =>
    split
    · exact same.goto (.control request) rfl
    · split
      next outward =>
        split
        · exact same.goto (.lock (.receive request outward)) rfl
        · exact same.finishSubmit request (by simp)
      next =>
        split
        · exact same.finishSubmit request (by simp)
        · exact same.queue urb

theorem Request.Alike.isoUrb {left right : Request}
    (request : Request.Alike extent left right) (completeUs : Nat) :
    (left.isoUrb completeUs).anonymous = (right.isoUrb completeUs).anonymous := by
  simp [Request.isoUrb, PendingUrb.anonymous, Request.transfer, Request.seqnum,
    Request.ep, Request.direction, Request.transferBufferLength,
    Request.isoPackets, request.command]

theorem Same.scheduled (same : Same first second extent s t)
    (endpoints : Endpoints) :
    Same first second extent { s with endpoints := endpoints }
      { t with endpoints := endpoints } :=
  { same with endpoints := rfl }

theorem Same.scheduleIso {dev : UsbipDevice} {left right : Request} {now : Nat}
    (same : Same first second extent s t)
    (request : Request.Alike extent left right) :
    Related first second extent (scheduleIso dev left now s)
      (scheduleIso dev right now t) := by
  simp only [UsbipServer.scheduleIso, request.ep, request.direction,
    ← request.command, ← same.endpoints, same.length_pending]
  generalize isoCompleteUs _ _ _ = completeUs
  generalize Endpoints.set _ _ _ _ = endpoints
  have urb := request.isoUrb completeUs
  split
  · rw [PendingUrb.eq_of_anonymous urb]
    apply (same.scheduled endpoints).transmitIso
    intro _ index bound
    contradiction
  · exact (same.scheduled endpoints).queue urb

theorem hasPendingIsoUrbs_anonymous (pendingUrbs : List PendingUrb)
    (ep direction : UInt32) :
    hasPendingIsoUrbs (pendingUrbs.map PendingUrb.anonymous) ep direction =
      hasPendingIsoUrbs pendingUrbs ep direction := by
  rw [hasPendingIsoUrbs, List.any_map]
  rfl

theorem findPendingUrb_anonymous (pendingUrbs : List PendingUrb)
    (seqnum : UInt32) :
    findPendingUrb (pendingUrbs.map PendingUrb.anonymous) seqnum =
      findPendingUrb pendingUrbs seqnum := by
  rw [findPendingUrb, List.findIdx?_map]
  rfl

theorem Same.stopStream {urb : PendingUrb} {ticket : Nat}
    (same : Same first second extent s t) :
    Same first second extent (stopStream urb s)
      (stopStream { urb with ticket := ticket } t) := by
  have alone : hasPendingIsoUrbs t.pendingUrbs urb.ep urb.direction =
      hasPendingIsoUrbs s.pendingUrbs urb.ep urb.direction := by
    rw [← hasPendingIsoUrbs_anonymous, ← same.pending,
      hasPendingIsoUrbs_anonymous]
  simp only [UsbipServer.stopStream, alone, ← same.endpoints]
  split
  · exact same.scheduled _
  · exact same

theorem Same.sendUnlinkReply {reply other : UnlinkReply}
    (same : Same first second extent s t) (parts : reply.parts = other.parts) :
    Related first second extent (sendUnlinkReply reply s)
      (sendUnlinkReply other t) := by
  have written : tcpipServerWriteAll s.tcpip reply.parts =
      tcpipServerWriteAll t.tcpip other.parts := by
    rw [same.tcpip, parts]
  simp only [UsbipServer.sendUnlinkReply, written]
  refine ((same.connected _).record ?_ ?_).goto .clearEvent rfl
  · split <;> rfl
  · split <;> rfl

theorem Same.pending_at (same : Same first second extent s t) (index : Nat) :
    t.pendingUrbs[index]? = none ∧ s.pendingUrbs[index]? = none ∨
      ∃ urb ticket, s.pendingUrbs[index]? = some urb ∧
        t.pendingUrbs[index]? = some { urb with ticket := ticket } := by
  have entry := congrArg (fun urbs => urbs[index]?) same.pending
  simp only [List.getElem?_map] at entry
  cases left : s.pendingUrbs[index]? with
  | none =>
      rw [left] at entry
      cases right : t.pendingUrbs[index]? with
      | none => exact .inl ⟨rfl, rfl⟩
      | some urb => simp [right] at entry
  | some urb =>
      rw [left] at entry
      cases right : t.pendingUrbs[index]? with
      | none => simp [right] at entry
      | some other =>
          rw [right] at entry
          have alike := PendingUrb.eq_of_anonymous (Option.some.inj entry)
          exact .inr ⟨urb, other.ticket, rfl, congrArg some alike⟩

theorem Same.processUnlink {command : UnlinkCommand}
    (same : Same first second extent s t) :
    Related first second extent (processUnlink command s)
      (processUnlink command t) := by
  have found : findPendingUrb t.pendingUrbs command.unlink.unlinkSeqnum =
      findPendingUrb s.pendingUrbs command.unlink.unlinkSeqnum := by
    rw [← findPendingUrb_anonymous, ← same.pending, findPendingUrb_anonymous]
  simp only [UsbipServer.processUnlink, found]
  cases findPendingUrb s.pendingUrbs command.unlink.unlinkSeqnum with
  | none => exact same.sendUnlinkReply rfl
  | some index =>
      rcases same.pending_at index with ⟨right, left⟩ | ⟨urb, ticket, left, right⟩
      · simp only [left, right]
        exact same.sendUnlinkReply rfl
      · simp only [left, right]
        exact (same.erase index).stopStream.sendUnlinkReply rfl

theorem write_agree {left right : Buffer Byte} {content : List Byte}
    {index : Nat} (agree : index < content.length ∨ left index = right index) :
    left.write 0 content index = right.write 0 content index := by
  simp only [Buffer.write, Nat.zero_le, if_true, Nat.sub_zero]
  rcases agree with inside | same
  · rw [List.getElem?_eq_getElem inside]
    rfl
  · rw [same]

/-- What was read ends up in the buffer, and the bytes in front of `extent`
stay alike. -/
theorem Same.received_more {payload : List Byte} {tcpip : Tcpip}
    (same : Same first second extent s t) :
    Same first second (max extent payload.length)
      { s with tcpip := tcpip, rxBuffer := s.rxBuffer.write 0 payload }
      { t with tcpip := tcpip, rxBuffer := t.rxBuffer.write 0 payload } := by
  refine { same with tcpip := rfl, received := ?_, covered := ?_ }
  · intro index bound
    apply write_agree
    by_cases inside : index < payload.length
    · exact .inl inside
    · exact .inr (same.received index (by omega))
  · intro earlier member
    have before := same.covered earlier member
    omega

theorem Same.arrive {command : SubmitCommand}
    (same : Same first second extent s t)
    (short : command.payload.length ≤ extent) :
    Same first second extent
      ({ s with tickets := s.tickets + 1 }.emit
        [.submit ⟨s.tickets, command⟩])
      ({ t with tickets := t.tickets + 1 }.emit
        [.submit ⟨t.tickets, command⟩]) := by
  have counted : Same first second extent { s with tickets := s.tickets + 1 }
      { t with tickets := t.tickets + 1 } :=
    { same with }
  obtain ⟨grown, alsoGrown⟩ := counted.grown
  refine { counted with
    grown := ⟨State.length_emit grown _, State.length_emit alsoGrown _⟩
    heard := ?_
    covered := ?_ }
  · rw [State.heardSince_emit grown, State.heardSince_emit alsoGrown,
      counted.heard]
    rfl
  · intro earlier member
    rw [State.eventsSince_emit grown] at member
    rcases List.mem_append.mp member with before | now
    · exact counted.covered earlier before
    · obtain rfl := Event.submit.inj (List.mem_singleton.mp now)
      exact short

theorem outPackets_inside {endpoints : Endpoints} {request : Request}
    (formed : WellFormedSubmit endpoints request.command)
    (iso : isIsochronous endpoints request.command.header = true)
    {piece : IsoPacket} (member : piece ∈ request.outPackets) :
    piece.offset.toNat + piece.length.toNat ≤
      request.command.payload.length := by
  unfold Request.outPackets at member
  split at member
  next outward =>
    obtain ⟨packet, listed, rfl⟩ := List.mem_map.mp member
    rw [formed.outward outward]
    exact of_decide_eq_true ((formed.isochronous iso).2.2 packet listed)
  next => contradiction

theorem Same.processImportedCmd {dev : UsbipDevice} {s' t' : State}
    (same : Same first second extent s t)
    (stepped : processImportedCmd dev s = some s')
    (alsoStepped : processImportedCmd dev t = some t') :
    ∃ wider, Related first second wider s' t' := by
  have alsoReceived : receiveCommand t.endpoints t.tcpip =
      receiveCommand s.endpoints s.tcpip := by
    rw [same.endpoints, same.tcpip]
  unfold UsbipServer.processImportedCmd at stepped alsoStepped
  rw [alsoReceived] at alsoStepped
  cases received : receiveCommand s.endpoints s.tcpip with
  | blocked => simp [received] at stepped
  | failed tcpip rx =>
      simp only [received] at stepped alsoStepped
      obtain rfl := Option.some.inj stepped
      obtain rfl := Option.some.inj alsoStepped
      have read := @Same.received_more first second s t extent rx tcpip same
      exact ⟨_, read.goto .clearEvent rfl⟩
  | command tcpip command =>
      have formed := receiveCommand_wellFormed received
      simp only [received] at stepped alsoStepped
      have read := @Same.received_more first second s t extent command.payload
        tcpip same
      cases command with
      | submit command =>
          obtain rfl := Option.some.inj stepped
          obtain rfl := Option.some.inj alsoStepped
          have short : command.payload.length ≤
              max extent command.payload.length := le_max_right _ _
          have accepted : WellFormedSubmit s.endpoints
              (Request.mk s.tickets command).command := formed
          refine ⟨_, (read.arrive short).processSubmit
            ⟨rfl, short, accepted.outward⟩ ?_⟩
          intro iso piece member
          exact (outPackets_inside accepted iso member).trans short
      | unlink command =>
          obtain rfl := Option.some.inj stepped
          obtain rfl := Option.some.inj alsoStepped
          exact ⟨_, (read.record rfl rfl).processUnlink⟩

theorem DeviceState.Alike.setEndpoint {device other : DeviceState}
    {left right : List Cell} (alike : DeviceState.Alike first second device other)
    (endpoint : Fin 16)
    (same : left.map Cell.byte = right.map Cell.byte) :
    DeviceState.Alike first second (device.setEndpoint endpoint left)
      (other.setEndpoint endpoint right) := by
  refine { alike with stored := ?_ }
  intro place
  by_cases here : place = endpoint
  · subst here
    simpa using same
  · simpa [here] using alike.stored place

theorem DeviceState.Alike.length_stored {device other : DeviceState}
    (alike : DeviceState.Alike first second device other)
    (endpoint : Fin 16) :
    (other.endpointData endpoint).length =
      (device.endpointData endpoint).length := by
  have lengths := congrArg List.length (alike.stored endpoint)
  rw [List.length_map, List.length_map] at lengths
  exact lengths.symm

theorem DeviceState.Alike.fetch {device other : DeviceState}
    (alike : DeviceState.Alike first second device other) (ep : Byte)
    (maxLength : Nat) :
    (device.usbipDeviceFetchEpData ep maxLength).1.map Cell.byte =
        (other.usbipDeviceFetchEpData ep maxLength).1.map Cell.byte ∧
      DeviceState.Alike first second
        (device.usbipDeviceFetchEpData ep maxLength).2
        (other.usbipDeviceFetchEpData ep maxLength).2 := by
  simp only [DeviceState.usbipDeviceFetchEpData, alike.length_stored]
  refine ⟨?_, alike.setEndpoint _ ?_⟩
  · rw [List.map_take, List.map_take, alike.stored]
  · split
    · rfl
    · rw [List.map_drop, List.map_drop, alike.stored]

theorem DeviceState.Alike.forgetAnswer {device other : DeviceState}
    (alike : DeviceState.Alike first second device other) (setup : Setup) :
    DeviceState.Alike first second
      { device.forgetAnswer with
        configurationValue :=
          configurationAfter setup device.configurationValue }
      { other.forgetAnswer with
        configurationValue :=
          configurationAfter setup other.configurationValue } := by
  have emptied : DeviceState.Alike first second (device.setEndpoint 0 [])
      (other.setEndpoint 0 []) := alike.setEndpoint 0 rfl
  refine { emptied with configurationValue := ?_, controlAnswered := rfl }
  rw [alike.configurationValue]

end

end UsbipServer
