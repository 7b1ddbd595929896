import UsbipServer.System

namespace UsbipServer

open Wire Library

/-! The parts of a step that several steps have in common: the locked section of
a transmit, and what is left to do once a command was read, a callback returned
or the device was reset. -/

/-- The locked section of a transmit: what it leaves behind, where its thread
is afterwards and what is recorded. -/
inductive Section (mayWait : Bool) (device : DeviceState) (call : Call) :
    DeviceState → CallPhase → List Event → Prop
  | waiting (data : call.endpoint ≠ 0) (running : device.deviceStopped = false)
      (full : device.endpointData call.endpoint ≠ []) (may : mayWait = true) :
      Section mayWait device call device (.waiting call) []
  | stored (running : device.deviceStopped = false)
      (current : call.generation = device.resetGeneration)
      (room : call.endpoint = 0 ∨ device.endpointData call.endpoint = []) :
      Section mayWait device call
        { device.setEndpoint call.endpoint call.cells with
          controlAnswered :=
            device.controlAnswered || decide (call.endpoint = 0) }
        (if call.endpoint = 0 then .idle else .stored call)
        (storedEvents call)
  | dropped (unblocked : mayWait = true → call.endpoint ≠ 0 →
        device.deviceStopped = false →
        device.endpointData call.endpoint = [])
      (refused : device.deviceStopped = false →
        call.generation = device.resetGeneration →
        call.endpoint ≠ 0 ∧ device.endpointData call.endpoint ≠ []) :
      Section mayWait device call device .idle [.returned call false]

theorem threadTransmit_section (thread : Nat) (mayWait : Bool) (call : Call)
    (s : State) :
    ∃ device phase events, Section mayWait s.device call device phase events ∧
      threadTransmit thread mayWait call s =
        setCall ({ s with device := device }.emit events) thread phase := by
  unfold threadTransmit
  cases outcome : usbipDeviceTransmit mayWait call s.device with
  | waiting =>
      obtain ⟨may, data, running, full⟩ := usbipDeviceTransmit_waiting outcome
      refine ⟨_, _, _, .waiting data running full may, ?_⟩
      simp [State.emit]
  | stored device =>
      obtain ⟨running, current, room, rfl⟩ :=
        usbipDeviceTransmit_stored outcome
      exact ⟨_, _, _, .stored running current room, rfl⟩
  | dropped =>
      obtain ⟨unblocked, refused⟩ := usbipDeviceTransmit_dropped outcome
      exact ⟨_, _, _, .dropped unblocked refused, rfl⟩

def CallPhase.posting : CallPhase → Option Call
  | .stored call => some call
  | _ => none

theorem Section.control_settled {mayWait : Bool} {device device' : DeviceState}
    {call : Call} {phase : CallPhase} {events : List Event}
    (ran : Section mayWait device call device' phase events)
    (control : call.endpoint = 0) : phase.posting = none := by
  cases ran with
  | waiting data => exact absurd control data
  | stored => simp [control, CallPhase.posting]
  | dropped => rfl

theorem Section.waits {mayWait : Bool} {device device' : DeviceState}
    {call other : Call} {phase : CallPhase} {events : List Event}
    (ran : Section mayWait device call device' phase events)
    (blocked : phase = .waiting other) :
    other = call ∧ mayWait = true := by
  cases ran with
  | waiting _ _ _ may => exact ⟨(CallPhase.waiting.inj blocked).symm, may⟩
  | stored => split at blocked <;> contradiction
  | dropped => contradiction

theorem serverTransmit_section (ep : Byte) (data : List Byte) (s : State) :
    ∃ device phase events,
      Section false s.device (newCall s ep data) device phase events ∧
      (serverTransmit ep data s).1 = phase.posting ∧
      (serverTransmit ep data s).2 =
        { s with calls := s.calls + 1, device := device }.emit
          (.entered (newCall s ep data) :: events) := by
  simp only [serverTransmit]
  cases outcome : usbipDeviceTransmit false (newCall s ep data) s.device with
  | waiting =>
      have contrary := (usbipDeviceTransmit_waiting outcome).1
      contradiction
  | stored device =>
      obtain ⟨running, current, room, rfl⟩ :=
        usbipDeviceTransmit_stored outcome
      refine ⟨_, _, _, .stored running current room, ?_, ?_⟩
      · simp only [State.emit, outcome]
        split <;> rfl
      · simp [State.emit, outcome]
  | dropped =>
      obtain ⟨unblocked, refused⟩ := usbipDeviceTransmit_dropped outcome
      refine ⟨_, _, _, .dropped unblocked refused, ?_, ?_⟩
      · simp [State.emit, outcome, CallPhase.posting]
      · simp [State.emit, outcome]

section

variable (s : State) (request : Request) (now : Nat)

def State.isoUrb : PendingUrb :=
  request.isoUrb (isoCompleteUs
    (s.endpoints (decide (request.direction ≠ 0)) (endpointNumber request.ep))
    now request.command.submit.numberOfPackets)

/-- The endpoint table after that, the stream ends with the transfer. -/
def State.isoEndpoints : Endpoints :=
  s.endpoints.set (decide (request.direction ≠ 0)) (endpointNumber request.ep)
    { s.endpoints (decide (request.direction ≠ 0))
        (endpointNumber request.ep) with
      streamEndUs := (s.isoUrb request now).completeUs }

end

/-- The endpoint table after a transfer was cancelled and `pendingUrbs` are
left. -/
def stoppedEndpoints (urb : PendingUrb) (pendingUrbs : List PendingUrb)
    (endpoints : Endpoints) : Endpoints :=
  if urb.isochronous ∧ !hasPendingIsoUrbs pendingUrbs urb.ep urb.direction then
    endpoints.set (decide (urb.direction ≠ 0)) urb.number
      { endpoints (decide (urb.direction ≠ 0)) urb.number with
        streamEndUs := 0 }
  else endpoints

theorem stopStream_eq (urb : PendingUrb) (s : State) :
    stopStream urb s = { s with
      endpoints := stoppedEndpoints urb s.pendingUrbs s.endpoints } := by
  unfold stopStream stoppedEndpoints
  split <;> rfl

inductive Task where
  | submit (request : Request)
  | control (request : Request) (supported : Bool)
  | receive (request : Request)
  | deliver (request : Request) (packets : List IsoPacket)
  | collect (urb : PendingUrb) (actual : List Nat) (packets : List IsoPacket)
      (back : IsoReturn)
  | reset (reason : ResetReason)

def Continuation.task (length : Nat) : Continuation → Task
  | .control request => .control request true
  | .receive request => .receive request
  | .isoOut request _ rest => .deliver request rest
  | .isoIn urb actual packet rest back =>
      .collect urb (actual ++ [min length (isoMaxLength urb actual packet)])
        rest back
  | .reset reason => .reset reason

/-- Only the isochronous IN callback fills the buffer. -/
def Continuation.fill (written : List Byte) (txBuffer : Buffer Cell) :
    Continuation → Buffer Cell
  | .isoIn _ actual _ _ _ =>
      txBuffer.write actual.sum (written.map fun byte => ⟨byte, none⟩)
  | _ => txBuffer

def Continuation.fits (written : List Byte) : Continuation → Prop
  | .isoIn urb actual packet _ _ =>
      written.length ≤ isoMaxLength urb actual packet
  | _ => True

/-- The lengths of all packets, given those so far and the packets left. -/
structure IsoLengths (dev : UsbipDevice) (urb : PendingUrb)
    (packets : List IsoPacket) (actual lengths : List Nat) : Prop where
  outward : urb.direction = 0 →
    lengths = actual ++ packets.map fun packet => packet.length.toNat
  called : urb.direction ≠ 0 → dev.isoInCallback = true →
    packets = [] ∧ lengths = actual
  silent : urb.direction ≠ 0 → dev.isoInCallback = false →
    lengths = actual ++ packets.map fun _ => 0

theorem IsoLengths.sum_eq {dev : UsbipDevice} {urb : PendingUrb}
    {packets : List IsoPacket} {actual lengths : List Nat}
    (complete : IsoLengths dev urb packets actual lengths)
    (inward : urb.direction ≠ 0) : lengths.sum = actual.sum := by
  cases callback : dev.isoInCallback with
  | true => rw [(complete.called inward callback).2]
  | false => simp [complete.silent inward callback]

namespace Request

def controlStatus (supported : Bool) : UInt32 :=
  if supported then 0 else epStall

def controlLength (request : Request) (supported : Bool) (txLength : Nat) :
    Nat :=
  if supported then
    if request.direction = 0 then request.transferBufferLength.toNat
    else txLength
  else 0

def controlSends (request : Request) (supported : Bool) : Bool :=
  supported && request.direction ≠ 0

end Request

theorem finishControl_eq (request : Request) (supported : Bool)
    (txLength : Nat) (s : State) :
    finishControl request supported txLength s =
      finishSubmit request (Request.controlStatus supported)
        (request.controlLength supported txLength)
        (request.controlSends supported) s := by
  unfold finishControl Request.controlStatus Request.controlLength
    Request.controlSends
  cases supported with
  | false => rfl
  | true =>
      by_cases outward : request.direction = 0
      · simp [outward]
      · simp [outward]

/-- How the rest of a step ends, from the state in which it is left. -/
inductive Ends (dev : UsbipDevice) (s : State) : Task → State → Prop
  | control {request : Request}
      (plain : isIsochronous s.endpoints request.command.header = false)
      (zero : request.ep = 0) :
      Ends dev s (.submit request) (s.goto (.control request))
  | receives {request : Request}
      (plain : isIsochronous s.endpoints request.command.header = false)
      (data : request.ep ≠ 0) (outward : request.direction = 0)
      (something : 0 < request.transferBufferLength.toNat)
      (callback : dev.epDataCallback = true) :
      Ends dev s (.submit request) (s.goto (.lock (.receive request)))
  | ignored {request : Request}
      (plain : isIsochronous s.endpoints request.command.header = false)
      (data : request.ep ≠ 0) (outward : request.direction = 0)
      (uncalled : ¬ (0 < request.transferBufferLength.toNat ∧
        dev.epDataCallback = true)) :
      Ends dev s (.submit request)
        (finishSubmit request 0 request.transferBufferLength.toNat false s)
  | overflows {request : Request}
      (plain : isIsochronous s.endpoints request.command.header = false)
      (data : request.ep ≠ 0) (inward : request.direction ≠ 0)
      (full : s.pendingUrbs.length = maxPendingUrbs) :
      Ends dev s (.submit request) (finishSubmit request 0 0 true s)
  | queued {request : Request}
      (plain : isIsochronous s.endpoints request.command.header = false)
      (data : request.ep ≠ 0) (inward : request.direction ≠ 0)
      (room : s.pendingUrbs.length ≠ maxPendingUrbs) :
      Ends dev s (.submit request)
        (({ s with pendingUrbs := s.pendingUrbs ++ [request.urb] }.emit
          [.queued request.urb]).goto (.clearEvent true))
  | fetches {request : Request} {supported : Bool}
      (inward : request.direction = 1) :
      Ends dev s (.control request supported)
        (s.goto (.fetchAnswered request supported))
  | answered {request : Request} {supported : Bool}
      (outward : request.direction ≠ 1) :
      Ends dev s (.control request supported)
        (finishSubmit request (Request.controlStatus supported)
          (request.controlLength supported 0)
          (request.controlSends supported) s)
  | received {request : Request} :
      Ends dev s (.receive request)
        (finishSubmit request 0 request.transferBufferLength.toNat false s)
  | delivers {request : Request} {packets : List IsoPacket}
      (skipped : List IsoPacket) (packet : IsoPacket) (rest : List IsoPacket)
      (split : packets = skipped ++ packet :: rest)
      (empty : ∀ other ∈ skipped, other.length.toNat = 0)
      (something : 0 < packet.length.toNat)
      (callback : dev.epDataCallback = true) :
      Ends dev s (.deliver request packets)
        (s.goto (.lock (.isoOut request packet rest)))
  | delivered {request : Request} {packets : List IsoPacket}
      (empty : dev.epDataCallback = true →
        ∀ packet ∈ packets, packet.length.toNat = 0) :
      Ends dev s (.deliver request packets) (s.goto (.isoSchedule request))
  | asks {urb : PendingUrb} {actual : List Nat} {packet : IsoPacket}
      {rest : List IsoPacket} {back : IsoReturn} (inward : urb.direction ≠ 0)
      (callback : dev.isoInCallback = true) :
      Ends dev s (.collect urb actual (packet :: rest) back)
        (s.goto (.lock (.isoIn urb actual packet rest back)))
  | isoAnswered {urb : PendingUrb} {actual : List Nat}
      {packets : List IsoPacket} (lengths : List Nat)
      (complete : IsoLengths dev urb packets actual lengths) :
      Ends dev s (.collect urb actual packets .command)
        (finishIso urb lengths .command s)
  | isoCompleted {urb : PendingUrb} {actual : List Nat}
      {packets : List IsoPacket} {now index : Nat} (lengths : List Nat)
      (tcpip : Tcpip) (complete : IsoLengths dev urb packets actual lengths)
      (written : tcpipServerWriteAll s.tcpip
        (isoReply urb lengths s.txBuffer).parts = (true, tcpip)) :
      Ends dev s (.collect urb actual packets (.pass now index))
        (({ s with
          tcpip := tcpip
          pendingUrbs := s.pendingUrbs.eraseIdx index }.emit
          [.retSubmit (isoReply urb lengths s.txBuffer)]).goto
            (.pass now index))
  | isoLost {urb : PendingUrb} {actual : List Nat}
      {packets : List IsoPacket} {now index : Nat} (lengths : List Nat)
      (tcpip : Tcpip) (complete : IsoLengths dev urb packets actual lengths)
      (written : tcpipServerWriteAll s.tcpip
        (isoReply urb lengths s.txBuffer).parts = (false, tcpip)) :
      Ends dev s (.collect urb actual packets (.pass now index))
        (lostConnection ({ s with tcpip := tcpip }.emit [.writeFailed]))
  | attached (tcpip : Tcpip)
      (written : transmitImportResponse dev s.tcpip = (true, tcpip)) :
      Ends dev s (.reset .attach)
        (({ s with tcpip := tcpip, deviceImported := true }.emit
          [.imported]).goto .serve)
  | unattached (tcpip : Tcpip)
      (written : transmitImportResponse dev s.tcpip = (false, tcpip)) :
      Ends dev s (.reset .attach)
        (({ s with tcpip := tcpip, deviceImported := false }.emit
          [.writeFailed]).goto .accept)
  | detached : Ends dev s (.reset .lost) (s.goto .accept)

theorem Ends.device {dev : UsbipDevice} {s s' : State} {task : Task}
    (ends : Ends dev s task s') : s'.device = s.device := by
  cases ends <;> rfl

section

variable {dev : UsbipDevice}

theorem processSubmit_ends {request : Request} {s : State}
    (plain : isIsochronous s.endpoints request.command.header = false) :
    Ends dev s (.submit request) (processSubmit dev request s) := by
  unfold processSubmit
  rw [if_neg (Bool.eq_false_iff.mp plain)]
  split
  next zero => exact .control plain zero
  next data =>
    split
    next outward =>
      split
      next called => exact .receives plain data outward called.1 called.2
      next uncalled => exact .ignored plain data outward uncalled
    next inward =>
      split
      next full => exact .overflows plain data inward full
      next room => exact .queued plain data inward room

theorem controlHandled_ends (request : Request) (supported : Bool)
    (s : State) :
    Ends dev s (.control request supported)
      (controlHandled request supported s) := by
  unfold controlHandled
  split
  next inward => exact .fetches inward
  next outward =>
    rw [finishControl_eq]
    exact .answered outward

theorem deliverPackets_ends (request : Request) (packets : List IsoPacket)
    (s : State) :
    Ends dev s (.deliver request packets)
      (deliverPackets dev request packets s) := by
  induction packets with
  | nil => exact .delivered (by simp)
  | cons packet rest induction =>
      simp only [deliverPackets]
      split
      next called =>
        exact .delivers [] packet rest rfl (by simp) called.1 called.2
      next uncalled =>
        have nothing : dev.epDataCallback = true → packet.length.toNat = 0 :=
          fun callback => Nat.eq_zero_of_not_pos fun something =>
            uncalled ⟨something, callback⟩
        generalize deliverPackets dev request rest s = s' at induction
        cases induction with
        | delivers skipped other others split empty something callback =>
            refine .delivers (packet :: skipped) other others (by simp [split])
              ?_ something callback
            simpa [nothing callback] using empty
        | delivered empty =>
            refine .delivered ?_
            intro callback
            simpa [nothing callback] using empty callback

theorem processSubmit_delivers {request : Request} {s : State}
    (isochronous : isIsochronous s.endpoints request.command.header = true) :
    Ends dev s (.deliver request request.outPackets)
      (processSubmit dev request s) := by
  unfold processSubmit
  rw [if_pos isochronous]
  exact deliverPackets_ends request request.outPackets s

theorem transmitIsoRetSubmit_outward {urb : PendingUrb} {back : IsoReturn}
    {packets : List IsoPacket} {actual : List Nat} {s : State}
    (outward : urb.direction = 0) :
    transmitIsoRetSubmit dev urb back packets actual s =
      finishIso urb (actual ++ packets.map fun packet => packet.length.toNat)
        back s := by
  induction packets generalizing actual with
  | nil => simp [transmitIsoRetSubmit]
  | cons packet rest induction =>
      simp [transmitIsoRetSubmit, outward, induction]

theorem finishIso_ends {urb : PendingUrb} {packets : List IsoPacket}
    {actual lengths : List Nat}
    (complete : IsoLengths dev urb packets actual lengths) (back : IsoReturn)
    (s : State) :
    Ends dev s (.collect urb actual packets back)
      (finishIso urb lengths back s) := by
  cases back with
  | command => exact .isoAnswered lengths complete
  | pass now index =>
      cases written : tcpipServerWriteAll s.tcpip
          (isoReply urb lengths s.txBuffer).parts with
      | mk status tcpip =>
          simp only [finishIso, sendReply, written]
          cases status with
          | true => exact .isoCompleted lengths tcpip complete written
          | false => exact .isoLost lengths tcpip complete written

theorem transmitIsoRetSubmit_ends (urb : PendingUrb) (back : IsoReturn)
    (packets : List IsoPacket) (actual : List Nat) (s : State) :
    Ends dev s (.collect urb actual packets back)
      (transmitIsoRetSubmit dev urb back packets actual s) := by
  by_cases outward : urb.direction = 0
  · rw [transmitIsoRetSubmit_outward outward]
    refine finishIso_ends ⟨fun _ => rfl, ?_, ?_⟩ back s
    · exact fun inward => absurd outward inward
    · exact fun inward => absurd outward inward
  · cases callback : dev.isoInCallback with
    | true =>
        cases packets with
        | nil =>
            refine finishIso_ends ⟨?_, fun _ _ => ⟨rfl, rfl⟩, by simp⟩ back s
            exact fun contrary => absurd contrary outward
        | cons packet rest =>
            simp only [transmitIsoRetSubmit, outward, callback, if_false,
              if_true]
            exact .asks outward callback
    | false =>
        have shape : transmitIsoRetSubmit dev urb back packets actual s =
            finishIso urb (actual ++ packets.map fun _ => 0) back s := by
          induction packets generalizing actual with
          | nil => simp [transmitIsoRetSubmit]
          | cons packet rest induction =>
              simp [transmitIsoRetSubmit, outward, callback, induction]
        rw [shape]
        refine finishIso_ends ⟨?_, by simp [callback], fun _ _ => rfl⟩ back s
        exact fun contrary => absurd contrary outward

theorem resetDone_ends (reason : ResetReason) (s : State) :
    Ends dev s (.reset reason) (resetDone dev reason s) := by
  cases reason with
  | lost => exact .detached
  | attach =>
      simp only [resetDone]
      cases written : transmitImportResponse dev s.tcpip with
      | mk status tcpip =>
          cases status with
          | true => exact .attached tcpip written
          | false => exact .unattached tcpip written

theorem callbackReturned_ends {next : Continuation} {written : List Byte}
    {length : Nat} {s s' : State}
    (returned : callbackReturned dev next written length s = some s') :
    next.fits written ∧
      Ends dev
        { s with
          receiveLock := none
          txBuffer := next.fill written s.txBuffer }
        (next.task length) s' := by
  cases next with
  | control request =>
      obtain rfl := Option.some.inj returned
      exact ⟨trivial, controlHandled_ends request true _⟩
  | receive request =>
      obtain rfl := Option.some.inj returned
      exact ⟨trivial, .received⟩
  | isoOut request packet rest =>
      obtain rfl := Option.some.inj returned
      exact ⟨trivial, deliverPackets_ends request rest _⟩
  | isoIn urb actual packet rest back =>
      simp only [callbackReturned] at returned
      split at returned
      next fits =>
        obtain rfl := Option.some.inj returned
        exact ⟨fits, transmitIsoRetSubmit_ends urb back rest _ _⟩
      · contradiction
  | reset reason =>
      obtain rfl := Option.some.inj returned
      exact ⟨trivial, resetDone_ends reason _⟩

end

end UsbipServer
