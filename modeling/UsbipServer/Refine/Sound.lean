import UsbipServer.Spec.Ledger
import UsbipServer.Refine.Frame

namespace UsbipServer

open Wire Library

def SameTypes (left right : Endpoints) : Prop :=
  ∀ inward number, (left inward number).type = (right inward number).type

theorem SameTypes.isIsochronous {left right : Endpoints}
    (same : SameTypes left right) (header : HeaderBasic) :
    isIsochronous left header = isIsochronous right header := by
  simp only [UsbipServer.isIsochronous, same _ _]

theorem SameTypes.wellFormed {left right : Endpoints}
    (same : SameTypes left right) {command : SubmitCommand}
    (formed : WellFormedSubmit left command) :
    WellFormedSubmit right command := by
  obtain ⟨code, fits, outward, inward, isochronous, plain⟩ := formed
  rw [same.isIsochronous] at isochronous plain
  exact ⟨code, fits, outward, inward, isochronous, plain⟩

theorem SameTypes.set {left right : Endpoints} (same : SameTypes left right)
    (inward : Bool) (number : Fin 16) (endpoint : Endpoint)
    (kept : endpoint.type = (left inward number).type) :
    SameTypes (left.set inward number endpoint) right := by
  intro side position
  rw [← same side position]
  unfold Endpoints.set
  by_cases here : side = inward
  · subst here
    by_cases there : position = number
    · subst there
      simpa using kept
    · simp [Function.update_of_ne there]
  · rw [Function.update_of_ne here]

structure PendingUrb.Sound (tickets : Nat) (urb : PendingUrb) : Prop where
  ticket : urb.ticket < tickets
  data : urb.ep ≠ 0
  fits : urb.transferBufferLength.toNat ≤ usbipMaxPacketSize
  inward : urb.isochronous = false → urb.direction ≠ 0
  count : urb.isochronous = true →
    urb.packets.length = urb.numberOfPackets.toNat ∧
      urb.packets.length ≤ maxIsoPackets
  inside : ∀ packet ∈ urb.packets,
    packet.length.toNat ≤ usbipMaxPacketSize

structure Handling (dev : UsbipDevice) (tickets : Nat) (request : Request) :
    Prop where
  ticket : request.ticket < tickets
  wellFormed : WellFormedSubmit (loadEndpoints dev.configDesc) request.command

/-- The transfer `transmit_iso_ret_submit` works on is the one its caller
removes afterwards. -/
def Filed (pendingUrbs : List PendingUrb) (urb : PendingUrb) :
    IsoReturn → Prop
  | .command => True
  | .pass _ index => pendingUrbs[index]? = some urb

structure IsoProgress (tickets : Nat) (pendingUrbs : List PendingUrb)
    (urb : PendingUrb) (actual : List Nat) (packets : List IsoPacket)
    (back : IsoReturn) : Prop where
  sound : urb.Sound tickets
  isochronous : urb.isochronous = true
  remaining : urb.packets.drop actual.length = packets
  counted : actual.length + packets.length = urb.packets.length
  small : ∀ length ∈ actual, length ≤ usbipMaxPacketSize
  room : urb.direction ≠ 0 → actual.sum ≤ urb.transferBufferLength.toNat
  filed : Filed pendingUrbs urb back

def Continuation.Sound (dev : UsbipDevice) (tickets : Nat)
    (pendingUrbs : List PendingUrb) : Continuation → Prop
  | .control request => Handling dev tickets request ∧ request.ep = 0
  | .receive request =>
      Handling dev tickets request ∧ request.isochronous dev = false ∧
        request.ep ≠ 0 ∧ request.direction = 0
  | .isoOut request packet _ =>
      Handling dev tickets request ∧ request.isochronous dev = true ∧
        dev.epDataCallback = true ∧ 0 < packet.length.toNat
  | .isoIn urb actual packet rest back =>
      IsoProgress tickets pendingUrbs urb actual (packet :: rest) back ∧
        urb.direction ≠ 0
  | .reset _ => False

/-- Where the server thread can be while a device is imported. -/
def Phase.Sound (dev : UsbipDevice) (tickets : Nat)
    (pendingUrbs : List PendingUrb) : Phase → Prop
  | .accept => False
  | .serve => True
  | .control request => Handling dev tickets request ∧ request.ep = 0
  | .answer request _ => Handling dev tickets request ∧ request.ep = 0
  | .fetchAnswered request _ =>
      Handling dev tickets request ∧ request.ep = 0 ∧ request.direction = 1
  | .fetchReply request _ _ =>
      Handling dev tickets request ∧ request.ep = 0 ∧ request.direction = 1
  | .isoSchedule request =>
      Handling dev tickets request ∧ request.isochronous dev = true
  | .lock next => next.Sound dev tickets pendingUrbs
  | .callback _ _ next => next.Sound dev tickets pendingUrbs
  | .clearEvent _ => True
  | .pass _ _ => True
  | .reset _ => False
  | .resetEvent _ => False
  | .stop => True
  | .stopped => True

def Resetting (dev : UsbipDevice) (endpoints : Endpoints)
    (waitTimeoutUs : Nat) (sent : List Byte) : ResetReason → Prop
  | .attach =>
      endpoints = loadEndpoints dev.configDesc ∧
        waitTimeoutUs = waitTimeoutUsMax ∧ sent = []
  | .lost => True

/-- Where it can be while no device is imported. -/
def Phase.Detached (dev : UsbipDevice) (endpoints : Endpoints)
    (waitTimeoutUs : Nat) (sent : List Byte) : Phase → Prop
  | .accept => True
  | .serve => sent = []
  | .reset reason => Resetting dev endpoints waitTimeoutUs sent reason
  | .resetEvent reason => Resetting dev endpoints waitTimeoutUs sent reason
  | .lock (.reset reason) => Resetting dev endpoints waitTimeoutUs sent reason
  | .callback _ _ (.reset reason) => Resetting dev endpoints waitTimeoutUs sent reason
  | .stop => True
  | .stopped => True
  | _ => False

structure Attached (dev : UsbipDevice) (s : State) : Prop where
  imported : s.deviceImported = true
  types : SameTypes s.endpoints (loadEndpoints dev.configDesc)
  pending : ∀ urb ∈ s.pendingUrbs, urb.Sound s.tickets

inductive Sound (dev : UsbipDevice) (s : State) : Prop
  | attached (base : Attached dev s)
      (phase : s.phase.Sound dev s.tickets s.pendingUrbs)
  | detached (imported : s.deviceImported = false)
      (pending : s.pendingUrbs = [])
      (phase : s.phase.Detached dev s.endpoints s.waitTimeoutUs s.tcpip.sent)

theorem Attached.goto {dev : UsbipDevice} {s : State} (base : Attached dev s)
    (phase : Phase) : Attached dev (s.goto phase) :=
  ⟨base.imported, base.types, base.pending⟩

def Continuation.hand : Continuation → Option Transfer
  | .control request => some (request.transfer false)
  | .receive request => some (request.transfer false)
  | .isoOut request _ _ => some (request.transfer true)
  | .isoIn urb _ _ _ .command => some urb.toTransfer
  | .isoIn _ _ _ _ (.pass _ _) => none
  | .reset _ => none

def Phase.hand : Phase → Option Transfer
  | .control request => some (request.transfer false)
  | .answer request _ => some (request.transfer false)
  | .fetchAnswered request _ => some (request.transfer false)
  | .fetchReply request _ _ => some (request.transfer false)
  | .isoSchedule request => some (request.transfer true)
  | .lock next => next.hand
  | .callback _ _ next => next.hand
  | _ => none

def packetsDue (rxBuffer : Buffer Byte) (request : Request)
    (packets : List IsoPacket) : List (Byte × List Byte) :=
  (packets.filter fun packet => 0 < packet.length.toNat).map fun packet =>
    (request.ep.toUInt8,
      rxBuffer.slice packet.offset.toNat packet.length.toNat)

def Phase.todo (rxBuffer : Buffer Byte) : Phase → List (Byte × List Byte)
  | .lock (.receive request) =>
      [(request.ep.toUInt8,
        rxBuffer.slice 0 request.transferBufferLength.toNat)]
  | .lock (.isoOut request packet rest) =>
      packetsDue rxBuffer request (packet :: rest)
  | .callback _ _ (.isoOut request _ rest) => packetsDue rxBuffer request rest
  | _ => []

def queueOf (s : State) : List Transfer :=
  s.pendingUrbs.map PendingUrb.toTransfer

def view (s : State) : Ledger :=
  ⟨queueOf s, s.phase.hand, s.phase.todo s.rxBuffer⟩

def Event.wire : Event → List Byte
  | .retSubmit reply => reply.parts.flatten
  | .retUnlink reply => reply.parts.flatten
  | _ => []

theorem Event.wire_of_silent {event : Event}
    (silent : event.isSilent = true) : event.wire = [] := by
  cases event <;> first | rfl | simp [Event.isSilent] at silent

theorem Event.decoded_of_silent {event : Event}
    (silent : event.isSilent = true) : event.decoded = [] := by
  cases event <;> first | rfl | simp [Event.isSilent] at silent

theorem decodedOf_silent {events : List Event}
    (silent : ∀ event ∈ events, event.isSilent = true) :
    decodedOf events = [] :=
  List.flatMap_eq_nil_iff.mpr fun event member =>
    Event.decoded_of_silent (silent event member)

theorem Event.goesOn_of_silent {event : Event}
    (silent : event.isSilent = true) : event.goesOn = true := by
  cases event <;> first | rfl | simp [Event.isSilent] at silent

def State.Live (s : State) : Prop :=
  s.deviceImported = true ∧ s.phase ≠ .clearEvent false

/-- The server thread gets from `s` to `s'` and the session's ledger from
`ledger` to that of `s'`. -/
structure Leads (dev : UsbipDevice) (ledger : Ledger) (s s' : State) :
    Prop where
  sound : Sound dev s'
  reads : s'.tcpip.reads = s.tcpip.reads
  progress : ∃ events, s'.trace = s.trace ++ events ∧
    Steps (Ledger.Step dev) ledger events (view s') ∧
    (Event.writeFailed ∉ events →
      s'.tcpip.sent = s.tcpip.sent ++ events.flatMap Event.wire) ∧
    (s'.Live → ∀ event ∈ events, event.goesOn = true) ∧
    decodedOf events = []

namespace Leads

theorem arrived {dev : UsbipDevice} {ledger : Ledger} {s s' : State}
    (sound : Sound dev s') (tcpip : s'.tcpip = s.tcpip)
    (trace : s'.trace = s.trace) (viewed : view s' = ledger) :
    Leads dev ledger s s' := by
  refine ⟨sound, by rw [tcpip], [], by simp [trace], ?_, ?_, by simp, rfl⟩
  · rw [viewed]
    exact .nil
  · intro _
    simp [tcpip]

theorem after {dev : UsbipDevice} {ledger middle : Ledger}
    {s start s' : State} {events : List Event}
    (leads : Leads dev middle start s')
    (traced : start.trace = s.trace ++ events)
    (tcpip : start.tcpip = s.tcpip)
    (steps : Steps (Ledger.Step dev) ledger events middle)
    (unsent : ∀ event ∈ events, event.wire = [])
    (goesOn : ∀ event ∈ events, event.goesOn = true)
    (undecoded : decodedOf events = []) :
    Leads dev ledger s s' := by
  obtain ⟨sound, reads, more, continued, later, wired, live, none⟩ := leads
  refine ⟨sound, by rw [reads, tcpip], events ++ more, ?_,
    steps.append later, ?_, ?_, ?_⟩
  · rw [continued, traced, List.append_assoc]
  · intro written
    have silent : events.flatMap Event.wire = [] :=
      List.flatMap_eq_nil_iff.mpr unsent
    rw [List.flatMap_append, silent, List.nil_append, ← tcpip]
    exact wired fun failed => written (List.mem_append_right _ failed)
  · intro alive event member
    rcases List.mem_append.mp member with member | member
    · exact goesOn event member
    · exact live alive event member
  · rw [decodedOf_append, undecoded, none]
    rfl

theorem silently {dev : UsbipDevice} {ledger : Ledger}
    {s start s' : State} {events : List Event}
    (leads : Leads dev ledger start s')
    (traced : start.trace = s.trace ++ events)
    (tcpip : start.tcpip = s.tcpip)
    (silent : ∀ event ∈ events, event.isSilent = true) :
    Leads dev ledger s s' := by
  refine leads.after traced tcpip (Ledger.silent_steps silent) ?_ ?_
    (decodedOf_silent silent)
  · intro event member
    exact Event.wire_of_silent (silent event member)
  · intro event member
    exact Event.goesOn_of_silent (silent event member)

theorem from_eq {dev : UsbipDevice} {ledger : Ledger} {s start s' : State}
    (leads : Leads dev ledger start s') (traced : start.trace = s.trace)
    (tcpip : start.tcpip = s.tcpip) : Leads dev ledger s s' := by
  have extended : start.trace = s.trace ++ [] := by simp [traced]
  exact leads.silently extended tcpip (by simp)

end Leads

end UsbipServer
