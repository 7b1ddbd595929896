import UsbipServer.Refine.Pass

namespace UsbipServer

open Wire Library

/-! What a step does to the pending transfers, the endpoint table and the submit
in hand, and what it answers. -/

/-- The submit that was read and is neither queued nor answered yet. -/
def Continuation.held : Continuation → Option Request
  | .control request => some request
  | .receive request => some request
  | .isoOut request _ _ => some request
  | .isoIn _ _ _ _ _ => none
  | .reset _ => none

def Phase.held : Phase → Option Request
  | .control request => some request
  | .answer request _ => some request
  | .fetchAnswered request _ => some request
  | .fetchReply request _ _ => some request
  | .isoSchedule request => some request
  | .lock next => next.held
  | .callback _ _ next => next.held
  | _ => none

/-- An isochronous IN reply that waits for the callback of `packet`. -/
structure Packing where
  urb : PendingUrb
  actual : List Nat
  packet : IsoPacket
  rest : List IsoPacket
  back : IsoReturn

def Continuation.packing : Continuation → Option Packing
  | .isoIn urb actual packet rest back => some ⟨urb, actual, packet, rest, back⟩
  | _ => none

def Phase.packing : Phase → Option Packing
  | .lock next => next.packing
  | .callback _ _ next => next.packing
  | _ => none

def IsoReturn.reading : IsoReturn → Option Nat
  | .command => none
  | .pass now _ => some now

def Continuation.reading : Continuation → Option Nat
  | .isoIn _ _ _ _ back => back.reading
  | _ => none

def Phase.reading : Phase → Option Nat
  | .pass now _ => some now
  | .lock next => next.reading
  | .callback _ _ next => next.reading
  | _ => none

/-- A reply to a submit that was never queued and is not isochronous.  Only
control requests are answered with data. -/
structure Answers (dev : UsbipDevice) (request : Request) (reply : Reply) :
    Prop where
  plain : request.isochronous dev = false
  transfer : reply.transfer = request.transfer false
  fits : reply.ret.actualLength.toNat ≤ request.transferBufferLength.toNat
  data : reply.data ≠ [] → request.ep = 0

/-- Events that leave the pending transfers alone. -/
def Event.Minor (dev : UsbipDevice) (held : Option Request) : Event → Prop
  | .submit _ => False
  | .queued _ => False
  | .imported => False
  | .pass _ => False
  | .retSubmit reply => ∃ request, held = some request ∧ Answers dev request reply
  | _ => True

structure SameTables (s s' : State) : Prop where
  pendingUrbs : s'.pendingUrbs = s.pendingUrbs
  endpoints : s'.endpoints = s.endpoints
  passUs : s'.passUs = s.passUs
  tickets : s'.tickets = s.tickets
  deviceImported : s'.deviceImported = s.deviceImported

theorem SameTables.trans {first second third : State}
    (early : SameTables first second) (late : SameTables second third) :
    SameTables first third :=
  ⟨late.pendingUrbs.trans early.pendingUrbs,
    late.endpoints.trans early.endpoints, late.passUs.trans early.passUs,
    late.tickets.trans early.tickets,
    late.deviceImported.trans early.deviceImported⟩

theorem Elsewhere.tables {s s' : State} (elsewhere : Elsewhere s s') :
    SameTables s s' := by
  have rest := elsewhere.rest
  exact ⟨elsewhere.pendingUrbs, elsewhere.endpoints, by rw [rest],
    elsewhere.tickets, elsewhere.deviceImported⟩

theorem Event.minor_of_transmit {dev : UsbipDevice} {event : Event}
    {held : Option Request} (transmit : event.isTransmit = true) :
    event.Minor dev held := by
  cases event <;> trivial

structure Handed (dev : UsbipDevice) (request : Option Request)
    (s s' : State) : Prop where
  tables : SameTables s s'
  held : s'.phase.held = none ∨ s'.phase.held = request
  packing : s'.phase.packing = none
  reading : s'.phase.reading = none
  trace : ∃ events, s'.trace = s.trace ++ events ∧
    ∀ event ∈ events, event.Minor dev request

namespace Handed

variable {dev : UsbipDevice} {held : Option Request} {s start s' : State}

theorem same (tables : SameTables s s')
    (inHand : s'.phase.held = none ∨ s'.phase.held = held)
    (packing : s'.phase.packing = none) (reading : s'.phase.reading = none)
    (trace : s'.trace = s.trace) : Handed dev held s s' :=
  ⟨tables, inHand, packing, reading, [], by simp [trace], by simp⟩

theorem event {event : Event} (tables : SameTables s s')
    (inHand : s'.phase.held = none ∨ s'.phase.held = held)
    (packing : s'.phase.packing = none) (reading : s'.phase.reading = none)
    (trace : s'.trace = s.trace ++ [event]) (minor : event.Minor dev held) :
    Handed dev held s s' :=
  ⟨tables, inHand, packing, reading, [event], trace, by simpa using minor⟩

theorem after {events : List Event} (handed : Handed dev held start s')
    (tables : SameTables s start) (trace : start.trace = s.trace ++ events)
    (minor : ∀ event ∈ events, event.Minor dev held) : Handed dev held s s' := by
  obtain ⟨same, inHand, packing, reading, more, continued, alsoMinor⟩ := handed
  refine ⟨tables.trans same, inHand, packing, reading, events ++ more, ?_, ?_⟩
  · rw [continued, trace, List.append_assoc]
  · intro event member
    rcases List.mem_append.mp member with member | member
    · exact minor event member
    · exact alsoMinor event member

theorem from_eq (handed : Handed dev held start s') (tables : SameTables s start)
    (trace : start.trace = s.trace) : Handed dev held s s' := by
  have extended : start.trace = s.trace ++ [] := by simp [trace]
  exact handed.after tables extended (by simp)

end Handed

section

variable {dev : UsbipDevice} {s s' : State} {request : Request}

theorem Request.plain_of_control (control : request.ep = 0) :
    request.isochronous dev = false := by
  have number : request.command.header.ep = 0 := control
  simp [Request.isochronous, isIsochronous, number]

theorem finishSubmit_handed {urbStatus : UInt32} {actualLength : Nat}
    {sendData : Bool} (s : State)
    (plain : request.isochronous dev = false)
    (fits : actualLength ≤ request.transferBufferLength.toNat)
    (data : sendData = true → actualLength = 0 ∨ request.ep = 0) :
    Handed dev (some request) s
      (finishSubmit request urbStatus actualLength sendData s) := by
  refine .event ⟨rfl, rfl, rfl, rfl, rfl⟩ (.inl rfl) rfl rfl rfl ?_
  split
  · refine ⟨request, rfl, plain, rfl, ?_, ?_⟩
    · have bound := request.transferBufferLength.toNat_lt
      have small : actualLength < UInt32.size := by
        simp only [UInt32.size]
        omega
      simpa [retSubmitReply, UInt32.toNat_ofNat_of_lt' small] using fits
    · intro carried
      cases sendData with
      | false => simp [retSubmitReply] at carried
      | true =>
          rcases data rfl with rfl | control
          · simp [retSubmitReply] at carried
          · exact control
  · trivial

theorem Request.controlLength_le (request : Request) (supported : Bool)
    {txLength : Nat} (short : txLength ≤ request.transferBufferLength.toNat) :
    request.controlLength supported txLength ≤
      request.transferBufferLength.toNat := by
  unfold Request.controlLength
  split
  · split
    · exact le_rfl
    · exact short
  · exact Nat.zero_le _

/-- The rest of a step that works on a submit without queueing it. -/
def Task.WorksOn (dev : UsbipDevice) (request : Request) : Task → Prop
  | .control other _ => other = request ∧ request.ep = 0
  | .receive other => other = request ∧ request.isochronous dev = false
  | .deliver other _ => other = request
  | _ => False

theorem Ends.handed {start : State} {task : Task}
    (ends : Ends dev start task s') (works : task.WorksOn dev request) :
    Handed dev (some request) start s' := by
  cases ends with
  | fetches inward =>
      obtain ⟨rfl, _⟩ := works
      exact .same ⟨rfl, rfl, rfl, rfl, rfl⟩ (.inr rfl) rfl rfl rfl
  | @answered _ supported outward =>
      obtain ⟨rfl, control⟩ := works
      exact finishSubmit_handed start (Request.plain_of_control control)
        (Request.controlLength_le _ supported (Nat.zero_le _))
        fun _ => .inr control
  | received =>
      obtain ⟨rfl, plain⟩ := works
      exact finishSubmit_handed start plain le_rfl (by simp)
  | delivers | delivered =>
      obtain rfl := works
      exact .same ⟨rfl, rfl, rfl, rfl, rfl⟩ (.inr rfl) rfl rfl rfl
  | _ => exact works.elim

theorem sendUnlinkReply_handed (reply : UnlinkReply) (s : State) :
    Handed dev none s (sendUnlinkReply reply s) := by
  refine .event ⟨rfl, rfl, rfl, rfl, rfl⟩ (.inl rfl) rfl rfl rfl ?_
  split <;> trivial

end

/-- How `transmit_iso_ret_submit` is entered, or again after a callback: the
transfer, the packets left, the lengths so far and the state it starts from. -/
inductive Packs (s : State) (label : Label) : PendingUrb → IsoReturn →
    List IsoPacket → List Nat → State → Prop
  | pass (now index : Nat) (urb : PendingUrb)
      (here : s.phase = .pass now index)
      (filed : s.pendingUrbs[index]? = some urb)
      (isochronous : urb.isochronous = true) (due : urb.completeUs ≤ now) :
      Packs s label urb (.pass now index) urb.packets [] s
  | overflow (request : Request) (clock : Nat)
      (here : s.phase = .isoSchedule request) (read : label = .server clock)
      (full : s.pendingUrbs.length = maxPendingUrbs) :
      Packs s label (s.isoUrb request clock) .command
        (s.isoUrb request clock).packets []
        { s with endpoints := s.isoEndpoints request clock }
  | returned {made length : Nat} {urb : PendingUrb} {actual : List Nat}
      {packet : IsoPacket} {rest : List IsoPacket} {back : IsoReturn}
      {written : List Byte}
      (here : s.phase = .callback none made (.isoIn urb actual packet rest back))
      (read : label = .callbackReturn written length)
      (fits : written.length ≤ isoMaxLength urb actual packet) :
      Packs s label urb back rest
        (actual ++ [min length (isoMaxLength urb actual packet)])
        { s with
          receiveLock := none
          txBuffer := s.txBuffer.write actual.sum
            (written.map fun byte => ⟨byte, none⟩) }

theorem Packs.start {s start : State} {label : Label} {urb : PendingUrb}
    {back : IsoReturn} {packets : List IsoPacket} {actual : List Nat}
    (entered : Packs s label urb back packets actual start) :
    start.pendingUrbs = s.pendingUrbs ∧ start.passUs = s.passUs ∧
      start.tickets = s.tickets ∧ start.deviceImported = s.deviceImported ∧
      start.trace = s.trace := by
  cases entered <;> exact ⟨rfl, rfl, rfl, rfl, rfl⟩

def IsoReturn.left (pendingUrbs : List PendingUrb) :
    IsoReturn → List PendingUrb
  | .command => pendingUrbs
  | .pass _ index => pendingUrbs.eraseIdx index

def IsoReturn.phase : IsoReturn → Phase
  | .command => .clearEvent true
  | .pass now index => .pass now index

inductive IsoOutcome (dev : UsbipDevice) (urb : PendingUrb) (back : IsoReturn)
    (packets : List IsoPacket) (actual : List Nat) (start : State) :
    State → Prop
  | calls (packet : IsoPacket) (rest : List IsoPacket)
      (split : packets = packet :: rest) (inward : urb.direction ≠ 0)
      (callback : dev.isoInCallback = true) :
      IsoOutcome dev urb back packets actual start
        (start.goto (.lock (.isoIn urb actual packet rest back)))
  | replies {s' : State} (lengths : List Nat)
      (complete : IsoLengths dev urb packets actual lengths)
      (pendingUrbs : s'.pendingUrbs = back.left start.pendingUrbs)
      (endpoints : s'.endpoints = start.endpoints)
      (passUs : s'.passUs = start.passUs)
      (tickets : s'.tickets = start.tickets)
      (imported : s'.deviceImported = start.deviceImported)
      (there : s'.phase = back.phase)
      (traced : s'.trace = start.trace ++
        [.retSubmit (isoReply urb lengths start.txBuffer)]) :
      IsoOutcome dev urb back packets actual start s'
  | fails {s' : State} (command : back = .command)
      (tables : SameTables start s') (there : s'.phase = .clearEvent false)
      (traced : s'.trace = start.trace ++ [.writeFailed]) :
      IsoOutcome dev urb back packets actual start s'
  | loses {s' : State} (absent : s'.deviceImported = false)
      (empty : s'.pendingUrbs = []) (passUs : s'.passUs = start.passUs)
      (tickets : s'.tickets = start.tickets)
      (there : s'.phase = .reset .lost)
      (traced : s'.trace = start.trace ++ [.writeFailed, .lost]) :
      IsoOutcome dev urb back packets actual start s'

theorem Ends.outcome {dev : UsbipDevice} {urb : PendingUrb} {back : IsoReturn}
    {packets : List IsoPacket} {actual : List Nat} {start s' : State}
    (ends : Ends dev start (.collect urb actual packets back) s') :
    IsoOutcome dev urb back packets actual start s' := by
  cases ends with
  | asks inward callback => exact .calls _ _ rfl inward callback
  | isoAnswered lengths complete =>
      simp only [finishIso, sendReply]
      cases written : tcpipServerWriteAll start.tcpip
          (isoReply urb lengths start.txBuffer).parts with
      | mk status tcpip =>
          cases status with
          | true => exact .replies lengths complete rfl rfl rfl rfl rfl rfl rfl
          | false => exact .fails rfl ⟨rfl, rfl, rfl, rfl, rfl⟩ rfl rfl
  | isoCompleted lengths tcpip complete =>
      exact .replies lengths complete rfl rfl rfl rfl rfl rfl rfl
  | isoLost =>
      refine .loses rfl rfl rfl rfl rfl ?_
      simp [lostConnection]

inductive Filing (dev : UsbipDevice) (s : State) (label : Label) : State → Prop
  | handed {s' : State} (worked : Handed dev s.phase.held s s') :
      Filing dev s label s'
  | stays {s' : State} (events : List Event) (tables : SameTables s s')
      (held : s'.phase.held = s.phase.held)
      (packing : s'.phase.packing = s.phase.packing)
      (txBuffer : s'.txBuffer = s.txBuffer)
      (traced : s'.trace = s.trace ++ events)
      (minor : ∀ event ∈ events, event.Minor dev none)
      (reading : s'.phase.reading = s.phase.reading) : Filing dev s label s'
  | forgets {s' : State} (events : List Event)
      (absent : s'.deviceImported = false) (empty : s'.pendingUrbs = [])
      (passUs : s'.passUs = s.passUs) (tickets : s'.tickets = s.tickets)
      (held : s'.phase.held = none) (packing : s'.phase.packing = none)
      (traced : s'.trace = s.trace ++ events)
      (minor : ∀ event ∈ events, event.Minor dev none)
      (reading : s'.phase.reading = none) : Filing dev s label s'
  | imports {s' : State} (absent : s.deviceImported = false)
      (imported : s'.deviceImported = true) (here : s'.phase = .serve)
      (empty : s'.pendingUrbs = [])
      (endpoints : s'.endpoints = loadEndpoints dev.configDesc)
      (passUs : s'.passUs = s.passUs) (tickets : s'.tickets = s.tickets)
      (traced : s'.trace = s.trace ++ [.imported]) : Filing dev s label s'
  | starts {s' : State} (clock : Nat) (here : s.phase = .clearEvent true)
      (read : label = .server clock) (there : s'.phase = .pass clock 0)
      (pendingUrbs : s'.pendingUrbs = s.pendingUrbs)
      (endpoints : s'.endpoints = s.endpoints) (passUs : s'.passUs = clock)
      (tickets : s'.tickets = s.tickets)
      (imported : s'.deviceImported = s.deviceImported)
      (traced : s'.trace = s.trace ++ [.pass clock]) : Filing dev s label s'
  | takes {s' : State} (tcpip : Tcpip) (command : SubmitCommand)
      (events : List Event) (here : s.phase = .serve) (ready : label = .wait true)
      (received : receiveCommand s.endpoints s.tcpip =
        .command tcpip (.submit command))
      (formed : WellFormedSubmit (loadEndpoints dev.configDesc) command)
      (pendingUrbs : s'.pendingUrbs = s.pendingUrbs)
      (endpoints : s'.endpoints = s.endpoints) (passUs : s'.passUs = s.passUs)
      (tickets : s'.tickets = s.tickets + 1)
      (imported : s'.deviceImported = s.deviceImported)
      (held : s'.phase.held = none ∨
        s'.phase.held = some ⟨s.tickets, command⟩)
      (packing : s'.phase.packing = none)
      (traced : s'.trace = s.trace ++ .submit ⟨s.tickets, command⟩ :: events)
      (minor : ∀ event ∈ events, event.Minor dev (some ⟨s.tickets, command⟩))
      (reading : s'.phase.reading = none) : Filing dev s label s'
  | queues {s' : State} (tcpip : Tcpip) (command : SubmitCommand)
      (here : s.phase = .serve) (ready : label = .wait true)
      (received : receiveCommand s.endpoints s.tcpip =
        .command tcpip (.submit command))
      (formed : WellFormedSubmit (loadEndpoints dev.configDesc) command)
      (plain : Request.isochronous dev ⟨s.tickets, command⟩ = false)
      (pendingUrbs : s'.pendingUrbs =
        s.pendingUrbs ++ [Request.urb ⟨s.tickets, command⟩])
      (endpoints : s'.endpoints = s.endpoints) (passUs : s'.passUs = s.passUs)
      (tickets : s'.tickets = s.tickets + 1)
      (imported : s'.deviceImported = s.deviceImported)
      (there : s'.phase = .clearEvent true)
      (traced : s'.trace = s.trace ++ [.submit ⟨s.tickets, command⟩,
        .queued (Request.urb ⟨s.tickets, command⟩)]) : Filing dev s label s'
  | unlinks {s' : State} (tcpip : Tcpip) (command : UnlinkCommand)
      (index : Nat) (urb : PendingUrb) (events : List Event)
      (here : s.phase = .serve) (ready : label = .wait true)
      (received : receiveCommand s.endpoints s.tcpip =
        .command tcpip (.unlink command))
      (found : findPendingUrb s.pendingUrbs command.unlink.unlinkSeqnum =
        some index)
      (filed : s.pendingUrbs[index]? = some urb)
      (pendingUrbs : s'.pendingUrbs = s.pendingUrbs.eraseIdx index)
      (endpoints : s'.endpoints = stoppedEndpoints urb
        (s.pendingUrbs.eraseIdx index) s.endpoints)
      (passUs : s'.passUs = s.passUs) (tickets : s'.tickets = s.tickets)
      (imported : s'.deviceImported = s.deviceImported)
      (held : s'.phase.held = none) (packing : s'.phase.packing = none)
      (traced : s'.trace = s.trace ++ events)
      (minor : ∀ event ∈ events, event.Minor dev none)
      (reading : s'.phase.reading = none) : Filing dev s label s'
  | schedules {s' : State} (request : Request) (clock : Nat)
      (here : s.phase = .isoSchedule request) (read : label = .server clock)
      (room : s.pendingUrbs.length ≠ maxPendingUrbs)
      (pendingUrbs : s'.pendingUrbs =
        s.pendingUrbs ++ [s.isoUrb request clock])
      (endpoints : s'.endpoints = s.isoEndpoints request clock)
      (passUs : s'.passUs = s.passUs) (tickets : s'.tickets = s.tickets)
      (imported : s'.deviceImported = s.deviceImported)
      (there : s'.phase = .clearEvent true)
      (traced : s'.trace = s.trace ++ [.queued (s.isoUrb request clock)]) :
      Filing dev s label s'
  | packs {urb : PendingUrb} {back : IsoReturn} {packets : List IsoPacket}
      {actual : List Nat} {start s' : State}
      (entered : Packs s label urb back packets actual start)
      (outcome : IsoOutcome dev urb back packets actual start s') :
      Filing dev s label s'
  | completes {s' : State} (now index : Nat) (urb : PendingUrb) (reply : Reply)
      (here : s.phase = .pass now index)
      (filed : s.pendingUrbs[index]? = some urb)
      (plain : urb.isochronous = false)
      (due : (s.endpoints true urb.number).nextPollUs ≤ now)
      (answered : reply.transfer = urb.toTransfer)
      (fits : reply.ret.actualLength.toNat ≤ urb.transferBufferLength.toNat)
      (pendingUrbs : s'.pendingUrbs = s.pendingUrbs.eraseIdx index)
      (endpoints : s'.endpoints = s.endpoints.setNextPoll urb.number
        (now + (s.endpoints true urb.number).intervalUs))
      (passUs : s'.passUs = s.passUs) (tickets : s'.tickets = s.tickets)
      (imported : s'.deviceImported = s.deviceImported)
      (there : s'.phase = .pass now index)
      (traced : s'.trace = s.trace ++
        [.fetched (epMasked urb.ep.toUInt8) reply.data, .retSubmit reply]) :
      Filing dev s label s'

section

variable {dev : UsbipDevice} {s s' : State}

theorem Elsewhere.filing {label : Label} (elsewhere : Elsewhere s s') :
    Filing dev s label s' := by
  obtain ⟨events, traced, transmit⟩ := elsewhere.trace
  refine .stays events elsewhere.tables ?_ ?_ ?_ traced ?_ ?_
  · rw [elsewhere.phase]
  · rw [elsewhere.phase]
  · rw [elsewhere.rest]
  · intro event member
    exact Event.minor_of_transmit (transmit event member)
  · rw [elsewhere.phase]

theorem lostConnection_filing {label : Label} {start : State}
    (events : List Event) (passUs : start.passUs = s.passUs)
    (tickets : start.tickets = s.tickets)
    (traced : start.trace = s.trace ++ events)
    (minor : ∀ event ∈ events, event.Minor dev none) :
    Filing dev s label (lostConnection start) := by
  refine .forgets (events ++ [.lost]) rfl rfl passUs tickets rfl rfl ?_ ?_ rfl
  · simp [lostConnection, traced]
  · intro event member
    rcases List.mem_append.mp member with member | member
    · exact minor event member
    · rw [List.mem_singleton.mp member]
      trivial

theorem Filing.plainly {label : Label} (tables : SameTables s s')
    (held : s'.phase.held = none) (packing : s'.phase.packing = none)
    (reading : s'.phase.reading = none) (traced : s'.trace = s.trace) :
    Filing dev s label s' :=
  .handed (.same tables (.inl held) packing reading traced)

theorem Handed.filing {label : Label} {held : Option Request}
    (inHand : s.phase.held = held) (handed : Handed dev held s s') :
    Filing dev s label s' := by
  refine .handed ?_
  rw [inHand]
  exact handed

theorem Handed.takes {tcpip : Tcpip} {command : SubmitCommand}
    (handed : Handed dev (some ⟨s.tickets, command⟩)
      (s.taking tcpip command) s')
    (here : s.phase = .serve)
    (received : receiveCommand s.endpoints s.tcpip =
      .command tcpip (.submit command))
    (formed : WellFormedSubmit (loadEndpoints dev.configDesc) command) :
    Filing dev s (.wait true) s' := by
  obtain ⟨same, inHand, packing, reading, events, continued, minor⟩ := handed
  refine .takes tcpip command events here rfl received formed same.pendingUrbs
    same.endpoints same.passUs same.tickets same.deviceImported inHand packing
    ?_ minor reading
  rw [continued]
  simp [State.taking]

theorem Ends.submit_filing {tcpip : Tcpip} {command : SubmitCommand}
    (ends : Ends dev (s.taking tcpip command) (.submit ⟨s.tickets, command⟩) s')
    (here : s.phase = .serve)
    (received : receiveCommand s.endpoints s.tcpip =
      .command tcpip (.submit command))
    (formed : WellFormedSubmit (loadEndpoints dev.configDesc) command)
    (plain : Request.isochronous dev ⟨s.tickets, command⟩ = false) :
    Filing dev s (.wait true) s' := by
  have takes : Handed dev (some ⟨s.tickets, command⟩)
      (s.taking tcpip command) s' → Filing dev s (.wait true) s' :=
    fun handed => handed.takes here received formed
  cases ends with
  | control | receives =>
      exact takes (.same ⟨rfl, rfl, rfl, rfl, rfl⟩ (.inr rfl) rfl rfl rfl)
  | ignored => exact takes (finishSubmit_handed _ plain le_rfl (by simp))
  | overflows =>
      exact takes (finishSubmit_handed _ plain (Nat.zero_le _) fun _ => .inl rfl)
  | queued =>
      refine .queues tcpip command here rfl received formed plain rfl rfl rfl
        rfl rfl rfl ?_
      simp [State.taking]

theorem Ends.reset_filing {label : Label} {start : State}
    {reason : ResetReason} (ends : Ends dev start (.reset reason) s')
    (absent : s.deviceImported = false)
    (resetting : Resetting dev start.endpoints start.waitTimeoutUs
      start.tcpip.sent reason)
    (empty : start.pendingUrbs = []) (tables : SameTables s start)
    (traced : start.trace = s.trace) : Filing dev s label s' := by
  cases ends with
  | attached =>
      refine .imports absent rfl rfl empty resetting.1 tables.passUs
        tables.tickets ?_
      simp [traced]
  | unattached =>
      refine .forgets [.writeFailed] rfl empty tables.passUs tables.tickets rfl
        rfl ?_ (by simp [Event.Minor]) rfl
      simp [traced]
  | detached =>
      exact .plainly ⟨tables.pendingUrbs, tables.endpoints, tables.passUs,
        tables.tickets, tables.deviceImported⟩ rfl rfl rfl traced

theorem Section.minor {mayWait : Bool} {device device' : DeviceState}
    {call : Call} {phase : CallPhase} {events : List Event}
    {held : Option Request}
    (ran : Section mayWait device call device' phase events) :
    ∀ event ∈ .entered call :: events, event.Minor dev held :=
  fun event member => Event.minor_of_transmit (ran.transmits event member)

theorem State.dataReply_fits (s : State) (urb : PendingUrb) :
    (s.dataReply urb).ret.actualLength.toNat ≤
      urb.transferBufferLength.toNat := by
  have short := s.available_short urb
  have bound := urb.transferBufferLength.toNat_lt
  have small : (s.available urb).length < UInt32.size := by
    simp only [UInt32.size]
    omega
  simpa [State.dataReply, retSubmitReply, UInt32.toNat_ofNat_of_lt' small]
    using short

theorem callback_filing {next : Continuation} {made length : Nat}
    {written : List Byte} (sound : Sound dev s)
    (here : s.phase = .callback none made next) (fits : next.fits written)
    (ends : Ends dev
      { s with
        receiveLock := none
        txBuffer := next.fill written s.txBuffer } (next.task length) s') :
    Filing dev s (.callbackReturn written length) s' := by
  have inHand : s.phase.held = next.held := by simp [here, Phase.held]
  cases next with
  | control request =>
      obtain ⟨_, _, control⟩ := sound.isAttached here fun _ _ _ => id
      refine Handed.filing inHand ?_
      exact (ends.handed ⟨rfl, control⟩).from_eq ⟨rfl, rfl, rfl, rfl, rfl⟩ rfl
  | receive request =>
      obtain ⟨_, _, plain, _⟩ := sound.isAttached here fun _ _ _ => id
      refine Handed.filing inHand ?_
      exact (ends.handed ⟨rfl, plain⟩).from_eq ⟨rfl, rfl, rfl, rfl, rfl⟩ rfl
  | isoOut request packet rest =>
      refine Handed.filing inHand ?_
      exact (ends.handed rfl).from_eq ⟨rfl, rfl, rfl, rfl, rfl⟩ rfl
  | isoIn urb actual packet rest back =>
      exact .packs (.returned here rfl fits) ends.outcome
  | reset reason =>
      obtain ⟨absent, empty, resetting⟩ := sound.isDetached here fun _ _ => id
      exact ends.reset_filing absent resetting empty ⟨rfl, rfl, rfl, rfl, rfl⟩
        rfl

theorem Transition.filing {label : Label} (sound : Sound dev s)
    (moved : Transition dev s label s') : Filing dev s label s' := by
  have elsewhere : label.isThread = true → Elsewhere s s' :=
    fun kind => moved.elsewhere kind
  cases moved with
  | accepts | leaves | refuses | idles | fails | ends | resetCalls =>
      exact .plainly ⟨rfl, rfl, rfl, rfl, rfl⟩ rfl rfl rfl rfl
  | imports clock tcpip here running absent =>
      exact .forgets [] absent rfl rfl rfl rfl rfl
        (by simp [startImport]) (by simp) rfl
  | submits tcpip command here imported running received plain ends =>
      have types := (sound.attached_of imported).types
      exact ends.submit_filing here received
        (types.wellFormed (receiveCommand_wellFormed received))
        ((types.isIsochronous _).symm.trans plain)
  | submitsIso tcpip command here imported running received paced ends =>
      have types := (sound.attached_of imported).types
      exact (ends.handed rfl).takes here received
        (types.wellFormed (receiveCommand_wellFormed received))
  | misses tcpip command here =>
      have free : s.phase.held = none := by simp [here, Phase.held]
      refine Handed.filing free ?_
      exact (sendUnlinkReply_handed _ _).after ⟨rfl, rfl, rfl, rfl, rfl⟩ rfl
        (by simp [Event.Minor])
  | cancels tcpip command index urb here imported running received found filed =>
      refine .unlinks tcpip command index urb [.unlink command, _] here rfl
        received found filed rfl rfl rfl rfl rfl rfl rfl
        (List.append_assoc _ _ _) ?_ rfl
      split <;> simp [Event.Minor]
  | controlAnswers _ request _ here | controlCalls _ request here =>
      have inHand : s.phase.held = some request := by simp [here, Phase.held]
      refine Handed.filing inHand
        (.event ⟨rfl, rfl, rfl, rfl, rfl⟩ (.inr rfl) rfl rfl rfl ?_)
      trivial
  | controls clock request supported here action ends =>
      obtain ⟨_, _, control⟩ := sound.isAttached here fun _ _ _ => id
      have inHand : s.phase.held = some request := by simp [here, Phase.held]
      refine Handed.filing inHand ?_
      exact (ends.handed ⟨rfl, control⟩).after ⟨rfl, rfl, rfl, rfl, rfl⟩ rfl
        (by simp [Event.Minor])
  | answers clock request data here ran ends =>
      obtain ⟨_, _, control⟩ := sound.isAttached here fun _ _ _ => id
      have inHand : s.phase.held = some request := by simp [here, Phase.held]
      refine Handed.filing inHand ?_
      exact (ends.handed ⟨rfl, control⟩).after ⟨rfl, rfl, rfl, rfl, rfl⟩ rfl
        ran.minor
  | takesAnswer clock request supported here =>
      refine .handed (.same ⟨rfl, rfl, rfl, rfl, rfl⟩ (.inr ?_) rfl rfl rfl)
      simp [here, Phase.held]
  | fetches clock request supported answered handled here =>
      obtain ⟨_, _, control, _⟩ := sound.isAttached here fun _ _ _ => id
      have inHand : s.phase.held = some request := by simp [here, Phase.held]
      refine Handed.filing inHand ?_
      refine (finishSubmit_handed _ (Request.plain_of_control control) ?_
        fun _ => .inr control).after ⟨rfl, rfl, rfl, rfl, rfl⟩ rfl
        (by simp [Event.Minor])
      exact request.controlLength_le handled
        (s.device.fetched_length_le 0 _)
  | schedules clock request here room =>
      exact .schedules request clock here rfl room rfl rfl rfl rfl rfl rfl rfl
  | overflows clock request here full ends =>
      exact .packs (.overflow request clock here rfl full) ends.outcome
  | enters clock next here =>
      refine .stays [.callback (callbackArgs s next)]
        ⟨rfl, rfl, rfl, rfl, rfl⟩ ?_ ?_ rfl rfl (by simp [Event.Minor]) ?_
      · simp [here, Phase.held]
      · simp [here, Phase.packing]
      · simp [here, Phase.reading]
  | posts clock call made next here =>
      refine .stays [.returned call true] ⟨rfl, rfl, rfl, rfl, rfl⟩ ?_ ?_
        rfl rfl (by simp [Event.Minor]) ?_
      · simp [here, Phase.held]
      · simp [here, Phase.packing]
      · simp [here, Phase.reading]
  | starts clock here =>
      exact .starts clock here rfl rfl rfl rfl rfl rfl rfl rfl
  | loses => exact lostConnection_filing [] rfl rfl (by simp) (by simp)
  | later clock now index urb here =>
      refine .stays [] ⟨rfl, rfl, rfl, rfl, rfl⟩ ?_ ?_ rfl (by simp)
        (by simp) ?_
      · simp [here, Phase.held]
      · simp [here, Phase.packing]
      · simp [here, Phase.reading]
  | collects clock now index urb here filed isochronous due ends =>
      exact .packs (.pass now index urb here filed isochronous due) ends.outcome
  | skips clock now index urb here =>
      refine .stays _ ⟨rfl, rfl, rfl, rfl, rfl⟩ ?_ ?_ rfl rfl
        (by simp [Event.Minor]) ?_
      · simp [here, Phase.held]
      · simp [here, Phase.packing]
      · simp [here, Phase.reading]
  | completes clock now index urb tcpip here filed plain due =>
      refine .completes now index urb (s.dataReply urb) here filed plain due rfl
        (s.dataReply_fits urb) rfl rfl rfl rfl rfl rfl ?_
      rw [s.dataReply_data]
      exact List.append_assoc _ _ _
  | breaks clock now index urb =>
      refine lostConnection_filing
        [.fetched (epMasked urb.ep.toUInt8) (s.available urb), .writeFailed] rfl
        rfl (List.append_assoc _ _ _) ?_
      simp [Event.Minor]
  | resets | stops =>
      refine .handed (.event ⟨rfl, rfl, rfl, rfl, rfl⟩ (.inl rfl) rfl rfl rfl ?_)
      trivial
  | resetEnds clock reason here uncalled ends =>
      obtain ⟨absent, empty, resetting⟩ := sound.isDetached here fun _ _ => id
      exact ends.reset_filing absent resetting empty ⟨rfl, rfl, rfl, rfl, rfl⟩
        rfl
  | callbackTransmits ep data made next here ran =>
      refine .stays _ ⟨rfl, rfl, rfl, rfl, rfl⟩ ?_ ?_ rfl rfl ran.minor ?_
      · simp [here, Phase.held]
      · simp [here, Phase.packing]
      · simp [here, Phase.reading]
  | returns written length made next here fits ends =>
      exact callback_filing sound here fits ends
  | interrupts =>
      exact .stays [] ⟨rfl, rfl, rfl, rfl, rfl⟩ rfl rfl rfl (by simp) (by simp)
        rfl
  | transmits | wakes | threadPosts | locks | unlocks =>
      exact (elsewhere rfl).filing

theorem step_filing {label : Label} (sound : Sound dev s)
    (stepped : step dev s label = some s') : Filing dev s label s' :=
  (step_transition stepped).filing sound

end

end UsbipServer
