import UsbipServer.Protocol.Receive
import UsbipServer.Library.Buffer
import UsbipServer.Library.Log

namespace UsbipServer

open Wire Library

/-! The whole server: the server thread, cut where it takes a lock, waits or
calls the device, and any number of application threads inside
`usbip_device_transmit` or a critical section.  Work of the server thread that
no other thread can see belongs to the step before it. -/

/-- An accepted submit, numbered in the order of arrival. -/
structure Request where
  ticket : Nat
  command : SubmitCommand
  deriving DecidableEq, Repr

namespace Request

def seqnum (request : Request) : UInt32 := request.command.header.seqnum
def ep (request : Request) : UInt32 := request.command.header.ep
def direction (request : Request) : UInt32 := request.command.header.direction
def transferBufferLength (request : Request) : UInt32 :=
  request.command.submit.transferBufferLength

def transfer (request : Request) (isochronous : Bool) : Transfer where
  ticket := request.ticket
  seqnum := request.seqnum
  ep := request.ep
  direction := request.direction
  transferBufferLength := request.transferBufferLength
  isochronous := isochronous

def urb (request : Request) : PendingUrb where
  toTransfer := request.transfer false
  startFrame := 0
  numberOfPackets := 0
  completeUs := 0
  packets := []

def isoPackets (request : Request) : List IsoPacket :=
  request.command.packets.map fun packet => ⟨packet.offset, packet.length⟩

def isoUrb (request : Request) (completeUs : Nat) : PendingUrb where
  toTransfer := request.transfer true
  startFrame := request.command.submit.startFrame
  numberOfPackets := request.command.submit.numberOfPackets
  completeUs := completeUs
  packets := request.isoPackets

end Request

/-- A complete `RET_SUBMIT` and the transfer it answers. -/
structure Reply where
  transfer : Transfer
  ret : RetSubmit
  data : List Cell
  packets : List IsoPacketDescriptor
  deriving DecidableEq, Repr

/-- A complete `RET_UNLINK`, with the transfer that was cancelled, if any. -/
structure UnlinkReply where
  seqnum : UInt32
  unlinkSeqnum : UInt32
  status : UInt32
  cancelled : Option Transfer
  deriving DecidableEq, Repr

def Reply.header (reply : Reply) : HeaderBasic :=
  ⟨usbipRetSubmit, reply.transfer.seqnum, 0, 0, 0⟩

def UnlinkReply.header (reply : UnlinkReply) : HeaderBasic :=
  ⟨usbipRetUnlink, reply.seqnum, 0, 0, 0⟩

/-- The buffers of a reply, in the order they are written. -/
def Reply.parts (reply : Reply) : List (List Byte) :=
  [reply.header.encode, reply.ret.encode, reply.data.map Cell.byte,
    IsoPacketDescriptor.encodeAll reply.packets]

def UnlinkReply.parts (reply : UnlinkReply) : List (List Byte) :=
  [reply.header.encode, (RetUnlink.mk reply.status).encode]

inductive CallbackArgs where
  | control (setup : Setup) (data : List Byte)
  | endpointData (ep : Byte) (data : List Byte)
  | isoIn (ep : Byte) (maxLength : Nat)
  | reset
  deriving DecidableEq, Repr

/-- Why the device is reset: a host attaches, or the connection was lost. -/
inductive ResetReason where
  | attach
  | lost
  deriving DecidableEq, Repr

/-- Where `transmit_iso_ret_submit` returns to: `process_iso_submit` with a full
table, or the entry `index` of a completion pass. -/
inductive IsoReturn where
  | command
  | pass (now index : Nat)
  deriving DecidableEq, Repr

/-- What the server thread does after a device callback. -/
inductive Continuation where
  | control (request : Request)
  | receive (request : Request)
  | isoOut (request : Request) (packet : IsoPacket) (rest : List IsoPacket)
  | isoIn (urb : PendingUrb) (actual : List Nat) (packet : IsoPacket)
      (rest : List IsoPacket) (back : IsoReturn)
  | reset (reason : ResetReason)
  deriving DecidableEq, Repr

inductive Phase where
  | accept
  | serve
  | control (request : Request)
  | answer (request : Request) (data : List Byte)
  | fetchAnswered (request : Request) (supported : Bool)
  | fetchReply (request : Request) (supported answered : Bool)
  | isoSchedule (request : Request)
  | lock (next : Continuation)
  | callback (posting : Option Call) (made : Nat) (next : Continuation)
  | clearEvent (status : Bool)
  | pass (now index : Nat)
  | reset (reason : ResetReason)
  | resetEvent (reason : ResetReason)
  | stop
  | stopped
  deriving DecidableEq, Repr

inductive CallPhase where
  | idle
  | waiting (call : Call)
  | stored (call : Call)
  deriving DecidableEq, Repr

structure Thread where
  inCriticalSection : Bool
  call : CallPhase
  deriving DecidableEq, Repr

inductive Owner where
  | server
  | thread (thread : Nat)
  deriving DecidableEq, Repr

inductive Event where
  | entered (call : Call)
  | stored (call : Call)
  | returned (call : Call) (result : Bool)
  | fetched (endpoint : Fin 16) (data : List Cell)
  | control (request : Request)
  | reset
  | deviceStopped
  | imported
  | lost
  | submit (request : Request)
  | unlink (command : UnlinkCommand)
  | queued (urb : PendingUrb)
  | retSubmit (reply : Reply)
  | retUnlink (reply : UnlinkReply)
  | writeFailed
  | callback (args : CallbackArgs)
  | pass (now : Nat)
  deriving DecidableEq, Repr

/-- The static variables of the server, the threads and, from `calls` on, what
is only recorded. -/
structure State where
  tcpip : Tcpip
  device : DeviceState
  deviceImported : Bool
  pendingUrbs : List PendingUrb
  endpoints : Endpoints
  waitTimeoutUs : Nat
  rxBuffer : Buffer Byte
  txBuffer : Buffer Cell
  receiveLock : Option Owner
  threads : Nat → Thread
  phase : Phase
  calls : Nat
  tickets : Nat
  passUs : Nat
  trace : List Event

namespace State

@[simps]
def goto (s : State) (phase : Phase) : State := { s with phase := phase }

@[simps]
def emit (s : State) (events : List Event) : State :=
  { s with trace := s.trace ++ events }

end State

def sendReply (reply : Reply) (s : State) : Bool × State :=
  let written := tcpipServerWriteAll s.tcpip reply.parts
  (written.1, { s with tcpip := written.2 }.emit
    [if written.1 then .retSubmit reply else .writeFailed])

/-- The reply of `transmit_ret_submit`: IN transfers send `actual_length` bytes
of `tx_buffer`, OUT transfers only report how much was accepted. -/
def retSubmitReply (transfer : Transfer) (urbStatus : UInt32)
    (actualLength : Nat) (sendData : Bool) (txBuffer : Buffer Cell) : Reply where
  transfer := transfer
  ret := ⟨urbStatus, UInt32.ofNat actualLength, 0, 0xffffffff, 0⟩
  data := if sendData then txBuffer.slice 0 actualLength else []
  packets := []

def transmitRetSubmit (transfer : Transfer) (urbStatus : UInt32)
    (actualLength : Nat) (sendData : Bool) (s : State) : Bool × State :=
  sendReply (retSubmitReply transfer urbStatus actualLength sendData s.txBuffer)
    s

/-- `transmit_ret_submit` as the last act of a command. -/
def finishSubmit (request : Request) (urbStatus : UInt32)
    (actualLength : Nat) (sendData : Bool) (s : State) : State :=
  let sent := transmitRetSubmit (request.transfer false) urbStatus actualLength
    sendData s
  sent.2.goto (.clearEvent sent.1)

def descriptorOf (packet : IsoPacket) (actualLength : Nat) :
    IsoPacketDescriptor :=
  ⟨packet.offset, packet.length, UInt32.ofNat actualLength, 0⟩

/-- The reply of `transmit_iso_ret_submit`, `actual` are the lengths of its
packets. -/
def isoReply (urb : PendingUrb) (actual : List Nat)
    (txBuffer : Buffer Cell) : Reply where
  transfer := urb.toTransfer
  ret := ⟨0, UInt32.ofNat actual.sum, urb.startFrame, urb.numberOfPackets, 0⟩
  data := if urb.direction ≠ 0 then txBuffer.slice 0 actual.sum else []
  packets := List.zipWith descriptorOf urb.packets actual

/-- The connection is lost: forget the transfers and reset the device. -/
def lostConnection (s : State) : State :=
  ({ s with
    deviceImported := false
    pendingUrbs := [] }.emit [.lost]).goto (.reset .lost)

/-- The end of `transmit_iso_ret_submit` and what its caller does next. -/
def finishIso (urb : PendingUrb) (actual : List Nat) (back : IsoReturn)
    (s : State) : State :=
  let sent := sendReply (isoReply urb actual s.txBuffer) s
  match back with
  | .command => sent.2.goto (.clearEvent sent.1)
  | .pass now index =>
      let s := { sent.2 with pendingUrbs := sent.2.pendingUrbs.eraseIdx index }
      if sent.1 then s.goto (.pass now index) else lostConnection s

/-- The space the callback gets for a packet. -/
def isoMaxLength (urb : PendingUrb) (actual : List Nat)
    (packet : IsoPacket) : Nat :=
  min packet.length.toNat (urb.transferBufferLength.toNat - actual.sum)

/-- The packet loop of `transmit_iso_ret_submit`, up to the next callback. -/
def transmitIsoRetSubmit (dev : UsbipDevice) (urb : PendingUrb)
    (back : IsoReturn) : List IsoPacket → List Nat → State → State
  | [], actual, s => finishIso urb actual back s
  | packet :: rest, actual, s =>
      if urb.direction = 0 then
        transmitIsoRetSubmit dev urb back rest
          (actual ++ [packet.length.toNat]) s
      else if dev.isoInCallback then
        s.goto (.lock (.isoIn urb actual packet rest back))
      else transmitIsoRetSubmit dev urb back rest (actual ++ [0]) s

/-! Submits. -/

/-- The control branch of `process_submit` after the request was handled. -/
def finishControl (request : Request) (supported : Bool) (txLength : Nat)
    (s : State) : State :=
  if !supported then finishSubmit request epStall 0 false s
  else if request.direction = 0 then
    finishSubmit request 0 request.transferBufferLength.toNat false s
  else finishSubmit request 0 txLength true s

def controlHandled (request : Request) (supported : Bool) (s : State) :
    State :=
  if request.direction = 1 then s.goto (.fetchAnswered request supported)
  else finishControl request supported 0 s

/-- Deliver the packets of an isochronous OUT transfer, up to the next
callback. -/
def deliverPackets (dev : UsbipDevice) (request : Request) :
    List IsoPacket → State → State
  | [], s => s.goto (.isoSchedule request)
  | packet :: rest, s =>
      if 0 < packet.length.toNat ∧ dev.epDataCallback then
        s.goto (.lock (.isoOut request packet rest))
      else deliverPackets dev request rest s

/-- The packets of a transfer that are passed to the endpoint callback. -/
def Request.outPackets (request : Request) : List IsoPacket :=
  if request.direction = 0 then request.isoPackets else []

/-- A transfer takes one service interval per packet and starts when the
previous transfer on the endpoint ends.  The sum is one of 64-bit words. -/
def isoCompleteUs (endpoint : Endpoint) (now : Nat)
    (numberOfPackets : UInt32) : Nat :=
  (max endpoint.streamEndUs now +
    numberOfPackets.toNat * endpoint.intervalUs) % timeRange

/-- `process_iso_submit` from the clock reading on. -/
def scheduleIso (dev : UsbipDevice) (request : Request) (now : Nat)
    (s : State) : State :=
  let inward : Bool := request.direction ≠ 0
  let number := endpointNumber request.ep
  let endpoint := s.endpoints inward number
  let completeUs :=
    isoCompleteUs endpoint now request.command.submit.numberOfPackets
  let urb := request.isoUrb completeUs
  let s := { s with
    endpoints := s.endpoints.set inward number
      { endpoint with streamEndUs := completeUs } }
  if s.pendingUrbs.length = maxPendingUrbs then
    transmitIsoRetSubmit dev urb .command urb.packets [] s
  else
    ({ s with pendingUrbs := s.pendingUrbs ++ [urb] }.emit
      [.queued urb]).goto (.clearEvent true)

/-- `process_submit` after its reads and checks. -/
def processSubmit (dev : UsbipDevice) (request : Request) (s : State) :
    State :=
  if isIsochronous s.endpoints request.command.header then
    deliverPackets dev request request.outPackets s
  else if request.ep = 0 then s.goto (.control request)
  else if request.direction = 0 then
    if 0 < request.transferBufferLength.toNat ∧ dev.epDataCallback then
      s.goto (.lock (.receive request))
    else finishSubmit request 0 request.transferBufferLength.toNat false s
  else if s.pendingUrbs.length = maxPendingUrbs then
    finishSubmit request 0 0 true s
  else
    ({ s with pendingUrbs := s.pendingUrbs ++ [request.urb] }.emit
      [.queued request.urb]).goto (.clearEvent true)

/-- A stream that was stopped starts over without waiting for its cancelled
transfers. -/
def stopStream (urb : PendingUrb) (s : State) : State :=
  if urb.isochronous ∧ !hasPendingIsoUrbs s.pendingUrbs urb.ep urb.direction then
    let inward : Bool := urb.direction ≠ 0
    { s with
      endpoints := s.endpoints.set inward urb.number
        { s.endpoints inward urb.number with streamEndUs := 0 } }
  else s

def sendUnlinkReply (reply : UnlinkReply) (s : State) : State :=
  let written := tcpipServerWriteAll s.tcpip reply.parts
  ({ s with tcpip := written.2 }.emit
    [if written.1 then .retUnlink reply else .writeFailed]).goto
      (.clearEvent written.1)

/-- `process_unlink` after its read. -/
def processUnlink (command : UnlinkCommand) (s : State) : State :=
  let unlinkSeqnum := command.unlink.unlinkSeqnum
  match findPendingUrb s.pendingUrbs unlinkSeqnum with
  | none =>
      sendUnlinkReply ⟨command.header.seqnum, unlinkSeqnum, 0, none⟩ s
  | some index =>
      match s.pendingUrbs[index]? with
      | none =>
          sendUnlinkReply ⟨command.header.seqnum, unlinkSeqnum, 0, none⟩ s
      | some urb =>
          sendUnlinkReply
            ⟨command.header.seqnum, unlinkSeqnum, urbUnlinked,
              some urb.toTransfer⟩
            (stopStream urb
              { s with pendingUrbs := s.pendingUrbs.eraseIdx index })

/-- `process_imported_cmd`, `none` while the client's bytes are missing. -/
def processImportedCmd (dev : UsbipDevice) (s : State) : Option State :=
  match receiveCommand s.endpoints s.tcpip with
  | .blocked => none
  | .failed tcpip rx =>
      some ({ s with
        tcpip := tcpip
        rxBuffer := s.rxBuffer.write 0 rx }.goto (.clearEvent false))
  | .command tcpip command =>
      let s := { s with
        tcpip := tcpip
        rxBuffer := s.rxBuffer.write 0 command.payload }
      match command with
      | .submit command =>
          let request : Request := ⟨s.tickets, command⟩
          some (processSubmit dev request
            ({ s with tickets := s.tickets + 1 }.emit [.submit request]))
      | .unlink command =>
          some (processUnlink command (s.emit [.unlink command]))

/-! Completion. -/

def Endpoints.setNextPoll (endpoints : Endpoints) (number : Fin 16)
    (nextPollUs : Nat) : Endpoints :=
  endpoints.set true number
    { endpoints true number with nextPollUs := nextPollUs }

def completeWithData (urb : PendingUrb) (now index : Nat)
    (data : List Cell) (s : State) : State :=
  let sent := transmitRetSubmit urb.toTransfer 0 data.length true
    { s with
      txBuffer := s.txBuffer.write 0 data
      endpoints := s.endpoints.setNextPoll urb.number
        (now + (s.endpoints true urb.number).intervalUs)
      pendingUrbs := s.pendingUrbs.eraseIdx index }
  if sent.1 then sent.2.goto (.pass now index) else lostConnection sent.2

/-- One round of the loop of `complete_pending_urbs`, oldest transfer first. -/
def completePendingUrbs (dev : UsbipDevice) (now index : Nat) (s : State) :
    State :=
  match s.pendingUrbs[index]? with
  | none => s.goto .serve
  | some urb =>
      let dueUs := urb.dueUs s.endpoints
      if now < dueUs then
        { s with waitTimeoutUs := min s.waitTimeoutUs (dueUs - now) }.goto
          (.pass now (index + 1))
      else if urb.isochronous then
        transmitIsoRetSubmit dev urb (.pass now index) urb.packets [] s
      else
        let fetched := s.device.usbipDeviceFetchEpData urb.ep.toUInt8
          urb.transferBufferLength.toNat
        let s := { s with device := fetched.2 }.emit
          [.fetched (epMasked urb.ep.toUInt8) fetched.1]
        if fetched.1.isEmpty then s.goto (.pass now (index + 1))
        else completeWithData urb now index fetched.1 s

/-- The rest of an import or of a lost connection after the reset. -/
def resetDone (dev : UsbipDevice) (reason : ResetReason) (s : State) : State :=
  match reason with
  | .attach =>
      let written := transmitImportResponse dev s.tcpip
      let s := { s with tcpip := written.2, deviceImported := written.1 }
      if written.1 then (s.emit [.imported]).goto .serve
      else (s.emit [.writeFailed]).goto .accept
  | .lost => s.goto .accept

/-- A new host starts with a freshly reset device. -/
def startImport (dev : UsbipDevice) (s : State) : State :=
  { s with
    pendingUrbs := []
    waitTimeoutUs := waitTimeoutUsMax
    endpoints := loadEndpoints dev.configDesc }.goto (.reset .attach)

/-- `usbip_protocol_process_cmd`, `none` while the client's bytes are missing
or when the device list never ends. -/
def processCmd (dev : UsbipDevice) (s : State) : Option State :=
  match tcpipServerRead s.tcpip OpHead.size with
  | .blocked => none
  | .failed tcpip _ => some ({ s with tcpip := tcpip }.goto .accept)
  | .complete tcpip bytes =>
      let head := OpHead.decode bytes
      let s := { s with tcpip := tcpip }
      if head.version ≠ usbipProtocolVersion then some (s.goto .accept)
      else if head.code = opReqDevlist then
        match transmitDevlistResponse dev tcpip with
        | none => none
        | some (_, tcpip) => some ({ s with tcpip := tcpip }.goto .accept)
      else if head.code = opReqImport then
        match tcpipServerRead tcpip 32 with
        | .blocked => none
        | .failed tcpip _ => some ({ s with tcpip := tcpip }.goto .accept)
        | .complete tcpip _ => some (startImport dev { s with tcpip := tcpip })
      else some (s.goto .accept)

/-! Device callbacks. -/

def callbackArgs (s : State) : Continuation → CallbackArgs
  | .control request =>
      .control request.command.submit.setup
        (s.rxBuffer.slice 0 request.transferBufferLength.toNat)
  | .receive request =>
      .endpointData request.ep.toUInt8
        (s.rxBuffer.slice 0 request.transferBufferLength.toNat)
  | .isoOut request packet _ =>
      .endpointData request.ep.toUInt8
        (s.rxBuffer.slice packet.offset.toNat packet.length.toNat)
  | .isoIn urb actual packet _ _ =>
      .isoIn urb.ep.toUInt8 (isoMaxLength urb actual packet)
  | .reset _ => .reset

/-- Take `receive_lock` and call the device. -/
def enterCallback (next : Continuation) (s : State) : Option State :=
  if s.receiveLock = none then
    some (({ s with receiveLock := some .server }.emit
      [.callback (callbackArgs s next)]).goto (.callback none 0 next))
  else none

/-- The server thread continues after a callback.  Only the isochronous IN
callback has a result: the bytes it wrote, at most the space it was given, and
the length it returned. -/
def callbackReturned (dev : UsbipDevice) (next : Continuation)
    (written : List Byte) (length : Nat) (s : State) : Option State :=
  let s := { s with receiveLock := none }
  match next with
  | .control request => some (controlHandled request true s)
  | .receive request =>
      some (finishSubmit request 0 request.transferBufferLength.toNat false s)
  | .isoOut request _ rest => some (deliverPackets dev request rest s)
  | .isoIn urb actual packet rest back =>
      let maxLength := isoMaxLength urb actual packet
      if written.length ≤ maxLength then
        some (transmitIsoRetSubmit dev urb back rest
          (actual ++ [min length maxLength])
          { s with
            txBuffer := s.txBuffer.write actual.sum
              (written.map fun byte => ⟨byte, none⟩) })
      else none
  | .reset reason => some (resetDone dev reason s)

/-! Transmit calls. -/

def newCall (s : State) (ep : Byte) (data : List Byte) : Call :=
  ⟨s.calls, ep, data, s.device.resetGeneration⟩

/-- Events of a call that stored its data: on endpoint 0 it returns at once, on
the others it still has to write the event. -/
def storedEvents (call : Call) : List Event :=
  if call.endpoint = 0 then [.stored call, .returned call true]
  else [.stored call]

/-- A transmit on the server thread, which never waits.  `posting` is the call
that still has to write the event. -/
def serverTransmit (ep : Byte) (data : List Byte) (s : State) :
    Option Call × State :=
  let call := newCall s ep data
  let s := { s with calls := s.calls + 1 }.emit [.entered call]
  match usbipDeviceTransmit false call s.device with
  | .stored device =>
      (if call.endpoint = 0 then none else some call,
        { s with device := device }.emit (storedEvents call))
  | .waiting => (none, s)
  | .dropped => (none, s.emit [.returned call false])

@[simps]
def setCall (s : State) (thread : Nat) (call : CallPhase) : State :=
  { s with
    threads := Function.update s.threads thread
      { s.threads thread with call := call } }

/-- The locked section of a transmit on an application thread. -/
def threadTransmit (thread : Nat) (mayWait : Bool) (call : Call) (s : State) :
    State :=
  match usbipDeviceTransmit mayWait call s.device with
  | .waiting => setCall s thread (.waiting call)
  | .stored device =>
      setCall ({ s with device := device }.emit (storedEvents call)) thread
        (if call.endpoint = 0 then .idle else .stored call)
  | .dropped => setCall (s.emit [.returned call false]) thread .idle

/-! Steps. -/

inductive Label where
  | accept (reads : List ReadResult) (writes : List WriteResult)
  | server (clock : Nat)
  | wait (ready : Bool)
  | callbackTransmit (ep : Byte) (data : List Byte)
  | callbackReturn (written : List Byte) (length : Nat)
  | transmit (thread : Nat) (ep : Byte) (data : List Byte)
  | wake (thread : Nat)
  | post (thread : Nat)
  | enter (thread : Nat)
  | exit (thread : Nat)
  | interrupt
  deriving DecidableEq, Repr

/-- The next step of the server thread itself, `clock` is the reading of
`now_us` where the step makes one. -/
def serverStep (dev : UsbipDevice) (clock : Nat) (s : State) : Option State :=
  match s.phase with
  | .accept => if s.tcpip.stopServer then some (s.goto .stop) else none
  | .serve =>
      if s.tcpip.stopServer then some (s.goto .stop)
      else if s.deviceImported then none
      else processCmd dev s
  | .control request =>
      let setup := request.command.submit.setup
      let action := usbipDeviceControl dev s.device.configurationValue setup
        request.transferBufferLength.toNat
      let device := { s.device.forgetAnswer with
        configurationValue :=
          configurationAfter setup s.device.configurationValue }
      let s := { s with device := device }.emit [.control request]
      match action with
      | .answer data => some (s.goto (.answer request data))
      | .callback => some (s.goto (.lock (.control request)))
      | .nothing => some (controlHandled request true s)
      | .unsupported => some (controlHandled request false s)
  | .answer request data =>
      some (controlHandled request true (serverTransmit 0 data s).2)
  | .fetchAnswered request supported =>
      let taken := s.device.takeAnswered
      some ({ s with device := taken.2 }.goto
        (.fetchReply request supported taken.1))
  | .fetchReply request supported answered =>
      let length := request.transferBufferLength.toNat
      let fetched := s.device.usbipDeviceFetchEpData 0 length
      let s := { s with
        device := fetched.2
        txBuffer := s.txBuffer.write 0 fetched.1 }.emit [.fetched 0 fetched.1]
      some (finishControl request
        (supported && !(decide (0 < length) && !answered)) fetched.1.length s)
  | .isoSchedule request => some (scheduleIso dev request clock s)
  | .lock next => enterCallback next s
  | .callback (some call) made next =>
      some (({ s with device := s.device.writeEvent }.emit
        [.returned call true]).goto (.callback none made next))
  | .callback none _ _ => none
  | .clearEvent status =>
      let s := { s with device := s.device.usbipDeviceClearEvent }
      if status then
        some (({ s with
          waitTimeoutUs := waitTimeoutUsMax
          passUs := clock }.emit [.pass clock]).goto (.pass clock 0))
      else some (lostConnection s)
  | .pass now index => some (completePendingUrbs dev now index s)
  | .reset reason =>
      some (({ s with device := s.device.usbipDeviceReset }.emit
        [.reset]).goto (.resetEvent reason))
  | .resetEvent reason =>
      let s := { s with device := s.device.usbipDeviceClearEvent }
      if dev.resetCallback then some (s.goto (.lock (.reset reason)))
      else some (resetDone dev reason s)
  | .stop =>
      some (({ s with device := s.device.usbipDeviceStop }.emit
        [.deviceStopped]).goto .stopped)
  | .stopped => none

def step (dev : UsbipDevice) (s : State) : Label → Option State
  | .accept reads writes =>
      if s.phase = .accept ∧ s.tcpip.stopServer = false then
        some ({ s with
          tcpip := { s.tcpip with
            reads := reads
            writes := writes
            sent := [] } }.goto .serve)
      else none
  | .server clock => serverStep dev clock s
  | .wait ready =>
      if s.phase = .serve ∧ s.deviceImported then
        if ready then
          if s.tcpip.stopServer then none else processImportedCmd dev s
        else some (s.goto (.clearEvent true))
      else none
  | .callbackTransmit ep data =>
      match s.phase with
      | .callback none made next =>
          let sent := serverTransmit ep data s
          some (sent.2.goto (.callback sent.1 (made + 1) next))
      | _ => none
  | .callbackReturn written length =>
      match s.phase with
      | .callback none _ next => callbackReturned dev next written length s
      | _ => none
  | .transmit thread ep data =>
      match (s.threads thread).call with
      | .idle =>
          let call := newCall s ep data
          some (threadTransmit thread (!(s.threads thread).inCriticalSection)
            call ({ s with calls := s.calls + 1 }.emit [.entered call]))
      | _ => none
  | .wake thread =>
      match (s.threads thread).call with
      | .waiting call => some (threadTransmit thread true call s)
      | _ => none
  | .post thread =>
      match (s.threads thread).call with
      | .stored call =>
          some (setCall ({ s with device := s.device.writeEvent }.emit
            [.returned call true]) thread .idle)
      | _ => none
  | .enter thread =>
      if s.receiveLock = none ∧ (s.threads thread).call = .idle then
        some { s with
          receiveLock := some (.thread thread)
          threads := Function.update s.threads thread ⟨true, .idle⟩ }
      else none
  | .exit thread =>
      if s.receiveLock = some (.thread thread) ∧
          (s.threads thread).call = .idle then
        some { s with
          receiveLock := none
          threads := Function.update s.threads thread ⟨false, .idle⟩ }
      else none
  | .interrupt =>
      some { s with tcpip := { s.tcpip with stopServer := true } }

/-- The state after `usbip_device_init`, when the server thread starts. -/
def initial : State where
  tcpip := ⟨false, [], [], []⟩
  device := ⟨false, fun _ => [], false, 0, false, 0⟩
  deviceImported := false
  pendingUrbs := []
  endpoints := noEndpoints
  waitTimeoutUs := waitTimeoutUsMax
  rxBuffer := fun _ => 0
  txBuffer := fun _ => ⟨0, none⟩
  receiveLock := none
  threads := fun _ => ⟨false, .idle⟩
  phase := .accept
  calls := 0
  tickets := 0
  passUs := 0
  trace := []

def server (dev : UsbipDevice) : Machine State Label := ⟨step dev⟩

def Reachable (dev : UsbipDevice) (s : State) : Prop :=
  (server dev).Reaches Machine.anyStep initial s

/-- The state after the given steps, or the initial one if they are not a
run. -/
def stateAfter (dev : UsbipDevice) (labels : List Label) : State :=
  ((server dev).run initial labels).getD initial

theorem stateAfter_reachable (dev : UsbipDevice) (labels : List Label) :
    Reachable dev (stateAfter dev labels) := by
  unfold stateAfter
  cases executed : (server dev).run initial labels with
  | none => exact .refl
  | some s => exact Machine.reaches_of_run executed

/-- The state after the given steps if all of them are allowed, or the one they
start from. -/
def allowedAfter (dev : UsbipDevice) (allowed : State → Label → Bool)
    (start : State) (labels : List Label) : State :=
  (((server dev).restrict allowed).run start labels).getD start

theorem allowedAfter_reached (dev : UsbipDevice)
    (allowed : State → Label → Bool) (start : State) (labels : List Label) :
    (server dev).Reaches (fun s label => allowed s label = true) start
      (allowedAfter dev allowed start labels) := by
  unfold allowedAfter
  cases executed : ((server dev).restrict allowed).run start labels with
  | none => exact .refl
  | some s => exact (Machine.reaches_of_run executed).of_restrict

theorem Reachable.of_allowed {dev : UsbipDevice}
    {allowed : State → Label → Prop} {s : State}
    (reached : (server dev).Reaches allowed initial s) : Reachable dev s :=
  reached.mono fun _ _ _ => trivial

/-- The same for a server with a log. -/
def loggedAfter {Note : Type} (dev : UsbipDevice)
    (note : State → Label → List Note)
    (allowed : State × List Note → Label → Bool) (labels : List Label) :
    State × List Note :=
  ((((server dev).logged note).restrict allowed).run (initial, [])
    labels).getD (initial, [])

theorem loggedAfter_reached {Note : Type} (dev : UsbipDevice)
    (note : State → Label → List Note)
    (allowed : State × List Note → Label → Bool) (labels : List Label) :
    ((server dev).logged note).Reaches
      (fun pair label => allowed pair label = true) (initial, [])
      (loggedAfter dev note allowed labels) := by
  unfold loggedAfter
  cases executed : (((server dev).logged note).restrict allowed).run
      (initial, []) labels with
  | none => exact .refl
  | some pair => exact (Machine.reaches_of_run executed).of_restrict

theorem Reachable.of_logged {Note : Type} {dev : UsbipDevice}
    {note : State → Label → List Note}
    {allowed : State × List Note → Label → Prop} {pair : State × List Note}
    (reached : ((server dev).logged note).Reaches allowed (initial, []) pair) :
    Reachable dev pair.1 :=
  Machine.Reaches.of_logged reached

/-- The isochronous IN callback writes the bytes it reports. -/
def writesReported (s : State) : Label → Bool
  | .callbackReturn written length =>
      match s.phase with
      | .callback none _ (.isoIn urb actual packet _ _) =>
          min length (isoMaxLength urb actual packet) ≤ written.length
      | _ => true
  | _ => true

/-! A device with a bulk endpoint and an isochronous endpoint in each
direction, and the steps with which a host imports it. -/

def sampleDevice : UsbipDevice where
  deviceDesc := [18, 1, 0, 2, 0, 0, 0, 64]
  configDesc :=
    [9, 2, 37, 0, 1, 1, 0, 0x40, 0] ++ [7, 5, 0x81, 2, 64, 0, 0] ++
      [7, 5, 0x02, 2, 64, 0, 0] ++ [7, 5, 0x03, 1, 64, 0, 1] ++
      [7, 5, 0x84, 1, 64, 0, 1]
  langidDesc := [4, 3, 9, 4]
  usbStrings := []
  epDataCallback := true
  resetCallback := false
  isoInCallback := true

def importRequest : List Byte :=
  OpHead.encode ⟨usbipProtocolVersion, opReqImport, 0⟩ ++ List.replicate 32 0

def importLabels (commands : List Command) : List Label :=
  [.accept [.data (importRequest ++ commands.flatMap Command.encode)] [],
    .server 0, .server 0, .server 0]

def bulkIn (seqnum ep length : UInt32) : Command :=
  .submit ⟨⟨usbipCmdSubmit, seqnum, 0, 1, ep⟩,
    ⟨0, length, 0, 0, 0, ⟨0, 0, 0, 0, 0, 0, 0, 0⟩⟩, [], []⟩

def controlIn (seqnum : UInt32) (setup : Setup) (length : UInt32) : Command :=
  .submit ⟨⟨usbipCmdSubmit, seqnum, 0, 1, 0⟩, ⟨0, length, 0, 0, 0, setup⟩, [],
    []⟩

def isoOut (seqnum ep length : UInt32) (packets : List IsoPacketDescriptor)
    (payload : List Byte) : SubmitCommand :=
  ⟨⟨usbipCmdSubmit, seqnum, 0, 0, ep⟩,
    ⟨0, length, 0, UInt32.ofNat packets.length, 0, ⟨0, 0, 0, 0, 0, 0, 0, 0⟩⟩,
    payload, packets⟩

def unlinkOf (seqnum unlinkSeqnum : UInt32) : Command :=
  .unlink ⟨⟨usbipCmdUnlink, seqnum, 0, 0, 0⟩,
    ⟨unlinkSeqnum, Vector.replicate 24 0⟩⟩

example : (stateAfter sampleDevice (importLabels [])).deviceImported = true := by
  decide +kernel

end UsbipServer
