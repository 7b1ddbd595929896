import UsbipServer.System
import UsbipServer.Library.FixedArray

namespace UsbipServer

open Wire Library

/-! The static arrays of the server.  `System` keeps the pending transfers and
the endpoint data as lists and its buffers without a size.  Here they are arrays
of the sizes the source gives them, and every step lists the accesses it makes:
one outside its array has no result, and neither has a read of anything but what
`System` says was read. -/

structure Memory where
  rxBuffer : Buffer Byte
  txBuffer : Buffer Cell
  pendingUrbs : Buffer PendingUrb
  numPendingUrbs : Nat
  data : Fin 16 → Buffer Cell
  dataLength : Fin 16 → Nat

/-- The fields of an entry that are read agree.  Those that only isochronous
transfers have keep what an earlier transfer left in the entry. -/
structure PendingUrb.Agrees (entry urb : PendingUrb) : Prop where
  transfer : entry.toTransfer = urb.toTransfer
  isochronous : urb.isochronous = true → entry = urb

instance (entry urb : PendingUrb) : Decidable (entry.Agrees urb) :=
  decidable_of_iff
    (entry.toTransfer = urb.toTransfer ∧
      (urb.isochronous = true → entry = urb))
    ⟨fun ⟨transfer, isochronous⟩ => ⟨transfer, isochronous⟩,
      fun agrees => ⟨agrees.transfer, agrees.isochronous⟩⟩

inductive Access where
  /-- `tcpip_server_read` into `rx_buffer` -/
  | storeRx (content : List Byte)
  /-- a range of `rx_buffer` is passed to a callback -/
  | loadRx (offset : Nat) (content : List Byte)
  /-- the isochronous callback gets a range of `tx_buffer` to write to -/
  | spaceTx (offset length : Nat)
  | storeTx (offset : Nat) (content : List Cell)
  /-- the first bytes of `tx_buffer` are sent -/
  | loadTx (content : List Cell)
  /-- the loops over `descriptors` and `packets` -/
  | packets (count : Nat)
  | pushUrb (urb : PendingUrb)
  | lookUrb (index : Nat) (urb : PendingUrb)
  /-- a loop over the first entries of `pending_urbs` -/
  | scanUrbs (urbs : List PendingUrb)
  | removeUrb (index : Nat)
  | clearUrbs
  | storeData (endpoint : Fin 16) (content : List Cell)
  | fetchData (endpoint : Fin 16) (maxLength : Nat) (content : List Cell)
  | clearData (endpoint : Fin 16)
  | clearAllData

namespace Memory

/-- A new entry: `process_submit` sets the fields of a bulk or interrupt
transfer, `process_iso_submit` copies a whole entry. -/
def newEntry (memory : Memory) (urb : PendingUrb) : PendingUrb :=
  if urb.isochronous then urb
  else { memory.pendingUrbs memory.numPendingUrbs with
    toTransfer := urb.toTransfer }

def pushUrb (memory : Memory) (urb : PendingUrb) : Option Memory :=
  (memory.pendingUrbs.store maxPendingUrbs memory.numPendingUrbs
    [memory.newEntry urb]).map fun pendingUrbs =>
      { memory with
        pendingUrbs := pendingUrbs
        numPendingUrbs := memory.numPendingUrbs + 1 }

def scanUrbs (memory : Memory) (offset : Nat) (urbs : List PendingUrb) :
    Option Memory :=
  match memory.pendingUrbs.load maxPendingUrbs offset urbs.length with
  | none => none
  | some entries =>
      if (List.zip entries urbs).all fun pair => decide (pair.1.Agrees pair.2)
      then some memory
      else none

def removePendingUrb (memory : Memory) (index : Nat) : Option Memory :=
  (memory.pendingUrbs.move maxPendingUrbs index (index + 1)
    (memory.numPendingUrbs - 1 - index)).map fun pendingUrbs =>
      { memory with
        pendingUrbs := pendingUrbs
        numPendingUrbs := memory.numPendingUrbs - 1 }

/-- The `memcpy` of `usbip_device_transmit`. -/
def storeData (memory : Memory) (endpoint : Fin 16) (content : List Cell) :
    Option Memory :=
  ((memory.data endpoint).store endpointMaxDataLength 0 content).map
    fun data =>
      { memory with
        data := Function.update memory.data endpoint data
        dataLength :=
          Function.update memory.dataLength endpoint content.length }

/-- The part of `available` bytes that a fetch leaves in the endpoint. -/
def remaining (endpoint : Fin 16) (available maxLength : Nat) : Nat :=
  if endpoint = 0 then 0 else available - min maxLength available

/-- The `memcpy` and the `memmove` of `usbip_device_fetch_ep_data`. -/
def fetchData (memory : Memory) (endpoint : Fin 16) (maxLength : Nat)
    (content : List Cell) : Option Memory :=
  let available := memory.dataLength endpoint
  let length := min maxLength available
  let left := remaining endpoint available maxLength
  match (memory.data endpoint).load endpointMaxDataLength 0 length with
  | none => none
  | some copied =>
      if copied = content then
        match memory.txBuffer.store usbipMaxPacketSize 0 copied,
            (memory.data endpoint).move endpointMaxDataLength 0 length left with
        | some txBuffer, some data =>
            some { memory with
              txBuffer := txBuffer
              data := Function.update memory.data endpoint data
              dataLength := Function.update memory.dataLength endpoint left }
        | _, _ => none
      else none

def perform (memory : Memory) : Access → Option Memory
  | .storeRx content =>
      (memory.rxBuffer.store usbipMaxPacketSize 0 content).map fun rxBuffer =>
        { memory with rxBuffer := rxBuffer }
  | .loadRx offset content =>
      if memory.rxBuffer.load usbipMaxPacketSize offset content.length =
          some content then some memory
      else none
  | .spaceTx offset length =>
      if offset + length ≤ usbipMaxPacketSize then some memory else none
  | .storeTx offset content =>
      (memory.txBuffer.store usbipMaxPacketSize offset content).map
        fun txBuffer => { memory with txBuffer := txBuffer }
  | .loadTx content =>
      if memory.txBuffer.load usbipMaxPacketSize 0 content.length =
          some content then some memory
      else none
  | .packets count => if count ≤ maxIsoPackets then some memory else none
  | .pushUrb urb => memory.pushUrb urb
  | .lookUrb index urb => memory.scanUrbs index [urb]
  | .scanUrbs urbs => memory.scanUrbs 0 urbs
  | .removeUrb index => memory.removePendingUrb index
  | .clearUrbs => some { memory with numPendingUrbs := 0 }
  | .storeData endpoint content => memory.storeData endpoint content
  | .fetchData endpoint maxLength content =>
      memory.fetchData endpoint maxLength content
  | .clearData endpoint =>
      some { memory with
        dataLength := Function.update memory.dataLength endpoint 0 }
  | .clearAllData => some { memory with dataLength := fun _ => 0 }

def performAll (memory : Memory) (accesses : List Access) : Option Memory :=
  accesses.foldlM perform memory

end Memory

/-! The accesses of a step.  The reads of `tx_buffer` that a failed write would
skip are listed too. -/

def packetsAccesses (endpoints : Endpoints) (header : HeaderBasic)
    (submit : CmdSubmit) : List Access :=
  if isIsochronous endpoints header then
    if maxIsoPackets < submit.numberOfPackets.toNat then []
    else [.packets submit.numberOfPackets.toNat]
  else []

def receiveSubmitAccesses (endpoints : Endpoints) (tcpip : Tcpip)
    (header : HeaderBasic) : List Access :=
  match tcpipServerRead tcpip CmdSubmit.size with
  | .complete tcpip bytes =>
      let submit := CmdSubmit.decode bytes
      let length := submit.transferBufferLength.toNat
      if usbipMaxPacketSize < length then []
      else if header.direction = 0 then
        match tcpipServerRead tcpip length with
        | .blocked => []
        | .failed _ received => [.storeRx received]
        | .complete _ payload =>
            .storeRx payload :: packetsAccesses endpoints header submit
      else packetsAccesses endpoints header submit
  | _ => []

def receiveAccesses (endpoints : Endpoints) (tcpip : Tcpip) : List Access :=
  match tcpipServerRead tcpip HeaderBasic.size with
  | .complete tcpip bytes =>
      let header := HeaderBasic.decode bytes
      if header.command = usbipCmdSubmit then
        receiveSubmitAccesses endpoints tcpip header
      else []
  | _ => []

/-- `process_submit` after its reads and checks: a bulk or interrupt IN
transfer is filed. -/
def submitAccesses (request : Request) (s : State) : List Access :=
  if isIsochronous s.endpoints request.command.header ∨ request.ep = 0 ∨
      request.direction = 0 ∨ s.pendingUrbs.length = maxPendingUrbs then []
  else [.pushUrb request.urb]

/-- The search of `process_unlink`, the removal, and the search of
`has_pending_iso_urbs`. -/
def unlinkAccesses (seqnum : UInt32) (pendingUrbs : List PendingUrb) :
    List Access :=
  match findPendingUrb pendingUrbs seqnum with
  | none => [.scanUrbs pendingUrbs]
  | some index =>
      .scanUrbs (pendingUrbs.take (index + 1)) :: .removeUrb index ::
        match pendingUrbs[index]? with
        | none => []
        | some urb =>
            if urb.isochronous then [.scanUrbs (pendingUrbs.eraseIdx index)]
            else []

def commandAccesses (s : State) : List Access :=
  receiveAccesses s.endpoints s.tcpip ++
    match receiveCommand s.endpoints s.tcpip with
    | .command _ (.submit command) => submitAccesses ⟨s.tickets, command⟩ s
    | .command _ (.unlink command) =>
        unlinkAccesses command.unlink.unlinkSeqnum s.pendingUrbs
    | _ => []

def lostAccesses (written : Bool) : List Access :=
  if written then [] else [.clearUrbs]

/-- The end of `transmit_iso_ret_submit`, and what its caller does with the
entry. -/
def finishIsoAccesses (urb : PendingUrb) (actual : List Nat)
    (back : IsoReturn) (s : State) : List Access :=
  .packets urb.packets.length ::
    ((if urb.direction = 0 then []
      else [.loadTx (s.txBuffer.slice 0 actual.sum)]) ++
    match back with
    | .command => []
    | .pass _ index =>
        .removeUrb index ::
          lostAccesses (sendReply (isoReply urb actual s.txBuffer) s).1)

/-- The rest of the packet loop, up to the next callback. -/
def isoAccesses (dev : UsbipDevice) (urb : PendingUrb) (back : IsoReturn) :
    List IsoPacket → List Nat → State → List Access
  | [], actual, s => finishIsoAccesses urb actual back s
  | packet :: rest, actual, s =>
      if urb.direction = 0 then
        isoAccesses dev urb back rest (actual ++ [packet.length.toNat]) s
      else if dev.isoInCallback then []
      else isoAccesses dev urb back rest (actual ++ [0]) s

def callbackAccesses (s : State) : Continuation → List Access
  | .control request =>
      [.loadRx 0 (s.rxBuffer.slice 0 request.transferBufferLength.toNat)]
  | .receive request =>
      [.loadRx 0 (s.rxBuffer.slice 0 request.transferBufferLength.toNat)]
  | .isoOut _ packet _ =>
      [.loadRx packet.offset.toNat
        (s.rxBuffer.slice packet.offset.toNat packet.length.toNat)]
  | .isoIn urb actual packet _ _ =>
      [.spaceTx actual.sum (isoMaxLength urb actual packet)]
  | .reset _ => []

/-- The packets are read from the entry of the transfer. -/
def entryAccesses (urb : PendingUrb) : IsoReturn → List Access
  | .command => []
  | .pass _ index => [.lookUrb index urb]

def returnAccesses (dev : UsbipDevice) (written : List Byte) (length : Nat)
    (s : State) : Continuation → List Access
  | .isoIn urb actual packet rest back =>
      let cells := written.map fun byte => ⟨byte, none⟩
      .storeTx actual.sum cells :: (entryAccesses urb back ++
        isoAccesses dev urb back rest
          (actual ++ [min length (isoMaxLength urb actual packet)])
          { s with
            receiveLock := none
            txBuffer := s.txBuffer.write actual.sum cells })
  | _ => []

def transmitAccesses (mayWait : Bool) (call : Call) (device : DeviceState) :
    List Access :=
  match usbipDeviceTransmit mayWait call device with
  | .stored _ => [.storeData call.endpoint call.cells]
  | _ => []

def passAccesses (dev : UsbipDevice) (now index : Nat) (s : State) :
    List Access :=
  match s.pendingUrbs[index]? with
  | none => []
  | some urb =>
      .lookUrb index urb ::
        if now < urb.dueUs s.endpoints then []
        else if urb.isochronous then
          isoAccesses dev urb (.pass now index) urb.packets [] s
        else
          let fetched := s.device.usbipDeviceFetchEpData urb.ep.toUInt8
            urb.transferBufferLength.toNat
          .fetchData (epMasked urb.ep.toUInt8) urb.transferBufferLength.toNat
              fetched.1 ::
            if fetched.1.isEmpty then []
            else
              .removeUrb index :: .loadTx fetched.1 ::
                lostAccesses (sendReply (retSubmitReply urb.toTransfer 0
                  fetched.1.length true (s.txBuffer.write 0 fetched.1)) s).1

def serverAccesses (dev : UsbipDevice) (clock : Nat) (s : State) :
    List Access :=
  match s.phase with
  | .serve =>
      match serverStep dev clock s with
      | some next => if next.phase = .reset .attach then [.clearUrbs] else []
      | none => []
  | .control _ => [.clearData 0]
  | .answer _ data => transmitAccesses false (newCall s 0 data) s.device
  | .fetchReply request supported answered =>
      let length := request.transferBufferLength.toNat
      let fetched := s.device.usbipDeviceFetchEpData 0 length
      .fetchData 0 length fetched.1 ::
        if supported && !(decide (0 < length) && !answered) then
          [.loadTx fetched.1]
        else []
  | .isoSchedule request =>
      let inward : Bool := request.direction ≠ 0
      let number := endpointNumber request.ep
      let endpoint := s.endpoints inward number
      let completeUs :=
        isoCompleteUs endpoint clock request.command.submit.numberOfPackets
      let urb := request.isoUrb completeUs
      if s.pendingUrbs.length = maxPendingUrbs then
        isoAccesses dev urb .command urb.packets [] { s with
          endpoints := s.endpoints.set inward number
            { endpoint with streamEndUs := completeUs } }
      else [.pushUrb urb]
  | .lock next => callbackAccesses s next
  | .clearEvent status => lostAccesses status
  | .pass now index => passAccesses dev now index s
  | .reset _ => [.clearAllData]
  | .stop => [.clearAllData]
  | _ => []

def accesses (dev : UsbipDevice) (s : State) : Label → List Access
  | .server clock => serverAccesses dev clock s
  | .wait ready => if ready then commandAccesses s else []
  | .callbackTransmit ep data =>
      transmitAccesses false (newCall s ep data) s.device
  | .callbackReturn written length =>
      match s.phase with
      | .callback none _ next => returnAccesses dev written length s next
      | _ => []
  | .transmit thread ep data =>
      transmitAccesses (!(s.threads thread).inCriticalSection)
        (newCall s ep data) s.device
  | .wake thread =>
      match (s.threads thread).call with
      | .waiting call => transmitAccesses true call s.device
      | _ => []
  | _ => []

def memoryStep (dev : UsbipDevice) (pair : State × Memory) (label : Label) :
    Option (State × Memory) :=
  match step dev pair.1 label with
  | none => none
  | some s =>
      (pair.2.performAll (accesses dev pair.1 label)).map fun memory =>
        (s, memory)

def withMemory (dev : UsbipDevice) : Machine (State × Memory) Label :=
  ⟨memoryStep dev⟩

/-- Static arrays start with zero bytes. -/
def initialMemory : Memory where
  rxBuffer := fun _ => 0
  txBuffer := fun _ => ⟨0, none⟩
  pendingUrbs := fun _ => ⟨⟨0, 0, 0, 0, 0, false⟩, 0, 0, 0, []⟩
  numPendingUrbs := 0
  data := fun _ _ => ⟨0, none⟩
  dataLength := fun _ => 0

end UsbipServer
