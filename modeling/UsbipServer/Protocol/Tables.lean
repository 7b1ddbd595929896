import UsbipServer.Device.Control
import UsbipServer.Tcpip

namespace UsbipServer

open Wire Library

/-! The endpoint table, the pending transfers and the operation replies of
`usbip_protocol.c`. -/

def usbipMaxPacketSize : Nat := 64 * 1024
def usbipProtocolVersion : UInt16 := 0x0111
/-- `-32` as a 32-bit word. -/
def epStall : UInt32 := 0xffffffe0
/-- `-ECONNRESET`, `-104` as a 32-bit word. -/
def urbUnlinked : UInt32 := 0xffffff98
def maxPendingUrbs : Nat := 32
def maxIsoPackets : Nat := 128
def waitTimeoutUsMax : Nat := 500000
/-- Where a 64-bit time starts over. -/
def timeRange : Nat := 2 ^ 64

def usbEndpointXferIsoc : Nat := 1
def usbEndpointXferInt : Nat := 3

/-- `endpoint_t`.  Times are microseconds of the monotonic clock.  A reading of
the clock and with it `nextPollUs` are far below the range of their 64-bit
words; `streamEndUs` is moved on by every submit and may leave it. -/
structure Endpoint where
  type : Nat
  intervalUs : Nat
  nextPollUs : Nat
  streamEndUs : Nat
  deriving DecidableEq, Repr

/-- Indexed by direction, `true` for IN, and by endpoint number. -/
abbrev Endpoints := Bool → Fin 16 → Endpoint

def noEndpoints : Endpoints := fun _ _ => ⟨0, 0, 0, 0⟩

def Endpoints.set (endpoints : Endpoints) (inward : Bool) (number : Fin 16)
    (endpoint : Endpoint) : Endpoints :=
  Function.update endpoints inward
    (Function.update (endpoints inward) number endpoint)

theorem Endpoints.set_apply (endpoints : Endpoints) (inward side : Bool)
    (number position : Fin 16) (endpoint : Endpoint) :
    endpoints.set inward number endpoint side position =
      if side = inward ∧ position = number then endpoint
      else endpoints side position := by
  unfold Endpoints.set
  by_cases here : side = inward
  · subst here
    by_cases there : position = number
    · subst there
      simp
    · simp [there]
  · simp [here]

/-- `ep & USB_ENDPOINT_NUMBER_MASK`. -/
def endpointNumber (ep : UInt32) : Fin 16 :=
  ⟨ep.toNat % 16, Nat.mod_lt _ (by decide)⟩

theorem epMasked_toUInt8 (ep : UInt32) :
    epMasked ep.toUInt8 = endpointNumber ep := by
  apply Fin.ext
  simp only [epMasked, endpointNumber, UInt32.toNat_toUInt8]
  omega

/-- One endpoint descriptor overwrites the type of its entry, and the interval
only when it is paced. -/
def loadEndpoint (endpoints : Endpoints) (configDesc : List Byte)
    (index : Nat) : Endpoints :=
  let address := (byteAt configDesc (index + 2)).toNat
  let inward : Bool := 128 ≤ address
  let number : Fin 16 := epMasked (byteAt configDesc (index + 2))
  let type := (byteAt configDesc (index + 3)).toNat % 4
  let paced : Bool := type = usbEndpointXferIsoc ∨
    (inward ∧ type = usbEndpointXferInt)
  let interval := (byteAt configDesc (index + 6)).toNat
  let endpoint := { endpoints inward number with type := type }
  if paced ∧ 0 < interval then
    endpoints.set inward number
      { endpoint with intervalUs := 125 * 2 ^ (min interval 16 - 1) }
  else endpoints.set inward number endpoint

/-- The walk over the descriptors, which moves on by at least one byte. -/
def loadDescriptors (configDesc : List Byte) :
    Nat → Nat → Endpoints → Endpoints
  | 0, _, endpoints => endpoints
  | fuel + 1, index, endpoints =>
      if index + 7 ≤ totalLength configDesc ∧
          0 < (byteAt configDesc index).toNat then
        let loaded :=
          if byteAt configDesc (index + 1) = usbDescriptorTypeEndpoint then
            loadEndpoint endpoints configDesc index
          else endpoints
        loadDescriptors configDesc fuel
          (index + (byteAt configDesc index).toNat) loaded
      else endpoints

def loadEndpoints (configDesc : List Byte) : Endpoints :=
  loadDescriptors configDesc (totalLength configDesc) 0 noEndpoints

structure IsoPacket where
  offset : UInt32
  length : UInt32
  deriving DecidableEq, Repr

/-- What identifies a transfer: `ticket` numbers the accepted submits, it is
only recorded, the other fields are those of the submit. -/
structure Transfer where
  ticket : Nat
  seqnum : UInt32
  ep : UInt32
  direction : UInt32
  transferBufferLength : UInt32
  isochronous : Bool
  deriving DecidableEq, Repr

/-- The endpoint buffer and the IN table entry a transfer is served from. -/
def Transfer.number (transfer : Transfer) : Fin 16 :=
  endpointNumber transfer.ep

/-- `pending_urb_t`.  The fields of its own are only read when the transfer is
isochronous. -/
structure PendingUrb extends Transfer where
  startFrame : UInt32
  numberOfPackets : UInt32
  completeUs : Nat
  packets : List IsoPacket
  deriving DecidableEq, Repr

namespace PendingUrb

/-- When the next completion pass may look at a transfer. -/
def dueUs (urb : PendingUrb) (endpoints : Endpoints) : Nat :=
  if urb.isochronous then urb.completeUs
  else (endpoints true urb.number).nextPollUs

end PendingUrb

def hasPendingIsoUrbs (pendingUrbs : List PendingUrb) (ep direction : UInt32) :
    Bool :=
  pendingUrbs.any fun urb =>
    urb.isochronous && urb.ep == ep && urb.direction == direction

def findPendingUrb (pendingUrbs : List PendingUrb) (seqnum : UInt32) :
    Option Nat :=
  pendingUrbs.findIdx? fun urb => urb.seqnum == seqnum

def paddedText (text : String) (size : Nat) : List Byte :=
  let bytes := text.toList.map fun letter => UInt8.ofNat letter.toNat
  bytes ++ List.replicate (size - bytes.length) 0

def responseHead (responseCode : UInt16) : List Byte :=
  OpHead.encode ⟨usbipProtocolVersion, responseCode, 0⟩

/-- Bus 2, device 3, high speed. -/
def deviceId : List Byte :=
  paddedText "sys/usb/virtual_device" 256 ++ paddedText "1-1" 32 ++
    be32 2 ++ be32 3 ++ be32 3

def deviceRecord (dev : UsbipDevice) : List Byte :=
  be16 (UInt16.ofNat (wordAt dev.deviceDesc 8)) ++
    be16 (UInt16.ofNat (wordAt dev.deviceDesc 10)) ++
    be16 (UInt16.ofNat (wordAt dev.deviceDesc 12)) ++
    [byteAt dev.deviceDesc 4, byteAt dev.deviceDesc 5, byteAt dev.deviceDesc 6,
      byteAt dev.configDesc 5, byteAt dev.deviceDesc 17,
      byteAt dev.configDesc 4]

def transmitImportResponse (dev : UsbipDevice) (tcpip : Tcpip) :
    Bool × Tcpip :=
  tcpipServerWriteAll tcpip
    [responseHead opRepImport, deviceId, deviceRecord dev]

/-- The next interface descriptor after `index`.  `none` when `fuel` runs out,
with fuel for every byte of the descriptor that is a loop that never ends. -/
def getNextInterfaceIdx (configDesc : List Byte) :
    Nat → Nat → Nat → Option Nat
  | 0, _, _ => none
  | fuel + 1, index, descSize =>
      if index < totalLength configDesc then
        let index := index + descSize
        if byteAt configDesc (index + 1) = 4 then some index
        else
          getNextInterfaceIdx configDesc fuel index
            (byteAt configDesc index).toNat
      else some index

def interfaceRecord (configDesc : List Byte) (index : Nat) : List Byte :=
  [byteAt configDesc (index + 5), byteAt configDesc (index + 6),
    byteAt configDesc (index + 7), 0]

def transmitInterfaces (configDesc : List Byte) :
    Nat → Nat → Bool × Tcpip → Option (Bool × Tcpip)
  | 0, _, result => some result
  | count + 1, index, (status, tcpip) =>
      match getNextInterfaceIdx configDesc (totalLength configDesc + 2) index
          (byteAt configDesc index).toNat with
      | none => none
      | some found =>
          let result :=
            if status then
              tcpipServerWrite tcpip (interfaceRecord configDesc found)
            else (status, tcpip)
          if result.1 then transmitInterfaces configDesc count found result
          else some result

def transmitDevlistResponse (dev : UsbipDevice) (tcpip : Tcpip) :
    Option (Bool × Tcpip) :=
  transmitInterfaces dev.configDesc (byteAt dev.configDesc 4).toNat 0
    (tcpipServerWriteAll tcpip
      [responseHead opRepDevlist, be32 1, deviceId, deviceRecord dev])

end UsbipServer
