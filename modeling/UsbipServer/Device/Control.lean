import UsbipServer.Device.Endpoint

namespace UsbipServer

open Wire

/-! The USB control stack: which answer a control request gets, and which
requests are left to the device's control callback. -/

structure UsbString where
  id : Byte
  string : Option (List Byte)
  deriving DecidableEq, Repr

/-- `usbip_device_t`: the descriptors, and which optional callbacks are set. -/
structure UsbipDevice where
  deviceDesc : List Byte
  configDesc : List Byte
  langidDesc : List Byte
  usbStrings : List UsbString
  epDataCallback : Bool
  resetCallback : Bool
  isoInCallback : Bool
  deriving DecidableEq, Repr

def byteAt (descriptor : List Byte) (index : Nat) : Byte :=
  descriptor.getD index 0

def wordAt (descriptor : List Byte) (index : Nat) : Nat :=
  (byteAt descriptor (index + 1)).toNat * 256 + (byteAt descriptor index).toNat

def totalLength (configDesc : List Byte) : Nat := wordAt configDesc 2

def usbDescriptorTypeDevice : Byte := 1
def usbDescriptorTypeConfiguration : Byte := 2
def usbDescriptorTypeString : Byte := 3
def usbDescriptorTypeEndpoint : Byte := 5
def usbDescriptorTypeDeviceQualifier : Byte := 6
def usbDescriptorTypeOtherSpeedConfiguration : Byte := 7

def usbRequestGetStatus : Byte := 0
def usbRequestClearFeature : Byte := 1
def usbRequestSetFeature : Byte := 3
def usbRequestGetDescriptor : Byte := 6
def usbRequestGetConfiguration : Byte := 8
def usbRequestSetConfiguration : Byte := 9

def usbTransferTypeIsochronous : Nat := 1
def usbTransferTypeBulk : Nat := 2
def usbTransferTypeInterrupt : Nat := 3
def fullSpeedMaxPacketSize : Nat := 64
def fullSpeedMaxIsoPacketSize : Nat := 1023

/-- The text of a string index, the table ends at the first entry with id 0. -/
def getString : List UsbString → Byte → Option (List Byte)
  | [], _ => none
  | entry :: rest, index =>
      if entry.id = index then entry.string
      else if entry.id = 0 then none
      else getString rest index

def stringDescriptor (string : List Byte) : List Byte :=
  let text := string.take 126
  UInt8.ofNat (2 * text.length + 2) :: 3 :: text.flatMap fun unit => [unit, 0]

/-- The device qualifier of a USB 2.0 device, the other speed uses the same
device descriptor values. -/
def qualifierDescriptor (deviceDesc : List Byte) : List Byte :=
  [10, usbDescriptorTypeDeviceQualifier, byteAt deviceDesc 2,
    byteAt deviceDesc 3, byteAt deviceDesc 4, byteAt deviceDesc 5,
    byteAt deviceDesc 6, byteAt deviceDesc 7, byteAt deviceDesc 17, 0]

/-- Full speed bulk and interrupt packets are at most 64 bytes, and interrupt
intervals count milliseconds. -/
def convertBulkInterrupt (buffer : List Byte) (index : Nat)
    (transferType : Nat) : List Byte :=
  let buffer :=
    if fullSpeedMaxPacketSize < wordAt buffer (index + 4) then
      (buffer.set (index + 4) (UInt8.ofNat fullSpeedMaxPacketSize)).set
        (index + 5) 0
    else buffer
  let interval := (byteAt buffer (index + 6)).toNat
  if transferType = usbTransferTypeInterrupt ∧ 0 < interval then
    let exponent := min interval 16
    let intervalMs := 2 ^ (exponent - 1) / 8
    buffer.set (index + 6) (UInt8.ofNat (min (max intervalMs 1) 255))
  else buffer

/-- Full speed has one isochronous transaction per frame of at most 1023
bytes. -/
def convertIsochronous (buffer : List Byte) (index : Nat) : List Byte :=
  let maxPacketSize :=
    min (wordAt buffer (index + 4) % 2048) fullSpeedMaxIsoPacketSize
  let interval := (byteAt buffer (index + 6)).toNat
  let buffer := (buffer.set (index + 4) (UInt8.ofNat (maxPacketSize % 256))).set
    (index + 5) (UInt8.ofNat (maxPacketSize / 256))
  buffer.set (index + 6) (UInt8.ofNat (if 3 < interval then interval - 3 else 1))

def convertDescriptor (buffer : List Byte) (index : Nat) : List Byte :=
  let transferType := (byteAt buffer (index + 3)).toNat % 4
  if byteAt buffer (index + 1) = usbDescriptorTypeEndpoint ∧
      (transferType = usbTransferTypeBulk ∨
        transferType = usbTransferTypeInterrupt) then
    convertBulkInterrupt buffer index transferType
  else if byteAt buffer (index + 1) = usbDescriptorTypeEndpoint ∧
      transferType = usbTransferTypeIsochronous then
    convertIsochronous buffer index
  else buffer

/-- The walk over the descriptors.  Every step moves on by at least one byte,
so `fuel` is only a bound on its length. -/
def convertDescriptors : Nat → Nat → Nat → List Byte → List Byte
  | 0, _, _, buffer => buffer
  | fuel + 1, total, index, buffer =>
      if index + 7 ≤ total ∧ 0 < (byteAt buffer index).toNat then
        let converted := convertDescriptor buffer index
        convertDescriptors fuel total
          (index + (byteAt converted index).toNat) converted
      else buffer

def buildOtherSpeedConfig (configDesc : List Byte) (bufferLength : Nat) :
    List Byte :=
  let total := min (totalLength configDesc) bufferLength
  let buffer := (configDesc.take total).set 1
    usbDescriptorTypeOtherSpeedConfiguration
  convertDescriptors total total 0 buffer

/-- What a control request does on the device side: transmit an answer on
endpoint 0, run the control callback, nothing, or fail. -/
inductive ControlAction where
  | answer (data : List Byte)
  | callback
  | nothing
  | unsupported
  deriving DecidableEq, Repr

def ControlAction.supported : ControlAction → Bool
  | .unsupported => false
  | _ => true

def getDescriptor (dev : UsbipDevice) (setup : Setup) (reqSize : Nat) :
    ControlAction :=
  let bDescriptorType := setup.wValueHigh
  let bDescriptorIndex := setup.wValueLow
  let bcdUsbMajor := (byteAt dev.deviceDesc 3).toNat
  if bDescriptorType = usbDescriptorTypeDevice then
    .answer (dev.deviceDesc.take
      (min reqSize (byteAt dev.deviceDesc 0).toNat))
  else if bDescriptorType = usbDescriptorTypeConfiguration then
    .answer (dev.configDesc.take (min reqSize (totalLength dev.configDesc)))
  else if bDescriptorType = usbDescriptorTypeDeviceQualifier ∧
      2 ≤ bcdUsbMajor then
    .answer ((qualifierDescriptor dev.deviceDesc).take reqSize)
  else if bDescriptorType = usbDescriptorTypeOtherSpeedConfiguration ∧
      2 ≤ bcdUsbMajor then
    .answer ((buildOtherSpeedConfig dev.configDesc
      endpointMaxDataLength).take reqSize)
  else if bDescriptorType = usbDescriptorTypeString then
    if bDescriptorIndex = 0 then
      .answer (dev.langidDesc.take
        (min reqSize (byteAt dev.langidDesc 0).toNat))
    else
      match getString dev.usbStrings bDescriptorIndex with
      | some string => .answer ((stringDescriptor string).take reqSize)
      | none => .nothing
  else .nothing

/-- Bit 7 of `bmRequestType`: the request asks for data from the device. -/
def Setup.deviceToHost (setup : Setup) : Bool :=
  128 ≤ setup.bmRequestType.toNat

def deviceRequest (dev : UsbipDevice) (configurationValue : Byte)
    (setup : Setup) (reqSize : Nat) : ControlAction :=
  if Setup.deviceToHost setup then
    if setup.bRequest = usbRequestGetStatus then
      let selfPowered : Byte :=
        if (byteAt dev.configDesc 7).toNat / 64 % 2 = 1 then 1 else 0
      .answer [selfPowered, 0]
    else if setup.bRequest = usbRequestGetDescriptor then
      getDescriptor dev setup reqSize
    else if setup.bRequest = usbRequestGetConfiguration then
      .answer [configurationValue]
    else .nothing
  else if setup.bRequest = usbRequestSetConfiguration then .callback
  else .unsupported

def endpointRequest (setup : Setup) : ControlAction :=
  if setup.bRequest = usbRequestGetStatus then .answer [0, 0]
  else if setup.bRequest = usbRequestClearFeature ∨
      setup.bRequest = usbRequestSetFeature then .nothing
  else .unsupported

/-- The dispatch of `usbip_device_control` on request type and recipient. -/
def usbipDeviceControl (dev : UsbipDevice) (configurationValue : Byte)
    (setup : Setup) (length : Nat) : ControlAction :=
  let bfType := setup.bmRequestType.toNat / 32 % 4
  let bfRecipient := setup.bmRequestType.toNat % 32
  if bfType ≠ 0 then .callback
  else if bfRecipient = 0 then
    deviceRequest dev configurationValue setup length
  else if bfRecipient = 1 then .callback
  else if bfRecipient = 2 then endpointRequest setup
  else .unsupported

/-- `SET_CONFIGURATION` to the device, the one request with a state of its
own: the new configuration value. -/
def configurationAfter (setup : Setup) (configurationValue : Byte) : Byte :=
  if setup.bmRequestType.toNat / 32 % 4 = 0 ∧
      setup.bmRequestType.toNat % 32 = 0 ∧
      Setup.deviceToHost setup = false ∧
      setup.bRequest = usbRequestSetConfiguration then
    setup.wValueLow
  else configurationValue

end UsbipServer
