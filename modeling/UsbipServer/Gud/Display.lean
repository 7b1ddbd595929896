import UsbipServer.Gud.Protocol
import UsbipServer.Library.Buffer
import UsbipServer.Library.Log

namespace UsbipServer.Gud

open Wire Library

/-! The display device: what its callbacks keep and do.  A copy that would
leave the array it reads or writes has no result.  Which formats the device
offers is a setting, the functions that read it have it as a parameter. -/

def displayWidth : UInt32 := 320
def displayHeight : UInt32 := 240
def displayRefreshHz : UInt32 := 60
def displayFormats : List Byte := [gudPixelFormatRgb565]
def displayMaxBufferSize : UInt32 := 64 * 1024
def displayCompression : Byte := 0
def gudInterface : UInt16 := 0

def requestTypeVendorInterfaceIn : Byte := 0xC1
def requestTypeVendorInterfaceOut : Byte := 0x41
def maxBytesPerPixel : UInt32 := 4
def connectorConnectDelayMs : UInt64 := 5000

def framebufferSize : Nat :=
  (displayWidth * displayHeight * maxBytesPerPixel).toNat

structure PendingBuffer where
  active : Bool
  req : SetBufferReq
  transferLength : UInt32
  received : UInt32
  deriving DecidableEq, Repr

structure Display where
  lastStatus : Status
  attachedMs : UInt64
  stateChecked : Bool
  checkedState : StateReq
  currentFormat : Byte
  controllerEnabled : Bool
  displayEnabled : Bool
  pending : PendingBuffer
  transferBuffer : Buffer Byte
  framebuffer : Buffer Byte
  framebufferChanged : Bool
  statsUpdates : UInt32
  statsBytes : UInt32
  statsErrors : UInt32
  statsLastRect : SetBufferReq

def initialDisplay : Display where
  lastStatus := .ok
  attachedMs := 0
  stateChecked := false
  checkedState := StateReq.decode []
  currentFormat := 0
  controllerEnabled := false
  displayEnabled := false
  pending := ⟨false, SetBufferReq.decode [], 0, 0⟩
  transferBuffer := fun _ => 0
  framebuffer := fun _ => 0
  framebufferChanged := false
  statsUpdates := 0
  statsBytes := 0
  statsErrors := 0
  statsLastRect := SetBufferReq.decode []

def isOfferedFormatOf (formats : List Byte) (format : Byte) : Bool :=
  formats.any (· = format)

def isOfferedFormat (format : Byte) : Bool :=
  isOfferedFormatOf displayFormats format

def formatBitsPerPixel (format : Byte) : UInt32 :=
  if format = gudPixelFormatR1 then 1
  else if format = gudPixelFormatXrgb1111 then 4
  else if format = gudPixelFormatR8 ∨ format = gudPixelFormatRgb332 then 8
  else if format = gudPixelFormatRgb565 then 16
  else if format = gudPixelFormatRgb888 then 24
  else if format = gudPixelFormatXrgb8888 ∨
      format = gudPixelFormatArgb8888 then 32
  else 0

def lineLength (format : Byte) (width : UInt32) : UInt32 :=
  (width * formatBitsPerPixel format + 7) / 8

namespace Display

/-- An answer on endpoint 0, transmitted by the caller. -/
def answer (display : Display) (data : List Byte) :
    Display × Option (List Byte) :=
  ({ display with lastStatus := .ok }, some data)

def fail (display : Display) (status : Status) : Display × Option (List Byte) :=
  ({ display with lastStatus := status }, none)

def getConnectorRequest (nowMs : UInt64) (bRequest : Byte) (wValue : UInt16)
    (display : Display) : Display × Option (List Byte) :=
  if wValue ≠ 0 then display.fail .invalidParameter
  else if bRequest = gudReqGetConnectorProperties then display.answer []
  else if bRequest = gudReqGetConnectorStatus then
    display.answer
      [if connectorConnectDelayMs ≤ nowMs - display.attachedMs then
        gudConnectorStatusConnected
      else gudConnectorStatusDisconnected]
  else if bRequest = gudReqGetConnectorModes then
    let mode : DisplayModeReq :=
      { clock := displayWidth * displayHeight * displayRefreshHz / 1000
        hdisplay := displayWidth.toUInt16
        hsyncStart := displayWidth.toUInt16
        hsyncEnd := displayWidth.toUInt16
        htotal := displayWidth.toUInt16
        vdisplay := displayHeight.toUInt16
        vsyncStart := displayHeight.toUInt16
        vsyncEnd := displayHeight.toUInt16
        vtotal := displayHeight.toUInt16
        flags := gudDisplayModeFlagPreferred }
    display.answer mode.encode
  else display.fail .requestNotSupported

def getRequestOf (formats : List Byte) (nowMs : UInt64) (bRequest : Byte)
    (wValue : UInt16) (display : Display) : Display × Option (List Byte) :=
  if bRequest = gudReqGetStatus then
    -- reports the last request and does not change the status itself
    (display, some [display.lastStatus.code])
  else if bRequest = gudReqGetDescriptor then
    let desc : DisplayDescriptorReq :=
      { magic := gudDisplayMagic
        version := gudProtocolVersion
        flags := gudDisplayFlagStatusOnSet
        compression := displayCompression
        maxBufferSize := displayMaxBufferSize
        minWidth := displayWidth
        maxWidth := displayWidth
        minHeight := displayHeight
        maxHeight := displayHeight }
    display.answer desc.encode
  else if bRequest = gudReqGetFormats then display.answer formats
  else if bRequest = gudReqGetProperties then
    display.answer (PropertyReq.encode ⟨gudPropertyRotation, gudRotation0⟩)
  else if bRequest = gudReqGetConnectors then
    display.answer (ConnectorDescriptorReq.encode
      ⟨gudConnectorTypePanel, gudConnectorFlagsPollStatus⟩)
  else display.getConnectorRequest nowMs bRequest wValue

def getRequest (nowMs : UInt64) (bRequest : Byte) (wValue : UInt16)
    (display : Display) : Display × Option (List Byte) :=
  display.getRequestOf displayFormats nowMs bRequest wValue

end Display

def SetBufferReq.inside (req : SetBufferReq) : Bool :=
  0 < req.width ∧ 0 < req.height ∧ req.x < displayWidth ∧
    req.y < displayHeight ∧ req.width ≤ displayWidth - req.x ∧
    req.height ≤ displayHeight - req.y

namespace Display

def setBuffer (data : List Byte) (display : Display) : Status × Display :=
  if data.length ≠ SetBufferReq.size then (.protocolError, display)
  else
    let req := SetBufferReq.decode data
    if !req.inside || display.currentFormat = 0 ||
        req.length ≠ lineLength display.currentFormat req.width * req.height then
      (.invalidParameter, display)
    else if req.compression ≠ 0 ∧
        req.compression &&& ~~~displayCompression ≠ 0 then
      (.invalidParameter, display)
    else
      let transferLength :=
        if req.compression ≠ 0 then req.compressedLength else req.length
      if transferLength = 0 ∨ displayMaxBufferSize < transferLength then
        (.invalidParameter, display)
      else
        (.ok, { display with pending := ⟨true, req, transferLength, 0⟩ })

/-- The properties after the state, one for each multiple of their size. -/
def propertiesAccepted (data : List Byte) : Bool :=
  (List.range ((data.length - StateReq.size) / PropertyReq.size)).all
    fun index =>
      let property :=
        PropertyReq.decode data (StateReq.size + index * PropertyReq.size)
      !(property.prop = gudPropertyRotation && property.val ≠ gudRotation0)

def setStateCheckOf (formats : List Byte) (data : List Byte)
    (display : Display) : Status × Display :=
  if data.length < StateReq.size ∨
      (data.length - StateReq.size) % PropertyReq.size ≠ 0 then
    (.protocolError, display)
  else
    let state := StateReq.decode data
    if state.mode.hdisplay.toUInt32 ≠ displayWidth ∨
        state.mode.vdisplay.toUInt32 ≠ displayHeight ∨
        isOfferedFormatOf formats state.format = false ∨
        state.connector ≠ 0 then
      (.invalidParameter, display)
    else if propertiesAccepted data = false then (.invalidParameter, display)
    else (.ok, { display with checkedState := state, stateChecked := true })

def setStateCheck (data : List Byte) (display : Display) : Status × Display :=
  display.setStateCheckOf displayFormats data

def setStateCommit (display : Display) : Status × Display :=
  if display.stateChecked = false then (.protocolError, display)
  else
    (.ok, { display with
      currentFormat := display.checkedState.format
      stateChecked := false })

def setEnable (data : List Byte) (enabled : Bool) : Status × Bool :=
  if data.length ≠ 1 then (.protocolError, enabled)
  else (.ok, data.getD 0 0 ≠ 0)

def setRequestOf (formats : List Byte) (bRequest : Byte) (data : List Byte)
    (display : Display) : Display :=
  let result :=
    if bRequest = gudReqSetConnectorForceDetect then (Status.ok, display)
    else if bRequest = gudReqSetBuffer then display.setBuffer data
    else if bRequest = gudReqSetStateCheck then
      display.setStateCheckOf formats data
    else if bRequest = gudReqSetStateCommit then display.setStateCommit
    else if bRequest = gudReqSetControllerEnable then
      let enable := setEnable data display.controllerEnabled
      (enable.1, { display with controllerEnabled := enable.2 })
    else if bRequest = gudReqSetDisplayEnable then
      let enable := setEnable data display.displayEnabled
      (enable.1, { display with displayEnabled := enable.2 })
    else (.requestNotSupported, display)
  { result.2 with lastStatus := result.1 }

def setRequest (bRequest : Byte) (data : List Byte) (display : Display) :
    Display :=
  display.setRequestOf displayFormats bRequest data

def controlDataOf (formats : List Byte) (nowMs : UInt64) (setup : Setup)
    (data : List Byte) (display : Display) : Display × Option (List Byte) :=
  let wValue := setup.wValueHigh.toUInt16 <<< 8 ||| setup.wValueLow.toUInt16
  let wIndex := setup.wIndexHigh.toUInt16 <<< 8 ||| setup.wIndexLow.toUInt16
  if setup.bmRequestType ≠ requestTypeVendorInterfaceIn ∧
      setup.bmRequestType ≠ requestTypeVendorInterfaceOut then (display, none)
  else if wIndex ≠ gudInterface then display.fail .invalidParameter
  else if setup.bmRequestType = requestTypeVendorInterfaceIn then
    display.getRequestOf formats nowMs setup.bRequest wValue
  else (display.setRequestOf formats setup.bRequest data, none)

def controlData (nowMs : UInt64) (setup : Setup) (data : List Byte)
    (display : Display) : Display × Option (List Byte) :=
  display.controlDataOf displayFormats nowMs setup data

end Display

/-- The bytes `memcpy` reads from an array of the given size. -/
def copyFrom (size : Nat) (source : Buffer Byte) (start length : Nat) :
    Option (List Byte) :=
  if start + length ≤ size then some (source.slice start length) else none

/-- What `memcpy` makes of an array of the given size. -/
def copyInto (size : Nat) (target : Buffer Byte) (offset : Nat)
    (data : List Byte) : Option (Buffer Byte) :=
  if offset + data.length ≤ size then some (target.write offset data) else none

namespace Display

def storeLines (rect : SetBufferReq) (pitch rectPitch bytesPerPixel : UInt32)
    (pixels : Buffer Byte) : List UInt32 → Buffer Byte → Option (Buffer Byte)
  | [], framebuffer => some framebuffer
  | line :: rest, framebuffer => do
      let pixelLine ← copyFrom displayMaxBufferSize.toNat pixels
        (line * rectPitch).toNat rectPitch.toNat
      let framebuffer ← copyInto framebufferSize framebuffer
        ((rect.y + line) * pitch + rect.x * bytesPerPixel).toNat pixelLine
      storeLines rect pitch rectPitch bytesPerPixel pixels rest framebuffer

def storeRectangle (rect : SetBufferReq) (pixels : Buffer Byte)
    (display : Display) : Option Display :=
  let bits := formatBitsPerPixel display.currentFormat
  if bits % 8 ≠ 0 then some display
  else do
    let bytesPerPixel := bits / 8
    let pitch := displayWidth * bytesPerPixel
    let rectPitch := rect.width * bytesPerPixel
    let lines := (List.range rect.height.toNat).map UInt32.ofNat
    let framebuffer ← storeLines rect pitch rectPitch bytesPerPixel pixels
      lines display.framebuffer
    some { display with
      framebuffer := framebuffer
      framebufferChanged := true }

def endpointData (data : List Byte) (display : Display) : Option Display :=
  let pending := display.pending
  if pending.active = false ∨
      (pending.transferLength - pending.received).toNat < data.length then
    some { display with
      statsErrors := display.statsErrors + 1
      pending := { pending with active := false } }
  else do
    let transferBuffer ← copyInto displayMaxBufferSize.toNat
      display.transferBuffer pending.received.toNat data
    let received := pending.received + UInt32.ofNat data.length
    let display := { display with
      transferBuffer := transferBuffer
      pending := { pending with received := received } }
    if received < pending.transferLength then some display
    else
      let display := { display with
        pending := { display.pending with active := false } }
      if pending.req.compression ≠ 0 then
        some { display with statsErrors := display.statsErrors + 1 }
      else do
        let display ← display.storeRectangle pending.req display.transferBuffer
        some { display with
          statsUpdates := display.statsUpdates + 1
          statsBytes := display.statsBytes + pending.transferLength
          statsLastRect := pending.req }

def reset (nowMs : UInt64) (display : Display) : Display :=
  { display with
    attachedMs := nowMs
    lastStatus := .ok
    stateChecked := false
    currentFormat := 0
    controllerEnabled := false
    displayEnabled := false
    pending := { display.pending with active := false }
    framebuffer := display.framebuffer.write 0
      (List.replicate framebufferSize 0)
    framebufferChanged := true }

end Display

/-- A call of one of the device's callbacks, with the clock where it is
read. -/
inductive Callback where
  | control (nowMs : UInt64) (setup : Setup) (data : List Byte)
  | endpoint (ep : Byte) (data : List Byte)
  | reset (nowMs : UInt64)
  deriving DecidableEq, Repr

def callbackStepOf (formats : List Byte) (display : Display) :
    Callback → Option Display
  | .control nowMs setup data =>
      some (display.controlDataOf formats nowMs setup data).1
  | .endpoint _ data => display.endpointData data
  | .reset nowMs => some (display.reset nowMs)

def callbackStep (display : Display) : Callback → Option Display :=
  callbackStepOf displayFormats display

def gudDisplayOf (formats : List Byte) : Machine Display Callback :=
  ⟨callbackStepOf formats⟩

def gudDisplay : Machine Display Callback := gudDisplayOf displayFormats

end UsbipServer.Gud
