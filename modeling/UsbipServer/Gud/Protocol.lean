import UsbipServer.Library.LittleEndian
import UsbipServer.Wire.Definitions
import Mathlib.Data.UInt

namespace UsbipServer.Gud

open Wire Library

/-! The parts of the GUD protocol the display uses.  The structures are packed
and little endian. -/

def gudDisplayMagic : UInt32 := 0x1d50614d
def gudProtocolVersion : Byte := 1
def gudDisplayFlagStatusOnSet : UInt32 := 1

def gudReqGetStatus : Byte := 0x00
def gudReqGetDescriptor : Byte := 0x01
def gudReqGetFormats : Byte := 0x40
def gudReqGetProperties : Byte := 0x41
def gudReqGetConnectors : Byte := 0x50
def gudReqGetConnectorProperties : Byte := 0x51
def gudReqSetConnectorForceDetect : Byte := 0x53
def gudReqGetConnectorStatus : Byte := 0x54
def gudReqGetConnectorModes : Byte := 0x55
def gudReqSetBuffer : Byte := 0x60
def gudReqSetStateCheck : Byte := 0x61
def gudReqSetStateCommit : Byte := 0x62
def gudReqSetControllerEnable : Byte := 0x63
def gudReqSetDisplayEnable : Byte := 0x64

/-- Result of the last request, read with `GUD_REQ_GET_STATUS`. -/
inductive Status where
  | ok
  | requestNotSupported
  | protocolError
  | invalidParameter
  deriving DecidableEq, Repr

def Status.code : Status → Byte
  | .ok => 0x00
  | .requestNotSupported => 0x02
  | .protocolError => 0x03
  | .invalidParameter => 0x04

def gudPixelFormatR1 : Byte := 0x01
def gudPixelFormatR8 : Byte := 0x08
def gudPixelFormatXrgb1111 : Byte := 0x20
def gudPixelFormatRgb332 : Byte := 0x30
def gudPixelFormatRgb565 : Byte := 0x40
def gudPixelFormatRgb888 : Byte := 0x50
def gudPixelFormatXrgb8888 : Byte := 0x80
def gudPixelFormatArgb8888 : Byte := 0x81

def gudPropertyRotation : UInt16 := 50
def gudRotation0 : UInt64 := 1
def gudConnectorTypePanel : Byte := 0
def gudConnectorFlagsPollStatus : UInt32 := 1
def gudConnectorStatusDisconnected : Byte := 0x00
def gudConnectorStatusConnected : Byte := 0x01
def gudDisplayModeFlagPreferred : UInt32 := 2 ^ 10

def u16 (value : UInt16) : List Byte := le 2 value.toNat
def u32 (value : UInt32) : List Byte := le 4 value.toNat
def u64 (value : UInt64) : List Byte := le 8 value.toNat

def u16At (data : List Byte) (index : Nat) : UInt16 :=
  UInt16.ofNat (leAt data index 2)
def u32At (data : List Byte) (index : Nat) : UInt32 :=
  UInt32.ofNat (leAt data index 4)
def u64At (data : List Byte) (index : Nat) : UInt64 :=
  UInt64.ofNat (leAt data index 8)

@[simp] theorem length_u32 (value : UInt32) : (u32 value).length = 4 :=
  length_le 4 value.toNat

theorem u32At_u32 (before after : List Byte) (value : UInt32) :
    u32At (before ++ (u32 value ++ after)) before.length = value := by
  have bound : value.toNat < 256 ^ 4 := value.toNat_lt
  rw [u32At, u32, leAt_le, Nat.mod_eq_of_lt bound]
  exact UInt32.ofNat_toNat

@[simp] theorem length_u16 (value : UInt16) : (u16 value).length = 2 :=
  length_le 2 value.toNat

@[simp] theorem length_u64 (value : UInt64) : (u64 value).length = 8 :=
  length_le 8 value.toNat

theorem u16At_u16 (before after : List Byte) (value : UInt16) :
    u16At (before ++ (u16 value ++ after)) before.length = value := by
  have bound : value.toNat < 256 ^ 2 := value.toNat_lt
  rw [u16At, u16, leAt_le, Nat.mod_eq_of_lt bound]
  exact UInt16.ofNat_toNat

theorem u64At_u64 (before after : List Byte) (value : UInt64) :
    u64At (before ++ (u64 value ++ after)) before.length = value := by
  have bound : value.toNat < 256 ^ 8 := value.toNat_lt
  rw [u64At, u64, leAt_le, Nat.mod_eq_of_lt bound]
  exact UInt64.ofNat_toNat

section

variable {data : List Byte} {index : Nat}

theorem u16_u16At (inside : index + 2 ≤ data.length) :
    u16 (u16At data index) = (data.drop index).take 2 := by
  have bound : leAt data index 2 < 2 ^ 16 := leAt_lt data index 2
  rw [u16, u16At, UInt16.toNat_ofNat_of_lt' bound, le_leAt inside]

theorem u32_u32At (inside : index + 4 ≤ data.length) :
    u32 (u32At data index) = (data.drop index).take 4 := by
  have bound : leAt data index 4 < 2 ^ 32 := leAt_lt data index 4
  rw [u32, u32At, UInt32.toNat_ofNat_of_lt' bound, le_leAt inside]

theorem u64_u64At (inside : index + 8 ≤ data.length) :
    u64 (u64At data index) = (data.drop index).take 8 := by
  have bound : leAt data index 8 < 2 ^ 64 := leAt_lt data index 8
  rw [u64, u64At, UInt64.toNat_ofNat_of_lt' bound, le_leAt inside]

theorem take_drop_append (first second : Nat) :
    (data.drop index).take first ++ (data.drop (index + first)).take second =
      (data.drop index).take (first + second) := by
  rw [List.take_add, List.drop_drop]

end

/-- `GUD_REQ_GET_DESCRIPTOR`, what the display is and supports. -/
structure DisplayDescriptorReq where
  magic : UInt32
  version : Byte
  flags : UInt32
  compression : Byte
  maxBufferSize : UInt32
  minWidth : UInt32
  maxWidth : UInt32
  minHeight : UInt32
  maxHeight : UInt32
  deriving DecidableEq, Repr

def DisplayDescriptorReq.encode (desc : DisplayDescriptorReq) : List Byte :=
  u32 desc.magic ++ [desc.version] ++ u32 desc.flags ++ [desc.compression] ++
    u32 desc.maxBufferSize ++ u32 desc.minWidth ++ u32 desc.maxWidth ++
    u32 desc.minHeight ++ u32 desc.maxHeight

structure PropertyReq where
  prop : UInt16
  val : UInt64
  deriving DecidableEq, Repr

namespace PropertyReq

def size : Nat := 10

def encode (property : PropertyReq) : List Byte :=
  u16 property.prop ++ u64 property.val

def decode (data : List Byte) (offset : Nat) : PropertyReq :=
  ⟨u16At data offset, u64At data (offset + 2)⟩

@[simp] theorem length_encode (property : PropertyReq) :
    property.encode.length = size := by
  simp [encode, size]

theorem decode_encode (before after : List Byte) (property : PropertyReq) :
    decode (before ++ (property.encode ++ after)) before.length = property := by
  obtain ⟨prop, val⟩ := property
  have first := u16At_u16 before (u64 val ++ after) prop
  have second := u64At_u64 (before ++ u16 prop) after val
  rw [List.length_append, length_u16, List.append_assoc] at second
  simp only [decode, encode, List.append_assoc, first, second]

theorem encode_decode {data : List Byte} {offset : Nat}
    (inside : offset + size ≤ data.length) :
    (decode data offset).encode = (data.drop offset).take size := by
  unfold size at inside ⊢
  rw [encode, decode, u16_u16At (by omega), u64_u64At (by omega),
    take_drop_append]

end PropertyReq

/-- A display mode, its clock is in kHz. -/
structure DisplayModeReq where
  clock : UInt32
  hdisplay : UInt16
  hsyncStart : UInt16
  hsyncEnd : UInt16
  htotal : UInt16
  vdisplay : UInt16
  vsyncStart : UInt16
  vsyncEnd : UInt16
  vtotal : UInt16
  flags : UInt32
  deriving DecidableEq, Repr

namespace DisplayModeReq

def encode (mode : DisplayModeReq) : List Byte :=
  u32 mode.clock ++ u16 mode.hdisplay ++ u16 mode.hsyncStart ++
    u16 mode.hsyncEnd ++ u16 mode.htotal ++ u16 mode.vdisplay ++
    u16 mode.vsyncStart ++ u16 mode.vsyncEnd ++ u16 mode.vtotal ++
    u32 mode.flags

def decode (data : List Byte) : DisplayModeReq where
  clock := u32At data 0
  hdisplay := u16At data 4
  hsyncStart := u16At data 6
  hsyncEnd := u16At data 8
  htotal := u16At data 10
  vdisplay := u16At data 12
  vsyncStart := u16At data 14
  vsyncEnd := u16At data 16
  vtotal := u16At data 18
  flags := u32At data 20

@[simp] theorem length_encode (mode : DisplayModeReq) :
    mode.encode.length = 24 := by
  simp [encode]

theorem decode_encode (mode : DisplayModeReq) (after : List Byte) :
    decode (mode.encode ++ after) = mode := by
  obtain ⟨clock, hdisplay, hsyncStart, hsyncEnd, htotal, vdisplay, vsyncStart,
    vsyncEnd, vtotal, flags⟩ := mode
  simp only [decode, encode, mk.injEq, List.append_assoc]
  refine ⟨u32At_u32 [] _ clock, ?_, ?_, ?_, ?_, ?_, ?_, ?_, ?_, ?_⟩
  · exact u16At_u16 (u32 clock) _ hdisplay
  · simpa using u16At_u16 (u32 clock ++ u16 hdisplay) _ hsyncStart
  · simpa using u16At_u16 (u32 clock ++ u16 hdisplay ++ u16 hsyncStart) _
      hsyncEnd
  · simpa using u16At_u16 (u32 clock ++ u16 hdisplay ++ u16 hsyncStart ++
      u16 hsyncEnd) _ htotal
  · simpa using u16At_u16 (u32 clock ++ u16 hdisplay ++ u16 hsyncStart ++
      u16 hsyncEnd ++ u16 htotal) _ vdisplay
  · simpa using u16At_u16 (u32 clock ++ u16 hdisplay ++ u16 hsyncStart ++
      u16 hsyncEnd ++ u16 htotal ++ u16 vdisplay) _ vsyncStart
  · simpa using u16At_u16 (u32 clock ++ u16 hdisplay ++ u16 hsyncStart ++
      u16 hsyncEnd ++ u16 htotal ++ u16 vdisplay ++ u16 vsyncStart) _ vsyncEnd
  · simpa using u16At_u16 (u32 clock ++ u16 hdisplay ++ u16 hsyncStart ++
      u16 hsyncEnd ++ u16 htotal ++ u16 vdisplay ++ u16 vsyncStart ++
      u16 vsyncEnd) _ vtotal
  · simpa using u32At_u32 (u32 clock ++ u16 hdisplay ++ u16 hsyncStart ++
      u16 hsyncEnd ++ u16 htotal ++ u16 vdisplay ++ u16 vsyncStart ++
      u16 vsyncEnd ++ u16 vtotal) _ flags

theorem encode_decode {data : List Byte} (complete : 24 ≤ data.length) :
    (decode data).encode = data.take 24 := by
  have join : ∀ index first second : Nat,
      (data.drop index).take first ++ (data.drop (index + first)).take second =
        (data.drop index).take (first + second) :=
    fun _ first second => take_drop_append first second
  rw [encode, decode]
  simp only
  rw [u32_u32At (by omega), u16_u16At (by omega), u16_u16At (by omega),
    u16_u16At (by omega), u16_u16At (by omega), u16_u16At (by omega),
    u16_u16At (by omega), u16_u16At (by omega), u16_u16At (by omega),
    u32_u32At (by omega), join 0 4 2, join 0 6 2, join 0 8 2, join 0 10 2,
    join 0 12 2, join 0 14 2, join 0 16 2, join 0 18 2, join 0 20 4]
  rfl

end DisplayModeReq

structure ConnectorDescriptorReq where
  connectorType : Byte
  flags : UInt32
  deriving DecidableEq, Repr

def ConnectorDescriptorReq.encode (connector : ConnectorDescriptorReq) :
    List Byte :=
  [connector.connectorType] ++ u32 connector.flags

/-- `GUD_REQ_SET_BUFFER`, the rectangle that the next bulk transfer updates. -/
structure SetBufferReq where
  x : UInt32
  y : UInt32
  width : UInt32
  height : UInt32
  length : UInt32
  compression : Byte
  compressedLength : UInt32
  deriving DecidableEq, Repr

namespace SetBufferReq

def size : Nat := 25

def encode (req : SetBufferReq) : List Byte :=
  u32 req.x ++ u32 req.y ++ u32 req.width ++ u32 req.height ++
    u32 req.length ++ [req.compression] ++ u32 req.compressedLength

def decode (data : List Byte) : SetBufferReq where
  x := u32At data 0
  y := u32At data 4
  width := u32At data 8
  height := u32At data 12
  length := u32At data 16
  compression := data.getD 20 0
  compressedLength := u32At data 21

theorem decode_encode (req : SetBufferReq) : decode req.encode = req := by
  obtain ⟨x, y, width, height, length, compression, compressedLength⟩ := req
  have fields : SetBufferReq.encode
      ⟨x, y, width, height, length, compression, compressedLength⟩ =
        u32 x ++ (u32 y ++ (u32 width ++ (u32 height ++ (u32 length ++
          ([compression] ++ (u32 compressedLength ++ [])))))) := by
    simp [encode]
  rw [fields]
  simp only [decode, mk.injEq]
  refine ⟨u32At_u32 [] _ x, ?_, ?_, ?_, ?_, ?_, ?_⟩
  · exact u32At_u32 (u32 x) _ y
  · simpa using u32At_u32 (u32 x ++ u32 y) _ width
  · simpa using u32At_u32 (u32 x ++ u32 y ++ u32 width) _ height
  · simpa using u32At_u32 (u32 x ++ u32 y ++ u32 width ++ u32 height) _ length
  · simp [List.getD_eq_getElem?_getD]
  · simpa using u32At_u32 (u32 x ++ u32 y ++ u32 width ++ u32 height ++
      u32 length ++ [compression]) [] compressedLength

end SetBufferReq

/-- `GUD_REQ_SET_STATE_CHECK`, the state to apply.  An array of properties
follows. -/
structure StateReq where
  mode : DisplayModeReq
  format : Byte
  connector : Byte
  deriving DecidableEq, Repr

namespace StateReq

def size : Nat := 26

def encode (state : StateReq) : List Byte :=
  state.mode.encode ++ [state.format, state.connector]

def decode (data : List Byte) : StateReq where
  mode := DisplayModeReq.decode data
  format := data.getD 24 0
  connector := data.getD 25 0

@[simp] theorem length_encode (state : StateReq) :
    state.encode.length = size := by
  simp [encode, size]

theorem decode_encode (state : StateReq) (after : List Byte) :
    decode (state.encode ++ after) = state := by
  obtain ⟨mode, format, connector⟩ := state
  have first := DisplayModeReq.decode_encode mode
    ([format, connector] ++ after)
  simp only [decode, encode, mk.injEq, List.append_assoc, first, true_and]
  simp [List.getD_eq_getElem?_getD, List.getElem?_append_right]

theorem encode_decode {data : List Byte} (complete : size ≤ data.length) :
    (decode data).encode = data.take size := by
  unfold size at complete ⊢
  have first : 24 < data.length := by omega
  have second : 25 < data.length := by omega
  have format : (data.drop 24).take 2 = [data.getD 24 0, data.getD 25 0] := by
    rw [List.drop_eq_getElem_cons first, List.drop_eq_getElem_cons second,
      List.getD_eq_getElem?_getD, List.getD_eq_getElem?_getD,
      List.getElem?_eq_getElem first, List.getElem?_eq_getElem second]
    rfl
  rw [encode, decode]
  simp only
  rw [DisplayModeReq.encode_decode (by omega), ← format]
  exact List.take_add.symm

end StateReq

end UsbipServer.Gud
