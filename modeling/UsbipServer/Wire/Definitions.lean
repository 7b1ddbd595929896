import UsbipServer.Library.BigEndian

namespace UsbipServer.Wire

open Library

/-! Messages of the USB/IP protocol as they appear on the wire.  All fields are
big endian, except the setup packet, which keeps the byte order of USB. -/

abbrev Byte := UInt8

def opReqDevlist : UInt16 := 0x8005
def opRepDevlist : UInt16 := 0x0005
def opReqImport : UInt16 := 0x8003
def opRepImport : UInt16 := 0x0003

def usbipCmdSubmit : UInt32 := 1
def usbipCmdUnlink : UInt32 := 2
def usbipRetSubmit : UInt32 := 3
def usbipRetUnlink : UInt32 := 4

structure OpHead where
  version : UInt16
  code : UInt16
  status : UInt32
  deriving DecidableEq, Repr

structure HeaderBasic where
  command : UInt32
  seqnum : UInt32
  devid : UInt32
  direction : UInt32
  ep : UInt32
  deriving DecidableEq, Repr

/-- The 8 byte setup packet of a control transfer. -/
structure Setup where
  bmRequestType : Byte
  bRequest : Byte
  wValueLow : Byte
  wValueHigh : Byte
  wIndexLow : Byte
  wIndexHigh : Byte
  wLengthLow : Byte
  wLengthHigh : Byte
  deriving DecidableEq, Repr

/-- `USBIP_CMD_SUBMIT` after the basic header. -/
structure CmdSubmit where
  transferFlags : UInt32
  transferBufferLength : UInt32
  startFrame : UInt32
  numberOfPackets : UInt32
  interval : UInt32
  setup : Setup
  deriving DecidableEq, Repr

/-- `USBIP_RET_SUBMIT` after the basic header, its padding is zero. -/
structure RetSubmit where
  status : UInt32
  actualLength : UInt32
  startFrame : UInt32
  numberOfPackets : UInt32
  errorCount : UInt32
  deriving DecidableEq, Repr

structure IsoPacketDescriptor where
  offset : UInt32
  length : UInt32
  actualLength : UInt32
  status : UInt32
  deriving DecidableEq, Repr

/-- `USBIP_CMD_UNLINK` after the basic header. -/
structure CmdUnlink where
  unlinkSeqnum : UInt32
  padding : Vector Byte 24
  deriving DecidableEq, Repr

/-- `USBIP_RET_UNLINK` after the basic header, its padding is zero. -/
structure RetUnlink where
  status : UInt32
  deriving DecidableEq, Repr

namespace OpHead

def size : Nat := 8

def encode (head : OpHead) : List Byte :=
  be16 head.version ++ be16 head.code ++ be32 head.status

def decode (bytes : List Byte) : OpHead :=
  ⟨u16At bytes 0, u16At bytes 2, u32At bytes 4⟩

end OpHead

namespace HeaderBasic

def size : Nat := 20

def encode (header : HeaderBasic) : List Byte :=
  be32 header.command ++ be32 header.seqnum ++ be32 header.devid ++
    be32 header.direction ++ be32 header.ep

def decode (bytes : List Byte) : HeaderBasic :=
  ⟨u32At bytes 0, u32At bytes 4, u32At bytes 8, u32At bytes 12, u32At bytes 16⟩

@[simp] theorem length_encode (header : HeaderBasic) :
    header.encode.length = size := rfl

@[simp] theorem decode_encode (header : HeaderBasic) :
    decode header.encode = header := by
  simp only [decode, encode, u32At, be32, List.cons_append, List.nil_append,
    List.getD_cons_succ, List.getD_cons_zero, ofBe32_bytes]

end HeaderBasic

namespace Setup

def encode (setup : Setup) : List Byte :=
  [setup.bmRequestType, setup.bRequest, setup.wValueLow, setup.wValueHigh,
    setup.wIndexLow, setup.wIndexHigh, setup.wLengthLow, setup.wLengthHigh]

def decode (bytes : List Byte) : Setup :=
  ⟨bytes.getD 0 0, bytes.getD 1 0, bytes.getD 2 0, bytes.getD 3 0,
    bytes.getD 4 0, bytes.getD 5 0, bytes.getD 6 0, bytes.getD 7 0⟩

end Setup

namespace CmdSubmit

def size : Nat := 28

def encode (submit : CmdSubmit) : List Byte :=
  be32 submit.transferFlags ++ be32 submit.transferBufferLength ++
    be32 submit.startFrame ++ be32 submit.numberOfPackets ++
    be32 submit.interval ++ submit.setup.encode

def decode (bytes : List Byte) : CmdSubmit :=
  ⟨u32At bytes 0, u32At bytes 4, u32At bytes 8, u32At bytes 12,
    u32At bytes 16, Setup.decode (bytes.drop 20)⟩

@[simp] theorem length_encode (submit : CmdSubmit) :
    submit.encode.length = size := rfl

@[simp] theorem decode_encode (submit : CmdSubmit) :
    decode submit.encode = submit := by
  simp only [decode, encode, u32At, be32, Setup.encode, Setup.decode,
    List.cons_append, List.nil_append, List.getD_cons_succ,
    List.getD_cons_zero, List.drop_succ_cons, List.drop_zero, ofBe32_bytes]

end CmdSubmit

namespace RetSubmit

def size : Nat := 28

def encode (ret : RetSubmit) : List Byte :=
  be32 ret.status ++ be32 ret.actualLength ++ be32 ret.startFrame ++
    be32 ret.numberOfPackets ++ be32 ret.errorCount ++ List.replicate 8 0

def decode (bytes : List Byte) : RetSubmit :=
  ⟨u32At bytes 0, u32At bytes 4, u32At bytes 8, u32At bytes 12,
    u32At bytes 16⟩

@[simp] theorem length_encode (ret : RetSubmit) :
    ret.encode.length = size := rfl

@[simp] theorem decode_encode (ret : RetSubmit) : decode ret.encode = ret := by
  simp only [decode, encode, u32At, be32, List.cons_append, List.nil_append,
    List.getD_cons_succ, List.getD_cons_zero, ofBe32_bytes]

end RetSubmit

namespace IsoPacketDescriptor

def size : Nat := 16

def encode (packet : IsoPacketDescriptor) : List Byte :=
  be32 packet.offset ++ be32 packet.length ++ be32 packet.actualLength ++
    be32 packet.status

def decode (bytes : List Byte) : IsoPacketDescriptor :=
  ⟨u32At bytes 0, u32At bytes 4, u32At bytes 8, u32At bytes 12⟩

@[simp] theorem length_encode (packet : IsoPacketDescriptor) :
    packet.encode.length = size := rfl

@[simp] theorem decode_encode (packet : IsoPacketDescriptor) :
    decode packet.encode = packet := by
  simp only [decode, encode, u32At, be32, List.cons_append, List.nil_append,
    List.getD_cons_succ, List.getD_cons_zero, ofBe32_bytes]

def encodeAll (packets : List IsoPacketDescriptor) : List Byte :=
  packets.flatMap encode

def decodeAll : Nat → List Byte → List IsoPacketDescriptor
  | 0, _ => []
  | count + 1, bytes => decode (bytes.take size) ::
      decodeAll count (bytes.drop size)

@[simp] theorem length_encodeAll (packets : List IsoPacketDescriptor) :
    (encodeAll packets).length = packets.length * size := by
  induction packets with
  | nil => rfl
  | cons packet rest induction =>
      simp only [encodeAll, List.flatMap_cons, List.length_append,
        length_encode] at induction ⊢
      rw [induction, List.length_cons, Nat.succ_mul, Nat.add_comm]

@[simp] theorem length_decodeAll (count : Nat) (bytes : List Byte) :
    (decodeAll count bytes).length = count := by
  induction count generalizing bytes with
  | zero => rfl
  | succ count induction => simp [decodeAll, induction]

@[simp] theorem decodeAll_encodeAll (packets : List IsoPacketDescriptor) :
    decodeAll packets.length (encodeAll packets) = packets := by
  induction packets with
  | nil => rfl
  | cons packet rest induction =>
      have split : encodeAll (packet :: rest) =
          packet.encode ++ encodeAll rest := rfl
      rw [List.length_cons, decodeAll, split,
        List.take_left' (length_encode packet),
        List.drop_left' (length_encode packet), decode_encode, induction]

end IsoPacketDescriptor

namespace CmdUnlink

def size : Nat := 28

def encode (unlink : CmdUnlink) : List Byte :=
  be32 unlink.unlinkSeqnum ++ unlink.padding.toList

def decode (bytes : List Byte) : CmdUnlink :=
  ⟨u32At bytes 0, Vector.ofFn fun index => bytes.getD (4 + index.val) 0⟩

@[simp] theorem length_encode (unlink : CmdUnlink) :
    unlink.encode.length = size := by
  simp [encode, size]

@[simp] theorem decode_encode (unlink : CmdUnlink) :
    decode unlink.encode = unlink := by
  obtain ⟨unlinkSeqnum, padding⟩ := unlink
  have word : u32At (encode ⟨unlinkSeqnum, padding⟩) 0 = unlinkSeqnum :=
    u32At_be32 [] padding.toList unlinkSeqnum
  simp only [decode, word, CmdUnlink.mk.injEq, true_and]
  ext index bound
  simp only [Vector.getElem_ofFn, encode, List.getD_eq_getElem?_getD]
  rw [List.getElem?_append_right (by simp)]
  simp [bound]

end CmdUnlink

namespace RetUnlink

def size : Nat := 28

def encode (ret : RetUnlink) : List Byte :=
  be32 ret.status ++ List.replicate 24 0

def decode (bytes : List Byte) : RetUnlink := ⟨u32At bytes 0⟩

@[simp] theorem length_encode (ret : RetUnlink) :
    ret.encode.length = size := rfl

@[simp] theorem decode_encode (ret : RetUnlink) : decode ret.encode = ret := by
  simp only [decode, encode, u32At, be32, List.cons_append, List.nil_append,
    List.getD_cons_succ, List.getD_cons_zero, ofBe32_bytes]

end RetUnlink

/-! Whole commands: a submit carries its OUT data and its isochronous packet
descriptors. -/

structure SubmitCommand where
  header : HeaderBasic
  submit : CmdSubmit
  payload : List Byte
  packets : List IsoPacketDescriptor
  deriving DecidableEq, Repr

structure UnlinkCommand where
  header : HeaderBasic
  unlink : CmdUnlink
  deriving DecidableEq, Repr

inductive Command where
  | submit (command : SubmitCommand)
  | unlink (command : UnlinkCommand)
  deriving DecidableEq, Repr

namespace Command

def encode : Command → List Byte
  | .submit command =>
      command.header.encode ++ command.submit.encode ++ command.payload ++
        IsoPacketDescriptor.encodeAll command.packets
  | .unlink command => command.header.encode ++ command.unlink.encode

end Command

end UsbipServer.Wire
