import UsbipServer.Program
import UsbipServer.Library.FixedArray

namespace UsbipServer

open Wire Library

def ascii (text : String) : List Byte :=
  text.toList.map fun char => char.toNat.toUInt8

def decimal (number : Nat) : List Byte :=
  (Nat.toDigits 10 number).map fun char => char.toNat.toUInt8

/-- `%d` prints 32 bits as a signed number. -/
def signedDecimal (number : UInt32) : List Byte :=
  if number.toNat < 2 ^ 31 then decimal number.toNat
  else ascii "-" ++ decimal (2 ^ 32 - number.toNat)

def word (value : Nat) : List Byte :=
  [UInt8.ofNat value, UInt8.ofNat (value / 256)]

/-- `usb_device_descriptor` with the `idProduct` of the example. -/
def usbDeviceDescriptor (idProduct : Nat) : List Byte :=
  [18, 1] ++ word 0x0200 ++ [0, 0, 0, 64] ++ word 0xfa00 ++ word idProduct ++
    word 0x0200 ++ [1, 2, 4, 1]

/-- `usb_strings` with the name of the example. -/
def usbStrings (product : String) : List UsbString :=
  [⟨1, some (ascii "Virtual UsbIP")⟩, ⟨2, some (ascii product)⟩,
    ⟨4, some (ascii "ABC123")⟩, ⟨0, none⟩]

def langidDesc : List Byte := [4, 3] ++ word 0x409

def usbDescriptorTypeReport : Byte := 0x22

/-- What the keyboard and the mouse transmit when the host asks for their report
descriptor. -/
def hidReportAnswer (report : List Byte) (setup : Setup) :
    List (Byte × List Byte) :=
  if setup.wValueHigh = usbDescriptorTypeReport then
    let length := setup.wLengthHigh.toNat * 256 + setup.wLengthLow.toNat
    [(0, report.take (if length > report.length then report.length
      else length))]
  else []

/-! The bulk and the serial device collect what the host sends in an input
buffer.  The main thread prints it and empties the buffer. -/

/-- `input_buffer` and `input_buffer_pos`, the lines that were printed and what
was printed of the next one. -/
structure Input where
  inputBuffer : Buffer Byte
  inputBufferPos : Nat
  lines : List (List Byte)
  line : List Byte

namespace Input

def start : Input := ⟨fun _ => 0, 0, [], []⟩

def content (input : Input) : List Byte :=
  input.inputBuffer.slice 0 input.inputBufferPos

/-- `endpoint_data` for a buffer of `size` bytes. -/
def endpointData (size : Nat) (data : List Byte) (input : Input) :
    Option Input :=
  if input.inputBufferPos + data.length ≤ size then
    (input.inputBuffer.store size input.inputBufferPos data).map fun buffer =>
      { input with
        inputBuffer := buffer
        inputBufferPos := input.inputBufferPos + data.length }
  else some input

end Input

/-- Where the main thread is in printing the input: at the test of
`input_buffer_pos` or at one of the bytes. -/
inductive Printing where
  | test
  | byte (idx : Nat)
  deriving DecidableEq, Repr

/-- One step of printing, the place is none when it is over. -/
def Printing.step (size : Nat) (input : Input) :
    Printing → Option (Option Printing × Input)
  | .test =>
      if 0 < input.inputBufferPos then some (some (.byte 0), input)
      else some (none, input)
  | .byte idx =>
      if idx < input.inputBufferPos then
        (input.inputBuffer.load size idx 1).map fun byte =>
          (some (.byte (idx + 1)), { input with line := input.line ++ byte })
      else
        some (none,
          { input with
            lines := input.lines ++ [input.line]
            line := []
            inputBufferPos := 0 })

end UsbipServer
