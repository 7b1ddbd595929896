import UsbipServer.Programs.Input

namespace UsbipServer.Keyboard

open Wire Library

/-! The keyboard: it types a text each time the host configures it. -/

def usbKeyboardConfiguration : List Byte :=
  [9, 2] ++ word 34 ++ [1, 1, 0, 0xC0, 0x32] ++
    [9, 4, 0, 0, 1, 3, 1, 1, 0] ++
    [9, 0x21] ++ word 0x111 ++ [0, 1, usbDescriptorTypeReport] ++ word 63 ++
    [7, 5, 0x81, 3] ++ word 8 ++ [7]

def usbKeyboardHidReport : List Byte :=
  [0x05, 0x01, 0x09, 0x06, 0xA1, 0x01, 0x05, 0x07, 0x19, 0xE0, 0x29, 0xE7,
    0x15, 0x00, 0x25, 0x01, 0x75, 0x01, 0x95, 0x08, 0x81, 0x02, 0x95, 0x01,
    0x75, 0x08, 0x81, 0x01, 0x95, 0x05, 0x75, 0x01, 0x05, 0x08, 0x19, 0x01,
    0x29, 0x05, 0x91, 0x02, 0x95, 0x01, 0x75, 0x03, 0x91, 0x01, 0x95, 0x06,
    0x75, 0x08, 0x15, 0x00, 0x25, 0x65, 0x05, 0x07, 0x19, 0x00, 0x29, 0x65,
    0x81, 0x00, 0xC0]

def keyboardDevice : UsbipDevice where
  deviceDesc := usbDeviceDescriptor 0x0003
  configDesc := usbKeyboardConfiguration
  langidDesc := langidDesc
  usbStrings := usbStrings "Virtual HID Keyboard"
  epDataCallback := false
  resetCallback := false
  isoInCallback := false

structure HidKey where
  keycode : Byte
  modifier : Byte
  deriving DecidableEq, Repr

def modLshift : Byte := 0x02

def symbols : List (Char × HidKey) :=
  [('\n', ⟨0x28, 0⟩), ('\x08', ⟨0x2A, 0⟩), ('\t', ⟨0x2B, 0⟩), (' ', ⟨0x2C, 0⟩),
    ('-', ⟨0x2D, 0⟩), ('=', ⟨0x2E, 0⟩), ('[', ⟨0x2F, 0⟩), (']', ⟨0x30, 0⟩),
    ('\x5c', ⟨0x31, 0⟩), (';', ⟨0x33, 0⟩), ('\x27', ⟨0x34, 0⟩),
    ('\x60', ⟨0x35, 0⟩), (',', ⟨0x36, 0⟩), ('.', ⟨0x37, 0⟩), ('/', ⟨0x38, 0⟩),
    ('!', ⟨0x1E, modLshift⟩), ('@', ⟨0x1F, modLshift⟩),
    ('#', ⟨0x20, modLshift⟩), ('$', ⟨0x21, modLshift⟩),
    ('%', ⟨0x22, modLshift⟩), ('^', ⟨0x23, modLshift⟩),
    ('&', ⟨0x24, modLshift⟩), ('*', ⟨0x25, modLshift⟩),
    ('(', ⟨0x26, modLshift⟩), (')', ⟨0x27, modLshift⟩),
    ('_', ⟨0x2D, modLshift⟩), ('+', ⟨0x2E, modLshift⟩),
    ('\x7b', ⟨0x2F, modLshift⟩), ('\x7d', ⟨0x30, modLshift⟩),
    ('|', ⟨0x31, modLshift⟩), (':', ⟨0x33, modLshift⟩),
    ('\x22', ⟨0x34, modLshift⟩), ('~', ⟨0x35, modLshift⟩),
    ('<', ⟨0x36, modLshift⟩), ('>', ⟨0x37, modLshift⟩),
    ('?', ⟨0x38, modLshift⟩)]

/-- `ascii_to_hid`, keycode 0 is for unknown characters. -/
def asciiToHid (c : Byte) : HidKey :=
  if 'a'.toUInt8 ≤ c ∧ c ≤ 'z'.toUInt8 then ⟨c - 'a'.toUInt8 + 0x04, 0⟩
  else if 'A'.toUInt8 ≤ c ∧ c ≤ 'Z'.toUInt8 then
    ⟨c - 'A'.toUInt8 + 0x04, modLshift⟩
  else if '1'.toUInt8 ≤ c ∧ c ≤ '9'.toUInt8 then ⟨c - '1'.toUInt8 + 0x1E, 0⟩
  else if c = '0'.toUInt8 then ⟨0x27, 0⟩
  else
    match symbols.find? fun symbol => symbol.1.toUInt8 = c with
    | some symbol => symbol.2
    | none => ⟨0, 0⟩

def typingString : List Byte := ascii "Who is typing..."

def keyDown (key : HidKey) : List Byte :=
  [key.modifier, 0, key.keycode, 0, 0, 0, 0, 0]

def keysUp : List Byte := List.replicate 8 0

/-- Where the main thread is: in the outer loop, in the inner one, which waits
for a configuration, or at a character. -/
inductive Place where
  | loop
  | poll
  | enter
  | take
  | exit (isConfigurationActive : Bool)
  | typing (stringIdx : Nat)
  | press (stringIdx : Nat)
  | release (stringIdx : Nat)
  | ended
  deriving DecidableEq, Repr

structure Statics where
  configurationActive : Bool
  place : Place

def start : Statics := ⟨false, .loop⟩

def controlData (setup : Setup) (statics : Statics) : Reaction Statics :=
  if setup.bmRequestType = 0x81 ∧ setup.bRequest = usbRequestGetDescriptor then
    ⟨statics, hidReportAnswer usbKeyboardHidReport setup, [], 0⟩
  else if setup.bmRequestType = 0x00 ∧
      setup.bRequest = usbRequestSetConfiguration then
    -- configuration 0 takes the configuration back
    ⟨{ statics with configurationActive := setup.wValueLow ≠ 0 }, [], [], 0⟩
  else ⟨statics, [], [], 0⟩

def callback (args : CallbackArgs) (statics : Statics) : Reaction Statics :=
  match args with
  | .control setup _ => controlData setup statics
  | _ => ⟨statics, [], [], 0⟩

def main (interrupted : Bool) (statics : Statics) : Option (Action Statics) :=
  match statics.place with
  | .loop =>
      if interrupted then some (.stop { statics with place := .ended })
      else some (.work { statics with place := .poll })
  | .poll =>
      if interrupted then some (.work { statics with place := .typing 0 })
      else some (.work { statics with place := .enter })
  | .enter => some (.enter { statics with place := .take })
  | .take => some (.work ⟨false, .exit statics.configurationActive⟩)
  | .exit isConfigurationActive =>
      some (.exit { statics with
        place := if isConfigurationActive then .typing 0 else .poll })
  | .typing stringIdx =>
      if stringIdx < typingString.length ∧ interrupted = false then
        some (.work { statics with place := .press stringIdx })
      else some (.work { statics with place := .loop })
  | .press stringIdx =>
      (typingString[stringIdx]?).map fun char =>
        .transmit 0x81 (keyDown (asciiToHid char))
          { statics with place := .release stringIdx }
  | .release stringIdx =>
      some (.transmit 0x81 keysUp
        { statics with place := .typing (stringIdx + 1) })
  | .ended => some .ended

def program : Program Statics Unit where
  device := keyboardDevice
  start := start
  callback _ args statics := some (callback args statics)
  main _ := main

def inside (statics : Statics) : Bool :=
  match statics.place with
  | .take => true
  | .exit _ => true
  | _ => false

end UsbipServer.Keyboard
