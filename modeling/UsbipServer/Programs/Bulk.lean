import UsbipServer.Programs.Input

namespace UsbipServer.Bulk

open Wire Library

/-! The bulk device: it prints what the host sends and answers with a
counter. -/

def bulkConfigDescriptor : List Byte :=
  [9, 2] ++ word 32 ++ [1, 1, 0, 0xC0, 0x32] ++
    [9, 4, 0, 0, 2, 0xFF, 0, 0, 0] ++
    [7, 5, 0x01, 2] ++ word 512 ++ [0] ++
    [7, 5, 0x81, 2] ++ word 512 ++ [0]

def bulkDevice : UsbipDevice where
  deviceDesc := usbDeviceDescriptor 0xc001
  configDesc := bulkConfigDescriptor
  langidDesc := langidDesc
  usbStrings := usbStrings "Virtual Bulk Device"
  epDataCallback := true
  resetCallback := false
  isoInCallback := false

def inputBufferLength : Nat := 512

/-- Where the main thread is in its loop. -/
inductive Place where
  | loop
  | enter
  | printing (place : Printing)
  | exit (reply : Bool)
  | reply
  | ended
  deriving DecidableEq, Repr

/-- `msg_counter` is an `int`.  An increment of the largest one is undefined in
C and taken to wrap around. -/
structure Statics where
  input : Input
  msgCounter : UInt32
  place : Place

def start : Statics := ⟨.start, 0, .loop⟩

/-- The callbacks.  `control_data` only prints. -/
def callback (args : CallbackArgs) (statics : Statics) :
    Option (Reaction Statics) :=
  match args with
  | .endpointData _ data =>
      (statics.input.endpointData inputBufferLength data).map fun input =>
        ⟨{ statics with input := input }, [], [], 0⟩
  | _ => some ⟨statics, [], [], 0⟩

def message (msgCounter : UInt32) : List Byte :=
  ascii "Message Counter: " ++ signedDecimal msgCounter

def main (interrupted : Bool) (statics : Statics) : Option (Action Statics) :=
  match statics.place with
  | .loop =>
      if interrupted then some (.stop { statics with place := .ended })
      else some (.work { statics with place := .enter })
  | .enter => some (.enter { statics with place := .printing .test })
  | .printing place =>
      match place.step inputBufferLength statics.input with
      | none => none
      | some (some next, input) =>
          some (.work { statics with input := input, place := .printing next })
      | some (none, input) =>
          if place = .test then
            some (.work { statics with input := input, place := .exit false })
          else
            -- the bytes have been printed
            some (.work ⟨input, statics.msgCounter + 1, .exit true⟩)
  | .exit reply =>
      some (.exit { statics with place := if reply then .reply else .loop })
  | .reply =>
      some (.transmit 1 (message statics.msgCounter)
        { statics with place := .loop })
  | .ended => some .ended

def program : Program Statics Unit where
  device := bulkDevice
  start := start
  callback _ := callback
  main _ := main

def inside (statics : Statics) : Bool :=
  match statics.place with
  | .printing _ => true
  | .exit _ => true
  | _ => false

end UsbipServer.Bulk
