import UsbipServer.Programs.Input

namespace UsbipServer.Cdc

open Wire Library

/-! The serial device: it prints what the host sends and counts ticks while a
terminal is connected. -/

def cdcConfigDescriptor : List Byte :=
  [9, 2] ++ word 67 ++ [2, 1, 4, 0xC0, 0x32] ++
    [9, 4, 0, 0, 1, 2, 2, 1, 0] ++
    [5, 0x24, 0, 0x10, 1] ++ [5, 0x24, 1, 0, 1] ++ [4, 0x24, 2, 2] ++
    [5, 0x24, 6, 0, 1] ++
    [7, 5, 0x82, 3] ++ word 8 ++ [8] ++
    [9, 4, 1, 0, 2, 0x0A, 0, 0, 0] ++
    [7, 5, 0x01, 2] ++ word 512 ++ [0] ++
    [7, 5, 0x81, 2] ++ word 512 ++ [0]

def cdcDevice : UsbipDevice where
  deviceDesc := usbDeviceDescriptor 0x0001
  configDesc := cdcConfigDescriptor
  langidDesc := langidDesc
  usbStrings := usbStrings "Virtual CDC Device"
  epDataCallback := true
  resetCallback := true
  isoInCallback := false

def cdcSetLineCoding : Byte := 0x20
def cdcSetControlLineState : Byte := 0x22

def inputBufferLength : Nat := 10

structure CdcState where
  dtr : Bool
  rts : Bool
  baudrate : UInt32
  charFormat : Byte
  parity : Byte
  dataBits : Byte
  deriving DecidableEq, Repr

/-- `control_data`.  A break is only printed. -/
def controlData (setup : Setup) (data : List Byte) (state : CdcState) :
    CdcState :=
  if setup.bRequest = cdcSetLineCoding then
    match data with
    | [rate0, rate1, rate2, rate3, charFormat, parity, dataBits] =>
        { state with
          baudrate := rate3.toUInt32 <<< 24 ||| rate2.toUInt32 <<< 16 |||
            rate1.toUInt32 <<< 8 ||| rate0.toUInt32
          charFormat := charFormat
          parity := parity
          dataBits := dataBits }
    | _ => state
  else if setup.bRequest = cdcSetControlLineState then
    { state with
      dtr := setup.wValueLow &&& 0x01 ≠ 0
      rts := setup.wValueLow &&& 0x02 ≠ 0 }
  else state

/-- Where the main thread is in its loop: `transmit` is after the test of
`DTR`. -/
inductive Place where
  | loop
  | test
  | transmit
  | enter
  | printing (place : Printing)
  | exit
  | ended
  deriving DecidableEq, Repr

structure Statics where
  cdcState : CdcState
  input : Input
  tickCounter : UInt32
  place : Place

def start : Statics := ⟨⟨false, false, 0, 0, 0, 0⟩, .start, 0, .loop⟩

def reset (statics : Statics) : Statics :=
  { statics with
    cdcState := { statics.cdcState with dtr := false, rts := false }
    input := { statics.input with inputBufferPos := 0 } }

def callback (args : CallbackArgs) (statics : Statics) :
    Option (Reaction Statics) :=
  match args with
  | .control setup data =>
      some ⟨{ statics with
        cdcState := controlData setup data statics.cdcState }, [], [], 0⟩
  | .endpointData _ data =>
      (statics.input.endpointData inputBufferLength data).map fun input =>
        ⟨{ statics with input := input }, [], [], 0⟩
  | .isoIn _ _ => some ⟨statics, [], [], 0⟩
  | .reset => some ⟨reset statics, [], [], 0⟩

def tick (tickCounter : UInt32) : List Byte :=
  ascii "Tick " ++ signedDecimal tickCounter ++ [0x0a]

def main (interrupted : Bool) (statics : Statics) : Option (Action Statics) :=
  match statics.place with
  | .loop =>
      if interrupted then some (.stop { statics with place := .ended })
      else some (.work { statics with place := .test })
  | .test =>
      if statics.cdcState.dtr then
        some (.work { statics with place := .transmit })
      else some (.work { statics with place := .enter })
  | .transmit =>
      some (.transmit 1 (tick statics.tickCounter)
        { statics with
          tickCounter := statics.tickCounter + 1
          place := .enter })
  | .enter => some (.enter { statics with place := .printing .test })
  | .printing place =>
      match place.step inputBufferLength statics.input with
      | none => none
      | some (some next, input) =>
          some (.work { statics with input := input, place := .printing next })
      | some (none, input) =>
          some (.work { statics with input := input, place := .exit })
  | .exit => some (.exit { statics with place := .loop })
  | .ended => some .ended

def program : Program Statics Unit where
  device := cdcDevice
  start := start
  callback _ := callback
  main _ := main

def inside (statics : Statics) : Bool :=
  match statics.place with
  | .printing _ => true
  | .exit => true
  | _ => false

end UsbipServer.Cdc
