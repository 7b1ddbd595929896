import UsbipServer.System

namespace UsbipServer

open Wire Library

/-! A program that serves a device with the library: its callbacks, which the
server thread calls, and its main thread, which is thread 0 of the server's
model.  `Input` is what the program reads from its surroundings, such as a
clock.  Work that would leave one of the program's arrays has no result. -/

/-- What a callback does: it changes the program's variables, transmits and, for
an isochronous IN packet, fills the buffer. -/
structure Reaction (Statics : Type) where
  statics : Statics
  transmits : List (Byte × List Byte)
  written : List Byte
  length : Nat

/-- The next thing the main thread does.  `stop` is `usbip_server_stop`. -/
inductive Action (Statics : Type) where
  | work (next : Statics)
  | enter (next : Statics)
  | exit (next : Statics)
  | transmit (ep : Byte) (data : List Byte) (next : Statics)
  | stop (next : Statics)
  | ended

namespace Action

variable {Statics : Type}

def next : Action Statics → Option Statics
  | .work next => some next
  | .enter next => some next
  | .exit next => some next
  | .transmit _ _ next => some next
  | .stop next => some next
  | .ended => none

def sends (endpoint : Fin 16) : Action Statics → List (List Byte)
  | .transmit ep data _ => if epMasked ep = endpoint then [data] else []
  | _ => []

end Action

/-- A device program.  The main thread looks at `usbip_server_interrupted`. -/
structure Program (Statics Input : Type) where
  device : UsbipDevice
  start : Statics
  callback : Input → CallbackArgs → Statics → Option (Reaction Statics)
  main : Input → (interrupted : Bool) → Statics → Option (Action Statics)

/-- A server and its program.  `transmits`, `written` and `length` are what the
callback that is running still has to do. -/
structure Composite (Statics : Type) where
  server : State
  statics : Statics
  transmits : List (Byte × List Byte)
  written : List Byte
  length : Nat

inductive ProgramLabel (Input : Type) where
  | server (label : Label) (input : Input)
  | callback
  | main (input : Input)

/-- Steps of the server of a program that reads nothing. -/
def serverLabels (labels : List Label) : List (ProgramLabel Unit) :=
  labels.map fun label => .server label ()

def Label.isOutside : Label → Bool
  | .callbackTransmit _ _ => false
  | .callbackReturn _ _ => false
  | .transmit _ _ _ => false
  | .enter _ => false
  | .exit _ => false
  | _ => true

def State.calling (s : State) : Label → Option CallbackArgs
  | .server _ =>
      match s.phase with
      | .lock next => some (callbackArgs s next)
      | _ => none
  | _ => none

namespace Program

variable {Statics Input : Type}

/-- A step of the server.  A callback does all it does to the variables in the
step that enters it.  It holds `receive_lock` until it returns, and the main
thread needs that lock to go round: the one look it may take meanwhile without
it, at `DTR` of the serial device, counts as taken before the callback if it
finds the old value. -/
def serverStep (program : Program Statics Input) (label : Label)
    (input : Input) (composite : Composite Statics) :
    Option (Composite Statics) :=
  (UsbipServer.step program.device composite.server label).bind fun s =>
    match composite.server.calling label with
    | none => some { composite with server := s }
    | some args =>
        (program.callback input args composite.statics).map fun reaction =>
          ⟨s, reaction.statics, reaction.transmits, reaction.written,
            reaction.length⟩

/-- The callback transmits what it has to, then it returns. -/
def callbackStep (program : Program Statics Input)
    (composite : Composite Statics) : Option (Composite Statics) :=
  match composite.transmits with
  | (ep, data) :: rest =>
      (UsbipServer.step program.device composite.server
        (.callbackTransmit ep data)).map fun s =>
          { composite with server := s, transmits := rest }
  | [] =>
      (UsbipServer.step program.device composite.server
        (.callbackReturn composite.written composite.length)).map fun s =>
          { composite with server := s }

def call (program : Program Statics Input) (label : Label)
    (next : Statics) (composite : Composite Statics) :
    Option (Composite Statics) :=
  (UsbipServer.step program.device composite.server label).map fun s =>
    { composite with server := s, statics := next }

/-- The main thread goes on when its last transmit has returned. -/
def mainStep (program : Program Statics Input) (input : Input)
    (composite : Composite Statics) : Option (Composite Statics) :=
  if (composite.server.threads 0).call = .idle then
    match program.main input composite.server.tcpip.stopServer
        composite.statics with
    | none => none
    | some (.work next) => some { composite with statics := next }
    | some (.enter next) => program.call (.enter 0) next composite
    | some (.exit next) => program.call (.exit 0) next composite
    | some (.transmit ep data next) =>
        program.call (.transmit 0 ep data) next composite
    | some (.stop next) => program.call .interrupt next composite
    | some .ended => none
  else none

def step (program : Program Statics Input)
    (composite : Composite Statics) :
    ProgramLabel Input → Option (Composite Statics)
  | .server label input =>
      if label.isOutside then program.serverStep label input composite
      else none
  | .callback => program.callbackStep composite
  | .main input => program.mainStep input composite

def initial (program : Program Statics Input) : Composite Statics :=
  ⟨UsbipServer.initial, program.start, [], [], 0⟩

def machine (program : Program Statics Input) :
    Machine (Composite Statics) (ProgramLabel Input) :=
  ⟨program.step⟩

def Reachable (program : Program Statics Input)
    (composite : Composite Statics) : Prop :=
  program.machine.Reaches Machine.anyStep program.initial composite

end Program

end UsbipServer
