import UsbipServer.System
import UsbipServer.Library.Pairs

namespace UsbipServer

open Wire Library

/-! Two histories of the server, from the reset of an import on, in which the
client, the clock, the application threads and the device's callbacks do the
same. -/

namespace CallbackArgs

/-- What a callback may look at: the data of a device-to-host request means
nothing. -/
def documented : CallbackArgs → CallbackArgs
  | .control setup data =>
      .control setup (if 128 ≤ setup.bmRequestType.toNat then [] else data)
  | args => args

end CallbackArgs

def Event.heard : Event → Option CallbackArgs
  | .callback args => some args.documented
  | _ => none

def State.eventsSince (first s : State) : List Event :=
  s.trace.drop first.trace.length

/-- What the callbacks were called with since `first`. -/
def State.heardSince (first s : State) : List CallbackArgs :=
  (first.eventsSince s).filterMap Event.heard

/-- What the callbacks do next, given what they were called with and how many
transmits the current call has made. -/
abbrev Behaviour := List CallbackArgs → Nat → Label

namespace Label

def isCallback : Label → Bool
  | .callbackTransmit _ _ => true
  | .callbackReturn _ _ => true
  | _ => false

end Label

/-- The label is what the device's callback does next. -/
structure Acted (behaviour : Behaviour) (first s : State) (label : Label) :
    Prop where
  kind : label.isCallback = true
  chosen : ∃ made next, s.phase = .callback none made next ∧
    label = behaviour (first.heardSince s) made

/-- A transmit call begun before `first`, or a critical section. -/
def alone (first s : State) : Label → Bool
  | .enter _ => true
  | .exit _ => true
  | .wake thread =>
      match (s.threads thread).call with
      | .waiting call => call.id < first.calls
      | _ => false
  | .post thread =>
      match (s.threads thread).call with
      | .stored call => call.id < first.calls
      | _ => false
  | _ => false

/-- A transmit is made inside a critical section in both histories or in
neither. -/
def sameSection (s t : State) : Label → Bool
  | .transmit thread _ _ =>
      (s.threads thread).inCriticalSection ==
        (t.threads thread).inCriticalSection
  | _ => true

inductive SameInput (behaviour : Behaviour) (first second s t : State) :
    Label → Label → Prop
  | outside {label : Label} (kind : label.isCallback = false)
      (left : alone first s label = false)
      (right : alone second t label = false)
      (critical : sameSection s t label = true) :
      SameInput behaviour first second s t label label
  | callback {a b : Label} (left : Acted behaviour first s a)
      (right : Acted behaviour second t b) :
      SameInput behaviour first second s t a b

/-- Two histories with the same inputs, whose steps are all allowed. -/
def Paired (dev : UsbipDevice) (behaviour : Behaviour)
    (allowed : State → State → Label → Bool) (first second : State) :
    State → State → Prop :=
  (server dev).Pairs
    (fun s t a b => SameInput behaviour first second s t a b ∧
      allowed first s a = true ∧ allowed second t b = true)
    (fun s label => alone first s label = true ∧ allowed first s label = true)
    (fun t label => alone second t label = true ∧
      allowed second t label = true)
    first second

def JustReset (dev : UsbipDevice) (first : State) : Prop :=
  ∃ before clock, Reachable dev before ∧ before.phase = .reset .attach ∧
    step dev before (.server clock) = some first

structure SameClient (first second : State) : Prop where
  reads : first.tcpip.reads = second.tcpip.reads
  writes : first.tcpip.writes = second.tcpip.writes
  stopServer : first.tcpip.stopServer = second.tcpip.stopServer

/-- What the new host can tell the two histories by. -/
structure SameOutcome (first second s t : State) : Prop where
  sent : s.tcpip.sent = t.tcpip.sent
  heard : first.heardSince s = second.heardSince t

/-- A control request passes no more of `rx_buffer` to its callback than was
received since `first`. -/
def readsReceived (first s : State) : Label → Bool
  | .server _ =>
      match s.phase with
      | .lock (.control request) =>
          decide (request.direction = 0) ||
            decide (128 ≤ request.command.submit.setup.bmRequestType.toNat) ||
            decide (request.transferBufferLength = 0) ||
            (first.eventsSince s).any fun
              | .submit earlier =>
                  decide (request.transferBufferLength.toNat ≤
                    earlier.command.payload.length)
              | _ => false
      | _ => true
  | _ => true

/-- The generation has not come back to that of a call begun before `first`. -/
def outdated (first s : State) : Label → Bool
  | .wake thread =>
      match (s.threads thread).call with
      | .waiting call =>
          decide (first.calls ≤ call.id) ||
            decide (call.generation ≠ s.device.resetGeneration)
      | _ => true
  | _ => true

def separated (first s : State) (label : Label) : Bool :=
  writesReported s label && readsReceived first s label &&
    outdated first s label

end UsbipServer
