import UsbipServer.Locking

namespace UsbipServer

open Wire Library

/-! The loops of `usbip_server_worker_thread`.  In `System` a server thread
between two commands may go on or leave; here it goes on only after the test
`keep_running > 0`, which it makes once for each client and for each command.
In `System` a step that writes is made or not; here the thread may also stay in
one of its writes. -/

/-- A `blocked` thread is in a `write` that never returns, because the client
has stopped reading.  A `write` that returns after some time is a step that is
made after some time. -/
structure Worker where
  state : State
  tested : Bool
  blocked : Bool

inductive WorkerLabel where
  | test
  | block (label : Label)
  | step (label : Label)
  deriving DecidableEq, Repr

/-- A step inside the loops: it accepts a client, waits for a command or reads
one. -/
def Label.inLoop (s : State) : Label → Bool
  | .accept _ _ => true
  | .wait _ => true
  | .server _ => decide (s.phase = .serve) && !s.tcpip.stopServer
  | _ => false

/-- A step that calls `write`: it meets the result of a connection that
fails. -/
def Label.writes (dev : UsbipDevice) (s : State) : Label → Bool
  | .accept _ _ => false
  | label =>
      (step dev { s with tcpip := { s.tcpip with writes := [.failed] } }
        label).any fun next => next.tcpip.writes.isEmpty

/-- Neither in a `write` nor, for a step in the loops, before the test. -/
def Worker.ready (worker : Worker) (label : Label) : Bool :=
  !(worker.blocked && decide (label.owner = some .server)) &&
    !(label.inLoop worker.state && !worker.tested)

def workerStep (dev : UsbipDevice) (worker : Worker) :
    WorkerLabel → Option Worker
  | .test =>
      if (worker.state.phase = .accept ∨ worker.state.phase = .serve) ∧
          worker.state.tcpip.stopServer = false ∧ worker.blocked = false then
        some { worker with tested := true }
      else none
  | .block label =>
      -- the loop of `tcpip_server_write` tests `stop_server` before the call
      if worker.ready label ∧ label.writes dev worker.state ∧
          worker.state.tcpip.stopServer = false then
        some { worker with blocked := true }
      else none
  | .step label =>
      if worker.ready label then
        (step dev worker.state label).map fun s =>
          ⟨s, worker.tested && decide (label.owner ≠ some .server),
            worker.blocked⟩
      else none

def initialWorker : Worker := ⟨initial, false, false⟩

def worker (dev : UsbipDevice) : Machine Worker WorkerLabel :=
  ⟨workerStep dev⟩

end UsbipServer
