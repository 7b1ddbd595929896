import UsbipServer.Locking

namespace UsbipServer

open Wire Library

/-! The condition variable `ep_data_consumed`.  `Locking` lets a sleeping thread
wake up whenever it likes; here it wakes up after a broadcast, or spuriously, as
`pthread_cond_wait` may. -/

/-- Whether `usbip_device_fetch_ep_data` ends with a broadcast: nothing remains
in the endpoint. -/
def DeviceState.fetchBroadcasts (device : DeviceState) (ep : Byte)
    (maxLength : Nat) : Bool :=
  ((device.usbipDeviceFetchEpData ep maxLength).2.endpointData
    (epMasked ep)).isEmpty

/-- Whether the server thread broadcasts in its next step: the device is reset
or stopped, or a fetch empties an endpoint. -/
def State.broadcasts (s : State) : Bool :=
  match s.phase with
  | .reset _ => true
  | .stop => true
  | .fetchReply request _ _ =>
      s.device.fetchBroadcasts 0 request.transferBufferLength.toNat
  | .pass now index =>
      match s.pendingUrbs[index]? with
      | none => false
      | some urb =>
          if now < urb.dueUs s.endpoints ∨ urb.isochronous then false
          else s.device.fetchBroadcasts urb.ep.toUInt8
            urb.transferBufferLength.toNat
  | _ => false

def Label.broadcasts (s : State) : Label → Bool
  | .server _ => s.broadcasts
  | _ => false

def LockLabel.broadcasts (locked : Locked) : LockLabel → Bool
  | .run owner =>
      match locked.stage owner with
      | .holds label => label.broadcasts locked.state
      | _ => false
  | _ => false

/-- The server, its mutexes and the sleeping threads that a broadcast has
woken, but that have not run since. -/
structure Sleeping where
  locked : Locked
  woken : Nat → Bool

inductive CondLabel where
  | lock (label : LockLabel)
  | spurious (thread : Nat)
  deriving DecidableEq, Repr

def LockLabel.permitted (woken : Nat → Bool) : LockLabel → Bool
  | .wakeup thread => woken thread
  | _ => true

/-- A broadcast wakes every thread that sleeps, and no other. -/
def Sleeping.next (sleeping : Sleeping) (broadcast : Bool) (locked : Locked) :
    Sleeping where
  locked := locked
  woken thread := (sleeping.woken thread || broadcast) &&
    decide (locked.stage (.thread thread) = .sleeps)

def condStep (dev : UsbipDevice) (sleeping : Sleeping) :
    CondLabel → Option Sleeping
  | .lock label =>
      if label.permitted sleeping.woken then
        (lockStep dev sleeping.locked label).map
          (sleeping.next (label.broadcasts sleeping.locked))
      else none
  | .spurious thread =>
      (lockStep dev sleeping.locked (.wakeup thread)).map (sleeping.next false)

def initialSleeping : Sleeping := ⟨initialLocked, fun _ => false⟩

def condvar (dev : UsbipDevice) : Machine Sleeping CondLabel := ⟨condStep dev⟩

def CondLabel.lockLabel : CondLabel → LockLabel
  | .lock label => label
  | .spurious thread => .wakeup thread

theorem condStep_cases {dev : UsbipDevice} {sleeping next : Sleeping}
    {label : CondLabel} (stepped : condStep dev sleeping label = some next) :
    ∃ locked, lockStep dev sleeping.locked label.lockLabel = some locked ∧
      next = sleeping.next (label.lockLabel.broadcasts sleeping.locked)
        locked := by
  cases label with
  | lock label =>
      simp only [condStep] at stepped
      split at stepped
      · obtain ⟨locked, taken, rfl⟩ := Option.map_eq_some_iff.mp stepped
        exact ⟨locked, taken, rfl⟩
      · contradiction
  | spurious thread =>
      obtain ⟨locked, taken, rfl⟩ := Option.map_eq_some_iff.mp stepped
      exact ⟨locked, taken, rfl⟩

theorem sleeping_reached {dev : UsbipDevice} {sleeping : Sleeping}
    (reached : (condvar dev).Reaches Machine.anyStep initialSleeping
      sleeping) :
    (locking dev).Reaches Machine.anyStep initialLocked sleeping.locked := by
  refine reached.invariant (P := fun sleeping => (locking dev).Reaches
    Machine.anyStep initialLocked sleeping.locked) .refl ?_
  intro before label next _ earlier _ stepped
  obtain ⟨locked, taken, rfl⟩ := condStep_cases stepped
  exact .step earlier trivial taken

end UsbipServer
