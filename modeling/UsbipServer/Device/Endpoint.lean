import UsbipServer.Wire.Definitions
import Mathlib.Logic.Function.Basic
import Mathlib.Tactic.Simps.Basic

namespace UsbipServer

open Wire

/-! The endpoint buffers of the device side and the sections of
`usbip_device.c` that run under `ep_access_mutex`. -/

def endpointMaxDataLength : Nat := 512

-- The library has this instance too.  Under a name it is one constant in all
-- definitions about endpoint 0 and not a proof that each of them abstracts.
instance endpointsNeZero : NeZero 16 := inferInstance

/-- `ep & 0xf` for the 8-bit endpoint arguments of the device functions. -/
def epMasked (ep : Byte) : Fin 16 := ⟨ep.toNat % 16, Nat.mod_lt _ (by decide)⟩

/-- A byte in a buffer, together with the transmit call it was passed to, if
any.  The origin is only recorded, no function looks at it. -/
structure Cell where
  byte : Byte
  origin : Option Nat
  deriving DecidableEq, Repr

/-- One call of `usbip_device_transmit` after it took the mutex for the first
time, numbered in that order. -/
structure Call where
  id : Nat
  ep : Byte
  data : List Byte
  generation : UInt32
  deriving DecidableEq, Repr

namespace Call

def endpoint (call : Call) : Fin 16 := epMasked call.ep

/-- What the call stores: its data, cut to the size of an endpoint buffer. -/
def cells (call : Call) : List Cell :=
  (call.data.take endpointMaxDataLength).map fun byte => ⟨byte, some call.id⟩

theorem origin_of_mem_cells {call : Call} {cell : Cell}
    (member : cell ∈ call.cells) : cell.origin = some call.id := by
  obtain ⟨byte, _, rfl⟩ := List.mem_map.mp member
  rfl

end Call

/-- The static variables of `usbip_device.c`.  `endpointData` holds the first
`data_length` bytes of each buffer, `eventFd` whether the counter of the event
file descriptor is non-zero. -/
structure DeviceState where
  deviceStopped : Bool
  endpointData : Fin 16 → List Cell
  eventFd : Bool
  configurationValue : Byte
  controlAnswered : Bool
  resetGeneration : UInt32

namespace DeviceState

@[simps]
def setEndpoint (device : DeviceState) (endpoint : Fin 16)
    (content : List Cell) : DeviceState :=
  { device with
    endpointData := Function.update device.endpointData endpoint content }

/-- The locked part of `usbip_device_reset`. -/
@[simps]
def usbipDeviceReset (device : DeviceState) : DeviceState :=
  { device with
    endpointData := fun _ => []
    configurationValue := 0
    controlAnswered := false
    resetGeneration := device.resetGeneration + 1 }

@[simps]
def usbipDeviceStop (device : DeviceState) : DeviceState :=
  { device with deviceStopped := true, endpointData := fun _ => [] }

@[simps]
def usbipDeviceClearEvent (device : DeviceState) : DeviceState :=
  { device with eventFd := false }

/-- The write to the event file descriptor that ends a transmit. -/
@[simps]
def writeEvent (device : DeviceState) : DeviceState :=
  { device with eventFd := true }

/-- `usbip_device_control`: only an answer given to this request may reply to
it. -/
def forgetAnswer (device : DeviceState) : DeviceState :=
  { device.setEndpoint 0 [] with controlAnswered := false }

/-- The first section of `usbip_device_fetch_control_reply`. -/
def takeAnswered (device : DeviceState) : Bool × DeviceState :=
  (device.controlAnswered, { device with controlAnswered := false })

/-- Data that does not fit the transfer stays queued, except on endpoint 0. -/
def usbipDeviceFetchEpData (device : DeviceState) (ep : Byte)
    (maxLength : Nat) : List Cell × DeviceState :=
  let available := device.endpointData (epMasked ep)
  let length := min maxLength available.length
  let remaining := if epMasked ep = 0 then [] else available.drop length
  (available.take length, device.setEndpoint (epMasked ep) remaining)

theorem fetched_length_le (device : DeviceState) (ep : Byte) (maxLength : Nat) :
    (device.usbipDeviceFetchEpData ep maxLength).1.length ≤ maxLength := by
  simp [usbipDeviceFetchEpData]

section

variable {device : DeviceState} {ep : Byte} {maxLength : Nat}

theorem fetched_eq_nil_iff :
    (device.usbipDeviceFetchEpData ep maxLength).1 = [] ↔
      maxLength = 0 ∨ device.endpointData (epMasked ep) = [] := by
  simp [usbipDeviceFetchEpData]

theorem fetched_other {endpoint : Fin 16} (other : endpoint ≠ epMasked ep) :
    (device.usbipDeviceFetchEpData ep maxLength).2.endpointData endpoint =
      device.endpointData endpoint :=
  Function.update_of_ne other _ _

theorem fetched_empty {endpoint : Fin 16}
    (empty : device.endpointData endpoint = []) :
    (device.usbipDeviceFetchEpData ep maxLength).2.endpointData endpoint =
      [] := by
  by_cases same : endpoint = epMasked ep
  · subst same
    simp [usbipDeviceFetchEpData, empty]
  · rw [fetched_other same, empty]

end

end DeviceState

/-! Transmitting.  `waiting` is a thread inside `pthread_cond_wait`, which runs
the same section again when it wakes up. -/

inductive TransmitOutcome where
  | waiting
  | stored (device : DeviceState)
  | dropped

/-- The locked part of `usbip_device_transmit`, from the test of the wait loop
on. -/
def usbipDeviceTransmit (mayWait : Bool) (call : Call)
    (device : DeviceState) : TransmitOutcome :=
  let replace : Bool := call.endpoint = 0
  let full : Bool := !(device.endpointData call.endpoint).isEmpty
  if !replace && mayWait && !device.deviceStopped && full then .waiting
  else
    let wasReset : Bool := call.generation ≠ device.resetGeneration
    if !device.deviceStopped && !wasReset && (replace || !full) then
      .stored { device.setEndpoint call.endpoint call.cells with
        controlAnswered := device.controlAnswered || replace }
    else .dropped

theorem usbipDeviceTransmit_stored {mayWait : Bool} {call : Call}
    {device next : DeviceState}
    (stored : usbipDeviceTransmit mayWait call device = .stored next) :
    device.deviceStopped = false ∧
      call.generation = device.resetGeneration ∧
      (call.endpoint = 0 ∨ device.endpointData call.endpoint = []) ∧
      next = { device.setEndpoint call.endpoint call.cells with
        controlAnswered :=
          device.controlAnswered || decide (call.endpoint = 0) } := by
  unfold usbipDeviceTransmit at stored
  simp only at stored
  split at stored
  · contradiction
  · split at stored
    next admitted =>
      simp only [Bool.and_eq_true, Bool.or_eq_true, Bool.not_eq_true',
        decide_eq_true_eq, decide_eq_false_iff_not, ne_eq, not_not,
        Bool.not_eq_false', List.isEmpty_iff] at admitted
      simp only [TransmitOutcome.stored.injEq] at stored
      obtain ⟨⟨running, current⟩, room⟩ := admitted
      exact ⟨running, current, room, stored.symm⟩
    next => contradiction

theorem usbipDeviceTransmit_waiting {mayWait : Bool} {call : Call}
    {device : DeviceState}
    (waiting : usbipDeviceTransmit mayWait call device = .waiting) :
    mayWait = true ∧ call.endpoint ≠ 0 ∧ device.deviceStopped = false ∧
      device.endpointData call.endpoint ≠ [] := by
  unfold usbipDeviceTransmit at waiting
  simp only at waiting
  split at waiting
  next blocked =>
    simp only [Bool.and_eq_true, Bool.not_eq_true', decide_eq_false_iff_not,
      List.isEmpty_eq_false_iff] at blocked
    obtain ⟨⟨⟨data, may⟩, running⟩, full⟩ := blocked
    exact ⟨may, data, running, full⟩
  next => split at waiting <;> contradiction

theorem usbipDeviceTransmit_dropped {mayWait : Bool} {call : Call}
    {device : DeviceState}
    (dropped : usbipDeviceTransmit mayWait call device = .dropped) :
    (mayWait = true → call.endpoint ≠ 0 → device.deviceStopped = false →
        device.endpointData call.endpoint = []) ∧
      (device.deviceStopped = false →
        call.generation = device.resetGeneration →
        call.endpoint ≠ 0 ∧ device.endpointData call.endpoint ≠ []) := by
  refine ⟨?_, ?_⟩
  · intro may data running
    by_contra full
    simp [usbipDeviceTransmit, may, data, running, full] at dropped
  · intro running current
    refine ⟨?_, ?_⟩
    · intro control
      simp [usbipDeviceTransmit, running, current, control] at dropped
    · intro empty
      simp [usbipDeviceTransmit, running, current, empty] at dropped

end UsbipServer
