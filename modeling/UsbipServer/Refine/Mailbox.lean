import UsbipServer.Refine.Device

namespace UsbipServer

open Wire Library

/-! The machine refines the mailbox: its history explains what its endpoint
buffers hold. -/

theorem Event.isSession_of_quiet {event : Event}
    (quiet : event.isQuiet = true) : event.isSession = true := by
  cases event <;> first | rfl | simpa [Event.isQuiet] using quiet

namespace Mailbox

theorem quiet_steps {held : Held} {events : List Event}
    (quiet : ∀ event ∈ events, event.isQuiet = true) :
    Steps Step held events held := by
  induction events with
  | nil => exact .nil
  | cons event rest induction =>
      have first := Event.isSession_of_quiet (quiet event (by simp))
      refine .cons (.session first) (induction ?_)
      intro other member
      exact quiet other (by simp [member])

theorem section_steps {mayWait : Bool} {device device' : DeviceState}
    {call : Call} {phase : CallPhase} {events : List Event}
    (ran : Section mayWait device call device' phase events) :
    Steps Step device.endpointData events device'.endpointData := by
  cases ran with
  | waiting => exact .nil
  | stored running current room =>
      unfold storedEvents
      split
      · exact .cons (.stored room) (.single .returned)
      · exact .single (.stored room)
  | dropped => exact .single .returned

def Explained (s s' : State) : Prop :=
  ∃ events, s'.trace = s.trace ++ events ∧
    Steps Step s.device.endpointData events s'.device.endpointData

theorem Explained.trans {first second third : State}
    (early : Explained first second) (late : Explained second third) :
    Explained first third := by
  obtain ⟨events, traced, steps⟩ := early
  obtain ⟨more, continued, later⟩ := late
  refine ⟨events ++ more, ?_, steps.append later⟩
  rw [continued, traced, List.append_assoc]

theorem apart_explained {s s' : State} (apart : Apart s s') :
    Explained s s' := by
  obtain ⟨device, _, _, _, events, traced, quiet⟩ := apart
  refine ⟨events, traced, ?_⟩
  rw [device]
  exact quiet_steps quiet

theorem local_explained {s s' : State} (acted : Local s s') :
    Explained s s' := by
  cases acted with
  | idle => exact ⟨[], by simp, .nil⟩
  | flags device data stopped generation =>
      refine ⟨[], by simp, ?_⟩
      simp only [data]
      exact .nil
  | serverTransmit ep data there free ran =>
      exact ⟨_, rfl, .cons .entered (section_steps ran)⟩
  | serverPost call there => exact ⟨_, rfl, .single .returned⟩
  | transmit thread ep data idle ran =>
      exact ⟨_, rfl, .cons .entered (section_steps ran)⟩
  | wake thread call waiting ran => exact ⟨_, rfl, section_steps ran⟩
  | post thread call stored => exact ⟨_, rfl, .single .returned⟩
  | critical threads same => exact ⟨[], by simp, .nil⟩
  | control request configurationValue => exact ⟨_, rfl, .single .control⟩
  | reset => exact ⟨_, rfl, .single .reset⟩
  | stop => exact ⟨_, rfl, .single .deviceStopped⟩

theorem fetch_step (device : DeviceState) (ep : Byte) (length : Nat) :
    Step device.endpointData
      (.fetched (epMasked ep) (device.usbipDeviceFetchEpData ep length).1)
      (device.usbipDeviceFetchEpData ep length).2.endpointData := by
  have split := List.take_append_drop
    (min length (device.endpointData (epMasked ep)).length)
    (device.endpointData (epMasked ep))
  exact .fetched split.symm

theorem acts_explained {s s' : State} (acted : Acts s s') :
    Explained s s' := by
  rcases acted with ⟨middle, performed, apart, _⟩ | fetches
  · exact (local_explained performed).trans (apart_explained apart)
  · obtain ⟨_, _, _, _, ep, length, transfer, events, _, device, traced,
      follow⟩ := fetches
    refine ⟨_, traced, ?_⟩
    rw [device]
    refine .cons (fetch_step s.device ep length) ?_
    rcases follow with ⟨reply, rfl, _⟩ | ⟨quiet, _⟩
    · exact .single (.session rfl)
    · exact quiet_steps quiet

end Mailbox

section

variable {dev : UsbipDevice} {s s' : State}

theorem device_invariant {allowed : State → Label → Prop} {P : State → Prop}
    (reached : (server dev).Reaches allowed initial s) (base : P initial)
    (preserved : ∀ state label next, Reachable dev state →
      allowed state label → P state → Acts state next → P next) : P s := by
  refine reached.invariant base ?_
  intro state label next before earlier permitted stepped
  have reachable := Reachable.of_allowed before
  have acted := step_acts (reachable_tracked reachable).sound stepped
  exact preserved state label next reachable permitted earlier acted

theorem Reachable.device_invariant {P : State → Prop}
    (reachable : Reachable dev s) (base : P initial)
    (preserved : ∀ state next, Reachable dev state → P state →
      Acts state next → P next) : P s :=
  UsbipServer.device_invariant reachable base fun state _ next reached _ =>
    preserved state next reached

theorem reachable_mailbox (reachable : Reachable dev s) :
    Mailbox.Run s.trace s.device.endpointData := by
  refine reachable.device_invariant
    (P := fun s => Mailbox.Run s.trace s.device.endpointData) .nil ?_
  intro state next _ earlier acted
  obtain ⟨events, traced, steps⟩ := Mailbox.acts_explained acted
  rw [traced]
  exact earlier.append steps

end

end UsbipServer
