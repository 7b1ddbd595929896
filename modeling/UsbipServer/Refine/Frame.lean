import UsbipServer.Spec.Mailbox
import UsbipServer.Refine.Transition

namespace UsbipServer

open Wire Library

/-! What the server thread does without the device: it leaves the endpoint
buffers, the threads and the calls alone, the replies it sends carry data only
for isochronous transfers, and it does not stop between storing data and
writing the event. -/

/-- The call of a callback that stored its data and still has to write the
event. -/
def Phase.posting : Phase → Option Call
  | .callback posting _ _ => posting
  | _ => none

def Event.isQuiet : Event → Bool
  | .retSubmit reply => reply.transfer.isochronous || reply.data.isEmpty
  | event => event.isSession

structure Apart (s s' : State) : Prop where
  device : s'.device = s.device
  threads : s'.threads = s.threads
  calls : s'.calls = s.calls
  phase : s'.phase.posting = none ∨ s'.phase = s.phase
  trace : ∃ events, s'.trace = s.trace ++ events ∧
    ∀ event ∈ events, event.isQuiet = true

namespace Apart

theorem refl (s : State) : Apart s s :=
  ⟨rfl, rfl, rfl, .inr rfl, [], by simp, by simp⟩

theorem trans {first second third : State} (early : Apart first second)
    (late : Apart second third) : Apart first third := by
  obtain ⟨events, traced, quiet⟩ := early.trace
  obtain ⟨more, continued, alsoQuiet⟩ := late.trace
  refine ⟨late.device.trans early.device, late.threads.trans early.threads,
    late.calls.trans early.calls, ?_, events ++ more, ?_, ?_⟩
  · rcases late.phase with free | same
    · exact .inl free
    · rw [same]
      exact early.phase
  · rw [continued, traced, List.append_assoc]
  · intro event member
    rcases List.mem_append.mp member with member | member
    · exact quiet event member
    · exact alsoQuiet event member

theorem same {s s' : State} (device : s'.device = s.device)
    (threads : s'.threads = s.threads) (calls : s'.calls = s.calls)
    (trace : s'.trace = s.trace)
    (phase : s'.phase.posting = none ∨ s'.phase = s.phase) : Apart s s' :=
  ⟨device, threads, calls, phase, [], by simp [trace], by simp⟩

theorem goto {s s' : State} (phase : Phase) (earlier : Apart s s')
    (free : phase.posting = none) : Apart s (s'.goto phase) :=
  earlier.trans (same rfl rfl rfl rfl (.inl free))

theorem event {s s' : State} {event : Event} (device : s'.device = s.device)
    (threads : s'.threads = s.threads) (calls : s'.calls = s.calls)
    (trace : s'.trace = s.trace ++ [event]) (quiet : event.isQuiet = true)
    (phase : s'.phase.posting = none ∨ s'.phase = s.phase) : Apart s s' :=
  ⟨device, threads, calls, phase, [event], trace, by simpa using quiet⟩

end Apart

theorem retSubmitReply_quiet (transfer : Transfer) (urbStatus : UInt32)
    (actualLength : Nat) (sendData : Bool) (txBuffer : Buffer Cell)
    (silent : sendData = false ∨ actualLength = 0) :
    (Event.retSubmit (retSubmitReply transfer urbStatus actualLength sendData
      txBuffer)).isQuiet = true := by
  rcases silent with rfl | rfl
  · simp [Event.isQuiet, retSubmitReply]
  · simp [Event.isQuiet, retSubmitReply]

theorem finishSubmit_apart (request : Request) (urbStatus : UInt32)
    (actualLength : Nat) (sendData : Bool) (s : State)
    (silent : sendData = false ∨ actualLength = 0) :
    Apart s (finishSubmit request urbStatus actualLength sendData s) := by
  refine .event rfl rfl rfl rfl ?_ (.inl rfl)
  split
  · exact retSubmitReply_quiet _ _ _ _ _ silent
  · rfl

theorem isoReply_quiet {urb : PendingUrb} (isochronous : urb.isochronous = true)
    (actual : List Nat) (txBuffer : Buffer Cell) :
    (Event.retSubmit (isoReply urb actual txBuffer)).isQuiet = true := by
  simp [Event.isQuiet, isoReply, isochronous]

theorem Request.control_silent (request : Request) (supported : Bool) :
    request.controlSends supported = false ∨
      request.controlLength supported 0 = 0 := by
  unfold Request.controlSends Request.controlLength
  cases supported with
  | false => exact .inl rfl
  | true =>
      by_cases outward : request.direction = 0
      · exact .inl (by simp [outward])
      · exact .inr (by simp [outward])

def Task.paced : Task → Prop
  | .collect urb _ _ _ => urb.isochronous = true
  | _ => True

theorem Ends.apart {dev : UsbipDevice} {task : Task} {s s' : State}
    (ends : Ends dev s task s') (paced : task.paced) : Apart s s' := by
  cases ends with
  | ignored | received => exact finishSubmit_apart _ _ _ _ s (.inl rfl)
  | overflows => exact finishSubmit_apart _ _ _ _ s (.inr rfl)
  | answered => exact finishSubmit_apart _ _ _ _ s (Request.control_silent _ _)
  | queued | attached | unattached =>
      exact .event rfl rfl rfl rfl rfl (.inl rfl)
  | isoAnswered lengths =>
      refine .event rfl rfl rfl rfl ?_ (.inl rfl)
      split
      · exact isoReply_quiet paced lengths s.txBuffer
      · rfl
  | isoCompleted lengths =>
      exact .event rfl rfl rfl rfl (isoReply_quiet paced lengths s.txBuffer)
        (.inl rfl)
  | isoLost lengths tcpip =>
      have failed : Apart s ({ s with tcpip := tcpip }.emit [.writeFailed]) :=
        .event rfl rfl rfl rfl rfl (.inr rfl)
      exact failed.trans (.event rfl rfl rfl rfl rfl (.inl rfl))
  | _ => exact (Apart.refl s).goto _ rfl

end UsbipServer
