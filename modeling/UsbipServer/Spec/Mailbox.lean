import UsbipServer.System
import UsbipServer.Library.Steps

namespace UsbipServer

open Wire Library

namespace Event

def isReset : Event → Bool
  | .reset => true
  | _ => false

def isControl : Event → Bool
  | .control _ => true
  | _ => false

def isImported : Event → Bool
  | .imported => true
  | _ => false

/-- Events of the server thread's own bookkeeping, which leave the endpoint
buffers alone. -/
def isSession : Event → Bool
  | .imported => true
  | .lost => true
  | .submit _ => true
  | .unlink _ => true
  | .queued _ => true
  | .retSubmit _ => true
  | .retUnlink _ => true
  | .writeFailed => true
  | .callback _ => true
  | .pass _ => true
  | _ => false

end Event

/-! What the endpoint buffers are for: each holds what was stored and not yet
fetched.  The rules say which events may happen and what they leave behind. -/

namespace Mailbox

abbrev Held := Fin 16 → List Cell

inductive Step : Held → Event → Held → Prop
  | stored {held : Held} {call : Call}
      (room : call.endpoint = 0 ∨ held call.endpoint = []) :
      Step held (.stored call)
        (Function.update held call.endpoint call.cells)
  | fetched {held : Held} {endpoint : Fin 16} {data rest : List Cell}
      (front : held endpoint = data ++ rest) :
      Step held (.fetched endpoint data)
        (Function.update held endpoint (if endpoint = 0 then [] else rest))
  | control {held : Held} {request : Request} :
      Step held (.control request) (Function.update held 0 [])
  | reset {held : Held} : Step held .reset fun _ => []
  | deviceStopped {held : Held} : Step held .deviceStopped fun _ => []
  | entered {held : Held} {call : Call} : Step held (.entered call) held
  | returned {held : Held} {call : Call} {result : Bool} :
      Step held (.returned call result) held
  | session {held : Held} {event : Event}
      (apart : event.isSession = true) : Step held event held

abbrev Run := Steps Step fun _ => []

def storedOn (endpoint : Fin 16) (events : List Event) : List Cell :=
  events.flatMap fun
    | .stored call => if call.endpoint = endpoint then call.cells else []
    | _ => []

def fetchedFrom (endpoint : Fin 16) (events : List Event) : List Cell :=
  events.flatMap fun
    | .fetched source data => if source = endpoint then data else []
    | _ => []

theorem storedOn_concat (endpoint : Fin 16) (events : List Event)
    (event : Event) :
    storedOn endpoint (events ++ [event]) =
      storedOn endpoint events ++ storedOn endpoint [event] := by
  simp [storedOn]

theorem fetchedFrom_concat (endpoint : Fin 16) (events : List Event)
    (event : Event) :
    fetchedFrom endpoint (events ++ [event]) =
      fetchedFrom endpoint events ++ fetchedFrom endpoint [event] := by
  simp [fetchedFrom]

private theorem storedOn_session {endpoint : Fin 16} {event : Event}
    (apart : event.isSession = true) : storedOn endpoint [event] = [] := by
  cases event <;> simp_all [storedOn, Event.isSession]

private theorem fetchedFrom_session {endpoint : Fin 16} {event : Event}
    (apart : event.isSession = true) : fetchedFrom endpoint [event] = [] := by
  cases event <;> simp_all [fetchedFrom, Event.isSession]

private theorem isReset_session {event : Event}
    (apart : event.isSession = true) : event.isReset = false := by
  cases event <;> simp_all [Event.isReset, Event.isSession]

/-- One step of a data endpoint: what is fetched comes off the front of what
is held, what is stored goes to its end. -/
private theorem stream_step {endpoint : Fin 16} (data : endpoint ≠ 0)
    {held next : Held} {event : Event} (stepped : Step held event next)
    (kept : event.isReset = false) (running : event ≠ .deviceStopped) :
    fetchedFrom endpoint [event] ++ next endpoint =
      held endpoint ++ storedOn endpoint [event] := by
  cases stepped with
  | @stored call room =>
      by_cases same : call.endpoint = endpoint
      · subst same
        have empty : held call.endpoint = [] := room.resolve_left data
        simp [fetchedFrom, storedOn, empty]
      · simp [fetchedFrom, storedOn, same, Function.update_of_ne (Ne.symm same)]
  | @fetched source content rest front =>
      by_cases same : source = endpoint
      · subst same
        simp [fetchedFrom, storedOn, front, data]
      · simp [fetchedFrom, storedOn, same, Function.update_of_ne (Ne.symm same)]
  | control => simp [fetchedFrom, storedOn, Function.update_of_ne data]
  | reset => simp [Event.isReset] at kept
  | deviceStopped => exact absurd rfl running
  | entered => simp [fetchedFrom, storedOn]
  | returned => simp [fetchedFrom, storedOn]
  | session apart =>
      rw [fetchedFrom_session apart, storedOn_session apart]
      simp

/-- Between two resets a data endpoint is a byte stream: what was fetched,
followed by what is held, is what was stored. -/
theorem stream {trace : List Event} {held : Held} (run : Run trace held)
    {endpoint : Fin 16} (data : endpoint ≠ 0)
    (running : Event.deviceStopped ∉ since Event.isReset trace) :
    fetchedFrom endpoint (since Event.isReset trace) ++ held endpoint =
      storedOn endpoint (since Event.isReset trace) := by
  revert running
  refine run.history
    (P := fun seen held => Event.deviceStopped ∉ since Event.isReset seen →
      fetchedFrom endpoint (since Event.isReset seen) ++ held endpoint =
        storedOn endpoint (since Event.isReset seen)) ?_ ?_
  · intro _
    simp [fetchedFrom, storedOn]
  · intro seen state event next earlier stepped running
    rw [since_concat] at running ⊢
    cases kept : event.isReset with
    | true =>
        cases stepped with
        | reset => simp [fetchedFrom, storedOn]
        | session apart =>
            rw [isReset_session apart] at kept
            contradiction
        | _ => simp [Event.isReset] at kept
    | false =>
        simp only [kept, Bool.false_eq_true, if_false, List.mem_append,
          List.mem_singleton, not_or] at running ⊢
        rw [fetchedFrom_concat, storedOn_concat, List.append_assoc,
          stream_step data stepped kept (Ne.symm running.2),
          ← List.append_assoc, earlier running.1]

/-- Whatever is held was stored after the last event that emptied the
endpoint. -/
theorem origin {boundary : Event → Bool} {endpoint : Fin 16}
    (clears : ∀ held event next, boundary event = true →
      Step held event next → next endpoint = [])
    {trace : List Event} {held : Held} (run : Run trace held)
    (cell : Cell) (member : cell ∈ held endpoint) :
    ∃ call, Event.stored call ∈ since boundary trace ∧
      call.endpoint = endpoint ∧ cell ∈ call.cells := by
  revert cell
  refine run.history
    (P := fun seen held => ∀ cell ∈ held endpoint,
      ∃ call, Event.stored call ∈ since boundary seen ∧
        call.endpoint = endpoint ∧ cell ∈ call.cells) ?_ ?_
  · intro cell member
    simp at member
  · intro seen state event next earlier stepped cell member
    rw [since_concat]
    cases emptied : boundary event with
    | true =>
        rw [clears state event next emptied stepped] at member
        simp at member
    | false =>
        have keep : cell ∈ state endpoint →
            ∃ call, Event.stored call ∈ since boundary seen ++ [event] ∧
              call.endpoint = endpoint ∧ cell ∈ call.cells := by
          intro held
          obtain ⟨call, stored, same, inside⟩ := earlier cell held
          exact ⟨call, List.mem_append_left _ stored, same, inside⟩
        simp only [Bool.false_eq_true, if_false]
        cases stepped with
        | @stored call room =>
            by_cases same : endpoint = call.endpoint
            · subst same
              rw [Function.update_self] at member
              exact ⟨call, by simp, rfl, member⟩
            · rw [Function.update_of_ne same] at member
              exact keep member
        | @fetched source data rest front =>
            by_cases same : endpoint = source
            · subst same
              rw [Function.update_self] at member
              split at member
              · simp at member
              · exact keep (by rw [front]; exact List.mem_append_right _ member)
            · rw [Function.update_of_ne same] at member
              exact keep member
        | control =>
            by_cases same : endpoint = 0
            · subst same
              simp at member
            · rw [Function.update_of_ne same] at member
              exact keep member
        | reset => simp at member
        | deviceStopped => simp at member
        | entered => exact keep member
        | returned => exact keep member
        | session => exact keep member

theorem reset_clears (endpoint : Fin 16) (held : Held) (event : Event)
    (next : Held) (boundary : event.isReset = true)
    (stepped : Step held event next) : next endpoint = [] := by
  cases stepped with
  | reset => rfl
  | session apart =>
      rw [isReset_session apart] at boundary
      contradiction
  | _ => simp [Event.isReset] at boundary

theorem control_clears (held : Held) (event : Event) (next : Held)
    (boundary : event.isControl = true) (stepped : Step held event next) :
    next 0 = [] := by
  cases stepped with
  | control => simp
  | session apart => cases event <;> simp_all [Event.isControl, Event.isSession]
  | _ => simp [Event.isControl] at boundary

end Mailbox

end UsbipServer
