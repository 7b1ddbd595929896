import UsbipServer.Program
import UsbipServer.Refine.Device
import UsbipServer.Refine.Phases

namespace UsbipServer

open Wire Library

/-! What a device program can notice of the server: its callbacks, the resets
and what becomes of its transmits on data endpoints.  The rest of the history is
the server's own. -/

def Event.isHeard : Event → Bool
  | .callback _ => true
  | .entered call => decide (call.endpoint ≠ 0)
  | .stored call => decide (call.endpoint ≠ 0)
  | .reset => true
  | _ => false

/-- The server only records what the program does not notice. -/
def Unheard (s s' : State) : Prop :=
  ∃ events, s'.trace = s.trace ++ events ∧
    ∀ event ∈ events, event.isHeard = false

namespace Unheard

variable {s start s' : State}

theorem same (trace : s'.trace = s.trace) : Unheard s s' :=
  ⟨[], by simp [trace], by simp⟩

theorem event {event : Event} (trace : s'.trace = s.trace ++ [event])
    (unheard : event.isHeard = false) : Unheard s s' :=
  ⟨[event], trace, by simpa using unheard⟩

theorem trans (early : Unheard s start) (late : Unheard start s') :
    Unheard s s' := by
  obtain ⟨events, traced, unheard⟩ := early
  obtain ⟨more, continued, alsoUnheard⟩ := late
  refine ⟨events ++ more, ?_, ?_⟩
  · rw [continued, traced, List.append_assoc]
  · intro event member
    rcases List.mem_append.mp member with member | member
    · exact unheard event member
    · exact alsoUnheard event member

end Unheard

section

variable {dev : UsbipDevice} {s s' : State}

theorem Ends.unheard {task : Task} (ends : Ends dev s task s') :
    Unheard s s' := by
  cases ends with
  | ignored | overflows | answered | received | isoAnswered =>
      refine .event rfl ?_
      split <;> rfl
  | queued | isoCompleted | attached | unattached => exact .event rfl rfl
  | isoLost => exact Unheard.trans (.event rfl rfl) (.event rfl rfl)
  | _ => exact .same rfl

theorem Section.unheard {mayWait : Bool} {device device' : DeviceState}
    {call : Call} {phase : CallPhase} {events : List Event}
    (ran : Section mayWait device call device' phase events)
    (control : call.endpoint = 0) :
    ∀ event ∈ events, event.isHeard = false := by
  cases ran with
  | waiting data => exact absurd control data
  | stored => simp [storedEvents, control, Event.isHeard]
  | dropped => simp [Event.isHeard]

theorem Section.unheard_since {mayWait : Bool} {device : DeviceState}
    {call : Call} {phase : CallPhase} {events : List Event}
    (ran : Section mayWait s.device call device phase events)
    (control : call.endpoint = 0)
    (traced : s'.trace = s.trace ++ .entered call :: events) :
    Unheard s s' := by
  refine ⟨.entered call :: events, traced, ?_⟩
  intro event member
  rcases List.mem_cons.mp member with rfl | member
  · simp [Event.isHeard, control]
  · exact ran.unheard control event member

/-- What the program notices of a step that is none of its own transmits. -/
inductive Heard (s : State) (label : Label) (s' : State) : Prop
  | unheard (uncalled : s.calling label = none) (quiet : Unheard s s')
  | called (args : CallbackArgs) (calling : s.calling label = some args)
      (traced : s'.trace = s.trace ++ [.callback args])
  | reset (uncalled : s.calling label = none)
      (traced : s'.trace = s.trace ++ [.reset])

/-- Steps that make no transmit on a data endpoint. -/
def Label.isSilent : Label → Bool
  | .callbackTransmit ep _ => decide (epMasked ep = 0)
  | .transmit _ _ _ => false
  | .wake _ => false
  | _ => true

theorem Transition.heard {label : Label} (silent : label.isSilent = true)
    (moved : Transition dev s label s') : Heard s label s' := by
  cases moved with
  | accepts | idles | fails | locks | unlocks | interrupts =>
      exact .unheard rfl (.same rfl)
  | threadPosts => exact .unheard rfl (.event rfl rfl)
  | leaves clock here =>
      rcases here with here | here
      · exact .unheard (by simp [State.calling, here]) (.same rfl)
      · exact .unheard (by simp [State.calling, here]) (.same rfl)
  | refuses _ _ here | imports _ _ here | takesAnswer _ _ _ here
  | ends _ _ _ here | later _ _ _ _ here | resetCalls _ _ here =>
      exact .unheard (by simp [State.calling, here]) (.same rfl)
  | controlAnswers _ _ _ here | controlCalls _ _ here
  | schedules _ _ here | posts _ _ _ _ here | starts _ here | loses _ here
  | skips _ _ _ _ here | stops _ here =>
      exact .unheard (by simp [State.calling, here]) (.event rfl rfl)
  | submits tcpip command here imported running received plain ends =>
      exact .unheard rfl (Unheard.trans (.event rfl rfl) ends.unheard)
  | submitsIso tcpip command here imported running received paced ends =>
      exact .unheard rfl (Unheard.trans (.event rfl rfl) ends.unheard)
  | misses | cancels =>
      refine .unheard rfl (Unheard.trans (.event rfl rfl) (.event rfl ?_))
      split <;> rfl
  | controls clock request supported here action ends =>
      exact .unheard (by simp [State.calling, here])
        (Unheard.trans (.event rfl rfl) ends.unheard)
  | answers clock request data here ran ends =>
      exact .unheard (by simp [State.calling, here])
        ((ran.unheard_since rfl rfl).trans ends.unheard)
  | fetches clock request supported answered handled here =>
      refine .unheard (by simp [State.calling, here])
        (Unheard.trans (.event rfl rfl) (.event rfl ?_))
      split <;> rfl
  | overflows clock request here full ends =>
      exact .unheard (by simp [State.calling, here])
        (Unheard.trans (.same rfl) ends.unheard)
  | collects clock now index urb here filed isochronous due ends =>
      exact .unheard (by simp [State.calling, here]) ends.unheard
  | completes clock now index urb tcpip here =>
      exact .unheard (by simp [State.calling, here])
        (Unheard.trans (.event rfl rfl) (.event rfl rfl))
  | breaks clock now index urb tcpip here =>
      exact .unheard (by simp [State.calling, here])
        ((Unheard.trans (.event rfl rfl) (.event rfl rfl)).trans
          (.event rfl rfl))
  | resetEnds clock reason here uncalled ends =>
      exact .unheard (by simp [State.calling, here])
        (Unheard.trans (.same rfl) ends.unheard)
  | enters clock next here =>
      exact .called _ (by simp [State.calling, here]) rfl
  | resets clock reason here =>
      exact .reset (by simp [State.calling, here]) rfl
  | callbackTransmits ep data made next here ran =>
      exact .unheard rfl
        ((ran.unheard_since (of_decide_eq_true silent) rfl).trans (.same rfl))
  | returns written length made next here fits ends =>
      exact .unheard rfl (Unheard.trans (.same rfl) ends.unheard)
  | transmits | wakes => simp [Label.isSilent] at silent

theorem step_heard {label : Label} (silent : label.isSilent = true)
    (stepped : step dev s label = some s') : Heard s label s' :=
  (step_transition stepped).heard silent

end

def Event.called : Event → Option CallbackArgs
  | .callback args => some args
  | _ => none

def calledIn (events : List Event) : List CallbackArgs :=
  events.filterMap Event.called

@[simp] theorem calledIn_append (before events : List Event) :
    calledIn (before ++ events) = calledIn before ++ calledIn events :=
  List.filterMap_append

theorem calledIn_uncalled {before events : List Event}
    (uncalled : ∀ event ∈ events, event.called = none) :
    calledIn (before ++ events) = calledIn before := by
  have nothing : calledIn events = [] :=
    List.filterMap_eq_nil_iff.mpr uncalled
  rw [calledIn_append, nothing, List.append_nil]

section

variable {dev : UsbipDevice} {s s' : State} {label : Label}

theorem Event.called_of_unheard {event : Event}
    (unheard : event.isHeard = false) : event.called = none := by
  cases event with
  | callback => simp [Event.isHeard] at unheard
  | _ => rfl

theorem Event.called_of_transmit {event : Event}
    (transmit : event.isTransmit = true) : event.called = none := by
  cases event with
  | callback => simp [Event.isTransmit] at transmit
  | _ => rfl

theorem Unheard.calledIn (unheard : Unheard s s') :
    calledIn s'.trace = calledIn s.trace := by
  obtain ⟨events, traced, quiet⟩ := unheard
  rw [traced]
  apply calledIn_uncalled
  intro event member
  exact Event.called_of_unheard (quiet event member)

theorem Elsewhere.calledIn (elsewhere : Elsewhere s s') :
    calledIn s'.trace = calledIn s.trace := by
  obtain ⟨events, traced, transmit⟩ := elsewhere.trace
  rw [traced]
  apply calledIn_uncalled
  intro event member
  exact Event.called_of_transmit (transmit event member)

theorem step_calledIn (stepped : step dev s label = some s') :
    calledIn s'.trace = calledIn s.trace ++ (s.calling label).toList := by
  have heard (silent : label.isSilent = true) : calledIn s'.trace =
      calledIn s.trace ++ (s.calling label).toList := by
    cases step_heard silent stepped with
    | unheard uncalled quiet =>
        rw [uncalled, quiet.calledIn]
        simp
    | called args calling traced =>
        rw [calling, traced, calledIn_append]
        rfl
    | reset uncalled traced =>
        rw [uncalled, traced, calledIn_append]
        rfl
  cases label with
  | transmit | wake =>
      rw [(threadStep_elsewhere rfl stepped).calledIn]
      simp [State.calling]
  | callbackTransmit ep data =>
      cases step_transition stepped with
      | callbackTransmits _ _ made next here ran =>
          refine (calledIn_uncalled ?_).trans (List.append_nil _).symm
          exact fun event member =>
            Event.called_of_transmit (ran.transmits event member)
  | _ => exact heard rfl

end

end UsbipServer
