import UsbipServer.Refine.Mailbox

namespace UsbipServer

open Wire Library

/-- A transmit that stored its data and is about to write the event and to
return `true`. -/
def Posting (s : State) (call : Call) : Prop :=
  (∃ thread, (s.threads thread).call = .stored call) ∨
    s.phase.posting = some call

theorem CallPhase.posting_eq_some {phase : CallPhase} {call : Call} :
    phase.posting = some call ↔ phase = .stored call := by
  cases phase <;> simp [CallPhase.posting]

theorem Posting.iff_of_threads {s s' : State} {call : Call}
    (threads : ∀ thread, (s'.threads thread).call = (s.threads thread).call)
    (phase : s'.phase.posting = s.phase.posting) :
    Posting s' call ↔ Posting s call := by
  simp only [Posting, threads, phase]

theorem posting_setCall {s start : State} {thread : Nat} {phase : CallPhase}
    {other : Call} (threads : start.threads = s.threads)
    (free : start.phase = s.phase)
    (before : ∀ call, (s.threads thread).call ≠ .stored call) :
    Posting (setCall start thread phase) other ↔
      Posting s other ∨ phase = .stored other := by
  simp only [Posting, setCall, threads, free]
  constructor
  · rintro (⟨place, stored⟩ | server)
    · by_cases here : place = thread
      · subst here
        simp only [Function.update_self] at stored
        exact .inr stored
      · rw [Function.update_of_ne here] at stored
        exact .inl (.inl ⟨place, stored⟩)
    · exact .inl (.inr server)
  · rintro ((⟨place, stored⟩ | server) | stored)
    · have elsewhere : place ≠ thread := by
        rintro rfl
        exact before other stored
      refine .inl ⟨place, ?_⟩
      rw [Function.update_of_ne elsewhere]
      exact stored
    · exact .inr server
    · exact .inl ⟨thread, by simpa using stored⟩

/-- The locked section of a transmit stores exactly when its call returns
`true` or is about to. -/
theorem Section.stored_iff {mayWait : Bool} {device device' : DeviceState}
    {call : Call} {phase : CallPhase} {events : List Event}
    (ran : Section mayWait device call device' phase events) (other : Call) :
    Event.stored other ∈ events ↔
      Event.returned other true ∈ events ∨ phase = .stored other := by
  cases ran with
  | waiting => simp
  | stored =>
      by_cases control : call.endpoint = 0
      · simp [storedEvents, control]
      · simp [storedEvents, control, eq_comm]
  | dropped => simp

/-- On endpoint 0 a transmit returns without writing the event. -/
theorem Section.posting_data {mayWait : Bool} {device device' : DeviceState}
    {call other : Call} {phase : CallPhase} {events : List Event}
    (ran : Section mayWait device call device' phase events)
    (posting : phase = .stored other) : other.endpoint ≠ 0 := by
  cases ran with
  | waiting => contradiction
  | stored =>
      split at posting
      · contradiction
      next data =>
        obtain rfl := CallPhase.stored.inj posting
        exact data
  | dropped => contradiction

theorem Section.filled {mayWait : Bool} {device device' : DeviceState}
    {call : Call} {phase : CallPhase} {events : List Event} {endpoint : Fin 16}
    (ran : Section mayWait device call device' phase events) (data : endpoint ≠ 0)
    (empty : device.endpointData endpoint = []) :
    device'.endpointData endpoint = [] ∨ phase = .stored call := by
  cases ran with
  | waiting => exact .inl empty
  | stored =>
      by_cases same : endpoint = call.endpoint
      · subst same
        exact .inr (if_neg data)
      · left
        simpa [Function.update_of_ne same] using empty
  | dropped => exact .inl empty

inductive Posts (s s' : State) : Prop
  | same {events : List Event} (traced : s'.trace = s.trace ++ events)
      (told : ∀ call, Event.stored call ∉ events ∧
        Event.returned call true ∉ events)
      (posting : ∀ call, Posting s' call ↔ Posting s call)
  | ran {mayWait : Bool} {call : Call} {phase : CallPhase}
      {early events : List Event} (traced : s'.trace = s.trace ++ events)
      (ran : Section mayWait s.device call s'.device phase early)
      (told : ∀ other, Event.stored other ∈ events ↔
        Event.returned other true ∈ events ∨ phase = .stored other)
      (posting : ∀ other, Posting s' other ↔
        Posting s other ∨ phase = .stored other)
  | posted {call : Call} {events : List Event}
      (traced : s'.trace = s.trace ++ events)
      (told : ∀ other, Event.stored other ∉ events ∧
        (Event.returned other true ∈ events ↔ other = call))
      (event : s'.device.eventFd = true) (before : Posting s call)
      (left : ∀ other, Posting s' other → Posting s other)
      (kept : ∀ other, other ≠ call → Posting s other → Posting s' other)

section

variable {dev : UsbipDevice} {s s' : State}

theorem Posts.unmoved {events : List Event}
    (traced : s'.trace = s.trace ++ events)
    (told : ∀ call, Event.stored call ∉ events ∧
      Event.returned call true ∉ events)
    (threads : ∀ thread, (s'.threads thread).call = (s.threads thread).call)
    (phase : s'.phase.posting = s.phase.posting) : Posts s s' :=
  .same traced told fun _ => Posting.iff_of_threads threads phase

theorem Local.posts (acted : Local s s') : Posts s s' := by
  have resting : ∀ {state : State}, state.trace = s.trace →
      (∀ thread, (state.threads thread).call = (s.threads thread).call) →
      state.phase = s.phase → Posts s state := by
    intro state traced threads phase
    have extended : state.trace = s.trace ++ [] := by simp [traced]
    exact .unmoved extended (by simp) threads (by rw [phase])
  cases acted with
  | idle => exact resting rfl (fun _ => rfl) rfl
  | flags => exact resting rfl (fun _ => rfl) rfl
  | @serverTransmit ep data device phase events there free ran posting =>
      refine .ran rfl ran ?_ ?_
      · intro other
        simpa using ran.stored_iff other
      · intro other
        simp only [Posting, State.goto, State.emit, free, posting,
          CallPhase.posting_eq_some]
        simp
  | serverPost call there posting free =>
      refine .posted rfl (by simp) rfl (.inr posting) ?_ ?_
      · rintro other (thread | server)
        · exact .inl thread
        · have contrary : there.posting = some other := server
          rw [free] at contrary
          contradiction
      · rintro other different (thread | server)
        · exact .inl thread
        · rw [posting] at server
          exact absurd (Option.some.inj server).symm different
  | transmit thread ep data idle ran =>
      refine .ran rfl ran ?_ ?_
      · intro other
        simpa using ran.stored_iff other
      · intro other
        exact posting_setCall rfl rfl (by simp [idle])
  | wake thread call waiting ran =>
      refine .ran rfl ran ran.stored_iff ?_
      intro other
      exact posting_setCall rfl rfl (by simp [waiting])
  | post thread call stored =>
      refine .posted rfl (by simp) rfl (.inl ⟨thread, stored⟩) ?_ ?_
      · rintro other (⟨place, waiting⟩ | server)
        · by_cases here : place = thread
          · subst here
            simp at waiting
          · simp only [setCall, State.emit] at waiting
            rw [Function.update_of_ne here] at waiting
            exact .inl ⟨place, waiting⟩
        · exact .inr server
      · rintro other different (⟨place, waiting⟩ | server)
        · by_cases here : place = thread
          · subst here
            rw [stored] at waiting
            exact absurd (CallPhase.stored.inj waiting).symm different
          · refine .inl ⟨place, ?_⟩
            simp only [setCall, State.emit]
            rw [Function.update_of_ne here]
            exact waiting
        · exact .inr server
  | critical threads same => exact resting rfl same rfl
  | control => exact .unmoved rfl (by simp) (fun _ => rfl) rfl
  | reset => exact .unmoved rfl (by simp) (fun _ => rfl) rfl
  | stop => exact .unmoved rfl (by simp) (fun _ => rfl) rfl

theorem quiet_apart {events : List Event}
    (quiet : ∀ event ∈ events, event.isQuiet = true) (call : Call) :
    Event.stored call ∉ events ∧ Event.returned call true ∉ events := by
  constructor
  · intro member
    have silent := quiet _ member
    simp [Event.isQuiet, Event.isSession] at silent
  · intro member
    have silent := quiet _ member
    simp [Event.isQuiet, Event.isSession] at silent

theorem Posts.apart {middle : State} (posts : Posts s middle)
    (apart : Apart middle s')
    (phase : s'.phase.posting = middle.phase.posting) : Posts s s' := by
  obtain ⟨device, threads, _, _, more, continued, quiet⟩ := apart
  have silent := quiet_apart quiet
  have moved : ∀ call, Posting s' call ↔ Posting middle call := by
    intro call
    refine Posting.iff_of_threads ?_ phase
    intro thread
    rw [threads]
  cases posts with
  | @same events traced told posting =>
      have extended : s'.trace = s.trace ++ (events ++ more) := by
        rw [continued, traced, List.append_assoc]
      refine .same extended ?_ ?_
      · intro call
        simp [told call, silent call]
      · intro call
        rw [moved, posting]
  | @ran _ call phase early events traced ran told posting =>
      have extended : s'.trace = s.trace ++ (events ++ more) := by
        rw [continued, traced, List.append_assoc]
      rw [← device] at ran
      refine .ran extended ran ?_ ?_
      · intro other
        simp only [List.mem_append, silent other, or_false]
        exact told other
      · intro other
        rw [moved, posting]
  | @posted call events traced told event before left kept =>
      have extended : s'.trace = s.trace ++ (events ++ more) := by
        rw [continued, traced, List.append_assoc]
      refine .posted extended ?_ ?_ before ?_ ?_
      · intro other
        simp only [List.mem_append, silent other, or_false]
        exact told other
      · rw [device]
        exact event
      · intro other posting
        exact left other ((moved other).mp posting)
      · intro other different posting
        exact (moved other).mpr (kept other different posting)

theorem Acts.posts (acted : Acts s s') : Posts s s' := by
  rcases acted with ⟨middle, performed, apart, phase⟩ | fetches
  · exact performed.posts.apart apart phase
  · obtain ⟨before, after, threads, _, ep, length, transfer, events, _, _,
      traced, follow⟩ := fetches
    refine .unmoved traced ?_ ?_ (after.trans before.symm)
    · intro call
      rcases follow with ⟨reply, rfl, _⟩ | ⟨quiet, _⟩
      · simp
      · simpa using quiet_apart quiet call
    · intro thread
      rw [threads]

def PostedWhenStored (s : State) : Prop :=
  ∀ call, Event.stored call ∈ s.trace ↔
    Event.returned call true ∈ s.trace ∨ Posting s call

theorem PostedWhenStored.step (earlier : PostedWhenStored s)
    (posts : Posts s s') : PostedWhenStored s' := by
  intro other
  have before := earlier other
  cases posts with
  | same traced told posting =>
      rw [traced, List.mem_append, List.mem_append, posting]
      simpa [told other] using before
  | ran traced ran told posting =>
      rw [traced, List.mem_append, List.mem_append, posting, before, told]
      exact or_or_or_comm
  | @posted call events traced told event posting left kept =>
      rw [traced]
      simp only [List.mem_append, told other, or_false]
      constructor
      · intro stored
        by_cases same : other = call
        · exact .inl (.inr same)
        · rcases before.mp stored with returned | waiting
          · exact .inl (.inl returned)
          · exact .inr (kept other same waiting)
      · rintro ((returned | rfl) | waiting)
        · exact before.mpr (.inl returned)
        · exact before.mpr (.inr posting)
        · exact before.mpr (.inr (left other waiting))

theorem reachable_postedWhenStored (reachable : Reachable dev s) :
    PostedWhenStored s := by
  refine reachable.device_invariant ?_ ?_
  · intro call
    simp [initial, Posting, Phase.posting]
  · intro state next _ earlier acted
    exact earlier.step acted.posts

theorem reachable_posting_data (reachable : Reachable dev s) {call : Call}
    (posting : Posting s call) : call.endpoint ≠ 0 := by
  revert call
  refine reachable.device_invariant
    (P := fun s => ∀ {call}, Posting s call → call.endpoint ≠ 0) ?_ ?_
  · intro call posting
    simp [initial, Posting, Phase.posting] at posting
  · intro state next _ earlier acted call posting
    cases acted.posts with
    | same traced told same => exact earlier ((same call).mp posting)
    | ran traced ran told changed =>
        rcases (changed call).mp posting with before | stored
        · exact earlier before
        · exact ran.posting_data stored
    | posted traced told event before left => exact earlier (left call posting)

/-- The event is set, or a call is about to write it. -/
def Signalled (s : State) : Prop :=
  s.device.eventFd = true ∨ ∃ call, Posting s call

theorem Moves.signalled (moves : Moves s s')
    (event : s.device.eventFd = true → s'.device.eventFd = true)
    (before : Signalled s) : Signalled s' := by
  rcases before with set | ⟨call, posting⟩
  · exact .inl (event set)
  · cases (show Acts s s' from .inl moves).posts with
    | same traced told same => exact .inr ⟨call, (same call).mpr posting⟩
    | ran traced ran told changed =>
        exact .inr ⟨call, (changed call).mpr (.inl posting)⟩
    | posted traced told set => exact .inl set

theorem Local.filled (acted : Local s s') {endpoint : Fin 16}
    (data : endpoint ≠ 0) (empty : s.device.endpointData endpoint = []) :
    s'.device.endpointData endpoint = [] ∨ ∃ call, Posting s' call := by
  cases acted with
  | idle => exact .inl empty
  | flags device same => exact .inl (by rw [same]; exact empty)
  | serverTransmit ep bytes there free ran posting =>
      rcases ran.filled data empty with still | stored
      · exact .inl still
      · refine .inr ⟨newCall s ep bytes, .inr ?_⟩
        exact posting.trans (CallPhase.posting_eq_some.mpr stored)
  | serverPost => exact .inl empty
  | transmit thread ep bytes idle ran =>
      rcases ran.filled data empty with still | stored
      · exact .inl still
      · refine .inr ⟨newCall s ep bytes, .inl ⟨thread, ?_⟩⟩
        simpa using stored
  | wake thread call waiting ran =>
      rcases ran.filled data empty with still | stored
      · exact .inl still
      · refine .inr ⟨call, .inl ⟨thread, ?_⟩⟩
        simpa using stored
  | post => exact .inl empty
  | critical => exact .inl empty
  | control =>
      left
      simpa [DeviceState.forgetAnswer, Function.update_of_ne data] using empty
  | reset => exact .inl rfl
  | stop => exact .inl rfl

theorem Moves.filled (moves : Moves s s') {endpoint : Fin 16}
    (data : endpoint ≠ 0) (empty : s.device.endpointData endpoint = []) :
    s'.device.endpointData endpoint = [] ∨ Signalled s' := by
  obtain ⟨middle, performed, apart, phase⟩ := moves
  rcases performed.filled data empty with still | ⟨call, posting⟩
  · exact .inl (by rw [apart.device]; exact still)
  · refine .inr (.inr ⟨call, (Posting.iff_of_threads ?_ phase).mpr posting⟩)
    intro thread
    rw [apart.threads]

end

end UsbipServer
