import UsbipServer.Refine.Programs
import UsbipServer.Refine.Stages

namespace UsbipServer

open Wire Library Mailbox

/-! The transmits of a program on one data endpoint: between two resets, those
that store do so in the order of the calls and without a gap. -/

/-! Only a reset changes the generation, and a stop is recorded. -/

structure Marks (s s' : State) : Prop where
  trace : ∃ events, s'.trace = s.trace ++ events ∧
    (.deviceStopped ∈ events → s'.device.deviceStopped = true) ∧
    (.reset ∉ events →
      s'.device.resetGeneration = s.device.resetGeneration)
  stopped : s.device.deviceStopped = true → s'.device.deviceStopped = true

section

variable {s middle s' : State}

theorem Marks.trans (early : Marks s middle) (late : Marks middle s') :
    Marks s s' := by
  obtain ⟨⟨events, traced, ends, kept⟩, stopped⟩ := early
  obtain ⟨⟨more, continued, laterEnds, laterKept⟩, laterStopped⟩ := late
  refine ⟨⟨events ++ more, ?_, ?_, ?_⟩, fun before => laterStopped (stopped before)⟩
  · rw [continued, traced, List.append_assoc]
  · intro member
    rcases List.mem_append.mp member with member | member
    · exact laterStopped (ends member)
    · exact laterEnds member
  · intro absent
    rw [laterKept fun member => absent (List.mem_append_right _ member)]
    exact kept fun member => absent (List.mem_append_left _ member)

theorem Marks.unmoved {events : List Event}
    (traced : s'.trace = s.trace ++ events)
    (running : .deviceStopped ∉ events)
    (stopped : s'.device.deviceStopped = s.device.deviceStopped)
    (generation : s'.device.resetGeneration = s.device.resetGeneration) :
    Marks s s' :=
  ⟨⟨events, traced, fun member => absurd member running,
    fun _ => generation⟩, fun before => stopped.trans before⟩

theorem Section.unstopped {mayWait : Bool} {device device' : DeviceState}
    {call : Call} {phase : CallPhase} {events : List Event}
    (ran : Section mayWait device call device' phase events) :
    .deviceStopped ∉ events := by
  cases ran with
  | waiting => simp
  | stored =>
      unfold storedEvents
      split <;> simp
  | dropped => simp

theorem Apart.marks (apart : Apart s s') : Marks s s' := by
  obtain ⟨events, traced, quiet⟩ := apart.trace
  refine .unmoved traced ?_ ?_ ?_
  · intro member
    have contrary := quiet _ member
    contradiction
  · rw [apart.device]
  · rw [apart.device]

theorem Local.marks (acted : Local s s') : Marks s s' := by
  cases acted with
  | idle => exact .unmoved (List.append_nil _).symm (by simp) rfl rfl
  | flags device data stopped generation =>
      exact .unmoved (List.append_nil _).symm (by simp) stopped generation
  | serverTransmit ep data there free ran =>
      exact .unmoved rfl (by simpa using ran.unstopped) ran.flags.2.1
        ran.generation
  | serverPost call there => exact .unmoved rfl (by simp) rfl rfl
  | transmit thread ep data idle ran =>
      exact .unmoved rfl (by simpa using ran.unstopped) ran.flags.2.1
        ran.generation
  | wake thread call waiting ran =>
      exact .unmoved rfl ran.unstopped ran.flags.2.1 ran.generation
  | post thread call stored => exact .unmoved rfl (by simp) rfl rfl
  | critical threads same =>
      exact .unmoved (List.append_nil _).symm (by simp) rfl rfl
  | control request configurationValue =>
      exact .unmoved rfl (by simp) rfl rfl
  | reset => exact ⟨⟨_, rfl, by simp, by simp⟩, fun before => before⟩
  | stop => exact ⟨⟨_, rfl, fun _ => rfl, fun _ => rfl⟩, fun _ => rfl⟩

theorem Acts.marks (acted : Acts s s') : Marks s s' := by
  rcases acted with ⟨middle, performed, apart, _⟩ | fetches
  · exact performed.marks.trans apart.marks
  · obtain ⟨ep, length, transfer, events, _, device, traced, follow⟩ :=
      fetches.fetch
    refine .unmoved traced ?_ ?_ ?_
    · intro member
      rcases List.mem_cons.mp member with equal | member
      · contradiction
      · rcases follow with ⟨reply, rfl, _⟩ | ⟨quiet, _⟩
        · simp at member
        · have contrary := quiet _ member
          contradiction
    · rw [device]
      rfl
    · rw [device]
      rfl

end

section

variable {dev : UsbipDevice} {s : State}

end

def Event.enteredOn (endpoint : Fin 16) : Event → Option Call
  | .entered call => if call.endpoint = endpoint then some call else none
  | _ => none

def Event.storedBy (endpoint : Fin 16) : Event → Option Call
  | .stored call => if call.endpoint = endpoint then some call else none
  | _ => none

def callsOn (endpoint : Fin 16) (events : List Event) : List Call :=
  events.filterMap (Event.enteredOn endpoint)

def storesOn (endpoint : Fin 16) (events : List Event) : List Call :=
  events.filterMap (Event.storedBy endpoint)

def CallPhase.waitingOn (endpoint : Fin 16) : CallPhase → List Call
  | .waiting call => if call.endpoint = endpoint then [call] else []
  | _ => []

section

variable {endpoint : Fin 16}

@[simp] theorem callsOn_append (before events : List Event) :
    callsOn endpoint (before ++ events) =
      callsOn endpoint before ++ callsOn endpoint events :=
  List.filterMap_append

@[simp] theorem storesOn_append (before events : List Event) :
    storesOn endpoint (before ++ events) =
      storesOn endpoint before ++ storesOn endpoint events :=
  List.filterMap_append

structure Event.IsApart (endpoint : Fin 16) (event : Event) : Prop where
  entered : event.enteredOn endpoint = none
  stored : event.storedBy endpoint = none
  kept : event.isReset = false

theorem Event.isApart_of_unheard {event : Event} (data : endpoint ≠ 0)
    (unheard : event.isHeard = false) : event.IsApart endpoint := by
  cases event with
  | entered call =>
      have control : call.endpoint = 0 := by simpa [Event.isHeard] using unheard
      exact ⟨by simp [Event.enteredOn, control, data.symm], rfl, rfl⟩
  | stored call =>
      have control : call.endpoint = 0 := by simpa [Event.isHeard] using unheard
      exact ⟨rfl, by simp [Event.storedBy, control, data.symm], rfl⟩
  | reset => simp [Event.isHeard] at unheard
  | _ => exact ⟨rfl, rfl, rfl⟩

end

/-- The calls on an endpoint are older ones, those that stored since the last
reset and the one that waits; no call since the reset is among the older ones.
A call that waits since before the reset finds that there was none. -/
structure InOrder (endpoint : Fin 16) (s : State) : Prop where
  order : ∃ skipped, callsOn endpoint s.trace =
    skipped ++ storesOn endpoint (since Event.isReset s.trace) ++
      (s.threads 0).call.waitingOn endpoint
  recent : callsOn endpoint (since Event.isReset s.trace) <:+
    storesOn endpoint (since Event.isReset s.trace) ++
      (s.threads 0).call.waitingOn endpoint
  stale : ∀ call, (s.threads 0).call = .waiting call →
    call.endpoint = endpoint →
    call.generation ≠ s.device.resetGeneration →
      callsOn endpoint (since Event.isReset s.trace) = [] ∧
        storesOn endpoint (since Event.isReset s.trace) = []

section

variable {dev : UsbipDevice} {s s' : State} {endpoint : Fin 16}

theorem Marks.generation {events : List Event} (marks : Marks s s')
    (traced : s'.trace = s.trace ++ events)
    (kept : ∀ event ∈ events, event.isReset = false) :
    s'.device.resetGeneration = s.device.resetGeneration := by
  obtain ⟨⟨more, again, _, same⟩, _⟩ := marks
  obtain rfl : events = more := by
    rw [traced] at again
    exact List.append_cancel_left again
  apply same
  intro member
  have contrary := kept _ member
  contradiction

theorem InOrder.apart {events : List Event} (inOrder : InOrder endpoint s)
    (traced : s'.trace = s.trace ++ events)
    (apart : ∀ event ∈ events, event.IsApart endpoint)
    (marks : Marks s s')
    (waits : ∀ call, (s'.threads 0).call = .waiting call →
      (s.threads 0).call = .waiting call)
    (waiting : (s'.threads 0).call.waitingOn endpoint =
      (s.threads 0).call.waitingOn endpoint) : InOrder endpoint s' := by
  have kept : ∀ event ∈ events, event.isReset = false :=
    fun event member => (apart event member).kept
  have none : callsOn endpoint events = [] :=
    List.filterMap_eq_nil_iff.mpr fun event member =>
      (apart event member).entered
  have calls : callsOn endpoint s'.trace = callsOn endpoint s.trace := by
    rw [traced, callsOn_append, none, List.append_nil]
  have recent : callsOn endpoint (since Event.isReset s'.trace) =
      callsOn endpoint (since Event.isReset s.trace) := by
    rw [traced, since_append _ _ _ kept, callsOn_append, none, List.append_nil]
  have stores : storesOn endpoint (since Event.isReset s'.trace) =
      storesOn endpoint (since Event.isReset s.trace) := by
    have none : storesOn endpoint events = [] :=
      List.filterMap_eq_nil_iff.mpr fun event member =>
        (apart event member).stored
    rw [traced, since_append _ _ _ kept, storesOn_append, none,
      List.append_nil]
  refine ⟨?_, ?_, ?_⟩
  · rw [calls, stores, waiting]
    exact inOrder.order
  · rw [recent, stores, waiting]
    exact inOrder.recent
  · intro call waited here old
    rw [recent, stores]
    rw [marks.generation traced kept] at old
    exact inOrder.stale call (waits call waited) here old

theorem InOrder.reset (inOrder : InOrder endpoint s)
    (traced : s'.trace = s.trace ++ [.reset])
    (waiting : (s'.threads 0).call.waitingOn endpoint =
      (s.threads 0).call.waitingOn endpoint) : InOrder endpoint s' := by
  have nothing : since Event.isReset s'.trace = [] := by
    rw [traced, since_concat]
    rfl
  have calls : callsOn endpoint (since Event.isReset s'.trace) = [] := by
    rw [nothing]
    rfl
  have stores : storesOn endpoint (since Event.isReset s'.trace) = [] := by
    rw [nothing]
    rfl
  refine ⟨?_, ?_, fun _ _ _ _ => ⟨calls, stores⟩⟩
  · obtain ⟨skipped, order⟩ := inOrder.order
    refine ⟨skipped ++ storesOn endpoint (since Event.isReset s.trace), ?_⟩
    rw [stores, waiting, traced, callsOn_append, order]
    simp [callsOn, Event.enteredOn]
  · rw [calls]
    exact List.nil_suffix

theorem InOrder.extend (events : List Event) (phase : CallPhase)
    {skipped stored : List Call} (order : callsOn endpoint s.trace =
      skipped ++ storesOn endpoint (since Event.isReset s.trace) ++ stored)
    (recent : callsOn endpoint (since Event.isReset s.trace) <:+
      storesOn endpoint (since Event.isReset s.trace) ++ stored)
    (traced : s'.trace = s.trace ++ events)
    (kept : ∀ event ∈ events, event.isReset = false)
    (place : (s'.threads 0).call = phase)
    (moved : stored ++ callsOn endpoint events =
      storesOn endpoint events ++ phase.waitingOn endpoint)
    (current : ∀ call, phase = .waiting call → call.endpoint = endpoint →
      call.generation ≠ s'.device.resetGeneration →
        callsOn endpoint (since Event.isReset s'.trace) = [] ∧
          storesOn endpoint (since Event.isReset s'.trace) = []) :
    InOrder endpoint s' := by
  refine ⟨⟨skipped, ?_⟩, ?_, ?_⟩
  · rw [traced, callsOn_append, since_append _ _ _ kept, storesOn_append,
      order, place]
    simp only [List.append_assoc, moved]
  · rw [traced, since_append _ _ _ kept, storesOn_append, callsOn_append,
      place, List.append_assoc, ← moved, ← List.append_assoc]
    obtain ⟨older, split⟩ := recent
    exact ⟨older, by rw [← List.append_assoc, split]⟩
  · intro call waits
    exact current call (place.symm.trans waits)

theorem storedEvents_kept (call : Call) :
    ∀ event ∈ storedEvents call, event.isReset = false := by
  unfold storedEvents
  split <;> simp [Event.isReset]

@[simp] theorem callsOn_storedEvents (call : Call) :
    callsOn endpoint (storedEvents call) = [] := by
  unfold storedEvents
  split <;> rfl

@[simp] theorem storesOn_storedEvents (call : Call) :
    storesOn endpoint (storedEvents call) =
      if call.endpoint = endpoint then [call] else [] := by
  unfold storedEvents
  by_cases here : call.endpoint = endpoint
  · split <;> simp [storesOn, Event.storedBy, here]
  · split <;> simp [storesOn, Event.storedBy, here]

@[simp] theorem callsOn_entered (call : Call) (events : List Event) :
    callsOn endpoint (.entered call :: events) =
      (if call.endpoint = endpoint then [call] else []) ++
        callsOn endpoint events := by
  by_cases here : call.endpoint = endpoint
  · simp [callsOn, Event.enteredOn, here]
  · simp [callsOn, Event.enteredOn, here]

theorem settled_ne_waiting (call other : Call) :
    (if call.endpoint = 0 then CallPhase.idle else .stored call) ≠
      .waiting other := by
  split <;> simp

@[simp] theorem settled_waitingOn (call : Call) :
    (if call.endpoint = 0 then CallPhase.idle else .stored call).waitingOn
      endpoint = [] := by
  split <;> rfl

theorem InOrder.sends (inOrder : InOrder endpoint s)
    (running : s.device.deviceStopped = false) {ep : Byte} {bytes : List Byte}
    (idle : (s.threads 0).call = .idle)
    (outside : (s.threads 0).inCriticalSection = false)
    (stepped : step dev s (.transmit 0 ep bytes) = some s') :
    InOrder endpoint s' := by
  obtain ⟨⟨skipped, order⟩, recent, _⟩ := inOrder
  rw [idle] at order recent
  have current : (newCall s ep bytes).generation = s.device.resetGeneration :=
    rfl
  cases step_transition stepped with
  | transmits _ _ _ _ ran =>
      rw [outside] at ran
      generalize newCall s ep bytes = call at current ran ⊢
      cases ran with
      | dropped unblocked refused =>
          obtain ⟨data, full⟩ := refused running current
          exact absurd (unblocked rfl data running) full
      | waiting =>
          refine InOrder.extend [.entered call] (.waiting call) order recent rfl
            ?_ ?_ ?_ ?_
          · simp [Event.isReset]
          · simp
          · rw [callsOn_entered]
            exact List.append_nil _
          · intro other waits _ old
            obtain rfl := CallPhase.waiting.inj waits
            exact absurd current old
      | stored =>
          refine InOrder.extend (.entered call :: storedEvents call)
            (if call.endpoint = 0 then .idle else .stored call) order recent
            rfl ?_ ?_ ?_ ?_
          · intro event member
            rcases List.mem_cons.mp member with rfl | member
            · rfl
            · exact storedEvents_kept call event member
          · simp
          · have stores :
                storesOn endpoint (.entered call :: storedEvents call) =
                  storesOn endpoint (storedEvents call) := rfl
            rw [callsOn_entered, callsOn_storedEvents, stores,
              storesOn_storedEvents, settled_waitingOn]
            rfl
          · intro other waits
            exact absurd waits (settled_ne_waiting call other)

theorem InOrder.wakes (inOrder : InOrder endpoint s)
    (running : s.device.deviceStopped = false)
    (stepped : step dev s (.wake 0) = some s') : InOrder endpoint s' := by
  obtain ⟨⟨skipped, order⟩, recent, stale⟩ := inOrder
  cases step_transition stepped with
  | wakes _ call waits ran =>
      rw [waits] at order recent
      cases ran with
      | waiting =>
          refine InOrder.extend [] (.waiting call) order recent rfl
            (by simp) (by simp) (by simp [callsOn, storesOn]) ?_
          intro other again here old
          obtain rfl := CallPhase.waiting.inj again
          have untold : (setCall (s.emit []) 0 (.waiting call)).trace =
              s.trace := List.append_nil _
          rw [untold]
          exact stale call waits here old
      | stored =>
          refine InOrder.extend (storedEvents call)
            (if call.endpoint = 0 then .idle else .stored call) order recent
            rfl (storedEvents_kept call) ?_ ?_ ?_
          · simp
          · rw [callsOn_storedEvents, storesOn_storedEvents, settled_waitingOn]
            rfl
          · intro other again
            exact absurd again (settled_ne_waiting call other)
      | dropped unblocked refused =>
          -- a reset drops it, so it is now an older one
          have old : call.generation ≠ s.device.resetGeneration := by
            intro current
            obtain ⟨data, full⟩ := refused running current
            exact full (unblocked rfl data running)
          by_cases here : call.endpoint = endpoint
          · obtain ⟨calls, stores⟩ := stale call waits here old
            refine @InOrder.extend s _ endpoint [.returned call false] .idle
              (skipped ++ [call]) [] ?_ ?_ rfl ?_ ?_ rfl ?_
            · rw [order, stores]
              simp [CallPhase.waitingOn, here]
            · rw [calls]
              exact List.nil_suffix
            · simp [Event.isReset]
            · simp
            · intro other again
              contradiction
          · have elsewhere : (CallPhase.waiting call).waitingOn endpoint = [] :=
              if_neg here
            rw [elsewhere] at order recent
            refine InOrder.extend [.returned call false] .idle order recent rfl
              ?_ ?_ rfl ?_
            · simp [Event.isReset]
            · simp
            · intro other again
              contradiction

end

section

variable {dev : UsbipDevice} {s s' : State} {endpoint : Fin 16}

/-- What the main thread passed to `usbip_device_transmit` for an endpoint. -/
def sentOn (endpoint : Fin 16) (events : List Event) : List (List Byte) :=
  (callsOn endpoint events).map Call.data

@[simp] theorem sentOn_append (before events : List Event) :
    sentOn endpoint (before ++ events) =
      sentOn endpoint before ++ sentOn endpoint events := by
  rw [sentOn, callsOn_append, List.map_append]
  rfl

def Event.calls (kind : CallbackArgs → Bool) (event : Event) : Bool :=
  event.called.any kind

theorem sentOn_since {kind : CallbackArgs → Bool} {before events : List Event}
    (other : ∀ args ∈ calledIn events, kind args = false) :
    sentOn endpoint (since (Event.calls kind) (before ++ events)) =
      sentOn endpoint (since (Event.calls kind) before) ++
        sentOn endpoint events := by
  rw [since_append, sentOn_append]
  intro event member
  cases called : event.called with
  | none => rw [Event.calls, called]; rfl
  | some args =>
      rw [Event.calls, called]
      exact other args (List.mem_filterMap.mpr ⟨event, member, called⟩)

theorem sentOn_since_called {kind : CallbackArgs → Bool}
    {before events : List Event} {args : CallbackArgs}
    (called : args ∈ calledIn events) (marked : kind args = true)
    (unsent : sentOn endpoint events = []) :
    sentOn endpoint (since (Event.calls kind) (before ++ events)) = [] := by
  obtain ⟨event, member, calls⟩ := List.mem_filterMap.mp called
  have bounds : Event.calls kind event = true := by
    rw [Event.calls, calls]
    exact marked
  rw [since_append_of_mem before ⟨event, member, bounds⟩]
  apply List.eq_nil_of_sublist_nil
  rw [← unsent]
  exact ((List.rtakeWhile_suffix _ _).sublist.filterMap _).map _

theorem sentOn_silent {label : Label}
    (data : endpoint ≠ 0) (silent : label.isSilent = true)
    (stepped : step dev s label = some s') :
    sentOn endpoint s'.trace = sentOn endpoint s.trace := by
  have none {events : List Event}
      (unsent : ∀ event ∈ events, event.enteredOn endpoint = none) :
      sentOn endpoint (s.trace ++ events) = sentOn endpoint s.trace := by
    have nothing : callsOn endpoint events = [] :=
      List.filterMap_eq_nil_iff.mpr unsent
    rw [sentOn, callsOn_append, nothing, List.append_nil, sentOn]
  cases step_heard silent stepped with
  | unheard uncalled quiet =>
      obtain ⟨events, traced, unheard⟩ := quiet
      rw [traced]
      apply none
      intro event member
      exact (Event.isApart_of_unheard data (unheard event member)).entered
  | called args calling traced =>
      rw [traced]
      exact none (by simp [Event.enteredOn])
  | reset uncalled traced =>
      rw [traced]
      exact none (by simp [Event.enteredOn])

theorem Section.callsOn_eq_nil {mayWait : Bool} {device device' : DeviceState}
    {call : Call} {phase : CallPhase} {events : List Event}
    (ran : Section mayWait device call device' phase events) :
    callsOn endpoint events = [] := by
  cases ran with
  | waiting => rfl
  | stored => exact callsOn_storedEvents call
  | dropped => rfl

theorem sentOn_wakes {thread : Nat}
    (stepped : step dev s (.wake thread) = some s') :
    sentOn endpoint s'.trace = sentOn endpoint s.trace := by
  cases step_transition stepped with
  | @wakes device phase events _ call waiting ran =>
      have traced : (setCall ({ s with device := device }.emit events) thread
          phase).trace = s.trace ++ events := rfl
      rw [traced, sentOn_append, sentOn, sentOn, ran.callsOn_eq_nil]
      simp

theorem sentOn_sends {thread : Nat}
    {ep : Byte} {bytes : List Byte}
    (stepped : step dev s (.transmit thread ep bytes) = some s') :
    sentOn endpoint s'.trace = sentOn endpoint s.trace ++
      if epMasked ep = endpoint then [bytes] else [] := by
  cases step_transition stepped with
  | @transmits device phase events _ _ _ idle ran =>
      have traced : (setCall ({ s with calls := s.calls + 1, device := device
          }.emit (.entered (newCall s ep bytes) :: events)) thread phase).trace =
          s.trace ++ .entered (newCall s ep bytes) :: events := rfl
      rw [traced, sentOn_append]
      congr 1
      rw [sentOn, callsOn_entered, ran.callsOn_eq_nil, List.append_nil]
      have here : (newCall s ep bytes).endpoint = epMasked ep := rfl
      rw [here]
      split <;> rfl

end

namespace Program

variable {Statics Input : Type} {program : Program Statics Input}
  {inside : Statics → Bool} {composite next : Composite Statics}
  {endpoint : Fin 16}

/-- The callbacks of the program only answer control requests. -/
def OnlyAnswers (program : Program Statics Input) : Prop :=
  ∀ input args statics reaction,
    program.callback input args statics = some reaction →
      ∀ transmit ∈ reaction.transmits, epMasked transmit.1 = 0

theorem Reachable.answers (reachable : program.Reachable composite)
    (answers : program.OnlyAnswers) :
    ∀ transmit ∈ composite.transmits, epMasked transmit.1 = 0 := by
  refine reachable.invariant (P := fun composite =>
    ∀ transmit ∈ composite.transmits, epMasked transmit.1 = 0) ?_ ?_
  · simp [initial]
  · intro before after _ earlier moves
    cases moves with
    | called clock input args reaction _ _ handled =>
        exact answers input args before.statics reaction handled
    | transmits ep data rest left =>
        intro transmit member
        apply earlier transmit
        rw [left]
        exact List.mem_cons_of_mem _ member
    | _ => exact earlier

theorem inOrder_silent {s s' : State} {label : Label} {dev : UsbipDevice}
    (reachable : UsbipServer.Reachable dev s) (data : endpoint ≠ 0)
    (inOrder : InOrder endpoint s) (silent : label.isSilent = true)
    (stepped : UsbipServer.step dev s label = some s') :
    InOrder endpoint s' := by
  have marks := (step_acts (reachable_tracked reachable).sound stepped).marks
  -- only `post` and the critical section change a thread here
  have thread : (s'.threads 0).call = (s.threads 0).call ∨
      ((s'.threads 0).call = .idle ∧
        ∃ call, (s.threads 0).call = .stored call) := by
    by_cases own : label.owner = some (.thread 0)
    · cases step_transition stepped with
      | threadPosts number call stored =>
          obtain rfl : number = 0 := by simpa [Label.owner] using own
          exact .inr ⟨by simp, call, stored⟩
      | locks number _ idle | unlocks number _ idle =>
          obtain rfl : number = 0 := by simpa [Label.owner] using own
          exact .inl (by simp [idle])
      | transmits | wakes => simp [Label.isSilent] at silent
      | _ => simp [Label.owner] at own
    · exact .inl (congrArg Thread.call (step_sameFor own stepped))
  have waits : ∀ call, (s'.threads 0).call = .waiting call →
      (s.threads 0).call = .waiting call := by
    intro call waited
    rcases thread with same | ⟨idle, _⟩
    · rw [← same]
      exact waited
    · rw [idle] at waited
      contradiction
  have waiting : (s'.threads 0).call.waitingOn endpoint =
      (s.threads 0).call.waitingOn endpoint := by
    rcases thread with same | ⟨idle, call, stored⟩
    · rw [same]
    · rw [idle, stored]
      rfl
  cases step_heard silent stepped with
  | unheard uncalled quiet =>
      obtain ⟨events, traced, unheard⟩ := quiet
      refine inOrder.apart traced ?_ marks waits waiting
      intro event member
      exact Event.isApart_of_unheard data (unheard event member)
  | called args calling traced =>
      refine inOrder.apart traced ?_ marks waits waiting
      intro event member
      rw [List.mem_singleton.mp member]
      exact ⟨rfl, rfl, rfl⟩
  | reset uncalled traced => exact inOrder.reset traced waiting

theorem Moves.inOrder (moves : program.Moves composite next)
    (reachable : program.Reachable composite)
    (disciplined : program.Disciplined inside)
    (answers : program.OnlyAnswers) (data : endpoint ≠ 0)
    (running : composite.server.device.deviceStopped = false)
    (earlier : InOrder endpoint composite.server) :
    InOrder endpoint next.server := by
  have silent {label : Label} {s : State}
      (stepped : UsbipServer.step program.device composite.server label =
        some s) (silent : label.isSilent = true) : InOrder endpoint s :=
    inOrder_silent reachable.server data earlier silent stepped
  cases moves with
  | works => exact earlier
  | server label outside _ stepped =>
      cases label with
      | wake thread =>
          by_cases main : thread = 0
          · subst main
            exact earlier.wakes running stepped
          · cases step_transition stepped with
            | wakes _ call waiting => simp [reachable.others main] at waiting
      | callbackTransmit | callbackReturn | transmit | enter | exit =>
          simp [Label.isOutside] at outside
      | _ => exact silent stepped rfl
  | called _ _ _ _ _ stepped => exact silent stepped rfl
  | transmits ep bytes rest left stepped =>
      have control : epMasked ep = 0 :=
        reachable.answers answers (ep, bytes) (by simp [left])
      exact silent stepped (decide_eq_true control)
  | returns _ stepped => exact silent stepped rfl
  | enters _ _ _ _ stepped => exact silent stepped rfl
  | exits _ _ _ _ stepped => exact silent stepped rfl
  | sends input ep bytes statics idle acts stepped =>
      have outside := reachable.isInside disciplined
      rw [(disciplined.transmit _ _ _ _ _ _ acts).1] at outside
      exact earlier.sends running idle outside stepped
  | stops _ _ _ _ stepped => exact silent stepped rfl

theorem Reachable.inOrder (reachable : program.Reachable composite)
    (disciplined : program.Disciplined inside)
    (answers : program.OnlyAnswers) (data : endpoint ≠ 0)
    (running : composite.server.device.deviceStopped = false) :
    InOrder endpoint composite.server := by
  revert running
  refine reachable.invariant (P := fun composite =>
    composite.server.device.deviceStopped = false →
      InOrder endpoint composite.server) ?_ ?_
  · intro _
    exact ⟨⟨[], rfl⟩, List.nil_suffix,
      by simp [initial, UsbipServer.initial]⟩
  · intro before after reached earlier moves running
    have still : before.server.device.deviceStopped = false := by
      rcases moves.server_step with same | ⟨label, stepped⟩
      · rw [← same]
        exact running
      · have marks :=
          (step_acts (reachable_tracked reached.server).sound stepped).marks
        rw [← Bool.not_eq_true]
        intro stopped
        rw [marks.stopped stopped] at running
        contradiction
    exact moves.inOrder reached disciplined answers data still (earlier still)

/-- A step and the events it adds as the program sees them: the server's own
work, a callback or an action of the main thread. -/
inductive Seen (program : Program Statics Input) (inside : Statics → Bool)
    (composite next : Composite Statics) (events : List Event) : Prop
  | still (statics : next.statics = composite.statics)
      (called : calledIn events = [])
      (sent : ∀ endpoint, endpoint ≠ 0 → sentOn endpoint events = [])
  | called (input : Input) (args : CallbackArgs) (reaction : Reaction Statics)
      (handled : program.callback input args composite.statics = some reaction)
      (outside : inside composite.statics = false)
      (statics : next.statics = reaction.statics)
      (called : calledIn events = [args])
      (sent : ∀ endpoint, endpoint ≠ 0 → sentOn endpoint events = [])
  | acted (input : Input) (action : Action Statics)
      (acts : program.main input composite.server.tcpip.stopServer
        composite.statics = some action)
      (statics : action.next = some next.statics)
      (called : calledIn events = [])
      (sent : ∀ endpoint, endpoint ≠ 0 →
        sentOn endpoint events = action.sends endpoint)

theorem Moves.traced (moves : program.Moves composite next)
    (reachable : program.Reachable composite) :
    ∃ events, next.server.trace = composite.server.trace ++ events := by
  rcases moves.server_step with same | ⟨label, stepped⟩
  · exact ⟨[], by rw [same, List.append_nil]⟩
  · obtain ⟨events, traced, _⟩ :=
      (step_acts (reachable_tracked reachable.server).sound stepped).marks.trace
    exact ⟨events, traced⟩

theorem Moves.seen (moves : program.Moves composite next)
    (reachable : program.Reachable composite)
    (disciplined : program.Disciplined inside)
    (answers : program.OnlyAnswers) {events : List Event}
    (traced : next.server.trace = composite.server.trace ++ events) :
    program.Seen inside composite next events := by
  have called {label : Label}
      (stepped : UsbipServer.step program.device composite.server label =
        some next.server) :
      calledIn events = (composite.server.calling label).toList := by
    have all := step_calledIn stepped
    rw [traced, calledIn_append] at all
    exact List.append_cancel_left all
  have sent {endpoint : Fin 16} {sends : List (List Byte)}
      (all : sentOn endpoint next.server.trace =
        sentOn endpoint composite.server.trace ++ sends) :
      sentOn endpoint events = sends := by
    rw [traced, sentOn_append] at all
    exact List.append_cancel_left all
  have unsent {label : Label} (silent : label.isSilent = true)
      (stepped : UsbipServer.step program.device composite.server label =
        some next.server) (endpoint : Fin 16) (data : endpoint ≠ 0) :
      sentOn endpoint events = [] :=
    sent ((sentOn_silent data silent stepped).trans (List.append_nil _).symm)
  cases moves with
  | server label outside calling stepped =>
      refine .still rfl (by rw [called stepped, calling]; rfl) ?_
      intro endpoint data
      cases label with
      | wake thread =>
          exact sent ((sentOn_wakes stepped).trans (List.append_nil _).symm)
      | callbackTransmit | callbackReturn | transmit | enter | exit =>
          simp [Label.isOutside] at outside
      | _ => exact unsent rfl stepped endpoint data
  | called clock input args reaction calling stepped handled =>
      refine .called input args reaction handled
        (reachable.called_outside disciplined calling stepped) rfl ?_
        (unsent rfl stepped)
      rw [called stepped, calling]
      rfl
  | transmits ep bytes rest left stepped =>
      have control : epMasked ep = 0 :=
        reachable.answers answers (ep, bytes) (by simp [left])
      have silent : (Label.callbackTransmit ep bytes).isSilent = true :=
        decide_eq_true control
      exact .still rfl (called stepped) (unsent silent stepped)
  | returns done stepped =>
      exact .still rfl (called stepped) (unsent rfl stepped)
  | works input statics idle acts =>
      have nothing : events = [] := List.self_eq_append_right.mp traced
      rw [nothing]
      exact .acted input _ acts rfl rfl fun _ _ => rfl
  | enters input statics idle acts stepped =>
      exact .acted input _ acts rfl (called stepped) (unsent rfl stepped)
  | exits input statics idle acts stepped =>
      exact .acted input _ acts rfl (called stepped) (unsent rfl stepped)
  | sends input ep bytes statics idle acts stepped =>
      exact .acted input _ acts rfl (called stepped)
        fun endpoint _ => sent (sentOn_sends stepped)
  | stops input statics idle acts stepped =>
      exact .acted input _ acts rfl (called stepped) (unsent rfl stepped)

theorem Reachable.seen {P : Composite Statics → Prop}
    (reachable : program.Reachable composite)
    (disciplined : program.Disciplined inside)
    (answers : program.OnlyAnswers) (base : P program.initial)
    (preserved : ∀ before after events,
      after.server.trace = before.server.trace ++ events → P before →
      program.Seen inside before after events → P after) :
    P composite := by
  refine reachable.invariant base ?_
  intro before after reached earlier moves
  obtain ⟨events, traced⟩ := moves.traced reached
  exact preserved before after events traced earlier
    (moves.seen reached disciplined answers traced)

end Program

end UsbipServer
