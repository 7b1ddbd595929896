import UsbipServer.Condvar
import UsbipServer.Refine.Owners
import UsbipServer.Refine.Stages

namespace UsbipServer

open Wire Library

/-! No wake-up of a waiting transmit is lost: whoever sleeps without having been
woken has to. -/

/-- Data stays where it is and the device keeps running, so a waiting call goes
on waiting. -/
structure KeepsFull (device next : DeviceState) : Prop where
  stopped : next.deviceStopped = device.deviceStopped
  full : ∀ endpoint, endpoint ≠ 0 → device.endpointData endpoint ≠ [] →
    next.endpointData endpoint ≠ []

section

variable {dev : UsbipDevice} {s s' : State} {label : Label}

namespace KeepsFull

theorem of_eq {device next : DeviceState}
    (stopped : next.deviceStopped = device.deviceStopped)
    (data : next.endpointData = device.endpointData) :
    KeepsFull device next := by
  refine ⟨stopped, ?_⟩
  intro endpoint _ full
  rw [data]
  exact full

end KeepsFull

theorem Section.keepsFull {mayWait : Bool} {device device' : DeviceState}
    {call : Call} {phase : CallPhase} {events : List Event}
    (ran : Section mayWait device call device' phase events) :
    KeepsFull device device' := by
  cases ran with
  | waiting | dropped => exact .of_eq rfl rfl
  | stored running current room =>
      refine ⟨rfl, ?_⟩
      intro endpoint data full
      -- the endpoint that is written to was empty, or is endpoint 0
      have other : endpoint ≠ call.endpoint := by
        rintro rfl
        rcases room with control | empty
        · exact data control
        · exact full empty
      simpa [Function.update_of_ne other] using full

theorem DeviceState.fetch_keepsFull {device : DeviceState} {ep : Byte}
    {maxLength : Nat}
    (quiet : device.fetchBroadcasts ep maxLength = false) :
    KeepsFull device (device.usbipDeviceFetchEpData ep maxLength).2 := by
  refine ⟨rfl, ?_⟩
  intro endpoint _ full
  by_cases same : endpoint = epMasked ep
  · subst same
    exact List.isEmpty_eq_false_iff.mp quiet
  · rw [fetched_other same]
    exact full

theorem State.controlled_keepsFull (s : State) (request : Request) :
    KeepsFull s.device (s.controlled request).device := by
  refine ⟨rfl, ?_⟩
  intro endpoint data full
  simpa [State.controlled, DeviceState.forgetAnswer,
    Function.update_of_ne data] using full

/-- Only a broadcast empties an endpoint or stops the device. -/
theorem step_keepsFull (quiet : label.broadcasts s = false)
    (stepped : step dev s label = some s') :
    KeepsFull s.device s'.device := by
  have fetched : ∀ {clock now index urb}, label = .server clock →
      s.phase = .pass now index → s.pendingUrbs[index]? = some urb →
      urb.isochronous = false →
      (s.endpoints true urb.number).nextPollUs ≤ now →
      KeepsFull s.device (s.device.usbipDeviceFetchEpData urb.ep.toUInt8
        urb.transferBufferLength.toNat).2 := by
    rintro clock now index urb rfl here filed plain due
    have late : ¬ now < urb.dueUs s.endpoints := by
      simpa [PendingUrb.dueUs, plain] using due
    apply DeviceState.fetch_keepsFull
    simpa [Label.broadcasts, State.broadcasts, here, filed, plain, late]
      using quiet
  cases step_transition stepped with
  | submits tcpip command here imported running received plain ends =>
      exact .of_eq (by rw [ends.device]; rfl) (by rw [ends.device]; rfl)
  | submitsIso tcpip command here imported running received paced ends =>
      exact .of_eq (by rw [ends.device]; rfl) (by rw [ends.device]; rfl)
  | controlAnswers _ request _ here | controlCalls _ request here =>
      exact s.controlled_keepsFull request
  | controls clock request supported here action ends =>
      rw [ends.device]
      exact s.controlled_keepsFull request
  | answers clock request data here ran ends =>
      rw [ends.device]
      exact ran.keepsFull
  | fetches clock request supported answered handled here =>
      have loud : s.broadcasts = true := by
        simp [State.broadcasts, here, DeviceState.fetchBroadcasts,
          DeviceState.usbipDeviceFetchEpData, epMasked]
      rw [Label.broadcasts, loud] at quiet
      contradiction
  | overflows clock request here full ends =>
      exact .of_eq (by rw [ends.device]) (by rw [ends.device])
  | collects clock now index urb here filed isochronous due ends =>
      exact .of_eq (by rw [ends.device]) (by rw [ends.device])
  | skips _ _ _ _ here filed plain due | completes _ _ _ _ _ here filed plain due
  | breaks _ _ _ _ _ here filed plain due =>
      exact fetched rfl here filed plain due
  | resets _ _ here | stops _ here =>
      simp [Label.broadcasts, State.broadcasts, here] at quiet
  | resetEnds clock reason here uncalled ends =>
      exact .of_eq (by rw [ends.device]; rfl) (by rw [ends.device]; rfl)
  | returns written length made next here fits ends =>
      exact .of_eq (by rw [ends.device]) (by rw [ends.device])
  | callbackTransmits ep data made next here ran => exact ran.keepsFull
  | transmits thread ep data idle ran => exact ran.keepsFull
  | wakes thread call waiting ran => exact ran.keepsFull
  | _ => exact .of_eq rfl rfl

end

section

variable {dev : UsbipDevice} {locked next : Locked} {thread : Nat}

theorem Label.broadcasts_mutex {s : State} {label : Label}
    (loud : label.broadcasts s = true) : label.mutex s = some .epAccess := by
  cases label with
  | server clock =>
      simp only [Label.broadcasts, State.broadcasts] at loud
      simp only [Label.mutex, State.serverMutex]
      split at loud
      next here => rw [here]
      next here => rw [here]
      next here => rw [here]
      next here =>
        rw [here]
        split at loud
        · contradiction
        next urb filed =>
          split at loud
          · contradiction
          next due =>
            simp only
            rw [filed]
            exact if_neg due
      · contradiction
  | _ => contradiction

theorem goto_asleep {actor : Owner} {stage : Stage}
    (awake : stage ≠ .sleeps)
    (asleep : (locked.goto actor stage).stage (.thread thread) = .sleeps) :
    locked.stage (.thread thread) = .sleeps ∧ actor ≠ .thread thread := by
  have different : Owner.thread thread ≠ actor := by
    rintro rfl
    rw [goto_self] at asleep
    exact awake asleep
  rw [goto_other different] at asleep
  exact ⟨asleep, different.symm⟩

theorem sectionDone_state (owner : Owner) (mutex : Mutex) (s : State)
    (locked : Locked) : (sectionDone owner mutex s locked).state = s := by
  cases mutex <;> rfl

/-- The thread slept before the step and did not make it, or it fell asleep at
the end of a section of its own. -/
inductive Slumber (dev : UsbipDevice) (thread : Nat) (locked : Locked)
    (broadcast : Bool) (next : Locked) : Prop
  | apart (asleep : locked.stage (.thread thread) = .sleeps)
      (same : next.state = locked.state)
  | stepped (asleep : locked.stage (.thread thread) = .sleeps) (label : Label)
      (other : label.owner ≠ some (.thread thread))
      (moved : step dev locked.state label = some next.state)
      (loud : label.broadcasts locked.state = true → broadcast = true)
  | slept (label : Label)
      (own : label.owner = some (.thread thread))
      (moved : step dev locked.state label = some next.state)
      (waits : next.state.waitsForFetch (.thread thread) = true)

theorem lockStep_slumber {label : LockLabel} (coherent : Coherent locked)
    (stepped : lockStep dev locked label = some next)
    (asleep : next.stage (.thread thread) = .sleeps) :
    Slumber dev thread locked (label.broadcasts locked) next := by
  cases label with
  | request label =>
      simp only [lockStep] at stepped
      split at stepped
      · contradiction
      · split at stepped
        · obtain rfl := Option.some.inj stepped
          exact .apart (goto_asleep (by simp) asleep).1 rfl
        · contradiction
  | acquire owner =>
      simp only [lockStep] at stepped
      split at stepped
      · split at stepped
        · contradiction
        · split at stepped
          · obtain rfl := Option.some.inj stepped
            exact .apart (goto_asleep (by simp) asleep).1 rfl
          · contradiction
      · contradiction
  | run owner =>
      simp only [lockStep] at stepped
      split at stepped
      next label held =>
        split at stepped
        next mutex s needed moved =>
          obtain rfl := Option.some.inj stepped
          have own := (coherent.taking owner label (.inr held)).own
          have state : (sectionDone owner mutex s locked).state = s :=
            sectionDone_state owner mutex s locked
          by_cases same : owner = .thread thread
          · subst same
            refine .slept label own (by rw [state]; exact moved) ?_
            rw [state]
            cases mutex with
            | epAccess =>
                simp only [sectionDone, goto_self] at asleep
                split at asleep
                next waits => exact waits
                · contradiction
            | receive =>
                simp only [sectionDone, goto_self] at asleep
                contradiction
          · have before : (sectionDone owner mutex s locked).stage
                (.thread thread) = locked.stage (.thread thread) := by
              cases mutex <;> exact goto_other (Ne.symm same)
            refine .stepped (before.symm.trans asleep) label ?_ ?_ ?_
            · rw [own]
              exact fun contrary => same (Option.some.inj contrary)
            · rw [state]
              exact moved
            · intro loud
              simpa [LockLabel.broadcasts, held] using loud
        · contradiction
      · contradiction
  | wakeup other =>
      simp only [lockStep] at stepped
      split at stepped
      · obtain rfl := Option.some.inj stepped
        exact .apart (goto_asleep (by simp) asleep).1 rfl
      · contradiction
  | unlocked label =>
      simp only [lockStep, unlockedStep] at stepped
      split at stepped
      next ready =>
        obtain ⟨_, free, needless⟩ := ready
        have quiet : label.broadcasts locked.state ≠ true := by
          intro loud
          rw [Label.broadcasts_mutex loud] at needless
          contradiction
        have other : locked.stage (.thread thread) = .sleeps →
            label.owner ≠ some (.thread thread) := by
          intro before own
          rw [own] at free
          rw [of_decide_eq_true free] at before
          contradiction
        split at stepped
        · contradiction
        next s moved =>
          split at stepped
          · obtain rfl := Option.some.inj stepped
            exact .stepped asleep label (other asleep) moved
              (fun loud => absurd loud quiet)
          · obtain rfl := Option.some.inj stepped
            exact .stepped asleep label (other asleep) moved
              (fun loud => absurd loud quiet)
      · contradiction
  | clear other =>
      simp only [lockStep] at stepped
      split at stepped
      · split at stepped
        · contradiction
        next s moved =>
          obtain rfl := Option.some.inj stepped
          obtain ⟨before, different⟩ := goto_asleep (by simp) asleep
          refine .stepped before (.exit other) ?_ moved (by simp [Label.broadcasts])
          exact fun contrary => different (Option.some.inj contrary)
      · contradiction
  | unlock other =>
      simp only [lockStep] at stepped
      split at stepped
      · obtain rfl := Option.some.inj stepped
        exact .apart (goto_asleep (by simp) asleep).1 rfl
      · contradiction

end

/-- The thread is inside `pthread_cond_wait` for data that is still there. -/
def State.Blocked (s : State) (thread : Nat) : Prop :=
  ∃ call, (s.threads thread).call = .waiting call ∧ call.endpoint ≠ 0 ∧
    s.device.deviceStopped = false ∧ s.device.endpointData call.endpoint ≠ []

section

variable {dev : UsbipDevice} {s s' : State} {label : Label} {thread : Nat}

theorem State.Blocked.step (blocked : s.Blocked thread)
    (quiet : label.broadcasts s = false)
    (other : label.owner ≠ some (.thread thread))
    (stepped : UsbipServer.step dev s label = some s') :
    s'.Blocked thread := by
  obtain ⟨call, waits, data, running, full⟩ := blocked
  obtain ⟨stopped, keeps⟩ := step_keepsFull quiet stepped
  have same : s'.threads thread = s.threads thread :=
    step_sameFor other stepped
  refine ⟨call, ?_, data, stopped.trans running, keeps _ data full⟩
  rw [same]
  exact waits

theorem Section.blocks {mayWait : Bool} {device device' : DeviceState}
    {call other : Call} {phase : CallPhase} {events : List Event}
    (ran : Section mayWait device call device' phase events)
    (blocked : phase = .waiting other) :
    other.endpoint ≠ 0 ∧ device'.deviceStopped = false ∧
      device'.endpointData other.endpoint ≠ [] := by
  cases ran with
  | waiting data running full =>
      cases blocked
      exact ⟨data, running, full⟩
  | stored => split at blocked <;> contradiction
  | dropped => contradiction

theorem step_blocked (own : label.owner = some (.thread thread))
    (stepped : step dev s label = some s')
    (waits : s'.waitsForFetch (.thread thread) = true) :
    s'.Blocked thread := by
  obtain ⟨call, waiting⟩ := waitsForFetch_iff.mp waits
  refine ⟨call, waiting, ?_⟩
  cases step_transition stepped with
  | transmits number ep data idle ran =>
      obtain rfl : number = thread := by simpa [Label.owner] using own
      exact ran.blocks (by simpa using waiting)
  | wakes number other before ran =>
      obtain rfl : number = thread := by simpa [Label.owner] using own
      exact ran.blocks (by simpa using waiting)
  | threadPosts number | locks number | unlocks number =>
      obtain rfl : number = thread := by simpa [Label.owner] using own
      simp at waiting
  | _ => simp [Label.owner] at own

end

section

variable {dev : UsbipDevice} {sleeping : Sleeping} {thread : Nat}

/-- A thread that sleeps and was not woken by a broadcast has to wait. -/
theorem reached_blocked
    (reached : (condvar dev).Reaches Machine.anyStep initialSleeping sleeping)
    (asleep : sleeping.locked.stage (.thread thread) = .sleeps)
    (unwoken : sleeping.woken thread = false) :
    sleeping.locked.state.Blocked thread := by
  revert asleep unwoken
  refine reached.invariant (P := fun sleeping =>
    sleeping.locked.stage (.thread thread) = .sleeps →
    sleeping.woken thread = false →
    sleeping.locked.state.Blocked thread) ?_ ?_
  · intro asleep
    contradiction
  · intro former label next reached earlier _ stepped asleep unwoken
    obtain ⟨locked, taken, rfl⟩ := condStep_cases stepped
    have nested := sleeping_reached reached
    have missed : (former.woken thread ||
        label.lockLabel.broadcasts former.locked) = false := by
      simp only [Sleeping.next] at unwoken asleep
      rw [asleep] at unwoken
      simpa using unwoken
    obtain ⟨unwoken, silent⟩ := Bool.or_eq_false_iff.mp missed
    cases lockStep_slumber (reached_coherent nested) taken asleep with
    | apart before same =>
        simp only [Sleeping.next]
        rw [same]
        exact earlier before unwoken
    | stepped before inner other moved loud =>
        have quiet : inner.broadcasts former.locked.state = false := by
          cases told : inner.broadcasts former.locked.state with
          | false => rfl
          | true =>
              rw [loud told] at silent
              contradiction
        exact (earlier before unwoken).step quiet other moved
    | slept inner own moved waits => exact step_blocked own moved waits

end

/-! A call that waits is in the wait loop: asleep, or on its way back to it. -/

def Locked.Looping (locked : Locked) (thread : Nat) : Prop :=
  locked.stage (.thread thread) = .sleeps ∨
    locked.stage (.thread thread) = .requests (.wake thread) ∨
    locked.stage (.thread thread) = .holds (.wake thread)

section

variable {dev : UsbipDevice} {locked next : Locked} {thread : Nat}

theorem Locked.Looping.goto {actor : Owner} {stage : Stage}
    (looping : locked.Looping thread) (other : Owner.thread thread ≠ actor) :
    (locked.goto actor stage).Looping thread := by
  unfold Locked.Looping
  rw [goto_other other]
  exact looping

theorem callable_settled {s : State} {label : Label}
    (own : label.owner = some (.thread thread))
    (called : callable s label = true) :
    s.waitsForFetch (.thread thread) = false := by
  cases label with
  | transmit number ep data =>
      obtain rfl : number = thread := by simpa [Label.owner] using own
      simp [State.waitsForFetch, of_decide_eq_true called]
  | enter number =>
      obtain rfl : number = thread := by simpa [Label.owner] using own
      simp [State.waitsForFetch, (of_decide_eq_true called).1]
  | _ => first | contradiction | simp [Label.owner] at own

theorem step_settled {s s' : State} {label : Label}
    (own : label.owner = some (.thread thread)) (needless : label.mutex s = none)
    (stepped : step dev s label = some s') :
    s'.waitsForFetch (.thread thread) = false := by
  cases step_transition stepped with
  | threadPosts number | unlocks number =>
      obtain rfl : number = thread := by simpa [Label.owner] using own
      simp [State.waitsForFetch]
  | transmits | wakes | locks => contradiction
  | _ => simp [Label.owner] at own

theorem LockStep.looping (coherent : Coherent locked)
    (earlier : locked.state.waitsForFetch (.thread thread) = true →
      locked.Looping thread)
    (stepped : LockStep dev locked next)
    (waits : next.state.waitsForFetch (.thread thread) = true) :
    next.Looping thread := by
  have unmoved : ∀ {label : Label} {s : State},
      label.owner ≠ some (.thread thread) →
      step dev locked.state label = some s →
      s.waitsForFetch (.thread thread) = true → locked.Looping thread := by
    intro label s other moved waits
    apply earlier
    rw [← (step_sameFor other moved).waitsForFetch]
    exact waits
  cases stepped with
  | request owner label own free called needed =>
      refine (earlier waits).goto ?_
      rintro rfl
      exact absurd waits (by simp [Locked.goto, callable_settled own called])
  | acquire owner label mutex requested needed unheld =>
      by_cases same : .thread thread = owner
      · subst same
        rcases earlier waits with asleep | requests | holds
        · rw [requested] at asleep
          contradiction
        · rw [requests] at requested
          cases requested
          exact .inr (.inr goto_self)
        · rw [requested] at holds
          contradiction
      · exact (earlier waits).goto same
  | run owner label mutex s held needed moved =>
      rw [sectionDone_state] at waits
      have own := (coherent.taking owner label (.inr held)).own
      by_cases same : .thread thread = owner
      · subst same
        cases mutex with
        | epAccess =>
            left
            simp [sectionDone, waits]
        | receive =>
            rw [(step_getsInside own needed moved).2] at waits
            contradiction
      · have other : label.owner ≠ some (.thread thread) := by
          rw [own]
          exact fun contrary => same (Option.some.inj contrary).symm
        have before := unmoved other moved waits
        cases mutex <;> exact before.goto same
  | wakeup other asleep =>
      by_cases same : thread = other
      · subst same
        exact .inr (.inl goto_self)
      · exact (earlier waits).goto (by simpa using same)
  | unlocked label s stays free needless kept moved =>
      refine unmoved ?_ moved waits
      intro own
      rw [step_settled own needless moved] at waits
      contradiction
  | returned label s free back moved =>
      refine unmoved ?_ moved waits
      cases label <;> first | contradiction | simp [Label.owner]
  | clear other s free moved =>
      by_cases same : thread = other
      · subst same
        exact absurd waits (by simp [Locked.goto, step_settled rfl rfl moved])
      · refine Locked.Looping.goto ?_ (by simpa using same)
        exact unmoved (by simpa [Label.owner] using Ne.symm same) moved waits
  | unlock other cleared =>
      by_cases same : thread = other
      · subst same
        rcases earlier waits with asleep | requests | holds
        all_goals
          rw [cleared] at *
          contradiction
      · exact (earlier waits).goto (by simpa using same)

theorem reached_looping
    (reached : (locking dev).Reaches Machine.anyStep initialLocked locked)
    (waits : locked.state.waitsForFetch (.thread thread) = true) :
    locked.Looping thread := by
  revert waits
  refine reached.invariant (P := fun locked =>
    locked.state.waitsForFetch (.thread thread) = true →
    locked.Looping thread) ?_ ?_
  · intro waits
    contradiction
  · intro before label next reached earlier _ stepped waits
    exact (lockStep_cases stepped).looping (reached_coherent reached) earlier
      waits

end

/-- What a sleeping thread does once it is woken. -/
def returnLabels (thread : Nat) : List CondLabel :=
  [.lock (.wakeup thread), .lock (.acquire (.thread thread)),
    .lock (.run (.thread thread))]

section

variable {dev : UsbipDevice} {sleeping : Sleeping} {thread : Nat}

theorem threadTransmit_settles {call : Call} {s : State}
    (released : s.device.deviceStopped = true ∨
      s.device.endpointData call.endpoint = []) :
    (threadTransmit thread true call s).waitsForFetch (.thread thread) =
      false := by
  unfold threadTransmit
  cases outcome : usbipDeviceTransmit true call s.device with
  | waiting =>
      obtain ⟨_, _, running, full⟩ := usbipDeviceTransmit_waiting outcome
      rcases released with stopped | empty
      · rw [stopped] at running
        contradiction
      · exact absurd empty full
  | stored device =>
      by_cases control : call.endpoint = 0
      · simp [State.waitsForFetch, control]
      · simp [State.waitsForFetch, control]
  | dropped => simp [State.waitsForFetch]

theorem condStep_lock {label : LockLabel} {locked : Locked}
    (permitted : label.permitted sleeping.woken = true)
    (taken : lockStep dev sleeping.locked label = some locked) :
    (condvar dev).step sleeping (.lock label) =
      some (sleeping.next (label.broadcasts sleeping.locked) locked) := by
  simp [condvar, condStep, permitted, taken]

theorem condStep_run (dev : UsbipDevice) {call : Call}
    (holds : sleeping.locked.stage (.thread thread) = .holds (.wake thread))
    (waiting : (sleeping.locked.state.threads thread).call = .waiting call) :
    ∃ next, (condvar dev).step sleeping (.lock (.run (.thread thread))) =
        some next ∧
      next.locked.state =
        threadTransmit thread true call sleeping.locked.state := by
  have taken : lockStep dev sleeping.locked (.run (.thread thread)) =
      some (sectionDone (.thread thread) .epAccess
        (threadTransmit thread true call sleeping.locked.state)
        sleeping.locked) := by
    simp [lockStep, holds, Label.mutex, step, waiting]
  exact ⟨_, condStep_lock rfl taken, sectionDone_state _ .epAccess _ _⟩

theorem condStep_acquire (dev : UsbipDevice)
    (requests : sleeping.locked.stage (.thread thread) =
      .requests (.wake thread))
    (unheld : sleeping.locked.owner .epAccess = none) :
    ∃ next, (condvar dev).step sleeping (.lock (.acquire (.thread thread))) =
        some next ∧
      next.locked.state = sleeping.locked.state ∧
      next.locked.stage (.thread thread) = .holds (.wake thread) := by
  have taken : lockStep dev sleeping.locked (.acquire (.thread thread)) =
      some ((sleeping.locked.take .epAccess (.thread thread)).goto
        (.thread thread) (.holds (.wake thread))) := by
    simp [lockStep, requests, Label.mutex, unheld]
  exact ⟨_, condStep_lock rfl taken, rfl, goto_self⟩

theorem condStep_wakeup (dev : UsbipDevice)
    (asleep : sleeping.locked.stage (.thread thread) = .sleeps)
    (woken : sleeping.woken thread = true) :
    ∃ next, (condvar dev).step sleeping (.lock (.wakeup thread)) =
        some next ∧
      next.locked.state = sleeping.locked.state ∧
      next.locked.owner = sleeping.locked.owner ∧
      next.locked.stage (.thread thread) = .requests (.wake thread) := by
  have taken : lockStep dev sleeping.locked (.wakeup thread) =
      some (sleeping.locked.goto (.thread thread)
        (.requests (.wake thread))) := by
    simp [lockStep, asleep]
  exact ⟨_, condStep_lock woken taken, rfl, rfl, goto_self⟩

/-- The thread that requests `ep_access_mutex` gets it and runs the section. -/
theorem run_requested (dev : UsbipDevice) {call : Call}
    (requests : sleeping.locked.stage (.thread thread) =
      .requests (.wake thread))
    (unheld : sleeping.locked.owner .epAccess = none)
    (waiting : (sleeping.locked.state.threads thread).call = .waiting call) :
    ∃ next, (condvar dev).run sleeping
        [.lock (.acquire (.thread thread)), .lock (.run (.thread thread))] =
        some next ∧
      next.locked.state =
        threadTransmit thread true call sleeping.locked.state := by
  obtain ⟨holder, acquired, state, holds⟩ :=
    condStep_acquire dev requests unheld
  rw [← state] at waiting
  obtain ⟨next, ran, done⟩ := condStep_run dev holds waiting
  refine ⟨next, ?_, by rw [done, state]⟩
  simp [Machine.run, acquired, ran]

end

/-- A call that waits although its endpoint was emptied, or its device stopped,
has been woken: with `ep_access_mutex` free or its own, the thread needs no
spurious wake-up to run its section and be done waiting. -/
theorem broadcast_wakes {dev : UsbipDevice} {sleeping : Sleeping}
    {thread : Nat} {call : Call}
    (reached : (condvar dev).Reaches Machine.anyStep initialSleeping sleeping)
    (waiting : (sleeping.locked.state.threads thread).call = .waiting call)
    (released : sleeping.locked.state.device.deviceStopped = true ∨
      sleeping.locked.state.device.endpointData call.endpoint = [])
    (mutex : sleeping.locked.owner .epAccess = none ∨
      sleeping.locked.owner .epAccess = some (.thread thread)) :
    ∃ labels next, labels <:+ returnLabels thread ∧
      (condvar dev).run sleeping labels = some next ∧
      next.locked.state =
        threadTransmit thread true call sleeping.locked.state ∧
      ∀ call, (next.locked.state.threads thread).call ≠ .waiting call := by
  have nested := sleeping_reached reached
  have coherent := reached_coherent nested
  have free : (sleeping.locked.stage (.thread thread)).holding
      sleeping.locked.state = none →
      sleeping.locked.owner .epAccess = none := by
    intro holding
    rcases mutex with unheld | held
    · exact unheld
    · have inside := (coherent.owners _ _).mp held
      rw [Locked.inside_iff, holding] at inside
      simp at inside
  have settled : ∀ {next : Sleeping}, next.locked.state =
        threadTransmit thread true call sleeping.locked.state →
      ∀ call, (next.locked.state.threads thread).call ≠ .waiting call := by
    intro next done other blocked
    have waits := waitsForFetch_iff.mpr ⟨other, blocked⟩
    rw [done, threadTransmit_settles released] at waits
    contradiction
  rcases reached_looping nested (waitsForFetch_iff.mpr ⟨call, waiting⟩) with
    asleep | requests | holds
  · have woken : sleeping.woken thread = true := by
      by_contra unwoken
      obtain ⟨other, blocked, _, running, full⟩ := reached_blocked reached
        asleep (Bool.eq_false_iff.mpr unwoken)
      rw [waiting] at blocked
      cases blocked
      rcases released with stopped | empty
      · rw [stopped] at running
        contradiction
      · exact full empty
    obtain ⟨awake, left, state, owner, requests⟩ :=
      condStep_wakeup dev asleep woken
    have unheld : awake.locked.owner .epAccess = none := by
      rw [owner]
      exact free (by rw [asleep]; rfl)
    rw [← state] at waiting
    obtain ⟨next, ran, done⟩ := run_requested dev requests unheld
      waiting
    rw [state] at done
    refine ⟨returnLabels thread, next, List.suffix_refl _, ?_, done,
      settled done⟩
    simp only [returnLabels, Machine.run, left]
    exact ran
  · obtain ⟨next, ran, done⟩ := run_requested dev requests
      (free (by rw [requests]; rfl)) waiting
    exact ⟨_, next, List.suffix_cons _ _, ran, done, settled done⟩
  · obtain ⟨next, ran, done⟩ := condStep_run dev holds waiting
    refine ⟨[.lock (.run (.thread thread))], next, ?_, ?_, done,
      settled done⟩
    · exact (List.suffix_cons _ _).trans (List.suffix_cons _ _)
    · simp [Machine.run, ran]

/-- A thread waits for its second transmit when the device is stopped. -/
def stoppedWhileWaiting : List CondLabel :=
  [.lock (.request (.transmit 0 1 [7])), .lock (.acquire (.thread 0)),
    .lock (.run (.thread 0)), .lock (.unlocked (.post 0)),
    .lock (.request (.transmit 0 1 [8])), .lock (.acquire (.thread 0)),
    .lock (.run (.thread 0)), .lock (.unlocked .interrupt),
    .lock (.unlocked (.server 0)), .lock (.request (.server 0)),
    .lock (.acquire .server), .lock (.run .server)]

theorem broadcast_wakes_stopped :
    ∃ labels next, labels <:+ returnLabels 0 ∧
      (condvar sampleDevice).run ((condvar sampleDevice).after initialSleeping
        stoppedWhileWaiting) labels = some next ∧
      next.locked.state = threadTransmit 0 true ⟨1, 1, [8], 0⟩
        ((condvar sampleDevice).after initialSleeping
          stoppedWhileWaiting).locked.state ∧
      ∀ call, (next.locked.state.threads 0).call ≠ .waiting call :=
  broadcast_wakes (Machine.after_reaches _ _ _) (by decide +kernel)
    (.inl (by decide +kernel)) (.inl (by decide +kernel))

end UsbipServer
