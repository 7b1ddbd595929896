import UsbipServer.Refine.Locks

namespace UsbipServer

open Wire Library

/-! Who holds a mutex, told from where each thread is. -/

/-- The mutex a thread holds by where it is in taking or giving it back. -/
def Stage.holding (s : State) : Stage → Option Mutex
  | .holds label => label.mutex s
  | .clears => some .receive
  | _ => none

def Locked.inside (locked : Locked) (owner : Owner) : Mutex → Prop
  | .epAccess => (locked.stage owner).holding locked.state = some .epAccess
  | .receive => locked.state.inCritical owner = true ∨
      (locked.stage owner).holding locked.state = some .receive

structure Taking (s : State) (owner : Owner) (label : Label) : Prop where
  own : label.owner = some owner
  needed : label.mutex s ≠ none
  called : callable s label = true ∨
    s.waitsForFetch owner = true ∧ ∃ thread, label = .wake thread

structure Coherent (locked : Locked) : Prop where
  owners : ∀ mutex owner,
    locked.owner mutex = some owner ↔ locked.inside owner mutex
  taking : ∀ owner label, locked.stage owner = .requests label ∨
    locked.stage owner = .holds label → Taking locked.state owner label
  asleep : ∀ owner, locked.stage owner = .sleeps →
    locked.state.waitsForFetch owner = true
  cleared : ∀ owner, locked.stage owner = .clears →
    locked.state.inCritical owner = false ∧ owner ≠ .server

section

variable {dev : UsbipDevice} {s s' : State} {label : Label} {owner : Owner}
  {locked : Locked}

theorem Taking.later (taking : Taking s owner label)
    (same : SameFor s s' owner) : Taking s' owner label := by
  refine ⟨taking.own, ?_, ?_⟩
  · rw [same.mutex taking.own]
    exact taking.needed
  · rw [same.callable taking.own, same.waitsForFetch]
    exact taking.called

/-- Only critical sections and callbacks take `receive_lock`, and they are not
nested. -/
theorem Taking.outside (taking : Taking s owner label)
    (receive : label.mutex s = some .receive) : s.inCritical owner = false := by
  cases label with
  | server clock =>
      obtain rfl : owner = .server := by simpa [Label.owner] using taking.own.symm
      obtain ⟨next, here⟩ := State.serverMutex_receive receive
      simp [State.inCritical, here, Phase.isCallback]
  | enter thread =>
      obtain rfl : owner = .thread thread := by
        simpa [Label.owner] using taking.own.symm
      rcases taking.called with called | ⟨_, other, contrary⟩
      · simp only [callable, decide_eq_true_eq] at called
        exact called.2
      · contradiction
  | _ => simp [Label.mutex] at receive

theorem Locked.inside_iff {mutex : Mutex} :
    locked.inside owner mutex ↔
      mutex = .receive ∧ locked.state.inCritical owner = true ∨
        (locked.stage owner).holding locked.state = some mutex := by
  cases mutex <;> simp [Locked.inside]

theorem Locked.inside_congr {next : Locked} {mutex : Mutex}
    (critical : next.state.inCritical owner = locked.state.inCritical owner)
    (holding : (next.stage owner).holding next.state =
      (locked.stage owner).holding locked.state) :
    next.inside owner mutex ↔ locked.inside owner mutex := by
  cases mutex with
  | epAccess => simp only [Locked.inside, holding]
  | receive => simp only [Locked.inside, holding, critical]

theorem Coherent.holding_later (coherent : Coherent locked)
    (same : SameFor locked.state s' owner) :
    (locked.stage owner).holding s' =
      (locked.stage owner).holding locked.state := by
  cases stage : locked.stage owner with
  | holds label =>
      exact same.mutex (coherent.taking owner label (.inr stage)).own
  | _ => rfl

theorem Coherent.kept {next : Locked} (coherent : Coherent locked)
    (stage : next.stage owner = locked.stage owner)
    (same : SameFor locked.state next.state owner) :
    (∀ mutex, next.inside owner mutex ↔ locked.inside owner mutex) ∧
      (∀ label, next.stage owner = .requests label ∨
        next.stage owner = .holds label → Taking next.state owner label) ∧
      (next.stage owner = .sleeps → next.state.waitsForFetch owner = true) ∧
      (next.stage owner = .clears →
        next.state.inCritical owner = false ∧ owner ≠ .server) := by
  refine ⟨?_, ?_, ?_, ?_⟩
  · intro mutex
    apply Locked.inside_congr same.inCritical
    rw [stage]
    exact coherent.holding_later same
  · intro label takes
    rw [stage] at takes
    exact (coherent.taking owner label takes).later same
  · intro asleep
    rw [stage] at asleep
    rw [same.waitsForFetch]
    exact coherent.asleep owner asleep
  · intro cleared
    rw [stage] at cleared
    rw [same.inCritical]
    exact coherent.cleared owner cleared

theorem SameFor.refl (s : State) (owner : Owner) : SameFor s s owner := by
  cases owner with
  | server => exact ⟨rfl, rfl, rfl⟩
  | thread => rfl

/-- It is enough to look at the thread that steps. -/
theorem Coherent.of_actor {next : Locked} (actor : Owner)
    (coherent : Coherent locked)
    (stages : ∀ owner, owner ≠ actor → next.stage owner = locked.stage owner)
    (states : ∀ owner, owner ≠ actor → SameFor locked.state next.state owner)
    (owners : ∀ mutex,
      (next.owner mutex = some actor ↔ next.inside actor mutex) ∧
      ∀ owner, owner ≠ actor →
        (next.owner mutex = some owner ↔ locked.owner mutex = some owner))
    (taking : ∀ label, next.stage actor = .requests label ∨
      next.stage actor = .holds label → Taking next.state actor label)
    (asleep : next.stage actor = .sleeps →
      next.state.waitsForFetch actor = true)
    (cleared : next.stage actor = .clears →
      next.state.inCritical actor = false ∧ actor ≠ .server) :
    Coherent next := by
  have others : ∀ owner, owner ≠ actor → _ :=
    fun owner different => coherent.kept (stages owner different)
      (states owner different)
  refine ⟨?_, ?_, ?_, ?_⟩
  · intro mutex owner
    by_cases here : owner = actor
    · rw [here]
      exact (owners mutex).1
    · rw [(owners mutex).2 owner here, (others owner here).1 mutex]
      exact coherent.owners mutex owner
  · intro owner label takes
    by_cases here : owner = actor
    · rw [here] at takes ⊢
      exact taking label takes
    · exact (others owner here).2.1 label takes
  · intro owner sleeps
    by_cases here : owner = actor
    · rw [here] at sleeps ⊢
      exact asleep sleeps
    · exact (others owner here).2.2.1 sleeps
  · intro owner clears
    by_cases here : owner = actor
    · rw [here] at clears ⊢
      exact cleared clears
    · exact (others owner here).2.2.2 clears

theorem owner_taken {mutex : Mutex} (unheld : locked.owner mutex = none)
    (actor : Owner) (other : Mutex) {owner : Owner} (different : owner ≠ actor) :
    (locked.take mutex actor).owner other = some owner ↔
      locked.owner other = some owner := by
  simp only [Locked.take]
  by_cases same : other = mutex
  · subst same
    simp [unheld, different.symm]
  · rw [Function.update_of_ne same]

theorem owner_released {mutex : Mutex} {actor : Owner}
    (held : locked.owner mutex = some actor) (other : Mutex) {owner : Owner}
    (different : owner ≠ actor) :
    (locked.release mutex).owner other = some owner ↔
      locked.owner other = some owner := by
  simp only [Locked.release]
  by_cases same : other = mutex
  · subst same
    simp [held, different.symm]
  · rw [Function.update_of_ne same]

theorem goto_other {actor : Owner} {stage : Stage} (different : owner ≠ actor) :
    (locked.goto actor stage).stage owner = locked.stage owner :=
  Function.update_of_ne different _ _

@[simp] theorem goto_self {actor : Owner} {stage : Stage} :
    (locked.goto actor stage).stage actor = stage :=
  Function.update_self _ _ _

theorem Coherent.requests {actor : Owner} (coherent : Coherent locked)
    (before : (locked.stage actor).holding locked.state = none)
    (taking : Taking locked.state actor label) :
    Coherent (locked.goto actor (.requests label)) := by
  have here : (locked.goto actor (.requests label)).stage actor =
      .requests label := goto_self
  refine coherent.of_actor actor (fun owner => goto_other)
    (fun owner _ => .refl _ owner) ?_ ?_ ?_ ?_
  · intro mutex
    refine ⟨?_, fun owner _ => Iff.rfl⟩
    have inside : (locked.goto actor (.requests label)).inside actor mutex ↔
        locked.inside actor mutex := by
      rw [Locked.inside_iff, Locked.inside_iff, here, before]
      rfl
    rw [inside]
    exact coherent.owners mutex actor
  · intro other takes
    rw [here] at takes
    rcases takes with requests | holds
    · obtain rfl := Stage.requests.inj requests
      exact taking
    · contradiction
  · intro sleeps
    rw [here] at sleeps
    contradiction
  · intro clears
    rw [here] at clears
    contradiction

theorem Coherent.acquires {actor : Owner} {mutex : Mutex}
    (coherent : Coherent locked)
    (requested : locked.stage actor = .requests label)
    (needed : label.mutex locked.state = some mutex)
    (unheld : locked.owner mutex = none) :
    Coherent ((locked.take mutex actor).goto actor (.holds label)) := by
  have here : ((locked.take mutex actor).goto actor (.holds label)).stage
      actor = .holds label := goto_self
  refine coherent.of_actor actor (fun owner => goto_other)
    (fun owner _ => .refl _ owner) ?_ ?_ ?_ ?_
  · intro other
    refine ⟨?_, fun owner different => owner_taken unheld actor other different⟩
    rw [Locked.inside_iff, here]
    have before := (coherent.owners other actor).trans Locked.inside_iff
    rw [requested] at before
    by_cases same : other = mutex
    · subst same
      have taken : ((locked.take other actor).goto actor
          (.holds label)).owner other = some actor := Function.update_self _ _ _
      exact ⟨fun _ => .inr needed, fun _ => taken⟩
    · have kept : ((locked.take mutex actor).goto actor
          (.holds label)).owner other = locked.owner other :=
        Function.update_of_ne same _ _
      have apart : ¬ label.mutex locked.state = some other := by
        rw [needed]
        exact fun contrary => same (Option.some.inj contrary).symm
      rw [kept, before]
      refine or_congr Iff.rfl (iff_of_false ?_ apart)
      simp [Stage.holding]
  · intro other takes
    rw [here] at takes
    rcases takes with requests | holds
    · contradiction
    · obtain rfl := Stage.holds.inj holds
      exact coherent.taking actor label (.inl requested)
  · intro sleeps
    rw [here] at sleeps
    contradiction
  · intro clears
    rw [here] at clears
    contradiction

theorem step_apart {actor : Owner} (own : label.owner = some actor)
    (moved : step dev s label = some s') :
    ∀ owner, owner ≠ actor → SameFor s s' owner := by
  intro owner different
  apply step_sameFor _ moved
  rw [own]
  exact fun contrary => different (Option.some.inj contrary).symm

theorem step_staysInside {actor : Owner} (own : label.owner = some actor)
    (stays : label.isExit = false) (onwards : label.isCallbackReturn = false)
    (unlocked : label.mutex s ≠ some .receive)
    (moved : step dev s label = some s') :
    s'.inCritical actor = s.inCritical actor := by
  cases actor with
  | server =>
      cases (step_server own moved).2 with
      | enters locks => exact absurd locks unlocked
      | returns back =>
          rw [onwards] at back
          contradiction
      | works _ _ _ phase => exact phase
  | thread number =>
      cases step_thread own moved with
      | enters locks => exact absurd locks unlocked
      | exits exit =>
          rw [stays] at exit
          contradiction
      | calls _ _ _ kept => exact kept

theorem step_getsInside {actor : Owner} (own : label.owner = some actor)
    (locks : label.mutex s = some .receive)
    (moved : step dev s label = some s') :
    s'.inCritical actor = true ∧ s'.waitsForFetch actor = false := by
  cases actor with
  | server =>
      cases (step_server own moved).2 with
      | enters _ _ _ inside => exact ⟨inside, rfl⟩
      | returns back =>
          cases label with
          | callbackReturn => simp [Label.mutex] at locks
          | _ => simp [Label.isCallbackReturn] at back
      | works _ unlocked => exact absurd locks unlocked
  | thread number =>
      cases step_thread own moved with
      | enters _ _ _ inside idle =>
          exact ⟨inside, by simp [State.waitsForFetch, idle]⟩
      | exits exit =>
          cases label with
          | exit => simp [Label.mutex] at locks
          | _ => simp [Label.isExit] at exit
      | calls _ unlocked => exact absurd locks unlocked

theorem Coherent.releases {next : Locked} {mutex : Mutex} {actor : Owner}
    (coherent : Coherent locked)
    (owner : next.owner = Function.update locked.owner mutex none)
    (held : locked.owner mutex = some actor)
    (stages : ∀ owner, owner ≠ actor → next.stage owner = locked.stage owner)
    (states : ∀ owner, owner ≠ actor → SameFor locked.state next.state owner)
    (left : ¬ next.inside actor mutex)
    (keeps : ∀ other, other ≠ mutex →
      (next.inside actor other ↔ locked.inside actor other))
    (rests : next.stage actor = .free ∨ next.stage actor = .sleeps ∧
      next.state.waitsForFetch actor = true) :
    Coherent next := by
  refine coherent.of_actor actor stages states ?_ ?_ ?_ ?_
  · intro other
    constructor
    · by_cases same : other = mutex
      · subst same
        rw [owner, Function.update_self]
        exact iff_of_false (by simp) left
      · rw [owner, Function.update_of_ne same, keeps other same]
        exact coherent.owners other actor
    · intro someone different
      rw [owner]
      exact owner_released held other different
  · intro label takes
    rcases rests with rests | ⟨rests, _⟩ <;> simp [rests] at takes
  · intro sleeps
    rcases rests with rests | ⟨_, waits⟩
    · rw [rests] at sleeps
      contradiction
    · exact waits
  · intro clears
    rcases rests with rests | ⟨rests, _⟩ <;> simp [rests] at clears

theorem Coherent.keeps {next : Locked} {actor : Owner}
    (coherent : Coherent locked) (owner : next.owner = locked.owner)
    (stages : ∀ owner, owner ≠ actor → next.stage owner = locked.stage owner)
    (states : ∀ owner, owner ≠ actor → SameFor locked.state next.state owner)
    (keeps : ∀ mutex, next.inside actor mutex ↔ locked.inside actor mutex)
    (rests : next.stage actor = .free ∨ next.stage actor = .clears ∧
      next.state.inCritical actor = false ∧ actor ≠ .server) :
    Coherent next := by
  refine coherent.of_actor actor stages states ?_ ?_ ?_ ?_
  · intro mutex
    rw [keeps mutex, owner]
    exact ⟨coherent.owners mutex actor, fun _ _ => Iff.rfl⟩
  · intro label takes
    rcases rests with rests | ⟨rests, _⟩ <;> simp [rests] at takes
  · intro sleeps
    rcases rests with rests | ⟨rests, _⟩ <;> simp [rests] at sleeps
  · intro clears
    rcases rests with rests | ⟨_, outside⟩
    · rw [rests] at clears
      contradiction
    · exact outside

theorem Label.mutex_onwards (needed : label.mutex s ≠ none) :
    label.isExit = false ∧ label.isCallbackReturn = false := by
  cases label with
  | exit | callbackReturn => exact absurd rfl needed
  | _ => exact ⟨rfl, rfl⟩

theorem Coherent.runs {actor : Owner} {mutex : Mutex}
    (coherent : Coherent locked) (held : locked.stage actor = .holds label)
    (needed : label.mutex locked.state = some mutex)
    (moved : step dev locked.state label = some s) :
    Coherent (sectionDone actor mutex s locked) := by
  have taking := coherent.taking actor label (.inr held)
  have holding : (locked.stage actor).holding locked.state = some mutex := by
    rw [held]
    exact needed
  have states := step_apart taking.own moved
  obtain ⟨stays, onwards⟩ := Label.mutex_onwards taking.needed
  cases mutex with
  | epAccess =>
      have critical := step_staysInside taking.own stays onwards
        (by simp [needed]) moved
      have here : (sectionDone actor .epAccess s locked).stage actor =
          if s.waitsForFetch actor then .sleeps else .free := goto_self
      have released : ((sectionDone actor .epAccess s locked).stage
          actor).holding s = none := by
        rw [here]
        split <;> rfl
      refine coherent.releases rfl ((coherent.owners _ _).mpr holding)
        (fun owner => goto_other) states ?_ ?_ ?_
      · rw [Locked.inside_iff]
        intro inside
        rcases inside with ⟨contrary, _⟩ | inside
        · contradiction
        · exact Option.some_ne_none _ (inside.symm.trans released)
      · intro other different
        rw [Locked.inside_iff, Locked.inside_iff, holding]
        refine or_congr (and_congr_right fun _ => ?_) (iff_of_false ?_ ?_)
        · exact (congrArg (· = true) critical).to_iff
        · exact fun contrary =>
            Option.some_ne_none _ (contrary.symm.trans released)
        · exact fun contrary => different (Option.some.inj contrary).symm
      · rw [here]
        by_cases waits : s.waitsForFetch actor = true
        · rw [if_pos waits]
          exact .inr ⟨rfl, waits⟩
        · rw [if_neg waits]
          exact .inl rfl
  | receive =>
      have here : (sectionDone actor .receive s locked).stage actor = .free :=
        goto_self
      refine coherent.keeps rfl (fun owner => goto_other) states ?_ (.inl here)
      intro other
      rw [Locked.inside_iff, Locked.inside_iff, holding, here]
      cases other with
      | epAccess => simp [Stage.holding]
      | receive =>
          exact iff_of_true
            (.inl ⟨rfl, (step_getsInside taking.own needed moved).1⟩) (.inr rfl)

theorem Coherent.works (coherent : Coherent locked)
    (stays : label.isExit = false) (onwards : label.isCallbackReturn = false)
    (free : locked.isFree label.owner = true)
    (needless : label.mutex locked.state = none)
    (moved : step dev locked.state label = some s) :
    Coherent { locked with state := s } := by
  cases own : label.owner with
  | none =>
      have same : ∀ owner, SameFor locked.state s owner := by
        intro owner
        apply step_sameFor _ moved
        simp [own]
      have stage : ∀ owner, ({ locked with state := s } : Locked).stage owner =
          locked.stage owner := fun _ => rfl
      refine ⟨?_, ?_, ?_, ?_⟩
      · intro mutex owner
        have inside := (coherent.kept (stage owner) (same owner)).1 mutex
        exact (coherent.owners mutex owner).trans inside.symm
      · exact fun owner => (coherent.kept (stage owner) (same owner)).2.1
      · exact fun owner => (coherent.kept (stage owner) (same owner)).2.2.1
      · exact fun owner => (coherent.kept (stage owner) (same owner)).2.2.2
  | some actor =>
      rw [own] at free
      have here : locked.stage actor = .free := of_decide_eq_true free
      have critical := step_staysInside own stays onwards
        (by simp [needless]) moved
      refine coherent.keeps rfl (fun _ _ => rfl) (step_apart own moved) ?_
        (.inl here)
      intro mutex
      apply Locked.inside_congr critical
      rw [here]
      rfl

theorem Coherent.returns (coherent : Coherent locked)
    (free : locked.isFree label.owner = true)
    (back : label.isCallbackReturn = true)
    (moved : step dev locked.state label = some s) :
    Coherent ({ locked with state := s }.release .receive) := by
  have own : label.owner = some .server := by
    cases label <;> first | rfl | contradiction
  rw [own] at free
  have here : locked.stage .server = .free := of_decide_eq_true free
  cases (step_server own moved).2 with
  | enters locks =>
      have needed : label.mutex locked.state ≠ none := by simp [locks]
      rw [(Label.mutex_onwards needed).2] at back
      contradiction
  | works onwards =>
      rw [onwards] at back
      contradiction
  | returns _ inside _ outside =>
      have held := (coherent.owners .receive .server).mpr (.inl inside)
      refine coherent.releases rfl held (fun _ _ => rfl) (step_apart own moved)
        ?_ ?_ (.inl here)
      · rintro (inside | holding)
        · have critical : s.phase.isCallback = true := inside
          rw [outside] at critical
          contradiction
        · have contrary : (locked.stage .server).holding s = some .receive :=
            holding
          rw [here] at contrary
          contradiction
      · intro other different
        cases other with
        | receive => contradiction
        | epAccess =>
            change (locked.stage .server).holding s = _ ↔
              (locked.stage .server).holding locked.state = _
            rw [here]
            rfl

theorem Coherent.clears {thread : Nat} (coherent : Coherent locked)
    (guarded : Guarded locked.state)
    (free : locked.stage (.thread thread) = .free)
    (moved : step dev locked.state (.exit thread) = some s) :
    Coherent ({ locked with state := s }.goto (.thread thread) .clears) := by
  have own : (Label.exit thread).owner = some (.thread thread) := rfl
  cases step_thread own moved with
  | enters locks => contradiction
  | calls stays => contradiction
  | exits _ held _ outside =>
      have inside := (guarded.receiveLock (.thread thread)).mp held
      have here : ({ locked with state := s }.goto (.thread thread)
          .clears).stage (.thread thread) = .clears := goto_self
      refine coherent.keeps rfl (fun owner => goto_other) (step_apart own moved)
        ?_ (.inr ⟨here, outside, by simp⟩)
      intro mutex
      rw [Locked.inside_iff, Locked.inside_iff, here, free]
      cases mutex with
      | epAccess => simp [Stage.holding]
      | receive => exact iff_of_true (.inr rfl) (.inl ⟨rfl, inside⟩)

theorem Coherent.unlocks {thread : Nat} (coherent : Coherent locked)
    (cleared : locked.stage (.thread thread) = .clears) :
    Coherent ((locked.release .receive).goto (.thread thread) .free) := by
  obtain ⟨outside, _⟩ := coherent.cleared _ cleared
  have here : ((locked.release .receive).goto (.thread thread) .free).stage
      (.thread thread) = .free := goto_self
  have holding : (locked.stage (.thread thread)).holding locked.state =
      some .receive := by
    rw [cleared]
    rfl
  have held := (coherent.owners .receive (.thread thread)).mpr (.inr holding)
  refine coherent.releases rfl held (fun owner => goto_other)
    (fun owner _ => .refl _ owner) ?_ ?_ (.inl here)
  · rw [Locked.inside_iff, here]
    rintro (⟨_, inside⟩ | contrary)
    · have critical : locked.state.inCritical (.thread thread) = true := inside
      rw [outside] at critical
      contradiction
    · contradiction
  · intro other different
    cases other with
    | receive => contradiction
    | epAccess =>
        rw [Locked.inside_iff, Locked.inside_iff, here, holding]
        simp [Stage.holding]

theorem Coherent.step {next : Locked} (coherent : Coherent locked)
    (guarded : Guarded locked.state) (stepped : LockStep dev locked next) :
    Coherent next := by
  cases stepped with
  | request owner label own free called needed =>
      apply coherent.requests
      · rw [free]
        rfl
      · exact ⟨own, needed, .inl called⟩
  | acquire owner label mutex requested needed unheld =>
      exact coherent.acquires requested needed unheld
  | run owner label mutex s held needed moved =>
      exact coherent.runs held needed moved
  | wakeup thread asleep =>
      apply coherent.requests
      · rw [asleep]
        rfl
      · exact ⟨rfl, by simp [Label.mutex],
          .inr ⟨coherent.asleep _ asleep, thread, rfl⟩⟩
  | unlocked label s stays free needless kept moved =>
      exact coherent.works stays kept free needless moved
  | returned label s free back moved => exact coherent.returns free back moved
  | clear thread s free moved => exact coherent.clears guarded free moved
  | unlock thread cleared => exact coherent.unlocks cleared

theorem reached_coherent
    (reached : (locking dev).Reaches Machine.anyStep initialLocked locked) :
    Coherent locked := by
  refine reached.invariant (P := Coherent) ?_ ?_
  · refine ⟨?_, ?_, ?_, ?_⟩
    · intro mutex owner
      rw [Locked.inside_iff]
      cases owner <;>
        simp [initialLocked, initial, Stage.holding, State.inCritical,
          Phase.isCallback]
    · simp [initialLocked]
    · simp [initialLocked]
    · simp [initialLocked]
  · intro before label next arrived coherent _ stepped
    exact coherent.step (reachable_guarded (locked_reachable arrived))
      (lockStep_cases stepped)

end

end UsbipServer
