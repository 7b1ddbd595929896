import UsbipServer.Locking
import UsbipServer.Refine.Progress

namespace UsbipServer

open Wire Library

/-! What a step does to `receive_lock` and the flags that mirror it. -/

def Phase.isCallback : Phase → Bool
  | .callback _ _ _ => true
  | _ => false

/-- The server thread leaves the other threads and `receive_lock` alone and
does not end up in a callback. -/
structure Aside (s s' : State) : Prop where
  threads : s'.threads = s.threads
  receiveLock : s'.receiveLock = s.receiveLock
  callback : s'.phase.isCallback = false

section

variable {dev : UsbipDevice} {s s' start : State}

theorem Aside.from_eq (aside : Aside start s') (threads : start.threads = s.threads)
    (receiveLock : start.receiveLock = s.receiveLock) : Aside s s' :=
  ⟨aside.threads.trans threads, aside.receiveLock.trans receiveLock,
    aside.callback⟩

theorem Ends.aside {task : Task} (ends : Ends dev s task s') : Aside s s' := by
  cases ends <;> exact ⟨rfl, rfl, rfl⟩

end

def State.inCritical (s : State) : Owner → Bool
  | .server => s.phase.isCallback
  | .thread thread => (s.threads thread).inCriticalSection

/-- A step of the server thread: it enters a callback, returns from one, or
neither. -/
inductive ServerStep (s : State) (label : Label) (s' : State) : Prop
  | enters (locks : label.mutex s = some .receive) (free : s.receiveLock = none)
      (taken : s'.receiveLock = some .server)
      (inside : s'.phase.isCallback = true)
  | returns (back : label.isCallbackReturn = true)
      (inside : s.phase.isCallback = true) (freed : s'.receiveLock = none)
      (outside : s'.phase.isCallback = false)
  | works (onwards : label.isCallbackReturn = false)
      (unlocked : label.mutex s ≠ some .receive)
      (same : s'.receiveLock = s.receiveLock)
      (phase : s'.phase.isCallback = s.phase.isCallback)

section

variable {dev : UsbipDevice} {s s' : State} {label : Label} {thread : Nat}

theorem State.serverMutex_receive (receive : s.serverMutex = some .receive) :
    ∃ next, s.phase = .lock next := by
  unfold State.serverMutex at receive
  split at receive
  case h_8 next here => exact ⟨next, here⟩
  case h_7 =>
    split at receive
    · contradiction
    · split at receive <;> contradiction
  all_goals contradiction

def Phase.isAside : Phase → Bool
  | .lock _ => false
  | .callback _ _ _ => false
  | _ => true

theorem Aside.works (aside : Aside s s') (own : label.owner = some .server)
    (onwards : label.isCallbackReturn = false)
    (apart : s.phase.isAside = true) :
    s'.threads = s.threads ∧ ServerStep s label s' := by
  refine ⟨aside.threads, .works onwards ?_ aside.receiveLock ?_⟩
  · intro receive
    cases label with
    | server clock =>
        obtain ⟨next, here⟩ := State.serverMutex_receive receive
        rw [here] at apart
        contradiction
    | enter => simp [Label.owner] at own
    | _ => simp [Label.mutex] at receive
  · rw [aside.callback]
    cases here : s.phase with
    | callback =>
        rw [here] at apart
        contradiction
    | _ => rfl

theorem step_server (own : label.owner = some .server)
    (stepped : step dev s label = some s') :
    s'.threads = s.threads ∧ ServerStep s label s' := by
  have works := fun aside : Aside s s' => aside.works own
  cases step_transition stepped with
  | leaves clock here =>
      rcases here with here | here <;>
        exact works ⟨rfl, rfl, rfl⟩ rfl (congrArg Phase.isAside here)
  | submits tcpip command here imported running received plain ends =>
      exact works (ends.aside.from_eq rfl rfl) rfl
        (congrArg Phase.isAside here)
  | submitsIso tcpip command here imported running received paced ends =>
      exact works (ends.aside.from_eq rfl rfl) rfl
        (congrArg Phase.isAside here)
  | controls clock request supported here action ends =>
      exact works (ends.aside.from_eq rfl rfl) rfl
        (congrArg Phase.isAside here)
  | answers clock request data here ran ends =>
      exact works (ends.aside.from_eq rfl rfl) rfl
        (congrArg Phase.isAside here)
  | overflows clock request here full ends =>
      exact works (ends.aside.from_eq rfl rfl) rfl
        (congrArg Phase.isAside here)
  | collects clock now index urb here filed isochronous due ends =>
      exact works ends.aside rfl (congrArg Phase.isAside here)
  | resetEnds clock reason here uncalled ends =>
      exact works (ends.aside.from_eq rfl rfl) rfl
        (congrArg Phase.isAside here)
  | enters clock next here free =>
      refine ⟨rfl, .enters ?_ free rfl rfl⟩
      simp [Label.mutex, State.serverMutex, here]
  | posts clock call made next here =>
      refine ⟨rfl, .works rfl ?_ rfl (congrArg Phase.isCallback here).symm⟩
      simp [Label.mutex, State.serverMutex, here]
  | callbackTransmits ep data made next here =>
      exact ⟨rfl, .works rfl (by simp [Label.mutex]) rfl
        (congrArg Phase.isCallback here).symm⟩
  | returns written length made next here fits ends =>
      exact ⟨ends.aside.threads, .returns rfl (congrArg Phase.isCallback here)
        ends.aside.receiveLock ends.aside.callback⟩
  | accepts _ _ here | refuses _ _ here | imports _ _ here | idles here
  | fails _ _ here | misses _ _ here | cancels _ _ _ _ here
  | controlAnswers _ _ _ here | controlCalls _ _ here | takesAnswer _ _ _ here
  | fetches _ _ _ _ _ here | schedules _ _ here | starts _ here | loses _ here
  | ends _ _ _ here | later _ _ _ _ here | skips _ _ _ _ here
  | completes _ _ _ _ _ here | breaks _ _ _ _ _ here | resets _ _ here
  | resetCalls _ _ here | stops _ here =>
      exact works ⟨rfl, rfl, rfl⟩ rfl (congrArg Phase.isAside here)
  | transmits | wakes | threadPosts | locks | unlocks | interrupts =>
      simp [Label.owner] at own

inductive ThreadStep (s : State) (thread : Nat) (label : Label) (s' : State) :
    Prop
  | enters (locks : label.mutex s = some .receive) (free : s.receiveLock = none)
      (taken : s'.receiveLock = some (.thread thread))
      (inside : (s'.threads thread).inCriticalSection = true)
      (idle : (s'.threads thread).call = .idle)
  | exits (exit : label.isExit = true)
      (held : s.receiveLock = some (.thread thread))
      (freed : s'.receiveLock = none)
      (outside : (s'.threads thread).inCriticalSection = false)
  | calls (stays : label.isExit = false)
      (unlocked : label.mutex s ≠ some .receive)
      (same : s'.receiveLock = s.receiveLock)
      (kept : (s'.threads thread).inCriticalSection =
        (s.threads thread).inCriticalSection)
      (waits : s'.waitsForFetch (.thread thread) = true →
        (s.threads thread).inCriticalSection = false ∨
          s.waitsForFetch (.thread thread) = true)

theorem waitsForFetch_iff :
    s.waitsForFetch (.thread thread) = true ↔
      ∃ call, (s.threads thread).call = .waiting call := by
  unfold State.waitsForFetch
  cases phase : (s.threads thread).call <;> simp [phase]

theorem step_thread (own : label.owner = some (.thread thread))
    (stepped : step dev s label = some s') : ThreadStep s thread label s' := by
  cases step_transition stepped with
  | transmits number ep data idle ran =>
      obtain rfl : number = thread := by simpa [Label.owner] using own
      refine .calls rfl (by simp [Label.mutex]) rfl
        (by simp) ?_
      intro waits
      obtain ⟨other, blocked⟩ := waitsForFetch_iff.mp waits
      simp only [setCall, Function.update_self] at blocked
      exact .inl (by simpa using (ran.waits blocked).2)
  | wakes number call waiting ran =>
      obtain rfl : number = thread := by simpa [Label.owner] using own
      refine .calls rfl (by simp [Label.mutex]) rfl
        (by simp) ?_
      exact fun _ => .inr (waitsForFetch_iff.mpr ⟨call, waiting⟩)
  | threadPosts number call stored =>
      obtain rfl : number = thread := by simpa [Label.owner] using own
      refine .calls rfl (by simp [Label.mutex]) rfl
        (by simp) ?_
      intro waits
      obtain ⟨other, blocked⟩ := waitsForFetch_iff.mp waits
      simp at blocked
  | locks number free idle =>
      obtain rfl : number = thread := by simpa [Label.owner] using own
      exact .enters rfl free rfl (by simp) (by simp)
  | unlocks number held idle =>
      obtain rfl : number = thread := by simpa [Label.owner] using own
      exact .exits rfl held rfl (by simp)
  | _ => simp [Label.owner] at own

theorem step_thread_others {other : Nat}
    (own : label.owner = some (.thread thread)) (apart : other ≠ thread)
    (stepped : step dev s label = some s') :
    s'.threads other = s.threads other := by
  cases step_transition stepped with
  | transmits number | wakes number | threadPosts number | locks number
  | unlocks number =>
      obtain rfl : number = thread := by simpa [Label.owner] using own
      exact Function.update_of_ne apart _ _
  | _ => simp [Label.owner] at own

def SameFor (s s' : State) : Owner → Prop
  | .server => s'.phase = s.phase ∧ s'.pendingUrbs = s.pendingUrbs ∧
      s'.endpoints = s.endpoints
  | .thread thread => s'.threads thread = s.threads thread

theorem step_sameFor {owner : Owner} (apart : label.owner ≠ some owner)
    (stepped : step dev s label = some s') : SameFor s s' owner := by
  cases own : label.owner with
  | none =>
      cases label with
      | interrupt =>
          obtain rfl := Option.some.inj stepped
          cases owner with
          | server => exact ⟨rfl, rfl, rfl⟩
          | thread number => rfl
      | _ => simp [Label.owner] at own
  | some actor =>
      cases actor with
      | server =>
          cases owner with
          | server => exact absurd own apart
          | thread number => exact congrFun (step_server own stepped).1 number
      | thread number =>
          cases owner with
          | server =>
              have kind : label.isThread = true := by
                cases label <;> first | rfl | simp [Label.owner] at own
              have elsewhere := threadStep_elsewhere kind stepped
              exact ⟨elsewhere.phase, elsewhere.pendingUrbs,
                elsewhere.endpoints⟩
          | thread other =>
              refine step_thread_others own ?_ stepped
              rintro rfl
              exact apart own

namespace SameFor

variable {owner : Owner}

theorem inCritical (same : SameFor s s' owner) :
    s'.inCritical owner = s.inCritical owner := by
  cases owner with
  | server => exact congrArg Phase.isCallback same.1
  | thread number => exact congrArg Thread.inCriticalSection same

theorem waitsForFetch (same : SameFor s s' owner) :
    s'.waitsForFetch owner = s.waitsForFetch owner := by
  cases owner with
  | server => rfl
  | thread number =>
      have kept : s'.threads number = s.threads number := same
      simp only [State.waitsForFetch, kept]

theorem mutex (same : SameFor s s' owner) (own : label.owner = some owner) :
    label.mutex s' = label.mutex s := by
  cases owner with
  | server =>
      obtain ⟨phase, pending, endpoints⟩ := same
      have server : s'.serverMutex = s.serverMutex := by
        simp only [State.serverMutex, phase, pending, endpoints]
      cases label <;> first | rfl | exact server
  | thread number =>
      cases label <;> first | rfl | simp [Label.owner] at own

theorem callable (same : SameFor s s' owner)
    (own : label.owner = some owner) :
    UsbipServer.callable s' label = UsbipServer.callable s label := by
  cases owner with
  | server =>
      obtain ⟨phase, _, _⟩ := same
      cases label with
      | callbackTransmit => simp only [UsbipServer.callable, phase]
      | transmit | wake | post | enter | exit | interrupt =>
          simp [Label.owner] at own
      | _ => rfl
  | thread number =>
      have kept : s'.threads number = s.threads number := same
      cases label with
      | transmit other | enter other =>
          obtain rfl : other = number := by simpa [Label.owner] using own
          simp only [UsbipServer.callable, kept]
      | _ => first | rfl | simp [Label.owner] at own

end SameFor

/-! What the server itself knows about `receive_lock`: it is held by the thread
in a callback or in a critical section, and such a thread never waits. -/

structure Guarded (s : State) : Prop where
  receiveLock : ∀ owner, s.receiveLock = some owner ↔ s.inCritical owner = true
  outside : ∀ owner, s.waitsForFetch owner = true → s.inCritical owner = false

theorem Guarded.step (guarded : Guarded s)
    (stepped : step dev s label = some s') : Guarded s' := by
  obtain ⟨lock, outside⟩ := guarded
  -- who did not step keeps what it has
  have critical : ∀ owner, label.owner ≠ some owner →
      s'.inCritical owner = s.inCritical owner :=
    fun owner apart => (step_sameFor apart stepped).inCritical
  have waits : ∀ owner, label.owner ≠ some owner →
      s'.waitsForFetch owner = true → s'.inCritical owner = false := by
    intro owner apart waiting
    rw [(step_sameFor apart stepped).waitsForFetch] at waiting
    rw [critical owner apart]
    exact outside owner waiting
  cases own : label.owner with
  | none =>
      have apart : ∀ owner, label.owner ≠ some owner := by simp [own]
      have same : s'.receiveLock = s.receiveLock := by
        cases label with
        | interrupt =>
            obtain rfl := Option.some.inj stepped
            rfl
        | _ => simp [Label.owner] at own
      refine ⟨?_, fun owner => waits owner (apart owner)⟩
      intro owner
      rw [same, critical owner (apart owner)]
      exact lock owner
  | some actor =>
      have apart : ∀ owner, owner ≠ actor → label.owner ≠ some owner := by
        intro owner different contrary
        rw [own] at contrary
        exact different (Option.some.inj contrary).symm
      have settles : ∀ holder : Option Owner, s'.receiveLock = holder →
          (holder = some actor ↔ s'.inCritical actor = true) →
          (∀ owner, owner ≠ actor →
            (holder = some owner ↔ s.inCritical owner = true)) →
          ∀ owner, s'.receiveLock = some owner ↔
            s'.inCritical owner = true := by
        intro holder held here elsewhere owner
        rw [held]
        by_cases same : owner = actor
        · rw [same]
          exact here
        · rw [critical owner (apart owner same)]
          exact elsewhere owner same
      have nobody : (s.receiveLock = none ∨ s.receiveLock = some actor) →
          ∀ holder : Option Owner, (holder = none ∨ holder = some actor) →
          ∀ owner, owner ≠ actor →
            (holder = some owner ↔ s.inCritical owner = true) := by
        intro before holder after owner different
        rw [← lock owner]
        rcases before with before | before <;> rcases after with after | after <;>
          simp [before, after, different.symm]
      cases actor with
      | server =>
          refine ⟨?_, ?_⟩
          · cases (step_server own stepped).2 with
            | enters locks free taken inside =>
                exact settles _ taken (by simp [State.inCritical, inside])
                  (nobody (.inl free) _ (.inr rfl))
            | returns back inside freed outside =>
                exact settles _ freed (by simp [State.inCritical, outside])
                  (nobody (.inr ((lock .server).mpr inside)) _ (.inl rfl))
            | works onwards unlocked same phase =>
                refine settles _ same ?_ fun owner _ => lock owner
                simp only [State.inCritical, phase]
                exact lock .server
          · intro owner waiting
            cases owner with
            | server => contradiction
            | thread number => exact waits _ (apart _ (by simp)) waiting
      | thread thread =>
          refine ⟨?_, ?_⟩
          · cases step_thread own stepped with
            | enters locks free taken inside idle =>
                exact settles _ taken (by simp [State.inCritical, inside])
                  (nobody (.inl free) _ (.inr rfl))
            | exits exit held freed outside =>
                exact settles _ freed (by simp [State.inCritical, outside])
                  (nobody (.inr held) _ (.inl rfl))
            | calls stays unlocked same kept waits =>
                refine settles _ same ?_ fun owner _ => lock owner
                simp only [State.inCritical, kept]
                exact lock (.thread thread)
          · intro owner waiting
            by_cases here : owner = .thread thread
            · subst here
              cases step_thread own stepped with
              | enters locks free taken inside idle =>
                  obtain ⟨call, blocked⟩ := waitsForFetch_iff.mp waiting
                  rw [idle] at blocked
                  contradiction
              | exits exit held freed outside => exact outside
              | calls stays unlocked same kept waited =>
                  simp only [State.inCritical, kept]
                  rcases waited waiting with free | before
                  · exact free
                  · exact outside (.thread thread) before
            · exact waits owner (apart owner here) waiting

theorem reachable_guarded (reachable : Reachable dev s) : Guarded s := by
  refine reachable.invariant ?_ ?_
  · refine ⟨?_, ?_⟩
    · intro owner
      cases owner <;> simp [initial, State.inCritical, Phase.isCallback]
    · intro owner waiting
      cases owner <;> rfl
  · intro state label next _ earlier _ stepped
    exact earlier.step stepped

end

end UsbipServer
