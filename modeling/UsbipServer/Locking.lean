import UsbipServer.System

namespace UsbipServer

open Wire Library

/-! The server with its two mutexes.  A section under `ep_access_mutex` is
requested, entered and left in steps of its own, and `receive_lock` is taken
and given back around the places where `in_critical_section` changes.  What a
section does is the step of the server it belongs to. -/

inductive Mutex where
  | epAccess
  | receive
  deriving DecidableEq, Repr

/-- Where a thread is in taking a mutex for the step `label`: inside
`pthread_mutex_lock`, after it, inside `pthread_cond_wait`, between clearing
`in_critical_section` and `pthread_mutex_unlock`, or at none of these. -/
inductive Stage where
  | free
  | requests (label : Label)
  | holds (label : Label)
  | sleeps
  | clears
  deriving DecidableEq, Repr

structure Locked where
  state : State
  owner : Mutex → Option Owner
  stage : Owner → Stage

/-- The thread that makes a step, none for the signal handler. -/
def Label.owner : Label → Option Owner
  | .accept _ _ => some .server
  | .server _ => some .server
  | .wait _ => some .server
  | .callbackTransmit _ _ => some .server
  | .callbackReturn _ _ => some .server
  | .transmit thread _ _ => some (.thread thread)
  | .wake thread => some (.thread thread)
  | .post thread => some (.thread thread)
  | .enter thread => some (.thread thread)
  | .exit thread => some (.thread thread)
  | .interrupt => none

/-- The mutex the server thread takes where it is.  A completion pass only
fetches for transfers that are due and not isochronous. -/
def State.serverMutex (s : State) : Option Mutex :=
  match s.phase with
  | .control _ => some .epAccess
  | .answer _ _ => some .epAccess
  | .fetchAnswered _ _ => some .epAccess
  | .fetchReply _ _ _ => some .epAccess
  | .reset _ => some .epAccess
  | .stop => some .epAccess
  | .pass now index =>
      match s.pendingUrbs[index]? with
      | none => none
      | some urb =>
          if now < urb.dueUs s.endpoints ∨ urb.isochronous then none
          else some .epAccess
  | .lock _ => some .receive
  | _ => none

def Label.mutex (s : State) : Label → Option Mutex
  | .server _ => s.serverMutex
  | .callbackTransmit _ _ => some .epAccess
  | .transmit _ _ _ => some .epAccess
  | .wake _ => some .epAccess
  | .enter _ => some .receive
  | _ => none

/-- A thread calls one function of the device at a time, and critical sections
are not nested.  Only `pthread_cond_wait` returns to the wait loop. -/
def callable (s : State) : Label → Bool
  | .server _ => true
  | .callbackTransmit _ _ =>
      match s.phase with
      | .callback none _ _ => true
      | _ => false
  | .transmit thread _ _ => (s.threads thread).call = .idle
  | .enter thread =>
      (s.threads thread).call = .idle ∧
        (s.threads thread).inCriticalSection = false
  | _ => false

def State.waitsForFetch (s : State) : Owner → Bool
  | .server => false
  | .thread thread =>
      match (s.threads thread).call with
      | .waiting _ => true
      | _ => false

namespace Locked

def goto (locked : Locked) (owner : Owner) (stage : Stage) : Locked :=
  { locked with stage := Function.update locked.stage owner stage }

def take (locked : Locked) (mutex : Mutex) (owner : Owner) : Locked :=
  { locked with owner := Function.update locked.owner mutex (some owner) }

def release (locked : Locked) (mutex : Mutex) : Locked :=
  { locked with owner := Function.update locked.owner mutex none }

end Locked

/-- The end of a section.  `ep_access_mutex` is given back at its end, or by
`pthread_cond_wait`, `receive_lock` stays taken during a callback or a critical
section. -/
def sectionDone (owner : Owner) (mutex : Mutex) (s : State)
    (locked : Locked) : Locked :=
  match mutex with
  | .epAccess =>
      ({ locked with state := s }.release .epAccess).goto owner
        (if s.waitsForFetch owner then .sleeps else .free)
  | .receive => { locked with state := s }.goto owner .free

inductive LockLabel where
  | request (label : Label)
  | acquire (owner : Owner)
  | run (owner : Owner)
  | wakeup (thread : Nat)
  | unlocked (label : Label)
  | clear (thread : Nat)
  | unlock (thread : Nat)
  deriving DecidableEq, Repr

def Label.isExit : Label → Bool
  | .exit _ => true
  | _ => false

def Label.isCallbackReturn : Label → Bool
  | .callbackReturn _ _ => true
  | _ => false

def Locked.isFree (locked : Locked) : Option Owner → Bool
  | none => true
  | some owner => locked.stage owner = .free

/-- A step that takes no mutex.  When a callback returns, `receive_lock` is
given back. -/
def unlockedStep (dev : UsbipDevice) (label : Label) (locked : Locked) :
    Option Locked :=
  if label.isExit = false ∧ locked.isFree label.owner ∧
      label.mutex locked.state = none then
    match step dev locked.state label with
    | none => none
    | some s =>
        if label.isCallbackReturn then
          some ({ locked with state := s }.release .receive)
        else some { locked with state := s }
  else none

def lockStep (dev : UsbipDevice) (locked : Locked) :
    LockLabel → Option Locked
  | .request label =>
      match label.owner with
      | none => none
      | some owner =>
          if locked.stage owner = .free ∧ callable locked.state label ∧
              (label.mutex locked.state).isSome then
            some (locked.goto owner (.requests label))
          else none
  | .acquire owner =>
      match locked.stage owner with
      | .requests label =>
          match label.mutex locked.state with
          | none => none
          | some mutex =>
              if locked.owner mutex = none then
                some ((locked.take mutex owner).goto owner (.holds label))
              else none
      | _ => none
  | .run owner =>
      match locked.stage owner with
      | .holds label =>
          match label.mutex locked.state, step dev locked.state label with
          | some mutex, some s => some (sectionDone owner mutex s locked)
          | _, _ => none
      | _ => none
  | .wakeup thread =>
      if locked.stage (.thread thread) = .sleeps then
        some (locked.goto (.thread thread) (.requests (.wake thread)))
      else none
  | .unlocked label => unlockedStep dev label locked
  | .clear thread =>
      if locked.stage (.thread thread) = .free then
        match step dev locked.state (.exit thread) with
        | none => none
        | some s => some ({ locked with state := s }.goto (.thread thread) .clears)
      else none
  | .unlock thread =>
      if locked.stage (.thread thread) = .clears then
        some ((locked.release .receive).goto (.thread thread) .free)
      else none

def initialLocked : Locked := ⟨initial, fun _ => none, fun _ => .free⟩

def locking (dev : UsbipDevice) : Machine Locked LockLabel := ⟨lockStep dev⟩

inductive LockStep (dev : UsbipDevice) (locked : Locked) : Locked → Prop
  | request (owner : Owner) (label : Label) (own : label.owner = some owner)
      (free : locked.stage owner = .free)
      (called : callable locked.state label = true)
      (needed : label.mutex locked.state ≠ none) :
      LockStep dev locked (locked.goto owner (.requests label))
  | acquire (owner : Owner) (label : Label) (mutex : Mutex)
      (requested : locked.stage owner = .requests label)
      (needed : label.mutex locked.state = some mutex)
      (unheld : locked.owner mutex = none) :
      LockStep dev locked ((locked.take mutex owner).goto owner (.holds label))
  | run (owner : Owner) (label : Label) (mutex : Mutex) (s : State)
      (held : locked.stage owner = .holds label)
      (needed : label.mutex locked.state = some mutex)
      (moved : step dev locked.state label = some s) :
      LockStep dev locked (sectionDone owner mutex s locked)
  | wakeup (thread : Nat) (asleep : locked.stage (.thread thread) = .sleeps) :
      LockStep dev locked
        (locked.goto (.thread thread) (.requests (.wake thread)))
  | unlocked (label : Label) (s : State) (stays : label.isExit = false)
      (free : locked.isFree label.owner = true)
      (needless : label.mutex locked.state = none)
      (kept : label.isCallbackReturn = false)
      (moved : step dev locked.state label = some s) :
      LockStep dev locked { locked with state := s }
  | returned (label : Label) (s : State)
      (free : locked.isFree label.owner = true)
      (back : label.isCallbackReturn = true)
      (moved : step dev locked.state label = some s) :
      LockStep dev locked ({ locked with state := s }.release .receive)
  | clear (thread : Nat) (s : State)
      (free : locked.stage (.thread thread) = .free)
      (moved : step dev locked.state (.exit thread) = some s) :
      LockStep dev locked
        ({ locked with state := s }.goto (.thread thread) .clears)
  | unlock (thread : Nat) (cleared : locked.stage (.thread thread) = .clears) :
      LockStep dev locked
        ((locked.release .receive).goto (.thread thread) .free)

theorem lockStep_cases {dev : UsbipDevice} {locked next : Locked}
    {label : LockLabel} (stepped : lockStep dev locked label = some next) :
    LockStep dev locked next := by
  cases label with
  | request label =>
      simp only [lockStep] at stepped
      split at stepped
      · contradiction
      next owner own =>
        split at stepped
        next ready =>
          obtain rfl := Option.some.inj stepped
          exact .request owner label own ready.1 ready.2.1
            (Option.isSome_iff_ne_none.mp ready.2.2)
        · contradiction
  | acquire owner =>
      simp only [lockStep] at stepped
      split at stepped
      next label requested =>
        split at stepped
        · contradiction
        next mutex needed =>
          split at stepped
          next unheld =>
            obtain rfl := Option.some.inj stepped
            exact .acquire owner label mutex requested needed unheld
          · contradiction
      · contradiction
  | run owner =>
      simp only [lockStep] at stepped
      split at stepped
      next label held =>
        split at stepped
        next mutex s needed moved =>
          obtain rfl := Option.some.inj stepped
          exact .run owner label mutex s held needed moved
        · contradiction
      · contradiction
  | wakeup thread =>
      simp only [lockStep] at stepped
      split at stepped
      next asleep =>
        obtain rfl := Option.some.inj stepped
        exact .wakeup thread asleep
      · contradiction
  | unlocked label =>
      simp only [lockStep, unlockedStep] at stepped
      split at stepped
      next ready =>
        split at stepped
        · contradiction
        next s moved =>
          cases back : label.isCallbackReturn with
          | true =>
              rw [if_pos back] at stepped
              obtain rfl := Option.some.inj stepped
              exact .returned label s ready.2.1 back moved
          | false =>
              rw [if_neg (by simp [back])] at stepped
              obtain rfl := Option.some.inj stepped
              exact .unlocked label s ready.1 ready.2.1 ready.2.2 back moved
      · contradiction
  | clear thread =>
      simp only [lockStep] at stepped
      split at stepped
      next free =>
        split at stepped
        · contradiction
        next s moved =>
          obtain rfl := Option.some.inj stepped
          exact .clear thread s free moved
      · contradiction
  | unlock thread =>
      simp only [lockStep] at stepped
      split at stepped
      next cleared =>
        obtain rfl := Option.some.inj stepped
        exact .unlock thread cleared
      · contradiction

/-- A step with the mutexes is a step of the server, or only changes who holds
or wants them. -/
theorem LockStep.state_cases {dev : UsbipDevice} {locked next : Locked}
    (stepped : LockStep dev locked next) :
    next.state = locked.state ∨
      ∃ label, step dev locked.state label = some next.state := by
  cases stepped with
  | request | acquire | wakeup | unlock => exact .inl rfl
  | run owner label mutex s held needed moved =>
      refine .inr ⟨label, ?_⟩
      cases mutex <;> exact moved
  | unlocked label s stays free needless kept moved => exact .inr ⟨label, moved⟩
  | returned label s free back moved => exact .inr ⟨label, moved⟩
  | clear thread s free moved => exact .inr ⟨_, moved⟩

theorem locked_reachable {dev : UsbipDevice} {locked : Locked}
    (reached : (locking dev).Reaches Machine.anyStep initialLocked locked) :
    Reachable dev locked.state := by
  refine reached.invariant (P := fun locked => Reachable dev locked.state) ?_ ?_
  · exact .refl
  · intro before label next _ earlier _ stepped
    rcases (lockStep_cases stepped).state_cases with same | ⟨label, moved⟩
    · rw [same]
      exact earlier
    · exact .step earlier trivial moved

end UsbipServer
