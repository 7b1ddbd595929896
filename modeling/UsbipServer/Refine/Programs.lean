import UsbipServer.Refine.Heard
import UsbipServer.Refine.Locks

namespace UsbipServer

open Wire Library

namespace Program

variable {Statics Input : Type}

inductive Moves (program : Program Statics Input)
    (composite : Composite Statics) : Composite Statics → Prop
  | server (label : Label) (outside : label.isOutside = true)
      (uncalled : composite.server.calling label = none) {s : State}
      (stepped : UsbipServer.step program.device composite.server label =
        some s) :
      Moves program composite { composite with server := s }
  | called (clock : Nat) (input : Input) (args : CallbackArgs)
      (reaction : Reaction Statics) {s : State}
      (calling : composite.server.calling (.server clock) = some args)
      (stepped : UsbipServer.step program.device composite.server
        (.server clock) = some s)
      (handled : program.callback input args composite.statics =
        some reaction) :
      Moves program composite
        ⟨s, reaction.statics, reaction.transmits, reaction.written,
          reaction.length⟩
  | transmits (ep : Byte) (data : List Byte) (rest : List (Byte × List Byte))
      {s : State} (left : composite.transmits = (ep, data) :: rest)
      (stepped : UsbipServer.step program.device composite.server
        (.callbackTransmit ep data) = some s) :
      Moves program composite { composite with server := s, transmits := rest }
  | returns {s : State} (done : composite.transmits = [])
      (stepped : UsbipServer.step program.device composite.server
        (.callbackReturn composite.written composite.length) = some s) :
      Moves program composite { composite with server := s }
  | works (input : Input) (next : Statics)
      (idle : (composite.server.threads 0).call = .idle)
      (acts : program.main input composite.server.tcpip.stopServer
        composite.statics = some (.work next)) :
      Moves program composite { composite with statics := next }
  | enters (input : Input) (next : Statics) {s : State}
      (idle : (composite.server.threads 0).call = .idle)
      (acts : program.main input composite.server.tcpip.stopServer
        composite.statics = some (.enter next))
      (stepped : UsbipServer.step program.device composite.server (.enter 0) =
        some s) :
      Moves program composite { composite with server := s, statics := next }
  | exits (input : Input) (next : Statics) {s : State}
      (idle : (composite.server.threads 0).call = .idle)
      (acts : program.main input composite.server.tcpip.stopServer
        composite.statics = some (.exit next))
      (stepped : UsbipServer.step program.device composite.server (.exit 0) =
        some s) :
      Moves program composite { composite with server := s, statics := next }
  | sends (input : Input) (ep : Byte) (data : List Byte) (next : Statics)
      {s : State} (idle : (composite.server.threads 0).call = .idle)
      (acts : program.main input composite.server.tcpip.stopServer
        composite.statics = some (.transmit ep data next))
      (stepped : UsbipServer.step program.device composite.server
        (.transmit 0 ep data) = some s) :
      Moves program composite { composite with server := s, statics := next }
  | stops (input : Input) (next : Statics) {s : State}
      (idle : (composite.server.threads 0).call = .idle)
      (acts : program.main input composite.server.tcpip.stopServer
        composite.statics = some (.stop next))
      (stepped : UsbipServer.step program.device composite.server .interrupt =
        some s) :
      Moves program composite { composite with server := s, statics := next }

section

variable {program : Program Statics Input}
  {composite next : Composite Statics}

theorem serverStep_moves {label : Label} {input : Input}
    (outside : label.isOutside = true)
    (stepped : program.serverStep label input composite = some next) :
    program.Moves composite next := by
  obtain ⟨s, moved, continued⟩ := Option.bind_eq_some_iff.mp stepped
  cases calling : composite.server.calling label with
  | none =>
      rw [calling] at continued
      obtain rfl := Option.some.inj continued
      exact .server label outside calling moved
  | some args =>
      rw [calling] at continued
      obtain ⟨reaction, handled, rfl⟩ := Option.map_eq_some_iff.mp continued
      cases label with
      | server clock => exact .called clock input args reaction calling moved handled
      | _ => simp [State.calling] at calling

theorem callbackStep_moves
    (stepped : program.callbackStep composite = some next) :
    program.Moves composite next := by
  unfold callbackStep at stepped
  split at stepped
  next ep data rest left =>
    obtain ⟨s, moved, rfl⟩ := Option.map_eq_some_iff.mp stepped
    exact .transmits ep data rest left moved
  next done =>
    obtain ⟨s, moved, rfl⟩ := Option.map_eq_some_iff.mp stepped
    exact .returns done moved

theorem mainStep_moves {input : Input}
    (stepped : program.mainStep input composite = some next) :
    program.Moves composite next := by
  unfold mainStep at stepped
  split at stepped
  next idle =>
    cases acts : program.main input composite.server.tcpip.stopServer
        composite.statics with
    | none => simp [acts] at stepped
    | some action =>
        rw [acts] at stepped
        cases action with
        | work statics =>
            obtain rfl := Option.some.inj stepped
            exact .works input statics idle acts
        | enter statics =>
            obtain ⟨s, moved, rfl⟩ := Option.map_eq_some_iff.mp stepped
            exact .enters input statics idle acts moved
        | exit statics =>
            obtain ⟨s, moved, rfl⟩ := Option.map_eq_some_iff.mp stepped
            exact .exits input statics idle acts moved
        | transmit ep data statics =>
            obtain ⟨s, moved, rfl⟩ := Option.map_eq_some_iff.mp stepped
            exact .sends input ep data statics idle acts moved
        | stop statics =>
            obtain ⟨s, moved, rfl⟩ := Option.map_eq_some_iff.mp stepped
            exact .stops input statics idle acts moved
        | ended => contradiction
  · contradiction

theorem step_moves {label : ProgramLabel Input}
    (stepped : program.step composite label = some next) :
    program.Moves composite next := by
  cases label with
  | server label input =>
      simp only [step] at stepped
      split at stepped
      next outside => exact serverStep_moves outside stepped
      · contradiction
  | callback => exact callbackStep_moves stepped
  | main input => exact mainStep_moves stepped

/-- A step of the server belongs to each step but the main thread's own work. -/
theorem Moves.server_step (moves : program.Moves composite next) :
    next.server = composite.server ∨
      ∃ label, UsbipServer.step program.device composite.server label =
        some next.server := by
  cases moves with
  | works => exact .inl rfl
  | server _ _ _ stepped => exact .inr ⟨_, stepped⟩
  | called _ _ _ _ _ stepped => exact .inr ⟨_, stepped⟩
  | transmits _ _ _ _ stepped => exact .inr ⟨_, stepped⟩
  | returns _ stepped => exact .inr ⟨_, stepped⟩
  | enters _ _ _ _ stepped => exact .inr ⟨_, stepped⟩
  | exits _ _ _ _ stepped => exact .inr ⟨_, stepped⟩
  | sends _ _ _ _ _ _ stepped => exact .inr ⟨_, stepped⟩
  | stops _ _ _ _ stepped => exact .inr ⟨_, stepped⟩

theorem Reachable.server (reachable : program.Reachable composite) :
    UsbipServer.Reachable program.device composite.server := by
  refine Machine.Reaches.invariant (P := fun composite =>
    UsbipServer.Reachable program.device composite.server) reachable ?_ ?_
  · exact .refl
  · intro before label after _ earlier _ stepped
    rcases (step_moves stepped).server_step with same | ⟨inner, moved⟩
    · rw [same]
      exact earlier
    · exact .step earlier trivial moved

theorem Reachable.invariant {P : Composite Statics → Prop}
    (reachable : program.Reachable composite) (base : P program.initial)
    (preserved : ∀ before after, program.Reachable before → P before →
      program.Moves before after → P after) : P composite := by
  refine Machine.Reaches.invariant reachable base ?_
  intro before label after reached earlier _ stepped
  exact preserved before after reached earlier (step_moves stepped)

/-! Only the main thread uses the library from outside. -/

theorem Moves.others (moves : program.Moves composite next) {thread : Nat}
    (other : thread ≠ 0)
    (idle : composite.server.threads thread = ⟨false, .idle⟩) :
    next.server.threads thread = composite.server.threads thread := by
  have same {label : Label} {s : State}
      (stepped : UsbipServer.step program.device composite.server label =
        some s) (apart : label.owner ≠ some (.thread thread)) :
      s.threads thread = composite.server.threads thread :=
    step_sameFor apart stepped
  have main : some (Owner.thread 0) ≠ some (.thread thread) := by
    simpa using other.symm
  cases moves with
  | works => rfl
  | server label outside _ stepped =>
      by_cases own : label.owner = some (.thread thread)
      · -- it has no call to wake up or to finish
        cases step_transition stepped with
        | wakes number call busy | threadPosts number call busy =>
            obtain rfl : number = thread := by simpa [Label.owner] using own
            simp [idle] at busy
        | transmits | locks | unlocks => simp [Label.isOutside] at outside
        | _ => simp [Label.owner] at own
      · exact same stepped own
  | called _ _ _ _ _ stepped => exact same stepped (by simp [Label.owner])
  | transmits _ _ _ _ stepped => exact same stepped (by simp [Label.owner])
  | returns _ stepped => exact same stepped (by simp [Label.owner])
  | enters _ _ _ _ stepped => exact same stepped main
  | exits _ _ _ _ stepped => exact same stepped main
  | sends _ _ _ _ _ _ stepped => exact same stepped main
  | stops _ _ _ _ stepped => exact same stepped (by simp [Label.owner])

theorem Reachable.others (reachable : program.Reachable composite)
    {thread : Nat} (other : thread ≠ 0) :
    composite.server.threads thread = ⟨false, .idle⟩ := by
  refine reachable.invariant
    (P := fun composite => composite.server.threads thread = ⟨false, .idle⟩)
    rfl ?_
  intro before after _ earlier moves
  exact (moves.others other earlier).trans earlier

end

/-! A program whose main thread enters and leaves its critical section in turn
and transmits outside of it.  `inside` tells where it is from its variables. -/

structure Disciplined (program : Program Statics Input)
    (inside : Statics → Bool) : Prop where
  start : inside program.start = false
  callback : ∀ input args statics reaction,
    program.callback input args statics = some reaction →
      inside reaction.statics = inside statics
  work : ∀ input interrupted statics next,
    program.main input interrupted statics = some (.work next) →
      inside next = inside statics
  enter : ∀ input interrupted statics next,
    program.main input interrupted statics = some (.enter next) →
      inside next = true
  exit : ∀ input interrupted statics next,
    program.main input interrupted statics = some (.exit next) →
      inside next = false
  transmit : ∀ input interrupted statics ep data next,
    program.main input interrupted statics = some (.transmit ep data next) →
      inside statics = false ∧ inside next = false
  stop : ∀ input interrupted statics next,
    program.main input interrupted statics = some (.stop next) →
      inside next = inside statics

section

variable {program : Program Statics Input} {inside : Statics → Bool}
  {composite next : Composite Statics}

theorem Disciplined.step (disciplined : program.Disciplined inside)
    (earlier : (composite.server.threads 0).inCriticalSection =
      inside composite.statics) (moves : program.Moves composite next) :
    (next.server.threads 0).inCriticalSection = inside next.statics := by
  have kept {label : Label} {s : State}
      (apart : label.owner ≠ some (.thread 0))
      (stepped : UsbipServer.step program.device composite.server label =
        some s) : (s.threads 0).inCriticalSection =
          (composite.server.threads 0).inCriticalSection :=
    congrArg Thread.inCriticalSection (step_sameFor apart stepped)
  cases moves with
  | works input next idle acts =>
      exact earlier.trans (disciplined.work _ _ _ _ acts).symm
  | server label outside _ stepped =>
      refine Eq.trans ?_ earlier
      by_cases own : label.owner = some (.thread 0)
      · cases step_thread own stepped with
        | enters locks =>
            cases label <;> simp [Label.isOutside, Label.owner] at outside own
            all_goals simp [Label.mutex] at locks
        | exits exit =>
            cases label <;> simp [Label.isOutside, Label.isExit] at outside exit
        | calls _ _ _ kept => exact kept
      · exact kept own stepped
  | called clock input args reaction _ stepped handled =>
      rw [kept (by simp [Label.owner]) stepped, earlier]
      exact (disciplined.callback _ _ _ _ handled).symm
  | transmits _ _ _ _ stepped =>
      exact (kept (by simp [Label.owner]) stepped).trans earlier
  | returns _ stepped =>
      exact (kept (by simp [Label.owner]) stepped).trans earlier
  | enters input next idle acts stepped =>
      rw [disciplined.enter _ _ _ _ acts]
      cases step_transition stepped with
      | locks => simp
  | exits input next idle acts stepped =>
      rw [disciplined.exit _ _ _ _ acts]
      cases step_transition stepped with
      | unlocks => simp
  | sends input ep data next idle acts stepped =>
      obtain ⟨before, after⟩ := disciplined.transmit _ _ _ _ _ _ acts
      have own : (Label.transmit 0 ep data).owner = some (.thread 0) := rfl
      cases step_thread own stepped with
      | enters locks => simp [Label.mutex] at locks
      | exits exit => simp [Label.isExit] at exit
      | calls _ _ _ kept => rw [kept, earlier, before, after]
  | stops input next idle acts stepped =>
      rw [kept (by simp [Label.owner]) stepped, earlier]
      exact (disciplined.stop _ _ _ _ acts).symm

theorem Reachable.isInside (reachable : program.Reachable composite)
    (disciplined : program.Disciplined inside) :
    (composite.server.threads 0).inCriticalSection =
      inside composite.statics := by
  refine reachable.invariant (P := fun composite =>
    (composite.server.threads 0).inCriticalSection =
      inside composite.statics) ?_ ?_
  · exact disciplined.start.symm
  · intro before after _ earlier moves
    exact disciplined.step earlier moves

/-- A callback is only called while the main thread is outside of its critical
section. -/
theorem Reachable.called_outside (reachable : program.Reachable composite)
    (disciplined : program.Disciplined inside) {clock : Nat} {s : State}
    {args : CallbackArgs}
    (calling : composite.server.calling (.server clock) = some args)
    (stepped : UsbipServer.step program.device composite.server
      (.server clock) = some s) : inside composite.statics = false := by
  rw [← reachable.isInside disciplined, Bool.eq_false_iff]
  intro within
  have held : composite.server.receiveLock = some (.thread 0) :=
    ((reachable_guarded reachable.server).receiveLock (.thread 0)).mpr within
  simp only [State.calling] at calling
  split at calling
  next here =>
    rw [(step_enters here stepped).1] at held
    contradiction
  · contradiction

end

end Program

end UsbipServer
