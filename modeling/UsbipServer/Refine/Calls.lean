import UsbipServer.Spec.Calls
import UsbipServer.Refine.Mailbox

namespace UsbipServer

open Wire Library CallLog

/-! The reset generation keeps the calls to the rules of the call log, as long
as it does not come round while a call waits. -/

/-- No waiting call has seen the generation come round. -/
def ResetBound (s : State) : Prop :=
  ∀ thread call before after, (s.threads thread).call = .waiting call →
    s.trace = before ++ .entered call :: after →
    after.countP Event.isReset < 2 ^ 32

structure Logs (s : State) (log : CallLog) : Prop where
  calls : log.calls = s.calls
  generation : ∀ call resets, (call, resets) ∈ log.entries →
    s.device.resetGeneration = call.generation + UInt32.ofNat resets
  waiting : ∀ thread call, (s.threads thread).call = .waiting call →
    ∃ resets, (call, resets) ∈ log.entries

theorem resets_eq_zero {generation current : UInt32} {resets : Nat}
    (counted : current = generation + UInt32.ofNat resets)
    (same : generation = current) (bound : resets < 2 ^ 32) : resets = 0 := by
  have words := congrArg UInt32.toNat counted
  rw [← same, UInt32.toNat_add, UInt32.toNat_ofNat'] at words
  have small := generation.toNat_lt
  omega

section

variable {dev : UsbipDevice} {s s' : State} {log : CallLog}
  {current : Nat → Prop}

theorem Logs.unmoved (logs : Logs s log) (calls : s'.calls = s.calls)
    (generation : s'.device.resetGeneration = s.device.resetGeneration)
    (waiting : ∀ thread call, (s'.threads thread).call = .waiting call →
      (s.threads thread).call = .waiting call) : Logs s' log := by
  refine ⟨logs.calls.trans calls.symm, ?_, ?_⟩
  · intro call resets entry
    rw [generation]
    exact logs.generation call resets entry
  · intro thread call blocked
    exact logs.waiting thread call (waiting thread call blocked)

theorem waiting_setCall {start : State} {thread : Nat} {phase : CallPhase}
    {call : Call} {place : Nat} (threads : start.threads = s.threads)
    (blocked : ((setCall start thread phase).threads place).call =
      .waiting call) :
    phase = .waiting call ∨ (s.threads place).call = .waiting call := by
  simp only [setCall] at blocked
  by_cases here : place = thread
  · subst here
    rw [Function.update_self] at blocked
    exact .inl blocked
  · rw [Function.update_of_ne here, threads] at blocked
    exact .inr blocked

theorem Section.generation {mayWait : Bool} {device device' : DeviceState}
    {call : Call} {phase : CallPhase} {events : List Event}
    (ran : Section mayWait device call device' phase events) :
    device'.resetGeneration = device.resetGeneration := by
  cases ran <;> rfl

/-- The locked section only stores when the generation is that of the call. -/
theorem Section.logged {mayWait : Bool} {device device' : DeviceState}
    {call : Call} {phase : CallPhase} {events : List Event}
    (ran : Section mayWait device call device' phase events)
    (entry : call.generation = device.resetGeneration →
      ∃ resets, (call, resets) ∈ log.entries ∧ current resets) :
    Steps (CallLog.Step current) log events log := by
  cases ran with
  | waiting => exact .nil
  | stored running same =>
      obtain ⟨resets, known, allowed⟩ := entry same
      unfold storedEvents
      split
      · exact .cons (.stored known allowed) (.single (.other rfl))
      · exact .single (.stored known allowed)
  | dropped => exact .single (.other rfl)

def CallLog.enter (log : CallLog) (call : Call) : CallLog :=
  ⟨log.calls + 1, (call, 0) :: log.entries⟩

theorem Logs.enter (logs : Logs s log) (ep : Byte) (data : List Byte)
    (calls : s'.calls = s.calls + 1)
    (generation : s'.device.resetGeneration = s.device.resetGeneration)
    (waiting : ∀ thread call, (s'.threads thread).call = .waiting call →
      call = newCall s ep data ∨ (s.threads thread).call = .waiting call) :
    Logs s' (log.enter (newCall s ep data)) := by
  refine ⟨?_, ?_, ?_⟩
  · rw [calls, ← logs.calls]
    rfl
  · intro call resets entry
    rw [generation]
    rcases List.mem_cons.mp entry with new | known
    · cases new
      simp [newCall]
    · exact logs.generation call resets known
  · intro thread call blocked
    rcases waiting thread call blocked with rfl | before
    · exact ⟨0, List.mem_cons_self⟩
    · obtain ⟨resets, known⟩ := logs.waiting thread call before
      exact ⟨resets, List.mem_cons_of_mem _ known⟩

theorem Logs.entered_steps (logs : Logs s log) (zero : current 0)
    {mayWait : Bool} {ep : Byte} {data : List Byte} {device : DeviceState}
    {phase : CallPhase} {events : List Event}
    (ran : Section mayWait s.device (newCall s ep data) device phase events) :
    Steps (CallLog.Step current) log (.entered (newCall s ep data) :: events)
      (log.enter (newCall s ep data)) :=
  .cons (.entered logs.calls.symm)
    (ran.logged fun _ => ⟨0, List.mem_cons_self, zero⟩)

/-- A call that wakes up with its own generation saw no reset. -/
theorem Logs.unreset (logs : Logs s log)
    (run : CallLog.Run (· = 0) s.trace log)
    (bound : ResetBound s) {thread : Nat} {call : Call}
    (blocked : (s.threads thread).call = .waiting call)
    (same : call.generation = s.device.resetGeneration) :
    (call, 0) ∈ log.entries := by
  obtain ⟨resets, known⟩ := logs.waiting thread call blocked
  obtain ⟨before, after, split, counted⟩ := entry_counts run known
  have few := bound thread call before after blocked split
  rw [counted] at few
  have none := resets_eq_zero (logs.generation call resets known) same few
  rw [none] at known
  exact known

theorem Logs.reset (logs : Logs s log) (calls : s'.calls = s.calls)
    (generation :
      s'.device.resetGeneration = s.device.resetGeneration + 1)
    (threads : s'.threads = s.threads) :
    Logs s' ⟨log.calls, log.entries.map fun entry =>
      (entry.1, entry.2 + 1)⟩ := by
  refine ⟨logs.calls.trans calls.symm, ?_, ?_⟩
  · intro call resets entry
    obtain ⟨⟨owner, count⟩, known, same⟩ := List.mem_map.mp entry
    cases same
    rw [generation, logs.generation owner count known, UInt32.ofNat_add,
      UInt32.add_assoc]
    rfl
  · intro thread call blocked
    rw [threads] at blocked
    obtain ⟨resets, known⟩ := logs.waiting thread call blocked
    exact ⟨resets + 1, List.mem_map.mpr ⟨_, known, rfl⟩⟩

def Logged (current : Nat → Prop) (log : CallLog) (s s' : State) : Prop :=
  ∃ events next, s'.trace = s.trace ++ events ∧
    Steps (CallLog.Step current) log events next ∧ Logs s' next

def Wakes (current : Nat → Prop) (log : CallLog) (s : State) : Prop :=
  ∀ thread call, (s.threads thread).call = .waiting call →
    call.generation = s.device.resetGeneration →
    ∃ resets, (call, resets) ∈ log.entries ∧ current resets

theorem Logs.free {events : List Event} (logs : Logs s log)
    (traced : s'.trace = s.trace ++ events)
    (free : ∀ event ∈ events, event.isCallFree = true)
    (calls : s'.calls = s.calls)
    (generation : s'.device.resetGeneration = s.device.resetGeneration)
    (waiting : ∀ thread call, (s'.threads thread).call = .waiting call →
      (s.threads thread).call = .waiting call) : Logged current log s s' :=
  ⟨events, log, traced, free_steps free,
    logs.unmoved calls generation waiting⟩

theorem Local.logged (acted : Local s s') (logs : Logs s log)
    (zero : current 0) (wakes : Wakes current log s) :
    Logged current log s s' := by
  have still : s.trace = s.trace ++ [] := by simp
  cases acted with
  | idle => exact logs.free still (by simp) rfl rfl fun _ _ => id
  | flags device data stopped generation =>
      exact logs.free still (by simp) rfl generation fun _ _ => id
  | serverTransmit ep data there posting ran =>
      refine ⟨_, _, rfl, logs.entered_steps zero ran, ?_⟩
      exact logs.enter ep data rfl ran.generation fun _ _ => .inr
  | serverPost =>
      exact logs.free rfl (by simp [Event.isCallFree]) rfl rfl fun _ _ => id
  | transmit thread ep data idle ran =>
      refine ⟨_, _, rfl, logs.entered_steps zero ran, ?_⟩
      refine logs.enter ep data rfl ran.generation ?_
      intro place call blocked
      rcases waiting_setCall rfl blocked with new | before
      · exact .inl (ran.waits new).1
      · exact .inr before
  | wake thread call blocked ran =>
      refine ⟨_, log, rfl, ran.logged (wakes thread call blocked), ?_⟩
      refine logs.unmoved rfl ran.generation ?_
      intro place other again
      by_cases here : place = thread
      · subst here
        simp only [setCall, Function.update_self] at again
        rw [(ran.waits again).1]
        exact blocked
      · simp only [setCall, State.emit] at again
        rw [Function.update_of_ne here] at again
        exact again
  | post thread call stored =>
      refine logs.free rfl (by simp [Event.isCallFree]) rfl rfl ?_
      intro place other blocked
      exact (waiting_setCall rfl blocked).resolve_left (by simp)
  | critical threads same =>
      refine logs.free still (by simp) rfl rfl ?_
      intro place call blocked
      rw [← same place]
      exact blocked
  | control =>
      exact logs.free rfl (by simp [Event.isCallFree]) rfl rfl fun _ _ => id
  | reset => exact ⟨_, _, rfl, .single .reset, logs.reset rfl rfl rfl⟩
  | stop =>
      exact logs.free rfl (by simp [Event.isCallFree]) rfl rfl fun _ _ => id

theorem Event.isCallFree_of_quiet {event : Event}
    (quiet : event.isQuiet = true) : event.isCallFree = true := by
  cases event <;> first | rfl | simp [Event.isQuiet, Event.isSession] at quiet

theorem Acts.logged (acted : Acts s s') (logs : Logs s log)
    (zero : current 0) (wakes : Wakes current log s) :
    Logged current log s s' := by
  rcases acted with ⟨middle, performed, apart, _⟩ | fetches
  · obtain ⟨events, next, traced, steps, reached⟩ :=
      performed.logged logs zero wakes
    obtain ⟨device, threads, calls, _, more, continued, quiet⟩ := apart
    refine ⟨events ++ more, next, ?_, steps.append (free_steps ?_), ?_⟩
    · rw [continued, traced, List.append_assoc]
    · intro event member
      exact Event.isCallFree_of_quiet (quiet event member)
    · refine reached.unmoved calls (by rw [device]) ?_
      intro thread call blocked
      rw [← threads]
      exact blocked
  · obtain ⟨_, _, threads, calls, ep, length, transfer, events, _, device,
      traced, follow⟩ := fetches
    refine logs.free traced ?_ calls (by rw [device]; rfl) ?_
    · intro event member
      rcases List.mem_cons.mp member with rfl | member
      · rfl
      · rcases follow with ⟨reply, rfl, _⟩ | ⟨quiet, _⟩
        · rw [List.mem_singleton.mp member]
          rfl
        · exact Event.isCallFree_of_quiet (quiet event member)
    · intro thread call blocked
      rw [← threads]
      exact blocked

theorem Logs.initial : Logs initial CallLog.empty :=
  ⟨rfl, by simp [CallLog.empty], by simp [UsbipServer.initial]⟩

theorem reached_logged
    (reached : (server dev).Reaches (fun s _ => ResetBound s) initial s) :
    ∃ log, CallLog.Run (· = 0) s.trace log ∧ Logs s log := by
  refine device_invariant (P := fun s =>
    ∃ log, CallLog.Run (· = 0) s.trace log ∧ Logs s log) reached
    ⟨_, .nil, .initial⟩ ?_
  intro state label next _ bound earlier acted
  obtain ⟨log, run, logs⟩ := earlier
  have wakes : Wakes (· = 0) log state :=
    fun _ _ blocked same => ⟨0, logs.unreset run bound blocked same, rfl⟩
  have logged : Logged (· = 0) log state next := acted.logged logs rfl wakes
  obtain ⟨events, later, traced, steps, extended⟩ := logged
  refine ⟨later, ?_, extended⟩
  rw [traced]
  exact run.append steps

/-- Without a bound on the resets, calls still enter once and before they
store. -/
theorem reachable_logged (reachable : Reachable dev s) :
    ∃ log, CallLog.Run (fun _ => True) s.trace log ∧ Logs s log := by
  refine reachable.device_invariant (P := fun s =>
    ∃ log, CallLog.Run (fun _ => True) s.trace log ∧ Logs s log)
    ⟨_, .nil, .initial⟩ ?_
  intro state next _ earlier acted
  obtain ⟨log, run, logs⟩ := earlier
  have wakes : Wakes (fun _ => True) log state := by
    intro thread call blocked _
    obtain ⟨resets, known⟩ := logs.waiting thread call blocked
    exact ⟨resets, known, trivial⟩
  obtain ⟨events, later, traced, steps, extended⟩ :=
    acted.logged logs trivial wakes
  refine ⟨later, ?_, extended⟩
  rw [traced]
  exact run.append steps

end

end UsbipServer
