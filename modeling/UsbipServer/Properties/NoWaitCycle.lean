import UsbipServer.Refine.Owners
import Mathlib.Logic.Relation

namespace UsbipServer

open Wire Library

/-! A thread that waits for the server thread to fetch data holds no mutex, so
the server thread never waits for such a thread. -/

/-- The thread is in the wait loop of `usbip_device_transmit`: asleep, or woken
and about to take `ep_access_mutex` again. -/
def Locked.inWaitLoop (locked : Locked) (owner : Owner) : Prop :=
  locked.stage owner = .sleeps ∨
    ∃ thread, locked.stage owner = .requests (.wake thread)

def Locked.requested (locked : Locked) (owner : Owner) (mutex : Mutex) : Prop :=
  ∃ label, locked.stage owner = .requests label ∧
    label.mutex locked.state = some mutex

/-- A thread waits for the one that holds the mutex it requests, and in the
wait loop for the server thread to fetch data. -/
inductive Locked.Waits (locked : Locked) : Owner → Owner → Prop
  | mutex {owner holder : Owner} {mutex : Mutex}
      (requested : locked.requested owner mutex)
      (held : locked.owner mutex = some holder) : Waits locked owner holder
  | fetch {owner : Owner} (loops : locked.inWaitLoop owner) :
      Waits locked owner .server

def Mutex.rank : Mutex → Nat
  | .epAccess => 1
  | .receive => 2

theorem Mutex.rank_pos (mutex : Mutex) : 0 < mutex.rank := by
  cases mutex <;> decide

theorem Mutex.rank_le_two (mutex : Mutex) : mutex.rank ≤ 2 := by
  cases mutex <;> decide

/-- How far a thread is from going on by itself. -/
def Locked.rank (locked : Locked) (owner : Owner) : Nat :=
  match locked.stage owner with
  | .sleeps => 3
  | .requests (.wake _) => 3
  | .requests label => ((label.mutex locked.state).map Mutex.rank).getD 0
  | _ => 0

section

variable {dev : UsbipDevice} {locked : Locked} {owner holder : Owner}

theorem Coherent.loops (coherent : Coherent locked)
    (loops : locked.inWaitLoop owner) :
    locked.state.waitsForFetch owner = true ∧
      (locked.stage owner).holding locked.state = none := by
  rcases loops with asleep | ⟨thread, requests⟩
  · rw [asleep]
    exact ⟨coherent.asleep owner asleep, rfl⟩
  · rw [requests]
    refine ⟨?_, rfl⟩
    rcases (coherent.taking owner _ (.inl requests)).called with called | waits
    · contradiction
    · exact waits.1

theorem Coherent.loops_outside (coherent : Coherent locked)
    (guarded : Guarded locked.state) (loops : locked.inWaitLoop owner) :
    owner ≠ .server ∧ ∀ mutex, locked.owner mutex ≠ some owner := by
  obtain ⟨waits, holding⟩ := coherent.loops loops
  constructor
  · rintro rfl
    contradiction
  · intro mutex held
    rw [coherent.owners, Locked.inside_iff, holding] at held
    rcases held with ⟨_, critical⟩ | contrary
    · rw [guarded.outside owner waits] at critical
      contradiction
    · contradiction

theorem rank_loops (loops : locked.inWaitLoop owner) :
    locked.rank owner = 3 := by
  unfold Locked.rank
  rcases loops with asleep | ⟨thread, requests⟩
  · rw [asleep]
  · rw [requests]

theorem rank_le_two (apart : ¬ locked.inWaitLoop owner) :
    locked.rank owner ≤ 2 := by
  unfold Locked.rank
  split
  next asleep => exact absurd (.inl asleep) apart
  next thread requests => exact absurd (.inr ⟨thread, requests⟩) apart
  next label _ _ =>
    cases label.mutex locked.state with
    | none => exact Nat.zero_le 2
    | some mutex => exact mutex.rank_le_two
  · exact Nat.zero_le 2

theorem rank_requested {mutex : Mutex}
    (requested : locked.requested owner mutex) :
    mutex.rank ≤ locked.rank owner := by
  obtain ⟨label, requests, needed⟩ := requested
  cases label with
  | wake thread =>
      rw [rank_loops (.inr ⟨thread, requests⟩)]
      exact mutex.rank_le_two.trans (by decide)
  | _ => simp [Locked.rank, requests, needed]

/-- The holder of a mutex waits at most for one that is taken after it. -/
theorem Coherent.rank_holder {mutex : Mutex} (coherent : Coherent locked)
    (guarded : Guarded locked.state)
    (held : locked.owner mutex = some holder) :
    locked.rank holder < mutex.rank := by
  have apart : ¬ locked.inWaitLoop holder := by
    intro loops
    exact (coherent.loops_outside guarded loops).2 mutex held
  have inside := (coherent.owners mutex holder).mp held
  unfold Locked.rank
  split
  next asleep => exact absurd (.inl asleep) apart
  next thread requests => exact absurd (.inr ⟨thread, requests⟩) apart
  next label _ requests =>
    -- holding and requesting at once is being in a callback or critical section
    rw [Locked.inside_iff, requests] at inside
    rcases inside with ⟨rfl, critical⟩ | contrary
    · have taking := coherent.taking holder label (.inl requests)
      cases needed : label.mutex locked.state with
      | none => exact absurd needed taking.needed
      | some other =>
          cases other with
          | epAccess => decide
          | receive =>
              rw [taking.outside needed] at critical
              contradiction
    · contradiction
  · exact mutex.rank_pos

theorem Coherent.rank_lowers (coherent : Coherent locked)
    (guarded : Guarded locked.state) (waits : locked.Waits owner holder) :
    locked.rank holder < locked.rank owner := by
  cases waits with
  | fetch loops =>
      have apart : ¬ locked.inWaitLoop .server := by
        intro contrary
        exact (coherent.loops_outside guarded contrary).1 rfl
      have below := rank_le_two apart
      rw [rank_loops loops]
      omega
  | mutex requested held =>
      exact (coherent.rank_holder guarded held).trans_le
        (rank_requested requested)

theorem Coherent.rank_chain (coherent : Coherent locked)
    (guarded : Guarded locked.state)
    (chain : Relation.TransGen locked.Waits owner holder) :
    locked.rank holder < locked.rank owner := by
  induction chain with
  | single waits => exact coherent.rank_lowers guarded waits
  | tail _ waits earlier =>
      exact (coherent.rank_lowers guarded waits).trans earlier

/-- Nobody waits for itself through others, so the server thread is never held
up by threads that wait for it to fetch their data. -/
theorem noWaitCycle
    (reached : (locking dev).Reaches Machine.anyStep initialLocked locked) :
    (∀ owner, locked.inWaitLoop owner →
      owner ≠ .server ∧ locked.owner .receive ≠ some owner ∧
        locked.owner .epAccess ≠ some owner) ∧
    (∀ owner, locked.requested owner .receive →
      locked.owner .epAccess ≠ some owner) ∧
    (∀ owner, ¬ Relation.TransGen locked.Waits owner owner) ∧
    (∀ mutex holder, locked.requested .server mutex →
      locked.owner mutex = some holder →
        ¬ Relation.TransGen locked.Waits holder .server) := by
  have coherent := reached_coherent reached
  have guarded := reachable_guarded (locked_reachable reached)
  have acyclic : ∀ owner, ¬ Relation.TransGen locked.Waits owner owner := by
    intro owner cycle
    exact lt_irrefl _ (coherent.rank_chain guarded cycle)
  refine ⟨?_, ?_, acyclic, ?_⟩
  · intro owner loops
    obtain ⟨thread, unheld⟩ := coherent.loops_outside guarded loops
    exact ⟨thread, unheld .receive, unheld .epAccess⟩
  · intro owner requested held
    have above := rank_requested requested
    have below := coherent.rank_holder guarded held
    simp only [Mutex.rank] at above below
    omega
  · intro mutex holder requested held chain
    exact acyclic .server (.head (.mutex requested held) chain)

end

def lockedAfter (dev : UsbipDevice) (labels : List LockLabel) : Locked :=
  ((locking dev).run initialLocked labels).getD initialLocked

theorem lockedAfter_reached (dev : UsbipDevice) (labels : List LockLabel) :
    (locking dev).Reaches Machine.anyStep initialLocked
      (lockedAfter dev labels) := by
  unfold lockedAfter
  cases executed : (locking dev).run initialLocked labels with
  | none => exact .refl
  | some locked => exact Machine.reaches_of_run executed

/-- Thread 0 sleeps until its first data is fetched, thread 1 is in a critical
section and holds `ep_access_mutex`, and thread 2 waits for `receive_lock`. -/
def sleeping : List LockLabel :=
  [.request (.transmit 0 1 [1]), .acquire (.thread 0), .run (.thread 0),
    .unlocked (.post 0),
    .request (.transmit 0 1 [2]), .acquire (.thread 0), .run (.thread 0),
    .request (.enter 1), .acquire (.thread 1), .run (.thread 1),
    .request (.enter 2),
    .request (.transmit 1 2 [3]), .acquire (.thread 1)]

theorem noWaitCycle_sleeping :
    (lockedAfter sampleDevice sleeping).inWaitLoop (.thread 0) ∧
      (lockedAfter sampleDevice sleeping).requested (.thread 2) .receive ∧
      (lockedAfter sampleDevice sleeping).owner .epAccess = some (.thread 1) ∧
      (lockedAfter sampleDevice sleeping).owner .receive = some (.thread 1) ∧
      ∀ owner, ¬ Relation.TransGen (lockedAfter sampleDevice sleeping).Waits
        owner owner := by
  refine ⟨.inl ?_, ⟨.enter 2, ?_, rfl⟩, ?_, ?_,
    (noWaitCycle (lockedAfter_reached sampleDevice sleeping)).2.2.1⟩
  all_goals decide +kernel

end UsbipServer
