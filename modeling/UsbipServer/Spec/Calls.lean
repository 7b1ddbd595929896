import UsbipServer.Spec.Mailbox

namespace UsbipServer

open Wire Library

/-! What a transmit call may do across resets: how many resets there may be
between its entering and its storing.  `current` says which numbers are
allowed. -/

def Event.isCallFree : Event → Bool
  | .entered _ => false
  | .stored _ => false
  | .reset => false
  | _ => true

def Event.enteredId : Event → Option Nat
  | .entered call => some call.id
  | _ => none

/-- The number of calls so far and the calls, each with the number of resets
since it entered. -/
structure CallLog where
  calls : Nat
  entries : List (Call × Nat)

namespace CallLog

def empty : CallLog := ⟨0, []⟩

inductive Step (current : Nat → Prop) : CallLog → Event → CallLog → Prop
  | entered {log : CallLog} {call : Call} (fresh : call.id = log.calls) :
      Step current log (.entered call)
        ⟨log.calls + 1, (call, 0) :: log.entries⟩
  | stored {log : CallLog} {call : Call} {resets : Nat}
      (entry : (call, resets) ∈ log.entries) (allowed : current resets) :
      Step current log (.stored call) log
  | reset {log : CallLog} :
      Step current log .reset
        ⟨log.calls, log.entries.map fun entry => (entry.1, entry.2 + 1)⟩
  | other {log : CallLog} {event : Event} (free : event.isCallFree = true) :
      Step current log event log

abbrev Run (current : Nat → Prop) := Steps (Step current) empty

variable {current : Nat → Prop}

theorem free_steps {log : CallLog} {events : List Event}
    (free : ∀ event ∈ events, event.isCallFree = true) :
    Steps (Step current) log events log := by
  induction events with
  | nil => exact .nil
  | cons event rest induction =>
      refine .cons (.other (free event (by simp))) (induction ?_)
      intro later member
      exact free later (by simp [member])

theorem enteredIds {trace : List Event} {log : CallLog}
    (run : Run current trace log) :
    trace.filterMap Event.enteredId = List.range log.calls := by
  refine run.history (P := fun seen log =>
    seen.filterMap Event.enteredId = List.range log.calls) rfl ?_
  intro seen log event next earlier stepped
  rw [List.filterMap_append, earlier]
  cases stepped with
  | entered fresh =>
      rw [List.range_succ]
      simp [Event.enteredId, fresh]
  | stored => simp [Event.enteredId]
  | reset => simp [Event.enteredId]
  | other free =>
      cases event <;> simp_all [Event.isCallFree, Event.enteredId]

theorem entered_once {before after : List Event} {call other : Call}
    {log : CallLog} (run : Run current (before ++ .entered call :: after) log)
    (again : Event.entered other ∈ before ∨ Event.entered other ∈ after) :
    other.id ≠ call.id := by
  have distinct : ((before ++ .entered call :: after).filterMap
      Event.enteredId).Nodup := by
    rw [enteredIds run]
    exact List.nodup_range
  have seen : ∀ {events : List Event}, Event.entered other ∈ events →
      other.id ∈ events.filterMap Event.enteredId := by
    intro events member
    exact List.mem_filterMap.mpr ⟨_, member, rfl⟩
  simp only [List.filterMap_append, List.filterMap_cons, Event.enteredId,
    List.nodup_append, List.nodup_cons] at distinct
  rcases again with early | late
  · exact distinct.2.2 _ (seen early) _ List.mem_cons_self
  · intro same
    refine distinct.2.1.1 ?_
    rw [← same]
    exact seen late

/-! Each entry counts the resets since its call entered. -/

theorem entry_counts {trace : List Event} {log : CallLog}
    (run : Run current trace log) {call : Call} {resets : Nat}
    (entry : (call, resets) ∈ log.entries) :
    ∃ before after, trace = before ++ .entered call :: after ∧
      after.countP Event.isReset = resets := by
  revert call resets
  refine run.history (P := fun seen log => ∀ {call resets},
    (call, resets) ∈ log.entries →
      ∃ before after, seen = before ++ .entered call :: after ∧
        after.countP Event.isReset = resets) ?_ ?_
  · intro call resets entry
    simp [empty] at entry
  · intro seen log event next earlier stepped call resets entry
    have later : ∀ {count}, (call, count) ∈ log.entries →
        ∃ before after, seen ++ [event] = before ++ .entered call :: after ∧
          after.countP Event.isReset =
            count + [event].countP Event.isReset := by
      intro count known
      obtain ⟨before, after, rfl, counted⟩ := earlier known
      exact ⟨before, after ++ [event], by simp, by simp [counted]⟩
    cases stepped with
    | entered fresh =>
        rcases List.mem_cons.mp entry with new | known
        · cases new
          exact ⟨seen, [], rfl, rfl⟩
        · exact later known
    | stored => exact later entry
    | reset =>
        obtain ⟨⟨_, count⟩, known, same⟩ := List.mem_map.mp entry
        cases same
        exact later known
    | other free =>
        have uncounted : event.isReset = false := by
          cases event <;> simp_all [Event.isCallFree, Event.isReset]
        simpa [uncounted] using later entry

theorem stored_counts {before after : List Event} {call : Call}
    {log : CallLog} (run : Run current (before ++ .stored call :: after) log) :
    ∃ front back, before = front ++ .entered call :: back ∧
      current (back.countP Event.isReset) := by
  obtain ⟨reached, _, early, stepped, _⟩ := run.at_event
  cases stepped with
  | stored entry allowed =>
      obtain ⟨front, back, rfl, counted⟩ := entry_counts early entry
      rw [← counted] at allowed
      exact ⟨front, back, rfl, allowed⟩
  | other free => simp [Event.isCallFree] at free

theorem stored_unique {trace : List Event} {call other : Call}
    {log : CallLog} (run : Run current trace log)
    (stored : Event.stored call ∈ trace) (entered : Event.entered other ∈ trace)
    (same : other.id = call.id) : other = call := by
  obtain ⟨before, after, rfl⟩ := List.append_of_mem stored
  obtain ⟨front, back, rfl, _⟩ := stored_counts run
  have shape : (front ++ .entered call :: back) ++ .stored call :: after =
      front ++ .entered call :: (back ++ .stored call :: after) := by
    simp
  rw [shape] at run entered
  rcases List.mem_append.mp entered with early | later
  · exact absurd same (entered_once run (.inl early))
  · rcases List.mem_cons.mp later with here | late
    · exact Event.entered.inj here
    · exact absurd same (entered_once run (.inr late))

theorem stored_recent {before after : List Event} {call : Call}
    {log : CallLog}
    (run : Run (· = 0) (before ++ .stored call :: after) log) :
    ∃ front back, before = front ++ .entered call :: back ∧
      Event.reset ∉ back := by
  obtain ⟨front, back, rfl, counted⟩ := stored_counts run
  refine ⟨front, back, rfl, ?_⟩
  intro member
  exact List.countP_eq_zero.mp counted _ member rfl

section

variable {before between after : List Event} {call : Call} {log : CallLog}

theorem not_stored_after {other : Call}
    (run : Run (· = 0)
      (before ++ .entered call :: (between ++ .reset :: after)) log)
    (same : other.id = call.id) : Event.stored other ∉ after := by
  intro member
  obtain ⟨early, late, rfl⟩ := List.append_of_mem member
  have shape : before ++ .entered call ::
        (between ++ .reset :: (early ++ .stored other :: late)) =
      ((before ++ .entered call :: between) ++ .reset :: early) ++
        .stored other :: late := by
    simp
  have again := run
  rw [shape] at again
  obtain ⟨front, back, entered, absent⟩ := stored_recent again
  have inside : Event.entered other ∈ early :=
    mem_of_absent_after entered absent (by simp)
  exact entered_once run (.inr (by simp [inside])) same

theorem stored_between
    (run : Run (· = 0)
      (before ++ .entered call :: (between ++ .reset :: after)) log)
    (stored : Event.stored call ∈
      before ++ .entered call :: (between ++ .reset :: after)) :
    Event.stored call ∈ between := by
  simp only [List.mem_append, List.mem_cons, reduceCtorEq, false_or] at stored
  rcases stored with early | inside | late
  · obtain ⟨front, back, rfl⟩ := List.append_of_mem early
    have again := run
    rw [List.append_assoc, List.cons_append] at again
    obtain ⟨_, _, entered, _⟩ := stored_recent again
    exact absurd rfl (entered_once run (.inl (by simp [entered])))
  · exact inside
  · exact absurd late (not_stored_after run rfl)

end

end CallLog

end UsbipServer
