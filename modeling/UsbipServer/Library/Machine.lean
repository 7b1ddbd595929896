import Mathlib.Data.List.DropRight

namespace UsbipServer.Library

/-! Labelled transition systems given by a partial step function.  A run may be
restricted to steps that satisfy a condition on the state before the step and
on its label. -/

structure Machine (State Label : Type) where
  step : State → Label → Option State

namespace Machine

variable {State Label : Type}

/-- `finish` is reached from `start` by steps that all satisfy `allowed`. -/
inductive Reaches (machine : Machine State Label)
    (allowed : State → Label → Prop) (start : State) : State → Prop
  | refl : Reaches machine allowed start start
  | step {state next : State} {label : Label} :
      Reaches machine allowed start state →
      allowed state label →
      machine.step state label = some next →
      Reaches machine allowed start next

def anyStep (_ : State) (_ : Label) : Prop := True

theorem Reaches.trans {machine : Machine State Label}
    {allowed : State → Label → Prop} {start middle finish : State}
    (first : machine.Reaches allowed start middle)
    (second : machine.Reaches allowed middle finish) :
    machine.Reaches allowed start finish := by
  induction second with
  | refl => exact first
  | step _ permitted stepped earlier =>
      exact .step earlier permitted stepped

theorem Reaches.mono {machine : Machine State Label}
    {allowed weaker : State → Label → Prop} {start finish : State}
    (implied : ∀ state label, allowed state label → weaker state label)
    (reached : machine.Reaches allowed start finish) :
    machine.Reaches weaker start finish := by
  induction reached with
  | refl => exact .refl
  | step _ permitted stepped earlier =>
      exact .step earlier (implied _ _ permitted) stepped

/-- The invariant rule: what holds at the start and survives every allowed
step from a state that is reached holds in every state reached. -/
theorem Reaches.invariant {machine : Machine State Label}
    {allowed : State → Label → Prop} {start finish : State}
    {P : State → Prop}
    (reached : machine.Reaches allowed start finish)
    (base : P start)
    (preserved : ∀ state label next, machine.Reaches allowed start state →
      P state → allowed state label →
      machine.step state label = some next → P next) :
    P finish := by
  induction reached with
  | refl => exact base
  | step before permitted stepped earlier =>
      exact preserved _ _ _ before earlier permitted stepped

def run (machine : Machine State Label) : State → List Label → Option State
  | state, [] => some state
  | state, label :: rest =>
      match machine.step state label with
      | none => none
      | some next => machine.run next rest

theorem reaches_of_run {machine : Machine State Label}
    {start finish : State} {labels : List Label}
    (executed : machine.run start labels = some finish) :
    machine.Reaches anyStep start finish := by
  induction labels generalizing start with
  | nil =>
      cases executed
      exact .refl
  | cons label rest induction =>
      simp only [run] at executed
      cases stepped : machine.step start label with
      | none => simp [stepped] at executed
      | some next =>
          rw [stepped] at executed
          have first : machine.Reaches anyStep start next :=
            .step .refl trivial stepped
          exact first.trans (induction executed)

/-- The state after the given steps, or the one they start from if they are not
a run. -/
def after (machine : Machine State Label) (start : State)
    (labels : List Label) : State :=
  (machine.run start labels).getD start

theorem after_reaches (machine : Machine State Label) (start : State)
    (labels : List Label) :
    machine.Reaches anyStep start (machine.after start labels) := by
  unfold after
  cases executed : machine.run start labels with
  | none => exact .refl
  | some finish => exact reaches_of_run executed

theorem run_after {machine : Machine State Label} {start : State}
    {labels : List Label} (ran : (machine.run start labels).isSome = true) :
    machine.run start labels = some (machine.after start labels) := by
  unfold after
  cases executed : machine.run start labels with
  | none => simp [executed] at ran
  | some finish => rfl

theorem run_concat {machine : Machine State Label} {start middle : State}
    {labels : List Label} (label : Label)
    (executed : machine.run start labels = some middle) :
    machine.run start (labels ++ [label]) = machine.step middle label := by
  induction labels generalizing start with
  | nil =>
      cases executed
      simp only [List.nil_append, run]
      cases machine.step middle label <;> rfl
  | cons first rest induction =>
      simp only [run] at executed
      simp only [List.cons_append, run]
      cases stepped : machine.step start first with
      | none => simp [stepped] at executed
      | some next =>
          rw [stepped] at executed
          exact induction executed

theorem Reaches.run {machine : Machine State Label} {start finish : State}
    (reached : machine.Reaches anyStep start finish) :
    ∃ labels, machine.run start labels = some finish := by
  induction reached with
  | refl => exact ⟨[], rfl⟩
  | step _ _ stepped earlier =>
      obtain ⟨labels, executed⟩ := earlier
      exact ⟨labels ++ [_], (run_concat _ executed).trans stepped⟩

/-- The machine that refuses the steps that are not allowed. -/
def restrict (machine : Machine State Label) (allowed : State → Label → Bool) :
    Machine State Label where
  step state label :=
    if allowed state label then machine.step state label else none

theorem restrict_step {machine : Machine State Label}
    {allowed : State → Label → Bool} {state next : State} {label : Label}
    (stepped : (machine.restrict allowed).step state label = some next) :
    allowed state label = true ∧ machine.step state label = some next := by
  simp only [restrict] at stepped
  split at stepped
  next permitted => exact ⟨permitted, stepped⟩
  next => contradiction

theorem Reaches.of_restrict {machine : Machine State Label}
    {allowed : State → Label → Bool} {start finish : State}
    (reached : (machine.restrict allowed).Reaches anyStep start finish) :
    machine.Reaches (fun state label => allowed state label = true) start
      finish := by
  induction reached with
  | refl => exact .refl
  | step _ _ stepped earlier =>
      obtain ⟨permitted, taken⟩ := restrict_step stepped
      exact .step earlier permitted taken

end Machine

/-! The part of a history after the last event of a kind. -/

variable {Event : Type}

def since (boundary : Event → Bool) (history : List Event) : List Event :=
  history.rtakeWhile fun event => !boundary event

@[simp] theorem since_nil (boundary : Event → Bool) :
    since boundary ([] : List Event) = [] := by
  simp [since]

theorem since_concat (boundary : Event → Bool) (history : List Event)
    (event : Event) :
    since boundary (history ++ [event]) =
      if boundary event then [] else since boundary history ++ [event] := by
  unfold since
  rw [List.rtakeWhile_concat]
  cases boundary event <;> simp

theorem since_append (boundary : Event → Bool) (history later : List Event)
    (quiet : ∀ event ∈ later, boundary event = false) :
    since boundary (history ++ later) = since boundary history ++ later := by
  induction later using List.reverseRecOn with
  | nil => simp
  | append_singleton later event induction =>
      have last : boundary event = false := quiet event (by simp)
      have earlier : ∀ candidate ∈ later, boundary candidate = false :=
        fun candidate member => quiet candidate (by simp [member])
      rw [← List.append_assoc, since_concat, last, induction earlier]
      simp

theorem since_append_of_mem {boundary : Event → Bool} (history : List Event)
    {later : List Event} (marked : ∃ event ∈ later, boundary event = true) :
    since boundary (history ++ later) = since boundary later := by
  induction later using List.reverseRecOn with
  | nil => simp at marked
  | append_singleton later event induction =>
      rw [← List.append_assoc, since_concat, since_concat]
      split
      · rfl
      next unmarked =>
        obtain ⟨other, member, bounds⟩ := marked
        rcases List.mem_append.mp member with earlier | now
        · rw [induction ⟨other, earlier, bounds⟩]
        · rw [List.mem_singleton.mp now] at bounds
          contradiction

theorem mem_after_of_mem_since {boundary : Event → Bool}
    {before after : List Event} {event other : Event}
    (marked : boundary event = true)
    (member : other ∈ since boundary (before ++ event :: after)) :
    other ∈ after := by
  induction after using List.reverseRecOn with
  | nil =>
      rw [since_concat, marked] at member
      simp at member
  | append_singleton after last induction =>
      have shape : before ++ event :: (after ++ [last]) =
          (before ++ event :: after) ++ [last] := by
        simp
      rw [shape, since_concat] at member
      split at member
      · simp at member
      · rcases List.mem_append.mp member with earlier | now
        · exact List.mem_append_left _ (induction earlier)
        · exact List.mem_append_right _ now

theorem extended_split {history later before after : List Event}
    {event : Event} (split : history ++ later = before ++ event :: after) :
    (∃ rest, history = before ++ event :: rest) ∨
      ∃ middle, before = history ++ middle ∧
        later = middle ++ event :: after := by
  rcases List.append_eq_append_iff.mp split with
    ⟨middle, front, back⟩ | ⟨middle, front, back⟩
  · exact .inr ⟨middle, front, back⟩
  · cases middle with
    | nil =>
        rw [List.append_nil] at front
        exact .inr ⟨[], by simp [front], by simpa using back.symm⟩
    | cons first rest =>
        obtain ⟨rfl, _⟩ := List.cons.inj back
        exact .inl ⟨rest, front⟩

/-- The last event of a kind stands before everything after another one. -/
theorem mem_of_absent_after {before after front back : List Event}
    {event other : Event}
    (split : before ++ event :: after = front ++ other :: back)
    (absent : event ∉ back) (different : other ≠ event) : other ∈ after := by
  rcases List.append_eq_append_iff.mp split with
    ⟨middle, _, rest⟩ | ⟨middle, _, rest⟩
  · cases middle with
    | nil => exact absurd (List.cons.inj rest).1.symm different
    | cons first middle =>
        rw [(List.cons.inj rest).2]
        simp
  · cases middle with
    | nil => exact absurd (List.cons.inj rest).1 different
    | cons first middle =>
        refine absurd ?_ absent
        rw [(List.cons.inj rest).2]
        simp

end UsbipServer.Library
