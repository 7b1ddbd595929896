import UsbipServer.Library.Machine

namespace UsbipServer.Library

/-! Machines that keep a log.  What a step notes depends on the state before it
and on its label; the steps themselves are those of the machine. -/

namespace Machine

variable {State Label Note : Type}

def logged (machine : Machine State Label)
    (note : State → Label → List Note) : Machine (State × List Note) Label where
  step pair label :=
    (machine.step pair.1 label).map fun next =>
      (next, pair.2 ++ note pair.1 label)

variable {machine : Machine State Label} {note : State → Label → List Note}
  {state : State} {log : List Note} {label : Label}
  {next : State × List Note}

theorem logged_step
    (stepped : (machine.logged note).step (state, log) label = some next) :
    machine.step state label = some next.1 ∧
      next.2 = log ++ note state label := by
  obtain ⟨after, moved, rfl⟩ := Option.map_eq_some_iff.mp stepped
  exact ⟨moved, rfl⟩

theorem Reaches.unlogged {allowed : State × List Note → Label → Prop}
    {weaker : State → Label → Prop} {start finish : State × List Note}
    (implied : ∀ pair label, allowed pair label → weaker pair.1 label)
    (reached : (machine.logged note).Reaches allowed start finish) :
    machine.Reaches weaker start.1 finish.1 := by
  induction reached with
  | refl => exact .refl
  | step _ permitted stepped earlier =>
      exact .step earlier (implied _ _ permitted) (logged_step stepped).1

theorem Reaches.of_logged {allowed : State × List Note → Label → Prop}
    {start finish : State × List Note}
    (reached : (machine.logged note).Reaches allowed start finish) :
    machine.Reaches anyStep start.1 finish.1 :=
  reached.unlogged fun _ _ _ => trivial

end Machine

end UsbipServer.Library
