import Mathlib.Logic.Relation

namespace UsbipServer.Library

variable {State Label : Type} {relation : State → Label → State → Prop}

inductive Steps (relation : State → Label → State → Prop) :
    State → List Label → State → Prop
  | nil {state : State} : Steps relation state [] state
  | cons {first second third : State} {label : Label} {labels : List Label} :
      relation first label second →
      Steps relation second labels third →
      Steps relation first (label :: labels) third

namespace Steps

theorem single {first second : State} {label : Label}
    (stepped : relation first label second) :
    Steps relation first [label] second :=
  .cons stepped .nil

theorem append {first second third : State} {before after : List Label}
    (early : Steps relation first before second)
    (late : Steps relation second after third) :
    Steps relation first (before ++ after) third := by
  induction early with
  | nil => exact late
  | cons stepped _ induction => exact .cons stepped (induction late)

theorem split {first third : State} (before after : List Label)
    (steps : Steps relation first (before ++ after) third) :
    ∃ second, Steps relation first before second ∧
      Steps relation second after third := by
  induction before generalizing first with
  | nil => exact ⟨first, .nil, steps⟩
  | cons label rest induction =>
      cases steps with
      | cons stepped later =>
          obtain ⟨second, early, late⟩ := induction later
          exact ⟨second, .cons stepped early, late⟩

theorem at_event {first third : State} {before after : List Label}
    {label : Label}
    (steps : Steps relation first (before ++ label :: after) third) :
    ∃ second next, Steps relation first before second ∧
      relation second label next ∧ Steps relation next after third := by
  obtain ⟨second, early, late⟩ := split before (label :: after) steps
  cases late with
  | cons stepped later => exact ⟨second, _, early, stepped, later⟩

theorem history {first last : State} {labels : List Label}
    {P : List Label → State → Prop}
    (steps : Steps relation first labels last) (base : P [] first)
    (preserved : ∀ seen state label next, P seen state →
      relation state label next → P (seen ++ [label]) next) :
    P labels last := by
  have general : ∀ seen, P seen first → P (seen ++ labels) last := by
    clear base
    induction steps with
    | nil => intro seen held; simpa using held
    | @cons state second third label rest stepped later induction =>
        intro seen held
        have next := preserved seen state label second held stepped
        have final := induction (seen ++ [label]) next
        simpa using final
  simpa using general [] base

end Steps

end UsbipServer.Library
