import UsbipServer.Library.Machine

namespace UsbipServer.Library

/-! Two runs of one machine side by side.  A pair of labels may be taken
together, or one of the runs moves alone. -/

namespace Machine

variable {State Label : Type}

inductive Pairs (machine : Machine State Label)
    (together : State → State → Label → Label → Prop)
    (left right : State → Label → Prop) (first second : State) :
    State → State → Prop
  | start : Pairs machine together left right first second first second
  | both {s t s' t' : State} {a b : Label} :
      Pairs machine together left right first second s t →
      together s t a b →
      machine.step s a = some s' →
      machine.step t b = some t' →
      Pairs machine together left right first second s' t'
  | left {s t s' : State} {label : Label} :
      Pairs machine together left right first second s t →
      left s label →
      machine.step s label = some s' →
      Pairs machine together left right first second s' t
  | right {s t t' : State} {label : Label} :
      Pairs machine together left right first second s t →
      right t label →
      machine.step t label = some t' →
      Pairs machine together left right first second s t'

theorem Pairs.invariant {machine : Machine State Label}
    {together : State → State → Label → Label → Prop}
    {left right : State → Label → Prop} {first second s t : State}
    {R : State → State → Prop}
    (paired : machine.Pairs together left right first second s t)
    (base : R first second)
    (both : ∀ s t a b s' t', R s t → together s t a b →
      machine.step s a = some s' → machine.step t b = some t' → R s' t')
    (onLeft : ∀ s t label s', R s t → left s label →
      machine.step s label = some s' → R s' t)
    (onRight : ∀ s t label t', R s t → right t label →
      machine.step t label = some t' → R s t') : R s t := by
  induction paired with
  | start => exact base
  | both _ same stepped alsoStepped earlier =>
      exact both _ _ _ _ _ _ earlier same stepped alsoStepped
  | left _ alone stepped earlier =>
      exact onLeft _ _ _ _ earlier alone stepped
  | right _ alone stepped earlier =>
      exact onRight _ _ _ _ earlier alone stepped

/-- Two runs that take the same labels, each of them together. -/
theorem Pairs.run {machine : Machine State Label}
    {together : State → State → Label → Label → Prop}
    {left right : State → Label → Prop} {first second s t s' t' : State}
    {allowed also : State → Label → Bool} {labels : List Label}
    (paired : machine.Pairs together left right first second s t)
    (same : ∀ s t, ∀ label ∈ labels, allowed s label = true →
      also t label = true → together s t label label)
    (onLeft : (machine.restrict allowed).run s labels = some s')
    (onRight : (machine.restrict also).run t labels = some t') :
    machine.Pairs together left right first second s' t' := by
  induction labels generalizing s t with
  | nil =>
      cases onLeft
      cases onRight
      exact paired
  | cons label rest induction =>
      simp only [Machine.run] at onLeft onRight
      cases stepped : (machine.restrict allowed).step s label with
      | none => simp [stepped] at onLeft
      | some next =>
          cases alsoStepped : (machine.restrict also).step t label with
          | none => simp [alsoStepped] at onRight
          | some following =>
              rw [stepped] at onLeft
              rw [alsoStepped] at onRight
              obtain ⟨permitted, taken⟩ := restrict_step stepped
              obtain ⟨alsoPermitted, alsoTaken⟩ := restrict_step alsoStepped
              have now := same s t label List.mem_cons_self permitted
                alsoPermitted
              refine induction (paired.both now taken alsoTaken) ?_ onLeft
                onRight
              intro s t label member
              exact same s t label (List.mem_cons_of_mem _ member)

end Machine

end UsbipServer.Library
