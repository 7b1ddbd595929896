import Mathlib.Data.List.Basic
import Mathlib.Order.Bounds.Basic

namespace UsbipServer.Library

/-! A sweep over a list by index, which either leaves an element in its place
and moves on, or removes it and stays where it is. -/

variable {α : Type}

/-- A sweep over `queue` has looked at `seen` and stands at `index` of what is
left, `pending`. -/
structure Sweep (queue pending : List α) (index : Nat) (seen : List α) :
    Prop where
  bound : index ≤ pending.length
  split : queue = seen ++ pending.drop index
  kept : (pending.take index).Sublist seen

namespace Sweep

variable {queue pending seen : List α} {index : Nat} {element : α}

theorem start (queue : List α) : Sweep queue queue 0 [] :=
  ⟨Nat.zero_le _, rfl, .refl []⟩

theorem keep (sweep : Sweep queue pending index seen)
    (here : pending[index]? = some element) :
    Sweep queue pending (index + 1) (seen ++ [element]) := by
  obtain ⟨bound, found⟩ := List.getElem?_eq_some_iff.mp here
  refine ⟨bound, ?_, ?_⟩
  · rw [sweep.split, List.drop_eq_getElem_cons bound, found]
    simp
  · rw [List.take_add_one, here]
    exact sweep.kept.append_right _

theorem remove (sweep : Sweep queue pending index seen)
    (here : pending[index]? = some element) :
    Sweep queue (pending.eraseIdx index) index (seen ++ [element]) := by
  obtain ⟨bound, found⟩ := List.getElem?_eq_some_iff.mp here
  have short : (pending.take index).length = index := by
    simp [Nat.le_of_lt bound]
  rw [List.eraseIdx_eq_take_drop_succ]
  refine ⟨?_, ?_, ?_⟩
  · simp only [List.length_append, short]
    omega
  · rw [List.drop_left' short, sweep.split, List.drop_eq_getElem_cons bound,
      found]
    simp
  · rw [List.take_left' short]
    exact sweep.kept.trans (List.sublist_append_left _ _)

/-- At its end a sweep has looked at every element once, and what it left is in
the order it was. -/
theorem finish (sweep : Sweep queue pending index seen)
    (all : pending.length ≤ index) :
    seen = queue ∧ pending.Sublist queue := by
  have whole : pending.take index = pending := List.take_of_length_le all
  have none : pending.drop index = [] := List.drop_of_length_le all
  have complete : queue = seen := by
    rw [sweep.split, none, List.append_nil]
  refine ⟨complete.symm, ?_⟩
  rw [complete, ← whole]
  exact sweep.kept

end Sweep

/-! The least of a bound and of what the elements of a list ask for. -/

def demands (bound : Nat) (demand : α → Option Nat) (elements : List α) :
    Set Nat :=
  insert bound { value | ∃ element ∈ elements, demand element = some value }

section

variable {bound : Nat} {demand : α → Option Nat} {elements : List α}
  {element : α}

theorem demands_congr {other : α → Option Nat}
    (agree : ∀ element ∈ elements, demand element = other element) :
    demands bound demand elements = demands bound other elements := by
  unfold demands
  congr 1
  ext value
  constructor
  · rintro ⟨element, member, asked⟩
    exact ⟨element, member, (agree element member).symm.trans asked⟩
  · rintro ⟨element, member, asked⟩
    exact ⟨element, member, (agree element member).trans asked⟩

theorem demands_none (none : demand element = none) :
    demands bound demand (elements ++ [element]) =
      demands bound demand elements := by
  ext value
  simp [demands, none, or_and_right, exists_or]

theorem demands_some {value : Nat} (some : demand element = some value) :
    demands bound demand (elements ++ [element]) =
      insert value (demands bound demand elements) := by
  ext other
  simp only [demands, Set.mem_insert_iff, Set.mem_ofPred_eq, List.mem_append,
    List.mem_singleton, or_and_right, exists_or, exists_eq_left, some,
    Option.some.injEq]
  have swap : value = other ↔ other = value := eq_comm
  rw [swap, ← or_assoc, or_comm]

end

end UsbipServer.Library
