import Mathlib.Data.List.SplitLengths
import Mathlib.Data.Finset.Card
import Mathlib.Algebra.BigOperators.Group.List.Basic
import Mathlib.Algebra.Order.Ring.Nat

namespace UsbipServer.Library

/-! Pieces of a whole: cutting a list back into the pieces it was made of, and
measuring pieces that do not overlap. -/

variable {α : Type}

theorem splitLengths_flatten (pieces : List (List α)) :
    (pieces.map List.length).splitLengths pieces.flatten = pieces := by
  induction pieces with
  | nil => rfl
  | cons piece pieces induction =>
      rw [List.map_cons, List.flatten_cons, List.splitLengths_cons,
        List.take_left, List.drop_left, induction]

theorem flatMap_blocks (list : List α) (size count : Nat) :
    (List.range count).flatMap (fun index => (list.drop (index * size)).take size) =
      list.take (count * size) := by
  induction count with
  | zero => simp
  | succ count induction =>
      rw [List.range_succ, List.flatMap_append, induction, Nat.succ_mul,
        List.take_add]
      simp

theorem segment_of_range (value : Nat → α) {count : Nat}
    {before middle after : List α}
    (split : (List.range count).map value = before ++ middle ++ after) :
    middle = (List.range middle.length).map fun index =>
      value (before.length + index) := by
  apply List.ext_getElem
  · simp
  · intro index inside _
    have bound : before.length + index < count := by
      have length := congrArg List.length split
      simp only [List.length_map, List.length_range,
        List.length_append] at length
      omega
    have read := congrArg (fun values => values[before.length + index]?) split
    simp only [List.append_assoc, List.getElem?_map, List.getElem?_append,
      List.getElem?_range bound] at read
    simpa [inside] using read.symm

theorem sum_card_le_of_disjoint [DecidableEq α] {pieces : List (Finset α)}
    {whole : Finset α} (inside : ∀ piece ∈ pieces, piece ⊆ whole)
    (disjoint : pieces.Pairwise Disjoint) :
    (pieces.map Finset.card).sum ≤ whole.card := by
  induction pieces generalizing whole with
  | nil => simp
  | cons piece pieces induction =>
      obtain ⟨apart, later⟩ := List.pairwise_cons.mp disjoint
      have first : piece ⊆ whole := inside piece List.mem_cons_self
      have rest : (pieces.map Finset.card).sum ≤ (whole \ piece).card := by
        apply induction ?_ later
        intro other member
        apply Finset.subset_sdiff.mpr
        exact ⟨inside other (List.mem_cons_of_mem _ member),
          (apart other member).symm⟩
      have split := Finset.card_sdiff_add_card_eq_card first
      rw [List.map_cons, List.sum_cons]
      omega

end UsbipServer.Library
