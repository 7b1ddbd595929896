import UsbipServer.Library.Buffer
import Mathlib.Data.List.Forall2

namespace UsbipServer.Library

/-! Buffers of a fixed size, of which the first cells are in use.  An access
that leaves the buffer has no result. -/

namespace Buffer

variable {α β : Type} {buffer : Buffer α} {size offset length count : Nat}

def store (size : Nat) (buffer : Buffer α) (offset : Nat)
    (content : List α) : Option (Buffer α) :=
  if offset + content.length ≤ size then some (buffer.write offset content)
  else none

def load (size : Nat) (buffer : Buffer α) (offset length : Nat) :
    Option (List α) :=
  if offset + length ≤ size then some (buffer.slice offset length) else none

/-- Move `length` cells from `source` to `target`; the ranges may overlap. -/
def move (size : Nat) (buffer : Buffer α) (target source length : Nat) :
    Option (Buffer α) :=
  (buffer.load size source length).bind (buffer.store size target)

theorem store_eq {content : List α} (inside : offset + content.length ≤ size) :
    buffer.store size offset content = some (buffer.write offset content) :=
  if_pos inside

theorem load_eq (inside : offset + length ≤ size) :
    buffer.load size offset length = some (buffer.slice offset length) :=
  if_pos inside

theorem move_eq {target source : Nat} (inward : source + length ≤ size)
    (outward : target + length ≤ size) :
    buffer.move size target source length =
      some (buffer.write target (buffer.slice source length)) := by
  unfold move
  rw [load_eq inward]
  exact store_eq (by rw [length_slice]; exact outward)

theorem write_nil (buffer : Buffer α) (offset : Nat) :
    buffer.write offset [] = buffer := by
  funext index
  simp [write]

theorem drop_slice (buffer : Buffer α) {first : Nat} (short : first ≤ length) :
    (buffer.slice offset length).drop first =
      buffer.slice (offset + first) (length - first) := by
  obtain ⟨rest, rfl⟩ := Nat.exists_eq_add_of_le short
  rw [slice_add, Nat.add_sub_cancel_left]
  exact List.drop_left' (length_slice buffer offset first)

theorem slice_push (buffer : Buffer α) (count : Nat) (value : α) :
    (buffer.write count [value]).slice 0 (count + 1) =
      buffer.slice 0 count ++ [value] := by
  have front := slice_write_before buffer [value] (Nat.le_of_eq (Nat.zero_add count))
  have last := slice_write_self buffer [value] count
  rw [slice_add, front, Nat.zero_add]
  exact congrArg (buffer.slice 0 count ++ ·) last

theorem slice_move_erase (buffer : Buffer α) {index : Nat}
    (inside : index < count) :
    (buffer.write index (buffer.slice (index + 1) (count - 1 - index))).slice 0
        (count - 1) =
      (buffer.slice 0 count).eraseIdx index := by
  obtain ⟨rest, rfl⟩ := Nat.exists_eq_add_of_lt inside
  have moved := slice_write_self buffer (buffer.slice (index + 1) rest) index
  rw [length_slice] at moved
  have behind : index + rest + 1 - (index + 1) = rest := by omega
  rw [List.eraseIdx_eq_take_drop_succ, take_slice buffer (Nat.le_of_lt inside),
    drop_slice buffer inside, Nat.zero_add, behind, Nat.add_sub_cancel,
    Nat.add_sub_cancel_left, slice_add,
    slice_write_before _ _ (Nat.le_of_eq (Nat.zero_add index)), Nat.zero_add,
    moved]

theorem slice_move_front (buffer : Buffer α) {first : Nat}
    (short : first ≤ count) :
    (buffer.write 0 (buffer.slice first (count - first))).slice 0
        (count - first) =
      (buffer.slice 0 count).drop first := by
  have moved := slice_write_self buffer (buffer.slice first (count - first)) 0
  rw [length_slice] at moved
  rw [moved, drop_slice buffer short, Nat.zero_add]

end Buffer

theorem forall₂_eraseIdx {α β : Type} {related : α → β → Prop}
    {left : List α} {right : List β} (agree : List.Forall₂ related left right)
    (index : Nat) :
    List.Forall₂ related (left.eraseIdx index) (right.eraseIdx index) := by
  induction agree generalizing index with
  | nil => exact .nil
  | cons first rest induction =>
      cases index with
      | zero => exact rest
      | succ index => exact .cons first (induction index)

theorem forall₂_push {α β : Type} {related : α → β → Prop}
    {left : List α} {right : List β} {first : α} {second : β}
    (agree : List.Forall₂ related left right) (last : related first second) :
    List.Forall₂ related (left ++ [first]) (right ++ [second]) :=
  List.rel_append agree (.cons last .nil)

end UsbipServer.Library
