import Mathlib.Data.List.Basic
import Mathlib.Algebra.Order.Ring.Nat

namespace UsbipServer.Library

/-! Memory buffers: overwriting a range and reading a range back.  Cells that
were never overwritten keep their earlier content. -/

def Buffer (α : Type) := Nat → α

namespace Buffer

variable {α : Type}

/-- Copy `content` into the buffer from position `offset` on. -/
def write (buffer : Buffer α) (offset : Nat) (content : List α) : Buffer α :=
  fun index =>
    if offset ≤ index then (content[index - offset]?).getD (buffer index)
    else buffer index

def slice (buffer : Buffer α) (offset length : Nat) : List α :=
  (List.range length).map fun index => buffer (offset + index)

@[simp] theorem length_slice (buffer : Buffer α) (offset length : Nat) :
    (buffer.slice offset length).length = length := by
  simp [slice]

@[simp] theorem slice_zero (buffer : Buffer α) (offset : Nat) :
    buffer.slice offset 0 = [] := rfl

theorem slice_add (buffer : Buffer α) (offset first second : Nat) :
    buffer.slice offset (first + second) =
      buffer.slice offset first ++ buffer.slice (offset + first) second := by
  simp [slice, List.range_add, Nat.add_assoc]

theorem take_slice (buffer : Buffer α) {offset length count : Nat}
    (short : count ≤ length) :
    (buffer.slice offset length).take count = buffer.slice offset count := by
  obtain ⟨rest, rfl⟩ := Nat.exists_eq_add_of_le short
  rw [slice_add]
  exact List.take_left' (length_slice buffer offset count)

theorem slice_congr {left right : Buffer α} {offset length : Nat}
    (agree : ∀ index, offset ≤ index → index < offset + length →
      left index = right index) :
    left.slice offset length = right.slice offset length := by
  apply List.map_congr_left
  intro index member
  have bound : index < length := List.mem_range.mp member
  exact agree (offset + index) (by omega) (by omega)

theorem write_of_lt (buffer : Buffer α) (content : List α)
    {offset index : Nat} (before : index < offset) :
    buffer.write offset content index = buffer index := by
  simp [write, Nat.not_le.mpr before]

theorem write_of_ge (buffer : Buffer α) (content : List α)
    {offset index : Nat} (after : offset + content.length ≤ index) :
    buffer.write offset content index = buffer index := by
  have outside : content[index - offset]? = none :=
    List.getElem?_eq_none (by omega)
  simp [write, outside]

theorem slice_write (buffer : Buffer α) (content : List α)
    (offset start length : Nat) (fits : start + length ≤ content.length) :
    (buffer.write offset content).slice (offset + start) length =
      (content.drop start).take length := by
  apply List.ext_getElem?
  intro index
  by_cases bound : index < length
  · have inside : start + index < content.length := by omega
    have position : offset + start + index - offset = start + index := by
      omega
    have after : offset ≤ offset + start + index := by omega
    simp [slice, write, bound, inside, position, after]
  · have outside : length ≤ index := Nat.le_of_not_lt bound
    rw [List.getElem?_eq_none (by simpa using outside)]
    rw [List.getElem?_eq_none (by simp; omega)]

theorem slice_write_self (buffer : Buffer α) (content : List α)
    (offset : Nat) :
    (buffer.write offset content).slice offset content.length = content := by
  have read := slice_write buffer content offset 0 content.length (by simp)
  simpa using read

theorem slice_write_before (buffer : Buffer α) (content : List α)
    {offset start length : Nat} (before : start + length ≤ offset) :
    (buffer.write offset content).slice start length =
      buffer.slice start length :=
  slice_congr fun index _ bound =>
    write_of_lt buffer content (by omega)

end Buffer

end UsbipServer.Library
