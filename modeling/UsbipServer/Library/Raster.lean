import UsbipServer.Library.Buffer

namespace UsbipServer.Library

/-! Images stored row by row, and blocks of them that are overwritten row by
row. -/

/-- The `span` cells from `left` on in each of the `height` rows from `top`
on. -/
structure Block where
  left : Nat
  top : Nat
  span : Nat
  height : Nat
  deriving DecidableEq, Repr

/-- Where a cell of the image is in the block, counted row by row. -/
def Block.place (block : Block) (pitch index : Nat) : Option Nat :=
  let row := index / pitch
  let column := index % pitch
  if block.top ≤ row ∧ row < block.top + block.height ∧
      block.left ≤ column ∧ column < block.left + block.span then
    some ((row - block.top) * block.span + (column - block.left))
  else none

/-- The block in an image whose cells are cut into `unit` parts each. -/
def Block.widen (block : Block) (unit : Nat) : Block :=
  ⟨unit * block.left, block.top, unit * block.span, block.height⟩

namespace Buffer

variable {α : Type}

def paste (image : Buffer α) (pitch : Nat) (block : Block)
    (content : Buffer α) : Buffer α := fun index =>
  match block.place pitch index with
  | some place => content place
  | none => image index

/-- The image with the first rows of the block copied. -/
def copyRows (image : Buffer α) (pitch : Nat) (block : Block)
    (content : Buffer α) : Nat → Buffer α
  | 0 => image
  | rows + 1 =>
      (image.copyRows pitch block content rows).write
        ((block.top + rows) * pitch + block.left)
        (content.slice (rows * block.span) block.span)

theorem getElem?_slice (buffer : Buffer α) {start length index : Nat}
    (within : index < length) :
    (buffer.slice start length)[index]? = some (buffer (start + index)) := by
  simp [slice, within]

theorem write_inside (buffer : Buffer α) (content : Buffer α)
    {offset start length index : Nat} (after : offset ≤ index)
    (before : index < offset + length) :
    buffer.write offset (content.slice start length) index =
      content (start + (index - offset)) := by
  have bound : index - offset < length := by omega
  simp [write, after, getElem?_slice _ bound]

end Buffer

section

variable {block : Block} {pitch : Nat}

theorem Block.place_row {row column : Nat} (inside : column < pitch) :
    block.place pitch (row * pitch + column) =
      if block.top ≤ row ∧ row < block.top + block.height ∧
          block.left ≤ column ∧ column < block.left + block.span then
        some ((row - block.top) * block.span + (column - block.left))
      else none := by
  have positive : 0 < pitch := by omega
  have rowOf : (row * pitch + column) / pitch = row := by
    rw [Nat.add_comm, Nat.add_mul_div_right _ _ positive,
      Nat.div_eq_of_lt inside, Nat.zero_add]
  have columnOf : (row * pitch + column) % pitch = column := by
    rw [Nat.add_comm, Nat.add_mul_mod_self_right, Nat.mod_eq_of_lt inside]
  simp only [Block.place, rowOf, columnOf]

theorem mul_le_part_iff {unit part bound cell : Nat} (within : part < unit) :
    unit * bound ≤ part + unit * cell ↔ bound ≤ cell := by
  constructor
  · intro reaches
    by_contra beyond
    have next : unit * (cell + 1) ≤ unit * bound :=
      Nat.mul_le_mul_left _ (by omega)
    rw [Nat.mul_add, Nat.mul_one] at next
    omega
  · intro reaches
    have scaled : unit * bound ≤ unit * cell := Nat.mul_le_mul_left _ reaches
    omega

theorem Block.place_widen {unit index : Nat} (positive : 0 < unit) :
    (block.widen unit).place (unit * pitch) index =
      (block.place pitch (index / unit)).map
        fun place => unit * place + index % unit := by
  have within : index % unit < unit := Nat.mod_lt _ positive
  have starts := @mul_le_part_iff unit (index % unit) block.left
    (index / unit % pitch) within
  have ends := @mul_le_part_iff unit (index % unit) (block.left + block.span)
    (index / unit % pitch) within
  rw [Nat.mul_add] at ends
  simp only [Block.place, Block.widen, ← Nat.div_div_eq_div_mul, Nat.mod_mul]
  by_cases inside : block.top ≤ index / unit / pitch ∧
      index / unit / pitch < block.top + block.height ∧
      block.left ≤ index / unit % pitch ∧
      index / unit % pitch < block.left + block.span
  · obtain ⟨above, below, left, right⟩ := inside
    have past := starts.mpr left
    have cells : unit * block.left ≤ unit * (index / unit % pitch) :=
      Nat.mul_le_mul_left _ left
    rw [if_pos ⟨above, below, past, by omega⟩, if_pos ⟨above, below, left, right⟩,
      Option.map_some, Nat.mul_add, Nat.mul_sub, Nat.mul_left_comm]
    congr 1
    omega
  · rw [if_neg inside, if_neg (by omega)]
    rfl

theorem Block.place_eq_some {index place : Nat}
    (found : block.place pitch index = some place) :
    ∃ row column, row < block.height ∧ column < block.span ∧
      index / pitch = block.top + row ∧
      index % pitch = block.left + column ∧
      place = row * block.span + column := by
  simp only [Block.place] at found
  split at found
  next inside =>
    obtain rfl := Option.some.inj found
    exact ⟨index / pitch - block.top, index % pitch - block.left, by omega,
      by omega, by omega, by omega, rfl⟩
  · contradiction

namespace Buffer

variable {α : Type}

theorem write_row (image content : Buffer α) {left span row column : Nat}
    (fits : left + span ≤ pitch) (inside : column < pitch) (target start : Nat) :
    image.write (target * pitch + left) (content.slice start span)
        (row * pitch + column) =
      if row = target ∧ left ≤ column ∧ column < left + span then
        content (start + (column - left))
      else image (row * pitch + column) := by
  by_cases here : row = target
  · subst here
    by_cases within : left ≤ column ∧ column < left + span
    · rw [if_pos ⟨rfl, within⟩, write_inside _ _ (by omega) (by omega)]
      congr 1
      omega
    · rw [if_neg (by tauto)]
      by_cases before : column < left
      · exact write_of_lt _ _ (by omega)
      · apply write_of_ge
        rw [length_slice]
        omega
  · rw [if_neg (by tauto)]
    rcases Nat.lt_or_gt_of_ne here with above | below
    · have rows : (row + 1) * pitch ≤ target * pitch :=
        Nat.mul_le_mul_right _ above
      rw [Nat.add_mul] at rows
      exact write_of_lt _ _ (by omega)
    · have rows : (target + 1) * pitch ≤ row * pitch :=
        Nat.mul_le_mul_right _ below
      rw [Nat.add_mul] at rows
      apply write_of_ge
      rw [length_slice]
      omega

/-- Copying a block row by row replaces it. -/
theorem copyRows_eq_paste (image content : Buffer α)
    (fits : block.left + block.span ≤ pitch) (positive : 0 < pitch)
    (rows : Nat) :
    image.copyRows pitch block content rows =
      image.paste pitch { block with height := rows } content := by
  induction rows with
  | zero =>
      funext index
      have outside :
          ({ block with height := 0 } : Block).place pitch index = none := by
        simp only [Block.place]
        exact if_neg (by omega)
      simp [copyRows, paste, outside]
  | succ rows induction =>
      funext index
      have inside : index % pitch < pitch := Nat.mod_lt _ positive
      rw [← Nat.div_add_mod' index pitch, copyRows, induction,
        write_row _ _ fits inside]
      simp only [paste, Block.place_row inside]
      by_cases here : index / pitch = block.top + rows ∧
          block.left ≤ index % pitch ∧ index % pitch < block.left + block.span
      · rw [if_pos here, if_pos (by omega), here.1, Nat.add_sub_cancel_left]
      · rw [if_neg here]
        congr 2
        rw [eq_iff_iff]
        omega

end Buffer

end

end UsbipServer.Library
