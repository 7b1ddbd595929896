import Mathlib.Data.List.Basic
import Mathlib.Algebra.Order.Ring.Nat

namespace UsbipServer.Library

def le : (count value : Nat) → List UInt8
  | 0, _ => []
  | count + 1, value => UInt8.ofNat value :: le count (value / 256)

def ofLe : List UInt8 → Nat
  | [] => 0
  | byte :: rest => byte.toNat + 256 * ofLe rest

/-- The number stored in `count` bytes at a position of a byte string. -/
def leAt (bytes : List UInt8) (index count : Nat) : Nat :=
  ofLe ((bytes.drop index).take count)

@[simp] theorem length_le (count value : Nat) :
    (le count value).length = count := by
  induction count generalizing value with
  | zero => rfl
  | succ count induction => simp [le, induction]

theorem ofLe_le (count value : Nat) :
    ofLe (le count value) = value % 256 ^ count := by
  induction count generalizing value with
  | zero => simp [le, ofLe, Nat.mod_one]
  | succ count induction =>
      have byte : (UInt8.ofNat value).toNat = value % 256 :=
        UInt8.toNat_ofNat'
      rw [le, ofLe, induction, byte, Nat.pow_succ', Nat.mod_mul]

theorem leAt_le (before after : List UInt8) (count value : Nat) :
    leAt (before ++ (le count value ++ after)) before.length count =
      value % 256 ^ count := by
  rw [leAt, List.drop_left, List.take_left' (length_le count value), ofLe_le]

theorem ofLe_lt (bytes : List UInt8) : ofLe bytes < 256 ^ bytes.length := by
  induction bytes with
  | nil => exact Nat.one_pos
  | cons byte rest induction =>
      have small : byte.toNat < 256 := byte.toNat_lt
      rw [ofLe, List.length_cons, Nat.pow_succ']
      omega

theorem le_ofLe (bytes : List UInt8) : le bytes.length (ofLe bytes) = bytes := by
  induction bytes with
  | nil => rfl
  | cons byte rest induction =>
      have small : byte.toNat < 256 := byte.toNat_lt
      have low : UInt8.ofNat (byte.toNat + 256 * ofLe rest) = byte := by
        apply UInt8.toNat_inj.mp
        rw [UInt8.toNat_ofNat']
        omega
      have high : (byte.toNat + 256 * ofLe rest) / 256 = ofLe rest := by
        omega
      rw [ofLe, List.length_cons, le, low, high, induction]

theorem leAt_lt (bytes : List UInt8) (index count : Nat) :
    leAt bytes index count < 256 ^ count := by
  refine Nat.lt_of_lt_of_le (ofLe_lt _) (Nat.pow_le_pow_right (by decide) ?_)
  exact List.length_take_le _ _

theorem le_leAt {bytes : List UInt8} {index count : Nat}
    (inside : index + count ≤ bytes.length) :
    le count (leAt bytes index count) = (bytes.drop index).take count := by
  have size : ((bytes.drop index).take count).length = count := by
    rw [List.length_take, List.length_drop]
    omega
  have same := le_ofLe ((bytes.drop index).take count)
  rw [size] at same
  exact same

end UsbipServer.Library
