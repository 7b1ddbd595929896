import Mathlib.Data.List.Basic
import Mathlib.Algebra.Order.Ring.Nat

namespace UsbipServer.Library

def be32 (value : UInt32) : List UInt8 :=
  [UInt8.ofNat (value.toNat / 2 ^ 24), UInt8.ofNat (value.toNat / 2 ^ 16),
    UInt8.ofNat (value.toNat / 2 ^ 8), UInt8.ofNat value.toNat]

def be16 (value : UInt16) : List UInt8 :=
  [UInt8.ofNat (value.toNat / 2 ^ 8), UInt8.ofNat value.toNat]

def ofBe32 (first second third fourth : UInt8) : UInt32 :=
  UInt32.ofNat (first.toNat * 2 ^ 24 + second.toNat * 2 ^ 16 +
    third.toNat * 2 ^ 8 + fourth.toNat)

def ofBe16 (first second : UInt8) : UInt16 :=
  UInt16.ofNat (first.toNat * 2 ^ 8 + second.toNat)

def u32At (bytes : List UInt8) (index : Nat) : UInt32 :=
  ofBe32 (bytes.getD index 0) (bytes.getD (index + 1) 0)
    (bytes.getD (index + 2) 0) (bytes.getD (index + 3) 0)

def u16At (bytes : List UInt8) (index : Nat) : UInt16 :=
  ofBe16 (bytes.getD index 0) (bytes.getD (index + 1) 0)

@[simp] theorem length_be32 (value : UInt32) : (be32 value).length = 4 := rfl

@[simp] theorem length_be16 (value : UInt16) : (be16 value).length = 2 := rfl

@[simp] theorem ofBe32_bytes (value : UInt32) :
    ofBe32 (UInt8.ofNat (value.toNat / 2 ^ 24))
      (UInt8.ofNat (value.toNat / 2 ^ 16))
      (UInt8.ofNat (value.toNat / 2 ^ 8)) (UInt8.ofNat value.toNat) =
      value := by
  have bound : value.toNat < 2 ^ 32 := value.toNat_lt
  apply UInt32.toNat_inj.mp
  simp only [ofBe32, UInt8.toNat_ofNat', UInt32.toNat_ofNat']
  omega

theorem u32At_be32 (before after : List UInt8) (value : UInt32) :
    u32At (before ++ (be32 value ++ after)) before.length = value := by
  have byteAt : ∀ offset, offset < 4 →
      (before ++ (be32 value ++ after)).getD (before.length + offset) 0 =
        (be32 value).getD offset 0 := by
    intro offset bound
    simp only [List.getD_eq_getElem?_getD]
    rw [List.getElem?_append_right (by omega),
      List.getElem?_append_left (by simp; omega)]
    congr 2
    omega
  have first := byteAt 0 (by omega)
  rw [Nat.add_zero] at first
  rw [u32At, first, byteAt 1 (by omega), byteAt 2 (by omega),
    byteAt 3 (by omega)]
  exact ofBe32_bytes value

end UsbipServer.Library
