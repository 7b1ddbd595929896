import UsbipServer.Protocol.Descriptors

namespace UsbipServer

open Wire

/-- The first byte of a descriptor is its length, the second one its type. -/
structure Descriptor where
  bytes : List Byte
  sized : bytes.length = (byteAt bytes 0).toNat
  headed : 2 ≤ bytes.length
  complete : byteAt bytes 1 = usbDescriptorTypeEndpoint → 7 ≤ bytes.length

namespace Descriptor

def type (descriptor : Descriptor) : Byte := byteAt descriptor.bytes 1

def isEndpoint (descriptor : Descriptor) : Bool :=
  descriptor.type = usbDescriptorTypeEndpoint

theorem isEndpoint_iff (descriptor : Descriptor) :
    descriptor.isEndpoint = true ↔
      byteAt descriptor.bytes 1 = usbDescriptorTypeEndpoint :=
  decide_eq_true_iff

def inward (descriptor : Descriptor) : Bool :=
  128 ≤ (byteAt descriptor.bytes 2).toNat

def number (descriptor : Descriptor) : Fin 16 :=
  epMasked (byteAt descriptor.bytes 2)

def transferType (descriptor : Descriptor) : Nat :=
  (byteAt descriptor.bytes 3).toNat % 4

def maxPacketSize (descriptor : Descriptor) : Nat :=
  wordAt descriptor.bytes 4

def interval (descriptor : Descriptor) : Nat :=
  (byteAt descriptor.bytes 6).toNat

/-- The service interval at high speed, in microseconds. -/
def serviceUs (descriptor : Descriptor) : Nat :=
  125 * 2 ^ (descriptor.interval - 1)

end Descriptor

def chainBytes (chain : List Descriptor) : List Byte :=
  chain.flatMap Descriptor.bytes

/-- The descriptors a configuration consists of, which end exactly at its
total length. -/
structure Chain (configDesc : List Byte) where
  first : Descriptor
  rest : List Descriptor
  configuration : first.type = usbDescriptorTypeConfiguration
  bytes : configDesc.take (totalLength configDesc) =
    chainBytes (first :: rest)
  ends : (chainBytes (first :: rest)).length = totalLength configDesc

section

variable {done middle tail : List Byte} {index : Nat}

theorem byteAt_middle (inside : index < middle.length) :
    byteAt (done ++ (middle ++ tail)) (done.length + index) =
      byteAt middle index := by
  unfold byteAt
  rw [List.getD_eq_getElem?_getD, List.getD_eq_getElem?_getD,
    List.getElem?_append_right (Nat.le_add_right _ _),
    Nat.add_sub_cancel_left, List.getElem?_append_left inside]

theorem wordAt_middle (inside : index + 1 < middle.length) :
    wordAt (done ++ (middle ++ tail)) (done.length + index) =
      wordAt middle index := by
  unfold wordAt
  rw [Nat.add_assoc, byteAt_middle inside,
    byteAt_middle (Nat.lt_of_succ_lt inside)]

theorem set_middle (inside : index < middle.length) (value : Byte) :
    (done ++ (middle ++ tail)).set (done.length + index) value =
      done ++ (middle.set index value ++ tail) := by
  rw [List.set_append_right _ _ (Nat.le_add_right _ _),
    Nat.add_sub_cancel_left, List.set_append_left _ _ inside]

theorem byteAt_set (bytes : List Byte) (place index : Nat) (value : Byte) :
    byteAt (bytes.set place value) index =
      if index = place ∧ place < bytes.length then value
      else byteAt bytes index := by
  unfold byteAt
  simp only [List.getD_eq_getElem?_getD, List.getElem?_set]
  by_cases here : place = index
  · subst here
    by_cases inside : place < bytes.length
    · simp [inside]
    · simp [inside]
  · simp [here, Ne.symm here]

theorem byteAt_take {bytes : List Byte} {count : Nat} (inside : index < count) :
    byteAt (bytes.take count) index = byteAt bytes index := by
  unfold byteAt
  rw [List.getD_eq_getElem?_getD, List.getD_eq_getElem?_getD,
    List.getElem?_take_of_lt inside]

end

section

variable {configDesc : List Byte}

@[simp] theorem chainBytes_append (front back : List Descriptor) :
    chainBytes (front ++ back) = chainBytes front ++ chainBytes back :=
  List.flatMap_append

theorem chainBytes_cons (descriptor : Descriptor) (rest : List Descriptor) :
    chainBytes (descriptor :: rest) = descriptor.bytes ++ chainBytes rest :=
  List.flatMap_cons

theorem length_le_chainBytes (chain : List Descriptor) :
    chain.length ≤ (chainBytes chain).length := by
  induction chain with
  | nil => exact Nat.zero_le _
  | cons descriptor rest induction =>
      have headed := descriptor.headed
      rw [chainBytes_cons, List.length_append, List.length_cons]
      omega

theorem Chain.total (chain : Chain configDesc) {front back : List Descriptor}
    (split : chain.first :: chain.rest = front ++ back) :
    totalLength configDesc =
      (chainBytes front).length + (chainBytes back).length := by
  rw [← chain.ends, split, chainBytes_append, List.length_append]

theorem Chain.byteAt_inside (chain : Chain configDesc) {front back : List Descriptor}
    {descriptor : Descriptor} {index : Nat}
    (split : chain.first :: chain.rest = front ++ descriptor :: back)
    (inside : index < descriptor.bytes.length) :
    byteAt configDesc ((chainBytes front).length + index) =
      byteAt descriptor.bytes index := by
  have whole : chainBytes (chain.first :: chain.rest) = chainBytes front ++
      (descriptor.bytes ++ chainBytes back) := by
    rw [split, chainBytes_append, chainBytes_cons]
  have within : (chainBytes front).length + index < totalLength configDesc := by
    rw [← chain.ends, whole]
    simp only [List.length_append]
    omega
  rw [← byteAt_take within, chain.bytes, whole, byteAt_middle inside]

theorem Chain.length_at (chain : Chain configDesc)
    {front back : List Descriptor} {descriptor : Descriptor}
    (split : chain.first :: chain.rest = front ++ descriptor :: back) :
    (byteAt configDesc (chainBytes front).length).toNat =
      descriptor.bytes.length := by
  have headed := descriptor.headed
  have inside : 0 < descriptor.bytes.length := by omega
  have first := chain.byteAt_inside split inside
  rw [Nat.add_zero] at first
  rw [first, descriptor.sized]

theorem Chain.moves (chain : Chain configDesc) {front back : List Descriptor}
    {descriptor : Descriptor}
    (split : chain.first :: chain.rest = front ++ descriptor :: back) :
    (chainBytes front).length +
        (byteAt configDesc (chainBytes front).length).toNat =
      (chainBytes (front ++ [descriptor])).length := by
  rw [chain.length_at split, chainBytes_append, List.length_append,
    chainBytes_cons]
  simp [chainBytes]

end

end UsbipServer
