import UsbipServer.Protocol.Tables

namespace UsbipServer

open Wire

/-- Where the walk over the configuration finds a descriptor. -/
def descriptorOffsets (configDesc : List Byte) : Nat → Nat → List Nat
  | 0, _ => []
  | fuel + 1, index =>
      if index + 7 ≤ totalLength configDesc ∧
          0 < (byteAt configDesc index).toNat then
        index :: descriptorOffsets configDesc fuel
          (index + (byteAt configDesc index).toNat)
      else []

def describes (configDesc : List Byte) (inward : Bool) (number : Fin 16)
    (index : Nat) : Bool :=
  decide (byteAt configDesc (index + 1) = usbDescriptorTypeEndpoint) &&
    decide (decide (128 ≤ (byteAt configDesc (index + 2)).toNat) = inward) &&
    decide (epMasked (byteAt configDesc (index + 2)) = number)

def descriptorsOf (configDesc : List Byte) (inward : Bool)
    (number : Fin 16) : List Nat :=
  (descriptorOffsets configDesc (totalLength configDesc) 0).filter
    (describes configDesc inward number)

def loadDescriptor (configDesc : List Byte) (endpoints : Endpoints)
    (index : Nat) : Endpoints :=
  if byteAt configDesc (index + 1) = usbDescriptorTypeEndpoint then
    loadEndpoint endpoints configDesc index
  else endpoints

section

variable {configDesc : List Byte} {inward : Bool} {number : Fin 16}

theorem loadDescriptors_eq_foldl (fuel index : Nat) (endpoints : Endpoints) :
    loadDescriptors configDesc fuel index endpoints =
      (descriptorOffsets configDesc fuel index).foldl
        (loadDescriptor configDesc) endpoints := by
  induction fuel generalizing index endpoints with
  | zero => rfl
  | succ fuel induction =>
      simp only [loadDescriptors, descriptorOffsets]
      split
      · rw [induction, List.foldl_cons]
        rfl
      · rfl

theorem loadDescriptors_stop {fuel index : Nat} (endpoints : Endpoints)
    (stops : totalLength configDesc < index + 7) :
    loadDescriptors configDesc fuel index endpoints = endpoints := by
  cases fuel with
  | zero => rfl
  | succ fuel =>
      rw [loadDescriptors, if_neg]
      rintro ⟨goes, _⟩
      omega

theorem loadDescriptor_other {index : Nat} (endpoints : Endpoints)
    (other : ¬ describes configDesc inward number index = true) :
    loadDescriptor configDesc endpoints index inward number =
      endpoints inward number := by
  unfold loadDescriptor
  split
  next kind =>
    have elsewhere : ¬ (inward =
        decide (128 ≤ (byteAt configDesc (index + 2)).toNat) ∧
          number = epMasked (byteAt configDesc (index + 2))) := by
      rintro ⟨side, place⟩
      apply other
      simp [describes, kind, side, place]
    simp only [loadEndpoint]
    split
    · rw [Endpoints.set_apply, if_neg elsewhere]
    · rw [Endpoints.set_apply, if_neg elsewhere]
  · rfl

theorem loadDescriptor_mine {index : Nat} (endpoints : Endpoints)
    (mine : describes configDesc inward number index = true) :
    loadDescriptor configDesc endpoints index inward number =
      { endpoints inward number with
        type := (byteAt configDesc (index + 3)).toNat % 4
        intervalUs :=
          if ((byteAt configDesc (index + 3)).toNat % 4 = usbEndpointXferIsoc ∨
              inward = true ∧
                (byteAt configDesc (index + 3)).toNat % 4 =
                  usbEndpointXferInt) ∧
              0 < (byteAt configDesc (index + 6)).toNat then
            125 * 2 ^ (min (byteAt configDesc (index + 6)).toNat 16 - 1)
          else (endpoints inward number).intervalUs } := by
  simp only [describes, Bool.and_eq_true, decide_eq_true_eq] at mine
  obtain ⟨⟨kind, side⟩, place⟩ := mine
  simp only [loadDescriptor, kind, if_true, loadEndpoint, side, place,
    decide_eq_true_eq]
  split
  · rw [Endpoints.set_apply, if_pos ⟨rfl, rfl⟩]
  · rw [Endpoints.set_apply, if_pos ⟨rfl, rfl⟩]

theorem foldl_loadDescriptor_other {offsets : List Nat} (endpoints : Endpoints)
    (others : ∀ index ∈ offsets,
      ¬ describes configDesc inward number index = true) :
    offsets.foldl (loadDescriptor configDesc) endpoints inward number =
      endpoints inward number := by
  induction offsets generalizing endpoints with
  | nil => rfl
  | cons index rest induction =>
      rw [List.foldl_cons, induction]
      · exact loadDescriptor_other endpoints (others index List.mem_cons_self)
      · intro later member
        exact others later (List.mem_cons_of_mem index member)

/-- An endpoint that is described once has the type and, if it is paced, the
interval of that descriptor. -/
theorem loadEndpoints_once {index : Nat}
    (once : descriptorsOf configDesc inward number = [index]) :
    loadEndpoints configDesc inward number =
      { type := (byteAt configDesc (index + 3)).toNat % 4
        intervalUs :=
          if ((byteAt configDesc (index + 3)).toNat % 4 = usbEndpointXferIsoc ∨
              inward = true ∧
                (byteAt configDesc (index + 3)).toNat % 4 =
                  usbEndpointXferInt) ∧
              0 < (byteAt configDesc (index + 6)).toNat then
            125 * 2 ^ (min (byteAt configDesc (index + 6)).toNat 16 - 1)
          else 0
        nextPollUs := 0
        streamEndUs := 0 } := by
  obtain ⟨front, back, split, before, mine, after⟩ :=
    List.filter_eq_cons_iff.mp once
  rw [loadEndpoints, loadDescriptors_eq_foldl, split, List.foldl_append,
    List.foldl_cons,
    foldl_loadDescriptor_other _ (List.filter_eq_nil_iff.mp after),
    loadDescriptor_mine _ mine, foldl_loadDescriptor_other _ before]
  rfl

end

/-! Loading the endpoint table forgets every time. -/

theorem loadDescriptor_idle (configDesc : List Byte) (endpoints : Endpoints)
    (index : Nat) (inward : Bool) (number : Fin 16) :
    (loadDescriptor configDesc endpoints index inward number).nextPollUs =
        (endpoints inward number).nextPollUs ∧
      (loadDescriptor configDesc endpoints index inward number).streamEndUs =
        (endpoints inward number).streamEndUs := by
  by_cases mine : describes configDesc inward number index = true
  · rw [loadDescriptor_mine endpoints mine]
    exact ⟨rfl, rfl⟩
  · rw [loadDescriptor_other endpoints mine]
    exact ⟨rfl, rfl⟩

theorem loadEndpoints_idle (configDesc : List Byte) (inward : Bool)
    (number : Fin 16) :
    (loadEndpoints configDesc inward number).nextPollUs = 0 ∧
      (loadEndpoints configDesc inward number).streamEndUs = 0 := by
  rw [loadEndpoints, loadDescriptors_eq_foldl]
  generalize descriptorOffsets configDesc (totalLength configDesc) 0 = offsets
  have kept : ∀ endpoints : Endpoints,
      (endpoints inward number).nextPollUs = 0 ∧
        (endpoints inward number).streamEndUs = 0 →
      (offsets.foldl (loadDescriptor configDesc) endpoints
        inward number).nextPollUs = 0 ∧
        (offsets.foldl (loadDescriptor configDesc) endpoints
          inward number).streamEndUs = 0 := by
    induction offsets with
    | nil => exact fun _ idle => idle
    | cons index rest induction =>
        intro endpoints idle
        obtain ⟨poll, stream⟩ :=
          loadDescriptor_idle configDesc endpoints index inward number
        apply induction
        rw [poll, stream]
        exact idle
  exact kept noEndpoints ⟨rfl, rfl⟩

end UsbipServer
