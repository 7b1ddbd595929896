import UsbipServer.Spec.Chain

namespace UsbipServer

open Wire

/-! What the endpoint table holds for a configuration that describes the same
endpoint several times. -/

namespace Descriptor

def addresses (descriptor : Descriptor) (inward : Bool) (number : Fin 16) :
    Bool :=
  descriptor.isEndpoint && descriptor.inward == inward &&
    descriptor.number == number

/-- The descriptor has a service interval: isochronous, or interrupt and IN. -/
def paces (descriptor : Descriptor) : Bool :=
  (descriptor.transferType = usbEndpointXferIsoc ∨
    descriptor.inward = true ∧
      descriptor.transferType = usbEndpointXferInt) ∧
    0 < descriptor.interval

def pacedUs (descriptor : Descriptor) : Nat :=
  125 * 2 ^ (min descriptor.interval 16 - 1)

def entry (descriptor : Descriptor) : Endpoint where
  type := descriptor.transferType
  intervalUs := if descriptor.paces then descriptor.pacedUs else 0
  nextPollUs := 0
  streamEndUs := 0

/-- What `load_endpoints` makes of the entry it finds. -/
def overwrite (endpoint : Endpoint) (descriptor : Descriptor) : Endpoint :=
  { endpoint with
    type := descriptor.transferType
    intervalUs :=
      if descriptor.paces then descriptor.pacedUs else endpoint.intervalUs }

end Descriptor

namespace Chain

variable {configDesc : List Byte}

def descriptors (chain : Chain configDesc) : List Descriptor :=
  chain.first :: chain.rest

def described (chain : Chain configDesc) (inward : Bool) (number : Fin 16) :
    List Descriptor :=
  chain.descriptors.filter (·.addresses inward number)

def expected (chain : Chain configDesc) (inward : Bool) (number : Fin 16) :
    Endpoint :=
  match (chain.described inward number).getLast? with
  | none => ⟨0, 0, 0, 0⟩
  | some last => last.entry

end Chain

section

variable {configDesc : List Byte} {front back : List Descriptor}
  {descriptor : Descriptor} {inward : Bool} {number : Fin 16}

theorem Chain.describes_eq (chain : Chain configDesc)
    (split : chain.descriptors = front ++ descriptor :: back) :
    describes configDesc inward number (chainBytes front).length =
      descriptor.addresses inward number := by
  have type := chain.byteAt_inside split descriptor.headed
  rw [Bool.eq_iff_iff]
  simp only [describes, Descriptor.addresses, Descriptor.isEndpoint_iff,
    Descriptor.inward, Descriptor.number, type, Bool.and_eq_true,
    decide_eq_true_eq, beq_iff_eq, and_assoc]
  apply and_congr_right
  intro kind
  have complete := descriptor.complete kind
  rw [chain.byteAt_inside split (show 2 < _ by omega)]

theorem Chain.loadDescriptor_entry (chain : Chain configDesc)
    (split : chain.descriptors = front ++ descriptor :: back)
    (endpoints : Endpoints) :
    loadDescriptor configDesc endpoints (chainBytes front).length inward
        number =
      if descriptor.addresses inward number then
        descriptor.overwrite (endpoints inward number)
      else endpoints inward number := by
  have same : describes configDesc inward number (chainBytes front).length =
      descriptor.addresses inward number := chain.describes_eq split
  split
  next mine =>
    rw [loadDescriptor_mine endpoints (same.trans mine)]
    simp only [Descriptor.addresses, Bool.and_eq_true, beq_iff_eq] at mine
    obtain ⟨⟨kind, side⟩, place⟩ := mine
    have complete := descriptor.complete (descriptor.isEndpoint_iff.mp kind)
    rw [chain.byteAt_inside split (show 3 < _ by omega),
      chain.byteAt_inside split (show 6 < _ by omega), ← side]
    simp only [Descriptor.overwrite, Descriptor.paces, decide_eq_true_eq]
    rfl
  next other =>
    apply loadDescriptor_other
    rw [same]
    exact other

theorem Descriptor.addresses_short (short : descriptor.bytes.length < 7) :
    descriptor.addresses inward number = false := by
  have ordinary : descriptor.isEndpoint = false := by
    rw [Bool.eq_false_iff]
    intro kind
    have complete := descriptor.complete (descriptor.isEndpoint_iff.mp kind)
    omega
  simp [Descriptor.addresses, ordinary]

theorem Chain.loadDescriptors_entry (chain : Chain configDesc) {fuel : Nat}
    (split : chain.descriptors = front ++ back) (enough : back.length ≤ fuel)
    (endpoints : Endpoints) :
    loadDescriptors configDesc fuel (chainBytes front).length endpoints inward
        number =
      (back.filter (·.addresses inward number)).foldl Descriptor.overwrite
        (endpoints inward number) := by
  have total := chain.total split
  induction back generalizing front fuel endpoints with
  | nil =>
      have stops : totalLength configDesc < (chainBytes front).length + 7 := by
        rw [total]
        exact Nat.add_lt_add_left (by decide) _
      rw [loadDescriptors_stop endpoints stops]
      rfl
  | cons descriptor back induction =>
      have headed := descriptor.headed
      have moves := chain.moves split
      have length := chain.length_at split
      have next : chain.descriptors = (front ++ [descriptor]) ++ back := by
        rw [split, List.append_assoc]
        rfl
      rw [chainBytes_cons, List.length_append] at total
      by_cases goes : (chainBytes front).length + 7 ≤ totalLength configDesc
      · cases fuel with
        | zero => exact absurd enough (Nat.not_succ_le_zero _)
        | succ fuel =>
            rw [loadDescriptors, if_pos ⟨goes, by omega⟩, moves]
            have rest := induction next (Nat.le_of_succ_le_succ enough)
              (loadDescriptor configDesc endpoints (chainBytes front).length)
              (chain.total next)
            rw [chain.loadDescriptor_entry split] at rest
            refine rest.trans ?_
            rw [List.filter_cons]
            split
            · rw [List.foldl_cons]
            · rfl
      · -- no endpoint descriptor fits into the bytes that are left
        have short : descriptor.bytes.length < 7 := by omega
        have stops := Nat.lt_of_not_le goes
        have rest := induction next (Nat.le_of_succ_le enough) endpoints
          (chain.total next)
        rw [loadDescriptors_stop endpoints (by omega)] at rest
        rw [loadDescriptors_stop endpoints stops, List.filter_cons,
          descriptor.addresses_short short]
        exact rest

end

/-- The interval that the descriptors of an endpoint leave in its entry. -/
def intervalAfter : List Descriptor → Nat → Nat
  | [], interval => interval
  | descriptor :: rest, interval =>
      intervalAfter rest
        (if descriptor.paces then descriptor.pacedUs else interval)

theorem intervalAfter_append (front back : List Descriptor) (interval : Nat) :
    intervalAfter (front ++ back) interval =
      intervalAfter back (intervalAfter front interval) := by
  induction front generalizing interval with
  | nil => rfl
  | cons descriptor front induction => exact induction _

theorem Descriptor.pacedUs_pos (descriptor : Descriptor) :
    0 < descriptor.pacedUs :=
  Nat.mul_pos (by decide) (Nat.two_pow_pos _)

theorem intervalAfter_eq_zero {descriptors : List Descriptor}
    {interval : Nat} :
    intervalAfter descriptors interval = 0 ↔
      interval = 0 ∧ ∀ descriptor ∈ descriptors, descriptor.paces = false := by
  induction descriptors generalizing interval with
  | nil => simp [intervalAfter]
  | cons descriptor rest induction =>
      have positive := descriptor.pacedUs_pos
      rw [intervalAfter, induction, List.forall_mem_cons]
      cases paces : descriptor.paces with
      | false => simp
      | true =>
          simp
          omega

theorem foldl_overwrite (front : List Descriptor) (last : Descriptor)
    (endpoint : Endpoint) :
    (front ++ [last]).foldl Descriptor.overwrite endpoint =
      { endpoint with
        type := last.transferType
        intervalUs := intervalAfter (front ++ [last]) endpoint.intervalUs } := by
  induction front generalizing endpoint with
  | nil => rfl
  | cons descriptor front induction =>
      rw [List.cons_append, List.foldl_cons, induction]
      rfl

theorem Chain.loadEndpoints_entry {configDesc : List Byte}
    (chain : Chain configDesc) (inward : Bool) (number : Fin 16) :
    loadEndpoints configDesc inward number =
      (chain.described inward number).foldl Descriptor.overwrite
        ⟨0, 0, 0, 0⟩ := by
  have enough : chain.descriptors.length ≤ totalLength configDesc := by
    rw [← chain.ends]
    exact length_le_chainBytes _
  exact chain.loadDescriptors_entry (List.nil_append _).symm enough noEndpoints

/-- The entry of an endpoint is the one of its last descriptor exactly if that
descriptor is paced, or no descriptor of the endpoint is: the interval of an
earlier one is left otherwise. -/
theorem endpointTable {configDesc : List Byte} (chain : Chain configDesc)
    (inward : Bool) (number : Fin 16) :
    loadEndpoints configDesc inward number = chain.expected inward number ↔
      ∀ last, (chain.described inward number).getLast? = some last →
        last.paces = false →
        ∀ earlier ∈ chain.described inward number, earlier.paces = false := by
  rw [chain.loadEndpoints_entry, Chain.expected]
  cases found : (chain.described inward number).getLast? with
  | none =>
      rw [List.getLast?_eq_none_iff] at found
      simp [found]
  | some last =>
      obtain ⟨front, whole⟩ := List.getLast?_eq_some_iff.mp found
      simp only [Option.some.injEq, forall_eq', whole]
      rw [foldl_overwrite, Descriptor.entry, Endpoint.mk.injEq]
      simp only [true_and, and_true]
      cases paces : last.paces with
      | false =>
          rw [if_neg Bool.false_ne_true, intervalAfter_eq_zero]
          simp
      | true =>
          rw [intervalAfter_append]
          simp [intervalAfter, paces]

/-- Two alternate settings of an interface: endpoint 1 IN is an interrupt
endpoint in the first one and a bulk endpoint in the second one. -/
def alternatingConfig : List Byte :=
  [9, 2, 41, 0, 1, 1, 0, 0x80, 50] ++ [9, 4, 0, 0, 1, 255, 0, 0, 0] ++
    [7, 5, 0x81, 3, 8, 0, 4] ++ [9, 4, 0, 1, 1, 255, 0, 0, 0] ++
    [7, 5, 0x81, 2, 0, 2, 0]

def alternatingChain : Chain alternatingConfig where
  first := ⟨[9, 2, 41, 0, 1, 1, 0, 0x80, 50], by decide, by decide, by decide⟩
  rest :=
    [⟨[9, 4, 0, 0, 1, 255, 0, 0, 0], by decide, by decide, by decide⟩,
      ⟨[7, 5, 0x81, 3, 8, 0, 4], by decide, by decide, by decide⟩,
      ⟨[9, 4, 0, 1, 1, 255, 0, 0, 0], by decide, by decide, by decide⟩,
      ⟨[7, 5, 0x81, 2, 0, 2, 0], by decide, by decide, by decide⟩]
  configuration := by decide
  bytes := by decide
  ends := by decide

/-- The bulk endpoint is paced by the interval of the interrupt endpoint. -/
theorem endpointTable_alternating :
    alternatingChain.expected true 1 = ⟨usbTransferTypeBulk, 0, 0, 0⟩ ∧
      loadEndpoints alternatingConfig true 1 =
        ⟨usbTransferTypeBulk, 1000, 0, 0⟩ := by
  decide +kernel

end UsbipServer
