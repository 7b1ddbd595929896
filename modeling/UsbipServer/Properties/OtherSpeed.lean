import UsbipServer.Spec.Chain

namespace UsbipServer

open Wire

/-! The other speed configuration: the same chain of descriptors, with the
packet sizes and intervals of a full speed device. -/

section

variable {done bytes tail : List Byte} {index : Nat}

theorem convertBulkInterrupt_middle (transferType : Nat)
    (complete : 7 ≤ bytes.length) :
    convertBulkInterrupt (done ++ (bytes ++ tail)) done.length transferType =
      done ++ (convertBulkInterrupt bytes 0 transferType ++ tail) := by
  have size : wordAt (done ++ (bytes ++ tail)) (done.length + 4) =
      wordAt bytes 4 := wordAt_middle (by omega)
  simp only [convertBulkInterrupt, size, Nat.zero_add]
  split
  · rw [set_middle (by omega), set_middle (by simp; omega),
      byteAt_middle (by simp; omega)]
    split
    · rw [set_middle (by simp; omega)]
    · rfl
  · rw [byteAt_middle (by omega)]
    split
    · rw [set_middle (by omega)]
    · rfl

theorem convertIsochronous_middle (complete : 7 ≤ bytes.length) :
    convertIsochronous (done ++ (bytes ++ tail)) done.length =
      done ++ (convertIsochronous bytes 0 ++ tail) := by
  have size : wordAt (done ++ (bytes ++ tail)) (done.length + 4) =
      wordAt bytes 4 := wordAt_middle (by omega)
  have interval : byteAt (done ++ (bytes ++ tail)) (done.length + 6) =
      byteAt bytes 6 := byteAt_middle (by omega)
  simp only [convertIsochronous, size, interval, Nat.zero_add]
  rw [set_middle (by omega), set_middle (by simp; omega),
    set_middle (by simp; omega)]

theorem convertDescriptor_other
    (other : byteAt bytes (index + 1) ≠ usbDescriptorTypeEndpoint) :
    convertDescriptor bytes index = bytes := by
  simp [convertDescriptor, other]

theorem convertDescriptor_middle (headed : 2 ≤ bytes.length)
    (complete : byteAt bytes 1 = usbDescriptorTypeEndpoint →
      7 ≤ bytes.length) :
    convertDescriptor (done ++ (bytes ++ tail)) done.length =
      done ++ (convertDescriptor bytes 0 ++ tail) := by
  have type : byteAt (done ++ (bytes ++ tail)) (done.length + 1) =
      byteAt bytes 1 := byteAt_middle headed
  by_cases endpoint : byteAt bytes 1 = usbDescriptorTypeEndpoint
  · have long := complete endpoint
    have attributes : byteAt (done ++ (bytes ++ tail)) (done.length + 3) =
        byteAt bytes 3 := byteAt_middle (by omega)
    simp only [convertDescriptor, type, attributes, Nat.zero_add]
    split
    · exact convertBulkInterrupt_middle _ long
    · split
      · exact convertIsochronous_middle long
      · rfl
  · rw [convertDescriptor_other (by rw [type]; exact endpoint),
      convertDescriptor_other endpoint]

theorem length_convertDescriptor :
    (convertDescriptor bytes index).length = bytes.length := by
  simp only [convertDescriptor, convertBulkInterrupt, convertIsochronous]
  split
  · split
    · split
      · simp
      · simp
    · split
      · simp
      · rfl
  · split
    · simp
    · rfl

end

def Descriptor.isConverted (descriptor : Descriptor) : Bool :=
  descriptor.isEndpoint && (descriptor.transferType = usbTransferTypeBulk ∨
    descriptor.transferType = usbTransferTypeInterrupt ∨
    descriptor.transferType = usbTransferTypeIsochronous)

structure FullSpeed (high full : Descriptor) : Prop where
  length : full.bytes.length = high.bytes.length
  type : full.type = high.type
  kept : ∀ index, (high.isConverted = true → index < 4 ∨ 6 < index) →
    byteAt full.bytes index = byteAt high.bytes index
  packetSize : high.isEndpoint = true →
    high.transferType = usbTransferTypeBulk ∨
      high.transferType = usbTransferTypeInterrupt →
    full.maxPacketSize = min high.maxPacketSize 64
  isoPacketSize : high.isEndpoint = true →
    high.transferType = usbTransferTypeIsochronous →
    full.maxPacketSize = min (high.maxPacketSize % 2048) 1023
  interval : high.isEndpoint = true →
    high.transferType = usbTransferTypeInterrupt →
    1 ≤ high.interval → high.interval ≤ 16 →
    full.interval = min (max (high.serviceUs / 1000) 1) 255
  isoInterval : high.isEndpoint = true →
    high.transferType = usbTransferTypeIsochronous →
    1 ≤ high.interval → high.interval ≤ 16 →
    1 ≤ full.interval ∧
      2 ^ (full.interval - 1) * 1000 = max 1000 high.serviceUs

section

variable {bytes : List Byte}

theorem byteAt_convertBulkInterrupt (transferType index : Nat)
    (complete : 7 ≤ bytes.length) :
    byteAt (convertBulkInterrupt bytes 0 transferType) index =
      if index = 6 ∧ transferType = usbTransferTypeInterrupt ∧
          0 < (byteAt bytes 6).toNat then
        UInt8.ofNat
          (min (max (2 ^ (min (byteAt bytes 6).toNat 16 - 1) / 8) 1) 255)
      else if index = 4 ∧ 64 < wordAt bytes 4 then 64
      else if index = 5 ∧ 64 < wordAt bytes 4 then 0
      else byteAt bytes index := by
  have limited : ∃ buffer : List Byte, buffer.length = bytes.length ∧
      (∀ index, byteAt buffer index =
        if index = 4 ∧ 64 < wordAt bytes 4 then 64
        else if index = 5 ∧ 64 < wordAt bytes 4 then 0
        else byteAt bytes index) ∧
      (if 64 < wordAt bytes 4 then
        (bytes.set 4 (UInt8.ofNat 64)).set 5 0 else bytes) = buffer := by
    refine ⟨_, ?_, ?_, rfl⟩
    · split
      · simp
      · rfl
    · intro index
      split
      next large =>
        rw [byteAt_set, byteAt_set, List.length_set]
        have inside : 4 < bytes.length ∧ 5 < bytes.length := by omega
        simp only [inside, and_true]
        by_cases fifth : index = 5
        · simp [fifth, large]
        · simp [fifth, large]
      next small => simp only [small, and_false, if_false]
  obtain ⟨buffer, length, values, shape⟩ := limited
  have interval : byteAt buffer 6 = byteAt bytes 6 := by simp [values 6]
  simp only [convertBulkInterrupt, fullSpeedMaxPacketSize, Nat.zero_add, shape,
    interval]
  split
  next paced =>
    rw [byteAt_set]
    by_cases sixth : index = 6
    · rw [if_pos ⟨sixth, by omega⟩, if_pos ⟨sixth, paced⟩]
    · rw [if_neg (fun same => sixth same.1), if_neg (fun same => sixth same.1)]
      exact values index
  next unpaced =>
    rw [if_neg (fun both => unpaced both.2)]
    exact values index

theorem byteAt_convertIsochronous (index : Nat) (complete : 7 ≤ bytes.length) :
    byteAt (convertIsochronous bytes 0) index =
      if index = 4 then
        UInt8.ofNat (min (wordAt bytes 4 % 2048) 1023 % 256)
      else if index = 5 then
        UInt8.ofNat (min (wordAt bytes 4 % 2048) 1023 / 256)
      else if index = 6 then
        UInt8.ofNat (if 3 < (byteAt bytes 6).toNat then
          (byteAt bytes 6).toNat - 3 else 1)
      else byteAt bytes index := by
  have inside : 4 < bytes.length ∧ 5 < bytes.length ∧ 6 < bytes.length := by
    omega
  simp only [convertIsochronous, fullSpeedMaxIsoPacketSize, Nat.zero_add,
    byteAt_set, List.length_set, inside, and_true]
  grind

end

theorem Descriptor.convert_bulk (descriptor : Descriptor)
    (endpoint : descriptor.isEndpoint = true)
    (kind : descriptor.transferType = usbTransferTypeBulk ∨
      descriptor.transferType = usbTransferTypeInterrupt) :
    convertDescriptor descriptor.bytes 0 = convertBulkInterrupt
      descriptor.bytes 0 descriptor.transferType := by
  rw [convertDescriptor, if_pos ⟨descriptor.isEndpoint_iff.mp endpoint, kind⟩]
  rfl

theorem Descriptor.convert_iso (descriptor : Descriptor)
    (endpoint : descriptor.isEndpoint = true)
    (kind : descriptor.transferType = usbTransferTypeIsochronous) :
    convertDescriptor descriptor.bytes 0 =
      convertIsochronous descriptor.bytes 0 := by
  have other : ¬ (descriptor.transferType = usbTransferTypeBulk ∨
      descriptor.transferType = usbTransferTypeInterrupt) := by
    rw [kind]
    decide
  rw [convertDescriptor, if_neg (fun both => other both.2),
    if_pos ⟨descriptor.isEndpoint_iff.mp endpoint, kind⟩]

theorem Descriptor.convert_kept (descriptor : Descriptor)
    (other : ¬ descriptor.isConverted = true) :
    convertDescriptor descriptor.bytes 0 = descriptor.bytes := by
  simp only [Descriptor.isConverted, Bool.and_eq_true, decide_eq_true_eq,
    descriptor.isEndpoint_iff, not_and, not_or] at other
  simp only [convertDescriptor, Nat.zero_add]
  split
  next both =>
    exact absurd both.2 (not_or.mpr ⟨(other both.1).1, (other both.1).2.1⟩)
  · split
    next both => exact absurd both.2 (other both.1).2.2
    · rfl

theorem Descriptor.byteAt_convert (descriptor : Descriptor) {index : Nat}
    (outside : descriptor.isConverted = true → index < 4 ∨ 6 < index) :
    byteAt (convertDescriptor descriptor.bytes 0) index =
      byteAt descriptor.bytes index := by
  by_cases converted : descriptor.isConverted = true
  · have apart := outside converted
    simp only [Descriptor.isConverted, Bool.and_eq_true,
      decide_eq_true_eq] at converted
    obtain ⟨endpoint, kind⟩ := converted
    have complete :=
      descriptor.complete (descriptor.isEndpoint_iff.mp endpoint)
    have different : index ≠ 4 ∧ index ≠ 5 ∧ index ≠ 6 := by omega
    rcases or_assoc.mpr kind with bulk | isochronous
    · rw [descriptor.convert_bulk endpoint bulk,
        byteAt_convertBulkInterrupt _ _ complete]
      simp [different]
    · rw [descriptor.convert_iso endpoint isochronous,
        byteAt_convertIsochronous _ complete]
      simp [different]
  · rw [descriptor.convert_kept converted]

def Descriptor.fullSpeed (descriptor : Descriptor) : Descriptor where
  bytes := convertDescriptor descriptor.bytes 0
  sized := by
    rw [length_convertDescriptor, descriptor.byteAt_convert (by omega)]
    exact descriptor.sized
  headed := by
    rw [length_convertDescriptor]
    exact descriptor.headed
  complete := by
    rw [length_convertDescriptor, descriptor.byteAt_convert (by omega)]
    exact descriptor.complete

theorem Descriptor.fullSpeed_packetSize (descriptor : Descriptor)
    (endpoint : descriptor.isEndpoint = true)
    (kind : descriptor.transferType = usbTransferTypeBulk ∨
      descriptor.transferType = usbTransferTypeInterrupt) :
    descriptor.fullSpeed.maxPacketSize = min descriptor.maxPacketSize 64 := by
  have complete := descriptor.complete (descriptor.isEndpoint_iff.mp endpoint)
  simp only [Descriptor.maxPacketSize, Descriptor.fullSpeed,
    descriptor.convert_bulk endpoint kind]
  by_cases large : 64 < wordAt descriptor.bytes 4
  · rw [Nat.min_eq_right (Nat.le_of_lt large)]
    conv => lhs; rw [wordAt]
    rw [byteAt_convertBulkInterrupt _ _ complete,
      byteAt_convertBulkInterrupt _ _ complete]
    simp [large]
  · rw [Nat.min_eq_left (Nat.le_of_not_lt large)]
    conv => lhs; rw [wordAt]
    rw [byteAt_convertBulkInterrupt _ _ complete,
      byteAt_convertBulkInterrupt _ _ complete]
    simp only [large, and_false, if_false, Nat.reduceAdd, Nat.reduceEqDiff,
      false_and]
    rfl

theorem Descriptor.fullSpeed_isoPacketSize (descriptor : Descriptor)
    (endpoint : descriptor.isEndpoint = true)
    (kind : descriptor.transferType = usbTransferTypeIsochronous) :
    descriptor.fullSpeed.maxPacketSize =
      min (descriptor.maxPacketSize % 2048) 1023 := by
  have complete := descriptor.complete (descriptor.isEndpoint_iff.mp endpoint)
  simp only [Descriptor.maxPacketSize, Descriptor.fullSpeed,
    descriptor.convert_iso endpoint kind]
  conv => lhs; rw [wordAt]
  rw [byteAt_convertIsochronous _ complete,
    byteAt_convertIsochronous _ complete]
  have small : min (wordAt descriptor.bytes 4 % 2048) 1023 ≤ 1023 :=
    Nat.min_le_right _ _
  generalize min (wordAt descriptor.bytes 4 % 2048) 1023 = size at small ⊢
  have low : (UInt8.ofNat (size % 256)).toNat = size % 256 :=
    UInt8.toNat_ofNat_of_lt' (Nat.mod_lt _ (by decide))
  have high : (UInt8.ofNat (size / 256)).toNat = size / 256 := by
    refine UInt8.toNat_ofNat_of_lt' ?_
    simp only [UInt8.size]
    omega
  simp only [Nat.reduceAdd, Nat.reduceEqDiff, if_true, if_false, low, high]
  omega

theorem Descriptor.fullSpeed_interval (descriptor : Descriptor)
    (endpoint : descriptor.isEndpoint = true)
    (kind : descriptor.transferType = usbTransferTypeInterrupt)
    (low : 1 ≤ descriptor.interval) (high : descriptor.interval ≤ 16) :
    descriptor.fullSpeed.interval =
      min (max (descriptor.serviceUs / 1000) 1) 255 := by
  have complete := descriptor.complete (descriptor.isEndpoint_iff.mp endpoint)
  simp only [Descriptor.interval] at low high
  have same : descriptor.serviceUs / 1000 =
      2 ^ ((byteAt descriptor.bytes 6).toNat - 1) / 8 := by
    simp only [Descriptor.serviceUs, Descriptor.interval]
    omega
  rw [same]
  simp only [Descriptor.interval, Descriptor.fullSpeed,
    descriptor.convert_bulk endpoint (.inr kind),
    byteAt_convertBulkInterrupt _ _ complete]
  rw [if_pos ⟨trivial, kind, low⟩, Nat.min_eq_left high]
  have small : min (max (2 ^ ((byteAt descriptor.bytes 6).toNat - 1) / 8) 1)
      255 < 256 := by omega
  exact UInt8.toNat_ofNat_of_lt' small

theorem Descriptor.fullSpeed_isoInterval (descriptor : Descriptor)
    (endpoint : descriptor.isEndpoint = true)
    (kind : descriptor.transferType = usbTransferTypeIsochronous)
    (low : 1 ≤ descriptor.interval) (high : descriptor.interval ≤ 16) :
    1 ≤ descriptor.fullSpeed.interval ∧
      2 ^ (descriptor.fullSpeed.interval - 1) * 1000 =
        max 1000 descriptor.serviceUs := by
  have complete := descriptor.complete (descriptor.isEndpoint_iff.mp endpoint)
  have interval : descriptor.fullSpeed.interval =
      if 3 < descriptor.interval then descriptor.interval - 3 else 1 := by
    simp only [Descriptor.interval] at low high ⊢
    simp only [Descriptor.fullSpeed, descriptor.convert_iso endpoint kind,
      byteAt_convertIsochronous _ complete, Nat.reduceEqDiff, if_true, if_false]
    refine UInt8.toNat_ofNat_of_lt' ?_
    simp only [UInt8.size]
    split
    · omega
    · omega
  rw [interval, Descriptor.serviceUs]
  generalize descriptor.interval = exponent at low high ⊢
  split
  next long =>
    obtain ⟨frames, rfl⟩ : ∃ frames, exponent = frames + 4 :=
      ⟨exponent - 4, by omega⟩
    have power : 125 * 2 ^ (frames + 4 - 1) = 2 ^ (frames + 4 - 3 - 1) * 1000 := by
      have split : frames + 4 - 1 = frames + 3 := by omega
      have rest : frames + 4 - 3 - 1 = frames := by omega
      rw [split, rest, Nat.pow_add]
      omega
    have positive : 1 ≤ 2 ^ (frames + 4 - 3 - 1) := Nat.one_le_two_pow
    rw [power]
    omega
  next short =>
    have cap : 2 ^ (exponent - 1) ≤ 2 ^ 2 :=
      Nat.pow_le_pow_right (by decide) (by omega)
    omega

theorem Descriptor.fullSpeed_converted (descriptor : Descriptor) :
    FullSpeed descriptor descriptor.fullSpeed where
  length := length_convertDescriptor
  type := descriptor.byteAt_convert (by omega)
  kept _ outside := descriptor.byteAt_convert outside
  packetSize := descriptor.fullSpeed_packetSize
  isoPacketSize := descriptor.fullSpeed_isoPacketSize
  interval := descriptor.fullSpeed_interval
  isoInterval := descriptor.fullSpeed_isoInterval

theorem Descriptor.fullSpeed_short (descriptor : Descriptor)
    (short : descriptor.bytes.length < 7) :
    descriptor.fullSpeed.bytes = descriptor.bytes := by
  apply convertDescriptor_other
  intro endpoint
  have complete := descriptor.complete endpoint
  omega

theorem chainBytes_short {chain : List Descriptor}
    (short : (chainBytes chain).length < 7) :
    chainBytes (chain.map Descriptor.fullSpeed) = chainBytes chain := by
  induction chain with
  | nil => rfl
  | cons descriptor rest induction =>
      rw [chainBytes_cons, List.length_append] at short
      rw [List.map_cons, chainBytes_cons, chainBytes_cons,
        descriptor.fullSpeed_short (by omega), induction (by omega)]

theorem convertDescriptors_stop {fuel total index : Nat} {buffer : List Byte}
    (stops : total < index + 7) :
    convertDescriptors fuel total index buffer = buffer := by
  cases fuel with
  | zero => rfl
  | succ fuel =>
      rw [convertDescriptors, if_neg]
      rintro ⟨goes, _⟩
      omega

theorem convertDescriptors_next (descriptor : Descriptor)
    (done tail : List Byte) {fuel total : Nat}
    (goes : done.length + 7 ≤ total) :
    convertDescriptors (fuel + 1) total done.length
        (done ++ (descriptor.bytes ++ tail)) =
      convertDescriptors fuel total (done ++ descriptor.fullSpeed.bytes).length
        ((done ++ descriptor.fullSpeed.bytes) ++ tail) := by
  have headed := descriptor.headed
  have first : byteAt (done ++ (descriptor.bytes ++ tail)) (done.length + 0) =
      byteAt descriptor.bytes 0 := byteAt_middle (by omega)
  have positive : 0 < (byteAt descriptor.bytes 0).toNat := by
    rw [← descriptor.sized]
    omega
  have converted : convertDescriptor (done ++ (descriptor.bytes ++ tail))
      done.length = done ++ (descriptor.fullSpeed.bytes ++ tail) :=
    convertDescriptor_middle headed descriptor.complete
  have length := descriptor.fullSpeed_converted.length
  have moves : byteAt (done ++ (descriptor.fullSpeed.bytes ++ tail))
      (done.length + 0) = byteAt descriptor.bytes 0 := by
    rw [byteAt_middle (by omega)]
    exact descriptor.byteAt_convert (by omega)
  rw [Nat.add_zero] at first moves
  rw [convertDescriptors, if_pos ⟨goes, by rw [first]; exact positive⟩]
  simp only [converted, moves]
  rw [List.append_assoc, List.length_append, length, descriptor.sized]

/-- The walk converts the descriptors that are left and stops early only when
none of them can be an endpoint. -/
theorem convertDescriptors_chain (chain : List Descriptor) (done : List Byte)
    (fuel total : Nat) (enough : chain.length ≤ fuel)
    (ends : done.length + (chainBytes chain).length = total) :
    convertDescriptors fuel total done.length (done ++ chainBytes chain) =
      done ++ chainBytes (chain.map Descriptor.fullSpeed) := by
  induction chain generalizing done fuel with
  | nil =>
      simp only [chainBytes, List.flatMap_nil, List.length_nil] at ends
      exact convertDescriptors_stop (by omega)
  | cons descriptor rest induction =>
      by_cases goes : done.length + 7 ≤ total
      · cases fuel with
        | zero => simp at enough
        | succ fuel =>
            rw [chainBytes_cons, List.length_append] at ends
            rw [List.map_cons, chainBytes_cons, chainBytes_cons,
              convertDescriptors_next descriptor done _ goes, induction]
            · rw [List.append_assoc]
            · exact Nat.le_of_succ_le_succ enough
            · rw [List.length_append, descriptor.fullSpeed_converted.length]
              omega
      · rw [convertDescriptors_stop (by omega), chainBytes_short (by omega)]

theorem chainBytes_sameLength (chain : List Descriptor) :
    (chainBytes (chain.map Descriptor.fullSpeed)).length =
      (chainBytes chain).length := by
  induction chain with
  | nil => rfl
  | cons descriptor rest induction =>
      rw [List.map_cons, chainBytes_cons, chainBytes_cons, List.length_append,
        List.length_append, descriptor.fullSpeed_converted.length, induction]

theorem fullSpeed_chain (chain : List Descriptor) :
    List.Forall₂ FullSpeed chain (chain.map Descriptor.fullSpeed) := by
  induction chain with
  | nil => exact .nil
  | cons descriptor rest induction =>
      exact .cons descriptor.fullSpeed_converted induction

/-- The configuration descriptor under its other name. -/
def Descriptor.renamed (descriptor : Descriptor) : Descriptor where
  bytes := descriptor.bytes.set 1 usbDescriptorTypeOtherSpeedConfiguration
  sized := by
    rw [List.length_set, byteAt_set]
    exact descriptor.sized
  headed := by
    rw [List.length_set]
    exact descriptor.headed
  complete := by
    have inside : 1 < descriptor.bytes.length := descriptor.headed
    rw [byteAt_set, if_pos ⟨rfl, inside⟩]
    intro endpoint
    contradiction

theorem Descriptor.renamed_fullSpeed (descriptor : Descriptor) :
    descriptor.renamed.fullSpeed.bytes = descriptor.renamed.bytes := by
  apply convertDescriptor_other
  have inside : 1 < descriptor.bytes.length := descriptor.headed
  rw [Descriptor.renamed, byteAt_set, if_pos ⟨rfl, inside⟩]
  decide

theorem Chain.buildOtherSpeedConfig {configDesc : List Byte}
    (chain : Chain configDesc) {bufferLength : Nat}
    (fits : totalLength configDesc ≤ bufferLength) :
    UsbipServer.buildOtherSpeedConfig configDesc bufferLength =
      chainBytes (chain.first.renamed ::
        chain.rest.map Descriptor.fullSpeed) := by
  have inside : 1 < chain.first.bytes.length := chain.first.headed
  have start : (configDesc.take (totalLength configDesc)).set 1
      usbDescriptorTypeOtherSpeedConfiguration =
        chainBytes (chain.first.renamed :: chain.rest) := by
    rw [chain.bytes, chainBytes_cons, chainBytes_cons,
      List.set_append_left _ _ inside]
    rfl
  have length : (chainBytes (chain.first.renamed :: chain.rest)).length =
      totalLength configDesc := by
    rw [← start, List.length_set, chain.bytes, chain.ends]
  have walked := convertDescriptors_chain
    (chain.first.renamed :: chain.rest) [] (totalLength configDesc)
    (totalLength configDesc) ?_ ?_
  · rw [UsbipServer.buildOtherSpeedConfig, Nat.min_eq_left fits, start]
    refine walked.trans ?_
    rw [List.nil_append, List.map_cons, chainBytes_cons,
      chain.first.renamed_fullSpeed, chainBytes_cons]
  · rw [← length]
    exact length_le_chainBytes _
  · rw [length]
    simp

section

variable {configDesc : List Byte} (chain : Chain configDesc)
  {front back : List Descriptor} {descriptor : Descriptor}

theorem Chain.visits
    (split : chain.first :: chain.rest = front ++ descriptor :: back)
    (endpoint : descriptor.isEndpoint = true) (early : List Descriptor)
    (late : List Descriptor) (fuel : Nat) (parts : front = early ++ late)
    (enough : late.length < fuel) :
    (chainBytes front).length ∈
      descriptorOffsets configDesc fuel (chainBytes early).length := by
  have complete := descriptor.complete (descriptor.isEndpoint_iff.mp endpoint)
  have ends := chain.ends
  rw [split, chainBytes_append, chainBytes_cons, List.length_append,
    List.length_append] at ends
  induction late generalizing early fuel with
  | nil =>
      rw [List.append_nil] at parts
      subst parts
      have length := chain.length_at split
      cases fuel with
      | zero => simp at enough
      | succ fuel =>
          rw [descriptorOffsets, if_pos (by omega)]
          exact List.mem_cons_self
  | cons next rest induction =>
      have headed := next.headed
      have place : chain.first :: chain.rest =
          early ++ next :: (rest ++ descriptor :: back) := by
        rw [split, parts]
        simp
      have here := chain.length_at place
      have length : (chainBytes front).length = (chainBytes early).length +
          (next.bytes.length + (chainBytes rest).length) := by
        rw [parts, chainBytes_append, chainBytes_cons, List.length_append,
          List.length_append]
      cases fuel with
      | zero => simp at enough
      | succ fuel =>
          rw [descriptorOffsets, if_pos (by omega)]
          apply List.mem_cons_of_mem
          rw [chain.moves place]
          refine induction (early ++ [next]) fuel ?_
            (Nat.lt_of_succ_lt_succ enough)
          rw [parts]
          simp

theorem Chain.loads
    (split : chain.first :: chain.rest = front ++ descriptor :: back)
    (endpoint : descriptor.isEndpoint = true)
    (paced : descriptor.transferType = usbTransferTypeIsochronous ∨
      descriptor.inward = true ∧
        descriptor.transferType = usbTransferTypeInterrupt)
    (low : 1 ≤ descriptor.interval) (high : descriptor.interval ≤ 16)
    (endpoints : Endpoints) :
    (loadDescriptor configDesc endpoints (chainBytes front).length
      descriptor.inward descriptor.number).intervalUs =
        descriptor.serviceUs := by
  have type := descriptor.isEndpoint_iff.mp endpoint
  have complete := descriptor.complete type
  have field : ∀ index, index < 7 →
      byteAt configDesc ((chainBytes front).length + index) =
        byteAt descriptor.bytes index := by
    intro index inside
    exact chain.byteAt_inside split (by omega)
  have mine : describes configDesc descriptor.inward descriptor.number
      (chainBytes front).length = true := by
    simp [describes, field, type, Descriptor.inward, Descriptor.number]
  rw [loadDescriptor_mine endpoints mine, field 3 (by decide),
    field 6 (by decide)]
  change (if (descriptor.transferType = 1 ∨ descriptor.inward = true ∧
    descriptor.transferType = 3) ∧ 0 < descriptor.interval then
      125 * 2 ^ (min descriptor.interval 16 - 1) else _) = _
  rw [if_pos ⟨paced, low⟩, Nat.min_eq_left high]
  rfl

end

/-- The other speed configuration of every chain of descriptors, and the
interval the endpoint table has for each descriptor it paces. -/
theorem otherSpeed {configDesc : List Byte} (chain : Chain configDesc)
    (fits : totalLength configDesc ≤ endpointMaxDataLength) :
    ∃ first rest,
      buildOtherSpeedConfig configDesc endpointMaxDataLength =
        chainBytes (first :: rest) ∧
      (chainBytes (first :: rest)).length = totalLength configDesc ∧
      first.bytes = chain.first.bytes.set 1
        usbDescriptorTypeOtherSpeedConfiguration ∧
      List.Forall₂ FullSpeed chain.rest rest ∧
      ∀ front descriptor back,
        chain.first :: chain.rest = front ++ descriptor :: back →
        descriptor.isEndpoint = true →
        descriptor.transferType = usbTransferTypeIsochronous ∨
          descriptor.inward = true ∧
            descriptor.transferType = usbTransferTypeInterrupt →
        1 ≤ descriptor.interval → descriptor.interval ≤ 16 →
        (chainBytes front).length ∈ descriptorOffsets configDesc
            (totalLength configDesc) 0 ∧
          ∀ endpoints, (loadDescriptor configDesc endpoints
            (chainBytes front).length descriptor.inward
              descriptor.number).intervalUs = descriptor.serviceUs := by
  refine ⟨chain.first.renamed, chain.rest.map Descriptor.fullSpeed,
    chain.buildOtherSpeedConfig fits, ?_, rfl, fullSpeed_chain chain.rest, ?_⟩
  · rw [← chain.ends, chainBytes_cons, chainBytes_cons, List.length_append,
      List.length_append, chainBytes_sameLength]
    simp [Descriptor.renamed]
  · intro front descriptor back split endpoint paced low high
    refine ⟨?_, chain.loads split endpoint paced low high⟩
    apply chain.visits split endpoint [] front (totalLength configDesc) rfl
    have ends := chain.ends
    have headed := descriptor.headed
    have bound := length_le_chainBytes front
    rw [split, chainBytes_append, chainBytes_cons, List.length_append,
      List.length_append] at ends
    omega

/-- A configuration with an interrupt endpoint in each direction and an
isochronous one, the first two with a descriptor of their class between
them. -/
def convertedConfig : List Byte :=
  [9, 2, 34, 0, 1, 1, 0, 0x40, 0] ++ [7, 5, 0x81, 3, 0, 1, 4] ++ [4, 36, 1, 2] ++
    [7, 5, 0x02, 3, 8, 0, 4] ++ [7, 5, 0x03, 1, 0, 4, 2]

def interruptOut : Descriptor :=
  ⟨[7, 5, 0x02, 3, 8, 0, 4], by decide, by decide, by decide⟩

def convertedChain : Chain convertedConfig where
  first := ⟨[9, 2, 34, 0, 1, 1, 0, 0x40, 0], by decide, by decide, by decide⟩
  rest :=
    [⟨[7, 5, 0x81, 3, 0, 1, 4], by decide, by decide, by decide⟩,
      ⟨[4, 36, 1, 2], by decide, by decide, by decide⟩, interruptOut,
      ⟨[7, 5, 0x03, 1, 0, 4, 2], by decide, by decide, by decide⟩]
  configuration := by decide
  bytes := by decide
  ends := by decide

theorem otherSpeed_converted :
    buildOtherSpeedConfig convertedConfig endpointMaxDataLength =
        [9, 7, 34, 0, 1, 1, 0, 0x40, 0] ++ [7, 5, 0x81, 3, 64, 0, 1] ++
          [4, 36, 1, 2] ++ [7, 5, 0x02, 3, 8, 0, 1] ++
          [7, 5, 0x03, 1, 255, 3, 1] ∧
      ∃ first rest,
        buildOtherSpeedConfig convertedConfig endpointMaxDataLength =
          chainBytes (first :: rest) ∧
        List.Forall₂ FullSpeed convertedChain.rest rest := by
  obtain ⟨first, rest, built, _, _, converted, _⟩ :=
    otherSpeed convertedChain (by decide)
  exact ⟨by decide, first, rest, built, converted⟩

/-- The endpoint table has no interval for an interrupt OUT endpoint, its
transfers are not paced. -/
theorem otherSpeed_interruptOut :
    interruptOut ∈ convertedChain.rest ∧ interruptOut.isEndpoint = true ∧
      interruptOut.transferType = usbTransferTypeInterrupt ∧
      interruptOut.interval = 4 ∧ interruptOut.serviceUs = 1000 ∧
      descriptorsOf convertedConfig interruptOut.inward interruptOut.number =
        [20] ∧
      (loadEndpoints convertedConfig interruptOut.inward
        interruptOut.number).intervalUs = 0 := by
  refine ⟨?_, by decide, by decide, by decide, by decide, by decide +kernel,
    by decide +kernel⟩
  exact List.mem_cons_of_mem _ (List.mem_cons_of_mem _ List.mem_cons_self)

end UsbipServer
