import UsbipServer.Properties.DeviceList
import UsbipServer.Properties.OtherSpeed

namespace UsbipServer

open Wire Library

/-! The walks over the configuration descriptor with every read checked: they
have no result when they read beyond the array or do not come to an end within
`fuel` rounds. -/

def loadDescriptorChecked (configDesc : List Byte) (endpoints : Endpoints)
    (index : Nat) : Option Endpoints := do
  let type ← configDesc[index + 1]?
  if type = usbDescriptorTypeEndpoint then
    let _ ← configDesc[index + 2]?
    let _ ← configDesc[index + 3]?
    let _ ← configDesc[index + 6]?
    return loadEndpoint endpoints configDesc index
  else return endpoints

def loadDescriptorsChecked (configDesc : List Byte) :
    Nat → Nat → Endpoints → Option Endpoints
  | 0, _, _ => none
  | fuel + 1, index, endpoints =>
      if index + 7 ≤ totalLength configDesc then do
        let length ← configDesc[index]?
        if 0 < length.toNat then
          let loaded ← loadDescriptorChecked configDesc endpoints index
          loadDescriptorsChecked configDesc fuel (index + length.toNat) loaded
        else return endpoints
      else some endpoints

def convertDescriptorChecked (buffer : List Byte) (index : Nat) :
    Option (List Byte) := do
  let _ ← buffer[index + 3]?
  let type ← buffer[index + 1]?
  if type = usbDescriptorTypeEndpoint then
    let _ ← buffer[index + 5]?
    let _ ← buffer[index + 4]?
    let _ ← buffer[index + 6]?
    return convertDescriptor buffer index
  else return convertDescriptor buffer index

def convertDescriptorsChecked :
    Nat → Nat → Nat → List Byte → Option (List Byte)
  | 0, _, _, _ => none
  | fuel + 1, total, index, buffer =>
      if index + 7 ≤ total then do
        let length ← buffer[index]?
        if 0 < length.toNat then
          let converted ← convertDescriptorChecked buffer index
          let length ← converted[index]?
          convertDescriptorsChecked fuel total (index + length.toNat) converted
        else return buffer
      else some buffer

def buildOtherSpeedChecked (configDesc : List Byte) (bufferLength fuel : Nat) :
    Option (List Byte) :=
  let total := min (totalLength configDesc) bufferLength
  -- the reads of memcpy
  if total ≤ configDesc.length then
    convertDescriptorsChecked fuel total 0
      ((configDesc.take total).set 1 usbDescriptorTypeOtherSpeedConfiguration)
  else none

/-- The interface walk from `index`, where a descriptor of `descSize` bytes
starts. -/
def nextInterfaceChecked (configDesc : List Byte) :
    Nat → Nat → Nat → Option Nat
  | 0, _, _ => none
  | fuel + 1, index, descSize =>
      if index < totalLength configDesc then do
        let index := index + descSize
        let type ← configDesc[index + 1]?
        if type = 4 then return index
        else
          let descSize ← configDesc[index]?
          nextInterfaceChecked configDesc fuel index descSize.toNat
      else some index

def transmitInterfacesChecked (configDesc : List Byte) (fuel : Nat) :
    Nat → Nat → Bool × Tcpip → Option (Bool × Tcpip)
  | 0, _, result => some result
  | count + 1, index, (status, tcpip) => do
      let descSize ← configDesc[index]?
      let found ← nextInterfaceChecked configDesc fuel index descSize.toNat
      let interfaceClass ← configDesc[found + 5]?
      let interfaceSubClass ← configDesc[found + 6]?
      let interfaceProtocol ← configDesc[found + 7]?
      let result :=
        if status then
          tcpipServerWrite tcpip
            [interfaceClass, interfaceSubClass, interfaceProtocol, 0]
        else (status, tcpip)
      if result.1 then
        transmitInterfacesChecked configDesc fuel count found result
      else return result

/-- The bytes of the array before the walk: `bNumInterfaces` is in the
header. -/
def transmitDevlistChecked (dev : UsbipDevice) (fuel : Nat) (tcpip : Tcpip) :
    Option (Bool × Tcpip) :=
  transmitInterfacesChecked dev.configDesc fuel
    (byteAt dev.configDesc 4).toNat 0
    (tcpipServerWriteAll tcpip (devlistHead dev))

section

variable {configDesc buffer : List Byte} {index fuel total : Nat}

theorem getElem?_byteAt (inside : index < buffer.length) :
    buffer[index]? = some (byteAt buffer index) := by
  simp [byteAt, inside]

theorem loadDescriptorChecked_inside (endpoints : Endpoints)
    (inside : index + 7 ≤ configDesc.length) :
    loadDescriptorChecked configDesc endpoints index =
      some (loadDescriptor configDesc endpoints index) := by
  simp only [loadDescriptorChecked, loadDescriptor,
    getElem?_byteAt (show index + 1 < configDesc.length by omega),
    getElem?_byteAt (show index + 2 < configDesc.length by omega),
    getElem?_byteAt (show index + 3 < configDesc.length by omega),
    getElem?_byteAt (show index + 6 < configDesc.length by omega)]
  change (if _ then _ else _) = _
  split
  · rfl
  · rfl

theorem loadDescriptorsChecked_eq (endpoints : Endpoints)
    (bound : totalLength configDesc ≤ configDesc.length)
    (enough : totalLength configDesc ≤ index + fuel) :
    loadDescriptorsChecked configDesc (fuel + 1) index endpoints =
      some (loadDescriptors configDesc fuel index endpoints) := by
  induction fuel generalizing index endpoints with
  | zero =>
      rw [loadDescriptorsChecked, if_neg (by omega)]
      rfl
  | succ fuel induction =>
      by_cases goes : index + 7 ≤ totalLength configDesc
      · rw [loadDescriptorsChecked, if_pos goes,
          getElem?_byteAt (show index < configDesc.length by omega),
          loadDescriptors]
        simp only [goes, true_and, Option.bind_eq_bind, Option.bind_some,
          loadDescriptorChecked_inside endpoints (Nat.le_trans goes bound)]
        split
        next moves => exact induction _ (by omega)
        next => rfl
      · rw [loadDescriptorsChecked, if_neg goes, loadDescriptors_stop]
        omega

theorem byteAt_set_later {place : Nat} (later : index < place)
    (value : Byte) :
    byteAt (buffer.set place value) index = byteAt buffer index := by
  rw [byteAt_set, if_neg]
  rintro ⟨rfl, _⟩
  exact Nat.lt_irrefl _ later

theorem byteAt_convertDescriptor :
    byteAt (convertDescriptor buffer index) index = byteAt buffer index := by
  have fourth : index < index + 4 := Nat.lt_add_of_pos_right (by decide)
  have fifth : index < index + 5 := Nat.lt_add_of_pos_right (by decide)
  have sixth : index < index + 6 := Nat.lt_add_of_pos_right (by decide)
  simp only [convertDescriptor, convertBulkInterrupt, convertIsochronous,
    apply_ite (byteAt · index), byteAt_set_later fourth,
    byteAt_set_later fifth, byteAt_set_later sixth, ite_self]

theorem convertDescriptorChecked_inside (inside : index + 7 ≤ buffer.length) :
    convertDescriptorChecked buffer index =
      some (convertDescriptor buffer index) := by
  simp only [convertDescriptorChecked,
    getElem?_byteAt (show index + 1 < buffer.length by omega),
    getElem?_byteAt (show index + 3 < buffer.length by omega),
    getElem?_byteAt (show index + 4 < buffer.length by omega),
    getElem?_byteAt (show index + 5 < buffer.length by omega),
    getElem?_byteAt (show index + 6 < buffer.length by omega)]
  change (if _ then _ else _) = _
  split
  · rfl
  · rfl

theorem convertDescriptorsChecked_eq (bound : total ≤ buffer.length)
    (enough : total ≤ index + fuel) :
    convertDescriptorsChecked (fuel + 1) total index buffer =
      some (convertDescriptors fuel total index buffer) := by
  induction fuel generalizing index buffer with
  | zero =>
      rw [convertDescriptorsChecked, if_neg (by omega)]
      rfl
  | succ fuel induction =>
      by_cases goes : index + 7 ≤ total
      · have kept : index < (convertDescriptor buffer index).length := by
          rw [length_convertDescriptor]
          omega
        rw [convertDescriptorsChecked, if_pos goes,
          getElem?_byteAt (show index < buffer.length by omega),
          convertDescriptors]
        simp only [goes, true_and, Option.bind_eq_bind, Option.bind_some,
          convertDescriptorChecked_inside (Nat.le_trans goes bound),
          getElem?_byteAt kept]
        split
        next moves =>
          apply induction
          · rw [length_convertDescriptor]
            exact bound
          · rw [byteAt_convertDescriptor]
            omega
        next => rfl
      · rw [convertDescriptorsChecked, if_neg goes, convertDescriptors_stop]
        omega

end

def following (configDesc : List Byte) (index : Nat) : Nat :=
  index + (byteAt configDesc index).toNat

/-- From the descriptor at `index` on, the lengths lead to `count` interface
descriptors whose classes are inside the array, and never to a descriptor whose
type is not.  A walk that has come past the total length stays where it is. -/
inductive Lists (configDesc : List Byte) : Nat → Nat → Prop
  | done (index : Nat) : Lists configDesc 0 index
  | interface {count index : Nat} (before : index < totalLength configDesc)
      (type : byteAt configDesc (following configDesc index + 1) = 4)
      (inside : following configDesc index + 7 < configDesc.length)
      (rest : Lists configDesc count (following configDesc index)) :
      Lists configDesc (count + 1) index
  | other {count index : Nat} (before : index < totalLength configDesc)
      (type : byteAt configDesc (following configDesc index + 1) ≠ 4)
      (inside : following configDesc index + 1 < configDesc.length)
      (rest : Lists configDesc (count + 1) (following configDesc index)) :
      Lists configDesc (count + 1) index
  | past {count index : Nat} (beyond : totalLength configDesc ≤ index)
      (inside : index + 7 < configDesc.length)
      (rest : Lists configDesc count index) :
      Lists configDesc (count + 1) index

section

variable {configDesc : List Byte} {count index found fuel : Nat}

theorem byteAt_of_getElem? {buffer : List Byte} {value : Byte}
    (read : buffer[index]? = some value) :
    index < buffer.length ∧ byteAt buffer index = value := by
  obtain ⟨inside, _⟩ := List.getElem?_eq_some_iff.mp read
  rw [getElem?_byteAt inside] at read
  exact ⟨inside, Option.some.inj read⟩

theorem nextInterfaceChecked_some
    (walked : nextInterfaceChecked configDesc (fuel + 1) index
      (byteAt configDesc index).toNat = some found)
    (before : index < totalLength configDesc) :
    following configDesc index + 1 < configDesc.length ∧
      if byteAt configDesc (following configDesc index + 1) = 4 then
        following configDesc index = found
      else
        nextInterfaceChecked configDesc fuel (following configDesc index)
          (byteAt configDesc (following configDesc index)).toNat =
            some found := by
  rw [nextInterfaceChecked, if_pos before] at walked
  obtain ⟨type, read, walked⟩ := Option.bind_eq_some_iff.mp walked
  obtain ⟨inside, rfl⟩ := byteAt_of_getElem? read
  refine ⟨inside, ?_⟩
  change (if byteAt configDesc (following configDesc index + 1) = 4 then _
    else _) = _ at walked
  split at walked
  next here =>
    rw [if_pos here]
    exact Option.some.inj walked
  next other =>
    rw [if_neg other]
    obtain ⟨size, read, walked⟩ := Option.bind_eq_some_iff.mp walked
    obtain ⟨_, rfl⟩ := byteAt_of_getElem? read
    exact walked

theorem Lists.of_nextInterface
    (walked : nextInterfaceChecked configDesc fuel index
      (byteAt configDesc index).toNat = some found)
    (inside : found + 7 < configDesc.length)
    (rest : Lists configDesc count found) :
    Lists configDesc (count + 1) index := by
  induction fuel generalizing index with
  | zero => contradiction
  | succ fuel induction =>
      by_cases before : index < totalLength configDesc
      · obtain ⟨bound, walked⟩ := nextInterfaceChecked_some walked before
        split at walked
        next type =>
          subst walked
          exact .interface before type inside rest
        next type => exact .other before type bound (induction walked)
      · rw [nextInterfaceChecked, if_neg before] at walked
        obtain rfl := Option.some.inj walked
        exact .past (Nat.le_of_not_lt before) inside rest

/-- A descriptor without a length is only left if it is an interface. -/
theorem Lists.moves (lists : Lists configDesc count index) (some : 0 < count)
    (before : index < totalLength configDesc)
    (type : byteAt configDesc (following configDesc index + 1) ≠ 4) :
    index < following configDesc index := by
  by_contra stays
  have same : following configDesc index = index := by
    unfold following at stays ⊢
    omega
  induction lists with
  | done index => contradiction
  | interface before here inside rest induction => exact type here
  | other before other inside rest induction =>
      rw [same] at induction
      exact induction some before (same ▸ type) stays same
  | past beyond inside rest induction =>
      exact Nat.lt_irrefl _ (Nat.lt_of_lt_of_le before beyond)

theorem nextInterfaceChecked_step {index : Nat}
    (before : index < totalLength configDesc)
    (inside : following configDesc index + 1 < configDesc.length) :
    nextInterfaceChecked configDesc (fuel + 1) index
        (byteAt configDesc index).toNat =
      if byteAt configDesc (following configDesc index + 1) = 4 then
        some (following configDesc index)
      else
        nextInterfaceChecked configDesc fuel (following configDesc index)
          (byteAt configDesc (following configDesc index)).toNat := by
  have type := getElem?_byteAt inside
  have size := getElem?_byteAt (Nat.lt_of_succ_lt inside)
  unfold following at type size
  rw [nextInterfaceChecked, if_pos before]
  simp only [type, size, Option.bind_eq_bind, Option.bind_some]
  rfl

theorem Lists.nextInterface (lists : Lists configDesc (count + 1) index)
    (bound : totalLength configDesc ≤ configDesc.length) :
    index < configDesc.length ∧ ∃ found, found + 7 < configDesc.length ∧
      Lists configDesc count found ∧
      ∀ fuel, 0 < fuel → totalLength configDesc < index + fuel →
        nextInterfaceChecked configDesc fuel index
          (byteAt configDesc index).toNat = some found := by
  generalize whole : count + 1 = all at lists
  induction lists with
  | done index => contradiction
  | @interface all index before type inside rest induction =>
      obtain rfl := Nat.succ.inj whole
      refine ⟨by omega, following configDesc index, inside, rest, ?_⟩
      intro fuel some enough
      obtain ⟨fuel, rfl⟩ := Nat.exists_eq_succ_of_ne_zero (Nat.ne_of_gt some)
      rw [nextInterfaceChecked_step before (by omega), if_pos type]
  | @other all index before type inside rest induction =>
      obtain ⟨_, found, fields, later, walked⟩ := induction whole
      have moves := (Lists.other before type inside rest).moves
        (Nat.succ_pos _) before type
      refine ⟨by omega, found, fields, later, ?_⟩
      intro fuel some enough
      obtain ⟨fuel, rfl⟩ := Nat.exists_eq_succ_of_ne_zero (Nat.ne_of_gt some)
      rw [nextInterfaceChecked_step before inside, if_neg type]
      exact walked fuel (by omega) (by omega)
  | @past all index beyond inside rest induction =>
      obtain rfl := Nat.succ.inj whole
      refine ⟨by omega, index, inside, rest, ?_⟩
      intro fuel some enough
      obtain ⟨fuel, rfl⟩ := Nat.exists_eq_succ_of_ne_zero (Nat.ne_of_gt some)
      rw [nextInterfaceChecked, if_neg (Nat.not_lt_of_le beyond)]

theorem nextInterfaceChecked_model {size : Nat}
    (walked : nextInterfaceChecked configDesc fuel index size = some found) :
    getNextInterfaceIdx configDesc fuel index size = some found := by
  induction fuel generalizing index size with
  | zero => contradiction
  | succ fuel induction =>
      rw [nextInterfaceChecked] at walked
      rw [getNextInterfaceIdx]
      split at walked
      next before =>
        rw [if_pos before]
        obtain ⟨type, read, walked⟩ := Option.bind_eq_some_iff.mp walked
        obtain ⟨_, rfl⟩ := byteAt_of_getElem? read
        dsimp only at walked ⊢
        split at walked
        next here =>
          rw [if_pos here]
          exact walked
        next other =>
          rw [if_neg other]
          obtain ⟨size, read, walked⟩ := Option.bind_eq_some_iff.mp walked
          obtain ⟨_, rfl⟩ := byteAt_of_getElem? read
          exact induction walked
      next beyond =>
        rw [if_neg beyond]
        exact walked

theorem transmitInterfacesChecked_succ (status : Bool) (tcpip : Tcpip)
    (start : index < configDesc.length)
    (walked : nextInterfaceChecked configDesc fuel index
      (byteAt configDesc index).toNat = some found)
    (inside : found + 7 < configDesc.length) :
    transmitInterfacesChecked configDesc fuel (count + 1) index
        (status, tcpip) =
      let result :=
        if status then
          tcpipServerWrite tcpip (interfaceRecord configDesc found)
        else (status, tcpip)
      if result.1 then
        transmitInterfacesChecked configDesc fuel count found result
      else some result := by
  simp only [transmitInterfacesChecked, getElem?_byteAt start, walked,
    getElem?_byteAt (show found + 5 < configDesc.length by omega),
    getElem?_byteAt (show found + 6 < configDesc.length by omega),
    getElem?_byteAt inside, Option.bind_eq_bind, Option.bind_some]
  rfl

theorem transmitInterfacesChecked_some {status : Bool} {tcpip : Tcpip}
    {result : Bool × Tcpip}
    (ends : transmitInterfacesChecked configDesc fuel (count + 1) index
      (status, tcpip) = some result) :
    index < configDesc.length ∧ ∃ found, found + 7 < configDesc.length ∧
      nextInterfaceChecked configDesc fuel index
        (byteAt configDesc index).toNat = some found := by
  rw [transmitInterfacesChecked] at ends
  obtain ⟨size, read, ends⟩ := Option.bind_eq_some_iff.mp ends
  obtain ⟨start, rfl⟩ := byteAt_of_getElem? read
  obtain ⟨found, walked, ends⟩ := Option.bind_eq_some_iff.mp ends
  obtain ⟨_, _, ends⟩ := Option.bind_eq_some_iff.mp ends
  obtain ⟨_, _, ends⟩ := Option.bind_eq_some_iff.mp ends
  obtain ⟨_, read, _⟩ := Option.bind_eq_some_iff.mp ends
  obtain ⟨inside, _⟩ := byteAt_of_getElem? read
  exact ⟨start, found, inside, walked⟩

theorem transmitInterfacesChecked_model {status : Bool} {tcpip : Tcpip}
    {result : Bool × Tcpip}
    (ends : transmitInterfacesChecked configDesc (totalLength configDesc + 2)
      count index (status, tcpip) = some result) :
    transmitInterfaces configDesc count index (status, tcpip) =
      some result := by
  induction count generalizing index status tcpip with
  | zero => exact ends
  | succ count induction =>
      obtain ⟨start, found, inside, walked⟩ :=
        transmitInterfacesChecked_some ends
      rw [transmitInterfacesChecked_succ status tcpip start walked inside]
        at ends
      rw [transmitInterfaces, nextInterfaceChecked_model walked]
      dsimp only at ends ⊢
      generalize (if status = true then
        tcpipServerWrite tcpip (interfaceRecord configDesc found)
          else (status, tcpip)) = written at ends ⊢
      split at ends
      next goes =>
        rw [if_pos goes]
        exact induction ends
      next stops =>
        rw [if_neg stops]
        exact ends

theorem Lists.transmits (lists : Lists configDesc count index)
    (bound : totalLength configDesc ≤ configDesc.length) (status : Bool)
    (tcpip : Tcpip) :
    ∃ result, transmitInterfacesChecked configDesc (totalLength configDesc + 2)
      count index (status, tcpip) = some result := by
  induction count generalizing index status tcpip with
  | zero => exact ⟨_, rfl⟩
  | succ count induction =>
      obtain ⟨start, found, inside, later, walked⟩ := lists.nextInterface bound
      rw [transmitInterfacesChecked_succ status tcpip start
        (walked _ (Nat.succ_pos _) (by omega)) inside]
      dsimp only
      generalize (if status = true then
        tcpipServerWrite tcpip (interfaceRecord configDesc found)
          else (status, tcpip)) = written
      split
      · exact induction later _ _
      · exact ⟨_, rfl⟩

theorem Lists.of_transmits {tcpip : Tcpip} {result : Bool × Tcpip}
    (takes : tcpip.Takes)
    (ends : transmitInterfacesChecked configDesc fuel count index
      (true, tcpip) = some result) :
    Lists configDesc count index := by
  induction count generalizing index tcpip with
  | zero => exact .done index
  | succ count induction =>
      obtain ⟨start, found, inside, walked⟩ :=
        transmitInterfacesChecked_some ends
      obtain ⟨next, written, later⟩ :=
        takes.write (interfaceRecord configDesc found)
      rw [transmitInterfacesChecked_succ true tcpip start walked inside] at ends
      dsimp only at ends
      rw [if_pos rfl, written, if_pos rfl] at ends
      exact .of_nextInterface walked inside (induction later ends)

end

theorem Chain.lists {configDesc : List Byte} (chain : Chain configDesc)
    {count : Nat} {front back : List Descriptor} {descriptor : Descriptor}
    (split : chain.first :: chain.rest = front ++ descriptor :: back)
    (sized : ∀ interface ∈ back.filter (·.isInterface),
      interface.bytes.length = 9)
    (enough : count ≤ (back.filter (·.isInterface)).length) :
    Lists configDesc count (chainBytes front).length := by
  have bound : totalLength configDesc ≤ configDesc.length := by
    have taken := congrArg List.length chain.bytes
    rw [chain.ends, List.length_take] at taken
    omega
  induction back generalizing front descriptor count with
  | nil =>
      obtain rfl := Nat.le_zero.mp enough
      exact .done _
  | cons next back induction =>
      cases count with
      | zero => exact .done _
      | succ count =>
          have headed := descriptor.headed
          have total := chain.total split
          have moved : following configDesc (chainBytes front).length =
              (chainBytes (front ++ [descriptor])).length := chain.moves split
          have later : chain.first :: chain.rest =
              (front ++ [descriptor]) ++ next :: back := by
            rw [split, List.append_assoc]
            rfl
          have left := chain.total later
          have type := chain.byteAt_inside later next.headed
          rw [chainBytes_cons, List.length_append] at total left
          have before : (chainBytes front).length < totalLength configDesc := by
            omega
          rw [List.filter_cons] at sized enough
          split at sized
          next found =>
            rw [if_pos found] at enough
            have nine := sized next List.mem_cons_self
            refine .interface before ?_ ?_ ?_
            · rw [moved, type]
              exact next.isInterface_iff.mp found
            · rw [moved]
              omega
            · rw [moved]
              refine induction later ?_ (Nat.le_of_succ_le_succ enough)
              intro interface member
              exact sized interface (List.mem_cons_of_mem _ member)
          next other =>
            rw [if_neg other] at enough
            have some := next.headed
            refine .other before ?_ ?_ ?_
            · rw [moved, type]
              exact fun four => other (next.isInterface_iff.mpr four)
            · rw [moved]
              omega
            · rw [moved]
              exact induction later sized enough

/-- The walks of `load_endpoints` and `build_other_speed_config` end and stay
inside the array whatever it holds.  The one of the device list does so exactly
if the array lists as many interfaces as it announces. -/
theorem descriptorWalks (dev : UsbipDevice)
    (sized : dev.configDesc.length = max 9 (totalLength dev.configDesc)) :
    (∃ fuel, loadDescriptorsChecked dev.configDesc fuel 0 noEndpoints =
        some (loadEndpoints dev.configDesc)) ∧
      (∃ fuel, buildOtherSpeedChecked dev.configDesc endpointMaxDataLength
          fuel =
        some (buildOtherSpeedConfig dev.configDesc endpointMaxDataLength)) ∧
      ((∀ tcpip, ∃ fuel result,
          transmitDevlistChecked dev fuel tcpip = some result ∧
          transmitDevlistResponse dev tcpip = some result) ↔
        Lists dev.configDesc (byteAt dev.configDesc 4).toNat 0) := by
  have bound : totalLength dev.configDesc ≤ dev.configDesc.length := by
    omega
  refine ⟨?_, ?_, ?_, ?_⟩
  · exact ⟨_, loadDescriptorsChecked_eq noEndpoints bound (by omega)⟩
  · refine ⟨min (totalLength dev.configDesc) endpointMaxDataLength + 1, ?_⟩
    unfold buildOtherSpeedChecked
    dsimp only
    rw [if_pos (by omega), convertDescriptorsChecked_eq _ (by omega)]
    · rfl
    · rw [List.length_set, List.length_take]
      omega
  · intro safe
    have takes : Tcpip.Takes ⟨false, [], [], []⟩ := ⟨rfl, rfl⟩
    obtain ⟨next, written, later⟩ := takes.writeAll (devlistHead dev)
    obtain ⟨fuel, result, ends, _⟩ := safe ⟨false, [], [], []⟩
    rw [transmitDevlistChecked, written] at ends
    exact Lists.of_transmits later ends
  · intro lists tcpip
    obtain ⟨result, ends⟩ := lists.transmits bound
      (tcpipServerWriteAll tcpip (devlistHead dev)).1
      (tcpipServerWriteAll tcpip (devlistHead dev)).2
    exact ⟨_, result, ends, transmitInterfacesChecked_model ends⟩

theorem descriptorWalks_doubled :
    doubledDevice.configDesc.length =
        max 9 (totalLength doubledDevice.configDesc) ∧
      ∀ tcpip, ∃ fuel result,
        transmitDevlistChecked doubledDevice fuel tcpip = some result ∧
        transmitDevlistResponse doubledDevice tcpip = some result := by
  obtain ⟨_, _, safe⟩ := descriptorWalks doubledDevice (by decide)
  refine ⟨by decide, safe.mpr ?_⟩
  exact doubledChain.lists (List.nil_append _).symm doubledInterfaces.sized
    doubledInterfaces.count_le

/-- A configuration that announces an interface and has none. -/
def announcedDevice : UsbipDevice :=
  { doubledDevice with configDesc := [9, 2, 9, 0, 1, 1, 0, 0x80, 50] }

/-- A configuration with a descriptor of length 0. -/
def endlessDevice : UsbipDevice :=
  { doubledDevice with configDesc := [9, 2, 11, 0, 1, 1, 0, 0x80, 50, 0, 36] }

theorem nextInterface_endless (fuel : Nat) :
    getNextInterfaceIdx endlessDevice.configDesc fuel 9 0 = none := by
  have inside : 9 < totalLength endlessDevice.configDesc := by decide
  have other : byteAt endlessDevice.configDesc (9 + 0 + 1) ≠ 4 := by decide
  have size : (byteAt endlessDevice.configDesc (9 + 0)).toNat = 0 := by decide
  induction fuel with
  | zero => rfl
  | succ fuel induction =>
      rw [getNextInterfaceIdx, if_pos inside]
      dsimp only
      rw [if_neg other, size]
      exact induction

theorem nextInterface_endless_start (fuel : Nat) :
    getNextInterfaceIdx endlessDevice.configDesc fuel 0
      (byteAt endlessDevice.configDesc 0).toNat = none := by
  have inside : 0 < totalLength endlessDevice.configDesc := by decide
  have nine : 0 + (byteAt endlessDevice.configDesc 0).toNat = 9 := by decide
  have other : byteAt endlessDevice.configDesc (9 + 1) ≠ 4 := by decide
  have size : (byteAt endlessDevice.configDesc 9).toNat = 0 := by decide
  cases fuel with
  | zero => rfl
  | succ fuel =>
      rw [getNextInterfaceIdx, if_pos inside]
      dsimp only
      rw [nine, if_neg other, size]
      exact nextInterface_endless fuel

/-- The walk reads the type of a descriptor behind the array, or never comes to
an end. -/
theorem descriptorWalks_unguarded :
    (announcedDevice.configDesc.length =
        max 9 (totalLength announcedDevice.configDesc) ∧
      ∀ fuel tcpip,
        transmitDevlistChecked announcedDevice fuel tcpip = none) ∧
    (endlessDevice.configDesc.length =
        max 9 (totalLength endlessDevice.configDesc) ∧
      ∀ fuel, getNextInterfaceIdx endlessDevice.configDesc fuel 0
        (byteAt endlessDevice.configDesc 0).toNat = none) := by
  refine ⟨⟨by decide, ?_⟩, by decide, nextInterface_endless_start⟩
  intro fuel tcpip
  have one : (byteAt announcedDevice.configDesc 4).toNat = 0 + 1 := by decide
  rw [transmitDevlistChecked, one, Option.eq_none_iff_forall_ne_some]
  intro result ends
  obtain ⟨_, found, _, walked⟩ := transmitInterfacesChecked_some ends
  cases fuel with
  | zero => contradiction
  | succ fuel =>
      have outside := (nextInterfaceChecked_some walked (by decide)).1
      revert outside
      decide

end UsbipServer
