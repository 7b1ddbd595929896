import UsbipServer.Spec.Chain

namespace UsbipServer

open Wire Library

namespace Descriptor

def isInterface (descriptor : Descriptor) : Bool := descriptor.type = 4

theorem isInterface_iff (descriptor : Descriptor) :
    descriptor.isInterface = true ↔ byteAt descriptor.bytes 1 = 4 :=
  decide_eq_true_iff

def interfaceNumber (descriptor : Descriptor) : Nat :=
  (byteAt descriptor.bytes 2).toNat

def alternateSetting (descriptor : Descriptor) : Nat :=
  (byteAt descriptor.bytes 3).toNat

def classRecord (descriptor : Descriptor) : List Byte :=
  [byteAt descriptor.bytes 5, byteAt descriptor.bytes 6,
    byteAt descriptor.bytes 7, 0]

end Descriptor

/-- The settings of one interface, alternate setting 0 first. -/
structure Settings (number : Nat) where
  primary : Descriptor
  alternates : List Descriptor
  primary_zero : primary.alternateSetting = 0
  numbered : ∀ setting ∈ primary :: alternates,
    setting.interfaceNumber = number

def Settings.descriptors {number : Nat} (settings : Settings number) :
    List Descriptor :=
  settings.primary :: settings.alternates

def Chain.interfaces {configDesc : List Byte} (chain : Chain configDesc) :
    List Descriptor :=
  chain.rest.filter (·.isInterface)

/-- The interfaces of a configuration, in the order of their numbers. -/
structure Interfaces {configDesc : List Byte} (chain : Chain configDesc) where
  settings : (number : Fin (byteAt configDesc 4).toNat) → Settings number
  listed : chain.interfaces =
    (List.ofFn fun number => (settings number).descriptors).flatten
  sized : ∀ interface ∈ chain.interfaces, interface.bytes.length = 9

/-- One record for each interface, of its alternate setting 0. -/
def Interfaces.records {configDesc : List Byte} {chain : Chain configDesc}
    (interfaces : Interfaces chain) : List (List Byte) :=
  List.ofFn fun number => (interfaces.settings number).primary.classRecord

section

variable {configDesc : List Byte} {front back between : List Descriptor}
  {descriptor interface : Descriptor}

theorem Chain.getNextInterfaceIdx_step (chain : Chain configDesc) {fuel : Nat}
    (split : chain.first :: chain.rest =
      front ++ descriptor :: interface :: back) :
    UsbipServer.getNextInterfaceIdx configDesc (fuel + 1)
        (chainBytes front).length
        (byteAt configDesc (chainBytes front).length).toNat =
      if interface.isInterface then
        some (chainBytes (front ++ [descriptor])).length
      else
        UsbipServer.getNextInterfaceIdx configDesc fuel
          (chainBytes (front ++ [descriptor])).length
          (byteAt configDesc
            (chainBytes (front ++ [descriptor])).length).toNat := by
  have headed := descriptor.headed
  have total := chain.total split
  rw [chainBytes_cons, List.length_append] at total
  have next : chain.first :: chain.rest =
      (front ++ [descriptor]) ++ interface :: back := by
    rw [split, List.append_assoc]
    rfl
  rw [UsbipServer.getNextInterfaceIdx, if_pos (by omega)]
  dsimp only
  rw [chain.moves split, chain.byteAt_inside next interface.headed]
  exact if_congr interface.isInterface_iff.symm rfl rfl

theorem Chain.getNextInterfaceIdx (chain : Chain configDesc) {fuel : Nat}
    (split : chain.first :: chain.rest =
      front ++ descriptor :: (between ++ interface :: back))
    (others : ∀ other ∈ between, ¬ other.isInterface = true)
    (found : interface.isInterface = true) (enough : between.length < fuel) :
    UsbipServer.getNextInterfaceIdx configDesc fuel (chainBytes front).length
        (byteAt configDesc (chainBytes front).length).toNat =
      some (chainBytes (front ++ descriptor :: between)).length := by
  obtain ⟨fuel, rfl⟩ := Nat.exists_eq_succ_of_ne_zero
    (Nat.ne_of_gt (Nat.zero_lt_of_lt enough))
  induction between generalizing front descriptor fuel with
  | nil => rw [chain.getNextInterfaceIdx_step split, if_pos found]
  | cons next between induction =>
      have other := others next List.mem_cons_self
      have later : chain.first :: chain.rest =
          (front ++ [descriptor]) ++ next :: (between ++ interface :: back) := by
        rw [split, List.append_assoc]
        rfl
      obtain ⟨fuel, rfl⟩ := Nat.exists_eq_succ_of_ne_zero
        (Nat.ne_of_gt (Nat.zero_lt_of_lt (Nat.lt_of_succ_lt_succ enough)))
      rw [chain.getNextInterfaceIdx_step split, if_neg other,
        induction later
          (fun other member => others other (List.mem_cons_of_mem _ member))
          fuel (Nat.lt_of_succ_lt_succ enough),
        List.append_assoc]
      rfl

theorem Chain.interfaceRecord (chain : Chain configDesc)
    (split : chain.first :: chain.rest = front ++ interface :: back)
    (sized : interface.bytes.length = 9) :
    UsbipServer.interfaceRecord configDesc (chainBytes front).length =
      interface.classRecord := by
  unfold UsbipServer.interfaceRecord
  rw [chain.byteAt_inside split (show 5 < _ by omega),
    chain.byteAt_inside split (show 6 < _ by omega),
    chain.byteAt_inside split (show 7 < _ by omega)]
  rfl

theorem Chain.nextInterface (chain : Chain configDesc) {later : List Descriptor}
    (split : chain.first :: chain.rest = front ++ descriptor :: back)
    (listed : back.filter (·.isInterface) = interface :: later) :
    ∃ between rest, chain.first :: chain.rest =
        (front ++ descriptor :: between) ++ interface :: rest ∧
      rest.filter (·.isInterface) = later ∧
      UsbipServer.getNextInterfaceIdx configDesc (totalLength configDesc + 2)
          (chainBytes front).length
          (byteAt configDesc (chainBytes front).length).toNat =
        some (chainBytes (front ++ descriptor :: between)).length := by
  obtain ⟨between, rest, rfl, others, found, filtered⟩ :=
    List.filter_eq_cons_iff.mp listed
  have long : between.length < totalLength configDesc + 2 := by
    have bound := length_le_chainBytes between
    have total := chain.total split
    rw [chainBytes_cons, chainBytes_append, List.length_append,
      List.length_append] at total
    omega
  refine ⟨between, rest, ?_, filtered,
    chain.getNextInterfaceIdx split others found long⟩
  rw [split, List.append_assoc]
  rfl

theorem Chain.transmitInterfaces (chain : Chain configDesc) {count : Nat}
    (split : chain.first :: chain.rest = front ++ descriptor :: back)
    (sized : ∀ interface ∈ back.filter (·.isInterface),
      interface.bytes.length = 9)
    (enough : count ≤ (back.filter (·.isInterface)).length)
    (tcpip : Tcpip) :
    UsbipServer.transmitInterfaces configDesc count (chainBytes front).length
        (true, tcpip) =
      some (tcpipServerWriteAll tcpip
        (((back.filter (·.isInterface)).take count).map
          Descriptor.classRecord)) := by
  induction count generalizing front descriptor back tcpip with
  | zero => rfl
  | succ count induction =>
      cases listed : back.filter (·.isInterface) with
      | nil =>
          rw [listed] at enough
          contradiction
      | cons interface later =>
          rw [listed] at sized enough
          obtain ⟨between, rest, next, filtered, found⟩ :=
            chain.nextInterface split listed
          rw [UsbipServer.transmitInterfaces, found]
          dsimp only
          rw [if_pos rfl, chain.interfaceRecord next
            (sized interface List.mem_cons_self), List.take_succ_cons,
            List.map_cons, tcpipServerWriteAll]
          cases tcpipServerWrite tcpip interface.classRecord with
          | mk status after =>
              cases status with
              | false => rfl
              | true =>
                  rw [← filtered]
                  apply induction next
                  · rw [filtered]
                    intro other member
                    exact sized other (List.mem_cons_of_mem _ member)
                  · rw [filtered]
                    exact Nat.le_of_succ_le_succ enough

/-- When the connection is lost before, the walk stops at the first one. -/
theorem Chain.transmitInterfaces_lost (chain : Chain configDesc) {count : Nat}
    (split : chain.first :: chain.rest = front ++ descriptor :: back)
    (enough : count ≤ (back.filter (·.isInterface)).length)
    (tcpip : Tcpip) :
    UsbipServer.transmitInterfaces configDesc count (chainBytes front).length
        (false, tcpip) = some (false, tcpip) := by
  cases count with
  | zero => rfl
  | succ count =>
      cases listed : back.filter (·.isInterface) with
      | nil =>
          rw [listed] at enough
          contradiction
      | cons interface later =>
          obtain ⟨between, rest, _, _, found⟩ :=
            chain.nextInterface split listed
          rw [UsbipServer.transmitInterfaces, found]
          rfl

end

section

variable {configDesc : List Byte} {chain : Chain configDesc}

theorem length_le_length_flatten {lists : List (List Descriptor)}
    (nonempty : ∀ list ∈ lists, list ≠ []) :
    lists.length ≤ lists.flatten.length := by
  induction lists with
  | nil => exact Nat.zero_le _
  | cons list lists induction =>
      have some := List.length_pos_iff.mpr (nonempty list List.mem_cons_self)
      have rest := induction fun later member =>
        nonempty later (List.mem_cons_of_mem _ member)
      rw [List.flatten_cons, List.length_append, List.length_cons]
      omega

theorem Interfaces.count_le (interfaces : Interfaces chain) :
    (byteAt configDesc 4).toNat ≤ chain.interfaces.length := by
  rw [interfaces.listed]
  refine Nat.le_trans (Nat.le_of_eq List.length_ofFn.symm)
    (length_le_length_flatten ?_)
  · intro list member
    obtain ⟨number, rfl⟩ := List.mem_ofFn.mp member
    exact List.cons_ne_nil _ _

/-- The records that are sent: those of the first interface descriptors, as
many as there are interfaces. -/
def Chain.firstRecords (chain : Chain configDesc) : List (List Byte) :=
  (chain.interfaces.take (byteAt configDesc 4).toNat).map
    Descriptor.classRecord

/-- The interface descriptor in each place is of the class of the interface
with that number. -/
def Interfaces.InPlace (interfaces : Interfaces chain) : Prop :=
  ∀ number : Fin (byteAt configDesc 4).toNat,
    (chain.interfaces[number.val]?).map Descriptor.classRecord =
      some (interfaces.settings number).primary.classRecord

theorem Interfaces.firstRecords_eq_iff (interfaces : Interfaces chain) :
    chain.firstRecords = interfaces.records ↔ interfaces.InPlace := by
  have enough := interfaces.count_le
  have place : ∀ number : Fin (byteAt configDesc 4).toNat,
      chain.firstRecords[number.val]? =
        (chain.interfaces[number.val]?).map Descriptor.classRecord := by
    intro number
    rw [Chain.firstRecords, List.getElem?_map,
      List.getElem?_take_of_lt number.isLt]
  constructor
  · intro same number
    rw [← place number, same, Interfaces.records]
    simp
  · intro inPlace
    apply List.ext_getElem?
    intro index
    by_cases inside : index < (byteAt configDesc 4).toNat
    · refine (place ⟨index, inside⟩).trans ((inPlace ⟨index, inside⟩).trans ?_)
      simp [Interfaces.records, inside]
    · rw [List.getElem?_eq_none, List.getElem?_eq_none]
      · simpa [Interfaces.records] using inside
      · simp only [Chain.firstRecords, List.length_map, List.length_take]
        omega

theorem flatten_place {lists : List (List Descriptor)} {index : Nat}
    {list : List Descriptor} (here : lists[index]? = some list)
    (single : ∀ place, place < index → ∃ descriptor,
      lists[place]? = some [descriptor]) (nonempty : list ≠ []) :
    lists.flatten[index]? = list.head? := by
  induction lists generalizing index with
  | nil => contradiction
  | cons front lists induction =>
      cases index with
      | zero =>
          obtain rfl : front = list := Option.some.inj here
          obtain ⟨head, tail, rfl⟩ := List.exists_cons_of_ne_nil nonempty
          rfl
      | succ index =>
          obtain ⟨descriptor, first⟩ := single 0 (Nat.succ_pos _)
          obtain rfl : front = [descriptor] := Option.some.inj first
          exact induction here fun place before =>
            single (place + 1) (Nat.succ_lt_succ before)

/-- Nothing is out of place when only the last interface has alternate
settings. -/
theorem Interfaces.inPlace_of_plain (interfaces : Interfaces chain)
    (plain : ∀ number : Fin (byteAt configDesc 4).toNat,
      number + 1 < (byteAt configDesc 4).toNat →
      (interfaces.settings number).alternates = []) :
    interfaces.InPlace := by
  intro number
  have here : chain.interfaces[number.val]? =
      (interfaces.settings number).descriptors.head? := by
    rw [interfaces.listed]
    apply flatten_place
    · simp
    · intro place before
      have inside := Nat.lt_trans before number.isLt
      refine ⟨(interfaces.settings ⟨place, inside⟩).primary, ?_⟩
      have alone := plain ⟨place, inside⟩ (by
        have bound := number.isLt
        change place + 1 < _
        omega)
      simp [inside, Settings.descriptors, alone]
    · exact List.cons_ne_nil _ _
  rw [here]
  rfl

end

def devlistHead (dev : UsbipDevice) : List (List Byte) :=
  [responseHead opRepDevlist, be32 1, deviceId, deviceRecord dev]

theorem Interfaces.transmitDevlistResponse {dev : UsbipDevice}
    {chain : Chain dev.configDesc} (interfaces : Interfaces chain)
    (tcpip : Tcpip) :
    UsbipServer.transmitDevlistResponse dev tcpip =
      some (tcpipServerWriteAll tcpip
        (devlistHead dev ++ chain.firstRecords)) := by
  have start : chain.first :: chain.rest = [] ++ chain.first :: chain.rest := rfl
  rw [tcpipServerWriteAll_append, UsbipServer.transmitDevlistResponse]
  change UsbipServer.transmitInterfaces dev.configDesc _ (chainBytes []).length
    (tcpipServerWriteAll tcpip (devlistHead dev)) = _
  cases tcpipServerWriteAll tcpip (devlistHead dev) with
  | mk status next =>
      cases status with
      | true =>
          exact chain.transmitInterfaces start interfaces.sized
            interfaces.count_le next
      | false =>
          exact chain.transmitInterfaces_lost start interfaces.count_le next

/-- As the records have one size, the reply tells them apart. -/
theorem Interfaces.flatten_eq_iff {configDesc : List Byte}
    {chain : Chain configDesc} (interfaces : Interfaces chain) :
    chain.firstRecords.flatten = interfaces.records.flatten ↔
      chain.firstRecords = interfaces.records := by
  have enough := interfaces.count_le
  have sizes : chain.firstRecords.map List.length =
      interfaces.records.map List.length := by
    have first : ∀ record ∈ chain.firstRecords, record.length = 4 := by
      intro record member
      obtain ⟨interface, _, rfl⟩ := List.mem_map.mp member
      rfl
    have second : ∀ record ∈ interfaces.records, record.length = 4 := by
      intro record member
      obtain ⟨number, rfl⟩ := List.mem_ofFn.mp member
      rfl
    rw [List.map_eq_replicate_iff.mpr first,
      List.map_eq_replicate_iff.mpr second]
    simp [Chain.firstRecords, Interfaces.records, enough]
  rw [List.eq_iff_flatten_eq]
  exact ⟨fun same => ⟨same, sizes⟩, And.left⟩

/-- A reply that is sent to its end names the alternate setting 0 of every
interface exactly if the first interface descriptors are in place. -/
theorem deviceList {dev : UsbipDevice} {chain : Chain dev.configDesc}
    (interfaces : Interfaces chain) (tcpip : Tcpip) :
    ∃ status next,
      transmitDevlistResponse dev tcpip = some (status, next) ∧
      (status = true →
        (next.sent = tcpip.sent ++ ((devlistHead dev).flatten ++
            interfaces.records.flatten) ↔
          interfaces.InPlace)) := by
  have reply := interfaces.transmitDevlistResponse tcpip
  cases written : tcpipServerWriteAll tcpip
      (devlistHead dev ++ chain.firstRecords) with
  | mk status next =>
      rw [written] at reply
      refine ⟨status, next, reply, ?_⟩
      rintro rfl
      rw [tcpipServerWriteAll_sent written, List.append_cancel_left_eq,
        List.flatten_append, List.append_cancel_left_eq,
        interfaces.flatten_eq_iff, interfaces.firstRecords_eq_iff]

/-- A configuration whose first interface has two settings. -/
def doubledConfig : List Byte :=
  [9, 2, 36, 0, 2, 1, 0, 0x80, 50] ++ [9, 4, 0, 0, 0, 1, 2, 0, 0] ++
    [9, 4, 0, 1, 0, 1, 2, 0, 0] ++ [9, 4, 1, 0, 0, 3, 0, 0, 0]

def streamingIdle : Descriptor :=
  ⟨[9, 4, 0, 0, 0, 1, 2, 0, 0], by decide, by decide, by decide⟩

def streamingActive : Descriptor :=
  ⟨[9, 4, 0, 1, 0, 1, 2, 0, 0], by decide, by decide, by decide⟩

def volumeKeys : Descriptor :=
  ⟨[9, 4, 1, 0, 0, 3, 0, 0, 0], by decide, by decide, by decide⟩

def doubledChain : Chain doubledConfig where
  first := ⟨[9, 2, 36, 0, 2, 1, 0, 0x80, 50], by decide, by decide, by decide⟩
  rest := [streamingIdle, streamingActive, volumeKeys]
  configuration := by decide
  bytes := by decide
  ends := by decide

def streamingSettings : Settings 0 :=
  ⟨streamingIdle, [streamingActive], by decide, by decide⟩

def keySettings : Settings 1 := ⟨volumeKeys, [], by decide, by decide⟩

def doubledInterfaces : Interfaces doubledChain where
  settings
    | ⟨0, _⟩ => streamingSettings
    | ⟨1, _⟩ => keySettings
  listed := rfl
  sized := by decide

def doubledDevice : UsbipDevice where
  deviceDesc := [18, 1, 0, 2, 0, 0, 0, 64]
  configDesc := doubledConfig
  langidDesc := [4, 3, 9, 4]
  usbStrings := []
  epDataCallback := false
  resetCallback := false
  isoInCallback := false

/-- The first interface is listed twice and the second one not at all. -/
theorem deviceList_doubled :
    doubledInterfaces.records = [[1, 2, 0, 0], [3, 0, 0, 0]] ∧
      transmitDevlistResponse doubledDevice ⟨false, [], [], []⟩ =
        some (true, ⟨false, [], [], (devlistHead doubledDevice).flatten ++
          [1, 2, 0, 0] ++ [1, 2, 0, 0]⟩) := by
  decide +kernel

end UsbipServer
