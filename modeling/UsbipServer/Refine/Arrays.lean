import UsbipServer.Memory
import UsbipServer.Refine.Progress

namespace UsbipServer

open Wire Library

/-- The part of a state that is kept in static arrays. -/
structure Contents where
  rxBuffer : Buffer Byte
  txBuffer : Buffer Cell
  pendingUrbs : List PendingUrb
  endpointData : Fin 16 → List Cell

def State.contents (s : State) : Contents :=
  ⟨s.rxBuffer, s.txBuffer, s.pendingUrbs, s.device.endpointData⟩

structure Memory.Holds (memory : Memory) (contents : Contents) : Prop where
  rxBuffer : ∀ index, index < usbipMaxPacketSize →
    memory.rxBuffer index = contents.rxBuffer index
  txBuffer : ∀ index, index < usbipMaxPacketSize →
    memory.txBuffer index = contents.txBuffer index
  count : memory.numPendingUrbs ≤ maxPendingUrbs
  entries : List.Forall₂ PendingUrb.Agrees
    (memory.pendingUrbs.slice 0 memory.numPendingUrbs) contents.pendingUrbs
  room : ∀ endpoint, memory.dataLength endpoint ≤ endpointMaxDataLength
  data : ∀ endpoint, (memory.data endpoint).slice 0
    (memory.dataLength endpoint) = contents.endpointData endpoint

/-- The accesses stay inside the arrays, read what the contents say and leave
the arrays with the later contents. -/
def Carries (accesses : List Access) (before after : Contents) : Prop :=
  ∀ memory : Memory, memory.Holds before →
    ∃ next, memory.performAll accesses = some next ∧ next.Holds after

theorem write_agree_below {α : Type} {left right : Buffer α} {bound : Nat}
    (agree : ∀ index, index < bound → left index = right index)
    (offset : Nat) (content : List α) :
    ∀ index, index < bound →
      left.write offset content index = right.write offset content index := by
  intro index inside
  simp only [Buffer.write, agree index inside]

section

variable {contents middle after : Contents} {accesses more : List Access}

namespace Carries

theorem nil : Carries [] contents contents :=
  fun memory holds => ⟨memory, rfl, holds⟩

theorem append (early : Carries accesses contents middle)
    (late : Carries more middle after) :
    Carries (accesses ++ more) contents after := by
  intro memory holds
  obtain ⟨next, performed, held⟩ := early memory holds
  obtain ⟨last, continued, finished⟩ := late next held
  refine ⟨last, ?_, finished⟩
  rw [Memory.performAll, List.foldlM_append]
  rw [Memory.performAll] at performed
  rw [performed]
  exact continued

theorem single {access : Access}
    (performs : ∀ memory : Memory, memory.Holds contents →
      ∃ next, memory.perform access = some next ∧ next.Holds after) :
    Carries [access] contents after := by
  intro memory holds
  obtain ⟨next, performed, held⟩ := performs memory holds
  refine ⟨next, ?_, held⟩
  simp [Memory.performAll, performed]

theorem cons {access : Access} (early : Carries [access] contents middle)
    (late : Carries more middle after) :
    Carries (access :: more) contents after :=
  early.append late

theorem storeRx {content : List Byte}
    (inside : content.length ≤ usbipMaxPacketSize) :
    Carries [.storeRx content] contents
      { contents with rxBuffer := contents.rxBuffer.write 0 content } := by
  apply single
  intro memory holds
  refine ⟨{ memory with rxBuffer := memory.rxBuffer.write 0 content }, ?_, ?_⟩
  · simp [Memory.perform, Buffer.store_eq (Nat.zero_add content.length ▸ inside)]
  · exact { holds with rxBuffer := write_agree_below holds.rxBuffer 0 content }

theorem loadRx {offset length : Nat}
    (inside : offset + length ≤ usbipMaxPacketSize) :
    Carries [.loadRx offset (contents.rxBuffer.slice offset length)] contents
      contents := by
  apply single
  intro memory holds
  have same : memory.rxBuffer.slice offset length =
      contents.rxBuffer.slice offset length :=
    Buffer.slice_congr fun index _ below =>
      holds.rxBuffer index (Nat.lt_of_lt_of_le below inside)
  refine ⟨memory, ?_, holds⟩
  simp [Memory.perform, Buffer.load_eq inside, same]

theorem spaceTx {offset length : Nat}
    (inside : offset + length ≤ usbipMaxPacketSize) :
    Carries [.spaceTx offset length] contents contents := by
  apply single
  intro memory holds
  exact ⟨memory, if_pos inside, holds⟩

theorem storeTx {offset : Nat} {content : List Cell}
    (inside : offset + content.length ≤ usbipMaxPacketSize) :
    Carries [.storeTx offset content] contents
      { contents with txBuffer := contents.txBuffer.write offset content } := by
  apply single
  intro memory holds
  refine ⟨{ memory with txBuffer := memory.txBuffer.write offset content }, ?_,
    ?_⟩
  · simp [Memory.perform, Buffer.store_eq inside]
  · exact
      { holds with txBuffer := write_agree_below holds.txBuffer offset content }

theorem loadTx {length : Nat} (inside : length ≤ usbipMaxPacketSize) :
    Carries [.loadTx (contents.txBuffer.slice 0 length)] contents
      contents := by
  apply single
  intro memory holds
  have same : memory.txBuffer.slice 0 length =
      contents.txBuffer.slice 0 length :=
    Buffer.slice_congr fun index _ below => holds.txBuffer index (by omega)
  have bound : 0 + length ≤ usbipMaxPacketSize := by omega
  refine ⟨memory, ?_, holds⟩
  simp [Memory.perform, Buffer.load_eq bound, same]

theorem loadTx_stored {content : List Cell}
    (inside : content.length ≤ usbipMaxPacketSize)
    (stored : contents.txBuffer.slice 0 content.length = content) :
    Carries [.loadTx content] contents contents := by
  have loaded : Carries [.loadTx (contents.txBuffer.slice 0 content.length)]
      contents contents := loadTx inside
  rwa [stored] at loaded

theorem packets {count : Nat} (inside : count ≤ maxIsoPackets) :
    Carries [.packets count] contents contents := by
  apply single
  intro memory holds
  exact ⟨memory, if_pos inside, holds⟩

end Carries

theorem Memory.Holds.length {memory : Memory} (holds : memory.Holds contents) :
    memory.numPendingUrbs = contents.pendingUrbs.length := by
  have same := holds.entries.length_eq
  rwa [Buffer.length_slice] at same

theorem Memory.newEntry_agrees (memory : Memory) (urb : PendingUrb) :
    (memory.newEntry urb).Agrees urb := by
  unfold newEntry
  split
  · exact ⟨rfl, fun _ => rfl⟩
  next plain => exact ⟨rfl, fun iso => absurd iso plain⟩

theorem Memory.Holds.scan {memory : Memory} {offset : Nat}
    {urbs : List PendingUrb} (holds : memory.Holds contents)
    (inside : offset + urbs.length ≤ contents.pendingUrbs.length)
    (listed : (contents.pendingUrbs.drop offset).take urbs.length = urbs) :
    memory.scanUrbs offset urbs = some memory := by
  have count := holds.length
  have bound : offset + urbs.length ≤ maxPendingUrbs :=
    inside.trans (count ▸ holds.count)
  have entries := List.forall₂_take urbs.length
    (List.forall₂_drop offset holds.entries)
  rw [Buffer.drop_slice _ (by omega), Buffer.take_slice _ (by omega),
    Nat.zero_add, listed] at entries
  have all : ((memory.pendingUrbs.slice offset urbs.length).zip urbs).all
      (fun pair => decide (pair.1.Agrees pair.2)) = true := by
    rw [List.all_eq_true]
    intro pair member
    exact decide_eq_true ((List.forall₂_iff_zip.mp entries).2 member)
  simp only [scanUrbs, Buffer.load_eq bound]
  exact if_pos all

namespace Carries

theorem pushUrb {urb : PendingUrb}
    (room : contents.pendingUrbs.length ≠ maxPendingUrbs) :
    Carries [.pushUrb urb] contents
      { contents with pendingUrbs := contents.pendingUrbs ++ [urb] } := by
  apply single
  intro memory holds
  have count := holds.length
  have below : memory.numPendingUrbs < maxPendingUrbs := by
    have most := holds.count
    omega
  have stored : memory.pendingUrbs.store maxPendingUrbs memory.numPendingUrbs
      [memory.newEntry urb] =
      some (memory.pendingUrbs.write memory.numPendingUrbs
        [memory.newEntry urb]) :=
    Buffer.store_eq below
  refine ⟨{ memory with
    pendingUrbs := memory.pendingUrbs.write memory.numPendingUrbs
      [memory.newEntry urb]
    numPendingUrbs := memory.numPendingUrbs + 1 }, ?_, ?_⟩
  · simp [Memory.perform, Memory.pushUrb, stored]
  · refine { holds with count := below, entries := ?_ }
    simp only [Buffer.slice_push]
    exact forall₂_push holds.entries (memory.newEntry_agrees urb)

theorem lookUrb {index : Nat} {urb : PendingUrb}
    (filed : contents.pendingUrbs[index]? = some urb) :
    Carries [.lookUrb index urb] contents contents := by
  apply single
  intro memory holds
  obtain ⟨inside, rfl⟩ := List.getElem?_eq_some_iff.mp filed
  refine ⟨memory, holds.scan inside ?_, holds⟩
  rw [List.drop_eq_getElem_cons inside]
  rfl

theorem scanUrbs {urbs : List PendingUrb}
    (front : urbs <+: contents.pendingUrbs) :
    Carries [.scanUrbs urbs] contents contents := by
  apply single
  intro memory holds
  refine ⟨memory, holds.scan ?_ ?_, holds⟩
  · rw [Nat.zero_add]
    exact front.length_le
  · rw [List.drop_zero]
    exact (List.prefix_iff_eq_take.mp front).symm

theorem removeUrb {index : Nat} {urb : PendingUrb}
    (filed : contents.pendingUrbs[index]? = some urb) :
    Carries [.removeUrb index] contents
      { contents with pendingUrbs := contents.pendingUrbs.eraseIdx index } := by
  apply single
  intro memory holds
  have count := holds.length
  have most := holds.count
  have inside : index < memory.numPendingUrbs := by
    rw [count]
    exact (List.getElem?_eq_some_iff.mp filed).1
  have moved := @Buffer.move_eq _ memory.pendingUrbs maxPendingUrbs
    (memory.numPendingUrbs - 1 - index) index (index + 1) (by omega) (by omega)
  refine ⟨{ memory with
    pendingUrbs := memory.pendingUrbs.write index (memory.pendingUrbs.slice
      (index + 1) (memory.numPendingUrbs - 1 - index))
    numPendingUrbs := memory.numPendingUrbs - 1 }, ?_, ?_⟩
  · simp [Memory.perform, Memory.removePendingUrb, moved]
  · refine { holds with
      count := (Nat.sub_le _ _).trans most
      entries := ?_ }
    simp only [Buffer.slice_move_erase _ inside]
    exact forall₂_eraseIdx holds.entries index

theorem clearUrbs :
    Carries [.clearUrbs] contents { contents with pendingUrbs := [] } := by
  apply single
  intro memory holds
  exact ⟨{ memory with numPendingUrbs := 0 }, rfl,
    { holds with count := Nat.zero_le _, entries := .nil }⟩

end Carries

theorem Memory.Holds.setData {memory : Memory} (holds : memory.Holds contents)
    (endpoint : Fin 16) {data : Buffer Cell} {length : Nat}
    {content : List Cell} (room : length ≤ endpointMaxDataLength)
    (held : data.slice 0 length = content) :
    ({ memory with
      data := Function.update memory.data endpoint data
      dataLength :=
        Function.update memory.dataLength endpoint length } : Memory).Holds
      { contents with
        endpointData :=
          Function.update contents.endpointData endpoint content } := by
  refine { holds with room := ?_, data := ?_ }
  · intro other
    by_cases same : other = endpoint
    · subst same
      simpa using room
    · simpa [Function.update_of_ne same] using holds.room other
  · intro other
    by_cases same : other = endpoint
    · subst same
      simpa using held
    · simpa [Function.update_of_ne same] using holds.data other

theorem Call.length_cells (call : Call) :
    call.cells.length ≤ endpointMaxDataLength := by
  simp [cells]

namespace Carries

theorem storeData {endpoint : Fin 16} {content : List Cell}
    (room : content.length ≤ endpointMaxDataLength) :
    Carries [.storeData endpoint content] contents
      { contents with
        endpointData :=
          Function.update contents.endpointData endpoint content } := by
  apply single
  intro memory holds
  have stored := @Buffer.store_eq _ (memory.data endpoint)
    endpointMaxDataLength 0 content (by omega)
  refine ⟨_, ?_, holds.setData endpoint room
    (Buffer.slice_write_self (memory.data endpoint) content 0)⟩
  simp [Memory.perform, Memory.storeData, stored]

theorem clearData {endpoint : Fin 16} :
    Carries [.clearData endpoint] contents
      { contents with
        endpointData := Function.update contents.endpointData endpoint [] } := by
  apply single
  intro memory holds
  have cleared := holds.setData endpoint (Nat.zero_le _)
    (Buffer.slice_zero (memory.data endpoint) 0)
  rw [Function.update_eq_self] at cleared
  exact ⟨_, rfl, cleared⟩

theorem clearAllData :
    Carries [.clearAllData] contents
      { contents with endpointData := fun _ => [] } := by
  apply single
  intro memory holds
  exact ⟨{ memory with dataLength := fun _ => 0 }, rfl,
    { holds with room := fun _ => Nat.zero_le _, data := fun _ => rfl }⟩

end Carries

theorem Memory.remaining_le (endpoint : Fin 16) (available maxLength : Nat) :
    min maxLength available + remaining endpoint available maxLength ≤
      available := by
  unfold remaining
  split <;> omega

/-- What is fetched fits `tx_buffer` because an endpoint never holds more. -/
theorem Memory.fetchData_eq (memory : Memory) (endpoint : Fin 16)
    (maxLength : Nat)
    (room : memory.dataLength endpoint ≤ endpointMaxDataLength) :
    memory.fetchData endpoint maxLength ((memory.data endpoint).slice 0
        (min maxLength (memory.dataLength endpoint))) =
      some { memory with
        txBuffer := memory.txBuffer.write 0 ((memory.data endpoint).slice 0
          (min maxLength (memory.dataLength endpoint)))
        data := Function.update memory.data endpoint
          ((memory.data endpoint).write 0 ((memory.data endpoint).slice
            (min maxLength (memory.dataLength endpoint))
            (remaining endpoint (memory.dataLength endpoint) maxLength)))
        dataLength := Function.update memory.dataLength endpoint
          (remaining endpoint (memory.dataLength endpoint) maxLength) } := by
  have parts := remaining_le endpoint (memory.dataLength endpoint) maxLength
  have small : endpointMaxDataLength ≤ usbipMaxPacketSize := by decide
  unfold fetchData
  simp only
  rw [Buffer.load_eq (by omega)]
  simp only [if_true]
  rw [Buffer.store_eq (by rw [Buffer.length_slice]; omega),
    Buffer.move_eq (by omega) (by omega)]

theorem Memory.Holds.fetched {memory : Memory} {device : DeviceState}
    {ep : Byte} (maxLength : Nat) (holds : memory.Holds contents)
    (stored : contents.endpointData = device.endpointData) :
    (device.usbipDeviceFetchEpData ep maxLength).1 =
        (memory.data (epMasked ep)).slice 0
          (min maxLength (memory.dataLength (epMasked ep))) ∧
      (device.usbipDeviceFetchEpData ep maxLength).2.endpointData =
        Function.update contents.endpointData (epMasked ep)
          (((memory.data (epMasked ep)).write 0
            ((memory.data (epMasked ep)).slice
              (min maxLength (memory.dataLength (epMasked ep)))
              (remaining (epMasked ep) (memory.dataLength (epMasked ep))
                maxLength))).slice 0
            (remaining (epMasked ep) (memory.dataLength (epMasked ep))
              maxLength)) := by
  have held := holds.data (epMasked ep)
  rw [stored] at held
  have short : min maxLength (memory.dataLength (epMasked ep)) ≤
      memory.dataLength (epMasked ep) := Nat.min_le_right _ _
  simp only [DeviceState.usbipDeviceFetchEpData, DeviceState.setEndpoint,
    ← held, Buffer.length_slice, stored]
  refine ⟨Buffer.take_slice _ short, ?_⟩
  congr 1
  unfold remaining
  by_cases control : epMasked ep = 0
  · simp [control]
  · rw [if_neg control, if_neg control, Buffer.slice_move_front _ short]

theorem Carries.fetchData {device : DeviceState} {ep : Byte} {maxLength : Nat}
    (stored : contents.endpointData = device.endpointData) :
    Carries [.fetchData (epMasked ep) maxLength
        (device.usbipDeviceFetchEpData ep maxLength).1] contents
      { contents with
        txBuffer := contents.txBuffer.write 0
          (device.usbipDeviceFetchEpData ep maxLength).1
        endpointData :=
          (device.usbipDeviceFetchEpData ep maxLength).2.endpointData } := by
  apply Carries.single
  intro memory holds
  have room := holds.room (epMasked ep)
  have parts := Memory.remaining_le (epMasked ep)
    (memory.dataLength (epMasked ep)) maxLength
  obtain ⟨taken, left⟩ := holds.fetched maxLength stored
  have sent : ({ memory with
      txBuffer := memory.txBuffer.write 0
        (device.usbipDeviceFetchEpData ep maxLength).1 } : Memory).Holds
      { contents with
        txBuffer := contents.txBuffer.write 0
          (device.usbipDeviceFetchEpData ep maxLength).1 } :=
    { holds with txBuffer := write_agree_below holds.txBuffer 0 _ }
  refine ⟨_, ?_, left ▸ sent.setData (epMasked ep) (by omega) rfl⟩
  rw [taken]
  exact memory.fetchData_eq (epMasked ep) maxLength room

end

end UsbipServer
