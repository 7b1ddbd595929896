import UsbipServer.Refine.Phases

namespace UsbipServer

open Wire Library

/-! Completion passes: how far the current pass got, or the last one if the
server waits, and what a step can do to that. -/

def IsoReturn.cursor : IsoReturn → Option (Nat × Nat)
  | .command => none
  | .pass now index => some (now, index)

def Continuation.cursor : Continuation → Option (Nat × Nat)
  | .isoIn _ _ _ _ back => back.cursor
  | _ => none

/-- The clock reading of the pass and the number of pending transfers it is
done with, which is all of them while the server waits. -/
def State.cursor (s : State) : Option (Nat × Nat) :=
  match s.phase with
  | .serve =>
      if s.deviceImported then some (s.passUs, s.pendingUrbs.length) else none
  | .pass now index => some (now, index)
  | .lock next => next.cursor
  | .callback _ _ next => next.cursor
  | _ => none

theorem State.cursor_pass {s : State} {now index : Nat}
    (here : s.phase = .pass now index) : s.cursor = some (now, index) := by
  simp [State.cursor, here]

theorem State.cursor_serve {s : State} {now index : Nat}
    (here : s.phase = .serve) (standing : s.cursor = some (now, index)) :
    s.passUs = now ∧ s.pendingUrbs.length = index := by
  unfold State.cursor at standing
  simp only [here] at standing
  split at standing
  · simpa using standing
  · contradiction

section

variable {pendingUrbs : List PendingUrb} {index : Nat} {urb : PendingUrb}

theorem mem_take_succ {other : PendingUrb}
    (filed : pendingUrbs[index]? = some urb)
    (member : other ∈ pendingUrbs.take (index + 1)) :
    other ∈ pendingUrbs.take index ∨ other = urb := by
  rw [List.take_add_one, filed] at member
  simpa using member

theorem take_eraseIdx
    (filed : pendingUrbs[index]? = some urb) :
    (pendingUrbs.eraseIdx index).take index = pendingUrbs.take index := by
  have bound := (List.getElem?_eq_some_iff.mp filed).1
  rw [List.eraseIdx_eq_take_drop_succ]
  exact List.take_left' (by simp [Nat.le_of_lt bound])

end

/-- The pass stands where it stood, no endpoint was polled and the event was
not cleared. -/
structure Stays (s s' : State) : Prop where
  cursor : s'.cursor = s.cursor
  endpoints : s'.endpoints = s.endpoints
  waitTimeoutUs : s'.waitTimeoutUs = s.waitTimeoutUs
  passUs : s'.passUs = s.passUs
  moves : Moves s s'
  event : s.device.eventFd = true → s'.device.eventFd = true

inductive PassStep (s : State) : State → Prop
  | outside {s' : State} (away : s'.cursor = none) : PassStep s s'
  | starts {s' : State} (fresh : s'.cursor = some (s'.passUs, 0)) :
      PassStep s s'
  | stays {s' : State} (same : Stays s s')
      (pendingUrbs : s'.pendingUrbs = s.pendingUrbs) : PassStep s s'
  | isoDone {s' : State} (now index : Nat) (urb : PendingUrb)
      (same : Stays s s') (here : s.cursor = some (now, index))
      (filed : s.pendingUrbs[index]? = some urb)
      (pendingUrbs : s'.pendingUrbs = s.pendingUrbs.eraseIdx index) :
      PassStep s s'
  | ends (now index : Nat) (here : s.phase = .pass now index)
      (all : s.pendingUrbs.length ≤ index) : PassStep s (s.goto .serve)
  | later (now index : Nat) (urb : PendingUrb)
      (here : s.phase = .pass now index)
      (filed : s.pendingUrbs[index]? = some urb)
      (early : now < urb.dueUs s.endpoints) :
      PassStep s ({ s with
        waitTimeoutUs :=
          min s.waitTimeoutUs (urb.dueUs s.endpoints - now) }.goto
        (.pass now (index + 1)))
  | skipped (now index : Nat) (urb : PendingUrb)
      (here : s.phase = .pass now index)
      (filed : s.pendingUrbs[index]? = some urb)
      (plain : urb.isochronous = false)
      (nothing : (s.device.usbipDeviceFetchEpData urb.ep.toUInt8
        urb.transferBufferLength.toNat).1 = []) :
      PassStep s (({ s with
        device := (s.device.usbipDeviceFetchEpData urb.ep.toUInt8
          urb.transferBufferLength.toNat).2 }.emit
        [.fetched (epMasked urb.ep.toUInt8)
          (s.device.usbipDeviceFetchEpData urb.ep.toUInt8
            urb.transferBufferLength.toNat).1]).goto (.pass now (index + 1)))
  | completed {s' : State} (now index : Nat) (urb : PendingUrb)
      (here : s.phase = .pass now index)
      (filed : s.pendingUrbs[index]? = some urb)
      (plain : urb.isochronous = false)
      (due : (s.endpoints true urb.number).nextPollUs ≤ now)
      (data : (s.device.usbipDeviceFetchEpData urb.ep.toUInt8
        urb.transferBufferLength.toNat).1 ≠ [])
      (cursor : s'.cursor = some (now, index))
      (device : s'.device = (s.device.usbipDeviceFetchEpData urb.ep.toUInt8
        urb.transferBufferLength.toNat).2)
      (threads : s'.threads = s.threads)
      (endpoints : s'.endpoints = s.endpoints.setNextPoll urb.number
        (now + (s.endpoints true urb.number).intervalUs))
      (waitTimeoutUs : s'.waitTimeoutUs = s.waitTimeoutUs)
      (passUs : s'.passUs = s.passUs)
      (pendingUrbs : s'.pendingUrbs = s.pendingUrbs.eraseIdx index) :
      PassStep s s'

section

variable {dev : UsbipDevice} {s s' : State}

/-- Away from a pass, and from an import. -/
def Task.isOutside : Task → Bool
  | .collect _ _ _ (.pass _ _) => false
  | .reset _ => false
  | _ => true

theorem Ends.outside {start : State} {task : Task}
    (ends : Ends dev start task s') (outside : task.isOutside = true) :
    s'.cursor = none := by
  cases ends with
  | @asks urb actual packet rest back =>
      cases back with
      | command => rfl
      | pass => simp [Task.isOutside] at outside
  | isoCompleted | isoLost | attached | unattached =>
      simp [Task.isOutside] at outside
  | _ => rfl

theorem Ends.reset_passStep {start : State} {reason : ResetReason}
    (ends : Ends dev start (.reset reason) s')
    (empty : start.pendingUrbs = []) : PassStep s s' := by
  cases ends with
  | attached tcpip written =>
      refine .starts ?_
      simp [State.cursor, empty]
  | unattached tcpip written => exact .outside rfl
  | detached => exact .outside rfl

theorem Ends.collect_passStep {start : State} {urb : PendingUrb}
    {now index : Nat} {packets : List IsoPacket} {actual : List Nat}
    (ends : Ends dev start (.collect urb actual packets (.pass now index)) s')
    (same : start = { s with
      receiveLock := start.receiveLock
      txBuffer := start.txBuffer })
    (here : s.cursor = some (now, index))
    (filed : s.pendingUrbs[index]? = some urb) (moves : Moves s s') :
    PassStep s s' := by
  rw [same] at ends
  cases ends with
  | asks => exact .stays ⟨here.symm, rfl, rfl, rfl, moves, id⟩ rfl
  | isoCompleted lengths tcpip complete written =>
      exact .isoDone now index urb ⟨here.symm, rfl, rfl, rfl, moves, id⟩ here
        filed rfl
  | isoLost => exact .outside rfl

theorem Elsewhere.passStep (elsewhere : Elsewhere s s') (moves : Moves s s') :
    PassStep s s' := by
  have rest := elsewhere.rest
  refine .stays ⟨?_, elsewhere.endpoints, ?_, ?_, moves, elsewhere.event⟩
    elsewhere.pendingUrbs
  · rw [rest]
    rfl
  · rw [rest]
  · rw [rest]

theorem Transition.passStep {label : Label} (sound : Sound dev s)
    (moved : Transition dev s label s') : PassStep s s' := by
  have moves := moved.moves sound
  have elsewhere : label.isThread = true → Elsewhere s s' :=
    fun kind => moved.elsewhere kind
  cases moved with
  | accepts reads writes here =>
      obtain ⟨absent, _⟩ := sound.isDetached here fun _ _ => id
      refine .outside ?_
      simp [State.cursor, absent]
  | submits tcpip command here imported running received plain ends =>
      exact .outside (ends.outside rfl)
  | submitsIso tcpip command here imported running received paced ends =>
      exact .outside (ends.outside rfl)
  | controls clock request supported here action ends =>
      exact .outside (ends.outside rfl)
  | answers clock request data here ran ends =>
      exact .outside (ends.outside rfl)
  | overflows clock request here full ends =>
      exact .outside (ends.outside rfl)
  | enters clock next here =>
      refine .stays ⟨?_, rfl, rfl, rfl, moves ?_, id⟩ rfl
      · simp [State.cursor, here]
      · simp [State.fetches, here]
  | posts clock call made next here =>
      refine .stays ⟨?_, rfl, rfl, rfl, moves ?_, fun _ => rfl⟩ rfl
      · simp [State.cursor, here]
      · simp [State.fetches, here]
  | starts clock here => exact .starts rfl
  | ends clock now index here all => exact .ends now index here all
  | later clock now index urb here filed early =>
      exact .later now index urb here filed early
  | collects clock now index urb here filed isochronous due ends =>
      refine ends.collect_passStep rfl (State.cursor_pass here) filed (moves ?_)
      simp [State.fetches, here, filed, isochronous]
  | skips clock now index urb here filed plain due nothing =>
      exact .skipped now index urb here filed plain nothing
  | completes clock now index urb tcpip here filed plain due something =>
      exact .completed now index urb here filed plain due something rfl rfl rfl
        rfl rfl rfl rfl
  | resetEnds clock reason here uncalled ends =>
      obtain ⟨_, empty, _⟩ := sound.isDetached here fun _ _ => id
      exact ends.reset_passStep empty
  | callbackTransmits ep data made next here ran =>
      refine .stays ⟨?_, rfl, rfl, rfl, moves rfl, ran.flags.1.trans⟩ rfl
      simp [State.cursor, here]
  | returns written length made next here fits ends =>
      cases next with
      | control request => exact .outside (ends.outside rfl)
      | receive request => exact .outside (ends.outside rfl)
      | isoOut request packet rest => exact .outside (ends.outside rfl)
      | isoIn urb actual packet rest back =>
          cases back with
          | command => exact .outside (ends.outside rfl)
          | pass now index =>
              obtain ⟨_, progress, _⟩ := sound.isAttached here fun _ _ _ => id
              refine ends.collect_passStep rfl ?_ progress.filed (moves rfl)
              simp [State.cursor, here, Continuation.cursor, IsoReturn.cursor]
      | reset reason =>
          obtain ⟨_, empty, _⟩ := sound.isDetached here fun _ _ => id
          exact ends.reset_passStep empty
  | transmits | wakes | threadPosts | locks | unlocks =>
      exact (elsewhere rfl).passStep (moves rfl)
  | interrupts => exact .stays ⟨rfl, rfl, rfl, rfl, moves rfl, id⟩ rfl
  | _ => exact .outside rfl

theorem step_passStep {label : Label} (sound : Sound dev s)
    (stepped : step dev s label = some s') : PassStep s s' :=
  (step_transition stepped).passStep sound

end

/-- A bulk or interrupt IN transfer that has room for data of the endpoint. -/
def Transfer.awaits (number : Fin 16) (transfer : Transfer) : Bool :=
  !transfer.isochronous && decide (0 < transfer.transferBufferLength.toNat) &&
    decide (transfer.number = number)

theorem Transfer.awaits_iff {number : Fin 16} {transfer : Transfer} :
    transfer.awaits number = true ↔
      transfer.isochronous = false ∧
        0 < transfer.transferBufferLength.toNat ∧
        transfer.number = number := by
  simp [Transfer.awaits, and_assoc]

/-- No pending transfer is served from the buffer of endpoint 0. -/
def servedApart (s : State) : Bool :=
  s.pendingUrbs.all fun urb => !urb.awaits 0

end UsbipServer
