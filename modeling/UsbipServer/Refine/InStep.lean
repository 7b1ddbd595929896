import UsbipServer.Refine.Alike
import UsbipServer.Refine.Stages

namespace UsbipServer

open Wire Library

/-! Alike states stay alike: each step that both take, and each step one of
them takes alone. -/

section

variable {first second s t s' t' : State} {extent : Nat} {dev : UsbipDevice}

/-! Transmit calls. -/

theorem Call.Alike.current_iff {call other : Call}
    {device twin : DeviceState} (alike : Call.Alike first second call other)
    (devices : DeviceState.Alike first second device twin) :
    call.generation = device.resetGeneration ↔
      other.generation = twin.resetGeneration := by
  rw [← UInt32.sub_left_inj first.device.resetGeneration, alike.generation,
    devices.generation, UInt32.sub_left_inj]

theorem Call.Alike.endpoint {call other : Call}
    (alike : Call.Alike first second call other) :
    other.endpoint = call.endpoint := by
  rw [Call.endpoint, Call.endpoint, alike.ep]

theorem Call.Alike.cells {call other : Call}
    (alike : Call.Alike first second call other) :
    call.cells.map Cell.byte = other.cells.map Cell.byte := by
  simp only [Call.cells, List.map_map, alike.data]
  rfl

inductive TransmitOutcome.Alike (first second : State) :
    TransmitOutcome → TransmitOutcome → Prop
  | waiting : Alike first second .waiting .waiting
  | stored {device twin : DeviceState}
      (devices : DeviceState.Alike first second device twin) :
      Alike first second (.stored device) (.stored twin)
  | dropped : Alike first second .dropped .dropped

theorem Call.Alike.transmit {call other : Call} {device twin : DeviceState}
    (alike : Call.Alike first second call other)
    (devices : DeviceState.Alike first second device twin) (mayWait : Bool) :
    TransmitOutcome.Alike first second
      (usbipDeviceTransmit mayWait call device)
      (usbipDeviceTransmit mayWait other twin) := by
  have full : (twin.endpointData call.endpoint).isEmpty =
      (device.endpointData call.endpoint).isEmpty := by
    have length := devices.length_stored call.endpoint
    rw [Bool.eq_iff_iff, List.isEmpty_iff_length_eq_zero,
      List.isEmpty_iff_length_eq_zero, length]
  have outdated : decide (other.generation ≠ twin.resetGeneration) =
      decide (call.generation ≠ device.resetGeneration) := by
    rw [decide_eq_decide, ne_eq, ne_eq, alike.current_iff devices]
  simp only [usbipDeviceTransmit, alike.endpoint, full, outdated,
    ← devices.stopped, ← devices.controlAnswered]
  split
  · exact .waiting
  · split
    · have stored := devices.setEndpoint call.endpoint alike.cells
      exact .stored { stored with controlAnswered := rfl }
    · exact .dropped

theorem Same.calls_alike (same : Same first second extent s t) (ep : Byte)
    (data : List Byte) :
    Call.Alike first second (newCall s ep data) (newCall t ep data) :=
  ⟨rfl, rfl, same.device.generation, same.begun.1, same.begun.2⟩

theorem storedEvents_aside (call : Call) :
    ∀ event ∈ storedEvents call, event.isAside = true := by
  unfold storedEvents
  split <;> simp [Event.isAside]

theorem Same.setDevice {device twin : DeviceState}
    (same : Same first second extent s t)
    (devices : DeviceState.Alike first second device twin) :
    Same first second extent { s with device := device }
      { t with device := twin } :=
  { same with device := devices }

theorem Same.enter (same : Same first second extent s t) (ep : Byte)
    (data : List Byte) :
    Same first second extent
      ({ s with calls := s.calls + 1 }.emit [.entered (newCall s ep data)])
      ({ t with calls := t.calls + 1 }.emit [.entered (newCall t ep data)]) := by
  have counted : Same first second extent { s with calls := s.calls + 1 }
      { t with calls := t.calls + 1 } :=
    { same with begun :=
        ⟨Nat.le_succ_of_le same.begun.1, Nat.le_succ_of_le same.begun.2⟩ }
  exact counted.record rfl rfl

theorem Same.serverTransmit (same : Same first second extent s t) (ep : Byte)
    (data : List Byte) :
    Same first second extent (serverTransmit ep data s).2
        (serverTransmit ep data t).2 ∧
      ∀ {made : Nat} {left right : Continuation},
        Continuation.Alike extent left right →
        Phase.Alike first second extent
          (.callback (serverTransmit ep data s).1 made left)
          (.callback (serverTransmit ep data t).1 made right) := by
  have calls := same.calls_alike ep data
  have entered := same.enter ep data
  have outcome := calls.transmit entered.device false
  simp only [UsbipServer.serverTransmit]
  generalize usbipDeviceTransmit false (newCall s ep data) _ = left
    at outcome ⊢
  generalize usbipDeviceTransmit false (newCall t ep data) _ = right
    at outcome ⊢
  cases outcome with
  | waiting => exact ⟨entered, .calling⟩
  | stored devices =>
      refine ⟨(entered.setDevice devices).emit (storedEvents_aside _)
        (storedEvents_aside _), ?_⟩
      intro made left right next
      simp only [calls.endpoint]
      split
      · exact .calling next
      · exact .posting calls next
  | dropped =>
      exact ⟨entered.record rfl rfl, .calling⟩

theorem CallPhase.Alike.idle : CallPhase.Alike first second .idle .idle :=
  .old rfl rfl

theorem Same.setCall {left right : CallPhase}
    (same : Same first second extent s t) (thread : Nat)
    (calls : CallPhase.Alike first second left right) :
    Same first second extent (setCall s thread left)
      (setCall t thread right) := by
  refine { same with threads := ?_ }
  intro place
  by_cases here : place = thread
  · subst here
    simpa [UsbipServer.setCall] using calls
  · simpa [UsbipServer.setCall, here] using same.threads place

theorem Same.threadTransmit {call other : Call}
    (same : Same first second extent s t)
    (calls : Call.Alike first second call other) (thread : Nat)
    (mayWait : Bool) :
    Same first second extent (threadTransmit thread mayWait call s)
      (threadTransmit thread mayWait other t) := by
  have outcome := calls.transmit same.device mayWait
  unfold UsbipServer.threadTransmit
  generalize usbipDeviceTransmit mayWait call s.device = left at outcome ⊢
  generalize usbipDeviceTransmit mayWait other t.device = right at outcome ⊢
  cases outcome with
  | waiting => exact same.setCall thread (.waiting calls)
  | stored devices =>
      apply ((same.setDevice devices).emit (storedEvents_aside _)
        (storedEvents_aside _)).setCall thread
      rw [calls.endpoint]
      split
      · exact .idle
      · exact .stored calls
  | dropped =>
      exact (same.record rfl rfl).setCall thread .idle

theorem write_bytes {left right : Buffer Cell} {data other : List Cell}
    {offset index : Nat}
    (before : ∀ index < offset, (left index).byte = (right index).byte)
    (same : data.map Cell.byte = other.map Cell.byte)
    (bound : index < offset + data.length) :
    (left.write offset data index).byte =
      (right.write offset other index).byte := by
  by_cases early : index < offset
  · rw [Buffer.write_of_lt left data early, Buffer.write_of_lt right other early]
    exact before index early
  · have lengths := congrArg List.length same
    rw [List.length_map, List.length_map] at lengths
    have entry := congrArg (fun bytes => bytes[index - offset]?) same
    have inside : index - offset < data.length := by omega
    have alsoInside : index - offset < other.length := by omega
    simp only [List.getElem?_map, List.getElem?_eq_getElem inside,
      List.getElem?_eq_getElem alsoInside, Option.map_some,
      Option.some.injEq] at entry
    simp only [Buffer.write, Nat.le_of_not_lt early, if_true,
      List.getElem?_eq_getElem inside, List.getElem?_eq_getElem alsoInside,
      Option.getD_some]
    exact entry

theorem Same.completeWithData {urb : PendingUrb} {ticket now index : Nat}
    {data other : List Cell} (same : Same first second extent s t)
    (bytes : data.map Cell.byte = other.map Cell.byte) :
    Related first second extent (completeWithData urb now index data s)
      (completeWithData { urb with ticket := ticket } now index other t) := by
  have lengths : other.length = data.length := by
    have mapped := congrArg List.length bytes
    rw [List.length_map, List.length_map] at mapped
    exact mapped.symm
  have written := (same.erase index).scheduled (s.endpoints.setNextPoll
    urb.number (now + (s.endpoints true urb.number).intervalUs))
  have stored : Same first second extent
      { s with
        txBuffer := s.txBuffer.write 0 data
        endpoints := s.endpoints.setNextPoll urb.number
          (now + (s.endpoints true urb.number).intervalUs)
        pendingUrbs := s.pendingUrbs.eraseIdx index }
      { t with
        txBuffer := t.txBuffer.write 0 other
        endpoints := t.endpoints.setNextPoll urb.number
          (now + (t.endpoints true urb.number).intervalUs)
        pendingUrbs := t.pendingUrbs.eraseIdx index } := by
    refine { written with endpoints := ?_ }
    rw [same.endpoints]
  have parts := @retSubmitReply_parts urb.toTransfer
    { urb with ticket := ticket }.toTransfer 0 data.length true
    (s.txBuffer.write 0 data) (t.txBuffer.write 0 other) rfl
    fun _ place bound => write_bytes (by simp) bytes (by omega)
  obtain ⟨status, sent⟩ := stored.sendReply parts
  simp only [UsbipServer.completeWithData, transmitRetSubmit, lengths]
  have number : { urb with ticket := ticket }.number = urb.number := rfl
  simp only [number, status]
  split
  · exact sent.goto .pass rfl
  · exact sent.lostConnection

theorem Same.timed (same : Same first second extent s t)
    (timeout other : Nat) :
    Same first second extent { s with waitTimeoutUs := timeout }
      { t with waitTimeoutUs := other } :=
  { same with }

theorem Same.completePendingUrbs {now index : Nat}
    (same : Same first second extent s t) :
    Related first second extent (completePendingUrbs dev now index s)
      (completePendingUrbs dev now index t) := by
  unfold UsbipServer.completePendingUrbs
  rcases same.pending_at index with ⟨right, left⟩ | ⟨urb, ticket, left, right⟩
  · simp only [left, right]
    exact same.goto (.serve) rfl
  · have due : PendingUrb.dueUs { urb with ticket := ticket } t.endpoints =
        urb.dueUs s.endpoints := by
      rw [← same.endpoints]
      rfl
    simp only [left, right, due]
    split
    · exact (same.timed _ _).goto .pass rfl
    · split
      · apply same.transmitIso
        intro _ place bound
        contradiction
      · obtain ⟨bytes, devices⟩ := same.device.fetch urb.ep.toUInt8
          urb.transferBufferLength.toNat
        have empty := congrArg List.isEmpty bytes
        rw [List.isEmpty_map, List.isEmpty_map] at empty
        simp only [← empty]
        split
        · exact ((same.setDevice devices).record rfl rfl).goto .pass rfl
        · exact ((same.setDevice devices).record rfl rfl).completeWithData bytes

theorem Same.resetDone {reason : ResetReason}
    (same : Same first second extent s t) :
    Related first second extent (resetDone dev reason s)
      (resetDone dev reason t) := by
  cases reason with
  | attach =>
      simp only [UsbipServer.resetDone, ← same.tcpip]
      have answered : Same first second extent
          { s with
            tcpip := (transmitImportResponse dev s.tcpip).2
            deviceImported := (transmitImportResponse dev s.tcpip).1 }
          { t with
            tcpip := (transmitImportResponse dev s.tcpip).2
            deviceImported := (transmitImportResponse dev s.tcpip).1 } :=
        { same with tcpip := rfl, imported := rfl }
      split
      · exact (answered.record rfl rfl).goto .serve rfl
      · exact (answered.record rfl rfl).goto .accept rfl
  | lost =>
      exact same.goto (.accept) rfl

theorem Same.startImport (same : Same first second extent s t) :
    Related first second extent (startImport dev s) (startImport dev t) := by
  refine ⟨{ same with pending := rfl, endpoints := rfl }, .reset, ?_⟩
  intro index bound
  contradiction

theorem Same.closed (same : Same first second extent s t) (tcpip : Tcpip) :
    Related first second extent ({ s with tcpip := tcpip }.goto .accept)
      ({ t with tcpip := tcpip }.goto .accept) := by
  exact (same.connected tcpip).goto .accept rfl

theorem Same.processCmd (same : Same first second extent s t)
    (stepped : processCmd dev s = some s')
    (alsoStepped : processCmd dev t = some t') :
    Related first second extent s' t' := by
  unfold UsbipServer.processCmd at stepped alsoStepped
  rw [← same.tcpip] at alsoStepped
  cases read : tcpipServerRead s.tcpip OpHead.size with
  | blocked => simp [read] at stepped
  | failed tcpip received =>
      simp only [read] at stepped alsoStepped
      obtain rfl := Option.some.inj stepped
      obtain rfl := Option.some.inj alsoStepped
      exact same.closed tcpip
  | complete tcpip bytes =>
      simp only [read] at stepped alsoStepped
      split at stepped
      next version =>
        rw [if_pos version] at alsoStepped
        obtain rfl := Option.some.inj stepped
        obtain rfl := Option.some.inj alsoStepped
        exact same.closed tcpip
      next version =>
        rw [if_neg version] at alsoStepped
        split at stepped
        next devlist =>
          rw [if_pos devlist] at alsoStepped
          cases listed : transmitDevlistResponse dev tcpip with
          | none => simp [listed] at stepped
          | some answered =>
              simp only [listed] at stepped alsoStepped
              obtain rfl := Option.some.inj stepped
              obtain rfl := Option.some.inj alsoStepped
              exact same.closed answered.2
        next other =>
          rw [if_neg other] at alsoStepped
          split at stepped
          next imports =>
            rw [if_pos imports] at alsoStepped
            cases more : tcpipServerRead tcpip 32 with
            | blocked => simp [more] at stepped
            | failed tcpip received =>
                simp only [more] at stepped alsoStepped
                obtain rfl := Option.some.inj stepped
                obtain rfl := Option.some.inj alsoStepped
                exact same.closed tcpip
            | complete tcpip received =>
                simp only [more] at stepped alsoStepped
                obtain rfl := Option.some.inj stepped
                obtain rfl := Option.some.inj alsoStepped
                exact (same.connected tcpip).startImport
          next unknown =>
            rw [if_neg unknown] at alsoStepped
            obtain rfl := Option.some.inj stepped
            obtain rfl := Option.some.inj alsoStepped
            exact same.closed tcpip

theorem slice_received {offset length : Nat}
    (same : Same first second extent s t) (inside : offset + length ≤ extent) :
    s.rxBuffer.slice offset length = t.rxBuffer.slice offset length := by
  apply Buffer.slice_congr
  intro index _ bound
  exact same.received index (by omega)

/-- What a control callback may look at was received since. -/
theorem Same.control_args {left right : Request} {clock : Nat}
    (same : Same first second extent s t)
    (request : Request.Alike extent left right)
    (here : s.phase = .lock (.control left))
    (reads : readsReceived first s (.server clock) = true) :
    (callbackArgs s (.control left)).documented =
      (callbackArgs t (.control right)).documented := by
  simp only [callbackArgs, request.transferBufferLength, ← request.command]
  simp only [CallbackArgs.documented]
  split
  · rfl
  next outward =>
    have length : left.transferBufferLength.toNat ≤ extent := by
      simp only [readsReceived, here, Bool.or_eq_true, decide_eq_true_eq,
        List.any_eq_true] at reads
      rcases reads with ((written | inward) | empty) | ⟨event, member, enough⟩
      · rw [← request.outward written]
        exact request.arrived
      · exact absurd inward outward
      · rw [empty]
        exact Nat.zero_le _
      · cases event with
        | submit earlier =>
            have covered := same.covered earlier member
            have longer := of_decide_eq_true enough
            omega
        | _ => contradiction
    rw [slice_received same (by omega)]

theorem Same.callbackArgs {left right : Continuation} {clock : Nat}
    (same : Same first second extent s t)
    (next : Continuation.Alike extent left right)
    (here : s.phase = .lock left)
    (reads : readsReceived first s (.server clock) = true) :
    (callbackArgs s left).documented = (callbackArgs t right).documented := by
  cases next with
  | control request => exact same.control_args request here reads
  | receive request outward =>
      have inside := request.arrived
      rw [request.outward outward] at inside
      simp only [UsbipServer.callbackArgs, CallbackArgs.documented, request.ep,
        request.transferBufferLength]
      rw [slice_received same (by omega)]
  | @isoOut left right packet rest request inside =>
      simp only [UsbipServer.callbackArgs, CallbackArgs.documented, request.ep]
      rw [slice_received same (inside packet List.mem_cons_self)]
  | isoIn urb =>
      rw [PendingUrb.eq_of_anonymous urb]
      rfl
  | reset => rfl

theorem Same.hear {args other : CallbackArgs}
    (same : Same first second extent s t)
    (alike : args.documented = other.documented) :
    Same first second extent (s.emit [.callback args])
      (t.emit [.callback other]) := by
  obtain ⟨grown, alsoGrown⟩ := same.grown
  refine { same with
    grown := ⟨State.length_emit grown _, State.length_emit alsoGrown _⟩
    heard := ?_
    covered := ?_ }
  · rw [State.heardSince_emit grown, State.heardSince_emit alsoGrown,
      same.heard]
    simp [Event.heard, alike]
  · intro earlier member
    rw [State.eventsSince_emit grown] at member
    rcases List.mem_append.mp member with before | now
    · exact same.covered earlier before
    · simp at now

theorem Same.locked (same : Same first second extent s t)
    (owner other : Option Owner) :
    Same first second extent { s with receiveLock := owner }
      { t with receiveLock := other } :=
  { same with }

theorem Phase.packed_callback (posting : Option Call) (made : Nat)
    (next : Continuation) :
    (Phase.callback posting made next).packed = (Phase.lock next).packed := by
  cases next <;> rfl

theorem Related.enterCallback {left right : Continuation} {clock : Nat}
    (related : Related first second extent s t)
    (next : Continuation.Alike extent left right)
    (here : s.phase = .lock left)
    (reads : readsReceived first s (.server clock) = true)
    (stepped : enterCallback left s = some s')
    (alsoStepped : enterCallback right t = some t') :
    Related first second extent s' t' := by
  have args := related.same.callbackArgs next here reads
  unfold UsbipServer.enterCallback at stepped alsoStepped
  split at stepped
  · split at alsoStepped
    · obtain rfl := Option.some.inj stepped
      obtain rfl := Option.some.inj alsoStepped
      have entered := (related.same.locked (some .server) (some .server)).hear
        args
      refine ⟨{ entered with }, .calling next, ?_⟩
      intro index bound
      apply related.packed index
      rw [here, ← Phase.packed_callback none 0]
      exact bound
    · contradiction
  · contradiction

theorem Related.callbackReturned {left right : Continuation} {made : Nat}
    {written : List Byte} {length : Nat}
    (related : Related first second extent s t)
    (next : Continuation.Alike extent left right)
    (here : s.phase = .callback none made left)
    (reported : writesReported s (.callbackReturn written length) = true)
    (stepped : callbackReturned dev left written length s = some s')
    (alsoStepped : callbackReturned dev right written length t = some t') :
    Related first second extent s' t' := by
  have freed := related.same.locked none none
  cases next with
  | control request =>
      obtain rfl := Option.some.inj stepped
      obtain rfl := Option.some.inj alsoStepped
      exact freed.controlHandled request
  | receive request outward =>
      obtain rfl := Option.some.inj stepped
      obtain rfl := Option.some.inj alsoStepped
      rw [request.transferBufferLength]
      exact freed.finishSubmit request (by simp)
  | isoOut request inside =>
      obtain rfl := Option.some.inj stepped
      obtain rfl := Option.some.inj alsoStepped
      apply freed.deliverPackets request
      intro piece member
      exact inside piece (List.mem_cons_of_mem _ member)
  | @isoIn urb right actual packet rest back same inward =>
      rw [PendingUrb.eq_of_anonymous same] at alsoStepped
      have room : isoMaxLength { urb with ticket := right.ticket } actual
          packet = isoMaxLength urb actual packet := rfl
      simp only [UsbipServer.callbackReturned, room] at stepped alsoStepped
      split at stepped
      next fits =>
        rw [if_pos fits] at alsoStepped
        obtain rfl := Option.some.inj stepped
        obtain rfl := Option.some.inj alsoStepped
        -- what is packed now: the packets before, then what was written
        have packed : ∀ index < actual.sum,
            (s.txBuffer index).byte = (t.txBuffer index).byte := by
          simpa only [here, Phase.packed] using related.packed
        simp only [writesReported, here] at reported
        have enough := of_decide_eq_true reported
        have filled : Same first second extent
            { s with
              receiveLock := none
              txBuffer := s.txBuffer.write actual.sum
                (written.map fun byte => ⟨byte, none⟩) }
            { t with
              receiveLock := none
              txBuffer := t.txBuffer.write actual.sum
                (written.map fun byte => ⟨byte, none⟩) } :=
          { freed with }
        apply filled.transmitIso
        intro _ index bound
        apply write_bytes packed rfl
        rw [List.sum_append, List.sum_singleton] at bound
        rw [List.length_map]
        omega
      next => contradiction
  | reset =>
      obtain rfl := Option.some.inj stepped
      obtain rfl := Option.some.inj alsoStepped
      exact freed.resetDone

theorem DeviceState.Alike.writeEvent {device twin : DeviceState}
    (alike : DeviceState.Alike first second device twin) :
    DeviceState.Alike first second device.writeEvent twin.writeEvent :=
  { alike with }

theorem DeviceState.Alike.clearEvent {device twin : DeviceState}
    (alike : DeviceState.Alike first second device twin) :
    DeviceState.Alike first second device.usbipDeviceClearEvent
      twin.usbipDeviceClearEvent :=
  { alike with }

theorem DeviceState.Alike.takeAnswered {device twin : DeviceState}
    (alike : DeviceState.Alike first second device twin) :
    DeviceState.Alike first second device.takeAnswered.2
      twin.takeAnswered.2 :=
  { alike with controlAnswered := rfl }

theorem DeviceState.Alike.stop {device twin : DeviceState}
    (alike : DeviceState.Alike first second device twin) :
    DeviceState.Alike first second device.usbipDeviceStop
      twin.usbipDeviceStop :=
  { alike with stopped := rfl, stored := fun _ => rfl }

theorem DeviceState.Alike.reset {device twin : DeviceState}
    (alike : DeviceState.Alike first second device twin) :
    DeviceState.Alike first second device.usbipDeviceReset
      twin.usbipDeviceReset := by
  refine { alike with
    stored := fun _ => rfl
    configurationValue := rfl
    controlAnswered := rfl
    generation := ?_ }
  have later : ∀ generation start : UInt32,
      generation + 1 - start = generation - start + 1 := by
    intro generation start
    rw [UInt32.sub_eq_add_neg, UInt32.sub_eq_add_neg, UInt32.add_assoc,
      UInt32.add_comm 1, ← UInt32.add_assoc]
  change device.resetGeneration + 1 - _ = twin.resetGeneration + 1 - _
  rw [later, later, alike.generation]

theorem Same.post (same : Same first second extent s t) (call other : Call) :
    Same first second extent
      ({ s with device := s.device.writeEvent }.emit [.returned call true])
      ({ t with device := t.device.writeEvent }.emit [.returned other true]) := by
  exact (same.setDevice same.device.writeEvent).record rfl rfl

theorem Same.control {left right : Request} {clock : Nat}
    (same : Same first second extent s t)
    (request : Request.Alike extent left right)
    (here : s.phase = .control left) (there : t.phase = .control right)
    (stepped : serverStep dev clock s = some s')
    (alsoStepped : serverStep dev clock t = some t') :
    Related first second extent s' t' := by
  have forgotten := same.setDevice
    (same.device.forgetAnswer left.command.submit.setup)
  have noted : Same first second extent _ _ :=
    forgotten.record (show (Event.control left).isAside = true from rfl)
      (show (Event.control right).isAside = true from rfl)
  simp only [serverStep, here] at stepped
  simp only [serverStep, there, ← request.command,
    request.transferBufferLength, ← same.device.configurationValue]
    at alsoStepped
  rw [← same.device.configurationValue] at noted
  split at stepped
  next data action =>
    simp only [action] at alsoStepped
    obtain rfl := Option.some.inj stepped
    obtain rfl := Option.some.inj alsoStepped
    exact noted.goto (.answer request) rfl
  next action =>
    simp only [action] at alsoStepped
    obtain rfl := Option.some.inj stepped
    obtain rfl := Option.some.inj alsoStepped
    exact noted.goto (.lock (.control request)) rfl
  next action =>
    simp only [action] at alsoStepped
    obtain rfl := Option.some.inj stepped
    obtain rfl := Option.some.inj alsoStepped
    exact noted.controlHandled request
  next action =>
    simp only [action] at alsoStepped
    obtain rfl := Option.some.inj stepped
    obtain rfl := Option.some.inj alsoStepped
    exact noted.controlHandled request

theorem Same.fetchReply {left right : Request} {supported answered : Bool}
    {clock : Nat} (same : Same first second extent s t)
    (request : Request.Alike extent left right)
    (here : s.phase = .fetchReply left supported answered)
    (there : t.phase = .fetchReply right supported answered)
    (stepped : serverStep dev clock s = some s')
    (alsoStepped : serverStep dev clock t = some t') :
    Related first second extent s' t' := by
  obtain ⟨bytes, devices⟩ := same.device.fetch 0
    left.transferBufferLength.toNat
  have lengths := congrArg List.length bytes
  rw [List.length_map, List.length_map] at lengths
  simp only [serverStep, here] at stepped
  simp only [serverStep, there, request.transferBufferLength, ← lengths]
    at alsoStepped
  generalize s.device.usbipDeviceFetchEpData 0 _ = fetched
    at bytes devices stepped alsoStepped
  generalize t.device.usbipDeviceFetchEpData 0 _ = also
    at bytes devices alsoStepped
  obtain rfl := Option.some.inj stepped
  obtain rfl := Option.some.inj alsoStepped
  have filled : Same first second extent
      { s with
        device := fetched.2
        txBuffer := s.txBuffer.write 0 fetched.1 }
      { t with
        device := also.2
        txBuffer := t.txBuffer.write 0 also.1 } :=
    { same with device := devices }
  have noted : Same first second extent _ _ :=
    filled.record (show (Event.fetched 0 fetched.1).isAside = true from rfl)
      (show (Event.fetched 0 also.1).isAside = true from rfl)
  apply noted.finishControl request
  intro index bound
  apply write_bytes (by simp) bytes
  omega

theorem Related.server {clock : Nat}
    (related : Related first second extent s t)
    (reads : readsReceived first s (.server clock) = true)
    (stepped : serverStep dev clock s = some s')
    (alsoStepped : serverStep dev clock t = some t') :
    Related first second extent s' t' := by
  have same := related.same
  have phase := related.phase
  generalize here : s.phase = left at phase
  generalize there : t.phase = right at phase
  cases phase with
  | control request =>
      exact same.control request here there stepped alsoStepped
  | fetchReply request =>
      exact same.fetchReply request here there stepped alsoStepped
  | accept =>
      simp only [serverStep, here] at stepped
      simp only [serverStep, there, ← same.tcpip] at alsoStepped
      split at stepped
      next stops =>
        rw [if_pos stops] at alsoStepped
        obtain rfl := Option.some.inj stepped
        obtain rfl := Option.some.inj alsoStepped
        exact same.goto .stop rfl
      next => contradiction
  | serve =>
      simp only [serverStep, here] at stepped
      simp only [serverStep, there, ← same.tcpip, ← same.imported]
        at alsoStepped
      split at stepped
      next stops =>
        rw [if_pos stops] at alsoStepped
        obtain rfl := Option.some.inj stepped
        obtain rfl := Option.some.inj alsoStepped
        exact same.goto .stop rfl
      next serves =>
        rw [if_neg serves] at alsoStepped
        split at stepped
        next => contradiction
        next free =>
          rw [if_neg free] at alsoStepped
          exact same.processCmd stepped alsoStepped
  | lock next =>
      simp only [serverStep, here] at stepped
      simp only [serverStep, there] at alsoStepped
      exact related.enterCallback next here reads stepped alsoStepped
  | calling =>
      simp only [serverStep, here] at stepped
      contradiction
  | stopped =>
      simp only [serverStep, here] at stepped
      contradiction
  | @posting made left right call other posts next =>
      simp only [serverStep, here, Option.some.injEq] at stepped
      simp only [serverStep, there, Option.some.injEq] at alsoStepped
      subst stepped alsoStepped
      refine ⟨{ same.post call other with }, .calling next, ?_⟩
      intro index bound
      apply related.packed index
      rw [here, Phase.packed_callback, ← Phase.packed_callback none made]
      exact bound
  | resetEvent =>
      have cleared := same.setDevice same.device.clearEvent
      simp only [serverStep, here] at stepped
      simp only [serverStep, there] at alsoStepped
      split at stepped
      next callback =>
        rw [if_pos callback] at alsoStepped
        obtain rfl := Option.some.inj stepped
        obtain rfl := Option.some.inj alsoStepped
        exact cleared.goto (.lock .reset) rfl
      next none =>
        rw [if_neg none] at alsoStepped
        obtain rfl := Option.some.inj stepped
        obtain rfl := Option.some.inj alsoStepped
        exact cleared.resetDone
  | @clearEvent status =>
      have cleared := same.setDevice same.device.clearEvent
      simp only [serverStep, here] at stepped
      simp only [serverStep, there] at alsoStepped
      cases status with
      | true =>
          obtain rfl := Option.some.inj stepped
          obtain rfl := Option.some.inj alsoStepped
          have timed := cleared.timed waitTimeoutUsMax waitTimeoutUsMax
          have passing : Same first second extent
              { s with
                device := s.device.usbipDeviceClearEvent
                waitTimeoutUs := waitTimeoutUsMax
                passUs := clock }
              { t with
                device := t.device.usbipDeviceClearEvent
                waitTimeoutUs := waitTimeoutUsMax
                passUs := clock } := { timed with }
          exact (passing.record rfl rfl).goto .pass rfl
      | false =>
          obtain rfl := Option.some.inj stepped
          obtain rfl := Option.some.inj alsoStepped
          exact cleared.lostConnection
  | answer request =>
      simp only [serverStep, here, Option.some.injEq] at stepped
      simp only [serverStep, there, Option.some.injEq] at alsoStepped
      subst stepped alsoStepped
      exact (same.serverTransmit _ _).1.controlHandled request
  | fetchAnswered request =>
      simp only [serverStep, here, Option.some.injEq] at stepped
      simp only [serverStep, there, Option.some.injEq] at alsoStepped
      subst stepped alsoStepped
      have taken := same.setDevice same.device.takeAnswered
      have answered : t.device.takeAnswered.1 = s.device.takeAnswered.1 :=
        same.device.controlAnswered.symm
      rw [answered]
      exact taken.goto (.fetchReply request) rfl
  | isoSchedule request =>
      simp only [serverStep, here, Option.some.injEq] at stepped
      simp only [serverStep, there, Option.some.injEq] at alsoStepped
      subst stepped alsoStepped
      exact same.scheduleIso request
  | pass =>
      simp only [serverStep, here, Option.some.injEq] at stepped
      simp only [serverStep, there, Option.some.injEq] at alsoStepped
      subst stepped alsoStepped
      exact same.completePendingUrbs
  | reset =>
      simp only [serverStep, here, Option.some.injEq] at stepped
      simp only [serverStep, there, Option.some.injEq] at alsoStepped
      subst stepped alsoStepped
      exact ((same.setDevice same.device.reset).record rfl rfl).goto
        .resetEvent rfl
  | stop =>
      simp only [serverStep, here, Option.some.injEq] at stepped
      simp only [serverStep, there, Option.some.injEq] at alsoStepped
      subst stepped alsoStepped
      exact ((same.setDevice same.device.stop).record rfl rfl).goto .stopped rfl

theorem Related.elsewhere (related : Related first second extent s t)
    (same : Same first second extent s' t') (left : Elsewhere s s')
    (right : Elsewhere t t') : Related first second extent s' t' := by
  refine ⟨same, ?_, ?_⟩
  · rw [left.phase, right.phase]
    exact related.phase
  · rw [left.rest, right.rest]
    exact related.packed

theorem CallPhase.Alike.waiting_of_new {call : Call} {right : CallPhase}
    (alike : CallPhase.Alike first second (.waiting call) right)
    (new : ¬call.id < first.calls) :
    ∃ other, right = .waiting other ∧ Call.Alike first second call other := by
  cases alike with
  | old before => exact absurd (of_decide_eq_true before) new
  | waiting call => exact ⟨_, rfl, call⟩

theorem CallPhase.Alike.stored_of_new {call : Call} {right : CallPhase}
    (alike : CallPhase.Alike first second (.stored call) right)
    (new : ¬call.id < first.calls) :
    ∃ other, right = .stored other ∧ Call.Alike first second call other := by
  cases alike with
  | old before => exact absurd (of_decide_eq_true before) new
  | stored call => exact ⟨_, rfl, call⟩

theorem Related.transmit {thread : Nat} {ep : Byte} {data : List Byte}
    (related : Related first second extent s t)
    (critical : sameSection s t (.transmit thread ep data) = true)
    (stepped : step dev s (.transmit thread ep data) = some s')
    (alsoStepped : step dev t (.transmit thread ep data) = some t') :
    Related first second extent s' t' := by
  have left := threadStep_elsewhere rfl stepped
  have right := threadStep_elsewhere rfl alsoStepped
  have waits : (t.threads thread).inCriticalSection =
      (s.threads thread).inCriticalSection := (eq_of_beq critical).symm
  simp only [step, waits] at stepped alsoStepped
  split at stepped
  · split at alsoStepped
    · obtain rfl := Option.some.inj stepped
      obtain rfl := Option.some.inj alsoStepped
      exact related.elsewhere ((related.same.enter ep data).threadTransmit
        (related.same.calls_alike ep data) thread _) left right
    · contradiction
  · contradiction

theorem Related.wake {thread : Nat}
    (related : Related first second extent s t)
    (new : alone first s (.wake thread) = false)
    (stepped : step dev s (.wake thread) = some s')
    (alsoStepped : step dev t (.wake thread) = some t') :
    Related first second extent s' t' := by
  have left := threadStep_elsewhere rfl stepped
  have right := threadStep_elsewhere rfl alsoStepped
  have calls := related.same.threads thread
  simp only [step] at stepped alsoStepped
  split at stepped
  next call waiting =>
    rw [waiting] at calls
    simp only [alone, waiting, decide_eq_false_iff_not] at new
    obtain ⟨other, also, alike⟩ := calls.waiting_of_new new
    simp only [also] at alsoStepped
    obtain rfl := Option.some.inj stepped
    obtain rfl := Option.some.inj alsoStepped
    exact related.elsewhere (related.same.threadTransmit alike thread true) left
      right
  next => contradiction

theorem Related.post {thread : Nat}
    (related : Related first second extent s t)
    (new : alone first s (.post thread) = false)
    (stepped : step dev s (.post thread) = some s')
    (alsoStepped : step dev t (.post thread) = some t') :
    Related first second extent s' t' := by
  have left := threadStep_elsewhere rfl stepped
  have right := threadStep_elsewhere rfl alsoStepped
  have calls := related.same.threads thread
  simp only [step] at stepped alsoStepped
  split at stepped
  next call stored =>
    rw [stored] at calls
    simp only [alone, stored, decide_eq_false_iff_not] at new
    obtain ⟨other, also, alike⟩ := calls.stored_of_new new
    simp only [also] at alsoStepped
    obtain rfl := Option.some.inj stepped
    obtain rfl := Option.some.inj alsoStepped
    exact related.elsewhere ((related.same.post call other).setCall thread .idle)
      left right
  next => contradiction

theorem Related.callbackTransmit {ep : Byte} {data : List Byte}
    (related : Related first second extent s t)
    (stepped : step dev s (.callbackTransmit ep data) = some s')
    (alsoStepped : step dev t (.callbackTransmit ep data) = some t') :
    Related first second extent s' t' := by
  have phase := related.phase
  generalize here : s.phase = left at phase
  generalize there : t.phase = right at phase
  cases phase with
  | @calling made left right next =>
      simp only [step, here, Option.some.injEq] at stepped
      simp only [step, there, Option.some.injEq] at alsoStepped
      subst stepped alsoStepped
      obtain ⟨same, alike⟩ := related.same.serverTransmit ep data
      refine ⟨{ same with }, alike next, ?_⟩
      have kept : ∀ state, (serverTransmit ep data state).2.txBuffer =
          state.txBuffer := by
        intro state
        obtain ⟨device, phase, events, _, _, shape⟩ :=
          serverTransmit_section ep data state
        rw [shape]
        rfl
      have packed := related.packed
      rw [here, Phase.packed_callback] at packed
      intro index bound
      simp only [State.goto, Phase.packed_callback] at bound
      simp only [State.goto, kept]
      exact packed index bound
  | _ => simp [step, here] at stepped

theorem Related.callbackReturn {written : List Byte} {length : Nat}
    (related : Related first second extent s t)
    (reported : writesReported s (.callbackReturn written length) = true)
    (stepped : step dev s (.callbackReturn written length) = some s')
    (alsoStepped : step dev t (.callbackReturn written length) = some t') :
    Related first second extent s' t' := by
  have phase := related.phase
  generalize here : s.phase = left at phase
  generalize there : t.phase = right at phase
  cases phase with
  | calling next =>
      simp only [step, here] at stepped
      simp only [step, there] at alsoStepped
      exact related.callbackReturned next here reported stepped alsoStepped
  | _ => simp [step, here] at stepped

theorem Related.accept {reads : List ReadResult} {writes : List WriteResult}
    (related : Related first second extent s t)
    (stepped : step dev s (.accept reads writes) = some s')
    (alsoStepped : step dev t (.accept reads writes) = some t') :
    Related first second extent s' t' := by
  simp only [step, ← related.same.tcpip] at stepped alsoStepped
  split at stepped
  · split at alsoStepped
    · obtain rfl := Option.some.inj stepped
      obtain rfl := Option.some.inj alsoStepped
      exact (related.same.connected _).goto .serve rfl
    · contradiction
  · contradiction

theorem Related.wait {ready : Bool} (related : Related first second extent s t)
    (stepped : step dev s (.wait ready) = some s')
    (alsoStepped : step dev t (.wait ready) = some t') :
    ∃ wider, Related first second wider s' t' := by
  simp only [step, ← related.same.tcpip] at stepped alsoStepped
  split at stepped
  · split at alsoStepped
    · split at stepped
      next arrives =>
        rw [if_pos arrives] at alsoStepped
        split at stepped
        next => contradiction
        next serves =>
          rw [if_neg serves] at alsoStepped
          exact related.same.processImportedCmd stepped alsoStepped
      next idle =>
        rw [if_neg idle] at alsoStepped
        obtain rfl := Option.some.inj stepped
        obtain rfl := Option.some.inj alsoStepped
        exact ⟨extent, related.same.goto .clearEvent rfl⟩
    · contradiction
  · contradiction

theorem Related.interrupt (related : Related first second extent s t)
    (stepped : step dev s .interrupt = some s')
    (alsoStepped : step dev t .interrupt = some t') :
    Related first second extent s' t' := by
  obtain rfl := Option.some.inj stepped
  obtain rfl := Option.some.inj alsoStepped
  have same := related.same
  refine ⟨?_, related.phase, related.packed⟩
  rw [← same.tcpip]
  exact same.connected _

/-- What the callbacks do next depends on what they were called with, and that
is the same in both. -/
theorem Related.behaviour {behaviour : Behaviour} {left right : Label}
    (related : Related first second extent s t)
    (acted : Acted behaviour first s left)
    (alsoActed : Acted behaviour second t right) : right = left := by
  obtain ⟨made, next, here, rfl⟩ := acted.chosen
  obtain ⟨others, following, there, rfl⟩ := alsoActed.chosen
  have phase := related.phase
  rw [here, there] at phase
  cases phase with
  | calling => rw [related.same.heard]

/-- Steps with the same input keep the two alike. -/
theorem Related.both {behaviour : Behaviour} {left right : Label}
    (related : Related first second extent s t)
    (input : SameInput behaviour first second s t left right)
    (allowed : separated first s left = true)
    (stepped : step dev s left = some s')
    (alsoStepped : step dev t right = some t') :
    ∃ wider, Related first second wider s' t' := by
  simp only [separated, Bool.and_eq_true] at allowed
  obtain ⟨⟨reported, reads⟩, _⟩ := allowed
  cases input with
  | callback acted alsoActed =>
      obtain rfl := related.behaviour acted alsoActed
      have kind := acted.kind
      cases right with
      | callbackTransmit ep data =>
          exact ⟨extent, related.callbackTransmit stepped alsoStepped⟩
      | callbackReturn written length =>
          exact ⟨extent, related.callbackReturn reported stepped alsoStepped⟩
      | _ => contradiction
  | outside kind new alsoNew critical =>
      cases left with
      | callbackTransmit | callbackReturn | enter | exit => contradiction
      | accept reads writes =>
          exact ⟨extent, related.accept stepped alsoStepped⟩
      | server clock =>
          exact ⟨extent, related.server reads stepped alsoStepped⟩
      | wait ready => exact related.wait stepped alsoStepped
      | transmit thread ep data =>
          exact ⟨extent, related.transmit critical stepped alsoStepped⟩
      | wake thread => exact ⟨extent, related.wake new stepped alsoStepped⟩
      | post thread => exact ⟨extent, related.post new stepped alsoStepped⟩
      | interrupt => exact ⟨extent, related.interrupt stepped alsoStepped⟩

/-- Only calls begun before `first` move, and they leave nothing behind but a
written event. -/
structure Unnoticed (first s s' : State) : Prop where
  elsewhere : Elsewhere s s'
  device : s'.device = { s.device with eventFd := s'.device.eventFd }
  calls : s'.calls = s.calls
  threads : ∀ thread, (s'.threads thread).call = (s.threads thread).call ∨
    (s.threads thread).call.isOld first = true ∧
      (s'.threads thread).call.isOld first = true

theorem Unnoticed.refl (first s : State) : Unnoticed first s s where
  elsewhere := ⟨rfl, id, rfl, [], by simp, by simp⟩
  device := rfl
  calls := rfl
  threads := fun _ => .inl rfl

/-- A thread whose call was begun before returns or waits on. -/
theorem isOld_setCall {start : State} {thread : Nat} {phase : CallPhase}
    (threads : start.threads = s.threads)
    (before : (s.threads thread).call.isOld first = true)
    (after : phase.isOld first = true) (place : Nat) :
    ((setCall start thread phase).threads place).call =
        (s.threads place).call ∨
      (s.threads place).call.isOld first = true ∧
        ((setCall start thread phase).threads place).call.isOld first =
          true := by
  by_cases here : place = thread
  · subst here
    exact .inr ⟨before, by simpa using after⟩
  · refine .inl ?_
    simp [here, threads]

theorem Unnoticed.wake {thread : Nat}
    (old : alone first s (.wake thread) = true)
    (outdated : outdated first s (.wake thread) = true)
    (stepped : step dev s (.wake thread) = some s') :
    Unnoticed first s s' := by
  have elsewhere := threadStep_elsewhere rfl stepped
  simp only [step] at stepped
  split at stepped
  next call waiting =>
    simp only [alone, waiting] at old
    have before : call.id < first.calls := of_decide_eq_true old
    have generation : call.generation ≠ s.device.resetGeneration := by
      simp only [UsbipServer.outdated, waiting, Bool.or_eq_true,
        decide_eq_true_eq] at outdated
      exact outdated.resolve_left (Nat.not_le_of_lt before)
    have oldCall : (s.threads thread).call.isOld first = true := by
      rw [waiting]
      exact old
    obtain rfl := Option.some.inj stepped
    obtain ⟨device, phase, events, ran, performed⟩ :=
      threadTransmit_section thread true call s
    rw [performed] at elsewhere ⊢
    cases ran with
    | waiting => exact ⟨elsewhere, rfl, rfl, isOld_setCall rfl oldCall old⟩
    | stored running current => exact absurd current generation
    | dropped => exact ⟨elsewhere, rfl, rfl, isOld_setCall rfl oldCall rfl⟩
  next => contradiction

theorem Unnoticed.post {thread : Nat}
    (old : alone first s (.post thread) = true)
    (stepped : step dev s (.post thread) = some s') :
    Unnoticed first s s' := by
  have elsewhere := threadStep_elsewhere rfl stepped
  simp only [step] at stepped
  split at stepped
  next call stored =>
    simp only [alone, stored] at old
    have oldCall : (s.threads thread).call.isOld first = true := by
      rw [stored]
      exact old
    obtain rfl := Option.some.inj stepped
    exact ⟨elsewhere, rfl, rfl, isOld_setCall rfl oldCall rfl⟩
  next => contradiction

theorem Unnoticed.critical {thread : Nat} {owner : Option Owner}
    {inside : Bool} (idle : (s.threads thread).call = .idle)
    (elsewhere : Elsewhere s { s with
      receiveLock := owner
      threads := Function.update s.threads thread ⟨inside, .idle⟩ }) :
    Unnoticed first s { s with
      receiveLock := owner
      threads := Function.update s.threads thread ⟨inside, .idle⟩ } := by
  refine ⟨elsewhere, rfl, rfl, ?_⟩
  intro place
  by_cases here : place = thread
  · subst here
    refine .inl ?_
    simp [idle]
  · refine .inl ?_
    simp [here]

theorem alone_unnoticed {label : Label} (old : alone first s label = true)
    (allowed : separated first s label = true)
    (stepped : step dev s label = some s') : Unnoticed first s s' := by
  simp only [separated, Bool.and_eq_true] at allowed
  cases label with
  | wake thread => exact .wake old allowed.2 stepped
  | post thread => exact .post old stepped
  | enter thread =>
      have elsewhere := threadStep_elsewhere rfl stepped
      simp only [step] at stepped
      split at stepped
      next free =>
        obtain rfl := Option.some.inj stepped
        exact .critical free.2 elsewhere
      next => contradiction
  | exit thread =>
      have elsewhere := threadStep_elsewhere rfl stepped
      simp only [step] at stepped
      split at stepped
      next held =>
        obtain rfl := Option.some.inj stepped
        exact .critical held.2 elsewhere
      next => contradiction
  | _ => contradiction

theorem Event.isAside_of_transmit {event : Event}
    (transmit : event.isTransmit = true) : event.isAside = true := by
  cases event with
  | callback | submit => contradiction
  | _ => rfl

theorem CallPhase.Alike.unnoticed {left right left' right' : CallPhase}
    (alike : CallPhase.Alike first second left right)
    (stays : left' = left ∨ left.isOld first = true ∧ left'.isOld first = true)
    (alsoStays : right' = right ∨
      right.isOld second = true ∧ right'.isOld second = true) :
    CallPhase.Alike first second left' right' := by
  cases alike with
  | old before alsoBefore =>
      refine .old ?_ ?_
      · rcases stays with rfl | ⟨_, after⟩
        · exact before
        · exact after
      · rcases alsoStays with rfl | ⟨_, after⟩
        · exact alsoBefore
        · exact after
  | waiting call =>
      rcases stays with rfl | ⟨old, _⟩
      · rcases alsoStays with rfl | ⟨old, _⟩
        · exact .waiting call
        · exact absurd (of_decide_eq_true old) (Nat.not_lt.mpr call.alsoBegun)
      · exact absurd (of_decide_eq_true old) (Nat.not_lt.mpr call.begun)
  | stored call =>
      rcases stays with rfl | ⟨old, _⟩
      · rcases alsoStays with rfl | ⟨old, _⟩
        · exact .stored call
        · exact absurd (of_decide_eq_true old) (Nat.not_lt.mpr call.alsoBegun)
      · exact absurd (of_decide_eq_true old) (Nat.not_lt.mpr call.begun)

/-- Neither side notices what the calls of earlier sessions still do. -/
theorem Related.unnoticed (related : Related first second extent s t)
    (left : Unnoticed first s s') (right : Unnoticed second t t') :
    Related first second extent s' t' := by
  have same := related.same
  obtain ⟨events, traced, transmits⟩ := left.elsewhere.trace
  obtain ⟨others, alsoTraced, alsoTransmits⟩ := right.elsewhere.trace
  have noted := same.emit
    (fun event member => Event.isAside_of_transmit (transmits event member))
    (fun event member => Event.isAside_of_transmit (alsoTransmits event member))
  have trace : s'.trace = (s.emit events).trace := traced
  have alsoTrace : t'.trace = (t.emit others).trace := alsoTraced
  refine related.elsewhere ?_ left.elsewhere right.elsewhere
  refine
    { tcpip := ?_, device := ?_, imported := ?_, pending := ?_,
      endpoints := ?_, received := ?_, threads := ?_, begun := ?_,
      grown := ?_, heard := ?_, covered := ?_ }
  · rw [left.elsewhere.tcpip, right.elsewhere.tcpip]
    exact same.tcpip
  · rw [left.device, right.device]
    exact { same.device with }
  · rw [left.elsewhere.deviceImported, right.elsewhere.deviceImported]
    exact same.imported
  · rw [left.elsewhere.pendingUrbs, right.elsewhere.pendingUrbs]
    exact same.pending
  · rw [left.elsewhere.endpoints, right.elsewhere.endpoints]
    exact same.endpoints
  · rw [left.elsewhere.rxBuffer, right.elsewhere.rxBuffer]
    exact same.received
  · intro thread
    exact (same.threads thread).unnoticed (left.threads thread)
      (right.threads thread)
  · rw [left.calls, right.calls]
    exact same.begun
  · rw [trace, alsoTrace]
    exact noted.grown
  · rw [State.heardSince, State.heardSince, State.eventsSince,
      State.eventsSince, trace, alsoTrace]
    exact noted.heard
  · rw [State.eventsSince, trace]
    exact noted.covered

end

end UsbipServer
