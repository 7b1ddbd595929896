import UsbipServer.Refine.Ends

namespace UsbipServer

open Wire Library

/-! Every way a step can go, with the state it leads to.  What the other modules
say about steps is read off from these cases. -/

section

variable (s : State)

def State.taking (tcpip : Tcpip) (command : SubmitCommand) : State :=
  { s with
    tcpip := tcpip
    rxBuffer := s.rxBuffer.write 0 command.payload
    tickets := s.tickets + 1 }.emit [.submit ⟨s.tickets, command⟩]

def State.unlinking (tcpip : Tcpip) (command : UnlinkCommand) : State :=
  { s with
    tcpip := tcpip
    rxBuffer := s.rxBuffer.write 0 [] }.emit [.unlink command]

def State.action (dev : UsbipDevice) (request : Request) : ControlAction :=
  usbipDeviceControl dev s.device.configurationValue
    request.command.submit.setup request.transferBufferLength.toNat

def State.controlled (request : Request) : State :=
  { s with
    device := { s.device.forgetAnswer with
      configurationValue := configurationAfter request.command.submit.setup
        s.device.configurationValue } }.emit [.control request]

def State.fetching (ep : Byte) (length : Nat) : State :=
  { s with device := (s.device.usbipDeviceFetchEpData ep length).2 }.emit
    [.fetched (epMasked ep) (s.device.usbipDeviceFetchEpData ep length).1]

def State.available (urb : PendingUrb) : List Cell :=
  (s.device.usbipDeviceFetchEpData urb.ep.toUInt8
    urb.transferBufferLength.toNat).1

def State.dataReply (urb : PendingUrb) : Reply :=
  retSubmitReply urb.toTransfer 0 (s.available urb).length true
    (s.txBuffer.write 0 (s.available urb))

theorem State.available_short (urb : PendingUrb) :
    (s.available urb).length ≤ urb.transferBufferLength.toNat :=
  s.device.fetched_length_le urb.ep.toUInt8 _

theorem State.dataReply_data (urb : PendingUrb) :
    (s.dataReply urb).data = s.available urb :=
  Buffer.slice_write_self s.txBuffer (s.available urb) 0

end

inductive Transition (dev : UsbipDevice) (s : State) : Label → State → Prop
  | accepts (reads : List ReadResult) (writes : List WriteResult)
      (here : s.phase = .accept) (running : s.tcpip.stopServer = false) :
      Transition dev s (.accept reads writes)
        ({ s with
          tcpip := { s.tcpip with
            reads := reads
            writes := writes
            sent := [] } }.goto .serve)
  | leaves (clock : Nat) (here : s.phase = .accept ∨ s.phase = .serve)
      (stopping : s.tcpip.stopServer = true) :
      Transition dev s (.server clock) (s.goto .stop)
  | refuses (clock : Nat) (tcpip : Tcpip) (here : s.phase = .serve)
      (running : s.tcpip.stopServer = false)
      (absent : s.deviceImported = false) :
      Transition dev s (.server clock) ({ s with tcpip := tcpip }.goto .accept)
  | imports (clock : Nat) (tcpip : Tcpip) (here : s.phase = .serve)
      (running : s.tcpip.stopServer = false)
      (absent : s.deviceImported = false)
      (output : SameOutput s.tcpip tcpip) :
      Transition dev s (.server clock)
        (startImport dev { s with tcpip := tcpip })
  | idles (here : s.phase = .serve) (imported : s.deviceImported = true) :
      Transition dev s (.wait false) (s.goto (.clearEvent true))
  | fails (tcpip : Tcpip) (rx : List Byte) (here : s.phase = .serve)
      (imported : s.deviceImported = true)
      (running : s.tcpip.stopServer = false)
      (received : receiveCommand s.endpoints s.tcpip = .failed tcpip rx) :
      Transition dev s (.wait true)
        ({ s with
          tcpip := tcpip
          rxBuffer := s.rxBuffer.write 0 rx }.goto (.clearEvent false))
  | submits {s' : State} (tcpip : Tcpip) (command : SubmitCommand)
      (here : s.phase = .serve) (imported : s.deviceImported = true)
      (running : s.tcpip.stopServer = false)
      (received : receiveCommand s.endpoints s.tcpip =
        .command tcpip (.submit command))
      (plain : isIsochronous s.endpoints command.header = false)
      (ends : Ends dev (s.taking tcpip command)
        (.submit ⟨s.tickets, command⟩) s') :
      Transition dev s (.wait true) s'
  | submitsIso {s' : State} (tcpip : Tcpip) (command : SubmitCommand)
      (here : s.phase = .serve) (imported : s.deviceImported = true)
      (running : s.tcpip.stopServer = false)
      (received : receiveCommand s.endpoints s.tcpip =
        .command tcpip (.submit command))
      (isochronous : isIsochronous s.endpoints command.header = true)
      (ends : Ends dev (s.taking tcpip command)
        (.deliver ⟨s.tickets, command⟩
          (Request.outPackets ⟨s.tickets, command⟩)) s') :
      Transition dev s (.wait true) s'
  | misses (tcpip : Tcpip) (command : UnlinkCommand)
      (here : s.phase = .serve) (imported : s.deviceImported = true)
      (running : s.tcpip.stopServer = false)
      (received : receiveCommand s.endpoints s.tcpip =
        .command tcpip (.unlink command))
      (absent : findPendingUrb s.pendingUrbs command.unlink.unlinkSeqnum =
        none) :
      Transition dev s (.wait true)
        (sendUnlinkReply
          ⟨command.header.seqnum, command.unlink.unlinkSeqnum, 0, none⟩
          (s.unlinking tcpip command))
  | cancels (tcpip : Tcpip) (command : UnlinkCommand) (index : Nat)
      (urb : PendingUrb) (here : s.phase = .serve)
      (imported : s.deviceImported = true)
      (running : s.tcpip.stopServer = false)
      (received : receiveCommand s.endpoints s.tcpip =
        .command tcpip (.unlink command))
      (found : findPendingUrb s.pendingUrbs command.unlink.unlinkSeqnum =
        some index)
      (filed : s.pendingUrbs[index]? = some urb) :
      Transition dev s (.wait true)
        (sendUnlinkReply
          ⟨command.header.seqnum, command.unlink.unlinkSeqnum, urbUnlinked,
            some urb.toTransfer⟩
          { s.unlinking tcpip command with
            pendingUrbs := s.pendingUrbs.eraseIdx index
            endpoints := stoppedEndpoints urb (s.pendingUrbs.eraseIdx index)
              s.endpoints })
  | controlAnswers (clock : Nat) (request : Request) (data : List Byte)
      (here : s.phase = .control request)
      (action : s.action dev request = .answer data) :
      Transition dev s (.server clock)
        ((s.controlled request).goto (.answer request data))
  | controlCalls (clock : Nat) (request : Request)
      (here : s.phase = .control request)
      (action : s.action dev request = .callback) :
      Transition dev s (.server clock)
        ((s.controlled request).goto (.lock (.control request)))
  | controls {s' : State} (clock : Nat) (request : Request)
      (supported : Bool) (here : s.phase = .control request)
      (action : s.action dev request =
        if supported then .nothing else .unsupported)
      (ends : Ends dev (s.controlled request) (.control request supported) s') :
      Transition dev s (.server clock) s'
  | answers {s' : State} {device : DeviceState} {phase : CallPhase}
      {events : List Event} (clock : Nat) (request : Request)
      (data : List Byte) (here : s.phase = .answer request data)
      (ran : Section false s.device (newCall s 0 data) device phase events)
      (ends : Ends dev
        ({ s with calls := s.calls + 1, device := device }.emit
          (.entered (newCall s 0 data) :: events))
        (.control request true) s') :
      Transition dev s (.server clock) s'
  | takesAnswer (clock : Nat) (request : Request) (supported : Bool)
      (here : s.phase = .fetchAnswered request supported) :
      Transition dev s (.server clock)
        ({ s with device := s.device.takeAnswered.2 }.goto
          (.fetchReply request supported s.device.takeAnswered.1))
  | fetches (clock : Nat) (request : Request)
      (supported answered handled : Bool)
      (here : s.phase = .fetchReply request supported answered)
      (verdict : handled = (supported &&
        !(decide (0 < request.transferBufferLength.toNat) && !answered))) :
      Transition dev s (.server clock)
        (finishSubmit request (Request.controlStatus handled)
          (request.controlLength handled (s.device.usbipDeviceFetchEpData 0
            request.transferBufferLength.toNat).1.length)
          (request.controlSends handled)
          { s.fetching 0 request.transferBufferLength.toNat with
            txBuffer := s.txBuffer.write 0 (s.device.usbipDeviceFetchEpData 0
              request.transferBufferLength.toNat).1 })
  | schedules (clock : Nat) (request : Request)
      (here : s.phase = .isoSchedule request)
      (room : s.pendingUrbs.length ≠ maxPendingUrbs) :
      Transition dev s (.server clock)
        (({ s with
          endpoints := s.isoEndpoints request clock
          pendingUrbs := s.pendingUrbs ++ [s.isoUrb request clock] }.emit
          [.queued (s.isoUrb request clock)]).goto (.clearEvent true))
  | overflows {s' : State} (clock : Nat) (request : Request)
      (here : s.phase = .isoSchedule request)
      (full : s.pendingUrbs.length = maxPendingUrbs)
      (ends : Ends dev { s with endpoints := s.isoEndpoints request clock }
        (.collect (s.isoUrb request clock) [] (s.isoUrb request clock).packets
          .command) s') :
      Transition dev s (.server clock) s'
  | enters (clock : Nat) (next : Continuation) (here : s.phase = .lock next)
      (free : s.receiveLock = none) :
      Transition dev s (.server clock)
        (({ s with receiveLock := some .server }.emit
          [.callback (callbackArgs s next)]).goto (.callback none 0 next))
  | posts (clock : Nat) (call : Call) (made : Nat) (next : Continuation)
      (here : s.phase = .callback (some call) made next) :
      Transition dev s (.server clock)
        (({ s with device := s.device.writeEvent }.emit
          [.returned call true]).goto (.callback none made next))
  | starts (clock : Nat) (here : s.phase = .clearEvent true) :
      Transition dev s (.server clock)
        (({ s with
          device := s.device.usbipDeviceClearEvent
          waitTimeoutUs := waitTimeoutUsMax
          passUs := clock }.emit [.pass clock]).goto (.pass clock 0))
  | loses (clock : Nat) (here : s.phase = .clearEvent false) :
      Transition dev s (.server clock)
        (lostConnection { s with device := s.device.usbipDeviceClearEvent })
  | ends (clock now index : Nat) (here : s.phase = .pass now index)
      (all : s.pendingUrbs.length ≤ index) :
      Transition dev s (.server clock) (s.goto .serve)
  | later (clock now index : Nat) (urb : PendingUrb)
      (here : s.phase = .pass now index)
      (filed : s.pendingUrbs[index]? = some urb)
      (early : now < urb.dueUs s.endpoints) :
      Transition dev s (.server clock)
        ({ s with
          waitTimeoutUs :=
            min s.waitTimeoutUs (urb.dueUs s.endpoints - now) }.goto
          (.pass now (index + 1)))
  | collects {s' : State} (clock now index : Nat) (urb : PendingUrb)
      (here : s.phase = .pass now index)
      (filed : s.pendingUrbs[index]? = some urb)
      (isochronous : urb.isochronous = true) (due : urb.completeUs ≤ now)
      (ends : Ends dev s (.collect urb [] urb.packets (.pass now index)) s') :
      Transition dev s (.server clock) s'
  | skips (clock now index : Nat) (urb : PendingUrb)
      (here : s.phase = .pass now index)
      (filed : s.pendingUrbs[index]? = some urb)
      (plain : urb.isochronous = false)
      (due : (s.endpoints true urb.number).nextPollUs ≤ now)
      (nothing : s.available urb = []) :
      Transition dev s (.server clock)
        ((s.fetching urb.ep.toUInt8 urb.transferBufferLength.toNat).goto
          (.pass now (index + 1)))
  | completes (clock now index : Nat) (urb : PendingUrb) (tcpip : Tcpip)
      (here : s.phase = .pass now index)
      (filed : s.pendingUrbs[index]? = some urb)
      (plain : urb.isochronous = false)
      (due : (s.endpoints true urb.number).nextPollUs ≤ now)
      (something : s.available urb ≠ [])
      (written : tcpipServerWriteAll s.tcpip (s.dataReply urb).parts =
        (true, tcpip)) :
      Transition dev s (.server clock)
        (({ s.fetching urb.ep.toUInt8 urb.transferBufferLength.toNat with
          tcpip := tcpip
          txBuffer := s.txBuffer.write 0 (s.available urb)
          endpoints := s.endpoints.setNextPoll urb.number
            (now + (s.endpoints true urb.number).intervalUs)
          pendingUrbs := s.pendingUrbs.eraseIdx index }.emit
          [.retSubmit (s.dataReply urb)]).goto (.pass now index))
  | breaks (clock now index : Nat) (urb : PendingUrb) (tcpip : Tcpip)
      (here : s.phase = .pass now index)
      (filed : s.pendingUrbs[index]? = some urb)
      (plain : urb.isochronous = false)
      (due : (s.endpoints true urb.number).nextPollUs ≤ now)
      (something : s.available urb ≠ [])
      (written : tcpipServerWriteAll s.tcpip (s.dataReply urb).parts =
        (false, tcpip)) :
      Transition dev s (.server clock)
        (lostConnection
          ({ s.fetching urb.ep.toUInt8 urb.transferBufferLength.toNat with
            tcpip := tcpip
            txBuffer := s.txBuffer.write 0 (s.available urb)
            endpoints := s.endpoints.setNextPoll urb.number
              (now + (s.endpoints true urb.number).intervalUs) }.emit
            [.writeFailed]))
  | resets (clock : Nat) (reason : ResetReason)
      (here : s.phase = .reset reason) :
      Transition dev s (.server clock)
        (({ s with device := s.device.usbipDeviceReset }.emit
          [.reset]).goto (.resetEvent reason))
  | resetCalls (clock : Nat) (reason : ResetReason)
      (here : s.phase = .resetEvent reason)
      (callback : dev.resetCallback = true) :
      Transition dev s (.server clock)
        ({ s with device := s.device.usbipDeviceClearEvent }.goto
          (.lock (.reset reason)))
  | resetEnds {s' : State} (clock : Nat) (reason : ResetReason)
      (here : s.phase = .resetEvent reason)
      (uncalled : dev.resetCallback = false)
      (ends : Ends dev { s with device := s.device.usbipDeviceClearEvent }
        (.reset reason) s') :
      Transition dev s (.server clock) s'
  | stops (clock : Nat) (here : s.phase = .stop) :
      Transition dev s (.server clock)
        (({ s with device := s.device.usbipDeviceStop }.emit
          [.deviceStopped]).goto .stopped)
  | callbackTransmits {device : DeviceState} {phase : CallPhase}
      {events : List Event} (ep : Byte) (data : List Byte) (made : Nat)
      (next : Continuation) (here : s.phase = .callback none made next)
      (ran : Section false s.device (newCall s ep data) device phase events) :
      Transition dev s (.callbackTransmit ep data)
        (({ s with calls := s.calls + 1, device := device }.emit
          (.entered (newCall s ep data) :: events)).goto
            (.callback phase.posting (made + 1) next))
  | returns {s' : State} (written : List Byte) (length made : Nat)
      (next : Continuation) (here : s.phase = .callback none made next)
      (fits : next.fits written)
      (ends : Ends dev
        { s with
          receiveLock := none
          txBuffer := next.fill written s.txBuffer }
        (next.task length) s') :
      Transition dev s (.callbackReturn written length) s'
  | transmits {device : DeviceState} {phase : CallPhase}
      {events : List Event} (thread : Nat) (ep : Byte) (data : List Byte)
      (idle : (s.threads thread).call = .idle)
      (ran : Section (!(s.threads thread).inCriticalSection) s.device
        (newCall s ep data) device phase events) :
      Transition dev s (.transmit thread ep data)
        (setCall ({ s with calls := s.calls + 1, device := device }.emit
          (.entered (newCall s ep data) :: events)) thread phase)
  | wakes {device : DeviceState} {phase : CallPhase} {events : List Event}
      (thread : Nat) (call : Call)
      (waiting : (s.threads thread).call = .waiting call)
      (ran : Section true s.device call device phase events) :
      Transition dev s (.wake thread)
        (setCall ({ s with device := device }.emit events) thread phase)
  | threadPosts (thread : Nat) (call : Call)
      (stored : (s.threads thread).call = .stored call) :
      Transition dev s (.post thread)
        (setCall ({ s with device := s.device.writeEvent }.emit
          [.returned call true]) thread .idle)
  | locks (thread : Nat) (free : s.receiveLock = none)
      (idle : (s.threads thread).call = .idle) :
      Transition dev s (.enter thread)
        { s with
          receiveLock := some (.thread thread)
          threads := Function.update s.threads thread ⟨true, .idle⟩ }
  | unlocks (thread : Nat) (held : s.receiveLock = some (.thread thread))
      (idle : (s.threads thread).call = .idle) :
      Transition dev s (.exit thread)
        { s with
          receiveLock := none
          threads := Function.update s.threads thread ⟨false, .idle⟩ }
  | interrupts :
      Transition dev s .interrupt
        { s with tcpip := { s.tcpip with stopServer := true } }

section

variable {dev : UsbipDevice} {s s' : State}

theorem processCmd_cases (processed : processCmd dev s = some s') :
    (∃ tcpip, s' = { s with tcpip := tcpip }.goto .accept) ∨
      ∃ tcpip, SameOutput s.tcpip tcpip ∧
        s' = startImport dev { s with tcpip := tcpip } := by
  unfold processCmd at processed
  split at processed
  · simp at processed
  · obtain rfl := Option.some.inj processed
    exact .inl ⟨_, rfl⟩
  next headed =>
    simp only at processed
    split at processed
    · obtain rfl := Option.some.inj processed
      exact .inl ⟨_, rfl⟩
    · split at processed
      · split at processed
        · simp at processed
        · obtain rfl := Option.some.inj processed
          exact .inl ⟨_, rfl⟩
      · split at processed
        · split at processed
          · simp at processed
          · obtain rfl := Option.some.inj processed
            exact .inl ⟨_, rfl⟩
          next busid =>
            obtain rfl := Option.some.inj processed
            have output := (tcpipServerRead_sameOutput headed).trans
              (tcpipServerRead_sameOutput busid)
            exact .inr ⟨_, output, rfl⟩
        · obtain rfl := Option.some.inj processed
          exact .inl ⟨_, rfl⟩

theorem processUnlink_cases (command : UnlinkCommand) (s : State) :
    findPendingUrb s.pendingUrbs command.unlink.unlinkSeqnum = none ∧
        processUnlink command s = sendUnlinkReply
          ⟨command.header.seqnum, command.unlink.unlinkSeqnum, 0, none⟩ s ∨
      ∃ index urb,
        findPendingUrb s.pendingUrbs command.unlink.unlinkSeqnum =
          some index ∧
        s.pendingUrbs[index]? = some urb ∧
        processUnlink command s = sendUnlinkReply
          ⟨command.header.seqnum, command.unlink.unlinkSeqnum, urbUnlinked,
            some urb.toTransfer⟩
          { s with
            pendingUrbs := s.pendingUrbs.eraseIdx index
            endpoints := stoppedEndpoints urb (s.pendingUrbs.eraseIdx index)
              s.endpoints } := by
  cases found : findPendingUrb s.pendingUrbs command.unlink.unlinkSeqnum with
  | none =>
      left
      simp only [processUnlink, found, true_and]
  | some index =>
      right
      obtain ⟨bound, _⟩ := List.findIdx?_eq_some_iff_getElem.mp found
      have filed := List.getElem?_eq_getElem bound
      refine ⟨index, _, rfl, filed, ?_⟩
      simp only [processUnlink, found, filed, stopStream_eq]

theorem processImportedCmd_transition (here : s.phase = .serve)
    (imported : s.deviceImported = true)
    (running : s.tcpip.stopServer = false)
    (processed : processImportedCmd dev s = some s') :
    Transition dev s (.wait true) s' := by
  unfold processImportedCmd at processed
  cases received : receiveCommand s.endpoints s.tcpip with
  | blocked => simp [received] at processed
  | failed tcpip rx =>
      simp only [received, Option.some.injEq] at processed
      subst processed
      exact .fails tcpip rx here imported running received
  | command tcpip command =>
      cases command with
      | submit command =>
          simp only [received, Option.some.injEq] at processed
          subst processed
          cases kind : isIsochronous s.endpoints command.header with
          | false =>
              exact .submits tcpip command here imported running received kind
                (processSubmit_ends kind)
          | true =>
              exact .submitsIso tcpip command here imported running received
                kind (processSubmit_delivers kind)
      | unlink command =>
          simp only [received, Option.some.injEq] at processed
          subst processed
          rcases processUnlink_cases command (s.unlinking tcpip command) with
            ⟨absent, missed⟩ | ⟨index, urb, found, filed, cancelled⟩
          · have done : Transition dev s (.wait true)
                (processUnlink command (s.unlinking tcpip command)) := by
              rw [missed]
              exact .misses tcpip command here imported running received absent
            exact done
          · have done : Transition dev s (.wait true)
                (processUnlink command (s.unlinking tcpip command)) := by
              rw [cancelled]
              exact .cancels tcpip command index urb here imported running
                received found filed
            exact done

theorem completePendingUrbs_transition {now index : Nat} (clock : Nat)
    (here : s.phase = .pass now index) :
    Transition dev s (.server clock) (completePendingUrbs dev now index s) := by
  unfold completePendingUrbs
  cases filed : s.pendingUrbs[index]? with
  | none => exact .ends clock now index here (List.getElem?_eq_none_iff.mp filed)
  | some urb =>
      simp only
      split
      next early => exact .later clock now index urb here filed early
      next reached =>
        have late := Nat.le_of_not_lt reached
        split
        next isochronous =>
          rw [PendingUrb.dueUs, if_pos isochronous] at late
          exact .collects clock now index urb here filed isochronous late
            (transmitIsoRetSubmit_ends _ _ _ _ _)
        next paced =>
          have plain : urb.isochronous = false := Bool.eq_false_iff.mpr paced
          rw [PendingUrb.dueUs, if_neg paced] at late
          split
          next nothing =>
            exact .skips clock now index urb here filed plain late
              (List.isEmpty_iff.mp nothing)
          next something =>
            have available : s.available urb ≠ [] := fun empty =>
              something (List.isEmpty_iff.mpr empty)
            cases written : tcpipServerWriteAll s.tcpip
                (s.dataReply urb).parts with
            | mk status tcpip =>
                have sent := written
                simp only [State.dataReply, State.available] at sent
                simp only [completeWithData, transmitRetSubmit, sendReply,
                  State.emit, sent]
                cases status with
                | true =>
                    exact .completes clock now index urb tcpip here filed plain
                      late available written
                | false =>
                    exact .breaks clock now index urb tcpip here filed plain
                      late available written

theorem scheduleIso_transition {request : Request} (clock : Nat)
    (here : s.phase = .isoSchedule request) :
    Transition dev s (.server clock) (scheduleIso dev request clock s) := by
  simp only [scheduleIso]
  split
  next full =>
    exact .overflows clock request here full
      (transmitIsoRetSubmit_ends _ _ _ _ _)
  next room => exact .schedules clock request here room

theorem controlRequest_transition {request : Request} {clock : Nat}
    (here : s.phase = .control request)
    (stepped : serverStep dev clock s = some s') :
    Transition dev s (.server clock) s' := by
  simp only [serverStep, here] at stepped
  split at stepped
  next data action =>
    obtain rfl := Option.some.inj stepped
    exact .controlAnswers clock request data here action
  next action =>
    obtain rfl := Option.some.inj stepped
    exact .controlCalls clock request here action
  next action =>
    obtain rfl := Option.some.inj stepped
    exact .controls clock request true here action
      (controlHandled_ends request true _)
  next action =>
    obtain rfl := Option.some.inj stepped
    exact .controls clock request false here action
      (controlHandled_ends request false _)

theorem serverStep_transition {clock : Nat}
    (stepped : serverStep dev clock s = some s') :
    Transition dev s (.server clock) s' := by
  cases here : s.phase with
  | accept =>
      simp only [serverStep, here] at stepped
      split at stepped
      next stopping =>
        obtain rfl := Option.some.inj stepped
        exact .leaves clock (.inl here) stopping
      · contradiction
  | serve =>
      simp only [serverStep, here] at stepped
      split at stepped
      next stopping =>
        obtain rfl := Option.some.inj stepped
        exact .leaves clock (.inr here) stopping
      next running =>
        split at stepped
        · contradiction
        next absent =>
          rcases processCmd_cases stepped with
            ⟨tcpip, rfl⟩ | ⟨tcpip, output, rfl⟩
          · exact .refuses clock tcpip here (Bool.eq_false_iff.mpr running)
              (Bool.eq_false_iff.mpr absent)
          · exact .imports clock tcpip here (Bool.eq_false_iff.mpr running)
              (Bool.eq_false_iff.mpr absent) output
  | control request => exact controlRequest_transition here stepped
  | answer request data =>
      simp only [serverStep, here] at stepped
      obtain rfl := Option.some.inj stepped
      obtain ⟨device, phase, events, ran, _, shape⟩ :=
        serverTransmit_section 0 data s
      rw [shape]
      exact .answers clock request data here ran
        (controlHandled_ends request true _)
  | fetchAnswered request supported =>
      simp only [serverStep, here] at stepped
      obtain rfl := Option.some.inj stepped
      exact .takesAnswer clock request supported here
  | fetchReply request supported answered =>
      simp only [serverStep, here, finishControl_eq] at stepped
      obtain rfl := Option.some.inj stepped
      exact .fetches clock request supported answered _ here rfl
  | isoSchedule request =>
      simp only [serverStep, here] at stepped
      obtain rfl := Option.some.inj stepped
      exact scheduleIso_transition clock here
  | lock next =>
      simp only [serverStep, here, enterCallback] at stepped
      split at stepped
      next free =>
        obtain rfl := Option.some.inj stepped
        exact .enters clock next here free
      · contradiction
  | callback posting made next =>
      cases posting with
      | none => simp [serverStep, here] at stepped
      | some call =>
          simp only [serverStep, here] at stepped
          obtain rfl := Option.some.inj stepped
          exact .posts clock call made next here
  | clearEvent status =>
      simp only [serverStep, here] at stepped
      cases status with
      | true =>
          obtain rfl := Option.some.inj stepped
          exact .starts clock here
      | false =>
          obtain rfl := Option.some.inj stepped
          exact .loses clock here
  | pass now index =>
      simp only [serverStep, here] at stepped
      obtain rfl := Option.some.inj stepped
      exact completePendingUrbs_transition clock here
  | reset reason =>
      simp only [serverStep, here] at stepped
      obtain rfl := Option.some.inj stepped
      exact .resets clock reason here
  | resetEvent reason =>
      simp only [serverStep, here] at stepped
      split at stepped
      next callback =>
        obtain rfl := Option.some.inj stepped
        exact .resetCalls clock reason here callback
      next uncalled =>
        obtain rfl := Option.some.inj stepped
        exact .resetEnds clock reason here (Bool.eq_false_iff.mpr uncalled)
          (resetDone_ends reason _)
  | stop =>
      simp only [serverStep, here] at stepped
      obtain rfl := Option.some.inj stepped
      exact .stops clock here
  | stopped => simp [serverStep, here] at stepped

theorem step_transition {label : Label}
    (stepped : step dev s label = some s') : Transition dev s label s' := by
  cases label with
  | accept reads writes =>
      simp only [step] at stepped
      split at stepped
      next ready =>
        obtain rfl := Option.some.inj stepped
        exact .accepts reads writes ready.1 ready.2
      · contradiction
  | server clock => exact serverStep_transition stepped
  | wait ready =>
      simp only [step] at stepped
      split at stepped
      next waiting =>
        cases ready with
        | true =>
            simp only [if_true] at stepped
            split at stepped
            · contradiction
            next running =>
              exact processImportedCmd_transition waiting.1 waiting.2
                (Bool.eq_false_iff.mpr running) stepped
        | false =>
            simp only [Bool.false_eq_true, if_false] at stepped
            obtain rfl := Option.some.inj stepped
            exact .idles waiting.1 waiting.2
      · contradiction
  | callbackTransmit ep data =>
      simp only [step] at stepped
      split at stepped
      next made next here =>
        obtain rfl := Option.some.inj stepped
        obtain ⟨device, phase, events, ran, posting, shape⟩ :=
          serverTransmit_section ep data s
        rw [posting, shape]
        exact .callbackTransmits ep data made next here ran
      · contradiction
  | callbackReturn written length =>
      simp only [step] at stepped
      split at stepped
      next made next here =>
        obtain ⟨fits, ends⟩ := callbackReturned_ends stepped
        exact .returns written length made next here fits ends
      · contradiction
  | transmit thread ep data =>
      simp only [step] at stepped
      split at stepped
      next idle =>
        obtain rfl := Option.some.inj stepped
        obtain ⟨device, phase, events, ran, shape⟩ := threadTransmit_section
          thread (!(s.threads thread).inCriticalSection) (newCall s ep data)
          ({ s with calls := s.calls + 1 }.emit [.entered (newCall s ep data)])
        have joined : setCall ({ ({ s with calls := s.calls + 1 }.emit
              [.entered (newCall s ep data)]) with device := device }.emit
              events) thread phase =
            setCall ({ s with calls := s.calls + 1, device := device }.emit
              (.entered (newCall s ep data) :: events)) thread phase := by
          simp [State.emit, setCall]
        rw [shape, joined]
        exact .transmits thread ep data idle ran
      · contradiction
  | wake thread =>
      simp only [step] at stepped
      split at stepped
      next call waiting =>
        obtain rfl := Option.some.inj stepped
        obtain ⟨device, phase, events, ran, shape⟩ :=
          threadTransmit_section thread true call s
        rw [shape]
        exact .wakes thread call waiting ran
      · contradiction
  | post thread =>
      simp only [step] at stepped
      split at stepped
      next call stored =>
        obtain rfl := Option.some.inj stepped
        exact .threadPosts thread call stored
      · contradiction
  | enter thread =>
      simp only [step] at stepped
      split at stepped
      next free =>
        obtain rfl := Option.some.inj stepped
        exact .locks thread free.1 free.2
      · contradiction
  | exit thread =>
      simp only [step] at stepped
      split at stepped
      next held =>
        obtain rfl := Option.some.inj stepped
        exact .unlocks thread held.1 held.2
      · contradiction
  | interrupt =>
      obtain rfl := Option.some.inj stepped
      exact .interrupts

theorem step_starts {clock : Nat} (here : s.phase = .clearEvent true)
    (stepped : step dev s (.server clock) = some s') :
    s' = ({ s with
      device := s.device.usbipDeviceClearEvent
      waitTimeoutUs := waitTimeoutUsMax
      passUs := clock }.emit [.pass clock]).goto (.pass clock 0) := by
  simp only [step, serverStep, here, if_true] at stepped
  exact (Option.some.inj stepped).symm

theorem step_enters {clock : Nat} {next : Continuation}
    (here : s.phase = .lock next)
    (stepped : step dev s (.server clock) = some s') :
    s.receiveLock = none ∧
      s' = ({ s with receiveLock := some .server }.emit
        [.callback (callbackArgs s next)]).goto (.callback none 0 next) := by
  simp only [step, serverStep, here, enterCallback] at stepped
  split at stepped
  next free => exact ⟨free, (Option.some.inj stepped).symm⟩
  · contradiction

end

end UsbipServer
