import UsbipServer.Refine.Arrays
import UsbipServer.Refine.Delivering

namespace UsbipServer

open Wire Library

/-! Every run of the server can be carried out on its static arrays: no access
leaves its array, and every read finds what the server's model says. -/

section

variable {dev : UsbipDevice} {s s' : State}

def Task.isSpared : Task → Bool
  | .submit _ => false
  | .collect _ _ _ _ => false
  | _ => true

theorem Ends.contents {task : Task} (ends : Ends dev s task s')
    (spared : task.isSpared = true) : s'.contents = s.contents := by
  cases ends <;> first | rfl | simp [Task.isSpared] at spared

theorem Carries.of_eq {accesses : List Access} {before after other : Contents}
    (carried : Carries accesses before after) (same : other = after) :
    Carries accesses before other := by
  rw [same]
  exact carried

theorem Section.carries {mayWait : Bool} {device device' : DeviceState}
    {call : Call} {phase : CallPhase} {events : List Event}
    {contents : Contents}
    (ran : Section mayWait device call device' phase events)
    (held : contents.endpointData = device.endpointData) :
    Carries (transmitAccesses mayWait call device) contents
      { contents with endpointData := device'.endpointData } := by
  cases ran with
  | waiting data running full may =>
      have outcome : usbipDeviceTransmit mayWait call device = .waiting := by
        simp [usbipDeviceTransmit, data, running, full, may]
      simp only [transmitAccesses, outcome, ← held]
      exact .nil
  | stored running current room =>
      have accessed : transmitAccesses mayWait call device =
          [.storeData call.endpoint call.cells] := by
        rcases room with control | empty
        · simp [transmitAccesses, usbipDeviceTransmit, control, running, current]
        · simp [transmitAccesses, usbipDeviceTransmit, empty, running, current]
      rw [accessed]
      refine (Carries.storeData call.length_cells).of_eq ?_
      rw [held]
      rfl
  | dropped unblocked refused =>
      simp only [transmitAccesses, ← held]
      cases outcome : usbipDeviceTransmit mayWait call device with
      | stored next =>
          obtain ⟨running, current, room, _⟩ :=
            usbipDeviceTransmit_stored outcome
          obtain ⟨data, full⟩ := refused running current
          rcases room with control | empty
          · exact absurd control data
          · exact absurd empty full
      | waiting | dropped => exact .nil

theorem lost_carries {contents : Contents} (written : Bool) :
    Carries (lostAccesses written) contents
      { contents with
        pendingUrbs := if written then contents.pendingUrbs else [] } := by
  cases written with
  | true => exact .nil
  | false => exact .clearUrbs

theorem IsoLengths.accesses {urb : PendingUrb} {packets : List IsoPacket}
    {actual lengths : List Nat}
    (complete : IsoLengths dev urb packets actual lengths) (back : IsoReturn)
    (s : State) :
    isoAccesses dev urb back packets actual s =
      finishIsoAccesses urb lengths back s := by
  by_cases outward : urb.direction = 0
  · rw [complete.outward outward]
    clear complete
    induction packets generalizing actual with
    | nil => simp [isoAccesses]
    | cons packet rest induction => simp [isoAccesses, outward, induction]
  · cases callback : dev.isoInCallback with
    | true =>
        obtain ⟨rfl, rfl⟩ := complete.called outward callback
        rfl
    | false =>
        rw [complete.silent outward callback]
        clear complete
        induction packets generalizing actual with
        | nil => simp [isoAccesses]
        | cons packet rest induction =>
            simp [isoAccesses, outward, callback, induction]

theorem IsoLengths.room {urb : PendingUrb} {packets : List IsoPacket}
    {actual lengths : List Nat}
    (complete : IsoLengths dev urb packets actual lengths)
    (room : urb.direction ≠ 0 → actual.sum ≤ usbipMaxPacketSize) :
    urb.direction ≠ 0 → lengths.sum ≤ usbipMaxPacketSize := by
  intro inward
  rw [complete.sum_eq inward]
  exact room inward

theorem isoReply_carries {urb : PendingUrb} {lengths : List Nat}
    {txBuffer : Buffer Cell} {contents : Contents}
    (count : urb.packets.length ≤ maxIsoPackets)
    (room : urb.direction ≠ 0 → lengths.sum ≤ usbipMaxPacketSize)
    (held : contents.txBuffer = txBuffer) :
    Carries (.packets urb.packets.length :: if urb.direction = 0 then []
      else [.loadTx (txBuffer.slice 0 lengths.sum)]) contents contents := by
  refine .cons (.packets count) ?_
  split
  · exact .nil
  next inward =>
    rw [← held]
    exact .loadTx (room inward)

theorem Ends.collect_carries {urb : PendingUrb} {back : IsoReturn}
    {packets : List IsoPacket} {actual : List Nat}
    (ends : Ends dev s (.collect urb actual packets back) s')
    (count : urb.packets.length ≤ maxIsoPackets)
    (room : urb.direction ≠ 0 → actual.sum ≤ usbipMaxPacketSize)
    (filed : Filed s.pendingUrbs urb back) :
    Carries (isoAccesses dev urb back packets actual s) s.contents
      s'.contents := by
  cases ends with
  | asks inward callback =>
      simp only [isoAccesses, if_neg inward, callback, if_true]
      exact .nil
  | isoAnswered lengths complete =>
      rw [complete.accesses]
      exact (isoReply_carries count (complete.room room) rfl).append .nil
  | isoCompleted lengths tcpip complete written =>
      rw [complete.accesses]
      refine (isoReply_carries count (complete.room room) rfl).append
        (.cons (.removeUrb filed) ?_)
      simp only [sendReply, written]
      exact .nil
  | isoLost lengths tcpip complete written =>
      rw [complete.accesses]
      refine (isoReply_carries count (complete.room room) rfl).append
        (.cons (.removeUrb filed) ?_)
      simp only [sendReply, written]
      exact .clearUrbs

theorem readLoop_lost_length {results rest : List ReadResult}
    {received content : List Byte} {missing : Nat} {stopped : Bool}
    (lost : readLoop results received missing = .lost stopped content rest) :
    content.length ≤ received.length + missing := by
  induction results generalizing received missing with
  | nil => cases missing <;> simp [readLoop] at lost
  | cons result results induction =>
      cases missing with
      | zero => simp [readLoop] at lost
      | succ missing =>
          cases result with
          | data bytes =>
              simp only [readLoop] at lost
              split at lost
              · simp only [ReadOutcome.lost.injEq] at lost
                rw [← lost.2.1]
                omega
              · split at lost
                next fits =>
                  have bound := induction lost
                  rw [List.length_append] at bound
                  omega
                · contradiction
          | again | interrupted => exact induction lost
          | failed | stop =>
              simp only [readLoop, ReadOutcome.lost.injEq] at lost
              rw [← lost.2.1]
              omega

theorem tcpipServerRead_failed_length {tcpip next : Tcpip} {size : Nat}
    {received : List Byte}
    (failed : tcpipServerRead tcpip size = .failed next received) :
    received.length ≤ size := by
  unfold tcpipServerRead at failed
  split at failed
  · simp only [TcpipRead.failed.injEq] at failed
    rw [← failed.2]
    exact Nat.zero_le size
  · cases looped : readLoop tcpip.reads [] size with
    | blocked => simp [looped] at failed
    | complete content rest => simp [looped] at failed
    | lost stopped content rest =>
        simp only [looped, TcpipRead.failed.injEq] at failed
        have bound := readLoop_lost_length looped
        rw [← failed.2]
        simpa using bound

def Received.rx : Received → List Byte
  | .blocked => []
  | .failed _ rx => rx
  | .command _ taken => taken.payload

theorem packets_carries {contents : Contents} (endpoints : Endpoints)
    (header : HeaderBasic) (submit : CmdSubmit) :
    Carries (packetsAccesses endpoints header submit) contents contents := by
  unfold packetsAccesses
  split
  · split
    · exact .nil
    next few => exact .packets (Nat.le_of_not_lt few)
  · exact .nil

theorem receivePackets_rx {endpoints : Endpoints} {tcpip : Tcpip}
    {header : HeaderBasic} {submit : CmdSubmit} {payload : List Byte}
    (read : receivePackets endpoints tcpip header submit payload ≠ .blocked) :
    (receivePackets endpoints tcpip header submit payload).rx = payload := by
  unfold receivePackets receiveIsoSubmit at *
  split
  next iso =>
    simp only [iso, if_true] at read ⊢
    split
    · rfl
    next few =>
      rw [if_neg few] at read
      split
      next blocked => simp [blocked] at read
      · rfl
      · split <;> rfl
  · rfl

theorem Carries.writes_nothing {accesses : List Access} {contents : Contents}
    {rx : List Byte} (carried : Carries accesses contents contents)
    (nothing : rx = []) :
    Carries accesses contents
      { contents with rxBuffer := contents.rxBuffer.write 0 rx } := by
  apply carried.of_eq
  rw [nothing, Buffer.write_nil]

theorem receiveSubmit_carries {contents : Contents} {endpoints : Endpoints}
    {tcpip : Tcpip} {header : HeaderBasic}
    (read : receiveSubmit endpoints tcpip header ≠ .blocked) :
    Carries (receiveSubmitAccesses endpoints tcpip header) contents
      { contents with
        rxBuffer := contents.rxBuffer.write 0
          (receiveSubmit endpoints tcpip header).rx } := by
  unfold receiveSubmitAccesses receiveSubmit at *
  cases front : tcpipServerRead tcpip CmdSubmit.size with
  | blocked => simp [front] at read
  | failed next received => exact Carries.nil.writes_nothing rfl
  | complete next bytes =>
      simp only [front] at read ⊢
      split
      · exact Carries.nil.writes_nothing rfl
      next fits =>
        rw [if_neg fits] at read
        split
        next outward =>
          rw [if_pos outward] at read
          cases data : tcpipServerRead next
              (CmdSubmit.decode bytes).transferBufferLength.toNat with
          | blocked => simp [data] at read
          | failed last received =>
              have bound := tcpipServerRead_failed_length data
              exact .storeRx (bound.trans (Nat.le_of_not_lt fits))
          | complete last payload =>
              simp only [data] at read
              have length := tcpipServerRead_length data
              refine .cons (.storeRx ?_) ((packets_carries _ _ _).of_eq ?_)
              · rw [length]
                exact Nat.le_of_not_lt fits
              · rw [receivePackets_rx read]
        next inward =>
          rw [if_neg inward] at read
          exact (packets_carries _ _ _).writes_nothing (receivePackets_rx read)

theorem receiveUnlink_rx (tcpip : Tcpip) (header : HeaderBasic) :
    (receiveUnlink tcpip header).rx = [] := by
  unfold receiveUnlink
  split <;> rfl

theorem receive_carries {contents : Contents} {endpoints : Endpoints}
    {tcpip : Tcpip} (read : receiveCommand endpoints tcpip ≠ .blocked) :
    Carries (receiveAccesses endpoints tcpip) contents
      { contents with
        rxBuffer := contents.rxBuffer.write 0
          (receiveCommand endpoints tcpip).rx } := by
  unfold receiveAccesses receiveCommand at *
  cases front : tcpipServerRead tcpip HeaderBasic.size with
  | blocked => simp [front] at read
  | failed next received => exact Carries.nil.writes_nothing rfl
  | complete next bytes =>
      simp only [front] at read ⊢
      split
      next submit =>
        rw [if_pos submit] at read
        exact receiveSubmit_carries read
      · apply Carries.nil.writes_nothing
        split
        · exact receiveUnlink_rx next _
        · rfl

theorem Ends.submit_carries {request : Request}
    (ends : Ends dev s (.submit request) s') :
    Carries (submitAccesses request s) s.contents s'.contents := by
  unfold submitAccesses
  cases ends with
  | control plain zero =>
      rw [if_pos (.inr (.inl zero))]
      exact .nil
  | receives plain data outward | ignored plain data outward =>
      rw [if_pos (.inr (.inr (.inl outward)))]
      exact .nil
  | overflows plain data inward full =>
      rw [if_pos (.inr (.inr (.inr full)))]
      exact .nil
  | queued plain data inward room =>
      rw [if_neg (by simp [plain, data, inward, room])]
      exact .pushUrb room

theorem unlink_carries {contents : Contents} {seqnum : UInt32} {index : Nat}
    {urb : PendingUrb}
    (found : findPendingUrb contents.pendingUrbs seqnum = some index)
    (filed : contents.pendingUrbs[index]? = some urb) :
    Carries (unlinkAccesses seqnum contents.pendingUrbs) contents
      { contents with
        pendingUrbs := contents.pendingUrbs.eraseIdx index } := by
  simp only [unlinkAccesses, found, filed]
  refine .cons (.scanUrbs (List.take_prefix _ _)) (.cons (.removeUrb filed) ?_)
  split
  · exact .scanUrbs (List.prefix_refl _)
  · exact .nil

theorem command_carries {after : Contents}
    (read : receiveCommand s.endpoints s.tcpip ≠ .blocked)
    (rest : Carries
      (match receiveCommand s.endpoints s.tcpip with
      | .command _ (.submit command) => submitAccesses ⟨s.tickets, command⟩ s
      | .command _ (.unlink command) =>
          unlinkAccesses command.unlink.unlinkSeqnum s.pendingUrbs
      | _ => [])
      { s.contents with
        rxBuffer := s.rxBuffer.write 0
          (receiveCommand s.endpoints s.tcpip).rx } after) :
    Carries (commandAccesses s) s.contents after :=
  (receive_carries read).append rest

end

section

variable {dev : UsbipDevice} {s s' : State} {label : Label}

theorem Handling.isoPackets_le {request : Request}
    (handling : Handling dev s.tickets request) :
    request.isoPackets.length ≤ maxIsoPackets := by
  rw [Request.isoPackets, List.length_map]
  cases kind : isIsochronous (loadEndpoints dev.configDesc)
      request.command.header with
  | true => exact (handling.wellFormed.isochronous kind).2.1
  | false =>
      rw [handling.wellFormed.plain kind]
      exact Nat.zero_le _

theorem callback_carries {next : Continuation} (sound : Sound dev s)
    (delivering : Delivering s.phase) (here : s.phase = .lock next) :
    Carries (callbackAccesses s next) s.contents s.contents := by
  cases next with
  | control request =>
      obtain ⟨_, handling, _⟩ := sound.isAttached here fun _ _ _ => id
      refine .loadRx ?_
      rw [Nat.zero_add]
      exact handling.wellFormed.fits
  | receive request =>
      obtain ⟨_, handling, _⟩ := sound.isAttached here fun _ _ _ => id
      refine .loadRx ?_
      rw [Nat.zero_add]
      exact handling.wellFormed.fits
  | isoOut request packet rest =>
      obtain ⟨_, handling, isochronous, _⟩ :=
        sound.isAttached here fun _ _ _ => id
      rw [here] at delivering
      have own := delivering request _ rfl
      have fits := handling.packet_fits isochronous
        (own.subset List.mem_cons_self)
      exact .loadRx (fits.trans handling.wellFormed.fits)
  | isoIn urb actual packet rest back =>
      obtain ⟨_, progress, inward⟩ := sound.isAttached here fun _ _ _ => id
      have room := progress.room inward
      have fits := progress.sound.fits
      refine .spaceTx ?_
      unfold isoMaxLength
      omega
  | reset reason => exact .nil

/-- The isochronous IN callback gets no more space than the transfer has left,
so the packets of a reply fit `tx_buffer`. -/
theorem return_carries {made : Nat} {next : Continuation}
    {written : List Byte} {length : Nat} (sound : Sound dev s)
    (here : s.phase = .callback none made next) (short : next.fits written)
    (ends : Ends dev
      { s with
        receiveLock := none
        txBuffer := next.fill written s.txBuffer } (next.task length) s') :
    Carries (returnAccesses dev written length s next) s.contents
      s'.contents := by
  cases next with
  | control request => exact Carries.nil.of_eq (ends.contents rfl)
  | receive request => exact Carries.nil.of_eq (ends.contents rfl)
  | isoOut request packet rest => exact Carries.nil.of_eq (ends.contents rfl)
  | isoIn urb actual packet rest back =>
      obtain ⟨_, progress, inward⟩ := sound.isAttached here fun _ _ _ => id
      have room := progress.room inward
      have fits := progress.sound.fits
      have space : isoMaxLength urb actual packet ≤
          urb.transferBufferLength.toNat - actual.sum := Nat.min_le_right _ _
      have short : written.length ≤ isoMaxLength urb actual packet := short
      have entry : Carries (entryAccesses urb back)
          { s.contents with
            txBuffer := s.txBuffer.write actual.sum
              (written.map fun byte => ⟨byte, none⟩) }
          { s.contents with
            txBuffer := s.txBuffer.write actual.sum
              (written.map fun byte => ⟨byte, none⟩) } := by
        cases back with
        | command => exact .nil
        | pass now index => exact .lookUrb progress.filed
      refine .cons (.storeTx ?_) (entry.append ?_)
      · rw [List.length_map]
        omega
      · refine ends.collect_carries
          (progress.sound.count progress.isochronous).2 ?_ progress.filed
        intro _
        rw [List.sum_append, List.sum_singleton]
        omega
  | reset reason => exact Carries.nil.of_eq (ends.contents rfl)

theorem overflow_accesses {request : Request} {clock : Nat}
    (here : s.phase = .isoSchedule request)
    (full : s.pendingUrbs.length = maxPendingUrbs) :
    serverAccesses dev clock s =
      isoAccesses dev (s.isoUrb request clock) .command
        (s.isoUrb request clock).packets []
        { s with endpoints := s.isoEndpoints request clock } := by
  cases s
  cases here
  exact if_pos full

theorem passAccesses_fetch {now index : Nat} {urb : PendingUrb}
    (filed : s.pendingUrbs[index]? = some urb)
    (plain : urb.isochronous = false)
    (due : (s.endpoints true urb.number).nextPollUs ≤ now) :
    passAccesses dev now index s =
      .lookUrb index urb ::
        .fetchData (epMasked urb.ep.toUInt8) urb.transferBufferLength.toNat
            (s.available urb) ::
          if (s.available urb).isEmpty then []
          else
            .removeUrb index :: .loadTx (s.available urb) ::
              lostAccesses (sendReply (s.dataReply urb) s).1 := by
  have late : ¬ now < urb.dueUs s.endpoints := by
    simpa [PendingUrb.dueUs, plain] using due
  simp only [passAccesses, filed, if_neg late, plain, Bool.false_eq_true,
    if_false]
  rfl

/-- The transfer is removed before its reply is sent. -/
theorem data_carries {now index : Nat} {urb : PendingUrb} {status : Bool}
    {tcpip : Tcpip} (base : Attached dev s)
    (filed : s.pendingUrbs[index]? = some urb)
    (plain : urb.isochronous = false)
    (due : (s.endpoints true urb.number).nextPollUs ≤ now)
    (something : s.available urb ≠ [])
    (written : tcpipServerWriteAll s.tcpip (s.dataReply urb).parts =
      (status, tcpip)) :
    Carries (passAccesses dev now index s) s.contents
      { s.contents with
        txBuffer := s.txBuffer.write 0 (s.available urb)
        endpointData := (s.device.usbipDeviceFetchEpData urb.ep.toUInt8
          urb.transferBufferLength.toNat).2.endpointData
        pendingUrbs := if status then s.pendingUrbs.eraseIdx index else [] } := by
  have fits := (base.pending urb (List.mem_of_getElem? filed)).fits
  rw [passAccesses_fetch filed plain due]
  refine .cons (.lookUrb filed) (.cons (.fetchData rfl) ?_)
  rw [if_neg fun empty => something (List.isEmpty_iff.mp empty)]
  refine .cons (.removeUrb filed) (.cons (.loadTx_stored
    ((s.available_short urb).trans fits) (Buffer.slice_write_self _ _ 0)) ?_)
  simp only [sendReply, written]
  exact lost_carries status

theorem step_carries (sound : Sound dev s) (delivering : Delivering s.phase)
    (stepped : step dev s label = some s') :
    Carries (accesses dev s label) s.contents s'.contents := by
  cases step_transition stepped with
  | accepts | idles | threadPosts | locks | unlocks | interrupts => exact .nil
  | leaves clock here =>
      rcases here with here | here
      · simp only [accesses, serverAccesses, here]
        exact .nil
      · have moved : serverStep dev clock s = some (s.goto .stop) := stepped
        simp only [accesses, serverAccesses, here, moved]
        exact .nil
  | refuses clock tcpip here =>
      have moved : serverStep dev clock s = some _ := stepped
      simp only [accesses, serverAccesses, here, moved]
      exact .nil
  | imports clock tcpip here =>
      have moved : serverStep dev clock s = some _ := stepped
      simp only [accesses, serverAccesses, here, moved]
      exact .clearUrbs
  | fails tcpip rx here imported running received =>
      refine command_carries (by simp [received]) ?_
      rw [received]
      exact .nil
  | submits tcpip command here imported running received plain ends =>
      refine command_carries (by simp [received]) ?_
      rw [received]
      exact ends.submit_carries
  | submitsIso tcpip command here imported running received paced ends =>
      refine command_carries (by simp [received]) ?_
      rw [received]
      simp only [submitAccesses]
      rw [if_pos (.inl paced)]
      exact Carries.nil.of_eq (ends.contents rfl)
  | misses tcpip command here imported running received absent =>
      refine command_carries (by simp [received]) ?_
      rw [received]
      simp only [unlinkAccesses, absent]
      exact .scanUrbs (List.prefix_refl _)
  | cancels tcpip command index urb here imported running received found filed =>
      refine command_carries (by simp [received]) ?_
      rw [received]
      exact unlink_carries found filed
  | controlAnswers _ _ _ here | controlCalls _ _ here =>
      simp only [accesses, serverAccesses, here]
      exact .clearData
  | controls clock request supported here action ends =>
      simp only [accesses, serverAccesses, here]
      exact Carries.clearData.of_eq (ends.contents rfl)
  | answers clock request data here ran ends =>
      simp only [accesses, serverAccesses, here]
      exact (ran.carries rfl).of_eq (ends.contents rfl)
  | fetches clock request supported answered handled here verdict =>
      obtain ⟨_, handling, _⟩ := sound.isAttached here fun _ _ _ => id
      simp only [accesses, serverAccesses, here]
      have fetched := @Carries.fetchData s.contents s.device 0
        request.transferBufferLength.toNat rfl
      refine .cons fetched ?_
      split
      · refine .loadTx_stored ?_ (Buffer.slice_write_self _ _ 0)
        exact (s.device.fetched_length_le 0 _).trans handling.wellFormed.fits
      · exact .nil
  | schedules clock request here room =>
      simp only [accesses, serverAccesses, here]
      rw [if_neg room]
      exact .pushUrb room
  | overflows clock request here full ends =>
      obtain ⟨_, handling, _⟩ := sound.isAttached here fun _ _ _ => id
      rw [accesses, overflow_accesses here full]
      exact ends.collect_carries handling.isoPackets_le (fun _ => Nat.zero_le _)
        trivial
  | enters clock next here =>
      have carried := callback_carries sound delivering here
      simp only [accesses, serverAccesses, here]
      exact carried
  | starts clock here =>
      simp only [accesses, serverAccesses, here]
      exact .nil
  | loses clock here =>
      simp only [accesses, serverAccesses, here]
      exact .clearUrbs
  | ends clock now index here all =>
      simp only [accesses, serverAccesses, here, passAccesses,
        List.getElem?_eq_none all]
      exact .nil
  | later clock now index urb here filed early =>
      simp only [accesses, serverAccesses, here, passAccesses, filed,
        if_pos early]
      exact .lookUrb filed
  | collects clock now index urb here filed isochronous due ends =>
      obtain ⟨base, _⟩ := sound.isAttached here fun _ _ _ => id
      have known := base.pending urb (List.mem_of_getElem? filed)
      have late : ¬ now < urb.dueUs s.endpoints := by
        simpa [PendingUrb.dueUs, isochronous] using due
      simp only [accesses, serverAccesses, here, passAccesses, filed,
        if_neg late, isochronous, if_true]
      exact .cons (.lookUrb filed) (ends.collect_carries
        (known.count isochronous).2 (fun _ => Nat.zero_le _) filed)
  | skips clock now index urb here filed plain due nothing =>
      simp only [accesses, serverAccesses, here,
        passAccesses_fetch filed plain due]
      refine .cons (.lookUrb filed) (.cons (.fetchData rfl) ?_)
      rw [if_pos (List.isEmpty_iff.mpr nothing)]
      refine Carries.nil.of_eq ?_
      rw [State.available] at nothing
      rw [nothing, Buffer.write_nil]
      rfl
  | completes _ _ _ _ _ here filed plain due something written
  | breaks _ _ _ _ _ here filed plain due something written =>
      obtain ⟨base, _⟩ := sound.isAttached here fun _ _ _ => id
      simp only [accesses, serverAccesses, here]
      exact data_carries base filed plain due something written
  | resets _ _ here | stops _ here =>
      simp only [accesses, serverAccesses, here]
      exact .clearAllData
  | takesAnswer _ _ _ here | posts _ _ _ _ here | resetCalls _ _ here =>
      simp only [accesses, serverAccesses, here]
      exact .nil
  | resetEnds clock reason here uncalled ends =>
      simp only [accesses, serverAccesses, here]
      exact Carries.nil.of_eq (ends.contents rfl)
  | callbackTransmits ep data made next here ran => exact ran.carries rfl
  | returns written length made next here fits ends =>
      simp only [accesses, here]
      exact return_carries sound here fits ends
  | transmits thread ep data idle ran => exact ran.carries rfl
  | wakes thread call waiting ran =>
      simp only [accesses, waiting]
      exact ran.carries rfl

theorem initialMemory_holds : initialMemory.Holds initial.contents where
  rxBuffer _ _ := rfl
  txBuffer _ _ := rfl
  count := Nat.zero_le _
  entries := .nil
  room _ := Nat.zero_le _
  data _ := rfl

theorem memory_run {memory : Memory} {labels : List Label}
    (reachable : Reachable dev s) (holds : memory.Holds s.contents)
    (ran : (server dev).run s labels = some s') :
    ∃ next, (withMemory dev).run (s, memory) labels = some (s', next) ∧
      next.Holds s'.contents := by
  induction labels generalizing s memory with
  | nil =>
      cases ran
      exact ⟨memory, rfl, holds⟩
  | cons label rest induction =>
      simp only [Machine.run] at ran
      cases stepped : step dev s label with
      | none => simp [server, stepped] at ran
      | some middle =>
          simp only [server, stepped] at ran
          obtain ⟨between, performed, held⟩ :=
            step_carries (reachable_tracked reachable).sound
              (reachable_delivering reachable) stepped memory holds
          obtain ⟨last, continued, finished⟩ :=
            induction (.step reachable trivial stepped) held ran
          refine ⟨last, ?_, finished⟩
          simp only [Machine.run, withMemory, memoryStep, stepped, performed]
          exact continued

end

/-- Every run of the server, whatever its client, its device and its threads
do, makes its accesses inside the static arrays; afterwards these hold the
pending transfers, the endpoint data and the buffers of the server. -/
theorem staticArrays {dev : UsbipDevice} {labels : List Label} {s : State}
    (ran : (server dev).run initial labels = some s) :
    ∃ memory, (withMemory dev).run (initial, initialMemory) labels =
        some (s, memory) ∧
      memory.Holds s.contents :=
  memory_run .refl initialMemory_holds ran

/-- A transfer waits in the table until a thread transmits data for it. -/
def servedLabels : List Label :=
  importLabels [bulkIn 1 1 8] ++
    [.wait true, .server 0, .server 0, .server 0, .transmit 0 1 [0xaa],
      .post 0, .wait false, .server 0, .server 0]

theorem staticArrays_served :
    ((server sampleDevice).after initial servedLabels).pendingUrbs = [] ∧
      ∃ memory, (withMemory sampleDevice).run (initial, initialMemory)
          servedLabels =
          some ((server sampleDevice).after initial servedLabels, memory) ∧
        memory.Holds
          ((server sampleDevice).after initial servedLabels).contents :=
  ⟨by decide +kernel, staticArrays (Machine.run_after (by decide +kernel))⟩

end UsbipServer
