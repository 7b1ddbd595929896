import UsbipServer.Refine.Session

namespace UsbipServer

open Wire Library

/-! Every step of the machine advances its session's ledger. -/

section

variable {dev : UsbipDevice} {s s' : State}

theorem Sound.isAttached (sound : Sound dev s) {phase : Phase}
    (here : s.phase = phase)
    (within : ∀ endpoints waitTimeoutUs sent,
      ¬ phase.Detached dev endpoints waitTimeoutUs sent) :
    Attached dev s ∧ phase.Sound dev s.tickets s.pendingUrbs := by
  cases sound with
  | attached base inside =>
      rw [here] at inside
      exact ⟨base, inside⟩
  | detached none empty outside =>
      rw [here] at outside
      exact absurd outside (within _ _ _)

theorem Sound.isDetached (sound : Sound dev s) {phase : Phase}
    (here : s.phase = phase)
    (without : ∀ tickets pendingUrbs, ¬ phase.Sound dev tickets pendingUrbs) :
    s.deviceImported = false ∧ s.pendingUrbs = [] ∧
      phase.Detached dev s.endpoints s.waitTimeoutUs s.tcpip.sent := by
  cases sound with
  | attached base inside =>
      rw [here] at inside
      exact absurd inside (without _ _)
  | detached none empty outside =>
      rw [here] at outside
      exact ⟨none, empty, outside⟩

theorem view_at {phase : Phase} (here : s.phase = phase) :
    view s = ⟨queueOf s, phase.hand, phase.todo s.rxBuffer⟩ := by
  rw [view, here]

theorem Ends.reset_advances {start : State} {reason : ResetReason}
    (ends : Ends dev start (.reset reason) s')
    (resetting : Resetting dev start.endpoints start.waitTimeoutUs
      start.tcpip.sent reason)
    (absent : s.deviceImported = false)
    (none : start.deviceImported = false) (empty : start.pendingUrbs = [])
    (traced : start.trace = s.trace) (viewed : view s = Ledger.empty) :
    Advances dev s s' ∨ Imports dev s s' := by
  cases ends with
  | detached =>
      left
      refine .outside [] (.detached none empty trivial) none ?_ ?_
      · simp [traced]
      · rw [viewed]
        simp only [view, queueOf, State.goto, empty]
        exact .nil
  | attached tcpip written =>
      right
      obtain ⟨loaded, _, fresh⟩ := resetting
      have types : SameTypes start.endpoints (loadEndpoints dev.configDesc) :=
        fun _ _ => by rw [loaded]
      have sent := tcpipServerWriteAll_sent written
      rw [fresh, List.nil_append] at sent
      refine ⟨absent, .attached ⟨rfl, types, ?_⟩ trivial, ?_, ?_, sent⟩
      · intro urb member
        have inside : urb ∈ start.pendingUrbs := member
        rw [empty] at inside
        simp at inside
      · simp [traced]
      · simp [view, queueOf, empty, Phase.hand, Phase.todo, Ledger.empty]
  | unattached tcpip written =>
      left
      refine .outside [.writeFailed] (.detached rfl empty trivial) rfl ?_ ?_
      · simp [traced]
      · rw [viewed]
        simp only [view, queueOf, State.goto, State.emit, empty]
        exact .single .writeFailed

theorem callback_step {next : Continuation} {after : State}
    (here : s.phase = .lock next) (there : after.phase = .callback none 0 next)
    (pending : after.pendingUrbs = s.pendingUrbs)
    (rxBuffer : after.rxBuffer = s.rxBuffer)
    (positive : ∀ request packet rest, next = .isoOut request packet rest →
      0 < packet.length.toNat) :
    Ledger.Step dev (view s) (.callback (callbackArgs s next))
      (view after) := by
  simp only [view, queueOf, here, there, pending, rxBuffer]
  cases next with
  | control request => exact .silent rfl
  | receive request => exact .delivered
  | isoOut request packet rest =>
      have due : packetsDue s.rxBuffer request (packet :: rest) =
          (request.ep.toUInt8,
            s.rxBuffer.slice packet.offset.toNat packet.length.toNat) ::
              packetsDue s.rxBuffer request rest := by
        simp [packetsDue, positive request packet rest rfl]
      simp only [Phase.todo, due]
      exact .delivered
  | isoIn urb actual packet rest back => exact .silent rfl
  | reset reason => exact .silent rfl

theorem callback_enters {next : Continuation} (sound : Sound dev s)
    (here : s.phase = .lock next) :
    Advances dev s (({ s with receiveLock := some .server }.emit
      [.callback (callbackArgs s next)]).goto (.callback none 0 next)) := by
  have within : Sound dev (({ s with receiveLock := some .server }.emit
      [.callback (callbackArgs s next)]).goto (.callback none 0 next)) := by
    cases sound with
    | attached base inside =>
        rw [here] at inside
        exact .attached ⟨base.imported, base.types, base.pending⟩ inside
    | detached none empty outside =>
        rw [here] at outside
        refine .detached none empty ?_
        cases next with
        | reset reason => exact outside
        | _ => exact outside.elim
  have positive : ∀ request packet rest,
      next = .isoOut request packet rest → 0 < packet.length.toNat := by
    rintro request packet rest rfl
    exact (sound.isAttached here fun _ _ _ => id).2.2.2.2
  refine .recorded within rfl ?_ rfl rfl
    (callback_step here rfl rfl rfl positive) rfl rfl rfl
  rw [here]
  simp

theorem Continuation.Sound.task {next : Continuation} {made : Nat}
    (written : List Byte) (length : Nat) (here : s.phase = .callback none made next)
    (sound : next.Sound dev s.tickets s.pendingUrbs) :
    (next.task length).Sound dev { s with
        receiveLock := none
        txBuffer := next.fill written s.txBuffer } ∧
      (next.task length).ledger dev { s with
        receiveLock := none
        txBuffer := next.fill written s.txBuffer } = view s := by
  rw [view_at here]
  cases next with
  | control request => exact ⟨sound, rfl⟩
  | receive request => exact ⟨sound.2.2.2, rfl⟩
  | isoOut request packet rest =>
      obtain ⟨handling, isochronous, callback, _⟩ := sound
      refine ⟨⟨handling, isochronous⟩, ?_⟩
      simp only [Continuation.task, Task.ledger, if_pos callback]
      rfl
  | isoIn urb actual packet rest back =>
      obtain ⟨progress, inward⟩ := sound
      have room := progress.room inward
      refine ⟨progress.next ?_ fun _ => ?_, ?_⟩
      · simp only [isoMaxLength]
        omega
      · simp only [isoMaxLength]
        omega
      · cases back <;> rfl
  | reset reason => exact sound.elim

theorem callback_returns {made length : Nat} {next : Continuation}
    {written : List Byte} (sound : Sound dev s)
    (here : s.phase = .callback none made next)
    (ends : Ends dev
      { s with
        receiveLock := none
        txBuffer := next.fill written s.txBuffer } (next.task length) s') :
    Advances dev s s' ∨ Imports dev s s' := by
  cases sound with
  | attached base inside =>
      rw [here] at inside
      obtain ⟨starts, viewed⟩ :=
        Continuation.Sound.task written length here inside
      have free : Attached dev
          { s with
            receiveLock := none
            txBuffer := next.fill written s.txBuffer } :=
        ⟨base.imported, base.types, base.pending⟩
      have leads := ends.leads free starts
      rw [viewed] at leads
      refine .inl (Leads.advances ?_ base.imported (by simp [here]))
      exact leads.from_eq rfl rfl
  | detached none empty outside =>
      rw [here] at outside
      cases next with
      | reset reason =>
          have viewed : view s = Ledger.empty := by
            simp [view, queueOf, empty, here, Phase.hand, Continuation.hand,
              Phase.todo, Ledger.empty]
          exact ends.reset_advances outside none none empty rfl viewed
      | _ => exact outside.elim

theorem callback_advances {start : State} {next : Continuation}
    {posting posting' : Option Call} {made made' : Nat} (sound : Sound dev s)
    (here : s.phase = .callback posting made next)
    (elsewhere : Elsewhere s start) :
    Advances dev s (start.goto (.callback posting' made' next)) := by
  obtain ⟨events, traced, silent⟩ := elsewhere.silent
  refine .silent events ?_ elsewhere.deviceImported (by simp [here]) ?_ ?_ ?_
    traced silent
  · cases sound with
    | attached base inside =>
        rw [here, ← elsewhere.tickets, ← elsewhere.pendingUrbs] at inside
        exact .attached ((elsewhere.attached base).goto _) inside
    | detached none empty outside =>
        rw [here, ← elsewhere.endpoints, ← elsewhere.waitTimeoutUs,
          ← elsewhere.tcpip] at outside
        refine .detached (elsewhere.deviceImported.trans none)
          (elsewhere.pendingUrbs.trans empty) ?_
        cases next with
        | reset reason => exact outside
        | _ => exact outside.elim
  · exact congrArg Tcpip.sent elsewhere.tcpip
  · exact congrArg Tcpip.reads elsewhere.tcpip
  · simp only [view, queueOf, State.goto, here, elsewhere.pendingUrbs,
      elsewhere.rxBuffer]
    cases next <;> rfl

theorem submit_handles {tcpip : Tcpip} {command : SubmitCommand}
    (base : Attached dev s)
    (received : receiveCommand s.endpoints s.tcpip =
      .command tcpip (.submit command))
    (plain : isIsochronous s.endpoints command.header = false)
    (ends : Ends dev (s.taking tcpip command)
      (.submit ⟨s.tickets, command⟩) s') : Handles dev s s' := by
  obtain ⟨ready, handling, loaded, newest⟩ := base.taking received
  have kind : Request.isochronous dev ⟨s.tickets, command⟩ = false :=
    (base.types.isIsochronous _).symm.trans plain
  have stepped := @Ledger.Step.submit dev (queueOf s) ⟨s.tickets, command⟩
    newest
  rw [Request.accepted, kind] at stepped
  exact (ends.leads ready ⟨handling, loaded, kind⟩).handles received rfl rfl
    stepped rfl rfl rfl

theorem submitIso_handles {tcpip : Tcpip} {command : SubmitCommand}
    (base : Attached dev s)
    (received : receiveCommand s.endpoints s.tcpip =
      .command tcpip (.submit command))
    (paced : isIsochronous s.endpoints command.header = true)
    (ends : Ends dev (s.taking tcpip command)
      (.deliver ⟨s.tickets, command⟩
        (Request.outPackets ⟨s.tickets, command⟩)) s') : Handles dev s s' := by
  obtain ⟨ready, handling, loaded, newest⟩ := base.taking received
  have kind : Request.isochronous dev ⟨s.tickets, command⟩ = true :=
    (base.types.isIsochronous _).symm.trans paced
  have due : packetsDue (s.rxBuffer.write 0 command.payload)
      ⟨s.tickets, command⟩ (Request.outPackets ⟨s.tickets, command⟩) =
      Request.deliveries dev ⟨s.tickets, command⟩ := by
    by_cases outward : Request.direction ⟨s.tickets, command⟩ = 0
    · rw [Request.outPackets, if_pos outward,
        packetsDue_isoPackets handling loaded kind outward]
    · simp [Request.outPackets, Request.deliveries, outward, packetsDue]
  have stepped := @Ledger.Step.submit dev (queueOf s) ⟨s.tickets, command⟩
    newest
  rw [Request.accepted, kind, ← due] at stepped
  exact (ends.leads ready ⟨handling, kind⟩).handles received rfl rfl stepped
    rfl rfl rfl

theorem Transition.handles (base : Attached dev s)
    (moved : Transition dev s (.wait true) s') : Handles dev s s' := by
  have ready : ∀ tcpip command, Attached dev (s.unlinking tcpip command) :=
    fun _ _ => ⟨base.imported, base.types, base.pending⟩
  cases moved with
  | fails tcpip rx here imported running received =>
      have output := receiveCommand_keepsOutput s.endpoints s.tcpip
      rw [received] at output
      refine ⟨.attached ((base.receive _ _).goto _) trivial, [], ?_, .nil, ?_,
        by simp, .failure received rfl rfl⟩
      · simp
      · intro _
        simpa using output.1
  | submits tcpip command here imported running received plain ends =>
      exact submit_handles base received plain ends
  | submitsIso tcpip command here imported running received paced ends =>
      exact submitIso_handles base received paced ends
  | misses tcpip command here imported running received absent =>
      exact (missed_leads (ready tcpip command) absent).handles received rfl rfl
        .unlink rfl rfl rfl
  | cancels tcpip command index urb here imported running received found filed =>
      exact (cancelled_leads (ready tcpip command) found filed).handles received
        rfl rfl .unlink rfl rfl rfl

theorem Leads.onwards {phase : Phase} (here : s.phase = phase)
    (imported : s.deviceImported = true) (live : phase ≠ .clearEvent false)
    (leads : Leads dev ⟨queueOf s, phase.hand, phase.todo s.rxBuffer⟩ s s') :
    Advances dev s s' ∨ Imports dev s s' := by
  rw [← view_at here] at leads
  exact .inl (leads.advances imported (by rw [here]; exact live))

theorem Sound.attached_of (sound : Sound dev s)
    (imported : s.deviceImported = true) : Attached dev s := by
  cases sound with
  | attached base => exact base
  | detached none =>
      rw [none] at imported
      contradiction

theorem Transition.advances {label : Label} (sound : Sound dev s)
    (moved : Transition dev s label s') :
    Advances dev s s' ∨ Imports dev s s' := by
  have elsewhere : label.isThread = true → Advances dev s s' :=
    fun kind => (moved.elsewhere kind).advances sound
  have handles : label = .wait true → s.deviceImported = true →
      Handles dev s s' := by
    rintro rfl imported
    exact moved.handles (sound.attached_of imported)
  cases moved with
  | accepts reads writes here =>
      obtain ⟨none, empty, _⟩ := sound.isDetached here fun _ _ => id
      left
      refine .outside [] (.detached none empty rfl) none (by simp)
        ?_
      rw [view_at here]
      exact .nil
  | leaves clock here =>
      left
      have plain : view (s.goto .stop) = view s := by
        rcases here with here | here <;> rw [view_at here] <;> rfl
      refine .silent [] ?_ rfl ?_ rfl rfl plain (by simp) (by simp)
      · cases sound with
        | attached base => exact .attached (base.goto .stop) trivial
        | detached none empty => exact .detached none empty trivial
      · rcases here with here | here <;> simp [here]
  | refuses clock tcpip here running none =>
      left
      have empty : s.pendingUrbs = [] := by
        cases sound with
        | attached base => exact absurd base.imported (by simp [none])
        | detached _ empty => exact empty
      refine .outside [] (.detached none empty trivial) none
        (by simp) ?_
      rw [view_at here]
      exact .nil
  | imports clock tcpip here running none output =>
      left
      cases sound with
      | attached base => exact absurd base.imported (by simp [none])
      | detached _ empty outside =>
          rw [here] at outside
          refine .outside [] (.detached none rfl ⟨rfl, rfl, ?_⟩) none
            (by simp [startImport]) ?_
          · exact output.1.trans outside
          · rw [view_at here, queueOf, empty]
            exact .nil
  | idles here imported =>
      left
      have base := sound.attached_of imported
      refine .silent [] (.attached (base.goto _) trivial) rfl ?_ rfl rfl ?_ ?_ ?_
      · simp [here]
      · rw [view_at here]
        rfl
      · simp
      · simp
  | fails _ _ here imported | submits _ _ here imported
  | submitsIso _ _ here imported | misses _ _ here imported
  | cancels _ _ _ _ here imported =>
      exact .inl ((handles rfl imported).advances imported here)
  | controlAnswers _ _ _ here | controlCalls _ _ here =>
      obtain ⟨base, sure⟩ := sound.isAttached here fun _ _ _ => id
      refine .inl (.recorded (.attached ⟨base.imported, base.types,
        base.pending⟩ sure) rfl (by simp [here]) rfl rfl ?_ rfl rfl rfl)
      rw [view_at here]
      exact .silent rfl
  | controls clock request supported here action ends =>
      obtain ⟨base, sure⟩ := sound.isAttached here fun _ _ _ => id
      have begun : Attached dev (s.controlled request) :=
        ⟨base.imported, base.types, base.pending⟩
      refine Leads.onwards here base.imported (by simp) ?_
      exact (ends.leads begun sure).silently rfl rfl (by simp [Event.isSilent])
  | @answers _ device _ events clock request data here ran ends =>
      obtain ⟨base, sure⟩ := sound.isAttached here fun _ _ _ => id
      have elsewhere : Elsewhere s
          ({ s with calls := s.calls + 1, device := device }.emit
            (.entered (newCall s 0 data) :: events)) := ran.started rfl
      obtain ⟨events, traced, silent⟩ := elsewhere.silent
      refine Leads.onwards here base.imported (by simp) ?_
      exact (ends.leads (elsewhere.attached base) sure).silently traced rfl
        silent
  | takesAnswer clock request supported here =>
      obtain ⟨base, sure⟩ := sound.isAttached here fun _ _ _ => id
      refine Leads.onwards here base.imported (by simp) ?_
      exact .arrived (.attached ⟨base.imported, base.types, base.pending⟩ sure)
        rfl rfl rfl
  | fetches clock request supported answered handled here =>
      obtain ⟨base, _⟩ := sound.isAttached here fun _ _ _ => id
      refine Leads.onwards here base.imported (by simp) ?_
      have fetching : Attached dev
          { s.fetching 0 request.transferBufferLength.toNat with
            txBuffer := s.txBuffer.write 0 (s.device.usbipDeviceFetchEpData 0
              request.transferBufferLength.toNat).1 } :=
        ⟨base.imported, base.types, base.pending⟩
      exact (controlReply_leads fetching (fetched_short _ _ _)).silently rfl rfl
        (by simp [Event.isSilent])
  | schedules clock request here room =>
      obtain ⟨base, handling, isochronous⟩ :=
        sound.isAttached here fun _ _ _ => id
      refine Leads.onwards here base.imported (by simp) ?_
      have scheduled : Attached dev
          { s with endpoints := s.isoEndpoints request clock } :=
        ⟨base.imported, base.types.set _ _ _ rfl, base.pending⟩
      exact (queued_leads scheduled
        (Request.isoUrb_sound handling isochronous)).from_eq rfl rfl
  | overflows clock request here full ends =>
      obtain ⟨base, handling, isochronous⟩ :=
        sound.isAttached here fun _ _ _ => id
      refine Leads.onwards here base.imported (by simp) ?_
      have scheduled : Attached dev
          { s with endpoints := s.isoEndpoints request clock } :=
        ⟨base.imported, base.types.set _ _ _ rfl, base.pending⟩
      have started : IsoProgress s.tickets s.pendingUrbs
          (s.isoUrb request clock) [] (s.isoUrb request clock).packets
          .command :=
        ⟨Request.isoUrb_sound handling isochronous, rfl, rfl, by simp, by simp,
          by simp, trivial⟩
      exact (ends.leads scheduled started).from_eq rfl rfl
  | enters clock next here => exact .inl (callback_enters sound here)
  | posts clock call made next here =>
      have elsewhere : Elsewhere s ({ s with
          device := s.device.writeEvent }.emit [.returned call true]) :=
        ⟨rfl, fun _ => rfl, rfl, [.returned call true], rfl,
          by simp [Event.isTransmit]⟩
      exact .inl (callback_advances sound here elsewhere)
  | starts _ here | skips _ _ _ _ here =>
      obtain ⟨base, _⟩ := sound.isAttached here fun _ _ _ => id
      refine .inl (.recorded (.attached ⟨base.imported, base.types,
        base.pending⟩ trivial) rfl (by simp [here]) rfl rfl ?_ rfl rfl rfl)
      rw [view_at here]
      exact .silent rfl
  | loses clock here =>
      refine .inl (.outside [.lost] (.detached rfl rfl trivial) rfl rfl ?_)
      rw [view_at here]
      exact .single .lost
  | ends clock now index here =>
      obtain ⟨base, _⟩ := sound.isAttached here fun _ _ _ => id
      refine Leads.onwards here base.imported (by simp) ?_
      exact .arrived (.attached (base.goto _) trivial) rfl rfl rfl
  | later clock now index urb here =>
      obtain ⟨base, _⟩ := sound.isAttached here fun _ _ _ => id
      refine Leads.onwards here base.imported (by simp) ?_
      exact .arrived (.attached ⟨base.imported, base.types, base.pending⟩
        trivial) rfl rfl rfl
  | collects clock now index urb here filed isochronous due ends =>
      obtain ⟨base, _⟩ := sound.isAttached here fun _ _ _ => id
      have started : IsoProgress s.tickets s.pendingUrbs urb [] urb.packets
          (.pass now index) :=
        ⟨base.pending urb (List.mem_of_getElem? filed), isochronous, rfl,
          by simp, by simp, by simp, filed⟩
      refine Leads.onwards here base.imported (by simp) ?_
      exact ends.leads base started
  | completes clock now index urb tcpip here filed plain due something written =>
      obtain ⟨base, _⟩ := sound.isAttached here fun _ _ _ => id
      refine Leads.onwards here base.imported (by simp) ?_
      exact dataReply_leads base filed plain something written
  | breaks clock now index urb tcpip here filed plain due something written =>
      obtain ⟨base, _⟩ := sound.isAttached here fun _ _ _ => id
      refine Leads.onwards here base.imported (by simp) ?_
      have broken := @broken_leads dev
        { s.fetching urb.ep.toUInt8 urb.transferBufferLength.toNat with
          txBuffer := s.txBuffer.write 0 (s.available urb)
          endpoints := s.endpoints.setNextPoll urb.number
            (now + (s.endpoints true urb.number).intervalUs) } (queueOf s) _
        tcpip written
      exact broken.silently rfl rfl (by simp [Event.isSilent])
  | resets clock reason here =>
      obtain ⟨none, empty, resetting⟩ := sound.isDetached here fun _ _ => id
      refine .inl (.outside [.reset] (.detached none empty resetting) none rfl
        ?_)
      rw [view_at here]
      exact .single (.silent rfl)
  | resetCalls clock reason here =>
      obtain ⟨none, empty, resetting⟩ := sound.isDetached here fun _ _ => id
      refine .inl (.outside [] (.detached none empty resetting) none
        (by simp) ?_)
      rw [view_at here]
      exact .nil
  | resetEnds clock reason here uncalled ends =>
      obtain ⟨none, empty, resetting⟩ := sound.isDetached here fun _ _ => id
      have viewed : view s = Ledger.empty := by
        simp [view, queueOf, empty, here, Phase.hand, Phase.todo, Ledger.empty]
      exact ends.reset_advances resetting none none empty rfl viewed
  | stops clock here =>
      refine .inl (.recorded ?_ rfl (by simp [here]) rfl rfl ?_ rfl rfl rfl)
      · cases sound with
        | attached base =>
            exact .attached ⟨base.imported, base.types, base.pending⟩ trivial
        | detached none empty => exact .detached none empty trivial
      · rw [view_at here]
        exact .silent rfl
  | callbackTransmits ep data made next here ran =>
      exact .inl (callback_advances sound here (ran.started rfl))
  | returns written length made next here fits ends =>
      exact callback_returns sound here ends
  | transmits | wakes | threadPosts | locks | unlocks =>
      exact .inl (elsewhere rfl)
  | interrupts =>
      left
      refine .silent [] ?_ rfl id rfl rfl rfl (by simp) (by simp)
      cases sound with
      | attached base inside =>
          exact .attached ⟨base.imported, base.types, base.pending⟩ inside
      | detached none empty outside => exact .detached none empty outside

theorem step_moves {label : Label} (sound : Sound dev s)
    (stepped : step dev s label = some s') :
    Advances dev s s' ∨ Imports dev s s' :=
  (step_transition stepped).advances sound

/-- The history since the last import is a run of the ledger, its replies are
what was sent, and it goes on while the session lives. -/
structure Tracked (dev : UsbipDevice) (s : State) : Prop where
  sound : Sound dev s
  ledger : Ledger.Run dev s.session (view s)
  wire : s.deviceImported = true →
    Event.writeFailed ∉ s.session →
    s.tcpip.sent = importReply dev ++
      s.session.flatMap Event.wire
  goesOn : s.Live → ∀ event ∈ s.session,
    event.goesOn = true

theorem Ledger.Step.not_imported {ledger next : Ledger} {event : Event}
    (stepped : Ledger.Step dev ledger event next) :
    event.isImported = false := by
  cases stepped with
  | silent apart => cases event <;> simp_all [Event.isSilent, Event.isImported]
  | _ => rfl

theorem Ledger.steps_not_imported {ledger next : Ledger}
    {events : List Event}
    (steps : Steps (Ledger.Step dev) ledger events next) :
    ∀ event ∈ events, event.isImported = false := by
  induction steps with
  | nil => simp
  | cons stepped later induction =>
      intro event member
      rcases List.mem_cons.mp member with rfl | member
      · exact stepped.not_imported
      · exact induction event member

theorem Ledger.steps_session {ledger next : Ledger} {events : List Event}
    (steps : Steps (Ledger.Step dev) ledger events next)
    (traced : s'.trace = s.trace ++ events) :
    s'.session = s.session ++ events := by
  rw [State.session, traced]
  exact since_append _ _ _ (Ledger.steps_not_imported steps)

theorem Imports.session (imports : Imports dev s s') : s'.session = [] := by
  rw [State.session, imports.trace, since_concat]
  rfl

theorem Advances.tracked (advances : Advances dev s s')
    (earlier : Tracked dev s) : Tracked dev s' := by
  obtain ⟨sound, events, traced, steps, wired, live, _⟩ := advances
  have extended := Ledger.steps_session steps traced
  refine ⟨sound, ?_, ?_, ?_⟩
  · rw [extended]
    exact earlier.ledger.append steps
  · intro imported written
    obtain ⟨before, sent⟩ := wired imported
    rw [extended] at written ⊢
    rw [sent fun failed => written (List.mem_append_right _ failed),
      earlier.wire before fun failed =>
        written (List.mem_append_left _ failed),
      List.flatMap_append, List.append_assoc]
  · intro alive event member
    obtain ⟨before, goesOn⟩ := live alive
    rw [extended] at member
    rcases List.mem_append.mp member with member | member
    · exact earlier.goesOn before event member
    · exact goesOn event member

theorem Imports.tracked (imports : Imports dev s s') : Tracked dev s' := by
  have fresh := imports.session
  obtain ⟨_, sound, _, viewed, sent⟩ := imports
  refine ⟨sound, ?_, ?_, ?_⟩
  · rw [fresh, viewed]
    exact .nil
  · intro _ _
    simp [fresh, sent]
  · intro _
    simp [fresh]

/-- A step extends the history of the session or starts a new session. -/
theorem step_session {label : Label} (sound : Sound dev s)
    (stepped : step dev s label = some s') :
    s'.session = [] ∨ ∃ events, s'.trace = s.trace ++ events ∧
      s'.session = s.session ++ events := by
  rcases step_moves sound stepped with advances | imports
  · obtain ⟨_, events, traced, steps, _⟩ := advances
    exact .inr ⟨events, traced, Ledger.steps_session steps traced⟩
  · exact .inl imports.session

theorem reachable_tracked (reachable : Reachable dev s) : Tracked dev s := by
  refine reachable.invariant ?_ ?_
  · refine ⟨.detached rfl rfl trivial, .nil, ?_, ?_⟩
    · simp [initial]
    · intro alive
      simp [initial, State.Live] at alive
  · intro state label next _ earlier _ stepped
    rcases step_moves earlier.sound stepped with advances | imports
    · exact advances.tracked earlier
    · exact imports.tracked

end

end UsbipServer
