import UsbipServer.Refine.Commands

namespace UsbipServer

open Wire Library

/-! Steps of other threads, and the transmits of callbacks, happen outside the
session. -/

def Event.isTransmit : Event → Bool
  | .entered _ => true
  | .stored _ => true
  | .returned _ _ => true
  | _ => false

theorem Event.isSilent_of_transmit {event : Event}
    (transmit : event.isTransmit = true) : event.isSilent = true := by
  cases event <;> first | rfl | simp [Event.isTransmit] at transmit

structure Elsewhere (s s' : State) : Prop where
  rest : s' = { s with
    device := s'.device
    receiveLock := s'.receiveLock
    threads := s'.threads
    calls := s'.calls
    trace := s'.trace }
  event : s.device.eventFd = true → s'.device.eventFd = true
  stopped : s'.device.deviceStopped = s.device.deviceStopped
  trace : ∃ events, s'.trace = s.trace ++ events ∧
    ∀ event ∈ events, event.isTransmit = true

theorem Elsewhere.silent {s s' : State} (elsewhere : Elsewhere s s') :
    ∃ events, s'.trace = s.trace ++ events ∧
      ∀ event ∈ events, event.isSilent = true := by
  obtain ⟨events, traced, transmit⟩ := elsewhere.trace
  refine ⟨events, traced, ?_⟩
  intro event member
  exact Event.isSilent_of_transmit (transmit event member)

theorem storedEvents_transmit (call : Call) :
    ∀ event ∈ storedEvents call, event.isTransmit = true := by
  unfold storedEvents
  split
  · simp [Event.isTransmit]
  · simp [Event.isTransmit]

theorem Section.flags {mayWait : Bool} {device device' : DeviceState}
    {call : Call} {phase : CallPhase} {events : List Event}
    (ran : Section mayWait device call device' phase events) :
    device'.eventFd = device.eventFd ∧
      device'.deviceStopped = device.deviceStopped ∧
      ∀ event ∈ events, event.isTransmit = true := by
  cases ran with
  | waiting => exact ⟨rfl, rfl, by simp⟩
  | stored => exact ⟨rfl, rfl, storedEvents_transmit call⟩
  | dropped => exact ⟨rfl, rfl, by simp [Event.isTransmit]⟩

theorem Section.transmits {mayWait : Bool} {device device' : DeviceState}
    {call : Call} {phase : CallPhase} {events : List Event}
    (ran : Section mayWait device call device' phase events) :
    ∀ event ∈ .entered call :: events, event.isTransmit = true := by
  intro event member
  rcases List.mem_cons.mp member with rfl | member
  · rfl
  · exact ran.flags.2.2 event member

theorem Section.started {s s' : State} {mayWait : Bool} {device : DeviceState}
    {call : Call} {phase : CallPhase} {events : List Event}
    (ran : Section mayWait s.device call device phase events)
    (rest : s' = { s with
      device := device
      threads := s'.threads
      calls := s'.calls
      trace := s.trace ++ .entered call :: events }) : Elsewhere s s' := by
  obtain ⟨event, stopped, _⟩ := ran.flags
  rw [rest]
  exact ⟨rfl, event.trans, stopped, _, rfl, ran.transmits⟩

namespace Elsewhere

variable {dev : UsbipDevice} {s s' : State}

theorem tcpip (elsewhere : Elsewhere s s') : s'.tcpip = s.tcpip := by
  rw [elsewhere.rest]

theorem deviceImported (elsewhere : Elsewhere s s') :
    s'.deviceImported = s.deviceImported := by
  rw [elsewhere.rest]

theorem pendingUrbs (elsewhere : Elsewhere s s') :
    s'.pendingUrbs = s.pendingUrbs := by
  rw [elsewhere.rest]

theorem endpoints (elsewhere : Elsewhere s s') : s'.endpoints = s.endpoints := by
  rw [elsewhere.rest]

theorem waitTimeoutUs (elsewhere : Elsewhere s s') :
    s'.waitTimeoutUs = s.waitTimeoutUs := by
  rw [elsewhere.rest]

theorem rxBuffer (elsewhere : Elsewhere s s') : s'.rxBuffer = s.rxBuffer := by
  rw [elsewhere.rest]

theorem phase (elsewhere : Elsewhere s s') : s'.phase = s.phase := by
  rw [elsewhere.rest]

theorem tickets (elsewhere : Elsewhere s s') : s'.tickets = s.tickets := by
  rw [elsewhere.rest]

theorem sound (elsewhere : Elsewhere s s') (earlier : Sound dev s) :
    Sound dev s' := by
  cases earlier with
  | attached base inside =>
      refine .attached ⟨?_, ?_, ?_⟩ ?_
      · rw [elsewhere.deviceImported]
        exact base.imported
      · rw [elsewhere.endpoints]
        exact base.types
      · rw [elsewhere.pendingUrbs, elsewhere.tickets]
        exact base.pending
      · rw [elsewhere.phase, elsewhere.pendingUrbs, elsewhere.tickets]
        exact inside
  | detached none empty outside =>
      refine .detached ?_ ?_ ?_
      · rw [elsewhere.deviceImported]
        exact none
      · rw [elsewhere.pendingUrbs]
        exact empty
      · rw [elsewhere.phase, elsewhere.endpoints, elsewhere.waitTimeoutUs,
          elsewhere.tcpip]
        exact outside

theorem attached (elsewhere : Elsewhere s s') (base : Attached dev s) :
    Attached dev s' := by
  refine ⟨?_, ?_, ?_⟩
  · rw [elsewhere.deviceImported]
    exact base.imported
  · rw [elsewhere.endpoints]
    exact base.types
  · rw [elsewhere.pendingUrbs, elsewhere.tickets]
    exact base.pending

theorem viewed (elsewhere : Elsewhere s s') : view s' = view s := by
  simp only [view, queueOf, elsewhere.pendingUrbs, elsewhere.phase,
    elsewhere.rxBuffer]

end Elsewhere

def Label.isThread : Label → Bool
  | .transmit _ _ _ => true
  | .wake _ => true
  | .post _ => true
  | .enter _ => true
  | .exit _ => true
  | _ => false

theorem Transition.elsewhere {dev : UsbipDevice} {s s' : State}
    {label : Label} (kind : label.isThread = true)
    (moved : Transition dev s label s') : Elsewhere s s' := by
  cases moved with
  | transmits thread ep data idle ran => exact ran.started rfl
  | wakes thread call waiting ran =>
      obtain ⟨event, stopped, transmit⟩ := ran.flags
      exact ⟨rfl, event.trans, stopped, _, rfl, transmit⟩
  | threadPosts thread call stored =>
      exact ⟨rfl, fun _ => rfl, rfl, [.returned call true], rfl,
        by simp [Event.isTransmit]⟩
  | locks | unlocks => exact ⟨rfl, id, rfl, [], by simp, by simp⟩
  | _ => simp [Label.isThread] at kind

theorem threadStep_elsewhere {dev : UsbipDevice} {s s' : State}
    {label : Label} (kind : label.isThread = true)
    (stepped : step dev s label = some s') : Elsewhere s s' :=
  (step_transition stepped).elsewhere kind

section

variable {dev : UsbipDevice} {s : State}

theorem fetched_short (device : DeviceState) (ep : Byte) (length : UInt32) :
    (device.usbipDeviceFetchEpData ep length.toNat).1.length <
      UInt32.size := by
  have bound := length.toNat_lt
  have short := device.fetched_length_le ep length.toNat
  simp only [UInt32.size]
  omega

theorem dataReply_leads {urb : PendingUrb} {now index : Nat} {tcpip : Tcpip}
    (base : Attached dev s) (filed : s.pendingUrbs[index]? = some urb)
    (plain : urb.isochronous = false) (something : s.available urb ≠ [])
    (written : tcpipServerWriteAll s.tcpip (s.dataReply urb).parts =
      (true, tcpip)) :
    Leads dev ⟨queueOf s, none, []⟩ s
      (({ s.fetching urb.ep.toUInt8 urb.transferBufferLength.toNat with
        tcpip := tcpip
        txBuffer := s.txBuffer.write 0 (s.available urb)
        endpoints := s.endpoints.setNextPoll urb.number
          (now + (s.endpoints true urb.number).intervalUs)
        pendingUrbs := s.pendingUrbs.eraseIdx index }.emit
        [.retSubmit (s.dataReply urb)]).goto (.pass now index)) := by
  have sound := base.pending urb (List.mem_of_getElem? filed)
  have formed : (s.dataReply urb).Formed := by
    refine retSubmitReply_formed plain
      (fun _ => .inr ⟨rfl, fetched_short _ _ _⟩) ?_
    intro outward
    exact absurd outward (sound.inward plain)
  have found : (queueOf s)[index]? = some (s.dataReply urb).transfer := by
    simp [queueOf, filed, State.dataReply, retSubmitReply]
  have carried : (s.dataReply urb).data ≠ [] := by
    have told := Buffer.slice_write_self s.txBuffer (s.available urb) 0
    simp only [State.dataReply, retSubmitReply, if_true, told]
    exact something
  have completed := @Ledger.Step.completed dev _ _ _ formed found
    fun _ => carried
  rw [queueOf, List.eraseIdx_map] at completed
  have removed : Attached dev
      { s.fetching urb.ep.toUInt8 urb.transferBufferLength.toNat with
        txBuffer := s.txBuffer.write 0 (s.available urb)
        endpoints := s.endpoints.setNextPoll urb.number
          (now + (s.endpoints true urb.number).intervalUs)
        pendingUrbs := s.pendingUrbs.eraseIdx index } :=
    ⟨base.imported, base.types.set _ _ _ rfl, (base.erase index).pending⟩
  exact (completed_leads removed completed written).silently rfl rfl
    (by simp [Event.isSilent])

end

structure Advances (dev : UsbipDevice) (s s' : State) : Prop where
  sound : Sound dev s'
  progress : ∃ events, s'.trace = s.trace ++ events ∧
    Steps (Ledger.Step dev) (view s) events (view s') ∧
    (s'.deviceImported = true → s.deviceImported = true ∧
      (Event.writeFailed ∉ events →
        s'.tcpip.sent = s.tcpip.sent ++ events.flatMap Event.wire)) ∧
    (s'.Live → s.Live ∧ ∀ event ∈ events, event.goesOn = true) ∧
    (s'.deviceImported = true → Takes s s' events)

def importReply (dev : UsbipDevice) : List Byte :=
  [responseHead opRepImport, deviceId, deviceRecord dev].flatten

structure Imports (dev : UsbipDevice) (s s' : State) : Prop where
  absent : s.deviceImported = false
  sound : Sound dev s'
  trace : s'.trace = s.trace ++ [.imported]
  viewed : view s' = Ledger.empty
  sent : s'.tcpip.sent = importReply dev

section

variable {dev : UsbipDevice} {s s' : State}

theorem Leads.advances (leads : Leads dev (view s) s s')
    (imported : s.deviceImported = true) (live : s.phase ≠ .clearEvent false) :
    Advances dev s s' := by
  obtain ⟨sound, reads, events, traced, steps, wired, goesOn, none⟩ := leads
  refine ⟨sound, events, traced, steps, fun _ => ⟨imported, wired⟩, ?_,
    fun _ => .nothing reads none⟩
  intro alive
  exact ⟨⟨imported, live⟩, goesOn alive⟩

theorem Handles.advances (handles : Handles dev s s')
    (imported : s.deviceImported = true) (here : s.phase = .serve) :
    Advances dev s s' := by
  obtain ⟨sound, events, traced, steps, wired, goesOn, read⟩ := handles
  have viewed : view s = ⟨queueOf s, none, []⟩ := by
    simp [view, here, Phase.hand, Phase.todo]
  rw [← viewed] at steps
  refine ⟨sound, events, traced, steps, fun _ => ⟨imported, wired⟩, ?_,
    fun _ => .reading read⟩
  intro alive
  exact ⟨⟨imported, by simp [here]⟩, goesOn alive⟩

theorem Advances.outside (events : List Event) (sound : Sound dev s')
    (none : s'.deviceImported = false) (traced : s'.trace = s.trace ++ events)
    (steps : Steps (Ledger.Step dev) (view s) events (view s')) :
    Advances dev s s' := by
  refine ⟨sound, events, traced, steps, ?_, ?_, ?_⟩
  · intro imported
    rw [none] at imported
    contradiction
  · intro alive
    have imported := alive.1
    rw [none] at imported
    contradiction
  · intro imported
    rw [none] at imported
    contradiction

theorem Advances.silent (events : List Event) (sound : Sound dev s')
    (imported : s'.deviceImported = s.deviceImported)
    (live : s'.phase ≠ .clearEvent false → s.phase ≠ .clearEvent false)
    (sent : s'.tcpip.sent = s.tcpip.sent)
    (reads : s'.tcpip.reads = s.tcpip.reads) (viewed : view s' = view s)
    (traced : s'.trace = s.trace ++ events)
    (silent : ∀ event ∈ events, event.isSilent = true) :
    Advances dev s s' := by
  have unsent : events.flatMap Event.wire = [] := by
    refine List.flatMap_eq_nil_iff.mpr ?_
    intro event member
    exact Event.wire_of_silent (silent event member)
  refine ⟨sound, events, traced, ?_, ?_, ?_,
    fun _ => .nothing reads (decodedOf_silent silent)⟩
  · rw [viewed]
    exact Ledger.silent_steps silent
  · intro present
    refine ⟨imported ▸ present, ?_⟩
    intro _
    rw [sent, unsent, List.append_nil]
  · intro alive
    refine ⟨⟨imported ▸ alive.1, live alive.2⟩, ?_⟩
    intro event member
    exact Event.goesOn_of_silent (silent event member)

theorem Advances.recorded {event : Event} (sound : Sound dev s')
    (imported : s'.deviceImported = s.deviceImported)
    (live : s.phase ≠ .clearEvent false)
    (tcpip : s'.tcpip = s.tcpip) (traced : s'.trace = s.trace ++ [event])
    (stepped : Ledger.Step dev (view s) event (view s'))
    (unsent : event.wire = []) (goesOn : event.goesOn = true)
    (undecoded : event.decoded = []) : Advances dev s s' := by
  refine ⟨sound, [event], traced, .single stepped, ?_, ?_, ?_⟩
  · intro present
    refine ⟨imported ▸ present, ?_⟩
    intro _
    simp [tcpip, unsent]
  · intro alive
    refine ⟨⟨imported ▸ alive.1, live⟩, ?_⟩
    intro other member
    rw [List.mem_singleton.mp member]
    exact goesOn
  · intro _
    refine .nothing (by rw [tcpip]) ?_
    simpa [decodedOf] using undecoded

theorem Elsewhere.advances (elsewhere : Elsewhere s s')
    (sound : Sound dev s) : Advances dev s s' := by
  obtain ⟨events, traced, silent⟩ := elsewhere.silent
  refine .silent events (elsewhere.sound sound) elsewhere.deviceImported ?_ ?_
    ?_ elsewhere.viewed traced silent
  · rw [elsewhere.phase]
    exact id
  · rw [elsewhere.tcpip]
  · rw [elsewhere.tcpip]

end

end UsbipServer
