import UsbipServer.Refine.Progress

namespace UsbipServer

open Wire Library

/-! What a step can do to the device side: the endpoint buffers, the transmit
calls and the part of the history that is about them. -/

inductive Local (s : State) : State → Prop
  | idle : Local s s
  | flags (device : DeviceState)
      (data : device.endpointData = s.device.endpointData)
      (stopped : device.deviceStopped = s.device.deviceStopped)
      (generation : device.resetGeneration = s.device.resetGeneration) :
      Local s { s with device := device }
  | serverTransmit (ep : Byte) (data : List Byte) {device : DeviceState}
      {phase : CallPhase} {events : List Event}
      (there : Phase) (free : s.phase.posting = none)
      (ran : Section false s.device (newCall s ep data) device phase events)
      (posting : there.posting = phase.posting) :
      Local s (({ s with calls := s.calls + 1, device := device }.emit
        (.entered (newCall s ep data) :: events)).goto there)
  | serverPost (call : Call) (there : Phase)
      (posting : s.phase.posting = some call)
      (free : there.posting = none) :
      Local s (({ s with device := s.device.writeEvent }.emit
        [.returned call true]).goto there)
  | transmit (thread : Nat) (ep : Byte) (data : List Byte)
      {device : DeviceState} {phase : CallPhase} {events : List Event}
      (idle : (s.threads thread).call = .idle)
      (ran : Section (!(s.threads thread).inCriticalSection) s.device
        (newCall s ep data) device phase events) :
      Local s (setCall ({ s with calls := s.calls + 1, device := device }.emit
        (.entered (newCall s ep data) :: events)) thread phase)
  | wake (thread : Nat) (call : Call) {device : DeviceState}
      {phase : CallPhase} {events : List Event}
      (waiting : (s.threads thread).call = .waiting call)
      (ran : Section true s.device call device phase events) :
      Local s (setCall ({ s with device := device }.emit events) thread phase)
  | post (thread : Nat) (call : Call)
      (stored : (s.threads thread).call = .stored call) :
      Local s (setCall ({ s with device := s.device.writeEvent }.emit
        [.returned call true]) thread .idle)
  | critical (threads : Nat → Thread)
      (same : ∀ thread, (threads thread).call = (s.threads thread).call) :
      Local s { s with threads := threads }
  | control (request : Request) (configurationValue : Byte) :
      Local s ({ s with
        device := { s.device.forgetAnswer with
          configurationValue := configurationValue } }.emit
        [.control request])
  | reset :
      Local s ({ s with device := s.device.usbipDeviceReset }.emit [.reset])
  | stop (here : s.phase = .stop) :
      Local s ({ s with device := s.device.usbipDeviceStop }.emit
        [.deviceStopped])

def Event.isDeviceSide : Event → Bool
  | .entered _ => true
  | .stored _ => true
  | .returned _ _ => true
  | .control _ => true
  | .deviceStopped => true
  | _ => false

theorem Section.recorded {mayWait : Bool} {device device' : DeviceState}
    {call : Call} {phase : CallPhase} {events : List Event}
    (ran : Section mayWait device call device' phase events) :
    ∀ event ∈ events, event.isDeviceSide = true := by
  cases ran with
  | waiting => simp
  | stored =>
      unfold storedEvents
      split <;> simp [Event.isDeviceSide]
  | dropped => simp [Event.isDeviceSide]

theorem Local.recorded {s s' : State} (acted : Local s s') :
    ∃ events, s'.trace = s.trace ++ events ∧
      (events = [.reset] ∨ ∀ event ∈ events, event.isDeviceSide = true) := by
  cases acted with
  | idle => exact ⟨[], by simp, .inr (by simp)⟩
  | flags => exact ⟨[], by simp, .inr (by simp)⟩
  | serverTransmit ep data there free ran =>
      refine ⟨_, rfl, .inr ?_⟩
      intro event member
      rcases List.mem_cons.mp member with rfl | member
      · rfl
      · exact ran.recorded event member
  | serverPost => exact ⟨_, rfl, .inr (by simp [Event.isDeviceSide])⟩
  | transmit thread ep data idle ran =>
      refine ⟨_, rfl, .inr ?_⟩
      intro event member
      rcases List.mem_cons.mp member with rfl | member
      · rfl
      · exact ran.recorded event member
  | wake thread call waiting ran => exact ⟨_, rfl, .inr ran.recorded⟩
  | post => exact ⟨_, rfl, .inr (by simp [Event.isDeviceSide])⟩
  | critical => exact ⟨[], by simp, .inr (by simp)⟩
  | control => exact ⟨_, rfl, .inr (by simp [Event.isDeviceSide])⟩
  | reset => exact ⟨_, rfl, .inl rfl⟩
  | stop => exact ⟨_, rfl, .inr (by simp [Event.isDeviceSide])⟩

/-- Who fetches, from which endpoint and for which transfer. -/
inductive FetchSource (s : State) : Byte → Nat → Transfer → Prop
  | control (request : Request) {supported answered : Bool}
      (here : s.phase = .fetchReply request supported answered)
      (control : request.ep = 0) (inward : request.direction = 1) :
      FetchSource s 0 request.transferBufferLength.toNat
        (request.transfer false)
  | pending (now index : Nat) (urb : PendingUrb)
      (here : s.phase = .pass now index)
      (filed : s.pendingUrbs[index]? = some urb)
      (due : (s.endpoints true urb.number).nextPollUs ≤ now)
      (plain : urb.isochronous = false) (data : urb.ep ≠ 0)
      (inward : urb.direction ≠ 0) :
      FetchSource s urb.ep.toUInt8 urb.transferBufferLength.toNat
        urb.toTransfer

namespace FetchSource

variable {s : State} {ep : Byte} {length : Nat} {transfer : Transfer}

theorem plain (source : FetchSource s ep length transfer) :
    transfer.isochronous = false := by
  cases source with
  | control => rfl
  | pending now index urb here filed due plain => exact plain

theorem inward (source : FetchSource s ep length transfer) :
    transfer.direction ≠ 0 := by
  cases source with
  | control request here control inward =>
      have asked : (request.transfer false).direction = 1 := inward
      rw [asked]
      decide
  | pending now index urb here filed due plain data inward => exact inward

theorem number (source : FetchSource s ep length transfer) :
    transfer.number = epMasked ep := by
  cases source with
  | control request here control =>
      simp [Transfer.number, Request.transfer, control, endpointNumber,
        epMasked]
  | pending now index urb => exact (epMasked_toUInt8 urb.ep).symm

end FetchSource

/-- A fetch, followed by the reply that carries what was fetched, or by nothing
that carries data. -/
structure Fetches (s s' : State) : Prop where
  before : s.phase.posting = none
  after : s'.phase.posting = none
  threads : s'.threads = s.threads
  calls : s'.calls = s.calls
  fetch : ∃ ep length transfer events, FetchSource s ep length transfer ∧
    s'.device = (s.device.usbipDeviceFetchEpData ep length).2 ∧
    s'.trace = s.trace ++ .fetched (epMasked ep)
      (s.device.usbipDeviceFetchEpData ep length).1 :: events ∧
    ((∃ reply, events = [.retSubmit reply] ∧
        reply.data = (s.device.usbipDeviceFetchEpData ep length).1 ∧
        reply.transfer = transfer) ∨
      (∀ event ∈ events, event.isQuiet = true) ∧
        (epMasked ep = 0 ∨
          (s.device.usbipDeviceFetchEpData ep length).1 = [] ∨
          Event.writeFailed ∈ events))

theorem update_call {threads : Nat → Thread} {thread : Nat}
    (idle : (threads thread).call = .idle) (critical : Bool) (other : Nat) :
    (Function.update threads thread ⟨critical, .idle⟩ other).call =
      (threads other).call := by
  by_cases same : other = thread
  · subst same
    simp [idle]
  · rw [Function.update_of_ne same]

/-- Something happens on the device side, then something away from it. -/
def Moves (s s' : State) : Prop :=
  ∃ middle, Local s middle ∧ Apart middle s' ∧
    s'.phase.posting = middle.phase.posting

def Acts (s s' : State) : Prop := Moves s s' ∨ Fetches s s'

theorem Local.moves {s middle s' : State} (performed : Local s middle)
    (apart : Apart middle s')
    (phase : middle.phase.posting = none ∨ s'.phase = middle.phase) :
    Moves s s' := by
  refine ⟨middle, performed, apart, ?_⟩
  rcases phase with free | same
  · rcases apart.phase with alsoFree | same
    · rw [free, alsoFree]
    · rw [same]
  · rw [same]

theorem Apart.moves {s s' : State} (apart : Apart s s')
    (phase : s.phase.posting = none ∨ s'.phase = s.phase) : Moves s s' :=
  Local.moves .idle apart phase

section

variable {dev : UsbipDevice} {s s' : State}

/-- Whether the server thread fetches data, or would if the transfer were
due. -/
def State.fetches (s : State) : Label → Bool
  | .server _ =>
      match s.phase with
      | .fetchReply _ _ _ => true
      | .pass _ index => s.pendingUrbs[index]?.any fun urb => !urb.isochronous
      | _ => false
  | _ => false

theorem Transition.moves {label : Label} (sound : Sound dev s)
    (unfetched : s.fetches label = false)
    (moved : Transition dev s label s') : Moves s s' := by
  cases moved with
  | accepts _ _ here | refuses _ _ here | imports _ _ here | idles here
  | fails _ _ here | ends _ _ _ here | later _ _ _ _ here =>
      refine Apart.moves (.same rfl rfl rfl rfl (.inl rfl)) (.inl ?_)
      rw [here]
      rfl
  | leaves clock here =>
      refine Apart.moves (.same rfl rfl rfl rfl (.inl rfl)) (.inl ?_)
      rcases here with here | here <;> rw [here] <;> rfl
  | submits tcpip command here imported running received plain ends =>
      refine Apart.moves (Apart.trans ?_ (ends.apart trivial)) (.inl ?_)
      · exact .event rfl rfl rfl rfl rfl (.inr rfl)
      · rw [here]
        rfl
  | submitsIso tcpip command here imported running received paced ends =>
      refine Apart.moves (Apart.trans ?_ (ends.apart trivial)) (.inl ?_)
      · exact .event rfl rfl rfl rfl rfl (.inr rfl)
      · rw [here]
        rfl
  | misses _ _ here | cancels _ _ _ _ here =>
      have read : ∀ start reply, Apart s start →
          Apart s (sendUnlinkReply reply start) := by
        intro start reply earlier
        refine earlier.trans (.event rfl rfl rfl rfl ?_ (.inl rfl))
        split <;> rfl
      refine Apart.moves (read _ _ ?_) (.inl ?_)
      · exact .event rfl rfl rfl rfl rfl (.inr rfl)
      · rw [here]
        rfl
  | controlAnswers _ _ _ here | controlCalls _ _ here =>
      refine Local.moves (.control _ _) (.same rfl rfl rfl rfl (.inl rfl))
        (.inl ?_)
      simp [here, Phase.posting]
  | controls clock request supported here action ends =>
      refine Local.moves (.control _ _) (ends.apart trivial) (.inl ?_)
      simp [here, Phase.posting]
  | answers clock request data here ran ends =>
      have free : s.phase.posting = none := by simp [here, Phase.posting]
      refine Local.moves (.serverTransmit 0 data s.phase free ran ?_)
        (ends.apart trivial) (.inl free)
      rw [free]
      exact (ran.control_settled rfl).symm
  | takesAnswer clock request supported here =>
      refine Local.moves (.flags s.device.takeAnswered.2 rfl rfl rfl)
        (.same rfl rfl rfl rfl (.inl rfl)) (.inl ?_)
      simp [here, Phase.posting]
  | fetches clock request supported answered handled here =>
      simp [State.fetches, here] at unfetched
  | schedules _ _ here | enters _ _ here =>
      refine Apart.moves (.event rfl rfl rfl rfl rfl (.inl rfl)) (.inl ?_)
      rw [here]
      rfl
  | overflows clock request here full ends =>
      refine Apart.moves (Apart.trans ?_ (ends.apart rfl)) (.inl ?_)
      · exact .same rfl rfl rfl rfl (.inr rfl)
      · rw [here]
        rfl
  | posts clock call made next here =>
      refine Local.moves (.serverPost call (.callback none made next) ?_ rfl)
        (.refl _) (.inl rfl)
      simp [here, Phase.posting]
  | starts _ here | loses _ here =>
      refine Local.moves (.flags s.device.usbipDeviceClearEvent rfl rfl rfl)
        (.event rfl rfl rfl rfl rfl (.inl rfl)) (.inl ?_)
      simp [here, Phase.posting]
  | collects clock now index urb here filed isochronous due ends =>
      refine Apart.moves (ends.apart isochronous) (.inl ?_)
      rw [here]
      rfl
  | skips _ _ _ _ here filed plain =>
      simp [State.fetches, here, filed, plain] at unfetched
  | completes _ _ _ _ _ here filed plain | breaks _ _ _ _ _ here filed plain =>
      simp [State.fetches, here, filed, plain] at unfetched
  | resets clock reason here =>
      refine Local.moves .reset (.same rfl rfl rfl rfl (.inl rfl)) (.inl ?_)
      simp [here, Phase.posting]
  | resetCalls clock reason here =>
      refine Local.moves (.flags s.device.usbipDeviceClearEvent rfl rfl rfl)
        (.same rfl rfl rfl rfl (.inl rfl)) (.inl ?_)
      simp [here, Phase.posting]
  | resetEnds clock reason here uncalled ends =>
      refine Local.moves (.flags s.device.usbipDeviceClearEvent rfl rfl rfl)
        (ends.apart trivial) (.inl ?_)
      simp [here, Phase.posting]
  | stops clock here =>
      refine Local.moves (.stop here) (.same rfl rfl rfl rfl (.inl rfl))
        (.inl ?_)
      simp [here, Phase.posting]
  | callbackTransmits ep data made next here ran =>
      have free : s.phase.posting = none := by simp [here, Phase.posting]
      exact Local.moves (.serverTransmit ep data _ free ran rfl)
        (.refl _) (.inr rfl)
  | returns written length made next here fits ends =>
      have paced : (next.task length).paced := by
        cases next with
        | isoIn urb actual packet rest back =>
            exact (sound.isAttached here fun _ _ _ => id).2.1.isochronous
        | _ => trivial
      refine Apart.moves (Apart.trans ?_ (ends.apart paced)) (.inl ?_)
      · exact .same rfl rfl rfl rfl (.inr rfl)
      · rw [here]
        rfl
  | transmits thread ep data idle ran =>
      exact Local.moves (.transmit thread ep data idle ran) (.refl _) (.inr rfl)
  | wakes thread call waiting ran =>
      exact Local.moves (.wake thread call waiting ran) (.refl _) (.inr rfl)
  | threadPosts thread call stored =>
      exact Local.moves (.post thread call stored) (.refl _) (.inr rfl)
  | locks thread free idle =>
      refine Local.moves (.critical
        (Function.update s.threads thread ⟨true, .idle⟩) ?_)
        (.same rfl rfl rfl rfl (.inr rfl)) (.inr rfl)
      exact update_call idle true
  | unlocks thread held idle =>
      refine Local.moves (.critical
        (Function.update s.threads thread ⟨false, .idle⟩) ?_)
        (.same rfl rfl rfl rfl (.inr rfl)) (.inr rfl)
      exact update_call idle false
  | interrupts =>
      exact Apart.moves (.same rfl rfl rfl rfl (.inr rfl)) (.inr rfl)

theorem Request.control_carries (request : Request) (handled : Bool)
    (data : List Cell) (txBuffer : Buffer Cell)
    (inward : request.direction = 1) :
    (retSubmitReply (request.transfer false) (Request.controlStatus handled)
        (request.controlLength handled data.length)
        (request.controlSends handled) (txBuffer.write 0 data)).data =
      if handled then data else [] := by
  have outward : request.direction ≠ 0 := by
    rw [inward]
    decide
  cases handled with
  | false => simp [retSubmitReply, Request.controlSends]
  | true =>
      simpa [retSubmitReply, Request.controlSends, Request.controlLength,
        outward] using Buffer.slice_write_self txBuffer data 0

theorem finishSubmit_traced (request : Request) (urbStatus : UInt32)
    (actualLength : Nat) (sendData : Bool) (s : State) :
    ∃ event, (finishSubmit request urbStatus actualLength sendData s).trace =
        s.trace ++ [event] ∧
      (event = .writeFailed ∨ event = .retSubmit (retSubmitReply
        (request.transfer false) urbStatus actualLength sendData
        s.txBuffer)) := by
  refine ⟨_, rfl, ?_⟩
  split
  · exact .inr rfl
  · exact .inl rfl

theorem Transition.acts {label : Label} (sound : Sound dev s)
    (moved : Transition dev s label s') : Acts s s' := by
  cases fetching : s.fetches label with
  | false => exact .inl (moved.moves sound fetching)
  | true =>
      cases moved with
      | fetches clock request supported answered handled here =>
          obtain ⟨_, _, control, inward⟩ := sound.isAttached here fun _ _ _ => id
          have carries := request.control_carries handled
            (s.device.usbipDeviceFetchEpData 0
              request.transferBufferLength.toNat).1 s.txBuffer inward
          obtain ⟨event, traced, told⟩ := finishSubmit_traced request
            (Request.controlStatus handled) _ (request.controlSends handled) _
          refine .inr ⟨by simp [here, Phase.posting], rfl, rfl, rfl, 0,
            request.transferBufferLength.toNat, _, [event],
            .control request here control inward, rfl,
            traced.trans (List.append_assoc _ _ _), ?_⟩
          rcases told with rfl | rfl
          · exact .inr ⟨by simp [Event.isQuiet, Event.isSession], .inl rfl⟩
          · cases handled with
            | true => exact .inl ⟨_, rfl, carries, rfl⟩
            | false =>
                refine .inr ⟨?_, .inl rfl⟩
                simpa [Event.isQuiet] using .inr carries
      | skips clock now index urb here filed plain due nothing =>
          obtain ⟨base, _⟩ := sound.isAttached here fun _ _ _ => id
          have known := base.pending urb (List.mem_of_getElem? filed)
          exact .inr ⟨by simp [here, Phase.posting], rfl, rfl, rfl,
            urb.ep.toUInt8, urb.transferBufferLength.toNat, _, [],
            .pending now index urb here filed due plain known.data
              (known.inward plain), rfl, rfl,
            .inr ⟨by simp, .inr (.inl nothing)⟩⟩
      | completes clock now index urb tcpip here filed plain due =>
          obtain ⟨base, _⟩ := sound.isAttached here fun _ _ _ => id
          have known := base.pending urb (List.mem_of_getElem? filed)
          refine .inr ⟨by simp [here, Phase.posting], rfl, rfl, rfl,
            urb.ep.toUInt8, urb.transferBufferLength.toNat, _,
            [.retSubmit (s.dataReply urb)],
            .pending now index urb here filed due plain known.data
              (known.inward plain), rfl, ?_,
            .inl ⟨_, rfl, s.dataReply_data urb, rfl⟩⟩
          exact List.append_assoc _ _ _
      | breaks clock now index urb tcpip here filed plain due =>
          obtain ⟨base, _⟩ := sound.isAttached here fun _ _ _ => id
          have known := base.pending urb (List.mem_of_getElem? filed)
          refine .inr ⟨by simp [here, Phase.posting], rfl, rfl, rfl,
            urb.ep.toUInt8, urb.transferBufferLength.toNat, _,
            [.writeFailed, .lost],
            .pending now index urb here filed due plain known.data
              (known.inward plain), rfl, ?_,
            .inr ⟨by simp [Event.isQuiet, Event.isSession],
              .inr (.inr (by simp))⟩⟩
          simp [lostConnection, State.fetching]
      | ends _ _ _ here | later _ _ _ _ here =>
          refine .inl (Apart.moves (.same rfl rfl rfl rfl (.inl rfl)) (.inl ?_))
          rw [here]
          rfl
      | collects clock now index urb here filed isochronous =>
          simp [State.fetches, here, filed, isochronous] at fetching
      | leaves clock here =>
          rcases here with here | here <;>
            simp [State.fetches, here] at fetching
      | refuses _ _ here | imports _ _ here | controlAnswers _ _ _ here
      | controlCalls _ _ here | controls _ _ _ here | answers _ _ _ here
      | takesAnswer _ _ _ here | schedules _ _ here | overflows _ _ here
      | enters _ _ here | posts _ _ _ _ here | starts _ here | loses _ here
      | resets _ _ here | resetCalls _ _ here | resetEnds _ _ here
      | stops _ here =>
          simp [State.fetches, here] at fetching
      | _ => simp [State.fetches] at fetching

theorem step_acts {label : Label} (sound : Sound dev s)
    (stepped : step dev s label = some s') : Acts s s' :=
  (step_transition stepped).acts sound

/-- Data for a bulk, interrupt or control transfer is sent by the step that
fetched it. -/
theorem Acts.data_reply {events : List Event} {reply : Reply}
    (acted : Acts s s') (traced : s'.trace = s.trace ++ events)
    (member : Event.retSubmit reply ∈ events)
    (plain : reply.transfer.isochronous = false) (data : reply.data ≠ []) :
    ∃ ep length, FetchSource s ep length reply.transfer ∧
      reply.data = (s.device.usbipDeviceFetchEpData ep length).1 ∧
      events = [.fetched (epMasked ep) reply.data, .retSubmit reply] := by
  have loud : (Event.retSubmit reply).isQuiet = false := by
    simp [Event.isQuiet, plain, data]
  rcases acted with ⟨middle, performed, apart, _⟩ | fetches
  · obtain ⟨early, recorded, side⟩ := performed.recorded
    obtain ⟨late, continued, quiet⟩ := apart.trace
    rw [continued, recorded, List.append_assoc] at traced
    rw [← List.append_cancel_left traced] at member
    rcases List.mem_append.mp member with member | member
    · rcases side with rfl | side
      · simp at member
      · exact absurd (side _ member) (by simp [Event.isDeviceSide])
    · rw [quiet _ member] at loud
      contradiction
  · obtain ⟨_, _, _, _, ep, length, transfer, later, source, _, recorded,
      follow⟩ := fetches
    rw [recorded] at traced
    have told := List.append_cancel_left traced
    subst told
    have replied := (List.mem_cons.mp member).resolve_left (by simp)
    rcases follow with ⟨sent, rfl, carried, rfl⟩ | ⟨quiet, _⟩
    · obtain rfl := Event.retSubmit.inj (List.mem_singleton.mp replied)
      exact ⟨ep, length, source, carried, by rw [carried]⟩
    · rw [quiet _ replied] at loud
      contradiction

end

end UsbipServer
