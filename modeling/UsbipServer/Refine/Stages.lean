import UsbipServer.Refine.Calls
import UsbipServer.Refine.Streams

namespace UsbipServer

open Wire Library

/-! How a control request is handled that no one else answers: no other thread
transmits on endpoint 0 meanwhile, and the control callback has no data to
give. -/

/-! Stopping the device is the last thing the server thread does, and only
transmits on the data endpoints wait. -/

def Running (s : State) : Prop :=
  s.device.deviceStopped = true → s.phase = .stopped

def WaitsForData (s : State) : Prop :=
  ∀ thread call, (s.threads thread).call = .waiting call → call.endpoint ≠ 0

section

variable {dev : UsbipDevice} {s s' : State} {label : Label}

theorem Section.waits_for_data {mayWait : Bool} {device device' : DeviceState}
    {call other : Call} {phase : CallPhase} {events : List Event}
    (ran : Section mayWait device call device' phase events)
    (blocked : phase = .waiting other) : other.endpoint ≠ 0 := by
  rw [(ran.waits blocked).1]
  cases ran with
  | waiting data => exact data
  | stored => split at blocked <;> contradiction
  | dropped => contradiction

theorem Local.stops (acted : Local s s') :
    s'.device.deviceStopped = s.device.deviceStopped ∨ s.phase = .stop := by
  cases acted with
  | flags _ _ stopped => exact .inl stopped
  | serverTransmit _ _ _ _ ran => exact .inl ran.flags.2.1
  | transmit _ _ _ _ ran => exact .inl ran.flags.2.1
  | wake _ _ _ ran => exact .inl ran.flags.2.1
  | stop here => exact .inr here
  | _ => exact .inl rfl

theorem Acts.stops (acted : Acts s s') :
    s'.device.deviceStopped = s.device.deviceStopped ∨ s.phase = .stop := by
  rcases acted with ⟨middle, performed, apart, _⟩ | fetches
  · rw [apart.device]
    exact performed.stops
  · obtain ⟨ep, length, _, _, _, device, _⟩ := fetches.fetch
    rw [device]
    exact .inl rfl

/-- The server thread goes from `.stop` to `.stopped`, the other threads do not
stop the device. -/
theorem Running.step (running : Running s) (sound : Sound dev s)
    (stepped : step dev s label = some s') : Running s' := by
  have elsewhere : label.isThread = true → Running s' := by
    intro kind stopped
    have elsewhere := threadStep_elsewhere kind stepped
    rw [elsewhere.stopped] at stopped
    exact elsewhere.phase.trans (running stopped)
  intro stopped
  have late : s.phase = .stop ∨ s.phase = .stopped := by
    rcases (step_acts sound stepped).stops with same | here
    · exact .inr (running (same.symm.trans stopped))
    · exact .inl here
  cases step_transition stepped with
  | stops => rfl
  | interrupts => exact running stopped
  | transmits | wakes | threadPosts | locks | unlocks =>
      exact elsewhere rfl stopped
  | leaves _ here => rcases here with here | here <;> simp [here] at late
  | accepts _ _ here | refuses _ _ here | imports _ _ here | idles here
  | fails _ _ here | submits _ _ here | submitsIso _ _ here | misses _ _ here
  | cancels _ _ _ _ here | controlAnswers _ _ _ here | controlCalls _ _ here
  | controls _ _ _ here | answers _ _ _ here | takesAnswer _ _ _ here
  | fetches _ _ _ _ _ here | schedules _ _ here | overflows _ _ here
  | enters _ _ here | posts _ _ _ _ here | starts _ here | loses _ here
  | ends _ _ _ here | later _ _ _ _ here | collects _ _ _ _ here
  | skips _ _ _ _ here | completes _ _ _ _ _ here | breaks _ _ _ _ _ here
  | resets _ _ here | resetCalls _ _ here | resetEnds _ _ here
  | callbackTransmits _ _ _ _ here | returns _ _ _ _ here =>
      simp [here] at late

theorem Local.waits_for_data (acted : Local s s') (waits : WaitsForData s) :
    WaitsForData s' := by
  cases acted with
  | transmit thread ep data idle ran =>
      intro place call blocked
      rcases waiting_setCall rfl blocked with new | before
      · exact ran.waits_for_data new
      · exact waits place call before
  | wake thread call before ran =>
      intro place other blocked
      rcases waiting_setCall rfl blocked with new | before
      · exact ran.waits_for_data new
      · exact waits place other before
  | post thread call stored =>
      intro place other blocked
      rcases waiting_setCall rfl blocked with new | before
      · contradiction
      · exact waits place other before
  | critical threads same =>
      intro place call blocked
      exact waits place call ((same place).symm.trans blocked)
  | _ => exact waits

theorem WaitsForData.step (waits : WaitsForData s) (sound : Sound dev s)
    (stepped : step dev s label = some s') : WaitsForData s' := by
  rcases step_acts sound stepped with ⟨middle, performed, apart, _⟩ | fetches
  · intro thread call blocked
    rw [apart.threads] at blocked
    exact performed.waits_for_data waits thread call blocked
  · intro thread call blocked
    rw [fetches.threads] at blocked
    exact waits thread call blocked

end

section

variable {dev : UsbipDevice} {s s' : State} {label : Label}

theorem Section.elsewhere {mayWait : Bool} {device device' : DeviceState}
    {call : Call} {phase : CallPhase} {events : List Event}
    (ran : Section mayWait device call device' phase events)
    (data : call.endpoint ≠ 0) :
    device'.endpointData 0 = device.endpointData 0 ∧
      device'.controlAnswered = device.controlAnswered := by
  cases ran with
  | waiting => exact ⟨rfl, rfl⟩
  | stored => exact ⟨Function.update_of_ne data.symm _ _, by simp [data]⟩
  | dropped => exact ⟨rfl, rfl⟩

theorem threadStep_keeps (kind : label.isThread = true)
    (waits : WaitsForData s)
    (apart : ∀ thread ep data, label = .transmit thread ep data →
      epMasked ep ≠ 0)
    (stepped : step dev s label = some s') :
    s'.device.endpointData 0 = s.device.endpointData 0 ∧
      s'.device.controlAnswered = s.device.controlAnswered := by
  cases step_transition stepped with
  | transmits thread ep data idle ran =>
      exact ran.elsewhere (apart thread ep data rfl)
  | wakes thread call blocked ran => exact ran.elsewhere (waits thread call blocked)
  | threadPosts | locks | unlocks => exact ⟨rfl, rfl⟩
  | _ => simp [Label.isThread] at kind

theorem Section.answers {mayWait : Bool} {device device' : DeviceState}
    {call : Call} {phase : CallPhase} {events : List Event}
    (ran : Section mayWait device call device' phase events)
    (control : call.endpoint = 0)
    (current : call.generation = device.resetGeneration)
    (running : device.deviceStopped = false) :
    device'.controlAnswered = true ∧ device'.endpointData 0 = call.cells := by
  cases ran with
  | waiting data => exact absurd control data
  | stored =>
      rw [control]
      exact ⟨by simp, by simp⟩
  | dropped _ refused => exact absurd control (refused running current).1

end

namespace ControlAction

def answers : ControlAction → Bool
  | .answer _ => true
  | _ => false

def stored : ControlAction → List Byte
  | .answer data => data.take endpointMaxDataLength
  | _ => []

end ControlAction

namespace Request

def action (dev : UsbipDevice) (configurationValue : Byte)
    (request : Request) : ControlAction :=
  usbipDeviceControl dev configurationValue request.command.submit.setup
    request.transferBufferLength.toNat

/-- An IN transfer that asks for data is stalled if there is no answer. -/
def stalls (request : Request) (action : ControlAction) : Bool :=
  !action.supported ||
    (request.direction = 1 && 0 < request.transferBufferLength.toNat &&
      !action.answers)

def carries (request : Request) (action : ControlAction) : List Byte :=
  if request.direction = 1 ∧ request.stalls action = false then
    action.stored.take request.transferBufferLength.toNat
  else []

theorem stalls_answer (request : Request) (data : List Byte) :
    request.stalls (.answer data) = false := by
  simp [stalls, ControlAction.supported, ControlAction.answers]

theorem carries_answer {request : Request} (inward : request.direction = 1)
    (data : List Byte) :
    request.carries (.answer data) = (data.take endpointMaxDataLength).take
      request.transferBufferLength.toNat :=
  if_pos ⟨inward, request.stalls_answer data⟩

theorem carries_stalled {request : Request} {action : ControlAction}
    (stalled : request.stalls action = true) : request.carries action = [] := by
  simp [carries, stalled]

end Request

structure Replies (dev : UsbipDevice) (request : Request) (reply : Reply) :
    Prop where
  transfer : reply.transfer = request.transfer false
  outcome : ∃ configurationValue,
    reply.ret.status =
      (if request.stalls (request.action dev configurationValue) then epStall
        else 0) ∧
    reply.data.map Cell.byte =
      request.carries (request.action dev configurationValue)

/-- Where such a request is, and what the device keeps for it.  The callback
has no part in the data of an IN transfer. -/
inductive ControlStage (dev : UsbipDevice) (request : Request)
    (device : DeviceState) : Phase → Prop
  | control : ControlStage dev request device (.control request)
  | answer (configurationValue : Byte) (data : List Byte)
      (does : request.action dev configurationValue = .answer data) :
      ControlStage dev request device (.answer request data)
  | lock (configurationValue : Byte)
      (does : request.action dev configurationValue = .callback)
      (outward : request.direction ≠ 1) :
      ControlStage dev request device (.lock (.control request))
  | callback (configurationValue : Byte) (posting : Option Call) (made : Nat)
      (does : request.action dev configurationValue = .callback)
      (outward : request.direction ≠ 1) :
      ControlStage dev request device (.callback posting made (.control request))
  | fetchAnswered (configurationValue : Byte) (inward : request.direction = 1)
      (answered : device.controlAnswered =
        (request.action dev configurationValue).answers)
      (stored : (device.endpointData 0).map Cell.byte =
        (request.action dev configurationValue).stored) :
      ControlStage dev request device (.fetchAnswered request
        (request.action dev configurationValue).supported)
  | fetchReply (configurationValue : Byte) (inward : request.direction = 1)
      (stored : (device.endpointData 0).map Cell.byte =
        (request.action dev configurationValue).stored) :
      ControlStage dev request device (.fetchReply request
        (request.action dev configurationValue).supported
        (request.action dev configurationValue).answers)

inductive ControlStep (dev : UsbipDevice) (request : Request) (s : State) :
    State → Prop
  | stays {s' : State} (events : List Event)
      (stage : ControlStage dev request s'.device s'.phase)
      (traced : s'.trace = s.trace ++ events)
      (silent : ∀ event ∈ events, event.isSilent = true) :
      ControlStep dev request s s'
  | replies {s' : State} (events : List Event) (reply : Reply)
      (replied : Replies dev request reply) (held : s'.phase.held = none)
      (traced : s'.trace = s.trace ++ (events ++ [.retSubmit reply]))
      (silent : ∀ event ∈ events, event.isSilent = true) :
      ControlStep dev request s s'
  | fails {s' : State} (events : List Event) (held : s'.phase.held = none)
      (traced : s'.trace = s.trace ++ (events ++ [.writeFailed]))
      (silent : ∀ event ∈ events, event.isSilent = true) :
      ControlStep dev request s s'

section

variable {dev : UsbipDevice} {request : Request} {s s' start : State}
  {events : List Event}

theorem finishSubmit_step {urbStatus : UInt32} {actualLength : Nat}
    {sendData : Bool} (traced : start.trace = s.trace ++ events)
    (silent : ∀ event ∈ events, event.isSilent = true)
    (replied : Replies dev request (retSubmitReply (request.transfer false)
      urbStatus actualLength sendData start.txBuffer)) :
    ControlStep dev request s
      (finishSubmit request urbStatus actualLength sendData start) := by
  cases written : (transmitRetSubmit (request.transfer false) urbStatus
      actualLength sendData start).1 with
  | true =>
      refine .replies events _ replied rfl ?_ silent
      simp only [transmitRetSubmit, sendReply] at written
      simp [finishSubmit, transmitRetSubmit, sendReply, written, traced]
  | false =>
      refine .fails events rfl ?_ silent
      simp only [transmitRetSubmit, sendReply] at written
      simp [finishSubmit, transmitRetSubmit, sendReply, written, traced]

/-- A stalled request gets no data, an accepted one the bytes that are at the
start of the transmit buffer. -/
theorem controlReply_step {handled : Bool} {txLength : Nat}
    (configurationValue : Byte)
    (verdict : handled =
      !request.stalls (request.action dev configurationValue))
    (traced : start.trace = s.trace ++ events)
    (silent : ∀ event ∈ events, event.isSilent = true)
    (carried : request.direction ≠ 0 →
      request.stalls (request.action dev configurationValue) = false →
      (start.txBuffer.slice 0 txLength).map Cell.byte =
        request.carries (request.action dev configurationValue)) :
    ControlStep dev request s
      (finishSubmit request (Request.controlStatus handled)
        (request.controlLength handled txLength)
        (request.controlSends handled) start) := by
  refine finishSubmit_step traced silent ⟨rfl, configurationValue, ?_, ?_⟩
  · rw [verdict]
    cases request.stalls (request.action dev configurationValue) <;> rfl
  · cases stalled : request.stalls (request.action dev configurationValue) with
    | true =>
        simp [retSubmitReply, Request.controlSends, Request.carries, verdict,
          stalled]
    | false =>
        by_cases outward : request.direction = 0
        · simp [retSubmitReply, Request.controlSends, Request.carries, outward]
        · simpa [retSubmitReply, Request.controlSends, Request.controlLength,
            verdict, stalled, outward] using carried outward stalled

/-- Only an IN transfer has its data fetched. -/
theorem Ends.controlStep {supported : Bool}
    (ends : Ends dev start (.control request supported) s')
    (configurationValue : Byte)
    (does : supported = (request.action dev configurationValue).supported)
    (traced : start.trace = s.trace ++ events)
    (silent : ∀ event ∈ events, event.isSilent = true)
    (kept : request.direction = 1 →
      start.device.controlAnswered =
          (request.action dev configurationValue).answers ∧
        (start.device.endpointData 0).map Cell.byte =
          (request.action dev configurationValue).stored) :
    ControlStep dev request s s' := by
  subst does
  cases ends with
  | fetches inward =>
      obtain ⟨answered, stored⟩ := kept inward
      exact .stays events (.fetchAnswered _ inward answered stored) traced silent
  | answered outward =>
      refine controlReply_step configurationValue ?_ traced silent ?_
      · simp [Request.stalls, outward]
      · intro _ _
        simp [Request.carries, outward, Buffer.slice]

theorem fetched_stored {device : DeviceState} {bytes : List Byte} {length : Nat}
    (stored : (device.endpointData 0).map Cell.byte = bytes) :
    (device.usbipDeviceFetchEpData 0 length).1.map Cell.byte =
      bytes.take length := by
  have fetched : (device.usbipDeviceFetchEpData 0 length).1 =
      (device.endpointData 0).take length :=
    List.take_eq_take_min.symm
  rw [fetched, List.map_take, stored]

theorem ControlAction.stored_unanswered {action : ControlAction}
    (unanswered : action.answers = false) : action.stored = [] := by
  cases action with
  | answer => contradiction
  | callback | nothing | unsupported => rfl

theorem Request.verdict_inward {action : ControlAction} (request : Request)
    (inward : request.direction = 1) :
    (action.supported && !(decide (0 < request.transferBufferLength.toNat) &&
      !action.answers)) = !request.stalls action := by
  simp [Request.stalls, inward]

/-- The stack answers an IN transfer by itself. -/
def Request.Own (dev : UsbipDevice) (request : Request) : Prop :=
  request.direction = 1 →
    ∀ configurationValue, request.action dev configurationValue ≠ .callback

/-- No application thread transmits on endpoint 0 while the server thread
answers one of the chosen requests. -/
def aloneFor (chosen : Request → Bool) (s : State) : Label → Bool
  | .transmit _ ep _ => epMasked ep ≠ 0 ∨ ¬ (s.phase.answering.any chosen)
  | _ => true

variable {chosen : Request → Bool} {label : Label}

theorem ControlStage.threads (stage : ControlStage dev request s.device s.phase)
    (asked : chosen request = true) (kind : label.isThread = true)
    (waits : WaitsForData s) (alone : aloneFor chosen s label = true)
    (stepped : step dev s label = some s') : ControlStep dev request s s' := by
  have elsewhere := threadStep_elsewhere kind stepped
  obtain ⟨events, traced, silent⟩ := elsewhere.silent
  refine .stays events ?_ traced silent
  rw [elsewhere.phase]
  have apart : s.phase.answering = some request →
      ∀ thread ep data, label = .transmit thread ep data → epMasked ep ≠ 0 := by
    rintro answering thread ep data rfl
    simpa [aloneFor, answering, asked] using alone
  generalize s.phase = phase at stage apart
  cases stage with
  | control => exact .control
  | answer value data does => exact .answer value data does
  | lock value does outward => exact .lock value does outward
  | callback value posting made does outward =>
      exact .callback value posting made does outward
  | fetchAnswered value inward answered stored =>
      obtain ⟨data, flag⟩ := threadStep_keeps kind waits (apart rfl) stepped
      exact .fetchAnswered value inward (flag.trans answered)
        (by rw [data, stored])
  | fetchReply value inward stored =>
      obtain ⟨data, _⟩ := threadStep_keeps kind waits (apart rfl) stepped
      exact .fetchReply value inward (by rw [data, stored])

theorem ControlStage.step (stage : ControlStage dev request s.device s.phase)
    (asked : chosen request = true) (own : request.Own dev)
    (running : Running s) (waits : WaitsForData s)
    (alone : aloneFor chosen s label = true)
    (stepped : step dev s label = some s') : ControlStep dev request s s' := by
  have threads : label.isThread = true → ControlStep dev request s s' :=
    fun kind => stage.threads asked kind waits alone stepped
  cases step_transition stepped with
  | controlAnswers clock other data here does =>
      rw [here] at stage
      cases stage
      exact .stays _ (.answer _ data does) rfl (by simp [Event.isSilent])
  | controlCalls clock other here does =>
      rw [here] at stage
      cases stage
      exact .stays _ (.lock _ does fun inward => own inward _ does) rfl
        (by simp [Event.isSilent])
  | controls clock other supported here does ends =>
      rw [here] at stage
      cases stage
      have does : request.action dev s.device.configurationValue =
          if supported then .nothing else .unsupported := does
      have unanswered :
          (request.action dev s.device.configurationValue).answers = false := by
        rw [does]
        split <;> rfl
      refine ends.controlStep s.device.configurationValue ?_ rfl
        (by simp [Event.isSilent]) ?_
      · rw [does]
        cases supported <;> rfl
      · intro _
        rw [unanswered, ControlAction.stored_unanswered unanswered]
        simp [State.controlled, DeviceState.forgetAnswer]
  | answers clock other data here ran ends =>
      rw [here] at stage
      cases stage with
      | answer value _ does =>
          have unstopped : s.device.deviceStopped = false := by
            refine Bool.eq_false_iff.mpr fun stopped => ?_
            rw [running stopped] at here
            contradiction
          obtain ⟨answered, stored⟩ := ran.answers rfl rfl unstopped
          refine ends.controlStep value (by rw [does]; rfl) rfl ?_ ?_
          · exact fun event member =>
              Event.isSilent_of_transmit (ran.transmits event member)
          · intro _
            rw [does]
            refine ⟨answered, ?_⟩
            simp only [State.emit, stored]
            simp [Call.cells, newCall, ControlAction.stored, Function.comp_def]
  | takesAnswer clock other supported here =>
      rw [here] at stage
      cases stage with
      | fetchAnswered value inward answered stored =>
          refine .stays [] ?_ (by simp [State.goto]) (by simp)
          simp only [DeviceState.takeAnswered, answered]
          exact .fetchReply value inward stored
  | fetches clock other supported answered handled here verdict =>
      rw [here] at stage
      cases stage with
      | fetchReply value inward stored =>
          rw [request.verdict_inward inward] at verdict
          refine controlReply_step value verdict rfl (by simp [Event.isSilent]) ?_
          intro _ accepted
          rw [Request.carries, if_pos ⟨inward, accepted⟩,
            ← fetched_stored stored]
          exact congrArg (List.map Cell.byte) (Buffer.slice_write_self _ _ 0)
  | enters clock next here =>
      rw [here] at stage
      cases stage with
      | lock value does outward =>
          exact .stays _ (.callback value none 0 does outward) rfl
            (by simp [callbackArgs, Event.isSilent])
  | posts clock call made next here =>
      rw [here] at stage
      cases stage with
      | callback value posting made does outward =>
          exact .stays [.returned call true]
            (.callback value none made does outward) rfl
            (by simp [Event.isSilent])
  | callbackTransmits ep data made next here ran =>
      rw [here] at stage
      cases stage with
      | callback value posting made does outward =>
          exact .stays _ (.callback value _ _ does outward) rfl
            fun event member =>
              Event.isSilent_of_transmit (ran.transmits event member)
  | returns written length made next here fits ends =>
      rw [here] at stage
      cases stage with
      | callback value posting made does outward =>
          have still : s.trace = s.trace ++ [] := by simp
          refine ends.controlStep value (by rw [does]; rfl) still (by simp) ?_
          exact fun inward => absurd inward outward
  | interrupts => exact .stays [] stage (by simp) (by simp)
  | transmits | wakes | threadPosts | locks | unlocks => exact threads rfl
  | leaves clock here =>
      rcases here with here | here <;> rw [here] at stage <;> cases stage
  | accepts _ _ here | refuses _ _ here | imports _ _ here | idles here
  | fails _ _ here | submits _ _ here | submitsIso _ _ here | misses _ _ here
  | cancels _ _ _ _ here | schedules _ _ here | overflows _ _ here
  | starts _ here | loses _ here | ends _ _ _ here | later _ _ _ _ here
  | collects _ _ _ _ here | skips _ _ _ _ here | completes _ _ _ _ _ here
  | breaks _ _ _ _ _ here | resets _ _ here | resetCalls _ _ here
  | resetEnds _ _ here | stops _ here =>
      rw [here] at stage
      cases stage

/-- Pending transfers are not control transfers, so the reply answers the
submit in hand, or one that has just arrived. -/
theorem Filing.control_reply {events : List Event} {reply : Reply}
    (filing : Filing dev s label s') (sound : Sound dev s)
    (traced : s'.trace = s.trace ++ events)
    (member : Event.retSubmit reply ∈ events)
    (plain : reply.transfer.isochronous = false)
    (control : reply.transfer.ep = 0) :
    ∃ request, reply.transfer = request.transfer false ∧
      (s.phase.held = some request ∨ request.ticket = s.tickets) := by
  have known : ∀ {seen : List Event}, s'.trace = s.trace ++ seen →
      Event.retSubmit reply ∈ seen := by
    intro seen also
    rw [traced] at also
    rw [← List.append_cancel_left also]
    exact member
  cases filing with
  | handed worked =>
      obtain ⟨seen, also, minor⟩ := worked.trace
      obtain ⟨request, inHand, answers⟩ := minor _ (known also)
      exact ⟨request, answers.transfer, .inl inHand⟩
  | stays seen _ _ _ _ also minor =>
      obtain ⟨_, none, _⟩ := minor _ (known also)
      contradiction
  | forgets seen _ _ _ _ _ _ also minor =>
      obtain ⟨_, none, _⟩ := minor _ (known also)
      contradiction
  | imports _ _ _ _ _ _ _ also => simpa using known also
  | starts _ _ _ _ _ _ _ _ _ also => simpa using known also
  | takes _ command seen _ _ _ _ _ _ _ _ _ _ _ also minor =>
      have later := (List.mem_cons.mp (known also)).resolve_left (by simp)
      obtain ⟨request, inHand, answers⟩ := minor _ later
      obtain rfl := Option.some.inj inHand
      exact ⟨_, answers.transfer, .inr rfl⟩
  | queues _ _ _ _ _ _ _ _ _ _ _ _ _ also => simpa using known also
  | unlinks _ _ _ _ seen _ _ _ _ _ _ _ _ _ _ _ _ also minor =>
      obtain ⟨_, none, _⟩ := minor _ (known also)
      contradiction
  | schedules _ _ _ _ _ _ _ _ _ _ _ also => simpa using known also
  | @packs urb back packets actual start _ entered outcome =>
      have isochronous := (entered.progress sound).isochronous
      obtain ⟨_, _, _, _, trace⟩ := entered.start
      rw [← trace] at known
      cases outcome with
      | calls =>
          have still : start.trace = start.trace ++ [] := by simp
          simpa using known still
      | replies _ _ _ _ _ _ _ _ also =>
          have single := known also
          simp only [List.mem_singleton, Event.retSubmit.injEq] at single
          rw [single] at plain
          exact absurd (plain.symm.trans isochronous) (by decide)
      | fails _ _ _ also => simpa using known also
      | loses _ _ _ _ _ also => simpa using known also
  | completes now index urb other here filed _ _ answered _ _ _ _ _ _ _ also =>
      obtain ⟨base, _⟩ := sound.isAttached here fun _ _ _ => id
      have single := known also
      simp only [List.mem_cons, List.not_mem_nil, or_false, reduceCtorEq,
        false_or, Event.retSubmit.injEq] at single
      rw [single, answered] at control
      exact absurd control (base.pending urb (List.mem_of_getElem? filed)).data

theorem wait_control {tcpip : Tcpip} {command : SubmitCommand}
    (received : receiveCommand s.endpoints s.tcpip =
      .command tcpip (.submit command))
    (control : command.header.ep = 0)
    (stepped : step dev s (.wait true) = some s') :
    s'.phase = .control ⟨s.tickets, command⟩ ∧
      s'.trace = s.trace ++ [.submit ⟨s.tickets, command⟩] := by
  have apart : isIsochronous s.endpoints command.header = false := by
    simp [isIsochronous, control]
  have number : Request.ep ⟨s.tickets, command⟩ = 0 := control
  cases step_transition stepped with
  | fails _ _ _ _ _ failed => rw [received] at failed; contradiction
  | misses _ _ _ _ _ other | cancels _ _ _ _ _ _ _ other =>
      rw [received] at other
      simp at other
  | submitsIso _ _ _ _ _ same isochronous =>
      rw [received] at same
      cases same
      rw [apart] at isochronous
      contradiction
  | submits _ _ _ _ _ same _ ends =>
      rw [received] at same
      cases same
      cases ends with
      | control => exact ⟨rfl, rfl⟩
      | receives _ data | ignored _ data | overflows _ data | queued _ data =>
          exact absurd number data

end

end UsbipServer
