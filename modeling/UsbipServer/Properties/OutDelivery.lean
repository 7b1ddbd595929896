import UsbipServer.Refine.Progress
import UsbipServer.Spec.Client

namespace UsbipServer

open Wire Library Ledger

/-! OUT data reaches the endpoint callback submit by submit, each piece out of
the submit's own payload, and a submit that fails a check of its lengths ends
the session before it did anything. -/

def Phase.isDelivering : Phase → Bool
  | .lock (.receive _) => true
  | .lock (.isoOut _ _ _) => true
  | .callback _ _ (.isoOut _ _ _) => true
  | _ => false

theorem Phase.todo_settled {phase : Phase} {rxBuffer : Buffer Byte}
    (settled : phase.isDelivering = false) : phase.todo rxBuffer = [] := by
  cases phase with
  | lock next => cases next <;> first | rfl | simp [isDelivering] at settled
  | callback posting made next =>
      cases next <;> first | rfl | simp [isDelivering] at settled
  | _ => rfl

/-- The endpoint callback was called for all the OUT data of the session, but
for that of the submit which is being delivered. -/
def DeliversOut (outData : List (Byte × List Byte)) (s : State) : Prop :=
  deliveredIn s.session <+: outData ∧
    (s.phase.isDelivering = false → deliveredIn s.session = outData)

theorem deliveriesOf_submitted {dev : UsbipDevice}
    (callback : dev.epDataCallback = true) (events : List Event) :
    deliveriesOf dev events =
      (submittedIn events).flatMap (Request.deliveries dev) := by
  simp only [deliveriesOf, submittedIn, List.flatMap_assoc, callback, if_true]
  apply List.flatMap_congr
  intro event _
  cases event <;> simp [Event.submitted]

theorem reachable_deliversOut {dev : UsbipDevice} {s : State}
    (reachable : Reachable dev s) (callback : dev.epDataCallback = true) :
    DeliversOut ((submittedIn s.session).flatMap (Request.deliveries dev))
      s := by
  have account := delivery (reachable_tracked reachable).ledger
  rw [deliveriesOf_submitted callback] at account
  refine ⟨⟨_, account⟩, ?_⟩
  intro settled
  have nothing : (view s).todo = [] := Phase.todo_settled settled
  rw [nothing, List.append_nil] at account
  exact account

structure ReadsBody (tcpip next : Tcpip) (header : HeaderBasic)
    (submit : CmdSubmit) : Prop where
  code : header.command = usbipCmdSubmit
  read : ∃ middle head body,
    tcpipServerRead tcpip HeaderBasic.size = .complete middle head ∧
      HeaderBasic.decode head = header ∧
      tcpipServerRead middle CmdSubmit.size = .complete next body ∧
      CmdSubmit.decode body = submit

/-- The read of the OUT data, which an IN submit does not have. -/
def ReadsPayload (tcpip next : Tcpip) (header : HeaderBasic)
    (submit : CmdSubmit) (payload : List Byte) : Prop :=
  if header.direction = 0 then
    tcpipServerRead tcpip submit.transferBufferLength.toNat =
      .complete next payload
  else next = tcpip ∧ payload = []

/-- The client's next command is a submit that is too long, has too many
packets, or has a packet outside of its buffer. -/
inductive Refused (endpoints : Endpoints) (tcpip : Tcpip) : Prop
  | length {next : Tcpip} {header : HeaderBasic} {submit : CmdSubmit}
      (body : ReadsBody tcpip next header submit)
      (long : usbipMaxPacketSize < submit.transferBufferLength.toNat)
  | count {next after : Tcpip} {header : HeaderBasic} {submit : CmdSubmit}
      {payload : List Byte} (body : ReadsBody tcpip next header submit)
      (fits : submit.transferBufferLength.toNat ≤ usbipMaxPacketSize)
      (data : ReadsPayload next after header submit payload)
      (isochronous : isIsochronous endpoints header = true)
      (many : maxIsoPackets < submit.numberOfPackets.toNat)
  | packet {next after last : Tcpip} {header : HeaderBasic}
      {submit : CmdSubmit} {payload bytes : List Byte}
      {descriptor : IsoPacketDescriptor}
      (body : ReadsBody tcpip next header submit)
      (fits : submit.transferBufferLength.toNat ≤ usbipMaxPacketSize)
      (data : ReadsPayload next after header submit payload)
      (isochronous : isIsochronous endpoints header = true)
      (few : submit.numberOfPackets.toNat ≤ maxIsoPackets)
      (descriptors : tcpipServerRead after
        (submit.numberOfPackets.toNat * IsoPacketDescriptor.size) =
          .complete last bytes)
      (member : descriptor ∈ IsoPacketDescriptor.decodeAll
        submit.numberOfPackets.toNat bytes)
      (outside : submit.transferBufferLength.toNat <
        descriptor.offset.toNat + descriptor.length.toNat)

section

variable {endpoints : Endpoints} {tcpip next after : Tcpip}
  {header : HeaderBasic} {submit : CmdSubmit} {payload : List Byte}

theorem ReadsBody.received (body : ReadsBody tcpip next header submit) :
    receiveCommand endpoints tcpip =
      if usbipMaxPacketSize < submit.transferBufferLength.toNat then
        .failed next []
      else if header.direction = 0 then
        match tcpipServerRead next submit.transferBufferLength.toNat with
        | .blocked => .blocked
        | .failed tcpip received => .failed tcpip received
        | .complete tcpip payload =>
            receivePackets endpoints tcpip header submit payload
      else receivePackets endpoints next header submit [] := by
  obtain ⟨code, middle, head, fixed, headRead, rfl, bodyRead, rfl⟩ := body
  have submitted : receiveCommand endpoints tcpip =
      receiveSubmit endpoints middle (HeaderBasic.decode head) := by
    simp only [receiveCommand, headRead, code, if_true]
  rw [submitted]
  unfold receiveSubmit
  split
  next blocked =>
    rw [bodyRead] at blocked
    contradiction
  next failed =>
    rw [bodyRead] at failed
    contradiction
  next complete =>
    obtain ⟨rfl, rfl⟩ := TcpipRead.complete.inj (bodyRead.symm.trans complete)
    rfl

theorem ReadsPayload.received (body : ReadsBody tcpip next header submit)
    (fits : submit.transferBufferLength.toNat ≤ usbipMaxPacketSize)
    (data : ReadsPayload next after header submit payload)
    (isochronous : isIsochronous endpoints header = true) :
    receiveCommand endpoints tcpip =
      receiveIsoSubmit after header submit payload := by
  rw [body.received, if_neg (Nat.not_lt.mpr fits)]
  unfold ReadsPayload at data
  split at data
  next outward =>
    simp only [outward, if_true, data, receivePackets, isochronous]
  next inward =>
    obtain ⟨rfl, rfl⟩ := data
    simp only [inward, if_false, receivePackets, isochronous, if_true]

theorem Refused.received (refused : Refused endpoints tcpip) :
    ∃ next rx, receiveCommand endpoints tcpip = .failed next rx := by
  cases refused with
  | length body long =>
      rw [body.received, if_pos long]
      exact ⟨_, _, rfl⟩
  | count body fits data isochronous many =>
      rw [data.received body fits isochronous, receiveIsoSubmit, if_pos many]
      exact ⟨_, _, rfl⟩
  | @packet next after last header submit payload bytes descriptor body fits
      data isochronous few descriptors member outside =>
      have some_outside : ¬ (IsoPacketDescriptor.decodeAll
          submit.numberOfPackets.toNat bytes).all
            (packetFits submit.transferBufferLength) = true := by
        intro all
        have inside := List.all_eq_true.mp all descriptor member
        simp only [packetFits, decide_eq_true_eq] at inside
        exact Nat.not_lt.mpr inside outside
      rw [data.received body fits isochronous, receiveIsoSubmit,
        if_neg (Nat.not_lt.mpr few), descriptors]
      simp only [some_outside]
      exact ⟨_, _, rfl⟩

end

/-- Where the server thread is between a command that failed and the reset:
the table is only emptied when the connection is given up. -/
inductive Closing (s t : State) : Prop
  | failed (phase : t.phase = .clearEvent false)
      (pendingUrbs : t.pendingUrbs = s.pendingUrbs)
  | lost (phase : t.phase = .reset .lost) (pendingUrbs : t.pendingUrbs = [])
      (imported : t.deviceImported = false)

/-- Nothing was delivered since `s` and the stream times are those of `s`. -/
structure Untouched (s t : State) : Prop where
  closing : Closing s t
  endpoints : t.endpoints = s.endpoints
  trace : ∃ events, t.trace = s.trace ++ events ∧ deliveredIn events = []

/-- The device was reset since `s`, and nothing was delivered before. -/
def ResetSince (s t : State) : Prop :=
  ∃ before after, t.trace = s.trace ++ (before ++ .reset :: after) ∧
    deliveredIn before = []

section

variable {dev : UsbipDevice} {s t t' : State}

theorem deliveredIn_transmit {events : List Event}
    (transmit : ∀ event ∈ events, event.isTransmit = true) :
    deliveredIn events = [] := by
  refine List.filterMap_eq_nil_iff.mpr ?_
  intro event member
  have kind := transmit event member
  cases event <;> first | rfl | simp [Event.isTransmit] at kind

theorem deliveredIn_append {early late : List Event}
    (before : deliveredIn early = []) (after : deliveredIn late = []) :
    deliveredIn (early ++ late) = [] := by
  simp only [deliveredIn, List.filterMap_append] at before after ⊢
  rw [before, after]
  rfl

theorem Untouched.elsewhere (untouched : Untouched s t)
    (elsewhere : Elsewhere t t') : Untouched s t' := by
  obtain ⟨closing, endpoints, events, traced, uncalled⟩ := untouched
  obtain ⟨more, continued, transmit⟩ := elsewhere.trace
  refine ⟨?_, ?_, events ++ more, ?_,
    deliveredIn_append uncalled (deliveredIn_transmit transmit)⟩
  · cases closing with
    | failed phase pendingUrbs =>
        exact .failed (elsewhere.phase.trans phase)
          (elsewhere.pendingUrbs.trans pendingUrbs)
    | lost phase pendingUrbs imported =>
        exact .lost (elsewhere.phase.trans phase)
          (elsewhere.pendingUrbs.trans pendingUrbs)
          (elsewhere.deviceImported.trans imported)
  · rw [elsewhere.rest]
    exact endpoints
  · rw [continued, traced, List.append_assoc]

/-- The server thread gives the connection up, then it resets the device. -/
theorem Untouched.step {label : Label} (untouched : Untouched s t)
    (stepped : step dev t label = some t') :
    Untouched s t' ∨ ResetSince s t' := by
  have place : t.phase = .clearEvent false ∨ t.phase = .reset .lost := by
    cases untouched.closing with
    | failed phase => exact .inl phase
    | lost phase => exact .inr phase
  obtain ⟨closing, endpoints, events, traced, uncalled⟩ := untouched
  cases step_transition stepped with
  | loses clock here =>
      refine .inl ⟨.lost rfl rfl rfl, endpoints, events ++ [.lost], ?_,
        deliveredIn_append uncalled rfl⟩
      simp [lostConnection, traced]
  | resets clock reason here =>
      refine .inr ⟨events, [], ?_, uncalled⟩
      simp [traced]
  | interrupts =>
      refine .inl ⟨?_, endpoints, events, traced, uncalled⟩
      cases closing with
      | failed phase pendingUrbs => exact .failed phase pendingUrbs
      | lost phase pendingUrbs imported =>
          exact .lost phase pendingUrbs imported
  | transmits | wakes | threadPosts | locks | unlocks =>
      exact .inl (Untouched.elsewhere
        ⟨closing, endpoints, events, traced, uncalled⟩
        (threadStep_elsewhere rfl stepped))
  | leaves _ here => rcases here with here | here <;> simp [here] at place
  | accepts _ _ here | refuses _ _ here | imports _ _ here | idles here
  | fails _ _ here | submits _ _ here | submitsIso _ _ here | misses _ _ here
  | cancels _ _ _ _ here | controlAnswers _ _ _ here | controlCalls _ _ here
  | controls _ _ _ here | answers _ _ _ here | takesAnswer _ _ _ here
  | fetches _ _ _ _ _ here | schedules _ _ here | overflows _ _ here
  | enters _ _ here | posts _ _ _ _ here | starts _ here | ends _ _ _ here
  | later _ _ _ _ here | collects _ _ _ _ here | skips _ _ _ _ here
  | completes _ _ _ _ _ here | breaks _ _ _ _ _ here | resetCalls _ _ here
  | resetEnds _ _ here | stops _ here | callbackTransmits _ _ _ _ here
  | returns _ _ _ _ here => simp [here] at place

theorem ResetSince.later {events : List Event} (reset : ResetSince s t)
    (traced : t'.trace = t.trace ++ events) : ResetSince s t' := by
  obtain ⟨before, after, earlier, uncalled⟩ := reset
  refine ⟨before, after ++ events, ?_, uncalled⟩
  rw [traced, earlier]
  simp

theorem step_appends {label : Label} (reachable : Reachable dev t)
    (stepped : step dev t label = some t') :
    ∃ events, t'.trace = t.trace ++ events := by
  have sound := (reachable_tracked reachable).sound
  rcases step_moves sound stepped with advances | imports
  · obtain ⟨events, traced, _⟩ := advances.progress
    exact ⟨events, traced⟩
  · exact ⟨_, imports.trace⟩

theorem untouched_run (reachable : Reachable dev t)
    (untouched : Untouched s t)
    (reached : (server dev).Reaches Machine.anyStep t t') :
    Untouched s t' ∨ ResetSince s t' := by
  refine reached.invariant (P := fun state =>
    Untouched s state ∨ ResetSince s state) (.inl untouched) ?_
  intro state label next before earlier _ stepped
  rcases earlier with untouched | reset
  · exact untouched.step stepped
  · obtain ⟨events, traced⟩ := step_appends (reachable.trans before) stepped
    exact .inr (reset.later traced)

theorem Refused.stepped (refused : Refused s.endpoints s.tcpip)
    (serving : s.phase = .serve) (imported : s.deviceImported = true)
    (stepped : step dev s (.wait true) = some t) :
    ∃ tcpip rxBuffer, t = { s with
      tcpip := tcpip
      rxBuffer := rxBuffer }.goto (.clearEvent false) := by
  obtain ⟨next, rx, received⟩ := refused.received
  simp only [UsbipServer.step, serving, imported, true_and, if_true]
    at stepped
  split at stepped
  · contradiction
  · simp only [processImportedCmd, received] at stepped
    exact ⟨_, _, (Option.some.inj stepped).symm⟩

/-- A session ends: until the reset nothing is delivered and nothing is
scheduled, and the server thread's next two steps lead to the reset. -/
structure EndsSession (dev : UsbipDevice) (s t : State) : Prop where
  untouched : ∀ later, (server dev).Reaches Machine.anyStep t later →
    Untouched s later ∨ ResetSince s later
  resets : ∀ clock, ∃ lost closed, step dev t (.server clock) = some lost ∧
    step dev lost (.server clock) = some closed ∧
    closed.deviceImported = false ∧ closed.trace = s.trace ++ [.lost, .reset]

theorem Refused.endsSession (refused : Refused s.endpoints s.tcpip)
    (reachable : Reachable dev s) (serving : s.phase = .serve)
    (imported : s.deviceImported = true)
    (stepped : step dev s (.wait true) = some t) : EndsSession dev s t := by
  have moved : (server dev).step s (.wait true) = some t := stepped
  have next : Reachable dev t := reachable.trans (.step .refl trivial moved)
  obtain ⟨tcpip, rxBuffer, rfl⟩ := refused.stepped serving imported stepped
  constructor
  · intro later reached
    refine untouched_run next ?_ reached
    exact ⟨.failed rfl rfl, rfl, [], by simp, rfl⟩
  · intro clock
    refine ⟨_, _, rfl, rfl, rfl, ?_⟩
    simp [lostConnection]

theorem outDelivery (reachable : Reachable dev s)
    (callback : dev.epDataCallback = true) :
    DeliversOut ((submittedIn s.session).flatMap (Request.deliveries dev)) s ∧
      (s.phase = .serve → s.deviceImported = true →
        Refused s.endpoints s.tcpip →
        ∀ t, step dev s (.wait true) = some t → EndsSession dev s t) := by
  refine ⟨reachable_deliversOut reachable callback, ?_⟩
  intro serving imported refused t stepped
  exact refused.endsSession reachable serving imported stepped

end

def bulkOut (seqnum ep : UInt32) (payload : List Byte) : Command :=
  .submit ⟨⟨usbipCmdSubmit, seqnum, 0, 0, ep⟩,
    ⟨0, UInt32.ofNat payload.length, 0, 0, 0, ⟨0, 0, 0, 0, 0, 0, 0, 0⟩⟩,
    payload, []⟩

/-- A bulk OUT transfer, followed by a submit that is too long. -/
def refusedLabels : List Label :=
  importLabels [bulkOut 1 2 [0xaa, 0xbb], bulkIn 2 1 70000] ++
    [.wait true, .server 0, .callbackReturn [] 0, .server 0, .server 0]

private theorem refused_sample :
    Refused (stateAfter sampleDevice refusedLabels).endpoints
      (stateAfter sampleDevice refusedLabels).tcpip := by
  have stream : streamOf (stateAfter sampleDevice refusedLabels).tcpip.reads =
      HeaderBasic.encode ⟨usbipCmdSubmit, 2, 0, 1, 1⟩ ++
        (CmdSubmit.encode ⟨0, 70000, 0, 0, 0, ⟨0, 0, 0, 0, 0, 0, 0, 0⟩⟩ ++
          []) := by
    decide +kernel
  obtain ⟨middle, headRead, running, healthy, left⟩ :=
    tcpipServerRead_front (by decide +kernel)
      (by unfold Healthy; decide +kernel) stream
  obtain ⟨next, bodyRead, _⟩ := tcpipServerRead_front running healthy left
  rw [HeaderBasic.length_encode] at headRead
  rw [CmdSubmit.length_encode] at bodyRead
  have body : ReadsBody (stateAfter sampleDevice refusedLabels).tcpip next
      ⟨usbipCmdSubmit, 2, 0, 1, 1⟩
      ⟨0, 70000, 0, 0, 0, ⟨0, 0, 0, 0, 0, 0, 0, 0⟩⟩ :=
    ⟨rfl, middle, _, _, headRead, HeaderBasic.decode_encode _, bodyRead,
      CmdSubmit.decode_encode _⟩
  exact .length body (by decide)

theorem outDelivery_refused :
    deliveredIn (stateAfter sampleDevice refusedLabels).session =
        [(2, [0xaa, 0xbb])] ∧
      ∃ t, step sampleDevice (stateAfter sampleDevice refusedLabels)
          (.wait true) = some t ∧
        EndsSession sampleDevice (stateAfter sampleDevice refusedLabels) t := by
  obtain ⟨delivers, refuses⟩ :=
    outDelivery (stateAfter_reachable sampleDevice refusedLabels)
      (by decide +kernel)
  have moves : (step sampleDevice (stateAfter sampleDevice refusedLabels)
      (.wait true)).isSome = true := by
    decide +kernel
  obtain ⟨t, stepped⟩ := Option.isSome_iff_exists.mp moves
  constructor
  · rw [delivers.2 (by decide +kernel)]
    decide +kernel
  · exact ⟨t, stepped, refuses (by decide +kernel) (by decide +kernel)
      refused_sample t stepped⟩

/-- Data on an endpoint number above 15 is delivered too. -/
def aboveLabels : List Label :=
  importLabels [bulkOut 1 17 [0xaa]] ++
    [.wait true, .server 0, .callbackReturn [] 0, .server 0, .server 0]

theorem outDelivery_above :
    Reachable sampleDevice (stateAfter sampleDevice aboveLabels) ∧
      sampleDevice.epDataCallback = true ∧
      (stateAfter sampleDevice aboveLabels).deviceImported = true ∧
      ¬ DeliversOut
        (((submittedIn (stateAfter sampleDevice aboveLabels).session).filter
          fun request => 1 ≤ request.ep && request.ep ≤ 15).flatMap
            (Request.deliveries sampleDevice))
        (stateAfter sampleDevice aboveLabels) := by
  refine ⟨stateAfter_reachable sampleDevice aboveLabels, rfl,
    by decide +kernel, ?_⟩
  intro delivers
  have whole := delivers.2 (by decide +kernel)
  revert whole
  decide +kernel

end UsbipServer
