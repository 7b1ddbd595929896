import UsbipServer.Properties.StringDescriptors

namespace UsbipServer

open Wire Library

/-! Standard requests to the device or to an endpoint are answered as the
documentation lists them, and stalled otherwise, apart from some requests
without a data stage. -/

def Setup.wLength (setup : Setup) : Nat :=
  setup.wLengthHigh.toNat * 256 + setup.wLengthLow.toNat

def Setup.recipient (setup : Setup) : Nat := setup.bmRequestType.toNat % 32

/-- A standard request to the device, an endpoint or an unknown recipient. -/
def Setup.isStandard (setup : Setup) : Bool :=
  setup.bmRequestType.toNat / 32 % 4 = 0 ∧ Setup.recipient setup ≠ 1

/-- The transfer a Linux host submits for its setup packet. -/
def Request.submittedByLinux (request : Request) : Bool :=
  request.ep = 0 ∧
    request.transferBufferLength.toNat =
      Setup.wLength request.command.submit.setup ∧
    request.direction =
      if Setup.deviceToHost request.command.submit.setup ∧
          0 < Setup.wLength request.command.submit.setup then 1
      else 0

def descriptorDocumented (dev : UsbipDevice) (setup : Setup) : Bool :=
  setup.wValueHigh = usbDescriptorTypeDevice ∨
    setup.wValueHigh = usbDescriptorTypeConfiguration ∨
    setup.wValueHigh = usbDescriptorTypeString ∧
      (setup.wValueLow = 0 ∨
        (textOf (beforeTerminator dev.usbStrings) setup.wValueLow).isSome) ∨
    (setup.wValueHigh = usbDescriptorTypeDeviceQualifier ∨
      setup.wValueHigh = usbDescriptorTypeOtherSpeedConfiguration) ∧
      2 ≤ (byteAt dev.deviceDesc 3).toNat

def deviceDocumented (dev : UsbipDevice) (setup : Setup) : Bool :=
  if Setup.deviceToHost setup then
    setup.bRequest = usbRequestGetStatus ∨
      setup.bRequest = usbRequestGetConfiguration ∨
      setup.bRequest = usbRequestGetDescriptor ∧ descriptorDocumented dev setup
  else setup.bRequest = usbRequestSetConfiguration

def endpointDocumented (setup : Setup) : Bool :=
  if Setup.deviceToHost setup then setup.bRequest = usbRequestGetStatus
  else setup.bRequest = usbRequestClearFeature ∨
    setup.bRequest = usbRequestSetFeature

def documented (dev : UsbipDevice) (setup : Setup) : Bool :=
  Setup.recipient setup = 0 ∧ deviceDocumented dev setup ∨
    Setup.recipient setup = 2 ∧ endpointDocumented setup

/-- Requests that are acknowledged whether or not they are on the list: they
ask for data and leave no room for it, or they ask an endpoint for its status
in the wrong direction. -/
def acknowledged (setup : Setup) : Bool :=
  Setup.deviceToHost setup ∧ Setup.wLength setup = 0 ∧
      (Setup.recipient setup = 0 ∨ Setup.recipient setup = 2 ∧
        (setup.bRequest = usbRequestClearFeature ∨
          setup.bRequest = usbRequestSetFeature)) ∨
    Setup.deviceToHost setup = false ∧ Setup.recipient setup = 2 ∧
      setup.bRequest = usbRequestGetStatus

def AsDocumented (dev : UsbipDevice) (setup : Setup) (reply : Reply) : Prop :=
  if documented dev setup then reply.ret.status = 0
  else reply.ret.status = epStall ∧ reply.data = []

section

variable {dev : UsbipDevice} {setup : Setup} {reqSize : Nat}
  {configurationValue : Byte}

/-- `GET_DESCRIPTOR` never fails, it just may have no answer. -/
theorem getDescriptor_kind :
    (getDescriptor dev setup reqSize).answers =
        descriptorDocumented dev setup ∧
      (getDescriptor dev setup reqSize).supported = true ∧
      getDescriptor dev setup reqSize ≠ .callback := by
  simp only [getDescriptor, descriptorDocumented]
  split_ifs with device configuration qualifier otherSpeed string langid
  · simp [device, ControlAction.answers, ControlAction.supported]
  · simp [configuration, ControlAction.answers, ControlAction.supported]
  · simp [qualifier, ControlAction.answers, ControlAction.supported]
  · simp [otherSpeed, ControlAction.answers, ControlAction.supported]
  · simp [string, langid, ControlAction.answers, ControlAction.supported]
  · rw [getString_eq langid]
    cases textOf (beforeTerminator dev.usbStrings) setup.wValueLow with
    | none | some =>
        simp [string, langid, ControlAction.answers, ControlAction.supported,
          usbDescriptorTypeString, usbDescriptorTypeDevice,
          usbDescriptorTypeConfiguration, usbDescriptorTypeDeviceQualifier,
          usbDescriptorTypeOtherSpeedConfiguration]
  · have neither : ¬ ((setup.wValueHigh = usbDescriptorTypeDeviceQualifier ∨
        setup.wValueHigh = usbDescriptorTypeOtherSpeedConfiguration) ∧
        2 ≤ (byteAt dev.deviceDesc 3).toNat) := by
      rintro ⟨kind | kind, major⟩
      · exact qualifier ⟨kind, major⟩
      · exact otherSpeed ⟨kind, major⟩
    simp [device, configuration, string, neither, ControlAction.answers,
      ControlAction.supported]

theorem deviceRequest_inward (inward : Setup.deviceToHost setup = true) :
    (deviceRequest dev configurationValue setup reqSize).answers =
        deviceDocumented dev setup ∧
      (deviceRequest dev configurationValue setup reqSize).supported = true ∧
      deviceRequest dev configurationValue setup reqSize ≠ .callback := by
  obtain ⟨answers, supported, itself⟩ := @getDescriptor_kind dev setup reqSize
  simp only [deviceRequest, deviceDocumented, inward, if_true]
  split_ifs with status powered descriptor configuration
  · simp [status, ControlAction.answers, ControlAction.supported]
  · simp [status, ControlAction.answers, ControlAction.supported]
  · rw [answers, supported]
    simp [descriptor, itself, usbRequestGetDescriptor, usbRequestGetStatus,
      usbRequestGetConfiguration]
  · simp [configuration, ControlAction.answers, ControlAction.supported]
  · simp [status, descriptor, configuration, ControlAction.answers,
      ControlAction.supported]

theorem deviceRequest_outward (outward : Setup.deviceToHost setup = false) :
    (deviceRequest dev configurationValue setup reqSize).supported =
      deviceDocumented dev setup := by
  simp only [deviceRequest, deviceDocumented, outward, Bool.false_eq_true,
    if_false]
  split_ifs with configuration
  · simp [configuration, ControlAction.supported]
  · simp [configuration, ControlAction.supported]

theorem endpointRequest_kind :
    ((endpointRequest setup).answers = true ↔
        setup.bRequest = usbRequestGetStatus) ∧
      ((endpointRequest setup).supported = true ↔
        setup.bRequest = usbRequestGetStatus ∨
          setup.bRequest = usbRequestClearFeature ∨
          setup.bRequest = usbRequestSetFeature) ∧
      endpointRequest setup ≠ .callback := by
  simp only [endpointRequest]
  split_ifs with status feature
  · simp [status, ControlAction.answers, ControlAction.supported]
  · simp [status, feature, ControlAction.answers, ControlAction.supported]
  · simp [status, feature, ControlAction.answers, ControlAction.supported]

end

section

variable {dev : UsbipDevice} {s : State} {request : Request}

theorem Request.submittedByLinux_iff :
    request.submittedByLinux = true ↔
      request.ep = 0 ∧
        request.transferBufferLength.toNat =
          Setup.wLength request.command.submit.setup ∧
        request.direction =
          if Setup.deviceToHost request.command.submit.setup ∧
              0 < Setup.wLength request.command.submit.setup then 1
          else 0 :=
  decide_eq_true_iff

theorem Request.submittedByLinux.inward
    (linux : request.submittedByLinux = true) :
    request.direction = 1 ∧ 0 < request.transferBufferLength.toNat ↔
      Setup.deviceToHost request.command.submit.setup = true ∧
        0 < Setup.wLength request.command.submit.setup := by
  obtain ⟨_, length, direction⟩ := Request.submittedByLinux_iff.mp linux
  rw [direction, length]
  split
  next inward => simp [inward.1, inward.2]
  next outward => 
    constructor
    · rintro ⟨contrary, _⟩
      simp at contrary
    · intro inward
      exact absurd inward outward

theorem Request.stalls_iff (linux : request.submittedByLinux = true)
    (action : ControlAction) :
    request.stalls action = true ↔
      action.supported = false ∨
        (Setup.deviceToHost request.command.submit.setup = true ∧
          0 < Setup.wLength request.command.submit.setup) ∧
          action.answers = false := by
  rw [← Request.submittedByLinux.inward linux]
  simp [Request.stalls, and_assoc]

theorem action_standard (configurationValue : Byte)
    (standard : Setup.isStandard request.command.submit.setup = true) :
    request.action dev configurationValue =
      if Setup.recipient request.command.submit.setup = 0 then
        deviceRequest dev configurationValue request.command.submit.setup
          request.transferBufferLength.toNat
      else if Setup.recipient request.command.submit.setup = 2 then
        endpointRequest request.command.submit.setup
      else .unsupported := by
  obtain ⟨type, apart⟩ := of_decide_eq_true standard
  have dispatched : request.action dev configurationValue =
      if Setup.recipient request.command.submit.setup = 0 then
        deviceRequest dev configurationValue request.command.submit.setup
          request.transferBufferLength.toNat
      else if Setup.recipient request.command.submit.setup = 1 then .callback
      else if Setup.recipient request.command.submit.setup = 2 then
        endpointRequest request.command.submit.setup
      else .unsupported := if_neg (not_not_intro type)
  rw [dispatched, if_neg apart]

/-- The requests that are stalled are those that are neither listed nor
acknowledged. -/
theorem stalls_standard (configurationValue : Byte)
    (standard : Setup.isStandard request.command.submit.setup = true)
    (linux : request.submittedByLinux = true) :
    request.stalls (request.action dev configurationValue) = true ↔
      documented dev request.command.submit.setup = false ∧
        acknowledged request.command.submit.setup = false := by
  rw [request.stalls_iff linux, action_standard configurationValue standard]
  generalize request.transferBufferLength.toNat = length
  generalize request.command.submit.setup = setup
  split_ifs with device endpoint
  · have other : Setup.recipient setup ≠ 2 := by
      rw [device]
      decide
    cases inward : Setup.deviceToHost setup with
    | true =>
        obtain ⟨answers, supported, _⟩ :=
          @deviceRequest_inward dev setup length configurationValue inward
        rw [answers, supported]
        simp only [documented, acknowledged, device, inward]
        cases deviceDocumented dev setup <;> simp [Nat.pos_iff_ne_zero]
    | false =>
        have supported :=
          @deviceRequest_outward dev setup length configurationValue inward
        rw [supported]
        simp only [documented, acknowledged, device, inward]
        cases deviceDocumented dev setup <;> simp
  · obtain ⟨answers, supported, _⟩ := @endpointRequest_kind setup
    rw [← Bool.not_eq_true, supported, ← Bool.not_eq_true, answers]
    by_cases status : setup.bRequest = usbRequestGetStatus
    · cases inward : Setup.deviceToHost setup with
      | true | false =>
          simp [documented, acknowledged, endpoint, endpointDocumented, inward,
            status]
    · by_cases feature : setup.bRequest = usbRequestClearFeature ∨
          setup.bRequest = usbRequestSetFeature
      · cases inward : Setup.deviceToHost setup with
        | true | false =>
            simp [documented, acknowledged, endpoint, endpointDocumented,
              inward, status, feature, Nat.pos_iff_ne_zero]
      · cases inward : Setup.deviceToHost setup with
        | true | false =>
            simp [documented, acknowledged, endpoint, endpointDocumented,
              inward, status, feature]
  · simp [documented, acknowledged, device, endpoint, ControlAction.supported]

theorem action_standard_callback {configurationValue : Byte}
    (standard : Setup.isStandard request.command.submit.setup = true)
    (does : request.action dev configurationValue = .callback) :
    Setup.deviceToHost request.command.submit.setup = false ∧
      request.command.submit.setup.bRequest = usbRequestSetConfiguration := by
  rw [action_standard configurationValue standard] at does
  split_ifs at does with device endpoint
  · cases inward : Setup.deviceToHost request.command.submit.setup with
    | true => exact absurd does (deviceRequest_inward inward).2.2
    | false =>
        simp only [deviceRequest, inward, Bool.false_eq_true, if_false] at does
        split at does
        next configuration => exact ⟨rfl, configuration⟩
        next => contradiction
  · exact absurd does endpointRequest_kind.2.2

theorem answerable_standard
    (standard : Setup.isStandard request.command.submit.setup = true)
    (linux : request.submittedByLinux = true) :
    Answerable dev fun other => decide (other = request) := by
  obtain ⟨control, _, direction⟩ := Request.submittedByLinux_iff.mp linux
  refine answerable_single control ?_
  intro inward configurationValue does
  have outward := (action_standard_callback standard does).1
  rw [direction, outward] at inward
  simp at inward

theorem Replies.asDocumented_iff {reply : Reply}
    (replied : Replies dev request reply)
    (standard : Setup.isStandard request.command.submit.setup = true)
    (linux : request.submittedByLinux = true) :
    AsDocumented dev request.command.submit.setup reply ↔
      documented dev request.command.submit.setup = true ∨
        acknowledged request.command.submit.setup = false := by
  obtain ⟨value, status, data⟩ := replied.outcome
  have verdict := @stalls_standard dev request value standard linux
  have answered : request.stalls (request.action dev value) = false →
      reply.ret.status = 0 := by
    intro accepted
    rw [accepted] at status
    exact status
  rw [AsDocumented]
  cases listed : documented dev request.command.submit.setup with
  | true =>
      have accepted : request.stalls (request.action dev value) = false := by
        rw [← Bool.not_eq_true, verdict, listed]
        simp
      simpa using answered accepted
  | false =>
      cases quiet : acknowledged request.command.submit.setup with
      | true =>
          have accepted : request.stalls (request.action dev value) =
              false := by
            rw [← Bool.not_eq_true, verdict, quiet]
            simp
          rw [answered accepted]
          simp [epStall]
      | false =>
          have refused := verdict.mpr ⟨listed, quiet⟩
          rw [refused] at status
          rw [Request.carries_stalled refused] at data
          simpa using ⟨status, List.map_eq_nil_iff.mp data⟩

/-- In every run in which no other thread transmits on endpoint 0 while a
standard request is answered, its reply is the documented one just when the
request is on the list or not among the acknowledged ones.  It is replied to
unless the write fails, and only `SET_CONFIGURATION` has to wait for the
callback. -/
theorem standardRequests
    (reached : (server dev).Reaches
      (fun s label => answeredAlone request s label = true) initial s)
    (submitted : Event.submit request ∈ s.trace)
    (standard : Setup.isStandard request.command.submit.setup = true)
    (linux : request.submittedByLinux = true) :
    (∀ reply, Event.retSubmit reply ∈ s.trace →
      reply.transfer.ticket = request.ticket →
      (AsDocumented dev request.command.submit.setup reply ↔
        documented dev request.command.submit.setup = true ∨
          acknowledged request.command.submit.setup = false)) ∧
    (s.phase.held ≠ some request → Concluded request s) ∧
    ∀ clock, ∃ count final, count ≤ 4 ∧
      (server dev).run s (List.replicate count (.server clock)) = some final ∧
      (Concluded request final ∨ final.phase.callsBack = true ∧
        request.command.submit.setup.bRequest =
          usbRequestSetConfiguration) := by
  have answerable : Answerable dev fun other => decide (other = request) :=
    answerable_standard standard linux
  have handled := reached_handled answerable reached
  have chosen : decide (request = request) = true := decide_eq_true rfl
  refine ⟨?_, ?_, ?_⟩
  · intro reply member same
    exact (handled.replied request reply submitted chosen member
      same).asDocumented_iff standard linux
  · intro away
    exact (handled.settled request submitted chosen).reply_or_failure away
  · intro clock
    obtain ⟨count, final, few, executed, ended⟩ :=
      handled_progress clock answerable reached submitted chosen
    refine ⟨count, final, few.trans (Phase.sectionsLeft_le _), executed, ?_⟩
    rcases ended with ⟨away, settled⟩ | ⟨waits, stage⟩
    · exact .inl (settled.reply_or_failure away)
    · obtain ⟨value, does⟩ := stage.callback_of_callsBack waits
      exact .inr ⟨waits, (action_standard_callback standard does).2⟩

end

/-! A request the library does not know, with and without a data stage. -/

def unknownRequest (direction : UInt32) (length : Byte) : Request :=
  ⟨0, ⟨⟨usbipCmdSubmit, 1, 0, direction, 0⟩,
    ⟨0, UInt32.ofNat length.toNat, 0, 0, 0,
      ⟨0x80, 0x0a, 0, 0, 0, 0, length, 0⟩⟩, [], []⟩⟩

def unknownRead (direction : UInt32) (length : Byte) (sections : Nat) : State :=
  allowedAfter sampleDevice (answeredAlone (unknownRequest direction length))
    initial (importLabels [.submit (unknownRequest direction length).command] ++
      .wait true :: List.replicate sections (.server 0))

def unknownReply (direction : UInt32) (length : Byte) (status : UInt32) :
    Reply where
  transfer := (unknownRequest direction length).transfer false
  ret := ⟨status, 0, 0, 0xffffffff, 0⟩
  data := []
  packets := []

theorem standardRequests_stalled :
    Event.retSubmit (unknownReply 1 1 epStall) ∈ (unknownRead 1 1 3).trace ∧
      AsDocumented sampleDevice (unknownRequest 1 1).command.submit.setup
        (unknownReply 1 1 epStall) := by
  have submitted : Event.submit (unknownRequest 1 1) ∈
      (unknownRead 1 1 3).trace := by decide +kernel
  have replied : Event.retSubmit (unknownReply 1 1 epStall) ∈
      (unknownRead 1 1 3).trace := by decide +kernel
  have answered := (standardRequests
    (allowedAfter_reached sampleDevice (answeredAlone (unknownRequest 1 1))
      initial _) submitted (by decide) (by decide)).1 _ replied rfl
  exact ⟨replied, answered.mpr (.inr (by decide))⟩

theorem standardRequests_acknowledged :
    Reachable sampleDevice (unknownRead 0 0 1) ∧
      (unknownRequest 0 0).submittedByLinux = true ∧
      Setup.isStandard (unknownRequest 0 0).command.submit.setup = true ∧
      documented sampleDevice (unknownRequest 0 0).command.submit.setup =
        false ∧
      Event.retSubmit (unknownReply 0 0 0) ∈ (unknownRead 0 0 1).trace ∧
      ¬ AsDocumented sampleDevice (unknownRequest 0 0).command.submit.setup
        (unknownReply 0 0 0) := by
  have unlisted : documented sampleDevice
      (unknownRequest 0 0).command.submit.setup = false := by decide
  refine ⟨.of_allowed (allowedAfter_reached sampleDevice
    (answeredAlone (unknownRequest 0 0)) initial _), by decide, by decide,
    unlisted, by decide +kernel, ?_⟩
  rw [AsDocumented, unlisted]
  rintro ⟨stalled, _⟩
  exact absurd stalled (by decide)

end UsbipServer
