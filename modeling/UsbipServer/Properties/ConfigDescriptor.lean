import UsbipServer.Refine.Handled

namespace UsbipServer

open Wire Library

/-! A host that asks for the configuration descriptor gets all of it, as long
as what it asks for fits the buffer of endpoint 0. -/

/-- A control IN transfer with `GET_DESCRIPTOR(CONFIGURATION)`. -/
def Request.asksConfiguration (request : Request) : Bool :=
  request.ep = 0 ∧ request.direction = 1 ∧
    request.command.submit.setup.bmRequestType = 0x80 ∧
    request.command.submit.setup.bRequest = usbRequestGetDescriptor ∧
    request.command.submit.setup.wValueHigh = usbDescriptorTypeConfiguration

def Request.configuration (dev : UsbipDevice) (request : Request) : List Byte :=
  dev.configDesc.take
    (min request.transferBufferLength.toNat (totalLength dev.configDesc))

/-- What fits the buffer of endpoint 0. -/
def Request.served (dev : UsbipDevice) (request : Request) : List Byte :=
  (request.configuration dev).take endpointMaxDataLength

section

variable {dev : UsbipDevice} {s : State} {request : Request}

theorem Request.asksConfiguration_iff :
    request.asksConfiguration = true ↔
      request.ep = 0 ∧ request.direction = 1 ∧
        request.command.submit.setup.bmRequestType = 0x80 ∧
        request.command.submit.setup.bRequest = usbRequestGetDescriptor ∧
        request.command.submit.setup.wValueHigh =
          usbDescriptorTypeConfiguration :=
  decide_eq_true_iff

theorem action_configuration (configurationValue : Byte)
    (asked : request.asksConfiguration = true) :
    request.action dev configurationValue =
      .answer (request.configuration dev) := by
  obtain ⟨_, _, type, code, kind⟩ := Request.asksConfiguration_iff.mp asked
  simp [Request.action, usbipDeviceControl, deviceRequest, getDescriptor,
    Setup.deviceToHost, type, code, kind, usbRequestGetDescriptor,
    usbRequestGetStatus, usbDescriptorTypeConfiguration,
    usbDescriptorTypeDevice, Request.configuration]

theorem answerable_configuration :
    Answerable dev Request.asksConfiguration := by
  refine ⟨?_, ?_⟩
  · intro request asked
    exact (Request.asksConfiguration_iff.mp asked).1
  · intro request asked inward configurationValue
    rw [action_configuration configurationValue asked]
    simp

theorem Request.length_served (dev : UsbipDevice) (request : Request) :
    (request.served dev).length ≤ request.transferBufferLength.toNat := by
  simp only [Request.served, Request.configuration, List.length_take]
  omega

/-- The reply has what fits the buffer, it is not longer than the transfer. -/
theorem Replies.configuration {reply : Reply}
    (replied : Replies dev request reply)
    (asked : request.asksConfiguration = true) :
    reply.ret.status = 0 ∧ reply.data.map Cell.byte = request.served dev := by
  obtain ⟨value, status, data⟩ := replied.outcome
  have inward : request.direction = 1 :=
    (Request.asksConfiguration_iff.mp asked).2.1
  rw [action_configuration value asked] at status data
  rw [request.stalls_answer] at status
  rw [Request.carries_answer inward] at data
  exact ⟨status, data.trans (List.take_of_length_le (request.length_served dev))⟩

theorem Request.served_eq_iff (request : Request)
    (whole : totalLength dev.configDesc ≤ dev.configDesc.length) :
    request.served dev = dev.configDesc.take
        (min request.transferBufferLength.toNat (totalLength dev.configDesc)) ↔
      min request.transferBufferLength.toNat (totalLength dev.configDesc) ≤
        endpointMaxDataLength := by
  have length : (request.configuration dev).length =
      min request.transferBufferLength.toNat (totalLength dev.configDesc) := by
    simp only [Request.configuration, List.length_take]
    omega
  constructor
  · intro same
    have lengths := congrArg List.length same
    change (request.served dev).length = (request.configuration dev).length
      at lengths
    rw [Request.served, List.length_take, length] at lengths
    omega
  · intro fits
    apply List.take_of_length_le
    rw [length]
    exact fits

/-- In every run in which no other thread transmits on endpoint 0 meanwhile, a
request for the configuration descriptor is answered, and it is answered in
full just when the answer fits the buffer of endpoint 0. -/
theorem configurationServed
    (whole : totalLength dev.configDesc ≤ dev.configDesc.length)
    (reached : (server dev).Reaches
      (fun s label => aloneFor Request.asksConfiguration s label = true)
      initial s)
    (submitted : Event.submit request ∈ s.trace)
    (asks : request.asksConfiguration = true) :
    (∀ reply, Event.retSubmit reply ∈ s.trace →
      reply.transfer.ticket = request.ticket →
      (reply.ret.status = 0 ∧ reply.data.map Cell.byte =
          dev.configDesc.take (min request.transferBufferLength.toNat
            (totalLength dev.configDesc)) ↔
        min request.transferBufferLength.toNat (totalLength dev.configDesc) ≤
          endpointMaxDataLength)) ∧
    ∀ clock, ∃ count final, count ≤ 4 ∧
      (server dev).run s (List.replicate count (.server clock)) = some final ∧
      ((∃ reply, Event.retSubmit reply ∈ final.trace ∧
          reply.transfer = request.transfer false) ∨
        ∃ before after, final.trace = before ++ .submit request :: after ∧
          Event.writeFailed ∈ after) := by
  have handled := reached_handled answerable_configuration reached
  refine ⟨?_, ?_⟩
  · intro reply member same
    obtain ⟨status, data⟩ :=
      (handled.replied request reply submitted asks member same).configuration
        asks
    have full := request.served_eq_iff whole
    rw [data]
    exact ⟨fun answered => full.mp answered.2,
      fun fits => ⟨status, full.mpr fits⟩⟩
  · intro clock
    apply handled_answers clock answerable_configuration reached submitted
      asks
    intro value
    rw [action_configuration value asks]
    simp

end

def configurationRequest (length : UInt32) : Request :=
  ⟨0, ⟨⟨usbipCmdSubmit, 1, 0, 1, 0⟩,
    ⟨0, length, 0, 0, 0, ⟨0x80, 6, 0, 2, 0, 0, 0, 4⟩⟩, [], []⟩⟩

def configurationRead (dev : UsbipDevice) (length : UInt32) : State :=
  allowedAfter dev (aloneFor Request.asksConfiguration) initial
    (importLabels [.submit (configurationRequest length).command] ++
      [.wait true, .server 0, .server 0, .server 0, .server 0])

def configurationReply (length : UInt32) (bytes : List Byte) : Reply where
  transfer := (configurationRequest length).transfer false
  ret := ⟨0, UInt32.ofNat bytes.length, 0, 0xffffffff, 0⟩
  data := bytes.map fun byte => ⟨byte, some 0⟩
  packets := []

theorem configurationServed_sample :
    Event.retSubmit (configurationReply 64 sampleDevice.configDesc) ∈
        (configurationRead sampleDevice 64).trace ∧
      (configurationReply 64 sampleDevice.configDesc).data.map Cell.byte =
        sampleDevice.configDesc.take (min 64 37) := by
  have submitted : Event.submit (configurationRequest 64) ∈
      (configurationRead sampleDevice 64).trace := by decide +kernel
  have replied : Event.retSubmit (configurationReply 64
      sampleDevice.configDesc) ∈ (configurationRead sampleDevice 64).trace := by
    decide +kernel
  have served := (configurationServed (by decide)
    (allowedAfter_reached sampleDevice (aloneFor Request.asksConfiguration)
      initial _) submitted (by decide)).1 _ replied rfl
  exact ⟨replied, (served.mpr (by decide)).2⟩

/-- A configuration of 521 bytes. -/
def longDevice : UsbipDevice :=
  { sampleDevice with
    configDesc := [9, 2, 9, 2, 1, 1, 0, 0x40, 0] ++ List.replicate 512 0 }

theorem configurationServed_cut :
    Reachable longDevice (configurationRead longDevice 1024) ∧
      totalLength longDevice.configDesc = longDevice.configDesc.length ∧
      (configurationRequest 1024).asksConfiguration = true ∧
      ∃ reply, Event.retSubmit reply ∈ (configurationRead longDevice 1024).trace ∧
        reply.transfer = (configurationRequest 1024).transfer false ∧
        reply.data.map Cell.byte ≠ longDevice.configDesc.take
          (min 1024 (totalLength longDevice.configDesc)) := by
  have whole : totalLength longDevice.configDesc =
      longDevice.configDesc.length := by decide +kernel
  have asks : (configurationRequest 1024).asksConfiguration = true := by decide
  have reached := allowedAfter_reached longDevice
    (aloneFor Request.asksConfiguration) initial
    (importLabels [.submit (configurationRequest 1024).command] ++
      [.wait true, .server 0, .server 0, .server 0, .server 0])
  have handled := reached_handled answerable_configuration reached
  have submitted : Event.submit (configurationRequest 1024) ∈
      (configurationRead longDevice 1024).trace := by decide +kernel
  refine ⟨.of_allowed reached, whole, asks, ?_⟩
  rcases (handled.settled _ submitted asks).reply_or_failure
    (by decide +kernel) with
    ⟨reply, member, answered⟩ | ⟨before, after, split, failed⟩
  · refine ⟨reply, member, answered, ?_⟩
    have number : reply.transfer.ticket = (configurationRequest 1024).ticket :=
      congrArg Transfer.ticket answered
    rw [((handled.replied _ reply submitted asks member number).configuration
      asks).2]
    intro full
    have fits := (Request.served_eq_iff _ whole.le).mp full
    exact absurd fits (by decide +kernel)
  · have unsent : Event.writeFailed ∉
        (configurationRead longDevice 1024).trace := by decide +kernel
    have written : Event.writeFailed ∈
        (configurationRead longDevice 1024).trace := by
      rw [configurationRead, split]
      exact List.mem_append_right _ (List.mem_cons_of_mem _ failed)
    exact absurd written unsent

end UsbipServer
