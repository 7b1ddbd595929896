import UsbipServer.Refine.Handled

namespace UsbipServer

open Wire Library

/-! A host that asks for a string gets the text of the table back, or a
stall. -/

/-- A control IN transfer with `GET_DESCRIPTOR(STRING, index)`. -/
def Request.asksString (request : Request) : Bool :=
  request.ep = 0 ∧ request.direction = 1 ∧
    request.command.submit.setup.bmRequestType = 0x80 ∧
    request.command.submit.setup.bRequest = usbRequestGetDescriptor ∧
    request.command.submit.setup.wValueHigh = usbDescriptorTypeString ∧
    request.command.submit.setup.wValueLow ≠ 0 ∧
    0 < request.transferBufferLength.toNat

def textOf (entries : List UsbString) (index : Byte) : Option (List Byte) :=
  (entries.find? fun entry => entry.id = index).bind UsbString.string

def codeUnits : List Byte → List Nat
  | low :: high :: rest => (high.toNat * 256 + low.toNat) :: codeUnits rest
  | _ => []

/-- What a host makes of the descriptor of a text. -/
structure DescribesText (text descriptor : List Byte) : Prop where
  length : descriptor.length = 2 * min text.length 126 + 2
  bLength : (byteAt descriptor 0).toNat = descriptor.length
  bDescriptorType : byteAt descriptor 1 = usbDescriptorTypeString
  characters : codeUnits (descriptor.drop 2) =
    (text.take (min text.length 126)).map UInt8.toNat

theorem codeUnits_flatMap (text : List Byte) :
    codeUnits (text.flatMap fun unit => [unit, 0]) = text.map UInt8.toNat := by
  induction text with
  | nil => rfl
  | cons unit rest induction =>
      simp only [List.flatMap_cons, List.cons_append, List.nil_append,
        codeUnits, induction, List.map_cons]
      simp

theorem length_units (text : List Byte) :
    (text.flatMap fun unit => [unit, (0 : Byte)]).length = 2 * text.length := by
  induction text with
  | nil => rfl
  | cons unit rest induction =>
      simp only [List.flatMap_cons, List.length_append, induction,
        List.length_cons, List.length_nil]
      omega

theorem length_stringDescriptor (text : List Byte) :
    (stringDescriptor text).length = 2 * min text.length 126 + 2 := by
  simp only [stringDescriptor, List.length_cons, length_units, List.length_take]
  omega

theorem stringDescriptor_describes (text : List Byte) :
    DescribesText text (stringDescriptor text) := by
  refine ⟨length_stringDescriptor text, ?_, rfl, ?_⟩
  · rw [length_stringDescriptor]
    simp only [stringDescriptor, byteAt, List.getD_cons_zero,
      UInt8.toNat_ofNat', List.length_take]
    omega
  · have first : text.take (min text.length 126) = text.take 126 := by
      rw [Nat.min_comm]
      exact List.take_eq_take_min.symm
    rw [first]
    exact codeUnits_flatMap (text.take 126)

def beforeTerminator (table : List UsbString) : List UsbString :=
  table.takeWhile fun entry => entry.id ≠ 0

theorem getString_eq {index : Byte} (some : index ≠ 0)
    (table : List UsbString) :
    getString table index = textOf (beforeTerminator table) index := by
  induction table with
  | nil => rfl
  | cons entry rest induction =>
      rw [getString]
      by_cases last : entry.id = 0
      · have other : ¬ entry.id = index := by
          rw [last]
          exact some.symm
        rw [if_neg other, if_pos last]
        simp [beforeTerminator, textOf, last]
      · by_cases same : entry.id = index
        · rw [if_pos same]
          simp [beforeTerminator, textOf, some, same]
        · rw [if_neg same, if_neg last, induction]
          simp [beforeTerminator, textOf, last, same]

theorem beforeTerminator_append {entries beyond : List UsbString}
    {terminator : UsbString} (named : ∀ entry ∈ entries, entry.id ≠ 0)
    (ends : terminator.id = 0) :
    beforeTerminator (entries ++ terminator :: beyond) = entries := by
  rw [beforeTerminator, List.takeWhile_append_of_pos (by simpa using named)]
  simp [ends]

section

variable {dev : UsbipDevice} {s : State} {request : Request}
  {entries beyond : List UsbString} {terminator : UsbString}

theorem Request.asksString_iff :
    request.asksString = true ↔
      request.ep = 0 ∧ request.direction = 1 ∧
        request.command.submit.setup.bmRequestType = 0x80 ∧
        request.command.submit.setup.bRequest = usbRequestGetDescriptor ∧
        request.command.submit.setup.wValueHigh = usbDescriptorTypeString ∧
        request.command.submit.setup.wValueLow ≠ 0 ∧
        0 < request.transferBufferLength.toNat :=
  decide_eq_true_iff

def Request.stringIndex (request : Request) : Byte :=
  request.command.submit.setup.wValueLow

theorem action_string (configurationValue : Byte)
    (asked : request.asksString = true) :
    request.action dev configurationValue =
      ((getString dev.usbStrings request.stringIndex).elim .nothing
        fun text => .answer ((stringDescriptor text).take
          request.transferBufferLength.toNat)) := by
  obtain ⟨_, _, type, code, kind, index, _⟩ := Request.asksString_iff.mp asked
  have described : request.action dev configurationValue =
      getDescriptor dev request.command.submit.setup
        request.transferBufferLength.toNat := by
    simp [Request.action, usbipDeviceControl, deviceRequest,
      Setup.deviceToHost, type, code, usbRequestGetDescriptor,
      usbRequestGetStatus]
  rw [described, Request.stringIndex]
  cases found : getString dev.usbStrings
      request.command.submit.setup.wValueLow with
  | none | some =>
      simp [getDescriptor, kind, index, found, usbDescriptorTypeConfiguration,
        usbDescriptorTypeDevice, usbDescriptorTypeString,
        usbDescriptorTypeDeviceQualifier,
        usbDescriptorTypeOtherSpeedConfiguration]

theorem action_string_itself (asked : request.asksString = true)
    (configurationValue : Byte) :
    request.action dev configurationValue ≠ .callback := by
  rw [action_string configurationValue asked]
  cases getString dev.usbStrings request.stringIndex with
  | none | some => simp

theorem Replies.no_text {reply : Reply} (replied : Replies dev request reply)
    (asked : request.asksString = true)
    (missing : getString dev.usbStrings request.stringIndex = none) :
    reply.ret.status = epStall ∧ reply.data = [] := by
  obtain ⟨value, status, data⟩ := replied.outcome
  obtain ⟨_, inward, _, _, _, _, some⟩ := Request.asksString_iff.mp asked
  have refused : request.stalls (request.action dev value) = true := by
    rw [action_string value asked, missing]
    simp [Request.stalls, inward, some, ControlAction.answers]
  rw [refused] at status
  rw [Request.carries_stalled refused] at data
  exact ⟨status, List.map_eq_nil_iff.mp data⟩

/-- The buffer of endpoint 0 is large enough for every string. -/
theorem Replies.text {reply : Reply} {text : List Byte}
    (replied : Replies dev request reply) (asked : request.asksString = true)
    (found : getString dev.usbStrings request.stringIndex = some text) :
    reply.ret.status = 0 ∧ reply.data.map Cell.byte =
      (stringDescriptor text).take request.transferBufferLength.toNat := by
  obtain ⟨value, status, data⟩ := replied.outcome
  obtain ⟨_, inward, _⟩ := Request.asksString_iff.mp asked
  rw [action_string value asked, found, Option.elim] at status data
  rw [request.stalls_answer] at status
  have short : (stringDescriptor text).length ≤ endpointMaxDataLength := by
    rw [length_stringDescriptor, endpointMaxDataLength]
    omega
  refine ⟨status, ?_⟩
  rw [data, Request.carries_answer inward, List.take_take, List.take_take]
  apply (List.take_eq_take_iff).mpr
  omega

/-- In every run in which no other thread transmits on endpoint 0 while the
request is answered, it is stalled just when the table has no text for its
index, and answered with as much of the descriptor as was asked for
otherwise. -/
theorem stringDescriptors
    (table : dev.usbStrings = entries ++ terminator :: beyond)
    (named : ∀ entry ∈ entries, entry.id ≠ 0) (ends : terminator.id = 0)
    (reached : (server dev).Reaches
      (fun s label => answeredAlone request s label = true) initial s)
    (submitted : Event.submit request ∈ s.trace)
    (asks : request.asksString = true) :
    (∀ reply, Event.retSubmit reply ∈ s.trace →
      reply.transfer.ticket = request.ticket →
      (reply.ret.status = epStall ↔
        textOf entries request.stringIndex = none) ∧
      (reply.ret.status = epStall → reply.data = []) ∧
      ∀ text, textOf entries request.stringIndex = some text →
        reply.ret.status = 0 ∧ ∃ descriptor, DescribesText text descriptor ∧
          reply.data.map Cell.byte = descriptor.take
            (min request.transferBufferLength.toNat descriptor.length)) ∧
    ∀ clock, ∃ count final, count ≤ 4 ∧
      (server dev).run s (List.replicate count (.server clock)) = some final ∧
      Concluded request final := by
  obtain ⟨control, _, _, _, _, index, _⟩ := Request.asksString_iff.mp asks
  have answerable : Answerable dev fun other => decide (other = request) :=
    answerable_single control fun _ => action_string_itself asks
  have lookup : getString dev.usbStrings request.stringIndex =
      textOf entries request.stringIndex := by
    rw [Request.stringIndex, getString_eq index, table,
      beforeTerminator_append named ends]
  refine ⟨?_, ?_⟩
  · intro reply member same
    have replied := (reached_handled answerable reached).replied request reply
      submitted (decide_eq_true rfl) member same
    cases found : textOf entries request.stringIndex with
    | none =>
        obtain ⟨status, empty⟩ := replied.no_text asks (lookup.trans found)
        exact ⟨⟨fun _ => rfl, fun _ => status⟩, fun _ => empty,
          fun _ some => absurd some (by simp)⟩
    | some text =>
        obtain ⟨status, data⟩ := replied.text asks (lookup.trans found)
        have answered : reply.ret.status ≠ epStall := by
          rw [status]
          decide
        refine ⟨⟨fun stalled => absurd stalled answered, by simp⟩,
          fun stalled => absurd stalled answered, ?_⟩
        intro other same
        obtain rfl := Option.some.inj same
        refine ⟨status, stringDescriptor text, stringDescriptor_describes text,
          ?_⟩
        rw [data]
        exact List.take_eq_take_min
  · intro clock
    exact handled_answers clock answerable reached submitted
      (decide_eq_true rfl) (action_string_itself asks)

end

/-! A host reads seven bytes of a string, which cuts through a character. -/

def stringDevice : UsbipDevice :=
  { sampleDevice with
    usbStrings := [⟨1, some [0x55, 0x53, 0x42]⟩, ⟨2, none⟩, ⟨0, none⟩] }

def stringRequest (index : Byte) (length : UInt32) : Request :=
  ⟨0, ⟨⟨usbipCmdSubmit, 1, 0, 1, 0⟩,
    ⟨0, length, 0, 0, 0, ⟨0x80, 6, index, 3, 0, 0, 0, 0⟩⟩, [], []⟩⟩

def stringRead (index : Byte) (length : UInt32) : State :=
  allowedAfter stringDevice (answeredAlone (stringRequest index length)) initial
    (importLabels [.submit (stringRequest index length).command] ++
      [.wait true, .server 0, .server 0, .server 0, .server 0])

def stringReply (index : Byte) (length : UInt32) (bytes : List Byte) : Reply where
  transfer := (stringRequest index length).transfer false
  ret := ⟨0, UInt32.ofNat bytes.length, 0, 0xffffffff, 0⟩
  data := bytes.map fun byte => ⟨byte, some 0⟩
  packets := []

theorem stringDescriptors_cut :
    Event.retSubmit (stringReply 1 7 [8, 3, 0x55, 0, 0x53, 0, 0x42]) ∈
        (stringRead 1 7).trace ∧
      ∃ descriptor, DescribesText [0x55, 0x53, 0x42] descriptor ∧
        [8, 3, 0x55, 0, 0x53, 0, 0x42] =
          descriptor.take (min 7 descriptor.length) := by
  have submitted : Event.submit (stringRequest 1 7) ∈ (stringRead 1 7).trace := by
    decide +kernel
  have replied : Event.retSubmit (stringReply 1 7
      [8, 3, 0x55, 0, 0x53, 0, 0x42]) ∈ (stringRead 1 7).trace := by
    decide +kernel
  have table : stringDevice.usbStrings =
      [⟨1, some [0x55, 0x53, 0x42]⟩, ⟨2, none⟩] ++ ⟨0, none⟩ :: [] := rfl
  have answered := (stringDescriptors table (by decide) rfl
    (allowedAfter_reached stringDevice (answeredAlone (stringRequest 1 7))
      initial _) submitted (by decide)).1 _ replied rfl
  exact ⟨replied, (answered.2.2 [0x55, 0x53, 0x42] (by decide)).2⟩

end UsbipServer
