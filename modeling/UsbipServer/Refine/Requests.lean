import UsbipServer.Refine.Rectangle

namespace UsbipServer.Gud

open Wire Library

/-! The ways a control request can go, whichever formats are offered. -/

def orders (setup : Setup) (bRequest : Byte) : Bool :=
  setup.bmRequestType = requestTypeVendorInterfaceOut ∧
    setup.wIndexHigh.toUInt16 <<< 8 ||| setup.wIndexLow.toUInt16 =
      gudInterface ∧
    setup.bRequest = bRequest

def asksStatus (setup : Setup) : Bool :=
  setup.bmRequestType = requestTypeVendorInterfaceIn ∧
    setup.bRequest = gudReqGetStatus

/-- What `GUD_REQ_SET_BUFFER` is checked for when the display has `format`. -/
structure Announced (format : Byte) (req : SetBufferReq) : Prop where
  inside : req.inside = true
  chosen : format ≠ 0
  length : req.length = lineLength format req.width * req.height
  plain : req.compression = 0
  wanted : req.length ≠ 0
  fits : req.length ≤ displayMaxBufferSize

/-- What `GUD_REQ_SET_STATE_CHECK` is checked for. -/
structure Acceptable (formats data : List Byte) : Prop where
  complete : StateReq.size ≤ data.length
  whole : (data.length - StateReq.size) % PropertyReq.size = 0
  wide : (StateReq.decode data).mode.hdisplay.toUInt32 = displayWidth
  high : (StateReq.decode data).mode.vdisplay.toUInt32 = displayHeight
  offered : isOfferedFormatOf formats (StateReq.decode data).format = true
  connector : (StateReq.decode data).connector = 0
  properties : Display.propertiesAccepted data = true

inductive Outcome (formats : List Byte) (display : Display) (setup : Setup)
    (data : List Byte) : Display → Option (List Byte) → Prop
  | ignored : Outcome formats display setup data display none
  | refused (status : Status) (failed : status ≠ .ok) :
      Outcome formats display setup data
        { display with lastStatus := status } none
  | reported (asked : asksStatus setup = true) (reply : List Byte) :
      Outcome formats display setup data display (some reply)
  | answered (reply : List Byte) :
      Outcome formats display setup data
        { display with lastStatus := .ok } (some reply)
  | detected :
      Outcome formats display setup data { display with lastStatus := .ok } none
  | announced (asked : orders setup gudReqSetBuffer = true)
      (valid : Announced display.currentFormat (SetBufferReq.decode data)) :
      Outcome formats display setup data
        { display with
          lastStatus := .ok
          pending := ⟨true, SetBufferReq.decode data,
            (SetBufferReq.decode data).length, 0⟩ } none
  | checked (asked : orders setup gudReqSetStateCheck = true)
      (valid : Acceptable formats data) :
      Outcome formats display setup data
        { display with
          lastStatus := .ok
          checkedState := StateReq.decode data
          stateChecked := true } none
  | committed (asked : orders setup gudReqSetStateCommit = true)
      (valid : display.stateChecked = true) :
      Outcome formats display setup data
        { display with
          lastStatus := .ok
          currentFormat := display.checkedState.format
          stateChecked := false } none
  | switched (controller enabled : Bool) :
      Outcome formats display setup data
        { display with
          lastStatus := .ok
          controllerEnabled := controller
          displayEnabled := enabled } none

section

variable {formats : List Byte} {display : Display} {data : List Byte}

theorem setBuffer_spec (display : Display) (data : List Byte) :
    (∃ status, status ≠ .ok ∧ display.setBuffer data = (status, display)) ∨
      Announced display.currentFormat (SetBufferReq.decode data) ∧
        display.setBuffer data = (.ok, { display with
          pending := ⟨true, SetBufferReq.decode data,
            (SetBufferReq.decode data).length, 0⟩ }) := by
  unfold Display.setBuffer
  split
  · exact .inl ⟨_, by decide, rfl⟩
  · dsimp only
    split
    · exact .inl ⟨_, by decide, rfl⟩
    next valid =>
      simp only [Bool.or_eq_true, Bool.not_eq_true', decide_eq_true_eq,
        not_or, Bool.not_eq_false, ne_eq, not_not] at valid
      obtain ⟨⟨inside, chosen⟩, length⟩ := valid
      rw [compression_unmasked]
      split
      · exact .inl ⟨_, by decide, rfl⟩
      next uncompressed =>
        have plain : (SetBufferReq.decode data).compression = 0 := by
          simpa using uncompressed
        have transfer : (if (SetBufferReq.decode data).compression ≠ 0 then
            (SetBufferReq.decode data).compressedLength
            else (SetBufferReq.decode data).length) =
              (SetBufferReq.decode data).length := if_neg (by simpa using plain)
        rw [transfer]
        split
        · exact .inl ⟨_, by decide, rfl⟩
        next fits =>
          rw [not_or, UInt32.not_lt] at fits
          exact .inr ⟨⟨inside, chosen, length, plain, fits.1, fits.2⟩, rfl⟩

theorem setStateCheckOf_spec (display : Display) (formats data : List Byte) :
    (¬ Acceptable formats data ∧ ∃ status, status ≠ .ok ∧
        display.setStateCheckOf formats data = (status, display)) ∨
      Acceptable formats data ∧
        display.setStateCheckOf formats data = (.ok, { display with
          checkedState := StateReq.decode data
          stateChecked := true }) := by
  unfold Display.setStateCheckOf
  split
  next short =>
    refine .inl ⟨fun valid => ?_, _, by decide, rfl⟩
    rcases short with short | partly
    · exact Nat.lt_irrefl _ (Nat.lt_of_lt_of_le short valid.complete)
    · exact partly valid.whole
  next long =>
    dsimp only
    split
    next wrong =>
      refine .inl ⟨fun valid => ?_, _, by decide, rfl⟩
      rcases wrong with wide | high | offered | connector
      · exact wide valid.wide
      · exact high valid.high
      · rw [valid.offered] at offered
        contradiction
      · exact connector valid.connector
    next right =>
      simp only [not_or, not_lt, ne_eq, not_not, Bool.not_eq_false] at long right
      obtain ⟨wide, high, offered, connector⟩ := right
      split
      next rotated =>
        refine .inl ⟨fun valid => ?_, _, by decide, rfl⟩
        rw [valid.properties] at rotated
        contradiction
      next plain =>
        rw [Bool.not_eq_false] at plain
        exact .inr ⟨⟨long.1, long.2, wide, high, offered, connector, plain⟩,
          rfl⟩

variable {setup : Setup} {bRequest : Byte}

theorem orders_iff :
    orders setup bRequest = true ↔
      setup.bmRequestType = requestTypeVendorInterfaceOut ∧
        setup.wIndexHigh.toUInt16 <<< 8 ||| setup.wIndexLow.toUInt16 =
          gudInterface ∧
        setup.bRequest = bRequest :=
  decide_eq_true_iff

theorem asksStatus_iff :
    asksStatus setup = true ↔
      setup.bmRequestType = requestTypeVendorInterfaceIn ∧
        setup.bRequest = gudReqGetStatus :=
  decide_eq_true_iff

theorem controlDataOf_orders (nowMs : UInt64)
    (asked : orders setup bRequest = true) :
    display.controlDataOf formats nowMs setup data =
      (display.setRequestOf formats bRequest data, none) := by
  obtain ⟨out, wIndex, rfl⟩ := orders_iff.mp asked
  have vendor : ¬ (setup.bmRequestType ≠ requestTypeVendorInterfaceIn ∧
      setup.bmRequestType ≠ requestTypeVendorInterfaceOut) :=
    fun neither => neither.2 out
  have writes : setup.bmRequestType ≠ requestTypeVendorInterfaceIn := by
    rw [out]
    decide
  simp only [Display.controlDataOf, if_neg vendor, if_neg (not_not.mpr wIndex),
    if_neg writes]

theorem getRequestOf_outcome (nowMs : UInt64) (wValue : UInt16)
    (reads : setup.bmRequestType = requestTypeVendorInterfaceIn) :
    Outcome formats display setup data
      (display.getRequestOf formats nowMs setup.bRequest wValue).1
      (display.getRequestOf formats nowMs setup.bRequest wValue).2 := by
  unfold Display.getRequestOf
  split
  next status => exact .reported (asksStatus_iff.mpr ⟨reads, status⟩) _
  · unfold Display.getConnectorRequest
    repeat' split
    all_goals first
      | exact .answered _
      | exact .refused _ (by decide)

theorem setRequestOf_outcome (asked : orders setup bRequest = true) :
    Outcome formats display setup data
      (display.setRequestOf formats bRequest data) none := by
  unfold Display.setRequestOf
  dsimp only
  split
  · exact .detected
  split
  next kind =>
    subst kind
    rcases setBuffer_spec display data with
      ⟨status, failed, result⟩ | ⟨valid, result⟩
    · rw [result]
      exact .refused status failed
    · rw [result]
      exact .announced asked valid
  split
  next kind =>
    subst kind
    rcases setStateCheckOf_spec display formats data with
      ⟨_, status, failed, result⟩ | ⟨valid, result⟩
    · rw [result]
      exact .refused status failed
    · rw [result]
      exact .checked asked valid
  split
  next kind =>
    subst kind
    unfold Display.setStateCommit
    split
    · exact .refused .protocolError (by decide)
    next checked =>
      rw [Bool.not_eq_false] at checked
      exact .committed asked checked
  unfold Display.setEnable
  split
  · split
    · exact .refused .protocolError (by decide)
    · exact .switched _ display.displayEnabled
  split
  · split
    · exact .refused .protocolError (by decide)
    · exact .switched display.controllerEnabled _
  · exact .refused .requestNotSupported (by decide)

theorem controlDataOf_outcome (formats : List Byte) (nowMs : UInt64)
    (setup : Setup) (data : List Byte) (display : Display) :
    Outcome formats display setup data
      (display.controlDataOf formats nowMs setup data).1
      (display.controlDataOf formats nowMs setup data).2 := by
  by_cases vendor : setup.bmRequestType ≠ requestTypeVendorInterfaceIn ∧
      setup.bmRequestType ≠ requestTypeVendorInterfaceOut
  · simp only [Display.controlDataOf, if_pos vendor]
    exact .ignored
  by_cases wIndex : setup.wIndexHigh.toUInt16 <<< 8 |||
      setup.wIndexLow.toUInt16 ≠ gudInterface
  · simp only [Display.controlDataOf, if_neg vendor, if_pos wIndex]
    exact .refused .invalidParameter (by decide)
  by_cases reads : setup.bmRequestType = requestTypeVendorInterfaceIn
  · simp only [Display.controlDataOf, if_neg vendor, if_neg wIndex,
      if_pos reads]
    exact getRequestOf_outcome nowMs _ reads
  have out : setup.bmRequestType = requestTypeVendorInterfaceOut := by
    by_contra neither
    exact vendor ⟨reads, neither⟩
  have asked : orders setup setup.bRequest = true :=
    orders_iff.mpr ⟨out, not_not.mp wIndex, rfl⟩
  rw [controlDataOf_orders nowMs asked]
  exact setRequestOf_outcome asked

structure Untouched (display next : Display) : Prop where
  format : next.currentFormat = display.currentFormat
  checked : next.stateChecked = display.stateChecked
  state : next.checkedState = display.checkedState
  pending : next.pending.active = true → display.pending.active = true ∧
    next.pending.req = display.pending.req ∧
    next.pending.transferLength = display.pending.transferLength ∧
    next.pending.received < next.pending.transferLength

theorem storeRectangle_some {rect : SetBufferReq} {pixels : Buffer Byte}
    {display next : Display}
    (stored : display.storeRectangle rect pixels = some next) :
    next = { display with
      framebuffer := next.framebuffer
      framebufferChanged := next.framebufferChanged } := by
  unfold Display.storeRectangle at stored
  dsimp only at stored
  split at stored
  · obtain rfl := Option.some.inj stored
    rfl
  · obtain ⟨framebuffer, _, result⟩ := Option.bind_eq_some_iff.mp stored
    obtain rfl := Option.some.inj result
    rfl

theorem endpointData_untouched {display next : Display} {data : List Byte}
    (received : display.endpointData data = some next) :
    Untouched display next := by
  unfold Display.endpointData at received
  dsimp only at received
  split at received
  · obtain rfl := Option.some.inj received
    exact ⟨rfl, rfl, rfl, nofun⟩
  next kept =>
    have active : display.pending.active = true := by
      rw [not_or, Bool.not_eq_false] at kept
      exact kept.1
    obtain ⟨transferBuffer, _, received⟩ := Option.bind_eq_some_iff.mp received
    split at received
    next lacks =>
      obtain rfl := Option.some.inj received
      exact ⟨rfl, rfl, rfl, fun _ => ⟨active, rfl, rfl, lacks⟩⟩
    · split at received
      · obtain rfl := Option.some.inj received
        exact ⟨rfl, rfl, rfl, nofun⟩
      · obtain ⟨after, stored, result⟩ := Option.bind_eq_some_iff.mp received
        obtain rfl := Option.some.inj result
        rw [storeRectangle_some stored]
        exact ⟨rfl, rfl, rfl, nofun⟩

end

end UsbipServer.Gud
