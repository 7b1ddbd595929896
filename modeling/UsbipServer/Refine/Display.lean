import UsbipServer.Refine.Requests

namespace UsbipServer.Gud

open Wire Library

/-! The display refines the machine that gathers pixels for one rectangle after
the other. -/

abbrev Canvas := Gather.Canvas SetBufferReq Byte (Buffer Byte)

/-- The picture, and the rectangle that pixels are received for. -/
def Display.canvas (display : Display) : Canvas where
  image := display.framebuffer
  filling :=
    if display.pending.active then
      some (display.pending.req,
        display.transferBuffer.slice 0 display.pending.received.toNat)
    else none

def Display.controls (display : Display) : Byte × Bool × StateReq :=
  (display.currentFormat, display.stateChecked, display.checkedState)

abbrev Canvas.next (canvas : Canvas) (action : Action) : Canvas :=
  Gather.Canvas.step SetBufferReq.wanted SetBufferReq.apply blank canvas action

structure Receiving (display : Display) : Prop where
  format : display.currentFormat = gudPixelFormatRgb565
  accepted : Accepted display.pending.req
  transfer : display.pending.transferLength = display.pending.req.length
  lacks : display.pending.received.toNat < display.pending.req.length.toNat

/-- Only the offered format is ever set. -/
structure Sane (display : Display) : Prop where
  format : display.currentFormat = 0 ∨
    display.currentFormat = gudPixelFormatRgb565
  checked : display.stateChecked = true →
    display.checkedState.format = gudPixelFormatRgb565
  receiving : display.pending.active = true → Receiving display
  beyond : ∀ index, framebufferSize ≤ index → display.framebuffer index = 0

structure Keeps (display next : Display) : Prop where
  pending : next.pending = display.pending
  transferBuffer : next.transferBuffer = display.transferBuffer
  framebuffer : next.framebuffer = display.framebuffer
  format : next.currentFormat = display.currentFormat ∨
    display.stateChecked = true ∧
      next.currentFormat = display.checkedState.format
  checked : next.stateChecked = true →
    next.checkedState.format = gudPixelFormatRgb565 ∨
      display.stateChecked = true ∧ next.checkedState = display.checkedState

section

variable {display next : Display}

theorem Keeps.of_status (status : Status) :
    Keeps display { display with lastStatus := status } :=
  ⟨rfl, rfl, rfl, .inl rfl, fun checked => .inr ⟨checked, rfl⟩⟩

theorem action_other {nowMs : UInt64} {setup : Setup} {data : List Byte}
    (other : setup.bmRequestType = requestTypeVendorInterfaceOut →
      setup.bRequest = gudReqSetBuffer →
      (display.controlData nowMs setup data).1.lastStatus ≠ .ok) :
    Callback.action display (.control nowMs setup data) = .other :=
  if_neg fun starts => other starts.1 starts.2.1 starts.2.2

theorem setRequest_setBuffer (data : List Byte) :
    display.setRequest gudReqSetBuffer data =
      { (display.setBuffer data).2 with
        lastStatus := (display.setBuffer data).1 } := rfl

theorem controlData_eq (nowMs : UInt64) (setup : Setup) (data : List Byte) :
    display.controlData nowMs setup data =
      if setup.bmRequestType ≠ requestTypeVendorInterfaceIn ∧
          setup.bmRequestType ≠ requestTypeVendorInterfaceOut then
        (display, none)
      else if setup.wIndexHigh.toUInt16 <<< 8 |||
          setup.wIndexLow.toUInt16 ≠ gudInterface then
        display.fail .invalidParameter
      else if setup.bmRequestType = requestTypeVendorInterfaceIn then
        display.getRequest nowMs setup.bRequest
          (setup.wValueHigh.toUInt16 <<< 8 ||| setup.wValueLow.toUInt16)
      else (display.setRequest setup.bRequest data, none) := rfl

theorem Outcome.keeps {setup : Setup} {data : List Byte}
    {reply : Option (List Byte)}
    (outcome : Outcome displayFormats display setup data next reply)
    (other : orders setup gudReqSetBuffer = false) : Keeps display next := by
  cases outcome with
  | ignored | reported => exact .of_status display.lastStatus
  | refused | answered | detected => exact .of_status _
  | announced asked => simp [other] at asked
  | checked asked valid =>
      refine ⟨rfl, rfl, rfl, .inl rfl, fun _ => .inl ?_⟩
      simpa [isOfferedFormatOf, displayFormats, eq_comm] using valid.offered
  | committed asked valid =>
      exact ⟨rfl, rfl, rfl, .inr ⟨valid, rfl⟩, nofun⟩
  | switched =>
      exact ⟨rfl, rfl, rfl, .inl rfl, fun checked => .inr ⟨checked, rfl⟩⟩

theorem Outcome.controls {formats : List Byte} {setup : Setup}
    {data : List Byte} {reply : Option (List Byte)}
    (outcome : Outcome formats display setup data next reply)
    (reads : setup.bmRequestType ≠ requestTypeVendorInterfaceOut) :
    next.controls = display.controls := by
  cases outcome with
  | checked asked | committed asked =>
      exact absurd (orders_iff.mp asked).1 reads
  | _ => rfl

theorem Announced.accepted {req : SetBufferReq}
    (announced : Announced gudPixelFormatRgb565 req) : Accepted req := by
  obtain ⟨_, _, columns, rows⟩ :=
    SetBufferReq.inside_bounds announced.inside
  have whole := toNat_rectangleLength announced.inside
  rw [← announced.length] at whole
  refine ⟨columns, rows, whole, ?_, ?_, announced.plain⟩
  · apply Nat.pos_of_ne_zero
    exact fun zero => announced.wanted (UInt32.toNat_inj.mp zero)
  · exact UInt32.le_iff_toNat_le.mp announced.fits

theorem controlData_misdirected {nowMs : UInt64} {setup : Setup}
    {data : List Byte}
    (out : setup.bmRequestType = requestTypeVendorInterfaceOut)
    (wIndex : setup.wIndexHigh.toUInt16 <<< 8 |||
      setup.wIndexLow.toUInt16 ≠ gudInterface) :
    (display.controlData nowMs setup data).1.lastStatus =
      .invalidParameter := by
  have vendor : ¬ (setup.bmRequestType ≠ requestTypeVendorInterfaceIn ∧
      setup.bmRequestType ≠ requestTypeVendorInterfaceOut) :=
    fun neither => neither.2 out
  rw [controlData_eq, if_neg vendor, if_pos wIndex]
  rfl

theorem controlData_orders (nowMs : UInt64) {setup : Setup} {bRequest : Byte}
    (data : List Byte) (asked : orders setup bRequest = true) :
    (display.controlData nowMs setup data).1 =
      display.setRequest bRequest data := by
  rw [Display.controlData, controlDataOf_orders nowMs asked]
  rfl

/-- A control request starts an update or keeps what belongs to the picture. -/
theorem controlData_cases (nowMs : UInt64) (setup : Setup) (data : List Byte)
    (format : display.currentFormat = 0 ∨
      display.currentFormat = gudPixelFormatRgb565) :
    Callback.action display (.control nowMs setup data) = .other ∧
        Keeps display (display.controlData nowMs setup data).1 ∨
      Callback.action display (.control nowMs setup data) =
          .announced (SetBufferReq.decode data) ∧
        Accepted (SetBufferReq.decode data) ∧
        display.currentFormat = gudPixelFormatRgb565 ∧
        (display.controlData nowMs setup data).1 = { display with
          lastStatus := .ok
          pending := ⟨true, SetBufferReq.decode data,
            (SetBufferReq.decode data).length, 0⟩ } := by
  cases asked : orders setup gudReqSetBuffer with
  | false =>
      have outcome := controlDataOf_outcome displayFormats nowMs setup data
        display
      refine .inl ⟨action_other fun out starts => ?_, outcome.keeps asked⟩
      have elsewhere : setup.wIndexHigh.toUInt16 <<< 8 |||
          setup.wIndexLow.toUInt16 ≠ gudInterface := by
        intro here
        rw [orders_iff.mpr ⟨out, here, starts⟩] at asked
        contradiction
      rw [controlData_misdirected out elsewhere]
      exact Status.noConfusion
  | true =>
      obtain ⟨out, _, starts⟩ := orders_iff.mp asked
      have request := @controlData_orders display nowMs setup _ data asked
      rw [setRequest_setBuffer] at request
      rcases setBuffer_spec display data with
        ⟨status, refused, result⟩ | ⟨announced, result⟩
      · rw [result] at request
        rw [request]
        refine .inl ⟨action_other fun _ _ => ?_, .of_status _⟩
        rw [request]
        exact refused
      · have rgb565 := format.resolve_left announced.chosen
        rw [result] at request
        rw [rgb565] at announced
        refine .inr ⟨if_pos ⟨out, starts, ?_⟩, announced.accepted, rgb565,
          request⟩
        rw [request]

theorem Sane.keeps (sane : Sane display) (keeps : Keeps display next) :
    Sane next ∧ next.canvas = display.canvas := by
  have format : next.currentFormat = display.currentFormat ∨
      next.currentFormat = gudPixelFormatRgb565 := by
    rcases keeps.format with same | ⟨checked, committed⟩
    · exact .inl same
    · exact .inr (committed.trans (sane.checked checked))
  constructor
  · refine ⟨?_, ?_, ?_, ?_⟩
    · rcases format with same | rgb565
      · rw [same]
        exact sane.format
      · exact .inr rgb565
    · intro checked
      rcases keeps.checked checked with offered | ⟨earlier, same⟩
      · exact offered
      · rw [same]
        exact sane.checked earlier
    · rw [keeps.pending]
      intro active
      obtain ⟨chosen, accepted, transfer, lacks⟩ := sane.receiving active
      rw [← keeps.pending] at accepted transfer lacks
      refine ⟨?_, accepted, transfer, lacks⟩
      rcases format with same | rgb565
      · exact same.trans chosen
      · exact rgb565
    · rw [keeps.framebuffer]
      exact sane.beyond
  · simp only [Display.canvas, keeps.pending, keeps.transferBuffer,
      keeps.framebuffer]

theorem Sane.control (sane : Sane display) (nowMs : UInt64) (setup : Setup)
    (data : List Byte) :
    Sane (display.controlData nowMs setup data).1 ∧
      (display.controlData nowMs setup data).1.canvas =
        display.canvas.next
          (Callback.action display (.control nowMs setup data)) := by
  rcases controlData_cases nowMs setup data sane.format with
    ⟨action, keeps⟩ | ⟨action, accepted, rgb565, started⟩
  · rw [action]
    exact sane.keeps keeps
  · rw [action, started]
    constructor
    · exact ⟨sane.format, sane.checked,
        fun _ => ⟨rgb565, accepted, rfl, accepted.wanted⟩, sane.beyond⟩
    · have wanted : 0 < SetBufferReq.wanted (SetBufferReq.decode data) :=
        accepted.wanted
      simp [Display.canvas, Canvas.next, Gather.Canvas.step, wanted]

theorem Sane.reset (sane : Sane display) (nowMs : UInt64) :
    Sane (display.reset nowMs) ∧
      (display.reset nowMs).canvas = display.canvas.next .cleared := by
  have zero : (display.reset nowMs).framebuffer = blank := by
    funext index
    simp only [Display.reset, blank]
    by_cases within : index < framebufferSize
    · simp [Buffer.write, within]
    · rw [Buffer.write_of_ge _ _ (by simpa using within)]
      exact sane.beyond index (by omega)
  constructor
  · refine ⟨.inl rfl, ?_, ?_, ?_⟩
    · intro contrary
      contradiction
    · intro contrary
      contradiction
    · intro index _
      rw [zero]
      rfl
  · simp only [Display.canvas, zero]
    rfl

theorem slice_write_end (buffer : Buffer Byte) (received : Nat)
    (data : List Byte) :
    (buffer.write received data).slice 0 (received + data.length) =
      buffer.slice 0 received ++ data := by
  rw [Buffer.slice_add, Nat.zero_add, Buffer.slice_write_self,
    Buffer.slice_write_before _ _ (by omega)]

theorem Accepted.apply_beyond {req : SetBufferReq} (accepted : Accepted req)
    (pixels : List Byte) (image : Buffer Byte) {index : Nat}
    (beyond : framebufferSize ≤ index) :
    req.apply pixels image index = image index := by
  have capacity : framebufferSize = 307200 := by decide
  have width : displayWidth.toNat = 320 := rfl
  simp only [SetBufferReq.apply, width]
  cases found : req.area.place 320 (index / 2) with
  | none => rfl
  | some place =>
      obtain ⟨row, _, above, _, here, _, _⟩ := Block.place_eq_some found
      have rows := accepted.rows
      have top : req.area.top = req.y.toNat := rfl
      have height : req.area.height = req.height.toNat := rfl
      omega

theorem Receiving.missing (receiving : Receiving display) :
    (display.pending.transferLength - display.pending.received).toNat =
      display.pending.req.length.toNat - display.pending.received.toNat := by
  have lacks := receiving.lacks
  rw [receiving.transfer, UInt32.toNat_sub_of_le]
  rw [UInt32.le_iff_toNat_le]
  omega

theorem canvas_piece (active : display.pending.active = true)
    (data : List Byte) :
    display.canvas.next (.piece data) =
      let pixels := display.transferBuffer.slice 0
        display.pending.received.toNat ++ data
      let total := display.pending.received.toNat + data.length
      if total < display.pending.req.length.toNat then
        ⟨display.framebuffer, some (display.pending.req, pixels)⟩
      else if total = display.pending.req.length.toNat then
        ⟨display.pending.req.apply pixels display.framebuffer, none⟩
      else ⟨display.framebuffer, none⟩ := by
  simp [Canvas.next, Gather.Canvas.step, Display.canvas, active,
    SetBufferReq.wanted]

theorem endpointData_dropped (data : List Byte)
    (dropped : display.pending.active = false ∨
      (display.pending.transferLength - display.pending.received).toNat <
        data.length) :
    display.endpointData data = some { display with
      statsErrors := display.statsErrors + 1
      pending := { display.pending with active := false } } :=
  if_pos dropped

theorem Sane.dropped (sane : Sane display) (data : List Byte)
    (dropped : display.pending.active = false ∨
      (display.pending.transferLength - display.pending.received).toNat <
        data.length) :
    Sane { display with
        statsErrors := display.statsErrors + 1
        pending := { display.pending with active := false } } ∧
      Display.canvas { display with
        statsErrors := display.statsErrors + 1
        pending := { display.pending with active := false } } =
          display.canvas.next (.piece data) := by
  constructor
  · refine ⟨sane.format, sane.checked, ?_, sane.beyond⟩
    intro contrary
    contradiction
  · cases active : display.pending.active with
    | false =>
        simp [Display.canvas, Canvas.next, Gather.Canvas.step, active]
    | true =>
        have receiving := sane.receiving active
        have excess := dropped.resolve_left (by simp [active])
        rw [receiving.missing] at excess
        rw [canvas_piece active, if_neg (by omega), if_neg (by omega)]
        rfl

def Display.appended (display : Display) (data : List Byte) : Display :=
  { display with
    transferBuffer := display.transferBuffer.write
      display.pending.received.toNat data
    pending := { display.pending with
      received := display.pending.received + UInt32.ofNat data.length } }

def Display.stored (display : Display) (data : List Byte) : Display :=
  { display.appended data with
    pending := { (display.appended data).pending with active := false }
    framebuffer := display.pending.req.apply
      ((display.appended data).transferBuffer.slice 0
        display.pending.req.length.toNat) display.framebuffer
    framebufferChanged := true
    statsUpdates := display.statsUpdates + 1
    statsBytes := display.statsBytes + display.pending.transferLength
    statsLastRect := display.pending.req }

theorem Receiving.received (receiving : Receiving display) {data : List Byte}
    (fits : display.pending.received.toNat + data.length ≤
      display.pending.req.length.toNat) :
    (display.pending.received + UInt32.ofNat data.length).toNat =
      display.pending.received.toNat + data.length := by
  have bound := receiving.accepted.fits
  rw [UInt32.toNat_add, UInt32.toNat_ofNat']
  omega

/-- A chunk that fits is appended, and the last one stores the rectangle. -/
theorem Receiving.endpointData (receiving : Receiving display)
    (active : display.pending.active = true) {data : List Byte}
    (fits : display.pending.received.toNat + data.length ≤
      display.pending.req.length.toNat) :
    display.endpointData data =
      some (if display.pending.received.toNat + data.length <
          display.pending.req.length.toNat then display.appended data
        else display.stored data) := by
  have missing := receiving.missing
  have bound := receiving.accepted.fits
  have capacity : displayMaxBufferSize.toNat = 65536 := by decide
  have kept : ¬ (display.pending.active = false ∨
      (display.pending.transferLength - display.pending.received).toNat <
        data.length) := by
    rintro (inactive | excess)
    · rw [active] at inactive
      contradiction
    · omega
  have copied : copyInto displayMaxBufferSize.toNat display.transferBuffer
      display.pending.received.toNat data =
        some (display.transferBuffer.write display.pending.received.toNat
          data) := if_pos (by omega)
  have stays : display.pending.received + UInt32.ofNat data.length <
      display.pending.transferLength ↔
        display.pending.received.toNat + data.length <
          display.pending.req.length.toNat := by
    rw [UInt32.lt_iff_toNat_lt, receiving.received fits, receiving.transfer]
  have plain : ¬ display.pending.req.compression ≠ 0 := by
    simp [receiving.accepted.plain]
  simp only [Display.endpointData, if_neg kept, copied, Option.bind_eq_bind,
    Option.bind_some, stays, if_neg plain]
  split
  · rfl
  · have format : ({ display.appended data with
        pending := { (display.appended data).pending with
          active := false } } : Display).currentFormat =
            gudPixelFormatRgb565 := receiving.format
    have stores := @Accepted.storeRectangle _
      (display.appended data).transferBuffer receiving.accepted _ format
    exact congrArg (Option.bind · _) stores

theorem Sane.appended (sane : Sane display)
    (active : display.pending.active = true) {data : List Byte}
    (short : display.pending.received.toNat + data.length <
      display.pending.req.length.toNat) :
    Sane (display.appended data) ∧
      (display.appended data).canvas = display.canvas.next (.piece data) := by
  have receiving := sane.receiving active
  have received := receiving.received (Nat.le_of_lt short)
  constructor
  · refine ⟨sane.format, sane.checked, fun _ => ?_, sane.beyond⟩
    refine ⟨receiving.format, receiving.accepted, receiving.transfer, ?_⟩
    exact received.trans_lt short
  · rw [canvas_piece active, if_pos short, ← slice_write_end, ← received]
    simp [Display.canvas, Display.appended, active]

theorem Sane.stored (sane : Sane display)
    (active : display.pending.active = true) {data : List Byte}
    (complete : display.pending.received.toNat + data.length =
      display.pending.req.length.toNat) :
    Sane (display.stored data) ∧
      (display.stored data).canvas = display.canvas.next (.piece data) := by
  have accepted := (sane.receiving active).accepted
  constructor
  · refine ⟨sane.format, sane.checked, ?_, ?_⟩
    · intro contrary
      contradiction
    · intro index beyond
      exact (accepted.apply_beyond _ _ beyond).trans (sane.beyond index beyond)
  · rw [canvas_piece active, if_neg (by omega), if_pos complete,
      ← slice_write_end, complete]
    rfl

theorem Sane.endpoint (sane : Sane display) (data : List Byte) :
    ∃ next, display.endpointData data = some next ∧
      next.controls = display.controls ∧ Sane next ∧
      next.canvas = display.canvas.next (.piece data) := by
  by_cases dropped : display.pending.active = false ∨
      (display.pending.transferLength - display.pending.received).toNat <
        data.length
  · exact ⟨_, endpointData_dropped data dropped, rfl, sane.dropped data dropped⟩
  · rw [not_or, Bool.not_eq_false, Nat.not_lt] at dropped
    obtain ⟨active, enough⟩ := dropped
    have receiving := sane.receiving active
    have lacks := receiving.lacks
    rw [receiving.missing] at enough
    have fits : display.pending.received.toNat + data.length ≤
        display.pending.req.length.toNat := by omega
    rw [receiving.endpointData active fits]
    by_cases short : display.pending.received.toNat + data.length <
        display.pending.req.length.toNat
    · rw [if_pos short]
      exact ⟨_, rfl, rfl, sane.appended active short⟩
    · rw [if_neg short]
      exact ⟨_, rfl, rfl, sane.stored active (by omega)⟩

/-- Every callback is a step of the canvas, and no copy leaves its array. -/
theorem Sane.step (sane : Sane display) (callback : Callback) :
    ∃ next, gudDisplay.step display callback = some next ∧ Sane next ∧
      next.canvas = display.canvas.next (callback.action display) := by
  cases callback with
  | control nowMs setup data => exact ⟨_, rfl, sane.control nowMs setup data⟩
  | endpoint ep data =>
      obtain ⟨next, received, _, simulated⟩ := sane.endpoint data
      exact ⟨next, received, simulated⟩
  | reset nowMs => exact ⟨_, rfl, sane.reset nowMs⟩

theorem initialDisplay_sane : Sane initialDisplay := by
  refine ⟨.inl rfl, ?_, ?_, fun _ _ => rfl⟩
  · intro contrary
    contradiction
  · intro contrary
    contradiction

/-! What a control request does to the picture depends on the format and the
checked state only, and pixel data does not change these. -/

variable {other : Display}

theorem setBuffer_controls (data : List Byte) :
    (display.setBuffer data).2.controls = display.controls := by
  unfold Display.setBuffer
  dsimp only
  repeat' split
  all_goals rfl

theorem setBuffer_status (data : List Byte)
    (alike : display.controls = other.controls) :
    (display.setBuffer data).1 = (other.setBuffer data).1 := by
  have format : display.currentFormat = other.currentFormat :=
    congrArg Prod.fst alike
  unfold Display.setBuffer
  dsimp only
  rw [format]
  repeat' split
  all_goals rfl

theorem setStateCheck_alike (data : List Byte)
    (alike : display.controls = other.controls) :
    (display.setStateCheck data).2.controls =
      (other.setStateCheck data).2.controls := by
  have format : display.currentFormat = other.currentFormat :=
    congrArg Prod.fst alike
  unfold Display.setStateCheck Display.setStateCheckOf
  split
  · exact alike
  · dsimp only
    split
    · exact alike
    · split
      · exact alike
      · simp only [Display.controls, format]

theorem setStateCommit_alike (alike : display.controls = other.controls) :
    display.setStateCommit.2.controls = other.setStateCommit.2.controls := by
  obtain ⟨_, rest⟩ := Prod.mk.inj alike
  obtain ⟨checked, state⟩ := Prod.mk.inj rest
  unfold Display.setStateCommit
  rw [checked]
  split
  · exact alike
  · simp only [Display.controls, state]

theorem setRequest_alike (bRequest : Byte) (data : List Byte)
    (alike : display.controls = other.controls) :
    (display.setRequest bRequest data).controls =
      (other.setRequest bRequest data).controls := by
  unfold Display.setRequest Display.setRequestOf
  repeat' split
  · exact alike
  · exact (setBuffer_controls data).trans
      (alike.trans (setBuffer_controls data).symm)
  · exact setStateCheck_alike data alike
  · exact setStateCommit_alike alike
  · exact alike
  · exact alike
  · exact alike

theorem controlData_alike (nowMs : UInt64) (setup : Setup) (data : List Byte)
    (alike : display.controls = other.controls) :
    (display.controlData nowMs setup data).1.controls =
        (other.controlData nowMs setup data).1.controls ∧
      Callback.action display (.control nowMs setup data) =
        Callback.action other (.control nowMs setup data) := by
  simp only [Callback.action, controlData_eq]
  split
  · exact ⟨alike, by simp_all⟩
  · split
    · exact ⟨alike, rfl⟩
    · split
      next reads =>
        have outcome := @getRequestOf_outcome displayFormats display data setup
          nowMs (setup.wValueHigh.toUInt16 <<< 8 ||| setup.wValueLow.toUInt16)
          reads
        have also := @getRequestOf_outcome displayFormats other data setup nowMs
          (setup.wValueHigh.toUInt16 <<< 8 ||| setup.wValueLow.toUInt16) reads
        have inward : setup.bmRequestType ≠ requestTypeVendorInterfaceOut := by
          rw [reads]
          decide
        refine ⟨?_, ?_⟩
        · exact (outcome.controls inward).trans
            (alike.trans (also.controls inward).symm)
        · rw [if_neg fun starts => inward starts.1,
            if_neg fun starts => inward starts.1]
      · refine ⟨setRequest_alike _ data alike, ?_⟩
        by_cases starts : setup.bRequest = gudReqSetBuffer
        · simp only [starts, setRequest_setBuffer, setBuffer_status data alike]
        · simp only [starts, false_and, and_false]

end

end UsbipServer.Gud
