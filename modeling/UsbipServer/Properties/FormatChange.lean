import UsbipServer.Refine.Requests

namespace UsbipServer.Gud

open Wire Library

/-! What `store_rectangle` reads and writes when the format can change while an
update is pending. -/

/-- One `memcpy` from the transfer buffer to the framebuffer. -/
structure Copy where
  source : Nat
  target : Nat
  length : Nat
  deriving DecidableEq, Repr

def lineCopy (rect : SetBufferReq) (pitch rectPitch bytesPerPixel line : UInt32) :
    Copy where
  source := (line * rectPitch).toNat
  target := ((rect.y + line) * pitch + rect.x * bytesPerPixel).toNat
  length := rectPitch.toNat

/-- The copies that `store_rectangle` makes in the given format. -/
def copies (format : Byte) (rect : SetBufferReq) : List Copy :=
  let bits := formatBitsPerPixel format
  if bits % 8 ≠ 0 then []
  else
    let bytesPerPixel := bits / 8
    ((List.range rect.height.toNat).map UInt32.ofNat).map
      (lineCopy rect (displayWidth * bytesPerPixel)
        (rect.width * bytesPerPixel) bytesPerPixel)

def Display.stores (display : Display) (data : List Byte) : Bool :=
  let pending := display.pending
  pending.active &&
    !((pending.transferLength - pending.received).toNat < data.length) &&
    !(pending.received + UInt32.ofNat data.length < pending.transferLength) &&
    pending.req.compression = 0

/-- A byte of the framebuffer that belongs to a pixel of the rectangle. -/
def InRectangle (format : Byte) (rect : SetBufferReq) (offset : Nat) : Prop :=
  ∃ column < rect.width.toNat, ∃ row < rect.height.toNat,
    ∃ part < (formatBitsPerPixel format / 8).toNat,
      offset = ((rect.y.toNat + row) * displayWidth.toNat +
        (rect.x.toNat + column)) * (formatBitsPerPixel format / 8).toNat + part

/-- The copies stay inside what was received for the request, inside the
framebuffer and inside the rectangle. -/
def StoresInside (display : Display) : Prop :=
  ∀ copy ∈ copies display.currentFormat display.pending.req,
    ∀ index < copy.length,
      copy.source + index < display.pending.transferLength.toNat ∧
      copy.target + index < framebufferSize ∧
      InRectangle display.currentFormat display.pending.req
        (copy.target + index)

def rectangleBytes (format : Byte) (rect : SetBufferReq) : Nat :=
  if formatBitsPerPixel format % 8 ≠ 0 then 0
  else rect.width.toNat * (formatBitsPerPixel format / 8).toNat *
    rect.height.toNat

/-- No commit takes up a format in which a pending rectangle needs more bytes
than are received for it. -/
def keepsRoom (display : Display) : Callback → Bool
  | .control _ setup _ =>
      !(orders setup gudReqSetStateCommit && display.stateChecked &&
        display.pending.active) ||
      rectangleBytes display.checkedState.format display.pending.req ≤
        display.pending.transferLength.toNat
  | _ => true

structure Roomy (display : Display) : Prop where
  columns : display.pending.req.x.toNat + display.pending.req.width.toNat ≤ 320
  rows : display.pending.req.y.toNat + display.pending.req.height.toNat ≤ 240
  fits : display.pending.transferLength.toNat ≤ 65536
  room : rectangleBytes display.currentFormat display.pending.req ≤
    display.pending.transferLength.toNat
  lacks : display.pending.received.toNat <
    display.pending.transferLength.toNat

theorem formatBitsPerPixel_le (format : Byte) :
    (formatBitsPerPixel format).toNat ≤ 32 := by
  unfold formatBitsPerPixel
  repeat' split
  all_goals decide

theorem toNat_lineLength_format (format : Byte) {width : UInt32}
    (small : width.toNat ≤ 320) :
    (lineLength format width).toNat =
      (width.toNat * (formatBitsPerPixel format).toNat + 7) / 8 := by
  have seven : (7 : UInt32).toNat = 7 := rfl
  have eight : (8 : UInt32).toNat = 8 := rfl
  have bound := Nat.mul_le_mul small (formatBitsPerPixel_le format)
  rw [lineLength, UInt32.toNat_div, UInt32.toNat_add, UInt32.toNat_mul, seven,
    eight]
  omega

theorem bytes_of_whole {format : Byte}
    (whole : ¬ formatBitsPerPixel format % 8 ≠ 0) :
    (formatBitsPerPixel format).toNat =
      8 * (formatBitsPerPixel format / 8).toNat := by
  have eight : (8 : UInt32).toNat = 8 := rfl
  have remainder := congrArg UInt32.toNat (not_not.mp whole)
  rw [UInt32.toNat_mod, eight] at remainder
  change _ = 0 at remainder
  rw [UInt32.toNat_div, eight]
  omega

theorem Announced.room {format : Byte} {req : SetBufferReq}
    (valid : Announced format req) :
    rectangleBytes format req ≤ req.length.toNat := by
  obtain ⟨_, _, columns, rows⟩ := SetBufferReq.inside_bounds valid.inside
  have small : req.width.toNat ≤ 320 := by omega
  have line := toNat_lineLength_format format small
  have wide := Nat.mul_le_mul small (formatBitsPerPixel_le format)
  have large : (lineLength format req.width).toNat * req.height.toNat ≤
      1281 * 240 := Nat.mul_le_mul (by omega) (by omega)
  unfold rectangleBytes
  split
  · exact Nat.zero_le _
  next whole =>
    have exact : (lineLength format req.width).toNat =
        req.width.toNat * (formatBitsPerPixel format / 8).toNat := by
      rw [line, bytes_of_whole whole, Nat.mul_left_comm]
      omega
    rw [valid.length, UInt32.toNat_mul, Nat.mod_eq_of_lt (by omega), exact]

section

variable {formats : List Byte} {display next : Display}

theorem Roomy.same (roomy : display.pending.active = true → Roomy display)
    (pending : next.pending = display.pending)
    (format : next.currentFormat = display.currentFormat) :
    next.pending.active = true → Roomy next := by
  rw [pending]
  intro active
  obtain ⟨columns, rows, fits, room, lacks⟩ := roomy active
  rw [← pending] at columns rows fits room lacks
  rw [← format] at room
  exact ⟨columns, rows, fits, room, lacks⟩

theorem Announced.roomy {req : SetBufferReq}
    (valid : Announced display.currentFormat req) :
    Roomy { display with
      lastStatus := .ok
      pending := ⟨true, req, req.length, 0⟩ } := by
  obtain ⟨_, _, columns, rows⟩ := SetBufferReq.inside_bounds valid.inside
  refine ⟨columns, rows, UInt32.le_iff_toNat_le.mp valid.fits, valid.room, ?_⟩
  apply Nat.pos_of_ne_zero
  exact fun zero => valid.wanted (UInt32.toNat_inj.mp zero)

theorem Roomy.control (roomy : display.pending.active = true → Roomy display)
    {nowMs : UInt64} {setup : Setup} {data : List Byte}
    (kept : keepsRoom display (.control nowMs setup data) = true) :
    (display.controlDataOf formats nowMs setup data).1.pending.active = true →
      Roomy (display.controlDataOf formats nowMs setup data).1 := by
  have outcome := controlDataOf_outcome formats nowMs setup data display
  generalize (display.controlDataOf formats nowMs setup data).1 = after,
    (display.controlDataOf formats nowMs setup data).2 = reply at outcome ⊢
  cases outcome with
  | announced asked valid => exact fun _ => valid.roomy
  | committed asked valid =>
      intro active
      obtain ⟨columns, rows, fits, _, lacks⟩ := roomy active
      have room : rectangleBytes display.checkedState.format
          display.pending.req ≤ display.pending.transferLength.toNat := by
        change display.pending.active = true at active
        simpa [keepsRoom, asked, valid, active] using kept
      exact ⟨columns, rows, fits, room, lacks⟩
  | _ => exact .same roomy rfl rfl

theorem Roomy.endpoint (roomy : display.pending.active = true → Roomy display)
    {data : List Byte} (received : display.endpointData data = some next) :
    next.pending.active = true → Roomy next := by
  have untouched := endpointData_untouched received
  intro active
  obtain ⟨before, req, transfer, lacks⟩ := untouched.pending active
  obtain ⟨columns, rows, fits, room, _⟩ := roomy before
  rw [← req] at columns rows room
  rw [← transfer] at fits room
  rw [← untouched.format] at room
  exact ⟨columns, rows, fits, room, UInt32.lt_iff_toNat_lt.mp lacks⟩

theorem Roomy.step (roomy : display.pending.active = true → Roomy display)
    {callback : Callback} (kept : keepsRoom display callback = true)
    (stepped : callbackStepOf formats display callback = some next) :
    next.pending.active = true → Roomy next := by
  cases callback with
  | control nowMs setup data =>
      obtain rfl := Option.some.inj stepped
      exact Roomy.control roomy kept
  | endpoint ep data => exact Roomy.endpoint roomy stepped
  | reset nowMs =>
      obtain rfl := Option.some.inj stepped
      exact nofun

theorem lineCopy_eq {rect : SetBufferReq} {bytes : UInt32} {line : Nat}
    (columns : rect.x.toNat + rect.width.toNat ≤ 320)
    (rows : rect.y.toNat + rect.height.toNat ≤ 240)
    (small : bytes.toNat ≤ 4) (within : line < rect.height.toNat) :
    lineCopy rect (displayWidth * bytes) (rect.width * bytes) bytes
        (UInt32.ofNat line) =
      ⟨line * (rect.width.toNat * bytes.toNat),
        (rect.y.toNat + line) * (320 * bytes.toNat) +
          rect.x.toNat * bytes.toNat,
        rect.width.toNat * bytes.toNat⟩ := by
  have width : displayWidth.toNat = 320 := rfl
  have count : (UInt32.ofNat line).toNat = line :=
    UInt32.toNat_ofNat_of_lt' (by rw [UInt32.size]; omega)
  have wide : rect.width.toNat * bytes.toNat ≤ 320 * 4 :=
    Nat.mul_le_mul (by omega) small
  have left : rect.x.toNat * bytes.toNat ≤ 320 * 4 :=
    Nat.mul_le_mul (by omega) small
  have span : (rect.width * bytes).toNat = rect.width.toNat * bytes.toNat := by
    rw [UInt32.toNat_mul]
    omega
  have start : (rect.x * bytes).toNat = rect.x.toNat * bytes.toNat := by
    rw [UInt32.toNat_mul]
    omega
  have pitch : (displayWidth * bytes).toNat = 320 * bytes.toNat := by
    rw [UInt32.toNat_mul, width]
    omega
  have row : (rect.y + UInt32.ofNat line).toNat = rect.y.toNat + line := by
    rw [UInt32.toNat_add, count]
    omega
  have above : line * (rect.width.toNat * bytes.toNat) ≤ 240 * (320 * 4) :=
    Nat.mul_le_mul (by omega) wide
  have below : (rect.y.toNat + line) * (320 * bytes.toNat) ≤
      240 * (320 * 4) := Nat.mul_le_mul (by omega) (by omega)
  simp only [lineCopy, Copy.mk.injEq, UInt32.toNat_add, UInt32.toNat_mul,
    span, start, pitch, row, count]
  refine ⟨?_, ?_, trivial⟩ <;> omega

theorem mem_copies {format : Byte} {rect : SetBufferReq} {copy : Copy}
    (columns : rect.x.toNat + rect.width.toNat ≤ 320)
    (rows : rect.y.toNat + rect.height.toNat ≤ 240)
    (member : copy ∈ copies format rect) :
    ∃ line < rect.height.toNat, ∃ bytes ≤ 4,
      bytes = (formatBitsPerPixel format / 8).toNat ∧
      rectangleBytes format rect =
        rect.width.toNat * bytes * rect.height.toNat ∧
      copy = ⟨line * (rect.width.toNat * bytes),
        (rect.y.toNat + line) * (320 * bytes) + rect.x.toNat * bytes,
        rect.width.toNat * bytes⟩ := by
  unfold copies at member
  dsimp only at member
  split at member
  · contradiction
  next whole =>
    have bits := bytes_of_whole whole
    have bound := formatBitsPerPixel_le format
    have small : (formatBitsPerPixel format / 8).toNat ≤ 4 := by omega
    rw [List.map_map] at member
    obtain ⟨line, within, rfl⟩ := List.mem_map.mp member
    rw [List.mem_range] at within
    refine ⟨line, within, _, small, rfl, ?_, ?_⟩
    · rw [rectangleBytes, if_neg whole]
    · exact lineCopy_eq columns rows small within

theorem line_bounds {x y width height bytes line : Nat}
    (columns : x + width ≤ 320) (rows : y + height ≤ 240) (small : bytes ≤ 4)
    (within : line < height) :
    line * (width * bytes) + width * bytes ≤ width * bytes * height ∧
      (y + line) * (320 * bytes) + x * bytes + width * bytes ≤ 307200 := by
  constructor
  · have lines : (line + 1) * (width * bytes) ≤ height * (width * bytes) :=
      Nat.mul_le_mul_right _ within
    rwa [Nat.add_mul, Nat.one_mul, Nat.mul_comm height] at lines
  · have across : (x + width) * bytes ≤ 320 * bytes :=
      Nat.mul_le_mul_right _ columns
    have down : (y + line + 1) * (320 * bytes) ≤ 240 * (320 * 4) :=
      Nat.mul_le_mul (by omega) (by omega)
    rw [Nat.add_mul] at across
    rw [Nat.add_mul, Nat.one_mul] at down
    omega

theorem Roomy.copies_inside (roomy : Roomy display) :
    ∀ copy ∈ copies display.currentFormat display.pending.req,
      copy.source + copy.length ≤ display.pending.transferLength.toNat ∧
        copy.target + copy.length ≤ framebufferSize := by
  obtain ⟨columns, rows, _, room, _⟩ := roomy
  intro copy member
  obtain ⟨line, within, bytes, small, _, whole, rfl⟩ :=
    mem_copies columns rows member
  have capacity : framebufferSize = 307200 := by decide
  obtain ⟨read, written⟩ := line_bounds columns rows small within
  rw [capacity]
  exact ⟨Nat.le_trans read (whole ▸ room), written⟩

theorem line_pixel {x y width bytes line index : Nat}
    (inside : index < width * bytes) :
    ∃ column < width, ∃ part < bytes,
      (y + line) * (320 * bytes) + x * bytes + index =
        ((y + line) * 320 + (x + column)) * bytes + part := by
  refine ⟨index / bytes, ?_, index % bytes, ?_, ?_⟩
  · exact Nat.div_lt_of_lt_mul (Nat.mul_comm width bytes ▸ inside)
  · apply Nat.mod_lt
    exact Nat.pos_of_mul_pos_left (Nat.zero_lt_of_lt inside)
  · have pixel := Nat.div_add_mod' index bytes
    have whole : ((y + line) * 320 + (x + index / bytes)) * bytes =
        (y + line) * (320 * bytes) + (x * bytes + index / bytes * bytes) := by
      rw [Nat.add_mul, Nat.add_mul x, Nat.mul_assoc]
    omega

theorem Roomy.storesInside (roomy : Roomy display) : StoresInside display := by
  intro copy member index inside
  obtain ⟨read, written⟩ := roomy.copies_inside copy member
  refine ⟨by omega, by omega, ?_⟩
  obtain ⟨line, within, bytes, _, rfl, _, rfl⟩ :=
    mem_copies roomy.columns roomy.rows member
  obtain ⟨column, left, part, byte, here⟩ := line_pixel inside
  exact ⟨column, left, line, within, part, byte, here⟩

def Copy.perform (pixels framebuffer : Buffer Byte) (copy : Copy) :
    Option (Buffer Byte) := do
  let pixelLine ← copyFrom displayMaxBufferSize.toNat pixels copy.source
    copy.length
  copyInto framebufferSize framebuffer copy.target pixelLine

theorem storeLines_eq_foldlM (rect : SetBufferReq)
    (pitch rectPitch bytesPerPixel : UInt32) (pixels : Buffer Byte)
    (lines : List UInt32) (framebuffer : Buffer Byte) :
    Display.storeLines rect pitch rectPitch bytesPerPixel pixels lines
        framebuffer =
      (lines.map (lineCopy rect pitch rectPitch bytesPerPixel)).foldlM
        (Copy.perform pixels) framebuffer := by
  induction lines generalizing framebuffer with
  | nil => rfl
  | cons line rest induction =>
      rw [List.map_cons, List.foldlM_cons, Display.storeLines]
      simp only [induction, Copy.perform, Option.bind_eq_bind,
        Option.bind_assoc]
      rfl

theorem storeRectangle_eq_foldlM (rect : SetBufferReq)
    (pixels : Buffer Byte) (display : Display) :
    display.storeRectangle rect pixels =
      ((copies display.currentFormat rect).foldlM (Copy.perform pixels)
        display.framebuffer).map fun framebuffer =>
          { display with
            framebuffer := framebuffer
            framebufferChanged := display.framebufferChanged ||
              formatBitsPerPixel display.currentFormat % 8 = 0 } := by
  unfold Display.storeRectangle copies
  dsimp only
  split
  next partly => simp [partly]
  next whole =>
    rw [storeLines_eq_foldlM]
    have aligned : formatBitsPerPixel display.currentFormat % 8 = 0 :=
      not_not.mp whole
    simp only [aligned, decide_true, Bool.or_true]
    rw [Option.map_eq_bind]
    rfl

theorem Copy.perform_some {pixels framebuffer : Buffer Byte} {copy : Copy}
    (readable : copy.source + copy.length ≤ 65536)
    (writable : copy.target + copy.length ≤ framebufferSize) :
    copy.perform pixels framebuffer =
      some (framebuffer.write copy.target
        (pixels.slice copy.source copy.length)) := by
  have capacity : displayMaxBufferSize.toNat = 65536 := by decide
  simp only [Copy.perform, copyFrom, copyInto, capacity, if_pos readable,
    Option.bind_eq_bind, Option.bind_some, Buffer.length_slice,
    if_pos writable]

theorem foldlM_perform_isSome {list : List Copy} (pixels : Buffer Byte)
    (framebuffer : Buffer Byte)
    (inside : ∀ copy ∈ list, copy.source + copy.length ≤ 65536 ∧
      copy.target + copy.length ≤ framebufferSize) :
    (list.foldlM (Copy.perform pixels) framebuffer).isSome = true := by
  induction list generalizing framebuffer with
  | nil => rfl
  | cons copy rest induction =>
      obtain ⟨readable, writable⟩ := inside copy List.mem_cons_self
      rw [List.foldlM_cons, Copy.perform_some readable writable]
      exact induction _ fun later member =>
        inside later (List.mem_cons_of_mem _ member)

theorem Roomy.storeRectangle (roomy : Roomy display) (pixels : Buffer Byte)
    {after : Display} (format : after.currentFormat = display.currentFormat) :
    (after.storeRectangle display.pending.req pixels).isSome = true := by
  have inside := roomy.copies_inside
  have fits := roomy.fits
  rw [storeRectangle_eq_foldlM, Option.isSome_map, format]
  apply foldlM_perform_isSome
  intro copy member
  obtain ⟨read, written⟩ := inside copy member
  exact ⟨Nat.le_trans read fits, written⟩

theorem isSome_bind_some {result : Option Display} (finish : Display → Display)
    (some : result.isSome = true) :
    (result.bind fun display => .some (finish display)).isSome = true := by
  obtain ⟨display, rfl⟩ := Option.isSome_iff_exists.mp some
  rfl

theorem Roomy.endpointData
    (roomy : display.pending.active = true → Roomy display)
    (data : List Byte) : (display.endpointData data).isSome = true := by
  unfold Display.endpointData
  dsimp only
  split
  · rfl
  next kept =>
    rw [not_or, Bool.not_eq_false] at kept
    obtain ⟨active, short⟩ := kept
    have lacks := (roomy active).lacks
    have fits := (roomy active).fits
    have capacity : displayMaxBufferSize.toNat = 65536 := by decide
    rw [UInt32.toNat_sub_of_le _ _ (UInt32.le_iff_toNat_le.mpr
      (Nat.le_of_lt lacks))] at short
    have copied : copyInto displayMaxBufferSize.toNat display.transferBuffer
        display.pending.received.toNat data =
          some (display.transferBuffer.write display.pending.received.toNat
            data) := if_pos (by omega)
    rw [copied]
    dsimp only [Option.bind_eq_bind, Option.bind_some]
    split
    · rfl
    · split
      · rfl
      · exact isSome_bind_some _ ((roomy active).storeRectangle _ rfl)

theorem stores_iff (data : List Byte) :
    display.stores data = true ↔
      display.pending.active = true ∧
      ¬ (display.pending.transferLength - display.pending.received).toNat <
        data.length ∧
      ¬ display.pending.received + UInt32.ofNat data.length <
        display.pending.transferLength ∧
      display.pending.req.compression = 0 := by
  simp [Display.stores, and_assoc]

theorem Roomy.received (roomy : Roomy display) {data : List Byte}
    (short : ¬ (display.pending.transferLength -
      display.pending.received).toNat < data.length)
    (last : ¬ display.pending.received + UInt32.ofNat data.length <
      display.pending.transferLength) :
    display.pending.received.toNat + data.length =
      display.pending.transferLength.toNat := by
  have lacks := roomy.lacks
  have fits := roomy.fits
  rw [UInt32.toNat_sub_of_le _ _ (UInt32.le_iff_toNat_le.mpr
    (Nat.le_of_lt lacks))] at short
  rw [UInt32.lt_iff_toNat_lt, UInt32.toNat_add, UInt32.toNat_ofNat'] at last
  omega

end

/-- As long as no commit takes up a format in which a pending rectangle needs
more bytes than are received for it, `store_rectangle` stays inside the bytes
received for its request, the framebuffer and the rectangle, and no callback
leaves an array. -/
theorem formatChange {formats : List Byte} {display : Display}
    (reached : (gudDisplayOf formats).Reaches
      (fun display callback => keepsRoom display callback = true)
      initialDisplay display) :
    (∀ data, display.stores data = true →
      display.pending.received.toNat + data.length =
          display.pending.transferLength.toNat ∧
        StoresInside display) ∧
      ∀ callback, (callbackStepOf formats display callback).isSome = true := by
  have roomy : display.pending.active = true → Roomy display :=
    reached.invariant
      (P := fun display => display.pending.active = true → Roomy display)
      nofun fun _ _ _ _ roomy kept stepped => Roomy.step roomy kept stepped
  constructor
  · intro data stores
    obtain ⟨active, short, last, _⟩ := (stores_iff data).mp stores
    exact ⟨(roomy active).received short last, (roomy active).storesInside⟩
  · intro callback
    cases callback with
    | control nowMs setup data => rfl
    | endpoint ep data => exact Roomy.endpointData roomy data
    | reset nowMs => rfl

/-- The format is set, a rectangle is announced, and before its pixels arrive
another format is set. -/
def reformatting (first second : Byte) (rect : SetBufferReq) : List Callback :=
  let out (bRequest : Byte) : Setup := ⟨0x41, bRequest, 0, 0, 0, 0, 0, 0⟩
  let mode : DisplayModeReq := ⟨4608, 320, 320, 320, 320, 240, 240, 240, 240, 0⟩
  [.reset 0,
    .control 0 (out gudReqSetStateCheck) (StateReq.encode ⟨mode, first, 0⟩),
    .control 0 (out gudReqSetStateCommit) [],
    .control 0 (out gudReqSetBuffer) rect.encode,
    .control 0 (out gudReqSetStateCheck) (StateReq.encode ⟨mode, second, 0⟩),
    .control 0 (out gudReqSetStateCommit) []]

/-- Two pixels of two bytes are stored as pixels of one byte. -/
theorem formatChange_narrowing :
    ∃ display, (gudDisplayOf [gudPixelFormatRgb565, gudPixelFormatR8]).Reaches
        (fun display callback => keepsRoom display callback = true)
        initialDisplay display ∧
      display.stores [1, 2, 3, 4] = true ∧ StoresInside display := by
  have ran : (((gudDisplayOf [gudPixelFormatRgb565, gudPixelFormatR8]).restrict
      keepsRoom).run initialDisplay (reformatting gudPixelFormatRgb565
        gudPixelFormatR8 ⟨0, 0, 2, 1, 4, 0, 0⟩)).map
          (·.stores [1, 2, 3, 4]) = some true := by
    decide +kernel
  obtain ⟨display, ran, stores⟩ := Option.map_eq_some_iff.mp ran
  have reached := (Machine.reaches_of_run ran).of_restrict
  exact ⟨display, reached, stores, ((formatChange reached).1 _ stores).2⟩

/-- A pixel of one byte is stored as one of four bytes. -/
theorem formatChange_widening :
    ∃ display, (gudDisplayOf [gudPixelFormatR8, gudPixelFormatXrgb8888]).run
        initialDisplay (reformatting gudPixelFormatR8 gudPixelFormatXrgb8888
          ⟨0, 0, 1, 1, 1, 0, 0⟩) = some display ∧
      display.stores [0xff] = true ∧ ¬ StoresInside display := by
  have ran : ((gudDisplayOf [gudPixelFormatR8, gudPixelFormatXrgb8888]).run
      initialDisplay (reformatting gudPixelFormatR8 gudPixelFormatXrgb8888
        ⟨0, 0, 1, 1, 1, 0, 0⟩)).map (fun display =>
          (display.stores [0xff], display.pending.transferLength.toNat,
            copies display.currentFormat display.pending.req)) =
      some (true, 1, [⟨0, 0, 4⟩]) := by
    decide +kernel
  obtain ⟨display, ran, facts⟩ := Option.map_eq_some_iff.mp ran
  obtain ⟨stores, facts⟩ := Prod.mk.inj facts
  obtain ⟨transfer, copied⟩ := Prod.mk.inj facts
  refine ⟨display, ran, stores, ?_⟩
  intro inside
  rw [StoresInside, transfer, copied] at inside
  have outside := (inside ⟨0, 0, 4⟩ List.mem_cons_self 1 (by decide)).1
  contradiction

end UsbipServer.Gud
