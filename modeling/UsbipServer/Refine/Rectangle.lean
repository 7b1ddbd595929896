import UsbipServer.Spec.Updates

namespace UsbipServer.Gud

open Wire Library

/-! Storing a rectangle.  The bounds that `GUD_REQ_SET_BUFFER` is checked for
keep the copies inside the arrays, and the 32-bit indices exact. -/

structure Accepted (req : SetBufferReq) : Prop where
  columns : req.x.toNat + req.width.toNat ≤ 320
  rows : req.y.toNat + req.height.toNat ≤ 240
  length : req.length.toNat = 2 * (req.width.toNat * req.height.toNat)
  wanted : 0 < req.length.toNat
  fits : req.length.toNat ≤ 65536
  plain : req.compression = 0

section

variable {req : SetBufferReq} {pixels framebuffer : Buffer Byte}

theorem storeLines_concat (pitch rectPitch bytesPerPixel : UInt32)
    (lines : List UInt32) (line : UInt32) (framebuffer : Buffer Byte) :
    Display.storeLines req pitch rectPitch bytesPerPixel pixels
        (lines ++ [line]) framebuffer =
      (Display.storeLines req pitch rectPitch bytesPerPixel pixels lines
        framebuffer).bind
        (Display.storeLines req pitch rectPitch bytesPerPixel pixels
          [line]) := by
  induction lines generalizing framebuffer with
  | nil => rfl
  | cons head rest induction =>
      simp only [List.cons_append, Display.storeLines, Option.bind_eq_bind,
        Option.bind_assoc, induction]

theorem toNat_double {value : UInt32} (small : value.toNat ≤ 320) :
    (value * 2).toNat = 2 * value.toNat := by
  have two : (2 : UInt32).toNat = 2 := rfl
  rw [UInt32.toNat_mul, two]
  omega

theorem Accepted.line_source (accepted : Accepted req) {line : Nat}
    (within : line < req.height.toNat) :
    (UInt32.ofNat line * (req.width * 2)).toNat =
        line * (2 * req.width.toNat) ∧
      (req.width * 2).toNat = 2 * req.width.toNat ∧
      line * (2 * req.width.toNat) + 2 * req.width.toNat ≤ 65536 := by
  obtain ⟨columns, rows, length, _, fits, _⟩ := accepted
  have lines : (line + 1) * (2 * req.width.toNat) ≤
      req.height.toNat * (2 * req.width.toNat) :=
    Nat.mul_le_mul_right _ within
  have whole : req.height.toNat * (2 * req.width.toNat) =
      req.length.toNat := by
    rw [length, Nat.mul_left_comm, Nat.mul_comm req.height.toNat]
  rw [Nat.add_mul, Nat.one_mul] at lines
  have span := toNat_double (show req.width.toNat ≤ 320 by omega)
  have count : (UInt32.ofNat line).toNat = line :=
    UInt32.toNat_ofNat_of_lt' (by rw [UInt32.size]; omega)
  refine ⟨?_, span, by omega⟩
  rw [UInt32.toNat_mul, span, count]
  exact Nat.mod_eq_of_lt (by omega)

theorem Accepted.line_target (accepted : Accepted req) {line : Nat}
    (within : line < req.height.toNat) :
    ((req.y + UInt32.ofNat line) * (displayWidth * 2) + req.x * 2).toNat =
        (req.y.toNat + line) * 640 + 2 * req.x.toNat ∧
      (req.y.toNat + line) * 640 + 2 * req.x.toNat + 2 * req.width.toNat ≤
        framebufferSize := by
  obtain ⟨columns, rows, _, _, _, _⟩ := accepted
  have count : (UInt32.ofNat line).toNat = line :=
    UInt32.toNat_ofNat_of_lt' (by rw [UInt32.size]; omega)
  have pitch : (displayWidth * 2).toNat = 640 := by decide
  have capacity : framebufferSize = 307200 := by decide
  have row : (req.y + UInt32.ofNat line).toNat = req.y.toNat + line := by
    rw [UInt32.toNat_add, count]
    omega
  have column := toNat_double (show req.x.toNat ≤ 320 by omega)
  rw [capacity, UInt32.toNat_add, UInt32.toNat_mul, row, pitch, column]
  omega

theorem Accepted.storeLines (accepted : Accepted req) {rows : Nat}
    (within : rows ≤ req.height.toNat) :
    Display.storeLines req (displayWidth * 2) (req.width * 2) 2 pixels
        ((List.range rows).map UInt32.ofNat) framebuffer =
      some (framebuffer.copyRows 640 (req.area.widen 2) pixels rows) := by
  induction rows with
  | zero => rfl
  | succ rows induction =>
      have below : rows < req.height.toNat := within
      obtain ⟨source, span, readable⟩ := accepted.line_source below
      obtain ⟨target, writable⟩ := accepted.line_target below
      rw [List.range_succ, List.map_append, List.map_singleton,
        storeLines_concat, induction (Nat.le_of_lt below), Option.bind_some]
      have capacity : displayMaxBufferSize.toNat = 65536 := by decide
      simp only [Display.storeLines, copyFrom, copyInto, source, span, target,
        capacity, if_pos readable, Option.bind_eq_bind, Option.bind_some,
        Buffer.length_slice, if_pos writable]
      rfl

theorem Accepted.index_lt (accepted : Accepted req) {row column part : Nat}
    (above : row < req.height.toNat) (left : column < req.width.toNat)
    (byte : part < 2) :
    2 * (row * req.width.toNat + column) + part < req.length.toNat := by
  have lines : (row + 1) * req.width.toNat ≤
      req.height.toNat * req.width.toNat := Nat.mul_le_mul_right _ above
  rw [Nat.add_mul, Nat.one_mul] at lines
  rw [accepted.length, Nat.mul_comm req.width.toNat]
  omega

theorem Accepted.copyRows (accepted : Accepted req) :
    framebuffer.copyRows 640 (req.area.widen 2) pixels req.height.toNat =
      req.apply (pixels.slice 0 req.length.toNat) framebuffer := by
  have columns : (req.area.widen 2).left + (req.area.widen 2).span ≤ 640 := by
    have bound := accepted.columns
    change 2 * req.x.toNat + 2 * req.width.toNat ≤ 640
    omega
  rw [Buffer.copyRows_eq_paste _ _ columns (by decide)]
  funext offset
  have places := @Block.place_widen req.area 320 2 offset (by decide)
  have width : displayWidth.toNat = 320 := rfl
  have bytes : 2 * 320 = 640 := rfl
  have whole : { req.area.widen 2 with height := req.height.toNat } =
      req.area.widen 2 := rfl
  rw [bytes] at places
  simp only [Buffer.paste, SetBufferReq.apply, width]
  rw [whole, places]
  cases found : req.area.place 320 (offset / 2) with
  | none => rfl
  | some index =>
      obtain ⟨row, column, above, left, _, _, rfl⟩ := Block.place_eq_some found
      have bound := accepted.index_lt above left (Nat.mod_lt offset Nat.two_pos)
      have read := @Buffer.getElem?_slice Byte pixels 0 _ _ bound
      have value : (pixels.slice 0 req.length.toNat).getD
          (2 * (row * req.width.toNat + column) + offset % 2) 0 =
            pixels (2 * (row * req.width.toNat + column) + offset % 2) := by
        rw [List.getD_eq_getElem?_getD, read, Nat.zero_add]
        rfl
      exact value.symm

theorem Accepted.sets (accepted : Accepted req) {data : List Byte}
    (complete : data.length = req.length.toNat) (image : Buffer Byte) :
    Sets req data image (req.apply data image) := by
  have width : displayWidth.toNat = 320 := rfl
  have columns := accepted.columns
  constructor
  · intro i left j above part byte
    have pixel : (pixelOffset (req.x.toNat + i) (req.y.toNat + j) + part) / 2 =
        (req.y.toNat + j) * 320 + (req.x.toNat + i) := by
      simp only [pixelOffset, width]
      omega
    have odd : (pixelOffset (req.x.toNat + i) (req.y.toNat + j) + part) % 2 =
        part := by
      simp only [pixelOffset]
      omega
    have bound := accepted.index_lt above left byte
    rw [← complete] at bound
    have place : req.area.place 320
        ((req.y.toNat + j) * 320 + (req.x.toNat + i)) =
          some (j * req.width.toNat + i) := by
      rw [Block.place_row (by omega)]
      simp [SetBufferReq.area, left, above]
    simp only [SetBufferReq.apply, width, pixel, odd, place]
    rw [List.getD_eq_getElem?_getD, List.getElem?_eq_getElem bound]
    rfl
  · intro offset elsewhere
    simp only [SetBufferReq.apply, width]
    cases found : req.area.place 320 (offset / 2) with
    | none => rfl
    | some index =>
        obtain ⟨j, i, above, left, row, column, _⟩ := Block.place_eq_some found
        refine absurd ?_ (elsewhere i left j above (offset % 2)
          (Nat.mod_lt offset Nat.two_pos))
        simp only [pixelOffset, width]
        have top : req.area.top = req.y.toNat := rfl
        have start : req.area.left = req.x.toNat := rfl
        omega

theorem Accepted.storeRectangle (accepted : Accepted req) {display : Display}
    (format : display.currentFormat = gudPixelFormatRgb565) :
    display.storeRectangle req pixels = some { display with
      framebuffer := req.apply (pixels.slice 0 req.length.toNat)
        display.framebuffer
      framebufferChanged := true } := by
  have bits : formatBitsPerPixel gudPixelFormatRgb565 = 16 := by decide
  have bytes : (16 : UInt32) / 8 = 2 := by decide
  have whole : ¬ (16 : UInt32) % 8 ≠ 0 := by decide
  simp only [Display.storeRectangle, format, bits, bytes, if_neg whole,
    accepted.storeLines (Nat.le_refl _), accepted.copyRows,
    Option.bind_eq_bind, Option.bind_some]

theorem SetBufferReq.inside_bounds (inside : req.inside = true) :
    0 < req.width.toNat ∧ 0 < req.height.toNat ∧
      req.x.toNat + req.width.toNat ≤ 320 ∧
      req.y.toNat + req.height.toNat ≤ 240 := by
  obtain ⟨wide, high, left, top, right, bottom⟩ := of_decide_eq_true inside
  have width : displayWidth.toNat = 320 := rfl
  have height : displayHeight.toNat = 240 := rfl
  rw [UInt32.le_iff_toNat_le, UInt32.toNat_sub_of_le _ _ (UInt32.le_of_lt left),
    width] at right
  rw [UInt32.le_iff_toNat_le, UInt32.toNat_sub_of_le _ _ (UInt32.le_of_lt top),
    height] at bottom
  rw [UInt32.lt_iff_toNat_lt] at wide high left top
  rw [width] at left
  rw [height] at top
  refine ⟨wide, high, ?_, ?_⟩ <;> omega

theorem toNat_lineLength {width : UInt32} (small : width.toNat ≤ 320) :
    (lineLength gudPixelFormatRgb565 width).toNat = 2 * width.toNat := by
  have bits : formatBitsPerPixel gudPixelFormatRgb565 = 16 := by decide
  have sixteen : (16 : UInt32).toNat = 16 := rfl
  have seven : (7 : UInt32).toNat = 7 := rfl
  have eight : (8 : UInt32).toNat = 8 := rfl
  rw [lineLength, bits, UInt32.toNat_div, UInt32.toNat_add, UInt32.toNat_mul,
    sixteen, seven, eight]
  omega

theorem toNat_rectangleLength (inside : req.inside = true) :
    (lineLength gudPixelFormatRgb565 req.width * req.height).toNat =
      2 * (req.width.toNat * req.height.toNat) := by
  obtain ⟨_, _, columns, rows⟩ := SetBufferReq.inside_bounds inside
  have area : req.width.toNat * req.height.toNat ≤ 320 * 240 :=
    Nat.mul_le_mul (by omega) (by omega)
  rw [UInt32.toNat_mul, toNat_lineLength (by omega), Nat.mul_assoc]
  exact Nat.mod_eq_of_lt (by omega)

theorem compression_unmasked (compression : Byte) :
    compression &&& ~~~displayCompression = compression := by
  simp [displayCompression]

theorem Accepted.inside (accepted : Accepted req) : req.inside = true := by
  obtain ⟨columns, rows, length, wanted, _, _⟩ := accepted
  have width : displayWidth.toNat = 320 := rfl
  have height : displayHeight.toNat = 240 := rfl
  have wide : 0 < req.width.toNat := by
    by_contra zero
    simp [Nat.eq_zero_of_not_pos zero] at length
    omega
  have high : 0 < req.height.toNat := by
    by_contra zero
    simp [Nat.eq_zero_of_not_pos zero] at length
    omega
  have left : req.x ≤ displayWidth := by
    rw [UInt32.le_iff_toNat_le]
    omega
  have top : req.y ≤ displayHeight := by
    rw [UInt32.le_iff_toNat_le]
    omega
  apply decide_eq_true
  rw [UInt32.lt_iff_toNat_lt, UInt32.lt_iff_toNat_lt, UInt32.lt_iff_toNat_lt,
    UInt32.lt_iff_toNat_lt, UInt32.le_iff_toNat_le, UInt32.le_iff_toNat_le,
    UInt32.toNat_sub_of_le _ _ left, UInt32.toNat_sub_of_le _ _ top]
  refine ⟨wide, high, ?_, ?_, ?_, ?_⟩ <;> omega

theorem Accepted.setBuffer (accepted : Accepted req) {display : Display}
    (format : display.currentFormat = gudPixelFormatRgb565) :
    display.setBuffer req.encode = (.ok, { display with
      pending := ⟨true, req, req.length, 0⟩ }) := by
  have size : ¬ req.encode.length ≠ SetBufferReq.size := by
    simp [SetBufferReq.encode, SetBufferReq.size]
  have inside := accepted.inside
  have chosen : gudPixelFormatRgb565 ≠ 0 := by decide
  have length : req.length =
      lineLength gudPixelFormatRgb565 req.width * req.height := by
    apply UInt32.toNat_inj.mp
    rw [toNat_rectangleLength inside]
    exact accepted.length
  have transfer : ¬ (req.length = 0 ∨ displayMaxBufferSize < req.length) := by
    rintro (zero | large)
    · have wanted := accepted.wanted
      simp [zero] at wanted
    · have fits := accepted.fits
      have capacity : displayMaxBufferSize.toNat = 65536 := by decide
      rw [UInt32.lt_iff_toNat_lt] at large
      omega
  simp only [Display.setBuffer, if_neg size, SetBufferReq.decode_encode, inside,
    format, chosen, ← length, accepted.plain]
  simp [transfer]

end

end UsbipServer.Gud
