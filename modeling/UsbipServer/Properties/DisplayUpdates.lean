import UsbipServer.Refine.Display

namespace UsbipServer.Gud

open Wire Library

/-! The framebuffer shows exactly the completed updates, whatever the host
sends. -/

def actionNote (display : Display) (callback : Callback) : List Action :=
  [callback.action display]

abbrev Tracks (display : Display) (actions : List Action) : Prop :=
  Gather.Tracks SetBufferReq.wanted SetBufferReq.apply blank display.canvas
    actions

structure Drawing (display : Display) (actions : List Action) : Prop where
  sane : Sane display
  tracks : Tracks display actions
  accepted : ∀ req, Gather.Action.announced req ∈ actions → Accepted req

section

variable {display : Display} {actions : List Action}

theorem Drawing.step (drawing : Drawing display actions) (callback : Callback) :
    ∃ next, gudDisplay.step display callback = some next ∧
      Drawing next (actions ++ actionNote display callback) := by
  obtain ⟨next, stepped, sane, canvas⟩ := drawing.sane.step callback
  refine ⟨next, stepped, sane, ?_, ?_⟩
  · rw [Tracks, canvas]
    exact drawing.tracks.step (callback.action display)
  · intro req announced
    rcases List.mem_append.mp announced with earlier | now
    · exact drawing.accepted req earlier
    · have action := List.mem_singleton.mp now
      cases callback with
      | control nowMs setup data =>
          rcases controlData_cases nowMs setup data drawing.sane.format with
            ⟨other, _⟩ | ⟨starts, accepted, _⟩
          · rw [other] at action
            contradiction
          · rw [starts] at action
            obtain rfl := Gather.Action.announced.inj action
            exact accepted
      | endpoint | reset => contradiction

theorem Drawing.run (drawing : Drawing display actions)
    (callbacks : List Callback) :
    ∃ final later, (gudDisplay.logged actionNote).run (display, actions)
        callbacks = some (final, later) ∧ Drawing final later := by
  induction callbacks generalizing display actions with
  | nil => exact ⟨display, actions, rfl, drawing⟩
  | cons callback rest induction =>
      obtain ⟨next, stepped, drawing⟩ := drawing.step callback
      obtain ⟨final, later, finished, drawing⟩ := induction drawing
      refine ⟨final, later, ?_, drawing⟩
      simp only [Machine.run, Machine.logged, stepped, Option.map_some]
      exact finished

theorem Drawing.start : Drawing initialDisplay [] :=
  ⟨initialDisplay_sane, .start, by simp⟩

end

def fitting : Machine Display Callback :=
  gudDisplay.restrict fun display callback => !callback.overshoots display

abbrev Canvas.filled (canvas : Canvas) (block : List Byte) : Canvas :=
  Gather.Canvas.fill SetBufferReq.wanted SetBufferReq.apply canvas block

/-- A run up to its first callback that is not pixel data. -/
inductive Opens (display final : Display) (block : List Byte) :
    List (Callback × List Byte) → Prop
  | last (canvas : final.canvas = display.canvas.filled block) :
      Opens display final block []
  | other {between next : Display} {callback : Callback} {later : List Byte}
      {rest : List (Callback × List Byte)} {tail : List Callback}
      (canvas : between.canvas = display.canvas.filled block)
      (controls : between.controls = display.controls) (sane : Sane between)
      (control : ∀ ep data, callback ≠ .endpoint ep data)
      (stepped : gudDisplay.step between callback = some next)
      (remains : uncut tail = (later, rest))
      (finished : fitting.run next tail = some final) :
      Opens display final block ((callback, later) :: rest)

section

variable {display other final : Display}

theorem Sane.filled_nil (sane : Sane display) :
    display.canvas.filled [] = display.canvas := by
  apply Gather.fill_nil
  intro order earlier filling
  cases active : display.pending.active with
  | false => simp [Display.canvas, active] at filling
  | true =>
      obtain ⟨rfl, rfl⟩ : display.pending.req = order ∧
          display.transferBuffer.slice 0 display.pending.received.toNat =
            earlier := by
        simpa [Display.canvas, active] using filling
      rw [Buffer.length_slice]
      exact (sane.receiving active).lacks

theorem Sane.overshoots (sane : Sane display) (ep : Byte) (data : List Byte) :
    (Callback.endpoint ep data).overshoots display =
      display.canvas.overshoots SetBufferReq.wanted data := by
  cases active : display.pending.active with
  | false =>
      simp [Callback.overshoots, Gather.Canvas.overshoots, Display.canvas,
        active]
  | true =>
      have receiving := sane.receiving active
      have lacks := receiving.lacks
      simp only [Callback.overshoots, Gather.Canvas.overshoots, Display.canvas,
        active, receiving.missing, SetBufferReq.wanted, Buffer.length_slice,
        Bool.true_and, if_true]
      rw [decide_eq_decide]
      omega

theorem fitting_run_cons {callback : Callback} {rest : List Callback}
    (finished : fitting.run display (callback :: rest) = some final) :
    callback.overshoots display = false ∧ ∃ next,
      gudDisplay.step display callback = some next ∧
        fitting.run next rest = some final := by
  simp only [Machine.run, fitting, Machine.restrict] at finished
  cases fits : callback.overshoots display with
  | true => simp [fits] at finished
  | false =>
      refine ⟨rfl, ?_⟩
      simp only [fits, Bool.not_false, if_true] at finished
      split at finished
      · contradiction
      next next stepped => exact ⟨next, stepped, finished⟩

theorem Opens.chunk {data block : List Byte}
    {rest : List (Callback × List Byte)}
    (fits : display.canvas.overshoots SetBufferReq.wanted data = false)
    (canvas : other.canvas = display.canvas.filled data)
    (controls : other.controls = display.controls)
    (opens : Opens other final block rest) :
    Opens display final (data ++ block) rest := by
  have joined : other.canvas.filled block =
      display.canvas.filled (data ++ block) := by
    rw [canvas]
    exact Gather.fill_append fits
  cases opens with
  | last finished => exact .last (finished.trans joined)
  | other arrives same saneThere control stepped remains finished =>
      exact .other (arrives.trans joined) (same.trans controls) saneThere
        control stepped remains finished

theorem Sane.opens {callbacks : List Callback} (sane : Sane display)
    (finished : fitting.run display callbacks = some final) :
    Opens display final (uncut callbacks).1 (uncut callbacks).2 := by
  induction callbacks generalizing display with
  | nil =>
      obtain rfl := Option.some.inj finished
      exact .last sane.filled_nil.symm
  | cons callback rest induction =>
      obtain ⟨fits, next, stepped, remaining⟩ := fitting_run_cons finished
      cases callback with
      | endpoint ep data =>
          rw [sane.overshoots] at fits
          obtain ⟨after, received, controls, saneAfter, canvas⟩ :=
            sane.endpoint data
          obtain rfl := Option.some.inj (stepped.symm.trans received)
          rw [Canvas.next, Gather.step_piece_eq_fill fits] at canvas
          exact (induction saneAfter remaining).chunk fits canvas controls
      | control | reset =>
          exact .other sane.filled_nil.symm rfl sane (by simp) stepped rfl
            remaining

theorem step_control (nowMs : UInt64) (setup : Setup) (data : List Byte) :
    gudDisplay.step display (.control nowMs setup data) =
      some (display.controlData nowMs setup data).1 := rfl

theorem step_endpoint (ep : Byte) (data : List Byte) :
    gudDisplay.step display (.endpoint ep data) = display.endpointData data :=
  rfl

/-- Two displays that agree on the picture and on what control requests go by
do so after the same callback. -/
theorem callback_alike {next next' : Display} {callback : Callback}
    (sane : Sane display) (sane' : Sane other)
    (canvas : display.canvas = other.canvas)
    (controls : display.controls = other.controls)
    (control : ∀ ep data, callback ≠ .endpoint ep data)
    (stepped : gudDisplay.step display callback = some next)
    (stepped' : gudDisplay.step other callback = some next') :
    Sane next ∧ Sane next' ∧ next.canvas = next'.canvas ∧
      next.controls = next'.controls := by
  obtain ⟨_, here, saneNext, draws⟩ := sane.step callback
  obtain rfl := Option.some.inj (stepped.symm.trans here)
  obtain ⟨_, there, saneNext', draws'⟩ := sane'.step callback
  obtain rfl := Option.some.inj (stepped'.symm.trans there)
  refine ⟨saneNext, saneNext', ?_⟩
  cases callback with
  | control nowMs setup data =>
      obtain ⟨alike, action⟩ := controlData_alike nowMs setup data controls
      rw [step_control] at stepped stepped'
      obtain rfl := Option.some.inj stepped
      obtain rfl := Option.some.inj stepped'
      refine ⟨?_, alike⟩
      rw [draws, draws', canvas, action]
  | endpoint ep data => exact absurd rfl (control ep data)
  | reset nowMs =>
      obtain ⟨_, rest⟩ := Prod.mk.inj controls
      obtain ⟨_, state⟩ := Prod.mk.inj rest
      obtain rfl := Option.some.inj stepped
      obtain rfl := Option.some.inj stepped'
      constructor
      · rw [draws, draws', canvas]
        rfl
      · simp only [Display.controls, Display.reset, state]

theorem Opens.alike {final' : Display} {block : List Byte}
    {rest : List (Callback × List Byte)}
    (canvas : display.canvas = other.canvas)
    (controls : display.controls = other.controls)
    (opens : Opens display final block rest)
    (opens' : Opens other final' block rest) : final.canvas = final'.canvas := by
  -- over the callbacks that are not pixel data
  induction rest generalizing display other block with
  | nil =>
      cases opens with
      | last drawn =>
          cases opens' with
          | last drawn' => rw [drawn, drawn', canvas]
  | cons head rest induction =>
      cases opens with
      | other arrives same sane control stepped remains finished =>
          cases opens' with
          | other arrives' same' sane' _ stepped' remains' finished' =>
              rw [canvas, ← arrives'] at arrives
              rw [controls, ← same'] at same
              obtain ⟨saneNext, saneNext', drawn, kept⟩ := callback_alike sane
                sane' arrives same control stepped stepped'
              have opens := saneNext.opens finished
              have opens' := saneNext'.opens finished'
              rw [remains] at opens
              rw [remains'] at opens'
              exact induction drawn kept opens opens'

theorem uncut_alike {final' : Display} {callbacks callbacks' : List Callback}
    (sane : Sane display) (same : uncut callbacks = uncut callbacks')
    (finished : fitting.run display callbacks = some final)
    (finished' : fitting.run display callbacks' = some final') :
    final.framebuffer = final'.framebuffer := by
  have opens := sane.opens finished
  rw [same] at opens
  exact congrArg Gather.Canvas.image
    (opens.alike rfl rfl (sane.opens finished'))

end

/-- After any callbacks the framebuffer is the blank image with the updates
completed since the last reset applied in order, no copy having left its array,
and it is the same for the same pixel data cut into other chunks as long as
none of them overshoots. -/
theorem displayUpdates (callbacks : List Callback) :
    ∃ display actions,
      (gudDisplay.logged actionNote).run (initialDisplay, []) callbacks =
        some (display, actions) ∧
      display.framebuffer = (updates actions).foldl
        (fun image update => update.1.apply update.2 image) blank ∧
      (∀ update ∈ updates actions, update.2.length = update.1.wanted ∧
        ∀ image, Sets update.1 update.2 image
          (update.1.apply update.2 image)) ∧
      ∀ other final, uncut callbacks = uncut other →
        fitting.run initialDisplay callbacks = some display →
        fitting.run initialDisplay other = some final →
        display.framebuffer = final.framebuffer := by
  obtain ⟨display, actions, finished, drawing⟩ := Drawing.start.run callbacks
  refine ⟨display, actions, finished, drawing.tracks.image, ?_, ?_⟩
  · intro update member
    obtain ⟨announced, length⟩ := Gather.announced_of_mem_completions member
    exact ⟨length, (drawing.accepted update.1 announced).sets length⟩
  · intro other final same ended ended'
    exact uncut_alike initialDisplay_sane same ended ended'

def setBufferSetup : Setup :=
  ⟨requestTypeVendorInterfaceOut, gudReqSetBuffer, 0, 0, 0, 0, 25, 0⟩

theorem Sane.completes {display : Display} {req : SetBufferReq}
    {pixels : List Byte} (sane : Sane display)
    (pending : display.pending = ⟨true, req, req.length, 0⟩)
    (complete : pixels.length = req.wanted) :
    ∃ final, display.endpointData pixels = some final ∧
      final.framebuffer = req.apply pixels display.framebuffer := by
  obtain ⟨final, received, _, _, canvas⟩ := sane.endpoint pixels
  have active : display.pending.active = true := by rw [pending]
  have total : display.pending.received.toNat + pixels.length =
      display.pending.req.length.toNat := by
    rw [pending, complete]
    exact Nat.zero_add _
  rw [canvas_piece active, if_neg (by omega), if_pos total, pending] at canvas
  exact ⟨final, received, congrArg Gather.Canvas.image canvas⟩

/-- Once the format is set, every rectangle that fits a transfer is drawn. -/
theorem Sane.draws {display : Display} {req : SetBufferReq}
    {pixels : List Byte} (sane : Sane display)
    (format : display.currentFormat = gudPixelFormatRgb565)
    (accepted : Accepted req) (complete : pixels.length = req.wanted)
    (nowMs : UInt64) (ep : Byte) :
    ∃ final, gudDisplay.run display
        [.control nowMs setBufferSetup req.encode, .endpoint ep pixels] =
          some final ∧
      final.framebuffer = req.apply pixels display.framebuffer := by
  have saneNext := (sane.control nowMs setBufferSetup req.encode).1
  have asked : orders setBufferSetup gudReqSetBuffer = true := by decide
  have started := @controlData_orders display nowMs _ _ req.encode asked
  rw [setRequest_setBuffer, accepted.setBuffer format] at started
  have pending := congrArg Display.pending started
  have framebuffer := congrArg Display.framebuffer started
  obtain ⟨final, received, drawn⟩ := saneNext.completes pending complete
  rw [framebuffer] at drawn
  refine ⟨final, ?_, drawn⟩
  simp only [Machine.run, step_control, step_endpoint, received]

/-- The display with the format set, and then a rectangle of two pixels
announced. -/
def announcing : List Callback :=
  let out (bRequest : Byte) : Setup := ⟨0x41, bRequest, 0, 0, 0, 0, 0, 0⟩
  let mode : DisplayModeReq := ⟨4608, 320, 320, 320, 320, 240, 240, 240, 240, 0⟩
  [.reset 0,
    .control 0 (out gudReqSetStateCheck) (StateReq.encode ⟨mode, 0x40, 0⟩),
    .control 0 (out gudReqSetStateCommit) [],
    .control 0 (out gudReqSetBuffer)
      (SetBufferReq.encode ⟨1, 0, 2, 1, 4, 0, 0⟩)]

-- the two pixels are drawn however their bytes are cut
example :
    (gudDisplay.run initialDisplay
        (announcing ++ [.endpoint 1 [1, 2, 3, 4]])).map
      (·.framebuffer.slice 0 8) = some [0, 0, 1, 2, 3, 4, 0, 0] ∧
    (gudDisplay.run initialDisplay
        (announcing ++ [.endpoint 1 [1], .endpoint 1 [2, 3], .endpoint 1 [4]])).map
      (·.framebuffer.slice 0 8) = some [0, 0, 1, 2, 3, 4, 0, 0] := by
  decide +kernel

-- one byte too many spoils the update only when it comes with the last chunk
example :
    (gudDisplay.run initialDisplay
        (announcing ++ [.endpoint 1 [1, 2, 3, 4, 5]])).map
      (·.framebuffer.slice 0 8) = some [0, 0, 0, 0, 0, 0, 0, 0] ∧
    (gudDisplay.run initialDisplay
        (announcing ++ [.endpoint 1 [1, 2, 3, 4], .endpoint 1 [5]])).map
      (·.framebuffer.slice 0 8) = some [0, 0, 1, 2, 3, 4, 0, 0] := by
  decide +kernel

end UsbipServer.Gud
