import UsbipServer.Library.Pieces
import UsbipServer.Refine.Requests

namespace UsbipServer.Gud

open Wire Library

/-! Requests to the display fail without a trace, and only states that were
checked are committed. -/

/-- The payload of a check: a state the display can show, and properties that
do not rotate it. -/
def StatePayload (formats data : List Byte) : Prop :=
  ∃ (state : StateReq) (properties : List PropertyReq),
    data = state.encode ++ properties.flatMap PropertyReq.encode ∧
    state.mode.hdisplay = 320 ∧ state.mode.vdisplay = 240 ∧
    state.format ∈ formats ∧ state.connector = 0 ∧
    ∀ property ∈ properties, property.prop = gudPropertyRotation →
      property.val = gudRotation0

section

variable {formats data : List Byte}

theorem length_flatMap_encode (properties : List PropertyReq) :
    (properties.flatMap PropertyReq.encode).length =
      properties.length * PropertyReq.size := by
  simp [List.length_flatMap]

theorem decode_property (state : StateReq) {properties : List PropertyReq}
    {index : Nat} {property : PropertyReq}
    (here : properties[index]? = some property) :
    PropertyReq.decode
        (state.encode ++ properties.flatMap PropertyReq.encode)
        (StateReq.size + index * PropertyReq.size) = property := by
  obtain ⟨inside, rfl⟩ := List.getElem?_eq_some_iff.mp here
  have split : properties = properties.take index ++
      properties[index] :: properties.drop (index + 1) := by
    rw [← List.drop_eq_getElem_cons inside, List.take_append_drop]
  have place : (state.encode ++
      (properties.take index).flatMap PropertyReq.encode).length =
        StateReq.size + index * PropertyReq.size := by
    rw [List.length_append, length_flatMap_encode, List.length_take,
      Nat.min_eq_left (Nat.le_of_lt inside), StateReq.length_encode]
  have decoded := PropertyReq.decode_encode
    (state.encode ++ (properties.take index).flatMap PropertyReq.encode)
    ((properties.drop (index + 1)).flatMap PropertyReq.encode)
    properties[index]
  rw [place, List.append_assoc] at decoded
  refine Eq.trans ?_ decoded
  congr 2
  conv_lhs => rw [split]
  rw [List.flatMap_append, List.flatMap_cons]

theorem propertiesAccepted_iff :
    Display.propertiesAccepted data = true ↔
      ∀ index < (data.length - StateReq.size) / PropertyReq.size,
        (PropertyReq.decode data
          (StateReq.size + index * PropertyReq.size)).prop =
            gudPropertyRotation →
        (PropertyReq.decode data
          (StateReq.size + index * PropertyReq.size)).val = gudRotation0 := by
  simp [Display.propertiesAccepted, List.all_eq_true, imp_iff_not_or]

theorem toUInt32_eq_iff {value : UInt16} {size : Nat} (small : size < 2 ^ 16) :
    value.toUInt32 = UInt32.ofNat size ↔ value = UInt16.ofNat size := by
  rw [← UInt32.toNat_inj, ← UInt16.toNat_inj, UInt16.toNat_toUInt32,
    UInt32.toNat_ofNat_of_lt' (Nat.lt_trans small (by decide)),
    UInt16.toNat_ofNat_of_lt' small]

theorem isOfferedFormatOf_iff {format : Byte} :
    isOfferedFormatOf formats format = true ↔ format ∈ formats := by
  simp [isOfferedFormatOf]

theorem StatePayload.acceptable (payload : StatePayload formats data) :
    Acceptable formats data := by
  obtain ⟨state, properties, rfl, wide, high, offered, connector, upright⟩ :=
    payload
  have length : (state.encode ++
      properties.flatMap PropertyReq.encode).length - StateReq.size =
        properties.length * PropertyReq.size := by
    rw [List.length_append, length_flatMap_encode, StateReq.length_encode,
      Nat.add_sub_cancel_left]
  have decoded := StateReq.decode_encode state
    (properties.flatMap PropertyReq.encode)
  refine ⟨?_, ?_, ?_, ?_, ?_, ?_, ?_⟩
  · rw [List.length_append, StateReq.length_encode]
    exact Nat.le_add_right _ _
  · rw [length]
    exact Nat.mul_mod_left _ _
  · rw [decoded, wide]
    rfl
  · rw [decoded, high]
    rfl
  · rw [decoded]
    exact isOfferedFormatOf_iff.mpr offered
  · rw [decoded, connector]
  · rw [propertiesAccepted_iff, length,
      Nat.mul_div_cancel _ (by decide : 0 < PropertyReq.size)]
    intro index inside
    rw [decode_property state (List.getElem?_eq_getElem inside)]
    exact upright _ (List.getElem_mem inside)

theorem Acceptable.payload (acceptable : Acceptable formats data) :
    StatePayload formats data := by
  obtain ⟨complete, whole, wide, high, offered, connector, upright⟩ := acceptable
  have count : (data.drop StateReq.size).length =
      (data.length - StateReq.size) / PropertyReq.size * PropertyReq.size := by
    rw [List.length_drop]
    exact (Nat.div_mul_cancel (Nat.dvd_of_mod_eq_zero whole)).symm
  refine ⟨StateReq.decode data,
    (List.range ((data.length - StateReq.size) / PropertyReq.size)).map
      fun index => PropertyReq.decode data
        (StateReq.size + index * PropertyReq.size),
    ?_, ?_, ?_, ?_, connector, ?_⟩
  · have blocks := flatMap_blocks (data.drop StateReq.size) PropertyReq.size
      ((data.length - StateReq.size) / PropertyReq.size)
    rw [← count, List.take_length] at blocks
    have properties : (List.range
        ((data.length - StateReq.size) / PropertyReq.size)).flatMap
          (fun index => (PropertyReq.decode data
            (StateReq.size + index * PropertyReq.size)).encode) =
        data.drop StateReq.size := by
      refine Eq.trans (List.flatMap_congr ?_) blocks
      intro index inside
      have before := Nat.mul_le_mul_right PropertyReq.size
        (List.mem_range.mp inside)
      rw [List.length_drop] at count
      rw [Nat.succ_mul] at before
      rw [PropertyReq.encode_decode (by omega), List.drop_drop]
    rw [StateReq.encode_decode complete, List.flatMap_map, properties,
      List.take_append_drop]
  · exact (toUInt32_eq_iff (show 320 < 2 ^ 16 by decide)).mp wide
  · exact (toUInt32_eq_iff (show 240 < 2 ^ 16 by decide)).mp high
  · exact isOfferedFormatOf_iff.mp offered
  · intro property member
    obtain ⟨index, inside, rfl⟩ := List.mem_map.mp member
    exact propertiesAccepted_iff.mp upright index (List.mem_range.mp inside)

end

inductive Event where
  | checked (format : Byte)
  | committed
  | cleared
  deriving DecidableEq, Repr

def Event.format : Event → Option Byte
  | .checked format => some format
  | _ => none

/-- What a callback adds to the history: checks and commits that succeed, and
resets. -/
def eventNote (formats : List Byte) (display : Display) :
    Callback → List Event
  | .control nowMs setup data =>
      if (display.controlDataOf formats nowMs setup data).1.lastStatus =
          .ok then
        if orders setup gudReqSetStateCheck then
          [.checked (StateReq.decode data).format]
        else if orders setup gudReqSetStateCommit then [.committed]
        else []
      else []
  | .endpoint _ _ => []
  | .reset _ => [.cleared]

/-- The events since the last reset, the latest one first. -/
def recent (events : List Event) : List Event :=
  events.reverse.takeWhile (· ≠ .cleared)

/-- The format of the last check before the last commit since the reset. -/
def committedFormat (events : List Event) : Byte :=
  (((recent events).dropWhile (· ≠ .committed)).findSome? Event.format).getD 0

/-- There is a check after the last commit or reset. -/
def uncommitted (events : List Event) : Bool :=
  ((recent events).takeWhile (· ≠ .committed)).any (·.format.isSome)

structure Follows (formats : List Byte) (display : Display)
    (events : List Event) : Prop where
  format : display.currentFormat = committedFormat events
  checked : display.stateChecked = uncommitted events
  latest : display.stateChecked = true →
    (recent events).findSome? Event.format = some display.checkedState.format
  offered : display.currentFormat = 0 ∨ display.currentFormat ∈ formats
  checkedOffered : display.stateChecked = true →
    display.checkedState.format ∈ formats

section

variable {formats : List Byte} {display next : Display} {events : List Event}

@[simp] theorem recent_checked (events : List Event) (format : Byte) :
    recent (events ++ [.checked format]) =
      .checked format :: recent events := by
  simp [recent]

@[simp] theorem recent_committed (events : List Event) :
    recent (events ++ [.committed]) = .committed :: recent events := by
  simp [recent]

@[simp] theorem recent_cleared (events : List Event) :
    recent (events ++ [.cleared]) = [] := by
  simp [recent]

theorem Follows.start : Follows formats initialDisplay [] :=
  ⟨rfl, rfl, nofun, .inl rfl, nofun⟩

theorem Follows.same (follows : Follows formats display events)
    (format : next.currentFormat = display.currentFormat)
    (checked : next.stateChecked = display.stateChecked)
    (state : next.checkedState = display.checkedState) :
    Follows formats next events := by
  obtain ⟨committed, pending, latest, offered, checkedOffered⟩ := follows
  exact ⟨format ▸ committed, checked ▸ pending, checked ▸ state ▸ latest,
    format ▸ offered, checked ▸ state ▸ checkedOffered⟩

theorem Follows.check (follows : Follows formats display events)
    {data : List Byte} (valid : Acceptable formats data) :
    Follows formats
      { display with
        lastStatus := .ok
        checkedState := StateReq.decode data
        stateChecked := true }
      (events ++ [.checked (StateReq.decode data).format]) := by
  have offered := isOfferedFormatOf_iff.mp valid.offered
  refine ⟨?_, ?_, fun _ => ?_, follows.offered, fun _ => offered⟩
  · simpa [committedFormat] using follows.format
  · simp [uncommitted, Event.format]
  · simp [List.findSome?_cons, Event.format]

theorem Follows.commit (follows : Follows formats display events)
    (checked : display.stateChecked = true) :
    Follows formats
      { display with
        lastStatus := .ok
        currentFormat := display.checkedState.format
        stateChecked := false }
      (events ++ [.committed]) := by
  refine ⟨?_, ?_, nofun, .inr (follows.checkedOffered checked), nofun⟩
  · simp [committedFormat, List.findSome?_cons, Event.format,
      follows.latest checked]
  · simp [uncommitted]

theorem Follows.reset (nowMs : UInt64) :
    Follows formats (display.reset nowMs) (events ++ [.cleared]) := by
  refine ⟨?_, ?_, nofun, .inl rfl, nofun⟩
  · simp [committedFormat, Display.reset]
  · simp [uncommitted, Display.reset]

theorem setRequestOf_check (data : List Byte) :
    display.setRequestOf formats gudReqSetStateCheck data =
      { (display.setStateCheckOf formats data).2 with
        lastStatus := (display.setStateCheckOf formats data).1 } := rfl

theorem setRequestOf_commit (data : List Byte) :
    display.setRequestOf formats gudReqSetStateCommit data =
      { display.setStateCommit.2 with
        lastStatus := display.setStateCommit.1 } := rfl

theorem Follows.control (follows : Follows formats display events)
    (nowMs : UInt64) (setup : Setup) (data : List Byte) :
    Follows formats (display.controlDataOf formats nowMs setup data).1
      (events ++ eventNote formats display (.control nowMs setup data)) := by
  by_cases check : orders setup gudReqSetStateCheck = true
  · have result := @controlDataOf_orders formats display data setup
      gudReqSetStateCheck nowMs check
    rw [setRequestOf_check] at result
    rcases setStateCheckOf_spec display formats data with
      ⟨_, status, failed, checked⟩ | ⟨valid, checked⟩
    · rw [checked] at result
      simp only [eventNote, result, failed, if_false, List.append_nil]
      exact follows.same rfl rfl rfl
    · rw [checked] at result
      simp only [eventNote, result, check, if_true]
      exact follows.check valid
  by_cases commit : orders setup gudReqSetStateCommit = true
  · have result := @controlDataOf_orders formats display data setup
      gudReqSetStateCommit nowMs commit
    rw [setRequestOf_commit] at result
    unfold Display.setStateCommit at result
    split at result
    · simp only [eventNote, result, reduceCtorEq, if_false, List.append_nil]
      exact follows.same rfl rfl rfl
    next checked =>
      rw [Bool.not_eq_false] at checked
      simp only [eventNote, result, check, commit, if_true]
      exact follows.commit checked
  · have none : eventNote formats display (.control nowMs setup data) = [] := by
      simp [eventNote, check, commit]
    rw [none, List.append_nil]
    have outcome := controlDataOf_outcome formats nowMs setup data display
    generalize (display.controlDataOf formats nowMs setup data).1 = after,
      (display.controlDataOf formats nowMs setup data).2 = reply at outcome ⊢
    cases outcome with
    | checked asked valid => contradiction
    | committed asked valid => contradiction
    | _ => exact follows.same rfl rfl rfl

theorem Follows.step (follows : Follows formats display events)
    {callback : Callback}
    (stepped : callbackStepOf formats display callback = some next) :
    Follows formats next
      (events ++ eventNote formats display callback) := by
  cases callback with
  | control nowMs setup data =>
      obtain rfl := Option.some.inj stepped
      exact follows.control nowMs setup data
  | endpoint ep data =>
      rw [eventNote, List.append_nil]
      have untouched := endpointData_untouched stepped
      exact follows.same untouched.format untouched.checked untouched.state
  | reset nowMs =>
      obtain rfl := Option.some.inj stepped
      exact .reset nowMs

theorem reached_follows
    (reached : ((gudDisplayOf formats).logged (eventNote formats)).Reaches
      Machine.anyStep (initialDisplay, []) (display, events)) :
    Follows formats display events := by
  refine reached.invariant (P := fun pair => Follows formats pair.1 pair.2)
    .start ?_
  rintro ⟨before, log⟩ callback ⟨after, log'⟩ _ follows _ stepped
  obtain ⟨moved, rfl⟩ := Machine.logged_step stepped
  exact follows.step moved

theorem controlDataOf_failed {nowMs : UInt64} {setup : Setup}
    {data : List Byte} (other : asksStatus setup = false)
    (failed : (display.controlDataOf formats nowMs setup data).1.lastStatus ≠
      .ok) :
    (display.controlDataOf formats nowMs setup data).1 =
        { display with
          lastStatus :=
            (display.controlDataOf formats nowMs setup data).1.lastStatus } ∧
      (display.controlDataOf formats nowMs setup data).2 = none := by
  have outcome := controlDataOf_outcome formats nowMs setup data display
  generalize (display.controlDataOf formats nowMs setup data).1 = after,
    (display.controlDataOf formats nowMs setup data).2 = reply
    at outcome failed ⊢
  cases outcome with
  | ignored => exact ⟨rfl, rfl⟩
  | refused status _ => exact ⟨rfl, rfl⟩
  | reported asked reply =>
      rw [asked] at other
      contradiction
  | _ => contradiction

theorem setStateCommit_ok_iff :
    display.setStateCommit.1 = .ok ↔ display.stateChecked = true := by
  unfold Display.setStateCommit
  split
  next unchecked => simp [unchecked]
  next checked => simpa using checked

theorem setStateCheckOf_ok_iff (data : List Byte) :
    (display.setStateCheckOf formats data).1 = .ok ↔
      StatePayload formats data := by
  rcases setStateCheckOf_spec display formats data with
    ⟨invalid, status, failed, result⟩ | ⟨valid, result⟩
  · rw [result]
    exact ⟨fun succeeded => absurd succeeded failed,
      fun payload => absurd payload.acceptable invalid⟩
  · rw [result]
    exact ⟨fun _ => valid.payload, fun _ => rfl⟩

end

/-- The format is the one of the last check before the last commit since the
reset.  A request that fails changes nothing but the status, a commit succeeds
exactly if there was a check for it, and a check exactly if the display can
show the state. -/
theorem checkedStates {formats : List Byte} {display : Display}
    {events : List Event}
    (reached : ((gudDisplayOf formats).logged (eventNote formats)).Reaches
      Machine.anyStep (initialDisplay, []) (display, events)) :
    display.currentFormat = committedFormat events ∧
      (display.currentFormat = 0 ∨ display.currentFormat ∈ formats) ∧
      ∀ nowMs setup data,
        let result := display.controlDataOf formats nowMs setup data
        (asksStatus setup = false → result.1.lastStatus ≠ .ok →
          result.1 = { display with lastStatus := result.1.lastStatus } ∧
            result.2 = none) ∧
        (orders setup gudReqSetStateCommit = true →
          (result.1.lastStatus = .ok ↔ uncommitted events = true)) ∧
        (orders setup gudReqSetStateCheck = true →
          (result.1.lastStatus = .ok ↔ StatePayload formats data)) := by
  have follows := reached_follows reached
  refine ⟨follows.format, follows.offered, ?_⟩
  intro nowMs setup data
  refine ⟨controlDataOf_failed, ?_, ?_⟩
  · intro commit
    rw [controlDataOf_orders nowMs commit, setRequestOf_commit,
      ← follows.checked]
    exact setStateCommit_ok_iff
  · intro check
    rw [controlDataOf_orders nowMs check, setRequestOf_check]
    exact setStateCheckOf_ok_iff data

def committing : List Callback :=
  let out (bRequest : Byte) : Setup := ⟨0x41, bRequest, 0, 0, 0, 0, 0, 0⟩
  let mode : DisplayModeReq := ⟨4608, 320, 320, 320, 320, 240, 240, 240, 240, 0⟩
  [.reset 0,
    .control 0 (out gudReqSetStateCheck) (StateReq.encode ⟨mode, 0x40, 0⟩),
    .control 0 (out gudReqSetStateCommit) []]

theorem checkedStates_committing :
    ∃ display,
      ((gudDisplayOf displayFormats).logged (eventNote displayFormats)).Reaches
        Machine.anyStep (initialDisplay, [])
        (display, [.cleared, .checked 0x40, .committed]) ∧
      display.currentFormat = 0x40 := by
  have ran : (((gudDisplayOf displayFormats).logged
      (eventNote displayFormats)).run (initialDisplay, []) committing).map
        Prod.snd = some [.cleared, .checked 0x40, .committed] := by
    decide +kernel
  obtain ⟨⟨display, events⟩, ran, rfl⟩ := Option.map_eq_some_iff.mp ran
  have reached := Machine.reaches_of_run ran
  exact ⟨display, reached, (checkedStates reached).1.trans (by decide)⟩

end UsbipServer.Gud
