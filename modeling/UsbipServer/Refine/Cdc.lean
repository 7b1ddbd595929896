import UsbipServer.Programs.Cdc
import UsbipServer.Library.LittleEndian
import UsbipServer.Refine.Inputs
import UsbipServer.Refine.Transmits

namespace UsbipServer

open Wire Library

/-- What a callback does to the input of the serial device. -/
def CallbackArgs.delivery : CallbackArgs → Option (Delivery Byte)
  | .endpointData _ data => some (.arrive data)
  | .reset => some .clear
  | _ => none

def CallbackArgs.isReset : CallbackArgs → Bool
  | .reset => true
  | _ => false

namespace Cdc

/-! The line of the serial device as the host set it. -/

def lineState : CallbackArgs → Option Byte
  | .control setup _ =>
      if setup.bRequest = cdcSetControlLineState then some setup.wValueLow
      else none
  | _ => none

def lineCoding : CallbackArgs → Option (List Byte)
  | .control setup data =>
      if setup.bRequest = cdcSetLineCoding ∧ data.length = 7 then some data
      else none
  | _ => none

/-- `DTR` and `RTS` as the last request since the last reset has set them. -/
def linesAfter (called : List CallbackArgs) : Bool × Bool :=
  match ((since CallbackArgs.isReset called).filterMap lineState).getLast? with
  | some value => (value &&& 0x01 ≠ 0, value &&& 0x02 ≠ 0)
  | none => (false, false)

/-- The last line coding, resets leave it as it is. -/
def codingAfter (called : List CallbackArgs) : List Byte :=
  (called.filterMap lineCoding).getLast?.getD [0, 0, 0, 0, 0, 0, 0]

def CdcState.coding (state : CdcState) : List Byte :=
  le 4 state.baudrate.toNat ++
    [state.charFormat, state.parity, state.dataBits]

theorem linesAfter_reset (called : List CallbackArgs) :
    linesAfter (called ++ [.reset]) = (false, false) := by
  rw [linesAfter, since_concat]
  rfl

theorem linesAfter_concat (called : List CallbackArgs) {args : CallbackArgs}
    (kept : args.isReset = false) :
    linesAfter (called ++ [args]) =
      match lineState args with
      | some value => (value &&& 0x01 ≠ 0, value &&& 0x02 ≠ 0)
      | none => linesAfter called := by
  rw [linesAfter, since_concat, if_neg (by simp [kept]),
    List.filterMap_append]
  cases set : lineState args with
  | none => simp [set, linesAfter]
  | some value => simp [set]

theorem codingAfter_concat (called : List CallbackArgs)
    (args : CallbackArgs) :
    codingAfter (called ++ [args]) =
      (lineCoding args).getD (codingAfter called) := by
  rw [codingAfter, List.filterMap_append]
  cases set : lineCoding args with
  | none => simp [set, codingAfter]
  | some data => simp [set]

theorem le_baudrate (rate0 rate1 rate2 rate3 : Byte) :
    le 4 (rate3.toUInt32 <<< 24 ||| rate2.toUInt32 <<< 16 |||
      rate1.toUInt32 <<< 8 ||| rate0.toUInt32).toNat =
      [rate0, rate1, rate2, rate3] := by
  have small0 : rate0.toNat < 2 ^ 8 := rate0.toNat_lt
  have small1 : rate1.toNat < 2 ^ 8 := rate1.toNat_lt
  have small2 : rate2.toNat < 2 ^ 8 := rate2.toNat_lt
  have small3 : rate3.toNat < 2 ^ 8 := rate3.toNat_lt
  have value : (rate3.toUInt32 <<< 24 ||| rate2.toUInt32 <<< 16 |||
      rate1.toUInt32 <<< 8 ||| rate0.toUInt32).toNat =
      ofLe [rate0, rate1, rate2, rate3] := by
    have high := Nat.shiftLeft_add_eq_or_of_lt small2 rate3.toNat
    have middle := Nat.shiftLeft_add_eq_or_of_lt small1
      (rate3.toNat <<< 8 ||| rate2.toNat)
    have low := Nat.shiftLeft_add_eq_or_of_lt small0
      ((rate3.toNat <<< 8 ||| rate2.toNat) <<< 8 ||| rate1.toNat)
    have shifted : rate3.toNat <<< 24 ||| rate2.toNat <<< 16 |||
        rate1.toNat <<< 8 ||| rate0.toNat =
        ((rate3.toNat <<< 8 ||| rate2.toNat) <<< 8 ||| rate1.toNat) <<< 8 |||
          rate0.toNat := by
      simp only [Nat.shiftLeft_or_distrib, ← Nat.shiftLeft_add]
    have within : rate3.toNat <<< 24 < 4294967296 ∧
        rate2.toNat <<< 16 < 4294967296 ∧ rate1.toNat <<< 8 < 4294967296 := by
      simp only [Nat.shiftLeft_eq]
      omega
    simp only [ofLe, UInt32.toNat_or, UInt32.toNat_shiftLeft,
      UInt8.toNat_toUInt32, UInt32.toNat_ofNat, Nat.reduceMod, Nat.reducePow,
      Nat.mod_eq_of_lt within.1, Nat.mod_eq_of_lt within.2.1,
      Nat.mod_eq_of_lt within.2.2]
    rw [shifted, ← low, ← middle, ← high]
    simp only [Nat.shiftLeft_eq]
    omega
  rw [value]
  exact le_ofLe [rate0, rate1, rate2, rate3]

theorem controlData_lines (setup : Setup) (data : List Byte)
    (state : CdcState) :
    ((controlData setup data state).dtr, (controlData setup data state).rts) =
      match lineState (.control setup data) with
      | some value => (value &&& 0x01 ≠ 0, value &&& 0x02 ≠ 0)
      | none => (state.dtr, state.rts) := by
  by_cases coding : setup.bRequest = cdcSetLineCoding
  · have other : setup.bRequest ≠ cdcSetControlLineState := by
      rw [coding]
      decide
    simp only [controlData, if_pos coding, lineState, if_neg other]
    split <;> rfl
  · by_cases lines : setup.bRequest = cdcSetControlLineState
    · simp [controlData, if_neg coding, if_pos lines, lineState]
    · simp [controlData, if_neg coding, if_neg lines, lineState]

theorem controlData_coding (setup : Setup) (data : List Byte)
    (state : CdcState) :
    (controlData setup data state).coding =
      (lineCoding (.control setup data)).getD state.coding := by
  by_cases coding : setup.bRequest = cdcSetLineCoding
  · simp only [controlData, lineCoding, if_pos coding]
    split
    next rate0 rate1 rate2 rate3 charFormat parity dataBits =>
      rw [CdcState.coding, le_baudrate]
      simp [coding]
    next other =>
      have short : data.length ≠ 7 := by
        intro seven
        match data, seven, other with
        | [rate0, rate1, rate2, rate3, format, parity, bits], _, other =>
            exact other _ _ _ _ _ _ _ rfl
      simp [short]
  · simp only [controlData, lineCoding, coding, false_and, if_false]
    split <;> rfl

inductive Does (statics : Statics) : Action Statics → Prop
  | ends (here : statics.place = .loop) :
      Does statics (.stop { statics with place := .ended })
  | starts (here : statics.place = .loop) :
      Does statics (.work { statics with place := .test })
  | connected (here : statics.place = .test)
      (high : statics.cdcState.dtr = true) :
      Does statics (.work { statics with place := .transmit })
  | alone (here : statics.place = .test)
      (low : statics.cdcState.dtr = false) :
      Does statics (.work { statics with place := .enter })
  | ticks (here : statics.place = .transmit) :
      Does statics (.transmit 1 (tick statics.tickCounter)
        { statics with
          tickCounter := statics.tickCounter + 1
          place := .enter })
  | enters (here : statics.place = .enter) :
      Does statics (.enter { statics with place := .printing .test })
  | prints (place : Printing) (next : Option Printing) (input : Input)
      (here : statics.place = .printing place)
      (stepped : place.step inputBufferLength statics.input =
        some (next, input)) :
      Does statics (.work
        { statics with
          input := input
          place := next.elim .exit .printing })
  | exits (here : statics.place = .exit) :
      Does statics (.exit { statics with place := .loop })
  | ended (here : statics.place = .ended) : Does statics .ended

variable {interrupted : Bool} {statics : Statics} {action : Action Statics}

theorem main_does (acts : main interrupted statics = some action) :
    Does statics action := by
  unfold main at acts
  cases here : statics.place with
  | loop =>
      simp only [here] at acts
      split at acts
      · obtain rfl := Option.some.inj acts
        exact .ends here
      · obtain rfl := Option.some.inj acts
        exact .starts here
  | test =>
      simp only [here] at acts
      split at acts
      next high =>
        obtain rfl := Option.some.inj acts
        exact .connected here high
      next low =>
        obtain rfl := Option.some.inj acts
        exact .alone here (Bool.eq_false_iff.mpr low)
  | transmit =>
      simp only [here] at acts
      obtain rfl := Option.some.inj acts
      exact .ticks here
  | enter =>
      simp only [here] at acts
      obtain rfl := Option.some.inj acts
      exact .enters here
  | printing place =>
      simp only [here] at acts
      split at acts
      · contradiction
      next next input stepped =>
        obtain rfl := Option.some.inj acts
        exact .prints place (some next) input here stepped
      next input stepped =>
        obtain rfl := Option.some.inj acts
        exact .prints place none input here stepped
  | exit =>
      simp only [here] at acts
      obtain rfl := Option.some.inj acts
      exact .exits here
  | ended =>
      simp only [here] at acts
      obtain rfl := Option.some.inj acts
      exact .ended here

theorem callback_quiet {args : CallbackArgs} {reaction : Reaction Statics}
    (handled : callback args statics = some reaction) :
    reaction.transmits = [] ∧ reaction.statics.place = statics.place ∧
      reaction.statics.tickCounter = statics.tickCounter := by
  cases args with
  | endpointData ep data =>
      obtain ⟨received, _, rfl⟩ := Option.map_eq_some_iff.mp handled
      exact ⟨rfl, rfl, rfl⟩
  | _ =>
      obtain rfl := Option.some.inj handled
      exact ⟨rfl, rfl, rfl⟩

theorem disciplined : program.Disciplined inside where
  start := rfl
  callback := by
    intro input args statics reaction handled
    simp only [inside, (callback_quiet handled).2.1]
  work := by
    intro input interrupted statics next acts
    cases main_does acts with
    | prints place after buffer here =>
        cases after <;> simp [inside, here]
    | starts here => simp [inside, here]
    | connected here => simp [inside, here]
    | alone here => simp [inside, here]
  enter := by
    intro input interrupted statics next acts
    cases main_does acts with
    | enters here => rfl
  exit := by
    intro input interrupted statics next acts
    cases main_does acts with
    | exits here => rfl
  transmit := by
    intro input interrupted statics ep data next acts
    cases main_does acts with
    | ticks here => exact ⟨by simp [inside, here], rfl⟩
  stop := by
    intro input interrupted statics next acts
    cases main_does acts with
    | ends here => simp [inside, here]

theorem onlyAnswers : program.OnlyAnswers := by
  intro input args statics reaction handled transmit member
  rw [(callback_quiet handled).1] at member
  contradiction

def printing : Place → Printing
  | .printing place => place
  | _ => .test

/-- The variables, told from the callbacks and from what was sent. -/
structure Told (calls : List CallbackArgs) (sent : List (List Byte))
    (statics : Statics) : Prop where
  input : statics.input.Told inputBufferLength
    (calls.filterMap CallbackArgs.delivery) (printing statics.place)
  lines : (statics.cdcState.dtr, statics.cdcState.rts) = linesAfter calls
  coding : statics.cdcState.coding = codingAfter calls
  ticks : ∃ count, statics.tickCounter = UInt32.ofNat count ∧
    sent = (List.range count).map fun number => tick (UInt32.ofNat number)

section

variable {calls : List CallbackArgs} {sent : List (List Byte)}

theorem printing_outside (outside : inside statics = false) :
    printing statics.place = .test := by
  unfold inside at outside
  cases here : statics.place with
  | printing place => simp [here] at outside
  | _ => rfl

theorem Told.goto (told : Told calls sent statics) (place : Place)
    (prints : printing place = printing statics.place) :
    Told calls sent { statics with place := place } := by
  refine ⟨?_, told.lines, told.coding, told.ticks⟩
  rw [prints]
  exact told.input

theorem Told.called (told : Told calls sent statics) {args : CallbackArgs}
    {reaction : Reaction Statics} (outside : inside statics = false)
    (handled : callback args statics = some reaction) :
    Told (calls ++ [args]) sent reaction.statics := by
  have here := printing_outside outside
  have input := told.input
  rw [here] at input
  cases args with
  | control setup data =>
      obtain rfl := Option.some.inj handled
      refine ⟨?_, ?_, ?_, told.ticks⟩
      · rw [List.filterMap_append, List.filterMap_cons_none rfl,
          List.filterMap_nil, List.append_nil]
        exact told.input
      · rw [linesAfter_concat calls rfl, ← told.lines]
        exact controlData_lines setup data statics.cdcState
      · rw [codingAfter_concat, ← told.coding]
        exact controlData_coding setup data statics.cdcState
  | endpointData ep data =>
      obtain ⟨input', filled, rfl⟩ := Option.map_eq_some_iff.mp handled
      obtain ⟨next, same, _, after⟩ := input.arrive data
      obtain rfl := Option.some.inj (filled.symm.trans same)
      refine ⟨?_, ?_, ?_, told.ticks⟩
      · rw [List.filterMap_append, here]
        exact after
      · rw [linesAfter_concat calls rfl]
        exact told.lines
      · rw [codingAfter_concat]
        exact told.coding
  | isoIn ep length =>
      obtain rfl := Option.some.inj handled
      refine ⟨?_, ?_, ?_, told.ticks⟩
      · rw [List.filterMap_append, List.filterMap_cons_none rfl,
          List.filterMap_nil, List.append_nil]
        exact told.input
      · rw [linesAfter_concat calls rfl]
        exact told.lines
      · rw [codingAfter_concat]
        exact told.coding
  | reset =>
      obtain rfl := Option.some.inj handled
      refine ⟨?_, ?_, ?_, told.ticks⟩
      · rw [List.filterMap_append]
        simp only [reset, here]
        exact input.clear
      · rw [linesAfter_reset]
        rfl
      · rw [codingAfter_concat]
        exact told.coding

theorem Told.acted (told : Told calls sent statics) {next : Statics}
    (does : Does statics action) (goes : action.next = some next) :
    Told calls (sent ++ action.sends 1) next := by
  cases does with
  | ticks here =>
      obtain rfl := Option.some.inj goes
      obtain ⟨count, counter, ticked⟩ := told.ticks
      have went := told.goto .enter (by rw [here]; rfl)
      refine ⟨went.input, told.lines, told.coding, count + 1, ?_, ?_⟩
      · simp [counter]
      · rw [ticked, List.range_succ, List.map_append, counter]
        rfl
  | prints place after input here stepped =>
      obtain rfl := Option.some.inj goes
      have reading := told.input
      rw [here] at reading
      obtain ⟨later, left, same, read, _⟩ := reading.step
      obtain ⟨rfl, rfl⟩ :=
        Prod.mk.inj (Option.some.inj (stepped.symm.trans same))
      simp only [Action.sends, List.append_nil]
      refine ⟨?_, told.lines, told.coding, told.ticks⟩
      cases after <;> exact read
  | ended here => contradiction
  | ends here | starts here | connected here _ | alone here _ | enters here
  | exits here =>
      obtain rfl := Option.some.inj goes
      simp only [Action.sends, List.append_nil]
      apply told.goto
      rw [here]
      rfl

theorem reachable_told {composite : Composite Statics}
    (reachable : program.Reachable composite) :
    Told (calledIn composite.server.trace)
      (sentOn 1 composite.server.trace) composite.statics := by
  refine reachable.seen (P := fun composite =>
    Told (calledIn composite.server.trace)
      (sentOn 1 composite.server.trace) composite.statics)
    disciplined onlyAnswers ?_ ?_
  · exact ⟨Input.told_start inputBufferLength, rfl, rfl, 0, rfl, rfl⟩
  · intro before after events traced told seen
    rw [traced, calledIn_append, sentOn_append]
    cases seen with
    | still statics called sent =>
        rw [statics, called, sent 1 (by decide), List.append_nil,
          List.append_nil]
        exact told
    | called input args reaction handled outside statics called sent =>
        rw [statics, called, sent 1 (by decide), List.append_nil]
        exact told.called outside handled
    | acted input action acts statics called sent =>
        rw [called, sent 1 (by decide), List.append_nil]
        exact told.acted (main_does acts) statics

def setsLines (args : CallbackArgs) : Bool :=
  args.isReset || (lineState args).isSome

def connects (args : CallbackArgs) : Bool :=
  (lineState args).any fun value => value &&& 0x01 ≠ 0

def due : Place → Nat
  | .transmit => 1
  | _ => 0

/-- While `DTR` is low, only a tick that was due before is sent. -/
structure Quiet (events : List Event) (statics : Statics) : Prop where
  lowered : statics.cdcState.dtr = false →
    (sentOn 1 (since (Event.calls setsLines) events)).length +
      due statics.place ≤ 1
  never : (∀ args ∈ calledIn events, connects args = false) →
    statics.cdcState.dtr = false ∧ due statics.place = 0 ∧
      sentOn 1 events = []

theorem callback_dtr {args : CallbackArgs} {reaction : Reaction Statics}
    (handled : callback args statics = some reaction) :
    (setsLines args = false →
      reaction.statics.cdcState.dtr = statics.cdcState.dtr) ∧
    (setsLines args = true →
      reaction.statics.cdcState.dtr = connects args) := by
  cases args with
  | control setup data =>
      obtain rfl := Option.some.inj handled
      have lines := congrArg Prod.fst
        (controlData_lines setup data statics.cdcState)
      simp only [setsLines, connects, CallbackArgs.isReset, Bool.false_or]
      cases set : lineState (.control setup data) with
      | none => simpa [set] using lines
      | some value => simpa [set] using lines
  | endpointData ep data =>
      obtain ⟨received, _, rfl⟩ := Option.map_eq_some_iff.mp handled
      simp [setsLines, CallbackArgs.isReset, lineState]
  | isoIn ep length =>
      obtain rfl := Option.some.inj handled
      simp [setsLines, CallbackArgs.isReset, lineState]
  | reset =>
      obtain rfl := Option.some.inj handled
      simp [setsLines, CallbackArgs.isReset, connects, lineState, reset]

variable {before events : List Event}

theorem sentOn_uncalled (uncalled : calledIn events = []) :
    sentOn 1 (since (Event.calls setsLines) (before ++ events)) =
      sentOn 1 (since (Event.calls setsLines) before) ++
        sentOn 1 events := by
  apply sentOn_since
  rw [uncalled]
  intro args member
  contradiction

theorem Quiet.called (quiet : Quiet before statics) {args : CallbackArgs}
    {reaction : Reaction Statics}
    (handled : callback args statics = some reaction)
    (now : calledIn events = [args]) (unsent : sentOn 1 events = []) :
    Quiet (before ++ events) reaction.statics := by
  obtain ⟨_, place, _⟩ := callback_quiet handled
  obtain ⟨kept, set⟩ := callback_dtr handled
  refine ⟨?_, ?_⟩
  · intro low
    rw [place]
    cases sets : setsLines args with
    | false =>
        rw [kept sets] at low
        rw [sentOn_since (by simpa [now] using sets), unsent, List.append_nil]
        exact quiet.lowered low
    | true =>
        rw [sentOn_since_called (by simp [now]) sets unsent, List.length_nil]
        unfold due
        split <;> omega
  · intro never
    rw [calledIn_append, now] at never
    obtain ⟨low, waits, nothing⟩ := quiet.never fun other member =>
      never other (List.mem_append_left _ member)
    rw [place, sentOn_append, nothing, unsent]
    refine ⟨?_, waits, rfl⟩
    cases sets : setsLines args with
    | false => exact (kept sets).trans low
    | true => exact (set sets).trans (never args (by simp))

theorem Quiet.acted (quiet : Quiet before statics) {next : Statics}
    (does : Does statics action) (goes : action.next = some next)
    (uncalled : calledIn events = [])
    (sent : sentOn 1 events = action.sends 1) :
    Quiet (before ++ events) next := by
  -- what is sent was due
  have paid : next.cdcState.dtr = statics.cdcState.dtr ∧
      (statics.cdcState.dtr = false →
        (action.sends 1).length + due next.place = due statics.place) := by
    cases does with
    | ended here => contradiction
    | connected here high =>
        obtain rfl := Option.some.inj goes
        exact ⟨rfl, fun low => by simp [high] at low⟩
    | prints place after input here stepped =>
        obtain rfl := Option.some.inj goes
        refine ⟨rfl, fun _ => ?_⟩
        rw [here]
        cases after <;> rfl
    | ends here | starts here | alone here _ | ticks here | enters here
    | exits here =>
        obtain rfl := Option.some.inj goes
        refine ⟨rfl, fun _ => ?_⟩
        rw [here]
        rfl
  obtain ⟨same, paid⟩ := paid
  refine ⟨?_, ?_⟩
  · intro low
    rw [same] at low
    have earlier := quiet.lowered low
    have account := paid low
    rw [sentOn_uncalled uncalled, sent, List.length_append]
    omega
  · intro never
    rw [calledIn_append, uncalled, List.append_nil] at never
    obtain ⟨low, waits, nothing⟩ := quiet.never never
    have account := paid low
    rw [waits] at account
    have unsent : (action.sends 1).length = 0 := by omega
    rw [sentOn_append, nothing, sent, List.length_eq_zero_iff.mp unsent]
    exact ⟨same.trans low, by omega, rfl⟩

theorem reachable_quiet {composite : Composite Statics}
    (reachable : program.Reachable composite) :
    Quiet composite.server.trace composite.statics := by
  refine reachable.seen (P := fun composite =>
    Quiet composite.server.trace composite.statics)
    disciplined onlyAnswers ?_ ?_
  · exact ⟨fun _ => Nat.zero_le 1, fun _ => ⟨rfl, rfl, rfl⟩⟩
  · intro before after events traced quiet seen
    rw [traced]
    cases seen with
    | still statics called sent =>
        have unsent := sent 1 (by decide)
        rw [statics]
        refine ⟨?_, ?_⟩
        · rw [sentOn_uncalled called, unsent, List.append_nil]
          exact quiet.lowered
        · rw [calledIn_append, called, sentOn_append, unsent,
            List.append_nil, List.append_nil]
          exact quiet.never
    | called input args reaction handled outside statics called sent =>
        rw [statics]
        exact quiet.called handled called (sent 1 (by decide))
    | acted input action acts statics called sent =>
        exact quiet.acted (main_does acts) statics called
          (sent 1 (by decide))

end

end Cdc

end UsbipServer
