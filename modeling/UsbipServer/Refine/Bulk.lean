import UsbipServer.Programs.Bulk
import UsbipServer.Refine.Inputs
import UsbipServer.Refine.Transmits

namespace UsbipServer

open Wire Library Ledger

def CallbackArgs.data : CallbackArgs → Option (List Byte)
  | .endpointData _ data => some data
  | _ => none

/-- What the endpoint callbacks of a history were called with. -/
def receivedIn (events : List Event) : List (List Byte) :=
  (calledIn events).filterMap CallbackArgs.data

theorem receivedIn_delivered (events : List Event) :
    receivedIn events = (deliveredIn events).map Prod.snd := by
  rw [receivedIn, calledIn, deliveredIn, List.filterMap_filterMap,
    List.map_filterMap]
  apply List.filterMap_congr
  intro event _
  cases event with
  | callback args => cases args <;> rfl
  | _ => rfl

namespace Bulk

inductive Does (statics : Statics) : Action Statics → Prop
  | ends (here : statics.place = .loop) :
      Does statics (.stop { statics with place := .ended })
  | starts (here : statics.place = .loop) :
      Does statics (.work { statics with place := .enter })
  | enters (here : statics.place = .enter) :
      Does statics (.enter { statics with place := .printing .test })
  | prints (place next : Printing) (input : Input)
      (here : statics.place = .printing place)
      (stepped : place.step inputBufferLength statics.input =
        some (some next, input)) :
      Does statics
        (.work { statics with input := input, place := .printing next })
  | nothing (input : Input) (here : statics.place = .printing .test)
      (stepped : Printing.test.step inputBufferLength statics.input =
        some (none, input)) :
      Does statics
        (.work { statics with input := input, place := .exit false })
  | printed (place : Printing) (input : Input)
      (here : statics.place = .printing place) (bytes : place ≠ .test)
      (stepped : place.step inputBufferLength statics.input =
        some (none, input)) :
      Does statics (.work ⟨input, statics.msgCounter + 1, .exit true⟩)
  | exits (reply : Bool) (here : statics.place = .exit reply) :
      Does statics
        (.exit { statics with place := if reply then .reply else .loop })
  | replies (here : statics.place = .reply) :
      Does statics (.transmit 1 (message statics.msgCounter)
        { statics with place := .loop })
  | ended (here : statics.place = .ended) : Does statics .ended

variable {interrupted : Bool} {statics : Statics} {action : Action Statics}

theorem main_does (acts : main interrupted statics = some action) :
    Does statics action := by
  unfold main at acts
  cases here : statics.place with
  | loop =>
      simp only [here] at acts
      split at acts
      · obtain rfl := Option.some.inj acts
        exact .ends here
      · obtain rfl := Option.some.inj acts
        exact .starts here
  | enter =>
      simp only [here] at acts
      obtain rfl := Option.some.inj acts
      exact .enters here
  | printing place =>
      simp only [here] at acts
      split at acts
      · contradiction
      next next input stepped =>
        obtain rfl := Option.some.inj acts
        exact .prints place next input here stepped
      next input stepped =>
        split at acts
        next test =>
          subst test
          obtain rfl := Option.some.inj acts
          exact .nothing input here stepped
        next bytes =>
          obtain rfl := Option.some.inj acts
          exact .printed place input here bytes stepped
  | exit reply =>
      simp only [here] at acts
      obtain rfl := Option.some.inj acts
      exact .exits reply here
  | reply =>
      simp only [here] at acts
      obtain rfl := Option.some.inj acts
      exact .replies here
  | ended =>
      simp only [here] at acts
      obtain rfl := Option.some.inj acts
      exact .ended here

theorem disciplined : program.Disciplined inside where
  start := rfl
  callback := by
    intro input args statics reaction handled
    cases args with
    | endpointData ep data =>
        obtain ⟨received, _, rfl⟩ := Option.map_eq_some_iff.mp handled
        rfl
    | _ =>
        obtain rfl := Option.some.inj handled
        rfl
  work := by
    intro input interrupted statics next acts
    cases main_does acts with
    | starts here => simp [inside, here]
    | prints place after buffer here => simp [inside, here]
    | nothing buffer here => simp [inside, here]
    | printed place buffer here => simp [inside, here]
  enter := by
    intro input interrupted statics next acts
    cases main_does acts with
    | enters here => rfl
  exit := by
    intro input interrupted statics next acts
    cases main_does acts with
    | exits reply here => cases reply <;> rfl
  transmit := by
    intro input interrupted statics ep data next acts
    cases main_does acts with
    | replies here => exact ⟨by simp [inside, here], rfl⟩
  stop := by
    intro input interrupted statics next acts
    cases main_does acts with
    | ends here => simp [inside, here]

theorem onlyAnswers : program.OnlyAnswers := by
  intro input args statics reaction handled transmit member
  cases args with
  | endpointData ep data =>
      obtain ⟨received, _, rfl⟩ := Option.map_eq_some_iff.mp handled
      contradiction
  | _ =>
      obtain rfl := Option.some.inj handled
      contradiction

def printing : Place → Printing
  | .printing place => place
  | _ => .test

def owed : Place → Nat
  | .exit true => 1
  | .reply => 1
  | _ => 0

/-- The variables, told from what was received and what was sent. -/
structure Told (received sent : List (List Byte)) (statics : Statics) :
    Prop where
  input : statics.input.Told inputBufferLength
    (received.map Delivery.arrive) (printing statics.place)
  counter : statics.msgCounter = UInt32.ofNat statics.input.lines.length
  replies : ∃ count,
    count + owed statics.place = statics.input.lines.length ∧
      sent = (List.range count).map fun number =>
        message (UInt32.ofNat (number + 1))

section

variable {received sent : List (List Byte)}

theorem Told.test (told : Told received sent statics)
    (here : printing statics.place = .test) :
    statics.input.Told inputBufferLength (received.map Delivery.arrive)
      .test := by
  rw [← here]
  exact told.input

theorem printing_outside (outside : inside statics = false) :
    printing statics.place = .test := by
  unfold inside at outside
  cases here : statics.place with
  | printing place => simp [here] at outside
  | _ => rfl

theorem Told.goto (told : Told received sent statics) (place : Place)
    (prints : printing place = printing statics.place)
    (owes : owed place = owed statics.place) :
    Told received sent { statics with place := place } := by
  refine ⟨?_, told.counter, ?_⟩
  · rw [prints]
    exact told.input
  · rw [owes]
    exact told.replies

theorem Told.called (told : Told received sent statics) {args : CallbackArgs}
    {reaction : Reaction Statics} (outside : inside statics = false)
    (handled : callback args statics = some reaction) :
    Told (received ++ args.data.toList) sent reaction.statics := by
  cases args with
  | endpointData ep data =>
      obtain ⟨input, filled, rfl⟩ := Option.map_eq_some_iff.mp handled
      have here := printing_outside outside
      obtain ⟨next, same, lines, after⟩ := (told.test here).arrive data
      obtain rfl := Option.some.inj (filled.symm.trans same)
      refine ⟨?_, ?_, ?_⟩
      · rw [List.map_append, here]
        exact after
      · rw [lines]
        exact told.counter
      · rw [lines]
        exact told.replies
  | _ =>
      obtain rfl := Option.some.inj handled
      simpa [CallbackArgs.data] using told

theorem Told.acted (told : Told received sent statics) {next : Statics}
    (does : Does statics action) (goes : action.next = some next) :
    Told received (sent ++ action.sends 1) next := by
  cases does with
  | replies here =>
      obtain rfl := Option.some.inj goes
      obtain ⟨count, counted, replied⟩ := told.replies
      simp only [here, owed] at counted
      have number := told.counter
      rw [← counted] at number
      refine ⟨told.test (by rw [here]; rfl), told.counter, count + 1, counted,
        ?_⟩
      rw [replied, List.range_succ, List.map_append]
      simp only [Action.sends, number]
      rfl
  | ended here => contradiction
  | prints place after input here stepped | printed place input here _ stepped
  | nothing input here stepped =>
      obtain rfl := Option.some.inj goes
      have reading := told.input
      rw [here] at reading
      obtain ⟨later, left, same, read, lines⟩ := reading.step
      obtain ⟨rfl, rfl⟩ := Prod.mk.inj (Option.some.inj (stepped.symm.trans same))
      obtain ⟨count, counted, replied⟩ := told.replies
      simp only [here, owed] at counted
      simp only [Action.sends, List.append_nil]
      refine ⟨read, ?_, count, ?_, replied⟩
      · simp_all [told.counter, printing]
      · simp_all [owed, printing]
  | exits reply here =>
      obtain rfl := Option.some.inj goes
      simp only [Action.sends, List.append_nil]
      apply told.goto
      · cases reply <;> rw [here] <;> rfl
      · cases reply <;> rw [here] <;> rfl
  | ends here | starts here | enters here =>
      obtain rfl := Option.some.inj goes
      simp only [Action.sends, List.append_nil]
      apply told.goto
      · rw [here]
        rfl
      · rw [here]
        rfl

theorem reachable_told {composite : Composite Statics}
    (reachable : program.Reachable composite) :
    Told (receivedIn composite.server.trace)
      (sentOn 1 composite.server.trace) composite.statics := by
  refine reachable.seen (P := fun composite =>
    Told (receivedIn composite.server.trace)
      (sentOn 1 composite.server.trace) composite.statics)
    disciplined onlyAnswers ?_ ?_
  · exact ⟨Input.told_start inputBufferLength, rfl, 0, rfl, rfl⟩
  · intro before after events traced told seen
    rw [traced, receivedIn, calledIn_append, sentOn_append]
    cases seen with
    | still statics called sent =>
        rw [statics, called, sent 1 (by decide), List.append_nil,
          List.append_nil]
        exact told
    | called input args reaction handled outside statics called sent =>
        have later := told.called outside handled
        rw [statics, called, sent 1 (by decide), List.filterMap_append,
          List.append_nil]
        cases args <;> exact later
    | acted input action acts statics called sent =>
        rw [called, sent 1 (by decide), List.append_nil]
        exact told.acted (main_does acts) statics

end

end Bulk

end UsbipServer
