import UsbipServer.Programs.Keyboard
import UsbipServer.Refine.Transmits

namespace UsbipServer.Keyboard

open Wire Library

/-! What a host makes of the reports. -/

/-- The keys of a US keyboard from keycode 4 on, as the HID usage tables list
them. -/
def usKeys : List Byte :=
  ascii "abcdefghijklmnopqrstuvwxyz1234567890\n\x1b\x08\t -=[]\x5c#;\x27\x60,./"

def usShiftedKeys : List Byte :=
  ascii "ABCDEFGHIJKLMNOPQRSTUVWXYZ!@#$%^&*()\n\x1b\x08\t _+\x7b\x7d|~:\x22~<>?"

/-- The character of a key, alone or with the left shift key. -/
def usKey (key : HidKey) : Option Byte :=
  if key.keycode < 4 then none
  else if key.modifier = 0 then usKeys[key.keycode.toNat - 4]?
  else if key.modifier = modLshift then
    usShiftedKeys[key.keycode.toNat - 4]?
  else none

/-- The key that a report adds to one with all keys up. -/
def reportKey : List Byte → Option HidKey
  | [modifier, 0, keycode, 0, 0, 0, 0, 0] => some ⟨keycode, modifier⟩
  | _ => none

def reportChar (report : List Byte) : Option Byte :=
  (reportKey report).bind usKey

def hostText (reports : List (List Byte)) : List Byte :=
  reports.filterMap reportChar

def typeable (char : Byte) : Bool :=
  (0x20 ≤ char && char ≤ 0x7e) || char = 0x08 || char = 0x09 || char = 0x0a

def keystrokes (text : List Byte) : List (List Byte) :=
  text.flatMap fun char => [keyDown (asciiToHid char), keysUp]

theorem usKey_asciiToHid {char : Byte} (known : typeable char = true) :
    usKey (asciiToHid char) = some char := by
  have all : ∀ index : Fin 256, typeable (UInt8.ofNat index) = true →
      usKey (asciiToHid (UInt8.ofNat index)) =
        some (UInt8.ofNat index) := by
    decide +kernel
  have each := all ⟨char.toNat, char.toNat_lt⟩
  rw [UInt8.ofNat_toNat] at each
  exact each known

@[simp] theorem hostText_append (before after : List (List Byte)) :
    hostText (before ++ after) = hostText before ++ hostText after :=
  List.filterMap_append

theorem hostText_keystroke {char : Byte} (known : typeable char = true) :
    hostText [keyDown (asciiToHid char), keysUp] = [char] := by
  have pressed : reportChar (keyDown (asciiToHid char)) = some char :=
    usKey_asciiToHid known
  rw [hostText, List.filterMap_cons_some pressed]
  rfl

theorem hostText_keystrokes {text : List Byte}
    (known : ∀ char ∈ text, typeable char = true) :
    hostText (keystrokes text) = text := by
  induction text with
  | nil => rfl
  | cons char text induction =>
      have rest := induction fun other member =>
        known other (List.mem_cons_of_mem _ member)
      have shape : keystrokes (char :: text) =
          [keyDown (asciiToHid char), keysUp] ++ keystrokes text := rfl
      rw [shape, hostText_append, rest,
        hostText_keystroke (known char List.mem_cons_self)]
      rfl

@[simp] theorem keystrokes_append (before after : List Byte) :
    keystrokes (before ++ after) = keystrokes before ++ keystrokes after :=
  List.flatMap_append

inductive Does (interrupted : Bool) (statics : Statics) :
    Action Statics → Prop
  | ends (here : statics.place = .loop) (told : interrupted = true) :
      Does interrupted statics (.stop { statics with place := .ended })
  | starts (here : statics.place = .loop) (untold : interrupted = false) :
      Does interrupted statics (.work { statics with place := .poll })
  | gives (here : statics.place = .poll) (told : interrupted = true) :
      Does interrupted statics (.work { statics with place := .typing 0 })
  | polls (here : statics.place = .poll) :
      Does interrupted statics (.work { statics with place := .enter })
  | enters (here : statics.place = .enter) :
      Does interrupted statics (.enter { statics with place := .take })
  | takes (here : statics.place = .take) :
      Does interrupted statics
        (.work ⟨false, .exit statics.configurationActive⟩)
  | exits (active : Bool) (here : statics.place = .exit active) :
      Does interrupted statics (.exit { statics with
        place := if active then .typing 0 else .poll })
  | goes (stringIdx : Nat) (here : statics.place = .typing stringIdx)
      (inside : stringIdx < typingString.length)
      (untold : interrupted = false) :
      Does interrupted statics
        (.work { statics with place := .press stringIdx })
  | finishes (stringIdx : Nat) (here : statics.place = .typing stringIdx)
      (done : stringIdx < typingString.length → interrupted = true) :
      Does interrupted statics (.work { statics with place := .loop })
  | presses (stringIdx : Nat) (char : Byte)
      (here : statics.place = .press stringIdx)
      (read : typingString[stringIdx]? = some char) :
      Does interrupted statics (.transmit 0x81 (keyDown (asciiToHid char))
        { statics with place := .release stringIdx })
  | releases (stringIdx : Nat) (here : statics.place = .release stringIdx) :
      Does interrupted statics (.transmit 0x81 keysUp
        { statics with place := .typing (stringIdx + 1) })
  | ended (here : statics.place = .ended) : Does interrupted statics .ended

variable {interrupted : Bool} {statics : Statics} {action : Action Statics}

theorem main_does (acts : main interrupted statics = some action) :
    Does interrupted statics action := by
  unfold main at acts
  cases here : statics.place with
  | loop =>
      simp only [here] at acts
      split at acts
      next told =>
        obtain rfl := Option.some.inj acts
        exact .ends here told
      next untold =>
        obtain rfl := Option.some.inj acts
        exact .starts here (Bool.eq_false_iff.mpr untold)
  | poll =>
      simp only [here] at acts
      split at acts
      next told =>
        obtain rfl := Option.some.inj acts
        exact .gives here told
      · obtain rfl := Option.some.inj acts
        exact .polls here
  | enter =>
      simp only [here] at acts
      obtain rfl := Option.some.inj acts
      exact .enters here
  | take =>
      simp only [here] at acts
      obtain rfl := Option.some.inj acts
      exact .takes here
  | exit active =>
      simp only [here] at acts
      obtain rfl := Option.some.inj acts
      exact .exits active here
  | typing stringIdx =>
      simp only [here] at acts
      split at acts
      next more =>
        obtain rfl := Option.some.inj acts
        exact .goes stringIdx here more.1 more.2
      next done =>
        obtain rfl := Option.some.inj acts
        refine .finishes stringIdx here fun inside => ?_
        rw [← Bool.not_eq_false]
        exact fun untold => done ⟨inside, untold⟩
  | press stringIdx =>
      simp only [here] at acts
      obtain ⟨char, read, rfl⟩ := Option.map_eq_some_iff.mp acts
      exact .presses stringIdx char here read
  | release stringIdx =>
      simp only [here] at acts
      obtain rfl := Option.some.inj acts
      exact .releases stringIdx here
  | ended =>
      simp only [here] at acts
      obtain rfl := Option.some.inj acts
      exact .ended here

theorem callback_keeps (args : CallbackArgs) (statics : Statics) :
    (callback args statics).statics.place = statics.place ∧
      ∀ transmit ∈ (callback args statics).transmits,
        epMasked transmit.1 = 0 := by
  have answers (setup : Setup) : ∀ transmit ∈
      hidReportAnswer usbKeyboardHidReport setup, epMasked transmit.1 = 0 := by
    intro transmit member
    unfold hidReportAnswer at member
    split at member
    · rw [List.mem_singleton.mp member]
      rfl
    · contradiction
  cases args with
  | control setup data =>
      simp only [callback, controlData]
      split
      · exact ⟨rfl, answers setup⟩
      · split <;> exact ⟨rfl, fun _ member => by contradiction⟩
  | _ => exact ⟨rfl, fun _ member => by contradiction⟩

theorem disciplined : program.Disciplined inside where
  start := rfl
  callback := by
    intro input args statics reaction handled
    obtain rfl := Option.some.inj handled
    simp only [inside, (callback_keeps args statics).1]
  work := by
    intro input interrupted statics next acts
    cases main_does acts with
    | starts here | gives here | polls here | takes here =>
        simp [inside, here]
    | goes stringIdx here | finishes stringIdx here => simp [inside, here]
  enter := by
    intro input interrupted statics next acts
    cases main_does acts with
    | enters here => rfl
  exit := by
    intro input interrupted statics next acts
    cases main_does acts with
    | exits active here => cases active <;> rfl
  transmit := by
    intro input interrupted statics ep data next acts
    cases main_does acts with
    | presses stringIdx char here => exact ⟨by simp [inside, here], rfl⟩
    | releases stringIdx here => exact ⟨by simp [inside, here], rfl⟩
  stop := by
    intro input interrupted statics next acts
    cases main_does acts with
    | ends here => simp [inside, here]

theorem onlyAnswers : program.OnlyAnswers := by
  intro input args statics reaction handled
  obtain rfl := Option.some.inj handled
  exact (callback_keeps args statics).2

/-- Where the main thread is with what was typed of the text.  `begun` is one
when a configuration was taken for it.  Only a server that stops breaks a text
off. -/
inductive At (stopped : Bool) (begun : Nat) :
    Place → List (List Byte) → Prop
  | loop : At stopped begun .loop []
  | poll : At stopped begun .poll []
  | enter : At stopped begun .enter []
  | take : At stopped begun .take []
  | idle : At stopped begun (.exit false) []
  | chosen (paid : begun = 1) : At stopped begun (.exit true) []
  | typing (stringIdx : Nat) (bound : stringIdx ≤ typingString.length)
      (paid : stringIdx = 0 ∧ stopped = true ∨ begun = 1) :
      At stopped begun (.typing stringIdx)
        (keystrokes (typingString.take stringIdx))
  | press (stringIdx : Nat) (paid : begun = 1) :
      At stopped begun (.press stringIdx)
        (keystrokes (typingString.take stringIdx))
  | release (stringIdx : Nat) (char : Byte)
      (read : typingString[stringIdx]? = some char) (paid : begun = 1) :
      At stopped begun (.release stringIdx)
        (keystrokes (typingString.take stringIdx) ++
          [keyDown (asciiToHid char)])
  | broken (place : Place) (told : stopped = true)
      (here : place = .loop ∨ place = .ended) (stringIdx : Nat)
      (paid : stringIdx = 0 ∨ begun = 1) :
      At stopped begun place (keystrokes (typingString.take stringIdx))

def configures : CallbackArgs → Bool
  | .control setup _ =>
      setup.bmRequestType = 0x00 && setup.bRequest = usbRequestSetConfiguration
        && setup.wValueLow ≠ 0
  | _ => false

/-- The variables, told from the callbacks, what was sent and whether the server
stops: the text as often as it was completed and what is typed of it now. -/
def Told (calls : List CallbackArgs) (sent : List (List Byte))
    (stopped : Bool) (statics : Statics) : Prop :=
  ∃ rounds begun rest,
    sent = (List.replicate rounds (keystrokes typingString)).flatten ++ rest ∧
    At stopped begun statics.place rest ∧ begun ≤ 1 ∧
    rounds + begun + statics.configurationActive.toNat ≤
      calls.countP configures

variable {calls : List CallbackArgs} {sent : List (List Byte)}
  {stopped later : Bool}

theorem At.stops {begun : Nat} {place : Place} {rest : List (List Byte)}
    (here : At stopped begun place rest)
    (kept : stopped = true → later = true) : At later begun place rest := by
  cases here with
  | loop => exact .loop
  | poll => exact .poll
  | enter => exact .enter
  | take => exact .take
  | idle => exact .idle
  | chosen paid => exact .chosen paid
  | typing stringIdx bound paid =>
      exact .typing stringIdx bound (paid.imp_left fun told =>
        ⟨told.1, kept told.2⟩)
  | press stringIdx paid => exact .press stringIdx paid
  | release stringIdx char read paid =>
      exact .release stringIdx char read paid
  | broken _ told here stringIdx paid =>
      exact .broken _ (kept told) here stringIdx paid

theorem Told.stops (told : Told calls sent stopped statics)
    (kept : stopped = true → later = true) :
    Told calls sent later statics := by
  obtain ⟨rounds, begun, rest, typed, here, account⟩ := told
  exact ⟨rounds, begun, rest, typed, here.stops kept, account⟩

theorem callback_active (args : CallbackArgs) (statics : Statics) :
    (callback args statics).statics.configurationActive.toNat ≤
      statics.configurationActive.toNat + [args].countP configures := by
  cases args with
  | control setup data =>
      simp only [callback, controlData]
      split
      · exact Nat.le_add_right _ _
      · split
        next configuring =>
          by_cases zero : setup.wValueLow = 0
          · simp [zero]
          · simp [configures, configuring, zero]
        · exact Nat.le_add_right _ _
  | _ => exact Nat.le_add_right _ _

theorem Told.called (told : Told calls sent stopped statics)
    (args : CallbackArgs) :
    Told (calls ++ [args]) sent stopped (callback args statics).statics := by
  obtain ⟨rounds, begun, rest, typed, here, once, account⟩ := told
  have active := callback_active args statics
  refine ⟨rounds, begun, rest, typed, ?_, once, ?_⟩
  · rw [(callback_keeps args statics).1]
    exact here
  · rw [List.countP_append]
    omega

theorem Told.goto {begun rounds : Nat} {rest : List (List Byte)}
    (typed : sent =
      (List.replicate rounds (keystrokes typingString)).flatten ++ rest)
    {place : Place} (there : At stopped begun place rest) (once : begun ≤ 1)
    (account : rounds + begun + statics.configurationActive.toNat ≤
      calls.countP configures) :
    Told calls (sent ++ []) stopped { statics with place := place } := by
  rw [List.append_nil]
  exact ⟨rounds, begun, rest, typed, there, once, account⟩

theorem keystrokes_take_succ {text : List Byte} {stringIdx : Nat}
    {char : Byte} (read : text[stringIdx]? = some char) :
    keystrokes (text.take (stringIdx + 1)) =
      keystrokes (text.take stringIdx) ++
        [keyDown (asciiToHid char), keysUp] := by
  rw [List.take_add_one, read, keystrokes_append]
  rfl

theorem Told.finishes {rounds : Nat} {rest : List (List Byte)}
    (typed : sent =
      (List.replicate rounds (keystrokes typingString)).flatten ++ rest)
    (whole : rest = keystrokes typingString)
    (account : rounds + 1 + statics.configurationActive.toNat ≤
      calls.countP configures) :
    Told calls sent stopped { statics with place := .loop } := by
  refine ⟨rounds + 1, 0, [], ?_, .loop, Nat.zero_le 1, account⟩
  rw [typed, whole, List.replicate_succ', List.flatten_append]
  simp

theorem Told.acted (told : Told calls sent interrupted statics)
    {next : Statics} (does : Does interrupted statics action)
    (goes : action.next = some next) :
    Told calls (sent ++ action.sends 1) interrupted next := by
  obtain ⟨rounds, begun, rest, typed, place, once, account⟩ := told
  cases does with
  | ends here told =>
      obtain rfl := Option.some.inj goes
      rw [here] at place
      cases place with
      | loop =>
          exact Told.goto typed
            (.broken .ended told (.inr rfl) 0 (.inl rfl)) once account
      | broken _ _ _ stringIdx paid =>
          exact Told.goto typed (.broken .ended told (.inr rfl) stringIdx paid)
            once account
  | starts here untold =>
      obtain rfl := Option.some.inj goes
      rw [here] at place
      cases place with
      | loop => exact Told.goto typed .poll once account
      | broken _ told =>
          rw [untold] at told
          contradiction
  | gives here told =>
      obtain rfl := Option.some.inj goes
      rw [here] at place
      cases place with
      | poll =>
          exact Told.goto typed (.typing 0 (Nat.zero_le _) (.inl ⟨rfl, told⟩))
            once account
      | broken _ _ wrong => simp at wrong
  | polls here =>
      obtain rfl := Option.some.inj goes
      rw [here] at place
      cases place with
      | poll => exact Told.goto typed .enter once account
      | broken _ _ wrong => simp at wrong
  | enters here =>
      obtain rfl := Option.some.inj goes
      rw [here] at place
      cases place with
      | enter => exact Told.goto typed .take once account
      | broken _ _ wrong => simp at wrong
  | takes here =>
      obtain rfl := Option.some.inj goes
      rw [here] at place
      simp only [Action.sends, List.append_nil]
      cases place with
      | take =>
          cases active : statics.configurationActive with
          | true =>
              rw [active] at account
              refine ⟨rounds, 1, [], typed, .chosen rfl, Nat.le_refl 1, ?_⟩
              simp only [Bool.toNat_true, Bool.toNat_false] at account ⊢
              omega
          | false =>
              rw [active] at account
              exact ⟨rounds, begun, [], typed, .idle, once, account⟩
      | broken _ _ wrong => simp at wrong
  | exits active here =>
      obtain rfl := Option.some.inj goes
      rw [here] at place
      cases place with
      | idle => exact Told.goto typed .poll once account
      | chosen paid =>
          exact Told.goto typed (.typing 0 (Nat.zero_le _) (.inr paid)) once
            account
      | broken _ _ wrong => simp at wrong
  | goes stringIdx here inside untold =>
      obtain rfl := Option.some.inj goes
      rw [here] at place
      cases place with
      | typing _ _ paid =>
          rcases paid with ⟨_, told⟩ | paid
          · rw [untold] at told
            contradiction
          · exact Told.goto typed (.press stringIdx paid) once account
      | broken _ _ wrong => simp at wrong
  | finishes stringIdx here done =>
      obtain rfl := Option.some.inj goes
      rw [here] at place
      cases place with
      | typing _ bound paid =>
          by_cases inside : stringIdx < typingString.length
          · exact Told.goto typed (.broken .loop (done inside) (.inl rfl)
              stringIdx (paid.imp_left And.left)) once account
          · have length : typingString.length = 16 := by decide
            rcases paid with ⟨zero, _⟩ | paid
            · omega
            · subst paid
              simp only [Action.sends, List.append_nil]
              refine Told.finishes typed ?_ account
              rw [List.take_of_length_le (Nat.le_of_not_lt inside)]
      | broken _ _ wrong => simp at wrong
  | presses stringIdx char here read =>
      obtain rfl := Option.some.inj goes
      rw [here] at place
      cases place with
      | press _ paid =>
          refine ⟨rounds, begun, _, ?_, .release stringIdx char read paid,
            once, account⟩
          rw [typed, List.append_assoc]
          rfl
      | broken _ _ wrong => simp at wrong
  | releases stringIdx here =>
      obtain rfl := Option.some.inj goes
      rw [here] at place
      cases place with
      | release _ char read paid =>
          have bound : stringIdx + 1 ≤ typingString.length :=
            (List.getElem?_eq_some_iff.mp read).1
          refine ⟨rounds, begun, _, ?_,
            .typing (stringIdx + 1) bound (.inr paid), once, account⟩
          rw [typed, keystrokes_take_succ read, List.append_assoc,
            List.append_assoc]
          rfl
      | broken _ _ wrong => simp at wrong
  | ended here => contradiction

end UsbipServer.Keyboard
