import UsbipServer.Refine.Keyboard
import UsbipServer.Properties.HostReads
import UsbipServer.Properties.Shutdown

namespace UsbipServer

open Wire Library Mailbox Keyboard

theorem Program.Moves.staysTold {Statics Input : Type}
    {program : Program Statics Input} {composite next : Composite Statics}
    (moves : program.Moves composite next)
    (told : composite.server.tcpip.stopServer = true) :
    next.server.tcpip.stopServer = true := by
  rcases moves.server_step with same | ⟨label, stepped⟩
  · rw [same]
    exact told
  · have looping : label.inLoop composite.server = true → true = true :=
      fun _ => rfl
    exact (step_nears told looping stepped).1

section

variable {composite : Composite Statics}

theorem Keyboard.reachable_told (reachable : program.Reachable composite) :
    Told (calledIn composite.server.trace) (sentOn 1 composite.server.trace)
      composite.server.tcpip.stopServer composite.statics := by
  refine reachable.invariant (P := fun composite =>
    Told (calledIn composite.server.trace) (sentOn 1 composite.server.trace)
      composite.server.tcpip.stopServer composite.statics) ?_ ?_
  · exact ⟨0, 0, [], rfl, .loop, Nat.zero_le 1, Nat.zero_le _⟩
  · intro before after reached told moves
    obtain ⟨events, traced⟩ := moves.traced reached
    refine Told.stops ?_ moves.staysTold
    rw [traced, calledIn_append, sentOn_append]
    cases moves.seen reached disciplined onlyAnswers traced with
    | still statics called sent =>
        rw [statics, called, sent 1 (by decide), List.append_nil,
          List.append_nil]
        exact told
    | called input args reaction handled outside statics called sent =>
        rw [statics, called, sent 1 (by decide), List.append_nil,
          ← Option.some.inj handled]
        exact told.called args
    | acted input action acts statics called sent =>
        rw [called, sent 1 (by decide), List.append_nil]
        exact told.acted (main_does acts) statics

theorem Keyboard.keystrokes_replicate (rounds : Nat) (text : List Byte) :
    (List.replicate rounds (keystrokes text)).flatten =
      keystrokes (List.replicate rounds text).flatten := by
  induction rounds with
  | zero => rfl
  | succ rounds induction =>
      rw [List.replicate_succ, List.replicate_succ, List.flatten_cons,
        List.flatten_cons, keystrokes_append, induction]

theorem Keyboard.report_length {text : List Byte} :
    ∀ report ∈ keystrokes text, report.length = 8 := by
  intro report member
  obtain ⟨char, _, pressed⟩ := List.mem_flatMap.mp member
  simp only [List.mem_cons, List.not_mem_nil, or_false] at pressed
  rcases pressed with rfl | rfl <;> rfl

theorem Keyboard.typingString_typeable :
    ∀ char ∈ typingString, typeable char = true := by
  decide +kernel

def Keyboard.Place.types (stringIdx : Nat) (place : Place) : Prop :=
  place = .typing stringIdx ∨ place = .press stringIdx ∨
    place = .release stringIdx

/-- The reports are those of the text, typed as a whole `rounds` times and up to
a character once more; `held` is the key that is down.  Each time took a
configuration of its own.  A text that has begun is still being typed, unless
the server is told to stop. -/
def Keyboard.Typed (calls : List CallbackArgs) (sent : List (List Byte))
    (stopped : Bool) (statics : Statics) : Prop :=
  ∃ rounds stringIdx held,
    sent = keystrokes ((List.replicate rounds typingString).flatten ++
      typingString.take stringIdx) ++ held ∧
    (held = [] ∨ statics.place = .release stringIdx ∧
      ∃ char, typingString[stringIdx]? = some char ∧
        held = [keyDown (asciiToHid char)]) ∧
    rounds + (if stringIdx = 0 ∧ held = [] then 0 else 1) ≤
      calls.countP configures ∧
    (stringIdx = 0 ∧ held = [] ∨ statics.place.types stringIdx ∨
      stopped = true)

theorem Keyboard.Told.typed {calls : List CallbackArgs}
    {sent : List (List Byte)} {stopped : Bool} {statics : Statics}
    (told : Told calls sent stopped statics) :
    Typed calls sent stopped statics := by
  obtain ⟨rounds, begun, rest, typed, place, once, account⟩ := told
  rw [keystrokes_replicate] at typed
  have split (stringIdx : Nat) (held : List (List Byte))
      (shape : rest = keystrokes (typingString.take stringIdx) ++ held) :
      sent = keystrokes ((List.replicate rounds typingString).flatten ++
        typingString.take stringIdx) ++ held := by
    rw [typed, shape, keystrokes_append, List.append_assoc]
  have still (stringIdx : Nat)
      (shape : rest = keystrokes (typingString.take stringIdx))
      (paid : stringIdx = 0 ∨ begun = 1)
      (goes : stringIdx = 0 ∨ statics.place.types stringIdx ∨
        stopped = true) : Typed calls sent stopped statics := by
    refine ⟨rounds, stringIdx, [], split stringIdx [] (by simp [shape]),
      .inl rfl, ?_, goes.imp_left fun zero => ⟨zero, rfl⟩⟩
    split
    · omega
    next later =>
      have paid : begun = 1 := paid.resolve_left fun zero => later ⟨zero, rfl⟩
      omega
  generalize now : statics.place = current at place
  cases place with
  | typing stringIdx bound paid =>
      exact still stringIdx rfl (paid.imp_left And.left)
        (.inr (.inl (.inl now)))
  | press stringIdx paid =>
      exact still stringIdx rfl (.inr paid) (.inr (.inl (.inr (.inl now))))
  | broken place told here stringIdx paid =>
      exact still stringIdx rfl paid (.inr (.inr told))
  | release stringIdx char read paid =>
      refine ⟨rounds, stringIdx, _, split stringIdx _ rfl,
        .inr ⟨now, char, read, rfl⟩, ?_, .inr (.inl (.inr (.inr now)))⟩
      rw [if_neg (by simp)]
      omega
  | _ => exact still 0 rfl (.inl rfl) (.inl rfl)

/-- The keyboard types its text once for each time the host configures it, a key
goes up before the next one goes down, and only a server that stops breaks the
text off. -/
theorem keyboardTypes (reachable : program.Reachable composite) :
    Typed (calledIn composite.server.trace)
      (sentOn 1 composite.server.trace) composite.server.tcpip.stopServer
      composite.statics :=
  (reachable_told reachable).typed

/-- The host configures the keyboard and reads the first report. -/
def keyboardLabels : List (ProgramLabel Unit) :=
  serverLabels (importLabels [controlIn 1 ⟨0x00, 9, 1, 0, 0, 0, 0, 0⟩ 0,
      bulkIn 2 1 8] ++ [.wait true, .server 0, .server 0]) ++
    .callback :: serverLabels [.server 0, .server 0, .server 0, .server 0] ++
    List.replicate 7 (.main ()) ++
    serverLabels [.post 0, .wait true, .server 0, .server 0, .server 0]

def keyboardComposite : Composite Statics :=
  program.machine.after program.initial keyboardLabels

theorem keyboardComposite_reachable : program.Reachable keyboardComposite :=
  Machine.after_reaches program.machine program.initial keyboardLabels

theorem keyboardTypes_begun :
    sentOn 1 keyboardComposite.server.trace = [keyDown ⟨0x1A, modLshift⟩] ∧
      Typed (calledIn keyboardComposite.server.trace)
        (sentOn 1 keyboardComposite.server.trace)
        keyboardComposite.server.tcpip.stopServer
        keyboardComposite.statics :=
  ⟨by decide +kernel, keyboardTypes keyboardComposite_reachable⟩

theorem Keyboard.asciiToHid_le (char : Byte) :
    (asciiToHid char).keycode ≤ 0x65 := by
  have all : ∀ index : Fin 256,
      (asciiToHid (UInt8.ofNat index)).keycode ≤ 0x65 := by
    decide +kernel
  have each := all ⟨char.toNat, char.toNat_lt⟩
  rw [UInt8.ofNat_toNat] at each
  exact each

/-- Every text that has keys can be told from its reports, which name one key
each and keep to the report descriptor. -/
theorem keyboardRoundTrip {text : List Byte}
    (known : ∀ char ∈ text, typeable char = true) :
    hostText (keystrokes text) = text ∧
      ∀ report ∈ keystrokes text, report.length = 8 ∧
        ∃ key, reportKey report = some key ∧ key.keycode ≤ 0x65 := by
  refine ⟨hostText_keystrokes known, ?_⟩
  intro report member
  refine ⟨report_length report member, ?_⟩
  obtain ⟨char, inside, pressed⟩ := List.mem_flatMap.mp member
  simp only [List.mem_cons, List.not_mem_nil, or_false] at pressed
  rcases pressed with rfl | rfl
  · exact ⟨asciiToHid char, rfl, asciiToHid_le char⟩
  · exact ⟨⟨0, 0⟩, rfl, by decide⟩

theorem keyboardRoundTrip_typingString :
    hostText (keystrokes typingString) = ascii "Who is typing..." :=
  (keyboardRoundTrip typingString_typeable).1

end

end UsbipServer
