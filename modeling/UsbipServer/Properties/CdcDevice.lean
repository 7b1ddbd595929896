import UsbipServer.Refine.Cdc
import UsbipServer.Properties.HostReads

namespace UsbipServer

open Wire Library Mailbox Cdc

/-! The serial device: what the host sends is printed, and a connected terminal
reads ticks. -/

section

variable {composite : Composite Statics}

/-- No work of the program leaves its buffer. -/
theorem Cdc.Told.runs {calls : List CallbackArgs} {sent : List (List Byte)}
    {statics : Statics} (told : Told calls sent statics) :
    (∀ args, (callback args statics).isSome = true) ∧
      ∀ interrupted, (main interrupted statics).isSome = true := by
  constructor
  · intro args
    cases args with
    | endpointData ep data =>
        obtain ⟨_, _, holds⟩ := told.input.inbox
        obtain ⟨next, filled, _⟩ := holds.endpointData data
        simp [callback, filled]
    | _ => rfl
  · intro interrupted
    unfold main
    cases here : statics.place with
    | printing place =>
        have reading := told.input
        rw [here] at reading
        obtain ⟨next, input, stepped, _⟩ := reading.step
        simp only [printing] at stepped
        simp only [stepped]
        cases next <;> rfl
    | loop | test =>
        simp only
        split <;> rfl
    | _ => rfl

/-- The lines the serial device prints and what is left in its buffer are those
of a bounded inbox that the resets clear: no line has anything of two hosts. -/
theorem cdcInput (reachable : program.Reachable composite) :
    (∃ deliveries,
      given deliveries = (calledIn composite.server.trace).filterMap
        CallbackArgs.delivery ∧
      Inbox.after inputBufferLength deliveries =
        ⟨composite.statics.input.content, composite.statics.input.lines⟩) ∧
      (∀ line ∈ composite.statics.input.lines,
        Inbox.Whole ((calledIn composite.server.trace).filterMap
          CallbackArgs.delivery) line) ∧
      (∀ args, (callback args composite.statics).isSome = true) ∧
      ∀ interrupted, (main interrupted composite.statics).isSome = true := by
  have told := reachable_told reachable
  obtain ⟨deliveries, were, holds⟩ := told.input.inbox
  refine ⟨⟨deliveries, were, holds⟩, ?_, told.runs⟩
  intro line member
  have taken := Inbox.taken_whole inputBufferLength deliveries line
  rw [holds] at taken
  rw [← were]
  exact (taken member).given

/-- The host sends two bytes and opens a terminal; the device prints them and
sends a tick. -/
def cdcLabels : List (ProgramLabel Unit) :=
  serverLabels (importLabels [bulkOut 1 1 [0x68, 0x69],
      controlIn 2 ⟨0x21, 0x22, 1, 0, 0, 0, 0, 0⟩ 0, bulkIn 3 1 64] ++
      [.server 0]) ++
    .callback :: serverLabels [.wait true, .server 0] ++
    .callback :: serverLabels [.server 0, .server 0, .wait true, .server 0,
      .server 0] ++
    .callback :: serverLabels [.server 0, .server 0, .server 0, .server 0] ++
    List.replicate 3 (.main ()) ++ serverLabels [.post 0] ++
    List.replicate 6 (.main ()) ++
    serverLabels [.wait true, .server 0, .server 0, .server 0]

def cdcComposite : Composite Statics :=
  program.machine.after program.initial cdcLabels

theorem cdcComposite_reachable : program.Reachable cdcComposite :=
  Machine.after_reaches program.machine program.initial cdcLabels

theorem cdcInput_printed :
    cdcComposite.statics.input.lines = [[0x68, 0x69]] ∧
      ∀ line ∈ cdcComposite.statics.input.lines,
        Inbox.Whole ((calledIn cdcComposite.server.trace).filterMap
          CallbackArgs.delivery) line :=
  ⟨by decide +kernel, (cdcInput cdcComposite_reachable).2.1⟩

/-- The line is as the host set it last, a reset closes the terminal.  The main
thread looks at `DTR` without the lock: one tick may follow after it went low,
and none comes before a terminal was opened. -/
theorem cdcTerminal (reachable : program.Reachable composite) :
    (composite.statics.cdcState.dtr, composite.statics.cdcState.rts) =
        linesAfter (calledIn composite.server.trace) ∧
      composite.statics.cdcState.coding =
        codingAfter (calledIn composite.server.trace) ∧
      (composite.statics.cdcState.dtr = false →
        (sentOn 1 (since (Event.calls setsLines)
          composite.server.trace)).length ≤ 1) ∧
      ((∀ args ∈ calledIn composite.server.trace, connects args = false) →
        sentOn 1 composite.server.trace = []) := by
  have told := reachable_told reachable
  have quiet := reachable_quiet reachable
  refine ⟨told.lines, told.coding, ?_, fun never => (quiet.never never).2.2⟩
  intro low
  exact Nat.le_of_add_right_le (quiet.lowered low)

theorem cdcTerminal_open :
    cdcComposite.statics.cdcState.dtr = true ∧
      (cdcComposite.statics.cdcState.dtr, cdcComposite.statics.cdcState.rts) =
        linesAfter (calledIn cdcComposite.server.trace) :=
  ⟨by decide +kernel, (cdcTerminal cdcComposite_reachable).1⟩

end

end UsbipServer
