import Mathlib.Data.Nat.Digits.Defs
import UsbipServer.Programs.Input
import UsbipServer.Library.Inbox

namespace UsbipServer

open Wire Library

namespace Input

variable {size : Nat} {deliveries : List (Delivery Byte)} {input : Input}

/-- The buffer and the printed lines are an inbox after the deliveries. -/
def Holds (size : Nat) (deliveries : List (Delivery Byte)) (input : Input) :
    Prop :=
  Inbox.after size deliveries = ⟨input.content, input.lines⟩

theorem Holds.fits (holds : input.Holds size deliveries) :
    input.inputBufferPos ≤ size := by
  have short := Inbox.length_waiting_le size deliveries
  rw [holds] at short
  simpa [content] using short

theorem Holds.concat (holds : input.Holds size deliveries)
    {delivery : Delivery Byte} {next : Input}
    (received : Inbox.receive size ⟨input.content, input.lines⟩ delivery =
      ⟨next.content, next.lines⟩) :
    next.Holds size (deliveries ++ [delivery]) := by
  rw [Holds, Inbox.after_concat, holds]
  exact received

theorem Holds.endpointData (holds : input.Holds size deliveries)
    (data : List Byte) :
    ∃ next, input.endpointData size data = some next ∧
      next.line = input.line ∧ next.lines = input.lines ∧
      next.Holds size (deliveries ++ [.arrive data]) := by
  have length : input.content.length = input.inputBufferPos :=
    Buffer.length_slice _ _ _
  by_cases fits : input.inputBufferPos + data.length ≤ size
  · refine ⟨⟨input.inputBuffer.write input.inputBufferPos data,
      input.inputBufferPos + data.length, input.lines, input.line⟩, ?_, rfl,
      rfl, holds.concat ?_⟩
    · rw [Input.endpointData, if_pos fits, Buffer.store_eq fits]
      rfl
    · have appended : (input.inputBuffer.write input.inputBufferPos data).slice
          0 (input.inputBufferPos + data.length) = input.content ++ data := by
        rw [Buffer.slice_add, Buffer.slice_write_before _ _ (by omega)]
        congr 1
        rw [Nat.zero_add]
        exact Buffer.slice_write_self _ _ _
      simp only [Inbox.receive, length, if_pos fits]
      rw [← appended]
      rfl
  · refine ⟨input, ?_, rfl, rfl, holds.concat ?_⟩
    · rw [Input.endpointData, if_neg fits]
    · simp only [Inbox.receive, length, if_neg fits]

theorem Holds.clear (holds : input.Holds size deliveries) :
    Holds size (deliveries ++ [.clear]) { input with inputBufferPos := 0 } :=
  holds.concat rfl

def LineAt (input : Input) : Printing → Prop
  | .test => input.line = []
  | .byte idx =>
      idx ≤ input.inputBufferPos ∧ input.line = input.inputBuffer.slice 0 idx

end Input

/-- What a step of printing does: it goes on, there is nothing to print, or the
whole buffer has been printed. -/
inductive Printing.Result (input : Input) (place : Printing) :
    Option Printing × Input → Prop
  | goes (next : Printing) (line : List Byte)
      (after : { input with line := line }.LineAt next) :
      Result input place (some next, { input with line := line })
  | nothing (here : place = .test) (empty : input.inputBufferPos = 0) :
      Result input place (none, input)
  | printed (here : place ≠ .test) :
      Result input place
        (none, ⟨input.inputBuffer, 0, input.lines ++ [input.content], []⟩)

theorem Printing.step_result {size : Nat} {input : Input} {place : Printing}
    (fits : input.inputBufferPos ≤ size) (at_line : input.LineAt place) :
    ∃ result, place.step size input = some result ∧
      Result input place result := by
  cases place with
  | test =>
      simp only [Printing.step]
      by_cases some : 0 < input.inputBufferPos
      · refine ⟨_, if_pos some, .goes (.byte 0) input.line ?_⟩
        exact ⟨Nat.zero_le _, at_line⟩
      · exact ⟨_, if_neg some, .nothing rfl (by omega)⟩
  | byte idx =>
      obtain ⟨bound, line⟩ := at_line
      simp only [Printing.step]
      by_cases more : idx < input.inputBufferPos
      · have inside : idx + 1 ≤ size := by omega
        rw [if_pos more, Buffer.load_eq inside]
        refine ⟨_, rfl, .goes (.byte (idx + 1)) _ ⟨more, ?_⟩⟩
        rw [line, Buffer.slice_add, Nat.zero_add]
      · have whole : input.line = input.content := by
          rw [line, Input.content, show idx = input.inputBufferPos by omega]
        refine ⟨_, if_neg more, ?_⟩
        rw [whole]
        exact .printed (by simp)

theorem Input.Holds.take {size : Nat} {deliveries : List (Delivery Byte)}
    {input : Input} (holds : input.Holds size deliveries) :
    Input.Holds size (deliveries ++ [.take])
      ⟨input.inputBuffer, 0, input.lines ++ [input.content], []⟩ :=
  holds.concat rfl

namespace Input

/-- The input, told from what the callbacks did to it and from where the main
thread is; it is at the test whenever it is not printing. -/
structure Told (size : Nat) (history : List (Delivery Byte))
    (place : Printing) (input : Input) : Prop where
  inbox : ∃ deliveries, given deliveries = history ∧
    input.Holds size deliveries
  line : input.LineAt place

variable {size : Nat} {history : List (Delivery Byte)} {place : Printing}
  {input : Input}

theorem told_start (size : Nat) : start.Told size [] .test :=
  ⟨⟨[], rfl, rfl⟩, rfl⟩

theorem Told.arrive (told : input.Told size history .test)
    (data : List Byte) :
    ∃ next, input.endpointData size data = some next ∧
      next.lines = input.lines ∧
      next.Told size (history ++ [.arrive data]) .test := by
  obtain ⟨deliveries, were, holds⟩ := told.inbox
  obtain ⟨next, filled, line, lines, after⟩ := holds.endpointData data
  refine ⟨next, filled, lines, ⟨deliveries ++ [.arrive data], ?_, after⟩, ?_⟩
  · rw [given_concat, were]
    rfl
  · exact line.trans told.line

theorem Told.clear (told : input.Told size history .test) :
    Told size (history ++ [.clear]) .test
      { input with inputBufferPos := 0 } := by
  obtain ⟨deliveries, were, holds⟩ := told.inbox
  refine ⟨⟨deliveries ++ [.clear], ?_, holds.clear⟩, told.line⟩
  rw [given_concat, were]
  rfl

theorem Told.step (told : input.Told size history place) :
    ∃ next after, place.step size input = some (next, after) ∧
      after.Told size history (next.getD .test) ∧
      after.lines.length = input.lines.length +
        if next = none ∧ place ≠ .test then 1 else 0 := by
  obtain ⟨deliveries, were, holds⟩ := told.inbox
  obtain ⟨⟨next, after⟩, stepped, result⟩ :=
    Printing.step_result holds.fits told.line
  refine ⟨next, after, stepped, ?_⟩
  cases result with
  | goes later line at_line => exact ⟨⟨told.inbox, at_line⟩, by simp⟩
  | nothing here empty =>
      subst here
      exact ⟨⟨told.inbox, told.line⟩, by simp⟩
  | printed here =>
      refine ⟨⟨⟨deliveries ++ [.take], ?_, holds.take⟩, rfl⟩, by simp [here]⟩
      rw [given_concat, were]
      exact List.append_nil history

end Input

end UsbipServer
