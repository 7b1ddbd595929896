import UsbipServer.Library.Pieces
import UsbipServer.Refine.Bulk
import UsbipServer.Properties.ByteStream
import UsbipServer.Properties.OutDelivery

namespace UsbipServer

open Wire Library Mailbox

section

variable {Statics Input : Type} {program : Program Statics Input}
  {inside : Statics → Bool} {composite : Composite Statics}
  {endpoint : Fin 16}

theorem CallPhase.waitingOn_length (endpoint : Fin 16) (phase : CallPhase) :
    (phase.waitingOn endpoint).length ≤ 1 := by
  cases phase with
  | waiting call =>
      simp only [waitingOn]
      split <;> simp
  | _ => exact Nat.zero_le 1

/-- What the calls passed that an endpoint stored since the last reset. -/
def readOn (endpoint : Fin 16) (s : State) : List (List Byte) :=
  (storesOn endpoint (since Event.isReset s.trace)).map Call.data

def waitsOn (endpoint : Fin 16) (s : State) : List (List Byte) :=
  ((s.threads 0).call.waitingOn endpoint).map Call.data

theorem waitsOn_length (endpoint : Fin 16) (s : State) :
    (waitsOn endpoint s).length ≤ 1 := by
  rw [waitsOn, List.length_map]
  exact CallPhase.waitingOn_length endpoint _

theorem Program.Reachable.sentOn_split
    (reachable : program.Reachable composite)
    (disciplined : program.Disciplined inside)
    (answers : program.OnlyAnswers) (data : endpoint ≠ 0)
    (running : composite.server.device.deviceStopped = false) :
    ∃ skipped, sentOn endpoint composite.server.trace =
      skipped ++ readOn endpoint composite.server ++
        waitsOn endpoint composite.server := by
  obtain ⟨skipped, order⟩ :=
    (reachable.inOrder disciplined answers data running).order
  refine ⟨skipped.map Call.data, ?_⟩
  rw [sentOn, order, List.map_append, List.map_append]
  rfl

theorem Program.Reachable.sentOn_recent
    (reachable : program.Reachable composite)
    (disciplined : program.Disciplined inside)
    (answers : program.OnlyAnswers) (data : endpoint ≠ 0)
    (running : composite.server.device.deviceStopped = false) :
    sentOn endpoint (since Event.isReset composite.server.trace) <:+
      readOn endpoint composite.server ++
        waitsOn endpoint composite.server := by
  have recent := (reachable.inOrder disciplined answers data running).recent
  rw [readOn, waitsOn, ← List.map_append]
  exact recent.map Call.data

/-- The same for a program that transmits a numbered sequence. -/
theorem Program.Reachable.numbered {value : Nat → List Byte} {count : Nat}
    (reachable : program.Reachable composite)
    (disciplined : program.Disciplined inside)
    (answers : program.OnlyAnswers) (data : endpoint ≠ 0)
    (running : composite.server.device.deviceStopped = false)
    (sent : sentOn endpoint composite.server.trace =
      (List.range count).map value) :
    ∃ skipped read waiting, skipped + read + waiting = count ∧ waiting ≤ 1 ∧
      readOn endpoint composite.server =
        ((List.range read).map fun number => value (skipped + number)) ∧
      sentOn endpoint (since Event.isReset composite.server.trace) <:+
        (List.range (read + waiting)).map fun number =>
          value (skipped + number) := by
  obtain ⟨skipped, order⟩ :=
    reachable.sentOn_split disciplined answers data running
  have recent := reachable.sentOn_recent disciplined answers data running
  rw [sent] at order
  have length := congrArg List.length order
  simp only [List.length_map, List.length_range, List.length_append] at length
  refine ⟨skipped.length, (readOn endpoint composite.server).length,
    (waitsOn endpoint composite.server).length, length.symm,
    waitsOn_length _ _, segment_of_range value order, ?_⟩
  have whole : (List.range count).map value = skipped ++
      (readOn endpoint composite.server ++ waitsOn endpoint composite.server) ++
        [] := by
    rw [order, List.append_assoc, List.append_nil]
  have rest := segment_of_range value whole
  rw [List.length_append] at rest
  rwa [rest] at recent

end

section

open Bulk

/-- The host sends two bytes to the bulk device, which prints them and answers. -/
def bulkLabels : List (ProgramLabel Unit) :=
  serverLabels (importLabels [bulkOut 1 1 [0x68, 0x69], bulkIn 2 1 64] ++
      [.wait true, .server 0]) ++
    .callback :: serverLabels [.server 0, .server 0] ++
    List.replicate 8 (.main ()) ++
    serverLabels [.post 0, .wait true, .server 0, .server 0, .server 0]

def bulkComposite : Composite Statics :=
  program.machine.after program.initial bulkLabels

theorem bulkComposite_reachable : program.Reachable bulkComposite :=
  Machine.after_reaches program.machine program.initial bulkLabels

end

end UsbipServer
