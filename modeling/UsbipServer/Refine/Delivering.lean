import UsbipServer.Refine.Phases
import UsbipServer.Refine.Progress

namespace UsbipServer

open Wire Library

/-! The packets that are still to be delivered are packets of the submit. -/

def Phase.delivering : Phase → Option (Request × List IsoPacket)
  | .lock (.isoOut request packet rest) => some (request, packet :: rest)
  | .callback _ _ (.isoOut request packet rest) =>
      some (request, packet :: rest)
  | _ => none

def Delivering (phase : Phase) : Prop :=
  ∀ request packets, phase.delivering = some (request, packets) →
    packets <:+ request.isoPackets

section

variable {dev : UsbipDevice} {s s' : State} {label : Label}

theorem Delivering.of_none {phase : Phase} (idle : phase.delivering = none) :
    Delivering phase := by
  intro request packets deliver
  rw [idle] at deliver
  contradiction

def Task.IsOwn : Task → Prop
  | .deliver request packets => packets <:+ request.isoPackets
  | _ => True

theorem Ends.delivering {task : Task} (ends : Ends dev s task s')
    (own : task.IsOwn) : Delivering s'.phase := by
  cases ends with
  | delivers skipped packet rest split =>
      intro request packets deliver
      cases deliver
      rw [split] at own
      exact (List.suffix_append skipped _).trans own
  | _ => exact .of_none rfl

theorem Request.outPackets_suffix (request : Request) :
    request.outPackets <:+ request.isoPackets := by
  unfold Request.outPackets
  split
  · exact List.suffix_refl _
  · exact List.nil_suffix

theorem Transition.delivering (earlier : Delivering s.phase)
    (moved : Transition dev s label s') : Delivering s'.phase := by
  have elsewhere : label.isThread = true → Delivering s'.phase := by
    intro kind
    rw [(moved.elsewhere kind).phase]
    exact earlier
  cases moved with
  | submits tcpip command here imported running received plain ends =>
      exact ends.delivering trivial
  | submitsIso tcpip command here imported running received paced ends =>
      exact ends.delivering (Request.outPackets_suffix _)
  | controls clock request supported here action ends =>
      exact ends.delivering trivial
  | answers clock request data here ran ends =>
      exact ends.delivering trivial
  | overflows clock request here full ends => exact ends.delivering trivial
  | collects clock now index urb here filed isochronous due ends =>
      exact ends.delivering trivial
  | resetEnds clock reason here uncalled ends => exact ends.delivering trivial
  | enters clock next here =>
      rw [here] at earlier
      cases next <;> exact earlier
  | posts clock call made next here =>
      rw [here] at earlier
      cases next <;> exact earlier
  | callbackTransmits ep data made next here =>
      rw [here] at earlier
      cases next <;> exact earlier
  | returns written length made next here fits ends =>
      refine ends.delivering ?_
      rw [here] at earlier
      cases next with
      | isoOut request packet rest =>
          exact (List.suffix_cons packet rest).trans (earlier request _ rfl)
      | _ => trivial
  | interrupts => exact earlier
  | transmits | wakes | threadPosts | locks | unlocks => exact elsewhere rfl
  | _ => exact .of_none rfl

theorem step_delivering (earlier : Delivering s.phase)
    (stepped : step dev s label = some s') : Delivering s'.phase :=
  (step_transition stepped).delivering earlier

theorem reachable_delivering (reachable : Reachable dev s) :
    Delivering s.phase := by
  refine reachable.invariant (P := fun s => Delivering s.phase) ?_ ?_
  · exact .of_none rfl
  · intro state label next _ earlier _ stepped
    exact step_delivering earlier stepped

end

end UsbipServer
