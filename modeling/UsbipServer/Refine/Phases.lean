import UsbipServer.Refine.Device

namespace UsbipServer

open Wire Library

def Phase.answering : Phase → Option Request
  | .answer request _ => some request
  | .fetchAnswered request _ => some request
  | .fetchReply request _ _ => some request
  | .lock (.control request) => some request
  | .callback _ _ (.control request) => some request
  | _ => none

def Phase.isoLengths : Phase → Option (List Nat)
  | .lock (.isoIn _ actual _ _ _) => some actual
  | .callback _ _ (.isoIn _ actual _ _ _) => some actual
  | _ => none

def Event.isIsoReply : Event → Bool
  | .retSubmit reply => reply.transfer.isochronous
  | _ => false

theorem Event.apart_of_transmit {event : Event}
    (transmit : event.isTransmit = true) :
    event.isIsoReply = false ∧ event.isControl = false := by
  cases event <;>
    first | exact ⟨rfl, rfl⟩ | simp [Event.isTransmit] at transmit

end UsbipServer
