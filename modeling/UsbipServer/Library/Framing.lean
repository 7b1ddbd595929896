import Mathlib.Data.List.Basic

namespace UsbipServer.Library

/-! Streams of messages, each of which says how long it is. -/

variable {α Message : Type}

def readFixed (size : Nat) (input : List α) : Option (List α × List α) :=
  if size ≤ input.length then some (input.take size, input.drop size) else none

theorem readFixed_append {size : Nat} {front : List α} (rest : List α)
    (length : front.length = size) :
    readFixed size (front ++ rest) = some (front, rest) := by
  simp [readFixed, ← length]

def parseAll (parse : List α → Option (Message × List α)) :
    Nat → List α → Option (List Message)
  | _, [] => some []
  | 0, _ :: _ => none
  | fuel + 1, first :: input =>
      match parse (first :: input) with
      | none => none
      | some (message, rest) =>
          (parseAll parse fuel rest).map (message :: ·)

/-- Every message has at least one element, so the length is fuel enough. -/
def parseStream (parse : List α → Option (Message × List α))
    (input : List α) : Option (List Message) :=
  parseAll parse input.length input

section

variable {parse : List α → Option (Message × List α)}
  {encode : Message → List α} {messages : List Message}

theorem parseAll_encode
    (roundTrip : ∀ message ∈ messages, ∀ rest,
      parse (encode message ++ rest) = some (message, rest))
    (nonempty : ∀ message ∈ messages, encode message ≠ []) {fuel : Nat}
    (enough : messages.length ≤ fuel) :
    parseAll parse fuel (messages.flatMap encode) = some messages := by
  induction messages generalizing fuel with
  | nil => cases fuel <;> rfl
  | cons message rest induction =>
      cases fuel with
      | zero => simp at enough
      | succ fuel =>
          have first := roundTrip message (by simp) (rest.flatMap encode)
          have later := induction
            (fun other member => roundTrip other (by simp [member]))
            (fun other member => nonempty other (by simp [member]))
            (Nat.le_of_succ_le_succ enough)
          rw [List.flatMap_cons]
          cases shape : encode message with
          | nil => exact absurd shape (nonempty message (by simp))
          | cons head tail =>
              rw [shape, List.cons_append] at first
              rw [List.cons_append, parseAll, first]
              simp [later]

theorem length_le_flatMap
    (nonempty : ∀ message ∈ messages, encode message ≠ []) :
    messages.length ≤ (messages.flatMap encode).length := by
  induction messages with
  | nil => simp
  | cons message rest induction =>
      have later := induction fun other member =>
        nonempty other (by simp [member])
      have first := List.length_pos_of_ne_nil (nonempty message (by simp))
      simp only [List.length_cons, List.flatMap_cons, List.length_append]
      omega

theorem parseStream_encode
    (roundTrip : ∀ message ∈ messages, ∀ rest,
      parse (encode message ++ rest) = some (message, rest))
    (nonempty : ∀ message ∈ messages, encode message ≠ []) :
    parseStream parse (messages.flatMap encode) = some messages :=
  parseAll_encode roundTrip nonempty (length_le_flatMap nonempty)

end

end UsbipServer.Library
