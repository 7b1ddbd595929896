import Mathlib.Data.List.Induction

namespace UsbipServer.Library

/-! A bounded inbox.  A message that does not fit behind what is waiting is
dropped as a whole; the reader takes everything that is waiting at once. -/

inductive Delivery (α : Type) where
  | arrive (message : List α)
  | take
  | clear

structure Inbox (α : Type) where
  waiting : List α
  taken : List (List α)

namespace Inbox

variable {α : Type}

def empty : Inbox α := ⟨[], []⟩

def receive (size : Nat) (inbox : Inbox α) : Delivery α → Inbox α
  | .arrive message =>
      if inbox.waiting.length + message.length ≤ size then
        { inbox with waiting := inbox.waiting ++ message }
      else inbox
  | .take => ⟨[], inbox.taken ++ [inbox.waiting]⟩
  | .clear => { inbox with waiting := [] }

def after (size : Nat) (deliveries : List (Delivery α)) : Inbox α :=
  deliveries.foldl (receive size) empty

theorem after_concat (size : Nat) (deliveries : List (Delivery α))
    (delivery : Delivery α) :
    after size (deliveries ++ [delivery]) =
      (after size deliveries).receive size delivery :=
  List.foldl_append

end Inbox

variable {α : Type}

def arrivals (deliveries : List (Delivery α)) : List (List α) :=
  deliveries.filterMap fun
    | .arrive message => some message
    | _ => none

theorem arrivals_concat (deliveries : List (Delivery α))
    (delivery : Delivery α) :
    arrivals (deliveries ++ [delivery]) =
      arrivals deliveries ++ arrivals [delivery] :=
  List.filterMap_append

/-- What was done to the inbox by others than its reader. -/
def given (deliveries : List (Delivery α)) : List (Delivery α) :=
  deliveries.filter fun
    | .take => false
    | _ => true

theorem given_concat (deliveries : List (Delivery α))
    (delivery : Delivery α) :
    given (deliveries ++ [delivery]) = given deliveries ++ given [delivery] :=
  List.filter_append deliveries [delivery]

def clears (deliveries : List (Delivery α)) : Nat :=
  deliveries.countP fun
    | .clear => true
    | _ => false

theorem clears_concat (deliveries : List (Delivery α))
    (delivery : Delivery α) :
    clears (deliveries ++ [delivery]) =
      clears deliveries + clears [delivery] :=
  List.countP_append

theorem arrivals_given (deliveries : List (Delivery α)) :
    arrivals (given deliveries) = arrivals deliveries := by
  induction deliveries using List.reverseRecOn with
  | nil => rfl
  | append_singleton deliveries delivery induction =>
      rw [given_concat, arrivals_concat, arrivals, List.filterMap_append,
        ← arrivals, ← arrivals, induction]
      cases delivery <;> rfl

theorem clears_given (deliveries : List (Delivery α)) :
    clears (given deliveries) = clears deliveries := by
  induction deliveries using List.reverseRecOn with
  | nil => rfl
  | append_singleton deliveries delivery induction =>
      rw [given_concat, clears_concat, clears, List.countP_append, ← clears,
        ← clears, induction]
      cases delivery <;> rfl

theorem only_messages {deliveries : List (Delivery α)}
    {messages : List (List α)}
    (only : given deliveries = messages.map Delivery.arrive) :
    arrivals deliveries = messages ∧ clears deliveries = 0 := by
  rw [← arrivals_given, ← clears_given, only]
  constructor
  · rw [arrivals, List.filterMap_map]
    exact List.filterMap_some
  · rw [clears, List.countP_map]
    exact List.countP_eq_zero.mpr (by simp)

namespace Inbox

theorem length_waiting_le (size : Nat) (deliveries : List (Delivery α)) :
    (after size deliveries).waiting.length ≤ size := by
  induction deliveries using List.reverseRecOn with
  | nil => exact Nat.zero_le size
  | append_singleton deliveries delivery induction =>
      rw [after_concat]
      cases delivery with
      | arrive message =>
          simp only [receive]
          split
          next fits => simpa using fits
          · exact induction
      | take => exact Nat.zero_le size
      | clear => exact Nat.zero_le size

/-- Without a clear, what was taken and what waits are whole messages in the
order they came. -/
theorem taken_waiting (size : Nat) (deliveries : List (Delivery α))
    (kept : clears deliveries = 0) :
    ∃ accepted, List.Sublist accepted (arrivals deliveries) ∧
      (after size deliveries).taken.flatten ++
        (after size deliveries).waiting = accepted.flatten := by
  induction deliveries using List.reverseRecOn with
  | nil => exact ⟨[], .slnil, rfl⟩
  | append_singleton deliveries delivery induction =>
      rw [clears_concat] at kept
      obtain ⟨accepted, within, account⟩ := induction (by omega)
      rw [after_concat, arrivals_concat]
      cases delivery with
      | arrive message =>
          simp only [receive]
          split
          · refine ⟨accepted ++ [message], within.append (.refl _), ?_⟩
            simp [← account]
          · refine ⟨accepted, ?_, account⟩
            exact within.trans (List.sublist_append_left _ _)
      | take =>
          refine ⟨accepted, by simpa [arrivals] using within, ?_⟩
          simpa [receive] using account
      | clear => simp [clears] at kept

/-- Whole messages of a part of the deliveries in which nothing was cleared. -/
def Whole (deliveries : List (Delivery α)) (content : List α) : Prop :=
  ∃ before part after, deliveries = before ++ part ++ after ∧
    clears part = 0 ∧ ∃ accepted, List.Sublist accepted (arrivals part) ∧
      content = accepted.flatten

theorem Whole.extend {deliveries : List (Delivery α)} {content : List α}
    (whole : Whole deliveries content) (delivery : Delivery α) :
    Whole (deliveries ++ [delivery]) content := by
  obtain ⟨before, part, after, split, whole⟩ := whole
  exact ⟨before, part, after ++ [delivery], by simp [split], whole⟩

theorem waiting_whole (size : Nat) (deliveries : List (Delivery α)) :
    ∃ before part, deliveries = before ++ part ∧ clears part = 0 ∧
      ∃ accepted, List.Sublist accepted (arrivals part) ∧
        (after size deliveries).waiting = accepted.flatten := by
  induction deliveries using List.reverseRecOn with
  | nil => exact ⟨[], [], rfl, rfl, [], .slnil, rfl⟩
  | append_singleton deliveries delivery induction =>
      obtain ⟨before, part, split, kept, accepted, within, waits⟩ := induction
      rw [after_concat]
      cases delivery with
      | arrive message =>
          refine ⟨before, part ++ [.arrive message], by simp [split], ?_, ?_⟩
          · rw [clears_concat, kept]
            rfl
          · rw [arrivals_concat]
            simp only [receive]
            split
            · refine ⟨accepted ++ [message], within.append (.refl _), ?_⟩
              simp [waits]
            · refine ⟨accepted, ?_, waits⟩
              exact within.trans (List.sublist_append_left _ _)
      | take | clear =>
          exact ⟨_, [], (List.append_nil _).symm, rfl, [], .slnil, rfl⟩

/-- The reader never gets what came before a clear together with what came
after it. -/
theorem taken_whole (size : Nat) (deliveries : List (Delivery α)) :
    ∀ content ∈ (after size deliveries).taken, Whole deliveries content := by
  induction deliveries using List.reverseRecOn with
  | nil => simp [after, empty]
  | append_singleton deliveries delivery induction =>
      intro content member
      rw [after_concat] at member
      cases delivery with
      | arrive message =>
          simp only [receive] at member
          split at member
          · exact (induction content member).extend _
          · exact (induction content member).extend _
      | clear => exact (induction content member).extend _
      | take =>
          rcases List.mem_append.mp member with earlier | now
          · exact (induction content earlier).extend _
          · obtain ⟨before, part, split, kept, accepted, within, waits⟩ :=
              waiting_whole size deliveries
            refine ⟨before, part, [.take], by rw [split], kept, accepted,
              within, ?_⟩
            rw [List.mem_singleton.mp now]
            exact waits

theorem Whole.given {deliveries : List (Delivery α)} {content : List α}
    (whole : Whole deliveries content) :
    Whole (given deliveries) content := by
  obtain ⟨before, part, after, split, kept, accepted, within, whole⟩ := whole
  refine ⟨Library.given before, Library.given part, Library.given after, ?_,
    ?_, accepted, ?_, whole⟩
  · rw [split]
    simp only [Library.given, List.filter_append]
  · rw [clears_given]
    exact kept
  · rw [arrivals_given]
    exact within

end Inbox

end UsbipServer.Library
