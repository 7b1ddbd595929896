import UsbipServer.Properties.HostReads

namespace UsbipServer

open Wire Library Ledger Mailbox Bulk

/-! The bulk device: what the host sends is printed, and the host reads the
numbers of the lines. -/

section

variable {composite : Composite Statics}

/-- No work of the program leaves its buffer. -/
theorem Bulk.Told.runs {received sent : List (List Byte)} {statics : Statics}
    (told : Told received sent statics) :
    (∀ args, (callback args statics).isSome = true) ∧
      ∀ interrupted, (main interrupted statics).isSome = true := by
  constructor
  · intro args
    cases args with
    | endpointData ep data =>
        obtain ⟨_, _, holds⟩ := told.input.inbox
        obtain ⟨next, filled, _⟩ := holds.endpointData data
        simp [callback, filled]
    | _ => rfl
  · intro interrupted
    unfold main
    cases here : statics.place with
    | printing place =>
        have reading := told.input
        rw [here] at reading
        obtain ⟨next, input, stepped, _⟩ := reading.step
        simp only [printing] at stepped
        simp only [stepped]
        cases next with
        | some next => rfl
        | none =>
            simp only
            split <;> rfl
    | loop =>
        simp only
        split <;> rfl
    | _ => rfl

/-- The lines the bulk device prints and what is left in its buffer are those of
a bounded inbox into which the host's OUT data arrives in order: a transfer is
printed as a whole, once and in one line, or it did not fit. -/
theorem bulkInput (reachable : program.Reachable composite) :
    (∃ deliveries, arrivals deliveries =
        (deliveredIn composite.server.trace).map Prod.snd ∧
      clears deliveries = 0 ∧
      Inbox.after inputBufferLength deliveries =
        ⟨composite.statics.input.content, composite.statics.input.lines⟩) ∧
      (∃ accepted, List.Sublist accepted
          ((deliveredIn composite.server.trace).map Prod.snd) ∧
        composite.statics.input.lines.flatten ++
          composite.statics.input.content = accepted.flatten) ∧
      deliveredIn composite.server.session <+:
        (submittedIn composite.server.session).flatMap
          (Request.deliveries bulkDevice) ∧
      (∀ args, (callback args composite.statics).isSome = true) ∧
      ∀ interrupted, (main interrupted composite.statics).isSome = true := by
  have told := reachable_told reachable
  obtain ⟨deliveries, were, holds⟩ := told.input.inbox
  obtain ⟨arrived, kept⟩ := only_messages were
  rw [receivedIn_delivered] at arrived
  refine ⟨⟨deliveries, arrived, kept, holds⟩, ?_,
    (reachable_deliversOut reachable.server rfl).1, told.runs⟩
  have account := Inbox.taken_waiting inputBufferLength deliveries kept
  rw [holds, arrived] at account
  exact account

theorem bulkInput_printed :
    bulkComposite.statics.input.lines = [[0x68, 0x69]] ∧
      ∃ deliveries, arrivals deliveries =
          (deliveredIn bulkComposite.server.trace).map Prod.snd ∧
        clears deliveries = 0 ∧
        Inbox.after inputBufferLength deliveries =
          ⟨bulkComposite.statics.input.content,
            bulkComposite.statics.input.lines⟩ :=
  ⟨by decide +kernel, (bulkInput bulkComposite_reachable).1⟩

end

end UsbipServer
