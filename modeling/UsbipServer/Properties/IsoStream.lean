import UsbipServer.Properties.IsoRoundTrip

namespace UsbipServer

open Wire Library

/-! Nothing that the isochronous IN callback gave is lost between two transfers:
the replies, one after the other, are what the callback gave, call by call. -/

def Event.isoHeard : Event → List Byte
  | .retSubmit reply =>
      if reply.transfer.isochronous = true ∧ reply.transfer.direction ≠ 0 then
        reply.data.map Cell.byte
      else []
  | _ => []

def isoHeardIn (events : List Event) : List Byte :=
  events.flatMap Event.isoHeard

@[simp] theorem isoHeardIn_append (before events : List Event) :
    isoHeardIn (before ++ events) = isoHeardIn before ++ isoHeardIn events :=
  List.flatMap_append

/-- What was collected for a transfer that is not answered yet. -/
def State.gathered (s : State) : List Byte :=
  match s.phase.packing with
  | some work => (s.txBuffer.slice 0 work.actual.sum).map Cell.byte
  | none => []

section

variable {dev : UsbipDevice} {s s' : State} {label : Label}

theorem State.gathered_idle (idle : s.phase.packing = none) :
    s.gathered = [] := by
  rw [State.gathered, idle]

theorem State.gathered_packing {work : Packing}
    (collecting : s.phase.packing = some work) :
    s.gathered = (s.txBuffer.slice 0 work.actual.sum).map Cell.byte := by
  rw [State.gathered, collecting]

theorem isoHeardIn_unreplied {events : List Event}
    (apart : ∀ event ∈ events, event.isIsoReply = false) :
    isoHeardIn events = [] := by
  apply List.flatMap_eq_nil_iff.mpr
  intro event member
  cases event with
  | retSubmit reply =>
      have plain : reply.transfer.isochronous = false := apart _ member
      simp [Event.isoHeard, plain]
  | _ => rfl

theorem isoHeard_isoReply {urb : PendingUrb} (lengths : List Nat)
    (txBuffer : Buffer Cell) (isochronous : urb.isochronous = true)
    (inward : urb.direction ≠ 0) :
    isoHeardIn [.retSubmit (isoReply urb lengths txBuffer)] =
      (txBuffer.slice 0 lengths.sum).map Cell.byte := by
  simp [isoHeardIn, Event.isoHeard, isoReply, isochronous, inward]

theorem slice_nextCall (urb : PendingUrb) (actual : List Nat)
    (packet : IsoPacket) (txBuffer : Buffer Cell) (written : List Byte)
    (length : Nat) :
    ((txBuffer.write actual.sum (written.map fun byte => ⟨byte, none⟩)).slice 0
        (actual ++ [min length (isoMaxLength urb actual packet)]).sum).map
          Cell.byte =
      (txBuffer.slice 0 actual.sum).map Cell.byte ++
        (nextCall urb actual packet txBuffer written length).data := by
  have short : min length (isoMaxLength urb actual packet) ≤
      isoMaxLength urb actual packet := Nat.min_le_right _ _
  rw [List.sum_append, List.sum_singleton, Buffer.slice_add,
    Buffer.slice_write_before _ _ (by omega), List.map_append, Nat.zero_add]
  congr 1
  simp only [IsoCall.data, IsoCall.actual, nextCall]
  rw [← List.map_take, Buffer.take_slice _ short]

theorem step_gathers_quiet (callback : dev.isoInCallback = true)
    (reachable : Reachable dev s) (quiet : isoCalls s label = [])
    (stepped : step dev s label = some s') :
    ∃ events, s'.trace = s.trace ++ events ∧
      isoHeardIn events ++ s'.gathered = s.gathered := by
  have tracked := reachable_tracked reachable
  have filing := step_filing tracked.sound stepped
  cases collecting : s.phase.packing with
  | some work =>
      obtain ⟨⟨_, packing⟩, txBuffer, _, events, traced, apart⟩ :=
        packing_waits collecting quiet stepped
      refine ⟨events, traced, ?_⟩
      rw [isoHeardIn_unreplied apart, List.nil_append, State.gathered, packing,
        txBuffer]
      rfl
  | none =>
      rw [State.gathered_idle collecting]
      -- a loop that begins has collected nothing
      have empty : s'.gathered = [] := by
        cases later : s'.phase.packing with
        | none => exact State.gathered_idle later
        | some work =>
            obtain ⟨_, nothing, _⟩ := filing.begins collecting later
            rw [State.gathered_packing later, nothing]
            rfl
      rw [empty]
      rcases filing.isoReplied with
        ⟨events, traced, apart⟩ |
          ⟨sent, urb, back, packets, actual, lengths, start, replied⟩
      · exact ⟨events, traced, by rw [isoHeardIn_unreplied apart]; rfl⟩
      · refine ⟨_, replied.traced, ?_⟩
        obtain ⟨entered, complete, told, _⟩ := replied
        obtain ⟨rfl, rfl, _⟩ := entered.begins collecting
        subst told
        by_cases inward : urb.direction = 0
        · simp [isoHeardIn, Event.isoHeard, isoReply, inward]
        · obtain ⟨_, rfl⟩ := complete.called inward callback
          simp [isoHeardIn, Event.isoHeard, isoReply, Buffer.slice]

theorem IsoOutcome.gathers {urb : PendingUrb} {back : IsoReturn}
    {packets : List IsoPacket} {actual : List Nat} {start : State}
    (outcome : IsoOutcome dev urb back packets actual start s')
    (callback : dev.isoInCallback = true)
    (isochronous : urb.isochronous = true) (inward : urb.direction ≠ 0) :
    ∃ events, s'.trace = start.trace ++ events ∧
      (Event.writeFailed ∈ events ∨
        isoHeardIn events ++ s'.gathered =
          (start.txBuffer.slice 0 actual.sum).map Cell.byte) := by
  cases outcome with
  | calls packet rest => exact ⟨[], (List.append_nil _).symm, .inr rfl⟩
  | replies lengths complete _ _ _ _ _ there traced =>
      obtain ⟨_, rfl⟩ := complete.called inward callback
      have ended : s'.phase.packing = none := by
        rw [there]
        exact back.phase_packing
      refine ⟨_, traced, .inr ?_⟩
      rw [isoHeard_isoReply _ _ isochronous inward,
        State.gathered_idle ended, List.append_nil]
  | fails _ _ _ traced => exact ⟨_, traced, .inl (by simp)⟩
  | loses _ _ _ _ _ traced => exact ⟨_, traced, .inl (by simp)⟩

/-- What the replies carry and what is collected grow by what the callbacks
give, unless a write fails. -/
theorem step_gathers (callback : dev.isoInCallback = true)
    (reachable : Reachable dev s) (stepped : step dev s label = some s') :
    ∃ events, s'.trace = s.trace ++ events ∧
      (Event.writeFailed ∈ events ∨
        isoHeardIn events ++ s'.gathered =
          s.gathered ++ (isoCalls s label).flatMap IsoCall.data) := by
  rcases isoCalls_cases s label with quiet | ⟨made, urb, actual, packet, rest,
    back, written, length, here, rfl, noted⟩
  · obtain ⟨events, traced, kept⟩ :=
      step_gathers_quiet callback reachable quiet stepped
    refine ⟨events, traced, .inr ?_⟩
    rw [quiet, kept]
    exact (List.append_nil _).symm
  · have collecting : s.phase.packing =
        some ⟨urb, actual, packet, rest, back⟩ := by
      simp [here, Phase.packing, Continuation.packing]
    obtain ⟨_, progress, inward⟩ :=
      (reachable_tracked reachable).sound.isAttached here fun _ _ _ => id
    rw [noted, List.flatMap_singleton, State.gathered_packing collecting,
      ← slice_nextCall]
    cases step_transition stepped with
    | returns _ _ _ next there fits ends =>
        rw [here] at there
        cases there
        exact ends.outcome.gathers callback progress.isochronous inward

/-- The isochronous IN replies of a run, one after the other, and what is
collected for the next one are what the callback gave, call by call and without
a gap between two transfers. -/
theorem isoInStream {log : List IsoCall} (callback : dev.isoInCallback = true)
    (reached : ((server dev).logged isoCalls).Reaches Machine.anyStep
      (initial, []) (s, log)) (written : Event.writeFailed ∉ s.trace) :
    isoHeardIn s.trace ++ s.gathered = log.flatMap IsoCall.data := by
  revert written
  refine reached.invariant (P := fun pair =>
    Event.writeFailed ∉ pair.1.trace →
      isoHeardIn pair.1.trace ++ pair.1.gathered =
        pair.2.flatMap IsoCall.data) ?_ ?_
  · intro _
    rfl
  · intro pair label next before earlier _ stepped written
    obtain ⟨moved, noted⟩ := Machine.logged_step stepped
    obtain ⟨events, traced, grown⟩ :=
      step_gathers callback (.of_logged before) moved
    rw [traced] at written ⊢
    have grown := grown.resolve_left fun failed =>
      written (List.mem_append_right _ failed)
    have earlier := earlier fun failed =>
      written (List.mem_append_left _ failed)
    rw [isoHeardIn_append, List.append_assoc, grown, ← List.append_assoc,
      earlier, noted, List.flatMap_append]

/-- Two packets of one transfer, the second one short. -/
theorem isoInStream_short :
    isoHeardIn (isoInAfter ([1, 2], 9) ([3, 4], 1)).1.trace = [1, 2, 3] ∧
      isoHeardIn (isoInAfter ([1, 2], 9) ([3, 4], 1)).1.trace ++
          (isoInAfter ([1, 2], 9) ([3, 4], 1)).1.gathered =
        (isoInAfter ([1, 2], 9) ([3, 4], 1)).2.flatMap IsoCall.data :=
  ⟨by decide +kernel, isoInStream rfl
    (isoInAfter_reached ([1, 2], 9) ([3, 4], 1)) (by decide +kernel)⟩

end

end UsbipServer
