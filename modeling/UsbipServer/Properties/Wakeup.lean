import UsbipServer.Refine.Posting
import UsbipServer.Refine.Pass

namespace UsbipServer

open Wire Library

/-! A server that waits is woken in time for every pending transfer. -/

/-- Every pending transfer is due no earlier than the wait ends, and whatever
data it could be completed with is announced or not due either. -/
def Attended (s : State) : Prop :=
  ∀ urb ∈ s.pendingUrbs,
    (urb.isochronous = true → s.passUs + s.waitTimeoutUs ≤ urb.completeUs) ∧
      (urb.isochronous = false → 0 < urb.transferBufferLength.toNat →
        s.device.endpointData urb.number = [] ∨ Signalled s ∨
          s.passUs + s.waitTimeoutUs ≤ (s.endpoints true urb.number).nextPollUs)

/-- What holds of a transfer from the moment the pass is done with it.  The
third case is strict because the pass may still poll the endpoint for another
transfer. -/
def Covered (s : State) (now : Nat) (urb : PendingUrb) : Prop :=
  if urb.isochronous then now + s.waitTimeoutUs ≤ urb.completeUs
  else 0 < urb.transferBufferLength.toNat → urb.number ≠ 0 →
    s.device.endpointData urb.number = [] ∨ Signalled s ∨
      now < (s.endpoints true urb.number).nextPollUs ∧
        now + s.waitTimeoutUs ≤ (s.endpoints true urb.number).nextPollUs

def Attentive (s : State) : Prop :=
  ∀ now index, s.cursor = some (now, index) → s.passUs = now ∧
    ∀ urb ∈ s.pendingUrbs.take index, Covered s now urb

section

variable {dev : UsbipDevice} {s s' : State} {now index : Nat}
  {urb : PendingUrb}

theorem Covered.isochronous (kind : urb.isochronous = true)
    (timed : now + s.waitTimeoutUs ≤ urb.completeUs) : Covered s now urb := by
  rw [Covered, if_pos kind]
  exact timed

theorem Covered.plain (kind : urb.isochronous = false)
    (safe : 0 < urb.transferBufferLength.toNat → urb.number ≠ 0 →
      s.device.endpointData urb.number = [] ∨ Signalled s ∨
        now < (s.endpoints true urb.number).nextPollUs ∧
          now + s.waitTimeoutUs ≤
            (s.endpoints true urb.number).nextPollUs) :
    Covered s now urb := by
  rw [Covered, if_neg (by simp [kind])]
  exact safe

/-- A covered transfer stays covered when the endpoint stays empty or is
announced, and neither the timeout nor the next poll gets later. -/
theorem Covered.mono (covered : Covered s now urb)
    (timeout : s'.waitTimeoutUs ≤ s.waitTimeoutUs)
    (polled : urb.isochronous = false →
      (s'.endpoints true urb.number).nextPollUs =
        (s.endpoints true urb.number).nextPollUs ∨ Signalled s')
    (filled : urb.number ≠ 0 → s.device.endpointData urb.number = [] →
      s'.device.endpointData urb.number = [] ∨ Signalled s')
    (signalled : Signalled s → Signalled s') : Covered s' now urb := by
  cases kind : urb.isochronous with
  | true =>
      rw [Covered, if_pos kind] at covered
      exact .isochronous kind (by omega)
  | false =>
      rw [Covered, if_neg (by simp [kind])] at covered
      refine .plain kind ?_
      intro positive data
      rcases covered positive data with empty | set | ⟨early, timed⟩
      · rcases filled data empty with still | set
        · exact .inl still
        · exact .inr (.inl set)
      · exact .inr (.inl (signalled set))
      · rcases polled kind with same | set
        · rw [same]
          exact .inr (.inr ⟨early, by omega⟩)
        · exact .inr (.inl set)

theorem Covered.stays (covered : Covered s now urb) (same : Stays s s') :
    Covered s' now urb := by
  refine covered.mono (Nat.le_of_eq same.waitTimeoutUs) ?_ ?_ ?_
  · intro _
    rw [same.endpoints]
    exact .inl rfl
  · intro data empty
    exact same.moves.filled data empty
  · exact same.moves.signalled same.event

/-- The server thread is in a pass before and after, so only the event and the
threads matter. -/
theorem Signalled.pass (before : Signalled s)
    (here : s.phase = .pass now index) (threads : s'.threads = s.threads)
    (event : s'.device.eventFd = s.device.eventFd) : Signalled s' := by
  rcases before with set | ⟨call, ⟨thread, stored⟩ | server⟩
  · exact .inl (event.trans set)
  · exact .inr ⟨call, .inl ⟨thread, by rw [threads]; exact stored⟩⟩
  · rw [here] at server
    contradiction

theorem Covered.later (early : now < urb.dueUs s.endpoints)
    (endpoints : s'.endpoints = s.endpoints)
    (timeout : s'.waitTimeoutUs ≤ urb.dueUs s.endpoints - now) :
    Covered s' now urb := by
  cases kind : urb.isochronous with
  | true =>
      rw [PendingUrb.dueUs, if_pos kind] at early timeout
      exact .isochronous kind (by omega)
  | false =>
      rw [PendingUrb.dueUs, if_neg (by simp [kind])] at early timeout
      refine .plain kind ?_
      intro _ _
      rw [endpoints]
      exact .inr (.inr ⟨early, by omega⟩)

/-- Another transfer of the endpoint is served: then the endpoint is due and
has data, which was announced. -/
theorem Covered.served {other : PendingUrb} (covered : Covered s now other)
    (same : other.number = urb.number)
    (due : (s.endpoints true urb.number).nextPollUs ≤ now)
    (data : s.device.endpointData other.number ≠ [])
    (timeout : s'.waitTimeoutUs = s.waitTimeoutUs)
    (signalled : Signalled s → Signalled s') : Covered s' now other := by
  cases kind : other.isochronous with
  | true =>
      rw [Covered, if_pos kind] at covered
      exact .isochronous kind (by rw [timeout]; exact covered)
  | false =>
      rw [Covered, if_neg (by simp [kind])] at covered
      refine .plain kind ?_
      intro positive number
      rcases covered positive number with empty | set | ⟨early, _⟩
      · exact absurd empty data
      · exact .inr (.inl (signalled set))
      · rw [same] at early
        exact absurd due (Nat.not_le.mpr early)

theorem Attentive.step (earlier : Attentive s) (passed : PassStep s s') :
    Attentive s' := by
  intro now index here
  cases passed with
  | outside away =>
      rw [away] at here
      contradiction
  | starts fresh =>
      rw [fresh] at here
      cases here
      exact ⟨rfl, by simp⟩
  | stays same pendingUrbs =>
      rw [same.cursor] at here
      rw [same.passUs, pendingUrbs]
      obtain ⟨reading, covered⟩ := earlier now index here
      exact ⟨reading, fun urb member => (covered urb member).stays same⟩
  | isoDone clock place urb same standing filed pendingUrbs =>
      rw [same.cursor, standing] at here
      cases here
      rw [same.passUs, pendingUrbs, take_eraseIdx filed]
      obtain ⟨reading, covered⟩ := earlier now index standing
      exact ⟨reading, fun urb member => (covered urb member).stays same⟩
  | ends clock place standing all =>
      obtain ⟨reading, covered⟩ :=
        earlier clock place (State.cursor_pass standing)
      obtain ⟨rfl, rfl⟩ := State.cursor_serve rfl here
      refine ⟨rfl, ?_⟩
      intro urb member
      have inside : urb ∈ s.pendingUrbs := List.mem_of_mem_take member
      rw [List.take_of_length_le all] at covered
      refine Covered.mono (s := s) ?_ le_rfl ?_ ?_ ?_
      · have now_eq : (s.goto .serve).passUs = clock := reading
        rw [now_eq]
        exact covered urb inside
      · exact fun _ => .inl rfl
      · exact fun _ empty => .inl empty
      · exact fun before => before.pass standing rfl rfl
  | later clock place urb standing filed early =>
      cases here
      obtain ⟨reading, covered⟩ := earlier now place (State.cursor_pass standing)
      refine ⟨reading, ?_⟩
      intro other member
      rcases mem_take_succ filed member with before | rfl
      · refine (covered other before).mono (Nat.min_le_left _ _) ?_ ?_ ?_
        · exact fun _ => .inl rfl
        · exact fun _ empty => .inl empty
        · exact fun before => before.pass standing rfl rfl
      · exact .later early rfl (Nat.min_le_right _ _)
  | skipped clock place urb standing filed plain nothing =>
      cases here
      obtain ⟨reading, covered⟩ := earlier now place (State.cursor_pass standing)
      refine ⟨reading, ?_⟩
      intro other member
      rcases mem_take_succ filed member with before | rfl
      · refine (covered other before).mono le_rfl ?_ ?_ ?_
        · exact fun _ => .inl rfl
        · exact fun _ empty => .inl (DeviceState.fetched_empty empty)
        · exact fun before => before.pass standing rfl rfl
      · refine .plain plain ?_
        intro positive _
        have empty := (DeviceState.fetched_eq_nil_iff.mp nothing).resolve_left
          (Nat.ne_of_gt positive)
        rw [epMasked_toUInt8] at empty
        exact .inl (DeviceState.fetched_empty empty)
  | completed clock place urb standing filed plain due data cursor device
      threads endpoints timeout passUs pendingUrbs =>
      rw [cursor] at here
      cases here
      rw [passUs, pendingUrbs, take_eraseIdx filed]
      obtain ⟨reading, covered⟩ :=
        earlier now index (State.cursor_pass standing)
      refine ⟨reading, ?_⟩
      intro other member
      have signalled : Signalled s → Signalled s' := by
        intro before
        refine before.pass standing threads ?_
        rw [device]
        rfl
      by_cases same : other.number = urb.number
      · refine (covered other member).served same due ?_ timeout signalled
        intro empty
        rw [same, Transfer.number, ← epMasked_toUInt8] at empty
        exact data (DeviceState.fetched_eq_nil_iff.mpr (.inr empty))
      · refine (covered other member).mono (Nat.le_of_eq timeout) ?_ ?_
          signalled
        · intro _
          rw [endpoints]
          simp [Endpoints.setNextPoll, Endpoints.set,
            Function.update_of_ne same]
        · intro _ empty
          rw [device]
          exact .inl (DeviceState.fetched_empty empty)

theorem reachable_attentive (reachable : Reachable dev s) : Attentive s := by
  refine reachable.invariant ?_ ?_
  · intro now index here
    simp [State.cursor, initial] at here
  · intro state label next reached earlier _ stepped
    have sound := (reachable_tracked reached).sound
    exact earlier.step (step_passStep sound stepped)

end

theorem noLostWakeup {dev : UsbipDevice} {s : State}
    (reachable : Reachable dev s) (apart : servedApart s = true)
    (waiting : s.phase = .serve) (imported : s.deviceImported = true) :
    Attended s := by
  have here : s.cursor = some (s.passUs, s.pendingUrbs.length) := by
    simp [State.cursor, waiting, imported]
  obtain ⟨_, covered⟩ := reachable_attentive reachable _ _ here
  rw [List.take_length] at covered
  intro urb member
  have kept := covered urb member
  constructor
  · intro kind
    rw [Covered, if_pos kind] at kept
    exact kept
  · intro kind positive
    rw [Covered, if_neg (by simp [kind])] at kept
    have number : urb.number ≠ 0 := by
      intro aliased
      have kept : urb.awaits 0 = false := by
        simpa using List.all_eq_true.mp apart urb member
      rw [Transfer.awaits_iff.mpr ⟨kind, positive, aliased⟩] at kept
      contradiction
    rcases kept positive number with empty | set | ⟨_, timed⟩
    · exact .inl empty
    · exact .inr (.inl set)
    · exact .inr (.inr timed)

/-- A thread has stored data for a pending transfer while the server waits. -/
def announcedLabels : List Label :=
  importLabels [bulkIn 1 1 8] ++
    [.wait true, .server 0, .server 0, .server 0, .transmit 0 1 [0xaa]]

theorem noLostWakeup_announced :
    (stateAfter sampleDevice announcedLabels).pendingUrbs.length = 1 ∧
      Attended (stateAfter sampleDevice announcedLabels) :=
  ⟨by decide +kernel,
    noLostWakeup (stateAfter_reachable _ _) (by decide +kernel)
      (by decide +kernel) (by decide +kernel)⟩

/-- A transfer on endpoint 16 is served from the buffer of endpoint 0, and a
transmit on endpoint 0 does not write the event. -/
def aliasedLabels : List Label :=
  importLabels [bulkIn 1 16 8] ++
    [.wait true, .server 0, .server 0, .server 0, .transmit 0 0 [0xaa]]

def Event.storedEndpoint : Event → Option (Fin 16)
  | .stored call => some call.endpoint
  | _ => none

theorem noLostWakeup_aliased :
    Reachable sampleDevice (stateAfter sampleDevice aliasedLabels) ∧
      (stateAfter sampleDevice aliasedLabels).phase = .serve ∧
      (stateAfter sampleDevice aliasedLabels).deviceImported = true ∧
      ¬ Attended (stateAfter sampleDevice aliasedLabels) := by
  have reachable := stateAfter_reachable sampleDevice aliasedLabels
  refine ⟨reachable, by decide +kernel, by decide +kernel, ?_⟩
  intro attended
  have filed : ⟨⟨0, 1, 16, 1, 8, false⟩, 0, 0, 0, []⟩ ∈
      (stateAfter sampleDevice aliasedLabels).pendingUrbs := by
    decide +kernel
  rcases (attended _ filed).2 rfl (by decide) with
    empty | (set | ⟨call, posting⟩) | timed
  · revert empty
    decide +kernel
  · revert set
    decide +kernel
  · have stored := (reachable_postedWhenStored reachable call).mpr (.inr posting)
    have control : ∀ event ∈ (stateAfter sampleDevice aliasedLabels).trace,
        event.storedEndpoint.getD 0 = 0 := by
      decide +kernel
    exact reachable_posting_data reachable posting (control _ stored)
  · revert timed
    decide +kernel

end UsbipServer
