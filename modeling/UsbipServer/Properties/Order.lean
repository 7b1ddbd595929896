import UsbipServer.Refine.Mailbox
import UsbipServer.Refine.Pass

namespace UsbipServer

open Wire Library Ledger

/-! Transfers of one endpoint are completed in the order they were queued, as
long as no data arrives while a pass is between two of them. -/

/-- Data for a later transfer of an endpoint is not sent before an earlier one
got some or was cancelled. -/
def CompletesInOrder (s : State) : Prop :=
  ∀ number before first reply rest, number ≠ 0 →
    s.session = before ++ .retSubmit reply :: rest →
    Event.queued first ∈ before →
    first.ticket < reply.transfer.ticket →
    first.awaits number = true →
    reply.transfer.awaits number = true →
    reply.data ≠ [] →
    Settled first.toTransfer before

/-- The transfers before `index` and those from `index` on both include one
that awaits data of the endpoint. -/
def splits (pendingUrbs : List PendingUrb) (index : Nat) (number : Fin 16) :
    Bool :=
  (pendingUrbs.take index).any (fun urb => urb.awaits number) &&
    (pendingUrbs.drop index).any fun urb => urb.awaits number

/-- The pass has polled the endpoint for one transfer and is going to poll it
for another. -/
def State.betweenPolls (s : State) (number : Fin 16) : Bool :=
  match s.cursor with
  | none => false
  | some (now, index) =>
      decide ((s.endpoints true number).nextPollUs ≤ now) &&
        splits s.pendingUrbs index number

/-- The call that gets to `ep_access_mutex` with a step. -/
def State.entering (s : State) : Label → Option Call
  | .transmit _ ep data => some (newCall s ep data)
  | .callbackTransmit ep data => some (newCall s ep data)
  | .wake thread =>
      match (s.threads thread).call with
      | .waiting call => some call
      | _ => none
  | _ => none

/-- The endpoint is empty and the call finds the device as it expects it. -/
def Call.fills (call : Call) (device : DeviceState) : Bool :=
  !device.deviceStopped &&
    decide (call.generation = device.resetGeneration) &&
    (device.endpointData call.endpoint).isEmpty && !call.data.isEmpty

/-- No call fills an endpoint the pass is between two polls of. -/
def undisturbed (s : State) (label : Label) : Bool :=
  (s.entering label).all fun call =>
    !(s.betweenPolls call.endpoint && call.fills s.device)

section

variable {pendingUrbs : List PendingUrb} {index : Nat} {urb : PendingUrb}
  {number : Fin 16}

@[simp] theorem splits_zero : splits pendingUrbs 0 number = false := by
  simp [splits]

@[simp] theorem splits_length :
    splits pendingUrbs pendingUrbs.length number = false := by
  simp [splits]

private theorem drop_filed (filed : pendingUrbs[index]? = some urb) :
    pendingUrbs.drop index = urb :: pendingUrbs.drop (index + 1) := by
  obtain ⟨bound, here⟩ := List.getElem?_eq_some_iff.mp filed
  rw [List.drop_eq_getElem_cons bound, here]

theorem splits_succ (filed : pendingUrbs[index]? = some urb)
    (split : splits pendingUrbs (index + 1) number = true) :
    urb.awaits number = true ∨ splits pendingUrbs index number = true := by
  simp only [splits, List.take_add_one, filed, Option.toList_some,
    List.any_append, drop_filed filed, List.any_cons, List.any_nil,
    Bool.and_eq_true, Bool.or_eq_true, Bool.or_false] at split ⊢
  obtain ⟨early | here, late⟩ := split
  · exact .inr ⟨early, .inr late⟩
  · exact .inl here

theorem splits_erase (filed : pendingUrbs[index]? = some urb)
    (split : splits (pendingUrbs.eraseIdx index) index number = true) :
    splits pendingUrbs index number = true := by
  have bound := (List.getElem?_eq_some_iff.mp filed).1
  have front : (pendingUrbs.take index).length = index := by
    simp [Nat.le_of_lt bound]
  simp only [splits, List.eraseIdx_eq_take_drop_succ,
    List.take_left' front, List.drop_left' front, drop_filed filed,
    List.any_cons, Bool.and_eq_true, Bool.or_eq_true] at split ⊢
  exact ⟨split.1, .inr split.2⟩

end

/-- While a pass is between two transfers of an endpoint, the endpoint is not
due or has no data. -/
def Unskipped (s : State) : Prop :=
  ∀ now index number, s.cursor = some (now, index) →
    splits s.pendingUrbs index number = true →
    now < (s.endpoints true number).nextPollUs ∨
      s.device.endpointData number = []

section

variable {dev : UsbipDevice} {s s' : State} {number : Fin 16}

theorem Section.keeps_empty {mayWait : Bool} {device device' : DeviceState}
    {call : Call} {phase : CallPhase} {events : List Event}
    (ran : Section mayWait device call device' phase events)
    (unfilled : call.endpoint = number → call.fills device = false)
    (empty : device.endpointData number = []) :
    device'.endpointData number = [] := by
  cases ran with
  | waiting | dropped => exact empty
  | stored running current room =>
      by_cases here : call.endpoint = number
      · subst here
        have nothing : call.data = [] := by
          simpa [Call.fills, running, current, empty] using unfilled rfl
        simp [Call.cells, nothing]
      · simpa [Function.update_of_ne (Ne.symm here)] using empty

theorem State.controlled_empty (request : Request)
    (empty : s.device.endpointData number = []) :
    (s.controlled request).device.endpointData number = [] := by
  by_cases here : number = 0
  · subst here
    simp [State.controlled, DeviceState.forgetAnswer]
  · simpa [State.controlled, DeviceState.forgetAnswer,
      Function.update_of_ne here] using empty

/-- Only a call that fills an endpoint gets data into it. -/
theorem Transition.keeps_empty {label : Label}
    (moved : Transition dev s label s') (quiet : undisturbed s label = true)
    (between : s.betweenPolls number = true)
    (empty : s.device.endpointData number = []) :
    s'.device.endpointData number = [] := by
  have unfilled : ∀ call, s.entering label = some call →
      call.endpoint = number → call.fills s.device = false := by
    rintro call entering rfl
    simpa [undisturbed, entering, between] using quiet
  cases moved with
  | submits _ _ _ _ _ _ _ ends | submitsIso _ _ _ _ _ _ _ ends
  | overflows _ _ _ _ ends | collects _ _ _ _ _ _ _ _ ends
  | resetEnds _ _ _ _ ends | returns _ _ _ _ _ _ ends =>
      rw [ends.device]
      exact empty
  | controlAnswers _ request | controlCalls _ request =>
      exact State.controlled_empty request empty
  | controls clock request supported here action ends =>
      rw [ends.device]
      exact State.controlled_empty request empty
  | answers clock request data here ran ends =>
      -- the server answers a control request in no pass
      simp [State.betweenPolls, State.cursor, here] at between
  | fetches | skips | completes | breaks =>
      exact DeviceState.fetched_empty empty
  | resets | stops => rfl
  | callbackTransmits _ _ _ _ _ ran | transmits _ _ _ _ ran =>
      exact ran.keeps_empty (unfilled _ rfl) empty
  | wakes thread call waiting ran =>
      refine ran.keeps_empty (unfilled call ?_) empty
      simp [State.entering, waiting]
  | _ => exact empty

theorem Unskipped.still (earlier : Unskipped s)
    (quiet : ∀ number, s.betweenPolls number = true →
      s.device.endpointData number = [] →
      s'.device.endpointData number = [])
    {now index : Nat} (here : s.cursor = some (now, index))
    (split : splits s.pendingUrbs index number = true) :
    now < (s.endpoints true number).nextPollUs ∨
      s'.device.endpointData number = [] := by
  by_cases due : (s.endpoints true number).nextPollUs ≤ now
  · have empty := (earlier now index number here split).resolve_left
      (Nat.not_lt.mpr due)
    refine .inr (quiet number ?_ empty)
    simp [State.betweenPolls, here, due, split]
  · exact .inl (Nat.lt_of_not_le due)

theorem Unskipped.step (earlier : Unskipped s)
    (quiet : ∀ number, s.betweenPolls number = true →
      s.device.endpointData number = [] →
      s'.device.endpointData number = [])
    (passed : PassStep s s') : Unskipped s' := by
  intro now index number here split
  cases passed with
  | outside away =>
      rw [away] at here
      contradiction
  | starts fresh =>
      rw [fresh] at here
      cases here
      rw [splits_zero] at split
      contradiction
  | stays same pendingUrbs =>
      rw [same.cursor] at here
      rw [pendingUrbs] at split
      rw [same.endpoints]
      exact earlier.still quiet here split
  | isoDone clock place urb same standing filed pendingUrbs =>
      rw [same.cursor] at here
      rw [standing] at here
      cases here
      rw [pendingUrbs] at split
      rw [same.endpoints]
      exact earlier.still quiet standing (splits_erase filed split)
  | ends clock place standing all =>
      rw [← (State.cursor_serve rfl here).2, splits_length] at split
      contradiction
  | later clock place urb standing filed early =>
      cases here
      rcases splits_succ filed split with awaits | before
      · obtain ⟨plain, _, rfl⟩ := Transfer.awaits_iff.mp awaits
        rw [PendingUrb.dueUs, plain] at early
        exact .inl early
      · exact earlier _ _ number (State.cursor_pass standing) before
  | skipped clock place urb standing filed plain nothing =>
      cases here
      rcases splits_succ filed split with awaits | before
      · obtain ⟨_, positive, rfl⟩ := Transfer.awaits_iff.mp awaits
        have empty := (DeviceState.fetched_eq_nil_iff.mp nothing).resolve_left
          (Nat.ne_of_gt positive)
        rw [epMasked_toUInt8] at empty
        exact .inr (DeviceState.fetched_empty empty)
      · rcases earlier _ _ number (State.cursor_pass standing) before
          with early | empty
        · exact .inl early
        · exact .inr (DeviceState.fetched_empty empty)
  | completed clock place urb standing filed plain due data cursor device
      threads endpoints timeout passUs pendingUrbs =>
      rw [cursor] at here
      cases here
      rw [pendingUrbs] at split
      have held := earlier _ _ number (State.cursor_pass standing)
        (splits_erase filed split)
      by_cases same : urb.number = number
      · -- an older transfer of this endpoint would have found the data
        subst same
        rcases held with early | empty
        · exact absurd due (Nat.not_le.mpr early)
        · refine absurd (DeviceState.fetched_eq_nil_iff.mpr (.inr ?_)) data
          rw [epMasked_toUInt8]
          exact empty
      · rw [endpoints, device]
        have other : number ≠ epMasked urb.ep.toUInt8 := by
          rw [epMasked_toUInt8]
          exact Ne.symm same
        rw [DeviceState.fetched_other other]
        simpa [Endpoints.setNextPoll, Endpoints.set,
          Function.update_of_ne (Ne.symm same)] using held

theorem mem_take_of_older {queue : List Transfer} {index : Nat}
    {older newer : Transfer}
    (arrival : queue.Pairwise fun earlier later => earlier.ticket < later.ticket)
    (filed : queue[index]? = some newer) (member : older ∈ queue)
    (lower : older.ticket < newer.ticket) : older ∈ queue.take index := by
  obtain ⟨bound, here⟩ := List.getElem?_eq_some_iff.mp filed
  rw [← List.take_append_drop index queue, List.drop_eq_getElem_cons bound,
    here] at arrival member
  rcases List.mem_append.mp member with front | back
  · exact front
  · have later := (List.pairwise_cons.mp (List.pairwise_append.mp arrival).2.1).1
    rcases List.mem_cons.mp back with rfl | back
    · exact absurd lower (Nat.lt_irrefl _)
    · exact absurd lower (Nat.lt_asymm (later older back))

/-- When data is fetched for a pending transfer, no older one of the endpoint
is left. -/
theorem Unskipped.oldest (unskipped : Unskipped s) (tracked : Tracked dev s)
    {now index : Nat} {urb first : PendingUrb}
    (here : s.phase = .pass now index)
    (filed : s.pendingUrbs[index]? = some urb)
    (due : (s.endpoints true urb.number).nextPollUs ≤ now)
    (data : s.device.endpointData urb.number ≠ [])
    (awaits : urb.awaits urb.number = true)
    (same : first.awaits urb.number = true)
    (older : first.ticket < urb.ticket)
    (queued : Event.queued first ∈ s.session) :
    Settled first.toTransfer s.session := by
  obtain ⟨base, _⟩ := tracked.sound.isAttached here fun _ _ _ => id
  have goesOn := tracked.goesOn ⟨base.imported, by simp [here]⟩
  rcases queued_settled tracked.ledger goesOn queued with member | settled
  · exfalso
    have arrival := ordered tracked.ledger goesOn
    rw [view_at here] at member arrival
    simp only [Ordered, Phase.hand, Option.toList_none, List.append_nil]
      at arrival
    have place : (queueOf s)[index]? = some urb.toTransfer := by
      simp [queueOf, filed]
    have front := mem_take_of_older arrival place member older
    rw [queueOf, ← List.map_take] at front
    obtain ⟨other, taken, equal⟩ := List.mem_map.mp front
    rw [← equal] at same
    have split : splits s.pendingUrbs index urb.number = true := by
      simp only [splits, Bool.and_eq_true, List.any_eq_true]
      refine ⟨⟨other, taken, same⟩, urb, ?_, awaits⟩
      rw [drop_filed filed]
      exact List.mem_cons_self
    rcases unskipped _ _ _ (State.cursor_pass here) split with early | empty
    · exact absurd due (Nat.not_le.mpr early)
    · exact data empty
  · exact settled

theorem CompletesInOrder.step {label : Label} (earlier : CompletesInOrder s)
    (unskipped : Unskipped s) (tracked : Tracked dev s)
    (stepped : step dev s label = some s') : CompletesInOrder s' := by
  intro number before first reply rest control session queued older awaits
    alsoAwaits carried
  have acted := step_acts tracked.sound stepped
  rcases step_session tracked.sound stepped with
    fresh | ⟨events, traced, extended⟩
  · rw [fresh] at session
    simp at session
  rw [extended] at session
  have now : ∀ middle, before = s.session ++ middle →
      events = middle ++ .retSubmit reply :: rest →
      Settled first.toTransfer before := by
    intro middle split recorded
    obtain ⟨plain, _, number_eq⟩ := Transfer.awaits_iff.mp alsoAwaits
    obtain ⟨ep, length, source, told, shape⟩ := acted.data_reply traced
      (by simp [recorded]) plain carried
    have inside : Event.queued first ∈ s.session := by
      rw [split] at queued
      rcases List.mem_append.mp queued with member | member
      · exact member
      · have contrary : Event.queued first ∈ events := by
          rw [recorded]
          exact List.mem_append_left _ member
        simp [shape] at contrary
    have settled : Settled first.toTransfer s.session := by
      generalize transferred : reply.transfer = transfer at *
      cases source with
      | control request here alsoControl =>
          refine absurd ?_ control
          rw [← number_eq]
          simp [Transfer.number, Request.transfer, alsoControl, endpointNumber]
      | pending now index urb here filed due _ data inward =>
          subst number_eq
          refine unskipped.oldest tracked here filed due ?_ alsoAwaits awaits
            older inside
          intro empty
          rw [told] at carried
          refine carried (DeviceState.fetched_eq_nil_iff.mpr (.inr ?_))
          rw [epMasked_toUInt8]
          exact empty
    exact settled.mono (by simp [split])
  rcases extended_split session with ⟨later, split⟩ | ⟨middle, split, recorded⟩
  · exact earlier number before first reply later control split queued older
      awaits alsoAwaits carried
  · exact now middle split recorded

end

/-- In every run in which no data is stored on an endpoint while a pass is
between two polls of it. -/
theorem completionOrder {dev : UsbipDevice} {s : State}
    (reached : (server dev).Reaches
      (fun s label => undisturbed s label = true) initial s) :
    CompletesInOrder s := by
  have both : CompletesInOrder s ∧ Unskipped s := by
    refine reached.invariant (P := fun s => CompletesInOrder s ∧ Unskipped s)
      ?_ ?_
    · constructor
      · intro number before first reply rest _ session
        simp [State.session, initial] at session
      · intro now index number here
        simp [State.cursor, initial] at here
    · intro state label next before earlier quiet stepped
      have tracked := reachable_tracked (.of_allowed before)
      refine ⟨earlier.1.step earlier.2 tracked stepped, ?_⟩
      refine earlier.2.step ?_ (step_passStep tracked.sound stepped)
      intro number between empty
      exact (step_transition stepped).keeps_empty quiet between empty
  exact both.1

def repliedSeqnums (events : List Event) : List UInt32 :=
  events.filterMap fun
    | .retSubmit reply => some reply.transfer.seqnum
    | _ => none

/-- Two transfers wait for data that arrives between the passes. -/
def orderedLabels : List Label :=
  importLabels [bulkIn 1 1 8, bulkIn 2 1 8] ++
    [.wait true, .server 0, .server 0, .server 0,
      .wait true, .transmit 0 1 [0xaa], .server 0, .server 0, .post 0,
      .server 0, .server 0, .transmit 0 1 [0xbb], .wait false, .server 0,
      .server 0]

theorem completionOrder_two :
    repliedSeqnums (allowedAfter sampleDevice undisturbed initial
        orderedLabels).session = [1, 2] ∧
      CompletesInOrder (allowedAfter sampleDevice undisturbed initial
        orderedLabels) :=
  ⟨by decide +kernel, completionOrder (allowedAfter_reached _ _ _ _)⟩

/-- The same transfers, but the data arrives after the pass polled for the
first and before it polls for the second. -/
def overtakenLabels : List Label :=
  importLabels [bulkIn 1 1 8, bulkIn 2 1 8] ++
    [.wait true, .server 0, .server 0, .server 0,
      .wait true, .server 0, .server 0, .transmit 0 1 [0xaa], .server 0]

def overtakingReply : Reply where
  transfer := ⟨1, 2, 1, 1, 8, false⟩
  ret := ⟨0, 1, 0, 0xffffffff, 0⟩
  data := [⟨0xaa, some 0⟩]
  packets := []

def overtakenUrb : PendingUrb := ⟨⟨0, 1, 1, 1, 8, false⟩, 0, 0, 0, []⟩

def Event.isReply : Event → Bool
  | .retSubmit _ => true
  | .retUnlink _ => true
  | _ => false

theorem Settled.exists_reply {transfer : Transfer} {events : List Event}
    (settled : Settled transfer events) :
    ∃ event ∈ events, event.isReply = true := by
  rcases settled with ⟨reply, member, _⟩ | ⟨reply, member, _⟩
  · exact ⟨_, member, rfl⟩
  · exact ⟨_, member, rfl⟩

theorem completionOrder_overtaken :
    Reachable sampleDevice (stateAfter sampleDevice overtakenLabels) ∧
      ¬ CompletesInOrder (stateAfter sampleDevice overtakenLabels) := by
  refine ⟨stateAfter_reachable _ _, ?_⟩
  intro ordered
  have session : (stateAfter sampleDevice overtakenLabels).session =
      (stateAfter sampleDevice overtakenLabels).session.dropLast ++
        .retSubmit overtakingReply :: [] := by
    decide +kernel
  have settled := ordered 1 _ overtakenUrb overtakingReply [] (by decide)
    session (by decide +kernel) (by decide) (by decide) (by decide) (by decide)
  have silent : ∀ event ∈
      (stateAfter sampleDevice overtakenLabels).session.dropLast,
      event.isReply = false := by
    decide +kernel
  obtain ⟨event, member, reply⟩ := Settled.exists_reply settled
  rw [silent event member] at reply
  exact Bool.false_ne_true reply

end UsbipServer
