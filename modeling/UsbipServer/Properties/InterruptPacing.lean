import UsbipServer.Refine.Streams

namespace UsbipServer

open Wire Library

/-! Replies with data of one endpoint are sent in passes that are at least one
polling interval apart. -/

/-- The reply carries data of a transfer on the endpoint that is not
isochronous. -/
def Event.carries (number : Fin 16) : Event → Bool
  | .retSubmit reply =>
      !reply.transfer.isochronous && decide (reply.transfer.number = number) &&
        !reply.data.isEmpty
  | _ => false

/-- The clock reading of the pass the server is in, a command ends the pass. -/
def Event.passAfter (pass : Option Nat) : Event → Option Nat
  | .pass now => some now
  | .submit _ => none
  | _ => pass

def passOf (events : List Event) : Option Nat :=
  events.foldl Event.passAfter none

/-- For each reply that carries data of the endpoint, the clock reading of the
pass it was sent in, `none` outside a pass.  `pass` is the one before the
events. -/
def dataPasses (number : Fin 16) : Option Nat → List Event → List (Option Nat)
  | _, [] => []
  | pass, event :: rest =>
      if event.carries number then
        pass :: dataPasses number (event.passAfter pass) rest
      else dataPasses number (event.passAfter pass) rest

section

variable {number : Fin 16}

theorem dataPasses_append (pass : Option Nat) (early late : List Event) :
    dataPasses number pass (early ++ late) = dataPasses number pass early ++
      dataPasses number (early.foldl Event.passAfter pass) late := by
  induction early generalizing pass with
  | nil => rfl
  | cons event rest induction =>
      simp only [List.cons_append, dataPasses, List.foldl_cons, induction]
      split
      · rfl
      · rfl

theorem dataPasses_quiet {events : List Event} (pass : Option Nat)
    (quiet : ∀ event ∈ events, event.carries number = false) :
    dataPasses number pass events = [] := by
  induction events generalizing pass with
  | nil => rfl
  | cons event rest induction =>
      have silent := quiet event List.mem_cons_self
      simp only [dataPasses, silent, Bool.false_eq_true, if_false]
      apply induction
      intro later member
      exact quiet later (List.mem_cons_of_mem event member)

theorem passOf_append (early late : List Event) :
    passOf (early ++ late) = late.foldl Event.passAfter (passOf early) := by
  rw [passOf, List.foldl_append]
  rfl

end

section

variable {dev : UsbipDevice} {s s' : State} {label : Label} {number : Fin 16}
  {held : Option Request} {events : List Event}

theorem Event.Minor.same_pass (minor : ∀ event ∈ events, event.Minor dev held)
    (pass : Option Nat) : events.foldl Event.passAfter pass = pass := by
  induction events generalizing pass with
  | nil => rfl
  | cons event rest induction =>
      have kept : event.passAfter pass = pass := by
        have here := minor event List.mem_cons_self
        cases event <;> first | rfl | exact here.elim
      rw [List.foldl_cons, kept]
      apply induction
      intro later member
      exact minor later (List.mem_cons_of_mem event member)

theorem Event.Minor.carries_nothing
    (minor : ∀ event ∈ events, event.Minor dev held) (data : number ≠ 0) :
    ∀ event ∈ events, event.carries number = false := by
  intro event member
  have here := minor event member
  cases event with
  | retSubmit reply =>
      obtain ⟨request, _, answers⟩ := here
      by_cases empty : reply.data = []
      · simp [Event.carries, empty]
      · have control := answers.data empty
        have place : reply.transfer.number = 0 := by
          rw [answers.transfer]
          change endpointNumber request.ep = 0
          rw [control]
          rfl
        simp [Event.carries, place, Ne.symm data]
  | _ => rfl

theorem Event.Minor.not_imported
    (minor : ∀ event ∈ events, event.Minor dev held) :
    ∀ event ∈ events, event.isImported = false := by
  intro event member
  have here := minor event member
  cases event <;> first | rfl | exact here.elim

theorem State.session_append (traced : s'.trace = s.trace ++ events)
    (quiet : ∀ event ∈ events, event.isImported = false) :
    s'.session = s.session ++ events := by
  rw [State.session, traced]
  exact since_append _ _ _ quiet

/-- During a pass, the last thing that was noted is its clock reading. -/
def InPass (s : State) : Prop :=
  ∀ now, s.phase.reading = some now → passOf s.session = some now

theorem InPass.step (inPass : InPass s) (filing : Filing dev s label s') :
    InPass s' := by
  intro now reading
  cases filing with
  | handed worked =>
      rw [worked.reading] at reading
      contradiction
  | stays events _ _ _ _ traced minor same =>
      rw [same] at reading
      rw [State.session_append traced (Event.Minor.not_imported minor),
        passOf_append, Event.Minor.same_pass minor]
      exact inPass now reading
  | forgets _ _ _ _ _ _ _ _ _ none =>
      rw [none] at reading
      contradiction
  | imports _ _ there =>
      rw [there] at reading
      contradiction
  | starts clock _ _ there _ _ _ _ _ traced =>
      rw [there] at reading
      rw [State.session_append traced (by simp [Event.isImported]),
        passOf_append]
      exact reading
  | takes _ _ _ _ _ _ _ _ _ _ _ _ _ _ _ _ none =>
      rw [none] at reading
      contradiction
  | queues _ _ _ _ _ _ _ _ _ _ _ _ there =>
      rw [there] at reading
      contradiction
  | unlinks _ _ _ _ _ _ _ _ _ _ _ _ _ _ _ _ _ _ _ none =>
      rw [none] at reading
      contradiction
  | schedules _ _ _ _ _ _ _ _ _ _ there =>
      rw [there] at reading
      contradiction
  | @packs urb back packets actual start _ entered outcome =>
      obtain ⟨_, _, _, _, trace⟩ := entered.start
      have before := entered.reading
      cases outcome with
      | calls =>
          change passOf (since Event.isImported start.trace) = some now
          rw [trace]
          exact inPass now (before.trans reading)
      | replies _ _ _ _ _ _ _ there traced =>
          rw [trace] at traced
          rw [there] at reading
          rw [State.session_append traced (by simp [Event.isImported]),
            passOf_append]
          cases back with
          | command => contradiction
          | pass => exact inPass now (before.trans reading)
      | fails _ _ there =>
          rw [there] at reading
          contradiction
      | loses _ _ _ _ there =>
          rw [there] at reading
          contradiction
  | completes _ _ _ reply here _ _ _ _ _ _ _ _ _ _ there traced =>
      rw [there] at reading
      rw [State.session_append traced (by simp [Event.isImported]),
        passOf_append]
      rw [← here] at reading
      exact inPass now reading

theorem reachable_inPass (reachable : Reachable dev s) : InPass s := by
  refine reachable.invariant ?_ ?_
  · intro now reading
    contradiction
  · intro state label next reached earlier _ stepped
    exact earlier.step (step_filing (reachable_tracked reached).sound stepped)

/-- The passes that sent data of the endpoint are one interval apart, and the
next poll is one interval after the last of them. -/
def Polled (dev : UsbipDevice) (number : Fin 16) (s : State) : Prop :=
  ∃ times : List Nat, dataPasses number none s.session = times.map some ∧
    (times.Pairwise fun earlier later => earlier +
      (loadEndpoints dev.configDesc true number).intervalUs ≤ later) ∧
    (s.deviceImported = true → ∀ time ∈ times,
      time + (loadEndpoints dev.configDesc true number).intervalUs ≤
        (s.endpoints true number).nextPollUs)

theorem Polled.quiet (polled : Polled dev number s)
    (traced : s'.trace = s.trace ++ events)
    (notImported : ∀ event ∈ events, event.isImported = false)
    (silent : ∀ event ∈ events, event.carries number = false)
    (next : s'.deviceImported = true → s.deviceImported = true ∧
      (s.endpoints true number).nextPollUs ≤
        (s'.endpoints true number).nextPollUs) : Polled dev number s' := by
  obtain ⟨times, sent, apart, bound⟩ := polled
  refine ⟨times, ?_, apart, ?_⟩
  · rw [State.session_append traced notImported, dataPasses_append,
      dataPasses_quiet _ silent, List.append_nil]
    exact sent
  · intro present time member
    obtain ⟨before, later⟩ := next present
    exact (bound before time member).trans later

theorem SameTables.nextPoll (tables : SameTables s s')
    (present : s'.deviceImported = true) :
    s.deviceImported = true ∧ (s.endpoints true number).nextPollUs ≤
      (s'.endpoints true number).nextPollUs := by
  rw [tables.deviceImported] at present
  rw [tables.endpoints]
  exact ⟨present, le_rfl⟩

theorem State.isoEndpoints_nextPoll (request : Request) (clock : Nat) :
    (s.isoEndpoints request clock true number).nextPollUs =
      (s.endpoints true number).nextPollUs := by
  rw [State.isoEndpoints, Endpoints.set_apply]
  split
  next slot => rw [slot.1, slot.2]
  · rfl

theorem stoppedEndpoints_nextPoll {urb : PendingUrb}
    {pendingUrbs : List PendingUrb} {endpoints : Endpoints} :
    (stoppedEndpoints urb pendingUrbs endpoints true number).nextPollUs =
      (endpoints true number).nextPollUs := by
  unfold stoppedEndpoints
  split
  · rw [Endpoints.set_apply]
    split
    next slot => rw [slot.1, slot.2]
    · rfl
  · rfl

theorem Polled.completes {urb : PendingUrb} {reply : Reply} {now : Nat}
    (polled : Polled dev number s) (present : s.deviceImported = true)
    (interval : (s.endpoints true number).intervalUs =
      (loadEndpoints dev.configDesc true number).intervalUs)
    (pass : passOf s.session = some now)
    (due : (s.endpoints true urb.number).nextPollUs ≤ now)
    (answered : reply.transfer = urb.toTransfer)
    (endpoints : s'.endpoints = s.endpoints.setNextPoll urb.number
      (now + (s.endpoints true urb.number).intervalUs))
    (traced : s'.trace = s.trace ++
      [.fetched (epMasked urb.ep.toUInt8) reply.data, .retSubmit reply]) :
    Polled dev number s' := by
  have entry : (s'.endpoints true number).nextPollUs =
      if number = urb.number then now + (s.endpoints true number).intervalUs
      else (s.endpoints true number).nextPollUs := by
    rw [endpoints, Endpoints.setNextPoll, Endpoints.set_apply]
    by_cases here : number = urb.number
    · rw [if_pos ⟨rfl, here⟩, if_pos here, here]
    · rw [if_neg (fun slot => here slot.2), if_neg here]
  by_cases carried : (Event.retSubmit reply).carries number = true
  · have here : number = urb.number := by
      simp only [Event.carries, Bool.and_eq_true, decide_eq_true_eq,
        answered] at carried
      exact carried.1.2.symm
    obtain ⟨times, sent, apart, bound⟩ := polled
    rw [← here] at due
    rw [if_pos here, interval] at entry
    have before : ∀ time ∈ times,
        time + (loadEndpoints dev.configDesc true number).intervalUs ≤ now :=
      fun time member => (bound present time member).trans due
    refine ⟨times ++ [now], ?_, ?_, ?_⟩
    · rw [State.session_append traced (by simp [Event.isImported]),
        dataPasses_append, sent, List.map_append]
      change _ ++ dataPasses number (passOf s.session) _ = _
      have fetched : (Event.fetched (epMasked urb.ep.toUInt8)
          reply.data).carries number = false := rfl
      simp only [pass, dataPasses, fetched, carried, Event.passAfter, if_true,
        Bool.false_eq_true, if_false, List.map_cons, List.map_nil]
    · apply List.pairwise_append.mpr
      refine ⟨apart, List.pairwise_singleton _ _, ?_⟩
      intro time member last single
      rw [List.mem_singleton.mp single]
      exact before time member
    · intro _ time member
      rw [entry]
      rcases List.mem_append.mp member with earlier | single
      · exact (before time earlier).trans (Nat.le_add_right _ _)
      · rw [List.mem_singleton.mp single]
  · refine polled.quiet traced (by simp [Event.isImported]) ?_ ?_
    · intro event member
      simp only [List.mem_cons, List.not_mem_nil, or_false] at member
      rcases member with rfl | rfl
      · rfl
      · exact Bool.eq_false_iff.mpr carried
    · intro _
      refine ⟨present, ?_⟩
      rw [entry]
      split
      next here =>
        rw [← here] at due
        exact due.trans (Nat.le_add_right _ _)
      · exact le_rfl

theorem Polled.packs {urb : PendingUrb} {back : IsoReturn}
    {packets : List IsoPacket} {actual : List Nat} {start : State}
    (polled : Polled dev number s) (sound : Sound dev s)
    (entered : Packs s label urb back packets actual start)
    (outcome : IsoOutcome dev urb back packets actual start s') :
    Polled dev number s' := by
  obtain ⟨_, _, _, imported, trace⟩ := entered.start
  have isochronous := (entered.progress sound).isochronous
  have poll : (start.endpoints true number).nextPollUs =
      (s.endpoints true number).nextPollUs := by
    cases entered with
    | pass => rfl
    | overflow => exact State.isoEndpoints_nextPoll _ _
    | returned => rfl
  cases outcome with
  | calls packet rest =>
      have traced : (start.goto (.lock
          (.isoIn urb actual packet rest back))).trace = s.trace ++ [] := by
        simp only [State.goto, trace, List.append_nil]
      refine polled.quiet traced (by simp) (by simp) ?_
      intro present
      exact ⟨imported ▸ present, Nat.le_of_eq poll.symm⟩
  | replies lengths _ _ endpoints _ _ kept _ traced =>
      rw [trace] at traced
      refine polled.quiet traced (by simp [Event.isImported]) ?_ ?_
      · simp [Event.carries, isoReply, isochronous]
      · intro present
        rw [kept, imported] at present
        rw [endpoints, poll]
        exact ⟨present, le_rfl⟩
  | fails _ tables _ traced =>
      rw [trace] at traced
      refine polled.quiet traced (by simp [Event.isImported])
        (by simp [Event.carries]) ?_
      intro present
      rw [tables.deviceImported, imported] at present
      rw [tables.endpoints, poll]
      exact ⟨present, le_rfl⟩
  | loses absent _ _ _ _ traced =>
      rw [trace] at traced
      refine polled.quiet traced (by simp [Event.isImported])
        (by simp [Event.carries]) ?_
      intro present
      rw [absent] at present
      contradiction

theorem Polled.step (polled : Polled dev number s) (reached : Reachable dev s)
    (data : number ≠ 0) (filing : Filing dev s label s') :
    Polled dev number s' := by
  have sound := (reachable_tracked reached).sound
  cases filing with
  | handed worked =>
      obtain ⟨tables, _, _, _, events, traced, minor⟩ := worked
      exact polled.quiet traced (Event.Minor.not_imported minor)
        (Event.Minor.carries_nothing minor data) tables.nextPoll
  | stays events tables _ _ _ traced minor =>
      exact polled.quiet traced (Event.Minor.not_imported minor)
        (Event.Minor.carries_nothing minor data) tables.nextPoll
  | forgets events absent _ _ _ _ _ traced minor =>
      refine polled.quiet traced (Event.Minor.not_imported minor)
        (Event.Minor.carries_nothing minor data) ?_
      intro present
      rw [absent] at present
      contradiction
  | imports _ _ _ _ _ _ _ traced =>
      refine ⟨[], ?_, List.Pairwise.nil, by simp⟩
      rw [State.session, traced, since_concat]
      rfl
  | starts clock _ _ _ _ endpoints _ _ imported traced =>
      refine polled.quiet traced (by simp [Event.isImported])
        (by simp [Event.carries]) ?_
      intro present
      rw [endpoints]
      exact ⟨imported ▸ present, le_rfl⟩
  | takes _ command events _ _ _ _ _ endpoints _ _ imported _ _ traced minor =>
      refine polled.quiet traced ?_ ?_ ?_
      · intro event member
        rcases List.mem_cons.mp member with rfl | member
        · rfl
        · exact Event.Minor.not_imported minor event member
      · intro event member
        rcases List.mem_cons.mp member with rfl | member
        · rfl
        · exact Event.Minor.carries_nothing minor data event member
      · intro present
        rw [endpoints]
        exact ⟨imported ▸ present, le_rfl⟩
  | queues _ _ _ _ _ _ _ _ endpoints _ _ imported _ traced =>
      refine polled.quiet traced (by simp [Event.isImported])
        (by simp [Event.carries]) ?_
      intro present
      rw [endpoints]
      exact ⟨imported ▸ present, le_rfl⟩
  | unlinks _ _ _ urb events _ _ _ _ _ _ endpoints _ _ imported _ _ traced
      minor =>
      refine polled.quiet traced (Event.Minor.not_imported minor)
        (Event.Minor.carries_nothing minor data) ?_
      intro present
      rw [endpoints, stoppedEndpoints_nextPoll]
      exact ⟨imported ▸ present, le_rfl⟩
  | schedules request clock _ _ _ _ endpoints _ _ imported _ traced =>
      refine polled.quiet traced (by simp [Event.isImported])
        (by simp [Event.carries]) ?_
      intro present
      rw [endpoints, State.isoEndpoints_nextPoll]
      exact ⟨imported ▸ present, le_rfl⟩
  | packs entered outcome => exact polled.packs sound entered outcome
  | completes now index urb reply here _ _ due answered _ _ endpoints _ _ _ _
      traced =>
      obtain ⟨base, _⟩ := sound.isAttached here fun _ _ _ => id
      refine polled.completes base.imported
        (reachable_timed reached base.imported true number) ?_ due answered
        endpoints traced
      apply reachable_inPass reached
      rw [here]
      rfl

theorem reachable_polled (reachable : Reachable dev s) (data : number ≠ 0) :
    Polled dev number s := by
  refine reachable.invariant (P := Polled dev number) ?_ ?_
  · refine ⟨[], ?_, List.Pairwise.nil, by simp⟩
    simp [State.session, initial, dataPasses]
  · intro state label next reached earlier _ stepped
    exact earlier.step reached data
      (step_filing (reachable_tracked reached).sound stepped)

end

/-- For every data endpoint: any two replies with data that were sent since the
import, and the interval of an interrupt IN endpoint that is described once. -/
theorem interruptPacing {dev : UsbipDevice} {s : State} {number : Fin 16}
    (reachable : Reachable dev s) (data : number ≠ 0) :
    (∃ times : List Nat, dataPasses number none s.session = times.map some ∧
      times.Pairwise fun earlier later => earlier +
        (loadEndpoints dev.configDesc true number).intervalUs ≤ later) ∧
      ∀ index, descriptorsOf dev.configDesc true number = [index] →
        (byteAt dev.configDesc (index + 3)).toNat % 4 = usbEndpointXferInt →
        1 ≤ (byteAt dev.configDesc (index + 6)).toNat →
        (byteAt dev.configDesc (index + 6)).toNat ≤ 16 →
        (loadEndpoints dev.configDesc true number).intervalUs =
          125 * 2 ^ ((byteAt dev.configDesc (index + 6)).toNat - 1) := by
  refine ⟨?_, ?_⟩
  · obtain ⟨times, sent, apart, _⟩ := reachable_polled reachable data
    exact ⟨times, sent, apart⟩
  · intro index once kind low high
    rw [loadEndpoints_once once, kind, if_pos ⟨.inr ⟨rfl, rfl⟩, low⟩,
      Nat.min_eq_left high]

/-- A device with an interrupt IN endpoint that is polled every 125
microseconds, and the same interval in a descriptor of endpoint 0. -/
def interruptDevice : UsbipDevice where
  deviceDesc := [18, 1, 0, 2, 0, 0, 0, 64]
  configDesc :=
    [9, 2, 23, 0, 1, 1, 0, 0x40, 0] ++ [7, 5, 0x81, 3, 8, 0, 1] ++
      [7, 5, 0x80, 3, 8, 0, 1]
  langidDesc := [4, 3, 9, 4]
  usbStrings := []
  epDataCallback := false
  resetCallback := false
  isoInCallback := false

/-- Two transfers wait for data.  The first report is sent in the pass at 10,
the second one is stored at once and has to wait. -/
def reportLabels : List Label :=
  importLabels [bulkIn 1 1 8, bulkIn 2 1 8] ++
    [.wait true, .server 0, .server 0, .server 0, .wait true, .server 0,
      .server 0, .server 0, .server 0, .transmit 0 0x81 [1, 2], .post 0,
      .wait false, .server 10, .server 10, .transmit 0 0x81 [3], .post 0,
      .server 10, .server 10, .wait false, .server 135, .server 135,
      .server 135]

theorem interruptPacing_reports :
    dataPasses 1 none (stateAfter interruptDevice reportLabels).session =
        [some 10, some 135] ∧
      (∃ times : List Nat, dataPasses 1 none
          (stateAfter interruptDevice reportLabels).session = times.map some ∧
        times.Pairwise fun earlier later => earlier +
          (loadEndpoints interruptDevice.configDesc true 1).intervalUs ≤
            later) ∧
      (loadEndpoints interruptDevice.configDesc true 1).intervalUs =
        125 * 2 ^ (1 - 1) := by
  have data : (1 : Fin 16) ≠ 0 := by decide
  obtain ⟨spaced, interval⟩ := interruptPacing
    (stateAfter_reachable interruptDevice reportLabels) data
  exact ⟨by decide +kernel, spaced,
    interval 9 (by decide +kernel) (by decide) (by decide) (by decide)⟩

def twoAnswers : List Label :=
  importLabels [controlIn 1 ⟨0x80, 6, 0, 1, 0, 0, 8, 0⟩ 8,
      controlIn 2 ⟨0x80, 6, 0, 1, 0, 0, 8, 0⟩ 8] ++
    [.wait true, .server 0, .server 0, .server 0, .server 0, .server 0,
      .server 0, .wait true, .server 1, .server 1, .server 1, .server 1]

/-- Control requests are answered outside the passes, whatever interval the
device describes for endpoint 0. -/
theorem interruptPacing_control :
    Reachable interruptDevice (stateAfter interruptDevice twoAnswers) ∧
      (loadEndpoints interruptDevice.configDesc true 0).intervalUs = 125 ∧
      dataPasses 0 none (stateAfter interruptDevice twoAnswers).session =
        [none, none] ∧
      ¬ ∃ times : List Nat, dataPasses 0 none
          (stateAfter interruptDevice twoAnswers).session = times.map some ∧
        times.Pairwise fun earlier later => earlier +
          (loadEndpoints interruptDevice.configDesc true 0).intervalUs ≤
            later := by
  have outside : dataPasses 0 none
      (stateAfter interruptDevice twoAnswers).session = [none, none] := by
    decide +kernel
  refine ⟨stateAfter_reachable _ _, by decide +kernel, outside, ?_⟩
  rintro ⟨times, sent, _⟩
  rw [outside] at sent
  have absent : none ∈ times.map some := by simp [← sent]
  simp at absent

end UsbipServer
