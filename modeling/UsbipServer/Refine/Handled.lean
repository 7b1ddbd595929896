import UsbipServer.Refine.Stages

namespace UsbipServer

open Wire Library

/-! Whole runs in which a control request is handled by the stack alone. -/


/-- Where a submit is: in hand, answered, or its reply could not be written. -/
inductive Settled (request : Request) (s : State) : Prop
  | held (inHand : s.phase.held = some request)
  | replied (reply : Reply) (member : Event.retSubmit reply ∈ s.trace)
      (answered : reply.transfer = request.transfer false)
  | unsent (before after : List Event)
      (split : s.trace = before ++ .submit request :: after)
      (failed : Event.writeFailed ∈ after)

structure Handled (dev : UsbipDevice) (chosen : Request → Bool) (s : State) :
    Prop where
  running : Running s
  waits : WaitsForData s
  stage : ∀ request, s.phase.held = some request → chosen request = true →
    ControlStage dev request s.device s.phase
  replied : ∀ request reply, Event.submit request ∈ s.trace →
    chosen request = true → Event.retSubmit reply ∈ s.trace →
    reply.transfer.ticket = request.ticket → Replies dev request reply
  settled : ∀ request, Event.submit request ∈ s.trace →
    chosen request = true → Settled request s

section

variable {dev : UsbipDevice} {chosen : Request → Bool} {s s' : State}
  {label : Label} {request : Request}

theorem ControlStage.held {device : DeviceState} {phase : Phase}
    (stage : ControlStage dev request device phase) : phase.held = some request := by
  cases stage <;> rfl

theorem Settled.later {events : List Event} (settled : Settled request s)
    (away : s.phase.held ≠ some request)
    (traced : s'.trace = s.trace ++ events) : Settled request s' := by
  cases settled with
  | held inHand => exact absurd inHand away
  | replied reply member answered =>
      refine .replied reply ?_ answered
      rw [traced]
      exact List.mem_append_left _ member
  | unsent before after split failed =>
      refine .unsent before (after ++ events) ?_ (List.mem_append_left _ failed)
      rw [traced, split, List.append_assoc, List.cons_append]

theorem Event.not_reply {events : List Event}
    (silent : ∀ event ∈ events, event.isSilent = true) (reply : Reply) :
    Event.retSubmit reply ∉ events := by
  intro member
  exact absurd (silent _ member) (by simp [Event.isSilent])

theorem Event.not_submit {events : List Event}
    (silent : ∀ event ∈ events, event.isSilent = true) (other : Request) :
    Event.submit other ∉ events := by
  intro member
  exact absurd (silent _ member) (by simp [Event.isSilent])

theorem ControlStep.events (staged : ControlStep dev request s s')
    (submitted : Event.submit request ∈ s.trace) :
    ∃ events, s'.trace = s.trace ++ events ∧
      (∀ other, Event.submit other ∉ events) ∧
      (∀ reply, Event.retSubmit reply ∈ events → Replies dev request reply) ∧
      (s'.phase.held = some request ∧ ControlStage dev request s'.device s'.phase ∨
        s'.phase.held = none) ∧
      Settled request s' := by
  cases staged with
  | stays events stage traced silent =>
      refine ⟨events, traced, Event.not_submit silent, ?_,
        .inl ⟨stage.held, stage⟩, .held stage.held⟩
      intro reply member
      exact absurd member (Event.not_reply silent reply)
  | replies events reply replied held traced silent =>
      refine ⟨_, traced, ?_, ?_, .inr held, .replied reply ?_ replied.transfer⟩
      · intro other member
        simp only [List.mem_append, List.mem_singleton, reduceCtorEq, or_false]
          at member
        exact Event.not_submit silent other member
      · intro other member
        simp only [List.mem_append, List.mem_singleton,
          Event.retSubmit.injEq] at member
        rcases member with early | rfl
        · exact absurd early (Event.not_reply silent other)
        · exact replied
      · rw [traced]
        simp
  | fails events held traced silent =>
      refine ⟨_, traced, ?_, ?_, .inr held, ?_⟩
      · intro other member
        simp only [List.mem_append, List.mem_singleton, reduceCtorEq, or_false]
          at member
        exact Event.not_submit silent other member
      · intro reply member
        simp only [List.mem_append, List.mem_singleton, reduceCtorEq, or_false]
          at member
        exact absurd member (Event.not_reply silent reply)
      · obtain ⟨before, after, split⟩ := List.append_of_mem submitted
        refine .unsent before (after ++ (events ++ [.writeFailed])) ?_ ?_
        · rw [traced, split, List.append_assoc, List.cons_append]
        · simp

theorem Handled.inHand (handled : Handled dev chosen s) (numbered : Numbered dev s)
    (submitted : Event.submit request ∈ s.trace)
    (held : s.phase.held = some request) (running : Running s')
    (waits : WaitsForData s') (asked : ControlStep dev request s s') :
    Handled dev chosen s' := by
  obtain ⟨events, traced, none, replies, inHand, settled⟩ :=
    asked.events submitted
  have old : ∀ other, Event.submit other ∈ s'.trace →
      Event.submit other ∈ s.trace := by
    intro other member
    rw [traced] at member
    exact (List.mem_append.mp member).resolve_right (none other)
  refine ⟨running, waits, ?_, ?_, ?_⟩
  · intro other there asks
    rcases inHand with ⟨here, stage⟩ | away
    · obtain rfl := Option.some.inj (here.symm.trans there)
      exact stage
    · rw [away] at there
      contradiction
  · intro other reply member asks replied same
    rw [traced] at replied
    rcases List.mem_append.mp replied with before | now
    · exact handled.replied other reply (old other member) asks before same
    · have serves := replies reply now
      rw [serves.transfer] at same
      rw [← numbered.unique request other submitted (old other member) same]
      exact serves
  · intro other member asks
    by_cases same : other = request
    · rw [same]
      exact settled
    · apply (handled.settled other (old other member) asks).later ?_ traced
      rw [held]
      exact fun contrary => same (Option.some.inj contrary).symm

theorem away_unreplied {events : List Event} {reply : Reply}
    (reachable : Reachable dev s) (away : s.phase.held ≠ some request)
    (stepped : step dev s label = some s')
    (traced : s'.trace = s.trace ++ events)
    (submitted : Event.submit request ∈ s.trace)
    (control : request.ep = 0) (member : Event.retSubmit reply ∈ events) :
    reply.transfer.ticket ≠ request.ticket := by
  intro same
  have later : Reachable dev s' := .step reachable trivial stepped
  have numbered := reachable_numbered reachable
  have sound := (reachable_tracked reachable).sound
  -- the reply goes back to this submit, which is a plain control transfer
  obtain ⟨origin, known, replied⟩ := (reachable_recorded later).replies reply
    (by rw [traced]; exact List.mem_append_right _ member)
  have number : origin.ticket = request.ticket := by
    rw [replied.transfer] at same
    exact same
  obtain rfl := (reachable_numbered later).unique origin request known
    (by rw [traced]; exact List.mem_append_left _ submitted) number
  have answered := replied.transfer
  rw [Request.accepted, Request.plain_of_control control] at answered
  obtain ⟨other, transfer, held | new⟩ :=
    (step_filing sound stepped).control_reply sound traced member
      (by rw [answered]; rfl) (by rw [answered]; exact control)
  · have inHand := (reachable_recorded reachable).held other held
    rw [transfer] at same
    rw [numbered.unique other origin inHand submitted same] at held
    exact away held
  · rw [transfer] at same
    have before := (numbered.formed origin submitted).1
    have ticket : other.ticket = origin.ticket := same
    omega

structure Answerable (dev : UsbipDevice) (chosen : Request → Bool) : Prop where
  control : ∀ request, chosen request = true → request.ep = 0
  own : ∀ request, chosen request = true → request.Own dev

/-- A step while none is in hand: all it can do is to read one. -/
theorem Handled.others (handled : Handled dev chosen s)
    (answerable : Answerable dev chosen) (reachable : Reachable dev s)
    (away : ∀ request, s.phase.held = some request →
      chosen request = false)
    (running : Running s') (waits : WaitsForData s')
    (stepped : step dev s label = some s') : Handled dev chosen s' := by
  have filing := step_filing (reachable_tracked reachable).sound stepped
  have numbered := reachable_numbered reachable
  have later : Reachable dev s' := .step reachable trivial stepped
  have free : ∀ request, chosen request = true →
      s.phase.held ≠ some request := by
    intro request asks held
    rw [away request held] at asks
    contradiction
  obtain ⟨events, traced, arrivals⟩ : ∃ events,
      s'.trace = s.trace ++ events ∧
      ∀ request, Event.submit request ∈ s'.trace →
        chosen request = true →
        Event.submit request ∈ s.trace ∨
          request.ticket = s.tickets ∧ events = [.submit request] ∧
            s'.phase = .control request := by
    rcases filing.submits with
      ⟨events, traced, none, _⟩ |
        ⟨command, events, traced, none, _, _, here, rfl, tcpip, received⟩
    · refine ⟨events, traced, ?_⟩
      intro request member _
      rw [traced] at member
      exact .inl ((List.mem_append.mp member).resolve_right (none request))
    · refine ⟨_, traced, ?_⟩
      intro request member asks
      rw [traced] at member
      rcases List.mem_append.mp member with old | new
      · exact .inl old
      · rcases List.mem_cons.mp new with same | rest
        · obtain rfl := Event.submit.inj same
          obtain ⟨phase, short⟩ := wait_control received
            (answerable.control _ asks) stepped
          rw [traced] at short
          exact .inr ⟨rfl, List.append_cancel_left short, phase⟩
        · exact absurd rest (none request)
  refine ⟨running, waits, ?_, ?_, ?_⟩
  · intro request held asks
    rcases arrivals request ((reachable_recorded later).held request held) asks
      with old | ⟨_, _, phase⟩
    · rcases (filing.held_cases held).2 with
        ⟨before, _⟩ | ⟨_, _, _, _, _, rfl, _⟩
      · exact absurd before (free request asks)
      · have before := (numbered.formed _ old).1
        exact absurd before (Nat.lt_irrefl _)
    · rw [phase]
      exact .control
  · intro request reply member asks replied same
    rw [traced] at replied
    rcases arrivals request member asks with old | ⟨ticket, single, _⟩
    · rcases List.mem_append.mp replied with before | now
      · exact handled.replied request reply old asks before same
      · exact absurd same (away_unreplied reachable (free request asks)
          stepped traced old (answerable.control request asks) now)
    · rw [single] at replied
      have before := (List.mem_append.mp replied).resolve_right (by simp)
      obtain ⟨origin, known, answers⟩ :=
        (reachable_recorded reachable).replies reply before
      rw [answers.transfer] at same
      have earlier := (numbered.formed origin known).1
      have number : origin.ticket = request.ticket := same
      omega
  · intro request member asks
    rcases arrivals request member asks with old | ⟨_, _, phase⟩
    · exact (handled.settled request old asks).later (free request asks) traced
    · exact .held (by rw [phase]; rfl)

theorem reached_handled (answerable : Answerable dev chosen)
    (reached : (server dev).Reaches
      (fun s label => aloneFor chosen s label = true) initial s) :
    Handled dev chosen s := by
  refine reached.invariant (P := Handled dev chosen) ?_ ?_
  · refine ⟨?_, ?_, ?_, ?_, ?_⟩
    · intro stopped
      contradiction
    · intro thread call blocked
      contradiction
    · intro request held
      contradiction
    · intro request reply member
      contradiction
    · intro request member
      contradiction
  · intro state label next before handled alone stepped
    have reachable : Reachable dev state := .of_allowed before
    have sound := (reachable_tracked reachable).sound
    have running := handled.running.step sound stepped
    have waits := handled.waits.step sound stepped
    by_cases asked : ∃ request, state.phase.held = some request ∧
        chosen request = true
    · obtain ⟨request, held, asks⟩ := asked
      exact handled.inHand (reachable_numbered reachable)
        ((reachable_recorded reachable).held request held) held running waits
        ((handled.stage request held asks).step asks
          (answerable.own request asks) handled.running handled.waits alone
          stepped)
    · refine handled.others answerable reachable ?_ running waits stepped
      intro request held
      apply Bool.eq_false_iff.mpr
      exact fun asks => asked ⟨request, held, asks⟩

/-! The server thread needs no one to finish its answer. -/

/-- How many sections of the server thread are left, up to the callback if
there is one. -/
def Phase.sectionsLeft : Phase → Nat
  | .control _ => 4
  | .answer _ _ => 3
  | .fetchAnswered _ _ => 2
  | .fetchReply _ _ _ => 1
  | _ => 0

theorem Phase.sectionsLeft_le (phase : Phase) : phase.sectionsLeft ≤ 4 := by
  cases phase <;> simp [Phase.sectionsLeft]

def Phase.callsBack : Phase → Bool
  | .lock (.control _) => true
  | .callback _ _ (.control _) => true
  | _ => false

theorem ControlStage.callback_of_callsBack
    (stage : ControlStage dev request s.device s.phase)
    (waits : s.phase.callsBack = true) :
    ∃ configurationValue,
      request.action dev configurationValue = .callback := by
  generalize s.phase = phase at stage waits
  cases stage with
  | lock value does => exact ⟨value, does⟩
  | callback value _ _ does => exact ⟨value, does⟩
  | _ => simp [Phase.callsBack] at waits

theorem finishControl_sectionsLeft (supported : Bool) (txLength : Nat)
    (s : State) :
    (finishControl request supported txLength s).phase.sectionsLeft = 0 := by
  unfold finishControl
  split
  · rfl
  · split <;> rfl

theorem controlHandled_sectionsLeft (supported : Bool) (s : State) :
    (controlHandled request supported s).phase.sectionsLeft ≤ 2 := by
  unfold controlHandled
  split
  · exact le_rfl
  · rw [finishControl_sectionsLeft]
    exact Nat.zero_le 2

theorem ControlStage.advances (clock : Nat)
    (stage : ControlStage dev request s.device s.phase)
    (alone : s.phase.callsBack = false) :
    ∃ next, UsbipServer.step dev s (.server clock) = some next ∧
      next.phase.sectionsLeft < s.phase.sectionsLeft := by
  generalize here : s.phase = phase at stage alone
  cases stage with
  | control =>
      simp only [UsbipServer.step, serverStep, here]
      split
      · exact ⟨_, rfl, Nat.lt_succ_self 3⟩
      · exact ⟨_, rfl, Nat.zero_lt_succ 3⟩
      · exact ⟨_, rfl, Nat.lt_of_le_of_lt (controlHandled_sectionsLeft _ _)
          (show 2 < 4 by decide)⟩
      · exact ⟨_, rfl, Nat.lt_of_le_of_lt (controlHandled_sectionsLeft _ _)
          (show 2 < 4 by decide)⟩
  | answer =>
      simp only [UsbipServer.step, serverStep, here]
      exact ⟨_, rfl, Nat.lt_succ_of_le (controlHandled_sectionsLeft _ _)⟩
  | lock | callback => simp [Phase.callsBack] at alone
  | fetchAnswered =>
      simp only [UsbipServer.step, serverStep, here]
      exact ⟨_, rfl, Nat.lt_succ_self 1⟩
  | fetchReply =>
      simp only [UsbipServer.step, serverStep, here]
      refine ⟨_, rfl, ?_⟩
      rw [finishControl_sectionsLeft]
      exact Nat.zero_lt_one

/-- The request was replied to, or a write failed after it was read. -/
def Concluded (request : Request) (s : State) : Prop :=
  (∃ reply, Event.retSubmit reply ∈ s.trace ∧
      reply.transfer = request.transfer false) ∨
    ∃ before after, s.trace = before ++ .submit request :: after ∧
      Event.writeFailed ∈ after

theorem Settled.reply_or_failure (settled : Settled request s)
    (away : s.phase.held ≠ some request) : Concluded request s := by
  cases settled with
  | held inHand => exact absurd inHand away
  | replied reply member answered => exact .inl ⟨reply, member, answered⟩
  | unsent before after split failed => exact .inr ⟨before, after, split, failed⟩

/-- At most four sections lead to the reply, or to the callback. -/
theorem handled_progress (clock : Nat) (answerable : Answerable dev chosen)
    (reached : (server dev).Reaches
      (fun s label => aloneFor chosen s label = true) initial s)
    (submitted : Event.submit request ∈ s.trace)
    (asks : chosen request = true) :
    ∃ count final, count ≤ s.phase.sectionsLeft ∧
      (server dev).run s (List.replicate count (.server clock)) = some final ∧
      (final.phase.held ≠ some request ∧ Settled request final ∨
        final.phase.callsBack = true ∧
          ControlStage dev request final.device final.phase) := by
  induction left : s.phase.sectionsLeft using Nat.strong_induction_on
    generalizing s with
  | h left induction =>
      have handled := reached_handled answerable reached
      by_cases held : s.phase.held = some request
      · have stage := handled.stage request held asks
        cases waits : s.phase.callsBack with
        | true =>
            exact ⟨0, s, Nat.zero_le _, rfl, .inr ⟨waits, stage⟩⟩
        | false =>
            obtain ⟨next, stepped, fewer⟩ := stage.advances clock waits
            have alone : aloneFor chosen s (.server clock) = true := rfl
            have further : (server dev).Reaches
                (fun s label => aloneFor chosen s label = true) initial next :=
              .step reached alone stepped
            obtain ⟨events, traced, _⟩ :=
              (stage.step asks (answerable.own request asks) handled.running
                handled.waits alone stepped).events submitted
            have known : Event.submit request ∈ next.trace := by
              rw [traced]
              exact List.mem_append_left _ submitted
            obtain ⟨count, final, few, executed, ended⟩ :=
              induction _ (left ▸ fewer) further known rfl
            refine ⟨count + 1, final, by omega, ?_, ended⟩
            have first : (server dev).step s (.server clock) = some next :=
              stepped
            rw [List.replicate_succ]
            simp only [Machine.run]
            rw [first]
            exact executed
      · exact ⟨0, s, Nat.zero_le _, rfl,
          .inl ⟨held, handled.settled request submitted asks⟩⟩

theorem handled_answers (clock : Nat) (answerable : Answerable dev chosen)
    (reached : (server dev).Reaches
      (fun s label => aloneFor chosen s label = true) initial s)
    (submitted : Event.submit request ∈ s.trace)
    (asks : chosen request = true)
    (itself : ∀ configurationValue,
      request.action dev configurationValue ≠ .callback) :
    ∃ count final, count ≤ 4 ∧
      (server dev).run s (List.replicate count (.server clock)) = some final ∧
      Concluded request final := by
  obtain ⟨count, final, few, executed, ended⟩ :=
    handled_progress clock answerable reached submitted asks
  refine ⟨count, final, few.trans (Phase.sectionsLeft_le _), executed, ?_⟩
  rcases ended with ⟨away, settled⟩ | ⟨waits, stage⟩
  · exact settled.reply_or_failure away
  · obtain ⟨value, does⟩ := stage.callback_of_callsBack waits
    exact absurd does (itself value)

/-- No application thread transmits on endpoint 0 while the server thread
answers this request. -/
def answeredAlone (request : Request) : State → Label → Bool :=
  aloneFor fun other => other = request

theorem answerable_single (control : request.ep = 0)
    (own : request.Own dev) :
    Answerable dev fun other => decide (other = request) := by
  refine ⟨?_, ?_⟩
  · intro other same
    rw [of_decide_eq_true same]
    exact control
  · intro other same
    rw [of_decide_eq_true same]
    exact own

end

end UsbipServer
