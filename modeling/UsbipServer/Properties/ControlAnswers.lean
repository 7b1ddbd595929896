import UsbipServer.Refine.Calls
import UsbipServer.Refine.Filing

namespace UsbipServer

open Wire Library

/-! What a transmit on endpoint 0 stored is only sent in the reply to the
control request that was being answered then. -/

/-- No cell was stored by a transmit. -/
def Unstored (cells : List Cell) : Prop :=
  ∀ cell ∈ cells, cell.origin = none

/-- What was collected for an isochronous reply came from its callback. -/
def IsoUnstored (s : State) : Prop :=
  ∀ actual, s.phase.isoLengths = some actual →
    Unstored (s.txBuffer.slice 0 actual.sum)

/-- Work that ends away from control requests and isochronous replies and sends
none of the latter. -/
structure Away (s s' : State) : Prop where
  answering : s'.phase.answering = none
  lengths : s'.phase.isoLengths = none
  trace : ∃ events, s'.trace = s.trace ++ events ∧
    ∀ event ∈ events, event.isIsoReply = false

/-- What a step does to the control request that is being answered and to the
isochronous reply that is being collected. -/
inductive Turn (dev : UsbipDevice) (s : State) : State → Prop
  | away {s' : State} (works : Away s s') : Turn dev s s'
  | stays {s' : State} (events : List Event)
      (answering : s'.phase.answering = s.phase.answering)
      (lengths : s'.phase.isoLengths = s.phase.isoLengths)
      (txBuffer : s'.txBuffer = s.txBuffer)
      (traced : s'.trace = s.trace ++ events)
      (apart : ∀ event ∈ events,
        event.isIsoReply = false ∧ event.isControl = false) : Turn dev s s'
  | begins {s' : State} (request : Request)
      (answering : s'.phase.answering = some request)
      (lengths : s'.phase.isoLengths = none)
      (traced : s'.trace = s.trace ++ [.control request]) : Turn dev s s'
  | isochronous {urb : PendingUrb} {back : IsoReturn}
      {packets : List IsoPacket} {actual : List Nat} {start s' : State}
      (outcome : IsoOutcome dev urb back packets actual start s')
      (trace : start.trace = s.trace)
      (unstored : urb.direction ≠ 0 →
        Unstored (start.txBuffer.slice 0 actual.sum)) : Turn dev s s'

namespace Away

variable {s start s' : State}

theorem same (answering : s'.phase.answering = none)
    (lengths : s'.phase.isoLengths = none) (trace : s'.trace = s.trace) :
    Away s s' :=
  ⟨answering, lengths, [], by simp [trace], by simp⟩

theorem event {event : Event} (answering : s'.phase.answering = none)
    (lengths : s'.phase.isoLengths = none)
    (trace : s'.trace = s.trace ++ [event])
    (apart : event.isIsoReply = false) : Away s s' :=
  ⟨answering, lengths, [event], trace, by simpa using apart⟩

theorem after {events : List Event} (away : Away start s')
    (trace : start.trace = s.trace ++ events)
    (apart : ∀ event ∈ events, event.isIsoReply = false) : Away s s' := by
  obtain ⟨answering, lengths, more, continued, alsoApart⟩ := away
  refine ⟨answering, lengths, events ++ more, ?_, ?_⟩
  · rw [continued, trace, List.append_assoc]
  · intro event member
    rcases List.mem_append.mp member with member | member
    · exact apart event member
    · exact alsoApart event member

theorem from_eq (away : Away start s') (trace : start.trace = s.trace) :
    Away s s' := by
  have extended : start.trace = s.trace ++ [] := by simp [trace]
  exact away.after extended (by simp)

end Away

section

variable {dev : UsbipDevice} {s s' : State}

theorem finishSubmit_away (request : Request) (urbStatus : UInt32)
    (actualLength : Nat) (sendData : Bool) (s : State) :
    Away s (finishSubmit request urbStatus actualLength sendData s) := by
  refine .event rfl rfl rfl ?_
  split <;> rfl

def Task.isPlain : Task → Bool
  | .control _ _ => false
  | .collect _ _ _ _ => false
  | _ => true

theorem Ends.away {task : Task} (ends : Ends dev s task s')
    (plain : task.isPlain = true) : Away s s' := by
  cases ends with
  | control | receives | delivers | delivered | detached =>
      exact .same rfl rfl rfl
  | ignored | overflows | received => exact finishSubmit_away _ _ _ _ s
  | queued | attached | unattached => exact .event rfl rfl rfl rfl
  | _ => simp [Task.isPlain] at plain

theorem Elsewhere.turn (elsewhere : Elsewhere s s') : Turn dev s s' := by
  obtain ⟨events, traced, transmit⟩ := elsewhere.trace
  refine .stays events ?_ ?_ ?_ traced ?_
  · rw [elsewhere.phase]
  · rw [elsewhere.phase]
  · rw [elsewhere.rest]
  · intro event member
    exact Event.apart_of_transmit (transmit event member)

theorem Turn.quiet (answering : s'.phase.answering = s.phase.answering)
    (lengths : s'.phase.isoLengths = s.phase.isoLengths)
    (txBuffer : s'.txBuffer = s.txBuffer) (trace : s'.trace = s.trace) :
    Turn dev s s' :=
  .stays [] answering lengths txBuffer (by simp [trace]) (by simp)

theorem Unstored.nothing (txBuffer : Buffer Cell) :
    Unstored (txBuffer.slice 0 ([] : List Nat).sum) := by
  intro cell member
  simp at member

theorem Unstored.write {txBuffer : Buffer Cell} {total length : Nat}
    {written : List Byte} (unstored : Unstored (txBuffer.slice 0 total))
    (enough : length ≤ written.length) :
    Unstored ((txBuffer.write total
      (written.map fun byte => ⟨byte, none⟩)).slice 0 (total + length)) := by
  intro cell member
  rw [Buffer.slice_add, Buffer.slice_write_before _ _ (by omega)] at member
  rcases List.mem_append.mp member with early | late
  · exact unstored cell early
  · have read := Buffer.slice_write txBuffer
      (written.map fun byte => (⟨byte, none⟩ : Cell)) total 0 length
      (by simpa using enough)
    rw [Nat.zero_add] at late
    rw [Nat.add_zero] at read
    rw [read] at late
    obtain ⟨byte, _, rfl⟩ :=
      List.mem_map.mp (List.mem_of_mem_drop (List.mem_of_mem_take late))
    rfl

theorem callback_turn {next : Continuation} {made length : Nat}
    {written : List Byte} (here : s.phase = .callback none made next)
    (unstored : IsoUnstored s)
    (reported : writesReported s (.callbackReturn written length) = true)
    (ends : Ends dev
      { s with
        receiveLock := none
        txBuffer := next.fill written s.txBuffer } (next.task length) s') :
    Turn dev s s' := by
  cases next with
  | control request =>
      cases ends with
      | fetches =>
          refine .quiet ?_ ?_ rfl rfl
          · simp [here, Phase.answering]
          · simp [here, Phase.isoLengths]
      | answered => exact .away ((finishSubmit_away _ _ _ _ _).from_eq rfl)
  | receive request => exact .away ((ends.away rfl).from_eq rfl)
  | isoOut request packet rest => exact .away ((ends.away rfl).from_eq rfl)
  | isoIn urb actual packet rest back =>
      simp only [writesReported, here, decide_eq_true_eq] at reported
      have collected : Unstored (s.txBuffer.slice 0 actual.sum) :=
        unstored actual (by simp [here, Phase.isoLengths])
      refine .isochronous ends.outcome rfl ?_
      intro _
      rw [List.sum_append, List.sum_singleton]
      exact collected.write reported
  | reset reason => exact .away ((ends.away rfl).from_eq rfl)

theorem Transition.turn {label : Label} (unstored : IsoUnstored s)
    (reported : writesReported s label = true)
    (moved : Transition dev s label s') : Turn dev s s' := by
  have elsewhere : label.isThread = true → Turn dev s s' :=
    fun kind => (moved.elsewhere kind).turn
  cases moved with
  | submits tcpip command here imported running received plain ends =>
      exact .away ((ends.away rfl).after rfl (by simp [Event.isIsoReply]))
  | submitsIso tcpip command here imported running received paced ends =>
      exact .away ((ends.away rfl).after rfl (by simp [Event.isIsoReply]))
  | misses | cancels =>
      refine .away (Away.after (.event rfl rfl rfl ?_) rfl
        (by simp [Event.isIsoReply]))
      split <;> rfl
  | controlAnswers clock request data here =>
      exact .begins request rfl rfl rfl
  | controlCalls clock request here => exact .begins request rfl rfl rfl
  | controls clock request supported here action ends =>
      cases ends with
      | fetches => exact .begins request rfl rfl rfl
      | answered =>
          exact .away ((finishSubmit_away _ _ _ _ _).after rfl
            (by simp [Event.isIsoReply]))
  | answers clock request data here ran ends =>
      have apart := fun event member =>
        Event.apart_of_transmit (ran.transmits event member)
      cases ends with
      | fetches =>
          refine .stays _ ?_ ?_ rfl rfl apart
          · simp [here, Phase.answering]
          · simp [here, Phase.isoLengths]
      | answered =>
          exact .away ((finishSubmit_away _ _ _ _ _).after rfl
            fun event member => (apart event member).1)
  | takesAnswer clock request supported here =>
      refine .quiet ?_ ?_ rfl rfl
      · simp [here, Phase.answering]
      · simp [here, Phase.isoLengths]
  | fetches =>
      exact .away ((finishSubmit_away _ _ _ _ _).after rfl
        (by simp [Event.isIsoReply]))
  | overflows clock request here full ends =>
      exact .isochronous ends.outcome rfl fun _ => Unstored.nothing _
  | collects clock now index urb here filed isochronous due ends =>
      exact .isochronous ends.outcome rfl fun _ => Unstored.nothing _
  | enters clock next here =>
      refine .stays _ ?_ ?_ rfl rfl (by simp [Event.isIsoReply, Event.isControl])
      · cases next <;> simp [here, Phase.answering]
      · cases next <;> simp [here, Phase.isoLengths]
  | posts clock call made next here =>
      refine .stays _ ?_ ?_ rfl rfl (by simp [Event.isIsoReply, Event.isControl])
      · cases next <;> simp [here, Phase.answering]
      · cases next <;> simp [here, Phase.isoLengths]
  | completes clock now index urb tcpip here filed plain =>
      exact .away (Away.after (.event rfl rfl rfl plain) rfl
        (by simp [Event.isIsoReply]))
  | breaks clock now index urb =>
      refine .away ⟨rfl, rfl,
        [.fetched (epMasked urb.ep.toUInt8) (s.available urb), .writeFailed,
          .lost], ?_, by simp [Event.isIsoReply]⟩
      simp [lostConnection, State.fetching, State.available]
  | resetEnds clock reason here uncalled ends =>
      exact .away ((ends.away rfl).from_eq rfl)
  | callbackTransmits ep data made next here ran =>
      refine .stays _ ?_ ?_ rfl rfl fun event member =>
        Event.apart_of_transmit (ran.transmits event member)
      · cases next <;> simp [here, Phase.answering]
      · cases next <;> simp [here, Phase.isoLengths]
  | returns written length made next here fits ends =>
      exact callback_turn here unstored reported ends
  | interrupts => exact .quiet rfl rfl rfl rfl
  | transmits | wakes | threadPosts | locks | unlocks => exact elsewhere rfl
  | schedules | starts | loses | skips | resets | stops =>
      exact .away (.event rfl rfl rfl rfl)
  | _ => exact .away (.same rfl rfl rfl)

theorem step_turn {label : Label} (unstored : IsoUnstored s)
    (reported : writesReported s label = true)
    (stepped : step dev s label = some s') : Turn dev s s' :=
  (step_transition stepped).turn unstored reported

end

/-- The request that is being answered is the last one that was started. -/
def LastControl (s : State) : Prop :=
  ∀ request, s.phase.answering = some request →
    ∃ front, s.trace =
      front ++ .control request :: since Event.isControl s.trace

section

variable {dev : UsbipDevice} {s s' : State}

theorem Turn.lastControl (turn : Turn dev s s') (last : LastControl s) :
    LastControl s' := by
  intro request answering
  cases turn with
  | away works => simp [works.answering] at answering
  | stays events same lengths txBuffer traced apart =>
      rw [same] at answering
      obtain ⟨front, earlier⟩ := last request answering
      have quiet : ∀ event ∈ events, event.isControl = false :=
        fun event member => (apart event member).2
      refine ⟨front, ?_⟩
      rw [traced, since_append Event.isControl _ _ quiet]
      calc s.trace ++ events
          = (front ++ .control request :: since Event.isControl s.trace) ++
              events := by rw [← earlier]
        _ = _ := by simp
  | begins started here lengths traced =>
      rw [here] at answering
      obtain rfl := Option.some.inj answering
      refine ⟨s.trace, ?_⟩
      rw [traced, since_concat]
      rfl
  | @isochronous urb back _ _ _ _ outcome =>
      cases outcome with
      | calls => contradiction
      | replies _ _ _ _ _ _ _ there =>
          rw [there] at answering
          cases back <;> contradiction
      | fails _ _ there =>
          rw [there] at answering
          contradiction
      | loses _ _ _ _ there =>
          rw [there] at answering
          contradiction

theorem Turn.isoUnstored (turn : Turn dev s s') (unstored : IsoUnstored s) :
    IsoUnstored s' ∧ ∃ events, s'.trace = s.trace ++ events ∧
      ∀ reply, Event.retSubmit reply ∈ events →
        reply.transfer.isochronous = true → Unstored reply.data := by
  have none : ∀ {events : List Event},
      (∀ event ∈ events, event.isIsoReply = false) →
      ∀ reply, Event.retSubmit reply ∈ events →
        reply.transfer.isochronous = true → Unstored reply.data := by
    intro events apart reply member isochronous
    have plain : reply.transfer.isochronous = false := apart _ member
    rw [isochronous] at plain
    contradiction
  cases turn with
  | away works =>
      obtain ⟨_, away, events, traced, apart⟩ := works
      refine ⟨?_, events, traced, none apart⟩
      intro actual collecting
      simp [away] at collecting
  | stays events answering same txBuffer traced apart =>
      refine ⟨?_, events, traced, none fun event member =>
        (apart event member).1⟩
      intro actual collecting
      rw [txBuffer]
      rw [same] at collecting
      exact unstored actual collecting
  | begins request answering away traced =>
      refine ⟨?_, _, traced, none (by simp [Event.isIsoReply])⟩
      intro actual collecting
      simp [away] at collecting
  | @isochronous urb back _ _ start _ outcome trace collected =>
      cases outcome with
      | calls packet rest split inward callback =>
          refine ⟨?_, [], by simp [trace], by simp⟩
          intro others collecting
          obtain rfl := Option.some.inj collecting
          exact collected inward
      | replies lengths complete _ _ _ _ _ there traced =>
          refine ⟨?_, _, trace ▸ traced, ?_⟩
          · intro actual collecting
            rw [there] at collecting
            cases back <;> contradiction
          · intro reply member _ cell inside
            obtain rfl := Event.retSubmit.inj (List.mem_singleton.mp member)
            by_cases inward : urb.direction ≠ 0
            · simp only [isoReply, if_pos inward, complete.sum_eq inward]
                at inside
              exact collected inward cell inside
            · simp [isoReply, inward] at inside
      | fails _ _ there traced =>
          refine ⟨?_, _, trace ▸ traced, by simp⟩
          intro actual collecting
          rw [there] at collecting
          contradiction
      | loses _ _ _ _ there traced =>
          refine ⟨?_, _, trace ▸ traced, by simp⟩
          intro actual collecting
          rw [there] at collecting
          contradiction

end

/-- The cells an event takes out of an endpoint buffer or sends. -/
def Event.carried : Event → List Cell
  | .fetched _ data => data
  | .retSubmit reply => reply.data
  | _ => []

/-- An event of the reply to a control request: its fetch, or the reply. -/
def Event.isPartOf (request : Request) : Event → Prop
  | .fetched endpoint _ => endpoint = 0
  | .retSubmit reply => reply.transfer = request.transfer false
  | _ => False

/-- The call stored its data after the last clearing step, which was that of
the request. -/
def StoredFor (request : Request) (call : Call) (before : List Event) : Prop :=
  ∃ front middle, before = front ++ .control request :: middle ∧
    (∀ event ∈ middle, event.isControl = false) ∧ Event.stored call ∈ middle

/-- Whatever a transmit on endpoint 0 stored is only fetched and sent for the
control request that was being answered when it was stored. -/
def AnswersKept (s : State) : Prop :=
  ∀ before event after call cell, s.trace = before ++ event :: after →
    Event.entered call ∈ before → call.endpoint = 0 →
    cell ∈ event.carried → cell.origin = some call.id →
    ∃ request, request.ep = 0 ∧ event.isPartOf request ∧
      StoredFor request call before

section

variable {dev : UsbipDevice} {s s' : State} {ep : Byte} {length : Nat}
  {transfer : Transfer} {call : Call} {cell : Cell}

theorem not_isControl_of_mem_since {trace : List Event} {event : Event}
    (member : event ∈ since Event.isControl trace) :
    event.isControl = false := by
  have passed := List.mem_rtakeWhile_imp member
  simpa using passed

theorem FetchSource.answers (source : FetchSource s ep length transfer)
    (reachable : Reachable dev s) (last : LastControl s)
    (apart : ∀ urb ∈ s.pendingUrbs, urb.awaits 0 = false)
    (fetched : cell ∈ (s.device.usbipDeviceFetchEpData ep length).1)
    (origin : cell.origin = some call.id)
    (entered : Event.entered call ∈ s.trace) (control : call.endpoint = 0) :
    ∃ request, request.ep = 0 ∧ epMasked ep = 0 ∧
      transfer = request.transfer false ∧ StoredFor request call s.trace := by
  obtain ⟨log, run, _⟩ := reachable_logged reachable
  have mailbox := reachable_mailbox reachable
  have held : cell ∈ s.device.endpointData (epMasked ep) :=
    List.mem_of_mem_take fetched
  have same : ∀ other, Event.stored other ∈ s.trace → cell ∈ other.cells →
      call = other := by
    intro other stored inside
    rw [Call.origin_of_mem_cells inside] at origin
    exact CallLog.stored_unique run stored entered (Option.some.inj origin).symm
  cases source with
  | control request here number inward =>
      obtain ⟨front, split⟩ := last request (by simp [here, Phase.answering])
      obtain ⟨other, stored, _, inside⟩ :=
        Mailbox.origin Mailbox.control_clears mailbox cell held
      have before : Event.stored other ∈ s.trace := by
        rw [split]
        simp [stored]
      obtain rfl := same other before inside
      exact ⟨request, number, rfl, rfl, front, _, split,
        fun _ => not_isControl_of_mem_since, stored⟩
  | pending now index urb here filed due plain =>
      have long : 0 < urb.transferBufferLength.toNat := by
        refine Nat.pos_of_ne_zero ?_
        intro zero
        rw [DeviceState.fetched_eq_nil_iff.mpr (.inl zero)] at fetched
        simp at fetched
      obtain ⟨other, stored, number, inside⟩ :=
        Mailbox.origin (Mailbox.reset_clears _) mailbox cell held
      have before : Event.stored other ∈ s.trace :=
        (List.rtakeWhile_suffix _ _).subset stored
      obtain rfl := same other before inside
      rw [epMasked_toUInt8, control] at number
      have aliased : urb.awaits 0 = true :=
        Transfer.awaits_iff.mpr ⟨plain, long, number.symm⟩
      rw [apart urb (List.mem_of_getElem? filed)] at aliased
      contradiction

theorem Acts.fetch {before after : List Event} {endpoint : Fin 16}
    {data : List Cell} (acted : Acts s s')
    (traced : s'.trace = s.trace ++ (before ++ .fetched endpoint data :: after)) :
    before = [] ∧ ∃ ep length transfer, FetchSource s ep length transfer ∧
      endpoint = epMasked ep ∧
      data = (s.device.usbipDeviceFetchEpData ep length).1 := by
  rcases acted with ⟨middle, performed, apart, _⟩ | fetches
  · obtain ⟨early, recorded, side⟩ := performed.recorded
    obtain ⟨late, continued, quiet⟩ := apart.trace
    rw [continued, recorded, List.append_assoc] at traced
    have member : Event.fetched endpoint data ∈ early ++ late := by
      rw [List.append_cancel_left traced]
      simp
    rcases List.mem_append.mp member with member | member
    · rcases side with rfl | side
      · simp at member
      · exact absurd (side _ member) (by simp [Event.isDeviceSide])
    · exact absurd (quiet _ member) (by simp [Event.isQuiet, Event.isSession])
  · obtain ⟨_, _, _, _, ep, length, transfer, later, source, _, recorded,
      follow⟩ := fetches
    rw [recorded] at traced
    have told := List.append_cancel_left traced
    cases before with
    | nil =>
        obtain ⟨same, _⟩ := List.cons.inj told
        obtain ⟨rfl, rfl⟩ := Event.fetched.inj same
        exact ⟨rfl, ep, length, transfer, source, rfl, rfl⟩
    | cons first before =>
        have member : Event.fetched endpoint data ∈ later := by
          rw [(List.cons.inj told).2]
          simp
        rcases follow with ⟨reply, rfl, _⟩ | ⟨quiet, _⟩
        · simp at member
        · exact absurd (quiet _ member)
            (by simp [Event.isQuiet, Event.isSession])

theorem StoredFor.later {request : Request} {before more : List Event}
    (stored : StoredFor request call before)
    (quiet : ∀ event ∈ more, event.isControl = false) :
    StoredFor request call (before ++ more) := by
  obtain ⟨front, middle, rfl, apart, member⟩ := stored
  refine ⟨front, middle ++ more, by simp, ?_, List.mem_append_left _ member⟩
  intro event inside
  rcases List.mem_append.mp inside with inside | inside
  · exact apart event inside
  · exact quiet event inside

private theorem singleton_before {first last : Event} {before after : List Event}
    (split : before ++ last :: after = [first, last]) (different : last ≠ first) :
    before = [first] := by
  cases before with
  | nil => exact absurd (List.cons.inj split).1 different
  | cons event before =>
      obtain ⟨rfl, rest⟩ := List.cons.inj split
      cases before with
      | nil => rfl
      | cons event before =>
          have long := congrArg List.length (List.cons.inj rest).2
          simp at long

theorem AnswersKept.step (kept : AnswersKept s) (reachable : Reachable dev s)
    (last : LastControl s)
    (apart : ∀ urb ∈ s.pendingUrbs, urb.awaits 0 = false) (acted : Acts s s')
    {events : List Event} (traced : s'.trace = s.trace ++ events)
    (isochronous : ∀ reply, Event.retSubmit reply ∈ events →
      reply.transfer.isochronous = true → Unstored reply.data) :
    AnswersKept s' := by
  intro before event after call cell split entered control carried origin
  rw [traced] at split
  rcases extended_split split with ⟨rest, old⟩ | ⟨recent, rfl, new⟩
  · exact kept before event rest call cell old entered control carried origin
  · cases event with
    | fetched endpoint data =>
        rw [new] at traced
        obtain ⟨rfl, ep, length, transfer, source, rfl, rfl⟩ :=
          acted.fetch traced
        rw [List.append_nil] at entered ⊢
        obtain ⟨request, number, masked, _, stored⟩ :=
          source.answers reachable last apart carried origin entered control
        exact ⟨request, number, masked, stored⟩
    | retSubmit reply =>
        have member : Event.retSubmit reply ∈ events := by
          rw [new]
          simp
        cases kind : reply.transfer.isochronous with
        | true =>
            have unstored := isochronous reply member kind cell carried
            rw [unstored] at origin
            contradiction
        | false =>
            obtain ⟨ep, length, source, fetched, whole⟩ :=
              acted.data_reply traced member kind (List.ne_nil_of_mem carried)
            rw [whole] at new
            obtain rfl := singleton_before new.symm (by simp)
            have known : Event.entered call ∈ s.trace := by
              simpa using entered
            have inside : cell ∈
                (s.device.usbipDeviceFetchEpData ep length).1 := by
              rw [← fetched]
              exact carried
            obtain ⟨request, number, _, same, stored⟩ :=
              source.answers reachable last apart inside origin known control
            exact ⟨request, number, same, stored.later (by simp [Event.isControl])⟩
    | _ => simp [Event.carried] at carried

/-- In every run in which no transfer is pending that is served from the buffer
of endpoint 0, and in which the isochronous IN callback writes what it
reports, control answers stay with their request. -/
theorem controlAnswers
    (reached : (server dev).Reaches
      (fun s label => (servedApart s && writesReported s label) = true)
      initial s) : AnswersKept s := by
  have whole : LastControl s ∧ IsoUnstored s ∧ AnswersKept s := by
    refine reached.invariant
      (P := fun s => LastControl s ∧ IsoUnstored s ∧ AnswersKept s) ?_ ?_
    · refine ⟨?_, ?_, ?_⟩
      · intro request answering
        simp [initial, Phase.answering] at answering
      · intro actual collecting
        simp [initial, Phase.isoLengths] at collecting
      · intro before event after call cell split
        simp [initial] at split
    · intro state label next before earlier allowed stepped
      obtain ⟨last, unstored, kept⟩ := earlier
      rw [Bool.and_eq_true] at allowed
      have reachable := Reachable.of_allowed before
      have apart : ∀ urb ∈ state.pendingUrbs, urb.awaits 0 = false := by
        simpa [servedApart] using allowed.1
      have turn : Turn dev state next := step_turn unstored allowed.2 stepped
      have acted : Acts state next :=
        step_acts (reachable_tracked reachable).sound stepped
      obtain ⟨alsoUnstored, events, traced, isochronous⟩ :=
        turn.isoUnstored unstored
      exact ⟨turn.lastControl last, alsoUnstored,
        kept.step reachable last apart acted traced isochronous⟩
  exact whole.2.2

end

def descriptorLabels : List Label :=
  importLabels [controlIn 1 ⟨0x80, 6, 0, 1, 0, 0, 8, 0⟩ 8] ++
    [.wait true, .server 0, .server 0, .server 0, .server 0]

def descriptorAnswered : State :=
  allowedAfter sampleDevice
    (fun s label => servedApart s && writesReported s label)
    initial descriptorLabels

theorem controlAnswers_descriptor :
    (descriptorAnswered.trace.getLast?.map fun event =>
        event.carried.map Cell.origin) = some (List.replicate 8 (some 0)) ∧
      AnswersKept descriptorAnswered :=
  ⟨by decide +kernel, controlAnswers (allowedAfter_reached _ _ _ _)⟩

/-- A transfer on endpoint 16 takes what was stored for endpoint 0. -/
def strayAnswerLabels : List Label :=
  importLabels [bulkIn 1 16 8] ++
    [.wait true, .server 0, .server 0, .server 0, .transmit 0 0 [0xaa],
      .wait false, .server 0, .server 0]

theorem controlAnswers_stray :
    Reachable sampleDevice (stateAfter sampleDevice strayAnswerLabels) ∧
      ¬ AnswersKept (stateAfter sampleDevice strayAnswerLabels) := by
  refine ⟨stateAfter_reachable sampleDevice strayAnswerLabels, ?_⟩
  intro kept
  obtain ⟨request, control, answered, _⟩ :=
    kept ((stateAfter sampleDevice strayAnswerLabels).trace.take 11)
      (.retSubmit ⟨⟨0, 1, 16, 1, 8, false⟩, ⟨0, 1, 0, 0xffffffff, 0⟩,
        [⟨0xaa, some 0⟩], []⟩) [] ⟨0, 0, [0xaa], 1⟩ ⟨0xaa, some 0⟩
      (by decide +kernel) (by decide +kernel) (by decide) (by decide) rfl
  have number : (16 : UInt32) = request.ep := congrArg Transfer.ep answered
  rw [control] at number
  exact absurd number (by decide)

end UsbipServer
