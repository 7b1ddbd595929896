import UsbipServer.Refine.Closing
import UsbipServer.Library.Timetable
import UsbipServer.Protocol.Descriptors

namespace UsbipServer

open Wire Library

/-! What a step can do, seen from the submit in hand, from the pending
transfers, from the packet loop and from the endpoint table. -/

def SameIntervals (left right : Endpoints) : Prop :=
  ∀ inward number,
    (left inward number).intervalUs = (right inward number).intervalUs

theorem SameIntervals.set {left right : Endpoints}
    (same : SameIntervals left right) (inward : Bool) (number : Fin 16)
    (endpoint : Endpoint)
    (kept : endpoint.intervalUs = (left inward number).intervalUs) :
    SameIntervals (left.set inward number endpoint) right := by
  intro side position
  rw [Endpoints.set_apply]
  split
  next here =>
    rw [kept, here.1, here.2]
    exact same inward number
  · exact same side position

section

variable {dev : UsbipDevice} {s s' : State} {label : Label}

theorem Filing.held_cases {request : Request} (filing : Filing dev s label s')
    (held : s'.phase.held = some request) :
    s'.pendingUrbs = s.pendingUrbs ∧
      (s.phase.held = some request ∧ s'.tickets = s.tickets ∨
        ∃ tcpip command, s.phase = .serve ∧ label = .wait true ∧
          receiveCommand s.endpoints s.tcpip =
            .command tcpip (.submit command) ∧
          request = ⟨s.tickets, command⟩ ∧ s'.tickets = s.tickets + 1) := by
  cases filing with
  | handed worked =>
      rcases worked.held with none | same
      · rw [none] at held
        contradiction
      · rw [same] at held
        exact ⟨worked.tables.pendingUrbs, .inl ⟨held, worked.tables.tickets⟩⟩
  | stays _ tables same =>
      rw [same] at held
      exact ⟨tables.pendingUrbs, .inl ⟨held, tables.tickets⟩⟩
  | forgets _ _ _ _ _ none =>
      rw [none] at held
      contradiction
  | imports _ _ here =>
      rw [here] at held
      contradiction
  | starts _ _ _ there =>
      rw [there] at held
      contradiction
  | takes tcpip command _ here ready received _ pendingUrbs _ _ tickets _
      inHand =>
      rcases inHand with none | same
      · rw [none] at held
        contradiction
      · rw [same] at held
        obtain rfl := Option.some.inj held
        exact ⟨pendingUrbs,
          .inr ⟨tcpip, command, here, ready, received, rfl, tickets⟩⟩
  | queues _ _ _ _ _ _ _ _ _ _ _ _ there =>
      rw [there] at held
      contradiction
  | unlinks _ _ _ _ _ _ _ _ _ _ _ _ _ _ _ none =>
      rw [none] at held
      contradiction
  | schedules _ _ _ _ _ _ _ _ _ _ there =>
      rw [there] at held
      contradiction
  | @packs urb back packets actual start _ entered outcome =>
      cases outcome with
      | calls => contradiction
      | replies _ _ _ _ _ _ _ there =>
          rw [there, back.phase_held] at held
          contradiction
      | fails _ _ there =>
          rw [there] at held
          contradiction
      | loses _ _ _ _ there =>
          rw [there] at held
          contradiction
  | completes _ _ _ _ _ _ _ _ _ _ _ _ _ _ _ there =>
      rw [there] at held
      contradiction

theorem Filing.pending_cases {urb : PendingUrb}
    (filing : Filing dev s label s') (member : urb ∈ s'.pendingUrbs)
    (isochronous : urb.isochronous = true) :
    urb ∈ s.pendingUrbs ∨ ∃ request clock, s.phase = .isoSchedule request ∧
      urb = s.isoUrb request clock := by
  cases filing with
  | handed worked =>
      rw [worked.tables.pendingUrbs] at member
      exact .inl member
  | stays _ tables =>
      rw [tables.pendingUrbs] at member
      exact .inl member
  | forgets _ _ empty =>
      rw [empty] at member
      simp at member
  | imports _ _ _ empty =>
      rw [empty] at member
      simp at member
  | starts _ _ _ _ pendingUrbs =>
      rw [pendingUrbs] at member
      exact .inl member
  | takes _ _ _ _ _ _ _ pendingUrbs =>
      rw [pendingUrbs] at member
      exact .inl member
  | queues _ _ _ _ _ _ _ pendingUrbs =>
      rw [pendingUrbs] at member
      rcases List.mem_append.mp member with before | new
      · exact .inl before
      · rw [List.mem_singleton.mp new] at isochronous
        contradiction
  | unlinks _ _ _ _ _ _ _ _ _ _ pendingUrbs =>
      rw [pendingUrbs] at member
      exact .inl (List.mem_of_mem_eraseIdx member)
  | schedules request clock here _ _ pendingUrbs =>
      rw [pendingUrbs] at member
      rcases List.mem_append.mp member with before | new
      · exact .inl before
      · exact .inr ⟨request, clock, here, List.mem_singleton.mp new⟩
  | @packs work back packets actual start _ entered outcome =>
      left
      obtain ⟨pendingUrbs, _⟩ := entered.start
      rw [← pendingUrbs]
      cases outcome with
      | calls => exact member
      | replies _ _ left =>
          rw [left] at member
          exact IsoReturn.mem_of_left member
      | fails _ tables =>
          rw [tables.pendingUrbs] at member
          exact member
      | loses _ empty =>
          rw [empty] at member
          simp at member
  | completes _ _ _ _ _ _ _ _ _ _ pendingUrbs =>
      rw [pendingUrbs] at member
      exact .inl (List.mem_of_mem_eraseIdx member)

theorem Packs.reading {urb : PendingUrb} {back : IsoReturn}
    {packets : List IsoPacket} {actual : List Nat} {start : State}
    (entered : Packs s label urb back packets actual start) :
    s.phase.reading = back.reading := by
  cases entered with
  | pass now index urb here =>
      rw [here]
      rfl
  | overflow request clock here =>
      rw [here]
      rfl
  | returned here =>
      rw [here]
      rfl

theorem Filing.reading_cases {now : Nat} (filing : Filing dev s label s')
    (reading : s'.phase.reading = some now) :
    s.phase.reading = some now ∨
      label = .server now ∧ s.phase = .clearEvent true := by
  cases filing with
  | handed worked =>
      rw [worked.reading] at reading
      contradiction
  | stays _ _ _ _ _ _ _ same =>
      rw [same] at reading
      exact .inl reading
  | forgets _ _ _ _ _ _ _ _ _ none =>
      rw [none] at reading
      contradiction
  | imports _ _ here =>
      rw [here] at reading
      contradiction
  | starts clock here read there =>
      rw [there] at reading
      obtain rfl := Option.some.inj reading
      exact .inr ⟨read, here⟩
  | takes _ _ _ _ _ _ _ _ _ _ _ _ _ _ _ _ none =>
      rw [none] at reading
      contradiction
  | queues _ _ _ _ _ _ _ _ _ _ _ _ there =>
      rw [there] at reading
      contradiction
  | unlinks _ _ _ _ _ _ _ _ _ _ _ _ _ _ _ _ _ _ _ none =>
      rw [none] at reading
      contradiction
  | schedules _ _ _ _ _ _ _ _ _ _ there =>
      rw [there] at reading
      contradiction
  | @packs urb back packets actual start _ entered outcome =>
      left
      rw [entered.reading]
      cases outcome with
      | calls => exact reading
      | replies _ _ _ _ _ _ _ there =>
          rw [there] at reading
          cases back with
          | command => contradiction
          | pass => exact reading
      | fails _ _ there =>
          rw [there] at reading
          contradiction
      | loses _ _ _ _ there =>
          rw [there] at reading
          contradiction
  | completes _ _ _ _ here _ _ _ _ _ _ _ _ _ _ there =>
      rw [there] at reading
      rw [here]
      exact .inl reading

/-- While a device is imported, its endpoints keep the intervals it describes. -/
def Timed (dev : UsbipDevice) (s : State) : Prop :=
  s.deviceImported = true →
    SameIntervals s.endpoints (loadEndpoints dev.configDesc)

theorem Timed.isoEndpoints {request : Request} {clock : Nat}
    (same : SameIntervals s.endpoints (loadEndpoints dev.configDesc)) :
    SameIntervals (s.isoEndpoints request clock)
      (loadEndpoints dev.configDesc) := by
  unfold State.isoEndpoints
  exact same.set _ _ _ rfl

theorem Timed.packs {urb : PendingUrb} {back : IsoReturn}
    {packets : List IsoPacket} {actual : List Nat} {start : State}
    (entered : Packs s label urb back packets actual start)
    (same : SameIntervals s.endpoints (loadEndpoints dev.configDesc)) :
    SameIntervals start.endpoints (loadEndpoints dev.configDesc) := by
  cases entered with
  | pass => exact same
  | overflow => exact isoEndpoints same
  | returned => exact same

theorem Timed.step (timed : Timed dev s) (filing : Filing dev s label s') :
    Timed dev s' := by
  intro present
  cases filing with
  | handed worked =>
      rw [worked.tables.deviceImported] at present
      rw [worked.tables.endpoints]
      exact timed present
  | stays _ tables =>
      rw [tables.deviceImported] at present
      rw [tables.endpoints]
      exact timed present
  | forgets _ absent =>
      rw [absent] at present
      contradiction
  | imports _ _ _ _ endpoints =>
      rw [endpoints]
      exact fun _ _ => rfl
  | starts _ _ _ _ _ endpoints _ _ imported =>
      rw [imported] at present
      rw [endpoints]
      exact timed present
  | takes _ _ _ _ _ _ _ _ endpoints _ _ imported =>
      rw [imported] at present
      rw [endpoints]
      exact timed present
  | queues _ _ _ _ _ _ _ _ endpoints _ _ imported =>
      rw [imported] at present
      rw [endpoints]
      exact timed present
  | unlinks _ _ _ urb _ _ _ _ _ _ _ endpoints _ _ imported =>
      rw [imported] at present
      rw [endpoints]
      unfold stoppedEndpoints
      split
      · exact (timed present).set _ _ _ rfl
      · exact timed present
  | schedules request clock _ _ _ _ endpoints _ _ imported =>
      rw [imported] at present
      rw [endpoints]
      exact isoEndpoints (timed present)
  | @packs urb back packets actual start _ entered outcome =>
      obtain ⟨_, _, _, imported, _⟩ := entered.start
      cases outcome with
      | calls =>
          rw [State.goto, imported] at present
          have same := packs entered (timed present)
          exact same
      | replies _ _ _ endpoints _ _ kept =>
          rw [kept, imported] at present
          rw [endpoints]
          exact packs entered (timed present)
      | fails _ tables =>
          rw [tables.deviceImported, imported] at present
          rw [tables.endpoints]
          exact packs entered (timed present)
      | loses absent =>
          rw [absent] at present
          contradiction
  | completes _ _ _ _ _ _ _ _ _ _ _ endpoints _ _ imported =>
      rw [imported] at present
      rw [endpoints]
      exact (timed present).set _ _ _ rfl

theorem reachable_timed (reachable : Reachable dev s) : Timed dev s := by
  refine reachable.invariant ?_ ?_
  · intro present
    simp [initial] at present
  · intro state label next reached earlier _ stepped
    exact earlier.step (step_filing (reachable_tracked reached).sound stepped)

/-- The isochronous transfers a pass is done with are not due yet. -/
def Early (s : State) : Prop :=
  ∀ now index, s.cursor = some (now, index) → s.passUs = now ∧
    ∀ urb ∈ s.pendingUrbs.take index, urb.isochronous = true →
      now < urb.completeUs

theorem Early.step (earlier : Early s) (passed : PassStep s s') : Early s' := by
  intro now index here
  cases passed with
  | outside away =>
      rw [away] at here
      contradiction
  | starts fresh =>
      rw [fresh] at here
      cases here
      exact ⟨rfl, by simp⟩
  | stays same pendingUrbs =>
      rw [same.cursor] at here
      rw [same.passUs, pendingUrbs]
      exact earlier now index here
  | isoDone clock place urb same standing filed pendingUrbs =>
      rw [same.cursor, standing] at here
      cases here
      rw [same.passUs, pendingUrbs, take_eraseIdx filed]
      exact earlier now index standing
  | ends clock place standing all =>
      obtain ⟨reading, early⟩ :=
        earlier clock place (State.cursor_pass standing)
      obtain ⟨rfl, rfl⟩ := State.cursor_serve rfl here
      refine ⟨rfl, ?_⟩
      intro urb member isochronous
      rw [List.take_of_length_le all] at early
      have now_eq : (s.goto .serve).passUs = clock := reading
      rw [now_eq]
      exact early urb (List.mem_of_mem_take member) isochronous
  | later clock place urb standing filed early =>
      cases here
      obtain ⟨reading, before⟩ :=
        earlier now place (State.cursor_pass standing)
      refine ⟨reading, ?_⟩
      intro other member isochronous
      rcases mem_take_succ filed member with passed | rfl
      · exact before other passed isochronous
      · rw [PendingUrb.dueUs, if_pos isochronous] at early
        exact early
  | skipped clock place urb standing filed plain =>
      cases here
      obtain ⟨reading, before⟩ :=
        earlier now place (State.cursor_pass standing)
      refine ⟨reading, ?_⟩
      intro other member isochronous
      rcases mem_take_succ filed member with passed | rfl
      · exact before other passed isochronous
      · rw [plain] at isochronous
        contradiction
  | completed clock place urb standing filed _ _ _ cursor _ _ _ _ passUs
      pendingUrbs =>
      rw [cursor] at here
      cases here
      rw [passUs, pendingUrbs, take_eraseIdx filed]
      exact earlier now index (State.cursor_pass standing)

theorem reachable_early (reachable : Reachable dev s) : Early s := by
  refine reachable.invariant ?_ ?_
  · intro now index here
    simp [initial, State.cursor] at here
  · intro state label next reached earlier _ stepped
    exact earlier.step (step_passStep (reachable_tracked reached).sound stepped)

end

/-! Runs with well addressed isochronous submits and room for them. -/

def Addressed (ep direction : UInt32) : Prop :=
  ep.toNat < 16 ∧ direction.toNat ≤ 1

instance (ep direction : UInt32) : Decidable (Addressed ep direction) :=
  inferInstanceAs (Decidable (_ ∧ _))

/-- An isochronous submit names an endpoint number and direction 0 or 1, and
the table has room when it arrives. -/
def streamed (dev : UsbipDevice) (s : State) : Label → Bool
  | .wait true =>
      match receiveCommand s.endpoints s.tcpip with
      | .command _ (.submit command) =>
          !Request.isochronous dev ⟨s.tickets, command⟩ ||
            (decide (Addressed command.header.ep command.header.direction) &&
              decide (s.pendingUrbs.length < maxPendingUrbs))
      | _ => true
  | _ => true

structure Streaming (dev : UsbipDevice) (s : State) : Prop where
  addressed : ∀ urb ∈ s.pendingUrbs, urb.isochronous = true →
    Addressed urb.ep urb.direction
  newest : ∀ request, s.phase.held = some request →
    request.ticket + 1 = s.tickets
  room : ∀ request, s.phase.held = some request →
    request.isochronous dev = true →
    Addressed request.ep request.direction ∧
      s.pendingUrbs.length < maxPendingUrbs
  due : ∀ work, s.phase.packing = some work → ∃ now index,
    work.back = .pass now index ∧ work.urb.completeUs ≤ now

section

variable {dev : UsbipDevice} {s s' : State} {label : Label}

structure PacksDue (s start : State) (urb : PendingUrb) (back : IsoReturn)
    (now index : Nat) : Prop where
  back : back = .pass now index
  due : urb.completeUs ≤ now
  filed : s.pendingUrbs[index]? = some urb
  isochronous : urb.isochronous = true
  reading : s.phase.reading = some now
  cursor : s.cursor = some (now, index)
  endpoints : start.endpoints = s.endpoints

/-- With room for every isochronous submit the packet loop is only entered
from a pass. -/
theorem Packs.isDue {urb : PendingUrb} {back : IsoReturn}
    {packets : List IsoPacket} {actual : List Nat} {start : State}
    (entered : Packs s label urb back packets actual start)
    (streaming : Streaming dev s) (sound : Sound dev s) :
    ∃ now index, PacksDue s start urb back now index := by
  cases entered with
  | pass now index urb here filed isochronous due =>
      refine ⟨now, index, rfl, due, filed, isochronous, ?_,
        State.cursor_pass here, rfl⟩
      rw [here]
      rfl
  | overflow request clock here read full =>
      obtain ⟨_, _, isochronous⟩ := sound.isAttached here fun _ _ _ => id
      have room := (streaming.room request (by rw [here]; rfl) isochronous).2
      exact absurd full (Nat.ne_of_lt room)
  | @returned made length _ actual packet _ _ written here =>
      obtain ⟨_, progress, _⟩ := sound.isAttached here fun _ _ _ => id
      obtain ⟨now, index, same, due⟩ := streaming.due
        ⟨urb, actual, packet, packets, back⟩ (by rw [here]; rfl)
      change back = .pass now index at same
      subst same
      refine ⟨now, index, rfl, due, progress.filed, progress.isochronous, ?_, ?_,
        rfl⟩
      · rw [here]
        rfl
      · simp [State.cursor, here, Continuation.cursor, IsoReturn.cursor]

theorem streamed_submit {tcpip : Tcpip} {command : SubmitCommand}
    (allowed : streamed dev s label = true) (ready : label = .wait true)
    (received : receiveCommand s.endpoints s.tcpip =
      .command tcpip (.submit command))
    (isochronous : Request.isochronous dev ⟨s.tickets, command⟩ = true) :
    Addressed command.header.ep command.header.direction ∧
      s.pendingUrbs.length < maxPendingUrbs := by
  subst ready
  simpa [streamed, received, isochronous] using allowed

theorem Streaming.step (streaming : Streaming dev s) (sound : Sound dev s)
    (allowed : streamed dev s label = true) (filing : Filing dev s label s') :
    Streaming dev s' := by
  refine ⟨?_, ?_, ?_, ?_⟩
  · intro urb member isochronous
    rcases filing.pending_cases member isochronous with
      before | ⟨request, clock, here, rfl⟩
    · exact streaming.addressed urb before isochronous
    · obtain ⟨_, _, kind⟩ := sound.isAttached here fun _ _ _ => id
      exact (streaming.room request (by rw [here]; rfl) kind).1
  · intro request held
    obtain ⟨_, ⟨before, tickets⟩ | ⟨_, command, _, _, _, rfl, tickets⟩⟩ :=
      filing.held_cases held
    · rw [tickets]
      exact streaming.newest request before
    · exact tickets.symm
  · intro request held isochronous
    obtain ⟨pendingUrbs, ⟨before, _⟩ |
        ⟨tcpip, command, here, ready, received, rfl, _⟩⟩ :=
      filing.held_cases held
    · rw [pendingUrbs]
      exact streaming.room request before isochronous
    · rw [pendingUrbs]
      exact streamed_submit allowed ready received isochronous
  · intro work collecting
    rcases filing.packing_cases collecting with before | ⟨start, entered⟩
    · exact streaming.due work before
    · obtain ⟨now, index, packed⟩ := entered.isDue streaming sound
      exact ⟨now, index, packed.back, packed.due⟩

theorem streamed_reaches_streaming
    (reached : (server dev).Reaches
      (fun s label => streamed dev s label = true) initial s) :
    Streaming dev s := by
  refine reached.invariant ?_ ?_
  · refine ⟨?_, ?_, ?_, ?_⟩
    · simp [initial]
    · simp [initial, Phase.held]
    · simp [initial, Phase.held]
    · simp [initial, Phase.packing]
  · intro state label next early streaming allowed stepped
    have sound := (reachable_tracked (Reachable.of_allowed early)).sound
    exact streaming.step sound allowed (step_filing sound stepped)

end

def Transfer.inStream (transfer : Transfer) (inward : Bool)
    (number : Fin 16) : Bool :=
  transfer.isochronous && decide (decide (transfer.direction ≠ 0) = inward) &&
    decide (transfer.number = number)

def Event.streamTicket (inward : Bool) (number : Fin 16) : Event → Option Nat
  | .retSubmit reply =>
      if reply.transfer.inStream inward number then some reply.transfer.ticket
      else none
  | _ => none

def repliedTickets (inward : Bool) (number : Fin 16) (events : List Event) :
    List Nat :=
  events.filterMap (Event.streamTicket inward number)

/-- The pending transfers of the endpoint, where the next one starts, and the
transfers that were answered. -/
def State.stream (s : State) (inward : Bool) (number : Fin 16) :
    Timetable PendingUrb where
  queue := s.pendingUrbs.filter fun urb => urb.inStream inward number
  finish :=
    if s.deviceImported then (s.endpoints inward number).streamEndUs else 0
  done := repliedTickets inward number s.trace

/-- A transfer takes one service interval per packet. -/
def streamTimeUs (dev : UsbipDevice) (inward : Bool) (number : Fin 16)
    (urb : PendingUrb) : Nat :=
  urb.numberOfPackets.toNat *
    (loadEndpoints dev.configDesc inward number).intervalUs

/-- The step schedules a transfer past the range of 64-bit times. -/
def wrapsStream (s : State) : Label → Bool
  | .server clock =>
      match s.phase with
      | .isoSchedule request =>
          let endpoint := s.endpoints (decide (request.direction ≠ 0))
            (endpointNumber request.ep)
          decide (timeRange ≤ max endpoint.streamEndUs clock +
            request.command.submit.numberOfPackets.toNat * endpoint.intervalUs)
      | _ => false
  | _ => false

/-- The step cancels the youngest of several pending transfers of the
endpoint. -/
def cutsStream (s : State) (inward : Bool) (number : Fin 16) : Label → Bool
  | .wait true =>
      match receiveCommand s.endpoints s.tcpip with
      | .command _ (.unlink command) =>
          match findPendingUrb s.pendingUrbs command.unlink.unlinkSeqnum with
          | none => false
          | some index =>
              (s.pendingUrbs[index]?.any fun urb =>
                urb.inStream inward number) &&
              ((s.pendingUrbs.take index).any fun urb =>
                urb.inStream inward number) &&
              !(s.pendingUrbs.drop (index + 1)).any fun urb =>
                urb.inStream inward number
      | _ => false
  | _ => false

section

variable {dev : UsbipDevice} {s s' : State} {label : Label} {inward : Bool}
  {number : Fin 16}

def StreamStep (dev : UsbipDevice) (s : State) (label : Label) (s' : State)
    (inward : Bool) (number : Fin 16) : Prop :=
  Timetable.Step PendingUrb.completeUs (streamTimeUs dev inward number)
    (fun urb => urb.ticket) (fun now => s.phase.reading = some now)
    (cutsStream s inward number label = true) (wrapsStream s label = true)
    (s.stream inward number) (s'.stream inward number)

@[simp] theorem repliedTickets_append (early late : List Event) :
    repliedTickets inward number (early ++ late) =
      repliedTickets inward number early ++
        repliedTickets inward number late :=
  List.filterMap_append

theorem repliedTickets_unreplied {events : List Event}
    (apart : ∀ event ∈ events, event.isIsoReply = false) :
    repliedTickets inward number events = [] := by
  apply List.filterMap_eq_nil_iff.mpr
  intro event member
  have plain := apart event member
  cases event with
  | retSubmit reply =>
      change reply.transfer.isochronous = false at plain
      simp [Event.streamTicket, Transfer.inStream, plain]
  | _ => rfl

theorem StreamStep.same {events : List Event}
    (queue : s'.pendingUrbs.filter (fun urb => urb.inStream inward number) =
      s.pendingUrbs.filter fun urb => urb.inStream inward number)
    (imported : s'.deviceImported = s.deviceImported)
    (endpoint : (s'.endpoints inward number).streamEndUs =
      (s.endpoints inward number).streamEndUs)
    (traced : s'.trace = s.trace ++ events)
    (apart : ∀ event ∈ events, event.isIsoReply = false) :
    StreamStep dev s label s' inward number := by
  have unchanged : s'.stream inward number = s.stream inward number := by
    unfold State.stream
    rw [queue, imported, endpoint, traced, repliedTickets_append,
      repliedTickets_unreplied apart, List.append_nil]
  unfold StreamStep
  rw [unchanged]
  exact .stays

theorem SameTables.streamStep {events : List Event} (tables : SameTables s s')
    (traced : s'.trace = s.trace ++ events)
    (apart : ∀ event ∈ events, event.isIsoReply = false) :
    StreamStep dev s label s' inward number := by
  refine .same ?_ tables.deviceImported ?_ traced apart
  · rw [tables.pendingUrbs]
  · rw [tables.endpoints]

theorem StreamStep.cleared {events : List Event}
    (empty : s'.pendingUrbs.filter (fun urb => urb.inStream inward number) = [])
    (finish : s'.deviceImported = true →
      (s'.endpoints inward number).streamEndUs = 0)
    (traced : s'.trace = s.trace ++ events)
    (apart : ∀ event ∈ events, event.isIsoReply = false) :
    StreamStep dev s label s' inward number := by
  have fresh : s'.stream inward number =
      ⟨[], 0, (s.stream inward number).done⟩ := by
    unfold State.stream
    rw [empty, traced, repliedTickets_append, repliedTickets_unreplied apart,
      List.append_nil]
    cases present : s'.deviceImported with
    | true => simp [finish present]
    | false => simp
  unfold StreamStep
  rw [fresh]
  exact .restarts

theorem split_filed {pendingUrbs : List PendingUrb} {index : Nat}
    {urb : PendingUrb} (filed : pendingUrbs[index]? = some urb) :
    pendingUrbs = pendingUrbs.take index ++ urb ::
      pendingUrbs.drop (index + 1) := by
  obtain ⟨bound, here⟩ := List.getElem?_eq_some_iff.mp filed
  rw [← here, ← List.drop_eq_getElem_cons bound, List.take_append_drop]

theorem filter_filed {pendingUrbs : List PendingUrb} {index : Nat}
    {urb : PendingUrb} (keep : PendingUrb → Bool)
    (filed : pendingUrbs[index]? = some urb) (kept : keep urb = true) :
    pendingUrbs.filter keep = (pendingUrbs.take index).filter keep ++ urb ::
      (pendingUrbs.drop (index + 1)).filter keep := by
  conv => lhs; rw [split_filed filed]
  rw [List.filter_append, List.filter_cons_of_pos kept]

theorem filter_erased {pendingUrbs : List PendingUrb} {index : Nat}
    (keep : PendingUrb → Bool) :
    (pendingUrbs.eraseIdx index).filter keep =
      (pendingUrbs.take index).filter keep ++
        (pendingUrbs.drop (index + 1)).filter keep := by
  rw [List.eraseIdx_eq_take_drop_succ, List.filter_append]

theorem filter_erased_other {pendingUrbs : List PendingUrb} {index : Nat}
    {urb : PendingUrb} (keep : PendingUrb → Bool)
    (filed : pendingUrbs[index]? = some urb) (other : ¬ keep urb = true) :
    (pendingUrbs.eraseIdx index).filter keep = pendingUrbs.filter keep := by
  rw [filter_erased]
  conv => rhs; rw [split_filed filed]
  rw [List.filter_append, List.filter_cons_of_neg other]

theorem Addressed.eq {ep direction ep' direction' : UInt32}
    (first : Addressed ep direction) (second : Addressed ep' direction')
    (sides : decide (direction ≠ 0) = decide (direction' ≠ 0))
    (numbers : endpointNumber ep = endpointNumber ep') :
    ep = ep' ∧ direction = direction' := by
  obtain ⟨small, binary⟩ := first
  obtain ⟨small', binary'⟩ := second
  have value := congrArg Fin.val numbers
  simp only [endpointNumber, Nat.mod_eq_of_lt small,
    Nat.mod_eq_of_lt small'] at value
  refine ⟨UInt32.toNat_inj.mp value, ?_⟩
  apply UInt32.toNat_inj.mp
  have same : direction = 0 ↔ direction' = 0 := by
    simpa [not_iff_not] using sides
  rw [← UInt32.toNat_inj, ← UInt32.toNat_inj] at same
  simp only [UInt32.toNat_zero] at same
  omega

/-- The stream of a transfer that leaves is empty exactly when the source finds
no other transfer of it. -/
theorem Streaming.empties {urb : PendingUrb} {index : Nat}
    (streaming : Streaming dev s) (filed : s.pendingUrbs[index]? = some urb)
    (mine : urb.inStream inward number = true) :
    hasPendingIsoUrbs (s.pendingUrbs.eraseIdx index) urb.ep urb.direction =
        false ↔
      (s.pendingUrbs.eraseIdx index).filter
        (fun other => other.inStream inward number) = [] := by
  simp only [Transfer.inStream, Bool.and_eq_true, decide_eq_true_eq] at mine
  obtain ⟨⟨isochronous, side⟩, place⟩ := mine
  rw [hasPendingIsoUrbs, List.any_eq_false, List.filter_eq_nil_iff]
  apply forall₂_congr
  intro other member
  apply not_congr
  simp only [Transfer.inStream, Bool.and_eq_true, decide_eq_true_eq,
    beq_iff_eq]
  constructor
  · rintro ⟨⟨kind, ep⟩, direction⟩
    refine ⟨⟨kind, ?_⟩, ?_⟩
    · rw [direction, side]
    · rw [← place, Transfer.number, Transfer.number, ep]
  · rintro ⟨⟨kind, otherSide⟩, otherPlace⟩
    obtain ⟨ep, direction⟩ := Addressed.eq
      (streaming.addressed other (List.mem_of_mem_eraseIdx member) kind)
      (streaming.addressed urb (List.mem_of_getElem? filed) isochronous)
      (otherSide.trans side.symm) (otherPlace.trans place.symm)
    exact ⟨⟨kind, ep⟩, direction⟩

theorem Transfer.inStream_slot {transfer : Transfer}
    (isochronous : transfer.isochronous = true) :
    transfer.inStream inward number = true ↔
      inward = decide (transfer.direction ≠ 0) ∧ number = transfer.number := by
  simp only [Transfer.inStream, isochronous, Bool.true_and, Bool.and_eq_true,
    decide_eq_true_eq]
  constructor
  · rintro ⟨side, place⟩
    exact ⟨side.symm, place.symm⟩
  · rintro ⟨side, place⟩
    exact ⟨side.symm, place.symm⟩

theorem stoppedEndpoints_other {urb : PendingUrb}
    {pendingUrbs : List PendingUrb} {endpoints : Endpoints}
    (other : ¬ urb.inStream inward number = true) :
    (stoppedEndpoints urb pendingUrbs endpoints inward number).streamEndUs =
      (endpoints inward number).streamEndUs := by
  unfold stoppedEndpoints
  split
  next stopped =>
    rw [Transfer.inStream_slot stopped.1] at other
    rw [Endpoints.set_apply, if_neg other]
  · rfl

theorem unlinks_streamStep {tcpip : Tcpip} {command : UnlinkCommand}
    {index : Nat} {urb : PendingUrb} {events : List Event}
    (streaming : Streaming dev s) (ready : label = .wait true)
    (received : receiveCommand s.endpoints s.tcpip =
      .command tcpip (.unlink command))
    (found : findPendingUrb s.pendingUrbs command.unlink.unlinkSeqnum =
      some index)
    (filed : s.pendingUrbs[index]? = some urb)
    (pendingUrbs : s'.pendingUrbs = s.pendingUrbs.eraseIdx index)
    (endpoints : s'.endpoints = stoppedEndpoints urb
      (s.pendingUrbs.eraseIdx index) s.endpoints)
    (imported : s'.deviceImported = s.deviceImported)
    (traced : s'.trace = s.trace ++ events)
    (apart : ∀ event ∈ events, event.isIsoReply = false) :
    StreamStep dev s label s' inward number := by
  by_cases mine : urb.inStream inward number = true
  · have emptied := streaming.empties filed mine
    have isochronous : urb.isochronous = true := by
      simp only [Transfer.inStream, Bool.and_eq_true] at mine
      exact mine.1.1
    obtain ⟨side, place⟩ := (Transfer.inStream_slot isochronous).mp mine
    cases others : hasPendingIsoUrbs (s.pendingUrbs.eraseIdx index) urb.ep
        urb.direction with
    | false =>
        refine .cleared ?_ ?_ traced apart
        · rw [pendingUrbs]
          exact emptied.mp others
        · intro _
          rw [endpoints, stoppedEndpoints, if_pos (by simp [isochronous, others]),
            Endpoints.set_apply, if_pos ⟨side, place⟩]
    | true =>
        -- the schedule stays, also when the youngest transfer is cancelled
        have left : ¬ (s.pendingUrbs.eraseIdx index).filter
            (fun other => other.inStream inward number) = [] := by
          rw [← emptied, others]
          exact Bool.true_eq_false_eq_False
        have withdrawn : s'.stream inward number =
            ⟨(s.pendingUrbs.take index).filter
                (fun other => other.inStream inward number) ++
              (s.pendingUrbs.drop (index + 1)).filter
                (fun other => other.inStream inward number),
              (s.stream inward number).finish,
              (s.stream inward number).done⟩ := by
          have kept : s'.endpoints = s.endpoints := by
            rw [endpoints, stoppedEndpoints, if_neg (by simp [others])]
          unfold State.stream
          rw [pendingUrbs, filter_erased, imported, kept, traced,
            repliedTickets_append, repliedTickets_unreplied apart,
            List.append_nil]
        unfold StreamStep
        rw [withdrawn]
        refine .withdraws _ _ urb (filter_filed _ filed mine) ?_
        intro last
        rw [filter_erased, last, List.append_nil, List.filter_eq_nil_iff] at left
        rw [List.filter_eq_nil_iff] at last
        subst ready
        simp only [cutsStream, received, found, filed, Option.any_some, mine,
          Bool.true_and, Bool.and_eq_true, Bool.not_eq_true', List.any_eq_true,
          List.any_eq_false]
        refine ⟨?_, last⟩
        push Not at left
        exact left
  · refine .same ?_ imported ?_ traced apart
    · rw [pendingUrbs]
      exact filter_erased_other _ filed mine
    · rw [endpoints]
      exact stoppedEndpoints_other mine

theorem Streaming.isNewest {request : Request} (streaming : Streaming dev s)
    (reached : Reachable dev s) (here : s.phase = .isoSchedule request) :
    ∀ earlier ∈ (s.stream inward number).done ++
        (s.stream inward number).queue.map fun urb => urb.ticket,
      earlier < request.ticket := by
  have tracked := reachable_tracked reached
  have held : s.phase.held = some request := by rw [here]; rfl
  intro earlier member
  rcases List.mem_append.mp member with answered | pending
  · obtain ⟨event, traced, told⟩ := List.mem_filterMap.mp answered
    cases event with
    | retSubmit reply =>
        simp only [Event.streamTicket, Option.ite_none_right_eq_some,
          Option.some.injEq] at told
        obtain ⟨mine, rfl⟩ := told
        obtain ⟨submit, submitted, replied⟩ :=
          (reachable_recorded reached).replies reply traced
        have below := ((reachable_numbered reached).formed submit submitted).1
        have ticket : reply.transfer.ticket = submit.ticket := by
          rw [replied.transfer]
          rfl
        have newest := streaming.newest request held
        have isochronous : reply.transfer.isochronous = true := by
          simp only [Transfer.inStream, Bool.and_eq_true] at mine
          exact mine.1.1
        have different : reply.transfer.ticket ≠ request.ticket := by
          intro same
          refine reachable_isoClosed reached reply traced isochronous ?_
          exact .inr (.inl ⟨request, held, same.symm⟩)
        omega
    | _ => contradiction
  · obtain ⟨urb, queued, rfl⟩ := List.mem_map.mp pending
    obtain ⟨base, _⟩ := tracked.sound.isAttached here fun _ _ _ => id
    have arrival := tracked.arrival ⟨base.imported, by simp [here]⟩
    refine (List.pairwise_append.mp arrival).2.2 urb.toTransfer ?_
      (request.transfer true) (by simp [here, Phase.hand])
    exact List.mem_map_of_mem (List.mem_of_mem_filter queued)

theorem schedules_streamStep {request : Request} {clock : Nat}
    (streaming : Streaming dev s) (reached : Reachable dev s)
    (here : s.phase = .isoSchedule request) (read : label = .server clock)
    (pendingUrbs : s'.pendingUrbs =
      s.pendingUrbs ++ [s.isoUrb request clock])
    (endpoints : s'.endpoints = s.isoEndpoints request clock)
    (imported : s'.deviceImported = s.deviceImported)
    (traced : s'.trace = s.trace ++ [.queued (s.isoUrb request clock)]) :
    StreamStep dev s label s' inward number := by
  obtain ⟨base, _⟩ :=
    (reachable_tracked reached).sound.isAttached here fun _ _ _ => id
  have present := base.imported
  have isochronous : (s.isoUrb request clock).isochronous = true := rfl
  have apart : ∀ event ∈ [Event.queued (s.isoUrb request clock)],
      event.isIsoReply = false := by simp [Event.isIsoReply]
  by_cases mine : (s.isoUrb request clock).inStream inward number = true
  · obtain ⟨side, place⟩ := (Transfer.inStream_slot isochronous).mp mine
    have appended : s'.stream inward number =
        ⟨(s.stream inward number).queue ++ [s.isoUrb request clock],
          (s.isoUrb request clock).completeUs,
          (s.stream inward number).done⟩ := by
      have alone : [s.isoUrb request clock].filter
          (fun urb => urb.inStream inward number) =
            [s.isoUrb request clock] := by simp [mine]
      unfold State.stream
      rw [pendingUrbs, List.filter_append, alone, imported, present, traced,
        repliedTickets_append,
        repliedTickets_unreplied apart, List.append_nil, if_pos rfl, endpoints,
        State.isoEndpoints, Endpoints.set_apply, if_pos ⟨side, place⟩]
    unfold StreamStep
    rw [appended]
    refine .appends clock _ ?_ (streaming.isNewest reached here)
    intro inRange
    have interval := reachable_timed reached present inward number
    simp only [wrapsStream, read, here, decide_eq_true_eq, Nat.not_le] at inRange
    simp only [State.stream, streamTimeUs, ← interval, present, if_true]
    rw [side, place]
    exact Nat.mod_eq_of_lt inRange
  · refine .same ?_ imported ?_ traced apart
    · rw [pendingUrbs, List.filter_append]
      simp [mine]
    · rw [endpoints, State.isoEndpoints, Endpoints.set_apply, if_neg]
      rwa [Transfer.inStream_slot isochronous] at mine

theorem completes_streamStep {urb : PendingUrb} {now index : Nat}
    {reply : Reply} (early : Early s)
    (due : urb.completeUs ≤ now) (filed : s.pendingUrbs[index]? = some urb)
    (reading : s.phase.reading = some now)
    (cursor : s.cursor = some (now, index))
    (answered : reply.transfer = urb.toTransfer)
    (pendingUrbs : s'.pendingUrbs = s.pendingUrbs.eraseIdx index)
    (endpoints : s'.endpoints = s.endpoints)
    (imported : s'.deviceImported = s.deviceImported)
    (traced : s'.trace = s.trace ++ [.retSubmit reply]) :
    StreamStep dev s label s' inward number := by
  have told : repliedTickets inward number [Event.retSubmit reply] =
      if urb.inStream inward number then [urb.ticket] else [] := by
    simp only [repliedTickets, Event.streamTicket, List.filterMap_cons,
      List.filterMap_nil, answered]
    split <;> simp_all
  by_cases mine : urb.inStream inward number = true
  · have completed : s'.stream inward number =
        ⟨(s.pendingUrbs.take index).filter
            (fun other => other.inStream inward number) ++
          (s.pendingUrbs.drop (index + 1)).filter
            (fun other => other.inStream inward number),
          (s.stream inward number).finish,
          (s.stream inward number).done ++ [urb.ticket]⟩ := by
      unfold State.stream
      rw [pendingUrbs, filter_erased, imported, endpoints, traced,
        repliedTickets_append, told, if_pos mine]
    unfold StreamStep
    rw [completed]
    refine .completes now _ _ urb (filter_filed _ filed mine) reading due ?_
    intro other member
    obtain ⟨passed, inside⟩ := List.mem_filter.mp member
    refine (early now index cursor).2 other passed ?_
    simp only [Transfer.inStream, Bool.and_eq_true] at inside
    exact inside.1.1
  · have unchanged : s'.stream inward number = s.stream inward number := by
      unfold State.stream
      rw [pendingUrbs, filter_erased_other _ filed mine, imported, endpoints,
        traced, repliedTickets_append, told, if_neg mine, List.append_nil]
    unfold StreamStep
    rw [unchanged]
    exact .stays

theorem packs_streamStep {urb : PendingUrb} {back : IsoReturn}
    {packets : List IsoPacket} {actual : List Nat} {start : State}
    (streaming : Streaming dev s) (reached : Reachable dev s)
    (entered : Packs s label urb back packets actual start)
    (outcome : IsoOutcome dev urb back packets actual start s') :
    StreamStep dev s label s' inward number := by
  obtain ⟨now, index, packed⟩ :=
    entered.isDue streaming (reachable_tracked reached).sound
  obtain ⟨back, due, filed, isochronous, reading, cursor, endpoints⟩ := packed
  subst back
  obtain ⟨pendingUrbs, _, _, imported, trace⟩ := entered.start
  cases outcome with
  | calls packet rest =>
      have traced : (start.goto (.lock
          (.isoIn urb actual packet rest (.pass now index)))).trace =
          s.trace ++ [] := by
        simp only [State.goto, trace, List.append_nil]
      refine .same ?_ imported ?_ traced (by simp)
      · simp only [State.goto, pendingUrbs]
      · simp only [State.goto, endpoints]
  | replies lengths _ left kept _ _ present _ traced =>
      refine completes_streamStep (reachable_early reached) due filed reading
        cursor rfl ?_ (kept.trans endpoints) (present.trans imported)
        (trace ▸ traced)
      rw [left, pendingUrbs]
      rfl
  | fails command => contradiction
  | loses absent empty _ _ _ traced =>
      refine .cleared ?_ ?_ (trace ▸ traced) (by simp [Event.isIsoReply])
      · rw [empty]
        rfl
      · intro present
        rw [absent] at present
        contradiction

/-- Every step of such a run is one of the timetable, for each endpoint. -/
theorem Filing.streamStep (filing : Filing dev s label s')
    (streaming : Streaming dev s) (reached : Reachable dev s) :
    StreamStep dev s label s' inward number := by
  cases filing with
  | handed worked =>
      obtain ⟨tables, _, _, _, events, traced, minor⟩ := worked
      exact tables.streamStep traced (Event.Minor.unreplied minor)
  | stays events tables _ _ _ traced minor =>
      exact tables.streamStep traced (Event.Minor.unreplied minor)
  | forgets events absent empty _ _ _ _ traced minor =>
      refine .cleared ?_ ?_ traced (Event.Minor.unreplied minor)
      · rw [empty]
        rfl
      · intro present
        rw [absent] at present
        contradiction
  | imports _ _ _ empty endpoints _ _ traced =>
      refine .cleared ?_ ?_ traced (by simp [Event.isIsoReply])
      · rw [empty]
        rfl
      · intro _
        rw [endpoints]
        exact (loadEndpoints_idle _ _ _).2
  | starts clock _ _ _ pendingUrbs endpoints _ _ imported traced =>
      refine .same ?_ imported ?_ traced (by simp [Event.isIsoReply])
      · rw [pendingUrbs]
      · rw [endpoints]
  | takes _ command events _ _ _ _ pendingUrbs endpoints _ _ imported _ _
      traced minor =>
      refine .same ?_ imported ?_ traced ?_
      · rw [pendingUrbs]
      · rw [endpoints]
      · intro event member
        rcases List.mem_cons.mp member with rfl | member
        · rfl
        · exact Event.Minor.unreplied minor event member
  | queues _ command _ _ _ _ _ pendingUrbs endpoints _ _ imported _ traced =>
      refine .same ?_ imported ?_ traced (by simp [Event.isIsoReply])
      · rw [pendingUrbs, List.filter_append]
        simp [Request.urb, Request.transfer, Transfer.inStream]
      · rw [endpoints]
  | unlinks tcpip command index urb events _ ready received found filed
      pendingUrbs endpoints _ _ imported _ _ traced minor =>
      exact unlinks_streamStep streaming ready received found filed pendingUrbs
        endpoints imported traced (Event.Minor.unreplied minor)
  | schedules request clock here read _ pendingUrbs endpoints _ _ imported _
      traced =>
      exact schedules_streamStep streaming reached here read pendingUrbs
        endpoints imported traced
  | packs entered outcome =>
      exact packs_streamStep streaming reached entered outcome
  | completes now index urb reply _ filed plain _ answered _ pendingUrbs
      endpoints _ _ imported _ traced =>
      refine .same ?_ imported ?_ traced ?_
      · rw [pendingUrbs]
        refine filter_erased_other _ filed ?_
        simp [Transfer.inStream, plain]
      · rw [endpoints, Endpoints.setNextPoll, Endpoints.set_apply]
        split
        next slot => rw [slot.1, slot.2]
        · rfl
      · simp [Event.isIsoReply, answered, plain]

end

end UsbipServer
