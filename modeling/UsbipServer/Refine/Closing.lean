import UsbipServer.Refine.Recorded

namespace UsbipServer

open Wire Library Ledger

/-! A submit that was answered stays answered: its number is not worked on
again. -/

/-- The submit with this number is neither answered nor cancelled. -/
def State.Opens (s : State) (ticket : Nat) : Prop :=
  (∃ urb ∈ s.pendingUrbs, urb.ticket = ticket) ∨
    (∃ request, s.phase.held = some request ∧ request.ticket = ticket) ∨
    ∃ work, s.phase.packing = some work ∧ work.urb.ticket = ticket

section

variable {dev : UsbipDevice} {s s' : State} {label : Label} {ticket : Nat}

theorem State.Opens.pending (opens : s.Opens ticket)
    (held : s.phase.held = none) (packing : s.phase.packing = none) :
    ∃ urb ∈ s.pendingUrbs, urb.ticket = ticket := by
  rcases opens with pending | ⟨request, inHand, _⟩ | ⟨work, collecting, _⟩
  · exact pending
  · rw [held] at inHand
    contradiction
  · rw [packing] at collecting
    contradiction

theorem Packs.opens {urb : PendingUrb} {back : IsoReturn}
    {packets : List IsoPacket} {actual : List Nat} {start : State}
    (entered : Packs s label urb back packets actual start) :
    s.Opens urb.ticket := by
  cases entered with
  | pass now index urb here filed =>
      exact .inl ⟨urb, List.mem_of_getElem? filed, rfl⟩
  | overflow request clock here =>
      exact .inr (.inl ⟨request, by simp [here, Phase.held], rfl⟩)
  | @returned made length _ actual packet _ _ written here =>
      refine .inr (.inr ⟨⟨urb, actual, packet, packets, back⟩, ?_, rfl⟩)
      simp [here, Phase.packing, Continuation.packing]

theorem IsoReturn.mem_of_left {back : IsoReturn} {pendingUrbs : List PendingUrb}
    {urb : PendingUrb} (member : urb ∈ back.left pendingUrbs) :
    urb ∈ pendingUrbs := by
  cases back with
  | command => exact member
  | pass => exact List.mem_of_mem_eraseIdx member

theorem IsoReturn.phase_held (back : IsoReturn) : back.phase.held = none := by
  cases back <;> rfl

theorem IsoReturn.phase_packing (back : IsoReturn) :
    back.phase.packing = none := by
  cases back <;> rfl

theorem IsoOutcome.waits {urb : PendingUrb} {back : IsoReturn}
    {packets : List IsoPacket} {actual : List Nat} {start : State}
    {work : Packing} (outcome : IsoOutcome dev urb back packets actual start s')
    (collecting : s'.phase.packing = some work) :
    ∃ packet rest, packets = packet :: rest ∧
      work = ⟨urb, actual, packet, rest, back⟩ ∧
      s'.txBuffer = start.txBuffer := by
  cases outcome with
  | calls packet rest split =>
      obtain rfl := Option.some.inj collecting
      exact ⟨packet, rest, split, rfl, rfl⟩
  | replies _ _ _ _ _ _ _ there =>
      rw [there, back.phase_packing] at collecting
      contradiction
  | fails _ _ there =>
      rw [there] at collecting
      contradiction
  | loses _ _ _ _ there =>
      rw [there] at collecting
      contradiction

/-- A packet loop that waits for the device waited before, or was just
entered. -/
theorem Filing.packing_cases {work : Packing} (filing : Filing dev s label s')
    (collecting : s'.phase.packing = some work) :
    s.phase.packing = some work ∨ ∃ start, Packs s label work.urb work.back
      (work.packet :: work.rest) work.actual start := by
  cases filing with
  | handed worked =>
      rw [worked.packing] at collecting
      contradiction
  | stays _ _ _ same =>
      rw [same] at collecting
      exact .inl collecting
  | forgets _ _ _ _ _ _ none =>
      rw [none] at collecting
      contradiction
  | imports _ _ here =>
      rw [here] at collecting
      contradiction
  | starts _ _ _ there =>
      rw [there] at collecting
      contradiction
  | takes _ _ _ _ _ _ _ _ _ _ _ _ _ none =>
      rw [none] at collecting
      contradiction
  | queues _ _ _ _ _ _ _ _ _ _ _ _ there =>
      rw [there] at collecting
      contradiction
  | unlinks _ _ _ _ _ _ _ _ _ _ _ _ _ _ _ _ none =>
      rw [none] at collecting
      contradiction
  | schedules _ _ _ _ _ _ _ _ _ _ there =>
      rw [there] at collecting
      contradiction
  | @packs urb back packets actual start _ entered outcome =>
      obtain ⟨packet, rest, rfl, rfl, _⟩ := outcome.waits collecting
      exact .inr ⟨start, entered⟩
  | completes _ _ _ _ _ _ _ _ _ _ _ _ _ _ _ there =>
      rw [there] at collecting
      contradiction

/-- Only a new submit opens a number. -/
theorem Filing.opens (filing : Filing dev s label s')
    (opens : s'.Opens ticket) : s.Opens ticket ∨ ticket = s.tickets := by
  cases filing with
  | handed worked =>
      left
      obtain ⟨tables, inHand, packing, _⟩ := worked
      rcases opens with
        ⟨urb, member, same⟩ | ⟨request, held, same⟩ | ⟨work, collecting, _⟩
      · rw [tables.pendingUrbs] at member
        exact .inl ⟨urb, member, same⟩
      · rcases inHand with none | kept
        · rw [none] at held
          contradiction
        · rw [kept] at held
          exact .inr (.inl ⟨request, held, same⟩)
      · rw [packing] at collecting
        contradiction
  | stays events tables held packing =>
      left
      unfold State.Opens at opens ⊢
      rw [tables.pendingUrbs, held, packing] at opens
      exact opens
  | forgets events _ empty _ _ held packing =>
      obtain ⟨urb, member, _⟩ := opens.pending held packing
      rw [empty] at member
      simp at member
  | imports _ _ here empty =>
      obtain ⟨urb, member, _⟩ := opens.pending (by rw [here]; rfl)
        (by rw [here]; rfl)
      rw [empty] at member
      simp at member
  | starts clock _ _ there pendingUrbs =>
      obtain ⟨urb, member, same⟩ := opens.pending (by rw [there]; rfl)
        (by rw [there]; rfl)
      rw [pendingUrbs] at member
      exact .inl (.inl ⟨urb, member, same⟩)
  | takes tcpip command events _ _ _ _ pendingUrbs _ _ _ _ inHand packing =>
      rcases opens with
        ⟨urb, member, same⟩ | ⟨request, held, same⟩ | ⟨work, collecting, _⟩
      · rw [pendingUrbs] at member
        exact .inl (.inl ⟨urb, member, same⟩)
      · rcases inHand with none | kept
        · rw [none] at held
          contradiction
        · rw [kept] at held
          obtain rfl := Option.some.inj held
          exact .inr same.symm
      · rw [packing] at collecting
        contradiction
  | queues tcpip command _ _ _ _ _ pendingUrbs _ _ _ _ there =>
      obtain ⟨urb, member, same⟩ := opens.pending (by rw [there]; rfl)
        (by rw [there]; rfl)
      rw [pendingUrbs] at member
      rcases List.mem_append.mp member with before | now
      · exact .inl (.inl ⟨urb, before, same⟩)
      · rw [List.mem_singleton.mp now] at same
        exact .inr same.symm
  | unlinks _ _ _ _ _ _ _ _ _ _ pendingUrbs _ _ _ _ held packing =>
      obtain ⟨urb, member, same⟩ := opens.pending held packing
      rw [pendingUrbs] at member
      exact .inl (.inl ⟨urb, List.mem_of_mem_eraseIdx member, same⟩)
  | schedules request clock here _ _ pendingUrbs _ _ _ _ there =>
      obtain ⟨urb, member, same⟩ := opens.pending (by rw [there]; rfl)
        (by rw [there]; rfl)
      rw [pendingUrbs] at member
      left
      rcases List.mem_append.mp member with before | now
      · exact .inl ⟨urb, before, same⟩
      · rw [List.mem_singleton.mp now] at same
        exact .inr (.inl ⟨request, by simp [here, Phase.held], same⟩)
  | @packs urb back packets actual start _ entered outcome =>
      left
      obtain ⟨pendingUrbs, _⟩ := entered.start
      cases outcome with
      | calls packet rest split inward callback =>
          rcases opens with
            ⟨other, member, same⟩ | ⟨request, held, _⟩ | ⟨work, collecting, same⟩
          · refine .inl ⟨other, ?_, same⟩
            rw [← pendingUrbs]
            exact member
          · contradiction
          · obtain rfl := Option.some.inj collecting
            rw [← same]
            exact entered.opens
      | replies lengths complete left _ _ _ _ there =>
          obtain ⟨other, member, same⟩ := opens.pending
            (by rw [there]; exact back.phase_held)
            (by rw [there]; exact back.phase_packing)
          rw [left, pendingUrbs] at member
          exact .inl ⟨other, IsoReturn.mem_of_left member, same⟩
      | fails command tables there =>
          obtain ⟨other, member, same⟩ := opens.pending (by rw [there]; rfl)
            (by rw [there]; rfl)
          rw [tables.pendingUrbs, pendingUrbs] at member
          exact .inl ⟨other, member, same⟩
      | loses absent empty _ _ there =>
          obtain ⟨other, member, _⟩ := opens.pending (by rw [there]; rfl)
            (by rw [there]; rfl)
          rw [empty] at member
          simp at member
  | completes now index urb reply _ _ _ _ _ _ pendingUrbs _ _ _ _ there =>
      obtain ⟨other, member, same⟩ := opens.pending (by rw [there]; rfl)
        (by rw [there]; rfl)
      rw [pendingUrbs] at member
      exact .inl (.inl ⟨other, List.mem_of_mem_eraseIdx member, same⟩)

theorem Packs.live {urb : PendingUrb} {back : IsoReturn}
    {packets : List IsoPacket} {actual : List Nat} {start : State}
    (sound : Sound dev s)
    (entered : Packs s label urb back packets actual start) : s.Live := by
  cases entered with
  | pass now index urb here =>
      obtain ⟨base, _⟩ := sound.isAttached here fun _ _ _ => id
      exact ⟨base.imported, by simp [here]⟩
  | overflow request clock here =>
      obtain ⟨base, _⟩ := sound.isAttached here fun _ _ _ => id
      exact ⟨base.imported, by simp [here]⟩
  | returned here =>
      obtain ⟨base, _⟩ := sound.isAttached here fun _ _ _ => id
      exact ⟨base.imported, by simp [here]⟩

theorem Tracked.arrival (tracked : Tracked dev s) (live : s.Live) :
    (queueOf s ++ s.phase.hand.toList).Pairwise fun earlier later =>
      earlier.ticket < later.ticket :=
  ordered tracked.ledger (tracked.goesOn live)

theorem ticket_ne_of_erased {pendingUrbs : List PendingUrb} {index : Nat}
    {urb other : PendingUrb}
    (arrival : pendingUrbs.Pairwise fun earlier later =>
      earlier.ticket < later.ticket)
    (filed : pendingUrbs[index]? = some urb)
    (member : other ∈ pendingUrbs.eraseIdx index) :
    other.ticket ≠ urb.ticket := by
  obtain ⟨bound, here⟩ := List.getElem?_eq_some_iff.mp filed
  rw [List.eraseIdx_eq_take_drop_succ] at member
  rw [← List.take_append_drop index pendingUrbs,
    List.drop_eq_getElem_cons bound, here] at arrival
  obtain ⟨_, later, across⟩ := List.pairwise_append.mp arrival
  rcases List.mem_append.mp member with early | late
  · exact Nat.ne_of_lt (across other early urb List.mem_cons_self)
  · exact Nat.ne_of_gt ((List.pairwise_cons.mp later).1 other late)

theorem Packs.distinct {urb other : PendingUrb} {back : IsoReturn}
    {packets : List IsoPacket} {actual : List Nat} {start : State}
    (tracked : Tracked dev s)
    (entered : Packs s label urb back packets actual start)
    (member : other ∈ back.left s.pendingUrbs) : other.ticket ≠ urb.ticket := by
  have arrival := tracked.arrival (entered.live tracked.sound)
  obtain ⟨queued, _, newest⟩ := List.pairwise_append.mp arrival
  have placed := (List.pairwise_map.mp queued)
  have older : ∀ hand, s.phase.hand = some hand → other ∈ s.pendingUrbs →
      other.ticket < hand.ticket := by
    intro hand held inside
    refine newest other.toTransfer (List.mem_map_of_mem inside) hand ?_
    simp [held]
  cases entered with
  | pass now index urb here filed =>
      exact ticket_ne_of_erased placed filed member
  | overflow request clock here =>
      exact Nat.ne_of_lt
        (older (request.transfer true) (by simp [here, Phase.hand]) member)
  | returned here =>
      obtain ⟨_, progress, _⟩ := tracked.sound.isAttached here fun _ _ _ => id
      cases back with
      | command =>
          exact Nat.ne_of_lt
            (older urb.toTransfer (by simp [here, Phase.hand, Continuation.hand])
              member)
      | pass now index =>
          exact ticket_ne_of_erased placed progress.filed member

theorem Answers.notIsochronous {request : Request} {reply : Reply}
    (answers : Answers dev request reply) :
    reply.transfer.isochronous = false := by
  rw [answers.transfer]
  rfl

structure IsoReplied (dev : UsbipDevice) (s : State) (label : Label)
    (s' : State) (reply : Reply) (urb : PendingUrb) (back : IsoReturn)
    (packets : List IsoPacket) (actual lengths : List Nat) (start : State) :
    Prop where
  entered : Packs s label urb back packets actual start
  complete : IsoLengths dev urb packets actual lengths
  told : reply = isoReply urb lengths start.txBuffer
  pendingUrbs : s'.pendingUrbs = back.left s.pendingUrbs
  endpoints : s'.endpoints = start.endpoints
  there : s'.phase = back.phase
  traced : s'.trace = s.trace ++ [.retSubmit reply]

theorem Event.Minor.unreplied {held : Option Request} {events : List Event}
    (minor : ∀ event ∈ events, event.Minor dev held) :
    ∀ event ∈ events, event.isIsoReply = false := by
  intro event member
  cases event with
  | retSubmit reply =>
      obtain ⟨request, _, answers⟩ := minor _ member
      exact answers.notIsochronous
  | _ => rfl

theorem Filing.isoReplied (filing : Filing dev s label s') :
    (∃ events, s'.trace = s.trace ++ events ∧
        ∀ event ∈ events, event.isIsoReply = false) ∨
      ∃ reply urb back packets actual lengths start,
        IsoReplied dev s label s' reply urb back packets actual lengths
          start := by
  cases filing with
  | handed worked =>
      obtain ⟨_, _, _, _, events, traced, minor⟩ := worked
      exact .inl ⟨events, traced, Event.Minor.unreplied minor⟩
  | stays events _ _ _ _ traced minor =>
      exact .inl ⟨events, traced, Event.Minor.unreplied minor⟩
  | forgets events _ _ _ _ _ _ traced minor =>
      exact .inl ⟨events, traced, Event.Minor.unreplied minor⟩
  | imports _ _ _ _ _ _ _ traced =>
      exact .inl ⟨_, traced, by simp [Event.isIsoReply]⟩
  | starts _ _ _ _ _ _ _ _ _ traced =>
      exact .inl ⟨_, traced, by simp [Event.isIsoReply]⟩
  | takes tcpip command events _ _ _ _ _ _ _ _ _ _ _ traced minor =>
      refine .inl ⟨_, traced, ?_⟩
      intro event member
      rcases List.mem_cons.mp member with rfl | member
      · rfl
      · exact Event.Minor.unreplied minor event member
  | queues _ _ _ _ _ _ _ _ _ _ _ _ _ traced =>
      exact .inl ⟨_, traced, by simp [Event.isIsoReply]⟩
  | unlinks _ _ _ _ events _ _ _ _ _ _ _ _ _ _ _ _ traced minor =>
      exact .inl ⟨events, traced, Event.Minor.unreplied minor⟩
  | schedules _ _ _ _ _ _ _ _ _ _ _ traced =>
      exact .inl ⟨_, traced, by simp [Event.isIsoReply]⟩
  | @packs urb back packets actual start _ entered outcome =>
      obtain ⟨pendingUrbs, _, _, _, trace⟩ := entered.start
      rw [← trace]
      cases outcome with
      | calls => exact .inl ⟨[], by simp, by simp⟩
      | replies lengths complete left endpoints _ _ _ there traced =>
          refine .inr ⟨_, urb, back, packets, actual, lengths, start, entered,
            complete, rfl, ?_, endpoints, there, ?_⟩
          · rw [left, pendingUrbs]
          · rw [traced, trace]
      | fails _ _ _ traced => exact .inl ⟨_, traced, by simp [Event.isIsoReply]⟩
      | loses _ _ _ _ _ traced =>
          exact .inl ⟨_, traced, by simp [Event.isIsoReply]⟩
  | completes _ _ urb reply _ _ plain _ answered _ _ _ _ _ _ _ traced =>
      refine .inl ⟨_, traced, ?_⟩
      simp [Event.isIsoReply, answered, plain]

def IsoClosed (s : State) : Prop :=
  ∀ reply, Event.retSubmit reply ∈ s.trace →
    reply.transfer.isochronous = true → ¬ s.Opens reply.transfer.ticket

theorem IsoReplied.closed {reply : Reply} {urb : PendingUrb} {back : IsoReturn}
    {packets : List IsoPacket} {actual lengths : List Nat} {start : State}
    (tracked : Tracked dev s)
    (replied : IsoReplied dev s label s' reply urb back packets actual lengths
      start) : ¬ s'.Opens reply.transfer.ticket := by
  intro opens
  have there := replied.there
  obtain ⟨other, member, same⟩ := opens.pending
    (by rw [there]; exact back.phase_held)
    (by rw [there]; exact back.phase_packing)
  rw [replied.pendingUrbs] at member
  rw [replied.told] at same
  exact replied.entered.distinct tracked member same

theorem IsoClosed.step (closed : IsoClosed s) (tracked : Tracked dev s)
    (recorded : Recorded dev s) (numbered : Numbered dev s)
    (filing : Filing dev s label s') : IsoClosed s' := by
  intro reply member isochronous
  have before : Event.retSubmit reply ∈ s.trace →
      ¬ s'.Opens reply.transfer.ticket := by
    intro earlier opens
    rcases filing.opens opens with still | new
    · exact closed reply earlier isochronous still
    · obtain ⟨request, submitted, replied⟩ := recorded.replies reply earlier
      have below := (numbered.formed request submitted).1
      rw [replied.transfer] at new
      exact absurd new (Nat.ne_of_lt below)
  rcases filing.isoReplied with
    ⟨events, traced, apart⟩ |
      ⟨sent, urb, back, packets, actual, lengths, start, replied⟩
  · rw [traced] at member
    rcases List.mem_append.mp member with earlier | now
    · exact before earlier
    · have plain : reply.transfer.isochronous = false := apart _ now
      rw [isochronous] at plain
      contradiction
  · have traced := replied.traced
    rw [traced] at member
    rcases List.mem_append.mp member with earlier | now
    · exact before earlier
    · obtain rfl := Event.retSubmit.inj (List.mem_singleton.mp now)
      exact replied.closed tracked

theorem reachable_isoClosed (reachable : Reachable dev s) : IsoClosed s := by
  refine reachable.invariant ?_ ?_
  · intro reply member
    simp [initial] at member
  · intro state label next reached earlier _ stepped
    have tracked := reachable_tracked reached
    exact earlier.step tracked (reachable_recorded reached)
      (reachable_numbered reached) (step_filing tracked.sound stepped)

end

end UsbipServer
