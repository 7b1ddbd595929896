import UsbipServer.Refine.Filing

namespace UsbipServer

open Wire Library

/-! Every pending transfer and every reply goes back to the submit it was made
from. -/

structure Numbered (dev : UsbipDevice) (s : State) : Prop where
  formed : ∀ request, Event.submit request ∈ s.trace →
    request.ticket < s.tickets ∧
      WellFormedSubmit (loadEndpoints dev.configDesc) request.command
  unique : ∀ request other, Event.submit request ∈ s.trace →
    Event.submit other ∈ s.trace → request.ticket = other.ticket →
    request = other

def PendingUrb.Records (dev : UsbipDevice) (request : Request)
    (urb : PendingUrb) : Prop :=
  request.isochronous dev = false ∧ urb = request.urb ∨
    request.isochronous dev = true ∧ ∃ completeUs,
      urb = request.isoUrb completeUs

structure Replied (dev : UsbipDevice) (request : Request) (reply : Reply) :
    Prop where
  transfer : reply.transfer = request.accepted dev
  plain : request.isochronous dev = false →
    reply.ret.actualLength.toNat ≤ request.transferBufferLength.toNat
  outward : request.isochronous dev = true → request.direction = 0 →
    reply.ret.actualLength.toNat =
      (request.isoPackets.map fun packet => packet.length.toNat).sum
  inward : request.isochronous dev = true → request.direction ≠ 0 →
    reply.ret.actualLength.toNat ≤ request.transferBufferLength.toNat

structure Recorded (dev : UsbipDevice) (s : State) : Prop where
  held : ∀ request, s.phase.held = some request →
    Event.submit request ∈ s.trace
  pending : ∀ urb ∈ s.pendingUrbs, ∃ request,
    Event.submit request ∈ s.trace ∧ urb.Records dev request
  packing : ∀ work, s.phase.packing = some work → ∃ request,
    Event.submit request ∈ s.trace ∧ work.urb.Records dev request
  replies : ∀ reply, Event.retSubmit reply ∈ s.trace → ∃ request,
    Event.submit request ∈ s.trace ∧ Replied dev request reply

section

variable {dev : UsbipDevice} {s s' : State} {label : Label}

theorem Event.Minor.not_submit {held : Option Request} {events : List Event}
    (minor : ∀ event ∈ events, event.Minor dev held) (request : Request) :
    Event.submit request ∉ events :=
  fun member => minor _ member

theorem Filing.submits (filing : Filing dev s label s') :
    (∃ events, s'.trace = s.trace ++ events ∧
        (∀ request, Event.submit request ∉ events) ∧
        s'.tickets = s.tickets) ∨
      ∃ command events,
        s'.trace = s.trace ++ .submit ⟨s.tickets, command⟩ :: events ∧
        (∀ request, Event.submit request ∉ events) ∧
        s'.tickets = s.tickets + 1 ∧
        WellFormedSubmit (loadEndpoints dev.configDesc) command ∧
        s.phase = .serve ∧ label = .wait true ∧
        ∃ tcpip, receiveCommand s.endpoints s.tcpip =
          .command tcpip (.submit command) := by
  cases filing with
  | handed worked =>
      obtain ⟨tables, _, _, _, events, traced, minor⟩ := worked
      exact .inl ⟨events, traced, Event.Minor.not_submit minor, tables.tickets⟩
  | stays events tables _ _ _ traced minor =>
      exact .inl ⟨events, traced, Event.Minor.not_submit minor, tables.tickets⟩
  | forgets events _ _ _ tickets _ _ traced minor =>
      exact .inl ⟨events, traced, Event.Minor.not_submit minor, tickets⟩
  | imports _ _ _ _ _ _ tickets traced =>
      exact .inl ⟨_, traced, by simp, tickets⟩
  | starts clock _ _ _ _ _ _ tickets _ traced =>
      exact .inl ⟨_, traced, by simp, tickets⟩
  | takes tcpip command events here ready received formed _ _ _ tickets _ _ _
      traced minor =>
      exact .inr ⟨command, events, traced, Event.Minor.not_submit minor, tickets,
        formed, here, ready, tcpip, received⟩
  | queues tcpip command here ready received formed _ _ _ _ tickets _ _ traced =>
      exact .inr ⟨command, _, traced, by simp, tickets, formed, here, ready,
        tcpip, received⟩
  | unlinks _ _ _ _ events _ _ _ _ _ _ _ _ tickets _ _ _ traced minor =>
      exact .inl ⟨events, traced, Event.Minor.not_submit minor, tickets⟩
  | schedules _ _ _ _ _ _ _ _ tickets _ _ traced =>
      exact .inl ⟨_, traced, by simp, tickets⟩
  | @packs urb back packets actual start _ entered outcome =>
      obtain ⟨_, _, tickets, _, trace⟩ := entered.start
      rw [← tickets, ← trace]
      left
      cases outcome with
      | calls => exact ⟨[], by simp, by simp, rfl⟩
      | replies lengths complete _ _ _ kept _ _ traced =>
          exact ⟨_, traced, by simp, kept⟩
      | fails _ tables _ traced => exact ⟨_, traced, by simp, tables.tickets⟩
      | loses _ _ _ kept _ traced => exact ⟨_, traced, by simp, kept⟩
  | completes now index urb reply _ _ _ _ _ _ _ _ _ tickets _ _ traced =>
      exact .inl ⟨_, traced, by simp, tickets⟩

theorem Numbered.step (numbered : Numbered dev s)
    (filing : Filing dev s label s') : Numbered dev s' := by
  rcases filing.submits with
    ⟨events, traced, none, tickets⟩ |
      ⟨command, events, traced, none, tickets, formed, _⟩
  · have old : ∀ request, Event.submit request ∈ s'.trace →
        Event.submit request ∈ s.trace := by
      intro request member
      rw [traced] at member
      exact (List.mem_append.mp member).resolve_right (none request)
    refine ⟨?_, ?_⟩
    · intro request member
      rw [tickets]
      exact numbered.formed request (old request member)
    · intro request other member alsoMember same
      exact numbered.unique request other (old _ member) (old _ alsoMember) same
  · have either : ∀ request, Event.submit request ∈ s'.trace →
        Event.submit request ∈ s.trace ∨ request = ⟨s.tickets, command⟩ := by
      intro request member
      rw [traced] at member
      rcases List.mem_append.mp member with old | new
      · exact .inl old
      · rcases List.mem_cons.mp new with same | later
        · exact .inr (Event.submit.inj same)
        · exact absurd later (none request)
    refine ⟨?_, ?_⟩
    · intro request member
      rw [tickets]
      rcases either request member with old | rfl
      · obtain ⟨below, wellFormed⟩ := numbered.formed request old
        exact ⟨Nat.lt_succ_of_lt below, wellFormed⟩
      · exact ⟨Nat.lt_succ_self _, formed⟩
    · intro request other member alsoMember same
      rcases either request member with old | rfl
      · rcases either other alsoMember with alsoOld | rfl
        · exact numbered.unique request other old alsoOld same
        · exact absurd same (Nat.ne_of_lt (numbered.formed request old).1)
      · rcases either other alsoMember with alsoOld | rfl
        · exact absurd same.symm
            (Nat.ne_of_lt (numbered.formed other alsoOld).1)
        · rfl

theorem reachable_numbered (reachable : Reachable dev s) : Numbered dev s := by
  refine reachable.invariant ?_ ?_
  · exact ⟨by simp [initial], by simp [initial]⟩
  · intro state label next reached earlier _ stepped
    exact earlier.step (step_filing (reachable_tracked reached).sound stepped)

theorem Answers.replied {request : Request} {reply : Reply}
    (answers : Answers dev request reply) : Replied dev request reply := by
  refine ⟨?_, fun _ => answers.fits, ?_, ?_⟩
  · rw [answers.transfer, Request.accepted, answers.plain]
  · intro isochronous
    rw [answers.plain] at isochronous
    contradiction
  · intro isochronous
    rw [answers.plain] at isochronous
    contradiction

theorem PendingUrb.Records.transfer {request : Request} {urb : PendingUrb}
    (records : urb.Records dev request) :
    urb.toTransfer = request.accepted dev := by
  rcases records with ⟨plain, rfl⟩ | ⟨isochronous, completeUs, rfl⟩
  · rw [Request.accepted, plain]
    rfl
  · rw [Request.accepted, isochronous]
    rfl

theorem PendingUrb.Records.packets {request : Request} {urb : PendingUrb}
    (records : urb.Records dev request) (isochronous : urb.isochronous = true) :
    request.isochronous dev = true ∧ urb.packets = request.isoPackets := by
  rcases records with ⟨plain, rfl⟩ | ⟨kind, completeUs, rfl⟩
  · exact absurd isochronous (by simp [Request.urb, Request.transfer])
  · exact ⟨kind, rfl⟩

theorem Packs.progress {urb : PendingUrb} {back : IsoReturn}
    {packets : List IsoPacket} {actual : List Nat} {start : State}
    (sound : Sound dev s)
    (entered : Packs s label urb back packets actual start) :
    IsoProgress s.tickets s.pendingUrbs urb actual packets back := by
  cases entered with
  | pass now index urb here filed isochronous =>
      obtain ⟨base, _⟩ := sound.isAttached here fun _ _ _ => id
      exact ⟨base.pending urb (List.mem_of_getElem? filed), isochronous, rfl,
        by simp, by simp, by simp, filed⟩
  | overflow request clock here =>
      obtain ⟨_, handling, isochronous⟩ := sound.isAttached here fun _ _ _ => id
      exact ⟨Request.isoUrb_sound handling isochronous, rfl, rfl, by simp,
        by simp, by simp, trivial⟩
  | @returned made length urb actual packet rest back written here =>
      obtain ⟨_, progress, _⟩ := sound.isAttached here fun _ _ _ => id
      have offered : isoMaxLength urb actual packet ≤ packet.length.toNat :=
        Nat.min_le_left _ _
      refine progress.next ((Nat.min_le_right _ _).trans offered) ?_
      intro inward
      have room := progress.room inward
      simp only [isoMaxLength]
      omega

theorem Packs.outward {urb : PendingUrb} {back : IsoReturn}
    {packets : List IsoPacket} {actual : List Nat} {start : State}
    (sound : Sound dev s)
    (entered : Packs s label urb back packets actual start)
    (direction : urb.direction = 0) : actual = [] ∧ packets = urb.packets := by
  cases entered with
  | pass => exact ⟨rfl, rfl⟩
  | overflow => exact ⟨rfl, rfl⟩
  | returned here =>
      obtain ⟨_, _, inward⟩ := sound.isAttached here fun _ _ _ => id
      exact absurd direction inward

theorem isoReply_replied {urb : PendingUrb} {back : IsoReturn}
    {packets : List IsoPacket} {actual lengths : List Nat} {start : State}
    {request : Request} {txBuffer : Buffer Cell} (sound : Sound dev s)
    (entered : Packs s label urb back packets actual start)
    (complete : IsoLengths dev urb packets actual lengths)
    (records : urb.Records dev request) :
    Replied dev request (isoReply urb lengths txBuffer) := by
  have progress := entered.progress sound
  obtain ⟨isochronous, described⟩ := records.packets progress.isochronous
  have transfer := records.transfer
  refine ⟨transfer, ?_, ?_, ?_⟩
  · intro plain
    rw [isochronous] at plain
    contradiction
  · intro _ direction
    have outward : urb.direction = 0 :=
      (congrArg Transfer.direction transfer).trans direction
    obtain ⟨rfl, rfl⟩ := entered.outward sound outward
    obtain rfl := complete.outward outward
    have small : (urb.packets.map fun packet =>
        packet.length.toNat).sum < UInt32.size := by
      refine progress.sound.total progress.isochronous (by simp) ?_
      simpa using progress.sound.inside
    rw [← described]
    simp only [isoReply, List.nil_append, UInt32.toNat_ofNat_of_lt' small]
  · intro _ direction
    have inward : urb.direction ≠ 0 := by
      rw [show urb.direction = request.direction from
        congrArg Transfer.direction transfer]
      exact direction
    have same : lengths.sum = actual.sum := by
      cases callback : dev.isoInCallback with
      | true => rw [(complete.called inward callback).2]
      | false => simp [complete.silent inward callback]
    have room := progress.room inward
    have asked : urb.transferBufferLength = request.transferBufferLength :=
      congrArg Transfer.transferBufferLength transfer
    have bound := urb.transferBufferLength.toNat_lt
    have small : lengths.sum < UInt32.size := by
      simp only [UInt32.size]
      omega
    simp only [isoReply, UInt32.toNat_ofNat_of_lt' small]
    rw [same, ← asked]
    exact room

theorem Recorded.later (recorded : Recorded dev s) (events : List Event)
    (traced : s'.trace = s.trace ++ events)
    (held : ∀ request, s'.phase.held = some request →
      s.phase.held = some request ∨ Event.submit request ∈ s'.trace)
    (pending : ∀ urb ∈ s'.pendingUrbs, urb ∈ s.pendingUrbs ∨
      ∃ request, Event.submit request ∈ s'.trace ∧ urb.Records dev request)
    (packing : ∀ work, s'.phase.packing = some work →
      s.phase.packing = some work ∨
      ∃ request, Event.submit request ∈ s'.trace ∧
        work.urb.Records dev request)
    (replies : ∀ reply, Event.retSubmit reply ∈ events →
      ∃ request, Event.submit request ∈ s'.trace ∧
        Replied dev request reply) : Recorded dev s' := by
  have kept : ∀ request, Event.submit request ∈ s.trace →
      Event.submit request ∈ s'.trace := by
    intro request member
    rw [traced]
    exact List.mem_append_left _ member
  refine ⟨?_, ?_, ?_, ?_⟩
  · intro request inHand
    rcases held request inHand with before | now
    · exact kept request (recorded.held request before)
    · exact now
  · intro urb member
    rcases pending urb member with before | now
    · obtain ⟨request, submitted, records⟩ := recorded.pending urb before
      exact ⟨request, kept request submitted, records⟩
    · exact now
  · intro work collecting
    rcases packing work collecting with before | now
    · obtain ⟨request, submitted, records⟩ := recorded.packing work before
      exact ⟨request, kept request submitted, records⟩
    · exact now
  · intro reply member
    rw [traced] at member
    rcases List.mem_append.mp member with before | now
    · obtain ⟨request, submitted, replied⟩ := recorded.replies reply before
      exact ⟨request, kept request submitted, replied⟩
    · exact replies reply now

theorem Recorded.free (recorded : Recorded dev s) (events : List Event)
    (traced : s'.trace = s.trace ++ events) (held : s'.phase.held = none)
    (packing : s'.phase.packing = none)
    (pending : ∀ urb ∈ s'.pendingUrbs, urb ∈ s.pendingUrbs ∨
      ∃ request, Event.submit request ∈ s'.trace ∧ urb.Records dev request)
    (replies : ∀ reply, Event.retSubmit reply ∈ events →
      ∃ request, Event.submit request ∈ s'.trace ∧
        Replied dev request reply) : Recorded dev s' := by
  refine recorded.later events traced ?_ pending ?_ replies
  · intro request inHand
    rw [held] at inHand
    contradiction
  · intro work collecting
    rw [packing] at collecting
    contradiction

theorem Event.Minor.replied {held : Option Request} {events : List Event}
    {trace : List Event} (minor : ∀ event ∈ events, event.Minor dev held)
    (known : ∀ request, held = some request → Event.submit request ∈ trace) :
    ∀ reply, Event.retSubmit reply ∈ events → ∃ request,
      Event.submit request ∈ trace ∧ Replied dev request reply := by
  intro reply member
  obtain ⟨request, inHand, answers⟩ := minor _ member
  exact ⟨request, known request inHand, answers.replied⟩

theorem Packs.records {urb : PendingUrb} {back : IsoReturn}
    {packets : List IsoPacket} {actual : List Nat} {start : State}
    (recorded : Recorded dev s) (sound : Sound dev s)
    (entered : Packs s label urb back packets actual start) :
    ∃ request, Event.submit request ∈ s.trace ∧ urb.Records dev request := by
  cases entered with
  | pass now index urb here filed =>
      exact recorded.pending urb (List.mem_of_getElem? filed)
  | overflow request clock here =>
      obtain ⟨_, _, isochronous⟩ := sound.isAttached here fun _ _ _ => id
      refine ⟨request, recorded.held request ?_, .inr ⟨isochronous, _, rfl⟩⟩
      simp [here, Phase.held]
  | @returned made length _ actual packet _ _ written here =>
      refine recorded.packing ⟨urb, actual, packet, packets, back⟩ ?_
      simp [here, Phase.packing, Continuation.packing]

theorem Packs.recorded {urb : PendingUrb} {back : IsoReturn}
    {packets : List IsoPacket} {actual : List Nat} {start : State}
    (recorded : Recorded dev s) (sound : Sound dev s)
    (entered : Packs s label urb back packets actual start)
    (outcome : IsoOutcome dev urb back packets actual start s') :
    Recorded dev s' := by
  obtain ⟨request, submitted, records⟩ := entered.records recorded sound
  obtain ⟨pendingUrbs, _, _, _, trace⟩ := entered.start
  cases outcome with
  | calls packet rest split inward callback =>
      refine recorded.later [] (by simp [trace]) ?_ ?_
        ?_ (by simp)
      · intro other inHand
        contradiction
      · intro other member
        rw [← pendingUrbs]
        exact .inl member
      · intro work collecting
        obtain rfl := Option.some.inj collecting
        refine .inr ⟨request, ?_, records⟩
        rw [State.goto, trace]
        exact submitted
  | replies lengths complete left _ _ _ _ there traced =>
      rw [trace] at traced
      have held : s'.phase.held = none := by
        rw [there]
        cases back <;> rfl
      have packing : s'.phase.packing = none := by
        rw [there]
        cases back <;> rfl
      refine recorded.free _ traced held packing ?_ ?_
      · intro other member
        rw [left, pendingUrbs] at member
        left
        cases back with
        | command => exact member
        | pass => exact List.mem_of_mem_eraseIdx member
      · intro reply member
        rw [List.mem_singleton] at member
        obtain rfl := Event.retSubmit.inj member
        refine ⟨request, ?_, isoReply_replied sound entered complete records⟩
        rw [traced]
        exact List.mem_append_left _ submitted
  | fails command tables there traced =>
      rw [trace] at traced
      refine recorded.free _ traced (congrArg Phase.held there)
        (congrArg Phase.packing there) ?_ (by simp)
      intro other member
      rw [tables.pendingUrbs, pendingUrbs] at member
      exact .inl member
  | loses absent empty _ _ there traced =>
      rw [trace] at traced
      refine recorded.free _ traced (congrArg Phase.held there)
        (congrArg Phase.packing there) ?_ (by simp)
      intro other member
      rw [empty] at member
      contradiction

theorem Recorded.step (recorded : Recorded dev s) (sound : Sound dev s)
    (filing : Filing dev s label s') : Recorded dev s' := by
  cases filing with
  | handed worked =>
      obtain ⟨tables, inHand, packing, _, events, traced, minor⟩ := worked
      refine recorded.later _ traced ?_ ?_ ?_ ?_
      · intro request held
        rcases inHand with none | same
        · rw [none] at held
          contradiction
        · rw [same] at held
          exact .inl held
      · intro urb member
        rw [tables.pendingUrbs] at member
        exact .inl member
      · intro work collecting
        rw [packing] at collecting
        contradiction
      · refine Event.Minor.replied minor ?_
        intro request held
        rw [traced]
        exact List.mem_append_left _ (recorded.held request held)
  | stays events tables held packing _ traced minor =>
      refine recorded.later _ traced ?_ ?_ ?_ (Event.Minor.replied minor (by simp))
      · intro request inHand
        rw [held] at inHand
        exact .inl inHand
      · intro urb member
        rw [tables.pendingUrbs] at member
        exact .inl member
      · intro work collecting
        rw [packing] at collecting
        exact .inl collecting
  | forgets events _ empty _ _ held packing traced minor =>
      refine recorded.free _ traced held packing ?_
        (Event.Minor.replied minor (by simp))
      intro urb member
      rw [empty] at member
      contradiction
  | imports _ _ here empty _ _ _ traced =>
      refine recorded.free _ traced (congrArg Phase.held here)
        (congrArg Phase.packing here) ?_ (by simp)
      intro urb member
      rw [empty] at member
      contradiction
  | starts clock _ _ there pendingUrbs _ _ _ _ traced =>
      refine recorded.free _ traced (congrArg Phase.held there)
        (congrArg Phase.packing there) ?_ (by simp)
      intro urb member
      rw [pendingUrbs] at member
      exact .inl member
  | takes tcpip command events _ _ _ _ pendingUrbs _ _ _ _ inHand packing
      traced minor =>
      have submitted : Event.submit ⟨s.tickets, command⟩ ∈ s'.trace := by
        simp [traced]
      refine recorded.later _ traced ?_ ?_ ?_ ?_
      · intro request held
        rcases inHand with none | same
        · rw [none] at held
          contradiction
        · rw [same] at held
          obtain rfl := Option.some.inj held
          exact .inr submitted
      · intro urb member
        rw [pendingUrbs] at member
        exact .inl member
      · intro work collecting
        rw [packing] at collecting
        contradiction
      · intro reply member
        refine Event.Minor.replied minor ?_ reply (by simpa using member)
        intro request same
        obtain rfl := Option.some.inj same
        exact submitted
  | queues tcpip command _ _ _ _ plain pendingUrbs _ _ _ _ there traced =>
      refine recorded.free _ traced (congrArg Phase.held there)
        (congrArg Phase.packing there) ?_ (by simp)
      intro urb member
      rw [pendingUrbs] at member
      rcases List.mem_append.mp member with before | now
      · exact .inl before
      · rw [List.mem_singleton] at now
        exact .inr ⟨⟨s.tickets, command⟩, by simp [traced], .inl ⟨plain, now⟩⟩
  | unlinks _ _ _ _ events _ _ _ _ _ pendingUrbs _ _ _ _ held packing traced
      minor =>
      refine recorded.free _ traced held packing ?_
        (Event.Minor.replied minor (by simp))
      intro urb member
      rw [pendingUrbs] at member
      exact .inl (List.mem_of_mem_eraseIdx member)
  | schedules request clock here _ _ pendingUrbs _ _ _ _ there traced =>
      obtain ⟨_, _, isochronous⟩ := sound.isAttached here fun _ _ _ => id
      have submitted := recorded.held request (by simp [here, Phase.held])
      refine recorded.free _ traced (congrArg Phase.held there)
        (congrArg Phase.packing there) ?_ (by simp)
      intro urb member
      rw [pendingUrbs] at member
      rcases List.mem_append.mp member with before | now
      · exact .inl before
      · rw [List.mem_singleton] at now
        refine .inr ⟨request, ?_, .inr ⟨isochronous, _, now⟩⟩
        rw [traced]
        exact List.mem_append_left _ submitted
  | packs entered outcome => exact entered.recorded recorded sound outcome
  | completes now index urb reply _ filed plain _ answered fits pendingUrbs _ _
      _ _ there traced =>
      refine recorded.free _ traced (congrArg Phase.held there)
        (congrArg Phase.packing there) ?_ ?_
      · intro other member
        rw [pendingUrbs] at member
        exact .inl (List.mem_of_mem_eraseIdx member)
      · intro sent member
        obtain ⟨request, submitted, records⟩ :=
          recorded.pending urb (List.mem_of_getElem? filed)
        have same : sent = reply := by simpa using member
        subst same
        refine ⟨request, ?_, ?_⟩
        · rw [traced]
          exact List.mem_append_left _ submitted
        · rcases records with ⟨kind, rfl⟩ | ⟨kind, completeUs, rfl⟩
          · refine ⟨?_, fun _ => fits, by simp [kind], by simp [kind]⟩
            rw [answered, Request.accepted, kind]
            rfl
          · exact absurd plain (by simp [Request.isoUrb, Request.transfer])

theorem reachable_recorded (reachable : Reachable dev s) : Recorded dev s := by
  refine reachable.invariant ?_ ?_
  · refine ⟨?_, by simp [initial], ?_, by simp [initial]⟩
    · intro request inHand
      contradiction
    · intro work collecting
      contradiction
  · intro state label next reached earlier _ stepped
    have sound := (reachable_tracked reached).sound
    exact earlier.step sound (step_filing sound stepped)

end

end UsbipServer
