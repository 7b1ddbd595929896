import UsbipServer.Spec.Mailbox
import Mathlib.Data.List.Perm.Basic

namespace UsbipServer

open Wire Library

/-! What a session owes its client.  Every accepted submit is in hand until it
is queued or answered, a queued transfer stays in the queue until it is
completed or cancelled, and the OUT data of the submit in hand is delivered
piece by piece. -/

namespace Request

def isochronous (dev : UsbipDevice) (request : Request) : Bool :=
  isIsochronous (loadEndpoints dev.configDesc) request.command.header

def accepted (dev : UsbipDevice) (request : Request) : Transfer :=
  request.transfer (request.isochronous dev)

/-- The part of the payload a packet describes. -/
def packetData (request : Request) (packet : IsoPacket) : List Byte :=
  (request.command.payload.drop packet.offset.toNat).take packet.length.toNat

/-- The OUT data of a submit as the endpoint callback should see it. -/
def deliveries (dev : UsbipDevice) (request : Request) :
    List (Byte × List Byte) :=
  if request.direction = 0 ∧ request.ep ≠ 0 then
    if request.isochronous dev then
      (request.isoPackets.filter fun packet => 0 < packet.length.toNat).map
        fun packet => (request.ep.toUInt8, request.packetData packet)
    else if request.command.payload.isEmpty then []
    else [(request.ep.toUInt8, request.command.payload)]
  else []

end Request

/-- A reply says exactly what follows it: the data of an IN transfer and the
packets of an isochronous one. -/
structure Reply.Formed (reply : Reply) : Prop where
  inward : reply.transfer.direction ≠ 0 →
    reply.data.length = reply.ret.actualLength.toNat
  outward : reply.transfer.direction = 0 → reply.data = []
  packets : reply.transfer.isochronous = true →
    reply.packets.length = reply.ret.numberOfPackets.toNat ∧
      (reply.packets.map fun packet => packet.actualLength.toNat).sum =
        reply.ret.actualLength.toNat
  plain : reply.transfer.isochronous = false → reply.packets = []

def Event.isSilent : Event → Bool
  | .entered _ => true
  | .stored _ => true
  | .returned _ _ => true
  | .fetched _ _ => true
  | .control _ => true
  | .reset => true
  | .deviceStopped => true
  | .callback (.endpointData _ _) => false
  | .callback _ => true
  | .pass _ => true
  | _ => false

/-- What happened since the device was last imported. -/
abbrev State.session (s : State) : List Event :=
  since Event.isImported s.trace

/-- An event after which a session goes on. -/
def Event.goesOn : Event → Bool
  | .writeFailed => false
  | .lost => false
  | _ => true

def Event.decoded : Event → List Command
  | .submit request => [.submit request.command]
  | .unlink command => [.unlink command]
  | _ => []

def decodedOf (events : List Event) : List Command :=
  events.flatMap Event.decoded

@[simp] theorem decodedOf_append (early late : List Event) :
    decodedOf (early ++ late) = decodedOf early ++ decodedOf late :=
  List.flatMap_append

structure Ledger where
  queue : List Transfer
  hand : Option Transfer
  todo : List (Byte × List Byte)

namespace Ledger

def empty : Ledger := ⟨[], none, []⟩

inductive Step (dev : UsbipDevice) : Ledger → Event → Ledger → Prop
  | submit {queue : List Transfer} {request : Request}
      (newest : ∀ transfer ∈ queue, transfer.ticket < request.ticket) :
      Step dev ⟨queue, none, []⟩ (.submit request)
        ⟨queue, some (request.accepted dev),
          if dev.epDataCallback then request.deliveries dev else []⟩
  | unlink {queue : List Transfer} {command : UnlinkCommand} :
      Step dev ⟨queue, none, []⟩ (.unlink command) ⟨queue, none, []⟩
  | queued {queue : List Transfer} {urb : PendingUrb} :
      Step dev ⟨queue, some urb.toTransfer, []⟩ (.queued urb)
        ⟨queue ++ [urb.toTransfer], none, []⟩
  | answered {queue : List Transfer} {reply : Reply} (formed : reply.Formed) :
      Step dev ⟨queue, some reply.transfer, []⟩ (.retSubmit reply)
        ⟨queue, none, []⟩
  | completed {queue : List Transfer} {reply : Reply} {index : Nat}
      (formed : reply.Formed) (found : queue[index]? = some reply.transfer)
      (data : reply.transfer.isochronous = false → reply.data ≠ []) :
      Step dev ⟨queue, none, []⟩ (.retSubmit reply)
        ⟨queue.eraseIdx index, none, []⟩
  | cancelled {queue : List Transfer} {reply : UnlinkReply}
      {transfer : Transfer} {index : Nat}
      (found : queue[index]? = some transfer)
      (named : transfer.seqnum = reply.unlinkSeqnum)
      (status : reply.status = urbUnlinked)
      (cancelled : reply.cancelled = some transfer) :
      Step dev ⟨queue, none, []⟩ (.retUnlink reply)
        ⟨queue.eraseIdx index, none, []⟩
  | missed {queue : List Transfer} {reply : UnlinkReply}
      (absent : ∀ transfer ∈ queue, transfer.seqnum ≠ reply.unlinkSeqnum)
      (status : reply.status = 0) (cancelled : reply.cancelled = none) :
      Step dev ⟨queue, none, []⟩ (.retUnlink reply) ⟨queue, none, []⟩
  | delivered {queue : List Transfer} {hand : Option Transfer} {ep : Byte}
      {data : List Byte} {rest : List (Byte × List Byte)} :
      Step dev ⟨queue, hand, (ep, data) :: rest⟩
        (.callback (.endpointData ep data)) ⟨queue, hand, rest⟩
  | writeFailed {queue left : List Transfer} {hand : Option Transfer} :
      Step dev ⟨queue, hand, []⟩ .writeFailed ⟨left, none, []⟩
  | lost {queue : List Transfer} : Step dev ⟨queue, none, []⟩ .lost empty
  | silent {ledger : Ledger} {event : Event}
      (apart : event.isSilent = true) : Step dev ledger event ledger

abbrev Run (dev : UsbipDevice) := Steps (Step dev) empty

theorem silent_steps {dev : UsbipDevice} {ledger : Ledger}
    {events : List Event}
    (silent : ∀ event ∈ events, event.isSilent = true) :
    Steps (Step dev) ledger events ledger := by
  induction events with
  | nil => exact .nil
  | cons event rest induction =>
      refine .cons (.silent (silent event (by simp))) (induction ?_)
      intro other member
      exact silent other (by simp [member])

/-! The balance: every submit is answered, cancelled or still open. -/

def submitsOf (seqnum : UInt32) (events : List Event) : Nat :=
  events.countP fun
    | .submit request => request.seqnum == seqnum
    | _ => false

def repliesTo (seqnum : UInt32) (events : List Event) : Nat :=
  events.countP fun
    | .retSubmit reply => reply.transfer.seqnum == seqnum
    | _ => false

def cancelsOf (seqnum : UInt32) (events : List Event) : Nat :=
  events.countP fun
    | .retUnlink reply =>
        reply.unlinkSeqnum == seqnum && reply.status == urbUnlinked
    | _ => false

def openOf (seqnum : UInt32) (ledger : Ledger) : Nat :=
  (ledger.queue ++ ledger.hand.toList).countP fun transfer =>
    transfer.seqnum == seqnum

private theorem countP_eraseIdx {queue : List Transfer} {index : Nat}
    {transfer : Transfer} (test : Transfer → Bool)
    (found : queue[index]? = some transfer) :
    queue.countP test =
      (queue.eraseIdx index).countP test + [transfer].countP test := by
  obtain ⟨bound, here⟩ := List.getElem?_eq_some_iff.mp found
  have moved := (List.getElem_cons_eraseIdx_perm bound).countP_eq test
  rw [here] at moved
  rw [← moved, List.countP_cons]
  simp [List.countP_cons]

theorem balance_step {dev : UsbipDevice} {ledger next : Ledger}
    {event : Event} (seqnum : UInt32) (stepped : Step dev ledger event next)
    (goesOn : event.goesOn = true) :
    submitsOf seqnum [event] + openOf seqnum ledger =
      repliesTo seqnum [event] + cancelsOf seqnum [event] +
        openOf seqnum next := by
  cases stepped with
  | submit =>
      simp [submitsOf, repliesTo, cancelsOf, openOf, List.countP_cons,
        Request.accepted, Request.transfer]
      omega
  | unlink => simp [submitsOf, repliesTo, cancelsOf, openOf]
  | queued =>
      simp [submitsOf, repliesTo, cancelsOf, openOf]
  | answered =>
      simp [submitsOf, repliesTo, cancelsOf, openOf, List.countP_cons]
      omega
  | completed formed found =>
      have erased := countP_eraseIdx (fun transfer => transfer.seqnum == seqnum)
        found
      simp [submitsOf, repliesTo, cancelsOf, openOf, List.countP_cons] at erased ⊢
      omega
  | @cancelled queue reply transfer index found named status cancelled =>
      have erased := countP_eraseIdx (fun transfer => transfer.seqnum == seqnum)
        found
      simp [submitsOf, repliesTo, cancelsOf, openOf, List.countP_cons, named,
        status] at erased ⊢
      omega
  | missed absent status =>
      simp [submitsOf, repliesTo, cancelsOf, openOf, status, urbUnlinked]
  | delivered => simp [submitsOf, repliesTo, cancelsOf, openOf]
  | writeFailed => simp [Event.goesOn] at goesOn
  | lost => simp [Event.goesOn] at goesOn
  | silent apart =>
      cases event <;>
        simp_all [submitsOf, repliesTo, cancelsOf, Event.isSilent]

theorem balance {dev : UsbipDevice} {events : List Event} {ledger : Ledger}
    (run : Run dev events ledger) (seqnum : UInt32)
    (goesOn : ∀ event ∈ events, event.goesOn = true) :
    submitsOf seqnum events =
      repliesTo seqnum events + cancelsOf seqnum events +
        openOf seqnum ledger := by
  revert goesOn
  refine run.history (P := fun seen ledger =>
    (∀ event ∈ seen, event.goesOn = true) →
      submitsOf seqnum seen = repliesTo seqnum seen + cancelsOf seqnum seen +
        openOf seqnum ledger) ?_ ?_
  · intro _
    simp [submitsOf, repliesTo, cancelsOf, openOf, empty]
  · intro seen ledger event next earlier stepped goesOn
    have before := earlier fun other member => goesOn other (by simp [member])
    have now := balance_step seqnum stepped (goesOn event (by simp))
    simp only [submitsOf, repliesTo, cancelsOf, List.countP_append] at before now ⊢
    omega

theorem missed_closed {dev : UsbipDevice} {ledger next : Ledger}
    {reply : UnlinkReply} (stepped : Step dev ledger (.retUnlink reply) next)
    (status : reply.status = 0) : openOf reply.unlinkSeqnum ledger = 0 := by
  cases stepped with
  | cancelled found named unlinked =>
      rw [status] at unlinked
      exact absurd unlinked (by decide)
  | missed absent =>
      simpa [openOf, List.countP_eq_zero] using absent
  | silent apart => simp [Event.isSilent] at apart

def deliveredIn (events : List Event) : List (Byte × List Byte) :=
  events.filterMap fun
    | .callback (.endpointData ep data) => some (ep, data)
    | _ => none

def deliveriesOf (dev : UsbipDevice) (events : List Event) :
    List (Byte × List Byte) :=
  events.flatMap fun
    | .submit request =>
        if dev.epDataCallback then request.deliveries dev else []
    | _ => []

theorem delivery_step {dev : UsbipDevice} {ledger next : Ledger}
    {event : Event} (stepped : Step dev ledger event next) :
    deliveredIn [event] ++ next.todo =
      ledger.todo ++ deliveriesOf dev [event] := by
  cases stepped with
  | silent apart =>
      cases event with
      | callback args =>
          cases args <;> simp_all [deliveredIn, deliveriesOf, Event.isSilent]
      | _ => simp_all [deliveredIn, deliveriesOf, Event.isSilent]
  | _ => simp [deliveredIn, deliveriesOf, empty]

/-- What was delivered, followed by what is still to do, is what the submits
asked for. -/
theorem delivery {dev : UsbipDevice} {events : List Event} {ledger : Ledger}
    (run : Run dev events ledger) :
    deliveredIn events ++ ledger.todo = deliveriesOf dev events := by
  refine run.history (P := fun seen ledger =>
    deliveredIn seen ++ ledger.todo = deliveriesOf dev seen) ?_ ?_
  · simp [deliveredIn, deliveriesOf, empty]
  · intro seen ledger event next earlier stepped
    have delivered : deliveredIn (seen ++ [event]) =
        deliveredIn seen ++ deliveredIn [event] := by
      simp only [deliveredIn, List.filterMap_append]
    have asked : deliveriesOf dev (seen ++ [event]) =
        deliveriesOf dev seen ++ deliveriesOf dev [event] := by
      simp only [deliveriesOf, List.flatMap_append]
    rw [delivered, asked, List.append_assoc, delivery_step stepped,
      ← List.append_assoc, earlier]

/-- The queue is in the order of arrival and the submit in hand is newest. -/
def Ordered (ledger : Ledger) : Prop :=
  (ledger.queue ++ ledger.hand.toList).Pairwise fun earlier later =>
    earlier.ticket < later.ticket

theorem ordered_step {dev : UsbipDevice} {ledger next : Ledger}
    {event : Event} (ordered : ledger.Ordered)
    (stepped : Step dev ledger event next)
    (goesOn : event.goesOn = true) : next.Ordered := by
  cases stepped with
  | submit newest =>
      simp only [Ordered, Option.toList_none, List.append_nil,
        Option.toList_some] at ordered ⊢
      refine List.pairwise_append.mpr ⟨ordered, by simp, ?_⟩
      intro earlier member later last
      rw [List.mem_singleton] at last
      subst last
      exact newest earlier member
  | unlink => exact ordered
  | queued => simpa [Ordered] using ordered
  | answered =>
      exact List.Pairwise.sublist (List.sublist_append_left _ _) ordered |>.sublist
        (by simp)
  | completed =>
      simp only [Ordered, Option.toList_none, List.append_nil] at ordered ⊢
      exact ordered.sublist (List.eraseIdx_sublist _ _)
  | cancelled =>
      simp only [Ordered, Option.toList_none, List.append_nil] at ordered ⊢
      exact ordered.sublist (List.eraseIdx_sublist _ _)
  | missed => exact ordered
  | delivered => exact ordered
  | writeFailed => simp [Event.goesOn] at goesOn
  | lost => simp [Event.goesOn] at goesOn
  | silent => exact ordered

theorem ordered {dev : UsbipDevice} {events : List Event} {ledger : Ledger}
    (run : Run dev events ledger)
    (goesOn : ∀ event ∈ events, event.goesOn = true) : ledger.Ordered := by
  revert goesOn
  refine run.history (P := fun seen ledger =>
    (∀ event ∈ seen, event.goesOn = true) → ledger.Ordered) ?_ ?_
  · intro _
    simp [Ordered, empty]
  · intro seen ledger event next earlier stepped goesOn
    refine ordered_step (earlier ?_) stepped (goesOn event (by simp))
    intro other member
    exact goesOn other (by simp [member])

/-- A transfer was completed, with data unless it is isochronous, or
cancelled. -/
def Settled (transfer : Transfer) (events : List Event) : Prop :=
  (∃ reply, Event.retSubmit reply ∈ events ∧ reply.transfer = transfer ∧
    (transfer.isochronous = false → reply.data ≠ [])) ∨
  ∃ reply, Event.retUnlink reply ∈ events ∧ reply.cancelled = some transfer

theorem Settled.mono {transfer : Transfer} {events more : List Event}
    (settled : Settled transfer events) (included : events ⊆ more) :
    Settled transfer more := by
  rcases settled with ⟨reply, member, rest⟩ | ⟨reply, member, rest⟩
  · exact .inl ⟨reply, included member, rest⟩
  · exact .inr ⟨reply, included member, rest⟩

private theorem mem_eraseIdx_or {queue : List Transfer} {index : Nat}
    {transfer removed : Transfer} (member : transfer ∈ queue)
    (found : queue[index]? = some removed) :
    transfer ∈ queue.eraseIdx index ∨ transfer = removed := by
  obtain ⟨bound, here⟩ := List.getElem?_eq_some_iff.mp found
  have moved := (List.getElem_cons_eraseIdx_perm bound).mem_iff.mpr member
  rw [here, List.mem_cons] at moved
  exact moved.symm

theorem settled_step {dev : UsbipDevice} {ledger next : Ledger}
    {event : Event} {transfer : Transfer}
    (member : transfer ∈ ledger.queue) (stepped : Step dev ledger event next)
    (goesOn : event.goesOn = true) :
    transfer ∈ next.queue ∨ Settled transfer [event] := by
  cases stepped with
  | queued => exact .inl (List.mem_append_left _ member)
  | completed formed found data =>
      rcases mem_eraseIdx_or member found with kept | rfl
      · exact .inl kept
      · exact .inr (.inl ⟨_, List.mem_singleton_self _, rfl, data⟩)
  | cancelled found named status cancelled =>
      rcases mem_eraseIdx_or member found with kept | rfl
      · exact .inl kept
      · exact .inr (.inr ⟨_, List.mem_singleton_self _, cancelled⟩)
  | writeFailed => simp [Event.goesOn] at goesOn
  | lost => simp [Event.goesOn] at goesOn
  | _ => exact .inl member

/-- A queued transfer stays queued until it is completed or cancelled. -/
theorem queued_settled {dev : UsbipDevice} {events : List Event}
    {ledger : Ledger} {urb : PendingUrb} (run : Run dev events ledger)
    (goesOn : ∀ event ∈ events, event.goesOn = true)
    (queued : Event.queued urb ∈ events) :
    urb.toTransfer ∈ ledger.queue ∨ Settled urb.toTransfer events := by
  revert goesOn queued
  refine run.history (P := fun seen ledger =>
    (∀ event ∈ seen, event.goesOn = true) → Event.queued urb ∈ seen →
      urb.toTransfer ∈ ledger.queue ∨ Settled urb.toTransfer seen) ?_ ?_
  · intro _ queued
    simp at queued
  · intro seen ledger event next earlier stepped goesOn queued
    rcases List.mem_append.mp queued with before | now
    · have kept := earlier (fun other member => goesOn other (by simp [member]))
        before
      rcases kept with member | settled
      · rcases settled_step member stepped (goesOn event (by simp)) with
          member | settled
        · exact .inl member
        · exact .inr (settled.mono (by simp))
      · exact .inr (settled.mono (by simp))
    · rw [List.mem_singleton] at now
      subst now
      left
      cases stepped with
      | queued => simp
      | silent apart => simp [Event.isSilent] at apart

end Ledger

end UsbipServer
