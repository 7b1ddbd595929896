import UsbipServer.Refine.Closing
import UsbipServer.Library.Pieces
import Mathlib.Order.Interval.Finset.Nat

namespace UsbipServer

open Wire Library

/-! The reply of an isochronous IN transfer can be cut back into what the
callback left in its buffer for each packet. -/

/-- A call of the isochronous IN callback that returned: the transfer and the
packet it was made for, the space it was given, what it wrote and returned, and
its buffer as it left it. -/
structure IsoCall where
  ticket : Nat
  packet : IsoPacket
  maxLength : Nat
  written : List Byte
  returned : Nat
  buffer : List Byte
  deriving DecidableEq, Repr

namespace IsoCall

def actual (call : IsoCall) : Nat := min call.returned call.maxLength

def data (call : IsoCall) : List Byte := call.buffer.take call.actual

/-- What the callback wrote is at the start of its buffer. -/
structure Made (call : IsoCall) : Prop where
  space : call.buffer.length = call.maxLength
  fits : call.written.length ≤ call.maxLength
  written : call.buffer.take call.written.length = call.written

theorem Made.length_data {call : IsoCall} (made : call.Made) :
    call.data.length = call.actual := by
  rw [data, List.length_take, made.space]
  exact Nat.min_eq_left (Nat.min_le_right _ _)

end IsoCall

def isoCalls (s : State) : Label → List IsoCall
  | .callbackReturn written length =>
      match s.phase with
      | .callback none _ (.isoIn urb actual packet _ _) =>
          let maxLength := isoMaxLength urb actual packet
          let txBuffer := s.txBuffer.write actual.sum
            (written.map fun byte => ⟨byte, none⟩)
          [⟨urb.ticket, packet, maxLength, written, length,
            (txBuffer.slice actual.sum maxLength).map Cell.byte⟩]
      | _ => []
  | _ => []

def callsFor (log : List IsoCall) (ticket : Nat) : List IsoCall :=
  log.filter fun call => call.ticket == ticket

/-- The bytes of the transfer buffer that belong to a packet. -/
def IsoPacket.range (packet : IsoPacket) : Finset Nat :=
  Finset.Ico packet.offset.toNat (packet.offset.toNat + packet.length.toNat)

def Request.packetsDisjoint (request : Request) : Prop :=
  request.isoPackets.Pairwise fun packet other =>
    Disjoint packet.range other.range

/-- A reply to an isochronous IN transfer and the calls made for it. -/
structure RoundTrip (request : Request) (reply : Reply)
    (calls : List IsoCall) : Prop where
  each : calls.map IsoCall.packet = request.isoPackets
  echoed : reply.packets.map (fun packet => (packet.offset, packet.length)) =
    request.isoPackets.map fun packet => (packet.offset, packet.length)
  lengths : reply.packets.map (fun packet => packet.actualLength.toNat) =
    calls.map IsoCall.actual
  data : reply.data.map Cell.byte = (calls.map IsoCall.data).flatten
  cut : (reply.packets.map fun packet =>
      packet.actualLength.toNat).splitLengths (reply.data.map Cell.byte) =
    calls.map IsoCall.data
  made : ∀ call ∈ calls, call.Made
  fits : ∀ call ∈ calls, call.actual ≤ call.packet.length.toNat
  total : (calls.map IsoCall.actual).sum ≤ request.transferBufferLength.toNat
  unclamped : request.packetsDisjoint →
    ∀ call ∈ calls, call.maxLength = call.packet.length.toNat

structure Collected (urb : PendingUrb) (calls : List IsoCall)
    (left : List IsoPacket) (txBuffer : Buffer Cell) : Prop where
  packets : calls.map IsoCall.packet ++ left = urb.packets
  data : (txBuffer.slice 0 (calls.map IsoCall.actual).sum).map Cell.byte =
    (calls.map IsoCall.data).flatten
  offered : ∀ before call after, calls = before ++ call :: after →
    call.maxLength = min call.packet.length.toNat
      (urb.transferBufferLength.toNat - (before.map IsoCall.actual).sum)
  made : ∀ call ∈ calls, call.Made

/-- The call for the next packet, which was given the space after what was
collected. -/
def nextCall (urb : PendingUrb) (actual : List Nat) (packet : IsoPacket)
    (txBuffer : Buffer Cell) (written : List Byte) (length : Nat) : IsoCall :=
  ⟨urb.ticket, packet, isoMaxLength urb actual packet, written, length,
    ((txBuffer.write actual.sum (written.map fun byte => ⟨byte, none⟩)).slice
      actual.sum (isoMaxLength urb actual packet)).map Cell.byte⟩

section

variable {urb : PendingUrb} {calls : List IsoCall} {packet : IsoPacket}
  {left : List IsoPacket} {txBuffer : Buffer Cell} {written : List Byte}
  {length : Nat}

theorem nextCall_made {actual : List Nat}
    (fits : written.length ≤ isoMaxLength urb actual packet) :
    (nextCall urb actual packet txBuffer written length).Made := by
  refine ⟨by simp [nextCall], fits, ?_⟩
  have told := Buffer.slice_write_self txBuffer
    (written.map fun byte => (⟨byte, none⟩ : Cell)) actual.sum
  rw [List.length_map] at told
  simp only [nextCall]
  rw [← List.map_take, Buffer.take_slice _ fits, told, List.map_map]
  exact List.map_id _

theorem Collected.empty (urb : PendingUrb) (txBuffer : Buffer Cell) :
    Collected urb [] urb.packets txBuffer :=
  ⟨rfl, rfl, by simp, by simp⟩

theorem Collected.next {actual : List Nat}
    (collected : Collected urb calls (packet :: left) txBuffer)
    (summed : calls.map IsoCall.actual = actual) (length : Nat)
    (fits : written.length ≤ isoMaxLength urb actual packet) :
    Collected urb
      (calls ++ [nextCall urb actual packet txBuffer written length]) left
      (txBuffer.write actual.sum (written.map fun byte => ⟨byte, none⟩)) := by
  subst summed
  generalize called : nextCall urb (calls.map IsoCall.actual) packet txBuffer
    written length = call
  refine ⟨?_, ?_, ?_, ?_⟩
  · rw [← collected.packets, ← called]
    simp [nextCall]
  · -- what was collected before lies in front of the new packet
    have short : call.actual ≤ call.maxLength := Nat.min_le_right _ _
    have quoted : call.data = ((txBuffer.write (calls.map IsoCall.actual).sum
        (written.map fun byte => ⟨byte, none⟩)).slice
          (calls.map IsoCall.actual).sum call.actual).map Cell.byte := by
      rw [← called] at short ⊢
      simp only [IsoCall.data, nextCall] at short ⊢
      rw [← List.map_take, Buffer.take_slice _ short]
    rw [List.map_append, List.sum_append, List.map_singleton,
      List.sum_singleton, Buffer.slice_add,
      Buffer.slice_write_before _ _ (by omega), List.map_append,
      collected.data, Nat.zero_add, List.map_append, List.flatten_append,
      List.map_singleton, List.flatten_singleton, quoted]
  · intro before other after split
    rcases extended_split split with ⟨rest, old⟩ | ⟨middle, rfl, new⟩
    · exact collected.offered before other rest old
    · cases middle with
      | nil =>
          rw [List.append_nil]
          obtain ⟨rfl, _⟩ := List.cons.inj new
          rw [← called]
          rfl
      | cons first middle =>
          have long := congrArg List.length new
          simp at long
  · intro other member
    rcases List.mem_append.mp member with old | new
    · exact collected.made other old
    · rw [List.mem_singleton.mp new, ← called]
      exact nextCall_made fits

theorem Collected.fits (collected : Collected urb calls left txBuffer)
    {call : IsoCall} (member : call ∈ calls) :
    call.actual ≤ call.packet.length.toNat := by
  obtain ⟨before, after, split⟩ := List.append_of_mem member
  calc call.actual
      ≤ call.maxLength := Nat.min_le_right _ _
    _ ≤ call.packet.length.toNat := by
        rw [collected.offered before call after split]
        exact Nat.min_le_left _ _

theorem sum_actual_le {calls : List IsoCall} {bound : Nat}
    (offered : ∀ before call after, calls = before ++ call :: after →
      call.maxLength ≤ bound - (before.map IsoCall.actual).sum) :
    (calls.map IsoCall.actual).sum ≤ bound := by
  induction calls using List.reverseRecOn with
  | nil => simp
  | append_singleton calls call induction =>
      have earlier : (calls.map IsoCall.actual).sum ≤ bound := by
        apply induction
        intro before other after split
        apply offered before other (after ++ [call])
        simp [split]
      have last := offered calls call [] rfl
      have short : call.actual ≤ call.maxLength := Nat.min_le_right _ _
      rw [List.map_append, List.sum_append, List.map_singleton,
        List.sum_singleton]
      omega

theorem Collected.total (collected : Collected urb calls left txBuffer) :
    (calls.map IsoCall.actual).sum ≤ urb.transferBufferLength.toNat := by
  apply sum_actual_le
  intro before call after split
  rw [collected.offered before call after split]
  exact Nat.min_le_right _ _

theorem Request.packets_sum_le {request : Request}
    (inside : ∀ packet ∈ request.isoPackets,
      packet.offset.toNat + packet.length.toNat ≤
        request.transferBufferLength.toNat)
    (disjoint : request.packetsDisjoint) :
    (request.isoPackets.map fun packet => packet.length.toNat).sum ≤
      request.transferBufferLength.toNat := by
  have measured : ((request.isoPackets.map IsoPacket.range).map
      Finset.card).sum ≤
        (Finset.Ico 0 request.transferBufferLength.toNat).card := by
    apply sum_card_le_of_disjoint ?_ (List.pairwise_map.mpr disjoint)
    intro piece member
    obtain ⟨packet, listed, rfl⟩ := List.mem_map.mp member
    exact Finset.Ico_subset_Ico (Nat.zero_le _) (inside packet listed)
  simpa [List.map_map, Function.comp_def, IsoPacket.range] using measured

theorem Collected.unclamped {request : Request}
    (collected : Collected urb calls [] txBuffer)
    (described : urb.packets = request.isoPackets)
    (asked : urb.transferBufferLength = request.transferBufferLength)
    (inside : ∀ packet ∈ request.isoPackets,
      packet.offset.toNat + packet.length.toNat ≤
        request.transferBufferLength.toNat)
    (disjoint : request.packetsDisjoint) {call : IsoCall}
    (member : call ∈ calls) : call.maxLength = call.packet.length.toNat := by
  obtain ⟨before, after, split⟩ := List.append_of_mem member
  have used : (before.map IsoCall.actual).sum ≤
      (before.map fun other => other.packet.length.toNat).sum := by
    apply List.sum_le_sum
    intro other listed
    apply collected.fits
    rw [split]
    exact List.mem_append_left _ listed
  have whole := Request.packets_sum_le inside disjoint
  have packets := collected.packets
  rw [List.append_nil, described] at packets
  rw [← packets, split] at whole
  simp only [List.map_append, List.map_cons, List.map_map, List.sum_append,
    List.sum_cons, Function.comp_def] at whole
  rw [collected.offered before call after split, asked]
  omega

end

theorem Collected.roundTrip {urb : PendingUrb} {calls : List IsoCall}
    {txBuffer : Buffer Cell} {request : Request}
    (collected : Collected urb calls [] txBuffer)
    (described : urb.packets = request.isoPackets)
    (asked : urb.transferBufferLength = request.transferBufferLength)
    (inward : urb.direction ≠ 0)
    (inside : ∀ packet ∈ request.isoPackets,
      packet.offset.toNat + packet.length.toNat ≤
        request.transferBufferLength.toNat) :
    RoundTrip request (isoReply urb (calls.map IsoCall.actual) txBuffer)
      calls := by
  have packets : calls.map IsoCall.packet = urb.packets := by
    rw [← collected.packets, List.append_nil]
  have counted : (calls.map IsoCall.actual).length = urb.packets.length := by
    rw [← packets, List.length_map, List.length_map]
  have small : ∀ length ∈ calls.map IsoCall.actual, length < UInt32.size := by
    intro length member
    obtain ⟨call, listed, rfl⟩ := List.mem_map.mp member
    exact (collected.fits listed).trans_lt call.packet.length.toNat_lt
  have lengths := descriptorOf_lengths counted small
  have data : (isoReply urb (calls.map IsoCall.actual) txBuffer).data.map
      Cell.byte = (calls.map IsoCall.data).flatten := by
    rw [← collected.data, isoReply, if_pos inward]
  have sizes : calls.map IsoCall.actual =
      (calls.map IsoCall.data).map List.length := by
    rw [List.map_map]
    apply List.map_congr_left
    intro call member
    exact (collected.made call member).length_data.symm
  refine ⟨packets.trans described, ?_, lengths, data, ?_, collected.made,
    fun call member => collected.fits member, ?_, ?_⟩
  · rw [← described]
    exact descriptorOf_echoes counted
  · rw [data]
    simp only [isoReply]
    rw [lengths, sizes]
    exact splitLengths_flatten _
  · rw [← asked]
    exact collected.total
  · intro disjoint call member
    exact collected.unclamped described asked inside disjoint member

structure Waits (s s' : State) : Prop where
  phase : s'.phase.held = s.phase.held ∧ s'.phase.packing = s.phase.packing
  txBuffer : s'.txBuffer = s.txBuffer
  tables : SameTables s s'
  trace : ∃ events, s'.trace = s.trace ++ events ∧
    ∀ event ∈ events, event.isIsoReply = false

section

variable {dev : UsbipDevice} {s s' : State} {label : Label}

theorem Elsewhere.waits (elsewhere : Elsewhere s s') : Waits s s' := by
  obtain ⟨events, traced, transmit⟩ := elsewhere.trace
  refine ⟨?_, ?_, elsewhere.tables, events, traced, ?_⟩
  · rw [elsewhere.phase]
    exact ⟨rfl, rfl⟩
  · rw [elsewhere.rest]
  · intro event member
    exact (Event.apart_of_transmit (transmit event member)).1

/-- Until the callback returns, nothing happens to what was collected. -/
theorem packing_waits {work : Packing} (collecting : s.phase.packing = some work)
    (quiet : isoCalls s label = []) (stepped : step dev s label = some s') :
    Waits s s' := by
  have moved := step_transition stepped
  have elsewhere : label.isThread = true → Waits s s' :=
    fun kind => (moved.elsewhere kind).waits
  have away : s.phase.packing ≠ none := by simp [collecting]
  cases moved with
  | enters clock next here =>
      refine ⟨?_, rfl, ⟨rfl, rfl, rfl, rfl, rfl⟩, _, rfl, ?_⟩
      · simp [here, Phase.held, Phase.packing]
      · simp [Event.isIsoReply]
  | posts clock call made next here =>
      refine ⟨?_, rfl, ⟨rfl, rfl, rfl, rfl, rfl⟩, _, rfl, ?_⟩
      · simp [here, Phase.held, Phase.packing]
      · simp [Event.isIsoReply]
  | callbackTransmits ep data made next here ran =>
      refine ⟨?_, rfl, ⟨rfl, rfl, rfl, rfl, rfl⟩, _, rfl, ?_⟩
      · simp [here, Phase.held, Phase.packing]
      · intro event member
        exact (Event.apart_of_transmit (ran.transmits event member)).1
  | returns written length made next here =>
      rw [here] at collecting
      cases next with
      | isoIn => simp [isoCalls, here] at quiet
      | _ => contradiction
  | interrupts =>
      exact ⟨⟨rfl, rfl⟩, rfl, ⟨rfl, rfl, rfl, rfl, rfl⟩, [], by simp, by simp⟩
  | transmits | wakes | threadPosts | locks | unlocks => exact elsewhere rfl
  | leaves clock here =>
      rcases here with here | here <;>
        exact absurd (congrArg Phase.packing here) away
  | accepts _ _ here | refuses _ _ here | imports _ _ here | idles here
  | fails _ _ here | submits _ _ here | submitsIso _ _ here | misses _ _ here
  | cancels _ _ _ _ here | controlAnswers _ _ _ here | controlCalls _ _ here
  | controls _ _ _ here | answers _ _ _ here | takesAnswer _ _ _ here
  | fetches _ _ _ _ _ here | schedules _ _ here | overflows _ _ here
  | starts _ here | loses _ here | ends _ _ _ here | later _ _ _ _ here
  | collects _ _ _ _ here | skips _ _ _ _ here | completes _ _ _ _ _ here
  | breaks _ _ _ _ _ here | resets _ _ here | resetCalls _ _ here
  | resetEnds _ _ here | stops _ here =>
      exact absurd (congrArg Phase.packing here) away

end

def Quoted (dev : UsbipDevice) (trace : List Event) (reply : Reply)
    (calls : List IsoCall) : Prop :=
  ∃ urb txBuffer request, Event.submit request ∈ trace ∧
    urb.Records dev request ∧
    reply = isoReply urb (calls.map IsoCall.actual) txBuffer ∧
    Collected urb calls [] txBuffer

structure CallsKept (dev : UsbipDevice) (s : State) (log : List IsoCall) :
    Prop where
  past : ∀ call ∈ log, call.ticket < s.tickets
  fresh : ∀ ticket, s.Opens ticket →
    (∀ work, s.phase.packing = some work → work.urb.ticket ≠ ticket) →
    callsFor log ticket = []
  packing : ∀ work, s.phase.packing = some work →
    Collected work.urb (callsFor log work.urb.ticket) (work.packet :: work.rest)
        s.txBuffer ∧
      (callsFor log work.urb.ticket).map IsoCall.actual = work.actual
  done : ∀ reply, Event.retSubmit reply ∈ s.trace →
    reply.transfer.isochronous = true → reply.transfer.direction ≠ 0 →
    Quoted dev s.trace reply (callsFor log reply.transfer.ticket)

section

variable {dev : UsbipDevice} {s s' : State} {label : Label}
  {log : List IsoCall}

theorem Quoted.later {trace more : List Event} {reply : Reply}
    {calls : List IsoCall} (quoted : Quoted dev trace reply calls) :
    Quoted dev (trace ++ more) reply calls := by
  obtain ⟨urb, txBuffer, request, submitted, rest⟩ := quoted
  exact ⟨urb, txBuffer, request, List.mem_append_left _ submitted, rest⟩

theorem callsFor_past {ticket : Nat}
    (past : ∀ call ∈ log, call.ticket < ticket) : callsFor log ticket = [] := by
  apply List.filter_eq_nil_iff.mpr
  intro call member
  simpa using Nat.ne_of_lt (past call member)

theorem callsFor_other {call : IsoCall} {ticket : Nat}
    (other : call.ticket ≠ ticket) :
    callsFor (log ++ [call]) ticket = callsFor log ticket := by
  simp [callsFor, List.filter_append, other]

theorem callsFor_same (log : List IsoCall) (call : IsoCall) :
    callsFor (log ++ [call]) call.ticket =
      callsFor log call.ticket ++ [call] := by
  simp [callsFor, List.filter_append]

theorem Filing.tickets_le (filing : Filing dev s label s') :
    s.tickets ≤ s'.tickets := by
  rcases filing.submits with
    ⟨_, _, _, same⟩ | ⟨_, _, _, _, next, _⟩ <;> omega

theorem CallsKept.waits (kept : CallsKept dev s log) (waits : Waits s s') :
    CallsKept dev s' log := by
  obtain ⟨⟨held, packing⟩, txBuffer, tables, events, traced, apart⟩ := waits
  refine ⟨?_, ?_, ?_, ?_⟩
  · rw [tables.tickets]
    exact kept.past
  · intro ticket opens others
    apply kept.fresh ticket
    · unfold State.Opens at opens ⊢
      rw [tables.pendingUrbs, held, packing] at opens
      exact opens
    · rw [← packing]
      exact others
  · intro work collecting
    rw [packing] at collecting
    rw [txBuffer]
    exact kept.packing work collecting
  · intro reply member isochronous inward
    rw [traced] at member ⊢
    rcases List.mem_append.mp member with before | now
    · exact (kept.done reply before isochronous inward).later
    · have plain : reply.transfer.isochronous = false := apart _ now
      rw [isochronous] at plain
      contradiction

theorem Packs.begins {urb : PendingUrb} {back : IsoReturn}
    {packets : List IsoPacket} {actual : List Nat} {start : State}
    (entered : Packs s label urb back packets actual start)
    (idle : s.phase.packing = none) :
    actual = [] ∧ packets = urb.packets ∧ start.txBuffer = s.txBuffer := by
  cases entered with
  | pass => exact ⟨rfl, rfl, rfl⟩
  | overflow => exact ⟨rfl, rfl, rfl⟩
  | returned here =>
      rw [here] at idle
      contradiction

theorem Filing.begins {work : Packing} (filing : Filing dev s label s')
    (idle : s.phase.packing = none)
    (collecting : s'.phase.packing = some work) :
    s.Opens work.urb.ticket ∧ work.actual = [] ∧
      work.urb.packets = work.packet :: work.rest := by
  rcases filing.packing_cases collecting with before | ⟨start, entered⟩
  · rw [idle] at before
    contradiction
  · obtain ⟨none, whole, _⟩ := entered.begins idle
    exact ⟨entered.opens, none, whole.symm⟩

theorem CallsKept.idle (kept : CallsKept dev s log)
    (callback : dev.isoInCallback = true) (sound : Sound dev s)
    (recorded : Recorded dev s) (filing : Filing dev s label s')
    (idle : s.phase.packing = none) : CallsKept dev s' log := by
  have unused : ∀ ticket, s.Opens ticket → callsFor log ticket = [] := by
    intro ticket opens
    apply kept.fresh ticket opens
    simp [idle]
  refine ⟨?_, ?_, ?_, ?_⟩
  · intro call member
    exact (kept.past call member).trans_le filing.tickets_le
  · intro ticket opens _
    rcases filing.opens opens with before | new
    · exact unused ticket before
    · rw [new]
      exact callsFor_past kept.past
  · intro work collecting
    obtain ⟨opens, none, split⟩ := filing.begins idle collecting
    rw [unused _ opens, none, ← split]
    exact ⟨.empty _ _, rfl⟩
  · intro reply member isochronous inward
    rcases filing.isoReplied with
      ⟨events, traced, apart⟩ |
        ⟨sent, urb, back, packets, actual, lengths, start, replied⟩
    · rw [traced] at member ⊢
      rcases List.mem_append.mp member with before | now
      · exact (kept.done reply before isochronous inward).later
      · have plain : reply.transfer.isochronous = false := apart _ now
        rw [isochronous] at plain
        contradiction
    · have traced := replied.traced
      rw [traced] at member ⊢
      rcases List.mem_append.mp member with before | now
      · exact (kept.done reply before isochronous inward).later
      · obtain rfl := Event.retSubmit.inj (List.mem_singleton.mp now)
        obtain ⟨entered, complete, told, _⟩ := replied
        obtain ⟨request, submitted, records⟩ := entered.records recorded sound
        obtain ⟨rfl, rfl, _⟩ := entered.begins idle
        have none := unused _ entered.opens
        subst told
        obtain ⟨empty, rfl⟩ := complete.called inward callback
        refine Quoted.later ⟨urb, start.txBuffer, request, submitted, records,
          ?_⟩
        simp only [isoReply] at none ⊢
        rw [none]
        refine ⟨rfl, ?_⟩
        rw [← empty]
        exact .empty urb _

/-- A transfer whose packet loop ended is closed, whether or not its reply
could be sent. -/
theorem IsoOutcome.closes {urb : PendingUrb} {back : IsoReturn}
    {packets : List IsoPacket} {actual : List Nat} {start : State}
    (tracked : Tracked dev s)
    (entered : Packs s label urb back packets actual start)
    (outcome : IsoOutcome dev urb back packets actual start s')
    (ended : s'.phase.packing = none) : ¬ s'.Opens urb.ticket := by
  obtain ⟨pendingUrbs, _⟩ := entered.start
  intro opens
  cases outcome with
  | calls => contradiction
  | replies _ _ left _ _ _ _ there =>
      obtain ⟨other, member, same⟩ := opens.pending
        (by rw [there]; exact back.phase_held) ended
      rw [left, pendingUrbs] at member
      exact entered.distinct tracked member same
  | fails command tables there =>
      obtain ⟨other, member, same⟩ := opens.pending (by rw [there]; rfl) ended
      rw [tables.pendingUrbs, pendingUrbs] at member
      subst command
      exact entered.distinct tracked member same
  | loses _ empty _ _ there =>
      obtain ⟨other, member, _⟩ := opens.pending (by rw [there]; rfl) ended
      rw [empty] at member
      simp at member

theorem CallsKept.returned (kept : CallsKept dev s log)
    (callback : dev.isoInCallback = true) (tracked : Tracked dev s)
    (recorded : Recorded dev s) (closed : IsoClosed s) {made length : Nat}
    {urb : PendingUrb} {actual : List Nat} {packet : IsoPacket}
    {rest : List IsoPacket} {back : IsoReturn} {written : List Byte}
    (here : s.phase = .callback none made (.isoIn urb actual packet rest back))
    (filing : Filing dev s (.callbackReturn written length) s')
    (fits : written.length ≤ isoMaxLength urb actual packet)
    (outcome : IsoOutcome dev urb back rest
      (actual ++ [min length (isoMaxLength urb actual packet)])
      { s with
        receiveLock := none
        txBuffer := s.txBuffer.write actual.sum
          (written.map fun byte => ⟨byte, none⟩) } s') :
    CallsKept dev s'
      (log ++ [nextCall urb actual packet s.txBuffer written length]) := by
  have entered : Packs s (.callbackReturn written length) urb back rest _ _ :=
    .returned here rfl fits
  have collecting : s.phase.packing =
      some ⟨urb, actual, packet, rest, back⟩ := by
    simp [here, Phase.packing, Continuation.packing]
  obtain ⟨collected, summed⟩ := kept.packing _ collecting
  obtain ⟨_, progress, inward⟩ := tracked.sound.isAttached here fun _ _ _ => id
  have same : callsFor (log ++
      [nextCall urb actual packet s.txBuffer written length]) urb.ticket =
      callsFor log urb.ticket ++
        [nextCall urb actual packet s.txBuffer written length] :=
    callsFor_same log _
  have extended := collected.next summed length fits
  have lengths : (callsFor (log ++
      [nextCall urb actual packet s.txBuffer written length])
        urb.ticket).map IsoCall.actual =
      actual ++ [min length (isoMaxLength urb actual packet)] := by
    rw [same, List.map_append]
    exact congrArg (· ++ _) summed
  have whole : Collected urb (callsFor (log ++
      [nextCall urb actual packet s.txBuffer written length]) urb.ticket) rest
      (s.txBuffer.write actual.sum (written.map fun byte => ⟨byte, none⟩)) := by
    rw [same]
    exact extended
  refine ⟨?_, ?_, ?_, ?_⟩
  · intro call member
    refine Nat.lt_of_lt_of_le ?_ filing.tickets_le
    rcases List.mem_append.mp member with before | now
    · exact kept.past call before
    · rw [List.mem_singleton.mp now]
      exact progress.sound.ticket
  · intro ticket opens others
    by_cases ours : urb.ticket = ticket
    · subst ours
      -- a loop that goes on is the one packed in the next state
      cases collects : s'.phase.packing with
      | none =>
          exact absurd opens
            (IsoOutcome.closes tracked entered outcome collects)
      | some work =>
          obtain ⟨_, _, _, rfl, _⟩ := outcome.waits collects
          exact absurd rfl (others _ collects)
    · rw [callsFor_other ours]
      rcases filing.opens opens with before | new
      · apply kept.fresh ticket before
        intro work also
        rw [collecting] at also
        obtain rfl := Option.some.inj also
        exact ours
      · rw [new]
        exact callsFor_past kept.past
  · intro work also
    obtain ⟨next, later, split, rfl, txBuffer⟩ := outcome.waits also
    refine ⟨?_, lengths⟩
    rw [txBuffer]
    rw [split] at whole
    exact whole
  · intro reply member isochronous toHost
    have before : Event.retSubmit reply ∈ s.trace →
        Quoted dev s.trace reply (callsFor (log ++
          [nextCall urb actual packet s.txBuffer written length])
            reply.transfer.ticket) := by
      intro earlier
      have other : urb.ticket ≠ reply.transfer.ticket := by
        intro equal
        apply closed reply earlier isochronous
        rw [← equal]
        exact entered.opens
      rw [callsFor_other other]
      exact kept.done reply earlier isochronous toHost
    cases outcome with
    | calls => exact before member
    | replies sizes complete _ _ _ _ _ _ traced =>
        rw [traced] at member ⊢
        rcases List.mem_append.mp member with earlier | now
        · exact (before earlier).later
        · obtain rfl := Event.retSubmit.inj (List.mem_singleton.mp now)
          obtain ⟨none, rfl⟩ := complete.called inward callback
          obtain ⟨request, submitted, records⟩ :=
            entered.records recorded tracked.sound
          rw [none] at whole
          exact Quoted.later
            ⟨urb, _, request, submitted, records, by rw [← lengths]; rfl, whole⟩
    | fails _ _ _ traced =>
        rw [traced] at member ⊢
        exact (before (by simpa using member)).later
    | loses _ _ _ _ _ traced =>
        rw [traced] at member ⊢
        exact (before (by simpa using member)).later

theorem isoCalls_cases (s : State) (label : Label) :
    isoCalls s label = [] ∨
      ∃ made urb actual packet rest back written length,
        s.phase = .callback none made (.isoIn urb actual packet rest back) ∧
        label = .callbackReturn written length ∧
        isoCalls s label =
          [nextCall urb actual packet s.txBuffer written length] := by
  unfold isoCalls
  split
  · split
    next here => exact .inr ⟨_, _, _, _, _, _, _, _, here, rfl, rfl⟩
    · exact .inl rfl
  · exact .inl rfl

theorem CallsKept.step (kept : CallsKept dev s log)
    (callback : dev.isoInCallback = true) (reachable : Reachable dev s)
    (stepped : step dev s label = some s') :
    CallsKept dev s' (log ++ isoCalls s label) := by
  have tracked := reachable_tracked reachable
  have recorded := reachable_recorded reachable
  have filing := step_filing tracked.sound stepped
  rcases isoCalls_cases s label with quiet | ⟨made, urb, actual, packet, rest,
    back, written, length, here, rfl, noted⟩
  · rw [quiet, List.append_nil]
    cases collecting : s.phase.packing with
    | none => exact kept.idle callback tracked.sound recorded filing collecting
    | some work => exact kept.waits (packing_waits collecting quiet stepped)
  · rw [noted]
    cases step_transition stepped with
    | returns _ _ _ next there fits ends =>
        rw [here] at there
        cases there
        exact kept.returned callback tracked recorded
          (reachable_isoClosed reachable) here filing fits ends.outcome

theorem reached_callsKept (callback : dev.isoInCallback = true)
    (reached : ((server dev).logged isoCalls).Reaches Machine.anyStep
      (initial, []) (s, log)) : CallsKept dev s log := by
  refine reached.invariant (P := fun pair => CallsKept dev pair.1 pair.2) ?_ ?_
  · refine ⟨by simp, ?_, ?_, ?_⟩
    · intro ticket _ _
      rfl
    · intro work collecting
      contradiction
    · intro reply member
      simp [initial] at member
  · intro pair label next before kept _ stepped
    obtain ⟨moved, noted⟩ := Machine.logged_step stepped
    rw [noted]
    exact kept.step callback (.of_logged before) moved

/-- For every isochronous IN transfer that was answered, with the calls of the
callback that were made for it. -/
theorem isoInRoundTrip {request : Request} {reply : Reply}
    (callback : dev.isoInCallback = true)
    (reached : ((server dev).logged isoCalls).Reaches Machine.anyStep
      (initial, []) (s, log))
    (submitted : Event.submit request ∈ s.trace)
    (answered : Event.retSubmit reply ∈ s.trace)
    (same : reply.transfer.ticket = request.ticket)
    (isochronous : request.isochronous dev = true)
    (inward : request.direction ≠ 0) :
    RoundTrip request reply (callsFor log request.ticket) := by
  have reachable : Reachable dev s := .of_logged reached
  have numbered := reachable_numbered reachable
  obtain ⟨other, known, replied⟩ :=
    (reachable_recorded reachable).replies reply answered
  have accepted := replied.transfer
  rw [accepted] at same
  obtain rfl := numbered.unique other request known submitted same
  have kind : reply.transfer.isochronous = true := by
    rw [accepted]
    exact isochronous
  have direction : reply.transfer.direction ≠ 0 := by
    rw [accepted]
    exact inward
  obtain ⟨urb, txBuffer, origin, alsoKnown, records, told, collected⟩ :=
    (reached_callsKept callback reached).done reply answered kind direction
  have transfer : urb.toTransfer = other.accepted dev := by
    rw [← accepted, told]
    rfl
  obtain rfl := numbered.unique origin other alsoKnown submitted
    (congrArg Transfer.ticket (records.transfer.symm.trans transfer))
  rw [accepted] at told collected
  rw [told]
  refine collected.roundTrip (records.packets ?_).2 ?_ ?_ ?_
  · rw [transfer]
    exact isochronous
  · exact congrArg Transfer.transferBufferLength transfer
  · rw [transfer]
    exact inward
  · intro packet member
    exact Handling.packet_fits ⟨(numbered.formed origin submitted).1,
      (numbered.formed origin submitted).2⟩ isochronous member

end

/-- Two packets of two bytes in a transfer of four, the last half first. -/
def isoIn : SubmitCommand :=
  ⟨⟨usbipCmdSubmit, 1, 0, 1, 4⟩, ⟨0, 4, 0, 2, 0, ⟨0, 0, 0, 0, 0, 0, 0, 0⟩⟩, [],
    [⟨2, 2, 0, 0⟩, ⟨0, 2, 0, 0⟩]⟩

/-- The transfer completes after two service intervals, the callback returns
`first` and then `second`. -/
def isoInLabels (first second : List Byte × Nat) : List Label :=
  importLabels [.submit isoIn] ++
    [.wait true, .server 0, .server 0, .server 0, .server 0, .wait false,
      .server 250, .server 250, .server 250, .callbackReturn first.1 first.2,
      .server 250, .callbackReturn second.1 second.2]

def isoInAfter (first second : List Byte × Nat) : State × List IsoCall :=
  loggedAfter sampleDevice isoCalls (fun _ _ => true)
    (isoInLabels first second)

theorem isoInAfter_reached (first second : List Byte × Nat) :
    ((server sampleDevice).logged isoCalls).Reaches Machine.anyStep
      (initial, [])
      ((isoInAfter first second).1, (isoInAfter first second).2) := by
  rw [Prod.mk.eta]
  exact (loggedAfter_reached sampleDevice isoCalls (fun _ _ => true)
    (isoInLabels first second)).mono fun _ _ _ => trivial

def isoInReply (first second : UInt32) (data : List Byte) : Reply where
  transfer := ⟨0, 1, 4, 1, 4, true⟩
  ret := ⟨0, first + second, 0, 2, 0⟩
  data := data.map fun byte => ⟨byte, none⟩
  packets := [⟨2, 2, first, 0⟩, ⟨0, 2, second, 0⟩]

theorem isoInRoundTrip_short :
    (callsFor (isoInAfter ([1, 2], 9) ([3, 4], 1)).2 0).map IsoCall.data =
        [[1, 2], [3]] ∧
      RoundTrip ⟨0, isoIn⟩ (isoInReply 2 1 [1, 2, 3])
        (callsFor (isoInAfter ([1, 2], 9) ([3, 4], 1)).2 0) := by
  have submitted : Event.submit ⟨0, isoIn⟩ ∈
      (isoInAfter ([1, 2], 9) ([3, 4], 1)).1.trace := by
    decide +kernel
  have answered : Event.retSubmit (isoInReply 2 1 [1, 2, 3]) ∈
      (isoInAfter ([1, 2], 9) ([3, 4], 1)).1.trace := by
    decide +kernel
  exact ⟨by decide +kernel,
    isoInRoundTrip rfl (isoInAfter_reached ([1, 2], 9) ([3, 4], 1)) submitted
      answered rfl (by decide +kernel) (by decide)⟩

/-- The callback of the second packet returns two bytes but wrote none: the
reply has two bytes for it all the same. -/
theorem isoInRoundTrip_unwritten :
    ((server sampleDevice).logged isoCalls).Reaches Machine.anyStep
        (initial, []) ((isoInAfter ([1, 2], 2) ([], 2)).1,
          (isoInAfter ([1, 2], 2) ([], 2)).2) ∧
      Event.submit ⟨0, isoIn⟩ ∈ (isoInAfter ([1, 2], 2) ([], 2)).1.trace ∧
      Event.retSubmit (isoInReply 2 2 [1, 2, 0, 0]) ∈
        (isoInAfter ([1, 2], 2) ([], 2)).1.trace ∧
      ((isoInReply 2 2 [1, 2, 0, 0]).packets.map fun packet =>
          packet.actualLength.toNat).splitLengths
            ((isoInReply 2 2 [1, 2, 0, 0]).data.map Cell.byte) ≠
        (callsFor (isoInAfter ([1, 2], 2) ([], 2)).2 0).map fun call =>
          call.written.take call.actual :=
  ⟨isoInAfter_reached _ _, by decide +kernel, by decide +kernel,
    by decide +kernel⟩

end UsbipServer
