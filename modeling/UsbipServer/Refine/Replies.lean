import UsbipServer.Refine.Sound
import Mathlib.Algebra.Order.BigOperators.Group.List
import Mathlib.Algebra.Order.Ring.Nat

namespace UsbipServer

open Wire Library

/-! Every reply the server builds is well formed. -/

theorem retSubmitReply_formed {transfer : Transfer} {urbStatus : UInt32}
    {actualLength : Nat} {sendData : Bool} {txBuffer : Buffer Cell}
    (plain : transfer.isochronous = false)
    (inward : transfer.direction ≠ 0 →
      actualLength = 0 ∨ sendData = true ∧ actualLength < UInt32.size)
    (outward : transfer.direction = 0 → sendData = false) :
    (retSubmitReply transfer urbStatus actualLength sendData
      txBuffer).Formed := by
  refine ⟨?_, ?_, ?_, fun _ => rfl⟩
  · intro direction
    rcases inward direction with rfl | ⟨rfl, small⟩
    · cases sendData <;> simp [retSubmitReply]
    · simp [retSubmitReply, UInt32.toNat_ofNat_of_lt' small]
  · intro direction
    simp [retSubmitReply, outward direction]
  · intro isochronous
    have contrary : transfer.isochronous = true := isochronous
    rw [plain] at contrary
    contradiction

theorem descriptorOf_lengths {packets : List IsoPacket}
    {actual : List Nat} (same : actual.length = packets.length)
    (small : ∀ length ∈ actual, length < UInt32.size) :
    (List.zipWith descriptorOf packets actual).map
      (fun packet => packet.actualLength.toNat) = actual := by
  induction packets generalizing actual with
  | nil =>
      cases actual with
      | nil => rfl
      | cons length rest => simp at same
  | cons packet packets induction =>
      cases actual with
      | nil => simp at same
      | cons length rest =>
          have first : length < UInt32.size := small length (by simp)
          have counted : rest.length = packets.length := by simpa using same
          have later := induction counted
            fun other member => small other (by simp [member])
          simp [later, descriptorOf, UInt32.toNat_ofNat_of_lt' first]

theorem descriptorOf_echoes {packets : List IsoPacket} {actual : List Nat}
    (same : actual.length = packets.length) :
    (List.zipWith descriptorOf packets actual).map
      (fun packet => (packet.offset, packet.length)) =
        packets.map fun packet => (packet.offset, packet.length) := by
  induction packets generalizing actual with
  | nil => simp
  | cons packet packets induction =>
      cases actual with
      | nil => simp at same
      | cons length rest =>
          have counted : rest.length = packets.length := by simpa using same
          simp [induction counted, descriptorOf]

theorem PendingUrb.Sound.total {tickets : Nat} {urb : PendingUrb}
    {actual : List Nat} (sound : urb.Sound tickets)
    (isochronous : urb.isochronous = true)
    (complete : actual.length = urb.packets.length)
    (small : ∀ length ∈ actual, length ≤ usbipMaxPacketSize) :
    actual.sum < UInt32.size := by
  have few := (sound.count isochronous).2
  have bounded := List.sum_le_card_nsmul actual usbipMaxPacketSize small
  simp only [Nat.nsmul_eq_mul, complete, usbipMaxPacketSize, maxIsoPackets,
    UInt32.size] at bounded few ⊢
  omega

theorem isoReply_formed {tickets : Nat} {urb : PendingUrb}
    {actual : List Nat} {txBuffer : Buffer Cell} (sound : urb.Sound tickets)
    (isochronous : urb.isochronous = true)
    (complete : actual.length = urb.packets.length)
    (small : ∀ length ∈ actual, length ≤ usbipMaxPacketSize) :
    (isoReply urb actual txBuffer).Formed := by
  have counted := (sound.count isochronous).1
  have total := sound.total isochronous complete small
  have each : ∀ length ∈ actual, length < UInt32.size := by
    intro length member
    have bounded := small length member
    simp only [usbipMaxPacketSize, UInt32.size] at bounded ⊢
    omega
  refine ⟨?_, ?_, ?_, ?_⟩
  · intro direction
    have inward : urb.direction ≠ 0 := direction
    simp [isoReply, inward, UInt32.toNat_ofNat_of_lt' total]
  · intro direction
    have outward : urb.direction = 0 := direction
    simp [isoReply, outward]
  · intro _
    constructor
    · simp [isoReply, complete, counted]
    · simp only [isoReply]
      rw [descriptorOf_lengths complete each,
        UInt32.toNat_ofNat_of_lt' total]
  · intro plain
    have contrary : urb.isochronous = false := plain
    rw [isochronous] at contrary
    contradiction

section

variable {dev : UsbipDevice} {s : State}

theorem replied_leads {ledger : Ledger} {event : Event}
    {parts : List (List Byte)} (base : Attached dev s)
    (done : ledger.todo = [])
    (stepped : Ledger.Step dev ledger event ⟨queueOf s, none, []⟩)
    (wire : event.wire = parts.flatten) (goesOn : event.goesOn = true)
    (undecoded : event.decoded = []) :
    Leads dev ledger s
      (({ s with tcpip := (tcpipServerWriteAll s.tcpip parts).2 }.emit
        [if (tcpipServerWriteAll s.tcpip parts).1 then event
          else .writeFailed]).goto
            (.clearEvent (tcpipServerWriteAll s.tcpip parts).1)) := by
  have reads := tcpipServerWriteAll_reads s.tcpip parts
  cases written : tcpipServerWriteAll s.tcpip parts with
  | mk status tcpip =>
      rw [written] at reads
      refine ⟨.attached ⟨base.imported, base.types, base.pending⟩ trivial,
        reads, _, rfl, ?_, ?_, ?_, ?_⟩
      · cases status with
        | true => exact .single stepped
        | false =>
            obtain ⟨queue, hand, todo⟩ := ledger
            subst done
            exact .single .writeFailed
      · cases status with
        | true =>
            intro _
            simpa [wire] using
              tcpipServerWriteAll_sent written
        | false => simp
      · cases status with
        | true =>
            intro _ other member
            simp only [if_true, List.mem_singleton] at member
            rw [member]
            exact goesOn
        | false =>
            intro live
            exact absurd rfl live.2
      · cases status with
        | true => simpa [decodedOf] using undecoded
        | false => rfl

theorem finishSubmit_leads {request : Request} {urbStatus : UInt32}
    {actualLength : Nat} {sendData : Bool} (base : Attached dev s)
    (inward : request.direction ≠ 0 →
      actualLength = 0 ∨ sendData = true ∧ actualLength < UInt32.size)
    (outward : request.direction = 0 → sendData = false) :
    Leads dev ⟨queueOf s, some (request.transfer false), []⟩ s
      (finishSubmit request urbStatus actualLength sendData s) := by
  have formed : (retSubmitReply (request.transfer false) urbStatus actualLength
      sendData s.txBuffer).Formed :=
    retSubmitReply_formed rfl inward outward
  exact replied_leads base rfl (.answered formed) rfl rfl rfl

theorem completed_leads {queue : List Transfer} {reply : Reply}
    {now index : Nat} {tcpip : Tcpip} (base : Attached dev s)
    (stepped : Ledger.Step dev ⟨queue, none, []⟩ (.retSubmit reply)
      ⟨queueOf s, none, []⟩)
    (written : tcpipServerWriteAll s.tcpip reply.parts = (true, tcpip)) :
    Leads dev ⟨queue, none, []⟩ s
      (({ s with tcpip := tcpip }.emit [.retSubmit reply]).goto
        (.pass now index)) := by
  have reads := tcpipServerWriteAll_reads s.tcpip reply.parts
  rw [written] at reads
  refine ⟨.attached ⟨base.imported, base.types, base.pending⟩ trivial, reads,
    [.retSubmit reply], rfl, .single stepped, ?_, ?_, rfl⟩
  · intro _
    simpa [Event.wire] using
      tcpipServerWriteAll_sent written
  · intro _ event member
    rw [List.mem_singleton.mp member]
    rfl

theorem broken_leads {queue : List Transfer} {parts : List (List Byte)}
    {tcpip : Tcpip}
    (written : tcpipServerWriteAll s.tcpip parts = (false, tcpip)) :
    Leads dev ⟨queue, none, []⟩ s
      (lostConnection ({ s with tcpip := tcpip }.emit [.writeFailed])) := by
  have reads := tcpipServerWriteAll_reads s.tcpip parts
  rw [written] at reads
  have failed : Steps (Ledger.Step dev) ⟨queue, none, []⟩
      [.writeFailed, .lost] Ledger.empty :=
    .cons (@Ledger.Step.writeFailed dev queue queue none) (.single .lost)
  refine ⟨.detached rfl rfl trivial, reads, [.writeFailed, .lost], ?_, failed,
    ?_, ?_, rfl⟩
  · simp [lostConnection]
  · simp
  · intro live
    exact absurd live.1 (by simp [lostConnection])

end

/-- The submit in hand while `transmit_iso_ret_submit` works on a transfer. -/
def IsoReturn.hand (urb : PendingUrb) : IsoReturn → Option Transfer
  | .command => some urb.toTransfer
  | .pass _ _ => none

section

variable {dev : UsbipDevice} {s : State} {urb : PendingUrb}
  {actual : List Nat} {back : IsoReturn}

theorem Attached.erase (base : Attached dev s) (index : Nat) :
    Attached dev { s with pendingUrbs := s.pendingUrbs.eraseIdx index } :=
  ⟨base.imported, base.types,
    fun urb member => base.pending urb (List.mem_of_mem_eraseIdx member)⟩

theorem IsoProgress.next {packet : IsoPacket} {rest : List IsoPacket}
    {length : Nat}
    (progress : IsoProgress s.tickets s.pendingUrbs urb actual (packet :: rest) back)
    (small : length ≤ packet.length.toNat)
    (room : urb.direction ≠ 0 →
      actual.sum + length ≤ urb.transferBufferLength.toNat) :
    IsoProgress s.tickets s.pendingUrbs urb (actual ++ [length]) rest back := by
  refine ⟨progress.sound, progress.isochronous, ?_, ?_, ?_, ?_,
    progress.filed⟩
  · rw [List.length_append, ← List.drop_drop, progress.remaining]
    rfl
  · rw [← progress.counted]
    simp only [List.length_append, List.length_cons, List.length_nil]
    omega
  · intro other member
    rcases List.mem_append.mp member with member | member
    · exact progress.small other member
    · have inside : packet ∈ urb.packets := by
        refine List.mem_of_mem_drop (i := actual.length) ?_
        rw [progress.remaining]
        exact List.mem_cons_self
      rw [List.mem_singleton.mp member]
      exact small.trans (progress.sound.inside packet inside)
  · intro inward
    simpa using room inward

theorem IsoProgress.complete {packets : List IsoPacket} {lengths : List Nat}
    (progress : IsoProgress s.tickets s.pendingUrbs urb actual packets back)
    (complete : IsoLengths dev urb packets actual lengths) :
    IsoProgress s.tickets s.pendingUrbs urb lengths [] back := by
  have own : ∀ packet ∈ packets, packet ∈ urb.packets := by
    intro packet member
    rw [← progress.remaining] at member
    exact List.mem_of_mem_drop member
  have parts : ∃ more, lengths = actual ++ more ∧
      more.length = packets.length ∧
      (∀ length ∈ more, length ≤ usbipMaxPacketSize) ∧
      (urb.direction ≠ 0 → more.sum = 0) := by
    by_cases outward : urb.direction = 0
    · refine ⟨_, complete.outward outward, by simp, ?_,
        fun inward => absurd outward inward⟩
      intro length member
      obtain ⟨packet, inside, rfl⟩ := List.mem_map.mp member
      exact progress.sound.inside packet (own packet inside)
    · cases callback : dev.isoInCallback with
      | true =>
          obtain ⟨rfl, rfl⟩ := complete.called outward callback
          exact ⟨[], by simp, rfl, by simp, fun _ => rfl⟩
      | false =>
          refine ⟨_, complete.silent outward callback, by simp, ?_, ?_⟩
          · simp
          · intro _
            simp
  obtain ⟨more, rfl, counted, small, nothing⟩ := parts
  have whole : (actual ++ more).length = urb.packets.length := by
    rw [List.length_append, counted, progress.counted]
  refine ⟨progress.sound, progress.isochronous, ?_, by simpa using whole, ?_,
    ?_, progress.filed⟩
  · rw [whole, List.drop_length]
  · intro length member
    rcases List.mem_append.mp member with member | member
    · exact progress.small length member
    · exact small length member
  · intro inward
    rw [List.sum_append, nothing inward]
    exact progress.room inward

end

end UsbipServer
