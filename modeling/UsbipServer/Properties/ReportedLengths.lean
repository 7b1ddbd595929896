import UsbipServer.Refine.Recorded

namespace UsbipServer

open Wire Library

/-! A `RET_SUBMIT` reports no more than was asked for, unless the packets of an
isochronous OUT transfer describe parts of its buffer more than once. -/

/-- The packets of an isochronous OUT transfer are together no longer than its
buffer. -/
def Request.packetsFit (dev : UsbipDevice) (request : Request) : Bool :=
  !(request.isochronous dev && decide (request.direction = 0)) ||
    decide ((request.isoPackets.map fun packet => packet.length.toNat).sum ≤
      request.transferBufferLength.toNat)

theorem Replied.reported {dev : UsbipDevice} {request : Request}
    {reply : Reply} (replied : Replied dev request reply) :
    reply.ret.actualLength.toNat ≤ request.transferBufferLength.toNat ↔
      request.packetsFit dev = true := by
  cases kind : request.isochronous dev with
  | false => simpa [Request.packetsFit, kind] using replied.plain kind
  | true =>
      by_cases direction : request.direction = 0
      · rw [replied.outward kind direction]
        simp [Request.packetsFit, kind, direction]
      · simpa [Request.packetsFit, kind, direction] using
          replied.inward kind direction

/-- For every submit that is accepted and the reply to it. -/
theorem reportedLengths {dev : UsbipDevice} {s : State} {request : Request}
    {reply : Reply} (reachable : Reachable dev s)
    (submitted : Event.submit request ∈ s.trace)
    (answered : Event.retSubmit reply ∈ s.trace)
    (same : reply.transfer.ticket = request.ticket) :
    reply.ret.actualLength.toNat ≤ request.transferBufferLength.toNat ↔
      request.packetsFit dev = true := by
  obtain ⟨other, known, replied⟩ :=
    (reachable_recorded reachable).replies reply answered
  rw [replied.transfer] at same
  obtain rfl := (reachable_numbered reachable).unique other request known
    submitted same
  exact replied.reported

def twoPackets (length offset : UInt32) : SubmitCommand :=
  isoOut 1 3 length [⟨0, 2, 0, 0⟩, ⟨offset, 2, 0, 0⟩]
    (List.replicate length.toNat 7)

/-- Both packets are delivered, and the transfer is complete after two service
intervals. -/
def twoPacketsLabels (length offset : UInt32) : List Label :=
  importLabels [.submit (twoPackets length offset)] ++
    [.wait true, .server 0, .callbackReturn [] 0, .server 0,
      .callbackReturn [] 0, .server 0, .server 0, .server 0, .server 0,
      .wait false, .server 250, .server 250]

def twoPacketsReply (length offset : UInt32) : Reply where
  transfer := ⟨0, 1, 3, 0, length, true⟩
  ret := ⟨0, 4, 0, 2, 0⟩
  data := []
  packets := [⟨0, 2, 2, 0⟩, ⟨offset, 2, 2, 0⟩]

theorem reportedLengths_disjoint :
    (Request.mk 0 (twoPackets 4 2)).packetsFit sampleDevice = true ∧
      (twoPacketsReply 4 2).ret.actualLength.toNat ≤
        (Request.mk 0 (twoPackets 4 2)).transferBufferLength.toNat := by
  have fit : (Request.mk 0 (twoPackets 4 2)).packetsFit sampleDevice = true := by
    decide +kernel
  exact ⟨fit, (reportedLengths
    (stateAfter_reachable sampleDevice (twoPacketsLabels 4 2))
    (by decide +kernel) (by decide +kernel) rfl).mpr fit⟩

/-- Both packets contain the second byte of a transfer of three bytes. -/
theorem reportedLengths_overlapping :
    Reachable sampleDevice (stateAfter sampleDevice (twoPacketsLabels 3 1)) ∧
      Event.submit ⟨0, twoPackets 3 1⟩ ∈
        (stateAfter sampleDevice (twoPacketsLabels 3 1)).trace ∧
      Event.retSubmit (twoPacketsReply 3 1) ∈
        (stateAfter sampleDevice (twoPacketsLabels 3 1)).trace ∧
      ¬ (twoPacketsReply 3 1).ret.actualLength.toNat ≤
        (Request.mk 0 (twoPackets 3 1)).transferBufferLength.toNat :=
  ⟨stateAfter_reachable _ _, by decide +kernel, by decide +kernel, by decide⟩

end UsbipServer
