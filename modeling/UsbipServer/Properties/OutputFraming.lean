import UsbipServer.Spec.Client
import UsbipServer.Refine.Progress

namespace UsbipServer

open Wire Library Ledger

/-! What a session sends is taken apart by its client into the replies. -/

theorem Event.wire_eq (event : Event) :
    event.wire = event.issued.flatMap ClientReply.encode := by
  cases event with
  | retSubmit reply =>
      simp [Event.wire, Event.issued, Reply.asClient, ClientReply.encode,
        Reply.parts]
  | retUnlink reply =>
      simp [Event.wire, Event.issued, UnlinkReply.asClient, ClientReply.encode,
        UnlinkReply.parts]
  | _ => rfl

theorem wire_issued (events : List Event) :
    events.flatMap Event.wire = (issuedIn events).flatMap ClientReply.encode := by
  induction events with
  | nil => rfl
  | cons event rest induction =>
      simp only [List.flatMap_cons, issuedIn, List.flatMap_append] at induction ⊢
      rw [induction, event.wire_eq]

theorem submissionOf_mem {requests : List Request} {request : Request}
    (distinct : (requests.map Request.seqnum).Nodup)
    (member : request ∈ requests) :
    submissionOf requests request.seqnum = some request := by
  induction requests with
  | nil => simp at member
  | cons first rest induction =>
      simp only [List.map_cons, List.nodup_cons] at distinct
      by_cases same : first.seqnum = request.seqnum
      · rcases List.mem_cons.mp member with rfl | later
        · simp [submissionOf]
        · refine absurd ?_ distinct.1
          rw [same]
          exact List.mem_map_of_mem later
      · rcases List.mem_cons.mp member with rfl | later
        · exact absurd rfl same
        · have found := induction distinct.2 later
          simpa [submissionOf, same] using found

section

variable {dev : UsbipDevice} {events : List Event} {ledger : Ledger}

theorem asClient_fits {reply : Reply} {request : Request}
    (formed : reply.Formed) (origin : reply.transfer = request.accepted dev)
    {requests : List Request}
    (found : submissionOf requests request.seqnum = some request) :
    reply.asClient.Fits dev requests := by
  obtain ⟨inward, outward, packets, plain⟩ := formed
  rw [origin] at inward outward packets plain
  refine ⟨rfl, request, ?_, ?_, ?_⟩
  · simp only [Reply.header, origin]
    exact found
  · by_cases direction : request.direction = 0
    · rw [if_neg (not_not.mpr direction), outward direction]
      rfl
    · rw [if_pos direction, List.length_map]
      exact inward direction
  · cases kind : request.isochronous dev with
    | true =>
        rw [if_pos rfl]
        exact (packets kind).1
    | false =>
        rw [plain kind]
        rfl

theorem issued_fits (run : Run dev events ledger)
    (written : Event.writeFailed ∉ events)
    (distinct : ((submittedIn events).map Request.seqnum).Nodup) :
    ∀ reply ∈ issuedIn events, reply.Fits dev (submittedIn events) := by
  have origin := sourced run written
  intro issued member
  obtain ⟨event, inside, told⟩ := List.mem_flatMap.mp member
  cases event with
  | retSubmit reply =>
      obtain rfl := List.mem_singleton.mp told
      obtain ⟨formed, request, submitted, same⟩ := origin.answered reply inside
      exact asClient_fits formed same
        (submissionOf_mem distinct (mem_submittedIn.mpr submitted))
  | retUnlink reply =>
      obtain rfl := List.mem_singleton.mp told
      rfl
  | _ => simp [Event.issued] at told

end

/-- While no write fails and the submits have distinct sequence numbers, the
bytes after the import reply parse into exactly the replies that were issued,
and the packets of an isochronous reply add up to its length. -/
theorem outputFraming {dev : UsbipDevice} {s : State}
    (reachable : Reachable dev s) (imported : s.deviceImported = true)
    (written : Event.writeFailed ∉ s.session)
    (distinct : ((submittedIn s.session).map Request.seqnum).Nodup) :
    (∃ bytes, s.tcpip.sent = importReply dev ++ bytes ∧
      parseStream (parseReply dev (submittedIn s.session)) bytes =
        some (issuedIn s.session)) ∧
      ∀ reply, Event.retSubmit reply ∈ s.session →
        reply.transfer.isochronous = true →
        (reply.packets.map fun packet => packet.actualLength.toNat).sum =
          reply.ret.actualLength.toNat := by
  have tracked := reachable_tracked reachable
  constructor
  · refine ⟨s.session.flatMap Event.wire, tracked.wire imported written, ?_⟩
    rw [wire_issued]
    refine parseStream_encode ?_ fun reply _ => reply.encode_ne_nil
    intro reply member
    exact parseReply_encode
      (issued_fits tracked.ledger written distinct reply member)
  · intro reply member isochronous
    obtain ⟨formed, _⟩ :=
      (sourced tracked.ledger written).answered reply member
    exact (formed.packets isochronous).2

/-- An isochronous IN transfer of two packets that the device fills in part,
next to a bulk transfer that is cancelled. -/
def mixedLabels : List Label :=
  importLabels
      [.submit ⟨⟨usbipCmdSubmit, 5, 0, 1, 4⟩,
        ⟨0, 8, 0, 2, 0, ⟨0, 0, 0, 0, 0, 0, 0, 0⟩⟩, [],
        [⟨0, 4, 0, 0⟩, ⟨4, 4, 0, 0⟩]⟩,
      bulkIn 6 1 8,
      .unlink ⟨⟨usbipCmdUnlink, 7, 0, 0, 0⟩, ⟨6, Vector.replicate 24 0⟩⟩] ++
    [.wait true, .server 0, .server 0, .server 0, .server 0,
      .wait true, .server 0, .server 0, .server 0, .server 0,
      .wait true, .server 500, .server 0,
      .server 0, .callbackReturn [0xaa, 0xbb] 2,
      .server 0, .callbackReturn [0xcc] 1]

theorem outputFraming_mixed :
    (issuedIn (stateAfter sampleDevice mixedLabels).session).length = 2 ∧
      ∃ bytes, (stateAfter sampleDevice mixedLabels).tcpip.sent =
          importReply sampleDevice ++ bytes ∧
        parseStream (parseReply sampleDevice
            (submittedIn (stateAfter sampleDevice mixedLabels).session)) bytes =
          some (issuedIn (stateAfter sampleDevice mixedLabels).session) :=
  ⟨by decide +kernel,
    (outputFraming (stateAfter_reachable sampleDevice mixedLabels)
      (by decide +kernel) (by decide +kernel) (by decide +kernel)).1⟩

end UsbipServer
