import UsbipServer.Spec.Ledger
import UsbipServer.Library.Framing

namespace UsbipServer

open Wire Library

/-! The client's side of the reply stream: what a reply carries follows from the
submit it answers. -/

inductive ClientReply where
  | retSubmit (header : HeaderBasic) (ret : RetSubmit) (data : List Byte)
      (packets : List IsoPacketDescriptor)
  | retUnlink (header : HeaderBasic) (ret : RetUnlink)
  deriving DecidableEq, Repr

namespace ClientReply

def encode : ClientReply → List Byte
  | .retSubmit header ret data packets =>
      header.encode ++ (ret.encode ++ (data ++
        IsoPacketDescriptor.encodeAll packets))
  | .retUnlink header ret => header.encode ++ ret.encode

theorem encode_ne_nil (reply : ClientReply) : reply.encode ≠ [] := by
  cases reply <;> exact List.cons_ne_nil _ _

end ClientReply

def submissionOf (requests : List Request) (seqnum : UInt32) :
    Option Request :=
  requests.find? fun request => request.seqnum == seqnum

/-- What follows a `RET_SUBMIT` for the submit it answers. -/
def parseSubmitReply (dev : UsbipDevice) (request : Request)
    (header : HeaderBasic) (ret : RetSubmit) (input : List Byte) :
    Option (ClientReply × List Byte) :=
  let length := if request.direction ≠ 0 then ret.actualLength.toNat else 0
  let count :=
    if request.isochronous dev then ret.numberOfPackets.toNat else 0
  match readFixed length input with
  | none => none
  | some (data, input) =>
      match readFixed (count * IsoPacketDescriptor.size) input with
      | none => none
      | some (packets, input) =>
          some (.retSubmit header ret data
            (IsoPacketDescriptor.decodeAll count packets), input)

def parseReply (dev : UsbipDevice) (requests : List Request)
    (input : List Byte) : Option (ClientReply × List Byte) :=
  match readFixed HeaderBasic.size input with
  | none => none
  | some (head, input) =>
      let header := HeaderBasic.decode head
      match readFixed RetSubmit.size input with
      | none => none
      | some (body, input) =>
          if header.command = usbipRetUnlink then
            some (.retUnlink header (RetUnlink.decode body), input)
          else if header.command = usbipRetSubmit then
            match submissionOf requests header.seqnum with
            | none => none
            | some request =>
                parseSubmitReply dev request header (RetSubmit.decode body)
                  input
          else none

/-- A reply a client can take apart, given its submits. -/
def ClientReply.Fits (dev : UsbipDevice) (requests : List Request) :
    ClientReply → Prop
  | .retSubmit header ret data packets =>
      header.command = usbipRetSubmit ∧
        ∃ request, submissionOf requests header.seqnum = some request ∧
          data.length =
            (if request.direction ≠ 0 then ret.actualLength.toNat else 0) ∧
          packets.length =
            if request.isochronous dev then ret.numberOfPackets.toNat else 0
  | .retUnlink header _ => header.command = usbipRetUnlink

theorem parseReply_encode {dev : UsbipDevice} {requests : List Request}
    {reply : ClientReply} (fits : reply.Fits dev requests) (rest : List Byte) :
    parseReply dev requests (reply.encode ++ rest) = some (reply, rest) := by
  cases reply with
  | retUnlink header ret =>
      have code : header.command = usbipRetUnlink := fits
      have body : ret.encode.length = RetSubmit.size := ret.length_encode
      simp only [ClientReply.encode, List.append_assoc, parseReply,
        readFixed_append _ header.length_encode, readFixed_append _ body,
        HeaderBasic.decode_encode, code, if_true, RetUnlink.decode_encode]
  | retSubmit header ret data packets =>
      obtain ⟨code, request, found, dataLength, packetCount⟩ := fits
      have other : ¬ usbipRetSubmit = usbipRetUnlink := by decide
      have tail := IsoPacketDescriptor.length_encodeAll packets
      rw [packetCount] at tail
      have decoded := IsoPacketDescriptor.decodeAll_encodeAll packets
      rw [packetCount] at decoded
      simp only [ClientReply.encode, List.append_assoc, parseReply,
        readFixed_append _ header.length_encode,
        readFixed_append _ ret.length_encode, HeaderBasic.decode_encode, code,
        other, if_false, if_true, found, RetSubmit.decode_encode,
        parseSubmitReply, readFixed_append _ dataLength,
        readFixed_append _ tail, decoded]

def Reply.asClient (reply : Reply) : ClientReply :=
  .retSubmit reply.header reply.ret (reply.data.map Cell.byte) reply.packets

def UnlinkReply.asClient (reply : UnlinkReply) : ClientReply :=
  .retUnlink reply.header ⟨reply.status⟩

def Event.issued : Event → List ClientReply
  | .retSubmit reply => [reply.asClient]
  | .retUnlink reply => [reply.asClient]
  | _ => []

def issuedIn (events : List Event) : List ClientReply :=
  events.flatMap Event.issued

def Event.submitted : Event → List Request
  | .submit request => [request]
  | _ => []

def submittedIn (events : List Event) : List Request :=
  events.flatMap Event.submitted

theorem mem_submittedIn {events : List Event} {request : Request} :
    request ∈ submittedIn events ↔ Event.submit request ∈ events := by
  simp only [submittedIn, List.mem_flatMap]
  constructor
  · rintro ⟨event, member, inside⟩
    cases event <;> simp [Event.submitted] at inside
    subst inside
    exact member
  · intro member
    exact ⟨_, member, by simp [Event.submitted]⟩

namespace Ledger

/-- The transfers of a ledger, and those that were answered, come from
submits. -/
structure Sourced (dev : UsbipDevice) (events : List Event)
    (ledger : Ledger) : Prop where
  live : ∀ transfer ∈ ledger.queue ++ ledger.hand.toList,
    ∃ request, Event.submit request ∈ events ∧
      transfer = request.accepted dev
  answered : ∀ reply, Event.retSubmit reply ∈ events → reply.Formed ∧
    ∃ request, Event.submit request ∈ events ∧
      reply.transfer = request.accepted dev

theorem sourced_step {dev : UsbipDevice} {events : List Event}
    {ledger next : Ledger} {event : Event}
    (sourced : Sourced dev events ledger) (stepped : Step dev ledger event next)
    (written : event ≠ .writeFailed) :
    Sourced dev (events ++ [event]) next := by
  have keep : ∀ {transfer : Transfer},
      (∃ request, Event.submit request ∈ events ∧
        transfer = request.accepted dev) →
      ∃ request, Event.submit request ∈ events ++ [event] ∧
        transfer = request.accepted dev := by
    rintro transfer ⟨request, member, same⟩
    exact ⟨request, List.mem_append_left _ member, same⟩
  have earlier : ∀ reply, Event.retSubmit reply ∈ events → reply.Formed ∧
      ∃ request, Event.submit request ∈ events ++ [event] ∧
        reply.transfer = request.accepted dev := by
    intro reply member
    obtain ⟨formed, origin⟩ := sourced.answered reply member
    exact ⟨formed, keep origin⟩
  have unanswered : (∀ reply, event ≠ .retSubmit reply) →
      ∀ reply, Event.retSubmit reply ∈ events ++ [event] → reply.Formed ∧
        ∃ request, Event.submit request ∈ events ++ [event] ∧
          reply.transfer = request.accepted dev := by
    intro other reply member
    rcases List.mem_append.mp member with before | now
    · exact earlier reply before
    · exact absurd (List.mem_singleton.mp now).symm (other reply)
  have shrink : ∀ {queue : List Transfer}, ledger.queue = queue →
      ∀ index, ∀ transfer ∈ queue.eraseIdx index,
        ∃ request, Event.submit request ∈ events ++ [event] ∧
          transfer = request.accepted dev := by
    rintro queue rfl index transfer member
    exact keep (sourced.live transfer
      (List.mem_append_left _ (List.mem_of_mem_eraseIdx member)))
  cases stepped with
  | @submit queue request newest =>
      refine ⟨?_, unanswered (by simp)⟩
      intro transfer member
      simp only [Option.toList_some, List.mem_append, List.mem_singleton]
        at member
      rcases member with before | rfl
      · exact keep (sourced.live transfer (by simp [before]))
      · exact ⟨request, by simp, rfl⟩
  | unlink =>
      exact ⟨fun transfer member => keep (sourced.live transfer member),
        unanswered (by simp)⟩
  | queued =>
      refine ⟨?_, unanswered (by simp)⟩
      intro transfer member
      exact keep (sourced.live transfer (by simpa using member))
  | @answered queue reply formed =>
      refine ⟨?_, ?_⟩
      · intro transfer member
        refine keep (sourced.live transfer ?_)
        simp only [Option.toList_none, List.append_nil] at member
        exact List.mem_append_left _ member
      · intro other member
        rcases List.mem_append.mp member with before | now
        · exact earlier other before
        · obtain rfl := Event.retSubmit.inj (List.mem_singleton.mp now)
          exact ⟨formed, keep (sourced.live _ (by simp))⟩
  | @completed queue reply index formed found data =>
      refine ⟨?_, ?_⟩
      · intro transfer member
        simp only [Option.toList_none, List.append_nil] at member
        exact shrink rfl index transfer member
      · intro other member
        rcases List.mem_append.mp member with before | now
        · exact earlier other before
        · obtain rfl := Event.retSubmit.inj (List.mem_singleton.mp now)
          refine ⟨formed, keep (sourced.live _ ?_)⟩
          simp [List.mem_of_getElem? found]
  | cancelled =>
      refine ⟨?_, unanswered (by simp)⟩
      intro transfer member
      simp only [Option.toList_none, List.append_nil] at member
      exact shrink rfl _ transfer member
  | missed =>
      exact ⟨fun transfer member => keep (sourced.live transfer member),
        unanswered (by simp)⟩
  | delivered =>
      exact ⟨fun transfer member => keep (sourced.live transfer member),
        unanswered (by simp)⟩
  | writeFailed => exact absurd rfl written
  | lost => exact ⟨by simp [empty], unanswered (by simp)⟩
  | silent apart =>
      refine ⟨fun transfer member => keep (sourced.live transfer member),
        unanswered ?_⟩
      rintro reply rfl
      simp [Event.isSilent] at apart

theorem sourced {dev : UsbipDevice} {events : List Event} {ledger : Ledger}
    (run : Run dev events ledger) (written : Event.writeFailed ∉ events) :
    Sourced dev events ledger := by
  revert written
  refine run.history (P := fun seen ledger =>
    Event.writeFailed ∉ seen → Sourced dev seen ledger) ?_ ?_
  · intro _
    exact ⟨by simp [empty], by simp⟩
  · intro seen ledger event next earlier stepped written
    simp only [List.mem_append, List.mem_singleton, not_or] at written
    exact sourced_step (earlier written.1) stepped (Ne.symm written.2)

end Ledger

end UsbipServer
