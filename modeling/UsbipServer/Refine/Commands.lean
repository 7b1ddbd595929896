import UsbipServer.Refine.Replies

namespace UsbipServer

open Wire Library

/-! Each part of the server thread moves the session's ledger along its
rules. -/

theorem Request.isochronous_data {dev : UsbipDevice} {request : Request}
    (isochronous : request.isochronous dev = true) : request.ep ≠ 0 := by
  simp only [Request.isochronous, isIsochronous, decide_eq_true_eq]
    at isochronous
  exact isochronous.1

theorem Handling.packet_fits {dev : UsbipDevice} {tickets : Nat}
    {request : Request} (handling : Handling dev tickets request)
    (isochronous : request.isochronous dev = true) {packet : IsoPacket}
    (member : packet ∈ request.isoPackets) :
    packet.offset.toNat + packet.length.toNat ≤
      request.transferBufferLength.toNat := by
  obtain ⟨descriptor, inside, rfl⟩ := List.mem_map.mp member
  have fits := (handling.wellFormed.isochronous isochronous).2.2 descriptor
    inside
  simpa [packetFits, Request.transferBufferLength] using fits

theorem Request.isoUrb_sound {dev : UsbipDevice} {tickets completeUs : Nat}
    {request : Request} (handling : Handling dev tickets request)
    (isochronous : request.isochronous dev = true) :
    (request.isoUrb completeUs).Sound tickets := by
  obtain ⟨counted, few, _⟩ := handling.wellFormed.isochronous isochronous
  refine ⟨handling.ticket, Request.isochronous_data isochronous,
    handling.wellFormed.fits, ?_, ?_, ?_⟩
  · intro plain
    simp [Request.isoUrb, Request.transfer] at plain
  · intro _
    simp only [Request.isoUrb, Request.isoPackets, List.length_map]
    exact ⟨counted, few⟩
  · intro packet member
    have fits := handling.packet_fits isochronous member
    have bound := handling.wellFormed.fits
    simp only [Request.transferBufferLength] at fits
    omega

theorem Request.urb_sound {dev : UsbipDevice} {tickets : Nat}
    {request : Request} (handling : Handling dev tickets request)
    (data : request.ep ≠ 0) (inward : request.direction ≠ 0) :
    request.urb.Sound tickets := by
  refine ⟨handling.ticket, data, handling.wellFormed.fits, fun _ => inward, ?_,
    ?_⟩
  · intro isochronous
    simp [Request.urb, Request.transfer] at isochronous
  · intro packet member
    simp [Request.urb] at member

section

variable {dev : UsbipDevice} {s : State} {request : Request}

theorem Attached.push (base : Attached dev s) {urb : PendingUrb}
    (sound : urb.Sound s.tickets) (events : List Event) (phase : Phase) :
    Attached dev
      (({ s with pendingUrbs := s.pendingUrbs ++ [urb] }.emit events).goto
        phase) := by
  refine ⟨base.imported, base.types, ?_⟩
  intro other member
  rcases List.mem_append.mp member with member | member
  · exact base.pending other member
  · rw [List.mem_singleton.mp member]
    exact sound

theorem queued_leads {urb : PendingUrb} (base : Attached dev s)
    (sound : urb.Sound s.tickets) :
    Leads dev ⟨queueOf s, some urb.toTransfer, []⟩ s
      (({ s with pendingUrbs := s.pendingUrbs ++ [urb] }.emit
        [.queued urb]).goto (.clearEvent true)) := by
  refine ⟨.attached (base.push sound _ _) trivial, rfl, [.queued urb], rfl, ?_,
    ?_, ?_, rfl⟩
  · have appended : queueOf s ++ [urb.toTransfer] =
        (s.pendingUrbs ++ [urb]).map PendingUrb.toTransfer := by
      simp [queueOf]
    have step := @Ledger.Step.queued dev (queueOf s) urb
    rw [appended] at step
    exact .single step
  · intro _
    simp [Event.wire]
  · intro _ event member
    rw [List.mem_singleton.mp member]
    rfl

/-- The OUT data of a submit is at the start of `rx_buffer`. -/
def Loaded (rxBuffer : Buffer Byte) (payload : List Byte) : Prop :=
  ∀ offset length, offset + length ≤ payload.length →
    rxBuffer.slice offset length = (payload.drop offset).take length

theorem packetsDue_isoPackets {tickets : Nat} {rxBuffer : Buffer Byte}
    (handling : Handling dev tickets request)
    (loaded : Loaded rxBuffer request.command.payload)
    (isochronous : request.isochronous dev = true)
    (outward : request.direction = 0) :
    packetsDue rxBuffer request request.isoPackets =
      request.deliveries dev := by
  have data := Request.isochronous_data isochronous
  simp only [packetsDue, Request.deliveries, outward, data, isochronous,
    ne_eq, not_false_eq_true, and_self, if_true]
  apply List.map_congr_left
  intro packet member
  have fits := handling.packet_fits isochronous (List.mem_of_mem_filter member)
  have whole := handling.wellFormed.outward outward
  have read := loaded packet.offset.toNat packet.length.toNat
    (by rw [whole]; exact fits)
  rw [read]
  rfl

def Task.Sound (dev : UsbipDevice) (s : State) : Task → Prop
  | .submit request =>
      Handling dev s.tickets request ∧
        Loaded s.rxBuffer request.command.payload ∧
        request.isochronous dev = false
  | .control request _ => Handling dev s.tickets request ∧ request.ep = 0
  | .receive request => request.direction = 0
  | .deliver request _ =>
      Handling dev s.tickets request ∧ request.isochronous dev = true
  | .collect urb actual packets back =>
      IsoProgress s.tickets s.pendingUrbs urb actual packets back
  | .reset _ => False

def Task.ledger (dev : UsbipDevice) (s : State) : Task → Ledger
  | .submit request =>
      ⟨queueOf s, some (request.transfer false),
        if dev.epDataCallback then request.deliveries dev else []⟩
  | .control request _ => ⟨queueOf s, some (request.transfer false), []⟩
  | .receive request => ⟨queueOf s, some (request.transfer false), []⟩
  | .deliver request packets =>
      ⟨queueOf s, some (request.transfer true),
        if dev.epDataCallback then packetsDue s.rxBuffer request packets
        else []⟩
  | .collect urb _ _ back => ⟨queueOf s, back.hand urb, []⟩
  | .reset _ => Ledger.empty

theorem Request.deliveries_receive (handling : Handling dev s.tickets request)
    (loaded : Loaded s.rxBuffer request.command.payload)
    (plain : request.isochronous dev = false) (data : request.ep ≠ 0)
    (outward : request.direction = 0) :
    request.deliveries dev =
      if 0 < request.transferBufferLength.toNat then
        [(request.ep.toUInt8,
          s.rxBuffer.slice 0 request.transferBufferLength.toNat)]
      else [] := by
  have whole : request.command.payload.length =
      request.transferBufferLength.toNat := handling.wellFormed.outward outward
  have read : s.rxBuffer.slice 0 request.transferBufferLength.toNat =
      request.command.payload := by
    rw [← whole, loaded 0 _ (by simp)]
    simp
  rw [read, ← whole]
  cases payload : request.command.payload with
  | nil => simp [Request.deliveries, plain, payload]
  | cons first rest =>
      simp [Request.deliveries, outward, data, plain, payload]

theorem packetsDue_skip {rxBuffer : Buffer Byte}
    {skipped packets : List IsoPacket}
    (empty : ∀ packet ∈ skipped, packet.length.toNat = 0) :
    packetsDue rxBuffer request (skipped ++ packets) =
      packetsDue rxBuffer request packets := by
  have none : (skipped.filter fun packet => 0 < packet.length.toNat) = [] := by
    refine List.filter_eq_nil_iff.mpr ?_
    intro packet member
    simp [empty packet member]
  simp only [packetsDue, List.filter_append, none, List.nil_append]

theorem packetsDue_delivered {rxBuffer : Buffer Byte}
    {packets : List IsoPacket}
    (empty : dev.epDataCallback = true →
      ∀ packet ∈ packets, packet.length.toNat = 0) :
    (if dev.epDataCallback then packetsDue rxBuffer request packets else []) =
      [] := by
  split
  next callback =>
    have skipped := @packetsDue_skip request rxBuffer packets [] (empty callback)
    rw [List.append_nil] at skipped
    exact skipped
  · rfl

theorem controlReply_leads {supported : Bool} {txLength : Nat}
    (base : Attached dev s) (small : txLength < UInt32.size) :
    Leads dev ⟨queueOf s, some (request.transfer false), []⟩ s
      (finishSubmit request (Request.controlStatus supported)
        (request.controlLength supported txLength)
        (request.controlSends supported) s) := by
  refine finishSubmit_leads base ?_ ?_
  · intro inward
    cases supported with
    | false => exact .inl rfl
    | true =>
        right
        simpa [Request.controlSends, Request.controlLength, inward] using small
  · intro outward
    simp [Request.controlSends, outward]

theorem Ends.leads {s' : State} {task : Task} (ends : Ends dev s task s')
    (base : Attached dev s) (sound : task.Sound dev s) :
    Leads dev (task.ledger dev s) s s' := by
  cases ends with
  | @control request plain zero =>
      refine .arrived (.attached (base.goto _) ⟨sound.1, zero⟩) rfl rfl ?_
      have silent : request.deliveries dev = [] := by
        simp [Request.deliveries, zero]
      rw [Task.ledger, silent, ite_self]
      rfl
  | @receives request _ data outward something callback =>
      obtain ⟨handling, loaded, plain⟩ := sound
      refine .arrived (.attached (base.goto _)
        ⟨handling, plain, data, outward⟩) rfl rfl ?_
      rw [Task.ledger, if_pos callback,
        Request.deliveries_receive handling loaded plain data outward,
        if_pos something]
      rfl
  | @ignored request _ data outward uncalled =>
      obtain ⟨handling, loaded, plain⟩ := sound
      have silent : (if dev.epDataCallback then request.deliveries dev
          else []) = [] := by
        split
        next callback =>
          rw [Request.deliveries_receive handling loaded plain data outward,
            if_neg fun something => uncalled ⟨something, callback⟩]
        · rfl
      rw [Task.ledger, silent]
      exact finishSubmit_leads base (fun inward => absurd outward inward)
        fun _ => rfl
  | @overflows request _ data inward full =>
      have silent : request.deliveries dev = [] := by
        simp [Request.deliveries, inward]
      rw [Task.ledger, silent, ite_self]
      exact finishSubmit_leads base (fun _ => .inl rfl)
        fun direction => absurd direction inward
  | @queued request _ data inward room =>
      have silent : request.deliveries dev = [] := by
        simp [Request.deliveries, inward]
      rw [Task.ledger, silent, ite_self]
      exact queued_leads base (Request.urb_sound sound.1 data inward)
  | fetches inward =>
      exact .arrived (.attached (base.goto _) ⟨sound.1, sound.2, inward⟩) rfl
        rfl rfl
  | answered => exact controlReply_leads base (by decide)
  | received =>
      exact finishSubmit_leads base (fun inward => absurd sound inward)
        fun _ => rfl
  | delivers skipped packet rest split empty something callback =>
      refine .arrived (.attached (base.goto _)
        ⟨sound.1, sound.2, callback, something⟩) rfl rfl ?_
      rw [Task.ledger, split, packetsDue_skip empty, if_pos callback]
      rfl
  | delivered empty =>
      refine .arrived (.attached (base.goto _) sound) rfl rfl ?_
      rw [Task.ledger, packetsDue_delivered empty]
      rfl
  | @asks urb actual packet rest back inward =>
      refine .arrived (.attached (base.goto _) ⟨sound, inward⟩) rfl rfl ?_
      cases back <;> rfl
  | isoAnswered lengths complete =>
      have progress := IsoProgress.complete sound complete
      exact replied_leads base rfl (.answered (isoReply_formed progress.sound
        progress.isochronous progress.counted progress.small)) rfl rfl rfl
  | @isoCompleted urb actual packets now index lengths tcpip complete written =>
      have progress := IsoProgress.complete sound complete
      have formed : (isoReply urb lengths s.txBuffer).Formed :=
        isoReply_formed progress.sound progress.isochronous progress.counted
          progress.small
      have filed : s.pendingUrbs[index]? = some urb := progress.filed
      have found : (queueOf s)[index]? =
          some (isoReply urb lengths s.txBuffer).transfer := by
        simp [queueOf, filed, isoReply]
      have completed := @Ledger.Step.completed dev _ _ _ formed found <| by
        intro plain
        have contrary : urb.isochronous = false := plain
        rw [progress.isochronous] at contrary
        contradiction
      rw [queueOf, List.eraseIdx_map] at completed
      exact (completed_leads (base.erase index) completed written).from_eq rfl
        rfl
  | isoLost lengths tcpip complete written => exact broken_leads written
  | attached | unattached | detached => exact sound.elim

theorem SameTypes.stopped {endpoints : Endpoints} (urb : PendingUrb)
    (pendingUrbs : List PendingUrb)
    (types : SameTypes endpoints (loadEndpoints dev.configDesc)) :
    SameTypes (stoppedEndpoints urb pendingUrbs endpoints)
      (loadEndpoints dev.configDesc) := by
  unfold stoppedEndpoints
  split
  · exact types.set _ _ _ rfl
  · exact types

theorem missed_leads {seqnum unlinkSeqnum : UInt32} (base : Attached dev s)
    (missing : findPendingUrb s.pendingUrbs unlinkSeqnum = none) :
    Leads dev ⟨queueOf s, none, []⟩ s
      (sendUnlinkReply ⟨seqnum, unlinkSeqnum, 0, none⟩ s) := by
  have absent : ∀ transfer ∈ queueOf s, transfer.seqnum ≠ unlinkSeqnum := by
    intro transfer member
    obtain ⟨urb, inside, rfl⟩ := List.mem_map.mp member
    have different := List.findIdx?_eq_none_iff.mp missing urb inside
    simpa using different
  exact replied_leads base rfl (.missed absent rfl rfl) rfl rfl rfl

theorem cancelled_leads {seqnum unlinkSeqnum : UInt32} {index : Nat}
    {urb : PendingUrb} (base : Attached dev s)
    (found : findPendingUrb s.pendingUrbs unlinkSeqnum = some index)
    (filed : s.pendingUrbs[index]? = some urb) :
    Leads dev ⟨queueOf s, none, []⟩ s
      (sendUnlinkReply
        ⟨seqnum, unlinkSeqnum, urbUnlinked, some urb.toTransfer⟩
        { s with
          pendingUrbs := s.pendingUrbs.eraseIdx index
          endpoints := stoppedEndpoints urb (s.pendingUrbs.eraseIdx index)
            s.endpoints }) := by
  obtain ⟨bound, named, _⟩ := List.findIdx?_eq_some_iff_getElem.mp found
  obtain ⟨_, here⟩ := List.getElem?_eq_some_iff.mp filed
  have place : (queueOf s)[index]? = some urb.toTransfer := by
    simp [queueOf, filed]
  have cancelled := @Ledger.Step.cancelled dev (queueOf s)
    ⟨seqnum, unlinkSeqnum, urbUnlinked, some urb.toTransfer⟩ urb.toTransfer
    index place (by simpa [here] using named) rfl rfl
  rw [queueOf, List.eraseIdx_map] at cancelled
  have left : Attached dev { s with
      pendingUrbs := s.pendingUrbs.eraseIdx index
      endpoints := stoppedEndpoints urb (s.pendingUrbs.eraseIdx index)
        s.endpoints } :=
    ⟨base.imported, base.types.stopped _ _, (base.erase index).pending⟩
  exact (replied_leads left rfl cancelled rfl rfl rfl).from_eq rfl rfl

theorem Attached.receive (base : Attached dev s) (tcpip : Tcpip)
    (rxBuffer : Buffer Byte) :
    Attached dev { s with tcpip := tcpip, rxBuffer := rxBuffer } :=
  ⟨base.imported, base.types, base.pending⟩

/-- What a call of `process_imported_cmd` reads is what `receiveCommand` makes
of the client's bytes. -/
inductive Reading (s s' : State) (events : List Event) : Prop
  | command {tcpip : Tcpip} {command : Command}
      (received : receiveCommand s.endpoints s.tcpip = .command tcpip command)
      (reads : s'.tcpip.reads = tcpip.reads)
      (decoded : decodedOf events = [command])
  | failure {tcpip : Tcpip} {rx : List Byte}
      (received : receiveCommand s.endpoints s.tcpip = .failed tcpip rx)
      (reads : s'.tcpip.reads = tcpip.reads) (decoded : decodedOf events = [])

inductive Takes (s s' : State) (events : List Event) : Prop
  | nothing (reads : s'.tcpip.reads = s.tcpip.reads)
      (decoded : decodedOf events = [])
  | reading (read : Reading s s' events)

/-- A command that was read moves the ledger from between two commands. -/
structure Handles (dev : UsbipDevice) (s s' : State) : Prop where
  sound : Sound dev s'
  progress : ∃ events, s'.trace = s.trace ++ events ∧
    Steps (Ledger.Step dev) ⟨queueOf s, none, []⟩ events (view s') ∧
    (Event.writeFailed ∉ events →
      s'.tcpip.sent = s.tcpip.sent ++ events.flatMap Event.wire) ∧
    (s'.Live → ∀ event ∈ events, event.goesOn = true) ∧
    Reading s s' events

theorem Leads.handles {s' start : State} {ledger : Ledger} {tcpip : Tcpip}
    {command : Command} {event : Event} (leads : Leads dev ledger start s')
    (received : receiveCommand s.endpoints s.tcpip = .command tcpip command)
    (read : start.tcpip = tcpip) (traced : start.trace = s.trace ++ [event])
    (stepped : Ledger.Step dev ⟨queueOf s, none, []⟩ event ledger)
    (unsent : event.wire = []) (goesOn : event.goesOn = true)
    (decoded : event.decoded = [command]) : Handles dev s s' := by
  have output := receiveCommand_keepsOutput s.endpoints s.tcpip
  rw [received] at output
  obtain ⟨sound, reads, events, continued, steps, wired, live, none⟩ := leads
  refine ⟨sound, event :: events, ?_, .cons stepped steps, ?_, ?_, ?_⟩
  · rw [continued, traced, List.append_assoc]
    rfl
  · intro written
    rw [wired fun failed => written (List.mem_cons_of_mem _ failed), read,
      output.1, List.flatMap_cons, unsent]
    rfl
  · intro alive other member
    rcases List.mem_cons.mp member with rfl | member
    · exact goesOn
    · exact live alive other member
  · refine .command received (by rw [reads, read]) ?_
    rw [decodedOf, List.flatMap_cons, decoded]
    exact congrArg (command :: ·) none

theorem Attached.taking {tcpip : Tcpip} {command : SubmitCommand}
    (base : Attached dev s)
    (received : receiveCommand s.endpoints s.tcpip =
      .command tcpip (.submit command)) :
    Attached dev (s.taking tcpip command) ∧
      Handling dev (s.tickets + 1) ⟨s.tickets, command⟩ ∧
      Loaded (s.rxBuffer.write 0 command.payload) command.payload ∧
      ∀ transfer ∈ queueOf s, transfer.ticket < s.tickets := by
  refine ⟨⟨base.imported, base.types, ?_⟩, ⟨Nat.lt_succ_self _, ?_⟩, ?_, ?_⟩
  · intro urb member
    have sound := base.pending urb member
    exact ⟨Nat.lt_succ_of_lt sound.ticket, sound.data, sound.fits,
      sound.inward, sound.count, sound.inside⟩
  · exact base.types.wellFormed (receiveCommand_wellFormed received)
  · intro offset length fits
    simpa using Buffer.slice_write s.rxBuffer command.payload 0 offset length
      fits
  · intro transfer member
    obtain ⟨urb, inside, rfl⟩ := List.mem_map.mp member
    exact (base.pending urb inside).ticket

end

end UsbipServer
