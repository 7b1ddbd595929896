import UsbipServer.Refine.Streams

namespace UsbipServer

open Wire Library

/-! Isochronous transfers of an endpoint are due one after the other, are
answered in the order they were submitted, and not before they are due, as long
as no transfer is scheduled past the range of 64-bit times. -/

/-- For every isochronous endpoint: its pending transfers, the transfers that
were answered so far, and the pass in which the next reply is sent. -/
structure Paced (dev : UsbipDevice) (s : State) : Prop where
  spaced : ∀ inward number,
    (s.pendingUrbs.filter fun urb => urb.inStream inward number).Pairwise
      fun earlier later => earlier.completeUs + later.numberOfPackets.toNat *
        (loadEndpoints dev.configDesc inward number).intervalUs ≤
          later.completeUs
  ordered : ∀ inward number,
    (repliedTickets inward number s.trace).Pairwise (· < ·)
  due : ∀ label s' events reply, step dev s label = some s' →
    s'.trace = s.trace ++ events → Event.retSubmit reply ∈ events →
    reply.transfer.isochronous = true → ∃ urb now,
      urb ∈ s.pendingUrbs ∧ urb.toTransfer = reply.transfer ∧
        s.phase.reading = some now ∧ s.passUs = now ∧ urb.completeUs ≤ now

/-- Isochronous submits are well addressed, find room, and end within the range
of 64-bit times. -/
def ranged (dev : UsbipDevice) (s : State) (label : Label) : Bool :=
  streamed dev s label && !wrapsStream s label

section

variable {dev : UsbipDevice} {s s' : State} {label : Label}

theorem ranged_streamed
    (reached : (server dev).Reaches
      (fun s label => ranged dev s label = true) initial s) :
    (server dev).Reaches (fun s label => streamed dev s label = true)
      initial s := by
  refine reached.mono ?_
  intro state label allowed
  rw [ranged, Bool.and_eq_true] at allowed
  exact allowed.1

theorem ranged_reaches_kept
    (reached : (server dev).Reaches
      (fun s label => ranged dev s label = true) initial s)
    (inward : Bool) (number : Fin 16) :
    (s.stream inward number).Kept PendingUrb.completeUs
      (streamTimeUs dev inward number) fun urb => urb.ticket := by
  refine reached.invariant (P := fun s => (s.stream inward number).Kept
    PendingUrb.completeUs (streamTimeUs dev inward number)
      fun urb => urb.ticket) ?_ ?_
  · exact ⟨List.Pairwise.nil, by simp [State.stream, initial], .nil⟩
  · intro state label next early kept allowed stepped
    have reachable : Reachable dev state := .of_allowed early
    refine kept.step (Filing.streamStep
      (step_filing (reachable_tracked reachable).sound stepped)
      (streamed_reaches_streaming (ranged_streamed early)) reachable) ?_
    simp only [ranged, Bool.and_eq_true, Bool.not_eq_true'] at allowed
    rw [allowed.2]
    exact Bool.false_ne_true

theorem isoReply_due {events : List Event} {reply : Reply}
    (streaming : Streaming dev s) (reachable : Reachable dev s)
    (stepped : step dev s label = some s')
    (traced : s'.trace = s.trace ++ events)
    (sent : Event.retSubmit reply ∈ events)
    (isochronous : reply.transfer.isochronous = true) :
    ∃ urb now, urb ∈ s.pendingUrbs ∧ urb.toTransfer = reply.transfer ∧
      s.phase.reading = some now ∧ s.passUs = now ∧ urb.completeUs ≤ now := by
  have sound := (reachable_tracked reachable).sound
  rcases (step_filing sound stepped).isoReplied with
    ⟨others, alsoTraced, apart⟩ |
      ⟨other, urb, back, packets, actual, lengths, start, replied⟩
  · obtain rfl := List.append_cancel_left (traced.symm.trans alsoTraced)
    have plain : reply.transfer.isochronous = false := apart _ sent
    rw [isochronous] at plain
    contradiction
  · obtain rfl := List.append_cancel_left (traced.symm.trans replied.traced)
    obtain rfl := Event.retSubmit.inj (List.mem_singleton.mp sent)
    obtain ⟨now, index, packed⟩ := replied.entered.isDue streaming sound
    refine ⟨urb, now, List.mem_of_getElem? packed.filed, ?_, packed.reading,
      (reachable_early reachable now index packed.cursor).1, packed.due⟩
    rw [replied.told]
    rfl

theorem isoPacing
    (reached : (server dev).Reaches
      (fun s label => ranged dev s label = true) initial s) :
    Paced dev s := by
  refine ⟨?_, ?_, ?_⟩
  · intro inward number
    exact (ranged_reaches_kept reached inward number).spaced
  · intro inward number
    have ordered := (ranged_reaches_kept reached inward number).ordered
    exact (List.pairwise_append.mp ordered).1
  · intro label s' events reply stepped traced sent isochronous
    exact isoReply_due (streamed_reaches_streaming (ranged_streamed reached))
      (.of_allowed reached) stepped traced sent isochronous

end

def silentPackets (seqnum : UInt32) (count : Nat) : SubmitCommand :=
  isoOut seqnum 3 0 (List.replicate count ⟨0, 0, 0, 0⟩) []

def silentPacket (seqnum : UInt32) : SubmitCommand := silentPackets seqnum 1

/-- Two transfers of one service interval are submitted, the first one is
answered in the pass at 130. -/
def pacedLabels : List Label :=
  importLabels [.submit (silentPacket 1), .submit (silentPacket 2)] ++
    [.wait true, .server 0, .server 0, .server 0, .server 0,
      .wait true, .server 10, .server 10, .server 10, .server 10, .server 10,
      .wait false, .server 130, .server 130, .server 130, .server 130]

theorem isoPacing_twoTransfers :
    (allowedAfter sampleDevice (ranged sampleDevice) initial
        pacedLabels).pendingUrbs.map PendingUrb.completeUs = [250] ∧
      repliedTickets false 3 (allowedAfter sampleDevice
        (ranged sampleDevice) initial pacedLabels).trace = [0] ∧
      Paced sampleDevice (allowedAfter sampleDevice (ranged sampleDevice)
        initial pacedLabels) :=
  ⟨by decide +kernel, by decide +kernel,
    isoPacing (allowedAfter_reached sampleDevice (ranged sampleDevice)
      initial pacedLabels)⟩

def readings (s : State) : Label → List Nat
  | .server clock =>
      match s.phase with
      | .isoSchedule _ => [clock]
      | .clearEvent true => [clock]
      | _ => []
  | _ => []

def steady (s : State) (log : List Nat) (label : Label) : Bool :=
  decide (∀ clock ∈ readings s label, ∀ earlier ∈ log, earlier ≤ clock)

/-- Isochronous submits are well addressed and find room, and the clock does
not go back. -/
def regular (dev : UsbipDevice) (pair : State × List Nat)
    (label : Label) : Bool :=
  streamed dev pair.1 label && steady pair.1 pair.2 label

/-! A client that submits and cancels transfers while an older one is pending
moves the end of the stream on without bound. -/

/-- An isochronous OUT endpoint that is served every 4.096 seconds. -/
def slowDevice : UsbipDevice :=
  { sampleDevice with
    configDesc :=
      [9, 2, 16, 0, 1, 1, 0, 0x40, 0] ++ [7, 5, 0x03, 1, 64, 0, 16] }

def silentUrb (ticket : Nat) (seqnum : UInt32) (count due : Nat) :
    PendingUrb :=
  Request.isoUrb ⟨ticket, silentPackets seqnum count⟩ due

def RegularRun (start finish : State × List Nat) : Prop :=
  ((server slowDevice).logged readings).Reaches
    (fun pair label => regular slowDevice pair label = true) start finish

theorem RegularRun.advances {start pair : State × List Nat} {label : Label}
    {next : State} (run : RegularRun start pair)
    (moved : step slowDevice pair.1 label = some next)
    (allowed : streamed slowDevice pair.1 label = true)
    (later : ∀ clock ∈ readings pair.1 label, ∀ earlier ∈ pair.2,
      earlier ≤ clock) :
    RegularRun start (next, pair.2 ++ readings pair.1 label) := by
  have permitted : regular slowDevice pair label = true := by
    simp only [regular, allowed, Bool.true_and, steady, decide_eq_true_eq]
    exact later
  have stepped : ((server slowDevice).logged readings).step pair label =
      some (next, pair.2 ++ readings pair.1 label) := by
    simp only [server, Machine.logged, moved, Option.map_some]
  exact .step run permitted stepped

/-- A regular run in which every reading of the clock was 0: where the stream
ends, what the client still sends and what is pending. -/
structure Rolls (finish : Nat) (rest : List Command)
    (pending : List PendingUrb) (tickets : Nat) (pair : State × List Nat) :
    Prop where
  run : RegularRun (initial, []) pair
  zeros : ∀ reading ∈ pair.2, reading = 0
  running : pair.1.tcpip.stopServer = false
  healthy : Healthy pair.1.tcpip.reads
  stream : streamOf pair.1.tcpip.reads = rest.flatMap Command.encode
  writes : pair.1.tcpip.writes = []
  imported : pair.1.deviceImported = true
  pendingUrbs : pair.1.pendingUrbs = pending
  endpoint : pair.1.endpoints false 3 = ⟨1, 4096000, 0, finish⟩
  tickets : pair.1.tickets = tickets

section

variable {finish tickets : Nat} {rest : List Command}
  {pending : List PendingUrb} {pair : State × List Nat}

theorem Rolls.advances {label : Label} {next : State}
    (rolls : Rolls finish rest pending tickets pair)
    (moved : step slowDevice pair.1 label = some next)
    (allowed : streamed slowDevice pair.1 label = true) :
    RegularRun (initial, []) (next, pair.2 ++ readings pair.1 label) := by
  refine rolls.run.advances moved allowed ?_
  intro clock _ earlier before
  rw [rolls.zeros earlier before]
  exact Nat.zero_le clock

theorem Rolls.moves {next : State}
    (rolls : Rolls finish rest pending tickets pair)
    (moved : step slowDevice pair.1 (.server 0) = some next)
    (tcpip : next.tcpip = pair.1.tcpip)
    (imported : next.deviceImported = pair.1.deviceImported)
    (pendingUrbs : next.pendingUrbs = pair.1.pendingUrbs)
    (endpoints : next.endpoints = pair.1.endpoints)
    (same : next.tickets = pair.1.tickets) :
    Rolls finish rest pending tickets
      (next, pair.2 ++ readings pair.1 (.server 0)) where
  run := rolls.advances moved rfl
  zeros := by
    intro reading read
    rcases List.mem_append.mp read with before | now
    · exact rolls.zeros reading before
    · simp only [readings] at now
      split at now <;> simp_all
  running := tcpip ▸ rolls.running
  healthy := tcpip ▸ rolls.healthy
  stream := tcpip ▸ rolls.stream
  writes := tcpip ▸ rolls.writes
  imported := imported.trans rolls.imported
  pendingUrbs := pendingUrbs.trans rolls.pendingUrbs
  endpoint := endpoints ▸ rolls.endpoint
  tickets := same.trans rolls.tickets

theorem silentPackets_isochronous {endpoints : Endpoints}
    (kind : (endpoints false 3).type = usbEndpointXferIsoc)
    (seqnum : UInt32) (count : Nat) :
    isIsochronous endpoints (silentPackets seqnum count).header = true := by
  have there : endpoints false (endpointNumber 3) = endpoints false 3 := rfl
  simp [isIsochronous, silentPackets, isoOut, there, kind]

theorem silentPackets_wellFormed {endpoints : Endpoints} {seqnum : UInt32}
    {count : Nat} (kind : (endpoints false 3).type = usbEndpointXferIsoc)
    (few : count ≤ maxIsoPackets) :
    WellFormed endpoints (.submit (silentPackets seqnum count)) := by
  have small : count < UInt32.size := lt_of_le_of_lt few (by decide)
  refine ⟨rfl, by simp [silentPackets, isoOut], ?_, ?_, ?_, ?_⟩
  · intro _
    rfl
  · intro _
    rfl
  · intro _
    refine ⟨?_, ?_, ?_⟩
    · simp [silentPackets, isoOut, Nat.mod_eq_of_lt small]
    · simpa [silentPackets, isoOut] using few
    · intro packet member
      have plain := (List.mem_replicate.mp member).2
      rw [plain]
      rfl
  · intro plain
    rw [silentPackets_isochronous kind] at plain
    contradiction

theorem deliverPackets_silent (request : Request) (count : Nat) (s : State) :
    deliverPackets slowDevice request (List.replicate count ⟨0, 0⟩) s =
      s.goto (.isoSchedule request) := by
  induction count with
  | zero => rfl
  | succ count induction =>
      rw [List.replicate_succ, deliverPackets, if_neg (by simp)]
      exact induction

theorem Rolls.takesSubmit {seqnum : UInt32} {count : Nat}
    (rolls : Rolls finish (.submit (silentPackets seqnum count) :: rest)
      pending tickets pair)
    (here : pair.1.phase = .serve) (few : count ≤ maxIsoPackets)
    (room : pending.length < maxPendingUrbs) :
    ∃ next, Rolls finish rest pending (tickets + 1) next ∧
      next.1.phase = .isoSchedule ⟨tickets, silentPackets seqnum count⟩ := by
  have kind : (pair.1.endpoints false 3).type = usbEndpointXferIsoc := by
    rw [rolls.endpoint]
    rfl
  obtain ⟨tcpip, received, running, healthy, stream⟩ :=
    receiveCommand_reads rolls.running rolls.healthy
      (silentPackets_wellFormed kind few) rolls.stream
  have output := receiveCommand_keepsOutput pair.1.endpoints pair.1.tcpip
  rw [received] at output
  have isochronous := silentPackets_isochronous kind seqnum count
  have packets : Request.outPackets
      ⟨pair.1.tickets, silentPackets seqnum count⟩ =
        List.replicate count ⟨0, 0⟩ := by
    simp [Request.outPackets, Request.direction, Request.isoPackets,
      silentPackets, isoOut]
  have moved : step slowDevice pair.1 (.wait true) =
      some (State.goto
        (State.emit
          { pair.1 with
            tcpip := tcpip
            rxBuffer := pair.1.rxBuffer.write 0 []
            tickets := pair.1.tickets + 1 }
          [.submit ⟨pair.1.tickets, silentPackets seqnum count⟩])
        (.isoSchedule ⟨pair.1.tickets, silentPackets seqnum count⟩)) := by
    simp only [step, here, rolls.imported, rolls.running, and_self, if_true,
      Bool.false_eq_true, if_false, processImportedCmd, received, processSubmit,
      State.emit, isochronous, packets, deliverPackets_silent]
    rfl
  have allowed : streamed slowDevice pair.1 (.wait true) = true := by
    have fits : pair.1.pendingUrbs.length < maxPendingUrbs := by
      rw [rolls.pendingUrbs]
      exact room
    have addressed : Addressed (silentPackets seqnum count).header.ep
        (silentPackets seqnum count).header.direction := by
      change Addressed 3 0
      decide
    simp [streamed, received, addressed, fits]
  refine ⟨_, ⟨rolls.advances moved allowed, ?_, running, healthy, stream,
    output.2.trans rolls.writes, rolls.imported, rolls.pendingUrbs,
    rolls.endpoint, congrArg (· + 1) rolls.tickets⟩, ?_⟩
  · simpa [readings] using rolls.zeros
  · rw [← rolls.tickets]
    rfl

theorem Rolls.schedules {ticket : Nat} {seqnum : UInt32} {count : Nat}
    (rolls : Rolls finish rest pending tickets pair)
    (here : pair.1.phase = .isoSchedule ⟨ticket, silentPackets seqnum count⟩)
    (few : count ≤ maxIsoPackets) (room : pending.length < maxPendingUrbs) :
    ∃ next, Rolls ((finish + count * 4096000) % timeRange) rest
        (pending ++ [silentUrb ticket seqnum count
          ((finish + count * 4096000) % timeRange)]) tickets next ∧
      next.1.phase = .clearEvent true := by
  have small : count < UInt32.size := lt_of_le_of_lt few (by decide)
  have completes : isoCompleteUs (pair.1.endpoints false 3) 0
      (silentPackets seqnum count).submit.numberOfPackets =
        (finish + count * 4096000) % timeRange := by
    rw [rolls.endpoint, isoCompleteUs, Nat.max_zero]
    simp [silentPackets, isoOut, Nat.mod_eq_of_lt small]
  have full : ¬ pair.1.pendingUrbs.length = maxPendingUrbs := by
    rw [rolls.pendingUrbs]
    omega
  have moved : step slowDevice pair.1 (.server 0) = some (State.goto
      (State.emit
        { pair.1 with
          endpoints := pair.1.endpoints.set false 3
            { pair.1.endpoints false 3 with
              streamEndUs := (finish + count * 4096000) % timeRange }
          pendingUrbs := pair.1.pendingUrbs ++ [silentUrb ticket seqnum count
            ((finish + count * 4096000) % timeRange)] }
        [.queued (silentUrb ticket seqnum count
          ((finish + count * 4096000) % timeRange))]) (.clearEvent true)) := by
    simp only [step, serverStep, here]
    rw [← completes]
    exact congrArg some (if_neg full)
  refine ⟨_, ⟨rolls.advances moved rfl, ?_, rolls.running, rolls.healthy,
    rolls.stream, rolls.writes, rolls.imported,
    congrArg (· ++ _) rolls.pendingUrbs, ?_, rolls.tickets⟩, rfl⟩
  · intro reading read
    rcases List.mem_append.mp read with before | now
    · exact rolls.zeros reading before
    · simpa [readings, here] using now
  · simp only [State.goto, State.emit]
    rw [Endpoints.set_apply, if_pos ⟨rfl, rfl⟩, rolls.endpoint]

theorem Rolls.passesFrom (later : ∀ urb ∈ pending,
      urb.isochronous = true ∧ 0 < urb.completeUs)
    (left index : Nat) (all : index + left = pending.length)
    (rolls : Rolls finish rest pending tickets pair)
    (here : pair.1.phase = .pass 0 index) :
    ∃ next, Rolls finish rest pending tickets next ∧
      next.1.phase = .serve := by
  induction left generalizing index pair with
  | zero =>
      have none : pair.1.pendingUrbs[index]? = none := by
        rw [rolls.pendingUrbs]
        exact List.getElem?_eq_none (by omega)
      have moved : step slowDevice pair.1 (.server 0) =
          some (pair.1.goto .serve) := by
        simp only [step, serverStep, here, completePendingUrbs, none]
      exact ⟨_, rolls.moves moved rfl rfl rfl rfl rfl, rfl⟩
  | succ left induction =>
      have inside : index < pending.length := by omega
      have filed : pair.1.pendingUrbs[index]? = some pending[index] := by
        rw [rolls.pendingUrbs]
        exact List.getElem?_eq_getElem inside
      obtain ⟨isochronous, due⟩ := later _ (List.getElem_mem inside)
      have waits : 0 < pending[index].dueUs pair.1.endpoints := by
        rw [PendingUrb.dueUs, if_pos isochronous]
        exact due
      have moved : step slowDevice pair.1 (.server 0) =
          some (State.goto
            { pair.1 with
              waitTimeoutUs := min pair.1.waitTimeoutUs
                (pending[index].dueUs pair.1.endpoints - 0) }
            (.pass 0 (index + 1))) := by
        simp only [step, serverStep, here, completePendingUrbs, filed]
        rw [if_pos waits]
      exact induction (index + 1) (by omega)
        (rolls.moves moved rfl rfl rfl rfl rfl) rfl

theorem Rolls.passes (rolls : Rolls finish rest pending tickets pair)
    (here : pair.1.phase = .clearEvent true)
    (later : ∀ urb ∈ pending,
      urb.isochronous = true ∧ 0 < urb.completeUs) :
    ∃ next, Rolls finish rest pending tickets next ∧
      next.1.phase = .serve := by
  have moved : step slowDevice pair.1 (.server 0) = some (State.goto
      (State.emit
        { pair.1 with
          device := pair.1.device.usbipDeviceClearEvent
          waitTimeoutUs := waitTimeoutUsMax
          passUs := 0 } [.pass 0]) (.pass 0 0)) := by
    simp only [step, serverStep, here, if_true]
  exact Rolls.passesFrom later pending.length 0 (Nat.zero_add _)
    (rolls.moves moved rfl rfl rfl rfl rfl) rfl

theorem silentUrb_later {ticket count due : Nat} {seqnum : UInt32}
    (positive : 0 < due) :
    (silentUrb ticket seqnum count due).isochronous = true ∧
      0 < (silentUrb ticket seqnum count due).completeUs :=
  ⟨rfl, positive⟩

theorem sendUnlinkReply_taken {reply : UnlinkReply} {s : State} {next : Tcpip}
    (written : tcpipServerWriteAll s.tcpip reply.parts = (true, next)) :
    sendUnlinkReply reply s =
      (State.emit { s with tcpip := next } [.retUnlink reply]).goto
        (.clearEvent true) := by
  simp only [sendUnlinkReply, written, if_true]

/-- The younger of two transfers is cancelled, the end of the stream stays. -/
theorem Rolls.unlinks {ticket other count more due late : Nat}
    (rolls : Rolls finish (unlinkOf 3 2 :: rest)
      [silentUrb ticket 1 count due, silentUrb other 2 more late] tickets pair)
    (here : pair.1.phase = .serve) :
    ∃ next, Rolls finish rest [silentUrb ticket 1 count due] tickets next ∧
      next.1.phase = .clearEvent true := by
  obtain ⟨tcpip, received, running, healthy, stream⟩ :=
    receiveCommand_reads rolls.running rolls.healthy
      (show WellFormed pair.1.endpoints (unlinkOf 3 2) from rfl) rolls.stream
  have output := receiveCommand_keepsOutput pair.1.endpoints pair.1.tcpip
  rw [received] at output
  have takes : tcpip.Takes := ⟨running, output.2.trans rolls.writes⟩
  let reply : UnlinkReply := ⟨3, 2, urbUnlinked,
    some (silentUrb other 2 more late).toTransfer⟩
  obtain ⟨next, written, running', writes⟩ := takes.writeAll reply.parts
  have reads : next.reads = tcpip.reads := by
    have kept := tcpipServerWriteAll_reads tcpip reply.parts
    rw [written] at kept
    exact kept
  have moved : step slowDevice pair.1 (.wait true) = some (State.goto
      (State.emit (State.emit
        { pair.1 with
          tcpip := next
          rxBuffer := pair.1.rxBuffer.write 0 []
          pendingUrbs := [silentUrb ticket 1 count due] }
        [.unlink ⟨⟨usbipCmdUnlink, 3, 0, 0, 0⟩, ⟨2, Vector.replicate 24 0⟩⟩])
        [.retUnlink reply]) (.clearEvent true)) := by
    have found : findPendingUrb [silentUrb ticket 1 count due,
        silentUrb other 2 more late] 2 = some 1 := rfl
    simp only [step, here, rolls.imported, rolls.running, and_self, if_true,
      Bool.false_eq_true, if_false, processImportedCmd, received, processUnlink,
      unlinkOf, State.emit, rolls.pendingUrbs, found]
    exact congrArg some (sendUnlinkReply_taken written)
  refine ⟨_, ⟨rolls.advances moved ?_, ?_, running', ?_, ?_, writes,
    rolls.imported, rfl, rolls.endpoint, rolls.tickets⟩, rfl⟩
  · simp [streamed, received, unlinkOf]
  · simpa [readings] using rolls.zeros
  · exact reads ▸ healthy
  · exact (congrArg streamOf reads).trans stream

/-- One round of the client: a transfer of the most packets, and its unlink. -/
def cutRound : List Command :=
  [.submit (silentPackets 2 maxIsoPackets), unlinkOf 3 2]

def roundUs : Nat := maxIsoPackets * 4096000

theorem Rolls.round {ticket count due : Nat}
    (rolls : Rolls finish (cutRound ++ rest) [silentUrb ticket 1 count due]
      tickets pair)
    (here : pair.1.phase = .serve) (positive : 0 < due)
    (inRange : finish + roundUs < timeRange) :
    ∃ next, Rolls (finish + roundUs) rest [silentUrb ticket 1 count due]
        (tickets + 1) next ∧ next.1.phase = .serve := by
  have room : 1 < maxPendingUrbs := by decide
  have ends : (finish + maxIsoPackets * 4096000) % timeRange =
      finish + roundUs := Nat.mod_eq_of_lt inRange
  have later : ∀ urb ∈ [silentUrb ticket 1 count due,
      silentUrb tickets 2 maxIsoPackets (finish + roundUs)],
      urb.isochronous = true ∧ 0 < urb.completeUs := by
    intro urb member
    rcases List.mem_pair.mp member with rfl | rfl
    · exact silentUrb_later positive
    · exact silentUrb_later (Nat.lt_add_left finish (by decide))
  obtain ⟨taken, rolls, here⟩ :=
    rolls.takesSubmit here (Nat.le_refl _) room
  obtain ⟨scheduled, rolls, here⟩ :=
    rolls.schedules here (Nat.le_refl _) room
  rw [ends] at rolls
  obtain ⟨passed, rolls, here⟩ := rolls.passes here later
  obtain ⟨unlinked, rolls, here⟩ := rolls.unlinks here
  refine rolls.passes here ?_
  intro urb member
  exact later urb (List.mem_cons.mpr (.inl (List.mem_singleton.mp member)))

theorem Rolls.rounds {ticket count due : Nat} (positive : 0 < due)
    (rounds : Nat)
    (rolls : Rolls finish ((List.replicate rounds cutRound).flatten ++ rest)
      [silentUrb ticket 1 count due] tickets pair)
    (here : pair.1.phase = .serve)
    (inRange : finish + rounds * roundUs < timeRange) :
    ∃ next, Rolls (finish + rounds * roundUs) rest
        [silentUrb ticket 1 count due] (tickets + rounds) next ∧
      next.1.phase = .serve := by
  induction rounds generalizing finish tickets pair with
  | zero =>
      rw [Nat.zero_mul]
      exact ⟨pair, rolls, here⟩
  | succ rounds induction =>
      rw [Nat.succ_mul] at inRange
      rw [List.replicate_succ, List.flatten_cons, List.append_assoc] at rolls
      obtain ⟨next, rolls, here⟩ := rolls.round here positive (by omega)
      have rest := induction rolls here (by omega)
      have total : finish + roundUs + rounds * roundUs =
          finish + (rounds + 1) * roundUs := by
        rw [Nat.succ_mul]
        omega
      rwa [total, Nat.add_assoc tickets 1 rounds, Nat.add_comm 1 rounds] at rest

end

def rollingStart (commands : List Command) : State × List Nat :=
  loggedAfter slowDevice readings (regular slowDevice)
    [.accept [.data importRequest, .data (commands.flatMap Command.encode)] [],
      .server 0, .server 0, .server 0]

set_option maxRecDepth 2000 in
theorem rollingStart_rolls {commands : List Command}
    (some : commands.flatMap Command.encode ≠ []) :
    (rollingStart commands).1.phase = .serve ∧
      Rolls 0 commands [] 0 (rollingStart commands) := by
  refine ⟨rfl, loggedAfter_reached _ _ _ _, ?_, rfl, ?_, ?_, rfl, rfl, rfl, ?_,
    rfl⟩
  · intro reading read
    have none : (rollingStart commands).2 = [] := rfl
    rw [none] at read
    simp at read
  · intro result member
    have only : (rollingStart commands).1.tcpip.reads =
      [.data (commands.flatMap Command.encode)] := rfl
    rw [only] at member
    rw [List.mem_singleton.mp member]
    simpa [ReadResult.healthy] using some
  · exact List.append_nil _
  · have same : (rollingStart commands).1.endpoints =
      loadEndpoints slowDevice.configDesc := rfl
    rw [same]
    decide +kernel

theorem rounds_rolls {rounds count : Nat} (few : count ≤ maxIsoPackets)
    (inRange : 4096000 + rounds * roundUs < timeRange)
    (positive : 0 < (4096000 + rounds * roundUs + count * 4096000) %
      timeRange) :
    ∃ next,
      Rolls ((4096000 + rounds * roundUs + count * 4096000) % timeRange) []
        [silentUrb 0 1 1 4096000, silentUrb (1 + rounds) 4 count
          ((4096000 + rounds * roundUs + count * 4096000) % timeRange)]
        (1 + rounds + 1) next ∧
      next.1.phase = .serve := by
  let last : Command := .submit (silentPackets 4 count)
  let commands := .submit (silentPackets 1 1) ::
    ((List.replicate rounds cutRound).flatten ++ [last])
  have sent : commands.flatMap Command.encode ≠ [] := by
    simp [commands, Command.encode, HeaderBasic.encode, be32]
  have room : 0 < maxPendingUrbs := by decide
  obtain ⟨here, rolls⟩ := rollingStart_rolls sent
  obtain ⟨taken, rolls, here⟩ := rolls.takesSubmit here (by decide) room
  obtain ⟨scheduled, rolls, here⟩ := rolls.schedules here (by decide) room
  obtain ⟨passed, rolls, here⟩ := rolls.passes here (by
    intro urb member
    rw [List.nil_append] at member
    rw [List.mem_singleton.mp member]
    exact silentUrb_later (by decide))
  have first : (0 + 1 * 4096000) % timeRange = 4096000 := by decide
  rw [first] at rolls
  obtain ⟨cut, rolls, here⟩ := rolls.rounds (by decide) rounds here inRange
  have room : 1 < maxPendingUrbs := by decide
  obtain ⟨taken, rolls, here⟩ := rolls.takesSubmit here few room
  obtain ⟨scheduled, rolls, here⟩ := rolls.schedules here few room
  rw [Nat.zero_add] at rolls
  refine rolls.passes here ?_
  intro urb member
  rcases List.mem_pair.mp member with rfl | rfl
  · exact silentUrb_later (by decide)
  · exact silentUrb_later positive

theorem sendReply_taken {reply : Reply} {s : State} {next : Tcpip}
    (written : tcpipServerWriteAll s.tcpip reply.parts = (true, next)) :
    sendReply reply s =
      (true, State.emit { s with tcpip := next } [.retSubmit reply]) := by
  simp only [sendReply, written, if_true]

section

variable {ticket other count more late soon now : Nat} {seqnum : UInt32}
  {start pair : State × List Nat}

theorem RegularRun.skips (run : RegularRun start pair)
    (here : pair.1.phase = .pass now 0)
    (pendingUrbs : pair.1.pendingUrbs = [silentUrb ticket 1 count late,
      silentUrb other seqnum more soon])
    (early : now < late) :
    ∃ next, RegularRun start next ∧ next.1.phase = .pass now 1 ∧
      next.1.pendingUrbs = pair.1.pendingUrbs ∧
      next.1.tcpip = pair.1.tcpip := by
  have filed : pair.1.pendingUrbs[0]? =
      some (silentUrb ticket 1 count late) := by rw [pendingUrbs]; rfl
  have moved : step slowDevice pair.1 (.server 0) = some (State.goto
      { pair.1 with
        waitTimeoutUs := min pair.1.waitTimeoutUs (late - now) }
      (.pass now 1)) := by
    simp only [step, serverStep, here, completePendingUrbs, filed]
    exact congrArg some (if_pos early)
  exact ⟨_, run.advances moved rfl (by simp [readings, here]), rfl, rfl, rfl⟩

theorem RegularRun.answers (run : RegularRun start pair)
    (here : pair.1.phase = .pass now 1)
    (pendingUrbs : pair.1.pendingUrbs = [silentUrb ticket 1 count late,
      silentUrb other seqnum more soon])
    (takes : pair.1.tcpip.Takes) (due : soon ≤ now) :
    ∃ next, RegularRun start next ∧
      next.1.pendingUrbs = [silentUrb ticket 1 count late] ∧
      other ∈ repliedTickets false 3 next.1.trace := by
  have filed : pair.1.pendingUrbs[1]? =
      some (silentUrb other seqnum more soon) := by rw [pendingUrbs]; rfl
  let lengths := (silentUrb other seqnum more soon).packets.map
    fun packet => packet.length.toNat
  let reply := isoReply (silentUrb other seqnum more soon) lengths
    pair.1.txBuffer
  obtain ⟨tcpip, written, _⟩ := takes.writeAll reply.parts
  have moved : step slowDevice pair.1 (.server 0) = some (State.goto
      { State.emit { pair.1 with tcpip := tcpip } [.retSubmit reply] with
        pendingUrbs := pair.1.pendingUrbs.eraseIdx 1 }
      (.pass now 1)) := by
    have past : ¬ now < (silentUrb other seqnum more soon).dueUs
        pair.1.endpoints := Nat.not_lt.mpr due
    have kind : (silentUrb other seqnum more soon).isochronous = true := rfl
    simp only [step, serverStep, here, completePendingUrbs, filed]
    rw [if_neg past, if_pos kind, transmitIsoRetSubmit_outward rfl]
    simp only [finishIso, List.nil_append]
    rw [sendReply_taken written]
    rfl
  refine ⟨_, run.advances moved rfl (by simp [readings, here]), ?_, ?_⟩
  · change pair.1.pendingUrbs.eraseIdx 1 = _
    rw [pendingUrbs]
    rfl
  · refine List.mem_filterMap.mpr ⟨.retSubmit reply, ?_, ?_⟩
    · exact List.mem_append_right _ (List.mem_singleton.mpr rfl)
    · rfl

/-- A transfer that is due earlier than an older one overtakes it. -/
theorem Rolls.overtakes {finish tickets : Nat} {rest : List Command}
    (rolls : Rolls finish rest [silentUrb ticket 1 count late,
      silentUrb other seqnum more soon] tickets pair)
    (here : pair.1.phase = .serve) (due : soon ≤ now) (early : now < late) :
    ∃ later, RegularRun pair later ∧
      later.1.pendingUrbs = [silentUrb ticket 1 count late] ∧
      other ∈ repliedTickets false 3 later.1.trace := by
  have waited : step slowDevice pair.1 (.wait false) =
      some (pair.1.goto (.clearEvent true)) := by
    simp [step, here, rolls.imported]
  have started : step slowDevice (pair.1.goto (.clearEvent true))
      (.server now) = some (State.goto
        (State.emit
          { pair.1 with
            device := pair.1.device.usbipDeviceClearEvent
            waitTimeoutUs := waitTimeoutUsMax
            passUs := now } [.pass now]) (.pass now 0)) := rfl
  have run := RegularRun.advances .refl waited rfl (by simp [readings])
  have run := run.advances started rfl (by
    intro clock _ earlier before
    rw [rolls.zeros earlier (by simpa [readings] using before)]
    exact Nat.zero_le clock)
  obtain ⟨skipped, run, here, pendingUrbs, tcpip⟩ :=
    run.skips rfl rolls.pendingUrbs early
  exact run.answers here (pendingUrbs.trans rolls.pendingUrbs)
    (tcpip ▸ ⟨rolls.running, rolls.writes⟩) due

end

theorem Rolls.unspaced {finish tickets ticket other count more late soon : Nat}
    {seqnum : UInt32} {rest : List Command} {pair : State × List Nat}
    (rolls : Rolls finish rest [silentUrb ticket 1 count late,
      silentUrb other seqnum more soon] tickets pair) (early : soon < late) :
    ¬ Paced slowDevice pair.1 := by
  intro paced
  have spaced := paced.spaced false 3
  rw [rolls.pendingUrbs] at spaced
  have apart := (List.pairwise_cons.mp spaced).1
    (silentUrb other seqnum more soon) (List.mem_singleton.mpr rfl)
  exact absurd (Nat.le_trans (Nat.le_add_right _ _) apart)
    (Nat.not_le.mpr early)

/-- After 35184372088 rounds a transfer of 106 packets is due before the first
one, and is answered while that one is pending. -/
theorem isoPacing_wrapped :
    ∃ pair later, RegularRun (initial, []) pair ∧
      pair.1.pendingUrbs = [silentUrb 0 1 1 4096000,
        silentUrb 35184372089 4 106 2064384] ∧
      ¬ Paced slowDevice pair.1 ∧ RegularRun pair later ∧
      later.1.pendingUrbs = [silentUrb 0 1 1 4096000] ∧
      35184372089 ∈ repliedTickets false 3 later.1.trace := by
  obtain ⟨pair, rolls, here⟩ := rounds_rolls (show 106 ≤ maxIsoPackets by decide)
    (show 4096000 + 35184372088 * roundUs < timeRange by decide) (by decide)
  have ends : (4096000 + 35184372088 * roundUs + 106 * 4096000) % timeRange =
      2064384 := by decide
  have last : 1 + 35184372088 = 35184372089 := rfl
  rw [ends, last] at rolls
  have early : 2064384 < 4096000 := by decide
  obtain ⟨later, run, left, replied⟩ :=
    rolls.overtakes here (Nat.le_refl _) early
  exact ⟨pair, later, rolls.run, rolls.pendingUrbs, rolls.unspaced early, run,
    left, replied⟩

end UsbipServer
