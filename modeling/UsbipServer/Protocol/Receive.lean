import UsbipServer.Protocol.Tables

namespace UsbipServer

open Wire Library

/-! The reading half of `process_imported_cmd`, `process_submit`,
`process_iso_submit` and `process_unlink`: every read and every check of a
command comes before anything else it does. -/

/-- The type test of `process_submit`: whether a submit carries packet
descriptors. -/
def isIsochronous (endpoints : Endpoints) (header : HeaderBasic) : Bool :=
  header.ep ≠ 0 ∧
    (endpoints (decide (header.direction ≠ 0))
      (endpointNumber header.ep)).type = usbEndpointXferIsoc

/-- The bounds check of a packet, in 64-bit arithmetic. -/
def packetFits (transferBufferLength : UInt32)
    (packet : IsoPacketDescriptor) : Bool :=
  packet.offset.toNat + packet.length.toNat ≤ transferBufferLength.toNat

/-- `rx` is what the command put at the start of `rx_buffer`. -/
inductive Received where
  | blocked
  | failed (tcpip : Tcpip) (rx : List Byte)
  | command (tcpip : Tcpip) (command : Command)

/-- `process_iso_submit` up to the checks of the packet descriptors. -/
def receiveIsoSubmit (tcpip : Tcpip) (header : HeaderBasic)
    (submit : CmdSubmit) (payload : List Byte) : Received :=
  let numberOfPackets := submit.numberOfPackets.toNat
  if maxIsoPackets < numberOfPackets then .failed tcpip payload
  else
    match tcpipServerRead tcpip (numberOfPackets * IsoPacketDescriptor.size) with
    | .blocked => .blocked
    | .failed tcpip _ => .failed tcpip payload
    | .complete tcpip bytes =>
        let packets := IsoPacketDescriptor.decodeAll numberOfPackets bytes
        if packets.all (packetFits submit.transferBufferLength) then
          .command tcpip (.submit ⟨header, submit, payload, packets⟩)
        else .failed tcpip payload

/-- What follows the OUT data of a submit. -/
def receivePackets (endpoints : Endpoints) (tcpip : Tcpip)
    (header : HeaderBasic) (submit : CmdSubmit) (payload : List Byte) :
    Received :=
  if isIsochronous endpoints header then
    receiveIsoSubmit tcpip header submit payload
  else .command tcpip (.submit ⟨header, submit, payload, []⟩)

/-- `process_submit` up to the end of its reads and checks. -/
def receiveSubmit (endpoints : Endpoints) (tcpip : Tcpip)
    (header : HeaderBasic) : Received :=
  match tcpipServerRead tcpip CmdSubmit.size with
  | .blocked => .blocked
  | .failed tcpip _ => .failed tcpip []
  | .complete tcpip bytes =>
      let submit := CmdSubmit.decode bytes
      let length := submit.transferBufferLength.toNat
      if usbipMaxPacketSize < length then .failed tcpip []
      else if header.direction = 0 then
        match tcpipServerRead tcpip length with
        | .blocked => .blocked
        | .failed tcpip received => .failed tcpip received
        | .complete tcpip payload =>
            receivePackets endpoints tcpip header submit payload
      else receivePackets endpoints tcpip header submit []

/-- `process_unlink` up to the end of its read. -/
def receiveUnlink (tcpip : Tcpip) (header : HeaderBasic) : Received :=
  match tcpipServerRead tcpip CmdUnlink.size with
  | .blocked => .blocked
  | .failed tcpip _ => .failed tcpip []
  | .complete tcpip bytes =>
      .command tcpip (.unlink ⟨header, CmdUnlink.decode bytes⟩)

def receiveCommand (endpoints : Endpoints) (tcpip : Tcpip) : Received :=
  match tcpipServerRead tcpip HeaderBasic.size with
  | .blocked => .blocked
  | .failed tcpip _ => .failed tcpip []
  | .complete tcpip bytes =>
      let header := HeaderBasic.decode bytes
      if header.command = usbipCmdSubmit then
        receiveSubmit endpoints tcpip header
      else if header.command = usbipCmdUnlink then receiveUnlink tcpip header
      else .failed tcpip []

/-! What is accepted is well formed. -/

structure WellFormedSubmit (endpoints : Endpoints) (command : SubmitCommand) :
    Prop where
  code : command.header.command = usbipCmdSubmit
  fits : command.submit.transferBufferLength.toNat ≤ usbipMaxPacketSize
  outward : command.header.direction = 0 →
    command.payload.length = command.submit.transferBufferLength.toNat
  inward : command.header.direction ≠ 0 → command.payload = []
  isochronous : isIsochronous endpoints command.header = true →
    command.packets.length = command.submit.numberOfPackets.toNat ∧
      command.packets.length ≤ maxIsoPackets ∧
      ∀ packet ∈ command.packets,
        packetFits command.submit.transferBufferLength packet = true
  plain : isIsochronous endpoints command.header = false →
    command.packets = []

def WellFormed (endpoints : Endpoints) : Command → Prop
  | .submit command => WellFormedSubmit endpoints command
  | .unlink command => command.header.command = usbipCmdUnlink

private theorem receivePackets_wellFormed {endpoints : Endpoints}
    {tcpip next : Tcpip} {header : HeaderBasic} {submit : CmdSubmit}
    {payload : List Byte} {command : Command}
    (isSubmit : header.command = usbipCmdSubmit)
    (fits : submit.transferBufferLength.toNat ≤ usbipMaxPacketSize)
    (outward : header.direction = 0 →
      payload.length = submit.transferBufferLength.toNat)
    (inward : header.direction ≠ 0 → payload = [])
    (received : receivePackets endpoints tcpip header submit payload =
      .command next command) :
    WellFormed endpoints command := by
  unfold receivePackets at received
  split at received
  next iso =>
    unfold receiveIsoSubmit at received
    simp only at received
    split at received
    · contradiction
    next few =>
      split at received
      · contradiction
      · contradiction
      · split at received
        next inside =>
          cases received
          refine ⟨isSubmit, fits, outward, inward, ?_, ?_⟩
          · intro _
            refine ⟨by simp, by simpa using few, ?_⟩
            exact List.all_eq_true.mp inside
          · intro plain
            rw [iso] at plain
            contradiction
        · contradiction
  next plain =>
    cases received
    refine ⟨isSubmit, fits, outward, inward, ?_, fun _ => rfl⟩
    intro iso
    exact absurd iso plain

theorem receiveCommand_wellFormed {endpoints : Endpoints}
    {tcpip next : Tcpip} {command : Command}
    (received : receiveCommand endpoints tcpip = .command next command) :
    WellFormed endpoints command := by
  unfold receiveCommand at received
  split at received
  · contradiction
  · contradiction
  · simp only at received
    split at received
    next isSubmit =>
      unfold receiveSubmit at received
      split at received
      · contradiction
      · contradiction
      · simp only at received
        split at received
        · contradiction
        next fits =>
          split at received
          next outward =>
            split at received
            · contradiction
            · contradiction
            next read =>
              refine receivePackets_wellFormed isSubmit (Nat.le_of_not_lt fits)
                ?_ ?_ received
              · intro _
                exact tcpipServerRead_length read
              · intro inward
                exact absurd outward inward
          next inward =>
            refine receivePackets_wellFormed isSubmit (Nat.le_of_not_lt fits)
              ?_ ?_ received
            · intro outward
              exact absurd outward inward
            · intro _
              rfl
    · split at received
      next isUnlink =>
        unfold receiveUnlink at received
        split at received
        · contradiction
        · contradiction
        · cases received
          exact isUnlink
      · contradiction

/-! What is well formed is accepted, however the stream is cut. -/

section

variable {endpoints : Endpoints} {tcpip : Tcpip} {rest : List Byte}

def Reads (received : Received) (command : Command) (rest : List Byte) :
    Prop :=
  ∃ next, received = .command next command ∧ next.stopServer = false ∧
    Healthy next.reads ∧ streamOf next.reads = rest

private theorem receivePackets_reads {command : SubmitCommand}
    (running : tcpip.stopServer = false) (healthy : Healthy tcpip.reads)
    (formed : WellFormedSubmit endpoints command)
    (stream : streamOf tcpip.reads =
      IsoPacketDescriptor.encodeAll command.packets ++ rest) :
    Reads (receivePackets endpoints tcpip command.header command.submit
      command.payload) (.submit command) rest := by
  unfold receivePackets
  cases kind : isIsochronous endpoints command.header with
  | true =>
      obtain ⟨counted, few, inside⟩ := formed.isochronous kind
      obtain ⟨next, read, alsoRunning, later, left⟩ :=
        tcpipServerRead_front running healthy stream
      rw [IsoPacketDescriptor.length_encodeAll, counted] at read
      rw [counted] at few
      have all : command.packets.all
          (packetFits command.submit.transferBufferLength) = true :=
        List.all_eq_true.mpr inside
      have decoded : IsoPacketDescriptor.decodeAll
          command.submit.numberOfPackets.toNat
          (IsoPacketDescriptor.encodeAll command.packets) =
            command.packets := by
        rw [← counted]
        exact IsoPacketDescriptor.decodeAll_encodeAll command.packets
      refine ⟨next, ?_, alsoRunning, later, left⟩
      simp only [if_true, receiveIsoSubmit, Nat.not_lt.mpr few, if_false, read,
        decoded, all]
  | false =>
      have none := formed.plain kind
      rw [none] at stream
      refine ⟨tcpip, ?_, running, healthy, stream⟩
      simp only [Bool.false_eq_true, if_false]
      rw [← none]

private theorem receiveSubmit_reads {command : SubmitCommand}
    (running : tcpip.stopServer = false) (healthy : Healthy tcpip.reads)
    (formed : WellFormedSubmit endpoints command)
    (stream : streamOf tcpip.reads = command.submit.encode ++
      (command.payload ++ (IsoPacketDescriptor.encodeAll command.packets ++
        rest))) :
    Reads (receiveSubmit endpoints tcpip command.header) (.submit command)
      rest := by
  obtain ⟨next, read, alsoRunning, later, left⟩ :=
    tcpipServerRead_front running healthy stream
  rw [CmdSubmit.length_encode] at read
  unfold receiveSubmit
  simp only [read, CmdSubmit.decode_encode, Nat.not_lt.mpr formed.fits,
    if_false]
  by_cases outward : command.header.direction = 0
  · obtain ⟨last, payload, stillRunning, yetLater, remaining⟩ :=
      tcpipServerRead_front alsoRunning later left
    rw [formed.outward outward] at payload
    simp only [outward, if_true, payload]
    exact receivePackets_reads stillRunning yetLater formed remaining
  · have none := formed.inward outward
    rw [none] at left
    simp only [outward, if_false]
    have packets := receivePackets_reads alsoRunning later formed left
    rw [none] at packets
    exact packets

theorem receiveCommand_reads {command : Command}
    (running : tcpip.stopServer = false) (healthy : Healthy tcpip.reads)
    (formed : WellFormed endpoints command)
    (stream : streamOf tcpip.reads = command.encode ++ rest) :
    Reads (receiveCommand endpoints tcpip) command rest := by
  cases command with
  | submit command =>
      simp only [Command.encode, List.append_assoc] at stream
      obtain ⟨next, read, alsoRunning, later, left⟩ :=
        tcpipServerRead_front running healthy stream
      rw [HeaderBasic.length_encode] at read
      unfold receiveCommand
      simp only [read, HeaderBasic.decode_encode, formed.code, if_true]
      exact receiveSubmit_reads alsoRunning later formed left
  | unlink command =>
      have code : command.header.command = usbipCmdUnlink := formed
      have other : ¬ usbipCmdUnlink = usbipCmdSubmit := by decide
      simp only [Command.encode, List.append_assoc] at stream
      obtain ⟨next, read, alsoRunning, later, left⟩ :=
        tcpipServerRead_front running healthy stream
      obtain ⟨last, body, stillRunning, yetLater, remaining⟩ :=
        tcpipServerRead_front alsoRunning later left
      rw [HeaderBasic.length_encode] at read
      rw [CmdUnlink.length_encode] at body
      refine ⟨last, ?_, stillRunning, yetLater, remaining⟩
      simp only [receiveCommand, read, HeaderBasic.decode_encode, code, other,
        if_false, if_true, receiveUnlink, body, CmdUnlink.decode_encode]

theorem receiveCommand_blocked (running : tcpip.stopServer = false)
    (healthy : Healthy tcpip.reads) (stream : streamOf tcpip.reads = []) :
    receiveCommand endpoints tcpip = .blocked := by
  have blocked : tcpipServerRead tcpip HeaderBasic.size = .blocked := by
    refine tcpipServerRead_short running healthy ?_
    simp [stream, HeaderBasic.size]
  simp only [receiveCommand, blocked]

theorem receiveCommand_stopped (stopped : tcpip.stopServer = true) :
    receiveCommand endpoints tcpip = .failed tcpip [] := by
  have failed := tcpipServerRead_stopped stopped
    (show HeaderBasic.size ≠ 0 by decide)
  simp only [receiveCommand, failed]

end

/-! Receiving leaves what was sent, and how writes will go, alone. -/

def SameOutput (tcpip next : Tcpip) : Prop :=
  next.sent = tcpip.sent ∧ next.writes = tcpip.writes

theorem SameOutput.trans {first second third : Tcpip}
    (early : SameOutput first second) (late : SameOutput second third) :
    SameOutput first third :=
  ⟨late.1.trans early.1, late.2.trans early.2⟩

theorem tcpipServerRead_sameOutput {tcpip next : Tcpip} {size : Nat}
    {bytes : List Byte}
    (completed : tcpipServerRead tcpip size = .complete next bytes) :
    SameOutput tcpip next := by
  have kept := tcpipServerRead_complete completed
  rw [kept]
  exact ⟨rfl, rfl⟩

def Received.KeepsOutput (tcpip : Tcpip) : Received → Prop
  | .blocked => True
  | .failed next _ => SameOutput tcpip next
  | .command next _ => SameOutput tcpip next

private theorem receivePackets_keepsOutput (endpoints : Endpoints)
    (start tcpip : Tcpip) (header : HeaderBasic) (submit : CmdSubmit)
    (payload : List Byte) (earlier : SameOutput start tcpip) :
    (receivePackets endpoints tcpip header submit payload).KeepsOutput
      start := by
  unfold receivePackets
  split
  · unfold receiveIsoSubmit
    simp only
    split
    · exact earlier
    · split
      · trivial
      next lost => exact earlier.trans (tcpipServerRead_failed lost)
      next read =>
        split
        · exact earlier.trans (tcpipServerRead_sameOutput read)
        · exact earlier.trans (tcpipServerRead_sameOutput read)
  · exact earlier

theorem receiveCommand_keepsOutput (endpoints : Endpoints) (tcpip : Tcpip) :
    (receiveCommand endpoints tcpip).KeepsOutput tcpip := by
  unfold receiveCommand
  split
  · trivial
  next lost => exact tcpipServerRead_failed lost
  next read =>
    have headed := tcpipServerRead_sameOutput read
    simp only
    split
    · unfold receiveSubmit
      split
      · trivial
      next lost => exact headed.trans (tcpipServerRead_failed lost)
      next read =>
        have submitted := headed.trans (tcpipServerRead_sameOutput read)
        simp only
        split
        · exact submitted
        · split
          · split
            · trivial
            next lost => exact submitted.trans (tcpipServerRead_failed lost)
            next read =>
              exact receivePackets_keepsOutput _ _ _ _ _ _
                (submitted.trans (tcpipServerRead_sameOutput read))
          · exact receivePackets_keepsOutput _ _ _ _ _ _ submitted
    · split
      · unfold receiveUnlink
        split
        · trivial
        next lost => exact headed.trans (tcpipServerRead_failed lost)
        next read => exact headed.trans (tcpipServerRead_sameOutput read)
      · exact headed

/-- The OUT data a command leaves at the start of `rx_buffer`. -/
def Wire.Command.payload : Command → List Byte
  | .submit command => command.payload
  | .unlink _ => []

end UsbipServer
