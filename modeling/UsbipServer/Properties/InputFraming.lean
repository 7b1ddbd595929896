import UsbipServer.Refine.Progress

namespace UsbipServer

open Wire Library

/-! The commands of a session are those the client sent, however its byte
stream is cut. -/

/-- The client's bytes that are not read yet are exactly these commands. -/
structure Sends (dev : UsbipDevice) (reads : List ReadResult)
    (commands : List Command) : Prop where
  healthy : Healthy reads
  formed : ∀ command ∈ commands,
    WellFormed (loadEndpoints dev.configDesc) command
  stream : streamOf reads = commands.flatMap Command.encode

theorem SameTypes.symm {left right : Endpoints} (same : SameTypes left right) :
    SameTypes right left :=
  fun inward number => (same inward number).symm

theorem SameTypes.command {left right : Endpoints}
    (same : SameTypes left right) {command : Command}
    (formed : WellFormed left command) : WellFormed right command := by
  cases command with
  | submit command => exact same.wellFormed formed
  | unlink command => exact formed

section

variable {dev : UsbipDevice} {s s' : State} {commands : List Command}

theorem Sends.next {endpoints : Endpoints} {tcpip : Tcpip} {command : Command}
    {rest : List Command} (types : SameTypes endpoints
      (loadEndpoints dev.configDesc))
    (sends : Sends dev tcpip.reads (command :: rest))
    (running : tcpip.stopServer = false) :
    ∃ after, receiveCommand endpoints tcpip = .command after command ∧
      Sends dev after.reads rest := by
  have formed := types.symm.command (sends.formed command (by simp))
  obtain ⟨after, received, _, healthy, stream⟩ :=
    receiveCommand_reads running sends.healthy formed sends.stream
  refine ⟨after, received, healthy, ?_, stream⟩
  intro other member
  exact sends.formed other (by simp [member])

theorem Sends.received {endpoints : Endpoints} {tcpip : Tcpip}
    (types : SameTypes endpoints (loadEndpoints dev.configDesc))
    (sends : Sends dev tcpip.reads commands) :
    (∀ after command, receiveCommand endpoints tcpip = .command after command →
      ∃ rest, commands = command :: rest ∧ Sends dev after.reads rest) ∧
      ∀ after rx, receiveCommand endpoints tcpip = .failed after rx →
        after.reads = tcpip.reads := by
  cases stopped : tcpip.stopServer with
  | true =>
      have failed := @receiveCommand_stopped endpoints tcpip stopped
      constructor
      · intro after command received
        rw [failed] at received
        contradiction
      · intro after rx received
        rw [failed] at received
        cases received
        rfl
  | false =>
      cases commands with
      | nil =>
          have blocked := @receiveCommand_blocked endpoints tcpip stopped
            sends.healthy sends.stream
          constructor
          · intro after command received
            rw [blocked] at received
            contradiction
          · intro after rx received
            rw [blocked] at received
            contradiction
      | cons first rest =>
          obtain ⟨next, received, later⟩ := sends.next types stopped
          constructor
          · intro after command also
            rw [received] at also
            cases also
            exact ⟨rest, rfl, later⟩
          · intro after rx failed
            rw [received] at failed
            contradiction

theorem Takes.sends {events : List Event} (takes : Takes s s' events)
    (types : SameTypes s.endpoints (loadEndpoints dev.configDesc))
    (sends : Sends dev s.tcpip.reads commands) :
    ∃ remaining, commands = decodedOf events ++ remaining ∧
      Sends dev s'.tcpip.reads remaining := by
  cases takes with
  | nothing reads decoded =>
      rw [reads, decoded]
      exact ⟨commands, rfl, sends⟩
  | reading read =>
      cases read with
      | command received reads decoded =>
          obtain ⟨rest, rfl, later⟩ := (sends.received types).1 _ _ received
          rw [reads, decoded]
          exact ⟨rest, rfl, later⟩
      | failure received reads decoded =>
          rw [reads, decoded, (sends.received types).2 _ _ received]
          exact ⟨commands, rfl, sends⟩

def Decodes (dev : UsbipDevice) (start : State) (commands : List Command)
    (s : State) : Prop :=
  ∃ events remaining, s.trace = start.trace ++ events ∧
    decodedOf events ++ remaining = commands ∧
    Sends dev s.tcpip.reads remaining

theorem Decodes.step {start : State} {label : Label}
    (decodes : Decodes dev start commands s) (sound : Sound dev s)
    (imported : s.deviceImported = true) (still : s'.deviceImported = true)
    (stepped : step dev s label = some s') :
    Decodes dev start commands s' := by
  obtain ⟨events, remaining, traced, split, sends⟩ := decodes
  rcases step_moves sound stepped with advances | imports
  · obtain ⟨_, more, continued, _, _, _, takes⟩ := advances
    have types := (sound.attached_of imported).types
    obtain ⟨left, front, later⟩ := (takes still).sends types sends
    refine ⟨events ++ more, left, ?_, ?_, later⟩
    · rw [continued, traced, List.append_assoc]
    · rw [decodedOf_append, List.append_assoc, ← front, split]
  · rw [imports.absent] at imported
    contradiction

theorem Sends.processed {command : Command} {rest : List Command}
    (base : Attached dev s) (sends : Sends dev s.tcpip.reads (command :: rest))
    (running : s.tcpip.stopServer = false) (here : s.phase = .serve) :
    ∃ next events, step dev s (.wait true) = some next ∧
      next.trace = s.trace ++ events ∧ decodedOf events = [command] ∧
      Sends dev next.tcpip.reads rest := by
  obtain ⟨after, received, later⟩ := sends.next base.types running
  have stepped : ∃ next, step dev s (.wait true) = some next := by
    simp only [step, here, base.imported, running, processImportedCmd, received]
    cases command <;> exact ⟨_, rfl⟩
  obtain ⟨next, stepped⟩ := stepped
  obtain ⟨_, events, traced, _, _, _, read⟩ :=
    (step_transition stepped).handles base
  refine ⟨next, events, stepped, traced, ?_⟩
  cases read with
  | command also reads decoded =>
      rw [received] at also
      cases also
      rw [reads]
      exact ⟨decoded, later⟩
  | failure also =>
      rw [received] at also
      contradiction

end

/-- While the device stays imported, the commands decoded so far are the first
of those the client sent, the bytes left are exactly the others, and the next
call decodes the next one. -/
theorem inputFraming {dev : UsbipDevice} {start s : State}
    {commands : List Command} (reachable : Reachable dev start)
    (sends : Sends dev start.tcpip.reads commands)
    (reached : (server dev).Reaches (fun s _ => s.deviceImported = true) start s)
    (imported : s.deviceImported = true) :
    ∃ events remaining, s.trace = start.trace ++ events ∧
      decodedOf events ++ remaining = commands ∧
      streamOf s.tcpip.reads = remaining.flatMap Command.encode ∧
      ∀ command rest, remaining = command :: rest → s.phase = .serve →
        s.tcpip.stopServer = false →
        ∃ next more, step dev s (.wait true) = some next ∧
          next.trace = s.trace ++ more ∧ decodedOf more = [command] ∧
          streamOf next.tcpip.reads = rest.flatMap Command.encode := by
  have within : ∀ {state}, (server dev).Reaches
      (fun s _ => s.deviceImported = true) start state → Sound dev state := by
    intro state before
    have later : (server dev).Reaches Machine.anyStep start state :=
      before.mono fun _ _ _ => trivial
    exact (reachable_tracked (reachable.trans later)).sound
  have decodes : s.deviceImported = true → Decodes dev start commands s := by
    refine reached.invariant (P := fun s => s.deviceImported = true →
      Decodes dev start commands s) ?_ ?_
    · intro _
      exact ⟨[], commands, by simp, rfl, sends⟩
    · intro state label next before earlier present stepped still
      exact (earlier present).step (within before) present still stepped
  obtain ⟨events, remaining, traced, split, left⟩ := decodes imported
  refine ⟨events, remaining, traced, split, left.stream, ?_⟩
  rintro command rest rfl here running
  have base := (within reached).attached_of imported
  obtain ⟨next, more, stepped, continued, decoded, later⟩ :=
    left.processed base running here
  exact ⟨next, more, stepped, continued, decoded, later.stream⟩

/-- A transfer and its unlink, sent in pieces that end inside both commands. -/
def framedCommands : List Command :=
  [bulkIn 1 1 8,
    .unlink ⟨⟨usbipCmdUnlink, 2, 0, 0, 0⟩, ⟨1, Vector.replicate 24 0⟩⟩]

def framedReads : List ReadResult :=
  let bytes := framedCommands.flatMap Command.encode
  [.data importRequest, .again, .data (bytes.take 30), .interrupted,
    .data ((bytes.drop 30).take 30), .again, .data (bytes.drop 60)]

def framedStart : State :=
  stateAfter sampleDevice
    [.accept framedReads [], .server 0, .server 0, .server 0]

def framedEnd : State :=
  allowedAfter sampleDevice (fun s _ => s.deviceImported) framedStart
    [.wait true, .server 0, .server 0, .server 0]

theorem inputFraming_pieces :
    framedEnd.pendingUrbs.length = 1 ∧
      ∃ events remaining, framedEnd.trace = framedStart.trace ++ events ∧
        decodedOf events ++ remaining = framedCommands ∧
        streamOf framedEnd.tcpip.reads =
          remaining.flatMap Command.encode := by
  have sends : Sends sampleDevice framedStart.tcpip.reads framedCommands := by
    refine ⟨?_, ?_, by decide +kernel⟩
    · unfold Healthy
      decide +kernel
    · intro command member
      simp only [framedCommands, List.mem_cons, List.not_mem_nil,
        or_false] at member
      rcases member with rfl | rfl
      · exact ⟨rfl, by decide, by decide, by decide,
          fun isochronous => absurd isochronous (by decide +kernel),
          fun _ => rfl⟩
      · rfl
  obtain ⟨events, remaining, traced, split, stream, _⟩ :=
    inputFraming (stateAfter_reachable _ _) sends
      (allowedAfter_reached sampleDevice (fun s _ => s.deviceImported)
        framedStart [.wait true, .server 0, .server 0, .server 0])
      (by decide +kernel)
  exact ⟨by decide +kernel, events, remaining, traced, split, stream⟩

end UsbipServer
