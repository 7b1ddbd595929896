import UsbipServer.Refine.InStep

namespace UsbipServer

open Wire Library

/-! A new host sees a fresh device: what the server sends it and what the
callbacks are called with depends on nothing that earlier hosts sent or left
behind. -/

section

variable {dev : UsbipDevice} {first second s s' : State}

/-! Calls are numbered from 0 on, so all of them were begun before the next
one. -/

def EarlierCalls (s : State) : Prop :=
  ∀ thread, (s.threads thread).call.isOld s = true

theorem CallPhase.isOld_mono {phase : CallPhase}
    (old : phase.isOld s = true) (later : s.calls ≤ s'.calls) :
    phase.isOld s' = true := by
  cases phase with
  | idle => rfl
  | waiting call | stored call =>
      have number : call.id < s.calls := of_decide_eq_true old
      exact decide_eq_true (number.trans_le later)

theorem Section.isOld {mayWait : Bool} {device device' : DeviceState}
    {call : Call} {phase : CallPhase} {events : List Event}
    (ran : Section mayWait device call device' phase events)
    (number : call.id < s.calls) : phase.isOld s = true := by
  cases ran with
  | waiting => exact decide_eq_true number
  | stored =>
      split
      · rfl
      · exact decide_eq_true number
  | dropped => rfl

theorem EarlierCalls.setCall {start : State} {thread : Nat}
    {phase : CallPhase} (earlier : EarlierCalls s)
    (threads : start.threads = s.threads) (later : s.calls ≤ start.calls)
    (old : phase.isOld start = true) :
    EarlierCalls (setCall start thread phase) := by
  intro place
  by_cases here : place = thread
  · subst here
    refine CallPhase.isOld_mono (s := start) ?_ (Nat.le_refl start.calls)
    simpa [UsbipServer.setCall] using old
  · refine CallPhase.isOld_mono (s := s) ?_ later
    simpa [UsbipServer.setCall, here, threads] using earlier place

theorem Local.earlier_calls (acted : Local s s') (earlier : EarlierCalls s) :
    EarlierCalls s' := by
  cases acted with
  | transmit thread ep data idle ran =>
      refine earlier.setCall rfl (Nat.le_succ s.calls) ?_
      exact ran.isOld (Nat.lt_succ_self s.calls)
  | wake thread call waiting ran =>
      have old := earlier thread
      rw [waiting] at old
      refine earlier.setCall rfl (Nat.le_refl s.calls) ?_
      exact ran.isOld (of_decide_eq_true old)
  | post thread call stored =>
      exact earlier.setCall rfl (Nat.le_refl s.calls) rfl
  | critical threads same =>
      intro thread
      change (threads thread).call.isOld s = true
      rw [same]
      exact earlier thread
  | serverTransmit =>
      intro thread
      exact CallPhase.isOld_mono (earlier thread) (Nat.le_succ s.calls)
  | _ => exact earlier

theorem reachable_earlierCalls (reachable : Reachable dev s) :
    EarlierCalls s := by
  refine reachable.device_invariant (P := EarlierCalls) (fun _ => rfl) ?_
  intro state next _ earlier acted
  rcases acted with ⟨middle, performed, apart, _⟩ | fetches
  · have still := performed.earlier_calls earlier
    intro thread
    rw [apart.threads]
    exact CallPhase.isOld_mono (still thread) apart.calls.ge
  · intro thread
    rw [fetches.threads]
    exact CallPhase.isOld_mono (earlier thread) fetches.calls.ge

theorem reachable_running (reachable : Reachable dev s) : Running s := by
  refine reachable.invariant (P := Running) ?_ ?_
  · intro stopped
    contradiction
  · intro state label next before running _ stepped
    exact running.step (reachable_tracked before).sound stepped

/-- The state the reset of an import leaves behind. -/
def afterReset (before : State) : State :=
  ({ before with device := before.device.usbipDeviceReset }.emit
    [.reset]).goto (.resetEvent .attach)

theorem step_reset {before : State} (here : before.phase = .reset .attach)
    (clock : Nat) :
    step dev before (.server clock) = some (afterReset before) := by
  simp only [step, serverStep, here]
  rfl

/-- All that is left of earlier sessions: who holds `receive_lock`, calls that
have not returned, the generation and the transfer buffers. -/
structure Fresh (dev : UsbipDevice) (first : State) : Prop where
  sent : first.tcpip.sent = []
  running : first.device.deviceStopped = false
  stored : ∀ endpoint, first.device.endpointData endpoint = []
  configurationValue : first.device.configurationValue = 0
  controlAnswered : first.device.controlAnswered = false
  imported : first.deviceImported = false
  pending : first.pendingUrbs = []
  endpoints : first.endpoints = loadEndpoints dev.configDesc
  threads : EarlierCalls first
  phase : first.phase = .resetEvent .attach

theorem JustReset.fresh (reset : JustReset dev first) : Fresh dev first := by
  obtain ⟨before, clock, reachable, here, stepped⟩ := reset
  rw [step_reset here, Option.some.injEq] at stepped
  subst stepped
  have running : before.device.deviceStopped = false := by
    cases stopped : before.device.deviceStopped with
    | false => rfl
    | true =>
        have ended := reachable_running reachable stopped
        rw [here] at ended
        contradiction
  rcases (reachable_tracked reachable).sound with
    ⟨_, phase⟩ | ⟨imported, pending, phase⟩
  · rw [here] at phase
    contradiction
  · rw [here] at phase
    obtain ⟨endpoints, _, sent⟩ := phase
    have earlier := reachable_earlierCalls reachable
    refine ⟨sent, running, fun _ => rfl, rfl, rfl, imported, pending, endpoints,
      ?_, rfl⟩
    intro thread
    exact CallPhase.isOld_mono (earlier thread) (Nat.le_refl before.calls)

theorem SameClient.tcpip (client : SameClient first second)
    (sent : first.tcpip.sent = second.tcpip.sent) :
    first.tcpip = second.tcpip := by
  obtain ⟨reads, writes, stopServer⟩ := client
  generalize first.tcpip = left at reads writes stopServer sent ⊢
  generalize second.tcpip = right at reads writes stopServer sent ⊢
  cases left
  cases right
  simp only [Tcpip.mk.injEq]
  exact ⟨stopServer, reads, writes, sent⟩

theorem Fresh.related (left : Fresh dev first) (right : Fresh dev second)
    (client : SameClient first second) :
    Related first second 0 first second := by
  have untouched : ∀ state : State, state.eventsSince state = [] :=
    fun state => List.drop_length
  refine ⟨?_, ?_, ?_⟩
  · refine
      { tcpip := ?_, device := ?_, imported := ?_, pending := ?_,
        endpoints := ?_, received := ?_, threads := ?_, begun := ?_,
        grown := ?_, heard := ?_, covered := ?_ }
    · exact client.tcpip (left.sent.trans right.sent.symm)
    · refine ⟨?_, ?_, ?_, ?_, ?_⟩
      · rw [left.running, right.running]
      · intro endpoint
        rw [left.stored, right.stored]
      · rw [left.configurationValue, right.configurationValue]
      · rw [left.controlAnswered, right.controlAnswered]
      · rw [UInt32.sub_self, UInt32.sub_self]
    · rw [left.imported, right.imported]
    · rw [left.pending, right.pending]
    · rw [left.endpoints, right.endpoints]
    · intro index bound
      contradiction
    · intro thread
      exact .old (left.threads thread) (right.threads thread)
    · exact ⟨Nat.le_refl _, Nat.le_refl _⟩
    · exact ⟨Nat.le_refl _, Nat.le_refl _⟩
    · rw [State.heardSince, State.heardSince, untouched, untouched]
    · intro earlier member
      rw [untouched] at member
      contradiction
  · rw [left.phase, right.phase]
    exact .resetEvent
  · intro index bound
    rw [left.phase] at bound
    contradiction

end

/-- After the reset of an import, in two histories with the same client, clock,
application threads and callbacks whose steps are all separated from the earlier
sessions, the server sends the same bytes and calls the callbacks with the same
arguments. -/
theorem freshDevice {dev : UsbipDevice} {behaviour : Behaviour}
    {first second s t : State} (reset : JustReset dev first)
    (alsoReset : JustReset dev second) (client : SameClient first second)
    (paired : Paired dev behaviour separated first second s t) :
    SameOutcome first second s t := by
  have base := reset.fresh.related alsoReset.fresh client
  have related : ∃ extent, Related first second extent s t := by
    refine paired.invariant
      (R := fun s t => ∃ extent, Related first second extent s t)
      ⟨0, base⟩ ?_ ?_ ?_
    · intro s t left right s' t' earlier input stepped alsoStepped
      obtain ⟨extent, related⟩ := earlier
      exact related.both input.1 input.2.1 stepped alsoStepped
    · intro s t label s' earlier allowed stepped
      obtain ⟨extent, related⟩ := earlier
      exact ⟨extent, related.unnoticed
        (alone_unnoticed allowed.1 allowed.2 stepped) (.refl second t)⟩
    · intro s t label t' earlier allowed stepped
      obtain ⟨extent, related⟩ := earlier
      exact ⟨extent, related.unnoticed (.refl first s)
        (alone_unnoticed allowed.1 allowed.2 stepped)⟩
  obtain ⟨extent, related⟩ := related
  exact ⟨congrArg Tcpip.sent related.same.tcpip, related.same.heard⟩

/-! An earlier host sends data to a bulk endpoint and is gone, then a new host
submits a vendor request of 4 bytes as an IN transfer. -/

def earlierHost (payload : List Byte) : List Label :=
  [.accept
      [.data (importRequest ++ Command.encode (.submit
        ⟨⟨usbipCmdSubmit, 1, 0, 0, 2⟩,
          ⟨0, 4, 0, 0, 0, ⟨0, 0, 0, 0, 0, 0, 0, 0⟩⟩, payload, []⟩)),
        .failed] [],
    .server 0, .server 0, .server 0, .wait true, .server 0,
    .callbackReturn [] 0, .server 0, .server 0, .wait true, .server 0,
    .server 0, .server 0]

def beforeReset (payload : List Byte) (setup : Setup) : State :=
  stateAfter sampleDevice (earlierHost payload ++
    [.accept [.data (importRequest ++ (controlIn 1 setup 4).encode)] [],
      .server 0])

def newDevice (payload : List Byte) (setup : Setup) : State :=
  afterReset (beforeReset payload setup)

def newHost : List Label := [.server 0, .wait true, .server 0, .server 0]

def returnsAtOnce : Behaviour := fun _ _ => .callbackReturn [] 0

section

variable {dev : UsbipDevice} {behaviour : Behaviour}
  {allowed : State → State → Label → Bool} {first second : State}

theorem justReset_newDevice {payload : List Byte} {setup : Setup}
    (here : (beforeReset payload setup).phase = .reset .attach) :
    JustReset sampleDevice (newDevice payload setup) :=
  ⟨beforeReset payload setup, 0, stateAfter_reachable sampleDevice _, here,
    step_reset here 0⟩

theorem run_allowedAfter {allowed : State → Label → Bool} {start : State}
    {labels : List Label}
    (finishes :
      (((server dev).restrict allowed).run start labels).isSome = true) :
    ((server dev).restrict allowed).run start labels =
      some (allowedAfter dev allowed start labels) := by
  obtain ⟨finish, run⟩ := Option.isSome_iff_exists.mp finishes
  rw [allowedAfter, run]
  rfl

theorem paired_newHost
    (finishes : (((server dev).restrict (allowed first)).run first
      newHost).isSome = true)
    (alsoFinishes : (((server dev).restrict (allowed second)).run second
      newHost).isSome = true) :
    Paired dev behaviour allowed first second
      (allowedAfter dev (allowed first) first newHost)
      (allowedAfter dev (allowed second) second newHost) := by
  refine Machine.Pairs.start.run ?_ (run_allowedAfter finishes)
    (run_allowedAfter alsoFinishes)
  intro s t label member permitted alsoPermitted
  refine ⟨?_, permitted, alsoPermitted⟩
  simp only [newHost, List.mem_cons, List.not_mem_nil, or_false] at member
  rcases member with rfl | rfl | rfl | rfl <;> exact .outside rfl rfl rfl rfl

end

/-- What the new host got, if all its steps are allowed. -/
def served (allowed : State → State → Label → Bool) (payload : List Byte)
    (setup : Setup) : State :=
  allowedAfter sampleDevice (allowed (newDevice payload setup))
    (newDevice payload setup) newHost

def vendorSetup (bmRequestType : Byte) : Setup :=
  ⟨bmRequestType, 1, 0, 0, 0, 0, 4, 0⟩

/-- The callback of a device-to-host request gets what is left in `rx_buffer`,
which means nothing to it. -/
theorem freshDevice_inward :
    (newDevice [1, 2, 3, 4] (vendorSetup 0xc0)).rxBuffer 0 ≠
        (newDevice [5, 6, 7, 8] (vendorSetup 0xc0)).rxBuffer 0 ∧
      SameOutcome (newDevice [1, 2, 3, 4] (vendorSetup 0xc0))
        (newDevice [5, 6, 7, 8] (vendorSetup 0xc0))
        (served separated [1, 2, 3, 4] (vendorSetup 0xc0))
        (served separated [5, 6, 7, 8] (vendorSetup 0xc0)) ∧
      State.heardSince (newDevice [1, 2, 3, 4] (vendorSetup 0xc0))
          (served separated [1, 2, 3, 4] (vendorSetup 0xc0)) =
        [.control (vendorSetup 0xc0) []] := by
  have paired : Paired sampleDevice returnsAtOnce separated
      (newDevice [1, 2, 3, 4] (vendorSetup 0xc0))
      (newDevice [5, 6, 7, 8] (vendorSetup 0xc0))
      (served separated [1, 2, 3, 4] (vendorSetup 0xc0))
      (served separated [5, 6, 7, 8] (vendorSetup 0xc0)) :=
    paired_newHost (by decide +kernel) (by decide +kernel)
  have client : SameClient (newDevice [1, 2, 3, 4] (vendorSetup 0xc0))
      (newDevice [5, 6, 7, 8] (vendorSetup 0xc0)) :=
    ⟨by decide +kernel, by decide +kernel, by decide +kernel⟩
  refine ⟨by decide +kernel, ?_, by decide +kernel⟩
  exact freshDevice (justReset_newDevice (by decide +kernel))
    (justReset_newDevice (by decide +kernel)) client paired

/-- The callback of a host-to-device request that was submitted as an IN
transfer gets the data of the earlier host. -/
theorem freshDevice_leftover :
    ∃ first second s t, JustReset sampleDevice first ∧
      JustReset sampleDevice second ∧ SameClient first second ∧
      Paired sampleDevice returnsAtOnce (fun _ _ _ => true) first second s t ∧
      s.deviceImported = true ∧ t.deviceImported = true ∧
      first.heardSince s = [.control (vendorSetup 0x40) [1, 2, 3, 4]] ∧
      second.heardSince t = [.control (vendorSetup 0x40) [5, 6, 7, 8]] ∧
      ¬SameOutcome first second s t := by
  have paired : Paired sampleDevice returnsAtOnce (fun _ _ _ => true)
      (newDevice [1, 2, 3, 4] (vendorSetup 0x40))
      (newDevice [5, 6, 7, 8] (vendorSetup 0x40))
      (served (fun _ _ _ => true) [1, 2, 3, 4] (vendorSetup 0x40))
      (served (fun _ _ _ => true) [5, 6, 7, 8] (vendorSetup 0x40)) :=
    paired_newHost (by decide +kernel) (by decide +kernel)
  have client : SameClient (newDevice [1, 2, 3, 4] (vendorSetup 0x40))
      (newDevice [5, 6, 7, 8] (vendorSetup 0x40)) :=
    ⟨by decide +kernel, by decide +kernel, by decide +kernel⟩
  have left : State.heardSince (newDevice [1, 2, 3, 4] (vendorSetup 0x40))
      (served (fun _ _ _ => true) [1, 2, 3, 4] (vendorSetup 0x40)) =
        [.control (vendorSetup 0x40) [1, 2, 3, 4]] := by decide +kernel
  have right : State.heardSince (newDevice [5, 6, 7, 8] (vendorSetup 0x40))
      (served (fun _ _ _ => true) [5, 6, 7, 8] (vendorSetup 0x40)) =
        [.control (vendorSetup 0x40) [5, 6, 7, 8]] := by decide +kernel
  have imported : (served (fun _ _ _ => true) [1, 2, 3, 4]
      (vendorSetup 0x40)).deviceImported = true := by decide +kernel
  have alsoImported : (served (fun _ _ _ => true) [5, 6, 7, 8]
      (vendorSetup 0x40)).deviceImported = true := by decide +kernel
  refine ⟨_, _, _, _, justReset_newDevice (by decide +kernel),
    justReset_newDevice (by decide +kernel), client, paired, imported,
    alsoImported, left, right, ?_⟩
  intro same
  have heard := left.symm.trans (same.heard.trans right)
  exact absurd heard (by decide)

end UsbipServer
