import UsbipServer.Properties.IsoPacing

namespace UsbipServer

open Wire Library

/-! An isochronous stream that ran empty starts over at once, unless its
youngest transfer was cancelled while others were pending. -/

/-- No unlink cancels the youngest pending isochronous transfer of an endpoint
while an older one is pending. -/
def uncut (s : State) (label : Label) : Bool :=
  decide (∀ inward number, cutsStream s inward number label = false)

def restarting (dev : UsbipDevice) (pair : State × List Nat)
    (label : Label) : Bool :=
  regular dev pair label && uncut pair.1 label

section

variable {dev : UsbipDevice} {s s' : State} {label : Label} {log : List Nat}

theorem restarting_streamed
    (reached : ((server dev).logged readings).Reaches
      (fun pair label => restarting dev pair label = true) (initial, [])
      (s, log)) :
    (server dev).Reaches (fun s label => streamed dev s label = true)
      initial s := by
  refine Machine.Reaches.unlogged ?_ reached
  intro pair label allowed
  simp only [restarting, regular, Bool.and_eq_true] at allowed
  exact allowed.1.1

def ReadingsLogged (s : State) (log : List Nat) : Prop :=
  ∀ now, s.phase.reading = some now → now ∈ log

theorem ReadingsLogged.step (logged : ReadingsLogged s log)
    (filing : Filing dev s label s') :
    ReadingsLogged s' (log ++ readings s label) := by
  intro now reading
  rcases filing.reading_cases reading with before | ⟨rfl, here⟩
  · exact List.mem_append_left _ (logged now before)
  · simp [readings, here]

theorem restarting_punctual
    (reached : ((server dev).logged readings).Reaches
      (fun pair label => restarting dev pair label = true) (initial, [])
      (s, log)) :
    ReadingsLogged s log ∧ ∀ inward number,
      (s.stream inward number).Punctual PendingUrb.completeUs log := by
  refine reached.invariant (P := fun pair => ReadingsLogged pair.1 pair.2 ∧
    ∀ inward number, (pair.1.stream inward number).Punctual
      PendingUrb.completeUs pair.2) ?_ ?_
  · refine ⟨?_, ?_⟩
    · intro now reading
      contradiction
    · intro inward number
      exact .inl rfl
  · rintro ⟨state, before⟩ label next early ⟨logged, punctual⟩ allowed stepped
    obtain ⟨moved, noted⟩ := Machine.logged_step stepped
    have calm := restarting_streamed early
    have reachable : Reachable dev state := .of_allowed calm
    have filing := step_filing (reachable_tracked reachable).sound moved
    simp only [restarting, uncut, Bool.and_eq_true, decide_eq_true_eq] at allowed
    rw [noted]
    refine ⟨logged.step filing, ?_⟩
    intro inward number
    refine ((punctual inward number).step logged
      (filing.streamStep (streamed_reaches_streaming calm) reachable) ?_).later _
    rw [allowed.2 inward number]
    exact Bool.false_ne_true

/-- An isochronous submit on an endpoint without pending isochronous transfers
is scheduled from now on. -/
theorem isoRestart {request : Request} {clock : Nat}
    (reached : ((server dev).logged readings).Reaches
      (fun pair label => restarting dev pair label = true) (initial, [])
      (s, log))
    (here : s.phase = .isoSchedule request)
    (idle : ∀ urb ∈ s.pendingUrbs, urb.isochronous = true →
      urb.ep = request.ep → urb.direction ≠ request.direction)
    (later : ∀ reading ∈ log, reading ≤ clock)
    (stepped : step dev s (.server clock) = some s') :
    s'.pendingUrbs = s.pendingUrbs ++ [request.isoUrb ((clock +
      request.command.submit.numberOfPackets.toNat *
        (loadEndpoints dev.configDesc (decide (request.direction ≠ 0))
          (endpointNumber request.ep)).intervalUs) % timeRange)] := by
  have calm := restarting_streamed reached
  have reachable : Reachable dev s := .of_allowed calm
  have streaming := streamed_reaches_streaming calm
  obtain ⟨base, _, kind⟩ :=
    (reachable_tracked reachable).sound.isAttached here fun _ _ _ => id
  obtain ⟨addressed, room⟩ :=
    streaming.room request (by rw [here]; rfl) kind
  have empty : (s.stream (decide (request.direction ≠ 0))
      (endpointNumber request.ep)).queue = [] := by
    apply List.filter_eq_nil_iff.mpr
    intro urb member mine
    simp only [Transfer.inStream, Bool.and_eq_true, decide_eq_true_eq] at mine
    obtain ⟨⟨isochronous, side⟩, place⟩ := mine
    obtain ⟨ep, direction⟩ := Addressed.eq
      (streaming.addressed urb member isochronous) addressed side place
    exact idle urb member isochronous ep direction
  have fresh := ((restarting_punctual reached).2 _ _).fresh empty later
  have interval := reachable_timed reachable base.imported
    (decide (request.direction ≠ 0)) (endpointNumber request.ep)
  simp only [State.stream, base.imported, if_true] at fresh
  simp only [step, serverStep, here, scheduleIso, isoCompleteUs, fresh,
    if_neg (Nat.ne_of_lt room)] at stepped
  obtain rfl := Option.some.inj stepped
  rw [← interval]
  rfl

end

/-- Two transfers of one service interval, due at 125 and 250. -/
def twoScheduled : List Label :=
  [.wait true, .server 0, .server 0, .server 0, .server 0,
    .wait true, .server 10, .server 10, .server 10, .server 10, .server 10]

/-- Both are cancelled, the older one first, and another one arrives. -/
def stoppedLabels : List Label :=
  importLabels [.submit (silentPacket 1), .submit (silentPacket 2),
      unlinkOf 3 1, unlinkOf 4 2, .submit (silentPacket 5)] ++
    twoScheduled ++
    [.wait true, .server 20, .server 20, .server 20, .wait true, .server 20,
      .server 20, .wait true]

/-- The younger one is cancelled, the older one completes, and another one
arrives. -/
def cutLabels : List Label :=
  importLabels [.submit (silentPacket 1), .submit (silentPacket 2),
      unlinkOf 3 2, .submit (silentPacket 4)] ++
    twoScheduled ++
    [.wait true, .server 20, .server 20, .server 20, .wait false, .server 130,
      .server 130, .server 130, .wait true]

def stoppedAfter : State × List Nat :=
  loggedAfter sampleDevice readings (restarting sampleDevice) stoppedLabels

def cutAfter : State × List Nat :=
  loggedAfter sampleDevice readings (regular sampleDevice) cutLabels

theorem isoRestart_stopped :
    stoppedAfter.1.phase = .isoSchedule ⟨2, silentPacket 5⟩ ∧
      ∃ s', step sampleDevice stoppedAfter.1 (.server 30) = some s' ∧
        s'.pendingUrbs = stoppedAfter.1.pendingUrbs ++
          [Request.isoUrb ⟨2, silentPacket 5⟩ ((30 + 1 *
            (loadEndpoints sampleDevice.configDesc false 3).intervalUs) %
              timeRange)] := by
  have here : stoppedAfter.1.phase = .isoSchedule ⟨2, silentPacket 5⟩ := by
    decide +kernel
  have moves : (step sampleDevice stoppedAfter.1 (.server 30)).isSome = true := by
    decide +kernel
  have reached : ((server sampleDevice).logged readings).Reaches
      (fun pair label => restarting sampleDevice pair label = true)
      (initial, []) (stoppedAfter.1, stoppedAfter.2) := by
    rw [Prod.mk.eta]
    exact loggedAfter_reached sampleDevice readings (restarting sampleDevice)
      stoppedLabels
  obtain ⟨s', stepped⟩ := Option.isSome_iff_exists.mp moves
  exact ⟨here, s', stepped, isoRestart reached here (by decide +kernel)
    (by decide +kernel) stepped⟩

/-- No transfer is pending at 140, the new one should be due at 265 and is due
at 375: it waits for the time of the one that was cancelled. -/
theorem isoRestart_cut :
    ((server sampleDevice).logged readings).Reaches
        (fun pair label => regular sampleDevice pair label = true)
        (initial, []) (cutAfter.1, cutAfter.2) ∧
      cutAfter.1.phase = .isoSchedule ⟨2, silentPacket 4⟩ ∧
      cutAfter.1.pendingUrbs = [] ∧ (∀ reading ∈ cutAfter.2, reading ≤ 140) ∧
      (loadEndpoints sampleDevice.configDesc false 3).intervalUs = 125 ∧
      (step sampleDevice cutAfter.1 (.server 140)).map State.pendingUrbs =
        some [Request.isoUrb ⟨2, silentPacket 4⟩ 375] := by
  refine ⟨?_, by decide +kernel, by decide +kernel, by decide +kernel,
    by decide +kernel, by decide +kernel⟩
  rw [Prod.mk.eta]
  exact loggedAfter_reached sampleDevice readings (regular sampleDevice)
    cutLabels

end UsbipServer
