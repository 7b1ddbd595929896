import UsbipServer.Refine.Filing
import UsbipServer.Library.Sweep

namespace UsbipServer

open Wire Library

/-! One completion pass, from whatever tables and buffers it starts with: it
comes to its end, looks at every pending transfer once, and leaves only those
that have to wait. -/

/-- The steps of a pass during which nobody transmits: those of the server
thread, and of the other threads those that store no data. -/
def passing (s : State) : Label → Bool
  | .server _ => s.phase.reading.isSome
  | .callbackReturn _ _ => s.phase.reading.isSome
  | .post _ => s.phase.reading.isSome
  | .enter _ => s.phase.reading.isSome
  | .exit _ => s.phase.reading.isSome
  | .interrupt => s.phase.reading.isSome
  | _ => false

def State.considers (s : State) : Option PendingUrb :=
  match s.phase with
  | .pass _ index => s.pendingUrbs[index]?
  | _ => none

def passNote (s : State) : Label → List (Option PendingUrb)
  | .server _ => [s.considers]
  | .callbackReturn _ _ => [s.considers]
  | _ => []

/-- How many steps of the server thread a pass takes at most: one for each
transfer, two for each packet the device is called for, and the last one. -/
def passSteps (pendingUrbs : List PendingUrb) : Nat :=
  (pendingUrbs.map fun urb => 1 + 2 * urb.packets.length).sum + 1

/-- The transfer has to wait, for its time or for data. -/
structure Rests (now : Nat) (s : State) (urb : PendingUrb) : Prop where
  isochronous : urb.isochronous = true → now < urb.completeUs
  data : urb.isochronous = false →
    (s.endpoints true urb.number).nextPollUs ≤ now →
    s.device.endpointData urb.number = []

/-- How long the server may sleep for a transfer that is not due. -/
def PendingUrb.waitUs (now : Nat) (endpoints : Endpoints) (urb : PendingUrb) :
    Option Nat :=
  if now < urb.dueUs endpoints then some (urb.dueUs endpoints - now) else none

/-- A pass over `queue` is done with `seen` and stands at `index`. -/
structure Swept (now : Nat) (queue : List PendingUrb) (s : State)
    (index : Nat) (seen : List PendingUrb) : Prop where
  sweep : Sweep queue s.pendingUrbs index seen
  rests : ∀ urb ∈ s.pendingUrbs.take index, Rests now s urb
  timeout : IsLeast (demands waitTimeoutUsMax
    (PendingUrb.waitUs now s.endpoints) (s.pendingUrbs.take index))
    s.waitTimeoutUs
  positive : ∀ urb ∈ s.pendingUrbs, urb.isochronous = false →
    0 < urb.transferBufferLength.toNat

namespace Swept

variable {now index : Nat} {queue seen : List PendingUrb} {s s' : State}
  {urb : PendingUrb}

theorem start (here : s.pendingUrbs = queue)
    (timeout : s.waitTimeoutUs = waitTimeoutUsMax)
    (positive : ∀ urb ∈ queue, urb.isochronous = false →
      0 < urb.transferBufferLength.toNat) : Swept now queue s 0 [] := by
  subst here
  refine ⟨Sweep.start _, by simp, ?_, positive⟩
  rw [timeout]
  simp [demands]

theorem same (swept : Swept now queue s index seen)
    (pending : s'.pendingUrbs = s.pendingUrbs)
    (endpoints : s'.endpoints = s.endpoints)
    (timeout : s'.waitTimeoutUs = s.waitTimeoutUs)
    (data : s'.device.endpointData = s.device.endpointData) :
    Swept now queue s' index seen := by
  obtain ⟨sweep, rests, least, positive⟩ := swept
  refine ⟨?_, ?_, ?_, ?_⟩
  · rw [pending]
    exact sweep
  · intro urb member
    rw [pending] at member
    obtain ⟨isochronous, empty⟩ := rests urb member
    refine ⟨isochronous, ?_⟩
    rw [endpoints, data]
    exact empty
  · rw [pending, endpoints, timeout]
    exact least
  · rw [pending]
    exact positive

theorem later (swept : Swept now queue s index seen)
    (filed : s.pendingUrbs[index]? = some urb)
    (early : now < urb.dueUs s.endpoints) :
    Swept now queue
      { s with
        waitTimeoutUs := min s.waitTimeoutUs (urb.dueUs s.endpoints - now) }
      (index + 1) (seen ++ [urb]) := by
  refine ⟨swept.sweep.keep filed, ?_, ?_, swept.positive⟩
  · intro other member
    rcases mem_take_succ filed member with before | rfl
    · exact ⟨(swept.rests other before).isochronous,
        (swept.rests other before).data⟩
    · unfold PendingUrb.dueUs at early
      refine ⟨?_, ?_⟩
      · intro isochronous
        rwa [if_pos isochronous] at early
      · intro plain due
        rw [plain, if_neg Bool.false_ne_true] at early
        exact absurd due (Nat.not_le.mpr early)
  · have asked : urb.waitUs now s.endpoints =
        some (urb.dueUs s.endpoints - now) := if_pos early
    rw [List.take_add_one, filed, Option.toList_some, demands_some asked,
      min_comm]
    exact swept.timeout.insert _

theorem empty (swept : Swept now queue s index seen)
    (filed : s.pendingUrbs[index]? = some urb) (plain : urb.isochronous = false)
    (due : (s.endpoints true urb.number).nextPollUs ≤ now)
    (nothing : (s.device.usbipDeviceFetchEpData urb.ep.toUInt8
      urb.transferBufferLength.toNat).1 = []) :
    Swept now queue
      { s with
        device := (s.device.usbipDeviceFetchEpData urb.ep.toUInt8
          urb.transferBufferLength.toNat).2 }
      (index + 1) (seen ++ [urb]) := by
  have positive :=
    swept.positive urb (List.mem_of_getElem? filed) plain
  have drained : s.device.endpointData urb.number = [] := by
    rw [Transfer.number, ← epMasked_toUInt8]
    exact (DeviceState.fetched_eq_nil_iff.mp nothing).resolve_left (by omega)
  refine ⟨swept.sweep.keep filed, ?_, ?_, swept.positive⟩
  · intro other member
    rcases mem_take_succ filed member with before | rfl
    · obtain ⟨isochronous, rest⟩ := swept.rests other before
      exact ⟨isochronous,
        fun kind reached => DeviceState.fetched_empty (rest kind reached)⟩
    · refine ⟨?_, fun _ _ => DeviceState.fetched_empty drained⟩
      intro isochronous
      rw [plain] at isochronous
      contradiction
  · have unasked : urb.waitUs now s.endpoints = none := by
      unfold PendingUrb.waitUs PendingUrb.dueUs
      rw [plain, if_neg Bool.false_ne_true, if_neg (Nat.not_lt.mpr due)]
    rw [List.take_add_one, filed, Option.toList_some, demands_none unasked]
    exact swept.timeout

/-- The transfer was served.  Earlier ones that are left are not served from
the same endpoint: they would have taken the data, or the endpoint would not be
due. -/
theorem completed (swept : Swept now queue s index seen)
    (filed : s.pendingUrbs[index]? = some urb)
    (due : (s.endpoints true urb.number).nextPollUs ≤ now)
    (data : (s.device.usbipDeviceFetchEpData urb.ep.toUInt8
      urb.transferBufferLength.toNat).1 ≠ []) (nextPollUs : Nat) :
    Swept now queue
      { s with
        device := (s.device.usbipDeviceFetchEpData urb.ep.toUInt8
          urb.transferBufferLength.toNat).2
        endpoints := s.endpoints.setNextPoll urb.number nextPollUs
        pendingUrbs := s.pendingUrbs.eraseIdx index }
      index (seen ++ [urb]) := by
  have apart : ∀ other ∈ s.pendingUrbs.take index,
      other.isochronous = false → other.number ≠ urb.number := by
    intro other member plain same
    have drained := (swept.rests other member).data plain (by rw [same]; exact due)
    rw [same, Transfer.number, ← epMasked_toUInt8] at drained
    exact data (DeviceState.fetched_eq_nil_iff.mpr (.inr drained))
  have poll : ∀ other ∈ s.pendingUrbs.take index, other.isochronous = false →
      (s.endpoints.setNextPoll urb.number nextPollUs) true other.number =
        s.endpoints true other.number := by
    intro other member plain
    rw [Endpoints.setNextPoll, Endpoints.set_apply]
    exact if_neg fun same => apart other member plain same.2
  refine ⟨swept.sweep.remove filed, ?_, ?_, ?_⟩
  · intro other member
    rw [take_eraseIdx filed] at member
    obtain ⟨isochronous, rest⟩ := swept.rests other member
    refine ⟨isochronous, ?_⟩
    intro plain reached
    simp only [poll other member plain] at reached
    exact DeviceState.fetched_empty (rest plain reached)
  · rw [take_eraseIdx filed]
    have agree : ∀ other ∈ s.pendingUrbs.take index,
        other.waitUs now (s.endpoints.setNextPoll urb.number nextPollUs) =
          other.waitUs now s.endpoints := by
      intro other member
      unfold PendingUrb.waitUs PendingUrb.dueUs
      cases kind : other.isochronous with
      | true => rfl
      | false => rw [poll other member kind]
    rw [demands_congr agree]
    exact swept.timeout
  · intro other member
    exact swept.positive other (List.mem_of_mem_eraseIdx member)

theorem replied (swept : Swept now queue s index seen)
    (filed : s.pendingUrbs[index]? = some urb) :
    Swept now queue { s with pendingUrbs := s.pendingUrbs.eraseIdx index }
      index (seen ++ [urb]) := by
  refine ⟨swept.sweep.remove filed, ?_, ?_, ?_⟩
  · intro other member
    rw [take_eraseIdx filed] at member
    exact ⟨(swept.rests other member).isochronous,
      (swept.rests other member).data⟩
  · rw [take_eraseIdx filed]
    exact swept.timeout
  · intro other member
    exact swept.positive other (List.mem_of_mem_eraseIdx member)

end Swept

section

variable {pendingUrbs : List PendingUrb} {index : Nat} {urb : PendingUrb}

theorem passSteps_drop (filed : pendingUrbs[index]? = some urb) :
    passSteps (pendingUrbs.drop index) =
      1 + 2 * urb.packets.length + passSteps (pendingUrbs.drop (index + 1)) := by
  obtain ⟨bound, found⟩ := List.getElem?_eq_some_iff.mp filed
  rw [List.drop_eq_getElem_cons bound, found]
  simp only [passSteps, List.map_cons, List.sum_cons]
  omega

theorem drop_eraseIdx (filed : pendingUrbs[index]? = some urb) :
    (pendingUrbs.eraseIdx index).drop index = pendingUrbs.drop (index + 1) := by
  have bound := (List.getElem?_eq_some_iff.mp filed).1
  rw [List.eraseIdx_eq_take_drop_succ]
  exact List.drop_left' (by simp [Nat.le_of_lt bound])

end

/-- Where a pass over `queue` is that began after `before`, with one note in
`log` for each step it took: it looks at the next transfer, waits for the lock
to call the device for a packet, waits for the device, or it came to an end. -/
inductive PassStage (now : Nat) (queue : List PendingUrb)
    (before : List Event) (s : State) (log : List (Option PendingUrb)) : Prop
  | looks (index : Nat) (here : s.phase = .pass now index)
      (free : s.receiveLock ≠ some .server)
      (swept : Swept now queue s index (log.filterMap id))
      (grown : ∃ events, s.trace = before ++ events)
      (spent : log.length + passSteps (s.pendingUrbs.drop index) ≤
        passSteps queue)
  | packs (index : Nat) (urb : PendingUrb) (actual : List Nat)
      (packet : IsoPacket) (rest : List IsoPacket) (seen : List PendingUrb)
      (here : s.phase =
        .lock (.isoIn urb actual packet rest (.pass now index)))
      (free : s.receiveLock ≠ some .server)
      (filed : s.pendingUrbs[index]? = some urb)
      (noted : log.filterMap id = seen ++ [urb])
      (swept : Swept now queue s index seen)
      (grown : ∃ events, s.trace = before ++ events)
      (spent : log.length + 2 * (rest.length + 1) +
        passSteps (s.pendingUrbs.drop (index + 1)) ≤ passSteps queue)
  | calls (index : Nat) (urb : PendingUrb) (actual : List Nat)
      (packet : IsoPacket) (rest : List IsoPacket) (seen : List PendingUrb)
      (here : s.phase =
        .callback none 0 (.isoIn urb actual packet rest (.pass now index)))
      (filed : s.pendingUrbs[index]? = some urb)
      (noted : log.filterMap id = seen ++ [urb])
      (swept : Swept now queue s index seen)
      (grown : ∃ events, s.trace = before ++ events)
      (spent : log.length + 2 * rest.length + 1 +
        passSteps (s.pendingUrbs.drop (index + 1)) ≤ passSteps queue)
  | done (index : Nat) (here : s.phase = .serve)
      (all : s.pendingUrbs.length ≤ index)
      (swept : Swept now queue s index (log.filterMap id))
      (spent : log.length ≤ passSteps queue)
  | lost (here : s.phase = .reset .lost)
      (failed : ∃ events, s.trace = before ++ events ∧
        Event.writeFailed ∈ events)
      (spent : log.length ≤ passSteps queue)

section

variable {dev : UsbipDevice} {now : Nat} {queue : List PendingUrb}
  {before : List Event} {s s' : State} {log : List (Option PendingUrb)}
  {label : Label}

theorem grown_more {more : List Event}
    (grown : ∃ events, s.trace = before ++ events)
    (extended : s'.trace = s.trace ++ more) :
    ∃ events, s'.trace = before ++ events := by
  obtain ⟨events, traced⟩ := grown
  refine ⟨events ++ more, ?_⟩
  rw [extended, traced, List.append_assoc]

theorem lost_stage {start : State} {more : List Event}
    (grown : ∃ events, s.trace = before ++ events)
    (extended : start.trace = s.trace ++ more)
    (spent : log.length ≤ passSteps queue) :
    PassStage now queue before
      (lostConnection (start.emit [.writeFailed])) log := by
  obtain ⟨events, traced⟩ := grown
  refine .lost rfl ⟨events ++ more ++ [.writeFailed, .lost], ?_, by simp⟩ spent
  simp [lostConnection, extended, traced]

theorem Ends.collect_stage {index : Nat} {urb : PendingUrb}
    {packets : List IsoPacket} {actual : List Nat} {seen : List PendingUrb}
    (ends : Ends dev s (.collect urb actual packets (.pass now index)) s')
    (free : s.receiveLock ≠ some .server)
    (filed : s.pendingUrbs[index]? = some urb)
    (noted : log.filterMap id = seen ++ [urb])
    (swept : Swept now queue s index seen)
    (grown : ∃ events, s.trace = before ++ events)
    (spent : log.length + 2 * packets.length +
      passSteps (s.pendingUrbs.drop (index + 1)) ≤ passSteps queue) :
    PassStage now queue before s' log := by
  cases ends with
  | @asks _ _ packet rest =>
      refine .packs index urb actual packet rest seen rfl free filed noted
        (swept.same rfl rfl rfl rfl) grown ?_
      simp only [State.goto, List.length_cons] at spent ⊢
      omega
  | isoCompleted =>
      refine .looks index rfl free ?_ (grown_more grown rfl) ?_
      · rw [noted]
        exact (swept.replied filed).same rfl rfl rfl rfl
      · simp only [State.goto, State.emit, drop_eraseIdx filed]
        omega
  | isoLost =>
      have still : s.trace = s.trace ++ [] := by simp
      exact lost_stage grown still (by omega)

theorem PassStage.looking {moment index : Nat}
    (stage : PassStage now queue before s log)
    (here : s.phase = .pass moment index) :
    moment = now ∧ s.receiveLock ≠ some .server ∧
      Swept now queue s index (log.filterMap id) ∧
      (∃ events, s.trace = before ++ events) ∧
      log.length + passSteps (s.pendingUrbs.drop index) ≤ passSteps queue := by
  cases stage with
  | looks other there free swept grown spent =>
      obtain ⟨rfl, rfl⟩ := Phase.pass.inj (there.symm.trans here)
      exact ⟨rfl, free, swept, grown, spent⟩
  | packs _ _ _ _ _ _ there | calls _ _ _ _ _ _ there | done _ there
  | lost there =>
      rw [there] at here
      contradiction

theorem PassStage.same (stage : PassStage now queue before s log)
    (phase : s'.phase = s.phase) (pending : s'.pendingUrbs = s.pendingUrbs)
    (endpoints : s'.endpoints = s.endpoints)
    (timeout : s'.waitTimeoutUs = s.waitTimeoutUs)
    (data : s'.device.endpointData = s.device.endpointData)
    (lock : s'.receiveLock = some .server → s.receiveLock = some .server)
    (trace : ∃ events, s'.trace = s.trace ++ events) :
    PassStage now queue before s' log := by
  obtain ⟨more, extended⟩ := trace
  cases stage with
  | looks index here free swept grown spent =>
      refine .looks index (phase.trans here) (fun held => free (lock held))
        (swept.same pending endpoints timeout data) (grown_more grown extended)
        ?_
      rw [pending]
      exact spent
  | packs index urb actual packet rest seen here free filed noted swept grown
      spent =>
      refine .packs index urb actual packet rest seen (phase.trans here)
        (fun held => free (lock held)) ?_ noted
        (swept.same pending endpoints timeout data) (grown_more grown extended)
        ?_
      · rw [pending]
        exact filed
      · rw [pending]
        exact spent
  | calls index urb actual packet rest seen here filed noted swept grown spent =>
      refine .calls index urb actual packet rest seen (phase.trans here) ?_
        noted (swept.same pending endpoints timeout data)
        (grown_more grown extended) ?_
      · rw [pending]
        exact filed
      · rw [pending]
        exact spent
  | done index here all swept spent =>
      refine .done index (phase.trans here) ?_
        (swept.same pending endpoints timeout data) spent
      rw [pending]
      exact all
  | lost here failed spent =>
      obtain ⟨events, traced, member⟩ := failed
      refine .lost (phase.trans here) ⟨events ++ more, ?_, ?_⟩ spent
      · rw [extended, traced, List.append_assoc]
      · exact List.mem_append_left _ member

theorem PassStage.enters {next : Continuation}
    (stage : PassStage now queue before s log) (here : s.phase = .lock next) :
    PassStage now queue before
      (({ s with receiveLock := some .server }.emit
        [.callback (callbackArgs s next)]).goto (.callback none 0 next))
      (log ++ [none]) := by
  cases stage with
  | packs index urb actual packet rest seen there free filed noted swept grown
      spent =>
      obtain rfl := Phase.lock.inj (there.symm.trans here)
      refine .calls index urb actual packet rest seen rfl filed (by simpa)
        (swept.same rfl rfl rfl rfl) (grown_more grown rfl) ?_
      simp only [State.goto, State.emit, List.length_append,
        List.length_singleton]
      omega
  | looks _ there | calls _ _ _ _ _ _ there | done _ there | lost there =>
      rw [there] at here
      contradiction

theorem PassStage.returned {made length : Nat} {next : Continuation}
    {written : List Byte} (stage : PassStage now queue before s log)
    (here : s.phase = .callback none made next)
    (ends : Ends dev
      { s with
        receiveLock := none
        txBuffer := next.fill written s.txBuffer } (next.task length) s') :
    PassStage now queue before s' (log ++ [none]) := by
  cases stage with
  | calls index urb actual packet rest seen there filed noted swept grown spent =>
      obtain ⟨-, rfl, rfl⟩ := Phase.callback.inj (there.symm.trans here)
      refine ends.collect_stage (by simp) filed (by simpa)
        (swept.same rfl rfl rfl rfl) grown ?_
      simp only [List.length_append, List.length_singleton]
      omega
  | looks _ there | packs _ _ _ _ _ _ there | done _ there | lost there =>
      rw [there] at here
      contradiction

theorem PassStage.step (stage : PassStage now queue before s log)
    (allowed : passing s label = true)
    (stepped : step dev s label = some s') :
    PassStage now queue before s' (log ++ passNote s label) := by
  have noted : ∀ {index urb}, s.phase = .pass now index →
      s.pendingUrbs[index]? = some urb →
      log ++ [s.considers] = log ++ [some urb] ∧
        (log ++ [some urb]).filterMap id = log.filterMap id ++ [urb] := by
    intro index urb here filed
    simp [State.considers, here, filed]
  cases step_transition stepped with
  | ends clock moment index here all =>
      obtain ⟨rfl, free, swept, grown, spent⟩ := stage.looking here
      have unnoted : s.considers = none := by
        simp [State.considers, here, List.getElem?_eq_none all]
      rw [passNote, unnoted]
      refine .done index rfl all ?_ ?_
      · have skipped : (log ++ [none]).filterMap id = log.filterMap id := by
          simp
        rw [skipped]
        exact swept.same rfl rfl rfl rfl
      · have last : 1 ≤ passSteps (s.pendingUrbs.drop index) :=
          Nat.le_add_left _ _
        rw [List.length_append, List.length_singleton]
        omega
  | later clock moment index urb here filed early =>
      obtain ⟨rfl, free, swept, grown, spent⟩ := stage.looking here
      obtain ⟨longer, seen⟩ := noted here filed
      rw [passSteps_drop filed] at spent
      rw [passNote, longer]
      refine .looks (index + 1) rfl free ?_ grown ?_
      · rw [seen]
        exact (swept.later filed early).same rfl rfl rfl rfl
      · simp only [State.goto, List.length_append, List.length_singleton]
        omega
  | collects clock moment index urb here filed isochronous due ends =>
      obtain ⟨rfl, free, swept, grown, spent⟩ := stage.looking here
      obtain ⟨longer, seen⟩ := noted here filed
      rw [passSteps_drop filed] at spent
      rw [passNote, longer]
      refine ends.collect_stage free filed seen swept grown ?_
      rw [List.length_append, List.length_singleton]
      omega
  | skips clock moment index urb here filed plain due nothing =>
      obtain ⟨rfl, free, swept, grown, spent⟩ := stage.looking here
      obtain ⟨longer, seen⟩ := noted here filed
      rw [passSteps_drop filed] at spent
      rw [passNote, longer]
      refine .looks (index + 1) rfl free ?_ (grown_more grown rfl) ?_
      · rw [seen]
        exact (swept.empty filed plain due nothing).same rfl rfl rfl rfl
      · simp only [State.goto, State.emit, State.fetching, List.length_append,
          List.length_singleton]
        omega
  | completes clock moment index urb tcpip here filed plain due something =>
      obtain ⟨rfl, free, swept, grown, spent⟩ := stage.looking here
      obtain ⟨longer, seen⟩ := noted here filed
      rw [passSteps_drop filed] at spent
      rw [passNote, longer]
      refine .looks index rfl free ?_
        (grown_more grown (List.append_assoc _ _ _)) ?_
      · rw [seen]
        exact (swept.completed filed due something _).same rfl rfl rfl rfl
      · simp only [State.goto, State.emit, State.fetching, drop_eraseIdx filed,
          List.length_append, List.length_singleton]
        omega
  | breaks clock moment index urb tcpip here filed =>
      obtain ⟨rfl, free, swept, grown, spent⟩ := stage.looking here
      rw [passSteps_drop filed] at spent
      rw [passNote]
      refine lost_stage grown rfl ?_
      rw [List.length_append, List.length_singleton]
      omega
  | enters clock next here =>
      have unnoted : s.considers = none := by simp [State.considers, here]
      rw [passNote, unnoted]
      exact stage.enters here
  | posts clock call made next here =>
      cases stage with
      | looks _ there | packs _ _ _ _ _ _ there | calls _ _ _ _ _ _ there
      | done _ there | lost there => cases there.symm.trans here
  | returns written length made next here fits ends =>
      have unnoted : s.considers = none := by simp [State.considers, here]
      rw [passNote, unnoted]
      exact stage.returned here ends
  | threadPosts thread call stored =>
      simp only [passNote, List.append_nil]
      exact stage.same rfl rfl rfl rfl rfl id ⟨[.returned call true], rfl⟩
  | locks | unlocks =>
      simp only [passNote, List.append_nil]
      exact stage.same rfl rfl rfl rfl rfl (by simp) ⟨[], by simp⟩
  | interrupts =>
      simp only [passNote, List.append_nil]
      exact stage.same rfl rfl rfl rfl rfl id ⟨[], by simp⟩
  | leaves clock here =>
      rcases here with here | here <;>
        simp [passing, here, Phase.reading] at allowed
  | refuses _ _ here | imports _ _ here | controlAnswers _ _ _ here
  | controlCalls _ _ here | controls _ _ _ here | answers _ _ _ here
  | takesAnswer _ _ _ here | fetches _ _ _ _ _ here | schedules _ _ here
  | overflows _ _ here | starts _ here | loses _ here | resets _ _ here
  | resetCalls _ _ here | resetEnds _ _ here | stops _ here =>
      simp [passing, here, Phase.reading] at allowed
  | _ => contradiction

/-- What a pass over `queue` that read the clock at `now` leaves behind. -/
structure PassLeaves (now : Nat) (queue : List PendingUrb) (s : State) :
    Prop where
  order : s.pendingUrbs.Sublist queue
  isochronous : ∀ urb ∈ s.pendingUrbs, urb.isochronous = true →
    now < urb.completeUs
  data : ∀ urb ∈ s.pendingUrbs, urb.isochronous = false →
    (s.endpoints true urb.number).nextPollUs ≤ now →
    s.device.endpointData urb.number = []
  timeout : IsLeast (insert 500000 { wait | ∃ urb ∈ s.pendingUrbs,
    now < urb.dueUs s.endpoints ∧ wait = urb.dueUs s.endpoints - now })
    s.waitTimeoutUs
  positive : 1 ≤ s.waitTimeoutUs
  bounded : s.waitTimeoutUs ≤ 500000

theorem Swept.leaves {index : Nat} {seen : List PendingUrb}
    (swept : Swept now queue s index seen)
    (all : s.pendingUrbs.length ≤ index) :
    seen = queue ∧ PassLeaves now queue s := by
  obtain ⟨complete, order⟩ := swept.sweep.finish all
  have rests := swept.rests
  have timeout := swept.timeout
  rw [List.take_of_length_le all] at rests timeout
  have waits : demands waitTimeoutUsMax (PendingUrb.waitUs now s.endpoints)
      s.pendingUrbs = insert 500000 { wait | ∃ urb ∈ s.pendingUrbs,
        now < urb.dueUs s.endpoints ∧
          wait = urb.dueUs s.endpoints - now } := by
    unfold demands
    congr 1
    ext wait
    apply exists_congr
    intro urb
    unfold PendingUrb.waitUs
    split
    next early => simp [early, eq_comm]
    next late => simp [late]
  rw [waits] at timeout
  refine ⟨complete, order, fun urb member => (rests urb member).isochronous,
    fun urb member => (rests urb member).data, timeout, ?_,
    timeout.2 (Set.mem_insert _ _)⟩
  rcases timeout.1 with full | ⟨urb, _, early, asked⟩ <;> omega

/-- A pass is only held up by another thread in a critical section. -/
theorem PassStage.moves (stage : PassStage now queue before s log)
    (inside : s.phase.reading ≠ none) :
    (∃ label, passing s label = true ∧ passNote s label ≠ [] ∧
        (UsbipServer.step dev s label).isSome = true) ∨
      ∃ thread, s.receiveLock = some (.thread thread) := by
  have allowed : s.phase.reading.isSome = true :=
    Option.isSome_iff_ne_none.mpr inside
  cases stage with
  | looks index here =>
      refine .inl ⟨.server 0, allowed, by simp [passNote], ?_⟩
      simp [UsbipServer.step, serverStep, here]
  | packs index urb actual packet rest seen here free =>
      cases lock : s.receiveLock with
      | none =>
          refine .inl ⟨.server 0, allowed, by simp [passNote], ?_⟩
          simp [UsbipServer.step, serverStep, here, enterCallback, lock]
      | some owner =>
          cases owner with
          | server => contradiction
          | thread thread => exact .inr ⟨thread, rfl⟩
  | calls index urb actual packet rest seen here =>
      refine .inl ⟨.callbackReturn [] 0, allowed, by simp [passNote], ?_⟩
      simp [UsbipServer.step, here, callbackReturned]
  | done _ here =>
      rw [here] at inside
      contradiction
  | lost here =>
      rw [here] at inside
      contradiction

/-- A pass that starts with any tables and buffers, while nobody transmits: it
takes a bounded number of steps, nothing but a critical section holds it up, and
if all its writes succeed it returns after it has considered every transfer
once, with nothing left that could be served.  `free` only says that the server
thread is not in a callback. -/
theorem passProgress {start : State}
    (positive : ∀ urb ∈ s.pendingUrbs, urb.isochronous = false →
      0 < urb.transferBufferLength.toNat)
    (free : s.receiveLock ≠ some .server)
    (here : s.phase = .clearEvent true)
    (begun : step dev s (.server now) = some start)
    (passed : ((server dev).logged passNote).Reaches
      (fun pair label => passing pair.1 label = true) (start, []) (s', log)) :
    log.length ≤ passSteps s.pendingUrbs ∧
    (s'.phase.reading ≠ none →
      (∃ label, passing s' label = true ∧ passNote s' label ≠ [] ∧
          (step dev s' label).isSome = true) ∨
        ∃ thread, s'.receiveLock = some (.thread thread)) ∧
    (s'.phase.reading = none →
      (∀ events, s'.trace = start.trace ++ events →
        Event.writeFailed ∉ events) →
      s'.phase = .serve ∧ log.filterMap id = s.pendingUrbs ∧
        PassLeaves now s.pendingUrbs s') := by
  have stage : PassStage now s.pendingUrbs start.trace s' log := by
    refine passed.invariant (P := fun pair =>
      PassStage now s.pendingUrbs start.trace pair.1 pair.2) ?_ ?_
    · obtain rfl := step_starts here begun
      refine .looks 0 rfl free (.start rfl rfl positive) ⟨[], by simp⟩ ?_
      simp
    · rintro ⟨state, notes⟩ label ⟨next, longer⟩ _ earlier allowed stepped
      obtain ⟨moved, rfl⟩ := Machine.logged_step stepped
      exact earlier.step allowed moved
  refine ⟨?_, fun inside => stage.moves inside, ?_⟩
  · cases stage <;> omega
  · intro outside written
    cases stage with
    | looks _ here =>
        rw [here] at outside
        contradiction
    | packs _ _ _ _ _ _ here =>
        rw [here] at outside
        contradiction
    | calls _ _ _ _ _ _ here =>
        rw [here] at outside
        contradiction
    | done index here all swept => exact ⟨here, swept.leaves all⟩
    | lost _ failed =>
        obtain ⟨events, traced, member⟩ := failed
        exact absurd member (written events traced)

end

def passAfter (dev : UsbipDevice) (start : State) (labels : List Label) :
    State × List (Option PendingUrb) :=
  ((((server dev).logged passNote).restrict
    fun pair label => passing pair.1 label).run (start, []) labels).getD
      (start, [])

theorem passAfter_reached (dev : UsbipDevice) (start : State)
    (labels : List Label) :
    ((server dev).logged passNote).Reaches
      (fun pair label => passing pair.1 label = true) (start, [])
      (passAfter dev start labels) := by
  unfold passAfter
  cases executed : (((server dev).logged passNote).restrict
      fun pair label => passing pair.1 label).run (start, []) labels with
  | none => exact .refl
  | some pair => exact (Machine.reaches_of_run executed).of_restrict

/-- Two transfers wait on endpoint 1 when three bytes arrive. -/
def twoWaiting : State :=
  stateAfter sampleDevice
    (importLabels [bulkIn 1 1 8, bulkIn 2 1 8] ++
      [.wait true, .server 0, .server 0, .server 0, .wait true, .server 0,
        .server 0, .server 0, .server 0, .transmit 0 1 [1, 2, 3],
        .wait false])

def twoBegun : State := (step sampleDevice twoWaiting (.server 5)).getD initial

def twoEnded : State × List (Option PendingUrb) :=
  passAfter sampleDevice twoBegun [.server 0, .server 0, .server 0]

theorem passProgress_two :
    twoWaiting.pendingUrbs.length = 2 ∧ twoEnded.1.pendingUrbs.length = 1 ∧
      twoEnded.2.filterMap id = twoWaiting.pendingUrbs ∧
      PassLeaves 5 twoWaiting.pendingUrbs twoEnded.1 := by
  have begun : step sampleDevice twoWaiting (.server 5) = some twoBegun := by
    have enabled : (step sampleDevice twoWaiting (.server 5)).isSome = true := by
      decide +kernel
    obtain ⟨start, stepped⟩ := Option.isSome_iff_exists.mp enabled
    rw [twoBegun, stepped]
    rfl
  have written : ∀ events, twoEnded.1.trace = twoBegun.trace ++ events →
      Event.writeFailed ∉ events := by
    intro events traced member
    have never : Event.writeFailed ∉ twoEnded.1.trace := by decide +kernel
    rw [traced] at never
    exact never (List.mem_append_right _ member)
  have passed : ((server sampleDevice).logged passNote).Reaches
      (fun pair label => passing pair.1 label = true) (twoBegun, [])
      (twoEnded.1, twoEnded.2) := by
    rw [Prod.mk.eta]
    exact passAfter_reached _ _ _
  obtain ⟨_, _, ends⟩ := passProgress (by decide +kernel) (by decide +kernel)
    (by decide +kernel) begun passed
  obtain ⟨_, complete, leaves⟩ := ends (by decide +kernel) written
  exact ⟨by decide +kernel, by decide +kernel, complete, leaves⟩

end UsbipServer
