import UsbipServer.Refine.Calls
import UsbipServer.Refine.Posting

namespace UsbipServer

open Wire Library CallLog

/-! A reset separates the data of the transmit calls before it from the fetches
after it. -/

section

variable {dev : UsbipDevice} {s : State}

/-- What is fetched after a reset was stored after it. -/
theorem fetched_stored_after (reachable : Reachable dev s)
    {before early late : List Event} {endpoint : Fin 16} {cells : List Cell}
    (split : s.trace =
      before ++ .reset :: (early ++ .fetched endpoint cells :: late))
    {cell : Cell} (member : cell ∈ cells) :
    ∃ call, Event.stored call ∈ early ∧ cell.origin = some call.id := by
  have run := reachable_mailbox reachable
  have shape : before ++ .reset :: (early ++ .fetched endpoint cells :: late) =
      (before ++ .reset :: early) ++ .fetched endpoint cells :: late := by
    simp
  rw [split, shape] at run
  obtain ⟨held, _, filled, stepped, _⟩ := run.at_event
  have inside : cell ∈ held endpoint := by
    cases stepped with
    | fetched front =>
        rw [front]
        exact List.mem_append_left _ member
    | session apart => simp [Event.isSession] at apart
  obtain ⟨call, stored, _, stamped⟩ :=
    Mailbox.origin (Mailbox.reset_clears endpoint) filled cell inside
  exact ⟨call, mem_after_of_mem_since rfl stored,
    Call.origin_of_mem_cells stamped⟩

/-- A call that wakes up after a reset finds another generation. -/
theorem waiting_outdated {log : CallLog} (run : CallLog.Run (· = 0) s.trace log)
    (logs : Logs s log) (bound : ResetBound s)
    {before between after : List Event} {call : Call} {thread : Nat}
    (split : s.trace = before ++ .entered call :: (between ++ .reset :: after))
    (blocked : (s.threads thread).call = .waiting call) :
    call.generation ≠ s.device.resetGeneration := by
  intro same
  obtain ⟨front, back, cut, counted⟩ :=
    entry_counts run (logs.unreset run bound blocked same)
  have absent : Event.reset ∉ back := by
    intro member
    exact List.countP_eq_zero.mp counted _ member rfl
  have shape : (before ++ .entered call :: between) ++ .reset :: after =
      front ++ .entered call :: back := by
    rw [← cut, split]
    simp
  have again := mem_of_absent_after shape absent (by simp)
  rw [split] at run
  exact entered_once run (.inr (by simp [again])) rfl

theorem threadTransmit_dropped {thread : Nat} {call : Call}
    (outdated : call.generation ≠ s.device.resetGeneration)
    (free : s.device.endpointData call.endpoint = [] ∨
      s.device.deviceStopped = true) :
    threadTransmit thread true call s =
      setCall (s.emit [.returned call false]) thread .idle := by
  have dropped : usbipDeviceTransmit true call s.device = .dropped := by
    rcases free with empty | stopped
    · simp [usbipDeviceTransmit, empty, outdated]
    · simp [usbipDeviceTransmit, stopped]
  rw [threadTransmit, dropped]

end

/-- In a run in which no call waits through 2^32 resets, the bytes of a call
that entered before a reset are not fetched after it, and if the call had not
stored them it never returns `true` and returns `false` as soon as it finds its
endpoint empty or the device stopped. -/
theorem resetIsolation {dev : UsbipDevice} {s : State}
    {before between after : List Event} {call : Call}
    (reached : (server dev).Reaches (fun s _ => ResetBound s) initial s)
    (bound : ResetBound s)
    (split :
      s.trace = before ++ .entered call :: (between ++ .reset :: after)) :
    (∀ early endpoint cells late,
      after = early ++ .fetched endpoint cells :: late →
      ∀ cell ∈ cells, cell.origin ≠ some call.id) ∧
      (Event.stored call ∉ between →
        Event.returned call true ∉ s.trace ∧
        ∀ thread, (s.threads thread).call = .waiting call →
          s.device.endpointData call.endpoint = [] ∨
            s.device.deviceStopped = true →
          ∃ next, step dev s (.wake thread) = some next ∧
            next.trace = s.trace ++ [.returned call false] ∧
            (next.threads thread).call = .idle) := by
  have reachable := Reachable.of_allowed reached
  obtain ⟨log, run, logs⟩ := reached_logged reached
  have cut := run
  rw [split] at cut
  constructor
  · rintro early endpoint cells late rfl cell member own
    have shape : s.trace = (before ++ .entered call :: between) ++
        .reset :: (early ++ .fetched endpoint cells :: late) := by
      rw [split]
      simp
    obtain ⟨other, stored, stamped⟩ :=
      fetched_stored_after reachable shape member
    rw [own] at stamped
    have same := Option.some.inj stamped
    exact not_stored_after cut same.symm (by simp [stored])
  · intro unstored
    constructor
    · intro returned
      have stored := (reachable_postedWhenStored reachable call).mpr
        (.inl returned)
      rw [split] at stored
      exact unstored (stored_between cut stored)
    · intro thread blocked free
      have outdated := waiting_outdated run logs bound split blocked
      refine ⟨threadTransmit thread true call s, by simp only [step, blocked],
        ?_⟩
      rw [threadTransmit_dropped outdated free]
      exact ⟨rfl, by simp⟩

/-- Few enough resets that no count of them can reach 2^32. -/
def fewResets (s : State) (_ : Label) : Bool :=
  decide (s.trace.countP Event.isReset < 2 ^ 32)

theorem ResetBound.of_few {s : State}
    (few : s.trace.countP Event.isReset < 2 ^ 32) : ResetBound s := by
  intro thread call before after _ split
  rw [split, List.countP_append, List.countP_cons] at few
  omega

/-- The first call stores, the second waits when the connection is lost, wakes
up after the reset and finds the endpoint empty. -/
def cutOffLabels : List Label :=
  [.accept [.data importRequest, .failed] [], .server 0, .server 0, .server 0,
    .transmit 0 1 [0xaa], .post 0, .transmit 1 1 [0xbb], .wait true, .server 0,
    .server 0, .wake 1]

def cutOffCall : Call := ⟨1, 1, [0xbb], 1⟩

def cutOff : State := allowedAfter sampleDevice fewResets initial cutOffLabels

theorem resetIsolation_cutOff :
    Event.returned cutOffCall false ∈ cutOff.trace ∧
      Event.returned cutOffCall true ∉ cutOff.trace := by
  refine ⟨by decide +kernel, ?_⟩
  have reached : (server sampleDevice).Reaches (fun s _ => ResetBound s)
      initial cutOff := by
    refine (allowedAfter_reached sampleDevice fewResets initial
      cutOffLabels).mono ?_
    intro s label few
    exact .of_few (of_decide_eq_true few)
  have bound : ResetBound cutOff := .of_few (by decide +kernel)
  have split : cutOff.trace = cutOff.trace.take 5 ++ .entered cutOffCall ::
      ([.lost] ++ .reset :: [.returned cutOffCall false]) := by
    decide +kernel
  exact ((resetIsolation reached bound split).2 (by decide)).1

end UsbipServer
