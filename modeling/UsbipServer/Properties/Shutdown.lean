import UsbipServer.Worker
import UsbipServer.Refine.Owners
import UsbipServer.Refine.Recorded
import UsbipServer.Properties.StaticArrays

namespace UsbipServer

open Wire Library

/-! A server that is told to stop does so after a bounded number of steps of its
own, whatever the other threads do meanwhile. -/

/-- A pass makes at most two steps for each packet of a transfer, and two for
the transfer. -/
def pendingCost (pendingUrbs : List PendingUrb) : Nat :=
  (pendingUrbs.map fun urb => 2 * urb.packets.length + 2).sum

def passCost (pendingUrbs : List PendingUrb) (index : Nat) : Nat :=
  7 + pendingCost (pendingUrbs.drop index)

def commandCost (pendingUrbs : List PendingUrb) : Nat :=
  1 + passCost pendingUrbs 0

/-- An isochronous submit whose packets have been delivered. -/
def scheduleCost (pendingUrbs : List PendingUrb) (request : Request) : Nat :=
  commandCost pendingUrbs + 2 * request.isoPackets.length + 3

def IsoReturn.cost (pendingUrbs : List PendingUrb) : IsoReturn → Nat
  | .command => commandCost pendingUrbs
  | .pass _ index => passCost pendingUrbs (index + 1)

def Continuation.cost (pendingUrbs : List PendingUrb) : Continuation → Nat
  | .control _ => commandCost pendingUrbs + 2
  | .receive _ => commandCost pendingUrbs
  | .isoOut request _ rest =>
      scheduleCost pendingUrbs request + 2 * rest.length
  | .isoIn _ _ _ rest back => back.cost pendingUrbs + 2 * rest.length
  | .reset _ => 2

def Task.cost (pendingUrbs : List PendingUrb) : Task → Nat
  | .submit _ => commandCost pendingUrbs + 5
  | .control _ _ => commandCost pendingUrbs + 2
  | .receive _ => commandCost pendingUrbs
  | .deliver request packets =>
      scheduleCost pendingUrbs request + 2 * packets.length
  | .collect _ _ packets back => back.cost pendingUrbs + 2 * packets.length
  | .reset _ => 2

theorem Continuation.task_cost (next : Continuation) (length : Nat)
    (pendingUrbs : List PendingUrb) :
    (next.task length).cost pendingUrbs = next.cost pendingUrbs := by
  cases next <;> rfl

/-- A thread that has made its loop test still goes through one wait and one
pass. -/
def Phase.stepsLeft (pendingUrbs : List PendingUrb) (tested : Bool) :
    Phase → Nat
  | .accept => 2
  | .serve => if tested then 1 + commandCost pendingUrbs else 2
  | .control _ => commandCost pendingUrbs + 5
  | .answer _ _ => commandCost pendingUrbs + 3
  | .fetchAnswered _ _ => commandCost pendingUrbs + 2
  | .fetchReply _ _ _ => commandCost pendingUrbs + 1
  | .isoSchedule request => scheduleCost pendingUrbs request
  | .lock next => next.cost pendingUrbs + 2
  | .callback posting _ next =>
      next.cost pendingUrbs + 1 + if posting.isSome then 1 else 0
  | .clearEvent _ => commandCost pendingUrbs
  | .pass _ index => passCost pendingUrbs index
  | .reset _ => 6
  | .resetEvent _ => 5
  | .stop => 1
  | .stopped => 0

def State.stepsLeft (s : State) (tested : Bool) : Nat :=
  s.phase.stepsLeft s.pendingUrbs tested

/-- The server is told to stop, and has at most `bound` steps left. -/
structure Nears (bound : Nat) (s : State) : Prop where
  stopServer : s.tcpip.stopServer = true
  left : s.stepsLeft false ≤ bound

section

variable {dev : UsbipDevice} {s s' : State} {bound : Nat}

theorem Nears.mono {more : Nat} (nears : Nears bound s)
    (fewer : bound ≤ more) : Nears more s :=
  ⟨nears.stopServer, nears.left.trans fewer⟩

theorem writeLoop_stopServer {tcpip : Tcpip} (results : List WriteResult)
    (sent buffer : List Byte) (told : tcpip.stopServer = true) :
    (writeLoop tcpip results sent buffer).2.stopServer = true := by
  induction results generalizing sent buffer with
  | nil => cases buffer <;> exact told
  | cons result results induction =>
      cases buffer with
      | nil => exact told
      | cons byte rest =>
          cases result with
          | accepted count =>
              simp only [writeLoop]
              split
              · exact told
              · exact induction _ _
          | stop => rfl
          | _ => exact told

theorem tcpipServerWriteAll_stopServer {tcpip : Tcpip}
    (buffers : List (List Byte)) (told : tcpip.stopServer = true) :
    (tcpipServerWriteAll tcpip buffers).2.stopServer = true := by
  induction buffers generalizing tcpip with
  | nil => exact told
  | cons buffer rest induction =>
      have first : (tcpipServerWrite tcpip buffer).2.stopServer = true := by
        unfold tcpipServerWrite
        split
        · exact told
        · exact writeLoop_stopServer _ _ _ told
      simp only [tcpipServerWriteAll]
      cases written : tcpipServerWrite tcpip buffer with
      | mk status next =>
          rw [written] at first
          cases status with
          | true => exact induction first
          | false => exact first

theorem finishSubmit_nears (request : Request) (urbStatus : UInt32)
    (actualLength : Nat) (sendData : Bool)
    (told : s.tcpip.stopServer = true) :
    Nears (commandCost s.pendingUrbs)
      (finishSubmit request urbStatus actualLength sendData s) :=
  ⟨tcpipServerWriteAll_stopServer _ told, Nat.le_refl _⟩

@[simp] theorem pendingCost_append (pendingUrbs more : List PendingUrb) :
    pendingCost (pendingUrbs ++ more) =
      pendingCost pendingUrbs + pendingCost more := by
  simp [pendingCost]

theorem commandCost_append (pendingUrbs : List PendingUrb)
    (urb : PendingUrb) :
    commandCost (pendingUrbs ++ [urb]) =
      commandCost pendingUrbs + 2 * urb.packets.length + 2 := by
  have one : pendingCost [urb] = 2 * urb.packets.length + 2 := by
    simp [pendingCost]
  simp only [commandCost, passCost, List.drop_zero, pendingCost_append, one]
  omega

theorem passCost_eraseIdx (pendingUrbs : List PendingUrb) (index : Nat) :
    passCost (pendingUrbs.eraseIdx index) index =
      passCost pendingUrbs (index + 1) := by
  have behind : (pendingUrbs.eraseIdx index).drop index =
      pendingUrbs.drop (index + 1) := by
    induction pendingUrbs generalizing index with
    | nil => simp
    | cons urb rest induction =>
        cases index with
        | zero => rfl
        | succ index => exact induction index
  rw [passCost, behind, passCost]

theorem passCost_entry {urb : PendingUrb} {index : Nat}
    {pendingUrbs : List PendingUrb}
    (filed : pendingUrbs[index]? = some urb) :
    passCost pendingUrbs index =
      passCost pendingUrbs (index + 1) + 2 * urb.packets.length + 2 := by
  obtain ⟨inside, rfl⟩ := List.getElem?_eq_some_iff.mp filed
  simp only [passCost, pendingCost]
  rw [List.drop_eq_getElem_cons inside, List.map_cons, List.sum_cons]
  omega

theorem six_le_passCost (pendingUrbs : List PendingUrb) (index : Nat) :
    6 ≤ passCost pendingUrbs index := by
  unfold passCost
  omega

theorem Ends.nears {task : Task} (ends : Ends dev s task s')
    (told : s.tcpip.stopServer = true) : Nears (task.cost s.pendingUrbs) s' := by
  have sent : ∀ {parts status tcpip},
      tcpipServerWriteAll s.tcpip parts = (status, tcpip) →
      tcpip.stopServer = true := by
    intro parts status tcpip written
    have kept := tcpipServerWriteAll_stopServer parts told
    rwa [written] at kept
  cases ends with
  | control plain zero => exact ⟨told, Nat.le_refl _⟩
  | receives plain data outward something callback =>
      have fewer : commandCost s.pendingUrbs + 2 ≤
          commandCost s.pendingUrbs + 5 := by omega
      exact ⟨told, fewer⟩
  | ignored | overflows =>
      exact (finishSubmit_nears _ _ _ _ told).mono (Nat.le_add_right _ 5)
  | @queued request plain data inward room =>
      refine ⟨told, (commandCost_append _ request.urb).trans_le ?_⟩
      have none : request.urb.packets.length = 0 := rfl
      rw [none]
      exact Nat.add_le_add_left (by decide) (commandCost s.pendingUrbs)
  | fetches inward => exact ⟨told, Nat.le_refl _⟩
  | answered outward =>
      exact (finishSubmit_nears _ _ _ _ told).mono (Nat.le_add_right _ 2)
  | received => exact finishSubmit_nears _ _ _ _ told
  | @delivers request _ skipped packet rest split =>
      refine ⟨told, ?_⟩
      have fewer : 2 * rest.length + 2 ≤
          2 * (skipped ++ packet :: rest).length := by
        simp only [List.length_append, List.length_cons]
        omega
      rw [split]
      exact Nat.add_le_add_left fewer (scheduleCost s.pendingUrbs request)
  | delivered empty => exact ⟨told, Nat.le_add_right _ _⟩
  | asks inward callback => exact ⟨told, Nat.le_refl _⟩
  | isoAnswered lengths complete =>
      exact ⟨tcpipServerWriteAll_stopServer _ told, Nat.le_add_right _ _⟩
  | @isoCompleted urb actual packets now index lengths tcpip complete written =>
      refine ⟨sent written, (passCost_eraseIdx s.pendingUrbs index).trans_le ?_⟩
      exact Nat.le_add_right _ _
  | isoLost lengths tcpip complete written =>
      exact ⟨sent written,
        (six_le_passCost _ _).trans (Nat.le_add_right _ _)⟩
  | attached tcpip written | unattached tcpip written =>
      exact ⟨sent written, Nat.le_refl 2⟩
  | detached => exact ⟨told, Nat.le_refl 2⟩

end

/-- A step of the server thread itself.  The transmits of a callback are the
device's. -/
def Label.isServer (label : Label) : Bool :=
  decide (label.owner = some .server) &&
    match label with
    | .callbackTransmit _ _ => false
    | _ => true

def Label.isCallbackTransmit : Label → Bool
  | .callbackTransmit _ _ => true
  | _ => false

section

variable {dev : UsbipDevice} {s s' : State} {label : Label} {tested : Bool}

theorem Transition.nears (told : s.tcpip.stopServer = true)
    (looping : label.inLoop s = true → tested = true)
    (moved : Transition dev s label s') :
    s'.tcpip.stopServer = true ∧
      s'.stepsLeft (tested && decide (label.owner ≠ some .server)) +
          (if label.isServer then 1 else 0) ≤
        s.stepsLeft tested +
          (if label.isCallbackTransmit then 1 else 0) := by
  have elsewhere : label.isThread = true → label.isServer = false →
      label.owner ≠ some .server → s'.tcpip.stopServer = true ∧
      s'.stepsLeft (tested && decide (label.owner ≠ some .server)) +
          (if label.isServer then 1 else 0) ≤
        s.stepsLeft tested +
          (if label.isCallbackTransmit then 1 else 0) := by
    intro kind unserved other
    have elsewhere := moved.elsewhere kind
    rw [unserved, decide_eq_true other, Bool.and_true, elsewhere.tcpip,
      State.stepsLeft, elsewhere.phase, elsewhere.pendingUrbs]
    exact ⟨told, Nat.le_add_right _ _⟩
  -- the server thread gets nearer with every step of its own
  have works {bound : Nat} {phase : Phase} (own : label.isServer = true)
      (here : s.phase = phase) (nears : Nears bound s')
      (fewer : bound < phase.stepsLeft s.pendingUrbs tested) :
      s'.tcpip.stopServer = true ∧
      s'.stepsLeft (tested && decide (label.owner ≠ some .server)) +
          (if label.isServer then 1 else 0) ≤
        s.stepsLeft tested +
          (if label.isCallbackTransmit then 1 else 0) := by
    have owner : label.owner = some .server := by
      simp only [Label.isServer, Bool.and_eq_true, decide_eq_true_eq] at own
      exact own.1
    have count : s.stepsLeft tested =
        phase.stepsLeft s.pendingUrbs tested := by
      rw [State.stepsLeft, here]
    rw [own, owner, count]
    refine ⟨nears.stopServer, Nat.le_add_right_of_le ?_⟩
    simpa using Nat.succ_le_of_lt (nears.left.trans_lt fewer)
  cases moved with
  | accepts _ _ _ running | refuses _ _ _ running | imports _ _ _ running
  | fails _ _ _ _ running | submits _ _ _ _ running
  | submitsIso _ _ _ _ running | misses _ _ _ _ running
  | cancels _ _ _ _ _ _ running =>
      rw [told] at running
      contradiction
  | leaves clock here =>
      rcases here with here | here
      · exact works rfl here ⟨told, Nat.le_refl 1⟩ (Nat.lt_succ_self 1)
      · refine works rfl here ⟨told, Nat.le_refl 1⟩ ?_
        have most := six_le_passCost s.pendingUrbs 0
        simp only [Phase.stepsLeft, commandCost]
        split <;> omega
  | idles here =>
      obtain rfl : tested = true := looping rfl
      exact works rfl here ⟨told, Nat.le_refl (commandCost s.pendingUrbs)⟩
        (Nat.lt_add_of_pos_left Nat.zero_lt_one)
  | controlAnswers clock request data here =>
      exact works rfl here
        ⟨told, Nat.le_refl (commandCost s.pendingUrbs + 3)⟩
        (Nat.add_lt_add_left (by decide) _)
  | controlCalls clock request here =>
      exact works rfl here
        ⟨told, Nat.le_refl (commandCost s.pendingUrbs + 4)⟩
        (Nat.lt_succ_self _)
  | controls clock request supported here action ends =>
      exact works rfl here (ends.nears told)
        (Nat.add_lt_add_left (by decide : 2 < 5) _)
  | answers clock request data here ran ends =>
      exact works rfl here (ends.nears told) (Nat.lt_succ_self _)
  | takesAnswer clock request supported here =>
      exact works rfl here
        ⟨told, Nat.le_refl (commandCost s.pendingUrbs + 1)⟩
        (Nat.lt_succ_self _)
  | fetches clock request supported answered handled here =>
      refine works rfl here (finishSubmit_nears request _ _ _ ?_)
        (Nat.lt_succ_self _)
      exact told
  | schedules clock request here room =>
      refine works rfl here
        ⟨told, Nat.le_of_eq (commandCost_append _ (s.isoUrb request clock))⟩ ?_
      exact Nat.lt_succ_self _
  | overflows clock request here full ends =>
      exact works rfl here (ends.nears told)
        (Nat.lt_add_of_pos_right (by decide : 0 < 3))
  | enters clock next here free =>
      exact works rfl here ⟨told, Nat.le_refl (next.cost s.pendingUrbs + 1)⟩
        (Nat.lt_succ_self _)
  | posts clock call made next here =>
      exact works rfl here ⟨told, Nat.le_refl (next.cost s.pendingUrbs + 1)⟩
        (Nat.lt_succ_self _)
  | starts clock here =>
      exact works rfl here ⟨told, Nat.le_refl (passCost s.pendingUrbs 0)⟩
        (Nat.lt_add_of_pos_left Nat.zero_lt_one)
  | loses clock here =>
      refine works rfl here ⟨told, Nat.le_refl 6⟩ ?_
      have most := six_le_passCost s.pendingUrbs 0
      simp only [Phase.stepsLeft, commandCost]
      omega
  | ends clock now index here all =>
      exact works rfl here ⟨told, Nat.le_refl 2⟩
        (Nat.lt_of_lt_of_le (by decide) (six_le_passCost _ _))
  | later clock now index urb here filed early =>
      refine works rfl here
        ⟨told, Nat.le_refl (passCost s.pendingUrbs (index + 1))⟩ ?_
      rw [Phase.stepsLeft, passCost_entry filed]
      omega
  | collects clock now index urb here filed isochronous due ends =>
      refine works rfl here (ends.nears told) ?_
      rw [Phase.stepsLeft, passCost_entry filed]
      exact Nat.lt_add_of_pos_right (by decide : 0 < 2)
  | skips clock now index urb here filed plain due nothing =>
      refine works rfl here
        ⟨told, Nat.le_refl (passCost s.pendingUrbs (index + 1))⟩ ?_
      rw [Phase.stepsLeft, passCost_entry filed]
      omega
  | completes clock now index urb tcpip here filed plain due something
      written =>
      have kept := tcpipServerWriteAll_stopServer (s.dataReply urb).parts told
      rw [written] at kept
      refine works rfl here
        ⟨kept, Nat.le_of_eq (passCost_eraseIdx s.pendingUrbs index)⟩ ?_
      rw [Phase.stepsLeft, passCost_entry filed]
      omega
  | breaks clock now index urb tcpip here filed plain due something written =>
      have kept := tcpipServerWriteAll_stopServer (s.dataReply urb).parts told
      rw [written] at kept
      have most := six_le_passCost s.pendingUrbs (index + 1)
      refine works rfl here ⟨kept, Nat.le_refl 6⟩ ?_
      rw [Phase.stepsLeft, passCost_entry filed]
      omega
  | resets clock reason here =>
      exact works rfl here ⟨told, Nat.le_refl 5⟩ (Nat.lt_succ_self 5)
  | resetCalls clock reason here =>
      exact works rfl here ⟨told, Nat.le_refl 4⟩ (Nat.lt_succ_self 4)
  | resetEnds clock reason here uncalled ends =>
      exact works rfl here (ends.nears told) (by decide : 2 < 5)
  | stops clock here =>
      exact works rfl here ⟨told, Nat.le_refl 0⟩ (Nat.lt_succ_self 0)
  | returns written length made next here fits ends =>
      refine works rfl here (ends.nears told) ?_
      rw [next.task_cost]
      exact Nat.lt_succ_self _
  | @callbackTransmits device phase events ep data made next here ran =>
      refine ⟨told, ?_⟩
      have count : s.stepsLeft tested = next.cost s.pendingUrbs + 1 := by
        rw [State.stepsLeft, here]
        rfl
      rw [count]
      -- the transmit may still have to write the event
      refine Nat.add_le_add_left ?_ (next.cost s.pendingUrbs + 1)
      cases phase.posting with
      | none => exact Nat.zero_le _
      | some call => exact Nat.le_refl 1
  | transmits | wakes | threadPosts | locks | unlocks =>
      exact elsewhere rfl rfl (by simp [Label.owner])
  | interrupts =>
      refine ⟨rfl, ?_⟩
      simp only [Label.owner, ne_eq, reduceCtorEq, not_false_eq_true,
        decide_true, Bool.and_true]
      exact Nat.le_refl (s.stepsLeft tested)

theorem step_nears (told : s.tcpip.stopServer = true)
    (looping : label.inLoop s = true → tested = true)
    (stepped : step dev s label = some s') :
    s'.tcpip.stopServer = true ∧
      s'.stepsLeft (tested && decide (label.owner ≠ some .server)) +
          (if label.isServer then 1 else 0) ≤
        s.stepsLeft tested +
          (if label.isCallbackTransmit then 1 else 0) :=
  (step_transition stepped).nears told looping

/-! Some step of the server thread is possible, unless a thread is in its
critical section. -/

end

def WorkerLabel.isServer : WorkerLabel → Bool
  | .test => true
  | .block _ => true
  | .step label => label.isServer

def WorkerLabel.isCallbackTransmit : WorkerLabel → Bool
  | .step label => label.isCallbackTransmit
  | _ => false

section

variable {dev : UsbipDevice} {start finish : Worker}
  {labels : List WorkerLabel}

end

section

variable {dev : UsbipDevice} {s : State}

end

/-- A client unlinks a transfer and does not read the reply. -/
def blockedWorker : Worker :=
  (worker sampleDevice).after initialWorker
    (.test :: ((importLabels [unlinkOf 2 1]).take 1).map .step ++
      .test :: ((importLabels [unlinkOf 2 1]).drop 1).map .step ++
      [.test, .block (.wait true), .step .interrupt])

example : blockedWorker.blocked = true ∧
    blockedWorker.state.tcpip.stopServer = true := by
  decide +kernel

end UsbipServer
