import UsbipServer.Tcpip

namespace UsbipServer

open Wire

/-! What `tcpip_server_write` puts on the connection, and when it fails. -/

/-- A result of a `write` on a socket without a timeout: some bytes were taken,
a signal came, the connection failed, or the server is stopped. -/
def WriteResult.arises : WriteResult → Bool
  | .accepted count => 0 < count
  | .again => false
  | .interrupted => true
  | .failed => true
  | .stop => true

def WriteResult.ends : WriteResult → Bool
  | .failed => true
  | .stop => true
  | _ => false

/-- A signal comes before `missing` more bytes are taken. -/
def signalled : List WriteResult → Nat → Bool
  | .accepted count :: rest, missing + 1 => signalled rest (missing + 1 - count)
  | .interrupted :: _, _ + 1 => true
  | _, _ => false

def Tcpip.signalled (tcpip : Tcpip) (buffer : List Byte) : Bool :=
  !tcpip.stopServer && UsbipServer.signalled tcpip.writes buffer.length

section

variable {tcpip next : Tcpip} {results : List WriteResult}
  {sent buffer : List Byte} {status : Bool}

theorem writeLoop_front
    (written : writeLoop tcpip results sent buffer = (status, next)) :
    ∃ front back, buffer = front ++ back ∧ next.sent = sent ++ front ∧
      (status = true ↔ back = []) := by
  induction results generalizing sent buffer with
  | nil =>
      refine ⟨buffer, [], (List.append_nil _).symm, ?_⟩
      cases buffer with
      | nil =>
          obtain ⟨rfl, rfl⟩ := Prod.mk.inj written
          simp
      | cons byte rest =>
          obtain ⟨rfl, rfl⟩ := Prod.mk.inj written
          simp
  | cons result results induction =>
      cases buffer with
      | nil =>
          obtain ⟨rfl, rfl⟩ := Prod.mk.inj written
          exact ⟨[], [], by simp⟩
      | cons byte rest =>
          cases result with
          | accepted count =>
              rw [writeLoop] at written
              split at written
              · obtain ⟨rfl, rfl⟩ := Prod.mk.inj written
                exact ⟨[], byte :: rest, by simp⟩
              · obtain ⟨front, back, later, taken, done⟩ := induction written
                refine ⟨(byte :: rest).take count ++ front, back, ?_, ?_, done⟩
                · rw [List.append_assoc, ← later, List.take_append_drop]
                · rw [taken, List.append_assoc]
          | _ =>
              obtain ⟨rfl, rfl⟩ := Prod.mk.inj written
              exact ⟨[], byte :: rest, by simp⟩

/-- The results the loop goes through: it succeeds, or the last of them ends
it, and that one is a signal exactly if a signal comes in time. -/
theorem writeLoop_taken (arise : ∀ result ∈ results, result.arises = true)
    (written : writeLoop tcpip results sent buffer = (status, next)) :
    ∃ taken, results = taken ++ next.writes ∧
      ((status = false → ∃ result ∈ taken, result.ends = true) ↔
        signalled results buffer.length = false) := by
  induction results generalizing sent buffer with
  | nil =>
      refine ⟨[], ?_⟩
      cases buffer with
      | nil =>
          obtain ⟨rfl, rfl⟩ := Prod.mk.inj written
          simp [signalled]
      | cons byte rest =>
          obtain ⟨rfl, rfl⟩ := Prod.mk.inj written
          simp [signalled]
  | cons result results induction =>
      have first := arise result List.mem_cons_self
      cases buffer with
      | nil =>
          obtain ⟨rfl, rfl⟩ := Prod.mk.inj written
          exact ⟨[], by simp [signalled]⟩
      | cons byte rest =>
          cases result with
          | accepted count =>
              have some : count ≠ 0 := by
                simpa [WriteResult.arises, Nat.pos_iff_ne_zero] using first
              rw [writeLoop, if_neg some] at written
              obtain ⟨taken, parts, ends⟩ := induction
                (fun later member => arise later (List.mem_cons_of_mem _ member))
                written
              refine ⟨.accepted count :: taken, ?_, ?_⟩
              · rw [List.cons_append, ← parts]
              · rw [List.length_drop] at ends
                rw [List.length_cons, signalled, ← List.length_cons, ← ends]
                simp [WriteResult.ends]
          | again => contradiction
          | interrupted =>
              obtain ⟨rfl, rfl⟩ := Prod.mk.inj written
              exact ⟨[.interrupted], rfl, by simp [signalled, WriteResult.ends]⟩
          | failed =>
              obtain ⟨rfl, rfl⟩ := Prod.mk.inj written
              exact ⟨[.failed], rfl, by simp [signalled, WriteResult.ends]⟩
          | stop =>
              obtain ⟨rfl, rfl⟩ := Prod.mk.inj written
              exact ⟨[.stop], rfl, by simp [signalled, WriteResult.ends]⟩

end

/-- A write puts the front of the buffer on the connection and succeeds exactly
if that is all of it.  It only fails for a lost connection or a stopped server
exactly if no signal comes while it is at work. -/
theorem socketWrites (tcpip : Tcpip) (buffer : List Byte)
    (arise : ∀ result ∈ tcpip.writes, result.arises = true) :
    ∃ front back taken, buffer = front ++ back ∧
      (tcpipServerWrite tcpip buffer).2.sent = tcpip.sent ++ front ∧
      ((tcpipServerWrite tcpip buffer).1 = true ↔ back = []) ∧
      tcpip.writes = taken ++ (tcpipServerWrite tcpip buffer).2.writes ∧
      (((tcpipServerWrite tcpip buffer).1 = false →
          tcpip.stopServer = true ∨ ∃ result ∈ taken, result.ends = true) ↔
        tcpip.signalled buffer = false) := by
  unfold tcpipServerWrite
  split
  next stopped =>
    exact ⟨[], buffer, [], rfl, by simp, by simp [stopped.2], rfl,
      by simp [stopped.1, Tcpip.signalled]⟩
  · obtain ⟨front, back, parts, sent, done⟩ := writeLoop_front
      (Prod.eta (writeLoop tcpip tcpip.writes tcpip.sent buffer)).symm
    obtain ⟨taken, met, ends⟩ := writeLoop_taken arise
      (Prod.eta (writeLoop tcpip tcpip.writes tcpip.sent buffer)).symm
    refine ⟨front, back, taken, parts, sent, done, met, ?_⟩
    cases stopped : tcpip.stopServer with
    | false => simpa [Tcpip.signalled, stopped] using ends
    | true => simp [Tcpip.signalled, stopped]

/-- A connection that takes five bytes, is interrupted by a signal and then
takes everything. -/
def interruptedConnection : Tcpip where
  stopServer := false
  reads := []
  writes := [.accepted 5, .interrupted]
  sent := []

theorem socketWrites_interrupted :
    (∀ result ∈ interruptedConnection.writes, result.arises = true) ∧
      (tcpipServerWrite interruptedConnection [0, 1, 2, 3, 4]).1 = true ∧
      ∃ front back taken, [0, 1, 2, 3, 4] = front ++ back ∧
        (tcpipServerWrite interruptedConnection [0, 1, 2, 3, 4]).2.sent =
          [] ++ front ∧
        interruptedConnection.writes =
          taken ++ (tcpipServerWrite interruptedConnection
            [0, 1, 2, 3, 4]).2.writes := by
  obtain ⟨front, back, taken, parts, sent, _, met, _⟩ :=
    socketWrites interruptedConnection [0, 1, 2, 3, 4] (by decide)
  exact ⟨by decide, by decide, front, back, taken, parts, sent, met⟩

/-- The write of six bytes fails at the signal, although the connection is not
lost and the server is not stopped. -/
theorem socketWrites_signalled :
    (∀ result ∈ interruptedConnection.writes, result.arises = true) ∧
      interruptedConnection.signalled [0, 1, 2, 3, 4, 5] = true ∧
      tcpipServerWrite interruptedConnection [0, 1, 2, 3, 4, 5] =
        (false, { interruptedConnection with
          writes := []
          sent := [0, 1, 2, 3, 4] }) ∧
      (tcpipServerWrite interruptedConnection
        [0, 1, 2, 3, 4, 5]).2.stopServer = false ∧
      ∀ result ∈ interruptedConnection.writes, result.ends = false := by
  decide

end UsbipServer
