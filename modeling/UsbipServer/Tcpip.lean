import UsbipServer.Wire.Definitions

namespace UsbipServer

open Wire

/-! The connection to the client.  The results of the `read` and `write` calls
that are still to come are part of the state, so a property proved for every
state holds however the stream is cut, delayed, interrupted or lost. -/

/-- One result of `read`.  No bytes mean that the client closed the connection;
`stop` means that the server is stopped while the call waits. -/
inductive ReadResult where
  | data (bytes : List Byte)
  | again
  | interrupted
  | failed
  | stop
  deriving DecidableEq, Repr

/-- One result of `write`, `accepted` with the count the call may return.  The
client socket blocks and `SO_RCVTIMEO` is set for reading only: a call that the
client never takes has no result, the thread stays in it (`Worker.blocked`). -/
inductive WriteResult where
  | accepted (count : Nat)
  | again
  | interrupted
  | failed
  | stop
  deriving DecidableEq, Repr

/-- `stopServer` stands for `stop_server` and for `keep_running == 0`, which are
always set together. -/
structure Tcpip where
  stopServer : Bool
  reads : List ReadResult
  writes : List WriteResult
  sent : List Byte
  deriving DecidableEq, Repr

inductive ReadOutcome where
  | blocked
  | lost (stopped : Bool) (received : List Byte) (rest : List ReadResult)
  | complete (bytes : List Byte) (rest : List ReadResult)
  deriving DecidableEq, Repr

/-- The loop of `tcpip_server_read`: `received` is what the buffer holds so far
and `missing` how many bytes it still needs. -/
def readLoop : List ReadResult → List Byte → Nat → ReadOutcome
  | results, received, 0 => .complete received results
  | [], _, _ + 1 => .blocked
  | .data bytes :: rest, received, missing + 1 =>
      if bytes.isEmpty then .lost false received rest
      else if bytes.length ≤ missing + 1 then
        readLoop rest (received ++ bytes) (missing + 1 - bytes.length)
      else
        .complete (received ++ bytes.take (missing + 1))
          (.data (bytes.drop (missing + 1)) :: rest)
  | .again :: rest, received, missing + 1 =>
      readLoop rest received (missing + 1)
  | .interrupted :: rest, received, missing + 1 =>
      readLoop rest received (missing + 1)
  | .failed :: rest, received, _ + 1 => .lost false received rest
  | .stop :: rest, received, _ + 1 => .lost true received rest

inductive TcpipRead where
  | blocked
  | failed (tcpip : Tcpip) (received : List Byte)
  | complete (tcpip : Tcpip) (bytes : List Byte)

def tcpipServerRead (tcpip : Tcpip) (readSize : Nat) : TcpipRead :=
  if tcpip.stopServer ∧ readSize ≠ 0 then .failed tcpip []
  else
    match readLoop tcpip.reads [] readSize with
    | .blocked => .blocked
    | .lost stopped received rest =>
        .failed { tcpip with stopServer := stopped, reads := rest } received
    | .complete bytes rest => .complete { tcpip with reads := rest } bytes

theorem readLoop_complete_length {results rest : List ReadResult}
    {received bytes : List Byte} {missing : Nat}
    (completed : readLoop results received missing = .complete bytes rest) :
    bytes.length = received.length + missing := by
  induction results generalizing received missing with
  | nil =>
      cases missing with
      | zero =>
          simp only [readLoop, ReadOutcome.complete.injEq] at completed
          rw [← completed.1, Nat.add_zero]
      | succ missing => simp [readLoop] at completed
  | cons result results induction =>
      cases missing with
      | zero =>
          simp only [readLoop, ReadOutcome.complete.injEq] at completed
          rw [← completed.1, Nat.add_zero]
      | succ missing =>
          cases result with
          | data chunk =>
              simp only [readLoop] at completed
              split at completed
              · contradiction
              · split at completed
                next fits =>
                  have total := induction completed
                  rw [List.length_append] at total
                  omega
                next exceeds =>
                  simp only [ReadOutcome.complete.injEq] at completed
                  rw [← completed.1, List.length_append, List.length_take]
                  omega
          | again => exact induction completed
          | interrupted => exact induction completed
          | failed => simp [readLoop] at completed
          | stop => simp [readLoop] at completed

theorem tcpipServerRead_length {tcpip next : Tcpip} {size : Nat}
    {bytes : List Byte}
    (completed : tcpipServerRead tcpip size = .complete next bytes) :
    bytes.length = size := by
  unfold tcpipServerRead at completed
  split at completed
  · contradiction
  · cases looped : readLoop tcpip.reads [] size with
    | blocked => simp [looped] at completed
    | lost stopped received rest => simp [looped] at completed
    | complete content rest =>
        simp only [looped, TcpipRead.complete.injEq] at completed
        have total := readLoop_complete_length looped
        rw [← completed.2]
        simpa using total

/-- Reading never touches what was sent or how writes will go. -/
theorem tcpipServerRead_complete {tcpip next : Tcpip} {size : Nat}
    {bytes : List Byte}
    (completed : tcpipServerRead tcpip size = .complete next bytes) :
    next = { tcpip with reads := next.reads } := by
  unfold tcpipServerRead at completed
  split at completed
  · contradiction
  · cases looped : readLoop tcpip.reads [] size with
    | blocked => simp [looped] at completed
    | lost stopped received rest => simp [looped] at completed
    | complete content rest =>
        simp only [looped, TcpipRead.complete.injEq] at completed
        rw [← completed.1]

theorem tcpipServerRead_failed {tcpip next : Tcpip} {size : Nat}
    {received : List Byte}
    (lost : tcpipServerRead tcpip size = .failed next received) :
    next.sent = tcpip.sent ∧ next.writes = tcpip.writes := by
  unfold tcpipServerRead at lost
  split at lost
  · simp only [TcpipRead.failed.injEq] at lost
    rw [← lost.1]
    exact ⟨rfl, rfl⟩
  · cases looped : readLoop tcpip.reads [] size with
    | blocked => simp [looped] at lost
    | complete content rest => simp [looped] at lost
    | lost stopped content rest =>
        simp only [looped, TcpipRead.failed.injEq] at lost
        rw [← lost.1]
        exact ⟨rfl, rfl⟩

/-! Reading from a client that keeps its connection open. -/

def streamOf (results : List ReadResult) : List Byte :=
  results.flatMap fun
    | .data bytes => bytes
    | _ => []

/-- Results of a healthy connection: data in pieces, timeouts and signals. -/
def ReadResult.healthy : ReadResult → Bool
  | .data bytes => !bytes.isEmpty
  | .again => true
  | .interrupted => true
  | .failed => false
  | .stop => false

def Healthy (results : List ReadResult) : Prop :=
  ∀ result ∈ results, result.healthy = true

/-- However the stream is cut, a read takes exactly the bytes it asked for from
its front and leaves the rest for the next read. -/
theorem readLoop_healthy (results : List ReadResult) (received : List Byte)
    (missing : Nat) (healthy : Healthy results)
    (enough : missing ≤ (streamOf results).length) :
    ∃ rest, readLoop results received missing =
        .complete (received ++ (streamOf results).take missing) rest ∧
      Healthy rest ∧ streamOf rest = (streamOf results).drop missing := by
  induction results generalizing received missing with
  | nil =>
      have none : missing = 0 := by simpa [streamOf] using enough
      subst none
      exact ⟨[], by simp [readLoop], healthy, by simp⟩
  | cons result results induction =>
      have later : Healthy results :=
        fun candidate member => healthy candidate (by simp [member])
      have first := healthy result (by simp)
      cases missing with
      | zero => exact ⟨result :: results, by simp [readLoop], healthy, by simp⟩
      | succ missing =>
          cases result with
          | data bytes =>
              have nonempty : bytes.isEmpty = false := by
                simpa [ReadResult.healthy] using first
              have stream : streamOf (.data bytes :: results) =
                  bytes ++ streamOf results := rfl
              rw [stream] at enough ⊢
              simp only [readLoop, nonempty]
              by_cases fits : bytes.length ≤ missing + 1
              · rw [if_neg (by simp), if_pos fits]
                rw [List.length_append] at enough
                obtain ⟨rest, read, restHealthy, restStream⟩ :=
                  induction (received ++ bytes) (missing + 1 - bytes.length)
                    later (by omega)
                refine ⟨rest, ?_, restHealthy, ?_⟩
                · rw [read, List.take_append, List.take_of_length_le fits,
                    List.append_assoc]
                · rw [restStream, List.drop_append,
                    List.drop_of_length_le fits, List.nil_append]
              · rw [if_neg (by simp), if_neg fits]
                refine ⟨.data (bytes.drop (missing + 1)) :: results, ?_, ?_, ?_⟩
                · rw [List.take_append_of_le_length (by omega)]
                · intro candidate member
                  rcases List.mem_cons.mp member with rfl | member
                  · simp only [ReadResult.healthy, List.isEmpty_eq_false_iff,
                      Bool.not_eq_true', ne_eq, List.drop_eq_nil_iff]
                    omega
                  · exact later candidate member
                · rw [List.drop_append_of_le_length (by omega)]
                  rfl
          | again => exact induction received (missing + 1) later enough
          | interrupted => exact induction received (missing + 1) later enough
          | failed => simp [ReadResult.healthy] at first
          | stop => simp [ReadResult.healthy] at first

theorem tcpipServerRead_healthy (tcpip : Tcpip) (size : Nat)
    (running : tcpip.stopServer = false) (healthy : Healthy tcpip.reads)
    (enough : size ≤ (streamOf tcpip.reads).length) :
    ∃ next, tcpipServerRead tcpip size =
        .complete next ((streamOf tcpip.reads).take size) ∧
      next = { tcpip with reads := next.reads } ∧ Healthy next.reads ∧
      streamOf next.reads = (streamOf tcpip.reads).drop size := by
  obtain ⟨rest, read, restHealthy, restStream⟩ :=
    readLoop_healthy tcpip.reads [] size healthy enough
  refine ⟨{ tcpip with reads := rest }, ?_, rfl, restHealthy, restStream⟩
  rw [List.nil_append] at read
  simp [tcpipServerRead, running, read]

theorem tcpipServerRead_front {tcpip : Tcpip} {front rest : List Byte}
    (running : tcpip.stopServer = false) (healthy : Healthy tcpip.reads)
    (stream : streamOf tcpip.reads = front ++ rest) :
    ∃ next, tcpipServerRead tcpip front.length = .complete next front ∧
      next.stopServer = false ∧ Healthy next.reads ∧
      streamOf next.reads = rest := by
  have enough : front.length ≤ (streamOf tcpip.reads).length := by
    simp [stream]
  obtain ⟨next, read, same, later, left⟩ :=
    tcpipServerRead_healthy tcpip front.length running healthy enough
  rw [stream, List.take_left' rfl] at read
  rw [stream, List.drop_left' rfl] at left
  refine ⟨next, read, ?_, later, left⟩
  rw [same]
  exact running

theorem readLoop_short (results : List ReadResult) (received : List Byte)
    (missing : Nat) (healthy : Healthy results)
    (short : (streamOf results).length < missing) :
    readLoop results received missing = .blocked := by
  induction results generalizing received missing with
  | nil =>
      cases missing with
      | zero => simp at short
      | succ missing => rfl
  | cons result results induction =>
      have later : Healthy results :=
        fun candidate member => healthy candidate (by simp [member])
      have first := healthy result (by simp)
      cases missing with
      | zero => simp at short
      | succ missing =>
          cases result with
          | data bytes =>
              have nonempty : bytes.isEmpty = false := by
                simpa [ReadResult.healthy] using first
              have stream : streamOf (.data bytes :: results) =
                  bytes ++ streamOf results := rfl
              rw [stream, List.length_append] at short
              have fits : bytes.length ≤ missing + 1 := by omega
              simp only [readLoop, nonempty]
              rw [if_neg (by simp), if_pos fits]
              exact induction _ _ later (by omega)
          | again => exact induction received (missing + 1) later short
          | interrupted => exact induction received (missing + 1) later short
          | failed => simp [ReadResult.healthy] at first
          | stop => simp [ReadResult.healthy] at first

theorem tcpipServerRead_short {tcpip : Tcpip} {size : Nat}
    (running : tcpip.stopServer = false) (healthy : Healthy tcpip.reads)
    (short : (streamOf tcpip.reads).length < size) :
    tcpipServerRead tcpip size = .blocked := by
  have blocked := readLoop_short tcpip.reads [] size healthy short
  simp [tcpipServerRead, running, blocked]

theorem tcpipServerRead_stopped {tcpip : Tcpip} {size : Nat}
    (stopped : tcpip.stopServer = true) (some : size ≠ 0) :
    tcpipServerRead tcpip size = .failed tcpip [] := by
  simp [tcpipServerRead, stopped, some]

/-- The loop of `tcpip_server_write`.  When no result is left the connection
takes the rest at once. -/
def writeLoop (tcpip : Tcpip) :
    List WriteResult → List Byte → List Byte → Bool × Tcpip
  | results, sent, [] => (true, { tcpip with writes := results, sent := sent })
  | [], sent, byte :: rest =>
      (true, { tcpip with writes := [], sent := sent ++ byte :: rest })
  | .accepted count :: results, sent, byte :: rest =>
      if count = 0 then
        (false, { tcpip with writes := results, sent := sent })
      else
        writeLoop tcpip results (sent ++ (byte :: rest).take count)
          ((byte :: rest).drop count)
  | .again :: results, sent, _ :: _ =>
      (false, { tcpip with writes := results, sent := sent })
  | .interrupted :: results, sent, _ :: _ =>
      (false, { tcpip with writes := results, sent := sent })
  | .failed :: results, sent, _ :: _ =>
      (false, { tcpip with writes := results, sent := sent })
  | .stop :: results, sent, _ :: _ =>
      (false,
        { tcpip with stopServer := true, writes := results, sent := sent })

def tcpipServerWrite (tcpip : Tcpip) (buffer : List Byte) : Bool × Tcpip :=
  if tcpip.stopServer ∧ buffer ≠ [] then (false, tcpip)
  else writeLoop tcpip tcpip.writes tcpip.sent buffer

/-- Consecutive writes, each made only when the one before succeeded. -/
def tcpipServerWriteAll : Tcpip → List (List Byte) → Bool × Tcpip
  | tcpip, [] => (true, tcpip)
  | tcpip, buffer :: rest =>
      match tcpipServerWrite tcpip buffer with
      | (true, next) => tcpipServerWriteAll next rest
      | (false, next) => (false, next)

theorem writeLoop_reads (tcpip : Tcpip) (results : List WriteResult)
    (sent buffer : List Byte) :
    (writeLoop tcpip results sent buffer).2.reads = tcpip.reads := by
  induction results generalizing sent buffer with
  | nil => cases buffer <;> rfl
  | cons result results induction =>
      cases buffer with
      | nil => cases result <;> rfl
      | cons byte rest =>
          cases result with
          | accepted count =>
              simp only [writeLoop]
              split
              · rfl
              · exact induction _ _
          | _ => rfl

theorem writeLoop_sent {tcpip next : Tcpip} {results : List WriteResult}
    {sent buffer : List Byte}
    (written : writeLoop tcpip results sent buffer = (true, next)) :
    next.sent = sent ++ buffer := by
  induction results generalizing sent buffer with
  | nil =>
      cases buffer with
      | nil =>
          simp only [writeLoop, Prod.mk.injEq, true_and] at written
          rw [← written, List.append_nil]
      | cons byte rest =>
          simp only [writeLoop, Prod.mk.injEq, true_and] at written
          rw [← written]
  | cons result results induction =>
      cases buffer with
      | nil =>
          simp only [writeLoop, Prod.mk.injEq, true_and] at written
          rw [← written, List.append_nil]
      | cons byte rest =>
          cases result with
          | accepted count =>
              simp only [writeLoop] at written
              split at written
              · simp at written
              · rw [induction written, List.append_assoc, List.take_append_drop]
          | _ => simp [writeLoop] at written

theorem tcpipServerWrite_reads (tcpip : Tcpip) (buffer : List Byte) :
    (tcpipServerWrite tcpip buffer).2.reads = tcpip.reads := by
  unfold tcpipServerWrite
  split
  · rfl
  · exact writeLoop_reads tcpip tcpip.writes tcpip.sent buffer

theorem tcpipServerWrite_sent {tcpip next : Tcpip} {buffer : List Byte}
    (written : tcpipServerWrite tcpip buffer = (true, next)) :
    next.sent = tcpip.sent ++ buffer := by
  unfold tcpipServerWrite at written
  split at written
  · simp at written
  · exact writeLoop_sent written

theorem tcpipServerWriteAll_reads (tcpip : Tcpip)
    (buffers : List (List Byte)) :
    (tcpipServerWriteAll tcpip buffers).2.reads = tcpip.reads := by
  induction buffers generalizing tcpip with
  | nil => rfl
  | cons buffer rest induction =>
      have kept := tcpipServerWrite_reads tcpip buffer
      simp only [tcpipServerWriteAll]
      cases written : tcpipServerWrite tcpip buffer with
      | mk status next =>
          rw [written] at kept
          cases status with
          | true => exact (induction next).trans kept
          | false => exact kept

theorem tcpipServerWriteAll_append (tcpip : Tcpip)
    (front back : List (List Byte)) :
    tcpipServerWriteAll tcpip (front ++ back) =
      match tcpipServerWriteAll tcpip front with
      | (true, next) => tcpipServerWriteAll next back
      | (false, next) => (false, next) := by
  induction front generalizing tcpip with
  | nil => rfl
  | cons buffer rest induction =>
      simp only [List.cons_append, tcpipServerWriteAll]
      cases tcpipServerWrite tcpip buffer with
      | mk status next =>
          cases status with
          | false => rfl
          | true => exact induction next

theorem tcpipServerWriteAll_sent {tcpip next : Tcpip}
    {buffers : List (List Byte)}
    (written : tcpipServerWriteAll tcpip buffers = (true, next)) :
    next.sent = tcpip.sent ++ buffers.flatten := by
  induction buffers generalizing tcpip with
  | nil =>
      simp only [tcpipServerWriteAll, Prod.mk.injEq, true_and] at written
      simp [← written]
  | cons buffer rest induction =>
      simp only [tcpipServerWriteAll] at written
      cases first : tcpipServerWrite tcpip buffer with
      | mk status middle =>
          rw [first] at written
          cases status with
          | false => simp at written
          | true =>
              rw [induction written, tcpipServerWrite_sent first,
                List.flatten_cons, List.append_assoc]

def Tcpip.Takes (tcpip : Tcpip) : Prop :=
  tcpip.stopServer = false ∧ tcpip.writes = []

theorem Tcpip.Takes.write {tcpip : Tcpip} (takes : tcpip.Takes)
    (buffer : List Byte) :
    ∃ next, tcpipServerWrite tcpip buffer = (true, next) ∧ next.Takes := by
  obtain ⟨running, ready⟩ := takes
  unfold tcpipServerWrite
  rw [running, ready, if_neg (by simp)]
  cases buffer with
  | nil => exact ⟨_, rfl, running, rfl⟩
  | cons byte rest => exact ⟨_, rfl, running, rfl⟩

theorem Tcpip.Takes.writeAll {tcpip : Tcpip} (takes : tcpip.Takes)
    (buffers : List (List Byte)) :
    ∃ next, tcpipServerWriteAll tcpip buffers = (true, next) ∧ next.Takes := by
  induction buffers generalizing tcpip with
  | nil => exact ⟨tcpip, rfl, takes⟩
  | cons buffer rest induction =>
      obtain ⟨next, written, later⟩ := takes.write buffer
      rw [tcpipServerWriteAll, written]
      exact induction later

end UsbipServer
