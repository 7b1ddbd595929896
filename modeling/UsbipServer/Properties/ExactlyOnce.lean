import UsbipServer.Refine.Progress

namespace UsbipServer

open Wire Library Ledger

/-! Every submit is answered once, cancelled once or still pending. -/

def pendingOf (seqnum : UInt32) (s : State) : Nat :=
  s.pendingUrbs.countP fun urb => urb.seqnum == seqnum

section

variable {dev : UsbipDevice} {s : State}

theorem openOf_view (seqnum : UInt32) (between : s.phase = .serve) :
    openOf seqnum (view s) = pendingOf seqnum s := by
  simp only [openOf, view, between, Phase.hand, Option.toList_none,
    List.append_nil, queueOf, List.countP_map, pendingOf]
  rfl

theorem Tracked.live_goesOn (tracked : Tracked dev s)
    (imported : s.deviceImported = true) (between : s.phase = .serve) :
    ∀ event ∈ s.session, event.goesOn = true :=
  tracked.goesOn ⟨imported, by simp [between]⟩

theorem Tracked.unlink_missed (tracked : Tracked dev s)
    (goesOn : ∀ event ∈ s.session, event.goesOn = true)
    {before after : List Event} {reply : UnlinkReply}
    (session : s.session =
      before ++ .retUnlink reply :: after)
    (status : reply.status = 0) :
    submitsOf reply.unlinkSeqnum before =
      repliesTo reply.unlinkSeqnum before +
        cancelsOf reply.unlinkSeqnum before := by
  have run := tracked.ledger
  rw [session] at run goesOn
  obtain ⟨ledger, next, early, stepped, _⟩ := run.at_event
  have earlier := balance early reply.unlinkSeqnum
    fun event member => goesOn event (List.mem_append_left _ member)
  rw [missed_closed stepped status] at earlier
  exact earlier

theorem exactlyOnce (reachable : Reachable dev s)
    (imported : s.deviceImported = true) (between : s.phase = .serve) :
    (∀ seqnum,
      submitsOf seqnum s.session =
        repliesTo seqnum s.session +
          cancelsOf seqnum s.session +
          pendingOf seqnum s) ∧
      (∀ seqnum, submitsOf seqnum s.session = 1 →
        repliesTo seqnum s.session +
          cancelsOf seqnum s.session +
          pendingOf seqnum s = 1) ∧
      (∀ before reply after,
        s.session = before ++ .retUnlink reply :: after →
        reply.status = 0 → 0 < submitsOf reply.unlinkSeqnum before →
        cancelsOf reply.unlinkSeqnum before = 0 →
        0 < repliesTo reply.unlinkSeqnum before) ∧
      s.tcpip.sent = importReply dev ++
        s.session.flatMap Event.wire := by
  have tracked := reachable_tracked reachable
  have goesOn := tracked.live_goesOn imported between
  have total : ∀ seqnum,
      submitsOf seqnum s.session =
        repliesTo seqnum s.session +
          cancelsOf seqnum s.session +
          pendingOf seqnum s := by
    intro seqnum
    rw [← openOf_view seqnum between]
    exact balance tracked.ledger seqnum goesOn
  refine ⟨total, ?_, ?_, ?_⟩
  · intro seqnum once
    rw [← total seqnum, once]
  · intro before reply after session status submitted kept
    have accounted := tracked.unlink_missed goesOn session status
    omega
  · refine tracked.wire imported ?_
    intro failed
    have contrary := goesOn .writeFailed failed
    simp [Event.goesOn] at contrary

end

/-- A bulk IN transfer that first finds no data and is then answered. -/
def answeredLabels : List Label :=
  importLabels [bulkIn 7 1 8] ++
    [.wait true, .server 0, .server 0, .server 0, .transmit 0 1 [0xaa],
      .post 0, .wait false, .server 0, .server 0, .server 0]

theorem exactlyOnce_answered :
    submitsOf 7 (stateAfter sampleDevice answeredLabels).session = 1 ∧
      repliesTo 7 (stateAfter sampleDevice answeredLabels).session +
        cancelsOf 7 (stateAfter sampleDevice answeredLabels).session +
        pendingOf 7 (stateAfter sampleDevice answeredLabels) = 1 := by
  have submitted :
      submitsOf 7 (stateAfter sampleDevice answeredLabels).session = 1 := by
    decide +kernel
  have once := exactlyOnce (stateAfter_reachable sampleDevice answeredLabels)
    (by decide +kernel) (by decide +kernel)
  exact ⟨submitted, once.2.1 7 submitted⟩

end UsbipServer
