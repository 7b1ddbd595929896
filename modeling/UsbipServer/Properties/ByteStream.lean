import UsbipServer.Refine.Posting

namespace UsbipServer

open Wire Library Mailbox

/-- The data of a reply to a bulk or interrupt IN transfer of an endpoint. -/
def Event.replied (endpoint : Fin 16) : Event → List Cell
  | .retSubmit reply =>
      if reply.transfer.isochronous = false ∧ reply.transfer.direction ≠ 0 ∧
          reply.transfer.number = endpoint then reply.data
      else []
  | _ => []

def repliedFrom (endpoint : Fin 16) (events : List Event) : List Cell :=
  events.flatMap (Event.replied endpoint)

/-! Between two resets, what is fetched is what the replies carry. -/

section

variable {endpoint : Fin 16} {trace events : List Event}

def Carried (endpoint : Fin 16) (trace : List Event) : Prop :=
  Event.writeFailed ∉ since Event.isReset trace →
    fetchedFrom endpoint (since Event.isReset trace) =
      repliedFrom endpoint (since Event.isReset trace)

@[simp] theorem fetchedFrom_append (endpoint : Fin 16) (early late : List Event) :
    fetchedFrom endpoint (early ++ late) =
      fetchedFrom endpoint early ++ fetchedFrom endpoint late := by
  simp only [fetchedFrom, List.flatMap_append]

@[simp] theorem repliedFrom_append (endpoint : Fin 16) (early late : List Event) :
    repliedFrom endpoint (early ++ late) =
      repliedFrom endpoint early ++ repliedFrom endpoint late := by
  simp only [repliedFrom, List.flatMap_append]

theorem Carried.append (earlier : Carried endpoint trace)
    (kept : ∀ event ∈ events, event.isReset = false)
    (told : Event.writeFailed ∉ events →
      fetchedFrom endpoint events = repliedFrom endpoint events) :
    Carried endpoint (trace ++ events) := by
  intro written
  rw [since_append _ _ _ kept] at written ⊢
  rw [fetchedFrom_append, repliedFrom_append,
    earlier fun failed => written (List.mem_append_left _ failed),
    told fun failed => written (List.mem_append_right _ failed)]

theorem Carried.reset (trace : List Event) :
    Carried endpoint (trace ++ [.reset]) := by
  intro _
  rw [since_concat]
  rfl

theorem quiet_kept {event : Event} (quiet : event.isQuiet = true) :
    event.isReset = false := by
  cases event <;> first | rfl | simp [Event.isQuiet, Event.isSession] at quiet

theorem quiet_fetched (quiet : ∀ event ∈ events, event.isQuiet = true) :
    fetchedFrom endpoint events = [] := by
  refine List.flatMap_eq_nil_iff.mpr ?_
  intro event member
  have silent := quiet event member
  cases event <;>
    first | rfl | simp [Event.isQuiet, Event.isSession] at silent

theorem quiet_replied (quiet : ∀ event ∈ events, event.isQuiet = true) :
    repliedFrom endpoint events = [] := by
  refine List.flatMap_eq_nil_iff.mpr ?_
  intro event member
  have silent := quiet event member
  cases event with
  | retSubmit reply =>
      simp only [Event.isQuiet, Bool.or_eq_true, List.isEmpty_iff] at silent
      simp only [Event.replied]
      split
      next plain =>
        rcases silent with isochronous | empty
        · rw [plain.1] at isochronous
          contradiction
        · exact empty
      · rfl
  | _ => rfl

theorem Carried.apart {s s' : State} (earlier : Carried endpoint s.trace)
    (apart : Apart s s') : Carried endpoint s'.trace := by
  obtain ⟨_, _, _, _, events, traced, quiet⟩ := apart
  rw [traced]
  refine earlier.append (fun event member => quiet_kept (quiet event member)) ?_
  intro _
  rw [quiet_fetched quiet, quiet_replied quiet]

theorem Carried.local {s s' : State} (earlier : Carried endpoint s.trace)
    (acted : Local s s') : Carried endpoint s'.trace := by
  obtain ⟨events, traced, shape⟩ := acted.recorded
  rw [traced]
  rcases shape with rfl | deviceSide
  · exact .reset s.trace
  · refine earlier.append ?_ ?_
    · intro event member
      have side := deviceSide event member
      cases event <;> first | rfl | simp [Event.isDeviceSide] at side
    · intro _
      have fetched : fetchedFrom endpoint events = [] := by
        refine List.flatMap_eq_nil_iff.mpr ?_
        intro event member
        have side := deviceSide event member
        cases event <;> first | rfl | simp [Event.isDeviceSide] at side
      have replied : repliedFrom endpoint events = [] := by
        refine List.flatMap_eq_nil_iff.mpr ?_
        intro event member
        have side := deviceSide event member
        cases event <;> first | rfl | simp [Event.isDeviceSide] at side
      rw [fetched, replied]

theorem Carried.fetches {s s' : State} (earlier : Carried endpoint s.trace)
    (data : endpoint ≠ 0) (fetches : Fetches s s') :
    Carried endpoint s'.trace := by
  obtain ⟨_, _, _, _, ep, length, transfer, events, source, _, traced,
    follow⟩ := fetches
  rw [traced]
  rcases follow with ⟨reply, rfl, carried, transfer⟩ | ⟨quiet, lost⟩
  · refine earlier.append (by simp [Event.isReset]) ?_
    intro _
    simp [fetchedFrom, repliedFrom, Event.replied, carried, transfer,
      source.plain, source.inward, source.number]
  · refine earlier.append ?_ ?_
    · intro event member
      rcases List.mem_cons.mp member with rfl | member
      · rfl
      · exact quiet_kept (quiet event member)
    · intro written
      have replied : repliedFrom endpoint (.fetched (epMasked ep)
          (s.device.usbipDeviceFetchEpData ep length).1 :: events) = [] := by
        have later := @quiet_replied endpoint events quiet
        simpa [repliedFrom, Event.replied] using later
      have fetched := @quiet_fetched endpoint events quiet
      rw [replied]
      rcases lost with control | empty | failed
      · have other : ¬ epMasked ep = endpoint := by
          intro same
          exact data (same.symm.trans control)
        simpa [fetchedFrom, other] using fetched
      · simpa [fetchedFrom, empty] using fetched
      · exact absurd (List.mem_cons_of_mem _ failed) written

theorem reachable_carried {dev : UsbipDevice} {s : State}
    (reachable : Reachable dev s) (data : endpoint ≠ 0) :
    Carried endpoint s.trace := by
  refine reachable.device_invariant
    (P := fun s => Carried endpoint s.trace) (fun _ => rfl) ?_
  intro state next _ earlier acted
  rcases acted with ⟨middle, performed, apart, _⟩ | fetches
  · exact (earlier.local performed).apart apart
  · exact earlier.fetches data fetches

end

/-- Between two resets, before the device is stopped and while no write fails,
the replies of an endpoint followed by what it holds are the stored data, each
byte with the call it came from, and the calls that stored are those that
return `true`. -/
theorem inByteStream {dev : UsbipDevice} {s : State} {endpoint : Fin 16}
    (reachable : Reachable dev s) (data : endpoint ≠ 0)
    (running : Event.deviceStopped ∉ since Event.isReset s.trace)
    (written : Event.writeFailed ∉ since Event.isReset s.trace) :
    repliedFrom endpoint (since Event.isReset s.trace) ++
        s.device.endpointData endpoint =
      storedOn endpoint (since Event.isReset s.trace) ∧
      ∀ call, Event.stored call ∈ s.trace ↔
        Event.returned call true ∈ s.trace ∨ Posting s call := by
  refine ⟨?_, reachable_postedWhenStored reachable⟩
  rw [← reachable_carried reachable data written]
  exact stream (reachable_mailbox reachable) data running

/-- One byte of two is fetched into a short transfer, the other stays held. -/
def partialLabels : List Label :=
  importLabels [bulkIn 7 1 1] ++
    [.wait true, .server 0, .server 0, .server 0, .transmit 0 1 [0xaa, 0xbb],
      .wait false, .server 0, .server 0]

theorem inByteStream_partial :
    repliedFrom 1 (since Event.isReset
        (stateAfter sampleDevice partialLabels).trace) = [⟨0xaa, some 0⟩] ∧
      repliedFrom 1 (since Event.isReset
          (stateAfter sampleDevice partialLabels).trace) ++
          (stateAfter sampleDevice partialLabels).device.endpointData 1 =
        storedOn 1 (since Event.isReset
          (stateAfter sampleDevice partialLabels).trace) := by
  refine ⟨by decide +kernel, ?_⟩
  exact (inByteStream (stateAfter_reachable sampleDevice partialLabels)
    (by decide) (by decide +kernel) (by decide +kernel)).1

end UsbipServer
