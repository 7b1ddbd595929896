import UsbipServer.Properties.IsoStream
import UsbipServer.Refine.Audio

namespace UsbipServer

open Wire Library Audio

namespace Audio

/-! The recording of a host: what it heard since it selected the alternate
setting of the stream. -/

structure Recording where
  alternate : Byte
  heard : List Byte
  intact : Bool

/-- What an event does to the recording.  A failed write leaves a hole. -/
def Recording.note (recording : Recording) : Event → Recording
  | .callback (.control setup _) =>
      if selects setup recording.alternate then ⟨setup.wValueLow, [], true⟩
      else recording
  | .callback .reset => { recording with alternate := 0 }
  | .writeFailed => { recording with intact := false }
  | event => { recording with heard := recording.heard ++ event.isoHeard }

def recordingOf (events : List Event) : Recording :=
  events.foldl Recording.note ⟨0, [], true⟩

theorem recordingOf_append (before events : List Event) :
    recordingOf (before ++ events) =
      events.foldl Recording.note (recordingOf before) :=
  List.foldl_append

theorem note_alternate {events : List Event} (recording : Recording)
    (uncalled : calledIn events = []) :
    (events.foldl Recording.note recording).alternate =
      recording.alternate := by
  induction events generalizing recording with
  | nil => rfl
  | cons event events induction =>
      rw [calledIn, List.filterMap_cons] at uncalled
      cases event with
      | callback args => simp [Event.called] at uncalled
      | _ => exact induction _ uncalled

theorem note_uncalled {events : List Event} (recording : Recording)
    (uncalled : calledIn events = [])
    (intact : (events.foldl Recording.note recording).intact = true) :
    events.foldl Recording.note recording =
        { recording with heard := recording.heard ++ isoHeardIn events } ∧
      Event.writeFailed ∉ events := by
  induction events generalizing recording with
  | nil => simp [isoHeardIn]
  | cons event events induction =>
      rw [calledIn, List.filterMap_cons] at uncalled
      cases event with
      | callback args => simp [Event.called] at uncalled
      | writeFailed =>
          -- the hole stays
          obtain ⟨folded, _⟩ :=
            induction { recording with intact := false } uncalled intact
          rw [List.foldl_cons, Recording.note, folded] at intact
          contradiction
      | _ =>
          obtain ⟨folded, unfailed⟩ := induction _ uncalled intact
          refine ⟨?_, by simpa using unfailed⟩
          rw [List.foldl_cons, folded]
          simp [Recording.note, isoHeardIn]

end Audio

section

variable {dev : UsbipDevice} {s s' : State} {label : Label}

def Phase.givesIso : Phase → Bool
  | .callback _ _ next => next.packing.isSome
  | _ => false

theorem Phase.givesIso_outside {phase : Phase}
    (outside : phase.isCallback = false) : phase.givesIso = false := by
  cases phase with
  | callback => contradiction
  | _ => rfl

theorem step_stays {posting : Option Call} {made : Nat} {next : Continuation}
    (here : s.phase = .callback posting made next)
    (onwards : label.isCallbackReturn = false)
    (stepped : step dev s label = some s') :
    ∃ posting made, s'.phase = .callback posting made next := by
  cases step_transition stepped with
  | posts _ call before cont there =>
      rw [here] at there
      cases there
      exact ⟨_, _, rfl⟩
  | callbackTransmits ep data before cont there ran =>
      rw [here] at there
      cases there
      exact ⟨_, _, rfl⟩
  | returns => contradiction
  | transmits | wakes | threadPosts | locks | unlocks | interrupts =>
      exact ⟨posting, made, here⟩
  | leaves _ there => rcases there with there | there <;> simp [here] at there
  | accepts _ _ there | refuses _ _ there | imports _ _ there | idles there
  | fails _ _ there | submits _ _ there | submitsIso _ _ there
  | misses _ _ there | cancels _ _ _ _ there | controlAnswers _ _ _ there
  | controlCalls _ _ there | controls _ _ _ there | answers _ _ _ there
  | takesAnswer _ _ _ there | fetches _ _ _ _ _ there | schedules _ _ there
  | overflows _ _ there | enters _ _ there | starts _ there | loses _ there
  | ends _ _ _ there | later _ _ _ _ there | collects _ _ _ _ there
  | skips _ _ _ _ there | completes _ _ _ _ _ there | breaks _ _ _ _ _ there
  | resets _ _ there | resetCalls _ _ there | resetEnds _ _ there
  | stops _ there => simp [here] at there

theorem step_givesIso (uncalled : s.calling label = none)
    (onwards : label.isCallbackReturn = false)
    (stepped : step dev s label = some s') :
    s'.phase.givesIso = s.phase.givesIso := by
  cases inside : s.phase.isCallback with
  | true =>
      cases here : s.phase with
      | callback posting made next =>
          obtain ⟨_, _, there⟩ := step_stays here onwards stepped
          rw [there]
          rfl
      | _ => simp [here, Phase.isCallback] at inside
  | false =>
      rw [Phase.givesIso_outside inside]
      apply Phase.givesIso_outside
      by_cases own : label.owner = some .server
      · cases (step_server own stepped).2 with
        | enters locks =>
            cases label with
            | server clock =>
                obtain ⟨next, here⟩ := State.serverMutex_receive locks
                simp [State.calling, here] at uncalled
            | _ => simp [Label.mutex, Label.owner] at locks own
        | returns back =>
            rw [onwards] at back
            contradiction
        | works _ _ _ same => exact same.trans inside
      · rw [(step_sameFor own stepped).1]
        exact inside

end

/-- What the isochronous IN callback that is running is going to give. -/
def Composite.giving {Statics : Type} (composite : Composite Statics) :
    List Byte :=
  if composite.server.phase.givesIso then composite.written else []

namespace Audio

/-- The recording, what is collected for the next reply and what the running
callback gives are the stream up to the sample the device is at. -/
structure Recorded (composite : Composite Statics) : Prop where
  alternate : composite.statics.streamingAlternate =
    (recordingOf composite.server.trace).alternate
  length : composite.server.phase.givesIso = true →
    composite.length = composite.written.length
  stream : (recordingOf composite.server.trace).intact = true →
    ∃ count, composite.statics.synth = advance^[count] silence ∧
      (recordingOf composite.server.trace).heard ++
          composite.server.gathered ++ composite.giving =
        pcm count silence

variable {composite next : Composite Statics} {label : Label}

theorem Recorded.extend (recorded : Recorded composite) {events : List Event}
    (alternate : next.statics.streamingAlternate =
      composite.statics.streamingAlternate)
    (synth : next.statics.synth = composite.statics.synth)
    (traced : next.server.trace = composite.server.trace ++ events)
    (uncalled : calledIn events = [])
    (length : next.server.phase.givesIso = true →
      next.length = next.written.length)
    (kept : Event.writeFailed ∉ events →
      isoHeardIn events ++ next.server.gathered ++ next.giving =
        composite.server.gathered ++ composite.giving) : Recorded next := by
  have same : (recordingOf next.server.trace).alternate =
      (recordingOf composite.server.trace).alternate := by
    rw [traced, recordingOf_append]
    exact note_alternate _ uncalled
  refine ⟨alternate.trans (recorded.alternate.trans same.symm), length, ?_⟩
  intro intact
  rw [traced, recordingOf_append] at intact ⊢
  obtain ⟨folded, written⟩ := note_uncalled _ uncalled intact
  rw [folded] at intact ⊢
  obtain ⟨count, at_sample, bytes⟩ := recorded.stream intact
  refine ⟨count, synth.trans at_sample, ?_⟩
  have kept := kept written
  rw [List.append_assoc] at kept bytes ⊢
  rw [← bytes, List.append_assoc, kept]

theorem Recorded.quiet (recorded : Recorded composite)
    (reachable : program.Reachable composite)
    (alternate : next.statics.streamingAlternate =
      composite.statics.streamingAlternate)
    (synth : next.statics.synth = composite.statics.synth)
    (written : next.written = composite.written)
    (length : next.length = composite.length)
    (uncalled : composite.server.calling label = none)
    (onwards : label.isCallbackReturn = false)
    (stepped : UsbipServer.step program.device composite.server label =
      some next.server) : Recorded next := by
  have quiet : isoCalls composite.server label = [] := by
    cases label with
    | callbackReturn => contradiction
    | _ => rfl
  obtain ⟨events, traced, kept⟩ :=
    step_gathers_quiet rfl reachable.server quiet stepped
  have gives := step_givesIso uncalled onwards stepped
  refine recorded.extend alternate synth traced ?_ ?_ ?_
  · have all := step_calledIn stepped
    rw [traced, calledIn_append, uncalled] at all
    exact List.append_cancel_left all
  · intro giving
    rw [gives] at giving
    rw [length, written]
    exact recorded.length giving
  · intro _
    rw [kept, Composite.giving, gives, written]
    rfl

theorem nextCall_data {urb : PendingUrb} {actual : List Nat}
    {packet : IsoPacket} {txBuffer : Buffer Cell} {written : List Byte}
    (fits : written.length ≤ isoMaxLength urb actual packet) :
    (nextCall urb actual packet txBuffer written written.length).data =
      written := by
  have made : (nextCall urb actual packet txBuffer written
    written.length).Made := nextCall_made fits
  rw [IsoCall.data, IsoCall.actual]
  simp only [nextCall, Nat.min_eq_left fits] at made ⊢
  exact made.written

theorem Recorded.given (recorded : Recorded composite) {s : State}
    (stepped : UsbipServer.step program.device composite.server
      (.callbackReturn composite.written composite.length) = some s) :
    (isoCalls composite.server (.callbackReturn composite.written
      composite.length)).flatMap IsoCall.data = composite.giving := by
  rw [Composite.giving]
  rcases isoCalls_cases composite.server (.callbackReturn composite.written
    composite.length) with quiet | ⟨made, urb, actual, packet, rest, back,
      written, length, here, label, noted⟩
  · rw [quiet, if_neg]
    · rfl
    · -- an isochronous callback would have been noted
      intro gives
      cases step_transition stepped with
      | returns _ _ made cont here =>
          cases cont with
          | isoIn => simp [isoCalls, here] at quiet
          | _ => simp [here, Phase.givesIso, Continuation.packing] at gives
  · obtain ⟨rfl, rfl⟩ := Label.callbackReturn.inj label
    have gives : composite.server.phase.givesIso = true := by
      simp [here, Phase.givesIso, Continuation.packing]
    cases step_transition stepped with
    | returns _ _ _ cont there fits =>
        rw [here] at there
        cases there
        rw [noted, if_pos gives, List.flatMap_singleton, recorded.length gives]
        exact nextCall_data fits

theorem Recorded.returned (recorded : Recorded composite)
    (reachable : program.Reachable composite) {s : State}
    (stepped : UsbipServer.step program.device composite.server
      (.callbackReturn composite.written composite.length) = some s) :
    Recorded { composite with server := s } := by
  obtain ⟨events, traced, grown⟩ :=
    step_gathers rfl reachable.server stepped
  have outside : s.phase.givesIso = false := by
    apply Phase.givesIso_outside
    cases (step_server rfl stepped).2 with
    | enters locks => simp [Label.mutex] at locks
    | returns _ _ _ outside => exact outside
    | works onwards => simp [Label.isCallbackReturn] at onwards
  refine recorded.extend rfl rfl traced ?_ ?_ ?_
  · have all := step_calledIn stepped
    rw [traced, calledIn_append] at all
    exact List.append_cancel_left all
  · intro gives
    rw [outside] at gives
    contradiction
  · intro written
    have grown := grown.resolve_left written
    rw [recorded.given stepped] at grown
    have ended : Composite.giving { composite with server := s } = [] := by
      rw [Composite.giving, outside]
      rfl
    rw [ended, List.append_nil]
    exact grown

theorem Recorded.plain (recorded : Recorded composite)
    {reaction : Reaction Statics} {s : State} {args : CallbackArgs}
    (waits : composite.giving = []) (gathered : composite.server.gathered = [])
    (idle : s.phase.packing = none)
    (traced : s.trace = composite.server.trace ++ [.callback args])
    (alternate : reaction.statics.streamingAlternate =
      ((recordingOf composite.server.trace).note (.callback args)).alternate)
    (selected : (recordingOf composite.server.trace).note (.callback args) =
        ⟨reaction.statics.streamingAlternate, [], true⟩ ∧
          reaction.statics.synth = silence ∨
      ((recordingOf composite.server.trace).note (.callback args)).heard =
          (recordingOf composite.server.trace).heard ∧
        ((recordingOf composite.server.trace).note (.callback args)).intact =
          (recordingOf composite.server.trace).intact ∧
        reaction.statics.synth = composite.statics.synth) :
    Recorded ⟨s, reaction.statics, reaction.transmits, reaction.written,
      reaction.length⟩ := by
  have noted : recordingOf s.trace =
      (recordingOf composite.server.trace).note (.callback args) := by
    rw [traced, recordingOf_append]
    rfl
  have outside : s.phase.givesIso = false := by
    cases here : s.phase with
    | callback posting made cont =>
        rw [here] at idle
        simpa [Phase.givesIso, Phase.packing] using idle
    | _ => rfl
  have nothing : Composite.giving (⟨s, reaction.statics, reaction.transmits,
      reaction.written, reaction.length⟩ : Composite Statics) = [] := by
    rw [Composite.giving, outside]
    rfl
  refine ⟨alternate.trans (by rw [noted]), ?_, ?_⟩
  · intro gives
    rw [outside] at gives
    contradiction
  · intro intact
    rw [nothing, State.gathered_idle idle, noted]
    rw [noted] at intact
    rcases selected with ⟨restarted, silent⟩ | ⟨heard, whole, synth⟩
    · exact ⟨0, silent, by rw [restarted]; rfl⟩
    · rw [whole] at intact
      obtain ⟨count, at_sample, bytes⟩ := recorded.stream intact
      rw [waits, gathered] at bytes
      exact ⟨count, synth.trans at_sample, by rw [heard]; exact bytes⟩

theorem Recorded.packet (recorded : Recorded composite) {s : State} {ep : Byte}
    {maxLength : Nat} (waits : composite.giving = [])
    (gathered : s.gathered = composite.server.gathered)
    (gives : s.phase.givesIso = true)
    (traced : s.trace = composite.server.trace ++
      [.callback (.isoIn ep maxLength)]) :
    Recorded ⟨s, (isoInData maxLength composite.statics).statics,
      (isoInData maxLength composite.statics).transmits,
      (isoInData maxLength composite.statics).written,
      (isoInData maxLength composite.statics).length⟩ := by
  rw [isoInData_eq]
  have noted : recordingOf s.trace = recordingOf composite.server.trace := by
    rw [traced, recordingOf_append]
    simp [Recording.note, Event.isoHeard]
  refine ⟨recorded.alternate.trans (by rw [noted]), fun _ => rfl, ?_⟩
  intro intact
  rw [noted] at intact ⊢
  obtain ⟨count, at_sample, bytes⟩ := recorded.stream intact
  rw [waits, List.append_nil] at bytes
  refine ⟨count + packetSamples maxLength, ?_, ?_⟩
  · rw [at_sample, Nat.add_comm, Function.iterate_add_apply]
  · rw [Composite.giving, if_pos gives, gathered, bytes, at_sample, pcm_add]

theorem Recorded.called (recorded : Recorded composite) {clock : Nat}
    {args : CallbackArgs} {s : State}
    (calling : composite.server.calling (.server clock) = some args)
    (stepped : UsbipServer.step program.device composite.server
      (.server clock) = some s) :
    Recorded ⟨s, (callback args composite.statics).statics,
      (callback args composite.statics).transmits,
      (callback args composite.statics).written,
      (callback args composite.statics).length⟩ := by
  simp only [State.calling] at calling
  split at calling
  next cont here =>
    obtain rfl := Option.some.inj calling
    obtain ⟨_, rfl⟩ := step_enters here stepped
    have gathered (none : cont.packing = none) :
        composite.server.gathered = [] :=
      State.gathered_idle (by rw [here]; exact none)
    have waits : composite.giving = [] := by
      rw [Composite.giving, here]
      rfl
    cases cont with
    | control request =>
        have statics := controlData_statics request.command.submit.setup
          composite.statics
        rw [recorded.alternate] at statics
        refine recorded.plain waits (gathered rfl) rfl rfl ?_ ?_
        · simp only [callbackArgs, callback, statics, Recording.note]
          split
          · rfl
          · exact recorded.alternate
        · simp only [callbackArgs, callback, statics, Recording.note]
          split
          · exact .inl ⟨rfl, rfl⟩
          · exact .inr ⟨rfl, rfl, rfl⟩
    | receive request | isoOut request packet rest =>
        exact recorded.plain waits (gathered rfl) rfl rfl recorded.alternate
          (.inr ⟨List.append_nil _, rfl, rfl⟩)
    | reset reason =>
        exact recorded.plain waits (gathered rfl) rfl rfl rfl
          (.inr ⟨rfl, rfl, rfl⟩)
    | isoIn urb actual packet rest back =>
        apply recorded.packet waits _ rfl rfl
        simp only [State.gathered, here]
        rfl
  · contradiction

theorem reachable_recorded (reachable : program.Reachable composite) :
    Recorded composite := by
  refine reachable.invariant (P := Recorded) ?_ ?_
  · exact ⟨rfl, fun gives => by contradiction, fun _ => ⟨0, rfl, rfl⟩⟩
  · intro before after reached recorded moves
    cases moves with
    | server label outside uncalled stepped =>
        refine recorded.quiet reached rfl rfl rfl rfl uncalled ?_ stepped
        cases label with
        | callbackReturn => simp [Label.isOutside] at outside
        | _ => rfl
    | called clock input args reaction calling stepped handled =>
        obtain rfl := Option.some.inj handled
        exact recorded.called calling stepped
    | transmits ep data rest left stepped =>
        exact recorded.quiet reached rfl rfl rfl rfl rfl rfl stepped
    | returns done stepped => exact recorded.returned reached stepped
    | works input next idle acts =>
        rcases main_works acts with ended | works | stops
        · contradiction
        · obtain rfl := Action.work.inj works
          exact recorded
        · contradiction
    | stops input next idle acts stepped =>
        rcases main_works acts with ended | works | stops
        · contradiction
        · contradiction
        · obtain rfl := Action.stop.inj stops
          exact recorded.quiet reached rfl rfl rfl rfl rfl rfl stepped
    | enters input next idle acts | exits input next idle acts
    | sends input ep data next idle acts =>
        rcases main_works acts with ended | works | stops <;> contradiction

end Audio

/-- What a host records from the audio device since it selected the alternate
setting, with what is on its way, is the sound from its beginning, sample by
sample: how the host cuts it into packets and transfers makes no difference. -/
theorem audioRecording {composite : Composite Statics}
    (reachable : program.Reachable composite)
    (intact : (recordingOf composite.server.trace).intact = true) :
    ∃ count,
      (recordingOf composite.server.trace).heard ++
          composite.server.gathered ++ composite.giving =
        pcm count silence ∧
      composite.statics.synth.sampleIndex.toNat = count % audioSampleRate ∧
      ∀ maxLength,
        (isoInData maxLength composite.statics).written.length ≤ maxLength := by
  obtain ⟨count, synth, bytes⟩ :=
    (Audio.reachable_recorded reachable).stream intact
  refine ⟨count, bytes, ?_, ?_⟩
  · rw [synth]
    exact sampleIndex_eq count
  · intro maxLength
    rw [isoInData_eq, length_pcm]
    exact packetSamples_fits maxLength

def audioIn : Command :=
  .submit ⟨⟨usbipCmdSubmit, 2, 0, 1, 1⟩,
    ⟨0, 8, 0, 2, 0, ⟨0, 0, 0, 0, 0, 0, 0, 0⟩⟩, [],
    [⟨0, 4, 0, 0⟩, ⟨4, 4, 0, 0⟩]⟩

/-- The host selects the alternate setting and records one transfer. -/
def audioLabels : List (ProgramLabel Unit) :=
  serverLabels (importLabels [controlIn 1 ⟨0x01, 11, 1, 0, 1, 0, 0, 0⟩ 0,
      audioIn] ++ [.server 0]) ++
    .callback :: serverLabels [.wait true, .server 0, .server 0] ++
    .callback :: serverLabels [.server 0, .server 0, .server 0, .server 0,
      .wait true, .server 0, .server 0, .server 0, .server 0, .wait false,
      .server 2000, .server 2000, .server 2000] ++
    .callback :: serverLabels [.server 2000] ++ [.callback]

def audioComposite : Composite Statics :=
  program.machine.after program.initial audioLabels

theorem audioComposite_reachable : program.Reachable audioComposite :=
  Machine.after_reaches program.machine program.initial audioLabels

theorem audioRecording_started :
    (recordingOf audioComposite.server.trace).heard.length = 8 ∧
      ∃ count,
        (recordingOf audioComposite.server.trace).heard ++
            audioComposite.server.gathered ++ audioComposite.giving =
          pcm count silence ∧
        audioComposite.statics.synth.sampleIndex.toNat =
          count % audioSampleRate ∧
        ∀ maxLength,
          (isoInData maxLength audioComposite.statics).written.length ≤
            maxLength :=
  ⟨by decide +kernel, audioRecording audioComposite_reachable
    (by decide +kernel)⟩

end UsbipServer
