import Mathlib.Data.List.Iterate
import UsbipServer.Programs.Audio
import UsbipServer.Refine.Programs

namespace UsbipServer.Audio

open Wire Library

/-! The sound as one stream of samples, without packets. -/

def sampleOf (synth : Synth) : UInt16 := (nextSample synth).1

def advance (synth : Synth) : Synth := (nextSample synth).2

def pcm (count : Nat) (synth : Synth) : List Byte :=
  (List.iterate advance synth count).flatMap fun state =>
    sampleBytes (sampleOf state)

theorem pcm_add (before count : Nat) (synth : Synth) :
    pcm (before + count) synth =
      pcm before synth ++ pcm count (advance^[before] synth) := by
  rw [pcm, List.iterate_add, List.flatMap_append]
  rfl

theorem fill_eq (samples : Nat) (synth : Synth) :
    fill samples synth = (pcm samples synth, advance^[samples] synth) := by
  induction samples generalizing synth with
  | zero => rfl
  | succ samples induction =>
      simp only [fill, induction]
      rfl

theorem length_pcm (count : Nat) (synth : Synth) :
    (pcm count synth).length = count * audioBytesPerSample := by
  simp [pcm, List.length_flatMap, sampleBytes, audioBytesPerSample]

theorem packetSamples_fits (maxLength : Nat) :
    packetSamples maxLength * audioBytesPerSample ≤ maxLength := by
  unfold packetSamples
  split
  · exact Nat.div_mul_le_self _ _
  next fits => exact Nat.le_of_not_lt fits

theorem isoInData_eq (maxLength : Nat) (statics : Statics) :
    isoInData maxLength statics =
      ⟨{ statics with
          synth := advance^[packetSamples maxLength] statics.synth }, [],
        pcm (packetSamples maxLength) statics.synth,
        (pcm (packetSamples maxLength) statics.synth).length⟩ := by
  rw [isoInData, fill_eq, length_pcm]

theorem sampleIndex_eq (count : Nat) :
    (advance^[count] silence).sampleIndex.toNat = count % audioSampleRate := by
  induction count with
  | zero => rfl
  | succ count induction =>
      rw [Function.iterate_succ_apply']
      have next (synth : Synth) :
          (advance synth).sampleIndex = nextIndex synth.sampleIndex := by
        simp only [advance, nextSample]
        split <;> rfl
      rw [next, nextIndex, UInt32.toNat_mod, UInt32.toNat_add, induction]
      simp only [pulsePeriodSamples, audioSampleRate, UInt32.reduceToNat]
      omega

theorem main_works {interrupted : Bool} {statics : Statics}
    {action : Action Statics} (acts : main interrupted statics = some action) :
    action = .ended ∨ action = .work statics ∨
      action = .stop { statics with ended := true } := by
  unfold main at acts
  split at acts
  · exact .inl (Option.some.inj acts).symm
  · split at acts
    · exact .inr (.inr (Option.some.inj acts).symm)
    · exact .inr (.inl (Option.some.inj acts).symm)

def selects (setup : Setup) (alternate : Byte) : Bool :=
  setup.bmRequestType = 0x01 && setup.bRequest = usbRequestSetInterface &&
    setup.wIndexLow = audioStreamingInterface && setup.wValueLow ≠ alternate

theorem selects_iff {setup : Setup} {alternate : Byte} :
    selects setup alternate = true ↔
      (setup.bmRequestType = 0x01 ∧ setup.bRequest = usbRequestSetInterface) ∧
        setup.wIndexLow = audioStreamingInterface ∧
          setup.wValueLow ≠ alternate := by
  simp [selects, and_assoc]

theorem controlData_statics (setup : Setup) (statics : Statics) :
    (controlData setup statics).statics =
      if selects setup statics.streamingAlternate then
        ⟨setup.wValueLow, silence, statics.ended⟩
      else statics := by
  unfold controlData
  by_cases set : setup.bmRequestType = 0x01 ∧
      setup.bRequest = usbRequestSetInterface
  · rw [if_pos set]
    by_cases other : setup.wIndexLow = audioStreamingInterface ∧
        setup.wValueLow ≠ statics.streamingAlternate
    · rw [if_pos other, if_pos (selects_iff.mpr ⟨set, other⟩)]
    · rw [if_neg other, if_neg fun selected => other (selects_iff.mp selected).2]
  · rw [if_neg set, if_neg (c := selects _ _ = true)
      fun selected => set (selects_iff.mp selected).1]
    split <;> rfl

end UsbipServer.Audio
