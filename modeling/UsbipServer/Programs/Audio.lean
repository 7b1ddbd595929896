import UsbipServer.Programs.Input

namespace UsbipServer.Audio

open Wire Library

/-! The audio input: its isochronous IN callback gives one pulse a second. -/

def audioSampleRate : Nat := 48000
def audioBytesPerSample : Nat := 2
def audioSamplesPerPacket : Nat := audioSampleRate / 1000
def audioPacketSize : Nat := audioSamplesPerPacket * audioBytesPerSample
def audioStreamingInterface : Byte := 1

def usbAudioConfiguration : List Byte :=
  [9, 2] ++ word 100 ++ [2, 1, 0, 0xC0, 0x32] ++
    [9, 4, 0, 0, 0, 1, 1, 0, 0] ++
    [9, 0x24, 1, 0, 1] ++ word 30 ++ [1, audioStreamingInterface] ++
    [12, 0x24, 2, 1] ++ word 0x0201 ++ [0, 1, 0, 0, 0, 0] ++
    [9, 0x24, 3, 2] ++ word 0x0101 ++ [0, 1, 0] ++
    [9, 4, audioStreamingInterface, 0, 0, 1, 2, 0, 0] ++
    [9, 4, audioStreamingInterface, 1, 1, 1, 2, 0, 0] ++
    [7, 0x24, 1, 2, 1] ++ word 0x0001 ++
    [11, 0x24, 2, 1, 1, 2, 16, 1] ++ word audioSampleRate ++ [0] ++
    [9, 5, 0x81, 5] ++ word audioPacketSize ++ [4, 0, 0] ++
    [7, 0x25, 1, 0, 0, 0, 0]

def audioDevice : UsbipDevice where
  deviceDesc := usbDeviceDescriptor 0x0004
  configDesc := usbAudioConfiguration
  langidDesc := langidDesc
  usbStrings := usbStrings "Virtual Audio Input"
  epDataCallback := false
  resetCallback := true
  isoInCallback := true

def twoPi : Float32 := 6.28318530718

def pulsePeriodSamples : UInt32 := 48000
def pulseLengthSamples : UInt32 := 19200
def pulseAttackSamples : UInt32 := 480
def peakAmplitude : Float32 := 0.5 * 32767.0

structure Synth where
  sampleIndex : UInt32
  phase : Float32

def silence : Synth := ⟨0, 0.0⟩

def toSample (value : Float32) : UInt16 :=
  (value * peakAmplitude).toInt16.toUInt16

def nextIndex (sampleIndex : UInt32) : UInt32 :=
  (sampleIndex + 1) % pulsePeriodSamples

def nextSample (synth : Synth) : UInt16 × Synth :=
  if synth.sampleIndex < pulseLengthSamples then
    let index := synth.sampleIndex.toFloat32
    let progress := index / pulseLengthSamples.toFloat32
    let timeS := index / 48000.0
    -- an exponential sweep with a warble on top
    let sweep := 220.0 * Float32.pow (1760.0 / 220.0) progress
    let frequency := sweep * (1.0 + 0.15 * Float32.sin (twoPi * 30.0 * timeS))
    let advanced := synth.phase + twoPi * frequency / 48000.0
    let phase := if advanced > twoPi then advanced - twoPi else advanced
    let fade := 1.0 - progress
    let envelope :=
      if synth.sampleIndex < pulseAttackSamples then
        fade * (index / pulseAttackSamples.toFloat32)
      else fade
    (toSample (envelope * Float32.sin phase),
      ⟨nextIndex synth.sampleIndex, phase⟩)
  else (toSample 0.0, ⟨nextIndex synth.sampleIndex, synth.phase⟩)

def sampleBytes (sample : UInt16) : List Byte :=
  [(sample &&& 0xff).toUInt8, (sample >>> 8).toUInt8]

def fill : Nat → Synth → List Byte × Synth
  | 0, synth => ([], synth)
  | samples + 1, synth =>
      let (sample, next) := nextSample synth
      let (rest, last) := fill samples next
      (sampleBytes sample ++ rest, last)

def packetSamples (maxLength : Nat) : Nat :=
  if audioSamplesPerPacket * audioBytesPerSample > maxLength then
    maxLength / audioBytesPerSample
  else audioSamplesPerPacket

structure Statics where
  streamingAlternate : Byte
  synth : Synth
  ended : Bool

def start : Statics := ⟨0, silence, false⟩

def isoInData (maxLength : Nat) (statics : Statics) : Reaction Statics :=
  let (written, synth) := fill (packetSamples maxLength) statics.synth
  ⟨{ statics with synth := synth }, [], written,
    packetSamples maxLength * audioBytesPerSample⟩

def usbRequestGetInterface : Byte := 10
def usbRequestSetInterface : Byte := 11

def controlData (setup : Setup) (statics : Statics) : Reaction Statics :=
  if setup.bmRequestType = 0x01 ∧ setup.bRequest = usbRequestSetInterface then
    if setup.wIndexLow = audioStreamingInterface ∧
        setup.wValueLow ≠ statics.streamingAlternate then
      ⟨⟨setup.wValueLow, silence, statics.ended⟩, [], [], 0⟩
    else ⟨statics, [], [], 0⟩
  else if setup.bmRequestType = 0x81 ∧
      setup.bRequest = usbRequestGetInterface then
    let current := if setup.wIndexLow = audioStreamingInterface then
      statics.streamingAlternate else 0
    ⟨statics, [(0, [current])], [], 0⟩
  else ⟨statics, [], [], 0⟩

def callback (args : CallbackArgs) (statics : Statics) : Reaction Statics :=
  match args with
  | .control setup _ => controlData setup statics
  | .isoIn _ maxLength => isoInData maxLength statics
  | .reset => ⟨{ statics with streamingAlternate := 0 }, [], [], 0⟩
  | .endpointData _ _ => ⟨statics, [], [], 0⟩

def main (interrupted : Bool) (statics : Statics) : Option (Action Statics) :=
  if statics.ended then some .ended
  else if interrupted then some (.stop { statics with ended := true })
  else some (.work statics)

def program : Program Statics Unit where
  device := audioDevice
  start := start
  callback _ args statics := some (callback args statics)
  main _ := main

end UsbipServer.Audio
