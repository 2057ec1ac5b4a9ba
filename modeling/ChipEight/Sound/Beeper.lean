import ChipEight.Log
import ChipEight.Number.Real64
import ChipEight.Sound.Tone

/-!
# The beeper

The beeper plays its tone through a mixer, which it starts when it is made and quits when it is shut
down. Where the beeper is disabled or the mixer refuses to start, it only remembers whether it was
told to play.

Nobody but the beeper starts the mixer, uses its channel or quits it. So no call fails once the mixer
has started, and what is kept here of the mixer is what the mixer would answer.

## Main definitions

- `Mixer`: the mixer: how it answers, whether it is started, whether its channel is busy.
- `MixerCall`: what a mixer is asked to do.
- `BeeperFault`: why no beeper is made.
- `Beeper`: the beeper.
- `Beeper.new`, `Beeper.play`, `Beeper.stop`, `Beeper.shutdown`: its life, with the calls it makes.
-/

namespace ChipEight

/-- The format that a mixer runs with. -/
structure MixerFormat where
  frequency : Datum
  size : Datum
  channels : Datum

/-- The format that a value reports by three others: the frequency, the size and the channels. -/
def MixerFormat.ofReport (d : Datum) : Except OperandFault MixerFormat := do
  match ← (Datum.list (← d.parts)).exactly 3 with
  | [frequency, size, channels] => return ⟨frequency, size, channels⟩
  | ds => throw (.tooFew 3 ds.length)

/-- A mixer as the beeper sees it. -/
structure Mixer where
  /-- The value by which it reports its format once started. -/
  report : Datum
  /-- The reason for which it refuses to start, if it does. -/
  failure : Option String
  /-- The volume of its channel; one is full. -/
  volume : Real64
  /-- Whether it is started. -/
  started : Bool := false
  /-- Whether its channel is sounding. -/
  busy : Bool := false

/-- What a mixer is asked to do. -/
inductive MixerCall where
  /-- Start. -/
  | init
  /-- Make a sound of samples. -/
  | sound (samples : List Int)
  /-- Give out the first channel. -/
  | channel
  /-- Loop the sound on the channel. -/
  | play
  /-- Silence the channel. -/
  | stop
  /-- Quit. -/
  | quit
  deriving DecidableEq, Repr

/-- The sample rate that a mixer is asked for. -/
def requestedRate : Int := 44100

/-- A call as a line of text. -/
def MixerCall.line : MixerCall → String
  | .init => "init buffer=512 channels=1 frequency=" ++ toString requestedRate ++ " size=-16"
  | .sound samples => "sound bytes=" ++ toString (sampleWidth * samples.length)
  | .channel => "channel 0"
  | .play => "play sound loops=-1"
  | .stop => "stop"
  | .quit => "quit"

/-- The mixer that answers as it was asked. -/
def Mixer.standard : Mixer where
  report := .list [.int requestedRate, .int (-16), .int 1]
  failure := none
  volume := .one

/-- Why no beeper is made. -/
inductive BeeperFault where
  /-- There is no wave for its tone, or none for all channels. -/
  | tone (e : ToneFault)
  /-- What the mixer reports is no format. -/
  | format (e : OperandFault)
  deriving DecidableEq, Repr

/-- The text of the complaint. -/
def BeeperFault.message : BeeperFault → String
  | .tone e => e.message
  | .format e => e.message

/-- The kind of the complaint. -/
def BeeperFault.kind : BeeperFault → FaultKind
  | .tone e => e.kind
  | .format e => e.kind

instance : IsFault BeeperFault := ⟨BeeperFault.kind, BeeperFault.message⟩

/-- A beeper. -/
structure Beeper where
  /-- Whether it sounds at all. -/
  enabled : Bool
  /-- Its frequency. -/
  tone : Datum
  /-- Whether it was told to play. -/
  playing : Bool
  /-- Whether it holds a sound and a channel to play it on. -/
  holding : Bool
  mixer : Mixer

namespace Beeper

/-- The frequency unless told otherwise. -/
def defaultTone : Datum := .int 440

/-- What making a beeper brings about. -/
structure Made where
  beeper : Beeper
  calls : List MixerCall
  log : Log

/-- The samples for a mixer of some format: the wave of a tone and, where there are several channels,
each sample of it once for every channel. -/
def samplesFor (lib : SampleLibrary) (tone : Datum) (format : MixerFormat) :
    Except BeeperFault (List Int) := do
  let wave ← (squareWave lib tone format.frequency defaultPeriods).mapError .tone
  if ← (format.channels.isAbove 1).mapError .format then
    (lib.repeatEach wave.samples format.channels).mapError .tone
  else return wave.samples

/-- The entry of the log that a mixer is ready. -/
def readyEntry (tone : Datum) (format : MixerFormat) : Except OperandFault Entry := do
  let magnitude := format.size.magnitude?
  if magnitude.isNone then throw (.operand "abs()" format.size.typeName)
  let numbers := [format.frequency, format.size, format.channels, tone].mapM Datum.truncated
  match numbers with
  | .ok [frequency, size, channels, tone] => return .mixerReady frequency size channels tone
  | .ok _ => return .unwritable .undefined
  | .error e => return .unwritable e

/-- A beeper that sounds through a started mixer. -/
def sounding (lib : SampleLibrary) (tone : Datum) (mixer : Mixer) : Except BeeperFault Made := do
  let format ← (MixerFormat.ofReport mixer.report).mapError .format
  let samples ← samplesFor lib tone format
  let entry ← (readyEntry tone format).mapError .format
  return ⟨⟨true, tone, false, true, { mixer with started := true }⟩,
    [.init, .sound samples, .channel], [entry]⟩

/-- A new beeper. Unless it is disabled it starts the mixer, gives it the samples, and takes a
channel. -/
def new (lib : SampleLibrary) (enabled : Bool) (tone : Datum) (mixer : Mixer) :
    Except BeeperFault Made :=
  if !enabled then .ok ⟨⟨false, tone, false, false, mixer⟩, [], [.beeperDisabled]⟩
  else
    match mixer.failure with
    | some reason => .ok ⟨⟨false, tone, false, false, mixer⟩, [.init], [.mixerFailed reason]⟩
    | none => sounding lib tone mixer

/-- The beeper told to play. The channel is told only if it is not busy. -/
def play (b : Beeper) : Beeper × List MixerCall :=
  let told := { b with playing := true }
  if b.holding && !b.mixer.busy then
    ({ told with mixer := { b.mixer with busy := true } }, [.play])
  else (told, [])

/-- The beeper told to stop. -/
def stop (b : Beeper) : Beeper × List MixerCall :=
  let told := { b with playing := false }
  if b.holding then ({ told with mixer := { b.mixer with busy := false } }, [.stop])
  else (told, [])

/-- The beeper shut down: silent, without a channel, the mixer quit if it was started. -/
def shutdown (b : Beeper) : Beeper × List MixerCall :=
  let (stopped, calls) := b.stop
  let quit := if b.mixer.started then [.quit] else []
  ({ stopped with holding := false, mixer := { stopped.mixer with started := false } },
    calls ++ quit)

/-- The channel having fallen silent by itself. -/
def lapse (b : Beeper) : Beeper :=
  { b with mixer := { b.mixer with busy := false } }

/-- The volume: that of the channel, or full without one. -/
def volume (b : Beeper) : Real64 :=
  if b.holding then b.mixer.volume else .one

/-- The volume in hundredths. -/
def volumePercent (b : Beeper) : Except OperandFault Int :=
  b.volume.hundredfold.rounded

/-- Whether a beeper is enabled, as it was asked for by a value. A mixer that refuses to start
disables it. -/
def enabledAs (b : Beeper) (asked : Datum) : Datum :=
  if asked.holds && !b.enabled then .flag false else asked

end Beeper

end ChipEight
