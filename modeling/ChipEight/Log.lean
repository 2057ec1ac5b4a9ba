import ChipEight.Datum.Operand
import ChipEight.Instr.Mnemonic

/-!
# The log

Every part of the emulator reports what it does as entries of a log. An entry says what happened;
its level, its source and its wording follow from that.

## Main definitions

- `Level`: how much an entry matters, least first.
- `Entry`: what can be reported.
- `Entry.level`, `Entry.source`, `Entry.message`: the three parts of a written entry.
- `Log.written`: the written entries of a log from a rank on; `Log.flaw?`: why it cannot be written.
-/

namespace ChipEight

/-- How much an entry matters. -/
inductive Level where
  | debug
  | info
  | warning
  | error
  /-- Beyond all entries: from this level on nothing is written. -/
  | critical
  deriving DecidableEq, Repr

namespace Level

/-- The rank of a level, on a scale with room between the levels. -/
def rank : Level → Int
  | .debug => 10
  | .info => 20
  | .warning => 30
  | .error => 40
  | .critical => 50

/-- The name of a level. -/
def name : Level → String
  | .debug => "DEBUG"
  | .info => "INFO"
  | .warning => "WARNING"
  | .error => "ERROR"
  | .critical => "CRITICAL"

end Level

/-- What can be reported. -/
inductive Entry where
  /-- A program was placed in memory. -/
  | loaded (size : Nat)
  /-- An instruction is about to be executed, fetched from this address. -/
  | traced (address : UInt16) (instr : Instr)
  /-- A word without a pattern was skipped. -/
  | skipped (word : UInt16) (address : UInt16)
  /-- A machine was made for a program file. -/
  | created (path : String) (traits : List String)
  /-- The beeper was told to sound or to stop. -/
  | soundSwitched (on : Bool) (frame : Nat)
  /-- The picture to draw on was made. -/
  | surfaceCreated (width height : Nat)
  /-- The beeper was made silent on request. -/
  | beeperDisabled
  /-- The beeper is silent because the mixer refused to start. -/
  | mixerFailed (reason : String)
  /-- The beeper is ready. -/
  | mixerReady (frequency size channels tone : Int)
  /-- A key of the keypad went down or up. -/
  | keyMoved (key : Fin 16) (down : Bool)
  /-- The window was opened. -/
  | windowOpened (width height scale : Nat) (rate budget : Int)
  /-- The main loop begins. -/
  | loopEntered (rate : Int)
  /-- The machine was paused or resumed. -/
  | pauseSwitched (paused : Bool)
  /-- The main loop was interrupted from outside. -/
  | interrupted
  /-- The window is being shut down. -/
  | shuttingDown
  /-- The command line starts the machine. -/
  | starting
  /-- A fault ended the run. -/
  | fatal
  /-- The command line is done. -/
  | exited
  /-- Something that cannot be worded. -/
  | unwritable (e : OperandFault)
  deriving DecidableEq

namespace Entry

/-- How much an entry matters. -/
def level : Entry → Level
  | .traced _ _ | .soundSwitched _ _ | .surfaceCreated _ _ | .keyMoved _ _ => .debug
  | .skipped _ _ | .mixerFailed _ => .warning
  | .fatal => .error
  | _ => .info

/-- The part of the emulator that reports an entry. -/
def source : Entry → String
  | .loaded _ | .traced _ _ | .skipped _ _ => "chip8emu.core.interpreter"
  | .created _ _ => "chip8emu.shell.services.machine_factory"
  | .soundSwitched _ _ => "chip8emu.shell.frame_driver"
  | .surfaceCreated _ _ => "chip8emu.shell.frame_renderer"
  | .beeperDisabled | .mixerFailed _ | .mixerReady _ _ _ _ => "chip8emu.platform.audio"
  | .keyMoved _ _ => "chip8emu.platform.input_handler"
  | .windowOpened _ _ _ _ _ | .loopEntered _ | .pauseSwitched _ | .interrupted | .shuttingDown =>
    "chip8emu.platform.window"
  | .starting | .fatal | .exited => "chip8emu.main"
  | .unwritable _ => ""

/-- The wording of an entry. -/
def message : Entry → String
  | .loaded size => "Loaded " ++ toString size ++ "-byte program at $200"
  | .traced address instr =>
    "$" ++ Instr.wordText address ++ "  " ++ Instr.wordText instr.encode ++ "  " ++ instr.mnemonic
  | .skipped word address =>
    "Unknown opcode " ++ Instr.wordText word ++ " at $" ++ Instr.wordText address ++ "; skipped"
  | .created path traits =>
    "Created interpreter for " ++ path ++ " (quirks: " ++
      (if traits.isEmpty then "none" else ", ".intercalate traits) ++ ")"
  | .soundSwitched on frame =>
    "Sound " ++ (if on then "on" else "off") ++ " (frame " ++ toString frame ++ ")"
  | .surfaceCreated width height =>
    "FrameRenderer: created " ++ toString width ++ "x" ++ toString height ++ " surface"
  | .beeperDisabled => "AudioDevice: disabled (silent mode)"
  | .mixerFailed reason => "AudioDevice: mixer init failed (" ++ reason ++ "); running silent"
  | .mixerReady frequency size channels tone =>
    "AudioDevice: mixer ready at " ++ toString frequency ++ " Hz, " ++ toString size.natAbs ++
      "-bit, " ++ toString channels ++ " ch (tone " ++ toString tone ++ " Hz)"
  | .keyMoved key down =>
    "Key " ++ Text.hex 1 key.val ++ (if down then " down" else " up")
  | .windowOpened width height scale rate budget =>
    "Window: " ++ toString width ++ "x" ++ toString height ++ " display (scale=" ++
      toString scale ++ ", " ++ toString rate ++ " Hz, " ++ toString budget ++
      " instructions/frame)"
  | .loopEntered rate => "Entering main loop (target " ++ toString rate ++ " fps)"
  | .pauseSwitched paused => if paused then "Paused" else "Resumed"
  | .interrupted => "Interrupted by user"
  | .shuttingDown => "Shutting down"
  | .starting => "Starting emulation ..."
  | .fatal => "Fatal error during emulation"
  | .exited => "Exited cleanly"
  | .unwritable e => e.message

/-- The reason why an entry cannot be worded. -/
def flaw? : Entry → Option OperandFault
  | .unwritable e => some e
  | _ => none

/-- An entry as a written line. -/
def line (e : Entry) : String :=
  "[" ++ e.level.name ++ "] " ++ e.source ++ ": " ++ e.message

end Entry

/-- The entries of a run in the order of their making. -/
abbrev Log := List Entry

namespace Log

/-- The entries of a log from a rank on. -/
def above (threshold : Int) (log : Log) : Log :=
  log.filter fun e => decide (threshold ≤ e.level.rank)

/-- The written entries of a log from a rank on. -/
def written (threshold : Int) (log : Log) : List String :=
  ((log.above threshold).filter fun e => e.flaw?.isNone).map Entry.line

/-- The reason why a log cannot be written from a rank on. -/
def flaw? (threshold : Int) (log : Log) : Option OperandFault :=
  (log.above threshold).findSome? Entry.flaw?

end Log

end ChipEight
