/-!
# Timers

Two countdown timers: the delay timer, which programs read, and the sound timer, which sounds the
beeper while it is positive. A program only ever stores bytes; a host may store any integer, and a
timer that is not positive stands still.

## Main definitions

- `Timers`: the two values.
- `Timers.tick`: both timers one step closer to zero.
-/

namespace ChipEight

/-- The delay timer and the sound timer. -/
@[ext] structure Timers where
  delay : Int
  sound : Int
  deriving DecidableEq, Repr

namespace Timers

/-- The timers at power-on. -/
def fresh : Timers :=
  ⟨0, 0⟩

/-- One step of a countdown that stops at zero. -/
def countDown (t : Int) : Int :=
  if 0 < t then t - 1 else t

/-- Both timers one step further. -/
def tick (t : Timers) : Timers :=
  ⟨countDown t.delay, countDown t.sound⟩

/-- Whether the beeper is to sound. -/
def sounding (t : Timers) : Bool :=
  decide (0 < t.sound)

end Timers

end ChipEight
