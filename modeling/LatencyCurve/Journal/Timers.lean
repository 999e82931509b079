import LatencyCurve.Journal.Session

/-!
# Timers

The phases of a run are timed. A timer runs from the start of its phase to the end; starting a phase
again starts its timer anew and lists the phase once more among the active ones, and its end takes
all of these off the list.
-/

namespace LatencyCurve

/-- How long a phase took. -/
structure Lap where
  /-- The milliseconds as text -/
  text : String
  /-- The milliseconds as a value -/
  value : Json

/-- The milliseconds of a number of nanoseconds. -/
def Lap.ofNanos (n : Nat) : Lap :=
  let millis := Float.ofNat n / 1000000
  ⟨fixedText 3 millis, .float millis⟩

/-- The timers of a run. -/
structure Timers where
  /-- The phases whose timer is running -/
  running : List String
  /-- The phases that have been started and not ended, in the order of their starts -/
  active : List String
deriving DecidableEq, Repr

namespace Timers

/-- No timer is running. -/
def none : Timers := ⟨[], []⟩

/-- Timers after a phase has been started. -/
def start (t : Timers) (phase : String) : Timers :=
  ⟨if phase ∈ t.running then t.running else t.running ++ [phase], t.active ++ [phase]⟩

/-- Timers after a phase has been ended, if its timer was running. -/
def finish? (t : Timers) (phase : String) : Option Timers :=
  if phase ∈ t.running then
    some ⟨t.running.filter (· ≠ phase), t.active.filter (· ≠ phase)⟩
  else .none

/-- Timers after a phase has been ended, whether its timer was running or not. -/
def finish (t : Timers) (phase : String) : Timers :=
  (t.finish? phase).getD t

/-- The entry about the start of a phase. -/
def startEntry (l : Logger) (phase : String) : Entry :=
  l.entry .trace (phase ++ " started")

/-- The entry about the end of a phase: how long it took, or that no timer was running. -/
def finishEntry (t : Timers) (l : Logger) (phase : String) (lap : Lap) : Entry :=
  if (t.finish? phase).isSome then
    (l.entry .debug (phase ++ " took " ++ lap.text ++ "ms"))
      |>.withField "phase" (.str phase)
      |>.withField "elapsed_ms" lap.value
  else l.entry .warn ("no timer running for phase '" ++ phase ++ "'")

end Timers

end LatencyCurve
