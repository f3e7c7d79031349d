import MidiSequencer.Call

/-! # The descriptor and the clock

The surroundings of a client: a clock that goes on with each reading and with time slept, and the
one descriptor. A poll sees whether the descriptor is ready now. A suspending wait sees what its
reactor last learned, and learns about a change when it has nothing ready. A poll does not wait for
a descriptor that is gone.
-/
namespace MidiSequencer

structure Line where
  clock : Instant := 0
  readable : Bool := false
  writable : Bool := true
  /-- The connection that had the descriptor was closed. -/
  gone : Bool := false
  /-- Something changed since the reactor last looked. -/
  changed : Bool := true
  readReady : Bool := false
  writeReady : Bool := false
  deriving DecidableEq

namespace Line

def reading : Duration := 1000

def isReady (l : Line) : Interest → Bool
  | .read => l.readable || l.gone
  | .write => l.writable || l.gone

def wake (l : Line) : Line :=
  { l with readable := true, changed := true }

def now (l : Line) : Instant × Line :=
  (l.clock, { l with clock := l.clock + reading })

def close (l : Line) : Line := { l with gone := true }

/-- A poll that is not ready sleeps for the whole time it was given. -/
def poll (l : Line) (interest : Interest) (milliseconds : Int) : PollOutcome × Line :=
  if l.isReady interest then (.ready, l)
  else (.notReady, { l with clock := l.clock + milliseconds.toNat * 1000000 })

/-- Learns about a change, if there was one. -/
def look (l : Line) : Line :=
  if l.changed then
    { l with changed := false
             readReady := l.readReady || l.readable
             writeReady := l.writeReady || l.writable }
  else l

def seenReady (l : Line) : Interest → Bool
  | .read => l.readReady
  | .write => l.writeReady

/-- A suspending wait that does not become ready ends at its limit. -/
def suspend (l : Line) (interest : Interest) (limit : Option Instant) : Bool × Line :=
  if l.seenReady interest then (true, l)
  else if l.look.seenReady interest then (true, l.look)
  else (false, { l.look with clock := max l.clock (limit.getD l.clock) })

def clear (l : Line) : Interest → Line
  | .read => { l with readReady := false }
  | .write => { l with writeReady := false }

def pause (l : Line) (milliseconds : Nat) : Line :=
  { l with clock := l.clock + milliseconds * 1000000 }

end Line

end MidiSequencer
