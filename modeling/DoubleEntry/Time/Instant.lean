/-
DoubleEntry/Time/Instant.lean

Instants and durations.  An instant counts seconds from the start of 1970
and nanoseconds within the second.  A second of up to two thousand million
nanoseconds holds a leap second at its end.

Instants lie between the years -262143 and 262142, durations within 2 ^ 63
milliseconds.  Arithmetic that leaves these bounds has no result.
-/
import DoubleEntry.Time.Calendar

namespace DoubleEntry

/-! ### Durations -/

/-- A signed length of time. -/
structure Duration where
  nanos : Int
  deriving DecidableEq, Repr

namespace Duration

/-- A number of seconds, within the bounds of durations. -/
def ofSeconds? (s : Int) : Option Duration :=
  if -9223372036854775 ≤ s ∧ s ≤ 9223372036854775 then some ⟨s * 1000000000⟩ else none

/-- A number of minutes. -/
def ofMinutes? (m : Int64) : Option Duration :=
  ofSeconds? (m.toInt * 60)

/-- A number of days. -/
def ofDays? (d : Int64) : Option Duration :=
  ofSeconds? (d.toInt * 86400)

/-- A number of milliseconds. -/
def ofMillis? (ms : Int64) : Option Duration :=
  if ms.toInt = -9223372036854775808 then none else some ⟨ms.toInt * 1000000⟩

/-- The duration in the other direction. -/
def neg (d : Duration) : Duration :=
  ⟨-d.nanos⟩

end Duration

/-! ### Instants -/

/-- A moment in time. -/
structure Instant where
  seconds : Int
  nanos : Nat
  deriving DecidableEq, Repr

namespace Instant

/-- Whether one instant comes before another. -/
def before (a b : Instant) : Bool :=
  a.seconds < b.seconds || (a.seconds = b.seconds && a.nanos < b.nanos)

/-- The first second of the year -262143. -/
def firstSecond : Int := -8334601228800

/-- The last second of the year 262142. -/
def lastSecond : Int := 8210266876799

/-- Whether an instant is within the bounds. -/
def inRange (t : Instant) : Bool :=
  firstSecond ≤ t.seconds && t.seconds ≤ lastSecond

/-- The instant a number of nanoseconds after the start of 1970. -/
def ofNanos (n : Int) : Instant :=
  { seconds := n / 1000000000, nanos := (n % 1000000000).toNat }

/-- The nanoseconds since the start of 1970. -/
def toNanos (t : Instant) : Int :=
  t.seconds * 1000000000 + t.nanos

/-- The milliseconds since the start of 1970, rounded down. -/
def toMillis (t : Instant) : Int :=
  t.toNanos / 1000000

/-- The instant a number of milliseconds after the start of 1970. -/
def ofMillis (ms : Int) : Instant :=
  ofNanos (ms * 1000000)

/-- The instant a duration later, without regard to bounds.  Within a leap
second time runs on; a step out of it takes no account of its length. -/
def later (t : Instant) (d : Duration) : Instant :=
  let part := d.nanos.tmod 1000000000
  if t.nanos < 1000000000 then ofNanos (t.toNanos + d.nanos)
  else if 1000000000 ≤ d.nanos || (0 < part && 2000000000 ≤ t.nanos + part) then
    ofNanos (t.toNanos - 1000000000 + d.nanos)
  else if d.nanos ≤ -1000000000 then ofNanos (t.toNanos + d.nanos)
  else { t with nanos := (t.nanos + part).toNat }

/-- The instant a duration later, if there is one. -/
def add? (t : Instant) (d : Duration) : Option Instant :=
  if (t.later d).inRange then some (t.later d) else none

end Instant

end DoubleEntry
