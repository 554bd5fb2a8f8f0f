import Deliberation.Time.Calendar

/-!
# Instants

An `Instant` is a count of seconds from the start of 1970 in coordinated universal time and a count
of nanoseconds. A nanosecond count of a thousand million or more lies in a leap second, which may
follow any second. The leap seconds that there are end a minute.
-/

namespace Deliberation

/-- A point in time. -/
structure Instant where
  seconds : Int
  nanoseconds : Nat
  deriving DecidableEq, Inhabited

namespace Instant

/-- The start of 1970. -/
def epoch : Instant := { seconds := 0, nanoseconds := 0 }

/-- The seconds of a day. -/
def daySeconds : Int := 86400

/-- The nanoseconds of a second. -/
def secondNanoseconds : Nat := 1000000000

/-- The first day of the supported range, the first of January of the year -262143. -/
def firstDay : Int := Date.toDays { year := -262143, month := 1, day := 1 }

/-- The last day of the supported range, the 31st of December of the year 262142. -/
def lastDay : Int := Date.toDays { year := 262142, month := 12, day := 31 }

/-- The day of an instant, counted from 1970. -/
def day (instant : Instant) : Int := instant.seconds.fdiv daySeconds

/-- The second of its day. -/
def secondOfDay (instant : Instant) : Nat := (instant.seconds - instant.day * daySeconds).toNat

/-- Whether an instant is supported: its day is in range, and its nanoseconds are less than two
seconds. -/
def IsValid (instant : Instant) : Prop :=
  firstDay ≤ instant.day ∧ instant.day ≤ lastDay ∧ instant.nanoseconds < 2 * secondNanoseconds

instance (instant : Instant) : Decidable instant.IsValid := inferInstanceAs (Decidable (_ ∧ _))

/-- Whether an instant that lies in a leap second lies in one that ends a minute. -/
def IsSettled (instant : Instant) : Prop :=
  secondNanoseconds ≤ instant.nanoseconds → instant.secondOfDay % 60 = 59

instance (instant : Instant) : Decidable instant.IsSettled := inferInstanceAs (Decidable (_ → _))

end Instant

end Deliberation
