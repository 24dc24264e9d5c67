import Logbook.Time.Date

namespace Logbook

def secondsPerDay : Int := 86400

def nanosPerSecond : Nat := 1000000000

def firstSecond : Int := secondsPerDay * (Date.mk (-262143) 1 1).toEpochDay

def lastSecond : Int := secondsPerDay * ((Date.mk 262142 12 31).toEpochDay + 1) - 1

/-- A second and a nanosecond count make an instant: the second lies in the years that are held, and
a count that has run over into a leap second stands on the last second of a minute. -/
def IsInstant (seconds : Int) (nanos : Nat) : Prop :=
  firstSecond ≤ seconds ∧ seconds ≤ lastSecond
    ∧ (nanos < nanosPerSecond ∨ (nanos < 2 * nanosPerSecond ∧ seconds % 60 = 59))

instance (seconds : Int) (nanos : Nat) : Decidable (IsInstant seconds nanos) :=
  inferInstanceAs (Decidable (_ ∧ _ ∧ (_ ∨ (_ ∧ _))))

/-- An instant: seconds since the start of 1970 and nanoseconds into the second. In a leap second the
nanoseconds go on from the second before it, from 10⁹ to 2·10⁹ - 1. -/
structure Instant where
  seconds : Int
  nanos : Nat
  isInstant : IsInstant seconds nanos

namespace Instant

theorem ext {t u : Instant} (hs : t.seconds = u.seconds) (hn : t.nanos = u.nanos) : t = u := by
  cases t; cases u; simp_all

instance : DecidableEq Instant := fun t u =>
  decidable_of_iff (t.seconds = u.seconds ∧ t.nanos = u.nanos)
    ⟨fun h => ext h.1 h.2, fun h => h ▸ ⟨rfl, rfl⟩⟩

/-- The instant with these counts, if they make one. -/
def of? (seconds : Int) (nanos : Nat) : Option Instant :=
  if h : IsInstant seconds nanos then some ⟨seconds, nanos, h⟩ else none

def isBefore (t u : Instant) : Bool :=
  t.seconds < u.seconds || (t.seconds == u.seconds && t.nanos < u.nanos)

def latest : Instant :=
  ⟨lastSecond, 2 * nanosPerSecond - 1, by decide⟩

def date (t : Instant) : Date :=
  Date.ofEpochDay (t.seconds / secondsPerDay)

/-- Seconds since midnight. -/
def secondOfDay (t : Instant) : Nat :=
  (t.seconds % secondsPerDay).toNat

def hour (t : Instant) : Nat :=
  t.secondOfDay / 3600

def minute (t : Instant) : Nat :=
  t.secondOfDay / 60 % 60

def second (t : Instant) : Nat :=
  t.secondOfDay % 60 + t.nanos / nanosPerSecond

/-- Nanoseconds into the second, the leap second being one of its own. -/
def subsecond (t : Instant) : Nat :=
  t.nanos % nanosPerSecond

/-- The same instant without what is below a microsecond. -/
def truncateToMicros (t : Instant) : Instant :=
  ⟨t.seconds, t.nanos / 1000 * 1000, by
    have h := t.isInstant
    simp only [IsInstant, nanosPerSecond] at h ⊢
    omega⟩

end Instant

end Logbook
