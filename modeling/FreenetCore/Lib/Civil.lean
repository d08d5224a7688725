import Mathlib

/-!
UTC date-times and durations as `chrono` computes them.

A `DateTime` is the nanoseconds from the Unix epoch, in the proleptic
Gregorian calendar with no leap seconds; the calendar fields are read off it
with the civil-from-days conversion, and the `with_*` setters move it within
its day, hour or month, failing (`none`) on a field out of range. A
`Duration` (`chrono::Duration`) is signed nanoseconds. Dates are taken to lie
within `chrono`'s range of years.

Divisions here are `Int`'s, which floor for a positive divisor: a time
before the epoch still has its second, minute and hour in range.
-/

namespace Civil

/-- Nanoseconds in a second. -/
def nanosPerSec : Int := 1000000000

/-- A UTC date and time (`DateTime<Utc>`): nanoseconds from the epoch. -/
@[ext] structure DateTime where
  nanos : Int
  deriving DecidableEq

instance : Ord DateTime := ⟨fun a b => compare a.nanos b.nanos⟩

instance : LT DateTime := ⟨fun a b => a.nanos < b.nanos⟩

instance : LE DateTime := ⟨fun a b => a.nanos ≤ b.nanos⟩

instance (a b : DateTime) : Decidable (a < b) := inferInstanceAs (Decidable (a.nanos < b.nanos))

instance (a b : DateTime) : Decidable (a ≤ b) := inferInstanceAs (Decidable (a.nanos ≤ b.nanos))

@[simp] theorem DateTime.lt_def (a b : DateTime) : a < b ↔ a.nanos < b.nanos := Iff.rfl

@[simp] theorem DateTime.le_def (a b : DateTime) : a ≤ b ↔ a.nanos ≤ b.nanos := Iff.rfl

/-- A `chrono::Duration`: signed nanoseconds. -/
abbrev Duration := Int

/-- `Duration::minutes`, `hours` and `days`. -/
def Duration.minutes (n : Int) : Duration := n * 60 * nanosPerSec

def Duration.hours (n : Int) : Duration := n * 3600 * nanosPerSec

def Duration.days (n : Int) : Duration := n * 86400 * nanosPerSec

/-- `Duration::num_days`: whole days, rounded toward zero. -/
def Duration.numDays (d : Duration) : Int := d.tdiv (86400 * nanosPerSec)

namespace DateTime

/-- `timestamp`: whole seconds from the epoch. -/
def timestamp (t : DateTime) : Int := t.nanos / nanosPerSec

/-- `nanosecond`. -/
def nanosecond (t : DateTime) : Nat := (t.nanos % nanosPerSec).toNat

/-- `second`. -/
def second (t : DateTime) : Nat := (t.timestamp % 60).toNat

/-- `minute`. -/
def minute (t : DateTime) : Nat := (t.timestamp / 60 % 60).toNat

/-- `hour`. -/
def hour (t : DateTime) : Nat := (t.timestamp / 3600 % 24).toNat

/-- The days from the epoch to the time's date. -/
def daysFromEpoch (t : DateTime) : Int := t.timestamp / 86400

instance : HAdd DateTime Duration DateTime := ⟨fun t d => ⟨t.nanos + d⟩⟩

instance : HSub DateTime Duration DateTime := ⟨fun t d => ⟨t.nanos - d⟩⟩

/-- `DateTime - DateTime`. -/
def diff (t u : DateTime) : Duration := t.nanos - u.nanos

@[simp] theorem nanos_add (t : DateTime) (d : Duration) : (t + d).nanos = t.nanos + d := rfl

@[simp] theorem nanos_sub (t : DateTime) (d : Duration) : (t - d).nanos = t.nanos - d := rfl

end DateTime

/-- The date of a day from the epoch: year, month and day of the month
(the civil-from-days conversion). -/
def civilFromDays (z : Int) : Int × Nat × Nat :=
  let z := z + 719468
  let era := z / 146097
  let doe := z - era * 146097
  let yoe := (doe - doe / 1460 + doe / 36524 - doe / 146096) / 365
  let y := yoe + era * 400
  let doy := doe - (365 * yoe + yoe / 4 - yoe / 100)
  let mp := (5 * doy + 2) / 153
  let d := doy - (153 * mp + 2) / 5 + 1
  let m := if mp < 10 then mp + 3 else mp - 9
  (if m ≤ 2 then y + 1 else y, m.toNat, d.toNat)

/-- The day from the epoch of a date (the days-from-civil conversion). -/
def daysFromCivil (y : Int) (m d : Nat) : Int :=
  let y := if m ≤ 2 then y - 1 else y
  let era := y / 400
  let yoe := y - era * 400
  let mp : Int := if 2 < m then (m : Int) - 3 else (m : Int) + 9
  let doy := (153 * mp + 2) / 5 + (d : Int) - 1
  let doe := yoe * 365 + yoe / 4 - yoe / 100 + doy
  era * 146097 + doe - 719468

/-- Whether a year of the proleptic Gregorian calendar is a leap year. -/
def isLeapYear (y : Int) : Bool := y % 4 = 0 && (y % 100 ≠ 0 || y % 400 = 0)

/-- The days of a month. -/
def daysInMonth (y : Int) (m : Nat) : Nat :=
  match m with
  | 2 => if isLeapYear y then 29 else 28
  | 4 | 6 | 9 | 11 => 30
  | _ => 31

namespace DateTime

/-- `year`. -/
def year (t : DateTime) : Int := (civilFromDays t.daysFromEpoch).1

/-- `month`. -/
def month (t : DateTime) : Nat := (civilFromDays t.daysFromEpoch).2.1

/-- `day`: the day of the month. -/
def day (t : DateTime) : Nat := (civilFromDays t.daysFromEpoch).2.2

/-- `with_second`. -/
def withSecond (t : DateTime) (s : Nat) : Option DateTime :=
  if s < 60 then some ⟨t.nanos + ((s : Int) - t.second) * nanosPerSec⟩ else none

/-- `with_minute`. -/
def withMinute (t : DateTime) (m : Nat) : Option DateTime :=
  if m < 60 then some ⟨t.nanos + ((m : Int) - t.minute) * 60 * nanosPerSec⟩ else none

/-- `with_hour`. -/
def withHour (t : DateTime) (h : Nat) : Option DateTime :=
  if h < 24 then some ⟨t.nanos + ((h : Int) - t.hour) * 3600 * nanosPerSec⟩ else none

/-- `with_day`: the same time on another day of the month. -/
def withDay (t : DateTime) (d : Nat) : Option DateTime :=
  if 1 ≤ d ∧ d ≤ daysInMonth t.year t.month then
    some ⟨t.nanos + ((d : Int) - t.day) * 86400 * nanosPerSec⟩
  else none

/-- `trunc_subsecs(0)`. -/
def truncSubsecs (t : DateTime) : DateTime := ⟨t.nanos - t.nanosecond⟩

/-- `NaiveDate::from_ymd_opt(y, m, d)` at midnight, as a UTC time. -/
def ofYmd (y : Int) (m d : Nat) : Option DateTime :=
  if 1 ≤ m ∧ m ≤ 12 ∧ 1 ≤ d ∧ d ≤ daysInMonth y m then
    some ⟨daysFromCivil y m d * 86400 * nanosPerSec⟩
  else none

/-- At the start of a second, minute or hour: the fields below are zero
exactly when the time is a multiple of the unit. -/
theorem startOfHour_iff (t : DateTime) :
    (t.nanosecond = 0 ∧ t.second = 0 ∧ t.minute = 0) ↔ t.nanos % (3600 * nanosPerSec) = 0 := by
  simp only [nanosecond, second, minute, timestamp, nanosPerSec]
  omega

/-- Setting the second and the minute to zero and dropping the fraction
gives the start of the hour. -/
theorem truncSubsecs_withMinute_withSecond {t u v : DateTime} (hu : t.withSecond 0 = some u)
    (hv : u.withMinute 0 = some v) : v.truncSubsecs.nanos = t.nanos - t.nanos % (3600 * nanosPerSec) := by
  simp only [withSecond, withMinute, Nat.ofNat_pos, if_true, Option.some.injEq] at hu hv
  subst hu hv
  simp only [truncSubsecs, nanosecond, minute, second, timestamp, nanosPerSec]
  omega

end DateTime

end Civil
