import LeanMiniViews.CheckedInt
import LeanMiniViews.Strtol

/-!
The date and the time of a build as two numbers of 16 bits, read from the texts the compiler gives
them as. An exception of the standard library is no result here.
-/

namespace LeanMiniViews

def toU16 (value : Int) : Int := value % 65536

/-- `std::string::substr` -/
def substr (text : List Char) (pos count : Nat) : Option (List Char) :=
  if pos ≤ text.length then some ((text.drop pos).take count) else none

/-- `std::stoi` -/
def stoi (text : List Char) : Option Int :=
  (Strtol.scan 10 text).bind fun found => CheckedInt.exact found.1

def sMonths : List (List Char) :=
  ["Jan".toList, "Feb".toList, "Mar".toList, "Apr".toList, "May".toList, "Jun".toList,
    "Jul".toList, "Aug".toList, "Sep".toList, "Oct".toList, "Nov".toList, "Dec".toList]

def getDateShort (sDate : List Char) : Option Int := do
  let sMonth ← substr sDate 0 3
  let month : Int := (sMonths.findIdx? fun name => sMonth == name).getD 0
  let day := toU16 (← stoi (← substr sDate 4 2))
  let year := toU16 (← stoi (← substr sDate 7 4))
  return toU16 (384 * (year - 2000) + 32 * month + day)

def getTimeShort (sTime : List Char) : Option Int := do
  let hour := toU16 (← stoi (← substr sTime 0 2))
  let minute := toU16 (← stoi (← substr sTime 3 2))
  let second := toU16 (← stoi (← substr sTime 6 2))
  return toU16 (3600 * hour + 60 * minute + second)

/-! What the compiler gives. -/

def daysIn (year month : Nat) : Nat :=
  if month = 1 then
    if year % 4 = 0 ∧ (year % 100 ≠ 0 ∨ year % 400 = 0) then 29 else 28
  else if month = 3 ∨ month = 5 ∨ month = 8 ∨ month = 10 then 30
  else 31

/-- Months are counted from 0. -/
structure BuildDate where
  year : Nat
  month : Nat
  day : Nat
  years : 2000 ≤ year ∧ year ≤ 2169
  months : month < 12
  days : 1 ≤ day ∧ day ≤ daysIn year month
deriving DecidableEq

structure BuildTime where
  hour : Nat
  minute : Nat
  second : Nat
  hours : hour < 24
  minutes : minute < 60
  seconds : second < 60
deriving DecidableEq

structure Moment where
  date : BuildDate
  time : BuildTime

namespace BuildDate

/-- `__DATE__` -/
def text (date : BuildDate) : List Char :=
  sMonths.getD date.month [] ++ ' ' :: Strtol.padded ' ' 2 date.day ++
    ' ' :: Strtol.padded ' ' 4 date.year

def number (date : BuildDate) : Int := 384 * (date.year - 2000) + 32 * date.month + date.day

def Before (earlier later : BuildDate) : Prop :=
  earlier.year < later.year ∨ earlier.year = later.year ∧
    (earlier.month < later.month ∨ earlier.month = later.month ∧ earlier.day < later.day)

end BuildDate

namespace BuildTime

/-- `__TIME__` -/
def text (time : BuildTime) : List Char :=
  Strtol.padded '0' 2 time.hour ++ ':' :: Strtol.padded '0' 2 time.minute ++
    ':' :: Strtol.padded '0' 2 time.second

def number (time : BuildTime) : Int := 3600 * time.hour + 60 * time.minute + time.second

def Before (earlier later : BuildTime) : Prop :=
  earlier.hour < later.hour ∨ earlier.hour = later.hour ∧
    (earlier.minute < later.minute ∨
      earlier.minute = later.minute ∧ earlier.second < later.second)

end BuildTime

namespace Moment

def Before (earlier later : Moment) : Prop :=
  earlier.date.Before later.date ∨ earlier.date = later.date ∧ earlier.time.Before later.time

def version (moment : Moment) : Option (Int × Int) := do
  return (← getDateShort moment.date.text, ← getTimeShort moment.time.text)

/-- The versions are there, and compare as pairs. -/
def VersionBefore (earlier later : Moment) : Prop :=
  ∃ first ∈ earlier.version, ∃ second ∈ later.version,
    first.1 < second.1 ∨ first.1 = second.1 ∧ first.2 < second.2

def Exact (moment : Moment) : Prop :=
  moment.version = some (moment.date.number, moment.time.number)

structure OrdersBuilds (earlier later : Moment) : Prop where
  exactEarlier : earlier.Exact
  exactLater : later.Exact
  ordered : earlier.Before later → earlier.VersionBefore later

end Moment

/-! Fields at fixed places. -/

theorem substr_between (front back : List Char) {text field : List Char} {pos count : Nat}
    (split : text = front ++ field ++ back) (starts : front.length = pos)
    (width : field.length = count) : substr text pos count = some field := by
  subst split starts width
  simp [substr]

theorem stoi_of_scan {text rest : List Char} {value : Nat}
    (scanned : Strtol.scan 10 text = some ((value : Int), rest)) (small : value ≤ 2147483647) :
    stoi text = some (value : Int) := by
  rw [stoi, scanned, Option.bind_some]
  exact CheckedInt.exact_of_inRange ⟨by omega, by omega⟩

theorem stoi_blank_padded (width : Nat) {value : Nat} (small : value ≤ 2147483647) :
    stoi (Strtol.padded ' ' width value) = some (value : Int) :=
  stoi_of_scan (Strtol.scan_ten_blank_padded rfl width value) small

theorem stoi_zero_padded (width : Nat) {value : Nat} (small : value ≤ 2147483647) :
    stoi (Strtol.padded '0' width value) = some (value : Int) :=
  stoi_of_scan (Strtol.scan_ten_zero_padded width value) small

theorem toU16_of_fits {value : Int} (nonneg : 0 ≤ value) (fits : value < 65536) :
    toU16 value = value :=
  Int.emod_eq_of_lt nonneg fits

theorem month_found {month : Nat} (valid : month < 12) :
    (sMonths.getD month []).length = 3 ∧
      (sMonths.findIdx? fun name => sMonths.getD month [] == name) = some month := by
  have all : ∀ month < 12, (sMonths.getD month []).length = 3 ∧
      (sMonths.findIdx? fun name => sMonths.getD month [] == name) = some month := by
    decide
  exact all month valid

namespace BuildDate

theorem day_le (date : BuildDate) : date.day ≤ 31 := by
  have bound : daysIn date.year date.month ≤ 31 := by
    unfold daysIn
    split
    · split <;> omega
    · split <;> omega
  exact date.days.2.trans bound

theorem number_bounds (date : BuildDate) : 0 ≤ date.number ∧ date.number < 65536 := by
  have years := date.years
  have months := date.months
  have days := date.day_le
  unfold number
  omega

/-- The date needs all but a few hundred of the numbers there are. -/
theorem getDateShort_text (date : BuildDate) : getDateShort date.text = some date.number := by
  have years := date.years
  have days := date.day_le
  obtain ⟨nameLength, found⟩ := month_found date.months
  have dayLength : (Strtol.padded ' ' 2 date.day).length = 2 :=
    Strtol.length_padded ' ' (by omega) (by omega)
  have yearLength : (Strtol.padded ' ' 4 date.year).length = 4 :=
    Strtol.length_padded ' ' (by omega) (by omega)
  have sMonth : substr date.text 0 3 = some (sMonths.getD date.month []) :=
    substr_between [] (' ' :: Strtol.padded ' ' 2 date.day ++ ' ' :: Strtol.padded ' ' 4 date.year)
      (by simp [text]) rfl nameLength
  have sDay : substr date.text 4 2 = some (Strtol.padded ' ' 2 date.day) :=
    substr_between (sMonths.getD date.month [] ++ [' ']) (' ' :: Strtol.padded ' ' 4 date.year)
      (by simp [text]) (by rw [List.length_append, nameLength]; rfl) dayLength
  have sYear : substr date.text 7 4 = some (Strtol.padded ' ' 4 date.year) :=
    substr_between (sMonths.getD date.month [] ++ ' ' :: Strtol.padded ' ' 2 date.day ++ [' ']) []
      (by simp [text])
      (by simp only [List.length_append, List.length_cons, nameLength, dayLength]; rfl) yearLength
  have number := date.number_bounds
  simp only [getDateShort, sMonth, sDay, sYear, Option.bind_eq_bind, Option.bind_some,
    stoi_blank_padded 2 (show date.day ≤ 2147483647 by omega),
    stoi_blank_padded 4 (show date.year ≤ 2147483647 by omega), found, Option.getD_some,
    Option.pure_def]
  rw [toU16_of_fits (show (0 : Int) ≤ date.year by omega) (by omega),
    toU16_of_fits (show (0 : Int) ≤ date.day by omega) (by omega)]
  exact congrArg some (toU16_of_fits number.1 number.2)

theorem before_iff (earlier later : BuildDate) :
    earlier.Before later ↔ earlier.number < later.number := by
  have earlierMonths := earlier.months
  have laterMonths := later.months
  have earlierDays := earlier.day_le
  have laterDays := later.day_le
  have earlierFirst := earlier.days.1
  have laterFirst := later.days.1
  unfold Before number
  omega

end BuildDate

namespace BuildTime

theorem number_bounds (time : BuildTime) : 0 ≤ time.number ∧ time.number < 86400 := by
  have hours := time.hours
  have minutes := time.minutes
  have seconds := time.seconds
  unfold number
  omega

theorem getTimeShort_text (time : BuildTime) :
    getTimeShort time.text = some (toU16 time.number) := by
  have hours := time.hours
  have minutes := time.minutes
  have seconds := time.seconds
  have width {value : Nat} (small : value < 100) : (Strtol.padded '0' 2 value).length = 2 :=
    Strtol.length_padded '0' (by omega) (by omega)
  have sHour : substr time.text 0 2 = some (Strtol.padded '0' 2 time.hour) :=
    substr_between [] (':' :: Strtol.padded '0' 2 time.minute ++
      ':' :: Strtol.padded '0' 2 time.second) (by simp [text]) rfl (width (by omega))
  have sMinute : substr time.text 3 2 = some (Strtol.padded '0' 2 time.minute) :=
    substr_between (Strtol.padded '0' 2 time.hour ++ [':']) (':' :: Strtol.padded '0' 2 time.second)
      (by simp [text]) (by simp [width (show time.hour < 100 by omega)]) (width (by omega))
  have sSecond : substr time.text 6 2 = some (Strtol.padded '0' 2 time.second) :=
    substr_between (Strtol.padded '0' 2 time.hour ++ ':' :: Strtol.padded '0' 2 time.minute ++
      [':']) [] (by simp [text])
      (by simp [width (show time.hour < 100 by omega), width (show time.minute < 100 by omega)])
      (width (by omega))
  simp only [getTimeShort, sHour, sMinute, sSecond, Option.bind_eq_bind, Option.bind_some,
    stoi_zero_padded 2 (show time.hour ≤ 2147483647 by omega),
    stoi_zero_padded 2 (show time.minute ≤ 2147483647 by omega),
    stoi_zero_padded 2 (show time.second ≤ 2147483647 by omega), Option.pure_def]
  rw [toU16_of_fits (show (0 : Int) ≤ time.hour by omega) (by omega),
    toU16_of_fits (show (0 : Int) ≤ time.minute by omega) (by omega),
    toU16_of_fits (show (0 : Int) ≤ time.second by omega) (by omega)]
  rfl

theorem before_iff (earlier later : BuildTime) :
    earlier.Before later ↔ earlier.number < later.number := by
  have earlierMinutes := earlier.minutes
  have laterMinutes := later.minutes
  have earlierSeconds := earlier.seconds
  have laterSeconds := later.seconds
  unfold Before number
  omega

end BuildTime

/-! Pairs of moments. -/

namespace Moment

theorem version_eq (moment : Moment) :
    moment.version = some (moment.date.number, toU16 moment.time.number) := by
  simp [version, moment.date.getDateShort_text, moment.time.getTimeShort_text]

theorem exact_iff (moment : Moment) : moment.Exact ↔ moment.time.number < 65536 := by
  obtain ⟨nonneg, -⟩ := moment.time.number_bounds
  rw [Exact, version_eq, Option.some.injEq, Prod.mk.injEq, toU16]
  constructor
  · rintro ⟨-, same⟩
    have small := Int.emod_lt_of_pos moment.time.number (show (0 : Int) < 65536 by decide)
    omega
  · intro small
    exact ⟨rfl, Int.emod_eq_of_lt nonneg small⟩

/-- The order alone. It is lost on one day only, from a moment to one that wraps around to a
smaller number. -/
theorem versionBefore_iff {earlier later : Moment} (before : earlier.Before later) :
    earlier.VersionBefore later ↔
      (earlier.date = later.date → earlier.time.number < 65536 → 65536 ≤ later.time.number →
        earlier.time.number < later.time.number - 65536) := by
  have earlierBounds := earlier.time.number_bounds
  have laterBounds := later.time.number_bounds
  simp only [VersionBefore, version_eq, Option.mem_def, Option.some.injEq, exists_eq_left', toU16]
  rcases before with dates | ⟨sameDate, times⟩
  · rw [BuildDate.before_iff] at dates
    refine iff_of_true (Or.inl dates) fun same => ?_
    rw [same] at dates
    exact absurd dates (lt_irrefl _)
  · rw [BuildTime.before_iff] at times
    simp only [sameDate, lt_irrefl, true_and, false_or, true_imp_iff]
    omega

theorem versionBefore_of_exact {earlier later : Moment} (before : earlier.Before later)
    (small : later.time.number < 65536) : earlier.VersionBefore later := by
  rw [versionBefore_iff before]
  omega

/-- Builds are numbered as documented exactly if they are made before 18:12:16. -/
theorem ordersBuilds_iff (earlier later : Moment) :
    OrdersBuilds earlier later ↔ earlier.time.number < 65536 ∧ later.time.number < 65536 := by
  constructor
  · intro orders
    exact ⟨(exact_iff earlier).mp orders.exactEarlier, (exact_iff later).mp orders.exactLater⟩
  · rintro ⟨small, smallLater⟩
    exact ⟨(exact_iff earlier).mpr small, (exact_iff later).mpr smallLater,
      fun before => versionBefore_of_exact before smallLater⟩

def newYear : BuildDate := ⟨2024, 0, 1, by decide, by decide, by decide⟩

/-- A build of 00:00:01 and one of 18:12:16. -/
theorem evening_before_night :
    ¬ ∀ earlier later : Moment, OrdersBuilds earlier later := by
  intro claim
  let earlier : Moment := ⟨newYear, 0, 0, 1, by decide, by decide, by decide⟩
  let later : Moment := ⟨newYear, 18, 12, 16, by decide, by decide, by decide⟩
  have before : earlier.Before later := Or.inr ⟨rfl, Or.inl (by decide)⟩
  have ordered := (versionBefore_iff before).mp ((claim earlier later).ordered before) rfl
  exact absurd ordered (by decide)

end Moment

end LeanMiniViews
