import Mathlib.Algebra.Order.Field.Basic
import Mathlib.Algebra.Order.Field.Rat
import Mathlib.Data.List.Lex
import Mathlib.Data.Nat.Log
import Mathlib.Tactic.IntervalCases
import Mathlib.Tactic.Linarith
import Mathlib.Tactic.Positivity
import Mathlib.Tactic.Ring

/-!
# UTC instants on the proleptic Gregorian calendar

Python's `datetime` with `tzinfo = UTC`: seven bounded fields, compared lexicographically, and moved
along the time line through the *proleptic ordinal* (day 1 is the first of January of year 1). The
fields carry their bounds, so a value outside the calendar cannot be built; an addition that would
leave it has no result.

## Two orders

Comparison looks at the fields, arithmetic at the ordinal. They agree because the ordinal is
strictly monotone in `(year, month, day)`, and `toMicros_le_iff` is the one place where this is
used: it says that `a ≤ b` exactly when `a` has no more microseconds behind it than `b`.

## Durations as floats

`timedelta.total_seconds` divides an exact count of microseconds by `10 ** 6` in binary floating
point. `floatSeconds` is that division: the quotient rounded to 53 significant bits, ties to even.
Comparing it with a whole number of seconds can differ from comparing the counts only by rounding
*up* to that number, and below `2 ^ 33` seconds it never does.
-/

namespace ReqSys

/-! ## Days and months -/

def isLeap (y : ℕ) : Bool := decide (y % 4 = 0 ∧ (y % 100 ≠ 0 ∨ y % 400 = 0))

def daysInMonth (leap : Bool) : ℕ → ℕ
  | 1 => 31 | 2 => 28 + leap.toNat | 3 => 31 | 4 => 30 | 5 => 31 | 6 => 30
  | 7 => 31 | 8 => 31 | 9 => 30 | 10 => 31 | 11 => 30 | 12 => 31
  | _ => 0

/-- The days of the year before the first of a month. -/
def daysBeforeMonth (leap : Bool) : ℕ → ℕ
  | 1 => 0 | 2 => 31 | 3 => 59 + leap.toNat | 4 => 90 + leap.toNat | 5 => 120 + leap.toNat
  | 6 => 151 + leap.toNat | 7 => 181 + leap.toNat | 8 => 212 + leap.toNat | 9 => 243 + leap.toNat
  | 10 => 273 + leap.toNat | 11 => 304 + leap.toNat | 12 => 334 + leap.toNat
  | _ => 0

/-- The days before the first of January of a year. -/
def daysBeforeYear (y : ℕ) : ℕ := (y - 1) * 365 + (y - 1) / 4 - (y - 1) / 100 + (y - 1) / 400

theorem daysBeforeMonth_add_le (leap : Bool) {m m' : ℕ} (h1 : 1 ≤ m) (h : m < m')
    (h12 : m' ≤ 12) : daysBeforeMonth leap m + daysInMonth leap m ≤ daysBeforeMonth leap m' := by
  have hm : m ≤ 11 := by omega
  cases leap <;> interval_cases m <;> interval_cases m' <;> decide

theorem daysBeforeMonth_add_le_year (leap : Bool) {m : ℕ} (h1 : 1 ≤ m) (h12 : m ≤ 12) :
    daysBeforeMonth leap m + daysInMonth leap m ≤ 365 + leap.toNat := by
  cases leap <;> interval_cases m <;> decide

theorem daysBeforeYear_succ {y : ℕ} (hy : 1 ≤ y) :
    daysBeforeYear (y + 1) = daysBeforeYear y + 365 + (isLeap y).toNat := by
  obtain ⟨z, rfl⟩ : ∃ z, y = z + 1 := ⟨y - 1, by omega⟩
  have hsub : z / 100 ≤ z / 4 := Nat.div_le_div_left (by decide) (by decide)
  simp only [daysBeforeYear, isLeap, Nat.add_sub_cancel, Nat.succ_div, ne_eq,
    ← Nat.dvd_iff_mod_eq_zero]
  by_cases h4 : 4 ∣ z + 1
  · by_cases h100 : 100 ∣ z + 1
    · by_cases h400 : 400 ∣ z + 1
      · simp only [h4, h100, h400, if_true, not_true, or_true, and_true, decide_true,
          Bool.toNat_true]
        omega
      · simp only [h4, h100, h400, if_true, if_false, not_true, or_self, and_false, decide_false,
          Bool.toNat_false]
        omega
    · have h400 : ¬400 ∣ z + 1 := fun h ↦ h100 (Dvd.dvd.trans (by decide) h)
      simp only [h4, h100, h400, if_true, if_false, not_false_iff, true_or, and_true, decide_true,
        Bool.toNat_true]
      omega
  · have h100 : ¬100 ∣ z + 1 := fun h ↦ h4 (Dvd.dvd.trans (by decide) h)
    have h400 : ¬400 ∣ z + 1 := fun h ↦ h4 (Dvd.dvd.trans (by decide) h)
    simp only [h4, h100, h400, if_false, false_and, decide_false, Bool.toNat_false]
    omega

theorem daysBeforeYear_add_le {y y' : ℕ} (hy : 1 ≤ y) (h : y < y') :
    daysBeforeYear y + 365 + (isLeap y).toNat ≤ daysBeforeYear y' := by
  rw [← daysBeforeYear_succ hy]
  induction y', h using Nat.le_induction with
  | base => exact le_rfl
  | succ y' hle ih =>
    have hstep := daysBeforeYear_succ (y := y') (by omega)
    omega

theorem daysBeforeYear_mono {y y' : ℕ} (hy : 1 ≤ y) (h : y ≤ y') :
    daysBeforeYear y ≤ daysBeforeYear y' := by
  rcases Nat.eq_or_lt_of_le h with rfl | hlt
  · exact le_rfl
  · have := daysBeforeYear_add_le hy hlt
    omega

/-! ## From a day number to a date -/

/-- The month and the day of the `n`-th day of a year, counting from zero. -/
def monthDay (leap : Bool) (n : ℕ) : ℕ × ℕ :=
  let m := (n + 50) / 32
  if n < daysBeforeMonth leap m then (m - 1, n - daysBeforeMonth leap (m - 1) + 1)
  else (m, n - daysBeforeMonth leap m + 1)

theorem monthDay_spec : ∀ (leap : Bool) (n : ℕ), n < 365 + leap.toNat →
    (1 ≤ (monthDay leap n).1 ∧ (monthDay leap n).1 ≤ 12)
      ∧ (1 ≤ (monthDay leap n).2 ∧ (monthDay leap n).2 ≤ daysInMonth leap (monthDay leap n).1)
      ∧ daysBeforeMonth leap (monthDay leap n).1 + (monthDay leap n).2 = n + 1 := by
  decide +kernel

/-- The year of a day number and the day within it. -/
def yearDay (n : ℕ) : ℕ × ℕ :=
  let n400 := n / 146097
  let r400 := n % 146097
  let n100 := r400 / 36524
  let r100 := r400 % 36524
  let n4 := r100 / 1461
  let r4 := r100 % 1461
  let n1 := r4 / 365
  let year := n400 * 400 + 1 + n100 * 100 + n4 * 4 + n1
  if n1 = 4 ∨ n100 = 4 then (year - 1, 365) else (year, r4 % 365)

/-- The days before a year, by its place in the cycles of 400, 100 and 4 years. -/
private theorem daysBeforeYear_cycles {a b c d : ℕ} (hb : b ≤ 3) (hc : c ≤ 24) (hd : d ≤ 3) :
    daysBeforeYear (a * 400 + 1 + b * 100 + c * 4 + d)
      = a * 146097 + b * 36524 + c * 1461 + d * 365 := by
  have h1 : a * 400 + 1 + b * 100 + c * 4 + d - 1 = a * 400 + b * 100 + c * 4 + d := by omega
  have h4 : (a * 400 + b * 100 + c * 4 + d) / 4 = a * 100 + b * 25 + c := by omega
  have h100 : (a * 400 + b * 100 + c * 4 + d) / 100 = a * 4 + b := by omega
  have h400 : (a * 400 + b * 100 + c * 4 + d) / 400 = a := by omega
  rw [daysBeforeYear, h1, h4, h100, h400]
  omega

private theorem isLeap_cycles {a b c : ℕ} (h : c ≤ 23 ∨ b = 3 ∧ c = 24) :
    isLeap (a * 400 + 1 + b * 100 + c * 4 + 3) = true := by
  rw [isLeap, decide_eq_true_iff]
  omega

theorem yearDay_spec (n : ℕ) : 1 ≤ (yearDay n).1
    ∧ (yearDay n).2 < 365 + (isLeap (yearDay n).1).toNat
    ∧ daysBeforeYear (yearDay n).1 + (yearDay n).2 = n := by
  rw [yearDay]
  set a := n / 146097 with ha
  set b := n % 146097 / 36524 with hb
  set c := n % 146097 % 36524 / 1461 with hc
  set d := n % 146097 % 36524 % 1461 / 365 with hd
  by_cases h100 : b = 4
  · -- the last day of a cycle of 400 years
    have hyear : a * 400 + 1 + b * 100 + c * 4 + d - 1 = a * 400 + 1 + 3 * 100 + 24 * 4 + 3 := by
      omega
    rw [if_pos (Or.inr h100), hyear, isLeap_cycles (Or.inr ⟨rfl, rfl⟩),
      daysBeforeYear_cycles (by decide) (by decide) (by decide)]
    refine ⟨by omega, Nat.lt_succ_self 365, ?_⟩
    omega
  by_cases h1 : d = 4
  · -- the last day of a cycle of 4 years
    have hyear : a * 400 + 1 + b * 100 + c * 4 + d - 1 = a * 400 + 1 + b * 100 + c * 4 + 3 := by
      omega
    rw [if_pos (Or.inl h1), hyear, isLeap_cycles (Or.inl (by omega)),
      daysBeforeYear_cycles (by omega) (by omega) (by decide)]
    refine ⟨by omega, Nat.lt_succ_self 365, ?_⟩
    omega
  · rw [if_neg (not_or.mpr ⟨h1, h100⟩), daysBeforeYear_cycles (by omega) (by omega) (by omega)]
    refine ⟨by omega, ?_, by omega⟩
    have := Nat.mod_lt (n % 146097 % 36524 % 1461) (show 365 > 0 by decide)
    omega

/-! ## Float division -/

/-- The integer nearest to `a / b`, ties to even. -/
def roundHalfEven (a b : ℕ) : ℕ :=
  if 2 * (a % b) < b then a / b
  else if b < 2 * (a % b) then a / b + 1
  else a / b + a / b % 2

theorem le_roundHalfEven {a b n : ℕ} (hb : 0 < b) (h : n * b ≤ a) : n ≤ roundHalfEven a b := by
  have hq : n ≤ a / b := (Nat.le_div_iff_mul_le hb).mpr h
  rw [roundHalfEven]
  split
  · exact hq
  · split <;> omega

theorem roundHalfEven_lt {a b n : ℕ} (hb : 0 < b) (h : 2 * a + b < 2 * (n * b)) :
    roundHalfEven a b < n := by
  have hq : a / b < n := by
    rw [Nat.div_lt_iff_lt_mul hb]
    omega
  rw [roundHalfEven]
  split
  · exact hq
  · -- the remainder is at least half of `b`, so the quotient is below `n - 1`
    have hdiv := Nat.div_add_mod a b
    have hstep : a / b + 1 < n := by
      by_contra hge
      have hn : n = a / b + 1 := by omega
      have hmul : n * b = b * (a / b) + b := by rw [hn, Nat.add_mul, Nat.one_mul, Nat.mul_comm]
      omega
    split <;> omega

/-- The number of binary places kept by a 53-bit quotient `d / 10 ^ 6`. -/
def floatPlaces (d : ℕ) : ℕ := 72 - Nat.log2 (d * 2 ^ 20 / 10 ^ 6)

/-- `d / 10 ** 6` in binary floating point: 53 significant bits, ties to even. -/
def floatSeconds (d : ℕ) : ℚ :=
  roundHalfEven (d * 2 ^ floatPlaces d) (10 ^ 6) / 2 ^ floatPlaces d

theorem le_floatSeconds {d n : ℕ} (h : n * 10 ^ 6 ≤ d) : (n : ℚ) ≤ floatSeconds d := by
  have hmul : n * 2 ^ floatPlaces d * 10 ^ 6 ≤ d * 2 ^ floatPlaces d := by
    rw [Nat.mul_right_comm]
    exact Nat.mul_le_mul_right _ h
  have hround := le_roundHalfEven (by decide) hmul
  rw [floatSeconds, le_div_iff₀ (by positivity)]
  exact_mod_cast hround

theorem floatPlaces_ge {d n : ℕ} (hn : n < 2 ^ 33) (h : d < n * 10 ^ 6) : 20 ≤ floatPlaces d := by
  have hlt : d * 2 ^ 20 / 10 ^ 6 < 2 ^ 53 := by
    rw [Nat.div_lt_iff_lt_mul (by decide)]
    omega
  by_cases hz : d * 2 ^ 20 / 10 ^ 6 = 0
  · rw [floatPlaces, hz]
    decide
  · have := (Nat.log2_lt hz).mpr hlt
    rw [floatPlaces]
    omega

/-- **Below `2 ^ 33` seconds the quotient never rounds up to a whole second.** -/
theorem floatSeconds_lt {d n : ℕ} (hn : n < 2 ^ 33) (h : d < n * 10 ^ 6) : floatSeconds d < n := by
  obtain ⟨j, hj⟩ := Nat.exists_eq_add_of_le (floatPlaces_ge hn h)
  have hround : roundHalfEven (d * 2 ^ floatPlaces d) (10 ^ 6) < n * 2 ^ floatPlaces d := by
    refine roundHalfEven_lt (by decide) ?_
    have hpos : 1 ≤ 2 ^ j := Nat.one_le_two_pow
    have hle : (d + 1) * 2 ^ j ≤ n * 10 ^ 6 * 2 ^ j := Nat.mul_le_mul_right _ h
    rw [hj, pow_add]
    calc 2 * (d * (2 ^ 20 * 2 ^ j)) + 10 ^ 6 
        = 2 * 2 ^ 20 * (d * 2 ^ j) + 10 ^ 6 := by ring
      _ < 2 * 2 ^ 20 * (d * 2 ^ j) + 2 * 2 ^ 20 * 2 ^ j := by omega
      _ = 2 * 2 ^ 20 * ((d + 1) * 2 ^ j) := by ring
      _ ≤ 2 * 2 ^ 20 * (n * 10 ^ 6 * 2 ^ j) := Nat.mul_le_mul_left _ hle
      _ = 2 * (n * (2 ^ 20 * 2 ^ j) * 10 ^ 6) := by ring
  rw [floatSeconds, div_lt_iff₀ (by positivity)]
  exact_mod_cast hround

/-! ## Instants -/

/-- A UTC instant at microsecond resolution. -/
@[ext] structure DateTime where
  year : ℕ
  month : ℕ
  day : ℕ
  hour : ℕ
  minute : ℕ
  second : ℕ
  microsecond : ℕ
  year_pos : 1 ≤ year
  year_le : year ≤ 9999
  month_pos : 1 ≤ month
  month_le : month ≤ 12
  day_pos : 1 ≤ day
  day_le : day ≤ daysInMonth (isLeap year) month
  hour_lt : hour < 24
  minute_lt : minute < 60
  second_lt : second < 60
  microsecond_lt : microsecond < 1000000
  deriving DecidableEq

namespace DateTime

/-- Noon of the first of January 2026. -/
def newYearNoon : DateTime where
  year := 2026
  month := 1
  day := 1
  hour := 12
  minute := 0
  second := 0
  microsecond := 0
  year_pos := by decide
  year_le := by decide
  month_pos := by decide
  month_le := by decide
  day_pos := by decide
  day_le := by decide
  hour_lt := by decide
  minute_lt := by decide
  second_lt := by decide
  microsecond_lt := by decide

/-- The constructor as a program calls it: out-of-range fields are refused. -/
def mk? (y mo d h mi s us : ℕ) : Option DateTime :=
  if H : (1 ≤ y ∧ y ≤ 9999) ∧ (1 ≤ mo ∧ mo ≤ 12) ∧ (1 ≤ d ∧ d ≤ daysInMonth (isLeap y) mo)
      ∧ h < 24 ∧ mi < 60 ∧ s < 60 ∧ us < 1000000 then
    some ⟨y, mo, d, h, mi, s, us, H.1.1, H.1.2, H.2.1.1, H.2.1.2, H.2.2.1.1, H.2.2.1.2, H.2.2.2.1,
      H.2.2.2.2.1, H.2.2.2.2.2.1, H.2.2.2.2.2.2⟩
  else none

theorem mk?_fields (a : DateTime) :
    mk? a.year a.month a.day a.hour a.minute a.second a.microsecond = some a := by
  rw [mk?, dif_pos ⟨⟨a.year_pos, a.year_le⟩, ⟨a.month_pos, a.month_le⟩, ⟨a.day_pos, a.day_le⟩,
    a.hour_lt, a.minute_lt, a.second_lt, a.microsecond_lt⟩]

/-- The instant up to the second, most significant field first. -/
def seconds (a : DateTime) : List ℕ := [a.year, a.month, a.day, a.hour, a.minute, a.second]

/-- Instants are compared field by field. -/
instance : LE DateTime := ⟨fun a b ↦ a.seconds ++ [a.microsecond] ≤ b.seconds ++ [b.microsecond]⟩

instance (a b : DateTime) : Decidable (a ≤ b) :=
  inferInstanceAs (Decidable (a.seconds ++ [a.microsecond] ≤ b.seconds ++ [b.microsecond]))

/-! ## The time line -/

def toOrdinal (a : DateTime) : ℕ :=
  daysBeforeYear a.year + daysBeforeMonth (isLeap a.year) a.month + a.day

/-- The second of the day. -/
def secondOfDay (a : DateTime) : ℕ := a.hour * 3600 + a.minute * 60 + a.second

/-- Microseconds since the start of year 1. -/
def toMicros (a : DateTime) : ℕ :=
  ((a.toOrdinal - 1) * 86400 + a.secondOfDay) * 1000000 + a.microsecond

theorem toOrdinal_pos (a : DateTime) : 1 ≤ a.toOrdinal := by
  have := a.day_pos
  rw [toOrdinal]
  omega

theorem toOrdinal_le_year (a : DateTime) :
    a.toOrdinal ≤ daysBeforeYear a.year + 365 + (isLeap a.year).toNat := by
  have hd := a.day_le
  have hm := daysBeforeMonth_add_le_year (isLeap a.year) a.month_pos a.month_le
  rw [toOrdinal]
  omega

theorem secondOfDay_lt (a : DateTime) : a.secondOfDay < 86400 := by
  have := a.hour_lt
  have := a.minute_lt
  have := a.second_lt
  rw [secondOfDay]
  omega

/-- The date part is strictly monotone: `(year, month, day)` against the ordinal. -/
theorem toOrdinal_lt {a b : DateTime}
    (h : a.year < b.year ∨ a.year = b.year ∧ (a.month < b.month ∨ a.month = b.month ∧ a.day < b.day)) :
    a.toOrdinal < b.toOrdinal := by
  rcases h with hy | ⟨hy, hm | ⟨hm, hd⟩⟩
  · have ha := a.toOrdinal_le_year
    have hstep := daysBeforeYear_add_le a.year_pos hy
    have hb := b.day_pos
    rw [show b.toOrdinal = daysBeforeYear b.year + daysBeforeMonth (isLeap b.year) b.month + b.day
      from rfl]
    omega
  · have hstep := daysBeforeMonth_add_le (isLeap a.year) a.month_pos hm b.month_le
    have ha := a.day_le
    have hb := b.day_pos
    rw [toOrdinal, toOrdinal, ← hy]
    omega
  · rw [toOrdinal, toOrdinal, ← hy, ← hm]
    omega

theorem secondOfDay_lt_of {a b : DateTime}
    (h : a.hour < b.hour ∨ a.hour = b.hour ∧
      (a.minute < b.minute ∨ a.minute = b.minute ∧ a.second < b.second)) :
    a.secondOfDay < b.secondOfDay := by
  have := a.minute_lt
  have := a.second_lt
  rw [secondOfDay, secondOfDay]
  omega

/-- Whole seconds since the start of year 1. -/
def toSeconds (a : DateTime) : ℕ := (a.toOrdinal - 1) * 86400 + a.secondOfDay

theorem toMicros_eq (a : DateTime) : a.toMicros = a.toSeconds * 1000000 + a.microsecond := rfl

theorem toSeconds_lt {a b : DateTime} (h : a.seconds < b.seconds) : a.toSeconds < b.toSeconds := by
  simp only [seconds, List.cons_lt_cons_iff, lt_self_iff_false, and_false,
    or_false] at h
  have hda := a.secondOfDay_lt
  have hpa := a.toOrdinal_pos
  by_cases hdate : a.year = b.year ∧ a.month = b.month ∧ a.day = b.day
  · have hord : a.toOrdinal = b.toOrdinal := by
      rw [toOrdinal, toOrdinal, hdate.1, hdate.2.1, hdate.2.2]
    have htime : a.secondOfDay < b.secondOfDay := secondOfDay_lt_of (by omega)
    rw [toSeconds, toSeconds, hord]
    omega
  · have hord : a.toOrdinal < b.toOrdinal := toOrdinal_lt (by omega)
    rw [toSeconds, toSeconds]
    omega

theorem toSeconds_congr {a b : DateTime} (h : a.seconds = b.seconds) :
    a.toSeconds = b.toSeconds := by
  simp only [seconds, List.cons.injEq, and_true] at h
  obtain ⟨hy, hmo, hd, hh, hmi, hs⟩ := h
  rw [toSeconds, toSeconds, toOrdinal, toOrdinal, secondOfDay, secondOfDay, hy, hmo, hd, hh, hmi, hs]

theorem seconds_lt_iff {a b : DateTime} : a.seconds < b.seconds ↔ a.toSeconds < b.toSeconds := by
  refine ⟨toSeconds_lt, fun h ↦ ?_⟩
  rcases lt_trichotomy a.seconds b.seconds with hlt | heq | hgt
  · exact hlt
  · exact absurd (toSeconds_congr heq) (by omega)
  · exact absurd (toSeconds_lt hgt) (by omega)

theorem seconds_eq_iff {a b : DateTime} : a.seconds = b.seconds ↔ a.toSeconds = b.toSeconds := by
  refine ⟨toSeconds_congr, fun h ↦ ?_⟩
  rcases lt_trichotomy a.seconds b.seconds with hlt | heq | hgt
  · exact absurd (toSeconds_lt hlt) (by omega)
  · exact heq
  · exact absurd (toSeconds_lt hgt) (by omega)

theorem le_iff {a b : DateTime} :
    a ≤ b ↔ a.seconds < b.seconds ∨ a.seconds = b.seconds ∧ a.microsecond ≤ b.microsecond := by
  have hdef : a ≤ b ↔ a.seconds ++ [a.microsecond] ≤ b.seconds ++ [b.microsecond] := Iff.rfl
  rw [hdef, ← not_lt]
  simp only [seconds, List.cons_append, List.nil_append, List.cons_lt_cons_iff, List.cons.injEq,
    and_true, lt_self_iff_false, and_false, or_false]
  omega

/-- **The two orders agree.** -/
theorem toMicros_le_iff {a b : DateTime} : a ≤ b ↔ a.toMicros ≤ b.toMicros := by
  rw [le_iff, seconds_lt_iff, seconds_eq_iff, toMicros_eq, toMicros_eq]
  have := a.microsecond_lt
  have := b.microsecond_lt
  omega

/-- One past the last microsecond of the calendar. -/
def maxMicros : ℕ := 3652059 * 86400 * 1000000

theorem toMicros_lt_maxMicros (a : DateTime) : a.toMicros < maxMicros := by
  have hord := a.toOrdinal_le_year
  have hlt : a.year < 10000 := Nat.lt_succ_of_le a.year_le
  have hyear := daysBeforeYear_add_le a.year_pos hlt
  have hlast : daysBeforeYear 10000 = 3652059 := by decide
  have hpos := a.toOrdinal_pos
  have hday := a.secondOfDay_lt
  have hus := a.microsecond_lt
  rw [maxMicros, toMicros]
  omega

/-- The instant a number of microseconds after the start of year 1, if the calendar has it. -/
def ofMicros (t : ℕ) : Option DateTime :=
  let sec := t / 1000000
  let yd := yearDay (sec / 86400)
  let md := monthDay (isLeap yd.1) yd.2
  mk? yd.1 md.1 md.2 (sec % 86400 / 3600) (sec % 86400 % 3600 / 60) (sec % 60) (t % 1000000)

theorem exists_ofMicros {t : ℕ} (ht : t < maxMicros) :
    ∃ a, ofMicros t = some a ∧ a.toMicros = t := by
  obtain ⟨hy1, hylt, hyday⟩ := yearDay_spec (t / 1000000 / 86400)
  obtain ⟨hm, hd, hmday⟩ := monthDay_spec _ _ hylt
  have hy2 : (yearDay (t / 1000000 / 86400)).1 ≤ 9999 := by
    by_contra hgt
    have hge := daysBeforeYear_mono (y := 10000) (by decide) (Nat.lt_of_not_le hgt)
    have hlast : daysBeforeYear 10000 = 3652059 := by decide
    rw [maxMicros] at ht
    omega
  have hok : (1 ≤ (yearDay (t / 1000000 / 86400)).1 ∧ (yearDay (t / 1000000 / 86400)).1 ≤ 9999) ∧ _ ∧ _ ∧
      t / 1000000 % 86400 / 3600 < 24 ∧ t / 1000000 % 86400 % 3600 / 60 < 60
      ∧ t / 1000000 % 60 < 60 ∧ t % 1000000 < 1000000 :=
    ⟨⟨hy1, hy2⟩, hm, hd, by omega, by omega, by omega, by omega⟩
  refine ⟨_, dif_pos hok, ?_⟩
  simp only [toMicros, toOrdinal, secondOfDay]
  omega

/-- What `ofMicros` finds is the instant it looked for. -/
theorem toMicros_of_ofMicros {t : ℕ} {a : DateTime} (h : ofMicros t = some a) : a.toMicros = t := by
  obtain ⟨hy1, hylt, hyday⟩ := yearDay_spec (t / 1000000 / 86400)
  obtain ⟨hm, hd, hmday⟩ := monthDay_spec _ _ hylt
  rw [ofMicros, mk?] at h
  split_ifs at h
  cases h
  simp only [toMicros, toOrdinal, secondOfDay]
  omega

/-! ## Arithmetic -/

/-- `a + timedelta(seconds=n)`; without a result where the calendar ends. -/
def addSeconds (a : DateTime) (n : ℤ) : Option DateTime :=
  let t : ℤ := a.toMicros + n * 1000000
  if t < 0 then none else ofMicros t.toNat

/-- An addition that has a result moves the instant by as many seconds. -/
theorem toMicros_addSeconds {a b : DateTime} {n : ℤ} (h : a.addSeconds n = some b) :
    (b.toMicros : ℤ) = a.toMicros + n * 1000000 := by
  rw [addSeconds] at h
  split_ifs at h
  rw [toMicros_of_ofMicros h]
  omega

/-- Going back `n` seconds succeeds exactly when the calendar has that instant. -/
theorem addSeconds_neg (a : DateTime) (n : ℕ) :
    (n * 1000000 ≤ a.toMicros →
        ∃ b, a.addSeconds (-n) = some b ∧ b.toMicros + n * 1000000 = a.toMicros)
      ∧ (a.toMicros < n * 1000000 → a.addSeconds (-n) = none) := by
  refine ⟨fun hle ↦ ?_, fun hlt ↦ if_pos (by omega)⟩
  have hmax := a.toMicros_lt_maxMicros
  have hto : ((a.toMicros : ℤ) + -n * 1000000).toNat = a.toMicros - n * 1000000 := by omega
  obtain ⟨b, hb, hmic⟩ := exists_ofMicros (t := a.toMicros - n * 1000000) (by omega)
  refine ⟨b, ?_, by omega⟩
  rw [addSeconds, if_neg (by omega), hto, hb]

/-- `(a - b).total_seconds()`. -/
def elapsed (a b : DateTime) : ℚ :=
  if a.toMicros < b.toMicros then -floatSeconds (b.toMicros - a.toMicros)
  else floatSeconds (a.toMicros - b.toMicros)

/-- Against a positive limit only an elapsed time that is not negative counts. -/
theorem le_elapsed_iff {a b : DateTime} {n : ℕ} (hn : 1 ≤ n) :
    (n : ℚ) ≤ elapsed a b
      ↔ b.toMicros ≤ a.toMicros ∧ (n : ℚ) ≤ floatSeconds (a.toMicros - b.toMicros) := by
  rw [elapsed]
  by_cases h : a.toMicros < b.toMicros
  · rw [if_pos h]
    have hpos : (1 : ℚ) ≤ n := by exact_mod_cast hn
    have hneg : (0 : ℚ) ≤ floatSeconds (b.toMicros - a.toMicros) := by
      exact_mod_cast le_floatSeconds (n := 0) (by omega)
    exact ⟨fun hle ↦ by linarith, fun hle ↦ by omega⟩
  · rw [if_neg h]
    exact ⟨fun hle ↦ ⟨by omega, hle⟩, fun hle ↦ hle.2⟩

end DateTime

end ReqSys
