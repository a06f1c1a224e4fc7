import ReqSys.Foundation.Calendar
import Mathlib.Data.Char

/-!
# The text form of instants

`iso` writes an instant as `datetime.isoformat` does, with `Z` for the UTC offset:
`YYYY-MM-DDTHH:MM:SS`, then a point and six digits of microseconds *unless they are zero*, then `Z`.
`parseIso` reads that form back, and reading what was written gives the instant (`parseIso_iso`).

## Order of texts against order of instants

The fields have fixed width, so two texts that differ before the fraction compare as the instants
do. Within one second the fraction decides, and there the dropped zero matters: a text without a
fraction continues with `Z`, one with a fraction continues with `.`, and `.` comes before `Z`.
`iso_le_iff` says exactly when the two orders agree on a pair: unless the instants lie in the same
second and one of them, but not the other, is a whole second (`Aligned`).
-/

namespace ReqSys

/-! ## Comparing texts piece by piece -/

section Lex

variable {α : Type*} [LinearOrder α]

theorem append_lt_append_iff {l l' m m' : List α} (h : l.length = l'.length) :
    l ++ m < l' ++ m' ↔ l < l' ∨ l = l' ∧ m < m' := by
  induction l generalizing l' with
  | nil =>
    obtain rfl := List.length_eq_zero_iff.mp h.symm
    simp
  | cons a l ih =>
    cases l' with
    | nil => cases h
    | cons b l' =>
      simp only [List.cons_append, List.cons_lt_cons_iff, List.cons.injEq, ih (Nat.succ.inj h)]
      tauto

end Lex

/-! ## Digits -/

def digitChar (n : ℕ) : Char := Char.ofNat (48 + n)

/-- The last `w` decimal digits of a number. -/
def digits : ℕ → ℕ → List Char
  | 0, _ => []
  | w + 1, n => digits w (n / 10) ++ [digitChar (n % 10)]

theorem length_digits (w n : ℕ) : (digits w n).length = w := by
  induction w generalizing n with
  | zero => rfl
  | succ w ih => rw [digits, List.length_append, ih, List.length_singleton]

theorem digitChar_lt_iff {m n : ℕ} (hm : m < 10) (hn : n < 10) :
    digitChar m < digitChar n ↔ m < n := by
  interval_cases m <;> interval_cases n <;> decide

theorem digitChar_inj {m n : ℕ} (hm : m < 10) (hn : n < 10) :
    digitChar m = digitChar n ↔ m = n := by
  interval_cases m <;> interval_cases n <;> decide

theorem digits_inj {w a b : ℕ} (ha : a < 10 ^ w) (hb : b < 10 ^ w) :
    digits w a = digits w b ↔ a = b := by
  refine ⟨fun h ↦ ?_, fun h ↦ by rw [h]⟩
  induction w generalizing a b with
  | zero => omega
  | succ w ih =>
    rw [pow_succ] at ha hb
    rw [digits, digits] at h
    obtain ⟨hq, hr⟩ := List.append_inj' h rfl
    have hq' := ih (by omega) (by omega) hq
    have hr' := (digitChar_inj (by omega) (by omega)).mp (List.singleton_inj.mp hr)
    omega

theorem digits_lt_iff {w a b : ℕ} (ha : a < 10 ^ w) (hb : b < 10 ^ w) :
    digits w a < digits w b ↔ a < b := by
  induction w generalizing a b with
  | zero =>
    have hempty : digits 0 a < digits 0 b ↔ False := by simp [digits]
    rw [hempty, Nat.lt_one_iff.mp ha, Nat.lt_one_iff.mp hb]
    decide
  | succ w ih =>
    rw [pow_succ] at ha hb
    have hlen : (digits w (a / 10)).length = (digits w (b / 10)).length := by
      rw [length_digits, length_digits]
    rw [digits, digits, append_lt_append_iff hlen, ih (by omega) (by omega),
      digits_inj (by omega) (by omega), List.cons_lt_cons_iff,
      digitChar_lt_iff (by omega) (by omega)]
    simp only [lt_self_iff_false, and_false, or_false]
    omega

/-! ## Writing -/

namespace DateTime

/-- The text up to the second. -/
def isoSeconds (a : DateTime) : List Char :=
  digits 4 a.year ++ '-' :: (digits 2 a.month ++ '-' :: (digits 2 a.day ++ 'T' ::
    (digits 2 a.hour ++ ':' :: (digits 2 a.minute ++ ':' :: digits 2 a.second))))

/-- The text after the second: the fraction is dropped when it is zero. -/
def isoFraction (a : DateTime) : List Char :=
  if a.microsecond = 0 then ['Z'] else '.' :: (digits 6 a.microsecond ++ ['Z'])

/-- `dt.isoformat()` with `Z` for `+00:00`. -/
def iso (a : DateTime) : String := String.ofList (a.isoSeconds ++ a.isoFraction)

@[simp] theorem toList_iso (a : DateTime) : a.iso.toList = a.isoSeconds ++ a.isoFraction := by
  rw [iso, String.toList_ofList]

theorem iso_ne_empty (a : DateTime) : a.iso ≠ "" := by
  intro h
  have hlist := congrArg String.toList h
  rw [toList_iso, isoSeconds, digits] at hlist
  simp at hlist

/-! ## Reading -/

end DateTime

/-- Read `w` decimal digits. -/
def takeDigits : ℕ → ℕ → List Char → Option (ℕ × List Char)
  | 0, acc, l => some (acc, l)
  | w + 1, acc, c :: l =>
    if '0' ≤ c ∧ c ≤ '9' then takeDigits w (acc * 10 + (c.toNat - 48)) l else none
  | _ + 1, _, [] => none

/-- Read one given character. -/
def takeChar (c : Char) : List Char → Option (List Char)
  | d :: l => if d = c then some l else none
  | [] => none

namespace DateTime

/-- Read the fraction and the offset. -/
def takeFraction (l : List Char) : Option ℕ :=
  match l with
  | '.' :: l => do
    let (us, l) ← takeDigits 6 0 l
    if l = ['Z'] then some us else none
  | l => if l = ['Z'] then some 0 else none

/-- `datetime.fromisoformat` on the form `iso` writes; any other text is refused. -/
def parseIso (s : String) : Option DateTime := do
  let (y, l) ← takeDigits 4 0 s.toList
  let l ← takeChar '-' l
  let (mo, l) ← takeDigits 2 0 l
  let l ← takeChar '-' l
  let (d, l) ← takeDigits 2 0 l
  let l ← takeChar 'T' l
  let (h, l) ← takeDigits 2 0 l
  let l ← takeChar ':' l
  let (mi, l) ← takeDigits 2 0 l
  let l ← takeChar ':' l
  let (sec, l) ← takeDigits 2 0 l
  let us ← takeFraction l
  mk? y mo d h mi sec us

/-! ## Reading what was written -/

end DateTime

theorem digitChar_range {n : ℕ} (h : n < 10) :
    ('0' ≤ digitChar n ∧ digitChar n ≤ '9') ∧ (digitChar n).toNat - 48 = n := by
  interval_cases n <;> decide

/-- Reading past a written number continues with its value accumulated. -/
theorem takeDigits_digits_append {w n : ℕ} (h : n < 10 ^ w) (v acc : ℕ) (l : List Char) :
    takeDigits (w + v) acc (digits w n ++ l) = takeDigits v (acc * 10 ^ w + n) l := by
  induction w generalizing v n l with
  | zero =>
    rw [Nat.lt_one_iff.mp h, Nat.zero_add, pow_zero, Nat.mul_one, Nat.add_zero]
    rfl
  | succ w ih =>
    rw [pow_succ] at h
    obtain ⟨hrange, hval⟩ := digitChar_range (n := n % 10) (by omega)
    rw [digits, List.append_assoc, List.singleton_append, Nat.add_right_comm, Nat.add_assoc w v 1,
      ih (by omega), takeDigits, if_pos hrange, hval]
    congr 1
    rw [pow_succ, ← Nat.mul_assoc]
    omega

theorem takeDigits_digits {w n : ℕ} (h : n < 10 ^ w) (l : List Char) :
    takeDigits w 0 (digits w n ++ l) = some (n, l) := by
  have hread := takeDigits_digits_append h 0 0 l
  rwa [Nat.add_zero, Nat.zero_mul, Nat.zero_add] at hread

theorem takeChar_cons (c : Char) (l : List Char) : takeChar c (c :: l) = some l := if_pos rfl

namespace DateTime

theorem takeFraction_isoFraction (a : DateTime) :
    takeFraction a.isoFraction = some a.microsecond := by
  rw [isoFraction]
  by_cases h : a.microsecond = 0
  · rw [if_pos h, h]
    rfl
  · have hlt : a.microsecond < 10 ^ 6 := a.microsecond_lt
    rw [if_neg h, takeFraction, takeDigits_digits hlt]
    rfl

theorem field_bounds (a : DateTime) : a.year < 10 ^ 4 ∧ a.month < 10 ^ 2 ∧ a.day < 10 ^ 2
    ∧ a.hour < 10 ^ 2 ∧ a.minute < 10 ^ 2 ∧ a.second < 10 ^ 2 := by
  have hmonth : ∀ leap m, daysInMonth leap m ≤ 31 := by
    intro leap m
    unfold daysInMonth
    have := leap.toNat_le
    split <;> omega
  have := hmonth (isLeap a.year) a.month
  have := a.year_le
  have := a.month_le
  have := a.day_le
  have := a.hour_lt
  have := a.minute_lt
  have := a.second_lt
  omega

/-- **Round trip.** Reading the text of an instant gives the instant. -/
theorem parseIso_iso (a : DateTime) : parseIso a.iso = some a := by
  obtain ⟨hy, hmo, hd, hh, hmi, hs⟩ := a.field_bounds
  rw [parseIso, toList_iso, isoSeconds]
  simp only [List.append_assoc, List.cons_append, takeDigits_digits hy, takeDigits_digits hmo,
    takeDigits_digits hd, takeDigits_digits hh, takeDigits_digits hmi, takeDigits_digits hs,
    takeChar_cons, takeFraction_isoFraction, Option.bind_eq_bind, Option.bind_some]
  exact a.mk?_fields

/-! ## The order of texts -/

/-- Two instants are aligned if, when they share a second, both or neither are whole seconds. -/
def Aligned (a b : DateTime) : Prop :=
  a.seconds = b.seconds → (a.microsecond = 0 ↔ b.microsecond = 0)

instance (a b : DateTime) : Decidable (Aligned a b) := by
  unfold Aligned
  infer_instance

theorem length_isoSeconds (a b : DateTime) : a.isoSeconds.length = b.isoSeconds.length := by
  simp only [isoSeconds, List.length_append, List.length_cons, length_digits]

theorem isoSeconds_lt_iff (a b : DateTime) : a.isoSeconds < b.isoSeconds ↔ a.seconds < b.seconds := by
  obtain ⟨hy, hmo, hd, hh, hmi, hs⟩ := a.field_bounds
  obtain ⟨hy', hmo', hd', hh', hmi', hs'⟩ := b.field_bounds
  have hlen : ∀ w m n, (digits w m).length = (digits w n).length := by
    intro w m n
    rw [length_digits, length_digits]
  simp only [isoSeconds, seconds, append_lt_append_iff (hlen _ _ _), List.cons_lt_cons_iff,
    lt_self_iff_false, false_or, true_and, and_false, or_false, digits_lt_iff hy hy',
    digits_inj hy hy', digits_lt_iff hmo hmo', digits_inj hmo hmo', digits_lt_iff hd hd',
    digits_inj hd hd', digits_lt_iff hh hh', digits_inj hh hh', digits_lt_iff hmi hmi',
    digits_inj hmi hmi', digits_lt_iff hs hs']

theorem isoSeconds_eq_iff (a b : DateTime) : a.isoSeconds = b.isoSeconds ↔ a.seconds = b.seconds := by
  rcases lt_trichotomy a.seconds b.seconds with h | h | h
  · exact iff_of_false ((isoSeconds_lt_iff a b).mpr h).ne h.ne
  · refine iff_of_true ?_ h
    simp only [seconds, List.cons.injEq, and_true] at h
    rw [isoSeconds, isoSeconds, h.1, h.2.1, h.2.2.1, h.2.2.2.1, h.2.2.2.2.1, h.2.2.2.2.2]
  · exact iff_of_false ((isoSeconds_lt_iff b a).mpr h).ne' h.ne'

/-- Within one second: a dropped fraction sorts after every written one. -/
theorem isoFraction_lt_iff (a b : DateTime) :
    a.isoFraction < b.isoFraction
      ↔ a.microsecond ≠ 0 ∧ (b.microsecond = 0 ∨ a.microsecond < b.microsecond) := by
  have ha : a.microsecond < 10 ^ 6 := a.microsecond_lt
  have hb : b.microsecond < 10 ^ 6 := b.microsecond_lt
  have hlen : (digits 6 a.microsecond).length = (digits 6 b.microsecond).length := by
    rw [length_digits, length_digits]
  have hpoint : ('.' : Char) < 'Z' := by decide
  have hpoint' : ¬ ('Z' : Char) < '.' := by decide
  have hne : ('Z' : Char) ≠ '.' := by decide
  rw [isoFraction, isoFraction]
  by_cases h : a.microsecond = 0 <;> by_cases h' : b.microsecond = 0
  · simp [h, h']
  · simp [h, h', List.cons_lt_cons_iff, hpoint', hne]
  · simp [h, h', List.cons_lt_cons_iff, hpoint]
  · simp only [h, h', if_false, List.cons_lt_cons_iff, lt_self_iff_false, false_or, true_and,
      append_lt_append_iff hlen, digits_lt_iff ha hb, and_false, or_false, ne_eq, not_false_iff]

theorem iso_lt_iff (a b : DateTime) :
    a.iso < b.iso ↔ a.seconds < b.seconds ∨ a.seconds = b.seconds
      ∧ a.microsecond ≠ 0 ∧ (b.microsecond = 0 ∨ a.microsecond < b.microsecond) := by
  rw [String.lt_iff, toList_iso, toList_iso, append_lt_append_iff (length_isoSeconds a b),
    isoSeconds_lt_iff, isoSeconds_eq_iff, isoFraction_lt_iff]

/-- **The order of texts is the order of instants exactly on aligned pairs.** -/
theorem iso_le_iff (a b : DateTime) : (a ≤ b ↔ a.iso ≤ b.iso) ↔ Aligned a b := by
  rw [le_iff, ← String.not_lt, iso_lt_iff, Aligned]
  rcases lt_trichotomy a.seconds b.seconds with h | h | h
  · simp [h, h.ne, h.ne', not_lt_of_gt h]
  · simp only [h, lt_self_iff_false, false_or, true_and, true_imp_iff]
    omega
  · simp [h, h.ne, h.ne', not_lt_of_gt h]

end DateTime

end ReqSys
