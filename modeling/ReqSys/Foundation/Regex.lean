import Mathlib.Data.List.Basic
import Mathlib.Data.List.Forall2

/-!
# Regular expressions with backtracking

An expression is matched from a position of a text, and its results are listed in the order in which
a backtracking matcher tries them: an alternative before the ones after it, a greedy repetition with
one more round before it stops, a lazy one after. The match is the first result. Groups record the
text that they have matched.

A repetition only goes round again if the round has consumed something, so the length of the rest
bounds the number of rounds.

## What is proved

`findSome?_iterate_greedy` and `findSome?_iterate_lazy` say where a repetition of a character class
stops when something has to follow it; they take the place of a proof about the list of results.
What a result has consumed is described by `mem_run_seq` and the lemmas beside it. `finditer` reads
a text from left to right, and `matchesFrom_of_match` and `matchesFrom_of_no_match` are its two
steps.
-/

namespace ReqSys

namespace Regex

/-- A position: the character before it, the text after it, and the groups so far. -/
structure State where
  before : Option Char
  rest : List Char
  groups : List (ℕ × List Char) := []
  deriving DecidableEq

/-- An expression. -/
inductive Re
  | eps
  | char (p : Char → Bool)
  | seq (r s : Re)
  | alt (r s : Re)
  | star (greedy : Bool) (r : Re)
  | group (n : ℕ) (r : Re)
  | boundary (isWord : Char → Bool)
  | atStart
  | atEnd

/-- Rounds of a repetition. -/
def iterate (greedy : Bool) (f : State → List State) : ℕ → State → List State
  | 0, s => [s]
  | n + 1, s =>
    let more := ((f s).filter fun t ↦ t.rest.length < s.rest.length).flatMap (iterate greedy f n)
    if greedy then more ++ [s] else s :: more

example (greedy : Bool) (f : State → List State) (s : State) : iterate greedy f 0 s = [s] := by
  rw [iterate]

/-- The text from one position to a later one. -/
def consumed (s t : State) : List Char := s.rest.take (s.rest.length - t.rest.length)

/-- The results of an expression at a position, in the order in which they are tried. -/
def run : Re → State → List State
  | .eps, s => [s]
  | .char p, s =>
    match s.rest with
    | [] => []
    | c :: rest => if p c then [{ s with before := some c, rest }] else []
  | .seq r t, s => (run r s).flatMap (run t)
  | .alt r t, s => run r s ++ run t s
  | .star greedy r, s => iterate greedy (run r) s.rest.length s
  | .group n r, s => (run r s).map fun t ↦ { t with groups := (n, consumed s t) :: t.groups }
  | .boundary isWord, s => if s.before.any isWord != s.rest.head?.any isWord then [s] else []
  | .atStart, s => if s.before = none then [s] else []
  | .atEnd, s => if s.rest = [] ∨ s.rest = ['\n'] then [s] else []

example (s : State) : run .eps s = [s] := by rw [run]

/-! ## Expressions -/

/-- One after the other. -/
def seqs : List Re → Re := List.foldr .seq .eps

/-- Any of them. -/
def alts : List Re → Re
  | [] => .char fun _ ↦ false
  | [r] => r
  | r :: rs => .alt r (alts rs)

/-- A text, under an equality of characters. -/
def literal (eq : Char → Char → Bool) (s : String) : Re := seqs (s.toList.map fun c ↦ .char (eq c))

/-- At most once. -/
def optional (r : Re) : Re := .alt r .eps

/-- At least once. -/
def plus (r : Re) : Re := .seq r (.star true r)

/-! ## Matches -/

/-- A match: its text and its groups. -/
structure Match where
  text : List Char
  groups : List (ℕ × List Char)
  deriving DecidableEq

/-- `m.group(n)`. -/
def Match.group (m : Match) (n : ℕ) : Option (List Char) := m.groups.lookup n

/-- The match at a position. -/
def matchAt (r : Re) (before : Option Char) (rest : List Char) : Option State :=
  (run r { before, rest }).head?

/-- `re.match`. -/
def matchStart (r : Re) (text : List Char) : Option Match :=
  (matchAt r none text).map fun t ↦ { text := consumed ⟨none, text, []⟩ t, groups := t.groups }

/-- `re.finditer`, after characters that are part of the last match. Only a match that consumes
something is listed. -/
def matchesFrom (r : Re) : Option Char → ℕ → List Char → List Match
  | _, _, [] => []
  | _, skip + 1, c :: rest => matchesFrom r (some c) skip rest
  | before, 0, c :: rest =>
    match matchAt r before (c :: rest) with
    | none => matchesFrom r (some c) 0 rest
    | some t =>
      let text := consumed ⟨before, c :: rest, []⟩ t
      if text = [] then matchesFrom r (some c) 0 rest
      else { text, groups := t.groups } :: matchesFrom r (some c) (text.length - 1) rest

example (r : Re) (before : Option Char) : matchesFrom r before 0 [] = [] := by rw [matchesFrom]

/-- `re.finditer`. -/
def finditer (r : Re) (text : List Char) : List Match := matchesFrom r none 0 text

/-- `re.search`. -/
def search (r : Re) (text : List Char) : Option Match := (finditer r text).head?

/-- `re.sub`, after characters that are part of the last match. -/
def subFrom (r : Re) (replace : Match → List Char) : Option Char → ℕ → List Char → List Char
  | _, _, [] => []
  | _, skip + 1, c :: rest => subFrom r replace (some c) skip rest
  | before, 0, c :: rest =>
    match matchAt r before (c :: rest) with
    | none => c :: subFrom r replace (some c) 0 rest
    | some t =>
      let text := consumed ⟨before, c :: rest, []⟩ t
      if text = [] then c :: subFrom r replace (some c) 0 rest
      else replace { text, groups := t.groups } ++ subFrom r replace (some c) (text.length - 1) rest

/-- `re.sub`. -/
def sub (r : Re) (replace : Match → List Char) (text : List Char) : List Char :=
  subFrom r replace none 0 text

/-! ## What a result has consumed -/

/-- The character before the rest, after a text. -/
def lastChar (before : Option Char) (w : List Char) : Option Char :=
  w.foldl (fun _ c ↦ some c) before

@[simp] theorem lastChar_nil (before : Option Char) : lastChar before [] = before := rfl

@[simp] theorem lastChar_cons (before : Option Char) (c : Char) (w : List Char) :
    lastChar before (c :: w) = lastChar (some c) w := rfl

theorem lastChar_append (before : Option Char) (v w : List Char) :
    lastChar before (v ++ w) = lastChar (lastChar before v) w := List.foldl_append

/-- Going on after a text. -/
def State.advance (s : State) (w rest : List Char) : State :=
  { s with before := lastChar s.before w, rest }

theorem consumed_advance {s : State} {w rest : List Char} (h : s.rest = w ++ rest) (s' : State)
    (hs' : s'.rest = rest) : consumed s s' = w := by
  rw [consumed, h, hs', List.length_append, Nat.add_sub_cancel, List.take_left]

theorem mem_run_seq {r t : Re} {s u : State} :
    u ∈ run (.seq r t) s ↔ ∃ v ∈ run r s, u ∈ run t v := by
  rw [run, List.mem_flatMap]

theorem head?_run_seq (r t : Re) (s : State) :
    (run (.seq r t) s).head? = (run r s).findSome? fun u ↦ (run t u).head? := by
  rw [run, List.head?_flatMap]

theorem mem_run_char {p : Char → Bool} {s u : State} :
    u ∈ run (.char p) s ↔ ∃ c, p c = true ∧ s.rest = c :: u.rest ∧ u = s.advance [c] u.rest := by
  rw [run]
  split
  next h => simp [h]
  next c rest h =>
    rw [h]
    split
    next hp =>
      rw [List.mem_singleton]
      constructor
      · rintro rfl
        exact ⟨c, hp, rfl, rfl⟩
      · rintro ⟨d, -, hrest, hu⟩
        obtain ⟨rfl, rfl⟩ := List.cons.inj hrest
        exact hu
    next hp =>
      refine iff_of_false List.not_mem_nil ?_
      rintro ⟨d, hd, hrest, -⟩
      obtain ⟨rfl, -⟩ := List.cons.inj hrest
      exact hp hd

theorem mem_run_alts {rs : List Re} {s u : State} :
    u ∈ run (alts rs) s ↔ ∃ r ∈ rs, u ∈ run r s := by
  induction rs with
  | nil =>
    refine iff_of_false (fun h ↦ ?_) (fun ⟨r, hr, _⟩ ↦ List.not_mem_nil hr)
    obtain ⟨c, hc, -⟩ := mem_run_char.mp h
    exact Bool.false_ne_true hc
  | cons r rs ih =>
    rcases rs with _ | ⟨r', rs⟩
    · simp [alts]
    · have halts : alts (r :: r' :: rs) = .alt r (alts (r' :: rs)) := rfl
      rw [halts, run, List.mem_append, ih]
      simp

theorem mem_run_group {n : ℕ} {r : Re} {s u : State} :
    u ∈ run (.group n r) s ↔
      ∃ v ∈ run r s, u = { v with groups := (n, consumed s v) :: v.groups } := by
  rw [run, List.mem_map]
  exact exists_congr fun v ↦ and_congr_right fun _ ↦ eq_comm

/-- A text consumes a text that is equal to it, character by character. -/
theorem mem_run_literal {eq : Char → Char → Bool} {l : String} {s u : State} :
    u ∈ run (literal eq l) s ↔
      ∃ w, List.Forall₂ (fun c d ↦ eq c d = true) l.toList w ∧ s.rest = w ++ u.rest ∧
        u = s.advance w u.rest := by
  rw [literal]
  generalize l.toList = l
  induction l generalizing s with
  | nil =>
    rw [List.map_nil, seqs, List.foldr_nil, run, List.mem_singleton]
    constructor
    · rintro rfl
      exact ⟨[], .nil, rfl, rfl⟩
    · rintro ⟨w, hw, hrest, hu⟩
      cases hw
      rw [hu, State.advance, ← show s.rest = u.rest from hrest]
      rfl
  | cons c l ih =>
    rw [List.map_cons, seqs, List.foldr_cons, ← seqs, mem_run_seq]
    constructor
    · rintro ⟨v, hv, hu⟩
      obtain ⟨d, hd, hrest, hv⟩ := mem_run_char.mp hv
      obtain ⟨w, hw, hrest', hu⟩ := ih.mp hu
      refine ⟨d :: w, .cons hd hw, by rw [hrest, hrest', List.cons_append], ?_⟩
      rw [hu, hv]
      rfl
    · rintro ⟨w, hw, hrest, hu⟩
      obtain ⟨d, w, hd, hw', rfl⟩ := List.forall₂_cons_left_iff.mp hw
      refine ⟨s.advance [d] (w ++ u.rest), mem_run_char.mpr ⟨d, hd, hrest, rfl⟩,
        ih.mpr ⟨w, hw', rfl, ?_⟩⟩
      rw [hu]
      rfl

/-- A repetition of a class consumes characters of the class. -/
theorem exists_of_mem_iterate {greedy : Bool} {p : Char → Bool} {n : ℕ} {s u : State}
    (h : u ∈ iterate greedy (run (.char p)) n s) :
    ∃ w, (∀ c ∈ w, p c = true) ∧ s.rest = w ++ u.rest ∧ u = s.advance w u.rest := by
  induction n generalizing s with
  | zero =>
    obtain rfl := List.mem_singleton.mp h
    exact ⟨[], fun c hc ↦ absurd hc List.not_mem_nil, rfl, rfl⟩
  | succ n ih =>
    have hcases : u = s ∨ ∃ v ∈ run (.char p) s, u ∈ iterate greedy (run (.char p)) n v := by
      rw [iterate] at h
      have hmore : ∀ v ∈ ((run (.char p) s).filter fun t ↦ t.rest.length < s.rest.length),
          v ∈ run (.char p) s := fun v hv ↦ List.mem_of_mem_filter hv
      split at h
      · obtain h | h := List.mem_append.mp h
        · obtain ⟨v, hv, hu⟩ := List.mem_flatMap.mp h
          exact .inr ⟨v, hmore v hv, hu⟩
        · exact .inl (List.mem_singleton.mp h)
      · obtain h | h := List.mem_cons.mp h
        · exact .inl h
        · obtain ⟨v, hv, hu⟩ := List.mem_flatMap.mp h
          exact .inr ⟨v, hmore v hv, hu⟩
    obtain rfl | ⟨v, hv, hu⟩ := hcases
    · exact ⟨[], fun c hc ↦ absurd hc List.not_mem_nil, rfl, rfl⟩
    · obtain ⟨c, hc, hrest, hv⟩ := mem_run_char.mp hv
      obtain ⟨w, hw, hrest', hu⟩ := ih hu
      refine ⟨c :: w, List.forall_mem_cons.mpr ⟨hc, hw⟩, by rw [hrest, hrest', List.cons_append],
        ?_⟩
      rw [hu, hv]
      rfl

/-! ## Where a repetition stops -/

section Star

variable {α : Type*} {p : Char → Bool} {F : State → Option α}

/-- One character of the class. -/
theorem iterate_succ_of_char {greedy : Bool} {n : ℕ} {before : Option Char} {c : Char}
    {rest : List Char} {groups : List (ℕ × List Char)} (hc : p c = true) :
    iterate greedy (run (.char p)) (n + 1) ⟨before, c :: rest, groups⟩
      = if greedy then iterate greedy (run (.char p)) n ⟨some c, rest, groups⟩ ++
          [⟨before, c :: rest, groups⟩]
        else ⟨before, c :: rest, groups⟩ ::
          iterate greedy (run (.char p)) n ⟨some c, rest, groups⟩ := by
  rw [iterate]
  simp [run, hc]

/-- **A greedy repetition** goes to the end of the characters of the class, if what follows it does
not start with one of them. -/
theorem findSome?_iterate_greedy {w : List Char} (hw : ∀ c ∈ w, p c = true) {d : Char}
    (hd : p d = false)
    (hF : ∀ before c rest groups, p c = true → F ⟨before, c :: rest, groups⟩ = none) {n : ℕ}
    (hn : w.length ≤ n) (before : Option Char) (rest : List Char)
    (groups : List (ℕ × List Char)) :
    (iterate true (run (.char p)) n ⟨before, w ++ d :: rest, groups⟩).findSome? F
      = F ⟨lastChar before w, d :: rest, groups⟩ := by
  induction w generalizing n before with
  | nil =>
    rcases n with _ | n
    · simp [iterate]
    · rw [iterate]
      simp [run, hd]
  | cons c w ih =>
    obtain ⟨n, rfl⟩ : ∃ m, n = m + 1 := ⟨n - 1, by rw [List.length_cons] at hn; omega⟩
    obtain ⟨hc, hw⟩ := List.forall_mem_cons.mp hw
    rw [List.cons_append, iterate_succ_of_char hc, if_pos rfl, List.findSome?_append,
      ih hw (Nat.le_of_succ_le_succ hn)]
    simp [hF before c _ groups hc]

/-- **A lazy repetition** stops where what follows it matches for the first time. -/
theorem findSome?_iterate_lazy {w : List Char} (hw : ∀ c ∈ w, p c = true) {d : Char}
    {rest : List Char} {groups : List (ℕ × List Char)}
    (hF : ∀ before c rest, c ∈ w → F ⟨before, c :: rest, groups⟩ = none) {n : ℕ}
    (hn : w.length ≤ n) (before : Option Char) {a : α}
    (ha : F ⟨lastChar before w, d :: rest, groups⟩ = some a) :
    (iterate false (run (.char p)) n ⟨before, w ++ d :: rest, groups⟩).findSome? F = some a := by
  induction w generalizing n before with
  | nil =>
    rcases n with _ | n
    · simpa [iterate] using ha
    · rw [iterate]
      simp only [Bool.false_eq_true, if_false, List.nil_append, List.findSome?_cons]
      rw [show F ⟨before, d :: rest, groups⟩ = some a from ha]
  | cons c w ih =>
    obtain ⟨n, rfl⟩ : ∃ m, n = m + 1 := ⟨n - 1, by rw [List.length_cons] at hn; omega⟩
    obtain ⟨hc, hw⟩ := List.forall_mem_cons.mp hw
    rw [List.cons_append, iterate_succ_of_char hc, if_neg Bool.false_ne_true,
      List.findSome?_cons, hF before c _ List.mem_cons_self]
    exact ih hw (fun before c rest hmem ↦ hF before c rest (List.mem_cons_of_mem _ hmem))
      (Nat.le_of_succ_le_succ hn) (some c) ha

end Star

/-! ## Reading a text -/

section Matches

variable {r : Re}

/-- The characters of the last match are passed over. -/
theorem matchesFrom_append (w rest : List Char) (before : Option Char) :
    matchesFrom r before w.length (w ++ rest) = matchesFrom r (lastChar before w) 0 rest := by
  induction w generalizing before with
  | nil => rfl
  | cons c w ih =>
    rw [List.cons_append, List.length_cons, matchesFrom, ih]
    rfl

theorem matchesFrom_of_no_match {before : Option Char} {c : Char} {rest : List Char}
    (h : run r ⟨before, c :: rest, []⟩ = []) :
    matchesFrom r before 0 (c :: rest) = matchesFrom r (some c) 0 rest := by
  rw [matchesFrom, matchAt, h]
  rfl

theorem matchesFrom_of_match {before : Option Char} {c : Char} {w : List Char} {t : State}
    (h : matchAt r before (c :: w ++ t.rest) = some t) :
    matchesFrom r before 0 (c :: w ++ t.rest)
      = { text := c :: w, groups := t.groups } ::
        matchesFrom r (lastChar before (c :: w)) 0 t.rest := by
  have hconsumed : consumed ⟨before, c :: w ++ t.rest, []⟩ t = c :: w :=
    consumed_advance rfl t rfl
  rw [List.cons_append] at h hconsumed ⊢
  rw [matchesFrom, h]
  dsimp only
  rw [hconsumed, if_neg (List.cons_ne_nil _ _), List.length_cons, Nat.add_sub_cancel,
    matchesFrom_append]
  rfl

end Matches

end Regex

end ReqSys
