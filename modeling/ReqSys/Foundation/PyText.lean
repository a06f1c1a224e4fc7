import Mathlib.Data.List.DropRight
import Mathlib.Data.List.Infix
import Mathlib.Data.List.TakeWhile

/-!
# Python text

The few operations on `str` that the services use, on Lean's `String`. Both are sequences of code
points with the same lexicographic order, so equality, concatenation, slicing and comparison are
Lean's own; what is written out here is what differs.

Whitespace is the finite set of code points for which `str.isspace` holds. Letter case beyond ASCII
is decided by the Unicode tables of the interpreter, which are no part of the modelled programs:
`Unicode` carries the functions together with their documented behaviour on ASCII text, and every
result below holds for all of them. `Unicode.ascii` is the table that leaves other characters
alone.
-/

namespace ReqSys

namespace PyText

/-- `str.isspace` of one character. -/
def isSpace (c : Char) : Bool :=
  [0x09, 0x0A, 0x0B, 0x0C, 0x0D, 0x1C, 0x1D, 0x1E, 0x1F, 0x20, 0x85, 0xA0, 0x1680, 0x2000, 0x2001,
    0x2002, 0x2003, 0x2004, 0x2005, 0x2006, 0x2007, 0x2008, 0x2009, 0x200A, 0x2028, 0x2029, 0x202F,
    0x205F, 0x3000].contains c.toNat

/-- `str.strip()`. -/
def strip (s : String) : String :=
  String.ofList ((s.toList.dropWhile isSpace).reverse.dropWhile isSpace).reverse

/-- Truth value of a text column or optional argument: `None` and `""` are false. -/
def truthy : Option String → Bool
  | none => false
  | some s => s != ""

/-- `s[:n]`. -/
def take (n : ℕ) (s : String) : String := String.ofList (s.toList.take n)

/-- `needle in haystack`. -/
def contains (needle haystack : String) : Bool :=
  haystack.toList.tails.any fun t ↦ needle.toList.isPrefixOf t

/-- `s.startswith(p)`. -/
def startsWith (p s : String) : Bool := p.toList.isPrefixOf s.toList

/-- `s.endswith(p)`. -/
def endsWith (p s : String) : Bool := p.toList.isSuffixOf s.toList

/-- `str(n)` of an integer. -/
def intRepr (n : Int) : String := toString n

/-- A lowercase hexadecimal digit. -/
def isHexDigit (c : Char) : Bool := ('0' ≤ c && c ≤ '9') || ('a' ≤ c && c ≤ 'f')

/-- `re.fullmatch(r"[0-9a-f]{n}", s)`. -/
def isHex (n : ℕ) (s : String) : Bool := s.toList.length == n && s.toList.all isHexDigit

def asciiLower (s : String) : String := String.ofList (s.toList.map Char.toLower)

def asciiUpper (s : String) : String := String.ofList (s.toList.map Char.toUpper)

/-- Every character is below U+0080. -/
def IsAscii (s : String) : Prop := ∀ c ∈ s.toList, c.toNat < 128

instance (s : String) : Decidable (IsAscii s) :=
  List.decidableBAll (p := fun c : Char ↦ c.toNat < 128) s.toList

/-- Dropping from the back keeps the first character, so the front stays stripped. -/
private theorem dropWhile_rdropWhile {p : Char → Bool} {l : List Char}
    (hl : l.dropWhile p = l) : (l.rdropWhile p).dropWhile p = l.rdropWhile p := by
  rw [List.dropWhile_eq_self_iff] at hl ⊢
  intro hlen
  obtain ⟨rest, hrest⟩ := List.rdropWhile_prefix p l
  have hpos : 0 < l.length := by
    rw [← hrest, List.length_append]
    omega
  have hfirst : (l.rdropWhile p)[0] = l[0] := by
    have hpos' : 0 < (l.rdropWhile p ++ rest).length := by
      rw [hrest]
      exact hpos
    have happ : (l.rdropWhile p ++ rest)[0] = (l.rdropWhile p)[0] := List.getElem_append_left hlen
    rw [← happ, List.getElem_of_eq hrest]
  rw [hfirst]
  exact hl hpos

/-- Stripping is idempotent. -/
theorem strip_strip (s : String) : strip (strip s) = strip s := by
  have hstrip : ∀ l : List Char, ((l.dropWhile isSpace).reverse.dropWhile isSpace).reverse
      = (l.dropWhile isSpace).rdropWhile isSpace := fun _ ↦ rfl
  rw [strip, strip, String.toList_ofList, hstrip, hstrip,
    dropWhile_rdropWhile (List.dropWhile_idempotent _ _), List.rdropWhile_idempotent]

theorem contains_iff {needle haystack : String} :
    contains needle haystack = true ↔ needle.toList <:+: haystack.toList := by
  rw [contains, List.any_eq_true, List.infix_iff_prefix_suffix]
  constructor
  · rintro ⟨t, ht, h⟩
    exact ⟨t, List.isPrefixOf_iff_prefix.mp h, (List.mem_tails _ _).mp ht⟩
  · rintro ⟨t, h, ht⟩
    exact ⟨t, (List.mem_tails _ _).mpr ht, List.isPrefixOf_iff_prefix.mpr h⟩

theorem toList_strip (s : String) :
    (strip s).toList = (s.toList.dropWhile isSpace).rdropWhile isSpace := by
  rw [strip, String.toList_ofList]
  rfl

/-- A text with a character that is no blank is not stripped to nothing. -/
theorem strip_ne_empty {s : String} {c : Char} (hc : c ∈ s.toList) (hspace : isSpace c = false) :
    strip s ≠ "" := by
  intro h
  have hempty := congrArg String.toList h
  rw [strip, String.toList_ofList, String.toList_empty, List.reverse_eq_nil_iff,
    List.dropWhile_eq_nil_iff] at hempty
  have hmem : c ∈ s.toList.dropWhile isSpace := by
    have hsplit := List.takeWhile_append_dropWhile (p := isSpace) (l := s.toList)
    rw [← hsplit, List.mem_append] at hc
    refine hc.resolve_left fun htake ↦ ?_
    rw [List.mem_takeWhile_imp htake] at hspace
    cases hspace
  rw [hempty c (List.mem_reverse.mpr hmem)] at hspace
  cases hspace

/-- Of a text with two characters that are no blanks, stripping keeps what stands from the one to
the other. -/
theorem toList_strip_append {l m r : List Char} {c d : Char} (hc : isSpace c = false)
    (hd : isSpace d = false) :
    ∃ r', (strip (String.ofList (c :: l ++ m ++ d :: r))).toList = c :: l ++ m ++ d :: r' := by
  have hfront : (c :: l ++ m ++ d :: r).dropWhile isSpace = c :: l ++ m ++ d :: r := by
    rw [List.cons_append, List.cons_append, List.dropWhile_cons, hc, if_neg Bool.false_ne_true]
  rw [toList_strip, String.toList_ofList, hfront]
  induction r using List.reverseRecOn with
  | nil =>
    refine ⟨[], ?_⟩
    rw [List.rdropWhile_concat_neg _ _ _ (by rw [hd]; exact Bool.false_ne_true)]
  | append_singleton r x ih =>
    have hsplit : c :: l ++ m ++ d :: (r ++ [x]) = c :: l ++ m ++ d :: r ++ [x] := by
      rw [← List.cons_append, ← List.append_assoc]
    rw [hsplit]
    by_cases hx : isSpace x = true
    · rw [List.rdropWhile_concat_pos _ _ _ hx]
      exact ih (by rw [List.cons_append, List.cons_append, List.dropWhile_cons, hc,
        if_neg Bool.false_ne_true])
    · exact ⟨r ++ [x], by rw [List.rdropWhile_concat_neg _ _ _ hx, hsplit]⟩

end PyText

/-- The letter-case and character-class tables of the interpreter, with what is documented about
them on ASCII text. -/
structure Unicode where
  /-- `str.lower`. -/
  lower : String → String
  /-- `str.upper`. -/
  upper : String → String
  /-- `str.casefold`. -/
  casefold : String → String
  /-- `str.isalnum` of one character. -/
  isAlnum : Char → Bool
  lower_ascii : ∀ s, PyText.IsAscii s → lower s = PyText.asciiLower s
  upper_ascii : ∀ s, PyText.IsAscii s → upper s = PyText.asciiUpper s
  casefold_ascii : ∀ s, PyText.IsAscii s → casefold s = PyText.asciiLower s
  isAlnum_ascii : ∀ c : Char, c.toNat < 128 → isAlnum c = c.isAlphanum

/-- The tables restricted to ASCII: no other character has a case or is alphanumeric. -/
def Unicode.ascii : Unicode where
  lower := PyText.asciiLower
  upper := PyText.asciiUpper
  casefold := PyText.asciiLower
  isAlnum := Char.isAlphanum
  lower_ascii _ _ := rfl
  upper_ascii _ _ := rfl
  casefold_ascii _ _ := rfl
  isAlnum_ascii _ _ := rfl

end ReqSys
