import ReqSys.Foundation.Checked
import ReqSys.WorkerPool.Records

/-!
# The worker pool: names, identities and redaction

The functions of `store.py` outside the class: how a task is identified, how branches and
repositories are validated, and how free text is redacted before it is stored.

The two redaction patterns have no choice to make while matching: each run of white space or of
value characters is delimited by a character outside it. So each is a function that says, for the
text from some position on, what to put in place of a match there and how many characters the match
takes; `substitute` applies such a function from left to right at word boundaries, as `re.sub` does
with a pattern that starts with `\b`.
-/

namespace ReqSys

namespace WorkerPool

open PyText

/-! ## Identity of a task -/

/-- `SHA40.fullmatch`. -/
def sha40 (s : String) : Bool := isHex 40 s

def identity (H : Host) (repository : String) (issueNumber : ℤ) (requestId : String) : String :=
  H.sha256Hex (H.unicode.lower (strip repository) ++ "|" ++ intRepr issueNumber ++ "|"
    ++ strip requestId)

def taskId (key : String) : String := "cwp-" ++ take 24 key

def branch (H : Host) (issueNumber : ℤ) (requestId : String) : String :=
  "codex/issue-" ++ intRepr issueNumber ++ "-" ++ take 10 (H.sha256Hex requestId)

def workspace (H : Host) (repository task : String) : String :=
  "worker-" ++ take 16 (H.sha256Hex (repository ++ "|" ++ task))

/-! ## Validation -/

/-- A character of `[A-Za-z0-9]`. -/
def isAsciiAlnum (c : Char) : Bool := c.isAlphanum

/-- `TARGET_BRANCH.fullmatch`. -/
def targetBranchForm (s : String) : Bool :=
  match s.toList with
  | [] => false
  | c :: l => isAsciiAlnum c && decide (l.length ≤ 199)
      && l.all fun d ↦ isAsciiAlnum d || d ∈ ['.', '_', '/', '-']

/-- `PROTECTED_TARGET_BRANCHES`. -/
def protectedTargetBranches : List String := ["main", "master", "develop"]

def validateTargetBranch (H : Host) (value : String) : Except PoolError String := do
  let normalized := strip value
  require (normalized ≠ "" ∧ targetBranchForm normalized) (.value "target_branch inválida")
  require (H.unicode.casefold normalized ∉ protectedTargetBranches)
    (.value "target_branch protegida")
  require (¬(contains ".." normalized ∨ contains "//" normalized ∨ endsWith "/" normalized
    ∨ endsWith "." normalized ∨ endsWith ".lock" normalized)) (.value "target_branch inválida")
  return normalized

/-- `_validate_repository`. -/
def validateRepository (repository : String) : Except PoolError String := do
  let normalized := strip repository
  require (¬(¬contains "/" normalized ∨ startsWith "/" normalized ∨ endsWith "/" normalized))
    (.value "repository inválido")
  return normalized

/-! ## Redaction -/

/-- `\w`. -/
def isWordChar (H : Host) (c : Char) : Bool := H.unicode.isAlnum c || c == '_'

/-- A lowercase ASCII letter or other character of a pattern against a character of the text, under
`(?i)`: besides the ASCII case pair, `k`, `s` and `i` also match the letters whose case mappings
lead to them. -/
def matchesIgnoreCase (p c : Char) : Bool :=
  c.toLower == p || (p == 'k' && c == Char.ofNat 0x212A) || (p == 's' && c == Char.ofNat 0x17F)
    || (p == 'i' && (c == Char.ofNat 0x130 || c == Char.ofNat 0x131))

/-- Match a word at the start of a text and return what follows it. -/
def afterWord : List Char → List Char → Option (List Char)
  | [], l => some l
  | _ :: _, [] => none
  | p :: w, c :: l => if matchesIgnoreCase p c then afterWord w l else none

/-- A character of `[A-Za-z0-9._~+/=-]` under `(?i)`. -/
def isBearerChar (c : Char) : Bool :=
  c.isAlphanum || c ∈ ['.', '_', '~', '+', '/', '=', '-']
    || c.toNat ∈ [0x130, 0x131, 0x17F, 0x212A]

/-- `BEARER` at the start of a text: the replacement and the length of the match. -/
def bearerAt (l : List Char) : Option (List Char × ℕ) := do
  let l1 ← afterWord "bearer".toList l
  let l2 := l1.dropWhile isSpace
  let l3 := l2.dropWhile isBearerChar
  if l2.length < l1.length ∧ l3.length < l2.length then
    some ("Bearer [REDACTED]".toList, l.length - l3.length)
  else none

/-- The words of `SECRET`, with the optional separator inside two of them. -/
def secretWords : List (List Char) :=
  ["token", "secret", "password", "passwd", "dsn", "connection_string", "connection-string",
    "connectionstring", "api_key", "api-key", "apikey"].map String.toList

/-- `SECRET` at the start of a text. -/
def secretAt (l : List Char) : Option (List Char × ℕ) := do
  let l1 ← secretWords.findSome? fun w ↦ afterWord w l
  match l1.dropWhile isSpace with
  | sep :: l2 =>
    let l3 := l2.dropWhile isSpace
    let l4 := l3.dropWhile fun c ↦ !(isSpace c || c == ',' || c == ';')
    if (sep = ':' ∨ sep = '=') ∧ l4.length < l3.length then
      some (l.take (l.length - l1.length) ++ "=[REDACTED]".toList, l.length - l4.length)
    else none
  | [] => none

/-- `re.sub` of a pattern `\b…`; the state is whether the character before was a word character and
how many characters of the last match remain. -/
def substitute (H : Host) (matchAt : List Char → Option (List Char × ℕ)) :
    Bool → ℕ → List Char → List Char
  | _, _, [] => []
  | _, skip + 1, c :: l => substitute H matchAt (isWordChar H c) skip l
  | before, 0, c :: l =>
    match if before != isWordChar H c then matchAt (c :: l) else none with
    | some (replacement, n) => replacement ++ substitute H matchAt (isWordChar H c) (n - 1) l
    | none => c :: substitute H matchAt (isWordChar H c) 0 l

def sanitize (H : Host) (value : String) : String :=
  let value := substitute H bearerAt false 0 value.toList
  String.ofList ((substitute H secretAt false 0 value).take 1000)

end WorkerPool

end ReqSys
