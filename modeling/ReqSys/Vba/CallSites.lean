import ReqSys.Foundation.Regex
import ReqSys.Vba.CallGraph

/-!
# VBA call graphs: the calls of a module

`_source_call_sites` reads the source of one module line by line. A line is an `Application.Run`, a
`Call` statement, or an expression that is searched for the names of the procedures with an
argument list behind them. Every procedure is recorded once for each line, caller and kind of call.

The regular expressions are written out for the matcher of `Regex`. Which characters are equal up
to case is decided by the tables of the interpreter, as is what a letter is.
-/

namespace ReqSys

namespace Vba

open PyText Regex

/-! ## Characters -/

/-- `\w`. -/
def isWord (U : Unicode) (c : Char) : Bool := U.isAlnum c || c == '_'

/-- The tables of the interpreter, with the equality of characters under `re.IGNORECASE`. It is
about letters: a blank, or another character of ASCII that is no letter, is equal to itself only. -/
structure Tables extends Unicode where
  same : Char → Char → Bool
  same_refl : ∀ c, same c c = true
  same_symbol : ∀ c d, same c d = true → isWord toUnicode d = false →
    isSpace d = true ∨ d.toNat < 128 → c = d
  space_not_alnum : ∀ c, isSpace c = true → isAlnum c = false

/-- The double quotation mark. -/
def doubleQuote : Char := Char.ofNat 34

/-- The apostrophe, which begins a comment. -/
def apostrophe : Char := Char.ofNat 39

theorem isAlphanum_iff (c : Char) : c.isAlphanum = true ↔
    (65 ≤ c.toNat ∧ c.toNat ≤ 90) ∨ (97 ≤ c.toNat ∧ c.toNat ≤ 122) ∨
      (48 ≤ c.toNat ∧ c.toNat ≤ 57) := by
  rw [Char.isAlphanum, Char.isAlpha, Char.isUpper, Char.isLower, Char.isDigit]
  simp only [Bool.or_eq_true, Bool.and_eq_true, decide_eq_true_eq, ge_iff_le,
    UInt32.le_iff_toNat_le, or_assoc]
  exact Iff.rfl

/-- A character that is no letter is only the lower case of itself. -/
theorem eq_of_toLower_eq {c d : Char} (h : c.toLower = d.toLower) (hd : d.isAlphanum = false) :
    c = d := by
  rw [Bool.eq_false_iff, Ne, isAlphanum_iff] at hd
  have hlower : d.toLower = d := by
    rw [Char.toLower]
    split
    next hup =>
      simp only [UInt32.le_iff_toNat_le] at hup
      exact absurd (Or.inl hup) hd
    next => rfl
  rw [hlower, Char.toLower] at h
  split at h
  next hup =>
    subst h
    simp only [UInt32.le_iff_toNat_le] at hup
    have hle : c.val.toNat ≤ 90 := hup.2
    have hge : 65 ≤ c.val.toNat := hup.1
    refine absurd (Or.inr (Or.inl ?_)) hd
    change 97 ≤ (c.val + 32).toNat ∧ (c.val + 32).toNat ≤ 122
    rw [UInt32.toNat_add, show (32 : UInt32).toNat = 32 from rfl, Nat.mod_eq_of_lt (by omega)]
    omega
  next => exact h

/-- The tables restricted to ASCII. -/
def Tables.ascii : Tables where
  toUnicode := .ascii
  same c d := c.toLower == d.toLower
  same_refl c := beq_self_eq_true _
  same_symbol c d h hword _ := by
    rw [isWord, Bool.or_eq_false_iff] at hword
    exact eq_of_toLower_eq (beq_iff_eq.mp h) hword.1
  space_not_alnum c h := by
    change c.isAlphanum = false
    rw [Bool.eq_false_iff, Ne, isAlphanum_iff]
    rw [isSpace, List.contains_iff_mem] at h
    simp only [List.mem_cons, List.not_mem_nil, or_false] at h
    omega

/-! ## Expressions -/

section Patterns

variable (T : Tables)

/-- `\w` -/
def word : Re := .char (isWord T.toUnicode)

/-- `\b` -/
def wordBoundary : Re := .boundary (isWord T.toUnicode)

/-- `\s*` -/
def blanks : Re := .star true (.char isSpace)

/-- `\s+` -/
def someBlanks : Re := plus (.char isSpace)

/-- `.` -/
def dot : Re := .char fun c ↦ c != '\n'

/-- A character. -/
def symbol (c : Char) : Re := .char fun d ↦ d == c

/-- A text under `re.IGNORECASE`. -/
def caseless (s : String) : Re := literal T.same s

/-- The characters of `[A-Za-z_]`. -/
def initials : List Char := "ABCDEFGHIJKLMNOPQRSTUVWXYZ_abcdefghijklmnopqrstuvwxyz".toList

/-- `[A-Za-z_]\w*` under `re.IGNORECASE`. -/
def caselessIdentifier : Re :=
  seqs [.char fun d ↦ initials.any fun c ↦ T.same c d, .star true (word T)]

/-- `["']` -/
def quotation : Re := .char fun c ↦ c == doubleQuote || c == apostrophe

/-- `_DECLARATION_RE` -/
def declarationRe : Re :=
  seqs [.atStart, blanks,
    optional (seqs [alts (["Public", "Private", "Friend", "Static"].map (caseless T)),
      someBlanks]),
    alts [caseless T "Sub", caseless T "Function",
      seqs [caseless T "Property", someBlanks, alts (["Get", "Let", "Set"].map (caseless T))]],
    wordBoundary T]

/-- `_END_RE` -/
def endRe : Re :=
  seqs [.atStart, blanks, caseless T "End", someBlanks,
    alts (["Sub", "Function", "Property"].map (caseless T)), wordBoundary T]

/-- `\b(?:Application\.)?Run\s+` -/
def runHead : List Re :=
  [wordBoundary T, optional (caseless T "Application."), caseless T "Run", someBlanks]

/-- `_RUN_LITERAL_RE` -/
def runLiteralRe : Re :=
  seqs (runHead T ++ [quotation, .group 1 (caselessIdentifier T), quotation, blanks,
    optional (seqs [symbol ',', blanks, .group 2 (.star true dot)]), .atEnd])

/-- `_RUN_DYNAMIC_RE` -/
def runDynamicRe : Re :=
  seqs (runHead T ++ [
    .group 1 (plus (.char fun c ↦ c != ',' && c != doubleQuote && c != apostrophe)),
    optional (seqs [symbol ',', blanks, .group 2 (.star true dot)]), .atEnd])

/-- `_CALL_RE` -/
def callRe : Re :=
  seqs [.atStart, blanks, caseless T "Call", someBlanks, .group 1 (caselessIdentifier T), blanks,
    optional (.alt (seqs [symbol '(', .group 2 (.star true dot), symbol ')'])
      (.group 3 (.star true dot))),
    .atEnd]

/-- The names, the longest first. -/
def byLength (names : List String) : List String :=
  names.insertionSort fun a b ↦ b.length ≤ a.length

/-- `\b(names)\s*\((.*?)\)` -/
def knownCallRe (names : List String) : Re :=
  seqs [wordBoundary T, .group 1 (alts ((byLength names).map (caseless T))), blanks, symbol '(',
    .group 2 (.star false dot), symbol ')']

/-- `_known_call_pattern`. -/
def knownCallPattern (names : List String) : Option Re :=
  if names = [] then none else some (knownCallRe T names)

/-- A literal between two of these marks, in which the mark is doubled. -/
def literalBetween (mark : Char) : Re :=
  seqs [symbol mark, .star true (.alt (.char fun c ↦ c != mark) (seqs [symbol mark, symbol mark])),
    symbol mark]

/-- `_STRING_LITERAL_RE` -/
def stringLiteralRe : Re := .alt (literalBetween doubleQuote) (literalBetween apostrophe)

/-- `_IDENTIFIER_RE` -/
def identifierRe : Re :=
  seqs [wordBoundary T, .char initials.contains, .star true (word T), wordBoundary T]

/-- `(?i)(password|pwd)\s*=\s*[^;,\s]+` -/
def passwordRe : Re :=
  seqs [.group 1 (alts (["password", "pwd"].map (caseless T))), blanks, symbol '=', blanks,
    plus (.char fun c ↦ c != ';' && c != ',' && !isSpace c)]

/-- `(?i)\b(ByVal|ByRef|Optional|ParamArray)\b` -/
def modifierRe : Re :=
  seqs [wordBoundary T,
    .group 1 (alts (["ByVal", "ByRef", "Optional", "ParamArray"].map (caseless T))),
    wordBoundary T]

/-- `([A-Za-z_]\w*)` -/
def parameterRe : Re := .group 1 (seqs [.char initials.contains, .star true (word T)])

end Patterns

/-! ## Texts -/

/-- `m.group(n)` as a text. -/
def groupText (m : Match) (n : ℕ) : Option String := (m.group n).map String.ofList

/-- `re.sub` with a text that depends on the match. -/
def substitute (r : Re) (replace : Match → String) (s : String) : String :=
  String.ofList (sub r (fun m ↦ (replace m).toList) s.toList)

/-- `_sanitize_expression`. -/
def sanitizeExpression (T : Tables) (value : String) : String :=
  let cleaned := substitute stringLiteralRe (fun _ ↦ "<literal>") (strip value)
  let cleaned := substitute (passwordRe T)
    (fun m ↦ (groupText m 1).getD "" ++ "=<redacted>") cleaned
  if cleaned.length ≤ 160 then cleaned else take 157 cleaned ++ "..."

/-- The state of `_split_arguments`. -/
structure Splitting where
  arguments : List String := []
  current : List Char := []
  depth : ℕ := 0
  quote : Option Char := none

/-- One character, which does not double a quotation mark. -/
def Splitting.read (s : Splitting) (c : Char) : Splitting :=
  match s.quote with
  | some quote =>
    { s with current := s.current ++ [c], quote := if c = quote then none else some quote }
  | none =>
    if c = doubleQuote ∨ c = apostrophe then
      { s with current := s.current ++ [c], quote := some c }
    else if c = '(' then { s with current := s.current ++ [c], depth := s.depth + 1 }
    else if c = ')' then { s with current := s.current ++ [c], depth := s.depth - 1 }
    else if c = ',' ∧ s.depth = 0 then
      { s with arguments := s.arguments ++ [strip (String.ofList s.current)], current := [] }
    else { s with current := s.current ++ [c] }

/-- The loop of `_split_arguments`. -/
def splitFrom : List Char → Splitting → Splitting
  | [], s => s
  | [c], s => s.read c
  | c :: d :: rest, s =>
    -- a doubled mark inside a literal
    if s.quote = some c ∧ d = c then splitFrom rest { s with current := s.current ++ [c, d] }
    else splitFrom (d :: rest) (s.read c)

/-- `_split_arguments`. -/
def splitArguments (raw : Option String) : List String :=
  match raw with
  | none => []
  | some raw =>
    if strip raw = "" then [] else
      let s := splitFrom raw.toList {}
      if s.current ≠ [] ∨ endsWith "," raw then
        s.arguments ++ [strip (String.ofList s.current)]
      else s.arguments

/-- `_parameter_name`. -/
def parameterName (T : Tables) (raw : String) : Option String :=
  (matchStart (parameterRe T)
    (strip (substitute (modifierRe T) (fun _ ↦ "") raw)).toList).bind fun m ↦ groupText m 1

/-- The words that are no references. -/
def ignored : List String :=
  ["and", "as", "byref", "byval", "false", "new", "nothing", "not", "or", "true"]

/-- `_source_references`. -/
def sourceReferences (T : Tables) (expression : String) : List String :=
  let withoutLiterals := substitute stringLiteralRe (fun _ ↦ " ") expression
  let tokens := (finditer (identifierRe T) withoutLiterals.toList).map fun m ↦
    String.ofList m.text
  tokens.foldl (fun result token ↦
    if ignored.contains (T.lower token) then result
    else if result.contains token then result else result ++ [token]) []

/-! ## Procedures -/

/-- A procedure as the semantic analysis describes it. -/
structure RawProcedure where
  name : String
  startLine : ℕ
  endLine : ℕ
  parameters : List String := []

/-- The semantic analysis of a module. -/
structure Analysis where
  moduleName : Option String
  procedures : List RawProcedure

/-- An entry of `_procedure_ranges`. -/
structure ProcedureRange where
  module : String
  name : String
  startLine : ℕ
  endLine : ℕ
  parameters : List String
  deriving DecidableEq

/-- `_procedure_ranges`. -/
def procedureRanges (T : Tables) (analysis : Analysis) : List ProcedureRange :=
  let module := match analysis.moduleName with
    | none | some "" => "<module>"
    | some name => name
  analysis.procedures.map fun procedure ↦ {
    module
    name := procedure.name
    startLine := procedure.startLine
    endLine := procedure.endLine
    parameters := (procedure.parameters.filterMap (parameterName T)).filter (· ≠ "") }

/-- `_procedure_for_line`. -/
def procedureForLine (procedures : List ProcedureRange) (lineNo : ℕ) : Option ProcedureRange :=
  procedures.find? fun p ↦ p.startLine ≤ lineNo ∧ lineNo ≤ p.endLine

/-- `known_by_lower.get(name.lower())`. The dictionary keeps the last procedure of a name. -/
def knownByLower (U : Unicode) (procedures : List ProcedureRange) (name : String) :
    Option ProcedureRange :=
  procedures.reverse.find? fun p ↦ U.lower p.name = U.lower name

/-- The node of a procedure. -/
def ProcedureRange.node (p : ProcedureRange) : String := nodeId p.module p.name

/-- `_binding_payload`. -/
def bindingPayload (T : Tables) (arguments parameters : List String) : List Binding :=
  arguments.zipIdx.map fun x ↦ {
    position := x.2 + 1
    parameter := parameters[x.2]?
    argument := sanitizeExpression T x.1
    sourceReferences := sourceReferences T x.1 }

/-! ## Call sites -/

/-- The kinds of calls. -/
inductive CallType
  | applicationRunLiteral
  | callStatement
  | functionExpression
  deriving DecidableEq

/-- The text of a kind. -/
def CallType.text : CallType → String
  | applicationRunLiteral => "application_run_literal"
  | callStatement => "call_statement"
  | functionExpression => "function_expression"

def CallType.confidence : CallType → ℚ
  | applicationRunLiteral => 98 / 100
  | callStatement => 99 / 100
  | functionExpression => 92 / 100

/-- A call that has been recorded, with its arguments as they are in the source. -/
structure CallSite where
  caller : ProcedureRange
  callee : ProcedureRange
  line : ℕ
  callType : CallType
  arguments : List String
  deriving DecidableEq

/-- The edge of a call. -/
def CallSite.edge (T : Tables) (site : CallSite) : Edge where
  caller := site.caller.node
  callee := site.callee.node
  line := some site.line
  callType := site.callType.text
  confidence := site.callType.confidence
  parameterBindings := bindingPayload T site.arguments site.callee.parameters

/-- A call whose target is not known. -/
structure DynamicCall where
  caller : String
  line : ℕ
  status : String
  target : String
  evidence : String
  requiresHumanReview : Bool := true
  deriving DecidableEq

/-- The state of `_source_call_sites`: `edges`, before the bindings are written, `dynamic_calls` and
`seen`. -/
structure Reading where
  sites : List CallSite := []
  dynamicCalls : List DynamicCall := []
  seen : List (String × String × ℕ × CallType) := []

/-- A call of a known procedure, unless there has been one of the same key. -/
def Reading.record (s : Reading) (site : CallSite) : Reading :=
  let key := (site.caller.name, site.callee.name, site.line, site.callType)
  if key ∈ s.seen then s else { s with sites := s.sites ++ [site], seen := key :: s.seen }

/-- The matches of the known names in an expression. -/
def Reading.expression (T : Tables) (procedures : List ProcedureRange) (caller : ProcedureRange)
    (lineNo : ℕ) (s : Reading) (found : List Match) : Reading :=
  found.foldl (fun s m ↦
    match knownByLower T.toUnicode procedures ((groupText m 1).getD "") with
    | none => s
    | some callee =>
      s.record ⟨caller, callee, lineNo, .functionExpression, splitArguments (groupText m 2)⟩) s

/-- The code of a line: `raw_line.split("'", 1)[0].strip()`. -/
def codeOf (rawLine : String) : String :=
  strip (String.ofList (rawLine.toList.takeWhile (· ≠ apostrophe)))

/-- The line of an expression: it is not empty, declares and ends nothing, and is no `Run` and no
`Call`. -/
structure IsExpression (T : Tables) (code : String) : Prop where
  nonempty : code ≠ ""
  declaration : matchStart (declarationRe T) code.toList = none
  ending : matchStart (endRe T) code.toList = none
  runLiteral : search (runLiteralRe T) code.toList = none
  runDynamic : search (runDynamicRe T) code.toList = none
  call : matchStart (callRe T) code.toList = none

/-- One line. -/
def Reading.readLine (T : Tables) (procedures : List ProcedureRange) (s : Reading)
    (rawLine : String × ℕ) : Reading :=
  let lineNo := rawLine.2
  let code := codeOf rawLine.1
  if code = "" ∨ (matchStart (declarationRe T) code.toList).isSome ∨
      (matchStart (endRe T) code.toList).isSome then s
  else
    match procedureForLine procedures lineNo with
    | none => s
    | some caller =>
      match search (runLiteralRe T) code.toList with
      | some literalRun =>
        let calleeName := (groupText literalRun 1).getD ""
        match knownByLower T.toUnicode procedures calleeName with
        | some callee =>
          s.record ⟨caller, callee, lineNo, .applicationRunLiteral,
            splitArguments (groupText literalRun 2)⟩
        | none =>
          { s with dynamicCalls := s.dynamicCalls ++ [{
              caller := caller.node
              line := lineNo
              status := "UNRESOLVED_LITERAL_TARGET"
              target := calleeName
              evidence := sanitizeExpression T code }] }
      | none =>
        match search (runDynamicRe T) code.toList with
        | some dynamicRun =>
          { s with dynamicCalls := s.dynamicCalls ++ [{
              caller := caller.node
              line := lineNo
              status := "DYNAMIC_TARGET"
              target := sanitizeExpression T ((groupText dynamicRun 1).getD "")
              evidence := sanitizeExpression T code }] }
        | none =>
          match matchStart (callRe T) code.toList with
          | some explicitCall =>
            let arguments := match groupText explicitCall 2 with
              | none | some "" => groupText explicitCall 3
              | some raw => some raw
            match knownByLower T.toUnicode procedures ((groupText explicitCall 1).getD "") with
            | some callee =>
              s.record ⟨caller, callee, lineNo, .callStatement, splitArguments arguments⟩
            | none => s
          | none =>
            match knownCallPattern T (procedures.map ProcedureRange.name) with
            | none => s
            | some known => s.expression T procedures caller lineNo (finditer known code.toList)

/-- The line ends as `\n`. -/
def unifyLineEnds : List Char → List Char
  | [] => []
  | [c] => [if c = '\r' then '\n' else c]
  | c :: d :: rest =>
    if c = '\r' then
      if d = '\n' then '\n' :: unifyLineEnds rest else '\n' :: unifyLineEnds (d :: rest)
    else c :: unifyLineEnds (d :: rest)

/-- The lines of a source, with their numbers. -/
def numberedLines (source : String) : List (String × ℕ) :=
  (((unifyLineEnds source.toList).splitOn '\n').map String.ofList).zipIdx 1

/-- The loop of `_source_call_sites`. -/
def reading (T : Tables) (source : String) (analysis : Analysis) : Reading :=
  (numberedLines source).foldl (Reading.readLine T (procedureRanges T analysis)) {}

/-- `_source_call_sites`. -/
def sourceCallSites (T : Tables) (source : String) (analysis : Analysis) :
    List Edge × List DynamicCall :=
  let s := reading T source analysis
  (s.sites.map (CallSite.edge T), s.dynamicCalls)

end Vba

end ReqSys
