import ReqSys.Foundation.PyJson
import ReqSys.Foundation.PyText

/-!
# Token broker: what GitHub answers

The broker gets a pair of an access and a refresh token from GitHub, first when the App is
authorised and then with every refresh. Both answers are read in the same way.
-/

namespace ReqSys

namespace TokenBroker

/-- The number that the digits write. -/
def lerDigitos (digitos : List Char) : Option ℤ :=
  if digitos ≠ [] ∧ digitos.all Char.isDigit then
    some (digitos.foldl (fun n c ↦ 10 * n + (c.toNat - '0'.toNat : ℕ)) 0)
  else none

/-- `int(s)` of a text, unless it raises. -/
def lerInteiro (s : String) : Option ℤ :=
  match (PyText.strip s).toList with
  | '-' :: digitos => (lerDigitos digitos).map fun n ↦ -n
  | '+' :: digitos => lerDigitos digitos
  | digitos => lerDigitos digitos

/-- The conversions `int`, `str` and `isinstance(x, int)` of JSON values, with what is documented
about them on integers and texts. -/
structure Conversoes where
  /-- `int(x)`, unless it raises. -/
  int : Json → Option ℤ
  str : Json → String
  isInt : Json → Bool
  int_num : ∀ n : ℤ, int (.num n) = some n
  str_str : ∀ s, str (.str s) = s

/-- An answer over HTTP. -/
structure Response where
  statusCode : ℕ
  /-- The body, if it is JSON. -/
  json : Option Json

/-- What an answer with tokens has. -/
structure Par where
  accessToken : String
  refreshToken : String
  expiresIn : ℤ
  refreshExpiresIn : ℤ

/-- Read an answer with tokens, unless that raises `TypeError`, `ValueError` or
`AttributeError`. -/
def lerPar (py : Conversoes) (payload : Json) : Option Par :=
  match payload with
  | .obj entries => do
    let expiresIn ← py.int ((Json.get "expires_in" entries).orElse (.num 0))
    let refreshExpiresIn ← py.int ((Json.get "refresh_token_expires_in" entries).orElse (.num 0))
    return {
      accessToken := py.str ((Json.get "access_token" entries).orElse (.str ""))
      refreshToken := py.str ((Json.get "refresh_token" entries).orElse (.str ""))
      expiresIn := expiresIn
      refreshExpiresIn := refreshExpiresIn }
  | _ => none

/-- The pair as GitHub writes it. -/
def Par.toJson (par : Par) : Json :=
  .obj [("access_token", .str par.accessToken), ("expires_in", .num par.expiresIn),
    ("refresh_token", .str par.refreshToken),
    ("refresh_token_expires_in", .num par.refreshExpiresIn)]

theorem str_orElse (py : Conversoes) (s : String) :
    py.str (Json.orElse (.str s) (.str "")) = s := by
  rw [Json.orElse]
  split
  · exact py.str_str s
  next h =>
    obtain rfl : s = "" := by
      by_contra hne
      exact h (bne_iff_ne.mpr hne)
    exact py.str_str ""

theorem int_orElse (py : Conversoes) (n : ℤ) :
    py.int (Json.orElse (.num n) (.num 0)) = some n := by
  rw [Json.orElse]
  split
  · exact py.int_num n
  next h =>
    obtain rfl : n = 0 := by
      by_contra hne
      exact h (bne_iff_ne.mpr fun h ↦ hne (Rat.intCast_eq_zero_iff.mp h))
    exact py.int_num 0

/-- **What GitHub writes is what the broker reads.** -/
theorem lerPar_toJson (py : Conversoes) (par : Par) : lerPar py par.toJson = some par := by
  change (py.int (Json.orElse (.num par.expiresIn) (.num 0)) >>= fun expiresIn ↦
    py.int (Json.orElse (.num par.refreshExpiresIn) (.num 0)) >>= fun refreshExpiresIn ↦
      some (Par.mk (py.str (Json.orElse (.str par.accessToken) (.str "")))
        (py.str (Json.orElse (.str par.refreshToken) (.str ""))) expiresIn refreshExpiresIn)) = _
  rw [int_orElse, int_orElse, str_orElse, str_orElse]
  rfl

/-- The conversions of values that an answer of GitHub has. -/
def sampleConversoes : Conversoes where
  int
    | .num q => some (q.num.tdiv q.den)
    | .bool b => some (if b then 1 else 0)
    | .str s => lerInteiro s
    | _ => none
  str
    | .str s => s
    | .num q => toString q.num
    | .bool b => if b then "True" else "False"
    | _ => "None"
  isInt
    | .num q => q.den == 1
    | .bool _ => true
    | _ => false
  int_num n := by
    change some ((n : ℚ).num.tdiv (n : ℚ).den) = some n
    rw [Rat.num_intCast, Rat.den_intCast]
    exact congrArg some (Int.tdiv_one n)
  str_str _ := rfl

end TokenBroker

end ReqSys
