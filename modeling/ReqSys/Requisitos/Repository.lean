import Mathlib
import ReqSys.Foundation.Table
import ReqSys.Foundation.TransitionSystem
import ReqSys.Requisitos.Workflow

/-!
# Requirements: the repository

A requirement is stored under an identifier, which the database assigns, and a code, which the
program makes of the clock: the last nine digits of the nanoseconds since 1970. The column is
unique, so a second requirement with the same code is refused. Nine digits of nanoseconds are one
second. Two different readings have the same code if and only if both have nine digits at least and
they differ by a multiple of a second (`gerarCodigoRequisito_eq_iff`).

Codes and decimal identifiers are looked up by one query. They do not meet, since a code has letters
(`buscarPorCodigoOuId_codigo`, `buscarPorCodigoOuId_id`).
-/

namespace ReqSys

namespace Requisitos

/-! ## The tables -/

/-- `requisito.status = status`. -/
def Requisito.comStatus (status : String) (r : Requisito) : Requisito := { r with status := status }

@[simp]
theorem Requisito.id_comStatus (status : String) (r : Requisito) : (r.comStatus status).id = r.id :=
  rfl

@[simp]
theorem Requisito.codigo_comStatus (status : String) (r : Requisito) :
    (r.comStatus status).codigo = r.codigo := rfl

@[simp]
theorem Requisito.descricao_comStatus (status : String) (r : Requisito) :
    (r.comStatus status).descricao = r.descricao := rfl

@[simp]
theorem Requisito.status_comStatus (status : String) (r : Requisito) :
    (r.comStatus status).status = status := rfl

/-- `requisitos`. The identifiers ascend from one, and the codes are unique. -/
structure Tabela where
  rows : List Requisito := []
  next : ℕ := 1
  keyed : Table.Keyed Requisito.id rows := by exact List.nodup_nil
  codigos : Table.Keyed Requisito.codigo rows := by exact List.nodup_nil
  below : ∀ r ∈ rows, r.id < next := by simp
  above : ∀ r ∈ rows, 0 < r.id := by simp
  next_pos : 0 < next := by decide

namespace Tabela

/-- A new row, whose code is free. -/
def insert (t : Tabela) (novo : ℕ → Requisito) (hid : (novo t.next).id = t.next)
    (hcodigo : ∀ r ∈ t.rows, r.codigo ≠ (novo t.next).codigo) : Tabela where
  rows := t.rows ++ [novo t.next]
  next := t.next + 1
  keyed := t.keyed.concat fun r hr ↦ by rw [hid]; exact (t.below r hr).ne
  codigos := t.codigos.concat hcodigo
  below := by
    intro r hr
    obtain hr | hr := List.mem_append.mp hr
    · exact (t.below r hr).trans (Nat.lt_succ_self _)
    · rw [List.mem_singleton.mp hr, hid]
      exact Nat.lt_succ_self _
  above := by
    intro r hr
    obtain hr | hr := List.mem_append.mp hr
    · exact t.above r hr
    · rw [List.mem_singleton.mp hr, hid]
      exact t.next_pos
  next_pos := Nat.succ_pos _

/-- A row gets a new status. -/
def comStatus (t : Tabela) (id : ℕ) (status : String) : Tabela where
  rows := Table.update Requisito.id id (Requisito.comStatus status) t.rows
  next := t.next
  keyed := t.keyed.keyed_update (Requisito.id_comStatus status)
  codigos := by
    rw [Table.Keyed, Table.map_update (Requisito.codigo_comStatus status)]
    exact t.codigos
  below := by
    intro r hr
    obtain ⟨hr, -⟩ | ⟨r', hr', -, rfl⟩ := Table.mem_update hr
    · exact t.below r hr
    · exact t.below r' hr'
  above := by
    intro r hr
    obtain ⟨hr, -⟩ | ⟨r', hr', -, rfl⟩ := Table.mem_update hr
    · exact t.above r hr
    · exact t.above r' hr'
  next_pos := t.next_pos

end Tabela

/-- The payload of an audit event. -/
inductive Carga
  | camposMinimizados (schemaVersion : Option String)
  | transicao (origem destino motivo : String) (evidencia : Bool) (scoreProntidao : ℕ)
  | git (provedor repo referencia : String) (url : Option String)
  | status (de para trigger referencia : String)
  | coletaAvaliada (versaoContrato origem tipoDemanda : String) (pontuacao : ℕ)
      (classificacao : String) (prontoParaGerar : Bool) (codigosPendencia : List String)
      (quantidadeAlertas : ℕ) (chaveHash payloadHash : String)
  | requisitoGerado (origem tipoDemanda : String) (pontuacao : ℕ) (classificacao : String)
      (chaveHash payloadHash : String)
  deriving DecidableEq

/-- A row of `auditoria_eventos`. -/
structure AuditoriaEvento where
  correlationId : String
  usuario : String
  acao : String
  entidade : String
  entidadeId : String
  payloadMinimo : Carga
  deriving DecidableEq

/-- A row of `vinculos_git`. -/
structure VinculoGit where
  id : ℕ
  requisitoCodigo : String
  requisitoId : Option ℕ
  tipo : String
  provedor : String
  repo : String
  referencia : String
  url : Option String := none
  titulo : Option String := none
  autor : Option String := none
  ambiente : Option String := none
  deriving DecidableEq

/-- What is written of a requirement: its status, or an audit event. -/
inductive Escrita
  | status (id : ℕ) (status : String)
  | evento (e : AuditoriaEvento)
  deriving DecidableEq

/-- The database. The events are kept among the status writes, in the order of both. -/
structure Banco where
  requisitos : Tabela := {}
  vinculos : List VinculoGit := []
  escritas : List Escrita := []

namespace Banco

/-- The database before the first call. -/
abbrev vazio : Banco := {}

/-- `auditoria_eventos`. -/
def eventos (b : Banco) : List AuditoriaEvento :=
  b.escritas.filterMap fun
    | .status _ _ => none
    | .evento e => some e

/-- `requisito.status = status`, and a commit. -/
def escreverStatus (b : Banco) (id : ℕ) (status : String) : Banco :=
  { b with
    requisitos := b.requisitos.comStatus id status
    escritas := b.escritas ++ [.status id status] }

/-- `registrar_evento`. -/
def registrarEvento (b : Banco) (e : AuditoriaEvento) : Banco :=
  { b with escritas := b.escritas ++ [.evento e] }

end Banco

/-! ## Lookups -/

inductive Erro
  | integrityError (mensagem : String)
  | valueError (mensagem : String)
  | operationalError (mensagem : String)
  | http (e : HTTPException)
  deriving DecidableEq

/-- `int(identificador) if identificador.isdigit() else False`. What the digits of other scripts
are is decided by the interpreter; the decimal numeral of a number is read back as the number. -/
structure Numerais where
  ler : String → Except Erro (Option ℕ)
  ler_repr : ∀ n : ℕ, ler n.repr = .ok (some n)
  ler_ascii : ∀ s, PyText.IsAscii s → (∃ c ∈ s.toList, c.isDigit = false) → ler s = .ok none

/-- Only the ASCII digits are digits. -/
def Numerais.ascii : Numerais where
  ler s := .ok (if s ≠ "" ∧ s.toList.all Char.isDigit then some (Nat.ofDigitChars 10 s.toList 0)
    else none)
  ler_repr n := by
    have hdigits : n.repr.toList.all Char.isDigit = true := by
      rw [List.all_eq_true, Nat.toList_repr]
      exact fun c hc ↦ Nat.isDigit_of_mem_toDigits (by decide) (by decide) hc
    rw [if_pos ⟨Nat.repr_ne_empty, hdigits⟩, Nat.toList_repr, Nat.ofDigitChars_ten_toDigits]
  ler_ascii s _ h := by
    obtain ⟨c, hc, hnot⟩ := h
    refine congrArg Except.ok (if_neg ?_)
    rintro ⟨-, hall⟩
    rw [List.all_eq_true] at hall
    exact absurd (hall c hc) (by rw [hnot]; decide)

/-- `buscar_por_id`. -/
def buscarPorId (t : Tabela) (requisitoId : ℕ) : Option Requisito :=
  Table.lookup Requisito.id requisitoId t.rows

/-- `buscar_por_codigo`. -/
def buscarPorCodigo (t : Tabela) (codigo : String) : Option Requisito :=
  Table.lookup Requisito.codigo codigo t.rows

/-- `buscar_por_codigo_ou_id`. -/
def buscarPorCodigoOuId (N : Numerais) (t : Tabela) (identificador : String) :
    Except Erro (Option Requisito) := do
  let id ← N.ler identificador
  return t.rows.find? fun r ↦ r.codigo = identificador ∨ id = some r.id

/-! ## Creation -/

/-- The columns that the caller gives. -/
structure Campos where
  titulo : String
  descricao : String
  urgencia : String := "media"
  area : String
  sistema : String
  solicitante : String
  impactoRegulatorio : Bool := false

/-- `Requisito(codigo=codigo, **campos)`. -/
def Campos.requisito (c : Campos) (codigo status : String) (id : ℕ) : Requisito where
  id
  codigo
  titulo := c.titulo
  descricao := c.descricao
  urgencia := c.urgencia
  area := c.area
  sistema := c.sistema
  solicitante := c.solicitante
  status
  impactoRegulatorio := c.impactoRegulatorio

section Campos

variable (c : Campos) (codigo status : String) (id : ℕ)

@[simp]
theorem Campos.id_requisito : (c.requisito codigo status id).id = id := rfl

@[simp]
theorem Campos.codigo_requisito : (c.requisito codigo status id).codigo = codigo := rfl

@[simp]
theorem Campos.titulo_requisito : (c.requisito codigo status id).titulo = c.titulo := rfl

@[simp]
theorem Campos.descricao_requisito : (c.requisito codigo status id).descricao = c.descricao := rfl

@[simp]
theorem Campos.urgencia_requisito : (c.requisito codigo status id).urgencia = c.urgencia := rfl

@[simp]
theorem Campos.area_requisito : (c.requisito codigo status id).area = c.area := rfl

@[simp]
theorem Campos.sistema_requisito : (c.requisito codigo status id).sistema = c.sistema := rfl

@[simp]
theorem Campos.solicitante_requisito :
    (c.requisito codigo status id).solicitante = c.solicitante := rfl

@[simp]
theorem Campos.status_requisito : (c.requisito codigo status id).status = status := rfl

@[simp]
theorem Campos.comStatus_requisito (novo : String) :
    (c.requisito codigo status id).comStatus novo = c.requisito codigo novo id := rfl

end Campos

/-- `RequisitoRepository.criar`. Without a status, the requirement is stored as `recebido` and goes
on to `refinamento` at once. -/
def Banco.criar (b : Banco) (codigo : String) (campos : Campos) (status : Option String) :
    Banco × Except Erro Requisito :=
  if hcodigo : ∀ r ∈ b.requisitos.rows, r.codigo ≠ codigo then
    let inicial := status.getD "recebido"
    let id := b.requisitos.next
    let b := { b with
      requisitos := b.requisitos.insert (campos.requisito codigo inicial) rfl hcodigo
      escritas := b.escritas ++ [.status id inicial] }
    match status with
    | some _ => (b, .ok (campos.requisito codigo inicial id))
    | none => (b.escreverStatus id "refinamento", .ok (campos.requisito codigo "refinamento" id))
  else (b, .error (.integrityError "UNIQUE constraint failed: requisitos.codigo"))

/-- A requirement with a given status is stored as it is. -/
theorem criar_eq_ok {b b' : Banco} {codigo status : String} {campos : Campos} {r : Requisito}
    (h : b.criar codigo campos (some status) = (b', .ok r)) :
    r = campos.requisito codigo status b.requisitos.next ∧
      b'.requisitos.rows = b.requisitos.rows ++ [r] := by
  rw [Banco.criar] at h
  split at h
  · cases h
    exact ⟨rfl, rfl⟩
  · cases h

/-- A free code is stored. -/
theorem criar_of_livre {b : Banco} {codigo : String} (campos : Campos) (status : String)
    (h : ∀ r ∈ b.requisitos.rows, r.codigo ≠ codigo) :
    ∃ b', b.criar codigo campos (some status)
      = (b', .ok (campos.requisito codigo status b.requisitos.next)) :=
  ⟨_, dif_pos h⟩

/-- `_gerar_codigo_requisito`, at a reading of `time_ns`. -/
def gerarCodigoRequisito (timeNs : ℕ) : String :=
  "REQ-" ++ String.ofList (timeNs.repr.toList.rtake 9)

/-- A call that stores a requirement: `criar`, or `receber_power_automate`. -/
inductive Entrada
  | v1
  | powerAutomate
  deriving DecidableEq

/-- The event that the entry point records. -/
def Entrada.acao : Entrada → String
  | v1 => "REQUISITO_CRIADO"
  | powerAutomate => "REQUISITO_RECEBIDO_POWER_AUTOMATE"

def Entrada.carga : Entrada → Carga
  | v1 => .camposMinimizados none
  | powerAutomate => .camposMinimizados (some "1.0.0")

/-- A call, with its payload, its header and the reading of the clock. -/
structure Chamada where
  entrada : Entrada
  campos : Campos
  correlationId : Option String := none
  timeNs : ℕ

/-- `x_correlation_id or 'sem-correlation-id'`. -/
def correlacao (x : Option String) : String :=
  if PyText.truthy x then x.getD "" else "sem-correlation-id"

/-- `criar` and `receber_power_automate`, which differ in the event. -/
def Banco.receber (c : Chamada) (b : Banco) : Banco × Except Erro Requisito :=
  match b.criar (gerarCodigoRequisito c.timeNs) c.campos none with
  | (b, .error e) => (b, .error e)
  | (b, .ok r) =>
    (b.registrarEvento
      { correlationId := correlacao c.correlationId
        usuario := c.campos.solicitante
        acao := c.entrada.acao
        entidade := "requisito"
        entidadeId := r.id.repr
        payloadMinimo := c.entrada.carga }, .ok r)

/-! ## Codes -/

/-- The last digits of a numeral: the last one, and the last of the numeral before it. -/
theorem rtake_toDigits_succ (k n : ℕ) :
    (Nat.toDigits 10 n).rtake (k + 1)
      = (if n < 10 then [] else (Nat.toDigits 10 (n / 10)).rtake k) ++ [(n % 10).digitChar] := by
  rw [Nat.toDigits_eq_if (by decide)]
  split
  next hlt =>
    have hunit := List.rtake_concat_succ [] k n.digitChar
    rw [List.rtake_nil] at hunit
    rw [Nat.mod_eq_of_lt hlt]
    exact hunit
  next => rw [List.rtake_concat_succ]

/-- Decimal digits are told apart. -/
theorem digitChar_mod_inj {n m : ℕ} :
    (n % 10).digitChar = (m % 10).digitChar ↔ n % 10 = m % 10 := by
  refine ⟨fun heq ↦ ?_, congrArg Nat.digitChar⟩
  rw [← Nat.toNat_digitChar_sub_48_of_lt_ten (Nat.mod_lt n (by decide)), heq,
    Nat.toNat_digitChar_sub_48_of_lt_ten (Nat.mod_lt m (by decide))]

/-- A numeral has a last digit. -/
theorem rtake_toDigits_ne_nil (k n : ℕ) : (Nat.toDigits 10 n).rtake (k + 1) ≠ [] := by
  rw [rtake_toDigits_succ]
  exact List.append_ne_nil_of_right_ne_nil _ (List.cons_ne_nil _ _)

/-- The last digits of two positive numerals agree if and only if the numbers are equal, or both
have so many digits and agree modulo the power of ten. -/
theorem rtake_toDigits_eq_iff (k : ℕ) {n m : ℕ} (hn : 0 < n) (hm : 0 < m) :
    (Nat.toDigits 10 n).rtake (k + 1) = (Nat.toDigits 10 m).rtake (k + 1) ↔
      n = m ∨ 10 ^ k ≤ n ∧ 10 ^ k ≤ m ∧ n % 10 ^ (k + 1) = m % 10 ^ (k + 1) := by
  induction k generalizing n m with
  | zero =>
    rw [rtake_toDigits_succ _ n, rtake_toDigits_succ _ m, List.append_singleton_inj,
      digitChar_mod_inj, List.rtake_zero, List.rtake_zero, ite_self, ite_self]
    simp only [true_and]
    omega
  | succ k ih =>
    rw [rtake_toDigits_succ _ n, rtake_toDigits_succ _ m, List.append_singleton_inj,
      digitChar_mod_inj]
    have hpow : 10 ≤ 10 ^ (k + 1) := Nat.le_self_pow (by omega) 10
    by_cases hn10 : n < 10 <;> by_cases hm10 : m < 10
    · rw [if_pos hn10, if_pos hm10]
      simp only [true_and]
      omega
    · rw [if_pos hn10, if_neg hm10]
      exact iff_of_false (fun h ↦ rtake_toDigits_ne_nil k _ h.1.symm) (by omega)
    · rw [if_neg hn10, if_pos hm10]
      exact iff_of_false (fun h ↦ rtake_toDigits_ne_nil k _ h.1) (by omega)
    · rw [if_neg hn10, if_neg hm10, ih (by omega) (by omega), Nat.le_div_iff_mul_le (by decide),
        Nat.le_div_iff_mul_le (by decide), ← pow_succ, pow_succ' 10 (k + 1), Nat.mod_mul,
        Nat.mod_mul]
      omega

/-- **Codes.** Two readings have the same code if and only if they are equal, or both have nine
digits at least and they agree modulo a second. -/
theorem gerarCodigoRequisito_eq_iff {t u : ℕ} :
    gerarCodigoRequisito t = gerarCodigoRequisito u ↔
      t = u ∨ 10 ^ 8 ≤ t ∧ 10 ^ 8 ≤ u ∧ t % 10 ^ 9 = u % 10 ^ 9 := by
  rw [gerarCodigoRequisito, gerarCodigoRequisito, ← String.toList_inj, String.toList_append,
    String.toList_append, List.append_right_inj, String.toList_ofList, String.toList_ofList,
    Nat.toList_repr, Nat.toList_repr]
  have hzero : ∀ n, 0 < n → (Nat.toDigits 10 0).rtake 9 ≠ (Nat.toDigits 10 n).rtake 9 := by
    intro n hn heq
    rw [rtake_toDigits_succ _ 0, rtake_toDigits_succ _ n, List.append_singleton_inj,
      digitChar_mod_inj, if_pos (by decide)] at heq
    split at heq
    · omega
    · exact rtake_toDigits_ne_nil 7 _ heq.1.symm
  obtain rfl | ht := Nat.eq_zero_or_pos t
  · obtain rfl | hu := Nat.eq_zero_or_pos u
    · exact iff_of_true rfl (.inl rfl)
    · exact iff_of_false (hzero u hu) (by omega)
  · obtain rfl | hu := Nat.eq_zero_or_pos u
    · exact iff_of_false (fun heq ↦ hzero t ht heq.symm) (by omega)
    · exact rtake_toDigits_eq_iff 8 ht hu

/-- A code is a word and digits. -/
theorem toList_gerarCodigoRequisito (t : ℕ) :
    (gerarCodigoRequisito t).toList = ['R', 'E', 'Q', '-'] ++ (Nat.toDigits 10 t).rtake 9 := by
  rw [gerarCodigoRequisito, String.toList_append, String.toList_ofList, String.toList_ofList,
    Nat.toList_repr]

theorem r_mem_gerarCodigoRequisito (t : ℕ) : 'R' ∈ (gerarCodigoRequisito t).toList := by
  rw [toList_gerarCodigoRequisito]
  exact List.mem_append_left _ List.mem_cons_self

/-- A code is no decimal numeral. -/
theorem gerarCodigoRequisito_ne_repr (t n : ℕ) : gerarCodigoRequisito t ≠ n.repr := by
  intro heq
  have hmem := r_mem_gerarCodigoRequisito t
  rw [heq, Nat.toList_repr] at hmem
  exact absurd (Nat.isDigit_of_mem_toDigits (by decide) (by decide) hmem) (by decide)

theorem isAscii_gerarCodigoRequisito (t : ℕ) : PyText.IsAscii (gerarCodigoRequisito t) := by
  have hletras : PyText.IsAscii "REQ-" := by decide +kernel
  have hnove : ('9').toNat = 57 := by decide
  intro c hc
  rw [gerarCodigoRequisito, String.toList_append] at hc
  obtain hc | hc := List.mem_append.mp hc
  · exact hletras c hc
  · rw [String.toList_ofList, Nat.toList_repr] at hc
    have hdigit := Nat.isDigit_of_mem_toDigits (by decide) le_rfl (List.mem_of_mem_drop hc)
    rw [Char.isDigit_iff_toNat] at hdigit
    omega

/-- `int` is not asked about a code. -/
theorem ler_gerarCodigoRequisito (N : Numerais) (t : ℕ) :
    N.ler (gerarCodigoRequisito t) = .ok none :=
  N.ler_ascii _ (isAscii_gerarCodigoRequisito t)
    ⟨'R', r_mem_gerarCodigoRequisito t, by decide⟩

/-! ## Lookups in a table of codes -/

section Lookup

variable {N : Numerais} {t : Tabela} {r : Requisito}

/-- The codes of the table are codes of the clock. -/
def Tabela.DoRelogio (t : Tabela) : Prop :=
  ∀ r ∈ t.rows, ∃ timeNs, r.codigo = gerarCodigoRequisito timeNs

/-- What a search matches only once, it finds. -/
theorem find?_eq_some_of_unique {p : Requisito → Bool} {rows : List Requisito} (hr : r ∈ rows)
    (hp : p r = true) (h : ∀ r' ∈ rows, p r' = true → r' = r) : rows.find? p = some r := by
  obtain ⟨r', hfind⟩ := Option.isSome_iff_exists.mp (List.find?_isSome.mpr ⟨r, hr, hp⟩)
  rw [hfind, h r' (List.mem_of_find?_eq_some hfind) (List.find?_some hfind)]

/-- A code finds its requirement. -/
theorem buscarPorCodigoOuId_codigo (h : t.DoRelogio) (hr : r ∈ t.rows) :
    buscarPorCodigoOuId N t r.codigo = .ok (some r) := by
  obtain ⟨timeNs, htime⟩ := h r hr
  have hler : N.ler r.codigo = .ok none := by rw [htime, ler_gerarCodigoRequisito]
  rw [buscarPorCodigoOuId, hler, ok_bind]
  refine congrArg Except.ok (find?_eq_some_of_unique hr (decide_eq_true (.inl rfl)) ?_)
  intro r' hr' hp
  obtain hcodigo | hid := of_decide_eq_true hp
  · exact t.codigos.eq_of_key_eq hr' hr hcodigo
  · cases hid

/-- A decimal identifier finds its requirement. -/
theorem buscarPorCodigoOuId_id (h : t.DoRelogio) (hr : r ∈ t.rows) :
    buscarPorCodigoOuId N t r.id.repr = .ok (some r) := by
  rw [buscarPorCodigoOuId, N.ler_repr, ok_bind]
  refine congrArg Except.ok (find?_eq_some_of_unique hr (decide_eq_true (.inr rfl)) ?_)
  intro r' hr' hp
  obtain hcodigo | hid := of_decide_eq_true hp
  · obtain ⟨timeNs, htime⟩ := h r' hr'
    exact absurd (htime.symm.trans hcodigo) (gerarCodigoRequisito_ne_repr _ _)
  · exact t.keyed.eq_of_key_eq hr' hr (Option.some_inj.mp hid).symm

end Lookup

/-! ## Runs -/

/-- The calls one after the other, with what they return. -/
def recebidos (chamadas : List Chamada) (b : Banco) :
    List (Chamada × Except Erro Requisito) × Banco :=
  TransitionSystem.runCalls Banco.receber chamadas b

/-- Every call stores its requirement, and what is stored is found under its code and under its
identifier. -/
def SemColisao (N : Numerais) (chamadas : List Chamada) : Prop :=
  (∀ x ∈ (recebidos chamadas {}).1,
    ∃ r, x.2 = .ok r ∧ r ∈ (recebidos chamadas {}).2.requisitos.rows) ∧
  ∀ r ∈ (recebidos chamadas {}).2.requisitos.rows,
    buscarPorCodigoOuId N (recebidos chamadas {}).2.requisitos r.codigo = .ok (some r) ∧
    buscarPorCodigoOuId N (recebidos chamadas {}).2.requisitos r.id.repr = .ok (some r)

section Run

variable {b : Banco} {c : Chamada} {chamadas : List Chamada}

/-- Only the new row has the new key. -/
theorem update_concat_self {f : Requisito → Requisito} {rows : List Requisito} (novo : Requisito)
    (h : ∀ r ∈ rows, r.id ≠ novo.id) :
    Table.update Requisito.id novo.id f (rows ++ [novo]) = rows ++ [f novo] := by
  have hrows := Table.update_of_forall_ne (f := f) h
  rw [Table.update] at hrows ⊢
  rw [List.map_append, hrows, List.map_singleton, if_pos rfl]

/-- The code that a call asks for. -/
def Chamada.codigo (c : Chamada) : String := gerarCodigoRequisito c.timeNs

/-- A call whose code is free adds one row, which it returns. -/
theorem receber_of_livre (h : ∀ r ∈ b.requisitos.rows, r.codigo ≠ c.codigo) :
    ∃ b' r, b.receber c = (b', .ok r) ∧ r.codigo = c.codigo ∧
      b'.requisitos.rows = b.requisitos.rows ++ [r] := by
  have hcriar : b.criar (gerarCodigoRequisito c.timeNs) c.campos none
      = (_, .ok (c.campos.requisito c.codigo "refinamento" b.requisitos.next)) := dif_pos h
  rw [Banco.receber, hcriar]
  refine ⟨_, _, rfl, rfl, ?_⟩
  change Table.update Requisito.id b.requisitos.next (Requisito.comStatus "refinamento")
    (b.requisitos.rows ++ [c.campos.requisito c.codigo "recebido" b.requisitos.next]) = _
  exact update_concat_self (c.campos.requisito c.codigo "recebido" b.requisitos.next)
    fun r hr ↦ (b.requisitos.below r hr).ne

/-- A call whose code is taken stores nothing. -/
theorem receber_of_ocupado (h : ¬∀ r ∈ b.requisitos.rows, r.codigo ≠ c.codigo) :
    ∃ e, b.receber c = (b, .error e) := by
  have hcriar : b.criar (gerarCodigoRequisito c.timeNs) c.campos none
      = (b, .error (.integrityError "UNIQUE constraint failed: requisitos.codigo")) := dif_neg h
  exact ⟨_, by rw [Banco.receber, hcriar]⟩

theorem map_codigo_receber_of_livre {b' : Banco} {r : Requisito} (hr : r.codigo = c.codigo)
    (hrows : b'.requisitos.rows = b.requisitos.rows ++ [r]) :
    b'.requisitos.rows.map Requisito.codigo
      = b.requisitos.rows.map Requisito.codigo ++ [c.codigo] := by
  rw [hrows, List.map_append, List.map_singleton, hr]

/-- A call keeps what is stored. -/
theorem mem_rows_receber {r : Requisito} (hr : r ∈ b.requisitos.rows) :
    r ∈ (b.receber c).1.requisitos.rows := by
  by_cases hlivre : ∀ r ∈ b.requisitos.rows, r.codigo ≠ c.codigo
  · obtain ⟨b', novo, hreceber, -, hrows⟩ := receber_of_livre hlivre
    rw [hreceber, hrows]
    exact List.mem_append_left _ hr
  · obtain ⟨e, hreceber⟩ := receber_of_ocupado hlivre
    rw [hreceber]
    exact hr

theorem mem_rows_recebidos {r : Requisito} (hr : r ∈ b.requisitos.rows) :
    r ∈ (recebidos chamadas b).2.requisitos.rows := by
  induction chamadas generalizing b with
  | nil => exact hr
  | cons c chamadas ih => exact ih (mem_rows_receber hr)

/-- The calls store codes of the clock. -/
theorem doRelogio_receber (h : b.requisitos.DoRelogio) :
    (b.receber c).1.requisitos.DoRelogio := by
  by_cases hlivre : ∀ r ∈ b.requisitos.rows, r.codigo ≠ c.codigo
  · obtain ⟨b', novo, hreceber, hcodigo, hrows⟩ := receber_of_livre hlivre
    rw [hreceber]
    intro r hr
    rw [hrows] at hr
    obtain hr | hr := List.mem_append.mp hr
    · exact h r hr
    · rw [List.mem_singleton.mp hr]
      exact ⟨c.timeNs, hcodigo⟩
  · obtain ⟨e, hreceber⟩ := receber_of_ocupado hlivre
    rw [hreceber]
    exact h

theorem doRelogio_recebidos (h : b.requisitos.DoRelogio) :
    (recebidos chamadas b).2.requisitos.DoRelogio := by
  induction chamadas generalizing b with
  | nil => exact h
  | cons c chamadas ih => exact ih (doRelogio_receber h)

/-- Every call stores its requirement if and only if the codes are new and different. -/
theorem todos_gravados_iff :
    (∀ x ∈ (recebidos chamadas b).1,
      ∃ r, x.2 = .ok r ∧ r ∈ (recebidos chamadas b).2.requisitos.rows) ↔
    (b.requisitos.rows.map Requisito.codigo ++ chamadas.map Chamada.codigo).Nodup := by
  induction chamadas generalizing b with
  | nil =>
    refine iff_of_true (fun x hx ↦ absurd hx List.not_mem_nil) ?_
    rw [List.map_nil, List.append_nil]
    exact b.requisitos.codigos
  | cons c chamadas ih =>
    have hrest : recebidos (c :: chamadas) b
        = ((c, (b.receber c).2) :: (recebidos chamadas (b.receber c).1).1,
          (recebidos chamadas (b.receber c).1).2) := rfl
    rw [hrest, List.forall_mem_cons, List.map_cons]
    by_cases hlivre : ∀ r ∈ b.requisitos.rows, r.codigo ≠ c.codigo
    · obtain ⟨b', novo, hreceber, hcodigo, hrows⟩ := receber_of_livre hlivre
      have hnovo : novo ∈ (recebidos chamadas b').2.requisitos.rows := by
        refine mem_rows_recebidos ?_
        rw [hrows]
        exact List.mem_append_right _ (List.mem_singleton_self _)
      rw [hreceber, ih, map_codigo_receber_of_livre hcodigo hrows, List.append_assoc,
        List.singleton_append]
      exact and_iff_right ⟨novo, rfl, hnovo⟩
    · obtain ⟨e, hreceber⟩ := receber_of_ocupado hlivre
      rw [hreceber]
      refine iff_of_false ?_ ?_
      · rintro ⟨⟨r, hr, -⟩, -⟩
        cases hr
      · intro hnodup
        refine hlivre fun r hr heq ↦ ?_
        exact (List.nodup_append.mp hnodup).2.2 _ (List.mem_map_of_mem hr) _ List.mem_cons_self heq

end Run

/-- Two readings whose codes collide: both have nine digits at least, and they differ by whole
seconds. -/
def Colidem (t u : ℕ) : Prop := 10 ^ 8 ≤ t ∧ 10 ^ 8 ≤ u ∧ t % 10 ^ 9 = u % 10 ^ 9

instance (t u : ℕ) : Decidable (Colidem t u) :=
  inferInstanceAs (Decidable (10 ^ 8 ≤ t ∧ 10 ^ 8 ≤ u ∧ t % 10 ^ 9 = u % 10 ^ 9))

/-- **Codes do not collide.** In a run of calls at different readings of the clock, every call
stores its requirement, and codes and identifiers find what was stored under them, if and only if no
two readings with nine digits or more differ by whole seconds. -/
theorem semColisao_iff (N : Numerais) (chamadas : List Chamada)
    (hdistintas : (chamadas.map Chamada.timeNs).Nodup) :
    SemColisao N chamadas ↔ (chamadas.map Chamada.timeNs).Pairwise fun t u ↦ ¬Colidem t u := by
  have hrelogio : (recebidos chamadas {}).2.requisitos.DoRelogio :=
    doRelogio_recebidos fun r hr ↦ absurd hr List.not_mem_nil
  have hcodigos : (chamadas.map Chamada.codigo).Nodup ↔
      (chamadas.map Chamada.timeNs).Pairwise fun t u ↦ ¬Colidem t u := by
    have hmap : chamadas.map Chamada.codigo
        = (chamadas.map Chamada.timeNs).map gerarCodigoRequisito := by
      rw [List.map_map]
      rfl
    rw [hmap, List.Nodup, List.pairwise_map]
    constructor
    · exact List.Pairwise.imp fun hne hcolidem ↦
        hne (gerarCodigoRequisito_eq_iff.mpr (.inr hcolidem))
    · intro hpar
      refine (hdistintas.and hpar).imp fun ⟨hne, hnot⟩ heq ↦ ?_
      obtain higuais | hcolidem := gerarCodigoRequisito_eq_iff.mp heq
      · exact hne higuais
      · exact hnot hcolidem
  rw [← hcodigos, SemColisao, todos_gravados_iff]
  refine and_iff_left fun r hr ↦ ?_
  exact ⟨buscarPorCodigoOuId_codigo hrelogio hr, buscarPorCodigoOuId_id hrelogio hr⟩

/-- A call of the user interface, at a reading of the clock. -/
def chamadaEm (timeNs : ℕ) : Chamada where
  entrada := .v1
  campos :=
    { titulo := "Exportar relatório"
      descricao := "Quando o usuário exporta, então o arquivo é gravado."
      area := "negocio"
      sistema := "reqsys"
      solicitante := "ana" }
  timeNs

/-- Two calls within one second. -/
theorem semColisao_no_mesmo_segundo :
    SemColisao .ascii [chamadaEm 1760000000000000000, chamadaEm 1760000000000000250] :=
  (semColisao_iff .ascii _ (by simp [chamadaEm])).mpr (by simp [chamadaEm, Colidem])

/-- Two calls exactly one second apart: the second one has the code of the first. -/
theorem colisao_de_um_segundo :
    ¬∀ chamadas : List Chamada, (chamadas.map Chamada.timeNs).Nodup →
      SemColisao .ascii chamadas := by
  intro h
  obtain ⟨htodos, -⟩ :=
    h [chamadaEm 1760000000000000000, chamadaEm 1760000001000000000] (by simp [chamadaEm])
  have hnodup := List.nodup_append.mp (todos_gravados_iff.mp htodos)
  refine List.nodup_cons.mp hnodup.2.1 |>.1 (List.mem_singleton.mpr ?_)
  exact gerarCodigoRequisito_eq_iff.mpr (.inr (by norm_num [chamadaEm]))

end Requisitos

end ReqSys
