import Mathlib
import ReqSys.Central.Admission
import ReqSys.Foundation.HexText
import ReqSys.Foundation.Separated

/-!
# The Central: the identity of a request

`registrar` is idempotent by correlation id, project and title. The id of a request is a digest of
the three texts joined by `|`, and the store answers the request it finds under an id without
comparing anything else.

The join forgets where the texts end. Two inputs with different texts share an id exactly when
their joins agree and the bars are distributed otherwise: `a|b`, `c` and `a`, `b|c` give one text.
`registrar_identity_iff` says so for every two inputs, and for what `registrar` answers in every
reachable store.
-/

namespace ReqSys

namespace Central

/-- `(correlation_id, projeto, título)`. -/
structure Identidade where
  correlationId : String
  project : String
  title : String
  deriving DecidableEq

namespace Identidade

/-- The text whose digest is the id. -/
def semente (t : Identidade) : String := t.correlationId ++ "|" ++ t.project ++ "|" ++ t.title

/-- The bars inside a text. -/
def barras (s : String) : ℕ := s.toList.count '|'

/-- The join tells the two apart, or their bars stand in the same texts. -/
def Distinguivel (t t' : Identidade) : Prop :=
  t.semente = t'.semente →
    barras t.correlationId = barras t'.correlationId ∧ barras t.project = barras t'.project

instance (t t' : Identidade) : Decidable (t.Distinguivel t') :=
  inferInstanceAs (Decidable (_ → _))

theorem toList_semente (t : Identidade) :
    t.semente.toList
      = t.correlationId.toList ++ '|' :: (t.project.toList ++ '|' :: t.title.toList) := by
  rw [semente]
  simp only [String.toList_append, List.append_assoc]
  rfl

/-- **Two triples with one joined text** are the same exactly when their bars stand in the same
texts. -/
theorem eq_iff_of_semente {t t' : Identidade} (h : t.semente = t'.semente) :
    t = t' ↔ barras t.correlationId = barras t'.correlationId ∧
      barras t.project = barras t'.project := by
  constructor
  · rintro rfl
    exact ⟨rfl, rfl⟩
  · rintro ⟨hcorrelation, hproject⟩
    have hlists : t.semente.toList = t'.semente.toList := congrArg String.toList h
    rw [toList_semente, toList_semente] at hlists
    obtain ⟨hc, hrest⟩ := Separated.append_cons_inj hlists hcorrelation
    obtain ⟨hp, ht⟩ := Separated.append_cons_inj hrest hproject
    cases t
    cases t'
    obtain rfl := String.toList_injective hc
    obtain rfl := String.toList_injective hp
    obtain rfl := String.toList_injective ht
    rfl

theorem distinguivel_iff {t t' : Identidade} :
    t.Distinguivel t' ↔ (t.semente = t'.semente → t = t') :=
  forall_congr' fun h ↦ (eq_iff_of_semente h).symm

end Identidade

def WorkRequestFields.identidade (f : WorkRequestFields) : Identidade where
  correlationId := f.correlationId
  project := f.project
  title := f.title

def WorkRequest.identidade (r : WorkRequest) : Identidade where
  correlationId := r.correlationId
  project := r.project
  title := r.title

/-! ## The id -/

/-- The digest has 64 hexadecimal digits, in lower case. -/
def Hexadecimal (cfg : Config) : Prop := ∀ text, PyText.isHex 64 (cfg.sha256Hex text) = true

/-- The part of the digest that goes into the id tells the two texts apart. -/
def PrefixoInjetivo (cfg : Config) (t t' : Identidade) : Prop :=
  PyText.take 24 (cfg.sha256Hex t.semente) = PyText.take 24 (cfg.sha256Hex t'.semente) →
    t.semente = t'.semente

instance (cfg : Config) (t t' : Identidade) : Decidable (PrefixoInjetivo cfg t t') :=
  inferInstanceAs (Decidable (_ → _))

theorem gerarRequestId_eq (cfg : Config) (entrada : WorkRequestInput) :
    Service.gerarRequestId cfg entrada = "WR-" ++
      PyText.asciiUpper (PyText.take 24 (cfg.sha256Hex entrada.identidade.semente)) := rfl

/-- Upper case keeps lowercase digits apart. -/
theorem asciiUpper_injOn {s s' : String} (hs : ∀ c ∈ s.toList, PyText.isHexDigit c = true)
    (hs' : ∀ c ∈ s'.toList, PyText.isHexDigit c = true)
    (h : PyText.asciiUpper s = PyText.asciiUpper s') : s = s' := by
  have hback : ∀ {t : String}, (∀ c ∈ t.toList, PyText.isHexDigit c = true) →
      (PyText.asciiUpper t).toList.map Char.toLower = t.toList := by
    intro t ht
    rw [PyText.asciiUpper, String.toList_ofList, List.map_map]
    conv_rhs => rw [← List.map_id t.toList]
    exact List.map_congr_left fun c hc ↦ (PyText.isHexDigit_facts (ht c hc)).2.2.1
  refine String.toList_injective ?_
  rw [← hback hs, ← hback hs', h]

theorem isHexDigit_of_mem_take {cfg : Config} (hhex : Hexadecimal cfg) (text : String) :
    ∀ c ∈ (PyText.take 24 (cfg.sha256Hex text)).toList, PyText.isHexDigit c = true := by
  intro c hc
  rw [PyText.take, String.toList_ofList] at hc
  exact List.all_eq_true.mp (Bool.and_eq_true_iff.mp (hhex text)).2 c (List.mem_of_mem_take hc)

/-- Under the assumption on the digest the id stands for the joined text. -/
theorem gerarRequestId_eq_iff {cfg : Config} (hhex : Hexadecimal cfg)
    {entrada entrada' : WorkRequestInput}
    (hinj : PrefixoInjetivo cfg entrada.identidade entrada'.identidade) :
    Service.gerarRequestId cfg entrada = Service.gerarRequestId cfg entrada' ↔
      entrada.identidade.semente = entrada'.identidade.semente := by
  rw [gerarRequestId_eq, gerarRequestId_eq]
  constructor
  · intro h
    have hlist := congrArg String.toList h
    rw [String.toList_append, String.toList_append, List.append_cancel_left_eq] at hlist
    exact hinj (asciiUpper_injOn (isHexDigit_of_mem_take hhex _) (isHexDigit_of_mem_take hhex _)
      (String.toList_injective hlist))
  · intro h
    rw [h]

/-! ## What the store holds -/

/-- Every stored request is under the id of its own texts. -/
def Store.Identificada (cfg : Config) (s : Store) : Prop :=
  ∀ r ∈ s.requests, ∃ entrada : WorkRequestInput,
    r.requestId = Service.gerarRequestId cfg entrada ∧ r.identidade = entrada.identidade

theorem Mutator.apply_identidade {m : Mutator} {agora : DateTime} {atual novo : WorkRequest}
    (h : m.apply agora atual = .ok novo) : novo.identidade = atual.identidade := by
  cases m with
  | promover destino =>
    cases h
    unfold Central.promover
    split_ifs <;> rfl
  | alinhar sha st =>
    cases h
    unfold Central.alinhar
    split_ifs <;> rfl
  | transicionar status blocker nextAction =>
    obtain ⟨-, b, rfl⟩ := mudarStatus_eq_ok h
    rfl

theorem identificada_exec {cfg : Config} {b : Backend} {s : Store} {op : StoreOp} {e : Env}
    (h : s.Identificada cfg) (hop : DoServico cfg op) :
    (exec b op e s).1.Identificada cfg := by
  cases op with
  | criarSeAusente r =>
    obtain ⟨entrada, momento, rfl, -⟩ := hop
    change ((s.criarSeAusente b _).1).Identificada cfg
    rw [Store.criarSeAusente]
    split
    · exact h
    · refine List.forall_mem_append.mpr ⟨h, List.forall_mem_singleton.mpr ?_⟩
      exact ⟨entrada, rfl, rfl⟩
  | atualizar q m =>
    change ((s.atualizar b q m e).1).Identificada cfg
    obtain ⟨hsame, -⟩ | ⟨raw, novo, hfind, -, happly, hwrite⟩ := atualizar_store s b q m e
    · rw [hsame]
      exact h
    · rw [hwrite]
      obtain ⟨hraw, -⟩ := find_eq_some hfind
      intro r hr
      rcases Table.mem_update hr with ⟨hr, -⟩ | ⟨r', -, -, rfl⟩
      · exact h r hr
      · obtain ⟨entrada, hid, hsame⟩ := h raw hraw
        exact ⟨entrada, (Mutator.apply_requestId happly).trans hid,
          (Mutator.apply_identidade happly).trans hsame⟩
  | registrarEvidencia entrada =>
    change ((s.registrarEvidencia b entrada e).1).Identificada cfg
    rw [Store.registrarEvidencia]
    split_ifs <;> exact h
  | obter | listar | obterEvidencia | historicoEvidencia | statusEvidencia | executar => exact h

theorem identificada_of_run {cfg : Config} {tr : List Passo} {p : Replicas}
    (h : (replicas cfg).Run tr p) : p.store.Identificada cfg :=
  Pool.invariant_of_calls (I := Store.Identificada cfg) (fun _ hr ↦ absurd hr List.not_mem_nil)
    (code_calls cfg) identificada_exec id h

theorem keyed_of_run {cfg : Config} {tr : List Passo} {p : Replicas}
    (h : (replicas cfg).Run tr p) : Table.Keyed WorkRequest.requestId p.store.requests :=
  Pool.invariant_of_calls (I := fun s : Store ↦ Table.Keyed WorkRequest.requestId s.requests)
    (by exact List.nodup_nil) (code_calls cfg) (fun h _ ↦ keyed_exec h) id h

/-! ## What `registrar` answers -/

/-- A `registrar` that answers has found the request under the id, or stored its own. -/
theorem registrar_answer {cfg : Config} {entrada : WorkRequestInput} {momento : DateTime} {i : ℕ}
    {es : List Env} {s s' : Store} {r : WorkRequest}
    (h : (Service.registrar cfg entrada momento).runAlone (machine cfg.backend) i es s
      = some (s', .ok r)) :
    s.find (Service.gerarRequestId cfg entrada) = some r ∨
      s.find (Service.gerarRequestId cfg entrada) = none ∧
        r = Service.novaSolicitacao cfg entrada momento := by
  rw [Service.registrar] at h
  split_ifs at h with haccepted
  · obtain ⟨e, es', x, hx, hrest⟩ := Program.runAlone_perform_bind h
    cases hrest
    change (s.criarSeAusente cfg.backend (Service.novaSolicitacao cfg entrada momento)).2 = _ at hx
    have hid : (Service.novaSolicitacao cfg entrada momento).requestId
        = Service.gerarRequestId cfg entrada := rfl
    rw [Store.criarSeAusente, hid] at hx
    rcases hfind : s.find (Service.gerarRequestId cfg entrada) with _ | existente
    · rw [hfind] at hx
      cases hx
      exact Or.inr ⟨rfl, rfl⟩
    · rw [hfind] at hx
      simp only at hx
      rcases hler : Store.ler cfg.backend existente with y | lido
      · rw [hler] at hx
        cases hx
      · rw [hler] at hx
        cases hx
        rw [Store.ler_eq_ok hler]
        exact Or.inl rfl
  · cases h

/-- **The identity of a request.** Assume that the part of the digest in an id tells the joined
texts apart. Two inputs have the same id if and only if their texts are the same, exactly when the
join distinguishes them. In every reachable store, what `registrar` answers has the texts of the
input exactly when the join distinguishes the input from every stored request. -/
theorem registrar_identity_iff {cfg : Config} (hhex : Hexadecimal cfg) :
    (∀ entrada entrada' : WorkRequestInput,
      PrefixoInjetivo cfg entrada.identidade entrada'.identidade →
      ((Service.gerarRequestId cfg entrada = Service.gerarRequestId cfg entrada' ↔
          entrada.identidade = entrada'.identidade) ↔
        entrada.identidade.Distinguivel entrada'.identidade)) ∧
    ∀ (tr : List Passo) (p : Replicas), (replicas cfg).Run tr p →
      ∀ (entrada : WorkRequestInput) (momento : DateTime) (i : ℕ) (es : List Env) (s' : Store)
        (r : WorkRequest),
      (∀ r₀ ∈ p.store.requests, PrefixoInjetivo cfg entrada.identidade r₀.identidade) →
      (Service.registrar cfg entrada momento).runAlone (machine cfg.backend) i es p.store
        = some (s', .ok r) →
      (r.identidade = entrada.identidade ↔
        ∀ r₀ ∈ p.store.requests, entrada.identidade.Distinguivel r₀.identidade) := by
  constructor
  · intro entrada entrada' hinj
    rw [gerarRequestId_eq_iff hhex hinj, Identidade.distinguivel_iff]
    refine ⟨fun h ↦ h.mp, fun h ↦ ⟨h, fun heq ↦ by rw [heq]⟩⟩
  · intro tr p hrun entrada momento i es s' r hinj h
    have hstore := identificada_of_run hrun
    have hkeyed := keyed_of_run hrun
    have hsame : ∀ r₀ ∈ p.store.requests,
        r₀.requestId = Service.gerarRequestId cfg entrada ↔
          entrada.identidade.semente = r₀.identidade.semente := by
      intro r₀ hr₀
      obtain ⟨entrada₀, hid, htexts⟩ := hstore r₀ hr₀
      have hinj₀ := hinj r₀ hr₀
      rw [htexts] at hinj₀ ⊢
      rw [hid, eq_comm, gerarRequestId_eq_iff hhex hinj₀]
    constructor
    · intro heq r₀ hr₀
      rw [Identidade.distinguivel_iff]
      intro hsemente
      have hfind : p.store.find (Service.gerarRequestId cfg entrada) = some r₀ := by
        rw [← (hsame r₀ hr₀).mpr hsemente]
        exact hkeyed.lookup_of_mem hr₀
      rcases registrar_answer h with hr | ⟨hnone, -⟩
      · obtain rfl : r₀ = r := Option.some.inj (hfind.symm.trans hr)
        exact heq.symm
      · rw [hnone] at hfind
        cases hfind
    · intro hall
      rcases registrar_answer h with hr | ⟨-, rfl⟩
      · obtain ⟨hmem, hid⟩ := find_eq_some hr
        exact (Identidade.distinguivel_iff.mp (hall r hmem) ((hsame r hmem).mp hid)).symm
      · rfl

/-! ### A bar in a text -/

/-- The hashes of the two requests of `oneSlot`. -/
def hexConfig : Config where
  backend := .redis
  route := sampleConfig.route
  sha256Hex text :=
    if text = "corr-0001|reqsys|Corrigir CI" then
      "a56548002b7f0d23dd18bfdeed346c222da87acfb654b936d67bb568fb018216"
    else if text = "corr-0002|reqsys|Restaurar CI" then
      "5ad1a5de06247cbbe9ca42c5cfe5036b7e79173843ac2dc349e1dbeb49148046"
    else String.ofList (List.replicate 64 '0')
  maxActiveRootCauses := 1
  maxActiveRootCauses_pos := Nat.one_pos
  registry := [.ciRepair]

theorem hexConfig_hexadecimal : Hexadecimal hexConfig := by
  intro text
  change PyText.isHex 64 (if text = _ then _ else if text = _ then _ else _) = true
  split_ifs <;> decide +kernel

/-- The replicas once the first request is registered. -/
def firstRegistered : List Passo × Replicas :=
  TransitionSystem.runCalls (Pool.move (code hexConfig) (machine hexConfig.backend))
    (serial (.registrar sampleInput sampleInstant) 2) ⟨{}, fun _ ↦ none⟩

/-- The second request is registered. -/
theorem registrar_identity_urgent :
    ((Service.gerarRequestId hexConfig sampleInput = Service.gerarRequestId hexConfig urgentInput ↔
        sampleInput.identidade = urgentInput.identidade) ↔
      sampleInput.identidade.Distinguivel urgentInput.identidade) ∧
    ((Service.novaSolicitacao hexConfig urgentInput sampleInstant).identidade
        = urgentInput.identidade ↔
      ∀ r₀ ∈ firstRegistered.2.store.requests,
        urgentInput.identidade.Distinguivel r₀.identidade) := by
  have hall := registrar_identity_iff hexConfig_hexadecimal
  have hrun : (replicas hexConfig).Run firstRegistered.1 firstRegistered.2 :=
    TransitionSystem.run_runCalls _ _ _
  refine ⟨hall.1 _ _ (by decide +kernel), ?_⟩
  exact hall.2 _ _ hrun urgentInput sampleInstant 0 [{ agora := sampleInstant }] _ _
    (by decide +kernel) rfl

/-- A bar in the correlation id. -/
def barInId : WorkRequestInput where
  title := "t"
  project := "c"
  rootCauseId := "rc-1"
  correlationId := "corr-abc|d"
  valid := by decide +kernel

/-- The same text with the bar in the project. -/
def barInProject : WorkRequestInput where
  title := "t"
  project := "d|c"
  rootCauseId := "rc-1"
  correlationId := "corr-abc"
  valid := by decide +kernel

/-- Two producers with different texts share an id, whatever the hash is. -/
theorem registrar_identity_collides : ¬∃ cfg : Config, ∀ entrada entrada' : WorkRequestInput,
    PrefixoInjetivo cfg entrada.identidade entrada'.identidade →
    (Service.gerarRequestId cfg entrada = Service.gerarRequestId cfg entrada' ↔
      entrada.identidade = entrada'.identidade) := by
  rintro ⟨cfg, h⟩
  have hsemente : barInId.identidade.semente = barInProject.identidade.semente := by
    decide +kernel
  have hid : Service.gerarRequestId cfg barInId = Service.gerarRequestId cfg barInProject := by
    rw [gerarRequestId_eq, gerarRequestId_eq, hsemente]
  exact absurd ((h barInId barInProject fun _ ↦ hsemente).mp hid) (by decide +kernel)

end Central

end ReqSys
