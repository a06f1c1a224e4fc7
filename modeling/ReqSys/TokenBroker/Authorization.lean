import ReqSys.TokenBroker.Bootstrap

/-!
# Token broker: one authorisation

Whether tokens are stored already is asked in the first request only. The states of a flow that was
started before the authorisation are good until they expire, and its manifest callback replaces the
credentials of the App under the tokens of the other flow.

`autorizado_of_run` says when the authorisation is final: nothing is saved once tokens are stored,
and tokens are saved only while the credentials are those they were obtained with.
-/

namespace ReqSys

namespace TokenBroker

namespace Bootstrap

/-- The condition on a command. -/
def Desimpedida (s : BootstrapStore) : ℕ × Cmd × Env → Prop
  | (_, .saveAppCredentials _, _) => s.tokenState = none
  | (_, .saveAuthorizedTokens _ clientId, _) =>
    s.tokenState = none ∧ s.appCredentials.map AppCredentials.clientId = some clientId
  | _ => True

instance (s : BootstrapStore) (x : ℕ × Cmd × Env) : Decidable (Desimpedida s x) :=
  match x with
  | (_, .saveAppCredentials _, _) => inferInstanceAs (Decidable (_ = none))
  | (_, .saveAuthorizedTokens _ _, _) => inferInstanceAs (Decidable (_ = none ∧ _))
  | (_, .now, _) | (_, .tokenUrlsafe, _) | (_, .hasAuthorizedTokens, _) | (_, .insertState _, _)
  | (_, .consumeState _ _ _, _) | (_, .loadAppCredentials, _) | (_, .postManifest _, _)
  | (_, .postToken _ _ _, _) | (_, .getRepositories _ _ _, _) | (_, .onAuthorized, _) =>
    instDecidableTrue

/-- The requests under this condition. -/
def desimpedidos (cfg : Config) : TransitionSystem Processos Passo :=
  (clientes cfg).restrict fun p m ↦ ∀ x ∈ p.nextCall m.1, Desimpedida p.store x

/-- The stored tokens were obtained with the stored credentials. -/
def Coerente (s : BootstrapStore) : Prop :=
  s.tokenState.isSome = true → ∃ c, s.appCredentials = some c ∧ s.obtidoCom = some c.clientId

/-- The authorisation is as it was. -/
structure Mantida (s s' : BootstrapStore) : Prop where
  appCredentials : s'.appCredentials = s.appCredentials
  tokenState : s'.tokenState = s.tokenState
  obtidoCom : s'.obtidoCom = s.obtidoCom

theorem Mantida.refl (s : BootstrapStore) : Mantida s s := ⟨rfl, rfl, rfl⟩

theorem Mantida.trans {s s' s'' : BootstrapStore} (h : Mantida s s') (h' : Mantida s' s'') :
    Mantida s s'' :=
  ⟨h'.appCredentials.trans h.appCredentials, h'.tokenState.trans h.tokenState,
    h'.obtidoCom.trans h.obtidoCom⟩

theorem Mantida.coerente {s s' : BootstrapStore} (h : Mantida s s') (hs : Coerente s) :
    Coerente s' := by
  intro hsome
  rw [h.tokenState] at hsome
  rw [h.appCredentials, h.obtidoCom]
  exact hs hsome

section Commands

variable {op : Cmd} {e : Env} {s : BootstrapStore} {i : ℕ}

/-- **What a command does to the authorisation**: nothing, unless it saves credentials or tokens. -/
theorem efeito_cases (op : Cmd) (e : Env) (s : BootstrapStore) :
    Mantida s (efeito e op s).1 ∨
    (∃ c, op = .saveAppCredentials c) ∨
    ∃ t clientId, op = .saveAuthorizedTokens t clientId ∧
      (efeito e op s).1.appCredentials = s.appCredentials ∧
      (efeito e op s).1.obtidoCom = some clientId := by
  cases op with
  | saveAppCredentials c => exact .inr (.inl ⟨c, rfl⟩)
  | saveAuthorizedTokens t clientId => exact .inr (.inr ⟨t, clientId, rfl, rfl, rfl⟩)
  | insertState row =>
    refine .inl ?_
    rw [efeito]
    split <;> exact ⟨rfl, rfl, rfl⟩
  | consumeState stateHash purpose now =>
    refine .inl ?_
    rw [efeito]
    split
    · split <;> exact ⟨rfl, rfl, rfl⟩
    · exact Mantida.refl s
  | _ => exact .inl (Mantida.refl s)

theorem exec_store (op : Cmd) (e : Env) (s : BootstrapStore) :
    (exec op e s).1 = s ∨ (exec op e s).1 = (efeito e op s).1 := by
  rw [exec]
  split
  next f _ =>
    dsimp only
    split
    · exact .inr rfl
    · exact .inl rfl
  next => exact .inr rfl

/-- Under the condition, what is authorised stays as it is. -/
theorem mantida_exec (h : Desimpedida s (i, op, e)) (hsome : s.tokenState.isSome = true) :
    Mantida s (exec op e s).1 := by
  have hne : s.tokenState ≠ none := Option.isSome_iff_ne_none.mp hsome
  obtain heq | heq := exec_store op e s
  all_goals rw [heq]
  · exact Mantida.refl s
  · obtain hmantida | ⟨c, rfl⟩ | ⟨t, clientId, rfl, -⟩ := efeito_cases op e s
    · exact hmantida
    · exact absurd h hne
    · exact absurd h.1 hne

/-- Under the condition, tokens and credentials stay coherent. -/
theorem coerente_exec (h : Desimpedida s (i, op, e)) (hs : Coerente s) :
    Coerente (exec op e s).1 := by
  obtain heq | heq := exec_store op e s
  all_goals rw [heq]
  · exact hs
  · obtain hmantida | ⟨c, rfl⟩ | ⟨t, clientId, rfl, hcredentials, hobtido⟩ := efeito_cases op e s
    · exact hmantida.coerente hs
    · intro hsome
      have hnone : (efeito e (.saveAppCredentials c) s).1.tokenState = none := h
      rw [hnone] at hsome
      cases hsome
    · intro _
      obtain ⟨c, hc, rfl⟩ := Option.map_eq_some_iff.mp h.2
      exact ⟨c, hcredentials.trans hc, hobtido⟩

end Commands

/-! ## Runs -/

section Run

variable {cfg : Config} {p p' : Processos} {m : Passo} {tr : List Passo}

/-- **One move.** It performs a command that meets the condition, or leaves the store alone. -/
theorem step_cases (h : (desimpedidos cfg).step p m p') :
    p'.store = p.store ∨
    ∃ i op e, Desimpedida p.store (i, op, e) ∧ p'.store = (exec op e p.store).1 := by
  obtain ⟨hcalls, hstep⟩ := h
  rw [Pool.step_eq hstep]
  obtain ⟨-, hm⟩ | ⟨i, c, -, hm⟩ | ⟨i, op, e, k, hnext, -, hm⟩ | ⟨i, -, hm⟩ :=
    Pool.move_cases (code cfg) machine m.1 p
  all_goals rw [hm]
  · exact .inl rfl
  · exact .inl rfl
  · exact .inr ⟨i, op, e, hcalls _ hnext, rfl⟩
  · exact .inl rfl

theorem mantida_of_path (h : (desimpedidos cfg).Path p tr p')
    (hsome : p.store.tokenState.isSome = true) : Mantida p.store p'.store := by
  refine h.preserves (P := fun p' ↦ Mantida p.store p'.store) (fun hmantida hstep ↦ ?_)
    (Mantida.refl p.store)
  obtain heq | ⟨i, op, e, hcond, heq⟩ := step_cases hstep
  all_goals rw [heq]
  · exact hmantida
  · refine hmantida.trans (mantida_exec hcond ?_)
    rw [hmantida.tokenState]
    exact hsome

theorem coerente_of_run (h : (desimpedidos cfg).Run tr p) : Coerente p.store := by
  refine TransitionSystem.Run.invariant (I := fun p ↦ Coerente p.store) (fun hinit ↦ ?_)
    (fun hI hstep ↦ ?_) h
  · rw [hinit]
    exact fun hsome ↦ nomatch hsome
  · obtain heq | ⟨i, op, e, hcond, heq⟩ := step_cases hstep
    all_goals rw [heq]
    · exact hI
    · exact coerente_exec hcond hI

end Run

/-! ## Two flows -/

def sampleConfig : Config where
  py := sampleConversoes
  unicode := .ascii
  sha256
    | "state-1" => "f36b45ae818809ee24ae2489edabfe3cf2a12627b6929c07fc7a3b885d414d44"
    | "state-2" => "046977fe25d893edf85927c4a038248b161c4b13431d0b5b9489e8bf179d89ae"
    | "state-3" => "4cefe3f00029ec94bf7071c7ce0fbe939bebdd387c3ff4c80b3dcecee5bd0f0f"
    | _ => "3e8ceaf68a161f9dabda59e03b5ab8ec86aa5af0f4c2c92a5e633d2a379a6297"
  bootstrapEnabled := true
  publicBaseUrl := "https://broker.example.com/"
  githubAppManifestPermission := "agent_tasks"
  chaveValida := true
  bootstrapStateTtlSeconds := 900
  allowedRepository := "ericson-j-santos/reqsys-v2-enterprise-real"

/-- GitHub has created an App. -/
def sampleApp (clientId : String) : Response where
  statusCode := 201
  json := some (.obj [("id", .num 1001), ("slug", .str "reqsys-broker"),
    ("client_id", .str clientId), ("client_secret", .str "segredo")])

/-- GitHub exchanges a code. -/
def sampleTokens : Response where
  statusCode := 200
  json := some (Par.toJson ⟨"ghu_1", "ghr_1", 28800, 15897600⟩)

/-- GitHub lists the repositories of the installation. -/
def sampleRepositories : Response where
  statusCode := 200
  json := some (.obj [("total_count", .num 1), ("repositories",
    .arr [.obj [("full_name", .str "ericson-j-santos/reqsys-v2-enterprise-real")]])])

/-- Request `i` starts and takes `n` steps. -/
def sampleStart (i : ℕ) (c : Pedido) (n : ℕ) (token : String) (response : Response) :
    List (Move Pedido Env) :=
  .start i c :: List.replicate n
    (.advance i { now := 1767225600, token := token, response := response })

/-- A flow is started. -/
def sampleForm (i : ℕ) (csrfState : String) : List (Move Pedido Env) :=
  sampleStart i .bootstrapStart 5 csrfState sampleTokens

/-- The App of a flow is created. -/
def sampleManifest (i : ℕ) (csrfState clientId installState : String) (n : ℕ) :
    List (Move Pedido Env) :=
  sampleStart i (.manifestCallback "a1b2c3" csrfState) n installState (sampleApp clientId)

/-- The App is installed and authorised. -/
def sampleAuthorize : List (Move Pedido Env) :=
  sampleStart 2 (.installCallback 77 (some "state-2")) 7 "state-3" sampleTokens ++
    sampleStart 3 (.oauthCallback "d4e5f6" "state-3") 4 "" sampleTokens ++
    List.replicate 5 (.advance 3 { now := 1767225600, response := sampleRepositories })

/-- One flow from the form to the tokens. -/
def sampleFlow : List (Move Pedido Env) :=
  sampleForm 0 "state-1" ++ sampleManifest 1 "state-1" "Iv1.a" "state-2" 8 ++ sampleAuthorize

/-- Another flow is started before. -/
def sampleOther : List (Move Pedido Env) := sampleForm 4 "state-4" ++ sampleFlow

/-- The trace and the requests after moves that may overlap. -/
def sampleRun (moves : List (Move Pedido Env)) (p : Processos) : List Passo × Processos :=
  TransitionSystem.runCalls (Pool.move (code sampleConfig) machine) moves p

/-- No request yet. -/
def sampleInicio : Processos := ⟨{}, fun _ ↦ none⟩

theorem authorized_sampleFlow :
    (sampleRun sampleFlow sampleInicio).2.store.tokenState.isSome = true := by
  decide +kernel

end Bootstrap

end TokenBroker

end ReqSys
