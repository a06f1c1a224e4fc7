import Mathlib
import ReqSys.SessionSecurity.Management
import ReqSys.Foundation.Answers

/-!
# Session security: a revoked token stays revoked

`invalidate_all` reads the epoch in one transaction and writes the next one in another. If two
other calls raise the epoch in between, the write takes it back, and the tokens that were issued and
revoked in the meantime are valid again.

`revogado_of_run` says that nothing else takes the epoch back: if every update finds an epoch that
is at most the one it writes, the epoch never decreases, and a token that was refused once is
refused by every later call.
-/

namespace ReqSys

namespace SessionSecurity

open Program

/-! ## The epoch -/

/-- The current epoch. -/
def epoca (db : Banco) : ℕ := (db.map SecuritySessionState.sessionEpoch).getD 0

/-- The condition on a command: an update finds no later epoch than the one it writes. -/
def Monotona (db : Banco) : ℕ × Cmd × Env → Prop
  | (_, .update _ state, _) => epoca db ≤ state.sessionEpoch
  | _ => True

instance (db : Banco) (x : ℕ × Cmd × Env) : Decidable (Monotona db x) :=
  match x with
  | (_, .update _ _, _) => inferInstanceAs (Decidable (_ ≤ _))
  | (_, .get, _) | (_, .insert _, _) | (_, .now, _) => instDecidableTrue

/-- The calls under this condition. -/
def monotonas (cfg : Config) : TransitionSystem Processos Passo :=
  (sessoes cfg).restrict fun p m ↦ ∀ x ∈ p.nextCall m.1, Monotona p.store x

section Commands

variable {op : Cmd} {e : Env} {db : Banco} {i : ℕ}

theorem epoca_efeito {now : String} (h : Monotona db (i, op, e)) :
    epoca db ≤ epoca (efeito now op db).1 := by
  cases op with
  | get => exact le_rfl
  | now => exact le_rfl
  | insert state =>
    cases db with
    | none => exact Nat.zero_le _
    | some current => exact le_rfl
  | update loaded state =>
    cases db with
    | none => exact le_rfl
    | some current =>
      change current.sessionEpoch ≤ coluna loaded.sessionEpoch state.sessionEpoch _
      rw [coluna]
      split
      · exact le_rfl
      · exact h

/-- **One command.** -/
theorem epoca_exec (h : Monotona db (i, op, e)) : epoca db ≤ epoca (exec op e db).1 := by
  rw [exec]
  split
  next f _ =>
    dsimp only
    split
    · exact epoca_efeito h
    · exact le_rfl
  next => exact epoca_efeito h

/-- The answers with a row whose epoch satisfies `Q`. -/
def Lido (Q : ℕ → Prop) : (op : Cmd) → Except Erro op.Ans → Prop
  | .get, .ok (some state) => Q state.sessionEpoch
  | _, _ => True

theorem lido_exec {Q : ℕ → Prop} (h : Q (epoca db)) : Lido Q op (exec op e db).2 := by
  cases op with
  | get =>
    rw [exec]
    split
    · trivial
    · cases db with
      | none => trivial
      | some state => exact h
  | _ => trivial

end Commands

section Programs

variable {Q : ℕ → Prop} {cfg : Config}

theorem refresh_meets :
    refresh.Meets (Lido Q) (fun _ ↦ True) fun state ↦ Q state.sessionEpoch := by
  refine ⟨trivial, fun r hr ↦ ?_⟩
  rcases r with x | _ | state
  · exact trivial
  · exact trivial
  · exact hr

theorem getOrCreate_meets :
    getOrCreate.Meets (Lido Q) (fun _ ↦ True) fun state ↦ Q state.sessionEpoch := by
  refine ⟨trivial, fun r hr ↦ ?_⟩
  rcases r with x | _ | state
  · exact trivial
  · exact (Meets.of_allCalls (.of_forall (fun _ ↦ trivial) (run (.insert {})))).bind fun _ _ ↦
      refresh_meets
  · exact hr

/-- A token is judged by a row that was read. -/
theorem validateTokenSecurity_meets (token : Token) :
    (validateTokenSecurity cfg token).Meets (Lido Q) (fun _ ↦ True) fun v ↦
      ∃ state : SessionSecuritySnapshot, Q state.sessionEpoch ∧ v = state.validar token :=
  (getOrCreate_meets.bind (R := fun state : SessionSecuritySnapshot ↦ Q state.sessionEpoch)
    fun _ h ↦ h).bind fun state h ↦ ⟨state, h, rfl⟩

theorem validar_eq_revogado {state : SessionSecuritySnapshot} {token : Token} :
    state.validar token = revogado ↔ token.epoch < state.sessionEpoch := by
  rw [SessionSecuritySnapshot.validar]
  split
  next h => exact iff_of_true rfl h
  next h =>
    refine iff_of_false ?_ h
    split <;> decide

/-- A token that is refused is of an epoch before `n`. -/
def Resposta.Antes (n : ℕ) : Resposta → Prop
  | validade token v => v = revogado → token.epoch < n
  | _ => True

theorem code_meets (n : ℕ) (c : Chamada) :
    (code cfg c).Meets (Lido (· ≤ n)) (fun _ ↦ True) (Resposta.Antes n) := by
  cases c with
  | invalidateAll x =>
    exact (Meets.of_allCalls (.of_forall (fun _ ↦ trivial) (invalidateAll cfg x))).bind
      fun _ _ ↦ trivial
  | tokenSecurityClaims =>
    exact (Meets.of_allCalls (.of_forall (fun _ ↦ trivial) (tokenSecurityClaims cfg))).bind
      fun _ _ ↦ trivial
  | validateTokenSecurity token =>
    refine (validateTokenSecurity_meets token).bind fun v hv hrevogado ↦ ?_
    obtain ⟨state, hepoch, rfl⟩ := hv
    exact Int.lt_of_lt_of_le (validar_eq_revogado.mp hrevogado) (Int.ofNat_le.mpr hepoch)

/-- Every row that can still be read refuses the token. -/
theorem validade_meets {n : ℕ} {token : Token} (h : token.epoch < n) :
    (code cfg (.validateTokenSecurity token)).Meets (Lido (n ≤ ·)) (fun _ ↦ True) fun r ↦
      ∀ token' v, r = .validade token' v → v = revogado := by
  refine (validateTokenSecurity_meets token).bind fun v hv token' v' heq ↦ ?_
  cases heq
  obtain ⟨state, hepoch, rfl⟩ := hv
  exact validar_eq_revogado.mpr (Int.lt_of_lt_of_le h (Int.ofNat_le.mpr hepoch))

end Programs

/-! ## Runs -/

/-- The token was refused as revoked. -/
def Recusado (tr : List Passo) (token : Token) : Prop :=
  ∃ m, (m, some (.ok (.validade token revogado))) ∈ tr

/-- A move that does not end what slot `i` does. -/
def Durante (i : ℕ) (m : Passo) : Prop := m.1.slot = i → m.2 = none ∧ m.1 ≠ .crash i

/-- A `validate_token_security` call that starts now may return this. -/
def Validou (T : TransitionSystem Processos Passo) (p : Processos) (token : Token) (v : Validade) :
    Prop :=
  ∃ i e p₁ tr p₂ p₃, p.task i = none ∧ T.step p (.start i (.validateTokenSecurity token), none) p₁ ∧
    (T.restrict fun _ ↦ Durante i).Path p₁ tr p₂ ∧
    T.step p₂ (.advance i e, some (.ok (.validade token v))) p₃

section Run

variable {cfg : Config} {p p' : Processos} {m : Passo} {tr : List Passo}

theorem epoca_of_step (h : (monotonas cfg).step p m p') : epoca p.store ≤ epoca p'.store := by
  obtain ⟨hcalls, hstep⟩ := h
  rw [Pool.step_eq hstep]
  obtain ⟨-, hm⟩ | ⟨i, c, -, hm⟩ | ⟨i, op, e, k, hnext, -, hm⟩ | ⟨i, -, hm⟩ :=
    Pool.move_cases (code cfg) machine m.1 p
  · rw [hm]
  · rw [hm]
    exact le_rfl
  · rw [hm]
    exact epoca_exec (hcalls _ hnext)
  · rw [hm]
    exact le_rfl

theorem epoca_of_path (h : (monotonas cfg).Path p tr p') : epoca p.store ≤ epoca p'.store :=
  h.preserves (P := fun p' ↦ epoca p.store ≤ epoca p'.store)
    (fun hle hstep ↦ hle.trans (epoca_of_step hstep)) le_rfl

/-- The invariant with history: a token that was refused is of an earlier epoch. -/
structure Superada (tr : List Passo) (p : Processos) : Prop where
  antes : ∀ n, Pool.MeetingTo (Lido (· ≤ n)) (fun _ ↦ True) (Resposta.Antes n) (epoca · ≤ n) p
  recusado : ∀ token, Recusado tr token → token.epoch < epoca p.store

theorem superada_of_run (h : (monotonas cfg).Run tr p) : Superada tr p := by
  refine TransitionSystem.Run.traceInvariant (fun hinit ↦ ?_) (fun {tr p m p'} _ hI hstep ↦ ?_) h
  · rw [hinit]
    refine ⟨fun n _ i q hq ↦ (nomatch hq), ?_⟩
    rintro token ⟨m, hm⟩
    cases hm
  · have hle := epoca_of_step hstep
    refine ⟨fun n ↦ ?_, ?_⟩
    · exact (hI.antes n).step (code_meets n) hstep.2 hle.trans fun hnext hn ↦
        lido_exec ((epoca_exec (hstep.1 _ hnext)).trans hn)
    · rintro token ⟨m', hm⟩
      refine Int.lt_of_lt_of_le ?_ (Int.ofNat_le.mpr hle)
      obtain hold | hnew := List.mem_append.mp hm
      · exact hI.recusado token ⟨m', hold⟩
      · obtain rfl := List.mem_singleton.mp hnew
        exact (hI.antes _).outcome hstep.2 le_rfl rfl

/-- What a call finds that starts when the token is of an earlier epoch. -/
theorem revogado_of_validou {token : Token} {v : Validade} (htoken : token.epoch < epoca p.store)
    (h : Validou (monotonas cfg) p token v) : v = revogado := by
  obtain ⟨i, e, p₁, tr, p₂, p₃, hidle, hstart, hpath, hfim⟩ := h
  let Q : Resposta → Prop := fun r ↦ ∀ token' v, r = .validade token' v → v = revogado
  let P : Processos → Prop := fun p' ↦ epoca p.store ≤ epoca p'.store ∧
    Pool.MeetingIn (Lido (epoca p.store ≤ ·)) (fun _ ↦ True) Q i p'
  have hstarted : P p₁ := by
    refine ⟨epoca_of_step hstart, ?_⟩
    rw [Pool.step_eq hstart.2, Pool.move, hidle]
    exact ⟨_, Function.update_self .., validade_meets htoken⟩
  have hend : P p₂ := by
    refine hpath.preserves (P := P) (fun {p₁ m p₂} hP hstep ↦ ?_) hstarted
    obtain ⟨hdurante, hstep⟩ := hstep
    exact ⟨hP.1.trans (epoca_of_step hstep),
      hP.2.step hstep.2 hdurante fun _ ↦ lido_exec hP.1⟩
  exact hend.2.outcome hfim.2 rfl token v rfl

end Run

/-! ## A token and two invalidations -/

def sampleConfig : Config where
  authzVersion := "rbac-5e884898da280471"

def sampleInvalidar : Chamada := .invalidateAll
  { actor := "ad***@example.com", reason := "Incidente", correlationId := "corr-1" }

/-- Call `i` takes `n` steps. -/
def sampleSteps (i n : ℕ) : List (Move Chamada Env) :=
  List.replicate n (.advance i { now := "2026-01-01T00:00:00+00:00" })

/-- Call `i` starts and takes `n` steps. -/
def sampleStart (i : ℕ) (c : Chamada) (n : ℕ) : List (Move Chamada Env) :=
  .start i c :: sampleSteps i n

/-- The trace and the calls after moves that may overlap. -/
def sampleRun (moves : List (Move Chamada Env)) : List Passo × Processos :=
  TransitionSystem.runCalls (Pool.move (code sampleConfig) machine) moves ⟨none, fun _ ↦ none⟩

theorem run_sampleRun (moves : List (Move Chamada Env)) :
    (sessoes sampleConfig).Run (sampleRun moves).1 (sampleRun moves).2 :=
  TransitionSystem.run_runCalls _ _ moves

/-- Call 9 validates a token and takes a step. -/
def sampleValida (token : Token) (p : Processos) : List Passo × Processos :=
  TransitionSystem.runCalls (Pool.move (code sampleConfig) machine) (sampleSteps 9 1)
    (Pool.move (code sampleConfig) machine (.start 9 (.validateTokenSecurity token)) p).1

theorem validou_sampleValida {p : Processos} {token : Token} {v : Validade}
    (hidle : p.task 9 = none) (hquieta : (sampleValida token p).1.map Prod.snd = [none])
    (hfim : (sampleValida token p).2.task 9 = some (.ret (.validade token v))) :
    Validou (monotonas sampleConfig) p token v := by
  let e : Env := { now := "2026-01-01T00:00:00+00:00" }
  refine ⟨9, e, (Pool.move (code sampleConfig) machine (.start 9 (.validateTokenSecurity token)) p).1,
    (sampleValida token p).1, (sampleValida token p).2,
    (Pool.move (code sampleConfig) machine (.advance 9 e) (sampleValida token p).2).1, hidle,
    ⟨by rintro x ⟨⟩, Prod.ext rfl ?_⟩, ?_, ⟨fun x hx ↦ ?_, Prod.ext rfl ?_⟩⟩
  · simp only [Pool.move, hidle]
  · refine TransitionSystem.Path.restrict_of_forall
      (TransitionSystem.path_restrict_runCalls _ ⟨fun x hx ↦ ?_, trivial⟩) fun m hm _ hslot ↦ ?_
    · simp only [Pool.move, hidle] at hx
      cases hx
      trivial
    · have hm2 : m.2 = none := by
        have := List.mem_map_of_mem (f := Prod.snd) hm
        rw [hquieta] at this
        exact List.mem_singleton.mp this
      have hm1 : m.1 = .advance 9 e := by
        have := List.mem_map_of_mem (f := Prod.fst) hm
        exact List.mem_singleton.mp this
      refine ⟨hm2, ?_⟩
      rw [hm1]
      rintro ⟨⟩
  · simp only [Pool.nextCall, hfim] at hx
    cases hx
  · simp only [Pool.move, hfim]

/-- All sessions are invalidated, and a token without claims is refused. -/
def sampleRecusa : List (Move Chamada Env) :=
  sampleStart 0 sampleInvalidar 7 ++ sampleStart 1 (.validateTokenSecurity {}) 2

theorem recusado_sampleRecusa : Recusado (sampleRun sampleRecusa).1 {} := by
  refine ⟨.advance 1 { now := "2026-01-01T00:00:00+00:00" }, ?_⟩
  have htrace : (sampleRun sampleRecusa).1[10]?
      = some (.advance 1 { now := "2026-01-01T00:00:00+00:00" },
        some (.ok (.validade {} revogado))) := by rfl
  exact List.mem_of_getElem? htrace

/-- A token of epoch 1. -/
def sampleToken : Token where
  sessionEpoch := some 1
  authzVersion := some sampleConfig.authzVersion

/-- Call 0 has read epoch 0 when calls 1 and 3 raise it to 2. Call 2 issues the token in between,
and call 4 refuses it. Then call 0 writes epoch 1. -/
def sampleRetorno : List (Move Chamada Env) :=
  sampleStart 0 sampleInvalidar 3 ++ sampleStart 1 sampleInvalidar 5 ++
    sampleStart 2 .tokenSecurityClaims 2 ++ sampleStart 3 sampleInvalidar 5 ++
    sampleStart 4 (.validateTokenSecurity sampleToken) 2 ++ sampleSteps 0 4

end SessionSecurity

end ReqSys
