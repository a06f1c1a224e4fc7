import Mathlib
import ReqSys.Agile.Runtime
import ReqSys.Foundation.Prefixes

/-!
# The agile runtime: ready and done

The gates are evaluated on entry. Whether the items that are in the guarded states satisfy them
depends on the other operations, and on the transitions that enter a state without passing by its
gate.

## Done

A concluded item loses its change link or its environment by a traceability update, which assigns
the defaults of the fields that the caller leaves out, and its change link by an event of a pull
request that has no link. These are the only ways (`feito_iff`).

## Ready

The states of the execution are entered from `pronto_para_sprint`, and also from `bloqueado` and
`reaberto`, which an item reaches without having been ready. The fields of the gate are written at
the creation only, but for the agent, which the routing always names. So the gate is walked around
by a transition out of `bloqueado` or `reaberto` into the execution, and in no other way
(`preparado_iff`). The invariant also covers `reprovado`, which is entered from the execution.
-/

namespace ReqSys

namespace Agile

open PyText

variable {U : Unicode} {b : Banco}

/-! ## Done -/

/-- The item satisfies the gate of `concluido`. -/
def Banco.Feito (b : Banco) (r : AgileWorkItem) : Prop :=
  truthy r.changeUrl ∧ r.ciStatus ≠ .unknown ∧ r.ambienteDeploy ≠ .none ∧ b.evidenciasDe r ≠ []

instance (b : Banco) (r : AgileWorkItem) : Decidable (b.Feito r) := by
  unfold Banco.Feito
  infer_instance

theorem Banco.feito_iff_validarGate {r : AgileWorkItem} :
    b.Feito r ↔ validarGate r (b.evidenciasDe r) .concluido = .ok () :=
  validarGate_concluido.symm

/-- The definition of done: every concluded item satisfies its gate. -/
def Banco.DefinicaoDeFeito (b : Banco) : Prop :=
  ∀ r ∈ b.itens.rows, r.status = .concluido → b.Feito r

instance (b : Banco) : Decidable b.DefinicaoDeFeito := by
  unfold Banco.DefinicaoDeFeito
  infer_instance

/-- The last event of a pull or merge request that is addressed to an item. -/
def ultimaMudanca (U : Unicode) (eventos : List EventoGit) (r : AgileWorkItem) :
    Option EventoGit :=
  (eventos.filter fun e ↦ e.enderecado U r && e.deMudanca).getLast?

/-- The call leaves the links of the concluded items in place. -/
def PreservaFeito (U : Unicode) (b : Banco) : Chamada → Prop
  | .atualizarRastreabilidade id p _ =>
    (∃ r ∈ b.itens.rows, r.id = id ∧ r.status = .concluido) →
      truthy p.changeUrl ∧ p.ciStatus ≠ .unknown ∧ p.ambienteDeploy ≠ .none
  | .sincronizarWorkItemsGit eventos =>
    ∀ r ∈ b.itens.rows, r.status = .concluido →
      ∀ e ∈ ultimaMudanca U eventos r, truthy e.url
  | _ => True

/-- Evidences are not removed. -/
theorem evidenciasDe_chamar {c : Chamada} {r : AgileWorkItem} (h : b.evidenciasDe r ≠ []) :
    (b.chamar U c).evidenciasDe (c.efeito U b r) ≠ [] := by
  obtain ⟨e, he⟩ := List.exists_mem_of_ne_nil _ h
  rw [Banco.evidenciasDe, List.mem_filter] at he
  refine List.ne_nil_of_mem (a := e) ?_
  rw [Banco.evidenciasDe, List.mem_filter, id_efeito]
  exact ⟨(evidencias_chamar c).subset he.1, he.2⟩

section Sincronizado

variable (eventos : List EventoGit) (r : AgileWorkItem)

/-- No event concludes an item or reopens one. -/
theorem status_sincronizado :
    (sincronizado U eventos r).status = .concluido ↔ r.status = .concluido := by
  induction eventos generalizing r with
  | nil => exact Iff.rfl
  | cons e eventos ih =>
    rw [sincronizado, List.foldl_cons, ← sincronizado, ih]
    split
    · rw [EventoGit.aplicar]
      dsimp only
      split
      next h =>
        refine iff_of_false (by decide) fun hr ↦ ?_
        rw [hr] at h
        exact absurd h.2 (by decide)
      next => exact Iff.rfl
    · exact Iff.rfl

theorem ciStatus_sincronizado (h : r.ciStatus ≠ .unknown) :
    (sincronizado U eventos r).ciStatus ≠ .unknown := by
  induction eventos generalizing r with
  | nil => exact h
  | cons e eventos ih =>
    rw [sincronizado, List.foldl_cons, ← sincronizado]
    apply ih
    split
    · rw [EventoGit.aplicar]
      dsimp only
      split
      · decide
      · exact h
    · exact h

theorem ambienteDeploy_sincronizado (h : r.ambienteDeploy ≠ .none) :
    (sincronizado U eventos r).ambienteDeploy ≠ .none := by
  induction eventos generalizing r with
  | nil => exact h
  | cons e eventos ih =>
    rw [sincronizado, List.foldl_cons, ← sincronizado]
    apply ih
    split
    · rw [EventoGit.aplicar]
      dsimp only
      split
      next hambiente => exact hambiente
      next => exact h
    · exact h

/-- The link is the one of the last event of a change. -/
theorem changeUrl_sincronizado :
    (sincronizado U eventos r).changeUrl
      = ((ultimaMudanca U eventos r).map EventoGit.url).getD r.changeUrl := by
  induction eventos using List.reverseRecOn with
  | nil => rfl
  | append_singleton eventos e ih =>
    have hcodigo : e.enderecado U (sincronizado U eventos r) = e.enderecado U r := by
      rw [EventoGit.enderecado, EventoGit.enderecado, codigo_sincronizado]
    rw [sincronizado, List.foldl_concat, ← sincronizado, hcodigo, ultimaMudanca,
      List.filter_append, List.filter_singleton]
    by_cases hender : e.enderecado U r = true
    · by_cases hmudanca : e.deMudanca = true
      · rw [if_pos hender, EventoGit.aplicar, hender, hmudanca]
        simp
      · rw [if_pos hender, EventoGit.aplicar, if_neg hmudanca, ih, ultimaMudanca]
        simp [hmudanca]
    · rw [if_neg hender, ih, ultimaMudanca]
      simp [hender]

end Sincronizado

/-- One row and one call: a concluded item satisfies the gate after the call if and only if the call
leaves its links in place. -/
theorem feito_efeito_iff (c : Chamada) (hb : b.DefinicaoDeFeito) :
    (∀ r ∈ b.itens.rows, (c.efeito U b r).status = .concluido →
      (b.chamar U c).Feito (c.efeito U b r)) ↔ PreservaFeito U b c := by
  -- a row that keeps its status and the three fields keeps the gate
  have hkeep : ∀ r ∈ b.itens.rows, r.status = .concluido →
      (c.efeito U b r).changeUrl = r.changeUrl → (c.efeito U b r).ciStatus = r.ciStatus →
      (c.efeito U b r).ambienteDeploy = r.ambienteDeploy →
      (b.chamar U c).Feito (c.efeito U b r) := by
    intro r hr hstatus hurl hci hambiente
    obtain ⟨h₁, h₂, h₃, h₄⟩ := hb r hr hstatus
    exact ⟨by rwa [hurl], by rwa [hci], by rwa [hambiente], evidenciasDe_chamar h₄⟩
  cases c with
  | criarWorkItem timeNs p x =>
    exact iff_of_true (fun r hr h ↦ hkeep r hr h rfl rfl rfl) trivial
  | transicionarWorkItem id p x =>
    refine iff_of_true (fun r hr h ↦ ?_) trivial
    by_cases hcond : r.id = id ∧ p.status ∈ statusTransitions r.status ∧
        camposFaltantes r (b.evidenciasDe r) p.status = []
    · have hefeito : Chamada.efeito U b (.transicionarWorkItem id p x) r
          = { r with status := p.status } := if_pos hcond
      rw [hefeito] at h
      have hgate : validarGate r (b.evidenciasDe r) .concluido = .ok () := by
        rw [validarGate, require_eq_ok, ← h]
        exact hcond.2.2
      obtain ⟨h₁, h₂, h₃, h₄⟩ := validarGate_concluido.mp hgate
      have hevid := evidenciasDe_chamar (U := U) (c := .transicionarWorkItem id p x) h₄
      rw [hefeito] at hevid ⊢
      exact ⟨h₁, h₂, h₃, hevid⟩
    · have hefeito : Chamada.efeito U b (.transicionarWorkItem id p x) r = r := if_neg hcond
      rw [hefeito] at h
      exact hkeep r hr h (by rw [hefeito]) (by rw [hefeito]) (by rw [hefeito])
  | atualizarRastreabilidade id p x =>
    constructor
    · rintro h ⟨r, hr, hid, hstatus⟩
      have hefeito : Chamada.efeito U b (.atualizarRastreabilidade id p x) r = p.aplicar r :=
        if_pos hid
      have hr' := h r hr
      rw [hefeito] at hr'
      obtain ⟨h₁, h₂, h₃, -⟩ := hr' hstatus
      exact ⟨h₁, h₂, h₃⟩
    · intro h r hr hstatus
      by_cases hid : r.id = id
      · have hefeito : Chamada.efeito U b (.atualizarRastreabilidade id p x) r = p.aplicar r :=
          if_pos hid
        rw [hefeito] at hstatus
        obtain ⟨h₁, h₂, h₃⟩ := h ⟨r, hr, hid, hstatus⟩
        have hevid := evidenciasDe_chamar (U := U) (c := .atualizarRastreabilidade id p x)
          (hb r hr hstatus).2.2.2
        rw [hefeito] at hevid ⊢
        exact ⟨h₁, h₂, h₃, hevid⟩
      · have hefeito : Chamada.efeito U b (.atualizarRastreabilidade id p x) r = r := if_neg hid
        rw [hefeito] at hstatus
        exact hkeep r hr hstatus (by rw [hefeito]) (by rw [hefeito]) (by rw [hefeito])
  | criarEvidencia id p x =>
    exact iff_of_true (fun r hr h ↦ hkeep r hr h rfl rfl rfl) trivial
  | aplicarRoteamentoMultiIa id x =>
    refine iff_of_true (fun r hr h ↦ ?_) trivial
    by_cases hid : r.id = id
    · have hefeito : Chamada.efeito U b (.aplicarRoteamentoMultiIa id x) r
          = Banco.roteado (recomendarRoteamentoMultiIa U r) r := if_pos hid
      rw [hefeito] at h
      exact hkeep r hr h (by rw [hefeito, Banco.roteado]) (by rw [hefeito, Banco.roteado])
        (by rw [hefeito, Banco.roteado])
    · have hefeito : Chamada.efeito U b (.aplicarRoteamentoMultiIa id x) r = r := if_neg hid
      rw [hefeito] at h
      exact hkeep r hr h (by rw [hefeito]) (by rw [hefeito]) (by rw [hefeito])
  | sincronizarWorkItemsGit eventos =>
    constructor
    · intro h r hr hstatus e he
      obtain ⟨hurl, -, -, -⟩ := h r hr ((status_sincronizado eventos r).mpr hstatus)
      rw [Chamada.efeito, changeUrl_sincronizado, Option.mem_def.mp he] at hurl
      exact hurl
    · intro h r hr hstatus
      have hstatus := (status_sincronizado eventos r).mp hstatus
      obtain ⟨h₁, h₂, h₃, h₄⟩ := hb r hr hstatus
      refine ⟨?_, ciStatus_sincronizado eventos r h₂, ambienteDeploy_sincronizado eventos r h₃,
        evidenciasDe_chamar h₄⟩
      rw [Chamada.efeito, changeUrl_sincronizado]
      rcases hultima : ultimaMudanca U eventos r with _ | e
      · exact h₁
      · exact h r hr hstatus e hultima

/-- One call from a state in which the definition of done holds. -/
theorem definicaoDeFeito_chamar_iff (c : Chamada) (hb : b.DefinicaoDeFeito) :
    (b.chamar U c).DefinicaoDeFeito ↔ PreservaFeito U b c := by
  rw [← feito_efeito_iff c hb, Banco.DefinicaoDeFeito]
  obtain ⟨novos, hrows, hnovos⟩ := rows_chamar (U := U) (b := b) c
  rw [hrows]
  constructor
  · intro h r hr
    exact h _ (List.mem_append_left _ (List.mem_map_of_mem hr))
  · intro h r hr hstatus
    obtain hr | hr := List.mem_append.mp hr
    · obtain ⟨r', hr', rfl⟩ := List.mem_map.mp hr
      exact h r' hr' hstatus
    · rw [hnovos r hr] at hstatus
      exact absurd hstatus (by decide)

/-- **Definition of done.** In every state of a run the concluded items satisfy the gate if and only
if every call leaves the links of the concluded items in place. -/
theorem feito_iff (U : Unicode) (cs : List Chamada) :
    (∀ pre, pre <+: cs → (Banco.chamadas U pre).DefinicaoDeFeito) ↔
      ∀ pre c, pre ++ [c] <+: cs → PreservaFeito U (Banco.chamadas U pre) c :=
  forall_prefix_iff (I := Banco.DefinicaoDeFeito)
    (fun _ hr ↦ absurd hr List.not_mem_nil) (fun _ h ↦ h)
    (fun _ c hb hc ↦ (definicaoDeFeito_chamar_iff c hb).mpr hc)
    (fun _ c hb h ↦ (definicaoDeFeito_chamar_iff c hb).mp h) cs

/-- The creation of an item and its transitions. -/
def percurso (p : AgileWorkItemCriar) (estados : List Status) : List Chamada :=
  .criarWorkItem 1700000000123456789 p none ::
    estados.map fun status ↦ .transicionarWorkItem 1 { status } none

/-- A story that is ready. -/
def historia : AgileWorkItemCriar where
  titulo := "Exportar relatório"
  descricao := "O relatório é exportado em arquivo."
  pontos := 3
  ownerAi := some "backend-ia"
  sprintId := some 1
  criteriosAceite := some "O arquivo existe."

/-- The story is concluded; then its deployment is recorded, and nothing else. -/
def conclusaoAtualizada : List Chamada :=
  percurso historia [.refinando, .prontoParaSprint, .planejado, .emExecucao, .emRevisao, .emCi,
    .homologacao, .evidenciado, .producao, .monitorado] ++
  [.atualizarRastreabilidade 1
    { changeUrl := some "https://github.com/o/r/pull/7"
      ciStatus := .success
      ambienteDeploy := .prod } none,
   .criarEvidencia 1 { tipo := .teste, titulo := "Testes verdes" } none,
   .transicionarWorkItem 1 { status := .concluido } none,
   .atualizarRastreabilidade 1 { deployStatus := .deployed } none]

theorem conclusao_perde_feito :
    ¬∀ cs, (Banco.chamadas .ascii cs).DefinicaoDeFeito := by
  have hfalha : ¬(Banco.chamadas .ascii conclusaoAtualizada).DefinicaoDeFeito := by
    decide +kernel
  exact fun h ↦ hfalha (h _)

/-! ## Ready -/

/-- The item satisfies the gate of `pronto_para_sprint`. -/
def Preparado (r : AgileWorkItem) : Prop :=
  truthy r.criteriosAceite ∧ r.sprintId.getD 0 ≠ 0 ∧ truthy r.ownerAi ∧ 0 < r.pontos

instance (r : AgileWorkItem) : Decidable (Preparado r) := by
  unfold Preparado
  infer_instance

theorem preparado_iff_validarGate {r : AgileWorkItem} :
    Preparado r ↔ validarGate r (b.evidenciasDe r) .prontoParaSprint = .ok () :=
  validarGate_prontoParaSprint.symm

/-- The states after `pronto_para_sprint`, up to the conclusion. -/
def emAndamento : List Status :=
  [.planejado, .emExecucao, .emRevisao, .emCi, .homologacao, .evidenciado, .producao, .monitorado,
    .concluido]

/-- The definition of ready: every item on its way satisfies the gate. -/
def Banco.DefinicaoDePreparado (b : Banco) : Prop :=
  ∀ r ∈ b.itens.rows, r.status ∈ emAndamento → Preparado r

instance (b : Banco) : Decidable b.DefinicaoDePreparado := by
  unfold Banco.DefinicaoDePreparado
  infer_instance

/-- The call does not take an item that is not ready from `bloqueado` or `reaberto` into the
execution. -/
def PassaPelaPorta (b : Banco) : Chamada → Prop
  | .transicionarWorkItem id p _ =>
    ∀ r ∈ b.itens.rows, r.id = id → r.status ∈ [.bloqueado, .reaberto] →
      p.status ∈ [.planejado, .emExecucao] → p.status ∈ statusTransitions r.status → Preparado r
  | _ => True

/-- The states that are only reached by a ready item, where every call passes by the gate. -/
def preparados : List Status := .prontoParaSprint :: .reprovado :: emAndamento

/-- The invariant. -/
def Banco.Preparados (b : Banco) : Prop :=
  ∀ r ∈ b.itens.rows, r.status ∈ preparados → Preparado r

/-- The edges into the guarded states that start outside of them. -/
theorem desvio {s d : Status} (h : d ∈ statusTransitions s) (hd : d ∈ preparados) :
    s ∈ preparados ∨ d = .prontoParaSprint ∨
      s ∈ [.bloqueado, .reaberto] ∧ d ∈ [.planejado, .emExecucao] := by
  cases s <;> revert d <;> decide

theorem preparado_sincronizado (eventos : List EventoGit) {r : AgileWorkItem} (h : Preparado r) :
    Preparado (sincronizado U eventos r) := by
  induction eventos generalizing r with
  | nil => exact h
  | cons e eventos ih =>
    rw [sincronizado, List.foldl_cons, ← sincronizado]
    apply ih
    split <;> exact h

/-- An event moves items between two states of the execution only. -/
theorem mem_preparados_sincronizado (eventos : List EventoGit) (r : AgileWorkItem) :
    (sincronizado U eventos r).status ∈ preparados ↔ r.status ∈ preparados := by
  induction eventos generalizing r with
  | nil => exact Iff.rfl
  | cons e eventos ih =>
    rw [sincronizado, List.foldl_cons, ← sincronizado, ih]
    split
    · rw [EventoGit.aplicar]
      dsimp only
      split
      next h =>
        refine iff_of_true (by decide) ?_
        have hsub : ([.emExecucao, .emRevisao] : List Status) ⊆ preparados := by decide
        exact hsub h.2
      next => exact Iff.rfl
    · exact Iff.rfl

/-- Only the routing writes a field of the gate, and it names an agent. -/
theorem preparado_efeito (c : Chamada) {r : AgileWorkItem} (h : Preparado r) :
    Preparado (c.efeito U b r) := by
  cases c with
  | criarWorkItem timeNs p x => exact h
  | transicionarWorkItem id p x =>
    rw [Chamada.efeito]
    split <;> exact h
  | atualizarRastreabilidade id p x =>
    rw [Chamada.efeito]
    split <;> exact h
  | criarEvidencia id p x => exact h
  | aplicarRoteamentoMultiIa id x =>
    rw [Chamada.efeito]
    split
    · exact ⟨h.1, h.2.1, truthy_ownerAi U r, h.2.2.2⟩
    · exact h
  | sincronizarWorkItemsGit eventos => exact preparado_sincronizado eventos h

/-- **One row and one call.** A ready item stays ready, and an item enters the guarded states by the
gate, or by a detour that the call avoids. -/
theorem preparado_of_status_efeito {c : Chamada} (hc : PassaPelaPorta b c) {r : AgileWorkItem}
    (hr : r ∈ b.itens.rows) (hprep : r.status ∈ preparados → Preparado r)
    (h : (c.efeito U b r).status ∈ preparados) : Preparado (c.efeito U b r) := by
  apply preparado_efeito
  cases c with
  | criarWorkItem timeNs p x => exact hprep h
  | transicionarWorkItem id p x =>
    rw [Chamada.efeito] at h
    split at h
    next hcond =>
      obtain ⟨hid, hproximo, hgate⟩ := hcond
      obtain hs | hporta | ⟨hs, hd⟩ := desvio hproximo h
      · exact hprep hs
      · refine (preparado_iff_validarGate (b := b)).mpr ?_
        rw [validarGate, require_eq_ok, ← hporta]
        exact hgate
      · exact hc r hr hid hs hd hproximo
    next => exact hprep h
  | atualizarRastreabilidade id p x =>
    rw [Chamada.efeito] at h
    split at h <;> exact hprep h
  | criarEvidencia id p x => exact hprep h
  | aplicarRoteamentoMultiIa id x =>
    rw [Chamada.efeito] at h
    split at h <;> exact hprep h
  | sincronizarWorkItemsGit eventos => exact hprep ((mem_preparados_sincronizado eventos r).mp h)

theorem preparados_chamar {c : Chamada} (hb : b.Preparados) (hc : PassaPelaPorta b c) :
    (b.chamar U c).Preparados := by
  obtain ⟨novos, hrows, hnovos⟩ := rows_chamar (U := U) (b := b) c
  intro r hr hstatus
  rw [hrows] at hr
  obtain hr | hr := List.mem_append.mp hr
  · obtain ⟨r', hr', rfl⟩ := List.mem_map.mp hr
    exact preparado_of_status_efeito hc hr' (hb r' hr') hstatus
  · rw [hnovos r hr] at hstatus
    exact absurd hstatus (by decide)

/-- A call after which the items on their way are ready passes by the gate: the transition changes
no field of it. -/
theorem passaPelaPorta_of_chamar {c : Chamada} (h : (b.chamar U c).DefinicaoDePreparado) :
    PassaPelaPorta b c := by
  cases c with
  | transicionarWorkItem id p x =>
    intro r hr hid hs hd hproximo
    obtain ⟨novos, hrows, -⟩ := rows_chamar (U := U) (b := b) (.transicionarWorkItem id p x)
    have hsem : camposFaltantes r (b.evidenciasDe r) p.status = [] := by
      refine camposFaltantes_of_ne (fun hporta ↦ ?_) (fun hporta ↦ ?_) <;>
        exact absurd (hporta ▸ hd) (by decide)
    have hefeito : Chamada.efeito U b (.transicionarWorkItem id p x) r
        = { r with status := p.status } := if_pos ⟨hid, hproximo, hsem⟩
    have hmem : { r with status := p.status }
        ∈ (b.chamar U (.transicionarWorkItem id p x)).itens.rows := by
      rw [hrows, ← hefeito]
      exact List.mem_append_left _ (List.mem_map_of_mem hr)
    have hsub : ([.planejado, .emExecucao] : List Status) ⊆ emAndamento := by decide
    have hprep : Preparado { r with status := p.status } := h _ hmem (hsub hd)
    exact hprep
  | criarWorkItem timeNs p x => trivial
  | atualizarRastreabilidade id p x => trivial
  | criarEvidencia id p x => trivial
  | aplicarRoteamentoMultiIa id x => trivial
  | sincronizarWorkItemsGit eventos => trivial

/-- **Definition of ready.** In every state of a run the items on their way satisfy the gate if and
only if every transition out of `bloqueado` or `reaberto` into the execution is of an item that
satisfies it. -/
theorem preparado_iff (U : Unicode) (cs : List Chamada) :
    (∀ pre, pre <+: cs → (Banco.chamadas U pre).DefinicaoDePreparado) ↔
      ∀ pre c, pre ++ [c] <+: cs → PassaPelaPorta (Banco.chamadas U pre) c :=
  forall_prefix_iff (I := Banco.Preparados)
    (fun _ hr ↦ absurd hr List.not_mem_nil)
    (fun _ hb r hr h ↦ hb r hr (List.mem_cons_of_mem _ (List.mem_cons_of_mem _ h)))
    (fun _ _ hb hc ↦ preparados_chamar hb hc) (fun _ _ _ h ↦ passaPelaPorta_of_chamar h) cs

/-- A story of which nothing is known yet. -/
def rascunho : AgileWorkItemCriar where
  titulo := "Exportar relatório"
  descricao := "O relatório é exportado em arquivo."

theorem bloqueio_contorna_porta :
    ¬∀ cs, (Banco.chamadas .ascii cs).DefinicaoDePreparado := by
  have hfalha : ¬(Banco.chamadas .ascii
      (percurso rascunho [.refinando, .bloqueado, .planejado])).DefinicaoDePreparado := by
    decide +kernel
  exact fun h ↦ hfalha (h _)

end Agile

end ReqSys
