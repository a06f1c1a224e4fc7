import Mathlib
import ReqSys.Central.Conclusion

/-!
# The Central: admission across replicas

`aplicar_admissao` lists the requests, plans which root causes occupy the slots, and then promotes
the requests of the plan one by one. The limit on active root causes is a property of the whole
store that no single promotion looks at, so it depends on the listing still being true when the
promotions are written.

The plan itself is right: over the requests it is given it never lets more causes in than the limit
allows (`length_admittedSlots_le`), and it keeps the causes that are active already
(`mem_admittedSlots_of_active`). Two replicas that plan over listings of different moments, however,
may each admit a cause of its own. `wip_limit` says for which runs the limit stands.

* Exactly: a promotion has to find its cause among the active ones, or a free slot.
* As a rule for the scheduler: no replica reads its listing while another one still has promotions
  to write from an earlier listing.
-/

namespace ReqSys

namespace Central

/-! ## The plan -/

namespace WipPolicy

variable {limite : ℕ} {requests itens : List WorkRequest} {c : String} {t : RootCauseSlot}

/-- The causes with active work. -/
def causasAtivas (requests : List WorkRequest) : Finset String :=
  ((requests.filter fun r ↦ WorkRequestStatus.active.contains r.status).map
    WorkRequest.rootCauseId).toFinset

theorem mem_causasAtivas :
    c ∈ causasAtivas requests ↔
      ∃ r ∈ requests, r.status ∈ WorkRequestStatus.active ∧ r.rootCauseId = c := by
  simp [causasAtivas, and_assoc]

/-- The slot of a cause names the cause and the requests it was built from. -/
theorem montarSlot_eq_some (h : montarSlot c itens = some t) :
    t.rootCauseId = c ∧ ∀ q ∈ t.requestIds, ∃ r ∈ itens, r.requestId = q := by
  rw [montarSlot] at h
  split at h
  · cases h
  next primeiro demais hsort =>
    cases h
    refine ⟨rfl, fun q hq ↦ ?_⟩
    obtain ⟨r, hr, rfl⟩ := List.mem_map.mp hq
    rw [← hsort, List.mem_insertionSort] at hr
    exact ⟨r, hr, rfl⟩

theorem exists_montarSlot {r : WorkRequest} (hr : r ∈ itens) :
    ∃ t, montarSlot c itens = some t := by
  rw [montarSlot]
  split
  next hsort =>
    rw [← List.mem_insertionSort (fun a b ↦ ordemItem a b = true), hsort] at hr
    exact absurd hr List.not_mem_nil
  next => exact ⟨_, rfl⟩

theorem mem_causas : c ∈ causas requests ↔ ∃ r ∈ requests, r.rootCauseId = c := by
  rw [causas, List.mem_reverse, List.mem_dedup, List.mem_reverse, List.mem_map]

/-- The slots of a plan, in the order of admission. -/
def slots (requests : List WorkRequest) : List RootCauseSlot :=
  ((causas (requests.filter elegivel)).filterMap fun c ↦
    montarSlot c ((requests.filter elegivel).filter fun r ↦ r.rootCauseId = c)).insertionSort
      fun a b ↦ ordem a b = true

theorem mem_slots (h : t ∈ slots requests) :
    ∀ q ∈ t.requestIds, ∃ r ∈ requests, r.requestId = q ∧ r.rootCauseId = t.rootCauseId := by
  rw [slots, List.mem_insertionSort, List.mem_filterMap] at h
  obtain ⟨c, -, hslot⟩ := h
  obtain ⟨hcause, hids⟩ := montarSlot_eq_some hslot
  intro q hq
  obtain ⟨r, hr, hid⟩ := hids q hq
  obtain ⟨hr, hrc⟩ := List.mem_filter.mp hr
  refine ⟨r, (List.mem_filter.mp hr).1, hid, ?_⟩
  rw [hcause]
  exact of_decide_eq_true hrc

/-- A cause with eligible work has a slot. -/
theorem exists_slot {r : WorkRequest} (hr : r ∈ requests) (helig : elegivel r = true) :
    ∃ t ∈ slots requests, t.rootCauseId = r.rootCauseId := by
  have hmem : r ∈ requests.filter elegivel := List.mem_filter.mpr ⟨hr, helig⟩
  have hown : r ∈ (requests.filter elegivel).filter fun r' ↦ r'.rootCauseId = r.rootCauseId :=
    List.mem_filter.mpr ⟨hmem, decide_eq_true rfl⟩
  obtain ⟨t, ht⟩ := exists_montarSlot (c := r.rootCauseId) hown
  refine ⟨t, ?_, (montarSlot_eq_some ht).1⟩
  rw [slots, List.mem_insertionSort, List.mem_filterMap]
  exact ⟨r.rootCauseId, mem_causas.mpr ⟨r, hmem, rfl⟩, ht⟩

/-- No cause has two slots. -/
theorem nodup_slots (requests : List WorkRequest) :
    ((slots requests).map RootCauseSlot.rootCauseId).Nodup := by
  have hperm := (List.perm_insertionSort (fun a b ↦ ordem a b = true)
    ((causas (requests.filter elegivel)).filterMap fun c ↦
      montarSlot c ((requests.filter elegivel).filter fun r ↦ r.rootCauseId = c))).map
    RootCauseSlot.rootCauseId
  refine hperm.nodup_iff.mpr ?_
  -- the causes of the slots are a part of the causes, each of which stands there once
  have hsub : ∀ l : List String, ((l.filterMap fun c ↦
      montarSlot c ((requests.filter elegivel).filter fun r ↦ r.rootCauseId = c)).map
        RootCauseSlot.rootCauseId).Sublist l := by
    intro l
    induction l with
    | nil => exact List.Sublist.refl _
    | cons c l ih =>
      rw [List.filterMap_cons]
      split
      · exact ih.cons c
      next t ht =>
        rw [List.map_cons, (montarSlot_eq_some ht).1]
        exact ih.cons_cons c
  refine (hsub _).nodup ?_
  rw [causas, List.nodup_reverse]
  exact List.nodup_dedup _

/-- **The plan respects the limit**, counting the causes that are active already. -/
theorem length_admittedSlots_le (h : (causasAtivas requests).card ≤ limite) :
    (plan limite requests).admittedSlots.length ≤ limite := by
  set ativas := (requests.filter fun r ↦ WorkRequestStatus.active.contains r.status).map
    WorkRequest.rootCauseId with hativas
  set emAndamento := (slots requests).filter fun t ↦ ativas.contains t.rootCauseId
    with hemAndamento
  have hkept : emAndamento.length ≤ limite := by
    have hnodup : (emAndamento.map RootCauseSlot.rootCauseId).Nodup :=
      (nodup_slots requests).sublist (List.filter_sublist.map _)
    rw [← List.length_map RootCauseSlot.rootCauseId, ← List.toFinset_card_of_nodup hnodup]
    refine le_trans (Finset.card_le_card fun c hc ↦ ?_) h
    obtain ⟨t, ht, rfl⟩ := List.mem_map.mp (List.mem_toFinset.mp hc)
    exact List.mem_toFinset.mpr (List.contains_iff_mem.mp (List.mem_filter.mp ht).2)
  have hsplit : (plan limite requests).admittedSlots = emAndamento
      ++ ((slots requests).filter fun t ↦ !ativas.contains t.rootCauseId).take
        (limite - emAndamento.length) := rfl
  rw [hsplit, List.length_append, List.length_take]
  omega

/-- **The plan keeps what is active.** -/
theorem mem_admittedSlots_of_active (h : c ∈ causasAtivas requests) :
    ∃ t ∈ (plan limite requests).admittedSlots, t.rootCauseId = c := by
  obtain ⟨r, hr, hactive, rfl⟩ := mem_causasAtivas.mp h
  have helig : elegivel r = true := by
    rw [elegivel, List.contains_iff_mem.mpr hactive]
    rfl
  obtain ⟨t, ht, hcause⟩ := exists_slot hr helig
  refine ⟨t, List.mem_append_left _ (List.mem_filter.mpr ⟨ht, ?_⟩), hcause⟩
  rw [hcause, List.contains_iff_mem]
  exact List.mem_map.mpr
    ⟨r, List.mem_filter.mpr ⟨hr, List.contains_iff_mem.mpr hactive⟩, rfl⟩

/-- An admitted request is one of the requests, and its cause has an admitted slot. -/
theorem mem_admittedRequestIds {q : String}
    (h : q ∈ (plan limite requests).admittedRequestIds) :
    ∃ r ∈ requests, r.requestId = q ∧
      ∃ t ∈ (plan limite requests).admittedSlots, t.rootCauseId = r.rootCauseId := by
  obtain ⟨t, ht, hq⟩ := List.mem_flatMap.mp h
  have hslot : t ∈ slots requests := by
    rcases List.mem_append.mp ht with ht | ht
    · exact (List.mem_filter.mp ht).1
    · exact (List.mem_filter.mp (List.mem_of_mem_take ht)).1
  obtain ⟨r, hr, hid, hcause⟩ := mem_slots hslot q hq
  exact ⟨r, hr, hid, t, ht, hcause.symm⟩

end WipPolicy

/-! ## The replicas that admit -/

/-- The calls of a Central that only registers and admits. -/
inductive Admissao
  | registrar (entrada : WorkRequestInput) (momento : DateTime)
  | aplicarAdmissao

def Admissao.chamada : Admissao → Chamada
  | registrar entrada momento => .registrar entrada momento
  | aplicarAdmissao => .aplicarAdmissao

/-- A move of these replicas, with the answer it delivers. -/
abbrev PassoAdmissao := Move Admissao Env × Option (Except CentralError Resposta)

/-- Any number of replicas that register and admit over one store. -/
def admissions (cfg : Config) (s₀ : Store) : TransitionSystem Replicas PassoAdmissao :=
  Pool.interleaving s₀ (fun c : Admissao ↦ code cfg c.chamada) (machine cfg.backend)

/-- The root causes with an active status. -/
def Store.causasAtivas (s : Store) : Finset String := WipPolicy.causasAtivas s.requests

/-! ## The conditions -/

/-- A promotion finds its cause among the active ones, or a free slot. -/
def Admite (cfg : Config) (s : Store) : StoreOp × Env → Prop
  | (.atualizar q (.promover .admitted), e) =>
    ∀ raw ∈ s.aceita cfg.backend q (.promover .admitted) e, raw.status ∈ [.received, .queued] →
      raw.rootCauseId ∈ s.causasAtivas ∨ s.causasAtivas.card < cfg.maxActiveRootCauses
  | _ => True

/-- The call that a move performs finds a free slot. -/
def ChamadaAdmite (cfg : Config) (p : Replicas) (a : PassoAdmissao) : Prop :=
  ∀ x ∈ p.nextCall a.1, Admite cfg p.store x.2

/-- The calls of registering and admitting. A new request is never active. -/
def DeAdmissao : StoreOp → Prop
  | .criarSeAusente r => r.status ∉ WorkRequestStatus.active
  | .listar | .atualizar _ (.promover _) => True
  | _ => False

/-- The calls of registering and admitting, promotions to `ADMITTED` excepted. -/
def SemAdmitir (op : StoreOp) : Prop :=
  DeAdmissao op ∧ ∀ q, op ≠ .atualizar q (.promover .admitted)

/-- A listing for admission is read only when no other replica still has promotions to write from an
earlier listing. -/
def Serial (cfg : Config) (p : Replicas) (a : PassoAdmissao) : Prop :=
  ∀ i e, a.1 = .advance i e → p.task i = some (code cfg .aplicarAdmissao) →
    ∀ j q, j ≠ i → p.task j = some q → q = code cfg .aplicarAdmissao ∨ q.AllCalls SemAdmitir

/-! ## What a call does to the active causes -/

section Calls

variable {b : Backend} {s : Store} {q : String} {raw novo : WorkRequest} {e : Env} {op : StoreOp}

/-- Writing an active request over one of the same cause. -/
theorem causasAtivas_escrever_of_active (hfind : s.find q = some raw)
    (hcause : novo.rootCauseId = raw.rootCauseId)
    (hkeyed : Table.Keyed WorkRequest.requestId s.requests)
    (hnovo : novo.status ∈ WorkRequestStatus.active) :
    (s.escrever q novo).causasAtivas = insert raw.rootCauseId s.causasAtivas := by
  obtain ⟨hmem, hkey⟩ := find_eq_some hfind
  ext c
  rw [Finset.mem_insert, Store.causasAtivas, Store.causasAtivas, WipPolicy.mem_causasAtivas,
    WipPolicy.mem_causasAtivas]
  constructor
  · rintro ⟨r, hr, hactive, rfl⟩
    rcases Table.mem_update hr with ⟨hr, -⟩ | ⟨r', -, -, rfl⟩
    · exact Or.inr ⟨r, hr, hactive, rfl⟩
    · exact Or.inl hcause
  · rintro (rfl | ⟨r, hr, hactive, rfl⟩)
    · exact ⟨novo, Table.mem_update_self (f := fun _ ↦ novo) hmem hkey, hnovo, hcause⟩
    · by_cases hr' : r.requestId = q
      · -- the overwritten request itself
        obtain rfl := hkeyed.eq_of_key_eq hr hmem (hr'.trans hkey.symm)
        exact ⟨novo, Table.mem_update_self (f := fun _ ↦ novo) hmem hkey, hnovo, hcause⟩
      · exact ⟨r, Table.mem_update_of_ne hr hr', hactive, rfl⟩

/-- Writing an inactive request over an inactive one. -/
theorem causasAtivas_escrever_of_not_active (hfind : s.find q = some raw)
    (hkeyed : Table.Keyed WorkRequest.requestId s.requests)
    (hraw : raw.status ∉ WorkRequestStatus.active) (hnovo : novo.status ∉ WorkRequestStatus.active) :
    (s.escrever q novo).causasAtivas = s.causasAtivas := by
  obtain ⟨hmem, hkey⟩ := find_eq_some hfind
  ext c
  rw [Store.causasAtivas, Store.causasAtivas, WipPolicy.mem_causasAtivas,
    WipPolicy.mem_causasAtivas]
  constructor
  · rintro ⟨r, hr, hactive, rfl⟩
    rcases Table.mem_update hr with ⟨hr, -⟩ | ⟨r', -, -, rfl⟩
    · exact ⟨r, hr, hactive, rfl⟩
    · exact absurd hactive hnovo
  · rintro ⟨r, hr, hactive, rfl⟩
    refine ⟨r, Table.mem_update_of_ne hr fun hr' ↦ ?_, hactive, rfl⟩
    obtain rfl := hkeyed.eq_of_key_eq hr hmem (hr'.trans hkey.symm)
    exact hraw hactive

theorem promover_rootCauseId (atual : WorkRequest) (destino : WorkRequestStatus)
    (agora : DateTime) : (promover atual destino agora).rootCauseId = atual.rootCauseId := by
  unfold promover
  split_ifs <;> rfl

/-- A promotion to `ADMITTED` of a waiting request makes its cause active. -/
theorem causasAtivas_promover (hfind : s.find q = some raw)
    (hkeyed : Table.Keyed WorkRequest.requestId s.requests)
    (hwait : raw.status ∈ [.received, .queued]) (agora : DateTime) :
    (s.escrever q (promover raw .admitted agora)).causasAtivas
      = insert raw.rootCauseId s.causasAtivas := by
  refine causasAtivas_escrever_of_active hfind (promover_rootCauseId raw _ agora) hkeyed ?_
  rw [promover, if_pos ⟨rfl, hwait⟩]
  exact List.mem_cons_self

/-- Every other promotion leaves the active causes as they are. -/
theorem causasAtivas_promover_of_not (hfind : s.find q = some raw)
    (hkeyed : Table.Keyed WorkRequest.requestId s.requests) {destino : WorkRequestStatus}
    (h : ¬(destino = .admitted ∧ raw.status ∈ [.received, .queued])) (agora : DateTime) :
    (s.escrever q (promover raw destino agora)).causasAtivas = s.causasAtivas := by
  by_cases hactive : raw.status ∈ WorkRequestStatus.active
  · -- active work is not touched
    have hsame : promover raw destino agora = raw := by
      rw [promover, if_neg h, if_neg]
      rintro ⟨-, hreceived⟩
      rw [hreceived] at hactive
      exact absurd hactive (by decide)
    rw [hsame, causasAtivas_escrever_of_active hfind rfl hkeyed hactive]
    exact Finset.insert_eq_of_mem
      (WipPolicy.mem_causasAtivas.mpr ⟨raw, (find_eq_some hfind).1, hactive, rfl⟩)
  · refine causasAtivas_escrever_of_not_active hfind hkeyed hactive ?_
    rw [promover, if_neg h]
    split_ifs with hqueue
    · rw [hqueue.1]
      change WorkRequestStatus.queued ∉ WorkRequestStatus.active
      decide
    · exact hactive

/-- **What a call does to the active causes.** Nothing, unless it promotes a waiting request to
`ADMITTED`: then the cause of that request is active afterwards. -/
theorem causasAtivas_exec (hkeyed : Table.Keyed WorkRequest.requestId s.requests)
    (hop : DeAdmissao op) :
    ((exec b op e s).1.causasAtivas = s.causasAtivas ∧
      ∀ q, op = .atualizar q (.promover .admitted) →
        ∀ raw ∈ s.aceita b q (.promover .admitted) e, raw.status ∉ [.received, .queued]) ∨
      ∃ q raw, op = .atualizar q (.promover .admitted) ∧ s.find q = some raw ∧
        raw ∈ s.aceita b q (.promover .admitted) e ∧ raw.status ∈ [.received, .queued] ∧
        (exec b op e s).1.causasAtivas = insert raw.rootCauseId s.causasAtivas := by
  cases op with
  | listar => exact Or.inl ⟨rfl, nofun⟩
  | criarSeAusente r =>
    refine Or.inl ⟨?_, nofun⟩
    change (s.criarSeAusente b r).1.causasAtivas = _
    rw [Store.criarSeAusente]
    split
    · rfl
    · ext c
      rw [Store.causasAtivas, Store.causasAtivas, WipPolicy.mem_causasAtivas,
        WipPolicy.mem_causasAtivas]
      constructor
      · rintro ⟨r', hr', hactive, rfl⟩
        rcases List.mem_append.mp hr' with hr' | hr'
        · exact ⟨r', hr', hactive, rfl⟩
        · rw [List.mem_singleton.mp hr'] at hactive
          exact absurd hactive hop
      · rintro ⟨r', hr', hactive, rfl⟩
        exact ⟨r', List.mem_append_left _ hr', hactive, rfl⟩
  | atualizar q m =>
    cases m with
    | promover destino =>
      have hexec : (exec b (.atualizar q (.promover destino)) e s).1
          = (s.atualizar b q (.promover destino) e).1 := rfl
      rw [hexec]
      obtain ⟨hsame, hnone⟩ | ⟨raw, novo, hfind, hacc, happly, hwrite⟩ :=
        atualizar_store s b q (.promover destino) e
      · refine Or.inl ⟨by rw [hsame], ?_⟩
        rintro q' heq raw hraw
        cases heq
        rw [hnone] at hraw
        cases hraw
      · obtain rfl : promover raw destino e.agora = novo := Except.ok.inj happly
        rw [hwrite]
        by_cases h : destino = .admitted ∧ raw.status ∈ [.received, .queued]
        · obtain ⟨rfl, hwait⟩ := h
          exact Or.inr ⟨q, raw, rfl, hfind, hacc, hwait, causasAtivas_promover hfind hkeyed hwait _⟩
        · refine Or.inl ⟨causasAtivas_promover_of_not hfind hkeyed h _, ?_⟩
          rintro q' heq raw' hraw' hwait
          cases heq
          obtain rfl : raw = raw' := Option.some.inj (hacc.symm.trans hraw')
          exact h ⟨rfl, hwait⟩
    | transicionar | alinhar => exact absurd hop id
  | obter | registrarEvidencia | obterEvidencia | historicoEvidencia | statusEvidencia
  | executar => exact absurd hop id

/-- A call keeps the limit exactly when it finds a free slot. -/
theorem limit_exec {cfg : Config} (hkeyed : Table.Keyed WorkRequest.requestId s.requests)
    (hlimit : s.causasAtivas.card ≤ cfg.maxActiveRootCauses) (hop : DeAdmissao op) :
    (exec cfg.backend op e s).1.causasAtivas.card ≤ cfg.maxActiveRootCauses
      ↔ Admite cfg s (op, e) := by
  rcases causasAtivas_exec (b := cfg.backend) (e := e) hkeyed hop with
    ⟨hsame, hnone⟩ | ⟨q, raw, rfl, -, hacc, hwait, hinsert⟩
  · rw [hsame]
    refine iff_of_true hlimit ?_
    unfold Admite
    split
    next q e' heq =>
      cases heq
      exact fun raw hraw hwait ↦ absurd hwait (hnone q rfl raw hraw)
    next => trivial
  · rw [hinsert]
    have hadmite : Admite cfg s (.atualizar q (.promover .admitted), e) ↔
        raw.rootCauseId ∈ s.causasAtivas ∨ s.causasAtivas.card < cfg.maxActiveRootCauses := by
      constructor
      · intro h
        exact h raw hacc hwait
      · intro h raw' hraw' _
        obtain rfl : raw = raw' := Option.some.inj (hacc.symm.trans hraw')
        exact h
    rw [hadmite]
    by_cases hmem : raw.rootCauseId ∈ s.causasAtivas
    · rw [Finset.insert_eq_of_mem hmem]
      exact iff_of_true hlimit (Or.inl hmem)
    · rw [Finset.card_insert_of_notMem hmem, Nat.succ_le_iff]
      exact (or_iff_right hmem).symm

/-- No call of admission removes a request or changes its cause. -/
theorem find_exec (hop : DeAdmissao op) (hfind : s.find q = some raw) :
    ∃ r, (exec b op e s).1.find q = some r ∧ r.rootCauseId = raw.rootCauseId := by
  cases op with
  | listar => exact ⟨raw, hfind, rfl⟩
  | criarSeAusente r =>
    change ∃ r', (s.criarSeAusente b r).1.find q = some r' ∧ _
    rw [Store.criarSeAusente]
    split
    · exact ⟨raw, hfind, rfl⟩
    · refine ⟨raw, ?_, rfl⟩
      rw [Store.find] at hfind
      rw [Store.find, Table.lookup_concat, hfind, Option.some_or]
  | atualizar q' m =>
    cases m with
    | promover destino =>
      change ∃ r', (s.atualizar b q' (.promover destino) e).1.find q = some r' ∧ _
      obtain ⟨hsame, -⟩ | ⟨raw', novo, hfind', -, happly, hwrite⟩ :=
        atualizar_store s b q' (.promover destino) e
      · exact ⟨raw, by rw [hsame, hfind], rfl⟩
      · obtain rfl : promover raw' destino e.agora = novo := Except.ok.inj happly
        have hkey : (promover raw' destino e.agora).requestId = q' :=
          (promover_requestId raw' destino e.agora).trans (find_eq_some hfind').2
        rw [hwrite, Store.find, Store.escrever, Table.lookup_update fun _ _ ↦ hkey]
        by_cases hq : q = q'
        · subst hq
          rw [Store.find] at hfind'
          rw [if_pos rfl, hfind']
          refine ⟨_, rfl, ?_⟩
          rw [promover_rootCauseId, Option.some.inj (hfind'.symm.trans hfind)]
        · rw [if_neg hq]
          exact ⟨raw, hfind, rfl⟩
    | transicionar | alinhar => exact absurd hop id
  | obter | registrarEvidencia | obterEvidencia | historicoEvidencia | statusEvidencia
  | executar => exact absurd hop id

end Calls

/-! ## The calls of the programs -/

/-- The calls of admission that promote to `ADMITTED` only stored requests of the causes `K`. -/
def AdmiteSo (s : Store) (K : Finset String) (op : StoreOp) : Prop :=
  DeAdmissao op ∧ ∀ q, op = .atualizar q (.promover .admitted) →
    ∃ r, s.find q = some r ∧ r.rootCauseId ∈ K

theorem SemAdmitir.admiteSo {op : StoreOp} (h : SemAdmitir op) (s : Store) (K : Finset String) :
    AdmiteSo s K op := ⟨h.1, fun q hq ↦ absurd hq (h.2 q)⟩

theorem AdmiteSo.exec {b : Backend} {s : Store} {K : Finset String} {op op' : StoreOp} {e : Env}
    (h : AdmiteSo s K op') (hop : DeAdmissao op) : AdmiteSo (exec b op e s).1 K op' := by
  refine ⟨h.1, fun q hq ↦ ?_⟩
  obtain ⟨r, hr, hcause⟩ := h.2 q hq
  obtain ⟨r', hr', hcause'⟩ := find_exec (b := b) (e := e) hop hr
  exact ⟨r', hr', hcause' ▸ hcause⟩

section Programs

variable (cfg : Config)

theorem registrar_semAdmitir (entrada : WorkRequestInput) (momento : DateTime) :
    (code cfg (.registrar entrada momento)).AllCalls SemAdmitir := by
  have hstatus : (Service.novaSolicitacao cfg entrada momento).status
      ∉ WorkRequestStatus.active := by
    simp only [Service.novaSolicitacao]
    split_ifs <;> decide
  refine Program.AllCalls.bind ?_ fun _ ↦ .ret _
  rw [Service.registrar]
  generalize Service.novaSolicitacao cfg entrada momento = r at hstatus
  split_ifs
  · exact (Program.AllCalls.perform ⟨hstatus, fun _ ↦ by rintro ⟨⟩⟩).bind fun _ ↦ .ret _
  · exact .raise _

/-- What `aplicar_admissao` does with its plan. -/
def aplicarPlano (plano : AdmissionPlan) : Method Resposta := do
  (Service.sortedSet plano.admittedRequestIds).forM fun q ↦ do
    let _ ← chamar (.atualizar q (.promover .admitted))
  (Service.sortedSet plano.queuedRequestIds).forM fun q ↦ do
    let _ ← chamar (.atualizar q (.promover .queued))
  return .snapshot (← Service.listar) plano

theorem code_aplicarAdmissao : code cfg .aplicarAdmissao = chamar .listar >>= fun l ↦
    aplicarPlano (WipPolicy.plan cfg.maxActiveRootCauses l) := by
  simp only [code, Service.aplicarAdmissao, Service.listar, aplicarPlano, Program.bind_assoc]
  rfl

theorem aplicarPlano_calls {P : StoreOp → Prop} (plano : AdmissionPlan)
    (hadmitted : ∀ q ∈ plano.admittedRequestIds, P (.atualizar q (.promover .admitted)))
    (hqueue : ∀ q, P (.atualizar q (.promover .queued))) (hlistar : P .listar) :
    (aplicarPlano plano).AllCalls P := by
  have hone : ∀ {op : StoreOp}, P op → (do let _ ← chamar op : Method PUnit).AllCalls P :=
    fun h ↦ (Program.AllCalls.perform h).bind fun _ ↦ .ret _
  refine (Program.AllCalls.forM fun q hq ↦ hone ?_).bind fun _ ↦ ?_
  · rw [Service.sortedSet, List.mem_insertionSort, List.mem_dedup] at hq
    exact hadmitted q hq
  refine (Program.AllCalls.forM fun q _ ↦ hone (hqueue q)).bind fun _ ↦ ?_
  exact (Program.AllCalls.perform hlistar).bind fun _ ↦ .ret _

theorem code_deAdmissao (c : Admissao) : (code cfg c.chamada).AllCalls DeAdmissao := by
  cases c with
  | registrar entrada momento =>
    exact (registrar_semAdmitir cfg entrada momento).imp fun _ h ↦ h.1
  | aplicarAdmissao =>
    change (code cfg .aplicarAdmissao).AllCalls DeAdmissao
    rw [code_aplicarAdmissao]
    refine (Program.AllCalls.perform trivial).bind fun l ↦ ?_
    exact aplicarPlano_calls _ (fun _ _ ↦ trivial) (fun _ ↦ trivial) trivial

end Programs

/-! ## A listing and its plan -/

/-- What can be listed is what is stored. -/
theorem mem_listar {b : Backend} {s : Store} {l : List WorkRequest} (h : s.listar b = .ok l)
    (r : WorkRequest) : r ∈ l ↔ r ∈ s.requests := by
  have hread : ∀ {xs ys : List WorkRequest}, xs.mapM (Store.ler .redis) = .ok ys → ys = xs := by
    intro xs
    induction xs with
    | nil =>
      intro ys h
      exact (Except.ok.inj h).symm
    | cons x xs ih =>
      intro ys h
      rw [List.mapM_cons, bind_eq_ok] at h
      obtain ⟨y, hy, h⟩ := h
      obtain ⟨ys', hys', h⟩ := bind_eq_ok.mp h
      rw [← Except.ok.inj h, Store.ler_eq_ok hy, ih hys']
  cases b with
  | memory => rw [← Except.ok.inj h]
  | redis => rw [hread h, List.mem_insertionSort]

theorem causasAtivas_listar {b : Backend} {s : Store} {l : List WorkRequest}
    (h : s.listar b = .ok l) : WipPolicy.causasAtivas l = s.causasAtivas := by
  ext c
  simp only [Store.causasAtivas, WipPolicy.mem_causasAtivas, mem_listar h]

/-- The causes a plan admits. -/
def AdmissionPlan.causas (p : AdmissionPlan) : Finset String :=
  (p.admittedSlots.map RootCauseSlot.rootCauseId).toFinset

/-- A plan over a listing of the store: its causes fit the limit, the active causes are among them,
and so are the causes of the requests it promotes. -/
theorem plan_listar {b : Backend} {s : Store} {l : List WorkRequest} {limite : ℕ}
    (hkeyed : Table.Keyed WorkRequest.requestId s.requests) (hlist : s.listar b = .ok l)
    (hlimit : s.causasAtivas.card ≤ limite) :
    (WipPolicy.plan limite l).causas.card ≤ limite ∧
      s.causasAtivas ⊆ (WipPolicy.plan limite l).causas ∧
      (aplicarPlano (WipPolicy.plan limite l)).AllCalls
        (AdmiteSo s (WipPolicy.plan limite l).causas) := by
  have hativas := causasAtivas_listar hlist
  refine ⟨?_, fun c hc ↦ ?_, ?_⟩
  · refine (List.toFinset_card_le _).trans ?_
    rw [List.length_map]
    exact WipPolicy.length_admittedSlots_le (hativas ▸ hlimit)
  · obtain ⟨t, ht, rfl⟩ := WipPolicy.mem_admittedSlots_of_active (hativas ▸ hc)
    exact List.mem_toFinset.mpr (List.mem_map_of_mem ht)
  · refine aplicarPlano_calls _ (fun q hq ↦ ⟨trivial, ?_⟩) (fun q ↦ ⟨trivial, nofun⟩)
      ⟨trivial, nofun⟩
    rintro q' heq
    cases heq
    obtain ⟨r, hr, rfl, t, ht, hcause⟩ := WipPolicy.mem_admittedRequestIds hq
    refine ⟨r, hkeyed.lookup_of_mem ((mem_listar hlist r).mp hr), ?_⟩
    rw [← hcause]
    exact List.mem_toFinset.mpr (List.mem_map_of_mem ht)

/-! ## Every run -/

section Runs

variable {cfg : Config} {s₀ : Store}

/-- The invariant of serial admission: a set of causes that fits the limit, contains the active
ones, and bounds what every replica with a plan may still promote. -/
structure Planejado (cfg : Config) (p : Replicas) : Prop where
  keyed : Table.Keyed WorkRequest.requestId p.store.requests
  causas : ∃ K : Finset String, K.card ≤ cfg.maxActiveRootCauses ∧ p.store.causasAtivas ⊆ K ∧
    ∀ i q, p.task i = some q → q = code cfg .aplicarAdmissao ∨ q.AllCalls (AdmiteSo p.store K)

theorem Planejado.limit {p : Replicas} (h : Planejado cfg p) :
    p.store.causasAtivas.card ≤ cfg.maxActiveRootCauses := by
  obtain ⟨K, hK, hsub, -⟩ := h.causas
  exact (Finset.card_le_card hsub).trans hK

/-- A replica goes on with a program that stays within the causes. -/
theorem Planejado.setTask {p : Replicas} {K : Finset String} {s : Store} {i : ℕ}
    {t : Option (Method Resposta)} (hkeyed : Table.Keyed WorkRequest.requestId s.requests)
    (hK : K.card ≤ cfg.maxActiveRootCauses) (hsub : s.causasAtivas ⊆ K)
    (hothers : ∀ j q, j ≠ i → p.task j = some q →
      q = code cfg .aplicarAdmissao ∨ q.AllCalls (AdmiteSo s K))
    (hown : ∀ q, t = some q → q = code cfg .aplicarAdmissao ∨ q.AllCalls (AdmiteSo s K)) :
    Planejado cfg (Pool.setTask ⟨s, p.task⟩ i t) := by
  refine ⟨hkeyed, K, hK, hsub, fun j q hq ↦ ?_⟩
  obtain ⟨hne, hold⟩ | ⟨rfl, hnew⟩ := Pool.setTask_eq_some hq
  · exact hothers j q hne hold
  · exact hown q hnew

/-- One move of a serial schedule. -/
theorem Planejado.step {p p' : Replicas} {a : PassoAdmissao} (h : Planejado cfg p)
    (hserial : Serial cfg p a) (hstep : (admissions cfg s₀).step p a p') : Planejado cfg p' := by
  obtain ⟨K, hK, hsub, htasks⟩ := h.causas
  rw [Pool.step_eq hstep]
  obtain ⟨-, hm⟩ | ⟨i, c, -, hm⟩ | ⟨i, op, e, k, hcall, htask, hm⟩ | ⟨i, -, hm⟩ :=
    Pool.move_cases (fun c : Admissao ↦ code cfg c.chamada) (machine cfg.backend) a.1 p
  all_goals rw [hm]
  · exact h
  · refine Planejado.setTask h.keyed hK hsub (fun j q _ hq ↦ htasks j q hq) fun q hq ↦ ?_
    obtain rfl := Option.some.inj hq
    cases c with
    | registrar entrada momento =>
      exact Or.inr ((registrar_semAdmitir cfg entrada momento).imp fun _ h ↦ h.admiteSo _ K)
    | aplicarAdmissao => exact Or.inl rfl
  · rcases htasks i _ htask with hfresh | hcalls
    · -- the listing: from here on the plan bounds what this replica and all others may promote
      have hadvance := Pool.eq_advance_of_nextCall hcall
      rw [hfresh] at htask
      rw [code_aplicarAdmissao] at hfresh
      cases hfresh
      change Planejado cfg (Pool.setTask ⟨p.store, p.task⟩ i (some _))
      rcases hlist : p.store.listar cfg.backend with x | l
      · refine Planejado.setTask h.keyed hK hsub (fun j q _ hq ↦ htasks j q hq) fun q hq ↦ ?_
        obtain rfl := Option.some.inj hq
        change _ ∨ Program.AllCalls _ (Program.bind (Program.ofExcept (p.store.listar _)) _)
        rw [hlist]
        exact Or.inr (.raise x)
      · obtain ⟨hcard, hkept, hplan⟩ := plan_listar h.keyed hlist h.limit
        refine Planejado.setTask h.keyed hcard hkept (fun j q hj hq ↦ ?_) fun q hq ↦ ?_
        · exact (hserial i e hadvance htask j q hj hq).imp id
            fun hq ↦ hq.imp fun _ h ↦ h.admiteSo _ _
        · obtain rfl := Option.some.inj hq
          change _ ∨ Program.AllCalls _ (Program.bind (Program.ofExcept (p.store.listar _)) _)
          rw [hlist]
          exact Or.inr hplan
    · -- a call of a replica within the causes
      have hop := hcalls.op
      have hkeep : ∀ {q : Method Resposta}, q.AllCalls (AdmiteSo p.store K) →
          q.AllCalls (AdmiteSo (exec cfg.backend op e p.store).1 K) :=
        fun hq ↦ hq.imp fun _ h ↦ h.exec hop.1
      have hsub' : (exec cfg.backend op e p.store).1.causasAtivas ⊆ K := by
        rcases causasAtivas_exec (b := cfg.backend) (e := e) h.keyed hop.1 with
          ⟨hsame, -⟩ | ⟨q, raw, rfl, hfind, -, -, hinsert⟩
        · rwa [hsame]
        · obtain ⟨r, hr, hcause⟩ := hop.2 q rfl
          obtain rfl : r = raw := Option.some.inj (hr.symm.trans hfind)
          rw [hinsert]
          exact Finset.insert_subset hcause hsub
      refine Planejado.setTask (keyed_exec h.keyed) hK hsub' (fun j q _ hq ↦ ?_) fun q hq ↦ ?_
      · exact (htasks j q hq).imp id hkeep
      · obtain rfl := Option.some.inj hq
        exact Or.inr (hkeep (hcalls.next _))
  · exact Planejado.setTask h.keyed hK hsub (fun j q _ hq ↦ htasks j q hq) fun q hq ↦ (nomatch hq)

/-- Every state of a serial run is planned. -/
theorem planejado_of_run (hkeyed : Table.Keyed WorkRequest.requestId s₀.requests)
    (hinit : s₀.causasAtivas.card ≤ cfg.maxActiveRootCauses) {tr : List PassoAdmissao}
    {p : Replicas} (h : ((admissions cfg s₀).restrict (Serial cfg)).Run tr p) :
    Planejado cfg p := by
  have hstep : ∀ {p a p'}, Planejado cfg p →
      ((admissions cfg s₀).restrict (Serial cfg)).step p a p' → Planejado cfg p' :=
    fun hp hstep ↦ hp.step hstep.1 hstep.2
  refine h.invariant (fun {p} hs ↦ ?_) hstep
  obtain rfl : p = ⟨s₀, fun _ ↦ none⟩ := hs
  exact ⟨hkeyed, s₀.causasAtivas, hinit, subset_rfl, fun i q hq ↦ (nomatch hq)⟩

/-- Ids are unique and the limit stands. -/
def NoLimite (cfg : Config) (s : Store) : Prop :=
  Table.Keyed WorkRequest.requestId s.requests ∧ s.causasAtivas.card ≤ cfg.maxActiveRootCauses

theorem noLimite_exec {s : Store} {i : ℕ} {op : StoreOp} {e : Env} (h : NoLimite cfg s)
    (hop : DeAdmissao op) :
    NoLimite cfg ((machine cfg.backend).exec i op e s).1 ↔ Admite cfg s (op, e) :=
  (and_iff_right (keyed_exec h.1)).trans (limit_exec h.1 h.2 hop)

/-- **The limit on active root causes.** If the limit stands at first, it stands in every run in
which no replica reads its listing while another one has promotions to write from an earlier
listing. In general it stands as long as every promotion finds its cause active or a slot free, and
the first promotion that does not breaks it. -/
theorem wip_limit (hkeyed : Table.Keyed WorkRequest.requestId s₀.requests)
    (hinit : s₀.causasAtivas.card ≤ cfg.maxActiveRootCauses) {tr : List PassoAdmissao}
    {p : Replicas} :
    (((admissions cfg s₀).restrict (Serial cfg)).Run tr p →
      p.store.causasAtivas.card ≤ cfg.maxActiveRootCauses) ∧
    (((admissions cfg s₀).restrict (ChamadaAdmite cfg)).Run tr p →
      p.store.causasAtivas.card ≤ cfg.maxActiveRootCauses ∧
      ∀ a p', (admissions cfg s₀).step p a p' →
        (p'.store.causasAtivas.card ≤ cfg.maxActiveRootCauses ↔ ChamadaAdmite cfg p a)) := by
  constructor
  · intro h
    exact (planejado_of_run hkeyed hinit h).limit
  · intro h
    obtain ⟨hnow, hnext⟩ := Pool.invariant_iff (M := machine cfg.backend) (I := NoLimite cfg)
      (C := fun s x ↦ Admite cfg s x.2) ⟨hkeyed, hinit⟩ (code_deAdmissao cfg) noLimite_exec id h
    refine ⟨hnow.2, fun a p' hstep ↦ ?_⟩
    have hkeyed' : Table.Keyed WorkRequest.requestId p'.store.requests :=
      Pool.step_preserves (J := fun s ↦ Table.Keyed WorkRequest.requestId s.requests) keyed_exec
        id hstep hnow.1
    exact (and_iff_right hkeyed').symm.trans (hnext a p' hstep)

end Runs

/-! ### Two replicas, one slot -/

/-- One slot; the hash of the two requests below. -/
def oneSlot : Config where
  backend := .redis
  route := sampleConfig.route
  sha256Hex text :=
    if text = "corr-0002|reqsys|Restaurar CI" then
      "5ad1a5de06247cbbe9ca42c5cfe5036b7e79173843ac2dc349e1dbeb49148046"
    else sampleConfig.sha256Hex text
  maxActiveRootCauses := 1
  maxActiveRootCauses_pos := Nat.one_pos
  registry := [.ciRepair]

/-- A more urgent request of another cause. -/
def urgentInput : WorkRequestInput where
  title := "Restaurar CI"
  project := "reqsys"
  priority := .p0
  rootCauseId := "rc-2"
  correlationId := "corr-0002"
  valid := by decide +kernel

def advance (i : ℕ) : Move Admissao Env := .advance i { agora := sampleInstant }

/-- Run one call from start to end in `n` moves. -/
def alone (c : Admissao) (n : ℕ) : List (Move Admissao Env) :=
  .start 0 c :: List.replicate n (advance 0)

/-- Register both requests and admit. -/
def serialMoves : List (Move Admissao Env) :=
  alone (.registrar sampleInput sampleInstant) 2 ++ alone (.registrar urgentInput sampleInstant) 2
    ++ alone .aplicarAdmissao 5

/-- The first replica has listed one request when the second one arrives and is admitted. -/
def overlappingMoves : List (Move Admissao Env) :=
  alone (.registrar sampleInput sampleInstant) 2 ++ [.start 0 .aplicarAdmissao, advance 0]
    ++ [.start 1 (.registrar urgentInput sampleInstant), advance 1, advance 1]
    ++ [.start 1 .aplicarAdmissao, advance 1, advance 1, advance 0]

def admissionMove : Move Admissao Env → Replicas → Replicas × Option (Except CentralError Resposta) :=
  Pool.move (fun c : Admissao ↦ code oneSlot c.chamada) (machine oneSlot.backend)

/-- The trace and the final replicas of a list of moves. -/
def admissionRun (moves : List (Move Admissao Env)) : List PassoAdmissao × Replicas :=
  TransitionSystem.runCalls admissionMove moves ⟨{}, fun _ ↦ none⟩

/-- A replica that is alone is serial. -/
theorem serial_of_alone {moves : List (Move Admissao Env)} {p : Replicas}
    (hmoves : ∀ m ∈ moves, m.slot = 0) (hp : ∀ j, j ≠ 0 → p.task j = none) :
    TransitionSystem.CallsMeet admissionMove (Serial oneSlot) moves p := by
  induction moves generalizing p with
  | nil => trivial
  | cons m moves ih =>
    obtain ⟨hm, hmoves⟩ := List.forall_mem_cons.mp hmoves
    refine ⟨?_, ih hmoves fun j hj ↦ ?_⟩
    · rintro i e rfl - j q hj hq
      rw [hp j (fun h ↦ hj (h.trans hm.symm))] at hq
      cases hq
    · exact (Pool.task_move_of_ne (hm ▸ hj)).trans (hp j hj)

/-- Admission by one replica: the urgent cause has the slot. -/
theorem wip_limit_alone : (admissionRun serialMoves).2.store.causasAtivas = {"rc-2"} ∧
    (admissionRun serialMoves).2.store.causasAtivas.card ≤ oneSlot.maxActiveRootCauses := by
  have hrun : ((admissions oneSlot {}).restrict (Serial oneSlot)).Run (admissionRun serialMoves).1
      (admissionRun serialMoves).2 :=
    TransitionSystem.run_restrict_runCalls _ (serial_of_alone (by decide) fun _ _ ↦ rfl)
  exact ⟨by decide +kernel, (wip_limit (by exact List.nodup_nil) (by decide)).1 hrun⟩

/-- Two replicas with plans of different moments admit a cause each. -/
theorem wip_limit_exceeded : ¬∀ (cfg : Config) (s₀ : Store) (tr : List PassoAdmissao) (p : Replicas),
    Table.Keyed WorkRequest.requestId s₀.requests →
    s₀.causasAtivas.card ≤ cfg.maxActiveRootCauses → (admissions cfg s₀).Run tr p →
    p.store.causasAtivas.card ≤ cfg.maxActiveRootCauses := by
  intro h
  have hrun : (admissions oneSlot {}).Run (admissionRun overlappingMoves).1
      (admissionRun overlappingMoves).2 := TransitionSystem.run_runCalls _ _ overlappingMoves
  exact absurd (h oneSlot {} _ _ List.nodup_nil (by decide) hrun) (by decide +kernel)

end Central

end ReqSys
