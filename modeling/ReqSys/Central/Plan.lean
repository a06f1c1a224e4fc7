import Mathlib
import ReqSys.Central.Admission
import ReqSys.Foundation.Sorting

/-!
# The Central: what an admission plan says

`WipPolicy.plan` groups the eligible requests by root cause, sorts the groups and cuts the sorted
list of causes where the slots end. This module says what comes out in terms of the requests alone.

A cause is compared by its `chave`: the best priority and the oldest creation among its eligible
requests, then its id. A slot carries these values (`chave_of_mem_slots`), so the sort of the slots
is a sort of the causes. The key contains the id of the cause, and the key of a request its own id:
both sorts have no ties, which is why the plan does not depend on the order of the requests
(`plan_of_perm`).
-/

namespace ReqSys

namespace Central

namespace WipPolicy

variable {limite : ℕ} {requests requests' itens itens' : List WorkRequest} {c : String}
  {t : RootCauseSlot}

/-! ## The keys -/

/-- The key of a request among those of its cause. -/
def chaveItem (r : WorkRequest) : ℕ ×ₗ ℕ ×ₗ String :=
  toLex (r.priority.ordem, toLex (r.createdAt.toMicros, r.requestId))

/-- The key of a slot. -/
def chaveSlot (t : RootCauseSlot) : ℕ ×ₗ ℕ ×ₗ String :=
  toLex (t.priority.ordem, toLex (t.oldestCreatedAt.toMicros, t.rootCauseId))

/-- What the policy compares of a root cause: the best priority among its eligible requests, the
oldest creation among them, and its id. -/
noncomputable def chave (requests : List WorkRequest) (c : String) : ℕ ×ₗ ℕ ×ₗ String :=
  toLex (sInf {n | ∃ r ∈ requests, elegivel r = true ∧ r.rootCauseId = c ∧ r.priority.ordem = n},
    toLex (sInf {n | ∃ r ∈ requests, elegivel r = true ∧ r.rootCauseId = c ∧
      r.createdAt.toMicros = n}, c))

theorem ordemItem_iff (a b : WorkRequest) : ordemItem a b = true ↔ chaveItem a ≤ chaveItem b :=
  Sorting.isLE_then_then_compare_iff

theorem ordem_iff (a b : RootCauseSlot) : ordem a b = true ↔ chaveSlot a ≤ chaveSlot b :=
  Sorting.isLE_then_then_compare_iff

theorem requestId_of_chaveItem {a b : WorkRequest} (h : chaveItem a = chaveItem b) :
    a.requestId = b.requestId :=
  congrArg (fun k ↦ (ofLex (ofLex k).2).2) h

theorem rootCauseId_of_chaveSlot {a b : RootCauseSlot} (h : chaveSlot a = chaveSlot b) :
    a.rootCauseId = b.rootCauseId :=
  congrArg (fun k ↦ (ofLex (ofLex k).2).2) h

/-! ## One slot -/

theorem toMicros_earlier (a b : DateTime) :
    (earlier a b).toMicros = min a.toMicros b.toMicros := by
  rw [earlier]
  split_ifs with h
  · exact (min_eq_left (DateTime.toMicros_le_iff.mp h)).symm
  · rw [DateTime.toMicros_le_iff, not_le] at h
    exact (min_eq_right h.le).symm

/-- The running minimum of the creation times is one of them and below all of them. -/
theorem foldl_earlier (d : DateTime) (l : List WorkRequest) :
    let m := (l.foldl (fun d r ↦ earlier d r.createdAt) d).toMicros
    m ≤ d.toMicros ∧ (∀ r ∈ l, m ≤ r.createdAt.toMicros) ∧
      (m = d.toMicros ∨ ∃ r ∈ l, r.createdAt.toMicros = m) := by
  induction l generalizing d with
  | nil => exact ⟨le_rfl, fun r hr ↦ absurd hr List.not_mem_nil, Or.inl rfl⟩
  | cons r l ih =>
    obtain ⟨hle, hall, hmem⟩ := ih (earlier d r.createdAt)
    rw [toMicros_earlier] at hle hmem
    refine ⟨hle.trans (min_le_left _ _), ?_, ?_⟩
    · exact List.forall_mem_cons.mpr ⟨hle.trans (min_le_right _ _), hall⟩
    rcases hmem with h | ⟨r', hr', h⟩
    · rcases min_choice d.toMicros r.createdAt.toMicros with hmin | hmin
      · exact Or.inl (h.trans hmin)
      · exact Or.inr ⟨r, List.mem_cons_self, (h.trans hmin).symm⟩
    · exact Or.inr ⟨r', List.mem_cons_of_mem r hr', h⟩

/-- **What a slot says about the requests it was built from**: it names each of them, the best of
their priorities and the oldest of their creation times. -/
theorem montarSlot_spec (h : montarSlot c itens = some t) :
    t.rootCauseId = c ∧ t.requestIds.Perm (itens.map WorkRequest.requestId) ∧
      IsLeast {n | ∃ r ∈ itens, r.priority.ordem = n} t.priority.ordem ∧
      IsLeast {n | ∃ r ∈ itens, r.createdAt.toMicros = n} t.oldestCreatedAt.toMicros := by
  rw [montarSlot] at h
  split at h
  · cases h
  next primeiro demais hsort =>
    cases h
    have hperm : (primeiro :: demais).Perm itens := hsort ▸ List.perm_insertionSort _ itens
    refine ⟨rfl, hperm.map _, ⟨⟨primeiro, hperm.mem_iff.mp List.mem_cons_self, rfl⟩, ?_⟩, ?_⟩
    · -- the first of the sorted requests has the best priority
      rintro n ⟨r, hr, rfl⟩
      have hle : chaveItem primeiro ≤ chaveItem r :=
        Sorting.le_of_head?_insertionSort ordemItem_iff (by rw [hsort]; rfl) hr
      exact (Prod.Lex.le_iff.mp hle).elim le_of_lt fun h ↦ h.1.le
    · obtain ⟨hle, hall, hmem⟩ := foldl_earlier primeiro.createdAt demais
      constructor
      · rcases hmem with h | ⟨r, hr, h⟩
        · exact ⟨primeiro, hperm.mem_iff.mp List.mem_cons_self, h.symm⟩
        · exact ⟨r, hperm.mem_iff.mp (List.mem_cons_of_mem _ hr), h⟩
      · rintro n ⟨r, hr, rfl⟩
        rcases List.mem_cons.mp (hperm.mem_iff.mpr hr) with rfl | hr
        · exact hle
        · exact hall r hr

/-- A slot does not depend on the order of the requests of its cause. -/
theorem montarSlot_of_perm (hperm : itens.Perm itens')
    (hids : (itens.map WorkRequest.requestId).Nodup) :
    montarSlot c itens = montarSlot c itens' := by
  have hsort := Sorting.insertionSort_eq_of_perm ordemItem_iff hperm fun a ha b hb hab ↦
    List.inj_on_of_nodup_map hids ha hb (requestId_of_chaveItem hab)
  rw [montarSlot, hsort, montarSlot]

/-! ## All slots -/

/-- The eligible requests of a cause. -/
def grupo (requests : List WorkRequest) (c : String) : List WorkRequest :=
  (requests.filter elegivel).filter fun r ↦ r.rootCauseId = c

theorem mem_grupo {r : WorkRequest} :
    r ∈ grupo requests c ↔ r ∈ requests ∧ elegivel r = true ∧ r.rootCauseId = c := by
  rw [grupo, List.mem_filter, List.mem_filter, decide_eq_true_iff, and_assoc]

theorem slots_eq (requests : List WorkRequest) :
    slots requests = ((causas (requests.filter elegivel)).filterMap fun c ↦
      montarSlot c (grupo requests c)).insertionSort fun a b ↦ ordem a b = true := rfl

theorem mem_slots_iff :
    t ∈ slots requests ↔
      t.rootCauseId ∈ causas (requests.filter elegivel) ∧
        montarSlot t.rootCauseId (grupo requests t.rootCauseId) = some t := by
  rw [slots_eq, List.mem_insertionSort, List.mem_filterMap]
  constructor
  · rintro ⟨c, hc, h⟩
    obtain rfl := (montarSlot_spec h).1
    exact ⟨hc, h⟩
  · rintro ⟨hc, h⟩
    exact ⟨_, hc, h⟩

/-- **The key of a slot is the key of its cause.** -/
theorem chave_of_mem_slots (h : t ∈ slots requests) :
    chave requests t.rootCauseId = chaveSlot t := by
  obtain ⟨-, -, hpriority, holdest⟩ := montarSlot_spec (mem_slots_iff.mp h).2
  simp only [mem_grupo, and_assoc] at hpriority holdest
  rw [chave, chaveSlot, hpriority.csInf_eq, holdest.csInf_eq]

/-- The slots stand in strictly increasing order of their keys. -/
theorem pairwise_slots (requests : List WorkRequest) :
    (slots requests).Pairwise fun a b ↦ chaveSlot a < chaveSlot b := by
  have hle : (slots requests).Pairwise fun a b ↦ chaveSlot a ≤ chaveSlot b :=
    Sorting.pairwise_insertionSort ordem_iff _
  have hne : (slots requests).Pairwise fun a b ↦ a.rootCauseId ≠ b.rootCauseId :=
    List.pairwise_map.mp (nodup_slots requests)
  refine (hle.and hne).imp fun ⟨h, hne⟩ ↦ lt_of_le_of_ne h fun heq ↦ hne ?_
  exact rootCauseId_of_chaveSlot heq

/-- **Grouping loses nothing**: the requests of the slots are the eligible ones. -/
theorem flatMap_slots (requests : List WorkRequest) :
    ((slots requests).flatMap RootCauseSlot.requestIds).Perm
      ((requests.filter elegivel).map WorkRequest.requestId) := by
  set cs := causas (requests.filter elegivel) with hcs
  have hslots : ((slots requests).flatMap RootCauseSlot.requestIds).Perm
      (cs.flatMap fun c ↦ (grupo requests c).map WorkRequest.requestId) := by
    refine ((List.perm_insertionSort _ _).flatMap_right _).trans ?_
    have hgroups : ∀ l : List String, (∀ c ∈ l, c ∈ cs) →
        ((l.filterMap fun c ↦ montarSlot c (grupo requests c)).flatMap
          RootCauseSlot.requestIds).Perm
        (l.flatMap fun c ↦ (grupo requests c).map WorkRequest.requestId) := by
      intro l
      induction l with
      | nil => exact fun _ ↦ List.Perm.refl _
      | cons c l ih =>
        intro hl
        obtain ⟨hc, htail⟩ := List.forall_mem_cons.mp hl
        obtain ⟨r, hr, rfl⟩ := mem_causas.mp hc
        obtain ⟨hr, helig⟩ := List.mem_filter.mp hr
        obtain ⟨t, ht⟩ := exists_montarSlot (c := r.rootCauseId) (mem_grupo.mpr ⟨hr, helig, rfl⟩)
        rw [List.filterMap_cons_some (f := fun c ↦ montarSlot c (grupo requests c)) ht,
          List.flatMap_cons, List.flatMap_cons]
        exact (montarSlot_spec ht).2.1.append (ih htail)
    exact hgroups cs fun c hc ↦ hc
  have hnodup : cs.Nodup := by
    rw [hcs, causas, List.nodup_reverse]
    exact List.nodup_dedup _
  refine hslots.trans ?_
  rw [← List.map_flatMap]
  refine List.Perm.map _ ?_
  refine (Sorting.perm_flatMap_filter hnodup (requests.filter elegivel)).trans (List.Perm.of_eq ?_)
  refine List.filter_eq_self.mpr fun r hr ↦ ?_
  rw [List.contains_iff_mem, hcs]
  exact mem_causas.mpr ⟨r, hr, rfl⟩

/-- The slots do not depend on the order of the requests. -/
theorem slots_of_perm (hperm : requests.Perm requests')
    (hids : (requests.map WorkRequest.requestId).Nodup) : slots requests = slots requests' := by
  have helig : (requests.filter elegivel).Perm (requests'.filter elegivel) := hperm.filter _
  have hcausas : (causas (requests.filter elegivel)).Perm (causas (requests'.filter elegivel)) := by
    rw [causas, causas]
    refine (List.reverse_perm _).trans (List.Perm.trans ?_ (List.reverse_perm _).symm)
    refine List.Perm.dedup ?_
    exact (List.reverse_perm _).trans ((helig.map _).trans (List.reverse_perm _).symm)
  have hgrupo : ∀ c, montarSlot c (grupo requests c) = montarSlot c (grupo requests' c) := by
    intro c
    refine montarSlot_of_perm (helig.filter _) (hids.sublist ?_)
    exact (List.filter_sublist.trans List.filter_sublist).map _
  rw [slots_eq, slots_eq]
  refine Sorting.insertionSort_eq_of_perm ordem_iff ?_ ?_
  · simp only [hgrupo]
    exact hcausas.filterMap _
  · intro a ha b hb hab
    have hmem : ∀ t, t ∈ (causas (requests.filter elegivel)).filterMap (fun c ↦
        montarSlot c (grupo requests c)) → t ∈ slots requests := fun t ht ↦ by
      rwa [slots_eq, List.mem_insertionSort]
    exact List.inj_on_of_nodup_map (nodup_slots requests) (hmem a ha) (hmem b hb)
      (rootCauseId_of_chaveSlot hab)

/-! ## The cut -/

/-- Whether the cause of a slot is active. -/
def emAndamento (requests : List WorkRequest) (t : RootCauseSlot) : Bool :=
  ((requests.filter fun r ↦ WorkRequestStatus.active.contains r.status).map
    WorkRequest.rootCauseId).contains t.rootCauseId

theorem emAndamento_iff :
    emAndamento requests t = true ↔ t.rootCauseId ∈ causasAtivas requests := by
  rw [emAndamento, List.contains_iff_mem, causasAtivas, List.mem_toFinset]

/-- The slots of active causes, and the others. -/
abbrev ocupadas (requests : List WorkRequest) : List RootCauseSlot :=
  (slots requests).filter (emAndamento requests)

abbrev candidatas (requests : List WorkRequest) : List RootCauseSlot :=
  (slots requests).filter fun t ↦ !emAndamento requests t

theorem plan_eq (limite : ℕ) (requests : List WorkRequest) :
    plan limite requests =
      { maxActiveRootCauses := limite
        admittedSlots := ocupadas requests
          ++ (candidatas requests).take (limite - (ocupadas requests).length)
        queuedSlots := (candidatas requests).drop (limite - (ocupadas requests).length)
        wipBreach := limite < (ocupadas requests).length } := rfl

/-- Every slot is admitted or queued. -/
theorem admittedSlots_append_queuedSlots (limite : ℕ) (requests : List WorkRequest) :
    ((plan limite requests).admittedSlots ++ (plan limite requests).queuedSlots).Perm
      (slots requests) := by
  rw [plan_eq, List.append_assoc, List.take_append_drop]
  exact List.filter_append_perm _ _

/-- Each active cause occupies one slot. -/
theorem length_ocupadas (requests : List WorkRequest) :
    (ocupadas requests).length = (causasAtivas requests).card := by
  have hnodup : ((ocupadas requests).map RootCauseSlot.rootCauseId).Nodup :=
    (nodup_slots requests).sublist (List.filter_sublist.map _)
  rw [← List.length_map RootCauseSlot.rootCauseId, ← List.toFinset_card_of_nodup hnodup]
  congr 1
  ext c
  rw [List.mem_toFinset, List.mem_map]
  constructor
  · rintro ⟨t, ht, rfl⟩
    exact emAndamento_iff.mp (List.mem_filter.mp ht).2
  · intro hc
    obtain ⟨r, hr, hactive, rfl⟩ := mem_causasAtivas.mp hc
    have helig : elegivel r = true := by
      rw [elegivel, List.contains_iff_mem.mpr hactive]
      rfl
    obtain ⟨t, ht, hcause⟩ := exists_slot hr helig
    exact ⟨t, List.mem_filter.mpr ⟨ht, emAndamento_iff.mpr (hcause ▸ hc)⟩, hcause⟩

end WipPolicy

/-! ## The specification of a plan -/

/-- What an admission plan has to say about the requests it was made for. -/
structure AdmissionPlan.Cumpre (p : AdmissionPlan) (limite : ℕ) (requests : List WorkRequest) :
    Prop where
  /-- The requests of the plan are the active and the waiting ones. -/
  ids : ∀ q, q ∈ p.admittedRequestIds ++ p.queuedRequestIds ↔
    ∃ r ∈ requests, (r.status ∈ WorkRequestStatus.active ∨ r.status = .received ∨
      r.status = .queued) ∧ r.requestId = q
  /-- Each of them stands there once. -/
  nodup : (p.admittedRequestIds ++ p.queuedRequestIds).Nodup
  /-- No cause has two slots. -/
  causas_nodup : ((p.admittedSlots ++ p.queuedSlots).map RootCauseSlot.rootCauseId).Nodup
  /-- A request is in the slot of its cause. -/
  own_slot : ∀ t ∈ p.admittedSlots ++ p.queuedSlots, ∀ r ∈ requests,
    r.requestId ∈ t.requestIds → r.rootCauseId = t.rootCauseId
  ativas_admitted : ∀ c ∈ WipPolicy.causasAtivas requests, ∃ t ∈ p.admittedSlots, t.rootCauseId = c
  length_admitted : p.admittedSlots.length ≤ max limite (WipPolicy.causasAtivas requests).card
  /-- No cause waits while a slot is free. -/
  full : p.queuedSlots ≠ [] → limite ≤ p.admittedSlots.length
  /-- No waiting cause precedes one that has just been admitted. -/
  ordered : ∀ t ∈ p.queuedSlots, ∀ t' ∈ p.admittedSlots,
    t'.rootCauseId ∉ WipPolicy.causasAtivas requests →
      WipPolicy.chave requests t'.rootCauseId < WipPolicy.chave requests t.rootCauseId
  breach : p.wipBreach = true ↔ limite < (WipPolicy.causasAtivas requests).card

namespace WipPolicy

variable {limite : ℕ} {requests requests' : List WorkRequest}

theorem elegivel_iff {r : WorkRequest} :
    elegivel r = true ↔ r.status ∈ WorkRequestStatus.active ∨ r.status = .received ∨
      r.status = .queued := by
  rw [elegivel, Bool.or_eq_true, Bool.or_eq_true, List.contains_iff_mem, decide_eq_true_iff,
    decide_eq_true_iff, or_assoc]

/-- The requests of a plan are the eligible ones. -/
theorem perm_requestIds (limite : ℕ) (requests : List WorkRequest) :
    ((plan limite requests).admittedRequestIds ++ (plan limite requests).queuedRequestIds).Perm
      ((requests.filter elegivel).map WorkRequest.requestId) := by
  rw [AdmissionPlan.admittedRequestIds, AdmissionPlan.queuedRequestIds, ← List.flatMap_append]
  exact ((admittedSlots_append_queuedSlots limite requests).flatMap_right _).trans
    (flatMap_slots requests)

/-- A candidate that is left out comes after every candidate that is let in. -/
theorem chave_lt_of_queued {t t' : RootCauseSlot} (ht : t ∈ (plan limite requests).queuedSlots)
    (ht' : t' ∈ (plan limite requests).admittedSlots)
    (hnew : t'.rootCauseId ∉ causasAtivas requests) :
    chave requests t'.rootCauseId < chave requests t.rootCauseId := by
  rw [plan_eq] at ht ht'
  have ht' : t' ∈ (candidatas requests).take (limite - (ocupadas requests).length) := by
    refine (List.mem_append.mp ht').resolve_left fun h ↦ hnew ?_
    exact emAndamento_iff.mp (List.mem_filter.mp h).2
  have hsorted : (candidatas requests).Pairwise fun a b ↦ chaveSlot a < chaveSlot b :=
    (pairwise_slots requests).sublist List.filter_sublist
  rw [← List.take_append_drop (limite - (ocupadas requests).length) (candidatas requests),
    List.pairwise_append] at hsorted
  rw [chave_of_mem_slots (List.mem_filter.mp (List.mem_of_mem_take ht')).1,
    chave_of_mem_slots (List.mem_filter.mp (List.mem_of_mem_drop ht)).1]
  exact hsorted.2.2 t' ht' t ht

theorem plan_cumpre (hids : (requests.map WorkRequest.requestId).Nodup) :
    (plan limite requests).Cumpre limite requests where
  ids q := by
    rw [(perm_requestIds limite requests).mem_iff, List.mem_map]
    simp only [List.mem_filter, elegivel_iff, and_assoc]
  nodup := by
    rw [(perm_requestIds limite requests).nodup_iff]
    exact hids.sublist (List.filter_sublist.map _)
  causas_nodup := by
    rw [((admittedSlots_append_queuedSlots limite requests).map _).nodup_iff]
    exact nodup_slots requests
  own_slot t ht r hr hq := by
    rw [(admittedSlots_append_queuedSlots limite requests).mem_iff] at ht
    obtain ⟨r', hr', hid, hcause⟩ := mem_slots ht r.requestId hq
    obtain rfl := List.inj_on_of_nodup_map hids hr' hr hid
    exact hcause
  ativas_admitted c hc := mem_admittedSlots_of_active hc
  length_admitted := by
    rw [plan_eq, ← length_ocupadas, List.length_append, List.length_take]
    omega
  full h := by
    rw [plan_eq] at h ⊢
    rw [ne_eq, List.drop_eq_nil_iff, not_le] at h
    rw [List.length_append, List.length_take]
    omega
  ordered t ht t' ht' hnew := chave_lt_of_queued ht ht' hnew
  breach := by
    rw [plan_eq, ← length_ocupadas, decide_eq_true_iff]

/-- The plan does not depend on the order of the requests. -/
theorem plan_of_perm (hids : (requests.map WorkRequest.requestId).Nodup)
    (hperm : requests.Perm requests') : plan limite requests' = plan limite requests := by
  have hativas : ∀ t, emAndamento requests' t = emAndamento requests t := by
    intro t
    rw [Bool.eq_iff_iff, emAndamento_iff, emAndamento_iff, mem_causasAtivas, mem_causasAtivas]
    simp only [hperm.mem_iff]
  have hfun : emAndamento requests' = emAndamento requests := funext hativas
  rw [plan_eq, plan_eq, ocupadas, candidatas, ocupadas, candidatas, hfun,
    slots_of_perm hperm hids]

/-- **The admission policy.** For every list of requests with distinct ids the plan places each
active or waiting request once, keeps the active causes, never admits a new cause over the limit or
past a cause that precedes it, leaves no slot free while a cause waits, reports a breach exactly
when the active causes exceed the limit, and does not depend on the order of the list. -/
theorem plan_correct (hids : (requests.map WorkRequest.requestId).Nodup) :
    (plan limite requests).Cumpre limite requests ∧
      ∀ requests', requests.Perm requests' → plan limite requests' = plan limite requests :=
  ⟨plan_cumpre hids, fun _ hperm ↦ plan_of_perm hids hperm⟩

/-- The plan over two requests of different causes, with one slot. -/
theorem plan_correct_sample :
    (plan 1 (admissionRun serialMoves).2.store.requests).Cumpre 1
        (admissionRun serialMoves).2.store.requests ∧
      ∀ requests', (admissionRun serialMoves).2.store.requests.Perm requests' →
        plan 1 requests' = plan 1 (admissionRun serialMoves).2.store.requests :=
  plan_correct (by decide +kernel)

end WipPolicy

end Central

end ReqSys
