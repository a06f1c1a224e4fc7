import Mathlib
import ReqSys.Central.Plan
import ReqSys.Foundation.Serial

/-!
# The Central: asking for the next item twice

`proximo_item` admits work and then chooses among the admitted requests, in the order of the plan it
made before the admission. In that plan the causes that were active come first, and the causes that
get their slot now come after them, whatever their priority. The next call plans again: all these
causes are active by then and stand in the order of their keys.

The admission itself converges. Planning again over what a plan has left gives the same slots, with
the admitted causes for the active ones (`plan_map`), so the second call writes nothing. Only the
choice may change. `proximo_item_stable_iff` says exactly when it does: a cause admitted by the
first call has a candidate and comes before every active cause that has one, of which there is at
least one.
-/

namespace ReqSys

namespace Central

namespace WipPolicy

variable {limite : ℕ} {requests itens : List WorkRequest} {c : String} {t : RootCauseSlot}
  {r r' : WorkRequest}

/-! ## Where a plan puts a request -/

/-- A slot holds the eligible requests of its cause. -/
theorem mem_requestIds_iff (hids : (requests.map WorkRequest.requestId).Nodup)
    (ht : t ∈ slots requests) (hr : r ∈ requests) :
    r.requestId ∈ t.requestIds ↔ elegivel r = true ∧ r.rootCauseId = t.rootCauseId := by
  rw [(montarSlot_spec (mem_slots_iff.mp ht).2).2.1.mem_iff, List.mem_map]
  constructor
  · rintro ⟨r', hr', hid⟩
    obtain ⟨hr', helig, hcause⟩ := mem_grupo.mp hr'
    obtain rfl := List.inj_on_of_nodup_map hids hr' hr hid
    exact ⟨helig, hcause⟩
  · rintro ⟨helig, hcause⟩
    exact ⟨r, mem_grupo.mpr ⟨hr, helig, hcause⟩, rfl⟩

theorem mem_slots_of_admitted (ht : t ∈ (plan limite requests).admittedSlots) :
    t ∈ slots requests :=
  (admittedSlots_append_queuedSlots limite requests).mem_iff.mp (List.mem_append_left _ ht)

theorem mem_slots_of_queued (ht : t ∈ (plan limite requests).queuedSlots) : t ∈ slots requests :=
  (admittedSlots_append_queuedSlots limite requests).mem_iff.mp (List.mem_append_right _ ht)

theorem mem_admitted_or_queued (limite : ℕ) (ht : t ∈ slots requests) :
    t ∈ (plan limite requests).admittedSlots ∨ t ∈ (plan limite requests).queuedSlots :=
  List.mem_append.mp ((admittedSlots_append_queuedSlots limite requests).mem_iff.mpr ht)

/-- Two slots of one cause are the same. -/
theorem eq_of_rootCauseId {t' : RootCauseSlot} (ht : t ∈ slots requests) (ht' : t' ∈ slots requests)
    (h : t.rootCauseId = t'.rootCauseId) : t = t' :=
  List.inj_on_of_nodup_map (nodup_slots requests) ht ht' h

/-- No slot is both admitted and queued. -/
theorem not_queued_of_admitted (ht : t ∈ (plan limite requests).admittedSlots) :
    t ∉ (plan limite requests).queuedSlots := by
  intro hqueued
  have hnodup :
      ((plan limite requests).admittedSlots ++ (plan limite requests).queuedSlots).Nodup :=
    (admittedSlots_append_queuedSlots limite requests).nodup_iff.mpr
      (List.Nodup.of_map _ (nodup_slots requests))
  exact (List.nodup_append.mp hnodup).2.2 t ht t hqueued rfl

theorem mem_admittedRequestIds_iff (hids : (requests.map WorkRequest.requestId).Nodup)
    (hr : r ∈ requests) :
    r.requestId ∈ (plan limite requests).admittedRequestIds ↔ elegivel r = true ∧
      ∃ t ∈ (plan limite requests).admittedSlots, t.rootCauseId = r.rootCauseId := by
  rw [AdmissionPlan.admittedRequestIds, List.mem_flatMap]
  constructor
  · rintro ⟨t, ht, hq⟩
    obtain ⟨helig, hcause⟩ := (mem_requestIds_iff hids (mem_slots_of_admitted ht) hr).mp hq
    exact ⟨helig, t, ht, hcause.symm⟩
  · rintro ⟨helig, t, ht, hcause⟩
    exact ⟨t, ht, (mem_requestIds_iff hids (mem_slots_of_admitted ht) hr).mpr ⟨helig, hcause.symm⟩⟩

theorem mem_queuedRequestIds_iff (hids : (requests.map WorkRequest.requestId).Nodup)
    (hr : r ∈ requests) :
    r.requestId ∈ (plan limite requests).queuedRequestIds ↔ elegivel r = true ∧
      ∃ t ∈ (plan limite requests).queuedSlots, t.rootCauseId = r.rootCauseId := by
  rw [AdmissionPlan.queuedRequestIds, List.mem_flatMap]
  constructor
  · rintro ⟨t, ht, hq⟩
    obtain ⟨helig, hcause⟩ := (mem_requestIds_iff hids (mem_slots_of_queued ht) hr).mp hq
    exact ⟨helig, t, ht, hcause.symm⟩
  · rintro ⟨helig, t, ht, hcause⟩
    exact ⟨t, ht, (mem_requestIds_iff hids (mem_slots_of_queued ht) hr).mpr ⟨helig, hcause.symm⟩⟩

theorem elegivel_of_active (h : r.status ∈ WorkRequestStatus.active) : elegivel r = true :=
  elegivel_iff.mpr (Or.inl h)

/-- Active work is admitted. -/
theorem mem_admittedRequestIds_of_active (hids : (requests.map WorkRequest.requestId).Nodup)
    (hr : r ∈ requests) (hactive : r.status ∈ WorkRequestStatus.active) :
    r.requestId ∈ (plan limite requests).admittedRequestIds :=
  (mem_admittedRequestIds_iff hids hr).mpr ⟨elegivel_of_active hactive,
    mem_admittedSlots_of_active (mem_causasAtivas.mpr ⟨r, hr, hactive, rfl⟩)⟩

/-! ## What applying a plan leaves -/

/-- What applying a plan makes of a request. -/
inductive Promovida (plano : AdmissionPlan) (r : WorkRequest) : WorkRequest → Prop
  | admitida (agora : DateTime) : r.requestId ∈ plano.admittedRequestIds →
      Promovida plano r (promover r .admitted agora)
  | enfileirada (agora : DateTime) : r.requestId ∈ plano.queuedRequestIds →
      Promovida plano r (promover r .queued agora)
  | alheia : r.requestId ∉ plano.admittedRequestIds → r.requestId ∉ plano.queuedRequestIds →
      Promovida plano r r

/-- A request without what a promotion changes. -/
def semEstado (r : WorkRequest) : WorkRequest :=
  { r with status := .queued, updatedAt := sampleInstant }

theorem semEstado_promover (r : WorkRequest) (destino : WorkRequestStatus) (agora : DateTime) :
    semEstado (promover r destino agora) = semEstado r := by
  unfold promover
  split_ifs <;> rfl

theorem elegivel_promover (r : WorkRequest) (destino : WorkRequestStatus) (agora : DateTime) :
    elegivel (promover r destino agora) = elegivel r := by
  unfold promover
  split_ifs with h h'
  · have hr : elegivel r = true := by
      rw [elegivel_iff]
      simpa using Or.inr h.2
    rw [hr, h.1]
    rfl
  · have hr : elegivel r = true := elegivel_iff.mpr (Or.inr (Or.inl h'.2))
    rw [hr, h'.1]
    rfl
  · rfl

theorem Promovida.semEstado_eq {plano : AdmissionPlan} (h : Promovida plano r r') :
    semEstado r' = semEstado r := by
  cases h with
  | admitida agora _ | enfileirada agora _ => exact semEstado_promover r _ agora
  | alheia => rfl

theorem Promovida.elegivel_eq {plano : AdmissionPlan} (h : Promovida plano r r') :
    elegivel r' = elegivel r := by
  cases h with
  | admitida agora _ | enfileirada agora _ => exact elegivel_promover r _ agora
  | alheia => rfl

theorem Promovida.requestId {plano : AdmissionPlan} (h : Promovida plano r r') :
    r'.requestId = r.requestId := by
  have h := congrArg WorkRequest.requestId h.semEstado_eq
  exact h

theorem Promovida.rootCauseId {plano : AdmissionPlan} (h : Promovida plano r r') :
    r'.rootCauseId = r.rootCauseId := by
  have h := congrArg WorkRequest.rootCauseId h.semEstado_eq
  exact h

theorem Promovida.executor {plano : AdmissionPlan} (h : Promovida plano r r') :
    r'.executor = r.executor := by
  have h := congrArg WorkRequest.executor h.semEstado_eq
  exact h

/-- The slot of a cause does not look at what a promotion changes. -/
theorem montarSlot_map_semEstado (c : String) (itens : List WorkRequest) :
    montarSlot c (itens.map semEstado) = montarSlot c itens := by
  have hsort : (itens.map semEstado).insertionSort (fun a b ↦ ordemItem a b = true)
      = (itens.insertionSort fun a b ↦ ordemItem a b = true).map semEstado :=
    (List.map_insertionSort _ _ semEstado itens fun _ _ _ _ ↦ Iff.rfl).symm
  rw [montarSlot, hsort, montarSlot]
  rcases itens.insertionSort fun a b ↦ ordemItem a b = true with _ | ⟨primeiro, demais⟩
  · rfl
  · simp only [List.map_cons, List.foldl_map, List.map_map]
    rfl

section Aplicado

variable {f : WorkRequest → WorkRequest}

/-- Applying a plan changes no slot. -/
theorem slots_map {plano : AdmissionPlan} (hf : ∀ r ∈ requests, Promovida plano r (f r)) :
    slots (requests.map f) = slots requests := by
  have helig : (requests.map f).filter elegivel = (requests.filter elegivel).map f := by
    rw [List.filter_map]
    refine congrArg (List.map f) (List.filter_congr fun r hr ↦ (hf r hr).elegivel_eq)
  have hcausas : causas ((requests.filter elegivel).map f) = causas (requests.filter elegivel) := by
    rw [causas, causas, List.map_map]
    congr 3
    refine List.map_congr_left fun r hr ↦ ?_
    exact (hf r (List.mem_filter.mp hr).1).rootCauseId
  have hslot : ∀ c, montarSlot c (grupo (requests.map f) c) = montarSlot c (grupo requests c) := by
    intro c
    have hgrupo : (grupo (requests.map f) c).map semEstado = (grupo requests c).map semEstado := by
      rw [grupo, grupo, helig, List.filter_map, List.map_map]
      have hfilter : (requests.filter elegivel).filter
            ((fun r ↦ decide (r.rootCauseId = c)) ∘ f)
          = (requests.filter elegivel).filter fun r ↦ decide (r.rootCauseId = c) := by
        refine List.filter_congr fun r hr ↦ ?_
        rw [Function.comp_apply, (hf r (List.mem_filter.mp hr).1).rootCauseId]
      rw [hfilter]
      refine List.map_congr_left fun r hr ↦ ?_
      exact (hf r (List.mem_filter.mp (List.mem_filter.mp hr).1).1).semEstado_eq
    rw [← montarSlot_map_semEstado, hgrupo, montarSlot_map_semEstado]
  rw [slots_eq, slots_eq, helig, hcausas]
  simp only [hslot]

/-- A promotion to `ADMITTED` leaves eligible work active. -/
theorem active_promover (helig : elegivel r = true) (agora : DateTime) :
    (promover r .admitted agora).status ∈ WorkRequestStatus.active := by
  rcases elegivel_iff.mp helig with hactive | hwait
  · rw [promover, if_neg, if_neg]
    · exact hactive
    · rintro ⟨h, -⟩
      cases h
    · rintro ⟨-, h⟩
      simp only [List.mem_cons, List.not_mem_nil, or_false] at h
      rcases h with h | h
      all_goals
        rw [h] at hactive
        exact absurd hactive (by decide)
  · rw [promover, if_pos ⟨rfl, by simpa using hwait⟩]
    exact List.mem_cons_self

theorem requestId_not_queued (hids : (requests.map WorkRequest.requestId).Nodup) (hr : r ∈ requests)
    (hadm : r.requestId ∈ (plan limite requests).admittedRequestIds) :
    r.requestId ∉ (plan limite requests).queuedRequestIds := by
  intro hqueued
  obtain ⟨-, t, ht, hcause⟩ := (mem_admittedRequestIds_iff hids hr).mp hadm
  obtain ⟨-, t', ht', hcause'⟩ := (mem_queuedRequestIds_iff hids hr).mp hqueued
  obtain rfl := eq_of_rootCauseId (mem_slots_of_admitted ht) (mem_slots_of_queued ht')
    (hcause.trans hcause'.symm)
  exact not_queued_of_admitted ht ht'

/-- What is active once a plan is applied was active before, or is admitted by it. -/
theorem Promovida.active_or_admitted {plano : AdmissionPlan} (h : Promovida plano r r')
    (hactive : r'.status ∈ WorkRequestStatus.active) :
    r.status ∈ WorkRequestStatus.active ∨ r.requestId ∈ plano.admittedRequestIds := by
  cases h with
  | admitida agora hadm => exact Or.inr hadm
  | alheia => exact Or.inl hactive
  | enfileirada agora _ =>
    refine Or.inl ?_
    rw [promover, if_neg (by simp)] at hactive
    split_ifs at hactive
    · change WorkRequestStatus.queued ∈ WorkRequestStatus.active at hactive
      exact absurd hactive (by decide)
    · exact hactive

/-- What a plan admits is active once it is applied. -/
theorem Promovida.active (hids : (requests.map WorkRequest.requestId).Nodup) (hr : r ∈ requests)
    (h : Promovida (plan limite requests) r r')
    (hadm : r.requestId ∈ (plan limite requests).admittedRequestIds) :
    r'.status ∈ WorkRequestStatus.active := by
  cases h with
  | admitida agora _ =>
    exact active_promover ((mem_admittedRequestIds_iff hids hr).mp hadm).1 agora
  | enfileirada agora hqueued => exact absurd hqueued (requestId_not_queued hids hr hadm)
  | alheia hnot _ => exact absurd hadm hnot

/-- What a plan queues has left `RECEIVED` once it is applied. -/
theorem Promovida.not_received (hids : (requests.map WorkRequest.requestId).Nodup)
    (hr : r ∈ requests) (h : Promovida (plan limite requests) r r')
    (hqueued : r.requestId ∈ (plan limite requests).queuedRequestIds) : r'.status ≠ .received := by
  cases h with
  | alheia _ hnot => exact absurd hqueued hnot
  | admitida agora hadm => exact absurd hqueued (requestId_not_queued hids hr hadm)
  | enfileirada agora _ =>
    rw [promover, if_neg (by simp)]
    split_ifs with h
    · exact WorkRequestStatus.noConfusion
    · exact fun hreceived ↦ h ⟨rfl, hreceived⟩

/-- **Once a plan is applied the active causes are those it admits.** -/
theorem mem_causasAtivas_map (hids : (requests.map WorkRequest.requestId).Nodup)
    (hf : ∀ r ∈ requests, Promovida (plan limite requests) r (f r)) :
    c ∈ causasAtivas (requests.map f) ↔
      ∃ t ∈ (plan limite requests).admittedSlots, t.rootCauseId = c := by
  rw [mem_causasAtivas]
  constructor
  · rintro ⟨r', hr', hactive, rfl⟩
    obtain ⟨r, hr, rfl⟩ := List.mem_map.mp hr'
    rw [(hf r hr).rootCauseId]
    rcases (hf r hr).active_or_admitted hactive with hbefore | hadm
    · exact mem_admittedSlots_of_active (mem_causasAtivas.mpr ⟨r, hr, hbefore, rfl⟩)
    · exact ((mem_admittedRequestIds_iff hids hr).mp hadm).2
  · rintro ⟨t, ht, rfl⟩
    obtain ⟨r, hr, -⟩ := (montarSlot_spec (mem_slots_iff.mp (mem_slots_of_admitted ht)).2).2.2.1.1
    obtain ⟨hr, helig, hcause⟩ := mem_grupo.mp hr
    have hadm := (mem_admittedRequestIds_iff hids hr).mpr ⟨helig, t, ht, hcause.symm⟩
    exact ⟨f r, List.mem_map_of_mem hr, (hf r hr).active hids hr hadm,
      (hf r hr).rootCauseId.trans hcause⟩

theorem emAndamento_map_iff (hids : (requests.map WorkRequest.requestId).Nodup)
    (hf : ∀ r ∈ requests, Promovida (plan limite requests) r (f r)) (ht : t ∈ slots requests) :
    emAndamento (requests.map f) t = true ↔ t ∈ (plan limite requests).admittedSlots := by
  rw [emAndamento_iff, mem_causasAtivas_map hids hf]
  constructor
  · rintro ⟨t', ht', hcause⟩
    obtain rfl := eq_of_rootCauseId (mem_slots_of_admitted ht') ht hcause
    exact ht'
  · exact fun h ↦ ⟨t, h, rfl⟩

theorem admitted_of_emAndamento (limite : ℕ) (ht : t ∈ slots requests)
    (h : emAndamento requests t = true) : t ∈ (plan limite requests).admittedSlots := by
  rw [plan_eq]
  exact List.mem_append_left _ (List.mem_filter.mpr ⟨ht, h⟩)

/-- The slots of causes that were not active, those admitted first. -/
theorem candidatas_eq (limite : ℕ) (requests : List WorkRequest) :
    candidatas requests = (candidatas requests).take (limite - (ocupadas requests).length)
      ++ (plan limite requests).queuedSlots := by
  rw [plan_eq, List.take_append_drop]

theorem take_candidatas_subset {t : RootCauseSlot}
    (ht : t ∈ (candidatas requests).take (limite - (ocupadas requests).length)) :
    t ∈ (plan limite requests).admittedSlots := by
  rw [plan_eq]
  exact List.mem_append_right _ ht

/-- Among the causes that were not active, applying a plan activates those it admits. -/
theorem filter_candidatas (hids : (requests.map WorkRequest.requestId).Nodup)
    (hf : ∀ r ∈ requests, Promovida (plan limite requests) r (f r)) :
    (candidatas requests).filter (emAndamento (requests.map f))
        = (candidatas requests).take (limite - (ocupadas requests).length) ∧
      (candidatas requests).filter (fun t ↦ !emAndamento (requests.map f) t)
        = (plan limite requests).queuedSlots := by
  have htake : ∀ t ∈ (candidatas requests).take (limite - (ocupadas requests).length),
      emAndamento (requests.map f) t = true := by
    intro t ht
    have hadm := take_candidatas_subset ht
    exact (emAndamento_map_iff hids hf (mem_slots_of_admitted hadm)).mpr hadm
  have hdrop : ∀ t ∈ (plan limite requests).queuedSlots,
      emAndamento (requests.map f) t = false := by
    intro t ht
    rw [← Bool.not_eq_true, emAndamento_map_iff hids hf (mem_slots_of_queued ht)]
    exact fun hadm ↦ not_queued_of_admitted hadm ht
  rw [candidatas_eq limite requests, List.filter_append, List.filter_append]
  constructor
  · rw [List.filter_eq_self.mpr, List.filter_eq_nil_iff.mpr, List.append_nil, ← candidatas_eq]
    · intro t ht
      rw [hdrop t ht]
      exact Bool.false_ne_true
    · exact htake
  · rw [List.filter_eq_nil_iff.mpr, List.filter_eq_self.mpr, List.nil_append]
    · intro t ht
      rw [hdrop t ht]
      rfl
    · intro t ht
      rw [htake t ht]
      exact Bool.false_ne_true

/-- **Planning again.** The slots that were admitted are the active ones, in the order of their
keys, and the others go on waiting. -/
theorem plan_map (hids : (requests.map WorkRequest.requestId).Nodup)
    (hf : ∀ r ∈ requests, Promovida (plan limite requests) r (f r)) :
    (plan limite (requests.map f)).admittedSlots = ocupadas (requests.map f) ∧
      (plan limite (requests.map f)).queuedSlots = (plan limite requests).queuedSlots := by
  have hcand : candidatas (requests.map f) = (plan limite requests).queuedSlots := by
    rw [← (filter_candidatas hids hf).2, candidatas, candidatas, slots_map hf, List.filter_filter]
    refine List.filter_congr fun t ht ↦ ?_
    by_cases hact : emAndamento requests t = true
    · rw [(emAndamento_map_iff hids hf ht).mpr (admitted_of_emAndamento limite ht hact)]
      rfl
    · rw [Bool.not_eq_true] at hact
      rw [hact, Bool.not_false, Bool.and_true]
  have hlen : (ocupadas (requests.map f)).length = (plan limite requests).admittedSlots.length := by
    refine List.Perm.length_eq ((List.perm_ext_iff_of_nodup ?_ ?_).mpr fun t ↦ ?_)
    · exact (List.Nodup.of_map _ (nodup_slots _)).filter _
    · refine List.Nodup.of_append_left (List.Nodup.of_map RootCauseSlot.rootCauseId
        (@plan_cumpre limite _ hids).causas_nodup)
    · rw [ocupadas, List.mem_filter, slots_map hf]
      constructor
      · rintro ⟨ht, hact⟩
        exact (emAndamento_map_iff hids hf ht).mp hact
      · intro ht
        exact ⟨mem_slots_of_admitted ht,
          (emAndamento_map_iff hids hf (mem_slots_of_admitted ht)).mpr ht⟩
  have hfull := (@plan_cumpre limite _ hids).full
  rw [plan_eq limite (requests.map f), hcand, hlen]
  rcases hqueued : (plan limite requests).queuedSlots with _ | ⟨t, ts⟩
  · exact ⟨by rw [List.take_nil, List.append_nil], List.drop_nil⟩
  · have hle : limite - (plan limite requests).admittedSlots.length = 0 :=
      Nat.sub_eq_zero_of_le (hfull (by rw [hqueued]; exact List.cons_ne_nil _ _))
    rw [hle]
    exact ⟨List.append_nil _, rfl⟩

/-- The admitted slots, those of the causes that were active first. -/
theorem admittedSlots_eq (hids : (requests.map WorkRequest.requestId).Nodup)
    (hf : ∀ r ∈ requests, Promovida (plan limite requests) r (f r)) :
    (plan limite requests).admittedSlots
      = (ocupadas (requests.map f)).filter (emAndamento requests)
        ++ (ocupadas (requests.map f)).filter fun t ↦ !emAndamento requests t := by
  have hold : (ocupadas (requests.map f)).filter (emAndamento requests) = ocupadas requests := by
    rw [ocupadas, ocupadas, slots_map hf, List.filter_filter]
    refine List.filter_congr fun t ht ↦ ?_
    by_cases hact : emAndamento requests t = true
    · rw [hact, (emAndamento_map_iff hids hf ht).mpr (admitted_of_emAndamento limite ht hact)]
      rfl
    · rw [Bool.not_eq_true] at hact
      rw [hact, Bool.false_and]
  have hnew : (ocupadas (requests.map f)).filter (fun t ↦ !emAndamento requests t)
      = (candidatas requests).take (limite - (ocupadas requests).length) := by
    rw [← (filter_candidatas hids hf).1, ocupadas, candidatas, slots_map hf, List.filter_filter,
      List.filter_filter]
    exact List.filter_congr fun t _ ↦ Bool.and_comm _ _
  rw [hold, hnew, plan_eq]

/-- **Applying the next plan changes nothing.** -/
theorem Promovida.eq_of_map (hids : (requests.map WorkRequest.requestId).Nodup)
    (hf : ∀ r ∈ requests, Promovida (plan limite requests) r (f r)) (hr : r ∈ requests)
    (h : Promovida (plan limite (requests.map f)) (f r) r') : r' = f r := by
  have hmapids : ((requests.map f).map WorkRequest.requestId).Nodup := by
    rw [List.map_map]
    have hsame : requests.map (WorkRequest.requestId ∘ f) = requests.map WorkRequest.requestId :=
      List.map_congr_left fun r hr ↦ (hf r hr).requestId
    rw [hsame]
    exact hids
  obtain ⟨hadmitted, hqueued⟩ := plan_map hids hf
  have hmem : f r ∈ requests.map f := List.mem_map_of_mem hr
  cases h with
  | alheia => rfl
  | admitida agora hadm =>
    -- the cause is active, hence was admitted, and so was the request
    obtain ⟨helig, t, ht, hcause⟩ := (mem_admittedRequestIds_iff hmapids hmem).mp hadm
    rw [hadmitted, ocupadas, List.mem_filter, slots_map hf] at ht
    have ht' := (emAndamento_map_iff hids hf ht.1).mp ht.2
    have hactive := (hf r hr).active hids hr ((mem_admittedRequestIds_iff hids hr).mpr
      ⟨(hf r hr).elegivel_eq.symm.trans helig, t, ht', hcause.trans (hf r hr).rootCauseId⟩)
    rw [promover, if_neg, if_neg]
    · rintro ⟨h, -⟩
      cases h
    · rintro ⟨-, h⟩
      simp only [List.mem_cons, List.not_mem_nil, or_false] at h
      rcases h with h | h
      all_goals
        rw [h] at hactive
        exact absurd hactive (by decide)
  | enfileirada agora hq =>
    obtain ⟨helig, t, ht, hcause⟩ := (mem_queuedRequestIds_iff hmapids hmem).mp hq
    rw [hqueued] at ht
    have hwas : r.requestId ∈ (plan limite requests).queuedRequestIds :=
      (mem_queuedRequestIds_iff hids hr).mpr
        ⟨(hf r hr).elegivel_eq.symm.trans helig, t, ht, hcause.trans (hf r hr).rootCauseId⟩
    have hne := (hf r hr).not_received hids hr hwas
    rw [promover, if_neg (by simp), if_neg fun h ↦ hne h.2]

end Aplicado

/-! ## The causes a plan lets in -/

/-- The causes with waiting requests and no active one. -/
def esperando (requests : List WorkRequest) : Finset String :=
  ((requests.filter elegivel).map WorkRequest.rootCauseId).toFinset \ causasAtivas requests

/-- A waiting cause gets a slot: the active causes and the waiting ones that precede it leave one
free. -/
def NovaAdmitida (limite : ℕ) (requests : List WorkRequest) (c : String) : Prop :=
  c ∈ esperando requests ∧ (causasAtivas requests).card
    + ((esperando requests).filter fun c' ↦ chave requests c' < chave requests c).card < limite

theorem mem_esperando_iff :
    c ∈ esperando requests ↔ ∃ t ∈ candidatas requests, t.rootCauseId = c := by
  rw [esperando, Finset.mem_sdiff, List.mem_toFinset, List.mem_map]
  constructor
  · rintro ⟨⟨r, hr, rfl⟩, hnot⟩
    obtain ⟨hr, helig⟩ := List.mem_filter.mp hr
    obtain ⟨t, ht, hcause⟩ := exists_slot hr helig
    refine ⟨t, List.mem_filter.mpr ⟨ht, ?_⟩, hcause⟩
    rw [Bool.not_eq_true', ← Bool.not_eq_true, emAndamento_iff, hcause]
    exact hnot
  · rintro ⟨t, ht, rfl⟩
    obtain ⟨ht, hnot⟩ := List.mem_filter.mp ht
    rw [Bool.not_eq_true', ← Bool.not_eq_true, emAndamento_iff] at hnot
    refine ⟨?_, hnot⟩
    obtain ⟨r, hr, hcause⟩ := mem_causas.mp (mem_slots_iff.mp ht).1
    exact ⟨r, hr, hcause⟩

/-- The waiting causes that precede one, counted on the slots. -/
theorem length_precedentes (ht : t ∈ candidatas requests) :
    ((candidatas requests).filter fun b ↦ decide (chaveSlot b < chaveSlot t)).length
      = ((esperando requests).filter fun c ↦
          chave requests c < chave requests t.rootCauseId).card := by
  have hsub : ((candidatas requests).filter fun b ↦ decide (chaveSlot b < chaveSlot t)).Sublist
      (slots requests) := List.filter_sublist.trans List.filter_sublist
  have hnodup := (nodup_slots requests).sublist (hsub.map _)
  rw [← List.length_map RootCauseSlot.rootCauseId, ← List.toFinset_card_of_nodup hnodup]
  congr 1
  ext c
  rw [List.mem_toFinset, List.mem_map, Finset.mem_filter, mem_esperando_iff,
    chave_of_mem_slots (List.mem_filter.mp ht).1]
  constructor
  · rintro ⟨b, hb, rfl⟩
    obtain ⟨hb, hlt⟩ := List.mem_filter.mp hb
    rw [chave_of_mem_slots (List.mem_filter.mp hb).1]
    exact ⟨⟨b, hb, rfl⟩, of_decide_eq_true hlt⟩
  · rintro ⟨⟨b, hb, rfl⟩, hlt⟩
    rw [chave_of_mem_slots (List.mem_filter.mp hb).1] at hlt
    exact ⟨b, List.mem_filter.mpr ⟨hb, decide_eq_true hlt⟩, rfl⟩

/-- **Which causes are let in.** -/
theorem novaAdmitida_iff :
    NovaAdmitida limite requests c ↔
      ∃ t ∈ (plan limite requests).admittedSlots, emAndamento requests t = false ∧
        t.rootCauseId = c := by
  have hsorted : (candidatas requests).Pairwise fun a b ↦ chaveSlot a < chaveSlot b :=
    (pairwise_slots requests).sublist List.filter_sublist
  have hlet : ∀ t ∈ candidatas requests, NovaAdmitida limite requests t.rootCauseId ↔
      t ∈ (candidatas requests).take (limite - (ocupadas requests).length) := by
    intro t ht
    rw [Sorting.mem_take_iff hsorted, length_precedentes ht, Nat.lt_sub_iff_add_lt',
      length_ocupadas]
    exact and_congr_left' (iff_of_true (mem_esperando_iff.mpr ⟨t, ht, rfl⟩) ht)
  constructor
  · intro h
    obtain ⟨t, ht, rfl⟩ := mem_esperando_iff.mp h.1
    refine ⟨t, take_candidatas_subset ((hlet t ht).mp h), ?_, rfl⟩
    rw [← Bool.not_eq_true']
    exact (List.mem_filter.mp ht).2
  · rintro ⟨t, ht, hnew, rfl⟩
    have htake : t ∈ (candidatas requests).take (limite - (ocupadas requests).length) := by
      rw [plan_eq] at ht
      refine (List.mem_append.mp ht).resolve_left fun h ↦ ?_
      rw [(List.mem_filter.mp h).2] at hnew
      cases hnew
    exact (hlet t (List.mem_of_mem_take htake)).mpr htake

end WipPolicy

/-! ## The choice -/

namespace Service

open WipPolicy

variable {executor : Option ExecutorKind} {plano : AdmissionPlan} {limite : ℕ}
  {requests requests' : List WorkRequest} {f : WorkRequest → WorkRequest}

/-- What `proximo_item` chooses from a listing. -/
def escolha (executor : Option ExecutorKind) (plano : AdmissionPlan)
    (requests : List WorkRequest) : Option WorkRequest :=
  ((requests.filter (candidato executor)).insertionSort
    fun a b ↦ ordemCandidato plano a b = true).head?

theorem proximoItem_eq (cfg : Config) (executor : Option ExecutorKind) :
    proximoItem cfg executor
      = aplicarAdmissao cfg >>= fun s ↦ Program.ret (escolha executor s.2 s.1) := rfl

/-- The key of a candidate. -/
def chaveCandidato (plano : AdmissionPlan) (r : WorkRequest) : ℕ ×ₗ String :=
  toLex (plano.admittedRequestIds.idxOf r.requestId, r.requestId)

theorem ordemCandidato_iff (plano : AdmissionPlan) (a b : WorkRequest) :
    ordemCandidato plano a b = true ↔ chaveCandidato plano a ≤ chaveCandidato plano b :=
  Sorting.isLE_then_compare_iff

/-- The choice does not depend on the order of the listing. -/
theorem escolha_of_perm (hperm : requests.Perm requests')
    (hids : (requests.map WorkRequest.requestId).Nodup) :
    escolha executor plano requests = escolha executor plano requests' := by
  refine congrArg List.head? (Sorting.insertionSort_eq_of_perm (ordemCandidato_iff plano)
    (hperm.filter _) fun a ha b hb hab ↦ ?_)
  have hid : a.requestId = b.requestId := congrArg (fun k ↦ (ofLex k).2) hab
  exact List.inj_on_of_nodup_map hids (List.mem_filter.mp ha).1 (List.mem_filter.mp hb).1 hid

/-- An id stands for a candidate. -/
def idCandidato (executor : Option ExecutorKind) (requests : List WorkRequest) (q : String) :
    Bool :=
  requests.any fun r ↦ candidato executor r && r.requestId == q

theorem idCandidato_iff {q : String} :
    idCandidato executor requests q = true ↔
      ∃ r ∈ requests, candidato executor r = true ∧ r.requestId = q := by
  simp [idCandidato]

/-- **The choice is the first candidate of the plan.** -/
theorem escolha_requestId (hmem : ∀ r ∈ requests, candidato executor r = true →
      r.requestId ∈ plano.admittedRequestIds) :
    (escolha executor plano requests).map WorkRequest.requestId
      = plano.admittedRequestIds.find? (idCandidato executor requests) := by
  by_cases hnil : requests.filter (candidato executor) = []
  · rw [escolha, hnil]
    refine (List.find?_eq_none.mpr fun q _ hq ↦ ?_).symm
    obtain ⟨r, hr, hcand, -⟩ := idCandidato_iff.mp hq
    have hr : r ∈ requests.filter (candidato executor) := List.mem_filter.mpr ⟨hr, hcand⟩
    rw [hnil] at hr
    exact List.not_mem_nil hr
  · obtain ⟨r, hr, hhead, hleast⟩ :=
      Sorting.head?_insertionSort_spec (ordemCandidato_iff plano) hnil
    obtain ⟨hr, hcand⟩ := List.mem_filter.mp hr
    rw [escolha, hhead]
    refine (List.find?_eq_some_iff_append.mpr ⟨idCandidato_iff.mpr ⟨r, hr, hcand, rfl⟩, ?_⟩).symm
    refine ⟨plano.admittedRequestIds.take (plano.admittedRequestIds.idxOf r.requestId),
      plano.admittedRequestIds.drop (plano.admittedRequestIds.idxOf r.requestId + 1), ?_, ?_⟩
    · have hlt := List.idxOf_lt_length_of_mem (hmem r hr hcand)
      conv_lhs => rw [← List.take_append_drop
        (plano.admittedRequestIds.idxOf r.requestId) plano.admittedRequestIds]
      rw [List.drop_eq_getElem_cons hlt, List.getElem_idxOf]
    · -- an earlier candidate would have a smaller key
      intro q hq
      rw [Bool.not_eq_true', ← Bool.not_eq_true]
      intro hq'
      obtain ⟨r', hr', hcand', rfl⟩ := idCandidato_iff.mp hq'
      have hle := hleast r' (List.mem_filter.mpr ⟨hr', hcand'⟩)
      have hidx := (List.mem_take_iff_idxOf_lt (List.mem_of_mem_take hq)).mp hq
      exact absurd hle (not_le.mpr (Prod.Lex.toLex_lt_toLex.mpr (Or.inl hidx)))

/-- Two choices from one listing are the same if their ids are. -/
theorem escolha_eq_iff {plano' : AdmissionPlan}
    (hids : (requests.map WorkRequest.requestId).Nodup) :
    escolha executor plano requests = escolha executor plano' requests ↔
      (escolha executor plano requests).map WorkRequest.requestId
        = (escolha executor plano' requests).map WorkRequest.requestId := by
  refine ⟨congrArg _, fun h ↦ ?_⟩
  have hmem : ∀ {p : AdmissionPlan} {r : WorkRequest}, escolha executor p requests = some r →
      r ∈ requests := fun hr ↦
    (List.mem_filter.mp ((List.mem_insertionSort _).mp (List.mem_of_head? hr))).1
  rcases h₁ : escolha executor plano requests with _ | r
  · rw [h₁] at h
    exact (Option.map_eq_none_iff.mp h.symm).symm
  · rw [h₁] at h
    obtain ⟨r', h₂, hid⟩ := Option.map_eq_some_iff.mp h.symm
    rw [h₂, List.inj_on_of_nodup_map hids (hmem h₁) (hmem h₂) hid.symm]

/-- The cause has a request that is a candidate once the cause is admitted. -/
def TemCandidata (executor : Option ExecutorKind) (requests : List WorkRequest) (c : String) :
    Prop :=
  ∃ r ∈ requests, r.rootCauseId = c ∧ r.status ∈ [.received, .queued, .admitted] ∧
    (r.executor != .humanGate && executor.all (· == r.executor)) = true

/-- Every cause let in that has a candidate comes after an active cause that has one, if there is
one. -/
def EscolhaEstavel (limite : ℕ) (executor : Option ExecutorKind) (requests : List WorkRequest) :
    Prop :=
  ∀ c, NovaAdmitida limite requests c → TemCandidata executor requests c →
    (∃ a ∈ causasAtivas requests, TemCandidata executor requests a) →
      ∃ a ∈ causasAtivas requests, TemCandidata executor requests a ∧
        chave requests a < chave requests c

/-- A request of an admitted cause is a candidate once the plan is applied. -/
theorem candidato_map {r r' : WorkRequest} (hids : (requests.map WorkRequest.requestId).Nodup)
    (hr : r ∈ requests) (h : Promovida (plan limite requests) r r')
    (hadm : r.requestId ∈ (plan limite requests).admittedRequestIds) :
    candidato executor r' = true ↔ r.status ∈ [.received, .queued, .admitted] ∧
      (r.executor != .humanGate && executor.all (· == r.executor)) = true := by
  have hstatus : r'.status = .admitted ↔ r.status ∈ [.received, .queued, .admitted] := by
    cases h with
    | enfileirada agora hqueued => exact absurd hqueued (requestId_not_queued hids hr hadm)
    | alheia hnot _ => exact absurd hadm hnot
    | admitida agora _ =>
      unfold promover
      split_ifs with h h'
      · refine iff_of_true rfl ?_
        have h := h.2
        simp only [List.mem_cons, List.not_mem_nil, or_false] at h ⊢
        exact h.elim Or.inl fun h ↦ Or.inr (Or.inl h)
      · exact absurd h'.1 (by simp)
      · have h : r.status ∉ [.received, .queued] := fun hwait ↦ h ⟨rfl, hwait⟩
        simp only [List.mem_cons, List.not_mem_nil, or_false, not_or] at h ⊢
        exact ⟨fun hadm ↦ Or.inr (Or.inr hadm),
          fun hs ↦ (hs.resolve_left h.1).resolve_left h.2⟩
  rw [candidato, h.executor, Bool.and_assoc, Bool.and_eq_true, decide_eq_true_iff, hstatus]

/-- The candidates of an admitted slot. -/
theorem find?_isSome_iff {t : RootCauseSlot} (hids : (requests.map WorkRequest.requestId).Nodup)
    (hf : ∀ r ∈ requests, Promovida (plan limite requests) r (f r))
    (ht : t ∈ (plan limite requests).admittedSlots) :
    (t.requestIds.find? (idCandidato executor (requests.map f))).isSome = true ↔
      TemCandidata executor requests t.rootCauseId := by
  rw [List.find?_isSome]
  constructor
  · rintro ⟨q, hq, hcand⟩
    obtain ⟨r', hr', hcand', rfl⟩ := idCandidato_iff.mp hcand
    obtain ⟨r, hr, rfl⟩ := List.mem_map.mp hr'
    rw [(hf r hr).requestId] at hq
    have hadm : r.requestId ∈ (plan limite requests).admittedRequestIds :=
      List.mem_flatMap.mpr ⟨t, ht, hq⟩
    refine ⟨r, hr, ?_, (candidato_map hids hr (hf r hr) hadm).mp hcand'⟩
    exact ((mem_requestIds_iff hids (mem_slots_of_admitted ht) hr).mp hq).2
  · rintro ⟨r, hr, hcause, hcand⟩
    have helig : elegivel r = true := by
      have h := hcand.1
      simp only [List.mem_cons, List.not_mem_nil, or_false] at h
      rw [elegivel_iff]
      rcases h with h | h | h
      · exact Or.inr (Or.inl h)
      · exact Or.inr (Or.inr h)
      · exact Or.inl (by rw [h]; decide)
    have hq := (mem_requestIds_iff hids (mem_slots_of_admitted ht) hr).mpr ⟨helig, hcause⟩
    have hadm : r.requestId ∈ (plan limite requests).admittedRequestIds :=
      List.mem_flatMap.mpr ⟨t, ht, hq⟩
    exact ⟨r.requestId, hq, idCandidato_iff.mpr ⟨f r, List.mem_map_of_mem hr,
      (candidato_map hids hr (hf r hr) hadm).mpr hcand, (hf r hr).requestId⟩⟩

/-- Every candidate is in the plan it was admitted by, and in the next one. -/
theorem candidato_mem {r : WorkRequest} (hids : (requests.map WorkRequest.requestId).Nodup)
    (hf : ∀ r ∈ requests, Promovida (plan limite requests) r (f r))
    (hr : r ∈ requests.map f) (hcand : candidato executor r = true) :
    r.requestId ∈ (plan limite requests).admittedRequestIds := by
  have hactive : r.status ∈ WorkRequestStatus.active := by
    rw [candidato, Bool.and_eq_true, Bool.and_eq_true, decide_eq_true_iff] at hcand
    rw [hcand.1.1]
    decide
  obtain ⟨r₀, hr₀, rfl⟩ := List.mem_map.mp hr
  rw [(hf r₀ hr₀).requestId]
  rcases (hf r₀ hr₀).active_or_admitted hactive with hbefore | hadm
  · exact mem_admittedRequestIds_of_active hids hr₀ hbefore
  · exact hadm

theorem find?_admittedRequestIds (plano : AdmissionPlan) (p : String → Bool) :
    plano.admittedRequestIds.find? p
      = plano.admittedSlots.findSome? fun t ↦ t.requestIds.find? p :=
  List.find?_flatMap

theorem nodup_map_requestId (hids : (requests.map WorkRequest.requestId).Nodup)
    (hf : ∀ r ∈ requests, Promovida (plan limite requests) r (f r)) :
    ((requests.map f).map WorkRequest.requestId).Nodup := by
  rw [List.map_map]
  have hsame : requests.map (WorkRequest.requestId ∘ f) = requests.map WorkRequest.requestId :=
    List.map_congr_left fun r hr ↦ (hf r hr).requestId
  rw [hsame]
  exact hids

/-- **When the next choice is the same.** -/
theorem escolha_estavel_iff (hids : (requests.map WorkRequest.requestId).Nodup)
    (hf : ∀ r ∈ requests, Promovida (plan limite requests) r (f r)) :
    escolha executor (plan limite (requests.map f)) (requests.map f)
        = escolha executor (plan limite requests) (requests.map f) ↔
      EscolhaEstavel limite executor requests := by
  have hmapids := nodup_map_requestId hids hf
  set p := idCandidato executor (requests.map f) with hp
  have hnext : ∀ r ∈ requests.map f, candidato executor r = true →
      r.requestId ∈ (plan limite (requests.map f)).admittedRequestIds := by
    intro r hr hcand
    rw [candidato, Bool.and_eq_true, Bool.and_eq_true, decide_eq_true_iff] at hcand
    exact mem_admittedRequestIds_of_active hmapids hr (by rw [hcand.1.1]; decide)
  rw [escolha_eq_iff hmapids, escolha_requestId hnext,
    escolha_requestId fun r hr hcand ↦ candidato_mem hids hf hr hcand,
    find?_admittedRequestIds, find?_admittedRequestIds, (plan_map hids hf).1,
    admittedSlots_eq hids hf, eq_comm]
  have hsorted : (ocupadas (requests.map f)).Pairwise fun a b ↦ chaveSlot a < chaveSlot b :=
    (pairwise_slots _).sublist List.filter_sublist
  have hslot : ∀ t ∈ ocupadas (requests.map f), t ∈ slots requests := fun t ht ↦ by
    rw [← slots_map hf]
    exact (List.mem_filter.mp ht).1
  have hadmitted : ∀ t, t ∈ ocupadas (requests.map f) ↔
      t ∈ (plan limite requests).admittedSlots := by
    intro t
    constructor
    · intro ht
      exact (emAndamento_map_iff hids hf (hslot t ht)).mp (List.mem_filter.mp ht).2
    · intro ht
      have hmem := mem_slots_of_admitted ht
      rw [ocupadas, List.mem_filter, slots_map hf]
      exact ⟨hmem, (emAndamento_map_iff hids hf hmem).mpr ht⟩
  have hkept : ∀ c ∈ causasAtivas requests, ∃ a ∈ ocupadas (requests.map f), a.rootCauseId = c := by
    intro c hc
    obtain ⟨a, ha, rfl⟩ : ∃ a ∈ (plan limite requests).admittedSlots, a.rootCauseId = c :=
      mem_admittedSlots_of_active hc
    exact ⟨a, (hadmitted a).mpr ha, rfl⟩
  rw [Sorting.findSome?_filter_append_iff hsorted]
  · -- from the slots to their causes
    have hcand : ∀ t ∈ ocupadas (requests.map f), ((t.requestIds.find? p).isSome = true ↔
        TemCandidata executor requests t.rootCauseId) := fun t ht ↦
      find?_isSome_iff hids hf ((hadmitted t).mp ht)
    have hativas : (∃ a ∈ ocupadas (requests.map f), emAndamento requests a = true ∧
        (a.requestIds.find? p).isSome = true) ↔
          ∃ a ∈ causasAtivas requests, TemCandidata executor requests a := by
      constructor
      · rintro ⟨a, ha, hact, hfind⟩
        exact ⟨a.rootCauseId, emAndamento_iff.mp hact, (hcand a ha).mp hfind⟩
      · rintro ⟨c, hc, htem⟩
        obtain ⟨a, ha, rfl⟩ := hkept c hc
        exact ⟨a, ha, emAndamento_iff.mpr hc, (hcand a ha).mpr htem⟩
    constructor
    · intro h c hnova htem hex
      obtain ⟨b, hb, hnew, rfl⟩ := novaAdmitida_iff.mp hnova
      have hb := (hadmitted b).mpr hb
      obtain ⟨a, ha, hact, hfind, hlt⟩ :=
        h b hb hnew ((hcand b hb).mpr htem) (hativas.mpr hex)
      refine ⟨a.rootCauseId, emAndamento_iff.mp hact, (hcand a ha).mp hfind, ?_⟩
      rw [chave_of_mem_slots (hslot a ha), chave_of_mem_slots (hslot b hb)]
      exact hlt
    · intro h b hb hnew hfind hex
      have hnova := novaAdmitida_iff.mpr ⟨b, (hadmitted b).mp hb, hnew, rfl⟩
      obtain ⟨c, hc, htem, hlt⟩ := h _ hnova ((hcand b hb).mp hfind) (hativas.mp hex)
      obtain ⟨a, ha, rfl⟩ := hkept c hc
      rw [chave_of_mem_slots (hslot a ha), chave_of_mem_slots (hslot b hb)] at hlt
      exact ⟨a, ha, emAndamento_iff.mpr hc, (hcand a ha).mpr htem, hlt⟩
  · -- an id is in one slot only
    intro a ha b hb q hqa hqb
    obtain ⟨r, hr, hid, hcause⟩ := mem_slots (hslot a ha) q (List.mem_of_find?_eq_some hqa)
    obtain ⟨r', hr', hid', hcause'⟩ := mem_slots (hslot b hb) q (List.mem_of_find?_eq_some hqb)
    obtain rfl := List.inj_on_of_nodup_map hids hr hr' (hid.trans hid'.symm)
    exact eq_of_rootCauseId (hslot a ha) (hslot b hb) (hcause.symm.trans hcause')

/-! ## The program alone -/

section Alone

variable {cfg : Config} {b : Backend} {s s' : Store} {i : ℕ}

/-- No other replica takes part in the call. -/
def Sozinha (e : Env) : Prop := e.conflito = false

/-- Every stored request can be read. -/
def Legivel (b : Backend) (s : Store) : Prop := ∀ r ∈ s.requests, Store.ler b r = .ok r

theorem mapM_ler {l : List WorkRequest} (h : ∀ r ∈ l, Store.ler b r = .ok r) :
    l.mapM (Store.ler b) = .ok l := by
  induction l with
  | nil => rfl
  | cons r l ih =>
    obtain ⟨hr, hl⟩ := List.forall_mem_cons.mp h
    rw [List.mapM_cons, hr, ih hl]
    rfl

theorem legivel_of_mapM {l l' : List WorkRequest} (h : l.mapM (Store.ler b) = .ok l') :
    ∀ r ∈ l, Store.ler b r = .ok r := by
  induction l generalizing l' with
  | nil => exact List.forall_mem_nil _
  | cons r l ih =>
    rw [List.mapM_cons] at h
    obtain ⟨r', hr, h⟩ := bind_eq_ok.mp h
    obtain ⟨t, ht, -⟩ := bind_eq_ok.mp h
    refine List.forall_mem_cons.mpr ⟨?_, ih ht⟩
    rw [hr, Store.ler_eq_ok hr]

theorem listar_of_legivel (h : Legivel b s) :
    ∃ l, s.listar b = .ok l ∧ l.Perm s.requests := by
  cases b with
  | memory => exact ⟨s.requests, rfl, List.Perm.refl _⟩
  | redis =>
    refine ⟨_, mapM_ler fun r hr ↦ h r ((List.mem_insertionSort _).mp hr), ?_⟩
    exact List.perm_insertionSort _ _

theorem legivel_of_listar {l : List WorkRequest} (h : s.listar b = .ok l) : Legivel b s := by
  cases b with
  | memory => exact fun r _ ↦ rfl
  | redis => exact fun r hr ↦ legivel_of_mapM h r ((List.mem_insertionSort _).mpr hr)

theorem ler_promover {r : WorkRequest} (h : Store.ler b r = .ok r) (destino : WorkRequestStatus)
    (agora : DateTime) :
    Store.ler b (promover r destino agora) = .ok (promover r destino agora) := by
  have haccepted : (promover r destino agora).accepted = r.accepted := by
    unfold promover
    split_ifs with hadm hqueue
    · have hbefore : (r.status != .blocked) = true := by
        rw [bne_iff_ne]
        intro hblocked
        rw [hblocked] at hadm
        exact absurd hadm.2 (by decide)
      have hafter : (WorkRequestStatus.admitted != .blocked) = true := by decide
      simp only [WorkRequest.accepted, hadm.1, hbefore, hafter]
    · have hbefore : (WorkRequestStatus.received != .blocked) = true := by decide
      have hafter : (WorkRequestStatus.queued != .blocked) = true := by decide
      simp only [WorkRequest.accepted, hqueue.1, hqueue.2, hbefore, hafter]
    · rfl
  unfold Store.ler at h ⊢
  rw [haccepted]
  split_ifs at h ⊢
  rfl

theorem sortedSet_nodup (ids : List String) : (sortedSet ids).Nodup :=
  (List.perm_insertionSort _ _).nodup_iff.mpr (List.nodup_dedup ids)

theorem mem_sortedSet {ids : List String} {q : String} : q ∈ sortedSet ids ↔ q ∈ ids := by
  rw [sortedSet, List.mem_insertionSort, List.mem_dedup]

/-- `atualizar` with a promotion, for one id after the other. -/
def promoverTodas (destino : WorkRequestStatus) (qs : List String) : Method PUnit :=
  qs.forM fun q ↦ do
    let _ ← chamar (.atualizar q (.promover destino))

theorem aplicarAdmissao_eq (cfg : Config) :
    aplicarAdmissao cfg = chamar .listar >>= fun l ↦
      promoverTodas .admitted (sortedSet (plan cfg.maxActiveRootCauses l).admittedRequestIds) >>=
        fun _ ↦ promoverTodas .queued
          (sortedSet (plan cfg.maxActiveRootCauses l).queuedRequestIds) >>=
        fun _ ↦ chamar .listar >>=
        fun l' ↦ Program.ret (l', plan cfg.maxActiveRootCauses l) := rfl

/-- The requests with these ids are promoted, the others are left alone. -/
def Promove (destino : WorkRequestStatus) (qs : List String) (requests : List WorkRequest)
    (f : WorkRequest → WorkRequest) : Prop :=
  ∀ r ∈ requests, (r.requestId ∈ qs → ∃ agora, f r = promover r destino agora) ∧
    (r.requestId ∉ qs → f r = r)

section Promove

variable {destino : WorkRequestStatus} {qs : List String}

theorem Promove.requestId (h : Promove destino qs requests f) {r : WorkRequest}
    (hr : r ∈ requests) : (f r).requestId = r.requestId := by
  by_cases hq : r.requestId ∈ qs
  · obtain ⟨agora, heq⟩ := (h r hr).1 hq
    rw [heq, promover_requestId]
  · rw [(h r hr).2 hq]

theorem Promove.nodup (h : Promove destino qs requests f)
    (hids : (requests.map WorkRequest.requestId).Nodup) :
    ((requests.map f).map WorkRequest.requestId).Nodup := by
  have hsame : requests.map (WorkRequest.requestId ∘ f) = requests.map WorkRequest.requestId :=
    List.map_congr_left fun r hr ↦ h.requestId hr
  rw [List.map_map, hsame]
  exact hids

theorem Promove.legivel (h : Promove destino qs s.requests f) (hleg : Legivel b s) :
    Legivel b { s with requests := s.requests.map f } := by
  intro r' hr'
  obtain ⟨r, hr, rfl⟩ := List.mem_map.mp hr'
  by_cases hq : r.requestId ∈ qs
  · obtain ⟨agora, heq⟩ := (h r hr).1 hq
    rw [heq]
    exact ler_promover (hleg r hr) destino agora
  · rw [(h r hr).2 hq]
    exact hleg r hr

/-- One promotion, then more. -/
theorem Promove.cons {q : String} {g : WorkRequest → WorkRequest} (hq : q ∉ qs)
    (h : Promove destino [q] requests f) (hg : Promove destino qs (requests.map f) g) :
    Promove destino (q :: qs) requests (g ∘ f) := by
  intro r hr
  have hgr := hg (f r) (List.mem_map_of_mem hr)
  rw [h.requestId hr] at hgr
  by_cases hrq : r.requestId = q
  · -- promoted now, and not again
    obtain ⟨agora, heq⟩ := (h r hr).1 (List.mem_singleton.mpr hrq)
    rw [hrq] at hgr ⊢
    exact ⟨fun _ ↦ ⟨agora, (hgr.2 hq).trans heq⟩, fun hnot ↦ absurd List.mem_cons_self hnot⟩
  · have hsame : f r = r := (h r hr).2 fun hmem ↦ hrq (List.mem_singleton.mp hmem)
    rw [hsame] at hgr
    rw [Function.comp_apply, hsame]
    refine ⟨fun hmem ↦ hgr.1 ((List.mem_cons.mp hmem).resolve_left hrq), fun hnot ↦ hgr.2 ?_⟩
    exact fun hmem ↦ hnot (List.mem_cons_of_mem q hmem)

/-- One promotion. -/
theorem ends_promover (hleg : Legivel b s)
    (hids : (s.requests.map WorkRequest.requestId).Nodup) (destino : WorkRequestStatus)
    (q : String) :
    (do let _ ← chamar (.atualizar q (.promover destino)) : Method PUnit).EndsIn (machine b) i
      Sozinha Eq (fun out s' ↦ out = .ok ⟨⟩ ∧ ∃ f : WorkRequest → WorkRequest,
        s' = { s with requests := s.requests.map f } ∧ Promove destino [q] s.requests f) s := by
  refine Program.EndsIn.perform_bind ?_
  rintro _ e rfl hsozinha
  change ∃ a, (s.atualizar b q (.promover destino) e).2 = .ok a ∧ _
  change ∃ a, _ ∧ Program.EndsIn _ _ _ _ _ _ (s.atualizar b q (.promover destino) e).1
  rw [Store.atualizar, if_neg fun h ↦ Bool.false_ne_true (hsozinha.symm.trans h.2)]
  rcases hfind : s.find q with _ | raw
  · refine ⟨none, rfl, rfl, id, ?_, fun r hr ↦ ⟨fun hq ↦ ?_, fun _ ↦ rfl⟩⟩
    · rw [List.map_id]
    · exact absurd (List.mem_singleton.mp hq) (Table.ne_key_of_lookup_none hfind hr)
  · obtain ⟨hraw, hkey⟩ := find_eq_some hfind
    have happly : (Store.ler b raw >>= (Mutator.promover destino).apply e.agora)
        = .ok (promover raw destino e.agora) := by
      rw [hleg raw hraw]
      rfl
    simp only [happly]
    refine ⟨_, rfl, rfl, fun r ↦ if r.requestId = q then promover raw destino e.agora else r, rfl,
      fun r hr ↦ ⟨fun hq ↦ ⟨e.agora, ?_⟩, fun hq ↦ if_neg ?_⟩⟩
    · have hq := List.mem_singleton.mp hq
      obtain rfl := List.inj_on_of_nodup_map hids hr hraw (hq.trans hkey.symm)
      exact if_pos hq
    · exact fun h ↦ hq (List.mem_singleton.mpr h)

/-- Promotions one after the other. -/
theorem ends_promoverTodas (destino : WorkRequestStatus) {qs : List String} (hqs : qs.Nodup)
    (hleg : Legivel b s) (hids : (s.requests.map WorkRequest.requestId).Nodup) :
    (promoverTodas destino qs).EndsIn (machine b) i Sozinha Eq
      (fun out s' ↦ out = .ok ⟨⟩ ∧ ∃ f : WorkRequest → WorkRequest,
        s' = { s with requests := s.requests.map f } ∧ Promove destino qs s.requests f) s := by
  induction qs generalizing s with
  | nil =>
    refine ⟨rfl, id, ?_, fun r _ ↦ ⟨fun h ↦ absurd h List.not_mem_nil, fun _ ↦ rfl⟩⟩
    rw [List.map_id]
  | cons q qs ih =>
    obtain ⟨hq, hqs⟩ := List.nodup_cons.mp hqs
    refine Program.EndsIn.bind (ends_promover hleg hids destino q) ?_ ?_
    · rintro a s₁ ⟨-, f, rfl, hf⟩
      refine (ih hqs (hf.legivel hleg) (hf.nodup hids)).imp ?_
      rintro out s₂ ⟨rfl, g, rfl, hg⟩
      exact ⟨rfl, g ∘ f, by rw [List.map_map], hf.cons hq hg⟩
    · rintro x s₁ ⟨h, -⟩
      cases h

/-- Promotions, followed by the rest. -/
theorem ends_promoverTodas_bind {α : Type} {k : PUnit → Method α}
    {Q : Except CentralError α → Store → Prop} {qs : List String} (hqs : qs.Nodup)
    (hleg : Legivel b s) (hids : (s.requests.map WorkRequest.requestId).Nodup)
    (hk : ∀ f : WorkRequest → WorkRequest, Promove destino qs s.requests f →
      (k ⟨⟩).EndsIn (machine b) i Sozinha Eq Q { s with requests := s.requests.map f }) :
    (promoverTodas destino qs >>= k).EndsIn (machine b) i Sozinha Eq Q s := by
  refine Program.EndsIn.bind (ends_promoverTodas destino hqs hleg hids) ?_ ?_
  · rintro a s₁ ⟨-, f, rfl, hf⟩
    exact hk f hf
  · rintro x s₁ ⟨h, -⟩
    cases h

/-- Promoting what a plan admits and then what it queues applies the plan. -/
theorem promovida_of_promove {g : WorkRequest → WorkRequest}
    (hids : (requests.map WorkRequest.requestId).Nodup)
    (hf : Promove .admitted (sortedSet (plan limite requests).admittedRequestIds) requests f)
    (hg : Promove .queued (sortedSet (plan limite requests).queuedRequestIds) (requests.map f) g)
    {r : WorkRequest} (hr : r ∈ requests) : Promovida (plan limite requests) r (g (f r)) := by
  have hfr := hf r hr
  have hgr := hg (f r) (List.mem_map_of_mem hr)
  rw [hf.requestId hr, mem_sortedSet] at hgr
  rw [mem_sortedSet] at hfr
  by_cases hadm : r.requestId ∈ (plan limite requests).admittedRequestIds
  · obtain ⟨agora, heq⟩ := hfr.1 hadm
    rw [hgr.2 (requestId_not_queued hids hr hadm), heq]
    exact .admitida agora hadm
  · rw [hfr.2 hadm] at hgr ⊢
    by_cases hqueued : r.requestId ∈ (plan limite requests).queuedRequestIds
    · obtain ⟨agora, heq⟩ := hgr.1 hqueued
      rw [heq]
      exact .enfileirada agora hqueued
    · rw [hgr.2 hqueued]
      exact .alheia hadm hqueued

end Promove

section Listar

variable {α : Type} {l : List WorkRequest} {x : CentralError} {g : List WorkRequest → Method α}

theorem ends_listar {Q : Except CentralError α → Store → Prop} (hl : s.listar b = .ok l)
    (hg : (g l).EndsIn (machine b) i Sozinha Eq Q s) :
    (chamar .listar >>= g).EndsIn (machine b) i Sozinha Eq Q s := by
  refine Program.EndsIn.perform_bind ?_
  rintro _ e rfl -
  exact ⟨l, hl, hg⟩

theorem ends_listar_error (hl : s.listar b = .error x) :
    (chamar .listar >>= g).EndsIn (machine b) i Sozinha Eq
      (fun out s' ↦ out = .error x ∧ s' = s) s := by
  rintro _ e rfl -
  change ((Program.ofExcept (s.listar b)).bind g).EndsIn _ _ _ _ _ s
  rw [hl]
  exact ⟨rfl, rfl⟩

end Listar

/-- **`proximo_item` alone** applies the plan of the stored requests and chooses by it. -/
theorem proximoItem_alone (hleg : Legivel cfg.backend s)
    (hids : (s.requests.map WorkRequest.requestId).Nodup) :
    (proximoItem cfg executor).EndsIn (machine cfg.backend) i Sozinha Eq
      (fun out s' ↦ ∃ f : WorkRequest → WorkRequest,
        out = .ok (escolha executor (plan cfg.maxActiveRootCauses s.requests) (s.requests.map f)) ∧
          s' = { s with requests := s.requests.map f } ∧
          (∀ r ∈ s.requests, Promovida (plan cfg.maxActiveRootCauses s.requests) r (f r)) ∧
          Legivel cfg.backend s') s := by
  obtain ⟨l, hl, hperm⟩ := listar_of_legivel hleg
  have hplan : plan cfg.maxActiveRootCauses l = plan cfg.maxActiveRootCauses s.requests :=
    plan_of_perm hids hperm.symm
  rw [proximoItem_eq, aplicarAdmissao_eq, Program.bind_assoc]
  refine ends_listar hl ?_
  rw [hplan, Program.bind_assoc]
  refine ends_promoverTodas_bind (sortedSet_nodup _) hleg hids fun f hf ↦ ?_
  have hleg₁ := hf.legivel hleg
  rw [Program.bind_assoc]
  refine ends_promoverTodas_bind (sortedSet_nodup _) hleg₁ (hf.nodup hids) fun g hg ↦ ?_
  have hleg₂ := hg.legivel hleg₁
  have hids₂ := hg.nodup (hf.nodup hids)
  obtain ⟨l', hl', hperm'⟩ := listar_of_legivel hleg₂
  rw [Program.bind_assoc]
  refine ends_listar hl' ?_
  refine ⟨g ∘ f, ?_, ?_, fun r hr ↦ promovida_of_promove hids hf hg hr, hleg₂⟩
  · rw [← List.map_map, ← escolha_of_perm hperm'.symm hids₂]
  · rw [← List.map_map]

/-- Where a stored request cannot be read, the call raises and changes nothing. -/
theorem proximoItem_error {x : CentralError} (hl : s.listar cfg.backend = .error x) :
    (proximoItem cfg executor).EndsIn (machine cfg.backend) i Sozinha Eq
      (fun out s' ↦ out = .error x ∧ s' = s) s := by
  rw [proximoItem_eq, aplicarAdmissao_eq, Program.bind_assoc]
  exact ends_listar_error hl

/-- **Asking twice.** The second call changes nothing. Its answer is the one of the first call
exactly when every cause that the first call lets in and that has a candidate comes after an active
cause that has one, if there is one; where a stored request cannot be read both calls raise. -/
theorem proximo_item_stable_iff {i' : ℕ} {es es' : List Env} {s₁ s₂ : Store}
    {r₁ r₂ : Except CentralError (Option WorkRequest)}
    (hids : Table.Keyed WorkRequest.requestId s.requests)
    (hes : ∀ e ∈ es, e.conflito = false) (hes' : ∀ e ∈ es', e.conflito = false)
    (h₁ : (proximoItem cfg executor).runAlone (machine cfg.backend) i es s = some (s₁, r₁))
    (h₂ : (proximoItem cfg executor).runAlone (machine cfg.backend) i' es' s₁ = some (s₂, r₂)) :
    s₂ = s₁ ∧ (r₂ = r₁ ↔ (Legivel cfg.backend s →
      EscolhaEstavel cfg.maxActiveRootCauses executor s.requests)) := by
  rcases hlistar : s.listar cfg.backend with x | l
  · obtain ⟨rfl, rfl⟩ := (proximoItem_error hlistar).runAlone (fun _ ↦ rfl) hes h₁
    obtain ⟨rfl, rfl⟩ := (proximoItem_error hlistar).runAlone (fun _ ↦ rfl) hes' h₂
    refine ⟨rfl, iff_of_true rfl fun hleg ↦ ?_⟩
    obtain ⟨l, hl, -⟩ := listar_of_legivel hleg
    rw [hl] at hlistar
    cases hlistar
  · have hleg := legivel_of_listar hlistar
    obtain ⟨f, rfl, rfl, hf, hleg₁⟩ :=
      (proximoItem_alone hleg hids).runAlone (fun _ ↦ rfl) hes h₁
    obtain ⟨g, rfl, rfl, hg, -⟩ :=
      (proximoItem_alone hleg₁ (nodup_map_requestId hids hf)).runAlone (fun _ ↦ rfl) hes' h₂
    have hsame : (s.requests.map f).map g = s.requests.map f := by
      rw [List.map_map]
      refine List.map_congr_left fun r hr ↦ ?_
      exact (hg (f r) (List.mem_map_of_mem hr)).eq_of_map hids hf hr
    refine ⟨congrArg (fun l ↦ ({ s with requests := l } : Store)) hsame, ?_⟩
    rw [forall_prop_of_true hleg, ← escolha_estavel_iff hids hf]
    change (Except.ok (escolha executor _ ((s.requests.map f).map g)) : Except CentralError _) = _
      ↔ _
    rw [hsame, Except.ok.injEq]

end Alone

end Service

/-! ### Two requests, two slots -/

/-- The Central of `oneSlot` with a second slot. -/
def twoSlots : Config :=
  { oneSlot with maxActiveRootCauses := 2, maxActiveRootCauses_pos := Nat.le_succ 1 }

/-- The replicas after a list of moves. -/
def twoSlotsRun (moves : List (Move Chamada Env)) : List Passo × Replicas :=
  TransitionSystem.runCalls (Pool.move (code twoSlots) (machine twoSlots.backend)) moves
    ⟨{}, fun _ ↦ none⟩

/-- Both requests are registered, and the first one is admitted before the second one comes. -/
def urgentLater : List (Move Chamada Env) :=
  serial (.registrar sampleInput sampleInstant) 2 ++ serial .aplicarAdmissao 4
    ++ serial (.registrar urgentInput sampleInstant) 2

/-- Both requests are registered before anything is admitted. -/
def urgentFirst : List (Move Chamada Env) :=
  serial (.registrar sampleInput sampleInstant) 2 ++ serial (.registrar urgentInput sampleInstant) 2

/-- The inputs of one call. -/
def semConflito : List Env := List.replicate 4 { agora := sampleInstant }

/-- `proximo_item` alone: the store it leaves and its answer. -/
def pedir (s : Store) : Option (Store × Except CentralError (Option WorkRequest)) :=
  (Service.proximoItem twoSlots none).runAlone (machine twoSlots.backend) 0 semConflito s

def pedido (s : Store) : Store × Except CentralError (Option WorkRequest) :=
  (pedir s).getD (s, .ok none)

theorem pedir_eq {s : Store} (h : (pedir s).isSome = true) :
    (Service.proximoItem twoSlots none).runAlone (machine twoSlots.backend) 0 semConflito s
      = some ((pedido s).1, (pedido s).2) := by
  change pedir s = _
  obtain ⟨x, hx⟩ := Option.isSome_iff_exists.mp h
  rw [pedido, hx]
  rfl

theorem semConflito_alone : ∀ e ∈ semConflito, e.conflito = false := by
  intro e he
  rw [List.eq_of_mem_replicate he]

theorem proximo_item_stable_urgentFirst :
    (pedido (pedido (twoSlotsRun urgentFirst).2.store).1).1
        = (pedido (twoSlotsRun urgentFirst).2.store).1 ∧
      ((pedido (pedido (twoSlotsRun urgentFirst).2.store).1).2
          = (pedido (twoSlotsRun urgentFirst).2.store).2 ↔
        (Service.Legivel twoSlots.backend (twoSlotsRun urgentFirst).2.store →
          Service.EscolhaEstavel 2 none (twoSlotsRun urgentFirst).2.store.requests)) :=
  have hids : ((twoSlotsRun urgentFirst).2.store.requests.map WorkRequest.requestId).Nodup := by
    decide +kernel
  Service.proximo_item_stable_iff hids semConflito_alone semConflito_alone
    (pedir_eq (by decide +kernel)) (pedir_eq (by decide +kernel))

/-- The first call goes on with the cause that was active, and admits the urgent one; the second
call goes to the urgent one. -/
theorem proximo_item_not_stable : ¬∀ (cfg : Config) (tr : List Passo) (p : Replicas),
    (replicas cfg).Run tr p → ∀ (executor : Option ExecutorKind) (i i' : ℕ) (es es' : List Env)
      (s₁ s₂ : Store) (r₁ r₂ : Except CentralError (Option WorkRequest)),
      (∀ e ∈ es, e.conflito = false) → (∀ e ∈ es', e.conflito = false) →
      (Service.proximoItem cfg executor).runAlone (machine cfg.backend) i es p.store
        = some (s₁, r₁) →
      (Service.proximoItem cfg executor).runAlone (machine cfg.backend) i' es' s₁
        = some (s₂, r₂) → r₂ = r₁ ∧ s₂ = s₁ := by
  intro h
  have hrun : (replicas twoSlots).Run (twoSlotsRun urgentLater).1 (twoSlotsRun urgentLater).2 :=
    TransitionSystem.run_runCalls _ _ urgentLater
  have h₁ := @pedir_eq (twoSlotsRun urgentLater).2.store (by decide +kernel)
  have h₂ := @pedir_eq (pedido (twoSlotsRun urgentLater).2.store).1 (by decide +kernel)
  have hsame := (h twoSlots _ _ hrun none 0 0 semConflito semConflito _ _ _ _ semConflito_alone
    semConflito_alone h₁ h₂).1
  have hids := congrArg (fun r ↦ r.toOption.join.map WorkRequest.requestId) hsame
  revert hids
  decide +kernel

end Central

end ReqSys
