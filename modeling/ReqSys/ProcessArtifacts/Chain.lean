import Mathlib
import ReqSys.ProcessArtifacts.Immutability

/-!
# Process artifacts: the chain of promotions

Each promotion event names the revision that was active before it. The events of a process form one
chain if every event is written while the pointer is still the one that its call has read, and if
each event is followed by its pointer. The call that writes an event writes the pointer next, so
what has to be followed is in which of its three phases a call is: before the event, between the
event and the pointer, or done.
-/

namespace ReqSys

namespace ProcessArtifacts

open Program

variable {cfg : Config} {i j : ℕ} {d d' : Disk} {dir : String}

/-! ## Chains -/

/-- Each event names what the one before it has promoted, the first one `anterior`. -/
def Encadeada (anterior : Option String) : List ProcessPromotionEvent → Prop
  | [] => True
  | ev :: evs => ev.previousActiveRevision = anterior ∧ Encadeada (some ev.promotedRevision) evs

/-- What the last event has promoted. -/
def ultima (anterior : Option String) (evs : List ProcessPromotionEvent) : Option String :=
  (evs.getLast?.map ProcessPromotionEvent.promotedRevision).or anterior

theorem Encadeada.concat {anterior : Option String} {evs : List ProcessPromotionEvent}
    {ev : ProcessPromotionEvent} (h : Encadeada anterior evs)
    (hev : ev.previousActiveRevision = ultima anterior evs) : Encadeada anterior (evs ++ [ev]) := by
  induction evs generalizing anterior with
  | nil => exact ⟨hev, trivial⟩
  | cons x xs ih =>
    obtain ⟨hx, hxs⟩ := h
    refine ⟨hx, ih hxs (hev.trans ?_)⟩
    cases xs with
    | nil => rfl
    | cons y ys =>
      rw [ultima, ultima, List.getLast?_cons_cons]
      cases hlast : (y :: ys).getLast? with
      | none => simp at hlast
      | some z => rfl

/-- In a chain no more events name a revision than have promoted it. -/
theorem Encadeada.countP_le {anterior : Option String} {evs : List ProcessPromotionEvent}
    (h : Encadeada anterior evs) {r : String} (hr : anterior ≠ some r) :
    evs.countP (·.previousActiveRevision = some r) ≤ evs.countP (·.promotedRevision = r) := by
  suffices hcount : ∀ evs anterior, Encadeada anterior evs →
      evs.countP (·.previousActiveRevision = some r)
        ≤ evs.countP (·.promotedRevision = r) + if anterior = some r then 1 else 0 by
    have hle := hcount evs anterior h
    rwa [if_neg hr, Nat.add_zero] at hle
  intro evs
  induction evs with
  | nil => intro anterior _; exact Nat.zero_le _
  | cons ev evs ih =>
    rintro anterior ⟨hev, hevs⟩
    have hle := ih _ hevs
    rw [List.countP_cons, List.countP_cons]
    simp only [Option.some.injEq, decide_eq_true_eq, hev] at hle ⊢
    omega

/-- The events of a process, in the order in which they were written. -/
def Disk.eventos (d : Disk) (dir : String) : List ProcessPromotionEvent :=
  (d.governance dir).events.map Prod.snd

/-- The active revision of a process. -/
def Disk.ativa (d : Disk) (dir : String) : Option String :=
  (d.governance dir).active.map ActivePointer.activeRevision

/-! ## The phases of a call -/

/-- The calls that do not write below `governance`. -/
def Cmd.Alheio : Cmd → Prop
  | .writeEvent _ _ _ | .writeActive _ _ => False
  | _ => True

/-- A call that has not written an event, and writes the pointer at once when it has written one. -/
inductive Regrada : Processo Resposta → Prop
  | ret (a : Resposta) : Regrada (.ret a)
  | raise (x : Erro) : Regrada (.raise x)
  | call {op : Cmd} {k : Except Erro op.Ans → Processo Resposta} :
      op.Alheio → (∀ a, Regrada (k (.ok a))) → Regrada (.call op k)
  | event {dir name : String} {ev : ProcessPromotionEvent}
      {k k' : Except Erro Unit → Processo Resposta} {a : Resposta} :
      k (.ok ()) = .call (.writeActive dir ev.pointer) k' → k' (.ok ()) = .ret a →
      Regrada (.call (.writeEvent dir name ev) k)

/-- What call `i` is at. -/
inductive Fase (d : Disk) (i : ℕ) : Processo Resposta → Prop
  | antes {q : Processo Resposta} : Regrada q → d.wrote i = false →
      (∀ dir, (i, dir) ∉ d.opened) → Fase d i q
  | entre {dir : String} {ev : ProcessPromotionEvent} {k : Except Erro Unit → Processo Resposta}
      {a : Resposta} : k (.ok ()) = .ret a → (∀ dir', (i, dir') ∈ d.opened ↔ dir' = dir) →
      (d.eventos dir).getLast? = some ev → Fase d i (.call (.writeActive dir ev.pointer) k)
  | depois (a : Resposta) : (∀ dir, (i, dir) ∉ d.opened) → Fase d i (.ret a)

/-! ### The phases of the source -/

theorem Regrada.bind {α : Type} {p : Processo α} {f : α → Processo Resposta}
    (hp : p.AllCalls Cmd.Alheio) (hf : ∀ a, Regrada (f a)) : Regrada (p >>= f) := by
  change Regrada (p.bind f)
  induction hp with
  | ret a => exact hf a
  | raise x => exact .raise x
  | call hop _ ih => exact .call hop fun a ↦ ih _

theorem safeSegment_alheio (value : String) : (safeSegment value).AllCalls Cmd.Alheio := by
  rw [safeSegment]
  split
  · exact .ret _
  · exact .raise _

theorem updateManifest_alheio (dir revision metadataFile : String) :
    (updateManifest dir revision metadataFile).AllCalls Cmd.Alheio := by
  refine (AllCalls.perform trivial).bind fun manifest ↦ (AllCalls.perform trivial).bind fun r ↦ ?_
  cases r with
  | none => exact .raise _
  | some metadata => exact (AllCalls.perform trivial).bind fun _ ↦ AllCalls.perform trivial

theorem generatedAt_alheio (a : Artifact) : (generatedAt a).AllCalls Cmd.Alheio := by
  rw [generatedAt]
  split
  · split
    · exact AllCalls.perform trivial
    · exact .ret _
  · exact AllCalls.perform trivial

theorem save_alheio (a : Artifact) : (save cfg a).AllCalls Cmd.Alheio := by
  refine (safeSegment_alheio _).bind fun dir ↦ (safeSegment_alheio _).bind fun version ↦ ?_
  refine (generatedAt_alheio a).bind fun t ↦ (AllCalls.perform trivial).bind fun _ ↦ ?_
  refine (AllCalls.perform trivial).bind fun _ ↦ (AllCalls.perform trivial).bind fun _ ↦ ?_
  exact (updateManifest_alheio _ _ _).bind fun _ ↦ .ret _

theorem getVersion_alheio (processId revision : String) :
    (getVersion cfg processId revision).AllCalls Cmd.Alheio := by
  refine (safeSegment_alheio _).bind fun dir ↦ (safeSegment_alheio _).bind fun segment ↦ ?_
  refine (AllCalls.perform trivial).bind fun r ↦ ?_
  cases r with
  | none => exact .raise _
  | some metadata =>
    exact (AllCalls.perform trivial).bind fun _ ↦ (AllCalls.perform trivial).bind fun _ ↦ .ret _

theorem getActive_alheio (processId : String) : (getActive processId).AllCalls Cmd.Alheio := by
  rw [getActive, governanceSegment]
  split
  · exact AllCalls.perform trivial
  · exact .raise _

/-- **The end of a promotion**: the event, the pointer, and the answer. -/
theorem regrada_event (ev : ProcessPromotionEvent) (a : Resposta) :
    Regrada (persistEvent ev >>= fun _ ↦ writeActivePointer ev >>= fun _ ↦ .ret a) := by
  rw [persistEvent, writeActivePointer, governanceSegment]
  split
  next dir hdir => exact .event rfl rfl
  next => exact .raise _

theorem concluir_regrada (ped : Promotion) (source : Version) (entries : List (String × Json))
    (previous : Option String) :
    Regrada (concluir cfg ped source entries previous >>= fun r ↦ .ret (.promoted r)) := by
  rw [concluir, bind_assoc]
  refine .bind (AllCalls.perform trivial) fun t ↦ ?_
  rw [bind_assoc]
  refine .bind (save_alheio _) fun persisted ↦ ?_
  rw [bind_assoc]
  refine .bind (AllCalls.perform trivial) fun promotedAt ↦ ?_
  simp only [bind_assoc]
  exact regrada_event _ _

theorem promover_regrada (ped : Promotion) :
    Regrada (promover cfg ped >>= fun r ↦ .ret (.promoted r)) := by
  rw [promover, bind_assoc]
  refine .bind (getVersion_alheio _ _) fun source ↦ ?_
  split
  next entries _ =>
    rw [bind_assoc]
    refine .bind (getActive_alheio _) fun current ↦ ?_
    dsimp only
    split
    · exact .raise _
    · exact concluir_regrada ped source entries _
  next => exact .raise _

theorem code_regrada (c : Chamada) : Regrada (code cfg c) := by
  cases c with
  | save a => exact .bind (save_alheio a) fun _ ↦ .ret _
  | promote ped =>
    rw [code, promote, bind_assoc]
    cases ped.normalized with
    | error x => exact .raise x
    | ok ped' => exact promover_regrada ped'

/-! ## Steps -/

/-- Every command answers. -/
theorem exec_ok (i : ℕ) (op : Cmd) (e : Env) (d : Disk) : ∃ a, (exec i op e d).2 = .ok a := by
  cases op <;> exact ⟨_, rfl⟩

/-- A command that does not write below `governance` leaves it alone. -/
theorem exec_alheio {op : Cmd} (h : op.Alheio) (i : ℕ) (e : Env) (d : Disk) :
    (exec i op e d).1.governance = d.governance ∧ (exec i op e d).1.opened = d.opened ∧
      (exec i op e d).1.wrote = d.wrote := by
  cases op with
  | writeEvent dir name event => exact h.elim
  | writeActive dir pointer => exact h.elim
  | _ => exact ⟨rfl, rfl, rfl⟩

/-- The phase of a call depends on its own marks and on the events of its directory. -/
theorem Fase.of_eq {q : Processo Resposta} (h : Fase d i q)
    (hopened : ∀ dir, (i, dir) ∈ d'.opened ↔ (i, dir) ∈ d.opened)
    (hwrote : d'.wrote i = d.wrote i)
    (heventos : ∀ dir, (i, dir) ∈ d.opened → d'.eventos dir = d.eventos dir) : Fase d' i q := by
  cases h with
  | antes hq hw hnone =>
    exact .antes hq (hwrote.trans hw) fun dir ↦ (hopened dir).not.mpr (hnone dir)
  | entre hk hdir hlast =>
    refine .entre hk (fun dir' ↦ (hopened dir').trans (hdir dir')) ?_
    rwa [heventos _ ((hdir _).mpr rfl)]
  | depois a hnone => exact .depois a fun dir ↦ (hopened dir).not.mpr (hnone dir)

/-- **The condition on calls.** An event is written while the pointer is the one that its call has
read, while every event of the process is followed by its pointer, and into a new file. -/
def EmDia (d : Disk) : ℕ × Cmd × Env → Prop
  | (_, .writeEvent dir name event, _) => d.ativa dir = event.previousActiveRevision ∧
      (∀ x ∈ d.opened, x.2 ≠ dir) ∧ ∀ x ∈ (d.governance dir).events, x.1 ≠ name
  | _ => True

/-- **The condition on crashes.** A call does not die between the event and the pointer. -/
def Inteira (d : Disk) : Move Chamada Env → Prop
  | .crash i => ∀ x ∈ d.opened, x.1 ≠ i
  | _ => True

/-- What holds of the directories. -/
structure Valido (d : Disk) : Prop where
  cadeia : ∀ dir, Encadeada none (d.eventos dir)
  ativa : ∀ dir, (∀ x ∈ d.opened, x.2 ≠ dir) → d.ativa dir = ultima none (d.eventos dir)

/-- What holds of the directories and the calls. -/
structure Coerente (p : Processos) : Prop where
  disco : Valido p.store
  fase : ∀ i q, p.task i = some q → Fase p.store i q
  livre : ∀ i, p.task i = none → p.store.wrote i = false ∧ ∀ dir, (i, dir) ∉ p.store.opened

/-- The disk with the event written. -/
abbrev Disk.comEvento (d : Disk) (i : ℕ) (dir name : String) (ev : ProcessPromotionEvent) : Disk :=
  (exec i (.writeEvent dir name ev) { agora := "" } d).1

/-- The disk with the pointer written. -/
abbrev Disk.comPonteiro (d : Disk) (i : ℕ) (dir : String) (pointer : ActivePointer) : Disk :=
  (exec i (.writeActive dir pointer) { agora := "" } d).1

theorem put_of_new {e : String × ProcessPromotionEvent} {l : List (String × ProcessPromotionEvent)}
    (h : ∀ x ∈ l, x.1 ≠ e.1) : Table.put l e = l ++ [e] := by
  have hnone : Table.lookup Prod.fst e.1 l = none := by
    rw [Table.lookup, List.find?_eq_none]
    exact fun x hx ↦ by simpa using h x hx
  rw [Table.put, Table.upsert, hnone]
  rfl

section Evento

variable {name : String} {ev : ProcessPromotionEvent}

theorem eventos_comEvento (h : ∀ x ∈ (d.governance dir).events, x.1 ≠ name) (dir' : String) :
    (d.comEvento i dir name ev).eventos dir'
      = if dir' = dir then d.eventos dir ++ [ev] else d.eventos dir' := by
  rw [Disk.comEvento, exec, Disk.eventos, Disk.setGovernance]
  dsimp only
  split
  next heq =>
    subst heq
    rw [Function.update_self, put_of_new h, List.map_append]
    rfl
  next hne =>
    rw [Function.update_of_ne hne]
    rfl

/-- The event continues the chain. -/
theorem Valido.comEvento (h : Valido d) (hativa : d.ativa dir = ev.previousActiveRevision)
    (hfechado : ∀ x ∈ d.opened, x.2 ≠ dir)
    (hname : ∀ x ∈ (d.governance dir).events, x.1 ≠ name) :
    Valido (d.comEvento i dir name ev) := by
  refine ⟨fun dir' ↦ ?_, fun dir' hdir' ↦ ?_⟩
  · rw [eventos_comEvento hname]
    split
    · exact (h.cadeia dir).concat (hativa.symm.trans (h.ativa dir hfechado))
    · exact h.cadeia dir'
  · obtain ⟨hne, hrest⟩ := List.forall_mem_cons.mp hdir'
    rw [eventos_comEvento hname, if_neg (Ne.symm hne), ← h.ativa dir' hrest, Disk.ativa,
      Disk.comEvento, exec, Disk.setGovernance]
    dsimp only
    rw [Function.update_of_ne (Ne.symm hne)]
    rfl

end Evento

section Ponteiro

variable {ev : ProcessPromotionEvent}

theorem eventos_comPonteiro (pointer : ActivePointer) (dir' : String) :
    (d.comPonteiro i dir pointer).eventos dir' = d.eventos dir' := by
  rw [Disk.comPonteiro, exec, Disk.eventos, Disk.setGovernance]
  dsimp only
  by_cases h : dir' = dir
  · rw [h, Function.update_self]
    rfl
  · rw [Function.update_of_ne h]
    rfl

theorem ativa_comPonteiro (pointer : ActivePointer) (dir' : String) :
    (d.comPonteiro i dir pointer).ativa dir'
      = if dir' = dir then some pointer.activeRevision else d.ativa dir' := by
  rw [Disk.comPonteiro, exec, Disk.ativa, Disk.setGovernance]
  dsimp only
  split
  next h =>
    rw [h, Function.update_self]
    rfl
  next h =>
    rw [Function.update_of_ne h]
    rfl

/-- The pointer names the last event. -/
theorem Valido.comPonteiro (h : Valido d) (hev : (d.eventos dir).getLast? = some ev) :
    Valido (d.comPonteiro i dir ev.pointer) := by
  refine ⟨fun dir' ↦ ?_, fun dir' hdir' ↦ ?_⟩
  · rw [eventos_comPonteiro]
    exact h.cadeia dir'
  · rw [eventos_comPonteiro, ativa_comPonteiro]
    split
    next heq =>
      rw [heq, ultima, hev]
      rfl
    next hne =>
      refine h.ativa dir' fun x hx heq ↦ hdir' x ?_ heq
      refine List.mem_filter.mpr ⟨hx, decide_eq_true fun hxi ↦ hne ?_⟩
      rw [← heq, hxi]

end Ponteiro

/-! ## Moves -/

/-- Call `i` leaves the marks of the others and the events of their directories alone. -/
structure Poupa (i : ℕ) (d d' : Disk) : Prop where
  opened : ∀ j, j ≠ i → ∀ dir, (j, dir) ∈ d'.opened ↔ (j, dir) ∈ d.opened
  wrote : ∀ j, j ≠ i → d'.wrote j = d.wrote j
  eventos : ∀ j, j ≠ i → ∀ dir, (j, dir) ∈ d.opened → d'.eventos dir = d.eventos dir

theorem Poupa.of_eq (hgovernance : d'.governance = d.governance) (hopened : d'.opened = d.opened)
    (hwrote : d'.wrote = d.wrote) : Poupa i d d' :=
  ⟨fun _ _ _ ↦ by rw [hopened], fun _ _ ↦ by rw [hwrote],
    fun _ _ _ _ ↦ by rw [Disk.eventos, hgovernance, Disk.eventos]⟩

theorem Valido.of_eq (h : Valido d) (hgovernance : d'.governance = d.governance)
    (hopened : d'.opened = d.opened) : Valido d' := by
  refine ⟨fun dir ↦ ?_, fun dir hdir ↦ ?_⟩
  · rw [Disk.eventos, hgovernance]
    exact h.cadeia dir
  · rw [Disk.eventos, Disk.ativa, hgovernance]
    exact h.ativa dir (hopened ▸ hdir)

/-- A move of slot `i`. -/
theorem Coerente.setTask {p : Processos} (h : Coerente p) (hdisco : Valido d')
    (hpoupa : Poupa i p.store d') {t : Option (Processo Resposta)}
    (hfase : ∀ q, t = some q → Fase d' i q)
    (hlivre : t = none → d'.wrote i = false ∧ ∀ dir, (i, dir) ∉ d'.opened) :
    Coerente (Pool.setTask ⟨d', p.task⟩ i t) := by
  refine ⟨hdisco, fun j q hq ↦ ?_, fun j hj ↦ ?_⟩
  · obtain ⟨hne, hold⟩ | ⟨rfl, hnew⟩ := Pool.setTask_eq_some hq
    · exact (h.fase j q hold).of_eq (hpoupa.opened j hne) (hpoupa.wrote j hne)
        (hpoupa.eventos j hne)
    · exact hfase q hnew
  · by_cases hji : j = i
    · subst hji
      exact hlivre (Function.update_self j t p.task ▸ hj)
    · rw [Pool.task_setTask_of_ne hji] at hj
      obtain ⟨hwrote, hopened⟩ := h.livre j hj
      exact ⟨(hpoupa.wrote j hji).trans hwrote,
        fun dir ↦ (hpoupa.opened j hji dir).not.mpr (hopened dir)⟩

theorem poupa_comEvento {name : String} {ev : ProcessPromotionEvent}
    (hfechado : ∀ x ∈ d.opened, x.2 ≠ dir)
    (hname : ∀ x ∈ (d.governance dir).events, x.1 ≠ name) :
    Poupa i d (d.comEvento i dir name ev) := by
  refine ⟨fun j hj dir' ↦ ?_, fun j hj ↦ Function.update_of_ne hj _ _, fun j hj dir' hmem ↦ ?_⟩
  · refine List.mem_cons.trans (or_iff_right fun heq ↦ hj ?_)
    exact congrArg Prod.fst heq
  · rw [eventos_comEvento hname, if_neg (hfechado _ hmem)]

theorem poupa_comPonteiro (pointer : ActivePointer) : Poupa i d (d.comPonteiro i dir pointer) := by
  refine ⟨fun j hj dir' ↦ ?_, fun _ _ ↦ rfl, fun _ _ dir' _ ↦ eventos_comPonteiro pointer dir'⟩
  refine List.mem_filter.trans (and_iff_left (decide_eq_true fun heq ↦ hj ?_))
  exact congrArg Prod.fst heq

theorem exec_writeEvent_snd (i : ℕ) (dir name : String) (ev : ProcessPromotionEvent) (e : Env)
    (d : Disk) : (exec i (.writeEvent dir name ev) e d).2 = .ok () := rfl

theorem exec_writeActive_snd (i : ℕ) (dir : String) (pointer : ActivePointer) (e : Env)
    (d : Disk) : (exec i (.writeActive dir pointer) e d).2 = .ok () := rfl

/-- **A command** of a call takes it to its next phase. -/
theorem Fase.exec {op : Cmd} {k : Except Erro op.Ans → Processo Resposta} {e : Env}
    (hd : Valido d) (h : Fase d i (.call op k)) (hC : EmDia d (i, op, e)) :
    Valido (exec i op e d).1 ∧ Poupa i d (exec i op e d).1 ∧
      Fase (exec i op e d).1 i (k (exec i op e d).2) := by
  cases h with
  | antes hq hwrote hnone =>
    cases hq with
    | call hop hk =>
      obtain ⟨hgovernance, hopened, hw⟩ := exec_alheio hop i e d
      obtain ⟨a, ha⟩ := exec_ok i op e d
      refine ⟨hd.of_eq hgovernance hopened, .of_eq hgovernance hopened hw, ?_⟩
      rw [ha]
      exact .antes (hk a) (hw ▸ hwrote) (hopened ▸ hnone)
    | event hk hk' =>
      obtain ⟨hativa, hfechado, hname⟩ := hC
      refine ⟨hd.comEvento hativa hfechado hname, poupa_comEvento hfechado hname, ?_⟩
      rw [exec_writeEvent_snd, hk]
      refine .entre hk' (fun dir' ↦ ⟨fun hmem ↦ ?_, fun heq ↦ ?_⟩) ?_
      · obtain heq | hold := List.mem_cons.mp hmem
        · exact congrArg Prod.snd heq
        · exact absurd hold (hnone dir')
      · rw [heq]
        exact List.mem_cons_self
      · exact (congrArg List.getLast? ((eventos_comEvento hname _).trans (if_pos rfl))).trans
          List.getLast?_concat
  | entre hk hdir hlast =>
    refine ⟨hd.comPonteiro hlast, poupa_comPonteiro _, ?_⟩
    rw [exec_writeActive_snd, hk]
    refine .depois _ fun dir' hmem ↦ ?_
    obtain ⟨hold, hne⟩ := List.mem_filter.mp hmem
    rw [(hdir dir').mp hold] at hne
    exact of_decide_eq_true hne rfl

/-- A call that ends has written the pointer, if it has written an event. -/
theorem Coerente.fechada {p : Processos} {m : Move Chamada Env} (h : Coerente p)
    (hcrash : Inteira p.store m)
    (hend : (Pool.move (code cfg) machine m p).1.task m.slot = none) (dir : String) :
    (m.slot, dir) ∉ p.store.opened := by
  intro hmem
  cases htask : p.task m.slot with
  | none => exact (h.livre m.slot htask).2 dir hmem
  | some q =>
    cases h.fase m.slot q htask with
    | antes _ _ hnone => exact hnone dir hmem
    | depois _ hnone => exact hnone dir hmem
    | entre =>
      -- only a crash ends a call that has still to write the pointer
      have hm : m = .crash m.slot := Pool.eq_crash htask hend
      rw [hm] at hcrash
      exact hcrash _ hmem rfl

/-- **One move.** -/
theorem Coerente.step {p p' : Processos} {m : Passo} (h : Coerente p)
    (hcalls : ∀ x ∈ p.nextCall m.1, EmDia p.store x) (hcrash : Inteira p.store m.1)
    (hstep : (chamadas cfg).step p m p') : Coerente p' := by
  rw [Pool.step_eq hstep]
  obtain ⟨-, hm⟩ | ⟨i, c, -, hidle, hm⟩ | ⟨i, op, e, k, hcall, htask, hm⟩ | ⟨-, hm⟩ :=
    Pool.move_forms (code cfg) machine m.1 p
  · rw [hm]
    exact h
  · rw [hm]
    obtain ⟨hwrote, hopened⟩ := h.livre i hidle
    refine h.setTask h.disco (.of_eq rfl rfl rfl) (fun q hq ↦ ?_) fun hnone ↦ by cases hnone
    cases hq
    exact .antes (code_regrada c) hwrote hopened
  · rw [hm]
    obtain ⟨hdisco, hpoupa, hfase⟩ := (h.fase i _ htask).exec (e := e) h.disco
      (hcalls (i, op, e) hcall)
    refine h.setTask hdisco hpoupa (fun q hq ↦ ?_) fun hnone ↦ by cases hnone
    cases hq
    exact hfase
  · have hend := @Coerente.fechada cfg _ _ h hcrash (by rw [hm]; exact Function.update_self ..)
    rw [hm]
    have hpoupa : Poupa m.1.slot p.store (machine.close m.1.slot p.store) :=
      ⟨fun _ _ _ ↦ .rfl, fun j hj ↦ Function.update_of_ne hj _ _, fun _ _ _ _ ↦ rfl⟩
    have hdisco : Valido (machine.close m.1.slot p.store) := h.disco.of_eq rfl rfl
    exact h.setTask (t := none) hdisco hpoupa (fun q hq ↦ by cases hq) fun _ ↦
      ⟨Function.update_self .., hend⟩

/-- A promotion that is refused has not written an event. -/
theorem Coerente.sem_evento {p p' : Processos} {m : Move Chamada Env} {x : Erro}
    (h : Coerente p) (hstep : (chamadas cfg).step p (m, some (.error x)) p') :
    p.store.wrote m.slot = false := by
  cases h.fase m.slot _ (Pool.task_of_outcome hstep) with
  | antes _ hwrote _ => exact hwrote

/-- The calls meet the condition, and none dies between the event and the pointer. -/
def Ordenada (p : Processos) (m : Passo) : Prop :=
  (∀ x ∈ p.nextCall m.1, EmDia p.store x) ∧ Inteira p.store m.1

/-- **The promotion chain.** While every event is written when the pointer is still the one that its
call has read, and no call dies before it has written its own pointer, the events of each process
form a chain; the pointer names the last one, but for a call that is still to write it; and a call
that is refused has not written an event. -/
theorem promocoes_encadeadas (cfg : Config) {tr : List Passo} {p : Processos}
    (h : ((chamadas cfg).restrict Ordenada).Run tr p) :
    (∀ dir, Encadeada none (p.store.eventos dir) ∧
      (p.store.ativa dir = ultima none (p.store.eventos dir) ∨
        ∃ i q, (i, dir) ∈ p.store.opened ∧ p.task i = some q)) ∧
    ∀ m mensagem p',
      (chamadas cfg).step p (m, some (.error (.processPromotionConflictError mensagem))) p' →
      p.store.wrote m.slot = false := by
  have hp : Coerente p := by
    refine h.invariant (fun hinit ↦ ?_) fun hp hstep ↦ hp.step hstep.1.1 hstep.1.2 hstep.2
    rw [hinit]
    exact ⟨⟨fun _ ↦ trivial, fun _ _ ↦ rfl⟩, fun i q hq ↦ (by cases hq),
      fun _ _ ↦ ⟨rfl, fun _ ↦ List.not_mem_nil⟩⟩
  refine ⟨fun dir ↦ ⟨hp.disco.cadeia dir, ?_⟩, fun m mensagem p' hstep ↦ hp.sem_evento hstep⟩
  by_cases hopen : ∀ x ∈ p.store.opened, x.2 ≠ dir
  · exact .inl (hp.disco.ativa dir hopen)
  · push Not at hopen
    obtain ⟨⟨i, _⟩, hmem, rfl⟩ := hopen
    cases htask : p.task i with
    | none => exact absurd hmem ((hp.livre i htask).2 _)
    | some q => exact .inr ⟨i, q, hmem, htask⟩

/-! ## Two small runs -/

instance (d : Disk) : ∀ x : ℕ × Cmd × Env, Decidable (EmDia d x)
  | (_, .writeEvent dir name event, _) => inferInstanceAs (Decidable
      (d.ativa dir = event.previousActiveRevision ∧ (∀ x ∈ d.opened, x.2 ≠ dir) ∧
        ∀ x ∈ (d.governance dir).events, x.1 ≠ name))
  | (_, .now, _) | (_, .readMetadata _ _, _) | (_, .readMermaid _ _, _) | (_, .readBpmn _ _, _)
  | (_, .writeMermaid _ _ _, _) | (_, .writeBpmn _ _ _, _) | (_, .writeMetadata _ _ _, _)
  | (_, .readManifest _, _) | (_, .writeManifest _ _, _) | (_, .readActive _, _)
  | (_, .writeActive _ _, _) => .isTrue trivial

instance (d : Disk) : ∀ m : Move Chamada Env, Decidable (Inteira d m)
  | .crash i => inferInstanceAs (Decidable (∀ x ∈ d.opened, x.1 ≠ i))
  | .start _ _ | .advance _ _ => .isTrue trivial

instance (p : Processos) (m : Passo) : Decidable (Ordenada p m) :=
  inferInstanceAs (Decidable ((∀ x ∈ p.nextCall m.1, EmDia p.store x) ∧ Inteira p.store m.1))

/-- A promotion to a version, by a caller that expects the revision which the first one stores. -/
def sampleExpecting (targetVersion : String) : Promotion :=
  { samplePromotion targetVersion with
    targetVersion, expectedCurrentRevision := some "1.1-aaaaaaaaaaaa" }

/-- Moves of some slots in turn, at one time. -/
def sampleTurns (agora : String) (slots : List ℕ) : List (Move Chamada Env) :=
  (List.replicate 17 (slots.map fun i ↦ .advance i { agora })).flatten

/-- A version is saved and promoted. -/
def sampleStart : List (Move Chamada Env) :=
  .start 0 (.save (sampleArtifact "1.0")) :: sampleTurns "2026-01-01T12:00:00+00:00" [0] ++
    .start 1 (.promote (samplePromotion "c1")) :: sampleTurns "2026-01-01T12:01:00+00:00" [1]

/-- Two callers that expect the same revision, one after the other. -/
def sampleSerial : List (Move Chamada Env) :=
  sampleStart ++ .start 2 (.promote (sampleExpecting "1.2")) ::
    sampleTurns "2026-01-01T12:02:00+00:00" [2] ++ [.start 3 (.promote (sampleExpecting "1.3"))] ++
      (sampleTurns "2026-01-01T12:03:00+00:00" [3]).take 4

/-- Two callers that expect the same revision: the second one starts when the first one has read the
pointer, and ends before the first one goes on. -/
def sampleOverlap : List (Move Chamada Env) :=
  sampleStart ++ .start 2 (.promote (sampleExpecting "1.2")) ::
    (sampleTurns "2026-01-01T12:02:00+00:00" [2]).take 5 ++
      .start 3 (.promote (sampleExpecting "1.3")) :: sampleTurns "2026-01-01T12:03:00+00:00" [3] ++
        sampleTurns "2026-01-01T12:04:00+00:00" [2]

/-- The pool after some moves. -/
def sampleMoves (moves : List (Move Chamada Env)) : List Passo × Processos :=
  TransitionSystem.runCalls (Pool.move (code sampleConfig) machine) moves ⟨{}, fun _ ↦ none⟩

example : (sampleMoves sampleSerial).2.store.opened = [] := by decide +kernel

/-- One after the other, they form a chain. -/
theorem encadeadas_sample : ((sampleMoves sampleSerial).2.store.eventos "fluxo").length = 2 ∧
    Encadeada none ((sampleMoves sampleSerial).2.store.eventos "fluxo") := by
  have hrun : ((chamadas sampleConfig).restrict Ordenada).Run (sampleMoves sampleSerial).1
      (sampleMoves sampleSerial).2 := TransitionSystem.run_restrict_runCalls _ (by decide +kernel)
  exact ⟨by decide +kernel, ((promocoes_encadeadas sampleConfig hrun).1 "fluxo").1⟩

/-- When they overlap, both are stored after the same revision: in no order is this a chain. -/
theorem bifurcadas : ∃ tr p, (chamadas sampleConfig).Run tr p ∧ p.store.opened = [] ∧
    ∀ evs, evs.Perm (p.store.eventos "fluxo") → ¬Encadeada none evs := by
  refine ⟨_, (sampleMoves sampleOverlap).2, TransitionSystem.run_runCalls _ _ _,
    by decide +kernel, fun evs hperm hchain ↦ ?_⟩
  have hle := hchain.countP_le (r := "1.1-aaaaaaaaaaaa") (by rintro ⟨⟩)
  rw [hperm.countP_eq, hperm.countP_eq] at hle
  exact absurd hle (by decide +kernel)

end ProcessArtifacts

end ReqSys
