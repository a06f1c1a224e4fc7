import Mathlib
import ReqSys.Foundation.Answers
import ReqSys.OperationalQueue.Provider

/-!
# Operational queue: what the processes hold

A process works on copies: it reads a task, changes the copy and stores it, and it acknowledges the
message whose number it read before. What it stores and acknowledges is therefore right about two
things that never change. A message is of one task, since the stream only grows; and the type, the
payload and the limit of a task stay those it was enqueued with.

`Visao` is what is known about these two things; a program whose answers agree with it makes calls
that agree with it (`Cmd.Fiel`). `Historia` is the two things as they will be when a run ends. Every
store of the run agrees with it (`Historia.De`), so every answer does.
-/

namespace ReqSys

namespace OperationalQueue

open Program

/-! ## What does not change -/

/-- What `_same_task_intent` compares. -/
structure Intencao where
  taskType : OperationalTaskType
  payload : List (String × Json)
  maxAttempts : ℤ

def OperationalTask.intencao (task : OperationalTask) : Intencao :=
  ⟨task.taskType, task.payload, task.maxAttempts⟩

theorem sameTaskIntent_congr {task task' : OperationalTask} (h : task.intencao = task'.intencao)
    (incoming : OperationalTask) : sameTaskIntent task incoming = sameTaskIntent task' incoming := by
  obtain ⟨htype, hpayload, hmax⟩ := Intencao.mk.inj h
  rw [sameTaskIntent, sameTaskIntent, htype, hpayload, hmax]

/-- What is known about messages and tasks: of which task a message may be, and which intent a task
may have. -/
structure Visao where
  DaTarefa : ℕ → String → Prop
  Intencao : String → Intencao → Prop

/-- The task that a call stores. -/
def Cmd.grava : Cmd → Option OperationalTask
  | criar task | reservar task _ | concluir task _ | reagendar task _ _ | descartar task _ _ =>
    some task
  | _ => none

/-- The task whose key or references a call may write, or which it executes. -/
def Cmd.alvo : Cmd → Option String
  | xadd taskId => some taskId
  | executar task _ => some task.taskId
  | op => op.grava.map OperationalTask.taskId

/-- The call fetches a task to work on. -/
def Cmd.Busca : Cmd → Prop
  | xreadgroup | xautoclaim _ | zrem _ => True
  | _ => False

/-- The call fetches nothing, is about no other task, and executes only what `E` says. -/
structure Cmd.Sobre (taskId : String) (E : OperationalTask → Bool → Prop) (op : Cmd) : Prop where
  alvo : ∀ a ∈ op.alvo, a = taskId
  busca : ¬op.Busca
  executa : ∀ task recuperada, op = .executar task recuperada → E task recuperada

/-- A transaction on a task agrees with what is known, and stores the status of its method. -/
def Cmd.Fiel (V : Visao) : Cmd → Prop
  | hset taskId message => V.DaTarefa message taskId
  | reservar task message => V.Intencao task.taskId task.intencao ∧ task.status = .running ∧
      V.DaTarefa message task.taskId
  | concluir task message => V.Intencao task.taskId task.intencao ∧ task.status = .completed ∧
      ∀ m ∈ message, V.DaTarefa m task.taskId
  | reagendar task _ message => V.Intencao task.taskId task.intencao ∧ task.status = .pending ∧
      ∀ m ∈ message, V.DaTarefa m task.taskId
  | descartar task entrada message => V.Intencao task.taskId task.intencao ∧
      task.status = .deadLetter ∧ (∀ m ∈ message, V.DaTarefa m task.taskId) ∧
      entrada.taskId = task.taskId
  | _ => True

/-- The answers that agree with what is known. -/
def Visao.Possivel (V : Visao) : (op : Cmd) → Except Erro op.Ans → Prop
  | .get taskId, .ok (some task) => task.taskId = taskId ∧ V.Intencao taskId task.intencao
  | .hget taskId, .ok (some message) => V.DaTarefa message taskId
  | .xreadgroup, .ok (some x) => V.DaTarefa x.1 x.2
  | .xautoclaim _, .ok messages => ∀ x ∈ messages, V.DaTarefa x.1 x.2
  | _, _ => True

/-! ## The programs -/

section Programs

variable {V : Visao} {taskId : String} {cfg : Config} {P : Cmd → Prop} {α : Type} {Q : α → Prop}
  {E : OperationalTask → Bool → Prop}

theorem embrulhar_meets {passa : Erro → Bool} {texto : String} {p : Processo α}
    (hp : p.Meets V.Possivel P Q) : (embrulhar passa texto p).Meets V.Possivel P Q := by
  refine hp.attempt.bind fun r hr ↦ ?_
  cases r with
  | ok a => exact hr a rfl
  | error x => exact trivial

/-- A call that is about no task. -/
theorem run_meets (op : Cmd) {Q : op.Ans → Prop} (hfiel : op.Fiel V) (halvo : op.alvo = none)
    (hbusca : ¬op.Busca) (hQ : ∀ a, V.Possivel op (.ok a) → Q a) :
    (run op).Meets V.Possivel (fun op ↦ op.Fiel V ∧ op.Sobre taskId E) Q := by
  refine .perform ⟨hfiel, fun a ha ↦ ?_, hbusca, fun task recuperada hop ↦ ?_⟩ hQ
  · rw [halvo] at ha
    cases ha
  · rw [hop] at halvo
    cases halvo

/-- A call that is about this task. -/
theorem run_sobre_meets (op : Cmd) (hfiel : op.Fiel V) (halvo : op.alvo = some taskId)
    (hbusca : ¬op.Busca)
    (hexecuta : ∀ task recuperada, op = .executar task recuperada → E task recuperada) :
    (run op).Meets V.Possivel (fun op ↦ op.Fiel V ∧ op.Sobre taskId E) fun _ ↦ True := by
  refine .perform ⟨hfiel, fun a ha ↦ ?_, hbusca, hexecuta⟩ fun _ _ ↦ trivial
  rw [halvo] at ha
  cases ha
  rfl

/-- Any call. -/
theorem run_fiel_meets (op : Cmd) (hfiel : op.Fiel V) :
    (run op).Meets V.Possivel (Cmd.Fiel V) fun _ ↦ True :=
  .perform hfiel fun _ _ ↦ trivial

theorem ensureGroup_meets :
    ensureGroup.Meets V.Possivel (fun op ↦ op.Fiel V ∧ op.Sobre taskId E) fun _ ↦ True :=
  embrulhar_meets (run_meets .ensureGroup trivial rfl (fun h ↦ h) fun _ _ ↦ trivial)

/-- What `get` returns is the task of that id, with its intent. -/
theorem get_meets (taskId' : String) :
    (get taskId').Meets V.Possivel (fun op ↦ op.Fiel V ∧ op.Sobre taskId E) fun o ↦
      ∀ task ∈ o, task.taskId = taskId' ∧ V.Intencao taskId' task.intencao := by
  rw [get]
  split
  · exact fun task h ↦ nomatch h
  · refine embrulhar_meets (run_meets (.get taskId') trivial rfl (fun h ↦ h) fun o ho task htask ↦ ?_)
    cases o with
    | none => cases htask
    | some t =>
      cases htask
      exact ho

/-- What `hget` returns is a message of the task. -/
theorem hget_meets (taskId' : String) :
    (run (.hget taskId')).Meets V.Possivel (fun op ↦ op.Fiel V ∧ op.Sobre taskId E) fun o ↦
      ∀ m ∈ o, V.DaTarefa m taskId' := by
  refine run_meets (.hget taskId') trivial rfl (fun h ↦ h) fun o ho m hm ↦ ?_
  cases o with
  | none => cases hm
  | some m' =>
    cases hm
    exact ho

theorem now_meets :
    (run .now).Meets V.Possivel (fun op ↦ op.Fiel V ∧ op.Sobre taskId E) fun _ ↦ True :=
  run_meets .now trivial rfl (fun h ↦ h) fun _ _ ↦ trivial

theorem complete_meets (taskId : String) (result : Json) :
    (complete taskId result).Meets V.Possivel (fun op ↦ op.Fiel V ∧ op.Sobre taskId E)
      fun _ ↦ True := by
  refine (get_meets taskId).bind fun o ho ↦ ?_
  cases o with
  | none => exact trivial
  | some task =>
    obtain ⟨rfl, hint⟩ := ho task rfl
    refine now_meets.bind fun now _ ↦ (hget_meets task.taskId).bind fun message hmessage ↦ ?_
    exact embrulhar_meets (run_sobre_meets (.concluir (task.concluida result now) message)
      ⟨hint, rfl, hmessage⟩ rfl (fun h ↦ h) fun _ _ h ↦ nomatch h)

theorem registrarFalha_meets {task : OperationalTask} {message : Option ℕ} (error : String)
    (now : ℕ) (hint : V.Intencao task.taskId task.intencao)
    (hmessage : ∀ m ∈ message, V.DaTarefa m task.taskId) :
    (registrarFalha cfg error now task message).Meets V.Possivel
      (fun op ↦ op.Fiel V ∧ op.Sobre task.taskId E) fun _ ↦ True := by
  rw [registrarFalha]
  split
  · exact run_sobre_meets (.descartar (descartada error now task) (entradaDlq error now task) message)
      ⟨hint, rfl, hmessage, rfl⟩ rfl (fun h ↦ h) fun _ _ h ↦ nomatch h
  · exact run_sobre_meets (.reagendar (reagendada cfg error now task) _ message)
      ⟨hint, rfl, hmessage⟩ rfl (fun h ↦ h) fun _ _ h ↦ nomatch h

theorem fail_meets (cfg : Config) (taskId error : String) :
    (fail cfg taskId error).Meets V.Possivel (fun op ↦ op.Fiel V ∧ op.Sobre taskId E)
      fun _ ↦ True := by
  refine (get_meets taskId).bind fun o ho ↦ ?_
  cases o with
  | none => exact trivial
  | some task =>
    obtain ⟨rfl, hint⟩ := ho task rfl
    refine now_meets.bind fun now _ ↦ (hget_meets task.taskId).bind fun message hmessage ↦ ?_
    exact embrulhar_meets (registrarFalha_meets error now hint hmessage)

theorem processar_meets (cfg : Config) {task : OperationalTask} {recuperada : Bool}
    (hE : E task recuperada) :
    (processar cfg task recuperada).Meets V.Possivel
      (fun op ↦ op.Fiel V ∧ op.Sobre task.taskId E) fun _ ↦ True := by
  refine Meets.bind (Q := fun _ ↦ True) ?_ fun fim _ ↦ ?_
  · refine (Meets.attempt (Q := fun _ ↦ True) ?_).imp (fun _ h ↦ h) fun _ _ ↦ trivial
    exact (run_sobre_meets (.executar task recuperada) trivial rfl (fun h ↦ h)
      fun _ _ h ↦ by cases h; exact hE).bind fun result _ ↦
      complete_meets task.taskId result
  · cases fim with
    | ok => exact trivial
    | error x => exact fail_meets cfg task.taskId x.str

theorem promover_meets (taskId : String) :
    (promover taskId).Meets V.Possivel (Cmd.Fiel V) fun _ ↦ True := by
  refine (run_fiel_meets (.zrem taskId) trivial).bind fun removed _ ↦ ?_
  split
  · exact run_fiel_meets (.xadd taskId) trivial
  · exact trivial

/-- `dequeue` returns the task of the message. -/
theorem receber_meets {message : ℕ} (hmessage : V.DaTarefa message taskId) :
    (receber message taskId).Meets V.Possivel (fun op ↦ op.Fiel V ∧ op.Sobre taskId E) fun o ↦
      ∀ task ∈ o, task.taskId = taskId := by
  refine (get_meets taskId).bind fun o ho ↦ ?_
  cases o with
  | none =>
    refine (run_meets (Q := fun _ ↦ True) (.xack message) trivial rfl (fun h ↦ h) fun _ _ ↦ trivial).bind
      fun _ _ task h ↦ ?_
    cases h
  | some task =>
    obtain ⟨rfl, hint⟩ := ho task rfl
    refine now_meets.bind fun now _ ↦ ?_
    refine (run_sobre_meets (.reservar (task.reservada now) message) ⟨hint, rfl, hmessage⟩ rfl
      (fun h ↦ h) fun _ _ h ↦ nomatch h).bind
      fun _ _ t ht ↦ ?_
    cases ht
    rfl

theorem recuperar_meets (cfg : Config) {x : ℕ × String} (hmessage : V.DaTarefa x.1 x.2)
    (hE : ∀ task, E task true) :
    (recuperar cfg x).Meets V.Possivel (fun op ↦ op.Fiel V ∧ op.Sobre x.2 E) fun _ ↦ True := by
  rw [recuperar]
  split
  · exact run_meets (.xack x.1) trivial rfl (fun h ↦ h) fun _ _ ↦ trivial
  · refine (get_meets x.2).bind fun o ho ↦ ?_
    cases o with
    | none => exact run_meets (.xack x.1) trivial rfl (fun h ↦ h) fun _ _ ↦ trivial
    | some task =>
      obtain ⟨hid, -⟩ := ho task rfl
      refine (run_meets (Q := fun _ ↦ True) (.hset x.2 x.1) hmessage rfl (fun h ↦ h) fun _ _ ↦ trivial).bind
        fun _ _ ↦ ?_
      exact hid ▸ processar_meets cfg (hE task)

/-! ### Whole programs -/

theorem fiel_of (taskId : String) {p : Processo α}
    (hp : p.Meets V.Possivel (fun op ↦ op.Fiel V ∧ op.Sobre taskId fun _ _ ↦ True) Q) :
    p.Meets V.Possivel (Cmd.Fiel V) Q := hp.imp (fun _ h ↦ h.1) fun _ h ↦ h

theorem promoteDueRetries_meets :
    promoteDueRetries.Meets V.Possivel (Cmd.Fiel V) fun _ ↦ True := by
  refine (run_fiel_meets .now trivial).bind fun now _ ↦ ?_
  refine (run_fiel_meets (.zrangebyscore now) trivial).bind fun taskIds _ ↦ ?_
  exact .forM trivial fun taskId _ ↦ promover_meets taskId

theorem dequeue_meets : dequeue.Meets V.Possivel (Cmd.Fiel V) fun _ ↦ True := by
  refine (fiel_of "" ensureGroup_meets).bind fun _ _ ↦ ?_
  refine embrulhar_meets (promoteDueRetries_meets.bind fun _ _ ↦ ?_)
  refine Meets.bind (.perform trivial fun _ ha ↦ ha) fun o ho ↦ ?_
  cases o with
  | none => exact trivial
  | some x => exact (fiel_of x.2 (receber_meets ho)).imp (fun _ h ↦ h) fun _ _ ↦ trivial

theorem enqueue_meets (cfg : Config) (task : OperationalTask) :
    (enqueue cfg task).Meets V.Possivel (Cmd.Fiel V) fun _ ↦ True := by
  refine (fiel_of "" ensureGroup_meets).bind fun _ _ ↦ ?_
  refine embrulhar_meets ?_
  have hcriar : (criar task).Meets V.Possivel (Cmd.Fiel V) fun _ ↦ True :=
    (run_fiel_meets (.criar task) trivial).bind fun _ _ ↦ trivial
  rw [inserir]
  split
  · exact hcriar
  · refine (run_fiel_meets (.setnx _ task) trivial).bind fun b _ ↦ ?_
    split
    · exact hcriar
    · refine (run_fiel_meets (.getIndex _) trivial).bind fun o _ ↦ ?_
      split
      · exact trivial
      · refine (fiel_of "" (get_meets _)).bind fun o _ ↦ ?_
        split
        · exact trivial
        · split <;> exact trivial

/-- **Every call of every process agrees with what is known.** -/
theorem code_meets (V : Visao) (cfg : Config) (pedido : Pedido) :
    (code cfg pedido).Meets V.Possivel (Cmd.Fiel V) fun _ ↦ True := by
  have hsemTarefa : ∀ {p : Processo Unit}, p.Meets V.Possivel (Cmd.Fiel V) (fun _ ↦ True) →
      (semTarefa p).Meets V.Possivel (Cmd.Fiel V) fun _ ↦ True :=
    fun hp ↦ hp.bind fun _ _ ↦ trivial
  cases pedido with
  | enqueue nova => exact (enqueue_meets cfg nova.task).bind fun _ _ ↦ trivial
  | dequeue => exact dequeue_meets
  | complete taskId result =>
    exact hsemTarefa (fiel_of taskId (complete_meets taskId result))
  | fail taskId error =>
    exact hsemTarefa (fiel_of taskId (fail_meets cfg taskId error))
  | worker =>
    refine hsemTarefa (dequeue_meets.bind fun o _ ↦ ?_)
    split
    · exact trivial
    · exact fiel_of _ (processar_meets cfg trivial)
  | recovery =>
    refine hsemTarefa ?_
    refine (fiel_of "" ensureGroup_meets).bind fun _ _ ↦ ?_
    refine (embrulhar_meets (.perform trivial fun _ ha ↦ ha)).bind fun messages hmessages ↦ ?_
    refine .forM trivial fun x hx ↦ ?_
    exact fiel_of x.2 (recuperar_meets cfg (hmessages x hx) fun _ ↦ trivial)

end Programs

/-! ## The stores of a history -/

/-- The whole stream, and the intents of the tasks. -/
structure Historia where
  stream : List String
  intencao : String → Intencao

/-- The store is one of this history. -/
structure Historia.De (H : Historia) (s : Streams) : Prop where
  stream : s.stream <+: H.stream
  intencao : ∀ taskId task, s.get taskId = some task → task.intencao = H.intencao taskId

/-- What a history says. -/
def Historia.visao (H : Historia) : Visao where
  DaTarefa message taskId := H.stream[message]? = some taskId
  Intencao taskId intencao := intencao = H.intencao taskId

section Stores

variable {s : Streams} {op : Cmd} {e : Env}

/-- The stream only grows. -/
theorem stream_exec (op : Cmd) (e : Env) (s : Streams) : s.stream <+: (exec op e s).1.stream := by
  obtain h | h := exec_fst op e s
  · exact h.symm ▸ List.prefix_refl s.stream
  rw [h]
  cases op with
  | criar | xadd => exact List.prefix_append _ _
  | setnx =>
    rw [efeito]
    split <;> exact List.prefix_refl _
  | xreadgroup =>
    rw [efeito, Streams.xreadgroup]
    split <;> exact List.prefix_refl _
  | executar =>
    rw [efeito]
    split <;> exact List.prefix_refl _
  | concluir task message | reagendar task _ message | descartar task _ message =>
    cases message <;> exact List.prefix_refl _
  | _ => exact List.prefix_refl _

/-- **What a call does to a task.** It leaves it alone, or stores it. -/
theorem get_efeito (op : Cmd) (e : Env) (s : Streams) (taskId : String) :
    (∃ task, op.grava = some task ∧ task.taskId = taskId ∧
      (efeito op e s).1.get taskId = some task) ∨
    (∀ task, op.grava = some task → task.taskId ≠ taskId) ∧
      (efeito op e s).1.get taskId = s.get taskId := by
  have hset : ∀ {t : Streams} {task : OperationalTask}, op.grava = some task →
      t.get taskId = (s.set task).get taskId → (efeito op e s).1.get taskId = t.get taskId →
      (∃ task, op.grava = some task ∧ task.taskId = taskId ∧
        (efeito op e s).1.get taskId = some task) ∨
      (∀ task, op.grava = some task → task.taskId ≠ taskId) ∧
        (efeito op e s).1.get taskId = s.get taskId := by
    intro t task hgrava ht hefeito
    rw [ht, Streams.get_set] at hefeito
    by_cases hid : taskId = task.taskId
    · rw [if_pos hid] at hefeito
      exact .inl ⟨task, hgrava, hid.symm, hefeito⟩
    · rw [if_neg hid] at hefeito
      refine .inr ⟨fun task' h ↦ ?_, hefeito⟩
      rw [hgrava] at h
      cases h
      exact fun h ↦ hid h.symm
  cases op with
  | criar task | reservar task _ => exact hset rfl rfl rfl
  | concluir task message => exact hset rfl rfl (by simp [efeito])
  | reagendar task score message =>
    refine hset (t := (s.set task).zadd task.taskId score) rfl rfl ?_
    simp [efeito]
  | descartar task entrada message =>
    refine hset (t := (s.set task).confirmar task.taskId message) rfl (by simp) rfl
  | setnx | executar =>
    refine .inr ⟨by rintro task ⟨⟩, ?_⟩
    rw [efeito]
    split <;> rfl
  | xreadgroup =>
    refine .inr ⟨by rintro task ⟨⟩, ?_⟩
    rw [efeito, Streams.xreadgroup]
    split <;> rfl
  | _ => exact .inr ⟨by rintro task ⟨⟩, rfl⟩

/-! ### The history until now -/

/-- The history of which this store is the last one. -/
def Streams.historia (s : Streams) : Historia where
  stream := s.stream
  intencao taskId := (s.get taskId).elim ⟨.generic, [], 0⟩ OperationalTask.intencao

theorem Streams.de_historia (s : Streams) : s.historia.De s where
  stream := List.prefix_refl _
  intencao taskId task h := by
    change task.intencao = (s.get taskId).elim _ _
    rw [h, Option.elim_some]

theorem getElem?_of_prefix {l l' : List String} (h : l <+: l') {m : ℕ} {a : String}
    (hm : l[m]? = some a) : l'[m]? = some a := by
  obtain ⟨l, rfl⟩ := h
  rw [List.getElem?_append_left (List.getElem?_eq_some_iff.mp hm).1, hm]

/-- The messages that the group has delivered are in the stream, and a task is linked to one of its
own messages. -/
structure Streams.Coerente (s : Streams) : Prop where
  entregues : s.entregues ≤ s.stream.length
  processing : ∀ taskId m, (taskId, m) ∈ s.processing → s.stream[m]? = some taskId

/-- What a call stores has the intent of what it replaces. -/
def Cmd.MesmaIntencao (s : Streams) (op : Cmd) : Prop :=
  ∀ task stored, op.grava = some task → s.get task.taskId = some stored →
    task.intencao = stored.intencao

/-- Every transaction but that of `enqueue` has it, if it agrees with the history. -/
theorem Cmd.Fiel.mesmaIntencao {H : Historia} (h : op.Fiel H.visao) (hs : H.De s)
    (hcriar : ∀ task stored, op = .criar task → s.get task.taskId = some stored →
      task.intencao = stored.intencao) : op.MesmaIntencao s := by
  intro task stored hgrava hget
  have hkept : task.intencao = H.intencao task.taskId → task.intencao = stored.intencao :=
    fun h ↦ h.trans (hs.intencao _ _ hget).symm
  cases op with
  | criar => cases hgrava; exact hcriar _ _ rfl hget
  | reservar | concluir | reagendar | descartar => cases hgrava; exact hkept h.1
  | _ => cases hgrava

/-- **Intents are kept.** A stored task stays stored, with its intent. -/
theorem intencao_exec (hop : op.MesmaIntencao s) (e : Env) {taskId : String}
    {task : OperationalTask} (h : s.get taskId = some task) :
    ∃ task', (exec op e s).1.get taskId = some task' ∧ task'.intencao = task.intencao := by
  obtain hexec | hexec := exec_fst op e s
  all_goals rw [hexec]
  · exact ⟨task, h, rfl⟩
  · obtain ⟨new, hgrava, rfl, hget⟩ | ⟨-, hget⟩ := get_efeito op e s taskId
    · exact ⟨new, hget, hop new task hgrava h⟩
    · exact ⟨task, hget.trans h, rfl⟩

/-- A store of a history comes after stores of that history. -/
theorem Historia.De.of_exec {H : Historia} (hop : op.MesmaIntencao s) (h : H.De (exec op e s).1) :
    H.De s where
  stream := (stream_exec op e s).trans h.stream
  intencao taskId task hget := by
    obtain ⟨task', hget', hint⟩ := intencao_exec hop e hget
    rw [← hint]
    exact h.intencao taskId task' hget'

/-- **The answers agree with the history.** -/
theorem possivel_exec {H : Historia} (hH : H.De s) (hs : s.Coerente) (op : Cmd) (e : Env) :
    H.visao.Possivel op (exec op e s).2 := by
  obtain h | ⟨m, h⟩ := exec_snd op e s
  all_goals rw [h]
  · cases op with
    | get taskId =>
      change H.visao.Possivel (.get taskId) (.ok (s.get taskId))
      cases hget : s.get taskId with
      | none => exact trivial
      | some task => exact ⟨s.taskId_of_get hget, hH.intencao taskId task hget⟩
    | hget taskId =>
      change H.visao.Possivel (.hget taskId) (.ok (Table.get? taskId s.processing))
      cases hlink : Table.get? taskId s.processing with
      | none => exact trivial
      | some m =>
        exact getElem?_of_prefix hH.stream (hs.processing taskId m (Table.mem_of_get? hlink))
    | xreadgroup =>
      change H.visao.Possivel .xreadgroup (.ok s.xreadgroup.2)
      rw [Streams.xreadgroup]
      split
      · exact trivial
      next hnext => exact getElem?_of_prefix hH.stream hnext
    | xautoclaim count =>
      intro x hx
      obtain ⟨m, -, hm⟩ := List.mem_filterMap.mp hx
      obtain ⟨taskId, hfield, rfl⟩ := Option.map_eq_some_iff.mp hm
      exact getElem?_of_prefix hH.stream hfield
    | _ => exact trivial
  · cases op <;> exact trivial

/-- **One call** keeps the store coherent. -/
theorem Streams.Coerente.exec (hs : s.Coerente) (hop : op.Fiel s.historia.visao) (e : Env) :
    (OperationalQueue.exec op e s).1.Coerente := by
  obtain hexec | hexec := exec_fst op e s
  all_goals rw [hexec]
  · exact hs
  have hlength : ∀ taskId, s.entregues ≤ (s.stream ++ [taskId]).length := fun taskId ↦
    Nat.le_trans hs.entregues (List.prefix_append _ _).length_le
  have hgrown : ∀ (taskId : String), ∀ id m, (id, m) ∈ s.processing →
      (s.stream ++ [taskId])[m]? = some id := fun taskId id m hmem ↦
    getElem?_of_prefix (List.prefix_append _ _) (hs.processing id m hmem)
  have hlinked : ∀ taskId m, s.stream[m]? = some taskId →
      ∀ id m', (id, m') ∈ Table.put s.processing (taskId, m) → s.stream[m']? = some id := by
    intro taskId m hm id m' hmem
    obtain hold | hnew := Table.mem_put hmem
    · exact hs.processing id m' hold
    · cases hnew
      exact hm
  have hconfirmed : ∀ taskId id m, (id, m) ∈ s.processing.filter (fun x ↦ x.1 ≠ taskId) →
      s.stream[m]? = some id := fun taskId id m hmem ↦
    hs.processing id m (List.mem_of_mem_filter hmem)
  cases op with
  | criar task => exact ⟨hlength task.taskId, hgrown task.taskId⟩
  | xadd taskId => exact ⟨hlength taskId, hgrown taskId⟩
  | reservar task message => exact ⟨hs.entregues, hlinked task.taskId message hop.2.2⟩
  | hset taskId message => exact ⟨hs.entregues, hlinked taskId message hop⟩
  | concluir task message | reagendar task _ message | descartar task _ message =>
    cases message <;> exact ⟨hs.entregues, hconfirmed task.taskId⟩
  | xreadgroup =>
    rw [efeito, Streams.xreadgroup]
    split
    · exact hs
    next hnext => exact ⟨(List.getElem?_eq_some_iff.mp hnext).1, hs.processing⟩
  | setnx | executar =>
    rw [efeito]
    split <;> exact ⟨hs.entregues, hs.processing⟩
  | _ => exact ⟨hs.entregues, hs.processing⟩

end Stores

/-! ## Whole runs -/

/-- The store is coherent, and the calls of the running programs agree with every history of it. -/
structure Guardada (p : Processos) : Prop where
  coerente : p.store.Coerente
  meeting : ∀ H : Historia,
    Pool.Meeting H.visao.Possivel (Cmd.Fiel H.visao) (fun s ↦ H.De s ∧ s.Coerente) p

namespace Guardada

variable {p : Processos}

theorem init : Guardada ⟨{}, fun _ ↦ none⟩ where
  coerente := ⟨Nat.zero_le _, fun _ _ h ↦ nomatch h⟩
  meeting _ _ _ _ h := nomatch h

/-- The next call of a running program agrees with the history. -/
theorem fiel (h : Guardada p) {H : Historia} (hH : H.De p.store) {i : ℕ} {op : Cmd}
    {k : Except Erro op.Ans → Processo (Option OperationalTask)}
    (htask : p.task i = some (.call op k)) : op.Fiel H.visao :=
  (h.meeting H ⟨hH, h.coerente⟩ i _ htask).1

/-- **One move**, in which `enqueue` stores no task over one with another intent. -/
theorem step {κ : Type} {code : κ → Processo (Option OperationalTask)} {p' : Processos}
    {m : Passo κ} (hcode : ∀ (H : Historia) c, (code c).Meets H.visao.Possivel (Cmd.Fiel H.visao) fun _ ↦ True)
    (h : Guardada p) (hstep : (Pool.interleaving {} code machine).step p m p')
    (hcriar : ∀ i e task stored, p.nextCall m.1 = some (i, .criar task, e) →
      p.store.get task.taskId = some stored → task.intencao = stored.intencao) : Guardada p' := by
  have hmesma : ∀ {i op e k}, p.nextCall m.1 = some (i, op, e) → p.task i = some (.call op k) →
      op.MesmaIntencao p.store := by
    intro i op e k hcall htask
    refine (h.fiel p.store.de_historia htask).mesmaIntencao p.store.de_historia ?_
    rintro task stored rfl hget
    exact hcriar i e task stored hcall hget
  constructor
  · rw [Pool.step_eq hstep]
    obtain ⟨-, hm⟩ | ⟨i, c, -, hm⟩ | ⟨i, op, e, k, -, htask, hm⟩ | ⟨i, -, hm⟩ :=
      Pool.move_cases code machine m.1 p
    all_goals rw [hm]
    · exact h.coerente
    · exact h.coerente
    · exact h.coerente.exec (h.fiel p.store.de_historia htask) e
    · exact h.coerente
  · intro H
    refine (h.meeting H).step (hcode H) (fun hs ↦ possivel_exec hs.1 hs.2 _ _) hstep
      fun hdom ↦ ⟨?_, h.coerente⟩
    rw [Pool.step_eq hstep] at hdom
    obtain ⟨-, hm⟩ | ⟨i, c, -, hm⟩ | ⟨i, op, e, k, hcall, htask, hm⟩ | ⟨i, -, hm⟩ :=
      Pool.move_cases code machine m.1 p
    all_goals rw [hm] at hdom
    · exact hdom.1
    · exact hdom.1
    · exact hdom.1.of_exec (hmesma hcall htask)
    · exact hdom.1

end Guardada

end OperationalQueue

end ReqSys
