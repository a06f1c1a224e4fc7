import Mathlib
import ReqSys.Central.Service

/-!
# The Central: what the methods call

Invariants of the store need to know little about the methods: which calls they can make at all.
Only two of the calls carry data that matters there. `registrar` creates the request it built and
checked, and `registrar_evidencia` aligns a request to the SHA of evidence that was validated.
-/

namespace ReqSys

namespace Central

/-- The calls that the methods of the service and the worker can make. -/
def DoServico (cfg : Config) : StoreOp → Prop
  | .criarSeAusente r =>
    ∃ entrada momento, r = Service.novaSolicitacao cfg entrada momento ∧ r.accepted = true
  | .atualizar q (.alinhar sha _) =>
    ∃ entrada : EvidenceRecordInput, entrada.requestId = q ∧ entrada.sha = sha
  | _ => True

section Calls

open Service

variable (cfg : Config)

theorem chamar_bind {op : StoreOp} {α : Type} {f : op.Ans → Method α} (h : DoServico cfg op)
    (hf : ∀ a, (f a).AllCalls (DoServico cfg)) : (chamar op >>= f).AllCalls (DoServico cfg) :=
  (Program.AllCalls.perform h).bind hf

theorem registrar_calls (entrada : WorkRequestInput) (momento : DateTime) :
    (registrar cfg entrada momento).AllCalls (DoServico cfg) := by
  rw [registrar]
  split_ifs with haccepted
  · exact chamar_bind cfg ⟨entrada, momento, rfl, haccepted⟩ fun _ ↦ .ret _
  · exact .raise _

theorem obter_calls (q : String) : (obter q).AllCalls (DoServico cfg) := by
  refine chamar_bind cfg trivial fun r ↦ ?_
  cases r with
  | none => exact .raise _
  | some r => exact .ret r

theorem aplicarAdmissao_calls : (aplicarAdmissao cfg).AllCalls (DoServico cfg) := by
  have hpromover : ∀ destino q, (do
      let _ ← chamar (.atualizar q (.promover destino)) : Method PUnit).AllCalls (DoServico cfg) :=
    fun _ _ ↦ chamar_bind cfg trivial fun _ ↦ .ret _
  refine chamar_bind cfg trivial fun _ ↦ ?_
  refine (Program.AllCalls.forM fun q _ ↦ hpromover _ q).bind fun _ ↦ ?_
  refine (Program.AllCalls.forM fun q _ ↦ hpromover _ q).bind fun _ ↦ ?_
  exact chamar_bind cfg trivial fun _ ↦ .ret _

theorem proximoItem_calls (executor : Option ExecutorKind) :
    (proximoItem cfg executor).AllCalls (DoServico cfg) :=
  (aplicarAdmissao_calls cfg).bind fun _ ↦ .ret _

theorem exigirEvidencia_calls (q : String) : (exigirEvidencia q).AllCalls (DoServico cfg) := by
  refine (obter_calls cfg q).bind fun _ ↦ ?_
  refine chamar_bind cfg trivial fun _ ↦ ?_
  split_ifs
  · exact .raise _
  · exact .ret _

theorem transicionar_calls (q : String) (novo : WorkRequestStatus)
    (blocker nextAction : Option String) :
    (transicionar q novo blocker nextAction).AllCalls (DoServico cfg) := by
  rw [transicionar]
  split_ifs
  on_goal 1 => refine (exigirEvidencia_calls cfg q).bind fun _ ↦ ?_
  all_goals
    refine chamar_bind cfg trivial fun r ↦ ?_
    cases r with
    | none => exact .raise _
    | some r => exact .ret r

theorem registrarEvidencia_calls (entrada : EvidenceRecordInput) :
    (registrarEvidencia entrada).AllCalls (DoServico cfg) := by
  refine chamar_bind cfg trivial fun r ↦ ?_
  cases r with
  | none => exact .raise _
  | some _ =>
    refine chamar_bind cfg trivial fun _ ↦ ?_
    exact chamar_bind cfg ⟨entrada, rfl, rfl⟩ fun _ ↦ .ret _

theorem bloquear_calls (r : WorkRequest) (blocker nextAction : String) (checks : Checks) :
    (bloquear r blocker nextAction checks).AllCalls (DoServico cfg) := by
  have hblock : ∀ _ : Unit, (do
      let bloqueada ← transicionar r.requestId .blocked (some blocker) (some nextAction)
      return {
        resultado := .bloqueado
        requestId := some bloqueada.requestId
        executor := some bloqueada.executor
        blocker := some blocker } : Method CicloRelatorio).AllCalls (DoServico cfg) :=
    fun _ ↦ (transicionar_calls cfg _ _ _ _).bind fun _ ↦ .ret _
  rw [bloquear]
  split_ifs
  · refine (Program.AllCalls.ofExcept _).bind fun entrada ↦ ?_
    exact (registrarEvidencia_calls cfg entrada).bind fun _ ↦ hblock ⟨⟩
  · exact hblock ⟨⟩

theorem concluir_calls (r : WorkRequest) (resultado : ExecutionResult) :
    (concluir r resultado).AllCalls (DoServico cfg) := by
  refine (Program.AllCalls.ofExcept _).bind fun entrada ↦ ?_
  refine (registrarEvidencia_calls cfg entrada).bind fun registro ↦ ?_
  split_ifs
  · exact .ret _
  · refine (transicionar_calls cfg _ _ _ _).attempt.bind fun outcome ↦ ?_
    rcases outcome with (_ | _ | _ | _ | _) | _
    case error.invalidTransition | ok => exact .ret _
    all_goals exact .raise _

theorem executarItem_calls (r : WorkRequest) : (executarItem r).AllCalls (DoServico cfg) := by
  refine (transicionar_calls cfg _ _ _ _).attempt.bind fun outcome ↦ ?_
  rcases outcome with (_ | _ | _ | _ | _) | r'
  case ok =>
    refine chamar_bind cfg trivial fun execucao ↦ ?_
    refine (Program.AllCalls.ofExcept _).bind fun resultado ↦ ?_
    split_ifs
    · exact bloquear_calls cfg _ _ _ _
    · exact concluir_calls cfg _ _
  case error.concurrentUpdate | error.validation | error.interrupted => exact .raise _
  all_goals exact .ret _

theorem executarUmCiclo_calls (executor : Option ExecutorKind) :
    (executarUmCiclo cfg executor).AllCalls (DoServico cfg) := by
  refine (proximoItem_calls cfg executor).bind fun r ↦ ?_
  cases r with
  | none => exact .ret _
  | some r =>
    dsimp only
    split_ifs
    · exact executarItem_calls cfg r
    · exact bloquear_calls cfg _ _ _ _

/-- A method that only wraps the result of another one. -/
theorem return_calls {α : Type} {m : Method α} {f : α → Resposta} (h : m.AllCalls (DoServico cfg)) :
    (do return f (← m) : Method Resposta).AllCalls (DoServico cfg) := h.bind fun _ ↦ .ret _

theorem code_calls (c : Chamada) : (code cfg c).AllCalls (DoServico cfg) := by
  cases c with
  | registrar entrada momento => exact return_calls cfg (registrar_calls cfg entrada momento)
  | obter q => exact return_calls cfg (obter_calls cfg q)
  | listar => exact return_calls cfg (Program.AllCalls.perform trivial)
  | planoDeAdmissao =>
    have hplano : (Service.planoDeAdmissao cfg).AllCalls (DoServico cfg) :=
      chamar_bind cfg trivial fun _ ↦ .ret _
    exact return_calls cfg hplano
  | aplicarAdmissao => exact return_calls cfg (aplicarAdmissao_calls cfg)
  | proximoItem executor => exact return_calls cfg (proximoItem_calls cfg executor)
  | transicionar q novo blocker nextAction =>
    exact return_calls cfg (transicionar_calls cfg q novo blocker nextAction)
  | registrarEvidencia entrada => exact return_calls cfg (registrarEvidencia_calls cfg entrada)
  | obterEvidencia q => exact return_calls cfg (Program.AllCalls.perform trivial)
  | historicoEvidencia q => exact return_calls cfg (Program.AllCalls.perform trivial)
  | executarUmCiclo executor => exact return_calls cfg (executarUmCiclo_calls cfg executor)

end Calls

end Central

end ReqSys
