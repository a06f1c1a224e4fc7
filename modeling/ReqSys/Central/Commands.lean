import ReqSys.Central.Stores
import ReqSys.Foundation.Program

/-!
# The Central: the commands of the Redis store

`criar_se_ausente` and `listar` of `RedisCentralStore`, command by command. A request and its entry
in the index of ids are two keys: `criar_se_ausente` writes the request with `SET NX` and the index
with `SADD`, and returns before the index if the request is there already. `listar` reads the index,
then the requests, and removes the ids without a request from the index.

Any number of processes run over one store. A command may fail before or after it took effect.
-/

namespace ReqSys

namespace Central

namespace Commands

/-! ## Commands -/

inductive Erro
  /-- What the client of Redis raises. -/
  | redis (mensagem : String)
  | central (erro : CentralError)
  deriving DecidableEq

inductive Cmd
  /-- `SET NX` of a request under its key. -/
  | setNx (solicitacao : WorkRequest)
  | set (solicitacao : WorkRequest)
  | get (requestId : String)
  | sadd (requestId : String)
  | smembers
  | mget (requestIds : List String)
  | srem (requestIds : List String)

abbrev Cmd.Ans : Cmd → Type
  | setNx _ => Bool
  | get _ => Option WorkRequest
  | smembers => List String
  | mget _ => List (Option WorkRequest)
  | set _ | sadd _ | srem _ => Unit

/-- A command that failed. -/
structure Falha where
  /-- It took effect. -/
  aplicada : Bool
  mensagem : String

structure Env where
  falha : Option Falha := none

/-- The effect and the answer of a command. -/
def efeito : (op : Cmd) → RedisCentralStore → RedisCentralStore × op.Ans
  | .setNx w, r =>
    if (Table.get? w.requestId r.requests).isSome then (r, false)
    else ({ r with requests := Table.put r.requests (w.requestId, w) }, true)
  | .set w, r => ({ r with requests := Table.put r.requests (w.requestId, w) }, ())
  | .get requestId, r => (r, Table.get? requestId r.requests)
  | .sadd requestId, r => ({ r with index := RedisCentralStore.sadd requestId r.index }, ())
  | .smembers, r => (r, r.index)
  | .mget requestIds, r => (r, requestIds.map fun q ↦ Table.get? q r.requests)
  | .srem requestIds, r => ({ r with index := r.index.filter fun q ↦ q ∉ requestIds }, ())

def exec (op : Cmd) (e : Env) (r : RedisCentralStore) : RedisCentralStore × Except Erro op.Ans :=
  match e.falha with
  | some f => (if f.aplicada then (efeito op r).1 else r, .error (.redis f.mensagem))
  | none => ((efeito op r).1, .ok (efeito op r).2)

/-- Redis; a process that ends leaves everything as it is. -/
def machine : Machine Cmd.Ans Erro RedisCentralStore Env where
  exec _ := exec
  close _ r := r

/-! ## The methods -/

abbrev Processo := Program Cmd.Ans Erro

/-- One command. -/
def run (op : Cmd) : Processo op.Ans := .perform op

/-- `WorkRequest.model_validate_json`. -/
def validar (w : WorkRequest) : Except Erro WorkRequest :=
  (RedisCentralStore.validar w).mapError .central

/-- `obter`. -/
def obter (requestId : String) : Processo (Option WorkRequest) := do
  match ← run (.get requestId) with
  | none => return none
  | some raw => do
    let w ← .ofExcept (validar raw)
    return some w

/-- The end of `criar_se_ausente`, with the new request. -/
def indexar (solicitacao : WorkRequest) : Processo (WorkRequest × Bool) := do
  run (.sadd solicitacao.requestId)
  return (solicitacao, true)

/-- `criar_se_ausente`. -/
def criarSeAusente (solicitacao : WorkRequest) : Processo (WorkRequest × Bool) := do
  if ← run (.setNx solicitacao) then indexar solicitacao
  else do
    match ← obter solicitacao.requestId with
    | some existente => return (existente, false)
    | none => do
      run (.set solicitacao)
      indexar solicitacao

/-- The ids without a request. -/
def orfaos (ids : List String) (valores : List (Option WorkRequest)) : List String :=
  ((ids.zip valores).filter fun x ↦ x.2.isNone).map Prod.fst

def removerOrfaos (orfaos : List String) : Processo Unit :=
  if orfaos.isEmpty then return () else run (.srem orfaos)

/-- `listar`. -/
def listar : Processo (List WorkRequest) := do
  let ids ← run .smembers
  if ids.isEmpty then return []
  else do
    let ordenados := ids.insertionSort (· ≤ ·)
    let valores ← run (.mget ordenados)
    let solicitacoes ← .ofExcept ((valores.filterMap id).mapM validar)
    removerOrfaos (orfaos ordenados valores)
    return solicitacoes

/-! ## Processes -/

/-- What a process does. Every request has passed the validators of its model. -/
inductive Chamada
  | criarSeAusente (solicitacao : WorkRequest) (valida : solicitacao.accepted = true)
  | listar

inductive Resposta
  /-- `criar_se_ausente` for this id returned. -/
  | criada (requestId : String) (vigente : WorkRequest) (foiCriada : Bool)
  | lista (solicitacoes : List WorkRequest)

def code : Chamada → Processo Resposta
  | .criarSeAusente solicitacao _ => do
    let (vigente, foiCriada) ← criarSeAusente solicitacao
    return .criada solicitacao.requestId vigente foiCriada
  | .listar => do
    let solicitacoes ← listar
    return .lista solicitacoes

/-- The store and the processes running over it. -/
abbrev Processos := Pool RedisCentralStore (Processo Resposta)

/-- A move of the processes, with the outcome it delivers. -/
abbrev Passo := Move Chamada Env × Option (Except Erro Resposta)

/-- Any number of processes over one store, which is empty at first. -/
def replicas : TransitionSystem Processos Passo := Pool.interleaving {} code machine

end Commands

end Central

end ReqSys
