import Mathlib.Tactic
import ReqSys.Foundation.Program

/-!
# The circuit breaker of the external adapters

`call_with_retry` and `call_with_retry_async` count the calls that have ended in failure on a shared
circuit breaker. From the threshold on the circuit is open for the time of the cooldown, and a call
is refused before it reaches the adapter. A success closes the circuit.

The two variants perform the same sequence of atomic steps, so they are one program here. A run
interleaves any number of calls, and time passes between any two steps.

## The probe that fails

After the cooldown the circuit lets calls through without being closed. A call that fails then is
counted, but the instant of the opening is left as it is, so the circuit stays passable and the
cooldown is never observed again before a success. The same holds for a call that was let through
before the opening and fails after it.

`protects_iff` says that this is the only defect: the circuit protects after every failure
exactly as long as no call ends in failure later than the opening of the circuit.
-/

namespace ReqSys

namespace Resilience

open Program

/-! ## The breaker -/

/-- `CircuitBreaker`. Instants are in microseconds. -/
structure CircuitBreaker where
  name : String
  failureThreshold : ℤ := 3
  cooldownSeconds : ℤ := 60
  failures : ℕ := 0
  openedAt : Option ℤ := none

namespace CircuitBreaker

/-- The cooldown in microseconds. -/
def cooldown (c : CircuitBreaker) : ℤ := c.cooldownSeconds * 1000000

/-- `is_open`. -/
def isOpen (c : CircuitBreaker) (now : ℤ) : Bool :=
  match c.openedAt with
  | none => false
  | some openedAt => now - openedAt < c.cooldown

/-- The text of `CircuitBreakerOpenError`. -/
def openMessage (c : CircuitBreaker) : String :=
  "Circuito '" ++ c.name ++
    "' aberto apos falhas consecutivas; aguardando cooldown antes de nova tentativa."

/-- `record_success`. -/
def recordSuccess (c : CircuitBreaker) : CircuitBreaker :=
  { c with failures := 0, openedAt := none }

/-- `record_failure`. -/
def recordFailure (c : CircuitBreaker) (now : ℤ) : CircuitBreaker :=
  let failures := c.failures + 1
  { c with
    failures
    openedAt := if c.failureThreshold ≤ failures ∧ c.openedAt = none then some now
      else c.openedAt }

example (c : CircuitBreaker) (now : ℤ) : c.recordSuccess.isOpen now = false := by
  rw [isOpen, recordSuccess]

example (c : CircuitBreaker) (now : ℤ) : (c.recordFailure now).failures = c.failures + 1 := by
  rw [recordFailure]

@[simp] theorem isOpen_none {c : CircuitBreaker} (h : c.openedAt = none) (now : ℤ) :
    c.isOpen now = false := by
  rw [isOpen, h]

theorem isOpen_some {c : CircuitBreaker} {t : ℤ} (h : c.openedAt = some t) (now : ℤ) :
    c.isOpen now = true ↔ now - t < c.cooldown := by
  rw [isOpen, h, decide_eq_true_iff]

/-- A failure leaves an opening as it is. -/
theorem openedAt_recordFailure_of_some {c : CircuitBreaker} {t : ℤ} (h : c.openedAt = some t)
    (now : ℤ) : (c.recordFailure now).openedAt = some t := by
  rw [recordFailure]
  dsimp only
  rw [if_neg fun hopens ↦ Option.some_ne_none t (h.symm.trans hopens.2), h]

/-- The failure that reaches the threshold opens the circuit. -/
theorem openedAt_recordFailure_of_none {c : CircuitBreaker} (h : c.openedAt = none) (now : ℤ) :
    (c.recordFailure now).openedAt
      = if c.failureThreshold ≤ (c.failures + 1 : ℕ) then some now else none := by
  rw [recordFailure]
  dsimp only
  simp only [h, and_true]

end CircuitBreaker

/-! ## The calls -/

/-- How a call has ended for the breaker. -/
inductive Outcome
  | success
  | failure (instant : ℤ)

/-- The breaker, the clock, and what has been observed: the outcomes, the most recent first, and how
often the adapter has been reached. -/
structure Store where
  circuit : CircuitBreaker
  clock : ℤ
  outcomes : List Outcome := []
  invoked : ℕ := 0

section

variable (ε V : Type)

/-- What a call raises: `CircuitBreakerOpenError`, what `fn` or `sleep` has raised, or the assertion
that there is an error. -/
inductive Failure
  | circuitOpen (message : String)
  | raised (x : ε)
  | noError

/-- The parameters of a call. -/
structure Call where
  maxRetries : ℤ := 3
  backoffSeconds : ℚ := 1 / 2
  retryOn : ε → Bool
  /-- The call is given the circuit. -/
  guarded : Bool

/-- The atomic steps of a call. -/
inductive Cmd
  | guard
  | fn
  | sleep (seconds : ℚ)
  | recordSuccess
  | recordFailure

/-- What a step answers. -/
abbrev Cmd.Ans : Cmd → Type
  | .fn => Except ε V
  | _ => Unit

/-- What comes from outside: the time since the step before, what `fn` returns or raises, and what
`sleep` raises. -/
structure Env where
  elapsed : ℕ
  result : Except ε V
  interrupted : Option ε := none

end

variable {ε V : Type}

def exec (_ : ℕ) (op : Cmd) (e : Env ε V) (s : Store) :
    Store × Except (Failure ε) (op.Ans ε V) :=
  let s := { s with clock := s.clock + e.elapsed }
  match op with
  | .guard =>
    (s, if s.circuit.isOpen s.clock then .error (.circuitOpen s.circuit.openMessage) else .ok ())
  | .fn => ({ s with invoked := s.invoked + 1 }, .ok e.result)
  | .sleep _ =>
    (s, match e.interrupted with
      | none => .ok ()
      | some x => .error (.raised x))
  | .recordSuccess =>
    ({ s with circuit := s.circuit.recordSuccess, outcomes := .success :: s.outcomes }, .ok ())
  | .recordFailure =>
    ({ s with
      circuit := s.circuit.recordFailure s.clock
      outcomes := .failure s.clock :: s.outcomes }, .ok ())

def machine : Machine (Cmd.Ans ε V) (Failure ε) Store (Env ε V) where
  exec := exec
  close _ s := s

abbrev Process (ε V : Type) := Program (Cmd.Ans ε V) (Failure ε)

/-- A step of a call. -/
abbrev step (op : Cmd) : Process ε V (op.Ans ε V) := .perform op

/-- What a call does with the circuit, if it is given one. -/
def Call.onCircuit (call : Call ε) (p : Process ε V Unit) : Process ε V Unit :=
  if call.guarded then p else return ()

/-- The attempts that are left, from one on. -/
def Call.attempts (call : Call ε) : ℕ → ℕ → Option ε → Process ε V V
  | 0, _, none => .raise .noError
  | 0, _, some lastError => do
    call.onCircuit (step .recordFailure)
    .raise (.raised lastError)
  | left + 1, attempt, _ => do
    match ← step .fn with
    | .ok result =>
      call.onCircuit (step .recordSuccess)
      return result
    | .error x =>
      if call.retryOn x then
        if attempt < call.maxRetries then
          step (.sleep (call.backoffSeconds * 2 ^ (attempt - 1)))
        call.attempts left (attempt + 1) (some x)
      else
        .raise (.raised x)

/-- `call_with_retry` and `call_with_retry_async`. -/
def callWithRetry (call : Call ε) : Process ε V V := do
  call.onCircuit (step .guard)
  call.attempts call.maxRetries.toNat 1 none

/-- A circuit that has just been made. -/
def start (c : CircuitBreaker) (clock : ℤ) : Store where
  circuit := { c with failures := 0, openedAt := none }
  clock := clock

/-- The calls that share a circuit, from its creation on. -/
def calls (ε V : Type) (c : CircuitBreaker) (clock : ℤ) :
    TransitionSystem (Pool Store (Process ε V V))
      (Move (Call ε) (Env ε V) × Option (Except (Failure ε) V)) :=
  Pool.interleaving (start c clock) callWithRetry machine

/-! ## The protection -/

/-- The instants of the failures since the last success, the most recent first. -/
def recent : List Outcome → List ℤ
  | .failure instant :: outcomes => instant :: recent outcomes
  | _ => []

namespace Store

/-- As many calls as the threshold have ended in failure, with no success between them, and the most
recent of these failures is less than the cooldown ago. -/
def Due (s : Store) (now : ℤ) : Prop :=
  s.circuit.failureThreshold ≤ (recent s.outcomes).length ∧
    ∃ last ∈ (recent s.outcomes).head?, now - last < s.circuit.cooldown

/-- **The protection after every failure.** A call that is made when the circuit has to be open ends
with `CircuitBreakerOpenError` at its first step, and the adapter is not reached. -/
def Protected (ε V : Type) (s : Store) : Prop :=
  ∀ (call : Call ε) (i : ℕ) (e : Env ε V), call.guarded = true → s.Due (s.clock + e.elapsed) →
    ∃ s' message, (callWithRetry call).runAlone machine i [e] s
      = some (s', .error (.circuitOpen message)) ∧ s'.invoked = s.invoked

/-- A call ends in failure only if the circuit has not been opened since the last success, or is
opened at the same instant. -/
def OnlyOpens (s : Store) : ℕ × Cmd × Env ε V → Prop
  | (_, .recordFailure, e) => s.circuit.cooldownSeconds ≤ 0 ∨ s.circuit.openedAt = none ∨
    s.circuit.openedAt = some (s.clock + e.elapsed)
  | _ => True

instance (s : Store) (x : ℕ × Cmd × Env ε V) : Decidable (s.OnlyOpens x) := by
  unfold OnlyOpens
  split <;> infer_instance

/-- The counters say what has been observed. -/
structure Sound (s : Store) : Prop where
  failures : s.circuit.failures = (recent s.outcomes).length
  openedAt_none : s.circuit.openedAt = none → recent s.outcomes ≠ [] →
    (recent s.outcomes).length < s.circuit.failureThreshold
  of_openedAt : ∀ t ∈ s.circuit.openedAt, t ≤ s.clock ∧ recent s.outcomes ≠ [] ∧
    s.circuit.failureThreshold ≤ (recent s.outcomes).length

end Store

section Protection

variable {s : Store} {op : Cmd} {e : Env ε V} {i : ℕ}

/-- The guard of a call. -/
theorem runAlone_callWithRetry {call : Call ε} (h : call.guarded = true) :
    (∃ s' message, (callWithRetry call).runAlone machine i [e] s
      = some (s', .error (.circuitOpen message)) ∧ s'.invoked = s.invoked) ↔
      s.circuit.isOpen (s.clock + e.elapsed) = true := by
  have hrun : (callWithRetry call).runAlone machine i [e] s
      = ((ofExcept (exec i .guard e s).2 : Process ε V Unit) >>= fun _ ↦
          call.attempts call.maxRetries.toNat 1 none).runAlone machine i []
            (exec i .guard e s).1 := by
    rw [callWithRetry, Call.onCircuit, if_pos h]
    rfl
  rw [hrun, exec]
  dsimp only
  split
  next hopen => exact iff_of_true ⟨_, _, rfl, rfl⟩ hopen
  next hopen =>
    refine iff_of_false ?_ hopen
    rintro ⟨s', message, hraised, -⟩
    rw [ofExcept_ok_bind] at hraised
    -- the first attempt reaches the adapter, unless there is none
    generalize call.maxRetries.toNat = left at hraised
    cases left with
    | zero => cases hraised
    | succ left => cases hraised

/-- The protection is a matter of the two instants. -/
theorem protected_iff [Inhabited ε] :
    s.Protected ε V ↔
      ∀ d : ℕ, s.Due (s.clock + d) → s.circuit.isOpen (s.clock + d) = true := by
  constructor
  · intro h d hdue
    have hcall := h ⟨3, 1 / 2, fun _ ↦ true, true⟩ 0 ⟨d, .error default, none⟩ rfl hdue
    exact (runAlone_callWithRetry rfl).mp hcall
  · intro h call i e hguarded hdue
    exact (runAlone_callWithRetry hguarded).mpr (h e.elapsed hdue)

theorem sound_exec (h : s.Sound) : (exec i op e s).1.Sound := by
  have hof : ∀ t ∈ s.circuit.openedAt, t ≤ s.clock + e.elapsed ∧ recent s.outcomes ≠ [] ∧
      s.circuit.failureThreshold ≤ (recent s.outcomes).length := fun t ht ↦
    ⟨(h.of_openedAt t ht).1.trans (Int.le_add_of_nonneg_right (Int.natCast_nonneg _)),
      (h.of_openedAt t ht).2⟩
  cases op with
  | guard => exact ⟨h.failures, h.openedAt_none, hof⟩
  | fn => exact ⟨h.failures, h.openedAt_none, hof⟩
  | sleep seconds => exact ⟨h.failures, h.openedAt_none, hof⟩
  | recordSuccess => exact ⟨rfl, fun _ hne ↦ absurd rfl hne, fun t ht ↦ nomatch ht⟩
  | recordFailure =>
    have hlength : (exec i .recordFailure e s).1.circuit.failures
        = (recent (exec i .recordFailure e s).1.outcomes).length :=
      congrArg (· + 1) h.failures
    cases hopened : s.circuit.openedAt with
    | none =>
      have hnew := CircuitBreaker.openedAt_recordFailure_of_none hopened (s.clock + e.elapsed)
      refine ⟨hlength, fun hnone _ ↦ ?_, fun t ht ↦ ?_⟩
      · rw [← hlength]
        by_contra hle
        exact Option.some_ne_none _ ((hnew.trans (if_pos (not_lt.mp hle))).symm.trans hnone)
      · have ht := hnew.symm.trans ht
        split at ht
        next hle =>
          obtain rfl := Option.some.inj ht
          exact ⟨le_rfl, List.cons_ne_nil _ _, hlength ▸ hle⟩
        next => cases ht
    | some o =>
      have hnew := CircuitBreaker.openedAt_recordFailure_of_some hopened (s.clock + e.elapsed)
      obtain ⟨hle, -, hthreshold⟩ := hof o hopened
      refine ⟨hlength, fun hnone ↦ ?_, fun t ht ↦ ?_⟩
      · exact absurd (hnew.symm.trans hnone) (Option.some_ne_none o)
      · obtain rfl := Option.some.inj (hnew.symm.trans ht)
        refine ⟨hle, List.cons_ne_nil _ _, hthreshold.trans ?_⟩
        exact Int.ofNat_le.mpr (Nat.le_succ _)

theorem protected_exec_iff [Inhabited ε] (hs : s.Sound) (h : s.Protected ε V) :
    (exec i op e s).1.Protected ε V ↔ s.OnlyOpens (i, op, e) := by
  have hlater : ∀ s' : Store, s'.circuit = s.circuit → s'.outcomes = s.outcomes →
      s'.clock = s.clock + e.elapsed → s'.Protected ε V := by
    intro s' hcircuit houtcomes hclock
    rw [protected_iff] at h ⊢
    intro d hdue
    rw [Store.Due, hcircuit, houtcomes, hclock, add_assoc, ← Int.natCast_add] at hdue
    rw [hcircuit, hclock, add_assoc, ← Int.natCast_add]
    exact h _ hdue
  cases op with
  | guard => exact iff_of_true (hlater _ rfl rfl rfl) trivial
  | fn => exact iff_of_true (hlater _ rfl rfl rfl) trivial
  | sleep seconds => exact iff_of_true (hlater _ rfl rfl rfl) trivial
  | recordSuccess =>
    refine iff_of_true (protected_iff.mpr fun d hdue ↦ ?_) trivial
    obtain ⟨-, last, hlast, -⟩ := hdue
    cases hlast
  | recordFailure =>
    rw [protected_iff]
    have hthreshold : s.circuit.failureThreshold ≤ ((recent s.outcomes).length + 1 : ℕ) ↔
        s.circuit.failureThreshold ≤ (s.circuit.failures + 1 : ℕ) := by rw [hs.failures]
    cases hopened : s.circuit.openedAt with
    | none =>
      refine iff_of_true (fun d hdue ↦ ?_) (.inr (.inl hopened))
      obtain ⟨hle, last, hlast, hrecent⟩ := hdue
      obtain rfl := Option.some.inj hlast
      have hnew := CircuitBreaker.openedAt_recordFailure_of_none hopened (s.clock + e.elapsed)
      rw [if_pos (hthreshold.mp hle)] at hnew
      exact (CircuitBreaker.isOpen_some hnew _).mpr hrecent
    | some o =>
      have hnew := CircuitBreaker.openedAt_recordFailure_of_some hopened (s.clock + e.elapsed)
      obtain ⟨hle, -, hreached⟩ := hs.of_openedAt o hopened
      constructor
      · intro hall
        by_contra hlater
        rw [Store.OnlyOpens, not_or, not_or] at hlater
        obtain ⟨hpos, -, hne⟩ := hlater
        have hearlier : o < s.clock + e.elapsed := by
          have : o ≠ s.clock + e.elapsed := fun h ↦ hne (hopened.trans (congrArg some h))
          omega
        have hcooldown : 0 < s.circuit.cooldown := by
          rw [CircuitBreaker.cooldown]
          omega
        -- a call at the end of the old cooldown, or at once if that is over
        let d := (o + s.circuit.cooldown - (s.clock + e.elapsed)).toNat
        have hd : (d : ℤ) = max (o + s.circuit.cooldown - (s.clock + e.elapsed)) 0 :=
          Int.toNat_eq_max _
        have hopen := hall d ⟨hreached.trans (Int.ofNat_le.mpr (Nat.le_succ _)),
          s.clock + e.elapsed, rfl, ?_⟩
        · have hopen := (CircuitBreaker.isOpen_some hnew _).mp hopen
          change s.clock + e.elapsed + d - o < s.circuit.cooldown at hopen
          omega
        · change s.clock + e.elapsed + d - (s.clock + e.elapsed) < s.circuit.cooldown
          omega
      · intro honly d hdue
        obtain ⟨-, last, hlast, hrecent⟩ := hdue
        obtain rfl := Option.some.inj hlast
        refine (CircuitBreaker.isOpen_some hnew _).mpr ?_
        change s.clock + e.elapsed + d - (s.clock + e.elapsed) < s.circuit.cooldown at hrecent
        change s.clock + e.elapsed + d - o < s.circuit.cooldown
        rw [Store.OnlyOpens, hopened] at honly
        obtain hpos | hnone | hsame := honly
        · rw [CircuitBreaker.cooldown] at hrecent ⊢
          omega
        · cases hnone
        · obtain rfl := Option.some.inj hsame
          exact hrecent

theorem sound_start (c : CircuitBreaker) (clock : ℤ) : (start c clock).Sound where
  failures := rfl
  openedAt_none _ hne := absurd rfl hne
  of_openedAt _ ht := by cases ht

theorem protected_start [Inhabited ε] (c : CircuitBreaker) (clock : ℤ) :
    (start c clock).Protected ε V := by
  refine protected_iff.mpr fun d hdue ↦ ?_
  obtain ⟨-, last, hlast, -⟩ := hdue
  cases hlast

/-- The counters are right in every run. -/
theorem sound_of_run {c : CircuitBreaker} {clock : ℤ}
    {tr : List (Move (Call ε) (Env ε V) × Option (Except (Failure ε) V))}
    {p : Pool Store (Process ε V V)} (h : (calls ε V c clock).Run tr p) : p.store.Sound :=
  Pool.invariant_of_calls (P := fun _ ↦ True) (sound_start c clock)
    (fun _ ↦ .of_forall (fun _ ↦ trivial) _) (fun {_ i _ _} hs _ ↦ sound_exec (i := i) hs)
    (fun hs ↦ hs) h

/-- **The failing probe is the only defect.** The circuit protects after every failure as long as
no call ends in failure later than the opening of the circuit, and it no longer does after the first
call that does so. -/
theorem protects_iff [Inhabited ε] {c : CircuitBreaker} {clock : ℤ}
    {tr : List (Move (Call ε) (Env ε V) × Option (Except (Failure ε) V))}
    {p : Pool Store (Process ε V V)}
    (h : ((calls ε V c clock).restrict
      fun p m ↦ ∀ x ∈ p.nextCall m.1, p.store.OnlyOpens x).Run tr p) :
    p.store.Protected ε V ∧ ∀ m p', (calls ε V c clock).step p m p' →
      (p'.store.Protected ε V ↔ ∀ x ∈ p.nextCall m.1, p.store.OnlyOpens x) := by
  have hinit : (start c clock).Sound ∧ (start c clock).Protected ε V :=
    ⟨sound_start c clock, protected_start c clock⟩
  obtain ⟨⟨-, hprotected⟩, hstep⟩ := Pool.invariant_iff
    (I := fun s : Store ↦ s.Sound ∧ s.Protected ε V) (P := fun _ ↦ True)
    (C := fun s x ↦ s.OnlyOpens x) hinit
    (fun _ ↦ .of_forall (fun _ ↦ trivial) _)
    (fun {_ i _ _} hI _ ↦
      (and_iff_right (sound_exec (i := i) hI.1)).trans (protected_exec_iff hI.1 hI.2))
    (fun hI ↦ hI) h
  refine ⟨hprotected, fun m p' hm ↦ ?_⟩
  rw [← hstep m p' hm]
  exact (and_iff_right (sound_of_run (h.of_restrict.snoc hm))).symm

end Protection

/-! ## Two runs -/

/-- A call that is guarded and gives up after one attempt. -/
def probe : Call Unit where
  maxRetries := 1
  retryOn _ := true
  guarded := true

/-- The moves of a call that fails, the guard after some time. -/
def failing (elapsed : ℕ) : List (Move (Call Unit) (Env Unit Unit)) :=
  [.start 0 probe, .advance 0 ⟨elapsed, .error (), none⟩, .advance 0 ⟨0, .error (), none⟩,
    .advance 0 ⟨0, .error (), none⟩, .advance 0 ⟨0, .error (), none⟩]

def circuit : CircuitBreaker where
  name := "teste"
  failureThreshold := 2

/-- Two failures open the circuit, and a third call is refused. -/
theorem protects_sample :
    ∃ tr p, ((calls Unit Unit circuit 0).restrict
        fun p m ↦ ∀ x ∈ p.nextCall m.1, p.store.OnlyOpens x).Run tr p ∧
      p.store.Due (p.store.clock + (1 : ℕ)) ∧ p.store.Protected Unit Unit := by
  have hmeet : TransitionSystem.CallsMeet (Pool.move callWithRetry machine)
      (fun p m ↦ ∀ x ∈ p.nextCall m.1, p.store.OnlyOpens x) (failing 0 ++ failing 0)
      ⟨start circuit 0, fun _ ↦ none⟩ := by decide +kernel
  have hrun := TransitionSystem.run_restrict_runCalls _ hmeet
  exact ⟨_, _, hrun, ⟨by decide +kernel, 0, rfl, by decide +kernel⟩, (protects_iff hrun).1⟩

/-- After the cooldown a probe fails, and a second later the next call is let through. -/
theorem probe_reopens_nothing :
    ∃ tr p, (calls Unit Unit circuit 0).Run tr p ∧ ¬p.store.Protected Unit Unit := by
  have hrun := TransitionSystem.run_runCalls ⟨start circuit 0, fun _ ↦ none⟩
    (Pool.move (ε := Failure Unit) callWithRetry machine)
    (failing 0 ++ failing 0 ++ failing 61000000)
  refine ⟨_, _, hrun, fun h ↦ ?_⟩
  have hopen := protected_iff.mp h 1000000 ⟨by decide +kernel, 61000000, rfl, by decide +kernel⟩
  exact absurd hopen (by decide +kernel)

end Resilience

end ReqSys
