import ReqSys.Foundation.TransitionSystem
import Mathlib.Logic.Function.Basic

/-!
# Programs over atomic calls, and their interleavings

A service method that awaits a shared store several times is not one step: other processes run
between its calls. `Program` is the tree of such a method: it returns, raises, or performs one
atomic call and goes on with the answer. Exceptions are part of the tree, since an atomic call may
itself raise and a method may catch.

A `Machine` says how a process performs an atomic call and what becomes of the store when the
process ends. A `Pool` is a store together with the programs currently running over it, any number
of them. One move starts a program, performs the next atomic call of a running one, or kills it;
`interleaving` is the transition system of these moves, so its runs are all the schedules, with
crashes between any two calls.

## Reasoning about a pool

`Program.AllCalls P` says that every call a program can ever make satisfies `P`, whatever the
answers are; it is compositional, and it is all that is needed when an invariant of the store is
kept by each atomic call on its own. `Pool.invariant_iff` packages that argument together with the
exact condition under which a call keeps the invariant.
-/

namespace ReqSys

/-- A program over the atomic calls `Op`, each answering `Ans op` or raising. -/
inductive Program {Op : Type} (Ans : Op → Type) (ε : Type) (α : Type) : Type
  | ret (a : α)
  | raise (e : ε)
  | call (op : Op) (k : Except ε (Ans op) → Program Ans ε α)

namespace Program

variable {Op : Type} {Ans : Op → Type} {ε α β : Type}

/-- Run the first program, then the second on its result. -/
def bind : Program Ans ε α → (α → Program Ans ε β) → Program Ans ε β
  | ret a, f => f a
  | raise e, _ => raise e
  | call op k, f => call op fun r ↦ (k r).bind f

instance : Monad (Program Ans ε) where
  pure := ret
  bind := bind

/-- Go on with the outcome of a finished computation. -/
def ofExcept : Except ε α → Program Ans ε α
  | .ok a => ret a
  | .error e => raise e

/-- One atomic call, raising what it raises. -/
def perform (op : Op) : Program Ans ε (Ans op) := call op ofExcept

/-- Run a program and catch what it raises. -/
def attempt : Program Ans ε α → Program Ans ε (Except ε α)
  | ret a => ret (.ok a)
  | raise e => ret (.error e)
  | call op k => call op fun r ↦ (k r).attempt

theorem bind_assoc {γ : Type} (p : Program Ans ε α) (f : α → Program Ans ε β)
    (g : β → Program Ans ε γ) : p >>= f >>= g = p >>= fun a ↦ f a >>= g := by
  change (p.bind f).bind g = p.bind fun a ↦ (f a).bind g
  induction p with
  | ret a => rfl
  | raise e => rfl
  | call op k ih => exact congrArg (call op) (funext ih)

theorem ofExcept_ok_bind (a : α) (f : α → Program Ans ε β) :
    (ofExcept (.ok a) : Program Ans ε α) >>= f = f a := rfl

theorem ofExcept_error_bind (e : ε) (f : α → Program Ans ε β) :
    (ofExcept (.error e) : Program Ans ε α) >>= f = raise e := rfl

/-! ### More calls -/

section Embed

variable {Op' : Type} {Ans' : Op' → Type}

/-- The same program over a larger set of calls. -/
def embed (f : Op → Op') (g : ∀ op, Except ε (Ans' (f op)) → Except ε (Ans op)) :
    Program Ans ε α → Program Ans' ε α
  | ret a => ret a
  | raise e => raise e
  | call op k => call (f op) fun r ↦ (k (g op r)).embed f g

theorem embed_bind {f : Op → Op'} {g : ∀ op, Except ε (Ans' (f op)) → Except ε (Ans op)}
    (p : Program Ans ε α) (h : α → Program Ans ε β) :
    (p >>= h).embed f g = p.embed f g >>= fun a ↦ (h a).embed f g := by
  change (p.bind h).embed f g = (p.embed f g).bind fun a ↦ (h a).embed f g
  induction p with
  | ret a => rfl
  | raise e => rfl
  | call op k ih => exact congrArg (call (f op)) (funext fun r ↦ ih (g op r))

end Embed

/-! ## The calls a program can make -/

/-- Every call the program can make satisfies `P`. -/
inductive AllCalls (P : Op → Prop) : Program Ans ε α → Prop
  | ret (a : α) : AllCalls P (ret a)
  | raise (e : ε) : AllCalls P (raise e)
  | call {op : Op} {k : Except ε (Ans op) → Program Ans ε α} :
      P op → (∀ r, AllCalls P (k r)) → AllCalls P (call op k)

variable {P : Op → Prop}

theorem AllCalls.op {op : Op} {k : Except ε (Ans op) → Program Ans ε α}
    (h : (Program.call op k).AllCalls P) : P op := by
  cases h with
  | call hop _ => exact hop

theorem AllCalls.next {op : Op} {k : Except ε (Ans op) → Program Ans ε α}
    (h : (Program.call op k).AllCalls P) (r : Except ε (Ans op)) : (k r).AllCalls P := by
  cases h with
  | call _ hk => exact hk r

theorem AllCalls.of_forall (h : ∀ op, P op) (p : Program Ans ε α) : p.AllCalls P := by
  induction p with
  | ret a => exact .ret a
  | raise e => exact .raise e
  | call op k ih => exact .call (h op) ih

theorem AllCalls.ofExcept (x : Except ε α) : (Program.ofExcept x : Program Ans ε α).AllCalls P := by
  cases x with
  | ok a => exact .ret a
  | error e => exact .raise e

theorem AllCalls.perform {op : Op} (h : P op) :
    (Program.perform op : Program Ans ε (Ans op)).AllCalls P :=
  .call h AllCalls.ofExcept

theorem AllCalls.bind {p : Program Ans ε α} {f : α → Program Ans ε β} (hp : p.AllCalls P)
    (hf : ∀ a, (f a).AllCalls P) : (p >>= f).AllCalls P := by
  change (p.bind f).AllCalls P
  induction hp with
  | ret a => exact hf a
  | raise e => exact .raise e
  | call hop _ ih => exact .call hop ih

/-- What follows a finished computation, given its value. -/
theorem AllCalls.ofExcept_bind {x : Except ε α} {f : α → Program Ans ε β}
    (hf : ∀ a, x = .ok a → (f a).AllCalls P) : (Program.ofExcept x >>= f).AllCalls P := by
  cases x with
  | ok a => exact hf a rfl
  | error e => exact .raise e

theorem AllCalls.attempt {p : Program Ans ε α} (hp : p.AllCalls P) : p.attempt.AllCalls P := by
  induction hp with
  | ret a => exact .ret _
  | raise e => exact .ret _
  | call hop _ ih => exact .call hop ih

theorem AllCalls.forM {f : β → Program Ans ε PUnit} {l : List β}
    (hf : ∀ b ∈ l, (f b).AllCalls P) : (l.forM f).AllCalls P := by
  induction l with
  | nil => exact .ret _
  | cons b l ih =>
    obtain ⟨hb, hl⟩ := List.forall_mem_cons.mp hf
    exact hb.bind fun _ ↦ ih hl

theorem AllCalls.embed {Op' : Type} {Ans' : Op' → Type} {P' : Op' → Prop} {f : Op → Op'}
    {g : ∀ op, Except ε (Ans' (f op)) → Except ε (Ans op)} (hf : ∀ op, P op → P' (f op))
    {p : Program Ans ε α} (hp : p.AllCalls P) : (p.embed f g).AllCalls P' := by
  induction hp with
  | ret a => exact .ret a
  | raise e => exact .raise e
  | call hop _ ih => exact .call (hf _ hop) fun r ↦ ih (g _ r)

theorem AllCalls.imp {Q : Op → Prop} (hPQ : ∀ op, P op → Q op) {p : Program Ans ε α}
    (hp : p.AllCalls P) : p.AllCalls Q := by
  induction hp with
  | ret a => exact .ret a
  | raise e => exact .raise e
  | call hop _ ih => exact .call (hPQ _ hop) ih

end Program

/-! ## Machines -/

/-- What programs run on: how a process performs an atomic call, given an input from outside, and
what happens to the store when the process ends or dies. -/
structure Machine {Op : Type} (Ans : Op → Type) (ε σ η : Type) where
  exec : ℕ → (op : Op) → η → σ → σ × Except ε (Ans op)
  close : ℕ → σ → σ

namespace Program

variable {Op : Type} {Ans : Op → Type} {ε α σ η : Type}

/-- Process `i` runs a program without interference, its atomic calls taking their inputs from a
list. No result if the list is too short. -/
def runAlone (M : Machine Ans ε σ η) (i : ℕ) :
    Program Ans ε α → List η → σ → Option (σ × Except ε α)
  | ret a, _, s => some (s, .ok a)
  | raise e, _, s => some (s, .error e)
  | call _ _, [], _ => none
  | call op k, e :: es, s => (k (M.exec i op e s).2).runAlone M i es (M.exec i op e s).1

/-- A program that starts with a call and returns: the call answered, and the rest returned. -/
theorem runAlone_perform_bind {M : Machine Ans ε σ η} {i : ℕ} {op : Op}
    {f : Ans op → Program Ans ε α} {es : List η} {s s' : σ} {a : α}
    (h : (perform op >>= f).runAlone M i es s = some (s', .ok a)) :
    ∃ e es' x, (M.exec i op e s).2 = .ok x ∧
      (f x).runAlone M i es' (M.exec i op e s).1 = some (s', .ok a) := by
  cases es with
  | nil => cases h
  | cons e es =>
    change ((ofExcept (M.exec i op e s).2).bind f).runAlone M i es (M.exec i op e s).1 = _ at h
    rcases hx : (M.exec i op e s).2 with err | x
    · rw [hx] at h
      cases h
    · rw [hx] at h
      exact ⟨e, es, x, hx, h⟩

/-! ### To the end under interference -/

/-- Process `i` runs the program to its end and finishes in `Q`, whatever inputs in `A` its calls
get and whatever the other processes do within `R` before each call. A program is a finite tree, so
there is always an end. -/
def EndsIn (M : Machine Ans ε σ η) (i : ℕ) (A : η → Prop) (R : σ → σ → Prop)
    (Q : Except ε α → σ → Prop) : Program Ans ε α → σ → Prop
  | ret a, s => Q (.ok a) s
  | raise x, s => Q (.error x) s
  | call op k, s => ∀ s' e, R s s' → A e →
    (k (M.exec i op e s').2).EndsIn M i A R Q (M.exec i op e s').1

namespace EndsIn

variable {M : Machine Ans ε σ η} {i : ℕ} {A : η → Prop} {R : σ → σ → Prop} {s : σ}
  {Q : Except ε α → σ → Prop} {Q' : Except ε β → σ → Prop}

theorem imp {Q₂ : Except ε α → σ → Prop} {p : Program Ans ε α} (hp : p.EndsIn M i A R Q s)
    (hQ : ∀ r s, Q r s → Q₂ r s) : p.EndsIn M i A R Q₂ s := by
  induction p generalizing s with
  | ret a => exact hQ _ s hp
  | raise x => exact hQ _ s hp
  | call op k ih => exact fun s' e hR hA ↦ ih _ (hp s' e hR hA)

theorem bind {p : Program Ans ε α} {f : α → Program Ans ε β} (hp : p.EndsIn M i A R Q s)
    (hf : ∀ {a s}, Q (.ok a) s → (f a).EndsIn M i A R Q' s)
    (he : ∀ {x s}, Q (.error x) s → Q' (.error x) s) : (p >>= f).EndsIn M i A R Q' s := by
  change (p.bind f).EndsIn M i A R Q' s
  induction p generalizing s with
  | ret a => exact hf hp
  | raise x => exact he hp
  | call op k ih => exact fun s' e hR hA ↦ ih _ (hp s' e hR hA)

/-- What a program raises is caught and handed to the rest. -/
theorem attempt_bind {p : Program Ans ε α} {f : Except ε α → Program Ans ε β}
    (hp : p.EndsIn M i A R Q s) (hf : ∀ {r s}, Q r s → (f r).EndsIn M i A R Q' s) :
    (p.attempt >>= f).EndsIn M i A R Q' s := by
  change (p.attempt.bind f).EndsIn M i A R Q' s
  induction p generalizing s with
  | ret a => exact hf hp
  | raise x => exact hf hp
  | call op k ih => exact fun s' e hR hA ↦ ih _ (hp s' e hR hA)

/-- An atomic call that answers, followed by the rest. -/
theorem perform_bind {op : Op} {f : Ans op → Program Ans ε α}
    (h : ∀ s' e, R s s' → A e → ∃ a, (M.exec i op e s').2 = .ok a ∧
      (f a).EndsIn M i A R Q (M.exec i op e s').1) :
    (perform op >>= f).EndsIn M i A R Q s := by
  intro s' e hR hA
  obtain ⟨a, ha, hf⟩ := h s' e hR hA
  rw [ha]
  exact hf

/-- In particular the program ends so when it runs alone. -/
theorem runAlone (hR : ∀ s, R s s) {p : Program Ans ε α} (hp : p.EndsIn M i A R Q s) {es : List η}
    (hes : ∀ e ∈ es, A e) {s' : σ} {r : Except ε α}
    (h : p.runAlone M i es s = some (s', r)) : Q r s' := by
  induction p generalizing s es with
  | ret a =>
    cases h
    exact hp
  | raise x =>
    cases h
    exact hp
  | call op k ih =>
    cases es with
    | nil => cases h
    | cons e es =>
      obtain ⟨hA, hes⟩ := List.forall_mem_cons.mp hes
      exact ih _ (hp s e (hR s) hA) hes h

/-- What a program is shown to end in twice, it ends in at once. -/
theorem exists_and {Q₂ : Except ε α → σ → Prop} (hR : ∀ s, R s s) (hA : ∃ e, A e)
    {p : Program Ans ε α} (hp : p.EndsIn M i A R Q s) (hp₂ : p.EndsIn M i A R Q₂ s) :
    ∃ r s', Q r s' ∧ Q₂ r s' := by
  obtain ⟨e, he⟩ := hA
  induction p generalizing s with
  | ret a => exact ⟨_, s, hp, hp₂⟩
  | raise x => exact ⟨_, s, hp, hp₂⟩
  | call op k ih => exact ih _ (hp s e (hR s) he) (hp₂ s e (hR s) he)

/-- What a finished computation ends in. -/
theorem ofExcept {x : Except ε α} (h : Q x s) :
    (Program.ofExcept x : Program Ans ε α).EndsIn M i A R Q s := by
  cases x with
  | ok a => exact h
  | error e => exact h

end EndsIn

end Program

/-! ## Pools -/

/-- A shared store and the programs running over it. -/
structure Pool (σ : Type) (π : Type) where
  store : σ
  task : ℕ → Option π

/-- What the scheduler may do: start a program in an idle slot, let a program perform its next
atomic call with the input it needs from outside (or deliver its result), or kill it. -/
inductive Move (κ : Type) (η : Type)
  | start (i : ℕ) (c : κ)
  | advance (i : ℕ) (e : η)
  | crash (i : ℕ)

/-- The slot a move is about. -/
def Move.slot {κ η : Type} : Move κ η → ℕ
  | start i _ | advance i _ | crash i => i

namespace Pool

variable {Op : Type} {Ans : Op → Type} {ε α κ η σ : Type}

/-- Put a program into a slot, or clear it. -/
def setTask {π : Type} (p : Pool σ π) (i : ℕ) (t : Option π) : Pool σ π :=
  { p with task := Function.update p.task i t }

/-- A move of the pool, with the result it delivers if it finishes a program. A move that is not
possible changes nothing. -/
def move (code : κ → Program Ans ε α) (M : Machine Ans ε σ η) :
    Move κ η → Pool σ (Program Ans ε α) → Pool σ (Program Ans ε α) × Option (Except ε α)
  | .start i c, p =>
    match p.task i with
    | none => (p.setTask i (some (code c)), none)
    | some _ => (p, none)
  | .advance i e, p =>
    match p.task i with
    | none => (p, none)
    | some (.ret a) => (setTask ⟨M.close i p.store, p.task⟩ i none, some (.ok a))
    | some (.raise x) => (setTask ⟨M.close i p.store, p.task⟩ i none, some (.error x))
    | some (.call op k) =>
      (setTask ⟨(M.exec i op e p.store).1, p.task⟩ i (some (k (M.exec i op e p.store).2)), none)
  | .crash i, p => (setTask ⟨M.close i p.store, p.task⟩ i none, none)

/-- All schedules of programs over one store. -/
def interleaving (s₀ : σ) (code : κ → Program Ans ε α) (M : Machine Ans ε σ η) :
    TransitionSystem (Pool σ (Program Ans ε α)) (Move κ η × Option (Except ε α)) :=
  TransitionSystem.ofExec ⟨s₀, fun _ ↦ none⟩ (move code M)

/-- The atomic call a move performs: the process, the call and its outside input. -/
def nextCall (p : Pool σ (Program Ans ε α)) : Move κ η → Option (ℕ × Op × η)
  | .advance i e =>
    match p.task i with
    | some (.call op _) => some (i, op, e)
    | _ => none
  | _ => none

theorem eq_advance_of_nextCall {p : Pool σ (Program Ans ε α)} {m : Move κ η} {i : ℕ} {op : Op}
    {e : η} (h : p.nextCall m = some (i, op, e)) : m = .advance i e := by
  unfold nextCall at h
  split at h
  · split at h
    · cases h
      rfl
    · cases h
  · cases h

theorem task_of_nextCall {p : Pool σ (Program Ans ε α)} {m : Move κ η} {i : ℕ} {op : Op} {e : η}
    (h : p.nextCall m = some (i, op, e)) : ∃ k, p.task i = some (.call op k) := by
  unfold nextCall at h
  split at h
  · split at h
    next htask =>
      cases h
      exact ⟨_, htask⟩
    · cases h
  · cases h

section Moves

variable {code : κ → Program Ans ε α} {M : Machine Ans ε σ η}

/-- **What a move can do.** It starts a program in an idle slot, performs the next call of one, or
ends one. -/
theorem move_forms (code : κ → Program Ans ε α) (M : Machine Ans ε σ η) (m : Move κ η)
    (p : Pool σ (Program Ans ε α)) :
    (p.nextCall m = none ∧ (move code M m p).1 = p) ∨
    (∃ i c, m = .start i c ∧ p.task i = none ∧
      (move code M m p).1 = p.setTask i (some (code c))) ∨
    (∃ i op e k, p.nextCall m = some (i, op, e) ∧ p.task i = some (.call op k) ∧
      (move code M m p).1
        = setTask ⟨(M.exec i op e p.store).1, p.task⟩ i (some (k (M.exec i op e p.store).2))) ∨
    (p.nextCall m = none ∧
      (move code M m p).1 = setTask ⟨M.close m.slot p.store, p.task⟩ m.slot none) := by
  cases m with
  | start i c =>
    rcases htask : p.task i with _ | q
    · exact .inr (.inl ⟨i, c, rfl, htask, by simp only [move, htask]⟩)
    · exact .inl ⟨rfl, by simp only [move, htask]⟩
  | crash i => exact .inr (.inr (.inr ⟨rfl, rfl⟩))
  | advance i e =>
    -- the four shapes of a slot: idle, finished either way, or about to perform a call
    rcases htask : p.task i with _ | (a | x | ⟨op, k⟩)
    · exact .inl ⟨by simp only [nextCall, htask], by simp only [move, htask]⟩
    · exact .inr (.inr (.inr
        ⟨by simp only [nextCall, htask], by simp only [move, htask, Move.slot]⟩))
    · exact .inr (.inr (.inr
        ⟨by simp only [nextCall, htask], by simp only [move, htask, Move.slot]⟩))
    · exact .inr (.inr (.inl
        ⟨i, op, e, k, by simp only [nextCall, htask], htask, by simp only [move, htask]⟩))

/-- The same, for proofs about what is stored. -/
theorem move_cases (code : κ → Program Ans ε α) (M : Machine Ans ε σ η) (m : Move κ η)
    (p : Pool σ (Program Ans ε α)) :
    (p.nextCall m = none ∧ (move code M m p).1 = p) ∨
    (∃ i c, p.nextCall m = none ∧ (move code M m p).1 = p.setTask i (some (code c))) ∨
    (∃ i op e k, p.nextCall m = some (i, op, e) ∧ p.task i = some (.call op k) ∧
      (move code M m p).1
        = setTask ⟨(M.exec i op e p.store).1, p.task⟩ i (some (k (M.exec i op e p.store).2))) ∨
    ∃ i, p.nextCall m = none ∧
      (move code M m p).1 = setTask ⟨M.close i p.store, p.task⟩ i none := by
  obtain hsame | ⟨i, c, rfl, -, hm⟩ | hcall | hend := move_forms code M m p
  · exact .inl hsame
  · exact .inr (.inl ⟨i, c, rfl, hm⟩)
  · exact .inr (.inr (.inl hcall))
  · exact .inr (.inr (.inr ⟨m.slot, hend⟩))

theorem setTask_eq_some {p : Pool σ (Program Ans ε α)} {i j : ℕ} {t : Option (Program Ans ε α)}
    {q : Program Ans ε α} (h : (p.setTask i t).task j = some q) :
    (j ≠ i ∧ p.task j = some q) ∨ j = i ∧ t = some q := by
  by_cases hj : j = i
  · subst hj
    exact .inr ⟨rfl, by simpa [setTask] using h⟩
  · exact .inl ⟨hj, by simpa [setTask, hj] using h⟩

theorem task_setTask_of_ne {p : Pool σ (Program Ans ε α)} {i j : ℕ}
    {t : Option (Program Ans ε α)} (h : j ≠ i) : (p.setTask i t).task j = p.task j := by
  simp only [setTask, ne_eq, h, not_false_eq_true, Function.update_of_ne]

/-- A program that is about to perform a call is ended by a crash only. -/
theorem eq_crash {m : Move κ η} {p : Pool σ (Program Ans ε α)} {op : Op}
    {k : Except ε (Ans op) → Program Ans ε α} (htask : p.task m.slot = some (.call op k))
    (hend : (move code M m p).1.task m.slot = none) : m = .crash m.slot := by
  cases m with
  | crash i => rfl
  | start i c =>
    simp only [Move.slot] at htask hend
    simp only [move, htask] at hend
    cases hend
  | advance i e =>
    simp only [Move.slot] at htask hend
    simp only [move, htask, setTask, Function.update_self] at hend
    cases hend

/-- The other slots do not notice a move. -/
theorem task_move_of_ne {m : Move κ η} {p : Pool σ (Program Ans ε α)} {j : ℕ} (h : j ≠ m.slot) :
    (move code M m p).1.task j = p.task j := by
  cases m with
  | start i c =>
    rw [move]
    split
    · exact task_setTask_of_ne h
    · rfl
  | crash i => exact task_setTask_of_ne h
  | advance i e =>
    rw [move]
    split
    · rfl
    all_goals exact task_setTask_of_ne h

/-- A slot that no move is about stays as it is. -/
theorem task_runCalls_of_ne {ms : List (Move κ η)} {p : Pool σ (Program Ans ε α)} {j : ℕ}
    (h : ∀ m ∈ ms, m.slot ≠ j) :
    (TransitionSystem.runCalls (move code M) ms p).2.task j = p.task j := by
  induction ms generalizing p with
  | nil => rfl
  | cons m ms ih =>
    obtain ⟨hm, hms⟩ := List.forall_mem_cons.mp h
    exact (ih hms).trans (task_move_of_ne hm.symm)

theorem step_eq {s₀ : σ} {p p' : Pool σ (Program Ans ε α)} {m : Move κ η × Option (Except ε α)}
    (h : (interleaving s₀ code M).step p m p') : p' = (move code M m.1 p).1 :=
  (congrArg Prod.fst h).symm

/-- The outcome that a move delivers is that of the program in its slot. -/
theorem task_of_outcome {s₀ : σ} {p p' : Pool σ (Program Ans ε α)} {m : Move κ η} {r : Except ε α}
    (h : (interleaving s₀ code M).step p (m, some r) p') :
    p.task m.slot = some (Program.ofExcept r) := by
  have hr : (move code M m p).2 = some r := congrArg Prod.snd h
  cases m with
  | start i c =>
    simp only [move] at hr
    split at hr <;> cases hr
  | crash i => cases hr
  | advance i e =>
    simp only [move] at hr
    split at hr
    next => cases hr
    next htask =>
      cases hr
      exact htask
    next htask =>
      cases hr
      exact htask
    next => cases hr

/-- A program that is neither ended nor killed stays as it is, or makes its next call. -/
theorem task_of_quiet {s₀ : σ} {p p' : Pool σ (Program Ans ε α)}
    {m : Move κ η × Option (Except ε α)} {i : ℕ} {q : Program Ans ε α}
    (h : (interleaving s₀ code M).step p m p') (hq : p.task i = some q)
    (hquiet : m.1.slot = i → m.2 = none ∧ m.1 ≠ .crash i) :
    p'.task i = some q ∨ ∃ op e k, q = .call op k ∧ p.nextCall m.1 = some (i, op, e) ∧
      p'.task i = some (k (M.exec i op e p.store).2) := by
  have hres : (move code M m.1 p).2 = m.2 := congrArg Prod.snd h
  rw [step_eq h]
  obtain ⟨m, r⟩ := m
  by_cases hslot : i = m.slot
  · obtain ⟨rfl, hcrash⟩ := hquiet hslot.symm
    cases m with
    | crash j => exact absurd (congrArg Move.crash hslot.symm) hcrash
    | start j c =>
      obtain rfl : i = j := hslot
      simp only [move, hq]
      exact .inl trivial
    | advance j e =>
      obtain rfl : i = j := hslot
      cases q with
      | ret a =>
        simp only [move, hq] at hres
        cases hres
      | raise x =>
        simp only [move, hq] at hres
        cases hres
      | call op k =>
        refine .inr ⟨op, e, k, rfl, by simp only [nextCall, hq], ?_⟩
        simp only [move, hq, setTask, Function.update_self]
  · exact .inl ((task_move_of_ne hslot).trans hq)

/-- What every atomic call and every end of a process keeps, every move keeps. -/
theorem step_preserves {J : σ → Prop} (hexec : ∀ {s i op e}, J s → J (M.exec i op e s).1)
    (hclose : ∀ {s i}, J s → J (M.close i s)) {s₀ : σ} {p p' : Pool σ (Program Ans ε α)}
    {m : Move κ η × Option (Except ε α)} (h : (interleaving s₀ code M).step p m p')
    (hp : J p.store) : J p'.store := by
  rw [step_eq h]
  obtain ⟨-, hm⟩ | ⟨i, c, -, hm⟩ | ⟨i, op, e, k, -, -, hm⟩ | ⟨i, -, hm⟩ :=
    move_cases code M m.1 p
  all_goals rw [hm]
  · exact hp
  · exact hp
  · exact hexec hp
  · exact hclose hp

/-- What the started programs have and every rest of a program inherits, the running programs
have. -/
theorem hereditary_of_run {H : Program Ans ε α → Prop} {s₀ : σ} (hcode : ∀ c, H (code c))
    (hnext : ∀ {op k}, H (.call op k) → ∀ r, H (k r))
    {tr : List (Move κ η × Option (Except ε α))} {p : Pool σ (Program Ans ε α)}
    (h : (interleaving s₀ code M).Run tr p) : ∀ i q, p.task i = some q → H q := by
  refine TransitionSystem.Run.invariant (I := fun p ↦ ∀ i q, p.task i = some q → H q)
    (fun hinit ↦ ?_) (fun {p m p'} hall hstep ↦ ?_) h
  · intro i q hq
    rw [hinit] at hq
    cases hq
  · intro j q hq
    rw [step_eq hstep] at hq
    obtain ⟨-, hm⟩ | ⟨i, c, -, hm⟩ | ⟨i, op, e, k, -, htask, hm⟩ | ⟨i, -, hm⟩ :=
      move_cases code M m.1 p
    all_goals rw [hm] at hq
    · exact hall j q hq
    · obtain ⟨-, hold⟩ | ⟨-, hnew⟩ := setTask_eq_some hq
      · exact hall j q hold
      · exact Option.some.inj hnew ▸ hcode c
    · obtain ⟨-, hold⟩ | ⟨-, hnew⟩ := setTask_eq_some hq
      · exact hall j q hold
      · exact Option.some.inj hnew ▸ hnext (hall i _ htask) _
    · obtain ⟨-, hold⟩ | ⟨-, hnew⟩ := setTask_eq_some hq
      · exact hall j q hold
      · cases hnew

/-- Every running program makes only the calls the started programs can make. -/
theorem allCalls_of_run {P : Op → Prop} {s₀ : σ} (hcode : ∀ c, (code c).AllCalls P)
    {tr : List (Move κ η × Option (Except ε α))} {p : Pool σ (Program Ans ε α)}
    (h : (interleaving s₀ code M).Run tr p) :
    ∀ i q, p.task i = some q → q.AllCalls P :=
  hereditary_of_run hcode (fun hall r ↦ hall.next r) h

/-- What every call a program can make keeps, every run keeps. -/
theorem invariant_of_calls {I : σ → Prop} {P : Op → Prop} {s₀ : σ} (hinit : I s₀)
    (hcode : ∀ c, (code c).AllCalls P) (hexec : ∀ {s i op e}, I s → P op → I (M.exec i op e s).1)
    (hclose : ∀ {s i}, I s → I (M.close i s)) {tr : List (Move κ η × Option (Except ε α))}
    {p : Pool σ (Program Ans ε α)} (h : (interleaving s₀ code M).Run tr p) : I p.store := by
  refine TransitionSystem.Run.traceInvariant (I := fun _ p ↦ I p.store) (fun h ↦ ?_)
    (fun {tr p m p'} hrun hI hstep ↦ ?_) h
  · rw [h]
    exact hinit
  · rw [step_eq hstep]
    obtain ⟨-, hm⟩ | ⟨i, c, -, hm⟩ | ⟨i, op, e, k, -, htask, hm⟩ | ⟨i, -, hm⟩ :=
      move_cases code M m.1 p
    all_goals rw [hm]
    · exact hI
    · exact hI
    · exact hexec hI (allCalls_of_run hcode hrun i _ htask).op
    · exact hclose hI

/-- What every call that meets `C` does to the store, a path of such calls does. -/
theorem rel_of_restrict {R : σ → σ → Prop} {P : Op → Prop} {C : σ → ℕ × Op × η → Prop} {s₀ : σ}
    (hrefl : ∀ s, R s s) (htrans : ∀ {s s' s''}, R s s' → R s' s'' → R s s'')
    (hcode : ∀ c, (code c).AllCalls P)
    (hexec : ∀ {s i op e}, P op → C s (i, op, e) → R s (M.exec i op e s).1)
    (hclose : ∀ s i, R s (M.close i s)) {tr tr' : List (Move κ η × Option (Except ε α))}
    {p p' : Pool σ (Program Ans ε α)} (h : (interleaving s₀ code M).Run tr p)
    (hpath : ((interleaving s₀ code M).restrict
      fun p m ↦ ∀ x ∈ p.nextCall m.1, C p.store x).Path p tr' p') : R p.store p'.store := by
  induction hpath with
  | nil => exact hrefl _
  | @snoc q _ _ m hp hstep ih =>
    refine htrans ih ?_
    obtain ⟨hC, hstep⟩ := hstep
    have hall := allCalls_of_run hcode (h.extend hp.of_restrict)
    rw [step_eq hstep]
    obtain ⟨-, hm⟩ | ⟨i, c, -, hm⟩ | ⟨i, op, e, k, hcall, htask, hm⟩ | ⟨i, -, hm⟩ :=
      move_cases code M m.1 q
    all_goals rw [hm]
    · exact hrefl _
    · exact hrefl _
    · exact hexec (hall i _ htask).op (hC _ hcall)
    · exact hclose _ i

/-- **The exact invariant rule.** Suppose the call a reachable pool is about to perform keeps the
invariant of the store exactly when it meets `C`. Then the invariant holds in every run whose calls
meet `C`, and the first call that does not meet `C` breaks it. -/
theorem invariant_iff_of_task {I : σ → Prop} {C : σ → ℕ × Op × η → Prop} {s₀ : σ} (hinit : I s₀)
    (hexec : ∀ {tr p i op k e}, (interleaving s₀ code M).Run tr p →
      p.task i = some (.call op k) → I p.store →
      (I (M.exec i op e p.store).1 ↔ C p.store (i, op, e)))
    (hclose : ∀ {s i}, I s → I (M.close i s))
    {tr : List (Move κ η × Option (Except ε α))} {p : Pool σ (Program Ans ε α)}
    (h : ((interleaving s₀ code M).restrict
      fun p m ↦ ∀ x ∈ p.nextCall m.1, C p.store x).Run tr p) :
    I p.store ∧ ∀ m p', (interleaving s₀ code M).step p m p' →
      (I p'.store ↔ ∀ x ∈ p.nextCall m.1, C p.store x) := by
  have hmove : ∀ {tr p}, (interleaving s₀ code M).Run tr p → I p.store →
      ∀ m p', (interleaving s₀ code M).step p m p' →
      (I p'.store ↔ ∀ x ∈ p.nextCall m.1, C p.store x) := by
    intro tr p hrun hI m p' hstep
    rw [step_eq hstep]
    obtain ⟨hcall, hm⟩ | ⟨i, c, hcall, hm⟩ | ⟨i, op, e, k, hcall, htask, hm⟩ | ⟨i, hcall, hm⟩ :=
      move_cases code M m.1 p
    all_goals rw [hm, hcall]
    · exact iff_of_true hI fun x hx ↦ nomatch hx
    · exact iff_of_true hI fun x hx ↦ nomatch hx
    · change I (M.exec i op e p.store).1 ↔ _
      rw [hexec hrun htask hI]
      constructor
      · intro hC x hx
        cases hx
        exact hC
      · intro hC
        exact hC (i, op, e) rfl
    · exact iff_of_true (hclose hI) fun x hx ↦ nomatch hx
  have hinv : I p.store := by
    refine TransitionSystem.Run.traceInvariant (I := fun _ p ↦ I p.store) (fun h ↦ ?_)
      (fun {tr p m p'} hrun hI hstep ↦ ?_) h
    · rw [h]
      exact hinit
    · exact (hmove hrun.of_restrict hI m p' hstep.2).mpr hstep.1
  exact ⟨hinv, hmove h.of_restrict hinv⟩

/-- **The invariant rule for pools.** Suppose a call that satisfies `P` keeps the invariant of the
store exactly when it meets `C`. Then the invariant holds in every run whose calls meet `C`, and the
first call that does not meet `C` breaks it. -/
theorem invariant_iff {I : σ → Prop} {P : Op → Prop} {C : σ → ℕ × Op × η → Prop} {s₀ : σ}
    (hinit : I s₀) (hcode : ∀ c, (code c).AllCalls P)
    (hexec : ∀ {s i op e}, I s → P op → (I (M.exec i op e s).1 ↔ C s (i, op, e)))
    (hclose : ∀ {s i}, I s → I (M.close i s))
    {tr : List (Move κ η × Option (Except ε α))} {p : Pool σ (Program Ans ε α)}
    (h : ((interleaving s₀ code M).restrict
      fun p m ↦ ∀ x ∈ p.nextCall m.1, C p.store x).Run tr p) :
    I p.store ∧ ∀ m p', (interleaving s₀ code M).step p m p' →
      (I p'.store ↔ ∀ x ∈ p.nextCall m.1, C p.store x) :=
  invariant_iff_of_task hinit
    (fun hrun htask hI ↦ hexec hI (allCalls_of_run hcode hrun _ _ htask).op) hclose h

end Moves

end Pool

end ReqSys
