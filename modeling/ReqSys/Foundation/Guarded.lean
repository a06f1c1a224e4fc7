import ReqSys.Foundation.RelyGuarantee

/-!
# Conditions on calls

A run whose calls all meet a condition is a run on a machine that refuses the other calls: refusing
raises an exception and leaves the store alone. So what is proved for all runs on the guarded
machine, by a discipline say, holds for the runs that meet the condition.
-/

namespace ReqSys

variable {Op : Type} {Ans : Op → Type} {ε α κ σ η : Type}

open Classical in
/-- The machine that refuses the calls that do not meet the condition. -/
noncomputable def Machine.guard (M : Machine Ans ε σ η) (C : σ → ℕ × Op × η → Prop) (x : ε) :
    Machine Ans ε σ η where
  exec i op e s := if C s (i, op, e) then M.exec i op e s else (s, .error x)
  close := M.close

theorem Machine.guard_exec_cases (M : Machine Ans ε σ η) (C : σ → ℕ × Op × η → Prop) (x : ε)
    (i : ℕ) (op : Op) (e : η) (s : σ) :
    (C s (i, op, e) ∧ (M.guard C x).exec i op e s = M.exec i op e s) ∨
      (M.guard C x).exec i op e s = (s, .error x) := by
  by_cases h : C s (i, op, e)
  · exact .inl ⟨h, if_pos h⟩
  · exact .inr (if_neg h)

namespace Pool

variable {code : κ → Program Ans ε α} {M : Machine Ans ε σ η} {C : σ → ℕ × Op × η → Prop} {s₀ : σ}

/-- A move whose call meets the condition is the same on both machines. -/
theorem move_guard (x : ε) {m : Move κ η} {p : Pool σ (Program Ans ε α)}
    (h : ∀ c ∈ p.nextCall m, C p.store c) : move code (M.guard C x) m p = move code M m p := by
  cases m with
  | start i c => rfl
  | crash i => rfl
  | advance i e =>
    rcases htask : p.task i with _ | (a | y | ⟨op, k⟩)
    · simp only [move, htask]
    · simp only [move, htask, Machine.guard]
    · simp only [move, htask, Machine.guard]
    · have hnext : p.nextCall (κ := κ) (.advance i e) = some (i, op, e) := by
        simp only [nextCall, htask]
      have hexec : (M.guard C x).exec i op e p.store = M.exec i op e p.store :=
        if_pos (h (i, op, e) hnext)
      simp only [move, htask, hexec]

theorem step_guard (x : ε) {p p' : Pool σ (Program Ans ε α)} {m : Move κ η × Option (Except ε α)}
    (h : ((interleaving s₀ code M).restrict fun p m ↦ ∀ c ∈ p.nextCall m.1, C p.store c).step
      p m p') : (interleaving s₀ code (M.guard C x)).step p m p' :=
  (move_guard x h.1).trans h.2

/-- **Runs that meet the condition** are runs on the guarded machine. -/
theorem run_guard (x : ε) {tr : List (Move κ η × Option (Except ε α))}
    {p : Pool σ (Program Ans ε α)}
    (h : ((interleaving s₀ code M).restrict fun p m ↦ ∀ c ∈ p.nextCall m.1, C p.store c).Run tr p) :
    (interleaving s₀ code (M.guard C x)).Run tr p := by
  refine TransitionSystem.Run.traceInvariant
    (I := fun tr p ↦ (interleaving s₀ code (M.guard C x)).Run tr p) (fun hinit ↦ ?_)
    (fun _ hrun hstep ↦ hrun.snoc (step_guard x hstep)) h
  exact .start hinit

end Pool

end ReqSys
