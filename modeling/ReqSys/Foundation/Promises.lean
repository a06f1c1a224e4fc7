import ReqSys.Foundation.Program

/-!
# Calls that promise another

Some calls leave the store half done, and the program is to make one more at once: it takes an item
out of one structure to put it into the next. `Program.Prompt` says that it does, and `Pool.Owed`
that every such call is either paid for by the store or about to be made. A crash in between is what
breaks it.
-/

namespace ReqSys

variable {Op : Type} {Ans : Op → Type} {ε α β κ σ η : Type}

namespace Program

/-- The program is about to make this call. -/
def Next (op : Op) : Program Ans ε α → Prop
  | call op' _ => op' = op
  | _ => False

/-- After a call that promises another, the program is about to make that one. -/
def Prompt (promises : (op : Op) → Except ε (Ans op) → Option Op) : Program Ans ε α → Prop
  | ret _ => True
  | raise _ => True
  | call op k => ∀ r, (∀ op' ∈ promises op r, (k r).Next op') ∧ (k r).Prompt promises

theorem Next.bind {op : Op} {p : Program Ans ε α} (h : p.Next op) (f : α → Program Ans ε β) :
    (p >>= f).Next op := by
  cases p with
  | call op' k => exact h
  | _ => exact h.elim

theorem Next.attempt {op : Op} {p : Program Ans ε α} (h : p.Next op) : p.attempt.Next op := by
  cases p with
  | call op' k => exact h
  | _ => exact h.elim

namespace Prompt

variable {promises : (op : Op) → Except ε (Ans op) → Option Op}

theorem bind {p : Program Ans ε α} {f : α → Program Ans ε β} (hp : p.Prompt promises)
    (hf : ∀ a, (f a).Prompt promises) : (p >>= f).Prompt promises := by
  change (p.bind f).Prompt promises
  induction p with
  | ret a => exact hf a
  | raise x => exact trivial
  | call op k ih => exact fun r ↦ ⟨fun op' h ↦ ((hp r).1 op' h).bind f, ih r (hp r).2⟩

theorem attempt {p : Program Ans ε α} (hp : p.Prompt promises) : p.attempt.Prompt promises := by
  induction p with
  | ret a => exact trivial
  | raise x => exact trivial
  | call op k ih => exact fun r ↦ ⟨fun op' h ↦ ((hp r).1 op' h).attempt, ih r (hp r).2⟩

theorem of_allCalls {p : Program Ans ε α} (hp : p.AllCalls fun op ↦ ∀ r, promises op r = none) :
    p.Prompt promises := by
  induction hp with
  | ret a => exact trivial
  | raise x => exact trivial
  | call hop _ ih =>
    refine fun r ↦ ⟨fun op' h ↦ ?_, ih r⟩
    rw [hop r] at h
    cases h

/-- A call and what follows each of its answers. -/
theorem perform_bind {op : Op} {f : Ans op → Program Ans ε β}
    (herror : ∀ x, promises op (.error x) = none)
    (hok : ∀ a, (∀ op' ∈ promises op (.ok a), (f a).Next op') ∧ (f a).Prompt promises) :
    (Program.perform op >>= f).Prompt promises := by
  intro r
  cases r with
  | ok a => exact hok a
  | error x =>
    refine ⟨fun op' h ↦ ?_, trivial⟩
    rw [herror] at h
    cases h

theorem forM {f : β → Program Ans ε PUnit} (hf : ∀ b, (f b).Prompt promises) (l : List β) :
    (l.forM f).Prompt promises := by
  induction l with
  | nil => exact trivial
  | cons b l ih => exact (hf b).bind fun _ ↦ ih

end Prompt

end Program

namespace Pool

variable {code : κ → Program Ans ε α} {M : Machine Ans ε σ η}

/-- A running program is about to make the call. -/
def About (p : Pool σ (Program Ans ε α)) (op : Op) : Prop :=
  ∃ i q, p.task i = some q ∧ q.Next op

/-- A program in another slot is about to make the call. -/
def OtherAbout (p : Pool σ (Program Ans ε α)) (i : ℕ) (op : Op) : Prop :=
  ∃ j q, j ≠ i ∧ p.task j = some q ∧ q.Next op

/-- Every call is paid for by the store, or about to be made. -/
def Owed (paid : Op → σ → Prop) (p : Pool σ (Program Ans ε α)) : Prop :=
  ∀ op, paid op p.store ∨ p.About op

theorem About.setTask {p : Pool σ (Program Ans ε α)} {s : σ} {i : ℕ}
    {t : Option (Program Ans ε α)} {op : Op} (h : p.OtherAbout i op) :
    (Pool.setTask ⟨s, p.task⟩ i t).About op := by
  obtain ⟨j, q, hj, hq, hnext⟩ := h
  exact ⟨j, q, (task_setTask_of_ne hj).trans hq, hnext⟩

/-- **One move.** The condition is on crashes of programs that owe a call, and on calls: what was
paid for, or is the call itself, is paid for afterwards, or promised by this call, or owed by
another. -/
theorem Owed.step {paid : Op → σ → Prop}
    {promises : (op : Op) → Except ε (Ans op) → Option Op} {s₀ : σ}
    {p p' : Pool σ (Program Ans ε α)} {m : Move κ η × Option (Except ε α)} (h : Owed paid p)
    (hprompt : ∀ i q, p.task i = some q → q.Prompt promises)
    (hclose : ∀ {op s i}, paid op s → paid op (M.close i s))
    (hstep : (interleaving s₀ code M).step p m p')
    (hcrash : ∀ {i op k}, m.1 = .crash i → p.task i = some (.call op k) →
      paid op p.store ∨ p.OtherAbout i op)
    (hcall : ∀ {i op e}, p.nextCall m.1 = some (i, op, e) → ∀ op', paid op' p.store ∨ op' = op →
      paid op' (M.exec i op e p.store).1 ∨ promises op (M.exec i op e p.store).2 = some op' ∨
        p.OtherAbout i op') : Owed paid p' := by
  obtain rfl := step_eq hstep
  obtain ⟨m, res⟩ := m
  -- a slot whose program owes nothing may be emptied
  have hend : ∀ i, (∀ op k, p.task i = some (.call op k) → paid op p.store ∨ p.OtherAbout i op) →
      Owed paid (setTask ⟨M.close i p.store, p.task⟩ i none) := by
    intro i hi op
    obtain hpaid | ⟨j, q, hq, hnext⟩ := h op
    · exact .inl (hclose hpaid)
    · by_cases hj : j = i
      · subst hj
        cases q with
        | call op' k =>
          cases (hnext : op' = op)
          obtain hpaid | hother := hi _ _ hq
          · exact .inl (hclose hpaid)
          · exact .inr (About.setTask hother)
        | _ => exact hnext.elim
      · exact .inr (About.setTask ⟨j, q, hj, hq, hnext⟩)
  cases m with
  | crash i => exact hend i fun op k ↦ hcrash rfl
  | start i c =>
    simp only [move]
    split
    next hidle =>
      intro op
      obtain hpaid | ⟨j, q, hq, hnext⟩ := h op
      · exact .inl hpaid
      · refine .inr (About.setTask ⟨j, q, fun hj ↦ ?_, hq, hnext⟩)
        rw [hj, hidle] at hq
        cases hq
    · exact h
  | advance i e =>
    rcases htask : p.task i with _ | (a | x | ⟨op, k⟩)
    · simp only [move, htask]
      exact h
    · simp only [move, htask]
      exact hend i fun op k hk ↦ by rw [htask] at hk; cases hk
    · simp only [move, htask]
      exact hend i fun op k hk ↦ by rw [htask] at hk; cases hk
    · simp only [move, htask]
      intro op'
      have hnext : p.nextCall (Move.advance i e : Move κ η) = some (i, op, e) := by
        simp only [nextCall, htask]
      have hdone : (paid op' p.store ∨ op' = op) → paid op' (M.exec i op e p.store).1 ∨
          About (setTask ⟨(M.exec i op e p.store).1, p.task⟩ i
            (some (k (M.exec i op e p.store).2))) op' := by
        intro hop'
        obtain hpaid | hpromised | hother := hcall hnext op' hop'
        · exact .inl hpaid
        · refine .inr ⟨i, _, Function.update_self i _ _, ?_⟩
          exact (hprompt i _ htask _).1 op' hpromised
        · exact .inr (About.setTask hother)
      obtain hpaid | ⟨j, q, hq, hj⟩ := h op'
      · exact hdone (.inl hpaid)
      · by_cases hji : j = i
        · subst hji
          rw [htask] at hq
          cases hq
          exact hdone (.inr hj.symm)
        · exact .inr (About.setTask ⟨j, q, hji, hq, hj⟩)

end Pool

end ReqSys
