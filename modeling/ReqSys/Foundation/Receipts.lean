import ReqSys.Foundation.Program
import Mathlib.Data.Finset.Card

/-!
# Results that the store accounts for

A program whose success has to be paid for, by a call with a certain answer, cannot succeed more
often than the store has been paid. `Program.Unpaid` says that a program does not return a value in
`Q` before such a call, and `Pool.countP_outcome_le` bounds the number of results in `Q` that a run
delivers by what the store has counted. A crash after the payment only makes the results fewer.
-/

namespace ReqSys

variable {Op : Type} {Ans : Op → Type} {ε α β κ σ η : Type}

namespace Program

/-- A value in `Q` is not returned before an answer that pays for it. -/
inductive Unpaid (pays : ∀ op, Except ε (Ans op) → Prop) (Q : α → Prop) : Program Ans ε α → Prop
  | ret {a : α} : ¬Q a → Unpaid pays Q (ret a)
  | raise (x : ε) : Unpaid pays Q (raise x)
  | call {op : Op} {k : Except ε (Ans op) → Program Ans ε α} :
      (∀ r, ¬pays op r → Unpaid pays Q (k r)) → Unpaid pays Q (call op k)

namespace Unpaid

variable {pays : ∀ op, Except ε (Ans op) → Prop} {Q : α → Prop} {Q' : β → Prop}

theorem not_of_ret {a : α} (h : (Program.ret a : Program Ans ε α).Unpaid pays Q) : ¬Q a := by
  cases h with
  | ret h => exact h

theorem next {op : Op} {k : Except ε (Ans op) → Program Ans ε α}
    (h : (Program.call op k).Unpaid pays Q) {r : Except ε (Ans op)} (hr : ¬pays op r) :
    (k r).Unpaid pays Q := by
  cases h with
  | call hk => exact hk r hr

theorem bind {p : Program Ans ε α} {f : α → Program Ans ε β} (hp : p.Unpaid pays Q)
    (hf : ∀ a, ¬Q a → (f a).Unpaid pays Q') : (p >>= f).Unpaid pays Q' := by
  change (p.bind f).Unpaid pays Q'
  induction hp with
  | ret ha => exact hf _ ha
  | raise x => exact .raise x
  | call _ ih => exact .call ih

/-- Where the rest does not return a value in `Q'` before it has paid. -/
theorem of_rest {p : Program Ans ε α} {f : α → Program Ans ε β}
    (hf : ∀ a, (f a).Unpaid pays Q') : (p >>= f).Unpaid pays Q' := by
  change (p.bind f).Unpaid pays Q'
  induction p with
  | ret a => exact hf a
  | raise x => exact .raise x
  | call op k ih => exact .call fun r _ ↦ ih r

/-- A call that pays with every answer. -/
theorem perform_bind {op : Op} {f : Ans op → Program Ans ε β} (hop : ∀ a, pays op (.ok a)) :
    (perform op >>= f).Unpaid pays Q' := by
  refine .call fun r hr ↦ ?_
  cases r with
  | ok a => exact absurd (hop a) hr
  | error x => exact .raise x

end Unpaid

end Program

namespace Pool

variable {M : Machine Ans ε σ η} {code : κ → Program Ans ε α} {s₀ : σ}
  {pays : ∀ op, Except ε (Ans op) → Prop} {Q : α → Prop} {count : σ → ℕ}

/-- The slots outside `S` have not paid. -/
def Due (pays : ∀ op, Except ε (Ans op) → Prop) (Q : α → Prop) (S : Finset ℕ)
    (p : Pool σ (Program Ans ε α)) : Prop :=
  ∀ i q, p.task i = some q → i ∉ S → q.Unpaid pays Q

/-- The result of a move is in `Q`. -/
def Delivers (Q : α → Prop) (m : Move κ η × Option (Except ε α)) : Prop :=
  ∃ a, m.2 = some (.ok a) ∧ Q a

theorem eq_of_outcome {p p' : Pool σ (Program Ans ε α)} {m : Move κ η} {r : Except ε α}
    (h : (interleaving s₀ code M).step p (m, some r) p') :
    p' = setTask ⟨M.close m.slot p.store, p.task⟩ m.slot none := by
  have htask := task_of_outcome h
  have hr : (move code M m p).2 = some r := congrArg Prod.snd h
  rw [step_eq h]
  cases m with
  | start i c =>
    simp only [Move.slot] at htask
    simp only [move, htask] at hr
    cases hr
  | crash i => rfl
  | advance i e =>
    simp only [Move.slot] at htask
    cases r <;> simp only [move, htask, Program.ofExcept, Move.slot]

/-- Clearing a slot, or giving it to a program that has not paid. -/
theorem Due.setTask {p : Pool σ (Program Ans ε α)} {S : Finset ℕ} (hS : Due pays Q S p) (s : σ)
    (i : ℕ) {t : Option (Program Ans ε α)} (ht : ∀ q, t = some q → q.Unpaid pays Q) :
    Due pays Q (S.erase i) (setTask ⟨s, p.task⟩ i t) := by
  intro j q hq hj
  obtain ⟨hne, hold⟩ | ⟨rfl, hnew⟩ := setTask_eq_some hq
  · exact hS j q hold fun hmem ↦ hj (Finset.mem_erase.mpr ⟨hne, hmem⟩)
  · exact ht q hnew

open Classical in
/-- One move: the results that it delivers and the slots that have paid and not returned. -/
theorem Due.step (hexec : ∀ i op e s, count s ≤ count (M.exec i op e s).1 ∧
      (pays op (M.exec i op e s).2 → count s + 1 ≤ count (M.exec i op e s).1))
    (hclose : ∀ i s, count s ≤ count (M.close i s)) (hcode : ∀ c, (code c).Unpaid pays Q)
    {p p' : Pool σ (Program Ans ε α)} {m : Move κ η × Option (Except ε α)}
    (h : (interleaving s₀ code M).step p m p') {S : Finset ℕ} (hS : Due pays Q S p) :
    ∃ S', Due pays Q S' p' ∧
      (if Delivers Q m then 1 else 0) + S'.card + count p.store ≤ S.card + count p'.store := by
  by_cases hdeliver : Delivers Q m
  · -- the slot has paid, and is free now
    obtain ⟨a, hm, hQ⟩ := hdeliver
    obtain ⟨m, r⟩ := m
    obtain rfl : r = some (.ok a) := hm
    have hmem : m.slot ∈ S := by
      by_contra hmem
      exact (hS _ _ (task_of_outcome h) hmem).not_of_ret hQ
    rw [eq_of_outcome h, if_pos ⟨a, rfl, hQ⟩]
    refine ⟨S.erase m.slot, hS.setTask _ _ fun q hq ↦ (by cases hq), ?_⟩
    have hcard := Finset.card_erase_add_one hmem
    have hcount := hclose m.slot p.store
    change 1 + (S.erase m.slot).card + count p.store ≤ S.card + count (M.close m.slot p.store)
    omega
  · rw [if_neg hdeliver, step_eq h]
    obtain ⟨-, hm⟩ | ⟨i, c, -, -, hm⟩ | ⟨i, op, e, k, -, htask, hm⟩ | ⟨-, hm⟩ :=
      move_forms code M m.1 p
    all_goals rw [hm]
    · exact ⟨S, hS, by omega⟩
    · refine ⟨S.erase i, hS.setTask p.store i fun q hq ↦ Option.some.inj hq ▸ hcode c, ?_⟩
      have hcard := Finset.card_erase_le (s := S) (a := i)
      change 0 + (S.erase i).card + count p.store ≤ S.card + count p.store
      omega
    · obtain ⟨hcount, hpaid⟩ := hexec i op e p.store
      by_cases hpays : pays op (M.exec i op e p.store).2
      · refine ⟨insert i S, fun j q hq hj ↦ ?_, ?_⟩
        · obtain ⟨-, hold⟩ | ⟨rfl, -⟩ := setTask_eq_some hq
          · exact hS j q hold fun hmem ↦ hj (Finset.mem_insert_of_mem hmem)
          · exact absurd (Finset.mem_insert_self _ S) hj
        · have hcard := Finset.card_insert_le i S
          have hpaid := hpaid hpays
          change 0 + (insert i S).card + count p.store
            ≤ S.card + count (M.exec i op e p.store).1
          omega
      · refine ⟨S, fun j q hq hj ↦ ?_, ?_⟩
        · obtain ⟨-, hold⟩ | ⟨rfl, hnew⟩ := setTask_eq_some hq
          · exact hS j q hold hj
          · exact Option.some.inj hnew ▸ (hS _ _ htask hj).next hpays
        · change 0 + S.card + count p.store ≤ S.card + count (M.exec i op e p.store).1
          omega
    · refine ⟨S.erase m.1.slot, hS.setTask _ _ fun q hq ↦ (by cases hq), ?_⟩
      have hcard := Finset.card_erase_le (s := S) (a := m.1.slot)
      have hcount := hclose m.1.slot p.store
      change 0 + (S.erase m.1.slot).card + count p.store
        ≤ S.card + count (M.close m.1.slot p.store)
      omega

open Classical in
/-- **A run delivers no more results than the store has counted.** -/
theorem countP_delivers_le (hexec : ∀ i op e s, count s ≤ count (M.exec i op e s).1 ∧
      (pays op (M.exec i op e s).2 → count s + 1 ≤ count (M.exec i op e s).1))
    (hclose : ∀ i s, count s ≤ count (M.close i s)) (hcode : ∀ c, (code c).Unpaid pays Q)
    {tr : List (Move κ η × Option (Except ε α))} {p : Pool σ (Program Ans ε α)}
    (h : (interleaving s₀ code M).Run tr p) :
    tr.countP (fun m ↦ decide (Delivers Q m)) ≤ count p.store := by
  -- besides, each slot that has paid and not returned is accounted for
  have hall : ∃ S, Due pays Q S p ∧
      tr.countP (fun m ↦ decide (Delivers Q m)) + S.card ≤ count p.store := by
    refine TransitionSystem.Run.traceInvariant (I := fun tr p ↦ ∃ S, Due pays Q S p ∧
      tr.countP (fun m ↦ decide (Delivers Q m)) + S.card ≤ count p.store) (fun hinit ↦ ?_)
      (fun {tr p m p'} _ hI hstep ↦ ?_) h
    · refine ⟨∅, fun i q hq ↦ ?_, Nat.zero_le _⟩
      rw [hinit] at hq
      cases hq
    · obtain ⟨S, hS, hle⟩ := hI
      obtain ⟨S', hS', hle'⟩ := Due.step hexec hclose hcode hstep hS
      refine ⟨S', hS', ?_⟩
      rw [List.countP_append, List.countP_singleton]
      simp only [decide_eq_true_eq]
      omega
  obtain ⟨S, -, hle⟩ := hall
  omega

end Pool

end ReqSys
