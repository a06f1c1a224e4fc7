import ReqSys.Foundation.Answers

/-!
# Obligations

A program may store something that is only half of what it is to do, and then owe the other half: it
has to come to a certain answer before it returns. `Program.Obliged` says that it will, as long as
the answers it gets are possible, and `Program.Obliges` that a program takes on an obligation with
every answer that triggers one.

The store records which process has open obligations. `Pool.Charged` says of each of them that the
process still works on it, or that it is met and the process only has to return; so an obligation is
forgotten by a crash, or else by an answer that is not possible.
-/

namespace ReqSys

variable {Op : Type} {Ans : Op → Type} {ε α β κ σ η ι : Type}

namespace Program

/-- The program returns a value that satisfies `Q`. -/
def Returns (Q : α → Prop) (p : Program Ans ε α) : Prop := ∃ a, p = ret a ∧ Q a

/-- Under possible answers the program comes to one that is `done`, and then returns a value that
satisfies `Q`. Its calls satisfy `P`. -/
def Obliged (possible done : ∀ op, Except ε (Ans op) → Prop) (P : Op → Prop) (Q : α → Prop) :
    Program Ans ε α → Prop
  | ret _ => False
  | raise _ => False
  | call op k => P op ∧ ∀ r, possible op r →
      (done op r ∧ (k r).Returns Q) ∨ (k r).Obliged possible done P Q

/-- After an answer that triggers an obligation, the program is obliged; as long as all answers
fit. -/
def Obliges (fits : ∀ op, Except ε (Ans op) → Prop)
    (trigger possible done : ι → ∀ op, Except ε (Ans op) → Prop) (P : ι → Op → Prop)
    (Q : α → Prop) : Program Ans ε α → Prop
  | ret _ => True
  | raise _ => True
  | call op k => ∀ r, fits op r →
      (∀ x, trigger x op r → (k r).Obliged (possible x) (done x) (P x) Q) ∧
        (k r).Obliges fits trigger possible done P Q

theorem Returns.bind {Q : α → Prop} {R : β → Prop} {p : Program Ans ε α} {f : α → Program Ans ε β}
    (hp : p.Returns Q) (hf : ∀ a, Q a → (f a).Returns R) : (p >>= f).Returns R := by
  obtain ⟨a, rfl, ha⟩ := hp
  exact hf a ha

theorem Returns.attempt {Q : α → Prop} {p : Program Ans ε α} (hp : p.Returns Q) :
    p.attempt.Returns fun r ↦ ∃ a, r = .ok a ∧ Q a := by
  obtain ⟨a, rfl, ha⟩ := hp
  exact ⟨.ok a, rfl, a, rfl, ha⟩

/-- After an answer in `C` the program returns at once, with a value that satisfies `Q`. -/
def EndsAfter (C : ∀ op, Except ε (Ans op) → Prop) (Q : α → Prop) : Program Ans ε α → Prop
  | ret _ => True
  | raise _ => True
  | call op k => ∀ r, (C op r → (k r).Returns Q) ∧ (k r).EndsAfter C Q

namespace EndsAfter

variable {C : ∀ op, Except ε (Ans op) → Prop} {P : Op → Prop} {Q : α → Prop} {R : β → Prop}

theorem of_allCalls {p : Program Ans ε α} (hp : p.AllCalls fun op ↦ ∀ r, ¬C op r) :
    p.EndsAfter C Q := by
  induction hp with
  | ret a => exact trivial
  | raise x => exact trivial
  | call hop _ ih => exact fun r ↦ ⟨fun h ↦ absurd h (hop r), ih r⟩

/-- The rest only returns, as far as the first part may have ended. -/
theorem bind {p : Program Ans ε α} {f : α → Program Ans ε β} (hp : p.EndsAfter C Q)
    (hf : ∀ a, (f a).EndsAfter C R) (hreturns : ∀ a, Q a → (f a).Returns R) :
    (p >>= f).EndsAfter C R := by
  change (p.bind f).EndsAfter C R
  induction p with
  | ret a => exact hf a
  | raise x => exact trivial
  | call op k ih => exact fun r ↦ ⟨fun h ↦ ((hp r).1 h).bind hreturns, ih r (hp r).2⟩

/-- What is before the bind does not end. -/
theorem allCalls_bind {p : Program Ans ε α} {f : α → Program Ans ε β}
    (hp : p.AllCalls fun op ↦ ∀ r, ¬C op r) (hf : ∀ a, (f a).EndsAfter C R) :
    (p >>= f).EndsAfter C R :=
  (of_allCalls (Q := fun _ ↦ False) hp).bind hf fun _ h ↦ h.elim

/-- The call that ends, and the value that is returned then. -/
theorem perform_bind {op : Op} {f : Ans op → Program Ans ε β} (herror : ∀ x, ¬C op (.error x))
    (hok : ∀ a, (f a).Returns R) : (Program.perform op >>= f).EndsAfter C R := by
  intro r
  cases r with
  | error x => exact ⟨fun h ↦ absurd h (herror x), trivial⟩
  | ok a =>
    refine ⟨fun _ ↦ hok a, ?_⟩
    obtain ⟨b, hb, -⟩ := hok a
    change (f a).EndsAfter C R
    rw [hb]
    trivial

theorem attempt {p : Program Ans ε α} (hp : p.EndsAfter C Q) :
    p.attempt.EndsAfter C fun r ↦ ∃ a, r = .ok a ∧ Q a := by
  induction p with
  | ret a => exact trivial
  | raise x => exact trivial
  | call op k ih => exact fun r ↦ ⟨fun h ↦ ((hp r).1 h).attempt, ih r (hp r).2⟩

end EndsAfter

namespace Obliged

variable {possible done : ∀ op, Except ε (Ans op) → Prop} {P : Op → Prop} {Q : α → Prop}
  {R : β → Prop}

/-- What follows only returns. -/
theorem bind {p : Program Ans ε α} {f : α → Program Ans ε β} (hp : p.Obliged possible done P Q)
    (hf : ∀ a, Q a → (f a).Returns R) : (p >>= f).Obliged possible done P R := by
  change (p.bind f).Obliged possible done P R
  induction p with
  | ret a => exact hp.elim
  | raise x => exact hp.elim
  | call op k ih =>
    refine ⟨hp.1, fun r hr ↦ ?_⟩
    obtain ⟨hdone, hreturns⟩ | hobliged := hp.2 r hr
    · exact .inl ⟨hdone, hreturns.bind hf⟩
    · exact .inr (ih r hobliged)

theorem attempt {p : Program Ans ε α} (hp : p.Obliged possible done P Q) :
    p.attempt.Obliged possible done P fun r ↦ ∃ a, r = .ok a ∧ Q a := by
  induction p with
  | ret a => exact hp.elim
  | raise x => exact hp.elim
  | call op k ih =>
    refine ⟨hp.1, fun r hr ↦ ?_⟩
    obtain ⟨hdone, hreturns⟩ | hobliged := hp.2 r hr
    · exact .inl ⟨hdone, hreturns.attempt⟩
    · exact .inr (ih r hobliged)

/-- A call that is not the last one. -/
theorem perform_bind {op : Op} {f : Ans op → Program Ans ε β} (hop : P op)
    (hok : ∀ r, possible op r → ∃ a, r = .ok a ∧
      ((done op r ∧ (f a).Returns R) ∨ (f a).Obliged possible done P R)) :
    (Program.perform op >>= f).Obliged possible done P R := by
  refine ⟨hop, fun r hr ↦ ?_⟩
  obtain ⟨a, rfl, h⟩ := hok r hr
  exact h

end Obliged

namespace Obliges

variable {fits : ∀ op, Except ε (Ans op) → Prop}
  {trigger possible done : ι → ∀ op, Except ε (Ans op) → Prop} {P : ι → Op → Prop}
  {Q : α → Prop} {R : β → Prop}

/-- What triggers nothing. -/
theorem of_allCalls {p : Program Ans ε α} (hp : p.AllCalls fun op ↦ ∀ x r, ¬trigger x op r) :
    p.Obliges fits trigger possible done P Q := by
  induction hp with
  | ret a => exact trivial
  | raise x => exact trivial
  | call hop _ ih => exact fun r _ ↦ ⟨fun x h ↦ absurd h (hop x r), ih r⟩

theorem bind {p : Program Ans ε α} {f : α → Program Ans ε β}
    (hp : p.Obliges fits trigger possible done P Q) (hf : ∀ a, (f a).Obliges fits trigger possible done P R)
    (hreturns : ∀ a, Q a → (f a).Returns R) : (p >>= f).Obliges fits trigger possible done P R := by
  change (p.bind f).Obliges fits trigger possible done P R
  induction p with
  | ret a => exact hf a
  | raise x => exact trivial
  | call op k ih =>
    exact fun r hr ↦ ⟨fun x h ↦ ((hp r hr).1 x h).bind hreturns, ih r (hp r hr).2⟩

/-- What is before the bind triggers nothing. -/
theorem meets_bind {p : Program Ans ε α} {f : α → Program Ans ε β}
    (hp : p.Meets fits (fun op ↦ ∀ x r, ¬trigger x op r) Q)
    (hf : ∀ a, Q a → (f a).Obliges fits trigger possible done P R) :
    (p >>= f).Obliges fits trigger possible done P R := by
  change (p.bind f).Obliges fits trigger possible done P R
  induction p with
  | ret a => exact hf a hp
  | raise x => exact trivial
  | call op k ih => exact fun r hr ↦ ⟨fun x h ↦ absurd h (hp.1 x r), ih r (hp.2 r hr)⟩

/-- A call and what follows each of its answers. -/
theorem perform_bind {op : Op} {f : Ans op → Program Ans ε β}
    (herror : ∀ x e, ¬trigger x op (.error e))
    (hok : ∀ a, fits op (.ok a) →
      (∀ x, trigger x op (.ok a) → (f a).Obliged (possible x) (done x) (P x) R) ∧
        (f a).Obliges fits trigger possible done P R) :
    (Program.perform op >>= f).Obliges fits trigger possible done P R := by
  intro r hr
  cases r with
  | ok a => exact hok a hr
  | error e => exact ⟨fun x h ↦ absurd h (herror x e), trivial⟩

theorem attempt {p : Program Ans ε α} (hp : p.Obliges fits trigger possible done P Q) :
    p.attempt.Obliges fits trigger possible done P fun r ↦ ∃ a, r = .ok a ∧ Q a := by
  induction p with
  | ret a => exact trivial
  | raise x => exact trivial
  | call op k ih =>
    exact fun r hr ↦ ⟨fun x h ↦ ((hp r hr).1 x h).attempt, ih r (hp r hr).2⟩

end Obliges

end Program

namespace Pool

variable {code : κ → Program Ans ε α} {M : Machine Ans ε σ η}

/-- Every running program takes on its obligations. The process of every open one works on it, or
has met it and returns. -/
structure Charged (isOpen : σ → ℕ → ι → Prop) (paid : ι → σ → Prop)
    (fits : ∀ op, Except ε (Ans op) → Prop)
    (trigger possible done : ι → ∀ op, Except ε (Ans op) → Prop) (P : ι → Op → Prop) (Q : α → Prop)
    (p : Pool σ (Program Ans ε α)) : Prop where
  obliges : ∀ i q, p.task i = some q → q.Obliges fits trigger possible done P Q
  works : ∀ i x, isOpen p.store i x → ∃ q, p.task i = some q ∧
    (q.Obliged (possible x) (done x) (P x) Q ∨ (q.Returns Q ∧ paid x p.store))

/-- While an obligation is open, the next call of its process satisfies `P`. -/
theorem Charged.nextCall {isOpen : σ → ℕ → ι → Prop} {paid : ι → σ → Prop}
    {fits : ∀ op, Except ε (Ans op) → Prop}
    {trigger possible done : ι → ∀ op, Except ε (Ans op) → Prop} {P : ι → Op → Prop}
    {Q : α → Prop} {p : Pool σ (Program Ans ε α)} {m : Move κ η}
    (h : Charged isOpen paid fits trigger possible done P Q p) {i : ℕ} {op : Op} {e : η} {x : ι}
    (hnext : p.nextCall m = some (i, op, e)) (hopen : isOpen p.store i x) : P x op := by
  obtain ⟨k, hk⟩ := task_of_nextCall hnext
  obtain ⟨q, hq, hx⟩ := h.works i x hopen
  rw [hk] at hq
  cases hq
  obtain hobliged | ⟨⟨a, ha, -⟩, -⟩ := hx
  · exact hobliged.1
  · cases ha

/-- **One move.** The condition is on calls: the answer fits, and is a possible one if the process
has an open obligation. -/
theorem Charged.step {isOpen : σ → ℕ → ι → Prop} {paid : ι → σ → Prop}
    {fits : ∀ op, Except ε (Ans op) → Prop}
    {trigger possible done : ι → ∀ op, Except ε (Ans op) → Prop} {P : ι → Op → Prop}
    {Q : α → Prop} {s₀ : σ} {p p' : Pool σ (Program Ans ε α)} {m : Move κ η × Option (Except ε α)}
    (hcode : ∀ c, (code c).Obliges fits trigger possible done P Q)
    (hclose : ∀ {s i j x}, isOpen (M.close i s) j x → j ≠ i ∧ isOpen s j x)
    (hpaid_close : ∀ {s i x}, paid x s → paid x (M.close i s))
    (hopen : ∀ {i op e s j x}, isOpen (M.exec i op e s).1 j x →
      isOpen s j x ∨ (j = i ∧ trigger x op (M.exec i op e s).2))
    (hpaid : ∀ {i op e s x}, paid x s → paid x (M.exec i op e s).1)
    (hdone : ∀ {i op e s x}, done x op (M.exec i op e s).2 → paid x (M.exec i op e s).1)
    (h : Charged isOpen paid fits trigger possible done P Q p)
    (hstep : (interleaving s₀ code M).step p m p')
    (hcall : ∀ {i op e}, p.nextCall m.1 = some (i, op, e) → fits op (M.exec i op e p.store).2 ∧
      ∀ x, isOpen p.store i x → possible x op (M.exec i op e p.store).2) :
    Charged isOpen paid fits trigger possible done P Q p' := by
  obtain rfl := step_eq hstep
  obtain ⟨-, hm⟩ | ⟨i, c, -, hidle, hm⟩ | ⟨i, op, e, k, hnext, htask, hm⟩ | ⟨-, hm⟩ :=
    move_forms code M m.1 p
  all_goals rw [hm]
  · exact h
  · refine ⟨fun j q hq ↦ ?_, fun j x hj ↦ ?_⟩
    · obtain ⟨-, hold⟩ | ⟨-, hnew⟩ := setTask_eq_some hq
      · exact h.obliges j q hold
      · exact Option.some.inj hnew ▸ hcode c
    · -- the slot of a new program had no obligations
      obtain ⟨q, hq, hx⟩ := h.works j x hj
      refine ⟨q, (task_setTask_of_ne fun hji ↦ ?_).trans hq, hx⟩
      rw [hji, hidle] at hq
      cases hq
  · obtain ⟨hfits, hpossible⟩ := hcall hnext
    have hrest := h.obliges i _ htask _ hfits
    refine ⟨fun j q hq ↦ ?_, fun j x hj ↦ ?_⟩
    · obtain ⟨-, hold⟩ | ⟨-, hnew⟩ := setTask_eq_some hq
      · exact h.obliges j q hold
      · exact Option.some.inj hnew ▸ hrest.2
    · by_cases hji : j = i
      · subst hji
        refine ⟨_, Function.update_self j _ _, ?_⟩
        obtain hold | ⟨-, htrigger⟩ := hopen hj
        · obtain ⟨q, hq, hx⟩ := h.works j x hold
          rw [htask] at hq
          cases hq
          obtain hobliged | ⟨⟨a, ha, -⟩, -⟩ := hx
          · obtain ⟨hd, hreturns⟩ | hobliged := hobliged.2 _ (hpossible x hold)
            · exact .inr ⟨hreturns, hdone hd⟩
            · exact .inl hobliged
          · cases ha
        · exact .inl (hrest.1 x htrigger)
      · obtain ⟨q, hq, hx⟩ := h.works j x ((hopen hj).resolve_right fun ht ↦ hji ht.1)
        exact ⟨q, (task_setTask_of_ne hji).trans hq, hx.imp_right fun hx ↦ ⟨hx.1, hpaid hx.2⟩⟩
  · refine ⟨fun j q hq ↦ ?_, fun j x hj ↦ ?_⟩
    · obtain ⟨-, hold⟩ | ⟨-, hnew⟩ := setTask_eq_some hq
      · exact h.obliges j q hold
      · cases hnew
    · obtain ⟨hji, hj⟩ := hclose hj
      obtain ⟨q, hq, hx⟩ := h.works j x hj
      exact ⟨q, (task_setTask_of_ne hji).trans hq,
        hx.imp_right fun hx ↦ ⟨hx.1, hpaid_close hx.2⟩⟩

end Pool

end ReqSys
