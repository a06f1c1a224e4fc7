import ReqSys.Foundation.Program

/-!
# Programs under the answers that can occur

What a program does depends on the answers it gets, and not every answer is possible: a lookup
returns a row with the key that was asked for. `Program.Meets possible P Q` says of a program that,
as long as its answers are possible, its calls satisfy `P` and what it returns satisfies `Q`. It
composes along bind, the value of the first part being one that satisfies its postcondition.

Which answers are possible may depend on what the store will be at the end of a run, as long as the
stores of the past are in the same domain: `Pool.Meeting` is closed under moves that lead from the
domain only to the domain.

`Program.After` is about programs that change once: after an answer that triggers the change, the
rest meets another specification.
-/

namespace ReqSys

variable {Op : Type} {Ans : Op → Type} {ε α β κ σ η : Type}

namespace Program

/-! ## Answers that can occur -/

/-- Under possible answers the calls satisfy `P` and the values returned satisfy `Q`. -/
def Meets (possible : ∀ op, Except ε (Ans op) → Prop) (P : Op → Prop) (Q : α → Prop) :
    Program Ans ε α → Prop
  | ret a => Q a
  | raise _ => True
  | call op k => P op ∧ ∀ r, possible op r → (k r).Meets possible P Q

variable {possible : ∀ op, Except ε (Ans op) → Prop} {P P' : Op → Prop} {Q Q' : α → Prop}
  {R : β → Prop}

namespace Meets

theorem imp {p : Program Ans ε α} (hp : p.Meets possible P Q) (hP : ∀ op, P op → P' op)
    (hQ : ∀ a, Q a → Q' a) : p.Meets possible P' Q' := by
  induction p with
  | ret a => exact hQ a hp
  | raise x => exact trivial
  | call op k ih => exact ⟨hP op hp.1, fun r hr ↦ ih r (hp.2 r hr)⟩

theorem bind {p : Program Ans ε α} {f : α → Program Ans ε β} (hp : p.Meets possible P Q)
    (hf : ∀ a, Q a → (f a).Meets possible P R) : (p >>= f).Meets possible P R := by
  change (p.bind f).Meets possible P R
  induction p with
  | ret a => exact hf a hp
  | raise x => exact trivial
  | call op k ih => exact ⟨hp.1, fun r hr ↦ ih r (hp.2 r hr)⟩

theorem perform {op : Op} {Q : Ans op → Prop} (hop : P op)
    (hQ : ∀ a, possible op (.ok a) → Q a) :
    (Program.perform op : Program Ans ε (Ans op)).Meets possible P Q := by
  refine ⟨hop, fun r hr ↦ ?_⟩
  cases r with
  | ok a => exact hQ a hr
  | error x => exact trivial

theorem attempt {p : Program Ans ε α} (hp : p.Meets possible P Q) :
    p.attempt.Meets possible P fun r ↦ ∀ a, r = .ok a → Q a := by
  induction p with
  | ret a =>
    intro b hb
    cases hb
    exact hp
  | raise x => exact fun b hb ↦ nomatch hb
  | call op k ih => exact ⟨hp.1, fun r hr ↦ ih r (hp.2 r hr)⟩

theorem forM {f : β → Program Ans ε PUnit} {l : List β} {T : PUnit → Prop} (hT : T ⟨⟩)
    (hf : ∀ b ∈ l, (f b).Meets possible P fun _ ↦ True) : (l.forM f).Meets possible P T := by
  induction l with
  | nil => exact hT
  | cons b l ih =>
    obtain ⟨hb, hl⟩ := List.forall_mem_cons.mp hf
    exact hb.bind fun _ _ ↦ ih hl

theorem of_allCalls {p : Program Ans ε α} (hp : p.AllCalls P) :
    p.Meets possible P fun _ ↦ True := by
  induction hp with
  | ret a => exact trivial
  | raise x => exact trivial
  | call hop _ ih => exact ⟨hop, fun r _ ↦ ih r⟩

end Meets

/-! ## After an answer -/

/-- The calls satisfy `P`; and after an answer that is a trigger they satisfy `P'`, and the values
returned satisfy `Q`, under the answers that are possible then. -/
def After (trigger : ∀ op, Except ε (Ans op) → Prop)
    (possible : Op → ∀ op, Except ε (Ans op) → Prop) (P P' : Op → Prop) (Q : α → Prop) :
    Program Ans ε α → Prop
  | ret _ => True
  | raise _ => True
  | call op k => P op ∧ ∀ r, (trigger op r → (k r).Meets (possible op) P' Q) ∧
      (¬trigger op r → (k r).After trigger possible P P' Q)

namespace After

variable {trigger : ∀ op, Except ε (Ans op) → Prop}
  {possible : Op → ∀ op, Except ε (Ans op) → Prop}

/-- What triggers nothing. -/
theorem of_allCalls {p : Program Ans ε α}
    (hp : p.AllCalls fun op ↦ P op ∧ ∀ r, ¬trigger op r) : p.After trigger possible P P' Q := by
  induction hp with
  | ret a => exact trivial
  | raise x => exact trivial
  | call hop _ ih => exact ⟨hop.1, fun r ↦ ⟨fun h ↦ absurd h (hop.2 r), fun _ ↦ ih r⟩⟩

theorem bind {p : Program Ans ε α} {f : α → Program Ans ε β}
    (hp : p.After trigger possible P P' Q) (hf : ∀ a, (f a).After trigger possible P P' R)
    (hmeets : ∀ a op, Q a → (f a).Meets (possible op) P' R) :
    (p >>= f).After trigger possible P P' R := by
  change (p.bind f).After trigger possible P P' R
  induction p with
  | ret a => exact hf a
  | raise x => exact trivial
  | call op k ih =>
    refine ⟨hp.1, fun r ↦ ⟨fun h ↦ ?_, fun h ↦ ih r ((hp.2 r).2 h)⟩⟩
    exact ((hp.2 r).1 h).bind fun a ha ↦ hmeets a op ha

theorem attempt {p : Program Ans ε α} (hp : p.After trigger possible P P' Q) :
    p.attempt.After trigger possible P P' fun r ↦ ∀ a, r = .ok a → Q a := by
  induction p with
  | ret a => exact trivial
  | raise x => exact trivial
  | call op k ih =>
    exact ⟨hp.1, fun r ↦ ⟨fun h ↦ ((hp.2 r).1 h).attempt, fun h ↦ ih r ((hp.2 r).2 h)⟩⟩

end After

end Program

namespace Pool

variable {code : κ → Program Ans ε α} {M : Machine Ans ε σ η}

/-! ## Running programs and possible answers -/

/-- If the store is in the domain, the running programs make only calls that satisfy `P`, and return
values that satisfy `Q`. -/
def MeetingTo (possible : ∀ op, Except ε (Ans op) → Prop) (P : Op → Prop) (Q : α → Prop)
    (Dom : σ → Prop) (p : Pool σ (Program Ans ε α)) : Prop :=
  Dom p.store → ∀ i q, p.task i = some q → q.Meets possible P Q

/-- **One move.** -/
theorem MeetingTo.step {possible : ∀ op, Except ε (Ans op) → Prop} {P : Op → Prop} {Q : α → Prop}
    {Dom : σ → Prop} {s₀ : σ} {p p' : Pool σ (Program Ans ε α)}
    {m : Move κ η × Option (Except ε α)} (hcode : ∀ c, (code c).Meets possible P Q)
    (h : MeetingTo possible P Q Dom p) (hstep : (interleaving s₀ code M).step p m p')
    (hdom : Dom p'.store → Dom p.store)
    (hpossible : ∀ {i op e}, p.nextCall m.1 = some (i, op, e) →
      Dom (M.exec i op e p.store).1 → possible op (M.exec i op e p.store).2) :
    MeetingTo possible P Q Dom p' := by
  obtain rfl := step_eq hstep
  obtain ⟨-, hm⟩ | ⟨i, c, -, hm⟩ | ⟨i, op, e, k, hnext, htask, hm⟩ | ⟨i, -, hm⟩ :=
    move_cases code M m.1 p
  all_goals rw [hm] at hdom ⊢
  · exact h
  all_goals
    intro hd j q hq
    obtain ⟨-, hold⟩ | ⟨-, hnew⟩ := setTask_eq_some hq
  · exact h (hdom hd) j q hold
  · cases hnew
    exact hcode c
  · exact h (hdom hd) j q hold
  · cases hnew
    exact (h (hdom hd) i _ htask).2 _ (hpossible hnext hd)
  · exact h (hdom hd) j q hold
  · cases hnew

/-- What a program returns, if the store is in the domain. -/
theorem MeetingTo.outcome {possible : ∀ op, Except ε (Ans op) → Prop} {P : Op → Prop} {Q : α → Prop}
    {Dom : σ → Prop} {s₀ : σ} {p p' : Pool σ (Program Ans ε α)} {m : Move κ η} {a : α}
    (h : MeetingTo possible P Q Dom p)
    (hstep : (interleaving s₀ code M).step p (m, some (.ok a)) p') (hd : Dom p.store) : Q a := by
  exact h hd m.slot _ (task_of_outcome hstep)

/-! ### One program -/

/-- The program in a slot makes only calls that satisfy `P`, and returns values that satisfy `Q`,
under possible answers. -/
def MeetingIn (possible : ∀ op, Except ε (Ans op) → Prop) (P : Op → Prop) (Q : α → Prop) (i : ℕ)
    (p : Pool σ (Program Ans ε α)) : Prop :=
  ∃ q, p.task i = some q ∧ q.Meets possible P Q

/-- The slot keeps its program as long as no move ends it. -/
theorem MeetingIn.step {possible : ∀ op, Except ε (Ans op) → Prop} {P : Op → Prop} {Q : α → Prop}
    {s₀ : σ} {i : ℕ} {p p' : Pool σ (Program Ans ε α)} {m : Move κ η × Option (Except ε α)}
    (h : MeetingIn possible P Q i p) (hstep : (interleaving s₀ code M).step p m p')
    (hquiet : m.1.slot = i → m.2 = none ∧ m.1 ≠ .crash i)
    (hpossible : ∀ {op e}, p.nextCall m.1 = some (i, op, e) →
      possible op (M.exec i op e p.store).2) : MeetingIn possible P Q i p' := by
  obtain ⟨q, hq, hmeets⟩ := h
  obtain hsame | ⟨op, e, k, rfl, hnext, htask⟩ := task_of_quiet hstep hq hquiet
  · exact ⟨q, hsame, hmeets⟩
  · exact ⟨_, htask, hmeets.2 _ (hpossible hnext)⟩

theorem MeetingIn.outcome {possible : ∀ op, Except ε (Ans op) → Prop} {P : Op → Prop} {Q : α → Prop}
    {s₀ : σ} {i : ℕ} {p p' : Pool σ (Program Ans ε α)} {m : Move κ η} {a : α}
    (h : MeetingIn possible P Q i p)
    (hstep : (interleaving s₀ code M).step p (m, some (.ok a)) p') (hslot : m.slot = i) : Q a := by
  obtain ⟨q, hq, hmeets⟩ := h
  rw [← hslot, task_of_outcome hstep] at hq
  cases hq
  exact hmeets

/-! ### All programs, for the calls only -/

/-- If the store is in the domain, the running programs make only calls that satisfy `P`. -/
def Meeting (possible : ∀ op, Except ε (Ans op) → Prop) (P : Op → Prop) (Dom : σ → Prop)
    (p : Pool σ (Program Ans ε α)) : Prop :=
  Dom p.store → ∀ i q, p.task i = some q → q.Meets possible P fun _ ↦ True

/-- **One move.** -/
theorem Meeting.step {possible : ∀ op, Except ε (Ans op) → Prop} {P : Op → Prop} {Dom : σ → Prop}
    {s₀ : σ} {p p' : Pool σ (Program Ans ε α)} {m : Move κ η × Option (Except ε α)}
    (hcode : ∀ c, (code c).Meets possible P fun _ ↦ True)
    (hpossible : ∀ {s i op e}, Dom s → possible op (M.exec i op e s).2)
    (h : Meeting possible P Dom p) (hstep : (interleaving s₀ code M).step p m p')
    (hdom : Dom p'.store → Dom p.store) : Meeting possible P Dom p' := by
  intro hd
  have hp : MeetingTo possible P (fun _ ↦ True) (fun _ ↦ Dom p'.store) p := fun _ ↦ h (hdom hd)
  exact hp.step hcode hstep id (fun _ _ ↦ hpossible (hdom hd)) hd

end Pool

end ReqSys
