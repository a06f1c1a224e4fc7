import ReqSys.Foundation.Answers

/-!
# Look before you act

A guarded program *looks* at the store and *acts* only if the answer permits it. Between the two
other processes run, so what was seen may be gone. A `Gate` names the calls of such a guard. A
program is `Shut` when it cannot act before it looks (again), and `Gated` when it stays shut after
every look that does not permit.

`Pool.Watched.step` is the rule: let `Ok` be what a permitting look finds in the store. Then every
program that is not shut runs over a store with `Ok`, as long as no call takes `Ok` away while there
is one. An acting program is not shut, so it acts over `Ok`.

Programs need not be gated against answers that cannot occur: `possible` says which ones can, on the
stores of a domain `Dom` that is closed towards the past.
-/

namespace ReqSys

variable {Op : Type} {Ans : Op → Type} {ε α β κ σ η : Type}

/-- The calls of a guard, the answers that permit, and the answers that can occur. -/
structure Gate (Ans : Op → Type) (ε : Type) where
  acts : Op → Prop
  looks : Op → Prop
  permits : ∀ op, Except ε (Ans op) → Prop
  possible : ∀ op, Except ε (Ans op) → Prop

namespace Gate

open Program

/-- The program does not act before it looks. -/
def Shut (G : Gate Ans ε) : Program Ans ε α → Prop
  | .ret _ => True
  | .raise _ => True
  | .call op k => ¬G.acts op ∧ (G.looks op ∨ ∀ r, G.possible op r → G.Shut (k r))

/-- The program stays shut after every look that does not permit. -/
def Gated (G : Gate Ans ε) : Program Ans ε α → Prop
  | .ret _ => True
  | .raise _ => True
  | .call op k => ∀ r, G.possible op r →
    G.Gated (k r) ∧ (G.looks op → ¬G.permits op r → G.Shut (k r))

/-- A program that has not looked yet. -/
def Ready (G : Gate Ans ε) (p : Program Ans ε α) : Prop := G.Shut p ∧ G.Gated p

variable {G : Gate Ans ε}

theorem Shut.bind {p : Program Ans ε α} {f : α → Program Ans ε β} (hp : G.Shut p)
    (hf : ∀ a, G.Shut (f a)) : G.Shut (p >>= f) := by
  change G.Shut (p.bind f)
  induction p with
  | ret a => exact hf a
  | raise x => exact trivial
  | call op k ih => exact ⟨hp.1, hp.2.imp_right fun hk r hr ↦ ih r (hk r hr)⟩

theorem Gated.bind {p : Program Ans ε α} {f : α → Program Ans ε β} (hp : G.Gated p)
    (hf : ∀ a, G.Ready (f a)) : G.Gated (p >>= f) := by
  change G.Gated (p.bind f)
  induction p with
  | ret a => exact (hf a).2
  | raise x => exact trivial
  | call op k ih =>
    intro r hr
    obtain ⟨hk, hshut⟩ := hp r hr
    exact ⟨ih r hk, fun hlook hpermit ↦ (hshut hlook hpermit).bind fun a ↦ (hf a).1⟩

/-- A program that never acts. -/
theorem Ready.of_not_acts {p : Program Ans ε α} (hp : p.AllCalls fun op ↦ ¬G.acts op) :
    G.Ready p := by
  induction hp with
  | ret a => exact ⟨trivial, trivial⟩
  | raise x => exact ⟨trivial, trivial⟩
  | call hop _ ih =>
    exact ⟨⟨hop, .inr fun r _ ↦ (ih r).1⟩, fun r _ ↦ ⟨(ih r).2, fun _ _ ↦ (ih r).1⟩⟩

/-- A program that never looks. -/
theorem Gated.of_not_looks {p : Program Ans ε α} (hp : p.AllCalls fun op ↦ ¬G.looks op) :
    G.Gated p := by
  induction hp with
  | ret a => exact trivial
  | raise x => exact trivial
  | call hop _ ih => exact fun r _ ↦ ⟨ih r, fun hlook ↦ absurd hlook hop⟩

theorem Ready.ret (a : α) : G.Ready (.ret a : Program Ans ε α) := ⟨trivial, trivial⟩

theorem Ready.raise (x : ε) : G.Ready (.raise x : Program Ans ε α) := ⟨trivial, trivial⟩

theorem Ready.bind {p : Program Ans ε α} {f : α → Program Ans ε β} (hp : G.Ready p)
    (hf : ∀ a, G.Ready (f a)) : G.Ready (p >>= f) :=
  ⟨hp.1.bind fun a ↦ (hf a).1, hp.2.bind hf⟩

/-- What follows a finished computation, given its value. -/
theorem Ready.ofExcept_bind {x : Except ε α} {f : α → Program Ans ε β}
    (hf : ∀ a, x = .ok a → G.Ready (f a)) : G.Ready (Program.ofExcept x >>= f) := by
  cases x with
  | ok a => exact hf a rfl
  | error e => exact Ready.raise e

/-- A call that does not act, followed by the rest. -/
theorem Ready.perform_bind {op : Op} {f : Ans op → Program Ans ε β} (hop : ¬G.acts op)
    (hf : ∀ a, G.possible op (.ok a) → G.Ready (f a)) : G.Ready (perform op >>= f) := by
  have hnext : ∀ r, G.possible op r → G.Ready ((Program.ofExcept r).bind f) := by
    intro r hr
    cases r with
    | ok a => exact hf a hr
    | error x => exact Ready.raise x
  exact ⟨⟨hop, .inr fun r hr ↦ (hnext r hr).1⟩,
    fun r hr ↦ ⟨(hnext r hr).2, fun _ _ ↦ (hnext r hr).1⟩⟩

/-- **The look**, followed by a program that goes on only if the answer permits. -/
theorem Ready.look_bind {op : Op} {f : Ans op → Program Ans ε β} (hop : ¬G.acts op)
    (hlook : G.looks op) (hgated : ∀ a, G.Gated (f a))
    (hshut : ∀ a, ¬G.permits op (.ok a) → G.Shut (f a)) : G.Ready (perform op >>= f) := by
  refine ⟨⟨hop, .inl hlook⟩, fun r hr ↦ ?_⟩
  cases r with
  | ok a => exact ⟨hgated a, fun _ hpermit ↦ hshut a hpermit⟩
  | error x => exact ⟨trivial, fun _ _ ↦ trivial⟩

theorem Shut.attempt {p : Program Ans ε α} (hp : G.Shut p) : G.Shut p.attempt := by
  induction p with
  | ret a => exact trivial
  | raise x => exact trivial
  | call op k ih => exact ⟨hp.1, hp.2.imp_right fun hk r hr ↦ ih r (hk r hr)⟩

theorem Gated.attempt {p : Program Ans ε α} (hp : G.Gated p) : G.Gated p.attempt := by
  induction p with
  | ret a => exact trivial
  | raise x => exact trivial
  | call op k ih =>
    intro r hr
    obtain ⟨hk, hshut⟩ := hp r hr
    exact ⟨ih r hk, fun hlook hpermit ↦ (hshut hlook hpermit).attempt⟩

theorem Ready.attempt {p : Program Ans ε α} (hp : G.Ready p) : G.Ready p.attempt :=
  ⟨hp.1.attempt, hp.2.attempt⟩

theorem Gated.perform (op : Op) : G.Gated (Program.perform op : Program Ans ε (Ans op)) := by
  intro r _
  cases r with
  | ok a => exact ⟨trivial, fun _ _ ↦ trivial⟩
  | error x => exact ⟨trivial, fun _ _ ↦ trivial⟩

/-- Any call, followed by a program that has not looked yet. -/
theorem Gated.perform_bind {op : Op} {f : Ans op → Program Ans ε β} (hf : ∀ a, G.Ready (f a)) :
    G.Gated (Program.perform op >>= f) := by
  have hnext : ∀ r, G.Ready ((Program.ofExcept r).bind f) := by
    intro r
    cases r with
    | ok a => exact hf a
    | error x => exact Ready.raise x
  exact fun r _ ↦ ⟨(hnext r).2, fun _ _ ↦ (hnext r).1⟩

/-- What follows a program that does not look may be open. -/
theorem Gated.bind_of_not_looks {p : Program Ans ε α} {f : α → Program Ans ε β}
    (hp : p.AllCalls fun op ↦ ¬G.looks op) (hf : ∀ a, G.Gated (f a)) : G.Gated (p >>= f) := by
  change G.Gated (p.bind f)
  induction hp with
  | ret a => exact hf a
  | raise x => exact trivial
  | call hop _ ih => exact fun r _ ↦ ⟨ih r, fun hlook ↦ absurd hlook hop⟩

/-! ### Guards inside of a part

The look may be made by one part of a program and the act by what follows it. Then the values that
the first part returns say whether a look has permitted: those it returns otherwise satisfy `Q`. -/

/-- The program is shut, and as long as no look permits it returns values with `Q`. -/
def ShutTo (G : Gate Ans ε) (Q : α → Prop) : Program Ans ε α → Prop
  | .ret a => Q a
  | .raise _ => True
  | .call op k => ¬G.acts op ∧ ∀ r, G.possible op r → (G.looks op ∧ G.permits op r) ∨ G.ShutTo Q (k r)

/-- After every look that does not permit, the program is shut, and as long as no look permits it
returns values with `Q`. -/
def GatedTo (G : Gate Ans ε) (Q : α → Prop) : Program Ans ε α → Prop
  | .ret _ => True
  | .raise _ => True
  | .call op k => ∀ r, G.possible op r →
    G.GatedTo Q (k r) ∧ (G.looks op → ¬G.permits op r → G.ShutTo Q (k r))

/-- A part that has not looked yet. -/
def ReadyTo (G : Gate Ans ε) (Q : α → Prop) (p : Program Ans ε α) : Prop :=
  G.ShutTo Q p ∧ G.GatedTo Q p

section To

variable {Q Q' : α → Prop} {R : β → Prop} {p : Program Ans ε α}

theorem ShutTo.shut (hp : G.ShutTo Q p) : G.Shut p := by
  induction p with
  | ret a => exact trivial
  | raise x => exact trivial
  | call op k ih =>
    refine ⟨hp.1, ?_⟩
    by_cases hlook : G.looks op
    · exact .inl hlook
    · exact .inr fun r hr ↦ ih r ((hp.2 r hr).resolve_left fun h ↦ hlook h.1)

theorem GatedTo.gated (hp : G.GatedTo Q p) : G.Gated p := by
  induction p with
  | ret a => exact trivial
  | raise x => exact trivial
  | call op k ih =>
    exact fun r hr ↦ ⟨ih r (hp r hr).1, fun hlook hpermit ↦ ((hp r hr).2 hlook hpermit).shut⟩

theorem ReadyTo.ready (hp : G.ReadyTo Q p) : G.Ready p := ⟨hp.1.shut, hp.2.gated⟩

/-- Every gated program is, with nothing to say about its values. -/
theorem ShutTo.of_ready (hp : G.Ready p) : G.ShutTo (fun _ ↦ True) p := by
  induction p with
  | ret a => exact trivial
  | raise x => exact trivial
  | call op k ih =>
    refine ⟨hp.1.1, fun r hr ↦ ?_⟩
    obtain ⟨hk, hclosed⟩ := hp.2 r hr
    by_cases hlook : G.looks op
    · by_cases hpermit : G.permits op r
      · exact .inl ⟨hlook, hpermit⟩
      · exact .inr (ih r ⟨hclosed hlook hpermit, hk⟩)
    · exact .inr (ih r ⟨hp.1.2.resolve_left hlook r hr, hk⟩)

theorem GatedTo.of_gated (hp : G.Gated p) : G.GatedTo (fun _ ↦ True) p := by
  induction p with
  | ret a => exact trivial
  | raise x => exact trivial
  | call op k ih =>
    intro r hr
    obtain ⟨hk, hclosed⟩ := hp r hr
    exact ⟨ih r hk, fun hlook hpermit ↦ .of_ready ⟨hclosed hlook hpermit, hk⟩⟩

theorem ShutTo.bind {f : α → Program Ans ε β} (hp : G.ShutTo Q p)
    (hf : ∀ a, Q a → G.ShutTo R (f a)) : G.ShutTo R (p >>= f) := by
  change G.ShutTo R (p.bind f)
  induction p with
  | ret a => exact hf a hp
  | raise x => exact trivial
  | call op k ih => exact ⟨hp.1, fun r hr ↦ (hp.2 r hr).imp_right (ih r)⟩

theorem GatedTo.bind {f : α → Program Ans ε β} (hp : G.GatedTo Q p)
    (hgated : ∀ a, G.GatedTo R (f a)) (hshut : ∀ a, Q a → G.ShutTo R (f a)) :
    G.GatedTo R (p >>= f) := by
  change G.GatedTo R (p.bind f)
  induction p with
  | ret a => exact hgated a
  | raise x => exact trivial
  | call op k ih =>
    intro r hr
    obtain ⟨hk, hclosed⟩ := hp r hr
    exact ⟨ih r hk, fun hlook hpermit ↦ (hclosed hlook hpermit).bind hshut⟩

/-- A part, and a rest that is shut after the values of an unsuccessful look. -/
theorem ReadyTo.bind {f : α → Program Ans ε β} (hp : G.ReadyTo Q p)
    (hgated : ∀ a, G.GatedTo R (f a)) (hshut : ∀ a, Q a → G.ShutTo R (f a)) :
    G.ReadyTo R (p >>= f) :=
  ⟨hp.1.bind hshut, hp.2.bind hgated hshut⟩

/-- A part, and a rest that looks itself if need be. -/
theorem ReadyTo.bind_ready {f : α → Program Ans ε β} (hp : G.ReadyTo Q p)
    (hf : ∀ a, G.ReadyTo R (f a)) : G.ReadyTo R (p >>= f) :=
  hp.bind (fun a ↦ (hf a).2) fun a _ ↦ (hf a).1

theorem ShutTo.attempt (hp : G.ShutTo Q p) : G.ShutTo (fun r ↦ ∀ a, r = .ok a → Q a) p.attempt := by
  induction p with
  | ret a =>
    intro b hb
    cases hb
    exact hp
  | raise x => exact fun b hb ↦ nomatch hb
  | call op k ih => exact ⟨hp.1, fun r hr ↦ (hp.2 r hr).imp_right (ih r)⟩

theorem GatedTo.attempt (hp : G.GatedTo Q p) :
    G.GatedTo (fun r ↦ ∀ a, r = .ok a → Q a) p.attempt := by
  induction p with
  | ret a => exact trivial
  | raise x => exact trivial
  | call op k ih =>
    intro r hr
    obtain ⟨hk, hclosed⟩ := hp r hr
    exact ⟨ih r hk, fun hlook hpermit ↦ (hclosed hlook hpermit).attempt⟩

theorem ReadyTo.attempt (hp : G.ReadyTo Q p) :
    G.ReadyTo (fun r ↦ ∀ a, r = .ok a → Q a) p.attempt := ⟨hp.1.attempt, hp.2.attempt⟩

/-- A part that does not act. -/
theorem ShutTo.of_meets (hp : p.Meets G.possible (fun op ↦ ¬G.acts op) Q) : G.ShutTo Q p := by
  induction p with
  | ret a => exact hp
  | raise x => exact trivial
  | call op k ih => exact ⟨hp.1, fun r hr ↦ .inr (ih r (hp.2 r hr))⟩

/-- A part that does not look. -/
theorem GatedTo.of_meets (hp : p.Meets G.possible (fun op ↦ ¬G.looks op) Q') : G.GatedTo Q p := by
  induction p with
  | ret a => exact trivial
  | raise x => exact trivial
  | call op k ih => exact fun r hr ↦ ⟨ih r (hp.2 r hr), fun hlook ↦ absurd hlook hp.1⟩

/-- A part that does not act is ready. -/
theorem ReadyTo.of_meets (hp : p.Meets G.possible (fun op ↦ ¬G.acts op) Q) : G.ReadyTo Q p := by
  refine ⟨.of_meets hp, ?_⟩
  induction p with
  | ret a => exact trivial
  | raise x => exact trivial
  | call op k ih => exact fun r hr ↦ ⟨ih r (hp.2 r hr), fun _ _ ↦ .of_meets (hp.2 r hr)⟩

/-- **The look**: what it answers when it does not permit satisfies `Q`. -/
theorem ReadyTo.look (op : Op) {Q : Ans op → Prop} (hop : ¬G.acts op) (hlook : G.looks op)
    (hQ : ∀ a, G.possible op (.ok a) → ¬G.permits op (.ok a) → Q a) :
    G.ReadyTo Q (perform op : Program Ans ε (Ans op)) := by
  refine ⟨⟨hop, fun r hr ↦ ?_⟩, fun r hr ↦ ?_⟩
  · cases r with
    | ok a =>
      by_cases hpermit : G.permits op (.ok a)
      · exact .inl ⟨hlook, hpermit⟩
      · exact .inr (hQ a hr hpermit)
    | error x => exact .inr trivial
  · cases r with
    | ok a => exact ⟨trivial, fun _ hpermit ↦ hQ a hr hpermit⟩
    | error x => exact ⟨trivial, fun _ _ ↦ trivial⟩

theorem ReadyTo.forM {f : β → Program Ans ε PUnit} {l : List β} {T : PUnit → Prop} (hT : T ⟨⟩)
    (hf : ∀ b ∈ l, G.ReadyTo (fun _ ↦ True) (f b)) : G.ReadyTo T (l.forM f) := by
  induction l with
  | nil => exact ⟨hT, trivial⟩
  | cons b l ih =>
    obtain ⟨hb, hl⟩ := List.forall_mem_cons.mp hf
    exact hb.bind_ready fun _ ↦ ih hl

end To

/-- Over a larger set of calls whose gate is the same on the embedded ones. -/
theorem Ready.embed {Op' : Type} {Ans' : Op' → Type} {f : Op → Op'}
    {g : ∀ op, Except ε (Ans' (f op)) → Except ε (Ans op)} {G' : Gate Ans' ε}
    (hacts : ∀ op, G'.acts (f op) → G.acts op) (hlooks : ∀ op, G'.looks (f op) ↔ G.looks op)
    (hpermits : ∀ op r, G.permits op (g op r) → G'.permits (f op) r)
    (hpossible : ∀ op r, G'.possible (f op) r → G.possible op (g op r)) {p : Program Ans ε α}
    (hp : G.Ready p) : G'.Ready (p.embed f g) := by
  have hshut : ∀ {p : Program Ans ε α}, G.Shut p → G'.Shut (p.embed f g) := by
    intro p hp
    induction p with
    | ret a => exact trivial
    | raise x => exact trivial
    | call op k ih =>
      refine ⟨fun hop ↦ hp.1 (hacts op hop), ?_⟩
      rcases hp.2 with hlook | hk
      · exact .inl ((hlooks op).mpr hlook)
      · exact .inr fun r hr ↦ ih _ (hk _ (hpossible op r hr))
  refine ⟨hshut hp.1, ?_⟩
  have hgated := hp.2
  clear hp
  induction p with
  | ret a => exact trivial
  | raise x => exact trivial
  | call op k ih =>
    intro r hr
    obtain ⟨hk, hclosed⟩ := hgated _ (hpossible op r hr)
    refine ⟨ih _ hk, fun hlook hpermit ↦ hshut (hclosed ((hlooks op).mp hlook) fun h ↦ ?_)⟩
    exact hpermit (hpermits op r h)

end Gate

/-! ## The rule -/

namespace Pool

variable {M : Machine Ans ε σ η} {code : κ → Program Ans ε α} {G : Gate Ans ε} {Dom Ok : σ → Prop}

/-- Every running program is gated, and shut unless the store is `Ok`. -/
def Watched (G : Gate Ans ε) (Dom Ok : σ → Prop) (p : Pool σ (Program Ans ε α)) : Prop :=
  Dom p.store → ∀ i q, p.task i = some q → G.Gated q ∧ (G.Shut q ∨ Ok p.store)

/-- A call takes `Ok` away only when every running program is shut, but for the caller if the call
is a look. -/
def Quiet (M : Machine Ans ε σ η) (G : Gate Ans ε) (Ok : σ → Prop)
    (p : Pool σ (Program Ans ε α)) (x : ℕ × Op × η) : Prop :=
  Ok p.store → Ok (M.exec x.1 x.2.1 x.2.2 p.store).1 ∨
    ∀ j q, p.task j = some q → G.Shut q ∨ j = x.1 ∧ G.looks x.2.1

/-- A call takes `Ok` away only when all other programs are shut, and the caller is or looks. -/
def Calm (M : Machine Ans ε σ η) (G : Gate Ans ε) (Ok : σ → Prop) (p : Pool σ (Program Ans ε α))
    (i : ℕ) (op : Op) (e : η) (k : Except ε (Ans op) → Program Ans ε α) : Prop :=
  Ok p.store → Ok (M.exec i op e p.store).1 ∨
    (∀ j q, j ≠ i → p.task j = some q → G.Shut q) ∧
      (G.looks op ∨ G.Shut (k (M.exec i op e p.store).2))

/-- **One move.** -/
theorem Watched.step_of_calm {s₀ : σ} {p p' : Pool σ (Program Ans ε α)}
    {m : Move κ η × Option (Except ε α)} (hcode : ∀ c, G.Ready (code c))
    (hclose : ∀ {s i}, Ok s → Ok (M.close i s))
    (hpossible : ∀ {s i op e}, Dom s → G.possible op (M.exec i op e s).2)
    (hlook : ∀ {i op e}, p.nextCall m.1 = some (i, op, e) → G.looks op →
      G.permits op (M.exec i op e p.store).2 → Ok (M.exec i op e p.store).1)
    (h : Watched G Dom Ok p) (hstep : (interleaving s₀ code M).step p m p')
    (hdom : Dom p'.store → Dom p.store)
    (hcalm : ∀ {i op e k}, p.nextCall m.1 = some (i, op, e) → p.task i = some (.call op k) →
      Calm M G Ok p i op e k) : Watched G Dom Ok p' := by
  obtain rfl := step_eq hstep
  obtain ⟨-, hm⟩ | ⟨i, c, -, hm⟩ | ⟨i, op, e, k, hcall, htask, hm⟩ | ⟨i, -, hm⟩ :=
    move_cases code M m.1 p
  all_goals rw [hm] at hdom ⊢
  · exact h
  · intro hd j q hq
    obtain ⟨-, hold⟩ | ⟨-, hnew⟩ := setTask_eq_some hq
    · exact h hd j q hold
    · cases hnew
      exact ⟨(hcode c).2, .inl (hcode c).1⟩
  · intro hd j q hq
    have hold := h (hdom hd)
    have hgone := hcalm hcall htask
    obtain ⟨hj, hother⟩ | ⟨-, hnew⟩ := setTask_eq_some hq
    · -- the others: shut as before, or open over a store that is still `Ok`
      obtain ⟨hgated, hshut | hok⟩ := hold j q hother
      · exact ⟨hgated, .inl hshut⟩
      · exact ⟨hgated, (hgone hok).symm.imp_left fun hall ↦ hall.1 j q hj hother⟩
    · cases hnew
      obtain ⟨hgated, hopen⟩ := hold i _ htask
      have hr : G.possible op (M.exec i op e p.store).2 := hpossible (hdom hd)
      obtain ⟨hk, hclosed⟩ := hgated _ hr
      refine ⟨hk, ?_⟩
      by_cases hlooks : G.looks op
      · by_cases hpermits : G.permits op (M.exec i op e p.store).2
        · exact .inr (hlook hcall hlooks hpermits)
        · exact .inl (hclosed hlooks hpermits)
      · -- not a look: it was shut before and still is, or the store is still `Ok`
        rcases hopen with hshut | hok
        · exact .inl (hshut.2.resolve_left hlooks _ hr)
        · exact (hgone hok).symm.imp_left fun hall ↦ hall.2.resolve_left hlooks
  · intro hd j q hq
    obtain ⟨-, hold⟩ | ⟨-, hnew⟩ := setTask_eq_some hq
    · obtain ⟨hgated, hopen⟩ := h (hdom hd) j q hold
      exact ⟨hgated, hopen.imp_right hclose⟩
    · cases hnew

/-- **One move**, if a call that takes `Ok` away finds every running program shut. -/
theorem Watched.step {s₀ : σ} {p p' : Pool σ (Program Ans ε α)}
    {m : Move κ η × Option (Except ε α)} (hcode : ∀ c, G.Ready (code c))
    (hclose : ∀ {s i}, Ok s → Ok (M.close i s))
    (hpossible : ∀ {s i op e}, Dom s → G.possible op (M.exec i op e s).2)
    (hlook : ∀ {i op e}, p.nextCall m.1 = some (i, op, e) → G.looks op →
      G.permits op (M.exec i op e p.store).2 → Ok (M.exec i op e p.store).1)
    (h : Watched G Dom Ok p) (hstep : (interleaving s₀ code M).step p m p')
    (hdom : Dom p'.store → Dom p.store)
    (hquiet : ∀ x ∈ p.nextCall m.1, Quiet M G Ok p x) : Watched G Dom Ok p' := by
  by_cases hd : Dom p'.store
  · refine h.step_of_calm hcode hclose hpossible hlook hstep hdom fun {i op e k} hcall htask hok ↦ ?_
    refine (hquiet _ hcall hok).imp_right fun hall ↦ ⟨fun j q hj hq ↦ ?_, ?_⟩
    · exact (hall j q hq).resolve_right fun h ↦ hj h.1
    · by_cases hlooks : G.looks op
      · exact .inl hlooks
      · have hshut := (hall i _ htask).resolve_right fun h ↦ hlooks h.2
        exact .inr (hshut.2.resolve_left hlooks _ (hpossible (hdom hd)))
  · exact fun h ↦ absurd h hd

/-- A program that is about to act does so over a store with `Ok`. -/
theorem Watched.ok_of_acts {p : Pool σ (Program Ans ε α)} (h : Watched G Dom Ok p)
    (hd : Dom p.store) {i : ℕ} {op : Op} {k : Except ε (Ans op) → Program Ans ε α}
    (htask : p.task i = some (.call op k)) (hacts : G.acts op) : Ok p.store :=
  (h hd i _ htask).2.resolve_left fun hshut ↦ hshut.1 hacts

/-- At most one running program is open. -/
def Exclusive (G : Gate Ans ε) (p : Pool σ (Program Ans ε α)) : Prop :=
  ∀ ⦃i j q q'⦄, p.task i = some q → p.task j = some q' → ¬G.Shut q → ¬G.Shut q' → i = j

/-- **One move.** Programs open one at a time as long as a look that permits finds all others
shut. -/
theorem Exclusive.step {s₀ : σ} {p p' : Pool σ (Program Ans ε α)}
    {m : Move κ η × Option (Except ε α)} (hcode : ∀ c, G.Ready (code c))
    (hpossible : ∀ {i op e}, G.possible op (M.exec i op e p.store).2)
    (hgated : ∀ i q, p.task i = some q → G.Gated q) (h : Exclusive G p)
    (hstep : (interleaving s₀ code M).step p m p')
    (hlook : ∀ {i op e}, p.nextCall m.1 = some (i, op, e) → G.looks op →
      G.permits op (M.exec i op e p.store).2 → ∀ j q, j ≠ i → p.task j = some q → G.Shut q) :
    Exclusive G p' := by
  obtain rfl := step_eq hstep
  obtain ⟨-, hm⟩ | ⟨i, c, -, hm⟩ | ⟨i, op, e, k, hcall, htask, hm⟩ | ⟨i, -, hm⟩ :=
    move_cases code M m.1 p
  all_goals
    rw [hm]
    intro j j' q q' hq hq' hopen hopen'
  · exact h hq hq' hopen hopen'
  · obtain ⟨-, hold⟩ | ⟨-, hnew⟩ := setTask_eq_some hq
    · obtain ⟨-, hold'⟩ | ⟨-, hnew'⟩ := setTask_eq_some hq'
      · exact h hold hold' hopen hopen'
      · cases hnew'
        exact absurd (hcode c).1 hopen'
    · cases hnew
      exact absurd (hcode c).1 hopen
  · -- a program that opens has just looked, and then the others are shut
    have hown : ∀ {j x}, j ≠ i → p.task j = some x → ¬G.Shut x →
        G.Shut (k (M.exec i op e p.store).2) := by
      intro j x hj hx hxopen
      by_cases hlooks : G.looks op
      · by_cases hpermits : G.permits op (M.exec i op e p.store).2
        · exact absurd (hlook hcall hlooks hpermits j x hj hx) hxopen
        · exact (hgated i _ htask _ hpossible).2 hlooks hpermits
      · by_contra hk
        refine hj (h hx htask hxopen fun hshut ↦ hk ?_)
        exact hshut.2.resolve_left hlooks _ hpossible
    obtain ⟨hj, hold⟩ | ⟨rfl, hnew⟩ := setTask_eq_some hq
    · obtain ⟨hj', hold'⟩ | ⟨-, hnew'⟩ := setTask_eq_some hq'
      · exact h hold hold' hopen hopen'
      · cases hnew'
        exact absurd (hown hj hold hopen) hopen'
    · obtain ⟨hj', hold'⟩ | ⟨rfl, -⟩ := setTask_eq_some hq'
      · cases hnew
        exact absurd (hown hj' hold' hopen') hopen
      · rfl
  · obtain ⟨-, hold⟩ | ⟨-, hnew⟩ := setTask_eq_some hq
    · obtain ⟨-, hold'⟩ | ⟨-, hnew'⟩ := setTask_eq_some hq'
      · exact h hold hold' hopen hopen'
      · cases hnew'
    · cases hnew

end Pool

end ReqSys
