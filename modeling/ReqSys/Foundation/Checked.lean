import Mathlib.Logic.Basic
import Mathlib.Data.Option.Basic

/-!
# Guarded computations

A function that validates its arguments, looks rows up and then writes is a chain of guards in
`Except ε`. `require` raises unless a condition holds, `orThrow` raises unless a value is present,
and the lemmas below turn "the whole chain succeeded" into the conjunction of its guards together
with the value at the end. Proofs about such functions take that conjunction apart and never unfold
the monad.
-/

namespace ReqSys

variable {ε α β : Type}

/-- Raise `e` unless `p` holds. -/
def require (p : Prop) [Decidable p] (e : ε) : Except ε Unit :=
  if p then .ok () else .error e

/-- Raise `e` unless a value is present. -/
def orThrow (o : Option α) (e : ε) : Except ε α :=
  match o with
  | some a => .ok a
  | none => .error e

theorem bind_eq_ok {x : Except ε α} {f : α → Except ε β} {b : β} :
    (x >>= f) = .ok b ↔ ∃ a, x = .ok a ∧ f a = .ok b := by
  rcases x with e | a
  · exact ⟨nofun, fun ⟨_, h, _⟩ ↦ nomatch h⟩
  · exact ⟨fun h ↦ ⟨a, rfl, h⟩, fun ⟨_, h, hf⟩ ↦ by cases h; exact hf⟩

@[simp] theorem require_eq_ok {p : Prop} [Decidable p] {e : ε} {u : Unit} :
    require p e = .ok u ↔ p := by
  by_cases h : p <;> simp [require, h]

@[simp] theorem orThrow_eq_ok {o : Option α} {e : ε} {a : α} :
    orThrow o e = .ok a ↔ o = some a := by
  cases o <;> simp [orThrow]

theorem require_bind_eq_ok {p : Prop} [Decidable p] {e : ε} {f : Unit → Except ε β} {b : β} :
    (require p e >>= f) = .ok b ↔ p ∧ f () = .ok b := by
  rw [bind_eq_ok]
  exact ⟨fun ⟨_, h, hf⟩ ↦ ⟨require_eq_ok.mp h, hf⟩, fun ⟨h, hf⟩ ↦ ⟨(), require_eq_ok.mpr h, hf⟩⟩

theorem orThrow_bind_eq_ok {o : Option α} {e : ε} {f : α → Except ε β} {b : β} :
    (orThrow o e >>= f) = .ok b ↔ ∃ a, o = some a ∧ f a = .ok b := by
  rw [bind_eq_ok]
  simp

/-- A guard that passes. -/
theorem require_bind_of_true {p : Prop} [Decidable p] {e : ε} {f : Unit → Except ε β} (h : p) :
    (require p e >>= f) = f () := by
  rw [require, if_pos h]
  rfl

/-- A guard that does not pass. -/
theorem require_bind_of_false {p : Prop} [Decidable p] {e : ε} {f : Unit → Except ε β} (h : ¬p) :
    (require p e >>= f) = .error e := by
  rw [require, if_neg h]
  rfl

/-- A guard whose condition is kept, for a value that carries it. -/
def ensure (p : Prop) [Decidable p] (e : ε) : Except ε (PLift p) :=
  if h : p then .ok ⟨h⟩ else .error e

theorem ensure_bind {p : Prop} [Decidable p] {e : ε} {f : PLift p → Except ε α} (h : p) :
    (ensure p e >>= f) = f ⟨h⟩ := by
  rw [ensure, dif_pos h]
  rfl

theorem ok_bind {a : α} {f : α → Except ε β} : ((.ok a : Except ε α) >>= f) = f a := rfl

/-- A loop that collects lists and comes back empty collected nothing on the way. -/
theorem eq_ok_nil_of_mapM {f : α → Except ε (List β)} {l : List α} {rs : List (List β)}
    (h : l.mapM f = .ok rs) (hrs : rs.flatten = []) : ∀ a ∈ l, f a = .ok [] := by
  induction l generalizing rs with
  | nil => nofun
  | cons a l ih =>
    rw [List.mapM_cons, bind_eq_ok] at h
    obtain ⟨r, hr, h⟩ := h
    obtain ⟨rs', hrs', h⟩ := bind_eq_ok.mp h
    obtain rfl : r :: rs' = rs := Except.ok.inj h
    rw [List.flatten_cons, List.append_eq_nil_iff] at hrs
    obtain ⟨rfl, hrs⟩ := hrs
    exact List.forall_mem_cons.mpr ⟨hr, ih hrs' hrs⟩

/-- What a loop collects. -/
theorem exists_of_mapM {f : α → Except ε β} {l : List α} {rs : List β} (h : l.mapM f = .ok rs) :
    ∀ r ∈ rs, ∃ a ∈ l, f a = .ok r := by
  induction l generalizing rs with
  | nil =>
    cases h
    exact fun r hr ↦ nomatch hr
  | cons a l ih =>
    rw [List.mapM_cons, bind_eq_ok] at h
    obtain ⟨r, hr, h⟩ := h
    obtain ⟨rs', hrs', h⟩ := bind_eq_ok.mp h
    obtain rfl : r :: rs' = rs := Except.ok.inj h
    refine List.forall_mem_cons.mpr ⟨⟨a, List.mem_cons_self, hr⟩, fun b hb ↦ ?_⟩
    obtain ⟨a', ha', hb'⟩ := ih hrs' b hb
    exact ⟨a', List.mem_cons_of_mem a ha', hb'⟩

/-- A loop whose items all return returns. -/
theorem exists_mapM_ok {f : α → Except ε β} {l : List α} (h : ∀ a ∈ l, ∃ b, f a = .ok b) :
    ∃ bs, l.mapM f = .ok bs := by
  induction l with
  | nil => exact ⟨[], rfl⟩
  | cons a l ih =>
    obtain ⟨ha, hl⟩ := List.forall_mem_cons.mp h
    obtain ⟨b, hb⟩ := ha
    obtain ⟨bs, hbs⟩ := ih hl
    refine ⟨b :: bs, ?_⟩
    rw [List.mapM_cons, hb, ok_bind, hbs]
    rfl

/-- What every item of a loop keeps, the loop keeps. -/
theorem foldlM_ok {f : β → α → Except ε β} {I : List α → β → Prop} {l : List α} {b b' : β}
    (hstart : I [] b) (hstep : ∀ pre b x b', I pre b → f b x = .ok b' → I (pre ++ [x]) b')
    (h : l.foldlM f b = .ok b') : I l b' := by
  suffices hall : ∀ pre b, I pre b → l.foldlM f b = .ok b' → I (pre ++ l) b' from
    hall [] b hstart h
  clear h hstart
  induction l with
  | nil =>
    intro pre b hb h
    cases h
    rwa [List.append_nil]
  | cons x l ih =>
    intro pre b hb h
    rw [List.foldlM_cons] at h
    obtain ⟨b'', hx, h⟩ := bind_eq_ok.mp h
    rw [List.append_cons]
    exact ih (pre ++ [x]) b'' (hstep pre b x b'' hb hx) h

/-- A loop that always goes on reaches its end. -/
theorem exists_foldlM_ok {f : β → α → Except ε β} {I : List α → β → Prop} {l : List α} {b : β}
    (hstart : I [] b) (hstep : ∀ pre x post b, l = pre ++ x :: post → I pre b →
      ∃ b', f b x = .ok b' ∧ I (pre ++ [x]) b') :
    ∃ b', l.foldlM f b = .ok b' ∧ I l b' := by
  suffices hall : ∀ post pre b, l = pre ++ post → I pre b →
      ∃ b', post.foldlM f b = .ok b' ∧ I l b' from hall l [] b rfl hstart
  intro post
  induction post with
  | nil =>
    rintro pre b rfl hb
    rw [List.append_nil]
    exact ⟨b, rfl, hb⟩
  | cons x post ih =>
    intro pre b hl hb
    obtain ⟨b₁, hx, hb₁⟩ := hstep pre x post b hl hb
    obtain ⟨b', hpost, hb'⟩ := ih (pre ++ [x]) b₁ (by rw [hl, List.append_cons]) hb₁
    refine ⟨b', ?_, hb'⟩
    rw [List.foldlM_cons, hx, ok_bind, hpost]

/-- A loop of checks. -/
theorem ok_of_forM {f : α → Except ε Unit} {l : List α} (h : l.forM f = .ok ()) :
    ∀ a ∈ l, f a = .ok () := by
  induction l with
  | nil => exact fun a ha ↦ nomatch ha
  | cons a l ih =>
    obtain ⟨u, ha, hl⟩ := bind_eq_ok.mp (show (f a >>= fun _ ↦ l.forM f) = .ok () from h)
    exact List.forall_mem_cons.mpr ⟨ha, ih hl⟩

/-! ## What a computation can raise -/

/-- Every error a computation can raise satisfies `P`. -/
def OnlyRaises (P : ε → Prop) (x : Except ε α) : Prop := ∀ e, x = .error e → P e

namespace OnlyRaises

variable {P : ε → Prop}

theorem ok (a : α) : OnlyRaises P (.ok a : Except ε α) := nofun

theorem bind {x : Except ε α} {f : α → Except ε β} (hx : OnlyRaises P x)
    (hf : ∀ a, x = .ok a → OnlyRaises P (f a)) : OnlyRaises P (x >>= f) := by
  rcases x with e | a
  · intro e' h
    cases h
    exact hx e rfl
  · exact hf a rfl

theorem require {p : Prop} [Decidable p] {e : ε} (he : P e) :
    OnlyRaises P (ReqSys.require p e) := by
  intro e' h
  rw [ReqSys.require] at h
  split at h
  · cases h
  · cases h
    exact he

theorem orThrow {o : Option α} {e : ε} (he : o = none → P e) :
    OnlyRaises P (ReqSys.orThrow o e) := by
  cases o with
  | none =>
    intro e' h
    cases h
    exact he rfl
  | some a => exact ok a

theorem foldlM {f : β → α → Except ε β} (hf : ∀ b a, OnlyRaises P (f b a)) (l : List α) (b : β) :
    OnlyRaises P (l.foldlM f b) := by
  induction l generalizing b with
  | nil => exact ok b
  | cons a l ih =>
    rw [List.foldlM_cons]
    exact bind (hf b a) fun b' _ ↦ ih b'

theorem mapM {f : α → Except ε β} (hf : ∀ a, OnlyRaises P (f a)) (l : List α) :
    OnlyRaises P (l.mapM f) := by
  induction l with
  | nil => exact ok []
  | cons a l ih =>
    rw [List.mapM_cons]
    exact bind (hf a) fun _ _ ↦ bind ih fun _ _ ↦ ok _

end OnlyRaises

end ReqSys
