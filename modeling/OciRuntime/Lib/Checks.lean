import Mathlib.Data.List.Basic

/-!
# `OciRuntime.Lib.Checks` — sequences of checks that end with a value or an error

`rejectIf` and `okOr` are the two primitive checks. The lemmas turn "this sequence of checks
succeeded" into the facts that were checked, one step at a time, and back.
-/

namespace Durable

/-- Fail with `e` when `c` holds; otherwise go on. -/
def rejectIf {m : Type → Type} {ε : Type} [Monad m] [MonadExcept ε m] (c : Prop) [Decidable c]
    (e : ε) : m Unit :=
  if c then throw e else pure ()

/-- The value of an option, or the error `e`. -/
def okOr {m : Type → Type} {ε α : Type} [Monad m] [MonadExcept ε m] (value : Option α) (e : ε) :
    m α :=
  match value with
  | some a => pure a
  | none => throw e

variable {ε ε' α β : Type}

@[simp] theorem pure_eq_ok : (pure a : Except ε α) = .ok b ↔ a = b := by
  constructor
  · intro h
    cases h
    rfl
  · rintro rfl
    rfl

theorem bind_eq_ok {x : Except ε α} : (x >>= f) = .ok b ↔ ∃ a, x = .ok a ∧ f a = .ok b := by
  cases x with
  | error e => simp [bind, Except.bind]
  | ok a => simp [bind, Except.bind]

/-- A check without a value, and what follows it. -/
theorem unit_bind_eq_ok {x : Except ε Unit} : (x >>= f) = .ok b ↔ x = .ok () ∧ f () = .ok b := by
  rw [bind_eq_ok]
  constructor
  · rintro ⟨_, hx, hf⟩
    exact ⟨hx, hf⟩
  · rintro ⟨hx, hf⟩
    exact ⟨(), hx, hf⟩

theorem bind_eq_error {x : Except ε α} :
    (x >>= f) = .error e ↔ x = .error e ∨ ∃ a, x = .ok a ∧ f a = .error e := by
  cases x with
  | error e' => simp [bind, Except.bind]
  | ok a => simp [bind, Except.bind]

/-- A check whose verdict is known to be positive can be dropped. -/
theorem bind_of_ok (h : x = .ok a) (f : α → Except ε β) : (x >>= f) = f a := by
  rw [h]
  rfl

theorem map_eq_ok {x : Except ε α} : x.map f = .ok b ↔ ∃ a, x = .ok a ∧ f a = b := by
  cases x with
  | error e => simp [Except.map]
  | ok a => simp [Except.map]

theorem mapError_eq_ok {x : Except ε α} : x.mapError f = .ok a ↔ x = .ok a := by
  cases x with
  | error e => simp [Except.mapError]
  | ok b => simp [Except.mapError]

@[simp] theorem rejectIf_eq_ok {c : Prop} {_ : Decidable c} :
    (rejectIf c e : Except ε Unit) = .ok u ↔ ¬c := by
  unfold rejectIf
  split
  · simp [*, throw, throwThe, MonadExceptOf.throw]
  · simp [*, pure, Except.pure]

@[simp] theorem rejectIf_eq_error {c : Prop} {_ : Decidable c} :
    (rejectIf c e : Except ε Unit) = .error e' ↔ c ∧ e = e' := by
  unfold rejectIf
  split
  · simp [*, throw, throwThe, MonadExceptOf.throw]
  · simp [*, pure, Except.pure]

@[simp] theorem okOr_eq_ok : (okOr value e : Except ε α) = .ok a ↔ value = some a := by
  cases value with
  | none => simp [okOr, throw, throwThe, MonadExceptOf.throw]
  | some b => simp [okOr, pure, Except.pure]

@[simp] theorem okOr_eq_error :
    (okOr value e : Except ε α) = .error e' ↔ value = none ∧ e = e' := by
  cases value with
  | none => simp [okOr, throw, throwThe, MonadExceptOf.throw]
  | some b => simp [okOr, pure, Except.pure]

/-- A check of every element succeeds when it succeeds on each. -/
theorem forM_eq_ok {f : α → Except ε Unit} {l : List α} {u : Unit} :
    l.forM f = .ok u ↔ ∀ a ∈ l, f a = .ok () := by
  induction l with
  | nil => simp [List.forM]
  | cons a l ih =>
    show (f a >>= fun _ => l.forM f) = .ok u ↔ _
    rw [bind_eq_ok, List.forall_mem_cons]
    simp only [ih]
    constructor
    · rintro ⟨_, ha, hl⟩
      exact ⟨ha, hl⟩
    · rintro ⟨ha, hl⟩
      exact ⟨(), ha, hl⟩

/-- The same for a loop that also counts. -/
theorem forM_zipIdx_eq_ok {f : α × Nat → Except ε Unit} {l : List α} {u : Unit} :
    l.zipIdx.forM f = .ok u ↔ ∀ a i, l[i]? = some a → f (a, i) = .ok () := by
  simp only [forM_eq_ok, Prod.forall, List.mem_zipIdx_iff_getElem?]

/-- What every step of a loop preserves holds at its end. -/
theorem foldlM_invariant {P : β → Prop} {step : β → α → Except ε β} {items : List α}
    (hs : ∀ b, ∀ a ∈ items, ∀ b', P b → step b a = .ok b' → P b') {start result : β}
    (hst : P start) (h : items.foldlM step start = .ok result) : P result := by
  induction items generalizing start with
  | nil =>
    cases h
    exact hst
  | cons a rest ih =>
    obtain ⟨next, hn, h⟩ := bind_eq_ok.mp h
    exact ih (fun b a ha => hs b a (List.mem_cons_of_mem _ ha))
      (hs start a List.mem_cons_self next hst hn) h

/-! ## Faults -/

theorem toOption_join_eq_some {x : Except ε (Option α)} (h : x.toOption.join = some a) :
    x = .ok (some a) := by
  cases x with
  | error e => cases h
  | ok value =>
    have hv : value = some a := h
    rw [hv]

/-! ### Which errors a check can report -/

/-- Every error of the check satisfies `P`. -/
def OnlyFails (P : ε → Prop) (x : Except ε α) : Prop := ∀ e, x = .error e → P e

variable {P : ε → Prop}

protected theorem OnlyFails.ok (a : α) : OnlyFails P (.ok a) := fun _ h => by cases h

protected theorem OnlyFails.pure (a : α) : OnlyFails P (pure a : Except ε α) := .ok a

protected theorem OnlyFails.error (h : P e) : OnlyFails P (.error e : Except ε α) := by
  rintro _ ⟨⟩
  exact h

theorem OnlyFails.bind {x : Except ε α} (hx : OnlyFails P x)
    (hf : ∀ a, x = .ok a → OnlyFails P (f a)) : OnlyFails P (x >>= f) := by
  intro e h
  rcases bind_eq_error.mp h with h | ⟨a, ha, h⟩
  · exact hx e h
  · exact hf a ha e h

protected theorem OnlyFails.rejectIf {c : Prop} {_ : Decidable c} (h : c → P e) :
    OnlyFails P (rejectIf c e : Except ε Unit) := by
  intro e' he
  obtain ⟨hc, rfl⟩ := rejectIf_eq_error.mp he
  exact h hc

protected theorem OnlyFails.okOr (h : P e) : OnlyFails P (okOr value e : Except ε α) := by
  intro e' he
  obtain ⟨-, rfl⟩ := okOr_eq_error.mp he
  exact h

end Durable
