import OciRuntime.Lib.Program

/-!
# `OciRuntime.Lib.Composition` — programs put together from pieces

`Composed piece m`: the program `m` is built from programs that satisfy `piece` with `pure`, `throw`,
checks and sequencing. Once each program of a system is known to be composed, a property of all of
them that survives sequencing is proved for the pieces only.

## Contents
- **Composition.** `Composed`, and its rules for `rejectIf`, `map` and queries that are looked at
  through a function.
- **Growth.** `Composed.grows`: what a reflexive and transitive relation says about the states a
  program passes through.
- **Agreement.** `AgreesAt`, `Agrees`, `Composed.agrees`: related states lead to the same result and
  to related states.
-/

namespace Durable

namespace Program

variable {σ ε α β γ : Type}

/-! ## Composition -/

/-- Programs built from pieces. -/
inductive Composed (piece : ∀ α : Type, Program σ ε α → Prop) : ∀ {α : Type}, Program σ ε α → Prop
  | pure {α : Type} (a : α) : Composed piece (pure a)
  | throw {α : Type} (e : ε) : Composed piece (throw e : Program σ ε α)
  | check {α : Type} (verdict : Except ε α) : Composed piece (check verdict)
  | piece {α : Type} {m : Program σ ε α} (h : piece α m) : Composed piece m
  | bind {α β : Type} {m : Program σ ε α} {f : α → Program σ ε β} (hm : Composed piece m)
      (hf : ∀ a, Composed piece (f a)) : Composed piece (m >>= f)

variable {piece : ∀ α : Type, Program σ ε α → Prop}

theorem Composed.rejectIf {c : Prop} {_ : Decidable c} :
    Composed piece (rejectIf c e : Program σ ε Unit) := by
  unfold Durable.rejectIf
  split
  · exact .throw e
  · exact .pure ()

theorem Composed.map (hm : Composed piece m) : Composed piece (f <$> m) :=
  .bind hm fun a => .pure (f a)

/-- A query whose answer is used through a function only. -/
theorem Composed.read_through {query : σ → α} (view : α → γ) {f : γ → Program σ ε β}
    (hq : piece γ (read fun s => .ok (view (query s))))
    (hf : ∀ c, Composed piece (f c)) :
    Composed piece ((read fun s => .ok (query s)) >>= fun a => f (view a)) :=
  .bind (m := read fun s => .ok (view (query s))) (.piece hq) hf

/-! ## Growth -/

theorem mem_states_bind {m : Program σ ε α} (hu : u ∈ (m >>= f).states s) :
    u ∈ m.states s ∨ ∃ a, m.result s = .ok a ∧ u ∈ (f a).states (m.final s) := by
  rcases List.mem_cons.mp hu with rfl | hu
  · exact .inl List.mem_cons_self
  · simp only [Bind.bind] at hu
    split at hu
    · rename_i a ha
      rcases List.mem_append.mp hu with hu | hu
      · exact .inl (List.mem_cons_of_mem _ hu)
      · exact .inr ⟨a, ha, List.mem_cons_of_mem _ hu⟩
    · exact .inl (List.mem_cons_of_mem _ hu)

theorem final_mem_states (m : Program σ ε α) (s : σ) : m.final s ∈ m.states s :=
  getLastD_mem_cons _ _

/-- Every state a composed program passes through has grown from the first one, if the pieces have
    this property. -/
theorem Composed.grows {G : σ → σ → Prop} (hr : ∀ s, G s s) (ht : ∀ s t u, G s t → G t u → G s u)
    (hp : ∀ {α : Type} {m : Program σ ε α}, piece α m → ∀ s, ∀ u ∈ m.states s, G s u)
    {m : Program σ ε α} (h : Composed piece m) : ∀ s, ∀ u ∈ m.states s, G s u := by
  induction h with
  | pure a =>
    intro s u hu
    rw [List.mem_singleton.mp hu]
    exact hr s
  | throw e =>
    intro s u hu
    rw [List.mem_singleton.mp hu]
    exact hr s
  | check verdict =>
    intro s u hu
    rw [List.mem_singleton.mp hu]
    exact hr s
  | piece h => exact hp h
  | bind _ _ ihm ihf =>
    intro s u hu
    rcases mem_states_bind hu with hu | ⟨a, -, hu⟩
    · exact ihm s u hu
    · exact ht _ _ _ (ihm s _ (final_mem_states _ s)) (ihf a _ u hu)

/-! ## Agreement -/

/-- From the two states the program gives the same result, through states related by `R`. -/
def AgreesAt (R : σ → σ → Prop) (m : Program σ ε α) (s t : σ) : Prop :=
  m.result s = m.result t ∧ List.Forall₂ R (m.states s) (m.states t)

/-- The program cannot tell states related by `R` apart. -/
def Agrees (R : σ → σ → Prop) (m : Program σ ε α) : Prop := ∀ s t, R s t → AgreesAt R m s t

variable {R : σ → σ → Prop}

theorem forall₂_getLastD (h : List.Forall₂ R (a :: l) (b :: l')) :
    R (l.getLastD a) (l'.getLastD b) := by
  induction l generalizing a b l' with
  | nil =>
    obtain ⟨ha, hr⟩ := List.forall₂_cons.mp h
    cases hr
    exact ha
  | cons c l ih =>
    obtain ⟨ha, hr⟩ := List.forall₂_cons.mp h
    cases hr with
    | cons hc hr =>
      rw [List.getLastD_cons, List.getLastD_cons]
      exact ih (.cons hc hr)

theorem AgreesAt.final (h : AgreesAt R m s t) : R (m.final s) (m.final t) :=
  forall₂_getLastD h.2

theorem agreesAt_read (hs : R s t) (h : query s = query t) : AgreesAt R (read query) s t :=
  ⟨h, .cons hs .nil⟩

protected theorem Agrees.read (h : ∀ s t, R s t → query s = query t) : Agrees R (read query) :=
  fun s t hs => agreesAt_read hs (h s t hs)

protected theorem Agrees.commit (h : ∀ s t, R s t → R (change s) (change t)) :
    Agrees R (commit change : Program σ ε Unit) :=
  fun s t hs => ⟨rfl, .cons hs (.cons (h s t hs) .nil)⟩

/-- Sequencing: after an agreement the continuation runs from related states. -/
theorem AgreesAt.bind (hm : AgreesAt R m s t)
    (hf : ∀ a, m.result s = .ok a → AgreesAt R (f a) (m.final s) (m.final t)) :
    AgreesAt R (m >>= f) s t := by
  obtain ⟨hr, hs⟩ := hm
  unfold AgreesAt result states at *
  simp only [Bind.bind, ← hr]
  cases ha : (m s).result with
  | error e => exact ⟨rfl, hs⟩
  | ok a =>
    obtain ⟨hr', hs'⟩ := hf a ha
    refine ⟨hr', ?_⟩
    exact List.rel_append hs (List.forall₂_cons.mp hs').2

theorem AgreesAt.read_bind {query : σ → Except ε α} (hs : R s t) (hq : query s = query t)
    (hf : ∀ a, query s = .ok a → AgreesAt R (f a) s t) : AgreesAt R (read query >>= f) s t :=
  .bind (agreesAt_read hs hq) hf

theorem AgreesAt.check_bind {verdict : Except ε α} (hs : R s t)
    (hf : ∀ a, verdict = .ok a → AgreesAt R (f a) s t) : AgreesAt R (check verdict >>= f) s t :=
  .read_bind hs rfl hf

theorem AgreesAt.rejectIf_bind {c : Prop} {_ : Decidable c} {e : ε} (hs : R s t)
    (hf : ¬c → AgreesAt R (f ()) s t) : AgreesAt R (Durable.rejectIf c e >>= f) s t := by
  by_cases hc : c
  · rw [show (Durable.rejectIf c e : Program σ ε Unit) = throw e from if_pos hc]
    exact ⟨rfl, .cons hs .nil⟩
  · rw [show (Durable.rejectIf c e : Program σ ε Unit) = pure () from if_neg hc]
    exact hf hc

theorem Agrees.bind (hm : Agrees R m) (hf : ∀ a, Agrees R (f a)) : Agrees R (m >>= f) :=
  fun s t hs => (hm s t hs).bind fun a _ => hf a _ _ (hm s t hs).final

/-- Composed programs agree on related states if their pieces do. -/
theorem Composed.agrees (hp : ∀ {α : Type} {m : Program σ ε α}, piece α m → Agrees R m)
    {m : Program σ ε α} (h : Composed piece m) : Agrees R m := by
  induction h with
  | pure a => exact fun s t hs => ⟨rfl, .cons hs .nil⟩
  | throw e => exact fun s t hs => ⟨rfl, .cons hs .nil⟩
  | check verdict => exact .read fun _ _ _ => rfl
  | piece h => exact hp h
  | bind _ _ ihm ihf => exact ihm.bind ihf

end Program

end Durable
