import Mathlib.Data.List.Chain
import OciRuntime.Lib.Checks

/-!
# `OciRuntime.Lib.Program` — programs over durable state that may be cut after any commit

A program reads a durable state, makes a sequence of *commits* (each one indivisible) and ends with
a result or an error. Its denotation keeps every intermediate state, so "the process died after the
`k`-th commit" is a statement about a prefix of `commits`.

## Contents
- **Programs.** `Program σ ε α` with `pure`, `bind`, `throw`, `read` and `commit`.
- **Program logic.** `Ensures R m s Q`: from `s`, consecutive states of `m` are related by `R`, and
  its result and final state satisfy `Q`. One rule for each primitive, and the rule of consequence.
- **Successful results.** `Yields R m s P`: the postcondition speaks about success only, so error
  paths need no attention; `Yields.bind_invariant` supplies an invariant of the steps on the way.
- **Programs that cannot fail.** `Delivers R m s P`: the program succeeds, with `P`.
- **Crash runs.** `CrashTrace`: the states of any sequence of programs, each cut anywhere;
  `CrashTrace.chain` and `isChain_invariant` reduce a claim about all of them to single commits.
-/

namespace Durable

variable {τ ε' : Type} {c : Prop} {_ : Decidable c}

/-- What a program did: the state after each of its commits, oldest first, and its result. -/
structure Outcome (σ ε α : Type) where
  commits : List σ
  result : Except ε α

/-- A program over the durable state `σ` with errors `ε`. -/
def Program (σ ε α : Type) : Type := σ → Outcome σ ε α

namespace Program

variable {σ ε α β ι : Type}

/-- The state after the last commit (the initial one if nothing was committed). -/
def final (m : Program σ ε α) (s : σ) : σ := (m s).commits.getLastD s

/-- The result of an uninterrupted run. -/
def result (m : Program σ ε α) (s : σ) : Except ε α := (m s).result

/-- Every state the program passes through: a crash leaves one of these behind. -/
def states (m : Program σ ε α) (s : σ) : List σ := s :: (m s).commits

instance : Monad (Program σ ε) where
  pure a := fun _ => ⟨[], .ok a⟩
  bind m f := fun s =>
    match (m s).result with
    | .ok a => ⟨(m s).commits ++ (f a (m.final s)).commits, (f a (m.final s)).result⟩
    | .error e => ⟨(m s).commits, .error e⟩

instance : MonadExcept ε (Program σ ε) where
  throw e := fun _ => ⟨[], .error e⟩
  tryCatch m f := fun s =>
    match (m s).result with
    | .ok a => ⟨(m s).commits, .ok a⟩
    | .error e => ⟨(m s).commits ++ (f e (m.final s)).commits, (f e (m.final s)).result⟩

/-- Evaluate a query on the current state; nothing is committed. -/
def read (query : σ → Except ε α) : Program σ ε α := fun s => ⟨[], query s⟩

/-- One indivisible change of the durable state. -/
def commit (change : σ → σ) : Program σ ε Unit := fun s => ⟨[change s], .ok ()⟩

/-- A check that does not look at the state. -/
def check (verdict : Except ε α) : Program σ ε α := read fun _ => verdict

theorem result_bind (m : Program σ ε α) (f : α → Program σ ε β) (s : σ) : (m >>= f).result s =
      match m.result s with
      | .ok a => (f a).result (m.final s)
      | .error e => .error e := by
  unfold result
  simp only [bind]
  cases (m s).result with
  | ok a => rfl
  | error e => rfl

/-- Run a program on a part of the state: `get` and `set` say which, `wrap` embeds its errors. -/
def focus {τ ε' : Type} (get : σ → τ) (set : τ → σ → σ) (wrap : ε' → ε) (m : Program τ ε' α) :
    Program σ ε α :=
  fun s => ⟨(m (get s)).commits.map (set · s), (m (get s)).result.mapError wrap⟩

theorem result_focus (get : σ → τ) (set : τ → σ → σ) (wrap : ε' → ε) (m : Program τ ε' α) (s : σ) :
    (m.focus get set wrap).result s = (m.result (get s)).mapError wrap := rfl

theorem result_read_bind (h : query s = .ok a) (f : α → Program σ ε β) :
    (read query >>= f).result s = (f a).result s := by
  have hr : (read query).result s = .ok a := h
  rw [result_bind, hr]
  rfl

theorem result_read_ok_bind {query : σ → α} (h : query s = a) (f : α → Program σ ε β) :
    ((read fun s => .ok (query s)) >>= f).result s = (f a).result s := by
  subst h
  exact result_bind _ f s

theorem result_check_bind (h : verdict = .ok a) (f : α → Program σ ε β) :
    (check verdict >>= f).result s = (f a).result s :=
  result_read_bind h f

theorem result_rejectIf_bind (h : ¬c) (f : Unit → Program σ ε β) :
    (rejectIf c e >>= f).result s = (f ()).result s := by
  have hp : (rejectIf c e : Program σ ε Unit) = pure () := if_neg h
  rw [hp, result_bind]
  rfl

theorem onlyFails_result_bind {P : ε → Prop} {f : α → Program σ ε β}
    (hm : OnlyFails P (m.result s)) (hf : ∀ a, OnlyFails P ((f a).result (m.final s))) :
    OnlyFails P ((m >>= f).result s) := by
  rw [result_bind]
  cases hr : m.result s with
  | ok a => exact hf a
  | error e => exact .error (hm e hr)

/-! ## Chains of commits -/

/-- A chain splits at any point into a chain up to there and a chain from its last state on. -/
theorem isChain_append_iff : List.IsChain R (a :: (l₁ ++ l₂)) ↔
      List.IsChain R (a :: l₁) ∧ List.IsChain R (l₁.getLastD a :: l₂) := by
  induction l₁ generalizing a with
  | nil => simp
  | cons b l ih =>
    rw [List.cons_append, List.isChain_cons_cons, List.isChain_cons_cons, ih, and_assoc,
      List.getLastD_cons]

theorem getLastD_append_eq {l₁ l₂ : List σ} :
    (l₁ ++ l₂).getLastD a = l₂.getLastD (l₁.getLastD a) := by
  induction l₁ generalizing a with
  | nil => rfl
  | cons b l ih => rw [List.cons_append, List.getLastD_cons, List.getLastD_cons, ih]

theorem final_bind (m : Program σ ε α) (f : α → Program σ ε β) (s : σ) : (m >>= f).final s =
      match m.result s with
      | .ok a => (f a).final (m.final s)
      | .error _ => m.final s := by
  simp only [final, result, bind]
  cases (m s).result with
  | ok a => exact getLastD_append_eq
  | error e => rfl

theorem final_tryCatch (m : Program σ ε α) (f : ε → Program σ ε α) (s : σ) :
    (tryCatch m f).final s =
      match m.result s with
      | .ok _ => m.final s
      | .error e => (f e).final (m.final s) := by
  simp only [final, result, tryCatch]
  cases (m s).result with
  | ok a => rfl
  | error e => exact getLastD_append_eq

protected theorem bind_pure (m : Program σ ε α) : m >>= pure = m := by
  funext s
  simp only [bind, pure, List.append_nil]
  cases h : m s with
  | mk commits result => cases result <;> rfl

protected theorem bind_assoc {δ : Type} (m : Program σ ε α) (f : α → Program σ ε β)
    (g : β → Program σ ε δ) :
    m >>= f >>= g = m >>= fun a => f a >>= g := by
  funext s
  simp only [bind, final]
  cases (m s).result with
  | error e => rfl
  | ok a =>
    simp only [getLastD_append_eq]
    cases (f a ((m s).commits.getLastD s)).result with
    | ok b => simp only [List.append_assoc]
    | error e => rfl

/-- The program ends alike from every state: it succeeds if `c` holds, and otherwise fails with an
    error that satisfies `P`. -/
def SucceedsIff (P : ε → Prop) (c : Prop) (m : Program σ ε Unit) : Prop :=
  (c → ∀ s, m.result s = .ok ()) ∧ (¬c → ∀ s, ∃ e, m.result s = .error e ∧ P e)

/-- A loop over such programs succeeds if all of them do. -/
theorem SucceedsIff.forM {P : ε → Prop} {c : α → Prop} {l : List α}
    (h : ∀ a ∈ l, SucceedsIff P (c a) (f a)) : SucceedsIff P (∀ a ∈ l, c a) (l.forM f) := by
  induction l with
  | nil => exact ⟨fun _ _ => rfl, fun hc => absurd (fun a ha => by cases ha) hc⟩
  | cons a l ih =>
    obtain ⟨ho, hrr⟩ := h a List.mem_cons_self
    obtain ⟨ihok, iherror⟩ := ih fun b hb => h b (List.mem_cons_of_mem a hb)
    have hcn : (a :: l).forM f = f a >>= fun _ => l.forM f := rfl
    refine ⟨fun hc s => ?_, fun hc s => ?_⟩
    · rw [hcn, result_bind, ho (hc a List.mem_cons_self) s]
      exact ihok (fun b hb => hc b (List.mem_cons_of_mem a hb)) _
    · rw [hcn, result_bind]
      by_cases ha : c a
      · rw [ho ha s]
        refine iherror (fun hr => hc fun b hb => ?_) _
        rcases List.mem_cons.mp hb with rfl | hb
        · exact ha
        · exact hr b hb
      · obtain ⟨e, he, hP⟩ := hrr ha s
        rw [he]
        exact ⟨e, rfl, hP⟩

theorem isChain_and {F : σ → σ → Prop} (hR : List.IsChain R l) (hF : List.IsChain F l) :
    List.IsChain (fun x y => R x y ∧ F x y) l := by
  induction hR with
  | nil => exact .nil
  | singleton a => exact .singleton a
  | cons_cons ha _ ih =>
    obtain ⟨ha', hr⟩ := List.isChain_cons_cons.mp hF
    exact .cons_cons ⟨ha, ha'⟩ (ih hr)

/-- What every step of a chain preserves holds all along it. -/
theorem isChain_invariant {I : σ → Prop} (hc : List.IsChain R (a :: l))
    (hs : ∀ x y, I x → R x y → I y) (ha : I a) : ∀ x ∈ a :: l, I x := by
  induction l generalizing a with
  | nil =>
    intro x hx
    rw [List.mem_singleton.mp hx]
    exact ha
  | cons b l ih =>
    obtain ⟨hab, hb⟩ := List.isChain_cons_cons.mp hc
    intro x hx
    rcases List.mem_cons.mp hx with rfl | hx
    · exact ha
    · exact ih hb (hs a b ha hab) x hx

theorem getLastD_mem_cons (a : σ) (l : List σ) : l.getLastD a ∈ a :: l := by
  cases l with
  | nil => simp
  | cons b l =>
    rw [List.getLastD_cons, List.getLastD_eq_getLast?]
    cases h : l.getLast? with
    | none => simp
    | some c => simp [List.mem_of_getLast? h]

/-- A run ends with its last state. -/
theorem cons_eq_dropLast_append (a : σ) (l : List σ) :
    a :: l = (a :: l).dropLast ++ [l.getLastD a] := by
  have hs := List.dropLast_concat_getLast (List.cons_ne_nil a l)
  rw [List.getLast_eq_getLastD] at hs
  exact hs.symm

/-- Two states of a run, one not before the other. -/
theorem cons_eq_append_getD (a d : σ) {l : List σ} {i j : Nat} (hij : i ≤ j) (hj : j < l.length) :
    ∃ before later, a :: l = before ++ l.getD i d :: later ∧ l.getD j d ∈ l.getD i d :: later := by
  have hi : i < l.length := Nat.lt_of_le_of_lt hij hj
  have hg : ∀ k (hk : k < l.length), l.getD k d = l[k] := fun k hk => by simp [hk]
  refine ⟨a :: l.take i, l.drop (i + 1), ?_, ?_⟩
  · rw [hg i hi, List.cons_append, List.getElem_cons_drop, List.take_append_drop]
  · rw [hg i hi, hg j hj, List.getElem_cons_drop]
    exact List.mem_drop_iff_getElem.mpr ⟨j - i, by omega, by simp [Nat.add_sub_cancel' hij]⟩

theorem isChain_getLastD {I : σ → Prop} (hc : List.IsChain R (a :: l))
    (hs : ∀ x y, I x → R x y → I y) (ha : I a) : I (l.getLastD a) :=
  isChain_invariant hc hs ha _ (getLastD_mem_cons a l)

/-! ## The program logic -/

/-- **Specification.** Started in `s`, every commit of `m` is an `R`-step from the state before it,
    and `m` ends with a result and a state that satisfy `Q`. -/
def Ensures (R : σ → σ → Prop) (m : Program σ ε α) (s : σ) (Q : Except ε α → σ → Prop) : Prop :=
  List.IsChain R (m.states s) ∧ Q (m.result s) (m.final s)

variable {R R' : σ → σ → Prop} {Q Q' : Except ε α → σ → Prop} {s : σ}

/-- Rule of consequence, in both the step relation and the postcondition. -/
theorem Ensures.mono (h : Ensures R m s Q) (hR : ∀ a b, R a b → R' a b)
    (hQ : ∀ r t, Q r t → Q' r t) : Ensures R' m s Q' :=
  ⟨h.1.imp (fun a b => hR a b), hQ _ _ h.2⟩

theorem Ensures.mono_post (h : Ensures R m s Q) (hQ : ∀ r t, Q r t → Q' r t) : Ensures R m s Q' :=
  h.mono (fun _ _ ha => ha) hQ

@[simp] theorem ensures_pure : Ensures R (pure a : Program σ ε α) s Q ↔ Q (.ok a) s :=
  ⟨fun h => h.2, fun h => ⟨.singleton s, h⟩⟩

@[simp] theorem ensures_throw : Ensures R (throw e : Program σ ε α) s Q ↔ Q (.error e) s :=
  ⟨fun h => h.2, fun h => ⟨.singleton s, h⟩⟩

@[simp] theorem ensures_read : Ensures R (read query) s Q ↔ Q (query s) s :=
  ⟨fun h => h.2, fun h => ⟨.singleton s, h⟩⟩

@[simp] theorem ensures_commit {Q : Except ε Unit → σ → Prop} :
    Ensures R (commit change) s Q ↔ R s (change s) ∧ Q (.ok ()) (change s) := by
  constructor
  · intro h
    exact ⟨by simpa [states, commit] using h.1, h.2⟩
  · rintro ⟨hR, hQ⟩
    exact ⟨by simpa [states, commit] using hR, hQ⟩

/-- Sequencing: the continuation starts where the first program ended; an error skips it. -/
@[simp] theorem ensures_bind {f : α → Program σ ε β} {Q : Except ε β → σ → Prop} :
    Ensures R (m >>= f) s Q ↔ Ensures R m s (fun r t =>
        match r with
        | .ok a => Ensures R (f a) t Q
        | .error e => Q (.error e) t) := by
  unfold Ensures states final result
  simp only [bind]
  cases hm : (m s).result with
  | error e => simp
  | ok a =>
    simp only [isChain_append_iff, getLastD_append_eq, final]
    tauto

@[simp] theorem ensures_rejectIf {Q : Except ε Unit → σ → Prop} :
    Ensures R (rejectIf c e : Program σ ε Unit) s Q ↔
      (c → Q (.error e) s) ∧ (¬c → Q (.ok ()) s) := by
  unfold rejectIf
  split <;> simp_all

/-- A query that succeeds, and what follows it. -/
theorem Ensures.read_bind {Q : Except ε β → σ → Prop} (ha : query s = .ok a)
    (h : Ensures R (f a) s Q) : Ensures R (read query >>= f) s Q := by
  rw [ensures_bind, ensures_read, ha]
  exact h

/-- Sequencing of specifications. -/
theorem Ensures.bind {Q' : Except ε β → σ → Prop} (hm : Ensures R m s Q)
    (ho : ∀ a t, Q (.ok a) t → Ensures R (f a) t Q')
    (hrr : ∀ e t, Q (.error e) t → Q' (.error e) t) : Ensures R (m >>= f) s Q' := by
  rw [ensures_bind]
  refine hm.mono_post ?_
  intro r t hr
  cases r with
  | ok a => exact ho a t hr
  | error e => exact hrr e t hr

/-- An invariant of the steps may be assumed at the end of a program that starts in it. -/
theorem Ensures.and_invariant {I : σ → Prop} (h : Ensures R m s Q)
    (hst : ∀ x y, I x → R x y → I y) (hs : I s) : Ensures R m s (fun r t => Q r t ∧ I t) :=
  ⟨h.1, h.2, isChain_getLastD h.1 hst hs⟩

/-! ## Specifications of successful results -/

/-- Every commit of `m` is an `R`-step, and if `m` succeeds its result and final state satisfy
    `P`. -/
def Yields (R : σ → σ → Prop) (m : Program σ ε α) (s : σ) (P : α → σ → Prop) : Prop :=
  Ensures R m s fun r t => ∀ a, r = .ok a → P a t

variable {P P₁ : α → σ → Prop} {P' : β → σ → Prop} {m : Program σ ε α}
  {query : σ → Except ε α} {verdict : Except ε α} {a : α}

theorem Ensures.yields (h : Ensures R m s Q) (hQ : ∀ a t, Q (.ok a) t → P a t) : Yields R m s P :=
  h.mono_post fun _ t hr a ha => hQ a t (ha ▸ hr)

theorem Yields.chain (h : Yields R m s P) : List.IsChain R (m.states s) := h.1

theorem Yields.mono (h : Yields R m s P) (hP : ∀ a t, P a t → P₁ a t) : Yields R m s P₁ :=
  h.mono_post fun _ t hr a ha => hP a t (hr a ha)

theorem Yields.of_result (h : Yields R m s P) (ha : m.result s = .ok a) : P a (m.final s) :=
  h.2 a ha

@[simp] theorem yields_pure : Yields R (pure a : Program σ ε α) s P ↔ P a s := by
  simp [Yields]

protected theorem Yields.pure (h : P a s) : Yields R (pure a : Program σ ε α) s P := yields_pure.mpr h

@[simp] protected theorem Yields.throw : Yields R (throw e : Program σ ε α) s P := by
  simp [Yields]

theorem yields_read (h : ∀ a, query s = .ok a → P a s) : Yields R (read query) s P := by
  simpa [Yields] using h

protected theorem Yields.commit {P : Unit → σ → Prop} (hs : R s (change s)) (h : P () (change s)) :
    Yields R (commit change : Program σ ε Unit) s P := by
  rw [Yields, ensures_commit]
  exact ⟨hs, fun _ _ => h⟩

theorem Yields.bind (hm : Yields R m s P) (hf : ∀ a t, P a t → Yields R (f a) t P') :
    Yields R (m >>= f) s P' :=
  Ensures.bind hm (fun a t ha => hf a t (ha a rfl)) (by simp)

/-- Sequencing when every step preserves `I`: the continuation may assume it. -/
theorem Yields.bind_invariant {I : σ → Prop} (hst : ∀ x y, I x → R x y → I y) (hs : I s)
    (hm : Yields R m s P) (hf : ∀ a t, I t → P a t → Yields R (f a) t P') :
    Yields R (m >>= f) s P' :=
  Ensures.bind (hm.and_invariant hst hs) (fun a t ha => hf a t ha.2 (ha.1 a rfl)) (by simp)

theorem Yields.read_bind (h : ∀ a, query s = .ok a → Yields R (f a) s P') :
    Yields R (read query >>= f) s P' :=
  Yields.bind (P := fun a t => query s = .ok a ∧ t = s) (yields_read fun _ ha => ⟨ha, rfl⟩)
    (by rintro a t ⟨ha, rfl⟩; exact h a ha)

theorem Yields.check_bind (h : ∀ a, verdict = .ok a → Yields R (f a) s P') :
    Yields R (check verdict >>= f) s P' :=
  Yields.read_bind h

protected theorem Yields.rejectIf {P : Unit → σ → Prop} (h : ¬c → P () s) :
    Yields R (rejectIf c e) s P := by
  rw [Yields, ensures_rejectIf]
  exact ⟨fun _ => by simp, fun hc _ _ => h hc⟩

theorem Yields.rejectIf_bind {f : Unit → Program σ ε β} (h : ¬c → Yields R (f ()) s P') :
    Yields R (rejectIf c e >>= f) s P' :=
  Yields.bind (P := fun _ t => ¬c ∧ t = s) (by simp [Yields]) (by rintro a t ⟨ha, rfl⟩; exact h ha)

theorem Yields.commit_bind {f : Unit → Program σ ε β} (hs : R s (change s))
    (h : Yields R (f ()) (change s) P') : Yields R (commit change >>= f) s P' :=
  Yields.bind (P := fun _ t => t = change s) (.commit hs rfl) (by rintro a t rfl; exact h)

theorem Yields.map {f : α → β} (hm : Yields R m s P) (hf : ∀ a t, P a t → P' (f a) t) :
    Yields R (f <$> m) s P' :=
  Yields.bind hm fun a t ha => .pure (hf a t ha)

/-- A loop whose steps preserve `I` of the value they carry. -/
theorem yields_foldlM {I : α → Prop}
    (hs : ∀ a i s, I a → Yields R (step a i) s fun a' _ => I a') (items : List ι) (ha : I a)
    (s : σ) : Yields R (items.foldlM step a) s fun a' _ => I a' := by
  induction items generalizing a s with
  | nil => exact .pure ha
  | cons i rest ih =>
    exact (hs a i s ha).bind fun a' s' ha' => ih ha' s'

/-! ## Specifications of programs that cannot fail -/

/-- Every commit of `m` is an `R`-step, and `m` succeeds with a result and a final state that
    satisfy `P`. -/
def Delivers (R : σ → σ → Prop) (m : Program σ ε α) (s : σ) (P : α → σ → Prop) : Prop :=
  Ensures R m s fun r t => ∃ a, r = .ok a ∧ P a t

theorem Delivers.mono (h : Delivers R m s P) (hP : ∀ a t, P a t → P₁ a t) : Delivers R m s P₁ :=
  h.mono_post fun _ _ ⟨a, ha, hp⟩ => ⟨a, ha, hP a _ hp⟩

theorem Delivers.yields (h : Delivers R m s P) : Yields R m s P :=
  Ensures.yields h fun _ _ ⟨_, ha, hp⟩ => Except.ok.inj ha ▸ hp

theorem Delivers.result (h : Delivers R m s P) : ∃ a, m.result s = .ok a ∧ P a (m.final s) := h.2

protected theorem Delivers.pure (h : P a s) : Delivers R (pure a : Program σ ε α) s P :=
  ensures_pure.mpr ⟨a, rfl, h⟩

theorem Delivers.bind_invariant {I : σ → Prop} (hst : ∀ x y, I x → R x y → I y) (hs : I s)
    (hm : Delivers R m s P) (hf : ∀ a t, I t → P a t → Delivers R (f a) t P') :
    Delivers R (m >>= f) s P' :=
  Ensures.bind (hm.and_invariant hst hs)
    (fun _ t ⟨⟨_, ha, hp⟩, ht⟩ => hf _ t ht (Except.ok.inj ha ▸ hp))
    (fun _ _ ⟨⟨_, ha, _⟩, _⟩ => by cases ha)

theorem Delivers.read_bind (ha : query s = .ok a) (h : Delivers R (f a) s P') :
    Delivers R (read query >>= f) s P' :=
  Ensures.read_bind ha h

theorem Delivers.check_bind (ha : verdict = .ok a) (h : Delivers R (f a) s P') :
    Delivers R (check verdict >>= f) s P' :=
  .read_bind ha h

theorem Delivers.rejectIf_bind {f : Unit → Program σ ε β} (hc : ¬c) (h : Delivers R (f ()) s P') :
    Delivers R (rejectIf c e >>= f) s P' := by
  rw [Delivers, ensures_bind, ensures_rejectIf]
  exact ⟨fun hc' => absurd hc' hc, fun _ => h⟩

protected theorem Delivers.commit {P : Unit → σ → Prop} (hs : R s (change s)) (h : P () (change s)) :
    Delivers R (commit change : Program σ ε Unit) s P :=
  ensures_commit.mpr ⟨hs, (), rfl, h⟩

/-! ## Runs with crashes -/

/-- The states that a run of calls passes through after `init`, oldest first: any calls that `guard`
    allows in the state before them. Each call may be cut after any number `k` of its commits; one
    that is not cut has `k` large enough. -/
inductive CrashTrace (call : ι → Program σ ε α) (guard : σ → ι → Prop) (init : σ) : List σ → Prop
  | init : CrashTrace call guard init []
  | step {l : List σ} (i : ι) (k : Nat) (before : CrashTrace call guard init l)
      (allowed : guard (l.getLastD init) i) :
      CrashTrace call guard init (l ++ (call i (l.getLastD init)).commits.take k)

/-- The run of a list of calls with their cuts. -/
def visited (call : ι → Program σ ε α) (init : σ) : List (ι × Nat) → List σ
  | [] => []
  | (i, k) :: rest =>
    let commits := (call i init).commits.take k
    commits ++ visited call (commits.getLastD init) rest

/-- The guard allows every call of the run. -/
def Admits (call : ι → Program σ ε α) (guard : σ → ι → Prop) (init : σ) : List (ι × Nat) → Prop
  | [] => True
  | (i, k) :: rest =>
    guard init i ∧ Admits call guard (((call i init).commits.take k).getLastD init) rest

instance decidableAdmits (call : ι → Program σ ε α) (guard : σ → ι → Prop)
    [∀ s i, Decidable (guard s i)] : ∀ init steps, Decidable (Admits call guard init steps)
  | _, [] => .isTrue trivial
  | init, (i, k) :: rest =>
    have := decidableAdmits call guard (((call i init).commits.take k).getLastD init) rest
    inferInstanceAs (Decidable (guard init i ∧ Admits call guard _ rest))

theorem CrashTrace.append {guard : σ → ι → Prop} {init : σ} (h : CrashTrace call guard init l)
    (hs : Admits call guard (l.getLastD init) steps) :
    CrashTrace call guard init (l ++ Program.visited call (l.getLastD init) steps) := by
  induction steps generalizing l with
  | nil => rwa [Program.visited, List.append_nil]
  | cons step rest ih =>
    obtain ⟨i, k⟩ := step
    obtain ⟨ha, hrs⟩ := hs
    rw [← getLastD_append_eq] at hrs
    have hr := ih (h.step i k ha) hrs
    rw [getLastD_append_eq, List.append_assoc] at hr
    exact hr

theorem CrashTrace.visited {guard : σ → ι → Prop} {init : σ} (h : Admits call guard init steps) :
    CrashTrace call guard init (visited call init steps) :=
  CrashTrace.append .init h

theorem CrashTrace.weaken {guard guard' : σ → ι → Prop} {init : σ}
    (h : CrashTrace call guard init l) (hg : ∀ s i, guard s i → guard' s i) :
    CrashTrace call guard' init l := by
  induction h with
  | init => exact .init
  | step i k _ allowed ih => exact .step i k ih (hg _ _ allowed)

theorem isChain_take {a : σ} (h : List.IsChain R (a :: l)) (k : Nat) :
    List.IsChain R (a :: l.take k) := by
  rw [← List.take_append_drop k l] at h
  exact (isChain_append_iff.mp h).1

/-- **Crash runs are chains.** If the commits of every call are `R`-steps from any state that
    satisfies `I`, and `R`-steps preserve `I`, then consecutive states of a run are `R`-related. -/
theorem CrashTrace.chain {guard : σ → ι → Prop} {init : σ} {I : σ → Prop}
    (h : CrashTrace call guard init l) (hn : I init)
    (hc : ∀ i s, I s → guard s i → List.IsChain R ((call i).states s))
    (hs : ∀ x y, I x → R x y → I y) : List.IsChain R (init :: l) := by
  induction h with
  | init => exact .singleton init
  | step i k _ allowed ih =>
    have hl := isChain_getLastD ih hs hn
    exact isChain_append_iff.mpr ⟨ih, isChain_take (hc i _ hl allowed) k⟩

end Program

end Durable
