import Mathlib.Data.List.Sort
import OciRuntime.Sdk.Fingerprint

/-!
# `OciRuntime.Property.CanonicalJson` — canonical texts forget the order of keys and nothing else

`Reordered` says what may differ between two values with one canonical text. A value is a reordering
of its sorted form, and sorting sees no reordering as long as keys are unique (`UniqueKeys`).
-/

namespace OciRuntime

/-- The values differ by the order of keys, in some objects at some depths. -/
inductive Reordered {σ : Type} : JsonValue σ → JsonValue σ → Prop
  | scalar (value) : Reordered (.scalar value) (.scalar value)
  | keys {entries entries'} (perm : entries.Perm entries') :
      Reordered (.object entries) (.object entries')
  /-- In an array and in an object every value may be reordered. -/
  | items {ι : Type} (l : List ι) (f g : ι → JsonValue σ) (inside : ∀ i ∈ l, Reordered (f i) (g i)) :
      Reordered (.array (l.map f)) (.array (l.map g))
  | fields {ι : Type} (l : List ι) (key : ι → String) (f g : ι → JsonValue σ)
      (inside : ∀ i ∈ l, Reordered (f i) (g i)) :
      Reordered (.object (l.map fun i => (key i, f i))) (.object (l.map fun i => (key i, g i)))
  | trans {a b c} (first : Reordered a b) (second : Reordered b c) : Reordered a c

/-- No object has a key twice. -/
inductive UniqueKeys {σ : Type} : JsonValue σ → Prop
  | scalar (value) : UniqueKeys (.scalar value)
  | array {values} (items : ∀ value ∈ values, UniqueKeys value) : UniqueKeys (.array values)
  | object {entries} (keys : (entries.map Prod.fst).Nodup)
      (fields : ∀ entry ∈ entries, UniqueKeys entry.2) : UniqueKeys (.object entries)

variable {σ text : Type} {a b : JsonValue σ}

theorem Reordered.symm (h : Reordered a b) : Reordered b a := by
  induction h with
  | scalar value => exact .scalar value
  | keys perm => exact .keys perm.symm
  | items l f g _ ih => exact .items l g f ih
  | fields l key f g _ ih => exact .fields l key g f ih
  | trans _ _ ihfirst ihsecond => exact ihsecond.trans ihfirst

theorem sortValues_eq (values : List (JsonValue σ)) : sortValues values = values.map sortObjectKeys := by
  induction values with
  | nil => rfl
  | cons value values ih => rw [sortValues, ih, List.map_cons]

theorem sortEntries_eq (es : List (String × JsonValue σ)) :
    sortEntries es = es.map fun e => (e.1, sortObjectKeys e.2) := by
  induction es with
  | nil => rfl
  | cons e es ih => rw [sortEntries, ih, List.map_cons]

theorem reordered_sort (h : UniqueKeys a) : Reordered a (sortObjectKeys a) := by
  induction h with
  | scalar value => exact .scalar value
  | @array values _ ih =>
    have ht := Reordered.items values id sortObjectKeys ih
    rwa [List.map_id, ← sortValues_eq] at ht
  | @object entries _ _ ih =>
    have hf := Reordered.fields entries Prod.fst Prod.snd (fun entry => sortObjectKeys entry.2) ih
    rw [← sortEntries_eq] at hf
    exact .trans (by simpa using hf) (.keys (List.mergeSort_perm _ _).symm)

theorem Reordered.sort_eq (h : Reordered a b) (ha : UniqueKeys a) :
    UniqueKeys b ∧ sortObjectKeys a = sortObjectKeys b := by
  induction h with
  | scalar value => exact ⟨ha, rfl⟩
  | keys perm =>
    obtain ⟨⟩ | ⟨⟩ | ⟨keys, fields⟩ := ha
    refine ⟨.object ((perm.map _).nodup_iff.mp keys) fun entry hen =>
      fields entry (perm.mem_iff.mpr hen), ?_⟩
    simp only [sortObjectKeys, sortEntries_eq]
    rw [(mergeSort_keyLe_eq_iff (by simpa [Function.comp_def] using keys)).mpr (perm.map _)]
  | items l f g _ ih =>
    obtain ⟨⟩ | ⟨items⟩ | ⟨⟩ := ha
    rw [List.forall_mem_map] at items
    refine ⟨.array (List.forall_mem_map.mpr fun i hi => (ih i hi (items i hi)).1), ?_⟩
    simpa [sortObjectKeys, sortValues_eq] using fun i hi => (ih i hi (items i hi)).2
  | fields l key f g _ ih =>
    obtain ⟨⟩ | ⟨⟩ | ⟨keys, fields⟩ := ha
    rw [List.forall_mem_map] at fields
    refine ⟨.object (by simpa [Function.comp_def] using keys)
      (List.forall_mem_map.mpr fun i hi => (ih i hi (fields i hi)).1), ?_⟩
    have hs : l.map (fun i => (key i, sortObjectKeys (f i))) =
        l.map fun i => (key i, sortObjectKeys (g i)) :=
      List.map_congr_left fun i hi => by rw [(ih i hi (fields i hi)).2]
    simp only [sortObjectKeys, sortEntries_eq, List.map_map, Function.comp_def, hs]
  | trans _ _ ihfirst ihsecond =>
    obtain ⟨hb, hf⟩ := ihfirst ha
    exact ⟨(ihsecond hb).1, hf.trans (ihsecond hb).2⟩

/-- **Canonical texts.** Two values have the same one exactly if they differ by the order of keys, and
    a canonical value is its own canonical form. -/
theorem canonical_bytes_eq_iff {toVec : JsonValue σ → text} (henc : Function.Injective toVec)
    (ha : UniqueKeys a) (hb : UniqueKeys b) :
    (canonicalJsonBytes toVec a = canonicalJsonBytes toVec b ↔ Reordered a b) ∧
      sortObjectKeys (sortObjectKeys a) = sortObjectKeys a := by
  have hs := reordered_sort ha
  refine ⟨⟨fun h => ?_, fun h => congrArg toVec (h.sort_eq ha).2⟩, (hs.sort_eq ha).2.symm⟩
  rw [show sortObjectKeys a = sortObjectKeys b from henc h] at hs
  exact hs.trans (reordered_sort hb).symm

namespace Sample

inductive JsonToken
  | scalar (value : Nat)
  | key (name : String)
  | openArray
  | openObject
  | close

mutual

def tokens : JsonValue Nat → List JsonToken
  | .scalar value => [.scalar value]
  | .array values => .openArray :: valueTokens values
  | .object entries => .openObject :: entryTokens entries

def valueTokens : List (JsonValue Nat) → List JsonToken
  | [] => [.close]
  | value :: values => tokens value ++ valueTokens values

def entryTokens : List (String × JsonValue Nat) → List JsonToken
  | [] => [.close]
  | (key, value) :: entries => .key key :: (tokens value ++ entryTokens entries)

end

mutual

/-- Each value ends where its own tokens end. -/
theorem tokens_append_inj : ∀ (a b : JsonValue Nat) (rest rest' : List JsonToken),
    tokens a ++ rest = tokens b ++ rest' → a = b ∧ rest = rest'
  | .scalar _, b, _, _, h => by cases b <;> simp_all [tokens]
  | .array values, b, rest, rest', h => by
    cases b with
    | array values' =>
      simpa using valueTokens_append_inj values values' rest rest' (by simpa [tokens] using h)
    | _ => simp [tokens] at h
  | .object entries, b, rest, rest', h => by
    cases b with
    | object entries' =>
      simpa using entryTokens_append_inj entries entries' rest rest' (by simpa [tokens] using h)
    | _ => simp [tokens] at h

theorem valueTokens_append_inj : ∀ (values values' : List (JsonValue Nat))
    (rest rest' : List JsonToken),
    valueTokens values ++ rest = valueTokens values' ++ rest' → values = values' ∧ rest = rest'
  | [], [], _, _, h => by simpa [valueTokens] using h
  | [], value :: _, _, _, h => by cases value <;> simp [valueTokens, tokens] at h
  | value :: _, [], _, _, h => by cases value <;> simp [valueTokens, tokens] at h
  | value :: values, value' :: values', rest, rest', h => by
    simp only [valueTokens, List.append_assoc] at h
    obtain ⟨rfl, hv⟩ := tokens_append_inj value value' _ _ h
    obtain ⟨rfl, hr⟩ := valueTokens_append_inj values values' rest rest' hv
    exact ⟨rfl, hr⟩

theorem entryTokens_append_inj : ∀ (entries entries' : List (String × JsonValue Nat))
    (rest rest' : List JsonToken),
    entryTokens entries ++ rest = entryTokens entries' ++ rest' → entries = entries' ∧ rest = rest'
  | [], [], _, _, h => by simpa [entryTokens] using h
  | [], (_, _) :: _, _, _, h => by simp [entryTokens] at h
  | (_, _) :: _, [], _, _, h => by simp [entryTokens] at h
  | (key, value) :: entries, (key', value') :: entries', rest, rest', h => by
    simp only [entryTokens, List.cons_append, List.append_assoc, List.cons.injEq,
      JsonToken.key.injEq] at h
    obtain ⟨rfl, hv⟩ := tokens_append_inj value value' _ _ h.2
    obtain ⟨rfl, hr⟩ := entryTokens_append_inj entries entries' rest rest' hv
    exact ⟨by rw [h.1], hr⟩

end

theorem tokens_injective : Function.Injective tokens := fun a b h =>
  (tokens_append_inj a b [] [] (by rw [h])).1

/-- An object in an array in an object. -/
def nested (first second : String × JsonValue Nat) : JsonValue Nat :=
  .object [("b", .array [.object [first, second], .scalar 3]), ("a", .scalar 0)]

theorem nested_uniqueKeys {first second : String × JsonValue Nat} (hne : first.1 ≠ second.1)
    (hf : UniqueKeys first.2) (hs : UniqueKeys second.2) : UniqueKeys (nested first second) := by
  have ho : UniqueKeys (.object [first, second]) := .object (by simpa using hne) (by simp [hf, hs])
  have ha : UniqueKeys (.array [.object [first, second], .scalar 3]) :=
    .array (by simp [ho, UniqueKeys.scalar])
  exact .object (by simp) (by simp [ha, UniqueKeys.scalar])

theorem nested_reordered (first second : String × JsonValue Nat) :
    Reordered (nested first second) (nested second first) := by
  have hk : Reordered (.object [first, second]) (.object [second, first]) := .keys (.swap _ _ _)
  have hi := Reordered.items [(JsonValue.object [first, second], .object [second, first]),
    (.scalar 3, .scalar 3)] Prod.fst Prod.snd (by simp [hk, Reordered.scalar])
  exact .fields [("b", _, _), ("a", .scalar 0, .scalar 0)] Prod.fst (·.2.1) (·.2.2)
    (by simpa [Reordered.scalar] using hi)

end Sample

/-- Keys are reordered two levels below the root. -/
theorem nested_keys_have_one_text :
    canonicalJsonBytes Sample.tokens (Sample.nested ("d", .scalar 1) ("c", .scalar 2)) =
      canonicalJsonBytes Sample.tokens (Sample.nested ("c", .scalar 2) ("d", .scalar 1)) :=
  (canonical_bytes_eq_iff Sample.tokens_injective
    (Sample.nested_uniqueKeys (by decide) (.scalar 1) (.scalar 2))
    (Sample.nested_uniqueKeys (by decide) (.scalar 2) (.scalar 1))).1.mpr
      (Sample.nested_reordered _ _)

end OciRuntime
