import Mathlib.Data.List.Nodup
import Mathlib.Data.String.Basic

/-!
# `OciRuntime.Sdk.Fingerprint` — canonical JSON

What a request is fingerprinted by: the text of its JSON value with the keys of every object in order
(`sdk/src/fingerprint.rs`). Scalars are of any type, and the encoding into texts is a parameter.
-/

namespace OciRuntime

inductive JsonValue (σ : Type)
  | scalar (value : σ)
  | array (values : List (JsonValue σ))
  | object (entries : List (String × JsonValue σ))

variable {σ text : Type}

def keyLe {β : Type} (left right : String × β) : Bool := left.1 ≤ right.1

/-- Where no key occurs twice, sorted lists are equal exactly if they have the same entries. -/
theorem mergeSort_keyLe_eq_iff {β : Type} {es es' : List (String × β)}
    (hk : (es.map Prod.fst).Nodup) : es.mergeSort keyLe = es'.mergeSort keyLe ↔ es.Perm es' := by
  constructor
  · intro h
    exact (List.mergeSort_perm es _).symm.trans (h ▸ List.mergeSort_perm es' _)
  · intro hp
    have hs (l : List (String × β)) : (l.mergeSort keyLe).Pairwise (keyLe · ·) :=
      List.pairwise_mergeSort (by simpa [keyLe] using fun _ _ _ _ _ _ => le_trans)
        (by simp [keyLe, le_total]) l
    refine List.Perm.eq_of_pairwise (fun x y hx hy hxy hyx => ?_) (hs _) (hs _)
      ((List.mergeSort_perm _ _).trans (hp.trans (List.mergeSort_perm _ _).symm))
    rw [List.mem_mergeSort] at hx hy
    exact List.inj_on_of_nodup_map hk hx (hp.mem_iff.mpr hy)
      (le_antisymm (of_decide_eq_true hxy) (of_decide_eq_true hyx))

mutual

/-- The keys of an object are sorted after its values, which does not change their order. -/
def sortObjectKeys : JsonValue σ → JsonValue σ
  | .array values => .array (sortValues values)
  | .object entries => .object ((sortEntries entries).mergeSort keyLe)
  | .scalar value => .scalar value

def sortValues : List (JsonValue σ) → List (JsonValue σ)
  | [] => []
  | value :: values => sortObjectKeys value :: sortValues values

def sortEntries : List (String × JsonValue σ) → List (String × JsonValue σ)
  | [] => []
  | (key, value) :: entries => (key, sortObjectKeys value) :: sortEntries entries

end

def canonicalJsonBytes (toVec : JsonValue σ → text) (value : JsonValue σ) : text :=
  toVec (sortObjectKeys value)

end OciRuntime
