import Mathlib.Data.List.AList
import Mathlib.Data.List.Sort

/-!
# `OciRuntime.Lib.Directory` — directories of atomically replaced files

A directory maps the valid file names `κ` to decoded contents `ν`. A file is replaced atomically by
writing a transaction file next to it and renaming that over the target, so a crash may leave
transaction files behind; `strays` lists entries whose names are neither. The lemmas say what
`write` and `remove` do to each name and relate the listing to lookups. A `ListingOrder` is the
order in which a file system lists names.
-/

namespace Durable

/-- A directory of files named by `κ`. -/
structure Directory (κ ν : Type) where
  files : AList fun _ : κ => ν
  transactions : List κ
  strays : List String

namespace Directory

variable {κ ν : Type}

/-- A freshly created directory. -/
def empty : Directory κ ν := ⟨∅, [], []⟩

instance : Inhabited (Directory κ ν) := ⟨empty⟩

/-- The directory's files, in listing order. -/
def entries (d : Directory κ ν) : List (κ × ν) := d.files.entries.map fun e => (e.1, e.2)

/-- No name is listed twice. -/
theorem nodup_keys (d : Directory κ ν) : (d.entries.map Prod.fst).Nodup := by
  have h := d.files.nodupKeys
  unfold entries
  rw [List.map_map]
  exact h

variable [DecidableEq κ]

section
variable (d : Directory κ ν)

/-- Contents of the file named `k`, if it exists. -/
def get? (k : κ) : Option ν := d.files.lookup k

/-- Replace (or create) the file named `k`; its transaction file, if any, is consumed. -/
def write (k : κ) (v : ν) : Directory κ ν :=
  { d with files := d.files.insert k v, transactions := d.transactions.filter (· ≠ k) }

/-- Move the entry named `k` away. -/
def remove (k : κ) : Directory κ ν :=
  { d with files := d.files.erase k }

@[simp] theorem get?_write_self (k : κ) (v : ν) : (d.write k v).get? k = some v :=
  AList.lookup_insert _

theorem get?_write_of_ne (v : ν) (h : k' ≠ k) : (d.write k v).get? k' = d.get? k' :=
  AList.lookup_insert_ne h

theorem get?_write (k k' : κ) (v : ν) :
    (d.write k v).get? k' = if k' = k then some v else d.get? k' := by
  by_cases h : k' = k
  · subst h
    simp
  · rw [if_neg h, get?_write_of_ne d v h]

end

/-- What holds of the new file and of every old one holds of every file after a write. -/
theorem forall_write {d : Directory κ ν} {P : κ → ν → Prop} (hn : P k v)
    (hold : ∀ k' w, d.get? k' = some w → P k' w) :
    ∀ k' w, (d.write k v).get? k' = some w → P k' w := by
  intro k' w h
  rw [get?_write] at h
  split at h
  · rename_i heq
    cases h
    exact heq ▸ hn
  · exact hold k' w h

@[simp] theorem get?_remove_self (d : Directory κ ν) (k : κ) : (d.remove k).get? k = none :=
  AList.lookup_erase _ _

theorem get?_remove_of_ne (d : Directory κ ν) (h : k' ≠ k) : (d.remove k).get? k' = d.get? k' :=
  AList.lookup_erase_ne h

theorem get?_remove (d : Directory κ ν) (k k' : κ) :
    (d.remove k).get? k' = if k' = k then none else d.get? k' := by
  by_cases h : k' = k
  · subst h
    simp
  · rw [if_neg h, get?_remove_of_ne d h]

/-- Listing a directory and looking a name up agree. -/
theorem mem_entries {d : Directory κ ν} : (k, v) ∈ d.entries ↔ d.get? k = some v := by
  constructor
  · intro h
    obtain ⟨⟨k', v'⟩, hm, heq⟩ := List.mem_map.mp h
    obtain ⟨rfl, rfl⟩ := Prod.mk.injEq .. ▸ heq
    exact AList.mem_lookup_iff.mpr hm
  · intro h
    exact List.mem_map.mpr ⟨⟨k, v⟩, AList.mem_lookup_iff.mp h, rfl⟩

/-! ### Directories without their transaction files -/

/-- The directory without the transaction files of interrupted writes. -/
def bare (d : Directory κ ν) : Directory κ ν := { d with transactions := [] }

@[simp] theorem get?_bare (d : Directory κ ν) (k : κ) : d.bare.get? k = d.get? k := rfl

omit [DecidableEq κ] in
@[simp] theorem entries_bare (d : Directory κ ν) : d.bare.entries = d.entries := rfl

omit [DecidableEq κ] in
@[simp] theorem strays_bare (d : Directory κ ν) : d.bare.strays = d.strays := rfl

theorem bare_write (d : Directory κ ν) (k : κ) (v : ν) : (d.write k v).bare = (d.bare.write k v).bare :=
  rfl

theorem bare_write_congr {d d' : Directory κ ν} (k : κ) (v : ν) (h : d.bare = d'.bare) :
    (d.write k v).bare = (d'.write k v).bare := by
  rw [bare_write, h, ← bare_write]

/-- The directory with all contents replaced by their image. -/
def map {ν' : Type} (f : ν → ν') (d : Directory κ ν) : Directory κ ν' where
  files := ⟨d.files.entries.map fun e => ⟨e.1, f e.2⟩,
    List.NodupKeys.map₂ (fun _ => f) _ d.files.nodupKeys⟩
  transactions := d.transactions
  strays := d.strays

variable {ν' : Type} {f : ν → ν'}

section
variable (d : Directory κ ν)

@[simp] theorem get?_map (k : κ) : (d.map f).get? k = (d.get? k).map f :=
  List.dlookup_map₂ (f := fun _ => f) k

omit [DecidableEq κ] in
@[simp] theorem strays_map : (d.map f).strays = d.strays := rfl

omit [DecidableEq κ] in
@[simp] theorem entries_map : (d.map f).entries = d.entries.map fun e => (e.1, f e.2) := by
  simp only [entries, map, List.map_map, Function.comp_def]

omit [DecidableEq κ] in
theorem map_map : (d.map f).map g = d.map (g ∘ f) := by
  simp only [map, List.map_map]
  rfl

theorem kerase_map (k : κ) (l : List (Sigma fun _ : κ => ν)) :
    List.kerase k (l.map fun e => (⟨e.1, f e.2⟩ : Sigma fun _ : κ => ν')) =
      (List.kerase k l).map fun e => ⟨e.1, f e.2⟩ := by
  unfold List.kerase
  rw [List.eraseP_map]
  rfl

theorem map_write (k : κ) (v : ν) : (d.write k v).map f = (d.map f).write k (f v) := by
  have hf : (d.write k v).files.entries.map (fun e => (⟨e.1, f e.2⟩ : Sigma fun _ : κ => ν')) =
      ((d.map f).write k (f v)).files.entries := by
    simp only [write, map, AList.entries_insert, List.map_cons, kerase_map]
  simp only [map, write] at hf ⊢
  congr 1
  exact AList.ext hf

theorem map_remove (k : κ) : (d.remove k).map f = (d.map f).remove k := by
  simp only [remove, map]
  congr 1
  exact AList.ext (kerase_map k _).symm

end

end Directory

/-! ## Listings -/

/-- The order in which a file system lists the names of a directory. -/
structure ListingOrder where
  le : String → String → Bool
  trans : le a b → le b c → le a c
  total : ∀ a b, le a b ∨ le b a
  antisymm : le a b → le b a → a = b

namespace ListingOrder

variable (order : ListingOrder) {names names' : List String}

instance : IsTrans String (order.le · ·) := ⟨fun _ _ _ => order.trans⟩

instance : Std.Total (order.le · ·) := ⟨order.total⟩

instance : Std.Antisymm (order.le · ·) := ⟨fun _ _ => order.antisymm⟩

def sort (names : List String) : List String := names.insertionSort (order.le · ·)

@[simp] theorem mem_sort : name ∈ order.sort names ↔ name ∈ names :=
  List.mem_insertionSort _

theorem pairwise_sort (names : List String) : (order.sort names).Pairwise (order.le · ·) :=
  List.pairwise_insertionSort _ names

/-- Names that are left out may be listed anywhere. -/
theorem filter_sort {keep : String → Bool} (h : names.filter keep = names'.filter keep) :
    (order.sort names).filter keep = (order.sort names').filter keep := by
  have hp : ∀ l : List String, ((order.sort l).filter keep).Perm (l.filter keep) :=
    fun l => (List.perm_insertionSort _ l).filter keep
  refine List.Perm.eq_of_pairwise' ((order.pairwise_sort _).filter keep)
    ((order.pairwise_sort _).filter keep) ((hp names).trans ?_)
  rw [h]
  exact (hp names').symm

/-- The first listed name with a property comes before the others that have it. -/
theorem find?_sort {p : String → Bool} (h : (order.sort names).find? p = some name) :
    name ∈ names ∧ p name = true ∧ ∀ other ∈ names, p other = true → order.le name other = true := by
  refine ⟨order.mem_sort.mp (List.mem_of_find?_eq_some h), List.find?_some h, fun other ho hp => ?_⟩
  obtain ⟨-, before, after, hl, hb⟩ := List.find?_eq_some_iff_append.mp h
  have hs := order.pairwise_sort names
  rw [hl, List.pairwise_append] at hs
  have hm := order.mem_sort.mpr ho
  rw [hl, List.mem_append, List.mem_cons] at hm
  rcases hm with hm | rfl | hm
  · have hn := hb other hm
    rw [hp] at hn
    cases hn
  · exact (order.total _ _).elim id id
  · exact List.rel_of_pairwise_cons hs.2.1 hm

end ListingOrder

end Durable
