import Mathlib.Data.List.Pairwise
import OciRuntime.Agent.IdMappings

/-!
# `OciRuntime.Property.IdMappings` — accepted id mappings translate injectively

A list of mappings is accepted if every range fits into the 32-bit ids and no two overlap, on either
side (`AcceptedMappings`). The host id of a container id then comes from the only range that covers it, so
the translation is injective and does not depend on the order in which the mappings were listed.
-/

namespace OciRuntime

open Durable

variable {l m : List IdMapping} {a b : IdMapping} {id id' host : UInt32}

/-! ## Acceptance -/

def IdMapping.Covers (a : IdMapping) (id : UInt32) : Prop :=
  a.containerId.toNat ≤ id.toNat ∧ id.toNat < a.containerId.toNat + a.size.toNat

/-- The ranges of two mappings overlap neither in the container nor on the host. -/
def IdMapping.Apart (a b : IdMapping) : Prop :=
  (a.containerId.toNat + a.size.toNat ≤ b.containerId.toNat ∨
    b.containerId.toNat + b.size.toNat ≤ a.containerId.toNat) ∧
  (a.hostId.toNat + a.size.toNat ≤ b.hostId.toNat ∨ b.hostId.toNat + b.size.toNat ≤ a.hostId.toNat)

theorem IdMapping.Apart.symm (h : a.Apart b) : b.Apart a := ⟨h.1.symm, h.2.symm⟩

/-- What both ways of accepting a list check. -/
structure AcceptedMappings (l : List IdMapping) : Prop where
  short : l.length ≤ maxIdMappings
  fits : ∀ a ∈ l, a.size ≠ 0 ∧ a.exceeds = false
  apart : l.Pairwise IdMapping.Apart

theorem overlap_eq_false {left leftSize right rightSize : UInt32} :
    mappingRangesOverlap left leftSize right rightSize = false ↔
      left.toNat + leftSize.toNat ≤ right.toNat ∨ right.toNat + rightSize.toNat ≤ left.toNat := by
  rw [mappingRangesOverlap, Bool.and_eq_false_iff, decide_eq_false_iff_not, decide_eq_false_iff_not]
  omega

/-- Every mapping is compared with those before it, so every two are compared. -/
theorem acceptedMappings_iff : AcceptedMappings l ↔ l.length ≤ maxIdMappings ∧
    ∀ a (i : Nat), l[i]? = some a → (a.size ≠ 0 ∧ a.exceeds = false) ∧
      ∀ b (j : Nat), (l.take i)[j]? = some b → a.Apart b := by
  constructor
  · rintro ⟨hl, hf, hpt⟩
    refine ⟨hl, fun a i hi => ⟨hf a (List.mem_of_getElem? hi), fun b j hj => ?_⟩⟩
    obtain ⟨hls, rfl⟩ := List.getElem?_eq_some_iff.mp hi
    rw [List.getElem?_take] at hj
    split at hj
    · obtain ⟨hp, rfl⟩ := List.getElem?_eq_some_iff.mp hj
      exact (List.pairwise_iff_getElem.mp hpt j i hp hls ‹_›).symm
    · cases hj
  · rintro ⟨hl, h⟩
    refine ⟨hl, fun a ha => ?_, List.pairwise_iff_getElem.mpr fun i j hi hj hij => ?_⟩
    · obtain ⟨i, hi⟩ := List.mem_iff_getElem?.mp ha
      exact (h a i hi).1
    · have hp : (l.take j)[i]? = some l[i] := by
        rw [List.getElem?_take, if_pos hij, List.getElem?_eq_getElem hi]
      exact ((h l[j] j (List.getElem?_eq_getElem hj)).2 l[i] i hp).symm

theorem collectMappings_eq_ok {field : String} : collectMappings field mappings = .ok m ↔
      AcceptedMappings (mappings.getD []) ∧ sortMappings (mappings.getD []) = m := by
  simp only [collectMappings, validateNonOverlappingMappings, unit_bind_eq_ok, rejectIf_eq_ok,
    forM_zipIdx_eq_ok, pure_eq_ok, Bool.not_eq_true, overlap_eq_false, acceptedMappings_iff,
    IdMapping.Apart, not_lt, gt_iff_lt, imp_and, forall_and, and_assoc, ne_eq]

theorem validateObservedMappings_eq_ok {kind : String} : validateObservedMappings kind l = .ok m ↔
      l.isEmpty = false ∧ AcceptedMappings l ∧ sortMappings l = m := by
  simp only [validateObservedMappings, unit_bind_eq_ok, rejectIf_eq_ok, Bool.or_eq_true, not_or,
    forM_zipIdx_eq_ok, pure_eq_ok, Bool.not_eq_true, overlap_eq_false, acceptedMappings_iff,
    IdMapping.Apart, not_lt, gt_iff_lt, and_assoc, ne_eq]

/-! ## Translation -/

theorem checkedAdd_of_lt (h : x.toNat + y.toNat < UInt32.size) :
    checkedAdd x y = some (x + y) ∧ (x + y).toNat = x.toNat + y.toNat :=
  ⟨if_pos h, by rw [UInt32.toNat_add, Nat.mod_eq_of_lt h]⟩

/-- An accepted host range lies within the 32-bit ids. -/
theorem IdMapping.host_bound (h : a.size ≠ 0 ∧ a.exceeds = false) :
    a.hostId.toNat + a.size.toNat ≤ UInt32.size := by
  have hp : 1 ≤ a.size.toNat := Nat.one_le_iff_ne_zero.mpr fun h0 => h.1 (UInt32.toNat.inj h0)
  have hl : (a.size - 1).toNat = a.size.toNat - 1 :=
    UInt32.toNat_sub_of_le _ _ (UInt32.le_iff_toNat_le.mpr hp)
  by_contra hv
  have hn : checkedAdd a.hostId (a.size - 1) = none := if_neg (by omega)
  simp [exceeds, hn] at h

theorem IdMapping.covers_iff : a.Covers id ↔ a.containerId ≤ id ∧ id - a.containerId < a.size := by
  rw [Covers, UInt32.le_iff_toNat_le, UInt32.lt_iff_toNat_lt]
  refine and_congr_right fun hl => ?_
  rw [UInt32.toNat_sub_of_le _ _ (UInt32.le_iff_toNat_le.mpr hl)]
  omega

/-- A mapping translates the ids it covers, to the host ids of its range. -/
theorem IdMapping.translate_eq_some (h : a.size ≠ 0 ∧ a.exceeds = false) :
    a.translate id = some host ↔
      a.Covers id ∧ host.toNat + a.containerId.toNat = a.hostId.toNat + id.toNat := by
  have hb := host_bound h
  unfold translate checkedSub
  by_cases hc : a.Covers id
  · obtain ⟨hle, hlt⟩ := covers_iff.mp hc
    have ho := UInt32.toNat_sub_of_le id a.containerId hle
    obtain ⟨hl, hh⟩ := hc
    obtain ⟨ha, hs⟩ := checkedAdd_of_lt (x := a.hostId) (y := id - a.containerId) (by omega)
    rw [if_pos hle, Option.bind_eq_bind, Option.bind_some, if_pos hlt, ha, Option.some.injEq,
      ← UInt32.toNat_inj, and_iff_right ⟨hl, hh⟩]
    omega
  · by_cases hle : a.containerId ≤ id
    · have hlt : ¬id - a.containerId < a.size := fun hlt => hc (covers_iff.mpr ⟨hle, hlt⟩)
      simp [hle, hlt, hc]
    · simp [hle, hc]

theorem mem_sortMappings : a ∈ sortMappings l ↔ a ∈ l := List.mem_insertionSort _

theorem IdMapping.key_injective (h : a.key = b.key) : a = b := by
  cases a
  cases b
  simpa [key, UInt32.toNat_inj] using h

/-- The sorted list does not depend on the order of the given one. -/
theorem sortMappings_eq_of_perm (h : l.Perm m) : sortMappings l = sortMappings m := by
  have hs (l : List IdMapping) : (sortMappings l).Pairwise fun a b => a.key ≤ b.key :=
    List.pairwise_insertionSort _ l
  refine List.Perm.eq_of_pairwise (fun a b _ _ ha hb => ?_) (hs l) (hs m) ?_
  · exact IdMapping.key_injective (le_antisymm ha hb)
  · exact (List.perm_insertionSort _ l).trans (h.trans (List.perm_insertionSort _ m).symm)

/-- The host ids that `m` gives to container ids, where `m` was accepted as the list `l`. -/
structure Translates (l m : List IdMapping) : Prop where
  domain : ∀ id, (mappedHostId id m).isSome ↔ ∃ a ∈ l, a.Covers id
  host_eq : ∀ a ∈ l, ∀ id host, a.Covers id → (mappedHostId id m = some host ↔
    host.toNat + a.containerId.toNat = a.hostId.toNat + id.toNat)
  injective : ∀ id id' host, mappedHostId id m = some host → mappedHostId id' m = some host →
    id = id'

theorem AcceptedMappings.isSome_iff (h : AcceptedMappings l) :
    (mappedHostId id (sortMappings l)).isSome ↔ ∃ a ∈ l, a.Covers id := by
  simp only [mappedHostId, List.findSome?_isSome_iff, mem_sortMappings]
  refine exists_congr fun a => and_congr_right fun ha => ?_
  rw [Option.isSome_iff_exists]
  constructor
  · rintro ⟨host, hh⟩
    exact ((IdMapping.translate_eq_some (h.fits a ha)).mp hh).1
  · rintro ⟨hl, hhg⟩
    have hb := IdMapping.host_bound (h.fits a ha)
    have hlt : a.hostId.toNat + id.toNat - a.containerId.toNat < UInt32.size := by omega
    refine ⟨.ofNat (a.hostId.toNat + id.toNat - a.containerId.toNat),
      (IdMapping.translate_eq_some (h.fits a ha)).mpr ⟨⟨hl, hhg⟩, ?_⟩⟩
    rw [UInt32.toNat_ofNat_of_lt' hlt]
    omega

theorem AcceptedMappings.eq_or_apart (h : AcceptedMappings l) (ha : a ∈ l) (hb : b ∈ l) :
    a = b ∨ a.Apart b := by
  have : Std.Symm IdMapping.Apart := ⟨fun _ _ => IdMapping.Apart.symm⟩
  exact or_iff_not_imp_left.mpr (h.apart.forall ha hb)

/-- A host id comes from a mapping that covers the id. -/
theorem AcceptedMappings.covering (h : AcceptedMappings l)
    (hm : mappedHostId id (sortMappings l) = some host) :
    ∃ a ∈ l, a.Covers id ∧ host.toNat + a.containerId.toNat = a.hostId.toNat + id.toNat := by
  obtain ⟨a, ha, hh⟩ := List.exists_of_findSome?_eq_some hm
  rw [mem_sortMappings] at ha
  exact ⟨a, ha, (IdMapping.translate_eq_some (h.fits a ha)).mp hh⟩

theorem AcceptedMappings.translates (h : AcceptedMappings l) : Translates l (sortMappings l) := by
  refine ⟨fun id => h.isSome_iff, fun a ha id host hc => ?_, fun id id' host hi hi' => ?_⟩
  · have hv : ∀ other, mappedHostId id (sortMappings l) = some other →
        other.toNat + a.containerId.toNat = a.hostId.toNat + id.toNat := by
      intro other ho
      obtain ⟨b, hb, hcb, hs⟩ := h.covering ho
      -- both ranges hold the id, so they are the same one
      rcases h.eq_or_apart ha hb with rfl | hp
      · exact hs
      · unfold IdMapping.Covers at hc hcb
        have := hp.1
        omega
    refine ⟨hv host, fun heq => ?_⟩
    obtain ⟨other, ho⟩ := Option.isSome_iff_exists.mp (h.isSome_iff.mpr ⟨a, ha, hc⟩)
    have hs := hv other ho
    rw [ho, UInt32.toNat.inj (show other.toNat = host.toNat by omega)]
  · obtain ⟨a, ha, hc, hs⟩ := h.covering hi
    obtain ⟨b, hb, hc', hs'⟩ := h.covering hi'
    unfold IdMapping.Covers at hc hc'
    -- both ranges hold the host id, so they are the same one
    rcases h.eq_or_apart ha hb with rfl | hp
    · exact UInt32.toNat.inj (by omega)
    · have := hp.2
      omega

theorem AcceptedMappings.perm (h : AcceptedMappings l) (hp : m.Perm l) : AcceptedMappings m :=
  ⟨hp.length_eq ▸ h.short, fun a ha => h.fits a (hp.mem_iff.mp ha),
    (hp.pairwise_iff IdMapping.Apart.symm).mpr h.apart⟩

theorem collectMappings_perm {field : String} {given other : Option (List IdMapping)}
    (h : collectMappings field given = .ok m) (hp : (other.getD []).Perm (given.getD [])) :
    collectMappings field other = .ok m := by
  rw [collectMappings_eq_ok] at h ⊢
  exact ⟨h.1.perm hp, (sortMappings_eq_of_perm hp).trans h.2⟩

theorem validateObservedMappings_perm {kind : String} {other : List IdMapping}
    (h : validateObservedMappings kind l = .ok m) (hp : other.Perm l) :
    validateObservedMappings kind other = .ok m := by
  rw [validateObservedMappings_eq_ok] at h ⊢
  exact ⟨hp.isEmpty_eq.trans h.1, h.2.1.perm hp, (sortMappings_eq_of_perm hp).trans h.2.2⟩

/-! ## Plans -/

theorem ensureIdMapped_eq_ok {field : String} :
    ensureIdMapped field id l = .ok () ↔ ∃ a ∈ l, a.Covers id := by
  simp [ensureIdMapped, IdMapping.covers_iff]

/-- The ids that a plan was checked for have host ids. -/
def NamespacePlan.TranslatesUser (plan : NamespacePlan) (user : ProcessUser) : Prop :=
  (∀ id ∈ [0, user.uid], (plan.hostUid id).isSome) ∧
    ∀ id ∈ 0 :: user.gid :: user.additionalGids, (plan.hostGid id).isSome

variable {plan before : NamespacePlan} {user : ProcessUser} {uids gids : List IdMapping}

theorem ProcessUser.ensureMapped_ok (hu : AcceptedMappings uids) (hg : AcceptedMappings gids)
    (hd : sortMappings uids = plan.uidMappings) (hgd : sortMappings gids = plan.gidMappings)
    (h : user.ensureMapped plan.uidMappings plan.gidMappings = .ok ()) :
    plan.TranslatesUser user := by
  simp only [ensureMapped, unit_bind_eq_ok, ensureIdMapped_eq_ok, forM_zipIdx_eq_ok, ← hd,
    ← hgd, mem_sortMappings, ← hu.isSome_iff, ← hg.isSome_iff] at h
  obtain ⟨hr, hgt, hud, hgi, hgr⟩ := h
  unfold NamespacePlan.TranslatesUser NamespacePlan.hostUid NamespacePlan.hostGid
  rw [← hd, ← hgd]
  split
  · simp
  · refine ⟨by simp [hr, hud], fun id hid => ?_⟩
    rcases List.mem_cons.mp hid with rfl | hid
    · exact hgt
    rcases List.mem_cons.mp hid with rfl | hid
    · exact hgi
    obtain ⟨i, hi⟩ := List.mem_iff_getElem?.mp hid
    exact hgr id i hi

variable {action : NamespaceAction} {given given' other other' : Option (List IdMapping)}

theorem NamespacePlan.fromLinux_ok (h : fromLinux action given given' user = .ok plan) :
    plan.user = action ∧ collectMappings "linux.uidMappings" given = .ok plan.uidMappings ∧
      collectMappings "linux.gidMappings" given' = .ok plan.gidMappings ∧
      (action = .create → user.ensureMapped plan.uidMappings plan.gidMappings = .ok ()) := by
  obtain ⟨uids, hu, h⟩ := bind_eq_ok.mp h
  obtain ⟨gids, hg, h⟩ := bind_eq_ok.mp h
  split at h
  · simp only [unit_bind_eq_ok, pure_eq_ok] at h
    obtain ⟨-, hm, rfl⟩ := h
    exact ⟨rfl, hu, hg, fun _ => hm⟩
  · rename_i hn
    obtain ⟨-, hp⟩ := unit_bind_eq_ok.mp h
    cases hp
    exact ⟨rfl, hu, hg, fun h => absurd h hn⟩

/-- The order of the configured mappings does not show in the plan. -/
theorem NamespacePlan.fromLinux_perm (h : fromLinux action given given' user = .ok plan)
    (hu : (other.getD []).Perm (given.getD [])) (hg : (other'.getD []).Perm (given'.getD [])) :
    fromLinux action other other' user = .ok plan := by
  obtain ⟨-, hgv, hgv', -⟩ := fromLinux_ok h
  rw [← h]
  unfold fromLinux
  rw [hgv, hgv', collectMappings_perm hgv hu, collectMappings_perm hgv' hg]

theorem NamespacePlan.resolve_ok (hj : before.user.isJoin = true)
    (h : before.resolveJoinedUserMappings uids gids user = .ok plan) :
    validateObservedMappings "UID" uids = .ok plan.uidMappings ∧
      validateObservedMappings "GID" gids = .ok plan.gidMappings ∧
      user.ensureMapped plan.uidMappings plan.gidMappings = .ok () := by
  simp only [resolveJoinedUserMappings, hj, Bool.not_true, Bool.false_eq_true, if_false,
    bind_eq_ok, pure_eq_ok] at h
  obtain ⟨_, _, _, hu, _, hg, _, hm, rfl⟩ := h
  exact ⟨hu, hg, hm⟩

theorem NamespacePlan.resolve_perm
    (h : before.resolveJoinedUserMappings uids gids user = .ok plan) (hu : l.Perm uids)
    (hg : m.Perm gids) : before.resolveJoinedUserMappings l m user = .ok plan := by
  by_cases hj : before.user.isJoin = true
  · obtain ⟨hd, hgd, -⟩ := resolve_ok hj h
    rw [← h]
    unfold resolveJoinedUserMappings
    rw [hd, hgd, validateObservedMappings_perm hd hu, validateObservedMappings_perm hgd hg]
  · simpa [resolveJoinedUserMappings, hj] using h

/-- **Accepted mappings translate injectively.** For the user and for the group ids of a plan, the
    container ids with a host id are those that a given mapping covers (one of the joined namespace,
    if there is one), no two of them have the same host id, and every id that was checked has one.
    Listing the mappings in another order gives the same plan. -/
theorem planned_ids_translate (hpl : NamespacePlan.fromLinux action given given' user = .ok before)
    (hres : before.resolveJoinedUserMappings uids gids user = .ok plan) :
    Translates (if action.isJoin then uids else given.getD []) plan.uidMappings ∧
      Translates (if action.isJoin then gids else given'.getD []) plan.gidMappings ∧
      plan.TranslatesUser user ∧
      ∀ other other' uids' gids', (other.getD []).Perm (given.getD []) →
        (other'.getD []).Perm (given'.getD []) → uids'.Perm uids → gids'.Perm gids →
        (NamespacePlan.fromLinux action other other' user >>=
          (·.resolveJoinedUserMappings uids' gids' user)) = .ok plan := by
  obtain ⟨rfl, hgv, hgv', hm⟩ := NamespacePlan.fromLinux_ok hpl
  rw [← and_assoc, ← and_assoc]
  refine ⟨?_, fun other other' uids' gids' ho ho' hu hg => ?_⟩
  · by_cases hj : before.user.isJoin = true
    · obtain ⟨hd, hgd, hm⟩ := NamespacePlan.resolve_ok hj hres
      obtain ⟨-, hd, hu⟩ := validateObservedMappings_eq_ok.mp hd
      obtain ⟨-, hgd, hg⟩ := validateObservedMappings_eq_ok.mp hgd
      rw [if_pos hj, if_pos hj]
      exact ⟨⟨hu ▸ hd.translates, hg ▸ hgd.translates⟩, ProcessUser.ensureMapped_ok hd hgd hu hg hm⟩
    · obtain ⟨hd, hu⟩ := collectMappings_eq_ok.mp hgv
      obtain ⟨hgd, hg⟩ := collectMappings_eq_ok.mp hgv'
      obtain rfl : before = plan := by
        simpa [NamespacePlan.resolveJoinedUserMappings, hj] using hres
      rw [if_neg hj, if_neg hj]
      refine ⟨⟨hu ▸ hd.translates, hg ▸ hgd.translates⟩, ?_⟩
      cases hc : before.user with
      | inherit =>
        simp [NamespacePlan.TranslatesUser, NamespacePlan.hostUid, NamespacePlan.hostGid, hc]
      | create => exact ProcessUser.ensureMapped_ok hd hgd hu hg (hm hc)
      | join path => simp [hc, NamespaceAction.isJoin] at hj
  · rw [bind_of_ok (NamespacePlan.fromLinux_perm hpl ho ho')]
    exact NamespacePlan.resolve_perm hres hu hg

def Sample.mappings : List IdMapping := [⟨1000, 200000, 16⟩, ⟨0, 100000, 1000⟩]

/-- A user of the second range, with a group of each. -/
def Sample.processUser : ProcessUser := ⟨1005, 7, [1001]⟩

/-- A new user namespace in which root is host id 100000. -/
def Sample.namespacePlan : NamespacePlan :=
  ⟨.create, Sample.mappings.reverse, Sample.mappings.reverse, false⟩

/-- The mappings are listed out of order; in order they give the same plan. -/
theorem planned_ids_translate_listed :
    Sample.namespacePlan.hostUid 1005 = some 200005 ∧
      Sample.namespacePlan.TranslatesUser Sample.processUser ∧
      (NamespacePlan.fromLinux .create (some Sample.mappings.reverse) (some Sample.mappings)
          Sample.processUser >>= (·.resolveJoinedUserMappings [] [] Sample.processUser)) =
        .ok Sample.namespacePlan := by
  have hp : NamespacePlan.fromLinux .create (some Sample.mappings) (some Sample.mappings)
      Sample.processUser = .ok Sample.namespacePlan := by decide +kernel
  have hr : Sample.namespacePlan.resolveJoinedUserMappings [] [] Sample.processUser =
      .ok Sample.namespacePlan := rfl
  obtain ⟨hu, -, ht, ho⟩ := planned_ids_translate hp hr
  refine ⟨?_, ht, ho (some Sample.mappings.reverse) (some Sample.mappings) [] []
    (List.reverse_perm _) (.refl _) (.refl _) (.refl _)⟩
  exact (hu.host_eq ⟨1000, 200000, 16⟩ (.head _) 1005 200005 ⟨by decide, by decide⟩).mpr rfl

end OciRuntime
