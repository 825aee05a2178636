import OciRuntime.Agent.MountAttributes

/-!
# `OciRuntime.Property.MountAttributes` — which option a mount attribute gets its value from

Access time is one setting with three values, held in a field of several bits. An option that selects
a mode clears the old mode of the mount, but not a mode that an earlier option has selected.

## Contents
- **Last options.** `lastValue`, `lastAccessTime`.
- **Masks.** `attrSet_recorded`, `attrClr_recorded`: the bits of the masks after any options.
- **Result.** `masks_give_last_iff`.
-/

namespace OciRuntime

/-! ## Last options -/

/-- Whether an option clears, and its flag. -/
abbrev AttributeChange := Bool × BitVec 64

def isAccessTime (change : AttributeChange) : Bool := change.2 &&& mountAttrAtime = change.2

/-- Whether the last change that names the attribute sets it. -/
def lastValue (changes : List AttributeChange) (i : Nat) : Option Bool :=
  (changes.reverse.find? (·.2.getLsbD i)).map (!·.1)

/-- The mode of the last access-time change: its flag, or relatime (zero) where it clears. -/
def lastAccessTime (changes : List AttributeChange) : Option (BitVec 64) :=
  (changes.reverse.find? isAccessTime).map fun (clear, flag) => if clear then 0 else flag

/-- A flag of at most one bit. -/
def SingleBit (flag : BitVec 64) : Prop := ∀ i < 64, flag.getLsbD i = true → flag = .twoPow 64 i

section Last

variable {changes : List AttributeChange} {i : Nat}

theorem SingleBit.isAccessTime (h : SingleBit change.2) (hi : i < 64)
    (hat : mountAttrAtime.getLsbD i = true) (hf : change.2.getLsbD i = true) :
    OciRuntime.isAccessTime change = true := by
  rw [OciRuntime.isAccessTime, h i hi hf, BitVec.twoPow_and, if_pos hat]
  exact decide_eq_true rfl

variable (h : ∀ change ∈ changes, SingleBit change.2) (hi : i < 64)
  (hat : mountAttrAtime.getLsbD i = true)
include h hi hat

theorem lastAccessTime_isSome (hv : lastValue changes i = some on) :
    (lastAccessTime changes).isSome = true := by
  obtain ⟨change, hfn, -⟩ := Option.map_eq_some_iff.mp hv
  have hm := List.mem_of_find?_eq_some hfn
  rw [lastAccessTime, Option.isSome_map, List.find?_isSome]
  have hf : change.2.getLsbD i = true := by simpa using List.find?_some hfn
  exact ⟨change, hm, (h change (List.mem_reverse.mp hm)).isAccessTime hi hat hf⟩

/-- The last access-time change names the mode it selects. -/
theorem lastValue_of_lastAccessTime (hl : lastAccessTime changes = some mode)
    (hm : mode.getLsbD i = true) : lastValue changes i = some true := by
  obtain ⟨⟨clear, flag⟩, hfn, rfl⟩ := Option.map_eq_some_iff.mp hl
  cases clear with
  | true => simp at hm
  | false =>
    obtain ⟨-, before, after, ha, hn⟩ := List.find?_eq_some_iff_append.mp hfn
    refine Option.map_eq_some_iff.mpr ⟨(false, flag), ?_, rfl⟩
    refine List.find?_eq_some_iff_append.mpr ⟨hm, before, after, ha, fun change hmm => ?_⟩
    -- a later change of the same bit would be a later access-time change
    rw [Bool.not_eq_true', Bool.eq_false_iff]
    intro hf
    have hc : change ∈ changes.reverse := ha ▸ List.mem_append_left _ hmm
    have hac := (h change (List.mem_reverse.mp hc)).isAccessTime hi hat hf
    exact absurd hac (by simpa using hn change hmm)

omit hi hat in
theorem singleBit_lastAccessTime (hl : lastAccessTime changes = some mode) : SingleBit mode := by
  obtain ⟨⟨clear, flag⟩, hf, rfl⟩ := Option.map_eq_some_iff.mp hl
  cases clear with
  | true => exact fun i _ hb => by simp at hb
  | false => exact h _ (List.mem_reverse.mp (List.mem_of_find?_eq_some hf))

end Last

/-! ## Masks -/

section Record

variable {masks : RecursiveMountAttributes} {clear : Bool} {flag : BitVec 64} {i : Nat}

theorem attrSet_record (hi : i < 64) : (masks.record clear flag).attrSet.getLsbD i =
    if flag.getLsbD i then !clear else masks.attrSet.getLsbD i := by
  unfold RecursiveMountAttributes.record
  cases clear <;> cases hf : flag.getLsbD i <;> dsimp only <;> split <;>
    simp [-BitVec.getLsbD_eq_getElem, hf, hi]

theorem attrClr_record (hi : i < 64) : (masks.record clear flag).attrClr.getLsbD i =
    if isAccessTime (clear, flag) && mountAttrAtime.getLsbD i then true
    else if flag.getLsbD i then clear else masks.attrClr.getLsbD i := by
  unfold RecursiveMountAttributes.record isAccessTime
  cases clear <;> cases hf : flag.getLsbD i <;> dsimp only <;> split <;> rename_i ha <;>
    simp [-BitVec.getLsbD_eq_getElem, hf, hi, ha, Bool.or_comm]

end Record

/-- The changes that the recursive options among these ask for. -/
def changesOf (options : List String) : List AttributeChange := options.filterMap optionAttribute

/-- The masks that the changes make, one after the other. -/
def recorded (changes : List AttributeChange) : RecursiveMountAttributes :=
  changes.foldl (fun masks (clear, flag) => masks.record clear flag) {}

/-- The loop over the options records the changes they ask for. -/
theorem recordOptions_eq (options : List String) :
    (recordOptions options).getD {} = recorded (changesOf options) := by
  induction options using List.reverseRecOn with
  | nil => rfl
  | append_singleton options option ih =>
    rw [recordOptions, List.foldl_concat, ← recordOptions, recordOption, changesOf,
      List.filterMap_append, recorded, List.foldl_append, ← recorded, ← changesOf, ← ih]
    cases ho : optionAttribute option <;> simp [ho]

theorem attrSet_recorded (changes : List AttributeChange) (hi : i < 64) :
    (recorded changes).attrSet.getLsbD i = decide (lastValue changes i = some true) := by
  induction changes using List.reverseRecOn with
  | nil => simp [recorded, lastValue]
  | append_singleton changes change ih =>
    rw [recorded, List.foldl_concat, ← recorded, attrSet_record hi, ih]
    cases hf : change.2.getLsbD i <;> simp [lastValue, hf]

/-- An access-time change clears the whole field, any other change its own bit. -/
theorem attrClr_recorded (h : ∀ change ∈ changes, SingleBit change.2) (hi : i < 64) :
    (recorded changes).attrClr.getLsbD i =
      if mountAttrAtime.getLsbD i then (lastAccessTime changes).isSome
      else decide (lastValue changes i = some false) := by
  induction changes using List.reverseRecOn with
  | nil => simp [recorded, lastValue, lastAccessTime]
  | append_singleton changes change ih =>
    obtain ⟨clear, flag⟩ := change
    rw [recorded, List.foldl_concat, ← recorded, attrClr_record hi,
      ih fun change hm => h change (List.mem_append_left _ hm)]
    have hs : SingleBit (clear, flag).2 := h (clear, flag) (by simp)
    cases hat : mountAttrAtime.getLsbD i with
    | true =>
      cases ha : isAccessTime (clear, flag) <;> simp [lastAccessTime, ha]
      intro hf
      exact nomatch ha.symm.trans (hs.isAccessTime hi hat hf)
    | false => cases hf : flag.getLsbD i <;> simp [lastValue, hf]

/-! ## Result -/

theorem singleBit_changesOf (options : List String) :
    ∀ change ∈ changesOf options, SingleBit change.2 := by
  intro change hm
  obtain ⟨option, -, ho⟩ := List.mem_filterMap.mp hm
  unfold optionAttribute at ho
  split at ho <;> cases ho <;> unfold SingleBit <;> decide

theorem applied_bit (options : List String) (mount : BitVec 64) (hi : i < 64) :
    (applyAttributes (recordOptions options) mount).getLsbD i =
      (mount.getLsbD i && !(recorded (changesOf options)).attrClr.getLsbD i ||
        (recorded (changesOf options)).attrSet.getLsbD i) := by
  rw [← recordOptions_eq]
  cases recordOptions options <;> simp [applyAttributes, -BitVec.getLsbD_eq_getElem, hi]

/-- The value an attribute should have: all bits of the access time are those of its last mode. -/
def lastNamed (changes : List AttributeChange) (i : Nat) : Option Bool :=
  if mountAttrAtime.getLsbD i then (lastAccessTime changes).map (·.getLsbD i)
  else lastValue changes i

/-- The kernel gives each attribute the value of the last option that names it, and the set mask
    holds at most one access-time mode. -/
structure GivesLast (options : List String) : Prop where
  attributes : ∀ mount, ∀ i < 64, (applyAttributes (recordOptions options) mount).getLsbD i =
    (lastNamed (changesOf options) i).getD (mount.getLsbD i)
  single : ∀ masks ∈ recordOptions options,
    masks.attrSet &&& mountAttrAtime ≠ mountAttrNoatime ||| mountAttrStrictatime

/-- An option that selects a mode is undone by its inverse or comes last: where the last option that
    names a mode selects it, the last access-time option selects it too. -/
def Unsuperseded (changes : List AttributeChange) : Prop :=
  ∀ i < 64, mountAttrAtime.getLsbD i = true → lastValue changes i = some true →
    ∃ mode ∈ lastAccessTime changes, mode.getLsbD i = true

section Modes

variable {options : List String} (h : Unsuperseded (changesOf options))
include h

/-- The bit of a mode is set exactly if the last access-time option selects the mode. -/
theorem Unsuperseded.mode_iff (hi : i < 64) (hat : mountAttrAtime.getLsbD i = true)
    (hl : lastAccessTime (changesOf options) = some mode) :
    lastValue (changesOf options) i = some true ↔ mode.getLsbD i = true := by
  refine ⟨fun hv => ?_, lastValue_of_lastAccessTime (singleBit_changesOf options) hi hat hl⟩
  obtain ⟨_, hmd, hm⟩ := h i hi hat hv
  rwa [Option.some.inj (hl.symm.trans hmd)]

theorem Unsuperseded.single (hm : masks ∈ recordOptions options) :
    masks.attrSet &&& mountAttrAtime ≠ mountAttrNoatime ||| mountAttrStrictatime := by
  intro hbh
  have hms : recorded (changesOf options) = masks := by
    rw [← recordOptions_eq, hm]
    rfl
  have hv : ∀ i < 64, (mountAttrNoatime ||| mountAttrStrictatime).getLsbD i = true →
      lastValue (changesOf options) i = some true := by
    intro i hi hb
    rw [← hbh, BitVec.getLsbD_and, ← hms, attrSet_recorded _ hi, Bool.and_eq_true] at hb
    exact of_decide_eq_true hb.1
  obtain ⟨mode, hmd, hn⟩ := h 4 (by decide) (by decide) (hv 4 (by decide) (by decide))
  obtain ⟨_, hmd', hs⟩ := h 5 (by decide) (by decide) (hv 5 (by decide) (by decide))
  cases hmd.symm.trans hmd'
  rw [singleBit_lastAccessTime (singleBit_changesOf options) hmd 4 (by decide) hn] at hs
  exact absurd hs (by decide)

end Modes

/-- **Masks and options.** The kernel gives every attribute its last value exactly if no mode that an
    option has selected is superseded without being turned off. -/
theorem masks_give_last_iff (options : List String) :
    GivesLast options ↔ Unsuperseded (changesOf options) := by
  have hs := singleBit_changesOf options
  constructor
  · intro h i hi hat hv
    obtain ⟨mode, hmd⟩ := Option.isSome_iff_exists.mp (lastAccessTime_isSome hs hi hat hv)
    have hb := h.attributes 0 i hi
    rw [applied_bit options 0 hi, attrSet_recorded _ hi, hv, lastNamed, if_pos hat, hmd] at hb
    exact ⟨mode, hmd, by simpa using hb⟩
  · intro h
    refine ⟨fun mount i hi => ?_, fun masks hm => h.single hm⟩
    rw [applied_bit options mount hi, attrSet_recorded _ hi, attrClr_recorded hs hi, lastNamed]
    cases hat : mountAttrAtime.getLsbD i with
    | false => rcases lastValue (changesOf options) i with _ | _ | _ <;> simp
    | true =>
      cases hl : lastAccessTime (changesOf options) with
      | none =>
        have hv : lastValue (changesOf options) i ≠ some true := fun hv => by
          simpa [hl] using lastAccessTime_isSome hs hi hat hv
        simp [hv]
      | some mode => simp [h.mode_iff hi hat hl]

/-- The mode that was selected first stays in the set mask beside the second. -/
theorem selected_modes_add_up : recordOptions ["rnoatime", "rstrictatime"] =
        some ⟨mountAttrNoatime ||| mountAttrStrictatime, mountAttrAtime⟩ ∧
      ¬ GivesLast ["rnoatime", "rstrictatime"] := by
  refine ⟨by decide, fun h => ?_⟩
  exact h.single ⟨_, _⟩ rfl (by decide)

end OciRuntime
