import OciRuntime.Property.Events

/-!
# `OciRuntime.Property.Journal` — the event journal is consistent on disk

The model keeps the claims of the journal under their identities; on disk a claim lies in a file
named by the hash of its identity's text. The texts are sequences of segments without the separator,
so an identity can be read back from its text, and a hash that is injective on these texts gives
each identity a file of its own.

## Contents
- **Texts.** `EventIdentity.segments`, `EventIdentity.text_injective`.
- **Files.** `Store.claimFiles`, `JournalConsistent`, `journal_is_consistent`.
-/

namespace OciRuntime

open Durable Program

variable {sdk : Sdk} {s : Store}

/-! ## Texts -/

/-- The parts of an identity's text. -/
def EventIdentity.segments : EventIdentity → List (List Char)
  | .container id generation suffix =>
    ["container".toList, id.value.toList, generation.repr.toList, suffix.text.toList]
  | .process id generation processId suffix =>
    ["process".toList, id.value.toList, generation.repr.toList, processId.value.toList,
      suffix.text.toList]
  | .operation operationId suffix =>
    ["operation".toList, operationId.value.toList, suffix.text.toList]

theorem EventIdentity.toList_text (i : EventIdentity) :
    i.text.toList = [':'].intercalate i.segments := by
  cases i <;> simp only [EventIdentity.text, EventIdentity.segments, String.toList_append,
      List.intercalate_cons_cons, List.intercalate_singleton, List.append_assoc] <;>
    rfl

/-- An identifier has no separator in it. -/
theorem Identifier.colon_notMem (identifier : Identifier) : ':' ∉ identifier.value.toList :=
  fun hm => absurd (identifier.rules.1 ':' hm) (by decide)

theorem colon_notMem_repr (n : Nat) : ':' ∉ n.repr.toList := by
  rw [Nat.toList_repr]
  intro hm
  exact absurd (Nat.isDigit_of_mem_toDigits (by decide) (by decide) hm) (by decide)

theorem EventSuffix.colon_notMem (suffix : EventSuffix) : ':' ∉ suffix.text.toList := by
  cases suffix <;> decide

theorem EventSuffix.text_injective {a b : EventSuffix} (h : a.text = b.text) : a = b := by
  cases a <;> cases b <;> first | rfl | exact absurd h (by decide)

theorem EventIdentity.colon_notMem (i : EventIdentity) : ∀ segment ∈ i.segments, ':' ∉ segment := by
  cases i <;>
    simp only [EventIdentity.segments, List.forall_mem_cons, List.not_mem_nil, false_implies,
      implies_true, and_true]
  · exact ⟨by decide, Identifier.colon_notMem _, colon_notMem_repr _, EventSuffix.colon_notMem _⟩
  · exact ⟨by decide, Identifier.colon_notMem _, colon_notMem_repr _, Identifier.colon_notMem _,
      EventSuffix.colon_notMem _⟩
  · exact ⟨by decide, Identifier.colon_notMem _, EventSuffix.colon_notMem _⟩

theorem EventIdentity.segments_injective {a b : EventIdentity} (h : a.segments = b.segments) :
    a = b := by
  cases a <;> cases b <;>
    simp only [EventIdentity.segments, List.cons.injEq, String.toList_inj, and_true] at h
  case container.container =>
    obtain ⟨-, hi, hg, hs⟩ := h
    rw [ContainerId.ext_value hi, eq_of_repr_eq hg, EventSuffix.text_injective hs]
  case process.process =>
    obtain ⟨-, hi, hg, hp, hs⟩ := h
    rw [ContainerId.ext_value hi, eq_of_repr_eq hg, ProcessId.ext_value hp,
      EventSuffix.text_injective hs]
  case operation.operation =>
    obtain ⟨-, ho, hs⟩ := h
    rw [OperationId.ext_value ho, EventSuffix.text_injective hs]
  -- the first segment tells the kinds apart
  all_goals exact absurd h.1 (by decide)

/-- The text of an identity determines it. -/
theorem EventIdentity.text_injective {a b : EventIdentity} (h : a.text = b.text) : a = b := by
  refine EventIdentity.segments_injective ?_
  have hs : ∀ i : EventIdentity, i.text.toList.splitOn ':' = i.segments := by
    intro i
    rw [i.toList_text]
    refine List.splitOn_intercalate ':' i.colon_notMem ?_
    cases i <;> simp [EventIdentity.segments]
  rw [← hs a, ← hs b, h]

/-! ## Files -/

/-- The claims of the journal as they lie on disk. -/
def Store.claimFiles (sdk : Sdk) (s : Store) : List (String × StoredEventClaim) :=
  s.events.keys.entries.map fun entry => (eventClaimName sdk entry.1, entry.2)

/-- The files of the journal agree with each other. -/
structure JournalConsistent (sdk : Sdk) (s : Store) : Prop where
  /-- No file name occurs twice. -/
  names : ((s.claimFiles sdk).map Prod.fst).Nodup
  /-- Every claim lies under the name of its identity. -/
  keyed : ∀ file ∈ s.claimFiles sdk, file.1 = eventClaimName sdk file.2.identity
  /-- An identity owns one event. -/
  owned : ∀ a ∈ s.claimFiles sdk, ∀ b ∈ s.claimFiles sdk, a.2.identity = b.2.identity → a = b
  /-- A sequence belongs to one event. -/
  unique : ∀ a ∈ s.claimFiles sdk, ∀ b ∈ s.claimFiles sdk,
    a.2.event.sequence = b.2.event.sequence → a = b
  bounded : ∀ file ∈ s.claimFiles sdk,
    0 < file.2.event.sequence ∧ file.2.event.sequence ≤ s.events.last
  /-- Every record is named by its sequence and equals the claim of that sequence. -/
  records : ∀ entry ∈ s.events.records.entries, entry.2.event.sequence = entry.1 ∧
    ∃ file ∈ s.claimFiles sdk, entry.2.event = file.2.event
  recorded : (s.events.records.entries.map fun entry => entry.2.event.sequence).Nodup

/-- The hash tells the texts of identities apart. -/
def HashInjective (sdk : Sdk) : Prop :=
  ∀ a b : EventIdentity, eventIdentityHash sdk a.text = eventIdentityHash sdk b.text →
    a.text = b.text

theorem eventClaimName_injective (hash : HashInjective sdk) {a b : EventIdentity}
    (h : eventClaimName sdk a = eventClaimName sdk b) : a = b := by
  have hc := congrArg String.toList h
  rw [eventClaimName, eventClaimName, String.toList_append, String.toList_append,
    List.append_left_inj, String.toList_inj] at hc
  exact EventIdentity.text_injective (hash a b hc)

theorem mem_claimFiles (hs : Sound sdk s) :
    file ∈ s.claimFiles sdk ↔ s.events.keys.get? file.2.identity = some file.2 ∧
      file.1 = eventClaimName sdk file.2.identity := by
  unfold Store.claimFiles
  rw [List.mem_map]
  constructor
  · rintro ⟨⟨i, claim⟩, hen, rfl⟩
    have hc := Directory.mem_entries.mp hen
    obtain ⟨-, hd⟩ := hs.events.schema _ _ hc
    subst hd
    exact ⟨hc, rfl⟩
  · rintro ⟨hc, hn⟩
    exact ⟨_, Directory.mem_entries.mpr hc, Prod.ext hn.symm rfl⟩

theorem Sound.journalConsistent (hs : Sound sdk s) (hash : HashInjective sdk) :
    JournalConsistent sdk s where
  names := by
    have hns : (s.claimFiles sdk).map Prod.fst =
        (s.events.keys.entries.map Prod.fst).map (eventClaimName sdk) := by
      simp [Store.claimFiles]
    rw [hns]
    exact s.events.keys.nodup_keys.map fun a b => eventClaimName_injective hash
  keyed file hfl := ((mem_claimFiles hs).mp hfl).2
  owned a ha b hb hsm := by
    obtain ⟨hc, hn⟩ := (mem_claimFiles hs).mp ha
    obtain ⟨hc', hn'⟩ := (mem_claimFiles hs).mp hb
    rw [hsm] at hc hn
    exact Prod.ext (hn.trans hn'.symm) (Option.some.inj (hc.symm.trans hc'))
  unique a ha b hb hsm := by
    obtain ⟨hc, hn⟩ := (mem_claimFiles hs).mp ha
    obtain ⟨hc', hn'⟩ := (mem_claimFiles hs).mp hb
    have hd := hs.events.distinct _ _ _ _ hc hc' hsm
    rw [hd] at hc hn
    exact Prod.ext (hn.trans hn'.symm) (Option.some.inj (hc.symm.trans hc'))
  bounded file hfl := hs.events.bounded _ _ ((mem_claimFiles hs).mp hfl).1
  records e hent := by
    obtain ⟨i, claim, hc, hse, hst⟩ :=
      hs.events.records _ _ (Directory.mem_entries.mp hent)
    obtain ⟨-, rfl⟩ := hs.events.schema _ _ hc
    rw [hst]
    exact ⟨hse, (eventClaimName sdk claim.identity, claim), (mem_claimFiles hs).mpr ⟨hc, rfl⟩, rfl⟩
  recorded := by
    have hsq : s.events.records.entries.map (fun e => e.2.event.sequence) =
        s.events.records.entries.map Prod.fst := by
      refine List.map_congr_left fun e hent => ?_
      obtain ⟨_, _, _, hse, hst⟩ := hs.events.records _ _ (Directory.mem_entries.mp hent)
      rw [hst, hse]
    rw [hsq]
    exact s.events.records.nodup_keys

/-- **The journal is consistent.** In every state of a run with crashes the files of the event journal
    agree, no two identities have one file name, and every poll succeeds. -/
theorem journal_is_consistent {l : List Store} (h : Trace sdk l) (hs : s ∈ .empty :: l)
    (hash : HashInjective sdk) :
    JournalConsistent sdk s ∧
      (∀ a b : EventIdentity, eventClaimName sdk a = eventClaimName sdk b → a = b) ∧
      ∀ filter after limit, ∃ batch, (pollEvents filter after limit).result s = .ok batch := by
  have hsn := h.sound s hs
  refine ⟨hsn.journalConsistent hash, fun a b => eventClaimName_injective hash, ?_⟩
  intro filter after limit
  obtain ⟨batch, hb, -⟩ := (pollEvents_delivers hsn filter after limit).result
  exact ⟨batch, hb⟩

/-- The sample hash is the text itself, of which the name keeps all but the first seven characters;
    the eighth one tells the kinds of identities apart. -/
theorem Sample.hash_injective : HashInjective Sample.sdk := by
  intro a b h
  have hd : a.text.toList.drop 7 = b.text.toList.drop 7 := String.ofList_injective h
  have ht : ∀ i : EventIdentity, i.text.toList.take 7 =
      if (i.text.toList.drop 7).head? = some 'e' then "contain".toList
      else if (i.text.toList.drop 7).head? = some ':' then "process".toList
      else "operati".toList := by
    intro i
    rw [i.toList_text]
    cases i <;> rfl
  rw [← String.toList_inj, ← List.take_append_drop 7 a.text.toList, ht a, hd, ← ht b,
    List.take_append_drop]

theorem journal_is_consistent_created : (Sample.creation.getLastD .empty).events.last = 2 ∧
      JournalConsistent Sample.sdk (Sample.creation.getLastD .empty) := by
  have ht : Trace Sample.sdk Sample.creation := Trace.visited _
  exact ⟨by decide +kernel,
    (journal_is_consistent ht (getLastD_mem_cons _ _) Sample.hash_injective).1⟩

end OciRuntime
