import OciRuntime.Agent.RecoveryReport

/-!
# `OciRuntime.Property.RecoveryReport` — a tag fits one report under one token

The hexadecimal tag and the digest determine each other, and the keyed hash puts token and report
into its blocks at fixed places. So whoever changes the report, the tag or the token after the
authentication is refused, as long as SHA-256 does not collide on the blocks hashed (`hmacBlocks`).
-/

namespace OciRuntime

open Durable

/-! ## Hexadecimal tags -/

theorem hexValue_lt (h : lowercaseHex c = true) : hexValue c < 16 := by
  rw [lowercaseHex_iff] at h
  unfold hexValue
  split <;> omega

theorem hexValue_inj (hc : lowercaseHex c = true) (hd : lowercaseHex d = true)
    (h : hexValue c = hexValue d) : c = d := by
  rw [lowercaseHex_iff] at hc hd
  apply Char.toNat_inj.mp
  unfold hexValue at h
  split at h <;> split at h <;> omega

theorem digitChar_hex :
    ∀ n < 16, hexValue (Nat.digitChar n) = n ∧ lowercaseHex (Nat.digitChar n) = true := by
  decide

theorem decodeHex_encode (bytes : List UInt8) : decodeHex (encodeHex bytes).toList = bytes := by
  rw [encodeHex, String.toList_ofList]
  induction bytes with
  | nil => rfl
  | cons byte bytes ih =>
    have hl := byte.toNat_lt
    have hb : 16 * (byte.toNat / 16) + byte.toNat % 16 = byte.toNat := Nat.div_add_mod ..
    rw [List.flatMap_cons, List.cons_append, List.cons_append, List.nil_append, decodeHex, ih,
      (digitChar_hex _ (by omega)).1, (digitChar_hex _ (by omega)).1, hb, UInt8.ofNat_toNat]

theorem sha256Hex_encode (h : bytes.length = 32) : sha256Hex (encodeHex bytes).toList = true := by
  have hl : ∀ bytes : List UInt8, (encodeHex bytes).toList.length = 2 * bytes.length := by
    intro bytes
    rw [encodeHex, String.toList_ofList, List.length_flatMap]
    simp [Nat.mul_comm]
  simp only [sha256Hex, hl, h, Bool.and_eq_true, List.all_eq_true]
  refine ⟨rfl, fun c hc => ?_⟩
  rw [encodeHex, String.toList_ofList] at hc
  obtain ⟨byte, -, hc⟩ := List.mem_flatMap.mp hc
  have hlt := byte.toNat_lt
  rcases List.mem_pair.mp hc with rfl | rfl
  · exact (digitChar_hex _ (by omega)).2
  · exact (digitChar_hex _ (by omega)).2

theorem encodeHex_decode (hh : ∀ c ∈ digits, lowercaseHex c = true)
    (hv : digits.length % 2 = 0) : encodeHex (decodeHex digits) = String.ofList digits := by
  have hd : ∀ c, lowercaseHex c = true → Nat.digitChar (hexValue c) = c := by
    intro c hc
    have hb := digitChar_hex _ (hexValue_lt hc)
    exact hexValue_inj hb.2 hc hb.1
  unfold encodeHex
  congr 1
  induction digits using decodeHex.induct with
  | case1 high low rest ih =>
    simp only [List.forall_mem_cons] at hh
    have hhg := hexValue_lt hh.1
    have hl := hexValue_lt hh.2.1
    simp only [List.length_cons] at hv
    have hsz : 16 * hexValue high + hexValue low < UInt8.size := by
      change _ < 256
      omega
    rw [decodeHex, List.flatMap_cons, ih hh.2.2 (by omega), UInt8.toNat_ofNat_of_lt' hsz,
      show (16 * hexValue high + hexValue low) / 16 = hexValue high by omega,
      show (16 * hexValue high + hexValue low) % 16 = hexValue low by omega,
      hd _ hh.1, hd _ hh.2.1]
    rfl
  | case2 digits hs =>
    rcases digits with _ | ⟨a, _ | ⟨b, rest⟩⟩
    · rfl
    · simp at hv
    · exact absurd rfl (hs a b rest)

theorem decodeAuthenticationTag_eq_ok (h : bytes.length = 32) :
    decodeAuthenticationTag tag = .ok bytes ↔ tag = encodeHex bytes := by
  simp only [decodeAuthenticationTag, unit_bind_eq_ok, rejectIf_eq_ok, not_not]
  constructor
  · rintro ⟨hh, hb⟩
    simp only [sha256Hex, Bool.and_eq_true, List.all_eq_true, beq_iff_eq] at hh
    rw [← Except.ok.inj hb, encodeHex_decode hh.2 (by rw [hh.1]), String.ofList_toList]
  · rintro rfl
    rw [decodeHex_encode]
    exact ⟨sha256Hex_encode h, rfl⟩

theorem constantTimeEq_iff : constantTimeEq left right = true ↔ left = right := by
  have hf : ∀ (left right : List UInt8) (difference : UInt8), left.length = right.length →
      ((left.zip right).foldl (fun difference pair => difference ||| (pair.1 ^^^ pair.2))
        difference = 0 ↔ difference = 0 ∧ left = right) := by
    intro left
    induction left with
    | nil =>
      intro right difference hl
      have hn := List.length_eq_zero_iff.mp hl.symm
      simp [hn]
    | cons a left ih =>
      intro right difference hl
      obtain ⟨b, right, rfl⟩ := List.exists_cons_of_length_eq_add_one hl.symm
      rw [List.zip_cons_cons, List.foldl_cons, ih right _ (by simpa using hl),
        UInt8.or_eq_zero_iff, UInt8.xor_eq_zero_iff, List.cons.injEq, and_assoc]
  simp only [constantTimeEq, Bool.and_eq_true, beq_iff_eq]
  constructor
  · rintro ⟨hl, hz⟩
    exact ((hf _ _ 0 hl).mp hz).2
  · rintro rfl
    exact ⟨rfl, (hf _ _ 0 rfl).mpr ⟨rfl, rfl⟩⟩

/-! ## The keyed hash -/

variable {sha256 : List UInt8 → Vector UInt8 32} {toVec : AgentRecoveryReport → List UInt8}
  {token token' : Vector UInt8 32} {report report' : AgentRecoveryReport}

/-- What is hashed for one tag. -/
def hmacBlocks (sha256 : List UInt8 → Vector UInt8 32) (key message : List UInt8) :
    Set (List UInt8) :=
  {hmacInner key message, hmacOuter sha256 key message}

theorem hmacPad_inj (h : hmacPad fill token.toList ++ x = hmacPad fill token'.toList ++ y) :
    token = token' ∧ x = y := by
  have hl : ∀ token : Vector UInt8 32, (hmacPad fill token.toList).length = 64 := by
    intro token
    simp [hmacPad]
  obtain ⟨hp, hr⟩ := List.append_inj h ((hl token).trans (hl token').symm)
  obtain ⟨hk, -⟩ := List.append_inj hp (by simp)
  have hi : Function.Injective (fill ^^^ ·) := fun a b h => (UInt8.xor_right_inj fill).mp h
  exact ⟨Vector.toList_inj.mp (hi.list_map hk), hr⟩

theorem hmacSha256_inj (hs : Set.InjOn sha256
      (hmacBlocks sha256 token.toList x ∪ hmacBlocks sha256 token'.toList y))
    (h : hmacSha256 sha256 token.toList x = hmacSha256 sha256 token'.toList y) :
    token = token' ∧ x = y := by
  have ht := hs (by simp [hmacBlocks]) (by simp [hmacBlocks]) (Vector.toList_inj.mp h)
  obtain ⟨htk, hd⟩ := hmacPad_inj ht
  have hn := hs (by simp [hmacBlocks]) (by simp [hmacBlocks]) (Vector.toList_inj.mp hd)
  exact ⟨htk, List.append_cancel_left (hmacPad_inj hn).2⟩

/-! ## Reports -/

theorem verify_eq_ok :
    AuthenticatedAgentRecoveryReport.verify sha256 toVec token ⟨report, tag⟩ = .ok verified ↔
      report.validate = .ok () ∧
        tag = encodeHex (hmacSha256 sha256 token.toList (toVec report)) ∧ verified = report := by
  have hl : (hmacSha256 sha256 token.toList (toVec report)).length = 32 := Vector.length_toList
  rw [← decodeAuthenticationTag_eq_ok hl]
  simp only [AuthenticatedAgentRecoveryReport.verify, bind_eq_ok, rejectIf_eq_ok, not_not,
    constantTimeEq_iff]
  constructor
  · rintro ⟨_, hv, received, hr, _, rfl, hvr⟩
    exact ⟨hv, hr, (Except.ok.inj hvr).symm⟩
  · rintro ⟨hv, hr, rfl⟩
    exact ⟨(), hv, _, hr, (), rfl, rfl⟩

/-- **Authenticated reports.** A report that could be built is authenticated, and verified under
the same token it is read back. Whatever is verified was authenticated as it is under that token;
and unless hashes collide, it has the tag of the report only with the same report and token. -/
theorem authenticated_report_is_fixed (hbuilt : buildReport records = .ok report)
    (hjson : ∀ report', toVec report' = toVec report → report' = report) :
    ∃ tag, report.authenticate sha256 toVec token = .ok ⟨report, tag⟩ ∧
      AuthenticatedAgentRecoveryReport.verify sha256 toVec token ⟨report, tag⟩ = .ok report ∧
      ∀ token' report' tag' verified,
        AuthenticatedAgentRecoveryReport.verify sha256 toVec token' ⟨report', tag'⟩ = .ok verified →
        report'.authenticate sha256 toVec token' = .ok ⟨report', tag'⟩ ∧
        (Set.InjOn sha256 (hmacBlocks sha256 token'.toList (toVec report') ∪
            hmacBlocks sha256 token.toList (toVec report)) →
          (tag' = tag ↔ report' = report ∧ token' = token)) := by
  obtain ⟨hv, hr⟩ := unit_bind_eq_ok.mp hbuilt
  rw [Except.ok.inj hr] at hv
  refine ⟨_, unit_bind_eq_ok.mpr ⟨hv, rfl⟩, verify_eq_ok.mpr ⟨hv, rfl, rfl⟩, ?_⟩
  intro token' report' tag' verified hvr
  obtain ⟨hv', rfl, -⟩ := verify_eq_ok.mp hvr
  refine ⟨unit_bind_eq_ok.mpr ⟨hv', rfl⟩, fun hs => ?_⟩
  constructor
  · intro ht
    have hb := congrArg (decodeHex ·.toList) ht
    simp only [decodeHex_encode] at hb
    obtain ⟨htk, hp⟩ := hmacSha256_inj hs hb
    exact ⟨hjson report' hp, htk⟩
  · rintro ⟨rfl, rfl⟩
    rfl

namespace Sample

def ended (id : ContainerId) (exitCode : Int) : AgentRecoveryRecord :=
  ⟨⟨id, some 1⟩, "sha256:0123456789abcdef0123456789abcdef0123456789abcdef0123456789abcdef",
    ⟨some exitCode, none, false⟩⟩

/-- Two containers have ended, `mail` with `exitCode`. -/
def recoveryReport (exitCode : Int) : AgentRecoveryReport :=
  ⟨1, [ended ⟨"api", rfl⟩ 0, ended ⟨"mail", rfl⟩ exitCode]⟩

/-- An encoding that tells the report with exit code 0 from all others. -/
def reportBytes (r : AgentRecoveryReport) : List UInt8 := if r = recoveryReport 0 then [1] else [2]

/-- A digest that sees the first and the last byte only. -/
def edgeDigest (bytes : List UInt8) : Vector UInt8 32 :=
  Vector.replicate 32 (bytes.headD 0 + bytes.getLastD 0)

def sessionToken (byte : UInt8) : Vector UInt8 32 := Vector.replicate 32 byte

def verify (byte : UInt8) (exitCode : Int) (tag : String) : Result AgentRecoveryReport :=
  AuthenticatedAgentRecoveryReport.verify edgeDigest reportBytes (sessionToken byte)
    ⟨recoveryReport exitCode, tag⟩

/-- The digest does not collide on the blocks of the two changes below. -/
theorem edgeDigest_injOn (h : (byte, message) = (7, [2]) ∨ (byte, message) = (8, [1])) :
    Set.InjOn edgeDigest (hmacBlocks edgeDigest (sessionToken byte).toList message ∪
      hmacBlocks edgeDigest (sessionToken 7).toList [1]) := by
  have hd : ∀ x y, edgeDigest x = edgeDigest y →
      x.headD 0 + x.getLastD 0 = y.headD 0 + y.getLastD 0 := by
    intro x y h
    exact congrArg (·[0]) h
  rcases h with h | h
  all_goals
    cases h
    rintro x ((rfl | rfl) | (rfl | rfl)) y ((rfl | rfl) | (rfl | rfl)) h
    all_goals
      have he := hd _ _ h
      first | rfl | (revert he; decide +kernel)

theorem buildReport_two : buildReport [ended ⟨"mail", rfl⟩ 0, ended ⟨"api", rfl⟩ 0] =
    .ok (recoveryReport 0) := by
  have hl : (ended ⟨"api", rfl⟩ 0).keyLt (ended ⟨"mail", rfl⟩ 0) = true := by decide
  have hs : [ended ⟨"mail", rfl⟩ 0, ended ⟨"api", rfl⟩ 0].mergeSort
      (fun left right => !right.keyLt left) = (recoveryReport 0).records := by
    rw [List.mergeSort]
    simp [List.MergeSort.Internal.splitInTwo, hl, recoveryReport]
  rw [buildReport, hs]
  decide +kernel

end Sample

open Sample

/-- The report of two containers is read back; with another exit code, or under another token, it is
    refused. -/
theorem report_of_two_is_fixed :
    ∃ tag, (recoveryReport 0).authenticate edgeDigest reportBytes (sessionToken 7) =
        .ok ⟨recoveryReport 0, tag⟩ ∧
      verify 7 0 tag = .ok (recoveryReport 0) ∧
      ∀ verified, verify 7 1 tag ≠ .ok verified ∧ verify 8 0 tag ≠ .ok verified := by
  have hj : ∀ r, reportBytes r = reportBytes (recoveryReport 0) → r = recoveryReport 0 := by
    intro r h
    by_contra hn
    simp [reportBytes, hn] at h
  obtain ⟨tag, ha, hv, hu⟩ :=
    @authenticated_report_is_fixed edgeDigest _ (sessionToken 7) _ _ buildReport_two hj
  refine ⟨tag, ha, hv, fun verified => ⟨fun h => ?_, fun h => ?_⟩⟩
  · have hr := ((hu _ _ _ _ h).2 (edgeDigest_injOn (.inl rfl))).mp rfl
    exact absurd hr.1 (by decide)
  · have hr := ((hu _ _ _ _ h).2 (edgeDigest_injOn (.inr rfl))).mp rfl
    exact absurd hr.2 (by decide)

end OciRuntime
