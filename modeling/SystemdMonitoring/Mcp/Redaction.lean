/-
# `SystemdMonitoring.Mcp.Redaction` — what the audit log tells of parameters

The redaction of audited parameters is the mask of `Lib.JsonMask` over the keys
that `is_sensitive_key` names (`redactAuditValue_eq_mask`), so it covers every
sensitive member, changes nothing else and tells nothing of what it covers
(`redactAuditValue_exact`).

Which keys these are is a second classifier beside the one for the arguments of
containers, `is_sensitive_argument_name`.  The two do not look for the same
words.

    word                                  in arguments     in audited keys
    token, secret, password, credential   anywhere         anywhere
    authorization, bearer, apikey         anywhere         as the whole key
    api_key                               anywhere         as the whole key
    api-key                               anywhere         nowhere

A key that is sensitive is so as an argument name as well; the converse holds of
a name exactly when it is not one of those of the lower rows that the right
column misses (`classifiers_agree_iff`).
-/
import SystemdMonitoring.Lib.JsonMask
import SystemdMonitoring.Mcp.Server
import SystemdMonitoring.Podman.Argv

namespace SystemdMonitoring

open Lib Lib.Text Lib.Json

/-! ## Redaction is a mask -/

def redacted : Json := .str "[REDACTED]"

mutual
theorem redactAuditValue_eq_mask : ∀ value : Json,
    redactAuditValue value = mask isSensitiveKey redacted value
  | .obj members => by rw [redactAuditValue, mask, redactAuditMembers_eq_mask members]
  | .arr items => by rw [redactAuditValue, mask, redactAuditItems_eq_mask items]
  | .null | .bool _ | .int _ | .float _ | .str _ => rfl
theorem redactAuditMembers_eq_mask : ∀ members : Members,
    redactAuditMembers members = maskMembers isSensitiveKey redacted members
  | [] => rfl
  | (key, item) :: members => by
      rw [redactAuditMembers, maskMembers, redactAuditMembers_eq_mask members,
        redactAuditValue_eq_mask item]
      rfl
theorem redactAuditItems_eq_mask : ∀ items : List Json,
    redactAuditItems items = maskItems isSensitiveKey redacted items
  | [] => rfl
  | item :: items => by
      rw [redactAuditItems, maskItems, redactAuditValue_eq_mask item,
        redactAuditItems_eq_mask items]
end

theorem not_reaches_redacted (step : Step) (path : List Step) (w : Json) :
    ¬ redacted.Reaches (step :: path) w := by
  intro h
  cases h

/-- **Audit redaction is complete, exact, blind to what it covers, and idempotent.** -/
theorem redactAuditValue_exact (value : Json) :
    (∀ path key item, isSensitiveKey key = true →
        (redactAuditValue value).Reaches (path ++ [.key key]) item → item = .str "[REDACTED]")
    ∧ (∀ path, Exposed isSensitiveKey path → ∀ node,
        (redactAuditValue value).Reaches path node
          ↔ ∃ original, value.Reaches path original ∧ redactAuditValue original = node
            ∧ SameNode original node)
    ∧ (∀ other, redactAuditValue value = redactAuditValue other
        ↔ AgreeOutside isSensitiveKey value other)
    ∧ redactAuditValue (redactAuditValue value) = redactAuditValue value := by
  simp only [redactAuditValue_eq_mask]
  refine ⟨?_, ?_, fun other => mask_eq_mask_iff value other, mask_mask value⟩
  · intro path key item hkey h
    exact covered_of_reaches_mask not_reaches_redacted hkey h
  · intro path hexposed node
    rw [reaches_mask_iff hexposed]
    constructor
    · rintro ⟨original, horiginal, rfl⟩
      exact ⟨original, horiginal, rfl, sameNode_mask original⟩
    · rintro ⟨original, horiginal, hmask, -⟩
      exact ⟨original, horiginal, hmask⟩

/-! ## Two classifiers -/

/-- The words that both classifiers look for anywhere in a name. -/
def sharedWords : List String := ["token", "secret", "password", "credential"]

/-- The words of headers, which only argument names are searched for. -/
def headerWords : List String := ["authorization", "bearer", "api-key", "apikey"]

/-- The header words that are audited keys when they stand alone. -/
def headerKeys : List String := ["authorization", "bearer", "api_key", "apikey"]

/-- A shared word is somewhere in the name. -/
def HasSharedWord (name : String) : Prop :=
  ∃ word ∈ sharedWords, contains (toAsciiLowercase name) word = true

/-- A header word is somewhere in the name, underscores read as dashes. -/
def HasHeaderWord (name : String) : Prop :=
  ∃ word ∈ headerWords, contains (replaceChar '_' '-' (toAsciiLowercase name)) word = true

instance (name : String) : Decidable (HasSharedWord name) :=
  inferInstanceAs (Decidable (∃ word ∈ sharedWords, _))

instance (name : String) : Decidable (HasHeaderWord name) :=
  inferInstanceAs (Decidable (∃ word ∈ headerWords, _))

theorem trimStartMatches_of_not_startsWith {c : Char} {s : String}
    (h : startsWith c s = false) : trimStartMatches c s = s := by
  have hdrop : s.toList.dropWhile (· == c) = s.toList := by
    cases hs : s.toList with
    | nil => rfl
    | cons x xs =>
        have hx : (x == c) = false := by
          simpa [startsWith, hs] using h
        rw [List.dropWhile_cons, hx]
        rfl
  rw [trimStartMatches, hdrop, String.ofList_toList]

/-- The four shared words have neither dashes nor underscores, so the spelling does not matter. -/
theorem hasSharedWord_iff (name : String) :
    HasSharedWord name
      ↔ ∃ word ∈ sharedWords,
        contains (replaceChar '_' '-' (toAsciiLowercase name)) word = true := by
  refine exists_congr fun word => and_congr_right fun hword => ?_
  have hplain : '_' ∉ word.toList ∧ '-' ∉ word.toList := by
    revert word
    decide
  rw [contains_replaceChar hplain.1 hplain.2]

theorem isSensitiveArgumentName_words {name : String} (hdash : startsWith '-' name = false) :
    Podman.isSensitiveArgumentName name = true ↔ HasSharedWord name ∨ HasHeaderWord name := by
  rw [Podman.isSensitiveArgumentName_iff, Podman.normalizedName,
    trimStartMatches_of_not_startsWith hdash, hasSharedWord_iff, HasHeaderWord]
  have hwords : ∀ word, word ∈ Podman.searchedWords ↔ word ∈ sharedWords ∨ word ∈ headerWords := by
    intro word
    simp only [Podman.searchedWords, sharedWords, headerWords, List.mem_cons, List.not_mem_nil,
      or_false]
    tauto
  simp only [hwords, or_and_right, exists_or]

/-- A key that is listed as a whole has a shared word or is a header key. -/
theorem isSensitiveKey_words {name : String} (htrim : trim name = name) :
    isSensitiveKey name = true ↔ HasSharedWord name ∨ toAsciiLowercase name ∈ headerKeys := by
  have hlisted : ∀ low, low ∈ ["token", "api_token", "access_token", "refresh_token",
      "authorization", "bearer", "password", "secret", "credentials", "credential", "api_key",
      "apikey"] → (∃ word ∈ sharedWords, contains low word = true) ∨ low ∈ headerKeys := by
    decide
  simp only [isSensitiveKey, htrim, Bool.or_eq_true, List.contains_iff_mem, HasSharedWord]
  constructor
  · rintro ((((hlow | h) | h) | h) | h)
    · exact hlisted _ hlow
    · exact .inl ⟨"token", by decide, h⟩
    · exact .inl ⟨"secret", by decide, h⟩
    · exact .inl ⟨"password", by decide, h⟩
    · exact .inl ⟨"credential", by decide, h⟩
  · rintro (⟨word, hword, h⟩ | hkey)
    · simp only [sharedWords, List.mem_cons, List.not_mem_nil, or_false] at hword
      rcases hword with rfl | rfl | rfl | rfl
      · exact .inl (.inl (.inl (.inr h)))
      · exact .inl (.inl (.inr h))
      · exact .inl (.inr h)
      · exact .inr h
    · refine .inl (.inl (.inl (.inl ?_)))
      revert hkey
      generalize toAsciiLowercase name = low
      revert low
      decide

/-- A header key is a header word, spelled with an underscore or not. -/
theorem hasHeaderWord_of_headerKey {name : String} (h : toAsciiLowercase name ∈ headerKeys) :
    HasHeaderWord name := by
  rw [HasHeaderWord]
  revert h
  generalize toAsciiLowercase name = low
  revert low
  decide

/-- **When the two classifiers agree**: of a name without blanks around it and dashes before it,
when it has a shared word, no header word, or is a header key as a whole. -/
theorem classifiers_agree_iff (name : String) (htrim : trim name = name)
    (hdash : startsWith '-' name = false) :
    (isSensitiveKey name = true → Podman.isSensitiveArgumentName name = true)
    ∧ ((Podman.isSensitiveArgumentName name = true ↔ isSensitiveKey name = true)
      ↔ HasSharedWord name ∨ ¬ HasHeaderWord name ∨ toAsciiLowercase name ∈ headerKeys) := by
  rw [isSensitiveArgumentName_words hdash, isSensitiveKey_words htrim]
  have hheader : toAsciiLowercase name ∈ headerKeys → HasHeaderWord name :=
    hasHeaderWord_of_headerKey
  constructor
  · rintro (hshared | hkey)
    · exact .inl hshared
    · exact .inr (hheader hkey)
  · by_cases hshared : HasSharedWord name
    · simp [hshared]
    · by_cases hkey : toAsciiLowercase name ∈ headerKeys
      · simp [hkey, hheader hkey]
      · simp [hshared, hkey]

theorem classifiers_agree_iff_bearer :
    (trim "Bearer" = "Bearer" ∧ startsWith '-' "Bearer" = false)
    ∧ (isSensitiveKey "Bearer" = true → Podman.isSensitiveArgumentName "Bearer" = true)
    ∧ ((Podman.isSensitiveArgumentName "Bearer" = true ↔ isSensitiveKey "Bearer" = true)
      ↔ HasSharedWord "Bearer" ∨ ¬ HasHeaderWord "Bearer"
        ∨ toAsciiLowercase "Bearer" ∈ headerKeys) :=
  ⟨by decide, classifiers_agree_iff "Bearer" (by decide) (by decide)⟩

/-- A header whose value is hidden in arguments and audited in clear. -/
theorem apiKeyHeader_audited :
    (trim "x-api-key" = "x-api-key" ∧ startsWith '-' "x-api-key" = false)
    ∧ Podman.isSensitiveArgumentName "x-api-key" = true ∧ isSensitiveKey "x-api-key" = false
    ∧ redactAuditValue (.obj [("x-api-key", .str "k-123")]) = .obj [("x-api-key", .str "k-123")] :=
  ⟨by decide, by decide, by decide, by rfl⟩

end SystemdMonitoring
