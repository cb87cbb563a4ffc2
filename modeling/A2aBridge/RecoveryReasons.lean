import A2aBridge.RecordCodecs

/-!
The stored form of a bounded recovery reason of bridge-core/resource_flight.rs: it is read back
exactly if the text that is stored is clean.
-/

namespace A2aBridge.Records

namespace BoundedRecoveryReason

/-- `transparent`: the text alone is written. -/
def serialize (json : Json String) (reason : BoundedRecoveryReason) : List UInt8 :=
  json.toVec reason.value

def deserialize (home : Option String) (json : Json String) (bytes : List UInt8) :
    Except RecoveryReasonError BoundedRecoveryReason :=
  match json.fromSlice bytes with
  | none => .error .malformed
  | some value => reread home value

theorem deserialize_serialize (home : Option String) (json : Json String)
    (reason : BoundedRecoveryReason) :
    deserialize home json (reason.serialize json) = reread home reason.value := by
  simp only [deserialize, serialize, json.exact]

end BoundedRecoveryReason

open BoundedRecoveryReason

/-- Every reason that is built from the text is read back from its stored form. -/
def ReadsBack (home : Option String) (json : Json String) (value : String) : Prop :=
  ∀ reason, new home value = .ok reason →
    deserialize home json (reason.serialize json) = .ok reason

theorem sanitized_twice {home : Option String} {value : List Char} {maxBytes : Nat}
    (clean : Clean home (sanitizeText home value maxBytes)) :
    sanitizeText home (sanitizeText home value maxBytes) maxBytes =
      sanitizeText home value maxBytes :=
  (clean.sanitized maxBytes).trans (truncate_whole (truncate_utf8_fits _ _))

theorem clean_of_twice {home : Option String} (rooted : Rooted home) {text : List Char}
    {maxBytes : Nat} (twice : sanitizeText home text maxBytes = text) : Clean home text := by
  apply Clean.of_sanitized rooted
  rw [twice]

theorem sanitize_empty (home : Option String) (maxBytes : Nat) :
    sanitizeText home [] maxBytes = [] := by
  have redacted : redactCredentialPrefixes (redactSecretMarkers (redactUrlQueryAndFragment
      (stripControls []))) = [] := by decide
  rw [sanitizeText, redacted]
  unfold replaceHome
  split
  · split <;> rfl
  · rfl

theorem reads_back_iff_twice {home : Option String} {json : Json String} {value : String}
    {stored : List Char}
    (redacted : sanitizeText home value.toList MAX_RECOVERY_REASON_BYTES = stored) :
    ReadsBack home json value ↔ sanitizeText home stored MAX_RECOVERY_REASON_BYTES = stored := by
  simp only [ReadsBack, deserialize_serialize, new, redacted]
  by_cases empty : stored = []
  · simp [empty, sanitize_empty]
  · simp only [String.ofList_eq_empty_iff, empty, if_false, Except.ok.injEq, forall_eq', reread,
      new, String.toList_ofList]
    by_cases twice : sanitizeText home stored MAX_RECOVERY_REASON_BYTES = stored
    · simp [twice, empty]
    · by_cases gone : sanitizeText home stored MAX_RECOVERY_REASON_BYTES = [] <;>
        simp [gone, twice, String.ofList_inj]
      simpa [gone] using twice

end A2aBridge.Records
