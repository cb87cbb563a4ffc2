import A2aBridge.TaskSpecs

/-!
The redaction of one line in bridge-core/diagnostics.rs and the bounded recovery reason of
bridge-core/resource_flight.rs, which is redacted when it is built and refused when it is read in
any other form. A line is a list of characters; where the source looks at the byte next to a
match, that byte is an identifier byte exactly if it is an ASCII character that is one.
-/

namespace A2aBridge.Records

open ByteText (isWhitespace truncateUtf8)
open Workflow (asciiLower isAsciiAlphanumeric)

def isControl (c : Char) : Bool := c.toNat < 32 || (127 ≤ c.toNat && c.toNat < 160)

def stripControls (value : List Char) : List Char := value.filter fun c => c == '\t' || !isControl c

def isIdentifier (c : Char) : Bool := isAsciiAlphanumeric c || c = '_' || c = '-'

/-- The first place where `pattern` stands with no identifier before it, nor after it if `closed`.
After a match that does not count the search goes on behind it, `skip` characters on. -/
def findBounded (pattern : List Char) (closed : Bool) : Nat → Bool → List Char → Option Nat
  | _, _, [] => none
  | skip + 1, _, c :: rest =>
    (findBounded pattern closed skip (isIdentifier c) rest).map (· + 1)
  | 0, joined, c :: rest =>
    if pattern.isPrefixOf (c :: rest) then
      if !joined && !(closed && ((c :: rest).drop pattern.length).head?.any isIdentifier) then
        some 0
      else (findBounded pattern closed (pattern.length - 1) (isIdentifier c) rest).map (· + 1)
    else (findBounded pattern closed 0 (isIdentifier c) rest).map (· + 1)

def findPattern (pattern : List Char) : List Char → Option Nat
  | [] => none
  | c :: rest =>
    if pattern.isPrefixOf (c :: rest) then some 0 else (findPattern pattern rest).map (· + 1)

/-- `replace`, for a pattern that is not empty. -/
def replaceAll (pattern new : List Char) : Nat → List Char → List Char
  | _, [] => []
  | skip + 1, _ :: rest => replaceAll pattern new skip rest
  | 0, c :: rest =>
    if pattern.isPrefixOf (c :: rest) then new ++ replaceAll pattern new (pattern.length - 1) rest
    else c :: replaceAll pattern new 0 rest

def least : List Nat → Option Nat
  | [] => none
  | first :: rest => some (rest.foldl min first)

def urlSchemes : List String := ["http://", "https://"]

def firstUrl (lowercase : List Char) : Option Nat :=
  least (urlSchemes.filterMap fun scheme => findPattern scheme.toList lowercase)

def inUrl (c : Char) : Bool := !(isWhitespace c || [')', ']', '}', '"', '\''].contains c)

def inPath (c : Char) : Bool := c != '?' && c != '#'

/-- The loop over the text behind `search_from`, which every round moves on. -/
def redactUrlFrom : Nat → List Char → List Char
  | 0, rest => rest
  | rounds + 1, rest =>
    match firstUrl (rest.map asciiLower) with
    | none => rest
    | some start =>
      let url := (rest.drop start).takeWhile inUrl
      let after := (rest.drop start).dropWhile inUrl
      let shown := url.takeWhile inPath
      rest.take start ++ (if shown = url then url else shown ++ "[REDACTED URL]".toList) ++
        redactUrlFrom rounds after

variable (value : List Char)

def redactUrlQueryAndFragment : List Char :=
  redactUrlFrom (value.length + 1) value

def secretMarkers : List String :=
  ["authorization", "access_token", "refresh_token", "set-cookie", "api_key", "bearer", "cookie",
    "token"]

def betterMarker (lowercase : List Char) (best : Option (Nat × Nat)) (marker : String) :
    Option (Nat × Nat) :=
  match findBounded marker.toList true 0 false lowercase with
  | none => best
  | some start =>
    if best.all fun current => start < current.1 then some (start, start + marker.length) else best

/-- The place and the end of the earliest marker, an earlier one in the list first. -/
def bestMarker (lowercase : List Char) : Option (Nat × Nat) :=
  secretMarkers.foldl (betterMarker lowercase) none

def redactSecretMarkers : List Char :=
  match bestMarker (value.map asciiLower) with
  | none => value
  | some (start, markerEnd) =>
    if (value.drop markerEnd).all fun c => [' ', '\t', ':', '=', '"', '\''].contains c then
      "[REDACTED LINE]".toList
    else ((value.take start).reverse.dropWhile isWhitespace).reverse ++ " [REDACTED]".toList

def credentialPrefixes : List String :=
  ["sk-", "sk_", "ghp_", "github_pat_", "xoxb-", "xoxp-", "xoxa-"]

def inCredential (c : Char) : Bool :=
  !(isWhitespace c || ['"', '\'', '`', '<', '>', ',', ';', ')', ']', '}'].contains c)

def redactCredentialsFrom : Nat → List Char → List Char
  | 0, rest => rest
  | rounds + 1, rest =>
    let lowercase := rest.map asciiLower
    match least (credentialPrefixes.filterMap fun start =>
        findBounded start.toList false 0 false lowercase) with
    | none => rest
    | some start =>
      rest.take start ++ "[REDACTED]".toList ++
        redactCredentialsFrom rounds ((rest.drop (start + 1)).dropWhile inCredential)

def redactCredentialPrefixes : List Char :=
  redactCredentialsFrom (value.length + 1) value

variable (home : Option String)

/-- The home directory as `~`; `HOME` may be unset or empty. -/
def replaceHome (value : List Char) : List Char :=
  match home with
  | some home => if home = "" then value else replaceAll home.toList ['~'] 0 value
  | none => value

/-- `sanitize_text` of the default redactor, which knows no secret values. -/
def sanitizeText (value : List Char) (maxBytes : Nat) : List Char :=
  truncateUtf8 maxBytes (replaceHome home (redactCredentialPrefixes (redactSecretMarkers
    (redactUrlQueryAndFragment (stripControls value)))))

/-! ### Recovery reasons -/

def MAX_RECOVERY_REASON_BYTES : Nat := 512

structure BoundedRecoveryReason where
  value : String
  deriving DecidableEq

inductive RecoveryReasonError where
  | malformed
  | invalidRequest (field : String)
  | custom (message : String)
  deriving DecidableEq

namespace BoundedRecoveryReason

def new (home : Option String) (value : String) :
    Except RecoveryReasonError BoundedRecoveryReason :=
  let sanitized := String.ofList (sanitizeText home value.toList MAX_RECOVERY_REASON_BYTES)
  if sanitized = "" then .error (.invalidRequest "recovery_reason") else .ok ⟨sanitized⟩

/-- `deserialize` of a text: it is built again, and refused if that changes it. -/
def reread (home : Option String) (value : String) :
    Except RecoveryReasonError BoundedRecoveryReason :=
  match new home value with
  | .error error => .error error
  | .ok parsed =>
    if parsed.value ≠ value then .error (.custom "non-canonical recovery reason") else .ok parsed

def reads (home : Option String) (value : String) : Bool := (reread home value).isOk

end BoundedRecoveryReason

/-! ### A marker that truncation completes -/

def longText (lastWord : String) : List Char := List.replicate 506 'a' ++ lastWord.toList

/-- A text of 513 bytes that ends with `tokens` is cut to one that ends with the marker `token`. -/
theorem long_text_cut : sanitizeText none (longText " tokens") 512 = longText " token" := by
  decide +kernel

theorem long_text_redacted :
    sanitizeText none (longText " token") 512 = "[REDACTED LINE]".toList := by
  decide +kernel

/-- The reason that is built from it, and that reading refuses. -/
def cutReason : String := String.ofList (longText " token")

theorem cut_reason_built :
    BoundedRecoveryReason.new none (String.ofList (longText " tokens")) = .ok ⟨cutReason⟩ := by
  rw [BoundedRecoveryReason.new, String.toList_ofList, MAX_RECOVERY_REASON_BYTES, long_text_cut]
  decide +kernel

theorem cut_reason_refused : BoundedRecoveryReason.reread none cutReason =
    .error (.custom "non-canonical recovery reason") := by
  have again : BoundedRecoveryReason.new none cutReason = .ok ⟨"[REDACTED LINE]"⟩ := by
    rw [BoundedRecoveryReason.new, cutReason, String.toList_ofList, MAX_RECOVERY_REASON_BYTES,
      long_text_redacted]
    decide +kernel
  rw [BoundedRecoveryReason.reread, again]
  decide +kernel

end A2aBridge.Records
