import A2aBridge.CustodyFrameTerms
import A2aBridge.PrefixCodes

/-!
The listing of a repository's index that bridge-core/custody_coverage.rs reads: records
`<mode> <object id> <stage>\t<path>`, each with a NUL behind it. The counters are naturals, as
they never pass the number of bytes.
-/

namespace A2aBridge.IndexListings

open CustodyFrame PrefixCodes

structure IndexListing where
  records : Nat
  gitlinks : Nat

inductive IndexListingFault where
  | short | mode | separator | objectId | stage | path | trailingBytes
  deriving DecidableEq

def isOctal (byte : UInt8) : Bool := 0x30 ≤ byte && byte ≤ 0x37
def isHex (byte : UInt8) : Bool := 0x30 ≤ byte && byte ≤ 0x39 || 0x61 ≤ byte && byte ≤ 0x66
def isStage (byte : UInt8) : Bool := 0x30 ≤ byte && byte ≤ 0x33
def GITLINK : List UInt8 := [0x31, 0x36, 0x30, 0x30, 0x30, 0x30]

variable (hexLength : Nat)

def parseIndexRecord (record : List UInt8) : Except IndexListingFault Bool :=
  let fixed := 6 + 1 + hexLength + 1 + 1 + 1
  if record.length < fixed then .error .short
  else if !(record.take 6).all isOctal then .error .mode
  else if record[6]? ≠ some 0x20 then .error .separator
  else if !((record.drop 7).take hexLength).all isHex then .error .objectId
  else if record[7 + hexLength]? ≠ some 0x20 then .error .separator
  else if !record[8 + hexLength]?.any isStage then .error .stage
  else if record[9 + hexLength]? ≠ some 0x09 then .error .separator
  else match CustodyFramePathV1.fromBytes (record.drop fixed) with
    | .error _ => .error .path
    | .ok _ => .ok (record.take 6 == GITLINK)

/-- The loop of `parse_index_listing`. -/
def parseFrom (listing : IndexListing) (rest : List UInt8) :
    Except IndexListingFault IndexListing :=
  if rest = [] then .ok listing
  else match rest.idxOf? 0 with
    | none => .error .trailingBytes
    | some last =>
      match parseIndexRecord hexLength (rest.take last) with
      | .error fault => .error fault
      | .ok gitlink => parseFrom ⟨listing.records + 1, listing.gitlinks + gitlink.toNat⟩
          (rest.drop (last + 1))
termination_by rest.length
decreasing_by
  rw [List.length_drop]
  have := List.length_pos_iff.mpr ‹_›
  omega

def parseIndexListing (bytes : List UInt8) : Except IndexListingFault IndexListing :=
  parseFrom hexLength ⟨0, 0⟩ bytes

/-- A well-formed record, without its terminator. -/
structure IndexRecord where
  mode : List UInt8
  objectId : List UInt8
  stage : UInt8
  path : CustodyFramePathV1
  mode_admitted : mode.length = 6 ∧ mode.all isOctal = true
  object_admitted : objectId.length = hexLength ∧ objectId.all isHex = true
  stage_admitted : isStage stage = true
  unterminated : 0 ∉ path.bytes

namespace IndexRecord

variable {hexLength} (entry : IndexRecord hexLength)

def bytes : List UInt8 :=
  entry.mode ++ 0x20 :: entry.objectId ++ 0x20 :: entry.stage :: 0x09 :: entry.path.bytes

def gitlink : Bool := entry.mode == GITLINK

theorem bytes_free : 0 ∉ entry.bytes := by
  have mode : 0 ∉ entry.mode := fun member =>
    absurd (List.all_eq_true.mp entry.mode_admitted.2 0 member) (by decide)
  have object : 0 ∉ entry.objectId := fun member =>
    absurd (List.all_eq_true.mp entry.object_admitted.2 0 member) (by decide)
  have stage : 0 ≠ entry.stage := fun same =>
    absurd (same ▸ entry.stage_admitted) (by decide)
  simp [bytes, mode, object, stage, entry.unterminated]

theorem bytes_injective : Function.Injective (@bytes hexLength) := by
  rintro ⟨mode, objectId, stage, ⟨path, _, _⟩, ⟨six, _⟩, ⟨wide, _⟩, _, _⟩
    ⟨mode', objectId', stage', ⟨path', _, _⟩, ⟨six', _⟩, ⟨wide', _⟩, _, _⟩ same
  obtain ⟨fields, rest⟩ := List.append_inj same (by simp [six, wide, six', wide'])
  obtain ⟨rfl, tail⟩ := List.append_inj fields (six.trans six'.symm)
  cases tail
  cases rest
  rfl

theorem parse_bytes : parseIndexRecord hexLength entry.bytes = .ok entry.gitlink := by
  obtain ⟨mode, objectId, stage, path, ⟨six, octal⟩, ⟨rfl, hex⟩, staged, _⟩ := entry
  have accepted := (CustodyFramePathV1.from_bytes_iff path.bytes path).mpr rfl
  match mode, six with
  | [_, _, _, _, _, _], _ =>
    simp only [parseIndexRecord, bytes, gitlink, Nat.add_comm _ objectId.length]
    simp [octal, hex, staged, accepted]

end IndexRecord

open IndexRecord

variable {hexLength} {record : List UInt8} {flag : Bool}

theorem drop_at {index next : Nat} {byte : UInt8} (found : record[index]? = some byte)
    (after : next = index + 1) : record.drop index = byte :: record.drop next := by
  obtain ⟨inside, rfl⟩ := List.getElem?_eq_some_iff.mp found
  rw [List.drop_eq_getElem_cons inside, after]

theorem record_of_parse (free : 0 ∉ record)
    (parsed : parseIndexRecord hexLength record = .ok flag) :
    ∃ entry : IndexRecord hexLength, entry.bytes = record ∧ entry.gitlink = flag := by
  simp only [parseIndexRecord] at parsed
  repeat' split at parsed
  all_goals cases parsed
  rename_i long octal space hex gap staged tab _ path accepted
  have last := (CustodyFramePathV1.from_bytes_iff _ path).mp accepted
  simp only [ne_eq, Decidable.not_not, Bool.not_eq_true', Bool.not_eq_false,
    Option.any_eq_true] at octal space hex gap staged tab
  obtain ⟨stage, found, staged⟩ := staged
  refine ⟨⟨record.take 6, (record.drop 7).take hexLength, stage, path, ⟨?_, octal⟩, ⟨?_, hex⟩,
    staged, ?_⟩, ?_, rfl⟩
  · rw [List.length_take]
    omega
  · rw [List.length_take, List.length_drop]
    omega
  · rw [last]
    exact fun member => free (List.mem_of_mem_drop member)
  · simp only [bytes, last]
    rw [← drop_at tab (by omega), ← drop_at found (by omega), ← drop_at gap (by omega),
      List.append_assoc, List.cons_append, ← List.drop_drop, List.take_append_drop,
      ← drop_at space rfl, List.take_append_drop]

def framed (entry : IndexRecord hexLength) : List UInt8 := entry.bytes ++ [0]

variable {listing final : IndexListing} {rest : List UInt8}

theorem entries_of_parse (parsed : parseFrom hexLength listing rest = .ok final) :
    ∃ entries : List (IndexRecord hexLength), entries.flatMap framed = rest ∧
      final = ⟨listing.records + entries.length, listing.gitlinks + entries.countP gitlink⟩ := by
  fun_induction parseFrom hexLength listing rest with
  | case1 listing =>
    cases parsed
    exact ⟨[], rfl, rfl⟩
  | case2 | case3 => cases parsed
  | case4 listing rest some last found flag read ih =>
    obtain ⟨inside, zero, before⟩ := List.idxOf?_eq_some_iff.mp found
    have free : 0 ∉ rest.take last := by
      rw [List.mem_take_iff_getElem]
      rintro ⟨index, earlier, same⟩
      exact before index (by omega) same
    obtain ⟨entry, spelled, rfl⟩ := record_of_parse free read
    obtain ⟨entries, tail, rfl⟩ := ih parsed
    refine ⟨entry :: entries, ?_, ?_⟩
    · rw [List.flatMap_cons, framed, spelled, tail, List.append_assoc, List.singleton_append,
        ← drop_at (List.getElem?_eq_some_iff.mpr ⟨inside, zero⟩) rfl, List.take_append_drop]
    · cases linked : entry.gitlink <;> simp [linked] <;> omega

theorem parse_of_entries (entries : List (IndexRecord hexLength)) (listing : IndexListing) :
    parseFrom hexLength listing (entries.flatMap framed) =
      .ok ⟨listing.records + entries.length, listing.gitlinks + entries.countP gitlink⟩ := by
  induction entries generalizing listing with
  | nil =>
    rw [parseFrom]
    rfl
  | cons entry rest ih =>
    have found : (entry.bytes ++ 0 :: rest.flatMap framed).idxOf? 0 = some entry.bytes.length := by
      rw [List.idxOf?_eq_some_iff]
      have := entry.bytes_free
      grind
    rw [parseFrom]
    cases linked : entry.gitlink <;> simp [framed, found, entry.parse_bytes, linked, ih] <;> omega

/-- A listing is accepted exactly if it is a concatenation of well-formed records, its counts are
theirs, and no other records concatenate to it. -/
theorem index_listing_exact (hexLength : Nat) :
    (∀ bytes listing, parseIndexListing hexLength bytes = .ok listing ↔
      ∃ entries : List (IndexRecord hexLength), entries.flatMap framed = bytes ∧
        listing = ⟨entries.length, entries.countP gitlink⟩) ∧
    Function.Injective fun entries : List (IndexRecord hexLength) => entries.flatMap framed := by
  constructor
  · intro bytes listing
    constructor
    · intro parsed
      simpa using entries_of_parse parsed
    · rintro ⟨entries, rfl, rfl⟩
      simpa [parseIndexListing] using parse_of_entries entries ⟨0, 0⟩
  · intro left right same
    have delimited := delimited_of_mark (@bytes_free hexLength) bytes_injective
    have ends (entry : IndexRecord hexLength) (rest : List UInt8) :
        entry.bytes ++ [0] ++ rest ≠ [] := by simp
    apply And.left
    apply delimited.flat_map_until ends ends
    rw [List.append_nil, List.append_nil]
    exact same

end A2aBridge.IndexListings
