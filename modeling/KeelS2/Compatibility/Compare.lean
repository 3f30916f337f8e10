import KeelS2.Compatibility.ProfileFormat
import KeelS2.Lib.Keyed

/-!
# Comparing an accepted profile with a candidate

`Compare` indexes each kind of record by a key and walks both indexes. It is exact for the
three kinds whose key is the identity of the record. The slots are indexed by
`interface_key + "." + method`, and a token may hold a dot itself, so two different slots can
stand under one name: of these the index keeps the first, and what the others differ in is
not seen. `compare_exact_iff` says that nothing else can go wrong.
-/

namespace KeelS2.Compatibility

open Lib

/-! ## Indexing -/

section Indexing

variable {Entry : Type} (key : Entry → Text)

/-- The entries that `emplace` lets into a map: of several with one key, the first. -/
def firsts : List Entry → List Entry
  | [] => []
  | value :: rest => value :: (firsts rest).filter (key · ≠ key value)

/-- `IndexBy`: the entries of the map in the order it is walked in. -/
def indexBy (values : List Entry) : List Entry :=
  sortBy key (firsts key values)

/-- `map::find`. -/
def findKey (index : List Entry) (wanted : Text) : Option Entry :=
  index.find? (key · == wanted)

/-- One kind of record, compared in both directions. -/
def differences (same : Entry → Entry → Bool) (removed : Entry → Diagnostic)
    (changed : Entry → Entry → Diagnostic) (added : Entry → Diagnostic)
    (accepted candidate : List Entry) : List Diagnostic :=
  ((indexBy key accepted).filterMap fun value =>
    match findKey key (indexBy key candidate) (key value) with
    | none => some (removed value)
    | some other => if same value other then none else some (changed value other))
  ++ ((indexBy key candidate).filterMap fun value =>
    if (findKey key (indexBy key accepted) (key value)).isSome then none else some (added value))

end Indexing

/-! ## The four kinds -/

/-- `Difference`, less the count. -/
def warningOf (code message : Text) : Diagnostic := ⟨.warning, code, message⟩

def arrow : Text := " -> ".toList

def formatFingerprint (fingerprint : FileFingerprint) : Text :=
  "size=".toList ++ decimal fingerprint.size.toNat ++ " fnv1a64=".toList
    ++ hex64 fingerprint.fnv1a64

def sameModule (value other : Module) : Bool :=
  value.name == other.name && value.fingerprint == other.fingerprint

def moduleDifferences (accepted candidate : List Module) : List Diagnostic :=
  differences Module.role sameModule
    (fun value => warningOf "module-removed".toList value.role)
    (fun value other => warningOf "module-changed".toList
      (value.role ++ ' ' :: value.name ++ ' ' :: formatFingerprint value.fingerprint
        ++ arrow ++ other.name ++ ' ' :: formatFingerprint other.fingerprint))
    (fun value => warningOf "module-added".toList (value.role ++ ' ' :: value.name))
    accepted candidate

def sameInterface (value other : Interface) : Bool :=
  value.name == other.name && value.module == other.module

def interfaceDifferences (accepted candidate : List Interface) : List Diagnostic :=
  differences Interface.key sameInterface
    (fun value => warningOf "interface-removed".toList value.key)
    (fun value other => warningOf "interface-changed".toList
      (value.key ++ ' ' :: value.name ++ '@' :: value.module ++ arrow ++ other.name
        ++ '@' :: other.module))
    (fun value => warningOf "interface-added".toList
      (value.key ++ ' ' :: value.name ++ '@' :: value.module))
    accepted candidate

/-- `slot_key` of `Compare`, not the key of `ValidateStructure`. -/
def dottedName (slot : Slot) : Text :=
  slot.interfaceKey ++ '.' :: slot.method

def sameSlot (value other : Slot) : Bool :=
  value.index == other.index

def slotDifferences (accepted candidate : List Slot) : List Diagnostic :=
  differences dottedName sameSlot
    (fun value => warningOf "slot-removed".toList (dottedName value))
    (fun value other => warningOf "slot-changed".toList
      (dottedName value ++ ' ' :: decimal value.index.toNat ++ arrow
        ++ decimal other.index.toNat))
    (fun value => warningOf "slot-added".toList
      (dottedName value ++ '=' :: decimal value.index.toNat))
    accepted candidate

def samePattern (value other : Pattern) : Bool :=
  value.module == other.module && value.expression == other.expression &&
    value.occurrence == other.occurrence && value.matchCount == other.matchCount &&
    value.selectedFileOffset == other.selectedFileOffset

def patternDifferences (accepted candidate : List Pattern) : List Diagnostic :=
  differences Pattern.key samePattern
    (fun value => warningOf "pattern-removed".toList value.key)
    (fun value _ => warningOf "pattern-changed".toList
      (value.key ++ " requires signature review".toList))
    (fun value => warningOf "pattern-added".toList
      (value.key ++ '@' :: value.module ++ " requires signature review".toList))
    accepted candidate

/-! ## The comparison -/

def trustErrors (accepted candidate : Profile) : List Diagnostic :=
  (if accepted.status ≠ .accepted then
    [errorOf "accepted-trust".toList
      "accepted input is not marked accepted with review complete".toList] else [])
  ++ (if candidate.status ≠ .candidateUntrusted then
    [errorOf "candidate-trust".toList
      "candidate input is not marked candidate-untrusted with review required".toList] else [])

def mismatchErrors (accepted candidate : Profile) : List Diagnostic :=
  (if accepted.game ≠ candidate.game then
    [errorOf "game-mismatch".toList
      ("accepted game ".toList ++ accepted.game ++ " differs from candidate game ".toList
        ++ candidate.game)] else [])
  ++ (if accepted.platform ≠ candidate.platform then
    [errorOf "platform-mismatch".toList
      ("accepted platform ".toList ++ accepted.platform
        ++ " differs from candidate platform ".toList ++ candidate.platform)] else [])

def versionDifferences (accepted candidate : Profile) : List Diagnostic :=
  if accepted.version ≠ candidate.version then
    [warningOf "version-changed".toList (accepted.version ++ arrow ++ candidate.version)] else []

/-- All that `Compare` counts as a change, in the order it is reported. -/
def changesOf (accepted candidate : Profile) : List Diagnostic :=
  versionDifferences accepted candidate
  ++ moduleDifferences accepted.modules candidate.modules
  ++ interfaceDifferences accepted.interfaces candidate.interfaces
  ++ slotDifferences accepted.slots candidate.slots
  ++ patternDifferences accepted.patterns candidate.patterns

def errorsOf (accepted candidate : Profile) : List Diagnostic :=
  trustErrors accepted candidate ++ validateStructure accepted ++ validateStructure candidate
    ++ mismatchErrors accepted candidate

def compare (accepted candidate : Profile) : Report :=
  let found := errorsOf accepted candidate ++ changesOf accepted candidate
  { diagnostics := found
      ++ (if changesOf accepted candidate = [] ∧ ok found then
            [⟨.information, "no-observed-differences".toList,
              "accepted and candidate evidence fields are identical".toList⟩] else [])
      ++ [warningOf "human-review-required".toList
            "comparison never promotes or trusts the candidate".toList]
    changes := (changesOf accepted candidate).length
    reviewRequired := true }

/-! ## What an index keeps -/

section Indexing

variable {Entry : Type} {key : Entry → Text}

variable {values : List Entry}

section

variable (h : (values.map key).Nodup)

include h

theorem firsts_of_nodup : firsts key values = values := by
  induction values with
  | nil => rfl
  | cons value rest ih =>
    rw [List.map_cons, List.nodup_cons] at h
    rw [firsts, ih h.2]
    congr 1
    apply List.filter_eq_self.2
    intro other hother
    have hne : key other ≠ key value := by
      intro heq
      exact h.1 (heq ▸ List.mem_map_of_mem hother)
    simp [hne]

theorem perm_indexBy : (indexBy key values).Perm values := by
  unfold indexBy
  rw [firsts_of_nodup h]
  exact perm_sortBy key values

theorem findKey_of_mem {value : Entry} (hmem : value ∈ values) :
    findKey key (indexBy key values) (key value) = some value := by
  have hperm := perm_indexBy h
  apply find_of_distinct
  · exact (hperm.map key).nodup_iff.2 h
  · exact hperm.mem_iff.2 hmem

theorem isSome_findKey {wanted : Text} :
    (findKey key (indexBy key values) wanted).isSome = true ↔ wanted ∈ values.map key := by
  have hperm := perm_indexBy h
  simp only [findKey, List.find?_isSome, beq_iff_eq, List.mem_map]
  constructor
  · rintro ⟨value, hmem, hkey⟩
    exact ⟨value, hperm.mem_iff.1 hmem, hkey⟩
  · rintro ⟨value, hmem, hkey⟩
    exact ⟨value, hperm.mem_iff.2 hmem, hkey⟩

end

end Indexing

/-! ## What differs -/

section Differing

variable {Entry Key : Type} [DecidableEq Entry] [DecidableEq Key] (identity : Entry → Key)

/-- How many records differ: those of the first list that the second does not hold just as
they are, removed or changed, and those of the second that the first has nothing of. -/
def differing (accepted candidate : List Entry) : Nat :=
  accepted.countP (fun value => value ∉ candidate)
  + candidate.countP (fun value => identity value ∉ accepted.map identity)

theorem differing_eq_zero {accepted candidate : List Entry}
    (h : (candidate.map identity).Nodup) :
    differing identity accepted candidate = 0 ↔
      ∀ value, value ∈ accepted ↔ value ∈ candidate := by
  simp only [differing, Nat.add_eq_zero_iff, List.countP_eq_zero, decide_eq_true_eq, not_not]
  constructor
  · rintro ⟨hkept, hknown⟩ value
    refine ⟨hkept value, fun hmem => ?_⟩
    obtain ⟨before, hbefore, hidentity⟩ := List.mem_map.1 (hknown value hmem)
    have hsame := List.inj_on_of_nodup_map h (hkept before hbefore) hmem hidentity
    exact hsame ▸ hbefore
  · intro hiff
    refine ⟨fun value hmem => (hiff value).1 hmem, fun value hmem => ?_⟩
    exact List.mem_map_of_mem ((hiff value).2 hmem)

end Differing

/-- Over keys that are distinct, and that name the same record on both sides, the comparison
of one kind reports as many differences as there are. -/
theorem length_differences {Entry Key : Type} [DecidableEq Entry] [DecidableEq Key]
    {key : Entry → Text} {identity : Entry → Key} {same : Entry → Entry → Bool}
    {removed added : Entry → Diagnostic} {changed : Entry → Entry → Diagnostic}
    {accepted candidate : List Entry}
    (haccepted : (accepted.map key).Nodup) (hcandidate : (candidate.map key).Nodup)
    (hkey : ∀ value ∈ accepted, ∀ other ∈ candidate,
      key value = key other ↔ identity value = identity other)
    (hsame : ∀ value other, identity value = identity other →
      (same value other = true ↔ value = other)) :
    (differences key same removed changed added accepted candidate).length
      = differing identity accepted candidate := by
  unfold differences differing
  rw [List.length_append, List.length_filterMap_eq_countP, List.length_filterMap_eq_countP,
    (perm_indexBy haccepted).countP_eq, (perm_indexBy hcandidate).countP_eq]
  congr 1
  · apply List.countP_congr
    intro value hmem
    rw [decide_eq_true_eq]
    cases hfind : findKey key (indexBy key candidate) (key value) with
    | none =>
      simp only [Option.isSome_some, true_iff]
      intro hin
      rw [findKey_of_mem hcandidate hin] at hfind
      cases hfind
    | some other =>
      have hother : other ∈ candidate :=
        (perm_indexBy hcandidate).mem_iff.1 (List.mem_of_find?_eq_some hfind)
      have heq : key other = key value := by
        have := List.find?_some hfind
        simpa using this
      have hidentity := (hkey value hmem other hother).1 heq.symm
      by_cases hkept : same value other = true
      · have hvalue := (hsame value other hidentity).1 hkept
        simp [hkept, hvalue ▸ hother]
      · simp only [hkept, if_false, Option.isSome_some, true_iff, Bool.false_eq_true]
        intro hin
        have hfound := findKey_of_mem hcandidate hin
        rw [hfind, Option.some.injEq] at hfound
        exact hkept ((hsame value other hidentity).2 hfound.symm)
  · apply List.countP_congr
    intro value hmem
    rw [decide_eq_true_eq]
    have hknown : key value ∈ accepted.map key ↔ identity value ∈ accepted.map identity := by
      simp only [List.mem_map]
      constructor
      · rintro ⟨other, hother, heq⟩
        exact ⟨other, hother, (hkey other hother value hmem).1 heq⟩
      · rintro ⟨other, hother, heq⟩
        exact ⟨other, hother, (hkey other hother value hmem).2 heq⟩
    rw [← hknown, ← isSome_findKey haccepted]
    cases (findKey key (indexBy key accepted) (key value)).isSome <;> simp

/-! ## The exactness of the comparison -/

/-- What identifies a slot, as `ValidateStructure` has it. -/
def slotName (slot : Slot) : Text × Text :=
  (slot.interfaceKey, slot.method)

/-- The name of a slot with a dot in the middle. -/
def dotted (name : Text × Text) : Text :=
  name.1 ++ '.' :: name.2

/-- Two profiles that `Compare` is meant for. -/
structure Comparable (accepted candidate : Profile) : Prop where
  acceptedTrust : accepted.status = .accepted
  candidateTrust : candidate.status = .candidateUntrusted
  acceptedValid : accepted.Valid
  candidateValid : candidate.Valid

/-- The same evidence, the records of each kind taken as a set. -/
structure SameEvidence (accepted candidate : Profile) : Prop where
  game : accepted.game = candidate.game
  platform : accepted.platform = candidate.platform
  version : accepted.version = candidate.version
  modules : ∀ module, module ∈ accepted.modules ↔ module ∈ candidate.modules
  interfaces : ∀ interface, interface ∈ accepted.interfaces ↔ interface ∈ candidate.interfaces
  slots : ∀ slot, slot ∈ accepted.slots ↔ slot ∈ candidate.slots
  patterns : ∀ pattern, pattern ∈ accepted.patterns ↔ pattern ∈ candidate.patterns

/-- How many records are added, removed or changed in any field, and the version with them. -/
def differingRecords (accepted candidate : Profile) : Nat :=
  (if accepted.version ≠ candidate.version then 1 else 0)
  + differing Module.role accepted.modules candidate.modules
  + differing Interface.key accepted.interfaces candidate.interfaces
  + differing slotName accepted.slots candidate.slots
  + differing Pattern.key accepted.patterns candidate.patterns

/-- The comparison is exact: it reports no change and no error only of the same evidence, and
counts every record that differs. -/
structure Exact (accepted candidate : Profile) : Prop where
  nothing : (compare accepted candidate).changes = 0 ∧
      ok (compare accepted candidate).diagnostics = true ↔ SameEvidence accepted candidate
  counted : (compare accepted candidate).changes = differingRecords accepted candidate

variable {accepted candidate : Profile}

theorem length_moduleDifferences (h : Comparable accepted candidate) :
    (moduleDifferences accepted.modules candidate.modules).length
      = differing Module.role accepted.modules candidate.modules := by
  apply length_differences h.acceptedValid.roles h.candidateValid.roles
  · exact fun _ _ _ _ => Iff.rfl
  · rintro ⟨role, name, fingerprint⟩ ⟨role', name', fingerprint'⟩ hrole
    cases hrole
    simp [sameModule]

theorem length_interfaceDifferences (h : Comparable accepted candidate) :
    (interfaceDifferences accepted.interfaces candidate.interfaces).length
      = differing Interface.key accepted.interfaces candidate.interfaces := by
  apply length_differences h.acceptedValid.keys h.candidateValid.keys
  · exact fun _ _ _ _ => Iff.rfl
  · rintro ⟨key, name, module⟩ ⟨key', name', module'⟩ hkey
    cases hkey
    simp [sameInterface]

theorem length_patternDifferences (h : Comparable accepted candidate) :
    (patternDifferences accepted.patterns candidate.patterns).length
      = differing Pattern.key accepted.patterns candidate.patterns := by
  apply length_differences h.acceptedValid.patternKeys h.candidateValid.patternKeys
  · exact fun _ _ _ _ => Iff.rfl
  · rintro ⟨key, module, expression, occurrence, count, offset⟩
      ⟨key', module', expression', occurrence', count', offset'⟩ hkey
    cases hkey
    simp [samePattern, and_assoc]

theorem nodup_dottedName {slots : List Slot} (hkeys : (slots.map slotKey).Nodup)
    (hinj : ∀ slot ∈ slots, ∀ other ∈ slots, dottedName slot = dottedName other →
      slotName slot = slotName other) : (slots.map dottedName).Nodup := by
  apply List.Nodup.map_on ?_ hkeys.of_map
  intro slot hslot other hother hdotted
  apply List.inj_on_of_nodup_map hkeys hslot hother
  have hname := hinj slot hslot other hother hdotted
  simp only [slotName, Prod.mk.injEq] at hname
  simp [slotKey, hname.1, hname.2]

theorem length_slotDifferences (h : Comparable accepted candidate)
    (hinj : ∀ slot ∈ accepted.slots ++ candidate.slots, ∀ other ∈ accepted.slots ++ candidate.slots,
      dottedName slot = dottedName other → slotName slot = slotName other) :
    (slotDifferences accepted.slots candidate.slots).length
      = differing slotName accepted.slots candidate.slots := by
  apply length_differences
  · apply nodup_dottedName h.acceptedValid.slotKeys
    intro slot hslot other hother
    exact hinj slot (List.mem_append_left _ hslot) other (List.mem_append_left _ hother)
  · apply nodup_dottedName h.candidateValid.slotKeys
    intro slot hslot other hother
    exact hinj slot (List.mem_append_right _ hslot) other (List.mem_append_right _ hother)
  · intro slot hslot other hother
    constructor
    · exact hinj slot (List.mem_append_left _ hslot) other (List.mem_append_right _ hother)
    · intro hname
      simp only [slotName, Prod.mk.injEq] at hname
      simp [dottedName, hname.1, hname.2]
  · rintro ⟨key, method, index⟩ ⟨key', method', index'⟩ hname
    simp only [slotName, Prod.mk.injEq] at hname
    obtain ⟨rfl, rfl⟩ := hname
    simp [sameSlot]

theorem differingRecords_eq_zero (h : Comparable accepted candidate) :
    (differingRecords accepted candidate = 0 ∧ accepted.game = candidate.game ∧
      accepted.platform = candidate.platform) ↔ SameEvidence accepted candidate := by
  have hnames : (candidate.slots.map slotName).Nodup := by
    apply List.Nodup.map_on ?_ h.candidateValid.slotKeys.of_map
    intro slot hslot other hother hname
    apply List.inj_on_of_nodup_map h.candidateValid.slotKeys hslot hother
    simp only [slotName, Prod.mk.injEq] at hname
    simp [slotKey, hname.1, hname.2]
  simp only [differingRecords, Nat.add_eq_zero_iff, ite_eq_right_iff, one_ne_zero, imp_false,
    not_not, ne_eq, differing_eq_zero _ h.candidateValid.roles,
    differing_eq_zero _ h.candidateValid.keys, differing_eq_zero _ hnames,
    differing_eq_zero _ h.candidateValid.patternKeys]
  constructor
  · rintro ⟨⟨⟨⟨⟨hversion, hmodules⟩, hinterfaces⟩, hslots⟩, hpatterns⟩, hgame, hplatform⟩
    exact ⟨hgame, hplatform, hversion, hmodules, hinterfaces, hslots, hpatterns⟩
  · rintro ⟨hgame, hplatform, hversion, hmodules, hinterfaces, hslots, hpatterns⟩
    exact ⟨⟨⟨⟨⟨hversion, hmodules⟩, hinterfaces⟩, hslots⟩, hpatterns⟩, hgame, hplatform⟩

/-! ## The verdict -/

theorem ok_differences {Entry : Type} {key : Entry → Text} {same : Entry → Entry → Bool}
    {removed added : Entry → Diagnostic} {changed : Entry → Entry → Diagnostic}
    (hremoved : ∀ value, (removed value).severity = .warning)
    (hchanged : ∀ value other, (changed value other).severity = .warning)
    (hadded : ∀ value, (added value).severity = .warning) (accepted candidate : List Entry) :
    ok (differences key same removed changed added accepted candidate) = true := by
  unfold ok
  rw [List.all_eq_true]
  intro diagnostic hmem
  have hwarning : diagnostic.severity = .warning := by
    rcases List.mem_append.1 hmem with hmem | hmem
    · obtain ⟨value, -, hvalue⟩ := List.mem_filterMap.1 hmem
      split at hvalue
      · cases hvalue
        exact hremoved value
      · split at hvalue
        · cases hvalue
        · cases hvalue
          exact hchanged value _
    · obtain ⟨value, -, hvalue⟩ := List.mem_filterMap.1 hmem
      split at hvalue
      · cases hvalue
      · cases hvalue
        exact hadded value
  simp [hwarning]

theorem ok_changesOf (accepted candidate : Profile) :
    ok (changesOf accepted candidate) = true := by
  have hversion : ok (versionDifferences accepted candidate) = true := by
    unfold versionDifferences
    split <;> rfl
  simp only [changesOf, ok_append, hversion, moduleDifferences, interfaceDifferences,
    slotDifferences, patternDifferences, Bool.true_and, Bool.and_eq_true]
  refine ⟨⟨⟨?_, ?_⟩, ?_⟩, ?_⟩
  all_goals exact ok_differences (fun _ => rfl) (fun _ _ => rfl) (fun _ => rfl) _ _

/-- Among comparable profiles only another game or platform is an error. -/
theorem ok_compare (h : Comparable accepted candidate) :
    ok (compare accepted candidate).diagnostics = true ↔
      accepted.game = candidate.game ∧ accepted.platform = candidate.platform := by
  have htrust : trustErrors accepted candidate = [] := by
    simp [trustErrors, h.acceptedTrust, h.candidateTrust]
  have hmismatch : ok (mismatchErrors accepted candidate) = true ↔
      accepted.game = candidate.game ∧ accepted.platform = candidate.platform := by
    unfold mismatchErrors
    rw [ok_append, Bool.and_eq_true]
    apply and_congr
    · split <;> simp_all [ok, errorOf]
    · split <;> simp_all [ok, errorOf]
  have herrors : ok (errorsOf accepted candidate) = ok (mismatchErrors accepted candidate) := by
    simp [errorsOf, htrust, validateStructure_eq_nil.2 h.acceptedValid,
        validateStructure_eq_nil.2 h.candidateValid]
  rw [← hmismatch, ← herrors]
  simp only [compare, ok_append, ok_changesOf, Bool.and_true]
  have hlast : ok [warningOf "human-review-required".toList
      "comparison never promotes or trusts the candidate".toList] = true := rfl
  rw [hlast, Bool.and_true]
  split
  · simp [ok]
  · simp [ok]

theorem exact_of_dotted (h : Comparable accepted candidate)
    (hinj : ∀ slot ∈ accepted.slots ++ candidate.slots, ∀ other ∈ accepted.slots ++ candidate.slots,
      dottedName slot = dottedName other → slotName slot = slotName other) :
    Exact accepted candidate := by
  have hversion : (versionDifferences accepted candidate).length
      = if accepted.version ≠ candidate.version then 1 else 0 := by
    unfold versionDifferences
    split <;> rfl
  have hcounted : (compare accepted candidate).changes = differingRecords accepted candidate := by
    simp only [compare, changesOf, differingRecords, List.length_append, hversion,
      length_moduleDifferences h, length_interfaceDifferences h, length_slotDifferences h hinj,
      length_patternDifferences h]
  refine ⟨?_, hcounted⟩
  rw [hcounted, ok_compare h, differingRecords_eq_zero h]

/-! ## Names that the dot does not keep apart -/

/-- A profile with the one slot `name`, at index zero, on one of two interfaces. -/
def oneSlotProfile (status : ProfileStatus) (keys : Text × Text) (name : Text × Text) : Profile :=
  { status := status, game := ['g'], version := ['v'], platform := ['p']
    modules := [⟨['m'], ['f'], ⟨1, 0⟩⟩]
    interfaces := [⟨keys.1, ['i'], ['m']⟩, ⟨keys.2, ['i'], ['m']⟩]
    slots := [⟨name.1, name.2, 0⟩]
    patterns := [] }

/-- Both halves of a slot's name are tokens. -/
def ValidName (name : Text × Text) : Prop :=
  validToken name.1 = true ∧ validToken name.2 = true

theorem oneSlotProfile_valid {status : ProfileStatus} {keys name : Text × Text}
    (hkeys : keys.1 ≠ keys.2) (hfirst : validToken keys.1 = true)
    (hsecond : validToken keys.2 = true) (hname : ValidName name)
    (hmem : name.1 = keys.1 ∨ name.1 = keys.2) :
    (oneSlotProfile status keys name).Valid := by
  have htoken : validToken ['i'] = true := by decide
  exact {
    game := (by decide : validToken ['g'] = true)
    version := (by decide : validToken ['v'] = true)
    platform := (by decide : validToken ['p'] = true)
    roles := by simp [oneSlotProfile]
    modules := by
      intro module hmodule
      rw [List.mem_singleton.1 hmodule]
      decide
    keys := by simp [oneSlotProfile, hkeys]
    interfaces := by
      intro interface hinterface
      simp only [oneSlotProfile, List.mem_cons, List.not_mem_nil, or_false] at hinterface
      rcases hinterface with rfl | rfl
      · exact ⟨hfirst, htoken, by simp [oneSlotProfile]⟩
      · exact ⟨hsecond, htoken, by simp [oneSlotProfile]⟩
    slotKeys := by simp [oneSlotProfile]
    slots := by
      intro slot hslot
      rw [List.mem_singleton.1 hslot]
      refine ⟨hname.1, ?_, hname.2⟩
      simpa [oneSlotProfile] using hmem
    patternKeys := by simp [oneSlotProfile]
    patterns := by
      intro pattern hpattern
      cases hpattern }

/-- Two different slots under one dotted name are not told apart. -/
theorem not_exact_of_shared {first second : Text × Text} (hfirst : ValidName first)
    (hsecond : ValidName second) (hne : first ≠ second) (hshared : dotted first = dotted second) :
    Comparable (oneSlotProfile .accepted (first.1, second.1) first)
        (oneSlotProfile .candidateUntrusted (first.1, second.1) second) ∧
      ¬ Exact (oneSlotProfile .accepted (first.1, second.1) first)
        (oneSlotProfile .candidateUntrusted (first.1, second.1) second) := by
  have hkeys : first.1 ≠ second.1 := by
    intro heq
    apply hne
    unfold dotted at hshared
    rw [heq, List.append_cancel_left_eq, List.cons.injEq] at hshared
    exact Prod.ext heq hshared.2
  have hcomparable : Comparable (oneSlotProfile .accepted (first.1, second.1) first)
      (oneSlotProfile .candidateUntrusted (first.1, second.1) second) :=
    { acceptedTrust := rfl
      candidateTrust := rfl
      acceptedValid := oneSlotProfile_valid hkeys hfirst.1 hsecond.1 hfirst (Or.inl rfl)
      candidateValid := oneSlotProfile_valid hkeys hfirst.1 hsecond.1 hsecond (Or.inr rfl) }
  refine ⟨hcomparable, fun hexact => ?_⟩
  have hmodules := length_moduleDifferences hcomparable
  have hinterfaces := length_interfaceDifferences hcomparable
  have hpatterns := length_patternDifferences hcomparable
  have hslots : slotDifferences [⟨first.1, first.2, 0⟩] [⟨second.1, second.2, 0⟩] = [] := by
    have hname : first.1 ++ '.' :: first.2 = second.1 ++ '.' :: second.2 := hshared
    have hone : ∀ slot : Slot, indexBy dottedName [slot] = [slot] := fun _ => rfl
    simp [slotDifferences, differences, hone, findKey, sameSlot, dottedName, hname]
  have hzero : (compare (oneSlotProfile .accepted (first.1, second.1) first)
      (oneSlotProfile .candidateUntrusted (first.1, second.1) second)).changes = 0 := by
    simp only [compare, changesOf, List.length_append, hmodules, hinterfaces, hpatterns]
    simp [oneSlotProfile, hslots, differing, versionDifferences]
  have hsame := hexact.nothing.1 ⟨hzero, (ok_compare hcomparable).2 ⟨rfl, rfl⟩⟩
  have hslot := (hsame.slots ⟨first.1, first.2, 0⟩).1 List.mem_cons_self
  simp only [oneSlotProfile, List.mem_singleton, Slot.mk.injEq] at hslot
  exact hkeys hslot.1

/-- **What the comparison can miss.** Over any set of slot names, every comparison is exact
if and only if no two valid names of the set share a dotted name. -/
theorem compare_exact_iff (names : Set (Text × Text)) :
    (∀ accepted candidate, Comparable accepted candidate →
      (∀ slot ∈ accepted.slots ++ candidate.slots, slotName slot ∈ names) →
        Exact accepted candidate) ↔
      ∀ first ∈ names, ∀ second ∈ names, ValidName first → ValidName second →
        dotted first = dotted second → first = second := by
  constructor
  · intro hexact first hfirst second hsecond hvalid hvalid' hshared
    by_contra hne
    obtain ⟨hcomparable, hwrong⟩ := not_exact_of_shared hvalid hvalid' hne hshared
    apply hwrong
    apply hexact _ _ hcomparable
    intro slot hslot
    simp only [oneSlotProfile, List.cons_append, List.nil_append, List.mem_cons,
      List.not_mem_nil, or_false] at hslot
    rcases hslot with rfl | rfl
    · exact hfirst
    · exact hsecond
  · intro hinj accepted candidate hcomparable hnames
    apply exact_of_dotted hcomparable
    intro slot hslot other hother hdotted
    have hvalid : ∀ slot ∈ accepted.slots ++ candidate.slots, ValidName (slotName slot) := by
      intro slot hslot
      rcases List.mem_append.1 hslot with hslot | hslot
      · obtain ⟨hkey, -, hmethod⟩ := hcomparable.acceptedValid.slots slot hslot
        exact ⟨hkey, hmethod⟩
      · obtain ⟨hkey, -, hmethod⟩ := hcomparable.candidateValid.slots slot hslot
        exact ⟨hkey, hmethod⟩
    exact hinj _ (hnames slot hslot) _ (hnames other hother) (hvalid slot hslot)
      (hvalid other hother) hdotted

/-- A slot `c` of `a.b` that became a slot `b.c` of `a`: no change is reported. -/
theorem dotted_slot_missed :
    Comparable (oneSlotProfile .accepted (['a', '.', 'b'], ['a']) (['a', '.', 'b'], ['c']))
      (oneSlotProfile .candidateUntrusted (['a', '.', 'b'], ['a']) (['a'], ['b', '.', 'c'])) ∧
    ¬ Exact (oneSlotProfile .accepted (['a', '.', 'b'], ['a']) (['a', '.', 'b'], ['c']))
      (oneSlotProfile .candidateUntrusted (['a', '.', 'b'], ['a']) (['a'], ['b', '.', 'c'])) := by
  have hfirst : ValidName (['a', '.', 'b'], ['c']) := ⟨by decide, by decide⟩
  have hsecond : ValidName (['a'], ['b', '.', 'c']) := ⟨by decide, by decide⟩
  exact not_exact_of_shared hfirst hsecond (by decide) (by decide)

end KeelS2.Compatibility
