import KeelS2.Compatibility.ProfileFormat

/-!
# The round trip of the profile file

Line by line first: a record of texts, of which the first is a keyword, is written as a
line that the reader takes apart into the same record. Then record by record, for each of
the four kinds. A valid profile consists of such records only, and order of keys does not
change what is valid.
-/

namespace KeelS2.Compatibility

open Lib

/-! ## Lines -/

/-- A record that survives being written as a line. -/
structure Writable (record : Record) : Prop where
  keyword : ∃ first rest, record = first :: rest ∧ first ≠ [] ∧ first.head? ≠ some '#'
  texts : ∀ field ∈ record, validText field true = true

variable {profile : Profile} {record : Record} {disk : Disk} {path expectedHeader : Text}

theorem Writable.ne_nil (h : Writable record) : record ≠ [] := by
  obtain ⟨first, rest, rfl, -⟩ := h.keyword
  exact List.cons_ne_nil _ _

theorem Writable.not_mem (h : Writable record) {character : Char} (hcontrol : character.toNat < 32)
    (htab : character ≠ '\t') : character ∉ joinFields '\t' record := by
  intro hmem
  rcases of_mem_joinFields hmem with heq | ⟨field, hfield, hin⟩
  · exact htab heq
  · exact not_mem_of_validText (h.texts field hfield) hcontrol hin

theorem Writable.fields (h : Writable record) :
    Lib.fields '\t' (joinFields '\t' record) = record := by
  apply fields_joinFields h.ne_nil
  intro field hfield
  exact not_mem_of_validText (h.texts field hfield) (by decide)

theorem dropReturn_of_not_mem {line : Text} (h : '\r' ∉ line) : dropReturn line = line := by
  apply if_neg
  intro hlast
  exact h (List.mem_of_getLast? hlast)

theorem Writable.dropReturn (h : Writable record) :
    Compatibility.dropReturn (joinFields '\t' record) = joinFields '\t' record :=
  dropReturn_of_not_mem (h.not_mem (by decide) (by decide))

theorem Writable.head (h : Writable record) :
    joinFields '\t' record ≠ [] ∧ (joinFields '\t' record).head? ≠ some '#' := by
  obtain ⟨first, rest, rfl, hne, hmark⟩ := h.keyword
  have hhead : (joinFields '\t' (first :: rest)).head? = first.head? := head?_joinFields hne
  refine ⟨?_, hhead ▸ hmark⟩
  intro hnil
  rw [hnil] at hhead
  exact hne (List.head?_eq_none_iff.1 hhead.symm)

theorem Writable.valid (h : Writable record) :
    (record.any fun field => ¬ validText field true) = false := by
  rw [List.any_eq_false]
  intro field hfield
  simp [h.texts field hfield]

theorem readLines_written {written : List Record} (h : ∀ record ∈ written, Writable record)
    (lineNumber : Nat) (records : List Record) :
    readLines path expectedHeader (written.map (joinFields '\t')) lineNumber true records
      = .ok (records ++ written) := by
  induction written generalizing lineNumber records with
  | nil => simp [readLines]
  | cons record rest ih =>
    have hrecord := h record List.mem_cons_self
    have hline : ¬ (joinFields '\t' record = [] ∨ (joinFields '\t' record).head? = some '#') :=
      not_or.2 hrecord.head
    rw [List.map_cons, readLines]
    simp only [hrecord.dropReturn, if_neg hline, not_true_eq_false, if_false, hrecord.fields,
      hrecord.valid, Bool.false_eq_true]
    rw [ih fun other hother => h other (List.mem_cons_of_mem _ hother)]
    simp

theorem readRecords_written {header : Text} {written : List Record}
    (hheader : Writable (Lib.fields '\t' header)) (h : ∀ record ∈ written, Writable record)
    (hfile : disk.files path = some (unlines (header :: written.map (joinFields '\t')))) :
    readRecords disk path header = .ok written := by
  have hself : joinFields '\t' (Lib.fields '\t' header) = header :=
    List.intercalate_splitOn '\t'
  have hfeeds : ∀ line ∈ header :: written.map (joinFields '\t'), '\n' ∉ line := by
    intro line hline
    rcases List.mem_cons.1 hline with rfl | hline
    · rw [← hself]
      exact hheader.not_mem (by decide) (by decide)
    · obtain ⟨record, hrecord, rfl⟩ := List.mem_map.1 hline
      exact (h record hrecord).not_mem (by decide) (by decide)
  have hdrop := hheader.dropReturn
  have hline := not_or.2 hheader.head
  rw [hself] at hdrop hline
  unfold readRecords
  rw [hfile]
  simp only [lines_unlines hfeeds]
  rw [readLines]
  simp only [hdrop, if_neg hline, Bool.false_eq_true, not_false_eq_true, if_true, ne_eq,
    not_true_eq_false, if_false]
  exact readLines_written h 2 []

/-! ## Records -/

theorem validText_decimal {n : Nat} (h : n < 2 ^ 64) : validText (decimal n) true = true := by
  have hall : (decimal n).all isTextCharacter = true := by
    rw [List.all_eq_true]
    intro character hmem
    apply isTextCharacter_of_isTokenCharacter
    simp [isTokenCharacter, Char.isAlphanum, isDigit_of_mem_decimal hmem]
  have hlength : (decimal n).length ≤ 20 := by
    unfold decimal
    apply (Nat.length_toDigits_le_iff (by decide) (by decide)).2
    omega
  have hshort : (decimal n).length ≤ 16384 := by omega
  simp [validText, hall, hshort]

theorem validText_hex64 (value : UInt64) : validText (hex64 value) true = true := by
  have hall : (hex64 value).all isTextCharacter = true := by
    rw [List.all_eq_true]
    intro character hmem
    apply isTextCharacter_of_isTokenCharacter
    simp [isTokenCharacter, isAlphanum_of_mem_hexDigits hmem]
  have hlength : (hex64 value).length = 16 := length_hexDigits 16 value.toNat
  simp [validText, hall, hlength]

theorem validText_of_isNormalized {expression : Text} (h : isNormalized expression = true) :
    validText expression true = true := by
  unfold isNormalized at h
  split at h
  · rename_i pattern normalized hparse
    obtain ⟨hlength, -, rfl⟩ := parsePattern_eq_some hparse
    rw [← beq_iff_eq.1 h]
    exact validText_normalize hlength
  · cases h

theorem writable_cons {keyword : Text} {rest : Record} (hkeyword : validToken keyword = true)
    (htexts : ∀ field ∈ rest, validText field true = true) : Writable (keyword :: rest) := by
  refine ⟨⟨keyword, rest, rfl, ?_, ?_⟩, ?_⟩
  · rintro rfl
    cases hkeyword
  · intro hhead
    obtain ⟨more, rfl⟩ : ∃ more, keyword = '#' :: more := by
      cases keyword with
      | nil => cases hhead
      | cons first more =>
        simp only [List.head?_cons, Option.some.injEq] at hhead
        exact ⟨more, by rw [hhead]⟩
    simp [validToken, isTokenCharacter] at hkeyword
  · intro field hfield
    rcases List.mem_cons.1 hfield with rfl | hfield
    · exact validText_of_validToken hkeyword
    · exact htexts field hfield

theorem writable_moduleRecord {module : Module} (hrole : validToken module.role = true)
    (hname : validText module.name false = true) : Writable (moduleRecord module) := by
  apply writable_cons (by decide)
  simp only [List.forall_mem_cons, List.not_mem_nil, false_imp_iff, implies_true, and_true]
  exact ⟨validText_of_validToken hrole, validText_true hname,
    validText_decimal module.fingerprint.size.toNat_lt, validText_hex64 _⟩

theorem writable_interfaceRecord {interface : Interface} (hkey : validToken interface.key = true)
    (hname : validToken interface.name = true) (hmodule : validToken interface.module = true) :
    Writable (interfaceRecord interface) := by
  apply writable_cons (by decide)
  simp only [List.forall_mem_cons, List.not_mem_nil, false_imp_iff, implies_true, and_true]
  exact ⟨validText_of_validToken hkey, validText_of_validToken hname,
    validText_of_validToken hmodule⟩

theorem writable_slotRecord {slot : Slot} (hkey : validToken slot.interfaceKey = true)
    (hmethod : validToken slot.method = true) : Writable (slotRecord slot) := by
  apply writable_cons (by decide)
  simp only [List.forall_mem_cons, List.not_mem_nil, false_imp_iff, implies_true, and_true]
  refine ⟨validText_of_validToken hkey, validText_of_validToken hmethod, ?_⟩
  apply validText_decimal
  have := slot.index.toNat_lt
  omega

theorem writable_patternRecord {pattern : Pattern} (hkey : validToken pattern.key = true)
    (hmodule : validToken pattern.module = true)
    (hexpression : isNormalized pattern.expression = true) :
    Writable (patternRecord pattern) := by
  have hoccurrence := pattern.occurrence.toNat_lt
  have hcount := pattern.matchCount.toNat_lt
  apply writable_cons (by decide)
  simp only [List.forall_mem_cons, List.not_mem_nil, false_imp_iff, implies_true, and_true]
  exact ⟨validText_of_validToken hkey, validText_of_validToken hmodule,
    validText_of_isNormalized hexpression, validText_decimal (by omega),
    validText_decimal (by omega), validText_decimal pattern.selectedFileOffset.toNat_lt⟩

theorem writable_scalarRecords (h : profile.Valid) :
    ∀ record ∈ scalarRecords profile, Writable record := by
  have hstatus : ∀ record ∈ statusRecords profile.status, Writable record := by
    cases profile.status
    all_goals
      simp only [statusRecords, List.forall_mem_cons, List.not_mem_nil, false_imp_iff,
        implies_true, and_true]
      constructor <;> exact writable_cons (by decide) (by decide)
  intro record hrecord
  rcases List.mem_append.1 hrecord with hrecord | hrecord
  · exact hstatus record hrecord
  · simp only [List.mem_cons, List.not_mem_nil, or_false] at hrecord
    rcases hrecord with rfl | rfl | rfl
    · exact writable_cons (by decide) (by simpa using validText_of_validToken h.game)
    · exact writable_cons (by decide) (by simpa using validText_of_validToken h.version)
    · exact writable_cons (by decide) (by simpa using validText_of_validToken h.platform)

/-! ## The order of the records -/

theorem Profile.Valid.sorted (h : profile.Valid) : profile.sorted.Valid := by
  have hmodules := perm_sortBy Module.role profile.modules
  have hinterfaces := perm_sortBy Interface.key profile.interfaces
  have hslots := perm_sortBy slotOrder profile.slots
  have hpatterns := perm_sortBy Pattern.key profile.patterns
  have hroles := fun role => ((hmodules.map Module.role).mem_iff (a := role)).2
  have hkeys := fun key => ((hinterfaces.map Interface.key).mem_iff (a := key)).2
  exact {
    game := h.game
    version := h.version
    platform := h.platform
    roles := (hmodules.map Module.role).nodup_iff.2 h.roles
    modules := fun module hmem => h.modules module (hmodules.mem_iff.1 hmem)
    keys := (hinterfaces.map Interface.key).nodup_iff.2 h.keys
    interfaces := fun interface hmem => by
      obtain ⟨hkey, hname, hmodule⟩ := h.interfaces interface (hinterfaces.mem_iff.1 hmem)
      exact ⟨hkey, hname, hroles _ hmodule⟩
    slotKeys := (hslots.map slotKey).nodup_iff.2 h.slotKeys
    slots := fun slot hmem => by
      obtain ⟨hkey, hinterface, hmethod⟩ := h.slots slot (hslots.mem_iff.1 hmem)
      exact ⟨hkey, hkeys _ hinterface, hmethod⟩
    patternKeys := (hpatterns.map Pattern.key).nodup_iff.2 h.patternKeys
    patterns := fun pattern hmem => by
      obtain ⟨hkey, hmodule, hrest⟩ := h.patterns pattern (hpatterns.mem_iff.1 hmem)
      exact ⟨hkey, hroles _ hmodule, hrest⟩ }

theorem Profile.sorted_sorted (profile : Profile) : profile.sorted.sorted = profile.sorted := by
  simp [Profile.sorted, sortBy_sortBy]

theorem profileText_sorted (profile : Profile) :
    profileText profile.sorted = profileText profile := by
  unfold profileText profileRecords
  rw [Profile.sorted_sorted]
  rfl

theorem validToken_of_mem_roles (h : profile.Valid) {role : Text}
    (hmem : role ∈ profile.modules.map Module.role) : validToken role = true := by
  obtain ⟨module, hmodule, rfl⟩ := List.mem_map.1 hmem
  exact (h.modules module hmodule).1

theorem writable_profileRecords (h : profile.Valid) :
    ∀ record ∈ profileRecords profile, Writable record := by
  have hsorted := h.sorted
  intro record hrecord
  simp only [profileRecords, List.mem_append, List.mem_map] at hrecord
  rcases hrecord with (((hrecord | ⟨module, hmem, rfl⟩) | ⟨interface, hmem, rfl⟩) |
    ⟨slot, hmem, rfl⟩) | ⟨pattern, hmem, rfl⟩
  · exact writable_scalarRecords h record hrecord
  · obtain ⟨hrole, hname, -⟩ := hsorted.modules module hmem
    exact writable_moduleRecord hrole hname
  · obtain ⟨hkey, hname, hmodule⟩ := hsorted.interfaces interface hmem
    exact writable_interfaceRecord hkey hname (validToken_of_mem_roles hsorted hmodule)
  · obtain ⟨hkey, -, hmethod⟩ := hsorted.slots slot hmem
    exact writable_slotRecord hkey hmethod
  · obtain ⟨hkey, hmodule, hexpression, -⟩ := hsorted.patterns pattern hmem
    exact writable_patternRecord hkey (validToken_of_mem_roles hsorted hmodule) hexpression

/-! ## Reading what was written -/

theorem readRecord_module (reading : Reading) (module : Module) :
    readRecord reading (moduleRecord module)
      = { reading with profile := reading.profile.addModule module } := by
  have hparse : parseModule (moduleRecord module) = some module := by
    simp [parseModule, moduleRecord, parseUnsigned64_decimal, parseHex64_hex64]
  have hread : readRecord reading (moduleRecord module)
      = reading.take Profile.addModule "profile-module".toList "invalid module record".toList
        (parseModule (moduleRecord module)) := rfl
  rw [hread, hparse]
  rfl

theorem readRecord_interface (reading : Reading) (interface : Interface) :
    readRecord reading (interfaceRecord interface)
      = { reading with profile := reading.profile.addInterface interface } := rfl

theorem readRecord_slot (reading : Reading) (slot : Slot) :
    readRecord reading (slotRecord slot)
      = { reading with profile := reading.profile.addSlot slot } := by
  have hparse : parseSlot (slotRecord slot) = some slot := by
    simp [parseSlot, slotRecord, parseUnsigned32_decimal]
  have hread : readRecord reading (slotRecord slot)
      = reading.take Profile.addSlot "profile-slot".toList "invalid slot record".toList
        (parseSlot (slotRecord slot)) := rfl
  rw [hread, hparse]
  rfl

theorem readRecord_pattern (reading : Reading) (pattern : Pattern) :
    readRecord reading (patternRecord pattern)
      = { reading with profile := reading.profile.addPattern pattern } := by
  have hparse : parsePatternRecord (patternRecord pattern) = some pattern := by
    simp [parsePatternRecord, patternRecord, parseUnsigned32_decimal, parseUnsigned64_decimal]
  have hread : readRecord reading (patternRecord pattern)
      = reading.take Profile.addPattern "profile-pattern".toList "invalid pattern record".toList
        (parsePatternRecord (patternRecord pattern)) := rfl
  rw [hread, hparse]
  rfl

theorem foldl_readRecord {Entry : Type} {record : Entry → Record}
    {add : Profile → Entry → Profile}
    (hread : ∀ reading entry, readRecord reading (record entry)
      = { reading with profile := add reading.profile entry })
    (entries : List Entry) (reading : Reading) :
    (entries.map record).foldl readRecord reading
      = { reading with profile := entries.foldl add reading.profile } := by
  induction entries generalizing reading with
  | nil => rfl
  | cons entry rest ih =>
    rw [List.map_cons, List.foldl_cons, hread, ih]
    rfl

theorem foldl_addModule (modules : List Module) (profile : Profile) :
    modules.foldl Profile.addModule profile
      = { profile with modules := profile.modules ++ modules } := by
  induction modules generalizing profile with
  | nil => simp
  | cons module rest ih =>
    rw [List.foldl_cons, ih]
    simp [Profile.addModule]

theorem foldl_addInterface (interfaces : List Interface) (profile : Profile) :
    interfaces.foldl Profile.addInterface profile
      = { profile with interfaces := profile.interfaces ++ interfaces } := by
  induction interfaces generalizing profile with
  | nil => simp
  | cons interface rest ih =>
    rw [List.foldl_cons, ih]
    simp [Profile.addInterface]

theorem foldl_addSlot (slots : List Slot) (profile : Profile) :
    slots.foldl Profile.addSlot profile = { profile with slots := profile.slots ++ slots } := by
  induction slots generalizing profile with
  | nil => simp
  | cons slot rest ih =>
    rw [List.foldl_cons, ih]
    simp [Profile.addSlot]

theorem foldl_addPattern (patterns : List Pattern) (profile : Profile) :
    patterns.foldl Profile.addPattern profile
      = { profile with patterns := profile.patterns ++ patterns } := by
  induction patterns generalizing profile with
  | nil => simp
  | cons pattern rest ih =>
    rw [List.foldl_cons, ih]
    simp [Profile.addPattern]

def statusText : ProfileStatus → Text
  | .accepted => "accepted".toList
  | .candidateUntrusted => "candidate-untrusted".toList

def reviewText : ProfileStatus → Text
  | .accepted => "complete".toList
  | .candidateUntrusted => "required".toList

theorem trustOf_written (status : ProfileStatus) :
    trustOf (statusText status) (reviewText status) = some status := by
  cases status <;> rfl

theorem foldl_scalarRecords (profile : Profile) :
    (scalarRecords profile).foldl readRecord ⟨[], Profile.empty, []⟩
      = ⟨[("status".toList, statusText profile.status),
          ("review".toList, reviewText profile.status), ("game".toList, profile.game),
          ("version".toList, profile.version), ("platform".toList, profile.platform)],
        Profile.empty, []⟩ := by
  unfold scalarRecords
  cases profile.status <;> rfl

/-- The reader's loop over all that was written ends with the sorted profile, but for its
scalars. -/
theorem finishReading_profileRecords (profile : Profile) :
    finishReading ((profileRecords profile).foldl readRecord ⟨[], Profile.empty, []⟩)
      = (profile.sorted, validateStructure profile.sorted) := by
  unfold profileRecords
  rw [List.foldl_append, List.foldl_append, List.foldl_append, List.foldl_append,
    foldl_scalarRecords, foldl_readRecord readRecord_module,
    foldl_readRecord readRecord_interface, foldl_readRecord readRecord_slot,
    foldl_readRecord readRecord_pattern, foldl_addModule, foldl_addInterface, foldl_addSlot,
    foldl_addPattern]
  have htrust := trustOf_written profile.status
  simp only [finishReading, List.lookup_cons, Profile.empty, List.nil_append]
  simp [htrust, Profile.sorted]

/-! ## The round trip -/

theorem readProfile_written {path : Path} (hvalid : profile.Valid)
    (hfile : disk.files path = some (profileText profile)) :
    readProfile disk path = (profile.sorted, []) := by
  have hheader : Writable (Lib.fields '\t' "keels2-compatibility-profile\t1".toList) := by
    have hfields : Lib.fields '\t' "keels2-compatibility-profile\t1".toList
        = ["keels2-compatibility-profile".toList, "1".toList] := by
      decide
    rw [hfields]
    exact writable_cons (by decide) (by decide)
  have hread := readRecords_written hheader (writable_profileRecords hvalid) hfile
  unfold readProfile
  rw [hread]
  show finishReading _ = _
  rw [finishReading_profileRecords, validateStructure_eq_nil.2 hvalid.sorted]

theorem writeProfile_eq_ok {written : Disk} {path : Path} :
    writeProfile disk path profile = .ok written ↔
      profile.Valid ∧ disk.Fresh path ∧
      written = { disk with
        files := Function.update disk.files path (some (profileText profile)) } := by
  unfold writeProfile Disk.Fresh
  constructor
  · intro h
    split at h
    · cases h
    · rename_i hok
      split at h
      · cases h
      · rename_i hexists
        split at h
        · cases h
        · rename_i hcreates
          simp only [Except.ok.injEq] at h
          refine ⟨ok_validateStructure.1 (not_not.1 hok), ⟨?_, not_not.1 hcreates⟩, h.symm⟩
          simpa using hexists
  · rintro ⟨hvalid, ⟨hnone, hcreates⟩, rfl⟩
    simp [ok_validateStructure.2 hvalid, hnone, hcreates]

theorem severity_of_readLines {text : List Text} {lineNumber : Nat} {header : Bool}
    {records : List Record} {diagnostic : Diagnostic}
    (h : readLines path expectedHeader text lineNumber header records = .error diagnostic) :
    diagnostic.severity = .error := by
  induction text generalizing lineNumber header records with
  | nil =>
    rw [readLines] at h
    split at h
    · cases h
    · cases h
      rfl
  | cons raw rest ih =>
    rw [readLines] at h
    split at h
    · exact ih h
    · split at h
      · split at h
        · cases h
          rfl
        · exact ih h
      · split at h
        · cases h
          rfl
        · exact ih h

theorem severity_of_readRecords {diagnostic : Diagnostic}
    (h : readRecords disk path expectedHeader = .error diagnostic) :
    diagnostic.severity = .error := by
  unfold readRecords at h
  split at h
  · cases h
    rfl
  · exact severity_of_readLines h

theorem Accepts.valid {path : Path} (h : Accepts disk path profile) : profile.Valid := by
  obtain ⟨hprofile, hok⟩ := h
  unfold readProfile at hprofile hok
  split at hok
  · rename_i diagnostic hrecords
    simp [ok, severity_of_readRecords hrecords] at hok
  · rename_i records hrecords
    simp only [hrecords] at hprofile
    unfold finishReading at hprofile hok
    split at hok
    · rename_i hstatus hreview hgame hversion hplatform
      simp only [hstatus, hreview, hgame, hversion, hplatform] at hprofile
      rw [ok_append, Bool.and_eq_true] at hok
      rw [← hprofile]
      exact ok_validateStructure.1 hok.2
    · rw [ok_append, ok_errorOf, Bool.and_false] at hok
      cases hok

theorem accepts_written {path : Path} (hvalid : profile.Valid)
    (hfile : disk.files path = some (profileText profile)) : Accepts disk path profile.sorted := by
  have hread := readProfile_written hvalid hfile
  unfold Accepts
  rw [hread]
  exact ⟨rfl, rfl⟩

/-- **The profile file round trip.** What is written is read back as the same profile, its
records in order of their keys; and what was read can be written to every fresh path, where
reading and writing it again gives the same text. -/
theorem profile_round_trip :
    (∀ disk written path profile, writeProfile disk path profile = .ok written →
      Accepts written path profile.sorted) ∧
    (∀ disk path profile, Accepts disk path profile → ∀ disk₁ path₁, disk₁.Fresh path₁ →
      ∃ disk₂, writeProfile disk₁ path₁ profile = .ok disk₂ ∧
        ∃ again, Accepts disk₂ path₁ again ∧ ∀ disk₃ path₃, disk₃.Fresh path₃ →
          ∃ disk₄, writeProfile disk₃ path₃ again = .ok disk₄ ∧
            disk₄.files path₃ = disk₂.files path₁) := by
  refine ⟨?_, ?_⟩
  · intro disk written path profile hwrite
    obtain ⟨hvalid, -, rfl⟩ := writeProfile_eq_ok.1 hwrite
    apply accepts_written hvalid
    exact Function.update_self ..
  · intro disk path profile haccepts disk₁ path₁ hfresh
    have hvalid := haccepts.valid
    refine ⟨_, writeProfile_eq_ok.2 ⟨hvalid, hfresh, rfl⟩, profile.sorted, ?_, ?_⟩
    · apply accepts_written hvalid
      exact Function.update_self ..
    · intro disk₃ path₃ hfresh₃
      refine ⟨_, writeProfile_eq_ok.2 ⟨hvalid.sorted, hfresh₃, rfl⟩, ?_⟩
      simp [profileText_sorted]

def exampleProfile : Profile :=
  { status := .accepted, game := "cs2".toList, version := "1.40".toList
    platform := "linux-x64".toList
    modules := [⟨"server".toList, "libserver.so".toList, ⟨4096, 255⟩⟩,
      ⟨"engine".toList, "my engine.so".toList, ⟨64, 0⟩⟩]
    interfaces := [⟨"game".toList, "Source2Server001".toList, "server".toList⟩]
    slots := [⟨"game".toList, "Start".toList, 4⟩]
    patterns := [⟨"find".toList, "engine".toList, "0F ??".toList, 0, 1, 48⟩] }

/-- The example is written, read back with the engine in front of the server, and accepted. -/
theorem exampleProfile_read_back :
    ∃ written, writeProfile ⟨fun _ => none, fun _ => true⟩ ['p'] exampleProfile = .ok written ∧
      Accepts written ['p'] exampleProfile.sorted := by
  have hvalid : exampleProfile.Valid := validateStructure_eq_nil.1 (by decide)
  have hfresh : Disk.Fresh ⟨fun _ => none, fun _ => true⟩ ['p'] := ⟨rfl, rfl⟩
  have hwrite := writeProfile_eq_ok.2 ⟨hvalid, hfresh, rfl⟩
  exact ⟨_, hwrite, profile_round_trip.1 _ _ _ _ hwrite⟩

end KeelS2.Compatibility
