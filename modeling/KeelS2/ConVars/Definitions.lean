import KeelS2.ConVars.ConVarService

/-!
# Definitions and the records they are active for

Two tables are written by the same operations: the definitions by their name, and the records by
their handle. What ties them is that a definition's `active` is the one created record of its name,
or nothing (`Sound`).
-/

namespace KeelS2.ConVars

/-! ## When two definitions are the same -/

variable {value : KeelConVarValue} {type : KeelConVarType}

/-- What a valid definition says of its values. -/
structure Formed (spec : KeelConVarSpec) : Prop where
  type : validType spec.type = true
  default : validValue spec.defaultValue spec.type = true
  minimum : (spec.hasMinimum == 1) = true → validValue spec.minimumValue spec.type = true
  maximum : (spec.hasMaximum == 1) = true → validValue spec.maximumValue spec.type = true

theorem formed_of_valid {spec : KeelConVarSpec} (hvalid : validDefinition spec = true) :
    Formed spec := by
  unfold validDefinition at hvalid
  simp only at hvalid
  split at hvalid
  · cases hvalid
  · next hchecked =>
    simp only [not_or, Bool.not_eq_true, Bool.not_eq_false', not_lt] at hchecked
    split at hvalid
    · cases hvalid
    · split at hvalid
      · cases hvalid
      · next hbounds =>
        rw [Bool.or_eq_true, not_or] at hbounds
        refine ⟨by simpa using hchecked.2.2.2.1, by simpa using hchecked.2.2.2.2.2.1,
          fun hone => ?_, fun hone => ?_⟩
        · have hminimum := hbounds.1
          rw [hone] at hminimum
          simpa using hminimum
        · have hmaximum := hbounds.2
          rw [hone] at hmaximum
          simpa using hmaximum

theorem cString_cString (text : Option Text) : cString (some (cString text)) = cString text := by
  unfold cString
  rw [Option.getD_some, List.takeWhile_takeWhile]
  simp

/-! ## The two tables -/

/-- What of a record the definitions are tied to. -/
structure Entry where
  handle : KeelConVarHandle
  name : Text
  created : Bool
  definitionKey : Text
  registered : Bool
  deriving DecidableEq

def Record.entry (record : Record) : Entry :=
  ⟨record.handle, record.name, record.created, record.definitionKey, record.registered⟩

/-- A created record of the name, still there. -/
def Entry.Live (entry : Entry) (key : Text) : Prop :=
  entry.registered = true ∧ entry.created = true ∧ entry.definitionKey = key

/-- What a release leaves of a record and of a definition. -/
def Entry.erased (convar : KeelConVarHandle) (entry : Entry) : Entry :=
  if entry.handle = convar then { entry with registered := false } else entry

def Definition.released (convar : KeelConVarHandle) (definition : Definition) : Definition :=
  if definition.active = convar then { definition with active := 0 } else definition

/-- A definition, whichever record it is active for. -/
def Definition.idle (definition : Definition) : Definition :=
  { definition with active := 0 }

/-- A record that a plugin has created under the name, and not released. -/
def Record.Holds (record : Record) (key : Text) : Prop :=
  record.registered = true ∧ record.created = true ∧ normalizeName (some record.name) = key

namespace ConVarService

variable {service after : ConVarService} {convar : KeelConVarHandle} {key : Text}
variable {definition : Definition} {entry : Entry} {record : Record}

def entries (service : ConVarService) : List Entry := service.records.map Record.entry

structure Sound (service : ConVarService) : Prop where
  distinct : (service.entries.map Entry.handle).Nodup
  issued : ∀ entry ∈ service.entries, entry.handle ≠ 0 ∧
    (service.nextConvar = 0 ∨ entry.handle < service.nextConvar)
  bound : service.nextConvar < 2 ^ 64
  named : ∀ entry ∈ service.entries, entry.created = true →
    entry.definitionKey = normalizeName (some entry.name)
  keyed : (service.definitions.map (·.1)).Nodup
  formed : ∀ key definition, (key, definition) ∈ service.definitions → ∃ spec, Formed spec ∧
    definition = { Definition.ofSpec spec with active := definition.active }
  active : ∀ key definition, (key, definition) ∈ service.definitions → definition.active ≠ 0 →
    ∃ entry ∈ service.entries, entry.Live key ∧ entry.handle = definition.active
  created : ∀ key, ∀ entry ∈ service.entries, entry.Live key →
    ∃ definition, (key, definition) ∈ service.definitions ∧ definition.active = entry.handle

/-! ### Looking things up -/

theorem find_definition (hkeyed : (service.definitions.map (·.1)).Nodup)
    (hmem : (key, definition) ∈ service.definitions) :
    service.definition key = some definition := by
  have hfound : service.definitions.find? (·.1 == (key, definition).1) = some (key, definition) :=
    Lib.find_of_distinct hkeyed hmem
  unfold ConVarService.definition
  rw [hfound]
  rfl

theorem mem_of_definition (hdefinition : service.definition key = some definition) :
    (key, definition) ∈ service.definitions := by
  unfold ConVarService.definition at hdefinition
  obtain ⟨⟨found, _⟩, hfound, rfl⟩ := Option.map_eq_some_iff.1 hdefinition
  have hkey : found = key := by simpa using List.find?_some hfound
  rw [← hkey]
  exact List.mem_of_find?_eq_some hfound

theorem not_mem_of_definition (hdefinition : service.definition key = none) :
    ∀ entry ∈ service.definitions, entry.1 ≠ key := by
  unfold ConVarService.definition at hdefinition
  rw [Option.map_eq_none_iff, List.find?_eq_none] at hdefinition
  intro entry hmem
  simpa using hdefinition entry hmem

theorem mem_entries_of_record (hrecord : service.record convar = some record) :
    record.entry ∈ service.entries ∧ record.handle = convar := by
  unfold ConVarService.record at hrecord
  refine ⟨List.mem_map_of_mem (List.mem_of_find?_eq_some hrecord), ?_⟩
  simpa using List.find?_some hrecord

theorem Sound.one (hsound : Sound service) {first second : Entry}
    (hfirst : first ∈ service.entries) (hsecond : second ∈ service.entries)
    (hlive : first.Live key) (hlive' : second.Live key) : first = second := by
  obtain ⟨one, hone, hactive⟩ := hsound.created key first hfirst hlive
  obtain ⟨other, hother, hactive'⟩ := hsound.created key second hsecond hlive'
  have hsame : some one = some other :=
    (find_definition hsound.keyed hone).symm.trans (find_definition hsound.keyed hother)
  cases hsame
  exact List.inj_on_of_nodup_map hsound.distinct hfirst hsecond (hactive.symm.trans hactive')

/-! ### What leaves the tables alone -/

theorem Sound.of_same (hsound : Sound service) (hentries : after.entries = service.entries)
    (hdefinitions : after.definitions = service.definitions)
    (hnext : after.nextConvar = service.nextConvar) : Sound after where
  distinct := hentries ▸ hsound.distinct
  issued := by
    rw [hentries, hnext]
    exact hsound.issued
  bound := hnext ▸ hsound.bound
  named := hentries ▸ hsound.named
  keyed := hdefinitions ▸ hsound.keyed
  formed := hdefinitions ▸ hsound.formed
  active := by
    rw [hentries, hdefinitions]
    exact hsound.active
  created := by
    rw [hentries, hdefinitions]
    exact hsound.created

theorem entries_map (write : Record → Record)
    (hwrite : ∀ record, (write record).entry = record.entry) :
    ({ service with records := service.records.map write } : ConVarService).entries =
      service.entries := by
  show (service.records.map write).map Record.entry = service.records.map Record.entry
  rw [List.map_map]
  exact List.map_congr_left fun record _ => hwrite record

theorem entries_modify (write : Record → Record)
    (hwrite : ∀ record, (write record).entry = record.entry) :
    (service.modify convar write).entries = service.entries := by
  refine entries_map _ fun record => ?_
  split
  · exact hwrite record
  · rfl

theorem entries_enable (plugin : KeelPluginHandle) (enabled : Bool) :
    (service.enable plugin enabled).entries = service.entries := by
  refine entries_map _ fun record => ?_
  split
  · rfl
  · rfl

theorem Sound.enable (hsound : Sound service) (plugin : KeelPluginHandle) (enabled : Bool) :
    Sound (service.enable plugin enabled) :=
  hsound.of_same (entries_enable plugin enabled) rfl rfl

theorem Sound.takes (hsound : Sound service) (hnext : service.nextConvar ≠ 0)
    (hentries : after.entries = service.entries)
    (hdefinitions : after.definitions = service.definitions)
    (hafter : after.nextConvar = (service.nextConvar + 1) % 2 ^ 64) : Sound after := by
  have hmoved : after.nextConvar = 0 ∨ service.nextConvar < after.nextConvar := by
    have hbound := hsound.bound
    omega
  refine ⟨hentries ▸ hsound.distinct, fun entry hmem => ?_, ?_, hentries ▸ hsound.named,
    hdefinitions ▸ hsound.keyed, hdefinitions ▸ hsound.formed, ?_, ?_⟩
  · rw [hentries] at hmem
    obtain ⟨hzero, hissued⟩ := hsound.issued entry hmem
    refine ⟨hzero, hmoved.imp_right fun hlater => ?_⟩
    exact (hissued.resolve_left hnext).trans hlater
  · omega
  · rw [hentries, hdefinitions]
    exact hsound.active
  · rw [hentries, hdefinitions]
    exact hsound.created

/-! ### Definitions that are written to -/

theorem mem_setActive {service : ConVarService} {written : Text} {convar : KeelConVarHandle} :
    (key, definition) ∈ (service.setActive written convar).definitions ↔
      ∃ old, (key, old) ∈ service.definitions ∧
        definition = if key = written then { old with active := convar } else old := by
  show (key, definition) ∈ service.definitions.map _ ↔ _
  rw [List.mem_map]
  constructor
  · rintro ⟨⟨found, old⟩, hmem, hwritten⟩
    by_cases hkey : found = written
    · simp only [hkey, if_true, Prod.mk.injEq] at hwritten
      obtain ⟨rfl, rfl⟩ := hwritten
      exact ⟨old, hkey ▸ hmem, by rw [if_pos rfl]⟩
    · simp only [if_neg hkey, Prod.mk.injEq] at hwritten
      obtain ⟨rfl, rfl⟩ := hwritten
      exact ⟨old, hmem, by rw [if_neg hkey]⟩
  · rintro ⟨old, hmem, rfl⟩
    refine ⟨(key, old), hmem, ?_⟩
    by_cases hkey : key = written
    · simp [hkey]
    · simp [hkey]

theorem keys_setActive (service : ConVarService) (written : Text) (convar : KeelConVarHandle) :
    (service.setActive written convar).definitions.map (·.1) = service.definitions.map (·.1) := by
  show (service.definitions.map _).map _ = _
  rw [List.map_map]
  refine List.map_congr_left fun entry _ => ?_
  by_cases hkey : entry.1 = written
  · simp [hkey]
  · simp [hkey]

/-! ### Creating -/

theorem Sound.adds (hsound : Sound service) (hnext : service.nextConvar ≠ 0) {entry : Entry}
    (hentries : after.entries = service.entries ++ [entry])
    (hhandle : entry.handle = service.nextConvar)
    (hnamed : entry.created = true → entry.definitionKey = normalizeName (some entry.name))
    (hafter : after.nextConvar = (service.nextConvar + 1) % 2 ^ 64)
    (hkeyed : (after.definitions.map (·.1)).Nodup)
    (hformed : ∀ key definition, (key, definition) ∈ after.definitions → ∃ spec, Formed spec ∧
      definition = { Definition.ofSpec spec with active := definition.active })
    (hactive : ∀ key definition, (key, definition) ∈ after.definitions → definition.active ≠ 0 →
      ∃ entry ∈ after.entries, entry.Live key ∧ entry.handle = definition.active)
    (hcreated : ∀ key, ∀ entry ∈ after.entries, entry.Live key →
      ∃ definition, (key, definition) ∈ after.definitions ∧ definition.active = entry.handle) :
    Sound after where
  distinct := by
    rw [hentries, List.map_append, List.nodup_append]
    refine ⟨hsound.distinct, List.nodup_singleton _, fun handle hmem other hother => ?_⟩
    obtain ⟨old, hold, rfl⟩ := List.mem_map.1 hmem
    obtain rfl : other = entry.handle := by simpa using hother
    rw [hhandle]
    exact Nat.ne_of_lt ((hsound.issued old hold).2.resolve_left hnext)
  issued old hmem := by
    have hbound := hsound.bound
    rw [hentries, List.mem_append, List.mem_singleton] at hmem
    have hmoved : after.nextConvar = 0 ∨ service.nextConvar < after.nextConvar := by omega
    rcases hmem with hmem | rfl
    · obtain ⟨hzero, hissued⟩ := hsound.issued old hmem
      exact ⟨hzero, hmoved.imp_right ((hissued.resolve_left hnext).trans ·)⟩
    · rw [hhandle]
      exact ⟨hnext, hmoved⟩
  bound := by omega
  named old hmem := by
    rw [hentries, List.mem_append, List.mem_singleton] at hmem
    rcases hmem with hmem | rfl
    · exact hsound.named old hmem
    · exact hnamed
  keyed := hkeyed
  formed := hformed
  active := hactive
  created := hcreated

theorem Sound.created_fresh (hsound : Sound service) (hnext : service.nextConvar ≠ 0)
    {record : Record} (hhandle : record.handle = service.nextConvar)
    (hnamed : record.definitionKey = normalizeName (some record.name))
    (hlive : record.created = true ∧ record.registered = true)
    {definitions : List (Text × Definition)} (hkeyed : (definitions.map (·.1)).Nodup)
    (hformed : ∀ key definition, (key, definition) ∈ definitions → ∃ spec, Formed spec ∧
      definition = { Definition.ofSpec spec with active := definition.active })
    (hold : ∀ entry ∈ service.definitions, entry ∈ definitions)
    (hnew : ∀ entry ∈ definitions, entry ∈ service.definitions ∨ entry.1 = record.definitionKey)
    (hidle : ∃ definition, (record.definitionKey, definition) ∈ definitions ∧
    definition.active = 0) :
    Sound (({ service with
      nextConvar := (service.nextConvar + 1) % 2 ^ 64
      definitions := definitions } : ConVarService).addCreated record) := by
  generalize hwritten : ({ service with
      nextConvar := (service.nextConvar + 1) % 2 ^ 64
      definitions := definitions
      records := service.records ++ [record] } : ConVarService) = written
  have hdefinitions : written.definitions = definitions := by rw [← hwritten]
  have hentries : written.entries = service.entries ++ [record.entry] := by
    rw [← hwritten]
    exact List.map_append
  have hnone : ∀ entry ∈ service.entries, ¬entry.Live record.definitionKey := by
    intro entry hmem hlives
    obtain ⟨definition, hmine, hactive⟩ := hsound.created _ entry hmem hlives
    obtain ⟨idle, hother, hzero⟩ := hidle
    have hsame : some definition = some idle :=
      (find_definition (hdefinitions.symm ▸ hkeyed) (hdefinitions.symm ▸ hold _ hmine)).symm.trans
        (find_definition (hdefinitions.symm ▸ hkeyed) (hdefinitions.symm ▸ hother)
          : written.definition _ = _)
    cases hsame
    exact (hsound.issued entry hmem).1 (hactive.symm.trans hzero)
  show Sound (({ service with
      nextConvar := (service.nextConvar + 1) % 2 ^ 64
      definitions := definitions
      records := service.records ++ [record] } : ConVarService).setActive record.definitionKey
        record.handle)
  rw [hwritten]
  refine hsound.adds hnext hentries hhandle (fun _ => hnamed) ?_ ?_ (fun key definition hmem => ?_)
    (fun key definition hmem hactive => ?_) fun key entry hmem hlives => ?_
  · rw [← hwritten]
    rfl
  · rw [keys_setActive, hdefinitions]
    exact hkeyed
  · obtain ⟨old, hmem, hsame⟩ := mem_setActive.1 hmem
    obtain ⟨spec, hspec, hold'⟩ := hformed key old (hdefinitions ▸ hmem)
    refine ⟨spec, hspec, ?_⟩
    by_cases hkey : key = record.definitionKey
    · rw [if_pos hkey] at hsame
      rw [hsame, hold']
    · rw [if_neg hkey] at hsame
      rw [hsame]
      exact hold'
  · obtain ⟨old, hmem, hsame⟩ := mem_setActive.1 hmem
    show ∃ entry ∈ written.entries, _
    rw [hentries]
    by_cases hkey : key = record.definitionKey
    · rw [if_pos hkey] at hsame
      refine ⟨record.entry, by simp, ⟨hlive.2, hlive.1, hkey.symm⟩, ?_⟩
      rw [hsame]
      rfl
    · rw [if_neg hkey] at hsame
      subst hsame
      rw [hdefinitions] at hmem
      have hmine : (key, definition) ∈ service.definitions := (hnew _ hmem).resolve_right hkey
      obtain ⟨entry, hentry, hlives⟩ := hsound.active key definition hmine hactive
      exact ⟨entry, List.mem_append_left _ hentry, hlives⟩
  · have hmem' : entry ∈ service.entries ++ [record.entry] := hentries ▸ hmem
    rw [List.mem_append, List.mem_singleton] at hmem'
    rcases hmem' with hmem' | rfl
    · have hkey : key ≠ record.definitionKey := by
        rintro rfl
        exact hnone entry hmem' hlives
      obtain ⟨definition, hmine, hactive⟩ := hsound.created key entry hmem' hlives
      refine ⟨definition, mem_setActive.2 ⟨definition, ?_, by rw [if_neg hkey]⟩, hactive⟩
      rw [hdefinitions]
      exact hold _ hmine
    · obtain ⟨idle, hother, hzero⟩ := hidle
      obtain rfl : key = record.definitionKey := hlives.2.2.symm
      refine ⟨{ idle with active := record.handle }, mem_setActive.2 ⟨idle, ?_, ?_⟩, rfl⟩
      · rw [hdefinitions]
        exact hother
      · rw [if_pos rfl]

/-- The definitions that are there when the adapter creates the variable. -/
def withDefinition (service : ConVarService) (key : Text) (spec : KeelConVarSpec) :
    List (Text × Definition) :=
  if (service.definition key).isNone then service.definitions ++ [(key, Definition.ofSpec spec)]
  else service.definitions

/-- There is no other way for `CreateImpl` to end. -/
inductive Creates (service : ConVarService) (client : Client) (spec : KeelConVarSpec)
    (answer : GameAnswer) : ConVarService → KeelResult → Prop
  | refuses {result : KeelResult} (hresult : result ≠ .ok) :
    Creates service client spec answer service result
  | fails {after : ConVarService} {result : KeelResult} (hresult : result ≠ .ok)
      (hnext : service.nextConvar ≠ 0)
      (hafter : after = { service with nextConvar := (service.nextConvar + 1) % 2 ^ 64 }) :
    Creates service client spec answer after result
  | adds {record : Record} (hspec : validDefinition spec = true) (hnext : service.nextConvar ≠ 0)
      (hidle : ∀ definition, service.definition (normalizeName spec.name) = some definition →
        definition.active = 0 ∧ equalDefinition definition spec = true)
      (hrecord : record.entry =
        ⟨service.nextConvar, cString spec.name, true, normalizeName spec.name, true⟩) :
    Creates service client spec answer
      (({ service with
        nextConvar := (service.nextConvar + 1) % 2 ^ 64
        definitions := service.withDefinition (normalizeName spec.name) spec } :
          ConVarService).addCreated record) .ok

theorem dropped_definition (hnone : service.definition key = none) (definition : Definition) :
    (service.definitions ++ [(key, definition)]).filter (fun entry => entry.1 ≠ key) =
      service.definitions := by
  rw [List.filter_append]
  have hkept : service.definitions.filter (fun entry => entry.1 ≠ key) = service.definitions := by
    refine List.filter_eq_self.2 fun entry hmem => ?_
    simpa using not_mem_of_definition hnone entry hmem
  rw [hkept]
  simp

theorem createImpl_creates (client : Client) (spec : KeelConVarSpec)
    (callback nativeCallback : Option Nat) (userData : Nat) (output : Bool) (lookup : KeelResult)
    (answer : GameAnswer) :
    Creates service client spec answer
      (service.createImpl client (some spec) callback nativeCallback userData output lookup
        answer).1
      (service.createImpl client (some spec) callback nativeCallback userData output lookup
        answer).2.1 := by
  simp only [createImpl]
  by_cases hformed : (!output || !validDefinition spec) = true
  · rw [if_pos hformed]
    exact .refuses (by simp)
  rw [if_neg hformed]
  split
  · exact .refuses (by simp)
  split
  · exact .refuses (by simp)
  split
  · exact .refuses (by simp)
  split
  · exact .refuses (by simp)
  next hnext =>
  -- what stands in the way is looked for in the table, or with the adapter
  split
  · next result hrefused =>
    refine .refuses ?_
    split at hrefused
    · split_ifs at hrefused <;> cases hrefused <;> simp
    · split_ifs at hrefused with hfound hother
      · cases hrefused
        simp
      · cases hrefused
        exact hfound
  · next hfree =>
    have hidle : ∀ definition, service.definition (normalizeName spec.name) = some definition →
        definition.active = 0 ∧ equalDefinition definition spec = true := by
      intro definition hdefinition
      rw [hdefinition] at hfree
      simp only at hfree
      split_ifs at hfree with hactive hequal
      exact ⟨not_not.1 hactive, by simpa using hequal⟩
    split
    · next hrefused =>
      refine .fails hrefused hnext ?_
      cases hdefinition : service.definition (normalizeName spec.name) with
      | none =>
        simp only [Option.isNone_none, if_true]
        rw [dropped_definition hdefinition]
      | some definition => simp
    · refine .adds ?_ hnext hidle rfl
      simp only [Bool.or_eq_true, not_or] at hformed
      simpa using hformed.2

variable {client : Client} {answer : GameAnswer} {spec : KeelConVarSpec}

theorem Sound.creates (hsound : Sound service) {result : KeelResult}
    (hcreates : Creates service client spec answer after result) : Sound after := by
  cases hcreates with
  | refuses => exact hsound
  | fails _ hnext hafter =>
    subst hafter
    exact hsound.takes hnext rfl rfl rfl
  | @adds record hspec hnext hidle hrecord =>
    have hkey : record.definitionKey = normalizeName spec.name :=
      congrArg Entry.definitionKey hrecord
    have hformed := formed_of_valid hspec
    have hnamed : record.definitionKey = normalizeName (some record.name) := by
      have hname : record.name = cString spec.name := congrArg Entry.name hrecord
      rw [hkey, hname]
      unfold normalizeName
      rw [cString_cString]
    refine hsound.created_fresh hnext (congrArg Entry.handle hrecord) hnamed
      ⟨congrArg Entry.created hrecord, congrArg Entry.registered hrecord⟩ ?_
      (fun key definition hmem => ?_) (fun entry hmem => ?_) (fun entry hmem => ?_) ?_
    · unfold withDefinition
      split
      · next hnone =>
        rw [List.map_append, List.nodup_append]
        refine ⟨hsound.keyed, List.nodup_singleton _, fun key hmem other hother => ?_⟩
        obtain ⟨entry, hentry, rfl⟩ := List.mem_map.1 hmem
        obtain rfl : other = normalizeName spec.name := by simpa using hother
        exact not_mem_of_definition (Option.isNone_iff_eq_none.1 hnone) entry hentry
      · exact hsound.keyed
    · unfold withDefinition at hmem
      split at hmem
      · rw [List.mem_append, List.mem_singleton] at hmem
        rcases hmem with hmem | hnew
        · exact hsound.formed key definition hmem
        · cases hnew
          exact ⟨spec, hformed, rfl⟩
      · exact hsound.formed key definition hmem
    · unfold withDefinition
      split
      · exact List.mem_append_left _ hmem
      · exact hmem
    · unfold withDefinition at hmem
      split at hmem
      · rw [List.mem_append, List.mem_singleton] at hmem
        refine hmem.imp_right fun hnew => ?_
        rw [hnew, hkey]
      · exact .inl hmem
    · rw [hkey]
      unfold withDefinition
      cases hdefinition : service.definition (normalizeName spec.name) with
      | none => exact ⟨Definition.ofSpec spec, by simp, rfl⟩
      | some definition =>
        refine ⟨definition, ?_, (hidle definition hdefinition).1⟩
        simpa using mem_of_definition hdefinition

theorem Sound.createImpl (hsound : Sound service) (client : Client) (spec : Option KeelConVarSpec)
    (callback nativeCallback : Option Nat) (userData : Nat) (output : Bool) (lookup : KeelResult)
    (answer : GameAnswer) :
    Sound (service.createImpl client spec callback nativeCallback userData output lookup
      answer).1 := by
  cases spec with
  | none => exact hsound
  | some spec => exact hsound.creates (createImpl_creates client spec _ _ _ _ _ _)

theorem Sound.findImpl (hsound : Sound service) (client : Client) (name : Option Text)
    (expectedType : KeelConVarType) (output : Bool) (answer : GameAnswer) :
    Sound (service.findImpl client name expectedType output answer).1 := by
  simp only [ConVarService.findImpl]
  split
  · exact hsound
  split
  · exact hsound
  split
  · exact hsound
  split
  · exact hsound
  next hready =>
  have hnext : service.nextConvar ≠ 0 := by
    intro hzero
    exact hready (by simp [hzero])
  split
  · exact hsound.takes hnext rfl rfl rfl
  · refine @Sound.adds _ _ hsound hnext ⟨service.nextConvar, cString name, false, [], true⟩ ?_ rfl
      (fun hcreated => absurd hcreated (by simp)) rfl hsound.keyed hsound.formed
        (fun key definition hmem hactive => ?_)
      fun key entry hmem hlives => ?_
    · exact List.map_append
    · obtain ⟨entry, hentry, hlives⟩ := hsound.active key definition hmem hactive
      exact ⟨entry, by
        unfold entries
        rw [List.map_append]
        exact List.mem_append_left _ hentry, hlives⟩
    · unfold entries at hmem
      rw [List.map_append, List.mem_append] at hmem
      rcases hmem with hmem | hmem
      · exact hsound.created key entry hmem hlives
      · obtain rfl : entry = ⟨service.nextConvar, cString name, false, [], true⟩ :=
        List.mem_singleton.1 hmem
        cases hlives.2.1

/-! ### Releasing -/

theorem entry_erased_handle (entry : Entry) : (entry.erased convar).handle = entry.handle := by
  unfold Entry.erased
  split <;> rfl

theorem Entry.live_erased (hlives : (entry.erased convar).Live key) :
    entry.Live key ∧ entry.handle ≠ convar ∧ entry.erased convar = entry := by
  unfold Entry.erased at hlives ⊢
  split at hlives
  · cases hlives.1
  · next hother => exact ⟨hlives, hother, if_neg hother⟩

section

variable (hsound : Sound service)

include hsound

theorem Sound.definition_of_active (hrecord : service.record convar = some record)
    (hmem : (key, definition) ∈ service.definitions) (hactive : definition.active = convar) :
    record.created = true ∧ record.definitionKey = key := by
  obtain ⟨hentry, hhandle⟩ := mem_entries_of_record hrecord
  have hissued : convar ≠ 0 := by
    rw [← hhandle]
    exact (hsound.issued record.entry hentry).1
  obtain ⟨entry, hother, hlives, hsame⟩ :=
    hsound.active key definition hmem (hactive.symm ▸ hissued)
  have hone : entry = record.entry :=
    List.inj_on_of_nodup_map hsound.distinct hother hentry
      ((hsame.trans hactive).trans hhandle.symm)
  rw [hone] at hlives
  exact hlives.2

theorem Sound.eraseRecord_tables (hrecord : service.record convar = some record) :
    (service.eraseRecord convar).entries = service.entries.map (Entry.erased convar) ∧
      (service.eraseRecord convar).definitions =
        service.definitions.map (fun entry => (entry.1, entry.2.released convar)) ∧
      (service.eraseRecord convar).nextConvar = service.nextConvar := by
  have hhandle := (mem_entries_of_record hrecord).2
  have hentries : (service.modify convar fun record =>
      { record with registered := false }).entries =
        service.entries.map (Entry.erased convar) := by
    show (service.records.map _).map Record.entry = (service.records.map Record.entry).map _
    rw [List.map_map, List.map_map]
    refine List.map_congr_left fun record _ => ?_
    by_cases hsame : record.handle = convar
    · simp [Entry.erased, Record.entry, hsame]
    · simp [Entry.erased, Record.entry, hsame]
  simp only [eraseRecord, hrecord]
  split
  · next hmarked =>
    refine ⟨hentries, List.map_congr_left fun entry hmem => ?_, rfl⟩
    by_cases hkey : entry.1 = record.definitionKey
    · have hfound : service.definition record.definitionKey = some entry.2 :=
        find_definition hsound.keyed (by rw [← hkey]; exact hmem)
      have hactive : entry.2.active = convar := by
        have hany := hmarked.2
        rw [hfound] at hany
        rw [← hhandle]
        simpa using hany
      rw [if_pos hkey, Definition.released, if_pos hactive]
    · have hactive : entry.2.active ≠ convar := by
        intro hactive
        exact hkey (hsound.definition_of_active hrecord hmem hactive).2.symm
      rw [if_neg hkey, Definition.released, if_neg hactive]
  · next hunmarked =>
    refine ⟨hentries, ?_, rfl⟩
    show service.definitions = _
    refine ((List.map_congr_left fun entry hmem => ?_).trans (List.map_id _)).symm
    have hactive : entry.2.active ≠ convar := by
      intro hactive
      obtain ⟨hcreated, hkey⟩ := hsound.definition_of_active hrecord hmem hactive
      refine hunmarked ⟨hcreated, ?_⟩
      rw [hkey, find_definition hsound.keyed hmem, hhandle]
      simpa using hactive
    rw [Definition.released, if_neg hactive]
    rfl

theorem Sound.entries_eraseRecord (convar : KeelConVarHandle) :
    (service.eraseRecord convar).entries = service.entries.map (Entry.erased convar) := by
  cases hrecord : service.record convar with
  | none =>
    have hsame : service.eraseRecord convar = service := by
      simp only [ConVarService.eraseRecord, hrecord]
    rw [hsame]
    refine ((List.map_congr_left fun entry hmem => ?_).trans (List.map_id _)).symm
    obtain ⟨record, hstands, rfl⟩ := List.mem_map.1 hmem
    unfold ConVarService.record at hrecord
    rw [List.find?_eq_none] at hrecord
    have hother : record.handle ≠ convar := by simpa using hrecord record hstands
    exact if_neg hother
  | some record => exact (hsound.eraseRecord_tables hrecord).1

theorem Sound.eraseRecord (convar : KeelConVarHandle) : Sound (service.eraseRecord convar) := by
  cases hrecord : service.record convar with
  | none =>
    have hsame : service.eraseRecord convar = service := by
      simp only [ConVarService.eraseRecord, hrecord]
    rw [hsame]
    exact hsound
  | some record =>
    obtain ⟨hentries, hdefinitions, hnext⟩ := hsound.eraseRecord_tables hrecord
    refine ⟨?_, fun entry hmem => ?_, hnext ▸ hsound.bound, fun entry hmem hcreated => ?_, ?_,
      fun key definition hmem => ?_,
      fun key definition hmem hactive => ?_, fun key entry hmem hlives => ?_⟩
    · rw [hentries, List.map_map]
      have hhandles : Entry.handle ∘ Entry.erased convar = Entry.handle :=
        funext entry_erased_handle
      rw [hhandles]
      exact hsound.distinct
    · rw [hentries] at hmem
      obtain ⟨old, hold, rfl⟩ := List.mem_map.1 hmem
      rw [entry_erased_handle, hnext]
      exact hsound.issued old hold
    · rw [hentries] at hmem
      obtain ⟨old, hold, rfl⟩ := List.mem_map.1 hmem
      unfold Entry.erased at hcreated ⊢
      split_ifs at hcreated ⊢
      · exact hsound.named old hold hcreated
      · exact hsound.named old hold hcreated
    · rw [hdefinitions, List.map_map]
      exact hsound.keyed
    · rw [hdefinitions] at hmem
      obtain ⟨⟨_, old⟩, hold, hsame⟩ := List.mem_map.1 hmem
      cases hsame
      obtain ⟨spec, hspec, hmade⟩ := hsound.formed _ old hold
      refine ⟨spec, hspec, ?_⟩
      unfold Definition.released
      split
      · rw [hmade]
      · exact hmade
    · rw [hdefinitions] at hmem
      obtain ⟨⟨_, old⟩, hold, hsame⟩ := List.mem_map.1 hmem
      cases hsame
      have hother : old.active ≠ convar := by
        intro hsame
        simp [Definition.released, hsame] at hactive
      have hkept : old.released convar = old := if_neg hother
      rw [hkept] at hactive ⊢
      obtain ⟨entry, hentry, hlives, hhandle⟩ := hsound.active _ old hold hactive
      refine ⟨entry, ?_, hlives, hhandle⟩
      have hsame : entry.erased convar = entry := if_neg (hhandle.symm ▸ hother)
      rw [hentries, ← hsame]
      exact List.mem_map_of_mem hentry
    · rw [hentries] at hmem
      obtain ⟨old, hold, rfl⟩ := List.mem_map.1 hmem
      obtain ⟨hlives, hother, hsame⟩ := Entry.live_erased hlives
      obtain ⟨definition, hdefinition, hactive⟩ := hsound.created key old hold hlives
      refine ⟨definition, ?_, hactive.trans (entry_erased_handle old).symm⟩
      have hkept : definition.released convar = definition := if_neg (hactive.symm ▸ hother)
      rw [hdefinitions, ← hkept]
      exact List.mem_map_of_mem hdefinition

theorem Sound.releaseRecord (convar : KeelConVarHandle) : Sound (service.releaseRecord convar) := by
  have hbegun : Sound (service.beginRelease convar) :=
    hsound.of_same (entries_modify _ fun _ => rfl) rfl rfl
  exact (hbegun.eraseRecord convar).of_same (entries_modify _ fun _ => rfl) rfl rfl

theorem Sound.registered_releaseRecord (hmem : entry ∈ (service.releaseRecord convar).entries)
    (hregistered : entry.registered = true) : entry ∈ service.entries ∧ entry.handle ≠ convar := by
  have hentries : (service.beginRelease convar).entries = service.entries :=
    entries_modify _ fun _ => rfl
  have hbegun : Sound (service.beginRelease convar) := hsound.of_same hentries rfl rfl
  have hmem : entry ∈ ((service.beginRelease convar).eraseRecord convar).entries := by
    have hsame : (service.releaseRecord convar).entries =
        ((service.beginRelease convar).eraseRecord convar).entries := entries_modify _ fun _ => rfl
    exact hsame ▸ hmem
  rw [hbegun.entries_eraseRecord, hentries] at hmem
  obtain ⟨old, hold, rfl⟩ := List.mem_map.1 hmem
  unfold Entry.erased at hregistered ⊢
  split_ifs at hregistered ⊢ with hsame
  exact ⟨hold, hsame⟩

theorem Sound.releaseRecords (convars : List KeelConVarHandle) :
    Sound (convars.foldl ConVarService.releaseRecord service) := by
  induction convars generalizing service with
  | nil => exact hsound
  | cons convar convars ih => exact ih (hsound.releaseRecord convar)

theorem Sound.release (client : Client) (convar : KeelConVarHandle) (current : Bool) :
    Sound (service.release client convar current).1 := by
  unfold ConVarService.release
  split
  · exact hsound
  split
  · exact hsound
  split
  · exact hsound
  · exact hsound.releaseRecord _

theorem Sound.deactivate (plugin : KeelPluginHandle) (current : Bool) :
    Sound (service.deactivate plugin current).1 := by
  unfold ConVarService.deactivate
  split
  · exact hsound
  · exact hsound.enable plugin false

theorem Sound.releasePlugin (plugin : KeelPluginHandle) (current : Bool) :
    Sound (service.releasePlugin plugin current).1 := by
  unfold ConVarService.releasePlugin
  simp only
  split
  · exact hsound.deactivate plugin current
  · exact (hsound.deactivate plugin current).releaseRecords _

end

theorem registered_of_released (convars : List KeelConVarHandle)
    (hsound : Sound service)
    (hmem : entry ∈ (convars.foldl ConVarService.releaseRecord service).entries)
    (hregistered : entry.registered = true) :
    entry ∈ service.entries ∧ entry.handle ∉ convars := by
  induction convars generalizing service with
  | nil => exact ⟨hmem, List.not_mem_nil⟩
  | cons convar convars ih =>
    obtain ⟨hmem, hother⟩ := ih (hsound.releaseRecord convar) hmem
    obtain ⟨hold, hne⟩ := hsound.registered_releaseRecord hmem hregistered
    exact ⟨hold, by
      rw [List.mem_cons, not_or]
      exact ⟨hne, hother⟩⟩

theorem Sound.shutdown (hsound : Sound service) (current : Bool) :
    Sound (service.shutdown current).1 := by
  unfold ConVarService.shutdown
  split
  · exact hsound
  generalize hclosing : ({ service with
      shuttingDown := true
      records := service.records.map fun record =>
        if record.registered then { record with enabled := false } else record } :
    ConVarService) = closing
  have hclosed : Sound closing := by
    rw [← hclosing]
    refine hsound.of_same (entries_map _ fun record => ?_) rfl rfl
    split <;> rfl
  simp only
  split
  · exact hclosed
  · have hreleased := hclosed.releaseRecords
      ((closing.records.filter (·.registered)).map (·.handle))
    refine ⟨hreleased.distinct, hreleased.issued, hreleased.bound, hreleased.named,
      List.nodup_nil, fun _ _ hmem => ?_, fun _ _ hmem => ?_, fun key entry hmem hlives => ?_⟩
    · cases hmem
    · cases hmem
    · obtain ⟨hold, hnot⟩ := registered_of_released _ hclosed hmem hlives.1
      obtain ⟨record, hrecord, rfl⟩ := List.mem_map.1 hold
      exact absurd (List.mem_map_of_mem (List.mem_filter.2 ⟨hrecord, hlives.1⟩)) hnot

/-! ## Runs -/

inductive Act
  | create (client : Client) (spec : Option KeelConVarSpec) (output : Bool) (lookup : KeelResult)
    (answer : GameAnswer)
  | createNative (client : Client) (spec : Option KeelConVarSpec) (callback : Option Nat)
    (userData : Nat) (output : Bool) (lookup : KeelResult) (answer : GameAnswer)
  | find (client : Client) (name : Option Text) (expectedType : KeelConVarType) (output : Bool)
    (answer : GameAnswer)
  | release (client : Client) (convar : KeelConVarHandle) (current : Bool)
  | activate (plugin : KeelPluginHandle)
  | deactivate (plugin : KeelPluginHandle) (current : Bool)
  | releasePlugin (plugin : KeelPluginHandle) (current : Bool)
  | shutdown (current : Bool)

def step (service : ConVarService) : Act → ConVarService
  | .create client spec output lookup answer =>
    (service.create client spec output lookup answer).1
  | .createNative client spec callback userData output lookup answer =>
    (service.createNative client spec callback userData output lookup answer).1
  | .find client name expectedType output answer =>
    (service.findImpl client name expectedType output answer).1
  | .release client convar current => (service.release client convar current).1
  | .activate plugin => service.activate plugin
  | .deactivate plugin current => (service.deactivate plugin current).1
  | .releasePlugin plugin current => (service.releasePlugin plugin current).1
  | .shutdown current => (service.shutdown current).1

theorem initial_sound : Sound initial where
  distinct := List.nodup_nil
  issued entry hmem := by cases hmem
  bound := by decide
  named entry hmem := by cases hmem
  keyed := List.nodup_nil
  formed key definition hmem := by cases hmem
  active key definition hmem := by cases hmem
  created key entry hmem := by cases hmem

def Outlives (service after : ConVarService) : Prop :=
  ∀ key definition, (key, definition) ∈ service.definitions →
    ∃ later, (key, later) ∈ after.definitions ∧ later.idle = definition.idle

theorem Outlives.of_same (hdefinitions : after.definitions = service.definitions) :
    Outlives service after := by
  intro key definition hmem
  exact ⟨definition, hdefinitions ▸ hmem, rfl⟩

theorem Outlives.trans {middle : ConVarService} (hfirst : Outlives service middle)
    (hsecond : Outlives middle after) : Outlives service after := by
  intro key definition hmem
  obtain ⟨between, hbetween, hsame⟩ := hfirst key definition hmem
  obtain ⟨later, hlater, hsame'⟩ := hsecond key between hbetween
  exact ⟨later, hlater, hsame'.trans hsame⟩

def running : Client where
  plugin := 1
  owner := some { Plugins.PluginRecord.new 1 [] with state := .loaded, acceptingResources := true }
  acceptingResources := true
  gameThread := true

/-- A console variable `a` that is on or off. -/
def switch (value : Nat) : KeelConVarSpec where
  size := sizeofConVarSpec
  type := convarBool
  name := some ['a']
  description := none
  flags := 0
  defaultValue := ⟨sizeofConVarValue, convarBool, ⟨value, 0, 0, none⟩⟩
  hasMinimum := 0
  reservedMinimum := 0
  minimumValue := ⟨0, 0, ⟨0, 0, 0, none⟩⟩
  hasMaximum := 0
  reservedMaximum := 0
  maximumValue := ⟨0, 0, ⟨0, 0, 0, none⟩⟩
  callback := none
  userData := 0

end ConVarService
end KeelS2.ConVars
