import KeelS2.KeelHook.Abi
import KeelS2.Lib.Records
import Mathlib.Data.UInt

/-!
# Compatibility profiles

The evidence a compatibility review works on: which modules a game ships, which interfaces
and slots are used of them, and where each byte pattern was found. `validateStructure` is
the one gate in front of every operation on a profile. It answers `false` exactly where it
adds a diagnostic, so here it *is* the list of its diagnostics, and `Profile.Valid` says
what an empty list means.
-/

namespace KeelS2.Compatibility

open Lib
open List (all_eq_true cons_ne_nil map_cons mem_cons mem_cons_of_mem mem_cons_self mem_map not_mem_nil)

/-! ## The records -/

structure FileFingerprint where
  size : UInt64
  fnv1a64 : UInt64
  deriving DecidableEq, Repr

inductive ProfileStatus
  | accepted
  | candidateUntrusted
  deriving DecidableEq, Repr

inductive Severity
  | information
  | warning
  | error
  deriving DecidableEq, Repr

structure Diagnostic where
  severity : Severity
  code : Text
  message : Text
  deriving DecidableEq, Repr

structure Module where
  role : Text
  name : Text
  fingerprint : FileFingerprint
  deriving DecidableEq, Repr

structure Interface where
  key : Text
  name : Text
  module : Text
  deriving DecidableEq, Repr

structure Slot where
  interfaceKey : Text
  method : Text
  index : UInt32
  deriving DecidableEq, Repr

structure Pattern where
  key : Text
  module : Text
  expression : Text
  occurrence : UInt32
  matchCount : UInt32
  selectedFileOffset : UInt64
  deriving DecidableEq, Repr

structure Profile where
  status : ProfileStatus
  game : Text
  version : Text
  platform : Text
  modules : List Module
  interfaces : List Interface
  slots : List Slot
  patterns : List Pattern
  deriving DecidableEq, Repr

/-- `Profile{}`. -/
def Profile.empty : Profile :=
  { status := .candidateUntrusted, game := [], version := [], platform := [], modules := [],
    interfaces := [], slots := [], patterns := [] }

/-! ## Reports -/

structure Report where
  diagnostics : List Diagnostic
  changes : Nat
  reviewRequired : Bool
  deriving DecidableEq, Repr

/-- `Report::Ok`: nothing in it is an error. -/
def ok (diagnostics : List Diagnostic) : Bool :=
  diagnostics.all (·.severity ≠ .error)

def errorOf (code message : Text) : Diagnostic := ⟨.error, code, message⟩

theorem ok_append (first second : List Diagnostic) :
    ok (first ++ second) = (ok first && ok second) :=
  List.all_append

@[simp] theorem ok_errorOf (code message : Text) : ok [errorOf code message] = false := rfl

def OnlyErrors (diagnostics : List Diagnostic) : Prop :=
  ∀ diagnostic ∈ diagnostics, diagnostic.severity = .error

theorem onlyErrors_nil : OnlyErrors [] := by
  intro diagnostic hmem
  cases hmem

theorem onlyErrors_errorOf (code message : Text) : OnlyErrors [errorOf code message] := by
  intro diagnostic hmem
  rw [List.mem_singleton.1 hmem]
  rfl

theorem OnlyErrors.append {first second : List Diagnostic} (hfirst : OnlyErrors first)
    (hsecond : OnlyErrors second) : OnlyErrors (first ++ second) := by
  intro diagnostic hmem
  rcases List.mem_append.1 hmem with hmem | hmem
  · exact hfirst diagnostic hmem
  · exact hsecond diagnostic hmem

theorem onlyErrors_ite {condition : Prop} [Decidable condition] (code message : Text) :
    OnlyErrors (if condition then [errorOf code message] else []) := by
  split
  · exact onlyErrors_errorOf code message
  · exact onlyErrors_nil

theorem OnlyErrors.ok_iff {diagnostics : List Diagnostic} (herrors : OnlyErrors diagnostics) :
    ok diagnostics = true ↔ diagnostics = [] := by
  constructor
  · intro h
    apply List.eq_nil_iff_forall_not_mem.2
    intro diagnostic hmem
    have hfine := List.all_eq_true.1 h diagnostic hmem
    rw [herrors diagnostic hmem] at hfine
    exact absurd hfine (by decide)
  · intro h
    rw [h]
    rfl

def severityText : Severity → Text
  | .information => "INFO".toList
  | .warning => "WARNING".toList
  | .error => "ERROR".toList

def Report.text (report : Report) : Text :=
  (report.diagnostics.flatMap fun diagnostic =>
    severityText diagnostic.severity ++ '\t' :: diagnostic.code ++ '\t' :: diagnostic.message
      ++ ['\n'])
  ++ "CHANGES\t".toList ++ decimal report.changes ++ ['\n']
  ++ "RESULT\t".toList
  ++ (if ¬ ok report.diagnostics then "FAIL".toList
      else if report.reviewRequired then "PASS_UNTRUSTED_REVIEW_REQUIRED".toList
      else "PASS".toList)
  ++ ['\n']

/-! ## Field checks -/

def isTokenCharacter (character : Char) : Bool :=
  character.isAlphanum || character == '_' || character == '-' || character == '.' ||
    character == ':'

def validToken (value : Text) : Bool :=
  !value.isEmpty && value.length ≤ 256 && value.all isTokenCharacter

def isTextCharacter (character : Char) : Bool :=
  32 ≤ character.toNat && character.toNat ≠ 127 && character ≠ '\t'

def validText (value : Text) (empty : Bool) : Bool :=
  (empty || !value.isEmpty) && value.length ≤ 16384 && value.all isTextCharacter

variable {value kind : Text} {pattern : List (Option UInt8)} {character : Char} {empty : Bool}
  {values : List Text}

theorem isTextCharacter_of_isTokenCharacter (h : isTokenCharacter character = true) :
    isTextCharacter character = true := by
  have hcontrol : ∀ n < 32, isTokenCharacter (Char.ofNat n) = false := by decide
  have hdelete : isTokenCharacter (Char.ofNat 127) = false := by decide
  have hbounds : 32 ≤ character.toNat ∧ character.toNat ≠ 127 := by
    rw [← Char.ofNat_toNat character] at h
    constructor
    · refine Nat.le_of_not_lt ?_
      intro hlt
      rw [hcontrol _ hlt] at h
      cases h
    · intro heq
      rw [heq, hdelete] at h
      cases h
  have htab : character ≠ '\t' := by
    rintro rfl
    exact absurd hbounds.1 (by decide)
  simp [isTextCharacter, hbounds.1, hbounds.2, htab]

theorem validText_of_validToken (h : validToken value = true) : validText value empty = true := by
  simp only [validToken, Bool.and_eq_true, decide_eq_true_eq] at h
  have hall : value.all isTextCharacter = true := by
    rw [all_eq_true] at h ⊢
    exact fun c hc => isTextCharacter_of_isTokenCharacter (h.2 c hc)
  have hlength : value.length ≤ 16384 := by omega
  simp [validText, h.1.1, hall, hlength]

theorem validText_true (h : validText value empty = true) : validText value true = true := by
  simp only [validText, Bool.and_eq_true] at h ⊢
  exact ⟨⟨rfl, h.1.2⟩, h.2⟩

theorem not_mem_of_validText (h : validText value empty = true) (hcontrol : character.toNat < 32) :
    character ∉ value := by
  intro hmem
  simp only [validText, Bool.and_eq_true] at h
  have htext := List.all_eq_true.1 h.2 character hmem
  simp only [isTextCharacter, Bool.and_eq_true, decide_eq_true_eq] at htext
  omega

/-! ## Byte patterns -/

/-- `std::isspace`, in the "C" locale. -/
def isSpace (character : Char) : Bool :=
  character == ' ' || (9 ≤ character.toNat && character.toNat ≤ 13)

/-- The blank-separated tokens of a text. -/
def words (text : Text) : List Text :=
  (text.splitOnP isSpace).filter (· ≠ [])

/-- The byte that one token of a pattern asks for, `none` for any byte. -/
def parseByte (token : Text) : Option (Option UInt8) :=
  if token = ['?'] ∨ token = ['?', '?'] then some none
  else
    match token with
    | [high, low] =>
      match hexDigit high, hexDigit low with
      | some high, some low => some (some (UInt8.ofNat (16 * high + low)))
      | _, _ => none
    | _ => none

/-- One byte in normal form. -/
def byteToken : Option UInt8 → Text
  | none => ['?', '?']
  | some value =>
    [(value.toNat / 16).digitChar.toUpper, (value.toNat % 16).digitChar.toUpper]

def normalize (pattern : List (Option UInt8)) : Text :=
  joinFields ' ' (pattern.map byteToken)

/-- `ParsePattern`: the bytes asked for and the normal form of the text. -/
def parsePattern (text : Text) : Option (List (Option UInt8) × Text) :=
  match (words text).mapM parseByte with
  | some pattern =>
    if pattern.length ≤ 4096 ∧ pattern ≠ [] then some (pattern, normalize pattern) else none
  | none => none

theorem parseByte_byteToken (value : Option UInt8) : parseByte (byteToken value) = some value := by
  cases value with
  | none => rfl
  | some value =>
    have hvalue : value.toNat < 256 := value.toNat_lt
    have hhigh := hexDigit_toUpper_digitChar (value.toNat / 16) (by omega)
    have hlow := hexDigit_toUpper_digitChar (value.toNat % 16) (by omega)
    have hmark : ∀ n < 16, n.digitChar.toUpper ≠ '?' := by decide
    have hne := hmark (value.toNat / 16) (by omega)
    have hjoin : 16 * (value.toNat / 16) + value.toNat % 16 = value.toNat := by omega
    simp [parseByte, byteToken, hne, hhigh, hlow, hjoin]

/-- What the characters of a pattern in normal form are. -/
def isPatternCharacter (character : Char) : Bool :=
  character.isAlphanum || character == '?' || character == ' '

theorem of_mem_byteToken {value : Option UInt8} (h : character ∈ byteToken value) :
    isSpace character = false ∧ isPatternCharacter character = true := by
  have hdigit : ∀ n < 16, isSpace n.digitChar.toUpper = false ∧
      isPatternCharacter n.digitChar.toUpper = true := by decide
  cases value with
  | none =>
    simp only [byteToken, mem_cons, not_mem_nil, or_false, or_self] at h
    rw [h]
    decide
  | some value =>
    have hvalue : value.toNat < 256 := value.toNat_lt
    simp only [byteToken, mem_cons, not_mem_nil, or_false] at h
    rcases h with rfl | rfl
    · exact hdigit _ (by omega)
    · exact hdigit _ (by omega)

theorem byteToken_ne_nil (value : Option UInt8) : byteToken value ≠ [] := by
  cases value <;> simp [byteToken]

theorem words_joinFields {tokens : List Text} (hne : ∀ token ∈ tokens, token ≠ [])
    (hspace : ∀ token ∈ tokens, ∀ character ∈ token, isSpace character = false) :
    words (joinFields ' ' tokens) = tokens := by
  induction tokens with
  | nil => rfl
  | cons token rest ih =>
    have hfirst := hspace token mem_cons_self
    have hrest := ih (fun other hother => hne other (mem_cons_of_mem _ hother))
      (fun other hother => hspace other (mem_cons_of_mem _ hother))
    have htoken := hne token mem_cons_self
    cases rest with
    | nil => simp [words, joinFields, List.splitOnP_eq_singleton hfirst, htoken]
    | cons next more =>
      unfold words at hrest ⊢
      rw [joinFields_cons_cons, List.splitOnP_append_cons_of_forall_mem hfirst ' ' (by decide),
        List.filter_cons, hrest]
      simp [htoken]

theorem mapM_parseByte (pattern : List (Option UInt8)) :
    (pattern.map byteToken).mapM parseByte = some pattern := by
  induction pattern with
  | nil => rfl
  | cons value rest ih => simp [List.mapM_cons, parseByte_byteToken, ih]

theorem parsePattern_normalize (hlength : pattern.length ≤ 4096) (hne : pattern ≠ []) :
    parsePattern (normalize pattern) = some
    (pattern, normalize pattern) := by
  have hwords : words (normalize pattern) = pattern.map byteToken := by
    apply words_joinFields
    · intro token htoken
      obtain ⟨value, -, rfl⟩ := List.mem_map.1 htoken
      exact byteToken_ne_nil value
    · intro token htoken character hcharacter
      obtain ⟨value, -, rfl⟩ := List.mem_map.1 htoken
      exact (of_mem_byteToken hcharacter).1
  unfold parsePattern
  rw [hwords, mapM_parseByte]
  exact if_pos ⟨hlength, hne⟩

theorem parsePattern_eq_some {text normalized : Text}
    (h : parsePattern text = some (pattern, normalized)) :
    pattern.length ≤ 4096 ∧ pattern ≠ [] ∧ normalized = normalize pattern := by
  unfold parsePattern at h
  split at h
  · split at h
    · rename_i hbounds
      simp only [Option.some.injEq, Prod.mk.injEq] at h
      obtain ⟨rfl, rfl⟩ := h
      exact ⟨hbounds.1, hbounds.2, rfl⟩
    · cases h
  · cases h

theorem parsePattern_normalized {text normalized : Text}
    (h : parsePattern text = some (pattern, normalized)) :
    parsePattern normalized = some (pattern, normalized) := by
  obtain ⟨hlength, hne, rfl⟩ := parsePattern_eq_some h
  exact parsePattern_normalize hlength hne

theorem of_mem_normalize (h : character ∈ normalize pattern) :
    isPatternCharacter character = true := by
  unfold normalize at h
  induction pattern with
  | nil => simp [joinFields] at h
  | cons value rest ih =>
    cases rest with
    | nil =>
      simp only [joinFields, map_cons, List.map_nil, List.intercalate_singleton] at h
      exact (of_mem_byteToken h).2
    | cons next more =>
      rw [map_cons, map_cons, joinFields_cons_cons] at h
      rcases List.mem_append.1 h with h | h
      · exact (of_mem_byteToken h).2
      · rcases List.mem_cons.1 h with rfl | h
        · decide
        · exact ih h

theorem length_normalize (pattern : List (Option UInt8)) :
    (normalize pattern).length ≤ 3 * pattern.length := by
  unfold normalize
  induction pattern with
  | nil => simp [joinFields]
  | cons value rest ih =>
    have htoken : (byteToken value).length = 2 := by cases value <;> rfl
    cases rest with
    | nil => simp [joinFields, htoken]
    | cons next more =>
      rw [map_cons, map_cons, joinFields_cons_cons, List.length_append,
        List.length_cons, htoken, ← map_cons]
      simp only [List.length_cons] at ih ⊢
      omega

theorem validText_normalize (hlength : pattern.length ≤ 4096) :
    validText (normalize pattern) true = true := by
  have hall : (normalize pattern).all isTextCharacter = true := by
    rw [all_eq_true]
    intro character hmem
    have hkind := of_mem_normalize hmem
    simp only [isPatternCharacter, Bool.or_eq_true, beq_iff_eq] at hkind
    rcases hkind with (h | rfl) | rfl
    · apply isTextCharacter_of_isTokenCharacter
      simp [isTokenCharacter, h]
    · decide
    · decide
  have hshort : (normalize pattern).length ≤ 16384 := by
    have := length_normalize pattern
    omega
  simp [validText, hall, hshort]

/-! ## The structure of a profile -/

/-- `UniqueInsert`: the values inserted so far, and what it reports. -/
def uniqueInsert (kind : Text) (values : List Text) (value : Text) :
    List Text × List Diagnostic :=
  if ¬ validToken value then
    (values, [errorOf "invalid-identifier".toList
      (kind ++ " identifier is invalid: ".toList ++ value)])
  else if value ∈ values then
    (values, [errorOf "duplicate-record".toList
    ("duplicate ".toList ++ kind ++ ": ".toList ++ value)])
  else (value :: values, [])

section Records

variable {Entry : Type} (kind : Text) (key : Entry → Text) (check : Entry → List Diagnostic)

/-- One of the loops of `ValidateStructure`: each record's key is inserted, and then the
record is checked on its own. -/
def validateRecords : List Text → List Entry → List Text × List Diagnostic
  | values, [] => (values, [])
  | values, entry :: rest =>
    let inserted := uniqueInsert kind values (key entry)
    let others := validateRecords inserted.1 rest
    (others.1, inserted.2 ++ check entry ++ others.2)

end Records

def validateModule (module : Module) : List Diagnostic :=
  if ¬ validText module.name false ∨ module.fingerprint.size = 0 then
    [errorOf "module-record".toList ("module record is invalid: ".toList ++ module.role)]
  else []

def validateInterface (modules : List Text) (interface : Interface) : List Diagnostic :=
  if ¬ validToken interface.name ∨ interface.module ∉ modules then
    [errorOf "interface-record".toList ("interface record is invalid: ".toList ++ interface.key)]
  else []

/-- The slots are keyed by the tab-joined pair of their names, inserted as it is, and checked
afterwards. -/
def slotKey (slot : Slot) : Text :=
  slot.interfaceKey ++ '\t' :: slot.method

def validateSlots (interfaces : List Text) : List Text → List Slot → List Diagnostic
  | _, [] => []
  | slots, slot :: rest =>
    let shown := slot.interfaceKey ++ '.' :: slot.method
    (if slotKey slot ∈ slots then
      [errorOf "duplicate-record".toList ("duplicate slot: ".toList ++ shown)] else [])
    ++ (if ¬ validToken slot.interfaceKey ∨ slot.interfaceKey ∉ interfaces ∨
          ¬ validToken slot.method then
        [errorOf "slot-record".toList ("slot record is invalid: ".toList ++ shown)] else [])
    ++ validateSlots interfaces (slotKey slot :: slots) rest

/-- The expression of a pattern is in normal form. -/
def isNormalized (expression : Text) : Bool :=
  match parsePattern expression with
  | some (_, normalized) => normalized == expression
  | none => false

def validatePattern (modules : List Text) (pattern : Pattern) : List Diagnostic :=
  if pattern.module ∉ modules ∨ ¬ isNormalized pattern.expression ∨ pattern.matchCount = 0 ∨
      (pattern.occurrence ≠ 0 ∧ pattern.matchCount < pattern.occurrence) then
    [errorOf "pattern-record".toList ("pattern record is invalid: ".toList ++ pattern.key)]
  else []

def validateStructure (profile : Profile) : List Diagnostic :=
  if ¬ validToken profile.game ∨ ¬ validToken profile.version ∨ ¬ validToken profile.platform then
    [errorOf "profile-metadata".toList "game, version, or platform is invalid".toList]
  else
    let modules :=
      validateRecords "module role".toList Module.role validateModule [] profile.modules
    let interfaces :=
      validateRecords "interface key".toList Interface.key (validateInterface modules.1) []
        profile.interfaces
    let patterns :=
      validateRecords "pattern key".toList Pattern.key (validatePattern modules.1) []
        profile.patterns
    modules.2 ++ interfaces.2 ++ validateSlots interfaces.1 [] profile.slots ++ patterns.2

/-! ## What a valid structure is -/

/-- A profile that passes every check. -/
structure Profile.Valid (profile : Profile) : Prop where
  game : validToken profile.game = true
  version : validToken profile.version = true
  platform : validToken profile.platform = true
  roles : (profile.modules.map Module.role).Nodup
  modules : ∀ module ∈ profile.modules, validToken module.role = true ∧
    validText module.name false = true ∧ module.fingerprint.size ≠ 0
  keys : (profile.interfaces.map Interface.key).Nodup
  interfaces : ∀ interface ∈ profile.interfaces, validToken interface.key = true ∧
    validToken interface.name = true ∧ interface.module ∈ profile.modules.map Module.role
  slotKeys : (profile.slots.map slotKey).Nodup
  slots : ∀ slot ∈ profile.slots, validToken slot.interfaceKey = true ∧
    slot.interfaceKey ∈ profile.interfaces.map Interface.key ∧ validToken slot.method = true
  patternKeys : (profile.patterns.map Pattern.key).Nodup
  patterns : ∀ pattern ∈ profile.patterns, validToken pattern.key = true ∧
    pattern.module ∈ profile.modules.map Module.role ∧
    isNormalized pattern.expression = true ∧ pattern.matchCount ≠ 0 ∧
    pattern.occurrence ≤ pattern.matchCount

theorem uniqueInsert_eq_nil :
    (uniqueInsert kind values value).2 = [] ↔ validToken value = true ∧ value ∉ values := by
  unfold uniqueInsert
  split
  · simp_all
  · split <;> simp_all

theorem uniqueInsert_of_nil (h : (uniqueInsert kind values value).2 = []) :
    (uniqueInsert kind values value).1 = value :: values := by
  obtain ⟨hvalid, hfresh⟩ := uniqueInsert_eq_nil.1 h
  simp [uniqueInsert, hvalid, hfresh]

section Records

variable {Entry : Type} {kind : Text} {key : Entry → Text} {check : Entry → List Diagnostic}

theorem mem_validateRecords_of_nil {values : List Text} {entries : List Entry}
    (h : (validateRecords kind key check values entries).2 = []) {value : Text} :
    value ∈ (validateRecords kind key check values entries).1
      ↔ value ∈ entries.map key ∨ value ∈ values := by
  induction entries generalizing values with
  | nil => simp [validateRecords]
  | cons entry rest ih =>
    simp only [validateRecords, List.append_eq_nil_iff] at h ⊢
    obtain ⟨⟨hinserted, -⟩, hrest⟩ := h
    rw [ih hrest, uniqueInsert_of_nil hinserted]
    simp only [map_cons, mem_cons]
    tauto

/-- A loop reports nothing exactly when the keys are fresh, distinct tokens and no record
fails its own check. -/
theorem validateRecords_eq_nil {values : List Text} {entries : List Entry} :
    (validateRecords kind key check values entries).2 = [] ↔
      (entries.map key).Nodup ∧
      ∀ entry ∈ entries, validToken (key entry) = true ∧ key entry ∉ values ∧
        check entry = [] := by
  induction entries generalizing values with
  | nil => simp [validateRecords]
  | cons entry rest ih =>
    simp only [validateRecords, List.append_eq_nil_iff]
    constructor
    · rintro ⟨⟨hinserted, hcheck⟩, hrest⟩
      obtain ⟨hvalid, hfresh⟩ := uniqueInsert_eq_nil.1 hinserted
      rw [uniqueInsert_of_nil hinserted] at hrest
      obtain ⟨hnodup, hall⟩ := ih.1 hrest
      refine ⟨?_, ?_⟩
      · rw [map_cons, List.nodup_cons]
        refine ⟨fun hmem => ?_, hnodup⟩
        obtain ⟨other, hother, hkey⟩ := List.mem_map.1 hmem
        apply (hall other hother).2.1
        rw [hkey]
        exact mem_cons_self
      · intro other hother
        rcases List.mem_cons.1 hother with rfl | hother
        · exact ⟨hvalid, hfresh, hcheck⟩
        · obtain ⟨hvalid', hfresh', hcheck'⟩ := hall other hother
          exact ⟨hvalid', fun hmem => hfresh' (mem_cons_of_mem _ hmem), hcheck'⟩
    · rintro ⟨hnodup, hall⟩
      rw [map_cons, List.nodup_cons] at hnodup
      obtain ⟨hvalid, hfresh, hcheck⟩ := hall entry mem_cons_self
      have hinserted : (uniqueInsert kind values (key entry)).2 = [] :=
        uniqueInsert_eq_nil.2 ⟨hvalid, hfresh⟩
      refine ⟨⟨hinserted, hcheck⟩, ?_⟩
      rw [uniqueInsert_of_nil hinserted]
      refine ih.2 ⟨hnodup.2, fun other hother => ?_⟩
      obtain ⟨hvalid', hfresh', hcheck'⟩ := hall other (mem_cons_of_mem _ hother)
      refine ⟨hvalid', ?_, hcheck'⟩
      intro hmem
      rcases List.mem_cons.1 hmem with hkey | hmem
      · apply hnodup.1
        rw [← hkey]
        exact List.mem_map_of_mem hother
      · exact hfresh' hmem

end Records

theorem validateSlots_eq_nil {interfaces : List Text} {slots : List Slot} :
    validateSlots interfaces values slots = [] ↔
      (slots.map slotKey).Nodup ∧
      ∀ slot ∈ slots, slotKey slot ∉ values ∧ validToken slot.interfaceKey = true ∧
        slot.interfaceKey ∈ interfaces ∧ validToken slot.method = true := by
  induction slots generalizing values with
  | nil => simp [validateSlots]
  | cons slot rest ih =>
    simp only [validateSlots, List.append_eq_nil_iff, ite_eq_right_iff, cons_ne_nil,
      imp_false, ih, map_cons, List.nodup_cons, List.forall_mem_cons, not_or, not_not]
    constructor
    · rintro ⟨⟨hfresh, hkey, hinterface, hmethod⟩, hnodup, hall⟩
      refine ⟨⟨fun hmem => ?_, hnodup⟩, ⟨hfresh, hkey, hinterface, hmethod⟩, ?_⟩
      · obtain ⟨other, hother, heq⟩ := List.mem_map.1 hmem
        apply (hall other hother).1
        rw [heq]
        exact mem_cons_self
      · intro other hother
        obtain ⟨hfresh', hslot⟩ := hall other hother
        exact ⟨fun hmem => hfresh' (mem_cons_of_mem _ hmem), hslot⟩
    · rintro ⟨⟨hnew, hnodup⟩, ⟨hfresh, hkey, hinterface, hmethod⟩, hall⟩
      refine ⟨⟨hfresh, hkey, hinterface, hmethod⟩, hnodup, fun other hother => ?_⟩
      obtain ⟨hfresh', hslot⟩ := hall other hother
      refine ⟨fun hmem => ?_, hslot⟩
      rcases List.mem_cons.1 hmem with heq | hmem
      · apply hnew
        rw [← heq]
        exact List.mem_map_of_mem hother
      · exact hfresh' hmem

theorem validateModule_eq_nil {module : Module} :
    validateModule module = [] ↔
      validText module.name false = true ∧ module.fingerprint.size ≠ 0 := by
  simp only [validateModule, ite_eq_right_iff, cons_ne_nil, imp_false, not_or, not_not,
    ne_eq]

theorem validateInterface_eq_nil {modules : List Text} {interface : Interface} :
    validateInterface modules interface = [] ↔
      validToken interface.name = true ∧ interface.module ∈ modules := by
  simp only [validateInterface, ite_eq_right_iff, cons_ne_nil, imp_false, not_or, not_not]

theorem validatePattern_eq_nil {modules : List Text} {pattern : Pattern} :
    validatePattern modules pattern = [] ↔
      pattern.module ∈ modules ∧ isNormalized pattern.expression = true ∧
      pattern.matchCount ≠ 0 ∧ pattern.occurrence ≤ pattern.matchCount := by
  have hbound : (pattern.occurrence ≠ 0 ∧ pattern.matchCount < pattern.occurrence) ↔
      ¬ pattern.occurrence ≤ pattern.matchCount := by
    constructor
    · exact fun h => UInt32.not_le.2 h.2
    · intro h
      refine ⟨?_, UInt32.not_le.1 h⟩
      intro hzero
      rw [hzero] at h
      exact h (by simp [UInt32.le_iff_toNat_le])
  simp only [validatePattern, ite_eq_right_iff, cons_ne_nil, imp_false, not_or, hbound,
    not_not, ne_eq]

/-- **The gate in front of every operation.** Nothing is reported exactly of the valid
profiles. -/
theorem validateStructure_eq_nil {profile : Profile} :
    validateStructure profile = [] ↔ profile.Valid := by
  unfold validateStructure
  split
  · rename_i hmetadata
    simp only [cons_ne_nil, false_iff]
    intro hvalid
    rcases hmetadata with h | h | h
    · exact h hvalid.game
    · exact h hvalid.version
    · exact h hvalid.platform
  · rename_i hmetadata
    simp only [not_or, not_not] at hmetadata
    simp only [List.append_eq_nil_iff]
    constructor
    · rintro ⟨⟨⟨hmodules, hinterfaces⟩, hslots⟩, hpatterns⟩
      have hroles := fun value => @mem_validateRecords_of_nil _ _ _ _ _ _ hmodules value
      have hkeys := fun value => @mem_validateRecords_of_nil _ _ _ _ _ _ hinterfaces value
      simp only [not_mem_nil, or_false] at hroles hkeys
      rw [validateRecords_eq_nil] at hmodules hinterfaces hpatterns
      rw [validateSlots_eq_nil] at hslots
      simp only [validateModule_eq_nil, validateInterface_eq_nil, validatePattern_eq_nil, hroles,
        hkeys] at hmodules hinterfaces hslots hpatterns
      exact {
        game := hmetadata.1
        version := hmetadata.2.1
        platform := hmetadata.2.2
        roles := hmodules.1
        modules := fun module hmem => ⟨(hmodules.2 module hmem).1, (hmodules.2 module hmem).2.2⟩
        keys := hinterfaces.1
        interfaces := fun interface hmem =>
          ⟨(hinterfaces.2 interface hmem).1, (hinterfaces.2 interface hmem).2.2⟩
        slotKeys := hslots.1
        slots := fun slot hmem => (hslots.2 slot hmem).2
        patternKeys := hpatterns.1
        patterns := fun pattern hmem =>
          ⟨(hpatterns.2 pattern hmem).1, (hpatterns.2 pattern hmem).2.2⟩ }
    · intro hvalid
      have hmodules : (validateRecords "module role".toList Module.role validateModule []
          profile.modules).2 = [] := by
        refine validateRecords_eq_nil.2 ⟨hvalid.roles, fun module hmem => ?_⟩
        obtain ⟨hrole, hrest⟩ := hvalid.modules module hmem
        exact ⟨hrole, not_mem_nil, validateModule_eq_nil.2 hrest⟩
      have hroles := fun value => @mem_validateRecords_of_nil _ _ _ _ _ _ hmodules value
      have hinterfaces : (validateRecords "interface key".toList Interface.key
          (validateInterface (validateRecords "module role".toList Module.role validateModule []
            profile.modules).1) [] profile.interfaces).2 = [] := by
        refine validateRecords_eq_nil.2 ⟨hvalid.keys, fun interface hmem => ?_⟩
        obtain ⟨hkey, hname, hmodule⟩ := hvalid.interfaces interface hmem
        exact ⟨hkey, not_mem_nil,
          validateInterface_eq_nil.2 ⟨hname, (hroles _).2 (Or.inl hmodule)⟩⟩
      have hkeys := fun value => @mem_validateRecords_of_nil _ _ _ _ _ _ hinterfaces value
      refine ⟨⟨⟨hmodules, hinterfaces⟩, ?_⟩, ?_⟩
      · refine validateSlots_eq_nil.2 ⟨hvalid.slotKeys, fun slot hmem => ?_⟩
        obtain ⟨hkey, hinterface, hmethod⟩ := hvalid.slots slot hmem
        exact ⟨not_mem_nil, hkey, (hkeys _).2 (Or.inl hinterface), hmethod⟩
      · refine validateRecords_eq_nil.2 ⟨hvalid.patternKeys, fun pattern hmem => ?_⟩
        obtain ⟨hkey, hmodule, hrest⟩ := hvalid.patterns pattern hmem
        exact ⟨hkey, not_mem_nil,
          validatePattern_eq_nil.2 ⟨(hroles _).2 (Or.inl hmodule), hrest⟩⟩

/-! ## What is reported is an error -/

theorem onlyErrors_uniqueInsert (kind : Text) (values : List Text) (value : Text) :
    OnlyErrors (uniqueInsert kind values value).2 := by
  unfold uniqueInsert
  split
  · exact onlyErrors_errorOf _ _
  · split
    · exact onlyErrors_errorOf _ _
    · exact onlyErrors_nil

theorem onlyErrors_validateRecords {Entry : Type} {key : Entry → Text}
    {check : Entry → List Diagnostic} (hcheck : ∀ entry, OnlyErrors (check entry))
    (values : List Text) (entries : List Entry) :
    OnlyErrors (validateRecords kind key check values entries).2 := by
  induction entries generalizing values with
  | nil => exact onlyErrors_nil
  | cons entry rest ih =>
    simp only [validateRecords]
    apply OnlyErrors.append
    · exact (onlyErrors_uniqueInsert _ _ _).append (hcheck entry)
    · exact ih _

theorem onlyErrors_validateSlots (interfaces values : List Text) (slots : List Slot) :
    OnlyErrors (validateSlots interfaces values slots) := by
  induction slots generalizing values with
  | nil => exact onlyErrors_nil
  | cons slot rest ih =>
    simp only [validateSlots]
    apply OnlyErrors.append
    · exact (onlyErrors_ite _ _).append (onlyErrors_ite _ _)
    · exact ih _

theorem onlyErrors_validateStructure (profile : Profile) :
    OnlyErrors (validateStructure profile) := by
  unfold validateStructure
  split
  · exact onlyErrors_errorOf _ _
  · apply OnlyErrors.append
    · apply OnlyErrors.append
      · apply OnlyErrors.append
        · exact onlyErrors_validateRecords (fun _ => onlyErrors_ite _ _) _ _
        · exact onlyErrors_validateRecords (fun _ => onlyErrors_ite _ _) _ _
      · exact onlyErrors_validateSlots _ _ _
    · exact onlyErrors_validateRecords (fun _ => onlyErrors_ite _ _) _ _

theorem ok_validateStructure {profile : Profile} :
    ok (validateStructure profile) = true ↔ profile.Valid :=
  (onlyErrors_validateStructure profile).ok_iff.trans validateStructure_eq_nil

end KeelS2.Compatibility
