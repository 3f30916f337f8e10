import KeelS2.Compatibility.Profile
import Mathlib.Data.Char
import Mathlib.Data.List.Lex
import Mathlib.Data.Prod.Lex

/-!
# The profile file

A profile is stored as tab-separated records, one a line, behind a header. The writer
checks the structure and nothing else; the reader checks every line and every field on its
own and then the structure. `profile_round_trip` is that the two agree: what is written is
read back with its records in order of their keys, and what is written of what was read is
a canonical form.
-/

namespace KeelS2.Compatibility

open Lib

abbrev Record := List Text
abbrev Path := Text

/-- The files there are, and the paths a new file can be made at and written completely. -/
structure Disk where
  files : Path → Option Text
  creates : Path → Bool

/-- A new file can be written at `path`. -/
def Disk.Fresh (disk : Disk) (path : Path) : Prop :=
  disk.files path = none ∧ disk.creates path = true

/-! ## Numbers in a record -/

def parseUnsigned (width : Nat) (text : Text) : Option Nat :=
  match readDecimal text with
  | some parsed => if parsed < 2 ^ width then some parsed else none
  | none => none

def parseUnsigned32 (text : Text) : Option UInt32 :=
  (parseUnsigned 32 text).map UInt32.ofNat

def parseUnsigned64 (text : Text) : Option UInt64 :=
  (parseUnsigned 64 text).map UInt64.ofNat

def parseHex64 (text : Text) : Option UInt64 :=
  if text.length ≠ 16 then none else (readHex text).map UInt64.ofNat

def hex64 (value : UInt64) : Text :=
  hexDigits 16 value.toNat

theorem parseUnsigned_decimal {width n : Nat} (h : n < 2 ^ width) :
    parseUnsigned width (decimal n) = some n := by
  simp [parseUnsigned, readDecimal_decimal, h]

theorem parseUnsigned32_decimal (value : UInt32) :
    parseUnsigned32 (decimal value.toNat) = some value := by
  rw [parseUnsigned32, parseUnsigned_decimal value.toNat_lt]
  exact congrArg some (UInt32.ofNat_toNat)

theorem parseUnsigned64_decimal (value : UInt64) :
    parseUnsigned64 (decimal value.toNat) = some value := by
  rw [parseUnsigned64, parseUnsigned_decimal value.toNat_lt]
  exact congrArg some (UInt64.ofNat_toNat)

theorem parseHex64_hex64 (value : UInt64) : parseHex64 (hex64 value) = some value := by
  have hread : readHex (hexDigits 16 value.toNat) = some value.toNat :=
    readHex_hexDigits 16 value.toNat value.toNat_lt
  unfold parseHex64 hex64
  rw [if_neg (by simp [length_hexDigits]), hread]
  exact congrArg some (UInt64.ofNat_toNat)

/-! ## Reading records -/

/-- `line.pop_back()` of a carriage return. -/
def dropReturn (line : Text) : Text :=
  if line.getLast? = some '\r' then line.dropLast else line

/-- The loop of `ReadRecords` over the lines of the file. -/
def readLines (path expectedHeader : Text) :
    List Text → Nat → Bool → List Record → Except Diagnostic (List Record)
  | [], _, header, records =>
    if header then .ok records
    else .error (errorOf "input-header".toList (path ++ ": missing header".toList))
  | raw :: rest, lineNumber, header, records =>
    let line := dropReturn raw
    if line = [] ∨ line.head? = some '#' then
      readLines path expectedHeader rest (lineNumber + 1) header records
    else if ¬ header then
      if line ≠ expectedHeader then
        .error (errorOf "input-header".toList
          (path ++ ": expected header ".toList ++ expectedHeader))
      else readLines path expectedHeader rest (lineNumber + 1) true records
    else if (fields '\t' line).any fun field => ¬ validText field true then
      .error (errorOf "input-record".toList
        (path ++ ": invalid record at line ".toList ++ decimal lineNumber))
    else
      readLines path expectedHeader rest (lineNumber + 1) true (records ++ [fields '\t' line])

/-- `ReadRecords`. A file that is there is read to its end. -/
def readRecords (disk : Disk) (path expectedHeader : Text) : Except Diagnostic (List Record) :=
  match disk.files path with
  | none => .error (errorOf "input-open".toList ("could not open ".toList ++ path))
  | some text => readLines path expectedHeader (lines text) 1 false []

/-! ## Reading a profile -/

/-- The locals of `ReadProfile`. -/
structure Reading where
  scalars : List (Text × Text)
  profile : Profile
  diagnostics : List Diagnostic

def Reading.reject (reading : Reading) (code message : Text) : Reading :=
  { reading with diagnostics := reading.diagnostics ++ [errorOf code message] }

def isScalar (keyword : Text) : Bool :=
  keyword == "status".toList || keyword == "review".toList || keyword == "game".toList ||
    keyword == "version".toList || keyword == "platform".toList

def readScalar (reading : Reading) (keyword : Text) : Record → Reading
  | [_, value] =>
    if (reading.scalars.lookup keyword).isNone then
      { reading with scalars := reading.scalars ++ [(keyword, value)] }
    else
      reading.reject "profile-scalar".toList
        ("invalid or duplicate ".toList ++ keyword ++ " record".toList)
  | _ =>
    reading.reject "profile-scalar".toList
      ("invalid or duplicate ".toList ++ keyword ++ " record".toList)

def parseModule : Record → Option Module
  | [_, role, name, size, fnv1a64] =>
    match parseUnsigned64 size, parseHex64 fnv1a64 with
    | some size, some fnv1a64 => some ⟨role, name, ⟨size, fnv1a64⟩⟩
    | _, _ => none
  | _ => none

def parseInterface : Record → Option Interface
  | [_, key, name, module] => some ⟨key, name, module⟩
  | _ => none

def parseSlot : Record → Option Slot
  | [_, interfaceKey, method, index] =>
    match parseUnsigned32 index with
    | some index => some ⟨interfaceKey, method, index⟩
    | none => none
  | _ => none

def parsePatternRecord : Record → Option Pattern
  | [_, key, module, expression, occurrence, matchCount, selectedFileOffset] =>
    match parseUnsigned32 occurrence, parseUnsigned32 matchCount,
      parseUnsigned64 selectedFileOffset with
    | some occurrence, some matchCount, some selectedFileOffset =>
      some ⟨key, module, expression, occurrence, matchCount, selectedFileOffset⟩
    | _, _, _ => none
  | _ => none

def Profile.addModule (profile : Profile) (module : Module) : Profile :=
  { profile with modules := profile.modules ++ [module] }

def Profile.addInterface (profile : Profile) (interface : Interface) : Profile :=
  { profile with interfaces := profile.interfaces ++ [interface] }

def Profile.addSlot (profile : Profile) (slot : Slot) : Profile :=
  { profile with slots := profile.slots ++ [slot] }

def Profile.addPattern (profile : Profile) (pattern : Pattern) : Profile :=
  { profile with patterns := profile.patterns ++ [pattern] }

/-- A record that parses is added to the profile, any other is reported. -/
def Reading.take {Entry : Type} (reading : Reading) (add : Profile → Entry → Profile)
    (code message : Text) : Option Entry → Reading
  | some entry => { reading with profile := add reading.profile entry }
  | none => reading.reject code message

/-- The body of the loop of `ReadProfile`. -/
def readRecord (reading : Reading) (record : Record) : Reading :=
  let keyword := record.headD []
  if isScalar keyword then readScalar reading keyword record
  else if keyword = "module".toList then
    reading.take Profile.addModule "profile-module".toList "invalid module record".toList
      (parseModule record)
  else if keyword = "interface".toList then
    reading.take Profile.addInterface "profile-interface".toList "invalid interface record".toList
      (parseInterface record)
  else if keyword = "slot".toList then
    reading.take Profile.addSlot "profile-slot".toList "invalid slot record".toList
      (parseSlot record)
  else if keyword = "pattern".toList then
    reading.take Profile.addPattern "profile-pattern".toList "invalid pattern record".toList
      (parsePatternRecord record)
  else
    reading.reject "profile-record".toList ("unknown profile record: ".toList ++ keyword)

/-- The trust state that the status and review records form. -/
def trustOf (status review : Text) : Option ProfileStatus :=
  if status = "accepted".toList ∧ review = "complete".toList then some .accepted
  else if status = "candidate-untrusted".toList ∧ review = "required".toList then
    some .candidateUntrusted
  else none

/-- The end of `ReadProfile`, behind the loop. -/
def finishReading (reading : Reading) : Profile × List Diagnostic :=
  match reading.scalars.lookup "status".toList, reading.scalars.lookup "review".toList,
    reading.scalars.lookup "game".toList, reading.scalars.lookup "version".toList,
    reading.scalars.lookup "platform".toList with
  | some status, some review, some game, some version, some platform =>
    let trust := trustOf status review
    let profile := { reading.profile with
      status := trust.getD reading.profile.status
      game := game, version := version, platform := platform }
    (profile, reading.diagnostics
      ++ (if trust.isNone then
            [errorOf "profile-trust".toList
              "status and review records do not form a valid trust state".toList]
          else [])
      ++ validateStructure profile)
  | _, _, _, _, _ =>
    (reading.profile, reading.diagnostics
      ++ [errorOf "profile-required".toList
            "profile is missing required scalar records".toList])

/-- `ReadProfile`, into a report that is still empty: the profile and what is reported. It
answers `true` where `ok` holds of what is reported. -/
def readProfile (disk : Disk) (path : Path) : Profile × List Diagnostic :=
  match readRecords disk path "keels2-compatibility-profile\t1".toList with
  | .error diagnostic => (Profile.empty, [diagnostic])
  | .ok records => finishReading (records.foldl readRecord ⟨[], Profile.empty, []⟩)

/-- `ReadProfile` accepts the file at `path` as `profile`. -/
def Accepts (disk : Disk) (path : Path) (profile : Profile) : Prop :=
  (readProfile disk path).1 = profile ∧ ok (readProfile disk path).2 = true

/-! ## Writing a profile -/

section Sorting

variable {Entry Key : Type} [LinearOrder Key]

/-- `std::sort` by a key. -/
def sortBy (key : Entry → Key) (entries : List Entry) : List Entry :=
  entries.insertionSort fun left right => key left ≤ key right

theorem perm_sortBy (key : Entry → Key) (entries : List Entry) :
    (sortBy key entries).Perm entries :=
  List.perm_insertionSort _ _

theorem sorted_sortBy (key : Entry → Key) (entries : List Entry) :
    (sortBy key entries).Pairwise fun left right => key left ≤ key right := by
  have htotal : Std.Total fun left right : Entry => key left ≤ key right :=
    ⟨fun left right => le_total (key left) (key right)⟩
  have htrans : IsTrans Entry fun left right => key left ≤ key right :=
    ⟨fun _ _ _ => le_trans⟩
  exact List.pairwise_insertionSort _ entries

theorem sortBy_sortBy (key : Entry → Key) (entries : List Entry) :
    sortBy key (sortBy key entries) = sortBy key entries :=
  (sorted_sortBy key entries).insertionSort_eq

end Sorting

def slotOrder (slot : Slot) : Text ×ₗ Text :=
  toLex (slot.interfaceKey, slot.method)

/-- The profile with the records of each kind in order of their keys. -/
def Profile.sorted (profile : Profile) : Profile :=
  { profile with
    modules := sortBy Module.role profile.modules
    interfaces := sortBy Interface.key profile.interfaces
    slots := sortBy slotOrder profile.slots
    patterns := sortBy Pattern.key profile.patterns }

def statusRecords : ProfileStatus → List Record
  | .accepted => [["status".toList, "accepted".toList], ["review".toList, "complete".toList]]
  | .candidateUntrusted =>
    [["status".toList, "candidate-untrusted".toList], ["review".toList, "required".toList]]

def moduleRecord (module : Module) : Record :=
  ["module".toList, module.role, module.name, decimal module.fingerprint.size.toNat,
    hex64 module.fingerprint.fnv1a64]

def interfaceRecord (interface : Interface) : Record :=
  ["interface".toList, interface.key, interface.name, interface.module]

def slotRecord (slot : Slot) : Record :=
  ["slot".toList, slot.interfaceKey, slot.method, decimal slot.index.toNat]

def patternRecord (pattern : Pattern) : Record :=
  ["pattern".toList, pattern.key, pattern.module, pattern.expression,
    decimal pattern.occurrence.toNat, decimal pattern.matchCount.toNat,
    decimal pattern.selectedFileOffset.toNat]

def scalarRecords (profile : Profile) : List Record :=
  statusRecords profile.status ++
    [["game".toList, profile.game], ["version".toList, profile.version],
      ["platform".toList, profile.platform]]

def profileRecords (profile : Profile) : List Record :=
  scalarRecords profile
  ++ profile.sorted.modules.map moduleRecord
  ++ profile.sorted.interfaces.map interfaceRecord
  ++ profile.sorted.slots.map slotRecord
  ++ profile.sorted.patterns.map patternRecord

/-- All that `WriteProfile` puts into the stream. -/
def profileText (profile : Profile) : Text :=
  unlines ("keels2-compatibility-profile\t1".toList ::
    (profileRecords profile).map (joinFields '\t'))

/-- `WriteProfile`: the disk with the new file, or the error. -/
def writeProfile (disk : Disk) (path : Path) (profile : Profile) : Except Text Disk :=
  if ¬ ok (validateStructure profile) then
    .error (Report.text ⟨validateStructure profile, 0, false⟩)
  else if (disk.files path).isSome then
    .error ("refusing to overwrite existing profile: ".toList ++ path)
  else if ¬ disk.creates path then
    .error ("could not create profile: ".toList ++ path)
  else
    .ok { disk with
      files := Function.update disk.files path (some (profileText profile)) }

end KeelS2.Compatibility
