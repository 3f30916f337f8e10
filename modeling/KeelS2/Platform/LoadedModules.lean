import KeelS2.KeelHook.Abi
import KeelS2.Lib.ByteMemory
import KeelS2.Lib.Gathering

/-!
# Searching the memory of a loaded module

`FindPrimaryVtable` looks for a class's virtual table by its mangled name: for the bytes of the
name, for pointers to them, which stand in a type-information record, and for pointers to the
record, which stand in a virtual table. A pointer behind an offset of zero is taken for that of
the primary table.

A byte is read as an `Option`: there is none at an address that no readable range has. That the
search never comes to one is `findPrimaryVtable_total`.
-/

namespace KeelS2.Platform

open Lib Lib.ByteMemory

/-! ## Modules -/

/-- One past the last byte of a range is an address yet. -/
structure ModuleMemoryRange where
  address : Nat
  size : Nat
  readable : Bool
  executable : Bool
  fits : address + size < 2 ^ 64

/-- The ranges of a `LoadedModule`. -/
structure LoadedModule where
  ranges : List ModuleMemoryRange

abbrev Memory := Nat → UInt8

def ModuleMemoryRange.containsSpan (range : ModuleMemoryRange) (address size : Nat) : Bool :=
  range.address ≤ address && address - range.address ≤ range.size &&
    size ≤ range.size - (address - range.address)

namespace LoadedModule

variable (module : LoadedModule) (memory : Memory)

def readableRange (address size : Nat) : Option ModuleMemoryRange :=
  module.ranges.find? fun range => range.readable && range.containsSpan address size

/-- One byte of the module, where it may be read. -/
def readByte (address : Nat) : Option UInt8 :=
  if (module.readableRange address 1).isSome then some (memory address) else none

def copyMappedBytes (address : Nat) : Nat → Option (List UInt8)
  | 0 => some []
  | size + 1 =>
    (module.readByte memory address).bind fun byte =>
      (copyMappedBytes (address + 1) size).map (byte :: ·)

/-- `EqualMappedBytes`, which stops at the first difference. -/
def equalMappedBytes (address : Nat) : List UInt8 → Option Bool
  | [] => some true
  | byte :: rest =>
    (module.readByte memory address).bind fun mapped =>
      if mapped ≠ byte then some false else equalMappedBytes (address + 1) rest

/-- `sizeof(void*)`, and its alignment. -/
def wordSize : Nat := 8

/-- A pointer, or a `std::ptrdiff_t`, of these bytes. -/
def littleEndian : List UInt8 → Nat
  | [] => 0
  | byte :: rest => byte.toNat + 256 * littleEndian rest

/-- `ReadValue`; the inner `none` is that it refuses. -/
def readValue (address : Nat) : Option (Option Nat) :=
  if (module.readableRange address wordSize).isNone then some none
  else (module.copyMappedBytes memory address wordSize).map (some ∘ littleEndian)

def findBytes (pattern : List UInt8) : Option (List Nat) :=
  if pattern = [] then some []
  else
    collect (fun range : ModuleMemoryRange =>
      if !range.readable || range.executable || range.size < pattern.length then some []
      else
        collect (fun offset =>
          (module.equalMappedBytes memory (range.address + offset) pattern).map fun equal =>
            if equal then [range.address + offset] else [])
          (List.range (range.size - pattern.length + 1)))
      module.ranges

def findAlignedValue (value : Nat) : Option (List Nat) :=
  collect (fun range : ModuleMemoryRange =>
    if !range.readable || range.executable || range.size < wordSize then some []
    else
      let aligned := (range.address + wordSize - 1) / wordSize * wordSize
      let skipped := aligned - range.address
      if range.size < skipped || range.size - skipped < wordSize then some []
      else
        collect (fun index =>
          (module.copyMappedBytes memory (aligned + index * wordSize) wordSize).map
            fun candidate =>
              if littleEndian candidate = value then [aligned + index * wordSize] else [])
          (List.range ((range.size - skipped - wordSize) / wordSize + 1)))
    module.ranges

/-! ## The search -/

/-- `std::numeric_limits<std::size_t>::max()`. -/
def maxSize : Nat := 2 ^ 64 - 1

def validClassName (name : Text) : Bool :=
  !name.isEmpty && name.length ≤ 256 && !name.contains '\x00' &&
    name.all fun character => character.isAlphanum || character == '_'

/-- The length of the name, the name and a NUL. -/
def decorated (name : Text) : List UInt8 :=
  ((Nat.toDigits 10 name.length ++ name).map fun character => character.toNat.toUInt8) ++ [0]

def addVtableCandidate (entryCount : Nat) (candidates : List Nat) (address : Nat) : List Nat :=
  if maxSize / wordSize < entryCount ∨
      (module.readableRange address (entryCount * wordSize)).isNone then candidates
  else if address ∈ candidates then candidates
  else candidates ++ [address]

/-- What the innermost loop of `FindItaniumVtables` makes of one reference to a record. -/
def tableAt (typeReference : Nat) : Option (List Nat) :=
  if typeReference < wordSize then some []
  else (module.readValue memory (typeReference - wordSize)).map fun offsetToTop =>
    if offsetToTop = some 0 then [typeReference + wordSize] else []

/-- What the middle loop makes of one reference to the name. -/
def tablesOf (nameReference : Nat) : Option (List Nat) :=
  if nameReference < wordSize then some []
  else (module.readValue memory (nameReference - wordSize)).bind fun typeInfoVtable =>
    if typeInfoVtable.getD 0 = 0 then some []
    else (module.findAlignedValue memory (nameReference - wordSize)).bind
      (collect (module.tableAt memory))

/-- What the three loops of `FindItaniumVtables` come to. -/
def tableAddresses (name : Text) : Option (List Nat) :=
  (module.findBytes memory (decorated name)).bind (collect fun place =>
    (module.findAlignedValue memory place).bind (collect (module.tablesOf memory)))

def findItaniumVtables (name : Text) (entryCount : Nat) : Option (List Nat) :=
  (module.tableAddresses memory name).map fun addresses =>
    addresses.foldl (module.addVtableCandidate entryCount) []

end LoadedModule

inductive ModuleLookup
  | found
  | notFound
  | ambiguous
  | failed
  deriving DecidableEq, Repr

/-- What `FindPrimaryVtable` gives back, with `table` and `error`. -/
structure VtableAnswer where
  lookup : ModuleLookup
  table : Option Nat
  error : Text
  deriving DecidableEq, Repr

/-- The end of `FindPrimaryVtable`. -/
def VtableAnswer.ofCandidates (name : Text) : List Nat → VtableAnswer
  | [] => ⟨.notFound, none, "primary virtual table was not found for ".toList ++ name⟩
  | [table] => ⟨.found, some table, []⟩
  | _ => ⟨.ambiguous, none, "primary virtual table is ambiguous for ".toList ++ name⟩

def LoadedModule.findPrimaryVtable (module : LoadedModule) (memory : Memory) (name : Text)
    (entryCount : Nat) : Option VtableAnswer :=
  if !LoadedModule.validClassName name || entryCount = 0 || module.ranges.isEmpty then
    some ⟨.failed, none, "virtual table request is invalid".toList⟩
  else (module.findItaniumVtables memory name entryCount).map (.ofCandidates name)

end KeelS2.Platform
