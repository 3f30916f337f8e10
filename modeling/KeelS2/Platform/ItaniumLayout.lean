import KeelS2.Platform.VtableSearch

/-!
# Layouts of the Itanium C++ ABI

What a compiler puts into the memory of a module for its classes: virtual tables,
type-information records of the several kinds, and the names that these point to. `Describes`
says that a memory is such a layout. Names may share their ends.
-/

namespace KeelS2.Platform

open Lib Lib.ByteMemory LoadedModule

/-! ## Records and tables -/

/-- What stands in a record behind its table and its name: nothing for a class without bases,
`__si_class_type_info`, `__vmi_class_type_info` with the word of its flags and with an
`__offset_flags` for each base, or one of the pointer kinds, of which a pointer to a member has a
class beside the pointee. Targets are addresses of records. -/
inductive TypeInfoKind
  | classType
  | singleBase (base : Nat)
  | multipleBases (flags : Nat) (bases : List (Nat × Nat))
  | pointer (flags padding pointee : Nat) (context : Option Nat)

structure TypeInfo where
  address : Nat
  vtable : Nat
  name : Nat
  /-- The bytes at `name`, up to the NUL. -/
  mangled : List UInt8
  kind : TypeInfoKind

structure Vtable where
  address : Nat
  offsetToTop : Nat
  typeInfo : Nat
  functions : List Nat
  nonempty : functions ≠ []

structure Layout where
  typeInfos : List TypeInfo
  vtables : List Vtable

namespace TypeInfoKind

def words : TypeInfoKind → List Nat
  | classType => []
  | singleBase base => [base]
  | multipleBases flags bases =>
    (flags + 2 ^ 32 * bases.length) :: bases.flatMap fun base => [base.1, base.2]
  | pointer flags padding pointee context =>
    (flags + 2 ^ 32 * padding) :: pointee :: context.toList

/-- Where in the record another record is referred to, and which. -/
inductive Refers : TypeInfoKind → Nat → Nat → Prop
  | singleBase (base : Nat) : Refers (.singleBase base) 2 base
  | base {flags index target offset : Nat} {bases : List (Nat × Nat)}
      (h : bases[index]? = some (target, offset)) :
      Refers (.multipleBases flags bases) (3 + 2 * index) target
  | pointee (flags padding pointee : Nat) (context : Option Nat) :
      Refers (.pointer flags padding pointee context) 3 pointee
  | context (flags padding pointee context : Nat) :
      Refers (.pointer flags padding pointee (some context)) 4 context

/-- The references behind a word of zero: those of pointers without qualifiers, and of a base
behind a private one that is not virtual and has no offset. -/
inductive Misleads : TypeInfoKind → Nat → Nat → Prop
  | pointer (pointee : Nat) (context : Option Nat) :
      Misleads (.pointer 0 0 pointee context) 3 pointee
  | base {flags index before target offset : Nat} {bases : List (Nat × Nat)}
      (hbefore : bases[index]? = some (before, 0))
      (h : bases[index + 1]? = some (target, offset)) :
      Misleads (.multipleBases flags bases) (3 + 2 * (index + 1)) target

end TypeInfoKind

def TypeInfo.words (record : TypeInfo) : List Nat :=
  record.vtable :: record.name :: record.kind.words

def Vtable.words (table : Vtable) : List Nat :=
  table.offsetToTop :: table.typeInfo :: table.functions

/-- Where the pointer of an object points to. -/
def Vtable.addressPoint (table : Vtable) : Nat :=
  table.address + 2 * wordSize

/-- The record is that of the class with this name. -/
def TypeInfo.IsOf (record : TypeInfo) (name : Text) : Prop :=
  record.mangled ++ [0] = decorated name

/-! ## Layouts -/

section Layouts

variable (module : LoadedModule) (memory : Memory)

/-- The words stand at an address, in a readable range. -/
structure Placed (address : Nat) (words : List Nat) : Prop where
  aligned : wordSize ∣ address
  readable : module.Readable address (words.length * wordSize)
  holds : ∀ index value, words[index]? = some value →
    word memory (address + index * wordSize) = value

/-- A record and its name. The pointers of it are no null pointers. -/
structure TypeInfo.Stands (record : TypeInfo) : Prop where
  placed : Placed module memory record.address record.words
  vtable : record.vtable ≠ 0
  name : record.name ≠ 0
  targets : ∀ index target, record.kind.Refers index target → target ≠ 0
  terminated : 0 ∉ record.mangled
  readable : module.Readable record.name (record.mangled.length + 1)
  named : readBytes memory record.name (record.mangled.length + 1) = record.mangled ++ [0]

/-- The mangled name of a class stands here. -/
def ClassNameAt (place : Nat) : Prop :=
  ∃ name, validClassName name = true ∧ module.Readable place (decorated name).length ∧
    readBytes memory place (decorated name).length = decorated name

/-- The words of two lists have no place in common. -/
def Apart (address : Nat) (words : List Nat) (other : Nat) (others : List Nat) : Prop :=
  address + words.length * wordSize ≤ other ∨ other + others.length * wordSize ≤ address

/-- The memory is the layout: there is no word but those of the layout's own references that is
equal to the address of a class's name or of a record. -/
structure Layout.Describes (layout : Layout) : Prop where
  typeInfos : ∀ record ∈ layout.typeInfos, record.Stands module memory
  vtables : ∀ table ∈ layout.vtables, Placed module memory table.address table.words
  apart : ∀ record ∈ layout.typeInfos, ∀ table ∈ layout.vtables,
    Apart record.address record.words table.address table.words
  tablesApart : ∀ table ∈ layout.vtables, ∀ other ∈ layout.vtables, table ≠ other →
    Apart table.address table.words other.address other.words
  names : ∀ place, wordSize ∣ place → module.Readable place wordSize →
    ClassNameAt module memory (word memory place) →
      ∃ record ∈ layout.typeInfos, place = record.address + wordSize
  references : ∀ place, wordSize ∣ place → module.Readable place wordSize →
    ∀ record ∈ layout.typeInfos, word memory place = record.address →
      (∃ table ∈ layout.vtables, place = table.address + wordSize) ∨
        ∃ other ∈ layout.typeInfos, ∃ index, other.kind.Refers index record.address ∧
          place = other.address + index * wordSize

end Layouts

/-! ## What the search is about -/

namespace Layout

variable (layout : Layout) (module : LoadedModule) (name : Text) (entryCount place : Nat)

/-- The address point of a primary table of the class, with the entries behind it. -/
def Primary : Prop :=
  ∃ table ∈ layout.vtables, ∃ record ∈ layout.typeInfos, record.IsOf name ∧
    table.typeInfo = record.address ∧ table.offsetToTop = 0 ∧ place = table.addressPoint ∧
      module.Readable place (entryCount * wordSize)

/-- The place is inside a type-information record or a secondary table. -/
def Stray : Prop :=
  (∃ record ∈ layout.typeInfos, record.address ≤ place ∧
    place < record.address + record.words.length * wordSize) ∨
  ∃ table ∈ layout.vtables, table.offsetToTop ≠ 0 ∧ table.address ≤ place ∧
    place < table.address + table.words.length * wordSize

end Layout

/-- The name and the reference to it are in ranges that are searched. -/
structure TypeInfo.Seen (record : TypeInfo) (module : LoadedModule) : Prop where
  name : module.Searchable record.name (record.mangled.length + 1)
  reference : module.Searchable (record.address + wordSize) wordSize

namespace Layout

variable (layout : Layout) (module : LoadedModule) (name : Text) (entryCount place : Nat)

/-- A primary table that is in the ranges that are searched, with its record and the name. -/
def Seen : Prop :=
  ∃ table ∈ layout.vtables, ∃ record ∈ layout.typeInfos, record.IsOf name ∧
    table.typeInfo = record.address ∧ table.offsetToTop = 0 ∧ place = table.addressPoint ∧
      module.Readable place (entryCount * wordSize) ∧ record.Seen module ∧
        module.Searchable (table.address + wordSize) wordSize

/-- The place behind a misleading reference to the class's record. -/
def Misled : Prop :=
  ∃ record ∈ layout.typeInfos, record.IsOf name ∧ record.Seen module ∧
    ∃ other ∈ layout.typeInfos, ∃ index, other.kind.Misleads index record.address ∧
      module.Searchable (other.address + index * wordSize) wordSize ∧
        place = other.address + index * wordSize + wordSize ∧
          module.Readable place (entryCount * wordSize)

variable {layout module name entryCount place}

theorem Seen.primary (hseen : layout.Seen module name entryCount place) :
    layout.Primary module name entryCount place := by
  obtain ⟨table, htable, record, hrecord, hname, hrefers, hoffset, hplace, hreadable, -⟩ := hseen
  exact ⟨table, htable, record, hrecord, hname, hrefers, hoffset, hplace, hreadable⟩

end Layout

end KeelS2.Platform
