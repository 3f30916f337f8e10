import KeelS2.KeelHook.Abi

/-!
# Classes of the schema system

The records that describe the game's classes, and the search for the part of an object that is one
of its base classes. The classes are the game's: their base-class arrays may share, repeat and
close cycles, and every pointer in them may be null.
-/

namespace KeelS2.Cs2

/-! ## The records -/

/-- An array by its count and its pointer. -/
structure SchemaArray (α : Type*) where
  count : Nat
  data : Option (Nat → α)

namespace SchemaArray

variable {α : Type*}

def elements (array : SchemaArray α) : List α :=
  match array.data with
  | none => []
  | some data => (List.range array.count).map data

def readable (array : SchemaArray α) : Bool :=
  array.count = 0 || array.data.isSome

end SchemaArray

inductive SchemaTypeCategory
  | builtin
  | atomic
  | declaredClass
  | other
  deriving DecidableEq, Repr

inductive SchemaAtomicCategory
  | plain
  | t
  | invalid
  | other
  deriving DecidableEq, Repr

inductive SchemaBuiltinType
  | char
  | int8
  | uint8
  | int16
  | uint16
  | int32
  | uint32
  | int64
  | uint64
  | float32
  | float64
  | bool
  | other
  deriving DecidableEq, Repr

/-- `CSchemaType` and what the casts of it read. Of the template type only its category is. -/
structure CSchemaType where
  typeCategory : SchemaTypeCategory
  atomicCategory : SchemaAtomicCategory
  typeName : Text
  builtinType : SchemaBuiltinType
  size : Nat
  alignment : Nat
  templateType : Option SchemaTypeCategory
  deriving DecidableEq, Repr

structure SchemaClassFieldData where
  name : Option Text
  type : Option CSchemaType
  singleInheritanceOffset : Int
  deriving DecidableEq, Repr

structure SchemaBaseClassInfoData (Class : Type*) where
  offset : Nat
  type : Option Class
  deriving DecidableEq, Repr

structure CSchemaClassInfo (Class : Type*) where
  name : Option Text
  size : Int
  alignment : Nat
  fields : SchemaArray SchemaClassFieldData
  baseClasses : SchemaArray (SchemaBaseClassInfoData Class)

def powerOfTwo (value : Nat) : Bool :=
  value ≠ 0 && value &&& (value - 1) = 0

variable {Class : Type*} (classes : Class → CSchemaClassInfo Class)

/-- What `ValidClass` checks behind the pointer. -/
def validInfo (info : CSchemaClassInfo Class) (allowUnknownAlignment : Bool) : Bool :=
  0 < info.size && info.size ≤ 16 * 1024 * 1024 &&
    ((powerOfTwo info.alignment && info.alignment ≤ 128) ||
      (allowUnknownAlignment && info.alignment = 255)) &&
    info.fields.count ≤ 8192 && info.fields.readable && info.baseClasses.readable

def validClass (info : Option Class) (allowUnknownAlignment : Bool) : Bool :=
  match info with
  | none => false
  | some info => validInfo (classes info) allowUnknownAlignment

/-- `m_nSize` of a valid class, as the unsigned number it is cast to. -/
def classSize (info : Class) : Nat := (classes info).size.toNat

/-! ## FindBaseOffset -/

inductive HierarchyResult
  | absent
  | found
  | incompatible
  deriving DecidableEq, Repr

/-- What the search passes on by reference. -/
structure Hierarchy where
  visited : Nat
  found : Bool
  result : Nat
  deriving DecidableEq, Repr

def Hierarchy.new : Hierarchy where
  visited := 0
  found := false
  result := 0

variable [DecidableEq Class]

/-- The check of one base class of `current`, before it is searched. -/
def baseFits (current : Class) (offset : Nat) (base : SchemaBaseClassInfoData Class) : Bool :=
  match base.type with
  | none => false
  | some inner =>
    validClass classes (some inner) false && base.offset ≤ classSize classes current &&
      base.offset + classSize classes inner ≤ classSize classes current &&
      offset ≤ 2 ^ 64 - 1 - base.offset

/-- The loop of `FindBaseOffset` over the base classes; `visit` is the search of one. -/
def searchBases (current : Class) (offset : Nat)
    (visit : Option Class → Nat → Hierarchy → HierarchyResult × Hierarchy) :
    List (SchemaBaseClassInfoData Class) → HierarchyResult → Hierarchy →
      HierarchyResult × Hierarchy
  | [], state, hierarchy => (state, hierarchy)
  | base :: rest, state, hierarchy =>
    if baseFits classes current offset base then
      match visit base.type (offset + base.offset) hierarchy with
      | (.incompatible, hierarchy) => (.incompatible, hierarchy)
      | (.found, hierarchy) => searchBases current offset visit rest .found hierarchy
      | (.absent, hierarchy) => searchBases current offset visit rest state hierarchy
    else (.incompatible, hierarchy)

/-- `FindBaseOffset`. The path is what it is below, nearest first, and `levels` is how many places
of its array are left. -/
def findBaseOffset (target : Option Class) :
    Nat → List Class → Option Class → Nat → Hierarchy → HierarchyResult × Hierarchy
  | 0, _, _, _, hierarchy => (.incompatible, hierarchy)
  | levels + 1, path, current, offset, hierarchy =>
    match current, target with
    | some current, some target =>
      if !validClass classes (some current) false then (.incompatible, hierarchy)
      else
        let hierarchy := { hierarchy with visited := hierarchy.visited + 1 }
        if 256 < hierarchy.visited then (.incompatible, hierarchy)
        else if current ∈ path then (.incompatible, hierarchy)
        else if current = target then
          if hierarchy.found && hierarchy.result ≠ offset then (.incompatible, hierarchy)
          else (.found, { hierarchy with found := true, result := offset })
        else
          searchBases classes current offset
            (fun base offset hierarchy =>
              findBaseOffset (some target) levels (current :: path) base offset hierarchy)
            (classes current).baseClasses.elements .absent hierarchy
    | _, _ => (.incompatible, hierarchy)

/-- As it is called: with an empty path of 64 places. -/
def findBase (start target : Option Class) : HierarchyResult × Hierarchy :=
  findBaseOffset classes target 64 [] start 0 Hierarchy.new

end KeelS2.Cs2
