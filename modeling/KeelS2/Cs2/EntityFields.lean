import KeelS2.Cs2.EntityList
import KeelS2.Lib.ByteMemory

/-!
# Fields of entities

A field of the schema system is resolved to a descriptor: its class, its offset there and its
value's size. By the descriptor the field is read from an entity's object, and written to it. What
is written is told to the engine by a call of its change notification.
-/

namespace KeelS2.Cs2

open Lib.ByteMemory

variable {Class : Type*}

/-! ## Value types -/

abbrev KeelSchemaValueType := Nat

def schemaFloat32 : KeelSchemaValueType := 10
def schemaEntityHandle : KeelSchemaValueType := 13
def schemaVector3 : KeelSchemaValueType := 14

structure BuiltinType where
  schemaType : SchemaBuiltinType
  size : Nat
  alignment : Nat
  deriving DecidableEq, Repr

def publicBuiltin : KeelSchemaValueType → Option BuiltinType
  | 1 => some ⟨.char, 1, 1⟩
  | 2 => some ⟨.int8, 1, 1⟩
  | 3 => some ⟨.uint8, 1, 1⟩
  | 4 => some ⟨.int16, 2, 2⟩
  | 5 => some ⟨.uint16, 2, 2⟩
  | 6 => some ⟨.int32, 4, 4⟩
  | 7 => some ⟨.uint32, 4, 4⟩
  | 8 => some ⟨.int64, 8, 8⟩
  | 9 => some ⟨.uint64, 8, 8⟩
  | 10 => some ⟨.float32, 4, 4⟩
  | 11 => some ⟨.float64, 8, 8⟩
  | 12 => some ⟨.bool, 1, 1⟩
  | 13 => some ⟨.uint32, 4, 4⟩
  | 14 => some ⟨.float32, 12, 4⟩
  | _ => none

def littleEndian (bytes : List UInt8) : Nat :=
  bytes.foldr (fun byte value => byte.toNat + 256 * value) 0

/-- `std::isfinite` of the `float` in four bytes. -/
def isFinite32 (bytes : List UInt8) : Bool :=
  littleEndian bytes / 2 ^ 23 % 2 ^ 8 ≠ 255

structure KeelCs2SchemaField (Class : Type*) where
  declaringClass : Option Class
  offset : Int
  valueSize : Nat
  valueAlignment : Nat
  valueType : KeelSchemaValueType

structure KeelCs2EntityIdentity where
  index : Int
  source2Handle : Nat
  deriving DecidableEq, Repr

/-- What the schema system finds by the name of a module and, there, of a class; an error is that
it throws. -/
abbrev ISchemaSystem (Class : Type*) :=
  Text → Except Unit (Option (Text → Except Unit (Option Class)))

/-- Whether the schema's type of a field is the value type. -/
def fieldTypeFits (valueType : KeelSchemaValueType) (expected : BuiltinType)
    (type : CSchemaType) : Bool :=
  if valueType = schemaVector3 then
    type.typeCategory = .atomic && type.atomicCategory = .plain &&
      type.typeName = ['V', 'e', 'c', 't', 'o', 'r'] && type.size = expected.size &&
      type.alignment = expected.alignment
  else if valueType = schemaEntityHandle then
    type.typeCategory = .atomic && type.atomicCategory = .t &&
      ['C', 'H', 'a', 'n', 'd', 'l', 'e', '<'].isPrefixOf type.typeName &&
      type.typeName.getLast? = some '>' &&
      type.size = expected.size && type.alignment = expected.alignment &&
      type.templateType = some .declaredClass
  else
    type.typeCategory = .builtin && type.atomicCategory = .invalid &&
      type.builtinType = expected.schemaType && type.size = expected.size

variable (classes : Class → CSchemaClassInfo Class)

/-- The bytes of the address space, the entities and the classes. The object of an entity, as
large as its class says, lies in the address space. -/
structure World (Class : Type*) where
  memory : Nat → UInt8
  registry : EntityRegistry Class
  classes : Class → CSchemaClassInfo Class
  inSpace : ∀ pointer instance' class', (registry.identities pointer).instance' = some instance' →
    (registry.identities pointer).class' = some (some class') →
    instance' + classSize classes class' ≤ 2 ^ 64

variable [DecidableEq Class] (world : World Class)

/-- What the checks of an entity and a field have found. -/
structure Location (Class : Type*) where
  instance' : Nat
  dynamicClass : Class
  baseOffset : Nat
  address : Nat

/-- The part that `KeelCs2_ReadEntityField` and `KeelCs2_WriteEntityField` both have, from
`IdentityByHandle` to the check of the alignment. -/
def locateField (system : Option Nat) (entity : KeelCs2EntityIdentity)
    (field : KeelCs2SchemaField Class) : Except KeelResult (Location Class) :=
  match world.registry.identityByHandle system entity.source2Handle with
  | none => .error .notFound
  | some pointer =>
    let identity := world.registry.identities pointer
    if identity.entityIndex ≠ entity.index then .error .notFound
    else
      match identity.instance', identity.class' with
      | some instance', some (some dynamicClass) =>
        if !validClass world.classes (some dynamicClass) false ||
            !validClass world.classes field.declaringClass false then .error .incompatible
        else
          let (hierarchy, search) := findBase world.classes (some dynamicClass) field.declaringClass
          if hierarchy = .incompatible then .error .incompatible
          else if !search.found then .error .incompatible
          else
            let fieldOffset := (search.result + field.offset.toNat) % 2 ^ 64
            let size := classSize world.classes dynamicClass
            if size < fieldOffset ∨ size - fieldOffset < field.valueSize then .error .incompatible
            else if 2 ^ 64 - 1 - instance' < fieldOffset then .error .incompatible
            else
              let address := (instance' + fieldOffset) % 2 ^ 64
              if address % field.valueAlignment ≠ 0 then .error .incompatible
              else .ok ⟨instance', dynamicClass, search.result, address⟩
      | _, _ => .error .incompatible

/-- `KeelCs2_ReadEntityField` up to the copy; `value` is whether there is somewhere to put it. -/
def readLocation (system : Option Nat) (entity : Option KeelCs2EntityIdentity)
    (field : Option (KeelCs2SchemaField Class)) (value : Bool) (valueSize : Nat) :
    Except KeelResult (Location Class) :=
  match entity, field with
  | some entity, some field =>
    if system.isNone || field.declaringClass.isNone || !value || field.valueSize = 0 ||
        valueSize ≠ field.valueSize || !powerOfTwo field.valueAlignment ||
        128 < field.valueAlignment || field.offset < 0 then .error .invalidArgument
    else locateField world system entity field
  | _, _ => .error .invalidArgument

/-- `KeelCs2_ReadEntityField`, with the bytes that it puts out. -/
def readEntityField (system : Option Nat) (entity : Option KeelCs2EntityIdentity)
    (field : Option (KeelCs2SchemaField Class)) (value : Bool) (valueSize : Nat) :
    KeelResult × Option (List UInt8) :=
  match readLocation world system entity field value valueSize with
  | .error result => (result, none)
  | .ok location => (.ok, some (readBytes world.memory location.address valueSize))

/-- The pointer that stands at an address. -/
def readPointer (memory : Nat → UInt8) (address : Nat) : Nat :=
  littleEndian (readBytes memory address 8)

/-- `"CBaseEntity"`. -/
def baseEntityName : Text := ['C', 'B', 'a', 's', 'e', 'E', 'n', 't', 'i', 't', 'y']

/-- The checks of `base`, and that the notification is the one of the object's table. -/
def notifies (slot : Nat) (baseClass : Option Class) (location : Location Class)
    (notify : Nat) : Bool :=
  match baseClass with
  | none => false
  | some base =>
    validClass world.classes (some base) false &&
      (world.classes base).name = some baseEntityName &&
      (findBase world.classes (some location.dynamicClass) (some base)).1 = .found &&
      (findBase world.classes (some location.dynamicClass) (some base)).2.found &&
      (findBase world.classes (some location.dynamicClass) (some base)).2.result = 0 &&
      readPointer world.memory location.instance' ≠ 0 &&
      readPointer world.memory (readPointer world.memory location.instance' + 8 * slot) = notify

end KeelS2.Cs2
