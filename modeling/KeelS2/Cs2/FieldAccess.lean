import KeelS2.Cs2.BaseOffset
import KeelS2.Cs2.EntityFields

/-!
# Access to a field

What a resolved descriptor is good for: a field lies in the part of the object that is of its
declaring class, so that a read and a write of it touch nothing else, and a read gives what the
write before it has put there.
-/

namespace KeelS2.Cs2

open Lib.ByteMemory

variable {Class : Type*}

/-! ## Descriptors -/

variable {system : Option Nat} {field : KeelCs2SchemaField Class} {expected : BuiltinType}
  {info : Class} {entity : Option KeelCs2EntityIdentity} {valueSize notify slot : Nat}
  {location : Location Class} {baseClass : Option Class} {value : Option (Nat → UInt8)}
  {networkStateChanged : Nat → World Class → World Class × Bool} {type : KeelSchemaValueType}
  {after : World Class}

/-- What is so of a descriptor that has been resolved: the value lies in its class. -/
structure Resolved (classes : Class → CSchemaClassInfo Class) (field : KeelCs2SchemaField Class)
    (info : Class) (expected : BuiltinType) : Prop where
  declaringClass : field.declaringClass = some info
  valid : validClass classes (some info) false = true
  builtin : publicBuiltin field.valueType = some expected
  size : field.valueSize = expected.size
  alignment : field.valueAlignment = expected.alignment
  offset : 0 ≤ field.offset
  inside : field.offset.toNat + field.valueSize ≤ classSize classes info

variable [DecidableEq Class]

/-- What the checks of an access have established: the entity's slot is live, and the value lies
in the declaring class's part of its object. -/
structure Located (world : World Class) (system : Option Nat) (entity : KeelCs2EntityIdentity)
    (field : KeelCs2SchemaField Class) (info : Class) (location : Location Class) : Prop where
  slot : ∃ pointer, world.registry.identityByHandle system entity.source2Handle = some pointer ∧
    (world.registry.identities pointer).entityIndex = entity.index ∧
    (world.registry.identities pointer).instance' = some location.instance' ∧
    (world.registry.identities pointer).class' = some (some location.dynamicClass)
  base : (findBase world.classes (some location.dynamicClass) (some info)).1 = .found ∧
    (findBase world.classes (some location.dynamicClass) (some info)).2.result =
      location.baseOffset
  part : location.baseOffset + classSize world.classes info ≤
    classSize world.classes location.dynamicClass
  address : location.address = location.instance' + location.baseOffset + field.offset.toNat
  inSpace : location.instance' + classSize world.classes location.dynamicClass ≤ 2 ^ 64

variable {world : World Class}

/-- The bytes of a field lie in the object, in its part of the declaring class, and at addresses
that are not wrapped around. -/
structure Inside (world : World Class) (field : KeelCs2SchemaField Class) (info : Class)
    (location : Location Class) : Prop where
  address : location.address = location.instance' + location.baseOffset + field.offset.toNat
  noWrap : location.address + field.valueSize ≤ 2 ^ 64
  object : location.address + field.valueSize ≤
    location.instance' + classSize world.classes location.dynamicClass
  part : location.address + field.valueSize ≤
    location.instance' + location.baseOffset + classSize world.classes info

theorem Located.inside {entity : KeelCs2EntityIdentity}
    (h : Located world system entity field info location)
    (hfield : Resolved world.classes field info expected) : Inside world field info location := by
  have haddress := h.address
  have hpart := h.part
  have hspace := h.inSpace
  have hinside := hfield.inside
  exact ⟨haddress, by omega, by omega, by omega⟩

/-- The notification is no access to the objects: it leaves the entities and their classes as they
are, and every byte of the object it is called with. -/
structure Quiet (networkStateChanged : Nat → World Class → World Class × Bool) : Prop where
  registry : ∀ instance' world,
    (networkStateChanged instance' world).1.registry = world.registry
  classes : ∀ instance' world, (networkStateChanged instance' world).1.classes = world.classes
  object : ∀ (instance' : Nat) (world : World Class) pointer class',
    (world.registry.identities pointer).instance' = some instance' →
    (world.registry.identities pointer).class' = some (some class') →
    ∀ place, instance' ≤ place → place < instance' + classSize world.classes class' →
      (networkStateChanged instance' world).1.memory place = world.memory place

/-- The world with the value in the field. -/
abbrev written (world : World Class) (location : Location Class) (snapshot : List UInt8) :
    World Class :=
  { world with memory := writeBytes world.memory location.address snapshot }

/-- Behind a quiet notification of a write the object has the bytes that were written, in the
field, and those that it had elsewhere. -/
theorem Quiet.memory (hquiet : Quiet networkStateChanged) {entity : KeelCs2EntityIdentity}
    (hlocated : Located world system entity field info location) (snapshot : List UInt8)
    {place : Nat} (hlow : location.instance' ≤ place)
    (hhigh : place < location.instance' + classSize world.classes location.dynamicClass) :
    (networkStateChanged location.instance' (written world location snapshot)).1.memory place =
      writeBytes world.memory location.address snapshot place := by
  obtain ⟨pointer, -, -, hinstance, hclass⟩ := hlocated.slot
  exact hquiet.object location.instance' (written world location snapshot) pointer
    location.dynamicClass hinstance hclass place hlow hhigh

end KeelS2.Cs2
