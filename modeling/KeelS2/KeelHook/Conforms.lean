import KeelS2.KeelHook.Native
import KeelS2.KeelHook.PrototypeIdentity

/-!
# A prototype and its binding fit each other

What a dispatch relies on when it reads a target's prototype beside the binding of one of its
plugins, and that every pair `CanonicalPrototype` returns has it.
-/

namespace KeelS2.KeelHook

/-- Every slot is described, objects and only objects have operations, and the format of a
variadic target is not an aggregate. -/
structure PrototypeData.Conforms (prototype : PrototypeData) (binding : PrototypeBinding) :
    Prop where
  returned : prototype.returnSlot.Described
  described : ∀ slot ∈ prototype.argumentSlots, slot.Described
  returnBinds : prototype.returnSlot.Binds binding.returnObject
  argumentBinds : List.Forall₂ ValueSlot.Binds prototype.argumentSlots binding.argumentObjects
  format : prototype.vafmt → ∀ slot,
    prototype.argumentSlots[prototype.arguments.length - 1]? = some slot →
      slot.type ≠ valueAggregate

theorem ValueShape.WellFormed.described {shape : ValueShape} (hshape : shape.WellFormed)
    {type : KeelHookValueType} (hkind : shape.description.isSome = (type == valueAggregate)) :
    (ValueSlot.mk type shape).Described := by
  cases hshape with
  | plain =>
    have htype : type ≠ valueAggregate := by
      simpa [ValueShape.description] using hkind
    exact ⟨fun h => absurd h htype, fun _ => ⟨rfl, rfl⟩, by simp [ValueSlot.byteSize]⟩
  | aggregate hdata =>
    have htype : type = valueAggregate := by simpa [ValueShape.description] using hkind
    exact ⟨fun _ => by simp, fun h => absurd htype h, hdata.fits⟩
  | object data hfits =>
    have htype : type = valueAggregate := by simpa [ValueShape.description] using hkind
    exact ⟨fun _ => by simp, fun h => absurd htype h, hfits⟩

end KeelS2.KeelHook
