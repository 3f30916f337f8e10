import KeelS2.Cs2.SchemaClasses

/-!
# The game's entity list

The identity slots of the entity systems, in chunks, and the checks by which a slot is taken for
the entity that an index or a handle names. The slots are the engine's and may hold anything. What
its inline functions compute of a slot or of a handle is data here.
-/

namespace KeelS2.Cs2

def maxEntitiesInList : Nat := 512
def maxEntityLists : Nat := 64
def maxTotalEntities : Nat := 32768
def invalidEHandleIndex : Nat := 2 ^ 32 - 1

/-- The `EF_` flags that are looked at. -/
structure EntityFlags where
  isInvalidEHandle : Bool
  deleteInProgress : Bool
  markedForDelete : Bool
  isPreSpawn : Bool
  isConstructionInProgress : Bool
  spawnInProgress : Bool
  isAnonymousAllocation : Bool
  deriving DecidableEq, Repr

/-- The pointer to an identity: its chunk and its place there. -/
abbrev IdentityPointer := Nat × Nat

/-- `CEntityIdentity`. `entityIndex` and `refEHandle` are what `GetEntityIndex` and
`GetRefEHandle` compute of it; its class is whether there is one and the schema binding of it. -/
structure CEntityIdentity (Class : Type*) where
  entityIndex : Int
  refEHandle : Nat
  instance' : Option Nat
  class' : Option (Option Class)
  flags : EntityFlags
  deriving DecidableEq, Repr

/-- Entity systems: their chunks, what is in the slots, the back links of the instances
(`m_pEntity`), and `CEntityHandle::GetEntryIndex`. -/
structure EntityRegistry (Class : Type*) where
  identityChunks : Nat → Nat → Option Nat
  identities : IdentityPointer → CEntityIdentity Class
  backLink : Nat → Option IdentityPointer
  entryIndex : Nat → Int

namespace EntityRegistry

variable {Class : Type*} (registry : EntityRegistry Class)

def liveIdentity (pointer : IdentityPointer) : Bool :=
  let identity := registry.identities pointer
  match identity.instance' with
  | none => false
  | some instance' =>
    identity.class'.isSome &&
      !(identity.flags.isInvalidEHandle || identity.flags.deleteInProgress ||
        identity.flags.markedForDelete || identity.flags.isPreSpawn ||
        identity.flags.isConstructionInProgress) &&
      registry.backLink instance' == some pointer

def identityByIndex (system : Option Nat) (index : Int) : Option IdentityPointer :=
  match system with
  | none => none
  | some system =>
    if index < 0 ∨ (maxTotalEntities : Int) ≤ index then none
    else
      match registry.identityChunks system (index.toNat / maxEntitiesInList) with
      | none => none
      | some chunk =>
        let pointer := (chunk, index.toNat % maxEntitiesInList)
        if (registry.identities pointer).entityIndex = index ∧ registry.liveIdentity pointer then
          some pointer
        else none

def identityByHandle (system : Option Nat) (handle : Nat) : Option IdentityPointer :=
  if handle = invalidEHandleIndex then none
  else
    match registry.identityByIndex system (registry.entryIndex handle) with
    | none => none
    | some pointer => if (registry.identities pointer).refEHandle =
      handle then some pointer else none

end EntityRegistry
end KeelS2.Cs2
