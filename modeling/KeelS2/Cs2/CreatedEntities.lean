import KeelS2.Cs2.EntityFields

/-!
# Created entities

The adapter's functions for an entity that a plugin constructs. A slot is taken for the entity by
its index, its handle and the back link of its instance. The functions of the engine may do
anything to the world: they are functions from worlds to worlds, and an error is that they throw.
-/

namespace KeelS2.Cs2.Native

variable {World Class : Type*}

/-- `MAX_TOTAL_ENTITIES` slots are snapshotted. -/
def entityCapacity : Nat := 32768

/-- `alignof(CEntityInstance)`. -/
def instanceAlignment : Nat := 8

/-! ## Slots -/

def createdIdentity (registry : EntityRegistry Class) (system : Nat)
    (entity : KeelCs2EntityIdentity) (requirePreSpawn : Bool) : Option IdentityPointer :=
  if entity.index < 0 ∨ (maxTotalEntities : Int) ≤ entity.index ∨
      entity.source2Handle = invalidEHandleIndex then none
  else if registry.entryIndex entity.source2Handle ≠ entity.index then none
  else
    match registry.identityChunks system (entity.index.toNat / maxEntitiesInList) with
    | none => none
    | some chunk =>
      let pointer := (chunk, entity.index.toNat % maxEntitiesInList)
      let identity := registry.identities pointer
      if identity.entityIndex ≠ entity.index ∨ identity.refEHandle ≠ entity.source2Handle then none
      else
        match identity.instance' with
        | none => none
        | some instance' =>
          if identity.class'.isNone ∨ instance' % instanceAlignment ≠ 0 ∨
              identity.flags.isInvalidEHandle ∨ identity.flags.deleteInProgress ∨
              identity.flags.markedForDelete ∨ identity.flags.isConstructionInProgress then none
          else if requirePreSpawn ∧ (!identity.flags.isPreSpawn ∨
              identity.flags.spawnInProgress ∨ identity.flags.isAnonymousAllocation) then none
          else if registry.backLink instance' ≠ some pointer then none
          else some pointer

/-- The slots that hold the instance, in the order in which they are gone through. -/
def holders (registry : EntityRegistry Class) (system : Nat) (instance' : Nat) :
    List KeelCs2EntityIdentity :=
  (List.range maxEntityLists).flatMap fun chunkIndex =>
    match registry.identityChunks system chunkIndex with
    | none => []
    | some chunk =>
      (List.range maxEntitiesInList).filterMap fun offset =>
        let candidate := registry.identities (chunk, offset)
        if candidate.instance' = some instance' then
          some ⟨(chunkIndex * maxEntitiesInList + offset : Nat), candidate.refEHandle⟩
        else none

/-- `KeelCs2_CaptureCreatedEntity`: the first of them decides. -/
def captureCreatedEntity (registry : EntityRegistry Class) (system : Nat) (instance' : Nat) :
    KeelResult × KeelCs2EntityIdentity :=
  match (holders registry system instance').head? with
  | none => (.notFound, ⟨0, 0⟩)
  | some entity =>
    if (createdIdentity registry system entity false).isNone then (.notFound, ⟨0, 0⟩)
    else (.ok, entity)

/-- `KeelCs2_SnapshotEntityHandles`. -/
def snapshotEntityHandles (registry : EntityRegistry Class) (system : Nat) : List Nat :=
  (List.range entityCapacity).map fun index =>
    match registry.identityChunks system (index / maxEntitiesInList) with
    | none => invalidEHandleIndex
    | some chunk =>
      let identity := registry.identities (chunk, index % maxEntitiesInList)
      if identity.instance'.isSome then identity.refEHandle else invalidEHandleIndex

/-! ## Classes -/

variable [DecidableEq Class]

def baseEntityName : Text :=
  ['C', 'B', 'a', 's', 'e', 'E', 'n', 't', 'i', 't', 'y']

/-- `CheckCreatedClass`; `instanceSize` is `sizeof(CEntityInstance)`. -/
def checkCreatedClass (classes : Class → CSchemaClassInfo Class) (instanceSize : Nat)
    (registry : EntityRegistry Class) (pointer : Option IdentityPointer) (base : Class) :
    KeelResult :=
  match pointer with
  | none => .notFound
  | some pointer =>
    let identity := registry.identities pointer
    match identity.class'.join, identity.instance' with
    | some type, some instance' =>
      let search := findBase classes (some type) (some base)
      if !validClass classes (some type) false || !validClass classes (some base) false ||
          (classes base).name ≠ some baseEntityName || search.1 ≠ .found || search.2.result ≠ 0 then
        .incompatible
      else if instance' % (classes type).alignment ≠ 0 ∨ classSize classes type < instanceSize ∨
          2 ^ 64 - 1 - instance' < classSize classes type - 1 then .incompatible
      else .ok
    | _, _ => .incompatible

/-- `KeelCs2_ValidateCreatedEntity`. -/
def validateCreatedEntity (classes : Class → CSchemaClassInfo Class) (instanceSize : Nat)
    (registry : EntityRegistry Class) (system : Nat) (entity : KeelCs2EntityIdentity)
    (base : Option Class) (requirePreSpawn : Bool) : KeelResult :=
  match base with
  | none => .invalidArgument
  | some base =>
    checkCreatedClass classes instanceSize registry
      (createdIdentity registry system entity requirePreSpawn) base

/-- `KeelCs2_ValidatePendingEntity`. -/
def validatePendingEntity (registry : EntityRegistry Class) (system : Nat)
    (entity : KeelCs2EntityIdentity) : KeelResult :=
  if (createdIdentity registry system entity true).isSome then .ok else .notFound

/-! ## The functions of the engine -/

/-- `KeelCs2EntityConstructionBindings`: the engine's functions, where they have been found. -/
structure KeelCs2EntityConstructionBindings (World : Type*) where
  create : Option (Text → World → World × Except Unit (Option Nat))
  spawn : Option (Nat → World → World × Except Unit Unit)
  remove : Option (Nat → World → World × Except Unit Unit)

/-- The characters of a class name. -/
def nameCharacter (c : Char) : Bool :=
  ('a' ≤ c && c ≤ 'z') || ('A' ≤ c && c ≤ 'Z') || ('0' ≤ c && c ≤ '9') || c = '_'

/-- `KeelCs2_CreateEntity`: the world behind it, the result and the instance. -/
def createEntity (bindings : KeelCs2EntityConstructionBindings World) (className : Option Text)
    (world : World) : World × KeelResult × Option Nat :=
  match bindings.create, bindings.spawn, bindings.remove, className with
  | some create, some _, some _, some className =>
    if className = [] ∨ ¬className.all nameCharacter ∨ 128 ≤ className.length then
      (world, .invalidArgument, none)
    else
      match create className world with
      | (world, .error _) => (world, .engineFailure, none)
      | (world, .ok none) => (world, .notFound, none)
      | (world, .ok (some instance')) => (world, .ok, some instance')
  | _, _, _, _ => (world, .invalidArgument, none)

/-- What a dispatch has done. `invoked` is the call of the engine's function: the world that it
was called in, and the instance it was called on. -/
structure Dispatched (World : Type*) where
  world : World
  result : KeelResult
  invoked : Option (World × Nat)

/-- `KeelCs2_SpawnCreatedEntity`: `DispatchCreatedEntity` of a spawn. -/
def spawnCreatedEntity (classes : Class → CSchemaClassInfo Class) (instanceSize : Nat)
    (registry : World → EntityRegistry Class) (system : Nat) (entity : KeelCs2EntityIdentity)
    (base : Option Class) (bindings : KeelCs2EntityConstructionBindings World) (world : World) :
    Dispatched World :=
  match base, bindings.create, bindings.spawn, bindings.remove with
  | some base, some _, some spawn, some _ =>
    let pointer := createdIdentity (registry world) system entity true
    let result := checkCreatedClass classes instanceSize (registry world) pointer base
    if result ≠ .ok then ⟨world, result, none⟩
    else
      match pointer.bind fun pointer => ((registry world).identities pointer).instance' with
      | none => ⟨world, .notFound, none⟩
      | some instance' =>
        match spawn instance' world with
        | (after, .error _) => ⟨after, .engineFailure, some (world, instance')⟩
        | (after, .ok _) => ⟨after, .ok, some (world, instance')⟩
  | _, _, _, _ => ⟨world, .invalidArgument, none⟩

/-- `KeelCs2_RemoveCreatedEntity`: `DispatchCreatedEntity` of a removal. -/
def removeCreatedEntity (registry : World → EntityRegistry Class) (system : Nat)
    (entity : KeelCs2EntityIdentity) (bindings : KeelCs2EntityConstructionBindings World)
    (world : World) : Dispatched World :=
  match bindings.create, bindings.spawn, bindings.remove with
  | some _, some _, some remove =>
    match createdIdentity (registry world) system entity false with
    | none => ⟨world, .notFound, none⟩
    | some pointer =>
      let identity := (registry world).identities pointer
      if identity.flags.spawnInProgress then ⟨world, .busy, none⟩
      else if identity.flags.isAnonymousAllocation then ⟨world, .incompatible, none⟩
      else
        match identity.instance' with
        | none => ⟨world, .notFound, none⟩
        | some instance' =>
          match remove instance' world with
          | (after, .error _) => ⟨after, .engineFailure, some (world, instance')⟩
          | (after, .ok _) => ⟨after, .ok, some (world, instance')⟩
  | _, _, _ => ⟨world, .invalidArgument, none⟩

/-- `KeelCs2_FinishCreatedSpawn`. -/
def finishCreatedSpawn (registry : World → EntityRegistry Class) (system : Nat)
    (entity : KeelCs2EntityIdentity) (bindings : KeelCs2EntityConstructionBindings World)
    (world : World) : Dispatched World :=
  match bindings.create, bindings.spawn, bindings.remove with
  | some _, some _, some _ =>
    match createdIdentity (registry world) system entity false with
    | none => ⟨world, .notFound, none⟩
    | some pointer =>
      let identity := (registry world).identities pointer
      if identity.flags.spawnInProgress then ⟨world, .busy, none⟩
      else if !identity.flags.isPreSpawn then ⟨world, .ok, none⟩
      else if identity.flags.isAnonymousAllocation then ⟨world, .incompatible, none⟩
      else
        let removed := removeCreatedEntity registry system entity bindings world
        if removed.result = .ok then { removed with result := .engineFailure } else removed
  | _, _, _ => ⟨world, .invalidArgument, none⟩

/-! ## What a slot that is taken for an entity says -/

/-- The slot at the pointer is the entity's: index, handle, instance and back link. -/
structure Taken (registry : EntityRegistry Class) (system : Nat) (entity : KeelCs2EntityIdentity)
    (pointer : IdentityPointer) : Prop where
  index : 0 ≤ entity.index ∧ entity.index < (maxTotalEntities : Int)
  handle : entity.source2Handle ≠ invalidEHandleIndex
  place : registry.identityChunks system (entity.index.toNat / maxEntitiesInList) =
      some pointer.1 ∧ pointer.2 = entity.index.toNat % maxEntitiesInList
  carries : (registry.identities pointer).entityIndex = entity.index ∧
    (registry.identities pointer).refEHandle = entity.source2Handle
  linked : ∃ instance', (registry.identities pointer).instance' = some instance' ∧
    registry.backLink instance' = some pointer

variable {system : Nat} {entity : KeelCs2EntityIdentity}
  {bindings : KeelCs2EntityConstructionBindings World} {world : World}

omit [DecidableEq Class] in
theorem taken_of_createdIdentity {registry : EntityRegistry Class} {requirePreSpawn : Bool}
    {pointer : IdentityPointer}
    (h : createdIdentity registry system entity requirePreSpawn = some pointer) :
    Taken registry system entity pointer ∧
      createdIdentity registry system entity false = some pointer ∧
      (requirePreSpawn = true → (registry.identities pointer).flags.isPreSpawn = true) := by
  have hagain := h
  unfold createdIdentity at h
  split at h
  · cases h
  · next hrange =>
    simp only [not_or, Int.not_lt, Int.not_le] at hrange
    split at h
    · cases h
    · split at h
      · cases h
      · next chunk hchunk =>
        dsimp only at h
        split at h
        · cases h
        · next hcarries =>
          simp only [ne_eq, not_or, not_not] at hcarries
          split at h
          · cases h
          · next instance' hinstance =>
            split at h
            · cases h
            · split at h
              · cases h
              · next hpending =>
                split at h
                · cases h
                · next hlink =>
                  rw [not_not] at hlink
                  cases h
                  refine ⟨⟨⟨hrange.1, hrange.2.1⟩, hrange.2.2, ⟨hchunk, rfl⟩, hcarries,
                    instance', hinstance, hlink⟩, ?_, fun hpre => ?_⟩
                  · unfold createdIdentity at hagain ⊢
                    simp_all
                  · simp only [hpre, true_and, not_or, Bool.not_eq_true', Bool.not_eq_true,
                      Bool.not_eq_false] at hpending
                    exact hpending.1

/-- The instance is registered in the slot that the entity names. -/
def Registered (registry : EntityRegistry Class) (system : Nat) (instance' : Nat)
    (entity : KeelCs2EntityIdentity) : Prop :=
  ∃ pointer, createdIdentity registry system entity false = some pointer ∧
    (registry.identities pointer).instance' = some instance'

/-- The guard of the removal refuses the entity. -/
def Guarded (registry : EntityRegistry Class) (system : Nat) (entity : KeelCs2EntityIdentity) :
    Prop :=
  ∃ pointer, createdIdentity registry system entity false = some pointer ∧
    ((registry.identities pointer).flags.spawnInProgress = true ∨
      (registry.identities pointer).flags.isAnonymousAllocation = true)

/-- The slot of the entity's index holds an instance under the entity's handle. -/
def Existed (registry : EntityRegistry Class) (system : Nat) (entity : KeelCs2EntityIdentity) :
    Prop :=
  ∃ chunk, registry.identityChunks system (entity.index.toNat / maxEntitiesInList) = some chunk ∧
    (registry.identities (chunk, entity.index.toNat % maxEntitiesInList)).instance'.isSome = true ∧
    (registry.identities (chunk, entity.index.toNat % maxEntitiesInList)).refEHandle =
      entity.source2Handle

section Slots

omit [DecidableEq Class]

variable {registry : EntityRegistry Class} {system instance' : Nat}
  {entity other : KeelCs2EntityIdentity}

theorem Registered.unique (h : Registered registry system instance' entity)
    (hother : Registered registry system instance' other) : entity = other := by
  obtain ⟨pointer, hpointer, hinstance⟩ := h
  obtain ⟨pointer', hpointer', hinstance'⟩ := hother
  obtain ⟨htaken, -, -⟩ := taken_of_createdIdentity hpointer
  obtain ⟨htaken', -, -⟩ := taken_of_createdIdentity hpointer'
  obtain ⟨held, hheld, hlink⟩ := htaken.linked
  obtain ⟨held', hheld', hlink'⟩ := htaken'.linked
  obtain rfl : held = instance' := Option.some.inj (hheld.symm.trans hinstance)
  obtain rfl : held' = held := Option.some.inj (hheld'.symm.trans hinstance')
  obtain rfl : pointer = pointer' := Option.some.inj (hlink.symm.trans hlink')
  have hindex : entity.index = other.index := htaken.carries.1.symm.trans htaken'.carries.1
  have hhandle : entity.source2Handle = other.source2Handle :=
    htaken.carries.2.symm.trans htaken'.carries.2
  cases entity
  cases other
  cases hindex
  cases hhandle
  rfl

theorem mem_holders : entity ∈ holders registry system instance' ↔
    ∃ chunkIndex < maxEntityLists, ∃ chunk, registry.identityChunks system chunkIndex = some chunk ∧
      ∃ offset < maxEntitiesInList,
        (registry.identities (chunk, offset)).instance' = some instance' ∧
        entity = ⟨(chunkIndex * maxEntitiesInList + offset : Nat),
          (registry.identities (chunk, offset)).refEHandle⟩ := by
  unfold holders
  simp only [List.mem_flatMap, List.mem_range]
  refine exists_congr fun chunkIndex => and_congr_right fun _ => ?_
  cases hchunk : registry.identityChunks system chunkIndex with
  | none => simp
  | some chunk =>
    simp only [List.mem_filterMap, List.mem_range, Option.some.injEq, exists_eq_left']
    refine exists_congr fun offset => and_congr_right fun _ => ?_
    split
    · next hholds => simp [hholds, eq_comm]
    · next hholds => simp [hholds]

theorem registered_of_holder (hholder : entity ∈ holders registry system instance')
    {pointer : IdentityPointer} (h : createdIdentity registry system entity false = some pointer) :
    (registry.identities pointer).instance' = some instance' := by
  obtain ⟨chunkIndex, hlist, chunk, hchunk, offset, hoffset, hinstance, rfl⟩ :=
    mem_holders.1 hholder
  obtain ⟨htaken, -, -⟩ := taken_of_createdIdentity h
  obtain ⟨hplace, hrest⟩ := htaken.place
  have hdiv : (chunkIndex * maxEntitiesInList + offset) / maxEntitiesInList = chunkIndex := by
    simp only [maxEntitiesInList] at hoffset ⊢
    omega
  have hmod : (chunkIndex * maxEntitiesInList + offset) % maxEntitiesInList = offset := by
    simp only [maxEntitiesInList] at hoffset ⊢
    omega
  rw [Int.toNat_natCast] at hplace hrest
  rw [hdiv, hchunk] at hplace
  rw [hmod] at hrest
  obtain ⟨pointerChunk, pointerOffset⟩ := pointer
  cases hplace
  cases hrest
  exact hinstance

theorem holder_index (hholder : entity ∈ holders registry system instance') :
    0 ≤ entity.index ∧ entity.index < (entityCapacity : Int) := by
  obtain ⟨chunkIndex, hlist, chunk, -, offset, hoffset, -, rfl⟩ := mem_holders.1 hholder
  simp only [maxEntitiesInList, maxEntityLists, entityCapacity] at hlist hoffset ⊢
  omega

/-- The slot of index 0 comes first. -/
theorem head?_holders {chunk : Nat} (hchunk : registry.identityChunks system 0 = some chunk)
    (hholds : (registry.identities (chunk, 0)).instance' = some instance') :
    (holders registry system instance').head? =
      some ⟨0, (registry.identities (chunk, 0)).refEHandle⟩ := by
  have hlists : List.range maxEntityLists = 0 :: (List.range 63).map Nat.succ :=
    List.range_succ_eq_map
  have hplaces : List.range maxEntitiesInList = 0 :: (List.range 511).map Nat.succ :=
    List.range_succ_eq_map
  unfold holders
  rw [hlists, hplaces, List.flatMap_cons, hchunk]
  dsimp only
  rw [List.filterMap_cons_some (by rw [if_pos hholds])]
  simp

theorem length_snapshot (registry : EntityRegistry Class) (system : Nat) :
    (snapshotEntityHandles registry system).length = entityCapacity := by
  unfold snapshotEntityHandles
  rw [List.length_map, List.length_range]

theorem snapshot_eq_iff (hindex : 0 ≤ entity.index ∧ entity.index < (entityCapacity : Int))
    (hhandle : entity.source2Handle ≠ invalidEHandleIndex) :
    (snapshotEntityHandles registry system)[entity.index.toNat]? = some entity.source2Handle ↔
      Existed registry system entity := by
  have hrange : entity.index.toNat < entityCapacity := by omega
  unfold snapshotEntityHandles Existed
  rw [List.getElem?_map, List.getElem?_range hrange, Option.map_some, Option.some.injEq]
  cases registry.identityChunks system (entity.index.toNat / maxEntitiesInList) with
  | none => simp [hhandle.symm]
  | some chunk =>
    simp only [Option.some.injEq, exists_eq_left']
    split
    · next hsome => simp [hsome]
    · next hnone => simp [hnone, hhandle.symm]

end Slots

/-! ## What the functions come to -/

omit [DecidableEq Class] in
theorem capture_eq (registry : EntityRegistry Class) (system instance' : Nat) :
    (captureCreatedEntity registry system instance' = (.notFound, ⟨0, 0⟩) ∧
      ∀ entity, (holders registry system instance').head? = some entity →
        createdIdentity registry system entity false = none) ∨
    ∃ entity pointer, captureCreatedEntity registry system instance' = (.ok, entity) ∧
      (holders registry system instance').head? = some entity ∧
      createdIdentity registry system entity false = some pointer := by
  unfold captureCreatedEntity
  cases hhead : (holders registry system instance').head? with
  | none => exact Or.inl ⟨rfl, fun _ heq => by cases heq⟩
  | some entity =>
    cases hpointer : createdIdentity registry system entity false with
    | none =>
      refine Or.inl ⟨by simp [hpointer], fun other heq => ?_⟩
      cases heq
      exact hpointer
    | some pointer => exact Or.inr ⟨entity, pointer, by simp [hpointer], rfl, hpointer⟩

/-- All of the engine's functions have been found. -/
def KeelCs2EntityConstructionBindings.found (bindings : KeelCs2EntityConstructionBindings World) :
    Prop :=
  bindings.create.isSome = true ∧ bindings.spawn.isSome = true ∧ bindings.remove.isSome = true

theorem found_of_createEntity {className : Option Text} {after : World} {instance' : Option Nat}
    (h : createEntity bindings className world = (after, .ok, instance')) : bindings.found := by
  unfold createEntity at h
  split at h
  · next hcreate hspawn hremove _ => exact ⟨by simp [*], by simp [*], by simp [*]⟩
  · cases h

theorem createEntity_ne_none (bindings : KeelCs2EntityConstructionBindings World)
    (className : Option Text) (world after : World) :
    createEntity bindings className world ≠ (after, .ok, none) := by
  unfold createEntity
  intro h
  split at h
  · split at h
    · cases h
    · split at h <;> cases h
  · cases h

omit [DecidableEq Class] in
theorem remove_invoked {registry : World → EntityRegistry Class} (hfound : bindings.found)
    {instance' : Nat} (hregistered : Registered (registry world) system instance' entity)
    (hguard : ¬Guarded (registry world) system entity) :
    (removeCreatedEntity registry system entity bindings world).invoked =
      some (world, instance') := by
  obtain ⟨pointer, hpointer, hinstance⟩ := hregistered
  have hspawning : ((registry world).identities pointer).flags.spawnInProgress = false := by
    rw [← Bool.not_eq_true]
    exact fun hflag => hguard ⟨pointer, hpointer, Or.inl hflag⟩
  have hanonymous : ((registry world).identities pointer).flags.isAnonymousAllocation = false := by
    rw [← Bool.not_eq_true]
    exact fun hflag => hguard ⟨pointer, hpointer, Or.inr hflag⟩
  obtain ⟨hcreate, hspawn, hremove⟩ := hfound
  obtain ⟨create, hcreate⟩ := Option.isSome_iff_exists.1 hcreate
  obtain ⟨spawn, hspawn⟩ := Option.isSome_iff_exists.1 hspawn
  obtain ⟨remove, hremove⟩ := Option.isSome_iff_exists.1 hremove
  unfold removeCreatedEntity
  simp only [hcreate, hspawn, hremove, hpointer, hspawning, hanonymous, hinstance,
    Bool.false_eq_true, if_false]
  split <;> rfl

omit [DecidableEq Class] in
theorem registered_of_removed {registry : World → EntityRegistry Class} {called : World}
    {instance' : Nat}
    (h : (removeCreatedEntity registry system entity bindings world).invoked = some (called,
      instance')) : called = world ∧ Registered (registry world) system instance' entity := by
  unfold removeCreatedEntity at h
  split at h
  · split at h
    · cases h
    · next pointer hpointer =>
      dsimp only at h
      split at h
      · cases h
      · split at h
        · cases h
        · split at h
          · cases h
          · next held hheld =>
            split at h
            all_goals
              cases h
              exact ⟨rfl, pointer, hpointer, hheld⟩
  · cases h

end KeelS2.Cs2.Native
