import KeelS2.Cs2.CreatedEntities

/-!
# The native construction backend

`Create`, `Spawn` and `Cancel` of `NativeConstructionBackend`. Behind every call of the engine the
entity system and the slot are looked up again, and each lookup may end the operation: what it ends
with for the entity that the engine has made is `nativeConstruction_iff`.
-/

namespace KeelS2.Cs2.Native

variable {World Class : Type*}

structure GameEntityIdentity where
  native : KeelCs2EntityIdentity
  epoch : Nat
  deriving DecidableEq, Repr

def GameEntityIdentity.none : GameEntityIdentity := ⟨⟨0, 0⟩, 0⟩

/-- `ConstructionEnvironment`, and what is read of a world. `Current` and `Bindings` do not call the
engine; `ResolveBase` may, and may throw. -/
structure ConstructionEnvironment (World Class : Type*) where
  registry : World → EntityRegistry Class
  classes : World → Class → CSchemaClassInfo Class
  instanceSize : Nat
  resolveBase : World → World × Except Unit (KeelResult × Option Class)
  current : World → Nat → KeelResult × Option Nat × Nat
  bindings : World → KeelCs2EntityConstructionBindings World

/-- What an operation has done: its result, if it does not throw, what it puts out and the call of
the engine's remove function. -/
structure Operated (World : Type*) where
  world : World
  result : Except Unit KeelResult
  output : GameEntityIdentity
  removed : Option (World × Nat)

/-- An operation that ends here, and has neither made nor removed anything. -/
def Operated.ends (world : World) (result : KeelResult) : Operated World :=
  ⟨world, .ok result, .none, none⟩

variable [DecidableEq Class] (environment : ConstructionEnvironment World Class)

def current (world : World) (entity : GameEntityIdentity) : KeelResult × Option Nat :=
  if entity.epoch = 0 then (.notFound, none)
  else
    let (result, system, epoch) := environment.current world entity.epoch
    if result ≠ .ok then (result, system)
    else if system.isSome ∧ epoch = entity.epoch then (.ok, system)
    else (.notFound, system)

/-- `Create` from where the engine has returned an instance; `before` are the handles that had been
there, and `base` is the class that the entity must have. -/
def createdBy (system epoch : Nat) (before : List Nat) (base : Option Class)
    (bindings : KeelCs2EntityConstructionBindings World) (instance' : Nat) (world : World) :
    Operated World :=
  let (result, current, currentEpoch) := environment.current world epoch
  if result ≠ .ok ∨ current ≠ some system ∨ currentEpoch ≠ epoch then
    .ends world (if result = .ok then .notFound else result)
  else
    let (result, native) := captureCreatedEntity (environment.registry world) system instance'
    if result ≠ .ok then .ends world result
    else if native.index < 0 ∨ (before.length : Int) ≤ native.index then .ends world .incompatible
    else if before[native.index.toNat]? = some native.source2Handle then
      .ends world .alreadyExists
    else
      let result := validateCreatedEntity (environment.classes world) environment.instanceSize
        (environment.registry world) system native base true
      if result ≠ .ok then
        let removed := removeCreatedEntity environment.registry system native bindings world
        ⟨removed.world, .ok result, .none, removed.invoked⟩
      else ⟨world, .ok .ok, ⟨native, epoch⟩, none⟩

/-- `Create` behind `ResolveBase`. -/
def createWith (base : Option Class) (name : Option Text) (world : World) : Operated World :=
  let (result, system, epoch) := environment.current world 0
  if result ≠ .ok then .ends world result
  else
    match system with
    | none => .ends world .notReady
    | some system =>
      if epoch = 0 then .ends world .notReady
      else
        let before := snapshotEntityHandles (environment.registry world) system
        let bindings := environment.bindings world
        match createEntity bindings name world with
        | (world, result, instance') =>
          if result ≠ .ok then .ends world result
          else
            match instance' with
            | none => .ends world result
            | some instance' =>
              createdBy environment system epoch before base bindings instance' world

def create (name : Option Text) (world : World) : Operated World :=
  match environment.resolveBase world with
  | (world, .error _) => ⟨world, .error (), .none, none⟩
  | (world, .ok (result, base)) =>
    if result ≠ .ok then .ends world result
    else createWith environment base name world

/-- `Spawn` from where the engine's function has been called. -/
def spawnedBy (system : Nat) (entity : GameEntityIdentity)
    (bindings : KeelCs2EntityConstructionBindings World) (result : KeelResult) (world : World) :
    Operated World :=
  let (ready, current) := current environment world entity
  if ready ≠ .ok ∨ current ≠ some system then
    .ends world (if result ≠ .ok then result else if ready = .ok then .notFound else ready)
  else
    let completed :=
      finishCreatedSpawn environment.registry system entity.native bindings world
    ⟨completed.world, .ok (if result = .ok then completed.result else result), .none,
      completed.invoked⟩

def spawn (entity : GameEntityIdentity) (world : World) : Operated World :=
  match environment.resolveBase world with
  | (world, .error _) => ⟨world, .error (), .none, none⟩
  | (world, .ok (result, base)) =>
    if result ≠ .ok then .ends world result
    else
      let (result, system) := current environment world entity
      if result ≠ .ok then .ends world result
      else
        match system with
        | none => .ends world .notFound
        | some system =>
          let bindings := environment.bindings world
          let spawned := spawnCreatedEntity (environment.classes world) environment.instanceSize
            environment.registry system entity.native base bindings world
          if spawned.invoked.isNone then .ends spawned.world spawned.result
          else spawnedBy environment system entity bindings spawned.result spawned.world

def cancel (entity : GameEntityIdentity) (world : World) : Operated World :=
  let (result, system) := current environment world entity
  if result ≠ .ok then .ends world result
  else
    match system with
    | none => .ends world .notFound
    | some system =>
      let result := validatePendingEntity (environment.registry world) system entity.native
      if result ≠ .ok then .ends world result
      else
        let removed := removeCreatedEntity environment.registry system entity.native
          (environment.bindings world) world
        ⟨removed.world, .ok removed.result, .none, removed.invoked⟩

/-! ## Create -/

/-- The engine's create function has returned an instance: in the world before it the entity system
was there, and epoch and system are in the world after it as they were. -/
structure Returned (name : Option Text) (world : World) (base : Option Class) (before after : World)
    (system epoch instance' : Nat) : Prop where
  resolved : environment.resolveBase world = (before, .ok (.ok, base))
  current : environment.current before 0 = (.ok, some system, epoch)
  epoch_ne : epoch ≠ 0
  created : createEntity (environment.bindings before) name before = (after, .ok, some instance')
  unchanged : environment.current after epoch = (.ok, some system, epoch)

variable {environment}

variable {world : World} {system instance' : Nat} {base : Option Class}
  {registry : World → EntityRegistry Class} {entity : KeelCs2EntityIdentity}
  {bindings : KeelCs2EntityConstructionBindings World}

theorem create_of_returned {name : Option Text} {before after : World} {epoch : Nat}
    (h : Returned environment name world base before after system epoch instance') :
    create environment name world =
      createdBy environment system epoch
        (snapshotEntityHandles (environment.registry before) system)
        base (environment.bindings before) instance' after := by
  unfold create
  rw [h.resolved]
  simp only [ne_eq, not_true_eq_false, if_false]
  unfold createWith
  rw [h.current]
  simp only [ne_eq, not_true_eq_false, if_false, h.epoch_ne, h.created]

/-- An operation that ends has neither succeeded nor removed anything. -/
structure Operated.Idle (operated : Operated World) : Prop where
  failed : operated.result ≠ .ok .ok
  removed : operated.removed = none

theorem idle_ends (world : World) {result : KeelResult} (h : result ≠ .ok) :
    (Operated.ends world result).Idle :=
  ⟨fun heq => h (Except.ok.inj heq), rfl⟩

/-- `Create` has ended before anything was made, or the engine has returned an instance. -/
theorem create_cases (environment : ConstructionEnvironment World Class) (name : Option Text)
    (world : World) : (create environment name world).Idle ∨
      ∃ base before after system epoch instance',
        Returned environment name world base before after system epoch instance' := by
  unfold create
  split
  · exact Or.inl ⟨(fun heq => by cases heq), rfl⟩
  · next before result base hresolved =>
    split
    · next hresult => exact Or.inl (idle_ends _ hresult)
    · next hresult =>
      rw [ne_eq, not_not] at hresult
      subst hresult
      unfold createWith
      rcases hcurrent : environment.current before 0 with ⟨result, system, epoch⟩
      dsimp only
      split
      · next hresult => exact Or.inl (idle_ends _ hresult)
      · next hresult =>
        rw [ne_eq, not_not] at hresult
        subst hresult
        split
        · exact Or.inl (idle_ends _ (fun heq => by cases heq))
        · next system =>
          split
          · exact Or.inl (idle_ends _ (fun heq => by cases heq))
          · next hepoch =>
            rcases hcreated : createEntity (environment.bindings before) name before with
              ⟨after, result, instance'⟩
            dsimp only
            split
            · next hresult => exact Or.inl (idle_ends _ hresult)
            · next hresult =>
              rw [ne_eq, not_not] at hresult
              subst hresult
              split
              · next hnone => exact absurd hcreated (createEntity_ne_none _ _ _ _)
              · next instance' =>
                by_cases hunchanged : environment.current after epoch = (.ok, some system, epoch)
                · exact Or.inr ⟨base, before, after, system, epoch, instance',
                    hresolved, hcurrent, hepoch, hcreated, hunchanged⟩
                · left
                  unfold createdBy
                  rcases hagain : environment.current after epoch with ⟨result, now, epoch'⟩
                  rw [hagain] at hunchanged
                  have hchanged : result ≠ .ok ∨ now ≠ some system ∨ epoch' ≠ epoch := by
                    by_contra hcontra
                    simp only [ne_eq, not_or, not_not] at hcontra
                    obtain ⟨rfl, rfl, rfl⟩ := hcontra
                    exact hunchanged rfl
                  dsimp only
                  rw [if_pos hchanged]
                  refine idle_ends _ ?_
                  split
                  · intro heq
                    cases heq
                  · next hresult => exact hresult

/-- What `Create` comes to behind an instance: no slot is captured; what is captured had been there;
it is refused and handed to the removal; or it is put out. -/
theorem create_outcome {name : Option Text} {before after : World} {epoch : Nat}
    (h : Returned environment name world base before after system epoch instance') :
    (create environment name world = .ends after .notFound ∧
      ∀ entity, (holders (environment.registry after) system instance').head? = some entity →
        createdIdentity (environment.registry after) system entity false = none) ∨
    ∃ entity, (holders (environment.registry after) system instance').head? = some entity ∧
      Registered (environment.registry after) system instance' entity ∧
      ((Existed (environment.registry before) system entity ∧
          create environment name world = .ends after .alreadyExists) ∨
        (¬Existed (environment.registry before) system entity ∧ ∃ result, result ≠ .ok ∧
          create environment name world =
            let removed := removeCreatedEntity environment.registry system entity
              (environment.bindings before) after
            ⟨removed.world, .ok result, .none, removed.invoked⟩) ∨
        (¬Existed (environment.registry before) system entity ∧
          create environment name world = ⟨after, .ok .ok, ⟨entity, epoch⟩, none⟩ ∧
          (createdIdentity (environment.registry after) system entity true).isSome = true)) := by
  rw [create_of_returned h]
  unfold createdBy
  rw [h.unchanged]
  simp only [ne_eq, not_true_eq_false, or_self, if_false]
  rcases capture_eq (environment.registry after) system instance' with
    ⟨hcapture, hstale⟩ | ⟨entity, pointer, hcapture, hhead, hpointer⟩
  · rw [hcapture]
    exact Or.inl ⟨rfl, hstale⟩
  · rw [hcapture]
    have hholder := List.mem_of_head? hhead
    obtain ⟨hlower, hupper⟩ := holder_index hholder
    obtain ⟨htaken, -, -⟩ := taken_of_createdIdentity hpointer
    have hexisted := @snapshot_eq_iff _ (environment.registry before) system entity
      ⟨hlower, hupper⟩ htaken.handle
    refine Or.inr ⟨entity, hhead, ⟨pointer, hpointer, registered_of_holder hholder hpointer⟩, ?_⟩
    simp only [not_true_eq_false, if_false, length_snapshot]
    rw [if_neg (by simp only [not_or, Int.not_lt, Int.not_le]; exact ⟨hlower, hupper⟩)]
    by_cases hold : Existed (environment.registry before) system entity
    · rw [if_pos (hexisted.2 hold)]
      exact Or.inl ⟨hold, rfl⟩
    · rw [if_neg fun heq => hold (hexisted.1 heq)]
      split
      · next hresult => exact Or.inr (Or.inl ⟨hold, _, hresult, rfl⟩)
      · next hresult =>
        rw [not_not] at hresult
        refine Or.inr (Or.inr ⟨hold, rfl, ?_⟩)
        -- A slot that is not there is not valid.
        by_contra hnone
        rw [Option.not_isSome_iff_eq_none] at hnone
        unfold validateCreatedEntity at hresult
        split at hresult
        · cases hresult
        · rw [hnone] at hresult
          cases hresult

/-! ## The law -/

variable (environment)

/-- What is asked of `Create`: it puts out an entity that had not been there and is before its
spawn, or fails; then, if the engine had returned an instance, it had been there already, it has
been handed to the removal, it is registered nowhere, or the removal's guard refuses it. -/
structure CreateLaw (name : Option Text) (world : World) : Prop where
  fresh : (create environment name world).result = .ok .ok →
    ∃ base before after system epoch instance' entity,
      Returned environment name world base before after system epoch instance' ∧
      create environment name world = ⟨after, .ok .ok, ⟨entity, epoch⟩, none⟩ ∧
      ¬Existed (environment.registry before) system entity ∧
      Registered (environment.registry after) system instance' entity ∧
      (createdIdentity (environment.registry after) system entity true).isSome = true
  owned : ∀ base before after system epoch instance',
    Returned environment name world base before after system epoch instance' →
    (create environment name world).result ≠ .ok .ok →
    ((create environment name world).result = .ok .alreadyExists ∧
      ∃ entity, Registered (environment.registry after) system instance' entity ∧
        Existed (environment.registry before) system entity) ∨
    (create environment name world).removed = some (after, instance') ∨
    (∀ entity, ¬Registered (environment.registry after) system instance' entity) ∨
    ∃ entity, Registered (environment.registry after) system instance' entity ∧
      Guarded (environment.registry after) system entity

/-- `Spawn` is OK only if the entity is neither before its spawn nor being spawned. -/
def SpawnLaw (entity : GameEntityIdentity) (world : World) : Prop :=
  (spawn environment entity world).result = .ok .ok →
    ∃ system pointer,
      environment.current (spawn environment entity world).world entity.epoch =
        (.ok, some system, entity.epoch) ∧
      createdIdentity (environment.registry (spawn environment entity world).world) system
        entity.native false = some pointer ∧
      ((environment.registry (spawn environment entity world).world).identities
        pointer).flags.isPreSpawn = false ∧
      ((environment.registry (spawn environment entity world).world).identities
        pointer).flags.spawnInProgress = false

/-- What an operation has removed was registered, in the system of the epoch, in the slot of an
identity that the operation may remove. -/
def RemovesOnly (operated : Operated World) (mayRemove : GameEntityIdentity → Prop) : Prop :=
  ∀ called instance', operated.removed = some (called, instance') →
    ∃ entity system, mayRemove entity ∧
      environment.current called entity.epoch = (.ok, some system, entity.epoch) ∧
      Registered (environment.registry called) system instance' entity.native

/-- An identity that was not there when the engine's create function was called. -/
def NewIdentity (name : Option Text) (world : World) (entity : GameEntityIdentity) : Prop :=
  ∃ base before after system instance',
    Returned environment name world base before after system entity.epoch instance' ∧
    ¬Existed (environment.registry before) system entity.native

/-- Nothing is leaked and nothing is removed wrongly. -/
structure ConstructionLaw (name : Option Text) (entity : GameEntityIdentity) (world : World) :
    Prop where
  creates : CreateLaw environment name world
  spawns : SpawnLaw environment entity world
  createRemoves : RemovesOnly environment (create environment name world)
    (NewIdentity environment name world)
  spawnRemoves : RemovesOnly environment (spawn environment entity world) (· = entity)
  cancelRemoves : RemovesOnly environment (cancel environment entity world) (· = entity)

/-- The engine leaves no slot that holds the instance before the one in which it is registered,
unless that one is refused by the guard of the removal. -/
def FirstSlot (name : Option Text) (world : World) : Prop :=
  ∀ base before after system epoch instance',
    Returned environment name world base before after system epoch instance' →
    ∀ entity, Registered (environment.registry after) system instance' entity →
      (holders (environment.registry after) system instance').head? = some entity ∨
        Guarded (environment.registry after) system entity

variable {environment}

omit [DecidableEq Class] in
theorem current_eq_ok {entity : GameEntityIdentity}
    (h : current environment world entity = (.ok, some system)) :
    environment.current world entity.epoch = (.ok, some system, entity.epoch) := by
  unfold current at h
  split at h
  · cases h
  · rcases hcurrent : environment.current world entity.epoch with ⟨result, found, epoch⟩
    rw [hcurrent] at h
    dsimp only at h
    split at h
    · next hresult =>
      cases h
      exact absurd rfl hresult
    · next hresult =>
      rw [ne_eq, not_not] at hresult
      split at h
      · next hready =>
        cases h
        rw [hresult, hready.2]
      · cases h

theorem createLaw_iff (name : Option Text) (world : World) :
    CreateLaw environment name world ↔ FirstSlot environment name world := by
  constructor
  · intro hlaw base before after system epoch instance' hreturned entity hregistered
    rcases create_outcome hreturned with ⟨hends, hstale⟩ | ⟨held, hhead, hheld, -⟩
    · -- The slot that decides is none of an entity: nothing has been done for the instance.
      have howned := hlaw.owned base before after system epoch instance' hreturned
      rw [hends] at howned
      rcases howned (fun heq => by cases heq) with ⟨hresult, -⟩ | hremoved | hnone | hguard
      · cases hresult
      · cases hremoved
      · exact absurd hregistered (hnone entity)
      · obtain ⟨other, hother, hguarded⟩ := hguard
        exact Or.inr (hregistered.unique hother ▸ hguarded)
    · exact Or.inl (hheld.unique hregistered ▸ hhead)
  · intro hfirst
    refine ⟨fun hok => ?_, ?_⟩
    · rcases create_cases environment name world with
        hidle | ⟨base, before, after, system, epoch, instance', hreturned⟩
      · exact absurd hok hidle.failed
      · rcases create_outcome hreturned with ⟨hends, -⟩ | ⟨entity, -, hregistered, hdone⟩
        · rw [hends] at hok
          cases hok
        · rcases hdone with ⟨-, hends⟩ | ⟨-, result, hresult, hends⟩ | ⟨hnew, hdone, hpending⟩
          · rw [hends] at hok
            cases hok
          · rw [hends] at hok
            exact absurd (Except.ok.inj hok) hresult
          · exact ⟨base, before, after, system, epoch, instance', entity, hreturned, hdone, hnew,
              hregistered, hpending⟩
    · intro base before after system epoch instance' hreturned hfailed
      rcases create_outcome hreturned with ⟨hends, hstale⟩ | ⟨entity, hhead, hregistered, hdone⟩
      · right; right
        by_cases hlive : ∃ entity,
            Registered (environment.registry after) system instance' entity
        · obtain ⟨entity, hregistered⟩ := hlive
          rcases hfirst base before after system epoch instance' hreturned entity hregistered with
            hhead | hguarded
          · obtain ⟨pointer, hpointer, -⟩ := hregistered
            rw [hstale entity hhead] at hpointer
            cases hpointer
          · exact Or.inr ⟨entity, hregistered, hguarded⟩
        · exact Or.inl fun entity hregistered => hlive ⟨entity, hregistered⟩
      · rcases hdone with ⟨hold, hends⟩ | ⟨-, result, -, hends⟩ | ⟨-, hdone, -⟩
        · left
          rw [hends]
          exact ⟨rfl, entity, hregistered, hold⟩
        · right
          by_cases hguarded : Guarded (environment.registry after) system entity
          · exact Or.inr (Or.inr ⟨entity, hregistered, hguarded⟩)
          · left
            rw [hends]
            exact remove_invoked (found_of_createEntity hreturned.created) hregistered hguarded
        · rw [hdone] at hfailed
          exact absurd rfl hfailed

theorem create_removes (name : Option Text) (world : World) :
    RemovesOnly environment (create environment name world)
      (NewIdentity environment name world) := by
  intro called instance' hremoved
  rcases create_cases environment name world with
    hidle | ⟨base, before, after, system, epoch, held, hreturned⟩
  · rw [hidle.removed] at hremoved
    cases hremoved
  · rcases create_outcome hreturned with ⟨hends, -⟩ | ⟨entity, -, -, hdone⟩
    · rw [hends] at hremoved
      cases hremoved
    · rcases hdone with ⟨-, hends⟩ | ⟨hnew, result, -, hends⟩ | ⟨-, hdone, -⟩
      · rw [hends] at hremoved
        cases hremoved
      · rw [hends] at hremoved
        obtain ⟨rfl, hregistered⟩ := registered_of_removed hremoved
        exact ⟨⟨entity, epoch⟩, system, ⟨base, before, called, system, held, hreturned, hnew⟩,
          hreturned.unchanged, hregistered⟩
      · rw [hdone] at hremoved
        cases hremoved

/-- A spawn that is not invoked has failed. -/
theorem spawn_not_invoked {classes : Class → CSchemaClassInfo Class} {instanceSize : Nat}
    (h : (spawnCreatedEntity classes instanceSize registry system entity base bindings
      world).invoked = none) :
    (spawnCreatedEntity classes instanceSize registry system entity base bindings
      world).result ≠ .ok := by
  unfold spawnCreatedEntity at h ⊢
  split at h
  · dsimp only at h ⊢
    split at h
    · next hresult =>
      rw [if_pos hresult]
      exact hresult
    · next hresult =>
      rw [if_neg hresult]
      split at h
      · exact fun heq => by cases heq
      · split at h <;> cases h
  · exact fun heq => by cases heq

omit [DecidableEq Class] in
theorem finish_ok (h : (finishCreatedSpawn registry system entity bindings world).result = .ok) :
    (finishCreatedSpawn registry system entity bindings world).world = world ∧
      ∃ pointer, createdIdentity (registry world) system entity false = some pointer ∧
        ((registry world).identities pointer).flags.isPreSpawn = false ∧
        ((registry world).identities pointer).flags.spawnInProgress = false := by
  unfold finishCreatedSpawn at h ⊢
  split at h
  · split at h
    · cases h
    · next pointer hpointer =>
      dsimp only at h
      split at h
      · cases h
      · next hspawning =>
        rw [if_neg hspawning]
        split at h
        · next hspawned =>
          rw [if_pos hspawned]
          exact ⟨rfl, pointer, hpointer, by simpa using hspawned, by simpa using hspawning⟩
        · split at h
          · cases h
          · split at h
            · cases h
            · next hfailed => exact absurd h hfailed
  · cases h

omit [DecidableEq Class] in
theorem registered_of_finished {called : World}
    (h : (finishCreatedSpawn registry system entity bindings world).invoked = some (called,
      instance')) : called = world ∧ Registered (registry world) system instance' entity := by
  unfold finishCreatedSpawn at h
  split at h
  · split at h
    · cases h
    · dsimp only at h
      split at h
      · cases h
      · split at h
        · cases h
        · split at h
          · cases h
          · split at h <;> exact registered_of_removed h
  · cases h

/-- What `Spawn` comes to: it ends without success, or it finishes the spawn in the system of the
entity's epoch. -/
theorem spawn_cases (environment : ConstructionEnvironment World Class)
    (entity : GameEntityIdentity) (world : World) :
    (spawn environment entity world).Idle ∨
      ∃ system bindings after result,
        environment.current after entity.epoch = (.ok, some system, entity.epoch) ∧
        spawn environment entity world =
          let completed := finishCreatedSpawn environment.registry system entity.native
            bindings after
          ⟨completed.world, .ok (if result = .ok then completed.result else result), .none,
            completed.invoked⟩ := by
  unfold spawn
  split
  · exact Or.inl ⟨(fun heq => by cases heq), rfl⟩
  · next before result base hresolved =>
    split
    · next hresult => exact Or.inl (idle_ends _ hresult)
    · rcases hcurrent : current environment before entity with ⟨result, system⟩
      dsimp only
      split
      · next hresult => exact Or.inl (idle_ends _ hresult)
      · split
        · exact Or.inl (idle_ends _ (fun heq => by cases heq))
        · next system =>
          split
          · next hnone =>
            rw [Option.isNone_iff_eq_none] at hnone
            exact Or.inl (idle_ends _ (spawn_not_invoked hnone))
          · unfold spawnedBy
            dsimp only
            split
            · next hgone =>
              refine Or.inl (idle_ends _ ?_)
              split
              · next hresult => exact hresult
              · split
                · exact fun heq => by cases heq
                · next hready => exact hready
            · next hready =>
              simp only [ne_eq, not_or, not_not] at hready
              exact Or.inr ⟨system, _, _, _, current_eq_ok (Prod.ext hready.1 hready.2), rfl⟩

theorem spawnLaw (entity : GameEntityIdentity) (world : World) :
    SpawnLaw environment entity world := by
  intro hok
  rcases spawn_cases environment entity world with
    hidle | ⟨system, bindings, after, result, hcurrent, hdone⟩
  · exact absurd hok hidle.failed
  · rw [hdone] at hok ⊢
    have hresult := Except.ok.inj hok
    split at hresult
    · obtain ⟨hworld, pointer, hpointer, hspawned, hspawning⟩ := finish_ok hresult
      dsimp only
      rw [hworld]
      exact ⟨system, pointer, hcurrent, hpointer, hspawned, hspawning⟩
    · next hfailed => exact absurd hresult hfailed

theorem spawn_removes (entity : GameEntityIdentity) (world : World) :
    RemovesOnly environment (spawn environment entity world) (· = entity) := by
  intro called instance' hremoved
  rcases spawn_cases environment entity world with
    hidle | ⟨system, bindings, after, result, hcurrent, hdone⟩
  · rw [hidle.removed] at hremoved
    cases hremoved
  · rw [hdone] at hremoved
    obtain ⟨rfl, hregistered⟩ := registered_of_finished hremoved
    exact ⟨entity, system, rfl, hcurrent, hregistered⟩

omit [DecidableEq Class] in
theorem cancel_removes (entity : GameEntityIdentity) (world : World) :
    RemovesOnly environment (cancel environment entity world) (· = entity) := by
  intro called instance' hremoved
  unfold cancel at hremoved
  rcases hcurrent : current environment world entity with ⟨result, system⟩
  rw [hcurrent] at hremoved
  dsimp only at hremoved
  split at hremoved
  · cases hremoved
  · next hresult =>
    rw [ne_eq, not_not] at hresult
    split at hremoved
    · cases hremoved
    · next system =>
      split at hremoved
      · cases hremoved
      · obtain ⟨rfl, hregistered⟩ := registered_of_removed hremoved
        rw [hresult] at hcurrent
        exact ⟨entity, system, rfl, current_eq_ok hcurrent, hregistered⟩

/-- Nothing is leaked and nothing is removed wrongly, whatever the engine does, if and only if the
engine leaves no slot with the new instance before the one in which it is registered. -/
theorem nativeConstruction_iff (environment : ConstructionEnvironment World Class)
    (name : Option Text) (entity : GameEntityIdentity) (world : World) :
    ConstructionLaw environment name entity world ↔ FirstSlot environment name world :=
  ⟨fun h => (createLaw_iff name world).1 h.creates,
    fun h => ⟨(createLaw_iff name world).2 h, spawnLaw entity world, create_removes name world,
      spawn_removes entity world, cancel_removes entity world⟩⟩

/-! ## A slot that was left -/

/-- Slot 0 still has the instance that is being deleted; the new entity, at the same address, is
in slot 1. -/
def leftSlot (offset : Nat) : CEntityIdentity Unit where
  entityIndex := offset
  refEHandle := if offset = 0 then 7 else 9
  instance' := if offset < 2 then some 8 else none
  class' := some (some ())
  flags := ⟨false, offset == 0, false, offset == 1, false, false, false⟩

/-- The worlds before and behind the engine's create function. -/
def leavingEngine : ConstructionEnvironment Bool Unit where
  registry created :=
    { identityChunks := fun _ chunk => if chunk = 0 then some 0 else none
      identities := fun pointer =>
        if created then leftSlot pointer.2 else { leftSlot pointer.2 with instance' := none }
      backLink := fun _ => some (0, 1)
      entryIndex := fun handle => if handle = 9 then 1 else 0 }
  classes _ _ := ⟨some baseEntityName, 64, 8, ⟨0, none⟩, ⟨0, none⟩⟩
  instanceSize := 48
  resolveBase world := (world, .ok (.ok, some ()))
  current _ _ := (.ok, some 0, 1)
  bindings _ :=
    { create := some fun _ _ => (true, .ok (some 8))
      spawn := some fun _ world => (world, .ok ())
      remove := some fun _ world => (world, .ok ()) }

theorem leavingEngine_returned :
    Returned leavingEngine (some ['p', 'r', 'o', 'p']) false (some ()) false true 0 1 8 :=
  ⟨rfl, rfl, by decide, rfl, rfl⟩

/-- The new entity is neither put out nor removed. -/
theorem leavingEngine_leaks :
    ¬ConstructionLaw leavingEngine (some ['p', 'r', 'o', 'p']) .none false := by
  intro hlaw
  have hlive : Registered (leavingEngine.registry true) 0 8 ⟨1, 9⟩ := ⟨(0, 1), rfl, rfl⟩
  have hhead := @head?_holders _ (leavingEngine.registry true) 0 8 0 rfl rfl
  have howned := hlaw.creates.owned _ _ _ _ _ _ leavingEngine_returned
  rcases create_outcome leavingEngine_returned with ⟨hends, -⟩ | ⟨entity, hfirst, hentity, -⟩
  · rw [hends] at howned
    rcases howned (fun heq => by cases heq) with ⟨hresult, -⟩ | hremoved | hnone | hguard
    · cases hresult
    · cases hremoved
    · exact hnone _ hlive
    · obtain ⟨other, hother, pointer, hpointer, hflags⟩ := hguard
      obtain rfl := hother.unique hlive
      have hslot : createdIdentity (leavingEngine.registry true) 0 ⟨1, 9⟩ false = some (0, 1) := rfl
      rw [hslot] at hpointer
      cases hpointer
      rcases hflags with hflag | hflag <;> cases hflag
  · obtain rfl := hentity.unique hlive
    rw [hhead] at hfirst
    cases hfirst

end KeelS2.Cs2.Native
