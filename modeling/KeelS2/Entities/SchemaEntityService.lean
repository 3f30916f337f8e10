import KeelS2.Entities.EntityOutputs
import KeelS2.Lib.Keyed
import KeelS2.Lib.Runs

/-!
# Entities, fields and constructions

A plugin has handles for the entities and the fields of the game. Behind an entity's handle is the
identity that the adapter gave for it; behind that of an entity which is still being constructed is
a token too, which the adapter knows the construction by. The plugin that constructs an entity owns
its construction, and others may observe it.

What calls the adapter runs under `state_mutex_`, so that what comes while the adapter is busy
comes on its thread: what is under way is one stack, and each of its frames waits for the adapter.
An entity's `index` is its 32 bits.
-/

namespace KeelS2.Entities.Schema

abbrev KeelEntityHandle := Nat
abbrev KeelSchemaFieldHandle := Nat

def constructionMaxPending : Nat := 64
def constructionMaxObservers : Nat := 256
def constructionMaxDepth : Nat := 8
def entityKeyMaxName : Nat := 127
def invalidSource2EntityHandle : Nat := 2 ^ 32 - 1
def schemaModuleServer : Nat := 1

def validIdentity (identity : GameEntityIdentity) : Bool :=
  identity.index < 2 ^ 31 && identity.epoch ≠ 0 &&
    identity.source2Handle ≠ invalidSource2EntityHandle

structure Construction where
  closed : Bool
  token : Nat
  owner : KeelPluginHandle
  initializing : Bool
  busy : Bool
  deriving DecidableEq, Repr

/-- `EntityRecord`, with its handle; a construction is a number. -/
structure EntityRecord where
  handle : Nat
  owner : KeelPluginHandle
  entity : GameEntityIdentity
  construction : Option Nat
  constructionOwner : Bool
  deriving DecidableEq, Repr

structure KeelSchemaFieldSpec where
  module' : Nat
  valueType : Nat
  className : Text
  fieldName : Text
  deriving DecidableEq, Repr

/-- What is read of a `GameSchemaField`. -/
structure GameSchemaField where
  module' : Nat
  valueType : Nat
  valueSize : Nat
  offset : Nat
  className : Text
  fieldName : Text
  deriving DecidableEq, Repr

/-- `FieldRecord`, with its handle. -/
structure FieldRecord where
  handle : Nat
  owner : KeelPluginHandle
  field : GameSchemaField
  deriving DecidableEq, Repr

/-- An adapter call on entities: what it is given of each, with the handle that is behind it. -/
abbrev EntityCall := List (Nat × GameEntityIdentity)

/-- What the adapter was called for. -/
inductive Frame
  /-- `ready`, for `ConstructionReady`. -/
  | ready
  /-- `ready`, for `CreateEntity`. -/
  | readyToCreate (plugin : KeelPluginHandle)
  /-- `describe`, in `PruneConstructions`, which has others to look at. -/
  | pruneDescribe (plugin : KeelPluginHandle) (state : Nat) (pending : List Nat)
  | pruneCancel (plugin : KeelPluginHandle) (token : Nat) (pending : List Nat)
  /-- `create`. -/
  | create (plugin : KeelPluginHandle) (handle : Nat) (state : Nat)
  /-- `cancel`, of what `CreateEntity` does not accept. -/
  | rejectCancel (token : Nat)
  | describeConstruction
  /-- `set` or `teleport`, or `spawn`. -/
  | changeConstruction (state token : Nat) (spawns : Bool)
  /-- `describe`, in `ObserveConstruction`, for this record's construction. -/
  | observeConstruction (plugin : KeelPluginHandle) (original : EntityRecord) (state token : Nat)
  | visitConstruction
  /-- `cancel`, in `ReleaseEntity`. -/
  | releaseCancel (token : Nat)
  /-- `cancel`, in `ReleasePlugin`, which has others to cancel. -/
  | pluginCancel (token : Nat) (pending : List Nat)
  | shutdownCancel (token : Nat) (pending : List Nat) (complete : Bool)
  /-- `FindEntityByIndex` or `FindEntityBySource2Handle`. -/
  | findEntity (plugin : KeelPluginHandle)
  | captureEntity (plugin : KeelPluginHandle)
  /-- `ValidateEntity`, in `CaptureEntity`. -/
  | validateCaptured (plugin : KeelPluginHandle) (identity : GameEntityIdentity)
  | resolveField (plugin : KeelPluginHandle) (spec : KeelSchemaFieldSpec)
  /-- Something is done with entities, and these calls are still to come. -/
  | useEntities (plugin : KeelPluginHandle) (calls : List EntityCall)
  deriving DecidableEq, Repr

/-- What is told of. -/
inductive Event
  /-- The adapter has returned this token. -/
  | created (token : Nat)
  /-- It was called with it. -/
  | used (token : Nat)
  | spawned (token : Nat)
  | cancelling (token : Nat)
  | cancelled (token : Nat)
  | failed (token : Nat)
  /-- A `Shutdown` has returned. -/
  | stopped (complete : Bool)
  | cleared
  /-- A record was made for the plugin, of this handle. -/
  | allotted (plugin : KeelPluginHandle) (handle : Nat)
  /-- This identity is behind the handle. -/
  | recorded (handle : Nat) (identity : GameEntityIdentity)
  | released (handle : Nat)
  | releasedAll (plugin : KeelPluginHandle)
  /-- The adapter was called with the identity behind the plugin's handle. -/
  | called (plugin : KeelPluginHandle) (handle : Nat) (identity : GameEntityIdentity)
  /-- It was, once more in one operation. -/
  | again (plugin : KeelPluginHandle) (handle : Nat) (identity : GameEntityIdentity)
  /-- The adapter has resolved the field. -/
  | resolved (spec : KeelSchemaFieldSpec) (field : GameSchemaField)
  | fieldIssued (plugin : KeelPluginHandle) (handle : Nat) (spec : KeelSchemaFieldSpec)
    (field : GameSchemaField)
  deriving DecidableEq, Repr

/-- What the host says of the calling plugin. `ready` is `PluginReady`, but for the shutdown;
`held` that it is being changed, or that there is no room in its counter; `supported` that the
adapter has the interface. -/
structure Gate where
  ready : Bool
  held : Bool
  supported : Bool
  deriving DecidableEq, Repr

/-- What the adapter answers. -/
structure Reply where
  result : KeelResult
  token : Nat
  identity : GameEntityIdentity
  /-- What `spawn` leaves in its flag. -/
  dispatched : Nat
  field : GameSchemaField
  gate : Gate

structure SchemaEntityService where
  /-- The constructions there have been. -/
  constructions : Nat → Construction
  nextConstruction : Nat
  entities : List EntityRecord
  nextEntity : Nat
  fields : List FieldRecord
  nextField : Nat
  fieldCache : List (Text × GameSchemaField)
  compatibilityProfile : Text
  shuttingDown : Bool
  stack : List Frame
  history : List Event

namespace SchemaEntityService

def initial (profile : Text) : SchemaEntityService where
  constructions := fun _ => ⟨false, 0, 0, false, false⟩
  nextConstruction := 0
  entities := []
  nextEntity := 1
  fields := []
  nextField := 1
  fieldCache := []
  compatibilityProfile := profile
  shuttingDown := false
  stack := []
  history := []

variable (service : SchemaEntityService)

def tell (events : List Event) : SchemaEntityService :=
  { service with history := events ++ service.history }

def setStack (stack : List Frame) : SchemaEntityService :=
  { service with stack := stack }

def setConstruction (state : Nat) (construction : Construction) : SchemaEntityService :=
  { service with constructions := Function.update service.constructions state construction }

/-- The adapter is called. -/
def push (frame : Frame) (events : List Event) : SchemaEntityService :=
  (service.setStack (frame :: service.stack)).tell events

def find (handle : Nat) : Option EntityRecord :=
  service.entities.find? (·.handle == handle)

def pluginReady (gate : Gate) : Bool :=
  gate.ready && !service.shuttingDown

def entityAccessible (record : EntityRecord) (plugin : KeelPluginHandle) : Bool :=
  record.owner == plugin && match record.construction with
    | none => true
    | some state => !(service.constructions state).closed

/-- The plugin's record of this handle, where it is accessible. -/
def accessible (plugin : KeelPluginHandle) (handle : Nat) : Option EntityRecord :=
  (service.find handle).filter fun record => service.entityAccessible record plugin

/-- `ConstructionOperation` is on the stack for it. -/
def operates : Frame → Bool
  | .ready | .readyToCreate _ | .pruneDescribe _ _ _ | .pruneCancel _ _ _ | .create _ _ _
  | .rejectCancel _ | .describeConstruction | .changeConstruction _ _ _
  | .observeConstruction _ _ _ _ | .visitConstruction => true
  | _ => false

/-- A `ConstructionOperation` may begin. -/
def admits (gate : Gate) : Bool :=
  service.pluginReady gate && !gate.held &&
    service.stack.countP operates < constructionMaxDepth && gate.supported

/-! ## Handles -/

/-- A record is made, of the next handle. -/
def allot (plugin : KeelPluginHandle) (identity : GameEntityIdentity) (construction : Option Nat)
    (constructionOwner : Bool) : SchemaEntityService :=
  { service with
    entities := ⟨service.nextEntity, plugin, identity, construction, constructionOwner⟩ ::
      service.entities
    nextEntity := (service.nextEntity + 1) % 2 ^ 64
    history := .recorded service.nextEntity identity :: .allotted plugin service.nextEntity ::
      service.history }

def erase (handle : Nat) : SchemaEntityService :=
  { service with
    entities := service.entities.filter (·.handle ≠ handle)
    history := .released handle :: service.history }

/-- The last of `FindEntityByIndex`, `FindEntityBySource2Handle` and `CaptureEntity`. -/
def issue (plugin : KeelPluginHandle) (identity : GameEntityIdentity) : SchemaEntityService :=
  if service.shuttingDown || service.nextEntity = 0 then service
  else service.allot plugin identity none false

/-! ## Constructions -/

/-- The construction waits for the adapter, or has a token of it. -/
def unfinished (state : Nat) : Bool :=
  (service.constructions state).initializing || (service.constructions state).token ≠ 0

/-- Counted by `CreateEntity`. -/
def isPending (plugin : KeelPluginHandle) (record : EntityRecord) : Bool :=
  record.owner == plugin && record.constructionOwner && match record.construction with
    | none => false
    | some state => !(service.constructions state).closed && service.unfinished state

def close (state : Nat) : SchemaEntityService :=
  service.setConstruction state { service.constructions state with closed := true }

/-- What `CancelConstruction` does under the lock. -/
def take (state : Nat) : SchemaEntityService :=
  service.setConstruction state { service.constructions state with closed := true, token := 0 }

/-- `cancel` has returned. -/
def concluded (token : Nat) (reply : Reply) : SchemaEntityService :=
  service.tell [if reply.result = .ok ∨ reply.result = .notFound then .cancelled token
    else .failed token]

/-- `CancelConstruction`, with the frame that it calls the adapter in; `over` is what comes where
it does not. -/
def cancelConstruction (state : Nat) (frame : Nat → Frame)
    (isOver : SchemaEntityService → SchemaEntityService) : SchemaEntityService :=
  let token := (service.constructions state).token
  if token = 0 then isOver (service.take state)
  else (service.take state).push (frame token) [.cancelling token]

/-- `CreateEntity`, when it has pruned. -/
def beginCreate (plugin : KeelPluginHandle) : SchemaEntityService :=
  if constructionMaxPending ≤ service.entities.countP (service.isPending plugin) ∨
      service.nextEntity = 0 then service
  else
    let state := service.nextConstruction
    let made := { service.setConstruction state ⟨false, 0, plugin, true, false⟩ with
      nextConstruction := state + 1 }
    (made.allot plugin ⟨0, 0, 0⟩ (some state) true).push
    (.create plugin service.nextEntity state) []

/-- `PruneConstructions` goes on, and `CreateEntity` after it. -/
def prune (plugin : KeelPluginHandle) : List Nat → SchemaEntityService
  | [] => service.beginCreate plugin
  | state :: pending =>
    service.push (.pruneDescribe plugin state pending) [.used (service.constructions state).token]

/-- The constructions `PruneConstructions` looks at. -/
def pruned (plugin : KeelPluginHandle) : List Nat :=
  service.entities.filterMap fun record =>
    if record.owner = plugin && record.constructionOwner then
      record.construction.filter fun state =>
        (service.constructions state).token ≠ 0 && !(service.constructions state).initializing &&
          !(service.constructions state).busy
    else none

/-- `create` has returned. -/
def created (handle state : Nat) (reply : Reply) : SchemaEntityService :=
  let valid := reply.result = .ok && reply.token ≠ 0 && validIdentity reply.identity
  let finished := (service.setConstruction state
    { service.constructions state with token := reply.token, initializing := false }).tell
      (if reply.token = 0 then [] else [.created reply.token])
  if valid && !(service.constructions state).closed && service.pluginReady reply.gate &&
      (service.find handle).isSome then
    { finished with
      entities := finished.entities.map fun record =>
        if record.handle = handle then { record with entity := reply.identity } else record
      history := .recorded handle reply.identity :: finished.history }
  else
    let removed := if (service.find handle).isSome then finished.erase handle else finished
    removed.cancelConstruction state .rejectCancel id

/-- `describe` has returned in `ObserveConstruction`. -/
def observed (plugin : KeelPluginHandle) (original : EntityRecord) (state token : Nat)
    (reply : Reply) : SchemaEntityService :=
  if reply.result ≠ .ok ∨ original.entity ≠ reply.identity then service
  else if (service.constructions state).closed || (service.constructions state).token ≠ token ||
      !service.pluginReady reply.gate then service
  else if constructionMaxObservers ≤ service.entities.countP (fun record =>
      record.owner == plugin && record.construction.isSome && !record.constructionOwner) ∨
        service.nextEntity = 0 then service
  else service.allot plugin reply.identity (some state) false

/-- What `ObserveConstruction` may find. -/
def observable (source : Nat) (record : EntityRecord) : Bool :=
  record.constructionOwner && record.entity.source2Handle == source &&
    match record.construction with
    | none => false
    | some state =>
      let construction := service.constructions state
      !construction.initializing && construction.token ≠ 0 && !construction.closed

/-- The adapter is done with a `changeConstruction`. -/
def changed (state token : Nat) (spawns : Bool) (reply : Reply) : SchemaEntityService :=
  let construction := service.constructions state
  if spawns ∧ reply.dispatched ≠ 0 then
    (service.setConstruction state { construction with token := 0, busy := false }).tell
      [.spawned token]
  else service.setConstruction state { construction with busy := false }

/-! ## Releases -/

/-- The loop of `ReleasePlugin`. -/
def cancelPending (service : SchemaEntityService) : List Nat → SchemaEntityService
  | [] => service
  | state :: pending =>
    let token := (service.constructions state).token
    if token = 0 then (service.take state).cancelPending pending
    else (service.take state).push (.pluginCancel token pending) [.cancelling token]

/-- The loop of `Shutdown`. -/
def shutdownPending (service : SchemaEntityService) (complete : Bool) :
    List Nat → SchemaEntityService
  | [] => service.tell [.stopped complete]
  | state :: pending =>
    let token := (service.constructions state).token
    if token = 0 then (service.take state).shutdownPending complete pending
    else (service.take state).push (.shutdownCancel token pending complete) [.cancelling token]

/-- The construction that this record owns, where it is unfinished. -/
def owned (record : EntityRecord) : Option Nat :=
  if record.constructionOwner then record.construction.filter service.unfinished else none

def closeAll (service : SchemaEntityService) : List Nat → SchemaEntityService
  | [] => service
  | state :: pending => (service.close state).closeAll pending

/-- `gameThread` is that the caller is on the thread the constructions were made on. -/
def releaseEntity (plugin : KeelPluginHandle) (handle : Nat) (gameThread held : Bool) :
    SchemaEntityService :=
  match service.find handle with
  | none => service
  | some record =>
    if plugin = 0 ∨ handle = 0 ∨ record.owner ≠ plugin then service
    else match service.owned record with
      | none => service.erase handle
      | some state =>
        if !gameThread || held then service
        else ((service.close state).erase handle).cancelConstruction state .releaseCancel id

def releasePlugin (plugin : KeelPluginHandle) (gameThread held : Bool) : SchemaEntityService :=
  if plugin = 0 ∨ held then service
  else
    let pending := (service.entities.filter (·.owner == plugin)).filterMap service.owned
    if !gameThread && !pending.isEmpty then service
    else
      let closed := service.closeAll pending
      { closed with
        fields := closed.fields.filter (·.owner ≠ plugin)
        entities := closed.entities.filter (·.owner ≠ plugin)
        history := .releasedAll plugin :: closed.history }.cancelPending pending

/-- `outputsStopped` is what `StopOutputs` returns. -/
def shutdown (outputsStopped gameThread held : Bool) : SchemaEntityService :=
  if !outputsStopped then service.tell [.stopped false]
  else if service.shuttingDown then service.tell [.stopped true]
  else
    let pending := service.entities.filterMap service.owned
    if !pending.isEmpty && (!gameThread || held) then service.tell [.stopped false]
    else
      let closed := { service with shuttingDown := true }.closeAll pending
      { closed with
        fields := []
        entities := []
        fieldCache := []
        history := .cleared :: closed.history }.shutdownPending true pending

/-! ## Fields -/

def validSchemaName (name : Text) : Bool :=
  name.length ≠ 0 && name.length ≤ 255 && name.all fun character =>
    character.isAlpha || character.isDigit || character = '_' || character = ':'

def validSpec (spec : KeelSchemaFieldSpec) : Bool :=
  spec.module' = schemaModuleServer && 1 ≤ spec.valueType && spec.valueType ≤ 14 &&
    validSchemaName spec.className && validSchemaName spec.fieldName

def fieldCacheKey (profile : Text) (spec : KeelSchemaFieldSpec) : Text :=
  profile ++ '\x1f' :: (Nat.toDigits 10 spec.module' ++ '\x1f' :: (spec.className ++ '\x1f' ::
    (spec.fieldName ++ '\x1f' :: Nat.toDigits 10 spec.valueType)))

/-- The last of `ResolveField`. -/
def issueField (plugin : KeelPluginHandle) (spec : KeelSchemaFieldSpec) (field : GameSchemaField) :
    SchemaEntityService :=
  if service.shuttingDown || service.nextField = 0 then service
  else
    { service with
      fields := ⟨service.nextField, plugin, field⟩ :: service.fields
      nextField := (service.nextField + 1) % 2 ^ 64
      history := .fieldIssued plugin service.nextField spec field :: service.history }

def cached (spec : KeelSchemaFieldSpec) : Option GameSchemaField :=
  (service.fieldCache.find? (·.1 == fieldCacheKey service.compatibilityProfile spec)).map (·.2)

def resolveField (plugin : KeelPluginHandle) (spec : KeelSchemaFieldSpec) (gate : Gate) :
    SchemaEntityService :=
  if !validSpec spec || !service.pluginReady gate then service
  else match service.cached spec with
    | some field => service.issueField plugin spec field
    | none => service.push (.resolveField plugin spec) []

/-- The adapter has resolved a field. What another call has put into the cache meanwhile stays. -/
def fieldResolved (plugin : KeelPluginHandle) (spec : KeelSchemaFieldSpec) (reply : Reply) :
    SchemaEntityService :=
  if reply.result ≠ .ok ∨ service.shuttingDown then service
  else match service.cached spec with
    | some field => (service.tell [.resolved spec reply.field]).issueField plugin spec field
    | none =>
      ({ service with
        fieldCache := (fieldCacheKey service.compatibilityProfile spec, reply.field) ::
          service.fieldCache }.tell [.resolved spec reply.field]).issueField plugin spec reply.field

def releaseField (plugin : KeelPluginHandle) (field : Nat) : SchemaEntityService :=
  { service with
    fields := service.fields.filter fun record =>
      !(record.handle == field && record.owner == plugin && plugin ≠ 0) }

/-! ## What is done with entities -/

/-- The functions that look entities up by their handles. -/
inductive Use
  | describeEntity (entity : Nat)
  | equalEntity (left right : Nat)
  | readEntityField (entity field valueSize : Nat)
  | writeField (entity field : Nat) (accepts : GameSchemaField → Bool)
  | playerAction (entity : Nat)
  | managePlayer (entity : Nat)
  | accessPlayerStat (entity : Nat)
  | entityTool (entity : Nat)
  | visitEntities (entities : List Nat)
  | weaponMatches (pawn : Nat)
  | entityInput (target activator caller valueEntity : Nat)

/-- The handles that each of their adapter calls is given. -/
def Use.calls : Use → List (List Nat)
  | .describeEntity entity => [[entity]]
  | .equalEntity left right => [[left], [right]]
  | .readEntityField entity _ _ => [[entity]]
  | .writeField entity _ _ => [[entity], [entity]]
  | .playerAction entity => [[entity], [entity]]
  | .managePlayer entity => [[entity], [entity]]
  | .accessPlayerStat entity => [[entity], [entity]]
  | .entityTool entity => [[entity], [entity]]
  | .visitEntities entities => [entities]
  | .weaponMatches pawn => [[pawn]]
  | .entityInput target activator caller valueEntity =>
    [target :: [activator, caller, valueEntity].filter (· ≠ 0)]

/-- The field it is about, and whether that will do. -/
def fieldOf (plugin : KeelPluginHandle) : Use → Bool
  | .readEntityField _ field valueSize =>
    service.fields.any fun record => record.handle == field && record.owner == plugin &&
      record.field.valueSize == valueSize
  | .writeField _ field accepts =>
    service.fields.any fun record => record.handle == field && record.owner == plugin &&
      accepts record.field
  | _ => true

/-- `EntityInput` takes entities of one epoch. -/
def sameEpoch (call : EntityCall) : Use → Bool
  | .entityInput _ _ _ _ =>
    match call with
    | [] => true
    | (_, target) :: _ => call.all fun entry =>
      entry.2.epoch ≠ 0 && entry.2.epoch == target.epoch
  | _ => true

/-- The identities behind the plugin's handles, where all are accessible. -/
def identities (plugin : KeelPluginHandle) (handles : List Nat) : Option EntityCall :=
  handles.mapM fun handle =>
    (service.accessible plugin handle).map fun record => (handle, record.entity)

def useEntities (plugin : KeelPluginHandle) (use : Use) (gate : Gate) : SchemaEntityService :=
  if !service.pluginReady gate || gate.held || !service.fieldOf plugin use then service
  else match use.calls.mapM (service.identities plugin) with
    | some (call :: calls) =>
      if !sameEpoch call use then service
      else service.push (.useEntities plugin calls)
        (call.map fun entry => .called plugin entry.1 entry.2)
    | _ => service

/-- The adapter is done with one call of a use. -/
def usedEntities (plugin : KeelPluginHandle) (calls : List EntityCall) (reply : Reply) :
    SchemaEntityService :=
  match calls with
  | [] => service
  | call :: calls =>
    if reply.result ≠ .ok ∨ reply.gate.held then service
    else service.push (.useEntities plugin calls)
      (call.map fun entry => .again plugin entry.1 entry.2)

/-! ## Steps -/

/-- `CopyText` and what `CreateEntity` takes of it. -/
def validEntityName (name : Option Text) : Bool :=
  match name with
  | none => false
  | some characters =>
    let seen := characters.takeWhile (· ≠ '\x00')
    seen.length ≠ 0 && seen.length ≤ entityKeyMaxName && seen.all fun character =>
      character.isAlpha || character.isDigit || character = '_'

/-- A call of a plugin, or of the plugin manager. -/
inductive Op
  | constructionReady (gate : Gate)
  | createEntity (plugin : KeelPluginHandle) (name : Option Text) (gate : Gate)
  | describeConstruction (plugin : KeelPluginHandle) (entity : Nat) (gate : Gate)
  /-- `wellFormed` is that what is to be set will do. -/
  | changeConstruction (plugin : KeelPluginHandle) (entity : Nat) (wellFormed spawns : Bool)
    (gate : Gate)
  /-- `original` is the handle of the first record that is met. -/
  | observeConstruction (plugin : KeelPluginHandle) (source original : Nat) (gate : Gate)
  | visitConstruction (plugin : KeelPluginHandle) (entity : Nat) (gate : Gate)
  | releaseEntity (plugin : KeelPluginHandle) (entity : Nat) (held : Bool)
  | releasePlugin (plugin : KeelPluginHandle) (held : Bool)
  | shutdown (outputsStopped held : Bool)
  | findEntity (plugin : KeelPluginHandle) (gate : Gate)
  | captureEntity (plugin : KeelPluginHandle) (gate : Gate)
  | resolveField (plugin : KeelPluginHandle) (spec : KeelSchemaFieldSpec) (gate : Gate)
  | releaseField (plugin : KeelPluginHandle) (field : Nat)
  | useEntities (plugin : KeelPluginHandle) (use : Use) (gate : Gate)

/-- The plugin's construction of this handle, and its record. -/
def constructionOf (plugin : KeelPluginHandle) (entity : Nat) : Option (EntityRecord × Nat) :=
  (service.accessible plugin entity).bind fun record =>
    record.construction.map fun state => (record, state)

def call : Op → SchemaEntityService
  | .constructionReady gate => if service.admits gate then service.push .ready [] else service
  | .createEntity plugin name gate =>
    if validEntityName name && service.admits gate then service.push (.readyToCreate plugin) []
    else service
  | .describeConstruction plugin entity gate =>
    if !service.admits gate then service
    else match service.constructionOf plugin entity with
      | none => service
      | some (record, state) =>
        let construction := service.constructions state
        if construction.initializing || construction.token = 0 then service
        else service.push .describeConstruction
          [.called plugin entity record.entity, .used construction.token]
  | .changeConstruction plugin entity wellFormed spawns gate =>
    if !service.admits gate || !wellFormed then service
    else match service.constructionOf plugin entity with
      | none => service
      | some (record, state) =>
        let construction := service.constructions state
        if !record.constructionOwner || construction.initializing || construction.busy ||
            construction.token = 0 then service
        else
          (service.setConstruction state { construction with busy := true }).push
            (.changeConstruction state construction.token spawns)
              [.called plugin entity record.entity, .used construction.token]
  | .observeConstruction plugin source original gate =>
    if !service.admits gate || source = invalidSource2EntityHandle then service
    else match service.find original with
      | none => service
      | some record =>
        match record.construction with
        | none => service
        | some state =>
          if !service.observable source record then service
          else
            let token := (service.constructions state).token
            service.push (.observeConstruction plugin record state token) [.used token]
  | .visitConstruction plugin entity gate =>
    if !service.admits gate then service
    else match service.constructionOf plugin entity with
      | none => service
      | some (record, state) =>
        let construction := service.constructions state
        if construction.initializing || construction.token = 0 then service
        else service.push .visitConstruction
          [.called plugin entity record.entity, .used construction.token]
  | .releaseEntity plugin entity held => service.releaseEntity plugin entity true held
  | .releasePlugin plugin held => service.releasePlugin plugin true held
  | .shutdown outputsStopped held => service.shutdown outputsStopped true held
  | .findEntity plugin gate =>
    if service.pluginReady gate then service.push (.findEntity plugin) [] else service
  | .captureEntity plugin gate =>
    if service.pluginReady gate then service.push (.captureEntity plugin) [] else service
  | .resolveField plugin spec gate => service.resolveField plugin spec gate
  | .releaseField plugin field => service.releaseField plugin field
  | .useEntities plugin use gate => service.useEntities plugin use gate

/-- The adapter returns; the frame is no longer on the stack. -/
def returned (reply : Reply) : Frame → SchemaEntityService
  | .ready => service
  | .readyToCreate plugin =>
    if reply.result ≠ .ok then service else service.prune plugin (service.pruned plugin)
  | .pruneDescribe plugin state pending =>
    if reply.result = .notFound then
      service.cancelConstruction state (fun token => .pruneCancel plugin token pending)
        fun service => service.prune plugin pending
    else service.prune plugin pending
  | .pruneCancel plugin token pending => (service.concluded token reply).prune plugin pending
  | .create _ handle state => service.created handle state reply
  | .rejectCancel token => service.concluded token reply
  | .describeConstruction => service
  | .changeConstruction state token spawns => service.changed state token spawns reply
  | .observeConstruction plugin original state token =>
    service.observed plugin original state token reply
  | .visitConstruction => service
  | .releaseCancel token => service.concluded token reply
  | .pluginCancel token pending => (service.concluded token reply).cancelPending pending
  | .shutdownCancel token pending complete =>
    (service.concluded token reply).shutdownPending
      (complete && (reply.result = .ok || reply.result = .notFound)) pending
  | .findEntity plugin =>
    if reply.result = .ok then service.issue plugin reply.identity else service
  | .captureEntity plugin =>
    if reply.result = .ok ∧ validIdentity reply.identity then
      service.push (.validateCaptured plugin reply.identity) []
    else service
  | .validateCaptured plugin identity =>
    if reply.result = .ok then service.issue plugin identity else service
  | .resolveField plugin spec => service.fieldResolved plugin spec reply
  | .useEntities plugin calls => service.usedEntities plugin calls reply

inductive Act
  /-- A call on the game's thread, from outside of the service or from within the adapter. -/
  | call (op : Op)
  | reply (reply : Reply)
  /-- What another thread may do at any time. -/
  | releaseEntity (plugin : KeelPluginHandle) (entity : Nat)
  | releaseField (plugin : KeelPluginHandle) (field : Nat)
  /-- And what it may do while the host is not locked. -/
  | releasePlugin (plugin : KeelPluginHandle) (held : Bool)
  | shutdown (outputsStopped held : Bool)

def step (service : SchemaEntityService) : Act → SchemaEntityService
  | .call op => service.call op
  | .reply reply =>
    match service.stack with
    | [] => service
    | frame :: rest => (service.setStack rest).returned reply frame
  | .releaseEntity plugin entity => service.releaseEntity plugin entity false false
  | .releaseField plugin field => service.releaseField plugin field
  | .releasePlugin plugin held =>
    if service.stack.isEmpty then service.releasePlugin plugin false held else service
  | .shutdown outputsStopped held =>
    if service.stack.isEmpty then service.shutdown outputsStopped false held else service

end SchemaEntityService
end KeelS2.Entities.Schema
