import KeelS2.Plugins.PluginRecord
import Mathlib.Data.List.Sort

/-!
# Entity outputs

A plugin subscribes to the outputs that entities fire. The adapter says of every output when it is
about to run (PRE), when it has run (POST), and when it will say no more of it; a token ties the
three together. Whoever is to be asked of an output is found once, at its PRE.

All of it runs under `state_mutex_`, so that what comes while a callback or the adapter is busy
comes on its thread: what is under way is one stack.
-/

namespace KeelS2.Entities

abbrev KeelEntityOutputHandle := Nat

def outputPre : Nat := 1
def outputPost : Nat := 2
def outputBoth : Nat := 3
def outputContinue : Nat := 0
def outputBlock : Nat := 1
def outputMaxDepth : Nat := 8
def outputMaxSubscriptions : Nat := 64
def outputMaxHostSubscriptions : Nat := 256

/-- How many invocations may be kept. -/
def outputMaxInvocations : Nat := 64

structure GameEntityIdentity where
  index : Nat
  source2Handle : Nat
  epoch : Nat
  deriving DecidableEq, Repr

/-- What is read of a `KeelEntityOutputEvent`; `sized` is that its size is right. -/
structure OutputEvent where
  sized : Bool
  phase : Nat
  entity : GameEntityIdentity
  className : Text
  outputName : Text
  deriving DecidableEq, Repr

structure KeelEntityOutputSpec where
  size : Nat
  phases : Nat
  priority : Int
  reserved : Nat
  entity : Nat
  className : Option Text
  outputName : Option Text
  callback : Option Nat
  userData : Nat

def sizeofOutputSpec : Nat := 56

/-- `OutputName`: the copy, where the text is one. -/
def outputNameOf (text : Option Text) (limit : Nat) : Option Text :=
  match text with
  | none => some []
  | some characters =>
    let seen := characters.takeWhile (· ≠ '\x00')
    if seen.length ≤ limit ∧ seen.all fun byte => 32 ≤ byte.toNat && byte.toNat ≠ 127 then some seen
    else none

/-- `OutputRecord`, but for `enabled`, which is all that is written to it. -/
structure OutputRecord where
  owner : KeelPluginHandle
  /-- Its `KeelEntityOutputHandle`. -/
  handle : Nat
  phases : Nat
  priority : Int
  entity : GameEntityIdentity
  className : Text
  outputName : Text
  callback : Nat
  userData : Nat
  deriving DecidableEq, Repr

namespace OutputRecord

/-- The subscription is to this output. -/
def matchesEvent (record : OutputRecord) (event : OutputEvent) : Bool :=
  (record.entity.epoch = 0 || record.entity = event.entity) &&
    (record.className = [] || record.className = event.className) &&
    (record.outputName = [] || record.outputName = event.outputName)

/-- Who is asked first. -/
def Before (first second : OutputRecord) : Prop :=
  second.priority < first.priority ∨
    first.priority = second.priority ∧ first.handle < second.handle

instance : DecidableRel Before := fun _ _ => inferInstanceAs (Decidable (_ ∨ _))

def hasPhase (record : OutputRecord) (phase : Nat) : Bool := record.phases &&& phase ≠ 0

end OutputRecord

/-- What the host knows of a plugin. `ready` is `PluginReady`. -/
structure Owner where
  present : Bool
  ready : Bool
  loaded : Bool
  transitioning : Bool
  cleanupPending : Bool
  deriving DecidableEq, Repr

/-- One `DispatchOutputs` that asks its callbacks. -/
structure Dispatch where
  /-- Which of all dispatches it is. -/
  call : Nat
  event : OutputEvent
  token : Nat
  /-- Who is still to be asked, in this order. -/
  remaining : List OutputRecord
  block : Bool
  deriving DecidableEq, Repr

/-- One `ConfigureOutputs`, with what the plugin has under the handle in its specification. -/
structure Configuration where
  plugin : KeelPluginHandle
  spec : Option KeelEntityOutputSpec
  captured : Option GameEntityIdentity

/-- What `PruneOutputs` is called for. -/
inductive Purpose
  | dispatching (event : OutputEvent) (token : Nat)
  | configuring (configuration : Configuration)

inductive Starting
  /-- In the adapter's `stop`, before it is started again. -/
  | stopping
  /-- In the adapter's `start`. -/
  | starting
  /-- In its `stop`, since it did not start. -/
  | abandoning
  deriving DecidableEq

inductive Frame
  /-- The adapter is asked whether the first of these subscriptions has its entity still. -/
  | pruning (purpose : Purpose) (asked : OutputRecord) (remaining : List OutputRecord)
  /-- Between two callbacks. -/
  | turning (dispatch : Dispatch)
  /-- In the callback of a subscription. -/
  | calling (dispatch : Dispatch) (record : OutputRecord)
  | starting (stage : Starting) (configuration : Configuration)
  /-- The adapter is asked whether the entity of a new subscription is there. -/
  | validating (configuration : Configuration)
  /-- `StopOutputs`, in the adapter's `stop`. -/
  | halting
  /-- Another native operation of a plugin. -/
  | operating (plugin : KeelPluginHandle)

namespace Frame

/-- It has raised `output_depth_`. -/
def deepens : Frame → Bool
  | pruning .. | turning _ | calling .. | starting .. | validating _ => true
  | halting | operating _ => false

/-- Whose `active_native_operations` it has raised. -/
def holder : Frame → Option KeelPluginHandle
  | pruning (.configuring configuration) _ _ => some configuration.plugin
  | calling _ record => some record.owner
  | starting _ configuration | validating configuration => some configuration.plugin
  | operating plugin => some plugin
  | _ => none

def holds (plugin : KeelPluginHandle) (frame : Frame) : Bool := frame.holder = some plugin

/-- Code outside the service runs above it. -/
def nests : Frame → Bool
  | turning _ => false
  | _ => true

end Frame

/-- What has happened. -/
inductive Entry
  /-- A PRE is blocked, and nobody asked. -/
  | refused (token : Nat)
  /-- A dispatch begins; it is to ask these. -/
  | entered (call : Nat) (event : OutputEvent) (token : Nat) (callbacks : List OutputRecord)
  /-- One of them has its turn, where its `enabled` is this, and its plugin may be called. -/
  | turn (call : Nat) (event : OutputEvent) (record : OutputRecord) (enabled inService : Bool)
  /-- Its callback has returned this action, or thrown. -/
  | answered (call : Nat) (event : OutputEvent) (record : OutputRecord) (action : Option Nat)
  | returned (call : Nat) (blocked : Bool)
  /-- The adapter will say no more of the token. -/
  | dropped (token : Nat)
  | subscribed (record : OutputRecord)
  /-- A subscription is disabled and leaves the table. -/
  | disabled (handle : KeelEntityOutputHandle)
  deriving DecidableEq

structure Outputs where
  /-- `outputs_`. -/
  outputs : List OutputRecord
  /-- `enabled` of a record, whoever has a pointer to it. -/
  enabled : KeelEntityOutputHandle → Bool
  /-- `output_invocations_`. -/
  invocations : List (Nat × List OutputRecord)
  nextOutput : Nat
  depth : Nat
  started : Bool
  retained : Bool
  starting : Bool
  stopping : Bool
  /-- `active_native_operations`. -/
  nativeOperations : KeelPluginHandle → Nat
  owners : KeelPluginHandle → Owner
  frames : List Frame
  calls : Nat
  /-- The latest first. -/
  log : List Entry

/-- What the adapter or a callback comes back with. -/
structure Answer where
  result : KeelResult
  /-- The action of a callback, unless it threw. -/
  action : Option Nat
  /-- What the plugin has under the handle in its specification by now. -/
  found : Option GameEntityIdentity

namespace Outputs

def initial : Outputs where
  outputs := []
  enabled := fun _ => false
  invocations := []
  nextOutput := 1
  depth := 0
  started := false
  retained := false
  starting := false
  stopping := false
  nativeOperations := fun _ => 0
  owners := fun _ => ⟨false, false, false, false, false⟩
  frames := []
  calls := 0
  log := []

variable (service : Outputs)

def tell (entry : Entry) : Outputs := { service with log := entry :: service.log }

def push (frame : Frame) : Outputs := { service with frames := frame :: service.frames }

def deepen : Outputs := { service with depth := service.depth + 1 }

def surface : Outputs := { service with depth := service.depth - 1 }

def hold (plugin : KeelPluginHandle) : Outputs :=
  { service with nativeOperations :=
      Function.update service.nativeOperations plugin (service.nativeOperations plugin + 1) }

def unhold (plugin : KeelPluginHandle) : Outputs :=
  { service with nativeOperations :=
      Function.update service.nativeOperations plugin (service.nativeOperations plugin - 1) }

/-- `output_invocations_.find`. -/
def invocation (token : Nat) : Option (List OutputRecord) :=
  (service.invocations.find? (·.1 == token)).map (·.2)

/-- These are disabled and erased. -/
def disable (handles : List KeelEntityOutputHandle) : Outputs :=
  { service with
    outputs := service.outputs.filter fun record => record.handle ∉ handles
    enabled := fun handle => service.enabled handle && handle ∉ handles
    log := handles.map .disabled ++ service.log }

/-- What the plugin of a subscription is asked for, before it is called. -/
def inService (plugin : KeelPluginHandle) : Bool :=
  let owner := service.owners plugin
  owner.ready && owner.present && owner.loaded && !owner.transitioning && !owner.cleanupPending &&
    service.nativeOperations plugin ≠ 2 ^ 32 - 1

/-! ## Dispatching -/

/-- The callbacks are found; nobody has been asked yet. -/
def enter (event : OutputEvent) (token : Nat) (callbacks : List OutputRecord) : Outputs :=
  ({ service with calls := service.calls + 1 }.tell
    (.entered service.calls event token callbacks)).push
      (.turning ⟨service.calls, event, token, callbacks, false⟩)

/-- Who is to be asked of an output. -/
def callbacks (event : OutputEvent) : List OutputRecord :=
  (service.outputs.filter fun record =>
    service.enabled record.handle && record.matchesEvent event).insertionSort
      fun first second => ¬second.Before first

/-- A PRE finds its callbacks and keeps them for the POST. -/
def freeze (event : OutputEvent) (token : Nat) : Outputs :=
  let found := service.callbacks event
  { service with invocations :=
      if (service.invocation token).isSome then service.invocations
      else (token, found) :: service.invocations }.enter event token found

/-! ## Configuring -/

/-- `ConfigureOutputs` goes back. -/
def unconfigure (plugin : KeelPluginHandle) : Outputs := (service.unhold plugin).surface

/-- A new subscription, unless there are too many. -/
def subscribe (configuration : Configuration) (spec : KeelEntityOutputSpec) : Outputs :=
  let plugin := configuration.plugin
  let owned := service.outputs.countP (·.owner = plugin)
  let back := service.unconfigure plugin
  if service.nextOutput = 0 ∨ outputMaxSubscriptions ≤ owned ∨
      outputMaxHostSubscriptions ≤ service.outputs.length then back
  else
    let record : OutputRecord :=
      { owner := plugin, handle := service.nextOutput, phases := spec.phases
        priority := spec.priority
        entity := if spec.entity ≠ 0 then configuration.captured.getD ⟨0, 0, 0⟩ else ⟨0, 0, 0⟩
        className := (outputNameOf spec.className 255).getD []
        outputName := (outputNameOf spec.outputName 127).getD []
        callback := spec.callback.getD 0, userData := spec.userData }
    { back with
      nextOutput := (service.nextOutput + 1) % 2 ^ 64
      outputs := record :: service.outputs
      enabled := Function.update service.enabled record.handle true }.tell (.subscribed record)

/-- `ConfigureOutputs` behind `PruneOutputs`. -/
def configured (configuration : Configuration) : Outputs :=
  let plugin := configuration.plugin
  if !(service.owners plugin).ready || service.stopping then service.unconfigure plugin
  else match configuration.spec with
    | none => service.unconfigure plugin
    | some spec =>
      if spec.entity ≠ 0 then service.push (.validating configuration)
      else service.subscribe configuration spec

/-- `ConfigureOutputs` behind the validation of the entity. -/
def validated (configuration : Configuration) (answer : Answer) : Outputs :=
  let plugin := configuration.plugin
  match configuration.spec with
  | none => service.unconfigure plugin
  | some spec =>
    if answer.result ≠ .ok ∨ answer.found.isNone ∨ answer.found ≠ configuration.captured then
      service.unconfigure plugin
    else if !(service.owners plugin).ready || service.stopping then service.unconfigure plugin
    else service.subscribe configuration spec

/-- `PruneOutputs` has asked for all. -/
def pruned : Purpose → Outputs
  | .dispatching event token => service.freeze event token
  | .configuring configuration => service.configured configuration

/-- `PruneOutputs` goes on to the next. -/
def prune (purpose : Purpose) : List OutputRecord → Outputs
  | [] => service.pruned purpose
  | asked :: remaining => service.push (.pruning purpose asked remaining)

/-- The subscriptions that `PruneOutputs` asks for. -/
def bound : List OutputRecord := service.outputs.filter fun record => record.entity.epoch ≠ 0

/-- `PruneOutputs` where the epoch is known. -/
def pruneEpoch (epoch : Nat) : Outputs :=
  service.disable ((service.bound.filter fun record => record.entity.epoch ≠ epoch).map
    OutputRecord.handle)

/-! ## Acts -/

/-- Whether the service may be called where the thread is. -/
def outside : Bool := service.frames.head?.all Frame.nests

/-- `DispatchOutputs` with an event. -/
def dispatch (event : OutputEvent) (token : Nat) (gameThread : Bool) : Outputs :=
  if token = 0 ∨ !event.sized ∨ service.stopping ∨ !gameThread then service
  else if outputMaxDepth ≤ service.depth then
    if event.phase = outputPre then service.tell (.refused token) else service
  else if event.phase = outputPre then
    if (service.invocation token).isSome ∨ outputMaxInvocations ≤ service.invocations.length then
      service.tell (.refused token)
    else if event.entity.epoch ≠ 0 then
      (service.deepen.pruneEpoch event.entity.epoch).freeze event token
    else service.deepen.prune (.dispatching event token) service.bound
  else if event.phase = outputPost then
    match service.invocation token with
    | none => service
    | some callbacks => service.deepen.enter event token callbacks.reverse
  else service

/-- `DispatchOutputs` without one. -/
def drop (token : Nat) : Outputs :=
  { service with invocations := service.invocations.filter (·.1 ≠ token) }.tell (.dropped token)

/-- `SubscribeOutputEntry` checks what it is given. -/
def validSpec (spec : KeelEntityOutputSpec) : Bool :=
  spec.size = sizeofOutputSpec && spec.callback.isSome && spec.phases ≠ 0 &&
    spec.phases ≤ outputBoth && spec.reserved = 0 && (outputNameOf spec.className 255).isSome &&
    (outputNameOf spec.outputName 127).isSome

/-- `ConfigureOutputs`, up to where it calls the adapter. `supported` is that the adapter has the
functions. -/
def configure (configuration : Configuration) (gameThread supported : Bool) : Outputs :=
  let plugin := configuration.plugin
  let owner := service.owners plugin
  if !owner.ready || service.stopping || !gameThread then service
  else if !owner.present || owner.transitioning || owner.cleanupPending ||
      service.nativeOperations plugin = 2 ^ 32 - 1 || service.starting ||
      outputMaxDepth ≤ service.depth then service
  else
    let held := (service.hold plugin).deepen
    if !supported || configuration.spec.any fun spec =>
        spec.entity ≠ 0 && configuration.captured.isNone then held.unconfigure plugin
    else if service.retained && !service.started then
      { held with starting := true }.push (.starting .stopping configuration)
    else { held with starting := true, retained := true }.push (.starting .starting configuration)

/-- `UnsubscribeOutputEntry`. -/
def unsubscribe (plugin : KeelPluginHandle) (handle : KeelEntityOutputHandle) (gameThread : Bool) :
    Outputs :=
  if plugin = 0 ∨ handle = 0 ∨ !gameThread then service
  else if service.outputs.any fun record => record.handle = handle && record.owner = plugin then
    service.disable [handle]
  else service

def releaseOutputs (plugin : KeelPluginHandle) : Outputs :=
  service.disable ((service.outputs.filter (·.owner = plugin)).map OutputRecord.handle)

/-- `StopOutputs`, up to where it calls the adapter. -/
def stopOutputs (supported : Bool) : Outputs :=
  let silent := { service with stopping := true }.disable (service.outputs.map OutputRecord.handle)
  if service.starting || service.depth ≠ 0 || !service.invocations.isEmpty then silent
  else if service.retained && supported then silent.push .halting
  else silent

/-! ## Going on -/

/-- The next callback has its turn. -/
def turn (dispatch : Dispatch) : Outputs :=
  match dispatch.remaining with
  | [] => service.surface.tell (.returned dispatch.call dispatch.block)
  | record :: remaining =>
    let enabled := service.enabled record.handle
    let inService := service.inService record.owner
    let turned := service.tell (.turn dispatch.call dispatch.event record enabled inService)
    if enabled && record.hasPhase dispatch.event.phase && inService then
      (turned.hold record.owner).push (.calling { dispatch with remaining := remaining } record)
    else turned.push (.turning { dispatch with remaining := remaining })

/-- A callback has come back. -/
def answered (dispatch : Dispatch) (record : OutputRecord) (action : Option Nat) : Outputs :=
  let returned := service.unhold record.owner
  let answer : Entry := .answered dispatch.call dispatch.event record action
  let before := dispatch.event.phase = outputPre
  if action = some outputBlock ∧ before then
    (returned.tell answer).push (.turning { dispatch with block := true })
  else if action ≠ some outputContinue then
    ((returned.disable [record.handle]).tell answer).push
      (.turning { dispatch with block := dispatch.block || before })
  else (returned.tell answer).push (.turning dispatch)

/-- The adapter comes back from `start` or `stop`. -/
def startedWith (stage : Starting) (configuration : Configuration) (result : KeelResult) :
    Outputs :=
  let back := { service with starting := false }.unconfigure configuration.plugin
  match stage with
  | .stopping =>
    if result ≠ .ok then back
    else { service with retained := true }.push (.starting .starting configuration)
  | .starting =>
    if result = .ok then
      { service with started := true, starting := false }.prune (.configuring configuration)
        service.bound
    else if !service.started then service.push (.starting .abandoning configuration)
    else back
  | .abandoning => if result = .ok then { back with retained := false } else back

/-- What runs last goes on, with what it was waiting for. -/
def go (answer : Answer) : Outputs :=
  match service.frames with
  | [] => service
  | frame :: frames =>
    let below := { service with frames := frames }
    match frame with
    | .pruning purpose asked remaining =>
      if answer.result = .notFound then (below.disable [asked.handle]).prune purpose remaining
      else below.prune purpose remaining
    | .turning dispatch => below.turn dispatch
    | .calling dispatch record => below.answered dispatch record answer.action
    | .starting stage configuration => below.startedWith stage configuration answer.result
    | .validating configuration => below.validated configuration answer
    | .halting =>
      if answer.result = .ok then { below with retained := false, started := false } else below
    | .operating plugin => below.unhold plugin

inductive Act
  | dispatch (event : OutputEvent) (token : Nat) (gameThread : Bool)
  | drop (token : Nat)
  | subscribe (plugin : KeelPluginHandle) (spec : KeelEntityOutputSpec)
    (captured : Option GameEntityIdentity) (gameThread supported : Bool)
  /-- `OutputsReadyEntry`. -/
  | prepare (plugin : KeelPluginHandle) (gameThread supported : Bool)
  | unsubscribe (plugin : KeelPluginHandle) (handle : KeelEntityOutputHandle) (gameThread : Bool)
  | releaseOutputs (plugin : KeelPluginHandle)
  | stop (supported : Bool)
  | go (answer : Answer)
  /-- The host has news of a plugin. -/
  | own (plugin : KeelPluginHandle) (owner : Owner)
  /-- Another service takes the plugin for a native operation. -/
  | operate (plugin : KeelPluginHandle)

/-- One step; where the service cannot be called nothing changes. -/
def step (service : Outputs) : Act → Outputs
  | .dispatch event token gameThread =>
    if service.outside then service.dispatch event token gameThread else service
  | .drop token => if service.outside then service.drop token else service
  | .subscribe plugin spec captured gameThread supported =>
    if service.outside && validSpec spec then
      service.configure ⟨plugin, some spec, captured⟩ gameThread supported
    else service
  | .prepare plugin gameThread supported =>
    if service.outside then service.configure ⟨plugin, none, none⟩ gameThread supported
    else service
  | .unsubscribe plugin handle gameThread =>
    if service.outside then service.unsubscribe plugin handle gameThread else service
  | .releaseOutputs plugin => if service.outside then service.releaseOutputs plugin else service
  | .stop supported => if service.outside then service.stopOutputs supported else service
  | .go answer => service.go answer
  | .own plugin owner =>
    { service with owners := Function.update service.owners plugin owner }
  | .operate plugin =>
    if service.outside && service.nativeOperations plugin ≠ 2 ^ 32 - 1 then
      (service.hold plugin).push (.operating plugin)
    else service

end Outputs
end KeelS2.Entities
