import KeelS2.KeelHook.Abi
import KeelS2.Lib.Counters
import KeelS2.Lib.Runs

/-!
# The references to a target

`kh::Target` and `kh::Callback` objects of one plugin share a `TargetState`, which counts them by
hand: it has the lease on the target, and the last object to let go of it has the host release the
lease. The host may refuse that, and the removal of a callback before it; the object then keeps what
it has, and `Reset` may be called again. A `kh::Hook` has one object of each kind.

An object that is destroyed cannot keep anything. Where the host refuses to remove its callback, it
goes without its reference being counted off; `accounted_of_run` is what holds otherwise. `uses` is
the count that `std::shared_ptr` keeps.
-/

namespace KeelS2.Sdk.References

open Lib

/-! ## The objects -/

/-- The host's handles are not zero. -/
abbrev KeelHookTargetHandle := ℕ+

/-- `connected` is whether `context` and `api` are there, which come and go together. -/
structure TargetState where
  connected : Bool
  handle : Option KeelHookTargetHandle
  references : Nat
  deriving DecidableEq

/-- The results with which an object lets go. -/
def settled (result : KeelResult) : Bool :=
  result = .ok ∨ result = .notFound ∨ result = .notReady

/-- Where an object is: by itself, or in a hook. -/
inductive Place
  | alone (id : Nat)
  | member (hook : Nat)
  deriving DecidableEq, Repr

structure Callback where
  target : Option Nat
  handle : Nat
  deriving DecidableEq, Repr

def Callback.empty : Callback := ⟨none, 0⟩

/-- A record of an object that was to let go: how many held the state, and whether the host was
asked to release the lease. -/
structure LetGo where
  holders : Nat
  accepting : Bool
  asked : Bool
  deriving DecidableEq, Repr

/-- The objects of a plugin and its context. `registered` is `keelhook_targets`, whose entries do
not keep a state alive. -/
structure Plugin where
  accepting : Bool
  states : Nat → TargetState
  uses : Nat → Nat
  nextState : Nat
  registered : KeelHookTargetHandle → Option Nat
  targets : Place → Option (Option Nat)
  callbacks : Place → Option Callback
  letGo : List LetGo

/-- What the host answers where it is asked. -/
structure Answers where
  remove : KeelResult
  release : KeelResult
  releaseTarget : KeelResult
  deriving DecidableEq, Repr

namespace Plugin

variable (plugin : Plugin)

def initial : Plugin where
  accepting := true
  states _ := ⟨false, none, 0⟩
  uses _ := 0
  nextState := 0
  registered _ := none
  targets _ := none
  callbacks _ := none
  letGo := []

def setState (id : Nat) (state : TargetState) : Plugin :=
  { plugin with states := Function.update plugin.states id state }

def setTarget (place : Place) (target : Option (Option Nat)) : Plugin :=
  { plugin with targets := Function.update plugin.targets place target }

def setCallback (place : Place) (callback : Option Callback) : Plugin :=
  { plugin with callbacks := Function.update plugin.callbacks place callback }

/-- One `shared_ptr` less. -/
def drop (id : Nat) : Plugin :=
  { plugin with uses := Function.update plugin.uses id (plugin.uses id - 1) }

def use (id : Nat) : Plugin :=
  { plugin with uses := Function.update plugin.uses id (plugin.uses id + 1) }

/-! ### Releasing -/

/-- Whether `ReleaseReferenceLocked` has the host release the lease. -/
def asks (id : Nat) : Bool :=
  (plugin.states id).references = 1 ∧ plugin.accepting ∧ (plugin.states id).connected ∧
    (plugin.states id).handle.isSome

def record (id : Nat) (asked : Bool) : Plugin :=
  { plugin with letGo := ⟨plugin.uses id, plugin.accepting, asked⟩ :: plugin.letGo }

/-- The entry of the state goes, and one of a state that is gone. -/
def unregister (id : Nat) : Plugin :=
  match (plugin.states id).handle with
  | none => plugin
  | some handle =>
    if (plugin.registered handle).any fun other => plugin.uses other = 0 ∨ other = id then
      { plugin with registered := Function.update plugin.registered handle none }
    else plugin

/-- `ReleaseReferenceLocked`, with what the host answers. -/
def releaseReferenceLocked (id : Nat) (answer : KeelResult) : KeelResult × Plugin :=
  let state := plugin.states id
  let recorded := plugin.record id (plugin.asks id)
  if state.references = 0 then (.notFound, recorded)
  else if state.references ≠ 1 then
    (.ok, recorded.setState id { state with references := state.references - 1 })
  else
    let result := if plugin.asks id then answer else .notReady
    if settled result then
      (result, (if state.connected then recorded.unregister id else recorded).setState id
        ⟨false, none, 0⟩)
    else (result, recorded)

/-- `Target::Reset`. -/
def resetTarget (place : Place) (release : KeelResult) : KeelResult × Plugin :=
  match (plugin.targets place).join with
  | none => (.ok, plugin)
  | some id =>
    if (plugin.states id).connected then
      let (result, released) := plugin.releaseReferenceLocked id release
      if settled result then (result, (released.drop id).setTarget place (some none))
      else (result, released)
    else (.notReady, (plugin.drop id).setTarget place (some none))

/-- What comes of the removal of a callback. -/
def removeCallback (callback : Callback) (answer : KeelResult) : KeelResult :=
  if callback.handle = 0 then .ok else if plugin.accepting then answer else .notReady

/-- `Callback::Reset`. -/
def resetCallback (place : Place) (remove release : KeelResult) : KeelResult × Plugin :=
  match plugin.callbacks place with
  | none => (.ok, plugin)
  | some callback =>
    match callback.target with
    | none => (.ok, plugin)
    | some id =>
      if (plugin.states id).connected then
        let removed := plugin.removeCallback callback remove
        if settled removed then
          let (result, released) :=
            (plugin.setCallback place (some ⟨some id, 0⟩)).releaseReferenceLocked id release
          if settled result then
            (if result = .ok then removed else result,
              (released.drop id).setCallback place (some .empty))
          else (result, released)
        else (removed, plugin)
      else (.notReady, (plugin.drop id).setCallback place (some .empty))

/-- `Hook::Reset`. -/
def resetHook (hook : Nat) (answers : Answers) : KeelResult × Plugin :=
  let (result, reset) := plugin.resetCallback (.member hook) answers.remove answers.release
  if settled result then reset.resetTarget (.member hook) answers.releaseTarget
  else (result, reset)

/-! ### Destruction -/

def destroyTarget (place : Place) (release : KeelResult) : Plugin :=
  let reset := (plugin.resetTarget place release).2
  match (reset.targets place).join with
  | none => reset.setTarget place none
  | some id => (reset.drop id).setTarget place none

/-- Where the callback could not be removed, the object goes with its reference. -/
def destroyCallback (place : Place) (remove release : KeelResult) : Plugin :=
  let reset := (plugin.resetCallback place remove release).2
  match reset.callbacks place with
  | none => reset
  | some callback =>
    match callback.target with
    | none => reset.setCallback place none
    | some id =>
      ((if callback.handle = 0 then reset else reset.record id false).drop id).setCallback
        place none

/-- The destructor of the hook, and then those of its members. -/
def destroyHook (hook : Nat) (first second : Answers) : Plugin :=
  ((plugin.resetHook hook first).2.destroyCallback (.member hook) second.remove
    second.release).destroyTarget (.member hook) second.releaseTarget

/-! ### Construction and moves -/

def createTarget (place : Place) : Plugin :=
  if (plugin.targets place).isNone then plugin.setTarget place (some none) else plugin

def createCallback (place : Place) : Plugin :=
  if (plugin.callbacks place).isNone then plugin.setCallback place (some .empty) else plugin

def createHook (hook : Nat) : Plugin :=
  (plugin.createTarget (.member hook)).createCallback (.member hook)

def moveConstructTarget (source place : Place) : Plugin :=
  match plugin.targets source, plugin.targets place with
  | some target, none => (plugin.setTarget place (some target)).setTarget source (some none)
  | _, _ => plugin

/-- The move assignments swap. -/
def moveAssignTarget (left right : Place) : Plugin :=
  match plugin.targets left, plugin.targets right with
  | some first, some second => (plugin.setTarget left (some second)).setTarget right (some first)
  | _, _ => plugin

def moveConstructCallback (source place : Place) : Plugin :=
  match plugin.callbacks source, plugin.callbacks place with
  | some callback, none =>
    (plugin.setCallback place (some callback)).setCallback source (some .empty)
  | _, _ => plugin

def moveAssignCallback (left right : Place) : Plugin :=
  match plugin.callbacks left, plugin.callbacks right with
  | some first, some second =>
    (plugin.setCallback left (some second)).setCallback right (some first)
  | _, _ => plugin

def moveConstructHook (source hook : Nat) : Plugin :=
  (plugin.moveConstructTarget (.member source) (.member hook)).moveConstructCallback
    (.member source) (.member hook)

def moveAssignHook (left right : Nat) : Plugin :=
  (plugin.moveAssignTarget (.member left) (.member right)).moveAssignCallback
    (.member left) (.member right)

/-! ### Resolving and adding -/

/-- The state of a registration, if it still has one. -/
def lock (handle : KeelHookTargetHandle) : Option Nat :=
  (plugin.registered handle).filter fun id => plugin.uses id ≠ 0

def adoptResolvedTargetLocked (handle : KeelHookTargetHandle) (place : Place) : Plugin :=
  match plugin.lock handle with
  | some id =>
    ((plugin.setState id
      { plugin.states id with references := (plugin.states id).references + 1 }).use id).setTarget
      place (some (some id))
  | none =>
    { ((plugin.setState plugin.nextState ⟨true, some handle, 1⟩).use plugin.nextState).setTarget
        place (some (some plugin.nextState)) with
      registered := Function.update plugin.registered handle (some plugin.nextState)
      nextState := plugin.nextState + 1 }

/-- `ResolveTarget` and `ResolveVirtualTarget`. -/
def resolve (place : Place) (answer : Except KeelResult KeelHookTargetHandle) :
    KeelResult × Plugin :=
  if plugin.accepting then
    match plugin.targets place with
    | some none =>
      match answer with
      | .ok handle => (.ok, plugin.adoptResolvedTargetLocked handle place)
      | .error result => (result, plugin)
    | _ => (.alreadyExists, plugin)
  else (.notReady, plugin)

def addCallback (target place : Place) (answer : Except KeelResult Nat) : KeelResult × Plugin :=
  match (plugin.targets target).join, plugin.callbacks place with
  | some id, some callback =>
    if plugin.accepting ∧ (plugin.states id).connected ∧ (plugin.states id).handle.isSome then
      if callback.target.isSome ∨ callback.handle ≠ 0 then (.alreadyExists, plugin)
      else
        match answer with
        | .ok handle =>
          (.ok, ((plugin.setState id
            { plugin.states id with
              references := (plugin.states id).references + 1 }).use id).setCallback place
              (some ⟨some id, handle⟩))
        | .error result => (result, plugin)
    else (.invalidArgument, plugin)
  | _, _ => (.invalidArgument, plugin)

end Plugin

/-! ## Runs -/

inductive Input
  | createTarget (place : Place)
  | createCallback (place : Place)
  | createHook (hook : Nat)
  | resolve (place : Place) (answer : Except KeelResult KeelHookTargetHandle)
  | addCallback (target place : Place) (answer : Except KeelResult Nat)
  | resetTarget (place : Place) (release : KeelResult)
  | resetCallback (place : Place) (remove release : KeelResult)
  | resetHook (hook : Nat) (answers : Answers)
  | moveConstructTarget (source place : Place)
  | moveConstructCallback (source place : Place)
  | moveConstructHook (source hook : Nat)
  | moveAssignTarget (left right : Place)
  | moveAssignCallback (left right : Place)
  | moveAssignHook (left right : Nat)
  | destroyTarget (place : Place) (release : KeelResult)
  | destroyCallback (place : Place) (remove release : KeelResult)
  | destroyHook (hook : Nat) (first second : Answers)
  /-- The context accepts no more resources, for good. -/
  | disableResources

def Plugin.step (plugin : Plugin) : Input → Plugin
  | .createTarget place => plugin.createTarget place
  | .createCallback place => plugin.createCallback place
  | .createHook hook => plugin.createHook hook
  | .resolve place answer => (plugin.resolve place answer).2
  | .addCallback target place answer => (plugin.addCallback target place answer).2
  | .resetTarget place release => (plugin.resetTarget place release).2
  | .resetCallback place remove release => (plugin.resetCallback place remove release).2
  | .resetHook hook answers => (plugin.resetHook hook answers).2
  | .moveConstructTarget source place => plugin.moveConstructTarget source place
  | .moveConstructCallback source place => plugin.moveConstructCallback source place
  | .moveConstructHook source hook => plugin.moveConstructHook source hook
  | .moveAssignTarget left right => plugin.moveAssignTarget left right
  | .moveAssignCallback left right => plugin.moveAssignCallback left right
  | .moveAssignHook left right => plugin.moveAssignHook left right
  | .destroyTarget place release => plugin.destroyTarget place release
  | .destroyCallback place remove release => plugin.destroyCallback place remove release
  | .destroyHook hook first second => plugin.destroyHook hook first second
  | .disableResources => { plugin with accepting := false }

/-- The callback of the object, if it has one, can be removed. -/
def Plugin.removable (plugin : Plugin) (place : Place) (remove : KeelResult) : Bool :=
  (plugin.callbacks place).all fun callback =>
    callback.target.isNone || settled (plugin.removeCallback callback remove)

/-- No callback object is destroyed while the host refuses to remove its callback. -/
def Orderly (plugin : Plugin) : Input → Prop
  | .destroyCallback place remove _ => plugin.removable place remove = true
  | .destroyHook hook first second =>
    (plugin.resetHook hook first).2.removable (.member hook) second.remove = true
  | _ => True

end KeelS2.Sdk.References
