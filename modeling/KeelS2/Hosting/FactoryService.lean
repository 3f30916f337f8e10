import KeelS2.KeelHook.Abi
import KeelS2.Lib.Counters
import KeelS2.Lib.Runs

/-!
# The factory service

The factories of the engine and of the server are hooked. Where one is asked for an interface, the
plugins that provide it are called with the lock released, and the first of them that replaces what
the factory returned is pinned before the engine is given the replacement. `Deactivate` disables
the providers of a plugin, waits until none of them is being called, and then looks whether the
plugin is pinned.
-/

namespace KeelS2.Hosting

abbrev KeelFactorySubscriptionHandle := Nat

/-- What a factory returns. -/
structure KeelFactoryResult where
  instance' : Option Nat
  returnCode : Int
  deriving DecidableEq, Repr

namespace Factories

/-- `FactoryService::Subscription`; `factory` is that of its boundary, `processLifetime` its flag. -/
structure Subscription where
  owner : KeelPluginHandle
  factory : Nat
  name : Text
  priority : Int
  processLifetime : Bool
  enabled : Bool
  active : Nat
  deriving DecidableEq, Repr

/-- Where a `Dispatch` stands. -/
inductive Point
  /-- It calls the original. -/
  | original
  /-- Before the next callback. -/
  | next
  /-- It is counted in the subscription's `active`. -/
  | entered (handle : KeelFactorySubscriptionHandle)
  | running (handle : KeelFactorySubscriptionHandle)
  | leaving (handle : KeelFactorySubscriptionHandle)
  deriving DecidableEq, Repr

structure Dispatch where
  boundary : Nat
  name : Text
  point : Point
  callbacks : List KeelFactorySubscriptionHandle
  /-- `current_result` and `current_return_code`. -/
  current : KeelFactoryResult
  replaced : Bool
  /-- Whose replacement it is, where there is an instance. -/
  supplier : Option KeelPluginHandle
  deriving DecidableEq, Repr

/-- What a thread is in the middle of. -/
inductive Frame
  /-- `Query`, which calls the factory; `QueryNamed` is one around another. -/
  | query (original : Bool)
  | dispatch (dispatch : Dispatch)
  /-- `Deactivate`, with the subscriptions it has still to wait for; `release` is that
  `ReleasePlugin` has called it. -/
  | deactivate (plugin : KeelPluginHandle) (owned : List KeelFactorySubscriptionHandle)
    (release : Bool)
  /-- `ReleasePlugin` after that. -/
  | erase (plugin : KeelPluginHandle)
  /-- `Unsubscribe`, which waits. -/
  | unsubscribe (handle : KeelFactorySubscriptionHandle)
  | remove (handle : KeelFactorySubscriptionHandle)
  deriving DecidableEq, Repr

/-- What is told of. -/
inductive Event
  | activated (plugin : KeelPluginHandle)
  /-- A provider of the plugin was registered, and enabled at once. -/
  | registered (plugin : KeelPluginHandle)
  /-- The engine was given an instance of the plugin's. -/
  | returned (plugin : KeelPluginHandle) (instance' : Nat)
  /-- A `Deactivate` has disabled what the plugin has. -/
  | began (thread : Nat) (plugin : KeelPluginHandle)
  /-- It, or the `ReleasePlugin` that it is of, has returned `KEEL_RESULT_OK`. -/
  | quiesced (thread : Nat) (plugin : KeelPluginHandle)
  deriving DecidableEq, Repr

/-- What the plugin manager knows of a plugin. -/
structure Owner where
  acceptingResources : Bool
  transitioning : Bool
  loaded : Bool
  loading : Bool
  factoryDispatchEnabled : Bool
  deriving DecidableEq, Repr

/-- `KeelFactorySubscriptionSpec`; `sized` is that its size is right, `callback` that there is
one, `flagged` that no unknown flag is set. -/
structure SubscriptionSpec where
  sized : Bool
  factory : Nat
  interfaceName : Text
  callback : Bool
  flagged : Bool
  processLifetime : Bool
  priority : Int

/-- How a provider's callback comes out. -/
inductive Outcome
  | threw
  | continued
  | replaced (sized : Bool) (replacement : KeelFactoryResult)

/-- What is outside of the service answers. -/
structure Reply where
  /-- What `call_original` gives, where that is `KEEL_RESULT_OK`. -/
  original : Option KeelFactoryResult
  outcome : Outcome

/-- The factories of the engine and the server are two, or the same one. -/
structure FactoryService where
  boundaries : Nat
  /-- The subscriptions there have been. -/
  records : KeelFactorySubscriptionHandle → Subscription
  /-- `subscriptions_`. -/
  subscriptions : List KeelFactorySubscriptionHandle
  pinned : List KeelPluginHandle
  next : Nat
  queries : Nat
  stopping : Bool
  callStacks : Nat → List Frame
  history : List Event

def isAlnum (character : Char) : Bool :=
  character.isAlpha || character.isDigit

def validName (name : Text) : Bool :=
  let seen := name.takeWhile (· ≠ '\x00')
  seen.length ≠ 0 && seen.length < 256 && seen.all fun character =>
    isAlnum character || character = '_'

namespace FactoryService

def initial (boundaries : Nat) : FactoryService where
  boundaries := boundaries
  records := fun _ => ⟨0, 0, [], 0, false, false, 0⟩
  subscriptions := []
  pinned := []
  next := 1
  queries := 0
  stopping := false
  callStacks := fun _ => []
  history := []

variable (service : FactoryService)

def findBoundary (factory : Nat) : Option Nat :=
  if factory < 1 ∨ 6 < factory then none
  else some (if factory = 2 ∧ 1 < service.boundaries then 1 else 0)

def setStack (thread : Nat) (frames : List Frame) : FactoryService :=
  { service with callStacks := Function.update service.callStacks thread frames }

def tell (event : Event) : FactoryService :=
  { service with history := event :: service.history }

def setRecord (handle : KeelFactorySubscriptionHandle) (record : Subscription) : FactoryService :=
  { service with records := Function.update service.records handle record }

/-- `enabled.store` for some subscriptions. -/
def setEnabled (chosen : KeelFactorySubscriptionHandle → Bool) (enabled : Bool) : FactoryService :=
  { service with
    records := fun handle =>
      if chosen handle then { service.records handle with enabled := enabled }
      else service.records handle }

def owned (plugin : KeelPluginHandle) : List KeelFactorySubscriptionHandle :=
  service.subscriptions.filter fun handle => (service.records handle).owner == plugin

/-- `depth_` and `bypass_` of a thread. -/
def depth (thread : Nat) : Nat :=
  (service.callStacks thread).countP fun frame => match frame with
    | .dispatch _ => true
    | _ => false

def bypass (thread : Nat) : Nat :=
  (service.callStacks thread).countP (· == .query true)

/-! ## Registrations -/

def subscribe (plugin : KeelPluginHandle) (spec : Option SubscriptionSpec) (output : Bool)
    (accepting : Bool) (owner : Option Owner) : FactoryService × KeelResult :=
  match spec with
  | none => (service, .invalidArgument)
  | some spec =>
    if !output then (service, .invalidArgument)
    else if !spec.sized then (service, .incompatible)
    else match service.findBoundary spec.factory with
      | none => (service, .invalidArgument)
      | some boundary =>
        if !validName spec.interfaceName || !spec.callback || !spec.flagged then
          (service, .invalidArgument)
        else match owner with
          | none => (service, .notReady)
          | some owner =>
            if service.stopping || !accepting || !owner.acceptingResources || owner.transitioning
            then (service, .notReady)
            else if service.next = 0 then (service, .engineFailure)
            else
              let enabled := owner.loaded && !owner.loading && owner.factoryDispatchEnabled
              let added := { service.setRecord service.next
                  ⟨plugin, boundary, spec.interfaceName.takeWhile (· ≠ '\x00'), spec.priority,
                    spec.processLifetime, enabled, 0⟩ with
                subscriptions := service.next :: service.subscriptions
                next := (service.next + 1) % 2 ^ 64 }
              (if enabled then added.tell (.registered plugin) else added, .ok)

def activate (plugin : KeelPluginHandle) : FactoryService :=
  (service.setEnabled (fun handle => !service.stopping && decide (handle ∈ service.owned plugin))
    true).tell (.activated plugin)

/-- The first hold of `Unsubscribe`. -/
def unsubscribe (thread : Nat) (plugin : KeelPluginHandle)
    (handle : KeelFactorySubscriptionHandle) : FactoryService :=
  if handle ∉ service.owned plugin then service
  else
    let disabled := service.setEnabled (· == handle) false
    if service.depth thread ≠ 0 ∧ (service.records handle).active ≠ 0 then disabled
    else disabled.setStack thread (.unsubscribe handle :: service.callStacks thread)

/-- The first hold of `Deactivate`. -/
def deactivate (thread : Nat) (plugin : KeelPluginHandle) (release : Bool) : FactoryService :=
  if service.depth thread ≠ 0 ∨ service.queries ≠ 0 ∨ plugin ∈ service.pinned then service
  else
    let disabled := service.setEnabled (fun handle => decide (handle ∈ service.owned plugin)) false
    (disabled.setStack thread (.deactivate plugin (service.owned plugin) release ::
      service.callStacks thread)).tell (.began thread plugin)

/-- The first hold of `Shutdown`, which does nothing but wait afterwards. -/
def shutdown : FactoryService :=
  { service.setEnabled (fun handle => decide (handle ∈ service.subscriptions)) false with
    stopping := true }

/-! ## Queries -/

/-- `Query`; `ready` is that the host and the plugin accept. -/
def query (thread : Nat) (factory : Nat) (name : Text) (original ready : Bool) : FactoryService :=
  if (service.findBoundary factory).isNone || !validName name || service.stopping || !ready then
    service
  else { service.setStack thread (.query original :: service.callStacks thread) with
    queries := service.queries + 1 }

/-- The thread is in a dispatch of the same. -/
def dispatches (thread : Nat) (boundary : Nat) (name : Text) : Bool :=
  (service.callStacks thread).any fun frame => match frame with
    | .dispatch dispatch => dispatch.boundary == boundary && dispatch.name == name
    | _ => false

/-- The order the callbacks are called in. -/
def before (left right : KeelFactorySubscriptionHandle) : Prop :=
  if (service.records left).priority ≠ (service.records right).priority then
    (service.records right).priority < (service.records left).priority
  else left ≤ right

instance (left right : KeelFactorySubscriptionHandle) : Decidable (service.before left right) := by
  unfold before
  infer_instance

/-- The first hold of `Dispatch`. -/
def dispatch (thread : Nat) (boundary : Nat) (name : Text) : FactoryService :=
  let name := name.takeWhile (· ≠ '\x00')
  if service.bypass thread ≠ 0 || !validName name || service.depth thread = 64 ||
      service.dispatches thread boundary name || service.stopping then service
  else
    let callbacks := service.subscriptions.filter fun handle =>
      (service.records handle).factory == boundary && (service.records handle).name == name &&
        (service.records handle).enabled
    if callbacks.isEmpty then service
    else service.setStack thread (.dispatch ⟨boundary, name, .original,
      callbacks.insertionSort service.before, ⟨none, 1⟩, false, none⟩ :: service.callStacks thread)

/-- A callback has returned. -/
def concluded (dispatch : Dispatch) (handle : KeelFactorySubscriptionHandle) (outcome : Outcome) :
    Dispatch × List KeelPluginHandle :=
  let isOver := { dispatch with point := .leaving handle }
  match outcome with
  | .threw | .continued => (isOver, [])
  | .replaced sized replacement =>
    if dispatch.replaced || !sized || !(service.records handle).processLifetime then (isOver, [])
    else
      let owner := (service.records handle).owner
      ({ isOver with
          current := replacement
          replaced := true
          supplier := if replacement.instance'.isSome then some owner else none },
        if replacement.instance'.isSome then [owner] else [])

/-- What the engine is given, where it is of a plugin. -/
def given (dispatch : Dispatch) : List Event :=
  match dispatch.supplier, dispatch.current.instance' with
  | some plugin, some pointer => [.returned plugin pointer]
  | _, _ => []

/-- A `Dispatch` goes on. -/
def goOn (thread : Nat) (frames : List Frame) (reply : Reply) (dispatch : Dispatch) :
    FactoryService :=
  match dispatch.point with
  | .original =>
    match reply.original with
    | none => service.setStack thread frames
    | some current =>
      service.setStack thread
        (.dispatch { dispatch with point := .next, current := current } :: frames)
  | .next =>
    match dispatch.callbacks with
    | [] =>
      { service.setStack thread frames with history := given dispatch ++ service.history }
    | handle :: callbacks =>
      let record := service.records handle
      (service.setRecord handle { record with active := record.active + 1 }).setStack thread
        (.dispatch { dispatch with point := .entered handle, callbacks := callbacks } :: frames)
  | .entered handle =>
    service.setStack thread (.dispatch { dispatch with
      point := if (service.records handle).enabled then .running handle else .leaving handle } ::
        frames)
  | .running handle =>
    let (isOver, pins) := service.concluded dispatch handle reply.outcome
    { service.setStack thread (.dispatch isOver :: frames) with pinned := pins ++ service.pinned }
  | .leaving handle =>
    let record := service.records handle
    (service.setRecord handle { record with active := record.active - 1 }).setStack thread
      (.dispatch { dispatch with point := .next } :: frames)

/-! ## Steps -/

/-- A thread goes on with what it is in the middle of. Where it waits for a subscription that is
being called it does not. -/
def proceed (thread : Nat) (reply : Reply) : FactoryService :=
  match service.callStacks thread with
  | [] => service
  | .query _ :: frames =>
    { service.setStack thread frames with queries := service.queries - 1 }
  | .dispatch dispatch :: frames => service.goOn thread frames reply dispatch
  | .deactivate plugin (handle :: owned) release :: frames =>
    if (service.records handle).active = 0 then
      service.setStack thread (.deactivate plugin owned release :: frames)
    else service
  | .deactivate plugin [] release :: frames =>
    if plugin ∈ service.pinned then service.setStack thread frames
    else if release then service.setStack thread (.erase plugin :: frames)
    else (service.setStack thread frames).tell (.quiesced thread plugin)
  | .erase plugin :: frames =>
    ({ service with
      subscriptions := service.subscriptions.filter fun handle =>
        (service.records handle).owner ≠ plugin }.setStack thread frames).tell
          (.quiesced thread plugin)
  | .unsubscribe handle :: frames =>
    if (service.records handle).active = 0 then service.setStack thread (.remove handle :: frames)
    else service
  | .remove handle :: frames =>
    { service with subscriptions := service.subscriptions.filter (· ≠ handle) }.setStack thread
      frames

/-- The thread is outside of the service: in the engine, a factory or a plugin. -/
def outside (thread : Nat) : Bool :=
  match service.callStacks thread with
  | [] => true
  | .query _ :: _ => true
  | .dispatch dispatch :: _ =>
    match dispatch.point with
    | .original => true
    | .running _ => true
    | _ => false
  | _ => false

inductive Act
  | subscribe (plugin : KeelPluginHandle) (spec : Option SubscriptionSpec) (output : Bool)
    (accepting : Bool) (owner : Option Owner)
  | unsubscribe (plugin : KeelPluginHandle) (handle : KeelFactorySubscriptionHandle)
  | activate (plugin : KeelPluginHandle)
  | deactivate (plugin : KeelPluginHandle) (release : Bool)
  | shutdown
  | query (factory : Nat) (name : Text) (original ready : Bool)
  | dispatch (boundary : Nat) (name : Text)
  | proceed (reply : Reply)

/-- One step of a thread: what is done under one hold of the lock, or on one atomic. -/
def step (service : FactoryService) : Nat × Act → FactoryService
  | (thread, .proceed reply) => service.proceed thread reply
  | (thread, act) =>
    if !service.outside thread then service
    else match act with
      | .subscribe plugin spec output accepting owner =>
        (service.subscribe plugin spec output accepting owner).1
      | .unsubscribe plugin handle => service.unsubscribe thread plugin handle
      | .activate plugin => service.activate plugin
      | .deactivate plugin release => service.deactivate thread plugin release
      | .shutdown => service.shutdown
      | .query factory name original ready => service.query thread factory name original ready
      | .dispatch boundary name => service.dispatch thread boundary name
      | .proceed _ => service

end FactoryService
end Factories
end KeelS2.Hosting
