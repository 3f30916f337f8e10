import KeelS2.KeelHook.Callbacks
import KeelS2.KeelHook.Registry
import KeelS2.KeelHook.Value

/-!
# Direct calls

`InvokeScalar` calls a target for a plugin. With the registry's mutex and the target's own it
selects what to enter and counts itself into `direct_calls` and `active`; what it enters runs with
no mutex held. Meanwhile other threads, and what is called itself, release the target, add and
remove callbacks and release plugins. The target here is one detour: of others `InvokeScalar`
answers `UNSUPPORTED`.

A step of a thread is what it does under one hold of a mutex. `PruneTargetsLocked` and
`CollectPhysical` look at all targets, and a release at all that the plugin holds; what comes of
the others is asked of the run, as is what the hook answers.
-/

namespace KeelS2.KeelHook.Direct

open Registered (OwnerState)

/-! ## The target -/

/-- Where a direct call enters. What is allocated for the target goes by a number. -/
inductive Entry
  | address
  | closure (number : Nat)
  | trampoline (number : Nat)
  deriving DecidableEq, Repr

/-- The `TargetRecord`, with what the registry has of its plugins and of its callbacks. A plugin
has a binding where it has a lease, and there is a hook where there is a trampoline. -/
structure Target where
  owners : KeelPluginHandle → Option OwnerState
  leases : Finset KeelPluginHandle
  callbacks : List CallbackRecord
  enabled : KeelHookCallbackHandle → Bool
  nextCallback : Nat
  nextSequence : Nat
  transition : Bool
  directCalls : Nat
  active : Nat
  /-- It is in `retired_targets_`, and no longer in `targets_`. -/
  retired : Bool
  closure : Option Nat
  trampoline : Option Nat
  physicalEnabled : Bool
  /-- The next number of an allocation. -/
  made : Nat

structure KeelHookCallbackSpec where
  size : Nat
  phases : Nat
  priority : Int
  reserved : Nat
  /-- `spec->callback` is there. -/
  callback : Bool

def sizeofCallbackSpec : Nat := 32

/-- The check `AddCallback` begins with. -/
def KeelHookCallbackSpec.valid (spec : KeelHookCallbackSpec) : Bool :=
  spec.size = sizeofCallbackSpec && spec.callback && spec.reserved = 0 && spec.phases ≠ 0 &&
    spec.phases ||| phaseBoth = phaseBoth

/-- What a thread finds at the hook, on its own stacks and at other targets. -/
structure Answers where
  /-- The other targets on `target_stack_`. -/
  elsewhere : Nat
  /-- The direct calls of other targets. -/
  directElsewhere : Nat
  /-- `quiesce`, or `trap_threads`, finds no thread in the closure. -/
  quiesced : Bool
  allocated : Bool
  created : Bool
  activated : Bool
  disabled : Bool
  /-- `IsCurrentOwner`. -/
  currentOwner : Bool
  /-- Another target keeps the plugin from being released. -/
  othersBusy : Bool
  othersRestored : Bool

/-- A `ReleaseOperation` on the target, with `owner_path`. -/
structure ReleaseOperation where
  path : Text
  callbacks : List KeelHookCallbackHandle
  leased : Bool
  disable : Bool
  restored : Bool

/-- What is asked of the service. A callback is added by a specification, with a place for the
handle, unless one of the two is missing. `leave` is what is left of an operation behind its last
`CollectPhysical`. -/
inductive Task
  | releaseTarget (plugin : KeelPluginHandle)
  | addCallback (plugin : KeelPluginHandle) (spec : Option KeelHookCallbackSpec)
  | removeCallback (plugin : KeelPluginHandle) (handle : KeelHookCallbackHandle)
  | releasePlugin (plugin : KeelPluginHandle)
  | leave (result : KeelResult)

/-- Where a thread stands in an operation, by what it does next. -/
inductive Work
  /-- The first hold of `CollectPhysical`. -/
  | collecting (task : Task)
  /-- `DestroyPhysical`, of a candidate. -/
  | destroying (task : Task)
  | starting (task : Task)
  /-- `AddCallback`: `EnablePhysical`, and what comes of it. -/
  | enabling (handle : KeelHookCallbackHandle)
  | finishing
  | withdrawing (handle : KeelHookCallbackHandle)
  /-- `RemoveCallback`: `DisablePhysical`, and what comes of it. -/
  | disabling (handle : KeelHookCallbackHandle) (wasEnabled : Bool)
  | restoring (handle : KeelHookCallbackHandle) (wasEnabled : Bool)
  | erasing (handle : KeelHookCallbackHandle)
  /-- `ReleasePlugin`: the first and the second try at the hook, the wait for `active`, and the
  second hold of the registry's mutex. -/
  | releasing (plugin : KeelPluginHandle) (operation : ReleaseOperation)
  | retrying (plugin : KeelPluginHandle) (operation : ReleaseOperation)
  | waiting (plugin : KeelPluginHandle) (operation : ReleaseOperation)
  | settling (plugin : KeelPluginHandle) (operation : Option ReleaseOperation)

/-- An operation that is through, with its result. -/
def Work.done (result : KeelResult) : Work := .starting (.leave result)

/-! ## What is done under a mutex -/

section Sections

variable (touches : Text → Bool)

namespace Target

variable (target : Target)

/-- `OwnerReadyLocked`. -/
def ownerReady (plugin : KeelPluginHandle) : Bool :=
  (target.owners plugin).any OwnerState.accepting

/-- `targets_.find`, and the lease. -/
def leased (plugin : KeelPluginHandle) : Bool :=
  !target.retired && plugin ∈ target.leases

/-- What `PruneTargetsLocked` does to the target. -/
def prune : Target :=
  if !target.transition ∧ target.leases = ∅ ∧ target.callbacks = [] then
    { target with retired := true }
  else target

/-- The first hold of `CollectPhysical`; `deep` is that `target_depth_` is not zero. -/
def collect (deep : Bool) (task : Task) : Work :=
  if deep then .starting task
  else if target.retired || (!target.transition && target.callbacks.isEmpty) then .destroying task
  else .starting task

def destroyPhysical (quiesced : Bool) : Target :=
  if target.active ≠ 0 ∨ target.physicalEnabled then target
  else if (target.trampoline.isSome ∨ target.closure.isSome) ∧ ¬ quiesced then target
  else { target with trampoline := none, closure := none }

/-- The closure is allocated where there is none. -/
def withClosure (allocated : Bool) : Option Target :=
  if target.closure.isSome then some target
  else if allocated then
    some { target with closure := some target.made, made := target.made + 1 }
  else none

/-- The hook is created, with its trampoline, where there is none. -/
def withHook (created : Bool) : Option Target :=
  if target.trampoline.isSome then some target
  else if created then
    some { target with trampoline := some target.made, made := target.made + 1 }
  else none

def enablePhysical (answers : Answers) : Bool × Target :=
  if target.physicalEnabled then (true, target)
  else match target.withClosure answers.allocated with
    | none => (false, target)
    | some closed => match closed.withHook answers.created with
      | none => (false, { closed with closure := none })
      | some hooked =>
        if answers.activated then (true, { hooked with physicalEnabled := true })
        else (false, { hooked with trampoline := none, closure := none })

def disablePhysical (disabled : Bool) : Bool × Target :=
  if !target.physicalEnabled then (true, target)
  else if disabled then (true, { target with physicalEnabled := false })
  else (false, target)

/-- A callback leaves `callbacks_` and the target's own list. -/
def eraseCallback (handle : KeelHookCallbackHandle) : Target :=
  { target with callbacks := target.callbacks.filter (·.handle ≠ handle) }

def setEnabled (handle : KeelHookCallbackHandle) (enabled : Bool) : Target :=
  { target with enabled := Function.update target.enabled handle enabled }

/-! ### The first holds of the operations -/

def releaseTarget (plugin : KeelPluginHandle) : Target × Work :=
  if (target.owners plugin).isNone then (target, .done .notReady)
  else if !target.leased plugin then (target, .done .notFound)
  else if target.transition || target.directCalls ≠ 0 then (target, .done .busy)
  else if target.callbacks.any (·.owner = plugin) then (target, .done .busy)
  else
    ({ target with leases := target.leases.erase plugin }.prune, .collecting (.leave .ok))

def addCallback (plugin : KeelPluginHandle) (spec : Option KeelHookCallbackSpec) : Target × Work :=
  match spec.filter KeelHookCallbackSpec.valid with
  | none => (target, .done .invalidArgument)
  | some spec =>
    if !target.ownerReady plugin then (target, .done .notReady)
    else if !target.leased plugin then (target, .done .notFound)
    else if target.transition || target.directCalls ≠ 0 then (target, .done .busy)
    else if target.nextCallback = 0 ∨ target.nextSequence = 0 then (target, .done .engineFailure)
    else
      let first := target.callbacks.isEmpty
      let callback : CallbackRecord :=
        { handle := target.nextCallback, owner := plugin, phases := spec.phases
          priority := spec.priority, sequence := target.nextSequence }
      ({ target.setEnabled callback.handle ((target.owners plugin).any OwnerState.active) with
          transition := first
          nextCallback := (target.nextCallback + 1) % 2 ^ 64
          nextSequence := (target.nextSequence + 1) % 2 ^ 64
          callbacks := target.callbacks ++ [callback] },
        if first then .enabling callback.handle else .done .ok)

def removeCallback (plugin : KeelPluginHandle) (handle : KeelHookCallbackHandle) :
    Target × Work :=
  if (target.owners plugin).isNone then (target, .done .notReady)
  else match target.callbacks.find? (·.handle = handle) with
    | none => (target, .done .notFound)
    | some callback =>
      if callback.owner ≠ plugin then (target, .done .notFound)
      else if target.transition || target.directCalls ≠ 0 then (target, .done .busy)
      else
        ({ target.setEnabled handle false with transition := true },
          if target.callbacks.length = 1 then .disabling handle (target.enabled handle)
          else .erasing handle)

/-- `owned_callbacks`. -/
def ownedCallbacks (plugin : KeelPluginHandle) : List KeelHookCallbackHandle :=
  (target.callbacks.filter (·.owner = plugin)).map CallbackRecord.handle

/-- There is something of the plugin's to take off the target. -/
def holds (plugin : KeelPluginHandle) : Bool :=
  !target.retired && (plugin ∈ target.leases || target.callbacks.any (·.owner = plugin))

/-- `other_lease || other_callback`. -/
def shared (plugin : KeelPluginHandle) : Prop :=
  (∃ lease ∈ target.leases, lease ≠ plugin) ∨ ∃ callback ∈ target.callbacks,
    callback.owner ≠ plugin

instance (plugin : KeelPluginHandle) : Decidable (target.shared plugin) :=
  inferInstanceAs (Decidable ((∃ lease ∈ target.leases, lease ≠ plugin) ∨
    ∃ callback ∈ target.callbacks, callback.owner ≠ plugin))

/-- The checks of `ReleasePlugin` that end in `BUSY`; `onTarget` is `IsCurrentTarget`. -/
def keeps (plugin : KeelPluginHandle) (owner : OwnerState) (onTarget : Bool)
    (answers : Answers) : Prop :=
  answers.currentOwner = true ∨
    (target.retired = false ∧ touches owner.path = true ∧ target.shared plugin) ∨
    (target.holds plugin = true ∧ (target.transition = true ∨ onTarget = true)) ∨
    answers.othersBusy = true

instance (plugin : KeelPluginHandle) (owner : OwnerState) (onTarget : Bool) (answers : Answers) :
    Decidable (target.keeps touches plugin owner onTarget answers) :=
  inferInstanceAs (Decidable (answers.currentOwner = true ∨
    (target.retired = false ∧ touches owner.path = true ∧ target.shared plugin) ∨
    (target.holds plugin = true ∧ (target.transition = true ∨ onTarget = true)) ∨
    answers.othersBusy = true))

def releaseOperation (plugin : KeelPluginHandle) (path : Text) : ReleaseOperation where
  path := path
  callbacks := target.ownedCallbacks plugin
  leased := plugin ∈ target.leases
  disable := target.callbacks.length - (target.ownedCallbacks plugin).length = 0 ∧
    target.callbacks ≠ []
  restored := true

def refuse (plugin : KeelPluginHandle) (owner : OwnerState) : Target :=
  { target with
    owners := Function.update target.owners plugin (some { owner with accepting := false }) }

/-- The first hold of `ReleasePlugin`. -/
def releasePlugin (plugin : KeelPluginHandle) (onTarget : Bool) (answers : Answers) :
    Target × Work :=
  match target.owners plugin with
  | none => (target, .done .ok)
  | some owner =>
    if target.keeps touches plugin owner onTarget answers then (target, .done .busy)
    else if !target.holds plugin then (target.refuse plugin owner, .settling plugin none)
    else
      ({ target.refuse plugin owner with
          transition := true
          enabled := fun handle =>
            if handle ∈ target.ownedCallbacks plugin then false else target.enabled handle },
        .releasing plugin (target.releaseOperation plugin owner.path))

/-! ### The other holds -/

/-- One try of `ReleasePlugin` at the hook. -/
def tryDisable (operation : ReleaseOperation) (disabled : Bool) : ReleaseOperation × Target :=
  if operation.disable then
    ({ operation with restored := (target.disablePhysical disabled).1 },
      (target.disablePhysical disabled).2)
  else (operation, target)

/-- The second hold of `ReleasePlugin`, as far as it is about the target. -/
def settle (plugin : KeelPluginHandle) (operation : ReleaseOperation) : Target :=
  if operation.restored then
    { target with
      leases := if operation.leased then target.leases.erase plugin else target.leases
      callbacks := target.callbacks.filter (·.handle ∉ operation.callbacks)
      transition := false }
  else { target with transition := false }

/-- The second hold of `ReleasePlugin`; there is an operation where the plugin held something of
the target's. -/
def settlePlugin (plugin : KeelPluginHandle) (operation : Option ReleaseOperation)
    (othersRestored : Bool) : Target × Work :=
  let settled := operation.elim target (target.settle plugin)
  if operation.all ReleaseOperation.restored && othersRestored then
    ({ settled with owners := Function.update settled.owners plugin none }.prune,
      .collecting (.leave .ok))
  else (settled.prune, .collecting (.leave .engineFailure))

/-- What a thread does next in an operation; `none` if it waits. An operation that is through
leaves no work. The waits for callbacks are over when the thread goes on. -/
def go (deep onTarget : Bool) (answers : Answers) : Work → Option (Target × Option Work)
  | .collecting task => some (target, target.collect deep task)
  | .destroying task => some (target.destroyPhysical answers.quiesced, some (.starting task))
  | .starting (.leave _) => some (target, none)
  | .starting (.releaseTarget plugin) => some ((target.releaseTarget plugin).map id some)
  | .starting (.addCallback plugin spec) => some ((target.addCallback plugin spec).map id some)
  | .starting (.removeCallback plugin handle) =>
    some ((target.removeCallback plugin handle).map id some)
  | .starting (.releasePlugin plugin) =>
    some ((target.releasePlugin touches plugin onTarget answers).map id some)
  | .enabling handle =>
    let enabled := target.enablePhysical answers
    some (enabled.2, some (if enabled.1 then .finishing else .withdrawing handle))
  | .finishing => some ({ target with transition := false }, some (.done .ok))
  | .withdrawing handle =>
    some ({ (target.setEnabled handle false).eraseCallback handle with transition := false },
      some (.done .engineFailure))
  | .disabling handle wasEnabled =>
    let disabled := target.disablePhysical answers.disabled
    some (disabled.2, some (if disabled.1 then .erasing handle else .restoring handle wasEnabled))
  | .restoring handle wasEnabled =>
    some ({ target.setEnabled handle wasEnabled with transition := false },
      some (.done .engineFailure))
  | .erasing handle =>
    some ({ target.eraseCallback handle with transition := false }.prune,
      some (.collecting (.leave .ok)))
  | .releasing plugin operation =>
    let tried := target.tryDisable operation answers.disabled
    some (tried.2, some (.retrying plugin tried.1))
  | .retrying plugin operation =>
    if operation.restored then some (target, some (.waiting plugin operation))
    else
      let tried := target.tryDisable operation answers.disabled
      some (tried.2, some (.waiting plugin tried.1))
  | .waiting plugin operation =>
    if operation.restored && touches operation.path && target.active ≠ 0 then none
    else some (target, some (.settling plugin (some operation)))
  | .settling plugin operation =>
    some ((target.settlePlugin plugin operation answers.othersRestored).map id some)

end Target

end Sections

/-! ## The direct call -/

/-- `KEELCALL_MAX_DEPTH`. -/
def maxDepth : Nat := 8

/-- `target_stack_.size()`. -/
def targetLimit : Nat := 64

/-- An argument is of its type, and a `KeelBool` is one of two. -/
def argumentValid (value : KeelHookValue) (type : KeelHookValueType) : Bool :=
  value.type = type && value.reserved = 0 &&
    (value.type ≠ valueBool || value.word.toNat % 2 ^ 32 ≤ 1)

/-- The checks of `InvokeScalar` that look at the prototype and at the arguments. -/
def scalarCall (prototype : PrototypeData) (arguments : List KeelHookValue) : KeelResult :=
  if prototype.vafmt ∨
      (prototype.returnType ≠ valueVoid ∧ ¬ isScalarValueType prototype.returnType) ∨
      prototype.arguments.any (fun type => !isScalarValueType type) then .unsupported
  else if prototype.arguments.length ≠ arguments.length then .invalidArgument
  else if !(List.zipWith argumentValid arguments prototype.arguments).all id then .invalidArgument
  else if prototype.method ∧ arguments.head?.all (·.word = 0) then .invalidArgument
  else .ok

/-- `function`; `hooks` is `KEELCALL_INVOKE_HOOKS`. -/
def Target.entry (target : Target) (hooks : Bool) : Entry :=
  match target.closure.filter fun _ => hooks with
  | some number => .closure number
  | none => match target.trampoline with
    | some number => .trampoline number
    | none => .address

/-- The hold of `InvokeScalar`. -/
def Target.invokeScalar (target : Target) (prototype : PrototypeData) (plugin : KeelPluginHandle)
    (hooks : Bool) (arguments : List KeelHookValue) : Except KeelResult (Entry × Target) :=
  if !target.ownerReady plugin then .error .notReady
  else if !target.leased plugin then .error .notFound
  else if target.transition then .error .busy
  else if scalarCall prototype arguments ≠ .ok then .error (scalarCall prototype arguments)
  else
    .ok (target.entry hooks,
      { target with directCalls := target.directCalls + 1, active := target.active + 1 })

/-! ## Threads -/

inductive Frame
  /-- `InvokeScalar`, in what it has entered. -/
  | direct (entry : Entry)
  /-- `Dispatch`, counted in `active`; `pushed` is that `target_stack_` had room. -/
  | hooked (pushed : Bool)
  | work (work : Work)

namespace Frame

def isDirect : Frame → Bool
  | direct _ => true
  | _ => false

/-- It is counted in `active`. -/
def isActive : Frame → Bool
  | direct _ | hooked _ => true
  | work _ => false

/-- The target is on `target_stack_` for it. -/
def onStack : Frame → Bool
  | direct _ | hooked true => true
  | _ => false

end Frame

structure State where
  target : Target
  callStacks : Nat → List Frame

namespace State

variable (state : State) (thread : Nat)

def setStack (frames : List Frame) : State :=
  { state with callStacks := Function.update state.callStacks thread frames }

/-- What the thread is in is not the service itself. -/
def outside : Bool :=
  match state.callStacks thread with
  | .work _ :: _ => false
  | _ => true

/-- `IsCurrentTarget`. -/
def onTarget : Bool := (state.callStacks thread).any Frame.onStack

/-- `target_depth_`. -/
def targetDepth (answers : Answers) : Nat :=
  (state.callStacks thread).countP Frame.onStack + answers.elsewhere

/-- `direct_call_depth_`. -/
def directCallDepth (answers : Answers) : Nat :=
  (state.callStacks thread).countP Frame.isDirect + answers.directElsewhere

/-- `InvokeScalar` up to the call, with what it answers where there is none. -/
def invoke (prototype : PrototypeData) (plugin : KeelPluginHandle) (hooks : Bool)
    (arguments : List KeelHookValue) (answers : Answers) : Except KeelResult State :=
  if maxDepth ≤ state.directCallDepth thread answers ∨
      targetLimit ≤ state.targetDepth thread answers then .error .busy
  else match state.target.invokeScalar prototype plugin hooks arguments with
    | .error result => .error result
    | .ok (entry, target) =>
      .ok ({ state with target := target }.setStack thread
        (.direct entry :: state.callStacks thread))

/-- `Dispatch` as far as the count. It is entered through the closure. -/
def enter (answers : Answers) : State :=
  if state.target.closure.isNone then state
  else
    { state with target := { state.target with active := state.target.active + 1 } }.setStack thread
      (.hooked (state.targetDepth thread answers < targetLimit) :: state.callStacks thread)

/-- The end of what was entered, in whatever way. -/
def leave : State :=
  match state.callStacks thread with
  | .direct _ :: frames =>
    { state with target :=
        { state.target with
          directCalls := state.target.directCalls - 1
          active := state.target.active - 1 } }.setStack thread frames
  | .hooked _ :: frames =>
    { state with target := { state.target with active := state.target.active - 1 } }.setStack
      thread frames
  | _ => state

/-- The thread goes on with an operation. -/
def go (touches : Text → Bool) (answers : Answers) : State :=
  match state.callStacks thread with
  | .work work :: frames =>
    match state.target.go touches (state.targetDepth thread answers ≠ 0) (state.onTarget thread)
        answers work with
    | some (target, next) =>
      { state with target := target }.setStack thread ((next.map Frame.work).toList ++ frames)
    | none => state
  | _ => state

end State

inductive Action
  | begin (thread : Nat) (task : Task)
  | go (thread : Nat) (answers : Answers)
  | invoke (thread : Nat) (plugin : KeelPluginHandle) (hooks : Bool)
      (arguments : List KeelHookValue) (answers : Answers)
  | enter (thread : Nat) (answers : Answers)
  | leave (thread : Nat)

section Steps

variable (prototype : PrototypeData) (touches : Text → Bool)

/-- One step; what cannot be done changes nothing. -/
def step (state : State) : Action → State
  | .begin thread task =>
    if state.outside thread then
      state.setStack thread (.work (.collecting task) :: state.callStacks thread)
    else state
  | .go thread answers => state.go thread touches answers
  | .invoke thread plugin hooks arguments answers =>
    if state.outside thread then
      (state.invoke thread prototype plugin hooks arguments answers).toOption.getD state
    else state
  | .enter thread answers =>
    if state.outside thread then state.enter thread answers else state
  | .leave thread => state.leave thread

end Steps

/-! ## What is promised -/

/-- What an entry stands for is there. -/
def Target.Stands (target : Target) : Entry → Prop
  | .address => True
  | .closure number => target.closure = some number
  | .trampoline number => target.trampoline = some number

/-- The callbacks, the leases and the physical hook. -/
def Target.hooking (target : Target) :
    List CallbackRecord × Finset KeelPluginHandle × Option Nat × Option Nat × Bool :=
  (target.callbacks, target.leases, target.closure, target.trampoline, target.physicalEnabled)

end KeelS2.KeelHook.Direct
