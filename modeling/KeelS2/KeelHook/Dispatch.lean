import KeelS2.KeelHook.Callbacks
import KeelS2.KeelHook.Native

/-!
# One dispatch

`Dispatch` runs when a hooked function is called: PRE callbacks, the original, POST
callbacks, each of which may edit the arguments and the return value in place. From inside a
callback the plugin may also call the original itself, or have the target called again from
where it stands; the latter is a dispatch inside the dispatch, so everything here is a
recursion on how much of the thread's target stack is left.

A callback is a `Script`: what it writes, and the control calls it makes on the way. It is a
function of what it sees; since no callback runs twice in a phase, state that callbacks keep
or share changes nothing about a single dispatch.
-/

namespace KeelS2.KeelHook

abbrev KeelHookAction := Nat

def actionContinue : Nat := 0
def actionOverride : Nat := 1
def actionSupersede : Nat := 2

def frameOriginalCalled : Nat := 1
def frameRecalled : Nat := 2

def sizeofFrame : Nat := 64

/-- The lengths of the thread's three stacks. -/
def targetStackSize : Nat := 64
def dispatchStackSize : Nat := 64
def callbackStackSize : Nat := 128

structure KeelHookFrame where
  size : Nat
  phase : Nat
  target : KeelHookTargetHandle
  argumentCount : Nat
  flags : Nat
  arguments : UInt64
  result : KeelHookValue
  deriving DecidableEq, Repr

/-- Everything a callback can read and write: the frame, the argument array behind it, and
the storages the values point at. -/
structure FrameMemory where
  frame : KeelHookFrame
  arguments : List (KeelHookValue × Bytes)
  resultBytes : Bytes
  deriving DecidableEq, Repr

/-- What of a target's registrations a dispatch looks at. -/
structure Registration where
  callbacks : List CallbackRecord
  enabled : KeelHookCallbackHandle → Bool
  binding : Option PrototypeBinding

/-- What a callback does, from some point on. A control call names the plugin that makes it
and the dispatch whose frame it passes, counted from the bottom of the thread's stack. -/
inductive Script
  /-- Returns an action; `none` throws. -/
  | done (memory : FrameMemory) (action : Option KeelHookAction)
  | callOriginal (plugin : KeelPluginHandle) (frame : Nat) (memory : FrameMemory)
      (next : FrameMemory → KeelResult → Script)
  | recallTarget (plugin : KeelPluginHandle) (frame : Nat) (memory : FrameMemory)
      (next : FrameMemory → KeelResult → Script)
  /-- Callbacks are added, removed, enabled or disabled meanwhile. -/
  | update (change : Registration → Registration) (next : Script)

/-- What happens in a dispatch that somebody outside could notice. -/
inductive Event
  | callback (callback : CallbackRecord) (seen : FrameMemory)
  | original (arguments : List NativeArgument)
  deriving DecidableEq

structure World where
  registration : Registration
  events : List Event

/-- The world after more has happened in it. -/
def World.after (world : World) (events : List Event) : World :=
  { world with events := world.events ++ events }

def World.record (world : World) (event : Event) : World := world.after [event]

@[simp]
theorem World.after_registration (world : World) (events : List Event) :
    (world.after events).registration = world.registration := rfl

@[simp]
theorem World.after_nil (world : World) : world.after [] = world := by
  simp [World.after]

theorem World.after_after (world : World) (events later : List Event) :
    (world.after events).after later = world.after (events ++ later) := by
  simp [World.after]

/-- Where a dispatch keeps its arguments and the storage of each value. -/
structure StackLayout where
  arguments : UInt64
  argument : Nat → UInt64
  result : UInt64

/-- What is not the service's own: the plugins' code, the call adapter, and memory. `receive`
is what a native callee finds of what was pushed for it. -/
structure Environment where
  lifecycle : Lifecycle
  memory : NativeMemory
  formatted : UInt64
  layout : Nat → StackLayout
  receive : PrototypeData → List NativeArgument → List NativeArgument
  behaviour : CallbackRecord → FrameMemory → Script

/-- The parts of a `TargetRecord` that a dispatch reads and nothing changes meanwhile.
`trampoline` is the original function, `closure` whether there is a native closure. -/
structure DispatchTarget where
  handle : KeelHookTargetHandle
  prototype : PrototypeData
  trampoline : Option (List NativeArgument → NativeReturn)
  closure : Bool

/-- The original as native code: it is called, which is noticed, and returns. -/
def DispatchTarget.originalFunction (target : DispatchTarget) : Option (NativeFunction World) :=
  target.trampoline.map fun original arguments world =>
    (original arguments, world.record (.original arguments))

/-- The local variables of `Dispatch` that callbacks and control calls reach. `result` is the
variable of that name with `result_storage`; `frame.result` is a second value over the same
storage. -/
structure Locals where
  arguments : List Cell
  result : Cell
  frame : KeelHookFrame
  originalCalled : Bool
  overridden : Bool
  superseded : Bool
  recalled : Bool
  deriving DecidableEq, Repr

structure RecallState where
  callback : CallbackRecord
  result : Cell
  overridden : Bool

/-- What stays the same through one dispatch. `closure` calls the target again; it is `none`
when the target stack is full. -/
structure DispatchContext where
  environment : Environment
  target : DispatchTarget
  binding : PrototypeBinding
  depth : Nat
  callbackDepth : Nat
  closure : Option (RecallState → NativeFunction World)

namespace DispatchContext

variable (context : DispatchContext)

abbrev prototype : PrototypeData := context.target.prototype
abbrev lifecycle : Lifecycle := context.environment.lifecycle
abbrev returnSlot : ValueSlot := context.prototype.returnSlot
abbrev argumentSlots : List ValueSlot := context.prototype.argumentSlots

end DispatchContext

/-! ## What a callback sees and leaves -/

def Locals.memory (locals : Locals) : FrameMemory :=
  { frame := locals.frame
    arguments := locals.arguments.map fun cell => (cell.value, cell.storage.bytes)
    resultBytes := locals.result.storage.bytes }

def writeArguments : List ValueSlot → List Cell → List (KeelHookValue × Bytes) → List Cell
  | slot :: slots, cell :: cells, (value, bytes) :: rest =>
    cell.write slot value bytes :: writeArguments slots cells rest
  | _, cells, _ => cells

/-- The local variables after a callback's writes. It reaches the result only through the
frame, and `result`'s storage through the value there. -/
def Locals.write (context : DispatchContext) (locals : Locals) (memory : FrameMemory) : Locals :=
  { locals with
    arguments := writeArguments context.argumentSlots locals.arguments memory.arguments
    frame := memory.frame
    result := ⟨locals.result.value,
      locals.result.storage.write context.returnSlot memory.frame.result memory.resultBytes⟩ }

/-- The value in the frame, over the result's storage. -/
def Locals.edited (locals : Locals) : Cell := ⟨locals.frame.result, locals.result.storage⟩

/-! ## Snapshots -/

/-- `SnapshotValues` and `RestoreArguments` copy argument by argument. Storages of the copies
that are put aside lie where nothing looks. -/
def copyArguments (lifecycle : Lifecycle) : List ValueSlot → List Cell → List Cell → List Cell
  | slot :: slots, source :: sources, output :: outputs =>
    copyValue lifecycle slot source output :: copyArguments lifecycle slots sources outputs
  | _, _, outputs => outputs

structure Snapshot where
  arguments : List Cell
  result : Cell

def snapshotValues (context : DispatchContext) (locals : Locals) : Snapshot :=
  { arguments := copyArguments context.lifecycle context.argumentSlots locals.arguments
      (locals.arguments.map fun _ => .fresh 0)
    result := copyValue context.lifecycle context.returnSlot locals.result (.fresh 0) }

def restoreArguments (context : DispatchContext) (before : Snapshot) (locals : Locals) : Locals :=
  { locals with
    arguments := copyArguments context.lifecycle context.argumentSlots before.arguments
      locals.arguments }

def restoreResult (context : DispatchContext) (before : Snapshot) (locals : Locals) : Locals :=
  { locals with
    result := copyValue context.lifecycle context.returnSlot before.result locals.result }

def validateArguments (lifecycle : Lifecycle) : List ValueSlot → List Cell → List Cell → List Cell
  | slot :: slots, before :: befores, written :: rest =>
    validateValue lifecycle slot before written :: validateArguments lifecycle slots befores rest
  | _, _, rest => rest

/-- The frame's header as the dispatcher writes it. -/
def DispatchContext.header (context : DispatchContext) (phase flags : Nat)
    (result : KeelHookValue) : KeelHookFrame :=
  { size := sizeofFrame
    phase
    target := context.target.handle
    argumentCount := context.prototype.arguments.length
    flags
    arguments := (context.environment.layout context.depth).arguments
    result }

/-- `(original_called ? KH_FRAME_ORIGINAL_CALLED : 0) | (frame.flags & KH_FRAME_RECALLED)`. -/
def carriedFlags (originalCalled : Bool) (flags : Nat) : Nat :=
  (if originalCalled then frameOriginalCalled else 0) ||| (flags &&& frameRecalled)

def validateFrame (context : DispatchContext) (phase : Nat) (before : Snapshot)
    (locals : Locals) : Locals :=
  let result := validateValue context.lifecycle context.returnSlot before.result locals.edited
  { locals with
    arguments := validateArguments context.lifecycle context.argumentSlots before.arguments
      locals.arguments
    result := ⟨locals.result.value, result.storage⟩
    frame := context.header phase (carriedFlags locals.originalCalled locals.frame.flags)
      result.value }

/-! ## Control calls -/

/-- `CurrentControl`, for a call made from inside `callback`. -/
def currentControl (context : DispatchContext) (callback : CallbackRecord)
    (plugin : KeelPluginHandle) (frame : Nat) : Bool :=
  callback.owner = plugin ∧ frame = context.depth

def callOriginalControl (context : DispatchContext) (callback : CallbackRecord)
    (plugin : KeelPluginHandle) (frame : Nat) (locals : Locals) (world : World) :
    KeelResult × Locals × World :=
  if !currentControl context callback plugin frame then
    (.notReady, locals, world)
  else if locals.frame.phase ≠ phasePre then
    (.unsupported, locals, world)
  else if locals.originalCalled || locals.superseded then
    (.alreadyExists, locals, world)
  else
    let (value, world) :=
      callFunction context.lifecycle context.environment.memory context.prototype context.binding
        context.target.originalFunction locals.arguments (.fresh 0) world
    let result := copyValue context.lifecycle context.returnSlot value locals.result
    (.ok,
      { locals with
        result
        frame := { locals.frame with
          result := result.value
          flags := locals.frame.flags ||| frameOriginalCalled }
        originalCalled := true },
      world)

def recallControl (context : DispatchContext) (callback : CallbackRecord)
    (plugin : KeelPluginHandle) (frame : Nat) (locals : Locals) (world : World) :
    KeelResult × Locals × World :=
  if !currentControl context callback plugin frame then
    (.notReady, locals, world)
  else if locals.frame.phase ≠ phasePre ∨ !context.target.closure then
    (.unsupported, locals, world)
  else if locals.originalCalled || locals.superseded then
    (.alreadyExists, locals, world)
  else
    match context.closure with
    | none => (.busy, locals, world)
    | some closure =>
      let (value, world) :=
        callFunction context.lifecycle context.environment.memory context.prototype
          context.binding (some (closure ⟨callback, locals.result, locals.overridden⟩))
          locals.arguments (.fresh 0) world
      let result := copyValue context.lifecycle context.returnSlot value locals.result
      (.ok,
        { locals with
          result
          frame := { locals.frame with
            result := result.value
            flags := locals.frame.flags ||| (frameOriginalCalled ||| frameRecalled) }
          originalCalled := true
          recalled := true },
        world)

/-! ## Callbacks -/

/-- Runs a callback's code to its end. -/
def runScript (context : DispatchContext) (callback : CallbackRecord) :
    Script → Locals → World → Option KeelHookAction × Locals × World
  | .done memory action, locals, world => (action, locals.write context memory, world)
  | .callOriginal plugin frame memory next, locals, world =>
    let (answer, locals, world) :=
      callOriginalControl context callback plugin frame (locals.write context memory) world
    runScript context callback (next locals.memory answer) locals world
  | .recallTarget plugin frame memory next, locals, world =>
    let (answer, locals, world) :=
      recallControl context callback plugin frame (locals.write context memory) world
    runScript context callback (next locals.memory answer) locals world
  | .update change next, locals, world =>
    runScript context callback next locals
      { world with registration := change world.registration }

def invokeCallback (context : DispatchContext) (callback : CallbackRecord) (locals : Locals)
    (world : World) : KeelHookAction × Locals × World :=
  if !world.registration.enabled callback.handle then
    (actionContinue, locals, world)
  else if context.callbackDepth ≥ callbackStackSize then
    (actionContinue, locals, world)
  else
    let (action, locals, world) :=
      runScript context callback (context.environment.behaviour callback locals.memory) locals
        (world.record (.callback callback locals.memory))
    (action.getD actionContinue, locals, world)

/-- What the PRE loop makes of a callback's action, after `ValidateFrame`. -/
def applyPreAction (context : DispatchContext) (before : Snapshot) (explicitCall : Bool)
    (action : KeelHookAction) (locals : Locals) : Locals :=
  if action = actionContinue then
    if explicitCall then locals else restoreResult context before locals
  else if action = actionOverride then
    if !locals.superseded then
      { locals with result := locals.edited, overridden := true }
    else
      restoreResult context before locals
  else if action = actionSupersede then
    { locals with result := locals.edited, overridden := true, superseded := true }
  else if explicitCall then
    locals
  else
    restoreResult context before (restoreArguments context before locals)

/-- `frame.result = result`, at the end of each turn. -/
def Locals.showResult (locals : Locals) : Locals :=
  { locals with frame := { locals.frame with result := locals.result.value } }

/-- One turn of the PRE loop. -/
def preTurn (context : DispatchContext) (callback : CallbackRecord) (locals : Locals)
    (world : World) : Locals × World :=
  let before := snapshotValues context locals
  let originalBefore := locals.originalCalled
  let (action, locals, world) := invokeCallback context callback locals world
  let locals := validateFrame context phasePre before locals
  let explicitCall := !originalBefore && locals.originalCalled
  ((applyPreAction context before explicitCall action locals).showResult, world)

def preLoop (context : DispatchContext) : List CallbackRecord → Locals → World → Locals × World
  | [], locals, world => (locals, world)
  | callback :: rest, locals, world =>
    if !callback.runsIn phasePre then
      preLoop context rest locals world
    else
      let (locals, world) := preTurn context callback locals world
      if locals.recalled then (locals, world) else preLoop context rest locals world

/-- The original, where no callback has called it or stands in for it. -/
def implicitOriginal (context : DispatchContext) (locals : Locals) (world : World) :
    Locals × World :=
  if !locals.recalled && !locals.superseded && !locals.originalCalled then
    let (original, world) :=
      callFunction context.lifecycle context.environment.memory context.prototype context.binding
        context.target.originalFunction locals.arguments (.fresh 0) world
    ({ locals with
        originalCalled := true
        result := if !locals.overridden then
            copyValue context.lifecycle context.returnSlot original locals.result
          else
            locals.result
        frame := { locals.frame with flags := locals.frame.flags ||| frameOriginalCalled } },
      world)
  else
    (locals, world)

/-- What the POST loop makes of a callback's action. -/
def applyPostAction (context : DispatchContext) (before : Snapshot) (action : KeelHookAction)
    (locals : Locals) : Locals :=
  if action = actionOverride then
    { locals with result := locals.edited }
  else
    restoreResult context before
      (if action ≠ actionContinue then restoreArguments context before locals else locals)

/-- One turn of the POST loop. -/
def postTurn (context : DispatchContext) (callback : CallbackRecord) (locals : Locals)
    (world : World) : Locals × World :=
  let before := snapshotValues context locals
  let (action, locals, world) := invokeCallback context callback locals world
  let locals := validateFrame context phasePost before locals
  ((applyPostAction context before action locals).showResult, world)

def postLoop (context : DispatchContext) : List CallbackRecord → Locals → World → Locals × World
  | [], locals, world => (locals, world)
  | callback :: rest, locals, world =>
    if !callback.runsIn phasePost then
      postLoop context rest locals world
    else
      let (locals, world) := postTurn context callback locals world
      postLoop context rest locals world

/-- The locals with which the POST loop starts. -/
def Locals.enterPost (locals : Locals) : Locals :=
  { locals with frame := { locals.frame with phase := phasePost, result := locals.result.value } }

/-- The POST phase, which a recalled dispatch has had inside. -/
def postPhase (context : DispatchContext) (callbacks : List CallbackRecord) (locals : Locals)
    (world : World) : Locals × World :=
  if locals.recalled then
    (locals, world)
  else
    postLoop context callbacks.reverse locals.enterPost world

/-! ## The dispatch -/

/-- The callbacks from which the PRE loop starts: all of them, or those behind the one that
recalled the target. -/
def preCallbacks (callbacks : List CallbackRecord) : Option RecallState → List CallbackRecord
  | none => callbacks
  | some state => (callbacks.dropWhile (· ≠ state.callback)).drop 1

/-- The local variables when the callbacks' turn comes. -/
def DispatchContext.locals (context : DispatchContext) (recallState : Option RecallState)
    (arguments : List Cell) (result : Cell) : Locals :=
  { arguments
    result
    frame := context.header phasePre (if recallState.isSome then frameRecalled else 0) result.value
    originalCalled := false
    overridden := recallState.any (·.overridden)
    superseded := false
    recalled := false }

/-- The arguments as they came in. -/
def DispatchContext.received (context : DispatchContext) (received : List NativeArgument) :
    List Cell :=
  formatArguments context.prototype context.environment.formatted
    (extractArguments context.lifecycle (context.environment.layout context.depth).argument 0
      context.argumentSlots context.binding.argumentObjects received)

/-- The result before anything was called. -/
def DispatchContext.initialResult (context : DispatchContext) (recallState : Option RecallState) :
    Cell :=
  let result := initializeValue context.lifecycle context.returnSlot context.binding.returnObject
    (.fresh (context.environment.layout context.depth).result) true
  match recallState with
  | some state =>
    if state.overridden then copyValue context.lifecycle context.returnSlot state.result result
    else result
  | none => result

/-- The `try` block of `Dispatch`. -/
def dispatchCallbacks (context : DispatchContext) (recallState : Option RecallState)
    (locals : Locals) (world : World) : Locals × World :=
  let callbacks := sortCallbacks world.registration.callbacks
  let (locals, world) := preLoop context (preCallbacks callbacks recallState) locals world
  let (locals, world) := implicitOriginal context locals world
  postPhase context callbacks locals world

/-- The original called past all callbacks, its result left in `result_storage`. -/
def bareOriginal (context : DispatchContext) (arguments : List Cell) (result : Cell)
    (world : World) : Cell × World :=
  callFunction context.lifecycle context.environment.memory context.prototype context.binding
    context.target.originalFunction arguments result.storage world

/-- `Dispatch` once it has its binding. The original alone is called where the target stack
is `full`, and where pushing the control throws. -/
def dispatchBound (context : DispatchContext) (full : Bool) (recallState : Option RecallState)
    (received : List NativeArgument) (world : World) : NativeReturn × World :=
  let arguments := context.received received
  let result := context.initialResult recallState
  let (result, world) :=
    if full ∨ context.depth ≥ dispatchStackSize then
      bareOriginal context arguments result world
    else
      let (locals, world) :=
        dispatchCallbacks context recallState (context.locals recallState arguments result) world
      (locals.result, world)
  (storeNativeResult context.lifecycle context.environment.memory.foreign context.returnSlot
    result, world)

/-- `Dispatch`. `room` is what is left of the thread's target stack, `depth` and
`callbackDepth` what is taken of the two others. -/
def dispatch (environment : Environment) (target : DispatchTarget) :
    Nat → Nat → Nat → Option RecallState → NativeFunction World
  | room, depth, callbackDepth, recallState, received, world =>
    match world.registration.binding with
    | none => (.zero, world)
    | some binding =>
      let closure : Option (RecallState → NativeFunction World) :=
        match room with
        | 0 | 1 => none
        | room + 2 => some fun state pushed world =>
            dispatch environment target (room + 1) (depth + 1) (callbackDepth + 1) (some state)
              (environment.receive target.prototype pushed) world
      dispatchBound { environment, target, binding, depth, callbackDepth, closure } (room == 0)
        recallState received world

/-- How a callback of this dispatch has the target called again. -/
def recallClosure (environment : Environment) (target : DispatchTarget) :
    Nat → Nat → Nat → Option (RecallState → NativeFunction World)
  | 0, _, _ | 1, _, _ => none
  | room + 2, depth, callbackDepth => some fun state pushed world =>
      dispatch environment target (room + 1) (depth + 1) (callbackDepth + 1) (some state)
        (environment.receive target.prototype pushed) world

def dispatchContext (environment : Environment) (target : DispatchTarget)
    (binding : PrototypeBinding) (room depth callbackDepth : Nat) : DispatchContext :=
  { environment, target, binding, depth, callbackDepth
    closure := recallClosure environment target room depth callbackDepth }

theorem dispatch_of_binding {environment : Environment} {target : DispatchTarget}
    {binding : PrototypeBinding} {world : World}
    (hbinding : world.registration.binding = some binding) (room depth callbackDepth : Nat)
    (recallState : Option RecallState) (received : List NativeArgument) :
    dispatch environment target room depth callbackDepth recallState received world =
      dispatchBound (dispatchContext environment target binding room depth callbackDepth)
        (room == 0) recallState received world := by
  rcases room with _ | _ | room <;> rw [dispatch, hbinding] <;> rfl

end KeelS2.KeelHook
