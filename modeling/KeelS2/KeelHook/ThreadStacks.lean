import KeelS2.KeelHook.Callbacks
import KeelS2.Lib.Runs

/-!
# The stacks of a thread

`Dispatch` and `InvokeScalar` push their target, `Dispatch` its control above that, and
`InvokeCallback` its callback: onto three arrays that are `thread_local`, so that one thread is
looked at. Between a push and its pop other code runs, which calls hooked functions and the
host's own ones, and throws, as the actions have it. Only the outermost limit is ever met.
-/

namespace KeelS2.KeelHook.Nesting

def targetCapacity : Nat := 64
def dispatchCapacity : Nat := 64
def callbackCapacity : Nat := 128
def keelcallMaxDepth : Nat := 8

/-- How far a `Dispatch` has come that has pushed its target. -/
inductive Stage
  | preparing
  /-- Its control is pushed; callbacks take their turns, and the original has its own. -/
  | calling
  /-- In `catch (...)`, which may call the original. -/
  | catching
  /-- Its control is off again; `StoreNativeResult` and `completions.Run()` are left. -/
  | storing
  deriving DecidableEq, Repr

/-- A function of the host that has not returned. A control goes by its address. -/
inductive Frame
  /-- A `Dispatch` that found `target_stack_` full, and calls the original. -/
  | fallback (target : KeelHookTargetHandle)
  | dispatch (target : KeelHookTargetHandle) (control : Nat) (controlPushed : Bool)
    (stage : Stage)
  | callback (callback : KeelHookCallbackHandle)
  | invokeScalar (target : KeelHookTargetHandle)
  deriving DecidableEq, Repr

/-- The arrays up to their depths, and the frames, the last one first. -/
structure Thread where
  targetStack : List KeelHookTargetHandle
  dispatchStack : List Nat
  callbackStack : List KeelHookCallbackHandle
  directCallDepth : Nat
  frames : List Frame
  log : List String
  /-- What the host itself has thrown. -/
  thrown : List String
  /-- An exception came to a `noexcept` function. -/
  terminated : Bool

def Thread.start : Thread := ⟨[], [], [], 0, [], [], [], false⟩

def dispatchLimit : String := "dispatch control recursion limit was reached"
def callbackLimit : String := "callback recursion limit was reached"

namespace Thread

variable (thread : Thread)

def say (message : String) : Thread := { thread with log := thread.log ++ [message] }

/-- `Dispatch`, until its target is pushed or the original called without. -/
def dispatch (target : KeelHookTargetHandle) (bound : Bool) (control : Nat) : Thread :=
  if !bound then thread.say "target has no live prototype binding"
  else if targetCapacity ≤ thread.targetStack.length then
    { thread with frames := .fallback target :: thread.frames }
  else
    { thread with
      targetStack := target :: thread.targetStack
      frames := .dispatch target control false .preparing :: thread.frames }

/-- The control push, in the innermost `Dispatch`. -/
def pushControl (target : KeelHookTargetHandle) (control : Nat) (outer : List Frame) : Thread :=
  if dispatchCapacity ≤ thread.dispatchStack.length then
    { thread with
      thrown := thread.thrown ++ [dispatchLimit]
      log := thread.log ++ ["internal exception during callback dispatch"]
      frames := .dispatch target control false .catching :: outer }
  else
    { thread with
      dispatchStack := control :: thread.dispatchStack
      frames := .dispatch target control true .calling :: outer }

def invokeCallback (callback : KeelHookCallbackHandle) (enabled : Bool) : Thread :=
  if !enabled then thread
  else if callbackCapacity ≤ thread.callbackStack.length then thread.say callbackLimit
  else
    { thread with
      callbackStack := callback :: thread.callbackStack
      frames := .callback callback :: thread.frames }

/-- `InvokeScalar`; `admitted` is what it asks the registry. -/
def invokeScalar (target : KeelHookTargetHandle) (admitted : Bool) : Thread :=
  if keelcallMaxDepth ≤ thread.directCallDepth ∨
      targetCapacity ≤ thread.targetStack.length then thread
  else if !admitted then thread
  else
    { thread with
      targetStack := target :: thread.targetStack
      directCallDepth := thread.directCallDepth + 1
      frames := .invokeScalar target :: thread.frames }

/-- `RecallControl`, which enters `Dispatch` by the closure; `owned` is what `CurrentControl` asks
of the callback and the frame. `CallOriginalControl` pushes nothing, and asks nothing of the
depths. -/
def recallControl (target : KeelHookTargetHandle) (owned bound : Bool) (control : Nat) : Thread :=
  if thread.dispatchStack = [] ∨ thread.callbackStack = [] ∨ owned = false then thread
  else if targetCapacity ≤ thread.targetStack.length then thread
  else thread.dispatch target bound control

def leaveCallback (outer : List Frame) : Thread :=
  { thread with callbackStack := thread.callbackStack.tail, frames := outer }

/-- The destructor of `ActiveCall`. -/
def leaveScalar (outer : List Frame) : Thread :=
  { thread with
    targetStack := thread.targetStack.tail
    directCallDepth := thread.directCallDepth - 1
    frames := outer }

/-- The innermost function returns, or goes on to its next stage. -/
def returns : Thread :=
  match thread.frames with
  | [] | .dispatch _ _ _ .preparing :: _ => thread
  | .fallback _ :: outer => { thread with frames := outer }
  | .dispatch _ _ _ .storing :: outer =>
    { thread with targetStack := thread.targetStack.tail, frames := outer }
  | .dispatch target control controlPushed _ :: outer =>
    { thread with
      dispatchStack :=
        if controlPushed then thread.dispatchStack.tail else thread.dispatchStack
      frames := .dispatch target control controlPushed .storing :: outer }
  | .callback _ :: outer => thread.leaveCallback outer
  | .invokeScalar _ :: outer => thread.leaveScalar outer

/-- Something throws that the innermost function called. -/
def throws : Thread :=
  match thread.frames with
  | [] => thread
  | .dispatch target control controlPushed .preparing :: outer
  | .dispatch target control controlPushed .calling :: outer =>
    { thread with
      log := thread.log ++ ["internal exception during callback dispatch"]
      frames := .dispatch target control controlPushed .catching :: outer }
  | .fallback _ :: _ | .dispatch _ _ _ _ :: _ => { thread with terminated := true }
  | .callback _ :: outer => (thread.say "plugin threw from a KeelHook callback").leaveCallback outer
  | .invokeScalar _ :: outer => thread.leaveScalar outer

end Thread

inductive Action
  /-- A hooked function is called, by whomever. -/
  | hooked (target : KeelHookTargetHandle) (bound : Bool) (control : Nat)
  | pushControl
  | invokeCallback (callback : KeelHookCallbackHandle) (enabled : Bool)
  | invokeScalar (target : KeelHookTargetHandle) (admitted : Bool)
  | recallControl (target : KeelHookTargetHandle) (owned bound : Bool) (control : Nat)
  | returns
  | throws

def Thread.step (thread : Thread) (action : Action) : Thread :=
  if thread.terminated then thread
  else
    match action, thread.frames with
    | .hooked target bound control, _ => thread.dispatch target bound control
    | .pushControl, .dispatch target control _ .preparing :: outer =>
      thread.pushControl target control outer
    | .invokeCallback callback enabled, .dispatch _ _ _ .calling :: _ =>
      thread.invokeCallback callback enabled
    | .invokeScalar target admitted, _ => thread.invokeScalar target admitted
    | .recallControl target owned bound control, _ =>
      thread.recallControl target owned bound control
    | .returns, _ => thread.returns
    | .throws, _ => thread.throws
    | _, _ => thread

/-! ## What the frames hold -/

namespace Frame

def targets : Frame → List KeelHookTargetHandle
  | dispatch target _ _ _ | invokeScalar target => [target]
  | fallback _ | callback _ => []

def controls : Frame → List Nat
  | dispatch _ control controlPushed .calling
  | dispatch _ control controlPushed .catching => if controlPushed then [control] else []
  | _ => []

def callbacks : Frame → List KeelHookCallbackHandle
  | callback current => [current]
  | _ => []

def directCalls : Frame → List KeelHookTargetHandle
  | invokeScalar target => [target]
  | _ => []

/-- A callback is called by a `Dispatch` that has its control on the stack. -/
def Fits : Frame → List Frame → Prop
  | callback _, .dispatch _ _ true .calling :: _ => True
  | callback _, _ => False
  | dispatch _ _ controlPushed .preparing, _ => controlPushed = false
  | dispatch _ _ controlPushed .calling, _ => controlPushed = true
  | _, _ => True

end Frame

def Nested : List Frame → Prop
  | [] => True
  | frame :: outer => frame.Fits outer ∧ Nested outer

/-- The stacks hold what the frames have pushed. -/
structure Balanced (thread : Thread) : Prop where
  nested : Nested thread.frames
  targets : thread.targetStack = thread.frames.flatMap Frame.targets
  controls : thread.dispatchStack = thread.frames.flatMap Frame.controls
  callbacks : thread.callbackStack = thread.frames.flatMap Frame.callbacks
  directCalls : thread.directCallDepth = (thread.frames.flatMap Frame.directCalls).length

namespace Nested

variable {frames : List Frame}

theorem callbacks_le (hnested : Nested frames) :
    (frames.flatMap Frame.callbacks).length ≤ (frames.flatMap Frame.controls).length ∧
      ∀ target control outer, frames = .dispatch target control true .calling :: outer →
        (frames.flatMap Frame.callbacks).length < (frames.flatMap Frame.controls).length := by
  induction frames with
  | nil => exact ⟨Nat.le_refl _, fun _ _ _ heq => by cases heq⟩
  | cons frame outer ih =>
    obtain ⟨hle, hlt⟩ := ih hnested.2
    simp only [List.flatMap_cons, List.length_append]
    refine ⟨?_, fun target control rest heq => ?_⟩
    · cases frame with
      | callback current =>
        match outer, hnested.1 with
        | .dispatch target control true .calling :: rest, _ =>
          have := hlt target control rest rfl
          simp only [Frame.callbacks, Frame.controls, List.length_singleton, List.length_nil]
          omega
      | fallback | dispatch | invokeScalar =>
        simp only [Frame.callbacks, List.length_nil]
        omega
    · cases heq
      simp only [Frame.callbacks, Frame.controls, if_true, List.length_singleton, List.length_nil]
      omega

theorem controls_le (frames : List Frame) :
    (frames.flatMap Frame.controls).length ≤ (frames.flatMap Frame.targets).length := by
  induction frames with
  | nil => exact Nat.le_refl _
  | cons frame outer ih =>
    simp only [List.flatMap_cons, List.length_append]
    refine Nat.add_le_add ?_ ih
    cases frame with
    | dispatch target control controlPushed stage =>
      cases controlPushed <;> cases stage <;> simp [Frame.controls, Frame.targets]
    | fallback | callback | invokeScalar => exact Nat.zero_le _

end Nested

/-- The entry checks have kept the outer stacks within bounds, and no inner limit has been met. -/
structure Kept (thread : Thread) : Prop extends Balanced thread where
  room : thread.targetStack.length ≤ targetCapacity
  direct : thread.directCallDepth ≤ keelcallMaxDepth
  dispatchable : dispatchLimit ∉ thread.thrown
  callable : callbackLimit ∉ thread.log

namespace Kept

variable {thread : Thread} {outer : List Frame} {target : KeelHookTargetHandle} {control : Nat}
  {controlPushed : Bool} {stage : Stage} {callback : KeelHookCallbackHandle}
  (hkept : Kept thread)
include hkept

theorem innermost {frame : Frame} (hframes : thread.frames = frame :: outer) :
    (frame.Fits outer ∧ Nested outer) ∧
      thread.targetStack = frame.targets ++ outer.flatMap Frame.targets ∧
      thread.dispatchStack = frame.controls ++ outer.flatMap Frame.controls ∧
      thread.callbackStack = frame.callbacks ++ outer.flatMap Frame.callbacks ∧
      thread.directCallDepth =
        (frame.directCalls ++ outer.flatMap Frame.directCalls).length := by
  obtain ⟨hnested, htargets, hcontrols, hcallbacks, hdirect⟩ := hkept.toBalanced
  rw [hframes] at hnested htargets hcontrols hcallbacks hdirect
  exact ⟨hnested, htargets, hcontrols, hcallbacks, hdirect⟩

theorem room_tail : thread.targetStack.tail.length ≤ targetCapacity :=
  List.length_tail ▸ (Nat.sub_le _ 1).trans hkept.room

theorem callbacks_le : thread.callbackStack.length ≤ thread.dispatchStack.length := by
  rw [hkept.callbacks, hkept.controls]
  exact hkept.nested.callbacks_le.1

theorem controls_le : thread.dispatchStack.length ≤ thread.targetStack.length := by
  rw [hkept.controls, hkept.targets]
  exact Nested.controls_le _

theorem say {message : String} (hmessage : message ≠ callbackLimit) :
    Kept (thread.say message) :=
  { hkept with
    callable := by
      intro hmem
      rcases List.mem_append.1 hmem with hmem | hmem
      · exact hkept.callable hmem
      · exact hmessage (List.mem_singleton.1 hmem).symm }

theorem dispatch (target : KeelHookTargetHandle) (bound : Bool) (control : Nat) :
    Kept (thread.dispatch target bound control) := by
  unfold Thread.dispatch
  split
  · exact hkept.say (by decide)
  · split
    · exact { hkept with nested := ⟨trivial, hkept.nested⟩ }
    · next hroom =>
      exact { hkept with
        nested := ⟨rfl, hkept.nested⟩
        targets := congrArg (target :: ·) hkept.targets
        room := Nat.lt_of_not_le hroom }

theorem invokeScalar (target : KeelHookTargetHandle) (admitted : Bool) :
    Kept (thread.invokeScalar target admitted) := by
  unfold Thread.invokeScalar
  split
  · exact hkept
  · next hroom =>
    split
    · exact hkept
    · exact { hkept with
        nested := ⟨trivial, hkept.nested⟩
        targets := congrArg (target :: ·) hkept.targets
        directCalls := congrArg (· + 1) hkept.directCalls
        room := Nat.lt_of_not_le fun hle => hroom (.inr hle)
        direct := Nat.lt_of_not_le fun hle => hroom (.inl hle) }

theorem pushControl
    (hframes : thread.frames = .dispatch target control controlPushed .preparing :: outer) :
    Kept (thread.pushControl target control outer) := by
  obtain ⟨⟨hfits, hnested⟩, htargets, hcontrols, hcallbacks, hdirect⟩ :=
    hkept.innermost hframes
  obtain rfl : controlPushed = false := hfits
  have hroom := hkept.room
  have hle := Nested.controls_le outer
  rw [htargets] at hroom
  have hlimit : ¬dispatchCapacity ≤ thread.dispatchStack.length := by
    rw [hcontrols]
    simp only [Frame.targets, Frame.controls, List.singleton_append, List.length_cons,
      List.nil_append, dispatchCapacity, targetCapacity] at hroom ⊢
    omega
  unfold Thread.pushControl
  rw [if_neg hlimit]
  exact { hkept with
    nested := ⟨rfl, hnested⟩
    targets := htargets
    controls := congrArg (control :: ·) hcontrols
    callbacks := hcallbacks
    directCalls := hdirect }

theorem invokeCallback
    (hframes : thread.frames = .dispatch target control controlPushed .calling :: outer)
    (callback : KeelHookCallbackHandle) (enabled : Bool) :
    Kept (thread.invokeCallback callback enabled) := by
  obtain rfl : controlPushed = true := (hkept.innermost hframes).1.1
  have hlt := hkept.nested.callbacks_le.2 target control outer hframes
  rw [← hkept.callbacks, ← hkept.controls] at hlt
  have hlimit : ¬callbackCapacity ≤ thread.callbackStack.length := by
    have := hkept.controls_le
    have := hkept.room
    simp only [callbackCapacity, targetCapacity] at this ⊢
    omega
  unfold Thread.invokeCallback
  rw [if_neg hlimit]
  split
  · exact hkept
  · exact { hkept with
      nested := ⟨by rw [hframes]; trivial, hkept.nested⟩
      callbacks := congrArg (callback :: ·) hkept.callbacks }

theorem recallControl (target : KeelHookTargetHandle) (owned bound : Bool) (control : Nat) :
    Kept (thread.recallControl target owned bound control) := by
  unfold Thread.recallControl
  split_ifs
  · exact hkept
  · exact hkept
  · exact hkept.dispatch target bound control

theorem leaveCallback (hframes : thread.frames = .callback callback :: outer) :
    Kept (thread.leaveCallback outer) := by
  obtain ⟨⟨-, hnested⟩, htargets, hcontrols, hcallbacks, hdirect⟩ := hkept.innermost hframes
  exact { hkept with
    nested := hnested, targets := htargets, controls := hcontrols, directCalls := hdirect
    callbacks := congrArg List.tail hcallbacks }

theorem leaveScalar (hframes : thread.frames = .invokeScalar target :: outer) :
    Kept (thread.leaveScalar outer) := by
  obtain ⟨⟨-, hnested⟩, htargets, hcontrols, hcallbacks, hdirect⟩ := hkept.innermost hframes
  exact { hkept with
    nested := hnested, controls := hcontrols, callbacks := hcallbacks
    targets := congrArg List.tail htargets
    directCalls := congrArg Nat.pred hdirect
    room := hkept.room_tail
    direct := (Nat.sub_le _ 1).trans hkept.direct }

/-- The control comes off if it was pushed: a `Dispatch` that catches may not have. -/
theorem leaveControl
    (hframes : thread.frames = .dispatch target control controlPushed stage :: outer)
    (hstage : stage = .calling ∨ stage = .catching) :
    Kept { thread with
      dispatchStack :=
        if controlPushed then thread.dispatchStack.tail else thread.dispatchStack
      frames := .dispatch target control controlPushed .storing :: outer } := by
  obtain ⟨⟨-, hnested⟩, htargets, hcontrols, hcallbacks, hdirect⟩ := hkept.innermost hframes
  refine { hkept with
    nested := ⟨trivial, hnested⟩, targets := htargets, callbacks := hcallbacks
    directCalls := hdirect, controls := ?_ }
  cases controlPushed with
  | false => rcases hstage with rfl | rfl <;> exact hcontrols
  | true => rcases hstage with rfl | rfl <;> exact congrArg List.tail hcontrols

theorem returns : Kept thread.returns := by
  unfold Thread.returns
  split
  · exact hkept
  · exact hkept
  · next hframes =>
    obtain ⟨⟨-, hnested⟩, htargets, hcontrols, hcallbacks, hdirect⟩ := hkept.innermost hframes
    exact { hkept with
      nested := hnested, targets := htargets, controls := hcontrols, callbacks := hcallbacks
      directCalls := hdirect }
  · next hframes =>
    obtain ⟨⟨-, hnested⟩, htargets, hcontrols, hcallbacks, hdirect⟩ := hkept.innermost hframes
    exact { hkept with
      nested := hnested, controls := hcontrols, callbacks := hcallbacks, directCalls := hdirect
      targets := congrArg List.tail htargets
      room := hkept.room_tail }
  · next stage _ hpreparing hstoring hframes =>
    refine hkept.leaveControl hframes ?_
    cases stage with
    | preparing => exact absurd rfl hpreparing
    | calling => exact .inl rfl
    | catching => exact .inr rfl
    | storing => exact absurd rfl hstoring
  · next hframes => exact hkept.leaveCallback hframes
  · next hframes => exact hkept.leaveScalar hframes

theorem catches
    (hframes : thread.frames = .dispatch target control controlPushed stage :: outer)
    (hstage : stage = .preparing ∨ stage = .calling) :
    Kept { thread with
      log := thread.log ++ ["internal exception during callback dispatch"]
      frames := .dispatch target control controlPushed .catching :: outer } := by
  obtain ⟨⟨hfits, hnested⟩, htargets, hcontrols, hcallbacks, hdirect⟩ :=
    hkept.innermost hframes
  refine { hkept with
    nested := ⟨trivial, hnested⟩, targets := htargets, callbacks := hcallbacks
    directCalls := hdirect, controls := ?_, callable := (hkept.say (by decide)).callable }
  rcases hstage with rfl | rfl
  · obtain rfl : controlPushed = false := hfits
    exact hcontrols
  · obtain rfl : controlPushed = true := hfits
    exact hcontrols

theorem throws : Kept thread.throws := by
  unfold Thread.throws
  split
  · exact hkept
  · next hframes => exact hkept.catches hframes (.inl rfl)
  · next hframes => exact hkept.catches hframes (.inr rfl)
  · exact { hkept with }
  · exact { hkept with }
  · next hframes => exact (hkept.say (by decide)).leaveCallback hframes
  · next hframes => exact hkept.leaveScalar hframes

end Kept

/-! ## Runs -/

theorem kept_start : Kept .start :=
  ⟨⟨trivial, rfl, rfl, rfl, rfl⟩, Nat.zero_le _, Nat.zero_le _, List.not_mem_nil, List.not_mem_nil⟩

theorem step_kept {thread : Thread} (action : Action) (hkept : Kept thread) :
    Kept (thread.step action) := by
  unfold Thread.step
  split
  · exact hkept
  · split
    · exact hkept.dispatch _ _ _
    · next hframes => exact hkept.pushControl hframes
    · next hframes => exact hkept.invokeCallback hframes _ _
    · exact hkept.invokeScalar _ _
    · exact hkept.recallControl _ _ _ _
    · exact hkept.returns
    · exact hkept.throws
    · exact hkept

theorem run_kept {thread : Thread} (hkept : Kept thread) (actions : List Action) :
    Kept (Lib.run Thread.step thread actions) :=
  Lib.run_invariant (fun _ action => step_kept action) hkept actions

/-- Whatever is nested, the stacks stay within their arrays, a function that has been left leaves
them as they were, neither inner limit is met, and a `Dispatch` that finds no room calls the
original without them. -/
theorem stacks_balanced (actions : List Action) :
    let thread := Lib.run Thread.step .start actions
    (thread.callbackStack.length ≤ thread.dispatchStack.length + 1 ∧
      thread.dispatchStack.length + 1 ≤ thread.targetStack.length + 1 ∧
      thread.callbackStack.length ≤ callbackCapacity ∧
      thread.dispatchStack.length ≤ dispatchCapacity ∧
      thread.targetStack.length ≤ targetCapacity ∧
      thread.directCallDepth ≤ keelcallMaxDepth) ∧
    (∀ later : List Action,
      let after := Lib.run Thread.step thread later
      after.frames = thread.frames →
        after.targetStack = thread.targetStack ∧ after.dispatchStack = thread.dispatchStack ∧
        after.callbackStack = thread.callbackStack ∧
        after.directCallDepth = thread.directCallDepth) ∧
    dispatchLimit ∉ thread.thrown ∧ callbackLimit ∉ thread.log ∧
    (thread.terminated = false → thread.targetStack.length = targetCapacity →
      ∀ target control, thread.step (.hooked target true control) =
        { thread with frames := .fallback target :: thread.frames }) := by
  intro thread
  have hkept : Kept thread := run_kept kept_start actions
  have hcallbacks := hkept.callbacks_le
  have hcontrols := hkept.controls_le
  have hroom := hkept.room
  refine ⟨⟨by omega, by omega, ?_, ?_, hroom, hkept.direct⟩, ?_,
    hkept.dispatchable, hkept.callable, ?_⟩
  · simp only [callbackCapacity, targetCapacity] at hroom ⊢
    omega
  · exact hcontrols.trans hroom
  · intro later after hframes
    have hafter : Kept after := run_kept hkept later
    rw [hafter.targets, hafter.controls, hafter.callbacks, hafter.directCalls, hframes]
    exact ⟨hkept.targets.symm, hkept.controls.symm, hkept.callbacks.symm,
      hkept.directCalls.symm⟩
  · intro halive hfull target control
    simp [Thread.step, Thread.dispatch, halive, hfull]

end KeelS2.KeelHook.Nesting
