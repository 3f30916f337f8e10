import KeelS2.Adapter.LoopModes
import KeelS2.Lib.Brackets
import Mathlib.Data.UInt

/-!
# Native entity outputs

`NativeOutputHooks` is one callback among those of the game's output function. It tells the output
service of a call three times, with one token: before the original (PRE), after it (POST), and when
the call is *completed*. The PRE takes a place in `pending_` under the address of the dispatch's
frame, the POST is found by that address, and the completion empties the place; it is driven by the
list of the dispatch that `DeferInternal` writes.

A callback behind this one may *recall* the call: the hook service dispatches it once more, to the
callbacks behind the caller, and the first dispatch has no POST then. The POST of the second has
another frame and finds nothing, so the service is told of the completion only.

The dispatches of the main thread are a stack. Calls on other threads leave at `OutputOnThread`, and
what stops a dispatch that has no memory is left out.
-/

namespace KeelS2.Adapter.Outputs

open Lib

/-- A callback of the target: that of `NativeOutputHooks`, or one of a plugin. -/
inductive Who
  | output
  | peer (record : Nat)
  deriving DecidableEq, Repr

/-- A place in `pending_`. -/
abbrev Slot := Fin 64

structure Pending where
  frame : Address
  token : UInt64
  deriving DecidableEq, Repr

/-- What the service is told between a PRE and the completion, or not told. -/
inductive Turn
  | post
  /-- A callback behind the output hook has recalled the call. -/
  | recalled
  deriving DecidableEq, Repr

/-- How far a dispatch is. `inPre` and `inPost` are while a callback runs, and `completing` while
the service is told of a completion. -/
inductive Stage
  | pre (index : Nat)
  | inPre (index : Nat)
  | original
  | post (left : Nat)
  | inPost (index : Nat)
  | done
  | completing (slot : Slot)
  deriving DecidableEq, Repr

/-- A dispatch: the `KeelHookFrame` with its `DispatchControl`. `recalling` is that a
`RecallControl` of the dispatch below waits for it. The latest completion comes first. -/
structure Frame where
  address : Address
  target : Nat
  callbacks : List Who
  recalling : Bool
  stage : Stage
  originalCalled : Bool
  superseded : Bool
  recalled : Bool
  completions : List Slot
  deriving DecidableEq, Repr

namespace Frame

/-- `DeferInternal`, for the frame of the dispatch that is on. -/
def defer (frame : Frame) (slot : Slot) : Frame × KeelResult :=
  if slot ∈ frame.completions then (frame, .alreadyExists)
  else if frame.completions.length = 8 then (frame, .busy)
  else ({ frame with completions := slot :: frame.completions }, .ok)

def goTo (frame : Frame) (stage : Stage) : Frame := { frame with stage := stage }

/-- Others' code runs, which may call the game's function. -/
def mayCall (frame : Frame) : Bool :=
  match frame.stage with
  | .inPre _ | .original | .inPost _ | .completing _ => true
  | .pre _ | .post _ | .done => false

end Frame

/-- What comes of the checks in PRE that ask the game, or of an exception there. -/
inductive Capture
  | refused
  | threw
  | captured
  deriving DecidableEq, Repr

structure NativeOutputHooks where
  callback : Bool
  hook : Bool
  target : Nat
  pending : Slot → Option Pending
  nextToken : UInt64
  stack : List Frame
  history : List (BracketEvent UInt64 Turn)

namespace NativeOutputHooks

def initial : NativeOutputHooks where
  callback := false
  hook := false
  target := 0
  pending := fun _ => none
  nextToken := 1
  stack := []
  history := []

variable (hooks : NativeOutputHooks)

def record (event : BracketEvent UInt64 Turn) : NativeOutputHooks :=
  { hooks with history := event :: hooks.history }

def setPending (slot : Slot) (pending : Option Pending) : NativeOutputHooks :=
  { hooks with pending := Function.update hooks.pending slot pending }

def setStack (stack : List Frame) : NativeOutputHooks := { hooks with stack := stack }

/-- The first free place. -/
def free : Option Slot :=
  (List.finRange 64).find? fun slot => (hooks.pending slot).isNone

/-- What is pending for a frame. -/
def found (frame : Address) : Option Pending :=
  (List.finRange 64).findSome? fun slot =>
    (hooks.pending slot).filter fun pending => pending.frame == frame

/-- `callback_` is set and the frame is one of `target_`. -/
def serves (frame : Frame) : Bool := hooks.callback && frame.target == hooks.target

/-! ## Starting and stopping -/

/-- `same` is that the arguments are those of the `Start` before. -/
def start (same : Bool) (resolved : Except KeelResult Nat) (added released : KeelResult) :
    NativeOutputHooks × KeelResult :=
  if hooks.callback then (hooks, if hooks.hook && same then .ok else .busy)
  else if hooks.target ≠ 0 ∨ hooks.hook then (hooks, .busy)
  else
    match resolved with
    | .error error => ({ hooks with target := 0 }, error)
    | .ok target =>
      if added = .ok then ({ hooks with callback := true, hook := true, target := target }, .ok)
      else
        ({ hooks with
            callback := false
            hook := false
            target := if released = .ok then 0 else target }, added)

/-- `removed` and `released` are what the hook service answers, where it is asked. -/
def stop (removed released : KeelResult) : NativeOutputHooks × KeelResult :=
  if (List.finRange 64).any fun slot => (hooks.pending slot).isSome then (hooks, .busy)
  else if hooks.hook && removed != .ok then (hooks, removed)
  else if hooks.target != 0 && released != .ok then ({ hooks with hook := false }, released)
  else ({ hooks with callback := false, hook := false, target := 0 }, .ok)

/-! ## The callback -/

/-- `Entry` in PRE, for the frame at the top, up to the call of the service. -/
def entryPre (frame : Frame) (below : List Frame) (index : Nat) (seen : Capture) :
    NativeOutputHooks :=
  let next := frame.goTo (.pre (index + 1))
  match seen with
  | .refused => hooks.setStack (next :: below)
  | .threw => hooks.setStack ({ next with superseded := true } :: below)
  | .captured =>
    if hooks.serves frame && hooks.nextToken != 0 then
      match hooks.free with
      | none => hooks.setStack (next :: below)
      | some slot =>
        let counted := { hooks with nextToken := hooks.nextToken + 1 }
        match frame.defer slot with
        | (deferred, .ok) =>
          ((counted.setPending slot (some ⟨frame.address, hooks.nextToken⟩)).setStack
            (deferred.goTo (.inPre index) :: below)).record (.opened hooks.nextToken)
        | (_, _) => (counted.setPending slot none).setStack (next :: below)
    else hooks.setStack (next :: below)

/-- In POST. -/
def entryPost (frame : Frame) (below : List Frame) (index : Nat) : NativeOutputHooks :=
  if hooks.serves frame then
    match hooks.found frame.address with
    | none => hooks.setStack (frame.goTo (.post index) :: below)
    | some pending =>
      (hooks.setStack (frame.goTo (.inPost index) :: below)).record (.marked pending.token .post)
  else hooks.setStack (frame.goTo (.post index) :: below)

/-- `Complete`, up to the call of the service. -/
def complete (frame : Frame) (below : List Frame) (slot : Slot) : NativeOutputHooks :=
  match hooks.pending slot with
  | none => hooks.setStack (frame :: below)
  | some pending =>
    if hooks.callback then
      (hooks.setStack (frame.goTo (.completing slot) :: below)).record (.closed pending.token)
    else (hooks.setPending slot none).setStack (frame :: below)

/-! ## The dispatches -/

/-- The end of a dispatch. A `RecallControl` that waits for it sets its flags. -/
def leave (frame : Frame) (below : List Frame) : NativeOutputHooks :=
  match frame.recalling, below with
  | true, lower :: rest =>
    let left := hooks.setStack ({ lower with originalCalled := true, recalled := true } :: rest)
    match hooks.found lower.address with
    | none => left
    | some pending => left.record (.marked pending.token .recalled)
  | _, _ => hooks.setStack below

/-- The next step of the dispatch at the top, where no callback runs. `runs` is whether a callback
of a plugin is called: it has the phase and is enabled. -/
def goOn (runs : Bool) (seen : Capture) : NativeOutputHooks :=
  match hooks.stack with
  | [] => hooks
  | frame :: below =>
    match frame.stage with
    | .pre index =>
      match frame.callbacks[index]? with
      | none =>
        hooks.setStack (frame.goTo (if frame.superseded || frame.originalCalled
          then .post frame.callbacks.length else .original) :: below)
      | some .output => hooks.entryPre frame below index seen
      | some (.peer _) =>
        hooks.setStack (frame.goTo (if runs then .inPre index else .pre (index + 1)) :: below)
    | .original =>
      hooks.setStack ({ frame with
        originalCalled := true, stage := .post frame.callbacks.length } :: below)
    | .post 0 => hooks.setStack (frame.goTo .done :: below)
    | .post (index + 1) =>
      if frame.callbacks[index]? = some .output then hooks.entryPost frame below index
      else hooks.setStack (frame.goTo (if runs then .inPost index else .post index) :: below)
    | .done =>
      match frame.completions with
      | [] => hooks.leave frame below
      | slot :: rest => hooks.complete { frame with completions := rest } below slot
    | .inPre _ | .inPost _ | .completing _ => hooks

/-- What is called at the top comes back. `supersedes` is that a callback of a plugin answers
`KH_ACTION_SUPERSEDE`, or that the service blocks or throws in PRE, or that the entities are not
the same any more. -/
def returns (supersedes : Bool) : NativeOutputHooks :=
  match hooks.stack with
  | [] => hooks
  | frame :: below =>
    match frame.stage with
    | .inPre index =>
      hooks.setStack ({ frame with
        superseded := frame.superseded || supersedes
        stage := if frame.recalled then .done else .pre (index + 1) } :: below)
    | .inPost index => hooks.setStack (frame.goTo (.post index) :: below)
    | .completing slot => (hooks.setPending slot none).setStack (frame.goTo .done :: below)
    | .pre _ | .original | .post _ | .done => hooks

/-- The game's function is called. Without `room` on `target_stack_` no callback is. -/
def fire (address : Address) (target : Nat) (callbacks : List Who) (room : Bool) :
    NativeOutputHooks :=
  if room && (hooks.stack.head?.all Frame.mayCall) then
    hooks.setStack (⟨address, target, callbacks, false, .pre 0, false, false, false, []⟩ ::
      hooks.stack)
  else hooks

/-- The plugin whose callback runs at the top in PRE. -/
def caller : Option (Frame × Nat) :=
  match hooks.stack with
  | [] => none
  | frame :: _ =>
    match frame.stage with
    | .inPre index =>
      match frame.callbacks[index]? with
      | some (.peer peer) => some (frame, peer)
      | _ => none
    | _ => none

/-- `RecallControl`, up to the end of the PRE loop's search for the caller. -/
def recallCall (address : Address) (callbacks : List Who) (room : Bool) : NativeOutputHooks :=
  match hooks.caller with
  | none => hooks
  | some (frame, peer) =>
    if frame.originalCalled || frame.superseded || !room then hooks
    else
      hooks.setStack (⟨address, frame.target, callbacks, true,
        .pre (callbacks.idxOf (.peer peer) + 1), false, false, false, []⟩ :: hooks.stack)

/-- `CallOriginalControl`, when the original has returned. -/
def callOriginal : NativeOutputHooks :=
  match hooks.caller with
  | none => hooks
  | some (frame, _) =>
    if frame.originalCalled || frame.superseded then hooks
    else hooks.setStack ({ frame with originalCalled := true } :: hooks.stack.tail)

end NativeOutputHooks

/-! ## Runs -/

inductive OutputInput
  | start (same : Bool) (resolved : Except KeelResult Nat) (added released : KeelResult)
  | stop (removed released : KeelResult)
  | fire (address : Address) (target : Nat) (callbacks : List Who) (room : Bool)
  | recallCall (address : Address) (callbacks : List Who) (room : Bool)
  | callOriginal
  | goOn (runs : Bool) (seen : Capture)
  | returns (supersedes : Bool)

def NativeOutputHooks.step (hooks : NativeOutputHooks) : OutputInput → NativeOutputHooks
  | .start same resolved added released => (hooks.start same resolved added released).1
  | .stop removed released => (hooks.stop removed released).1
  | .fire address target callbacks room => hooks.fire address target callbacks room
  | .recallCall address callbacks room => hooks.recallCall address callbacks room
  | .callOriginal => hooks.callOriginal
  | .goOn runs seen => hooks.goOn runs seen
  | .returns supersedes => hooks.returns supersedes

/-- A new dispatch has a frame of its own, and a target does not have a callback twice. -/
def Possible (hooks : NativeOutputHooks) : OutputInput → Prop
  | .fire address _ callbacks _ | .recallCall address callbacks _ =>
    address ∉ hooks.stack.map Frame.address ∧ callbacks.Nodup
  | _ => True

instance (hooks : NativeOutputHooks) : ∀ input, Decidable (Possible hooks input)
  | .fire address _ callbacks _ | .recallCall address callbacks _ =>
    inferInstanceAs (Decidable (address ∉ hooks.stack.map Frame.address ∧ callbacks.Nodup))
  | .start .. | .stop .. | .callOriginal | .goOn .. | .returns _ => .isTrue trivial

end KeelS2.Adapter.Outputs
