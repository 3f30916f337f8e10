import KeelS2.Plugins.KnownHandles
import KeelS2.Plugins.Selection

/-!
# Deferred plugin commands

A command that unloads or reloads a plugin from inside a function the plugin has hooked waits in a
queue for the next game frame. The commands themselves are not followed here: whatever they do to
the plugins and to the hooks, and whether they return or throw, is left to the run.
-/

namespace KeelS2.Plugins

/-- The operations of `DeferPluginCommand`. -/
inductive Operation
  | refresh
  | unloadAll
  | reload
  | unload
  deriving DecidableEq, Repr

def Operation.bulk : Operation → Bool
  | .refresh | .unloadAll => true
  | .reload | .unload => false

/-- A call of a hooked function that is under way, with its number. -/
structure HookedCall where
  thread : Nat
  target : Nat
  call : Nat
  deriving DecidableEq, Repr

/-- An entry of `deferred_plugin_commands_`, and the hooked call it was issued in, which the code
does not keep. -/
structure Queued where
  handle : KeelPluginHandle
  operation : Operation
  issuer : Nat
  deriving DecidableEq, Repr

/-- What the command does to the plugin that it is for. -/
def Queued.command (queued : Queued) : Command :=
  match queued.operation with
  | .refresh => .refresh
  | .unloadAll => .unloadAll
  | .reload => .reload queued.handle
  | .unload => .unload queued.handle

/-- A call of `DispatchDeferredPluginCommands` in its loop: what it has still to do, and whether it
waits for a command to return. -/
structure Dispatch where
  pending : List Queued
  running : Bool
  deriving DecidableEq, Repr

/-- What has become of a queued command. -/
inductive Outcome
  /-- It was called; `none` if its selector selects nothing. -/
  | executed (command : Option Command)
  /-- Its plugin is gone. -/
  | gone
  /-- The host stopped. -/
  | stopped
  /-- An exception has ended the loop. -/
  | lost
  deriving DecidableEq, Repr

/-- An outcome, with the host and the hooked calls under way at that time. -/
structure Handled where
  queued : Queued
  outcome : Outcome
  host : Host
  hooks : List HookedCall

structure Deferral where
  host : Host
  acceptingResources : Bool
  /-- `keelhook_` and `lifecycle_` are there. -/
  keelhook : Bool
  lifecycle : Bool
  deferredPluginCommands : List Queued
  dispatchingDeferredPluginCommands : Bool
  dispatches : List Dispatch
  /-- The target stacks of all threads in one list, the innermost call of each first. -/
  hooks : List HookedCall
  nextCall : Nat
  /-- Which plugins have a lease of a target or a callback on it. -/
  onTarget : Nat → KeelPluginHandle → Bool
  /-- The commands that were reported as queued, and what has become of those that do not wait. -/
  issued : List Queued
  handled : List Handled

def Deferral.initial : Deferral where
  host := .initial
  acceptingResources := false
  keelhook := false
  lifecycle := false
  deferredPluginCommands := []
  dispatchingDeferredPluginCommands := false
  dispatches := []
  hooks := []
  nextCall := 0
  onTarget := fun _ _ => false
  issued := []
  handled := []

/-- What `DeferPluginCommand` comes to: false, and the command is executed at once; true with an
error; or the command is reported as queued. -/
inductive DeferReply
  | immediate
  | failed
  | queued
  deriving DecidableEq, Repr

namespace Deferral

def onCurrentTarget (state : Deferral) (thread : Nat) (handle : KeelPluginHandle) : Bool :=
  (state.hooks.filter (·.thread == thread)).any fun hooked => state.onTarget hooked.target handle

/-- The hooked call that the thread is in. -/
def currentCall (state : Deferral) (thread : Nat) : Nat :=
  ((state.hooks.find? (·.thread == thread)).map (·.call)).getD 0

/-- `DeferPluginCommand` from where the plugin is known. Connecting to the lifecycle service and
installing the dispatch of game frames may fail. -/
def enqueue (state : Deferral) (thread : Nat) (operation : Operation) (handle : KeelPluginHandle)
    (connected ensured : Bool) : Deferral × DeferReply :=
  if !state.lifecycle && !connected then (state, .failed)
  else
    let state := { state with lifecycle := true }
    if !ensured then (state, .failed)
    else if 32 ≤ state.deferredPluginCommands.length then (state, .failed)
    else
      let queued : Queued :=
        ⟨if operation.bulk then 0 else handle, operation, state.currentCall thread⟩
      ({ state with
          deferredPluginCommands := state.deferredPluginCommands ++ [queued]
          issued := state.issued ++ [queued] }, .queued)

def deferPluginCommand (state : Deferral) (thread : Nat) (operation : Operation) (selector : Text)
    (connected ensured : Bool) : Deferral × DeferReply :=
  if state.dispatchingDeferredPluginCommands || !state.keelhook then (state, .immediate)
  else if operation.bulk then
    match state.host.plugins.find? fun plugin => state.onCurrentTarget thread plugin.handle with
    | none => (state, .immediate)
    | some plugin => state.enqueue thread operation plugin.handle connected ensured
  else
    match state.host.selectPlugin selector with
    | .error _ => (state, .failed)
    | .ok plugin =>
      if !state.onCurrentTarget thread plugin.handle then (state, .immediate)
      else state.enqueue thread operation plugin.handle connected ensured

/-- `DispatchDeferredPluginCommands` up to its loop. -/
def beginDispatch (state : Deferral) : Deferral :=
  if !state.acceptingResources || state.deferredPluginCommands.isEmpty ||
      state.dispatchingDeferredPluginCommands then state
  else
    { state with
      deferredPluginCommands := []
      dispatchingDeferredPluginCommands := true
      dispatches := ⟨state.deferredPluginCommands, false⟩ :: state.dispatches }

def handle (state : Deferral) (queued : Queued) (outcome : Outcome) : Handled :=
  ⟨queued, outcome, state.host, state.hooks⟩

/-- The command that is called for an entry, if its plugin is there. -/
def called (state : Deferral) (queued : Queued) : Outcome :=
  if queued.operation.bulk then .executed (some queued.command)
  else
    match state.host.pluginByHandle queued.handle with
    | none => .gone
    | some plugin =>
      match state.host.selectPlugin (state.host.pluginDisplayId plugin) with
      | .error _ => .executed none
      | .ok selected => .executed (some { queued with handle := selected.handle }.command)

/-- One turn of the loop, at a position in the list of the calls. -/
def turn (state : Deferral) (position : Nat) : Deferral :=
  match state.dispatches[position]? with
  | some ⟨[], false⟩ =>
    { state with
      dispatchingDeferredPluginCommands := false
      dispatches := state.dispatches.eraseIdx position }
  | some ⟨queued :: pending, false⟩ =>
    let outcome := state.called queued
    { state with
      dispatches := state.dispatches.set position ⟨pending, outcome ≠ .gone⟩
      handled := state.handled ++ [state.handle queued outcome] }
  | _ => state

/-- The command that was called returns. -/
def returns (state : Deferral) (position : Nat) : Deferral :=
  match state.dispatches[position]? with
  | some ⟨pending, true⟩ =>
    { state with dispatches := state.dispatches.set position ⟨pending, false⟩ }
  | _ => state

/-- It throws: the loop is left, and what it had still to do with it. -/
def throws (state : Deferral) (position : Nat) : Deferral :=
  match state.dispatches[position]? with
  | some ⟨pending, true⟩ =>
    { state with
      dispatchingDeferredPluginCommands := false
      dispatches := state.dispatches.eraseIdx position
      handled := state.handled ++ pending.map fun queued => state.handle queued .lost }
  | _ => state

/-- The end of `Stop`. It is not reached inside a game frame: the hook that the frame came through
has then not returned, and `Shutdown` of the hooks waits for it or fails. -/
def stop (state : Deferral) : Deferral :=
  if state.dispatches.isEmpty then
    { state with
      host := Host.initial
      acceptingResources := false
      keelhook := false
      lifecycle := false
      deferredPluginCommands := []
      dispatchingDeferredPluginCommands := false
      handled := state.handled ++
        state.deferredPluginCommands.map fun queued => state.handle queued .stopped }
  else { state with acceptingResources := false }

end Deferral

inductive DeferralAction
  /-- The host starts, and connects to the hooks. -/
  | start
  | connect
  /-- The plugins change, as they do in a step of the manager, or what they have hooked. -/
  | manage (host : Host)
  | retarget (onTarget : Nat → KeelPluginHandle → Bool)
  | enter (thread target : Nat)
  | leave (thread : Nat)
  | issue (thread : Nat) (operation : Operation) (selector : Text) (connected ensured : Bool)
  | frame
  | turn (position : Nat)
  | returns (position : Nat)
  | throws (position : Nat)
  | stop

namespace Deferral

def step (state : Deferral) : DeferralAction → Deferral
  | .start => { state with acceptingResources := true }
  | .connect => { state with keelhook := true }
  | .manage host => if state.host.Succeeds host then { state with host := host } else state
  | .retarget onTarget => { state with onTarget := onTarget }
  | .enter thread target =>
    { state with
      hooks := ⟨thread, target, state.nextCall⟩ :: state.hooks, nextCall := state.nextCall + 1 }
  | .leave thread => { state with hooks := state.hooks.eraseP (·.thread == thread) }
  | .issue thread operation selector connected ensured =>
    (state.deferPluginCommand thread operation selector connected ensured).1
  | .frame => state.beginDispatch
  | .turn position => state.turn position
  | .returns position => state.returns position
  | .throws position => state.throws position
  | .stop => state.stop

end Deferral
end KeelS2.Plugins
