import KeelS2.Plugins.Manager
import Mathlib.Data.Char
import Mathlib.Data.List.Lex
import Mathlib.Data.List.Sort

/-!
# Unload, pause, resume and start

Each of the four is a list of calls it makes with the lock released, and what it does under the
lock after each answer (`turn`). A turn goes on to the next call, goes on to a later one, or
returns from the command.

A call that is not made (there is no such service, no such callback) still has its turn, with the
answer `skipped` gives for it.
-/

namespace KeelS2.Plugins

/-- What a command does after a call. -/
inductive Turn
  | next
  | skipTo (call : Call)
  | stop (result : Bool)
  deriving DecidableEq, Repr

namespace Host

/-- `PluginTransition`'s destructor. -/
def endTransition (host : Host) (handle : KeelPluginHandle) : Host :=
  host.modify handle fun plugin => { plugin with transitioning := false }

theorem pluginByHandle_endTransition {host : Host} {handle : KeelPluginHandle} :
    (host.endTransition handle).pluginByHandle handle =
      (host.pluginByHandle handle).map fun plugin => { plugin with transitioning := false } := by
  unfold endTransition
  rw [pluginByHandle_modify, if_pos rfl]
  intro plugin
  rfl

def quarantine (host : Host) (handle : KeelPluginHandle) (diagnostic : Diagnostic) : Host :=
  host.modify handle fun plugin => { plugin with cleanupPending := true, diagnostic := diagnostic }

/-- A failing command returns: the transition ends. -/
def fail (host : Host) (handle : KeelPluginHandle) : Host × Turn :=
  (host.endTransition handle, .stop false)

/-- Resources are no longer accepted, and the commands no longer run. -/
def silence (host : Host) (handle : KeelPluginHandle) : Host :=
  (host.modify handle fun plugin =>
    { plugin with acceptingResources := false }).setCommandsOwnedEnabled handle false

/-! ## UnloadPluginCommand -/

def unloadCalls (wasRunning : Bool) : List Call :=
  .deactivate .factories ::
    (if wasRunning then
      [.deactivate .source2Callbacks, .deactivate .lifecycle, .deactivate .convars,
        .deactivate .pluginService, .deactivate .keelhook]
    else []) ++
    [.prepareUnload,
      .release .keelhook, .release .lifecycle, .release .source2Callbacks, .release .convars,
      .release .schemaEntities, .release .pluginService, .release .publishedServices,
      .release .factories, .unload, .publish .unloaded]

/-- The end of `UnloadPluginCommand`: the image is closed and the record goes, to the disabled
plugins if the command is to disable the plugin. -/
def finishUnload (host : Host) (handle : KeelPluginHandle) (disable : Bool) : Host :=
  let host := host.modify handle fun plugin =>
    closePluginImage { plugin with load := false, unload := false }
  if disable then
    let moved := (host.plugins.filter (·.handle = handle)).map fun plugin =>
      { plugin with state := .disabled, transitioning := false }
    { host.removePluginRecord handle with
      disabledPlugins := (host.disabledPlugins ++ moved).insertionSort fun left right =>
        left.filename ≤ right.filename }
  else host.removePluginRecord handle

def unloadTurn (host : Host) (handle : KeelPluginHandle) (disable wasRunning : Bool)
    (answer : Answer) : Call → Host × Turn
  | .deactivate .source2Callbacks =>
    if answer.result ≠ .ok then
      -- unlike the other refusals: the factories stay deactivated
      let host := host.modify handle fun plugin => { plugin with acceptingResources := true }
      let host := host.setCommandsOwnedEnabled handle true
      (host.activate .source2Callbacks handle).fail handle
    else (host, .next)
  | .deactivate _ =>
    if answer.result ≠ .ok then (host.restorePluginDispatch handle).fail handle
    else (host, .next)
  | .prepareUnload =>
    if !answer.agreed then
      (if wasRunning then host.restorePluginDispatch handle else host).fail handle
    else (host, .next)
  | .release .keelhook =>
    if answer.result ≠ .ok then
      if answer.result = .busy ∧ (host.pluginByHandle handle).all (!·.cleanupPending) ∧
          wasRunning then
        (host.restorePluginDispatch handle).fail handle
      else (host.quarantine handle .keelHookIncomplete).fail handle
    else (host, .next)
  | .release .lifecycle =>
    if answer.result ≠ .ok then (host.quarantine handle .lifecycleIncomplete).fail handle
    else (host, .next)
  | .release .source2Callbacks =>
    if answer.result ≠ .ok then (host.quarantine handle .source2Incomplete).fail handle
    else (host, .next)
  | .release .convars =>
    if answer.result ≠ .ok then (host.quarantine handle .conVarIncomplete).fail handle
    else (host, .next)
  | .release .schemaEntities =>
    if answer.result ≠ .ok then (host.quarantine handle .schemaIncomplete).fail handle
    else (host, .next)
  | .release .pluginService =>
    if answer.result ≠ .ok then (host.quarantine handle .pluginEventIncomplete).fail handle
    else (host, .next)
  | .release .publishedServices =>
    if answer.result ≠ .ok then (host.restorePluginDispatch handle).fail handle
    else (host, .next)
  | .release .factories =>
    if answer.result ≠ .ok then (host.quarantine handle .factoryIncomplete).fail handle
    else (host.removeCommandsOwnedBy handle, .next)
  | .unload => (host.finishUnload handle disable, .next)
  | .publish _ => (host, .stop true)
  | .preparePause | .load => (host, .next)

/-- `UnloadPluginCommand` up to its first call; `none` if it returns before. -/
def beginUnload (host : Host) (handle : KeelPluginHandle) : Option (Host × Bool) :=
  match host.knownPlugins.find? fun plugin => plugin.handle == handle with
  | none => none
  | some plugin =>
    if plugin.state ≠ .loaded ∧ plugin.state ≠ .paused then none
    else if plugin.transitioning then none
    else if host.hasRunningDependent plugin true then none
    else
      let host := host.modify handle fun plugin => { plugin with transitioning := true }
      some (host.silence handle, plugin.state = .loaded)

/-! ## PausePlugin and ResumePlugin -/

def pauseCalls : List Call :=
  [.deactivate .factories, .deactivate .source2Callbacks, .deactivate .lifecycle,
    .deactivate .convars, .deactivate .pluginService, .deactivate .keelhook, .preparePause,
    .publish .paused]

def pauseTurn (host : Host) (handle : KeelPluginHandle) (answer : Answer) : Call → Host × Turn
  | .deactivate _ =>
    if answer.result ≠ .ok then (host.restorePluginDispatch handle).fail handle
    else (host, .next)
  | .preparePause =>
    if !answer.agreed then (host.restorePluginDispatch handle).fail handle
    else (host.modify handle fun plugin => { plugin with state := .paused }, .next)
  | .publish _ => (host.endTransition handle, .stop true)
  | _ => (host, .next)

def beginPause (host : Host) (handle : KeelPluginHandle) : Option Host :=
  match host.pluginByHandle handle with
  | none => none
  | some plugin =>
    if plugin.state ≠ .loaded then none
    else if plugin.transitioning then none
    else if host.hasRunningDependent plugin false then none
    else
      let host := host.modify handle fun plugin => { plugin with transitioning := true }
      some (host.silence handle)

def resumeCalls : List Call := [.publish .resumed]

def resumeTurn (host : Host) (handle : KeelPluginHandle) : Call → Host × Turn
  | .publish _ => (host.endTransition handle, .stop true)
  | _ => (host, .next)

def beginResume (host : Host) (handle : KeelPluginHandle) : Option Host :=
  match host.pluginByHandle handle with
  | none => none
  | some plugin =>
    if plugin.state ≠ .paused then none
    else if plugin.transitioning then none
    else match dependenciesReady host.plugins plugin with
      | some _ => none
      | none =>
        let host := host.modify handle fun plugin =>
          { plugin with transitioning := true, state := .loaded }
        some (host.restorePluginDispatch handle)

/-! ## StartPlugin -/

/-- The load callback; the preparations of a paused replacement; the releases of a plugin that
did not load, with the unload callback; the events of one that did. -/
def startCalls : List Call :=
  [.load, .preparePause, .prepareUnload,
    .release .factories, .release .pluginService, .release .publishedServices, .release .convars,
    .release .lifecycle, .release .source2Callbacks, .release .schemaEntities,
    .release .keelhook, .unload, .publish .loaded, .publish .paused]

/-- The plugin has loaded: it runs, or it is the paused replacement of a paused one. -/
def settleStart (host : Host) (handle : KeelPluginHandle) (activate : Bool) : Host :=
  let host := host.modify handle fun plugin =>
    { plugin with
      state := if activate then .loaded else .paused
      acceptingResources := activate, factoryDispatchEnabled := activate }
  if activate then host.restorePluginDispatch handle else host

def startTurn (host : Host) (handle : KeelPluginHandle) (activate failed : Bool)
    (answer : Answer) : Call → Host × Turn
  | .load =>
    match host.pluginByHandle handle with
    | none => (host, .stop false)
    | some plugin =>
      let problem := dependenciesReady host.plugins plugin
      let loaded := plugin.load && answer.agreed
      let host := host.modify handle fun plugin =>
        { plugin with
          loading := false
          diagnostic :=
            if loaded then (problem.elim plugin.diagnostic .changedDuringLoad)
            else if answer.threw then .threwDuringLoad else plugin.diagnostic }
      if loaded && problem.isNone then
        if activate then (host.settleStart handle true, .skipTo (.publish .loaded))
        else (host.silence handle, .next)
      else (host.silence handle, .skipTo (.release .factories))
  | .preparePause =>
    if answer.agreed then (host.settleStart handle false, .skipTo (.publish .loaded))
    else
      (host.modify handle fun plugin =>
        { plugin with state := .error, diagnostic := .refusedPausedReplacement }, .next)
  | .prepareUnload =>
    if answer.agreed then (host.silence handle, .next)
    else (host.quarantine handle .pausedReplacementRetained, .stop false)
  | .release .keelhook =>
    let host := (host.removeCommandsOwnedBy handle).modify handle fun plugin =>
      { plugin with state := .error }
    if failed || answer.result ≠ .ok then
      (host.quarantine handle .rollbackFailed, .stop false)
    else (host, .next)
  | .unload =>
    let host := host.modify handle fun plugin => closePluginImage
      { plugin with
        load := false, unload := false
        diagnostic := if plugin.diagnostic = .none then .rejectedStartup else plugin.diagnostic }
    ({ host with loadOrder := host.loadOrder.filter (· ≠ handle) }, .stop false)
  | .publish .loaded =>
    if !activate ∧ (host.pluginByHandle handle).any (·.state = .paused) then (host, .next)
    else (host, .stop true)
  | .publish _ => (host, .stop true)
  | .release _ | .deactivate _ => (host, .next)

/-- `StartPlugin` up to the load callback. -/
def beginStart (host : Host) (handle : KeelPluginHandle) : Host :=
  let host := host.modify handle fun plugin =>
    { plugin with acceptingResources := true, loading := true }
  { host with loadOrder := host.loadOrder ++ [handle] }

end Host

/-! ## Scripts -/

inductive Kind
  | unload (disable wasRunning : Bool)
  | pause
  | resume
  | start (activate : Bool)
  deriving DecidableEq, Repr

namespace Host

def turn (host : Host) (kind : Kind) (handle : KeelPluginHandle) (failed : Bool)
    (answer : Answer) (call : Call) : Host × Turn :=
  match kind with
  | .unload disable wasRunning => host.unloadTurn handle disable wasRunning answer call
  | .pause => host.pauseTurn handle answer call
  | .resume => host.resumeTurn handle call
  | .start activate => host.startTurn handle activate failed answer call

end Host

/-- A release that failed. -/
def Call.refused (call : Call) (answer : Answer) : Bool :=
  match call with
  | .release _ => answer.result ≠ .ok
  | _ => false

namespace Host

/-- A command performed with nothing in between, on a thread that is or is not the game thread:
the calls it still has to make, the one it goes on with, and what each answers. It returns the
host and its own result. -/
def perform (answers : Call → Answer) (gameThread : Bool) (kind : Kind)
    (handle : KeelPluginHandle) : List Call → Option Call → Bool → Host → Host × Bool
  | [], _, _, host => (host, true)
  | call :: rest, seek, failed, host =>
    if seek.any (· ≠ call) then perform answers gameThread kind handle rest seek failed host
    else
      let made := host.makes gameThread handle call
      let answer := if made then answers call else host.skipped handle call
      let host := if made then (host.calling handle call).called handle call answer else host
      let failed := failed || call.refused answer
      match host.turn kind handle failed answer call with
      | (host, .next) => perform answers gameThread kind handle rest none failed host
      | (host, .skipTo target) =>
        perform answers gameThread kind handle rest (some target) failed host
      | (host, .stop result) => (host, result)

/-- `UnloadPluginCommand`. -/
def unloadPlugin (answers : Call → Answer) (gameThread : Bool) (host : Host)
    (handle : KeelPluginHandle) (disable : Bool) : Host × Bool :=
  match host.beginUnload handle with
  | none => (host, false)
  | some (begun, wasRunning) =>
    perform answers gameThread (.unload disable wasRunning) handle (unloadCalls wasRunning)
      none false begun

/-- `PausePlugin`; true stands for `KEEL_RESULT_OK`. -/
def pausePlugin (answers : Call → Answer) (gameThread : Bool) (host : Host)
    (handle : KeelPluginHandle) : Host × Bool :=
  match host.beginPause handle with
  | none => (host, false)
  | some begun => perform answers gameThread .pause handle pauseCalls none false begun

/-- `StartPlugin`; true if the plugin has loaded. -/
def startPlugin (answers : Call → Answer) (gameThread : Bool) (host : Host)
    (handle : KeelPluginHandle) (activate : Bool) : Host × Bool :=
  perform answers gameThread (.start activate) handle startCalls none false
    (host.beginStart handle)

end Host
end KeelS2.Plugins
