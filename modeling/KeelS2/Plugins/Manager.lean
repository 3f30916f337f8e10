import KeelS2.Plugins.PluginRecord

/-!
# The plugin manager's state

`Host`, as far as the plugin manager reads and writes it. The services are kept as what the
manager can see of them: for every service and plugin, whether the plugin's callbacks there are
enabled (`dispatch`) and whether it holds anything there (`held`). What a service call answers is
not up to the manager; `Answer` is that answer.

A command that calls a plugin or a service does so with `state_mutex_` unlocked, and is written
as a list of such calls (`Call`). What a call does while it runs is `Host.called`.
-/

namespace KeelS2.Plugins

inductive Service
  | factories
  | source2Callbacks
  | lifecycle
  | convars
  | pluginService
  | keelhook
  | publishedServices
  | schemaEntities
  deriving DecidableEq, Repr

inductive PluginEvent
  | loaded
  | unloaded
  | paused
  | resumed
  | allLoaded
  deriving DecidableEq, Repr

structure Host where
  plugins : List PluginRecord
  disabledPlugins : List PluginRecord
  loadOrder : List KeelPluginHandle
  nextPlugin : Nat
  bulkPluginOperation : Bool
  /-- The services that exist. -/
  present : Service → Bool
  dispatch : Service → KeelPluginHandle → Bool
  held : Service → KeelPluginHandle → Bool
  /-- The plugin's console commands: enabled, and registered. -/
  commandsEnabled : KeelPluginHandle → Bool
  commandsHeld : KeelPluginHandle → Bool
  /-- `PluginCommandActive`, `FactoryService::Pinned` and `HasLeasedPublication`. -/
  commandActive : KeelPluginHandle → Bool
  pinned : KeelPluginHandle → Bool
  leased : KeelPluginHandle → Bool

/-- A function's value at one plugin replaced. -/
def set {Value : Type} (values : KeelPluginHandle → Value) (handle : KeelPluginHandle)
    (value : Value) : KeelPluginHandle → Value :=
  fun other => if other = handle then value else values other

@[simp] theorem set_self {Value : Type} (values : KeelPluginHandle → Value)
    (handle : KeelPluginHandle) (value : Value) : set values handle value handle = value := by
  simp [set]

theorem set_ne {Value : Type} {values : KeelPluginHandle → Value}
    {handle other : KeelPluginHandle} {value : Value} (h : other ≠ handle) :
    set values handle value other = values other := by
  simp [set, h]

namespace Host

def pluginByHandle (host : Host) (handle : KeelPluginHandle) : Option PluginRecord :=
  host.plugins.find? fun plugin => plugin.handle == handle

def knownPlugins (host : Host) : List PluginRecord :=
  host.plugins ++ host.disabledPlugins

/-- Writes to a record through its pointer. -/
def modify (host : Host) (handle : KeelPluginHandle) (write : PluginRecord → PluginRecord) :
    Host :=
  { host with plugins := host.plugins.map fun plugin =>
      if plugin.handle = handle then write plugin else plugin }

def setCommandsOwnedEnabled (host : Host) (handle : KeelPluginHandle) (enabled : Bool) : Host :=
  { host with commandsEnabled := set host.commandsEnabled handle enabled }

def removeCommandsOwnedBy (host : Host) (handle : KeelPluginHandle) : Host :=
  { host with
    commandsEnabled := set host.commandsEnabled handle false
    commandsHeld := set host.commandsHeld handle false }

def removePluginRecord (host : Host) (handle : KeelPluginHandle) : Host :=
  { host with
    loadOrder := host.loadOrder.filter (· ≠ handle)
    plugins := host.plugins.filter (·.handle ≠ handle) }

def closePluginImage (plugin : PluginRecord) : PluginRecord :=
  { plugin with preparePause := false, prepareUnload := false, library := false }

/-- `Activate` of one service; a service that does not exist is not called. -/
def activate (host : Host) (service : Service) (handle : KeelPluginHandle) : Host :=
  { host with dispatch := fun other =>
      if other = service ∧ host.present other = true then set (host.dispatch other) handle true
      else host.dispatch other }

/-- The services `RestorePluginDispatch` activates, in its order. -/
def dispatchServices : List Service :=
  [.factories, .keelhook, .lifecycle, .convars, .pluginService, .source2Callbacks]

def restorePluginDispatch (host : Host) (handle : KeelPluginHandle) : Host :=
  let host := host.modify handle fun plugin =>
    { plugin with acceptingResources := true, factoryDispatchEnabled := true }
  let host := host.setCommandsOwnedEnabled handle true
  dispatchServices.foldl (fun host service => host.activate service handle) host

def rejectUnstartedPlugin (host : Host) (handle : KeelPluginHandle) (diagnostic : Diagnostic) :
    Host :=
  host.modify handle fun plugin => closePluginImage
    { plugin with
      acceptingResources := false, loading := false, state := .error, diagnostic := diagnostic
      load := false, unload := false }

def hasRunningDependent (host : Host) (plugin : PluginRecord) (includeRetained : Bool) : Bool :=
  plugin.activeNativeOperations ≠ 0 || host.commandActive plugin.handle ||
    (host.plugins.any fun candidate =>
      candidate.handle ≠ plugin.handle &&
        (candidate.state = .loaded || (includeRetained && candidate.library)) &&
        candidate.dependencies.any fun dependency =>
          equalInsensitive dependency.name plugin.name) ||
    (host.present .factories && host.pinned plugin.handle) ||
    (host.present .publishedServices && host.leased plugin.handle)

end Host

/-! ## Calls made with the lock released -/

inductive Call
  | deactivate (service : Service)
  | release (service : Service)
  | preparePause
  | prepareUnload
  | load
  | unload
  | publish (event : PluginEvent)
  deriving DecidableEq, Repr

/-- What a call answers. A service that refuses may have done part of what it was asked to
(`lost`); a plugin's callback is `ready` when it returned `KEEL_TRUE`. -/
structure Answer where
  result : KeelResult
  lost : Bool
  ready : Bool
  threw : Bool
  deriving DecidableEq, Repr

def Answer.agreed (answer : Answer) : Bool := answer.ready && !answer.threw

namespace Host

/-- The call is made at all: its service exists, its callback is set. The preparing callbacks
are made on the game thread only. -/
def makes (host : Host) (gameThread : Bool) (handle : KeelPluginHandle) : Call → Bool
  | .deactivate service | .release service => host.present service
  | .preparePause => gameThread && (host.pluginByHandle handle).any (·.preparePause)
  | .prepareUnload => gameThread && (host.pluginByHandle handle).any (·.prepareUnload)
  | .load => true
  | .unload => (host.pluginByHandle handle).any (·.unload)
  | .publish _ => host.present .pluginService

/-- What stands for the answer of a call that is not made: `PreparePluginPause` is true without
a callback, and false when there is one but the thread is wrong. -/
def skipped (host : Host) (handle : KeelPluginHandle) : Call → Answer
  | .preparePause => ⟨.ok, false, !(host.pluginByHandle handle).any (·.preparePause), false⟩
  | .prepareUnload => ⟨.ok, false, !(host.pluginByHandle handle).any (·.prepareUnload), false⟩
  | _ => ⟨.ok, false, true, false⟩

/-- Before the lock is released for a call. -/
def calling (host : Host) (handle : KeelPluginHandle) : Call → Host
  | .preparePause => host.modify handle fun plugin =>
      { plugin with preparePauseActive := true, cleanupCallbackActive := true }
  | .prepareUnload => host.modify handle fun plugin =>
      { plugin with prepareUnloadActive := true, cleanupCallbackActive := true }
  | .unload => host.modify handle fun plugin => { plugin with cleanupCallbackActive := true }
  | _ => host

/-- The services whose refused `Deactivate` may have disabled the plugin's callbacks: only
the factories look once more, at their pins, when they have disabled them. -/
def disablesPartly (service : Service) (answer : Answer) : Bool :=
  answer.lost && service = .factories

/-- The services whose failed `ReleasePlugin` may have given up part of what they held. The
others, and all of them when busy, look before they release anything. -/
def releasesPartly (service : Service) (answer : Answer) : Bool :=
  answer.lost && answer.result ≠ .busy &&
    (service = .keelhook || service = .convars || service = .schemaEntities)

/-- What a service does for `handle`, and what the manager writes once the lock is taken again.
-/
def called (host : Host) (handle : KeelPluginHandle) (call : Call) (answer : Answer) : Host :=
  match call with
  | .deactivate service =>
    if answer.result = .ok ∨ disablesPartly service answer = true then
      { host with dispatch := fun other =>
          if other = service then set (host.dispatch other) handle false
          else host.dispatch other }
    else host
  | .release service =>
    if answer.result = .ok ∨ releasesPartly service answer = true then
      { host with
        dispatch := fun other =>
          if other = service then set (host.dispatch other) handle false
          else host.dispatch other
        held := fun other =>
          if other = service then set (host.held other) handle false else host.held other }
    else host
  | .preparePause => host.modify handle fun plugin =>
      { plugin with preparePauseActive := false, cleanupCallbackActive := false }
  | .prepareUnload => host.modify handle fun plugin =>
      { plugin with prepareUnloadActive := false, cleanupCallbackActive := false }
  | .unload => host.modify handle fun plugin => { plugin with cleanupCallbackActive := false }
  | .load | .publish _ => host

/-! ## What writing to one record leaves -/

theorem pluginByHandle_modify {write : PluginRecord → PluginRecord}
    (hwrite : ∀ plugin, (write plugin).handle = plugin.handle) (host : Host)
    (handle other : KeelPluginHandle) :
    (host.modify handle write).pluginByHandle other =
      if other = handle then (host.pluginByHandle other).map write
      else host.pluginByHandle other := by
  unfold pluginByHandle modify
  rw [List.find?_map]
  have hsame : ((fun plugin => plugin.handle == other) ∘ fun plugin : PluginRecord =>
      if plugin.handle = handle then write plugin else plugin) =
        fun plugin => plugin.handle == other := by
    funext plugin
    by_cases h : plugin.handle = handle
    · simp [h, hwrite]
    · simp [h]
  rw [hsame]
  cases hfound : host.plugins.find? (fun plugin => plugin.handle == other) with
  | none => simp
  | some plugin =>
    have hhandle : plugin.handle = other := by simpa using List.find?_some hfound
    by_cases h : other = handle
    · simp [h, hhandle]
    · simp [h, hhandle]

theorem pluginByHandle_handle {host : Host} {handle : KeelPluginHandle} {plugin : PluginRecord}
    (hplugin : host.pluginByHandle handle = some plugin) : plugin.handle = handle := by
  simpa using List.find?_some hplugin

theorem activate_dispatch (host : Host) (first service : Service)
    (handle other : KeelPluginHandle) :
    (host.activate first handle).dispatch service other =
      (host.dispatch service other ||
        (decide (other = handle) && host.present service && decide (service = first))) := by
  unfold activate
  by_cases hfirst : service = first ∧ host.present service = true
  · by_cases hother : other = handle
    · simp only [if_pos hfirst]
      simp [hother, hfirst.1, hfirst.1 ▸ hfirst.2]
    · simp only [if_pos hfirst]
      simp [set_ne hother, hother]
  · simp only [if_neg hfirst]
    have hnone : (host.present service && decide (service = first)) = false := by
      by_contra hboth
      simp only [Bool.not_eq_false, Bool.and_eq_true, decide_eq_true_eq] at hboth
      exact hfirst hboth.symm
    rw [Bool.and_assoc, hnone, Bool.and_false, Bool.or_false]

theorem activates_eq (services : List Service) (host : Host) (handle : KeelPluginHandle) :
    services.foldl (fun host service => host.activate service handle) host =
      { host with dispatch := fun service other => host.dispatch service other ||
          (decide (other = handle) && host.present service && decide (service ∈ services)) } := by
  induction services generalizing host with
  | nil => simp
  | cons first services ih =>
    rw [List.foldl_cons, ih]
    show Host.mk _ _ _ _ _ _ _ _ _ _ _ _ _ = Host.mk _ _ _ _ _ _ _ _ _ _ _ _ _
    congr 1
    funext service other
    rw [activate_dispatch]
    show (_ || (_ && host.present service && _)) = _
    simp [Bool.decide_or, Bool.or_assoc, Bool.and_or_distrib_left]

theorem restorePluginDispatch_eq (host : Host) (handle : KeelPluginHandle) :
    host.restorePluginDispatch handle =
      { host.modify handle fun plugin =>
          { plugin with acceptingResources := true, factoryDispatchEnabled := true } with
        commandsEnabled := set host.commandsEnabled handle true
        dispatch := fun service other => host.dispatch service other ||
          (decide (other = handle) && host.present service &&
            decide (service ∈ dispatchServices)) } :=
  activates_eq dispatchServices _ handle

end Host
end KeelS2.Plugins
