import KeelS2.Plugins.Discovery

/-!
# Commands and what waits for them

A command that calls other functions of the manager is a stack: at its top what is being done
(`Leaf`), under it the functions that wait for its result (`Caller`). One step of a stack is what
is done under the lock without a look at a plugin or a service; a loop takes one step a turn.
-/

namespace KeelS2.Plugins

/-- What a function of the manager returns: a truth value, the record a plugin was loaded into. -/
structure Result where
  ok : Bool
  record : Option KeelPluginHandle
  deriving DecidableEq, Repr

inductive Leaf
  | returned (result : Result)
  /-- `DiscoverPlugin`, asking the plugin. -/
  | discover (handle : KeelPluginHandle)
  /-- A command of `Scripts`, with the calls it still has to make. -/
  | script (kind : Kind) (handle : KeelPluginHandle) (calls : List Call) (failed : Bool)
  /-- `PublishAllLoaded`. -/
  | allLoaded
  deriving DecidableEq, Repr

/-- What `ReloadPluginCommand` is waiting for. -/
inductive ReloadStage
  | unloading
  | loading
  | removing
  | restoring
  deriving DecidableEq, Repr

inductive Caller
  /-- `LoadPlugin`, waiting for `DiscoverPlugin`. -/
  | load (expected : Option Text) (activate : Bool)
  /-- The loop over the files of `LoadPlugins`, or over the new ones of `RefreshPluginsCommand`. -/
  | discoverAll (refresh : Bool) (rest : List Text) (found : List KeelPluginHandle)
  /-- `StartDiscoveredPlugins`: a pass over the plugins found, with those still to come. -/
  | startAll (found rest : List KeelPluginHandle) (remaining progress : Bool)
  /-- Its last pass: who still waits, waits in a cycle. -/
  | rejectAll (rest : List KeelPluginHandle)
  | reload (stage : ReloadStage) (filename name : Text) (wasPaused : Bool)
  | unloadAll (order rest attempted : List KeelPluginHandle) (progress : Bool)
  | refresh (running : List KeelPluginHandle) (paths newPaths : List Text)
  /-- The destructor of `BulkPluginOperation`. -/
  | bulkEnds
  deriving DecidableEq, Repr

/-- What the file system says in one step. -/
structure Files where
  image : Image
  /-- The rollback image of a reload could be made. -/
  backedUp : Bool
  /-- `FindPluginFiles`. -/
  paths : Option (List Text)
  /-- `PluginImageChanged`; `none` if the images could not be compared. -/
  changed : Option Bool
  deriving DecidableEq, Repr

/-- A stack and the host it leaves. -/
structure Next where
  host : Host
  leaf : Leaf
  callers : List Caller

/-- A function is called by one that waits for it. -/
def Next.under (next : Next) (caller : Caller) : Next :=
  { next with callers := next.callers ++ [caller] }

namespace Host

/-- The function returns. -/
def gives (host : Host) (ok : Bool) (record : Option KeelPluginHandle) : Next :=
  ⟨host, .returned ⟨ok, record⟩, []⟩

def discoverPlugin (host : Host) (files : Files) (filename : Text) : Next :=
  match host.beginDiscover filename files.image with
  | (host, none) => host.gives false none
  | (host, some handle) =>
    if files.image = .opened then ⟨host, .discover handle, []⟩
    else host.gives false (some handle)

/-- The first part of `LoadPlugin`. -/
def loadPlugin (host : Host) (files : Files) (filename : Text) (expected : Option Text)
    (activate : Bool) : Next :=
  let next := host.discoverPlugin files filename
  { next with callers := [.load expected activate] }

/-- The rest of `LoadPlugin`. -/
def resumeLoad (host : Host) (expected : Option Text) (activate : Bool)
    (record : Option KeelPluginHandle) : Next :=
  match record with
  | none => host.gives false none
  | some handle =>
    match host.pluginByHandle handle with
    | none => host.gives false none
    | some plugin =>
      if plugin.state ≠ .loading then host.gives false (some handle)
      else if expected.any fun name => !equalInsensitive plugin.name name then
        (host.rejectUnstartedPlugin handle .differentName).gives false (some handle)
      else match dependenciesReady host.plugins plugin with
        | some diagnostic =>
          (host.rejectUnstartedPlugin handle diagnostic).gives false (some handle)
        | none =>
          ⟨host.beginStart handle, .script (.start activate) handle startCalls false, []⟩

/-- `UnloadPluginCommand`. -/
def startUnload (host : Host) (handle : KeelPluginHandle) (disable : Bool) : Next :=
  match host.beginUnload handle with
  | none => host.gives false none
  | some (begun, wasRunning) =>
    ⟨begun, .script (.unload disable wasRunning) handle (unloadCalls wasRunning) false, []⟩

/-- `PausePlugin`. -/
def startPause (host : Host) (handle : KeelPluginHandle) : Next :=
  match host.beginPause handle with
  | none => host.gives false none
  | some begun => ⟨begun, .script .pause handle pauseCalls false, []⟩

/-- `ResumePlugin`. -/
def startResume (host : Host) (handle : KeelPluginHandle) : Next :=
  match host.beginResume handle with
  | none => host.gives false none
  | some begun => ⟨begun, .script .resume handle resumeCalls false, []⟩

/-! ## Loading many -/

/-- One turn of `LoadPlugins`' loop, or of the one in `RefreshPluginsCommand`. -/
def resumeDiscoverAll (host : Host) (files : Files) (refresh : Bool) (found : List KeelPluginHandle)
    (record : Option KeelPluginHandle) : List Text → Next
  | filename :: rest =>
    (host.discoverPlugin files filename).under
      (.discoverAll refresh rest (found ++ record.toList))
  | [] =>
    let found := found ++ record.toList
    if refresh && found.isEmpty then host.gives true none
    else ⟨host, .returned ⟨true, none⟩, [.startAll found found false false]⟩

/-- One turn of the loops in `StartDiscoveredPlugins`. -/
def resumeStartAll (host : Host) (found : List KeelPluginHandle) (remaining progress : Bool) :
    List KeelPluginHandle → Next
  | [] =>
    if !remaining then ⟨host, .allLoaded, []⟩
    else if !progress then ⟨host, .returned ⟨true, none⟩, [.rejectAll found]⟩
    else ⟨host, .returned ⟨true, none⟩, [.startAll found found false false]⟩
  | handle :: rest =>
    match (host.pluginByHandle handle).filter (·.state = .loading) with
    | none => ⟨host, .returned ⟨true, none⟩, [.startAll found rest remaining progress]⟩
    | some plugin =>
      match startReadiness host.plugins plugin with
      | .rejected diagnostic =>
        ⟨host.rejectUnstartedPlugin handle diagnostic, .returned ⟨true, none⟩,
          [.startAll found rest true true]⟩
      | .waiting => ⟨host, .returned ⟨true, none⟩, [.startAll found rest true progress]⟩
      | .ready =>
        ⟨host.beginStart handle, .script (.start true) handle startCalls false,
          [.startAll found rest true true]⟩

/-- One turn of the loop that rejects the plugins of a cycle. -/
def resumeRejectAll (host : Host) : List KeelPluginHandle → Next
  | [] => ⟨host, .allLoaded, []⟩
  | handle :: rest =>
    let host := match (host.pluginByHandle handle).filter (·.state = .loading) with
      | none => host
      | some _ => host.rejectUnstartedPlugin handle .dependencyCycle
    ⟨host, .returned ⟨true, none⟩, [.rejectAll rest]⟩

/-! ## Reloading -/

/-- `ReloadPluginCommand` up to the unload. -/
def reloadPlugin (host : Host) (files : Files) (handle : KeelPluginHandle) : Next :=
  match host.knownPlugins.find? fun plugin => plugin.handle == handle with
  | none => host.gives false none
  | some plugin =>
    if plugin.state ≠ .loaded ∧ plugin.state ≠ .paused then host.gives false none
    else if host.hasRunningDependent plugin true then host.gives false none
    else if (dependenciesReady host.plugins plugin).isSome then host.gives false none
    else if !files.backedUp then host.gives false none
    else (host.startUnload handle false).under
      (.reload .unloading plugin.filename plugin.name (plugin.state = .paused))

/-- The state a reloaded plugin is to come back to. -/
def formerState (wasPaused : Bool) : PluginState :=
  if wasPaused then .paused else .loaded

/-- The rest of `ReloadPluginCommand`, from where it waited. The rollback image goes by the name
of the file. -/
def resumeReload (host : Host) (files : Files) (filename name : Text) (wasPaused : Bool)
    (result : Result) : ReloadStage → Next
  | .unloading =>
    if !result.ok then host.gives false none
    else (host.loadPlugin files filename (some name) (!wasPaused)).under
      (.reload .loading filename name wasPaused)
  | .loading =>
    match result.record.bind host.pluginByHandle with
    | none =>
      (host.loadPlugin files filename (some name) (!wasPaused)).under
        (.reload .restoring filename name wasPaused)
    | some candidate =>
      if candidate.state = formerState wasPaused ∧ equalInsensitive candidate.name name = true then
        host.gives true none
      else if candidate.cleanupPending then host.gives false none
      else if candidate.state = .loaded ∨ candidate.state = .paused then
        (host.startUnload candidate.handle false).under
          (.reload .removing filename name wasPaused)
      else
        let host := if candidate.library then host else host.removePluginRecord candidate.handle
        (host.loadPlugin files filename (some name) (!wasPaused)).under
          (.reload .restoring filename name wasPaused)
  | .removing =>
    (host.loadPlugin files filename (some name) (!wasPaused)).under
      (.reload .restoring filename name wasPaused)
  | .restoring => host.gives false none

/-! ## Unloading all, and refreshing -/

/-- One turn of the loops in `UnloadAllPluginsCommand`. -/
def resumeUnloadAll (host : Host) (order attempted : List KeelPluginHandle) (progress : Bool)
    (result : Result) : List KeelPluginHandle → Next
  | [] =>
    if progress || result.ok then
      ⟨host, .returned ⟨false, none⟩, [.unloadAll order order attempted false]⟩
    else host.gives true none
  | handle :: rest =>
    let progress := progress || result.ok
    match host.pluginByHandle handle with
    | none => ⟨host, .returned ⟨false, none⟩, [.unloadAll order rest attempted progress]⟩
    | some plugin =>
      if !plugin.library || (plugin.state ≠ .loaded && plugin.state ≠ .paused) ||
          attempted.contains handle || host.hasRunningDependent plugin true then
        ⟨host, .returned ⟨false, none⟩, [.unloadAll order rest attempted progress]⟩
      else
        (host.startUnload handle true).under
          (.unloadAll order rest (attempted ++ [handle]) progress)

/-- One turn of `RefreshPluginsCommand`'s loop over the running plugins. -/
def resumeRefresh (host : Host) (files : Files) (paths newPaths : List Text) :
    List KeelPluginHandle → Next
  | [] => ⟨host, .returned ⟨true, none⟩, [.discoverAll true newPaths []]⟩
  | handle :: rest =>
    let waits := Caller.refresh rest paths newPaths
    match host.pluginByHandle handle with
    | none => ⟨host, .returned ⟨true, none⟩, [waits]⟩
    | some plugin =>
      if paths.any (equalInsensitive plugin.filename) && files.changed = some true then
        (host.reloadPlugin files handle).under waits
      else ⟨host, .returned ⟨true, none⟩, [waits]⟩

/-- A function gets what it waited for. -/
def resume (host : Host) (files : Files) (result : Result) : Caller → Next
  | .load expected activate => host.resumeLoad expected activate result.record
  | .discoverAll refresh rest found =>
    host.resumeDiscoverAll files refresh found result.record rest
  | .startAll found rest remaining progress => host.resumeStartAll found remaining progress rest
  | .rejectAll rest => host.resumeRejectAll rest
  | .reload stage filename name wasPaused =>
    host.resumeReload files filename name wasPaused result stage
  | .unloadAll order rest attempted progress =>
    host.resumeUnloadAll order attempted progress result rest
  | .refresh running paths newPaths => host.resumeRefresh files paths newPaths running
  | .bulkEnds => { host with bulkPluginOperation := false }.gives result.ok result.record

end Host

/-! ## What is asked of the manager -/

inductive Command
  | loadPlugins (paths : List Text)
  | load (filename : Text)
  | unload (handle : KeelPluginHandle)
  | reload (handle : KeelPluginHandle)
  | retry (handle : KeelPluginHandle)
  | pause (handle : KeelPluginHandle)
  | resume (handle : KeelPluginHandle)
  | unloadAll
  | refresh
  deriving DecidableEq, Repr

/-- Who asks: the host when it starts, the console, the queue of commands that a hook put off,
or a plugin through the plugin service. -/
inductive Origin
  | start
  | console
  | deferred
  | pluginService
  deriving DecidableEq, Repr

/-- A bulk operation keeps the console out, and nothing else. -/
def Command.admitted (bulkPluginOperation : Bool) : Origin → Command → Bool
  | .start, .loadPlugins _ => true
  | .console, .loadPlugins _ => false
  | .console, _ => !bulkPluginOperation
  | .deferred, .unload _ | .deferred, .reload _ | .deferred, .unloadAll
  | .deferred, .refresh => true
  | .pluginService, .pause _ | .pluginService, .resume _ => true
  | _, _ => false

namespace Host

def loadPluginCommand (host : Host) (files : Files) (filename : Text) : Next :=
  let fresh (host : Host) : Next :=
    { host with
      disabledPlugins := host.disabledPlugins.filter fun plugin =>
        !equalInsensitive plugin.filename filename }.loadPlugin files filename none true
  match host.plugins.find? fun plugin => equalInsensitive plugin.filename filename with
  | none => fresh host
  | some existing =>
    if existing.state = .loaded ∨ existing.state = .paused then host.gives false none
    else if existing.cleanupPending || existing.library then host.gives false none
    else fresh (host.removePluginRecord existing.handle)

/-- `RetryPluginCommand`. -/
def retryPlugin (host : Host) (files : Files) (handle : KeelPluginHandle) : Next :=
  match host.knownPlugins.find? fun plugin => plugin.handle == handle with
  | none => host.gives false none
  | some plugin =>
    if plugin.state ≠ .error ∧ plugin.state ≠ .invalid then host.gives false none
    else if plugin.cleanupPending || plugin.library then host.gives false none
    else (host.removePluginRecord handle).loadPlugin files plugin.filename none true

/-- The first step of a command. -/
def invoke (host : Host) (files : Files) : Command → Next
  | .loadPlugins paths => ⟨host, .returned ⟨true, none⟩, [.discoverAll false paths []]⟩
  | .load filename => host.loadPluginCommand files filename
  | .unload handle => host.startUnload handle true
  | .reload handle => host.reloadPlugin files handle
  | .retry handle => host.retryPlugin files handle
  | .pause handle => host.startPause handle
  | .resume handle => host.startResume handle
  | .unloadAll =>
    let order := host.loadOrder.reverse
    ⟨{ host with bulkPluginOperation := true }, .returned ⟨false, none⟩,
      [.unloadAll order order [] false, .bulkEnds]⟩
  | .refresh =>
    match files.paths with
    | none => { host with bulkPluginOperation := false }.gives false none
    | some paths =>
      let newPaths := paths.filter fun path =>
        !host.knownPlugins.any fun plugin => equalInsensitive plugin.filename path
      let running := (host.plugins.filter fun plugin =>
        plugin.state = .loaded || plugin.state = .paused).map (·.handle)
      ⟨{ host with bulkPluginOperation := true }, .returned ⟨true, none⟩,
        [.refresh running paths newPaths, .bulkEnds]⟩

end Host
end KeelS2.Plugins
