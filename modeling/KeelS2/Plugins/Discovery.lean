import KeelS2.Plugins.Scripts

/-!
# Discovering a plugin

`DiscoverPlugin` has two parts: the record is made and the file staged and opened under the lock,
then the plugin is asked for its name and its manifest with the lock released. What the files
hold is not up to the host: `Image` and `Query` are what it gets to see of them.
-/

namespace KeelS2.Plugins

/-- What became of a plugin's file before the plugin is asked anything. -/
inductive Image
  | noRuntimeDirectory
  | notStaged
  | notOpened
  | noExports
  | opened
  deriving DecidableEq, Repr

/-- The answer of `KeelPlugin_Query` and of `KeelPlugin_Manifest`. `compatible` is what the
checks of the size, the ABI version and the texts say. -/
structure Query where
  succeeded : Bool
  manifestSucceeded : Bool
  compatible : Bool
  name : Text
  version : Text
  dependencies : List PluginDependencyRecord
  deriving DecidableEq, Repr

namespace Host

/-- The record under a new handle, by what became of the file. -/
def discovered (handle : KeelPluginHandle) (filename : Text) (image : Image) : PluginRecord :=
  let record := PluginRecord.new handle filename
  match image with
  | .noRuntimeDirectory => { record with diagnostic := .runtimeDirectory }
  | .notStaged => { record with diagnostic := .staging }
  | .notOpened => closePluginImage { record with diagnostic := .module }
  | .noExports =>
    closePluginImage
      { record with library := true, state := .invalid, diagnostic := .missingExports }
  | .opened => { record with library := true }

/-- `DiscoverPlugin` up to the query, with the handle of the record; there is none once the
handles are used up. -/
def beginDiscover (host : Host) (filename : Text) (image : Image) :
    Host × Option KeelPluginHandle :=
  if host.nextPlugin = 0 then (host, none)
  else
    ({ host with
        plugins := host.plugins ++ [discovered host.nextPlugin filename image]
        nextPlugin := (host.nextPlugin + 1) % 2 ^ 64 },
      some host.nextPlugin)

/-- The other plugin of a name. -/
def duplicate (host : Host) (handle : KeelPluginHandle) (name : Text) : Option PluginRecord :=
  host.plugins.find? fun candidate =>
    candidate.handle ≠ handle && candidate.selectable && equalInsensitive candidate.name name

/-- What the answered query makes of the record. -/
def describe (host : Host) (handle : KeelPluginHandle) (query : Query) (plugin : PluginRecord) :
    PluginRecord :=
  if !query.succeeded || !query.manifestSucceeded || !query.compatible then
    closePluginImage
      { plugin with
        state := .invalid
        diagnostic :=
          if query.manifestSucceeded then .incompatibleQuery else .incompatibleManifest }
  else
    let plugin :=
      { plugin with
        name := query.name, version := query.version, dependencies := query.dependencies }
    if query.dependencies.any fun dependency =>
        equalInsensitive dependency.name query.name then
      closePluginImage
        { plugin with state := .error, diagnostic := .selfDependency, selectable := true }
    else match host.duplicate handle query.name with
      | some other =>
        closePluginImage
          { plugin with state := .error, diagnostic := .duplicateName other.filename }
      | none =>
        { plugin with selectable := true, state := .loading, load := true, unload := true }

/-- `DiscoverPlugin` from the query on. -/
def finishDiscover (host : Host) (handle : KeelPluginHandle) (query : Query) : Host :=
  host.modify handle (host.describe handle query)

end Host

/-! ## StartDiscoveredPlugins: one plugin -/

/-- Whether a discovered plugin can be started. -/
inductive Readiness
  | rejected (diagnostic : Diagnostic)
  | waiting
  | ready
  deriving DecidableEq, Repr

/-- One turn of the loop over the dependencies: why it breaks off. A dependency that is still to
be started is waited for; one in transition is not looked at more closely. -/
def startProblem (plugins : List PluginRecord) (plugin : PluginRecord)
    (dependency : PluginDependencyRecord) : Option Diagnostic :=
  match dependencyTarget plugins dependency.name with
  | none => some (.missingDependency dependency.name dependency.version)
  | some target =>
    if target.handle = plugin.handle then some .selfDependency
    else if !dependencyVersionMatches target.version dependency then
      some (.versionMismatch dependency.name target.version dependency.version)
    else if target.state ≠ .loading ∧ target.state ≠ .loaded then
      some (.dependencyNotRunning dependency.name)
    else none

def startReadiness (plugins : List PluginRecord) (plugin : PluginRecord) : Readiness :=
  match plugin.dependencies.findSome? (startProblem plugins plugin) with
  | some diagnostic => .rejected diagnostic
  | none =>
    if plugin.dependencies.any fun dependency =>
        (dependencyTarget plugins dependency.name).any (·.state = .loading) then .waiting
    else .ready

end KeelS2.Plugins
