import KeelS2.Plugins.Holds

/-!
# What the first step of a command is

`Begins` lists what a command's first step, or a waiting function that goes on, can do to the
host and where it leaves the command. Before it a record may be taken away that nobody has a use
for (`Clears`).
-/

namespace KeelS2.Plugins.Host

/-- Records are taken away of plugins that are closed and not in service. -/
inductive Clears (host : Host) : Host → Prop
  | nothing : Clears host host
  | removes {handle : KeelPluginHandle} {plugin : PluginRecord}
      (hplugin : host.pluginByHandle handle = some plugin)
      (hidle : plugin.state ≠ .loaded ∧ plugin.state ≠ .paused)
      (hpending : plugin.cleanupPending = false) (hclosed : plugin.library = false) :
    Clears host (host.removePluginRecord handle)
  | forgets {middle : Host} (hclears : Clears host middle) (keep : PluginRecord → Bool) :
    Clears host { middle with disabledPlugins := middle.disabledPlugins.filter keep }

inductive Begins (host : Host) (files : Files) (owned : List KeelPluginHandle) :
    Host → Leaf → Prop
  | returns (bulk : Bool) (result : Result) :
    Begins host files owned { host with bulkPluginOperation := bulk } (.returned result)
  | announces : Begins host files owned host .allLoaded
  | discovers (filename : Text) :
    Begins host files owned (host.discoverPlugin files filename).host
      (host.discoverPlugin files filename).leaf
  | rejects {handle : KeelPluginHandle} {plugin : PluginRecord}
      (hplugin : host.pluginByHandle handle = some plugin) (hstate : plugin.state = .loading)
      (howned : handle ∈ owned) (diagnostic : Diagnostic) (result : Result) :
    Begins host files owned (host.rejectUnstartedPlugin handle diagnostic) (.returned result)
  | starts {handle : KeelPluginHandle} {plugin : PluginRecord}
      (hplugin : host.pluginByHandle handle = some plugin) (hstate : plugin.state = .loading)
      (howned : handle ∈ owned) (activate : Bool)
      (hready : dependenciesReady host.plugins plugin = none ∨
        activate = true ∧ startReadiness host.plugins plugin = .ready) :
    Begins host files owned (host.beginStart handle)
      (.script (.start activate) handle startCalls false)
  | unloads {handle : KeelPluginHandle} {plugin : PluginRecord}
      (hplugin : host.pluginByHandle handle = some plugin)
      (hstate : plugin.state = .loaded ∨ plugin.state = .paused)
      (htransition : plugin.transitioning = false)
      (halone : host.hasRunningDependent plugin true = false) (disable : Bool) :
    Begins host files owned
      ((host.modify handle fun plugin => { plugin with transitioning := true }).silence handle)
      (.script (.unload disable (plugin.state = .loaded)) handle
        (unloadCalls (plugin.state = .loaded)) false)
  | pauses {handle : KeelPluginHandle} {plugin : PluginRecord}
      (hplugin : host.pluginByHandle handle = some plugin) (hstate : plugin.state = .loaded)
      (htransition : plugin.transitioning = false)
      (halone : host.hasRunningDependent plugin false = false) :
    Begins host files owned
      ((host.modify handle fun plugin => { plugin with transitioning := true }).silence handle)
      (.script .pause handle pauseCalls false)
  | resumes {handle : KeelPluginHandle} {plugin : PluginRecord}
      (hplugin : host.pluginByHandle handle = some plugin) (hstate : plugin.state = .paused)
      (htransition : plugin.transitioning = false)
      (hready : dependenciesReady host.plugins plugin = none) :
    Begins host files owned
      ((host.modify handle fun plugin =>
        { plugin with transitioning := true, state := .loaded }).restorePluginDispatch handle)
      (.script .resume handle resumeCalls false)

/-- A step that may take a record away before it begins something. -/
def Opened (host : Host) (files : Files) (owned : List KeelPluginHandle) (next : Next) : Prop :=
  ∃ middle, Clears host middle ∧ Begins middle files owned next.host next.leaf

variable {host : Host} {files : Files} {owned : List KeelPluginHandle} {handle : KeelPluginHandle}
variable {plugin : PluginRecord} {next : Next}

theorem Opened.of_begins (hbegins : Begins host files owned next.host next.leaf) :
    Opened host files owned next :=
  ⟨host, .nothing, hbegins⟩

theorem Opened.of_same (hhost : next.host = host) (result : Result)
    (hleaf : next.leaf = .returned result) : Opened host files owned next := by
  refine .of_begins ?_
  rw [hhost, hleaf]
  exact .returns host.bulkPluginOperation result

end KeelS2.Plugins.Host
