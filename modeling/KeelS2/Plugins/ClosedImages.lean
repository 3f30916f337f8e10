import KeelS2.Plugins.OpenImages

/-!
# Images that are closed

A handle that was given to a plugin has its image opened once, by the section that makes the
record: an image that is closed stays closed (`step_closing`).
-/

namespace KeelS2.Plugins
namespace Host

variable {host middle after : Host} {handle other : KeelPluginHandle}

/-- No image is opened for a handle that had been given away. -/
def Closing (host after : Host) : Prop :=
  ∀ handle, host.Allotted handle → after.openImage handle = some true →
    host.openImage handle = some true

theorem Closing.of_same (hplugins : after.plugins = host.plugins) : Closing host after := by
  intro handle _ hopen
  rwa [openImage_congr (pluginByHandle_congr hplugins)] at hopen

theorem Closing.of_standing (hstanding : Standing host after) : Closing host after := by
  intro handle _ hopen
  rwa [openImage_of_rel (hstanding handle)] at hopen

theorem Closing.of_modify {write : PluginRecord → PluginRecord}
    (hplugins : after.plugins = (host.modify handle write).plugins)
    (hhandle : ∀ plugin, (write plugin).handle = plugin.handle)
    (hlibrary : ∀ plugin, (write plugin).library = true → plugin.library = true) :
    Closing host after := by
  intro other _ hopen
  unfold openImage at hopen ⊢
  rw [pluginByHandle_congr hplugins, pluginByHandle_modify hhandle] at hopen
  split at hopen
  · cases hplugin : host.pluginByHandle other with
    | none =>
      rw [hplugin] at hopen
      cases hopen
    | some plugin =>
      rw [hplugin] at hopen
      exact congrArg some (hlibrary plugin (Option.some.inj hopen))
  · exact hopen

theorem Clears.closing (hclears : Clears host middle) : Closing host middle := by
  intro handle _ hopen
  cases hplugin : middle.pluginByHandle handle with
  | none =>
    unfold openImage at hopen
    rw [hplugin] at hopen
    cases hopen
  | some plugin =>
    rw [openImage_found hplugin] at hopen
    rw [openImage_found (hclears.found hplugin)]
    exact hopen

theorem Begins.closing {files : Files} {owned : List KeelPluginHandle} {leaf : Leaf}
    (hbegins : Begins host files owned after leaf) (hnumbered : Numbered host) :
    Closing host after := by
  cases hbegins with
  | returns bulk result => exact .of_same rfl
  | announces => exact .of_same rfl
  | discovers filename =>
    rcases discoverPlugin_cases host files filename with ⟨hsame, -⟩ | ⟨fresh, hbegun, -⟩
    · rw [hsame]
      exact .of_same rfl
    · obtain ⟨hchange, hfresh, -⟩ := beginDiscover_change hnumbered hbegun
      intro handle hallotted hopen
      have hne : handle ≠ fresh := fun hsame => hfresh (hsame ▸ hallotted)
      rwa [openImage_congr (hchange.others handle hne)] at hopen
  | @rejects handle plugin hplugin hstate howned diagnostic result =>
    exact .of_modify rfl (fun _ => rfl) fun _ hopen => by cases hopen
  | @starts handle plugin hplugin hstate howned activate hready =>
    exact .of_modify (started_plugins host handle) (fun _ => rfl) fun _ hopen => hopen
  | @unloads handle plugin hplugin hstate htransition halone disable =>
    exact .of_modify (begun_plugins host handle) (fun _ => rfl) fun _ hopen => hopen
  | @pauses handle plugin hplugin hstate htransition halone =>
    exact .of_modify (begun_plugins host handle) (fun _ => rfl) fun _ hopen => hopen
  | @resumes handle plugin hplugin hstate htransition hready =>
    exact .of_modify (resumed_plugins host handle) (fun _ => rfl) fun _ hopen => hopen

theorem Opened.closing {files : Files} {owned : List KeelPluginHandle} {next : Next}
    (hopened : Opened host files owned next) (hnumbered : Numbered host) :
    Closing host next.host := by
  obtain ⟨middle, hclears, hbegins⟩ := hopened
  intro handle hallotted hopen
  refine hclears.closing handle hallotted ?_
  exact hbegins.closing (hclears.numbered hnumbered) handle
    (hallotted.of_nextPlugin hclears.nextPlugin) hopen

theorem openImage_gone (hgone : host.pluginByHandle handle = none) :
    host.openImage handle ≠ some true := by
  unfold openImage
  rw [hgone]
  exact fun hopen => by cases hopen

theorem finishUnload_gone (host : Host) (handle : KeelPluginHandle) (disable : Bool) :
    (host.finishUnload handle disable).openImage handle ≠ some true := by
  refine openImage_gone ?_
  rw [pluginByHandle_congr (finishUnload_plugins host handle disable)]
  exact pluginByHandle_gone host handle

theorem Sets.closing {state : PluginState → PluginState} (hsets : Sets state handle host after) :
    Closing host after := by
  intro other _ hopen
  rwa [hsets.openImage] at hopen

theorem Turned.closing {kind : Kind} {call : Call} {leaf : Leaf}
    (hturned : Turned host handle kind call after leaf) : Closing host after := by
  cases hturned with
  | returns hkeeps => exact hkeeps.closing
  | continues hkeeps => exact hkeeps.closing
  | settles _ hbecomes => exact hbecomes.closing
  | announces => exact .of_same rfl
  | fails hbecomes => exact hbecomes.closing
  | retains hbecomes => exact hbecomes.closing
  | closes hwrite =>
    refine .of_modify rfl (fun plugin => (hwrite plugin).1.handle) fun plugin hopen => ?_
    rw [(hwrite plugin).2.1] at hopen
    cases hopen
  | pauses hbecomes => exact hbecomes.closing
  | @unloads disable wasRunning failed =>
    intro other hallotted hopen
    by_cases hsame : other = handle
    · exact absurd (hsame ▸ hopen) (finishUnload_gone host handle disable)
    · rw [openImage_congr (pluginByHandle_congr (finishUnload_plugins host handle disable)),
        openImage_congr (pluginByHandle_removed hsame)] at hopen
      exact hopen

theorem describe_library (host : Host) (handle : KeelPluginHandle) (query : Query)
    (plugin : PluginRecord) (hopen : (host.describe handle query plugin).library = true) :
    plugin.library = true := by
  unfold describe at hopen
  split at hopen
  · cases hopen
  · dsimp only at hopen
    split at hopen
    · cases hopen
    · split at hopen
      · cases hopen
      · exact hopen

end Host

namespace Machine

variable {machine : Machine}

theorem step_closing (hsafe : Host.Safe machine.host machine.tasks)
    (himaged : Host.Imaged machine.host machine.tasks) (action : Action) :
    Host.Closing machine.host (machine.step action).host := by
  have hdoes := step_does machine action
  generalize machine.step action = after at hdoes
  cases hdoes with
  | idles => exact .of_same rfl
  | happens event => exact .of_standing (Host.happen_standing machine.host event)
  | begins hholder hwaits hadmitted =>
    exact (Host.invoke_opened hsafe.numbered _).closing hsafe.numbered
  | waits => exact .of_same rfl
  | calls => exact .of_standing (Host.calling_standing machine.host _ _)
  | skips hholder hleaf hmakes => exact (settle_turned hsafe himaged hleaf).closing
  | returns => exact .of_same rfl
  | ends => exact .of_same rfl
  | resumes hholder hleaf hcallers =>
    exact (Host.resume_opened hsafe.numbered hsafe.clean _ _).closing hsafe.numbered
  | answers => exact .of_standing (answer_standing machine _ _)
  | asks => exact .of_same rfl
  | @describes thread query own hholder hstatus hleaf =>
    exact .of_modify rfl (fun plugin => (Host.describe_same machine.host query plugin).1)
      fun plugin => Host.describe_library machine.host own query plugin
  | @settles thread kind own call rest failed answer hholder hstatus hleaf =>
    intro handle hallotted hopen
    have hturned := (@settle_turned _ _ (reached machine.host own call answer) _ _ _ _ _ answer
      hsafe himaged hleaf).closing
    have hstanding := reached_standing machine.host own call answer
    obtain ⟨_, _, hchange, -⟩ := (reached_still machine.host own call answer).change
    rw [← Host.openImage_of_rel (hstanding handle)]
    exact hturned handle (hchange.allotted handle hallotted) hopen

end Machine
end KeelS2.Plugins
