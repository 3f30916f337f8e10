import KeelS2.Plugins.Machine

/-!
# What a section under the lock may do to the records

Every section of the manager rewrites one record, removes one or makes one, and leaves the others
alone. `Shift` lists the ways a record's state may go, `Move` adds what happens to the flags that
go with it, `Change` puts the record back among the others. The invariants of the manager are
read off these, without a look at the sections themselves.
-/

namespace KeelS2.Plugins
namespace Host

/-! ## Handles -/

/-- The handle was given to a plugin. -/
def Allotted (host : Host) (handle : KeelPluginHandle) : Prop :=
  handle ≠ 0 ∧ (host.nextPlugin = 0 ∨ handle < host.nextPlugin)

structure Numbered (host : Host) : Prop where
  unique : (host.plugins.map (·.handle)).Nodup
  allotted : ∀ plugin ∈ host.plugins, host.Allotted plugin.handle
  bound : host.nextPlugin < 2 ^ 64
  disabled : ∀ plugin ∈ host.disabledPlugins, plugin.state = .disabled

variable {host after : Host} {handle other : KeelPluginHandle} {old now plugin : PluginRecord}

theorem find_mem_of_unique (hunique : (host.plugins.map (·.handle)).Nodup)
    (hmem : plugin ∈ host.plugins) : host.pluginByHandle plugin.handle = some plugin := by
  unfold pluginByHandle
  generalize host.plugins = plugins at hmem hunique
  induction plugins with
  | nil => cases hmem
  | cons first plugins ih =>
    rw [List.map_cons, List.nodup_cons] at hunique
    rw [List.find?_cons]
    rcases List.mem_cons.1 hmem with rfl | hlater
    · simp
    · have hne : first.handle ≠ plugin.handle := fun hsame =>
        hunique.1 (hsame ▸ List.mem_map_of_mem hlater)
      rw [show (first.handle == plugin.handle) = false by simpa using hne]
      exact ih hlater hunique.2

theorem Numbered.find_mem (hnumbered : Numbered host) (hmem : plugin ∈ host.plugins) :
    host.pluginByHandle plugin.handle = some plugin :=
  find_mem_of_unique hnumbered.unique hmem

theorem mem_of_pluginByHandle (hplugin : host.pluginByHandle handle = some plugin) :
    plugin ∈ host.plugins :=
  List.mem_of_find?_eq_some hplugin

theorem pluginByHandle_self (hplugin : host.pluginByHandle handle = some plugin) :
    host.pluginByHandle plugin.handle = some plugin := by
  rw [pluginByHandle_handle hplugin]
  exact hplugin

theorem Numbered.target (hnumbered : Numbered host) {name : Text} {target : PluginRecord}
    (htarget : dependencyTarget host.plugins name = some target) :
    host.pluginByHandle target.handle = some target :=
  hnumbered.find_mem (dependencyTarget_some htarget).1

end Host

/-! ## The ways a record may go -/

/-- What a plugin said of itself, and whether it goes by its name. -/
structure SameManifest (old now : PluginRecord) : Prop where
  handle : now.handle = old.handle
  filename : now.filename = old.filename
  name : now.name = old.name
  version : now.version = old.version
  dependencies : now.dependencies = old.dependencies
  selectable : now.selectable = old.selectable

/-- A dependency could count on the plugin. -/
def PluginRecord.Serves (plugin : PluginRecord) : Prop :=
  plugin.state = .loaded ∧ plugin.transitioning = false

/-- Accepted: started, or about to be. -/
def PluginRecord.Live (plugin : PluginRecord) : Prop :=
  plugin.state = .loading ∨ plugin.state = .loaded ∨ plugin.state = .paused

inductive Shift (host : Host) (old now : PluginRecord) : Prop
  /-- The state stays. -/
  | kept (hmanifest : SameManifest old now) (hstate : now.state = old.state)
      (htransition : now.transitioning = old.transitioning)
  | described (hold : old.state = .error) (hhidden : old.selectable = false)
      (hpending : old.cleanupPending = false) (query : Query)
      (hnow : now = host.describe old.handle query old)
  /-- A plugin that was to be started is not, or did not start. -/
  | failed (hmanifest : SameManifest old now) (hold : old.state = .loading ∨ old.state = .error)
      (hnow : now.state = .error)
  | settled (hmanifest : SameManifest old now) (hold : old.state = .loading)
      (hnow : now.state = .paused ∨
        now.state = .loaded ∧ dependenciesReady host.plugins old = none)
      (htransition : now.transitioning = old.transitioning)
  /-- A transition out of service begins: no running plugin depends on this one. -/
  | begun (hmanifest : SameManifest old now) (hold : old.state = .loaded ∨ old.state = .paused)
      (hnow : now.state = old.state)
      (halone : ∀ candidate ∈ host.plugins, candidate.handle ≠ old.handle →
        candidate.state = .loaded → ∀ dependency ∈ candidate.dependencies,
          equalInsensitive dependency.name old.name = false)
  | resumed (hmanifest : SameManifest old now) (hold : old.state = .paused)
      (hnow : now.state = .loaded) (hready : dependenciesReady host.plugins old = none)
  | paused (hmanifest : SameManifest old now) (hold : old.state = .loaded ∨ old.state = .paused)
      (htransition : old.transitioning = true) (hnow : now.state = .paused)
  /-- A transition ends. -/
  | ended (hmanifest : SameManifest old now) (hold : old.state = .loaded ∨ old.state = .paused)
      (htransition : old.transitioning = true) (hnow : now.state = old.state)

structure Move (host : Host) (restores : Bool) (old now : PluginRecord) : Prop where
  shift : Shift host old now
  /-- Quarantine begins at the end of something, with the plugin silent. -/
  pending : now.cleanupPending = old.cleanupPending ∨
    now.cleanupPending = true ∧ now.acceptingResources = false ∧ now.state ≠ .loading ∧
      ¬old.Serves
  accepting : restores = false → now.acceptingResources = true → old.acceptingResources = true

namespace Host

/-- The record of one handle changed, or nothing did. `restores` says that the change may turn
something of that plugin on. -/
structure Change (host after : Host) (handle : KeelPluginHandle) (restores : Bool) : Prop where
  numbered : Numbered host → Numbered after
  allotted : ∀ other, host.Allotted other → after.Allotted other
  others : ∀ other, other ≠ handle → after.pluginByHandle other = host.pluginByHandle other
  moved : ∀ now, after.pluginByHandle handle = some now →
    (∃ old, host.pluginByHandle handle = some old ∧ Move host restores old now) ∨
      ¬host.Allotted handle ∧ ∃ filename image, now = discovered handle filename image
  gone : ∀ old, host.pluginByHandle handle = some old → after.pluginByHandle handle = none →
    ¬old.Serves
  commands : ∀ other, other ≠ handle ∨ restores = false →
    after.commandsEnabled other = true → host.commandsEnabled other = true
  dispatch : ∀ other, other ≠ handle ∨ restores = false →
    ∀ service, after.dispatch service other = true → host.dispatch service other = true

/-! ## Writing, removing, making -/

variable {host after : Host} {handle other : KeelPluginHandle} {old now plugin : PluginRecord}

theorem pluginByHandle_congr (hplugins : after.plugins = host.plugins) :
    after.pluginByHandle other = host.pluginByHandle other := by
  unfold pluginByHandle
  rw [hplugins]

theorem modified_again {middle : Host} {write : PluginRecord → PluginRecord}
    (again : PluginRecord → PluginRecord)
    (hmiddle : middle.plugins = (host.modify handle write).plugins)
    (hwrite : ∀ plugin, (write plugin).handle = plugin.handle) :
    (middle.modify handle again).plugins =
      (host.modify handle fun plugin => again (write plugin)).plugins := by
  unfold modify at hmiddle ⊢
  simp only at hmiddle ⊢
  rw [hmiddle, List.map_map]
  refine List.map_congr_left fun plugin _ => ?_
  by_cases hsame : plugin.handle = handle
  · simp [hsame, hwrite]
  · simp [hsame]

/-- No record is taken away. -/
def Stays (host after : Host) : Prop :=
  ∀ other, after.pluginByHandle other = none → host.pluginByHandle other = none

theorem Stays.of_same (hplugins : after.plugins = host.plugins) : Stays host after := by
  intro other hnone
  rwa [pluginByHandle_congr hplugins] at hnone

theorem Stays.of_modify {write : PluginRecord → PluginRecord}
    (hplugins : after.plugins = (host.modify handle write).plugins)
    (hwrite : ∀ plugin, (write plugin).handle = plugin.handle) : Stays host after := by
  intro other hnone
  rw [pluginByHandle_congr hplugins, pluginByHandle_modify hwrite] at hnone
  by_cases hother : other = handle
  · rwa [if_pos hother, Option.map_eq_none_iff] at hnone
  · rwa [if_neg hother] at hnone

/-- What is in the host but not in the records, and never changes with them alone. -/
def SameRest (host after : Host) : Prop :=
  after.nextPlugin = host.nextPlugin ∧ after.disabledPlugins = host.disabledPlugins

theorem Allotted.of_nextPlugin (hnext : after.nextPlugin = host.nextPlugin)
    (hallotted : host.Allotted other) : after.Allotted other := by
  unfold Allotted
  rw [hnext]
  exact hallotted

theorem Change.of_modify {restores : Bool} {write : PluginRecord → PluginRecord}
    (hplugins : after.plugins = (host.modify handle write).plugins)
    (hwrite : ∀ plugin, (write plugin).handle = plugin.handle)
    (hrest : SameRest host after)
    (hmove : ∀ old, host.pluginByHandle handle = some old → Move host restores old (write old))
    (hcommands : ∀ other, other ≠ handle ∨ restores = false →
      after.commandsEnabled other = true → host.commandsEnabled other = true)
    (hdispatch : ∀ other, other ≠ handle ∨ restores = false →
      ∀ service, after.dispatch service other = true → host.dispatch service other = true) :
    Change host after handle restores where
  numbered hnumbered := by
    have hhandles : after.plugins.map (·.handle) = host.plugins.map (·.handle) := by
      rw [hplugins]
      unfold modify
      rw [List.map_map]
      refine List.map_congr_left fun plugin _ => ?_
      by_cases hsame : plugin.handle = handle
      · simp [hsame, hwrite]
      · simp [hsame]
    refine ⟨hhandles ▸ hnumbered.unique, fun plugin hmem => ?_, hrest.1 ▸ hnumbered.bound,
      hrest.2 ▸ hnumbered.disabled⟩
    have hold : plugin.handle ∈ host.plugins.map (·.handle) :=
      hhandles ▸ List.mem_map_of_mem hmem
    obtain ⟨old, hmem, hsame⟩ := List.mem_map.1 hold
    exact hsame ▸ (hnumbered.allotted old hmem).of_nextPlugin hrest.1
  allotted other hallotted := hallotted.of_nextPlugin hrest.1
  others other hne := by
    rw [pluginByHandle_congr hplugins, pluginByHandle_modify hwrite, if_neg hne]
  moved now hnow := by
    rw [pluginByHandle_congr hplugins, pluginByHandle_modify hwrite, if_pos rfl] at hnow
    obtain ⟨old, hold, rfl⟩ := Option.map_eq_some_iff.1 hnow
    exact .inl ⟨old, hold, hmove old hold⟩
  gone old hold hgone := by
    rw [pluginByHandle_congr hplugins, pluginByHandle_modify hwrite, if_pos rfl, hold] at hgone
    cases hgone
  commands := hcommands
  dispatch := hdispatch

theorem Change.of_same {restores : Bool} (hplugins : after.plugins = host.plugins)
    (hrest : SameRest host after)
    (hcommands : ∀ other, other ≠ handle ∨ restores = false →
      after.commandsEnabled other = true → host.commandsEnabled other = true)
    (hdispatch : ∀ other, other ≠ handle ∨ restores = false →
      ∀ service, after.dispatch service other = true → host.dispatch service other = true) :
    Change host after handle restores := by
  have hsame : after.plugins = (host.modify handle id).plugins := by
    rw [hplugins]
    unfold modify
    simp
  refine .of_modify hsame (fun _ => rfl) hrest (fun old _ => ?_) hcommands hdispatch
  exact ⟨.kept ⟨rfl, rfl, rfl, rfl, rfl, rfl⟩ rfl rfl, .inl rfl, fun _ haccepting => haccepting⟩

theorem Change.refl (host : Host) (handle : KeelPluginHandle) :
    Change host host handle false :=
  .of_same rfl ⟨rfl, rfl⟩ (fun _ _ hon => hon) fun _ _ _ hon => hon

theorem Change.of_remove (hplugins : after.plugins = (host.removePluginRecord handle).plugins)
    (hnext : after.nextPlugin = host.nextPlugin)
    (hdisabled : (∀ plugin ∈ host.disabledPlugins, plugin.state = .disabled) →
      ∀ plugin ∈ after.disabledPlugins, plugin.state = .disabled)
    (hserves : ∀ old, host.pluginByHandle handle = some old → ¬old.Serves)
    (hcommands : ∀ other, after.commandsEnabled other = true → host.commandsEnabled other = true)
    (hdispatch : ∀ other service,
      after.dispatch service other = true → host.dispatch service other = true) :
    Change host after handle false where
  numbered hnumbered := by
    change after.plugins = host.plugins.filter (·.handle ≠ handle) at hplugins
    refine ⟨?_, fun plugin hmem => ?_, hnext ▸ hnumbered.bound, hdisabled hnumbered.disabled⟩
    · rw [hplugins]
      exact hnumbered.unique.sublist (List.filter_sublist.map _)
    · rw [hplugins] at hmem
      exact (hnumbered.allotted plugin (List.mem_of_mem_filter hmem)).of_nextPlugin hnext
  allotted other hallotted := hallotted.of_nextPlugin hnext
  others other hne := by
    rw [pluginByHandle_congr hplugins]
    unfold pluginByHandle removePluginRecord
    rw [List.find?_filter]
    congr 1
    funext plugin
    by_cases hsame : plugin.handle = other
    · simp [hsame, hne]
    · simp [hsame]
  moved now hnow := by
    rw [pluginByHandle_congr hplugins] at hnow
    have hmem := mem_of_pluginByHandle hnow
    have hne : now.handle ≠ handle := by
      simpa using (List.mem_filter.1 hmem).2
    exact absurd (pluginByHandle_handle hnow) hne
  gone old hold _ := hserves old hold
  commands other _ := hcommands other
  dispatch other _ service := hdispatch other service

theorem not_allotted_nextPlugin : ¬host.Allotted host.nextPlugin := by
  rintro ⟨hne, hzero | hlt⟩
  · exact hne hzero
  · exact absurd hlt (Nat.lt_irrefl _)

theorem beginDiscover_change {filename : Text} {image : Image} {fresh : KeelPluginHandle}
    (hnumbered : Numbered host) (hbegun : host.beginDiscover filename image = (after, some fresh)) :
    Change host after fresh false ∧ ¬host.Allotted fresh ∧ after.Allotted fresh ∧
      after.pluginByHandle fresh = some (discovered fresh filename image) ∧
      Stays host after := by
  unfold beginDiscover at hbegun
  by_cases hzero : host.nextPlugin = 0
  · rw [if_pos hzero] at hbegun
    cases hbegun
  rw [if_neg hzero] at hbegun
  cases hbegun
  have hfresh : ¬host.Allotted host.nextPlugin := not_allotted_nextPlugin
  have hhandle : (discovered host.nextPlugin filename image).handle = host.nextPlugin := by
    cases image <;> rfl
  have hnext : ∀ other, other ≠ 0 → (host.nextPlugin = 0 ∨ other ≤ host.nextPlugin) →
      (host.nextPlugin + 1) % 2 ^ 64 = 0 ∨ other < (host.nextPlugin + 1) % 2 ^ 64 := by
    intro other _ hle
    have hbound := hnumbered.bound
    by_cases hlast : host.nextPlugin + 1 = 2 ^ 64
    · left
      rw [hlast, Nat.mod_self]
    · right
      rw [Nat.mod_eq_of_lt (by omega)]
      omega
  have hallotted : ∀ other, host.Allotted other → other ≠ 0 ∧
      ((host.nextPlugin + 1) % 2 ^ 64 = 0 ∨ other < (host.nextPlugin + 1) % 2 ^ 64) := by
    intro other ⟨hne, hlt⟩
    exact ⟨hne, hnext other hne (hlt.imp id Nat.le_of_lt)⟩
  have hnone : host.pluginByHandle host.nextPlugin = none := by
    cases hfound : host.pluginByHandle host.nextPlugin with
    | none => rfl
    | some plugin =>
      have hmem := hnumbered.allotted plugin (mem_of_pluginByHandle hfound)
      rw [pluginByHandle_handle hfound] at hmem
      exact absurd hmem hfresh
  have hfound : Option.or (host.pluginByHandle host.nextPlugin)
      ([discovered host.nextPlugin filename image].find? fun plugin =>
        plugin.handle == host.nextPlugin) = some (discovered host.nextPlugin filename image) := by
    rw [hnone]
    simp [hhandle]
  have hafter : ∀ other, Host.pluginByHandle
      { host with
        plugins := host.plugins ++ [discovered host.nextPlugin filename image]
        nextPlugin := (host.nextPlugin + 1) % 2 ^ 64 } other =
      Option.or (host.pluginByHandle other)
        ([discovered host.nextPlugin filename image].find? fun plugin =>
          plugin.handle == other) := by
    intro other
    unfold pluginByHandle
    exact List.find?_append
  refine ⟨⟨fun _ => ⟨?_, ?_, Nat.mod_lt _ (by decide), hnumbered.disabled⟩, hallotted, ?_, ?_, ?_,
    fun _ _ hon => hon, fun _ _ _ hon => hon⟩, hfresh,
      ⟨hzero, hnext _ hzero (.inr (Nat.le_refl _))⟩,
    (hafter _).trans hfound, fun other hgone => (Option.or_eq_none_iff.1
      ((hafter other).symm.trans hgone)).1⟩
  · rw [List.map_append, List.nodup_append]
    refine ⟨hnumbered.unique, by simp, ?_⟩
    intro first hfirst second hsecond hsame
    obtain ⟨plugin, hmem, rfl⟩ := List.mem_map.1 hfirst
    simp only [List.map_cons, List.map_nil, List.mem_singleton] at hsecond
    rw [hsecond, hhandle] at hsame
    exact hfresh (hsame ▸ hnumbered.allotted plugin hmem)
  · intro plugin hmem
    rcases List.mem_append.1 hmem with hmem | hmem
    · exact hallotted _ (hnumbered.allotted plugin hmem)
    · rw [List.mem_singleton.1 hmem, hhandle]
      exact ⟨hzero, hnext _ hzero (.inr (Nat.le_refl _))⟩
  · intro other hne
    rw [hafter other]
    have hnot : ([discovered host.nextPlugin filename image].find? fun plugin =>
        plugin.handle == other) = none := by
      simp [hhandle, Ne.symm hne]
    rw [hnot]
    simp
  · intro now hnow
    rw [hafter, hfound] at hnow
    exact .inr ⟨hfresh, filename, image, (Option.some.inj hnow).symm⟩
  · intro old hold
    rw [hnone] at hold
    cases hold

end Host
end KeelS2.Plugins
