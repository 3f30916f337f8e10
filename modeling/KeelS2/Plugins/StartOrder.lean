import KeelS2.Plugins.Starting
import Mathlib.Order.FixedPoints
import Mathlib.Order.CompletePartialOrder
import Mathlib.Data.Finset.Card

/-!
# What StartDiscoveredPlugins loads

The plugins that end up loaded are the least fixed point of `loadStep`: the load callback agrees
and every dependency is loaded at a version that satisfies it. `Progress` is what a turn of the
loop keeps: who runs is in the fixed point, who was refused has a reason that stays, and the load
callbacks were called one after the other, each behind those of its dependencies.
-/

namespace KeelS2.Plugins.Host

/-- The host before the first pass: handles are not used twice, nobody is in a transition, and
who can be started has a load callback. -/
structure Table (start : Host) : Prop where
  unique : start.handles.Nodup
  idle : ∀ plugin ∈ start.plugins, plugin.transitioning = false
  loads : ∀ plugin ∈ start.plugins, plugin.state = .loading → plugin.load = true

section Fixpoint

variable (answers : KeelPluginHandle → Call → Answer) (discovered : List KeelPluginHandle)
variable (start : Host)

/-- The plugin runs already; or it was discovered, its load callback agrees, and each dependency
stands for another plugin, of a version that satisfies it, that is among `loaded`. -/
def Loads (loaded : Set KeelPluginHandle) (handle : KeelPluginHandle) : Prop :=
  ∃ plugin, start.pluginByHandle handle = some plugin ∧
    (plugin.state = .loaded ∨
      plugin.state = .loading ∧ handle ∈ discovered ∧ (answers handle .load).agreed = true ∧
        ∀ dependency ∈ plugin.dependencies, ∃ target,
          dependencyTarget start.plugins dependency.name = some target ∧
            target.handle ≠ handle ∧ dependencyVersionMatches target.version dependency = true ∧
            target.handle ∈ loaded)

def loadStep : Set KeelPluginHandle →o Set KeelPluginHandle where
  toFun loaded := {handle | Loads answers discovered start loaded handle}
  monotone' := by
    intro loaded more hsub handle ⟨plugin, hplugin, hloads⟩
    refine ⟨plugin, hplugin, hloads.imp id fun ⟨hstate, hmem, hagreed, htargets⟩ => ?_⟩
    refine ⟨hstate, hmem, hagreed, fun dependency hdependency => ?_⟩
    obtain ⟨target, htarget, hne, hversion, hin⟩ := htargets dependency hdependency
    exact ⟨target, htarget, hne, hversion, hsub hin⟩

end Fixpoint

/-- There is a reason for which the plugin will never run: its load callback does not agree, or a
dependency cannot be satisfied. -/
def Hopeless (answers : KeelPluginHandle → Call → Answer) (start host : Host)
    (plugin : PluginRecord) : Prop :=
  (answers plugin.handle .load).agreed = false ∨ ∃ dependency ∈ plugin.dependencies,
    ∀ target, dependencyTarget start.plugins dependency.name = some target →
      target.handle = plugin.handle ∨
        dependencyVersionMatches target.version dependency = false ∨
        host.stateOf target.handle ≠ some .loading ∧ host.stateOf target.handle ≠ some .loaded

structure Progress (answers : KeelPluginHandle → Call → Answer)
    (discovered : List KeelPluginHandle) (start host : Host) (called : List KeelPluginHandle) :
    Prop where
  manifests : host.manifests = start.manifests
  idle : ∀ plugin ∈ host.plugins, plugin.transitioning = false
  loads : ∀ plugin ∈ host.plugins, plugin.state = .loading → plugin.load = true
  /-- Only who waited to be started changes its state. -/
  stood : ∀ handle, start.stateOf handle ≠ some .loading →
    host.stateOf handle = start.stateOf handle
  sound : ∀ handle, host.stateOf handle = some .loaded →
    handle ∈ (loadStep answers discovered start).lfp
  refused : ∀ plugin, start.pluginByHandle plugin.handle = some plugin →
    plugin.state = .loading → host.stateOf plugin.handle ≠ some .loading →
      host.stateOf plugin.handle ≠ some .loaded → Hopeless answers start host plugin
  ran : ∀ handle, host.stateOf handle = some .loaded → start.stateOf handle = some .loaded ∨
    handle ∈ called ∧ (answers handle .load).agreed = true
  past : ∀ handle ∈ called, host.stateOf handle ≠ some .loading
  nodup : called.Nodup
  /-- Before a load callback those of the dependencies have succeeded. -/
  ordered : ∀ before handle after, called = before ++ handle :: after →
    ∀ plugin, start.pluginByHandle handle = some plugin →
      ∀ dependency ∈ plugin.dependencies, ∃ target,
        dependencyTarget start.plugins dependency.name = some target ∧
          (start.stateOf target.handle = some .loaded ∨
            target.handle ∈ before ∧ (answers target.handle .load).agreed = true)

variable {answers : KeelPluginHandle → Call → Answer} {gameThread : Bool}
variable {discovered : List KeelPluginHandle} {start host after : Host}
variable {called : List KeelPluginHandle} {handle other : KeelPluginHandle}
variable {plugin target : PluginRecord} {dependency : PluginDependencyRecord}

/-! ## Looking up -/

theorem handles_of_manifests (hmanifests : host.manifests = start.manifests) :
    host.handles = start.handles := by
  have hmap := congrArg (List.map Manifest.handle) hmanifests
  unfold manifests at hmap
  rwa [List.map_map, List.map_map] at hmap

theorem stateOf_found (hplugin : host.pluginByHandle handle = some plugin) :
    host.stateOf handle = some plugin.state := by
  unfold stateOf
  rw [hplugin]
  rfl

section

variable (hprogress : Progress answers discovered start host called)

include hprogress

theorem Progress.unique (htable : Table start) : host.handles.Nodup :=
  handles_of_manifests hprogress.manifests ▸ htable.unique

theorem Progress.origin (htable : Table start) (hplugin : host.pluginByHandle handle = some plugin) :
    ∃ old, start.pluginByHandle handle = some old ∧ plugin.manifest = old.manifest := by
  have hmem : plugin.manifest ∈ start.manifests := by
    rw [← hprogress.manifests]
    exact List.mem_map_of_mem (mem_of_pluginByHandle hplugin)
  obtain ⟨old, hold, hsame⟩ := List.mem_map.1 hmem
  have hhandle : old.handle = handle :=
    (congrArg Manifest.handle hsame).trans (pluginByHandle_handle hplugin)
  refine ⟨old, ?_, hsame.symm⟩
  rw [← hhandle]
  exact find_mem_of_unique htable.unique hold

theorem Progress.targets (htable : Table start) {name : Text}
    (htarget : dependencyTarget host.plugins name = some target) : ∃ old,
      dependencyTarget start.plugins name = some old ∧ old.manifest = target.manifest ∧
        host.stateOf old.handle = some target.state := by
  obtain ⟨old, hold, hsame⟩ := target_of_manifests hprogress.manifests.symm htarget
  refine ⟨old, hold, hsame, ?_⟩
  have hhandle : old.handle = target.handle := congrArg Manifest.handle hsame
  rw [hhandle]
  refine stateOf_found (find_mem_of_unique ?_ (dependencyTarget_some htarget).1)
  exact hprogress.unique htable

end

/-! ## One plugin gets out of waiting -/

/-- A plugin that waited does so no more; the others are as they were. -/
structure Leaves (host after : Host) (handle : KeelPluginHandle) : Prop where
  writes : Writes handle host after
  before : host.stateOf handle = some .loading
  now : after.stateOf handle = some .loaded ∨ after.stateOf handle = some .error

section

variable (hleaves : Leaves host after handle)

include hleaves

theorem Leaves.other_state (hne : other ≠ handle) : after.stateOf other = host.stateOf other := by
  unfold stateOf
  rw [hleaves.writes.others hne]

theorem Leaves.stays (hstate : host.stateOf other ≠ some .loading) :
    after.stateOf other = host.stateOf other := by
  refine hleaves.other_state fun hsame => hstate ?_
  rw [hsame]
  exact hleaves.before

theorem Leaves.waited (hstate : after.stateOf other = some .loading) :
    host.stateOf other = some .loading := by
  by_cases hsame : other = handle
  · rw [hsame]
    exact hleaves.before
  · rw [← hleaves.other_state hsame]
    exact hstate

theorem Leaves.gone : after.stateOf handle ≠ some .loading := by
  rcases hleaves.now with h | h <;> simp [h]

end

theorem Hopeless.stays (hhopeless : Hopeless answers start host plugin)
    (hleaves : Leaves host after handle) : Hopeless answers start after plugin := by
  refine hhopeless.imp id fun ⟨dependency, hmem, hnone⟩ =>
    ⟨dependency, hmem, fun target htarget => ?_⟩
  refine (hnone target htarget).imp id (Or.imp id fun ⟨hloading, hloaded⟩ => ?_)
  rw [hleaves.stays hloading]
  exact ⟨hloading, hloaded⟩

theorem Progress.leaves (hprogress : Progress answers discovered start host called)
    (htable : Table start) (hleaves : Leaves host after handle)
    {called' : List KeelPluginHandle}
    (hcalled : called' = called ∨ called' = called ++ [handle] ∧
      ∀ plugin, start.pluginByHandle handle = some plugin →
        ∀ dependency ∈ plugin.dependencies, ∃ target,
          dependencyTarget start.plugins dependency.name = some target ∧
            host.stateOf target.handle = some .loaded)
    (hloaded : after.stateOf handle = some .loaded →
      handle ∈ (loadStep answers discovered start).lfp ∧ handle ∈ called' ∧
        (answers handle .load).agreed = true)
    (hrefused : after.stateOf handle ≠ some .loaded →
      ∀ plugin, start.pluginByHandle handle = some plugin →
        Hopeless answers start after plugin) :
    Progress answers discovered start after called' := by
  have hfound : ∀ record ∈ after.plugins, ∃ old ∈ host.plugins,
      record.transitioning = old.transitioning ∧
        (record.state = .loading → old = record) := by
    intro record hmem
    have hunique : after.handles.Nodup := by
      rw [handles_of_manifests hleaves.writes.manifests]
      exact hprogress.unique htable
    have hrecord := find_mem_of_unique hunique hmem
    by_cases hsame : record.handle = handle
    · have hsome : (host.pluginByHandle handle).isSome = true := by
        have hbefore := congrArg Option.isSome hleaves.before
        unfold stateOf at hbefore
        rwa [Option.isSome_map] at hbefore
      obtain ⟨old, hold⟩ := Option.isSome_iff_exists.1 hsome
      obtain ⟨now, hnow, _, htransition⟩ := hleaves.writes.found hold
      rw [hsame, hnow] at hrecord
      cases hrecord
      refine ⟨old, mem_of_pluginByHandle hold, htransition, fun hloading => ?_⟩
      exact absurd ((stateOf_found hnow).trans (congrArg some hloading)) hleaves.gone
    · rw [hleaves.writes.others hsame] at hrecord
      exact ⟨record, mem_of_pluginByHandle hrecord, rfl, fun _ => rfl⟩
  have hmore : ∀ handle ∈ called, handle ∈ called' := by
    rcases hcalled with rfl | ⟨rfl, _⟩
    · exact fun _ hmem => hmem
    · exact fun _ hmem => List.mem_append_left _ hmem
  refine ⟨hleaves.writes.manifests.trans hprogress.manifests, fun record hmem => ?_,
    fun record hmem hstate => ?_, fun other hstate => ?_, fun other hstate => ?_,
    fun record hrecord hstate hwaits hruns => ?_, fun other hstate => ?_, fun other hmem => ?_, ?_,
    ?_⟩
  · obtain ⟨old, hold, htransition, _⟩ := hfound record hmem
    exact htransition.trans (hprogress.idle old hold)
  · obtain ⟨old, hold, _, hsame⟩ := hfound record hmem
    have heq := hsame hstate
    subst heq
    exact hprogress.loads old hold hstate
  · have hbefore := hprogress.stood other hstate
    rw [← hbefore] at hstate
    rw [hleaves.stays hstate, hbefore]
  · by_cases hsame : other = handle
    · rw [hsame] at hstate ⊢
      exact (hloaded hstate).1
    · rw [hleaves.other_state hsame] at hstate
      exact hprogress.sound other hstate
  · by_cases hsame : record.handle = handle
    · rw [hsame] at hrecord hruns
      exact hrefused hruns record hrecord
    · rw [hleaves.other_state hsame] at hwaits hruns
      exact (hprogress.refused record hrecord hstate hwaits hruns).stays hleaves
  · by_cases hsame : other = handle
    · rw [hsame] at hstate ⊢
      exact .inr (hloaded hstate).2
    · rw [hleaves.other_state hsame] at hstate
      exact (hprogress.ran other hstate).imp id fun ⟨hmem, hagreed⟩ => ⟨hmore other hmem, hagreed⟩
  · by_cases hsame : other = handle
    · rw [hsame]
      exact hleaves.gone
    · rw [hleaves.other_state hsame]
      rcases hcalled with rfl | ⟨rfl, _⟩
      · exact hprogress.past other hmem
      · rcases List.mem_append.1 hmem with hmem | hmem
        · exact hprogress.past other hmem
        · exact absurd (List.mem_singleton.1 hmem) hsame
  · rcases hcalled with rfl | ⟨rfl, _⟩
    · exact hprogress.nodup
    · refine List.nodup_append.2 ⟨hprogress.nodup, List.nodup_singleton _, ?_⟩
      intro first hfirst second hsecond hsame
      rw [List.mem_singleton.1 hsecond] at hsame
      exact hprogress.past first hfirst (hsame ▸ hleaves.before)
  · rcases hcalled with rfl | ⟨rfl, htargets⟩
    · exact hprogress.ordered
    · intro before other rest hsplit record hrecord dependency hdependency
      rcases List.append_eq_append_iff.1 hsplit with ⟨more, hbefore, hrest⟩ | ⟨more, hcall, hrest⟩
      · -- the last call is the one just made
        cases more with
        | nil =>
          rw [List.append_nil] at hbefore
          rw [List.nil_append, List.cons.injEq] at hrest
          rw [← hrest.1] at hrecord
          obtain ⟨target, htarget, hstate⟩ := htargets record hrecord dependency hdependency
          refine ⟨target, htarget, (hprogress.ran target.handle hstate).imp id fun hran => ?_⟩
          rw [hbefore]
          exact hran
        | cons first more =>
          rw [List.cons_append, List.cons.injEq] at hrest
          exact absurd hrest.2 (by simp)
      · cases more with
        | nil =>
          rw [List.append_nil] at hcall
          rw [List.nil_append, List.cons.injEq] at hrest
          rw [hrest.1] at hrecord
          obtain ⟨target, htarget, hstate⟩ := htargets record hrecord dependency hdependency
          refine ⟨target, htarget, (hprogress.ran target.handle hstate).imp id fun hran => ?_⟩
          rw [← hcall]
          exact hran
        | cons first more =>
          rw [List.cons_append, List.cons.injEq] at hrest
          obtain ⟨rfl, rfl⟩ := hrest
          exact hprogress.ordered before other more hcall record hrecord dependency hdependency

/-! ## A turn of the loop -/

theorem Progress.began (hprogress : Progress answers discovered start host called)
    (hstate : host.stateOf handle = some .loading) : start.stateOf handle = some .loading := by
  by_contra hnot
  rw [hprogress.stood handle hnot] at hstate
  exact hnot hstate

theorem Progress.reject (hprogress : Progress answers discovered start host called)
    (htable : Table start) (hplugin : host.pluginByHandle handle = some plugin)
    (hstate : plugin.state = .loading) {diagnostic : Diagnostic}
    (hreadiness : startReadiness host.plugins plugin = .rejected diagnostic) :
    Leaves host (host.rejectUnstartedPlugin handle diagnostic) handle ∧
      Progress answers discovered start (host.rejectUnstartedPlugin handle diagnostic) called := by
  have hsome : (host.pluginByHandle handle).isSome = true := by rw [hplugin]; rfl
  have herror : (host.rejectUnstartedPlugin handle diagnostic).stateOf handle = some .error :=
    rejectUnstarted_state diagnostic hsome
  have hleaves : Leaves host (host.rejectUnstartedPlugin handle diagnostic) handle :=
    ⟨rejectUnstarted_writes host handle diagnostic,
      (stateOf_found hplugin).trans (congrArg some hstate), .inr herror⟩
  refine ⟨hleaves, hprogress.leaves htable hleaves (.inl rfl) (fun hloaded => ?_)
    fun _ old hold => ?_⟩
  · rw [herror] at hloaded
    cases hloaded
  · obtain ⟨origin, horigin, hmanifest⟩ := hprogress.origin htable hplugin
    rw [hold] at horigin
    cases horigin
    obtain ⟨dependency, hmem, hnone⟩ := startReadiness_rejected hreadiness
    have hdependencies : plugin.dependencies = old.dependencies :=
      congrArg Manifest.dependencies hmanifest
    refine Hopeless.stays (.inr ⟨dependency, hdependencies ▸ hmem, fun first hfirst => ?_⟩) hleaves
    obtain ⟨now, hnow, hsame⟩ := target_of_manifests hprogress.manifests hfirst
    obtain ⟨again, hagain, _, hcurrent⟩ := hprogress.targets htable hnow
    rw [hfirst] at hagain
    cases hagain
    have hhandle : now.handle = first.handle := congrArg Manifest.handle hsame
    have hversion : now.version = first.version := congrArg Manifest.version hsame
    have hself : plugin.handle = old.handle := congrArg Manifest.handle hmanifest
    rw [← hhandle, ← hself, ← hversion]
    refine (hnone now hnow).imp id (Or.imp id fun ⟨hloading, hloaded⟩ => ?_)
    rw [hhandle, hcurrent]
    exact ⟨by simpa using hloading, by simpa using hloaded⟩

variable (gameThread) in
theorem Progress.started (hprogress : Progress answers discovered start host called)
    (htable : Table start) (hmem : handle ∈ discovered)
    (hplugin : host.pluginByHandle handle = some plugin) (hstate : plugin.state = .loading)
    (hreadiness : startReadiness host.plugins plugin = .ready) :
    Leaves host (host.startPlugin (answers handle) gameThread handle true).1 handle ∧
      Progress answers discovered start
        (host.startPlugin (answers handle) gameThread handle true).1 (called ++ [handle]) := by
  have hload := hprogress.loads plugin (mem_of_pluginByHandle hplugin) hstate
  have hnow : (host.startPlugin (answers handle) gameThread handle true).1.stateOf handle = _ :=
    startPlugin_state hplugin hload
  have hloading : host.stateOf handle = some .loading :=
    (stateOf_found hplugin).trans (congrArg some hstate)
  generalize hafter : (host.startPlugin (answers handle) gameThread handle true).1 = after at hnow
  have hwrites : Writes handle host after := by
    rw [← hafter]
    exact startPlugin_writes host handle true
  have hleaves : Leaves host after handle := by
    refine ⟨hwrites, hloading, ?_⟩
    rw [hnow]
    split
    · exact .inl rfl
    · exact .inr rfl
  obtain ⟨old, hold, hmanifest⟩ := hprogress.origin htable hplugin
  have hdependencies : plugin.dependencies = old.dependencies :=
    congrArg Manifest.dependencies hmanifest
  have hhandle := pluginByHandle_handle hplugin
  have hready := startReadiness_ready hreadiness
  -- every dependency stood for a loaded plugin at the start of this turn
  have htargets : ∀ dependency ∈ old.dependencies, ∃ target,
      dependencyTarget start.plugins dependency.name = some target ∧ target.handle ≠ handle ∧
        dependencyVersionMatches target.version dependency = true ∧
        host.stateOf target.handle = some .loaded := by
    intro dependency hdependency
    obtain ⟨now, htarget, hself, hversion, hloaded⟩ :=
      hready dependency (hdependencies ▸ hdependency)
    obtain ⟨first, hfirst, hsame, hcurrent⟩ := hprogress.targets htable htarget
    have hsame' : first.handle = now.handle := congrArg Manifest.handle hsame
    have hversion' : first.version = now.version := congrArg Manifest.version hsame
    refine ⟨first, hfirst, ?_, ?_, hcurrent.trans (congrArg some hloaded)⟩
    · rw [hsame', ← hhandle]
      exact hself
    · rw [hversion']
      exact hversion
  refine ⟨hleaves, hprogress.leaves htable hleaves (.inr ⟨rfl, fun record hrecord dependency
    hdependency => ?_⟩) (fun hloaded => ?_) fun hnot record hrecord => ?_⟩
  · rw [hold] at hrecord
    cases hrecord
    obtain ⟨target, htarget, _, _, hloaded⟩ := htargets dependency hdependency
    exact ⟨target, htarget, hloaded⟩
  · rw [hnow] at hloaded
    split at hloaded
    · next hagreed =>
      refine ⟨?_, List.mem_append_right _ (List.mem_singleton_self _), hagreed.1⟩
      rw [← OrderHom.map_lfp]
      refine ⟨old, hold, .inr ⟨?_, hmem, hagreed.1, fun dependency hdependency => ?_⟩⟩
      · have hbegan := hprogress.began hloading
        rw [stateOf_found hold] at hbegan
        exact Option.some.inj hbegan
      · obtain ⟨target, htarget, hself, hversion, hruns⟩ := htargets dependency hdependency
        exact ⟨target, htarget, hself, hversion, hprogress.sound target.handle hruns⟩
    · cases hloaded
  · left
    by_contra hagreed
    rw [Bool.not_eq_false, pluginByHandle_handle hrecord] at hagreed
    have hrun : dependenciesReady host.plugins plugin = none := by
      refine dependenciesReady_eq_none.2 fun dependency hdependency => ?_
      obtain ⟨now, htarget, hself, hversion, hloaded⟩ := hready dependency hdependency
      exact ⟨now, htarget, hself, hversion, hloaded,
        hprogress.idle now (dependencyTarget_some htarget).1⟩
    exact hnot (hnow.trans (congrArg some (if_pos ⟨hagreed, hrun⟩)))

variable (gameThread) in
/-- One turn: the plugin does not wait to be started, or still waits for another, or gets out of
waiting. -/
theorem visit_cases (pass : Pass)
    (hprogress : Progress answers discovered start pass.host pass.called) (htable : Table start)
    (hmem : handle ∈ discovered) :
    visit answers gameThread pass handle = pass ∧
        pass.host.stateOf handle ≠ some .loading ∨
      visit answers gameThread pass handle = { pass with remaining := true } ∧
        (∃ plugin, pass.host.pluginByHandle handle = some plugin ∧
          startReadiness pass.host.plugins plugin = .waiting) ∨
      Leaves pass.host (visit answers gameThread pass handle).host handle ∧
        Progress answers discovered start (visit answers gameThread pass handle).host
          (visit answers gameThread pass handle).called ∧
        (visit answers gameThread pass handle).remaining = true ∧
        (visit answers gameThread pass handle).progress = true := by
  cases hfilter : (pass.host.pluginByHandle handle).filter (·.state = .loading) with
  | none =>
    left
    simp only [visit, hfilter, true_and]
    intro hloading
    obtain ⟨plugin, hplugin, hstate⟩ := Option.map_eq_some_iff.1 hloading
    rw [hplugin] at hfilter
    simp [Option.filter, hstate] at hfilter
  | some plugin =>
    obtain ⟨hplugin, hstate⟩ := Option.filter_eq_some_iff.1 hfilter
    have hloading : plugin.state = .loading := by simpa using hstate
    right
    cases hreadiness : startReadiness pass.host.plugins plugin with
    | rejected diagnostic =>
      right
      simp only [visit, hfilter, hreadiness]
      obtain ⟨hleaves, hafter⟩ := hprogress.reject htable hplugin hloading hreadiness
      exact ⟨hleaves, hafter, trivial, trivial⟩
    | waiting =>
      left
      simp only [visit, hfilter, hreadiness, true_and]
      exact ⟨plugin, hplugin, hreadiness⟩
    | ready =>
      right
      simp only [visit, hfilter, hreadiness]
      obtain ⟨hleaves, hafter⟩ := hprogress.started gameThread htable hmem hplugin hloading
        hreadiness
      exact ⟨hleaves, hafter, trivial, trivial⟩

/-! ## A pass -/

/-- Who still waits to be started. -/
def pending (start host : Host) : Finset KeelPluginHandle :=
  start.handles.toFinset.filter fun handle => host.stateOf handle = some .loading

theorem mem_handles (hstate : start.stateOf handle = some plugin.state) :
    handle ∈ start.handles := by
  obtain ⟨found, hfound, _⟩ := Option.map_eq_some_iff.1 hstate
  rw [← pluginByHandle_handle hfound]
  exact List.mem_map_of_mem (mem_of_pluginByHandle hfound)

theorem Leaves.pending (hleaves : Leaves host after handle)
    (hprogress : Progress answers discovered start host called) :
    start.pending after ⊂ start.pending host := by
  have hbegan := hprogress.began hleaves.before
  obtain ⟨found, hfound, _⟩ := Option.map_eq_some_iff.1 hbegan
  refine Finset.ssubset_iff_subset_ne.2 ⟨fun other hmem => ?_, fun hsame => ?_⟩
  · simp only [Host.pending, Finset.mem_filter] at hmem ⊢
    exact ⟨hmem.1, hleaves.waited hmem.2⟩
  · have hmem : handle ∈ start.pending host := by
      simp only [Host.pending, Finset.mem_filter, List.mem_toFinset]
      exact ⟨mem_handles (stateOf_found hfound), hleaves.before⟩
    rw [← hsame] at hmem
    simp only [Host.pending, Finset.mem_filter] at hmem
    exact hleaves.gone hmem.2

variable (gameThread) in
theorem fold_progress (htable : Table start) {rest : List KeelPluginHandle}
    (hrest : ∀ handle ∈ rest, handle ∈ discovered) (pass : Pass)
    (hprogress : Progress answers discovered start pass.host pass.called) :
    Progress answers discovered start (rest.foldl (visit answers gameThread) pass).host
        (rest.foldl (visit answers gameThread) pass).called ∧
      start.pending (rest.foldl (visit answers gameThread) pass).host ⊆
        start.pending pass.host ∧
      ((rest.foldl (visit answers gameThread) pass).progress = true → pass.progress = true ∨
        start.pending (rest.foldl (visit answers gameThread) pass).host ⊂
          start.pending pass.host) := by
  induction rest generalizing pass with
  | nil => exact ⟨hprogress, Finset.Subset.refl _, .inl⟩
  | cons handle rest ih =>
    have hlater : ∀ handle ∈ rest, handle ∈ discovered := fun other hmem =>
      hrest other (List.mem_cons_of_mem handle hmem)
    rw [List.foldl_cons]
    rcases visit_cases gameThread pass hprogress htable
      (hrest handle List.mem_cons_self) with ⟨hsame, _⟩ | ⟨hwaits, _⟩ | ⟨hleaves, hafter, _, _⟩
    · rw [hsame]
      exact ih hlater pass hprogress
    · rw [hwaits]
      exact ih hlater { pass with remaining := true } hprogress
    · obtain ⟨hend, hsub, _⟩ := ih hlater _ hafter
      have hless := hleaves.pending hprogress
      exact ⟨hend, hsub.trans hless.1, fun _ => .inr (hsub.trans_ssubset hless)⟩

variable (gameThread) in
theorem fold_settled (htable : Table start) {rest : List KeelPluginHandle}
    (hrest : ∀ handle ∈ rest, handle ∈ discovered) (pass : Pass)
    (hprogress : Progress answers discovered start pass.host pass.called)
    (hremaining : (rest.foldl (visit answers gameThread) pass).remaining = false) :
    rest.foldl (visit answers gameThread) pass = pass ∧ pass.remaining = false ∧
      ∀ handle ∈ rest, pass.host.stateOf handle ≠ some .loading := by
  induction rest generalizing pass with
  | nil => exact ⟨rfl, hremaining, by simp⟩
  | cons handle rest ih =>
    have hlater : ∀ handle ∈ rest, handle ∈ discovered := fun other hmem =>
      hrest other (List.mem_cons_of_mem handle hmem)
    rw [List.foldl_cons] at hremaining ⊢
    rcases visit_cases gameThread pass hprogress htable
      (hrest handle List.mem_cons_self) with ⟨hsame, hidle⟩ | ⟨hwaits, _⟩ | ⟨_, hafter, hset, _⟩
    · rw [hsame] at hremaining ⊢
      obtain ⟨hend, hflag, hall⟩ := ih hlater pass hprogress hremaining
      refine ⟨hend, hflag, fun other hmem => ?_⟩
      rcases List.mem_cons.1 hmem with rfl | hmem
      · exact hidle
      · exact hall other hmem
    · rw [hwaits] at hremaining
      obtain ⟨_, hflag, _⟩ := ih hlater { pass with remaining := true } hprogress hremaining
      cases hflag
    · obtain ⟨_, hflag, _⟩ := ih hlater _ hafter hremaining
      rw [hset] at hflag
      cases hflag

variable (gameThread) in
/-- A pass that gets nowhere leaves only plugins that wait for each other. -/
theorem fold_stuck (htable : Table start) {rest : List KeelPluginHandle}
    (hrest : ∀ handle ∈ rest, handle ∈ discovered) (pass : Pass)
    (hprogress : Progress answers discovered start pass.host pass.called)
    (hnone : (rest.foldl (visit answers gameThread) pass).progress = false) :
    (rest.foldl (visit answers gameThread) pass).host = pass.host ∧
      (rest.foldl (visit answers gameThread) pass).called = pass.called ∧
      pass.progress = false ∧
      ∀ handle ∈ rest, pass.host.stateOf handle = some .loading → ∃ plugin,
        pass.host.pluginByHandle handle = some plugin ∧
          startReadiness pass.host.plugins plugin = .waiting := by
  induction rest generalizing pass with
  | nil => exact ⟨rfl, rfl, hnone, by simp⟩
  | cons handle rest ih =>
    have hlater : ∀ handle ∈ rest, handle ∈ discovered := fun other hmem =>
      hrest other (List.mem_cons_of_mem handle hmem)
    rw [List.foldl_cons] at hnone ⊢
    rcases visit_cases gameThread pass hprogress htable
      (hrest handle List.mem_cons_self) with
      ⟨hsame, hidle⟩ | ⟨hwaits, hwaiting⟩ | ⟨_, hafter, _, hset⟩
    · rw [hsame] at hnone ⊢
      obtain ⟨hhost, hcalled, hflag, hall⟩ := ih hlater pass hprogress hnone
      refine ⟨hhost, hcalled, hflag, fun other hmem hstate => ?_⟩
      rcases List.mem_cons.1 hmem with rfl | hmem
      · exact absurd hstate hidle
      · exact hall other hmem hstate
    · rw [hwaits] at hnone ⊢
      obtain ⟨hhost, hcalled, hflag, hall⟩ := ih hlater { pass with remaining := true } hprogress
        hnone
      refine ⟨hhost, hcalled, hflag, fun other hmem hstate => ?_⟩
      rcases List.mem_cons.1 hmem with rfl | hmem
      · exact hwaiting
      · exact hall other hmem hstate
    · obtain ⟨_, _, hflag, _⟩ := ih hlater _ hafter hnone
      rw [hset] at hflag
      cases hflag

/-! ## The end -/

theorem Progress.eq_lfp (hprogress : Progress answers discovered start host called)
    (htable : Table start)
    (hstuck : ∀ handle ∈ discovered, host.stateOf handle = some .loading → ∃ plugin,
      host.pluginByHandle handle = some plugin ∧
        startReadiness host.plugins plugin = .waiting) :
    {handle | host.stateOf handle = some .loaded} =
      (loadStep answers discovered start).lfp := by
  refine Set.Subset.antisymm (fun handle hloaded => hprogress.sound handle hloaded)
    (OrderHom.lfp_le _ fun handle hloads => ?_)
  obtain ⟨plugin, hplugin, hloaded | ⟨hstate, hmem, hagreed, htargets⟩⟩ := hloads
  · -- who ran before runs on
    show host.stateOf handle = some .loaded
    have hstart : start.stateOf handle = some .loaded :=
      (stateOf_found hplugin).trans (congrArg some hloaded)
    rw [hprogress.stood handle (by simp [hstart]), hstart]
  · have hhandle := pluginByHandle_handle hplugin
    by_contra hnot
    change ¬host.stateOf handle = some .loaded at hnot
    by_cases hwaits : host.stateOf handle = some .loading
    · obtain ⟨now, hnow, hwaiting⟩ := hstuck handle hmem hwaits
      obtain ⟨dependency, hdependency, target, htarget, hloading⟩ := startReadiness_waiting hwaiting
      obtain ⟨first, hfirst, _, hcurrent⟩ := hprogress.targets htable htarget
      obtain ⟨old, hold, hmanifest⟩ := hprogress.origin htable hnow
      rw [hplugin] at hold
      cases hold
      have hdependencies : now.dependencies = plugin.dependencies :=
        congrArg Manifest.dependencies hmanifest
      obtain ⟨found, hfound, _, _, hruns⟩ := htargets dependency (hdependencies ▸ hdependency)
      rw [hfirst] at hfound
      cases hfound
      change host.stateOf first.handle = some .loaded at hruns
      rw [hruns] at hcurrent
      rw [← Option.some.inj hcurrent] at hloading
      cases hloading
    · have hself : start.pluginByHandle plugin.handle = some plugin := pluginByHandle_self hplugin
      rcases hprogress.refused plugin hself hstate (by rwa [hhandle]) (by rwa [hhandle]) with
        hrefused | ⟨dependency, hdependency, hnone⟩
      · rw [hhandle, hagreed] at hrefused
        cases hrefused
      · obtain ⟨found, hfound, hne, hversion, hruns⟩ := htargets dependency hdependency
        change host.stateOf found.handle = some .loaded at hruns
        rcases hnone found hfound with hbad | hbad | ⟨_, hbad⟩
        · exact hne (hbad.trans hhandle)
        · rw [hversion] at hbad
          cases hbad
        · exact hbad hruns

theorem rejectCycle_state (host : Host) (handle other : KeelPluginHandle) :
    (rejectCycle host handle).stateOf other = some .loaded ↔ host.stateOf other = some .loaded := by
  unfold rejectCycle
  cases hfilter : (host.pluginByHandle handle).filter (·.state = .loading) with
  | none => rfl
  | some plugin =>
    obtain ⟨hplugin, hstate⟩ := Option.filter_eq_some_iff.1 hfilter
    have hloading : plugin.state = .loading := by simpa using hstate
    by_cases hsame : other = handle
    · have hsome : (host.pluginByHandle handle).isSome = true := by rw [hplugin]; rfl
      rw [hsame, rejectUnstarted_state .dependencyCycle hsome, stateOf_found hplugin, hloading]
      simp
    · unfold stateOf
      rw [(rejectUnstarted_writes host handle .dependencyCycle).others hsame]

theorem rejectCycles_state (rest : List KeelPluginHandle) (host : Host) :
    (rest.foldl rejectCycle host).stateOf other = some .loaded ↔
      host.stateOf other = some .loaded := by
  induction rest generalizing host with
  | nil => rfl
  | cons handle rest ih =>
    rw [List.foldl_cons, ih]
    exact rejectCycle_state host handle other

/-- What `StartDiscoveredPlugins` has done when it returns: which plugins are loaded, and which
load callbacks were called, in which order. -/
structure Started (answers : KeelPluginHandle → Call → Answer) (discovered : List KeelPluginHandle)
    (start : Host) (result : Host × List KeelPluginHandle) : Prop where
  loaded : {handle | result.1.stateOf handle = some .loaded} =
    (loadStep answers discovered start).lfp
  once : result.2.Nodup
  ordered : ∀ before handle after, result.2 = before ++ handle :: after →
    ∀ plugin, start.pluginByHandle handle = some plugin →
      ∀ dependency ∈ plugin.dependencies, ∃ target,
        dependencyTarget start.plugins dependency.name = some target ∧
          (start.stateOf target.handle = some .loaded ∨
            target.handle ∈ before ∧ (answers target.handle .load).agreed = true)

variable (gameThread) in
theorem startDiscovered_from (htable : Table start) (host : Host)
    (called : List KeelPluginHandle)
    (hprogress : Progress answers discovered start host called) :
    ∃ result, Started answers discovered start result ∧
      ∀ fuel, (start.pending host).card < fuel →
        startDiscoveredPlugins answers gameThread discovered fuel host called = some result := by
  induction hcount : (start.pending host).card using Nat.strong_induction_on
    generalizing host called with
  | _ count ih =>
    generalize hpass : startPass answers gameThread discovered host called = pass
    have hfold : discovered.foldl (visit answers gameThread) ⟨host, called, false, false⟩ = pass :=
      hpass
    have hkept := fold_progress gameThread htable (fun _ hmem => hmem)
      ⟨host, called, false, false⟩ hprogress
    rw [hfold] at hkept
    obtain ⟨hafter, hsub, hless⟩ := hkept
    cases hremaining : pass.remaining with
    | false =>
      have hsettled := fold_settled gameThread htable (fun _ hmem => hmem)
        ⟨host, called, false, false⟩ hprogress (by rw [hfold, hremaining])
      rw [hfold] at hsettled
      obtain ⟨rfl, _, hidle⟩ := hsettled
      refine ⟨(host, called), ⟨hprogress.eq_lfp htable fun handle hmem hstate =>
        absurd hstate (hidle handle hmem), hprogress.nodup, hprogress.ordered⟩,
          fun fuel hfuel => ?_⟩
      cases fuel with
      | zero => exact absurd hfuel (Nat.not_lt_zero _)
      | succ fuel => simp [startDiscoveredPlugins, hpass]
    | true =>
      cases hflag : pass.progress with
      | false =>
        have hstuck := fold_stuck gameThread htable (fun _ hmem => hmem)
          ⟨host, called, false, false⟩ hprogress (by rw [hfold, hflag])
        rw [hfold] at hstuck
        obtain ⟨hhost, hcalled, _, hwaiting⟩ := hstuck
        refine ⟨(discovered.foldl rejectCycle pass.host, pass.called), ⟨?_, hafter.nodup,
          hafter.ordered⟩, fun fuel hfuel => ?_⟩
        · rw [← hprogress.eq_lfp htable hwaiting, hhost]
          ext other
          exact rejectCycles_state discovered host
        · cases fuel with
          | zero => exact absurd hfuel (Nat.not_lt_zero _)
          | succ fuel => simp [startDiscoveredPlugins, hpass, hremaining, hflag]
      | true =>
        have hcard := Finset.card_lt_card ((hless hflag).resolve_left (by simp))
        simp only at hcard
        obtain ⟨result, hstarted, hresult⟩ := ih _ (hcount ▸ hcard) pass.host pass.called hafter rfl
        refine ⟨result, hstarted, fun fuel hfuel => ?_⟩
        cases fuel with
        | zero => exact absurd hfuel (Nat.not_lt_zero _)
        | succ fuel =>
          simp only [startDiscoveredPlugins, hpass, hremaining, hflag, Bool.not_true,
            Bool.false_eq_true, if_false]
          exact hresult fuel (by omega)

theorem Table.progress (htable : Table start) :
    Progress answers discovered start start [] where
  manifests := rfl
  idle := htable.idle
  loads := htable.loads
  stood _ _ := rfl
  sound handle hloaded := by
    obtain ⟨plugin, hplugin, hstate⟩ := Option.map_eq_some_iff.1 hloaded
    rw [← OrderHom.map_lfp]
    exact ⟨plugin, hplugin, .inl hstate⟩
  refused plugin hplugin hstate hnot _ := by
    rw [stateOf_found hplugin, hstate] at hnot
    exact absurd rfl hnot
  ran handle hloaded := .inl hloaded
  past handle hmem := by cases hmem
  nodup := List.nodup_nil
  ordered before handle after hsplit := by simp at hsplit

/-- `StartDiscoveredPlugins` terminates, with one result for as many passes as there are plugins
and more. -/
theorem startDiscoveredPlugins_started (htable : Table start) :
    ∃ result, Started answers discovered start result ∧
      ∀ fuel, start.plugins.length < fuel →
        startDiscoveredPlugins answers gameThread discovered fuel start [] = some result := by
  obtain ⟨result, hstarted, hresult⟩ := startDiscovered_from gameThread htable start []
    (htable.progress : Progress answers discovered start start [])
  refine ⟨result, hstarted, fun fuel hfuel => hresult fuel (Nat.lt_of_le_of_lt ?_ hfuel)⟩
  calc (start.pending start).card ≤ start.handles.toFinset.card := Finset.card_filter_le _ _
    _ ≤ start.handles.length := List.toFinset_card_le _
    _ = start.plugins.length := List.length_map _

end KeelS2.Plugins.Host
