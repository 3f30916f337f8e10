import KeelS2.Plugins.Dependencies

/-!
# Quarantine lasts

A plugin whose unload has failed for good is in quarantine: `cleanupPending`. Every section that
does not slip leaves it there, silent, and lets no plugin run that counts on it.
-/

namespace KeelS2.Plugins
namespace Host

/-- `plugin` runs, and `target` is what one of its dependencies counts as running. -/
def countsOn (host : Host) (plugin target : PluginRecord) : Prop :=
  plugin.state = .loaded ∧ ∃ dependency ∈ plugin.dependencies,
    dependencyTarget host.plugins dependency.name = some target ∧
      dependencyProblem host.plugins plugin dependency = none

/-- The plugin is in quarantine, accepts nothing, and nothing of it is on that was off before; no
plugin that runs counts on it. -/
structure Quarantined (before after : Host) (handle : KeelPluginHandle) : Prop where
  found : ∃ now, after.pluginByHandle handle = some now ∧ now.cleanupPending = true ∧
    now.acceptingResources = false ∧ ∀ plugin ∈ after.plugins, ¬after.countsOn plugin now
  commands : after.commandsEnabled handle = true → before.commandsEnabled handle = true
  dispatch : ∀ service, after.dispatch service handle = true → before.dispatch service handle = true

/-! ## What careful changes keep -/

structure Orderly (host : Host) : Prop where
  numbered : Numbered host
  clean : LoadingClean host
  satisfied : Satisfied host
  /-- A name stands for one plugin, those that never started apart. -/
  named : ∀ first ∈ host.plugins, ∀ second ∈ host.plugins,
    first.selectable = true → second.selectable = true →
      first.state ≠ .error → second.state ≠ .error →
        equalInsensitive first.name second.name = true → first.handle = second.handle
  silent : ∀ plugin ∈ host.plugins, plugin.cleanupPending = true →
    plugin.acceptingResources = false
  uncounted : ∀ plugin ∈ host.plugins, plugin.state = .loaded →
    ∀ dependency ∈ plugin.dependencies, ∀ target ∈ host.plugins,
      target.handle ≠ plugin.handle → target.Meets dependency → target.cleanupPending = false

variable {host after : Host} {handle : KeelPluginHandle} {restores : Bool}
variable {old now plugin target other : PluginRecord} {dependency : PluginDependencyRecord}

theorem Change.was (hchange : Change host after handle restores)
    (hnow : after.pluginByHandle handle = some now) (hselectable : now.selectable = true) :
    ∃ old, host.pluginByHandle handle = some old ∧ Move host restores old now := by
  rcases hchange.moved now hnow with hmoved | ⟨_, filename, image, rfl⟩
  · exact hmoved
  · cases image <;> cases hselectable

/-- A plugin is described under a name that no other goes by. -/
theorem describe_named {query : Query} (hhidden : old.selectable = false)
    (hselectable : (host.describe handle query old).selectable = true)
    (hstate : (host.describe handle query old).state ≠ .error)
    (hmem : other ∈ host.plugins) (hne : other.handle ≠ handle)
    (hother : other.selectable = true) :
    equalInsensitive other.name (host.describe handle query old).name = false := by
  unfold describe at hselectable hstate ⊢
  by_cases hbad : (!query.succeeded || !query.manifestSucceeded || !query.compatible) = true
  · rw [if_pos hbad] at hselectable
    exact absurd (hhidden.symm.trans hselectable) (by decide)
  · rw [if_neg hbad] at hselectable hstate ⊢
    simp only at hselectable hstate ⊢
    by_cases hself : (query.dependencies.any fun dependency =>
        equalInsensitive dependency.name query.name) = true
    · rw [if_pos hself] at hstate
      exact absurd rfl hstate
    · rw [if_neg hself] at hselectable hstate ⊢
      cases hduplicate : host.duplicate handle query.name with
      | some double =>
        simp only [hduplicate] at hstate
        exact absurd rfl hstate
      | none =>
        have hnone := List.find?_eq_none.1 hduplicate other hmem
        simpa [hne, hother] using hnone

theorem Change.named (hchange : Change host after handle restores)
    (hnamed : ∀ first ∈ host.plugins, ∀ second ∈ host.plugins,
      first.selectable = true → second.selectable = true →
        first.state ≠ .error → second.state ≠ .error →
          equalInsensitive first.name second.name = true → first.handle = second.handle)
    (hnow : after.pluginByHandle handle = some now) (hmem : other ∈ host.plugins)
    (hne : other.handle ≠ handle) (hselectable : now.selectable = true)
    (hother : other.selectable = true) (hstate : now.state ≠ .error)
    (hother' : other.state ≠ .error) : equalInsensitive other.name now.name = false := by
  obtain ⟨old, hold, hmove⟩ := hchange.was hnow hselectable
  have hsame : SameManifest old now → old.state ≠ .error →
      equalInsensitive other.name now.name = false := by
    intro hmanifest hstate
    by_contra hequal
    rw [Bool.not_eq_false, hmanifest.name] at hequal
    refine hne ?_
    rw [hnamed other hmem old (mem_of_pluginByHandle hold) hother
      (hmanifest.selectable.symm.trans hselectable) hother' hstate hequal]
    exact pluginByHandle_handle hold
  cases hmove.shift with
  | kept hmanifest hkept _ => exact hsame hmanifest (hkept ▸ hstate)
  | described _ hhidden _ query hdescribed =>
    subst hdescribed
    rw [pluginByHandle_handle hold] at hselectable hstate ⊢
    exact describe_named hhidden hselectable hstate hmem hne hother
  | failed _ _ herror => exact absurd herror hstate
  | settled hmanifest hloading _ _ => exact hsame hmanifest (by simp [hloading])
  | begun hmanifest hservice _ _ =>
    exact hsame hmanifest (by rcases hservice with h | h <;> simp [h])
  | resumed hmanifest hpaused _ _ => exact hsame hmanifest (by simp [hpaused])
  | paused hmanifest hservice _ _ =>
    exact hsame hmanifest (by rcases hservice with h | h <;> simp [h])
  | ended hmanifest hservice _ _ =>
    exact hsame hmanifest (by rcases hservice with h | h <;> simp [h])

/-- A plugin that a running one names serves it, or is in error: there is no other of the name.
-/
theorem Orderly.serves (horderly : Orderly host) (hplugin : plugin ∈ host.plugins)
    (hloaded : plugin.state = .loaded) (hmem : dependency ∈ plugin.dependencies)
    (htarget : target ∈ host.plugins) (hselectable : target.selectable = true)
    (hname : equalInsensitive target.name dependency.name = true)
    (hstate : target.state ≠ .error) : target.Serves := by
  obtain ⟨serving, hserving, _, hmeets⟩ :=
    horderly.satisfied plugin hplugin hloaded dependency hmem
  have hsame := horderly.named target htarget serving (mem_of_pluginByHandle hserving) hselectable
    hmeets.selectable hstate (by simp [hmeets.serves.1])
    (equalInsensitive_trans hname (equalInsensitive_symm hmeets.name))
  have hfound := horderly.numbered.find_mem htarget
  rw [hsame, hserving] at hfound
  cases hfound
  exact hmeets.serves

section

variable (hchange : Change host after handle restores)

include hchange

theorem Change.uncounted_target (horderly : Orderly host) (hplugin : plugin ∈ host.plugins)
    (hne : plugin.handle ≠ handle) (hloaded : plugin.state = .loaded)
    (hmem : dependency ∈ plugin.dependencies) (hnow : after.pluginByHandle handle = some now)
    (hmeets : now.Meets dependency) : now.cleanupPending = false := by
  obtain ⟨old, hold, hmove⟩ := hchange.was hnow hmeets.selectable
  have htarget := mem_of_pluginByHandle hold
  have hhandle := pluginByHandle_handle hold
  obtain ⟨hselectable, hname, hversion, hstate, htransition⟩ := hmeets
  have hserves : SameManifest old now → old.state ≠ .error → old.Serves := by
    intro hmanifest hnot
    exact horderly.serves hplugin hloaded hmem htarget
      (hmanifest.selectable.symm.trans hselectable) (hmanifest.name ▸ hname) hnot
  cases hmove.shift with
  | kept hmanifest hkept htransition' =>
    have hserving : old.Serves :=
      ⟨hkept.symm.trans hstate, htransition'.symm.trans htransition⟩
    rcases hmove.pending with hpending | ⟨_, _, _, hnot⟩
    · rw [hpending]
      refine horderly.uncounted plugin hplugin hloaded dependency hmem old htarget
        (hhandle ▸ Ne.symm hne) ⟨hmanifest.selectable.symm.trans hselectable,
          hmanifest.name ▸ hname,
          hmanifest.version ▸ hversion, hserving⟩
    · exact absurd hserving hnot
  | described _ _ _ query hdescribed =>
    exact absurd (hdescribed ▸ hstate) (describe_same host query old).2.2.2
  | failed _ _ herror => exact absurd (hstate.symm.trans herror) (by decide)
  | settled hmanifest hloading _ _ =>
    exact absurd (hloading.symm.trans (hserves hmanifest (by simp [hloading])).1) (by decide)
  | begun hmanifest _ _ halone =>
    have hnone := halone plugin hplugin (hhandle ▸ hne) hloaded dependency hmem
    rw [equalInsensitive_symm (hmanifest.name ▸ hname)] at hnone
    cases hnone
  | resumed hmanifest hpaused _ _ =>
    exact absurd (hpaused.symm.trans (hserves hmanifest (by simp [hpaused])).1) (by decide)
  | paused _ _ _ hpaused => exact absurd (hstate.symm.trans hpaused) (by decide)
  | ended hmanifest hservice hmoving _ =>
    have hserving := hserves hmanifest (by rcases hservice with h | h <;> simp [h])
    exact absurd (hmoving.symm.trans hserving.2) (by decide)

section

variable (hcareful : Careful host after handle restores)

include hcareful

/-- A plugin that begins to run counts on none in quarantine, if the section does not slip. -/
theorem Change.uncounted_plugin (horderly : Orderly host)
    (hnow : after.pluginByHandle handle = some now) (hloaded : now.state = .loaded)
    (hmem : dependency ∈ now.dependencies) (htarget : target ∈ host.plugins)
    (hne : target.handle ≠ handle) (hmeets : target.Meets dependency) :
    target.cleanupPending = false := by
  rcases hchange.moved now hnow with ⟨old, hold, hmove⟩ | ⟨_, filename, image, rfl⟩
  · have hhandle := pluginByHandle_handle hold
    have hplugin := mem_of_pluginByHandle hold
    have hstood : SameManifest old now → old.state = .loaded → target.cleanupPending = false :=
      fun hmanifest hstate => horderly.uncounted old hplugin hstate dependency
        (hmanifest.dependencies ▸ hmem) target htarget (hhandle ▸ hne) hmeets
    have hbegan : SameManifest old now → old.state ≠ .loaded →
        dependenciesReady host.plugins old = none → target.cleanupPending = false := by
      intro hmanifest hstate hready
      have hdependency : dependency ∈ old.dependencies := hmanifest.dependencies ▸ hmem
      obtain ⟨found, hfound, _, _, hrunning, _⟩ :=
        dependenciesReady_eq_none.1 hready dependency hdependency
      obtain ⟨hfoundmem, hfoundselectable, hfoundname⟩ := dependencyTarget_some hfound
      have hsame := horderly.named target htarget found hfoundmem hmeets.selectable
        hfoundselectable (by simp [hmeets.serves.1]) (by simp [hrunning])
        (equalInsensitive_trans hmeets.name (equalInsensitive_symm hfoundname))
      have heq := horderly.numbered.find_mem htarget
      rw [hsame, horderly.numbered.find_mem hfoundmem] at heq
      cases heq
      exact hcareful.sound old now hold hnow hloaded hstate dependency hdependency target hfound
    cases hmove.shift with
    | kept hmanifest hstate _ => exact hstood hmanifest (hstate.symm.trans hloaded)
    | described _ _ _ query hdescribed =>
      exact absurd (hdescribed ▸ hloaded) (describe_same host query old).2.2.2
    | failed _ _ hstate => exact absurd (hloaded.symm.trans hstate) (by decide)
    | settled hmanifest hloading hstate _ =>
      rcases hstate with hstate | ⟨_, hready⟩
      · exact absurd (hloaded.symm.trans hstate) (by decide)
      · exact hbegan hmanifest (by simp [hloading]) hready
    | begun hmanifest _ hstate _ => exact hstood hmanifest (hstate.symm.trans hloaded)
    | resumed hmanifest hpaused _ hready => exact hbegan hmanifest (by simp [hpaused]) hready
    | paused _ _ _ hstate => exact absurd (hloaded.symm.trans hstate) (by decide)
    | ended hmanifest _ _ hstate => exact hstood hmanifest (hstate.symm.trans hloaded)
  · cases image <;> cases hloaded

theorem Change.silent (horderly : Orderly host) (hnow : after.pluginByHandle handle = some now)
    (hpending : now.cleanupPending = true) : now.acceptingResources = false := by
  rcases hchange.moved now hnow with ⟨old, hold, hmove⟩ | ⟨_, filename, image, rfl⟩
  · rcases hmove.pending with hsame | ⟨_, hoff, _, _⟩
    · rw [hsame] at hpending
      have hoff := horderly.silent old (mem_of_pluginByHandle hold) hpending
      cases hrestores : restores with
      | true =>
        have hon := hcareful.quiet hrestores old hold hpending
        exact absurd (hoff.symm.trans hon) (by decide)
      | false =>
        by_contra hon
        rw [Bool.not_eq_false] at hon
        exact absurd (hoff.symm.trans (hmove.accepting hrestores hon)) (by decide)
    · exact hoff
  · cases image <;> cases hpending

theorem Change.orderly (horderly : Orderly host) : Orderly after := by
  have hnumbered := hchange.numbered horderly.numbered
  have hunchanged : ∀ plugin ∈ after.plugins, plugin.handle ≠ handle → plugin ∈ host.plugins := by
    intro plugin hmem hne
    have hplugin := hnumbered.find_mem hmem
    rw [hchange.others _ hne] at hplugin
    exact mem_of_pluginByHandle hplugin
  have hchanged : ∀ plugin ∈ after.plugins, plugin.handle = handle →
      after.pluginByHandle handle = some plugin := by
    intro plugin hmem hsame
    rw [← hsame]
    exact hnumbered.find_mem hmem
  refine ⟨hnumbered, hchange.clean horderly.numbered horderly.clean,
    hchange.satisfied horderly.numbered horderly.satisfied, ?_, ?_, ?_⟩
  · intro first hfirst second hsecond hselectable hselectable' hstate hstate' hname
    by_cases hone : first.handle = handle
    · by_cases htwo : second.handle = handle
      · rw [hone, htwo]
      · have hnot := hchange.named horderly.named (hchanged first hfirst hone)
          (hunchanged second hsecond htwo) htwo hselectable hselectable' hstate hstate'
        rw [equalInsensitive_symm hname] at hnot
        cases hnot
    · by_cases htwo : second.handle = handle
      · have hnot := hchange.named horderly.named (hchanged second hsecond htwo)
          (hunchanged first hfirst hone) hone hselectable' hselectable hstate' hstate
        rw [hname] at hnot
        cases hnot
      · exact horderly.named first (hunchanged first hfirst hone) second
          (hunchanged second hsecond htwo) hselectable hselectable' hstate hstate' hname
  · intro plugin hmem hpending
    by_cases hsame : plugin.handle = handle
    · exact hchange.silent hcareful horderly (hchanged plugin hmem hsame) hpending
    · exact horderly.silent plugin (hunchanged plugin hmem hsame) hpending
  · intro plugin hmem hloaded dependency hdependency target htarget hne hmeets
    by_cases hsame : plugin.handle = handle
    · have hother : target.handle ≠ handle := fun hbad => hne (hbad.trans hsame.symm)
      exact hchange.uncounted_plugin hcareful horderly (hchanged plugin hmem hsame) hloaded
        hdependency (hunchanged target htarget hother) hother hmeets
    · have hplugin := hunchanged plugin hmem hsame
      by_cases hother : target.handle = handle
      · exact hchange.uncounted_target horderly hplugin hsame hloaded hdependency
          (hchanged target htarget hother) hmeets
      · exact horderly.uncounted plugin hplugin hloaded dependency hdependency target
          (hunchanged target htarget hother) hne hmeets

end

end

/-! ## What a plugin in quarantine goes through -/

theorem Orderly.not_countsOn (horderly : Orderly host) (hplugin : plugin ∈ host.plugins)
    (hpending : target.cleanupPending = true) : ¬host.countsOn plugin target := by
  rintro ⟨hloaded, dependency, hmem, htarget, hready⟩
  obtain ⟨found, hfound, hne, hversion, hstate, htransition⟩ := dependencyProblem_eq_none.1 hready
  rw [htarget] at hfound
  cases hfound
  obtain ⟨hfoundmem, hselectable, hname⟩ := dependencyTarget_some htarget
  have hnot := horderly.uncounted plugin hplugin hloaded dependency hmem target hfoundmem hne
    ⟨hselectable, hname, hversion, hstate, htransition⟩
  rw [hpending] at hnot
  cases hnot

theorem Quarantined.start (horderly : Orderly host) {old : PluginRecord}
    (hold : host.pluginByHandle handle = some old) (hpending : old.cleanupPending = true) :
    Quarantined host host handle where
  found := ⟨old, hold, hpending, horderly.silent old (mem_of_pluginByHandle hold) hpending,
    fun _ hplugin => horderly.not_countsOn hplugin hpending⟩
  commands hon := hon
  dispatch _ hon := hon

theorem Quarantined.change {first : Host} {changed : KeelPluginHandle}
    (hquarantined : Quarantined first host handle)
    (hchange : Change host after changed restores)
    (hcareful : Careful host after changed restores) (horderly : Orderly host)
    (hstays : (after.pluginByHandle handle).isSome = true) :
    Quarantined first after handle := by
  obtain ⟨⟨old, hold, hpending, haccepting, _⟩, hcommands, hdispatch⟩ := hquarantined
  obtain ⟨now, hnow⟩ := Option.isSome_iff_exists.1 hstays
  have hafter := hchange.orderly hcareful horderly
  -- a change that may turn something on is about a plugin that accepts resources
  have hquiet : handle ≠ changed ∨ restores = false := by
    by_cases hsame : handle = changed
    · right
      by_contra hrestores
      rw [Bool.not_eq_false] at hrestores
      have hon := hcareful.quiet hrestores old (hsame ▸ hold) hpending
      exact absurd (haccepting.symm.trans hon) (by decide)
    · exact .inl hsame
  have hpending' : now.cleanupPending = true := by
    by_cases hsame : handle = changed
    · subst hsame
      rcases hchange.moved now hnow with ⟨was, hwas, hmove⟩ | ⟨hfresh, _⟩
      · rw [hold] at hwas
        cases hwas
        rcases hmove.pending with hkept | ⟨hset, _⟩
        · exact hkept.trans hpending
        · exact hset
      · have hallotted := horderly.numbered.allotted old (mem_of_pluginByHandle hold)
        rw [pluginByHandle_handle hold] at hallotted
        exact absurd hallotted hfresh
    · rw [hchange.others handle hsame, hold] at hnow
      cases hnow
      exact hpending
  exact ⟨⟨now, hnow, hpending', hafter.silent now (mem_of_pluginByHandle hnow) hpending',
    fun _ hplugin => hafter.not_countsOn hplugin hpending'⟩,
    fun hon => hcommands (hchange.commands handle hquiet hon),
    fun service hon => hdispatch service (hchange.dispatch handle hquiet service hon)⟩

theorem Quarantined.allotted {first : Host} (hquarantined : Quarantined first host handle)
    (hnumbered : Numbered host) : host.Allotted handle := by
  obtain ⟨⟨old, hold, _⟩, _, _⟩ := hquarantined
  rw [← pluginByHandle_handle hold]
  exact hnumbered.allotted old (mem_of_pluginByHandle hold)

theorem Evolves.orderly {slip : Prop} (hevolves : Evolves host after slip) (hno : ¬slip)
    (horderly : Orderly host) : Orderly after := by
  obtain ⟨middle, _, _, _, _, hfirst, hsecond, hcareful⟩ := hevolves
  obtain ⟨hquiet, hquiet'⟩ := hcareful hno
  exact hsecond.orderly hquiet' (hfirst.orderly hquiet horderly)

end Host

namespace Machine

open Lib (run Heeds)

/-- What every step keeps that does not slip. -/
def Sound (machine : Machine) : Prop :=
  Host.Safe machine.host machine.tasks ∧ Host.Orderly machine.host

end Machine
end KeelS2.Plugins
