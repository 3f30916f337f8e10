import KeelS2.Plugins.Interleaving

/-!
# A running plugin has its dependencies running

`Satisfied` is kept by every change of a record: a plugin begins to run only when
`DependenciesReady` says so under the same lock, and a plugin that others count on leaves service
only when no plugin that runs names it.
-/

namespace KeelS2.Plugins

/-- The plugin is what the dependency asks for, and running. -/
structure PluginRecord.Meets (target : PluginRecord) (dependency : PluginDependencyRecord) :
    Prop where
  selectable : target.selectable = true
  name : equalInsensitive target.name dependency.name = true
  version : dependencyVersionMatches target.version dependency = true
  serves : target.Serves

namespace Host

/-- Every plugin that runs has its dependencies running. -/
def Satisfied (host : Host) : Prop :=
  ∀ plugin ∈ host.plugins, plugin.state = .loaded → ∀ dependency ∈ plugin.dependencies, ∃ target,
    host.pluginByHandle target.handle = some target ∧ target.handle ≠ plugin.handle ∧
      target.Meets dependency

variable {host after : Host} {handle : KeelPluginHandle} {restores : Bool}
variable {old now plugin target : PluginRecord} {dependency : PluginDependencyRecord}

theorem met_of_dependenciesReady (hnumbered : Numbered host)
    (hready : dependenciesReady host.plugins plugin = none)
    (hmem : dependency ∈ plugin.dependencies) : ∃ target,
      host.pluginByHandle target.handle = some target ∧ target.handle ≠ plugin.handle ∧
        target.Meets dependency := by
  obtain ⟨target, htarget, hne, hversion, hstate, htransition⟩ :=
    dependenciesReady_eq_none.1 hready dependency hmem
  obtain ⟨_, hselectable, hname⟩ := dependencyTarget_some htarget
  exact ⟨target, hnumbered.target htarget, hne, hselectable, hname, hversion, hstate,
    htransition⟩

theorem Change.met (hchange : Change host after handle restores) (hnumbered : Numbered host)
    (hplugin : plugin ∈ host.plugins) (hloaded : plugin.state = .loaded)
    (hmem : dependency ∈ plugin.dependencies)
    (htarget : host.pluginByHandle target.handle = some target)
    (hne : target.handle ≠ plugin.handle) (hmeets : target.Meets dependency) : ∃ target,
      after.pluginByHandle target.handle = some target ∧ target.handle ≠ plugin.handle ∧
        target.Meets dependency := by
  by_cases hsame : target.handle = handle
  · rw [hsame] at htarget
    cases hnow : after.pluginByHandle handle with
    | none => exact absurd hmeets.serves (hchange.gone target htarget hnow)
    | some now =>
      have hhandle : now.handle = target.handle := (pluginByHandle_handle hnow).trans hsame.symm
      rcases hchange.moved now hnow with ⟨old, hold, hmove⟩ | ⟨hfresh, _⟩
      · rw [htarget] at hold
        cases hold
        obtain ⟨hselectable, hname, hversion, hstate, htransition⟩ := hmeets
        cases hmove.shift with
        | kept hmanifest hstate' htransition' =>
          refine ⟨now, by rw [hhandle, hsame, hnow], hhandle ▸ hne, ?_, ?_, ?_, ?_, ?_⟩
          · exact hmanifest.selectable.trans hselectable
          · rw [hmanifest.name]
            exact hname
          · rw [hmanifest.version]
            exact hversion
          · exact hstate'.trans hstate
          · exact htransition'.trans htransition
        | described hold _ _ _ _ => exact absurd (hstate.symm.trans hold) (by decide)
        | failed _ hold _ => rcases hold with hold | hold <;> simp [hstate] at hold
        | settled _ hold _ _ => exact absurd (hstate.symm.trans hold) (by decide)
        | begun _ _ _ halone =>
          -- who takes a plugin out of service has looked for those that count on it
          have hnone := halone plugin hplugin (Ne.symm hne) hloaded dependency hmem
          rw [equalInsensitive_symm hname] at hnone
          cases hnone
        | resumed _ hold _ _ => exact absurd (hstate.symm.trans hold) (by decide)
        | paused _ _ hold _ => exact absurd (htransition.symm.trans hold) (by decide)
        | ended _ _ hold _ => exact absurd (htransition.symm.trans hold) (by decide)
      · have hallotted := hnumbered.allotted target (mem_of_pluginByHandle htarget)
        exact absurd (hsame ▸ hallotted) hfresh
  · exact ⟨target, by rw [hchange.others _ hsame, htarget], hne, hmeets⟩

theorem Change.satisfied (hchange : Change host after handle restores)
    (hnumbered : Numbered host) (hsatisfied : Satisfied host) : Satisfied after := by
  intro now hmem hloaded dependency hdependency
  have hnow := (hchange.numbered hnumbered).find_mem hmem
  by_cases hsame : now.handle = handle
  · rw [hsame] at hnow
    rcases hchange.moved now hnow with ⟨old, hold, hmove⟩ | ⟨_, filename, image, hnew⟩
    · have hold' := pluginByHandle_handle hold
      -- the others are as they were, and one of them is what the dependency asks for
      have hothers : (∃ target, host.pluginByHandle target.handle = some target ∧
          target.handle ≠ old.handle ∧ target.Meets dependency) → ∃ target,
            after.pluginByHandle target.handle = some target ∧ target.handle ≠ now.handle ∧
              target.Meets dependency := by
        rintro ⟨target, htarget, hne, hmeets⟩
        rw [hold'] at hne
        refine ⟨target, ?_, fun hbad => hne (hbad.trans hsame), hmeets⟩
        rw [hchange.others _ hne, htarget]
      have hstood : SameManifest old now → old.state = .loaded → _ := fun hmanifest hstate =>
        hothers (hsatisfied old (mem_of_pluginByHandle hold) hstate dependency
          (hmanifest.dependencies ▸ hdependency))
      cases hmove.shift with
      | kept hmanifest hstate _ => exact hstood hmanifest (hstate.symm.trans hloaded)
      | described _ _ _ query hnow =>
        exact absurd (hnow ▸ hloaded) (describe_same host query old).2.2.2
      | failed _ _ hstate => exact absurd (hloaded.symm.trans hstate) (by decide)
      | settled hmanifest _ hstate _ =>
        rcases hstate with hstate | ⟨_, hready⟩
        · exact absurd (hloaded.symm.trans hstate) (by decide)
        · exact hothers (met_of_dependenciesReady hnumbered hready
            (hmanifest.dependencies ▸ hdependency))
      | begun hmanifest _ hstate _ => exact hstood hmanifest (hstate.symm.trans hloaded)
      | resumed hmanifest _ _ hready =>
        exact hothers (met_of_dependenciesReady hnumbered hready
          (hmanifest.dependencies ▸ hdependency))
      | paused _ _ _ hstate => exact absurd (hloaded.symm.trans hstate) (by decide)
      | ended hmanifest _ _ hstate => exact hstood hmanifest (hstate.symm.trans hloaded)
    · rw [hnew] at hloaded
      cases image <;> cases hloaded
  · rw [hchange.others _ hsame] at hnow
    have hplugin := mem_of_pluginByHandle hnow
    obtain ⟨target, htarget, hne, hmeets⟩ := hsatisfied now hplugin hloaded dependency hdependency
    exact hchange.met hnumbered hplugin hloaded hdependency htarget hne hmeets

theorem Evolves.satisfied {slip : Prop} (hevolves : Evolves host after slip)
    (hnumbered : Numbered host) (hsatisfied : Satisfied host) : Satisfied after := by
  obtain ⟨middle, _, _, _, _, hfirst, hsecond, _⟩ := hevolves
  exact hsecond.satisfied (hfirst.numbered hnumbered) (hfirst.satisfied hnumbered hsatisfied)

end Host

namespace Machine

theorem run_satisfied (actions : List Action) :
    Host.Satisfied (Lib.run step initial actions).host := by
  have hstep : ∀ (machine : Machine) action,
      Host.Safe machine.host machine.tasks ∧ Host.Satisfied machine.host →
        Host.Safe (machine.step action).host (machine.step action).tasks ∧
          Host.Satisfied (machine.step action).host := by
    intro machine action ⟨hsafe, hsatisfied⟩
    have hstep := step_step hsafe action
    exact ⟨hstep.safe, hstep.evolves.satisfied hsafe.numbered hsatisfied⟩
  refine (Lib.run_invariant hstep ⟨initial_safe, ?_⟩ actions).2
  simp [Host.Satisfied, initial, Host.initial]

/-- In every state that the plugin manager reaches, whatever commands are under way, whatever
plugins and services answer, and whoever has the lock next: a plugin that is loaded has each of
its declared dependencies loaded, under that name and at a version that satisfies the
requirement. -/
theorem loaded_has_dependencies_loaded (actions : List Action) :
    ∀ plugin ∈ (Lib.run step initial actions).host.plugins, plugin.state = .loaded →
      ∀ dependency ∈ plugin.dependencies,
        ∃ target ∈ (Lib.run step initial actions).host.plugins,
          target.handle ≠ plugin.handle ∧ target.selectable = true ∧
            equalInsensitive target.name dependency.name = true ∧ target.state = .loaded ∧
              dependencyVersionMatches target.version dependency = true := by
  intro plugin hmem hloaded dependency hdependency
  obtain ⟨target, htarget, hne, hmeets⟩ :=
    run_satisfied actions plugin hmem hloaded dependency hdependency
  exact ⟨target, Host.mem_of_pluginByHandle htarget, hne, hmeets.selectable, hmeets.name,
    hmeets.serves.1, hmeets.version⟩

/-- One plugin is loaded from its file with nothing in between: what it says of itself, and the
answer of its load callback. -/
def loads (filename : Text) (query : Query) (answer : Answer) : List Action :=
  let files : Files := ⟨.opened, true, none, none⟩
  [.invoke 0 true .console (.load filename) files, .work files, .asked 0 query, .regain 0,
    .work files, .work files, .answer 0 answer, .regain 0, .work files, .work files]

/-- `a` 1.2.3, and `b`, which asks for `a` from 1.0.0 on. -/
def loadsTwo : List Action :=
  loads ['a', '.', 's', 'o'] ⟨true, true, true, ['a'], ['1', '.', '2', '.', '3'], []⟩
      ⟨.ok, false, true, false⟩ ++
    loads ['b', '.', 's', 'o'] ⟨true, true, true, ['b'], ['0', '.', '1', '.', '0'],
      [⟨['A'], ['1', '.', '0', '.', '0'], pluginDependencyAtLeast⟩]⟩ ⟨.ok, false, true, false⟩

/-- A state with such a plugin is reached. -/
theorem loaded_has_dependencies_loaded_two :
    ∃ target ∈ (Lib.run step initial loadsTwo).host.plugins,
      target.handle ≠ 2 ∧ target.selectable = true ∧
        equalInsensitive target.name ['A'] = true ∧ target.state = .loaded ∧
          dependencyVersionMatches target.version
            ⟨['A'], ['1', '.', '0', '.', '0'], pluginDependencyAtLeast⟩ = true :=
  loaded_has_dependencies_loaded loadsTwo
    (((Lib.run step initial loadsTwo).host.pluginByHandle 2).getD (.new 0 [])) (by decide)
    (by decide) ⟨['A'], ['1', '.', '0', '.', '0'], pluginDependencyAtLeast⟩ (by decide)

end Machine
end KeelS2.Plugins
