import KeelS2.Plugins.Changes
import Mathlib.Data.List.Infix

/-!
# What a command keeps to itself while it waits

Between two sections of a command others have the lock. What they leave alone is the plugin that
the command holds: the one it discovers, starts or takes out of service. `Hold.Ok` says in which
state that plugin is, and the lemmas here that each section of the command that holds it makes a
`Change`, and leaves the plugin as the next section expects it.
-/

namespace KeelS2.Plugins

inductive Hold
  | discovery
  /-- The load callback is outstanding. -/
  | starting
  /-- The paused replacement of a paused plugin has loaded. -/
  | replacing
  /-- It has refused to be paused. -/
  | refused
  /-- The plugin has not loaded, and is released. -/
  | unwinding
  | stopping
  | resuming
  deriving DecidableEq, Repr

def Leaf.hold : Leaf → Option (Hold × KeelPluginHandle)
  | .discover handle => some (.discovery, handle)
  | .script (.unload _ _) handle calls _ =>
    if .unload ∈ calls then some (.stopping, handle) else none
  | .script .pause handle _ _ => some (.stopping, handle)
  | .script .resume handle _ _ => some (.resuming, handle)
  | .script (.start _) handle calls _ =>
    if .load ∈ calls then some (.starting, handle)
    else if .preparePause ∈ calls then some (.replacing, handle)
    else if .prepareUnload ∈ calls then some (.refused, handle)
    else if .unload ∈ calls then some (.unwinding, handle)
    else none
  | .returned _ | .allLoaded => none

/-- The plugins that nobody else has found. -/
def Leaf.owned : Leaf → List KeelPluginHandle
  | .returned result => result.record.toList
  | .discover handle => [handle]
  | .script (.start _) handle _ _ => [handle]
  | .script _ _ _ _ => []
  | .allLoaded => []

/-- What the one who holds the plugin knows of its record. -/
def Hold.Ok (host : Host) (plugin : PluginRecord) : Hold → Prop
  | .discovery =>
    plugin.state = .error ∧ plugin.selectable = false ∧ plugin.cleanupPending = false
  | .starting => plugin.state = .loading ∧ plugin.cleanupPending = false
  | .replacing =>
    plugin.state = .loading ∧ plugin.cleanupPending = false ∧
      plugin.acceptingResources = false ∧ host.commandsEnabled plugin.handle = false
  | .refused =>
    plugin.state = .error ∧ plugin.cleanupPending = false ∧
      plugin.acceptingResources = false ∧ host.commandsEnabled plugin.handle = false
  | .unwinding =>
    (plugin.state = .loading ∨ plugin.state = .error) ∧ plugin.cleanupPending = false ∧
      plugin.acceptingResources = false ∧ host.commandsEnabled plugin.handle = false
  | .stopping =>
    (plugin.state = .loaded ∨ plugin.state = .paused) ∧ plugin.transitioning = true ∧
      plugin.acceptingResources = false ∧ host.commandsEnabled plugin.handle = false
  | .resuming => plugin.state = .loaded ∧ plugin.transitioning = true

namespace Host

/-- The calls of a command, all of them. -/
def kindCalls : Kind → List Call
  | .unload _ wasRunning => unloadCalls wasRunning
  | .pause => pauseCalls
  | .resume => resumeCalls
  | .start _ => startCalls

/-- The calls still to be made are the last ones of the command. -/
def Formed : Leaf → Prop
  | .script kind _ calls _ => calls <:+ kindCalls kind
  | _ => True

/-- The plugin has a dependency that is in quarantine. -/
def countsOnPending (host : Host) (plugin : PluginRecord) : Bool :=
  plugin.dependencies.any fun dependency =>
    (dependencyTarget host.plugins dependency.name).any (·.cleanupPending)

/-- The turn makes a plugin in quarantine active again, or lets one run that counts on such a
plugin. -/
def slips (host : Host) (kind : Kind) (handle : KeelPluginHandle) (answer : Answer)
    (call : Call) : Bool :=
  (host.pluginByHandle handle).any fun plugin =>
    match kind, call with
    | .pause, .deactivate _ | .unload _ _, .deactivate _
    | .unload _ _, .release .publishedServices =>
      plugin.cleanupPending && decide (answer.result ≠ .ok)
    | .pause, .preparePause => plugin.cleanupPending && !answer.agreed
    | .unload _ wasRunning, .prepareUnload => plugin.cleanupPending && wasRunning && !answer.agreed
    | .start true, .load =>
      ((plugin.load && answer.agreed) && (dependenciesReady host.plugins plugin).isNone) &&
        host.countsOnPending plugin
    | _, _ => false

theorem countsOnPending_of {host : Host} {plugin target : PluginRecord}
    {dependency : PluginDependencyRecord} (hmem : dependency ∈ plugin.dependencies)
    (htarget : dependencyTarget host.plugins dependency.name = some target)
    (hpending : target.cleanupPending = true) : host.countsOnPending plugin = true :=
  List.any_eq_true.2 ⟨dependency, hmem, by rw [htarget]; exact hpending⟩

/-- What a section does to quarantine if it does not slip. -/
structure Careful (host after : Host) (handle : KeelPluginHandle) (restores : Bool) : Prop where
  quiet : restores = true → ∀ old, host.pluginByHandle handle = some old →
    old.cleanupPending = true → old.acceptingResources = true
  sound : ∀ old now, host.pluginByHandle handle = some old →
    after.pluginByHandle handle = some now → now.state = .loaded → old.state ≠ .loaded →
      ∀ dependency ∈ old.dependencies, ∀ target,
        dependencyTarget host.plugins dependency.name = some target →
          target.cleanupPending = false

variable {host after : Host} {handle other : KeelPluginHandle} {old now plugin : PluginRecord}

/-- The section does not let the plugin run. -/
def NotLoading (host after : Host) (handle : KeelPluginHandle) : Prop :=
  ∀ old now, host.pluginByHandle handle = some old → after.pluginByHandle handle = some now →
    now.state = .loaded → old.state = .loaded

variable {failed restores ok : Bool} {call : Call} {rest : List Call} {kind : Kind} {slip : Prop}
  {answer : Answer} {write : PluginRecord → PluginRecord}

theorem NotLoading.of_modify (hplugins : after.plugins = (host.modify handle write).plugins)
    (hwrite : ∀ plugin, (write plugin).handle = plugin.handle)
    (hstate : ∀ plugin, (write plugin).state = .loaded → plugin.state = .loaded) :
    NotLoading host after handle := by
  intro old now hold hnow hloaded
  rw [pluginByHandle_congr hplugins, pluginByHandle_modify hwrite, if_pos rfl, hold] at hnow
  cases hnow
  exact hstate old hloaded

theorem Careful.of_notLoading (hnot : NotLoading host after handle)
    (hquiet : restores = true → ∀ old, host.pluginByHandle handle = some old → old.cleanupPending =
      true → old.acceptingResources = true) :
    Careful host after handle restores where
  quiet := hquiet
  sound old now hold hnow hloaded hstate := absurd (hnot old now hold hnow hloaded) hstate

/-! ## The exits -/

theorem restored_flags (host : Host) (handle other : KeelPluginHandle)
    (hother : other ≠ handle ∨ true = false) :
    ((host.restorePluginDispatch handle).commandsEnabled other = true →
      host.commandsEnabled other = true) ∧
    ∀ service, (host.restorePluginDispatch handle).dispatch service other = true →
      host.dispatch service other = true := by
  have hne : other ≠ handle := hother.resolve_right (by simp)
  rw [restorePluginDispatch_eq]
  refine ⟨fun hon => ?_, fun service hon => ?_⟩
  · change set host.commandsEnabled handle true other = true at hon
    rwa [set_ne hne] at hon
  · change (host.dispatch service other ||
      (decide (other = handle) && host.present service && _)) = true at hon
    simpa [hne] using hon

theorem restored_plugins (host : Host) (handle : KeelPluginHandle) :
    (host.restorePluginDispatch handle).plugins = (host.modify handle fun plugin =>
      { plugin with acceptingResources := true, factoryDispatchEnabled := true }).plugins ∧
      SameRest host (host.restorePluginDispatch handle) := by
  rw [restorePluginDispatch_eq]
  exact ⟨rfl, rfl, rfl⟩

section

variable (hok : ∀ plugin, host.pluginByHandle handle = some plugin → Hold.Ok host plugin .stopping)

include hok

theorem restore_change :
    Change host ((host.restorePluginDispatch handle).endTransition handle) handle true ∧
      NotLoading host ((host.restorePluginDispatch handle).endTransition handle) handle := by
  have hplugins := modified_again (fun plugin => { plugin with transitioning := false })
    (restored_plugins host handle).1 fun _ => rfl
  refine ⟨.of_modify hplugins (fun _ => rfl) (restored_plugins host handle).2
    (fun old hold => ?_) (fun other hother => (restored_flags host handle other hother).1)
    (fun other hother => (restored_flags host handle other hother).2),
    .of_modify hplugins (fun _ => rfl) fun _ hloaded => hloaded⟩
  obtain ⟨hstate, htransition, _, _⟩ := hok old hold
  exact ⟨.ended ⟨rfl, rfl, rfl, rfl, rfl, rfl⟩ hstate htransition rfl, .inl rfl,
    fun hnever => absurd hnever (by simp)⟩

theorem restore_source2_change :
    let after := (((host.modify handle fun plugin =>
      { plugin with acceptingResources := true }).setCommandsOwnedEnabled handle
        true).activate .source2Callbacks handle).endTransition handle
    Change host after handle true ∧ NotLoading host after handle := by
  intro after
  have hplugins : after.plugins = (host.modify handle fun plugin =>
      { plugin with acceptingResources := true, transitioning := false }).plugins :=
    modified_again (fun plugin => { plugin with transitioning := false }) rfl fun _ => rfl
  refine ⟨.of_modify hplugins (fun _ => rfl) ⟨rfl, rfl⟩ (fun old hold => ?_)
    (fun other hother hon => ?_) (fun other hother service hon => ?_),
    .of_modify hplugins (fun _ => rfl) fun _ hloaded => hloaded⟩
  · obtain ⟨hstate, htransition, _, _⟩ := hok old hold
    exact ⟨.ended ⟨rfl, rfl, rfl, rfl, rfl, rfl⟩ hstate htransition rfl, .inl rfl,
      fun hnever => absurd hnever (by simp)⟩
  · have hne : other ≠ handle := hother.resolve_right (by simp)
    change set host.commandsEnabled handle true other = true at hon
    rwa [set_ne hne] at hon
  · have hne : other ≠ handle := hother.resolve_right (by simp)
    change (((host.modify handle _).setCommandsOwnedEnabled handle true).activate
      .source2Callbacks handle).dispatch service other = true at hon
    rw [activate_dispatch] at hon
    have hold : (host.dispatch service other || _) = true := hon
    simpa [hne] using hold

end

theorem end_change (hok : ∀ plugin, host.pluginByHandle handle = some plugin →
      (plugin.state = .loaded ∨ plugin.state = .paused) ∧ plugin.transitioning = true) :
    Change host (host.endTransition handle) handle false ∧
      NotLoading host (host.endTransition handle) handle := by
  have hplugins : (host.endTransition handle).plugins = (host.modify handle fun plugin =>
      { plugin with transitioning := false }).plugins := rfl
  refine ⟨.of_modify hplugins (fun _ => rfl) ⟨rfl, rfl⟩ (fun old hold => ?_) (fun _ _ hon => hon)
    (fun _ _ _ hon => hon), .of_modify hplugins (fun _ => rfl) fun _ hloaded => hloaded⟩
  obtain ⟨hstate, htransition⟩ := hok old hold
  exact ⟨.ended ⟨rfl, rfl, rfl, rfl, rfl, rfl⟩ hstate htransition rfl, .inl rfl,
    fun _ hon => hon⟩

theorem quarantine_end_change (diagnostic : Diagnostic)
    (hok : ∀ plugin, host.pluginByHandle handle = some plugin →
      Hold.Ok host plugin .stopping) :
    let after := (host.quarantine handle diagnostic).endTransition handle
    Change host after handle false ∧ NotLoading host after handle := by
  intro after
  have hplugins : after.plugins = (host.modify handle fun plugin =>
      { plugin with
        cleanupPending := true, diagnostic := diagnostic, transitioning := false }).plugins :=
    modified_again (fun plugin => { plugin with transitioning := false }) rfl fun _ => rfl
  refine ⟨.of_modify hplugins (fun _ => rfl) ⟨rfl, rfl⟩ (fun old hold => ?_)
    (fun _ _ hon => hon) (fun _ _ _ hon => hon),
    .of_modify hplugins (fun _ => rfl) fun _ hloaded => hloaded⟩
  obtain ⟨hstate, htransition, haccepting, _⟩ := hok old hold
  refine ⟨.ended ⟨rfl, rfl, rfl, rfl, rfl, rfl⟩ hstate htransition rfl,
    .inr ⟨rfl, haccepting, ?_, fun hserves => ?_⟩, fun _ hon => hon⟩
  · intro hloading
    change old.state = .loading at hloading
    rcases hstate with hstate | hstate
    · rw [hstate] at hloading
      cases hloading
    · rw [hstate] at hloading
      cases hloading
  · rw [hserves.2] at htransition
    cases htransition

theorem finishUnload_plugins (host : Host) (handle : KeelPluginHandle) (disable : Bool) :
    (host.finishUnload handle disable).plugins = (host.removePluginRecord handle).plugins := by
  have hremoved : ∀ write : PluginRecord → PluginRecord,
      (∀ plugin, (write plugin).handle = plugin.handle) →
      ((host.modify handle write).removePluginRecord handle).plugins =
        (host.removePluginRecord handle).plugins := by
    intro write hwrite
    unfold modify removePluginRecord
    simp only
    induction host.plugins with
    | nil => rfl
    | cons plugin plugins ih =>
      simp only [ne_eq, decide_not] at ih ⊢
      by_cases hsame : plugin.handle = handle
      · simp [hsame, hwrite, ih]
      · simp [hsame, ih]
  unfold finishUnload
  cases disable with
  | false => exact hremoved _ fun _ => rfl
  | true => exact hremoved _ fun _ => rfl

theorem finishUnload_change (disable : Bool)
    (hok : ∀ plugin, host.pluginByHandle handle = some plugin →
      Hold.Ok host plugin .stopping) :
    Change host (host.finishUnload handle disable) handle false ∧
      (host.finishUnload handle disable).pluginByHandle handle = none := by
  have hnone : (host.finishUnload handle disable).pluginByHandle handle = none := by
    unfold pluginByHandle
    rw [finishUnload_plugins]
    unfold removePluginRecord
    simp
  refine ⟨.of_remove (finishUnload_plugins host handle disable) ?_ (fun hdisabled => ?_)
    (fun old hold hserves => ?_) (fun other hon => ?_) (fun other service hon => ?_), hnone⟩
  · unfold finishUnload
    cases disable <;> rfl
  · intro plugin hmem
    unfold finishUnload at hmem
    cases disable with
    | false => exact hdisabled plugin hmem
    | true =>
      simp only [if_true, List.mem_insertionSort, List.mem_append, List.mem_map] at hmem
      rcases hmem with hmem | ⟨moved, _, rfl⟩
      · exact hdisabled plugin hmem
      · rfl
  · obtain ⟨_, htransition, _, _⟩ := hok old hold
    rw [hserves.2] at htransition
    cases htransition
  · unfold finishUnload at hon
    cases disable <;> exact hon
  · unfold finishUnload at hon
    cases disable <;> exact hon

/-! ## Unload, pause, resume -/

/-- What a section of a command does, and how it leaves the command. -/
structure Section (host : Host) (kind : Kind) (handle : KeelPluginHandle) (slip : Prop)
    (out : Host × Leaf) : Prop where
  change : ∃ restores, Change host out.1 handle restores ∧
    (¬slip → Careful host out.1 handle restores)
  holds : ∀ hold other, out.2.hold = some (hold, other) → other = handle ∧
    ∀ now, out.1.pluginByHandle handle = some now → hold.Ok out.1 now
  owned : ∀ other ∈ out.2.owned, other = handle ∧ ∃ activate, kind = .start activate
  formed : Formed out.2

theorem Section.script {calls : List Call}
    (hchange : ∃ restores, Change host after handle restores ∧ (¬slip → Careful host after handle
      restores))
    (hformed : calls <:+ kindCalls kind)
    (hholds : ∀ hold other, (Leaf.script kind handle calls failed).hold = some (hold, other) → other
      = handle ∧ ∀ now, after.pluginByHandle handle = some now → hold.Ok after now) :
    Section host kind handle slip (after, .script kind handle calls failed) where
  change := hchange
  holds := hholds
  owned other hmem := by
    cases kind with
    | start activate => exact ⟨by simpa [Leaf.owned] using hmem, activate, rfl⟩
    | unload _ _ => simp [Leaf.owned] at hmem
    | pause => simp [Leaf.owned] at hmem
    | resume => simp [Leaf.owned] at hmem
  formed := hformed

theorem NotLoading.refl (host : Host) (handle : KeelPluginHandle) :
    NotLoading host host handle := by
  intro old now hold hnow hloaded
  rw [hold] at hnow
  cases hnow
  exact hloaded

theorem Section.stop (hchange : Change host after handle restores)
    (hcareful : ¬slip → Careful host after handle restores) :
    Section host kind handle slip (after, .returned (after.scriptResult kind handle ok)) where
  change := ⟨restores, hchange, hcareful⟩
  holds hold other hleaf := by cases hleaf
  owned other hmem := by
    cases kind with
    | start activate =>
      refine ⟨?_, activate, rfl⟩
      cases ok with
      | false => simpa [Leaf.owned, scriptResult] using hmem
      | true =>
        simp only [Leaf.owned, scriptResult, if_true, Option.mem_toList,
          Option.map_eq_some_iff] at hmem
        obtain ⟨plugin, hfound, rfl⟩ := hmem
        exact pluginByHandle_handle hfound
    | unload _ _ => simp [Leaf.owned, scriptResult] at hmem
    | pause => simp [Leaf.owned, scriptResult] at hmem
    | resume => simp [Leaf.owned, scriptResult] at hmem
  formed := trivial

theorem Section.stay :
    Section host kind handle slip (host, .returned (host.scriptResult kind handle ok)) :=
  .stop (.refl host handle) fun _ =>
    .of_notLoading (.refl host handle) fun hnever => absurd hnever (by simp)

theorem settle_eq {turn : Turn}
    (hturn : host.turn kind handle (failed || call.refused answer) answer call = (after, turn)) :
    host.settle kind handle failed answer call rest =
      (after, after.scriptLeaf kind handle rest (failed || call.refused answer) turn) := by
  unfold settle
  simp [hturn]

section

variable (hchange : Change host after handle restores)

include hchange

section

variable (hcareful : ¬slip → Careful host after handle restores)

include hcareful

theorem Section.of_stop
    (hturn : host.turn kind handle (failed || call.refused answer) answer call = (after, .stop ok)) :
    Section host kind handle slip (host.settle kind handle failed answer call rest) := by
  rw [settle_eq hturn]
  exact .stop hchange hcareful

theorem Section.of_next (hformed : rest <:+ kindCalls kind)
    (hholds : ∀ failed hold other, (Leaf.script kind handle rest failed).hold = some (hold, other) →
      other = handle ∧ ∀ now, after.pluginByHandle handle = some now → hold.Ok after now)
    (hturn : host.turn kind handle (failed || call.refused answer) answer call = (after, .next)) :
    Section host kind handle slip (host.settle kind handle failed answer call rest) := by
  rw [settle_eq hturn]
  exact .script ⟨restores, hchange, hcareful⟩ hformed (hholds _)

theorem Section.of_skip {target : Call} (hformed : rest <:+ kindCalls kind)
    (hholds : ∀ failed hold other, (Leaf.script kind handle (rest.dropWhile (· ≠ target))
      failed).hold = some (hold, other) → other = handle ∧ ∀ now, after.pluginByHandle handle = some
      now → hold.Ok after now)
    (hturn : host.turn kind handle (failed || call.refused answer) answer call = (after, .skipTo
      target)) :
    Section host kind handle slip (host.settle kind handle failed answer call rest) := by
  rw [settle_eq hturn]
  exact .script ⟨restores, hchange, hcareful⟩ ((List.dropWhile_suffix _).trans hformed)
    (hholds _)

end

end

theorem Careful.of_restore (hnot : NotLoading host after handle)
    (hslip : ∀ old, host.pluginByHandle handle = some old → old.cleanupPending = true → slip)
    (hno : ¬slip) : Careful host after handle true :=
  .of_notLoading hnot fun _ old hold hpending => absurd (hslip old hold hpending) hno

theorem Careful.of_quiet (hnot : NotLoading host after handle) :
    Careful host after handle false :=
  .of_notLoading hnot fun hnever => absurd hnever (by simp)

/-- Up to its event an unload has the unload callback before it. -/
theorem unload_ahead {wasRunning : Bool} (hformed : call :: rest <:+ unloadCalls wasRunning)
    (hcall : call ≠ .publish .unloaded) : .unload ∈ call :: rest := by
  have hall : ∀ calls ∈ (unloadCalls wasRunning).tails,
      calls.head?.all (· = .publish .unloaded) = true ∨ Call.unload ∈ calls := by
    cases wasRunning <;> decide
  exact (hall _ ((List.mem_tails _ _).2 hformed)).resolve_left (by simpa using hcall)

section Unload

variable {disable wasRunning failed : Bool} {answer : Answer} {rest : List Call}

theorem unload_quarantines {service : Service} (diagnostic : Diagnostic)
    (hok : ∀ plugin, host.pluginByHandle handle = some plugin → Hold.Ok host plugin .stopping)
    (hturn : ∀ failed, host.turn (.unload disable wasRunning) handle failed answer
      (.release service) = ((host.quarantine handle diagnostic).endTransition handle,
        .stop false)) :
    Section host (.unload disable wasRunning) handle
      (host.slips (.unload disable wasRunning) handle answer (.release service))
      (host.settle (.unload disable wasRunning) handle failed answer (.release service) rest) :=
  .of_stop (quarantine_end_change diagnostic hok).1
    (fun _ => .of_quiet (quarantine_end_change diagnostic hok).2) (hturn _)

theorem settle_unload {call : Call} (hformed : call :: rest <:+ unloadCalls wasRunning)
    (hok : .unload ∈ call :: rest → ∀ plugin, host.pluginByHandle handle = some plugin →
      Hold.Ok host plugin .stopping) :
    Section host (.unload disable wasRunning) handle
      (host.slips (.unload disable wasRunning) handle answer call)
      (host.settle (.unload disable wasRunning) handle failed answer call rest) := by
  have hrest : rest <:+ kindCalls (.unload disable wasRunning) :=
    (List.suffix_cons call rest).trans hformed
  have hnext : (∀ failed, host.turn (.unload disable wasRunning) handle failed answer call =
      (host, .next)) → Section host (.unload disable wasRunning) handle
        (host.slips (.unload disable wasRunning) handle answer call)
        (host.settle (.unload disable wasRunning) handle failed answer call rest) := by
    intro hturn
    refine .of_next (.refl host handle) (fun _ => .of_quiet (.refl host handle)) hrest
      (fun failed hold other hleaf => ?_) (hturn _)
    by_cases hmem : Call.unload ∈ rest
    · simp only [Leaf.hold, if_pos hmem] at hleaf
      cases hleaf
      exact ⟨rfl, hok (List.mem_cons_of_mem call hmem)⟩
    · simp only [Leaf.hold, if_neg hmem] at hleaf
      cases hleaf
  cases call with
  | deactivate service =>
    have hheld := hok (unload_ahead hformed (by simp))
    by_cases hresult : answer.result = .ok
    · refine hnext fun failed => ?_
      cases service <;> simp [turn, unloadTurn, hresult]
    · have hslip : ∀ old, host.pluginByHandle handle = some old → old.cleanupPending = true →
          host.slips (.unload disable wasRunning) handle answer (.deactivate service) :=
        fun old hold hpending => by simp [slips, hold, hpending, hresult]
      by_cases hsource2 : service = .source2Callbacks
      · subst hsource2
        obtain ⟨hchange, hnot⟩ := restore_source2_change hheld
        exact .of_stop hchange (fun hno => .of_restore hnot hslip hno) (if_pos hresult)
      · obtain ⟨hchange, hnot⟩ := restore_change hheld
        cases service <;> first
          | exact absurd rfl hsource2
          | exact .of_stop hchange (fun hno => .of_restore hnot hslip hno) (if_pos hresult)
  | prepareUnload =>
    have hheld := hok (unload_ahead hformed (by simp))
    cases hagreed : answer.agreed with
    | true => exact hnext fun failed => by simp [turn, unloadTurn, hagreed]
    | false =>
      cases wasRunning with
      | true =>
        obtain ⟨hchange, hnot⟩ := restore_change hheld
        refine .of_stop hchange (fun hno => .of_restore hnot (fun old hold hpending => ?_) hno)
          (if_pos (by simp [hagreed]))
        simp [slips, hold, hpending, hagreed]
      | false =>
        obtain ⟨hchange, hnot⟩ := end_change fun plugin hplugin =>
          ⟨(hheld plugin hplugin).1, (hheld plugin hplugin).2.1⟩
        exact .of_stop hchange (fun _ => .of_quiet hnot) (if_pos (by simp [hagreed]))
  | release service =>
    have hheld := hok (unload_ahead hformed (by simp))
    by_cases hresult : answer.result = .ok
    · by_cases hfactories : service = .factories
      · subst hfactories
        have hoff : ∀ other, (host.removeCommandsOwnedBy handle).commandsEnabled other = true →
            host.commandsEnabled other = true := by
          intro other hon
          change set host.commandsEnabled handle false other = true at hon
          by_cases hother : other = handle
          · rw [hother, set_self] at hon
            cases hon
          · rwa [set_ne hother] at hon
        have hchange : Change host (host.removeCommandsOwnedBy handle) handle false :=
          .of_same rfl ⟨rfl, rfl⟩ (fun other _ => hoff other) fun _ _ _ hon => hon
        refine .of_next hchange (fun _ => .of_quiet (NotLoading.refl host handle)) hrest
          (fun failed hold other hleaf => ?_) (if_neg (not_not.2 hresult))
        by_cases hmem : Call.unload ∈ rest
        · simp only [Leaf.hold, if_pos hmem] at hleaf
          cases hleaf
          refine ⟨rfl, fun now hnow => ?_⟩
          obtain ⟨hstate, htransition, haccepting, _⟩ := hheld now hnow
          refine ⟨hstate, htransition, haccepting, ?_⟩
          rw [pluginByHandle_handle hnow]
          exact set_self _ _ _
        · simp only [Leaf.hold, if_neg hmem] at hleaf
          cases hleaf
      · refine hnext fun failed => ?_
        cases service <;> first
          | exact absurd rfl hfactories
          | simp [turn, unloadTurn, hresult]
    · cases service with
      | publishedServices =>
        obtain ⟨hchange, hnot⟩ := restore_change hheld
        refine .of_stop hchange (fun hno => .of_restore hnot (fun old hold hpending => ?_) hno)
          (if_pos hresult)
        simp [slips, hold, hpending, hresult]
      | keelhook =>
        by_cases hguard : answer.result = .busy ∧
            ((host.pluginByHandle handle).all fun plugin => !plugin.cleanupPending) = true ∧
              wasRunning = true
        · obtain ⟨hchange, hnot⟩ := restore_change hheld
          refine .of_stop hchange (fun hno => .of_notLoading hnot fun _ old hold hpending => ?_)
            ((if_pos hresult).trans (if_pos hguard))
          rw [hold] at hguard
          simp [hpending] at hguard
        · exact unload_quarantines .keelHookIncomplete hheld fun _ =>
            (if_pos hresult).trans (if_neg hguard)
      | lifecycle =>
        exact unload_quarantines .lifecycleIncomplete hheld fun _ => if_pos hresult
      | source2Callbacks =>
        exact unload_quarantines .source2Incomplete hheld fun _ => if_pos hresult
      | convars =>
        exact unload_quarantines .conVarIncomplete hheld fun _ => if_pos hresult
      | schemaEntities =>
        exact unload_quarantines .schemaIncomplete hheld fun _ => if_pos hresult
      | pluginService =>
        exact unload_quarantines .pluginEventIncomplete hheld fun _ => if_pos hresult
      | factories =>
        exact unload_quarantines .factoryIncomplete hheld fun _ => if_pos hresult
  | unload =>
    obtain ⟨hchange, hnone⟩ := finishUnload_change disable (hok (by simp))
    refine .of_next hchange (fun _ => .of_quiet fun old now _ hnow => ?_) hrest
      (fun failed hold other hleaf => ?_) rfl
    · rw [hnone] at hnow
      cases hnow
    · by_cases hmem : Call.unload ∈ rest
      · simp only [Leaf.hold, if_pos hmem] at hleaf
        cases hleaf
        refine ⟨rfl, fun now hnow => ?_⟩
        rw [hnone] at hnow
        cases hnow
      · simp only [Leaf.hold, if_neg hmem] at hleaf
        cases hleaf
  | publish event => exact .stay
  | preparePause => exact hnext fun _ => rfl
  | load => exact hnext fun _ => rfl

end Unload

theorem settle_pause (hformed : call :: rest <:+ pauseCalls)
    (hok : ∀ plugin, host.pluginByHandle handle = some plugin → Hold.Ok host plugin .stopping) :
    Section host .pause handle (host.slips .pause handle answer call)
      (host.settle .pause handle failed answer call rest) := by
  have hrest : rest <:+ kindCalls .pause := (List.suffix_cons call rest).trans hformed
  have hnext : (∀ failed, host.turn .pause handle failed answer call = (host, .next)) →
      Section host .pause handle (host.slips .pause handle answer call)
        (host.settle .pause handle failed answer call rest) := by
    intro hturn
    refine .of_next (.refl host handle) (fun _ => .of_quiet (.refl host handle)) hrest
      (fun failed hold other hleaf => ?_) (hturn _)
    cases hleaf
    exact ⟨rfl, hok⟩
  cases call with
  | deactivate service =>
    by_cases hresult : answer.result = .ok
    · exact hnext fun _ => if_neg (not_not.2 hresult)
    · obtain ⟨hchange, hnot⟩ := restore_change hok
      refine .of_stop hchange (fun hno => .of_restore hnot (fun old hold hpending => ?_) hno)
        (if_pos hresult)
      simp [slips, hold, hpending, hresult]
  | preparePause =>
    cases hagreed : answer.agreed with
    | false =>
      obtain ⟨hchange, hnot⟩ := restore_change hok
      refine .of_stop hchange (fun hno => .of_restore hnot (fun old hold hpending => ?_) hno)
        (if_pos (by simp [hagreed]))
      simp [slips, hold, hpending, hagreed]
    | true =>
      have hplugins : (host.modify handle fun plugin => { plugin with state := .paused }).plugins =
          (host.modify handle fun plugin => { plugin with state := .paused }).plugins := rfl
      have hchange : Change host (host.modify handle fun plugin =>
          { plugin with state := .paused }) handle false := by
        refine .of_modify hplugins (fun _ => rfl) ⟨rfl, rfl⟩ (fun old hold => ?_)
          (fun _ _ hon => hon)
          fun _ _ _ hon => hon
        obtain ⟨hstate, htransition, _, _⟩ := hok old hold
        exact ⟨.paused ⟨rfl, rfl, rfl, rfl, rfl, rfl⟩ hstate htransition rfl, .inl rfl,
          fun _ hon => hon⟩
      refine .of_next hchange
        (fun _ => .of_quiet (.of_modify hplugins (fun _ => rfl) fun _ hloaded => ?_)) hrest
        (fun failed hold other hleaf => ?_) (if_neg (by simp [hagreed]))
      · cases hloaded
      · cases hleaf
        refine ⟨rfl, fun now hnow => ?_⟩
        rw [pluginByHandle_modify, if_pos rfl] at hnow
        · obtain ⟨old, hold, rfl⟩ := Option.map_eq_some_iff.1 hnow
          obtain ⟨_, htransition, haccepting, hcommands⟩ := hok old hold
          exact ⟨.inr rfl, htransition, haccepting, hcommands⟩
        · intro plugin
          rfl
  | publish event =>
    obtain ⟨hchange, hnot⟩ := end_change fun plugin hplugin =>
      ⟨(hok plugin hplugin).1, (hok plugin hplugin).2.1⟩
    exact .of_stop hchange (fun _ => .of_quiet hnot) rfl
  | release service => exact hnext fun _ => rfl
  | prepareUnload => exact hnext fun _ => rfl
  | load => exact hnext fun _ => rfl
  | unload => exact hnext fun _ => rfl

theorem settle_resume (hformed : call :: rest <:+ resumeCalls)
    (hok : ∀ plugin, host.pluginByHandle handle = some plugin → Hold.Ok host plugin .resuming) :
    Section host .resume handle (host.slips .resume handle answer call)
      (host.settle .resume handle failed answer call rest) := by
  have hcall : call = .publish .resumed := by
    have hmem := hformed.subset (List.mem_cons_self (a := call) (l := rest))
    simpa [resumeCalls] using hmem
  subst hcall
  obtain ⟨hchange, hnot⟩ := end_change fun plugin hplugin =>
    ⟨.inl (hok plugin hplugin).1, (hok plugin hplugin).2⟩
  exact .of_stop hchange (fun _ => .of_quiet hnot) rfl

/-! ## Start -/

theorem start_rest (hformed : call :: rest <:+ startCalls) :
    rest = startCalls.drop (startCalls.idxOf call + 1) := by
  have hall : ∀ calls ∈ startCalls.tails, ∀ call ∈ calls.head?,
      calls.tail = startCalls.drop (startCalls.idxOf call + 1) := by decide
  exact hall _ ((List.mem_tails _ _).2 hformed) call rfl

theorem silence_change (host : Host) (handle : KeelPluginHandle)
    (hmanifest : ∀ plugin, SameManifest plugin (write plugin))
    (hstate : ∀ plugin, (write plugin).state = plugin.state)
    (htransition : ∀ plugin, (write plugin).transitioning = plugin.transitioning)
    (hpending : ∀ plugin, (write plugin).cleanupPending = plugin.cleanupPending) :
    let after := (host.modify handle write).silence handle
    Change host after handle false ∧ NotLoading host after handle ∧
      ∀ now, after.pluginByHandle handle = some now → ∃ old,
        host.pluginByHandle handle = some old ∧ now.state = old.state ∧
          now.cleanupPending = old.cleanupPending ∧ now.acceptingResources = false ∧
          after.commandsEnabled now.handle = false := by
  intro after
  have hplugins : after.plugins = (host.modify handle fun plugin =>
      { write plugin with acceptingResources := false }).plugins :=
    modified_again (fun plugin => { plugin with acceptingResources := false }) rfl
      fun plugin => (hmanifest plugin).handle
  have hwrite : ∀ plugin, ({ write plugin with acceptingResources := false } :
      PluginRecord).handle = plugin.handle := fun plugin => (hmanifest plugin).handle
  have hoff : ∀ other, after.commandsEnabled other = true → host.commandsEnabled other = true := by
    intro other hon
    change set host.commandsEnabled handle false other = true at hon
    by_cases hother : other = handle
    · rw [hother, set_self] at hon
      cases hon
    · rwa [set_ne hother] at hon
  refine ⟨.of_modify hplugins hwrite ⟨rfl, rfl⟩ (fun old hold => ?_) (fun other _ => hoff other)
    fun _ _ _ hon => hon, .of_modify hplugins hwrite fun plugin hloaded => ?_, fun now hnow => ?_⟩
  · obtain ⟨hhandle, hfilename, hname, hversion, hdependencies, hselectable⟩ := hmanifest old
    refine ⟨.kept ⟨hhandle, hfilename, hname, hversion, hdependencies, hselectable⟩ (hstate old)
      (htransition old), .inl (hpending old), fun _ hon => ?_⟩
    cases hon
  · exact (hstate plugin).symm.trans hloaded
  · have hself := pluginByHandle_handle hnow
    rw [pluginByHandle_congr hplugins, pluginByHandle_modify hwrite, if_pos rfl] at hnow
    obtain ⟨old, hold, rfl⟩ := Option.map_eq_some_iff.1 hnow
    refine ⟨old, hold, hstate old, hpending old, rfl, ?_⟩
    rw [hself]
    exact set_self _ _ _

theorem settleStart_change (activate : Bool)
    (hmanifest : ∀ plugin, SameManifest plugin (write plugin))
    (htransition : ∀ plugin, (write plugin).transitioning = plugin.transitioning)
    (hpending : ∀ plugin, (write plugin).cleanupPending = plugin.cleanupPending)
    (hok : ∀ plugin, host.pluginByHandle handle = some plugin → plugin.state = .loading ∧ (activate
      = true → dependenciesReady host.plugins plugin = none)) :
    Change host ((host.modify handle write).settleStart handle activate) handle activate := by
  have hhandle : ∀ plugin, (write plugin).handle = plugin.handle := fun plugin =>
    (hmanifest plugin).handle
  cases activate with
  | false =>
    have hplugins : ((host.modify handle write).settleStart handle false).plugins =
        (host.modify handle fun plugin => { write plugin with
          state := .paused, acceptingResources := false
          factoryDispatchEnabled := false }).plugins :=
      modified_again (fun plugin => { plugin with
        state := .paused, acceptingResources := false, factoryDispatchEnabled := false }) rfl
        hhandle
    refine .of_modify hplugins hhandle ⟨rfl, rfl⟩ (fun old hold => ?_) (fun _ _ hon => hon)
      fun _ _ _ hon => hon
    obtain ⟨hself, hfilename, hname, hversion, hdependencies, hselectable⟩ := hmanifest old
    refine ⟨.settled ⟨hself, hfilename, hname, hversion, hdependencies, hselectable⟩
      (hok old hold).1 (.inl rfl) (htransition old), .inl (hpending old), fun _ hon => ?_⟩
    cases hon
  | true =>
    have hmiddle : ((host.modify handle write).modify handle fun plugin => { plugin with
        state := .loaded, acceptingResources := true, factoryDispatchEnabled := true }).plugins =
        (host.modify handle fun plugin => { write plugin with
          state := .loaded, acceptingResources := true
          factoryDispatchEnabled := true }).plugins :=
      modified_again (fun plugin => { plugin with
        state := .loaded, acceptingResources := true, factoryDispatchEnabled := true }) rfl
        hhandle
    have hplugins : ((host.modify handle write).settleStart handle true).plugins =
        (host.modify handle fun plugin => { write plugin with
          state := .loaded, acceptingResources := true
          factoryDispatchEnabled := true }).plugins := by
      have hagain := modified_again (fun plugin => { plugin with
        acceptingResources := true, factoryDispatchEnabled := true }) hmiddle hhandle
      exact (restored_plugins _ handle).1.trans hagain
    have hflags := restored_flags ((host.modify handle write).modify handle fun plugin =>
      { plugin with
        state := .loaded, acceptingResources := true, factoryDispatchEnabled := true }) handle
    refine .of_modify hplugins hhandle (restored_plugins _ handle).2 (fun old hold => ?_)
      (fun other hother => (hflags other hother).1) fun other hother => (hflags other hother).2
    obtain ⟨hself, hfilename, hname, hversion, hdependencies, hselectable⟩ := hmanifest old
    obtain ⟨hstate, hready⟩ := hok old hold
    exact ⟨.settled ⟨hself, hfilename, hname, hversion, hdependencies, hselectable⟩
      hstate (.inr ⟨rfl, hready rfl⟩) (htransition old), .inl (hpending old),
      fun hnever => absurd hnever (by simp)⟩

theorem start_hold {activate : Bool} {calls : List Call} {hold : Hold}
    (hleaf : (Leaf.script (.start activate) handle calls failed).hold = some (hold, other)) :
    other = handle ∧
      (hold = .starting ∧ .load ∈ calls ∨
        hold = .replacing ∧ .load ∉ calls ∧ .preparePause ∈ calls ∨
        hold = .refused ∧ .load ∉ calls ∧ .preparePause ∉ calls ∧ .prepareUnload ∈ calls ∨
        hold = .unwinding ∧ .load ∉ calls ∧ .preparePause ∉ calls ∧ .prepareUnload ∉ calls ∧
          .unload ∈ calls) := by
  unfold Leaf.hold at hleaf
  by_cases hload : Call.load ∈ calls
  · simp only [if_pos hload] at hleaf
    cases hleaf
    exact ⟨rfl, .inl ⟨rfl, hload⟩⟩
  by_cases hpause : Call.preparePause ∈ calls
  · simp only [if_neg hload, if_pos hpause] at hleaf
    cases hleaf
    exact ⟨rfl, .inr (.inl ⟨rfl, hload, hpause⟩)⟩
  by_cases hprepare : Call.prepareUnload ∈ calls
  · simp only [if_neg hload, if_neg hpause, if_pos hprepare] at hleaf
    cases hleaf
    exact ⟨rfl, .inr (.inr (.inl ⟨rfl, hload, hpause, hprepare⟩))⟩
  by_cases hunload : Call.unload ∈ calls
  · simp only [if_neg hload, if_neg hpause, if_neg hprepare, if_pos hunload] at hleaf
    cases hleaf
    exact ⟨rfl, .inr (.inr (.inr ⟨rfl, hload, hpause, hprepare, hunload⟩))⟩
  · simp only [if_neg hload, if_neg hpause, if_neg hprepare, if_neg hunload] at hleaf
    cases hleaf

section Start

variable {activate failed : Bool} {answer : Answer} {rest : List Call}

theorem settle_load (hformed : .load :: rest <:+ startCalls)
    (hok : ∀ plugin, host.pluginByHandle handle = some plugin →
      Hold.Ok host plugin .starting) :
    Section host (.start activate) handle (host.slips (.start activate) handle answer .load)
      (host.settle (.start activate) handle failed answer .load rest) := by
  have hsuffix : rest <:+ kindCalls (.start activate) :=
    (List.suffix_cons .load rest).trans hformed
  have hrest : rest = startCalls.drop 1 := start_rest hformed
  cases hplugin : host.pluginByHandle handle with
  | none =>
    have hturn : ∀ failed, host.turn (.start activate) handle failed answer .load =
        (host, .stop false) := by
      intro failed
      simp [turn, startTurn, hplugin]
    exact .of_stop (.refl host handle) (fun _ => .of_quiet (.refl host handle)) (hturn _)
  | some plugin =>
    obtain ⟨hstate, hpending⟩ := hok plugin hplugin
    -- the first write under the lock, whatever comes next
    obtain ⟨write, hmanifest, hsame, htransition, hkeeps, hturn⟩ :
        ∃ write : PluginRecord → PluginRecord, (∀ plugin, SameManifest plugin (write plugin)) ∧
          (∀ plugin, (write plugin).state = plugin.state) ∧
          (∀ plugin, (write plugin).transitioning = plugin.transitioning) ∧
          (∀ plugin, (write plugin).cleanupPending = plugin.cleanupPending) ∧
          ∀ failed, host.turn (.start activate) handle failed answer .load =
            if (plugin.load && answer.agreed) &&
                (dependenciesReady host.plugins plugin).isNone then
              if activate then ((host.modify handle write).settleStart handle true,
                .skipTo (.publish .loaded))
              else ((host.modify handle write).silence handle, .next)
            else ((host.modify handle write).silence handle, .skipTo (.release .factories)) := by
      refine ⟨fun record => { record with
        loading := false
        diagnostic :=
          if plugin.load && answer.agreed then
            (dependenciesReady host.plugins plugin).elim record.diagnostic .changedDuringLoad
          else if answer.threw then .threwDuringLoad else record.diagnostic },
        fun _ => ⟨rfl, rfl, rfl, rfl, rfl, rfl⟩, fun _ => rfl, fun _ => rfl, fun _ => rfl,
        fun failed => ?_⟩
      simp [turn, startTurn, hplugin]
    by_cases hloaded : ((plugin.load && answer.agreed) &&
        (dependenciesReady host.plugins plugin).isNone) = true
    · have hready : dependenciesReady host.plugins plugin = none := by
        simp only [Bool.and_eq_true, Option.isNone_iff_eq_none] at hloaded
        exact hloaded.2
      cases activate with
      | true =>
        have hchange := settleStart_change true hmanifest htransition hkeeps
          fun other hother => by
            rw [hplugin] at hother
            cases hother
            exact ⟨hstate, fun _ => hready⟩
        refine .of_skip hchange (fun hno => ⟨fun _ old hold hquarantined => ?_, ?_⟩) hsuffix
          (fun failed hold other hleaf => ?_) ((hturn _).trans (if_pos hloaded))
        · rw [hplugin] at hold
          cases hold
          rw [hpending] at hquarantined
          cases hquarantined
        · intro old now hold hnow _ _ dependency hmem target htarget
          rw [hplugin] at hold
          cases hold
          by_contra hquarantined
          rw [Bool.not_eq_false] at hquarantined
          refine hno ?_
          have hcounts := countsOnPending_of hmem htarget hquarantined
          simp [slips, hplugin, hloaded, hcounts]
        · obtain ⟨rfl, hcases⟩ := start_hold hleaf
          rw [hrest] at hcases
          simp [startCalls] at hcases
      | false =>
        obtain ⟨hchange, hnot, hnow⟩ := silence_change host handle hmanifest hsame
          htransition hkeeps
        refine .of_next hchange (fun _ => .of_quiet hnot) hsuffix
          (fun failed hold other hleaf => ?_)
          ((hturn _).trans (if_pos hloaded))
        obtain ⟨rfl, hcases⟩ := start_hold hleaf
        rw [hrest] at hcases
        simp [startCalls] at hcases
        subst hcases
        refine ⟨rfl, fun now hafter => ?_⟩
        obtain ⟨old, hold, hoff⟩ := hnow now hafter
        rw [hplugin] at hold
        cases hold
        exact ⟨hoff.1.trans hstate, hoff.2.1.trans hpending, hoff.2.2⟩
    · obtain ⟨hchange, hnot, hnow⟩ := silence_change host handle hmanifest hsame
        htransition hkeeps
      refine .of_skip hchange (fun _ => .of_quiet hnot) hsuffix (fun failed hold other hleaf => ?_)
        ((hturn _).trans (if_neg hloaded))
      obtain ⟨rfl, hcases⟩ := start_hold hleaf
      rw [hrest] at hcases
      simp [startCalls] at hcases
      subst hcases
      refine ⟨rfl, fun now hafter => ?_⟩
      obtain ⟨old, hold, hoff⟩ := hnow now hafter
      rw [hplugin] at hold
      cases hold
      exact ⟨.inl (hoff.1.trans hstate), hoff.2.1.trans hpending, hoff.2.2⟩

theorem settle_replacing (hformed : .preparePause :: rest <:+ startCalls)
    (hok : ∀ plugin, host.pluginByHandle handle = some plugin →
      Hold.Ok host plugin .replacing) :
    Section host (.start activate) handle
      (host.slips (.start activate) handle answer .preparePause)
      (host.settle (.start activate) handle failed answer .preparePause rest) := by
  have hsuffix : rest <:+ kindCalls (.start activate) :=
    (List.suffix_cons .preparePause rest).trans hformed
  have hrest : rest = startCalls.drop 2 := start_rest hformed
  cases hagreed : answer.agreed with
  | true =>
    have hchange : Change host (host.settleStart handle false) handle false := by
      have hplugins : (host.settleStart handle false).plugins = (host.modify handle fun plugin =>
          { plugin with
            state := .paused, acceptingResources := false
            factoryDispatchEnabled := false }).plugins := rfl
      refine .of_modify hplugins (fun _ => rfl) ⟨rfl, rfl⟩ (fun old hold => ?_) (fun _ _ hon => hon)
        fun _ _ _ hon => hon
      refine ⟨.settled ⟨rfl, rfl, rfl, rfl, rfl, rfl⟩ (hok old hold).1 (.inl rfl) rfl, .inl rfl,
        fun _ hon => ?_⟩
      cases hon
    refine .of_skip hchange (fun _ => .of_quiet (.of_modify rfl (fun _ => rfl) fun _ hloaded => ?_))
      hsuffix (fun failed hold other hleaf => ?_) (if_pos hagreed)
    · cases hloaded
    · obtain ⟨rfl, hcases⟩ := start_hold hleaf
      rw [hrest] at hcases
      simp [startCalls] at hcases
  | false =>
    have hchange : Change host (host.modify handle fun plugin =>
        { plugin with state := .error, diagnostic := .refusedPausedReplacement }) handle false := by
      refine .of_modify rfl (fun _ => rfl) ⟨rfl, rfl⟩ (fun old hold => ?_) (fun _ _ hon => hon)
        fun _ _ _ hon => hon
      exact ⟨.failed ⟨rfl, rfl, rfl, rfl, rfl, rfl⟩ (.inl (hok old hold).1) rfl, .inl rfl,
        fun _ hon => hon⟩
    refine .of_next hchange (fun _ => .of_quiet (.of_modify rfl (fun _ => rfl) fun _ hloaded => ?_))
      hsuffix (fun failed hold other hleaf => ?_) (if_neg (by simp [hagreed]))
    · cases hloaded
    · obtain ⟨rfl, hcases⟩ := start_hold hleaf
      rw [hrest] at hcases
      simp [startCalls] at hcases
      subst hcases
      refine ⟨rfl, fun now hnow => ?_⟩
      rw [pluginByHandle_modify, if_pos rfl] at hnow
      · obtain ⟨old, hold, rfl⟩ := Option.map_eq_some_iff.1 hnow
        obtain ⟨_, hpending, haccepting, hcommands⟩ := hok old hold
        exact ⟨rfl, hpending, haccepting, hcommands⟩
      · intro plugin
        rfl

theorem settle_refused (hformed : .prepareUnload :: rest <:+ startCalls)
    (hok : ∀ plugin, host.pluginByHandle handle = some plugin →
      Hold.Ok host plugin .refused) :
    Section host (.start activate) handle
      (host.slips (.start activate) handle answer .prepareUnload)
      (host.settle (.start activate) handle failed answer .prepareUnload rest) := by
  have hsuffix : rest <:+ kindCalls (.start activate) :=
    (List.suffix_cons .prepareUnload rest).trans hformed
  have hrest : rest = startCalls.drop 3 := start_rest hformed
  cases hagreed : answer.agreed with
  | true =>
    have hsilent : (host.modify handle id).silence handle = host.silence handle := by
      unfold modify
      simp
    obtain ⟨hchange, hnot, hnow⟩ := silence_change host handle
      (fun plugin => (⟨rfl, rfl, rfl, rfl, rfl, rfl⟩ : SameManifest plugin (id plugin)))
      (fun _ => rfl) (fun _ => rfl) fun _ => rfl
    rw [hsilent] at hchange hnot hnow
    refine .of_next hchange (fun _ => .of_quiet hnot) hsuffix (fun failed hold other hleaf => ?_)
      (if_pos hagreed)
    obtain ⟨rfl, hcases⟩ := start_hold hleaf
    rw [hrest] at hcases
    simp [startCalls] at hcases
    subst hcases
    refine ⟨rfl, fun now hafter => ?_⟩
    obtain ⟨old, hold, hoff⟩ := hnow now hafter
    obtain ⟨hstate, hpending, _, _⟩ := hok old hold
    exact ⟨.inr (hoff.1.trans hstate), hoff.2.1.trans hpending, hoff.2.2⟩
  | false =>
    have hplugins : (host.quarantine handle .pausedReplacementRetained).plugins =
        (host.modify handle fun plugin => { plugin with
          cleanupPending := true, diagnostic := .pausedReplacementRetained }).plugins := rfl
    have hchange : Change host (host.quarantine handle .pausedReplacementRetained) handle
        false := by
      refine .of_modify hplugins (fun _ => rfl) ⟨rfl, rfl⟩ (fun old hold => ?_) (fun _ _ hon => hon)
        fun _ _ _ hon => hon
      obtain ⟨hstate, _, haccepting, _⟩ := hok old hold
      refine ⟨.kept ⟨rfl, rfl, rfl, rfl, rfl, rfl⟩ rfl rfl, .inr ⟨rfl, haccepting,
        fun hloading => ?_, fun hserves => ?_⟩, fun _ hon => hon⟩
      · exact absurd (hstate.symm.trans hloading) (by decide)
      · exact absurd (hstate.symm.trans hserves.1) (by decide)
    exact .of_stop hchange
      (fun _ => .of_quiet (.of_modify hplugins (fun _ => rfl) fun _ hloaded => hloaded))
      (if_neg (by simp [hagreed]))

theorem settle_released (hformed : .release .keelhook :: rest <:+ startCalls)
    (hok : ∀ plugin, host.pluginByHandle handle = some plugin →
      Hold.Ok host plugin .unwinding) :
    Section host (.start activate) handle
      (host.slips (.start activate) handle answer (.release .keelhook))
      (host.settle (.start activate) handle failed answer (.release .keelhook) rest) := by
  have hsuffix : rest <:+ kindCalls (.start activate) :=
    (List.suffix_cons (.release .keelhook) rest).trans hformed
  have hrest : rest = startCalls.drop 11 := start_rest hformed
  have hoff : ∀ other, (host.removeCommandsOwnedBy handle).commandsEnabled other = true →
      host.commandsEnabled other = true := by
    intro other hon
    change set host.commandsEnabled handle false other = true at hon
    by_cases hother : other = handle
    · rw [hother, set_self] at hon
      cases hon
    · rwa [set_ne hother] at hon
  have hplugins : ((host.removeCommandsOwnedBy handle).modify handle fun plugin =>
      { plugin with state := .error }).plugins =
      (host.modify handle fun plugin => { plugin with state := .error }).plugins := rfl
  by_cases hfailed : ((failed || (Call.release Service.keelhook).refused answer) ||
      decide (answer.result ≠ .ok)) = true
  · have hagain := modified_again (fun plugin => { plugin with
      cleanupPending := true, diagnostic := .rollbackFailed }) hplugins fun _ => rfl
    have hchange : Change host (((host.removeCommandsOwnedBy handle).modify handle fun plugin =>
        { plugin with state := .error }).quarantine handle .rollbackFailed) handle false := by
      refine .of_modify hagain (fun _ => rfl) ⟨rfl, rfl⟩ (fun old hold => ?_)
        (fun other _ => hoff other)
        fun _ _ _ hon => hon
      obtain ⟨hstate, _, haccepting, _⟩ := hok old hold
      refine ⟨.failed ⟨rfl, rfl, rfl, rfl, rfl, rfl⟩ hstate rfl, .inr ⟨rfl, haccepting,
        fun hloading => ?_, fun hserves => ?_⟩, fun _ hon => hon⟩
      · cases hloading
      · rw [hserves.1] at hstate
        simp at hstate
    exact .of_stop hchange
      (fun _ => .of_quiet (.of_modify hagain (fun _ => rfl) fun _ hloaded => by cases hloaded))
      (if_pos hfailed)
  · have hchange : Change host ((host.removeCommandsOwnedBy handle).modify handle fun plugin =>
        { plugin with state := .error }) handle false := by
      refine .of_modify hplugins (fun _ => rfl) ⟨rfl, rfl⟩ (fun old hold => ?_)
        (fun other _ => hoff other) fun _ _ _ hon => hon
      exact ⟨.failed ⟨rfl, rfl, rfl, rfl, rfl, rfl⟩ (hok old hold).1 rfl, .inl rfl,
        fun _ hon => hon⟩
    refine .of_next hchange
      (fun _ => .of_quiet (.of_modify hplugins (fun _ => rfl) fun _ hloaded => by cases hloaded))
      hsuffix (fun failed hold other hleaf => ?_) (if_neg hfailed)
    obtain ⟨rfl, hcases⟩ := start_hold hleaf
    rw [hrest] at hcases
    simp [startCalls] at hcases
    subst hcases
    refine ⟨rfl, fun now hnow => ?_⟩
    have hself := pluginByHandle_handle hnow
    rw [pluginByHandle_congr hplugins, pluginByHandle_modify, if_pos rfl] at hnow
    · obtain ⟨old, hold, rfl⟩ := Option.map_eq_some_iff.1 hnow
      obtain ⟨_, hpending, haccepting, _⟩ := hok old hold
      refine ⟨.inr rfl, hpending, haccepting, ?_⟩
      rw [hself]
      exact set_self _ _ _
    · intro plugin
      rfl

/-- Behind the unload callback of a plugin that did not load. -/
theorem settle_unloaded :
    Section host (.start activate) handle (host.slips (.start activate) handle answer .unload)
      (host.settle (.start activate) handle failed answer .unload rest) := by
  obtain ⟨write, hturn, hmanifest⟩ : ∃ write : PluginRecord → PluginRecord,
      (∀ failed, host.turn (.start activate) handle failed answer .unload =
        ({ host.modify handle write with
          loadOrder := host.loadOrder.filter (· ≠ handle) }, .stop false)) ∧
      ∀ plugin, SameManifest plugin (write plugin) ∧ (write plugin).state = plugin.state ∧
        (write plugin).transitioning = plugin.transitioning ∧
        (write plugin).cleanupPending = plugin.cleanupPending ∧
        (write plugin).acceptingResources = plugin.acceptingResources :=
    ⟨_, fun _ => rfl, fun _ => ⟨⟨rfl, rfl, rfl, rfl, rfl, rfl⟩, rfl, rfl, rfl, rfl⟩⟩
  have hwrite : ∀ plugin, (write plugin).handle = plugin.handle := fun plugin =>
    (hmanifest plugin).1.handle
  have hchange : Change host { host.modify handle write with
      loadOrder := host.loadOrder.filter (· ≠ handle) } handle false := by
    refine .of_modify rfl hwrite ⟨rfl, rfl⟩ (fun old hold => ?_) (fun _ _ hon => hon)
      fun _ _ _ hon => hon
    obtain ⟨hsame, hstate, htransition, hpending, haccepting⟩ := hmanifest old
    exact ⟨.kept hsame hstate htransition, .inl hpending, fun _ hon => haccepting.symm.trans hon⟩
  have hnot : NotLoading host { host.modify handle write with
      loadOrder := host.loadOrder.filter (· ≠ handle) } handle :=
    .of_modify rfl hwrite fun plugin hloaded => (hmanifest plugin).2.1.symm.trans hloaded
  exact .of_stop hchange (fun _ => .of_quiet hnot) (hturn _)

theorem settle_start {call : Call} (hformed : call :: rest <:+ startCalls)
    (hok : ∀ hold other,
      (Leaf.script (.start activate) handle (call :: rest) failed).hold = some (hold, other) →
        ∀ plugin, host.pluginByHandle handle = some plugin → hold.Ok host plugin) :
    Section host (.start activate) handle (host.slips (.start activate) handle answer call)
      (host.settle (.start activate) handle failed answer call rest) := by
  have hrest := start_rest hformed
  have hsuffix : rest <:+ kindCalls (.start activate) :=
    (List.suffix_cons call rest).trans hformed
  have hmem : call ∈ startCalls := hformed.subset List.mem_cons_self
  cases call with
  | load => exact settle_load hformed (hok .starting handle (by simp [Leaf.hold]))
  | preparePause =>
    refine settle_replacing hformed (hok .replacing handle ?_)
    rw [hrest]
    rfl
  | prepareUnload =>
    refine settle_refused hformed (hok .refused handle ?_)
    rw [hrest]
    rfl
  | release service =>
    have hheld : ∀ plugin, host.pluginByHandle handle = some plugin →
        Hold.Ok host plugin .unwinding := by
      refine hok .unwinding handle ?_
      rw [hrest]
      cases service <;> rfl
    by_cases hkeelhook : service = .keelhook
    · subst hkeelhook
      exact settle_released hformed hheld
    · have hturn : ∀ failed, host.turn (.start activate) handle failed answer (.release service) =
          (host, .next) := by
        intro failed
        cases service <;> first
          | exact absurd rfl hkeelhook
          | rfl
      refine .of_next (.refl host handle) (fun _ => .of_quiet (.refl host handle)) hsuffix
        (fun failed hold other hleaf => ?_) (hturn _)
      obtain ⟨rfl, hcases⟩ := start_hold hleaf
      rw [hrest] at hcases
      have hunwinding : hold = .unwinding := by
        cases service <;> first
          | exact absurd rfl hkeelhook
          | simpa [startCalls] using hcases
      subst hunwinding
      exact ⟨rfl, hheld⟩
  | unload => exact settle_unloaded
  | publish event =>
    have hnone : ∀ failed, (Leaf.script (.start activate) handle rest failed).hold = none := by
      intro failed
      rw [hrest]
      cases event <;> rfl
    have hturn : ∀ failed, (∃ ok, host.turn (.start activate) handle failed answer (.publish event)
        = (host, .stop ok)) ∨
        host.turn (.start activate) handle failed answer (.publish event) = (host, .next) := by
      intro failed
      cases event with
      | loaded =>
        by_cases hpaused : (!activate) = true ∧
            (host.pluginByHandle handle).any (·.state = .paused) = true
        · exact .inr (if_pos hpaused)
        · exact .inl ⟨true, if_neg hpaused⟩
      | unloaded => exact .inl ⟨true, rfl⟩
      | paused => exact .inl ⟨true, rfl⟩
      | resumed => exact .inl ⟨true, rfl⟩
      | allLoaded => exact .inl ⟨true, rfl⟩
    rcases hturn (failed || (Call.publish event).refused answer) with ⟨ok, hstop⟩ | hnext
    · exact .of_stop (.refl host handle) (fun _ => .of_quiet (.refl host handle)) hstop
    · refine .of_next (.refl host handle) (fun _ => .of_quiet (.refl host handle)) hsuffix
        (fun failed hold other hleaf => ?_) hnext
      rw [hnone] at hleaf
      cases hleaf
  | deactivate service => simp [startCalls] at hmem

end Start

end Host
end KeelS2.Plugins
