import KeelS2.Plugins.Exits
import KeelS2.Plugins.Interleaving

/-!
# StartDiscoveredPlugins

The loop that starts what was discovered, performed with nothing in between: pass after pass over
the discovered plugins, until nothing is left to be started or a pass gets nowhere. What each call
answers is fixed for each plugin; which plugins' load callbacks are called is kept with the host.
-/

namespace KeelS2.Plugins

/-- A pass of the loop: the host, the load callbacks called so far, and the two flags. -/
structure Pass where
  host : Host
  called : List KeelPluginHandle
  remaining : Bool
  progress : Bool

namespace Host

variable (answers : KeelPluginHandle → Call → Answer) (gameThread : Bool)

/-- One turn of the inner loop. -/
def visit (pass : Pass) (handle : KeelPluginHandle) : Pass :=
  match (pass.host.pluginByHandle handle).filter (·.state = .loading) with
  | none => pass
  | some plugin =>
    match startReadiness pass.host.plugins plugin with
    | .rejected diagnostic =>
      { pass with
        host := pass.host.rejectUnstartedPlugin handle diagnostic
        remaining := true, progress := true }
    | .waiting => { pass with remaining := true }
    | .ready =>
      { host := (pass.host.startPlugin (answers handle) gameThread handle true).1
        called := pass.called ++ [handle], remaining := true, progress := true }

/-- The inner loop. -/
def startPass (discovered : List KeelPluginHandle) (host : Host)
    (called : List KeelPluginHandle) : Pass :=
  discovered.foldl (visit answers gameThread) ⟨host, called, false, false⟩

/-- The loop for those that wait in a cycle. -/
def rejectCycle (host : Host) (handle : KeelPluginHandle) : Host :=
  match (host.pluginByHandle handle).filter (·.state = .loading) with
  | none => host
  | some _ => host.rejectUnstartedPlugin handle .dependencyCycle

/-- `StartDiscoveredPlugins`, with as many passes as there is fuel for. -/
def startDiscoveredPlugins (discovered : List KeelPluginHandle) :
    Nat → Host → List KeelPluginHandle → Option (Host × List KeelPluginHandle)
  | 0, _, _ => none
  | fuel + 1, host, called =>
    let pass := startPass answers gameThread discovered host called
    if !pass.remaining then some (pass.host, pass.called)
    else if !pass.progress then some (discovered.foldl rejectCycle pass.host, pass.called)
    else startDiscoveredPlugins discovered fuel pass.host pass.called

end Host

/-! ## What starting leaves of a record -/

/-- What a plugin said of itself. -/
structure Manifest where
  handle : KeelPluginHandle
  name : Text
  version : Text
  dependencies : List PluginDependencyRecord
  selectable : Bool
  deriving DecidableEq, Repr

def PluginRecord.manifest (plugin : PluginRecord) : Manifest where
  handle := plugin.handle
  name := plugin.name
  version := plugin.version
  dependencies := plugin.dependencies
  selectable := plugin.selectable

theorem SameManifest.manifest {old now : PluginRecord} (hsame : SameManifest old now) :
    now.manifest = old.manifest := by
  unfold PluginRecord.manifest
  rw [hsame.handle, hsame.name, hsame.version, hsame.dependencies, hsame.selectable]

namespace Host

variable {host middle after : Host} {handle other : KeelPluginHandle}
variable {old now plugin target : PluginRecord} {dependency : PluginDependencyRecord}

/-- One record is written to; what it said of itself stays, and it does not get into or out of a
transition. -/
def Writes (handle : KeelPluginHandle) (host after : Host) : Prop :=
  ∃ write : PluginRecord → PluginRecord,
    after.plugins = (host.modify handle write).plugins ∧
      ∀ plugin, SameManifest plugin (write plugin) ∧
        (write plugin).transitioning = plugin.transitioning

theorem Writes.of_same (hplugins : after.plugins = host.plugins) : Writes handle host after := by
  refine ⟨id, ?_, fun _ => ⟨⟨rfl, rfl, rfl, rfl, rfl, rfl⟩, rfl⟩⟩
  rw [hplugins]
  unfold modify
  simp

theorem Writes.trans (hfirst : Writes handle host middle) (hsecond : Writes handle middle after) :
    Writes handle host after := by
  obtain ⟨write, hwritten, hsame⟩ := hfirst
  obtain ⟨again, hagain, hsame'⟩ := hsecond
  refine ⟨fun plugin => again (write plugin), ?_, fun plugin => ⟨?_, ?_⟩⟩
  · rw [hagain]
    exact modified_again again hwritten fun plugin => (hsame plugin).1.handle
  · obtain ⟨h1, h2, h3, h4, h5, h6⟩ := (hsame plugin).1
    obtain ⟨k1, k2, k3, k4, k5, k6⟩ := (hsame' (write plugin)).1
    exact ⟨k1.trans h1, k2.trans h2, k3.trans h3, k4.trans h4, k5.trans h5, k6.trans h6⟩
  · exact (hsame' (write plugin)).2.trans (hsame plugin).2

variable {plugins : List PluginRecord} {write : PluginRecord → PluginRecord}

theorem Writes.of_modify (hplugins : after.plugins = (host.modify handle write).plugins)
    (hwrite : ∀ plugin, SameManifest plugin (write plugin) ∧ (write plugin).transitioning =
      plugin.transitioning) : Writes handle host after :=
  ⟨write, hplugins, hwrite⟩

theorem Writes.others (hwrites : Writes handle host after) (hne : other ≠ handle) :
    after.pluginByHandle other = host.pluginByHandle other := by
  obtain ⟨write, hplugins, hsame⟩ := hwrites
  rw [pluginByHandle_congr hplugins, pluginByHandle_modify fun plugin => (hsame plugin).1.handle,
    if_neg hne]

theorem Writes.found (hwrites : Writes handle host after)
    (hold : host.pluginByHandle handle = some old) :
    ∃ now, after.pluginByHandle handle = some now ∧ SameManifest old now ∧
      now.transitioning = old.transitioning := by
  obtain ⟨write, hplugins, hsame⟩ := hwrites
  refine ⟨write old, ?_, hsame old⟩
  rw [pluginByHandle_congr hplugins, pluginByHandle_modify fun plugin => (hsame plugin).1.handle,
    if_pos rfl, hold]
  rfl

/-- What all plugins said of themselves, in their order. -/
def manifests (host : Host) : List Manifest :=
  host.plugins.map (·.manifest)

theorem Writes.manifests (hwrites : Writes handle host after) :
    after.manifests = host.manifests := by
  obtain ⟨write, hplugins, hsame⟩ := hwrites
  unfold Host.manifests
  rw [hplugins]
  unfold modify
  rw [List.map_map]
  refine List.map_congr_left fun plugin _ => ?_
  simp only [Function.comp_apply]
  split
  · exact (hsame plugin).1.manifest
  · rfl

/-- What a name stands for does not depend on more than the manifests. -/
theorem dependencyTarget_manifest (plugins : List PluginRecord) (name : Text) :
    (dependencyTarget plugins name).map (·.manifest) =
      (plugins.map (·.manifest)).find? fun manifest =>
        manifest.selectable && equalInsensitive manifest.name name := by
  unfold dependencyTarget
  rw [List.find?_map]
  rfl

theorem target_of_manifests (hmanifests : after.manifests = host.manifests) {name : Text}
    (htarget : dependencyTarget host.plugins name = some target) :
    ∃ now, dependencyTarget after.plugins name = some now ∧ now.manifest = target.manifest := by
  have hsame : (dependencyTarget after.plugins name).map (·.manifest) =
      (dependencyTarget host.plugins name).map (·.manifest) := by
    rw [dependencyTarget_manifest, dependencyTarget_manifest]
    exact congrArg _ hmanifests
  rw [htarget] at hsame
  exact Option.map_eq_some_iff.1 hsame

/-! ## StartPlugin -/

variable {answers : Call → Answer} {gameThread : Bool} {failed : Bool} {call : Call}
variable {rest : List Call}

theorem perform_seek {kind : Kind} (calls : List Call) (sought : Call) (failed : Bool)
    (host : Host) :
    perform answers gameThread kind handle calls (some sought) failed host =
      perform answers gameThread kind handle (calls.dropWhile (· ≠ sought)) none failed host := by
  induction calls with
  | nil => rfl
  | cons call rest ih =>
    by_cases hcall : call = sought
    · have hkeep : ¬((some sought).any fun target => decide (target ≠ call)) = true := by
        simp [hcall]
      have hnone : ¬((none : Option Call).any fun target => decide (target ≠ call)) = true := by
        simp
      rw [List.dropWhile_cons_of_neg (by simp [hcall]), perform, if_neg hkeep, perform,
        if_neg hnone]
    · have hskip : ((some sought).any fun target => decide (target ≠ call)) = true := by
        simpa using Ne.symm hcall
      rw [List.dropWhile_cons_of_pos (by simpa using hcall), perform, if_pos hskip, ih]

theorem reach_writes (host : Host) (call : Call) :
    Writes handle host (reach answers gameThread host handle call).1 := by
  unfold reach
  split
  · cases call with
    | preparePause =>
      refine .trans (.of_modify rfl fun _ => ?_) (.of_modify rfl fun _ => ?_) <;>
        exact ⟨⟨rfl, rfl, rfl, rfl, rfl, rfl⟩, rfl⟩
    | prepareUnload =>
      refine .trans (.of_modify rfl fun _ => ?_) (.of_modify rfl fun _ => ?_) <;>
        exact ⟨⟨rfl, rfl, rfl, rfl, rfl, rfl⟩, rfl⟩
    | unload =>
      refine .trans (.of_modify rfl fun _ => ?_) (.of_modify rfl fun _ => ?_) <;>
        exact ⟨⟨rfl, rfl, rfl, rfl, rfl, rfl⟩, rfl⟩
    | deactivate service =>
      refine .of_same ?_
      simp only [called, calling]
      split_ifs <;> rfl
    | release service =>
      refine .of_same ?_
      simp only [called, calling]
      split_ifs <;> rfl
    | load => exact .of_same rfl
    | publish event => exact .of_same rfl
  · exact .of_same rfl

theorem silence_writes (host : Host) (handle : KeelPluginHandle) :
    Writes handle host (host.silence handle) := by
  refine .of_modify rfl fun _ => ?_
  exact ⟨⟨rfl, rfl, rfl, rfl, rfl, rfl⟩, rfl⟩

theorem settleStart_writes (host : Host) (handle : KeelPluginHandle) (activate : Bool) :
    Writes handle host (host.settleStart handle activate) := by
  have hsettled : Writes handle host (host.modify handle fun plugin =>
      { plugin with
        state := if activate then .loaded else .paused
        acceptingResources := activate, factoryDispatchEnabled := activate }) := by
    refine .of_modify rfl fun _ => ?_
    exact ⟨⟨rfl, rfl, rfl, rfl, rfl, rfl⟩, rfl⟩
  unfold settleStart
  cases activate with
  | false => exact hsettled
  | true =>
    refine hsettled.trans (.of_modify (restored_plugins _ handle).1 fun _ => ?_)
    exact ⟨⟨rfl, rfl, rfl, rfl, rfl, rfl⟩, rfl⟩

theorem startTurn_writes (host : Host) (handle : KeelPluginHandle) (activate failed : Bool)
    (answer : Answer) (call : Call) :
    Writes handle host (host.startTurn handle activate failed answer call).1 := by
  cases call with
  | load =>
    simp only [startTurn]
    split
    · exact .of_same rfl
    · split
      · split
        · refine .trans (.of_modify rfl fun _ => ?_) (settleStart_writes _ _ _)
          exact ⟨⟨rfl, rfl, rfl, rfl, rfl, rfl⟩, rfl⟩
        · refine .trans (.of_modify rfl fun _ => ?_) (silence_writes _ _)
          exact ⟨⟨rfl, rfl, rfl, rfl, rfl, rfl⟩, rfl⟩
      · refine .trans (.of_modify rfl fun _ => ?_) (silence_writes _ _)
        exact ⟨⟨rfl, rfl, rfl, rfl, rfl, rfl⟩, rfl⟩
  | preparePause =>
    simp only [startTurn]
    split
    · exact settleStart_writes _ _ _
    · refine .of_modify rfl fun _ => ?_
      exact ⟨⟨rfl, rfl, rfl, rfl, rfl, rfl⟩, rfl⟩
  | prepareUnload =>
    simp only [startTurn]
    split
    · exact silence_writes _ _
    · refine .of_modify rfl fun _ => ?_
      exact ⟨⟨rfl, rfl, rfl, rfl, rfl, rfl⟩, rfl⟩
  | release service =>
    cases service with
    | keelhook =>
      have hfirst : Writes handle host ((host.removeCommandsOwnedBy handle).modify handle
          fun plugin => { plugin with state := .error }) := by
        refine .of_modify rfl fun _ => ?_
        exact ⟨⟨rfl, rfl, rfl, rfl, rfl, rfl⟩, rfl⟩
      simp only [startTurn]
      split
      · refine hfirst.trans (.of_modify rfl fun _ => ?_)
        exact ⟨⟨rfl, rfl, rfl, rfl, rfl, rfl⟩, rfl⟩
      · exact hfirst
    | factories => exact .of_same rfl
    | source2Callbacks => exact .of_same rfl
    | lifecycle => exact .of_same rfl
    | convars => exact .of_same rfl
    | pluginService => exact .of_same rfl
    | publishedServices => exact .of_same rfl
    | schemaEntities => exact .of_same rfl
  | unload =>
    refine .of_modify rfl fun _ => ?_
    exact ⟨⟨rfl, rfl, rfl, rfl, rfl, rfl⟩, rfl⟩
  | deactivate service => exact .of_same rfl
  | publish event =>
    cases event with
    | loaded =>
      simp only [startTurn]
      split_ifs <;> exact .of_same rfl
    | unloaded => exact .of_same rfl
    | paused => exact .of_same rfl
    | resumed => exact .of_same rfl
    | allLoaded => exact .of_same rfl

theorem perform_met {kind : Kind} {seek : Option Call}
    (hmet : ¬(seek.any fun target => decide (target ≠ call)) = true) :
    perform answers gameThread kind handle (call :: rest) seek failed host =
      perform answers gameThread kind handle (call :: rest) none failed host := by
  have hnone : ¬((none : Option Call).any fun target => decide (target ≠ call)) = true := by simp
  rw [perform, if_neg hmet, perform, if_neg hnone]

theorem perform_start_writes {activate : Bool} (calls : List Call) (seek : Option Call)
    (failed : Bool) (host : Host) :
    Writes handle host
      (perform answers gameThread (.start activate) handle calls seek failed host).1 := by
  induction calls generalizing seek failed host with
  | nil => exact .of_same rfl
  | cons call rest ih =>
    by_cases hmet : (seek.any fun target => decide (target ≠ call)) = true
    · rw [perform, if_pos hmet]
      exact ih seek failed host
    · rw [perform_met hmet, perform_cons]
      have hreached : Writes handle host (reach answers gameThread host handle call).1 :=
        reach_writes host call
      have hturned := hreached.trans (startTurn_writes _ handle activate
        (failed || call.refused (reach answers gameThread host handle call).2)
        (reach answers gameThread host handle call).2 call)
      rcases hturn : (reach answers gameThread host handle call).1.startTurn handle activate
        (failed || call.refused (reach answers gameThread host handle call).2)
        (reach answers gameThread host handle call).2 call with ⟨next, verdict⟩
      rw [hturn] at hturned
      simp only [turn, hturn]
      cases verdict with
      | next => exact hturned.trans (ih none _ next)
      | skipTo target => exact hturned.trans (ih (some target) _ next)
      | stop result => exact hturned

/-! ### What becomes of the state -/

def stateOf (host : Host) (handle : KeelPluginHandle) : Option PluginState :=
  (host.pluginByHandle handle).map (·.state)

theorem stateOf_congr (hplugins : after.plugins = host.plugins) :
    after.stateOf handle = host.stateOf handle := by
  unfold stateOf
  rw [pluginByHandle_congr hplugins]

theorem stateOf_modify {state : PluginState}
    (hplugins : after.plugins = (host.modify handle write).plugins)
    (hwrite : ∀ plugin, (write plugin).handle = plugin.handle)
    (hstate : ∀ plugin, (write plugin).state = state)
    (hplugin : (host.pluginByHandle handle).isSome = true) : after.stateOf handle = some state := by
  obtain ⟨plugin, hplugin⟩ := Option.isSome_iff_exists.1 hplugin
  unfold stateOf
  rw [pluginByHandle_congr hplugins, pluginByHandle_modify hwrite, if_pos rfl, hplugin]
  exact congrArg some (hstate plugin)

theorem stateOf_kept (hplugins : after.plugins = (host.modify handle write).plugins)
    (hwrite : ∀ plugin, (write plugin).handle = plugin.handle)
    (hstate : ∀ plugin, (write plugin).state = plugin.state) :
    after.stateOf handle = host.stateOf handle := by
  unfold stateOf
  rw [pluginByHandle_congr hplugins, pluginByHandle_modify hwrite, if_pos rfl, Option.map_map]
  exact congrArg (fun write => (host.pluginByHandle handle).map write) (funext hstate)

theorem calling_stateOf (host : Host) (call : Call) :
    (host.calling handle call).stateOf handle = host.stateOf handle := by
  cases call with
  | preparePause => refine stateOf_kept rfl ?_ ?_ <;> intro plugin <;> rfl
  | prepareUnload => refine stateOf_kept rfl ?_ ?_ <;> intro plugin <;> rfl
  | unload => refine stateOf_kept rfl ?_ ?_ <;> intro plugin <;> rfl
  | deactivate service => rfl
  | release service => rfl
  | load => rfl
  | publish event => rfl

theorem called_stateOf (host : Host) (call : Call) (answer : Answer) :
    (host.called handle call answer).stateOf handle = host.stateOf handle := by
  cases call with
  | preparePause => refine stateOf_kept rfl ?_ ?_ <;> intro plugin <;> rfl
  | prepareUnload => refine stateOf_kept rfl ?_ ?_ <;> intro plugin <;> rfl
  | unload => refine stateOf_kept rfl ?_ ?_ <;> intro plugin <;> rfl
  | deactivate service =>
    refine stateOf_congr ?_
    simp only [called]
    split_ifs <;> rfl
  | release service =>
    refine stateOf_congr ?_
    simp only [called]
    split_ifs <;> rfl
  | load => rfl
  | publish event => rfl

theorem reach_stateOf (host : Host) (call : Call) :
    (reach answers gameThread host handle call).1.stateOf handle = host.stateOf handle := by
  unfold reach
  split
  · exact (called_stateOf _ call (answers call)).trans (calling_stateOf host call)
  · rfl

theorem isSome_of_stateOf (hstate : after.stateOf handle = host.stateOf handle)
    (hplugin : (host.pluginByHandle handle).isSome = true) :
    (after.pluginByHandle handle).isSome = true := by
  have hsome := congrArg Option.isSome hstate
  unfold stateOf at hsome
  rwa [Option.isSome_map, Option.isSome_map, hplugin] at hsome

theorem perform_released {calls : List Call}
    (hcalls : calls <:+ startCalls.drop 3) (hmem : .release .keelhook ∈ calls)
    (hplugin : (host.pluginByHandle handle).isSome = true) :
    (perform answers gameThread (.start true) handle calls none failed host).1.stateOf handle =
      some .error := by
  induction calls generalizing failed host with
  | nil => cases hmem
  | cons call rest ih =>
    have hreached : (reach answers gameThread host handle call).1.stateOf handle =
        host.stateOf handle := reach_stateOf host call
    have hfound := isSome_of_stateOf hreached hplugin
    have hrelease : ∀ calls ∈ (startCalls.drop 3).tails, Call.release .keelhook ∈ calls →
        calls.head?.all (· ∈ (startCalls.drop 3).take 8) = true := by decide
    have hhead : call ∈ (startCalls.drop 3).take 8 := by
      simpa using hrelease _ ((List.mem_tails _ _).2 hcalls) hmem
    rw [perform_cons]
    generalize reach answers gameThread host handle call = reached at hfound
    cases call with
    | release service =>
      by_cases hkeelhook : service = .keelhook
      · subst hkeelhook
        have hrest : rest = [.unload, .publish .loaded, .publish .paused] :=
          start_rest (hcalls.trans (List.drop_suffix 3 startCalls))
        have herror : ((reached.1.removeCommandsOwnedBy handle).modify handle fun plugin =>
            { plugin with state := .error }).stateOf handle = some .error := by
          refine stateOf_modify rfl ?_ ?_ hfound
          · intro plugin
            rfl
          · intro plugin
            rfl
        simp only [turn, startTurn]
        split
        · next hstop =>
          split at hstop
          · cases hstop
          · cases hstop
            rw [hrest, perform_cons]
            simp only [turn, startTurn]
            refine (stateOf_kept rfl ?_ ?_).trans ((reach_stateOf _ _).trans herror)
            · intro plugin
              rfl
            · intro plugin
              rfl
        · next hstop =>
          split at hstop <;> cases hstop
        · next hstop =>
          split at hstop
          · cases hstop
            refine (stateOf_kept rfl ?_ ?_).trans herror
            · intro plugin
              rfl
            · intro plugin
              rfl
          · cases hstop
      · have hturn : ∀ failed, reached.1.turn (.start true) handle failed reached.2
            (.release service) = (reached.1, .next) := by
          intro failed
          cases service <;> first
            | exact absurd rfl hkeelhook
            | rfl
        simp only [hturn]
        refine ih ((List.suffix_cons _ rest).trans hcalls) ?_ hfound
        rcases List.mem_cons.1 hmem with hsame | hlater
        · cases hsame
          exact absurd rfl hkeelhook
        · exact hlater
    | deactivate service => simp [startCalls] at hhead
    | preparePause => simp [startCalls] at hhead
    | prepareUnload => simp [startCalls] at hhead
    | load => simp [startCalls] at hhead
    | unload => simp [startCalls] at hhead
    | publish event => simp [startCalls] at hhead

/-- What is not looked at by `DependenciesReady` may be written to. -/
theorem dependenciesReady_map {write : PluginRecord → PluginRecord} {plugins : List PluginRecord}
    (hwrite : ∀ plugin, SameManifest plugin (write plugin) ∧
      (write plugin).state = plugin.state ∧
      (write plugin).transitioning = plugin.transitioning) (plugin : PluginRecord) :
    dependenciesReady (plugins.map write) (write plugin) = dependenciesReady plugins plugin := by
  have htarget : ∀ name, dependencyTarget (plugins.map write) name =
      (dependencyTarget plugins name).map write := by
    intro name
    unfold dependencyTarget
    rw [List.find?_map]
    congr 1
    refine congrArg (List.find? · plugins) (funext fun candidate => ?_)
    simp [(hwrite candidate).1.selectable, (hwrite candidate).1.name]
  have hproblem : dependencyProblem (plugins.map write) (write plugin) =
      dependencyProblem plugins plugin := by
    funext dependency
    unfold dependencyProblem
    rw [htarget]
    cases dependencyTarget plugins dependency.name with
    | none => rfl
    | some target =>
      obtain ⟨hmanifest, hstate, htransition⟩ := hwrite target
      simp [hmanifest.handle, hmanifest.version, hstate, htransition, (hwrite plugin).1.handle]
  unfold dependenciesReady
  rw [(hwrite plugin).1.dependencies, hproblem]

theorem perform_published (failed : Bool) (host : Host) :
    (perform answers gameThread (.start true) handle
      (startCalls.drop 1) (some (.publish .loaded)) failed host).1 = host := by
  have hrest : (startCalls.drop 1).dropWhile (· ≠ .publish .loaded) =
      [.publish .loaded, .publish .paused] := by decide
  rw [perform_seek, hrest, perform_cons]
  have hreached : (reach answers gameThread host handle (.publish .loaded)).1 = host := by
    unfold reach
    split <;> rfl
  have hturn : ∀ failed answer, turn host (.start true) handle failed answer (.publish .loaded) =
      (host, .stop true) := by
    intro failed answer
    simp [turn, startTurn]
  generalize reach answers gameThread host handle (.publish .loaded) = reached at hreached ⊢
  obtain ⟨middle, answer⟩ := reached
  cases hreached
  simp [hturn]

theorem beginStart_found (hplugin : host.pluginByHandle handle = some plugin) :
    ∃ started, (host.beginStart handle).pluginByHandle handle = some started ∧
      started.load = plugin.load ∧
      dependenciesReady (host.beginStart handle).plugins started =
        dependenciesReady host.plugins plugin := by
  have hplugins : (host.beginStart handle).plugins = (host.modify handle fun record =>
      { record with acceptingResources := true, loading := true }).plugins := rfl
  have hready := @dependenciesReady_map (fun record =>
    if record.handle = handle then
      { record with acceptingResources := true, loading := true } else record) host.plugins
    (fun record => by
      split
      · exact ⟨⟨rfl, rfl, rfl, rfl, rfl, rfl⟩, rfl, rfl⟩
      · exact ⟨⟨rfl, rfl, rfl, rfl, rfl, rfl⟩, rfl, rfl⟩) plugin
  rw [if_pos (pluginByHandle_handle hplugin)] at hready
  refine ⟨{ plugin with acceptingResources := true, loading := true }, ?_, rfl, hready⟩
  rw [pluginByHandle_congr hplugins, pluginByHandle_modify, if_pos rfl, hplugin]
  · rfl
  · intro record
    rfl

/-- A plugin that was started runs if its load callback agrees and its dependencies run, and is
in error otherwise. -/
theorem startPlugin_state (hplugin : host.pluginByHandle handle = some plugin)
    (hload : plugin.load = true) :
    (host.startPlugin answers gameThread handle true).1.stateOf handle =
      some (if (answers .load).agreed = true ∧ dependenciesReady host.plugins plugin = none
        then .loaded else .error) := by
  obtain ⟨started, hfound, hstarted, hready⟩ := beginStart_found hplugin
  unfold startPlugin
  generalize host.beginStart handle = begun at hready hfound
  have hsome : (begun.pluginByHandle handle).isSome = true := by
    rw [hfound]
    rfl
  have hcalls : startCalls = .load :: startCalls.drop 1 := rfl
  have hreached : reach answers gameThread begun handle .load = (begun, answers .load) := rfl
  rw [hcalls, perform_cons, hreached]
  simp only [turn, startTurn, hfound, hstarted, hload, hready, Bool.true_and]
  by_cases hloads : (answers .load).agreed = true ∧ dependenciesReady host.plugins plugin = none
  · have htaken : ((answers .load).agreed &&
        (dependenciesReady host.plugins plugin).isNone) = true := by
      simp [hloads.1, hloads.2]
    rw [if_pos htaken, if_pos hloads]
    simp only [if_true, perform_published]
    unfold settleStart
    simp only [if_true]
    refine (stateOf_kept (restored_plugins _ handle).1 (fun _ => rfl) fun _ => rfl).trans ?_
    refine stateOf_modify rfl (fun _ => rfl) (fun _ => rfl) ?_
    refine isSome_of_stateOf (stateOf_kept rfl ?_ ?_) hsome
    · intro record
      rfl
    · intro record
      rfl
  · have hrefused : ¬((answers .load).agreed &&
        (dependenciesReady host.plugins plugin).isNone) = true := by
      simpa using hloads
    have hdrop : (startCalls.drop 1).dropWhile (· ≠ .release .factories) = startCalls.drop 3 := by
      decide
    rw [if_neg hrefused, if_neg hloads]
    simp only [perform_seek, hdrop]
    refine perform_released (List.suffix_refl _) (by decide) ?_
    refine isSome_of_stateOf ((stateOf_kept rfl ?_ ?_).trans (stateOf_kept rfl ?_ ?_)) hsome
    all_goals
      intro record
      rfl

theorem startPlugin_writes (host : Host) (handle : KeelPluginHandle) (activate : Bool) :
    Writes handle host (host.startPlugin answers gameThread handle activate).1 := by
  have hbegun : Writes handle host (host.beginStart handle) := by
    refine .of_modify rfl fun _ => ?_
    exact ⟨⟨rfl, rfl, rfl, rfl, rfl, rfl⟩, rfl⟩
  exact hbegun.trans (perform_start_writes _ _ _ _)

theorem rejectUnstarted_writes (host : Host) (handle : KeelPluginHandle)
    (diagnostic : Diagnostic) : Writes handle host
    (host.rejectUnstartedPlugin handle diagnostic) := by
  refine .of_modify rfl fun _ => ?_
  exact ⟨⟨rfl, rfl, rfl, rfl, rfl, rfl⟩, rfl⟩

theorem rejectUnstarted_state (diagnostic : Diagnostic)
    (hplugin : (host.pluginByHandle handle).isSome = true) :
    (host.rejectUnstartedPlugin handle diagnostic).stateOf handle = some .error := by
  refine stateOf_modify rfl ?_ ?_ hplugin
  · intro plugin
    rfl
  · intro plugin
    rfl

/-! ### What `StartDiscoveredPlugins` sees before it starts a plugin -/

theorem startProblem_some {diagnostic : Diagnostic}
    (hproblem : startProblem plugins plugin dependency = some diagnostic)
    (htarget : dependencyTarget plugins dependency.name = some target) :
    target.handle = plugin.handle ∨ dependencyVersionMatches target.version dependency = false ∨
      target.state ≠ .loading ∧ target.state ≠ .loaded := by
  unfold startProblem at hproblem
  rw [htarget] at hproblem
  simp only at hproblem
  split at hproblem
  · next hself => exact .inl hself
  · split at hproblem
    · next hversion => exact .inr (.inl (by simpa using hversion))
    · split at hproblem
      · next hstate => exact .inr (.inr hstate)
      · cases hproblem

theorem startProblem_none (hproblem : startProblem plugins plugin dependency = none) : ∃ target,
      dependencyTarget plugins dependency.name = some target ∧ target.handle ≠ plugin.handle ∧
        dependencyVersionMatches target.version dependency = true ∧
        (target.state = .loading ∨ target.state = .loaded) := by
  unfold startProblem at hproblem
  cases htarget : dependencyTarget plugins dependency.name with
  | none =>
    rw [htarget] at hproblem
    cases hproblem
  | some target =>
    rw [htarget] at hproblem
    simp only at hproblem
    split at hproblem
    · cases hproblem
    · next hself =>
      split at hproblem
      · cases hproblem
      · next hversion =>
        split at hproblem
        · cases hproblem
        · next hstate =>
          refine ⟨target, rfl, hself, by simpa using hversion, ?_⟩
          tauto

theorem startReadiness_rejected {diagnostic : Diagnostic}
    (hreadiness : startReadiness plugins plugin = .rejected diagnostic) :
    ∃ dependency ∈ plugin.dependencies, ∀ target,
      dependencyTarget plugins dependency.name = some target →
        target.handle = plugin.handle ∨
          dependencyVersionMatches target.version dependency = false ∨
          target.state ≠ .loading ∧ target.state ≠ .loaded := by
  unfold startReadiness at hreadiness
  cases hproblem : plugin.dependencies.findSome? (startProblem plugins plugin) with
  | none =>
    rw [hproblem] at hreadiness
    simp only at hreadiness
    split at hreadiness <;> cases hreadiness
  | some found =>
    obtain ⟨dependency, hmem, hsome⟩ := List.exists_of_findSome?_eq_some hproblem
    exact ⟨dependency, hmem, fun target htarget => startProblem_some hsome htarget⟩

theorem startReadiness_accepted
    (hreadiness : ∀ diagnostic, startReadiness plugins plugin ≠ .rejected diagnostic) :
    ∀ dependency ∈ plugin.dependencies, ∃ target,
      dependencyTarget plugins dependency.name = some target ∧ target.handle ≠ plugin.handle ∧
        dependencyVersionMatches target.version dependency = true ∧
        (target.state = .loading ∨ target.state = .loaded) := by
  unfold startReadiness at hreadiness
  cases hproblem : plugin.dependencies.findSome? (startProblem plugins plugin) with
  | some found =>
    rw [hproblem] at hreadiness
    exact absurd rfl (hreadiness found)
  | none =>
    intro dependency hmem
    exact startProblem_none (List.findSome?_eq_none_iff.1 hproblem dependency hmem)

theorem startReadiness_waiting (hreadiness : startReadiness plugins plugin = .waiting) :
    ∃ dependency ∈ plugin.dependencies, ∃ target,
      dependencyTarget plugins dependency.name = some target ∧ target.state = .loading := by
  unfold startReadiness at hreadiness
  split at hreadiness
  · cases hreadiness
  · split at hreadiness
    · next hany =>
      obtain ⟨dependency, hmem, hwaits⟩ := List.any_eq_true.1 hany
      obtain ⟨target, htarget, hstate⟩ := (Option.any_eq_true _ _).1 hwaits
      exact ⟨dependency, hmem, target, htarget, by simpa using hstate⟩
    · cases hreadiness

theorem startReadiness_ready (hreadiness : startReadiness plugins plugin = .ready) :
    ∀ dependency ∈ plugin.dependencies, ∃ target,
      dependencyTarget plugins dependency.name = some target ∧ target.handle ≠ plugin.handle ∧
        dependencyVersionMatches target.version dependency = true ∧ target.state = .loaded := by
  intro dependency hmem
  have hnot : ∀ diagnostic, startReadiness plugins plugin ≠ .rejected diagnostic := by
    simp [hreadiness]
  obtain ⟨target, htarget, hself, hversion, hstate⟩ :=
    startReadiness_accepted hnot dependency hmem
  refine ⟨target, htarget, hself, hversion, hstate.resolve_left fun hloading => ?_⟩
  unfold startReadiness at hreadiness
  split at hreadiness
  · cases hreadiness
  · split at hreadiness
    · cases hreadiness
    · next hany =>
      refine hany (List.any_eq_true.2 ⟨dependency, hmem, ?_⟩)
      rw [htarget]
      simpa using hloading

end Host
end KeelS2.Plugins
