import KeelS2.Plugins.Interleaving

/-!
# What a command's turn does

`Turned` lists what a turn can do to the record that the command is about, and where it leaves
the command. Most turns leave the state of the record (`Keeps`); there is one place each where a
plugin comes into service, is paused, fails, is closed and is taken away.
-/

namespace KeelS2.Plugins

def Call.publishes : Call → Bool
  | .publish _ => true
  | _ => false

namespace Host

variable {host middle after : Host} {handle other : KeelPluginHandle} {plugin : PluginRecord}
variable {kind : Kind} {call : Call} {rest : List Call} {answer : Answer} {failed : Bool}

/-- One record is written to. Its image stays, and so does what the plugin said of itself; its
state is a function of what it was. -/
def Sets (state : PluginState → PluginState) (handle : KeelPluginHandle) (host after : Host) :
    Prop :=
  ∃ write, (after.plugins = (host.modify handle write).plugins ∧
      after.loadOrder = host.loadOrder ∧ SameRest host after) ∧
    ∀ plugin, SameImage plugin (write plugin) ∧ (write plugin).state = state plugin.state

abbrev Keeps (handle : KeelPluginHandle) (host after : Host) : Prop :=
  Sets id handle host after

abbrev Becomes (state : PluginState) (handle : KeelPluginHandle) (host after : Host) : Prop :=
  Sets (fun _ => state) handle host after

theorem SameImage.refl (plugin : PluginRecord) : SameImage plugin plugin :=
  ⟨⟨rfl, rfl, rfl, rfl, rfl, rfl⟩, rfl⟩

theorem SameImage.trans {old between now : PluginRecord} (hfirst : SameImage old between)
    (hsecond : SameImage between now) : SameImage old now where
  manifest :=
    { handle := hsecond.manifest.handle.trans hfirst.manifest.handle
      filename := hsecond.manifest.filename.trans hfirst.manifest.filename
      name := hsecond.manifest.name.trans hfirst.manifest.name
      version := hsecond.manifest.version.trans hfirst.manifest.version
      dependencies := hsecond.manifest.dependencies.trans hfirst.manifest.dependencies
      selectable := hsecond.manifest.selectable.trans hfirst.manifest.selectable }
  library := hsecond.library.trans hfirst.library

theorem Keeps.of_same (hplugins : after.plugins = host.plugins)
    (horder : after.loadOrder = host.loadOrder) (hrest : SameRest host after) :
    Keeps handle host after := by
  refine ⟨id, ⟨?_, horder, hrest⟩, fun plugin => ⟨.refl plugin, rfl⟩⟩
  rw [hplugins]
  unfold modify
  simp

theorem Keeps.refl (host : Host) (handle : KeelPluginHandle) : Keeps handle host host :=
  .of_same rfl rfl ⟨rfl, rfl⟩

variable {state : PluginState → PluginState}

theorem Sets.of_modify {write : PluginRecord → PluginRecord}
    (hwrite : ∀ plugin, SameImage plugin (write plugin) ∧ (write plugin).state = state plugin.state) :
    Sets state handle host (host.modify handle write) :=
  ⟨write, ⟨rfl, rfl, rfl, rfl⟩, hwrite⟩

theorem Sets.trans {first second : PluginState → PluginState}
    (hfirst : Sets first handle host middle)
    (hsecond : Sets second handle middle after) : Sets (second ∘ first) handle host after := by
  obtain ⟨write, ⟨hplugins, horder, hnext, hdisabled⟩, hwrite⟩ := hfirst
  obtain ⟨again, ⟨hplugins', horder', hnext', hdisabled'⟩, hagain⟩ := hsecond
  refine ⟨fun plugin => again (write plugin), ⟨?_, horder'.trans horder, hnext'.trans hnext,
    hdisabled'.trans hdisabled⟩, fun plugin => ⟨(hwrite plugin).1.trans (hagain _).1, ?_⟩⟩
  · exact hplugins'.trans (modified_again again hplugins fun plugin =>
      (hwrite plugin).1.manifest.handle)
  · rw [(hagain _).2, (hwrite plugin).2]
    rfl

section

variable (hsets : Sets state handle host after)

include hsets

theorem Sets.found (hplugin : host.pluginByHandle handle = some plugin) :
    ∃ now, after.pluginByHandle handle = some now ∧ SameImage plugin now ∧
      now.state = state plugin.state := by
  obtain ⟨write, ⟨hplugins, _⟩, hwrite⟩ := hsets
  refine ⟨write plugin, ?_, hwrite plugin⟩
  rw [pluginByHandle_congr hplugins,
    pluginByHandle_modify fun plugin => (hwrite plugin).1.manifest.handle, if_pos rfl, hplugin]
  rfl

theorem Sets.was {now : PluginRecord} (hnow : after.pluginByHandle handle = some now) :
    ∃ old, host.pluginByHandle handle = some old ∧ SameImage old now ∧
      now.state = state old.state := by
  obtain ⟨write, ⟨hplugins, _⟩, hwrite⟩ := hsets
  rw [pluginByHandle_congr hplugins,
    pluginByHandle_modify fun plugin => (hwrite plugin).1.manifest.handle, if_pos rfl] at hnow
  obtain ⟨old, hold, rfl⟩ := Option.map_eq_some_iff.1 hnow
  exact ⟨old, hold, hwrite old⟩

theorem Sets.others (hne : other ≠ handle) :
    after.pluginByHandle other = host.pluginByHandle other := by
  obtain ⟨write, ⟨hplugins, _⟩, hwrite⟩ := hsets
  rw [pluginByHandle_congr hplugins,
    pluginByHandle_modify fun plugin => (hwrite plugin).1.manifest.handle, if_neg hne]

theorem Sets.order : after.loadOrder = host.loadOrder := by
  obtain ⟨write, ⟨_, horder, _⟩, _⟩ := hsets
  exact horder

end

/-! ## Parts of turns -/

theorem keeps_endTransition (host : Host) (handle : KeelPluginHandle) :
    Keeps handle host (host.endTransition handle) :=
  .of_modify fun _ => ⟨⟨⟨rfl, rfl, rfl, rfl, rfl, rfl⟩, rfl⟩, rfl⟩

theorem keeps_quarantine (host : Host) (handle : KeelPluginHandle) (diagnostic : Diagnostic) :
    Keeps handle host (host.quarantine handle diagnostic) :=
  .of_modify fun _ => ⟨⟨⟨rfl, rfl, rfl, rfl, rfl, rfl⟩, rfl⟩, rfl⟩

theorem keeps_silence (host : Host) (handle : KeelPluginHandle) :
    Keeps handle host (host.silence handle) := by
  have hwritten : Keeps handle host (host.modify handle fun plugin =>
      { plugin with acceptingResources := false }) :=
    .of_modify fun _ => ⟨⟨⟨rfl, rfl, rfl, rfl, rfl, rfl⟩, rfl⟩, rfl⟩
  exact hwritten.trans (Keeps.of_same rfl rfl ⟨rfl, rfl⟩)

theorem keeps_restore (host : Host) (handle : KeelPluginHandle) :
    Keeps handle host (host.restorePluginDispatch handle) := by
  rw [restorePluginDispatch_eq]
  have hwritten : Keeps handle host (host.modify handle fun plugin =>
      { plugin with acceptingResources := true, factoryDispatchEnabled := true }) :=
    .of_modify fun _ => ⟨⟨⟨rfl, rfl, rfl, rfl, rfl, rfl⟩, rfl⟩, rfl⟩
  exact hwritten.trans (Keeps.of_same rfl rfl ⟨rfl, rfl⟩)

theorem keeps_begun (host : Host) (handle : KeelPluginHandle) :
    Keeps handle host
      ((host.modify handle fun plugin => { plugin with transitioning := true }).silence
        handle) := by
  have hwritten : Keeps handle host
      (host.modify handle fun plugin => { plugin with transitioning := true }) :=
    .of_modify fun _ => ⟨⟨⟨rfl, rfl, rfl, rfl, rfl, rfl⟩, rfl⟩, rfl⟩
  exact hwritten.trans (keeps_silence _ handle)

theorem becomes_resumed (host : Host) (handle : KeelPluginHandle) :
    Becomes .loaded handle host ((host.modify handle fun plugin =>
      { plugin with transitioning := true, state := .loaded }).restorePluginDispatch handle) := by
  have hwritten : Becomes .loaded handle host (host.modify handle fun plugin =>
      { plugin with transitioning := true, state := .loaded }) :=
    .of_modify fun _ => ⟨⟨⟨rfl, rfl, rfl, rfl, rfl, rfl⟩, rfl⟩, rfl⟩
  exact hwritten.trans (keeps_restore _ handle)

theorem becomes_settled (host : Host) (handle : KeelPluginHandle) (activate : Bool) :
    Becomes (if activate then .loaded else .paused) handle host
      (host.settleStart handle activate) := by
  have hwritten : Becomes (if activate then .loaded else .paused) handle host
      (host.modify handle fun plugin =>
        { plugin with
          state := if activate then .loaded else .paused
          acceptingResources := activate, factoryDispatchEnabled := activate }) :=
    .of_modify fun _ => ⟨⟨⟨rfl, rfl, rfl, rfl, rfl, rfl⟩, rfl⟩, rfl⟩
  unfold settleStart
  cases activate with
  | true => exact hwritten.trans (keeps_restore _ handle)
  | false => exact hwritten

/-! ## Turns -/

/-- The next call publishes nothing. -/
abbrev Silent (calls : List Call) : Prop :=
  calls.head?.any Call.publishes = false

/-- A start that goes on has not failed, and prepares a pause only if the plugin is not to run. -/
def Going (kind : Kind) (calls : List Call) : Prop :=
  ∀ activate, kind = .start activate → calls.head? ≠ some .unload ∧ .unload ∈ calls ∧
    (activate = true → calls.head? ≠ some .preparePause)

/-- A start ends without a change of state only behind its events, or with a plugin that it has
refused. -/
def Quits (host : Host) (handle : KeelPluginHandle) (kind : Kind) (call : Call) : Prop :=
  ∀ activate, kind = .start activate → call.publishes = false →
    ∀ plugin, host.pluginByHandle handle = some plugin → call = .prepareUnload

inductive Turned (host : Host) (handle : KeelPluginHandle) : Kind → Call → Host → Leaf → Prop
  | returns {kind : Kind} {call : Call} {after : Host} (hkeeps : Keeps handle host after)
      (hquits : Quits host handle kind call) (result : Result) :
      Turned host handle kind call after (.returned result)
  | continues {kind : Kind} {call : Call} {after : Host} {later : List Call} {failed : Bool}
      (hkeeps : Keeps handle host after) (hsilent : Silent later) (hgoing : Going kind later) :
    Turned host handle kind call after (.script kind handle later failed)
  /-- The plugin comes into service. -/
  | settles {activate failed : Bool} {after : Host}
      (hready : activate = true → ∀ plugin, host.pluginByHandle handle = some plugin →
        dependenciesReady host.plugins plugin = none)
      (hbecomes : Becomes (if activate then .loaded else .paused) handle host after) :
    Turned host handle (.start activate) (if activate then .load else .preparePause) after
      (.script (.start activate) handle [.publish .loaded, .publish .paused] failed)
  /-- The first event of a paused replacement is published, the second is still to come. -/
  | announces {failed : Bool}
      (hpaused : (host.pluginByHandle handle).any (·.state = .paused) = true) :
    Turned host handle (.start false) (.publish .loaded) host
      (.script (.start false) handle [.publish .paused] failed)
  | fails {activate failed : Bool} {call : Call} {after : Host} {later : List Call}
      (hbecomes : Becomes .error handle host after) (hsilent : Silent later)
      (hdirect : later.head? ≠ some .preparePause)
      (hclean : later.head? = some .unload → failed = false) :
    Turned host handle (.start activate) call after (.script (.start activate) handle later failed)
  | retains {activate : Bool} {call : Call} {after : Host}
    (hbecomes : Becomes .error handle host after)
      (result : Result) : Turned host handle (.start activate) call after (.returned result)
  /-- The image of a plugin that did not load is closed. -/
  | closes {activate : Bool} {write : PluginRecord → PluginRecord}
      (hwrite : ∀ plugin, SameManifest plugin (write plugin) ∧ (write plugin).library = false ∧
        (write plugin).state = plugin.state)
      (haccepting : ∀ plugin, (write plugin).acceptingResources = plugin.acceptingResources)
      (result : Result) :
    Turned host handle (.start activate) .unload
      { host.modify handle write with loadOrder := host.loadOrder.filter (· ≠ handle) }
      (.returned result)
  | pauses {failed : Bool} {after : Host} (hbecomes : Becomes .paused handle host after) :
    Turned host handle .pause .preparePause after (.script .pause handle [.publish .paused] failed)
  | unloads {disable wasRunning failed : Bool} :
    Turned host handle (.unload disable wasRunning) .unload (host.finishUnload handle disable)
      (.script (.unload disable wasRunning) handle [.publish .unloaded] failed)

theorem Turned.of_stop (ok : Bool) (hquits : Quits host handle kind call)
    (hkeeps : Keeps handle host after)
    (hturn : host.turn kind handle (failed || call.refused answer) answer call =
      (after, .stop ok)) :
    Turned host handle kind call (host.settle kind handle failed answer call rest).1
      (host.settle kind handle failed answer call rest).2 := by
  rw [settle_eq hturn]
  exact .returns hkeeps hquits _

theorem Turned.of_next (hkeeps : Keeps handle host after) (hsilent : Silent rest)
    (hgoing : Going kind rest)
    (hturn : host.turn kind handle (failed || call.refused answer) answer call =
      (after, .next)) :
    Turned host handle kind call (host.settle kind handle failed answer call rest).1
      (host.settle kind handle failed answer call rest).2 := by
  rw [settle_eq hturn]
  exact .continues hkeeps hsilent hgoing

section Unload

variable {disable wasRunning : Bool}

section

variable (hformed : call :: rest <:+ unloadCalls wasRunning)

include hformed

theorem unload_rest :
    rest = (unloadCalls wasRunning).drop ((unloadCalls wasRunning).idxOf call + 1) := by
  have hall : ∀ calls ∈ (unloadCalls wasRunning).tails, ∀ call ∈ calls.head?,
      calls.tail = (unloadCalls wasRunning).drop ((unloadCalls wasRunning).idxOf call + 1) := by
    cases wasRunning <;> decide
  exact hall _ ((List.mem_tails _ _).2 hformed) call rfl

theorem unload_silent (hcall : call ≠ .unload) : Silent rest := by
  have hall : ∀ calls ∈ (unloadCalls wasRunning).tails, ∀ call ∈ calls.head?,
      call ≠ .unload → Silent calls.tail := by
    cases wasRunning <;> decide
  exact hall _ ((List.mem_tails _ _).2 hformed) call rfl hcall

theorem settle_unload_turned :
    Turned host handle (.unload disable wasRunning) call
      (host.settle (.unload disable wasRunning) handle failed answer call rest).1
      (host.settle (.unload disable wasRunning) handle failed answer call rest).2 := by
  have hnever : Going (.unload disable wasRunning) rest := by
    intro activate hkind
    cases hkind
  have hquits : ∀ {call : Call}, Quits host handle (.unload disable wasRunning) call := by
    intro call activate hkind
    cases hkind
  have hrestored : Keeps handle host ((host.restorePluginDispatch handle).endTransition handle) :=
    (keeps_restore host handle).trans (keeps_endTransition _ handle)
  have hquarantined : ∀ diagnostic,
      Keeps handle host ((host.quarantine handle diagnostic).endTransition handle) :=
    fun diagnostic => (keeps_quarantine host handle diagnostic).trans (keeps_endTransition _ handle)
  have hended : Keeps handle host (host.endTransition handle) := keeps_endTransition host handle
  by_cases hcall : call = .unload
  · subst hcall
    have hrest : rest = [.publish .unloaded] := by
      rw [unload_rest hformed]
      cases wasRunning <;> rfl
    subst hrest
    exact .unloads
  have hnext : ∀ {after : Host}, Keeps handle host after →
      host.turn (.unload disable wasRunning) handle (failed || call.refused answer) answer call =
        (after, .next) →
      Turned host handle (.unload disable wasRunning) call
        (host.settle (.unload disable wasRunning) handle failed answer call rest).1
        (host.settle (.unload disable wasRunning) handle failed answer call rest).2 :=
    fun hkeeps hturn => .of_next hkeeps (unload_silent hformed hcall) hnever hturn
  cases call with
  | deactivate service =>
    by_cases hok : answer.result = .ok
    · refine hnext (.refl host handle) ?_
      cases service <;> exact if_neg (not_not_intro hok)
    · by_cases hsource2 : service = .source2Callbacks
      · subst hsource2
        refine .of_stop false hquits ?_ (if_pos hok)
        have hwritten : Keeps handle host (host.modify handle fun plugin =>
            { plugin with acceptingResources := true }) :=
          .of_modify fun _ => ⟨⟨⟨rfl, rfl, rfl, rfl, rfl, rfl⟩, rfl⟩, rfl⟩
        have hactivated : Keeps handle host (((host.modify handle fun plugin =>
            { plugin with acceptingResources := true }).setCommandsOwnedEnabled handle
              true).activate .source2Callbacks handle) :=
          hwritten.trans (Keeps.of_same rfl rfl ⟨rfl, rfl⟩)
        exact hactivated.trans (keeps_endTransition _ handle)
      · refine .of_stop false hquits hrestored ?_
        cases service <;> first
          | exact absurd rfl hsource2
          | exact if_pos hok
  | release service =>
    by_cases hok : answer.result = .ok
    · cases service with
      | factories =>
        have hremoved : Keeps handle host (host.removeCommandsOwnedBy handle) :=
          .of_same rfl rfl ⟨rfl, rfl⟩
        exact hnext hremoved (if_neg (not_not_intro hok))
      | source2Callbacks => exact hnext (.refl host handle) (if_neg (not_not_intro hok))
      | lifecycle => exact hnext (.refl host handle) (if_neg (not_not_intro hok))
      | convars => exact hnext (.refl host handle) (if_neg (not_not_intro hok))
      | pluginService => exact hnext (.refl host handle) (if_neg (not_not_intro hok))
      | keelhook => exact hnext (.refl host handle) (if_neg (not_not_intro hok))
      | publishedServices => exact hnext (.refl host handle) (if_neg (not_not_intro hok))
      | schemaEntities => exact hnext (.refl host handle) (if_neg (not_not_intro hok))
    · cases service with
      | factories => exact .of_stop false hquits (hquarantined _) (if_pos hok)
      | source2Callbacks => exact .of_stop false hquits (hquarantined _) (if_pos hok)
      | lifecycle => exact .of_stop false hquits (hquarantined _) (if_pos hok)
      | convars => exact .of_stop false hquits (hquarantined _) (if_pos hok)
      | pluginService => exact .of_stop false hquits (hquarantined _) (if_pos hok)
      | publishedServices => exact .of_stop false hquits hrestored (if_pos hok)
      | schemaEntities => exact .of_stop false hquits (hquarantined _) (if_pos hok)
      | keelhook =>
        by_cases hbusy : answer.result = .busy ∧
            (host.pluginByHandle handle).all (!·.cleanupPending) = true ∧ wasRunning = true
        · exact .of_stop false hquits hrestored ((if_pos hok).trans (if_pos hbusy))
        · exact .of_stop false hquits (hquarantined _) ((if_pos hok).trans (if_neg hbusy))
  | prepareUnload =>
    by_cases hagreed : answer.agreed = true
    · exact hnext (.refl host handle) (if_neg (by simp [hagreed]))
    · have hrefused : (!answer.agreed) = true := by simpa using hagreed
      cases wasRunning with
      | true => exact .of_stop false hquits hrestored (if_pos hrefused)
      | false => exact .of_stop false hquits hended (if_pos hrefused)
  | publish event => exact .of_stop true hquits (.refl host handle) rfl
  | preparePause => exact hnext (.refl host handle) rfl
  | load => exact hnext (.refl host handle) rfl
  | unload => exact absurd rfl hcall

end

end Unload

theorem settle_pause_turned (hformed : call :: rest <:+ pauseCalls) :
    Turned host handle .pause call (host.settle .pause handle failed answer call rest).1
      (host.settle .pause handle failed answer call rest).2 := by
  have hnever : Going .pause rest := by
    intro activate hkind
    cases hkind
  have hquits : ∀ {call : Call}, Quits host handle .pause call := by
    intro call activate hkind
    cases hkind
  have hrestored : Keeps handle host ((host.restorePluginDispatch handle).endTransition handle) :=
    (keeps_restore host handle).trans (keeps_endTransition _ handle)
  have hall : ∀ calls ∈ pauseCalls.tails, ∀ call ∈ calls.head?,
      (call ≠ .preparePause → Silent calls.tail) ∧
        (call = .preparePause → calls.tail = [.publish .paused]) := by decide
  obtain ⟨hsilent, hlast⟩ := hall _ ((List.mem_tails _ _).2 hformed) call rfl
  have hmem : call ∈ pauseCalls := hformed.subset List.mem_cons_self
  cases call with
  | deactivate service =>
    by_cases hok : answer.result = .ok
    · exact .of_next (.refl host handle) (hsilent (by simp)) hnever (if_neg (not_not_intro hok))
    · exact .of_stop false hquits hrestored (if_pos hok)
  | preparePause =>
    by_cases hagreed : answer.agreed = true
    · have hrest : rest = [.publish .paused] := hlast rfl
      have hturn : host.turn .pause handle (failed || Call.preparePause.refused answer) answer
          .preparePause =
          (host.modify handle fun plugin => { plugin with state := .paused }, .next) :=
        if_neg (by simp [hagreed])
      rw [settle_eq hturn, hrest]
      exact .pauses (.of_modify fun _ => ⟨⟨⟨rfl, rfl, rfl, rfl, rfl, rfl⟩, rfl⟩, rfl⟩)
    · exact .of_stop false hquits hrestored (if_pos (by simpa using hagreed))
  | publish event => exact .of_stop true hquits (keeps_endTransition host handle) rfl
  | release service => simp [pauseCalls] at hmem
  | prepareUnload => simp [pauseCalls] at hmem
  | load => simp [pauseCalls] at hmem
  | unload => simp [pauseCalls] at hmem

theorem settle_resume_turned (hformed : call :: rest <:+ resumeCalls) :
    Turned host handle .resume call (host.settle .resume handle failed answer call rest).1
      (host.settle .resume handle failed answer call rest).2 := by
  have hmem : call ∈ resumeCalls := hformed.subset List.mem_cons_self
  obtain rfl : call = .publish .resumed := by simpa [resumeCalls] using hmem
  refine .of_stop true (fun activate hkind => ?_) (keeps_endTransition host handle) rfl
  cases hkind

section Start

variable {activate : Bool}

theorem settle_start_turned (hformed : call :: rest <:+ startCalls)
    (hdirect : activate = true → call ≠ .preparePause) :
    Turned host handle (.start activate) call
      (host.settle (.start activate) handle failed answer call rest).1
      (host.settle (.start activate) handle failed answer call rest).2 := by
  have hrest := start_rest hformed
  have hmem : call ∈ startCalls := hformed.subset List.mem_cons_self
  have htold : ∀ {event : PluginEvent}, Quits host handle (.start activate) (.publish event) := by
    intro event _ _ hsilent
    cases hsilent
  cases call with
  | load =>
    have hbehind : rest = startCalls.drop 1 := hrest
    cases hplugin : host.pluginByHandle handle with
    | none =>
      refine .of_stop false (fun _ _ _ plugin hfound => ?_) (.refl host handle) ?_
      · rw [hplugin] at hfound
        cases hfound
      · simp only [turn, startTurn, hplugin]
    | some plugin =>
      generalize hwritten : (host.modify handle fun record =>
        { record with
          loading := false
          diagnostic :=
            if (plugin.load && answer.agreed) = true then
              ((dependenciesReady host.plugins plugin).elim record.diagnostic .changedDuringLoad)
            else if answer.threw = true then .threwDuringLoad else record.diagnostic }) = written
      have hkeeps : Keeps handle host written := by
        rw [← hwritten]
        exact .of_modify fun _ => ⟨⟨⟨rfl, rfl, rfl, rfl, rfl, rfl⟩, rfl⟩, rfl⟩
      have hsilenced : Keeps handle host (written.silence handle) :=
        hkeeps.trans (keeps_silence written handle)
      have hturn : host.turn (.start activate) handle (failed || Call.load.refused answer) answer
          .load =
          if ((plugin.load && answer.agreed) && (dependenciesReady host.plugins plugin).isNone) =
              true then
            if activate = true then (written.settleStart handle true, .skipTo (.publish .loaded))
            else (written.silence handle, .next)
          else (written.silence handle, .skipTo (.release .factories)) := by
        simp only [turn, startTurn, hplugin, ← hwritten]
      by_cases hloaded : ((plugin.load && answer.agreed) &&
          (dependenciesReady host.plugins plugin).isNone) = true
      · rw [if_pos hloaded] at hturn
        cases activate with
        | true =>
          rw [if_pos rfl] at hturn
          rw [settle_eq hturn, hbehind]
          refine .settles (fun _ found hfound => ?_)
            (hkeeps.trans (becomes_settled written handle true))
          rw [hplugin] at hfound
          cases hfound
          rw [Bool.and_eq_true] at hloaded
          exact Option.isNone_iff_eq_none.1 hloaded.2
        | false =>
          rw [if_neg (by simp)] at hturn
          refine .of_next hsilenced ?_ ?_ hturn
          · rw [hbehind]
            rfl
          · intro activate hkind
            cases hkind
            rw [hbehind]
            simp [startCalls]
      · rw [if_neg hloaded] at hturn
        rw [settle_eq hturn, hbehind]
        refine .continues hsilenced rfl fun _ _ => ?_
        simp [startCalls]
  | preparePause =>
    have hbehind : rest = startCalls.drop 2 := hrest
    by_cases hagreed : answer.agreed = true
    · have hturn : host.turn (.start activate) handle (failed || Call.preparePause.refused answer)
          answer .preparePause = (host.settleStart handle false, .skipTo (.publish .loaded)) :=
        if_pos hagreed
      obtain rfl : activate = false := by
        cases activate with
        | true => exact absurd rfl (hdirect rfl)
        | false => rfl
      rw [settle_eq hturn, hbehind]
      exact .settles (fun hnever => absurd hnever (by simp)) (becomes_settled host handle false)
    · have hturn : host.turn (.start activate) handle (failed || Call.preparePause.refused answer)
          answer .preparePause = (host.modify handle fun plugin =>
            { plugin with state := .error, diagnostic := .refusedPausedReplacement }, .next) :=
        if_neg hagreed
      rw [settle_eq hturn]
      refine .fails (.of_modify fun _ => ⟨⟨⟨rfl, rfl, rfl, rfl, rfl, rfl⟩, rfl⟩, rfl⟩) ?_ ?_ ?_
      · rw [hbehind]
        rfl
      · rw [hbehind]
        simp [startCalls]
      · rw [hbehind]
        simp [startCalls]
  | prepareUnload =>
    have hbehind : rest = startCalls.drop 3 := hrest
    by_cases hagreed : answer.agreed = true
    · refine .of_next (keeps_silence host handle) ?_ ?_ (if_pos hagreed)
      · rw [hbehind]
        rfl
      · intro _ _
        rw [hbehind]
        simp [startCalls]
    · exact .of_stop false (fun _ _ _ _ _ => rfl) (keeps_quarantine host handle _) (if_neg hagreed)
  | release service =>
    by_cases hkeelhook : service = .keelhook
    · subst hkeelhook
      have hbehind : rest = startCalls.drop 11 := hrest
      have hremoved : Keeps handle host (host.removeCommandsOwnedBy handle) :=
        .of_same rfl rfl ⟨rfl, rfl⟩
      have hfails : Becomes .error handle host ((host.removeCommandsOwnedBy handle).modify handle
          fun plugin => { plugin with state := .error }) := by
        have hwritten : Becomes .error handle (host.removeCommandsOwnedBy handle)
            ((host.removeCommandsOwnedBy handle).modify handle fun plugin =>
              { plugin with state := .error }) :=
          .of_modify fun _ => ⟨⟨⟨rfl, rfl, rfl, rfl, rfl, rfl⟩, rfl⟩, rfl⟩
        exact hremoved.trans hwritten
      by_cases hrefused : ((failed || (Call.release Service.keelhook).refused answer) ||
          decide (answer.result ≠ .ok)) = true
      · have hturn : host.turn (.start activate) handle
            (failed || (Call.release Service.keelhook).refused answer) answer
            (.release .keelhook) = (((host.removeCommandsOwnedBy handle).modify handle
              fun plugin => { plugin with state := .error }).quarantine handle .rollbackFailed,
              .stop false) := if_pos hrefused
        rw [settle_eq hturn]
        exact .retains (hfails.trans (keeps_quarantine _ handle _)) _
      · have hturn : host.turn (.start activate) handle
            (failed || (Call.release Service.keelhook).refused answer) answer
            (.release .keelhook) = ((host.removeCommandsOwnedBy handle).modify handle
              fun plugin => { plugin with state := .error }, .next) := if_neg hrefused
        rw [settle_eq hturn]
        refine .fails hfails ?_ ?_ fun _ => ?_
        · rw [hbehind]
          rfl
        · rw [hbehind]
          simp [startCalls]
        · rw [Bool.or_eq_true, not_or, Bool.not_eq_true] at hrefused
          exact hrefused.1
    · refine .of_next (.refl host handle) ?_ ?_ ?_
      · rw [hrest]
        cases service <;> first
          | exact absurd rfl hkeelhook
          | rfl
      · intro _ _
        rw [hrest]
        cases service <;> first
          | exact absurd rfl hkeelhook
          | simp [startCalls]
      · cases service <;> first
          | exact absurd rfl hkeelhook
          | rfl
  | unload =>
    refine .closes (fun plugin => ?_) (fun plugin => ?_) _
    · exact ⟨⟨rfl, rfl, rfl, rfl, rfl, rfl⟩, rfl, rfl⟩
    · rfl
  | publish event =>
    cases event with
    | loaded =>
      by_cases hpaused : (!activate) = true ∧
          (host.pluginByHandle handle).any (·.state = .paused) = true
      · obtain rfl : activate = false := by simpa using hpaused.1
        have hturn : host.turn (.start false) handle
            (failed || (Call.publish PluginEvent.loaded).refused answer) answer
            (.publish .loaded) = (host, .next) := if_pos hpaused
        rw [settle_eq hturn, hrest]
        exact .announces hpaused.2
      · exact .of_stop true htold (.refl host handle) (if_neg hpaused)
    | unloaded => exact .of_stop true htold (.refl host handle) rfl
    | paused => exact .of_stop true htold (.refl host handle) rfl
    | resumed => exact .of_stop true htold (.refl host handle) rfl
    | allLoaded => exact .of_stop true htold (.refl host handle) rfl
  | deactivate service => simp [startCalls] at hmem

end Start

/-- There is no other turn. -/
theorem settle_turned (hformed : Formed (.script kind handle (call :: rest) failed))
    (hdirect : kind = .start true → call ≠ .preparePause) :
    Turned host handle kind call (host.settle kind handle failed answer call rest).1
      (host.settle kind handle failed answer call rest).2 := by
  cases kind with
  | unload disable wasRunning => exact settle_unload_turned hformed
  | pause => exact settle_pause_turned hformed
  | resume => exact settle_resume_turned hformed
  | start activate =>
    refine settle_start_turned hformed fun hactivate => hdirect ?_
    rw [hactivate]

end Host
end KeelS2.Plugins
