import KeelS2.Plugins.Beginnings

/-!
# How a command begins

The first step of a command, and every step of a function that waits for another, may take a
plugin for the command: one that it found itself, one that is in service and not in transition,
or a new one. Nobody else holds such a plugin.
-/

namespace KeelS2.Plugins

/-- The plugins that a waiting function has found. -/
def Caller.owned : Caller → List KeelPluginHandle
  | .discoverAll _ _ found => found
  | .startAll found rest _ _ => found ++ rest
  | .rejectAll rest => rest
  | _ => []

def Next.owned (next : Next) : List KeelPluginHandle :=
  next.leaf.owned ++ next.callers.flatMap Caller.owned

namespace Host

/-- What keeps a plugin from being held by another command. -/
def Free (host : Host) (owned : List KeelPluginHandle) (handle : KeelPluginHandle) : Prop :=
  ¬host.Allotted handle ∨ ∃ plugin, host.pluginByHandle handle = some plugin ∧
    (handle ∈ owned ∧ plugin.state = .loading ∨
      (plugin.state = .loaded ∨ plugin.state = .paused) ∧ plugin.transitioning = false)

/-- What a step that begins something does, and how it leaves the command. -/
structure Opening (host : Host) (owned : List KeelPluginHandle) (slip : Prop) (next : Next) :
    Prop where
  change : ∃ handle restores, Change host next.host handle restores ∧
    (¬slip → Careful host next.host handle restores) ∧
    (Free host owned handle ∨ next.host.plugins = host.plugins ∧ restores = false) ∧
    ∀ hold other, next.leaf.hold = some (hold, other) →
      other = handle ∧ Free host owned handle ∧ next.host.Allotted handle ∧
        ∀ now, next.host.pluginByHandle handle = some now → hold.Ok next.host now
  owned : ∀ other ∈ next.owned, other ∈ owned ∨ ¬host.Allotted other ∧ next.host.Allotted other
  formed : Formed next.leaf
  stays : Stays host next.host

variable {host after : Host} {handle other : KeelPluginHandle} {old now plugin : PluginRecord}
variable {owned : List KeelPluginHandle} {slip : Prop} {next : Next} {files : Files}

theorem Opening.of_same (hplugins : next.host.plugins = host.plugins)
    (hrest : SameRest host next.host)
    (hcommands : next.host.commandsEnabled = host.commandsEnabled)
    (hdispatch : next.host.dispatch = host.dispatch) (hleaf : next.leaf.hold = none)
    (hformed : Formed next.leaf) (howned : ∀ other ∈ next.owned, other ∈ owned) :
    Opening host owned slip next where
  change := by
    refine ⟨0, false, .of_same hplugins hrest (fun other _ hon => ?_)
      (fun other _ service hon => ?_), fun _ => .of_quiet fun old now hold hnow hloaded => ?_,
      .inr ⟨hplugins, rfl⟩, fun hold other hheld => ?_⟩
    · rwa [hcommands] at hon
    · rwa [hdispatch] at hon
    · rw [pluginByHandle_congr hplugins, hold] at hnow
      cases hnow
      exact hloaded
    · rw [hleaf] at hheld
      cases hheld
  owned other hmem := .inl (howned other hmem)
  formed := hformed
  stays := .of_same hplugins

variable {record : Option KeelPluginHandle} {callers : List Caller} {ok : Bool}

theorem Opening.of_gives (hrecord : ∀ other ∈ record, other ∈ owned) :
    Opening host owned slip (host.gives ok record) := by
  refine .of_same rfl ⟨rfl, rfl⟩ rfl rfl rfl trivial fun other hmem => ?_
  refine hrecord other ?_
  simpa [gives, Next.owned, Leaf.owned] using hmem

theorem Opening.under {caller : Caller} (hopening : Opening host owned slip next)
    (hcaller : ∀ other ∈ caller.owned, other ∈ owned) :
    Opening host owned slip (next.under caller) where
  change := hopening.change
  owned other hmem := by
    simp only [Next.owned, Next.under, List.flatMap_append, List.flatMap_cons, List.flatMap_nil,
      List.append_nil, List.mem_append] at hmem
    rcases hmem with hmem | hmem | hmem
    · exact hopening.owned other (by simp [Next.owned, hmem])
    · refine hopening.owned other ?_
      rw [Next.owned, List.mem_append]
      exact .inr hmem
    · exact .inl (hcaller other hmem)
  formed := hopening.formed
  stays := hopening.stays

theorem Opening.of_callers (hopening : Opening host owned slip next)
    (hcallers : ∀ other ∈ callers.flatMap Caller.owned, other ∈ owned) :
    Opening host owned slip { next with callers := callers } where
  change := hopening.change
  owned other hmem := by
    simp only [Next.owned, List.mem_append] at hmem
    rcases hmem with hmem | hmem
    · exact hopening.owned other (by simp [Next.owned, hmem])
    · exact .inl (hcallers other hmem)
  formed := hopening.formed
  stays := hopening.stays

theorem discoverPlugin_opening (hnumbered : Numbered host) (filename : Text) :
    Opening host owned slip (host.discoverPlugin files filename) := by
  unfold discoverPlugin
  rcases hbegun : host.beginDiscover filename files.image with ⟨after, _ | fresh⟩
  · have hsame : after = host := by
      unfold beginDiscover at hbegun
      split at hbegun
      · cases hbegun
        rfl
      · cases hbegun
    rw [hsame]
    exact .of_gives (by simp)
  · obtain ⟨hchange, hfresh, hallotted, hfound, hstays⟩ := beginDiscover_change hnumbered hbegun
    have hnone : host.pluginByHandle fresh = none := by
      cases hold : host.pluginByHandle fresh with
      | none => rfl
      | some plugin =>
        have hmem := hnumbered.allotted plugin (mem_of_pluginByHandle hold)
        rw [pluginByHandle_handle hold] at hmem
        exact absurd hmem hfresh
    have hcareful : ¬slip → Careful host after fresh false := fun _ =>
      .of_quiet fun old now hold _ _ => by
        rw [hnone] at hold
        cases hold
    by_cases hopened : files.image = .opened
    · simp only [if_pos hopened]
      refine ⟨⟨fresh, false, hchange, hcareful, .inl (.inl hfresh), fun hold other hheld => ?_⟩,
        fun other hmem => ?_, trivial, hstays⟩
      · cases hheld
        refine ⟨rfl, .inl hfresh, hallotted, fun now hnow => ?_⟩
        rw [hfound, hopened] at hnow
        cases hnow
        exact ⟨rfl, rfl, rfl⟩
      · right
        simp only [Next.owned, Leaf.owned, List.flatMap_nil, List.append_nil,
          List.mem_singleton] at hmem
        rw [hmem]
        exact ⟨hfresh, hallotted⟩
    · simp only [if_neg hopened]
      refine ⟨⟨fresh, false, hchange, hcareful, .inl (.inl hfresh), fun hold other hheld => ?_⟩,
        fun other hmem => ?_, trivial, hstays⟩
      · cases hheld
      · right
        simp only [gives, Next.owned, Leaf.owned, Option.toList_some, List.flatMap_nil,
          List.append_nil, List.mem_singleton] at hmem
        rw [hmem]
        exact ⟨hfresh, hallotted⟩

/-! ## Starting and rejecting what was found -/

theorem rejectUnstarted_change (diagnostic : Diagnostic)
    (hok : ∀ plugin, host.pluginByHandle handle = some plugin → plugin.state = .loading) :
    Change host (host.rejectUnstartedPlugin handle diagnostic) handle false ∧
      NotLoading host (host.rejectUnstartedPlugin handle diagnostic) handle := by
  have hplugins : (host.rejectUnstartedPlugin handle diagnostic).plugins =
      (host.modify handle fun plugin => closePluginImage { plugin with
        acceptingResources := false, loading := false, state := .error, diagnostic := diagnostic
        load := false, unload := false }).plugins := rfl
  refine ⟨.of_modify hplugins (fun _ => rfl) ⟨rfl, rfl⟩ (fun old hold => ?_) (fun _ _ hon => hon)
    fun _ _ _ hon => hon, .of_modify hplugins (fun _ => rfl) fun _ hloaded => by cases hloaded⟩
  refine ⟨.failed ⟨rfl, rfl, rfl, rfl, rfl, rfl⟩ (.inl (hok old hold)) rfl, .inl rfl,
    fun _ hon => ?_⟩
  cases hon

theorem beginStart_change (host : Host) (handle : KeelPluginHandle) :
    Change host (host.beginStart handle) handle true := by
  have hplugins : (host.beginStart handle).plugins = (host.modify handle fun plugin =>
      { plugin with acceptingResources := true, loading := true }).plugins := rfl
  refine .of_modify hplugins (fun _ => rfl) ⟨rfl, rfl⟩ (fun old hold => ?_) (fun _ _ hon => hon)
    fun _ _ _ hon => hon
  exact ⟨.kept ⟨rfl, rfl, rfl, rfl, rfl, rfl⟩ rfl rfl, .inl rfl,
    fun hnever => absurd hnever (by simp)⟩

/-- Every step that takes a plugin found before, and is to be started, leaves it alone, rejects
it or starts it. -/
theorem Opening.of_reject (diagnostic : Diagnostic)
    (hplugin : host.pluginByHandle handle = some plugin) (hstate : plugin.state = .loading)
    (hmem : handle ∈ owned) (hrecord : ∀ other ∈ record, other ∈ owned)
    (hcallers : ∀ other ∈ callers.flatMap Caller.owned, other ∈ owned) :
    Opening host owned slip ⟨host.rejectUnstartedPlugin handle diagnostic,
      .returned ⟨ok, record⟩, callers⟩ := by
  have hok : ∀ plugin, host.pluginByHandle handle = some plugin → plugin.state = .loading := by
    intro other hother
    rw [hplugin] at hother
    cases hother
    exact hstate
  obtain ⟨hchange, hnot⟩ := rejectUnstarted_change diagnostic hok
  refine ⟨⟨handle, false, hchange, fun _ => .of_quiet hnot,
    .inl (.inr ⟨plugin, hplugin, .inl ⟨hmem, hstate⟩⟩), fun hold other hheld => ?_⟩,
    fun other hother => ?_, trivial, .of_modify rfl fun _ => rfl⟩
  · cases hheld
  · left
    simp only [Next.owned, Leaf.owned, List.mem_append, Option.mem_toList] at hother
    rcases hother with hother | hother
    · exact hrecord other hother
    · exact hcallers other hother

theorem Opening.of_start {activate : Bool} (hnumbered : Numbered host)
    (hplugin : host.pluginByHandle handle = some plugin) (hstate : plugin.state = .loading)
    (hpending : plugin.cleanupPending = false) (hmem : handle ∈ owned)
    (hcallers : ∀ other ∈ callers.flatMap Caller.owned, other ∈ owned) :
    Opening host owned slip ⟨host.beginStart handle,
      .script (.start activate) handle startCalls false, callers⟩ := by
  have hfree : Free host owned handle := .inr ⟨plugin, hplugin, .inl ⟨hmem, hstate⟩⟩
  have hallotted : host.Allotted handle := by
    rw [← pluginByHandle_handle hplugin]
    exact hnumbered.allotted plugin (mem_of_pluginByHandle hplugin)
  have hplugins : (host.beginStart handle).plugins = (host.modify handle fun plugin =>
      { plugin with acceptingResources := true, loading := true }).plugins := rfl
  have hnot : NotLoading host (host.beginStart handle) handle :=
    .of_modify hplugins (fun _ => rfl) fun _ hloaded => hloaded
  refine ⟨⟨handle, true, beginStart_change host handle, fun _ => .of_notLoading hnot
    fun _ old hold hquarantined => ?_, .inl hfree, fun hold other hheld => ?_⟩,
    fun other hother => ?_, List.suffix_refl _, .of_modify hplugins fun _ => rfl⟩
  · rw [hplugin] at hold
    cases hold
    rw [hpending] at hquarantined
    cases hquarantined
  · obtain ⟨rfl, hcases⟩ := start_hold hheld
    simp [startCalls] at hcases
    subst hcases
    refine ⟨rfl, hfree, hallotted, fun now hnow => ?_⟩
    rw [pluginByHandle_congr hplugins, pluginByHandle_modify, if_pos rfl, hplugin] at hnow
    · cases hnow
      exact ⟨hstate, hpending⟩
    · intro plugin
      rfl
  · left
    simp only [Next.owned, Leaf.owned, List.mem_append, List.mem_singleton] at hother
    rcases hother with rfl | hother
    · exact hmem
    · exact hcallers other hother

/-! ## Transitions -/

theorem Numbered.known (hnumbered : Numbered host)
    (hknown : host.knownPlugins.find? (fun plugin => plugin.handle == handle) = some plugin)
    (hstate : plugin.state ≠ .disabled) : host.pluginByHandle handle = some plugin := by
  unfold knownPlugins at hknown
  rw [List.find?_append, Option.or_eq_some_iff] at hknown
  rcases hknown with hknown | ⟨_, hknown⟩
  · exact hknown
  · exact absurd (hnumbered.disabled plugin (List.mem_of_find?_eq_some hknown)) hstate

theorem alone_of_hasRunningDependent {includeRetained : Bool}
    (halone : host.hasRunningDependent plugin includeRetained = false) :
    ∀ candidate ∈ host.plugins, candidate.handle ≠ plugin.handle → candidate.state = .loaded →
      ∀ dependency ∈ candidate.dependencies,
        equalInsensitive dependency.name plugin.name = false := by
  intro candidate hmem hne hloaded dependency hdependency
  unfold hasRunningDependent at halone
  simp only [Bool.or_eq_false_iff] at halone
  have hany := halone.1.1.2
  rw [List.any_eq_false] at hany
  have hcandidate := hany candidate hmem
  rw [Bool.not_eq_true, Bool.and_eq_false_iff] at hcandidate
  rcases hcandidate with hnot | hnone
  · simp [hne, hloaded] at hnot
  · rw [List.any_eq_false] at hnone
    simpa using hnone dependency hdependency

theorem begin_opening (kind : Kind) {includeRetained : Bool} (hnumbered : Numbered host)
    (hplugin : host.pluginByHandle handle = some plugin)
    (hstate : plugin.state = .loaded ∨ plugin.state = .paused)
    (htransition : plugin.transitioning = false)
    (halone : host.hasRunningDependent plugin includeRetained = false)
    (hhold : (Leaf.script kind handle (kindCalls kind) false).hold = some (.stopping, handle))
    (howned : (Leaf.script kind handle (kindCalls kind) false).owned = []) :
    Opening host owned slip
      ⟨(host.modify handle fun plugin => { plugin with transitioning := true }).silence handle,
        .script kind handle (kindCalls kind) false, []⟩ := by
  generalize hafter : (host.modify handle fun plugin =>
    { plugin with transitioning := true }).silence handle = after
  have hplugins : after.plugins = (host.modify handle fun plugin =>
      { plugin with transitioning := true, acceptingResources := false }).plugins := by
    rw [← hafter]
    exact modified_again (fun plugin => { plugin with acceptingResources := false }) rfl
      fun _ => rfl
  have hcommands : after.commandsEnabled = set host.commandsEnabled handle false := by
    rw [← hafter]
    rfl
  have hfree : Free host owned handle := .inr ⟨plugin, hplugin, .inr ⟨hstate, htransition⟩⟩
  have hallotted : host.Allotted handle := by
    rw [← pluginByHandle_handle hplugin]
    exact hnumbered.allotted plugin (mem_of_pluginByHandle hplugin)
  have hchange : Change host after handle false := by
    refine .of_modify hplugins (fun _ => rfl) (by rw [← hafter]; exact ⟨rfl, rfl⟩)
      (fun old hold => ?_) (fun other _ hon => ?_) fun other _ service hon => ?_
    · rw [hplugin] at hold
      cases hold
      refine ⟨.begun ⟨rfl, rfl, rfl, rfl, rfl, rfl⟩ hstate rfl
        (alone_of_hasRunningDependent halone), .inl rfl, fun _ hon => ?_⟩
      cases hon
    · rw [hcommands] at hon
      by_cases hother : other = handle
      · rw [hother, set_self] at hon
        cases hon
      · rwa [set_ne hother] at hon
    · rw [← hafter] at hon
      exact hon
  refine ⟨⟨handle, false, hchange, fun _ => .of_quiet (.of_modify hplugins (fun _ => rfl)
    fun _ hloaded => hloaded), .inl hfree, fun hold other hheld => ?_⟩, fun other hmem => ?_,
    List.suffix_refl _, .of_modify hplugins fun _ => rfl⟩
  · rw [hhold] at hheld
    cases hheld
    refine ⟨rfl, hfree, hchange.allotted _ hallotted, fun now hnow => ?_⟩
    rw [pluginByHandle_congr hplugins, pluginByHandle_modify, if_pos rfl, hplugin] at hnow
    · cases hnow
      refine ⟨hstate, rfl, rfl, ?_⟩
      change after.commandsEnabled plugin.handle = false
      rw [hcommands, pluginByHandle_handle hplugin, set_self]
    · intro plugin
      rfl
  · simp [Next.owned, howned] at hmem

/-- A resume makes a plugin in quarantine active, or lets one run that counts on such a plugin.
-/
def resumeSlips (host : Host) (handle : KeelPluginHandle) : Bool :=
  (host.pluginByHandle handle).any fun plugin =>
    (decide (plugin.state = .paused) && !plugin.transitioning &&
      (dependenciesReady host.plugins plugin).isNone) &&
        (plugin.cleanupPending || host.countsOnPending plugin)

theorem resume_opening (hnumbered : Numbered host)
    (hplugin : host.pluginByHandle handle = some plugin) (hpaused : plugin.state = .paused)
    (htransition : plugin.transitioning = false)
    (hready : dependenciesReady host.plugins plugin = none)
    (hslip : host.resumeSlips handle = true → slip) :
    Opening host owned slip
      ⟨(host.modify handle fun plugin =>
        { plugin with transitioning := true, state := .loaded }).restorePluginDispatch handle,
        .script .resume handle resumeCalls false, []⟩ := by
  generalize hafter : (host.modify handle fun plugin =>
    { plugin with transitioning := true, state := .loaded }).restorePluginDispatch handle = begun
  have hfree : Free host owned handle := .inr ⟨plugin, hplugin, .inr ⟨.inr hpaused, htransition⟩⟩
  have hallotted : host.Allotted handle := by
    rw [← pluginByHandle_handle hplugin]
    exact hnumbered.allotted plugin (mem_of_pluginByHandle hplugin)
  have hplugins : begun.plugins = (host.modify handle fun plugin => { plugin with
      transitioning := true, state := .loaded, acceptingResources := true
      factoryDispatchEnabled := true }).plugins := by
    rw [← hafter]
    exact (restored_plugins _ handle).1.trans (modified_again (fun plugin => { plugin with
      acceptingResources := true, factoryDispatchEnabled := true }) rfl fun _ => rfl)
  have hrest : SameRest host begun := by
    rw [← hafter]
    exact (restored_plugins _ handle).2
  have hflags := restored_flags (host.modify handle fun plugin =>
    { plugin with transitioning := true, state := .loaded }) handle
  have hchange : Change host begun handle true := by
    refine .of_modify hplugins (fun _ => rfl) hrest (fun old hold => ?_)
      (fun other hother hon => ?_) fun other hother service hon => ?_
    · rw [hplugin] at hold
      cases hold
      exact ⟨.resumed ⟨rfl, rfl, rfl, rfl, rfl, rfl⟩ hpaused rfl hready, .inl rfl,
        fun hnever => absurd hnever (by simp)⟩
    · rw [← hafter] at hon
      exact (hflags other hother).1 hon
    · rw [← hafter] at hon
      exact (hflags other hother).2 service hon
  refine ⟨⟨handle, true, hchange, fun hno => ⟨fun _ old hold hquarantined => ?_,
    fun old now hold _ _ _ dependency hmem target htarget => ?_⟩, .inl hfree,
    fun hold other hheld => ?_⟩, fun other hmem => ?_, List.suffix_refl _,
    .of_modify hplugins fun _ => rfl⟩
  · rw [hplugin] at hold
    cases hold
    exact absurd (hslip (by simp [resumeSlips, hplugin, hpaused, htransition, hready,
      hquarantined])) hno
  · by_contra hquarantined
    rw [Bool.not_eq_false] at hquarantined
    rw [hplugin] at hold
    cases hold
    have hcounts := countsOnPending_of hmem htarget hquarantined
    exact hno (hslip (by simp [resumeSlips, hplugin, hpaused, htransition, hready, hcounts]))
  · cases hheld
    refine ⟨rfl, hfree, hchange.allotted _ hallotted, fun now hnow => ?_⟩
    rw [pluginByHandle_congr hplugins, pluginByHandle_modify, if_pos rfl, hplugin] at hnow
    · cases hnow
      exact ⟨rfl, rfl⟩
    · intro plugin
      rfl
  · simp [Next.owned, Leaf.owned] at hmem

/-- Until it is started a plugin is not in quarantine. -/
def LoadingClean (host : Host) : Prop :=
  ∀ plugin ∈ host.plugins, plugin.state = .loading → plugin.cleanupPending = false

theorem LoadingClean.found (hclean : LoadingClean host)
    (hplugin : host.pluginByHandle handle = some plugin) (hstate : plugin.state = .loading) :
    plugin.cleanupPending = false :=
  hclean plugin (mem_of_pluginByHandle hplugin) hstate

/-! ## Records that are taken away first -/

/-- A record that nobody holds, or none, is taken away. -/
structure Clearing (host middle : Host) (gone : KeelPluginHandle) : Prop where
  change : Change host middle gone false
  nextPlugin : middle.nextPlugin = host.nextPlugin
  vanished : ∀ now, middle.pluginByHandle gone = some now →
    host.pluginByHandle gone = some now
  clean : ∀ old, host.pluginByHandle gone = some old → middle.pluginByHandle gone = none →
    old.cleanupPending = false

theorem Clearing.refl (host : Host) : Clearing host host 0 where
  change := .refl host 0
  nextPlugin := rfl
  vanished _ hnow := hnow
  clean old hold hnone := by
    rw [hold] at hnone
    cases hnone

theorem Clearing.of_remove (hserves : ∀ old, host.pluginByHandle handle = some old →
      old.state ≠ .loaded ∧ old.cleanupPending = false) :
    Clearing host (host.removePluginRecord handle) handle where
  change := .of_remove rfl rfl (fun hdisabled => hdisabled)
    (fun old hold hserving => (hserves old hold).1 hserving.1) (fun _ hon => hon)
    fun _ _ hon => hon
  nextPlugin := rfl
  vanished now hnow := by
    have hmem := mem_of_pluginByHandle hnow
    exact absurd (pluginByHandle_handle hnow) (by simpa using (List.mem_filter.1 hmem).2)
  clean old hold _ := (hserves old hold).2

theorem Clearing.forget {middle : Host} {gone : KeelPluginHandle} {keep : PluginRecord → Bool}
    (hclearing : Clearing host middle gone) :
    Clearing host { middle with
      disabledPlugins := middle.disabledPlugins.filter keep } gone where
  change :=
    { numbered := fun hnumbered =>
        have hmiddle := hclearing.change.numbered hnumbered
        ⟨hmiddle.unique, hmiddle.allotted, hmiddle.bound, fun plugin hmem =>
          hmiddle.disabled plugin (List.mem_of_mem_filter hmem)⟩
      allotted := hclearing.change.allotted
      others := hclearing.change.others
      moved := hclearing.change.moved
      gone := hclearing.change.gone
      commands := hclearing.change.commands
      dispatch := hclearing.change.dispatch }
  nextPlugin := hclearing.nextPlugin
  vanished := hclearing.vanished
  clean := hclearing.clean

/-- A step that may take a record away before it begins something. -/
def Opens (host : Host) (owned : List KeelPluginHandle) (slip : Prop) (next : Next) : Prop :=
  ∃ middle gone, Clearing host middle gone ∧ Opening middle owned slip next

theorem Opening.opens (hopening : Opening host owned slip next) : Opens host owned slip next :=
  ⟨host, 0, .refl host, hopening⟩

theorem Clears.clearing {middle : Host} (hclears : Clears host middle) :
    ∃ gone, Clearing host middle gone := by
  induction hclears with
  | nothing => exact ⟨0, .refl host⟩
  | @removes handle plugin hplugin hidle hpending =>
    refine ⟨handle, .of_remove fun old hold => ?_⟩
    rw [hplugin] at hold
    cases hold
    exact ⟨hidle.1, hpending⟩
  | forgets hclears keep ih =>
    obtain ⟨gone, hclearing⟩ := ih
    exact ⟨gone, hclearing.forget⟩

/-! ## Commands and functions that go on -/

/-- A step that begins something, as it is kept and as it is done. -/
structure Enters (host : Host) (files : Files) (owned : List KeelPluginHandle) (slip : Prop)
    (next : Next) : Prop where
  opens : Opens host owned slip next
  opened : Opened host files owned next

theorem Enters.of_gives (hrecord : ∀ other ∈ record, other ∈ owned) :
    Enters host files owned slip (host.gives ok record) :=
  ⟨(Opening.of_gives hrecord).opens, .of_same rfl _ rfl⟩

theorem Enters.of_loop (hcallers : ∀ other ∈ callers.flatMap Caller.owned, other ∈ owned) :
    Enters host files owned slip ⟨host, .returned ⟨ok, none⟩, callers⟩ := by
  have hopening : Opening host owned slip ⟨host, .returned ⟨ok, none⟩, callers⟩ :=
    .of_same rfl ⟨rfl, rfl⟩ rfl rfl rfl trivial fun other hmem => hcallers other (by
      simpa [Next.owned, Leaf.owned] using hmem)
  exact ⟨hopening.opens, .of_same rfl _ rfl⟩

theorem Enters.of_allLoaded : Enters host files owned slip ⟨host, .allLoaded, []⟩ := by
  have hopening : Opening host owned slip ⟨host, .allLoaded, []⟩ :=
    .of_same rfl ⟨rfl, rfl⟩ rfl rfl rfl trivial fun other hmem => by
      simp [Next.owned, Leaf.owned] at hmem
  exact ⟨hopening.opens, .of_begins .announces⟩

theorem Enters.of_bulk {bulk : Bool} (hrecord : ∀ other ∈ record, other ∈ owned)
    (hcallers : ∀ other ∈ callers.flatMap Caller.owned, other ∈ owned) :
    Enters host files owned slip
      ⟨{ host with bulkPluginOperation := bulk }, .returned ⟨ok, record⟩, callers⟩ := by
  have hopening : Opening host owned slip
      ⟨{ host with bulkPluginOperation := bulk }, .returned ⟨ok, record⟩, callers⟩ := by
    refine .of_same rfl ⟨rfl, rfl⟩ rfl rfl rfl trivial fun other hmem => ?_
    simp only [Next.owned, Leaf.owned, List.mem_append, Option.mem_toList] at hmem
    exact hmem.elim (hrecord other) (hcallers other)
  exact ⟨hopening.opens, .of_begins (.returns bulk _)⟩

theorem Enters.of_reject (diagnostic : Diagnostic)
    (hplugin : host.pluginByHandle handle = some plugin) (hstate : plugin.state = .loading)
    (hmem : handle ∈ owned) (hrecord : ∀ other ∈ record, other ∈ owned)
    (hcallers : ∀ other ∈ callers.flatMap Caller.owned, other ∈ owned) :
    Enters host files owned slip ⟨host.rejectUnstartedPlugin handle diagnostic,
      .returned ⟨ok, record⟩, callers⟩ :=
  ⟨(Opening.of_reject diagnostic hplugin hstate hmem hrecord hcallers).opens,
    .of_begins (.rejects hplugin hstate hmem diagnostic _)⟩

theorem Enters.of_start {activate : Bool} (hnumbered : Numbered host) (hclean : LoadingClean host)
    (hplugin : host.pluginByHandle handle = some plugin) (hstate : plugin.state = .loading)
    (hready : dependenciesReady host.plugins plugin = none ∨
      activate = true ∧ startReadiness host.plugins plugin = .ready)
    (hmem : handle ∈ owned)
    (hcallers : ∀ other ∈ callers.flatMap Caller.owned, other ∈ owned) :
    Enters host files owned slip ⟨host.beginStart handle,
      .script (.start activate) handle startCalls false, callers⟩ :=
  ⟨(Opening.of_start hnumbered hplugin hstate (hclean.found hplugin hstate) hmem hcallers).opens,
    .of_begins (.starts hplugin hstate hmem activate hready)⟩

theorem Enters.of_discover {middle : Host} (hnumbered : Numbered host)
    (hclears : Clears host middle) (filename : Text)
    (hcallers : ∀ other ∈ callers.flatMap Caller.owned, other ∈ owned) :
    Enters host files owned slip
      { middle.discoverPlugin files filename with callers := callers } := by
  obtain ⟨gone, hclearing⟩ := hclears.clearing
  have hopening : Opening middle owned slip (middle.discoverPlugin files filename) :=
    discoverPlugin_opening (hclearing.change.numbered hnumbered) filename
  exact ⟨⟨middle, gone, hclearing, hopening.of_callers hcallers⟩,
    ⟨middle, hclears, .discovers filename⟩⟩

theorem Enters.under {caller : Caller} (henters : Enters host files owned slip next)
    (hcaller : ∀ other ∈ caller.owned, other ∈ owned) :
    Enters host files owned slip (next.under caller) := by
  obtain ⟨⟨middle, gone, hclearing, hopening⟩, hopened⟩ := henters
  exact ⟨⟨middle, gone, hclearing, hopening.under hcaller⟩, hopened⟩

section

variable (hnumbered : Numbered host)

include hnumbered

theorem startUnload_enters (disable : Bool) :
    Enters host files owned slip (host.startUnload handle disable) := by
  unfold startUnload
  cases hbegun : host.beginUnload handle with
  | none => exact .of_gives (by simp)
  | some begun =>
    unfold beginUnload at hbegun
    split at hbegun
    · cases hbegun
    · next plugin hknown =>
      split at hbegun
      · cases hbegun
      · next hservice =>
        split at hbegun
        · cases hbegun
        · next htransition =>
          split at hbegun
          · cases hbegun
          · next halone =>
            cases hbegun
            have hstate : plugin.state = .loaded ∨ plugin.state = .paused := by tauto
            have hplugin := hnumbered.known hknown (by rcases hstate with h | h <;> simp [h])
            rw [Bool.not_eq_true] at htransition halone
            have hstopping : Call.unload ∈ unloadCalls (plugin.state = .loaded) := by
              cases decide (plugin.state = .loaded) <;> simp [unloadCalls]
            have hopening : Opening host owned slip _ :=
              begin_opening (.unload disable (plugin.state = .loaded)) hnumbered hplugin hstate
                htransition halone (if_pos hstopping) rfl
            exact ⟨hopening.opens, .of_begins (.unloads hplugin hstate htransition halone disable)⟩

theorem startPause_enters : Enters host files owned slip (host.startPause handle) := by
  unfold startPause
  cases hbegun : host.beginPause handle with
  | none => exact .of_gives (by simp)
  | some begun =>
    unfold beginPause at hbegun
    split at hbegun
    · cases hbegun
    · next plugin hplugin =>
      split at hbegun
      · cases hbegun
      · next hservice =>
        split at hbegun
        · cases hbegun
        · next htransition =>
          split at hbegun
          · cases hbegun
          · next halone =>
            cases hbegun
            have hstate : plugin.state = .loaded := by simpa using hservice
            rw [Bool.not_eq_true] at htransition halone
            have hopening : Opening host owned slip _ :=
              begin_opening .pause hnumbered hplugin (.inl hstate) htransition halone rfl rfl
            exact ⟨hopening.opens, .of_begins (.pauses hplugin hstate htransition halone)⟩

theorem startResume_enters (hslip : host.resumeSlips handle = true → slip) :
    Enters host files owned slip (host.startResume handle) := by
  unfold startResume
  cases hbegun : host.beginResume handle with
  | none => exact .of_gives (by simp)
  | some begun =>
    unfold beginResume at hbegun
    split at hbegun
    · cases hbegun
    · next plugin hplugin =>
      split at hbegun
      · cases hbegun
      · next hservice =>
        split at hbegun
        · cases hbegun
        · next htransition =>
          split at hbegun
          · cases hbegun
          · next hready =>
            cases hbegun
            have hstate : plugin.state = .paused := by simpa using hservice
            rw [Bool.not_eq_true] at htransition
            have hopening : Opening host owned slip _ :=
              resume_opening hnumbered hplugin hstate htransition hready hslip
            exact ⟨hopening.opens, .of_begins (.resumes hplugin hstate htransition hready)⟩

theorem resumeLoad_enters (hclean : LoadingClean host) (expected : Option Text) (activate : Bool)
    (hrecord : ∀ other ∈ record, other ∈ owned) :
    Enters host files owned slip (host.resumeLoad expected activate record) := by
  unfold resumeLoad
  cases record with
  | none => exact .of_gives hrecord
  | some handle =>
    have hmem : handle ∈ owned := hrecord handle rfl
    simp only
    cases hplugin : host.pluginByHandle handle with
    | none => exact .of_gives (by simp)
    | some plugin =>
      simp only
      by_cases hstate : plugin.state = .loading
      · rw [if_neg (not_not.2 hstate)]
        split
        · exact .of_reject .differentName hplugin hstate hmem hrecord (by simp)
        · split
          · next diagnostic _ => exact .of_reject diagnostic hplugin hstate hmem hrecord (by simp)
          · next hready =>
            exact .of_start hnumbered hclean hplugin hstate (.inl hready) hmem (by simp)
      · rw [if_pos hstate]
        exact .of_gives hrecord

theorem resumeDiscoverAll_enters (refresh : Bool) {found : List KeelPluginHandle} (rest : List Text)
    (hfound : ∀ other ∈ found ++ record.toList, other ∈ owned) :
    Enters host files owned slip (host.resumeDiscoverAll files refresh found record rest) := by
  cases rest with
  | nil =>
    simp only [resumeDiscoverAll]
    split
    · exact .of_gives (by simp)
    · refine .of_loop fun other hmem => hfound other ?_
      simp only [Caller.owned, List.flatMap_cons, List.flatMap_nil, List.append_nil,
        List.mem_append] at hmem
      rw [List.mem_append]
      tauto
  | cons filename rest =>
    have henters : Enters host files owned slip (host.discoverPlugin files filename) := by
      have hopening : Opening host owned slip (host.discoverPlugin files filename) :=
        discoverPlugin_opening hnumbered filename
      exact ⟨hopening.opens, .of_begins (.discovers filename)⟩
    exact henters.under hfound

theorem resumeStartAll_enters (hclean : LoadingClean host) {found rest : List KeelPluginHandle}
    (remaining progress : Bool) (hfound : ∀ other ∈ found ++ rest, other ∈ owned) :
    Enters host files owned slip (host.resumeStartAll found remaining progress rest) := by
  have hall : ∀ other ∈ found, other ∈ owned := fun other hmem =>
    hfound other (List.mem_append_left rest hmem)
  cases rest with
  | nil =>
    simp only [resumeStartAll]
    split
    · exact .of_allLoaded
    · split
      · exact .of_loop fun other hmem => hall other (by simpa [Caller.owned] using hmem)
      · exact .of_loop fun other hmem => hall other (by simpa [Caller.owned] using hmem)
  | cons handle rest =>
    have hcaller : ∀ remaining progress, ∀ other ∈
        [Caller.startAll found rest remaining progress].flatMap Caller.owned, other ∈ owned := by
      intro remaining progress other hmem
      refine hfound other ?_
      simp only [Caller.owned, List.flatMap_cons, List.flatMap_nil, List.append_nil,
        List.mem_append] at hmem
      rcases hmem with hmem | hmem
      · exact List.mem_append_left _ hmem
      · exact List.mem_append_right _ (List.mem_cons_of_mem handle hmem)
    have hmem : handle ∈ owned := hfound handle (by simp)
    cases hfilter : (host.pluginByHandle handle).filter (·.state = .loading) with
    | none =>
      simp only [resumeStartAll, hfilter]
      exact .of_loop (hcaller _ _)
    | some plugin =>
      obtain ⟨hplugin, hstate⟩ := Option.filter_eq_some_iff.1 hfilter
      have hloading : plugin.state = .loading := by simpa using hstate
      simp only [resumeStartAll, hfilter]
      cases hreadiness : startReadiness host.plugins plugin with
      | rejected diagnostic =>
        exact .of_reject diagnostic hplugin hloading hmem (by simp) (hcaller _ _)
      | waiting => exact .of_loop (hcaller _ _)
      | ready =>
        exact .of_start hnumbered hclean hplugin hloading (.inr ⟨rfl, hreadiness⟩) hmem
          (hcaller _ _)

end

theorem resumeRejectAll_enters {rest : List KeelPluginHandle}
    (hrest : ∀ other ∈ rest, other ∈ owned) :
    Enters host files owned slip (host.resumeRejectAll rest) := by
  cases rest with
  | nil => exact .of_allLoaded
  | cons handle rest =>
    have hcaller : ∀ other ∈ [Caller.rejectAll rest].flatMap Caller.owned, other ∈ owned := by
      intro other hmem
      refine hrest other (List.mem_cons_of_mem handle ?_)
      simpa [Caller.owned] using hmem
    cases hfilter : (host.pluginByHandle handle).filter (·.state = .loading) with
    | none =>
      simp only [resumeRejectAll, hfilter]
      exact .of_loop hcaller
    | some plugin =>
      simp only [resumeRejectAll, hfilter]
      obtain ⟨hplugin, hstate⟩ := Option.filter_eq_some_iff.1 hfilter
      exact .of_reject .dependencyCycle hplugin (by simpa using hstate) (hrest handle (by simp))
        (by simp) hcaller

section

variable (hnumbered : Numbered host)

include hnumbered

theorem reloadPlugin_enters : Enters host files owned slip (host.reloadPlugin files handle) := by
  unfold reloadPlugin
  split
  · exact .of_gives (by simp)
  · split
    · exact .of_gives (by simp)
    · split
      · exact .of_gives (by simp)
      · split
        · exact .of_gives (by simp)
        · split
          · exact .of_gives (by simp)
          · exact (startUnload_enters hnumbered false).under (by simp [Caller.owned])

theorem resumeReload_enters (filename name : Text) (wasPaused : Bool) (result : Result)
    (stage : ReloadStage) :
    Enters host files owned slip
      (host.resumeReload files filename name wasPaused result stage) := by
  have hload : ∀ {middle : Host} {stage : ReloadStage}, Clears host middle →
      Enters host files owned slip ((middle.loadPlugin files filename (some name)
        (!wasPaused)).under (.reload stage filename name wasPaused)) := fun hclears =>
    (Enters.of_discover hnumbered hclears filename (by simp [Caller.owned])).under
      (by simp [Caller.owned])
  cases stage with
  | unloading =>
    simp only [resumeReload]
    split
    · exact .of_gives (by simp)
    · exact hload .nothing
  | loading =>
    cases hfound : result.record.bind host.pluginByHandle with
    | none =>
      simp only [resumeReload, hfound]
      exact hload .nothing
    | some candidate =>
      simp only [resumeReload, hfound]
      split
      · exact .of_gives (by simp)
      · split
        · exact .of_gives (by simp)
        · next hpending =>
          split
          · exact (startUnload_enters hnumbered false).under (by simp [Caller.owned])
          · next hservice =>
            cases hlibrary : candidate.library with
            | true =>
              simp only [if_true]
              exact hload .nothing
            | false =>
              obtain ⟨record, _, hcandidate⟩ := Option.bind_eq_some_iff.1 hfound
              exact hload (.removes (pluginByHandle_self hcandidate) (not_or.1 hservice)
                (by simpa using hpending) hlibrary)
  | removing => exact hload .nothing
  | restoring => exact .of_gives (by simp)

theorem resumeUnloadAll_enters (order attempted : List KeelPluginHandle) (progress : Bool)
    (result : Result) (rest : List KeelPluginHandle) :
    Enters host files owned slip
      (host.resumeUnloadAll order attempted progress result rest) := by
  cases rest with
  | nil =>
    simp only [resumeUnloadAll]
    split
    · exact .of_loop (by simp [Caller.owned])
    · exact .of_gives (by simp)
  | cons handle rest =>
    cases hplugin : host.pluginByHandle handle with
    | none =>
      simp only [resumeUnloadAll, hplugin]
      exact .of_loop (by simp [Caller.owned])
    | some plugin =>
      simp only [resumeUnloadAll, hplugin]
      split
      · exact .of_loop (by simp [Caller.owned])
      · exact (startUnload_enters hnumbered true).under (by simp [Caller.owned])

theorem resumeRefresh_enters (paths newPaths : List Text) (running : List KeelPluginHandle) :
    Enters host files owned slip (host.resumeRefresh files paths newPaths running) := by
  cases running with
  | nil => exact .of_loop (by simp [Caller.owned])
  | cons handle rest =>
    cases hplugin : host.pluginByHandle handle with
    | none =>
      simp only [resumeRefresh, hplugin]
      exact .of_loop (by simp [Caller.owned])
    | some plugin =>
      simp only [resumeRefresh, hplugin]
      split
      · exact (reloadPlugin_enters hnumbered).under (by simp [Caller.owned])
      · exact .of_loop (by simp [Caller.owned])

theorem resume_enters (hclean : LoadingClean host) (result : Result) (caller : Caller)
    (howned : ∀ other ∈ result.record.toList ++ caller.owned, other ∈ owned) :
    Enters host files owned slip (host.resume files result caller) := by
  have hrecord : ∀ other ∈ result.record, other ∈ owned := fun other hmem =>
    howned other (List.mem_append_left _ (by simpa using hmem))
  have hcaller : ∀ other ∈ caller.owned, other ∈ owned := fun other hmem =>
    howned other (List.mem_append_right _ hmem)
  cases caller with
  | load expected activate => exact resumeLoad_enters hnumbered hclean expected activate hrecord
  | discoverAll refresh rest found =>
    refine resumeDiscoverAll_enters hnumbered refresh rest fun other hmem => ?_
    refine howned other ?_
    rw [List.mem_append] at hmem ⊢
    exact hmem.symm
  | startAll found rest remaining progress =>
    exact resumeStartAll_enters hnumbered hclean remaining progress hcaller
  | rejectAll rest => exact resumeRejectAll_enters hcaller
  | reload stage filename name wasPaused =>
    exact resumeReload_enters hnumbered filename name wasPaused result stage
  | unloadAll order rest attempted progress =>
    exact resumeUnloadAll_enters hnumbered order attempted progress result rest
  | refresh running paths newPaths => exact resumeRefresh_enters hnumbered paths newPaths running
  | bulkEnds => exact .of_bulk hrecord (by simp)

end

/-- The command lets a plugin in quarantine be active, or lets one run that counts on such a
plugin. -/
def commandSlips (host : Host) : Command → Bool
  | .resume handle => host.resumeSlips handle
  | _ => false

section

variable (hnumbered : Numbered host)

include hnumbered

theorem loadPluginCommand_enters (filename : Text) :
    Enters host files owned slip (host.loadPluginCommand files filename) := by
  have hfresh : ∀ {middle : Host}, Clears host middle →
      Enters host files owned slip ({ middle with
        disabledPlugins := middle.disabledPlugins.filter fun plugin =>
          !equalInsensitive plugin.filename filename }.loadPlugin files filename none true) :=
    fun hclears => .of_discover hnumbered (.forgets hclears _) filename (by simp [Caller.owned])
  unfold loadPluginCommand
  split
  · exact hfresh .nothing
  · next existing hfound =>
    split
    · exact .of_gives (by simp)
    · next hservice =>
      split
      · exact .of_gives (by simp)
      · next hclean =>
        rw [Bool.or_eq_true, not_or] at hclean
        have hplugin := hnumbered.find_mem (List.mem_of_find?_eq_some hfound)
        exact hfresh (.removes hplugin (not_or.1 hservice) (by simpa using hclean.1)
          (by simpa using hclean.2))

theorem retryPlugin_enters : Enters host files owned slip (host.retryPlugin files handle) := by
  unfold retryPlugin
  split
  · exact .of_gives (by simp)
  · next plugin hknown =>
    split
    · exact .of_gives (by simp)
    · next hservice =>
      split
      · exact .of_gives (by simp)
      · next hclean =>
        rw [Bool.or_eq_true, not_or] at hclean
        have hidle : plugin.state ≠ .loaded ∧ plugin.state ≠ .paused := by
          constructor
          · intro hloaded
            simp [hloaded] at hservice
          · intro hpaused
            simp [hpaused] at hservice
        have hplugin := hnumbered.known hknown fun hdisabled => by
          simp [hdisabled] at hservice
        exact .of_discover hnumbered (.removes hplugin hidle (by simpa using hclean.1)
          (by simpa using hclean.2)) plugin.filename (by simp [Caller.owned])

theorem invoke_enters (command : Command) (hslip : host.commandSlips command = true → slip) :
    Enters host files owned slip (host.invoke files command) := by
  cases command with
  | loadPlugins paths => exact .of_loop (by simp [Caller.owned])
  | load filename => exact loadPluginCommand_enters hnumbered filename
  | unload handle => exact startUnload_enters hnumbered true
  | reload handle => exact reloadPlugin_enters hnumbered
  | retry handle => exact retryPlugin_enters hnumbered
  | pause handle => exact startPause_enters hnumbered
  | resume handle => exact startResume_enters hnumbered hslip
  | unloadAll => exact .of_bulk (by simp) (by simp [Caller.owned])
  | refresh =>
    cases hpaths : files.paths with
    | none =>
      simp only [invoke, hpaths]
      exact .of_bulk (by simp) (by simp)
    | some paths =>
      simp only [invoke, hpaths]
      exact .of_bulk (by simp) (by simp [Caller.owned])

theorem resume_opened (hclean : LoadingClean host) (result : Result) (caller : Caller) :
    Opened host files (result.record.toList ++ caller.owned) (host.resume files result caller) :=
  have henters : Enters host files (result.record.toList ++ caller.owned) True _ :=
    resume_enters hnumbered hclean result caller fun _ hmem => hmem
  henters.opened

theorem invoke_opened (command : Command) : Opened host files [] (host.invoke files command) :=
  have henters : Enters host files [] True _ := invoke_enters hnumbered command fun _ => trivial
  henters.opened

end

end Host
end KeelS2.Plugins
