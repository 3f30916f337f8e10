import KeelS2.Plugins.Turns

/-!
# Images that are open

A plugin in service has its image open, and so has one that a command holds. A record is taken
away only with its image closed, so what a command holds stays there, as it left it, until the
command has its next turn (`step_stands`).
-/

namespace KeelS2.Plugins

/-- What others leave of a record that is held. -/
structure Stands (old now : PluginRecord) : Prop where
  image : Host.SameImage old now
  state : now.state = old.state
  transitioning : now.transitioning = old.transitioning

theorem Stands.refl (plugin : PluginRecord) : Stands plugin plugin :=
  ⟨⟨⟨rfl, rfl, rfl, rfl, rfl, rfl⟩, rfl⟩, rfl, rfl⟩

namespace Host

variable {host middle after : Host} {handle other : KeelPluginHandle} {plugin : PluginRecord}
variable {files : Files} {owned : List KeelPluginHandle} {leaf : Leaf} {hold : Hold}

def image (plugin : PluginRecord) : KeelPluginHandle × Bool :=
  (plugin.handle, plugin.library)

/-- Whether the plugin's image is open, if there is a record of it. -/
def openImage (host : Host) (handle : KeelPluginHandle) : Option Bool :=
  (host.pluginByHandle handle).map (·.library)

theorem openImage_found (hplugin : host.pluginByHandle handle = some plugin) :
    host.openImage handle = some plugin.library := by
  unfold openImage
  rw [hplugin]
  rfl

theorem openImage_congr (hplugins : after.pluginByHandle handle = host.pluginByHandle handle) :
    after.openImage handle = host.openImage handle := by
  unfold openImage
  rw [hplugins]

/-! ## Records that stand -/

section

variable (hrel : Option.Rel Stands (host.pluginByHandle handle) (after.pluginByHandle handle))

include hrel

theorem was_of_rel {now : PluginRecord} (hnow : after.pluginByHandle handle = some now) :
    ∃ old, host.pluginByHandle handle = some old ∧ Stands old now := by
  rw [hnow] at hrel
  generalize host.pluginByHandle handle = found at hrel ⊢
  cases hrel with
  | some hstands => exact ⟨_, rfl, hstands⟩

theorem openImage_of_rel : after.openImage handle = host.openImage handle := by
  unfold openImage
  generalize host.pluginByHandle handle = old at hrel ⊢
  generalize after.pluginByHandle handle = now at hrel ⊢
  cases hrel with
  | some hstands => exact congrArg some hstands.image.library
  | none => rfl

end

theorem rel_of_same (hsame : after.pluginByHandle handle = host.pluginByHandle handle) :
    Option.Rel Stands (host.pluginByHandle handle) (after.pluginByHandle handle) := by
  rw [hsame]
  cases host.pluginByHandle handle with
  | none => exact .none
  | some plugin => exact .some (.refl plugin)

/-! ## Records that are written to -/

/-- Every record is still there, in its state. -/
def Standing (host after : Host) : Prop :=
  ∀ handle, Option.Rel Stands (host.pluginByHandle handle) (after.pluginByHandle handle)

theorem Standing.of_same (hplugins : after.plugins = host.plugins) : Standing host after := by
  intro handle
  exact rel_of_same (pluginByHandle_congr hplugins)

variable {write : PluginRecord → PluginRecord} {kind : Kind}

theorem Standing.of_modify (hplugins : after.plugins = (host.modify handle write).plugins)
    (hwrite : ∀ plugin, Stands plugin (write plugin)) : Standing host after := by
  intro other
  rw [pluginByHandle_congr hplugins,
    pluginByHandle_modify fun plugin => (hwrite plugin).image.manifest.handle]
  cases host.pluginByHandle other with
  | none =>
    rw [Option.map_none, ite_self]
    exact .none
  | some plugin =>
    by_cases hother : other = handle
    · rw [if_pos hother]
      exact .some (hwrite plugin)
    · rw [if_neg hother]
      exact .some (.refl plugin)

theorem calling_standing (host : Host) (handle : KeelPluginHandle) (call : Call) :
    Standing host (host.calling handle call) := by
  cases call with
  | preparePause => exact .of_modify rfl fun _ => ⟨⟨⟨rfl, rfl, rfl, rfl, rfl, rfl⟩, rfl⟩, rfl, rfl⟩
  | prepareUnload => exact .of_modify rfl fun _ => ⟨⟨⟨rfl, rfl, rfl, rfl, rfl, rfl⟩, rfl⟩, rfl, rfl⟩
  | unload => exact .of_modify rfl fun _ => ⟨⟨⟨rfl, rfl, rfl, rfl, rfl, rfl⟩, rfl⟩, rfl, rfl⟩
  | deactivate service => exact .of_same rfl
  | release service => exact .of_same rfl
  | load => exact .of_same rfl
  | publish event => exact .of_same rfl

theorem called_standing (host : Host) (handle : KeelPluginHandle) (call : Call)
    (answer : Answer) : Standing host (host.called handle call answer) := by
  cases call with
  | preparePause => exact .of_modify rfl fun _ => ⟨⟨⟨rfl, rfl, rfl, rfl, rfl, rfl⟩, rfl⟩, rfl, rfl⟩
  | prepareUnload => exact .of_modify rfl fun _ => ⟨⟨⟨rfl, rfl, rfl, rfl, rfl, rfl⟩, rfl⟩, rfl, rfl⟩
  | unload => exact .of_modify rfl fun _ => ⟨⟨⟨rfl, rfl, rfl, rfl, rfl, rfl⟩, rfl⟩, rfl, rfl⟩
  | deactivate service =>
    refine .of_same ?_
    simp only [called]
    split_ifs <;> rfl
  | release service =>
    refine .of_same ?_
    simp only [called]
    split_ifs <;> rfl
  | load => exact .of_same rfl
  | publish event => exact .of_same rfl

theorem happen_standing (host : Host) (event : Event) : Standing host (host.happen event) := by
  cases event with
  | connect service =>
    refine .of_same ?_
    simp only [happen]
    split <;> rfl
  | acquire service handle =>
    refine .of_same ?_
    simp only [happen]
    split
    · rfl
    · split <;> rfl
  | preparePause handle callback =>
    refine .of_modify rfl fun plugin => ?_
    split
    · exact ⟨⟨⟨rfl, rfl, rfl, rfl, rfl, rfl⟩, rfl⟩, rfl, rfl⟩
    · exact .refl plugin
  | prepareUnload handle callback =>
    refine .of_modify rfl fun plugin => ?_
    split
    · exact ⟨⟨⟨rfl, rfl, rfl, rfl, rfl, rfl⟩, rfl⟩, rfl, rfl⟩
    · exact .refl plugin
  | operations handle count =>
    exact .of_modify rfl fun plugin => ⟨⟨⟨rfl, rfl, rfl, rfl, rfl, rfl⟩, rfl⟩, rfl, rfl⟩
  | uses commandActive pinned leased => exact .of_same rfl

/-! ## What is begun leaves what is held -/

theorem pluginByHandle_removed (hne : other ≠ handle) :
    (host.removePluginRecord handle).pluginByHandle other = host.pluginByHandle other := by
  unfold pluginByHandle removePluginRecord
  rw [List.find?_filter]
  congr 1
  funext plugin
  by_cases hsame : plugin.handle = other
  · simp [hsame, hne]
  · simp [hsame]

theorem pluginByHandle_gone (host : Host) (handle : KeelPluginHandle) :
    (host.removePluginRecord handle).pluginByHandle handle = none := by
  unfold pluginByHandle removePluginRecord
  rw [List.find?_eq_none]
  intro plugin hmem
  simpa using (List.mem_filter.1 hmem).2

theorem found_of_removed (hplugin :
      (host.removePluginRecord handle).pluginByHandle other = some plugin) :
    host.pluginByHandle other = some plugin := by
  by_cases hother : other = handle
  · have hmem := mem_of_pluginByHandle hplugin
    have hne : plugin.handle ≠ handle := by
      simpa using (List.mem_filter.1 hmem).2
    exact absurd ((pluginByHandle_handle hplugin).trans hother) hne
  · rwa [pluginByHandle_removed hother] at hplugin

section

variable (hclears : Clears host middle)

include hclears

theorem Clears.kept (hopen : host.openImage other = some true) :
    middle.pluginByHandle other = host.pluginByHandle other := by
  induction hclears with
  | nothing => rfl
  | @removes handle plugin hplugin _ _ hclosed =>
    refine pluginByHandle_removed fun hsame => ?_
    rw [hsame, openImage_found hplugin, hclosed] at hopen
    cases hopen
  | forgets hclears keep ih => exact ih

theorem Clears.numbered (hnumbered : Numbered host) : Numbered middle := by
  induction hclears with
  | nothing => exact hnumbered
  | @removes handle plugin hplugin hidle _ _ =>
    have hchange : Change host (host.removePluginRecord handle) handle false := by
      refine .of_remove rfl rfl (fun hdisabled => hdisabled) (fun old hold hserving => ?_)
        (fun _ hon => hon) fun _ _ hon => hon
      rw [hplugin] at hold
      cases hold
      exact hidle.1 hserving.1
    exact hchange.numbered hnumbered
  | forgets hclears keep ih =>
    exact ⟨ih.unique, ih.allotted, ih.bound, fun plugin hmem =>
      ih.disabled plugin (List.mem_of_mem_filter hmem)⟩

theorem Clears.nextPlugin : middle.nextPlugin = host.nextPlugin := by
  induction hclears with
  | nothing => rfl
  | removes => rfl
  | forgets hclears keep ih => exact ih

theorem Clears.commands : middle.commandsEnabled = host.commandsEnabled := by
  induction hclears with
  | nothing => rfl
  | removes => rfl
  | forgets hclears keep ih => exact ih

theorem Clears.found (hplugin : middle.pluginByHandle other = some plugin) :
    host.pluginByHandle other = some plugin := by
  induction hclears with
  | nothing => exact hplugin
  | removes => exact found_of_removed hplugin
  | forgets hclears keep ih => exact ih hplugin

end

theorem pluginByHandle_modify_ne (hplugins : after.plugins = (host.modify handle write).plugins)
    (hwrite : ∀ plugin, (write plugin).handle = plugin.handle) (hne : other ≠ handle) :
    after.pluginByHandle other = host.pluginByHandle other := by
  rw [pluginByHandle_congr hplugins, pluginByHandle_modify hwrite, if_neg hne]

theorem was_of_modify {now : PluginRecord}
    (hplugins : after.plugins = (host.modify handle write).plugins)
    (hwrite : ∀ plugin, (write plugin).handle = plugin.handle)
    (hnow : after.pluginByHandle handle = some now) :
    ∃ old, host.pluginByHandle handle = some old ∧ write old = now := by
  rw [pluginByHandle_congr hplugins, pluginByHandle_modify hwrite, if_pos rfl] at hnow
  exact Option.map_eq_some_iff.1 hnow

theorem begun_plugins (host : Host) (handle : KeelPluginHandle) :
    ((host.modify handle fun plugin => { plugin with transitioning := true }).silence
      handle).plugins = (host.modify handle fun plugin =>
        { plugin with transitioning := true, acceptingResources := false }).plugins :=
  modified_again (fun plugin => { plugin with acceptingResources := false }) rfl fun _ => rfl

theorem started_plugins (host : Host) (handle : KeelPluginHandle) :
    (host.beginStart handle).plugins = (host.modify handle fun plugin =>
      { plugin with acceptingResources := true, loading := true }).plugins := rfl

theorem rejected_plugins (host : Host) (handle : KeelPluginHandle) (diagnostic : Diagnostic) :
    (host.rejectUnstartedPlugin handle diagnostic).plugins = (host.modify handle fun plugin =>
      closePluginImage { plugin with
        acceptingResources := false, loading := false, state := .error, diagnostic := diagnostic
        load := false, unload := false }).plugins := rfl

theorem resumed_plugins (host : Host) (handle : KeelPluginHandle) :
    ((host.modify handle fun plugin =>
        { plugin with transitioning := true, state := .loaded }).restorePluginDispatch
          handle).plugins = (host.modify handle fun plugin =>
        { plugin with
          transitioning := true, state := .loaded, acceptingResources := true
          factoryDispatchEnabled := true }).plugins :=
  (restored_plugins _ handle).1.trans (modified_again (fun plugin =>
    { plugin with acceptingResources := true, factoryDispatchEnabled := true }) rfl fun _ => rfl)

/-- The first step of a command writes to one plugin that is free, or to none. -/
theorem Begins.touches (hbegins : Begins host files owned after leaf) (hnumbered : Numbered host) :
    ∃ handle, (Free host owned handle ∨ after.plugins = host.plugins) ∧
      ∀ other, other ≠ handle → after.pluginByHandle other = host.pluginByHandle other := by
  cases hbegins with
  | returns bulk result => exact ⟨0, .inr rfl, fun _ _ => rfl⟩
  | announces => exact ⟨0, .inr rfl, fun _ _ => rfl⟩
  | discovers filename =>
    rcases hbegun : host.beginDiscover filename files.image with ⟨next, _ | fresh⟩
    · have hsame : next = host := by
        unfold beginDiscover at hbegun
        split at hbegun
        · cases hbegun
          rfl
        · cases hbegun
      have hnext : (host.discoverPlugin files filename).host = next := by
        unfold discoverPlugin
        rw [hbegun]
        rfl
      rw [hnext, hsame]
      exact ⟨0, .inr rfl, fun _ _ => rfl⟩
    · obtain ⟨hchange, hfresh, _⟩ := beginDiscover_change hnumbered hbegun
      have hnext : (host.discoverPlugin files filename).host = next := by
        unfold discoverPlugin
        rw [hbegun]
        simp only
        split <;> rfl
      rw [hnext]
      exact ⟨fresh, .inl (.inl hfresh), hchange.others⟩
  | @rejects handle plugin hplugin hstate howned diagnostic result =>
    refine ⟨handle, .inl (.inr ⟨plugin, hplugin, .inl ⟨howned, hstate⟩⟩), fun other hne => ?_⟩
    exact pluginByHandle_modify_ne rfl (fun _ => rfl) hne
  | @starts handle plugin hplugin hstate howned activate hready =>
    refine ⟨handle, .inl (.inr ⟨plugin, hplugin, .inl ⟨howned, hstate⟩⟩), fun other hne => ?_⟩
    exact pluginByHandle_modify_ne rfl (fun _ => rfl) hne
  | @unloads handle plugin hplugin hstate htransition halone disable =>
    refine ⟨handle, .inl (.inr ⟨plugin, hplugin, .inr ⟨hstate, htransition⟩⟩), fun other hne => ?_⟩
    exact pluginByHandle_modify_ne (begun_plugins host handle) (fun _ => rfl) hne
  | @pauses handle plugin hplugin hstate htransition halone =>
    refine ⟨handle, .inl (.inr ⟨plugin, hplugin, .inr ⟨.inl hstate, htransition⟩⟩),
      fun other hne => ?_⟩
    exact pluginByHandle_modify_ne (begun_plugins host handle) (fun _ => rfl) hne
  | @resumes handle plugin hplugin hstate htransition hready =>
    refine ⟨handle, .inl (.inr ⟨plugin, hplugin, .inr ⟨.inr hstate, htransition⟩⟩),
      fun other hne => ?_⟩
    exact pluginByHandle_modify_ne (resumed_plugins host handle) (fun _ => rfl) hne

theorem Opened.kept {next : Next} (hopened : Opened host files owned next)
    (hnumbered : Numbered host) (hallotted : host.Allotted other)
    (hopen : host.openImage other = some true)
    (hok : ∀ plugin, host.pluginByHandle other = some plugin → hold.Ok host plugin)
    (howned : hold ≠ .stopping → hold ≠ .resuming → other ∉ owned) :
    next.host.pluginByHandle other = host.pluginByHandle other := by
  obtain ⟨middle, hclears, hbegins⟩ := hopened
  have hkept := hclears.kept hopen
  obtain ⟨handle, hfree, hothers⟩ := hbegins.touches (hclears.numbered hnumbered)
  rcases hfree with hfree | hplugins
  · have hne : other ≠ handle := by
      intro hsame
      subst hsame
      refine hfree.not_held (hallotted.of_nextPlugin hclears.nextPlugin) ?_ howned
      intro plugin hplugin
      rw [hkept] at hplugin
      refine ok_of_commands (fun hon => ?_) (hok plugin hplugin)
      rwa [hclears.commands] at hon
    exact (hothers other hne).trans hkept
  · exact (pluginByHandle_congr hplugins).trans hkept

/-! ## What the machine keeps -/

/-- A plugin in service has its image open. -/
def LiveOpen (host : Host) : Prop :=
  ∀ handle plugin, host.pluginByHandle handle = some plugin → plugin.Live → plugin.library = true

/-- What a command holds has its image open; a start is on one of its two ways. -/
structure Grips (host : Host) (leaf : Leaf) : Prop where
  held : ∀ hold handle, leaf.hold = some (hold, handle) → host.openImage handle = some true
  unwound : ∀ activate handle rest failed,
    leaf = .script (.start activate) handle (.unload :: rest) failed →
      ∀ plugin, host.pluginByHandle handle = some plugin → plugin.state = .error
  direct : ∀ handle rest failed,
    leaf ≠ .script (.start true) handle (.preparePause :: rest) failed

structure Imaged (host : Host) (tasks : Nat → Task) : Prop where
  live : LiveOpen host
  grips : ∀ thread, Grips host (tasks thread).leaf

theorem Standing.live (hstanding : Standing host after) (hlive : LiveOpen host) :
    LiveOpen after := by
  intro handle now hnow hlives
  obtain ⟨old, hold, hstands⟩ := was_of_rel (hstanding handle) hnow
  rw [hstands.image.library]
  refine hlive handle old hold ?_
  unfold PluginRecord.Live at hlives ⊢
  rwa [hstands.state] at hlives

/-- A start that has the unload callback before it holds its plugin. -/
theorem hold_of_unload (handle : KeelPluginHandle) (activate failed : Bool) {calls : List Call}
    (hmem : .unload ∈ calls) : ∃ hold,
      (Leaf.script (.start activate) handle calls failed).hold = some (hold, handle) := by
  unfold Leaf.hold
  simp only [if_pos hmem]
  split_ifs <;> exact ⟨_, rfl⟩

theorem Grips.of_stands (hgrips : Grips host leaf)
    (hstands : ∀ hold handle, leaf.hold = some (hold, handle) →
      Option.Rel Stands (host.pluginByHandle handle) (after.pluginByHandle handle)) :
    Grips after leaf where
  held hold handle hleaf :=
    (openImage_of_rel (hstands hold handle hleaf)).trans (hgrips.held hold handle hleaf)
  unwound activate handle rest failed hleaf now hnow := by
    obtain ⟨hold, hhold⟩ := hold_of_unload handle activate failed
      (List.mem_cons_self : Call.unload ∈ Call.unload :: rest)
    obtain ⟨old, hfound, hsame⟩ := was_of_rel
      (hstands hold handle (by rw [hleaf]; exact hhold)) hnow
    rw [hsame.state]
    exact hgrips.unwound activate handle rest failed hleaf old hfound
  direct := hgrips.direct

theorem Grips.of_returned (host : Host) (result : Result) : Grips host (.returned result) where
  held hold handle hleaf := by cases hleaf
  unwound activate handle rest failed hleaf := by cases hleaf
  direct handle rest failed hleaf := by cases hleaf

theorem Grips.of_idle (hleaf : leaf.hold = none) : Grips host leaf where
  held hold handle hheld := by
    rw [hleaf] at hheld
    cases hheld
  unwound activate handle rest failed hscript := by
    obtain ⟨hold, hhold⟩ := hold_of_unload handle activate failed
      (List.mem_cons_self : Call.unload ∈ Call.unload :: rest)
    rw [hscript, hhold] at hleaf
    cases hleaf
  direct handle rest failed hscript := by
    rw [hscript] at hleaf
    simp only [Leaf.hold, List.mem_cons, true_or, if_true] at hleaf
    split_ifs at hleaf

theorem Grips.of_kind {calls : List Call} {failed : Bool}
    (hkind : ∀ activate, kind ≠ .start activate) (hopen : host.openImage handle = some true) :
    Grips host (.script kind handle calls failed) where
  held hold other hleaf := by rwa [hold_handle hleaf]
  unwound activate other rest failed hleaf := by
    cases hleaf
    exact absurd rfl (hkind activate)
  direct other rest failed hleaf := by
    cases hleaf
    exact absurd rfl (hkind true)

/-! ### What begins -/

theorem discovered_not_live (handle : KeelPluginHandle) (filename : Text) (image : Image) :
    ¬(discovered handle filename image).Live := by
  unfold PluginRecord.Live
  cases image <;> simp [discovered, PluginRecord.new, closePluginImage]

theorem discoverPlugin_cases (host : Host) (files : Files) (filename : Text) :
    (host.discoverPlugin files filename).host = host ∧
        (host.discoverPlugin files filename).leaf = .returned ⟨false, none⟩ ∨
      ∃ fresh, host.beginDiscover filename files.image =
          ((host.discoverPlugin files filename).host, some fresh) ∧
        ((host.discoverPlugin files filename).leaf = .returned ⟨false, some fresh⟩ ∨
          files.image = .opened ∧ (host.discoverPlugin files filename).leaf = .discover fresh) := by
  unfold discoverPlugin
  rcases hbegun : host.beginDiscover filename files.image with ⟨next, _ | fresh⟩
  · left
    unfold beginDiscover at hbegun
    split at hbegun
    · cases hbegun
      exact ⟨rfl, rfl⟩
    · cases hbegun
  · right
    simp only
    split
    · next hopened => exact ⟨fresh, rfl, .inr ⟨hopened, rfl⟩⟩
    · exact ⟨fresh, rfl, .inl rfl⟩

theorem live_of_kept (hlive : LiveOpen host)
    (hplugins : after.plugins = (host.modify handle write).plugins)
    (hwrite : ∀ plugin, (write plugin).handle = plugin.handle)
    (hkept : ∀ plugin, host.pluginByHandle handle = some plugin → (write plugin).Live →
      plugin.Live ∧ (write plugin).library = plugin.library) : LiveOpen after := by
  intro other now hnow hlives
  rw [pluginByHandle_congr hplugins, pluginByHandle_modify hwrite] at hnow
  by_cases hother : other = handle
  · subst hother
    rw [if_pos rfl] at hnow
    obtain ⟨old, hold, rfl⟩ := Option.map_eq_some_iff.1 hnow
    obtain ⟨hwas, hlibrary⟩ := hkept old hold hlives
    exact hlibrary.trans (hlive other old hold hwas)
  · rw [if_neg hother] at hnow
    exact hlive other now hnow hlives

theorem openImage_modify (hplugins : after.plugins = (host.modify handle write).plugins)
    (hwrite : ∀ plugin, (write plugin).handle = plugin.handle)
    (hlibrary : ∀ plugin, (write plugin).library = plugin.library) :
    after.openImage other = host.openImage other := by
  unfold openImage
  rw [pluginByHandle_congr hplugins, pluginByHandle_modify hwrite]
  split
  · rw [Option.map_map]
    exact congrArg (fun read => (host.pluginByHandle other).map read) (funext hlibrary)
  · rfl

theorem Clears.live (hclears : Clears host middle) (hlive : LiveOpen host) : LiveOpen middle :=
  fun handle plugin hplugin => hlive handle plugin (hclears.found hplugin)

theorem Begins.imaged (hbegins : Begins host files owned after leaf) (hnumbered : Numbered host)
    (hlive : LiveOpen host) : LiveOpen after ∧ Grips after leaf := by
  have hopen : ∀ {handle : KeelPluginHandle} {plugin : PluginRecord},
      host.pluginByHandle handle = some plugin → plugin.Live →
        host.openImage handle = some true := by
    intro handle plugin hplugin hlives
    rw [openImage_found hplugin, hlive handle plugin hplugin hlives]
  cases hbegins with
  | returns bulk result => exact ⟨hlive, .of_returned _ _⟩
  | announces =>
    refine ⟨hlive, fun hold handle hleaf => ?_, fun _ _ _ _ hleaf => ?_, fun _ _ _ hleaf => ?_⟩
    · cases hleaf
    · cases hleaf
    · cases hleaf
  | discovers filename =>
    rcases discoverPlugin_cases host files filename with
      ⟨hhost, hleaf⟩ | ⟨fresh, hbegun, hleaf⟩
    · rw [hhost, hleaf]
      exact ⟨hlive, .of_returned _ _⟩
    · generalize (host.discoverPlugin files filename).host = after at hbegun ⊢
      obtain ⟨hchange, hfresh, _, hmade, _⟩ := beginDiscover_change hnumbered hbegun
      constructor
      · intro other now hnow hlives
        by_cases hother : other = fresh
        · rw [hother, hmade] at hnow
          cases hnow
          exact absurd hlives (discovered_not_live fresh filename files.image)
        · rw [hchange.others other hother] at hnow
          exact hlive other now hnow hlives
      · rcases hleaf with hleaf | ⟨himage, hleaf⟩
        · rw [hleaf]
          exact .of_returned _ _
        · rw [hleaf]
          refine ⟨fun hold handle hheld => ?_, fun _ _ _ _ hbad => ?_, fun _ _ _ hbad => ?_⟩
          · cases hheld
            rw [openImage_found hmade, himage]
            rfl
          · cases hbad
          · cases hbad
  | @rejects handle plugin hplugin hstate howned diagnostic result =>
    refine ⟨live_of_kept hlive rfl (fun _ => rfl) fun record _ hlives => ?_, .of_returned _ _⟩
    simp [PluginRecord.Live, closePluginImage] at hlives
  | @starts handle plugin hplugin hstate howned activate hready =>
    refine ⟨live_of_kept hlive rfl (fun _ => rfl) fun record _ hlives => ⟨hlives, rfl⟩,
      fun hold other hleaf => ?_, fun _ _ _ _ hleaf => ?_, fun _ _ _ hleaf => ?_⟩
    · rw [hold_handle hleaf]
      have hsame : (host.beginStart handle).openImage handle = host.openImage handle :=
        openImage_modify (started_plugins host handle) (fun _ => rfl) fun _ => rfl
      exact hsame.trans (hopen hplugin (.inl hstate))
    · cases hleaf
    · cases hleaf
  | @unloads handle plugin hplugin hstate htransition halone disable =>
    refine ⟨live_of_kept hlive (begun_plugins host handle) (fun _ => rfl) fun record _ hlives =>
      ⟨hlives, rfl⟩, .of_kind (fun _ hkind => ?_) ?_⟩
    · cases hkind
    · exact (openImage_modify (begun_plugins host handle) (fun _ => rfl) fun _ => rfl).trans
        (hopen hplugin (.inr hstate))
  | @pauses handle plugin hplugin hstate htransition halone =>
    refine ⟨live_of_kept hlive (begun_plugins host handle) (fun _ => rfl) fun record _ hlives =>
      ⟨hlives, rfl⟩, .of_kind (fun _ hkind => ?_) ?_⟩
    · cases hkind
    · exact (openImage_modify (begun_plugins host handle) (fun _ => rfl) fun _ => rfl).trans
        (hopen hplugin (.inr (.inl hstate)))
  | @resumes handle plugin hplugin hstate htransition hready =>
    refine ⟨live_of_kept hlive (resumed_plugins host handle) (fun _ => rfl) fun record hfound _ =>
      ⟨?_, rfl⟩, .of_kind (fun _ hkind => ?_) ?_⟩
    · rw [hplugin] at hfound
      cases hfound
      exact .inr (.inr hstate)
    · cases hkind
    · exact (openImage_modify (resumed_plugins host handle) (fun _ => rfl) fun _ => rfl).trans
        (hopen hplugin (.inr (.inr hstate)))

/-! ### What a turn does -/

theorem Sets.openImage {state : PluginState → PluginState} (hsets : Sets state handle host after) :
    after.openImage other = host.openImage other := by
  obtain ⟨write, ⟨hplugins, _⟩, hwrite⟩ := hsets
  exact openImage_modify hplugins (fun plugin => (hwrite plugin).1.manifest.handle)
    fun plugin => (hwrite plugin).1.library

theorem Sets.live {state : PluginState → PluginState} (hsets : Sets state handle host after)
    (hlive : LiveOpen host)
    (hstate : ∀ old, host.pluginByHandle handle = some old →
      (state old.state = .loading ∨ state old.state = .loaded ∨ state old.state = .paused) →
        old.Live ∨ old.library = true) : LiveOpen after := by
  intro other now hnow hlives
  by_cases hother : other = handle
  · subst hother
    obtain ⟨old, hold, hsame, hnew⟩ := hsets.was hnow
    unfold PluginRecord.Live at hlives
    rw [hnew] at hlives
    rw [hsame.library]
    exact (hstate old hold hlives).elim (hlive other old hold) id
  · rw [hsets.others hother] at hnow
    exact hlive other now hnow hlives

theorem Turned.others {call : Call} (hturned : Turned host handle kind call after leaf)
    (hne : other ≠ handle) : after.pluginByHandle other = host.pluginByHandle other := by
  cases hturned with
  | returns hkeeps => exact hkeeps.others hne
  | continues hkeeps => exact hkeeps.others hne
  | settles _ hbecomes => exact hbecomes.others hne
  | announces => rfl
  | fails hbecomes => exact hbecomes.others hne
  | retains hbecomes => exact hbecomes.others hne
  | closes hwrite => exact pluginByHandle_modify_ne rfl (fun plugin => (hwrite plugin).1.handle) hne
  | pauses hbecomes => exact hbecomes.others hne
  | @unloads disable wasRunning failed =>
    rw [pluginByHandle_congr (finishUnload_plugins host handle disable)]
    exact pluginByHandle_removed hne

theorem Turned.imaged {call : Call} {rest : List Call} {failed : Bool}
    (hturned : Turned host handle kind call after leaf) (hlive : LiveOpen host)
    (hgrips : Grips host (.script kind handle (call :: rest) failed))
    (hopen : host.openImage handle = some true) : LiveOpen after ∧ Grips after leaf := by
  have hlibrary : ∀ plugin, host.pluginByHandle handle = some plugin → plugin.library = true := by
    intro plugin hplugin
    rw [openImage_found hplugin] at hopen
    exact Option.some.inj hopen
  cases hturned with
  | returns hkeeps _ result =>
    exact ⟨hkeeps.live hlive fun old hold _ => .inr (hlibrary old hold), .of_returned _ _⟩
  | continues hkeeps hsilent hgoing =>
    refine ⟨hkeeps.live hlive fun old hold _ => .inr (hlibrary old hold),
      fun hold other hleaf => ?_, fun activate other later _ hleaf => ?_,
        fun other later _ hleaf => ?_⟩
    · rw [hold_handle hleaf]
      exact hkeeps.openImage.trans hopen
    · cases hleaf
      exact absurd rfl (hgoing activate rfl).1
    · cases hleaf
      exact absurd rfl ((hgoing true rfl).2.2 rfl)
  | settles hready hbecomes =>
    refine ⟨hbecomes.live hlive fun old hold _ => .inr (hlibrary old hold),
      fun hold other hleaf => ?_, fun _ _ _ _ hleaf => ?_, fun _ _ _ hleaf => ?_⟩
    · cases hleaf
    · cases hleaf
    · cases hleaf
  | announces hpaused =>
    refine ⟨hlive, fun hold other hleaf => ?_, fun _ _ _ _ hleaf => ?_, fun _ _ _ hleaf => ?_⟩
    · cases hleaf
    · cases hleaf
    · cases hleaf
  | fails hbecomes hsilent hdirect =>
    refine ⟨hbecomes.live hlive fun old _ hbad => ?_, fun hold other hleaf => ?_,
      fun activate other later _ hleaf now hnow => ?_, fun other later _ hleaf => ?_⟩
    · simp at hbad
    · rw [hold_handle hleaf]
      exact hbecomes.openImage.trans hopen
    · cases hleaf
      obtain ⟨_, _, _, hstate⟩ := hbecomes.was hnow
      exact hstate
    · cases hleaf
      exact absurd rfl hdirect
  | retains hbecomes result =>
    refine ⟨hbecomes.live hlive fun old _ hbad => ?_, .of_returned _ _⟩
    simp at hbad
  | closes hwrite _ result =>
    refine ⟨live_of_kept hlive rfl (fun plugin => (hwrite plugin).1.handle)
      fun old hold hlives => ?_, .of_returned _ _⟩
    unfold PluginRecord.Live at hlives
    rw [(hwrite old).2.2, hgrips.unwound _ _ _ _ rfl old hold] at hlives
    simp at hlives
  | pauses hbecomes =>
    refine ⟨hbecomes.live hlive fun old hold _ => .inr (hlibrary old hold), .of_kind ?_ ?_⟩
    · intro activate hkind
      cases hkind
    · exact hbecomes.openImage.trans hopen
  | @unloads disable wasRunning failed =>
    refine ⟨fun other now hnow hlives => ?_, fun hold other hleaf => ?_, fun _ _ _ _ hleaf => ?_,
      fun _ _ _ hleaf => ?_⟩
    · rw [pluginByHandle_congr (finishUnload_plugins host handle disable)] at hnow
      exact hlive other now (found_of_removed hnow) hlives
    · cases hleaf
    · cases hleaf
    · cases hleaf

theorem describe_idle (host : Host) (handle : KeelPluginHandle) (query : Query)
    (plugin : PluginRecord) : (host.describe handle query plugin).state ≠ .loaded ∧
      (host.describe handle query plugin).state ≠ .paused := by
  unfold describe
  split
  · simp [closePluginImage]
  · simp only
    split
    · simp [closePluginImage]
    · split
      · simp [closePluginImage]
      · simp

theorem finishDiscover_image (query : Query) (hlive : LiveOpen host)
    (hopen : host.openImage handle = some true) :
    LiveOpen (host.finishDiscover handle query) := by
  have hdescribed : ∀ plugin : PluginRecord, (host.describe handle query plugin).Live →
      (host.describe handle query plugin).library = plugin.library := by
    intro plugin hlives
    unfold PluginRecord.Live describe at *
    split at hlives
    · simp [closePluginImage] at hlives
    · next hanswered =>
      rw [if_neg hanswered]
      simp only at hlives ⊢
      split at hlives
      · simp [closePluginImage] at hlives
      · next hself =>
        rw [if_neg hself]
        split at hlives
        · simp [closePluginImage] at hlives
        · rfl
  intro other now hnow hlives
  by_cases hother : other = handle
  · subst hother
    rw [finishDiscover, pluginByHandle_modify (fun plugin => (describe_same host query plugin).1),
      if_pos rfl] at hnow
    obtain ⟨old, hold, rfl⟩ := Option.map_eq_some_iff.1 hnow
    rw [hdescribed old hlives]
    rw [openImage_found hold] at hopen
    exact Option.some.inj hopen
  · have hsame : (host.finishDiscover handle query).pluginByHandle other =
        host.pluginByHandle other :=
      pluginByHandle_modify_ne rfl (fun plugin => (describe_same host query plugin).1) hother
    rw [hsame] at hnow
    exact hlive other now hnow hlives

end Host

namespace Machine

open Lib (run)

variable {machine after : Machine} {action : Action} {thread : Nat} {hold : Hold}
variable {handle : KeelPluginHandle}

theorem reached_standing (host : Host) (handle : KeelPluginHandle) (call : Call)
    (answer : Answer) : Host.Standing host (reached host handle call answer) := by
  unfold reached
  split
  · exact .of_same rfl
  · exact Host.called_standing host handle call answer

theorem answer_standing (machine : Machine) (thread : Nat) (answer : Answer) :
    Host.Standing machine.host (machine.answer thread answer).host := by
  unfold Machine.answer Machine.setTask
  dsimp only
  split
  · split
    · exact Host.called_standing _ _ _ _
    · exact .of_same rfl
  · exact .of_same rfl

variable {host : Host} {other : Nat} {kind : Kind} {call : Call} {rest : List Call} {failed : Bool}
  {own : KeelPluginHandle} {answer : Answer} {next : Next}

@[simp] theorem goOn_leaf (machine : Machine) (thread : Nat) (next : Next) :
    ((machine.goOn thread next).tasks thread).leaf = next.leaf := by
  simp [goOn, setTask]

theorem setTask_other {task : Task} (hne : other ≠ thread) :
    (machine.setTask thread task).tasks other = machine.tasks other :=
  Function.update_of_ne hne _ _

@[simp] theorem setTask_mine {task : Task} : (machine.setTask thread task).tasks thread = task :=
  Function.update_self _ _ _

theorem goOn_other (hne : other ≠ thread) :
    (machine.goOn thread next).tasks other = machine.tasks other :=
  Function.update_of_ne hne _ _

@[simp] theorem goOn_status : ((machine.goOn thread next).tasks thread).status = .working := by
  simp [goOn]

theorem release_other (hne : other ≠ thread) :
    (machine.release thread host).tasks other = machine.tasks other :=
  Function.update_of_ne hne _ _

@[simp] theorem release_leaf :
    ((machine.release thread host).tasks thread).leaf = (machine.tasks thread).leaf := by
  simp [release]

@[simp] theorem release_status :
    ((machine.release thread host).tasks thread).status = .calling := by
  simp [release]

theorem opened_kept {files : Files} {owned : List KeelPluginHandle}
    (hsafe : Host.Safe machine.host machine.tasks)
    (himaged : Host.Imaged machine.host machine.tasks)
    (hopened : Host.Opened machine.host files owned next)
    (howned : ∀ handle ∈ owned, handle ∈ (machine.tasks thread).owned) (hne : other ≠ thread)
    (hheld : (machine.tasks other).leaf.hold = some (hold, handle)) :
    next.host.pluginByHandle handle = machine.host.pluginByHandle handle := by
  obtain ⟨hallotted, hok⟩ := hsafe.held other hold handle hheld
  refine hopened.kept hsafe.numbered hallotted ((himaged.grips other).held hold handle hheld) hok ?_
  intro hstopping hresuming hmem
  have hmine := Host.owned_of_hold hheld hstopping hresuming
  exact hsafe.disjoint other thread hne handle (List.mem_append_left _ hmine) (howned handle hmem)

theorem turned_kept {leaf : Leaf} {next : Host} (hsafe : Host.Safe machine.host machine.tasks)
    (hstanding : Host.Standing machine.host host)
    (hleaf : (machine.tasks thread).leaf = .script kind own (call :: rest) failed)
    (hturned : Host.Turned host own kind call next leaf)
    (hidle : (machine.tasks thread).leaf.hold = none → next = host) (hne : other ≠ thread)
    (hheld : (machine.tasks other).leaf.hold = some (hold, handle)) :
    Option.Rel Stands (machine.host.pluginByHandle handle) (next.pluginByHandle handle) := by
  cases hmine : (machine.tasks thread).leaf.hold with
  | none =>
    rw [hidle hmine]
    exact hstanding handle
  | some mine =>
    obtain ⟨hold', own'⟩ := mine
    have hsame : own' = own := Host.hold_handle (hleaf ▸ hmine)
    have hother : handle ≠ own := by
      intro hbad
      refine hsafe.apart other thread hne hold hold' handle hheld ?_
      rw [hmine, hsame, hbad]
    rw [hturned.others hother]
    exact hstanding handle

theorem settle_turned (hsafe : Host.Safe machine.host machine.tasks)
    (himaged : Host.Imaged machine.host machine.tasks)
    (hleaf : (machine.tasks thread).leaf = .script kind own (call :: rest) failed) :
    Host.Turned host own kind call (host.settle kind own failed answer call rest).1
      (host.settle kind own failed answer call rest).2 := by
  have hformed := hsafe.formed thread
  have hgrips := himaged.grips thread
  rw [hleaf] at hformed hgrips
  refine Host.settle_turned hformed fun hkind hcall => ?_
  subst hkind hcall
  exact hgrips.direct own rest failed rfl

theorem settle_idle (hsafe : Host.Safe machine.host machine.tasks)
    (hleaf : (machine.tasks thread).leaf = .script kind own (call :: rest) failed)
    (hidle : (machine.tasks thread).leaf.hold = none) :
    (host.settle kind own failed answer call rest).1 = host ∧
      (host.settle kind own failed answer call rest).2.hold = none := by
  have hformed := hsafe.formed thread
  rw [hleaf] at hformed hidle
  exact Host.settle_idle hformed hidle

theorem settle_leaf_ne {failed' : Bool} :
    (host.settle kind own failed answer call rest).2 ≠ .script kind own (call :: rest) failed' := by
  rcases hturn : host.turn kind own (failed || call.refused answer) answer call with ⟨next, turn⟩
  rw [Host.settle_eq hturn]
  cases turn with
  | next =>
    intro hleaf
    exact List.cons_ne_self call rest (Leaf.script.inj hleaf).2.2.1.symm
  | skipTo target =>
    intro hleaf
    have hlength := congrArg List.length (Leaf.script.inj hleaf).2.2.1
    have hle := (List.dropWhile_suffix (l := rest) (· ≠ target)).length_le
    rw [hlength, List.length_cons] at hle
    omega
  | stop result =>
    intro hleaf
    cases hleaf

section

variable (hsafe : Host.Safe machine.host machine.tasks)

include hsafe

section

variable (himaged : Host.Imaged machine.host machine.tasks)

include himaged

theorem settle_imaged (hstanding : Host.Standing machine.host host)
    (hleaf : (machine.tasks thread).leaf = .script kind own (call :: rest) failed) :
    Host.LiveOpen (host.settle kind own failed answer call rest).1 ∧
      Host.Grips (host.settle kind own failed answer call rest).1
        (host.settle kind own failed answer call rest).2 := by
  have hgrips := (himaged.grips thread).of_stands fun _ handle _ => hstanding handle
  have hlive := hstanding.live himaged.live
  cases hmine : (machine.tasks thread).leaf.hold with
  | none =>
    have hidle : (host.settle kind own failed answer call rest).1 = host ∧
        (host.settle kind own failed answer call rest).2.hold = none :=
      settle_idle hsafe hleaf hmine
    rw [hidle.1]
    exact ⟨hlive, .of_idle hidle.2⟩
  | some mine =>
    obtain ⟨hold', own'⟩ := mine
    have hopen := hgrips.held hold' own' hmine
    have hsame : own' = own := Host.hold_handle (hleaf ▸ hmine)
    rw [hleaf] at hgrips
    exact (settle_turned hsafe himaged hleaf).imaged hlive hgrips (hsame ▸ hopen)

theorem does_stands (hdoes : Does machine action after)
    (hheld : (machine.tasks thread).leaf.hold = some (hold, handle))
    (hsame : (after.tasks thread).leaf = (machine.tasks thread).leaf) :
    Option.Rel Stands (machine.host.pluginByHandle handle) (after.host.pluginByHandle handle) := by
  have hreturned : ∀ {result : Result}, (machine.tasks thread).leaf ≠ .returned result := by
    intro result hbad
    rw [hbad] at hheld
    cases hheld
  cases hdoes with
  | idles => exact Host.rel_of_same rfl
  | happens event => exact Host.happen_standing machine.host event handle
  | @begins other gameThread origin command files hholder hwaits hadmitted =>
    have hne : thread ≠ other := by
      intro hbad
      subst hbad
      obtain ⟨⟨_, hleaf⟩, _⟩ := Task.returned_of_waits hwaits
      exact hreturned hleaf
    have hopened : Host.Opened machine.host files [] (machine.host.invoke files command) :=
      Host.invoke_opened hsafe.numbered command
    exact Host.rel_of_same (opened_kept hsafe himaged hopened (by simp) hne hheld)
  | waits => exact Host.rel_of_same rfl
  | calls => exact Host.calling_standing machine.host _ _ handle
  | @skips other files kind own call rest failed hholder hleaf hmakes =>
    have hne : thread ≠ other := by
      intro hbad
      subst hbad
      rw [hleaf] at hsame
      exact settle_leaf_ne ((goOn_leaf machine thread _).symm.trans hsame)
    exact turned_kept hsafe (.of_same rfl) hleaf (settle_turned hsafe himaged hleaf)
      (fun hidle => (settle_idle hsafe hleaf hidle).1) hne hheld
  | returns => exact Host.rel_of_same rfl
  | ends => exact Host.rel_of_same rfl
  | @resumes other files result caller callers hholder hleaf hcallers =>
    have hne : thread ≠ other := by
      intro hbad
      subst hbad
      exact hreturned hleaf
    have hopened : Host.Opened machine.host files (result.record.toList ++ caller.owned)
        (machine.host.resume files result caller) :=
      Host.resume_opened hsafe.numbered hsafe.clean result caller
    exact Host.rel_of_same (opened_kept hsafe himaged hopened
      (Task.owned_of_resumed hleaf hcallers) hne hheld)
  | answers => exact answer_standing machine _ _ handle
  | asks => exact Host.rel_of_same rfl
  | @describes other query own hholder hstatus hleaf =>
    have hne : thread ≠ other := by
      intro hbad
      subst hbad
      rw [hleaf] at hsame
      cases (goOn_leaf { machine with holder := some thread } thread _).symm.trans hsame
    have hother : handle ≠ own := by
      intro hbad
      refine hsafe.apart thread other hne hold .discovery handle hheld ?_
      rw [hleaf, hbad]
      rfl
    refine Host.rel_of_same (Host.pluginByHandle_modify_ne rfl (fun plugin => ?_) hother)
    exact (Host.describe_same machine.host query plugin).1
  | @settles other kind own call rest failed answer hholder hstatus hleaf =>
    have hne : thread ≠ other := by
      intro hbad
      subst hbad
      rw [hleaf] at hsame
      exact settle_leaf_ne ((goOn_leaf { machine with holder := some thread } thread _).symm.trans
        hsame)
    exact turned_kept hsafe (reached_standing _ _ _ _) hleaf (settle_turned hsafe himaged hleaf)
      (fun hidle => (settle_idle hsafe hleaf hidle).1) hne hheld

theorem does_live (hdoes : Does machine action after) : Host.LiveOpen after.host := by
  have hlive := himaged.live
  have hopened : ∀ {files : Files} {owned : List KeelPluginHandle} {next : Next},
      Host.Opened machine.host files owned next → Host.LiveOpen next.host := by
    rintro files owned next ⟨middle, hclears, hbegins⟩
    exact (hbegins.imaged (hclears.numbered hsafe.numbered) (hclears.live hlive)).1
  cases hdoes with
  | idles => exact hlive
  | happens event => exact (Host.happen_standing machine.host event).live hlive
  | begins hholder hwaits hadmitted => exact hopened (Host.invoke_opened hsafe.numbered _)
  | waits => exact hlive
  | calls => exact (Host.calling_standing machine.host _ _).live hlive
  | skips hholder hleaf hmakes => exact (settle_imaged hsafe himaged (.of_same rfl) hleaf).1
  | returns => exact hlive
  | ends => exact hlive
  | resumes hholder hleaf hcallers => exact hopened (Host.resume_opened hsafe.numbered hsafe.clean _ _)
  | answers => exact (answer_standing machine _ _).live hlive
  | asks => exact hlive
  | @describes thread query own hholder hstatus hleaf =>
    refine Host.finishDiscover_image query hlive ?_
    refine (himaged.grips thread).held .discovery own ?_
    rw [hleaf]
    rfl
  | settles hholder hstatus hleaf =>
    exact (settle_imaged hsafe himaged (reached_standing _ _ _ _) hleaf).1

theorem does_grips (hdoes : Does machine action after)
    (hchanged : (after.tasks thread).leaf ≠ (machine.tasks thread).leaf) :
    Host.Grips after.host (after.tasks thread).leaf := by
  have hopened : ∀ {files : Files} {owned : List KeelPluginHandle} {next : Next},
      Host.Opened machine.host files owned next → Host.Grips next.host next.leaf := by
    rintro files owned next ⟨middle, hclears, hbegins⟩
    exact (hbegins.imaged (hclears.numbered hsafe.numbered) (hclears.live himaged.live)).2
  have hother : ∀ {other : Nat} {task : Task},
      (Function.update machine.tasks other task thread).leaf ≠ (machine.tasks thread).leaf →
        thread = other := by
    intro other task hchanged
    by_contra hne
    exact hchanged (by rw [Function.update_of_ne hne])
  cases hdoes with
  | idles => exact absurd rfl hchanged
  | happens event => exact absurd rfl hchanged
  | begins hholder hwaits hadmitted =>
    obtain rfl := hother hchanged
    simp only [setTask, Function.update_self]
    exact hopened (Host.invoke_opened hsafe.numbered _)
  | waits =>
    obtain rfl := hother hchanged
    simp [release, setTask] at hchanged
  | calls =>
    obtain rfl := hother hchanged
    simp [release, setTask] at hchanged
  | skips hholder hleaf hmakes =>
    obtain rfl := hother hchanged
    rw [goOn_leaf]
    exact (settle_imaged hsafe himaged (.of_same rfl) hleaf).2
  | returns result =>
    obtain rfl := hother hchanged
    rw [goOn_leaf]
    exact .of_returned _ _
  | ends =>
    obtain rfl := hother hchanged
    simp only [setTask, Function.update_self]
    exact .of_returned _ _
  | resumes hholder hleaf hcallers =>
    obtain rfl := hother hchanged
    rw [goOn_leaf]
    exact hopened (Host.resume_opened hsafe.numbered hsafe.clean _ _)
  | answers =>
    obtain rfl := hother hchanged
    simp [answer, setTask] at hchanged
  | asks =>
    obtain rfl := hother hchanged
    simp [setTask] at hchanged
  | describes =>
    obtain rfl := hother hchanged
    rw [goOn_leaf]
    exact .of_returned _ _
  | settles hholder hstatus hleaf =>
    obtain rfl := hother hchanged
    rw [goOn_leaf]
    exact (settle_imaged hsafe himaged (reached_standing _ _ _ _) hleaf).2

theorem step_imaged (action : Action) :
    Host.Imaged (machine.step action).host (machine.step action).tasks where
  live := does_live hsafe himaged (step_does machine action)
  grips thread := by
    by_cases hsame : ((machine.step action).tasks thread).leaf = (machine.tasks thread).leaf
    · rw [hsame]
      refine (himaged.grips thread).of_stands fun hold handle hheld => ?_
      exact does_stands hsafe himaged (step_does machine action) hheld hsame
    · exact does_grips hsafe himaged (step_does machine action) hsame

end

end

theorem initial_imaged : Host.Imaged initial.host initial.tasks where
  live handle plugin hplugin := by cases hplugin
  grips thread := .of_returned _ _

end Machine
end KeelS2.Plugins
