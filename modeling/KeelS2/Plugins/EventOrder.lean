import KeelS2.Plugins.EventStream

/-!
# The order in which a subscriber gets a plugin's events

At any time at most one thread is about to tell of a plugin: it holds the plugin, or has still an
event of it to deliver. What the subscriber has got, with what it is still owed, always ends in
the phase that the plugin's record is in; a step of the manager either leaves both, or moves both.
-/

namespace KeelS2.Plugins

open Function (update update_of_ne)

/-! ## Phases and records -/

/-- The record is in this phase once all events are delivered. -/
def Phase.Fits (host : Host) (handle : KeelPluginHandle) : Phase → Prop
  | .fresh => ∀ plugin, host.pluginByHandle handle = some plugin →
      plugin.state ≠ .loaded ∧ plugin.state ≠ .paused
  | .running => ∃ plugin, host.pluginByHandle handle = some plugin ∧ plugin.state = .loaded
  | .paused => ∃ plugin, host.pluginByHandle handle = some plugin ∧ plugin.state = .paused
  | .gone => host.pluginByHandle handle = none ∧ host.Allotted handle

theorem Phase.follow_ne_fresh {events : List PluginEvent} {phase next : Phase}
    (hfollow : phase.follow events = some next) (hne : events ≠ []) : next ≠ .fresh := by
  have hadvance : ∀ {phase next : Phase} {event : PluginEvent},
      phase.advance event = some next → next ≠ .fresh := by
    intro phase next event hadvance hbad
    subst hbad
    cases phase <;> cases event <;> cases hadvance
  have hlater : ∀ {events : List PluginEvent} {phase : Phase}, phase ≠ .fresh →
      phase.follow events = some next → next ≠ .fresh := by
    intro events
    induction events with
    | nil =>
      intro phase hphase hfollow
      cases hfollow
      exact hphase
    | cons event events ih =>
      intro phase hphase hfollow
      obtain ⟨between, hfirst, hrest⟩ := Option.bind_eq_some_iff.1 hfollow
      exact ih (hadvance hfirst) hrest
  cases events with
  | nil => exact absurd rfl hne
  | cons event events =>
    obtain ⟨between, hfirst, hrest⟩ := Option.bind_eq_some_iff.1 hfollow
    exact hlater (hadvance hfirst) hrest

namespace Host

variable {host middle after : Host} {handle other : KeelPluginHandle} {plugin : PluginRecord}
variable {files : Files} {owned : List KeelPluginHandle} {leaf : Leaf} {phase : Phase}

theorem fits_exists (host : Host) (handle : KeelPluginHandle) :
    ∃ phase : Phase, phase.Fits host handle := by
  cases hplugin : host.pluginByHandle handle with
  | none =>
    refine ⟨.fresh, fun plugin hfound => ?_⟩
    rw [hplugin] at hfound
    cases hfound
  | some plugin =>
    by_cases hloaded : plugin.state = .loaded
    · exact ⟨.running, plugin, hplugin, hloaded⟩
    by_cases hpaused : plugin.state = .paused
    · exact ⟨.paused, plugin, hplugin, hpaused⟩
    refine ⟨.fresh, fun found hfound => ?_⟩
    rw [hplugin] at hfound
    cases hfound
    exact ⟨hloaded, hpaused⟩

theorem fits_idle (hfits : phase.Fits host handle)
    (hplugin : host.pluginByHandle handle = some plugin)
    (hidle : plugin.state ≠ .loaded ∧ plugin.state ≠ .paused) : phase = .fresh := by
  cases phase with
  | fresh => rfl
  | running =>
    obtain ⟨found, hfound, hstate⟩ := hfits
    rw [hplugin] at hfound
    cases hfound
    exact absurd hstate hidle.1
  | paused =>
    obtain ⟨found, hfound, hstate⟩ := hfits
    rw [hplugin] at hfound
    cases hfound
    exact absurd hstate hidle.2
  | gone =>
    exact absurd (hplugin.symm.trans hfits.1) (by simp)

theorem fits_running (hfits : phase.Fits host handle) (hrunning : Phase.running.Fits host handle) :
    phase = .running := by
  obtain ⟨plugin, hplugin, hstate⟩ := hrunning
  cases phase with
  | fresh => exact absurd hstate (hfits plugin hplugin).1
  | running => rfl
  | paused =>
    obtain ⟨found, hfound, hpaused⟩ := hfits
    rw [hplugin] at hfound
    cases hfound
    rw [hstate] at hpaused
    cases hpaused
  | gone =>
    exact absurd (hplugin.symm.trans hfits.1) (by simp)

theorem fits_paused (hfits : phase.Fits host handle) (hpaused : Phase.paused.Fits host handle) :
    phase = .paused := by
  obtain ⟨plugin, hplugin, hstate⟩ := hpaused
  cases phase with
  | fresh => exact absurd hstate (hfits plugin hplugin).2
  | running =>
    obtain ⟨found, hfound, hrunning⟩ := hfits
    rw [hplugin] at hfound
    cases hfound
    rw [hstate] at hrunning
    cases hrunning
  | paused => rfl
  | gone =>
    exact absurd (hplugin.symm.trans hfits.1) (by simp)

theorem fits_allotted (hnumbered : Numbered host) (hfits : phase.Fits host handle)
    (hphase : phase ≠ .fresh) : host.Allotted handle := by
  have hrecord : ∀ plugin, host.pluginByHandle handle = some plugin → host.Allotted handle := by
    intro plugin hplugin
    rw [← pluginByHandle_handle hplugin]
    exact hnumbered.allotted plugin (mem_of_pluginByHandle hplugin)
  cases phase with
  | fresh => exact absurd rfl hphase
  | running => exact hrecord _ hfits.choose_spec.1
  | paused => exact hrecord _ hfits.choose_spec.1
  | gone => exact hfits.2

/-! ## Steps that leave the phase -/

def Quiet (host after : Host) (handle : KeelPluginHandle) : Prop :=
  ∀ phase : Phase, phase.Fits host handle → phase.Fits after handle

theorem Quiet.refl (host : Host) (handle : KeelPluginHandle) : Quiet host host handle :=
  fun _ hfits => hfits

theorem Quiet.trans (hfirst : Quiet host middle handle) (hsecond : Quiet middle after handle) :
    Quiet host after handle :=
  fun phase hfits => hsecond phase (hfirst phase hfits)

theorem Quiet.of_rel
    (hrel : Option.Rel Stands (host.pluginByHandle handle) (after.pluginByHandle handle))
    (hallotted : host.Allotted handle → after.Allotted handle) : Quiet host after handle := by
  have hfound : ∀ plugin, host.pluginByHandle handle = some plugin →
      ∃ now, after.pluginByHandle handle = some now ∧ now.state = plugin.state := by
    intro plugin hplugin
    rw [hplugin] at hrel
    generalize after.pluginByHandle handle = found at hrel ⊢
    cases hrel with
    | some hstands => exact ⟨_, rfl, hstands.state⟩
  intro phase hfits
  cases phase with
  | fresh =>
    intro now hnow
    obtain ⟨old, hold, hstands⟩ := was_of_rel hrel hnow
    rw [hstands.state]
    exact hfits old hold
  | running =>
    obtain ⟨plugin, hplugin, hstate⟩ := hfits
    obtain ⟨now, hnow, hsame⟩ := hfound plugin hplugin
    exact ⟨now, hnow, hsame.trans hstate⟩
  | paused =>
    obtain ⟨plugin, hplugin, hstate⟩ := hfits
    obtain ⟨now, hnow, hsame⟩ := hfound plugin hplugin
    exact ⟨now, hnow, hsame.trans hstate⟩
  | gone =>
    refine ⟨?_, hallotted hfits.2⟩
    rw [hfits.1] at hrel
    generalize after.pluginByHandle handle = found at hrel ⊢
    cases hrel with
    | none => rfl

theorem Quiet.of_same (hsame : after.pluginByHandle handle = host.pluginByHandle handle)
    (hallotted : host.Allotted handle → after.Allotted handle) : Quiet host after handle :=
  .of_rel (rel_of_same hsame) hallotted

theorem Quiet.of_idle (hplugin : host.pluginByHandle handle = some plugin)
    (hidle : plugin.state ≠ .loaded ∧ plugin.state ≠ .paused)
    (hnow : ∀ now, after.pluginByHandle handle = some now →
      now.state ≠ .loaded ∧ now.state ≠ .paused) : Quiet host after handle := by
  intro phase hfits
  rw [fits_idle hfits hplugin hidle]
  exact hnow

theorem Sets.nextPlugin {state : PluginState → PluginState} (hsets : Sets state handle host after) :
    after.nextPlugin = host.nextPlugin := by
  obtain ⟨write, ⟨_, _, hnext, _⟩, _⟩ := hsets
  exact hnext

variable {kind : Kind} {failed : Bool} {call : Call} {calls : List Call}

theorem Turned.nextPlugin (hturned : Turned host handle kind call after leaf) :
    after.nextPlugin = host.nextPlugin := by
  cases hturned with
  | returns hkeeps => exact hkeeps.nextPlugin
  | continues hkeeps => exact hkeeps.nextPlugin
  | settles _ hbecomes => exact hbecomes.nextPlugin
  | announces => rfl
  | fails hbecomes => exact hbecomes.nextPlugin
  | retains hbecomes => exact hbecomes.nextPlugin
  | closes hwrite => rfl
  | pauses hbecomes => exact hbecomes.nextPlugin
  | @unloads disable wasRunning failed =>
    unfold finishUnload
    cases disable <;> rfl

theorem Keeps.quiet (hkeeps : Keeps handle host after) (other : KeelPluginHandle) :
    Quiet host after other := by
  by_cases hother : other = handle
  · subst hother
    intro phase hfits
    cases phase with
    | fresh =>
      intro now hnow
      obtain ⟨old, hold, _, hstate⟩ := hkeeps.was hnow
      rw [hstate]
      exact hfits old hold
    | running =>
      obtain ⟨plugin, hplugin, hstate⟩ := hfits
      obtain ⟨now, hnow, _, hsame⟩ := hkeeps.found hplugin
      exact ⟨now, hnow, hsame.trans hstate⟩
    | paused =>
      obtain ⟨plugin, hplugin, hstate⟩ := hfits
      obtain ⟨now, hnow, _, hsame⟩ := hkeeps.found hplugin
      exact ⟨now, hnow, hsame.trans hstate⟩
    | gone =>
      refine ⟨?_, hfits.2.of_nextPlugin hkeeps.nextPlugin⟩
      cases hnow : after.pluginByHandle other with
      | none => rfl
      | some now =>
        obtain ⟨old, hold, _⟩ := hkeeps.was hnow
        rw [hfits.1] at hold
        cases hold
  · exact .of_same (hkeeps.others hother) (·.of_nextPlugin hkeeps.nextPlugin)

theorem Clears.quiet (hclears : Clears host middle) (other : KeelPluginHandle) :
    Quiet host middle other := by
  induction hclears with
  | nothing => exact .refl host other
  | @removes handle plugin hplugin hidle _ _ =>
    by_cases hother : other = handle
    · subst hother
      refine .of_idle hplugin hidle fun now hnow => ?_
      have hfound := found_of_removed hnow
      rw [hplugin] at hfound
      cases hfound
      exact hidle
    · exact .of_same (pluginByHandle_removed hother) id
  | forgets hclears keep ih => exact ih.trans (.of_same rfl id)

/-! ## What is begun -/

/-- The first step of a command leaves the phase, or it is the one of a resume. -/
theorem Begins.goes (hbegins : Begins host files owned after leaf) (hnumbered : Numbered host)
    (handle : KeelPluginHandle) :
    Quiet host after handle ∧ leaf.owes handle = [] ∨
      Phase.paused.Fits host handle ∧ Phase.running.Fits after handle ∧
        leaf.owes handle = [.resumed] ∧ leaf.transits = some handle ∧
        leaf.hold = some (.resuming, handle) := by
  cases hbegins with
  | returns => exact .inl ⟨.refl host handle, rfl⟩
  | announces => exact .inl ⟨.refl host handle, rfl⟩
  | discovers filename =>
    left
    rcases discoverPlugin_cases host files filename with ⟨hhost, hleaf⟩ | ⟨fresh, hbegun, hleaf⟩
    · rw [hhost, hleaf]
      exact ⟨.refl host handle, rfl⟩
    · have howes : (host.discoverPlugin files filename).leaf.owes handle = [] := by
        rcases hleaf with hleaf | ⟨_, hleaf⟩ <;> rw [hleaf] <;> rfl
      refine ⟨?_, howes⟩
      obtain ⟨hchange, hfresh, _, hmade, _⟩ := beginDiscover_change hnumbered hbegun
      by_cases hsame : handle = fresh
      · subst hsame
        intro phase hfits
        have hphase : phase = .fresh := by
          by_contra hne
          exact hfresh (fits_allotted hnumbered hfits hne)
        subst hphase
        intro now hnow
        rw [hmade] at hnow
        cases hnow
        have hdead := discovered_not_live handle filename files.image
        exact ⟨fun h => hdead (.inr (.inl h)), fun h => hdead (.inr (.inr h))⟩
      · exact .of_same (hchange.others handle hsame) (hchange.allotted handle)
  | @rejects own plugin hplugin hstate howned diagnostic result =>
    left
    refine ⟨?_, rfl⟩
    by_cases hsame : handle = own
    · subst hsame
      refine .of_idle hplugin (by simp [hstate]) fun now hnow => ?_
      obtain ⟨old, _, hwritten⟩ :=
        was_of_modify (rejected_plugins host handle diagnostic) (fun _ => rfl) hnow
      rw [← hwritten]
      simp [closePluginImage]
    · exact .of_same (pluginByHandle_modify_ne rfl (fun _ => rfl) hsame) id
  | @starts own plugin hplugin hstate howned activate hready =>
    left
    refine ⟨?_, by cases activate <;> rfl⟩
    by_cases hsame : handle = own
    · subst hsame
      refine .of_idle hplugin (by simp [hstate]) fun now hnow => ?_
      obtain ⟨old, hold, hwritten⟩ :=
        was_of_modify (started_plugins host handle) (fun _ => rfl) hnow
      rw [hplugin] at hold
      cases hold
      rw [← hwritten]
      simp [hstate]
    · exact .of_same (pluginByHandle_modify_ne (started_plugins host own) (fun _ => rfl) hsame) id
  | @unloads own plugin hplugin hstate htransition halone disable =>
    left
    refine ⟨(keeps_begun host own).quiet handle, ?_⟩
    by_cases hloaded : plugin.state = .loaded
    · simp [Leaf.owes, unloadCalls, hloaded]
    · simp [Leaf.owes, unloadCalls, hloaded]
  | @pauses own plugin hplugin hstate htransition halone =>
    exact .inl ⟨(keeps_begun host own).quiet handle, rfl⟩
  | @resumes own plugin hplugin hstate htransition hready =>
    have hbecomes := becomes_resumed host own
    by_cases hsame : handle = own
    · subst hsame
      obtain ⟨now, hnow, _, hloaded⟩ := hbecomes.found hplugin
      exact .inr ⟨⟨plugin, hplugin, hstate⟩, ⟨now, hnow, hloaded⟩, if_pos rfl, rfl, rfl⟩
    · left
      refine ⟨.of_same (hbecomes.others hsame) (·.of_nextPlugin hbecomes.nextPlugin), ?_⟩
      exact if_neg fun hown => hsame hown.symm

theorem Begins.takes {hold : Hold} (hbegins : Begins host files owned after leaf)
    (hnumbered : Numbered host) (hhold : leaf.hold = some (hold, handle)) :
    ¬host.Allotted handle ∨ leaf.transits = some handle ∨
      ∃ plugin, host.pluginByHandle handle = some plugin ∧ plugin.state = .loading := by
  cases hbegins with
  | returns => cases hhold
  | announces => cases hhold
  | discovers filename =>
    rcases discoverPlugin_cases host files filename with ⟨_, hleaf⟩ | ⟨fresh, hbegun, hleaf⟩
    · rw [hleaf] at hhold
      cases hhold
    · rcases hleaf with hleaf | ⟨_, hleaf⟩
      · rw [hleaf] at hhold
        cases hhold
      · rw [hleaf] at hhold
        cases hhold
        exact .inl (beginDiscover_change hnumbered hbegun).2.1
  | rejects => cases hhold
  | @starts own plugin hplugin hstate howned activate hready =>
    rw [hold_handle hhold]
    exact .inr (.inr ⟨plugin, hplugin, hstate⟩)
  | unloads =>
    rw [hold_handle hhold]
    exact .inr (.inl rfl)
  | pauses =>
    rw [hold_handle hhold]
    exact .inr (.inl rfl)
  | resumes =>
    rw [hold_handle hhold]
    exact .inr (.inl rfl)

theorem Begins.pausing (hbegins : Begins host files owned after leaf)
    (hleaf : leaf = .script .pause handle calls failed) : Phase.running.Fits after handle := by
  cases hbegins with
  | returns => cases hleaf
  | announces => cases hleaf
  | discovers filename =>
    rcases discoverPlugin_cases host files filename with ⟨_, hfound⟩ | ⟨fresh, _, hfound⟩
    · rw [hfound] at hleaf
      cases hleaf
    · rcases hfound with hfound | ⟨_, hfound⟩ <;> rw [hfound] at hleaf <;> cases hleaf
  | rejects => cases hleaf
  | starts => cases hleaf
  | unloads => cases hleaf
  | @pauses own plugin hplugin hstate htransition halone =>
    cases hleaf
    obtain ⟨now, hnow, _, hsame⟩ := (keeps_begun host handle).found hplugin
    exact ⟨now, hnow, hsame.trans hstate⟩
  | resumes => cases hleaf

/-! ## Turns -/

theorem owes_ne (hne : other ≠ handle) :
    (Leaf.script kind handle calls failed).owes other = [] := by
  unfold Leaf.owes
  split
  · exact if_neg fun hsame => hne (by simp_all)
  · exact if_neg fun hsame => hne (by simp_all)
  · rfl

theorem owes_silent (hsilent : Silent calls) :
    (Leaf.script kind handle calls failed).owes other = [] := by
  unfold Leaf.owes
  split
  · simp_all [Silent, Call.publishes]
  · simp_all [Silent, Call.publishes]
  · rfl

theorem hold_of_silent {rest : List Call}
    (hformed : Formed (.script kind handle (call :: rest) failed))
    (hsilent : call.publishes = false) :
    ∃ hold, (Leaf.script kind handle (call :: rest) failed).hold = some (hold, handle) := by
  have hcall : ∀ event, call ≠ .publish event := by
    intro event hbad
    subst hbad
    cases hsilent
  cases kind with
  | unload disable wasRunning =>
    exact ⟨.stopping, if_pos (unload_ahead hformed (hcall _))⟩
  | pause => exact ⟨.stopping, rfl⟩
  | resume => exact ⟨.resuming, rfl⟩
  | start activate => exact hold_of_unload handle activate failed (start_ahead hformed hcall)

theorem settle_published {event : PluginEvent} {rest : List Call} {answer : Answer}
    (hformed : Formed (.script kind handle (.publish event :: rest) failed))
    (hpaused : kind = .start false → event = .loaded → (host.pluginByHandle handle).any (·.state =
      .paused) = true) :
    Keeps handle host (host.settle kind handle failed answer (.publish event) rest).1 ∧
      (host.settle kind handle failed answer (.publish event) rest).2.hold = none ∧
      ∀ other, (host.settle kind handle failed answer (.publish event) rest).2.owes other =
        ((Leaf.script kind handle (.publish event :: rest) failed).owes other).tail := by
  have hstop : ∀ {after : Host} {ok : Bool}, Keeps handle host after →
      host.turn kind handle (failed || (Call.publish event).refused answer) answer
        (.publish event) = (after, .stop ok) → ¬(kind = .start false ∧ event = .loaded) →
      Keeps handle host (host.settle kind handle failed answer (.publish event) rest).1 ∧
        (host.settle kind handle failed answer (.publish event) rest).2.hold = none ∧
        ∀ other, (host.settle kind handle failed answer (.publish event) rest).2.owes other =
          ((Leaf.script kind handle (.publish event :: rest) failed).owes other).tail := by
    intro after ok hkeeps hturn hnot
    rw [settle_eq hturn]
    refine ⟨hkeeps, rfl, fun other => ?_⟩
    show [] = _
    unfold Leaf.owes
    split
    · simp_all
    · split <;> rfl
    · rfl
  cases kind with
  | unload disable wasRunning => exact hstop (.refl host handle) rfl (by simp)
  | pause => exact hstop (keeps_endTransition host handle) rfl (by simp)
  | resume => exact hstop (keeps_endTransition host handle) rfl (by simp)
  | start activate =>
    cases event with
    | loaded =>
      cases activate with
      | true =>
        have hturn : host.turn (.start true) handle
            (failed || (Call.publish PluginEvent.loaded).refused answer) answer
            (.publish .loaded) = (host, .stop true) := by simp [turn, startTurn]
        exact hstop (.refl host handle) hturn (by simp)
      | false =>
        have hturn : host.turn (.start false) handle
            (failed || (Call.publish PluginEvent.loaded).refused answer) answer
            (.publish .loaded) = (host, .next) := if_pos ⟨rfl, hpaused rfl rfl⟩
        have hrest : rest = [.publish .paused] := start_rest hformed
        rw [settle_eq hturn, hrest]
        refine ⟨.refl host handle, rfl, fun other => ?_⟩
        by_cases hother : handle = other
        · simp [scriptLeaf, Leaf.owes, hother]
        · simp [scriptLeaf, Leaf.owes, hother]
    | unloaded => exact hstop (.refl host handle) rfl (by simp)
    | paused => exact hstop (.refl host handle) rfl (by simp)
    | resumed => exact hstop (.refl host handle) rfl (by simp)
    | allLoaded => exact hstop (.refl host handle) rfl (by simp)

theorem Turned.goes {hold : Hold} (hnumbered : Numbered host)
    (hturned : Turned host handle kind call after leaf) (hsilent : call.publishes = false)
    (hplugin : host.pluginByHandle handle = some plugin) (hok : hold.Ok host plugin)
    (hstopping : ∀ disable wasRunning, kind = .unload disable wasRunning → hold = .stopping)
    (hstarting : ∀ activate, kind = .start activate → hold ≠ .stopping ∧ hold ≠ .resuming)
    (hpausing : kind = .pause → call = .preparePause → plugin.state = .loaded) :
    Quiet host after handle ∧ leaf.owes handle = [] ∨
      leaf.owes handle ≠ [] ∧ ∀ phase : Phase, phase.Fits host handle → ∃ next : Phase,
        phase.follow (leaf.owes handle) = some next ∧ next.Fits after handle := by
  have hidle : ∀ activate, kind = .start activate →
      plugin.state ≠ .loaded ∧ plugin.state ≠ .paused := by
    intro activate hkind
    obtain ⟨hnotStopping, hnotResuming⟩ := hstarting activate hkind
    cases hold with
    | discovery => simp [hok.1]
    | starting => simp [hok.1]
    | replacing => simp [hok.1]
    | refused => simp [hok.1]
    | unwinding => rcases hok.1 with h | h <;> simp [h]
    | stopping => exact absurd rfl hnotStopping
    | resuming => exact absurd rfl hnotResuming
  have hfailed : ∀ {activate : Bool}, kind = .start activate → Becomes .error handle host after →
      Quiet host after handle := by
    intro activate hkind hbecomes
    refine .of_idle hplugin (hidle activate hkind) fun now hnow => ?_
    obtain ⟨_, _, _, hstate⟩ := hbecomes.was hnow
    simp [hstate]
  cases hturned with
  | returns hkeeps => exact .inl ⟨hkeeps.quiet handle, rfl⟩
  | continues hkeeps hlater => exact .inl ⟨hkeeps.quiet handle, owes_silent hlater⟩
  | @settles activate failed after hready hbecomes =>
    right
    obtain ⟨now, hnow, _, hstate⟩ := hbecomes.found hplugin
    cases activate with
    | true =>
      have howes : (Leaf.script (.start true) handle [.publish .loaded, .publish .paused]
          failed).owes handle = [.loaded] := if_pos rfl
      rw [howes]
      refine ⟨by simp, fun phase hfits => ?_⟩
      rw [fits_idle hfits hplugin (hidle true rfl)]
      exact ⟨.running, rfl, now, hnow, hstate⟩
    | false =>
      have howes : (Leaf.script (.start false) handle [.publish .loaded, .publish .paused]
          failed).owes handle = [.loaded, .paused] := if_pos rfl
      rw [howes]
      refine ⟨by simp, fun phase hfits => ?_⟩
      rw [fits_idle hfits hplugin (hidle false rfl)]
      exact ⟨.paused, rfl, now, hnow, hstate⟩
  | announces => cases hsilent
  | fails hbecomes hlater => exact .inl ⟨hfailed rfl hbecomes, owes_silent hlater⟩
  | retains hbecomes => exact .inl ⟨hfailed rfl hbecomes, rfl⟩
  | closes hwrite =>
    left
    refine ⟨.of_idle hplugin (hidle _ rfl) fun now hnow => ?_, rfl⟩
    obtain ⟨old, hold, hwritten⟩ := was_of_modify rfl (fun plugin => (hwrite plugin).1.handle) hnow
    rw [hplugin] at hold
    cases hold
    rw [← hwritten, (hwrite plugin).2.2]
    exact hidle _ rfl
  | @pauses failed after hbecomes =>
    right
    obtain ⟨now, hnow, _, hstate⟩ := hbecomes.found hplugin
    have howes : (Leaf.script .pause handle [.publish .paused] failed).owes handle = [.paused] :=
      if_pos rfl
    rw [howes]
    refine ⟨by simp, fun phase hfits => ?_⟩
    rw [fits_running hfits ⟨plugin, hplugin, hpausing rfl rfl⟩]
    exact ⟨.paused, rfl, now, hnow, hstate⟩
  | @unloads disable wasRunning failed =>
    right
    have howes : (Leaf.script (.unload disable wasRunning) handle [.publish .unloaded]
        failed).owes handle = [.unloaded] := if_pos rfl
    have hnone : (host.finishUnload handle disable).pluginByHandle handle = none := by
      rw [pluginByHandle_congr (finishUnload_plugins host handle disable)]
      exact pluginByHandle_gone host handle
    have hnext : (host.finishUnload handle disable).nextPlugin = host.nextPlugin := by
      unfold finishUnload
      cases disable <;> rfl
    have hallotted : host.Allotted handle := by
      rw [← pluginByHandle_handle hplugin]
      exact hnumbered.allotted plugin (mem_of_pluginByHandle hplugin)
    have hgone : Phase.gone.Fits (host.finishUnload handle disable) handle :=
      ⟨hnone, hallotted.of_nextPlugin hnext⟩
    rw [howes]
    refine ⟨by simp, fun phase hfits => ?_⟩
    have hserving := hstopping disable wasRunning rfl
    subst hserving
    rcases hok.1 with hstate | hstate
    · rw [fits_running hfits ⟨plugin, hplugin, hstate⟩]
      exact ⟨.gone, rfl, hgone⟩
    · rw [fits_paused hfits ⟨plugin, hplugin, hstate⟩]
      exact ⟨.gone, rfl, hgone⟩

end Host

/-! ## Who has the lock -/

namespace Machine

variable {machine : Machine}

/-- Who has the lock makes no call. -/
def Busy (machine : Machine) : Prop :=
  ∀ thread, machine.holder = some thread → (machine.tasks thread).status = .working

theorem goOn_busy (machine : Machine) (thread : Nat) (next : Next)
    (hholder : ∀ other, machine.holder = some other → other = thread) :
    (machine.goOn thread next).Busy := by
  intro other hother
  rw [hholder other hother]
  simp [goOn, setTask]

theorem busy_of_none (hholder : machine.holder = none) : machine.Busy := by
  intro thread hthread
  rw [hholder] at hthread
  cases hthread

theorem work_busy {thread : Nat} (hholder : machine.holder = some thread) (files : Files) :
    (machine.work thread files).Busy := by
  have hmine : ∀ other, machine.holder = some other → other = thread := by
    intro other hother
    rw [hholder] at hother
    exact (Option.some.inj hother).symm
  unfold work
  simp only
  split
  · exact busy_of_none rfl
  · split
    · exact busy_of_none rfl
    · exact goOn_busy machine thread _ hmine
  · exact goOn_busy machine thread _ hmine
  · split
    · exact busy_of_none rfl
    · exact goOn_busy machine thread _ hmine
  · split
    · exact busy_of_none rfl
    · exact goOn_busy machine thread _ hmine

theorem regain_busy (hholder : machine.holder = none) (thread : Nat) :
    (machine.regain thread).Busy := by
  have hmine : ∀ other, ({ machine with holder := some thread } : Machine).holder = some other →
      other = thread := fun other hother => (Option.some.inj hother).symm
  unfold regain
  simp only
  split
  · exact goOn_busy _ thread _ hmine
  · exact goOn_busy _ thread _ hmine
  · exact goOn_busy _ thread _ hmine
  · exact busy_of_none hholder

theorem step_busy (hbusy : machine.Busy) (action : Action) : (machine.step action).Busy := by
  have hcalling : ∀ {thread : Nat} {task : Task} {host : Host},
      (machine.tasks thread).status = .calling →
        ({ machine with host := host }.setTask thread task).Busy := by
    intro thread task host hstatus other hother
    have hworking := hbusy other hother
    have hne : other ≠ thread := by
      intro hsame
      rw [hsame, hstatus] at hworking
      cases hworking
    simp only [setTask, update_of_ne hne]
    exact hworking
  cases action with
  | invoke thread gameThread origin command files =>
    simp only [step]
    split
    · split
      · intro other hother
        have hsame : other = thread := (Option.some.inj hother).symm
        subst hsame
        simp [setTask]
      · exact hbusy
    · exact hbusy
  | work files =>
    cases hholder : machine.holder with
    | none =>
      simp only [step, hholder]
      exact hbusy
    | some thread =>
      simp only [step, hholder]
      exact work_busy hholder files
  | answer thread answer =>
    simp only [step]
    split
    · exact hbusy
    · next hstatus _ => exact hcalling hstatus
    · exact hbusy
  | asked thread query =>
    simp only [step]
    split
    · next hstatus _ => exact hcalling hstatus
    · exact hbusy
  | regain thread =>
    simp only [step]
    split
    · next hholder => exact regain_busy hholder thread
    · exact hbusy
  | happen event =>
    simp only [step]
    split
    · next hholder => exact busy_of_none hholder
    · exact hbusy

end Machine

/-! ## What the stream keeps -/

namespace Stream

variable {stream after : Stream} {thread other : Nat} {handle : KeelPluginHandle}

/-- The thread holds the plugin, or has an event of it to deliver. -/
def Party (stream : Stream) (thread : Nat) (handle : KeelPluginHandle) : Prop :=
  stream.owed thread handle ≠ [] ∨
    ∃ hold, (stream.machine.tasks thread).leaf.hold = some (hold, handle)

/-- No other thread has an event of the plugin to deliver. -/
def Sole (stream : Stream) (thread : Nat) (handle : KeelPluginHandle) : Prop :=
  ∀ other, other ≠ thread → stream.owed other handle = []

/-- Where a thread stands in `Publish` goes with where its command stands. -/
structure Placed (stream : Stream) (thread : Nat) : Prop where
  publishing : (stream.publications thread).isSome = true ↔
    (stream.machine.tasks thread).leaf.publishes.isSome = true ∧
      (stream.machine.tasks thread).status ≠ .working
  answered : ∀ answer, (stream.machine.tasks thread).status = .answered answer →
    ∀ publication ∈ stream.publications thread, publication = .passed

structure Sound (stream : Stream) : Prop where
  safe : Host.Safe stream.machine.host stream.machine.tasks
  imaged : Host.Imaged stream.machine.host stream.machine.tasks
  busy : stream.machine.Busy
  placed : ∀ thread, stream.Placed thread
  apart : ∀ first second, first ≠ second → ∀ handle, stream.Party first handle →
    ¬stream.Party second handle
  served : ∀ thread handle, stream.owed thread handle ≠ [] →
    ∃ phase : Phase, phase ≠ .fresh ∧ phase.Fits stream.machine.host handle
  /-- The paused replacement stays paused until all is told of it. -/
  replaced : ∀ thread handle rest failed, (stream.machine.tasks thread).leaf =
      .script (.start false) handle (.publish .loaded :: rest) failed →
    Phase.paused.Fits stream.machine.host handle
  pausing : ∀ thread handle calls failed, (stream.machine.tasks thread).leaf =
      .script .pause handle calls failed → .preparePause ∈ calls →
    Phase.running.Fits stream.machine.host handle
  law : ∀ handle, stream.missed handle = false → ∀ thread, stream.Sole thread handle →
    ∃ phase : Phase, Phase.follow .fresh
        ((stream.receivedOf handle).map (·.event) ++ stream.owed thread handle) = some phase ∧
      phase.Fits stream.machine.host handle
  complete : ∀ handle, stream.missed handle = false → ∀ thread, stream.Sole thread handle →
    stream.publishedOf handle = stream.receivedOf handle ++ stream.carried thread handle
  increasing : (stream.published.map (·.sequence)).Pairwise (· < ·)
  bound : stream.nextEventSequence < 2 ^ 64
  below : stream.nextEventSequence = 0 ∨
    ∀ sent ∈ stream.published, sent.sequence < stream.nextEventSequence

theorem Sound.sole_exists (hsound : Sound stream) (handle : KeelPluginHandle) :
    ∃ thread, stream.Sole thread handle := by
  by_cases howes : ∃ thread, stream.owed thread handle ≠ []
  · obtain ⟨thread, howed⟩ := howes
    refine ⟨thread, fun other hne => ?_⟩
    by_contra hother
    exact hsound.apart other thread hne handle (.inl hother) (.inl howed)
  · push Not at howes
    exact ⟨0, fun other _ => howes other⟩

theorem Sound.lawful (hsound : Sound stream) (hthere : stream.missed handle = false) :
    stream.Lawful handle := by
  obtain ⟨thread, hsole⟩ := hsound.sole_exists handle
  have hcomplete := hsound.complete handle hthere thread hsole
  refine ⟨?_, ⟨thread, hcomplete⟩, ?_⟩
  · have hpublished : ((stream.publishedOf handle).map (·.sequence)).Pairwise (· < ·) :=
      hsound.increasing.sublist (List.filter_sublist.map _)
    rw [hcomplete, List.map_append] at hpublished
    exact (List.pairwise_append.1 hpublished).1
  · obtain ⟨phase, hfollow, _⟩ := hsound.law handle hthere thread hsole
    obtain ⟨pairs, last, hprefix⟩ := Phase.follow_fresh hfollow
    exact ⟨pairs, last, (List.prefix_append _ _).trans hprefix⟩

/-! ### Publishing -/

theorem owes_of_publishes {leaf : Leaf} {event : PluginEvent}
    (hpublishes : leaf.publishes = some (event, some handle)) :
    ∃ later, leaf.owes handle = event :: later := by
  cases leaf with
  | script kind own calls failed =>
    cases calls with
    | nil => cases hpublishes
    | cons call rest =>
      cases call with
      | publish published =>
        cases hpublishes
        unfold Leaf.owes
        split
        · next hleaf =>
          cases hleaf
          exact ⟨[.paused], if_pos rfl⟩
        · next hleaf =>
          cases hleaf
          exact ⟨[], if_pos rfl⟩
        · next hnone => exact absurd rfl (hnone _ _ _ _ _)
      | deactivate service => cases hpublishes
      | release service => cases hpublishes
      | preparePause => cases hpublishes
      | prepareUnload => cases hpublishes
      | load => cases hpublishes
      | unload => cases hpublishes
  | returned result => cases hpublishes
  | discover own => cases hpublishes
  | allLoaded => cases hpublishes

theorem owed_of_not_passed (hnot : stream.publications thread ≠ some .passed) :
    stream.owed thread handle = (stream.machine.tasks thread).leaf.owes handle :=
  if_neg hnot

theorem owed_of_passed (hpassed : stream.publications thread = some .passed) :
    stream.owed thread handle = ((stream.machine.tasks thread).leaf.owes handle).tail :=
  if_pos hpassed

theorem carried_nil (howed : stream.owed thread handle = []) :
    stream.carried thread handle = [] := by
  have hnone : ∀ sequence, stream.publications thread ≠ some .passed →
      (stream.sent thread sequence).toList.filter (·.plugin = some handle) = [] := by
    intro sequence hnot
    rw [owed_of_not_passed hnot] at howed
    rw [List.filter_eq_nil_iff]
    intro sent hmem hplugin
    obtain ⟨published, hpublishes, hsent⟩ := Option.map_eq_some_iff.1 (Option.mem_toList.1 hmem)
    have hown : published.2 = some handle := by
      rw [← hsent] at hplugin
      simpa using hplugin
    obtain ⟨later, howes⟩ := owes_of_publishes (hpublishes.trans (by rw [← hown]))
    rw [howes] at howed
    cases howed
  unfold carried
  split
  · next sequence hnumbered => exact hnone sequence (by simp [hnumbered])
  · next sequence matched hcollected => exact hnone sequence (by simp [hcollected])
  · rfl

theorem Sound.sole (hsound : Sound stream) (howed : stream.owed thread handle ≠ []) :
    stream.Sole thread handle := by
  intro other hne
  by_contra hother
  exact hsound.apart other thread hne handle (.inl hother) (.inl howed)

theorem Sound.advance (hsound : Sound stream) {before : Publication} (now : Publication)
    (hbefore : stream.publications thread = some before) (hnot : before ≠ .passed)
    (hnow : now ≠ .passed) (hafter : after = { stream with
      publications := update stream.publications thread (some now)
      nextEventSequence := after.nextEventSequence, published := after.published })
    (hcomplete : ∀ handle, stream.missed handle = false → ∀ other, stream.Sole other handle →
      after.publishedOf handle = stream.receivedOf handle ++ after.carried other handle)
    (hincreasing : (after.published.map (·.sequence)).Pairwise (· < ·))
    (hbound : after.nextEventSequence < 2 ^ 64)
    (hbelow : after.nextEventSequence = 0 ∨
      ∀ sent ∈ after.published, sent.sequence < after.nextEventSequence) : Sound after := by
  have howed : ∀ other handle, after.owed other handle = stream.owed other handle := by
    intro other handle
    rw [hafter]
    by_cases hother : other = thread
    · subst hother
      rw [owed_of_not_passed (by simpa using hnow), owed_of_not_passed (by simp [hbefore, hnot])]
    · unfold owed
      simp only [update_of_ne hother]
  have hparty : ∀ other handle, after.Party other handle ↔ stream.Party other handle := by
    intro other handle
    unfold Party
    rw [howed, hafter]
  have hsole : ∀ other handle, after.Sole other handle ↔ stream.Sole other handle := by
    intro other handle
    unfold Sole
    simp only [howed]
  have hmachine : after.machine = stream.machine := by rw [hafter]
  have hmissed : after.missed = stream.missed := by rw [hafter]
  have hreceived : ∀ handle, after.receivedOf handle = stream.receivedOf handle := by
    intro handle
    rw [hafter]
    rfl
  refine ⟨hmachine ▸ hsound.safe, hmachine ▸ hsound.imaged, hmachine ▸ hsound.busy, fun other => ?_,
    fun first second hne handle hfirst => ?_, fun other handle hother => ?_,
    hmachine ▸ hsound.replaced, hmachine ▸ hsound.pausing, fun handle hthere other hother => ?_,
    fun handle hthere other hother => ?_, hincreasing, hbound, hbelow⟩
  · obtain ⟨hpublishing, hanswered⟩ := hsound.placed other
    rw [hafter]
    by_cases hother : other = thread
    · subst hother
      constructor
      · simpa [hbefore] using hpublishing
      · intro answer hstatus
        exact absurd (hanswered answer hstatus before hbefore) hnot
    · constructor
      · simpa [update_of_ne hother] using hpublishing
      · simpa [update_of_ne hother] using hanswered
  · rw [hparty] at hfirst ⊢
    exact hsound.apart first second hne handle hfirst
  · rw [howed] at hother
    rw [hmachine]
    exact hsound.served other handle hother
  · rw [hmissed] at hthere
    rw [hsole] at hother
    rw [hreceived, howed, hmachine]
    exact hsound.law handle hthere other hother
  · rw [hmissed] at hthere
    rw [hsole] at hother
    rw [hreceived]
    exact hcomplete handle hthere other hother

end Stream
end KeelS2.Plugins
