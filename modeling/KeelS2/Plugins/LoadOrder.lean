import KeelS2.Plugins.OpenImages

/-!
# What stands in the load order

`load_order_` is appended to when a plugin is started, before its load callback, and a plugin is
taken out of it with its image: by the unload that takes the record away, or by the start that
did not succeed. So what stands there is what was started and has its image open.
-/

namespace KeelS2.Plugins
namespace Host

variable {host middle after : Host} {handle own other : KeelPluginHandle} {plugin : PluginRecord}
variable {files : Files} {owned : List KeelPluginHandle} {leaf : Leaf} {hold : Hold}
variable {tasks tasks' : Nat → Task} {thread : Nat} {task : Task} {kind : Kind} {call : Call}
variable {calls rest : List Call} {failed : Bool}

structure Ordered (host : Host) (tasks : Nat → Task) : Prop where
  nodup : host.loadOrder.Nodup
  opened : ∀ handle ∈ host.loadOrder, host.openImage handle = some true
  running : ∀ handle plugin, host.pluginByHandle handle = some plugin →
    plugin.state = .loaded ∨ plugin.state = .paused → handle ∈ host.loadOrder
  accepting : ∀ handle plugin, host.pluginByHandle handle = some plugin →
    plugin.acceptingResources = true → handle ∈ host.loadOrder
  held : ∀ thread hold handle, (tasks thread).leaf.hold = some (hold, handle) →
    (handle ∈ host.loadOrder ↔ hold ≠ .discovery)
  /-- What waits to be started does not stand there. -/
  begun : ∀ handle ∈ host.loadOrder, ∀ plugin, host.pluginByHandle handle = some plugin →
    plugin.state = .loading → ∃ thread hold, (tasks thread).leaf.hold = some (hold, handle)

/-! ## Steps -/

section

variable (hordered : Ordered host tasks)

include hordered

theorem Ordered.of_still (hstill : Still host after) (hstanding : Standing host after)
    (horder : after.loadOrder = host.loadOrder)
    (htasks : ∀ thread, (tasks' thread).leaf = (tasks thread).leaf) : Ordered after tasks' where
  nodup := horder ▸ hordered.nodup
  opened handle hmem := by
    rw [openImage_of_rel (hstanding handle)]
    exact hordered.opened handle (horder ▸ hmem)
  running handle now hnow hstate := by
    obtain ⟨old, hold, hsame, _⟩ := hstill.same handle now hnow
    rw [hsame] at hstate
    rw [horder]
    exact hordered.running handle old hold hstate
  accepting handle now hnow hon := by
    obtain ⟨old, hold, _, _, _, _, hsame⟩ := hstill.same handle now hnow
    rw [horder]
    exact hordered.accepting handle old hold (hsame ▸ hon)
  held thread hold handle hheld := by
    rw [horder]
    exact hordered.held thread hold handle (htasks thread ▸ hheld)
  begun handle hmem now hnow hstate := by
    obtain ⟨old, hold, hsame, _⟩ := hstill.same handle now hnow
    obtain ⟨thread, held, hheld⟩ :=
      hordered.begun handle (horder ▸ hmem) old hold (hsame.symm.trans hstate)
    exact ⟨thread, held, by rw [htasks]; exact hheld⟩

theorem Ordered.replace
    (hothers : ∀ other, other ≠ own → after.pluginByHandle other = host.pluginByHandle other)
    (hmem : ∀ other, other ≠ own → (other ∈ after.loadOrder ↔ other ∈ host.loadOrder))
    (hnodup : after.loadOrder.Nodup)
    (halone : ∀ other, other ≠ thread → ∀ hold, (tasks other).leaf.hold ≠ some (hold, own))
    (hbefore : ∀ hold handle, (tasks thread).leaf.hold = some (hold, handle) → handle = own)
    (hheld : ∀ hold handle, task.leaf.hold = some (hold, handle) → handle = own ∧ (own ∈
      after.loadOrder ↔ hold ≠ .discovery))
    (hopened : own ∈ after.loadOrder → after.openImage own = some true)
    (hmine : ∀ now, after.pluginByHandle own = some now → now.state = .loaded ∨ now.state = .paused
      ∨ now.acceptingResources = true → own ∈ after.loadOrder)
    (hbegun : own ∈ after.loadOrder → ∀ now, after.pluginByHandle own = some now → now.state =
      .loading → ∃ hold, task.leaf.hold = some (hold, own)) :
    Ordered after (Function.update tasks thread task) where
  nodup := hnodup
  opened handle hin := by
    by_cases hown : handle = own
    · subst hown
      exact hopened hin
    · rw [openImage_congr (hothers handle hown)]
      exact hordered.opened handle ((hmem handle hown).1 hin)
  running handle now hnow hstate := by
    by_cases hown : handle = own
    · subst hown
      exact hmine now hnow (hstate.imp_right .inl)
    · rw [hothers handle hown] at hnow
      exact (hmem handle hown).2 (hordered.running handle now hnow hstate)
  accepting handle now hnow hon := by
    by_cases hown : handle = own
    · subst hown
      exact hmine now hnow (.inr (.inr hon))
    · rw [hothers handle hown] at hnow
      exact (hmem handle hown).2 (hordered.accepting handle now hnow hon)
  held other hold handle hhold := by
    by_cases hother : other = thread
    · subst hother
      rw [Function.update_self] at hhold
      obtain ⟨rfl, hiff⟩ := hheld hold handle hhold
      exact hiff
    · rw [Function.update_of_ne hother] at hhold
      have hown : handle ≠ own := by
        intro hsame
        exact halone other hother hold (hsame ▸ hhold)
      rw [hmem handle hown]
      exact hordered.held other hold handle hhold
  begun handle hin now hnow hstate := by
    by_cases hown : handle = own
    · subst hown
      obtain ⟨hold, hhold⟩ := hbegun hin now hnow hstate
      exact ⟨thread, hold, by rw [Function.update_self]; exact hhold⟩
    · rw [hothers handle hown] at hnow
      obtain ⟨other, hold, hhold⟩ :=
        hordered.begun handle ((hmem handle hown).1 hin) now hnow hstate
      have hother : other ≠ thread := by
        intro hsame
        exact hown (hbefore hold handle (hsame ▸ hhold))
      exact ⟨other, hold, by rw [Function.update_of_ne hother]; exact hhold⟩

theorem Ordered.writes {state : PluginState → PluginState} (hsets : Sets state own host after)
    (hin : own ∈ host.loadOrder)
    (halone : ∀ other, other ≠ thread → ∀ hold, (tasks other).leaf.hold ≠ some (hold, own))
    (hbefore : ∀ hold handle, (tasks thread).leaf.hold = some (hold, handle) → handle = own)
    (hheld : ∀ hold handle, task.leaf.hold = some (hold, handle) → handle = own ∧ hold ≠ .discovery)
    (hbegun : ∀ old, host.pluginByHandle own = some old → state old.state = .loading → ∃ hold,
      task.leaf.hold = some (hold, own)) : Ordered after (Function.update tasks thread task) := by
  have horder := hsets.order
  rw [← horder] at hin
  refine hordered.replace (fun other hne => hsets.others hne) (fun other _ => by rw [horder])
    (horder ▸ hordered.nodup) halone hbefore (fun hold handle hhold => ?_) (fun _ => ?_)
    (fun _ _ _ => hin) fun _ now hnow hstate => ?_
  · obtain ⟨hown, hnot⟩ := hheld hold handle hhold
    exact ⟨hown, fun _ => hnot, fun _ => hin⟩
  · rw [hsets.openImage]
    exact hordered.opened own (horder ▸ hin)
  · obtain ⟨old, hold, _, hsame⟩ := hsets.was hnow
    exact hbegun old hold (hsame.symm.trans hstate)

theorem Ordered.rests (hplugins : after.plugins = host.plugins)
    (horder : after.loadOrder = host.loadOrder) (hbefore : (tasks thread).leaf.hold = none)
    (hafter : task.leaf.hold = none) : Ordered after (Function.update tasks thread task) := by
  have hleaf : ∀ other, (Function.update tasks thread task other).leaf.hold =
      (tasks other).leaf.hold := by
    intro other
    by_cases hother : other = thread
    · rw [hother, Function.update_self, hafter, hbefore]
    · rw [Function.update_of_ne hother]
  refine ⟨horder ▸ hordered.nodup, fun handle hmem => ?_, fun handle now hnow hstate => ?_,
    fun handle now hnow hon => ?_, fun other hold handle hhold => ?_,
    fun handle hmem now hnow hstate => ?_⟩
  · rw [openImage_congr (pluginByHandle_congr hplugins)]
    exact hordered.opened handle (horder ▸ hmem)
  · rw [pluginByHandle_congr hplugins] at hnow
    exact horder ▸ hordered.running handle now hnow hstate
  · rw [pluginByHandle_congr hplugins] at hnow
    exact horder ▸ hordered.accepting handle now hnow hon
  · rw [hleaf] at hhold
    rw [horder]
    exact hordered.held other hold handle hhold
  · rw [pluginByHandle_congr hplugins] at hnow
    obtain ⟨other, hold, hhold⟩ := hordered.begun handle (horder ▸ hmem) now hnow hstate
    exact ⟨other, hold, by rw [hleaf]; exact hhold⟩

end

theorem Clears.ordered (hclears : Clears host middle) (hordered : Ordered host tasks) :
    middle.loadOrder = host.loadOrder ∧ Ordered middle tasks := by
  induction hclears with
  | nothing => exact ⟨rfl, hordered⟩
  | @removes handle plugin hplugin hidle hpending hclosed =>
    have hout : handle ∉ host.loadOrder := by
      intro hmem
      have hopen := hordered.opened handle hmem
      rw [openImage_found hplugin, hclosed] at hopen
      cases hopen
    have horder : (host.removePluginRecord handle).loadOrder = host.loadOrder := by
      refine List.filter_eq_self.2 fun other hmem => ?_
      simp only [decide_eq_true_eq]
      intro hsame
      exact hout (hsame ▸ hmem)
    refine ⟨horder, horder ▸ hordered.nodup, fun other hmem => ?_, fun other now hnow hstate => ?_,
      fun other now hnow hon => ?_, fun thread hold other hhold => ?_,
      fun other hmem now hnow hstate => ?_⟩
    · rw [horder] at hmem
      have hne : other ≠ handle := fun hsame => hout (hsame ▸ hmem)
      rw [openImage_congr (pluginByHandle_removed hne)]
      exact hordered.opened other hmem
    · rw [horder]
      exact hordered.running other now (found_of_removed hnow) hstate
    · rw [horder]
      exact hordered.accepting other now (found_of_removed hnow) hon
    · rw [horder]
      exact hordered.held thread hold other hhold
    · rw [horder] at hmem
      exact hordered.begun other hmem now (found_of_removed hnow) hstate
  | forgets hclears keep ih =>
    exact ⟨ih.1, ih.2.nodup, ih.2.opened, ih.2.running, ih.2.accepting, ih.2.held, ih.2.begun⟩

theorem Clears.safe (hclears : Clears host middle) (hsafe : Safe host tasks) :
    Safe middle tasks where
  numbered := hclears.numbered hsafe.numbered
  clean plugin hmem hstate := by
    have hfound := (hclears.numbered hsafe.numbered).find_mem hmem
    exact hsafe.clean.found (hclears.found hfound) hstate
  formed := hsafe.formed
  held thread hold handle hheld := by
    obtain ⟨hallotted, hok⟩ := hsafe.held thread hold handle hheld
    refine ⟨hallotted.of_nextPlugin hclears.nextPlugin, fun plugin hplugin => ?_⟩
    refine ok_of_commands (fun hon => ?_) (hok plugin (hclears.found hplugin))
    rwa [hclears.commands] at hon
  apart := hsafe.apart
  allotted thread handle hmem :=
    (hsafe.allotted thread handle hmem).of_nextPlugin hclears.nextPlugin
  disjoint := hsafe.disjoint

theorem script_not_discovery
    (hhold : (Leaf.script kind handle calls failed).hold = some (hold, other)) :
    hold ≠ .discovery := by
  cases kind with
  | unload disable wasRunning =>
    simp only [Leaf.hold] at hhold
    split_ifs at hhold
    cases hhold
    simp
  | pause =>
    cases hhold
    simp
  | resume =>
    cases hhold
    simp
  | start activate =>
    obtain ⟨_, hways⟩ := start_hold hhold
    rcases hways with ⟨rfl, _⟩ | ⟨rfl, _⟩ | ⟨rfl, _⟩ | ⟨rfl, _⟩ <;> simp

theorem Safe.alone_of_owned (hsafe : Safe host tasks)
    (hplugin : host.pluginByHandle handle = some plugin) (hstate : plugin.state = .loading)
    (howned : handle ∈ (tasks thread).owned) :
    ∀ other, other ≠ thread → ∀ hold, (tasks other).leaf.hold ≠ some (hold, handle) := by
  intro other hne hold hheld
  have hok := (hsafe.held other hold handle hheld).2 plugin hplugin
  have hstopping : hold ≠ .stopping := by
    rintro rfl
    rcases hok.1 with h | h <;> rw [hstate] at h <;> cases h
  have hresuming : hold ≠ .resuming := by
    rintro rfl
    have h := hok.1
    rw [hstate] at h
    cases h
  exact hsafe.disjoint other thread hne handle
    (List.mem_append_left _ (owned_of_hold hheld hstopping hresuming)) howned

theorem Ordered.unstarted (hordered : Ordered host tasks)
    (hplugin : host.pluginByHandle handle = some plugin) (hstate : plugin.state = .loading)
    (halone : ∀ other, other ≠ thread → ∀ hold, (tasks other).leaf.hold ≠ some (hold, handle))
    (hidle : (tasks thread).leaf.hold = none) : handle ∉ host.loadOrder := by
  intro hmem
  obtain ⟨other, hold, hheld⟩ := hordered.begun handle hmem plugin hplugin hstate
  by_cases hother : other = thread
  · rw [hother, hidle] at hheld
    cases hheld
  · exact halone other hother hold hheld

theorem discoverPlugin_loadOrder (host : Host) (files : Files) (filename : Text) :
    (host.discoverPlugin files filename).host.loadOrder = host.loadOrder := by
  rcases discoverPlugin_cases host files filename with ⟨hhost, _⟩ | ⟨fresh, hbegun, _⟩
  · rw [hhost]
  · unfold beginDiscover at hbegun
    split at hbegun
    · exact absurd (congrArg Prod.snd hbegun) (by simp)
    · have hhost := congrArg Prod.fst hbegun
      simp only at hhost
      rw [← hhost]

theorem Begins.ordered (hbegins : Begins host files owned after leaf)
    (hsafe : Safe host tasks) (hlive : LiveOpen host) (hordered : Ordered host tasks)
    (hleaf : task.leaf = leaf) (hidle : (tasks thread).leaf.hold = none)
    (howned : ∀ handle ∈ owned, handle ∈ (tasks thread).owned)
    (hafter : Safe after (Function.update tasks thread task)) :
    Ordered after (Function.update tasks thread task) := by
  have hbefore : ∀ {own : KeelPluginHandle} (hold : Hold) (handle : KeelPluginHandle),
      (tasks thread).leaf.hold = some (hold, handle) → handle = own := by
    intro own hold handle hhold
    rw [hidle] at hhold
    cases hhold
  -- what the thread holds behind the step it alone holds
  have htaken : ∀ {own : KeelPluginHandle} {hold : Hold}, task.leaf.hold = some (hold, own) →
      ∀ other, other ≠ thread → ∀ hold', (tasks other).leaf.hold ≠ some (hold', own) := by
    intro own hold hhold other hne hold' hheld
    refine hafter.apart thread other (Ne.symm hne) hold hold' own ?_ ?_
    · rw [Function.update_self]
      exact hhold
    · rw [Function.update_of_ne hne]
      exact hheld
  cases hbegins with
  | returns => exact hordered.rests rfl rfl hidle (by rw [hleaf]; rfl)
  | announces => exact hordered.rests rfl rfl hidle (by rw [hleaf]; rfl)
  | discovers filename =>
    rcases discoverPlugin_cases host files filename with ⟨hhost, hfound⟩ | ⟨fresh, hbegun, hfound⟩
    · rw [hhost]
      exact hordered.rests rfl rfl hidle (by rw [hleaf, hfound]; rfl)
    · obtain ⟨hchange, hfresh, _, hmade, _⟩ := beginDiscover_change hsafe.numbered hbegun
      have horder := discoverPlugin_loadOrder host files filename
      have hout : fresh ∉ host.loadOrder := by
        intro hmem
        have hopen := hordered.opened fresh hmem
        unfold openImage at hopen
        obtain ⟨plugin, hplugin, _⟩ := Option.map_eq_some_iff.1 hopen
        refine hfresh ?_
        rw [← pluginByHandle_handle hplugin]
        exact hsafe.numbered.allotted plugin (mem_of_pluginByHandle hplugin)
      have hidly : ∀ now, (host.discoverPlugin files filename).host.pluginByHandle fresh =
          some now → now.acceptingResources = false ∧ ¬now.Live := by
        intro now hnow
        rw [hmade] at hnow
        cases hnow
        refine ⟨?_, discovered_not_live fresh filename files.image⟩
        cases files.image <;> rfl
      refine hordered.replace (fun other hne => hchange.others other hne)
        (fun other _ => by rw [horder]) (horder ▸ hordered.nodup)
        (fun other hne hold hheld => hfresh (hsafe.held other hold fresh hheld).1) hbefore
        (fun hold handle hhold => ?_) (fun hmem => absurd (horder ▸ hmem) hout)
        (fun now hnow hbad => ?_) fun hmem => absurd (horder ▸ hmem) hout
      · rw [hleaf] at hhold
        rcases hfound with hfound | ⟨_, hfound⟩
        · rw [hfound] at hhold
          cases hhold
        · rw [hfound] at hhold
          cases hhold
          rw [horder]
          exact ⟨rfl, fun hmem => absurd hmem hout, fun hbad => absurd rfl hbad⟩
      · obtain ⟨hoff, hdead⟩ := hidly now hnow
        rcases hbad with hstate | hstate | hon
        · exact absurd (.inr (.inl hstate)) hdead
        · exact absurd (.inr (.inr hstate)) hdead
        · rw [hoff] at hon
          cases hon
  | @rejects own plugin hplugin hstate hmine diagnostic result =>
    have halone := hsafe.alone_of_owned hplugin hstate (howned own hmine)
    have hout := hordered.unstarted hplugin hstate halone hidle
    refine hordered.replace
      (fun other hne => pluginByHandle_modify_ne rfl (fun _ => rfl) hne) (fun other _ => Iff.rfl)
      hordered.nodup halone hbefore (fun hold handle hhold => ?_) (fun hmem => absurd hmem hout)
      (fun now hnow hbad => ?_) fun hmem => absurd hmem hout
    · rw [hleaf] at hhold
      cases hhold
    · obtain ⟨old, _, hwritten⟩ :=
        was_of_modify (rejected_plugins host own diagnostic) (fun _ => rfl) hnow
      rw [← hwritten] at hbad
      simp [closePluginImage] at hbad
  | @starts own plugin hplugin hstate hmine activate hready =>
    have halone := hsafe.alone_of_owned hplugin hstate (howned own hmine)
    have hout := hordered.unstarted hplugin hstate halone hidle
    have hin : own ∈ (host.beginStart own).loadOrder := by simp [beginStart]
    refine hordered.replace
      (fun other hne => pluginByHandle_modify_ne (started_plugins host own) (fun _ => rfl) hne)
      (fun other hne => ?_) ?_ halone hbefore (fun hold handle hhold => ?_)
      (fun _ => ?_) (fun _ _ _ => hin) fun _ now hnow hstate => ?_
    · show other ∈ host.loadOrder ++ [own] ↔ other ∈ host.loadOrder
      simp [hne]
    · refine List.nodup_append.2 ⟨hordered.nodup, List.nodup_singleton own, ?_⟩
      intro other hmem second hsecond
      rw [List.mem_singleton.1 hsecond]
      exact fun hsame => hout (hsame ▸ hmem)
    · rw [hleaf] at hhold
      exact ⟨hold_handle hhold, fun _ => script_not_discovery hhold, fun _ => hin⟩
    · rw [openImage_modify (started_plugins host own) (fun _ => rfl) (fun _ => rfl),
        openImage_found hplugin, hlive own plugin hplugin (.inl hstate)]
    · refine ⟨.starting, ?_⟩
      rw [hleaf]
      cases activate <;> rfl
  | @unloads own plugin hplugin hstate htransition _ disable =>
    have hhold : task.leaf.hold = some (.stopping, own) := by
      rw [hleaf]
      refine if_pos ?_
      simp [unloadCalls]
    refine hordered.writes (keeps_begun host own) (hordered.running own plugin hplugin hstate)
      (htaken hhold) hbefore (fun hold handle hheld => ?_) fun _ _ _ => ⟨_, hhold⟩
    rw [hhold] at hheld
    cases hheld
    simp
  | @pauses own plugin hplugin hstate htransition _ =>
    have hhold : task.leaf.hold = some (.stopping, own) := by
      rw [hleaf]
      rfl
    refine hordered.writes (keeps_begun host own)
      (hordered.running own plugin hplugin (.inl hstate))
      (htaken hhold) hbefore (fun hold handle hheld => ?_) fun _ _ _ => ⟨_, hhold⟩
    rw [hhold] at hheld
    cases hheld
    simp
  | @resumes own plugin hplugin hstate htransition hready =>
    have hhold : task.leaf.hold = some (.resuming, own) := by
      rw [hleaf]
      rfl
    refine hordered.writes (becomes_resumed host own)
      (hordered.running own plugin hplugin (.inr hstate)) (htaken hhold) hbefore
      (fun hold handle hheld => ?_) fun _ _ _ => ⟨_, hhold⟩
    rw [hhold] at hheld
    cases hheld
    simp

/-! ## Turns -/

theorem finishUnload_loadOrder (host : Host) (handle : KeelPluginHandle) (disable : Bool) :
    (host.finishUnload handle disable).loadOrder = host.loadOrder.filter (· ≠ handle) := by
  unfold finishUnload
  cases disable <;> rfl

theorem Hold.loading_idle (hok : hold.Ok host plugin) (hstate : plugin.state = .loading) :
    hold = .starting ∨ hold = .replacing ∨ hold = .unwinding := by
  cases hold with
  | discovery => exact absurd (hstate.symm.trans hok.1) (by simp)
  | starting => exact .inl rfl
  | replacing => exact .inr (.inl rfl)
  | refused => exact absurd (hstate.symm.trans hok.1) (by simp)
  | unwinding => exact .inr (.inr rfl)
  | stopping =>
    rcases hok.1 with h | h
    · exact absurd (hstate.symm.trans h) (by simp)
    · exact absurd (hstate.symm.trans h) (by simp)
  | resuming => exact absurd (hstate.symm.trans hok.1) (by simp)

theorem start_of_loading (hhold : (Leaf.script kind own calls failed).hold = some (hold, own))
    (hok : hold.Ok host plugin) (hstate : plugin.state = .loading) :
    ∃ activate, kind = .start activate := by
  cases kind with
  | start activate => exact ⟨activate, rfl⟩
  | unload disable wasRunning =>
    simp only [Leaf.hold] at hhold
    split_ifs at hhold
    cases hhold
    rcases Hold.loading_idle hok hstate with h | h | h <;> cases h
  | pause =>
    cases hhold
    rcases Hold.loading_idle hok hstate with h | h | h <;> cases h
  | resume =>
    cases hhold
    rcases Hold.loading_idle hok hstate with h | h | h <;> cases h

theorem start_told {activate : Bool} (hformed : call :: rest <:+ startCalls)
    (hpublishes : call.publishes = true) :
    (Leaf.script (.start activate) own (call :: rest) failed).hold = none := by
  have hrest := start_rest hformed
  have hmem : call ∈ startCalls := hformed.subset List.mem_cons_self
  obtain rfl | rfl : call = .publish .loaded ∨ call = .publish .paused := by
    simp only [startCalls, List.mem_cons, List.not_mem_nil, or_false] at hmem
    rcases hmem with rfl | rfl | rfl | rfl | rfl | rfl | rfl | rfl | rfl | rfl | rfl | rfl | h | h
    all_goals first
      | cases hpublishes
      | exact .inl h
      | exact .inr h
  · rw [hrest]
    rfl
  · rw [hrest]
    rfl

theorem start_refusing {activate : Bool} (hformed : .prepareUnload :: rest <:+ startCalls)
    (hhold : (Leaf.script (.start activate) own (.prepareUnload :: rest) failed).hold =
      some (hold, own)) : hold = .refused := by
  rw [start_rest hformed] at hhold
  cases hhold
  rfl

theorem start_closing {activate : Bool} (hformed : .unload :: rest <:+ startCalls)
    (hhold : (Leaf.script (.start activate) own (.unload :: rest) failed).hold =
      some (hold, own)) : hold = .unwinding := by
  rw [start_rest hformed] at hhold
  cases hhold
  rfl

theorem Turned.ordered (hturned : Turned host own kind call after leaf)
    (hordered : Ordered host tasks)
    (hscript : (tasks thread).leaf = .script kind own (call :: rest) failed)
    (hformed : Formed (.script kind own (call :: rest) failed))
    (hmine : (tasks thread).leaf.hold = some (hold, own))
    (hok : ∀ plugin, host.pluginByHandle own = some plugin → hold.Ok host plugin)
    (hgrips : Grips host (.script kind own (call :: rest) failed))
    (halone : ∀ other, other ≠ thread → ∀ hold, (tasks other).leaf.hold ≠ some (hold, own))
    (hleaf : task.leaf = leaf) : Ordered after (Function.update tasks thread task) := by
  have hhold : (Leaf.script kind own (call :: rest) failed).hold = some (hold, own) :=
    hscript ▸ hmine
  have hin : own ∈ host.loadOrder :=
    (hordered.held thread hold own hmine).2 (script_not_discovery hhold)
  have hbefore : ∀ hold handle, (tasks thread).leaf.hold = some (hold, handle) →
      handle = own := by
    intro hold' handle hheld
    rw [hscript] at hheld
    exact hold_handle hheld
  have hlater : ∀ {later : List Call} {failed : Bool}, leaf = .script kind own later failed →
      ∀ hold handle, task.leaf.hold = some (hold, handle) → handle = own ∧ hold ≠ .discovery := by
    intro later failed' hscript' hold' handle hheld
    rw [hleaf, hscript'] at hheld
    exact ⟨hold_handle hheld, script_not_discovery hheld⟩
  have hreturned : ∀ {result : Result}, leaf = .returned result →
      ∀ {held : Hold × KeelPluginHandle}, task.leaf.hold ≠ some held := by
    intro result hresult held hheld
    rw [hleaf, hresult] at hheld
    cases hheld
  cases hturned with
  | returns hkeeps hquits result =>
    refine hordered.writes hkeeps hin halone hbefore
      (fun _ _ hheld => absurd hheld (hreturned rfl)) fun old hold' hloading => ?_
    obtain ⟨activate, rfl⟩ := start_of_loading hhold (hok old hold') hloading
    have hsilent : call.publishes = false := by
      by_contra hpublishes
      rw [start_told hformed (by simpa using hpublishes)] at hhold
      cases hhold
    obtain rfl := hquits activate rfl hsilent old hold'
    obtain rfl := start_refusing hformed hhold
    exact absurd (hloading.symm.trans (hok old hold').1) (by simp)
  | continues hkeeps hsilent hgoing =>
    refine hordered.writes hkeeps hin halone hbefore (hlater rfl) fun old hold' hloading => ?_
    obtain ⟨activate, rfl⟩ := start_of_loading hhold (hok old hold') hloading
    rw [hleaf]
    exact hold_of_unload own activate _ (hgoing activate rfl).2.1
  | @settles activate failed after hready hbecomes =>
    refine hordered.writes hbecomes hin halone hbefore (hlater rfl) fun _ _ hloading => ?_
    cases activate <;> cases hloading
  | announces hpaused =>
    refine hordered.writes (Keeps.refl host own) hin halone hbefore (hlater rfl)
      fun old hold' hloading => ?_
    rw [hold'] at hpaused
    have hstate : old.state = .paused := by simpa using hpaused
    exact absurd (hloading.symm.trans hstate) (by simp)
  | fails hbecomes =>
    refine hordered.writes hbecomes hin halone hbefore (hlater rfl) fun _ _ hloading => ?_
    cases hloading
  | retains hbecomes result =>
    refine hordered.writes hbecomes hin halone hbefore
      (fun _ _ hheld => absurd hheld (hreturned rfl)) fun _ _ hloading => ?_
    cases hloading
  | @closes activate write hwrite haccepting result =>
    have hout : own ∉ host.loadOrder.filter (· ≠ own) := by simp
    refine hordered.replace
      (fun other hne => pluginByHandle_modify_ne rfl (fun plugin => (hwrite plugin).1.handle) hne)
      (fun other hne => ?_) (hordered.nodup.filter _) halone hbefore
      (fun _ _ hheld => absurd hheld (hreturned rfl)) (fun hmem => absurd hmem hout)
      (fun now hnow hbad => ?_) fun hmem => absurd hmem hout
    · simp [hne]
    · obtain ⟨old, hold', hwritten⟩ :=
        was_of_modify rfl (fun plugin => (hwrite plugin).1.handle) hnow
      rw [← hwritten, (hwrite old).2.2, haccepting old,
        hgrips.unwound activate own rest failed rfl old hold'] at hbad
      obtain rfl := start_closing hformed hhold
      rw [(hok old hold').2.2.1] at hbad
      simp at hbad
  | pauses hbecomes =>
    refine hordered.writes hbecomes hin halone hbefore (hlater rfl) fun _ _ hloading => ?_
    cases hloading
  | @unloads disable wasRunning failed =>
    have horder := finishUnload_loadOrder host own disable
    have hout : own ∉ (host.finishUnload own disable).loadOrder := by
      rw [horder]
      simp
    have hgone : (host.finishUnload own disable).pluginByHandle own = none := by
      rw [pluginByHandle_congr (finishUnload_plugins host own disable)]
      exact pluginByHandle_gone host own
    refine hordered.replace (fun other hne => ?_) (fun other hne => ?_) ?_ halone hbefore
      (fun hold' handle hheld => ?_) (fun hmem => absurd hmem hout) (fun now hnow => ?_)
      fun hmem => absurd hmem hout
    · rw [pluginByHandle_congr (finishUnload_plugins host own disable)]
      exact pluginByHandle_removed hne
    · rw [horder]
      simp [hne]
    · rw [horder]
      exact hordered.nodup.filter _
    · rw [hleaf] at hheld
      cases hheld
    · rw [hgone] at hnow
      cases hnow

theorem Ordered.describes (hordered : Ordered host tasks) (query : Query)
    (hmine : (tasks thread).leaf.hold = some (.discovery, own))
    (halone : ∀ other, other ≠ thread → ∀ hold, (tasks other).leaf.hold ≠ some (hold, own))
    (hafter : task.leaf.hold = none) :
    Ordered (host.finishDiscover own query) (Function.update tasks thread task) := by
  have hout : own ∉ host.loadOrder := by
    intro hmem
    exact (hordered.held thread .discovery own hmine).1 hmem rfl
  have hwrite : ∀ plugin, (host.describe own query plugin).handle = plugin.handle :=
    fun plugin => (describe_same host query plugin).1
  refine hordered.replace (fun other hne => pluginByHandle_modify_ne rfl hwrite hne)
    (fun other _ => Iff.rfl) hordered.nodup halone (fun hold handle hheld => ?_)
    (fun hold handle hheld => ?_) (fun hmem => absurd hmem hout) (fun now hnow hbad => ?_)
    fun hmem => absurd hmem hout
  · rw [hmine] at hheld
    cases hheld
    rfl
  · rw [hafter] at hheld
    cases hheld
  · obtain ⟨old, hold, hwritten⟩ := was_of_modify rfl hwrite hnow
    have hidle := describe_idle host own query old
    rw [← hwritten] at hbad
    rcases hbad with hstate | hstate | hon
    · exact absurd hstate hidle.1
    · exact absurd hstate hidle.2
    · rw [(describe_same host query old).2.2.1] at hon
      exact hordered.accepting own old hold hon

end Host

/-! ## The machine -/

namespace Machine

open Lib (run)

variable {machine after : Machine} {action : Action} {thread : Nat} {hold : Hold}
variable {handle own : KeelPluginHandle}

theorem opened_ordered {files : Files} {owned : List KeelPluginHandle} {next : Next} {task : Task}
    (hsafe : Host.Safe machine.host machine.tasks)
    (himaged : Host.Imaged machine.host machine.tasks)
    (hordered : Host.Ordered machine.host machine.tasks)
    (hopened : Host.Opened machine.host files owned next) (hleaf : task.leaf = next.leaf)
    (hidle : (machine.tasks thread).leaf.hold = none)
    (howned : ∀ handle ∈ owned, handle ∈ (machine.tasks thread).owned)
    (hafter : Host.Safe next.host (Function.update machine.tasks thread task)) :
    Host.Ordered next.host (Function.update machine.tasks thread task) := by
  obtain ⟨middle, hclears, hbegins⟩ := hopened
  obtain ⟨_, hmiddle⟩ := hclears.ordered hordered
  exact hbegins.ordered (hclears.safe hsafe) (hclears.live himaged.live) hmiddle hleaf hidle howned
    hafter

theorem settle_ordered {host : Host} {kind : Kind} {call : Call} {rest : List Call}
    {failed : Bool} {answer : Answer} {task : Task}
    (hsafe : Host.Safe machine.host machine.tasks)
    (himaged : Host.Imaged machine.host machine.tasks)
    (hordered : Host.Ordered machine.host machine.tasks) (hstill : Host.Still machine.host host)
    (hstanding : Host.Standing machine.host host) (horder : host.loadOrder = machine.host.loadOrder)
    (hscript : (machine.tasks thread).leaf = .script kind own (call :: rest) failed)
    (hleaf : task.leaf = (host.settle kind own failed answer call rest).2) :
    Host.Ordered (host.settle kind own failed answer call rest).1
      (Function.update machine.tasks thread task) := by
  have hreached : Host.Ordered host machine.tasks :=
    hordered.of_still hstill hstanding horder fun _ => rfl
  have hformed := hsafe.formed thread
  rw [hscript] at hformed
  cases hmine : (machine.tasks thread).leaf.hold with
  | none =>
    obtain ⟨hhost, hnone⟩ :
        (host.settle kind own failed answer call rest).1 = host ∧
          (host.settle kind own failed answer call rest).2.hold = none :=
      settle_idle hsafe hscript hmine
    rw [hhost]
    exact hreached.rests rfl rfl hmine (by rw [hleaf, hnone])
  | some mine =>
    obtain ⟨hold, own'⟩ := mine
    obtain rfl : own' = own := Host.hold_handle (hscript ▸ hmine)
    have hgrips := (himaged.grips thread).of_stands fun _ handle _ => hstanding handle
    rw [hscript] at hgrips
    refine (settle_turned hsafe himaged hscript).ordered hreached hscript hformed hmine
      (hstill.ok (hsafe.held thread hold own' hmine).2) hgrips
        (fun other hne hold' hheld => ?_) hleaf
    exact hsafe.apart thread other (Ne.symm hne) hold hold' own' hmine hheld

theorem called_loadOrder (host : Host) (handle : KeelPluginHandle) (call : Call)
    (answer : Answer) : (host.called handle call answer).loadOrder = host.loadOrder := by
  unfold Host.called
  split
  · split <;> rfl
  · split <;> rfl
  · rfl
  · rfl
  · rfl
  · rfl
  · rfl

theorem calling_loadOrder (host : Host) (handle : KeelPluginHandle) (call : Call) :
    (host.calling handle call).loadOrder = host.loadOrder := by
  unfold Host.calling
  split <;> rfl

theorem reached_loadOrder (host : Host) (handle : KeelPluginHandle) (call : Call)
    (answer : Answer) : (reached host handle call answer).loadOrder = host.loadOrder := by
  unfold reached
  split
  · rfl
  · exact called_loadOrder host handle call answer

theorem answer_loadOrder (machine : Machine) (thread : Nat) (answer : Answer) :
    (machine.answer thread answer).host.loadOrder = machine.host.loadOrder := by
  unfold Machine.answer Machine.setTask
  dsimp only
  split
  · split
    · exact called_loadOrder _ _ _ _
    · rfl
  · rfl

theorem happen_loadOrder (host : Host) (event : Event) :
    (host.happen event).loadOrder = host.loadOrder := by
  unfold Host.happen
  split
  · split <;> rfl
  · split
    · rfl
    · split <;> rfl
  · rfl
  · rfl
  · rfl
  · rfl

theorem step_ordered (hsafe : Host.Safe machine.host machine.tasks)
    (himaged : Host.Imaged machine.host machine.tasks)
    (hordered : Host.Ordered machine.host machine.tasks) (action : Action) :
    Host.Ordered (machine.step action).host (machine.step action).tasks := by
  have hafter := (step_step hsafe action).safe
  have hdoes := step_does machine action
  generalize machine.step action = after at hafter hdoes ⊢
  have hopens := @opened_ordered machine
  have hsettles := @settle_ordered machine
  have hsame : ∀ {thread : Nat} {status : Status} (other : Nat),
      (Function.update machine.tasks thread
        { machine.tasks thread with status := status } other).leaf =
          (machine.tasks other).leaf := by
    intro thread status other
    by_cases hother : other = thread
    · rw [hother, Function.update_self]
    · rw [Function.update_of_ne hother]
  cases hdoes with
  | idles => exact hordered
  | happens event hholder =>
    exact hordered.of_still (Host.happen_still _ event) (Host.happen_standing _ event)
      (happen_loadOrder _ event) fun _ => rfl
  | begins hholder hwaits hadmitted =>
    obtain ⟨⟨_, hleaf⟩, _⟩ := Task.returned_of_waits hwaits
    exact hopens hsafe himaged hordered (Host.invoke_opened hsafe.numbered _) rfl
      (by rw [hleaf]; rfl) (by simp) hafter
  | waits hholder hleaf => exact hordered.of_still (.refl _) (.of_same rfl) rfl hsame
  | @calls thread files kind own call rest failed hholder hleaf hmakes =>
    exact hordered.of_still (Host.calling_still _ own call) (Host.calling_standing _ own call)
      (calling_loadOrder _ own call) hsame
  | @skips thread files kind own call rest failed hholder hleaf hmakes =>
    exact hsettles hsafe himaged hordered (.refl machine.host) (.of_same rfl) rfl hleaf rfl
  | @returns thread _ holder result hleaf =>
    cases hmine : (machine.tasks thread).leaf.hold with
    | none => exact hordered.rests rfl rfl hmine rfl
    | some mine =>
      obtain ⟨hold, own⟩ := mine
      rcases hleaf with ⟨kind, own', failed, hleaf, _⟩ | ⟨hleaf, _⟩
      · rw [hleaf] at hmine
        obtain rfl := Host.hold_handle hmine
        have hheld : (machine.tasks thread).leaf.hold = some (hold, own) := by rw [hleaf, hmine]
        refine hordered.writes (Host.Keeps.refl machine.host own)
          ((hordered.held thread hold own hheld).2 (Host.script_not_discovery hmine))
          (fun other hne hold' => hsafe.apart thread other (Ne.symm hne) hold hold' own hheld)
          (fun hold' handle hother => ?_) (fun hold' handle hother => by cases hother)
          fun old hfound hloading => ?_
        · rw [hheld] at hother
          cases hother
          rfl
        · have hok := (hsafe.held thread hold own hheld).2 old hfound
          obtain ⟨activate, rfl⟩ := Host.start_of_loading hmine hok hloading
          cases hmine
      · rw [hleaf] at hmine
        cases hmine
  | ends hholder hleaf hcallers => exact hordered.rests rfl rfl (by rw [hleaf]; rfl) rfl
  | @resumes thread files result caller callers hholder hleaf hcallers =>
    have hopened : Host.Opened machine.host files (result.record.toList ++ caller.owned)
        (machine.host.resume files result caller) :=
      Host.resume_opened hsafe.numbered hsafe.clean result caller
    exact hopens hsafe himaged hordered hopened rfl (by rw [hleaf]; rfl)
      (Task.owned_of_resumed hleaf hcallers) hafter
  | answers hstatus hleaf =>
    exact hordered.of_still (answer_still _ _ _) (answer_standing _ _ _) (answer_loadOrder _ _ _)
      hsame
  | asks hstatus hleaf => exact hordered.of_still (.refl _) (.of_same rfl) rfl hsame
  | @describes thread query own hholder hstatus hleaf =>
    have hmine : (machine.tasks thread).leaf.hold = some (.discovery, own) := by
      rw [hleaf]
      rfl
    refine hordered.describes query hmine (fun other hne hold hheld => ?_) rfl
    exact hsafe.apart thread other (Ne.symm hne) .discovery hold own hmine hheld
  | @settles thread kind own call rest failed answer hholder hstatus hleaf =>
    exact hsettles hsafe himaged hordered (reached_still _ _ _ _)
      (reached_standing _ own call answer) (reached_loadOrder _ _ _ _) hleaf rfl

theorem initial_ordered : Host.Ordered initial.host initial.tasks where
  nodup := List.nodup_nil
  opened handle hmem := by cases hmem
  running handle plugin hplugin := by cases hplugin
  accepting handle plugin hplugin := by cases hplugin
  held thread hold handle hheld := by cases hheld
  begun handle hmem := by cases hmem

/-- What every step of the manager keeps. -/
structure Kept (machine : Machine) : Prop where
  safe : Host.Safe machine.host machine.tasks
  imaged : Host.Imaged machine.host machine.tasks
  ordered : Host.Ordered machine.host machine.tasks

theorem initial_kept : initial.Kept :=
  ⟨initial_safe, initial_imaged, initial_ordered⟩

theorem Kept.step (hkept : machine.Kept) (action : Action) : (machine.step action).Kept where
  safe := (step_step hkept.safe action).safe
  imaged := step_imaged hkept.safe hkept.imaged action
  ordered := step_ordered hkept.safe hkept.imaged hkept.ordered action

end Machine
end KeelS2.Plugins
