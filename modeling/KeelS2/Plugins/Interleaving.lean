import KeelS2.Plugins.Openings
import KeelS2.Plugins.Steps

/-!
# Commands that are under way together

What the machine keeps over all its steps: every command under way holds its plugin in the state
it left it in, no two hold the same one, and what one has found no other has. From it every step
of the machine is at most two changes of the host, each of one record (`Evolves`), and what a
change keeps, a run keeps.
-/

namespace KeelS2.Plugins

open Function (update update_of_ne update_self)

/-- The unload callback comes next, and with it the end of the plugin. -/
def Leaf.unloads (leaf : Leaf) (handle : KeelPluginHandle) : Bool :=
  match leaf with
  | .script (.unload _ _) other (.unload :: _) _ => other == handle
  | _ => false

def Task.owned (task : Task) : List KeelPluginHandle :=
  task.leaf.owned ++ task.callers.flatMap Caller.owned

theorem Task.owned_of_resumed {task : Task} {result : Result} {caller : Caller}
    {callers : List Caller} (hleaf : task.leaf = .returned result)
    (hcallers : task.callers = caller :: callers) :
    ∀ own ∈ result.record.toList ++ caller.owned, own ∈ task.owned := by
  intro own hmem
  rw [Task.owned, hleaf, hcallers]
  simp only [Leaf.owned, List.flatMap_cons, List.mem_append] at hmem ⊢
  tauto

namespace Host

variable {host middle after : Host} {handle other : KeelPluginHandle}
variable {old now plugin : PluginRecord} {hold : Hold} {slip : Prop}

/-! ## Holds -/

theorem ok_of_commands
    (hcommands : after.commandsEnabled plugin.handle = true →
      host.commandsEnabled plugin.handle = true)
    (hok : hold.Ok host plugin) : hold.Ok after plugin := by
  have hoff : host.commandsEnabled plugin.handle = false →
      after.commandsEnabled plugin.handle = false := by
    intro hoff
    by_contra hon
    rw [Bool.not_eq_false] at hon
    exact absurd (hcommands hon) (by simp [hoff])
  cases hold with
  | discovery => exact hok
  | starting => exact hok
  | replacing => exact ⟨hok.1, hok.2.1, hok.2.2.1, hoff hok.2.2.2⟩
  | refused => exact ⟨hok.1, hok.2.1, hok.2.2.1, hoff hok.2.2.2⟩
  | unwinding => exact ⟨hok.1, hok.2.1, hok.2.2.1, hoff hok.2.2.2⟩
  | stopping => exact ⟨hok.1, hok.2.1, hok.2.2.1, hoff hok.2.2.2⟩
  | resuming => exact hok

theorem Change.ok_other {restores : Bool} (hchange : Change host after handle restores)
    (hne : other ≠ handle)
    (hok : ∀ plugin, host.pluginByHandle other = some plugin → hold.Ok host plugin) :
    ∀ plugin, after.pluginByHandle other = some plugin → hold.Ok after plugin := by
  intro plugin hplugin
  rw [hchange.others other hne] at hplugin
  refine ok_of_commands ?_ (hok plugin hplugin)
  rw [pluginByHandle_handle hplugin]
  exact hchange.commands other (.inl hne)

theorem Change.ok_same (hchange : Change host after handle false)
    (hplugins : after.plugins = host.plugins)
    (hok : ∀ plugin, host.pluginByHandle other = some plugin → hold.Ok host plugin) :
    ∀ plugin, after.pluginByHandle other = some plugin → hold.Ok after plugin := by
  intro plugin hplugin
  rw [pluginByHandle_congr hplugins] at hplugin
  exact ok_of_commands (hchange.commands _ (.inr rfl)) (hok plugin hplugin)

theorem Clearing.ok {gone : KeelPluginHandle} (hclearing : Clearing host middle gone)
    (hok : ∀ plugin, host.pluginByHandle other = some plugin → hold.Ok host plugin) :
    ∀ plugin, middle.pluginByHandle other = some plugin → hold.Ok middle plugin := by
  by_cases hother : other = gone
  · intro plugin hplugin
    rw [hother] at hok hplugin
    exact ok_of_commands (hclearing.change.commands _ (.inr rfl))
      (hok plugin (hclearing.vanished plugin hplugin))
  · exact hclearing.change.ok_other hother hok

variable {owned : List KeelPluginHandle}

theorem Free.not_held (hfree : Free host owned handle) (hallotted : host.Allotted handle)
    (hok : ∀ plugin, host.pluginByHandle handle = some plugin → hold.Ok host plugin)
    (howned : hold ≠ .stopping → hold ≠ .resuming → handle ∉ owned) : False := by
  rcases hfree with hfresh | ⟨plugin, hplugin, ⟨hmem, hstate⟩ | ⟨hstate, htransition⟩⟩
  · exact hfresh hallotted
  · have hheld := hok plugin hplugin
    cases hold with
    | stopping =>
      rcases hheld.1 with h | h
      · rw [hstate] at h
        cases h
      · rw [hstate] at h
        cases h
    | resuming => exact absurd (hstate.symm.trans hheld.1) (by decide)
    | discovery => exact howned (by simp) (by simp) hmem
    | starting => exact howned (by simp) (by simp) hmem
    | replacing => exact howned (by simp) (by simp) hmem
    | refused => exact howned (by simp) (by simp) hmem
    | unwinding => exact howned (by simp) (by simp) hmem
  · have hheld := hok plugin hplugin
    have hnot : plugin.state ≠ .error ∧ plugin.state ≠ .loading := by
      rcases hstate with hstate | hstate <;> simp [hstate]
    cases hold with
    | stopping => exact absurd (htransition.symm.trans hheld.2.1) (by decide)
    | resuming => exact absurd (htransition.symm.trans hheld.2) (by decide)
    | discovery => exact hnot.1 hheld.1
    | starting => exact hnot.2 hheld.1
    | replacing => exact hnot.2 hheld.1
    | refused => exact hnot.1 hheld.1
    | unwinding => exact hheld.1.elim hnot.2 hnot.1

/-! ## Quarantine and loading -/

theorem Change.clean {restores : Bool} (hchange : Change host after handle restores)
    (hnumbered : Numbered host) (hclean : LoadingClean host) : LoadingClean after := by
  intro now hmem hstate
  have hnow := (hchange.numbered hnumbered).find_mem hmem
  by_cases hother : now.handle = handle
  · rw [hother] at hnow
    rcases hchange.moved now hnow with ⟨old, hold, hmove⟩ | ⟨_, filename, image, rfl⟩
    · rcases hmove.pending with hpending | ⟨_, _, hnot, _⟩
      · rw [hpending]
        cases hmove.shift with
        | kept _ hsame _ => exact hclean.found hold (hsame.symm.trans hstate)
        | described _ _ hnone _ _ => exact hnone
        | failed _ _ hnot => exact absurd (hstate.symm.trans hnot) (by decide)
        | settled _ hold' _ _ => exact hclean.found hold hold'
        | begun _ hservice hsame _ =>
          rw [← hsame, hstate] at hservice
          simp at hservice
        | resumed _ _ hnot _ => exact absurd (hstate.symm.trans hnot) (by decide)
        | paused _ _ _ hnot => exact absurd (hstate.symm.trans hnot) (by decide)
        | ended _ hservice _ hsame =>
          rw [← hsame, hstate] at hservice
          simp at hservice
      · exact absurd hstate hnot
    · cases image <;> cases hstate
  · rw [hchange.others _ hother] at hnow
    exact hclean.found hnow hstate

/-! ## What a hold does not read -/

/-- Something happens to a plugin that no hold reads. -/
structure Still (host after : Host) : Prop where
  change : ∃ handle restores, Change host after handle restores ∧
    Careful host after handle restores
  same : ∀ other now, after.pluginByHandle other = some now → ∃ old,
    host.pluginByHandle other = some old ∧ now.state = old.state ∧
      now.selectable = old.selectable ∧ now.transitioning = old.transitioning ∧
      now.cleanupPending = old.cleanupPending ∧ now.acceptingResources = old.acceptingResources
  commands : ∀ other, after.commandsEnabled other = true → host.commandsEnabled other = true

theorem Still.ok (hstill : Still host after)
    (hok : ∀ plugin, host.pluginByHandle other = some plugin → hold.Ok host plugin) :
    ∀ plugin, after.pluginByHandle other = some plugin → hold.Ok after plugin := by
  intro now hnow
  obtain ⟨old, hold', hstate, hselectable, htransition, hpending, haccepting⟩ :=
    hstill.same other now hnow
  refine ok_of_commands (hstill.commands _) ?_
  have hheld := hok old hold'
  have hhandle : now.handle = old.handle :=
    (pluginByHandle_handle hnow).trans (pluginByHandle_handle hold').symm
  cases hold <;>
    simpa [Hold.Ok, hhandle, hstate, hselectable, htransition, hpending, haccepting]
      using hheld

theorem Still.allotted (hstill : Still host after) (hallotted : host.Allotted other) :
    after.Allotted other := by
  obtain ⟨_, _, hchange, _⟩ := hstill.change
  exact hchange.allotted other hallotted

theorem Still.of_modify {write : PluginRecord → PluginRecord}
    (hplugins : after.plugins = (host.modify handle write).plugins)
    (hrest : SameRest host after)
    (hwrite : ∀ plugin, SameManifest plugin (write plugin) ∧
      (write plugin).state = plugin.state ∧
      (write plugin).transitioning = plugin.transitioning ∧
      (write plugin).cleanupPending = plugin.cleanupPending ∧
      (write plugin).acceptingResources = plugin.acceptingResources)
    (hcommands : ∀ other, after.commandsEnabled other = true → host.commandsEnabled other = true)
    (hdispatch : ∀ service other,
      after.dispatch service other = true → host.dispatch service other = true) :
    Still host after where
  change := by
    have hhandle : ∀ plugin, (write plugin).handle = plugin.handle := fun plugin =>
      (hwrite plugin).1.handle
    refine ⟨handle, false, .of_modify hplugins hhandle hrest (fun old _ => ?_)
      (fun other _ => hcommands other) fun other _ service => hdispatch service other,
      .of_quiet (.of_modify hplugins hhandle fun plugin hloaded => ?_)⟩
    · obtain ⟨hmanifest, hstate, htransition, hpending, haccepting⟩ := hwrite old
      exact ⟨.kept hmanifest hstate htransition, .inl hpending,
        fun _ hon => haccepting.symm.trans hon⟩
    · exact (hwrite plugin).2.1.symm.trans hloaded
  same other now hnow := by
    rw [pluginByHandle_congr hplugins,
      pluginByHandle_modify fun plugin => (hwrite plugin).1.handle] at hnow
    by_cases hother : other = handle
    · rw [if_pos hother] at hnow
      obtain ⟨old, hold, rfl⟩ := Option.map_eq_some_iff.1 hnow
      obtain ⟨hmanifest, hstate, htransition, hpending, haccepting⟩ := hwrite old
      exact ⟨old, hold, hstate, hmanifest.selectable, htransition, hpending, haccepting⟩
    · rw [if_neg hother] at hnow
      exact ⟨now, hnow, rfl, rfl, rfl, rfl, rfl⟩
  commands := hcommands

theorem Still.of_same (hplugins : after.plugins = host.plugins) (hrest : SameRest host after)
    (hcommands : ∀ other, after.commandsEnabled other = true → host.commandsEnabled other = true)
    (hdispatch : ∀ service other,
      after.dispatch service other = true → host.dispatch service other = true) :
    Still host after := by
  have hmodified : after.plugins = (host.modify 0 id).plugins := by
    rw [hplugins]
    unfold modify
    simp
  exact .of_modify hmodified hrest (fun _ => ⟨⟨rfl, rfl, rfl, rfl, rfl, rfl⟩, rfl, rfl, rfl, rfl⟩)
    hcommands hdispatch

theorem Still.refl (host : Host) : Still host host :=
  .of_same rfl ⟨rfl, rfl⟩ (fun _ hon => hon) fun _ _ hon => hon

theorem calling_still (host : Host) (handle : KeelPluginHandle) (call : Call) :
    Still host (host.calling handle call) := by
  cases call with
  | preparePause =>
    refine .of_modify rfl ⟨rfl, rfl⟩ (fun _ => ?_) (fun _ hon => hon) fun _ _ hon => hon
    exact ⟨⟨rfl, rfl, rfl, rfl, rfl, rfl⟩, rfl, rfl, rfl, rfl⟩
  | prepareUnload =>
    refine .of_modify rfl ⟨rfl, rfl⟩ (fun _ => ?_) (fun _ hon => hon) fun _ _ hon => hon
    exact ⟨⟨rfl, rfl, rfl, rfl, rfl, rfl⟩, rfl, rfl, rfl, rfl⟩
  | unload =>
    refine .of_modify rfl ⟨rfl, rfl⟩ (fun _ => ?_) (fun _ hon => hon) fun _ _ hon => hon
    exact ⟨⟨rfl, rfl, rfl, rfl, rfl, rfl⟩, rfl, rfl, rfl, rfl⟩
  | deactivate service => exact .refl host
  | release service => exact .refl host
  | load => exact .refl host
  | publish event => exact .refl host

theorem off_of_set {service : Service} {other : KeelPluginHandle} {first : Service}
    (hon : (if service = first then set (host.dispatch service) handle false
      else host.dispatch service) other = true) : host.dispatch service other = true := by
  by_cases hservice : service = first
  · rw [if_pos hservice] at hon
    by_cases hother : other = handle
    · rw [hother, set_self] at hon
      cases hon
    · rwa [set_ne hother] at hon
  · rwa [if_neg hservice] at hon

theorem called_still (host : Host) (handle : KeelPluginHandle) (call : Call) (answer : Answer) :
    Still host (host.called handle call answer) := by
  cases call with
  | preparePause =>
    refine .of_modify rfl ⟨rfl, rfl⟩ (fun _ => ?_) (fun _ hon => hon) fun _ _ hon => hon
    exact ⟨⟨rfl, rfl, rfl, rfl, rfl, rfl⟩, rfl, rfl, rfl, rfl⟩
  | prepareUnload =>
    refine .of_modify rfl ⟨rfl, rfl⟩ (fun _ => ?_) (fun _ hon => hon) fun _ _ hon => hon
    exact ⟨⟨rfl, rfl, rfl, rfl, rfl, rfl⟩, rfl, rfl, rfl, rfl⟩
  | unload =>
    refine .of_modify rfl ⟨rfl, rfl⟩ (fun _ => ?_) (fun _ hon => hon) fun _ _ hon => hon
    exact ⟨⟨rfl, rfl, rfl, rfl, rfl, rfl⟩, rfl, rfl, rfl, rfl⟩
  | deactivate service =>
    unfold called
    simp only
    split
    · exact .of_same rfl ⟨rfl, rfl⟩ (fun _ hon => hon) fun _ _ hon => off_of_set hon
    · exact .refl host
  | release service =>
    unfold called
    simp only
    split
    · exact .of_same rfl ⟨rfl, rfl⟩ (fun _ hon => hon) fun _ _ hon => off_of_set hon
    · exact .refl host
  | load => exact .refl host
  | publish event => exact .refl host

theorem happen_still (host : Host) (event : Event) : Still host (host.happen event) := by
  cases event with
  | connect service =>
    simp only [happen]
    split
    · exact .refl host
    · refine .of_same rfl ⟨rfl, rfl⟩ (fun _ hon => hon) fun other handle hon => ?_
      simp only at hon
      split at hon
      · cases hon
      · exact hon
  | acquire service handle =>
    cases hplugin : host.pluginByHandle handle with
    | none =>
      simp only [happen, hplugin]
      exact .refl host
    | some plugin =>
      simp only [happen, hplugin]
      split
      · next htaken =>
        rw [Bool.and_eq_true] at htaken
        refine ⟨⟨handle, true, .of_same rfl ⟨rfl, rfl⟩ (fun _ _ hon => hon)
          fun other hother first hon => ?_, .of_notLoading (.refl host handle)
          fun _ old hold _ => ?_⟩, fun other now hnow => ⟨now, hnow, rfl, rfl, rfl, rfl, rfl⟩,
          fun _ hon => hon⟩
        · have hne : other ≠ handle := hother.resolve_right (by simp)
          simp only at hon
          split at hon
          · rwa [set_ne hne] at hon
          · exact hon
        · rw [hplugin] at hold
          cases hold
          exact htaken.1
      · exact .refl host
  | preparePause handle callback =>
    refine .of_modify rfl ⟨rfl, rfl⟩ (fun plugin => ?_) (fun _ hon => hon) fun _ _ hon => hon
    by_cases htakes : (!plugin.preparePauseActive && takesCallback plugin callback) = true
    · rw [if_pos htakes]
      exact ⟨⟨rfl, rfl, rfl, rfl, rfl, rfl⟩, rfl, rfl, rfl, rfl⟩
    · rw [if_neg htakes]
      exact ⟨⟨rfl, rfl, rfl, rfl, rfl, rfl⟩, rfl, rfl, rfl, rfl⟩
  | prepareUnload handle callback =>
    refine .of_modify rfl ⟨rfl, rfl⟩ (fun plugin => ?_) (fun _ hon => hon) fun _ _ hon => hon
    by_cases htakes : (!plugin.prepareUnloadActive && takesCallback plugin callback) = true
    · rw [if_pos htakes]
      exact ⟨⟨rfl, rfl, rfl, rfl, rfl, rfl⟩, rfl, rfl, rfl, rfl⟩
    · rw [if_neg htakes]
      exact ⟨⟨rfl, rfl, rfl, rfl, rfl, rfl⟩, rfl, rfl, rfl, rfl⟩
  | operations handle count =>
    refine .of_modify rfl ⟨rfl, rfl⟩ (fun _ => ?_) (fun _ hon => hon) fun _ _ hon => hon
    exact ⟨⟨rfl, rfl, rfl, rfl, rfl, rfl⟩, rfl, rfl, rfl, rfl⟩
  | uses commandActive pinned leased =>
    exact .of_same rfl ⟨rfl, rfl⟩ (fun _ hon => hon) fun _ _ hon => hon

/-! ## A command's turn, whatever its kind -/

theorem settle_section {kind : Kind} {failed : Bool} {answer : Answer} {call : Call}
    {rest : List Call} (hformed : Formed (.script kind handle (call :: rest) failed))
    (hok : ∀ hold other,
      (Leaf.script kind handle (call :: rest) failed).hold = some (hold, other) →
        ∀ plugin, host.pluginByHandle other = some plugin → hold.Ok host plugin) :
    Section host kind handle (host.slips kind handle answer call)
      (host.settle kind handle failed answer call rest) := by
  cases kind with
  | unload disable wasRunning =>
    refine settle_unload hformed fun hmem => hok .stopping handle ?_
    exact if_pos hmem
  | pause => exact settle_pause hformed (hok .stopping handle rfl)
  | resume => exact settle_resume hformed (hok .resuming handle rfl)
  | start activate =>
    refine settle_start hformed fun hold other hleaf => ?_
    obtain ⟨rfl, _⟩ := start_hold hleaf
    exact hok hold other hleaf

/-- Up to its events a start has the unload callback before it. -/
theorem start_ahead {call : Call} {rest : List Call} (hformed : call :: rest <:+ startCalls)
    (hcall : ∀ event, call ≠ .publish event) : .unload ∈ call :: rest := by
  have hall : ∀ calls ∈ startCalls.tails,
      calls.head?.all (fun call => call = .publish .loaded ∨ call = .publish .paused) = true ∨
        Call.unload ∈ calls := by
    decide
  refine (hall _ ((List.mem_tails _ _).2 hformed)).resolve_left fun hpublish => ?_
  rcases of_decide_eq_true hpublish with h | h
  · exact hcall _ h
  · exact hcall _ h

theorem settle_idle {kind : Kind} {failed : Bool} {answer : Answer} {call : Call}
    {rest : List Call} (hformed : Formed (.script kind handle (call :: rest) failed))
    (hhold : (Leaf.script kind handle (call :: rest) failed).hold = none) :
    (host.settle kind handle failed answer call rest).1 = host ∧
      (host.settle kind handle failed answer call rest).2.hold = none := by
  cases kind with
  | unload disable wasRunning =>
    have hmem : Call.unload ∉ call :: rest := by
      intro hmem
      simp only [Leaf.hold, if_pos hmem] at hhold
      cases hhold
    have hcall : call = .publish .unloaded := by
      by_contra hne
      exact hmem (unload_ahead hformed hne)
    subst hcall
    exact ⟨rfl, rfl⟩
  | pause => cases hhold
  | resume => cases hhold
  | start activate =>
    have hrest := start_rest hformed
    have hunload : Call.unload ∉ call :: rest := by
      intro hmem
      simp only [Leaf.hold, if_pos hmem] at hhold
      split_ifs at hhold
    cases call with
    | publish event =>
      have hleaf : ∀ failed, (Leaf.script (.start activate) handle rest failed).hold = none := by
        intro failed
        rw [hrest]
        cases event <;> rfl
      cases event with
      | loaded =>
        by_cases hpaused : (!activate) = true ∧
            (host.pluginByHandle handle).any (·.state = .paused) = true
        · have hturn : host.turn (.start activate) handle
              (failed || (Call.publish PluginEvent.loaded).refused answer) answer
              (.publish .loaded) = (host, .next) := if_pos hpaused
          rw [settle_eq hturn]
          exact ⟨rfl, hleaf _⟩
        · have hturn : host.turn (.start activate) handle
              (failed || (Call.publish PluginEvent.loaded).refused answer) answer
              (.publish .loaded) = (host, .stop true) := if_neg hpaused
          rw [settle_eq hturn]
          exact ⟨rfl, rfl⟩
      | unloaded => exact ⟨rfl, rfl⟩
      | paused => exact ⟨rfl, rfl⟩
      | resumed => exact ⟨rfl, rfl⟩
      | allLoaded => exact ⟨rfl, rfl⟩
    | deactivate service => exact absurd (start_ahead hformed (by simp)) hunload
    | load => exact absurd (start_ahead hformed (by simp)) hunload
    | unload => exact absurd (start_ahead hformed (by simp)) hunload
    | preparePause => exact absurd (start_ahead hformed (by simp)) hunload
    | prepareUnload => exact absurd (start_ahead hformed (by simp)) hunload
    | release service => exact absurd (start_ahead hformed (by simp)) hunload

/-! ## Only an unload takes a record away -/

def handles (host : Host) : List KeelPluginHandle :=
  host.plugins.map (·.handle)

theorem Stays.of_handles (hhandles : after.handles = host.handles) : Stays host after := by
  intro other hnone
  cases hold : host.pluginByHandle other with
  | none => rfl
  | some plugin =>
    have hmem : other ∈ after.handles := by
      rw [hhandles, ← pluginByHandle_handle hold]
      exact List.mem_map_of_mem (mem_of_pluginByHandle hold)
    obtain ⟨now, hnow, hhandle⟩ := List.mem_map.1 hmem
    have hnot := List.find?_eq_none.1 hnone now hnow
    simp [hhandle] at hnot

/-- What a plugin said of itself, and whether its image is open. -/
structure SameImage (old now : PluginRecord) : Prop where
  manifest : SameManifest old now
  library : now.library = old.library

/-- Something that is read off what a plugin said of itself. -/
def OfManifest {Trait : Type} (trait : PluginRecord → Trait) : Prop :=
  ∀ old now, SameManifest old now → trait now = trait old

/-- Something that is read off that and the image. -/
def OfImage {Trait : Type} (trait : PluginRecord → Trait) : Prop :=
  ∀ old now, SameImage old now → trait now = trait old

/-- It, of all the records. -/
def traits {Trait : Type} (trait : PluginRecord → Trait) (host : Host) : List Trait :=
  host.plugins.map trait

section Traits

variable {Trait : Type} {trait : PluginRecord → Trait}

theorem OfManifest.ofImage (htrait : OfManifest trait) : OfImage trait :=
  fun old now hsame => htrait old now hsame.manifest

section

variable (htrait : OfImage trait)

include htrait

theorem traits_modify {write : PluginRecord → PluginRecord}
    (hwrite : ∀ plugin, SameImage plugin (write plugin)) :
    (host.modify handle write).traits trait = host.traits trait := by
  unfold traits modify
  rw [List.map_map]
  refine List.map_congr_left fun plugin _ => ?_
  by_cases hsame : plugin.handle = handle
  · simp [hsame, htrait plugin _ (hwrite plugin)]
  · simp [hsame]

theorem traits_endTransition : (host.endTransition handle).traits trait = host.traits trait :=
  traits_modify htrait fun _ => ⟨⟨rfl, rfl, rfl, rfl, rfl, rfl⟩, rfl⟩

theorem traits_quarantine {diagnostic : Diagnostic} :
    (host.quarantine handle diagnostic).traits trait = host.traits trait :=
  traits_modify htrait fun _ => ⟨⟨rfl, rfl, rfl, rfl, rfl, rfl⟩, rfl⟩

theorem traits_silence : (host.silence handle).traits trait = host.traits trait :=
  traits_modify htrait fun _ => ⟨⟨rfl, rfl, rfl, rfl, rfl, rfl⟩, rfl⟩

theorem traits_restorePluginDispatch :
    (host.restorePluginDispatch handle).traits trait = host.traits trait := by
  rw [restorePluginDispatch_eq]
  exact traits_modify htrait fun _ => ⟨⟨rfl, rfl, rfl, rfl, rfl, rfl⟩, rfl⟩

theorem traits_settleStart {activate : Bool} :
    (host.settleStart handle activate).traits trait = host.traits trait := by
  unfold settleStart
  cases activate with
  | true =>
    simp only [if_true, traits_restorePluginDispatch htrait]
    exact traits_modify htrait fun _ => ⟨⟨rfl, rfl, rfl, rfl, rfl, rfl⟩, rfl⟩
  | false => exact traits_modify htrait fun _ => ⟨⟨rfl, rfl, rfl, rfl, rfl, rfl⟩, rfl⟩

theorem turn_image {kind : Kind} {failed : Bool} {answer : Answer} {call : Call}
    (hnot : call ≠ .unload) :
    (host.turn kind handle failed answer call).1.traits trait = host.traits trait := by
  have hsource2 : ((((host.modify handle fun plugin =>
      { plugin with acceptingResources := true }).setCommandsOwnedEnabled handle
        true).activate .source2Callbacks handle).endTransition handle).traits trait =
      host.traits trait := by
    rw [traits_endTransition htrait]
    exact traits_modify htrait fun _ => ⟨⟨rfl, rfl, rfl, rfl, rfl, rfl⟩, rfl⟩
  have hcommands : (host.removeCommandsOwnedBy handle).traits trait = host.traits trait := rfl
  have hwritten : ∀ write : PluginRecord → PluginRecord,
      (∀ plugin, SameImage plugin (write plugin)) →
        ((host.removeCommandsOwnedBy handle).modify handle write).traits trait =
          host.traits trait :=
    fun write hwrite => traits_modify htrait hwrite
  cases kind with
  | unload disable wasRunning =>
    cases call with
    | unload => exact absurd rfl hnot
    | deactivate service =>
      cases service <;> simp only [turn, unloadTurn, fail, apply_ite Prod.fst,
        apply_ite (traits trait), hsource2, traits_endTransition htrait,
        traits_restorePluginDispatch htrait, ite_self]
    | release service =>
      cases service <;> simp only [turn, unloadTurn, fail, apply_ite Prod.fst,
        apply_ite (traits trait), hcommands, traits_endTransition htrait,
        traits_restorePluginDispatch htrait, traits_quarantine htrait, ite_self]
    | prepareUnload =>
      simp [turn, unloadTurn, fail, apply_ite Prod.fst, apply_ite (traits trait),
          traits_endTransition htrait, traits_restorePluginDispatch htrait]
    | preparePause => rfl
    | load => rfl
    | publish event => rfl
  | pause =>
    cases call with
    | deactivate service =>
      simp [turn, pauseTurn, fail, apply_ite Prod.fst, apply_ite (traits trait),
          traits_endTransition htrait, traits_restorePluginDispatch htrait]
    | preparePause =>
      simp only [turn, pauseTurn, fail]
      split_ifs
      · exact (traits_endTransition htrait).trans (traits_restorePluginDispatch htrait)
      · exact traits_modify htrait fun _ => ⟨⟨rfl, rfl, rfl, rfl, rfl, rfl⟩, rfl⟩
    | publish event => exact traits_endTransition htrait
    | release service => rfl
    | prepareUnload => rfl
    | load => rfl
    | unload => rfl
  | resume =>
    cases call with
    | publish event => exact traits_endTransition htrait
    | deactivate service => rfl
    | release service => rfl
    | preparePause => rfl
    | prepareUnload => rfl
    | load => rfl
    | unload => rfl
  | start activate =>
    cases call with
    | load =>
      simp only [turn, startTurn]
      split
      · rfl
      · split
        · split
          · refine (traits_settleStart htrait).trans (traits_modify htrait fun _ => ?_)
            exact ⟨⟨rfl, rfl, rfl, rfl, rfl, rfl⟩, rfl⟩
          · refine (traits_silence htrait).trans (traits_modify htrait fun _ => ?_)
            exact ⟨⟨rfl, rfl, rfl, rfl, rfl, rfl⟩, rfl⟩
        · refine (traits_silence htrait).trans (traits_modify htrait fun _ => ?_)
          exact ⟨⟨rfl, rfl, rfl, rfl, rfl, rfl⟩, rfl⟩
    | release service =>
      cases service with
      | keelhook =>
        simp only [turn, startTurn]
        split_ifs
        · refine (traits_quarantine htrait).trans (hwritten _ fun _ => ?_)
          exact ⟨⟨rfl, rfl, rfl, rfl, rfl, rfl⟩, rfl⟩
        · exact hwritten _ fun _ => ⟨⟨rfl, rfl, rfl, rfl, rfl, rfl⟩, rfl⟩
      | factories => rfl
      | source2Callbacks => rfl
      | lifecycle => rfl
      | convars => rfl
      | pluginService => rfl
      | publishedServices => rfl
      | schemaEntities => rfl
    | preparePause =>
      simp only [turn, startTurn]
      split_ifs
      · exact traits_settleStart htrait
      · exact traits_modify htrait fun _ => ⟨⟨rfl, rfl, rfl, rfl, rfl, rfl⟩, rfl⟩
    | prepareUnload =>
      simp only [turn, startTurn]
      split_ifs
      · exact traits_silence htrait
      · exact traits_quarantine htrait
    | unload => exact absurd rfl hnot
    | deactivate service => rfl
    | publish event =>
      cases event with
      | loaded =>
        simp only [turn, startTurn]
        split_ifs <;> rfl
      | unloaded => rfl
      | paused => rfl
      | resumed => rfl
      | allLoaded => rfl

end

/-- A turn leaves what the plugins said of themselves; only the last one of an unload takes a
record away. -/
theorem turn_traits (htrait : OfManifest trait) {kind : Kind} {failed : Bool} {answer : Answer}
    {call : Call}
    (hnot : ∀ disable wasRunning, kind = .unload disable wasRunning → call ≠ .unload) :
    (host.turn kind handle failed answer call).1.traits trait = host.traits trait := by
  by_cases hcall : call = .unload
  · subst hcall
    cases kind with
    | unload disable wasRunning => exact absurd rfl (hnot disable wasRunning rfl)
    | pause => rfl
    | resume => rfl
    | start activate =>
      unfold traits
      show (host.modify handle _).plugins.map trait = host.plugins.map trait
      unfold modify
      rw [List.map_map]
      refine List.map_congr_left fun plugin _ => htrait plugin _ ?_
      by_cases hsame : plugin.handle = handle
      · simp only [if_pos hsame]
        exact ⟨rfl, rfl, rfl, rfl, rfl, rfl⟩
      · simp only [if_neg hsame]
        exact ⟨rfl, rfl, rfl, rfl, rfl, rfl⟩
  · exact turn_image htrait.ofImage hcall

end Traits

theorem turn_handles {kind : Kind} {failed : Bool} {answer : Answer} {call : Call}
    (hnot : ∀ disable wasRunning, kind = .unload disable wasRunning → call ≠ .unload) :
    (host.turn kind handle failed answer call).1.handles = host.handles :=
  turn_traits (fun _ _ hmanifest => hmanifest.handle) hnot

theorem settle_stays {kind : Kind} {failed : Bool} {answer : Answer} {call : Call}
    {rest : List Call}
    (hnot : ∀ disable wasRunning, kind = .unload disable wasRunning → call ≠ .unload) :
    Stays host (host.settle kind handle failed answer call rest).1 :=
  .of_handles (turn_handles hnot)

/-! ## The answer to a query -/

theorem describe_same (host : Host) (query : Query) (plugin : PluginRecord) :
    (host.describe handle query plugin).handle = plugin.handle ∧
      (host.describe handle query plugin).cleanupPending = plugin.cleanupPending ∧
      (host.describe handle query plugin).acceptingResources = plugin.acceptingResources ∧
      (host.describe handle query plugin).state ≠ .loaded := by
  unfold describe
  split
  · exact ⟨rfl, rfl, rfl, by simp [closePluginImage]⟩
  · simp only
    split
    · exact ⟨rfl, rfl, rfl, by simp [closePluginImage]⟩
    · split
      · exact ⟨rfl, rfl, rfl, by simp [closePluginImage]⟩
      · exact ⟨rfl, rfl, rfl, by simp⟩

theorem finishDiscover_change (query : Query)
    (hok : ∀ plugin, host.pluginByHandle handle = some plugin →
      Hold.Ok host plugin .discovery) :
    Change host (host.finishDiscover handle query) handle false ∧
      NotLoading host (host.finishDiscover handle query) handle := by
  have hhandle : ∀ plugin, (host.describe handle query plugin).handle = plugin.handle :=
    fun plugin => (describe_same host query plugin).1
  refine ⟨.of_modify rfl hhandle ⟨rfl, rfl⟩ (fun old hold => ?_) (fun _ _ hon => hon)
    fun _ _ _ hon => hon, .of_modify rfl hhandle fun plugin hloaded => ?_⟩
  · obtain ⟨hstate, hhidden, hpending⟩ := hok old hold
    obtain ⟨_, hsame, haccepting, _⟩ := @describe_same handle host query old
    refine ⟨.described hstate hhidden hpending query ?_, .inl hsame,
      fun _ hon => haccepting.symm.trans hon⟩
    rw [pluginByHandle_handle hold]
  · exact absurd hloaded (describe_same host query plugin).2.2.2

/-! ## One step of the machine, seen from the host -/

/-- One change of a record after another. -/
def Evolves (host after : Host) (slip : Prop) : Prop :=
  ∃ middle first restores second restores', Change host middle first restores ∧
    Change middle after second restores' ∧
    (¬slip → Careful host middle first restores ∧ Careful middle after second restores')

theorem Careful.refl (host : Host) (handle : KeelPluginHandle) :
    Careful host host handle false :=
  .of_quiet (.refl host handle)

theorem Evolves.of_still (hstill : Still host after) : Evolves host after slip := by
  obtain ⟨handle, restores, hchange, hcareful⟩ := hstill.change
  exact ⟨after, handle, restores, 0, false, hchange, .refl after 0,
    fun _ => ⟨hcareful, .refl after 0⟩⟩

theorem Evolves.refl (host : Host) : Evolves host host slip :=
  .of_still (.refl host)

theorem Clearing.careful {gone : KeelPluginHandle} (hclearing : Clearing host middle gone) :
    Careful host middle gone false := by
  refine .of_quiet fun old now hold hnow hloaded => ?_
  rw [hclearing.vanished now hnow] at hold
  cases hold
  exact hloaded

theorem Opens.evolves {next : Next} (hopens : Opens host owned slip next) :
    Evolves host next.host slip := by
  obtain ⟨middle, gone, hclearing, hopening⟩ := hopens
  obtain ⟨handle, restores, hchange, hcareful, _, _⟩ := hopening.change
  exact ⟨middle, gone, false, handle, restores, hclearing.change, hchange,
    fun hno => ⟨hclearing.careful, hcareful hno⟩⟩

/-! ## What the machine keeps -/

structure Safe (host : Host) (tasks : Nat → Task) : Prop where
  numbered : Numbered host
  clean : LoadingClean host
  formed : ∀ thread, Formed (tasks thread).leaf
  held : ∀ thread hold handle, (tasks thread).leaf.hold = some (hold, handle) →
    host.Allotted handle ∧
      ∀ plugin, host.pluginByHandle handle = some plugin → hold.Ok host plugin
  apart : ∀ first second, first ≠ second → ∀ hold hold' handle,
    (tasks first).leaf.hold = some (hold, handle) →
      (tasks second).leaf.hold ≠ some (hold', handle)
  allotted : ∀ thread, ∀ handle ∈ (tasks thread).owned, host.Allotted handle
  disjoint : ∀ first second, first ≠ second → ∀ handle ∈ (tasks first).owned,
    handle ∉ (tasks second).owned

variable {tasks tasks' : Nat → Task} {thread : Nat} {task : Task} {kind : Kind} {failed : Bool}
variable {answer : Answer} {call : Call} {rest : List Call}

theorem Safe.of_still (hsafe : Safe host tasks) (hstill : Still host after)
    (htasks : ∀ thread, (tasks' thread).leaf = (tasks thread).leaf ∧
      (tasks' thread).callers = (tasks thread).callers) : Safe after tasks' := by
  have howned : ∀ thread, (tasks' thread).owned = (tasks thread).owned := by
    intro thread
    unfold Task.owned
    rw [(htasks thread).1, (htasks thread).2]
  obtain ⟨_, _, hchange, _⟩ := hstill.change
  refine ⟨hchange.numbered hsafe.numbered, hchange.clean hsafe.numbered hsafe.clean,
    fun thread => ?_, fun thread hold handle hleaf => ?_, fun first second hne hold hold' handle
    hleaf => ?_, fun thread handle hmem => ?_, fun first second hne handle hmem => ?_⟩
  · rw [(htasks thread).1]
    exact hsafe.formed thread
  · rw [(htasks thread).1] at hleaf
    obtain ⟨hallotted, hok⟩ := hsafe.held thread hold handle hleaf
    exact ⟨hstill.allotted hallotted, hstill.ok hok⟩
  · rw [(htasks first).1] at hleaf
    rw [(htasks second).1]
    exact hsafe.apart first second hne hold hold' handle hleaf
  · rw [howned] at hmem
    exact hstill.allotted (hsafe.allotted thread handle hmem)
  · rw [howned] at hmem ⊢
    exact hsafe.disjoint first second hne handle hmem

theorem Safe.replace (hsafe : Safe host tasks) (hnumbered : Numbered after)
    (hclean : LoadingClean after)
    (hallotted : ∀ handle, host.Allotted handle → after.Allotted handle)
    (hothers : ∀ other, other ≠ thread → ∀ hold handle,
      (tasks other).leaf.hold = some (hold, handle) →
        ∀ plugin, after.pluginByHandle handle = some plugin → hold.Ok after plugin)
    (hformed : Formed task.leaf)
    (hheld : ∀ hold handle, task.leaf.hold = some (hold, handle) → after.Allotted handle ∧
      (∀ plugin, after.pluginByHandle handle = some plugin → hold.Ok after plugin) ∧
      ∀ other, other ≠ thread → ∀ hold', (tasks other).leaf.hold ≠ some (hold', handle))
    (howned : ∀ handle ∈ task.owned, handle ∈ (tasks thread).owned ∨
      ¬host.Allotted handle ∧ after.Allotted handle) :
    Safe after (update tasks thread task) where
  numbered := hnumbered
  clean := hclean
  formed other := by
    by_cases hother : other = thread
    · rw [hother, update_self]
      exact hformed
    · rw [update_of_ne hother]
      exact hsafe.formed other
  held other hold handle hleaf := by
    by_cases hother : other = thread
    · rw [hother, update_self] at hleaf
      exact ⟨(hheld hold handle hleaf).1, (hheld hold handle hleaf).2.1⟩
    · rw [update_of_ne hother] at hleaf
      exact ⟨hallotted handle (hsafe.held other hold handle hleaf).1,
        hothers other hother hold handle hleaf⟩
  apart first second hne hold hold' handle hleaf := by
    by_cases hfirst : first = thread
    · have hsecond : second ≠ thread := fun hsame => hne (hfirst.trans hsame.symm)
      rw [hfirst, update_self] at hleaf
      rw [update_of_ne hsecond]
      exact (hheld hold handle hleaf).2.2 second hsecond hold'
    · rw [update_of_ne hfirst] at hleaf
      by_cases hsecond : second = thread
      · rw [hsecond, update_self]
        intro hleaf'
        exact (hheld hold' handle hleaf').2.2 first hfirst hold hleaf
      · rw [update_of_ne hsecond]
        exact hsafe.apart first second hne hold hold' handle hleaf
  allotted other handle hmem := by
    by_cases hother : other = thread
    · rw [hother, update_self] at hmem
      rcases howned handle hmem with hold | ⟨_, hnew⟩
      · exact hallotted handle (hsafe.allotted thread handle hold)
      · exact hnew
    · rw [update_of_ne hother] at hmem
      exact hallotted handle (hsafe.allotted other handle hmem)
  disjoint first second hne handle hmem := by
    by_cases hfirst : first = thread
    · have hsecond : second ≠ thread := fun hsame => hne (hfirst.trans hsame.symm)
      rw [hfirst, update_self] at hmem
      rw [update_of_ne hsecond]
      intro hmem'
      rcases howned handle hmem with hold | ⟨hfresh, _⟩
      · exact hsafe.disjoint thread second (Ne.symm hsecond) handle hold hmem'
      · exact hfresh (hsafe.allotted second handle hmem')
    · rw [update_of_ne hfirst] at hmem
      by_cases hsecond : second = thread
      · rw [hsecond, update_self]
        intro hmem'
        rcases howned handle hmem' with hold | ⟨hfresh, _⟩
        · exact hsafe.disjoint first thread hfirst handle hmem hold
        · exact hfresh (hsafe.allotted first handle hmem)
      · rw [update_of_ne hsecond]
        exact hsafe.disjoint first second hne handle hmem

/-- What is found by one is held by no other. -/
theorem owned_of_hold {leaf : Leaf} (hleaf : leaf.hold = some (hold, handle))
    (hstopping : hold ≠ .stopping) (hresuming : hold ≠ .resuming) : handle ∈ leaf.owned := by
  cases leaf with
  | returned result => cases hleaf
  | discover other =>
    cases hleaf
    exact List.mem_singleton_self _
  | allLoaded => cases hleaf
  | script kind other calls failed =>
    cases kind with
    | unload disable wasRunning =>
      simp only [Leaf.hold] at hleaf
      split_ifs at hleaf
      cases hleaf
      exact absurd rfl hstopping
    | pause =>
      cases hleaf
      exact absurd rfl hstopping
    | resume =>
      cases hleaf
      exact absurd rfl hresuming
    | start activate =>
      obtain ⟨rfl, _⟩ := start_hold hleaf
      exact List.mem_singleton_self _

theorem hold_handle {calls : List Call}
    (hleaf : (Leaf.script kind handle calls failed).hold = some (hold, other)) :
    other = handle := by
  cases kind with
  | unload disable wasRunning =>
    simp only [Leaf.hold] at hleaf
    split_ifs at hleaf
    cases hleaf
    rfl
  | pause =>
    cases hleaf
    rfl
  | resume =>
    cases hleaf
    rfl
  | start activate => exact (start_hold hleaf).1

theorem Safe.opens (hsafe : Safe host tasks) {next : Next} (hopens : Opens host owned slip next)
    (hleaf : task.leaf = next.leaf) (howned : ∀ other ∈ owned, other ∈ (tasks thread).owned)
    (hcallers : ∀ other ∈ task.callers.flatMap Caller.owned, other ∈ next.callers.flatMap
      Caller.owned ∨ other ∈ (tasks thread).owned) :
    Safe next.host (update tasks thread task) := by
  obtain ⟨middle, gone, hclearing, hopening⟩ := hopens
  obtain ⟨handle, restores, hchange, _, hfree, hheld⟩ := hopening.change
  have hmiddle : ∀ other hold handle, (tasks other).leaf.hold = some (hold, handle) →
      middle.Allotted handle ∧
        ∀ plugin, middle.pluginByHandle handle = some plugin → hold.Ok middle plugin := by
    intro other hold handle hother
    obtain ⟨hallotted, hok⟩ := hsafe.held other hold handle hother
    exact ⟨hclearing.change.allotted handle hallotted, hclearing.ok hok⟩
  have hnumbered := hclearing.change.numbered hsafe.numbered
  -- what the step takes for itself no other has
  have halone : Free middle owned handle → ∀ other, other ≠ thread → ∀ hold,
      (tasks other).leaf.hold ≠ some (hold, handle) := by
    intro hfree other hother hold hleaf
    obtain ⟨hallotted, hok⟩ := hmiddle other hold handle hleaf
    refine hfree.not_held hallotted hok fun hstopping hresuming hmem => ?_
    refine hsafe.disjoint other thread hother handle ?_ (howned handle hmem)
    exact List.mem_append_left _ (owned_of_hold hleaf hstopping hresuming)
  refine hsafe.replace (hchange.numbered hnumbered)
    (hchange.clean hnumbered (hclearing.change.clean hsafe.numbered hsafe.clean))
    (fun other hallotted => hchange.allotted other (hclearing.change.allotted other hallotted))
    (fun other hother hold held hleaf => ?_) (hleaf ▸ hopening.formed)
    (fun hold other hnew => ?_) fun other hmem => ?_
  · obtain ⟨_, hok⟩ := hmiddle other hold held hleaf
    rcases hfree with hfree | ⟨hplugins, rfl⟩
    · by_cases hsame : held = handle
      · exact absurd (hsame ▸ hleaf) (halone hfree other hother hold)
      · exact hchange.ok_other hsame hok
    · exact hchange.ok_same hplugins hok
  · rw [hleaf] at hnew
    obtain ⟨rfl, hfree, hallotted, hok⟩ := hheld hold other hnew
    exact ⟨hallotted, hok, fun thread' hne hold' => halone hfree thread' hne hold'⟩
  · have hnext : other ∈ next.owned ∨ other ∈ (tasks thread).owned := by
      rw [Task.owned, List.mem_append, hleaf] at hmem
      rcases hmem with hmem | hmem
      · exact .inl (List.mem_append_left _ hmem)
      · exact (hcallers other hmem).imp (List.mem_append_right _) id
    rcases hnext with hnext | hmine
    · rcases hopening.owned other hnext with hmem | ⟨hfresh, hallotted⟩
      · exact .inl (howned other hmem)
      · refine .inr ⟨fun hold => hfresh (hclearing.change.allotted other hold), hallotted⟩
    · exact .inl hmine

theorem Safe.settle (hsafe : Safe host tasks)
    (hleaf : (tasks thread).leaf = .script kind handle (call :: rest) failed)
    (hnew : task.leaf = (host.settle kind handle failed answer call rest).2)
    (hcallers : task.callers = (tasks thread).callers) :
    Safe (host.settle kind handle failed answer call rest).1
      (update tasks thread task) := by
  have hformed := hsafe.formed thread
  rw [hleaf] at hformed
  have hsection : Section host kind handle (host.slips kind handle answer call)
      (host.settle kind handle failed answer call rest) :=
    settle_section hformed fun hold other hhold =>
      (hsafe.held thread hold other (by rw [hleaf]; exact hhold)).2
  obtain ⟨restores, hchange, _⟩ := hsection.change
  refine hsafe.replace (hchange.numbered hsafe.numbered)
    (hchange.clean hsafe.numbered hsafe.clean) hchange.allotted
    (fun other hother hold held hheld => ?_) (hnew ▸ hsection.formed)
    (fun hold other hhold => ?_) fun other hmem => ?_
  · have hok := (hsafe.held other hold held hheld).2
    cases hmine : (Leaf.script kind handle (call :: rest) failed).hold with
    | none =>
      rw [(settle_idle hformed hmine).1]
      exact hok
    | some mine =>
      obtain ⟨held', other'⟩ := mine
      have hsame := hold_handle hmine
      refine hchange.ok_other (fun hbad => ?_) hok
      refine hsafe.apart other thread hother hold held' held hheld ?_
      rw [hleaf, hmine, hsame, hbad]
  · rw [hnew] at hhold
    obtain ⟨rfl, hok⟩ := hsection.holds hold other hhold
    cases hmine : (Leaf.script kind other (call :: rest) failed).hold with
    | none =>
      rw [(settle_idle hformed hmine).2] at hhold
      cases hhold
    | some mine =>
      obtain ⟨held', other'⟩ := mine
      obtain rfl := hold_handle hmine
      have hheld : (tasks thread).leaf.hold = some (held', other') := hleaf ▸ hmine
      refine ⟨hchange.allotted _ (hsafe.held thread held' other' hheld).1, hok,
        fun other hother hold' => ?_⟩
      exact hsafe.apart thread other (Ne.symm hother) held' hold' other' hheld
  · left
    rw [Task.owned, List.mem_append, hcallers, hnew] at hmem
    rw [Task.owned, List.mem_append, hleaf]
    rcases hmem with hmem | hmem
    · obtain ⟨rfl, activate, rfl⟩ := hsection.owned other hmem
      exact .inl (List.mem_singleton_self _)
    · exact .inr hmem

theorem slips_called
    (hslip : (host.called handle call answer).slips kind handle answer call = true) :
    host.slips kind handle answer call = true := by
  have hmodified : ∀ after : Host, ∀ write : PluginRecord → PluginRecord,
      after.plugins = (host.modify handle write).plugins →
      (∀ plugin, (write plugin).handle = plugin.handle ∧
        (write plugin).cleanupPending = plugin.cleanupPending) →
      ∀ now, after.pluginByHandle handle = some now →
        ∃ old, host.pluginByHandle handle = some old ∧
          now.cleanupPending = old.cleanupPending := by
    intro after write hplugins hwrite now hnow
    rw [pluginByHandle_congr hplugins, pluginByHandle_modify fun plugin => (hwrite plugin).1,
      if_pos rfl] at hnow
    obtain ⟨old, hold, rfl⟩ := Option.map_eq_some_iff.1 hnow
    exact ⟨old, hold, (hwrite old).2⟩
  have hplugins : ∀ service, call = .deactivate service ∨ call = .release service →
      (host.called handle call answer).plugins = host.plugins := by
    intro service hcall
    rcases hcall with rfl | rfl
    · simp only [called]
      split_ifs <;> rfl
    · simp only [called]
      split_ifs <;> rfl
  cases call with
  | load => exact hslip
  | publish event => exact hslip
  | deactivate service =>
    unfold slips at hslip ⊢
    rw [pluginByHandle_congr (hplugins service (.inl rfl))] at hslip
    rcases kind with _ | _ | _ | (_ | _) <;> exact hslip
  | release service =>
    unfold slips at hslip ⊢
    rw [pluginByHandle_congr (hplugins service (.inr rfl))] at hslip
    rcases kind with _ | _ | _ | (_ | _) <;> cases service <;> exact hslip
  | preparePause =>
    unfold slips at hslip ⊢
    obtain ⟨now, hnow, hcase⟩ := (Option.any_eq_true _ _).1 hslip
    obtain ⟨old, hold, hpending⟩ := hmodified (host.called handle .preparePause answer)
      (fun plugin => { plugin with preparePauseActive := false, cleanupCallbackActive := false })
      rfl (fun _ => ⟨rfl, rfl⟩) now hnow
    rw [hold, Option.any_some]
    rcases kind with _ | _ | _ | (_ | _) <;> simp only at hcase ⊢
    all_goals first
      | cases hcase
      | exact hpending ▸ hcase
  | prepareUnload =>
    unfold slips at hslip ⊢
    obtain ⟨now, hnow, hcase⟩ := (Option.any_eq_true _ _).1 hslip
    obtain ⟨old, hold, hpending⟩ := hmodified (host.called handle .prepareUnload answer)
      (fun plugin => { plugin with prepareUnloadActive := false, cleanupCallbackActive := false })
      rfl (fun _ => ⟨rfl, rfl⟩) now hnow
    rw [hold, Option.any_some]
    rcases kind with _ | _ | _ | (_ | _) <;> simp only at hcase ⊢
    all_goals first
      | cases hcase
      | exact hpending ▸ hcase
  | unload =>
    unfold slips at hslip
    obtain ⟨now, _, hcase⟩ := (Option.any_eq_true _ _).1 hslip
    rcases kind with _ | _ | _ | (_ | _) <;> cases hcase

end Host

namespace Machine

/-- The step makes a plugin in quarantine active again, or lets one run that counts on such a
plugin. -/
def slips (machine : Machine) : Action → Bool
  | .invoke thread _ origin command _ =>
    machine.holder.isNone && (machine.tasks thread).waits &&
      command.admitted machine.host.bulkPluginOperation origin && machine.host.commandSlips command
  | .work _ =>
    machine.holder.any fun thread =>
      match (machine.tasks thread).leaf with
      | .script kind handle (call :: _) _ =>
        !machine.host.makes (machine.tasks thread).gameThread handle call &&
          machine.host.slips kind handle (machine.host.skipped handle call) call
      | _ => false
  | .regain thread =>
    machine.holder.isNone &&
      match (machine.tasks thread).status, (machine.tasks thread).leaf with
      | .answered answer, .script kind handle (call :: _) _ =>
        machine.host.slips kind handle answer call
      | _, _ => false
  | _ => false

/-- The step is the last one of an unload of the plugin: it is unloaded, and has gone. -/
def unloads (machine : Machine) (handle : KeelPluginHandle) : Action → Bool
  | .work _ => machine.holder.any fun thread => (machine.tasks thread).leaf.unloads handle
  | .regain thread =>
    machine.holder.isNone &&
      match (machine.tasks thread).status with
      | .answered _ => (machine.tasks thread).leaf.unloads handle
      | _ => false
  | _ => false

/-- What a step of the machine does. -/
structure Step (machine after : Machine) (slip : Prop) (unloads : KeelPluginHandle → Prop) :
    Prop where
  safe : Host.Safe after.host after.tasks
  evolves : Host.Evolves machine.host after.host slip
  /-- Nothing in quarantine is taken away but by an unload. -/
  stays : ∀ handle, ¬unloads handle → ∀ old, machine.host.pluginByHandle handle = some old →
    old.cleanupPending = true → (after.host.pluginByHandle handle).isSome = true

variable {machine : Machine} {thread : Nat} {slip : Prop} {unloads : KeelPluginHandle → Prop}

variable {holder : Option Nat} {task : Task} {host : Host}

theorem isSome_of_stays {after : Host} {handle : KeelPluginHandle} {old : PluginRecord}
    (hstays : host.Stays after) (hold : host.pluginByHandle handle = some old) :
    (after.pluginByHandle handle).isSome = true := by
  cases hafter : after.pluginByHandle handle with
  | some now => rfl
  | none =>
    rw [hstays handle hafter] at hold
    cases hold

theorem Step.of_still {tasks : Nat → Task} (hsafe : Host.Safe machine.host machine.tasks)
    (hstill : Host.Still machine.host host) (hstays : machine.host.Stays host)
    (htasks : ∀ thread, (tasks thread).leaf = (machine.tasks thread).leaf ∧ (tasks thread).callers =
      (machine.tasks thread).callers) :
    Step machine ⟨host, holder, tasks⟩ slip unloads where
  safe := hsafe.of_still hstill htasks
  evolves := .of_still hstill
  stays _ _ _ hold _ := isSome_of_stays hstays hold

theorem Step.refl (hsafe : Host.Safe machine.host machine.tasks) :
    Step machine machine slip unloads where
  safe := hsafe
  evolves := .refl machine.host
  stays _ _ _ hold _ := by rw [hold]; rfl

theorem same_stack {tasks : Nat → Task}
    (htask : task.leaf = (tasks thread).leaf ∧ task.callers = (tasks thread).callers) :
    ∀ other, (update tasks thread task other).leaf = (tasks other).leaf ∧
      (update tasks thread task other).callers = (tasks other).callers := by
  intro other
  by_cases hother : other = thread
  · rw [hother, update_self]
    exact htask
  · rw [update_of_ne hother]
    exact ⟨rfl, rfl⟩

section

variable (hsafe : Host.Safe machine.host machine.tasks)

include hsafe

theorem Step.of_opens {next : Next} {owned : List KeelPluginHandle}
    (hopens : machine.host.Opens owned slip next) (hleaf : task.leaf = next.leaf)
    (howned : ∀ other ∈ owned, other ∈ (machine.tasks thread).owned)
    (hcallers : ∀ other ∈ task.callers.flatMap Caller.owned, other ∈ next.callers.flatMap
      Caller.owned ∨ other ∈ (machine.tasks thread).owned) :
    Step machine ⟨next.host, holder, update machine.tasks thread task⟩ slip unloads where
  safe := hsafe.opens hopens hleaf howned hcallers
  evolves := hopens.evolves
  stays handle _ old hold hpending := by
    obtain ⟨middle, gone, hclearing, hopening⟩ := hopens
    cases hmiddle : middle.pluginByHandle handle with
    | some now => exact isSome_of_stays hopening.stays hmiddle
    | none =>
      by_cases hsame : handle = gone
      · rw [hsame] at hold hmiddle
        rw [hclearing.clean old hold hmiddle] at hpending
        cases hpending
      · rw [hclearing.change.others handle hsame, hold] at hmiddle
        cases hmiddle

theorem Step.of_same (hhold : task.leaf.hold = none) (hformed : Host.Formed task.leaf)
    (howned : ∀ other ∈ task.owned, other ∈ (machine.tasks thread).owned) :
    Step machine ⟨machine.host, holder, update machine.tasks thread task⟩
      slip unloads where
  safe := by
    refine hsafe.replace hsafe.numbered hsafe.clean (fun _ hallotted => hallotted)
      (fun other _ hold handle hleaf => (hsafe.held other hold handle hleaf).2) hformed
      (fun hold handle hleaf => ?_) fun other hmem => .inl (howned other hmem)
    rw [hhold] at hleaf
    cases hleaf
  evolves := .refl machine.host
  stays _ _ _ hold _ := by rw [hold]; rfl

/-- A command has its turn: what is written before it, with the answer, no hold reads. -/
theorem Step.of_settle {kind : Kind} {handle : KeelPluginHandle} {failed : Bool} {answer : Answer}
    {call : Call} {rest : List Call} (hstill : Host.Still machine.host host)
    (hstays : machine.host.Stays host)
    (hleaf : (machine.tasks thread).leaf = .script kind handle (call :: rest) failed)
    (hnew : task.leaf = (host.settle kind handle failed answer call rest).2)
    (hcallers : task.callers = (machine.tasks thread).callers)
    (hslip : host.slips kind handle answer call = true → slip)
    (hunloads : ∀ disable wasRunning, kind = .unload disable wasRunning → call = .unload → unloads
      handle) :
    Step machine ⟨(host.settle kind handle failed answer call rest).1, holder,
      update machine.tasks thread task⟩ slip unloads := by
  have hmiddle : Host.Safe host machine.tasks := hsafe.of_still hstill fun _ => ⟨rfl, rfl⟩
  have hafter := hmiddle.settle hleaf hnew hcallers
  have hformed := hmiddle.formed thread
  rw [hleaf] at hformed
  have hsection : Host.Section host kind handle (host.slips kind handle answer call)
      (host.settle kind handle failed answer call rest) :=
    Host.settle_section hformed fun hold other hhold =>
      (hmiddle.held thread hold other (by rw [hleaf]; exact hhold)).2
  obtain ⟨restores, hchange, hcareful⟩ := hsection.change
  obtain ⟨first, restored, hfirst, hquiet⟩ := hstill.change
  refine ⟨hafter, ⟨host, first, restored, handle, restores, hfirst, hchange,
    fun hno => ⟨hquiet, hcareful fun hbad => hno (hslip hbad)⟩⟩, fun other hnot old hold _ => ?_⟩
  have hheld := isSome_of_stays hstays hold
  obtain ⟨middle, hmid⟩ := Option.isSome_iff_exists.1 hheld
  by_cases hsame : other = handle
  · have hkept : host.Stays (host.settle kind handle failed answer call rest).1 :=
      Host.settle_stays fun disable wasRunning hkind hcall =>
        hnot (hsame ▸ hunloads disable wasRunning hkind hcall)
    exact isSome_of_stays hkept hmid
  · show (Host.pluginByHandle _ other).isSome = true
    rw [hchange.others other hsame, hmid]
    rfl

end

theorem calling_stays (host : Host) (handle : KeelPluginHandle) (call : Call) :
    host.Stays (host.calling handle call) := by
  cases call with
  | preparePause => exact .of_modify rfl fun _ => rfl
  | prepareUnload => exact .of_modify rfl fun _ => rfl
  | unload => exact .of_modify rfl fun _ => rfl
  | deactivate service => exact .of_same rfl
  | release service => exact .of_same rfl
  | load => exact .of_same rfl
  | publish event => exact .of_same rfl

theorem called_stays (host : Host) (handle : KeelPluginHandle) (call : Call) (answer : Answer) :
    host.Stays (host.called handle call answer) := by
  cases call with
  | preparePause => exact .of_modify rfl fun _ => rfl
  | prepareUnload => exact .of_modify rfl fun _ => rfl
  | unload => exact .of_modify rfl fun _ => rfl
  | deactivate service =>
    refine .of_same ?_
    simp only [Host.called]
    split_ifs <;> rfl
  | release service =>
    refine .of_same ?_
    simp only [Host.called]
    split_ifs <;> rfl
  | load => exact .of_same rfl
  | publish event => exact .of_same rfl

theorem reached_still (host : Host) (handle : KeelPluginHandle) (call : Call) (answer : Answer) :
    Host.Still host (reached host handle call answer) := by
  unfold reached
  split
  · exact .refl host
  · exact Host.called_still host handle call answer

theorem reached_stays (host : Host) (handle : KeelPluginHandle) (call : Call) (answer : Answer) :
    host.Stays (reached host handle call answer) := by
  unfold reached
  split
  · exact .of_same rfl
  · exact called_stays _ _ _ _

theorem answer_still (machine : Machine) (thread : Nat) (answer : Answer) :
    Host.Still machine.host (machine.answer thread answer).host := by
  unfold Machine.answer Machine.setTask
  dsimp only
  split
  · split
    · exact Host.called_still _ _ _ _
    · exact .refl machine.host
  · exact .refl machine.host

theorem answer_stays (machine : Machine) (thread : Nat) (answer : Answer) :
    machine.host.Stays (machine.answer thread answer).host := by
  unfold Machine.answer Machine.setTask
  dsimp only
  split
  · split
    · exact called_stays _ _ _ _
    · exact .of_same rfl
  · exact .of_same rfl

theorem happen_stays (host : Host) (event : Event) : host.Stays (host.happen event) := by
  cases event with
  | connect service =>
    refine .of_same ?_
    simp only [Host.happen]
    split_ifs <;> rfl
  | acquire service handle =>
    refine .of_same ?_
    cases hplugin : host.pluginByHandle handle with
    | none => simp [Host.happen, hplugin]
    | some plugin =>
      simp only [Host.happen, hplugin]
      split_ifs <;> rfl
  | preparePause handle callback =>
    refine .of_modify rfl fun plugin => ?_
    split_ifs <;> rfl
  | prepareUnload handle callback =>
    refine .of_modify rfl fun plugin => ?_
    split_ifs <;> rfl
  | operations handle count => exact .of_modify rfl fun _ => rfl
  | uses commandActive pinned leased => exact .of_same rfl

section

variable (hsafe : Host.Safe machine.host machine.tasks)

include hsafe

theorem step_step (action : Action) :
    Step machine (machine.step action) (machine.slips action = true)
      fun handle => machine.unloads handle action = true := by
  have hdoes := step_does machine action
  generalize machine.step action = after at hdoes
  cases hdoes with
  | idles => exact .refl hsafe
  | happens event =>
    exact .of_still hsafe (Host.happen_still machine.host event) (happen_stays _ _)
      fun _ => ⟨rfl, rfl⟩
  | @begins thread gameThread origin command files hholder hwaits hadmitted =>
    have hnone : ∀ other ∈ ([] : List KeelPluginHandle),
        other ∈ (machine.tasks thread).owned := by simp
    refine .of_opens hsafe (Host.invoke_enters hsafe.numbered command fun hslip => ?_).opens
      rfl hnone fun other hmem => .inl hmem
    simp [slips, hholder, hwaits, hadmitted, hslip]
  | waits | asks =>
    exact .of_still hsafe (.refl machine.host) (.of_same rfl) (same_stack ⟨rfl, rfl⟩)
  | calls =>
    exact .of_still hsafe (Host.calling_still _ _ _) (calling_stays _ _ _)
      (same_stack ⟨rfl, rfl⟩)
  | @skips thread files kind handle call rest failed hholder hleaf hmakes =>
    refine .of_settle hsafe (.refl machine.host) (.of_same rfl) hleaf rfl rfl
      (fun hslip => ?_) fun disable wasRunning hkind hcall => ?_
    · simp [slips, hholder, hleaf, hmakes, hslip]
    · simp [Machine.unloads, hholder, hleaf, hkind, hcall, Leaf.unloads]
  | @returns thread _ holder result hleaf =>
    refine .of_same hsafe rfl trivial fun other hmem => ?_
    rw [Task.owned, List.mem_append] at hmem ⊢
    refine hmem.imp (fun hmem => ?_) id
    rcases hleaf with ⟨kind, handle, failed, hleaf, rfl⟩ | ⟨_, rfl⟩
    · have hsection : Host.Section machine.host kind handle True
          (machine.host, .returned (machine.host.scriptResult kind handle true)) := .stay
      obtain ⟨rfl, activate, rfl⟩ := hsection.owned other hmem
      rw [hleaf]
      exact List.mem_singleton_self _
    · cases hmem
  | ends => exact .of_same hsafe rfl trivial (by simp [Task.idle, Task.owned, Leaf.owned])
  | @resumes thread files result caller callers hholder hleaf hcallers =>
    refine .of_opens hsafe (Host.resume_enters hsafe.numbered hsafe.clean result caller
      fun other (hmem : other ∈ result.record.toList ++ caller.owned) => hmem).opens rfl
      (Task.owned_of_resumed hleaf hcallers) fun other hmem => ?_
    rw [List.flatMap_append, List.mem_append] at hmem
    refine hmem.imp id fun hmem => ?_
    rw [Task.owned, hcallers]
    simp only [List.flatMap_cons, List.mem_append]
    exact .inr (.inr hmem)
  | answers =>
    exact .of_still hsafe (answer_still _ _ _) (answer_stays _ _ _) (same_stack ⟨rfl, rfl⟩)
  | @describes thread query handle hholder hstatus hleaf =>
    have hhold : (machine.tasks thread).leaf.hold = some (.discovery, handle) := by
      rw [hleaf]
      rfl
    obtain ⟨hallotted, hok⟩ := hsafe.held thread .discovery handle hhold
    obtain ⟨hchange, hnot⟩ := Host.finishDiscover_change query hok
    refine ⟨hsafe.replace (hchange.numbered hsafe.numbered)
      (hchange.clean hsafe.numbered hsafe.clean) hchange.allotted
      (fun other hother hold held hheld => ?_) trivial (fun hold other hnone => ?_)
      fun other hmem => ?_, ⟨machine.host, 0, false, handle, false, .refl machine.host 0,
        hchange, fun _ => ⟨.refl machine.host 0, .of_quiet hnot⟩⟩, fun other _ old hold _ => ?_⟩
    · refine hchange.ok_other (fun hbad => ?_) (hsafe.held other hold held hheld).2
      exact hsafe.apart other thread hother hold .discovery held hheld (hbad ▸ hhold)
    · cases hnone
    · left
      rw [Task.owned, hleaf]
      exact hmem
    · exact isSome_of_stays (.of_modify rfl fun plugin =>
        (Host.describe_same machine.host query plugin).1) hold
  | @settles thread kind handle call rest failed answer hholder hstatus hleaf =>
    refine .of_settle hsafe (reached_still _ _ _ _) (reached_stays _ _ _ _) hleaf rfl rfl
      (fun hslip => ?_) fun disable wasRunning hkind hcall => ?_
    · have hslips : machine.host.slips kind handle answer call = true := by
        unfold reached at hslip
        split at hslip
        · exact hslip
        · exact Host.slips_called hslip
      simp [slips, hholder, hstatus, hleaf, hslips]
    · simp [Machine.unloads, hholder, hstatus, hleaf, hkind, hcall, Leaf.unloads]

end

theorem initial_safe : Host.Safe Machine.initial.host Machine.initial.tasks where
  numbered := ⟨List.nodup_nil, by simp [initial, Host.initial], by decide,
    by simp [initial, Host.initial]⟩
  clean := by simp [Host.LoadingClean, initial, Host.initial]
  formed _ := trivial
  held _ _ _ hleaf := by cases hleaf
  apart _ _ _ _ _ _ hleaf := by cases hleaf
  allotted _ _ hmem := by simp [initial, Task.idle, Task.owned, Leaf.owned] at hmem
  disjoint _ _ _ _ hmem := by simp [initial, Task.idle, Task.owned, Leaf.owned] at hmem

end Machine
end KeelS2.Plugins
