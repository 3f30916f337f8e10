import KeelS2.Plugins.Quarantine
import Mathlib.Data.List.TakeWhile

/-!
# What a name stands for

A plugin goes by the name it gives itself once it is `selectable`. Three functions look a plugin
up by its name: `dependencyTarget` takes the first one, `duplicate` the first other one, and
`PluginService::Find` the only one. They agree where no two plugins go by one name.
-/

namespace KeelS2.Plugins

/-! ## Names that are valid -/

def isControl (character : Char) : Bool :=
  character.toNat < 32 || character.toNat == 127

def isSpace (character : Char) : Bool :=
  character == ' ' || (9 ≤ character.toNat && character.toNat ≤ 13)

/-- `ValidMetadataText`; it looks at no character past the maximum and the one behind it. -/
def validMetadataText (text : Option Text) (maximum : Nat) (allowEmpty : Bool) : Bool :=
  match text with
  | none => allowEmpty
  | some characters =>
    let seen := (characters.takeWhile (· ≠ '\x00')).take (maximum + 1)
    if seen.any isControl then false
    else match seen.head?, seen.getLast? with
      | some first, some last => seen.length ≤ maximum && !isSpace first && !isSpace last
      | _, _ => allowEmpty

def validPluginName (name : Option Text) : Bool :=
  validMetadataText name 127 false &&
    !((name.getD []).takeWhile (· ≠ '\x00')).all Char.isDigit

namespace Host

/-! ## PluginService::Find -/

/-- The loop of `Find`: a second match ends it. -/
def findMatch (name : Text) : List PluginRecord → Option PluginRecord →
    KeelResult × Option PluginRecord
  | [], found => (if found.isSome then .ok else .notFound, found)
  | candidate :: rest, found =>
    if candidate.selectable && !candidate.name.isEmpty &&
        equalInsensitive candidate.name name then
      match found with
      | some _ => (.ambiguous, none)
      | none => findMatch name rest (some candidate)
    else findMatch name rest found

/-- `PluginService::Find`, with the record its snapshot is filled from. -/
def find (host : Host) (acceptingResources : Bool) (plugin : KeelPluginHandle)
    (name : Option Text) (snapshotSized : Bool) : KeelResult × Option PluginRecord :=
  if !validPluginName name || !snapshotSized then (.invalidArgument, none)
  else match host.pluginByHandle plugin with
    | none => (.notReady, none)
    | some owner =>
      if !acceptingResources || !owner.acceptingResources then (.notReady, none)
      else findMatch ((name.getD []).takeWhile (· ≠ '\x00')) host.plugins none

/-! ## One plugin a name -/

/-- No two plugins go by one name. -/
def Unambiguous (host : Host) : Prop :=
  ∀ first ∈ host.plugins, ∀ second ∈ host.plugins,
    first.selectable = true → second.selectable = true →
      equalInsensitive first.name second.name = true → first.handle = second.handle

/-- Whoever asks for the name gets this plugin: a dependency, `Find`, and the check for
duplicates; and when it has gone, the name is free again. -/
structure StandsFor (host : Host) (name : Text) (plugin : PluginRecord) : Prop where
  only : ∀ other ∈ host.plugins, other.selectable = true →
    equalInsensitive other.name name = true → other = plugin
  dependency : dependencyTarget host.plugins name = some plugin
  found : ∀ asker owner, host.pluginByHandle asker = some owner →
    owner.acceptingResources = true → validPluginName (some name) = true →
      '\x00' ∉ name → host.find true asker (some name) true = (.ok, some plugin)
  duplicate : ∀ handle, host.duplicate handle name =
    if plugin.handle = handle then none else some plugin
  reload : ∀ handle, (host.removePluginRecord plugin.handle).duplicate handle name = none

variable {host middle after : Host} {handle : KeelPluginHandle} {plugin : PluginRecord}
variable {name : Text}

theorem Unambiguous.only (hunambiguous : Unambiguous host) (hnumbered : Numbered host)
    (hmem : plugin ∈ host.plugins) (hselectable : plugin.selectable = true)
    (hname : equalInsensitive plugin.name name = true) :
    ∀ other ∈ host.plugins, other.selectable = true →
      equalInsensitive other.name name = true → other = plugin := by
  intro other hother hselectable' hname'
  have hsame : other.handle = plugin.handle :=
    hunambiguous other hother plugin hmem hselectable' hselectable
      (equalInsensitive_trans hname' (equalInsensitive_symm hname))
  have hfound := hnumbered.find_mem hother
  rw [hsame, hnumbered.find_mem hmem] at hfound
  exact (Option.some.inj hfound).symm

/-- A search for what only one record satisfies finds that record. -/
theorem find_only {plugins : List PluginRecord} {sought : PluginRecord → Bool}
    (hmem : plugin ∈ plugins) (hsought : sought plugin = true)
    (honly : ∀ other ∈ plugins, sought other = true → other = plugin) :
    plugins.find? sought = some plugin := by
  induction plugins with
  | nil => cases hmem
  | cons first plugins ih =>
    rw [List.find?_cons]
    cases hfirst : sought first with
    | true => rw [honly first List.mem_cons_self hfirst]
    | false =>
      rcases List.mem_cons.1 hmem with rfl | hlater
      · rw [hsought] at hfirst
        cases hfirst
      · exact ih hlater fun other hother => honly other (List.mem_cons_of_mem _ hother)

theorem findMatch_only {plugins : List PluginRecord} {found : Option PluginRecord}
    (hunique : (plugins.map (·.handle)).Nodup) (hnonempty : name ≠ [])
    (honly : ∀ other ∈ plugins, other.selectable = true →
      equalInsensitive other.name name = true → other = plugin)
    (hselectable : plugin.selectable = true) (hname : equalInsensitive plugin.name name = true)
    (hmet : (found = none ∧ plugin ∈ plugins) ∨ (found = some plugin ∧ plugin ∉ plugins)) :
    findMatch name plugins found = (.ok, some plugin) := by
  induction plugins generalizing found with
  | nil =>
    rcases hmet with ⟨_, hmem⟩ | ⟨rfl, _⟩
    · cases hmem
    · rfl
  | cons first plugins ih =>
    rw [List.map_cons, List.nodup_cons] at hunique
    have hlater : ∀ other ∈ plugins, other.selectable = true →
        equalInsensitive other.name name = true → other = plugin :=
      fun other hother => honly other (List.mem_cons_of_mem _ hother)
    unfold findMatch
    split
    · next hmatch =>
      rw [Bool.and_eq_true, Bool.and_eq_true] at hmatch
      have hfirst := honly first List.mem_cons_self hmatch.1.1 hmatch.2
      subst hfirst
      have hgone : first ∉ plugins := fun hmem => hunique.1 (List.mem_map_of_mem hmem)
      rcases hmet with ⟨rfl, _⟩ | ⟨_, hnot⟩
      · exact ih hunique.2 hlater (.inr ⟨rfl, hgone⟩)
      · exact absurd List.mem_cons_self hnot
    · next hmatch =>
      refine ih hunique.2 hlater (hmet.imp (fun hnone => ⟨hnone.1, ?_⟩) fun hsome =>
        ⟨hsome.1, fun hmem => hsome.2 (List.mem_cons_of_mem _ hmem)⟩)
      rcases List.mem_cons.1 hnone.2 with rfl | hmem
      · -- a name that is asked for is not empty, and equal names are of one length
        have hlength := congrArg List.length (equalInsensitive_iff.1 hname)
        rw [List.length_map, List.length_map] at hlength
        have hempty : plugin.name ≠ [] := by
          intro hempty
          rw [hempty, List.length_nil] at hlength
          exact hnonempty (List.eq_nil_of_length_eq_zero hlength.symm)
        simp [hselectable, hname, hempty] at hmatch
      · exact hmem

theorem nonempty_of_validPluginName (hvalid : validPluginName (some name) = true) :
    name ≠ [] := by
  rintro rfl
  cases hvalid

theorem Unambiguous.standsFor (hunambiguous : Unambiguous host) (hnumbered : Numbered host)
    (hmem : plugin ∈ host.plugins) (hselectable : plugin.selectable = true)
    (hname : equalInsensitive plugin.name name = true) : StandsFor host name plugin where
  only := hunambiguous.only hnumbered hmem hselectable hname
  dependency := by
    refine find_only hmem (by simp [hselectable, hname]) fun other hother hmatch => ?_
    rw [Bool.and_eq_true] at hmatch
    exact hunambiguous.only hnumbered hmem hselectable hname other hother hmatch.1 hmatch.2
  found asker owner howner haccepting hvalid hzero := by
    have hcut : name.takeWhile (· ≠ '\x00') = name := by
      rw [List.takeWhile_eq_self_iff]
      intro character hcharacter
      simpa using fun hbad : character = '\x00' => hzero (hbad ▸ hcharacter)
    simp only [find, hvalid, howner, haccepting, Option.getD_some, hcut, Bool.not_true,
      Bool.or_false, Bool.false_eq_true, if_false]
    refine findMatch_only hnumbered.unique (nonempty_of_validPluginName hvalid)
      (hunambiguous.only hnumbered hmem hselectable hname) hselectable hname (.inl ⟨rfl, hmem⟩)
  duplicate handle := by
    split
    · next hsame =>
      refine List.find?_eq_none.2 fun other hother hmatch => ?_
      simp only [Bool.and_eq_true, decide_eq_true_eq] at hmatch
      have hbad := hunambiguous.only hnumbered hmem hselectable hname other hother hmatch.1.2
        hmatch.2
      exact hmatch.1.1 (hbad ▸ hsame)
    · next hne =>
      refine find_only hmem (by simp [hselectable, hname, hne]) fun other hother hmatch => ?_
      simp only [Bool.and_eq_true, decide_eq_true_eq] at hmatch
      exact hunambiguous.only hnumbered hmem hselectable hname other hother hmatch.1.2 hmatch.2
  reload handle := by
    refine List.find?_eq_none.2 fun other hother hmatch => ?_
    obtain ⟨hother, hne⟩ := List.mem_filter.1 hother
    simp only [Bool.and_eq_true, decide_eq_true_eq] at hmatch
    have hbad := hunambiguous.only hnumbered hmem hselectable hname other hother hmatch.1.2
      hmatch.2
    simp [hbad] at hne

/-! ## Steps -/

/-- Nobody comes to go by a name. -/
def NoNewName (host after : Host) : Prop :=
  ∀ now ∈ after.plugins, now.selectable = true → ∃ old ∈ host.plugins,
    old.selectable = true ∧ old.handle = now.handle ∧ old.name = now.name

theorem NoNewName.trans (hfirst : NoNewName host middle) (hsecond : NoNewName middle after) :
    NoNewName host after := by
  intro now hmem hselectable
  obtain ⟨between, hbetween, hselectable', hhandle, hname⟩ := hsecond now hmem hselectable
  obtain ⟨old, hold, hselectable'', hhandle', hname'⟩ := hfirst between hbetween hselectable'
  exact ⟨old, hold, hselectable'', hhandle'.trans hhandle, hname'.trans hname⟩

theorem NoNewName.of_subset (hsubset : ∀ plugin ∈ after.plugins, plugin ∈ host.plugins) :
    NoNewName host after :=
  fun now hmem hselectable => ⟨now, hsubset now hmem, hselectable, rfl, rfl⟩

theorem NoNewName.unambiguous (hnone : NoNewName host after) (hunambiguous : Unambiguous host) :
    Unambiguous after := by
  intro first hfirst second hsecond hselectable hselectable' hname
  obtain ⟨old, hold, hwas, hhandle, hsame⟩ := hnone first hfirst hselectable
  obtain ⟨old', hold', hwas', hhandle', hsame'⟩ := hnone second hsecond hselectable'
  rw [← hsame, ← hsame'] at hname
  rw [← hhandle, ← hhandle']
  exact hunambiguous old hold old' hold' hwas hwas' hname

theorem NoNewName.of_traits
    (htraits : ∀ {Trait : Type} (trait : PluginRecord → Trait), OfManifest trait →
      after.traits trait = host.traits trait) : NoNewName host after := by
  intro now hmem hselectable
  let named (plugin : PluginRecord) := (plugin.selectable, plugin.handle, plugin.name)
  have hnamed : OfManifest named := by
    intro old now hmanifest
    simp only [named, hmanifest.selectable, hmanifest.handle, hmanifest.name]
  have hin : named now ∈ host.traits named := by
    rw [← htraits named hnamed]
    exact List.mem_map_of_mem hmem
  obtain ⟨old, hold, hsame⟩ := List.mem_map.1 hin
  simp only [named, Prod.mk.injEq] at hsame
  exact ⟨old, hold, hsame.1.trans hselectable, hsame.2.1, hsame.2.2⟩

theorem manifest_of_shift {old now : PluginRecord} (hshift : Shift host old now)
    (hnot : old.selectable = true ∨ old.state ≠ .error) : SameManifest old now := by
  cases hshift with
  | kept hmanifest _ _ => exact hmanifest
  | described herror hhidden _ _ _ =>
    rcases hnot with hselectable | hstate
    · exact absurd (hhidden.symm.trans hselectable) (by decide)
    · exact absurd herror hstate
  | failed hmanifest _ _ => exact hmanifest
  | settled hmanifest _ _ _ => exact hmanifest
  | begun hmanifest _ _ _ => exact hmanifest
  | resumed hmanifest _ _ _ => exact hmanifest
  | paused hmanifest _ _ _ => exact hmanifest
  | ended hmanifest _ _ _ => exact hmanifest

theorem Change.noNewName {restores : Bool} (hchange : Change host after handle restores)
    (hnumbered : Numbered host)
    (hnot : ∀ old now, host.pluginByHandle handle = some old →
      after.pluginByHandle handle = some now → now.selectable = true →
        old.selectable = true ∨ old.state ≠ .error) : NoNewName host after := by
  intro now hmem hselectable
  have hnow := (hchange.numbered hnumbered).find_mem hmem
  by_cases hsame : now.handle = handle
  · rw [hsame] at hnow
    obtain ⟨old, hold, hmove⟩ := hchange.was hnow hselectable
    have hmanifest := manifest_of_shift hmove.shift (hnot old now hold hnow hselectable)
    exact ⟨old, mem_of_pluginByHandle hold, hmanifest.selectable.symm.trans hselectable,
      hmanifest.handle.symm, hmanifest.name.symm⟩
  · rw [hchange.others _ hsame] at hnow
    exact ⟨now, mem_of_pluginByHandle hnow, hselectable, rfl, rfl⟩

theorem Still.noNewName (hstill : Still host after) (hnumbered : Numbered host) :
    NoNewName host after := by
  obtain ⟨changed, restores, hchange, _⟩ := hstill.change
  refine hchange.noNewName hnumbered fun old now hold hnow hselectable => .inl ?_
  obtain ⟨was, hwas, _, hsame, _⟩ := hstill.same changed now hnow
  rw [hold] at hwas
  cases hwas
  exact hsame.symm.trans hselectable

theorem Opens.noNewName {owned : List KeelPluginHandle} {slip : Prop} {next : Next}
    (hopens : Opens host owned slip next) (hnumbered : Numbered host) :
    NoNewName host next.host := by
  obtain ⟨middle, gone, hclearing, hopening⟩ := hopens
  obtain ⟨changed, restores, hchange, _, hfree, _⟩ := hopening.change
  have hmiddle := hclearing.change.numbered hnumbered
  have hcleared : NoNewName host middle := by
    refine .of_subset fun plugin hmem => ?_
    have hfound := hmiddle.find_mem hmem
    by_cases hsame : plugin.handle = gone
    · rw [hsame] at hfound
      exact mem_of_pluginByHandle (hclearing.vanished plugin hfound)
    · rw [hclearing.change.others _ hsame] at hfound
      exact mem_of_pluginByHandle hfound
  refine hcleared.trans ?_
  rcases hfree with hfree | ⟨hplugins, _⟩
  · refine hchange.noNewName hmiddle fun old now hold _ _ => .inr ?_
    rcases hfree with hfresh | ⟨plugin, hplugin, hstate⟩
    · have hallotted := hmiddle.allotted old (mem_of_pluginByHandle hold)
      rw [pluginByHandle_handle hold] at hallotted
      exact absurd hallotted hfresh
    · rw [hold] at hplugin
      cases hplugin
      rcases hstate with ⟨_, hstate⟩ | ⟨hstate | hstate, _⟩ <;> simp [hstate]
  · exact .of_subset fun plugin hmem => hplugins ▸ hmem

theorem settle_noNewName {kind : Kind} {failed : Bool} {answer : Answer} {call : Call}
    (rest : List Call) :
    NoNewName host (host.settle kind handle failed answer call rest).1 := by
  by_cases hunload : ∀ disable wasRunning, kind = .unload disable wasRunning → call ≠ .unload
  · exact .of_traits fun _ htrait => turn_traits htrait hunload
  · push Not at hunload
    obtain ⟨disable, wasRunning, rfl, rfl⟩ := hunload
    refine .of_subset fun plugin hmem => ?_
    have hplugins : (host.settle (.unload disable wasRunning) handle failed answer .unload
        rest).1.plugins = (host.removePluginRecord handle).plugins :=
      finishUnload_plugins host handle disable
    rw [hplugins] at hmem
    exact List.mem_of_mem_filter hmem

/-- The plugin that is described takes a name that another goes by. -/
def clashes (host : Host) (handle : KeelPluginHandle) (query : Query) : Bool :=
  query.succeeded && query.manifestSucceeded && query.compatible &&
    (query.dependencies.any fun dependency => equalInsensitive dependency.name query.name) &&
      (host.duplicate handle query.name).isSome

theorem describe_free {query : Query} {old other : PluginRecord}
    (hhidden : old.selectable = false)
    (hselectable : (host.describe handle query old).selectable = true)
    (hclash : host.clashes handle query = false) (hmem : other ∈ host.plugins)
    (hne : other.handle ≠ handle) (hother : other.selectable = true) :
    equalInsensitive other.name (host.describe handle query old).name = false := by
  by_cases hstate : (host.describe handle query old).state = .error
  · unfold describe at hselectable hstate ⊢
    by_cases hbad : (!query.succeeded || !query.manifestSucceeded || !query.compatible) = true
    · rw [if_pos hbad] at hselectable
      exact absurd (hhidden.symm.trans hselectable) (by decide)
    · rw [if_neg hbad] at hselectable hstate ⊢
      simp only at hselectable hstate ⊢
      by_cases hself : (query.dependencies.any fun dependency =>
          equalInsensitive dependency.name query.name) = true
      · rw [if_pos hself]
        have hfree : host.duplicate handle query.name = none := by
          simp only [Bool.or_eq_true, Bool.not_eq_true', not_or, Bool.not_eq_false] at hbad
          simpa [clashes, hbad.1.1, hbad.1.2, hbad.2, hself] using hclash
        have hnone := List.find?_eq_none.1 hfree other hmem
        simpa [closePluginImage, hne, hother] using hnone
      · rw [if_neg hself] at hselectable hstate
        cases hduplicate : host.duplicate handle query.name with
        | some double =>
          simp only [hduplicate] at hselectable
          exact absurd (hhidden.symm.trans hselectable) (by decide)
        | none =>
          simp only [hduplicate] at hstate
          cases hstate
  · exact describe_named hhidden hselectable hstate hmem hne hother

theorem finishDiscover_unambiguous {query : Query} (hunambiguous : Unambiguous host)
    (hnumbered : Numbered host)
    (hok : ∀ plugin, host.pluginByHandle handle = some plugin → Hold.Ok host plugin .discovery)
    (hclash : host.clashes handle query = false) :
    Unambiguous (host.finishDiscover handle query) := by
  obtain ⟨hchange, _⟩ := finishDiscover_change query hok
  have hafter := hchange.numbered hnumbered
  have hcase : ∀ plugin ∈ (host.finishDiscover handle query).plugins,
      plugin.handle ≠ handle ∧ plugin ∈ host.plugins ∨ ∃ old,
        host.pluginByHandle handle = some old ∧ old.selectable = false ∧
          plugin = host.describe handle query old := by
    intro plugin hmem
    by_cases hsame : plugin.handle = handle
    · right
      have hnow := hafter.find_mem hmem
      unfold finishDiscover at hnow
      rw [hsame, pluginByHandle_modify fun plugin => (describe_same host query plugin).1,
        if_pos rfl] at hnow
      obtain ⟨old, hold, rfl⟩ := Option.map_eq_some_iff.1 hnow
      exact ⟨old, hold, (hok old hold).2.1, rfl⟩
    · have hnow := hafter.find_mem hmem
      rw [hchange.others _ hsame] at hnow
      exact .inl ⟨hsame, mem_of_pluginByHandle hnow⟩
  have hhandle : ∀ old, host.pluginByHandle handle = some old →
      (host.describe handle query old).handle = handle := by
    intro old hold
    exact ((describe_same host query old).1).trans (pluginByHandle_handle hold)
  intro first hfirst second hsecond hselectable hselectable' hname
  rcases hcase first hfirst with ⟨hne, hmem⟩ | ⟨old, hold, hhidden, rfl⟩
  · rcases hcase second hsecond with ⟨_, hmem'⟩ | ⟨old, hold, hhidden, rfl⟩
    · exact hunambiguous first hmem second hmem' hselectable hselectable' hname
    · have hfree := describe_free hhidden hselectable' hclash hmem hne hselectable
      exact absurd (hfree.symm.trans hname) (by decide)
  · rcases hcase second hsecond with ⟨hne, hmem⟩ | ⟨old', hold', _, rfl⟩
    · have hfree := describe_free hhidden hselectable hclash hmem hne hselectable'
      rw [equalInsensitive_symm hname] at hfree
      cases hfree
    · rw [hhandle old hold, hhandle old' hold']

end Host

namespace Machine

open Lib (run Heeds)

variable {machine : Machine}

/-- The step describes a plugin that depends on itself, under a name that another goes by. -/
def clashes (machine : Machine) : Action → Bool
  | .regain thread =>
    machine.holder.isNone &&
      match (machine.tasks thread).status, (machine.tasks thread).leaf with
      | .asked query, .discover handle => machine.host.clashes handle query
      | _, _ => false
  | _ => false

theorem step_unambiguous (hsafe : Host.Safe machine.host machine.tasks)
    (hunambiguous : Host.Unambiguous machine.host) {action : Action}
    (hclash : machine.clashes action = false) :
    Host.Unambiguous (machine.step action).host := by
  have hdoes := step_does machine action
  generalize machine.step action = after at hdoes
  have hnumbered := hsafe.numbered
  cases hdoes with
  | idles => exact hunambiguous
  | happens event =>
    exact ((Host.happen_still machine.host event).noNewName hnumbered).unambiguous hunambiguous
  | @begins thread gameThread origin command files hholder hwaits hadmitted =>
    have hopens : Host.Opens machine.host [] True (machine.host.invoke files command) :=
      (Host.invoke_enters hnumbered command fun _ => trivial).opens
    exact (hopens.noNewName hnumbered).unambiguous hunambiguous
  | waits => exact hunambiguous
  | calls hholder hleaf hmakes =>
    exact ((Host.calling_still machine.host _ _).noNewName hnumbered).unambiguous hunambiguous
  | @skips thread files kind handle call rest failed hholder hleaf hmakes =>
    exact (Host.settle_noNewName rest).unambiguous hunambiguous
  | returns => exact hunambiguous
  | ends => exact hunambiguous
  | @resumes thread files result caller callers hholder hleaf hcallers =>
    have hopens : Host.Opens machine.host (result.record.toList ++ caller.owned) True
        (machine.host.resume files result caller) :=
      (Host.resume_enters hnumbered hsafe.clean result caller fun _ hmem => hmem).opens
    exact (hopens.noNewName hnumbered).unambiguous hunambiguous
  | answers hstatus hleaf =>
    exact ((answer_still machine _ _).noNewName hnumbered).unambiguous hunambiguous
  | asks => exact hunambiguous
  | describes hholder hstatus hleaf =>
    refine Host.finishDiscover_unambiguous hunambiguous hnumbered ?_ ?_
    · exact (hsafe.held _ .discovery _ (by rw [hleaf]; rfl)).2
    · simpa [clashes, hholder, hstatus, hleaf] using hclash
  | @settles thread kind handle call rest failed answer hholder hstatus hleaf =>
    exact (((reached_still machine.host _ _ _).noNewName hnumbered).trans
      (Host.settle_noNewName rest)).unambiguous hunambiguous

/-- A plugin that goes by a name in a state that is reached is what the name stands for there, if
no plugin that depends on itself was described under a name that another went by. -/
theorem names_stand_for_one (actions : List Action)
    (hheeds : Heeds step (fun machine action => machine.clashes action = false) initial actions)
    (plugin : PluginRecord) (hmem : plugin ∈ (run step initial actions).host.plugins)
    (hselectable : plugin.selectable = true) (name : Text)
    (hname : equalInsensitive plugin.name name = true) :
    Host.StandsFor (run step initial actions).host name plugin := by
  have hinvariant := Lib.Heeds.invariant
    (fun machine action (hinv : Host.Safe machine.host machine.tasks ∧
        Host.Unambiguous machine.host) hclash =>
      ⟨(step_step hinv.1 action).safe, step_unambiguous hinv.1 hinv.2 hclash⟩)
    ⟨initial_safe, by simp [Host.Unambiguous, initial, Host.initial]⟩ hheeds
  exact hinvariant.2.standsFor hinvariant.1.numbered hmem hselectable hname

/-- Two plugins are loaded, the second under a name of its own: each name stands for one. -/
theorem names_stand_for_one_two :
    Host.StandsFor (run step initial loadsTwo).host ['A']
      (((run step initial loadsTwo).host.pluginByHandle 1).getD (.new 0 [])) :=
  names_stand_for_one loadsTwo (by decide) _ (by decide) (by decide) ['A'] (by decide)

/-- A second file with the name of the first, that depends on itself. -/
def loadsSelfDependent : List Action :=
  loads ['a', '.', 's', 'o'] ⟨true, true, true, ['a'], ['1', '.', '0', '.', '0'], []⟩
      ⟨.ok, false, true, false⟩ ++
    loads ['b', '.', 's', 'o']
      ⟨true, true, true, ['a'], ['1', '.', '0', '.', '0'], [⟨['a'], ['1', '.', '0', '.', '0'], 1⟩]⟩
      ⟨.ok, false, true, false⟩

/-- The rejected file goes by the name of the plugin that runs: `Find` calls it ambiguous, and a
reload of it would find its name taken. -/
theorem self_dependent_takes_name :
    ¬∀ (actions : List Action) (plugin : PluginRecord) (name : Text),
      plugin ∈ (run step initial actions).host.plugins → plugin.selectable = true →
        equalInsensitive plugin.name name = true →
          Host.StandsFor (run step initial actions).host name plugin := by
  intro hall
  have hstands := hall loadsSelfDependent
    (((run step initial loadsSelfDependent).host.pluginByHandle 1).getD (.new 0 [])) ['a']
    (by decide) (by decide) (by decide)
  have hfree := hstands.reload 3
  have htaken : (((run step initial loadsSelfDependent).host.removePluginRecord 1).duplicate 3
    ['a']).isSome = true := by decide
  have hhandle : (((run step initial loadsSelfDependent).host.pluginByHandle 1).getD
    (.new 0 [])).handle = 1 := by decide
  rw [hhandle] at hfree
  rw [hfree] at htaken
  cases htaken

end Machine
end KeelS2.Plugins
