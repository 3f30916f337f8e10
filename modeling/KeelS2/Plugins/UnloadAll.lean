import KeelS2.Plugins.ClosedImages
import KeelS2.Plugins.Exits
import KeelS2.Plugins.LoadOrder

/-!
# Unloading all plugins

`UnloadAllPluginsCommand` goes through the load order, the last first, again and again until a pass
has unloaded nothing. Others have the lock while it waits for a plugin or a service. What it does
is written down as it goes (`Watched`), so that its end can be compared with its last pass.
-/

namespace KeelS2.Plugins

open Lib (run)
open Function (update update_self)

/-! ## What is written down -/

/-- The turns of the pass that is under way, with the host at each, and the plugins whose attempt
has returned success; both the latest first. -/
structure Journal where
  turns : List (KeelPluginHandle × Host)
  succeeded : List KeelPluginHandle

def Journal.empty : Journal := ⟨[], []⟩

/-- A turn of the loops: the result is that of the attempt before it, and false without one. -/
def Journal.turn (journal : Journal) (host : Host) (result : Result)
    (rest attempted : List KeelPluginHandle) (progress : Bool) : Journal :=
  let succeeded :=
    if result.ok then attempted.getLast?.toList ++ journal.succeeded else journal.succeeded
  match rest with
  | [] => if progress || result.ok then ⟨[], succeeded⟩ else ⟨journal.turns, succeeded⟩
  | handle :: _ => ⟨(handle, host) :: journal.turns, succeeded⟩

/-- The machine, and a journal for each thread. -/
structure Watched where
  machine : Machine
  journals : Nat → Journal

def Watched.initial : Watched := ⟨.initial, fun _ => .empty⟩

/-- What the step of a thread that has the lock writes down. -/
def Watched.noted (watched : Watched) (thread : Nat) : Journal :=
  match (watched.machine.tasks thread).leaf, (watched.machine.tasks thread).callers with
  | .returned result, .unloadAll _ rest attempted progress :: _ =>
    (watched.journals thread).turn watched.machine.host result rest attempted progress
  | _, _ => watched.journals thread

/-- A thread that is free begins a new journal with a command. -/
def Watched.step (watched : Watched) (action : Action) : Watched where
  machine := watched.machine.step action
  journals :=
    match action with
    | .invoke thread _ _ _ _ =>
      if (watched.machine.tasks thread).waits then
        update watched.journals thread .empty
      else watched.journals
    | .work _ =>
      match watched.machine.holder with
      | none => watched.journals
      | some thread => update watched.journals thread (watched.noted thread)
    | _ => watched.journals

namespace Host

/-- Nothing is to be unloaded at the plugin's turn: it is gone or closed, it does not run, or it is
held. -/
def Skipped (host : Host) (handle : KeelPluginHandle) : Prop :=
  ∀ plugin, host.pluginByHandle handle = some plugin → plugin.library = true →
    (plugin.state ≠ .loaded ∧ plugin.state ≠ .paused) ∨ host.hasRunningDependent plugin true = true

/-- What a plugin is like whose unload is attempted. -/
structure Attempts (host : Host) (attempted : List KeelPluginHandle) (handle : KeelPluginHandle) :
    Prop where
  fresh : handle ∉ attempted
  running : ∃ plugin, host.pluginByHandle handle = some plugin ∧ plugin.library = true ∧
    (plugin.state = .loaded ∨ plugin.state = .paused) ∧
    host.hasRunningDependent plugin true = false

inductive UnloadTurn (host : Host) (order attempted : List KeelPluginHandle) (progress : Bool)
    (result : Result) : List KeelPluginHandle → Next → Prop
  | again (hprogress : (progress || result.ok) = true) :
    UnloadTurn host order attempted progress result []
      ⟨host, .returned ⟨false, none⟩, [.unloadAll order order attempted false]⟩
  | ends (hprogress : (progress || result.ok) = false) :
    UnloadTurn host order attempted progress result [] (host.gives true none)
  | skips {handle : KeelPluginHandle} {rest : List KeelPluginHandle}
      (hskipped : handle ∈ attempted ∨ host.Skipped handle) :
    UnloadTurn host order attempted progress result (handle :: rest)
      ⟨host, .returned ⟨false, none⟩, [.unloadAll order rest attempted (progress || result.ok)]⟩
  | attempts {handle : KeelPluginHandle} {rest : List KeelPluginHandle}
      (hattempts : host.Attempts attempted handle) :
    UnloadTurn host order attempted progress result (handle :: rest)
      ((host.startUnload handle true).under
        (.unloadAll order rest (attempted ++ [handle]) (progress || result.ok)))

theorem resumeUnloadAll_turn (host : Host) (order attempted : List KeelPluginHandle)
    (progress : Bool) (result : Result) (rest : List KeelPluginHandle) :
    UnloadTurn host order attempted progress result rest
      (host.resumeUnloadAll order attempted progress result rest) := by
  cases rest with
  | nil =>
    simp only [resumeUnloadAll]
    split
    · next hprogress => exact .again hprogress
    · next hprogress => exact .ends (Bool.eq_false_iff.2 hprogress)
  | cons handle rest =>
    simp only [resumeUnloadAll]
    cases hplugin : host.pluginByHandle handle with
    | none =>
      refine .skips (Or.inr fun plugin hfound => ?_)
      rw [hplugin] at hfound
      cases hfound
    | some plugin =>
      dsimp only
      split
      · next hskip =>
        refine .skips ?_
        by_cases hattempted : handle ∈ attempted
        · exact Or.inl hattempted
        · refine Or.inr fun found hfound hopen => ?_
          rw [hplugin] at hfound
          cases hfound
          simpa [hattempted, hopen, ← Bool.not_eq_true] using hskip
      · next hskip =>
        refine .attempts ?_
        simp only [Bool.or_eq_true, Bool.not_eq_true', Bool.and_eq_true, ne_eq,
          List.contains_eq_mem, decide_eq_true_eq, not_or, not_and, not_not,
          Bool.not_eq_false, Bool.not_eq_true] at hskip
        obtain ⟨⟨⟨hopen, hstate⟩, hfresh⟩, hdependent⟩ := hskip
        refine ⟨hfresh, plugin, hplugin, hopen, ?_, hdependent⟩
        by_cases hloaded : plugin.state = .loaded
        · exact Or.inl hloaded
        · exact Or.inr (hstate hloaded)

theorem startUnload_shape (host : Host) (handle : KeelPluginHandle) (disable : Bool) :
    (host.startUnload handle disable).callers = [] ∧
      ((host.startUnload handle disable).leaf = .returned ⟨false, none⟩ ∨
        ∃ wasRunning, (host.startUnload handle disable).leaf =
          .script (.unload disable wasRunning) handle (unloadCalls wasRunning) false) := by
  unfold startUnload
  split
  · exact ⟨rfl, Or.inl rfl⟩
  · exact ⟨rfl, Or.inr ⟨_, rfl⟩⟩

theorem UnloadTurn.callers {host : Host} {order attempted rest : List KeelPluginHandle}
    {progress : Bool} {result : Result} {next : Next}
    (hturn : UnloadTurn host order attempted progress result rest next) :
    next.callers = [] ∨ ∃ rest' attempted' progress',
      next.callers = [.unloadAll order rest' attempted' progress'] := by
  cases hturn with
  | again => exact Or.inr ⟨_, _, _, rfl⟩
  | ends => exact Or.inl rfl
  | skips => exact Or.inr ⟨_, _, _, rfl⟩
  | @attempts handle rest =>
    refine Or.inr ⟨rest, attempted ++ [handle], progress || result.ok, ?_⟩
    change (host.startUnload handle true).callers ++ [_] = [_]
    rw [(startUnload_shape host handle true).1]
    rfl

theorem settle_unload_leaf (host : Host) (disable wasRunning : Bool) (handle : KeelPluginHandle)
    (failed : Bool) (answer : Answer) (call : Call) (rest : List Call) :
    (∃ ok, (host.settle (.unload disable wasRunning) handle failed answer call rest).2 =
        .returned ⟨ok, none⟩ ∧ (ok = true → ∃ event, call = .publish event)) ∨
      ((∃ failed', (host.settle (.unload disable wasRunning) handle failed answer call rest).2 =
          .script (.unload disable wasRunning) handle rest failed') ∧
        (call = .unload →
          (host.settle (.unload disable wasRunning) handle failed answer call rest).1 =
            host.finishUnload handle disable)) := by
  rcases hturn : host.turn (.unload disable wasRunning) handle (failed || call.refused answer)
    answer call with ⟨after, turn⟩
  rw [settle_eq hturn]
  have hstop : ∀ ok, turn = .stop ok → ok = true → ∃ event, call = .publish event := by
    rintro ok rfl rfl
    simp only [turn] at hturn
    cases call with
    | publish event => exact ⟨event, rfl⟩
    | deactivate service =>
      cases service <;> simp only [unloadTurn, fail] at hturn <;> split at hturn <;> cases hturn
    | release service =>
      cases service <;> simp only [unloadTurn, fail] at hturn <;> split at hturn <;>
        first
        | cases hturn
        | (split at hturn <;> cases hturn)
    | preparePause => cases hturn
    | prepareUnload => simp only [unloadTurn, fail] at hturn; split at hturn <;> cases hturn
    | load => cases hturn
    | unload => cases hturn
  cases turn with
  | next =>
    refine Or.inr ⟨⟨_, rfl⟩, ?_⟩
    rintro rfl
    cases hturn
    rfl
  | skipTo target => exact absurd (congrArg Prod.snd hturn) unload_skip
  | stop ok => exact Or.inl ⟨ok, rfl, hstop ok rfl⟩

/-! ## What the command keeps -/

/-- Where the command stands between two turns: nothing is attempted, or the unload of the plugin
that was attempted last is under way; once its image is gone it stays so. -/
def Unloading (host : Host) (attempted : List KeelPluginHandle) (leaf : Leaf) : Prop :=
  (∃ result, leaf = .returned result ∧ (result.ok = true → ∃ handle,
    attempted.getLast? = some handle ∧ host.openImage handle ≠ some true)) ∨
  ∃ wasRunning handle calls failed, leaf = .script (.unload true wasRunning) handle calls failed ∧
    attempted.getLast? = some handle ∧ (.unload ∉ calls → host.openImage handle ≠ some true)

/-- The journal and the locals of the command agree. -/
structure Bulk (host : Host) (journal : Journal) (leaf : Leaf)
    (order rest attempted : List KeelPluginHandle) : Prop where
  allotted : ∀ handle ∈ order, host.Allotted handle
  passed : (journal.turns.map Prod.fst).reverse ++ rest = order
  ordered : ∀ handle ∈ attempted, handle ∈ order
  nodup : attempted.Nodup
  skipped : ∀ turn ∈ journal.turns, turn.1 ∈ attempted ∨ turn.2.Skipped turn.1
  standing : ∀ turn ∈ journal.turns, host.openImage turn.1 = some true →
    turn.2.openImage turn.1 = some true
  closed : ∀ handle ∈ journal.succeeded,
    handle ∈ attempted ∧ host.openImage handle ≠ some true
  unloading : Unloading host attempted leaf

theorem Closing.shut {host after : Host} {handle : KeelPluginHandle}
    (hclosing : Closing host after) (hallotted : host.Allotted handle)
    (hshut : host.openImage handle ≠ some true) : after.openImage handle ≠ some true :=
  fun hopen => hshut (hclosing handle hallotted hopen)

namespace Bulk

variable {host after : Host} {journal : Journal} {leaf : Leaf}
variable {order rest attempted : List KeelPluginHandle} {progress : Bool} {result : Result}

theorem last_allotted (h : Bulk host journal leaf order rest attempted)
    {handle : KeelPluginHandle} (hlast : attempted.getLast? = some handle) :
    host.Allotted handle :=
  h.allotted handle (h.ordered handle (List.mem_of_getLast? hlast))

theorem of_host (h : Bulk host journal leaf order rest attempted)
    (hallotted : ∀ other, host.Allotted other → after.Allotted other)
    (hclosing : Closing host after) : Bulk after journal leaf order rest attempted where
  allotted handle hmem := hallotted handle (h.allotted handle hmem)
  passed := h.passed
  ordered := h.ordered
  nodup := h.nodup
  skipped := h.skipped
  standing turn hturn hopen := by
    have hmem : turn.1 ∈ order := by
      rw [← h.passed]
      exact List.mem_append_left _ (List.mem_reverse.2 (List.mem_map_of_mem hturn))
    exact h.standing turn hturn (hclosing turn.1 (h.allotted _ hmem) hopen)
  closed handle hmem := by
    obtain ⟨hattempted, hshut⟩ := h.closed handle hmem
    exact ⟨hattempted, hclosing.shut (h.allotted handle (h.ordered handle hattempted)) hshut⟩
  unloading := by
    rcases h.unloading with ⟨result, hleaf, hdone⟩ |
      ⟨ran, handle, calls, failed, hleaf, hlast, hdone⟩
    · refine Or.inl ⟨result, hleaf, fun hok => ?_⟩
      obtain ⟨handle, hlast, hshut⟩ := hdone hok
      exact ⟨handle, hlast, hclosing.shut (h.last_allotted hlast) hshut⟩
    · exact Or.inr ⟨ran, handle, calls, failed, hleaf, hlast, fun hnone =>
        hclosing.shut (h.last_allotted hlast) (hdone hnone)⟩

theorem settle {reached : Host} {kind : Kind} {handle : KeelPluginHandle} {call : Call}
    {later : List Call}
    {failed : Bool} {answer : Answer}
    (h : Bulk host journal (.script kind handle (call :: later) failed) order rest attempted)
    (hformed : Formed (.script kind handle (call :: later) failed))
    (hallotted : ∀ other, host.Allotted other →
      (reached.settle kind handle failed answer call later).1.Allotted other)
    (hclosing : Closing host (reached.settle kind handle failed answer call later).1) :
    Bulk (reached.settle kind handle failed answer call later).1 journal
      (reached.settle kind handle failed answer call later).2 order rest attempted := by
  have hafter := h.of_host hallotted hclosing
  refine { hafter with unloading := ?_ }
  rcases h.unloading with ⟨result, hleaf, -⟩ | ⟨ran, other, calls, failed', hleaf, hlast, hdone⟩
  · cases hleaf
  · cases hleaf
    have hshut := fun hnone => hclosing.shut (h.last_allotted hlast) (hdone hnone)
    rcases settle_unload_leaf reached true ran handle failed answer call later with
      ⟨ok, hleaf, hpublish⟩ | ⟨⟨failed', hleaf⟩, hgone⟩
    · refine Or.inl ⟨_, hleaf, fun hok => ⟨handle, hlast, hshut fun hmem => ?_⟩⟩
      -- The event comes last.
      obtain ⟨event, rfl⟩ := hpublish hok
      have hall : ∀ calls ∈ (unloadCalls ran).tails, ∀ call ∈ calls.head?,
          call.publishes = true → .unload ∉ calls := by
        cases ran <;> decide
      exact hall _ ((List.mem_tails _ _).2 hformed) _ rfl rfl hmem
    · refine Or.inr ⟨ran, handle, later, failed', hleaf, hlast, fun hnone => ?_⟩
      by_cases hcall : call = .unload
      · rw [hgone hcall]
        exact finishUnload_gone reached handle true
      · refine hshut fun hmem => ?_
        rcases List.mem_cons.1 hmem with heq | hlater
        · exact hcall heq.symm
        · exact hnone hlater

theorem turn {next : Next} {caller : Caller} {below : List Caller}
    (h : Bulk host journal (.returned result) order rest attempted)
    (hturn : UnloadTurn host order attempted progress result rest next)
    (hallotted : ∀ other, host.Allotted other → next.host.Allotted other)
    (hclosing : Closing host next.host) {order' rest' attempted' : List KeelPluginHandle}
    {progress' : Bool} (hcaller : caller = .unloadAll order' rest' attempted' progress')
    (hcallers : next.callers = caller :: below) :
    below = [] ∧ Bulk next.host (journal.turn host result rest attempted progress) next.leaf
      order' rest' attempted' := by
  have hsucceeded : ∀ handle, handle ∈ (if result.ok then
      attempted.getLast?.toList ++ journal.succeeded else journal.succeeded) →
      handle ∈ attempted ∧ host.openImage handle ≠ some true := by
    intro handle hmem
    split at hmem
    · next hok =>
      rcases List.mem_append.1 hmem with hlast | hmem
      · rcases h.unloading with ⟨other, hleaf, hdone⟩ | ⟨_, _, _, _, hleaf, -⟩
        · cases hleaf
          obtain ⟨last, hlast', hshut⟩ := hdone hok
          rw [hlast'] at hlast
          cases List.mem_singleton.1 hlast
          exact ⟨List.mem_of_getLast? hlast', hshut⟩
        · cases hleaf
      · exact h.closed handle hmem
    · exact h.closed handle hmem
  have hkept : ∀ handle, handle ∈ attempted → host.openImage handle ≠ some true →
      next.host.openImage handle ≠ some true := fun handle hmem hshut =>
    hclosing.shut (h.allotted handle (h.ordered handle hmem)) hshut
  have hreturned : Unloading host attempted (.returned ⟨false, none⟩) :=
    Or.inl ⟨_, rfl, fun hok => by cases hok⟩
  cases hturn with
  | again hprogress =>
    subst hcaller
    cases hcallers
    unfold Journal.turn
    dsimp only
    rw [if_pos hprogress]
    exact ⟨rfl, h.allotted, rfl, h.ordered, h.nodup, (fun _ hmem => by cases hmem),
      (fun _ hmem => by cases hmem), hsucceeded, hreturned⟩
  | ends hprogress => cases hcallers
  | @skips handle rest hskipped =>
    subst hcaller
    cases hcallers
    unfold Journal.turn
    dsimp only
    refine ⟨rfl, h.allotted, ?_, h.ordered, h.nodup, fun turn hmem => ?_, fun turn hmem => ?_,
      hsucceeded, hreturned⟩
    · rw [List.map_cons, List.reverse_cons, List.append_assoc]
      exact h.passed
    · rcases List.mem_cons.1 hmem with rfl | hmem
      · exact hskipped
      · exact h.skipped turn hmem
    · rcases List.mem_cons.1 hmem with rfl | hmem
      · exact id
      · exact h.standing turn hmem
  | @attempts handle rest hattempts =>
    obtain ⟨hnone, hshape⟩ := startUnload_shape host handle true
    subst hcaller
    change (host.startUnload handle true).callers ++ _ = _ at hcallers
    rw [hnone] at hcallers
    cases hcallers
    have hmine : handle ∈ order := by
      rw [← h.passed]
      exact List.mem_append_right _ List.mem_cons_self
    have hlast : (attempted ++ [handle]).getLast? = some handle := List.getLast?_concat ..
    unfold Journal.turn
    dsimp only
    refine ⟨rfl, fun other hmem => hallotted other (h.allotted other hmem), ?_, ?_, ?_,
      fun turn hmem => ?_, fun turn hmem hopen => ?_, fun other hmem => ?_, ?_⟩
    · rw [List.map_cons, List.reverse_cons, List.append_assoc]
      exact h.passed
    · intro other hmem
      rcases List.mem_append.1 hmem with hmem | hmem
      · exact h.ordered other hmem
      · exact List.mem_singleton.1 hmem ▸ hmine
    · refine List.nodup_append.2 ⟨h.nodup, List.nodup_singleton _,
        fun first hfirst second hsecond => ?_⟩
      rintro rfl
      exact hattempts.fresh (List.mem_singleton.1 hsecond ▸ hfirst)
    · rcases List.mem_cons.1 hmem with rfl | hmem
      · exact Or.inl (List.mem_append_right _ List.mem_cons_self)
      · exact (h.skipped turn hmem).imp_left (List.mem_append_left _)
    · rcases List.mem_cons.1 hmem with rfl | hmem
      · exact hclosing handle (h.allotted handle hmine) hopen
      · have hturn : turn.1 ∈ order := by
          rw [← h.passed]
          exact List.mem_append_left _ (List.mem_reverse.2 (List.mem_map_of_mem hmem))
        exact h.standing turn hmem (hclosing turn.1 (h.allotted _ hturn) hopen)
    · obtain ⟨hattempted, hshut⟩ := hsucceeded other hmem
      exact ⟨List.mem_append_left _ hattempted, hkept other hattempted hshut⟩
    · rcases hshape with hleaf | ⟨ran, hleaf⟩
      · exact Or.inl ⟨_, hleaf, fun hok => by cases hok⟩
      · refine Or.inr ⟨ran, handle, _, false, hleaf, hlast, fun hnever => absurd ?_ hnever⟩
        cases ran <;> decide

end Bulk
end Host

/-! ## What every step keeps -/

/-- It is the loops of `UnloadAllPluginsCommand` that wait. -/
def Caller.unloadsAll : Caller → Bool
  | .unloadAll _ _ _ _ => true
  | _ => false

/-- The command is not called by another one, and its journal is right. -/
structure Task.Bulked (host : Host) (journal : Journal) (task : Task) : Prop where
  below : ∀ caller ∈ task.callers.tail, caller.unloadsAll = false
  bulk : ∀ order rest attempted progress below,
    task.callers = .unloadAll order rest attempted progress :: below →
      Host.Bulk host journal task.leaf order rest attempted

/-- Nobody who is left to wait unloads all plugins. -/
def Next.Modest (next : Next) : Prop :=
  ∀ caller ∈ next.callers, caller.unloadsAll = false

namespace Host

variable (host : Host) (files : Files)

theorem modest_nil {next : Next} (h : next.callers = []) : next.Modest := by
  intro caller hmem
  rw [h] at hmem
  cases hmem

theorem modest_under {next : Next} {caller : Caller} (h : next.Modest)
    (hcaller : caller.unloadsAll = false) : (next.under caller).Modest := by
  intro other hmem
  rcases List.mem_append.1 hmem with hmem | hmem
  · exact h other hmem
  · exact List.mem_singleton.1 hmem ▸ hcaller

theorem modest_one {next : Next} {caller : Caller} (h : next.callers = [caller])
    (hcaller : caller.unloadsAll = false) : next.Modest := by
  intro other hmem
  rw [h] at hmem
  exact List.mem_singleton.1 hmem ▸ hcaller

theorem discoverPlugin_modest (filename : Text) : (host.discoverPlugin files filename).Modest := by
  unfold discoverPlugin
  split
  · exact modest_nil rfl
  · split <;> exact modest_nil rfl

theorem loadPlugin_modest (filename : Text) (expected : Option Text) (activate : Bool) :
    (host.loadPlugin files filename expected activate).Modest :=
  modest_one rfl rfl

theorem startUnload_modest (handle : KeelPluginHandle) (disable : Bool) :
    (host.startUnload handle disable).Modest :=
  modest_nil (startUnload_shape host handle disable).1

theorem reloadPlugin_modest (handle : KeelPluginHandle) :
    (host.reloadPlugin files handle).Modest := by
  unfold reloadPlugin
  split
  · exact modest_nil rfl
  · split
    · exact modest_nil rfl
    · split
      · exact modest_nil rfl
      · split
        · exact modest_nil rfl
        · split
          · exact modest_nil rfl
          · exact modest_under (startUnload_modest host handle false) rfl

theorem resumeReload_modest (filename name : Text) (wasPaused : Bool) (result : Result)
    (stage : ReloadStage) :
    (host.resumeReload files filename name wasPaused result stage).Modest := by
  unfold resumeReload
  split
  · split
    · exact modest_nil rfl
    · exact modest_under (loadPlugin_modest _ _ _ _ _) rfl
  · split
    · exact modest_under (loadPlugin_modest _ _ _ _ _) rfl
    · split
      · exact modest_nil rfl
      · split
        · exact modest_nil rfl
        · split
          · exact modest_under (startUnload_modest _ _ _) rfl
          · exact modest_under (loadPlugin_modest _ _ _ _ _) rfl
  · exact modest_under (loadPlugin_modest _ _ _ _ _) rfl
  · exact modest_nil rfl

theorem resume_modest (result : Result) {caller : Caller} (hcaller : caller.unloadsAll = false) :
    (host.resume files result caller).Modest := by
  cases caller with
  | load expected activate =>
    simp only [resume]
    unfold resumeLoad
    split
    · exact modest_nil rfl
    · split
      · exact modest_nil rfl
      · split
        · exact modest_nil rfl
        · split
          · exact modest_nil rfl
          · split <;> exact modest_nil rfl
  | discoverAll refresh rest found =>
    simp only [resume]
    unfold resumeDiscoverAll
    split
    · exact modest_under (discoverPlugin_modest _ _ _) rfl
    · dsimp only
      split
      · exact modest_nil rfl
      · exact modest_one rfl rfl
  | startAll found rest remaining progress =>
    simp only [resume]
    unfold resumeStartAll
    split
    · split
      · exact modest_nil rfl
      · split <;> exact modest_one rfl rfl
    · split
      · exact modest_one rfl rfl
      · split <;> exact modest_one rfl rfl
  | rejectAll rest =>
    simp only [resume]
    unfold resumeRejectAll
    split
    · exact modest_nil rfl
    · exact modest_one rfl rfl
  | reload stage filename name wasPaused =>
    exact resumeReload_modest host files filename name wasPaused result stage
  | unloadAll order rest attempted progress => cases hcaller
  | refresh running paths newPaths =>
    simp only [resume]
    unfold resumeRefresh
    split
    · exact modest_one rfl rfl
    · dsimp only
      split
      · exact modest_one rfl rfl
      · split
        · exact modest_under (reloadPlugin_modest _ _ _) rfl
        · exact modest_one rfl rfl
  | bulkEnds => exact modest_nil rfl

theorem invoke_callers (command : Command) :
    (host.invoke files command).Modest ∨
      (host.invoke files command).leaf = .returned ⟨false, none⟩ ∧
      (host.invoke files command).callers =
        [.unloadAll host.loadOrder.reverse host.loadOrder.reverse [] false, .bulkEnds] := by
  cases command with
  | loadPlugins paths => exact Or.inl (modest_one rfl rfl)
  | load filename =>
    left
    simp only [invoke]
    unfold loadPluginCommand
    dsimp only
    split
    · exact loadPlugin_modest _ _ _ _ _
    · split
      · exact modest_nil rfl
      · split
        · exact modest_nil rfl
        · exact loadPlugin_modest _ _ _ _ _
  | unload handle => exact Or.inl (startUnload_modest _ _ _)
  | reload handle => exact Or.inl (reloadPlugin_modest _ _ _)
  | retry handle =>
    left
    simp only [invoke]
    unfold retryPlugin
    split
    · exact modest_nil rfl
    · split
      · exact modest_nil rfl
      · split
        · exact modest_nil rfl
        · exact loadPlugin_modest _ _ _ _ _
  | pause handle =>
    left
    simp only [invoke]
    unfold startPause
    split <;> exact modest_nil rfl
  | resume handle =>
    left
    simp only [invoke]
    unfold startResume
    split <;> exact modest_nil rfl
  | unloadAll => exact Or.inr ⟨rfl, rfl⟩
  | refresh =>
    left
    simp only [invoke]
    split
    · exact modest_nil rfl
    · intro caller hmem
      rcases List.mem_cons.1 hmem with rfl | hmem
      · rfl
      · exact List.mem_singleton.1 hmem ▸ rfl

end Host

/-! ## What a watched run keeps -/

theorem Task.Bulked.of_host {host after : Host} {journal : Journal} {task task' : Task}
    (h : task.Bulked host journal) (hleaf : task'.leaf = task.leaf)
    (hcallers : task'.callers = task.callers)
    (hallotted : ∀ other, host.Allotted other → after.Allotted other)
    (hclosing : host.Closing after) : task'.Bulked after journal where
  below := hcallers ▸ h.below
  bulk order rest attempted progress below heq := by
    rw [hleaf]
    exact (h.bulk order rest attempted progress below (hcallers ▸ heq)).of_host hallotted hclosing

theorem Task.bulked_of_modest {host : Host} {journal : Journal} {task : Task}
    (h : ∀ caller ∈ task.callers, caller.unloadsAll = false) : task.Bulked host journal where
  below caller hmem := h caller (List.mem_of_mem_tail hmem)
  bulk order rest attempted progress below heq := by
    have hbad := h (.unloadAll order rest attempted progress) (heq ▸ List.mem_cons_self)
    cases hbad

namespace Machine

variable {machine after : Machine} {thread : Nat}

theorem step_allotted (hsafe : Host.Safe machine.host machine.tasks) (action : Action)
    (handle : KeelPluginHandle) (hallotted : machine.host.Allotted handle) :
    (machine.step action).host.Allotted handle := by
  obtain ⟨middle, _, _, _, _, hfirst, hsecond, -⟩ := (step_step hsafe action).evolves
  exact hsecond.allotted handle (hfirst.allotted handle hallotted)

theorem does_bulked {journal : Journal} {action : Action} (hkept : machine.Kept)
    (hdoes : Does machine action after)
    (hallotted : ∀ other, machine.host.Allotted other → after.host.Allotted other)
    (hclosing : machine.host.Closing after.host)
    (hbulked : (machine.tasks thread).Bulked machine.host journal)
    (hinvoke : ∀ gameThread origin command files,
      action ≠ .invoke thread gameThread origin command files)
    (hturn : ∀ files, action = .work files → machine.holder = some thread →
      ∀ result, (machine.tasks thread).leaf = .returned result →
      ∀ caller callers, (machine.tasks thread).callers = caller :: callers →
        caller.unloadsAll = false) :
    (after.tasks thread).Bulked after.host journal := by
  by_cases hsame : after.tasks thread = machine.tasks thread
  · exact hbulked.of_host (congrArg Task.leaf hsame) (congrArg Task.callers hsame) hallotted hclosing
  have hmine : ∀ {other : Nat} {task : Task},
      update machine.tasks other task thread ≠ machine.tasks thread → thread = other := by
    intro other task hchanged
    by_contra hne
    exact hchanged (Function.update_of_ne hne _ _)
  have hstays : (after.tasks thread).leaf = (machine.tasks thread).leaf →
      (after.tasks thread).callers = (machine.tasks thread).callers →
      (after.tasks thread).Bulked after.host journal := fun hleaf hcallers =>
    hbulked.of_host hleaf hcallers hallotted hclosing
  have hgoes : (after.tasks thread).callers = (machine.tasks thread).callers →
      (∀ order rest attempted,
        Host.Bulk machine.host journal (machine.tasks thread).leaf order rest attempted →
          Host.Bulk after.host journal (after.tasks thread).leaf order rest attempted) →
      (after.tasks thread).Bulked after.host journal := fun hcallers hbulk =>
    ⟨hcallers ▸ hbulked.below, fun order rest attempted progress below heq =>
      hbulk order rest attempted
        (hbulked.bulk order rest attempted progress below (hcallers ▸ heq))⟩
  have hformed := hkept.safe.formed thread
  cases hdoes with
  | idles | happens => exact absurd rfl hsame
  | begins =>
    obtain rfl := hmine hsame
    exact absurd rfl (hinvoke _ _ _ _)
  | waits | calls | answers | asks =>
    obtain rfl := hmine hsame
    refine hstays ?_ ?_ <;> simp [Machine.answer, release, setTask]
  | @skips other files kind handle call rest failed hholder hleaf hmakes =>
    obtain rfl := hmine hsame
    refine hgoes (by simp [goOn, setTask]) fun order rest' attempted hbulk => ?_
    rw [hleaf] at hbulk hformed
    rw [goOn_leaf]
    exact hbulk.settle hformed hallotted hclosing
  | @returns other _ holder result hleaf =>
    obtain rfl := hmine hsame
    refine hgoes (by simp [goOn, setTask]) fun order rest' attempted hbulk => ?_
    rw [goOn_leaf]
    refine { hbulk with unloading := ?_ }
    rcases hleaf with ⟨kind, handle, failed, hleaf, rfl⟩ | ⟨hleaf, -⟩
    · rcases hbulk.unloading with ⟨_, hbad, -⟩ | ⟨ran, own, calls, failed', heq', hlast, hdone⟩
      · rw [hleaf] at hbad
        cases hbad
      · rw [hleaf] at heq'
        cases heq'
        exact Or.inl ⟨_, rfl, fun _ => ⟨handle, hlast, hdone List.not_mem_nil⟩⟩
    · rcases hbulk.unloading with ⟨_, hbad, -⟩ | ⟨_, _, _, _, hbad, -⟩ <;>
        (rw [hleaf] at hbad; cases hbad)
  | ends =>
    obtain rfl := hmine hsame
    refine Task.bulked_of_modest ?_
    simp [setTask, Task.idle]
  | @resumes other files result caller callers hholder hleaf hcallers =>
    obtain rfl := hmine hsame
    have hcaller := hturn files rfl hholder result hleaf caller callers hcallers
    have hmodest := Host.resume_modest machine.host files result hcaller
    have hbelow := hbulked.below
    rw [hcallers] at hbelow
    refine Task.bulked_of_modest fun next hmem => ?_
    simp only [goOn, setTask, update_self] at hmem
    rcases List.mem_append.1 hmem with hmem | hmem
    · exact hmodest next hmem
    · exact hbelow next hmem
  | @describes other query handle hholder hstatus hleaf =>
    obtain rfl := hmine hsame
    refine hgoes (by simp [goOn, setTask]) fun order rest' attempted hbulk => ?_
    rcases hbulk.unloading with ⟨_, hbad, -⟩ | ⟨_, _, _, _, hbad, -⟩ <;>
      (rw [hleaf] at hbad; cases hbad)
  | @settles other kind handle call rest failed answer hholder hstatus hleaf =>
    obtain rfl := hmine hsame
    refine hgoes (by simp [goOn, setTask]) fun order rest' attempted hbulk => ?_
    rw [hleaf] at hbulk hformed
    rw [goOn_leaf]
    exact hbulk.settle hformed hallotted hclosing

/-- A thread that does not wait cannot be asked. -/
theorem invoke_busy {gameThread : Bool} {origin : Origin} {command : Command} {files : Files}
    (hwaits : ¬(machine.tasks thread).waits = true) :
    machine.step (.invoke thread gameThread origin command files) = machine := by
  simp only [step]
  split
  · next hleaf hcallers => exact absurd (by simp [Task.waits, hleaf, hcallers]) hwaits
  · rfl

theorem invoke_bulked {gameThread : Bool} {origin : Origin} {command : Command} {files : Files}
    (hkept : machine.Kept) (hwaits : (machine.tasks thread).waits = true)
    (hallotted : ∀ other, machine.host.Allotted other →
      (machine.step (.invoke thread gameThread origin command files)).host.Allotted other) :
    ((machine.step (.invoke thread gameThread origin command files)).tasks thread).Bulked
      (machine.step (.invoke thread gameThread origin command files)).host .empty := by
  have hidle := (Task.returned_of_waits hwaits).2
  have hsame : (machine.tasks thread).Bulked machine.host .empty :=
    Task.bulked_of_modest fun caller hmem => by
      rw [hidle] at hmem
      cases hmem
  simp only [step]
  split
  · next hholder hleaf hcallers =>
    split
    · next hadmitted =>
      simp only [step, hholder, hleaf, hcallers, if_pos hadmitted, setTask] at hallotted
      simp only [setTask, update_self]
      rcases machine.host.invoke_callers files command with hmodest | ⟨hleaf, hcallers⟩
      · exact Task.bulked_of_modest hmodest
      · refine ⟨?_, fun order rest attempted progress below heq => ?_⟩
        · rw [hcallers]
          intro caller hmem
          exact List.mem_singleton.1 hmem ▸ rfl
        · dsimp only at heq ⊢
          rw [hcallers] at heq
          cases heq
          rw [hleaf]
          refine ⟨fun handle hmem => hallotted handle ?_, rfl, (fun _ hmem => by cases hmem),
            List.nodup_nil, (fun _ hmem => by cases hmem), (fun _ hmem => by cases hmem),
            (fun _ hmem => by cases hmem), Or.inl ⟨_, rfl, fun hok => by cases hok⟩⟩
          have hopen := hkept.ordered.opened handle (List.mem_reverse.1 hmem)
          cases hplugin : machine.host.pluginByHandle handle with
          | none => exact absurd hopen (Host.openImage_gone hplugin)
          | some plugin =>
            have hmine := hkept.safe.numbered.allotted plugin (Host.mem_of_pluginByHandle hplugin)
            rwa [Host.pluginByHandle_handle hplugin] at hmine
    · exact hsame
  · exact hsame

end Machine

namespace Watched

/-- What a watched run keeps. -/
structure Kept (watched : Watched) : Prop where
  machine : watched.machine.Kept
  bulked : ∀ thread,
    (watched.machine.tasks thread).Bulked watched.machine.host (watched.journals thread)

theorem initial_kept : initial.Kept :=
  ⟨Machine.initial_kept, fun _ => Task.bulked_of_modest fun _ hmem => by cases hmem⟩

variable {watched : Watched}

theorem Kept.turn (hkept : watched.Kept) {thread : Nat} {files : Files} {result : Result}
    {order rest attempted : List KeelPluginHandle} {progress : Bool} {below : List Caller}
    (hholder : watched.machine.holder = some thread)
    (hleaf : (watched.machine.tasks thread).leaf = .returned result)
    (hcallers : (watched.machine.tasks thread).callers =
      .unloadAll order rest attempted progress :: below) :
    ((watched.machine.step (.work files)).tasks thread).Bulked
      (watched.machine.step (.work files)).host
      ((watched.journals thread).turn watched.machine.host result rest attempted progress) := by
  have hstep : watched.machine.step (.work files) = watched.machine.goOn thread
      { watched.machine.host.resumeUnloadAll order attempted progress result rest with
        callers := (watched.machine.host.resumeUnloadAll order attempted progress result
          rest).callers ++ below } := by
    simp only [Machine.step, hholder, Machine.work, hleaf, hcallers, Host.resume]
  have hallotted := Machine.step_allotted hkept.machine.safe (.work files)
  have hclosing := Machine.step_closing hkept.machine.safe hkept.machine.imaged (.work files)
  have hbulked := hkept.bulked thread
  have hbelow := hbulked.below
  rw [hcallers, List.tail_cons] at hbelow
  have hbulk := hbulked.bulk order rest attempted progress below hcallers
  rw [hleaf] at hbulk
  rw [hstep] at hallotted hclosing ⊢
  have hturn := Host.resumeUnloadAll_turn watched.machine.host order attempted progress result rest
  generalize watched.machine.host.resumeUnloadAll order attempted progress result rest = next at *
  have htask : ((watched.machine.goOn thread { next with
      callers := next.callers ++ below }).tasks thread).callers = next.callers ++ below := by
    simp [Machine.goOn, Machine.setTask]
  -- One caller is left above those that wait below, or none.
  have hone := hturn.callers
  rcases hone with hnone | ⟨rest', attempted', progress', hone⟩
  · refine Task.bulked_of_modest fun caller hmem => hbelow caller ?_
    rwa [htask, hnone] at hmem
  · refine ⟨fun caller hmem => hbelow caller ?_, fun order' rest'' attempted'' progress'' below'
      heq => ?_⟩
    · rwa [htask, hone] at hmem
    · rw [htask, hone] at heq
      cases heq
      rw [Machine.goOn_leaf]
      exact (hbulk.turn hturn hallotted hclosing rfl hone).2

theorem journals_of_ne {thread other : Nat} (hne : thread ≠ other) (files : Files)
    (hholder : watched.machine.holder = some other) :
    (watched.step (.work files)).journals thread = watched.journals thread := by
  simp only [step, hholder]
  exact Function.update_of_ne hne _ _

theorem Kept.step (hkept : watched.Kept) (action : Action) : (watched.step action).Kept where
  machine := hkept.machine.step action
  bulked thread := by
    have hallotted := Machine.step_allotted hkept.machine.safe action
    have hclosing := Machine.step_closing hkept.machine.safe hkept.machine.imaged action
    -- Where the journal stays.
    have hquiet : (watched.step action).journals thread = watched.journals thread →
        (∀ gameThread origin command files,
          action ≠ .invoke thread gameThread origin command files) →
        (∀ files, action = .work files → watched.machine.holder = some thread →
          ∀ result, (watched.machine.tasks thread).leaf = .returned result →
          ∀ caller callers, (watched.machine.tasks thread).callers = caller :: callers →
            caller.unloadsAll = false) →
        ((watched.step action).machine.tasks thread).Bulked (watched.step action).machine.host
          ((watched.step action).journals thread) := by
      intro hjournal hinvoke hturn
      rw [hjournal]
      exact Machine.does_bulked hkept.machine (Machine.step_does watched.machine action) hallotted
        hclosing (hkept.bulked thread) hinvoke hturn
    cases action with
    | invoke other gameThread origin command files =>
      by_cases hne : thread = other
      · subst hne
        by_cases hwaits : (watched.machine.tasks thread).waits = true
        · have hjournal : (watched.step (.invoke thread gameThread origin command files)).journals
              thread = .empty := by
            simp [Watched.step, hwaits]
          rw [hjournal]
          exact Machine.invoke_bulked hkept.machine hwaits hallotted
        · have hjournal : (watched.step (.invoke thread gameThread origin command files)).journals
              thread = watched.journals thread := by
            simp [Watched.step, hwaits]
          rw [hjournal]
          change Task.Bulked (watched.machine.step _).host _ ((watched.machine.step _).tasks thread)
          rw [Machine.invoke_busy hwaits]
          exact hkept.bulked thread
      · refine hquiet ?_ ?_ fun _ heq => by cases heq
        · simp only [Watched.step]
          split
          · exact Function.update_of_ne hne _ _
          · rfl
        · intro gameThread origin command files heq
          cases heq
          exact hne rfl
    | work files =>
      cases hholder : watched.machine.holder with
      | none =>
        refine hquiet (by simp only [Watched.step, hholder]) (fun _ _ _ _ heq => by cases heq) ?_
        intro _ _ hbad
        rw [hholder] at hbad
        cases hbad
      | some other =>
        by_cases hne : thread = other
        · subst hne
          by_cases hloops : ∃ result order rest attempted progress below,
              (watched.machine.tasks thread).leaf = .returned result ∧
              (watched.machine.tasks thread).callers =
                .unloadAll order rest attempted progress :: below
          · obtain ⟨result, order, rest, attempted, progress, below, hleaf, hcallers⟩ := hloops
            have hjournal : (watched.step (.work files)).journals thread =
                (watched.journals thread).turn watched.machine.host result rest attempted
                  progress := by
              simp only [Watched.step, hholder, update_self, noted, hleaf, hcallers]
            rw [hjournal]
            exact hkept.turn hholder hleaf hcallers
          · refine hquiet ?_ (fun _ _ _ _ heq => by cases heq) ?_
            · simp only [Watched.step, hholder, update_self]
              unfold noted
              split
              · next result order rest attempted progress below hleaf hcallers =>
                exact absurd ⟨result, order, rest, attempted, progress, below, hleaf, hcallers⟩
                  hloops
              · rfl
            · intro _ _ _ result hleaf caller callers hcallers
              cases caller with
              | unloadAll order rest attempted progress =>
                exact absurd ⟨result, order, rest, attempted, progress, callers, hleaf, hcallers⟩
                  hloops
              | _ => rfl
        · refine hquiet (journals_of_ne hne files hholder) (fun _ _ _ _ heq => by cases heq) ?_
          intro _ _ hbad
          rw [hholder] at hbad
          exact absurd (Option.some.inj hbad).symm hne
    | answer other answer =>
      exact hquiet rfl (fun _ _ _ _ heq => by cases heq) fun _ heq => by cases heq
    | asked other query =>
      exact hquiet rfl (fun _ _ _ _ heq => by cases heq) fun _ heq => by cases heq
    | regain other =>
      exact hquiet rfl (fun _ _ _ _ heq => by cases heq) fun _ heq => by cases heq
    | happen event =>
      exact hquiet rfl (fun _ _ _ _ heq => by cases heq) fun _ heq => by cases heq

end Watched
end KeelS2.Plugins
