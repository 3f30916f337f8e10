import KeelS2.Lib.Chains
import KeelS2.Plugins.Dependencies
import KeelS2.Plugins.UnloadTurns

/-!
# What `UnloadAllPluginsCommand` leaves

The command comes to its end after a bounded number of its own steps, and attempts a plugin once.
What is still open then was attempted, or was passed in the last pass: it did not run, it was in
use, or another one required it, for which the same holds.
-/

namespace KeelS2.Plugins

open Lib (run)
open Relation (ReflTransGen TransGen)

/-! ## Why a plugin is passed -/

namespace Host

variable {host : Host} {handle : KeelPluginHandle}

/-- The plugin is neither loaded nor paused: it waits to be started, or could not be. -/
def Resting (host : Host) (handle : KeelPluginHandle) : Prop :=
  ∃ plugin, host.pluginByHandle handle = some plugin ∧ plugin.state ≠ .loaded ∧
    plugin.state ≠ .paused

/-- A native operation or a command of the plugin is under way, or another one has a factory or a
published service of it. -/
def InUse (host : Host) (handle : KeelPluginHandle) : Prop :=
  ∃ plugin, host.pluginByHandle handle = some plugin ∧
    (plugin.activeNativeOperations ≠ 0 ∨ host.commandActive handle = true ∨
      (host.present .factories = true ∧ host.pinned handle = true) ∨
      (host.present .publishedServices = true ∧ host.leased handle = true))

/-- The other plugin, loaded or open, depends on this one. -/
def RequiredBy (host : Host) (handle other : KeelPluginHandle) : Prop :=
  ∃ plugin candidate, host.pluginByHandle handle = some plugin ∧ candidate ∈ host.plugins ∧
    candidate.handle = other ∧ other ≠ handle ∧
    (candidate.state = .loaded ∨ candidate.library = true) ∧
    ∃ dependency ∈ candidate.dependencies, equalInsensitive dependency.name plugin.name = true

theorem hasRunningDependent_iff {plugin : PluginRecord}
    (hplugin : host.pluginByHandle handle = some plugin) :
    host.hasRunningDependent plugin true = true ↔
      host.InUse handle ∨ ∃ other, host.RequiredBy handle other := by
  have hhandle := pluginByHandle_handle hplugin
  simp only [hasRunningDependent, Bool.or_eq_true, Bool.and_eq_true, decide_eq_true_eq,
    List.any_eq_true, Bool.true_and]
  constructor
  · rintro ((((hactive | hcommand) | ⟨candidate, hmem, hcandidate⟩) | hpinned) | hleased)
    · exact Or.inl ⟨plugin, hplugin, Or.inl hactive⟩
    · exact Or.inl ⟨plugin, hplugin, Or.inr (Or.inl (hhandle ▸ hcommand))⟩
    · obtain ⟨⟨hne, hrunning⟩, dependency, hdependency, hname⟩ := hcandidate
      exact Or.inr ⟨candidate.handle, plugin, candidate, hplugin, hmem, rfl, hhandle ▸ hne,
        hrunning, dependency, hdependency, hname⟩
    · exact Or.inl ⟨plugin, hplugin, Or.inr (Or.inr (Or.inl (hhandle ▸ hpinned)))⟩
    · exact Or.inl ⟨plugin, hplugin, Or.inr (Or.inr (Or.inr (hhandle ▸ hleased)))⟩
  · rintro (⟨found, hfound, huse⟩ | ⟨other, found, candidate, hfound, hmem, rfl, hne, hrunning,
      dependency, hdependency, hname⟩)
    · rw [hplugin] at hfound
      cases hfound
      rcases huse with hactive | hcommand | hpinned | hleased
      · exact Or.inl (Or.inl (Or.inl (Or.inl hactive)))
      · exact Or.inl (Or.inl (Or.inl (Or.inr (hhandle ▸ hcommand))))
      · exact Or.inl (Or.inr (hhandle ▸ hpinned))
      · exact Or.inr (hhandle ▸ hleased)
    · rw [hplugin] at hfound
      cases hfound
      exact Or.inl (Or.inl (Or.inr ⟨candidate, hmem, ⟨hhandle ▸ hne, hrunning⟩, dependency,
        hdependency, hname⟩))

theorem Attempts.free {attempted : List KeelPluginHandle}
    (hattempts : host.Attempts attempted handle) :
    ¬host.InUse handle ∧ ∀ other, ¬host.RequiredBy handle other := by
  obtain ⟨plugin, hplugin, -, -, hdependent⟩ := hattempts.running
  have hnone : ¬(host.InUse handle ∨ ∃ other, host.RequiredBy handle other) := by
    rw [← hasRunningDependent_iff hplugin, hdependent]
    exact Bool.false_ne_true
  exact ⟨fun huse => hnone (Or.inl huse), fun other hother => hnone (Or.inr ⟨other, hother⟩)⟩

theorem Skipped.reason (hskipped : host.Skipped handle)
    (hopen : host.openImage handle = some true) :
    host.Resting handle ∨ host.InUse handle ∨ ∃ other, host.RequiredBy handle other := by
  cases hplugin : host.pluginByHandle handle with
  | none => exact absurd hopen (openImage_gone hplugin)
  | some plugin =>
    have hlibrary : plugin.library = true := by
      simpa [openImage, hplugin] using hopen
    rcases hskipped plugin hplugin hlibrary with hresting | hdependent
    · exact Or.inl ⟨plugin, hplugin, hresting⟩
    · exact Or.inr ((hasRunningDependent_iff hplugin).1 hdependent)

end Host

/-! ## What a run of the machine keeps -/

deriving instance DecidableEq for Task

namespace Watched

/-- The journals are right, and every thread stands where it can. -/
structure Sound (watched : Watched) : Prop where
  kept : watched.Kept
  busy : watched.machine.Busy
  poised : watched.machine.Poised

theorem initial_sound : initial.Sound :=
  ⟨initial_kept, Machine.busy_of_none rfl, Machine.initial_poised⟩

theorem Sound.step {watched : Watched} (hsound : watched.Sound) (action : Action) :
    (watched.step action).Sound :=
  ⟨hsound.kept.step action, Machine.step_busy hsound.busy action,
    Machine.step_poised hsound.poised action⟩

end Watched

/-! ## The number of steps -/

/-- The steps that the thread takes until its loops are over. -/
def Machine.stepsTaken (thread : Nat) : Machine → List Action → Nat
  | _, [] => 0
  | machine, action :: actions =>
    if (machine.tasks thread).loops then
      (if (machine.step action).tasks thread = machine.tasks thread then 0 else 1) +
        stepsTaken thread (machine.step action) actions
    else 0

/-- The most steps for so many plugins. -/
def mostSteps (plugins : Nat) : Nat :=
  (plugins + 1) * (plugins + 2) * (unloadSteps + 1) + unloadSteps

section Bounds

variable {watched : Watched} {thread : Nat} {order rest attempted : List KeelPluginHandle}
variable {progress : Bool} {below : List Caller}

theorem Moves.ne {host : Host} {journal : Journal} {before after : Task}
    (hmoves : Moves host before after) (hloops : before.loops = true)
    (hbulked : before.Bulked host journal) : after ≠ before := by
  intro hsame
  rcases hmoves.less hloops hbulked with hover | hless
  · rw [hsame, hloops] at hover
    cases hover
  · rw [hsame] at hless
    exact Nat.lt_irrefl _ hless

theorem Task.stepsLeft_pos {task : Task} (hloops : task.loops = true) : 0 < task.stepsLeft := by
  obtain ⟨order, rest, attempted, progress, below, hcallers⟩ := Task.loops_iff.1 hloops
  rw [Task.stepsLeft_eq hcallers]
  exact Nat.add_pos_left (Nat.mul_pos (Nat.succ_pos _) (Nat.succ_pos _)) _

theorem Machine.stepsTaken_over {machine : Machine}
    (hover : (machine.tasks thread).loops = false) (actions : List Action) :
    machine.stepsTaken thread actions = 0 := by
  cases actions with
  | nil => rfl
  | cons action actions => simp [Machine.stepsTaken, hover]

theorem stepsTaken_le (hsound : watched.Sound)
    (hloops : (watched.machine.tasks thread).loops = true) (actions : List Action) :
    watched.machine.stepsTaken thread actions ≤ (watched.machine.tasks thread).stepsLeft := by
  induction actions generalizing watched with
  | nil => exact Nat.zero_le _
  | cons action actions ih =>
    have hbulked := hsound.kept.bulked thread
    have hnext := hsound.step action
    unfold Machine.stepsTaken
    rw [if_pos hloops]
    rcases Machine.step_moves hsound.busy hsound.poised hloops hbulked action with hstays | hmoves
    · have hleft := ih hnext (by
        change ((watched.machine.step action).tasks thread).loops = true
        rwa [hstays])
      change Machine.stepsTaken thread (watched.machine.step action) actions ≤
        ((watched.machine.step action).tasks thread).stepsLeft at hleft
      rw [hstays] at hleft
      rwa [if_pos hstays, Nat.zero_add]
    · rw [if_neg (hmoves.ne hloops hbulked)]
      cases hagain : ((watched.machine.step action).tasks thread).loops with
      | false =>
        rw [Machine.stepsTaken_over hagain]
        exact Task.stepsLeft_pos hloops
      | true =>
        have hleft := ih hnext hagain
        rcases hmoves.less hloops hbulked with hover | hless
        · rw [hagain] at hover
          cases hover
        · rw [Nat.add_comm]
          exact Nat.succ_le_of_lt (Nat.lt_of_le_of_lt hleft hless)

theorem leaf_steps_le {host : Host} {leaf : Leaf} (hunloading : Host.Unloading host attempted leaf)
    (hformed : Host.Formed leaf) {status : Status} : leaf.stepsLeft status ≤ unloadSteps := by
  rcases hunloading with ⟨result, rfl, -⟩ | ⟨ran, handle, calls, failed, rfl, -⟩
  · exact Nat.zero_le _
  · have hcalls : calls.length ≤ (Host.unloadCalls true).length := by
      refine (List.IsSuffix.length_le hformed).trans ?_
      change (Host.unloadCalls ran).length ≤ _
      cases ran <;> decide
    have hstatus : status.stepsLeft ≤ 2 := by
      cases status <;> simp [Status.stepsLeft]
    change 3 * calls.length + status.stepsLeft + 1 ≤ 3 * (Host.unloadCalls true).length + 3
    omega

theorem stepsLeft_le (hsound : watched.Sound)
    (hcallers : (watched.machine.tasks thread).callers =
      .unloadAll order rest attempted progress :: below) :
    (watched.machine.tasks thread).stepsLeft ≤ mostSteps order.length := by
  have hbulk := (hsound.kept.bulked thread).bulk order rest attempted progress below hcallers
  have hrest : rest.length ≤ order.length := by
    rw [← hbulk.passed, List.length_append]
    exact Nat.le_add_left _ _
  have hturns : turnsLeft order rest attempted
      (progress || (watched.machine.tasks thread).leaf.progresses) ≤
        (order.length + 1) * (order.length + 2) := by
    refine (turnsLeft_mono order rest attempted fun _ => rfl).trans ?_
    have hfilter := List.length_filter_le (fun handle => decide (handle ∉ attempted)) order
    have hmul := Nat.mul_le_mul_right (order.length + 1) (Nat.succ_le_succ hfilter)
    unfold turnsLeft
    simp only [Bool.toNat_true, Nat.succ_eq_add_one] at hmul ⊢
    have hsum : (order.length + 1) * (order.length + 2) =
        (order.length + 1) * (order.length + 1) + (order.length + 1) := Nat.mul_succ _ _
    omega
  rw [Task.stepsLeft_eq hcallers]
  exact Nat.add_le_add (Nat.mul_le_mul_right _ hturns)
    (leaf_steps_le hbulk.unloading (hsound.kept.machine.safe.formed thread))

end Bounds

/-! ## The law -/

/-- In the last pass the plugin is required by the other one when its turn comes. -/
def Journal.Requires (journal : Journal) (handle other : KeelPluginHandle) : Prop :=
  ∃ turn ∈ journal.turns, turn.1 = handle ∧ turn.2.RequiredBy handle other

/-- Why a plugin is still open, or keeps one open that it requires. -/
inductive Journal.Remains (journal : Journal) (host : Host)
    (order attempted : List KeelPluginHandle) (handle : KeelPluginHandle) : Prop
  | failed (hattempted : handle ∈ attempted) (hfailed : handle ∉ journal.succeeded)
  /-- It was not in the load order when the command began. -/
  | foreign (horder : handle ∉ order)
  /-- It did not run, or was in use, when its turn came in the last pass. -/
  | resting {turn : Host} (hturn : (handle, turn) ∈ journal.turns) (hresting : turn.Resting handle)
  | inUse {turn : Host} (hturn : (handle, turn) ∈ journal.turns) (huse : turn.InUse handle)
  /-- It was closed by another command in the meantime. -/
  | closed (hclosed : host.openImage handle ≠ some true)

/-- What holds while the command is in its loops. -/
structure Watched.Unloads (watched : Watched) (thread : Nat)
    (order rest attempted : List KeelPluginHandle) (progress : Bool) : Prop where
  /-- However the others interleave. -/
  terminates : ∀ actions, watched.machine.stepsTaken thread actions ≤ mostSteps order.length
  /-- It is never stuck: it has the lock and goes on, or its call may be answered, or it may go on
  as soon as the lock is free. -/
  works : (watched.machine.tasks thread).status = .working →
    watched.machine.holder = some thread ∧ ∀ files,
      (watched.machine.step (.work files)).tasks thread ≠ watched.machine.tasks thread
  calls : (watched.machine.tasks thread).status = .calling → ∀ answer,
    (watched.machine.step (.answer thread answer)).tasks thread ≠ watched.machine.tasks thread
  answered : ∀ answer, (watched.machine.tasks thread).status = .answered answer →
    watched.machine.holder = none →
      (watched.machine.step (.regain thread)).tasks thread ≠ watched.machine.tasks thread
  asked : ∀ query, (watched.machine.tasks thread).status ≠ .asked query
  once : attempted.Nodup ∧ ∀ handle ∈ attempted, handle ∈ order
  /-- The unload that is under way is that of the plugin attempted last. -/
  unloading : ∀ kind handle calls failed,
    (watched.machine.tasks thread).leaf = .script kind handle calls failed →
      (∃ wasRunning, kind = .unload true wasRunning) ∧ attempted.getLast? = some handle
  /-- A plugin is attempted where nothing requires it. -/
  attempts : ∀ action order' rest' attempted' progress' below',
    ((watched.machine.step action).tasks thread).callers =
        .unloadAll order' rest' attempted' progress' :: below' →
      order' = order ∧ (attempted' = attempted ∨ ∃ handle, attempted' = attempted ++ [handle] ∧
        watched.machine.host.Attempts attempted handle ∧ ¬watched.machine.host.InUse handle ∧
        ∀ other, ¬watched.machine.host.RequiredBy handle other)
  /-- The last pass is over, and has unloaded nothing. -/
  stops : rest = [] → ∀ result, (watched.machine.tasks thread).leaf = .returned result →
    (progress || result.ok) = false →
      ((watched.journals thread).turns.map Prod.fst).reverse = order ∧
      ∀ handle, watched.machine.host.openImage handle = some true →
        ∃ last, ReflTransGen (watched.journals thread).Requires handle last ∧
          ((watched.journals thread).Remains watched.machine.host order attempted last ∨
            TransGen (watched.journals thread).Requires last last)

section Law

variable {watched : Watched} {thread : Nat} {order rest attempted : List KeelPluginHandle}
variable {progress : Bool} {below : List Caller}

theorem Host.Bulk.remains {host : Host} {journal : Journal} {leaf : Leaf}
    (hbulk : host.Bulk journal leaf order [] attempted) {handle : KeelPluginHandle}
    (hopen : host.openImage handle = some true) :
    journal.Remains host order attempted handle ∨ ∃ other, journal.Requires handle other := by
  by_cases hmem : handle ∈ order
  · have hmine : handle ∈ journal.turns.map Prod.fst := by
      rwa [← hbulk.passed, List.append_nil, List.mem_reverse] at hmem
    obtain ⟨⟨passed, turn⟩, hturn, hpassed⟩ := List.mem_map.1 hmine
    change passed = handle at hpassed
    subst passed
    rcases hbulk.skipped _ hturn with hattempted | hskipped
    · exact Or.inl (.failed hattempted fun hdone => (hbulk.closed handle hdone).2 hopen)
    · rcases hskipped.reason (hbulk.standing _ hturn hopen) with hresting | huse | ⟨other, hother⟩
      · exact Or.inl (.resting hturn hresting)
      · exact Or.inl (.inUse hturn huse)
      · exact Or.inr ⟨other, _, hturn, rfl, hother⟩
  · exact Or.inl (.foreign hmem)

theorem Host.Bulk.chain {host : Host} {journal : Journal} {leaf : Leaf}
    (hbulk : host.Bulk journal leaf order [] attempted) {handle : KeelPluginHandle}
    (hopen : host.openImage handle = some true) :
    ∃ last, ReflTransGen journal.Requires handle last ∧
      (journal.Remains host order attempted last ∨ TransGen journal.Requires last last) := by
  have hfinite : {other | other ∈ order ∧ host.openImage other = some true}.Finite :=
    order.finite_toSet.subset fun other hother => hother.1
  by_cases hmem : handle ∈ order
  · refine Lib.reaches_good_or_circle hfinite (fun other hother => ?_) ⟨hmem, hopen⟩
    rcases hbulk.remains hother.2 with hremains | ⟨next, hnext⟩
    · exact Or.inl hremains
    · refine Or.inr ⟨next, hnext, ?_⟩
      by_cases hnextMem : next ∈ order
      · by_cases hnextOpen : host.openImage next = some true
        · exact Or.inl ⟨hnextMem, hnextOpen⟩
        · exact Or.inr (.closed hnextOpen)
      · exact Or.inr (.foreign hnextMem)
  · exact ⟨handle, .refl, Or.inl (.foreign hmem)⟩

theorem Moves.attempts {host : Host} {journal : Journal} {before after : Task}
    (hmoves : Moves host before after) (hbulked : before.Bulked host journal)
    (hbefore : before.callers = .unloadAll order rest attempted progress :: below)
    {order' rest' attempted' : List KeelPluginHandle} {progress' : Bool} {below' : List Caller}
    (hafter : after.callers = .unloadAll order' rest' attempted' progress' :: below') :
    order' = order ∧ (attempted' = attempted ∨ ∃ handle, attempted' = attempted ++ [handle] ∧
      host.Attempts attempted handle) := by
  cases hmoves with
  | @turn result _ _ _ _ _ next hleaf hcallers hturn hnext hbelow hstatus =>
    rw [hbefore] at hcallers
    cases hcallers
    rw [hafter] at hbelow
    cases hturn with
    | again =>
      cases hbelow
      exact ⟨rfl, Or.inl rfl⟩
    | ends =>
      have hmodest := hbulked.below
      rw [hbefore, List.tail_cons] at hmodest
      change _ = below at hbelow
      have hbad := hmodest _ (hbelow ▸ List.mem_cons_self)
      cases hbad
    | skips =>
      cases hbelow
      exact ⟨rfl, Or.inl rfl⟩
    | @attempts handle rest hattempts =>
      change _ = ((host.startUnload handle true).callers ++ [_]) ++ below at hbelow
      rw [(Host.startUnload_shape host handle true).1] at hbelow
      cases hbelow
      exact ⟨rfl, Or.inr ⟨handle, rfl, hattempts⟩⟩
  | unload hleaf hcallers hless =>
    rw [hafter, hbefore] at hcallers
    cases hcallers
    exact ⟨rfl, Or.inl rfl⟩

theorem Watched.Sound.unloads (hsound : watched.Sound)
    (hcallers : (watched.machine.tasks thread).callers =
      .unloadAll order rest attempted progress :: below) :
    watched.Unloads thread order rest attempted progress := by
  have hbulked := hsound.kept.bulked thread
  have hbulk := hbulked.bulk order rest attempted progress below hcallers
  have hloops : (watched.machine.tasks thread).loops = true :=
    Task.loops_iff.2 ⟨order, rest, attempted, progress, below, hcallers⟩
  have hpoised := hsound.poised thread
  refine ⟨fun actions => ?_, fun hstatus => ?_, fun hstatus answer => ?_,
    fun answer hstatus hholder => ?_, fun query hstatus => ?_, ⟨hbulk.nodup, hbulk.ordered⟩, ?_,
    ?_, ?_⟩
  · exact (stepsTaken_le hsound hloops actions).trans (stepsLeft_le hsound hcallers)
  · have hholder := (hpoised.works hstatus).resolve_left fun hwaits => by
      simp [Task.waits, hcallers] at hwaits
    refine ⟨hholder, fun files => ?_⟩
    simp only [Machine.step, hholder]
    exact (Machine.work_moves hsound.busy hholder hloops hbulked files).ne hloops hbulked
  · exact (Machine.answer_moves hsound.poised hstatus hloops hbulked answer).ne hloops hbulked
  · exact (Machine.regain_moves hsound.poised hholder hstatus hloops hbulked).ne hloops hbulked
  · obtain ⟨handle, hleaf⟩ := hpoised.asked query hstatus
    rcases Machine.loops_leaf hloops hbulked with ⟨_, hbad⟩ | ⟨_, _, _, _, hbad⟩ <;>
      (rw [hleaf] at hbad; cases hbad)
  · intro kind handle calls failed hleaf
    rcases hbulk.unloading with ⟨_, hbad, -⟩ | ⟨ran, last, _, _, hscript, hlast, -⟩
    · rw [hleaf] at hbad
      cases hbad
    · rw [hleaf] at hscript
      cases hscript
      exact ⟨⟨ran, rfl⟩, hlast⟩
  · intro action order' rest' attempted' progress' below' hafter
    rcases Machine.step_moves hsound.busy hsound.poised hloops hbulked action with hstays | hmoves
    · rw [hstays, hcallers] at hafter
      cases hafter
      exact ⟨rfl, Or.inl rfl⟩
    · obtain ⟨horder, hsame | ⟨handle, hmore, hattempts⟩⟩ :=
        hmoves.attempts hbulked hcallers hafter
      · exact ⟨horder, Or.inl hsame⟩
      · exact ⟨horder, Or.inr ⟨handle, hmore, hattempts, hattempts.free⟩⟩
  · rintro rfl result hleaf hprogress
    refine ⟨by simpa using hbulk.passed, fun handle hopen => hbulk.chain hopen⟩

end Law

end KeelS2.Plugins
