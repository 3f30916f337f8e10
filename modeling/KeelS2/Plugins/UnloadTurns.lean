import KeelS2.Plugins.EventOrder
import KeelS2.Plugins.UnloadAll

/-!
# How long the loops of `UnloadAllPluginsCommand` go on

A pass that unloads nothing is the last one, and a plugin is attempted once. So there are at most
as many further passes as there are plugins not attempted, and one more. Each step that the
command takes itself brings it nearer to its end, and what others do leaves it where it stands.
-/

namespace KeelS2.Plugins

open Function (update_self)

/-! ## Where the command can stand -/

/-- There is somebody to be called. -/
def Leaf.calls : Leaf → Bool
  | .discover _ | .allLoaded => true
  | .script _ _ calls _ => !calls.isEmpty
  | .returned _ => false

/-- A command that is under way has the lock, calls somebody, or has its answer. -/
structure Task.Poised (task : Task) (holds : Prop) : Prop where
  works : task.status = .working → task.waits = true ∨ holds
  calls : task.status ≠ .working → task.leaf.calls = true
  asked : ∀ query, task.status = .asked query → ∃ handle, task.leaf = .discover handle

namespace Machine

variable {machine after : Machine} {thread : Nat}

def Poised (machine : Machine) : Prop :=
  ∀ thread, (machine.tasks thread).Poised (machine.holder = some thread)

theorem initial_poised : initial.Poised := fun _ =>
  ⟨fun _ => Or.inl rfl, fun hbusy => absurd rfl hbusy, fun _ hasked => by cases hasked⟩

theorem Poised.of_mine (hpoised : machine.Poised)
    (hothers : ∀ other, other ≠ thread → after.tasks other = machine.tasks other)
    (hholder : ∀ other, other ≠ thread → machine.holder = some other → after.holder = some other)
    (hmine : (after.tasks thread).Poised (after.holder = some thread)) : after.Poised := by
  intro other
  by_cases hsame : other = thread
  · subst hsame
    exact hmine
  · have hother := hpoised other
    rw [hothers other hsame]
    exact ⟨fun hstatus => (hother.works hstatus).imp_right (hholder other hsame), hother.calls,
      hother.asked⟩

theorem goOn_poised (hpoised : ∀ other, other ≠ thread →
    (machine.tasks other).Poised (machine.holder = some other))
    (hholder : machine.holder = some thread) (next : Next) :
    (machine.goOn thread next).Poised := by
  intro other
  by_cases hsame : other = thread
  · subst hsame
    refine ⟨fun _ => Or.inr hholder, fun hbusy => absurd goOn_status hbusy, fun _ hasked => ?_⟩
    rw [goOn_status] at hasked
    cases hasked
  · rw [goOn_other hsame]
    exact hpoised other hsame

theorem release_poised (hpoised : machine.Poised) (hholder : machine.holder = some thread)
    (hcalls : (machine.tasks thread).leaf.calls = true) (host : Host) :
    (machine.release thread host).Poised := by
  refine hpoised.of_mine (fun other => release_other) (fun other hne hother => ?_)
    ⟨fun hstatus => ?_, fun _ => ?_, fun _ hasked => ?_⟩
  · rw [hholder] at hother
    exact absurd (Option.some.inj hother).symm hne
  · rw [release_status] at hstatus
    cases hstatus
  · rwa [release_leaf]
  · rw [release_status] at hasked
    cases hasked

theorem work_poised (hpoised : machine.Poised) (hholder : machine.holder = some thread)
    (files : Files) : (machine.work thread files).Poised := by
  have hgoes := fun next => goOn_poised (fun other _ => hpoised other) hholder next
  unfold work
  simp only
  split
  · next hleaf => exact release_poised hpoised hholder (by rw [hleaf]; rfl) _
  · next hleaf =>
    split
    · exact release_poised hpoised hholder (by rw [hleaf]; rfl) _
    · exact hgoes _
  · exact hgoes _
  · next hleaf =>
    split
    · exact release_poised hpoised hholder (by rw [hleaf]; rfl) _
    · exact hgoes _
  · split
    · refine hpoised.of_mine (fun other => setTask_other) (fun other hne hother => ?_)
        ⟨fun _ => Or.inl ?_, fun hbusy => ?_, fun _ hasked => ?_⟩
      · rw [hholder] at hother
        exact absurd (Option.some.inj hother).symm hne
      · rw [setTask_mine]
        rfl
      · rw [setTask_mine] at hbusy
        exact absurd rfl hbusy
      · rw [setTask_mine] at hasked
        cases hasked
    · exact hgoes _

theorem regain_poised (hpoised : machine.Poised) (hholder : machine.holder = none) (thread : Nat) :
    (machine.regain thread).Poised := by
  have hgoes : ∀ next : Next, (({ machine with holder := some thread } : Machine).goOn thread
      next).Poised := by
    refine fun next => goOn_poised (fun other _ => ?_) rfl next
    obtain ⟨hworks, hcalls, hasked⟩ := hpoised other
    refine ⟨fun hstatus => Or.inl ((hworks hstatus).resolve_right fun hbad => ?_), hcalls, hasked⟩
    rw [hholder] at hbad
    cases hbad
  unfold regain
  simp only
  split
  · exact hgoes _
  · exact hgoes _
  · exact hgoes _
  · exact hpoised

theorem step_poised (hpoised : machine.Poised) (action : Action) :
    (machine.step action).Poised := by
  cases action with
  | invoke thread gameThread origin command files =>
    simp only [step]
    split
    · next hholder hleaf hcallers =>
      split
      · refine hpoised.of_mine (fun other => setTask_other) (fun other _ hother => ?_)
          ⟨fun _ => Or.inr rfl, fun hbusy => ?_, fun _ hasked => ?_⟩
        · rw [hholder] at hother
          cases hother
        · rw [setTask_mine] at hbusy
          exact absurd rfl hbusy
        · rw [setTask_mine] at hasked
          cases hasked
      · exact hpoised
    · exact hpoised
  | work files =>
    cases hholder : machine.holder with
    | none =>
      simp only [step, hholder]
      exact hpoised
    | some thread =>
      simp only [step, hholder]
      exact work_poised hpoised hholder files
  | answer thread answer =>
    simp only [step]
    split
    · exact hpoised
    · next hstatus hleaf =>
      refine hpoised.of_mine (fun other => setTask_other) (fun _ _ hother => hother)
        ⟨fun hworking => ?_, fun _ => ?_, fun _ hasked => ?_⟩
      · simp [Machine.answer] at hworking
      · simp only [Machine.answer, setTask_mine]
        exact (hpoised thread).calls (by rw [hstatus]; exact fun hbad => by cases hbad)
      · simp [Machine.answer] at hasked
    · exact hpoised
  | asked thread query =>
    simp only [step]
    split
    · next handle hstatus hleaf =>
      refine hpoised.of_mine (fun other => setTask_other) (fun _ _ hother => hother)
        ⟨fun hworking => ?_, fun _ => ?_, fun _ _ => ⟨handle, ?_⟩⟩
      · rw [setTask_mine] at hworking
        cases hworking
      · rw [setTask_mine, hleaf]
        rfl
      · rw [setTask_mine]
        exact hleaf
    · exact hpoised
  | regain thread =>
    simp only [step]
    split
    · next hholder => exact regain_poised hpoised hholder thread
    · exact hpoised
  | happen event =>
    simp only [step]
    split
    · exact hpoised
    · exact hpoised

end Machine

/-! ## What is left to do -/

/-- The turns that the loops still have at most: passes for the plugins not attempted and for the
progress of this one, and the rest of this one. -/
def turnsLeft (order rest attempted : List KeelPluginHandle) (progress : Bool) : Nat :=
  ((order.filter (· ∉ attempted)).length + progress.toNat) * (order.length + 1) + rest.length + 1

/-- What it returns, or may still return. -/
def Leaf.progresses : Leaf → Bool
  | .returned result => result.ok
  | _ => true

def Status.stepsLeft : Status → Nat
  | .working => 2
  | .calling => 1
  | _ => 0

/-- A call takes three steps: it is made, it is answered, and the lock is taken again. -/
def Leaf.stepsLeft (leaf : Leaf) (status : Status) : Nat :=
  match leaf with
  | .script _ _ calls _ => 3 * calls.length + status.stepsLeft + 1
  | _ => 0

/-- The steps of an unload, with the one that returns from it. -/
def unloadSteps : Nat := 3 * (Host.unloadCalls true).length + 3

/-- It is in the loops of `UnloadAllPluginsCommand`. -/
def Task.loops (task : Task) : Bool :=
  task.callers.head?.any Caller.unloadsAll

def Task.stepsLeft (task : Task) : Nat :=
  match task.callers with
  | .unloadAll order rest attempted progress :: _ =>
    turnsLeft order rest attempted (progress || task.leaf.progresses) * (unloadSteps + 1) +
      task.leaf.stepsLeft task.status
  | _ => 0

theorem Task.loops_iff {task : Task} : task.loops = true ↔
    ∃ order rest attempted progress below,
      task.callers = .unloadAll order rest attempted progress :: below := by
  unfold Task.loops
  cases hcallers : task.callers with
  | nil => simp
  | cons caller below => cases caller <;> simp [Caller.unloadsAll]

theorem turnsLeft_mono (order rest attempted : List KeelPluginHandle) {less more : Bool}
    (hmore : less = true → more = true) :
    turnsLeft order rest attempted less ≤ turnsLeft order rest attempted more := by
  have hle : less.toNat ≤ more.toNat := by
    cases less
    · exact Nat.zero_le _
    · rw [hmore rfl]
  unfold turnsLeft
  have := Nat.mul_le_mul_right (order.length + 1)
    (Nat.add_le_add_left hle (order.filter (· ∉ attempted)).length)
  omega

theorem unattempted_lt {order attempted : List KeelPluginHandle} {handle : KeelPluginHandle}
    (hmem : handle ∈ order) (hfresh : handle ∉ attempted) :
    (order.filter (· ∉ attempted ++ [handle])).length + 1 ≤
      (order.filter (· ∉ attempted)).length := by
  have hsplit : order.filter (· ∉ attempted ++ [handle]) =
      (order.filter (· ∉ attempted)).filter (· ≠ handle) := by
    rw [List.filter_filter]
    refine List.filter_congr fun other _ => ?_
    simp [List.mem_append, not_or, and_comm]
  rw [hsplit]
  refine Nat.succ_le_of_lt ?_
  refine List.length_filter_lt_length_iff_exists.2 ⟨handle, ?_, by simp⟩
  exact List.mem_filter.2 ⟨hmem, by simpa using hfresh⟩

/-! ## The steps of the command -/

/-- What a step of the thread does: a turn of the loops, or a step of the unload in between. -/
inductive Moves (host : Host) (before after : Task) : Prop
  | turn {result : Result} {order rest attempted : List KeelPluginHandle} {progress : Bool}
      {below : List Caller} {next : Next}
      (hleaf : before.leaf = .returned result)
      (hcallers : before.callers = .unloadAll order rest attempted progress :: below)
      (hturn : Host.UnloadTurn host order attempted progress result rest next)
      (hnext : after.leaf = next.leaf) (hbelow : after.callers = next.callers ++ below)
      (hstatus : after.status = .working)
  | unload (hleaf : before.leaf.progresses = true) (hcallers : after.callers = before.callers)
      (hless : after.leaf.stepsLeft after.status < before.leaf.stepsLeft before.status)
theorem turnsLeft_again (order attempted : List KeelPluginHandle) :
    turnsLeft order order attempted false < turnsLeft order [] attempted true := by
  unfold turnsLeft
  simp only [Bool.toNat_false, Bool.toNat_true, Nat.add_mul, List.length_nil]
  omega

theorem turnsLeft_attempt {order attempted : List KeelPluginHandle} {handle : KeelPluginHandle}
    (hmem : handle ∈ order) (hfresh : handle ∉ attempted) (rest : List KeelPluginHandle)
    (progress : Bool) :
    turnsLeft order rest (attempted ++ [handle]) true <
      turnsLeft order (handle :: rest) attempted progress := by
  have hless := Nat.mul_le_mul_right (order.length + 1) (unattempted_lt hmem hfresh)
  unfold turnsLeft
  simp only [Bool.toNat_true, Nat.add_mul, List.length_cons] at hless ⊢
  omega

theorem steps_lt {turns turns' : Nat} (hturns : turns' < turns) {steps : Nat}
    (hsteps : steps ≤ unloadSteps) (own : Nat) :
    turns' * (unloadSteps + 1) + steps < turns * (unloadSteps + 1) + own := by
  have hmul := Nat.mul_le_mul_right (unloadSteps + 1) (Nat.succ_le_of_lt hturns)
  rw [Nat.succ_mul] at hmul
  omega

theorem startUnload_steps (host : Host) (handle : KeelPluginHandle) (disable : Bool) :
    (host.startUnload handle disable).leaf.stepsLeft .working ≤ unloadSteps := by
  rcases (Host.startUnload_shape host handle disable).2 with hleaf | ⟨ran, hleaf⟩
  · rw [hleaf]
    exact Nat.zero_le _
  · rw [hleaf]
    change 3 * (Host.unloadCalls ran).length + 2 + 1 ≤ unloadSteps
    cases ran <;> decide

theorem Task.stepsLeft_eq {task : Task} {order rest attempted : List KeelPluginHandle}
    {progress : Bool} {below : List Caller}
    (hcallers : task.callers = .unloadAll order rest attempted progress :: below) :
    task.stepsLeft = turnsLeft order rest attempted (progress || task.leaf.progresses) *
      (unloadSteps + 1) + task.leaf.stepsLeft task.status := by
  unfold Task.stepsLeft
  rw [hcallers]

theorem Moves.less {host : Host} {journal : Journal} {before after : Task}
    (hmoves : Moves host before after) (hloops : before.loops = true)
    (hbulked : before.Bulked host journal) :
    after.loops = false ∨ after.stepsLeft < before.stepsLeft := by
  cases hmoves with
  | @turn result order rest attempted progress below next hleaf hcallers hturn hnext hbelow
      hstatus =>
    have hbefore := Task.stepsLeft_eq hcallers
    have hbulk := hbulked.bulk order rest attempted progress below hcallers
    rw [hleaf] at hbefore
    cases hturn with
    | again hprogress =>
      right
      rw [hbefore, Task.stepsLeft_eq hbelow, hnext]
      change turnsLeft order order attempted false * _ + 0 <
        turnsLeft order [] attempted (progress || result.ok) * _ + 0
      rw [hprogress]
      exact steps_lt (turnsLeft_again order attempted) (Nat.zero_le _) 0
    | ends =>
      left
      have hmodest := hbulked.below
      rw [hcallers, List.tail_cons] at hmodest
      unfold Task.loops
      rw [hbelow]
      change (below.head?.any Caller.unloadsAll) = false
      cases below with
      | nil => rfl
      | cons caller below => exact hmodest caller List.mem_cons_self
    | @skips handle rest hskipped =>
      right
      rw [hbefore, Task.stepsLeft_eq hbelow, hnext]
      change turnsLeft order rest attempted ((progress || result.ok) || false) * _ + 0 <
        turnsLeft order (handle :: rest) attempted (progress || result.ok) * _ + 0
      rw [Bool.or_false]
      exact steps_lt (Nat.lt_succ_self _) (Nat.zero_le _) 0
    | @attempts handle rest hattempts =>
      right
      have hnone := (Host.startUnload_shape host handle true).1
      have hcalled : after.callers = .unloadAll order rest (attempted ++ [handle])
          (progress || result.ok) :: below := by
        rw [hbelow]
        change ((host.startUnload handle true).callers ++ [_]) ++ below = _
        rw [hnone]
        rfl
      have hmem : handle ∈ order := by
        rw [← hbulk.passed]
        exact List.mem_append_right _ List.mem_cons_self
      rw [hbefore, Task.stepsLeft_eq hcalled, hnext, hstatus]
      refine steps_lt (Nat.lt_of_le_of_lt (turnsLeft_mono _ _ _ fun _ => rfl)
        (turnsLeft_attempt hmem hattempts.fresh rest _)) ?_ _
      exact startUnload_steps host handle true
  | unload hleaf hcallers hless =>
    right
    obtain ⟨order, rest, attempted, progress, below, hbefore⟩ := Task.loops_iff.1 hloops
    rw [Task.stepsLeft_eq hbefore, Task.stepsLeft_eq (hcallers.trans hbefore), hleaf, Bool.or_true]
    exact Nat.add_lt_add_of_le_of_lt
      (Nat.mul_le_mul_right _ (turnsLeft_mono _ _ _ fun _ => rfl)) hless

namespace Machine

variable {machine : Machine} {thread : Nat} {journal : Journal}

theorem loops_leaf (hloops : (machine.tasks thread).loops = true)
    (hbulked : (machine.tasks thread).Bulked machine.host journal) :
    (∃ result, (machine.tasks thread).leaf = .returned result) ∨
      ∃ wasRunning handle calls failed,
        (machine.tasks thread).leaf = .script (.unload true wasRunning) handle calls failed := by
  obtain ⟨order, rest, attempted, progress, below, hcallers⟩ := Task.loops_iff.1 hloops
  rcases (hbulked.bulk order rest attempted progress below hcallers).unloading with
    ⟨result, hleaf, -⟩ | ⟨ran, handle, calls, failed, hleaf, -⟩
  · exact Or.inl ⟨result, hleaf⟩
  · exact Or.inr ⟨ran, handle, calls, failed, hleaf⟩

theorem settle_steps (host : Host) (disable wasRunning : Bool) (handle : KeelPluginHandle)
    (failed : Bool) (answer : Answer) (call : Call) (rest : List Call) :
    ((host.settle (.unload disable wasRunning) handle failed answer call rest).2).stepsLeft
      .working ≤ 3 * rest.length + 3 := by
  rcases Host.settle_unload_leaf host disable wasRunning handle failed answer call rest with
    ⟨ok, hleaf, -⟩ | ⟨⟨failed', hleaf⟩, -⟩
  · rw [hleaf]
    exact Nat.zero_le _
  · rw [hleaf]
    exact Nat.le_refl _

theorem work_moves (hbusy : machine.Busy) (hholder : machine.holder = some thread)
    (hloops : (machine.tasks thread).loops = true)
    (hbulked : (machine.tasks thread).Bulked machine.host journal) (files : Files) :
    Moves machine.host (machine.tasks thread) ((machine.work thread files).tasks thread) := by
  have hstatus := hbusy thread hholder
  rcases loops_leaf hloops hbulked with ⟨result, hleaf⟩ | ⟨ran, handle, calls, failed, hleaf⟩
  · obtain ⟨order, rest, attempted, progress, below, hcallers⟩ := Task.loops_iff.1 hloops
    refine .turn hleaf hcallers
      (Host.resumeUnloadAll_turn machine.host order attempted progress result rest) ?_ ?_ ?_
    · simp [work, hleaf, hcallers, goOn_leaf, Host.resume]
    · simp [work, hleaf, hcallers, goOn, setTask, update_self, Host.resume]
    · simp [work, hleaf, hcallers, goOn_status]
  · cases calls with
    | nil =>
      refine .unload (by rw [hleaf]; rfl) ?_ ?_
      · simp [work, hleaf, goOn, setTask, update_self]
      · simp only [work, hleaf, goOn, setTask, update_self]
        exact Nat.succ_pos _
    | cons call rest =>
      refine .unload (by rw [hleaf]; rfl) ?_ ?_
      · simp only [work, hleaf]
        split
        · simp [release, setTask, update_self]
        · simp [goOn, setTask, update_self]
      · simp only [work, hleaf]
        split
        · simp only [release, setTask, update_self, hleaf, hstatus]
          exact Nat.lt_succ_self _
        · simp only [goOn, setTask, update_self]
          refine Nat.lt_of_le_of_lt (settle_steps _ _ _ _ _ _ _ _) ?_
          rw [hstatus]
          simp only [Leaf.stepsLeft, Status.stepsLeft, List.length_cons]
          omega

theorem answer_moves (hpoised : machine.Poised)
    (hstatus : (machine.tasks thread).status = .calling)
    (hloops : (machine.tasks thread).loops = true)
    (hbulked : (machine.tasks thread).Bulked machine.host journal) (answer : Answer) :
    Moves machine.host (machine.tasks thread)
      ((machine.step (.answer thread answer)).tasks thread) := by
  have hcalls := (hpoised thread).calls (by rw [hstatus]; exact fun hbad => by cases hbad)
  rcases loops_leaf hloops hbulked with ⟨result, hleaf⟩ | ⟨ran, handle, calls, failed, hleaf⟩
  · rw [hleaf] at hcalls
    cases hcalls
  · have hstep : (machine.step (.answer thread answer)).tasks thread =
        { machine.tasks thread with status := .answered answer } := by
      simp [step, hstatus, hleaf, Machine.answer, setTask, update_self]
    rw [hstep]
    refine .unload (by rw [hleaf]; rfl) rfl ?_
    rw [hleaf, hstatus]
    exact Nat.lt_succ_self _

theorem regain_moves (hpoised : machine.Poised) (hholder : machine.holder = none)
    {answer : Answer} (hstatus : (machine.tasks thread).status = .answered answer)
    (hloops : (machine.tasks thread).loops = true)
    (hbulked : (machine.tasks thread).Bulked machine.host journal) :
    Moves machine.host (machine.tasks thread) ((machine.step (.regain thread)).tasks thread) := by
  have hcalls := (hpoised thread).calls (by rw [hstatus]; exact fun hbad => by cases hbad)
  rcases loops_leaf hloops hbulked with ⟨result, hleaf⟩ | ⟨ran, handle, calls, failed, hleaf⟩
  · rw [hleaf] at hcalls
    cases hcalls
  · cases calls with
    | nil =>
      rw [hleaf] at hcalls
      cases hcalls
    | cons call rest =>
      refine .unload (by rw [hleaf]; rfl) ?_ ?_
      · simp [step, if_pos hholder, regain, hstatus, hleaf, goOn, setTask, update_self]
      · simp only [step, if_pos hholder, regain, hstatus, hleaf, goOn, setTask,
          update_self]
        refine Nat.lt_of_le_of_lt (settle_steps _ _ _ _ _ _ _ _) ?_
        simp only [Leaf.stepsLeft, Status.stepsLeft, List.length_cons]
        omega

theorem work_other {other : Nat} (hne : thread ≠ other) (files : Files) :
    (machine.work other files).tasks thread = machine.tasks thread := by
  unfold work
  simp only
  split
  · exact release_other hne
  · split
    · exact release_other hne
    · exact goOn_other hne
  · exact goOn_other hne
  · split
    · exact release_other hne
    · exact goOn_other hne
  · split
    · exact setTask_other hne
    · exact goOn_other hne

theorem regain_other {other : Nat} (hne : thread ≠ other) :
    (machine.regain other).tasks thread = machine.tasks thread := by
  unfold regain
  simp only
  split
  · exact goOn_other hne
  · exact goOn_other hne
  · exact goOn_other hne
  · rfl

theorem step_moves (hbusy : machine.Busy) (hpoised : machine.Poised)
    (hloops : (machine.tasks thread).loops = true)
    (hbulked : (machine.tasks thread).Bulked machine.host journal) (action : Action) :
    (machine.step action).tasks thread = machine.tasks thread ∨
      Moves machine.host (machine.tasks thread) ((machine.step action).tasks thread) := by
  cases action with
  | invoke other gameThread origin command files =>
    left
    by_cases hne : thread = other
    · subst hne
      obtain ⟨order, rest, attempted, progress, below, hcallers⟩ := Task.loops_iff.1 hloops
      rw [invoke_busy]
      simp [Task.waits, hcallers]
    · simp only [step]
      split
      · split
        · exact setTask_other hne
        · rfl
      · rfl
  | work files =>
    cases hholder : machine.holder with
    | none => exact Or.inl (by simp [step, hholder])
    | some other =>
      simp only [step, hholder]
      by_cases hne : thread = other
      · subst hne
        exact Or.inr (work_moves hbusy hholder hloops hbulked files)
      · exact Or.inl (work_other hne files)
  | answer other answer =>
    by_cases hne : thread = other
    · subst hne
      by_cases hstatus : (machine.tasks thread).status = .calling
      · exact Or.inr (answer_moves hpoised hstatus hloops hbulked answer)
      · left
        simp only [step]
        split
        · rfl
        · next hcalling _ => exact absurd hcalling hstatus
        · rfl
    · left
      simp only [step]
      split
      · rfl
      · exact setTask_other hne
      · rfl
  | asked other query =>
    left
    simp only [step]
    split
    · next handle hstatus hleaf =>
      refine setTask_other ?_
      rintro rfl
      rcases loops_leaf hloops hbulked with ⟨_, hbad⟩ | ⟨_, _, _, _, hbad⟩ <;>
        (rw [hleaf] at hbad; cases hbad)
    · rfl
  | regain other =>
    by_cases hholder : machine.holder = none
    · by_cases hne : thread = other
      · subst hne
        cases hstatus : (machine.tasks thread).status with
        | answered answer => exact Or.inr (regain_moves hpoised hholder hstatus hloops hbulked)
        | working => exact Or.inl (by simp [step, hholder, regain, hstatus])
        | calling => exact Or.inl (by simp [step, hholder, regain, hstatus])
        | asked query =>
          left
          obtain ⟨handle, hleaf⟩ := (hpoised thread).asked query hstatus
          rcases loops_leaf hloops hbulked with ⟨_, hbad⟩ | ⟨_, _, _, _, hbad⟩ <;>
            (rw [hleaf] at hbad; cases hbad)
      · left
        simp only [step, if_pos hholder]
        exact regain_other hne
    · exact Or.inl (by simp [step, if_neg hholder])
  | happen event =>
    left
    simp only [step]
    split <;> rfl

end Machine

end KeelS2.Plugins
