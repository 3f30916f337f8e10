import KeelS2.KeelHook.DirectCalls
import KeelS2.Lib.Counters

/-!
# What direct calls hold on to

The counts of the target are those of the frames that are in it, and one operation at most has it
in transition. What an operation in transition frees of the hook it frees while nobody is in a
direct call: so what a direct call has entered is there until it returns. But `ReleasePlugin` is
the one operation that does not look at `direct_calls` before it begins a transition. Where it is
kept from that, nothing of the target's hooking changes under a direct call.
-/

namespace KeelS2.KeelHook.Direct

open Lib Registered

variable {prototype : PrototypeData} {touches : Text → Bool}

/-! ## What an operation holds -/

namespace Work

/-- It has the target in transition. -/
def moving : Work → Bool
  | collecting _ | destroying _ | starting _ | settling _ none => false
  | _ => true

def releases : Work → Bool
  | releasing _ _ | retrying _ _ | waiting _ _ | settling _ _ => true
  | _ => false

/-- It is in transition where there is no direct call; of releases that is known where they heed
the calls. -/
def guarded (heeded : Prop) (work : Work) : Prop :=
  work.moving = true ∧ (work.releases = true → heeded)

end Work

/-- No plugin is released from the target while somebody is in a direct call of it. -/
def Orderly (touches : Text → Bool) (state : State) : Action → Prop
  | .go thread answers =>
    ∀ plugin owner frames,
      state.callStacks thread = .work (.starting (.releasePlugin plugin)) :: frames →
        state.target.owners plugin = some owner → state.target.holds plugin = true →
          state.target.directCalls ≠ 0 →
            state.target.keeps touches plugin owner (state.onTarget thread) answers
  | _ => True

/-- No step changes the hooking while somebody is in a direct call. -/
def Undisturbed (prototype : PrototypeData) (touches : Text → Bool) (state : State)
    (action : Action) : Prop :=
  state.target.directCalls ≠ 0 →
    (step prototype touches state action).target.hooking = state.target.hooking

/-! ## The holds of an operation -/

/-- What an operation may do to the target under one hold. -/
structure Moves (heeded : Prop) (target : Target) (work : Work) (after : Target)
    (next : Option Work) : Prop where
  directCalls : after.directCalls = target.directCalls
  active : after.active = target.active
  transition : after.transition.toNat + work.moving.toNat =
    target.transition.toNat + (next.any Work.moving).toNat
  guarded : ∀ further ∈ next, further.guarded heeded → target.directCalls = 0
  entries : target.directCalls ≠ 0 →
    after.closure = target.closure ∧ after.trampoline = target.trampoline
  hooking : heeded → target.directCalls ≠ 0 → after.hooking = target.hooking

namespace Target

variable (target : Target)

@[simp] theorem prune_directCalls : target.prune.directCalls = target.directCalls := by
  unfold prune
  split <;> rfl

@[simp] theorem prune_active : target.prune.active = target.active := by
  unfold prune
  split <;> rfl

@[simp] theorem prune_transition : target.prune.transition = target.transition := by
  unfold prune
  split <;> rfl

@[simp] theorem prune_hooking : target.prune.hooking = target.hooking := by
  unfold prune
  split <;> rfl

variable {target}

theorem entries_of_hooking {after : Target} (hhooking : after.hooking = target.hooking) :
    after.closure = target.closure ∧ after.trampoline = target.trampoline := by
  unfold hooking at hhooking
  simp only [Prod.mk.injEq] at hhooking
  exact ⟨hhooking.2.2.1, hhooking.2.2.2.1⟩

/-- What is counted in `active` is not destroyed. -/
theorem destroyPhysical_of_active (hactive : target.active ≠ 0) (quiesced : Bool) :
    target.destroyPhysical quiesced = target := by
  unfold destroyPhysical
  rw [if_pos (Or.inl hactive)]

theorem destroyPhysical_eq (target : Target) (quiesced : Bool) :
    ∃ closure trampoline, target.destroyPhysical quiesced =
      { target with closure := closure, trampoline := trampoline } := by
  unfold destroyPhysical
  split
  · exact ⟨_, _, rfl⟩
  · split <;> exact ⟨_, _, rfl⟩

theorem withClosure_eq {closed : Target} {allocated : Bool}
    (hclosed : target.withClosure allocated = some closed) :
    ∃ closure made, closed = { target with closure := closure, made := made } := by
  unfold withClosure at hclosed
  split at hclosed
  · exact ⟨_, _, (Option.some.inj hclosed).symm⟩
  · split at hclosed
    · exact ⟨_, _, (Option.some.inj hclosed).symm⟩
    · cases hclosed

theorem withHook_eq {hooked : Target} {created : Bool}
    (hhooked : target.withHook created = some hooked) :
    ∃ trampoline made, hooked = { target with trampoline := trampoline, made := made } := by
  unfold withHook at hhooked
  split at hhooked
  · exact ⟨_, _, (Option.some.inj hhooked).symm⟩
  · split at hhooked
    · exact ⟨_, _, (Option.some.inj hhooked).symm⟩
    · cases hhooked

theorem enablePhysical_eq (target : Target) (answers : Answers) :
    ∃ closure trampoline physicalEnabled made, (target.enablePhysical answers).2 =
      { target with
        closure := closure, trampoline := trampoline, physicalEnabled := physicalEnabled
        made := made } := by
  unfold enablePhysical
  split
  · exact ⟨_, _, _, _, rfl⟩
  · split
    · exact ⟨_, _, _, _, rfl⟩
    · rename_i closed hclosed
      obtain ⟨closure, made, rfl⟩ := withClosure_eq hclosed
      split
      · exact ⟨_, _, _, _, rfl⟩
      · rename_i hooked hhooked
        obtain ⟨trampoline, further, rfl⟩ := withHook_eq hhooked
        split <;> exact ⟨_, _, _, _, rfl⟩

theorem disablePhysical_eq (target : Target) (disabled : Bool) :
    ∃ physicalEnabled, (target.disablePhysical disabled).2 =
      { target with physicalEnabled := physicalEnabled } := by
  unfold disablePhysical
  split
  · exact ⟨_, rfl⟩
  · split <;> exact ⟨_, rfl⟩

theorem tryDisable_eq (target : Target) (operation : ReleaseOperation) (disabled : Bool) :
    ∃ physicalEnabled, (target.tryDisable operation disabled).2 =
      { target with physicalEnabled := physicalEnabled } := by
  unfold tryDisable
  split
  · exact target.disablePhysical_eq disabled
  · exact ⟨_, rfl⟩

end Target

namespace Moves

variable {heeded : Prop} {target after : Target} {work : Work} {next : Option Work}

/-- The target stays as it is, but for what is not looked at. -/
theorem still (hdirect : after.directCalls = target.directCalls)
    (hactive : after.active = target.active) (htransition : after.transition = target.transition)
    (hhooking : after.hooking = target.hooking) (hwork : work.moving = false)
    (hnext : next.any Work.moving = false) : Moves heeded target work after next where
  directCalls := hdirect
  active := hactive
  transition := by rw [htransition, hwork, hnext]
  guarded further hfurther hguarded := by
    rw [Option.any_eq_false] at hnext
    exact absurd hguarded.1 ((Bool.not_eq_true _).mpr (hnext further hfurther))
  entries _ := Target.entries_of_hooking hhooking
  hooking _ _ := hhooking

theorem alone (hnone : target.directCalls = 0) (hdirect : after.directCalls = target.directCalls)
    (hactive : after.active = target.active)
    (htransition : after.transition.toNat + work.moving.toNat =
      target.transition.toNat + (next.any Work.moving).toNat) :
    Moves heeded target work after next where
  directCalls := hdirect
  active := hactive
  transition := htransition
  guarded _ _ _ := hnone
  entries hsome := absurd hnone hsome
  hooking _ hsome := absurd hnone hsome

theorem release (hwork : work.moving = true)
    (hguarded : work.guarded heeded → target.directCalls = 0)
    (hreleases : ∀ further ∈ next, further.moving = true → further.releases = true)
    (hdirect : after.directCalls = target.directCalls) (hactive : after.active = target.active)
    (htransition : after.transition.toNat + work.moving.toNat =
      target.transition.toNat + (next.any Work.moving).toNat)
    (hclosure : after.closure = target.closure)
    (htrampoline : after.trampoline = target.trampoline) :
    Moves heeded target work after next where
  directCalls := hdirect
  active := hactive
  transition := htransition
  guarded further hfurther hmoving :=
    hguarded ⟨hwork, fun _ => hmoving.2 (hreleases further hfurther hmoving.1)⟩
  entries _ := ⟨hclosure, htrampoline⟩
  hooking hheeded hsome := absurd (hguarded ⟨hwork, fun _ => hheeded⟩) hsome

/-- `PruneTargetsLocked` is about `retired` only. -/
theorem prune (hmoves : Moves heeded target work after next) :
    Moves heeded target work after.prune next where
  directCalls := by rw [Target.prune_directCalls, hmoves.directCalls]
  active := by rw [Target.prune_active, hmoves.active]
  transition := by rw [Target.prune_transition, hmoves.transition]
  guarded := hmoves.guarded
  entries hsome := by
    obtain ⟨hclosure, htrampoline⟩ := Target.entries_of_hooking after.prune_hooking
    rw [hclosure, htrampoline]
    exact hmoves.entries hsome
  hooking hheeded hsome := by rw [Target.prune_hooking, hmoves.hooking hheeded hsome]

end Moves

/-! ### One lemma for each first hold -/

namespace Target

variable {heeded : Prop} {target : Target} {plugin : KeelPluginHandle}

theorem moves_refused (heeded : Prop) (target : Target) (task : Task) (result : KeelResult) :
    Moves heeded target (.starting task) target (some (.done result)) :=
  Moves.still rfl rfl rfl rfl rfl rfl

theorem not_busy (hbusy : ¬ (target.transition || decide (target.directCalls ≠ 0)) = true) :
    target.transition = false ∧ target.directCalls = 0 := by
  rw [Bool.or_eq_true, decide_eq_true_eq, not_or, not_not, Bool.not_eq_true] at hbusy
  exact hbusy

theorem releaseTarget_moves :
    Moves heeded target (.starting (.releaseTarget plugin)) (target.releaseTarget plugin).1
      (some (target.releaseTarget plugin).2) := by
  unfold releaseTarget
  split
  · exact moves_refused heeded target _ _
  · split
    · exact moves_refused heeded target _ _
    · split
      · exact moves_refused heeded target _ _
      · rename_i hbusy
        obtain ⟨-, hnone⟩ := not_busy hbusy
        split
        · exact moves_refused heeded target _ _
        · exact Moves.prune (Moves.alone hnone rfl rfl rfl)

theorem addCallback_moves {spec : Option KeelHookCallbackSpec} :
    Moves heeded target (.starting (.addCallback plugin spec)) (target.addCallback plugin spec).1
      (some (target.addCallback plugin spec).2) := by
  unfold addCallback
  split
  · exact moves_refused heeded target _ _
  · split
    · exact moves_refused heeded target _ _
    · split
      · exact moves_refused heeded target _ _
      · split
        · exact moves_refused heeded target _ _
        · rename_i hbusy
          obtain ⟨hrest, hnone⟩ := not_busy hbusy
          split
          · exact moves_refused heeded target _ _
          · refine Moves.alone hnone rfl rfl ?_
            -- the transition begins with the first callback
            cases hfirst : target.callbacks.isEmpty <;> simp [hrest, Work.done, Work.moving]

theorem removeCallback_moves {handle : KeelHookCallbackHandle} :
    Moves heeded target (.starting (.removeCallback plugin handle))
      (target.removeCallback plugin handle).1 (some (target.removeCallback plugin handle).2) := by
  unfold removeCallback
  split
  · exact moves_refused heeded target _ _
  · split
    · exact moves_refused heeded target _ _
    · split
      · exact moves_refused heeded target _ _
      · split
        · exact moves_refused heeded target _ _
        · rename_i hbusy
          obtain ⟨hrest, hnone⟩ := not_busy hbusy
          refine Moves.alone hnone rfl rfl ?_
          rw [hrest]
          split <;> rfl

theorem releasePlugin_moves {onTarget : Bool} {answers : Answers}
    (horderly : heeded → ∀ owner, target.owners plugin = some owner → target.holds plugin = true →
      target.directCalls ≠ 0 → target.keeps touches plugin owner onTarget answers) :
    Moves heeded target (.starting (.releasePlugin plugin))
      (target.releasePlugin touches plugin onTarget answers).1
      (some (target.releasePlugin touches plugin onTarget answers).2) := by
  unfold releasePlugin
  split
  · exact moves_refused heeded target _ _
  · rename_i owner howner
    split
    · exact moves_refused heeded target _ _
    · rename_i hkeeps
      split
      · exact Moves.still rfl rfl rfl rfl rfl rfl
      · rename_i hholds
        rw [Bool.not_eq_true, Bool.not_eq_false'] at hholds
        have hnone : heeded → target.directCalls = 0 := by
          intro hheeded
          by_contra hsome
          exact hkeeps (horderly hheeded owner howner hholds hsome)
        have hrest : target.transition = false := by
          rw [← Bool.not_eq_true]
          intro htransition
          exact hkeeps (Or.inr (Or.inr (Or.inl ⟨hholds, Or.inl htransition⟩)))
        refine ⟨rfl, rfl, ?_, ?_, fun _ => ⟨rfl, rfl⟩, fun _ _ => rfl⟩
        · rw [hrest]
          rfl
        · intro further hfurther hguarded
          rw [Option.mem_some_iff] at hfurther
          subst hfurther
          exact hnone (hguarded.2 rfl)

end Target

/-! ### One lemma for the others -/

namespace Target

variable {heeded : Prop} {target after : Target} {work : Work} {next : Option Work}

theorem destroyPhysical_moves (hle : target.directCalls ≤ target.active) (quiesced : Bool)
    (task : Task) :
    Moves heeded target (.destroying task) (target.destroyPhysical quiesced)
      (some (.starting task)) := by
  by_cases hnone : target.directCalls = 0
  · obtain ⟨closure, trampoline, heq⟩ := target.destroyPhysical_eq quiesced
    rw [heq]
    exact Moves.alone hnone rfl rfl rfl
  · have hactive : target.active ≠ 0 := by omega
    rw [destroyPhysical_of_active hactive]
    exact Moves.still rfl rfl rfl rfl rfl rfl

theorem settlePlugin_none_moves (plugin : KeelPluginHandle) (othersRestored : Bool) :
    Moves heeded target (.settling plugin none) (target.settlePlugin plugin none othersRestored).1
      (some (target.settlePlugin plugin none othersRestored).2) := by
  unfold settlePlugin
  split
  · exact Moves.prune (Moves.still rfl rfl rfl rfl rfl rfl)
  · exact Moves.prune (Moves.still rfl rfl rfl rfl rfl rfl)

theorem settle_eq (target : Target) (plugin : KeelPluginHandle) (operation : ReleaseOperation) :
    ∃ leases callbacks, target.settle plugin operation =
      { target with leases := leases, callbacks := callbacks, transition := false } := by
  unfold settle
  split <;> exact ⟨_, _, rfl⟩

theorem settlePlugin_some_moves (plugin : KeelPluginHandle) (operation : ReleaseOperation)
    (othersRestored : Bool) (hrest : target.transition = true)
    (hguarded : (Work.settling plugin (some operation)).guarded heeded → target.directCalls = 0) :
    Moves heeded target (.settling plugin (some operation))
      (target.settlePlugin plugin (some operation) othersRestored).1
      (some (target.settlePlugin plugin (some operation) othersRestored).2) := by
  obtain ⟨leases, callbacks, heq⟩ := target.settle_eq plugin operation
  have hsettled : ∀ owners result, Moves heeded target (.settling plugin (some operation))
      { target.settle plugin operation with owners := owners }
      (some (.collecting (.leave result))) := by
    intro owners result
    rw [heq]
    refine Moves.release rfl hguarded ?_ rfl rfl ?_ rfl rfl
    · intro further hfurther hmoving
      rw [Option.mem_some_iff] at hfurther
      subst hfurther
      cases hmoving
    · rw [hrest]
      rfl
  unfold settlePlugin
  split
  · exact (hsettled _ .ok).prune
  · exact (hsettled _ .engineFailure).prune

theorem start_moves {task : Task} {deep onTarget : Bool} {answers : Answers}
    (horderly : heeded → ∀ plugin owner, task = .releasePlugin plugin →
      target.owners plugin = some owner → target.holds plugin = true → target.directCalls ≠ 0 →
        target.keeps touches plugin owner onTarget answers)
    (hgo : target.go touches deep onTarget answers (.starting task) = some (after, next)) :
    Moves heeded target (.starting task) after next := by
  cases task with
  | releaseTarget plugin =>
    cases hgo
    exact releaseTarget_moves
  | addCallback plugin spec =>
    cases hgo
    exact addCallback_moves
  | removeCallback plugin handle =>
    cases hgo
    exact removeCallback_moves
  | releasePlugin plugin =>
    cases hgo
    exact releasePlugin_moves fun hheeded owner => horderly hheeded plugin owner rfl
  | leave result =>
    cases hgo
    exact Moves.still rfl rfl rfl rfl rfl rfl

theorem go_moves {deep onTarget : Bool} {answers : Answers}
    (hle : target.directCalls ≤ target.active)
    (hmoving : work.moving = true → target.transition = true)
    (hguarded : work.guarded heeded → target.directCalls = 0)
    (horderly : heeded → ∀ plugin owner, work = .starting (.releasePlugin plugin) →
      target.owners plugin = some owner → target.holds plugin = true → target.directCalls ≠ 0 →
        target.keeps touches plugin owner onTarget answers)
    (hgo : target.go touches deep onTarget answers work = some (after, next)) :
    Moves heeded target work after next := by
  cases work with
  | collecting task =>
    cases hgo
    have hlooked : ∀ task, (target.collect deep task).moving = false := by
      intro task
      unfold collect
      split
      · rfl
      · split <;> rfl
    exact Moves.still rfl rfl rfl rfl rfl (by rw [Option.any_some, hlooked])
  | destroying task =>
    cases hgo
    exact destroyPhysical_moves hle _ task
  | starting task =>
    refine start_moves ?_ hgo
    rintro hheeded plugin owner rfl
    exact horderly hheeded plugin owner rfl
  | enabling handle =>
    have hnone := hguarded ⟨rfl, fun h => by cases h⟩
    obtain ⟨closure, trampoline, physicalEnabled, made, heq⟩ := target.enablePhysical_eq answers
    cases hgo
    rw [heq]
    refine Moves.alone hnone rfl rfl ?_
    split <;> rfl
  | finishing =>
    have hnone := hguarded ⟨rfl, fun h => by cases h⟩
    cases hgo
    refine Moves.alone hnone rfl rfl ?_
    rw [hmoving rfl]
    rfl
  | withdrawing handle =>
    have hnone := hguarded ⟨rfl, fun h => by cases h⟩
    cases hgo
    refine Moves.alone hnone rfl rfl ?_
    rw [hmoving rfl]
    rfl
  | disabling handle wasEnabled =>
    have hnone := hguarded ⟨rfl, fun h => by cases h⟩
    obtain ⟨physicalEnabled, heq⟩ := target.disablePhysical_eq answers.disabled
    cases hgo
    rw [heq]
    refine Moves.alone hnone rfl rfl ?_
    split <;> rfl
  | restoring handle wasEnabled =>
    have hnone := hguarded ⟨rfl, fun h => by cases h⟩
    cases hgo
    refine Moves.alone hnone rfl rfl ?_
    rw [hmoving rfl]
    rfl
  | erasing handle =>
    have hnone := hguarded ⟨rfl, fun h => by cases h⟩
    cases hgo
    refine Moves.prune (Moves.alone hnone rfl rfl ?_)
    rw [hmoving rfl]
    rfl
  | releasing plugin operation =>
    obtain ⟨physicalEnabled, heq⟩ := target.tryDisable_eq operation answers.disabled
    cases hgo
    rw [heq]
    exact Moves.release rfl hguarded (by simp [Work.releases]) rfl rfl rfl rfl rfl
  | retrying plugin operation =>
    obtain ⟨physicalEnabled, heq⟩ := target.tryDisable_eq operation answers.disabled
    simp only [go] at hgo
    split at hgo
    · cases hgo
      exact Moves.release rfl hguarded (by simp [Work.releases]) rfl rfl rfl rfl rfl
    · cases hgo
      rw [heq]
      exact Moves.release rfl hguarded (by simp [Work.releases]) rfl rfl rfl rfl rfl
  | waiting plugin operation =>
    simp only [go] at hgo
    split at hgo
    · cases hgo
    · cases hgo
      exact Moves.release rfl hguarded (by simp [Work.releases]) rfl rfl rfl rfl rfl
  | settling plugin operation =>
    cases hgo
    cases operation with
    | none => exact settlePlugin_none_moves plugin _
    | some operation => exact settlePlugin_some_moves plugin operation _ (hmoving rfl) hguarded

end Target

/-! ## What every step keeps -/

/-- The frame has the target in transition. -/
def Frame.isMoving : Frame → Bool
  | work operation => operation.moving
  | _ => false

/-- What is kept of the counts, the transition and the entries. -/
structure State.Kept (heeded : Prop) (state : State) : Prop where
  direct : Counts (fun thread => (state.callStacks thread).countP Frame.isDirect)
    state.target.directCalls
  active : Counts (fun thread => (state.callStacks thread).countP Frame.isActive)
    state.target.active
  moving : Counts (fun thread => (state.callStacks thread).countP Frame.isMoving)
    state.target.transition.toNat
  guarded : ∀ thread work, .work work ∈ state.callStacks thread → work.guarded heeded →
    state.target.directCalls = 0
  entries : ∀ thread entry, .direct entry ∈ state.callStacks thread → state.target.Stands entry

/-- Nobody is in the target, or about to change it. -/
structure State.Fresh (state : State) : Prop where
  callStacks : ∀ thread, state.callStacks thread = []
  directCalls : state.target.directCalls = 0
  active : state.target.active = 0
  transition : state.target.transition = false

namespace State

variable {heeded : Prop} {state : State}

theorem Fresh.kept (hfresh : state.Fresh) : state.Kept heeded := by
  obtain ⟨hstacks, hdirect, hactive, htransition⟩ := hfresh
  have hnone : ∀ counts : Frame → Bool,
      Counts (fun thread => (state.callStacks thread).countP counts) 0 := by
    intro counts
    simp only [hstacks, List.countP_nil]
    exact counts_zero
  refine ⟨?_, ?_, ?_, ?_, ?_⟩
  · rw [hdirect]
    exact hnone _
  · rw [hactive]
    exact hnone _
  · rw [htransition]
    exact hnone _
  · intro thread work hmem
    rw [hstacks] at hmem
    cases hmem
  · intro thread entry hmem
    rw [hstacks] at hmem
    cases hmem

namespace Kept

variable {thread : Nat} {frames : List Frame} {target : Target}

theorem directCalls_le (hkept : state.Kept heeded) :
    state.target.directCalls ≤ state.target.active := by
  refine hkept.direct.mono hkept.active fun thread => List.countP_mono_left ?_
  intro frame _ hdirect
  cases frame with
  | direct entry => rfl
  | _ => cases hdirect

theorem transition_of_moving (hkept : state.Kept heeded) {work : Work}
    (hwork : .work work ∈ state.callStacks thread) (hmoving : work.moving = true) :
    state.target.transition = true := by
  have hpos : 0 < (state.callStacks thread).countP Frame.isMoving :=
    List.countP_pos_iff.mpr ⟨_, hwork, hmoving⟩
  have hle := hkept.moving.le thread
  cases htransition : state.target.transition with
  | true => rfl
  | false =>
    rw [htransition, Bool.toNat_false] at hle
    omega

theorem put (hkept : state.Kept heeded)
    (hdirect : target.directCalls + (state.callStacks thread).countP Frame.isDirect =
      state.target.directCalls + frames.countP Frame.isDirect)
    (hactive : target.active + (state.callStacks thread).countP Frame.isActive =
      state.target.active + frames.countP Frame.isActive)
    (hmoving : target.transition.toNat + (state.callStacks thread).countP Frame.isMoving =
      state.target.transition.toNat + frames.countP Frame.isMoving)
    (hguarded : ∀ work, .work work ∈ frames → work.guarded heeded → target.directCalls = 0)
    (hothers : ∀ other work, .work work ∈ state.callStacks other → work.guarded heeded →
      target.directCalls = 0)
    (hentries : ∀ entry, .direct entry ∈ frames → target.Stands entry)
    (hstand : ∀ other entry, .direct entry ∈ state.callStacks other → target.Stands entry) :
    ({ state with target := target }.setStack thread frames).Kept heeded where
  direct := hkept.direct.stack hdirect
  active := hkept.active.stack hactive
  moving := hkept.moving.stack hmoving
  guarded other work hmem := by
    rcases eq_or_ne other thread with rfl | hother
    · exact hguarded work (by simpa [setStack] using hmem)
    · exact hothers other work (by simpa [setStack, hother] using hmem)
  entries other entry hmem := by
    rcases eq_or_ne other thread with rfl | hother
    · exact hentries entry (by simpa [setStack] using hmem)
    · exact hstand other entry (by simpa [setStack, hother] using hmem)

end Kept

end State

/-! ### One lemma for each action -/

namespace State.Kept

variable {heeded : Prop} {state : State} {thread : Nat}

theorem begin (hkept : state.Kept heeded) (task : Task) :
    (state.setStack thread (.work (.collecting task) :: state.callStacks thread)).Kept heeded := by
  refine @put heeded state thread _ state.target hkept ?_ ?_ ?_ ?_ hkept.guarded ?_ hkept.entries
  · rw [List.countP_cons_of_neg (by simp [Frame.isDirect])]
  · rw [List.countP_cons_of_neg (by simp [Frame.isActive])]
  · rw [List.countP_cons_of_neg (by simp [Frame.isMoving, Work.moving])]
  · intro work hmem hguarded
    rcases List.mem_cons.mp hmem with heq | hmem
    · cases heq
      cases hguarded.1
    · exact hkept.guarded thread work hmem hguarded
  · intro entry hmem
    rcases List.mem_cons.mp hmem with heq | hmem
    · cases heq
    · exact hkept.entries thread entry hmem

theorem enter (hkept : state.Kept heeded) (answers : Answers) :
    (state.enter thread answers).Kept heeded := by
  unfold State.enter
  split
  · exact hkept
  · refine hkept.put ?_ ?_ ?_ ?_ hkept.guarded ?_ hkept.entries
    · rw [List.countP_cons_of_neg (by simp [Frame.isDirect])]
    · rw [List.countP_cons_of_pos (by rfl)]
      change state.target.active + 1 + _ = _
      omega
    · rw [List.countP_cons_of_neg (by simp [Frame.isMoving])]
    · intro work hmem
      rcases List.mem_cons.mp hmem with heq | hmem
      · cases heq
      · exact hkept.guarded thread work hmem
    · intro entry hmem
      rcases List.mem_cons.mp hmem with heq | hmem
      · cases heq
      · exact hkept.entries thread entry hmem

theorem stands_entry (target : Target) (hooks : Bool) : target.Stands (target.entry hooks) := by
  unfold Target.entry
  split
  · rename_i number hclosure
    exact (Option.filter_eq_some_iff.mp hclosure).1
  · split
    · assumption
    · trivial

theorem invoke (hkept : state.Kept heeded) {plugin : KeelPluginHandle} {hooks : Bool}
    {arguments : List KeelHookValue} {answers : Answers} {after : State}
    (hafter : state.invoke thread prototype plugin hooks arguments answers = .ok after) :
    after.Kept heeded := by
  unfold State.invoke at hafter
  split at hafter
  · cases hafter
  · split at hafter
    · cases hafter
    · rename_i entry target hcall
      cases hafter
      unfold Target.invokeScalar at hcall
      split at hcall
      · cases hcall
      · split at hcall
        · cases hcall
        · split at hcall
          · cases hcall
          · rename_i htransition
            split at hcall
            · cases hcall
            · cases hcall
              have hnobody : ∀ other work, .work work ∈ state.callStacks other →
                  ¬ work.guarded heeded := fun other work hmem hguarded =>
                htransition (hkept.transition_of_moving hmem hguarded.1)
              refine hkept.put ?_ ?_ ?_ ?_ ?_ ?_ hkept.entries
              · rw [List.countP_cons_of_pos (by rfl)]
                change state.target.directCalls + 1 + _ = _
                omega
              · rw [List.countP_cons_of_pos (by rfl)]
                change state.target.active + 1 + _ = _
                omega
              · rw [List.countP_cons_of_neg (by simp [Frame.isMoving])]
              · intro work hmem hguarded
                rcases List.mem_cons.mp hmem with heq | hmem
                · cases heq
                · exact absurd hguarded (hnobody thread work hmem)
              · exact fun other work hmem hguarded => absurd hguarded (hnobody other work hmem)
              · intro entry hmem
                rcases List.mem_cons.mp hmem with heq | hmem
                · cases heq
                  exact stands_entry state.target hooks
                · exact hkept.entries thread entry hmem

theorem leave (hkept : state.Kept heeded) : (state.leave thread).Kept heeded := by
  unfold State.leave
  split
  · rename_i entry frames hframes
    have hdirect := hkept.direct.le thread
    have hactive := hkept.active.le thread
    have hrest : ∀ frame ∈ frames, frame ∈ state.callStacks thread := fun frame hmem =>
      hframes ▸ List.mem_cons_of_mem _ hmem
    rw [hframes, List.countP_cons_of_pos (by rfl)] at hdirect hactive
    have hnone : state.target.directCalls = 0 → state.target.directCalls - 1 = 0 := by omega
    refine hkept.put ?_ ?_ ?_ ?_ ?_ ?_ hkept.entries
    · rw [hframes, List.countP_cons_of_pos (by rfl)]
      change state.target.directCalls - 1 + _ = _
      omega
    · rw [hframes, List.countP_cons_of_pos (by rfl)]
      change state.target.active - 1 + _ = _
      omega
    · rw [hframes, List.countP_cons_of_neg (by simp [Frame.isMoving])]
    · exact fun work hmem hguarded =>
        hnone (hkept.guarded thread work (hrest _ hmem) hguarded)
    · exact fun other work hmem hguarded => hnone (hkept.guarded other work hmem hguarded)
    · exact fun entry hmem => hkept.entries thread entry (hrest _ hmem)
  · rename_i pushed frames hframes
    have hactive := hkept.active.le thread
    have hrest : ∀ frame ∈ frames, frame ∈ state.callStacks thread := fun frame hmem =>
      hframes ▸ List.mem_cons_of_mem _ hmem
    rw [hframes, List.countP_cons_of_pos (by rfl)] at hactive
    refine hkept.put ?_ ?_ ?_ ?_ hkept.guarded ?_ hkept.entries
    · rw [hframes, List.countP_cons_of_neg (by simp [Frame.isDirect])]
    · rw [hframes, List.countP_cons_of_pos (by rfl)]
      change state.target.active - 1 + _ = _
      omega
    · rw [hframes, List.countP_cons_of_neg (by simp [Frame.isMoving])]
    · exact fun work hmem => hkept.guarded thread work (hrest _ hmem)
    · exact fun entry hmem => hkept.entries thread entry (hrest _ hmem)
  · exact hkept

theorem countP_next (counts : Frame → Bool) (next : Option Work) (frames : List Frame) :
    ((next.map Frame.work).toList ++ frames).countP counts =
      (next.any fun work => counts (.work work)).toNat + frames.countP counts := by
  cases next with
  | none => simp
  | some work =>
    rw [List.countP_append]
    cases hcounts : counts (.work work) <;> simp [hcounts]

/-- An operation goes on: it keeps what is kept, and where direct calls are heeded it leaves the
hooking alone. -/
theorem go (hkept : state.Kept heeded) {answers : Answers}
    (horderly : heeded → Orderly touches state (.go thread answers)) :
    (state.go thread touches answers).Kept heeded ∧
      (heeded → state.target.directCalls ≠ 0 →
        (state.go thread touches answers).target.hooking = state.target.hooking) := by
  unfold State.go
  split
  · rename_i work frames hframes
    split
    · rename_i target next hgo
      have hmem : Frame.work work ∈ state.callStacks thread := hframes ▸ List.mem_cons_self
      have hrest : ∀ frame ∈ frames, frame ∈ state.callStacks thread := fun frame hframe =>
        hframes ▸ List.mem_cons_of_mem _ hframe
      have hmoves : Moves heeded state.target work target next := by
        refine Target.go_moves hkept.directCalls_le (hkept.transition_of_moving hmem)
          (hkept.guarded thread work hmem) ?_ hgo
        rintro hheeded plugin owner rfl howner hholds hsome
        exact horderly hheeded plugin owner frames hframes howner hholds hsome
      have hstand : ∀ other entry, .direct entry ∈ state.callStacks other →
          target.Stands entry := by
        intro other entry hentry
        have hdirect : state.target.directCalls ≠ 0 := by
          have hpos : 0 < (state.callStacks other).countP Frame.isDirect :=
            List.countP_pos_iff.mpr ⟨_, hentry, rfl⟩
          have hle := hkept.direct.le other
          omega
        obtain ⟨hclosure, htrampoline⟩ := hmoves.entries hdirect
        have hstands := hkept.entries other entry hentry
        cases entry with
        | address => trivial
        | closure number => exact hclosure.trans hstands
        | trampoline number => exact htrampoline.trans hstands
      refine ⟨hkept.put ?_ ?_ ?_ ?_ ?_ ?_ hstand, hmoves.hooking⟩
      · rw [hmoves.directCalls, hframes, countP_next, List.countP_cons_of_neg
          (by simp [Frame.isDirect])]
        simp [Frame.isDirect]
      · rw [hmoves.active, hframes, countP_next, List.countP_cons_of_neg
          (by simp [Frame.isActive])]
        simp [Frame.isActive]
      · have htransition := hmoves.transition
        rw [hframes, countP_next, List.countP_cons]
        change _ + (_ + if work.moving = true then 1 else 0) =
          _ + ((next.any Work.moving).toNat + _)
        cases hmoving : work.moving <;> simp [hmoving] at htransition ⊢ <;> omega
      · intro further hfurther hguarded
        rw [hmoves.directCalls]
        rcases List.mem_append.mp hfurther with hnew | hold
        · refine hmoves.guarded further ?_ hguarded
          simpa using hnew
        · exact hkept.guarded thread further (hrest _ hold) hguarded
      · intro other further hfurther hguarded
        rw [hmoves.directCalls]
        exact hkept.guarded other further hfurther hguarded
      · intro entry hentry
        rcases List.mem_append.mp hentry with hnew | hold
        · simp at hnew
        · exact hstand thread entry (hrest _ hold)
    · exact ⟨hkept, fun _ _ => rfl⟩
  · exact ⟨hkept, fun _ _ => rfl⟩

end State.Kept

/-! ## The law -/

section Law

variable {heeded : Prop} {state : State}

theorem step_kept (hkept : state.Kept heeded) {action : Action}
    (horderly : heeded → Orderly touches state action) :
    (step prototype touches state action).Kept heeded := by
  cases action with
  | begin thread task =>
    simp only [step]
    split
    · exact hkept.begin task
    · exact hkept
  | go thread answers => exact (hkept.go horderly).1
  | invoke thread plugin hooks arguments answers =>
    simp only [step]
    split
    · cases hafter : state.invoke thread prototype plugin hooks arguments answers with
      | error result => exact hkept
      | ok after => exact hkept.invoke hafter
    · exact hkept
  | enter thread answers =>
    simp only [step]
    split
    · exact hkept.enter answers
    · exact hkept
  | leave thread => exact hkept.leave

theorem invoke_hooking {thread : Nat} {plugin : KeelPluginHandle} {hooks : Bool}
    {arguments : List KeelHookValue} {answers : Answers} {after : State}
    (hafter : state.invoke thread prototype plugin hooks arguments answers = .ok after) :
    after.target.hooking = state.target.hooking := by
  unfold State.invoke at hafter
  split at hafter
  · cases hafter
  · split at hafter
    · cases hafter
    · rename_i entry target hcall
      cases hafter
      unfold Target.invokeScalar at hcall
      split at hcall
      · cases hcall
      · split at hcall
        · cases hcall
        · split at hcall
          · cases hcall
          · split at hcall
            · cases hcall
            · cases hcall
              rfl

theorem step_undisturbed (hkept : state.Kept True) {action : Action}
    (horderly : Orderly touches state action) : Undisturbed prototype touches state action := by
  intro hsome
  cases action with
  | begin thread task =>
    simp only [step]
    split <;> rfl
  | go thread answers => exact (hkept.go fun _ => horderly).2 trivial hsome
  | invoke thread plugin hooks arguments answers =>
    simp only [step]
    split
    · cases hafter : state.invoke thread prototype plugin hooks arguments answers with
      | error result => rfl
      | ok after => exact invoke_hooking hafter
    · rfl
  | enter thread answers =>
    simp only [step]
    split
    · unfold State.enter
      split <;> rfl
    · rfl
  | leave thread =>
    simp only [step]
    unfold State.leave
    split <;> rfl

end Law

/-- What a direct call has entered is there, and `direct_calls` counts those who are in one: at the
end of each, in whatever way, it is one less. -/
structure State.Sound (state : State) : Prop where
  entries : ∀ thread entry, .direct entry ∈ state.callStacks thread → state.target.Stands entry
  counted : Counts (fun thread => (state.callStacks thread).countP Frame.isDirect)
    state.target.directCalls
  returns : ∀ thread entry frames, state.callStacks thread = .direct entry :: frames →
    (state.leave thread).target.directCalls + 1 = state.target.directCalls ∧
      (state.leave thread).callStacks = Function.update state.callStacks thread frames

theorem State.Kept.sound {heeded : Prop} {state : State} (hkept : state.Kept heeded) :
    state.Sound where
  entries := hkept.entries
  counted := hkept.direct
  returns thread entry frames hframes := by
    have hle := hkept.direct.le thread
    rw [hframes, List.countP_cons_of_pos (by rfl)] at hle
    unfold State.leave
    rw [hframes]
    refine ⟨?_, rfl⟩
    change state.target.directCalls - 1 + 1 = _
    omega

/-- Whatever comes between: what a direct call has entered stays, and the count is right. As long
as no plugin is released from the target under a direct call, nothing of the hooking changes
under one. -/
theorem direct_calls_undisturbed {state : State} (hfresh : state.Fresh) (actions : List Action) :
    (run (step prototype touches) state actions).Sound ∧
      (Heeds (step prototype touches) (Orderly touches) state actions →
        ∀ action, Orderly touches (run (step prototype touches) state actions) action →
          Undisturbed prototype touches (run (step prototype touches) state actions) action) := by
  constructor
  · have hstep : ∀ state action, State.Kept False state →
        State.Kept False (step prototype touches state action) :=
      fun _ _ hkept => step_kept hkept False.elim
    exact (run_invariant hstep hfresh.kept actions).sound
  · have hstep : ∀ state action, State.Kept True state → Orderly touches state action →
        State.Kept True (step prototype touches state action) :=
      fun _ _ hkept horderly => step_kept hkept fun _ => horderly
    intro hheeds action horderly
    exact step_undisturbed (Heeds.invariant hstep hfresh.kept hheeds) horderly

/-! ### A plugin that is released under a call -/

/-- No arguments and no result. -/
def plainPrototype : PrototypeData where
  callingConvention := callNative
  returnType := valueVoid
  arguments := []
  returnShape := ⟨none, none⟩
  argumentShapes := []
  aggregateIdentity := []
  method := false
  vafmt := false

def noAnswers : Answers where
  elsewhere := 0
  directElsewhere := 0
  quiesced := true
  allocated := true
  created := true
  activated := true
  disabled := true
  currentOwner := false
  othersBusy := false
  othersRestored := true

/-- Two plugins hold leases, and the second has a callback. -/
def twoPlugins : State where
  target :=
    { owners := fun plugin => if plugin = 1 ∨ plugin = 2 then some ⟨[], true, true⟩ else none
      leases := {1, 2}
      callbacks := [⟨1, 2, phasePre, 0, 1⟩]
      enabled := fun handle => handle = 1
      nextCallback := 2
      nextSequence := 2
      transition := false
      directCalls := 0
      active := 0
      retired := false
      closure := some 0
      trampoline := some 1
      physicalEnabled := true
      made := 2 }
  callStacks := fun _ => []

/-- The first plugin calls the target on one thread, and the second is released on another. -/
def releasedUnderCall : List Action :=
  [.invoke 0 1 false [] noAnswers, .begin 1 (.releasePlugin 2), .go 1 noAnswers, .go 1 noAnswers]

theorem twoPlugins_fresh : twoPlugins.Fresh := ⟨fun _ => rfl, rfl, rfl, rfl⟩

/-- With one direct call in progress the release takes the hook off. -/
theorem direct_call_disturbed :
    twoPlugins.Fresh ∧
      ¬ Undisturbed plainPrototype (fun _ => false)
        (run (step plainPrototype fun _ => false) twoPlugins releasedUnderCall)
        (.go 1 noAnswers) := by
  refine ⟨twoPlugins_fresh, ?_⟩
  unfold Undisturbed
  decide

/-- The second plugin removes its callback instead. -/
def removedUnderCall : List Action :=
  [.invoke 0 1 true [] noAnswers, .begin 1 (.removeCallback 2 1)]

theorem direct_calls_undisturbed_removal :
    Undisturbed plainPrototype (fun _ => false)
      (run (step plainPrototype fun _ => false) twoPlugins removedUnderCall)
      (.go 1 noAnswers) := by
  have hheeds : Heeds (step plainPrototype fun _ => false) (Orderly fun _ => false) twoPlugins
      removedUnderCall := ⟨trivial, trivial, trivial⟩
  refine (direct_calls_undisturbed twoPlugins_fresh removedUnderCall).2 hheeds _ ?_
  intro plugin owner frames hframes
  have hcollecting : [Frame.work (.collecting (.removeCallback 2 1))] =
      .work (.starting (.releasePlugin plugin)) :: frames := hframes
  cases hcollecting

end KeelS2.KeelHook.Direct
