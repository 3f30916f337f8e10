import KeelS2.KeelHook.Registry
import KeelS2.Lib.Keyed
import Mathlib.Data.List.Sort

/-!
# Releasing a plugin

`ReleasePlugin` collects, under the mutex, an operation for each target the plugin holds a lease
or a callback on, takes the hooks off without the mutex, and settles the operations under it
again. The targets it works on are in transition meanwhile, so no other operation of the service
comes between. Taking a hook off may fail, and is then tried once more.

`released` is the registry a release leaves that nothing refuses, in closed form.
-/

namespace KeelS2.KeelHook.Registered

/-! ## The service around the registry -/

/-- `physicalEnabled` is the answer of `PhysicalEnabled` for a target; `built`, whether there is a
hook or a closure. Targets are named by their handles. -/
structure Service where
  registry : Registry
  physicalEnabled : Nat → Bool
  built : Nat → Bool
  /-- `retired_targets_`. -/
  retired : List Nat

/-- The `thread_local` stacks of the calling thread. -/
structure Thread where
  callbackStack : List Nat
  targetStack : List Nat

namespace Service

def initial : Service where
  registry := Registry.initial
  physicalEnabled _ := false
  built _ := false
  retired := []

variable (service : Service)

/-- `CollectPhysical`, with `DestroyPhysical`. `quiescent` are the targets it finds no thread in. -/
def collectPhysical (thread : Thread) (quiescent : Nat → Bool) : Service :=
  if thread.targetStack ≠ [] then service
  else
    let candidates := (service.registry.targets.filter fun target =>
      !target.transition && target.callbacks.isEmpty).map TargetRecord.handle ++ service.retired
    let built := fun handle =>
      if handle ∈ candidates ∧ quiescent handle ∧ ¬ service.physicalEnabled handle then false
      else service.built handle
    { service with
      built := built
      retired := service.retired.filter fun handle =>
        service.physicalEnabled handle || built handle }

/-- `PruneTargetsLocked`. -/
def prune : Service :=
  { service with
    registry := service.registry.prune
    retired := service.retired ++
      (service.registry.targets.filter fun target => ¬ Registry.Standing target).map
        TargetRecord.handle }

@[simp] theorem collectPhysical_registry (thread : Thread) (quiescent : Nat → Bool) :
    (service.collectPhysical thread quiescent).registry = service.registry := by
  unfold collectPhysical
  split <;> rfl

@[simp] theorem collectPhysical_physicalEnabled (thread : Thread) (quiescent : Nat → Bool) :
    (service.collectPhysical thread quiescent).physicalEnabled = service.physicalEnabled := by
  unfold collectPhysical
  split <;> rfl

@[simp] theorem prune_registry : service.prune.registry = service.registry.prune := rfl

end Service

/-! ## ReleasePlugin -/

section Release

variable (equalPath : Text → Text → Bool) (registry : Registry) (plugin : KeelPluginHandle)

/-- `TargetTouchesModule`. -/
def touches (target : TargetRecord) (path : Text) : Bool :=
  equalPath target.modulePath path ||
    (!target.storageModulePath.isEmpty && equalPath target.storageModulePath path) ||
    target.instanceModulePath.any (equalPath · path)

/-- `owned_callbacks`. -/
def ownedCallbacks (target : TargetRecord) : List Nat :=
  target.callbacks.filter fun callback => registry.owner callback = plugin

/-- `other_lease || other_callback`. -/
def Shared (target : TargetRecord) : Prop :=
  (∃ lease ∈ target.leases, lease ≠ plugin) ∨
    ∃ callback ∈ target.callbacks, registry.owner callback ≠ plugin

instance (target : TargetRecord) : Decidable (Shared registry plugin target) :=
  inferInstanceAs (Decidable ((∃ lease ∈ target.leases, lease ≠ plugin) ∨
    ∃ callback ∈ target.callbacks, registry.owner callback ≠ plugin))

structure ReleaseOperation where
  target : Nat
  callbacks : List Nat
  leased : Bool
  disable : Bool
  restored : Bool

def releaseOperation (target : TargetRecord) : ReleaseOperation where
  target := target.handle
  callbacks := ownedCallbacks registry plugin target
  leased := plugin ∈ target.leases
  disable := target.callbacks.length - (ownedCallbacks registry plugin target).length = 0 ∧
    target.callbacks ≠ []
  restored := true

/-- The loop that collects the operations, or finds a target the plugin cannot be released
from. -/
def collectOperations (path : Text) (thread : Thread) :
    List TargetRecord → Option (List ReleaseOperation)
  | [] => some []
  | target :: targets =>
    if touches equalPath target path ∧ Shared registry plugin target then none
    else if plugin ∉ target.leases ∧ ownedCallbacks registry plugin target = [] then
      collectOperations path thread targets
    else if target.transition ∨ target.handle ∈ thread.targetStack then none
    else (collectOperations path thread targets).map
      (releaseOperation registry plugin target :: ·)

/-- The rest of the first section, for one operation. -/
def mark (registry : Registry) (operation : ReleaseOperation) : Registry :=
  { registry.modifyTarget operation.target fun target => { target with transition := true } with
    enabled := fun callback =>
      if callback ∈ operation.callbacks then false else registry.enabled callback }

def begin (owner : OwnerState) (operations : List ReleaseOperation) : Registry :=
  operations.foldl mark
    { registry with
      owners := Function.update registry.owners plugin (some { owner with accepting := false }) }

/-- Whether the two attempts at a hook that is enabled take it off. -/
structure Attempts where
  first : Bool
  second : Bool

/-- `DisablePhysical` with the answer of the hook. -/
def disablePhysical (enabled answer : Bool) : Bool := !enabled || answer

/-- What an operation does between the two sections. A target's hook is its own. -/
def disable (physicalEnabled : Nat → Bool) (attempts : Nat → Attempts)
    (operation : ReleaseOperation) : ReleaseOperation :=
  if operation.disable then
    { operation with
      restored :=
        disablePhysical (physicalEnabled operation.target) (attempts operation.target).first ||
        disablePhysical (physicalEnabled operation.target) (attempts operation.target).second }
  else operation

/-- The second section, for the target of one operation. -/
def settleTarget (operation : ReleaseOperation) (target : TargetRecord) : TargetRecord :=
  if operation.restored then
    { target with
      leases := if operation.leased then target.leases.erase plugin else target.leases
      bindings := if operation.leased then target.bindings.erase plugin else target.bindings
      callbacks := target.callbacks.filter (· ∉ operation.callbacks)
      transition := false }
  else { target with transition := false }

def settle (registry : Registry) (operation : ReleaseOperation) : Registry :=
  { registry.modifyTarget operation.target (settleTarget plugin operation) with
    callbacks :=
      if operation.restored then registry.callbacks \ operation.callbacks.toFinset
      else registry.callbacks }

/-- `ReleasePlugin`. `quiescent` is asked before and after. -/
def releasePlugin (thread : Thread) (quiescent : Bool → Nat → Bool) (attempts : Nat → Attempts)
    (service : Service) : KeelResult × Service :=
  let service := service.collectPhysical thread (quiescent false)
  match service.registry.owners plugin with
  | none => (.ok, service)
  | some owner =>
    if thread.callbackStack.any (service.registry.owner · = plugin) then (.busy, service)
    else
      match collectOperations equalPath service.registry plugin owner.path thread
          service.registry.targets with
      | none => (.busy, service)
      | some collected =>
        let sorted := collected.mergeSort fun left right => left.target ≤ right.target
        let begun := begin service.registry plugin owner sorted
        let operations := sorted.map (disable service.physicalEnabled attempts)
        let restored := operations.all ReleaseOperation.restored
        let settled := operations.foldl (settle plugin) begun
        let service : Service :=
          { service with
            registry :=
              { settled with
                owners :=
                  if restored then Function.update settled.owners plugin none
                  else settled.owners }
            physicalEnabled := fun handle =>
              if operations.any fun operation =>
                  operation.target = handle ∧ operation.disable ∧ operation.restored then false
              else service.physicalEnabled handle }
        (if restored then .ok else .engineFailure,
          service.prune.collectPhysical thread (quiescent true))

end Release

/-! ## The registry after a release -/

section Law

variable (equalPath : Text → Text → Bool) (registry : Registry) (plugin : KeelPluginHandle)
variable (physicalEnabled : Nat → Bool) (attempts : Nat → Attempts)

/-- The plugin has a lease or a callback on the target. -/
def Holds (target : TargetRecord) : Prop :=
  plugin ∈ target.leases ∨ ownedCallbacks registry plugin target ≠ []

instance (target : TargetRecord) : Decidable (Holds registry plugin target) :=
  inferInstanceAs (Decidable (plugin ∈ target.leases ∨ ownedCallbacks registry plugin target ≠ []))

/-- All the callbacks of the target are the plugin's, and its hook stays on. -/
def Unrestored (target : TargetRecord) : Prop :=
  target.callbacks ≠ [] ∧ (∀ callback ∈ target.callbacks, registry.owner callback = plugin) ∧
    physicalEnabled target.handle = true ∧ (attempts target.handle).first = false ∧
      (attempts target.handle).second = false

instance (target : TargetRecord) :
    Decidable (Unrestored registry plugin physicalEnabled attempts target) :=
  inferInstanceAs (Decidable (target.callbacks ≠ [] ∧
    (∀ callback ∈ target.callbacks, registry.owner callback = plugin) ∧
    physicalEnabled target.handle = true ∧ (attempts target.handle).first = false ∧
      (attempts target.handle).second = false))

/-- Nothing on the target is in the way of the release. -/
def Clear (path : Text) (thread : Thread) (target : TargetRecord) : Prop :=
  ¬ (touches equalPath target path = true ∧ Shared registry plugin target) ∧
    (Holds registry plugin target →
      target.transition = false ∧ target.handle ∉ thread.targetStack)

variable {target : TargetRecord} {path : Text} {thread : Thread}
  {operations sorted : List ReleaseOperation}

theorem collectOperations_eq_some {targets : List TargetRecord} :
    collectOperations equalPath registry plugin path thread targets = some operations ↔
      (∀ target ∈ targets, Clear equalPath registry plugin path thread target) ∧
        operations = (targets.filter fun target => Holds registry plugin target).map
          (releaseOperation registry plugin) := by
  induction targets generalizing operations with
  | nil =>
    constructor
    · intro h
      exact ⟨fun _ hmem => absurd hmem List.not_mem_nil, (Option.some.inj h).symm⟩
    · rintro ⟨-, rfl⟩
      rfl
  | cons target targets ih =>
    have hholds : Holds registry plugin target ↔
        ¬ (plugin ∉ target.leases ∧ ownedCallbacks registry plugin target = []) := by
      unfold Holds
      tauto
    rw [List.forall_mem_cons]
    unfold collectOperations
    split
    · rename_i hshared
      constructor
      · intro h
        cases h
      · rintro ⟨⟨hclear, -⟩, -⟩
        exact absurd hshared hclear.1
    · rename_i hshared
      split
      · rename_i hnone
        have hnot : ¬ Holds registry plugin target := fun h => hholds.mp h hnone
        rw [ih, List.filter_cons_of_neg (by simpa using hnot)]
        exact ⟨fun h => ⟨⟨⟨hshared, fun hh => absurd hh hnot⟩, h.1⟩, h.2⟩, fun h => ⟨h.1.2, h.2⟩⟩
      · rename_i hsome
        have hheld : Holds registry plugin target := hholds.mpr hsome
        split
        · rename_i hbusy
          constructor
          · intro h
            cases h
          · rintro ⟨⟨hclear, -⟩, -⟩
            obtain ⟨htransition, hstack⟩ := hclear.2 hheld
            rcases hbusy with hbusy | hbusy
            · rw [htransition] at hbusy
              cases hbusy
            · exact absurd hbusy hstack
        · rename_i hbusy
          rw [not_or, Bool.not_eq_true] at hbusy
          rw [List.filter_cons_of_pos (by simpa using hheld), List.map_cons]
          constructor
          · intro h
            obtain ⟨rest, hrest, rfl⟩ := Option.map_eq_some_iff.mp h
            obtain ⟨hclear, rfl⟩ := ih.mp hrest
            exact ⟨⟨⟨hshared, fun _ => hbusy⟩, hclear⟩, rfl⟩
          · rintro ⟨⟨-, hclear⟩, rfl⟩
            rw [ih.mpr ⟨hclear, rfl⟩]
            rfl

/-! ### The two sections -/

/-- What a series of operations makes of a target. -/
def changed (change : ReleaseOperation → TargetRecord → TargetRecord)
    (operations : List ReleaseOperation) (target : TargetRecord) : TargetRecord :=
  operations.foldl
    (fun target operation =>
      if target.handle = operation.target then change operation target else target) target

@[simp] theorem changed_nil (change : ReleaseOperation → TargetRecord → TargetRecord) :
    changed change [] = id := rfl

theorem changed_of_notMem {change : ReleaseOperation → TargetRecord → TargetRecord}
    (h : target.handle ∉ operations.map ReleaseOperation.target) :
    changed change operations target = target :=
  Lib.foldl_change_of_notMem h

theorem changed_of_mem {change : ReleaseOperation → TargetRecord → TargetRecord}
    (hhandle : ∀ operation target, (change operation target).handle = target.handle)
    (hdistinct : (operations.map ReleaseOperation.target).Nodup) {operation : ReleaseOperation}
    (hmem : operation ∈ operations) (h : target.handle = operation.target) :
    changed change operations target = change operation target :=
  Lib.foldl_change_of_mem hhandle hdistinct hmem h

def markTarget (_ : ReleaseOperation) (target : TargetRecord) : TargetRecord :=
  { target with transition := true }

theorem markTarget_handle (operation : ReleaseOperation) (target : TargetRecord) :
    (markTarget operation target).handle = target.handle := rfl

theorem settleTarget_handle (operation : ReleaseOperation) (target : TargetRecord) :
    (settleTarget plugin operation target).handle = target.handle := by
  unfold settleTarget
  split <;> rfl

theorem foldl_mark (operations : List ReleaseOperation) :
    operations.foldl mark registry =
      { registry with
        targets := registry.targets.map (changed markTarget operations)
        enabled := fun callback =>
          if ∃ operation ∈ operations, callback ∈ operation.callbacks then false
          else registry.enabled callback } := by
  induction operations generalizing registry with
  | nil => simp
  | cons operation operations ih =>
    rw [List.foldl_cons, ih]
    simp only [mark, Registry.modifyTarget, List.map_map]
    refine congrArg₂ (fun targets enabled =>
      { registry with targets := targets, enabled := enabled }) rfl ?_
    funext callback
    simp only [List.exists_mem_cons_iff]
    by_cases hrest : ∃ operation ∈ operations, callback ∈ operation.callbacks
    · rw [if_pos hrest, if_pos (Or.inr hrest)]
    · by_cases hfirst : callback ∈ operation.callbacks
      · rw [if_neg hrest, if_pos hfirst, if_pos (Or.inl hfirst)]
      · rw [if_neg hrest, if_neg hfirst, if_neg (not_or_intro hfirst hrest)]

theorem foldl_settle (operations : List ReleaseOperation) :
    operations.foldl (settle plugin) registry =
      { registry with
        targets := registry.targets.map (changed (settleTarget plugin) operations)
        callbacks := registry.callbacks.filter fun callback =>
          ∀ operation ∈ operations, operation.restored = true →
            callback ∉ operation.callbacks } := by
  induction operations generalizing registry with
  | nil => simp
  | cons operation operations ih =>
    rw [List.foldl_cons, ih]
    simp only [settle, Registry.modifyTarget, List.map_map]
    refine congrArg₂ (fun targets callbacks =>
      { registry with targets := targets, callbacks := callbacks }) rfl ?_
    ext callback
    by_cases hrestored : operation.restored = true
    · simp [hrestored, and_assoc]
    · simp [hrestored]

/-! ### One operation -/

theorem mem_ownedCallbacks {callback : Nat} :
    callback ∈ ownedCallbacks registry plugin target ↔
      callback ∈ target.callbacks ∧ registry.owner callback = plugin := by
  unfold ownedCallbacks
  rw [List.mem_filter, decide_eq_true_iff]

theorem holds_of_unrestored (h : Unrestored registry plugin physicalEnabled attempts target) :
    Holds registry plugin target := by
  obtain ⟨hne, howner, -⟩ := h
  obtain ⟨callback, hcallback⟩ := List.exists_mem_of_ne_nil _ hne
  exact Or.inr (List.ne_nil_of_mem
    ((mem_ownedCallbacks registry plugin).mpr ⟨hcallback, howner callback hcallback⟩))

theorem releaseOperation_disable :
    (releaseOperation registry plugin target).disable = true ↔
      target.callbacks ≠ [] ∧ ∀ callback ∈ target.callbacks, registry.owner callback = plugin := by
  have hle : (ownedCallbacks registry plugin target).length ≤ target.callbacks.length :=
    List.length_filter_le _ _
  have hall : (ownedCallbacks registry plugin target).length = target.callbacks.length ↔
      ∀ callback ∈ target.callbacks, registry.owner callback = plugin := by
    unfold ownedCallbacks
    rw [List.length_filter_eq_length_iff]
    simp
  unfold releaseOperation
  rw [decide_eq_true_iff, ← hall]
  constructor
  · rintro ⟨hlength, hne⟩
    exact ⟨hne, by omega⟩
  · rintro ⟨hne, hlength⟩
    exact ⟨by omega, hne⟩

/-- The operation of a target as it comes to the second section. -/
def finished (target : TargetRecord) : ReleaseOperation :=
  disable physicalEnabled attempts (releaseOperation registry plugin target)

@[simp] theorem finished_target (target : TargetRecord) :
    (finished registry plugin physicalEnabled attempts target).target = target.handle := by
  unfold finished disable
  split <;> rfl

@[simp] theorem finished_callbacks (target : TargetRecord) :
    (finished registry plugin physicalEnabled attempts target).callbacks =
      ownedCallbacks registry plugin target := by
  unfold finished disable
  split <;> rfl

@[simp] theorem finished_leased (target : TargetRecord) :
    (finished registry plugin physicalEnabled attempts target).leased =
      decide (plugin ∈ target.leases) := by
  unfold finished disable
  split <;> rfl

theorem finished_restored :
    (finished registry plugin physicalEnabled attempts target).restored = true ↔
      ¬ Unrestored registry plugin physicalEnabled attempts target := by
  unfold finished disable
  split
  · rename_i hdisable
    obtain ⟨hne, howner⟩ := (releaseOperation_disable registry plugin).mp hdisable
    show (disablePhysical (physicalEnabled target.handle) (attempts target.handle).first ||
      disablePhysical (physicalEnabled target.handle) (attempts target.handle).second) = true ↔ _
    have hunrestored : Unrestored registry plugin physicalEnabled attempts target ↔
        physicalEnabled target.handle = true ∧ (attempts target.handle).first = false ∧
          (attempts target.handle).second = false :=
      ⟨fun h => h.2.2, fun h => ⟨hne, howner, h⟩⟩
    rw [hunrestored]
    unfold disablePhysical
    cases physicalEnabled target.handle <;> cases (attempts target.handle).first <;>
      cases (attempts target.handle).second <;> simp
  · rename_i hdisable
    refine iff_of_true rfl fun hunrestored => hdisable ?_
    exact (releaseOperation_disable registry plugin).mpr ⟨hunrestored.1, hunrestored.2.1⟩

/-! ### The closed form -/

/-- A target that was released. -/
def withoutPlugin (target : TargetRecord) : TargetRecord :=
  { target with
    leases := target.leases.erase plugin
    bindings :=
      if plugin ∈ target.leases then target.bindings.erase plugin else target.bindings
    callbacks := target.callbacks.filter fun callback => registry.owner callback ≠ plugin
    transition := false }

def releasedTarget (target : TargetRecord) : TargetRecord :=
  if Holds registry plugin target ∧
      ¬ Unrestored registry plugin physicalEnabled attempts target then
    withoutPlugin registry plugin target
  else target

/-- The registry after a release that was not refused. -/
def released (owner : OwnerState) : Registry :=
  { registry with
    owners :=
      if ∃ target ∈ registry.targets,
          Unrestored registry plugin physicalEnabled attempts target then
        Function.update registry.owners plugin (some { owner with accepting := false })
      else Function.update registry.owners plugin none
    targets := (registry.targets.map
      (releasedTarget registry plugin physicalEnabled attempts)).filter
        fun target => Registry.Standing target
    enabled := fun callback =>
      if ∃ target ∈ registry.targets, callback ∈ ownedCallbacks registry plugin target then false
      else registry.enabled callback
    callbacks := registry.callbacks.filter fun callback =>
      ∀ target ∈ registry.targets,
        ¬ Unrestored registry plugin physicalEnabled attempts target →
          callback ∉ ownedCallbacks registry plugin target }

theorem settleTarget_finished (hclear : Clear equalPath registry plugin path thread target)
    (hholds : Holds registry plugin target) :
    settleTarget plugin (finished registry plugin physicalEnabled attempts target)
        (markTarget (finished registry plugin physicalEnabled attempts target) target) =
      releasedTarget registry plugin physicalEnabled attempts target := by
  unfold settleTarget
  by_cases hunrestored : Unrestored registry plugin physicalEnabled attempts target
  · have hreleased : releasedTarget registry plugin physicalEnabled attempts target = target :=
      if_neg fun h => h.2 hunrestored
    rw [hreleased, if_neg fun h =>
      (finished_restored registry plugin physicalEnabled attempts).mp h hunrestored]
    show { target with transition := false } = target
    rw [← (hclear.2 hholds).1]
  · have hreleased : releasedTarget registry plugin physicalEnabled attempts target =
        withoutPlugin registry plugin target := if_pos ⟨hholds, hunrestored⟩
    rw [hreleased,
      if_pos ((finished_restored registry plugin physicalEnabled attempts).mpr hunrestored)]
    have hcallbacks : target.callbacks.filter (· ∉ ownedCallbacks registry plugin target) =
        target.callbacks.filter fun callback => registry.owner callback ≠ plugin := by
      refine List.filter_congr fun callback hcallback => ?_
      simp [mem_ownedCallbacks, hcallback]
    have hleases : (if plugin ∈ target.leases then target.leases.erase plugin
        else target.leases) = target.leases.erase plugin := by
      split
      · rfl
      · rename_i hnot
        exact (Finset.erase_eq_of_notMem hnot).symm
    simp only [finished_callbacks, finished_leased, decide_eq_true_iff, withoutPlugin, markTarget,
      hcallbacks, hleases]

/-- Sorting the operations changes nothing, since each has its own target. -/
theorem changed_operations (hdistinct : (registry.targets.map TargetRecord.handle).Nodup)
    (hclear : ∀ target ∈ registry.targets, Clear equalPath registry plugin path thread target)
    (hsorted : sorted.Perm ((registry.targets.filter fun target => Holds registry plugin target).map
      (releaseOperation registry plugin)))
    (htarget : target ∈ registry.targets) :
    changed (settleTarget plugin) (sorted.map (disable physicalEnabled attempts))
        (changed markTarget sorted target) =
      releasedTarget registry plugin physicalEnabled attempts target := by
  have hoperations : (sorted.map (disable physicalEnabled attempts)).Perm
      ((registry.targets.filter fun target => Holds registry plugin target).map
        (finished registry plugin physicalEnabled attempts)) := by
    have hmap := hsorted.map (disable physicalEnabled attempts)
    rwa [List.map_map] at hmap
  have hkeys : (((registry.targets.filter fun target => Holds registry plugin target).map
      TargetRecord.handle)).Nodup := hdistinct.sublist (List.filter_sublist.map _)
  have hfirst : (sorted.map ReleaseOperation.target).Nodup := by
    rw [(hsorted.map ReleaseOperation.target).nodup_iff, List.map_map]
    exact hkeys
  have hsecond : ((sorted.map (disable physicalEnabled attempts)).map
      ReleaseOperation.target).Nodup := by
    rw [(hoperations.map ReleaseOperation.target).nodup_iff, List.map_map]
    convert hkeys using 2
    funext target
    exact finished_target registry plugin physicalEnabled attempts target
  by_cases hholds : Holds registry plugin target
  · have hmem : target ∈ registry.targets.filter fun target => Holds registry plugin target :=
      List.mem_filter.mpr ⟨htarget, decide_eq_true hholds⟩
    have hmark : changed markTarget sorted target =
        markTarget (releaseOperation registry plugin target) target :=
      changed_of_mem markTarget_handle hfirst
        (hsorted.mem_iff.mpr (List.mem_map_of_mem hmem)) rfl
    have hsettle : changed (settleTarget plugin) (sorted.map (disable physicalEnabled attempts))
        (markTarget (releaseOperation registry plugin target) target) =
        settleTarget plugin (finished registry plugin physicalEnabled attempts target)
          (markTarget (releaseOperation registry plugin target) target) :=
      changed_of_mem (settleTarget_handle plugin) hsecond
        (hoperations.mem_iff.mpr (List.mem_map_of_mem hmem))
        (finished_target registry plugin physicalEnabled attempts target).symm
    rw [hmark, hsettle]
    exact settleTarget_finished equalPath registry plugin physicalEnabled attempts
      (hclear target htarget) hholds
  · have hnot : target.handle ∉ (registry.targets.filter fun target =>
        Holds registry plugin target).map TargetRecord.handle := by
      intro hmem
      obtain ⟨other, hother, hhandle⟩ := List.mem_map.mp hmem
      obtain ⟨hin, hheld⟩ := List.mem_filter.mp hother
      obtain rfl := List.inj_on_of_nodup_map hdistinct hin htarget hhandle
      exact hholds (of_decide_eq_true hheld)
    have hmark : changed markTarget sorted target = target := by
      refine changed_of_notMem ?_
      rw [(hsorted.map ReleaseOperation.target).mem_iff, List.map_map]
      exact hnot
    have hsettle : changed (settleTarget plugin) (sorted.map (disable physicalEnabled attempts))
        target = target := by
      refine changed_of_notMem ?_
      rw [(hoperations.map ReleaseOperation.target).mem_iff, List.map_map]
      convert hnot using 3
      funext target
      exact finished_target registry plugin physicalEnabled attempts target
    rw [hmark, hsettle]
    exact (if_neg fun h => hholds h.1).symm

theorem settled_eq (hdistinct : (registry.targets.map TargetRecord.handle).Nodup)
    {owner : OwnerState}
    (hclear : ∀ target ∈ registry.targets, Clear equalPath registry plugin path thread target)
    (hsorted : sorted.Perm ((registry.targets.filter fun target => Holds registry plugin target).map
      (releaseOperation registry plugin))) :
    (sorted.map (disable physicalEnabled attempts)).foldl (settle plugin)
        (begin registry plugin owner sorted) =
      { registry with
        owners := Function.update registry.owners plugin (some { owner with accepting := false })
        targets := registry.targets.map (releasedTarget registry plugin physicalEnabled attempts)
        enabled := (released registry plugin physicalEnabled attempts owner).enabled
        callbacks := (released registry plugin physicalEnabled attempts owner).callbacks } := by
  have hoperation : ∀ {operation : ReleaseOperation}, operation ∈ sorted ↔
      ∃ target ∈ registry.targets, Holds registry plugin target ∧
        releaseOperation registry plugin target = operation := by
    intro operation
    simp only [hsorted.mem_iff, List.mem_map, List.mem_filter, decide_eq_true_iff, and_assoc]
  have hempty : ∀ {target : TargetRecord}, ¬ Holds registry plugin target →
      ∀ callback, callback ∉ ownedCallbacks registry plugin target := by
    intro target hnot callback hmem
    exact hnot (Or.inr (List.ne_nil_of_mem hmem))
  have htargets : ((registry.targets.map (changed markTarget sorted)).map
      (changed (settleTarget plugin) (sorted.map (disable physicalEnabled attempts)))) =
      registry.targets.map (releasedTarget registry plugin physicalEnabled attempts) := by
    rw [List.map_map]
    exact List.map_congr_left fun target htarget => changed_operations equalPath registry plugin
      physicalEnabled attempts hdistinct hclear hsorted htarget
  have henabled : (fun callback =>
      if ∃ operation ∈ sorted, callback ∈ operation.callbacks then false
      else registry.enabled callback) =
      (released registry plugin physicalEnabled attempts owner).enabled := by
    funext callback
    refine if_congr ?_ rfl rfl
    constructor
    · rintro ⟨operation, hmem, hcallback⟩
      obtain ⟨target, htarget, -, rfl⟩ := hoperation.mp hmem
      exact ⟨target, htarget, hcallback⟩
    · rintro ⟨target, htarget, hcallback⟩
      exact ⟨_, hoperation.mpr ⟨target, htarget, Or.inr (List.ne_nil_of_mem hcallback), rfl⟩,
        hcallback⟩
  have hcallbacks : (registry.callbacks.filter fun callback =>
      ∀ operation ∈ sorted.map (disable physicalEnabled attempts),
        operation.restored = true → callback ∉ operation.callbacks) =
      (released registry plugin physicalEnabled attempts owner).callbacks := by
    refine Finset.filter_congr fun callback _ => ?_
    constructor
    · intro h target htarget hunrestored
      by_cases hholds : Holds registry plugin target
      · have hfinished := h _ (List.mem_map_of_mem (hoperation.mpr ⟨target, htarget, hholds, rfl⟩))
          ((finished_restored registry plugin physicalEnabled attempts).mpr hunrestored)
        rwa [← finished_callbacks registry plugin physicalEnabled attempts target]
      · exact hempty hholds callback
    · intro h operation hmem hrestored
      obtain ⟨before, hbefore, rfl⟩ := List.mem_map.mp hmem
      obtain ⟨target, htarget, -, rfl⟩ := hoperation.mp hbefore
      have hunrestored := (finished_restored registry plugin physicalEnabled attempts).mp hrestored
      have howned := h target htarget hunrestored
      rwa [← finished_callbacks registry plugin physicalEnabled attempts target] at howned
  rw [begin, foldl_mark, foldl_settle]
  simp only [htargets, henabled, hcallbacks]

theorem all_restored
    (hsorted : sorted.Perm ((registry.targets.filter fun target => Holds registry plugin target).map
      (releaseOperation registry plugin))) :
    (sorted.map (disable physicalEnabled attempts)).all ReleaseOperation.restored = true ↔
      ¬ ∃ target ∈ registry.targets,
        Unrestored registry plugin physicalEnabled attempts target := by
  rw [List.all_eq_true]
  constructor
  · rintro h ⟨target, htarget, hunrestored⟩
    have hholds := holds_of_unrestored registry plugin physicalEnabled attempts hunrestored
    have hmem : releaseOperation registry plugin target ∈ sorted := hsorted.mem_iff.mpr
      (List.mem_map_of_mem (List.mem_filter.mpr ⟨htarget, decide_eq_true hholds⟩))
    exact (finished_restored registry plugin physicalEnabled attempts).mp
      (h _ (List.mem_map_of_mem hmem)) hunrestored
  · intro h operation hmem
    obtain ⟨before, hbefore, rfl⟩ := List.mem_map.mp hmem
    obtain ⟨target, htarget, rfl⟩ := List.mem_map.mp (hsorted.mem_iff.mp hbefore)
    exact (finished_restored registry plugin physicalEnabled attempts).mpr fun hunrestored =>
      h ⟨target, List.mem_of_mem_filter htarget, hunrestored⟩

theorem releasePlugin_of_clear (service : Service) (thread : Thread)
    (quiescent : Bool → Nat → Bool)
    (hdistinct : (service.registry.targets.map TargetRecord.handle).Nodup)
    {owner : OwnerState} (howner : service.registry.owners plugin = some owner)
    (hcurrent : ∀ callback ∈ thread.callbackStack, service.registry.owner callback ≠ plugin)
    (hclear : ∀ target ∈ service.registry.targets,
      Clear equalPath service.registry plugin owner.path thread target) :
    (releasePlugin equalPath plugin thread quiescent attempts service).1 =
        (if ∃ target ∈ service.registry.targets,
            Unrestored service.registry plugin service.physicalEnabled attempts target then
          .engineFailure
        else .ok) ∧
      (releasePlugin equalPath plugin thread quiescent attempts service).2.registry =
        released service.registry plugin service.physicalEnabled attempts owner := by
  have hstack : ¬ (thread.callbackStack.any
      fun callback => service.registry.owner callback = plugin) = true := by
    rw [List.any_eq_true]
    rintro ⟨callback, hmem, heq⟩
    exact hcurrent callback hmem (of_decide_eq_true heq)
  have hcollected := (collectOperations_eq_some equalPath service.registry plugin).mpr ⟨hclear, rfl⟩
  have hsorted := List.mergeSort_perm
    ((service.registry.targets.filter fun target => Holds service.registry plugin target).map
      (releaseOperation service.registry plugin))
    fun left right => left.target ≤ right.target
  unfold releasePlugin
  simp only [Service.collectPhysical_registry, Service.collectPhysical_physicalEnabled, howner,
    hstack, hcollected]
  rw [settled_eq equalPath service.registry plugin service.physicalEnabled attempts hdistinct
    hclear hsorted]
  by_cases hunrestored : ∃ target ∈ service.registry.targets,
      Unrestored service.registry plugin service.physicalEnabled attempts target
  · have hall := mt (all_restored service.registry plugin service.physicalEnabled attempts
      hsorted).mp (not_not_intro hunrestored)
    simp [hunrestored, hall, released, Registry.prune]
  · have hall := (all_restored service.registry plugin service.physicalEnabled attempts
      hsorted).mpr hunrestored
    simp [hunrestored, hall, released, Registry.prune]

theorem releasePlugin_cases (service : Service) (thread : Thread) (quiescent : Bool → Nat → Bool)
    (hdistinct : (service.registry.targets.map TargetRecord.handle).Nodup) :
    (service.registry.owners plugin = none ∧
      (releasePlugin equalPath plugin thread quiescent attempts service).1 = .ok ∧
      (releasePlugin equalPath plugin thread quiescent attempts service).2.registry =
        service.registry) ∨
    ((releasePlugin equalPath plugin thread quiescent attempts service).1 = .busy ∧
      (releasePlugin equalPath plugin thread quiescent attempts service).2.registry =
        service.registry) ∨
    ∃ owner, service.registry.owners plugin = some owner ∧
      (∀ callback ∈ thread.callbackStack, service.registry.owner callback ≠ plugin) ∧
      (∀ target ∈ service.registry.targets,
        Clear equalPath service.registry plugin owner.path thread target) ∧
      (releasePlugin equalPath plugin thread quiescent attempts service).1 =
        (if ∃ target ∈ service.registry.targets,
            Unrestored service.registry plugin service.physicalEnabled attempts target then
          .engineFailure
        else .ok) ∧
      (releasePlugin equalPath plugin thread quiescent attempts service).2.registry =
        released service.registry plugin service.physicalEnabled attempts owner := by
  cases howner : service.registry.owners plugin with
  | none =>
    left
    unfold releasePlugin
    simp [howner]
  | some owner =>
    right
    by_cases hstack : (thread.callbackStack.any
        fun callback => service.registry.owner callback = plugin) = true
    · left
      unfold releasePlugin
      simp [howner, hstack]
    · have hcurrent : ∀ callback ∈ thread.callbackStack,
          service.registry.owner callback ≠ plugin := by
        intro callback hmem heq
        exact hstack (List.any_eq_true.mpr ⟨callback, hmem, decide_eq_true heq⟩)
      cases hcollected : collectOperations equalPath service.registry plugin owner.path thread
          service.registry.targets with
      | none =>
        left
        unfold releasePlugin
        simp [howner, hstack, hcollected]
      | some operations =>
        right
        have hclear := ((collectOperations_eq_some equalPath service.registry plugin).mp
          hcollected).1
        exact ⟨owner, rfl, hcurrent, hclear,
          releasePlugin_of_clear equalPath plugin attempts service
          thread quiescent hdistinct howner hcurrent hclear⟩

end Law

end KeelS2.KeelHook.Registered
