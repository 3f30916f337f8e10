import KeelS2.KeelHook.Abi
import KeelS2.Lib.Runs
import Mathlib.Data.Finset.Basic

/-!
# The registry of the hook service

Which plugins may register, which targets they hold leases on, and the callbacks of each target,
as `registry_mutex_` guards them. A callback stands in the list of its target and in the table
`callbacks_`. The sections of the operations under the mutex are the steps here, with the checks
that keep the registry together; `WellFormed` is what all of them keep.

Releasing a plugin takes the mutex twice and is in `KeelS2.KeelHook.PluginRelease`.
-/

namespace KeelS2.KeelHook.Registered

open Function (update)

/-! ## The registry -/

structure OwnerState where
  path : Text
  accepting : Bool
  active : Bool
  deriving DecidableEq, Repr

/-- A `TargetRecord`, less its prototype and its hook. `bindings` has the plugins that a binding
is kept for. -/
structure TargetRecord where
  handle : Nat
  modulePath : Text
  /-- Empty where there is none. -/
  storageModulePath : Text
  /-- The module of the instance table, where there is a table. -/
  instanceModulePath : Option Text
  leases : Finset KeelPluginHandle
  bindings : Finset KeelPluginHandle
  callbacks : List Nat
  transition : Bool

/-- `owner` and `enabled` are fields of the callback records. -/
structure Registry where
  owners : KeelPluginHandle → Option OwnerState
  targets : List TargetRecord
  owner : Nat → KeelPluginHandle
  enabled : Nat → Bool
  callbacks : Finset Nat
  nextTarget : Nat
  nextCallback : Nat
  shuttingDown : Bool

namespace Registry

def initial : Registry where
  owners _ := none
  targets := []
  owner _ := 0
  enabled _ := false
  callbacks := ∅
  nextTarget := 1
  nextCallback := 1
  shuttingDown := false

variable (registry : Registry)

def modifyTarget (handle : Nat) (change : TargetRecord → TargetRecord) : Registry :=
  { registry with
    targets := registry.targets.map fun target =>
      if target.handle = handle then change target else target }

def ownerReady (plugin : KeelPluginHandle) : Bool :=
  !registry.shuttingDown && (registry.owners plugin).any OwnerState.accepting

def authorize (equalPath : Text → Text → Bool) (plugin : KeelPluginHandle) (path : Text)
    (active : Bool) : Registry :=
  if registry.shuttingDown then registry
  else
    match registry.owners plugin with
    | none =>
      { registry with owners := update registry.owners plugin (some ⟨path, true, active⟩) }
    | some owner =>
      if equalPath owner.path path then
        { registry with
          owners := update registry.owners plugin
            (some ⟨owner.path, true, owner.active || active⟩) }
      else registry

/-- `Activate`, and with `false` the first part of `Deactivate`. -/
def setActive (plugin : KeelPluginHandle) (active : Bool) : Registry :=
  match registry.owners plugin with
  | none => registry
  | some owner =>
    { registry with
      owners := update registry.owners plugin (some ⟨owner.path, active, active⟩)
      enabled := fun callback =>
        if callback ∈ registry.callbacks ∧ registry.owner callback = plugin then active
        else registry.enabled callback }

/-- `RegisterTargetLocked` for a target that is there. -/
def lease (plugin : KeelPluginHandle) (handle : Nat) : Registry :=
  if registry.ownerReady plugin then
    registry.modifyTarget handle fun target =>
      if target.transition then target
      else
        { target with
          leases := insert plugin target.leases
          bindings := insert plugin target.bindings }
  else registry

/-- `RegisterTargetLocked` for a new target. -/
def register (plugin : KeelPluginHandle) (modulePath storageModulePath : Text)
    (instanceModulePath : Option Text) : Registry :=
  if registry.ownerReady plugin then
    { registry with
      targets := registry.targets ++ [⟨registry.nextTarget, modulePath, storageModulePath,
        instanceModulePath, {plugin}, {plugin}, [], false⟩]
      nextTarget := registry.nextTarget + 1 }
  else registry

/-- What `ReleaseTarget` does where it is not refused, less the pruning. -/
def releaseLease (plugin : KeelPluginHandle) (handle : Nat) : Registry :=
  registry.modifyTarget handle fun target =>
    { target with
      leases := target.leases.erase plugin
      bindings := target.bindings.erase plugin }

/-- The first section of `AddCallback`, which may begin a transition. -/
def addCallback (plugin : KeelPluginHandle) (handle : Nat) : Registry :=
  if registry.ownerReady plugin ∧
      registry.targets.any fun target => target.handle = handle ∧ ¬ target.transition then
    { registry.modifyTarget handle fun target =>
        { target with
          callbacks := target.callbacks ++ [registry.nextCallback]
          transition := target.callbacks.isEmpty } with
      owner := update registry.owner registry.nextCallback plugin
      enabled := update registry.enabled registry.nextCallback
        ((registry.owners plugin).any OwnerState.active)
      callbacks := insert registry.nextCallback registry.callbacks
      nextCallback := registry.nextCallback + 1 }
  else registry

/-- The last section of `RemoveCallback`, and of `AddCallback` where the target cannot be
hooked. -/
def eraseCallback (callback handle : Nat) : Registry :=
  { registry.modifyTarget handle fun target =>
      { target with
        callbacks := target.callbacks.filter (· ≠ callback)
        transition := false } with
    callbacks := registry.callbacks.erase callback }

def setTransition (handle : Nat) (transition : Bool) : Registry :=
  registry.modifyTarget handle fun target => { target with transition := transition }

def setEnabled (callback : Nat) (enabled : Bool) : Registry :=
  { registry with enabled := update registry.enabled callback enabled }

/-- `PruneTargetsLocked` keeps these. -/
def Standing (target : TargetRecord) : Prop :=
  target.transition = true ∨ target.leases ≠ ∅ ∨ target.callbacks ≠ []

instance (target : TargetRecord) : Decidable (Standing target) :=
  inferInstanceAs (Decidable (target.transition = true ∨ target.leases ≠ ∅ ∨
    target.callbacks ≠ []))

/-- `PruneTargetsLocked`. -/
def prune : Registry :=
  { registry with targets := registry.targets.filter fun target => Standing target }

/-- What `Shutdown` does to the registry. -/
def shutdown : Registry :=
  { registry with
    owners := fun _ => none
    targets := registry.targets.map fun target =>
      { target with leases := ∅, callbacks := [], transition := true }
    enabled := fun callback =>
      if callback ∈ registry.callbacks then false else registry.enabled callback
    callbacks := ∅
    shuttingDown := true }

end Registry

/-! ## What holds the registry together -/

structure WellFormed (registry : Registry) : Prop where
  distinct : (registry.targets.map TargetRecord.handle).Nodup
  below : ∀ target ∈ registry.targets, target.handle < registry.nextTarget
  leased : ∀ target ∈ registry.targets, ∀ plugin ∈ target.leases,
    (registry.owners plugin).isSome = true
  owned : ∀ target ∈ registry.targets, ∀ callback ∈ target.callbacks,
    callback < registry.nextCallback ∧ (registry.owners (registry.owner callback)).isSome = true
  apart : ∀ target ∈ registry.targets, ∀ other ∈ registry.targets, ∀ callback ∈ target.callbacks,
    callback ∈ other.callbacks → target.handle = other.handle
  listed : ∀ callback ∈ registry.callbacks, ∃ target ∈ registry.targets,
    callback ∈ target.callbacks

theorem wellFormed_initial : WellFormed Registry.initial := by
  refine ⟨List.nodup_nil, ?_, ?_, ?_, ?_, ?_⟩
  · exact fun _ h => absurd h List.not_mem_nil
  · exact fun _ h => absurd h List.not_mem_nil
  · exact fun _ h => absurd h List.not_mem_nil
  · exact fun _ h => absurd h List.not_mem_nil
  · exact fun _ h => absurd h (Finset.notMem_empty _)

namespace WellFormed

variable {registry : Registry}

theorem distinct_map (h : WellFormed registry) {change : TargetRecord → TargetRecord}
    (hhandle : ∀ target, (change target).handle = target.handle) :
    ((registry.targets.map change).map TargetRecord.handle).Nodup := by
  have hhandles : TargetRecord.handle ∘ change = TargetRecord.handle := funext hhandle
  rw [List.map_map, hhandles]
  exact h.distinct

/-- Changing targets one by one. Leases and callbacks that come in must have an owner, and no
callback of the table may go. -/
theorem mapTargets (h : WellFormed registry) {change : TargetRecord → TargetRecord}
    (hhandle : ∀ target, (change target).handle = target.handle)
    (hleased : ∀ target ∈ registry.targets, ∀ plugin ∈ (change target).leases,
      (registry.owners plugin).isSome = true)
    (howned : ∀ target ∈ registry.targets, ∀ callback ∈ (change target).callbacks,
      callback ∈ target.callbacks)
    (hlisted : ∀ target ∈ registry.targets, ∀ callback ∈ registry.callbacks,
      callback ∈ target.callbacks → callback ∈ (change target).callbacks) :
    WellFormed { registry with targets := registry.targets.map change } where
  distinct := h.distinct_map hhandle
  below target htarget := by
    obtain ⟨before, hbefore, rfl⟩ := List.mem_map.mp htarget
    rw [hhandle]
    exact h.below before hbefore
  leased target htarget plugin hplugin := by
    obtain ⟨before, hbefore, rfl⟩ := List.mem_map.mp htarget
    exact hleased before hbefore plugin hplugin
  owned target htarget callback hcallback := by
    obtain ⟨before, hbefore, rfl⟩ := List.mem_map.mp htarget
    exact h.owned before hbefore callback (howned before hbefore callback hcallback)
  apart target htarget other hother callback hcallback hmem := by
    obtain ⟨before, hbefore, rfl⟩ := List.mem_map.mp htarget
    obtain ⟨second, hsecond, rfl⟩ := List.mem_map.mp hother
    rw [hhandle, hhandle]
    exact h.apart before hbefore second hsecond callback (howned before hbefore callback hcallback)
      (howned second hsecond callback hmem)
  listed callback hcallback := by
    obtain ⟨before, hbefore, hmem⟩ := h.listed callback hcallback
    exact ⟨change before, List.mem_map_of_mem hbefore,
      hlisted before hbefore callback hcallback hmem⟩

theorem modifyTarget (h : WellFormed registry) (handle : Nat)
    {change : TargetRecord → TargetRecord}
    (hhandle : ∀ target, (change target).handle = target.handle)
    (hleased : ∀ target ∈ registry.targets, ∀ plugin ∈ (change target).leases,
      plugin ∈ target.leases ∨ (registry.owners plugin).isSome = true)
    (hcallbacks : ∀ target, (change target).callbacks = target.callbacks) :
    WellFormed (registry.modifyTarget handle change) := by
  refine h.mapTargets ?_ ?_ ?_ ?_
  · intro target
    split
    · exact hhandle target
    · rfl
  · intro target htarget plugin hplugin
    split at hplugin
    · exact (hleased target htarget plugin hplugin).elim (h.leased target htarget plugin) id
    · exact h.leased target htarget plugin hplugin
  · intro target _ callback hcallback
    split at hcallback
    · rwa [hcallbacks] at hcallback
    · exact hcallback
  · intro target _ callback _ hcallback
    split
    · rwa [hcallbacks]
    · exact hcallback

theorem owners (h : WellFormed registry) {owners : KeelPluginHandle → Option OwnerState}
    (howners : ∀ plugin, (registry.owners plugin).isSome = true → (owners plugin).isSome = true)
    (enabled : Nat → Bool) :
    WellFormed { registry with owners := owners, enabled := enabled } where
  distinct := h.distinct
  below := h.below
  leased target htarget plugin hplugin := howners plugin (h.leased target htarget plugin hplugin)
  owned target htarget callback hcallback :=
    ⟨(h.owned target htarget callback hcallback).1,
      howners _ (h.owned target htarget callback hcallback).2⟩
  apart := h.apart
  listed := h.listed

theorem isSome_update {records : KeelPluginHandle → Option OwnerState} {plugin : KeelPluginHandle}
    (record : OwnerState) {other : KeelPluginHandle} (hother : (records other).isSome = true) :
    (update records plugin (some record) other).isSome = true := by
  rcases eq_or_ne other plugin with rfl | hne
  · rw [Function.update_self]
    rfl
  · rwa [Function.update_of_ne hne]

theorem authorize (h : WellFormed registry) (equalPath : Text → Text → Bool)
    (plugin : KeelPluginHandle) (path : Text) (active : Bool) :
    WellFormed (registry.authorize equalPath plugin path active) := by
  unfold Registry.authorize
  split
  · exact h
  · split
    · exact h.owners (fun _ => isSome_update _) _
    · split
      · exact h.owners (fun _ => isSome_update _) _
      · exact h

theorem setActive (h : WellFormed registry) (plugin : KeelPluginHandle) (active : Bool) :
    WellFormed (registry.setActive plugin active) := by
  unfold Registry.setActive
  split
  · exact h
  · exact h.owners (fun _ => isSome_update _) _

theorem ownerReady_isSome {plugin : KeelPluginHandle} (hready : registry.ownerReady plugin = true) :
    (registry.owners plugin).isSome = true := by
  unfold Registry.ownerReady at hready
  cases howner : registry.owners plugin with
  | none => simp [howner] at hready
  | some owner => rfl

section

variable (h : WellFormed registry)

include h

theorem lease (plugin : KeelPluginHandle) (handle : Nat) :
    WellFormed (registry.lease plugin handle) := by
  unfold Registry.lease
  split
  · rename_i hready
    refine h.modifyTarget handle ?_ ?_ ?_
    · intro target
      split <;> rfl
    · intro target _ other hother
      split at hother
      · exact Or.inl hother
      · rcases Finset.mem_insert.mp hother with rfl | hmem
        · exact Or.inr (ownerReady_isSome hready)
        · exact Or.inl hmem
    · intro target
      split <;> rfl
  · exact h

theorem register (plugin : KeelPluginHandle) (modulePath storageModulePath : Text)
    (instanceModulePath : Option Text) :
    WellFormed (registry.register plugin modulePath storageModulePath instanceModulePath) := by
  unfold Registry.register
  split
  · rename_i hready
    constructor
    · rw [List.map_append, List.nodup_append]
      refine ⟨h.distinct, List.nodup_singleton _, ?_⟩
      intro handle hhandle other hother
      obtain ⟨target, htarget, rfl⟩ := List.mem_map.mp hhandle
      obtain rfl := List.mem_singleton.mp hother
      exact (h.below target htarget).ne
    · intro target htarget
      rcases List.mem_append.mp htarget with hold | hnew
      · exact Nat.lt_succ_of_lt (h.below target hold)
      · obtain rfl := List.mem_singleton.mp hnew
        exact Nat.lt_succ_self _
    · intro target htarget other hother
      rcases List.mem_append.mp htarget with hold | hnew
      · exact h.leased target hold other hother
      · obtain rfl := List.mem_singleton.mp hnew
        obtain rfl := Finset.mem_singleton.mp hother
        exact ownerReady_isSome hready
    · intro target htarget callback hcallback
      rcases List.mem_append.mp htarget with hold | hnew
      · exact h.owned target hold callback hcallback
      · obtain rfl := List.mem_singleton.mp hnew
        exact absurd hcallback List.not_mem_nil
    · intro target htarget other hother callback hcallback hmem
      rcases List.mem_append.mp htarget with hold | hnew
      · rcases List.mem_append.mp hother with hold' | hnew'
        · exact h.apart target hold other hold' callback hcallback hmem
        · obtain rfl := List.mem_singleton.mp hnew'
          exact absurd hmem List.not_mem_nil
      · obtain rfl := List.mem_singleton.mp hnew
        exact absurd hcallback List.not_mem_nil
    · intro callback hcallback
      obtain ⟨target, htarget, hmem⟩ := h.listed callback hcallback
      exact ⟨target, List.mem_append_left _ htarget, hmem⟩
  · exact h

theorem releaseLease (plugin : KeelPluginHandle) (handle : Nat) :
    WellFormed (registry.releaseLease plugin handle) :=
  h.modifyTarget handle (fun _ => rfl)
    (fun _ _ _ hplugin => Or.inl (Finset.mem_of_mem_erase hplugin)) fun _ => rfl

theorem setTransition (handle : Nat) (transition : Bool) :
    WellFormed (registry.setTransition handle transition) :=
  h.modifyTarget handle (fun _ => rfl) (fun _ _ _ => Or.inl) fun _ => rfl

theorem setEnabled (callback : Nat) (enabled : Bool) :
    WellFormed (registry.setEnabled callback enabled) :=
  h.owners (fun _ => id) _

theorem addCallback (plugin : KeelPluginHandle) (handle : Nat) :
    WellFormed (registry.addCallback plugin handle) := by
  unfold Registry.addCallback
  split
  · rename_i hcan
    have hold : ∀ target ∈ registry.targets, ∀ callback ∈ target.callbacks,
        callback < registry.nextCallback + 1 ∧ (registry.owners (update registry.owner
          registry.nextCallback plugin callback)).isSome = true := by
      intro target htarget callback hcallback
      obtain ⟨hbelow, howner⟩ := h.owned target htarget callback hcallback
      rw [Function.update_of_ne hbelow.ne]
      exact ⟨Nat.lt_succ_of_lt hbelow, howner⟩
    constructor
    · refine h.distinct_map fun target => ?_
      split <;> rfl
    · intro target htarget
      obtain ⟨before, hbefore, rfl⟩ := List.mem_map.mp htarget
      split
      · exact h.below before hbefore
      · exact h.below before hbefore
    · intro target htarget other hother
      obtain ⟨before, hbefore, rfl⟩ := List.mem_map.mp htarget
      split at hother
      · exact h.leased before hbefore other hother
      · exact h.leased before hbefore other hother
    · intro target htarget callback hcallback
      obtain ⟨before, hbefore, rfl⟩ := List.mem_map.mp htarget
      split at hcallback
      · rcases List.mem_append.mp hcallback with hmem | hnew
        · exact hold before hbefore callback hmem
        · obtain rfl := List.mem_singleton.mp hnew
          refine ⟨Nat.lt_succ_self _, ?_⟩
          show (registry.owners (update registry.owner registry.nextCallback plugin
            registry.nextCallback)).isSome = true
          rw [Function.update_self]
          exact ownerReady_isSome hcan.1
      · exact hold before hbefore callback hcallback
    · have hnew : ∀ before ∈ registry.targets, registry.nextCallback ∉ before.callbacks :=
        fun before hbefore hmem => (h.owned before hbefore _ hmem).1.ne rfl
      have hcallbacks : ∀ before ∈ registry.targets, ∀ callback ∈ TargetRecord.callbacks
          (if before.handle = handle then
            { before with
              callbacks := before.callbacks ++ [registry.nextCallback]
              transition := before.callbacks.isEmpty } else before),
          callback ∈ before.callbacks ∨
            (callback = registry.nextCallback ∧ before.handle = handle) := by
        intro before _ callback hcallback
        split at hcallback
        · rename_i hhandle
          exact (List.mem_append.mp hcallback).imp id fun h => ⟨List.mem_singleton.mp h, hhandle⟩
        · exact Or.inl hcallback
      intro target htarget other hother callback hcallback hmem
      obtain ⟨before, hbefore, rfl⟩ := List.mem_map.mp htarget
      obtain ⟨second, hsecond, rfl⟩ := List.mem_map.mp hother
      have hhandles : before.handle = second.handle := by
        rcases hcallbacks before hbefore callback hcallback with hfirst | ⟨rfl, hfirst⟩
        · rcases hcallbacks second hsecond callback hmem with hmem | ⟨rfl, -⟩
          · exact h.apart before hbefore second hsecond callback hfirst hmem
          · exact absurd hfirst (hnew before hbefore)
        · rcases hcallbacks second hsecond _ hmem with hmem | ⟨-, hlast⟩
          · exact absurd hmem (hnew second hsecond)
          · rw [hfirst, hlast]
      split <;> split <;> exact hhandles
    · intro callback hcallback
      rcases Finset.mem_insert.mp hcallback with rfl | hmem
      · obtain ⟨target, htarget, hhandle⟩ := List.any_eq_true.mp hcan.2
        refine ⟨_, List.mem_map_of_mem htarget, ?_⟩
        rw [if_pos (of_decide_eq_true hhandle).1]
        exact List.mem_append_right _ (List.mem_singleton_self _)
      · obtain ⟨target, htarget, hlisted⟩ := h.listed callback hmem
        refine ⟨_, List.mem_map_of_mem htarget, ?_⟩
        split
        · exact List.mem_append_left _ hlisted
        · exact hlisted
  · exact h

theorem eraseCallback (callback handle : Nat) :
    WellFormed (registry.eraseCallback callback handle) := by
  have hfewer : WellFormed { registry with callbacks := registry.callbacks.erase callback } :=
    ⟨h.distinct, h.below, h.leased, h.owned, h.apart,
      fun other hother => h.listed other (Finset.mem_of_mem_erase hother)⟩
  refine hfewer.mapTargets ?_ ?_ ?_ ?_
  · intro target
    split <;> rfl
  · intro target htarget plugin hplugin
    split at hplugin
    · exact h.leased target htarget plugin hplugin
    · exact h.leased target htarget plugin hplugin
  · intro target _ other hother
    split at hother
    · exact List.mem_of_mem_filter hother
    · exact hother
  · intro target _ other hother hmem
    split
    · exact List.mem_filter.mpr ⟨hmem, decide_eq_true (Finset.ne_of_mem_erase hother)⟩
    · exact hmem

end

theorem prune (h : WellFormed registry) : WellFormed registry.prune where
  distinct := h.distinct.sublist (List.filter_sublist.map _)
  below target htarget := h.below target (List.mem_of_mem_filter htarget)
  leased target htarget := h.leased target (List.mem_of_mem_filter htarget)
  owned target htarget := h.owned target (List.mem_of_mem_filter htarget)
  apart target htarget other hother :=
    h.apart target (List.mem_of_mem_filter htarget) other (List.mem_of_mem_filter hother)
  listed callback hcallback := by
    obtain ⟨target, htarget, hmem⟩ := h.listed callback hcallback
    have hstanding : Registry.Standing target := Or.inr (Or.inr (List.ne_nil_of_mem hmem))
    exact ⟨target, List.mem_filter.mpr ⟨htarget, decide_eq_true hstanding⟩, hmem⟩

theorem shutdown (h : WellFormed registry) : WellFormed registry.shutdown where
  distinct := h.distinct_map fun _ => rfl
  below target htarget := by
    obtain ⟨before, hbefore, rfl⟩ := List.mem_map.mp htarget
    exact h.below before hbefore
  leased target htarget plugin hplugin := by
    obtain ⟨before, hbefore, rfl⟩ := List.mem_map.mp htarget
    exact absurd hplugin (Finset.notMem_empty plugin)
  owned target htarget callback hcallback := by
    obtain ⟨before, hbefore, rfl⟩ := List.mem_map.mp htarget
    exact absurd hcallback List.not_mem_nil
  apart target htarget other _ callback hcallback := by
    obtain ⟨before, hbefore, rfl⟩ := List.mem_map.mp htarget
    exact absurd hcallback List.not_mem_nil
  listed callback hcallback := absurd hcallback (Finset.notMem_empty callback)

end WellFormed

end KeelS2.KeelHook.Registered
