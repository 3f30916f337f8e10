import KeelS2.KeelHook.PluginRelease

/-!
# What a release does

Every section under the registry's mutex keeps the registry together, and so does a release.
`Released` says what a release leaves, whichever hooks come off: a refused one changes nothing, a
failed one has released all the targets but those whose hooks stayed on, and other plugins'
callbacks are as they were.
-/

namespace KeelS2.KeelHook.Registered

section Law

variable (equalPath : Text → Text → Bool) (registry : Registry) (plugin : KeelPluginHandle)
variable (physicalEnabled : Nat → Bool) (attempts : Nat → Attempts)

/-! ## The registry stays together -/

theorem releasedTarget_handle (target : TargetRecord) :
    (releasedTarget registry plugin physicalEnabled attempts target).handle = target.handle := by
  unfold releasedTarget
  split <;> rfl

theorem releasedTarget_subset (target : TargetRecord) :
    (releasedTarget registry plugin physicalEnabled attempts target).leases ⊆ target.leases ∧
      (releasedTarget registry plugin physicalEnabled attempts target).callbacks ⊆
        target.callbacks := by
  unfold releasedTarget
  split
  · exact ⟨Finset.erase_subset _ _, List.filter_subset_self _⟩
  · exact ⟨fun _ => id, fun _ => id⟩

variable {owner : OwnerState} {target : TargetRecord}

theorem releasedTarget_of_restored
    (hrestored : ¬ Unrestored registry plugin physicalEnabled attempts target) :
    plugin ∉ (releasedTarget registry plugin physicalEnabled attempts target).leases ∧
      ∀ callback ∈ (releasedTarget registry plugin physicalEnabled attempts target).callbacks,
        registry.owner callback ≠ plugin := by
  unfold releasedTarget
  split
  · refine ⟨Finset.notMem_erase _ _, fun callback hcallback => ?_⟩
    exact of_decide_eq_true (List.mem_filter.mp hcallback).2
  · rename_i hnot
    have hholds : ¬ Holds registry plugin target := fun h => hnot ⟨h, hrestored⟩
    refine ⟨fun hmem => hholds (Or.inl hmem), fun callback hcallback howner => ?_⟩
    exact hholds (Or.inr (List.ne_nil_of_mem
      ((mem_ownedCallbacks registry plugin).mpr ⟨hcallback, howner⟩)))

theorem releasedTarget_of_unrestored
    (hunrestored : Unrestored registry plugin physicalEnabled attempts target) :
    releasedTarget registry plugin physicalEnabled attempts target = target :=
  if_neg fun h => h.2 hunrestored

theorem releasedTarget_others (target : TargetRecord) :
    (releasedTarget registry plugin physicalEnabled attempts target).callbacks.filter
        (fun callback => registry.owner callback ≠ plugin) =
      target.callbacks.filter fun callback => registry.owner callback ≠ plugin := by
  unfold releasedTarget
  split
  · show ((target.callbacks.filter fun callback => registry.owner callback ≠ plugin).filter
      fun callback => registry.owner callback ≠ plugin) = _
    rw [List.filter_filter]
    simp only [Bool.and_self]
  · rfl

theorem mem_released_targets {after : TargetRecord} :
    after ∈ (released registry plugin physicalEnabled attempts owner).targets ↔
      (∃ target ∈ registry.targets,
        releasedTarget registry plugin physicalEnabled attempts target = after) ∧
        Registry.Standing after := by
  unfold released
  rw [List.mem_filter, List.mem_map, decide_eq_true_iff]

theorem mem_released_callbacks {callback : Nat} :
    callback ∈ (released registry plugin physicalEnabled attempts owner).callbacks ↔
      callback ∈ registry.callbacks ∧ ∀ target ∈ registry.targets,
        ¬ Unrestored registry plugin physicalEnabled attempts target →
          callback ∉ ownedCallbacks registry plugin target :=
  Finset.mem_filter

theorem mem_releasedTarget_of_mem (htarget : target ∈ registry.targets) {callback : Nat}
    (hcallback : callback ∈ target.callbacks)
    (hmem : callback ∈ (released registry plugin physicalEnabled attempts owner).callbacks) :
    callback ∈ (releasedTarget registry plugin physicalEnabled attempts target).callbacks := by
  by_cases hunrestored : Unrestored registry plugin physicalEnabled attempts target
  · rwa [releasedTarget_of_unrestored registry plugin physicalEnabled attempts hunrestored]
  · have howned := ((mem_released_callbacks registry plugin physicalEnabled attempts).mp hmem).2
      target htarget hunrestored
    have howner : registry.owner callback ≠ plugin := fun heq =>
      howned ((mem_ownedCallbacks registry plugin).mpr ⟨hcallback, heq⟩)
    have hother : callback ∈ target.callbacks.filter
        fun callback => registry.owner callback ≠ plugin :=
      List.mem_filter.mpr ⟨hcallback, decide_eq_true howner⟩
    rw [← releasedTarget_others registry plugin physicalEnabled attempts] at hother
    exact List.mem_of_mem_filter hother

theorem isSome_released_owners {other : KeelPluginHandle}
    (hother : (registry.owners other).isSome = true)
    (hleft : other = plugin → ∃ target ∈ registry.targets, Unrestored registry plugin
      physicalEnabled attempts target) :
    ((released registry plugin physicalEnabled attempts owner).owners other).isSome = true := by
  unfold released
  rcases eq_or_ne other plugin with rfl | hne
  · show ((ite _ _ _ : KeelPluginHandle → Option OwnerState) other).isSome = true
    rw [if_pos (hleft rfl), Function.update_self]
    rfl
  · show ((ite _ _ _ : KeelPluginHandle → Option OwnerState) other).isSome = true
    split
    · rwa [Function.update_of_ne hne]
    · rwa [Function.update_of_ne hne]

theorem WellFormed.released (h : WellFormed registry) (owner : OwnerState) :
    WellFormed (released registry plugin physicalEnabled attempts owner) where
  distinct := (h.distinct_map (releasedTarget_handle registry plugin physicalEnabled
    attempts)).sublist (List.filter_sublist.map _)
  below after hafter := by
    obtain ⟨⟨target, htarget, rfl⟩, -⟩ :=
      (mem_released_targets registry plugin physicalEnabled attempts).mp hafter
    rw [releasedTarget_handle]
    exact h.below target htarget
  leased after hafter other hother := by
    obtain ⟨⟨target, htarget, rfl⟩, -⟩ :=
      (mem_released_targets registry plugin physicalEnabled attempts).mp hafter
    have hbefore := (releasedTarget_subset registry plugin physicalEnabled attempts target).1 hother
    refine isSome_released_owners registry plugin physicalEnabled attempts
      (h.leased target htarget other hbefore) fun heq => ⟨target, htarget, ?_⟩
    by_contra hrestored
    exact (releasedTarget_of_restored registry plugin physicalEnabled attempts hrestored).1
      (heq ▸ hother)
  owned after hafter callback hcallback := by
    obtain ⟨⟨target, htarget, rfl⟩, -⟩ :=
      (mem_released_targets registry plugin physicalEnabled attempts).mp hafter
    obtain ⟨hbelow, howner⟩ := h.owned target htarget callback
      ((releasedTarget_subset registry plugin physicalEnabled attempts target).2 hcallback)
    refine ⟨hbelow, isSome_released_owners registry plugin physicalEnabled attempts howner
      fun heq => ⟨target, htarget, ?_⟩⟩
    by_contra hrestored
    exact (releasedTarget_of_restored registry plugin physicalEnabled attempts hrestored).2
      callback hcallback heq
  apart after hafter other hother callback hcallback hmem := by
    obtain ⟨⟨target, htarget, rfl⟩, -⟩ :=
      (mem_released_targets registry plugin physicalEnabled attempts).mp hafter
    obtain ⟨⟨second, hsecond, rfl⟩, -⟩ :=
      (mem_released_targets registry plugin physicalEnabled attempts).mp hother
    rw [releasedTarget_handle, releasedTarget_handle]
    exact h.apart target htarget second hsecond callback
      ((releasedTarget_subset registry plugin physicalEnabled attempts target).2 hcallback)
      ((releasedTarget_subset registry plugin physicalEnabled attempts second).2 hmem)
  listed callback hcallback := by
    obtain ⟨target, htarget, hmem⟩ := h.listed callback
      ((mem_released_callbacks registry plugin physicalEnabled attempts).mp hcallback).1
    have hleft := mem_releasedTarget_of_mem registry plugin physicalEnabled attempts htarget hmem
      hcallback
    exact ⟨_, (mem_released_targets registry plugin physicalEnabled attempts).mpr
      ⟨⟨target, htarget, rfl⟩, Or.inr (Or.inr (List.ne_nil_of_mem hleft))⟩, hleft⟩

end Law

/-! ## The runs of the service -/

/-- What the operations of the service do, one section under the mutex an action. The hooks are
put on and taken off between sections. -/
inductive Action
  | authorize (plugin : KeelPluginHandle) (path : Text) (active : Bool)
  | setActive (plugin : KeelPluginHandle) (active : Bool)
  | register (plugin : KeelPluginHandle) (modulePath storageModulePath : Text)
      (instanceModulePath : Option Text)
  | lease (plugin : KeelPluginHandle) (handle : Nat)
  | releaseLease (plugin : KeelPluginHandle) (handle : Nat)
  | addCallback (plugin : KeelPluginHandle) (handle : Nat)
  | eraseCallback (callback handle : Nat)
  | setTransition (handle : Nat) (transition : Bool)
  | setEnabled (callback : Nat) (enabled : Bool)
  | prune
  | setPhysical (handle : Nat) (enabled built : Bool)
  | collectPhysical (thread : Thread) (quiescent : Nat → Bool)
  | releasePlugin (plugin : KeelPluginHandle) (thread : Thread) (quiescent : Bool → Nat → Bool)
      (attempts : Nat → Attempts)
  | shutdown

def Service.onRegistry (service : Service) (operation : Registry → Registry) : Service :=
  { service with registry := operation service.registry }

def step (equalPath : Text → Text → Bool) (service : Service) : Action → Service
  | .authorize plugin path active =>
    service.onRegistry (·.authorize equalPath plugin path active)
  | .setActive plugin active => service.onRegistry (·.setActive plugin active)
  | .register plugin modulePath storageModulePath instanceModulePath =>
    service.onRegistry (·.register plugin modulePath storageModulePath instanceModulePath)
  | .lease plugin handle => service.onRegistry (·.lease plugin handle)
  | .releaseLease plugin handle => service.onRegistry (·.releaseLease plugin handle)
  | .addCallback plugin handle => service.onRegistry (·.addCallback plugin handle)
  | .eraseCallback callback handle => service.onRegistry (·.eraseCallback callback handle)
  | .setTransition handle transition => service.onRegistry (·.setTransition handle transition)
  | .setEnabled callback enabled => service.onRegistry (·.setEnabled callback enabled)
  | .prune => service.prune
  | .setPhysical handle enabled built =>
    { service with
      physicalEnabled := Function.update service.physicalEnabled handle enabled
      built := Function.update service.built handle built }
  | .collectPhysical thread quiescent => service.collectPhysical thread quiescent
  | .releasePlugin plugin thread quiescent attempts =>
    (releasePlugin equalPath plugin thread quiescent attempts service).2
  | .shutdown => service.onRegistry Registry.shutdown

section Runs

variable (equalPath : Text → Text → Bool)

theorem wellFormed_step (service : Service) (action : Action)
    (h : WellFormed service.registry) : WellFormed (step equalPath service action).registry := by
  cases action with
  | authorize plugin path active => exact h.authorize equalPath plugin path active
  | setActive plugin active => exact h.setActive plugin active
  | register plugin modulePath storageModulePath instanceModulePath =>
    exact h.register plugin modulePath storageModulePath instanceModulePath
  | lease plugin handle => exact h.lease plugin handle
  | releaseLease plugin handle => exact h.releaseLease plugin handle
  | addCallback plugin handle => exact h.addCallback plugin handle
  | eraseCallback callback handle => exact h.eraseCallback callback handle
  | setTransition handle transition => exact h.setTransition handle transition
  | setEnabled callback enabled => exact h.setEnabled callback enabled
  | prune => exact h.prune
  | setPhysical handle enabled built => exact h
  | collectPhysical thread quiescent =>
    show WellFormed (service.collectPhysical thread quiescent).registry
    rwa [Service.collectPhysical_registry]
  | releasePlugin plugin thread quiescent attempts =>
    show WellFormed (releasePlugin equalPath plugin thread quiescent attempts service).2.registry
    rcases releasePlugin_cases equalPath plugin attempts service thread quiescent h.distinct with
      ⟨-, -, hregistry⟩ | ⟨-, hregistry⟩ | ⟨owner, -, -, -, -, hregistry⟩
    · rwa [hregistry]
    · rwa [hregistry]
    · rw [hregistry]
      exact WellFormed.released service.registry plugin service.physicalEnabled attempts h owner
  | shutdown => exact h.shutdown

theorem wellFormed_run (actions : List Action) :
    WellFormed (Lib.run (step equalPath) Service.initial actions).registry :=
  Lib.Heeds.invariant (fun service action h _ => wellFormed_step equalPath service action h)
    wellFormed_initial (Lib.heeds_trivial _ _)

end Runs

/-! ## What a release does -/

/-- The callbacks of the other plugins on a target in their order, and whether each is
enabled. -/
def othersOn (registry : Registry) (plugin : KeelPluginHandle) (handle : Nat) : List (Nat × Bool) :=
  registry.targets.flatMap fun target =>
    if target.handle = handle then
      (target.callbacks.filter fun callback => registry.owner callback ≠ plugin).map
        fun callback => (callback, registry.enabled callback)
    else []

/-- The answer of a release and the registry it leaves, with `unrestored` the targets whose hooks
stayed on. -/
structure Released (plugin : KeelPluginHandle) (unrestored : TargetRecord → Prop)
    (before after : Registry) (answer : KeelResult) : Prop where
  answers : answer = .ok ∨ answer = .busy ∨ answer = .engineFailure
  owner : after.owner = before.owner
  busy : answer = .busy → after = before
  failed : answer = .engineFailure →
    (∃ target ∈ before.targets, unrestored target) ∧ (after.owners plugin).isSome = true
  kept : answer ≠ .busy → ∀ target ∈ before.targets, unrestored target →
    ∃ left ∈ after.targets, left.handle = target.handle ∧ left.leases = target.leases ∧
      left.callbacks = target.callbacks ∧
        ∀ callback ∈ target.callbacks, callback ∈ before.callbacks → callback ∈ after.callbacks
  lost : answer ≠ .busy → ∀ target ∈ before.targets, ¬ unrestored target →
    (∀ left ∈ after.targets, left.handle = target.handle →
      plugin ∉ left.leases ∧ ∀ callback ∈ left.callbacks, after.owner callback ≠ plugin) ∧
      ∀ callback ∈ target.callbacks, before.owner callback = plugin → callback ∉ after.callbacks
  others : ∀ handle, othersOn after plugin handle = othersOn before plugin handle
  table : ∀ callback, before.owner callback ≠ plugin →
    (callback ∈ after.callbacks ↔ callback ∈ before.callbacks)
  done : answer = .ok → after.owners plugin = none ∧
    (∀ left ∈ after.targets,
      plugin ∉ left.leases ∧ ∀ callback ∈ left.callbacks, after.owner callback ≠ plugin) ∧
    ∀ callback ∈ after.callbacks, after.owner callback ≠ plugin

section Law

variable (equalPath : Text → Text → Bool) (registry : Registry) (plugin : KeelPluginHandle)
variable (physicalEnabled : Nat → Bool) (attempts : Nat → Attempts)

variable {owner : OwnerState} {target : TargetRecord}

theorem enabled_released {callback : Nat} (hother : registry.owner callback ≠ plugin) :
    (released registry plugin physicalEnabled attempts owner).enabled callback =
      registry.enabled callback :=
  if_neg fun ⟨_, _, howned⟩ => hother ((mem_ownedCallbacks registry plugin).mp howned).2

theorem othersOn_released (owner : OwnerState) (handle : Nat) :
    othersOn (released registry plugin physicalEnabled attempts owner) plugin handle =
      othersOn registry plugin handle := by
  unfold othersOn
  show List.flatMap _ (List.filter _ (registry.targets.map _)) = _
  generalize registry.targets = targets
  induction targets with
  | nil => rfl
  | cons target targets ih =>
    have hothers := releasedTarget_others registry plugin physicalEnabled attempts target
    have hhandle := releasedTarget_handle registry plugin physicalEnabled attempts target
    have henabled : ((target.callbacks.filter fun callback =>
        registry.owner callback ≠ plugin).map fun callback =>
          (callback, (released registry plugin physicalEnabled attempts owner).enabled callback)) =
        (target.callbacks.filter fun callback => registry.owner callback ≠ plugin).map
          fun callback => (callback, registry.enabled callback) := by
      refine List.map_congr_left fun callback hcallback => ?_
      rw [enabled_released registry plugin physicalEnabled attempts
        (of_decide_eq_true (List.mem_filter.mp hcallback).2)]
    rw [List.map_cons, List.flatMap_cons, ← ih]
    by_cases hstanding : Registry.Standing
        (releasedTarget registry plugin physicalEnabled attempts target)
    · rw [List.filter_cons_of_pos (by simpa using hstanding), List.flatMap_cons, hhandle,
        ← henabled, ← hothers]
      rfl
    · have hnone : (releasedTarget registry plugin physicalEnabled attempts
        target).callbacks = [] :=
        by_contra fun h => hstanding (Or.inr (Or.inr h))
      rw [hnone] at hothers
      rw [List.filter_cons_of_neg (by simpa using hstanding), ← hothers]
      simp

theorem released_keeps (h : WellFormed registry) (owner : OwnerState)
    (htarget : target ∈ registry.targets)
    (hunrestored : Unrestored registry plugin physicalEnabled attempts target) :
    target ∈ (released registry plugin physicalEnabled attempts owner).targets ∧
      ∀ callback ∈ target.callbacks, callback ∈ registry.callbacks →
        callback ∈ (released registry plugin physicalEnabled attempts owner).callbacks := by
  constructor
  · exact (mem_released_targets registry plugin physicalEnabled attempts).mpr
      ⟨⟨target, htarget,
        releasedTarget_of_unrestored registry plugin physicalEnabled attempts hunrestored⟩,
        Or.inr (Or.inr hunrestored.1)⟩
  · intro callback hcallback hmem
    refine (mem_released_callbacks registry plugin physicalEnabled attempts).mpr ⟨hmem, ?_⟩
    intro other hother hrestored howned
    have hlisted := ((mem_ownedCallbacks registry plugin).mp howned).1
    have hhandle := h.apart target htarget other hother callback hcallback hlisted
    obtain rfl := List.inj_on_of_nodup_map h.distinct htarget hother hhandle
    exact hrestored hunrestored

theorem released_loses (h : WellFormed registry) (owner : OwnerState)
    (htarget : target ∈ registry.targets)
    (hrestored : ¬ Unrestored registry plugin physicalEnabled attempts target) {left : TargetRecord}
    (hleft : left ∈ (released registry plugin physicalEnabled attempts owner).targets)
    (hhandle : left.handle = target.handle) :
    plugin ∉ left.leases ∧ ∀ callback ∈ left.callbacks, registry.owner callback ≠ plugin := by
  obtain ⟨⟨before, hbefore, rfl⟩, -⟩ :=
    (mem_released_targets registry plugin physicalEnabled attempts).mp hleft
  rw [releasedTarget_handle] at hhandle
  obtain rfl := List.inj_on_of_nodup_map h.distinct hbefore htarget hhandle
  exact releasedTarget_of_restored registry plugin physicalEnabled attempts hrestored

/-- Nothing is left of a plugin without a record, so a release that finds none has nothing to
do. -/
theorem nothing_of_unknown (h : WellFormed registry) (hnone : registry.owners plugin = none)
    (htarget : target ∈ registry.targets) :
    plugin ∉ target.leases ∧ ∀ callback ∈ target.callbacks, registry.owner callback ≠ plugin := by
  constructor
  · intro hmem
    have hsome := h.leased target htarget plugin hmem
    rw [hnone] at hsome
    cases hsome
  · intro callback hcallback heq
    have hsome := (h.owned target htarget callback hcallback).2
    rw [heq, hnone] at hsome
    cases hsome

theorem released_busy (unrestored : TargetRecord → Prop) :
    Released plugin unrestored registry registry .busy where
  answers := Or.inr (Or.inl rfl)
  owner := rfl
  busy _ := rfl
  failed h := by cases h
  kept h := absurd rfl h
  lost h := absurd rfl h
  others _ := rfl
  table _ _ := Iff.rfl
  done h := by cases h

theorem released_unknown (h : WellFormed registry) (hnone : registry.owners plugin = none) :
    Released plugin (Unrestored registry plugin physicalEnabled attempts)
      registry registry .ok where
  answers := Or.inl rfl
  owner := rfl
  busy _ := rfl
  failed h := by cases h
  kept _ target htarget hunrestored := by
    obtain ⟨callback, hcallback⟩ := List.exists_mem_of_ne_nil _ hunrestored.1
    exact absurd (hunrestored.2.1 callback hcallback)
      ((nothing_of_unknown registry plugin h hnone htarget).2 callback hcallback)
  lost _ target htarget _ :=
    ⟨fun _ hleft _ => nothing_of_unknown registry plugin h hnone hleft,
      fun callback hcallback howner => absurd howner
        ((nothing_of_unknown registry plugin h hnone htarget).2 callback hcallback)⟩
  others _ := rfl
  table _ _ := Iff.rfl
  done _ := by
    refine ⟨hnone, fun _ hleft => nothing_of_unknown registry plugin h hnone hleft, ?_⟩
    intro callback hcallback
    obtain ⟨target, htarget, hmem⟩ := h.listed callback hcallback
    exact (nothing_of_unknown registry plugin h hnone htarget).2 callback hmem

theorem released_done (h : WellFormed registry) (owner : OwnerState)
    (hall : ¬ ∃ target ∈ registry.targets,
      Unrestored registry plugin physicalEnabled attempts target) :
    (released registry plugin physicalEnabled attempts owner).owners plugin = none ∧
      (∀ left ∈ (released registry plugin physicalEnabled attempts owner).targets,
        plugin ∉ left.leases ∧ ∀ callback ∈ left.callbacks, registry.owner callback ≠ plugin) ∧
      ∀ callback ∈ (released registry plugin physicalEnabled attempts owner).callbacks,
        registry.owner callback ≠ plugin := by
  have hleft : ∀ left ∈ (released registry plugin physicalEnabled attempts owner).targets,
      plugin ∉ left.leases ∧ ∀ callback ∈ left.callbacks, registry.owner callback ≠ plugin := by
    intro left hleft
    obtain ⟨⟨target, htarget, heq⟩, -⟩ :=
      (mem_released_targets registry plugin physicalEnabled attempts).mp hleft
    refine released_loses registry plugin physicalEnabled attempts h owner htarget
      (fun hunrestored => hall ⟨target, htarget, hunrestored⟩) hleft ?_
    rw [← heq, releasedTarget_handle]
  refine ⟨?_, hleft, ?_⟩
  · unfold released
    show ((ite _ _ _ : KeelPluginHandle → Option OwnerState) plugin) = none
    rw [if_neg hall, Function.update_self]
  · intro callback hcallback
    obtain ⟨target, htarget, hmem⟩ := (WellFormed.released registry plugin physicalEnabled attempts
      h owner).listed callback hcallback
    exact (hleft target htarget).2 callback hmem

theorem released_released (h : WellFormed registry) (howner : registry.owners plugin = some owner) :
    Released plugin (Unrestored registry plugin physicalEnabled attempts) registry
      (released registry plugin physicalEnabled attempts owner)
      (if ∃ target ∈ registry.targets,
          Unrestored registry plugin physicalEnabled attempts target then .engineFailure
        else .ok) where
  answers := by
    split
    · exact Or.inr (Or.inr rfl)
    · exact Or.inl rfl
  owner := rfl
  busy hbusy := by
    split at hbusy
    · cases hbusy
    · cases hbusy
  failed hfailed := by
    split at hfailed
    · rename_i hunrestored
      refine ⟨hunrestored, isSome_released_owners registry plugin physicalEnabled attempts ?_
        fun _ => hunrestored⟩
      rw [howner]
      rfl
    · cases hfailed
  kept _ target htarget hunrestored := by
    obtain ⟨hmem, hcallbacks⟩ := released_keeps registry plugin physicalEnabled attempts h owner
      htarget hunrestored
    exact ⟨target, hmem, rfl, rfl, rfl, hcallbacks⟩
  lost _ target htarget hrestored :=
    ⟨fun _ hleft hhandle => released_loses registry plugin physicalEnabled attempts h owner htarget
      hrestored hleft hhandle, fun callback hcallback hcallbackOwner hmem =>
      ((mem_released_callbacks registry plugin physicalEnabled attempts).mp hmem).2 target htarget
        hrestored ((mem_ownedCallbacks registry plugin).mpr ⟨hcallback, hcallbackOwner⟩)⟩
  others := othersOn_released registry plugin physicalEnabled attempts owner
  table callback hother := by
    rw [mem_released_callbacks, and_iff_left]
    exact fun _ _ _ howned => hother ((mem_ownedCallbacks registry plugin).mp howned).2
  done hdone := by
    split at hdone
    · cases hdone
    · rename_i hall
      exact released_done registry plugin physicalEnabled attempts h owner hall

theorem released_retry (service : Service) (h : WellFormed service.registry) {thread : Thread}
    (hcurrent : ∀ callback ∈ thread.callbackStack, service.registry.owner callback ≠ plugin)
    (hclear : ∀ target ∈ service.registry.targets, Clear equalPath service.registry plugin
      owner.path thread target)
    (hunrestored : ∃ target ∈ service.registry.targets, Unrestored service.registry plugin
      service.physicalEnabled attempts target)
    {after : Service}
    (hafter : after.registry = released service.registry plugin service.physicalEnabled attempts
      owner)
    (quiescent : Bool → Nat → Bool) {again : Nat → Attempts}
    (hagain : ∀ handle, (again handle).first = true) :
    (releasePlugin equalPath plugin thread quiescent again after).1 = .ok := by
  have hwell := WellFormed.released service.registry plugin service.physicalEnabled attempts h owner
  have howners : after.registry.owners plugin = some { owner with accepting := false } := by
    rw [hafter]
    show ((ite _ _ _ : KeelPluginHandle → Option OwnerState) plugin) = _
    rw [if_pos hunrestored, Function.update_self]
  have hstill : ∀ target ∈ after.registry.targets,
      Clear equalPath after.registry plugin owner.path thread target := by
    intro left hleft
    rw [hafter] at hleft ⊢
    obtain ⟨⟨target, htarget, rfl⟩, -⟩ := (mem_released_targets service.registry plugin
      service.physicalEnabled attempts).mp hleft
    obtain ⟨hshared, hheld⟩ := hclear target htarget
    by_cases htargetUnrestored :
        Unrestored service.registry plugin service.physicalEnabled attempts target
    · rw [releasedTarget_of_unrestored service.registry plugin service.physicalEnabled attempts
        htargetUnrestored]
      exact ⟨hshared, hheld⟩
    · obtain ⟨hlease, hcallbacks⟩ := releasedTarget_of_restored service.registry plugin
        service.physicalEnabled attempts htargetUnrestored
      obtain ⟨hleases, hsubset⟩ := releasedTarget_subset service.registry plugin
        service.physicalEnabled attempts target
      refine ⟨fun ⟨htouches, hboth⟩ => hshared ⟨?_, ?_⟩, fun hholds => absurd hholds ?_⟩
      · unfold releasedTarget at htouches
        split at htouches
        · exact htouches
        · exact htouches
      · exact hboth.imp (fun ⟨lease, hmem, hne⟩ => ⟨lease, hleases hmem, hne⟩)
          fun ⟨callback, hmem, hne⟩ => ⟨callback, hsubset hmem, hne⟩
      · rintro (hmem | howned)
        · exact hlease hmem
        · obtain ⟨callback, hmem⟩ := List.exists_mem_of_ne_nil _ howned
          obtain ⟨hcallback, hcallbackOwner⟩ := (mem_ownedCallbacks _ plugin).mp hmem
          exact hcallbacks callback hcallback hcallbackOwner
  have hdistinct : (after.registry.targets.map TargetRecord.handle).Nodup := by
    rw [hafter]
    exact hwell.distinct
  have hstack : ∀ callback ∈ thread.callbackStack, after.registry.owner callback ≠ plugin := by
    rw [hafter]
    exact hcurrent
  rw [(releasePlugin_of_clear equalPath plugin again after thread quiescent hdistinct howners hstack
    hstill).1, if_neg]
  rintro ⟨target, -, -, -, -, hfirst, -⟩
  rw [hagain] at hfirst
  cases hfirst

/-- A release, whatever the service did before and whichever hooks come off. -/
theorem releasePlugin_released (actions : List Action) (thread : Thread)
    (quiescent : Bool → Nat → Bool) :
    let before := Lib.run (step equalPath) Service.initial actions
    let answer := releasePlugin equalPath plugin thread quiescent attempts before
    Released plugin (Unrestored before.registry plugin before.physicalEnabled attempts)
        before.registry answer.2.registry answer.1 ∧
      (answer.1 = .engineFailure → ∀ (quiescent : Bool → Nat → Bool) (again : Nat → Attempts),
        (∀ handle, (again handle).first = true) →
          (releasePlugin equalPath plugin thread quiescent again answer.2).1 = .ok) := by
  intro before answer
  have h : WellFormed before.registry := wellFormed_run equalPath actions
  rcases releasePlugin_cases equalPath plugin attempts before thread quiescent h.distinct with
    ⟨hnone, hanswer, hregistry⟩ | ⟨hanswer, hregistry⟩ |
      ⟨owner, howner, hcurrent, hclear, hanswer, hregistry⟩
  · rw [hanswer, hregistry]
    refine ⟨released_unknown before.registry plugin before.physicalEnabled attempts h hnone, ?_⟩
    intro hfailed
    cases hfailed
  · rw [hanswer, hregistry]
    refine ⟨released_busy before.registry plugin _, ?_⟩
    intro hfailed
    cases hfailed
  · rw [hanswer, hregistry]
    refine ⟨released_released before.registry plugin before.physicalEnabled attempts h howner, ?_⟩
    intro hfailed quiescent again hagain
    split at hfailed
    · rename_i hunrestored
      exact released_retry equalPath plugin attempts before h hcurrent hclear hunrestored hregistry
        quiescent hagain
    · cases hfailed

end Law

end KeelS2.KeelHook.Registered
