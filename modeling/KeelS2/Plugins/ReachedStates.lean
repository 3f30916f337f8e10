import KeelS2.Plugins.UnloadAll

/-!
# What holds whenever the manager is looked at

Commands of any threads, with any answers of the plugins and of the services, in any order.
-/

namespace KeelS2.Plugins.Machine

open Lib (run)

theorem reached_kept (actions : List Action) : (run step initial actions).Kept :=
  Lib.run_invariant (fun _ action hkept => hkept.step action) initial_kept actions

/-- What runs stands in the load order, once, and what stands there has its image open. -/
theorem load_order_law (actions : List Action) :
    let host := (run step initial actions).host
    host.loadOrder.Nodup ∧ (∀ handle ∈ host.loadOrder, host.openImage handle = some true) ∧
    ∀ handle plugin, host.pluginByHandle handle = some plugin →
      plugin.state = .loaded ∨ plugin.state = .paused ∨ plugin.acceptingResources = true →
      handle ∈ host.loadOrder := by
  intro host
  have hordered := (reached_kept actions).ordered
  refine ⟨hordered.nodup, hordered.opened, fun handle plugin hplugin hruns => ?_⟩
  rcases or_assoc.2 hruns with hstate | haccepting
  · exact hordered.running handle plugin hplugin hstate
  · exact hordered.accepting handle plugin hplugin haccepting

/-- Of the handles that were given out, no image is opened again. -/
theorem open_images_shrink (earlier later : List Action) :
    {handle | (run step initial earlier).host.Allotted handle ∧
      (run step initial (earlier ++ later)).host.openImage handle = some true} ⊆
    {handle | (run step initial earlier).host.openImage handle = some true} := by
  intro handle
  have hkept := reached_kept earlier
  rw [Lib.run_append]
  generalize run step initial earlier = machine at hkept ⊢
  show _ ∧ _ → _
  intro ⟨hallotted, hopen⟩
  induction later generalizing machine with
  | nil => exact hopen
  | cons action later ih =>
    have hnext := step_allotted hkept.safe action handle hallotted
    exact step_closing hkept.safe hkept.imaged action handle hallotted
      (ih _ (hkept.step action) hnext hopen)

end KeelS2.Plugins.Machine
