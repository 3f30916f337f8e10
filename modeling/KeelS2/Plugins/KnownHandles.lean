import KeelS2.Plugins.OpenImages

/-!
# Handles of known plugins

A plugin that is disabled keeps the handle it had, so each known plugin has a handle that was given
away, and a handle that was given away names the same plugin for ever, or none.
-/

namespace KeelS2.Plugins
/-! ## Hosts that follow one another -/

namespace Host

/-- Each known plugin has a handle that was given. -/
def Known (host : Host) : Prop :=
  ∀ plugin ∈ host.knownPlugins, host.Allotted plugin.handle

/-- Handles are given in ascending order, and one that was given is not given again. -/
def Succeeds (host after : Host) : Prop :=
  after.Known ∧ (after.nextPlugin = 0 ∨ host.nextPlugin ≠ 0 ∧ host.nextPlugin ≤ after.nextPlugin) ∧
    ∀ plugin ∈ after.plugins, host.Allotted plugin.handle →
      (host.pluginByHandle plugin.handle).isSome = true

instance (host : Host) (handle : KeelPluginHandle) : Decidable (host.Allotted handle) :=
  inferInstanceAs (Decidable (_ ∧ _))

instance (host : Host) : Decidable host.Known :=
  inferInstanceAs (Decidable (∀ plugin ∈ host.knownPlugins, host.Allotted plugin.handle))

instance (host after : Host) : Decidable (host.Succeeds after) :=
  inferInstanceAs (Decidable (_ ∧ _ ∧ _))

theorem Succeeds.allotted {host after : Host} (hsucceeds : host.Succeeds after)
    {handle : KeelPluginHandle} (hallotted : host.Allotted handle) : after.Allotted handle := by
  obtain ⟨hne, hlt⟩ := hallotted
  refine ⟨hne, hsucceeds.2.1.imp_right fun hnext => ?_⟩
  exact Nat.lt_of_lt_of_le (hlt.resolve_left hnext.1) hnext.2

end Host

end KeelS2.Plugins
