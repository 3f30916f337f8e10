import KeelS2.Hosting.FactoryService

/-!
# Replacements are pinned

Whoever has given the engine a replacement is pinned, and so it is never quiesced: a `Deactivate`
finds it pinned, or its replacement was never given. This rests on who may enable a provider, and
when.
-/

namespace KeelS2.Hosting.Factories

open Lib (run Heeds)
open Function (update update_of_ne update_self)

/-- The plugin's providers may be called after it. -/
def Event.enables (plugin : KeelPluginHandle) : Event → Bool
  | .activated other => other == plugin
  | .registered other => other == plugin
  | _ => false

/-- `ReleasePlugin` of the plugin is under way. -/
def Frame.releases (plugin : KeelPluginHandle) : Frame → Bool
  | .deactivate other _ true => other == plugin
  | .erase other => other == plugin
  | _ => false

namespace FactoryService

/-- `Unsubscribe` of one of its providers is. -/
def unsubscribes (service : FactoryService) (plugin : KeelPluginHandle) : Frame → Bool
  | .unsubscribe handle => (service.records handle).owner == plugin
  | .remove handle => (service.records handle).owner == plugin
  | _ => false

/-- A plugin is not enabled while what it has is being taken away. -/
def Orderly (service : FactoryService) : Nat × Act → Prop
  | (_, .activate plugin) => ∀ thread, ∀ frame ∈ service.callStacks thread,
    frame.releases plugin = false ∧ service.unsubscribes plugin frame = false
  | (_, .subscribe plugin _ _ _ (some owner)) =>
    (owner.loaded && !owner.loading && owner.factoryDispatchEnabled) = true →
      ∀ thread, ∀ frame ∈ service.callStacks thread, frame.releases plugin = false
  | _ => True

/-- Whoever has given the engine something is pinned. -/
def Pinned (service : FactoryService) : Prop :=
  ∀ plugin pointer, .returned plugin pointer ∈ service.history → plugin ∈ service.pinned

end FactoryService

/-! ## Histories -/

/-- Nothing was enabled since the thread began to quiesce the plugin. -/
def Clean (thread : Nat) (plugin : KeelPluginHandle) : List Event → Prop
  | [] => False
  | event :: earlier => event = .began thread plugin ∨
    (event.enables plugin = false ∧ Clean thread plugin earlier)

/-- The plugin was quiesced, and is still. -/
def Settled (plugin : KeelPluginHandle) : List Event → Prop
  | [] => False
  | event :: earlier => event.enables plugin = false ∧
    ((∃ thread, event = .quiesced thread plugin ∧ Clean thread plugin earlier) ∨
      Settled plugin earlier)

variable {thread : Nat} {plugin : KeelPluginHandle}

namespace Frame

/-- The provider that is being called. -/
def runs : Frame → Option KeelFactorySubscriptionHandle
  | .dispatch ⟨_, _, .running handle, _, _, _, _⟩ => some handle
  | _ => none

/-- It is counted in the subscription's `active`. -/
def holds (handle : KeelFactorySubscriptionHandle) : Frame → Bool
  | .dispatch call =>
    match call.point with
    | .entered other => other == handle
    | .running other => other == handle
    | .leaving other => other == handle
    | _ => false
  | _ => false

/-- The subscriptions a frame knows of. -/
def handles : Frame → List KeelFactorySubscriptionHandle
  | .dispatch call =>
    match call.point with
    | .entered handle => handle :: call.callbacks
    | .running handle => handle :: call.callbacks
    | .leaving handle => handle :: call.callbacks
    | _ => call.callbacks
  | .deactivate _ owned _ => owned
  | .unsubscribe handle => [handle]
  | .remove handle => [handle]
  | _ => []

/-- It waits, or takes away: nothing is called from within it. -/
def waits : Frame → Bool
  | .deactivate _ _ _ => true
  | .erase _ => true
  | .unsubscribe _ => true
  | .remove _ => true
  | _ => false

theorem holds_of_runs {frame : Frame} {handle : KeelFactorySubscriptionHandle}
    (hruns : frame.runs = some handle) : frame.holds handle = true := by
  cases frame with
  | dispatch call =>
    obtain ⟨boundary, name, point, callbacks, current, replaced, supplier⟩ := call
    cases point with
    | running other =>
      cases hruns
      simp [holds]
    | _ => cases hruns
  | _ => cases hruns

theorem mem_handles_of_holds {frame : Frame} {handle : KeelFactorySubscriptionHandle}
    (hholds : frame.holds handle = true) : handle ∈ frame.handles := by
  cases frame with
  | dispatch call =>
    obtain ⟨boundary, name, point, callbacks, current, replaced, supplier⟩ := call
    cases point with
    | original => simp [holds] at hholds
    | next => simp [holds] at hholds
    | entered other =>
      obtain rfl : other = handle := by simpa [holds] using hholds
      exact List.mem_cons_self
    | running other =>
      obtain rfl : other = handle := by simpa [holds] using hholds
      exact List.mem_cons_self
    | leaving other =>
      obtain rfl : other = handle := by simpa [holds] using hholds
      exact List.mem_cons_self
  | _ => cases hholds

end Frame

namespace FactoryService

variable {service after : FactoryService} {handle : KeelFactorySubscriptionHandle}

/-! ## What is kept -/

/-- The handle was given out. -/
def Used (service : FactoryService) (handle : Nat) : Prop :=
  handle < service.next ∨ service.next = 0 ∧ handle < 2 ^ 64

/-- The provider is not being called. -/
def Resting (service : FactoryService) (handle : KeelFactorySubscriptionHandle) : Prop :=
  ∀ thread, ∀ frame ∈ service.callStacks thread, frame.runs ≠ some handle

/-- The plugin's providers are disabled, and none is being called but those still waited for. -/
def Quiet (service : FactoryService) (plugin : KeelPluginHandle)
    (owned : List KeelFactorySubscriptionHandle) : Prop :=
  ∀ handle, service.Used handle → (service.records handle).owner = plugin →
    (service.records handle).enabled = false ∧ (handle ∈ owned ∨ service.Resting handle)

/-- What a frame relies on. -/
def Relies (service : FactoryService) (thread : Nat) : Frame → Prop
  | .query _ => True
  | .dispatch dispatch => ∀ plugin, dispatch.supplier = some plugin → plugin ∈ service.pinned
  | .deactivate plugin owned release => release = true ∨ Clean thread plugin service.history →
    service.Quiet plugin owned
  | .erase plugin => service.Quiet plugin [] ∧ plugin ∉ service.pinned
  | .unsubscribe handle => (service.records handle).enabled = false
  | .remove handle => (service.records handle).enabled = false ∧ service.Resting handle

structure Kept (service : FactoryService) : Prop where
  bounded : service.next < 2 ^ 64
  used : ∀ handle ∈ service.subscriptions, service.Used handle
  known : ∀ thread, ∀ frame ∈ service.callStacks thread, ∀ handle ∈ frame.handles,
    service.Used handle
  counted : ∀ handle, Lib.Counts
    (fun thread => (service.callStacks thread).countP (Frame.holds handle))
      (service.records handle).active
  below : ∀ thread, ∀ frame ∈ (service.callStacks thread).tail, frame.waits = false
  erased : ∀ handle, service.Used handle → handle ∉ service.subscriptions →
    (service.records handle).enabled = false ∧ service.Resting handle
  relied : ∀ thread, ∀ frame ∈ service.callStacks thread, service.Relies thread frame
  settled : ∀ plugin, Settled plugin service.history →
    service.Quiet plugin [] ∧ plugin ∉ service.pinned
  pinned : service.Pinned

theorem initial_kept (boundaries : Nat) : Kept (initial boundaries) where
  bounded := by simp [initial]
  used _ hmem := by cases hmem
  known _ _ hmem := by cases hmem
  counted _ := Lib.counts_zero
  below _ _ hmem := by cases hmem
  erased _ _ _ := ⟨rfl, fun _ _ hmem => by cases hmem⟩
  relied _ _ hmem := by cases hmem
  settled _ hsettled := by cases hsettled
  pinned _ _ hmem := by cases hmem

/-! ## What is told -/

/-- What an event must be. -/
def Tells (service : FactoryService) : Event → Prop
  | .returned plugin _ => plugin ∈ service.pinned
  | .began thread plugin => ∀ owned release, .deactivate plugin owned release ∈
    service.callStacks thread → service.Quiet plugin owned
  | .quiesced thread plugin => Clean thread plugin service.history →
    service.Quiet plugin [] ∧ plugin ∉ service.pinned
  | _ => True

theorem Kept.tell (hkept : Kept service) {event : Event} (htells : service.Tells event) :
    Kept (service.tell event) where
  bounded := hkept.bounded
  used := hkept.used
  known := hkept.known
  counted := hkept.counted
  below := hkept.below
  erased := hkept.erased
  relied thread frame hmem := by
    have hrelies := hkept.relied thread frame hmem
    cases frame with
    | deactivate plugin owned release =>
      intro hclean
      rcases hclean with hrelease | hbegan | ⟨_, hclean⟩
      · exact hrelies (.inl hrelease)
      · subst hbegan
        exact htells owned release hmem
      · exact hrelies (.inr hclean)
    | _ => exact hrelies
  settled plugin hsettled := by
    obtain ⟨_, ⟨thread, hquiesced, hclean⟩ | hsettled⟩ := hsettled
    · subst hquiesced
      exact htells hclean
    · exact hkept.settled plugin hsettled
  pinned plugin pointer hmem := by
    rcases List.mem_cons.1 hmem with heq | hmem
    · subst heq
      exact htells
    · exact hkept.pinned plugin pointer hmem

/-! ## Threads -/

variable {olds tops frames : List Frame} {pins : List KeelPluginHandle}

/-- A thread goes on: its topmost frames are others, and what it counts and pins is theirs. -/
structure Moves (service after : FactoryService) (thread : Nat) (olds tops frames : List Frame)
    (pins : List KeelPluginHandle) : Prop where
  stack : service.callStacks thread = olds ++ frames
  callStacks : after.callStacks = update service.callStacks thread (tops ++ frames)
  subscriptions : after.subscriptions = service.subscriptions
  next : after.next = service.next
  history : after.history = service.history
  pinned : after.pinned = pins ++ service.pinned
  records : ∀ handle, (after.records handle).owner = (service.records handle).owner ∧
    (after.records handle).enabled = (service.records handle).enabled
  active : ∀ handle, (after.records handle).active + olds.countP (Frame.holds handle) =
    (service.records handle).active + tops.countP (Frame.holds handle)
  below : ∀ frame ∈ (tops ++ frames).tail, frame.waits = false
  known : ∀ frame ∈ tops, ∀ handle ∈ frame.handles, service.Used handle
  runs : ∀ frame ∈ tops, ∀ handle, frame.runs = some handle →
    (service.records handle).enabled = true
  pins : ∀ plugin ∈ pins, ∃ old ∈ olds, ∃ handle, old.runs = some handle ∧
    (service.records handle).owner = plugin

section

variable (hmoves : Moves service after thread olds tops frames pins)

include hmoves

theorem Moves.used : after.Used handle ↔ service.Used handle := by
  unfold Used
  rw [hmoves.next]

theorem Moves.mem {other : Nat} {frame : Frame} (hmem : frame ∈ after.callStacks other) :
    frame ∈ service.callStacks other ∨ other = thread ∧ frame ∈ tops := by
  rw [hmoves.callStacks] at hmem
  by_cases hsame : other = thread
  · subst hsame
    rw [update_self] at hmem
    rcases List.mem_append.1 hmem with hmem | hmem
    · exact .inr ⟨rfl, hmem⟩
    · rw [hmoves.stack]
      exact .inl (List.mem_append_right _ hmem)
  · rw [update_of_ne hsame] at hmem
    exact .inl hmem

theorem Moves.resting (hdisabled : (service.records handle).enabled = false)
    (hresting : service.Resting handle) : after.Resting handle := by
  intro other frame hmem hruns
  rcases hmoves.mem hmem with hmem | ⟨_, hmem⟩
  · exact hresting other frame hmem hruns
  · rw [hmoves.runs frame hmem handle hruns] at hdisabled
    cases hdisabled

end

variable {record : Subscription} {owned : List KeelFactorySubscriptionHandle}

section

variable (hmoves : Moves service after thread olds tops frames pins)

include hmoves

theorem Moves.quiet (hquiet : service.Quiet plugin owned) : after.Quiet plugin owned := by
  intro handle hused howner
  rw [(hmoves.records handle).1] at howner
  obtain ⟨hdisabled, hrests⟩ := hquiet handle (hmoves.used.1 hused) howner
  refine ⟨(hmoves.records handle).2.trans hdisabled, hrests.imp_right ?_⟩
  exact hmoves.resting hdisabled

theorem Moves.unpinned (hkept : Kept service) (hquiet : service.Quiet plugin [])
    (hpinned : plugin ∉ service.pinned) : plugin ∉ after.pinned := by
  rw [hmoves.pinned, List.mem_append]
  rintro (hpins | hold)
  · obtain ⟨old, hmem, handle, hruns, howner⟩ := hmoves.pins plugin hpins
    have hstack : old ∈ service.callStacks thread := by
      rw [hmoves.stack]
      exact List.mem_append_left _ hmem
    have hused := hkept.known thread old hstack handle
      (Frame.mem_handles_of_holds (Frame.holds_of_runs hruns))
    obtain ⟨_, hnone | hresting⟩ := hquiet handle hused howner
    · cases hnone
    · exact hresting thread old hstack hruns
  · exact hpinned hold

theorem Moves.relies (hkept : Kept service) {other : Nat} {frame : Frame}
    (hrelies : service.Relies other frame) : after.Relies other frame := by
  cases frame with
  | query original => trivial
  | dispatch call =>
    intro plugin hsupplier
    rw [hmoves.pinned]
    exact List.mem_append_right _ (hrelies plugin hsupplier)
  | deactivate plugin owned release =>
    intro hclean
    rw [hmoves.history] at hclean
    exact hmoves.quiet (hrelies hclean)
  | erase plugin => exact ⟨hmoves.quiet hrelies.1, hmoves.unpinned hkept hrelies.1 hrelies.2⟩
  | unsubscribe handle => exact (hmoves.records handle).2.trans hrelies
  | remove handle =>
    exact ⟨(hmoves.records handle).2.trans hrelies.1, hmoves.resting hrelies.1 hrelies.2⟩

end

theorem Kept.moves (hkept : Kept service)
    (hmoves : Moves service after thread olds tops frames pins)
    (hrelied : ∀ frame ∈ tops, after.Relies thread frame) : Kept after where
  bounded := hmoves.next ▸ hkept.bounded
  used handle hmem := by
    rw [hmoves.subscriptions] at hmem
    exact hmoves.used.2 (hkept.used handle hmem)
  known other frame hmem handle hhandle := by
    refine hmoves.used.2 ?_
    rcases hmoves.mem hmem with hmem | ⟨_, hmem⟩
    · exact hkept.known other frame hmem handle hhandle
    · exact hmoves.known frame hmem handle hhandle
  counted handle := by
    have hupdate : (fun other => (after.callStacks other).countP (Frame.holds handle)) =
        update (fun other => (service.callStacks other).countP (Frame.holds handle)) thread
          ((tops ++ frames).countP (Frame.holds handle)) := by
      funext other
      rw [hmoves.callStacks]
      by_cases hsame : other = thread
      · subst hsame
        rw [update_self, update_self]
      · rw [update_of_ne hsame, update_of_ne hsame]
    rw [hupdate]
    refine (hkept.counted handle).update ?_
    have hactive := hmoves.active handle
    rw [hmoves.stack, List.countP_append, List.countP_append]
    omega
  below other frame hmem := by
    rw [hmoves.callStacks] at hmem
    by_cases hsame : other = thread
    · subst hsame
      rw [update_self] at hmem
      exact hmoves.below frame hmem
    · rw [update_of_ne hsame] at hmem
      exact hkept.below other frame hmem
  erased handle hused hmem := by
    rw [hmoves.subscriptions] at hmem
    obtain ⟨hdisabled, hresting⟩ := hkept.erased handle (hmoves.used.1 hused) hmem
    exact ⟨(hmoves.records handle).2.trans hdisabled, hmoves.resting hdisabled hresting⟩
  relied other frame hmem := by
    rcases hmoves.mem hmem with hmem | ⟨rfl, hmem⟩
    · exact hmoves.relies hkept (hkept.relied other frame hmem)
    · exact hrelied frame hmem
  settled plugin hsettled := by
    rw [hmoves.history] at hsettled
    obtain ⟨hquiet, hpinned⟩ := hkept.settled plugin hsettled
    exact ⟨hmoves.quiet hquiet, hmoves.unpinned hkept hquiet hpinned⟩
  pinned plugin pointer hmem := by
    rw [hmoves.history] at hmem
    rw [hmoves.pinned]
    exact List.mem_append_right _ (hkept.pinned plugin pointer hmem)

/-! ## Registrations -/

section

variable (chosen : KeelFactorySubscriptionHandle → Bool)

include chosen

theorem setEnabled_owner (enabled : Bool) (handle : KeelFactorySubscriptionHandle) :
    ((service.setEnabled chosen enabled).records handle).owner =
    (service.records handle).owner := by
  simp only [setEnabled]
  split
  · rfl
  · rfl

theorem setEnabled_active (enabled : Bool) (handle : KeelFactorySubscriptionHandle) :
    ((service.setEnabled chosen enabled).records handle).active =
      (service.records handle).active := by
  simp only [setEnabled]
  split
  · rfl
  · rfl

theorem setEnabled_false (handle : KeelFactorySubscriptionHandle) :
    ((service.setEnabled chosen false).records handle).enabled =
      (!chosen handle && (service.records handle).enabled) := by
  simp only [setEnabled]
  cases chosen handle with
  | true => rfl
  | false => rfl

theorem Quiet.disables (hquiet : service.Quiet plugin owned) :
    (service.setEnabled chosen false).Quiet plugin owned := by
  intro handle hused howner
  rw [setEnabled_owner] at howner
  obtain ⟨hdisabled, hrests⟩ := hquiet handle hused howner
  rw [setEnabled_false, hdisabled]
  exact ⟨Bool.and_false _, hrests⟩

end

theorem Kept.disables (hkept : Kept service) (chosen : KeelFactorySubscriptionHandle → Bool) :
    Kept (service.setEnabled chosen false) where
  bounded := hkept.bounded
  used := hkept.used
  known := hkept.known
  counted handle := by
    rw [setEnabled_active]
    exact hkept.counted handle
  below := hkept.below
  erased handle hused hmem := by
    obtain ⟨hdisabled, hresting⟩ := hkept.erased handle hused hmem
    rw [setEnabled_false, hdisabled]
    exact ⟨Bool.and_false _, hresting⟩
  relied thread frame hmem := by
    have hrelies := hkept.relied thread frame hmem
    cases frame with
    | query original => trivial
    | dispatch call => exact hrelies
    | deactivate plugin owned release =>
      intro hclean
      exact (hrelies hclean).disables chosen
    | erase plugin => exact ⟨hrelies.1.disables chosen, hrelies.2⟩
    | unsubscribe handle =>
      have hdisabled : (service.records handle).enabled = false := hrelies
      show ((service.setEnabled chosen false).records handle).enabled = false
      rw [setEnabled_false, hdisabled]
      exact Bool.and_false _
    | remove handle =>
      have hdisabled : (service.records handle).enabled = false := hrelies.1
      refine ⟨?_, hrelies.2⟩
      rw [setEnabled_false, hdisabled]
      exact Bool.and_false _
  settled plugin hsettled := by
    obtain ⟨hquiet, hpinned⟩ := hkept.settled plugin hsettled
    exact ⟨hquiet.disables chosen, hpinned⟩
  pinned := hkept.pinned

theorem Kept.erases (hkept : Kept service) (stays : KeelFactorySubscriptionHandle → Bool)
    (hgone : ∀ handle ∈ service.subscriptions, stays handle = false →
      (service.records handle).enabled = false ∧ service.Resting handle) :
    Kept { service with subscriptions := service.subscriptions.filter stays } where
  bounded := hkept.bounded
  used handle hmem := hkept.used handle (List.mem_of_mem_filter hmem)
  known := hkept.known
  counted := hkept.counted
  below := hkept.below
  erased handle hused hmem := by
    by_cases hold : handle ∈ service.subscriptions
    · refine hgone handle hold ?_
      rw [Bool.eq_false_iff]
      exact fun hstays => hmem (List.mem_filter.2 ⟨hold, hstays⟩)
    · exact hkept.erased handle hused hold
  relied := hkept.relied
  settled := hkept.settled
  pinned := hkept.pinned

theorem setEnabled_of_not (chosen : KeelFactorySubscriptionHandle → Bool) (enabled : Bool)
    (hchosen : chosen handle ≠ true) :
    (service.setEnabled chosen enabled).records handle = service.records handle := by
  simp only [setEnabled, if_neg hchosen]

theorem Quiet.enables {chosen : KeelFactorySubscriptionHandle → Bool} {other : KeelPluginHandle}
    (hchosen : ∀ handle, chosen handle = true → (service.records handle).owner = other)
    (hother : other ≠ plugin) (hquiet : service.Quiet plugin owned) :
    (service.setEnabled chosen true).Quiet plugin owned := by
  intro handle hused howner
  rw [setEnabled_owner] at howner
  rw [setEnabled_of_not chosen true fun htheirs =>
    hother ((hchosen handle htheirs).symm.trans howner)]
  exact hquiet handle hused howner

theorem Kept.enables (hkept : Kept service) {event : Event}
    (hevent : event = .activated plugin ∨ event = .registered plugin)
    {chosen : KeelFactorySubscriptionHandle → Bool}
    (hchosen : ∀ handle, chosen handle = true →
      handle ∈ service.subscriptions ∧ (service.records handle).owner = plugin)
    (hreleases : ∀ thread, ∀ frame ∈ service.callStacks thread, frame.releases plugin = false)
    (hunsubscribes : ∀ thread, ∀ frame ∈ service.callStacks thread, ∀ handle,
      chosen handle = true → frame ≠ .unsubscribe handle ∧ frame ≠ .remove handle) :
    Kept ((service.setEnabled chosen true).tell event) := by
  have howners : ∀ handle, chosen handle = true → (service.records handle).owner = plugin :=
    fun handle htheirs => (hchosen handle htheirs).2
  have hothers : ∀ other, event.enables other = false → plugin ≠ other := by
    intro other henables hsame
    subst hsame
    rcases hevent with rfl | rfl
    · simp [Event.enables] at henables
    · simp [Event.enables] at henables
  refine ⟨hkept.bounded, hkept.used, hkept.known, fun handle => ?_, hkept.below,
    fun handle hused hmem => ?_,
    fun thread frame hmem => ?_, fun other hsettled => ?_, fun other pointer hmem => ?_⟩
  · show Lib.Counts _ ((service.setEnabled chosen true).records handle).active
    rw [setEnabled_active]
    exact hkept.counted handle
  · show ((service.setEnabled chosen true).records handle).enabled = false ∧ _
    rw [setEnabled_of_not chosen true fun htheirs => hmem (hchosen handle htheirs).1]
    exact hkept.erased handle hused hmem
  · have hrelies := hkept.relied thread frame hmem
    have hreleased := hreleases thread frame hmem
    cases frame with
    | query original => trivial
    | dispatch call => exact hrelies
    | deactivate other owned release =>
      intro hclean
      rcases hclean with hrelease | hbegan | ⟨hothers', hclean⟩
      · subst hrelease
        have hother : plugin ≠ other := by
          rintro rfl
          simp [Frame.releases] at hreleased
        exact (hrelies (.inl rfl)).enables howners hother
      · rcases hevent with rfl | rfl
        · cases hbegan
        · cases hbegan
      · exact (hrelies (.inr hclean)).enables howners (hothers other hothers')
    | erase other =>
      have hother : plugin ≠ other := by
        rintro rfl
        simp [Frame.releases] at hreleased
      exact ⟨hrelies.1.enables howners hother, hrelies.2⟩
    | unsubscribe handle =>
      show ((service.setEnabled chosen true).records handle).enabled = false
      rw [setEnabled_of_not chosen true fun htheirs =>
        (hunsubscribes thread _ hmem handle htheirs).1 rfl]
      exact hrelies
    | remove handle =>
      refine ⟨?_, hrelies.2⟩
      show ((service.setEnabled chosen true).records handle).enabled = false
      rw [setEnabled_of_not chosen true fun htheirs =>
        (hunsubscribes thread _ hmem handle htheirs).2 rfl]
      exact hrelies.1
  · obtain ⟨henables, ⟨thread, hquiesced, _⟩ | hsettled⟩ := hsettled
    · rcases hevent with rfl | rfl
      · cases hquiesced
      · cases hquiesced
    · obtain ⟨hquiet, hpinned⟩ := hkept.settled other hsettled
      exact ⟨hquiet.enables howners (hothers other henables), hpinned⟩
  · rcases List.mem_cons.1 hmem with heq | hmem
    · rcases hevent with rfl | rfl
      · cases heq
      · cases heq
    · exact hkept.pinned other pointer hmem

/-- A subscription that is added, and disabled. -/
def add (service : FactoryService) (record : Subscription) : FactoryService :=
  { service.setRecord service.next record with
    subscriptions := service.next :: service.subscriptions
    next := (service.next + 1) % 2 ^ 64 }

theorem Used.ne_next (hused : service.Used handle) (hnext : service.next ≠ 0) :
    handle ≠ service.next := by
  rcases hused with hbefore | ⟨hover, _⟩
  · exact Nat.ne_of_lt hbefore
  · exact absurd hover hnext

theorem used_add {handle : Nat} (hnext : service.next ≠ 0) (hbounded : service.next < 2 ^ 64) :
    (service.add record).Used handle ↔ service.Used handle ∨ handle = service.next := by
  have hadded : (service.add record).next = (service.next + 1) % 2 ^ 64 := rfl
  unfold Used
  rw [hadded]
  by_cases hlast : service.next + 1 = 2 ^ 64
  · rw [hlast, Nat.mod_self]
    omega
  · rw [Nat.mod_eq_of_lt (by omega)]
    omega

theorem add_of_ne (hother : handle ≠ service.next) :
    (service.add record).records handle = service.records handle := by
  simp only [add, setRecord, update_of_ne hother]

theorem add_next : (service.add record).records service.next = record := by
  simp only [add, setRecord, update_self]

theorem Kept.add (hkept : Kept service) (hnext : service.next ≠ 0)
    (hdisabled : record.enabled = false) (hactive : record.active = 0) :
    Kept (service.add record) := by
  have hknown : ∀ thread, ∀ frame ∈ service.callStacks thread,
      service.next ∉ frame.handles := by
    intro thread frame hmem hhandle
    exact (hkept.known thread frame hmem service.next hhandle).ne_next hnext rfl
  have hfresh : service.Resting service.next := by
    intro thread frame hmem hruns
    exact hknown thread frame hmem (Frame.mem_handles_of_holds (Frame.holds_of_runs hruns))
  have hquiet : ∀ {plugin owned}, service.Quiet plugin owned →
      (service.add record).Quiet plugin owned := by
    intro plugin owned hquiet handle hused howner
    rcases (used_add hnext hkept.bounded).1 hused with hused | rfl
    · rw [add_of_ne (hused.ne_next hnext)] at howner ⊢
      exact hquiet handle hused howner
    · rw [add_next]
      exact ⟨hdisabled, .inr hfresh⟩
  refine ⟨Nat.mod_lt _ (by decide), fun handle hmem => ?_,
    fun thread frame hmem handle hhandle => ?_,
    fun handle => ?_, hkept.below, fun handle hused hmem => ?_, fun thread frame hmem => ?_,
    fun plugin hsettled => ?_, hkept.pinned⟩
  · refine (used_add hnext hkept.bounded).2 ?_
    rcases List.mem_cons.1 hmem with rfl | hmem
    · exact .inr rfl
    · exact .inl (hkept.used handle hmem)
  · exact (used_add hnext hkept.bounded).2 (.inl (hkept.known thread frame hmem handle hhandle))
  · by_cases hsame : handle = service.next
    · subst hsame
      have hnobody : (fun thread => (service.callStacks thread).countP (Frame.holds service.next)) =
          fun _ => 0 := by
        funext thread
        refine List.countP_eq_zero.2 fun frame hmem hholds => ?_
        exact hknown thread frame hmem (Frame.mem_handles_of_holds hholds)
      show Lib.Counts (fun thread => (service.callStacks thread).countP
        (Frame.holds service.next)) _
      rw [add_next, hactive, hnobody]
      exact Lib.counts_zero
    · rw [add_of_ne hsame]
      exact hkept.counted handle
  · rcases (used_add hnext hkept.bounded).1 hused with hused | rfl
    · rw [add_of_ne (hused.ne_next hnext)]
      exact hkept.erased handle hused fun hold => hmem (List.mem_cons_of_mem _ hold)
    · exact absurd List.mem_cons_self hmem
  · have hrelies := hkept.relied thread frame hmem
    have hold : ∀ handle, handle ∈ frame.handles →
        (service.add record).records handle = service.records handle := by
      intro handle hhandle
      exact add_of_ne ((hkept.known thread frame hmem handle hhandle).ne_next hnext)
    cases frame with
    | query original => trivial
    | dispatch call => exact hrelies
    | deactivate plugin owned release => exact fun hclean => hquiet (hrelies hclean)
    | erase plugin => exact ⟨hquiet hrelies.1, hrelies.2⟩
    | unsubscribe handle =>
      show ((service.add record).records handle).enabled = false
      rw [hold handle List.mem_cons_self]
      exact hrelies
    | remove handle =>
      refine ⟨?_, hrelies.2⟩
      rw [hold handle List.mem_cons_self]
      exact hrelies.1
  · obtain ⟨hsettled, hpinned⟩ := hkept.settled plugin hsettled
    exact ⟨hquiet hsettled, hpinned⟩

/-! ## Single frames -/

variable {old next : Frame}

section

variable (hkept : Kept service)

include hkept

theorem Kept.requeries (queries : Nat) : Kept { service with queries := queries } :=
  ⟨hkept.bounded, hkept.used, hkept.known, hkept.counted, hkept.below, hkept.erased, hkept.relied,
    hkept.settled, hkept.pinned⟩

theorem Kept.under (hstack : service.callStacks thread = old :: frames) :
    ∀ frame ∈ frames, frame.waits = false := by
  have hbelow := hkept.below thread
  rw [hstack, List.tail_cons] at hbelow
  exact hbelow

theorem Kept.outside (houtside : service.outside thread = true) :
    ∀ frame ∈ service.callStacks thread, frame.waits = false := by
  cases hstack : service.callStacks thread with
  | nil =>
    intro frame hmem
    cases hmem
  | cons first frames =>
    intro frame hmem
    rcases List.mem_cons.1 hmem with rfl | hmem
    · unfold FactoryService.outside at houtside
      rw [hstack] at houtside
      cases frame with
      | query original => rfl
      | dispatch call => rfl
      | deactivate plugin owned release => cases houtside
      | erase plugin => cases houtside
      | unsubscribe handle => cases houtside
      | remove handle => cases houtside
    · exact hkept.under hstack frame hmem

theorem Kept.pushing (houtside : service.outside thread = true)
    (hholds : ∀ handle, next.holds handle = false)
    (hknown : ∀ handle ∈ next.handles, service.Used handle) :
    Moves service (service.setStack thread (next :: service.callStacks thread)) thread [] [next]
      (service.callStacks thread) [] where
  stack := rfl
  callStacks := rfl
  subscriptions := rfl
  next := rfl
  history := rfl
  pinned := rfl
  records _ := ⟨rfl, rfl⟩
  active handle := by simp [setStack, hholds handle]
  below := hkept.outside houtside
  known frame hmem := by
    obtain rfl := List.mem_singleton.1 hmem
    exact hknown
  runs frame hmem handle hruns := by
    obtain rfl := List.mem_singleton.1 hmem
    have hheld := Frame.holds_of_runs hruns
    rw [hholds handle] at hheld
    cases hheld
  pins _ hmem := by cases hmem

theorem Kept.pushes (houtside : service.outside thread = true)
    (hholds : ∀ handle, next.holds handle = false)
    (hknown : ∀ handle ∈ next.handles, service.Used handle) (hrelies : service.Relies thread next) :
    Kept (service.setStack thread (next :: service.callStacks thread)) := by
  have hmoves := hkept.pushing houtside hholds hknown
  refine hkept.moves hmoves fun frame hmem => ?_
  obtain rfl := List.mem_singleton.1 hmem
  exact hmoves.relies hkept hrelies

section

variable (hstack : service.callStacks thread = old :: frames)

include hstack

theorem Kept.turns (hholds : ∀ handle, next.holds handle = old.holds handle)
    (hknown : ∀ handle ∈ next.handles, service.Used handle)
    (hruns : ∀ handle, next.runs = some handle → (service.records handle).enabled = true)
    (hrelies : service.Relies thread next) : Kept (service.setStack thread (next :: frames)) := by
  have hmoves : Moves service (service.setStack thread (next :: frames)) thread [old] [next] frames
      [] :=
    { stack := hstack
      callStacks := rfl
      subscriptions := rfl
      next := rfl
      history := rfl
      pinned := rfl
      records := fun _ => ⟨rfl, rfl⟩
      active := fun handle => by simp [setStack, List.countP_cons, hholds handle]
      below := hkept.under hstack
      known := fun frame hmem => by
        obtain rfl := List.mem_singleton.1 hmem
        exact hknown
      runs := fun frame hmem => by
        obtain rfl := List.mem_singleton.1 hmem
        exact hruns
      pins := fun _ hmem => by cases hmem }
  refine hkept.moves hmoves fun frame hmem => ?_
  obtain rfl := List.mem_singleton.1 hmem
  exact hmoves.relies hkept hrelies

theorem Kept.popping (hholds : ∀ handle, old.holds handle = false) :
    Moves service (service.setStack thread frames) thread [old] [] frames [] where
  stack := hstack
  callStacks := rfl
  subscriptions := rfl
  next := rfl
  history := rfl
  pinned := rfl
  records _ := ⟨rfl, rfl⟩
  active handle := by simp [setStack, hholds handle]
  below frame hmem := hkept.under hstack frame (List.mem_of_mem_tail hmem)
  known _ hmem := by cases hmem
  runs _ hmem := by cases hmem
  pins _ hmem := by cases hmem

theorem Kept.pops (hholds : ∀ handle, old.holds handle = false) :
    Kept (service.setStack thread frames) :=
  hkept.moves (hkept.popping hstack hholds) fun _ hmem => by cases hmem

end

end

/-! ## Dispatches -/

theorem Kept.recounts (hkept : Kept service) (hstack : service.callStacks thread = old :: frames)
    {active : Nat}
    (hactive : active + [old].countP (Frame.holds handle) =
      (service.records handle).active + [next].countP (Frame.holds handle))
    (hothers : ∀ other, other ≠ handle → next.holds other = old.holds other)
    (hknown : ∀ handle ∈ next.handles, service.Used handle) (hruns : next.runs = none)
    (hrelies : service.Relies thread next) :
    Kept ((service.setRecord handle { service.records handle with active := active }).setStack
      thread (next :: frames)) := by
  generalize hafter : (service.setRecord handle
    { service.records handle with active := active }).setStack thread (next :: frames) = after
  have hsame : after.records handle = { service.records handle with active := active } := by
    rw [← hafter]
    simp only [setStack, setRecord, update_self]
  have hother : ∀ other, other ≠ handle → after.records other = service.records other := by
    intro other hne
    rw [← hafter]
    simp only [setStack, setRecord, update_of_ne hne]
  have hmoves : Moves service after thread [old] [next] frames [] := by
    refine ⟨hstack, by rw [← hafter]; rfl, by rw [← hafter]; rfl, by rw [← hafter]; rfl,
      by rw [← hafter]; rfl, by rw [← hafter]; rfl, fun other => ?_, fun other => ?_,
      hkept.under hstack, fun frame hmem => ?_, fun frame hmem => ?_, fun _ hmem => by cases hmem⟩
    · by_cases hne : other = handle
      · subst hne
        rw [hsame]
        exact ⟨rfl, rfl⟩
      · rw [hother other hne]
        exact ⟨rfl, rfl⟩
    · by_cases hne : other = handle
      · subst hne
        rw [hsame]
        exact hactive
      · rw [hother other hne, List.countP_singleton, List.countP_singleton, hothers other hne]
    · obtain rfl := List.mem_singleton.1 hmem
      exact hknown
    · obtain rfl := List.mem_singleton.1 hmem
      intro handle hrunning
      rw [hruns] at hrunning
      cases hrunning
  refine hkept.moves hmoves fun frame hmem => ?_
  obtain rfl := List.mem_singleton.1 hmem
  exact hmoves.relies hkept hrelies

theorem Kept.concludes (hkept : Kept service) {call isOver : Dispatch}
    (hstack : service.callStacks thread = .dispatch call :: frames)
    (hpoint : call.point = .running handle) (hover : isOver.point = .leaving handle)
    (hcallbacks : isOver.callbacks = call.callbacks)
    (hpins : ∀ plugin ∈ pins, (service.records handle).owner = plugin)
    (hsupplier : ∀ plugin, isOver.supplier = some plugin → plugin ∈ pins ++ service.pinned) :
    Kept { service.setStack thread (.dispatch isOver :: frames) with
      pinned := pins ++ service.pinned } := by
  obtain ⟨boundary, name, point, callbacks, current, replaced, supplier⟩ := call
  obtain ⟨boundary', name', point', callbacks', current', replaced', supplier'⟩ := isOver
  simp only at hpoint hover hcallbacks hsupplier
  subst hpoint hover hcallbacks
  have hmem : Frame.dispatch ⟨boundary, name, .running handle, callbacks', current, replaced,
      supplier⟩ ∈ service.callStacks thread := by
    rw [hstack]
    exact List.mem_cons_self
  have hmoves : Moves service { service.setStack thread
    (.dispatch ⟨boundary', name', .leaving handle,
      callbacks', current', replaced', supplier'⟩ :: frames) with pinned := pins ++ service.pinned }
      thread [.dispatch ⟨boundary, name, .running handle, callbacks', current, replaced, supplier⟩]
      [.dispatch ⟨boundary', name', .leaving handle, callbacks', current', replaced', supplier'⟩]
      frames pins := by
    refine ⟨hstack, rfl, rfl, rfl, rfl, rfl, fun _ => ⟨rfl, rfl⟩, fun other => rfl,
      hkept.under hstack, fun frame hframe => ?_, fun frame hframe other hruns => ?_,
      fun plugin hplugin => ?_⟩
    · obtain rfl := List.mem_singleton.1 hframe
      exact fun other hother => hkept.known thread _ hmem other hother
    · obtain rfl := List.mem_singleton.1 hframe
      cases hruns
    · exact ⟨_, List.mem_singleton_self _, handle, rfl, hpins plugin hplugin⟩
  refine hkept.moves hmoves fun frame hframe => ?_
  obtain rfl := List.mem_singleton.1 hframe
  exact hsupplier

theorem Kept.goOn (hkept : Kept service) {call : Dispatch}
    (hstack : service.callStacks thread = .dispatch call :: frames) (reply : Reply) :
    Kept (service.goOn thread frames reply call) := by
  obtain ⟨boundary, name, point, callbacks, current, replaced, supplier⟩ := call
  have hmem : Frame.dispatch ⟨boundary, name, point, callbacks, current, replaced, supplier⟩ ∈
      service.callStacks thread := by
    rw [hstack]
    exact List.mem_cons_self
  have hknown := hkept.known thread _ hmem
  have hsupplier : ∀ plugin, supplier = some plugin → plugin ∈ service.pinned :=
    hkept.relied thread _ hmem
  cases point with
  | original =>
    unfold FactoryService.goOn
    simp only
    split
    · exact hkept.pops hstack fun _ => rfl
    · exact hkept.turns hstack (fun _ => rfl) hknown (fun _ hruns => by cases hruns) hsupplier
  | next =>
    cases callbacks with
    | nil =>
      have hpopped := hkept.pops hstack fun _ => rfl
      unfold FactoryService.goOn
      simp only [given]
      cases hgiven : supplier with
      | none => exact hpopped
      | some plugin =>
        cases hpointer : current.instance' with
        | none => exact hpopped
        | some pointer =>
          have htells : (service.setStack thread frames).Tells (.returned plugin pointer) :=
            hsupplier plugin hgiven
          exact hpopped.tell htells
    | cons handle callbacks =>
      refine hkept.recounts hstack ?_ (fun other hne => ?_) hknown rfl hsupplier
      · rw [List.countP_cons_of_neg (by simp [Frame.holds]),
          List.countP_cons_of_pos (by simp [Frame.holds])]
        rfl
      · simp [Frame.holds, Ne.symm hne]
  | entered handle =>
    refine hkept.turns hstack (fun other => ?_) (fun other hother => ?_) (fun other hruns => ?_)
      hsupplier
    · split
      · rfl
      · rfl
    · split at hother
      · exact hknown other hother
      · exact hknown other hother
    · split at hruns
      · next henabled =>
        cases hruns
        exact henabled
      · cases hruns
  | running handle =>
    have hquietly : Kept { service.setStack thread (.dispatch ⟨boundary, name, .leaving handle,
        callbacks, current, replaced, supplier⟩ :: frames) with
          pinned := [] ++ service.pinned } :=
      hkept.concludes hstack rfl rfl rfl (fun _ hnone => by cases hnone) hsupplier
    simp only [FactoryService.goOn, concluded]
    cases reply.outcome with
    | threw => exact hquietly
    | continued => exact hquietly
    | replaced sized replacement =>
      simp only
      split
      · exact hquietly
      · refine hkept.concludes hstack rfl rfl rfl (fun plugin hplugin => ?_)
          fun plugin hplugin => ?_
        · split at hplugin
          · exact (List.mem_singleton.1 hplugin).symm
          · cases hplugin
        · split at hplugin
          · next hinstance =>
            cases hplugin
            simp only [hinstance, if_true]
            exact List.mem_cons_self
          · cases hplugin
  | leaving handle =>
    have hone : 1 ≤ (service.records handle).active := by
      have hle := (hkept.counted handle).le thread
      rw [hstack, List.countP_cons_of_pos (by simp [Frame.holds])] at hle
      omega
    refine hkept.recounts hstack ?_ (fun other hne => ?_) (fun other hother => ?_) rfl hsupplier
    · rw [List.countP_cons_of_pos (by simp [Frame.holds]),
        List.countP_cons_of_neg (by simp [Frame.holds])]
      simp only [List.countP_nil]
      omega
    · simp [Frame.holds, Ne.symm hne]
    · exact hknown other (List.mem_cons_of_mem _ hother)

/-! ## Steps -/

theorem Kept.resting (hkept : Kept service) (hactive : (service.records handle).active = 0) :
    service.Resting handle := by
  intro thread frame hmem hruns
  have hcounts := hkept.counted handle
  rw [hactive] at hcounts
  exact List.countP_eq_zero.1 (hcounts.none thread) frame hmem (Frame.holds_of_runs hruns)

theorem Kept.proceed (hkept : Kept service) (thread : Nat) (reply : Reply) :
    Kept (service.proceed thread reply) := by
  unfold FactoryService.proceed
  cases hstack : service.callStacks thread with
  | nil => exact hkept
  | cons frame frames =>
    have hmem : frame ∈ service.callStacks thread := by
      rw [hstack]
      exact List.mem_cons_self
    have hrelies := hkept.relied thread frame hmem
    have hknown := hkept.known thread frame hmem
    cases frame with
    | query original => exact (hkept.pops hstack fun _ => rfl).requeries _
    | dispatch call => exact hkept.goOn hstack reply
    | deactivate plugin owned release =>
      cases owned with
      | cons handle owned =>
        simp only
        split
        · next hactive =>
          refine hkept.turns hstack (fun _ => rfl)
            (fun other hother => hknown other (List.mem_cons_of_mem _ hother))
            (fun _ hruns => by cases hruns) fun hclean other hused howner => ?_
          obtain ⟨hdisabled, hrests⟩ := hrelies hclean other hused howner
          refine ⟨hdisabled, ?_⟩
          rcases hrests with hwaited | hresting
          · rcases List.mem_cons.1 hwaited with rfl | hwaited
            · exact .inr (hkept.resting hactive)
            · exact .inl hwaited
          · exact .inr hresting
        · exact hkept
      | nil =>
        simp only
        split
        · exact hkept.pops hstack fun _ => rfl
        · next hpinned =>
          cases release with
          | true =>
            exact hkept.turns hstack (fun _ => rfl) (fun _ hnone => by cases hnone)
              (fun _ hruns => by cases hruns) ⟨hrelies (.inl rfl), hpinned⟩
          | false =>
            have hmoves := hkept.popping hstack fun _ => rfl
            refine (hkept.pops hstack fun _ => rfl).tell fun hclean => ?_
            have hquiet := hrelies (.inr hclean)
            exact ⟨hmoves.quiet hquiet, hmoves.unpinned hkept hquiet hpinned⟩
    | erase plugin =>
      obtain ⟨hquiet, hpinned⟩ := hrelies
      have herased := hkept.erases (fun handle => decide ((service.records handle).owner ≠ plugin))
        fun handle hold howner => by
          have howner : (service.records handle).owner = plugin := by simpa using howner
          obtain ⟨hdisabled, hnone | hresting⟩ := hquiet handle (hkept.used handle hold) howner
          · cases hnone
          · exact ⟨hdisabled, hresting⟩
      have hmoves := herased.popping hstack fun _ => rfl
      refine (herased.pops hstack fun _ => rfl).tell fun _ => ?_
      exact ⟨hmoves.quiet hquiet, hmoves.unpinned herased hquiet hpinned⟩
    | unsubscribe handle =>
      simp only
      split
      · next hactive =>
        exact hkept.turns hstack (fun _ => rfl) hknown (fun _ hruns => by cases hruns)
          ⟨hrelies, hkept.resting hactive⟩
      · exact hkept
    | remove handle =>
      have herased := hkept.erases (fun other => decide (other ≠ handle)) fun other _ hsame => by
        obtain rfl : other = handle := by simpa using hsame
        exact hrelies
      exact herased.pops hstack fun _ => rfl

theorem mem_owned : handle ∈ service.owned plugin ↔
    handle ∈ service.subscriptions ∧ (service.records handle).owner = plugin := by
  simp [owned]

theorem Kept.activate (hkept : Kept service)
    (horderly : service.Orderly (thread, .activate plugin)) :
    Kept (service.activate plugin) := by
  have hchosen : ∀ handle, (!service.stopping && decide (handle ∈ service.owned plugin)) = true →
      handle ∈ service.subscriptions ∧ (service.records handle).owner = plugin := by
    intro handle hmine
    rw [Bool.and_eq_true, decide_eq_true_eq] at hmine
    exact mem_owned.1 hmine.2
  refine hkept.enables (.inl rfl) hchosen (fun other frame hmem => (horderly other frame hmem).1)
    fun other frame hmem handle hmine => ?_
  have howner := (hchosen handle hmine).2
  have hother := (horderly other frame hmem).2
  constructor
  · rintro rfl
    simp [unsubscribes, howner] at hother
  · rintro rfl
    simp [unsubscribes, howner] at hother

theorem add_enabled (service : FactoryService) (record : Subscription) :
    service.add { record with enabled := true } =
      (service.add { record with enabled := false }).setEnabled (· == service.next) true := by
  simp only [add, setEnabled, setRecord]
  congr 1
  funext handle
  by_cases hsame : handle = service.next
  · subst hsame
    simp
  · simp [hsame]

section

variable (hkept : Kept service)

include hkept

theorem Kept.registers (hnext : service.next ≠ 0) (hactive : record.active = 0)
    (howner : record.owner = plugin)
    (horderly : record.enabled = true → ∀ thread, ∀ frame ∈ service.callStacks thread,
      frame.releases plugin = false) :
    Kept (if record.enabled then (service.add record).tell (.registered plugin)
      else service.add record) := by
  cases henabled : record.enabled with
  | false => exact hkept.add hnext henabled hactive
  | true =>
    have hadded : Kept (service.add { record with enabled := false }) := hkept.add hnext rfl hactive
    have hsame : record = { record with enabled := true } := by
      rw [← henabled]
    rw [if_pos rfl, hsame, add_enabled]
    refine hadded.enables (.inr rfl) (fun handle hchosen => ?_) (horderly henabled)
      fun other frame hmem handle hchosen => ?_
    · obtain rfl : handle = service.next := by simpa using hchosen
      refine ⟨List.mem_cons_self, ?_⟩
      rw [add_next]
      exact howner
    · -- No frame knows of a handle that was not given out.
      obtain rfl : handle = service.next := by simpa using hchosen
      have hknown := hkept.known other frame hmem
      constructor
      · rintro rfl
        exact (hknown _ List.mem_cons_self).ne_next hnext rfl
      · rintro rfl
        exact (hknown _ List.mem_cons_self).ne_next hnext rfl

theorem Kept.subscribe {spec : Option SubscriptionSpec} {output accepting : Bool}
    {owner : Option Owner}
    (horderly : service.Orderly (thread, .subscribe plugin spec output accepting owner)) :
    Kept (service.subscribe plugin spec output accepting owner).1 := by
  unfold FactoryService.subscribe
  cases spec with
  | none => exact hkept
  | some spec =>
    simp only
    split
    · exact hkept
    split
    · exact hkept
    split
    · exact hkept
    · next boundary _ =>
      split
      · exact hkept
      cases owner with
      | none => exact hkept
      | some owner =>
        simp only
        split
        · exact hkept
        split
        · exact hkept
        · next hnext =>
          generalize hrecord : (⟨plugin, boundary, spec.interfaceName.takeWhile (· ≠ '\x00'),
            spec.priority, spec.processLifetime,
            owner.loaded && !owner.loading && owner.factoryDispatchEnabled, 0⟩ : Subscription) =
              record
          have henabled : (owner.loaded && !owner.loading && owner.factoryDispatchEnabled) =
              record.enabled := by rw [← hrecord]
          have hregistered : Kept (if record.enabled then
              (service.add record).tell (.registered plugin) else service.add record) := by
            refine hkept.registers hnext (by rw [← hrecord]) (by rw [← hrecord]) fun hon => ?_
            rw [← henabled] at hon
            exact horderly hon
          rw [henabled]
          exact hregistered

theorem Kept.unsubscribe (houtside : service.outside thread = true) (plugin : KeelPluginHandle)
    (handle : KeelFactorySubscriptionHandle) : Kept (service.unsubscribe thread plugin handle) := by
  unfold FactoryService.unsubscribe
  split
  · exact hkept
  · next howned =>
    rw [not_not] at howned
    have hdisabled := hkept.disables (· == handle)
    simp only
    split
    · exact hdisabled
    · refine hdisabled.pushes houtside (fun _ => rfl) (fun other hother => ?_) ?_
      · obtain rfl := List.mem_singleton.1 hother
        exact hkept.used other (mem_owned.1 howned).1
      · show ((service.setEnabled (· == handle) false).records handle).enabled = false
        rw [setEnabled_false]
        simp

theorem Kept.deactivate (houtside : service.outside thread = true) (plugin : KeelPluginHandle)
    (release : Bool) : Kept (service.deactivate thread plugin release) := by
  unfold FactoryService.deactivate
  split
  · exact hkept
  · have hdisabled := hkept.disables fun handle => decide (handle ∈ service.owned plugin)
    generalize hafter : (service.setEnabled
      (fun handle => decide (handle ∈ service.owned plugin)) false) = after at hdisabled
    have hquiet : after.Quiet plugin (service.owned plugin) := by
      rw [← hafter]
      intro handle hused howner
      rw [setEnabled_owner] at howner
      rw [setEnabled_false]
      by_cases hold : handle ∈ service.subscriptions
      · have howned := mem_owned.2 ⟨hold, howner⟩
        exact ⟨by simp [howned], .inl howned⟩
      · obtain ⟨hoff, hresting⟩ := hkept.erased handle hused hold
        exact ⟨by simp [hoff], .inr hresting⟩
    have hstacks : after.callStacks = service.callStacks := by rw [← hafter]; rfl
    have houtside' : after.outside thread = true := by
      unfold FactoryService.outside at houtside ⊢
      rw [hstacks]
      exact houtside
    have hknown : ∀ handle ∈ service.owned plugin, after.Used handle := by
      intro handle howned
      rw [← hafter]
      exact hkept.used handle (mem_owned.1 howned).1
    have hmoves : Moves after (after.setStack thread (.deactivate plugin (service.owned plugin)
        release :: after.callStacks thread)) thread [] [.deactivate plugin (service.owned plugin)
          release] (after.callStacks thread) [] :=
      hdisabled.pushing houtside' (fun _ => rfl) hknown
    have hpushed : Kept (after.setStack thread (.deactivate plugin (service.owned plugin) release ::
        after.callStacks thread)) :=
      hdisabled.pushes houtside' (fun _ => rfl) hknown fun _ => hquiet
    rw [hstacks] at hpushed hmoves
    refine hpushed.tell fun owned release' hmem => ?_
    -- The thread was outside, so this is the only deactivation it is in.
    simp only [setStack, update_self] at hmem
    rcases List.mem_cons.1 hmem with heq | hmem
    · cases heq
      exact hmoves.quiet hquiet
    · have hwaits := hkept.outside houtside _ hmem
      cases hwaits

theorem Kept.shutdown : Kept service.shutdown := by
  have hdisabled := hkept.disables fun handle => decide (handle ∈ service.subscriptions)
  exact ⟨hdisabled.bounded, hdisabled.used, hdisabled.known, hdisabled.counted, hdisabled.below,
    hdisabled.erased, hdisabled.relied, hdisabled.settled, hdisabled.pinned⟩

theorem Kept.query (houtside : service.outside thread = true) (factory : Nat) (name : Text)
    (original ready : Bool) : Kept (service.query thread factory name original ready) := by
  unfold FactoryService.query
  split
  · exact hkept
  · have hpushed : Kept (service.setStack thread (.query original :: service.callStacks thread)) :=
      hkept.pushes houtside (fun _ => rfl) (fun _ hnone => by cases hnone) trivial
    exact hpushed.requeries _

theorem Kept.dispatch (houtside : service.outside thread = true) (boundary : Nat) (name : Text) :
    Kept (service.dispatch thread boundary name) := by
  unfold FactoryService.dispatch
  simp only
  split
  · exact hkept
  split
  · exact hkept
  · refine hkept.pushes houtside (fun _ => rfl) (fun handle hmem => ?_)
      (fun _ hsupplier => by cases hsupplier)
    have hmem := (List.perm_insertionSort _ _).mem_iff.1 hmem
    exact hkept.used handle (List.mem_of_mem_filter hmem)

theorem step_kept {act : Nat × Act} (horderly : service.Orderly act) : Kept (service.step act) := by
  obtain ⟨thread, act⟩ := act
  by_cases hproceed : ∃ reply, act = .proceed reply
  · obtain ⟨reply, rfl⟩ := hproceed
    exact hkept.proceed thread reply
  cases houtside : service.outside thread with
  | false =>
    cases act with
    | proceed reply => exact absurd ⟨reply, rfl⟩ hproceed
    | _ =>
      simp only [step, houtside]
      exact hkept
  | true =>
    cases act with
    | subscribe plugin spec output accepting owner =>
      simp only [step, houtside]
      exact hkept.subscribe horderly
    | unsubscribe plugin handle =>
      simp only [step, houtside]
      exact hkept.unsubscribe houtside plugin handle
    | activate plugin =>
      simp only [step, houtside]
      exact hkept.activate horderly
    | deactivate plugin release =>
      simp only [step, houtside]
      exact hkept.deactivate houtside plugin release
    | shutdown =>
      simp only [step, houtside]
      exact hkept.shutdown
    | query factory name original ready =>
      simp only [step, houtside]
      exact hkept.query houtside factory name original ready
    | dispatch boundary name =>
      simp only [step, houtside]
      exact hkept.dispatch houtside boundary name
    | proceed reply => exact absurd ⟨reply, rfl⟩ hproceed

end

def replacing : Reply :=
  ⟨some ⟨some 5, 0⟩, .replaced true ⟨some 9, 0⟩⟩

/-- The engine asks for it, and is given what the plugin has. -/
def asking : List (Nat × Act) :=
  (1, .dispatch 0 ['N', 'a', 'm', 'e']) :: List.replicate 6 (1, .proceed replacing)

end FactoryService
end KeelS2.Hosting.Factories
