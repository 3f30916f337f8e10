import KeelS2.Plugins.DeferredCommands

/-!
# What becomes of deferred commands

The commands reported as queued are those that something has become of, then those of the dispatch
in progress, then the queue: in this order, so each is handled once. What may go wrong is that a
command throws while others wait behind it, and that a game frame comes inside the hooked call
that a command was issued in.
-/

namespace KeelS2.Plugins

open Lib (run Heeds)

/-- The hooked call has not returned. -/
def Underway (hooks : List HookedCall) (call : Nat) : Prop :=
  ∃ hooked ∈ hooks, hooked.call = call

instance (hooks : List HookedCall) (call : Nat) : Decidable (Underway hooks call) :=
  inferInstanceAs (Decidable (∃ hooked ∈ hooks, hooked.call = call))

/-- What is right about something that has become of a queued command. -/
def Handled.Right (handled : Handled) : Prop :=
  match handled.outcome with
  | .executed command =>
    command = some handled.queued.command ∧ ¬Underway handled.hooks handled.queued.issuer ∧
      (handled.queued.operation.bulk = false →
        (handled.host.pluginByHandle handled.queued.handle).isSome = true)
  | .gone =>
    handled.queued.operation.bulk = false ∧
      handled.host.pluginByHandle handled.queued.handle = none
  | .stopped => True
  | .lost => False

namespace Deferral

/-- What is claimed of a state. -/
structure Lawful (state : Deferral) : Prop where
  /-- Each command that was queued is handled once, in the order of the queue, or still waits. -/
  order : state.issued = state.handled.map (·.queued) ++
    (state.dispatches.flatMap (·.pending) ++ state.deferredPluginCommands)
  /-- It is called for the plugin it named, after the call it was issued in, or its plugin is gone,
  or the host stopped. -/
  right : ∀ handled ∈ state.handled, Handled.Right handled
  /-- The plugin that a waiting command named had its handle then, and no other is given it. -/
  named : ∀ queued ∈ state.dispatches.flatMap (·.pending) ++ state.deferredPluginCommands,
    queued.operation.bulk = false → state.host.Allotted queued.handle
  /-- The queue is not executed twice at a time. -/
  single : state.dispatches.length ≤ 1

/-- No command throws while others wait behind it in the same dispatch, and no game frame comes
while a hooked call that a waiting command was issued in is under way. -/
def Orderly (state : Deferral) : DeferralAction → Prop
  | .frame => state.acceptingResources = true → ∀ queued ∈ state.deferredPluginCommands,
      ¬Underway state.hooks queued.issuer
  | .throws position => ∀ dispatch ∈ state.dispatches[position]?, dispatch.running = true →
      dispatch.pending = []
  | _ => True

/-! ## What every step keeps -/

/-- What waits, that of the dispatch in progress first. -/
def waiting (state : Deferral) : List Queued :=
  state.dispatches.flatMap (·.pending) ++ state.deferredPluginCommands

structure Kept (state : Deferral) : Prop where
  lawful : state.Lawful
  flag : state.dispatchingDeferredPluginCommands = !state.dispatches.isEmpty
  known : state.host.Known
  /-- Numbers of hooked calls are not given again. -/
  numbered : ∀ hooked ∈ state.hooks, hooked.call < state.nextCall
  issuers : ∀ queued ∈ state.waiting, queued.issuer < state.nextCall
  returned : ∀ queued ∈ state.dispatches.flatMap (·.pending),
    ¬Underway state.hooks queued.issuer

theorem initial_kept : initial.Kept where
  lawful :=
    ⟨rfl, (fun _ hmem => by cases hmem), (fun _ hmem => by cases hmem), Nat.zero_le _⟩
  flag := rfl
  known _ hmem := by cases hmem
  numbered _ hmem := by cases hmem
  issuers _ hmem := by cases hmem
  returned _ hmem := by cases hmem

variable {state : Deferral}

/-- A call that has returned does not come back. -/
theorem not_underway_cons {hooks : List HookedCall} {call : Nat} {hooked : HookedCall}
    (hreturned : ¬Underway hooks call) (hlt : call < hooked.call) :
    ¬Underway (hooked :: hooks) call := by
  rintro ⟨other, hmem, rfl⟩
  rcases List.mem_cons.1 hmem with rfl | hmem
  · exact Nat.lt_irrefl _ hlt
  · exact hreturned ⟨other, hmem, rfl⟩

theorem Kept.enter (hkept : state.Kept) (thread target : Nat) :
    (state.step (.enter thread target)).Kept where
  lawful := ⟨hkept.lawful.order, hkept.lawful.right, hkept.lawful.named, hkept.lawful.single⟩
  flag := hkept.flag
  known := hkept.known
  numbered hooked hmem := by
    rcases List.mem_cons.1 hmem with rfl | hmem
    · exact Nat.lt_succ_self _
    · exact Nat.lt_succ_of_lt (hkept.numbered hooked hmem)
  issuers queued hmem := Nat.lt_succ_of_lt (hkept.issuers queued hmem)
  returned queued hmem := not_underway_cons (hkept.returned queued hmem)
    (hkept.issuers queued (List.mem_append_left _ hmem))

theorem Kept.leave (hkept : state.Kept) (thread : Nat) : (state.step (.leave thread)).Kept where
  lawful := ⟨hkept.lawful.order, hkept.lawful.right, hkept.lawful.named, hkept.lawful.single⟩
  flag := hkept.flag
  known := hkept.known
  numbered hooked hmem := hkept.numbered hooked (List.mem_of_mem_eraseP hmem)
  issuers := hkept.issuers
  returned queued hmem := by
    rintro ⟨hooked, hhooked, hcall⟩
    exact hkept.returned queued hmem ⟨hooked, List.mem_of_mem_eraseP hhooked, hcall⟩

theorem Kept.manage (hkept : state.Kept) (host : Host) : (state.step (.manage host)).Kept := by
  simp only [step]
  split
  · next hsucceeds =>
    exact ⟨⟨hkept.lawful.order, hkept.lawful.right, fun queued hmem hbulk =>
        hsucceeds.allotted (hkept.lawful.named queued hmem hbulk), hkept.lawful.single⟩,
      hkept.flag, hsucceeds.1, hkept.numbered, hkept.issuers, hkept.returned⟩
  · exact hkept

/-! ### Queueing -/

theorem currentCall_lt (hkept : state.Kept) {thread : Nat} {handle : KeelPluginHandle}
    (hcurrent : state.onCurrentTarget thread handle = true) :
    state.currentCall thread < state.nextCall := by
  obtain ⟨hooked, hmem, -⟩ := List.any_eq_true.1 hcurrent
  obtain ⟨hmem, hthread⟩ := List.mem_filter.1 hmem
  unfold currentCall
  cases hfind : state.hooks.find? (·.thread == thread) with
  | none => exact absurd hthread (by simpa using List.find?_eq_none.1 hfind hooked hmem)
  | some found => exact hkept.numbered found (List.mem_of_find?_eq_some hfind)

theorem Kept.enqueue (hkept : state.Kept) {thread : Nat} {operation : Operation}
    {handle : KeelPluginHandle} (hallotted : state.host.Allotted handle)
    (hcurrent : state.onCurrentTarget thread handle = true) (connected ensured : Bool) :
    (state.enqueue thread operation handle connected ensured).1.Kept := by
  unfold Deferral.enqueue
  split
  · exact hkept
  · dsimp only
    have hsame : ({ state with lifecycle := true } : Deferral).Kept :=
      ⟨⟨hkept.lawful.order, hkept.lawful.right, hkept.lawful.named, hkept.lawful.single⟩,
        hkept.flag, hkept.known, hkept.numbered, hkept.issuers, hkept.returned⟩
    split
    · exact hsame
    · split
      · exact hsame
      · refine ⟨⟨?_, hkept.lawful.right, fun queued hmem hbulk => ?_, hkept.lawful.single⟩,
          hkept.flag, hkept.known, hkept.numbered, fun queued hmem => ?_, hkept.returned⟩
        · change state.issued ++ _ = _
          rw [hkept.lawful.order]
          simp only [List.append_assoc]
        · rw [← List.append_assoc] at hmem
          rcases List.mem_append.1 hmem with hmem | hnew
          · exact hkept.lawful.named queued hmem hbulk
          · cases List.mem_singleton.1 hnew
            simp only at hbulk
            simpa [hbulk] using hallotted
        · unfold waiting at hmem
          rw [← List.append_assoc] at hmem
          rcases List.mem_append.1 hmem with hmem | hnew
          · exact hkept.issuers queued hmem
          · cases List.mem_singleton.1 hnew
            exact currentCall_lt hkept hcurrent

theorem selectPlugin_known {host : Host} {selector : Text} {plugin : PluginRecord}
    (hselected : host.selectPlugin selector = .ok plugin) : plugin ∈ host.knownPlugins := by
  unfold Host.selectPlugin at hselected
  dsimp only at hselected
  split at hselected
  · cases hselected
  · split at hselected
    · split at hselected
      · next found hfound =>
        cases hselected
        split at hfound
        · exact List.mem_of_getElem? hfound
        · cases hfound
      · cases hselected
    · split at hselected
      · next found hfound =>
        cases hselected
        exact List.mem_of_find?_eq_some hfound
      · split at hselected
        · next found hfound =>
          cases hselected
          have hmem : plugin ∈ [plugin] := List.mem_singleton_self plugin
          rw [← hfound] at hmem
          split at hmem
          · exact List.mem_of_mem_filter hmem
          · exact List.mem_of_mem_filter hmem
        · cases hselected
        · cases hselected

theorem Kept.issue (hkept : state.Kept) (thread : Nat) (operation : Operation) (selector : Text)
    (connected ensured : Bool) :
    (state.step (.issue thread operation selector connected ensured)).Kept := by
  simp only [step]
  unfold deferPluginCommand
  split
  · exact hkept
  · split
    · split
      · exact hkept
      · next plugin hfound =>
        have hmem := List.mem_append_left state.host.disabledPlugins
          (List.mem_of_find?_eq_some hfound)
        have hcurrent : state.onCurrentTarget thread plugin.handle = true := by
          simpa using List.find?_some hfound
        exact hkept.enqueue (hkept.known plugin hmem) hcurrent connected ensured
    · split
      · exact hkept
      · next plugin hselected =>
        split
        · exact hkept
        · next hcurrent =>
          exact hkept.enqueue (hkept.known plugin (selectPlugin_known hselected))
            (by simpa using hcurrent) connected ensured

/-! ### Dispatching -/

theorem Kept.dispatches_cases (hkept : state.Kept) :
    (state.dispatches = [] ∧ state.dispatchingDeferredPluginCommands = false) ∨
      ∃ dispatch, state.dispatches = [dispatch] ∧
        state.dispatchingDeferredPluginCommands = true := by
  have hflag := hkept.flag
  have hsingle := hkept.lawful.single
  rcases hdispatches : state.dispatches with _ | ⟨dispatch, _ | ⟨second, rest⟩⟩
  · rw [hdispatches] at hflag
    exact Or.inl ⟨rfl, hflag⟩
  · rw [hdispatches] at hflag
    exact Or.inr ⟨dispatch, rfl, hflag⟩
  · rw [hdispatches] at hsingle
    simp only [List.length_cons] at hsingle
    omega

theorem Kept.position (hkept : state.Kept) {position : Nat} {dispatch : Dispatch}
    (hdispatch : state.dispatches[position]? = some dispatch) :
    position = 0 ∧ state.dispatches = [dispatch] := by
  rcases hkept.dispatches_cases with ⟨hnone, -⟩ | ⟨only, hone, -⟩
  · rw [hnone] at hdispatch
    cases hdispatch
  · rw [hone] at hdispatch ⊢
    cases position with
    | zero =>
      cases hdispatch
      exact ⟨rfl, rfl⟩
    | succ position => cases hdispatch

theorem Kept.frame (hkept : state.Kept) (horderly : state.Orderly .frame) :
    (state.step .frame).Kept := by
  simp only [step]
  unfold beginDispatch
  split
  · exact hkept
  · next hopen =>
    simp only [Bool.or_eq_true, not_or, Bool.not_eq_true, Bool.not_eq_false'] at hopen
    have hnone : state.dispatches = [] := by
      rcases hkept.dispatches_cases with ⟨hnone, -⟩ | ⟨_, -, hflag⟩
      · exact hnone
      · rw [hflag] at hopen
        cases hopen.2
    have horder := hkept.lawful.order
    have hnamed := hkept.lawful.named
    have hissuers := hkept.issuers
    unfold waiting at hissuers
    rw [hnone] at horder hnamed hissuers
    simp only [List.flatMap_nil, List.nil_append] at horder hnamed hissuers
    refine ⟨⟨?_, hkept.lawful.right, ?_, ?_⟩, rfl, hkept.known, hkept.numbered, ?_, ?_⟩
    · simpa [hnone] using horder
    · simpa [hnone] using hnamed
    · simp [hnone]
    · simpa [hnone, waiting] using hissuers
    · simp only [hnone, List.flatMap_cons, List.flatMap_nil, List.append_nil]
      exact horderly hopen.1.1

theorem called_right (queued : Queued) (hreturned : ¬Underway state.hooks queued.issuer) :
    (state.handle queued (state.called queued)).Right := by
  unfold called
  split
  · next hbulk => exact ⟨rfl, hreturned, fun hbad => absurd (hbulk.symm.trans hbad) (by decide)⟩
  · next hbulk =>
    have hbulk : queued.operation.bulk = false := by simpa using hbulk
    split
    · next hgone => exact ⟨hbulk, hgone⟩
    · next plugin hplugin =>
      rw [Host.selectPlugin_displayId hplugin]
      refine ⟨?_, hreturned, fun _ => Option.isSome_iff_exists.2 ⟨plugin, hplugin⟩⟩
      change some { queued with handle := plugin.handle }.command = some queued.command
      rw [Host.pluginByHandle_handle hplugin]

theorem Kept.turn (hkept : state.Kept) (position : Nat) : (state.turn position).Kept := by
  have hlawful := hkept.lawful
  unfold Deferral.turn
  split
  · next hdispatch =>
    obtain ⟨rfl, hone⟩ := hkept.position hdispatch
    have horder := hlawful.order
    have hnamed := hlawful.named
    have hissuers := hkept.issuers
    unfold waiting at hissuers
    rw [hone] at horder hnamed hissuers
    refine ⟨⟨?_, hlawful.right, ?_, ?_⟩, ?_, hkept.known, hkept.numbered, ?_, ?_⟩
    · simpa [hone] using horder
    · simpa [hone] using hnamed
    · simp [hone]
    · simp [hone]
    · simpa [hone, waiting] using hissuers
    · simp [hone]
  · next queued pending hdispatch =>
    obtain ⟨rfl, hone⟩ := hkept.position hdispatch
    have horder := hlawful.order
    have hnamed := hlawful.named
    have hissuers := hkept.issuers
    have hreturned := hkept.returned
    have hflag := hkept.flag
    unfold waiting at hissuers
    rw [hone] at horder hnamed hissuers hreturned hflag
    simp only [List.flatMap_cons, List.flatMap_nil, List.append_nil, List.cons_append,
      List.forall_mem_cons] at horder hnamed hissuers hreturned
    refine ⟨⟨?_, fun handled hmem => ?_, ?_, ?_⟩, ?_, hkept.known, hkept.numbered, ?_, ?_⟩
    · simpa [hone, handle] using horder
    · rcases List.mem_append.1 hmem with hmem | hnew
      · exact hlawful.right handled hmem
      · cases List.mem_singleton.1 hnew
        exact called_right queued hreturned.1
    · simpa [hone] using hnamed.2
    · simp [hone]
    · simpa [hone] using hflag
    · simpa [hone, waiting] using hissuers.2
    · simpa [hone] using hreturned.2
  · exact hkept

theorem Kept.returns (hkept : state.Kept) (position : Nat) : (state.returns position).Kept := by
  have hlawful := hkept.lawful
  unfold Deferral.returns
  split
  · next pending hdispatch =>
    obtain ⟨rfl, hone⟩ := hkept.position hdispatch
    have horder := hlawful.order
    have hnamed := hlawful.named
    have hissuers := hkept.issuers
    have hreturned := hkept.returned
    have hflag := hkept.flag
    unfold waiting at hissuers
    rw [hone] at horder hnamed hissuers hreturned hflag ⊢
    exact ⟨⟨horder, hlawful.right, hnamed, Nat.le_refl _⟩, hflag, hkept.known, hkept.numbered,
      hissuers, hreturned⟩
  · exact hkept

theorem Kept.throws (hkept : state.Kept) {position : Nat}
    (horderly : state.Orderly (.throws position)) : (state.throws position).Kept := by
  have hlawful := hkept.lawful
  unfold Deferral.throws
  split
  · next pending hdispatch =>
    obtain ⟨rfl, hone⟩ := hkept.position hdispatch
    have hlast : pending = [] := horderly ⟨pending, true⟩ hdispatch rfl
    subst hlast
    have horder := hlawful.order
    have hnamed := hlawful.named
    have hissuers := hkept.issuers
    unfold waiting at hissuers
    rw [hone] at horder hnamed hissuers
    refine ⟨⟨?_, ?_, ?_, ?_⟩, ?_, hkept.known, hkept.numbered, ?_, ?_⟩
    · simpa [hone] using horder
    · simpa using hlawful.right
    · simpa [hone] using hnamed
    · simp [hone]
    · simp [hone]
    · simpa [hone, waiting] using hissuers
    · simp [hone]
  · exact hkept

theorem Kept.stop (hkept : state.Kept) : state.stop.Kept := by
  have hlawful := hkept.lawful
  unfold Deferral.stop
  split
  · next hnone =>
    rw [List.isEmpty_iff] at hnone
    have horder := hlawful.order
    rw [hnone] at horder
    refine ⟨⟨?_, fun handled hmem => ?_, ?_, hlawful.single⟩, ?_, (fun _ hmem => by cases hmem),
      hkept.numbered, ?_, hkept.returned⟩
    · simpa [hnone, Function.comp_def, handle] using horder
    · rcases List.mem_append.1 hmem with hmem | hnew
      · exact hlawful.right handled hmem
      · obtain ⟨queued, -, rfl⟩ := List.mem_map.1 hnew
        trivial
    · simp [hnone]
    · simp [hnone]
    · simp [hnone, waiting]
  · exact ⟨⟨hlawful.order, hlawful.right, hlawful.named, hlawful.single⟩, hkept.flag, hkept.known,
      hkept.numbered, hkept.issuers, hkept.returned⟩

theorem Kept.step (hkept : state.Kept) {action : DeferralAction}
    (horderly : state.Orderly action) : (state.step action).Kept := by
  have hlawful := hkept.lawful
  have hsame : Lawful { state with acceptingResources := true } :=
    ⟨hlawful.order, hlawful.right, hlawful.named, hlawful.single⟩
  cases action with
  | start =>
    exact ⟨hsame, hkept.flag, hkept.known, hkept.numbered, hkept.issuers, hkept.returned⟩
  | connect =>
    exact ⟨⟨hlawful.order, hlawful.right, hlawful.named, hlawful.single⟩, hkept.flag, hkept.known,
      hkept.numbered, hkept.issuers, hkept.returned⟩
  | manage host => exact hkept.manage host
  | retarget onTarget =>
    exact ⟨⟨hlawful.order, hlawful.right, hlawful.named, hlawful.single⟩, hkept.flag, hkept.known,
      hkept.numbered, hkept.issuers, hkept.returned⟩
  | enter thread target => exact hkept.enter thread target
  | leave thread => exact hkept.leave thread
  | issue thread operation selector connected ensured =>
    exact hkept.issue thread operation selector connected ensured
  | frame => exact hkept.frame horderly
  | turn position => exact hkept.turn position
  | returns position => exact hkept.returns position
  | throws position => exact hkept.throws horderly
  | stop => exact hkept.stop

/-! ## The law -/

/-- In every run in which no command throws before others of its dispatch, and no game frame comes
inside a hooked call that a waiting command was issued in: each command that was reported as queued
is called once and in the order of the queue, after that call and for the plugin it named; or its
plugin is gone, or the host has stopped. -/
theorem deferred_commands_lawful (actions : List DeferralAction)
    (hheeds : Heeds step Orderly initial actions) : (run step initial actions).Lawful :=
  (hheeds.invariant (fun _ _ hkept horderly => hkept.step horderly) initial_kept).lawful

/-- The plugin `a` has hooked a function, and the function is called: inside it a refresh and an
unload of `a` are asked for. Then the call returns, and a game frame comes. -/
def defersTwo : List DeferralAction :=
  [.start, .connect,
    .manage { Host.initial with
      plugins := [{ PluginRecord.new 1 ['a'] with selectable := true, name := ['a'] }]
      nextPlugin := 2 },
    .retarget fun _ handle => handle == 1, .enter 0 7, .issue 0 .refresh [] true true,
    .issue 0 .unload ['a'] true true, .leave 0, .frame]

/-- Both return. -/
def defersReturning : List DeferralAction :=
  defersTwo ++ [.turn 0, .returns 0, .turn 0, .returns 0, .turn 0]

/-- The refresh throws. -/
def defersThrowing : List DeferralAction :=
  defersTwo ++ [.turn 0, .throws 0]

theorem deferred_commands_lawful_two : (run step initial defersReturning).Lawful :=
  deferred_commands_lawful defersReturning (by
    simp only [defersReturning, defersTwo, List.cons_append, List.nil_append, Lib.heeds_cons,
      Lib.heeds_nil, Orderly]
    decide)

/-- The unload has disappeared. -/
theorem deferred_commands_lost :
    ¬∀ actions : List DeferralAction, (run step initial actions).Lawful := by
  intro hclaim
  have hlost : ∃ handled ∈ (run step initial defersThrowing).handled, handled.outcome = .lost := by
    decide
  obtain ⟨handled, hmem, houtcome⟩ := hlost
  have hright := (hclaim defersThrowing).right handled hmem
  unfold Handled.Right at hright
  rw [houtcome] at hright
  exact hright

end Deferral
end KeelS2.Plugins
