import KeelS2.Lib.Counters
import KeelS2.Lib.Keyed
import KeelS2.Lib.Runs
import KeelS2.Plugins.PluginRecord

/-!
# Subscriptions to events

`LifecycleService`, `Source2CallbacksService` and `PluginService` call their subscribers from a
snapshot of `subscriptions_`, with no lock: a dispatch counts itself into `active` and looks at
`enabled` afterwards, and who unsubscribes clears `enabled` and waits for `active`. The three do
so each on its own. A step is what is done under one hold of the registry's mutex, or one access
to an atomic.
-/

namespace KeelS2.Hosting

open Plugins (PluginRecord)
open Function (update)

namespace Subscriptions

inductive Service
  | lifecycle
  | source2Callbacks
  | plugin
  deriving DecidableEq, Repr

abbrev Handle := Nat

/-- `Subscription`; `registered` is that it is in `subscriptions_`. What a dispatch or an
unsubscription has taken from there it may have yet. -/
structure Subscription where
  handle : Handle
  owner : KeelPluginHandle
  event : Nat
  priority : Int
  sequence : Nat
  gameEvent : Text
  callback : Nat
  userData : Nat
  enabled : Bool
  active : Nat
  registered : Bool
  deriving DecidableEq, Repr

/-- What a service looks for in its subscriptions. -/
structure Event where
  type : Nat
  name : Text
  deriving DecidableEq, Repr

/-- `KEELS2_SOURCE2_GAME_EVENT`. -/
def source2GameEvent : Nat := 3

/-- Where a thread stands in a service. -/
inductive Frame
  /-- `Dispatch`, before the next subscription of its snapshot. -/
  | dispatching (rest : List Handle)
  /-- Counted in `active`. -/
  | counted (handle : Handle) (rest : List Handle)
  | running (handle : Handle) (rest : List Handle)
  /-- `Unsubscribe`, in `WaitForZero`. -/
  | waiting (handle : Handle)
  /-- Behind it, before the registry's mutex. -/
  | waited (handle : Handle)
  /-- `Deactivate`, or with it `ReleasePlugin`, before the next wait. -/
  | deactivating (plugin : KeelPluginHandle) (rest : List Handle) (release : Bool)
  deriving DecidableEq, Repr

structure State where
  acceptingResources : Bool
  plugins : List PluginRecord
  shuttingDown : Bool
  subscriptions : List Subscription
  nextSubscription : Nat
  nextSequence : Nat
  callStack : Nat → List Frame
  /-- The subscriptions of which somebody outside their callback has been told that they are
  gone. -/
  gone : List Handle

def State.initial : State where
  acceptingResources := false
  plugins := []
  shuttingDown := false
  subscriptions := []
  nextSubscription := 1
  nextSequence := 1
  callStack := fun _ => []
  gone := []

/-- A subscription's specification; `valid` is what the checks of it come to. -/
structure Spec where
  valid : Bool
  event : Nat
  priority : Int
  gameEvent : Text
  callback : Nat
  userData : Nat

/-! ## Snapshots -/

/-- The condition of `Dispatch`'s first loop; the plugin service does not look at `enabled`. -/
def wanted (service : Service) (event : Event) (subscription : Subscription) : Bool :=
  subscription.registered && match service with
    | .lifecycle => subscription.event == event.type && subscription.enabled
    | .source2Callbacks =>
      subscription.event == event.type && subscription.enabled &&
        (event.type != source2GameEvent || subscription.gameEvent == event.name)
    | .plugin => subscription.event == event.type

/-- The order in which subscribers are called. -/
def before (service : Service) (left right : Subscription) : Bool :=
  match service with
  | .source2Callbacks =>
    if left.priority ≠ right.priority then right.priority < left.priority
    else left.sequence ≤ right.sequence
  | _ => left.sequence ≤ right.sequence

/-- `callback_stack_.size()`. -/
def callbackLimit : Nat := 64

namespace Frame

/-- It is inside this callback. -/
def runs (handle : Handle) : Frame → Bool
  | running other _ => other == handle
  | _ => false

/-- It is counted in the subscription's `active`. -/
def holds (handle : Handle) : Frame → Bool
  | counted other _ | running other _ => other == handle
  | _ => false

/-- It is inside any callback. -/
def inCallback : Frame → Bool
  | running _ _ => true
  | _ => false

end Frame

namespace State

variable (state : State) (thread : Nat)

def pluginByHandle (plugin : KeelPluginHandle) : Option PluginRecord :=
  state.plugins.find? (·.handle == plugin)

def setStack (stack : List Frame) : State :=
  { state with callStack := update state.callStack thread stack }

/-- `subscriptions_.find`. -/
def find (handle : Handle) : Option Subscription :=
  state.subscriptions.find? fun subscription =>
    subscription.registered && subscription.handle == handle

/-- What there is at the address of a subscription. -/
def subscription (handle : Handle) : Option Subscription :=
  state.subscriptions.find? (·.handle == handle)

def modify (handle : Handle) (change : Subscription → Subscription) : State :=
  { state with subscriptions := state.subscriptions.map fun subscription =>
      if subscription.handle = handle then change subscription else subscription }

def disable (handle : Handle) : State :=
  state.modify handle fun subscription => { subscription with enabled := false }

def erase (handle : Handle) : State :=
  state.modify handle fun subscription => { subscription with registered := false }

/-- `IsCurrentCallback`, `IsCurrentSubscription`. -/
def isCurrent (handle : Handle) : Bool :=
  (state.callStack thread).any (Frame.runs handle)

def isCurrentOwner (plugin : KeelPluginHandle) : Bool :=
  state.subscriptions.any fun subscription =>
    subscription.owner == plugin && state.isCurrent thread subscription.handle

/-! ## What plugins and the plugin manager call -/

/-- `Subscribe`; `installed` is what comes of the event's own installation. -/
def subscribe (service : Service) (plugin : KeelPluginHandle) (spec : Spec)
    (installed : KeelResult) : KeelResult × State :=
  if !spec.valid then (.invalidArgument, state)
  else if service ≠ .plugin ∧ installed ≠ .ok then (installed, state)
  else match state.pluginByHandle plugin with
    | none => (.notReady, state)
    | some owner =>
      if state.shuttingDown || !state.acceptingResources || !owner.acceptingResources then
        (.notReady, state)
      else if state.nextSubscription = 0 ∨ state.nextSequence = 0 then
        (if service = .plugin then .notReady else .engineFailure, state)
      else
        (.ok, { state with
          subscriptions := state.subscriptions ++
            [{ handle := state.nextSubscription, owner := plugin, event := spec.event
               priority := spec.priority, sequence := state.nextSequence
               gameEvent := spec.gameEvent, callback := spec.callback, userData := spec.userData
               enabled := owner.state == .loaded && !owner.loading, active := 0
               registered := true }]
          nextSubscription := (state.nextSubscription + 1) % 2 ^ 64
          nextSequence := (state.nextSequence + 1) % 2 ^ 64 })

/-- `Unsubscribe` of the lifecycle and the Source 2 callbacks service: `enabled` is cleared before
the callback stack is looked at, and what is disabled is erased after the wait. `none` is that it
waits. -/
def unsubscribeWaitErase (plugin : KeelPluginHandle) (handle : Handle) :
    Option KeelResult × State :=
  match state.find handle with
  | none => (some .notFound, state)
  | some subscription =>
    if subscription.owner ≠ plugin then (some .notFound, state)
    else if state.isCurrent thread handle then (some .busy, state.disable handle)
    else
      (none, (state.disable handle).setStack thread (.waiting handle :: state.callStack thread))

/-- `Unsubscribe` of the plugin service: it erases at once, and does not wait for itself. -/
def unsubscribeEraseWait (plugin : KeelPluginHandle) (handle : Handle) :
    Option KeelResult × State :=
  if handle = 0 then (some .invalidArgument, state)
  else match state.pluginByHandle plugin with
    | none => (some .notReady, state)
    | some owner =>
      if !owner.acceptingResources then (some .notReady, state)
      else match state.find handle with
        | none => (some .notFound, state)
        | some subscription =>
          if subscription.owner ≠ plugin then (some .notFound, state)
          else if state.isCurrent thread handle then
            (some .ok, (state.disable handle).erase handle)
          else
            (none, ((state.disable handle).erase handle).setStack thread
              (.waiting handle :: state.callStack thread))

def unsubscribe (service : Service) (plugin : KeelPluginHandle) (handle : Handle) :
    Option KeelResult × State :=
  match service with
  | .plugin => state.unsubscribeEraseWait thread plugin handle
  | _ => state.unsubscribeWaitErase thread plugin handle

/-- All that a plugin has subscribed is enabled, or disabled. -/
def enableOwned (plugin : KeelPluginHandle) (enabled : Bool) : State :=
  { state with subscriptions := state.subscriptions.map fun subscription =>
      if subscription.registered && subscription.owner == plugin then
        { subscription with enabled := enabled }
      else subscription }

def activate (plugin : KeelPluginHandle) : State :=
  if state.shuttingDown then state else state.enableOwned plugin true

def owned (plugin : KeelPluginHandle) : List Handle :=
  (state.subscriptions.filter fun subscription =>
    subscription.registered && subscription.owner == plugin).map (·.handle)

/-- `Deactivate`, and the first half of `ReleasePlugin`. -/
def deactivate (plugin : KeelPluginHandle) (release : Bool) : Option KeelResult × State :=
  if state.isCurrentOwner thread plugin then (some .busy, state)
  else
    (none, (state.enableOwned plugin false).setStack thread
      (.deactivating plugin (state.owned plugin) release :: state.callStack thread))

/-- What `ReleasePlugin` does behind the waits. -/
def eraseOwned (plugin : KeelPluginHandle) : State :=
  { state with subscriptions := state.subscriptions.map fun subscription =>
      if subscription.owner = plugin then { subscription with registered := false }
      else subscription }

/-- The first part of `Dispatch`: the snapshot. -/
def dispatch (service : Service) (event : Event) : State :=
  if state.shuttingDown then state
  else
    state.setStack thread
      (.dispatching (((state.subscriptions.filter (wanted service event)).insertionSort
        (before service · ·)).map (·.handle)) :: state.callStack thread)

/-! ## What a thread does in between -/

/-- One is counted out again. -/
def leaveActive (handle : Handle) : State :=
  state.modify handle fun subscription => { subscription with active := subscription.active - 1 }

/-- The thread goes on; `none` if it waits. -/
def go (service : Service) : Option State :=
  match state.callStack thread with
  | [] => none
  | .dispatching [] :: frames => some (state.setStack thread frames)
  | .dispatching (handle :: rest) :: frames =>
    some ((state.modify handle fun subscription =>
      { subscription with active := subscription.active + 1 }).setStack thread
        (.counted handle rest :: frames))
  | .counted handle rest :: frames =>
    match state.subscription handle with
    | none => none
    | some subscription =>
      if !subscription.enabled ∨
          callbackLimit ≤ (state.callStack thread).countP Frame.inCallback then
        some ((state.leaveActive handle).setStack thread (.dispatching rest :: frames))
      else some (state.setStack thread (.running handle rest :: frames))
  | .running handle rest :: frames =>
    some ((state.leaveActive handle).setStack thread (.dispatching rest :: frames))
  | .waiting handle :: frames =>
    match state.subscription handle with
    | none => none
    | some subscription =>
      if subscription.active ≠ 0 then none
      else if service = .plugin then
        some ({ state with gone := handle :: state.gone }.setStack thread frames)
      else some (state.setStack thread (.waited handle :: frames))
  | .waited handle :: frames =>
    some ({ state.erase handle with gone := handle :: state.gone }.setStack thread frames)
  | .deactivating plugin (handle :: rest) release :: frames =>
    match state.subscription handle with
    | none => none
    | some subscription =>
      if subscription.active ≠ 0 then none
      else some (state.setStack thread (.deactivating plugin rest release :: frames))
  | .deactivating plugin [] release :: frames =>
    some ((if release then state.eraseOwned plugin else state).setStack thread frames)

/-- The thread is where something else than the service runs. -/
def outside : Bool :=
  match state.callStack thread with
  | [] | .running _ _ :: _ => true
  | _ => false

end State

inductive Action
  | dispatch (thread : Nat) (event : Event)
  | go (thread : Nat)
  | subscribe (thread : Nat) (plugin : KeelPluginHandle) (spec : Spec) (installed : KeelResult)
  | unsubscribe (thread : Nat) (plugin : KeelPluginHandle) (handle : Handle)
  | activate (plugin : KeelPluginHandle)
  | deactivate (thread : Nat) (plugin : KeelPluginHandle) (release : Bool)
  /-- What the host does to what is looked at here. -/
  | manage (acceptingResources shuttingDown : Bool) (plugins : List PluginRecord)

/-- One step; what cannot be done changes nothing. -/
def step (service : Service) (state : State) : Action → State
  | .dispatch thread event =>
    if state.outside thread then state.dispatch thread service event else state
  | .go thread => (state.go thread service).getD state
  | .subscribe thread plugin spec installed =>
    if state.outside thread then (state.subscribe service plugin spec installed).2 else state
  | .unsubscribe thread plugin handle =>
    if state.outside thread then (state.unsubscribe thread service plugin handle).2 else state
  | .activate plugin => state.activate plugin
  | .deactivate thread plugin release =>
    if state.outside thread then (state.deactivate thread plugin release).2 else state
  | .manage acceptingResources shuttingDown plugins =>
    { state with
      acceptingResources := acceptingResources, shuttingDown := shuttingDown, plugins := plugins }

/-! ## What is promised -/

/-- Of who has been told that a subscription is gone, nobody is in its callback. -/
def State.Over (state : State) : Prop :=
  ∀ handle ∈ state.gone, ∀ thread, ∀ frame ∈ state.callStack thread, frame.runs handle = false

/-- An unsubscription that reports `BUSY` leaves the subscription as it was. -/
def BusyLeaves (service : Service) (state : State) : Action → Prop
  | .unsubscribe thread plugin handle =>
    state.outside thread = true →
      (state.unsubscribe thread service plugin handle).1 = some .busy →
        (state.unsubscribe thread service plugin handle).2.subscription handle =
          state.subscription handle
  | _ => True

/-- Nobody activates what somebody is about to erase, and nobody unsubscribes from inside what is
enabled; but the plugin service stands both. -/
def Settles (service : Service) (state : State) : Action → Prop
  | .activate plugin =>
    ∀ thread handle, (.waiting handle ∈ state.callStack thread ∨
        .waited handle ∈ state.callStack thread) →
      ∀ subscription ∈ state.subscriptions, subscription.handle = handle →
        subscription.registered = true → subscription.owner ≠ plugin
  | .unsubscribe thread plugin handle =>
    service ≠ .plugin → state.isCurrent thread handle = true →
      ∀ subscription ∈ state.subscriptions, subscription.handle = handle →
        subscription.registered = true → subscription.owner = plugin →
          subscription.enabled = false
  | _ => True

/-! ## What is kept -/

namespace Frame

/-- It has a subscription's address. -/
def Mentions (handle : Handle) : Frame → Prop
  | dispatching rest | deactivating _ rest _ => handle ∈ rest
  | counted other rest | running other rest => handle = other ∨ handle ∈ rest
  | waiting other | waited other => handle = other

/-- It has disabled the subscription, and is not through with it. -/
def quiets (handle : Handle) : Frame → Bool
  | waiting other | waited other => other == handle
  | _ => false

/-- It has seen nobody in the callback. -/
def isWaited (handle : Handle) : Frame → Bool
  | waited other => other == handle
  | _ => false

variable {frame : Frame} {handle : Handle}

theorem holds_of_runs (hruns : frame.runs handle = true) : frame.holds handle = true := by
  cases frame with
  | running other rest => exact hruns
  | _ => cases hruns

theorem quiets_of_isWaited (hwaited : frame.isWaited handle = true) :
    frame.quiets handle = true := by
  cases frame with
  | waited other => exact hwaited
  | _ => cases hwaited

end Frame

namespace State

variable (state : State)

/-- Nobody is counted in the subscription. -/
def Settled (handle : Handle) : Prop :=
  ∀ thread, ∀ frame ∈ state.callStack thread, frame.holds handle = false

/-- The subscription is disabled for good. -/
def Quieted (handle : Handle) : Prop :=
  (∃ thread, ∃ frame ∈ state.callStack thread, frame.quiets handle = true) ∨ handle ∈ state.gone

/-- Whoever unsubscribes it has seen nobody in it. -/
def Waited (handle : Handle) : Prop :=
  (∃ thread, ∃ frame ∈ state.callStack thread, frame.isWaited handle = true) ∨
    handle ∈ state.gone

def Known (handle : Handle) : Prop :=
  ∃ subscription ∈ state.subscriptions, subscription.handle = handle

structure Safe (service : Service) (state : State) : Prop where
  bounded : state.nextSubscription < 2 ^ 64
  fresh : state.nextSubscription ≠ 0 →
    ∀ subscription ∈ state.subscriptions, subscription.handle < state.nextSubscription
  distinct : (state.subscriptions.map (·.handle)).Nodup
  known : ∀ thread, ∀ frame ∈ state.callStack thread, ∀ handle, frame.Mentions handle →
    state.Known handle
  counted : ∀ subscription ∈ state.subscriptions, Lib.Counts
    (fun thread => (state.callStack thread).countP (Frame.holds subscription.handle))
      subscription.active
  quiet : ∀ subscription ∈ state.subscriptions, state.Quieted subscription.handle →
    subscription.enabled = false
  erased : ∀ subscription ∈ state.subscriptions, subscription.handle ∈ state.gone →
    subscription.registered = false
  erasedFirst : service = .plugin → ∀ subscription ∈ state.subscriptions,
    (∃ thread, .waiting subscription.handle ∈ state.callStack thread) →
      subscription.registered = false
  goneKnown : ∀ handle ∈ state.gone, state.Known handle
  isOver : ∀ handle, state.Waited handle →
    ∀ thread, ∀ frame ∈ state.callStack thread, frame.runs handle = false

variable {state : State} {after : State} {service : Service} {thread other : Nat}
variable {handle : Handle} {subscription : Subscription} {frame : Frame} {frames : List Frame}

theorem Waited.quieted (hwaited : state.Waited handle) : state.Quieted handle := by
  rcases hwaited with ⟨thread, frame, hmem, hwaited⟩ | hgone
  · exact .inl ⟨thread, frame, hmem, Frame.quiets_of_isWaited hwaited⟩
  · exact .inr hgone

theorem Safe.subscription_mem (hsafe : Safe service state)
    (hmem : subscription ∈ state.subscriptions) :
    state.subscription subscription.handle = some subscription :=
  Lib.find_of_distinct hsafe.distinct hmem

theorem subscription_some (hfound : state.subscription handle = some subscription) :
    subscription ∈ state.subscriptions ∧ subscription.handle = handle := by
  have hhandle := List.find?_some hfound
  exact ⟨List.mem_of_find?_eq_some hfound, by simpa using hhandle⟩

theorem Safe.settled (hsafe : Safe service state)
    (hfound : state.subscription handle = some subscription) (hzero : subscription.active = 0) :
    state.Settled handle := by
  obtain ⟨hmem, rfl⟩ := subscription_some hfound
  intro thread frame hframe
  have hcounts := hsafe.counted subscription hmem
  rw [hzero] at hcounts
  simpa using List.countP_eq_zero.1 (hcounts.none thread) frame hframe

/-! ## A thread moves -/

/-- Who stands somewhere afterwards stood there before, or has just come. -/
theorem stood (tops : List Frame) {olds : List Frame}
    (hstack : state.callStack thread = olds ++ frames)
    (hcallStack : after.callStack = update state.callStack thread (tops ++ frames))
    (hmem : frame ∈ after.callStack other) :
    frame ∈ tops ∨ ∃ other, frame ∈ state.callStack other := by
  rw [hcallStack] at hmem
  by_cases hother : other = thread
  · subst hother
    rw [Function.update_self] at hmem
    rcases List.mem_append.1 hmem with htop | hbelow
    · exact .inl htop
    · exact .inr ⟨other, hstack ▸ List.mem_append_right _ hbelow⟩
  · rw [Function.update_of_ne hother] at hmem
    exact .inr ⟨other, hmem⟩

theorem Safe.moves (hsafe : Safe service state) {renew : Subscription → Subscription}
    (hsubscriptions : after.subscriptions = state.subscriptions.map renew)
    (hnext : after.nextSubscription = state.nextSubscription)
    (hhandle : ∀ subscription, (renew subscription).handle = subscription.handle)
    {olds : List Frame} (hstack : state.callStack thread = olds ++ frames) (tops : List Frame)
    (hcallStack : after.callStack = update state.callStack thread (tops ++ frames))
    (hactive : ∀ subscription ∈ state.subscriptions,
      (renew subscription).active + olds.countP (Frame.holds subscription.handle) =
        subscription.active + tops.countP (Frame.holds subscription.handle))
    (hmentions : ∀ top ∈ tops, ∀ handle, top.Mentions handle → state.Known handle)
    (hquiet : ∀ subscription ∈ state.subscriptions, after.Quieted subscription.handle →
      (renew subscription).enabled = false)
    (herased : ∀ subscription ∈ state.subscriptions, subscription.handle ∈ after.gone →
      (renew subscription).registered = false)
    (hfirst : service = .plugin → ∀ subscription ∈ state.subscriptions,
      (∃ thread, .waiting subscription.handle ∈ after.callStack thread) →
        (renew subscription).registered = false)
    (hgone : ∀ handle ∈ after.gone, state.Known handle)
    (hover : ∀ handle, after.Waited handle → state.Waited handle ∨ state.Settled handle)
    (hruns : ∀ top ∈ tops, ∀ handle, top.runs handle = true →
      (∃ old ∈ olds, old.holds handle = true) ∧ ¬state.Quieted handle) :
    Safe service after := by
  have hknown : ∀ handle, state.Known handle → after.Known handle := by
    rintro handle ⟨subscription, hmem, hsame⟩
    refine ⟨renew subscription, ?_, (hhandle subscription).trans hsame⟩
    rw [hsubscriptions]
    exact List.mem_map_of_mem hmem
  have hhandles : after.subscriptions.map (·.handle) = state.subscriptions.map (·.handle) := by
    rw [hsubscriptions, List.map_map]
    exact List.map_congr_left fun subscription _ => hhandle subscription
  have hback : ∀ subscription ∈ after.subscriptions,
      ∃ old ∈ state.subscriptions, renew old = subscription := by
    intro subscription hmem
    rw [hsubscriptions] at hmem
    exact List.mem_map.1 hmem
  refine ⟨hnext ▸ hsafe.bounded, ?_, hhandles ▸ hsafe.distinct, ?_, ?_, ?_, ?_, ?_, ?_, ?_⟩
  · intro hmore subscription hmem
    obtain ⟨old, hold, rfl⟩ := hback subscription hmem
    rw [hnext] at hmore ⊢
    rw [hhandle]
    exact hsafe.fresh hmore old hold
  · intro other frame hmem handle hmentioned
    apply hknown
    rcases stood tops hstack hcallStack hmem with htop | ⟨before, hbefore⟩
    · exact hmentions frame htop handle hmentioned
    · exact hsafe.known before frame hbefore handle hmentioned
  · intro subscription hmem
    obtain ⟨old, hold, rfl⟩ := hback subscription hmem
    rw [hhandle]
    have hupdate : (fun other => (after.callStack other).countP (Frame.holds old.handle)) =
        update (fun other => (state.callStack other).countP (Frame.holds old.handle))
          thread ((tops ++ frames).countP (Frame.holds old.handle)) := by
      funext other
      rw [hcallStack]
      by_cases hother : other = thread
      · simp [hother]
      · simp [Function.update_of_ne hother]
    rw [hupdate]
    refine (hsafe.counted old hold).update ?_
    have hmove := hactive old hold
    rw [hstack, List.countP_append, List.countP_append]
    omega
  · intro subscription hmem hquieted
    obtain ⟨old, hold, rfl⟩ := hback subscription hmem
    rw [hhandle] at hquieted
    exact hquiet old hold hquieted
  · intro subscription hmem hmem'
    obtain ⟨old, hold, rfl⟩ := hback subscription hmem
    rw [hhandle] at hmem'
    exact herased old hold hmem'
  · intro hservice subscription hmem hwaiting
    obtain ⟨old, hold, rfl⟩ := hback subscription hmem
    rw [hhandle] at hwaiting
    exact hfirst hservice old hold hwaiting
  · intro handle hmem
    exact hknown handle (hgone handle hmem)
  · intro handle hwaited other frame hmem
    by_contra hrunning
    rw [Bool.not_eq_false] at hrunning
    rcases stood tops hstack hcallStack hmem with htop | ⟨before, hbefore⟩
    · obtain ⟨⟨old, hold, hholds⟩, hnot⟩ := hruns frame htop handle hrunning
      rcases hover handle hwaited with hwaited' | hsettled
      · exact hnot hwaited'.quieted
      · rw [hsettled thread old (hstack ▸ List.mem_append_left _ hold)] at hholds
        cases hholds
    · rcases hover handle hwaited with hwaited' | hsettled
      · rw [hsafe.isOver handle hwaited' before frame hbefore] at hrunning
        cases hrunning
      · have hholds := Frame.holds_of_runs hrunning
        rw [hsettled before frame hbefore] at hholds
        cases hholds

/-- What has disabled a subscription afterwards had done so before, or has just come. -/
theorem quieted_back (tops : List Frame) {olds : List Frame}
    (hstack : state.callStack thread = olds ++ frames)
    (hcallStack : after.callStack = update state.callStack thread (tops ++ frames))
    (hgone : after.gone = state.gone)
    (htops : ∀ top ∈ tops, top.quiets handle = true → state.Quieted handle)
    (hquieted : after.Quieted handle) : state.Quieted handle := by
  rcases hquieted with ⟨other, frame, hmem, hquiets⟩ | hmem
  · rcases stood tops hstack hcallStack hmem with htop | ⟨before, hbefore⟩
    · exact htops frame htop hquiets
    · exact .inl ⟨before, frame, hbefore, hquiets⟩
  · exact .inr (hgone ▸ hmem)

theorem waited_back (tops : List Frame) {olds : List Frame}
    (hstack : state.callStack thread = olds ++ frames)
    (hcallStack : after.callStack = update state.callStack thread (tops ++ frames))
    (hgone : after.gone = state.gone)
    (htops : ∀ top ∈ tops, top.isWaited handle = true → state.Waited handle)
    (hwaited : after.Waited handle) : state.Waited handle := by
  rcases hwaited with ⟨other, frame, hmem, hwaited⟩ | hmem
  · rcases stood tops hstack hcallStack hmem with htop | ⟨before, hbefore⟩
    · exact htops frame htop hwaited
    · exact .inl ⟨before, frame, hbefore, hwaited⟩
  · exact .inr (hgone ▸ hmem)

theorem Safe.plain (hsafe : Safe service state) {renew : Subscription → Subscription}
    (hsubscriptions : after.subscriptions = state.subscriptions.map renew)
    (hnext : after.nextSubscription = state.nextSubscription) (hgone : after.gone = state.gone)
    (hrenew : ∀ subscription, (renew subscription).handle = subscription.handle ∧
      (subscription.enabled = false → (renew subscription).enabled = false) ∧
        (subscription.registered = false → (renew subscription).registered = false))
    {olds : List Frame} (hstack : state.callStack thread = olds ++ frames) (tops : List Frame)
    (hcallStack : after.callStack = update state.callStack thread (tops ++ frames))
    (hactive : ∀ subscription ∈ state.subscriptions,
      (renew subscription).active + olds.countP (Frame.holds subscription.handle) =
        subscription.active + tops.countP (Frame.holds subscription.handle))
    (hmentions : ∀ top ∈ tops, ∀ handle, top.Mentions handle → state.Known handle)
    (hquiets : ∀ top ∈ tops, ∀ handle, top.quiets handle = false)
    (hruns : ∀ top ∈ tops, ∀ handle, top.runs handle = false) : Safe service after := by
  have hquieted : ∀ handle, after.Quieted handle → state.Quieted handle := by
    intro handle
    apply quieted_back tops hstack hcallStack hgone
    intro top htop hquiet
    rw [hquiets top htop] at hquiet
    cases hquiet
  apply hsafe.moves hsubscriptions hnext (fun subscription => (hrenew subscription).1) hstack tops
    hcallStack hactive hmentions
  · intro subscription hmem hquiet
    exact (hrenew subscription).2.1 (hsafe.quiet subscription hmem (hquieted _ hquiet))
  · intro subscription hmem hmem'
    exact (hrenew subscription).2.2 (hsafe.erased subscription hmem (hgone ▸ hmem'))
  · rintro hservice subscription hmem ⟨other, hwaiting⟩
    apply (hrenew subscription).2.2
    rcases stood tops hstack hcallStack hwaiting with htop | ⟨before, hbefore⟩
    · have hquiet := hquiets _ htop subscription.handle
      simp [Frame.quiets] at hquiet
    · exact hsafe.erasedFirst hservice subscription hmem ⟨before, hbefore⟩
  · intro handle hmem
    exact hsafe.goneKnown handle (hgone ▸ hmem)
  · intro handle hwaited
    refine .inl (waited_back tops hstack hcallStack hgone (fun top htop hwaited' => ?_) hwaited)
    have hquiet := Frame.quiets_of_isWaited hwaited'
    rw [hquiets top htop] at hquiet
    cases hquiet
  · intro top htop handle hrunning
    rw [hruns top htop] at hrunning
    cases hrunning

theorem Safe.exchange (hsafe : Safe service state) {olds : List Frame}
    (hstack : state.callStack thread = olds ++ frames) (tops : List Frame)
    (hactive : ∀ handle, olds.countP (Frame.holds handle) = tops.countP (Frame.holds handle))
    (hmentions : ∀ top ∈ tops, ∀ handle, top.Mentions handle → state.Known handle)
    (hquiets : ∀ top ∈ tops, ∀ handle, top.quiets handle = false)
    (hruns : ∀ top ∈ tops, ∀ handle, top.runs handle = false) :
    Safe service (state.setStack thread (tops ++ frames)) := by
  refine @Safe.plain state (state.setStack thread (tops ++ frames)) service thread frames hsafe id
    (List.map_id _).symm rfl rfl (fun _ => ⟨rfl, id, id⟩) olds hstack tops rfl ?_ hmentions hquiets
    hruns
  intro subscription _
  rw [hactive]
  rfl

/-- The count of one subscription is another. -/
def recount (handle : Handle) (active : Nat → Nat) (subscription : Subscription) : Subscription :=
  if subscription.handle = handle then
    { subscription with active := active subscription.active }
  else subscription

theorem recount_same (active : Nat → Nat) (subscription : Subscription) :
    (recount handle active subscription).handle = subscription.handle ∧
      (subscription.enabled = false → (recount handle active subscription).enabled = false) ∧
        (subscription.registered = false →
          (recount handle active subscription).registered = false) := by
  unfold recount
  split <;> exact ⟨rfl, id, id⟩

theorem Safe.enters (hsafe : Safe service state) {rest : List Handle}
    (hstack : state.callStack thread = .dispatching (handle :: rest) :: frames) :
    Safe service ((state.modify handle fun subscription =>
      { subscription with active := subscription.active + 1 }).setStack thread
        (.counted handle rest :: frames)) := by
  have holds : state.callStack thread = [.dispatching (handle :: rest)] ++ frames := hstack
  have hmem : Frame.dispatching (handle :: rest) ∈ state.callStack thread := by
    rw [hstack]
    exact List.mem_cons_self
  refine @Safe.plain _ _ _ thread frames hsafe (recount handle (· + 1)) rfl rfl rfl
    (recount_same _) _ holds
    [.counted handle rest] rfl ?_ ?_ ?_ ?_
  · intro subscription _
    simp only [recount, List.countP_singleton, Frame.holds, beq_iff_eq]
    by_cases hsame : subscription.handle = handle
    · simp [hsame]
    · simp [hsame, Ne.symm hsame]
  · intro top htop mentioned hmentioned
    rw [List.mem_singleton.1 htop] at hmentioned
    apply hsafe.known thread _ hmem mentioned
    rcases hmentioned with rfl | hrest
    · exact List.mem_cons_self
    · exact List.mem_cons_of_mem _ hrest
  · intro top htop other
    rw [List.mem_singleton.1 htop]
    rfl
  · intro top htop other
    rw [List.mem_singleton.1 htop]
    rfl

theorem Safe.leaves (hsafe : Safe service state) {rest : List Handle}
    (hstack : state.callStack thread = frame :: frames)
    (hholds : ∀ other, frame.holds other = (handle == other))
    (hmentions : ∀ other ∈ rest, frame.Mentions other) :
    Safe service ((state.leaveActive handle).setStack thread (.dispatching rest :: frames)) := by
  have holds : state.callStack thread = [frame] ++ frames := hstack
  have hmem : frame ∈ state.callStack thread := by
    rw [hstack]
    exact List.mem_cons_self
  refine @Safe.plain _ _ _ thread frames hsafe (recount handle (· - 1)) rfl rfl rfl
    (recount_same _) _ holds
    [.dispatching rest] rfl ?_ ?_ ?_ ?_
  · intro subscription hmem'
    simp only [recount, List.countP_singleton, hholds, beq_iff_eq]
    by_cases hsame : subscription.handle = handle
    · have hle := (hsafe.counted subscription hmem').le thread
      have hhere : frame.holds subscription.handle = true := by
        rw [hholds, hsame, beq_self_eq_true]
      rw [hstack, List.countP_cons_of_pos hhere] at hle
      simp only [hsame, if_true, Frame.holds]
      simp
      omega
    · simp [hsame, Ne.symm hsame, Frame.holds]
  · intro top htop mentioned hmentioned
    rw [List.mem_singleton.1 htop] at hmentioned
    exact hsafe.known thread _ hmem mentioned (hmentions mentioned hmentioned)
  · intro top htop other
    rw [List.mem_singleton.1 htop]
    rfl
  · intro top htop other
    rw [List.mem_singleton.1 htop]
    rfl

theorem Safe.calls (hsafe : Safe service state) {rest : List Handle}
    (hstack : state.callStack thread = .counted handle rest :: frames)
    (hfound : state.subscription handle = some subscription)
    (henabled : subscription.enabled = true) :
    Safe service (state.setStack thread (.running handle rest :: frames)) := by
  obtain ⟨hmem, rfl⟩ := subscription_some hfound
  have holds : state.callStack thread = [.counted subscription.handle rest] ++ frames := hstack
  have hnot : ¬state.Quieted subscription.handle := by
    intro hquieted
    rw [hsafe.quiet subscription hmem hquieted] at henabled
    cases henabled
  have hwhere : ∀ other, ∀ below ∈ (state.setStack thread
      (.running subscription.handle rest :: frames)).callStack other,
        below = .running subscription.handle rest ∨ ∃ other, below ∈ state.callStack other := by
    intro other below hbelow
    exact (stood [.running subscription.handle rest] holds rfl hbelow).imp_left
      List.mem_singleton.1
  refine @Safe.moves state _ service thread frames hsafe id (List.map_id _).symm rfl (fun _ => rfl)
    _ holds [.running subscription.handle rest] rfl ?_ ?_ ?_ hsafe.erased ?_ hsafe.goneKnown ?_ ?_
  · intro other _
    rfl
  · intro top htop mentioned hmentioned
    rw [List.mem_singleton.1 htop] at hmentioned
    exact hsafe.known thread (.counted subscription.handle rest)
      (hstack ▸ List.mem_cons_self) mentioned hmentioned
  · rintro other hother (⟨before, below, hbelow, hquiets⟩ | hgone)
    · rcases hwhere before below hbelow with rfl | ⟨before', hbefore⟩
      · cases hquiets
      · exact hsafe.quiet other hother (.inl ⟨before', below, hbefore, hquiets⟩)
    · exact hsafe.quiet other hother (.inr hgone)
  · rintro hservice other hother ⟨before, hwaiting⟩
    rcases hwhere before _ hwaiting with htop | hbefore
    · cases htop
    · exact hsafe.erasedFirst hservice other hother hbefore
  · rintro other (⟨before, below, hbelow, hwaited⟩ | hgone)
    · rcases hwhere before below hbelow with rfl | ⟨before', hbefore⟩
      · cases hwaited
      · exact .inl (.inl ⟨before', below, hbefore, hwaited⟩)
    · exact .inl (.inr hgone)
  · intro top htop other hruns
    rw [List.mem_singleton.1 htop] at hruns
    have hsame : subscription.handle = other := by simpa [Frame.runs] using hruns
    subst hsame
    exact ⟨⟨_, List.mem_singleton_self _, by simp [Frame.holds]⟩, hnot⟩

/-- Who unsubscribes goes on, or through, with nobody counted in the subscription; `renew` is the
erasure. -/
theorem Safe.settles (hsafe : Safe service state) {renew : Subscription → Subscription}
    (hsubscriptions : after.subscriptions = state.subscriptions.map renew)
    (hnext : after.nextSubscription = state.nextSubscription)
    (hrenew : ∀ subscription, (renew subscription).handle = subscription.handle ∧
      (renew subscription).enabled = subscription.enabled ∧
        (renew subscription).active = subscription.active ∧
          (subscription.registered = false → (renew subscription).registered = false))
    (hstack : state.callStack thread = frame :: frames) (hquiets : frame.quiets handle = true)
    (hholds : ∀ other, frame.holds other = false)
    (hsettled : state.Waited handle ∨ state.Settled handle) (tops : List Frame)
    (hcallStack : after.callStack = update state.callStack thread (tops ++ frames))
    (htops : ∀ top ∈ tops, top = .waited handle)
    (hgone : ∀ other ∈ after.gone, other = handle ∨ other ∈ state.gone)
    (herased : handle ∈ after.gone → ∀ subscription ∈ state.subscriptions,
      subscription.handle = handle → (renew subscription).registered = false) :
    Safe service after := by
  have holds : state.callStack thread = [frame] ++ frames := hstack
  have hmem : frame ∈ state.callStack thread := hstack ▸ List.mem_cons_self
  have hquieted : state.Quieted handle := .inl ⟨thread, frame, hmem, hquiets⟩
  have hmentions : frame.Mentions handle := by
    cases frame with
    | waiting other => exact (beq_iff_eq.1 hquiets).symm
    | waited other => exact (beq_iff_eq.1 hquiets).symm
    | _ => cases hquiets
  have hback : ∀ other, after.Quieted other → state.Quieted other := by
    rintro other (⟨before, below, hbelow, hquiets'⟩ | hother)
    · rcases stood tops holds hcallStack hbelow with htop | ⟨where_, hwhere⟩
      · rw [htops below htop] at hquiets'
        rw [← beq_iff_eq.1 hquiets']
        exact hquieted
      · exact .inl ⟨where_, below, hwhere, hquiets'⟩
    · rcases hgone other hother with rfl | hbefore
      · exact hquieted
      · exact .inr hbefore
  apply hsafe.moves hsubscriptions hnext (fun subscription => (hrenew subscription).1) holds tops
    hcallStack
  · intro subscription _
    rw [(hrenew subscription).2.2.1, List.countP_singleton, hholds]
    have hzero : tops.countP (Frame.holds subscription.handle) = 0 := by
      refine List.countP_eq_zero.2 fun top htop => ?_
      rw [htops top htop]
      simp [Frame.holds]
    rw [hzero]
    rfl
  · intro top htop mentioned hmentioned
    rw [htops top htop] at hmentioned
    cases hmentioned
    exact hsafe.known thread frame hmem handle hmentions
  · intro subscription hmem' hquieted'
    rw [(hrenew subscription).2.1]
    exact hsafe.quiet subscription hmem' (hback _ hquieted')
  · intro subscription hmem' hmem''
    rcases hgone _ hmem'' with hsame | hbefore
    · exact herased (hsame ▸ hmem'') subscription hmem' hsame
    · exact (hrenew subscription).2.2.2 (hsafe.erased subscription hmem' hbefore)
  · rintro hservice subscription hmem' ⟨other, hwaiting⟩
    apply (hrenew subscription).2.2.2
    rcases stood tops holds hcallStack hwaiting with htop | hbefore
    · cases htops _ htop
    · exact hsafe.erasedFirst hservice subscription hmem' hbefore
  · intro other hother
    rcases hgone other hother with rfl | hbefore
    · exact hsafe.known thread frame hmem _ hmentions
    · exact hsafe.goneKnown other hbefore
  · rintro other (⟨before, below, hbelow, hwaited⟩ | hother)
    · rcases stood tops holds hcallStack hbelow with htop | ⟨where_, hwhere⟩
      · rw [htops below htop] at hwaited
        rw [← beq_iff_eq.1 hwaited]
        exact hsettled
      · exact .inl (.inl ⟨where_, below, hwhere, hwaited⟩)
    · rcases hgone other hother with rfl | hbefore
      · exact hsettled
      · exact .inl (.inr hbefore)
  · intro top htop other hruns
    rw [htops top htop] at hruns
    cases hruns

theorem Safe.returns (hsafe : Safe service state)
    (hstack : state.callStack thread = frame :: frames)
    (hholds : ∀ handle, frame.holds handle = false) :
    Safe service (state.setStack thread frames) := by
  have holds : state.callStack thread = [frame] ++ frames := hstack
  apply hsafe.exchange holds []
  · intro handle
    simp [hholds]
  · intro top htop
    cases htop
  · intro top htop
    cases htop
  · intro top htop
    cases htop

theorem Safe.goesOn (hsafe : Safe service state) (hstack : state.callStack thread = frame :: frames)
    {next : Frame} (hholds : ∀ handle, frame.holds handle = false)
    (hholds' : ∀ handle, next.holds handle = false)
    (hmentions : ∀ handle, next.Mentions handle → frame.Mentions handle)
    (hquiets : ∀ handle, next.quiets handle = false) :
    Safe service (state.setStack thread (next :: frames)) := by
  have holds : state.callStack thread = [frame] ++ frames := hstack
  apply hsafe.exchange holds [next]
  · intro handle
    simp [hholds, hholds']
  · intro top htop handle hmentioned
    rw [List.mem_singleton.1 htop] at hmentioned
    exact hsafe.known thread frame (hstack ▸ List.mem_cons_self) handle
      (hmentions handle hmentioned)
  · intro top htop handle
    rw [List.mem_singleton.1 htop]
    exact hquiets handle
  · intro top htop handle
    rw [List.mem_singleton.1 htop]
    by_contra hruns
    rw [Bool.not_eq_false] at hruns
    have hnot := hholds' handle
    rw [Frame.holds_of_runs hruns] at hnot
    cases hnot

theorem go_safe (hsafe : Safe service state) (hgo : state.go thread service = some after) :
    Safe service after := by
  unfold go at hgo
  split at hgo
  · cases hgo
  · rename_i frames hstack
    cases hgo
    exact hsafe.returns hstack fun _ => rfl
  · rename_i handle rest frames hstack
    cases hgo
    exact hsafe.enters hstack
  · rename_i handle rest frames hstack
    split at hgo
    · cases hgo
    · rename_i subscription hfound
      split at hgo
      · cases hgo
        exact hsafe.leaves hstack (fun _ => rfl) fun _ hmem => .inr hmem
      · rename_i hcalls
        cases hgo
        rw [not_or, Bool.not_eq_true', Bool.not_eq_false] at hcalls
        exact hsafe.calls hstack hfound hcalls.1
  · rename_i handle rest frames hstack
    cases hgo
    exact hsafe.leaves hstack (fun _ => rfl) fun _ hmem => .inr hmem
  · rename_i handle frames hstack
    split at hgo
    · cases hgo
    · rename_i subscription hfound
      split at hgo
      · cases hgo
      · rename_i hzero
        rw [not_not] at hzero
        have hsettled := hsafe.settled hfound hzero
        have hquiets : (Frame.waiting handle).quiets handle = true := by simp [Frame.quiets]
        split at hgo
        · rename_i hservice
          cases hgo
          refine @Safe.settles state _ service thread handle _ frames hsafe id
            (List.map_id _).symm rfl (fun _ => ⟨rfl, rfl, rfl, id⟩) hstack hquiets (fun _ => rfl)
            (.inr hsettled) [] rfl ?_ ?_ ?_
          · intro top htop
            cases htop
          · intro other hother
            exact List.mem_cons.1 hother
          · intro _ subscription hmem hsame
            refine hsafe.erasedFirst hservice subscription hmem ⟨thread, ?_⟩
            rw [hsame, hstack]
            exact List.mem_cons_self
        · cases hgo
          refine @Safe.settles state _ service thread handle _ frames hsafe id
            (List.map_id _).symm rfl (fun _ => ⟨rfl, rfl, rfl, id⟩) hstack hquiets (fun _ => rfl)
            (.inr hsettled) [.waited handle] rfl ?_ ?_ ?_
          · intro top htop
            exact List.mem_singleton.1 htop
          · intro other hother
            exact .inr hother
          · intro hgone subscription hmem hsame
            exact hsafe.erased subscription hmem (hsame ▸ hgone)
  · rename_i handle frames hstack
    cases hgo
    have hquiets : (Frame.waited handle).quiets handle = true := by simp [Frame.quiets]
    have hwaited : state.Waited handle := by
      refine .inl ⟨thread, .waited handle, ?_, by simp [Frame.isWaited]⟩
      rw [hstack]
      exact List.mem_cons_self
    refine hsafe.settles rfl rfl ?_ hstack hquiets (fun _ => rfl) (.inl hwaited) [] rfl ?_ ?_ ?_
    · intro subscription
      split <;> exact ⟨rfl, rfl, rfl, by simp⟩
    · intro top htop
      cases htop
    · intro other hother
      exact List.mem_cons.1 hother
    · intro _ subscription _ hsame
      rw [if_pos hsame]
  · rename_i plugin handle rest release frames hstack
    split at hgo
    · cases hgo
    · split at hgo
      · cases hgo
      · cases hgo
        exact hsafe.goesOn hstack (fun _ => rfl) (fun _ => rfl)
          (fun _ hmem => List.mem_cons_of_mem _ hmem) fun _ => rfl
  · rename_i plugin release frames hstack
    cases hgo
    split
    · have holds : state.callStack thread = [.deactivating plugin [] release] ++ frames := hstack
      refine hsafe.plain rfl rfl rfl ?_ holds [] rfl ?_ ?_ ?_ ?_
      · intro subscription
        split <;> exact ⟨rfl, id, by simp⟩
      · intro subscription _
        split <;> rfl
      · intro top htop
        cases htop
      · intro top htop
        cases htop
      · intro top htop
        cases htop
    · exact hsafe.returns hstack fun _ => rfl

/-! ## What is called from outside -/

theorem find_some (hfound : state.find handle = some subscription) :
    subscription ∈ state.subscriptions ∧ subscription.registered = true ∧
      subscription.handle = handle := by
  have hsought := List.find?_some hfound
  rw [Bool.and_eq_true, beq_iff_eq] at hsought
  exact ⟨List.mem_of_find?_eq_some hfound, hsought⟩

theorem Safe.lowers (hsafe : Safe service state) {renew : Subscription → Subscription}
    (hsubscriptions : after.subscriptions = state.subscriptions.map renew)
    (hnext : after.nextSubscription = state.nextSubscription) (hgone : after.gone = state.gone)
    (hcallStack : after.callStack = state.callStack)
    (hrenew : ∀ subscription, (renew subscription).handle = subscription.handle ∧
      (subscription.enabled = false → (renew subscription).enabled = false) ∧
        (subscription.registered = false → (renew subscription).registered = false))
    (hactive : ∀ subscription, (renew subscription).active = subscription.active) :
    Safe service after := by
  have hstack : state.callStack 0 = [] ++ state.callStack 0 := rfl
  apply hsafe.plain hsubscriptions hnext hgone hrenew hstack []
  · rw [hcallStack]
    exact (Function.update_eq_self 0 state.callStack).symm
  · intro subscription _
    rw [hactive]
  · intro top htop
    cases htop
  · intro top htop
    cases htop
  · intro top htop
    cases htop

theorem Safe.waits (hsafe : Safe service state) {renew : Subscription → Subscription}
    (hsubscriptions : after.subscriptions = state.subscriptions.map renew)
    (hnext : after.nextSubscription = state.nextSubscription) (hgone : after.gone = state.gone)
    (hcallStack : after.callStack = update state.callStack thread
      (.waiting handle :: state.callStack thread))
    (hrenew : ∀ subscription, (renew subscription).handle = subscription.handle ∧
      (subscription.enabled = false → (renew subscription).enabled = false) ∧
        (subscription.registered = false → (renew subscription).registered = false))
    (hactive : ∀ subscription, (renew subscription).active = subscription.active)
    (hdisabled : ∀ subscription, subscription.handle = handle →
    (renew subscription).enabled = false)
    (herased : service = .plugin → ∀ subscription, subscription.handle = handle →
      (renew subscription).registered = false)
    (hknown : state.Known handle) : Safe service after := by
  have hstack : state.callStack thread = [] ++ state.callStack thread := rfl
  have hwhere : ∀ other, ∀ frame ∈ after.callStack other,
      frame = .waiting handle ∨ ∃ other, frame ∈ state.callStack other := by
    intro other frame hmem
    exact (stood [.waiting handle] hstack hcallStack hmem).imp_left List.mem_singleton.1
  apply hsafe.moves hsubscriptions hnext (fun subscription => (hrenew subscription).1) hstack
    [.waiting handle] hcallStack
  · intro subscription _
    rw [hactive]
    rfl
  · intro top htop mentioned hmentioned
    rw [List.mem_singleton.1 htop] at hmentioned
    cases hmentioned
    exact hknown
  · rintro subscription hmem (⟨other, frame, hframe, hquiets⟩ | hother)
    · rcases hwhere other frame hframe with rfl | ⟨before, hbefore⟩
      · exact hdisabled subscription (beq_iff_eq.1 hquiets).symm
      · exact (hrenew subscription).2.1
          (hsafe.quiet subscription hmem (.inl ⟨before, frame, hbefore, hquiets⟩))
    · exact (hrenew subscription).2.1
        (hsafe.quiet subscription hmem (.inr (hgone ▸ hother)))
  · intro subscription hmem hother
    exact (hrenew subscription).2.2 (hsafe.erased subscription hmem (hgone ▸ hother))
  · rintro hservice subscription hmem ⟨other, hwaiting⟩
    rcases hwhere other _ hwaiting with hsame | hbefore
    · exact herased hservice subscription (Frame.waiting.inj hsame)
    · exact (hrenew subscription).2.2 (hsafe.erasedFirst hservice subscription hmem hbefore)
  · intro other hother
    exact hsafe.goneKnown other (hgone ▸ hother)
  · rintro other (⟨before, frame, hframe, hwaited⟩ | hother)
    · rcases hwhere before frame hframe with rfl | ⟨before', hbefore⟩
      · cases hwaited
      · exact .inl (.inl ⟨before', frame, hbefore, hwaited⟩)
    · exact .inl (.inr (hgone ▸ hother))
  · intro top htop other hruns
    rw [List.mem_singleton.1 htop] at hruns
    cases hruns

/-- The change that `disable` makes, and with `erased` that of `erase` behind it. -/
def lower (handle : Handle) (erased : Bool) (subscription : Subscription) : Subscription :=
  if subscription.handle = handle then
    { subscription with
      enabled := false, registered := subscription.registered && !erased }
  else subscription

theorem lower_renews (erased : Bool) (subscription : Subscription) :
    ((lower handle erased subscription).handle = subscription.handle ∧
      (subscription.enabled = false → (lower handle erased subscription).enabled = false) ∧
        (subscription.registered = false →
          (lower handle erased subscription).registered = false)) ∧
      (lower handle erased subscription).active = subscription.active := by
  unfold lower
  split
  · exact ⟨⟨rfl, fun _ => rfl, fun h => by simp [h]⟩, rfl⟩
  · exact ⟨⟨rfl, id, id⟩, rfl⟩

theorem disable_lower : (state.disable handle).subscriptions =
    state.subscriptions.map (lower handle false) := by
  apply List.map_congr_left
  intro subscription _
  unfold lower
  split <;> simp

theorem erase_lower : ((state.disable handle).erase handle).subscriptions =
    state.subscriptions.map (lower handle true) := by
  simp only [disable, erase, modify, List.map_map]
  apply List.map_congr_left
  intro subscription _
  simp only [Function.comp_apply, lower]
  by_cases hsame : subscription.handle = handle
  · simp [hsame]
  · simp [hsame]

section

variable (hsafe : Safe service state)

include hsafe

theorem unsubscribe_safe (thread : Nat) (plugin : KeelPluginHandle) (handle : Handle) :
    Safe service (state.unsubscribe thread service plugin handle).2 := by
  have hdisabled : ∀ erased, ∀ subscription : Subscription, subscription.handle = handle →
      (lower handle erased subscription).enabled = false := by
    intro erased subscription hsame
    rw [lower, if_pos hsame]
  have herased : ∀ subscription : Subscription, subscription.handle = handle →
      (lower handle true subscription).registered = false := by
    intro subscription hsame
    simp [lower, if_pos hsame]
  have hwaitErase : service ≠ .plugin →
      Safe service (state.unsubscribeWaitErase thread plugin handle).2 := by
    intro hservice
    unfold unsubscribeWaitErase
    split
    · exact hsafe
    · rename_i subscription hfound
      obtain ⟨hmem, _, hhandle⟩ := find_some hfound
      split
      · exact hsafe
      · split
        · exact hsafe.lowers disable_lower rfl rfl rfl (fun other => (lower_renews _ other).1)
            fun other => (lower_renews _ other).2
        · exact hsafe.waits disable_lower rfl rfl rfl (fun other => (lower_renews _ other).1)
            (fun other => (lower_renews _ other).2) (hdisabled false)
            (fun hplugin => absurd hplugin hservice) ⟨subscription, hmem, hhandle⟩
  cases service with
  | lifecycle => exact hwaitErase (by decide)
  | source2Callbacks => exact hwaitErase (by decide)
  | plugin =>
    simp only [unsubscribe, unsubscribeEraseWait]
    split
    · exact hsafe
    split
    · exact hsafe
    split
    · exact hsafe
    split
    · exact hsafe
    · rename_i subscription hfound
      obtain ⟨hmem, _, hhandle⟩ := find_some hfound
      split
      · exact hsafe
      · split
        · exact hsafe.lowers erase_lower rfl rfl rfl (fun other => (lower_renews _ other).1)
            fun other => (lower_renews _ other).2
        · exact hsafe.waits erase_lower rfl rfl rfl (fun other => (lower_renews _ other).1)
            (fun other => (lower_renews _ other).2) (hdisabled true) (fun _ => herased)
            ⟨subscription, hmem, hhandle⟩

theorem activate_safe {plugin : KeelPluginHandle}
    (hsettles : Settles service state (.activate plugin)) :
    Safe service (state.activate plugin) := by
  unfold activate
  split
  · exact hsafe
  · have hstack : state.callStack 0 = [] ++ state.callStack 0 := rfl
    have hkept : ∀ subscription : Subscription, ((if subscription.registered &&
        subscription.owner == plugin then { subscription with enabled := true }
          else subscription).handle = subscription.handle) ∧ ((if subscription.registered &&
        subscription.owner == plugin then { subscription with enabled := true }
          else subscription).active = subscription.active) ∧ ((if subscription.registered &&
        subscription.owner == plugin then { subscription with enabled := true }
          else subscription).registered = subscription.registered) := by
      intro subscription
      split <;> exact ⟨rfl, rfl, rfl⟩
    refine hsafe.moves rfl rfl (fun subscription => (hkept subscription).1) hstack []
      (Function.update_eq_self 0 state.callStack).symm ?_ ?_ ?_ ?_ ?_ hsafe.goneKnown
      (fun _ hwaited => .inl hwaited) ?_
    · intro subscription _
      rw [(hkept subscription).2.1]
    · intro top htop
      cases htop
    · intro subscription hmem hquieted
      have hbefore := hsafe.quiet subscription hmem hquieted
      split
      · rename_i howned
        rw [Bool.and_eq_true, beq_iff_eq] at howned
        rcases hquieted with ⟨other, frame, hframe, hquiets⟩ | hgone
        · -- nobody is about to erase what is activated
          refine absurd howned.2
            (hsettles other subscription.handle ?_ subscription hmem rfl howned.1)
          cases frame with
          | waiting found => exact .inl ((beq_iff_eq.1 hquiets) ▸ hframe)
          | waited found => exact .inr ((beq_iff_eq.1 hquiets) ▸ hframe)
          | _ => cases hquiets
        · rw [hsafe.erased subscription hmem hgone] at howned
          cases howned.1
      · exact hbefore
    · intro subscription hmem hgone
      rw [(hkept subscription).2.2]
      exact hsafe.erased subscription hmem hgone
    · intro hservice subscription hmem hwaiting
      rw [(hkept subscription).2.2]
      exact hsafe.erasedFirst hservice subscription hmem hwaiting
    · intro top htop
      cases htop

theorem deactivate_safe (thread : Nat) (plugin : KeelPluginHandle) (release : Bool) :
    Safe service (state.deactivate thread plugin release).2 := by
  unfold deactivate
  split
  · exact hsafe
  · have hstack : state.callStack thread = [] ++ state.callStack thread := rfl
    refine hsafe.plain rfl rfl rfl ?_ hstack
      [.deactivating plugin (state.owned plugin) release] rfl ?_ ?_ ?_ ?_
    · intro subscription
      split <;> exact ⟨rfl, by simp, id⟩
    · intro subscription _
      split <;> rfl
    · intro top htop handle hmentioned
      rw [List.mem_singleton.1 htop] at hmentioned
      obtain ⟨subscription, hmem, hsame⟩ := List.mem_map.1 hmentioned
      exact ⟨subscription, (List.mem_filter.1 hmem).1, hsame⟩
    · intro top htop handle
      rw [List.mem_singleton.1 htop]
      rfl
    · intro top htop handle
      rw [List.mem_singleton.1 htop]
      rfl

theorem dispatch_safe (thread : Nat) (event : Event) :
    Safe service (state.dispatch thread service event) := by
  unfold dispatch
  split
  · exact hsafe
  · have hstack : state.callStack thread = [] ++ state.callStack thread := rfl
    refine hsafe.exchange hstack [_] (fun _ => rfl) ?_ ?_ ?_
    · intro top htop handle hmentioned
      rw [List.mem_singleton.1 htop] at hmentioned
      obtain ⟨subscription, hmem, hsame⟩ := List.mem_map.1 hmentioned
      rw [List.mem_insertionSort] at hmem
      exact ⟨subscription, (List.mem_filter.1 hmem).1, hsame⟩
    · intro top htop handle
      rw [List.mem_singleton.1 htop]
      rfl
    · intro top htop handle
      rw [List.mem_singleton.1 htop]
      rfl

end

theorem Safe.adds (hsafe : Safe service state) (hnext : state.nextSubscription ≠ 0)
    (hhandle : subscription.handle = state.nextSubscription) (hactive : subscription.active = 0)
    (nextSequence : Nat) :
    Safe service { state with
      subscriptions := state.subscriptions ++ [subscription]
      nextSubscription := (state.nextSubscription + 1) % 2 ^ 64
      nextSequence := nextSequence } := by
  have hfresh : ∀ old ∈ state.subscriptions, old.handle ≠ subscription.handle := by
    intro old hold heq
    have hlt := hsafe.fresh hnext old hold
    rw [heq, hhandle] at hlt
    exact Nat.lt_irrefl _ hlt
  have hunknown : ¬state.Known subscription.handle := by
    rintro ⟨old, hold, hsame⟩
    exact hfresh old hold hsame
  have hbounded := hsafe.bounded
  have hlater : (state.nextSubscription + 1) % 2 ^ 64 ≠ 0 →
      (state.nextSubscription + 1) % 2 ^ 64 = state.nextSubscription + 1 := by
    intro hmore
    omega
  have hquieted : ¬state.Quieted subscription.handle := by
    rintro (⟨other, frame, hmem, hquiets⟩ | hgone)
    · apply hunknown
      apply hsafe.known other frame hmem
      cases frame with
      | waiting found => exact (beq_iff_eq.1 hquiets).symm
      | waited found => exact (beq_iff_eq.1 hquiets).symm
      | _ => cases hquiets
    · exact hunknown (hsafe.goneKnown _ hgone)
  have hadded : ∀ handle, state.Known handle → ∃ old ∈ state.subscriptions ++ [subscription],
      old.handle = handle := by
    rintro handle ⟨old, hold, hsame⟩
    exact ⟨old, List.mem_append_left _ hold, hsame⟩
  refine ⟨Nat.mod_lt _ (Nat.two_pow_pos 64), ?_, ?_, ?_, ?_, ?_, ?_, ?_, ?_, hsafe.isOver⟩
  · intro hmore old hold
    change old.handle < (state.nextSubscription + 1) % 2 ^ 64
    rw [hlater hmore]
    rcases List.mem_append.1 hold with hbefore | hnew
    · exact Nat.lt_succ_of_lt (hsafe.fresh hnext old hbefore)
    · rw [List.mem_singleton.1 hnew, hhandle]
      exact Nat.lt_succ_self _
  · have hdistinct : (subscription.handle :: state.subscriptions.map (·.handle)).Nodup := by
      refine List.nodup_cons.2 ⟨?_, hsafe.distinct⟩
      intro hmem
      obtain ⟨old, hold, heq⟩ := List.mem_map.1 hmem
      exact hfresh old hold heq
    refine (List.Perm.nodup_iff ?_).2 hdistinct
    rw [List.map_append, List.map_singleton]
    exact List.perm_append_singleton _ _
  · intro other frame hmem handle hmentioned
    exact hadded handle (hsafe.known other frame hmem handle hmentioned)
  · intro old hold
    rcases List.mem_append.1 hold with hbefore | hnew
    · exact hsafe.counted old hbefore
    · rw [List.mem_singleton.1 hnew, hactive]
      have hzero : (fun other => (state.callStack other).countP
          (Frame.holds subscription.handle)) = fun _ => 0 := by
        funext other
        refine List.countP_eq_zero.2 fun frame hmem hholds => hunknown ?_
        apply hsafe.known other frame hmem
        cases frame with
        | counted found rest => exact .inl (beq_iff_eq.1 hholds).symm
        | running found rest => exact .inl (beq_iff_eq.1 hholds).symm
        | _ => cases hholds
      exact hzero ▸ Lib.counts_zero
  · intro old hold hquieted'
    rcases List.mem_append.1 hold with hbefore | hnew
    · exact hsafe.quiet old hbefore hquieted'
    · rw [List.mem_singleton.1 hnew] at hquieted'
      exact absurd hquieted' hquieted
  · intro old hold hgone
    rcases List.mem_append.1 hold with hbefore | hnew
    · exact hsafe.erased old hbefore hgone
    · rw [List.mem_singleton.1 hnew] at hgone
      exact absurd (.inr hgone) hquieted
  · rintro hservice old hold ⟨other, hwaiting⟩
    rcases List.mem_append.1 hold with hbefore | hnew
    · exact hsafe.erasedFirst hservice old hbefore ⟨other, hwaiting⟩
    · rw [List.mem_singleton.1 hnew] at hwaiting
      exact absurd (.inl ⟨other, _, hwaiting, by simp [Frame.quiets]⟩) hquieted
  · intro handle hgone
    exact hadded handle (hsafe.goneKnown handle hgone)

theorem subscribe_safe (hsafe : Safe service state) (plugin : KeelPluginHandle) (spec : Spec)
    (installed : KeelResult) : Safe service (state.subscribe service plugin spec installed).2 := by
  unfold subscribe
  split
  · exact hsafe
  split
  · exact hsafe
  split
  · exact hsafe
  · split
    · exact hsafe
    split
    · exact hsafe
    · rename_i hnext
      rw [not_or] at hnext
      exact hsafe.adds hnext.1 rfl rfl _

end State

open State in
theorem step_safe {service : Service} {state : State} {action : Action}
    (hsafe : Safe service state) (hsettles : Settles service state action) :
    Safe service (step service state action) := by
  cases action with
  | dispatch thread event =>
    simp only [step]
    split
    · exact dispatch_safe hsafe thread event
    · exact hsafe
  | go thread =>
    simp only [step]
    cases hgo : state.go thread service with
    | none => exact hsafe
    | some after => exact go_safe hsafe hgo
  | subscribe thread plugin spec installed =>
    simp only [step]
    split
    · exact subscribe_safe hsafe plugin spec installed
    · exact hsafe
  | unsubscribe thread plugin handle =>
    simp only [step]
    split
    · exact unsubscribe_safe hsafe thread plugin handle
    · exact hsafe
  | activate plugin => exact activate_safe hsafe hsettles
  | deactivate thread plugin release =>
    simp only [step]
    split
    · exact deactivate_safe hsafe thread plugin release
    · exact hsafe
  | manage acceptingResources shuttingDown plugins =>
    exact hsafe.lowers (List.map_id _).symm rfl rfl rfl (fun _ => ⟨rfl, id, id⟩) fun _ => rfl

/-! ## Every run -/

namespace State

theorem initial_safe (service : Service) : Safe service initial where
  bounded := by decide
  fresh := by
    intro _ subscription hmem
    cases hmem
  distinct := List.nodup_nil
  known := by
    intro thread frame hmem
    cases hmem
  counted := by
    intro subscription hmem
    cases hmem
  quiet := by
    intro subscription hmem
    cases hmem
  erased := by
    intro subscription hmem
    cases hmem
  erasedFirst := by
    intro _ subscription hmem
    cases hmem
  goneKnown := by
    intro handle hmem
    cases hmem
  isOver := by
    intro handle _ thread frame hmem
    cases hmem

end State

open State in
theorem Settles.busyLeaves {service : Service} {state : State} {action : Action}
    (hsafe : Safe service state) (hsettles : Settles service state action) :
    BusyLeaves service state action := by
  cases action with
  | unsubscribe thread plugin handle =>
    intro _ hbusy
    have hwaitErase : service ≠ .plugin →
        (state.unsubscribeWaitErase thread plugin handle).1 = some .busy →
          (state.unsubscribeWaitErase thread plugin handle).2.subscription handle =
            state.subscription handle := by
      intro hservice hbusy
      unfold unsubscribeWaitErase at hbusy ⊢
      split at hbusy
      · cases hbusy
      · rename_i subscription hfound
        split at hbusy
        · cases hbusy
        · rename_i howner
          split at hbusy
          · rename_i hcurrent
            obtain ⟨hmem, hregistered, hhandle⟩ := find_some hfound
            simp only [if_neg howner, if_pos hcurrent]
            -- what is disabled already is not changed
            have hdisabled := hsettles hservice hcurrent subscription hmem hhandle hregistered
              (not_not.1 howner)
            have hsame : lower handle false subscription = subscription := by
              cases subscription
              simp_all [lower]
            have hafter : Safe service (state.disable handle) :=
              hsafe.lowers disable_lower rfl rfl rfl (fun other => (lower_renews _ other).1)
                fun other => (lower_renews _ other).2
            have hmem' : subscription ∈ (state.disable handle).subscriptions := by
              rw [disable_lower, ← hsame]
              exact List.mem_map_of_mem hmem
            rw [← hhandle, hsafe.subscription_mem hmem]
            exact hhandle ▸ hafter.subscription_mem hmem'
          · cases hbusy
    cases service with
    | lifecycle => exact hwaitErase (by decide) hbusy
    | source2Callbacks => exact hwaitErase (by decide) hbusy
    | plugin =>
      exfalso
      simp only [unsubscribe, unsubscribeEraseWait] at hbusy
      repeat' split at hbusy
      all_goals cases hbusy
  | _ => trivial

open State in
/-- Who has had an unsubscription succeed from outside finds nobody in the callback, then and
later, and one that is `BUSY` leaves the subscription alone: as long as nothing is activated that
somebody waits to erase, and nobody unsubscribes from inside what is enabled. -/
theorem over_if_settles (service : Service) (actions : List Action)
    (hheeds : Lib.Heeds (step service) (Settles service) State.initial actions) :
    (Lib.run (step service) State.initial actions).Over ∧
      Lib.Heeds (step service) (BusyLeaves service) State.initial actions := by
  have hstep : ∀ state action, Safe service state → Settles service state action →
      Safe service (step service state action) := fun _ _ hsafe hsettles =>
    step_safe hsafe hsettles
  refine ⟨?_, Lib.Heeds.conclude hstep (fun _ _ hsafe hsettles => hsettles.busyLeaves hsafe)
    (State.initial_safe service) hheeds⟩
  have hsafe := Lib.Heeds.invariant hstep (State.initial_safe service) hheeds
  intro handle hgone
  exact hsafe.isOver handle (.inr hgone)

/-- A plugin that runs, and what it subscribes to. -/
def runningPlugin : PluginRecord :=
  { PluginRecord.new 1 [] with state := .loaded, acceptingResources := true }

def frameSpec : Spec := ⟨true, 1, 0, [], 7, 0⟩

def subscribes : List Action :=
  [.manage true false [runningPlugin], .subscribe 0 1 frameSpec .ok]

/-- It is called on one thread, and unsubscribes on another meanwhile. -/
def unsubscribesCalled : List Action :=
  subscribes ++ [.activate 1, .dispatch 1 ⟨1, []⟩, .go 1, .go 1, .unsubscribe 0 1 1, .go 0, .go 1,
    .go 1, .go 0, .go 0]

theorem over_if_settles_called :
    (Lib.run (step .lifecycle) State.initial unsubscribesCalled).Over ∧
      Lib.Heeds (step .lifecycle) (BusyLeaves .lifecycle) State.initial unsubscribesCalled := by
  apply over_if_settles
  refine ⟨trivial, trivial, ?_, trivial, trivial, trivial, ?_, trivial, trivial, trivial, trivial,
    trivial, trivial⟩
  · rintro thread handle (hwaiting | hwaited)
    · cases hwaiting
    · cases hwaited
  · intro _ hcurrent
    cases hcurrent

/-- The plugin is activated while the unsubscription waits. -/
def activatesWaiting : List Action :=
  subscribes ++ [.unsubscribe 0 1 1, .activate 1, .dispatch 1 ⟨1, []⟩, .go 0, .go 1, .go 1, .go 0]

/-- It unsubscribes in its own callback. -/
def unsubscribesInside : List Action :=
  subscribes ++ [.dispatch 1 ⟨1, []⟩, .go 1, .go 1, .unsubscribe 1 1 1]

/-- It is called when its unsubscription has returned; and what was `BUSY` is disabled. -/
theorem called_when_gone :
    (¬∀ actions, (Lib.run (step .lifecycle) State.initial actions).Over) ∧
      ¬∀ actions, Lib.Heeds (step .lifecycle) (BusyLeaves .lifecycle) State.initial actions := by
  refine ⟨fun hall => ?_, fun hall => ?_⟩
  · have hover := hall activatesWaiting 1 (by decide) 1 (.running 1 []) (by decide)
    cases hover
  · have hbusy := (hall unsubscribesInside).2.2.2.2.2.1 (by decide) (by decide)
    exact absurd hbusy (by decide)

end Subscriptions
end KeelS2.Hosting
