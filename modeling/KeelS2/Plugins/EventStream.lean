import KeelS2.Plugins.OpenImages

/-!
# The events of the plugin service

The manager publishes an event behind the change of state that it tells of, with the lock
released: `Publish` takes a number, `Dispatch` takes a snapshot of `subscriptions_` and calls one
subscriber after the other, and a subscriber may call the manager again. Looked at is one
subscriber, that has subscribed to all events; whatever the others do are steps of the manager.
-/

namespace KeelS2.Plugins

/-! ## The law of the events -/

/-- `LOADED`, then `PAUSED` and `RESUMED` in turn, then `UNLOADED`. -/
def lifetime (pairs : Nat) (last : Bool) : List PluginEvent :=
  .loaded :: ((List.replicate pairs [.paused, .resumed]).flatten ++
    ((if last then [.paused] else []) ++ [.unloaded]))

/-- Where the events have got to. -/
inductive Phase
  | fresh
  | running
  | paused
  | gone
  deriving DecidableEq, Repr

namespace Phase

def advance : Phase → PluginEvent → Option Phase
  | .fresh, .loaded => some .running
  | .running, .paused => some .paused
  | .paused, .resumed => some .running
  | .running, .unloaded => some .gone
  | .paused, .unloaded => some .gone
  | _, _ => none

def follow : Phase → List PluginEvent → Option Phase
  | phase, [] => some phase
  | phase, event :: events => (phase.advance event).bind (follow · events)

theorem follow_append (phase : Phase) (first second : List PluginEvent) :
    phase.follow (first ++ second) = (phase.follow first).bind (follow · second) := by
  induction first generalizing phase with
  | nil => rfl
  | cons event events ih =>
    simp only [List.cons_append, follow, Option.bind_assoc]
    congr 1
    funext next
    exact ih next

theorem follow_gone {events : List PluginEvent} {phase : Phase}
    (hfollow : follow .gone events = some phase) : events = [] := by
  cases events with
  | nil => rfl
  | cons event events => cases event <;> cases hfollow

theorem follow_running {phase : Phase} : ∀ {events : List PluginEvent},
    follow .running events = some phase → ∃ pairs, ∃ last : Bool,
      events <+: (List.replicate pairs [PluginEvent.paused, .resumed]).flatten ++
        ((if last then [.paused] else []) ++ [.unloaded])
  | [], _ => ⟨0, false, List.nil_prefix⟩
  | .unloaded :: events, hfollow => by
    rw [follow_gone hfollow]
    exact ⟨0, false, List.prefix_refl _⟩
  | [.paused], _ => ⟨0, true, [.unloaded], rfl⟩
  | .paused :: .unloaded :: events, hfollow => by
    rw [follow_gone hfollow]
    exact ⟨0, true, List.prefix_refl _⟩
  | .paused :: .resumed :: events, hfollow => by
    obtain ⟨pairs, last, hprefix⟩ := @follow_running phase events hfollow
    refine ⟨pairs + 1, last, ?_⟩
    rw [List.replicate_succ, List.flatten_cons]
    simpa using hprefix

theorem follow_fresh {events : List PluginEvent} {phase : Phase}
    (hfollow : follow .fresh events = some phase) :
    ∃ pairs last, events <+: lifetime pairs last := by
  cases events with
  | nil => exact ⟨0, false, List.nil_prefix⟩
  | cons event events =>
    cases event with
    | loaded =>
      obtain ⟨pairs, last, hprefix⟩ := follow_running hfollow
      exact ⟨pairs, last, List.cons_prefix_cons.2 ⟨rfl, hprefix⟩⟩
    | unloaded => cases hfollow
    | paused => cases hfollow
    | resumed => cases hfollow
    | allLoaded => cases hfollow

end Phase

/-! ## Publishing -/

/-- `KeelPluginEvent`; all plugins together have no snapshot. -/
structure Sent where
  event : PluginEvent
  sequence : Nat
  plugin : Option KeelPluginHandle
  deriving DecidableEq, Repr

/-- `Publish` or `PublishAllLoaded`, under way. -/
inductive Publication
  | called
  | numbered (sequence : Nat)
  /-- In the loop over the snapshot, before the subscriber; is it in the snapshot? -/
  | collected (sequence : Nat) (matched : Bool)
  /-- Behind the subscriber. -/
  | passed
  deriving DecidableEq, Repr

/-- What a thread that calls `Publish` publishes. -/
def Leaf.publishes : Leaf → Option (PluginEvent × Option KeelPluginHandle)
  | .script _ handle (.publish event :: _) _ => some (event, some handle)
  | .allLoaded => some (.allLoaded, none)
  | _ => none

structure Stream where
  machine : Machine
  nextEventSequence : Nat
  publications : Nat → Option Publication
  /-- `callback_depth_` of the thread that a command is on, when it was called. -/
  callbackDepth : Nat → Nat
  /-- The subscriber is in `subscriptions_`, and enabled. -/
  subscribed : Bool
  enabled : Bool
  /-- All that got a number, in this order. -/
  published : List Sent
  received : List Sent
  /-- The plugins of which the subscriber missed an event: it was not there, or not enabled. -/
  missed : KeelPluginHandle → Bool

namespace Stream

def initial : Stream where
  machine := .initial
  nextEventSequence := 1
  publications := fun _ => none
  callbackDepth := fun _ => 0
  subscribed := false
  enabled := false
  published := []
  received := []
  missed := fun _ => false

/-- `callback_stack_.size()`. -/
def callbackLimit : Nat := 64

/-- The event that a thread publishes, under a number. -/
def sent (stream : Stream) (thread sequence : Nat) : Option Sent :=
  (stream.machine.tasks thread).leaf.publishes.map fun published =>
    ⟨published.1, sequence, published.2⟩

/-- A callback is under way that a thread has called: a plugin's, or a subscriber's. -/
def callsBack (stream : Stream) (thread : Nat) : Bool :=
  (stream.machine.tasks thread).status = .calling &&
    match stream.publications thread with
    | none => true
    | some .called | some (.numbered _) => false
    | some (.collected _ _) | some .passed => true

/-- The step is not one that can be taken: `Publish` does not return before its loop is over, and
a command is called from a callback that is under way, or from none. -/
def refuses (stream : Stream) (inside : Option Nat) : Action → Bool
  | .answer thread _ =>
    (stream.publications thread).any (· ≠ .passed)
  | .invoke .. => inside.any fun thread => !stream.callsBack thread
  | _ => false

/-- The depth of callbacks in which a command is called. -/
def depthInside (stream : Stream) : Option Nat → Nat
  | none => 0
  | some thread =>
    stream.callbackDepth thread + if (stream.publications thread).isSome then 1 else 0

/-- Where the publication of a thread stands behind a step of the manager. -/
def publicationAfter (stream : Stream) (machine : Machine) (thread : Nat) : Option Publication :=
  if (machine.tasks thread).status = .working then none
  else if (stream.machine.tasks thread).status = .working then
    if (machine.tasks thread).leaf.publishes.isSome then some .called else none
  else stream.publications thread

/-- A plugin of which an event is not published, for want of a service. -/
def unheard (stream : Stream) : Action → Option KeelPluginHandle
  | .work _ =>
    match stream.machine.holder with
    | none => none
    | some thread =>
      if stream.machine.host.present .pluginService then none
      else (stream.machine.tasks thread).leaf.publishes.bind (·.2)
  | _ => none

def miss (stream : Stream) (handle : Option KeelPluginHandle) : KeelPluginHandle → Bool :=
  match handle with
  | none => stream.missed
  | some handle => set stream.missed handle true

/-- A step of the manager. -/
def manage (stream : Stream) (inside : Option Nat) (action : Action) : Stream :=
  if stream.refuses inside action then stream
  else
    let machine := stream.machine.step action
    { stream with
      machine := machine
      publications := stream.publicationAfter machine
      callbackDepth := match action with
        | .invoke thread .. =>
          if stream.machine.holder = none ∧ machine.holder = some thread then
            Function.update stream.callbackDepth thread (stream.depthInside inside)
          else stream.callbackDepth
        | _ => stream.callbackDepth
      missed := stream.miss (stream.unheard action) }

/-- `next_event_sequence_.fetch_add`; a number that is zero is one too many. -/
def number (stream : Stream) (thread : Nat) : Stream :=
  match stream.publications thread with
  | some .called =>
    let sequence := stream.nextEventSequence
    let taken := { stream with nextEventSequence := (sequence + 1) % 2 ^ 64 }
    if sequence = 0 then
      { taken with publications := Function.update stream.publications thread (some .passed) }
    else
      { taken with
        publications := Function.update stream.publications thread (some (.numbered sequence))
        published := stream.published ++ (stream.sent thread sequence).toList }
  | _ => stream

/-- The snapshot. -/
def collect (stream : Stream) (thread : Nat) : Stream :=
  match stream.publications thread with
  | some (.numbered sequence) =>
    { stream with
      publications := Function.update stream.publications thread
        (some (.collected sequence stream.subscribed)) }
  | _ => stream

/-- The loop comes to the subscriber, if it was in the snapshot. -/
def reach (stream : Stream) (thread : Nat) : Stream :=
  match stream.publications thread with
  | some (.collected sequence matched) =>
    let passed := { stream with
      publications := Function.update stream.publications thread (some .passed) }
    if matched && stream.enabled then
      if callbackLimit ≤ stream.callbackDepth thread then passed
      else
        { passed with received := stream.received ++ (stream.sent thread sequence).toList }
    else
      { passed with missed := stream.miss ((stream.sent thread sequence).bind (·.plugin)) }
  | _ => stream

inductive Act
  /-- A step of the manager; `inside` is the thread whose callback a command is called from. -/
  | manage (inside : Option Nat) (action : Action)
  | number (thread : Nat)
  | collect (thread : Nat)
  | reach (thread : Nat)
  /-- The subscriber subscribes or unsubscribes, is activated or deactivated. -/
  | subscription (subscribed enabled : Bool)

def step (stream : Stream) : Act → Stream
  | .manage inside action => stream.manage inside action
  | .number thread => stream.number thread
  | .collect thread => stream.collect thread
  | .reach thread => stream.reach thread
  | .subscription subscribed enabled =>
    { stream with subscribed := subscribed, enabled := enabled }

/-! ## What is promised -/

def publishedOf (stream : Stream) (handle : KeelPluginHandle) : List Sent :=
  stream.published.filter (·.plugin = some handle)

def receivedOf (stream : Stream) (handle : KeelPluginHandle) : List Sent :=
  stream.received.filter (·.plugin = some handle)

/-- The event of a plugin that a thread carries to the subscriber. -/
def carried (stream : Stream) (thread : Nat) (handle : KeelPluginHandle) : List Sent :=
  match stream.publications thread with
  | some (.numbered sequence) | some (.collected sequence _) =>
    (stream.sent thread sequence).toList.filter (·.plugin = some handle)
  | _ => []

/-- The subscriber gets the events of the plugin in the order of their numbers, each once, and
they are the beginning of a lifetime. -/
structure Lawful (stream : Stream) (handle : KeelPluginHandle) : Prop where
  increasing : ((stream.receivedOf handle).map (·.sequence)).Pairwise (· < ·)
  /-- What is published is received, up to what is just on its way. -/
  complete : ∃ thread,
    stream.publishedOf handle = stream.receivedOf handle ++ stream.carried thread handle
  ordered : ∃ pairs last, (stream.receivedOf handle).map (·.event) <+: lifetime pairs last

/-! ## When it is kept -/

end Stream

/-- The plugin that is taken out of service, or back into it, by a command that begins so. -/
def Leaf.transits : Leaf → Option KeelPluginHandle
  | .script (.unload _ _) handle _ _ | .script .pause handle _ _ | .script .resume handle _ _ =>
    some handle
  | _ => none

/-- The plugin of which a pause, a resume or an unload begins. -/
def Machine.begins (machine : Machine) : Action → Option KeelPluginHandle
  | .invoke _ _ _ command files => (machine.host.invoke files command).leaf.transits
  | .work files =>
    match machine.holder with
    | none => none
    | some thread =>
      match (machine.tasks thread).leaf, (machine.tasks thread).callers with
      | .returned result, caller :: _ => (machine.host.resume files result caller).leaf.transits
      | _, _ => none
  | _ => none

/-- The events of a plugin that a thread still has to publish, from where it stands. -/
def Leaf.owes (leaf : Leaf) (handle : KeelPluginHandle) : List PluginEvent :=
  match leaf with
  | .script (.start false) own (.publish .loaded :: _) _ =>
    if own = handle then [.loaded, .paused] else []
  | .script _ own (.publish event :: _) _ => if own = handle then [event] else []
  | _ => []

namespace Stream

/-- What of it the subscriber has still to be called with. -/
def owed (stream : Stream) (thread : Nat) (handle : KeelPluginHandle) : List PluginEvent :=
  if stream.publications thread = some .passed then
    ((stream.machine.tasks thread).leaf.owes handle).tail
  else (stream.machine.tasks thread).leaf.owes handle

/-- The service's two limits are not reached; and no pause, resume or unload of a plugin begins
while the subscriber has still to be called with an event of the plugin's start. -/
def Orderly (stream : Stream) : Act → Prop
  | .manage _ action =>
    ∀ handle ∈ stream.machine.begins action, ∀ thread, stream.owed thread handle = []
  | .number thread => stream.publications thread = some .called → stream.nextEventSequence ≠ 0
  | .reach thread => stream.callbackDepth thread < callbackLimit
  | _ => True

end Stream
end KeelS2.Plugins
