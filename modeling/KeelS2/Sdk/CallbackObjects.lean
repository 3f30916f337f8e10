import KeelS2.KeelHook.Abi
import KeelS2.Lib.Runs
import Mathlib.Data.List.Lemmas

/-!
# Callback objects and the registrations behind them

A `kh::Callback` owns a registration with the hook service and the *binding* that the registration
has as its user data. Its destructor resets it, ignores what `Reset` answers, and frees the binding.

The service may refuse to remove a callback: while its target is in transition or called directly,
and when the last callback of a target goes and the code cannot be restored. The registration then
outlives the binding. `freed_bindings_silent` is what holds otherwise: the service has no enabled
registration whose binding is freed.

A `kh::Hook` is a target and a `kh::Callback`, whose `Reset` it calls. How targets are leased and
their references counted only matters here for whether `Reset` empties the object, so what comes of
the release is given with the step. `RemoveCallback` takes its locks twice, so it is two steps; what
other operations do to a target in between is given by steps of its own.
-/

namespace KeelS2.Sdk

open Lib
open Function (update update_of_ne update_self)

/-! ## The hook service -/

structure OwnerState where
  accepting : Bool
  active : Bool
  deriving DecidableEq, Repr

structure TargetRecord where
  transition : Bool
  directCalls : Nat
  deriving DecidableEq, Repr

/-- A `CallbackRecord`. `userData` is a binding of an object, or missing where it is something that
the plugin keeps. -/
structure CallbackRecord where
  handle : Nat
  owner : KeelPluginHandle
  target : Nat
  userData : Option Nat
  enabled : Bool
  deriving DecidableEq, Repr

/-- `leases` says which plugins hold a target. -/
structure HookService where
  owners : KeelPluginHandle → Option OwnerState
  shuttingDown : Bool
  targets : Nat → TargetRecord
  leases : Nat → KeelPluginHandle → Bool
  callbacks : List CallbackRecord
  nextCallback : Nat

/-- What `RemoveCallback` keeps from its first part for its second one. -/
structure Removal where
  wasEnabled : Bool
  last : Bool
  target : Nat
  deriving DecidableEq, Repr

namespace HookService

variable (host : HookService)

def ownerExists (plugin : KeelPluginHandle) : Bool :=
  !host.shuttingDown && (host.owners plugin).isSome

def ownerReady (plugin : KeelPluginHandle) : Bool :=
  !host.shuttingDown && (host.owners plugin).any OwnerState.accepting

/-- `transition || direct_calls != 0`. -/
def isBusy (target : Nat) : Bool :=
  (host.targets target).transition || (host.targets target).directCalls != 0

def setTransition (target : Nat) (transition : Bool) : HookService :=
  { host with
    targets := update host.targets target
      { host.targets target with transition := transition } }

def setEnabled (handle : Nat) (enabled : Bool) : HookService :=
  { host with
    callbacks := host.callbacks.map fun callback =>
      if callback.handle = handle then { callback with enabled := enabled } else callback }

/-- The callbacks of a plugin are all enabled or disabled. -/
def setAllEnabled (plugin : KeelPluginHandle) (enabled : Bool) : HookService :=
  { host with
    callbacks := host.callbacks.map fun callback =>
      if callback.owner = plugin then { callback with enabled := enabled } else callback }

def findCallback (plugin : KeelPluginHandle) (handle : Nat) : Option CallbackRecord :=
  host.callbacks.find? fun callback => callback.handle == handle && callback.owner == plugin

/-- `physical` is whether `EnablePhysical` succeeds, where it is called. -/
def addCallback (plugin : KeelPluginHandle) (target : Nat) (userData : Option Nat)
    (physical : Bool) : HookService × Except KeelResult Nat :=
  if host.ownerReady plugin then
    if host.leases target plugin then
      if host.isBusy target then (host, .error .busy)
      else if (host.callbacks.all fun callback => callback.target != target) && !physical then
        ({ host with nextCallback := host.nextCallback + 1 }, .error .engineFailure)
      else
        ({ host with
            callbacks := host.callbacks ++ [⟨host.nextCallback, plugin, target, userData,
              (host.owners plugin).any OwnerState.active⟩]
            nextCallback := host.nextCallback + 1 }, .ok host.nextCallback)
    else (host, .error .notFound)
  else (host, .error .notReady)

/-- The first part of `RemoveCallback`, up to `DisablePhysical`. -/
def beginRemove (plugin : KeelPluginHandle) (handle : Nat) :
    HookService × Except KeelResult Removal :=
  if host.ownerExists plugin then
    match host.findCallback plugin handle with
    | none => (host, .error .notFound)
    | some callback =>
      if host.isBusy callback.target then (host, .error .busy)
      else
        ((host.setEnabled handle false).setTransition callback.target true,
          .ok ⟨callback.enabled,
            (host.callbacks.filter fun other => other.target == callback.target).length == 1,
            callback.target⟩)
  else (host, .error .notReady)

/-- The second one. `physical` is whether `DisablePhysical` succeeds, where it is called. -/
def finishRemove (handle : Nat) (removal : Removal) (physical : Bool) :
    HookService × KeelResult :=
  if removal.last && !physical then
    ((host.setEnabled handle removal.wasEnabled).setTransition removal.target false,
      .engineFailure)
  else
    ({ host.setTransition removal.target false with
        callbacks := host.callbacks.filter fun callback => callback.handle != handle }, .ok)

def setCallbackEnabled (plugin : KeelPluginHandle) (handle : Nat) (enabled : Bool) :
    HookService × KeelResult :=
  if host.ownerExists plugin then
    match host.findCallback plugin handle with
    | none => (host, .notFound)
    | some _ =>
      if enabled && !host.ownerReady plugin then (host, .notReady)
      else (host.setEnabled handle enabled, .ok)
  else (host, .notReady)

def setOwner (plugin : KeelPluginHandle) (owner : Option OwnerState) : HookService :=
  { host with owners := update host.owners plugin owner }

def authorize (plugin : KeelPluginHandle) (active : Bool) : HookService :=
  if host.shuttingDown then host
  else
    match host.owners plugin with
    | none => host.setOwner plugin (some ⟨true, active⟩)
    | some owner => host.setOwner plugin (some ⟨true, owner.active || active⟩)

def activate (plugin : KeelPluginHandle) : HookService :=
  if host.ownerExists plugin then
    (host.setOwner plugin (some ⟨true, true⟩)).setAllEnabled plugin true
  else host

/-- `Deactivate`, where it is not refused because the plugin's own callback runs on the thread. -/
def deactivate (plugin : KeelPluginHandle) : HookService :=
  match host.owners plugin with
  | none => host
  | some _ => (host.setOwner plugin (some ⟨false, false⟩)).setAllEnabled plugin false

/-- `ReleasePlugin`, where it is not refused. `restored` are the targets whose code could be
restored; the callbacks on the others stay. -/
def releasePlugin (plugin : KeelPluginHandle) (restored : Nat → Bool) : HookService :=
  match host.owners plugin with
  | none => host
  | some owner =>
    let disabled := host.setAllEnabled plugin false
    let left := disabled.callbacks.filter fun callback =>
      callback.owner != plugin || !restored callback.target
    { disabled with
      callbacks := left
      owners := update host.owners plugin
        (if left.any fun callback => callback.owner == plugin
          then some { owner with accepting := false } else none) }

def shutdown : HookService :=
  { host with shuttingDown := true, owners := fun _ => none, callbacks := [] }

end HookService

/-! ## The objects -/

structure HookTarget where
  plugin : KeelPluginHandle
  handle : Nat
  deriving DecidableEq, Repr

/-- A `kh::Callback`. -/
structure Callback where
  target : Option HookTarget
  binding : Option Nat
  handle : Nat
  deriving DecidableEq, Repr

def Callback.empty : Callback := ⟨none, none, 0⟩

/-- A `Reset` that waits in `RemoveCallback`. -/
structure Pending where
  removal : Removal
  destroying : Bool
  deriving DecidableEq, Repr

/-- The plugins with the service. `accepting` are their contexts' `accepting_resources`; a plugin
handle is bound to one context. -/
structure Plugins where
  host : HookService
  accepting : KeelPluginHandle → Bool
  objects : Nat → Option Callback
  pending : Nat → Option Pending
  freed : List Nat
  nextBinding : Nat

/-- The end of `Reset`, once the service has answered: the object, and the binding it frees. -/
def Callback.release (callback : Callback) (released : KeelResult) : Callback × Option Nat :=
  if released = .ok ∨ released = .notFound ∨ released = .notReady then
    (.empty, callback.binding)
  else ({ callback with handle := 0 }, none)

namespace Plugins

variable (plugins : Plugins)

def free (binding : Option Nat) : Plugins :=
  { plugins with freed := binding.toList ++ plugins.freed }

def setObject (id : Nat) (callback : Option Callback) : Plugins :=
  { plugins with objects := update plugins.objects id callback }

/-- What `Reset` leaves of an object. A destructor frees what is left of it. -/
def settle (id : Nat) (left : Callback × Option Nat) (destroying : Bool) : Plugins :=
  if destroying then ((plugins.free left.2).free left.1.binding).setObject id none
  else (plugins.free left.2).setObject id (some left.1)

/-- A context that does not accept resources has no target released. -/
def releaseResult (plugin : KeelPluginHandle) (released : KeelResult) : KeelResult :=
  if plugins.accepting plugin then released else .notReady

/-- `Reset`, or the destructor, of an object that is not in one already. -/
def reset (id : Nat) (released : KeelResult) (destroying : Bool) : Plugins :=
  match plugins.objects id, plugins.pending id with
  | some callback, none =>
    match callback.target with
    | none => plugins.settle id (callback, none) destroying
    | some target =>
      let answer := plugins.releaseResult target.plugin released
      if callback.handle = 0 ∨ plugins.accepting target.plugin = false then
        plugins.settle id (callback.release answer) destroying
      else
        match plugins.host.beginRemove target.plugin callback.handle with
        | (host, .ok removal) =>
          { plugins with
            host := host
            pending := update plugins.pending id (some ⟨removal, destroying⟩) }
        | (_, .error .notFound) | (_, .error .notReady) =>
          plugins.settle id (callback.release answer) destroying
        | (_, .error _) => plugins.settle id (callback, none) destroying
  | _, _ => plugins

/-- The rest of it, when `RemoveCallback` comes back. -/
def removed (id : Nat) (physical : Bool) (released : KeelResult) : Plugins :=
  match plugins.objects id, plugins.pending id with
  | some callback, some pending =>
    let finished := plugins.host.finishRemove callback.handle pending.removal physical
    let returned := { plugins with
      host := finished.1
      pending := update plugins.pending id none }
    match finished.2, callback.target with
    | .ok, some target =>
      returned.settle id (callback.release (plugins.releaseResult target.plugin released))
        pending.destroying
    | _, _ => returned.settle id (callback, none) pending.destroying
  | _, _ => plugins

/-- `Service::AddCallback`, with a binding of its own or with data of the plugin. -/
def add (id : Nat) (target : HookTarget) (bound physical : Bool) : Plugins :=
  match plugins.objects id, plugins.pending id with
  | some callback, none =>
    let binding := if bound then some plugins.nextBinding else none
    let made := { plugins with nextBinding := plugins.nextBinding + 1 }
    if plugins.accepting target.plugin && callback.target.isNone && callback.handle == 0 then
      match plugins.host.addCallback target.plugin target.handle binding physical with
      | (host, .ok handle) =>
        { made with host := host }.setObject id (some ⟨some target, binding, handle⟩)
      | (host, .error _) => { made with host := host }.free binding
    else made.free binding
  | _, _ => plugins

def setEnabled (id : Nat) (enabled : Bool) : Plugins :=
  match plugins.objects id, plugins.pending id with
  | some callback, none =>
    match callback.target with
    | some target =>
      if callback.handle = 0 then plugins
      else
        { plugins with
          host := (plugins.host.setCallbackEnabled target.plugin callback.handle enabled).1 }
    | none => plugins
  | _, _ => plugins

/-- A default-constructed object. -/
def create (id : Nat) : Plugins :=
  match plugins.objects id with
  | none => plugins.setObject id (some .empty)
  | some _ => plugins

/-- `MoveFrom`, into a new object. -/
def moveConstruct (source id : Nat) : Plugins :=
  match plugins.objects source, plugins.pending source, plugins.objects id with
  | some callback, none, none => (plugins.setObject id (some callback)).setObject source
    (some .empty)
  | _, _, _ => plugins

/-- The move assignment, which swaps two objects. -/
def moveAssign (left right : Nat) : Plugins :=
  match plugins.objects left, plugins.pending left, plugins.objects right,
      plugins.pending right with
  | some first, none, some second, none =>
    (plugins.setObject left (some second)).setObject right (some first)
  | _, _, _, _ => plugins

end Plugins

/-! ## Runs -/

/-- What the rest of the host does. `target` stands for what other operations do to a target. -/
inductive HostInput
  | authorize (plugin : KeelPluginHandle) (active : Bool)
  | activate (plugin : KeelPluginHandle)
  | deactivate (plugin : KeelPluginHandle)
  | releasePlugin (plugin : KeelPluginHandle) (restored : Nat → Bool)
  | shutdown
  | target (target : Nat) (record : TargetRecord)
  | lease (target : Nat) (plugin : KeelPluginHandle) (leased : Bool)

inductive Input
  | create (id : Nat)
  | add (id : Nat) (target : HookTarget) (bound physical : Bool)
  | setEnabled (id : Nat) (enabled : Bool)
  | moveConstruct (source id : Nat)
  | moveAssign (left right : Nat)
  | reset (id : Nat) (released : KeelResult)
  | destroy (id : Nat) (released : KeelResult)
  /-- `RemoveCallback` comes back in the `Reset` of an object. -/
  | removed (id : Nat) (physical : Bool) (released : KeelResult)
  /-- `DisableResources`, or `Unbind`, of a context. -/
  | disableResources (plugin : KeelPluginHandle)
  | host (input : HostInput)

def HookService.step (host : HookService) : HostInput → HookService
  | .authorize plugin active => host.authorize plugin active
  | .activate plugin => host.activate plugin
  | .deactivate plugin => host.deactivate plugin
  | .releasePlugin plugin restored => host.releasePlugin plugin restored
  | .shutdown => host.shutdown
  | .target target record => { host with targets := update host.targets target record }
  | .lease target plugin leased =>
    { host with
      leases := update host.leases target
        (update (host.leases target) plugin leased) }

def Plugins.step (plugins : Plugins) : Input → Plugins
  | .create id => plugins.create id
  | .add id target bound physical => plugins.add id target bound physical
  | .setEnabled id enabled => plugins.setEnabled id enabled
  | .moveConstruct source id => plugins.moveConstruct source id
  | .moveAssign left right => plugins.moveAssign left right
  | .reset id released => plugins.reset id released false
  | .destroy id released => plugins.reset id released true
  | .removed id physical released => plugins.removed id physical released
  | .disableResources plugin =>
    { plugins with accepting := update plugins.accepting plugin false }
  | .host input => { plugins with host := plugins.host.step input }

def Plugins.initial : Plugins where
  host := ⟨fun _ => none, false, fun _ => ⟨false, 0⟩, fun _ _ => false, [], 1⟩
  accepting := fun _ => true
  objects := fun _ => none
  pending := fun _ => none
  freed := []
  nextBinding := 0

/-- The service has no enabled callback whose user data is a freed binding. -/
def Silent (plugins : Plugins) : Prop :=
  ∀ callback ∈ plugins.host.callbacks, ∀ binding ∈ plugins.freed,
    callback.userData = some binding → callback.enabled = false

/-- The service has no enabled registration for an object. -/
def Plugins.silenced (plugins : Plugins) (callback : Callback) : Bool :=
  plugins.host.callbacks.all fun record => record.handle != callback.handle || !record.enabled

/-- An object may be reset, or destroyed, without its callback being removed, only where it is
disabled. -/
def Plugins.mayReset (plugins : Plugins) (id : Nat) (destroying : Bool) : Bool :=
  match plugins.objects id with
  | none => true
  | some callback =>
    match callback.target with
    | none => true
    | some target =>
      plugins.silenced callback ||
        (plugins.accepting target.plugin && (!destroying || !plugins.host.isBusy target.handle))

/-- What a plugin and its host have to keep to. An object with an enabled callback is not reset once
its context has been disabled, nor destroyed while its target is busy; where it is destroyed, the
code under the last callback can be restored; and a plugin that has outlived a callback's binding
is not activated. -/
def Orderly (plugins : Plugins) : Input → Prop
  | .reset id _ => plugins.mayReset id false = true
  | .destroy id _ => plugins.mayReset id true = true
  | .removed id physical _ =>
    (plugins.pending id).all (fun pending => !(pending.destroying && pending.removal.last &&
      !physical && pending.removal.wasEnabled)) = true
  | .host (.activate plugin) =>
    (plugins.host.callbacks.all fun record => record.owner != plugin ||
      record.userData.all fun binding => decide (binding ∉ plugins.freed)) = true
  | _ => True

/-! ## Who owns what -/

/-- Every registration with a binding that is not freed belongs to the object that owns the
binding. -/
structure Owned (plugins : Plugins) : Prop where
  handles : ∀ record ∈ plugins.host.callbacks,
    0 < record.handle ∧ record.handle < plugins.host.nextCallback
  next : 0 < plugins.host.nextCallback
  objectHandles : ∀ id callback, plugins.objects id = some callback →
    callback.handle < plugins.host.nextCallback
  owners : ∀ record ∈ plugins.host.callbacks, plugins.host.ownerExists record.owner = true
  registered : ∀ record ∈ plugins.host.callbacks, ∀ binding, record.userData = some binding →
    binding ∈ plugins.freed ∨ ∃ id callback, plugins.objects id = some callback
      ∧ callback.binding = some binding ∧ callback.handle = record.handle
  same : ∀ id callback, plugins.objects id = some callback →
    ∀ record ∈ plugins.host.callbacks, record.handle = callback.handle →
      callback.binding = record.userData
        ∧ callback.target = some ⟨record.owner, record.target⟩
  unique : ∀ id callback id' callback' binding, plugins.objects id = some callback →
    plugins.objects id' = some callback' → callback.binding = some binding →
      callback'.binding = some binding → id = id'
  live : ∀ id callback binding, plugins.objects id = some callback →
    callback.binding = some binding → binding ∉ plugins.freed ∧ binding < plugins.nextBinding
  known : ∀ binding ∈ plugins.freed, binding < plugins.nextBinding
  silent : Silent plugins

theorem owned_initial : Owned .initial where
  handles := fun record hmem => by cases hmem
  next := Nat.one_pos
  objectHandles := fun id callback h => by cases h
  owners := fun record hmem => by cases hmem
  registered := fun record hmem => by cases hmem
  same := fun id callback h => by cases h
  unique := fun id callback id' callback' binding h => by cases h
  live := fun id callback binding h => by cases h
  known := fun binding hmem => by cases hmem
  silent := fun record hmem => by cases hmem

section Owned

variable {plugins : Plugins}

variable {id : Nat} {callback : Callback}

theorem Owned.handle_eq (howned : Owned plugins) (hobject : plugins.objects id = some callback)
    {record : CallbackRecord} (hmem : record ∈ plugins.host.callbacks) {binding : Nat}
    (hbinding : callback.binding = some binding) (hdata : record.userData = some binding) :
    record.handle = callback.handle := by
  rcases howned.registered record hmem binding hdata with hfreed |
    ⟨id', other, hother, hsame, hhandle⟩
  · exact absurd hfreed (howned.live id callback binding hobject hbinding).1
  · have hid := howned.unique id callback id' other binding hobject hother hbinding hsame
    subst hid
    rw [hobject] at hother
    cases hother
    exact hhandle.symm

/-- The service's callbacks after a step are some of those before, enabled or not. -/
structure Fewer (before after : HookService) : Prop where
  callbacks : ∀ record ∈ after.callbacks, ∃ old ∈ before.callbacks,
    record.handle = old.handle ∧ record.owner = old.owner ∧ record.target = old.target
      ∧ record.userData = old.userData
  next : before.nextCallback ≤ after.nextCallback

theorem Owned.of_fewer (howned : Owned plugins) {host : HookService}
    (pending : Nat → Option Pending) (hfewer : Fewer plugins.host host)
    (howners : ∀ record ∈ host.callbacks, host.ownerExists record.owner = true)
    (hsilent : Silent { plugins with host := host }) :
    Owned { plugins with host := host, pending := pending } where
  handles := fun record hmem => by
    obtain ⟨old, hold, hhandle, -⟩ := hfewer.callbacks record hmem
    have hbounds := howned.handles old hold
    rw [hhandle]
    exact ⟨hbounds.1, lt_of_lt_of_le hbounds.2 hfewer.next⟩
  next := lt_of_lt_of_le howned.next hfewer.next
  objectHandles := fun id callback hobject =>
    lt_of_lt_of_le (howned.objectHandles id callback hobject) hfewer.next
  owners := howners
  registered := fun record hmem binding hdata => by
    obtain ⟨old, hold, hhandle, -, -, hsame⟩ := hfewer.callbacks record hmem
    rw [hhandle]
    exact howned.registered old hold binding (hsame ▸ hdata)
  same := fun id callback hobject record hmem heq => by
    obtain ⟨old, hold, hhandle, howner, htarget, hsame⟩ := hfewer.callbacks record hmem
    rw [howner, htarget, hsame]
    exact howned.same id callback hobject old hold (hhandle ▸ heq)
  unique := howned.unique
  live := howned.live
  known := howned.known
  silent := hsilent

theorem Owned.drop (howned : Owned plugins) (hobject : plugins.objects id = some callback)
    {left : Option Callback} (hleft : ∀ other, left = some other → other = .empty)
    (hsilenced : ∀ record ∈ plugins.host.callbacks, record.handle = callback.handle → record.enabled
      = false) : Owned ((plugins.free callback.binding).setObject id left) := by
  have hobjects : ∀ id' other, update plugins.objects id left id' = some other →
      other = .empty ∨ (id' ≠ id ∧ plugins.objects id' = some other) := by
    intro id' other h
    by_cases hid : id' = id
    · subst hid
      rw [update_self] at h
      exact Or.inl (hleft other h)
    · rw [update_of_ne hid] at h
      exact Or.inr ⟨hid, h⟩
  refine ⟨howned.handles, howned.next, ?_, howned.owners, ?_, ?_, ?_, ?_, ?_, ?_⟩
  · intro id' other h
    rcases hobjects id' other h with rfl | ⟨-, hold⟩
    · exact howned.next
    · exact howned.objectHandles id' other hold
  · intro record hmem binding hdata
    rcases howned.registered record hmem binding hdata with hfreed |
      ⟨id', other, hother, hsame, hhandle⟩
    · exact Or.inl (List.mem_append_right _ hfreed)
    · by_cases hid : id' = id
      · subst hid
        rw [hobject] at hother
        cases hother
        refine Or.inl (List.mem_append_left _ ?_)
        rw [hsame]
        exact List.mem_singleton_self binding
      · refine Or.inr ⟨id', other, ?_, hsame, hhandle⟩
        exact (update_of_ne hid _ _).trans hother
  · intro id' other h record hmem heq
    rcases hobjects id' other h with rfl | ⟨-, hold⟩
    · exact absurd heq (Nat.ne_of_gt (howned.handles record hmem).1)
    · exact howned.same id' other hold record hmem heq
  · intro first callback' second other binding hfirst hsecond hbinding hbinding'
    rcases hobjects first callback' hfirst with rfl | ⟨-, hold⟩
    · cases hbinding
    · rcases hobjects second other hsecond with rfl | ⟨-, hold'⟩
      · cases hbinding'
      · exact howned.unique first callback' second other binding hold hold' hbinding hbinding'
  · intro id' other binding h hbinding
    rcases hobjects id' other h with rfl | ⟨hid, hold⟩
    · cases hbinding
    · obtain ⟨hfresh, hlt⟩ := howned.live id' other binding hold hbinding
      refine ⟨fun hmem => ?_, hlt⟩
      rcases List.mem_append.1 hmem with hmem | hmem
      · have hown : callback.binding = some binding := Option.mem_toList.1 hmem
        exact hid (howned.unique id' other id callback binding hold hobject hbinding hown)
      · exact hfresh hmem
  · intro binding hmem
    rcases List.mem_append.1 hmem with hmem | hmem
    · exact (howned.live id callback binding hobject (Option.mem_toList.1 hmem)).2
    · exact howned.known binding hmem
  · intro record hmem binding hfreed hdata
    rcases List.mem_append.1 hfreed with hfreed | hfreed
    · exact hsilenced record hmem
        (howned.handle_eq hobject hmem (Option.mem_toList.1 hfreed) hdata)
    · exact howned.silent record hmem binding hfreed hdata

theorem Owned.clearHandle (howned : Owned plugins) (hobject : plugins.objects id = some callback)
    (hgone : ∀ record ∈ plugins.host.callbacks, record.handle ≠ callback.handle) :
    Owned (plugins.setObject id (some { callback with handle := 0 })) := by
  have hobjects : ∀ id' other,
      update plugins.objects id (some { callback with handle := 0 }) id' = some other →
        (id' = id ∧ other = { callback with handle := 0 })
          ∨ (id' ≠ id ∧ plugins.objects id' = some other) := by
    intro id' other h
    by_cases hid : id' = id
    · subst hid
      rw [update_self] at h
      exact Or.inl ⟨rfl, (Option.some.inj h).symm⟩
    · rw [update_of_ne hid] at h
      exact Or.inr ⟨hid, h⟩
  -- An object has its binding from before, whether or not it is the one.
  have hbefore : ∀ id' other,
      update plugins.objects id (some { callback with handle := 0 }) id' = some other →
        ∃ old, plugins.objects id' = some old ∧ old.binding = other.binding := by
    intro id' other h
    rcases hobjects id' other h with ⟨rfl, rfl⟩ | ⟨-, hold⟩
    · exact ⟨callback, hobject, rfl⟩
    · exact ⟨other, hold, rfl⟩
  refine ⟨howned.handles, howned.next, ?_, howned.owners, ?_, ?_, ?_, ?_, howned.known,
    howned.silent⟩
  · intro id' other h
    rcases hobjects id' other h with ⟨-, rfl⟩ | ⟨-, hold⟩
    · exact howned.next
    · exact howned.objectHandles id' other hold
  · intro record hmem binding hdata
    rcases howned.registered record hmem binding hdata with hfreed |
      ⟨id', other, hother, hsame, hhandle⟩
    · exact Or.inl hfreed
    · by_cases hid : id' = id
      · subst hid
        rw [hobject] at hother
        cases hother
        exact absurd hhandle.symm (hgone record hmem)
      · refine Or.inr ⟨id', other, ?_, hsame, hhandle⟩
        exact (update_of_ne hid _ _).trans hother
  · intro id' other h record hmem heq
    rcases hobjects id' other h with ⟨-, rfl⟩ | ⟨-, hold⟩
    · exact absurd heq (Nat.ne_of_gt (howned.handles record hmem).1)
    · exact howned.same id' other hold record hmem heq
  · intro first callback' second other binding hfirst hsecond hbinding hbinding'
    obtain ⟨old, hold, hsame⟩ := hbefore first callback' hfirst
    obtain ⟨old', hold', hsame'⟩ := hbefore second other hsecond
    exact howned.unique first old second old' binding hold hold' (hsame.trans hbinding)
      (hsame'.trans hbinding')
  · intro id' other binding h hbinding
    obtain ⟨old, hold, hsame⟩ := hbefore id' other h
    exact howned.live id' old binding hold (hsame.trans hbinding)

theorem setObject_self (hobject : plugins.objects id = some callback) :
    plugins.setObject id (some callback) = plugins := by
  unfold Plugins.setObject
  rw [← hobject, Function.update_eq_self]

theorem free_none : plugins.free none = plugins := rfl

theorem Owned.settle_release (howned : Owned plugins) (hobject : plugins.objects id = some callback)
    {answer : KeelResult} {destroying : Bool}
    (hsilenced : ∀ record ∈ plugins.host.callbacks, record.handle = callback.handle → record.enabled
      = false)
    (hgone : answer = .notReady ∨ ∀ record ∈ plugins.host.callbacks, record.handle ≠
      callback.handle) : Owned (plugins.settle id (callback.release answer) destroying) := by
  unfold Callback.release
  split
  · unfold Plugins.settle
    cases destroying with
    | true => exact howned.drop hobject (fun other h => by cases h) hsilenced
    | false =>
      exact howned.drop hobject (fun other h => (Option.some.inj h).symm) hsilenced
  · rename_i hrefused
    have hnone := hgone.resolve_left fun h => hrefused (Or.inr (Or.inr h))
    unfold Plugins.settle
    cases destroying with
    | true => exact howned.drop hobject (fun other h => by cases h) hsilenced
    | false => exact howned.clearHandle hobject hnone

theorem Owned.settle_refused (howned : Owned plugins) (hobject : plugins.objects id = some callback)
    {destroying : Bool}
    (hsilenced : destroying = true → ∀ record ∈ plugins.host.callbacks, record.handle =
      callback.handle → record.enabled = false) :
    Owned (plugins.settle id (callback, none) destroying) := by
  unfold Plugins.settle
  cases destroying with
  | true => exact howned.drop hobject (fun other h => by cases h) (hsilenced rfl)
  | false =>
    rw [if_neg (by decide), free_none, setObject_self hobject]
    exact howned

/-! ## `Reset` and the destructor -/

theorem findCallback_eq_none {host : HookService} {plugin : KeelPluginHandle} {handle : Nat}
    (h : host.findCallback plugin handle = none) :
    ∀ record ∈ host.callbacks, record.handle = handle → record.owner ≠ plugin := by
  intro record hmem hhandle howner
  have hmiss := List.find?_eq_none.1 h record hmem
  simp [hhandle, howner] at hmiss

theorem beginRemove_cases (host : HookService) (plugin : KeelPluginHandle) (handle : Nat) :
    (host.beginRemove plugin handle = (host, .error .notReady)
        ∧ host.ownerExists plugin = false)
      ∨ (host.beginRemove plugin handle = (host, .error .notFound)
        ∧ host.findCallback plugin handle = none)
      ∨ ∃ record, host.findCallback plugin handle = some record
        ∧ ((host.beginRemove plugin handle = (host, .error .busy)
            ∧ host.isBusy record.target = true)
          ∨ ∃ removal, host.beginRemove plugin handle
            = ((host.setEnabled handle false).setTransition record.target true, .ok removal)) := by
  unfold HookService.beginRemove
  by_cases hexists : host.ownerExists plugin
  · rw [if_pos hexists]
    cases hfind : host.findCallback plugin handle with
    | none => exact Or.inr (Or.inl ⟨rfl, rfl⟩)
    | some record =>
      refine Or.inr (Or.inr ⟨record, rfl, ?_⟩)
      by_cases hbusy : host.isBusy record.target
      · exact Or.inl ⟨if_pos hbusy, hbusy⟩
      · exact Or.inr ⟨_, if_neg hbusy⟩
  · rw [if_neg hexists]
    exact Or.inl ⟨rfl, by simpa using hexists⟩

theorem fewer_setEnabled (host : HookService) (handle : Nat) (enabled : Bool) :
    Fewer host (host.setEnabled handle enabled) where
  callbacks := fun record hmem => by
    obtain ⟨old, hold, rfl⟩ := List.mem_map.1 hmem
    refine ⟨old, hold, ?_⟩
    split <;> exact ⟨rfl, rfl, rfl, rfl⟩
  next := le_refl _

theorem fewer_setTransition (host : HookService) (target : Nat) (transition : Bool) :
    Fewer host (host.setTransition target transition) where
  callbacks := fun record hmem => ⟨record, hmem, rfl, rfl, rfl, rfl⟩
  next := le_refl _

theorem Fewer.trans {first second third : HookService} (h : Fewer first second)
    (h' : Fewer second third) : Fewer first third where
  callbacks := fun record hmem => by
    obtain ⟨middle, hmiddle, hhandle, howner, htarget, hdata⟩ := h'.callbacks record hmem
    obtain ⟨old, hold, hhandle', howner', htarget', hdata'⟩ := h.callbacks middle hmiddle
    exact ⟨old, hold, hhandle.trans hhandle', howner.trans howner', htarget.trans htarget',
      hdata.trans hdata'⟩
  next := le_trans h.next h'.next

theorem Silent.disable (hsilent : Silent plugins) (handle target : Nat) (transition : Bool) :
    Silent { plugins with
      host := (plugins.host.setEnabled handle false).setTransition target transition } := by
  intro record hmem binding hfreed hdata
  obtain ⟨old, hold, rfl⟩ := List.mem_map.1 hmem
  split at hdata
  · rename_i heq
    rw [if_pos heq]
  · rename_i hne
    rw [if_neg hne]
    exact hsilent old hold binding hfreed hdata

theorem Owned.owners_setEnabled (howned : Owned plugins) (handle : Nat) (enabled : Bool) :
    ∀ record ∈ (plugins.host.setEnabled handle enabled).callbacks,
      plugins.host.ownerExists record.owner = true := by
  intro record hmem
  obtain ⟨old, hold, -, howner, -, -⟩ :=
    (fewer_setEnabled plugins.host handle enabled).callbacks record hmem
  rw [howner]
  exact howned.owners old hold

theorem silenced_iff : plugins.silenced callback = true ↔
    ∀ record ∈ plugins.host.callbacks, record.handle = callback.handle →
      record.enabled = false := by
  unfold Plugins.silenced
  rw [List.all_eq_true]
  refine forall₂_congr fun record _ => ?_
  rw [Bool.or_eq_true, bne_iff_ne, Bool.not_eq_true', or_iff_not_imp_left, not_not]

theorem Owned.reset (howned : Owned plugins) {released : KeelResult} {destroying : Bool}
    (hmay : plugins.mayReset id destroying = true) :
    Owned (plugins.reset id released destroying) := by
  unfold Plugins.reset
  split
  swap
  · exact howned
  rename_i callback hobject hpending
  simp only [Plugins.mayReset, hobject] at hmay
  cases htarget : callback.target with
  | none =>
    refine howned.settle_refused hobject fun _ record hmem heq => ?_
    have hsame := (howned.same id callback hobject record hmem heq).2
    rw [htarget] at hsame
    cases hsame
  | some target =>
    simp only [htarget, Bool.or_eq_true, Bool.and_eq_true, silenced_iff] at hmay
    -- The records of the object are those of its plugin and target.
    have hrecord : ∀ record ∈ plugins.host.callbacks, record.handle = callback.handle →
        record.owner = target.plugin ∧ record.target = target.handle := by
      intro record hmem heq
      have hsame := (howned.same id callback hobject record hmem heq).2
      rw [htarget] at hsame
      cases hsame
      exact ⟨rfl, rfl⟩
    dsimp only
    split
    · rename_i hskip
      rcases hskip with hzero | hclosed
      · have hgone : ∀ record ∈ plugins.host.callbacks, record.handle ≠ callback.handle :=
          fun record hmem => by
            rw [hzero]
            exact Nat.ne_of_gt (howned.handles record hmem).1
        exact howned.settle_release hobject (fun record hmem heq => absurd heq (hgone record hmem))
          (Or.inr hgone)
      · refine howned.settle_release hobject ?_ (Or.inl ?_)
        · rcases hmay with hsilenced | hopen
          · exact hsilenced
          · rw [hclosed] at hopen
            cases hopen.1
        · rw [Plugins.releaseResult, hclosed]
          rfl
    · rcases beginRemove_cases plugins.host target.plugin callback.handle with
        ⟨hbegin, hexists⟩ | ⟨hbegin, hfind⟩ | ⟨record, hfind, ⟨hbegin, hbusy⟩ | ⟨removal, hbegin⟩⟩
      · rw [hbegin]
        have hgone : ∀ record ∈ plugins.host.callbacks, record.handle ≠ callback.handle := by
          intro record hmem heq
          have howner := howned.owners record hmem
          rw [(hrecord record hmem heq).1, hexists] at howner
          cases howner
        exact howned.settle_release hobject (fun record hmem heq => absurd heq (hgone record hmem))
          (Or.inr hgone)
      · rw [hbegin]
        have hgone : ∀ record ∈ plugins.host.callbacks, record.handle ≠ callback.handle :=
          fun record hmem heq =>
            findCallback_eq_none hfind record hmem heq (hrecord record hmem heq).1
        exact howned.settle_release hobject (fun record hmem heq => absurd heq (hgone record hmem))
          (Or.inr hgone)
      · rw [hbegin]
        refine howned.settle_refused hobject fun hdestroying => ?_
        rcases hmay with hsilenced | ⟨-, hfree⟩
        · exact hsilenced
        · have hfound := List.find?_some hfind
          rw [Bool.and_eq_true, beq_iff_eq] at hfound
          rw [(hrecord record (List.mem_of_find?_eq_some hfind) hfound.1).2] at hbusy
          simp [hdestroying, hbusy] at hfree
      · rw [hbegin]
        exact howned.of_fewer _
          ((fewer_setEnabled _ _ _).trans (fewer_setTransition _ _ _))
          (howned.owners_setEnabled _ _) (howned.silent.disable _ _ _)

theorem Owned.removed (howned : Owned plugins) {physical : Bool} {released : KeelResult}
    (horderly : Orderly plugins (.removed id physical released)) :
    Owned (plugins.removed id physical released) := by
  unfold Plugins.removed
  split
  swap
  · exact howned
  rename_i callback pending hobject hpending
  simp only [Orderly, hpending, Option.all_some] at horderly
  unfold HookService.finishRemove
  by_cases hfails : (pending.removal.last && !physical) = true
  · simp only [if_pos hfails]
    -- The record has its old state again. Where that is an enabled one, the object survives.
    have hfewer := (fewer_setEnabled plugins.host callback.handle pending.removal.wasEnabled).trans
      (fewer_setTransition _ pending.removal.target false)
    have hsilent : Silent { plugins with
        host := (plugins.host.setEnabled callback.handle
          pending.removal.wasEnabled).setTransition pending.removal.target false } := by
      intro record hmem binding hfreed hdata
      obtain ⟨old, hold, rfl⟩ := List.mem_map.1 hmem
      split at hdata
      · rename_i heq
        have hbinding := (howned.same id callback hobject old hold heq).1
        exact absurd hfreed (howned.live id callback binding hobject (hbinding.trans hdata)).1
      · rename_i hne
        rw [if_neg hne]
        exact howned.silent old hold binding hfreed hdata
    have hreturned := howned.of_fewer (update plugins.pending id none) hfewer
      (howned.owners_setEnabled _ _) hsilent
    refine hreturned.settle_refused hobject fun hdestroying record hmem heq => ?_
    obtain ⟨old, hold, rfl⟩ := List.mem_map.1 hmem
    have hhandle : old.handle = callback.handle := by
      by_cases hsame : old.handle = callback.handle
      · exact hsame
      · rw [if_neg hsame] at heq
        exact heq
    rw [if_pos hhandle]
    have hdisabled : pending.removal.wasEnabled = false := by
      rw [hdestroying, Bool.true_and, hfails, Bool.true_and] at horderly
      simpa using horderly
    exact hdisabled
  · simp only [if_neg hfails]
    have hfewer : Fewer plugins.host { plugins.host.setTransition pending.removal.target false with
        callbacks := plugins.host.callbacks.filter fun record =>
          record.handle != callback.handle } :=
      { callbacks := fun record hmem =>
          ⟨record, (List.mem_filter.1 hmem).1, rfl, rfl, rfl, rfl⟩
        next := le_refl _ }
    have hreturned := howned.of_fewer (update plugins.pending id none) hfewer
      (fun record hmem => howned.owners record (List.mem_filter.1 hmem).1)
      (fun record hmem => howned.silent record (List.mem_filter.1 hmem).1)
    have hgone : ∀ record ∈ plugins.host.callbacks.filter fun record =>
        record.handle != callback.handle, record.handle ≠ callback.handle := fun record hmem =>
      bne_iff_ne.1 (List.mem_filter.1 hmem).2
    cases htarget : callback.target with
    | none =>
      exact hreturned.settle_refused hobject fun _ record hmem heq =>
        absurd heq (hgone record hmem)
    | some target =>
      exact hreturned.settle_release hobject
        (fun record hmem heq => absurd heq (hgone record hmem)) (Or.inr hgone)

/-! ## The other operations of a plugin -/

section

variable (howned : Owned plugins)

include howned

theorem Owned.setEnabled (id : Nat) (enabled : Bool) : Owned (plugins.setEnabled id enabled) := by
  unfold Plugins.setEnabled
  split
  swap
  · exact howned
  rename_i callback hobject hpending
  split
  swap
  · exact howned
  split
  · exact howned
  unfold HookService.setCallbackEnabled
  split
  swap
  · exact howned
  split
  · exact howned
  split
  · exact howned
  -- The record is the object's, whose binding is not freed.
  refine howned.of_fewer _ (fewer_setEnabled _ _ _) (howned.owners_setEnabled _ _) ?_
  intro record hmem binding hfreed hdata
  obtain ⟨old, hold, rfl⟩ := List.mem_map.1 hmem
  split at hdata
  · rename_i heq
    have hbinding := (howned.same id callback hobject old hold heq).1
    exact absurd hfreed (howned.live id callback binding hobject (hbinding.trans hdata)).1
  · rename_i hne
    rw [if_neg hne]
    exact howned.silent old hold binding hfreed hdata

theorem Owned.freeNew {host : HookService} {binding : Option Nat}
    (hbinding : ∀ fresh, binding = some fresh → fresh = plugins.nextBinding)
    (hfewer : Fewer plugins.host host) (howners : host.owners = plugins.host.owners)
    (hdown : host.shuttingDown = plugins.host.shuttingDown)
    (hcallbacks : host.callbacks = plugins.host.callbacks) :
    Owned ({ plugins with host := host, nextBinding := plugins.nextBinding + 1 }.free binding) := by
  have hexists : ∀ plugin, host.ownerExists plugin = plugins.host.ownerExists plugin := by
    intro plugin
    rw [HookService.ownerExists, HookService.ownerExists, howners, hdown]
  have hhost := howned.of_fewer plugins.pending hfewer
    (fun record hmem => by rw [hexists]; exact howned.owners record (hcallbacks ▸ hmem))
    (fun record hmem => howned.silent record (hcallbacks ▸ hmem))
  have hfresh : ∀ freed ∈ binding.toList, freed = plugins.nextBinding := fun freed hmem =>
    hbinding freed (Option.mem_toList.1 hmem)
  refine ⟨hhost.handles, hhost.next, hhost.objectHandles, hhost.owners, ?_, hhost.same,
    hhost.unique, ?_, ?_, ?_⟩
  · intro record hmem other hdata
    exact (hhost.registered record hmem other hdata).imp_left (List.mem_append_right _)
  · intro id callback other hobject hother
    obtain ⟨hlive, hlt⟩ := hhost.live id callback other hobject hother
    refine ⟨fun hmem => ?_, Nat.lt_succ_of_lt hlt⟩
    rcases List.mem_append.1 hmem with hmem | hmem
    · exact Nat.ne_of_lt hlt (hfresh other hmem)
    · exact hlive hmem
  · intro other hmem
    rcases List.mem_append.1 hmem with hmem | hmem
    · rw [hfresh other hmem]
      exact Nat.lt_succ_self _
    · exact Nat.lt_succ_of_lt (hhost.known other hmem)
  · intro record hmem other hfreed hdata
    rcases List.mem_append.1 hfreed with hfreed | hfreed
    · -- A record's binding was made before.
      have hlt : other < plugins.nextBinding := by
        rcases hhost.registered record hmem other hdata with hold |
          ⟨id, callback, hobject, hsame, -⟩
        · exact hhost.known other hold
        · exact (hhost.live id callback other hobject hsame).2
      exact absurd (hfresh other hfreed) (Nat.ne_of_lt hlt)
    · exact hhost.silent record hmem other hfreed hdata

theorem Owned.relocate {objects : Nat → Option Callback} (places : Equiv.Perm Nat)
    (hfrom : ∀ id callback, objects id = some callback → callback = .empty ∨ plugins.objects (places
      id) = some callback)
    (hto : ∀ id callback binding, plugins.objects (places id) = some callback → callback.binding =
      some binding → objects id = some callback) : Owned { plugins with objects := objects } := by
  refine ⟨howned.handles, howned.next, ?_, howned.owners, ?_, ?_, ?_, ?_, howned.known,
    howned.silent⟩
  · intro id callback h
    rcases hfrom id callback h with rfl | hold
    · exact howned.next
    · exact howned.objectHandles _ callback hold
  · intro record hmem binding hdata
    refine (howned.registered record hmem binding hdata).imp_right ?_
    rintro ⟨id, callback, hobject, hsame, hhandle⟩
    refine ⟨places.symm id, callback, hto _ callback binding ?_ hsame, hsame, hhandle⟩
    rw [Equiv.apply_symm_apply]
    exact hobject
  · intro id callback h record hmem heq
    rcases hfrom id callback h with rfl | hold
    · exact absurd heq (Nat.ne_of_gt (howned.handles record hmem).1)
    · exact howned.same _ callback hold record hmem heq
  · intro first callback second other binding hfirst hsecond hbinding hbinding'
    rcases hfrom first callback hfirst with rfl | hold
    · cases hbinding
    · rcases hfrom second other hsecond with rfl | hold'
      · cases hbinding'
      · exact places.injective
          (howned.unique _ callback _ other binding hold hold' hbinding hbinding')
  · intro id callback binding h hbinding
    rcases hfrom id callback h with rfl | hold
    · cases hbinding
    · exact howned.live _ callback binding hold hbinding

theorem Owned.create (id : Nat) : Owned (plugins.create id) := by
  unfold Plugins.create
  split
  swap
  · exact howned
  rename_i hnone
  refine howned.relocate (Equiv.refl Nat) (fun id' callback h => ?_)
    fun id' callback binding h _ => ?_
  · by_cases hid : id' = id
    · subst hid
      rw [update_self] at h
      exact Or.inl (Option.some.inj h).symm
    · rw [update_of_ne hid] at h
      exact Or.inr h
  · refine (update_of_ne (fun hid => ?_) _ _).trans h
    rw [hid] at h
    rw [show plugins.objects id = some callback from h] at hnone
    cases hnone

theorem Owned.moveConstruct (source id : Nat) : Owned (plugins.moveConstruct source id) := by
  unfold Plugins.moveConstruct
  split
  swap
  · exact howned
  rename_i callback hsource hpending hnone
  have hplaces : ∀ place ≠ source, (update (update plugins.objects id
      (some callback)) source (some .empty)) place
        = plugins.objects (Equiv.swap source id place) := by
    intro place hplace
    rw [update_of_ne hplace]
    by_cases hid : place = id
    · rw [hid, update_self, Equiv.swap_apply_right, hsource]
    · rw [update_of_ne hid, Equiv.swap_apply_of_ne_of_ne hplace hid]
  refine howned.relocate (Equiv.swap source id) (fun place other h => ?_)
    fun place other binding h hbinding => ?_
  · by_cases hplace : place = source
    · rw [hplace, update_self] at h
      exact Or.inl (Option.some.inj h).symm
    · exact Or.inr ((hplaces place hplace).symm.trans h)
  · by_cases hplace : place = source
    · rw [hplace, Equiv.swap_apply_left, hnone] at h
      cases h
    · exact (hplaces place hplace).trans h

theorem Owned.moveAssign (left right : Nat) : Owned (plugins.moveAssign left right) := by
  unfold Plugins.moveAssign
  split
  swap
  · exact howned
  rename_i first second hleft hidle hright hidle'
  have hplaces : ∀ place, (update (update plugins.objects left (some second))
      right (some first)) place = plugins.objects (Equiv.swap left right place) := by
    intro place
    by_cases hplace : place = right
    · rw [hplace, update_self, Equiv.swap_apply_right, hleft]
    rw [update_of_ne hplace]
    by_cases hplace' : place = left
    · rw [hplace', update_self, Equiv.swap_apply_left, hright]
    · rw [update_of_ne hplace', Equiv.swap_apply_of_ne_of_ne hplace' hplace]
  exact howned.relocate (Equiv.swap left right)
    (fun place callback h => Or.inr ((hplaces place).symm.trans h))
    fun place callback binding h _ => (hplaces place).trans h

theorem Owned.adopt (hobject : plugins.objects id = some callback) (hzero : callback.handle = 0)
    {target : HookTarget} {binding : Option Nat} {enabled : Bool}
    (hbinding : ∀ fresh, binding = some fresh → fresh = plugins.nextBinding)
    (hready : plugins.host.ownerExists target.plugin = true) :
    Owned ({ plugins with
      nextBinding := plugins.nextBinding + 1
      host := { plugins.host with
        callbacks := plugins.host.callbacks ++ [CallbackRecord.mk plugins.host.nextCallback
          target.plugin target.handle binding enabled]
        nextCallback := plugins.host.nextCallback + 1 } }.setObject id
          (some ⟨some target, binding, plugins.host.nextCallback⟩)) := by
  have hobjects : ∀ id' other, update plugins.objects id
      (some (Callback.mk (some target) binding plugins.host.nextCallback)) id' = some other →
        (id' = id ∧ other = ⟨some target, binding, plugins.host.nextCallback⟩)
          ∨ (id' ≠ id ∧ plugins.objects id' = some other) := by
    intro id' other h
    by_cases hid : id' = id
    · subst hid
      rw [update_self] at h
      exact Or.inl ⟨rfl, (Option.some.inj h).symm⟩
    · rw [update_of_ne hid] at h
      exact Or.inr ⟨hid, h⟩
  have hrecords : ∀ record ∈ plugins.host.callbacks ++ [CallbackRecord.mk
      plugins.host.nextCallback target.plugin target.handle binding enabled],
        record ∈ plugins.host.callbacks ∨ record = CallbackRecord.mk
          plugins.host.nextCallback target.plugin target.handle binding enabled :=
    fun record hmem => (List.mem_append.1 hmem).imp_right List.mem_singleton.1
  refine ⟨?_, Nat.succ_pos _, ?_, ?_, ?_, ?_, ?_, ?_, ?_, ?_⟩
  · intro record hmem
    rcases hrecords record hmem with hold | rfl
    · exact ⟨(howned.handles record hold).1, Nat.lt_succ_of_lt (howned.handles record hold).2⟩
    · exact ⟨howned.next, Nat.lt_succ_self _⟩
  · intro id' other h
    rcases hobjects id' other h with ⟨-, rfl⟩ | ⟨-, hold⟩
    · exact Nat.lt_succ_self _
    · exact Nat.lt_succ_of_lt (howned.objectHandles id' other hold)
  · intro record hmem
    rcases hrecords record hmem with hold | rfl
    · exact howned.owners record hold
    · exact hready
  · intro record hmem fresh hdata
    rcases hrecords record hmem with hold | rfl
    · refine (howned.registered record hold fresh hdata).imp_right ?_
      rintro ⟨id', other, hother, hsame, hhandle⟩
      refine ⟨id', other, (update_of_ne (fun hid => ?_) _ _).trans hother, hsame, hhandle⟩
      -- The object had no handle before, and so no record.
      rw [hid, hobject] at hother
      cases hother
      rw [hzero] at hhandle
      exact absurd hhandle.symm (Nat.ne_of_gt (howned.handles record hold).1)
    · exact Or.inr ⟨id, ⟨some target, binding, plugins.host.nextCallback⟩,
        update_self _ _ _, hdata, rfl⟩
  · intro id' other h record hmem heq
    rcases hrecords record hmem with hold | rfl
    · rcases hobjects id' other h with ⟨-, rfl⟩ | ⟨-, hother⟩
      · exact absurd heq (Nat.ne_of_lt (howned.handles record hold).2)
      · exact howned.same id' other hother record hold heq
    · rcases hobjects id' other h with ⟨-, rfl⟩ | ⟨-, hother⟩
      · exact ⟨rfl, rfl⟩
      · exact absurd heq.symm (Nat.ne_of_lt (howned.objectHandles id' other hother))
  · intro first callback' second other owned hfirst hsecond hown hown'
    rcases hobjects first callback' hfirst with ⟨rfl, rfl⟩ | ⟨hne, hold⟩
    · rcases hobjects second other hsecond with ⟨rfl, -⟩ | ⟨-, hold'⟩
      · rfl
      · have hlt := (howned.live second other owned hold' hown').2
        exact absurd (hbinding owned hown) (Nat.ne_of_lt hlt)
    · rcases hobjects second other hsecond with ⟨rfl, rfl⟩ | ⟨-, hold'⟩
      · have hlt := (howned.live first callback' owned hold hown).2
        exact absurd (hbinding owned hown') (Nat.ne_of_lt hlt)
      · exact howned.unique first callback' second other owned hold hold' hown hown'
  · intro id' other owned h hown
    rcases hobjects id' other h with ⟨-, rfl⟩ | ⟨-, hold⟩
    · rw [hbinding owned hown]
      exact ⟨fun hmem => Nat.lt_irrefl _ (howned.known _ hmem), Nat.lt_succ_self _⟩
    · exact (howned.live id' other owned hold hown).imp_right Nat.lt_succ_of_lt
  · exact fun freed hmem => Nat.lt_succ_of_lt (howned.known freed hmem)
  · intro record hmem freed hfreed hdata
    rcases hrecords record hmem with hold | rfl
    · exact howned.silent record hold freed hfreed hdata
    · exact absurd (hbinding freed hdata) (Nat.ne_of_lt (howned.known freed hfreed))

end

theorem ownerExists_of_ready {host : HookService} {plugin : KeelPluginHandle}
    (h : host.ownerReady plugin = true) : host.ownerExists plugin = true := by
  unfold HookService.ownerReady at h
  unfold HookService.ownerExists
  rw [Bool.and_eq_true] at h ⊢
  refine ⟨h.1, ?_⟩
  cases howner : host.owners plugin with
  | none =>
    rw [howner] at h
    cases h.2
  | some owner => rfl

theorem Owned.add (howned : Owned plugins) (id : Nat) (target : HookTarget)
    (bound physical : Bool) : Owned (plugins.add id target bound physical) := by
  unfold Plugins.add
  split
  swap
  · exact howned
  rename_i callback hobject hpending
  have hbinding : ∀ fresh, (if bound then some plugins.nextBinding else none) = some fresh →
      fresh = plugins.nextBinding := by
    intro fresh h
    split at h
    · exact (Option.some.inj h).symm
    · cases h
  have hsame : Fewer plugins.host plugins.host :=
    ⟨fun record hmem => ⟨record, hmem, rfl, rfl, rfl, rfl⟩, le_refl _⟩
  have hkept := howned.freeNew hbinding hsame rfl rfl rfl
  dsimp only
  split
  swap
  · exact hkept
  rename_i hempty
  simp only [Bool.and_eq_true, beq_iff_eq] at hempty
  unfold HookService.addCallback
  by_cases hready : plugins.host.ownerReady target.plugin
  swap
  · simp only [if_neg hready]
    exact hkept
  by_cases hlease : plugins.host.leases target.handle target.plugin
  swap
  · simp only [if_pos hready, if_neg hlease]
    exact hkept
  by_cases hbusy : plugins.host.isBusy target.handle
  · simp only [if_pos hready, if_pos hlease, if_pos hbusy]
    exact hkept
  simp only [if_pos hready, if_pos hlease, if_neg hbusy]
  by_cases hfails : ((plugins.host.callbacks.all fun callback =>
      callback.target != target.handle) && !physical) = true
  · simp only [if_pos hfails]
    refine howned.freeNew hbinding ⟨hsame.callbacks, Nat.le_succ _⟩ rfl rfl rfl
  · simp only [if_neg hfails]
    exact howned.adopt hobject hempty.2 hbinding (ownerExists_of_ready hready)

/-! ## The rest of the host -/

theorem fewer_setAllEnabled (host : HookService) (plugin : KeelPluginHandle) (enabled : Bool) :
    Fewer host (host.setAllEnabled plugin enabled) where
  callbacks := fun record hmem => by
    obtain ⟨old, hold, rfl⟩ := List.mem_map.1 hmem
    refine ⟨old, hold, ?_⟩
    split <;> exact ⟨rfl, rfl, rfl, rfl⟩
  next := le_refl _

theorem ownerExists_setOwner {host : HookService} {plugin other : KeelPluginHandle}
    {owner : OwnerState} (h : host.ownerExists other = true) :
    (host.setOwner plugin (some owner)).ownerExists other = true := by
  unfold HookService.ownerExists at h ⊢
  rw [Bool.and_eq_true] at h ⊢
  refine ⟨h.1, ?_⟩
  show (update host.owners plugin (some owner) other).isSome = true
  by_cases heq : other = plugin
  · rw [heq, update_self]
    rfl
  · rw [update_of_ne heq]
    exact h.2

theorem Owned.setOwnerAndAll (howned : Owned plugins) {plugin : KeelPluginHandle}
    {owner : OwnerState} {enabled : Bool}
    (hsilent : enabled = true → ∀ record ∈ plugins.host.callbacks, record.owner = plugin →
      ∀ binding ∈ plugins.freed, record.userData ≠ some binding) :
    Owned { plugins with
      host := (plugins.host.setOwner plugin (some owner)).setAllEnabled plugin enabled } := by
  have hfewer := fewer_setAllEnabled (plugins.host.setOwner plugin (some owner)) plugin enabled
  refine howned.of_fewer plugins.pending ⟨hfewer.callbacks, hfewer.next⟩ ?_ ?_
  · intro record hmem
    obtain ⟨old, hold, -, howner, -, -⟩ := hfewer.callbacks record hmem
    rw [howner]
    exact ownerExists_setOwner (howned.owners old hold)
  · intro record hmem binding hfreed hdata
    obtain ⟨old, hold, rfl⟩ := List.mem_map.1 hmem
    split at hdata
    · rename_i heq
      rw [if_pos heq]
      cases enabled with
      | false => rfl
      | true => exact absurd hdata (hsilent rfl old hold heq binding hfreed)
    · rename_i hne
      rw [if_neg hne]
      exact howned.silent old hold binding hfreed hdata

theorem Owned.releasePlugin (howned : Owned plugins) (plugin : KeelPluginHandle)
    (restored : Nat → Bool) :
    Owned { plugins with host := plugins.host.releasePlugin plugin restored } := by
  unfold HookService.releasePlugin
  split
  · exact howned
  rename_i owner howner
  have hall := fewer_setAllEnabled plugins.host plugin false
  refine howned.of_fewer plugins.pending
    ⟨fun record hmem => hall.callbacks record (List.mem_filter.1 hmem).1, le_refl _⟩ ?_ ?_
  · intro record hmem
    obtain ⟨hmem', -⟩ := List.mem_filter.1 hmem
    obtain ⟨old, hold, -, hsame, -, -⟩ := hall.callbacks record hmem'
    have hexists := howned.owners old hold
    rw [← hsame] at hexists
    unfold HookService.ownerExists at hexists ⊢
    rw [Bool.and_eq_true] at hexists ⊢
    refine ⟨hexists.1, ?_⟩
    dsimp only
    by_cases heq : record.owner = plugin
    · -- A callback that stays keeps its plugin's owner state.
      have hany : (((plugins.host.setAllEnabled plugin false).callbacks.filter fun callback =>
          callback.owner != plugin || !restored callback.target).any fun callback =>
            callback.owner == plugin) = true :=
        List.any_eq_true.2 ⟨record, hmem, beq_iff_eq.2 heq⟩
      rw [heq, update_self, if_pos hany]
      rfl
    · rw [update_of_ne heq]
      exact hexists.2
  · intro record hmem binding hfreed hdata
    obtain ⟨old, hold, rfl⟩ := List.mem_map.1 (List.mem_filter.1 hmem).1
    split at hdata
    · rename_i heq
      rw [if_pos heq]
    · rename_i hne
      rw [if_neg hne]
      exact howned.silent old hold binding hfreed hdata

theorem Owned.host (howned : Owned plugins) {input : HostInput}
    (horderly : Orderly plugins (.host input)) :
    Owned { plugins with host := plugins.host.step input } := by
  cases input with
  | authorize plugin active =>
    simp only [HookService.step, HookService.authorize]
    have hset (owner : OwnerState) :
        Owned { plugins with host := plugins.host.setOwner plugin (some owner) } :=
      howned.of_fewer plugins.pending
        ⟨fun record hmem => ⟨record, hmem, rfl, rfl, rfl, rfl⟩, le_refl _⟩
        (fun record hmem => ownerExists_setOwner (howned.owners record hmem)) howned.silent
    split
    · exact howned
    split
    · exact hset _
    · exact hset _
  | activate plugin =>
    simp only [HookService.step, HookService.activate]
    split
    swap
    · exact howned
    refine howned.setOwnerAndAll fun _ record hmem howner binding hfreed hdata => ?_
    have hfresh := List.all_eq_true.1 horderly record hmem
    simp [howner, hdata, hfreed] at hfresh
  | deactivate plugin =>
    simp only [HookService.step, HookService.deactivate]
    split
    · exact howned
    · exact howned.setOwnerAndAll fun h => by cases h
  | releasePlugin plugin restored => exact howned.releasePlugin plugin restored
  | shutdown =>
    exact howned.of_fewer plugins.pending ⟨(fun record hmem => by cases hmem), le_refl _⟩
      (fun record hmem => by cases hmem) (fun record hmem => by cases hmem)
  | target target record =>
    exact howned.of_fewer plugins.pending
      ⟨fun record hmem => ⟨record, hmem, rfl, rfl, rfl, rfl⟩, le_refl _⟩ howned.owners
      howned.silent
  | lease target plugin leased =>
    exact howned.of_fewer plugins.pending
      ⟨fun record hmem => ⟨record, hmem, rfl, rfl, rfl, rfl⟩, le_refl _⟩ howned.owners
      howned.silent

/-! ## Runs -/

theorem Owned.step (howned : Owned plugins) {input : Input} (horderly : Orderly plugins input) :
    Owned (plugins.step input) := by
  cases input with
  | create id => exact howned.create id
  | add id target bound physical => exact howned.add id target bound physical
  | setEnabled id enabled => exact howned.setEnabled id enabled
  | moveConstruct source id => exact howned.moveConstruct source id
  | moveAssign left right => exact howned.moveAssign left right
  | reset id released => exact howned.reset horderly
  | destroy id released => exact howned.reset horderly
  | removed id physical released => exact howned.removed horderly
  | disableResources plugin =>
    exact ⟨howned.handles, howned.next, howned.objectHandles, howned.owners, howned.registered,
      howned.same, howned.unique, howned.live, howned.known, howned.silent⟩
  | host input => exact howned.host horderly

end Owned

/-- **No callback into freed memory.** In a run in which objects with enabled callbacks are
destroyed where the service can remove them, and no plugin that has outlived a binding is activated
again, the service never has an enabled callback whose binding is freed. -/
theorem freed_bindings_silent (inputs : List Input)
    (horderly : Heeds Plugins.step Orderly .initial inputs) :
    Silent (run Plugins.step .initial inputs) :=
  have howned : Owned (run Plugins.step .initial inputs) :=
    Heeds.invariant (fun _ _ howned hinput => howned.step hinput) owned_initial horderly
  howned.silent

instance (plugins : Plugins) : ∀ input, Decidable (Orderly plugins input)
  | .reset id _ => inferInstanceAs (Decidable (plugins.mayReset id false = true))
  | .destroy id _ => inferInstanceAs (Decidable (plugins.mayReset id true = true))
  | .removed _ _ _ => inferInstanceAs (Decidable (_ = true))
  | .host (.activate _) => inferInstanceAs (Decidable (_ = true))
  | .host (.authorize _ _) | .host (.deactivate _) | .host (.releasePlugin _ _) | .host .shutdown
  | .host (.target _ _) | .host (.lease _ _ _) | .create _ | .add _ _ _ _ | .setEnabled _ _
  | .moveConstruct _ _ | .moveAssign _ _ | .disableResources _ => .isTrue trivial

/-- An object is moved, silenced by `Deactivate` and destroyed; another one is destroyed in use. -/
def movedAndDestroyed : List Input :=
  [.host (.authorize 7 true), .host (.lease 3 7 true), .create 0, .create 1,
    .add 0 ⟨7, 3⟩ true true, .add 1 ⟨7, 3⟩ true true, .moveConstruct 0 2,
    .destroy 0 .ok, .destroy 2 .ok, .removed 2 true .ok, .host (.deactivate 7),
    .host (.activate 7), .destroy 1 .busy, .removed 1 true .busy]

theorem movedAndDestroyed_silent :
    (run Plugins.step .initial movedAndDestroyed).freed = [1, 0]
      ∧ Silent (run Plugins.step .initial movedAndDestroyed) :=
  ⟨by decide +kernel, freed_bindings_silent movedAndDestroyed (by decide +kernel)⟩

/-- An object is destroyed while a direct call of its target is running. The service refuses to
remove the callback, and keeps it enabled after its binding has been freed. -/
theorem destroyed_while_busy : ¬ ∀ inputs : List Input,
    Silent (run Plugins.step .initial inputs) := by
  intro hall
  have hsilent := hall [.host (.authorize 7 true), .host (.lease 3 7 true), .create 0,
    .add 0 ⟨7, 3⟩ true true, .host (.target 3 ⟨false, 1⟩), .destroy 0 .ok]
  have henabled := hsilent ⟨1, 7, 3, some 0, true⟩ (by decide +kernel) 0 (by decide +kernel) rfl
  cases henabled

end KeelS2.Sdk
