import KeelS2.Lib.Keyed
import KeelS2.Plugins.Machine
import Mathlib.Data.Finset.Basic

/-!
# The registry of published services

A plugin publishes a service under a name and a version; another one that queries it is one of its
consumers until it gives it back. The two tables of the registry stand for one map from keys to
publications, and what has consumers is not taken away from them.
-/

namespace KeelS2.Plugins

open Lib (run)

abbrev KeelServiceHandle := Nat

/-- `KEELS2_SERVICE_NAME_CAPACITY`. -/
def serviceNameCapacity : Nat := 128

/-- `sizeof(KeelServiceSpec)`. -/
def serviceSpecSize : Nat := 24

/-- The service is an address. -/
structure KeelServiceSpec where
  size : Nat
  version : Nat
  name : Option Text
  service : Nat

def canonicalServiceName (name : Option Text) : Option Text :=
  name.bind fun characters =>
    let seen := characters.takeWhile (· ≠ '\x00')
    let canonical := seen.map Char.toLower
    if seen.all (fun character => character.isAlphanum || ['.', '_', '-'].contains character) &&
        seen ≠ [] && seen.length < serviceNameCapacity &&
        !"keels2.".toList.isPrefixOf canonical then some canonical
    else none

namespace PublishedServiceRegistry

structure Key where
  name : Text
  version : Nat
  deriving DecidableEq

structure Publication where
  handle : KeelServiceHandle
  provider : KeelPluginHandle
  key : Key
  service : Nat
  consumers : Finset KeelPluginHandle
  deriving DecidableEq

end PublishedServiceRegistry

structure PublishedServiceRegistry where
  nextPublication : Nat
  shuttingDown : Bool
  publications : List PublishedServiceRegistry.Publication
  publicationsByKey : List (PublishedServiceRegistry.Key × KeelServiceHandle)

namespace PublishedServiceRegistry

def initial : PublishedServiceRegistry := ⟨1, false, [], []⟩

section

variable (registry : PublishedServiceRegistry)

/-- `publications_.find`. -/
def find (handle : KeelServiceHandle) : Option Publication :=
  registry.publications.find? (·.handle == handle)

/-- What is found by a key of `publications_by_key_`; `publications_.at` throws nowhere (`Sound`).
-/
def offered (key : Key) : Option Publication :=
  (registry.publicationsByKey.lookup key).bind registry.find

def add (publication : Publication) : PublishedServiceRegistry :=
  { registry with
    nextPublication := (registry.nextPublication + 1) % 2 ^ 64
    publicationsByKey := registry.publicationsByKey ++ [(publication.key, publication.handle)]
    publications := registry.publications ++ [publication] }

def withConsumers (write : Publication → Finset KeelPluginHandle) : PublishedServiceRegistry :=
  { registry with
    publications := registry.publications.map fun publication =>
      { publication with consumers := write publication } }

/-- These are taken out of both tables. -/
def erase (gone : List Publication) : PublishedServiceRegistry :=
  { registry with
    publicationsByKey := registry.publicationsByKey.filter (·.1 ∉ gone.map Publication.key)
    publications := registry.publications.filter (· ∉ gone) }

/-- `Publish`; `output` is whether there is a place for the handle. -/
def publish (host : Host) (acceptingResources : Bool) (plugin : KeelPluginHandle)
    (spec : Option KeelServiceSpec) (output : Bool) :
    PublishedServiceRegistry × KeelResult × KeelServiceHandle :=
  match spec, spec.bind fun spec => canonicalServiceName spec.name with
  | some spec, some name =>
    if !output ∨ spec.size ≠ serviceSpecSize ∨ spec.version = 0 ∨ spec.service = 0 then
      (registry, .invalidArgument, 0)
    else if registry.shuttingDown ∨ !acceptingResources ∨
        !(host.pluginByHandle plugin).any (·.acceptingResources) ∨
        registry.nextPublication = 0 then
      (registry, .notReady, 0)
    else if (registry.publicationsByKey.lookup ⟨name, spec.version⟩).isSome then
      (registry, .alreadyExists, 0)
    else
      (registry.add
          ⟨registry.nextPublication, plugin, ⟨name, spec.version⟩, spec.service, ∅⟩,
        .ok, registry.nextPublication)
  | _, _ => (registry, .invalidArgument, 0)

/-- The owner check of `Withdraw` and `Release`. -/
def ownerReady (host : Host) (plugin : KeelPluginHandle) : Bool :=
  (host.pluginByHandle plugin).any fun owner =>
    owner.acceptingResources || owner.prepareUnloadActive || owner.preparePauseActive

def withdraw (host : Host) (plugin : KeelPluginHandle) (handle : KeelServiceHandle) :
    PublishedServiceRegistry × KeelResult :=
  if handle = 0 then (registry, .invalidArgument)
  else if !ownerReady host plugin then (registry, .notReady)
  else
    match registry.find handle with
    | none => (registry, .notFound)
    | some publication =>
      if publication.provider ≠ plugin then (registry, .notFound)
      else if publication.consumers ≠ ∅ then (registry, .busy)
      else (registry.erase [publication], .ok)

def release (host : Host) (plugin : KeelPluginHandle) (requested : Option Text) (version : Nat) :
    PublishedServiceRegistry × KeelResult :=
  match canonicalServiceName requested with
  | none => (registry, .invalidArgument)
  | some name =>
    if version = 0 then (registry, .invalidArgument)
    else if !ownerReady host plugin then (registry, .notReady)
    else
      match registry.offered ⟨name, version⟩ with
      | none => (registry, .notFound)
      | some publication =>
        (registry.withConsumers fun other =>
            if other.handle = publication.handle then other.consumers.erase plugin
            else other.consumers,
          if plugin ∈ publication.consumers then .ok else .notFound)

/-- `Query` behind the checks of `Host::QueryService`, for a name that is not one of the host's
own. The address is the one that is written; `service` is whether there is a place for it. -/
def query (host : Host) (acceptingResources : Bool) (consumer : KeelPluginHandle)
    (requested : Option Text) (version : Nat) (service : Bool) :
    PublishedServiceRegistry × KeelResult × Nat :=
  if !service ∨ requested.isNone then (registry, .invalidArgument, 0)
  else if !acceptingResources ∨ !(host.pluginByHandle consumer).any (·.acceptingResources) then
    (registry, .notReady, 0)
  else
    match canonicalServiceName requested with
    | none => (registry, .invalidArgument, 0)
    | some name =>
      if version = 0 then (registry, .invalidArgument, 0)
      else
        match registry.offered ⟨name, version⟩ with
        | none =>
          (registry,
            if registry.publications.any (·.key.name = name) then .incompatible else .notFound, 0)
        | some publication =>
          if publication.provider = consumer then (registry, .ok, publication.service)
          else if !(host.pluginByHandle publication.provider).any fun provider =>
              provider.state = .loaded && !provider.transitioning then
            (registry, .notReady, 0)
          else
            (registry.withConsumers fun other =>
                if other.handle = publication.handle then insert consumer other.consumers
                else other.consumers,
              .ok, publication.service)

/-- `HasLeasedPublication`, without the name of a consumer. -/
def hasLeasedPublication (provider : KeelPluginHandle) : Bool :=
  registry.publications.any fun publication =>
    publication.provider = provider && publication.consumers ≠ ∅

def releasePlugin (plugin : KeelPluginHandle) : PublishedServiceRegistry × KeelResult :=
  if registry.hasLeasedPublication plugin then (registry, .busy)
  else
    let released := registry.withConsumers fun publication => publication.consumers.erase plugin
    (released.erase (released.publications.filter (·.provider = plugin)), .ok)

def shutdown : PublishedServiceRegistry :=
  { registry with shuttingDown := true, publicationsByKey := [], publications := [] }

end

/-- A call, each with the manager's state as it finds it. -/
inductive Request
  | publish (host : Host) (acceptingResources : Bool) (plugin : KeelPluginHandle)
      (spec : Option KeelServiceSpec) (output : Bool)
  | withdraw (host : Host) (plugin : KeelPluginHandle) (handle : KeelServiceHandle)
  | release (host : Host) (plugin : KeelPluginHandle) (requested : Option Text) (version : Nat)
  | query (host : Host) (acceptingResources : Bool) (consumer : KeelPluginHandle)
      (requested : Option Text) (version : Nat) (service : Bool)
  | releasePlugin (plugin : KeelPluginHandle)
  | shutdown

def step (registry : PublishedServiceRegistry) : Request → PublishedServiceRegistry
  | .publish host accepting plugin spec output =>
    (registry.publish host accepting plugin spec output).1
  | .withdraw host plugin handle => (registry.withdraw host plugin handle).1
  | .release host plugin requested version => (registry.release host plugin requested version).1
  | .query host accepting consumer requested version service =>
    (registry.query host accepting consumer requested version service).1
  | .releasePlugin plugin => (registry.releasePlugin plugin).1
  | .shutdown => registry.shutdown

/-! ## What a request keeps -/

/-- The two tables stand for one map. -/
structure Sound (registry : PublishedServiceRegistry) : Prop where
  indexed : registry.publicationsByKey =
    registry.publications.map fun publication => (publication.key, publication.handle)
  keys : (registry.publications.map Publication.key).Nodup
  handles : (registry.publications.map Publication.handle).Nodup
  bounded : registry.nextPublication < 2 ^ 64
  issued : ∀ publication ∈ registry.publications,
    registry.nextPublication = 0 ∨ publication.handle < registry.nextPublication

/-- The publication is there, and the consumer is one of its consumers. -/
def Leased (registry : PublishedServiceRegistry) (publication : Publication)
    (consumer : KeelPluginHandle) : Prop :=
  ∃ consumers, consumer ∈ consumers ∧ { publication with consumers } ∈ registry.publications

/-- The requests that a consumer loses its lease by. -/
def Request.Ends (key : Key) (consumer : KeelPluginHandle) : Request → Prop
  | .release _ plugin requested version => plugin = consumer ∧
      canonicalServiceName requested = some key.name ∧ version = key.version
  | .releasePlugin plugin => plugin = consumer
  | .shutdown => True
  | _ => False

structure Kept (registry : PublishedServiceRegistry) (request : Request)
    (after : PublishedServiceRegistry) : Prop where
  sound : after.Sound
  leases : ∀ publication consumer, registry.Leased publication consumer →
    ¬request.Ends publication.key consumer → after.Leased publication consumer

variable {registry middle after : PublishedServiceRegistry} {request : Request}
  {publication : Publication} {consumer : KeelPluginHandle}

theorem offered_iff (h : registry.Sound) {key : Key} :
    registry.offered key = some publication ↔
      publication ∈ registry.publications ∧ publication.key = key := by
  have hfind : ∀ other ∈ registry.publications, registry.find other.handle = some other :=
    fun other hmem => Lib.find_of_distinct h.handles hmem
  constructor
  · intro heq
    obtain ⟨handle, hlookup, hfound⟩ := Option.bind_eq_some_iff.1 heq
    have hlisted := Lib.mem_of_lookup hlookup
    rw [h.indexed] at hlisted
    obtain ⟨other, hmem, hother⟩ := List.mem_map.1 hlisted
    cases hother
    rw [hfind other hmem] at hfound
    cases hfound
    exact ⟨hmem, rfl⟩
  · intro ⟨hmem, hkey⟩
    have hkeys : (registry.publicationsByKey.map Prod.fst).Nodup := by
      simpa [h.indexed, Function.comp_def] using h.keys
    have hlookup : registry.publicationsByKey.lookup key = some publication.handle := by
      apply Lib.lookup_of_distinct hkeys
      rw [h.indexed, ← hkey]
      exact List.mem_map_of_mem hmem
    simp [offered, hlookup, hfind publication hmem]

theorem Sound.same (h : registry.Sound) : Kept registry request registry :=
  ⟨h, fun _ _ hleased _ => hleased⟩

theorem Kept.trans (h : Kept registry request middle) (h' : Kept middle request after) :
    Kept registry request after :=
  ⟨h'.sound, fun _ _ hleased hkept => h'.leases _ _ (h.leases _ _ hleased hkept) hkept⟩

theorem add_kept (h : registry.Sound) (hhandle : publication.handle = registry.nextPublication)
    (hnext : registry.nextPublication ≠ 0)
    (hkey : publication.key ∉ registry.publications.map Publication.key) :
    Kept registry request (registry.add publication) := by
  -- The new handle is above all others.
  have hbelow : ∀ other ∈ registry.publications, other.handle < publication.handle := by
    intro other hmem
    exact hhandle ▸ (h.issued other hmem).resolve_left hnext
  have hgrows : (registry.add publication).nextPublication = 0 ∨
      publication.handle < (registry.add publication).nextPublication := by
    have := h.bounded
    rw [hhandle]
    show (registry.nextPublication + 1) % 2 ^ 64 = 0 ∨
      registry.nextPublication < (registry.nextPublication + 1) % 2 ^ 64
    omega
  refine ⟨⟨?_, ?_, ?_, Nat.mod_lt _ (by simp), ?_⟩, ?_⟩
  · simp [add, h.indexed]
  · simpa [add, List.nodup_append, h.keys] using hkey
  · simp only [add, List.map_append]
    refine h.handles.append (List.nodup_singleton _) ?_
    simpa using fun other hmem => (hbelow other hmem).ne
  · intro other hmem
    rcases List.mem_append.1 hmem with hmem | hmem
    · exact hgrows.imp_right (hbelow other hmem).trans
    · exact List.mem_singleton.1 hmem ▸ hgrows
  · intro other consumer ⟨consumers, hconsumer, hmem⟩ _
    exact ⟨consumers, hconsumer, List.mem_append_left _ hmem⟩

theorem withConsumers_kept (h : registry.Sound)
    {write : Publication → Finset KeelPluginHandle}
    (hkeeps : ∀ publication ∈ registry.publications, ∀ consumer ∈ publication.consumers,
      ¬request.Ends publication.key consumer → consumer ∈ write publication) :
    Kept registry request (registry.withConsumers write) := by
  refine ⟨⟨?_, ?_, ?_, h.bounded, ?_⟩, ?_⟩
  · simpa [withConsumers, Function.comp_def] using h.indexed
  · simpa [withConsumers, Function.comp_def] using h.keys
  · simpa [withConsumers, Function.comp_def] using h.handles
  · simpa [withConsumers] using h.issued
  · intro _ consumer ⟨_, hconsumer, hmem⟩ hkept
    exact ⟨_, hkeeps _ hmem consumer hconsumer hkept, List.mem_map_of_mem hmem⟩

theorem erase_kept (h : registry.Sound) {gone : List Publication}
    (hgone : ∀ publication ∈ gone,
      publication ∈ registry.publications ∧ publication.consumers = ∅) :
    Kept registry request (registry.erase gone) := by
  refine ⟨⟨?_, h.keys.sublist (List.filter_sublist.map _),
    h.handles.sublist (List.filter_sublist.map _), h.bounded,
    fun other hmem => h.issued other (List.mem_of_mem_filter hmem)⟩, ?_⟩
  · simp only [erase, h.indexed, List.filter_map]
    congr 1
    apply List.filter_congr
    intro other hmem
    -- No two publications have one key.
    have hkey : other.key ∈ gone.map Publication.key ↔ other ∈ gone := by
      refine ⟨fun hlisted => ?_, List.mem_map_of_mem⟩
      obtain ⟨listed, hlisted, heq⟩ := List.mem_map.1 hlisted
      exact List.inj_on_of_nodup_map h.keys (hgone listed hlisted).1 hmem heq ▸ hlisted
    simp only [Function.comp_apply, hkey]
  · intro _ _ ⟨consumers, hconsumer, hmem⟩ _
    refine ⟨consumers, hconsumer, List.mem_filter.2 ⟨hmem, decide_eq_true fun hlisted => ?_⟩⟩
    have hnone : consumers = ∅ := (hgone _ hlisted).2
    simp [hnone] at hconsumer

theorem step_kept (h : registry.Sound) (request : Request) :
    Kept registry request (registry.step request) := by
  cases request with
  | publish host accepting plugin spec output =>
    simp only [step, publish]
    repeat' split
    -- What is refused changes nothing.
    all_goals try exact h.same
    next hready hkey =>
      rw [Lib.isSome_lookup, h.indexed, List.map_map] at hkey
      exact add_kept h rfl (by tauto) hkey
  | withdraw host plugin handle =>
    simp only [step, withdraw]
    repeat' split
    all_goals try exact h.same
    next publication hfound _ hconsumers =>
      apply erase_kept h
      simpa using ⟨List.mem_of_find?_eq_some hfound, not_not.1 hconsumers⟩
  | release host plugin requested version =>
    simp only [step, release]
    repeat' first | dsimp only | split
    all_goals try exact h.same
    next name hname _ _ _ publication hoffered =>
      apply withConsumers_kept h
      intro other hother consumer hconsumer hkept
      obtain ⟨hmem, hkey⟩ := (offered_iff h).1 hoffered
      split
      -- The one that was asked for: only the lease that is given back goes.
      · next heq =>
        cases List.inj_on_of_nodup_map h.handles hother hmem heq
        refine Finset.mem_erase.2 ⟨?_, hconsumer⟩
        intro hends
        exact hkept ⟨hends.symm, by rw [hname, hkey], by rw [hkey]⟩
      · exact hconsumer
  | query host accepting consumer requested version service =>
    simp only [step, query]
    repeat' first | dsimp only | split
    all_goals try exact h.same
    apply withConsumers_kept h
    intro other _ earlier hearlier _
    split
    · exact Finset.mem_insert_of_mem hearlier
    · exact hearlier
  | releasePlugin plugin =>
    simp only [step, releasePlugin]
    split
    · exact h.same
    · next hfree =>
      have hreleased : Kept registry (.releasePlugin plugin)
          (registry.withConsumers fun publication => publication.consumers.erase plugin) := by
        apply withConsumers_kept h
        intro other _ consumer hconsumer hkept
        exact Finset.mem_erase.2 ⟨fun heq => hkept heq.symm, hconsumer⟩
      refine hreleased.trans (erase_kept hreleased.sound ?_)
      intro other hother
      obtain ⟨hmem, hprovider⟩ := List.mem_filter.1 hother
      obtain ⟨publication, hpublication, rfl⟩ := List.mem_map.1 hmem
      refine ⟨hmem, ?_⟩
      simp only [hasLeasedPublication, List.any_eq_true, not_exists] at hfree
      have := hfree publication
      simp_all
  | shutdown =>
    refine ⟨⟨rfl, List.nodup_nil, List.nodup_nil, h.bounded, ?_⟩, ?_⟩
    · intro _ hmem
      cases hmem
    · intro _ _ _ hkept
      exact absurd trivial hkept

theorem reached_sound (requests : List Request) : (run step initial requests).Sound := by
  have hstep : ∀ registry request, Sound registry → (step registry request).Sound :=
    fun _ request h => (step_kept h request).sound
  apply Lib.run_invariant hstep
  constructor <;> simp [initial]

theorem leases_kept (h : registry.Sound) (hleased : registry.Leased publication consumer)
    {requests : List Request}
    (hkept : ∀ request ∈ requests, ¬request.Ends publication.key consumer) :
    (run step registry requests).Leased publication consumer := by
  induction requests generalizing registry with
  | nil => exact hleased
  | cons request requests ih =>
    have hkeeps := step_kept h request
    exact ih hkeeps.sound (hkeeps.leases _ _ hleased (hkept request List.mem_cons_self))
      fun later hlater => hkept later (.tail _ hlater)

/-! ## Over whole runs -/

/-- A service that is leased stays: its provider is refused to withdraw it and to go, until the
consumer gives it back or goes itself, or the registry shuts down. -/
theorem lease_stands (earlier later : List Request) {publication : Publication}
    {consumer : KeelPluginHandle}
    (hpublication : publication ∈ (run step initial earlier).publications)
    (hconsumer : consumer ∈ publication.consumers)
    (hkept : ∀ request ∈ later, ¬request.Ends publication.key consumer) :
    let registry := run step initial (earlier ++ later)
    (∃ consumers, consumer ∈ consumers ∧
      registry.offered publication.key = some { publication with consumers }) ∧
    registry.releasePlugin publication.provider = (registry, .busy) ∧
    ∀ host plugin, (registry.withdraw host plugin publication.handle).1 = registry := by
  intro registry
  have h : registry.Sound := reached_sound _
  obtain ⟨consumers, hmem, hstands⟩ : registry.Leased publication consumer := by
    rw [show registry = _ from Lib.run_append _ _ _ _]
    exact leases_kept (reached_sound earlier) ⟨_, hconsumer, hpublication⟩ hkept
  have hsome : consumers ≠ ∅ := Finset.ne_empty_of_mem hmem
  refine ⟨⟨consumers, hmem, (offered_iff h).2 ⟨hstands, rfl⟩⟩, ?_, fun host plugin => ?_⟩
  · have hleased : registry.hasLeasedPublication publication.provider = true :=
      List.any_eq_true.2 ⟨_, hstands, by simpa using hsome⟩
    simp [releasePlugin, hleased]
  · have hfound : registry.find publication.handle = some { publication with consumers } :=
      Lib.find_of_distinct h.handles hstands
    simp only [withdraw, hfound]
    split_ifs <;> simp_all

theorem lease_stands_released :
    let host : Host := { Host.initial with
      plugins := [1, 2].map fun handle =>
        { PluginRecord.new handle [] with state := .loaded, acceptingResources := true } }
    let earlier : List Request :=
      [.publish host true 1 (some ⟨serviceSpecSize, 1, some ['a'], 8⟩) true,
        .query host true 2 (some ['a']) 1 true]
    ((run step initial (earlier ++ [.releasePlugin 1])).releasePlugin 1).2 = .busy :=
  congrArg Prod.snd (@lease_stands _ [.releasePlugin 1] ⟨1, 1, ⟨['a'], 1⟩, 8, {2}⟩ 2 (by decide)
    (by decide) (by simp [Request.Ends])).2.1

end PublishedServiceRegistry
end KeelS2.Plugins
