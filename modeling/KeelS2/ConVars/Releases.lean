import KeelS2.ConVars.Definitions

/-!
# Console variables that are used and released

`Read`, `Describe` and `QueueSet` look at `release_state` and then ask the adapter, and so does
what the adapter calls when a value changes. `ReleaseRecord` writes `release_state` and waits for
`active`, without `state_mutex_`. The two counters are counted up by those that are to be waited
for: `active` by `QueueSet` and `Dispatch`, and the adapter's own by whatever it calls.
-/

namespace KeelS2.ConVars

open Lib (run Heeds)

inductive Use
  | read
  | describe
  | queueSet
  deriving DecidableEq, Repr

/-- How far a `ReleaseRecord` has come. -/
inductive Stage
  | asked
  /-- Another thread releases the record. -/
  | awaiting
  /-- It waits for `active`. -/
  | draining
  /-- It is in the adapter's `ReleaseConVar`. -/
  | surrendering
  /-- It waits for `active` once more. -/
  | clearing
  | erasing
  | finishing
  deriving DecidableEq, Repr

inductive Place
  /-- `release_state` was zero; `state_mutex_` is held. -/
  | looked (use : Use)
  /-- In the adapter's `ReadConVar` or `DescribeConVar`; `state_mutex_` is held. -/
  | asking (use : Use)
  /-- `QueueSet` has counted itself and released the lock. -/
  | counted
  /-- In the adapter's `QueueConVarSet`. -/
  | setting
  /-- The adapter is about to call `ChangeEntry` or `NativeChangeEntry`. -/
  | arrived (native : Bool)
  /-- `Dispatch` or `DispatchNative` is counted. -/
  | entered (native : Bool)
  /-- It has turned back. -/
  | leaving
  /-- It is in the plugin's callback, and on `callback_stack_`. -/
  | changing
  | releasing (stage : Stage)
  deriving DecidableEq, Repr

namespace Place

/-- It is in the adapter with the record's game handle. -/
def calls : Place → Bool
  | asking _ | setting => true
  | _ => false

/-- It has looked at `release_state`, and is not counted. -/
def looks : Place → Bool
  | looked _ | asking _ => true
  | _ => false

/-- It is counted in `active`. -/
def counts : Place → Bool
  | counted | setting | entered _ | leaving | changing => true
  | _ => false

/-- It is counted by the adapter. -/
def dispatches : Place → Bool
  | arrived _ | entered _ | leaving | changing => true
  | _ => false

/-- Other code of the plugin may run above it. -/
def nests : Place → Bool
  | setting | changing => true
  | _ => false

/-- It is the release itself. -/
def releases : Place → Bool
  | releasing _ => true
  | _ => false

end Place

structure Frame where
  place : Place
  convar : KeelConVarHandle
  deriving DecidableEq, Repr

def Frame.countsFor (convar : KeelConVarHandle) (frame : Frame) : Bool :=
  frame.place.counts && frame.convar == convar

def Frame.dispatchesFor (convar : KeelConVarHandle) (frame : Frame) : Bool :=
  frame.place.dispatches && frame.convar == convar

structure Uses where
  service : ConVarService
  /-- Who has `state_mutex_`, and how often. -/
  holder : Option (Nat × Nat)
  callStacks : Nat → List Frame
  /-- The adapter's `provider_active`. -/
  providerActive : KeelConVarHandle → Nat
  /-- The records that the adapter has been asked to release, and those that it has released. -/
  surrendered : List KeelConVarHandle
  retired : List KeelConVarHandle

namespace Uses

def initial : Uses where
  service := .initial
  holder := none
  callStacks := fun _ => []
  providerActive := fun _ => 0
  surrendered := []
  retired := []

variable (uses : Uses)

def setStack (thread : Nat) (stack : List Frame) : Uses :=
  { uses with callStacks := Function.update uses.callStacks thread stack }

/-- The thread is where it may call the service. -/
def outside (thread : Nat) : Bool := (uses.callStacks thread).head?.all (·.place.nests)

def mayLock (thread : Nat) : Bool := uses.holder.all (·.1 == thread)

def lock (thread : Nat) : Uses :=
  { uses with holder := some (thread, (uses.holder.map (·.2)).getD 0 + 1) }

def unlock : Uses :=
  { uses with holder := uses.holder.bind fun holder =>
      if holder.2 ≤ 1 then none else some (holder.1, holder.2 - 1) }

/-- `active` is counted up or down. -/
def count (convar : KeelConVarHandle) (change : Nat → Nat) : Uses :=
  { uses with service := uses.service.modify convar fun record =>
      { record with active := change record.active } }

/-- The adapter counts. -/
def provide (convar : KeelConVarHandle) (change : Nat → Nat) : Uses :=
  { uses with providerActive :=
      Function.update uses.providerActive convar (change (uses.providerActive convar)) }

def isCurrentRecord (thread : Nat) (convar : KeelConVarHandle) : Bool :=
  (uses.callStacks thread).any fun frame => frame.place = .changing && frame.convar == convar

/-- `callback_depth_`. -/
def callbackDepth (thread : Nat) : Nat :=
  (uses.callStacks thread).countP fun frame => frame.place = .changing

def callbackStackSize : Nat := 64

/-- What `Dispatch` looks at once it is counted. -/
def dispatched (thread : Nat) (native : Bool) (record : Record) : Bool :=
  record.enabled && (if native then record.nativeCallback else record.callback).isSome &&
    record.releaseState = 0 && uses.callbackDepth thread < callbackStackSize

/-- The thread goes on. `answer` is, in the adapter, that the value is one of the variable's type;
and where the adapter calls, that its own checks let it. -/
def go (thread : Nat) (answer : Bool) : Uses :=
  match uses.callStacks thread with
  | [] => uses
  | ⟨place, convar⟩ :: frames =>
    match place with
    | .looked use => uses.setStack thread (⟨.asking use, convar⟩ :: frames)
    | .asking use =>
      if use = .queueSet ∧ answer = true then
        ((uses.count convar (· + 1)).unlock).setStack thread (⟨.counted, convar⟩ :: frames)
      else uses.unlock.setStack thread frames
    | .counted => uses.setStack thread (⟨.setting, convar⟩ :: frames)
    | .setting => (uses.count convar (· - 1)).setStack thread frames
    | .arrived native =>
      if answer then
        (uses.count convar (· + 1)).setStack thread (⟨.entered native, convar⟩ :: frames)
      else (uses.provide convar (· - 1)).setStack thread frames
    | .entered native =>
      if answer && (uses.service.record convar).any (uses.dispatched thread native) then
        uses.setStack thread (⟨.changing, convar⟩ :: frames)
      else uses.setStack thread (⟨.leaving, convar⟩ :: frames)
    | .leaving | .changing =>
      ((uses.count convar (· - 1)).provide convar (· - 1)).setStack thread frames
    | .releasing stage =>
      match uses.service.record convar with
      | none => uses
      | some record =>
        match stage with
        | .asked =>
          if uses.isCurrentRecord thread convar then uses.setStack thread frames
          else if record.releaseState ≠ 0 then
            uses.setStack thread (⟨.releasing .awaiting, convar⟩ :: frames)
          else
            { uses with service := uses.service.beginRelease convar }.setStack thread
              (⟨.releasing .draining, convar⟩ :: frames)
        | .awaiting => if record.releaseState = 1 then uses else uses.setStack thread frames
        | .draining =>
          if record.active ≠ 0 then uses
          else
            { uses with surrendered := convar :: uses.surrendered }.setStack thread
              (⟨.releasing .surrendering, convar⟩ :: frames)
        | .surrendering =>
          if uses.providerActive convar ≠ 0 then uses
          else
            { uses with retired := convar :: uses.retired }.setStack thread
              (⟨.releasing .clearing, convar⟩ :: frames)
        | .clearing =>
          if record.active ≠ 0 then uses
          else uses.setStack thread (⟨.releasing .erasing, convar⟩ :: frames)
        | .erasing =>
          { uses with service := uses.service.eraseRecord convar }.setStack thread
            (⟨.releasing .finishing, convar⟩ :: frames)
        | .finishing =>
          { uses with service := uses.service.endRelease convar }.setStack thread frames

/-- What `Read`, `Describe` and `QueueSet` check before they ask the adapter; `formed` is that the
arguments are there and in order. -/
def admits (use : Use) (client : Client) (convar : KeelConVarHandle) (formed : Bool) : Bool :=
  formed && (use ≠ .read || client.gameThread) && client.accepted &&
    (uses.service.ownedRecord client.plugin convar).any (·.releaseState = 0)

inductive Act
  | use (thread : Nat) (use : Use) (client : Client) (convar : KeelConVarHandle) (formed : Bool)
  | create (thread : Nat) (client : Client) (spec : Option KeelConVarSpec) (output : Bool)
    (lookup : KeelResult) (answer : GameAnswer)
  | createNative (thread : Nat) (client : Client) (spec : Option KeelConVarSpec)
    (callback : Option Nat) (userData : Nat) (output : Bool) (lookup : KeelResult)
    (answer : GameAnswer)
  | find (thread : Nat) (client : Client) (name : Option Text) (expectedType : KeelConVarType)
    (output : Bool) (answer : GameAnswer)
  | release (thread : Nat) (client : Client) (convar : KeelConVarHandle)
  /-- `ReleaseRecord`, called by `ReleasePlugin` and `Shutdown`. -/
  | releaseRecord (thread : Nat) (convar : KeelConVarHandle)
  /-- The engine has a new value, and the adapter somebody to tell. -/
  | change (thread : Nat) (native : Bool) (convar : KeelConVarHandle)
  | go (thread : Nat) (answer : Bool)
  | enable (plugin : KeelPluginHandle) (enabled : Bool)
  /-- The rest of the host takes `state_mutex_`, and gives it back. -/
  | hold (thread : Nat)
  | drop (thread : Nat)

/-- One step; one that cannot be taken changes nothing. -/
def step (uses : Uses) : Act → Uses
  | .use thread use client convar formed =>
    if uses.outside thread && uses.mayLock thread && uses.admits use client convar formed then
      (uses.lock thread).setStack thread (⟨.looked use, convar⟩ :: uses.callStacks thread)
    else uses
  | .create thread client spec output lookup answer =>
    if uses.outside thread && uses.mayLock thread then
      { uses with service := (uses.service.create client spec output lookup answer).1 }
    else uses
  | .createNative thread client spec callback userData output lookup answer =>
    if uses.outside thread && uses.mayLock thread then
      { uses with service :=
          (uses.service.createNative client spec callback userData output lookup answer).1 }
    else uses
  | .find thread client name expectedType output answer =>
    if uses.outside thread && uses.mayLock thread then
      { uses with service := (uses.service.findImpl client name expectedType output answer).1 }
    else uses
  | .release thread client convar =>
    if uses.outside thread && uses.mayLock thread && client.settles &&
        (uses.service.ownedRecord client.plugin convar).isSome then
      uses.setStack thread (⟨.releasing .asked, convar⟩ :: uses.callStacks thread)
    else uses
  | .releaseRecord thread convar =>
    if uses.outside thread && (uses.service.record convar).isSome then
      uses.setStack thread (⟨.releasing .asked, convar⟩ :: uses.callStacks thread)
    else uses
  | .change thread native convar =>
    if uses.outside thread && (uses.service.record convar).any (·.created) &&
        convar ∉ uses.retired then
      (uses.provide convar (· + 1)).setStack thread
        (⟨.arrived native, convar⟩ :: uses.callStacks thread)
    else uses
  | .go thread answer => uses.go thread answer
  | .enable plugin enabled => { uses with service := uses.service.enable plugin enabled }
  | .hold thread => if uses.outside thread && uses.mayLock thread then uses.lock thread else uses
  | .drop thread =>
    if uses.outside thread && uses.holder.any (·.1 == thread) then uses.unlock else uses

/-- The act begins the adapter's release of this record. -/
def surrenders (thread : Nat) : Option KeelConVarHandle :=
  match uses.callStacks thread with
  | ⟨.releasing .draining, convar⟩ :: _ =>
    if (uses.service.record convar).any (·.active = 0) then some convar else none
  | _ => none

/-- The adapter's release of a record begins while nobody is between a look at its `release_state`
and the answer of the adapter. -/
def Clear (uses : Uses) : Act → Prop
  | .go thread _ => ∀ convar, uses.surrenders thread = some convar → ∀ other,
    ∀ frame ∈ uses.callStacks other, frame.convar = convar → frame.place.looks = false
  | _ => True

/-- No call of the adapter is made on a record that it has been asked to release, and no operation
is under way on a record that has been erased. -/
structure Quiet (uses : Uses) : Prop where
  calls : ∀ thread, ∀ frame ∈ uses.callStacks thread, frame.place.calls = true →
    frame.convar ∉ uses.surrendered
  erased : ∀ record ∈ uses.service.records, record.registered = false →
    ∀ thread, ∀ frame ∈ uses.callStacks thread, frame.convar = record.handle →
      frame.place.releases = true

/-! ## What is kept -/

/-- Nobody uses the record anew. -/
def Closing (uses : Uses) (convar : KeelConVarHandle) : Prop :=
  ∀ record ∈ uses.service.records, record.handle = convar → record.releaseState ≠ 0

/-- What a release counts on where it stands. -/
def Ok (uses : Uses) (frame : Frame) : Prop :=
  match frame.place with
  | .releasing .awaiting | .releasing .draining => uses.Closing frame.convar
  | .releasing .surrendering => frame.convar ∈ uses.surrendered
  | .releasing .clearing | .releasing .erasing | .releasing .finishing =>
    frame.convar ∈ uses.retired
  | _ => True

/-- Where one may stand with a record, once the adapter has been asked to release it, and once it
has released it. -/
structure Late (uses : Uses) (frame : Frame) : Prop where
  surrendered : frame.convar ∈ uses.surrendered → frame.place.looks = false ∧
    (frame.place.counts = true → frame.place.dispatches = true)
  retired : frame.convar ∈ uses.retired → frame.place.dispatches = false

structure Safe (uses : Uses) : Prop where
  sound : uses.service.Sound
  counted : ∀ record ∈ uses.service.records, Lib.Counts
    (fun thread => (uses.callStacks thread).countP (Frame.countsFor record.handle)) record.active
  provided : ∀ convar, Lib.Counts
    (fun thread => (uses.callStacks thread).countP (Frame.dispatchesFor convar))
      (uses.providerActive convar)
  known : ∀ thread, ∀ frame ∈ uses.callStacks thread,
    ∃ record ∈ uses.service.records, record.handle = frame.convar
  staged : ∀ thread, ∀ frame ∈ uses.callStacks thread, uses.Ok frame
  late : ∀ thread, ∀ frame ∈ uses.callStacks thread, uses.Late frame
  surrendered : ∀ convar ∈ uses.surrendered,
    (∃ record ∈ uses.service.records, record.handle = convar) ∧ uses.Closing convar
  retired : ∀ convar ∈ uses.retired, convar ∈ uses.surrendered
  erased : ∀ record ∈ uses.service.records, record.registered = false →
    record.handle ∈ uses.retired

variable {uses after : Uses} {thread : Nat} {frame next : Frame} {olds tops frames : List Frame}
variable {convar : KeelConVarHandle} {record : Record} {place : Place}

theorem Safe.quiet (hsafe : Safe uses) : Quiet uses where
  calls thread frame hmem hcalls hsurrendered := by
    obtain ⟨hlooks, hcounts⟩ := (hsafe.late thread frame hmem).surrendered hsurrendered
    obtain ⟨place, convar⟩ := frame
    cases place with
    | asking use => cases hlooks
    | setting => exact absurd (hcounts rfl) (by simp [Place.dispatches])
    | _ => cases hcalls
  erased record hmem hgone thread frame hframe hconvar := by
    have hretired := hsafe.erased record hmem hgone
    rw [← hconvar] at hretired
    have hlate := hsafe.late thread frame hframe
    obtain ⟨hlooks, hcounts⟩ := hlate.surrendered (hsafe.retired _ hretired)
    have hdispatches := hlate.retired hretired
    obtain ⟨place, convar⟩ := frame
    cases place with
    | releasing stage => rfl
    | looked use => cases hlooks
    | asking use => cases hlooks
    | counted => exact absurd (hcounts rfl) (by simp [Place.dispatches])
    | setting => exact absurd (hcounts rfl) (by simp [Place.dispatches])
    | _ => cases hdispatches

/-! ## A thread moves -/

/-- What may be done to the records on the way. -/
structure Renews (uses after : Uses) (olds tops : List Frame) : Prop where
  back : ∀ record ∈ after.service.records, ∃ old ∈ uses.service.records,
    old.handle = record.handle ∧
      record.active + olds.countP (Frame.countsFor record.handle) =
        old.active + tops.countP (Frame.countsFor record.handle) ∧
      (old.releaseState ≠ 0 → record.releaseState ≠ 0) ∧
      (record.registered = false → old.registered = false ∨ record.handle ∈ uses.retired)
  kept : ∀ old ∈ uses.service.records, ∃ record ∈ after.service.records,
    record.handle = old.handle
  surrendered : after.surrendered = uses.surrendered
  retired : after.retired = uses.retired

theorem Renews.closing (hrenews : Renews uses after olds tops) (hclosing : uses.Closing convar) :
    after.Closing convar := by
  intro record hmem hhandle
  obtain ⟨old, hold, hsame, _, hstate, _⟩ := hrenews.back record hmem
  exact hstate (hclosing old hold (hsame.trans hhandle))

theorem Renews.ok (hrenews : Renews uses after olds tops) (hok : uses.Ok frame) :
    after.Ok frame := by
  unfold Ok at hok ⊢
  split at hok
  · exact hrenews.closing hok
  · exact hrenews.closing hok
  · exact hrenews.surrendered ▸ hok
  · exact hrenews.retired ▸ hok
  · exact hrenews.retired ▸ hok
  · exact hrenews.retired ▸ hok
  · trivial

theorem Renews.late (hrenews : Renews uses after olds tops) (hlate : uses.Late frame) :
    after.Late frame where
  surrendered := hrenews.surrendered ▸ hlate.surrendered
  retired := hrenews.retired ▸ hlate.retired

theorem counts_moved {counts : Frame → Bool} {total total' : Nat}
    (hcounts : Lib.Counts (fun other => (uses.callStacks other).countP counts) total)
    (hstack : uses.callStacks thread = olds ++ frames)
    (hcallStacks : after.callStacks = Function.update uses.callStacks thread (tops ++ frames))
    (hmove : total' + olds.countP counts = total + tops.countP counts) :
    Lib.Counts (fun other => (after.callStacks other).countP counts) total' := by
  have hupdate : (fun other => (after.callStacks other).countP counts) =
      Function.update (fun other => (uses.callStacks other).countP counts) thread
        ((tops ++ frames).countP counts) := by
    funext other
    rw [hcallStacks]
    by_cases hother : other = thread
    · simp [hother]
    · simp [Function.update_of_ne hother]
  rw [hupdate]
  refine hcounts.update ?_
  rw [hstack, List.countP_append, List.countP_append]
  omega

/-- Who stands somewhere now, stood there before or has just come. -/
theorem mem_moved (hstack : uses.callStacks thread = olds ++ frames)
    (hcallStacks : after.callStacks = Function.update uses.callStacks thread (tops ++ frames))
    (other : Nat) (hmem : frame ∈ after.callStacks other) :
    frame ∈ tops ∨ ∃ other, frame ∈ uses.callStacks other := by
  rw [hcallStacks] at hmem
  by_cases hother : other = thread
  · subst hother
    rw [Function.update_self] at hmem
    rcases List.mem_append.1 hmem with htop | hbelow
    · exact .inl htop
    · exact .inr ⟨other, hstack ▸ List.mem_append_right _ hbelow⟩
  · rw [Function.update_of_ne hother] at hmem
    exact .inr ⟨other, hmem⟩

theorem Safe.moves (hsafe : Safe uses) (hstack : uses.callStacks thread = olds ++ frames)
    (hcallStacks : after.callStacks = Function.update uses.callStacks thread (tops ++ frames))
    (hsound : after.service.Sound) (hrenews : Renews uses after olds tops)
    (hprovided : ∀ convar, after.providerActive convar + olds.countP (Frame.dispatchesFor convar) =
      uses.providerActive convar + tops.countP (Frame.dispatchesFor convar))
    (htops : ∀ top ∈ tops, (∃ record ∈ uses.service.records, record.handle = top.convar) ∧
      after.Ok top ∧ uses.Late top) : Safe after where
  sound := hsound
  counted record hmem := by
    obtain ⟨old, hold, hsame, hmove, _⟩ := hrenews.back record hmem
    have hcounts := hsafe.counted old hold
    rw [hsame] at hcounts
    exact counts_moved hcounts hstack hcallStacks hmove
  provided convar := counts_moved (hsafe.provided convar) hstack hcallStacks (hprovided convar)
  known other frame hmem := by
    have hknown : ∃ record ∈ uses.service.records, record.handle = frame.convar := by
      rcases mem_moved hstack hcallStacks other hmem with htop | ⟨before, hbefore⟩
      · exact (htops frame htop).1
      · exact hsafe.known before frame hbefore
    obtain ⟨old, hold, hsame⟩ := hknown
    obtain ⟨record, hrecord, hhandle⟩ := hrenews.kept old hold
    exact ⟨record, hrecord, hhandle.trans hsame⟩
  staged other frame hmem := by
    rcases mem_moved hstack hcallStacks other hmem with htop | ⟨before, hbefore⟩
    · exact (htops frame htop).2.1
    · exact hrenews.ok (hsafe.staged before frame hbefore)
  late other frame hmem := by
    refine hrenews.late ?_
    rcases mem_moved hstack hcallStacks other hmem with htop | ⟨before, hbefore⟩
    · exact (htops frame htop).2.2
    · exact hsafe.late before frame hbefore
  surrendered convar hmem := by
    rw [hrenews.surrendered] at hmem
    obtain ⟨⟨old, hold, hsame⟩, hclosing⟩ := hsafe.surrendered convar hmem
    obtain ⟨record, hrecord, hhandle⟩ := hrenews.kept old hold
    exact ⟨⟨record, hrecord, hhandle.trans hsame⟩, hrenews.closing hclosing⟩
  retired convar hmem := by
    rw [hrenews.retired] at hmem
    rw [hrenews.surrendered]
    exact hsafe.retired convar hmem
  erased record hmem hgone := by
    obtain ⟨old, hold, hsame, _, _, hregistered⟩ := hrenews.back record hmem
    rw [hrenews.retired]
    rcases hregistered hgone with hgone | hretired
    · exact hsame ▸ hsafe.erased old hold hgone
    · exact hretired

/-! ## What a thread does with one record -/

theorem countP_countsFor (places : List Place) (convar other : KeelConVarHandle) :
    (places.map (⟨·, convar⟩)).countP (Frame.countsFor other) =
      if convar = other then places.countP Place.counts else 0 := by
  rw [List.countP_map]
  by_cases hsame : convar = other
  · rw [if_pos hsame]
    refine List.countP_congr fun place _ => ?_
    simp [Frame.countsFor, hsame]
  · rw [if_neg hsame, List.countP_eq_zero]
    intro place _
    simp [Frame.countsFor, hsame]

theorem countP_dispatchesFor (places : List Place) (convar other : KeelConVarHandle) :
    (places.map (⟨·, convar⟩)).countP (Frame.dispatchesFor other) =
      if convar = other then places.countP Place.dispatches else 0 := by
  rw [List.countP_map]
  by_cases hsame : convar = other
  · rw [if_pos hsame]
    refine List.countP_congr fun place _ => ?_
    simp [Frame.dispatchesFor, hsame]
  · rw [if_neg hsame, List.countP_eq_zero]
    intro place _
    simp [Frame.dispatchesFor, hsame]

variable {left come : List Place} {write : Record → Record}

theorem Safe.goes (hsafe : Safe uses)
    (hstack : uses.callStacks thread = left.map (⟨·, convar⟩) ++ frames)
    (hcallStacks : after.callStacks =
      Function.update uses.callStacks thread (come.map (⟨·, convar⟩) ++ frames))
    (hknown : ∃ record ∈ uses.service.records, record.handle = convar)
    (hsound : after.service.Sound)
    (hrecords : after.service.records = (uses.service.modify convar write).records)
    (hhandle : ∀ record, (write record).handle = record.handle)
    (hactive : ∀ record ∈ uses.service.records, record.handle = convar →
      (write record).active + left.countP Place.counts =
        record.active + come.countP Place.counts)
    (hstate : ∀ record, record.releaseState ≠ 0 → (write record).releaseState ≠ 0)
    (hregistered : ∀ record, (write record).registered = false →
      record.registered = false ∨ convar ∈ uses.retired)
    (hprovides : after.providerActive convar + left.countP Place.dispatches =
      uses.providerActive convar + come.countP Place.dispatches)
    (hothers : ∀ other, other ≠ convar → after.providerActive other = uses.providerActive other)
    (hsurrendered : after.surrendered = uses.surrendered) (hretired : after.retired = uses.retired)
    (hcome : ∀ place ∈ come, after.Ok ⟨place, convar⟩ ∧ uses.Late ⟨place, convar⟩) :
    Safe after := by
  have hrenews : Renews uses after (left.map (⟨·, convar⟩)) (come.map (⟨·, convar⟩)) := by
    refine ⟨fun record hmem => ?_, fun old hold => ?_, hsurrendered, hretired⟩
    · rw [hrecords] at hmem
      obtain ⟨old, hold, rfl⟩ := List.mem_map.1 hmem
      refine ⟨old, hold, ?_⟩
      rw [countP_countsFor, countP_countsFor]
      by_cases hmine : old.handle = convar
      · rw [if_pos hmine]
        have hsame : convar = (write old).handle := (hhandle old).symm ▸ hmine.symm
        rw [if_pos hsame, if_pos hsame]
        exact ⟨(hhandle old).symm, hactive old hold hmine, hstate old,
          fun hgone => (hregistered old hgone).imp_right fun hmem => hsame ▸ hmem⟩
      · rw [if_neg hmine]
        rw [if_neg (Ne.symm hmine), if_neg (Ne.symm hmine)]
        exact ⟨rfl, rfl, id, .inl⟩
    · rw [hrecords]
      refine ⟨_, List.mem_map_of_mem hold, ?_⟩
      split
      · exact hhandle old
      · rfl
  refine hsafe.moves hstack hcallStacks hsound hrenews (fun other => ?_) fun top hmem => ?_
  · rw [countP_dispatchesFor, countP_dispatchesFor]
    by_cases hmine : other = convar
    · rw [if_pos hmine.symm, if_pos hmine.symm, hmine]
      exact hprovides
    · rw [if_neg (Ne.symm hmine), if_neg (Ne.symm hmine), hothers other hmine]
  · obtain ⟨place, hplace, rfl⟩ := List.mem_map.1 hmem
    exact ⟨hknown, hcome place hplace⟩

theorem records_modify_id (service : ConVarService) (convar : KeelConVarHandle) :
    (service.modify convar id).records = service.records := by
  refine (List.map_congr_left fun record _ => ?_).trans (List.map_id _)
  split <;> rfl

theorem Safe.walks (hsafe : Safe uses)
    (hstack : uses.callStacks thread = left.map (⟨·, convar⟩) ++ frames)
    (hcallStacks : after.callStacks =
      Function.update uses.callStacks thread (come.map (⟨·, convar⟩) ++ frames))
    (hknown : ∃ record ∈ uses.service.records, record.handle = convar)
    (hservice : after.service = uses.service)
    (hprovider : after.providerActive = uses.providerActive)
    (hcounts : left.countP Place.counts = come.countP Place.counts)
    (hdispatches : left.countP Place.dispatches = come.countP Place.dispatches)
    (hsurrendered : after.surrendered = uses.surrendered) (hretired : after.retired = uses.retired)
    (hcome : ∀ place ∈ come, after.Ok ⟨place, convar⟩ ∧ uses.Late ⟨place, convar⟩) :
    Safe after := by
  have hrecords : after.service.records = (uses.service.modify convar id).records := by
    rw [hservice, records_modify_id]
  have hactive : ∀ record ∈ uses.service.records, record.handle = convar →
      (id record).active + left.countP Place.counts =
        record.active + come.countP Place.counts := by
    intro record _ _
    rw [hcounts]
    rfl
  exact hsafe.goes hstack hcallStacks hknown (hservice ▸ hsafe.sound) hrecords (fun _ => rfl)
    hactive (fun _ => id) (fun _ => .inl) (by rw [hprovider, hdispatches])
    (fun other _ => by rw [hprovider]) hsurrendered hretired hcome

theorem mem_of_record {service : ConVarService} (hrecord : service.record convar = some record) :
    record ∈ service.records ∧ record.handle = convar := by
  unfold ConVarService.record at hrecord
  exact ⟨List.mem_of_find?_eq_some hrecord, by simpa using List.find?_some hrecord⟩

theorem Safe.record_eq (hsafe : Safe uses) (hmem : record ∈ uses.service.records)
    (hhandle : record.handle = convar) : uses.service.record convar = some record := by
  have hdistinct : (uses.service.records.map Record.handle).Nodup := by
    have hmapped := hsafe.sound.distinct
    unfold ConVarService.entries at hmapped
    rwa [List.map_map] at hmapped
  rw [← hhandle]
  exact Lib.find_of_distinct hdistinct hmem

theorem Safe.closing_of_record (hsafe : Safe uses)
    (hrecord : uses.service.record convar = some record)
    (hstate : record.releaseState ≠ 0) : uses.Closing convar := by
  intro other hmem hhandle
  have hsame : some other = some record := (hsafe.record_eq hmem hhandle).symm.trans hrecord
  cases hsame
  exact hstate

/-! ## A thread goes on -/

theorem Safe.stands (hsafe : Safe uses)
    (hstack : uses.callStacks thread = ⟨place, convar⟩ :: frames) :
    (∃ record ∈ uses.service.records, record.handle = convar) ∧ uses.Ok ⟨place, convar⟩ ∧
      uses.Late ⟨place, convar⟩ := by
  have hmem : (⟨place, convar⟩ : Frame) ∈ uses.callStacks thread := by
    rw [hstack]
    exact List.mem_cons_self
  exact ⟨hsafe.known thread _ hmem, hsafe.staged thread _ hmem, hsafe.late thread _ hmem⟩

theorem Safe.active_pos (hsafe : Safe uses)
    (hstack : uses.callStacks thread = ⟨place, convar⟩ :: frames) (hcounts : place.counts = true)
    (hmem : record ∈ uses.service.records) (hhandle : record.handle = convar) :
    1 ≤ record.active := by
  have hle := (hsafe.counted record hmem).le thread
  have hone : 0 < (uses.callStacks thread).countP (Frame.countsFor record.handle) := by
    rw [List.countP_pos_iff]
    exact ⟨⟨place, convar⟩, by simp [hstack], by simp [Frame.countsFor, hcounts, hhandle]⟩
  omega

theorem Safe.provider_pos (hsafe : Safe uses)
    (hstack : uses.callStacks thread = ⟨place, convar⟩ :: frames)
    (hdispatches : place.dispatches = true) : 1 ≤ uses.providerActive convar := by
  have hle := (hsafe.provided convar).le thread
  have hone : 0 < (uses.callStacks thread).countP (Frame.dispatchesFor convar) := by
    rw [List.countP_pos_iff]
    exact ⟨⟨place, convar⟩, by simp [hstack], by simp [Frame.dispatchesFor, hdispatches]⟩
  omega

theorem ok_of_calm {place : Place} (hcalm : place.releases = false) : uses.Ok ⟨place, convar⟩ := by
  cases place with
  | releasing stage => cases hcalm
  | _ => trivial

theorem late_of_release {stage : Stage} : uses.Late ⟨.releasing stage, convar⟩ where
  surrendered _ := ⟨rfl, fun hcounts => by cases hcounts⟩
  retired _ := rfl

theorem Safe.not_surrendered (hsafe : Safe uses)
    (hstack : uses.callStacks thread = ⟨place, convar⟩ :: frames) (hlooks : place.looks = true) :
    convar ∉ uses.surrendered := by
  intro hsurrendered
  obtain ⟨hcalm, _⟩ := (hsafe.stands hstack).2.2.surrendered hsurrendered
  exact absurd hcalm (by simp [hlooks])

theorem Safe.late_of_fresh (hsafe : Safe uses) (hfresh : convar ∉ uses.surrendered) :
    uses.Late ⟨place, convar⟩ where
  surrendered hmem := absurd hmem hfresh
  retired hmem := absurd (hsafe.retired convar hmem) hfresh

theorem Safe.surrenders (hsafe : Safe uses)
    (hknown : ∃ record ∈ uses.service.records, record.handle = convar)
    (hclosing : uses.Closing convar)
    (hunused : ∀ thread, ∀ frame ∈ uses.callStacks thread, frame.convar = convar →
      frame.place.looks = false ∧ frame.place.counts = false) :
    Safe { uses with surrendered := convar :: uses.surrendered } where
  sound := hsafe.sound
  counted := hsafe.counted
  provided := hsafe.provided
  known := hsafe.known
  staged thread frame hmem := by
    have hok := hsafe.staged thread frame hmem
    unfold Ok at hok ⊢
    split at hok
    · exact hok
    · exact hok
    · exact List.mem_cons_of_mem _ hok
    · exact hok
    · exact hok
    · exact hok
    · trivial
  late thread frame hmem := by
    have hlate := hsafe.late thread frame hmem
    refine ⟨fun hsurrendered => ?_, hlate.retired⟩
    rcases List.mem_cons.1 hsurrendered with hmine | hbefore
    · obtain ⟨hlooks, hcounts⟩ := hunused thread frame hmem hmine
      exact ⟨hlooks, fun hcounted => absurd hcounts (by simp [hcounted])⟩
    · exact hlate.surrendered hbefore
  surrendered other hmem := by
    rcases List.mem_cons.1 hmem with rfl | hbefore
    · exact ⟨hknown, hclosing⟩
    · exact hsafe.surrendered other hbefore
  retired other hmem := List.mem_cons_of_mem _ (hsafe.retired other hmem)
  erased := hsafe.erased

theorem Safe.retires (hsafe : Safe uses) (hsurrendered : convar ∈ uses.surrendered)
    (hidle : uses.providerActive convar = 0) :
    Safe { uses with retired := convar :: uses.retired } where
  sound := hsafe.sound
  counted := hsafe.counted
  provided := hsafe.provided
  known := hsafe.known
  staged thread frame hmem := by
    have hok := hsafe.staged thread frame hmem
    unfold Ok at hok ⊢
    split at hok
    · exact hok
    · exact hok
    · exact hok
    · exact List.mem_cons_of_mem _ hok
    · exact List.mem_cons_of_mem _ hok
    · exact List.mem_cons_of_mem _ hok
    · trivial
  late thread frame hmem := by
    have hlate := hsafe.late thread frame hmem
    refine ⟨hlate.surrendered, fun hretired => ?_⟩
    rcases List.mem_cons.1 hretired with hmine | hbefore
    · have hnobody := hsafe.provided convar
      rw [hidle] at hnobody
      have hnone := List.countP_eq_zero.1 (hnobody.none thread) frame hmem
      simpa [Frame.dispatchesFor, hmine] using hnone
    · exact hlate.retired hbefore
  surrendered := hsafe.surrendered
  retired other hmem := by
    rcases List.mem_cons.1 hmem with rfl | hbefore
    · exact hsurrendered
    · exact hsafe.retired other hbefore
  erased record hmem hgone := List.mem_cons_of_mem _ (hsafe.erased record hmem hgone)

theorem Safe.unused (hsafe : Safe uses) (hmem : record ∈ uses.service.records)
    (hidle : record.active = 0) : ∀ thread, ∀ frame ∈ uses.callStacks thread,
      frame.convar = record.handle → frame.place.counts = false := by
  intro thread frame hframe hmine
  have hnobody := hsafe.counted record hmem
  rw [hidle] at hnobody
  have hnone := List.countP_eq_zero.1 (hnobody.none thread) frame hframe
  simpa [Frame.countsFor, hmine] using hnone

theorem records_eraseRecord {service : ConVarService}
    (hrecord : service.record convar = some record) :
    (service.eraseRecord convar).records =
      (service.modify convar fun record => { record with registered := false }).records := by
  simp only [ConVarService.eraseRecord, hrecord]
  split
  · rfl
  · rfl

theorem Safe.releases (hsafe : Safe uses) {stage : Stage}
    (hstack : uses.callStacks thread = ⟨.releasing stage, convar⟩ :: frames) (answer : Bool)
    (hclear : ∀ convar, uses.surrenders thread = some convar → ∀ other,
      ∀ frame ∈ uses.callStacks other, frame.convar = convar → frame.place.looks = false) :
    Safe (uses.go thread answer) := by
  obtain ⟨hknown, hok, _⟩ := hsafe.stands hstack
  obtain ⟨record, hmem, hhandle⟩ := hknown
  have hrecord := hsafe.record_eq hmem hhandle
  have hknown : ∃ record ∈ uses.service.records, record.handle = convar := ⟨record, hmem, hhandle⟩
  have hpops : Safe (uses.setStack thread frames) :=
    @Safe.walks uses _ thread frames convar [.releasing stage] []
      hsafe hstack rfl hknown rfl rfl rfl rfl
      rfl rfl (fun _ hplace => by cases hplace)
  -- A release that only comes further is counted nowhere.
  have hcomes : ∀ {before : Uses} {stage next : Stage}, Safe before →
      before.callStacks thread = ⟨.releasing stage, convar⟩ :: frames →
      (∃ record ∈ before.service.records, record.handle = convar) →
      before.Ok ⟨.releasing next, convar⟩ →
      Safe (before.setStack thread (⟨.releasing next, convar⟩ :: frames)) := by
    intro before stage next hbefore hstack hknown hok
    refine @Safe.walks before _ thread frames convar [.releasing stage] [.releasing next] hbefore
      hstack rfl hknown rfl rfl rfl rfl rfl rfl fun place hplace => ?_
    obtain rfl := List.mem_singleton.1 hplace
    exact ⟨hok, late_of_release⟩
  unfold go
  rw [hstack]
  simp only [hrecord]
  cases stage with
  | asked =>
    simp only
    split
    · exact hpops
    split
    · next hstate => exact hcomes hsafe hstack hknown (hsafe.closing_of_record hrecord hstate)
    · refine @Safe.goes uses _ thread frames convar [.releasing .asked] [.releasing .draining]
        (fun record => { record with releaseState := 1, enabled := false }) hsafe hstack rfl hknown
        ?_ rfl (fun _ => rfl) (fun _ _ _ => rfl) (fun _ _ => Nat.one_ne_zero) (fun _ => .inl) rfl
        (fun _ _ => rfl) rfl rfl fun place hplace => ?_
      · exact hsafe.sound.of_same (ConVarService.entries_modify _ fun _ => rfl) rfl rfl
      · obtain rfl := List.mem_singleton.1 hplace
        refine ⟨fun other hother hsame => ?_, late_of_release⟩
        obtain ⟨old, _, rfl⟩ := List.mem_map.1 hother
        by_cases hmine : old.handle = convar
        · simp [hmine]
        · rw [if_neg hmine] at hsame
          exact absurd hsame hmine
  | awaiting =>
    simp only
    split
    · exact hsafe
    · exact hpops
  | draining =>
    simp only
    split
    · exact hsafe
    · next hidle =>
      have hidle : record.active = 0 := not_not.1 hidle
      have hasks : uses.surrenders thread = some convar := by
        simp [Uses.surrenders, hstack, hrecord, hidle]
      have hsurrendered := hsafe.surrenders hknown hok fun other frame hframe hmine =>
        ⟨hclear convar hasks other frame hframe hmine,
          hsafe.unused hmem hidle other frame hframe (hmine.trans hhandle.symm)⟩
      exact hcomes hsurrendered hstack hknown List.mem_cons_self
  | surrendering =>
    simp only
    split
    · exact hsafe
    · next hidle =>
      exact hcomes (hsafe.retires hok (not_not.1 hidle)) hstack hknown List.mem_cons_self
  | clearing =>
    simp only
    split
    · exact hsafe
    · exact hcomes hsafe hstack hknown hok
  | erasing =>
    refine @Safe.goes uses _ thread frames convar [.releasing .erasing] [.releasing .finishing]
      (fun record => { record with registered := false }) hsafe hstack rfl hknown
      (hsafe.sound.eraseRecord convar) (records_eraseRecord hrecord) (fun _ => rfl)
      (fun _ _ _ => rfl) (fun _ => id) (fun _ _ => .inr hok) rfl (fun _ _ => rfl) rfl rfl
      fun place hplace => ?_
    obtain rfl := List.mem_singleton.1 hplace
    exact ⟨hok, late_of_release⟩
  | finishing =>
    refine @Safe.goes uses _ thread frames convar [.releasing .finishing] []
      (fun record => { record with releaseState := 2 }) hsafe hstack rfl hknown ?_ rfl
      (fun _ => rfl) (fun _ _ _ => rfl) (fun _ _ => by simp) (fun _ => .inl) rfl
      (fun _ _ => rfl) rfl rfl fun place hplace => by cases hplace
    exact hsafe.sound.of_same (ConVarService.entries_modify _ fun _ => rfl) rfl rfl

theorem go_safe (hsafe : Safe uses) (thread : Nat) (answer : Bool)
    (hclear : ∀ convar, uses.surrenders thread = some convar → ∀ other,
      ∀ frame ∈ uses.callStacks other, frame.convar = convar → frame.place.looks = false) :
    Safe (uses.go thread answer) := by
  cases hstack : uses.callStacks thread with
  | nil =>
    simp only [go, hstack]
    exact hsafe
  | cons frame frames =>
    obtain ⟨place, convar⟩ := frame
    obtain ⟨hknown, _, hlate⟩ := hsafe.stands hstack
    -- What is counted in the record and by the adapter is written with the step.
    have hcounts : ∀ {after : Uses} {come : List Place} (change : Nat → Nat),
        after.callStacks =
          Function.update uses.callStacks thread (come.map (⟨·, convar⟩) ++ frames) →
        after.service = (uses.count convar change).service →
        (∀ record ∈ uses.service.records, record.handle = convar →
          change record.active + [place].countP Place.counts =
            record.active + come.countP Place.counts) →
        after.providerActive convar + [place].countP Place.dispatches =
          uses.providerActive convar + come.countP Place.dispatches →
        (∀ other, other ≠ convar → after.providerActive other = uses.providerActive other) →
        after.surrendered = uses.surrendered → after.retired = uses.retired →
        (∀ place ∈ come, after.Ok ⟨place, convar⟩ ∧ uses.Late ⟨place, convar⟩) → Safe after := by
      intro after come change hcallStacks hservice hactive hprovides hothers hsurrendered hretired
        hcome
      refine @Safe.goes uses after thread frames convar [place] come
        (fun record => { record with active := change record.active }) hsafe hstack hcallStacks
        hknown ?_ (hservice ▸ rfl) (fun _ => rfl) hactive (fun _ => id) (fun _ => .inl) hprovides
        hothers hsurrendered hretired hcome
      rw [hservice]
      exact hsafe.sound.of_same (ConVarService.entries_modify _ fun _ => rfl) rfl rfl
    have hcalm : ∀ {next : Place}, next.releases = false → uses.Late ⟨next, convar⟩ →
        ∀ place ∈ [next], uses.Ok ⟨place, convar⟩ ∧ uses.Late ⟨place, convar⟩ := by
      intro next hcalm hlate place hplace
      obtain rfl := List.mem_singleton.1 hplace
      exact ⟨ok_of_calm hcalm, hlate⟩
    have hpos : place.counts = true → ∀ record ∈ uses.service.records, record.handle = convar →
        record.active - 1 + 1 = record.active := fun hcounts record hmem hhandle =>
      Nat.sub_add_cancel (hsafe.active_pos hstack hcounts hmem hhandle)
    cases place with
    | looked use =>
      simp only [go, hstack]
      exact @Safe.walks uses _ thread frames convar [.looked use] [.asking use]
        hsafe hstack rfl hknown
        rfl rfl rfl rfl rfl rfl
        (hcalm rfl (hsafe.late_of_fresh (hsafe.not_surrendered hstack rfl)))
    | asking use =>
      have hfresh := hsafe.not_surrendered hstack rfl
      simp only [go, hstack]
      split
      · exact @hcounts _ [.counted] (· + 1) rfl rfl (fun _ _ _ => rfl) rfl (fun _ _ => rfl) rfl rfl
          fun place hplace => by
            obtain rfl := List.mem_singleton.1 hplace
            exact ⟨trivial, hsafe.late_of_fresh hfresh⟩
      · exact @Safe.walks uses _ thread frames convar [.asking use] [] hsafe hstack rfl hknown
          rfl rfl rfl rfl rfl rfl (fun _ hplace => by cases hplace)
    | counted =>
      simp only [go, hstack]
      refine @Safe.walks uses _ thread frames convar [.counted] [.setting] hsafe hstack rfl hknown
        rfl rfl rfl rfl rfl rfl (hcalm rfl ⟨fun hmem => ?_, fun hmem => ?_⟩)
      · exact absurd ((hlate.surrendered hmem).2 rfl) (by simp [Place.dispatches])
      · rfl
    | setting =>
      simp only [go, hstack]
      exact @hcounts _ [] (· - 1) rfl rfl (hpos rfl) rfl (fun _ _ => rfl) rfl rfl
        fun place hplace => by cases hplace
    | arrived native =>
      simp only [go, hstack]
      split
      · refine @hcounts _ [.entered native] (· + 1) rfl rfl (fun _ _ _ => rfl) rfl
          (fun _ _ => rfl) rfl
          rfl fun place hplace => ?_
        obtain rfl := List.mem_singleton.1 hplace
        exact ⟨trivial, fun _ => ⟨rfl, fun _ => rfl⟩,
          fun hmem => absurd (hlate.retired hmem) (by simp [Place.dispatches])⟩
      · have hprovides := hsafe.provider_pos hstack rfl
        refine @Safe.goes uses _ thread frames convar [.arrived native] []
          id hsafe hstack rfl hknown
          hsafe.sound (records_modify_id _ _).symm (fun _ => rfl) (fun _ _ _ => rfl) (fun _ => id)
          (fun _ => .inl) ?_ (fun other hother => ?_) rfl rfl fun place hplace => by cases hplace
        · simp [provide, setStack, Place.dispatches]
          omega
        · simp [provide, setStack, Function.update_of_ne hother]
    | entered native =>
      have hgoes : ∀ next : Place, next.releases = false → next.looks = false →
          next.counts = true → next.dispatches = true →
          Safe (uses.setStack thread (⟨next, convar⟩ :: frames)) := by
        intro next hreleases hlooks hcounted hdispatches
        refine @Safe.walks uses _ thread frames convar [.entered native] [next]
          hsafe hstack rfl hknown
          rfl rfl ?_ ?_ rfl rfl (hcalm hreleases ⟨fun _ => ?_, fun hmem => ?_⟩)
        · rw [List.countP_cons_of_pos (by rfl), List.countP_cons_of_pos hcounted]
        · rw [List.countP_cons_of_pos (by rfl), List.countP_cons_of_pos hdispatches]
        · exact ⟨hlooks, fun _ => hdispatches⟩
        · exact absurd (hlate.retired hmem) (by simp [Place.dispatches])
      simp only [go, hstack]
      split
      · exact hgoes .changing rfl rfl rfl rfl
      · exact hgoes .leaving rfl rfl rfl rfl
    | leaving =>
      have hprovides := hsafe.provider_pos hstack rfl
      simp only [go, hstack]
      refine @hcounts _ [] (· - 1) rfl rfl (hpos rfl) ?_ (fun other hother => ?_) rfl rfl
        fun place hplace => by cases hplace
      · simp [provide, count, setStack, Place.dispatches]
        omega
      · simp [provide, count, setStack, Function.update_of_ne hother]
    | changing =>
      have hprovides := hsafe.provider_pos hstack rfl
      simp only [go, hstack]
      refine @hcounts _ [] (· - 1) rfl rfl (hpos rfl) ?_ (fun other hother => ?_) rfl rfl
        fun place hplace => by cases hplace
      · simp [provide, count, setStack, Place.dispatches]
        omega
      · simp [provide, count, setStack, Function.update_of_ne hother]
    | releasing stage => exact hsafe.releases hstack answer hclear

/-! ## A new record -/

/-- The records stay, or one comes to them that nobody has a handle of. -/
def Grows (service after : ConVarService) : Prop :=
  after.records = service.records ∨ ∃ record : Record,
    after.records = service.records ++ [record] ∧ service.nextConvar ≠ 0 ∧
      record.handle = service.nextConvar ∧ record.active = 0 ∧ record.registered = true

theorem createImpl_grows (service : ConVarService) (client : Client) (spec : Option KeelConVarSpec)
    (callback nativeCallback : Option Nat) (userData : Nat) (output : Bool) (lookup : KeelResult)
    (answer : GameAnswer) :
    Grows service (service.createImpl client spec callback nativeCallback userData output lookup
      answer).1 := by
  cases spec with
  | none => exact .inl rfl
  | some spec =>
    simp only [ConVarService.createImpl]
    split
    · exact .inl rfl
    split
    · exact .inl rfl
    split
    · exact .inl rfl
    split
    · exact .inl rfl
    split
    · exact .inl rfl
    · next hnext =>
      split
      · exact .inl rfl
      · split
        · exact .inl rfl
        · exact .inr ⟨_, rfl, hnext, rfl, rfl, rfl⟩

theorem findImpl_grows (service : ConVarService) (client : Client) (name : Option Text)
    (expectedType : KeelConVarType) (output : Bool) (answer : GameAnswer) :
    Grows service (service.findImpl client name expectedType output answer).1 := by
  unfold ConVarService.findImpl
  split
  · exact .inl rfl
  split
  · exact .inl rfl
  split
  · exact .inl rfl
  split
  · exact .inl rfl
  · next hopen =>
    simp only
    split
    · exact .inl rfl
    · refine .inr ⟨_, rfl, fun hnext => hopen ?_, rfl, rfl, rfl⟩
      simp [hnext]

theorem Safe.grows (hsafe : Safe uses) {service : ConVarService} (hsound : service.Sound)
    (hgrows : Grows uses.service service) : Safe { uses with service := service } := by
  rcases hgrows with hrecords | ⟨record, hrecords, hnext, hhandle, hactive, hregistered⟩
  · refine ⟨hsound, ?_, hsafe.provided, ?_, fun thread frame hmem => ?_,
      fun thread frame hmem => ?_,
      ?_, hsafe.retired, ?_⟩
    · exact hrecords ▸ hsafe.counted
    · exact hrecords ▸ hsafe.known
    · have hok := hsafe.staged thread frame hmem
      unfold Ok Closing at hok ⊢
      rw [hrecords]
      exact hok
    · exact ⟨(hsafe.late thread frame hmem).surrendered, (hsafe.late thread frame hmem).retired⟩
    · unfold Closing
      simp only [hrecords]
      exact hsafe.surrendered
    · exact hrecords ▸ hsafe.erased
  -- Nobody knows the handle yet.
  have hfresh : ∀ old ∈ uses.service.records, old.handle ≠ record.handle := by
    intro old hmem
    have hissued := (hsafe.sound.issued _ (List.mem_map_of_mem hmem)).2.resolve_left hnext
    rw [hhandle]
    exact Nat.ne_of_lt hissued
  have hmem_records : ∀ {other : Record}, other ∈ service.records →
      other ∈ uses.service.records ∨ other = record := by
    intro other hmem
    rw [hrecords, List.mem_append, List.mem_singleton] at hmem
    exact hmem
  have hclosing : ∀ {convar : KeelConVarHandle},
      (∃ record ∈ uses.service.records, record.handle = convar) → uses.Closing convar →
        ({ uses with service := service } : Uses).Closing convar := by
    rintro convar ⟨known, hknown, hsame⟩ hcloses other hmem hother
    rcases hmem_records hmem with hold | rfl
    · exact hcloses other hold hother
    · exact absurd (hsame.trans hother.symm) (hfresh known hknown)
  refine ⟨hsound, fun other hmem => ?_, hsafe.provided, fun thread frame hmem => ?_,
    fun thread frame hmem => ?_, fun thread frame hmem => ?_, fun convar hmem => ?_, hsafe.retired,
    fun other hmem hgone => ?_⟩
  · rcases hmem_records hmem with hold | rfl
    · exact hsafe.counted other hold
    · have hnobody : (fun thread => (uses.callStacks thread).countP
        (Frame.countsFor other.handle)) =
          fun _ => 0 := by
        funext thread
        rw [List.countP_eq_zero]
        intro frame hframe hcounts
        obtain ⟨known, hknown, hsame⟩ := hsafe.known thread frame hframe
        have hmine : frame.convar = other.handle := by
          simp only [Frame.countsFor, Bool.and_eq_true, beq_iff_eq] at hcounts
          exact hcounts.2
        exact hfresh known hknown (hsame.trans hmine)
      rw [hactive]
      show Lib.Counts (fun thread => (uses.callStacks thread).countP
        (Frame.countsFor other.handle)) 0
      rw [hnobody]
      exact Lib.counts_zero
  · obtain ⟨old, hold, hsame⟩ := hsafe.known thread frame hmem
    exact ⟨old, hrecords ▸ List.mem_append_left _ hold, hsame⟩
  · have hok := hsafe.staged thread frame hmem
    have hknown := hsafe.known thread frame hmem
    unfold Ok at hok ⊢
    split at hok
    · exact hclosing hknown hok
    · exact hclosing hknown hok
    · exact hok
    · exact hok
    · exact hok
    · exact hok
    · trivial
  · exact ⟨(hsafe.late thread frame hmem).surrendered, (hsafe.late thread frame hmem).retired⟩
  · obtain ⟨⟨old, hold, hsame⟩, hcloses⟩ := hsafe.surrendered convar hmem
    exact ⟨⟨old, hrecords ▸ List.mem_append_left _ hold, hsame⟩, hclosing
      ⟨old, hold, hsame⟩ hcloses⟩
  · rcases hmem_records hmem with hold | rfl
    · exact hsafe.erased other hold hgone
    · exact absurd hregistered (by simp [hgone])

/-! ## Runs -/

theorem Safe.enables (hsafe : Safe uses) (plugin : KeelPluginHandle) (enabled : Bool) :
    Safe { uses with service := uses.service.enable plugin enabled } := by
  have hwritten : ∀ record ∈ (uses.service.enable plugin enabled).records,
      ∃ old ∈ uses.service.records, record = { old with enabled := record.enabled } := by
    intro record hmem
    obtain ⟨old, hold, rfl⟩ := List.mem_map.1 hmem
    refine ⟨old, hold, ?_⟩
    split
    · rfl
    · rfl
  have hrenews : Renews uses { uses with service := uses.service.enable plugin enabled } [] [] := by
    refine ⟨fun record hmem => ?_, fun old hold => ?_, rfl, rfl⟩
    · obtain ⟨old, hold, hsame⟩ := hwritten record hmem
      rw [hsame]
      exact ⟨old, hold, rfl, rfl, id, .inl⟩
    · refine ⟨_, List.mem_map_of_mem hold, ?_⟩
      split
      · rfl
      · rfl
  refine @Safe.moves uses _ 0 [] [] (uses.callStacks 0) hsafe rfl ?_
    (hsafe.sound.enable plugin enabled)
    hrenews (fun _ => rfl) fun _ hmem => by cases hmem
  exact (Function.update_eq_self 0 uses.callStacks).symm

theorem Safe.holds (hsafe : Safe uses) (holder : Option (Nat × Nat)) :
    Safe { uses with holder := holder } where
  sound := hsafe.sound
  counted := hsafe.counted
  provided := hsafe.provided
  known := hsafe.known
  staged := hsafe.staged
  late thread frame hmem := ⟨(hsafe.late thread frame hmem).surrendered,
    (hsafe.late thread frame hmem).retired⟩
  surrendered := hsafe.surrendered
  retired := hsafe.retired
  erased := hsafe.erased

theorem Safe.begins_release (hsafe : Safe uses) (thread : Nat)
    (hknown : ∃ record ∈ uses.service.records, record.handle = convar) :
    Safe (uses.setStack thread (⟨.releasing .asked, convar⟩ :: uses.callStacks thread)) := by
  refine @Safe.walks uses _ thread (uses.callStacks thread) convar [] [.releasing .asked]
    hsafe rfl rfl
    hknown rfl rfl rfl rfl rfl rfl fun place hplace => ?_
  obtain rfl := List.mem_singleton.1 hplace
  exact ⟨trivial, late_of_release⟩

theorem step_safe (hsafe : Safe uses) {act : Act} (hclear : uses.Clear act) :
    Safe (uses.step act) := by
  cases act with
  | use thread use client convar formed =>
    simp only [step]
    split
    · next hadmits =>
      simp only [Bool.and_eq_true] at hadmits
      have hadmitted := hadmits.2
      simp only [admits, Bool.and_eq_true, Option.any_eq_true] at hadmitted
      obtain ⟨record, howned, hstate⟩ := hadmitted.2
      have hfound : uses.service.find convar = some record := by
        unfold ConVarService.ownedRecord at howned
        split at howned
        · cases howned
        · exact (Option.filter_eq_some_iff.1 howned).1
      have hmem : record ∈ uses.service.records := List.mem_of_find?_eq_some hfound
      have hhandle : record.handle = convar := by
        have hmatches := List.find?_some hfound
        simp only [Bool.and_eq_true, beq_iff_eq] at hmatches
        exact hmatches.2
      have hfresh : convar ∉ uses.surrendered := by
        intro hsurrendered
        exact (hsafe.surrendered convar hsurrendered).2 record hmem hhandle (by simpa using hstate)
      refine @Safe.walks uses _ thread (uses.callStacks thread) convar [] [.looked use]
        hsafe rfl rfl
        ⟨record, hmem, hhandle⟩ rfl rfl rfl rfl rfl rfl fun place hplace => ?_
      obtain rfl := List.mem_singleton.1 hplace
      exact ⟨trivial, hsafe.late_of_fresh hfresh⟩
    · exact hsafe
  | create thread client spec output lookup answer =>
    simp only [step]
    split
    · exact hsafe.grows (hsafe.sound.createImpl _ _ _ _ _ _ _ _)
        (createImpl_grows _ _ _ _ _ _ _ _ _)
    · exact hsafe
  | createNative thread client spec callback userData output lookup answer =>
    simp only [step]
    split
    · unfold ConVarService.createNative
      split
      · exact hsafe
      · exact hsafe.grows (hsafe.sound.createImpl _ _ _ _ _ _ _ _)
          (createImpl_grows _ _ _ _ _ _ _ _ _)
    · exact hsafe
  | find thread client name expectedType output answer =>
    simp only [step]
    split
    · exact hsafe.grows (hsafe.sound.findImpl _ _ _ _ _) (findImpl_grows _ _ _ _ _ _)
    · exact hsafe
  | release thread client convar =>
    simp only [step]
    split
    · next hallowed =>
      simp only [Bool.and_eq_true] at hallowed
      obtain ⟨record, howned⟩ := Option.isSome_iff_exists.1 hallowed.2
      have hfound : uses.service.find convar = some record := by
        unfold ConVarService.ownedRecord at howned
        split at howned
        · cases howned
        · exact (Option.filter_eq_some_iff.1 howned).1
      have hmatches := List.find?_some hfound
      simp only [Bool.and_eq_true, beq_iff_eq] at hmatches
      exact hsafe.begins_release thread ⟨record, List.mem_of_find?_eq_some hfound, hmatches.2⟩
    · exact hsafe
  | releaseRecord thread convar =>
    simp only [step]
    split
    · next hallowed =>
      simp only [Bool.and_eq_true] at hallowed
      obtain ⟨record, hrecord⟩ := Option.isSome_iff_exists.1 hallowed.2
      exact hsafe.begins_release thread ⟨record, mem_of_record hrecord⟩
    · exact hsafe
  | change thread native convar =>
    simp only [step]
    split
    · next hallowed =>
      simp only [Bool.and_eq_true, decide_eq_true_eq, Option.any_eq_true] at hallowed
      obtain ⟨⟨_, record, hrecord, _⟩, hpresent⟩ := hallowed
      refine @Safe.goes uses _ thread (uses.callStacks thread) convar [] [.arrived native]
        id hsafe rfl
        rfl ⟨record, mem_of_record hrecord⟩ hsafe.sound (records_modify_id _ _).symm (fun _ => rfl)
        (fun _ _ _ => rfl) (fun _ => id) (fun _ => .inl) ?_ (fun other hother => ?_) rfl rfl
        fun place hplace => ?_
      · simp [provide, setStack, Place.dispatches]
      · simp [provide, setStack, Function.update_of_ne hother]
      · obtain rfl := List.mem_singleton.1 hplace
        exact ⟨trivial, fun _ => ⟨rfl, fun hcounts => by cases hcounts⟩,
          fun hretired => absurd hretired hpresent⟩
    · exact hsafe
  | go thread answer => exact go_safe hsafe thread answer hclear
  | enable plugin enabled => exact hsafe.enables plugin enabled
  | hold thread =>
    simp only [step]
    split
    · exact hsafe.holds _
    · exact hsafe
  | drop thread =>
    simp only [step]
    split
    · exact hsafe.holds _
    · exact hsafe

theorem initial_safe : Safe initial where
  sound := ConVarService.initial_sound
  counted record hmem := by cases hmem
  provided convar := Lib.counts_zero
  known thread frame hmem := by cases hmem
  staged thread frame hmem := by cases hmem
  late thread frame hmem := by cases hmem
  surrendered convar hmem := by cases hmem
  retired convar hmem := by cases hmem
  erased record hmem := by cases hmem

/-- As long as the adapter's release of a record begins only when nobody has looked at its
`release_state` and waits for the adapter, no other operation calls the adapter on it from then on,
and a record that goes is out of use. -/
theorem quiet_if_clear {acts : List Act} (hclear : Heeds step Clear initial acts) :
    Quiet (run step initial acts) := by
  have hstep : ∀ (uses : Uses) (act : Act), Safe uses → uses.Clear act → Safe (uses.step act) :=
    fun _ _ hsafe hclear => step_safe hsafe hclear
  exact (Heeds.invariant hstep initial_safe hclear).quiet

/-- `Describe` looks, the release of the record comes to the adapter, and `Describe` asks it. -/
def overtaken : List Act :=
  [.create 1 ConVarService.running (some (ConVarService.switch 1)) true .notFound ⟨.ok, 1, none⟩,
    .release 2 ConVarService.running 1,
    .use 1 .describe ConVarService.running 1 true,
    .go 2 true, .go 2 true, .go 1 true]

theorem overtaken_asks : ¬∀ acts, Quiet (run step initial acts) := by
  intro hquiet
  have hasks : (⟨.asking .describe, 1⟩ : Frame) ∈ (run step initial overtaken).callStacks 1 := by
    decide +kernel
  have hsurrendered : 1 ∈ (run step initial overtaken).surrendered := by decide +kernel
  exact (hquiet overtaken).calls 1 _ hasks rfl hsurrendered

/-! ## Threads alone -/

theorem callStacks_setStack {other : Nat} {stack : List Frame} (hother : other ≠ thread) :
    (uses.setStack thread stack).callStacks other = uses.callStacks other :=
  Function.update_of_ne hother _ _

theorem callStacks_go {other : Nat} (hother : other ≠ thread) (answer : Bool) :
    (uses.go thread answer).callStacks other = uses.callStacks other := by
  unfold go
  split
  · rfl
  · next place convar frames hstack =>
    cases place with
    | asking use =>
      simp only
      split
      · exact callStacks_setStack hother
      · exact callStacks_setStack hother
    | arrived native =>
      simp only
      split
      · exact callStacks_setStack hother
      · exact callStacks_setStack hother
    | entered native =>
      simp only
      split
      · exact callStacks_setStack hother
      · exact callStacks_setStack hother
    | releasing stage =>
      simp only
      split
      · rfl
      · cases stage with
        | erasing | finishing => exact callStacks_setStack hother
        | asked =>
          simp only
          split
          · exact callStacks_setStack hother
          split
          · exact callStacks_setStack hother
          · exact callStacks_setStack hother
        | _ =>
          simp only
          split
          · rfl
          · exact callStacks_setStack hother
    | _ => exact callStacks_setStack hother

/-- A record that is made, and whose release has begun. -/
def begun : List Act :=
  [.create 0 ConVarService.running (some (ConVarService.switch 1)) true .notFound ⟨.ok, 1, none⟩,
    .release 0 ConVarService.running 1]

theorem others_begun {other : Nat} (hother : other ≠ 0) :
    (run step initial begun).callStacks other = [] := by
  simp only [begun, Lib.run_cons, Lib.run_nil]
  generalize hmade : step initial
    (.create 0 ConVarService.running (some (ConVarService.switch 1)) true
    .notFound ⟨.ok, 1, none⟩) = made
  have hempty : made.callStacks other = [] := by
    rw [← hmade]
    simp only [step]
    split
    · rfl
    · rfl
  simp only [step]
  split
  · exact (callStacks_setStack hother).trans hempty
  · exact hempty

/-- The adapter is asked to release it. -/
theorem begun_quiet : 1 ∈ (run step initial (begun ++ [.go 0 true, .go 0 true])).surrendered ∧
    Quiet (run step initial (begun ++ [.go 0 true, .go 0 true])) := by
  have hnone : (run step initial begun).surrenders 0 = none := by decide +kernel
  have hcalm : ∀ frame ∈ ((run step initial begun).go 0 true).callStacks 0,
      frame.place.looks = false := by decide +kernel
  have hothers : ∀ other, other ≠ 0 → (run step initial begun).callStacks other = [] :=
    fun _ => others_begun
  refine ⟨by decide +kernel, quiet_if_clear ?_⟩
  rw [Lib.heeds_append]
  refine ⟨⟨trivial, trivial, trivial⟩, ?_⟩
  generalize run step initial begun = given at hnone hcalm hothers ⊢
  refine ⟨fun convar hsurrenders => ?_, fun convar _ other frame hmem _ => ?_, trivial⟩
  · rw [hnone] at hsurrenders
    cases hsurrenders
  · have hmem : frame ∈ (given.go 0 true).callStacks other := hmem
    by_cases hother : other = 0
    · subst hother
      exact hcalm frame hmem
    · rw [callStacks_go hother, hothers other hother] at hmem
      cases hmem

end Uses
end KeelS2.ConVars
