import KeelS2.Adapter.LoopModes
import Mathlib.Data.UInt

/-!
# Entity identities and their epoch

The adapter hands out entities as an index, a Source 2 handle and the *epoch* in which it saw them.
`entity_epoch_` counts on at every level change, at `Stop`, and when a lookup observes that the
game's entity system is another one than before; an identity is accepted in its own epoch only.

`Start` sets the counter back to one, and so brings old epochs into force again. As long as it is
not called once an identity was handed out, `entity_identities_fresh` holds: an identity that is
accepted was obtained after the last change, and those from before will not be accepted.

What the engine answers comes with each call: the pointer at `game_entity_system_offset_` and
whether the virtual table there is the right one, and what the native functions return.
-/

namespace KeelS2.Adapter

open Lib

abbrev Thread := Nat

structure GameEntityIdentity where
  index : Nat
  source2Handle : Nat
  epoch : UInt64
  deriving DecidableEq, Repr

/-- `KEELS2_ENTITY_ACCESS_MAX_COUNT`. -/
def entityAccessMaxCount : Nat := 32

/-! ## Histories -/

inductive EntityEvent
  /-- The adapter handed out an identity. -/
  | obtained (entity : GameEntityIdentity)
  /-- It accepted one. -/
  | accepted (entity : GameEntityIdentity)
  /-- A level began or ended, `Stop` was called, or another entity system was observed. -/
  | changed
  deriving DecidableEq, Repr

/-- There was a change since the identity was obtained. -/
def outdated (entity : GameEntityIdentity) : List EntityEvent → Bool
  | [] => false
  | .changed :: earlier => decide (.obtained entity ∈ earlier)
  | _ :: earlier => outdated entity earlier

/-- Only identities that are not outdated are accepted. -/
def epochLaw : EntityEvent → List EntityEvent → Prop
  | .accepted entity, earlier => outdated entity earlier = false
  | _, _ => True

theorem obtained_of_outdated {entity : GameEntityIdentity} {history : List EntityEvent}
    (h : outdated entity history = true) : .obtained entity ∈ history := by
  induction history with
  | nil => cases h
  | cons event earlier ih =>
    cases event with
    | obtained other => exact List.mem_cons_of_mem _ (ih h)
    | accepted other => exact List.mem_cons_of_mem _ (ih h)
    | changed => exact List.mem_cons_of_mem _ (of_decide_eq_true h)

/-! ## The counter -/

/-- What the adapter knows of the entity system. `admitted` is that the compatibility profile has
all that `CurrentEntitySystemLocked` asks for, `schema` the same for the schema system. -/
structure EntityEpochs where
  modes : LoopModes
  entityEpoch : UInt64
  currentEntitySystem : Address
  admitted : Bool
  schema : Bool
  mainThread : Option Thread
  history : List EntityEvent

/-- What a call to `CurrentEntitySystemLocked` finds in the game. -/
structure Seen where
  candidate : Address
  valid : Bool
  deriving DecidableEq, Repr

/-- What `Start` sets up. -/
structure Interfaces where
  admitted : Bool
  schema : Bool
  deriving DecidableEq, Repr

structure GameEntityAccessRequest where
  entity : GameEntityIdentity
  className : Text
  deriving DecidableEq, Repr

/-- A native function that finds an entity: its index and handle. -/
abbrev Lookup (α : Type) := Address → α → Except KeelResult (Nat × Nat)

/-- A native function that is given an entity. -/
abbrev Check := Address → GameEntityIdentity → KeelResult

namespace EntityEpochs

def initial : EntityEpochs where
  modes := .empty
  entityEpoch := 1
  currentEntitySystem := 0
  admitted := false
  schema := false
  mainThread := none
  history := []

variable (epochs : EntityEpochs)

def record (event : EntityEvent) : EntityEpochs :=
  { epochs with history := event :: epochs.history }

def advanceEntityEpochLocked : EntityEpochs :=
  { epochs with
    entityEpoch := if epochs.entityEpoch + 1 = 0 then 1 else epochs.entityEpoch + 1 }

def invalidateEntityEpoch : EntityEpochs :=
  { epochs.advanceEntityEpochLocked with currentEntitySystem := 0 }

def currentEntitySystemLocked (seen : Seen) : EntityEpochs × Except KeelResult Address :=
  if epochs.admitted then
    let observed :=
      if seen.candidate ≠ epochs.currentEntitySystem then
        { epochs.advanceEntityEpochLocked with
          currentEntitySystem := seen.candidate }.record .changed
      else epochs
    if seen.candidate = 0 then (observed, .error .notReady)
    else if seen.valid then (observed, .ok seen.candidate)
    else (observed, .error .incompatible)
  else (epochs, .error .unsupported)

def onMainThread (caller : Thread) : Bool := epochs.mainThread == some caller

/-! ## What hands out identities -/

/-- What the three lookups have in common. -/
def findEntity (caller : Thread) (seen : Seen)
    (native : Address → Except KeelResult (Nat × Nat)) :
    EntityEpochs × Except KeelResult GameEntityIdentity :=
  if epochs.onMainThread caller then
    match epochs.currentEntitySystemLocked seen with
    | (observed, .error error) => (observed, .error error)
    | (observed, .ok system) =>
      match native system with
      | .error error => (observed, .error error)
      | .ok (index, handle) =>
        let entity := ⟨index, handle, observed.entityEpoch⟩
        (observed.record (.obtained entity), .ok entity)
  else (epochs, .error .wrongThread)

def findEntityByIndex (caller : Thread) (seen : Seen) (native : Lookup Nat) (index : Nat) :
    EntityEpochs × Except KeelResult GameEntityIdentity :=
  epochs.findEntity caller seen fun system => native system index

def findEntityBySource2Handle (caller : Thread) (seen : Seen) (native : Lookup Nat)
    (source2Handle : Nat) : EntityEpochs × Except KeelResult GameEntityIdentity :=
  epochs.findEntity caller seen fun system => native system source2Handle

def captureEntity (caller : Thread) (seen : Seen) (native : Lookup Address)
    (instance' : Address) : EntityEpochs × Except KeelResult GameEntityIdentity :=
  if instance' = 0 then (epochs, .error .invalidArgument)
  else epochs.findEntity caller seen fun system => native system instance'

/-! ## What accepts them -/

/-- `!entity.epoch || entity.epoch != entity_epoch_` does not hold. -/
def inEpoch (entity : GameEntityIdentity) : Bool :=
  entity.epoch != 0 && entity.epoch == epochs.entityEpoch

/-- An entity is accepted where the native function takes it. -/
def accept (entity : GameEntityIdentity) (result : KeelResult) : EntityEpochs × KeelResult :=
  (if result = .ok then epochs.record (.accepted entity) else epochs, result)

def validateEntity (caller : Thread) (seen : Seen) (native : Check)
    (entity : GameEntityIdentity) : EntityEpochs × KeelResult :=
  if epochs.onMainThread caller then
    match epochs.currentEntitySystemLocked seen with
    | (observed, .error error) => (observed, error)
    | (observed, .ok system) =>
      if observed.inEpoch entity then observed.accept entity (native system entity)
      else (observed, .notFound)
  else (epochs, .wrongThread)

/-- `fieldFits` is that the field is one of this compatibility profile. -/
def readEntityField (caller : Thread) (seen : Seen) (fieldFits : Bool) (native : Check)
    (entity : GameEntityIdentity) : EntityEpochs × KeelResult :=
  if epochs.onMainThread caller then
    match epochs.currentEntitySystemLocked seen with
    | (observed, .error error) => (observed, error)
    | (observed, .ok system) =>
      if observed.inEpoch entity then
        if fieldFits then observed.accept entity (native system entity)
        else (observed, .incompatible)
      else (observed, .notFound)
  else (epochs, .wrongThread)

/-- The first loop of `VisitEntities`. -/
def resolveAll (resolve : GameEntityAccessRequest → KeelResult) :
    List GameEntityAccessRequest → KeelResult
  | [] => .ok
  | request :: rest =>
    if epochs.inEpoch request.entity then
      if resolve request = .ok then resolveAll resolve rest else resolve request
    else .notFound

/-- The second one. -/
def validateAll (validate : GameEntityIdentity → KeelResult) :
    List GameEntityAccessRequest → KeelResult
  | [] => .ok
  | request :: rest =>
    if validate request.entity = .ok then validateAll validate rest else validate request.entity

/-- `VisitEntities`, up to the call of the callback. -/
def visitEntities (caller : Thread) (seen : Seen)
    (resolve : Address → GameEntityAccessRequest → KeelResult) (validate : Check)
    (requests : List GameEntityAccessRequest) (callback : Bool) : EntityEpochs × KeelResult :=
  if requests = [] ∨ entityAccessMaxCount < requests.length ∨ callback = false then
    (epochs, .invalidArgument)
  else if epochs.onMainThread caller then
    match epochs.currentEntitySystemLocked seen with
    | (observed, .error error) => (observed, error)
    | (observed, .ok system) =>
      match observed.resolveAll (resolve system) requests with
      | .ok =>
        match validateAll (validate system) requests with
        | .ok =>
          (requests.foldl (fun state request => state.record (.accepted request.entity)) observed,
            .ok)
        | error => (observed, error)
      | error => (observed, error)
  else (epochs, .wrongThread)

/-- `later` is what the game shows after the schema has been resolved. -/
def weaponMatches (caller : Thread) (seen later : Seen) (resolved : KeelResult) (native : Check)
    (pawn : GameEntityIdentity) : EntityEpochs × KeelResult :=
  if epochs.onMainThread caller then
    if epochs.schema then
      match epochs.currentEntitySystemLocked seen with
      | (observed, .error error) => (observed, error)
      | (observed, .ok system) =>
        if observed.inEpoch pawn then
          match resolved with
          | .ok =>
            match observed.currentEntitySystemLocked later with
            | (again, .error error) => (again, error)
            | (again, .ok current) =>
              if pawn.epoch = again.entityEpoch ∧ current = system then
                again.accept pawn (native system pawn)
              else (again, .notFound)
          | error => (observed, error)
        else (observed, .notFound)
    else (epochs, .notReady)
  else (epochs, .wrongThread)

/-! ## What changes the epoch -/

def stop : EntityEpochs :=
  { epochs.advanceEntityEpochLocked with
    modes := .empty
    currentEntitySystem := 0
    admitted := false
    schema := false
    mainThread := none }.record .changed

/-- `interfaces` is missing when one of the checks fails. -/
def start (caller : Thread) : Option Interfaces → EntityEpochs
  | none => epochs.stop
  | some interfaces =>
    { epochs.stop with
      admitted := interfaces.admitted
      schema := interfaces.schema
      mainThread := some caller
      entityEpoch := 1
      currentEntitySystem := 0 }

end EntityEpochs

/-- A level begins or ends: a level event, or an initialised loop is destroyed. -/
def LoopModes.changesLevel (modes : LoopModes) : NativeCall → Bool
  | .destroyLoopMode _ loop => loop != 0 && decide (loop ∈ modes.initializedLoops)
  | call => (modes.call call).2.event.isSome

def EntityEpochs.nativeCall (epochs : EntityEpochs) (call : NativeCall) : EntityEpochs :=
  let called := { epochs with modes := (epochs.modes.call call).1 }
  let told := if (epochs.modes.call call).2.invalidates then called.invalidateEntityEpoch
    else called
  if epochs.modes.changesLevel call then told.record .changed else told

/-! ## Runs -/

inductive EntityInput
  | start (caller : Thread) (interfaces : Option Interfaces)
  | stop
  | call (call : NativeCall)
  | findEntityByIndex (caller : Thread) (seen : Seen) (native : Lookup Nat) (index : Nat)
  | findEntityBySource2Handle (caller : Thread) (seen : Seen) (native : Lookup Nat)
      (source2Handle : Nat)
  | captureEntity (caller : Thread) (seen : Seen) (native : Lookup Address)
      (instance' : Address)
  | validateEntity (caller : Thread) (seen : Seen) (native : Check) (entity : GameEntityIdentity)
  | readEntityField (caller : Thread) (seen : Seen) (fieldFits : Bool) (native : Check)
      (entity : GameEntityIdentity)
  | visitEntities (caller : Thread) (seen : Seen)
      (resolve : Address → GameEntityAccessRequest → KeelResult) (validate : Check)
      (requests : List GameEntityAccessRequest) (callback : Bool)
  | weaponMatches (caller : Thread) (seen later : Seen) (resolved : KeelResult) (native : Check)
      (pawn : GameEntityIdentity)
  /-- Any other function that asks for the entity system. -/
  | observe (seen : Seen)

def EntityEpochs.step (epochs : EntityEpochs) : EntityInput → EntityEpochs
  | .start caller interfaces => epochs.start caller interfaces
  | .stop => epochs.stop
  | .call call => epochs.nativeCall call
  | .findEntityByIndex caller seen native index =>
    (epochs.findEntityByIndex caller seen native index).1
  | .findEntityBySource2Handle caller seen native handle =>
    (epochs.findEntityBySource2Handle caller seen native handle).1
  | .captureEntity caller seen native instance' =>
    (epochs.captureEntity caller seen native instance').1
  | .validateEntity caller seen native entity =>
    (epochs.validateEntity caller seen native entity).1
  | .readEntityField caller seen fieldFits native entity =>
    (epochs.readEntityField caller seen fieldFits native entity).1
  | .visitEntities caller seen resolve validate requests callback =>
    (epochs.visitEntities caller seen resolve validate requests callback).1
  | .weaponMatches caller seen later resolved native pawn =>
    (epochs.weaponMatches caller seen later resolved native pawn).1
  | .observe seen => (epochs.currentEntitySystemLocked seen).1

def EntityEvent.isObtained : EntityEvent → Bool
  | .obtained _ => true
  | _ => false

/-- A loop in a level is destroyed through a registered factory. -/
def LoopModes.Reports (modes : LoopModes) : NativeCall → Prop
  | .destroyLoopMode factory loop =>
    loop ∈ modes.initializedLoops → factory ∈ modes.activeFactories
  | _ => True

instance (modes : LoopModes) : ∀ call, Decidable (modes.Reports call)
  | .destroyLoopMode factory loop =>
    inferInstanceAs (Decidable (loop ∈ modes.initializedLoops → factory ∈ modes.activeFactories))
  | .registerLoopMode _ _ | .unregisterLoopMode _ _ | .createLoopMode _ _ | .loopInit _ _
  | .loopShutdown _ => .isTrue trivial

/-- What keeps old epochs out of force: `Start` comes before the first identity is handed out, and
every change is reported. -/
def Timely (epochs : EntityEpochs) : EntityInput → Prop
  | .start _ _ => epochs.history.any EntityEvent.isObtained = false
  | .call call => epochs.modes.Reports call
  | _ => True

instance (epochs : EntityEpochs) : ∀ input, Decidable (Timely epochs input)
  | .start _ _ => inferInstanceAs (Decidable (epochs.history.any EntityEvent.isObtained = false))
  | .call call => inferInstanceAs (Decidable (epochs.modes.Reports call))
  | .stop | .findEntityByIndex .. | .findEntityBySource2Handle .. | .captureEntity ..
  | .validateEntity .. | .readEntityField .. | .visitEntities .. | .weaponMatches ..
  | .observe _ => .isTrue trivial

/-- The counter does not come round in the next step, which advances it twice at most. -/
def Room (epochs : EntityEpochs) : Prop := epochs.entityEpoch.toNat + 2 < 2 ^ 64

/-! ## The identities of earlier epochs -/

/-- The identities that were handed out are of this epoch or an earlier one, and the outdated ones
of an earlier one. -/
structure Fresh (epochs : EntityEpochs) : Prop where
  bounded : ∀ entity, .obtained entity ∈ epochs.history →
    entity.epoch.toNat ≤ epochs.entityEpoch.toNat
  older : ∀ entity, outdated entity epochs.history = true →
    entity.epoch.toNat < epochs.entityEpoch.toNat
  lawful : Lawful epochLaw epochs.history

theorem fresh_initial : Fresh .initial where
  bounded := fun entity hmem => by cases hmem
  older := fun entity h => by cases h
  lawful := trivial

section Step

variable {epochs : EntityEpochs}

theorem toNat_advance (hroom : epochs.entityEpoch.toNat + 1 < 2 ^ 64) :
    epochs.advanceEntityEpochLocked.entityEpoch.toNat = epochs.entityEpoch.toNat + 1 := by
  have hsum : (epochs.entityEpoch + 1).toNat = epochs.entityEpoch.toNat + 1 := by
    rw [UInt64.toNat_add]
    exact Nat.mod_eq_of_lt hroom
  have hne : epochs.entityEpoch + 1 ≠ 0 := by
    intro hzero
    rw [hzero] at hsum
    exact absurd hsum (by simp)
  simp only [EntityEpochs.advanceEntityEpochLocked, if_neg hne, hsum]

variable {entity : GameEntityIdentity} {other : EntityEpochs}

section

variable (hfresh : Fresh epochs)

include hfresh

theorem Fresh.congr (hhistory : other.history = epochs.history)
    (hepoch : other.entityEpoch = epochs.entityEpoch) : Fresh other where
  bounded := by rw [hhistory, hepoch]; exact hfresh.bounded
  older := by rw [hhistory, hepoch]; exact hfresh.older
  lawful := by rw [hhistory]; exact hfresh.lawful

theorem Fresh.obtain (hepoch : entity.epoch = epochs.entityEpoch) :
    Fresh (epochs.record (.obtained entity)) where
  bounded := fun other hmem => by
    rcases List.mem_cons.1 hmem with heq | hmem
    · cases heq
      exact le_of_eq (congrArg UInt64.toNat hepoch)
    · exact hfresh.bounded other hmem
  older := fun other h => hfresh.older other h
  lawful := ⟨trivial, hfresh.lawful⟩

theorem Fresh.accept (hepoch : entity.epoch = epochs.entityEpoch) :
    Fresh (epochs.record (.accepted entity)) where
  bounded := fun other hmem =>
    hfresh.bounded other ((List.mem_cons.1 hmem).resolve_left fun heq => by cases heq)
  older := fun other h => hfresh.older other h
  lawful := by
    refine ⟨?_, hfresh.lawful⟩
    -- An outdated identity would be of an earlier epoch than this one.
    show outdated entity epochs.history = false
    rw [← Bool.not_eq_true]
    intro houtdated
    have holder := hfresh.older entity houtdated
    rw [hepoch] at holder
    exact Nat.lt_irrefl _ holder

theorem Fresh.change (hhistory : other.history = epochs.history)
    (hepoch : epochs.entityEpoch.toNat < other.entityEpoch.toNat) :
    Fresh (other.record .changed) where
  bounded := fun entity hmem => by
    have hobtained := (List.mem_cons.1 hmem).resolve_left fun heq => by cases heq
    rw [hhistory] at hobtained
    exact le_of_lt (lt_of_le_of_lt (hfresh.bounded entity hobtained) hepoch)
  older := fun entity h => by
    have hobtained : .obtained entity ∈ other.history := of_decide_eq_true h
    rw [hhistory] at hobtained
    exact lt_of_le_of_lt (hfresh.bounded entity hobtained) hepoch
  lawful := ⟨trivial, by rw [hhistory]; exact hfresh.lawful⟩

theorem Fresh.advance (hhistory : other.history = epochs.history)
    (hepoch : epochs.entityEpoch.toNat < other.entityEpoch.toNat) : Fresh other where
  bounded := fun entity hmem => by
    rw [hhistory] at hmem
    exact le_of_lt (lt_of_le_of_lt (hfresh.bounded entity hmem) hepoch)
  older := fun entity h => by
    rw [hhistory] at h
    exact lt_trans (hfresh.older entity h) hepoch
  lawful := by rw [hhistory]; exact hfresh.lawful

end

theorem currentEntitySystemLocked_fst (seen : Seen) :
    (epochs.currentEntitySystemLocked seen).1 = epochs
      ∨ (epochs.currentEntitySystemLocked seen).1 = { epochs.advanceEntityEpochLocked with
          currentEntitySystem := seen.candidate }.record .changed := by
  unfold EntityEpochs.currentEntitySystemLocked
  by_cases hadmitted : epochs.admitted
  · by_cases hcandidate : seen.candidate ≠ epochs.currentEntitySystem
    · simp only [if_pos hadmitted, if_pos hcandidate]
      split
      · exact Or.inr rfl
      · split <;> exact Or.inr rfl
    · simp only [if_pos hadmitted, if_neg hcandidate]
      split
      · exact Or.inl rfl
      · split <;> exact Or.inl rfl
  · rw [if_neg hadmitted]
    exact Or.inl rfl

theorem Fresh.observe (hfresh : Fresh epochs) (seen : Seen)
    (hroom : epochs.entityEpoch.toNat + 1 < 2 ^ 64) {observed : EntityEpochs}
    {answer : Except KeelResult Address}
    (h : epochs.currentEntitySystemLocked seen = (observed, answer)) :
    Fresh observed ∧ observed.entityEpoch.toNat ≤ epochs.entityEpoch.toNat + 1 := by
  have hadvance := toNat_advance hroom
  rcases @currentEntitySystemLocked_fst epochs seen with hsame | hchanged
  · rw [h] at hsame
    subst hsame
    exact ⟨hfresh, Nat.le_succ _⟩
  · rw [h] at hchanged
    subst hchanged
    refine ⟨hfresh.change rfl ?_, le_of_eq hadvance⟩
    show _ < epochs.advanceEntityEpochLocked.entityEpoch.toNat
    omega

theorem Fresh.findEntity (hfresh : Fresh epochs) (hroom : Room epochs) (caller : Thread)
    (seen : Seen) (native : Address → Except KeelResult (Nat × Nat)) :
    Fresh (epochs.findEntity caller seen native).1 := by
  unfold EntityEpochs.findEntity
  split
  · rcases hanswer : epochs.currentEntitySystemLocked seen with ⟨observed, _ | system⟩
    · exact (hfresh.observe seen (Nat.lt_of_succ_lt hroom) hanswer).1
    · have hobserved := (hfresh.observe seen (Nat.lt_of_succ_lt hroom) hanswer).1
      cases hnative : native system with
      | error error => simpa only [hnative] using hobserved
      | ok found =>
        simp only [hnative]
        exact hobserved.obtain rfl
  · exact hfresh

theorem eq_epoch_of_inEpoch (h : epochs.inEpoch entity = true) :
    entity.epoch = epochs.entityEpoch := by
  simp only [EntityEpochs.inEpoch, Bool.and_eq_true, beq_iff_eq] at h
  exact h.2

theorem Fresh.acceptIf (hfresh : Fresh epochs) (hepoch : entity.epoch = epochs.entityEpoch)
    (result : KeelResult) : Fresh (epochs.accept entity result).1 := by
  unfold EntityEpochs.accept
  split
  · exact hfresh.accept hepoch
  · exact hfresh

theorem Fresh.validateEntity (hfresh : Fresh epochs) (hroom : Room epochs) (caller : Thread)
    (seen : Seen) (native : Check) (entity : GameEntityIdentity) :
    Fresh (epochs.validateEntity caller seen native entity).1 := by
  unfold EntityEpochs.validateEntity
  split
  · rcases hanswer : epochs.currentEntitySystemLocked seen with ⟨observed, _ | system⟩
    · exact (hfresh.observe seen (Nat.lt_of_succ_lt hroom) hanswer).1
    · have hobserved := (hfresh.observe seen (Nat.lt_of_succ_lt hroom) hanswer).1
      by_cases hepoch : observed.inEpoch entity
      · simp only [if_pos hepoch]
        exact hobserved.acceptIf (eq_epoch_of_inEpoch hepoch) _
      · simp only [if_neg hepoch]
        exact hobserved
  · exact hfresh

theorem Fresh.readEntityField (hfresh : Fresh epochs) (hroom : Room epochs) (caller : Thread)
    (seen : Seen) (fieldFits : Bool) (native : Check) (entity : GameEntityIdentity) :
    Fresh (epochs.readEntityField caller seen fieldFits native entity).1 := by
  unfold EntityEpochs.readEntityField
  split
  · rcases hanswer : epochs.currentEntitySystemLocked seen with ⟨observed, _ | system⟩
    · exact (hfresh.observe seen (Nat.lt_of_succ_lt hroom) hanswer).1
    · have hobserved := (hfresh.observe seen (Nat.lt_of_succ_lt hroom) hanswer).1
      by_cases hepoch : observed.inEpoch entity
      · simp only [if_pos hepoch]
        split
        · exact hobserved.acceptIf (eq_epoch_of_inEpoch hepoch) _
        · exact hobserved
      · simp only [if_neg hepoch]
        exact hobserved
  · exact hfresh

/-- `VisitEntities` looks at every epoch before it calls back. -/
theorem inEpoch_of_resolveAll {resolve : GameEntityAccessRequest → KeelResult}
    {requests : List GameEntityAccessRequest} (h : epochs.resolveAll resolve requests = .ok) :
    ∀ request ∈ requests, request.entity.epoch = epochs.entityEpoch := by
  induction requests with
  | nil => exact fun request hmem => by cases hmem
  | cons first rest ih =>
    unfold EntityEpochs.resolveAll at h
    split at h
    · rename_i hfirst
      split at h
      · intro request hmem
        rcases List.mem_cons.1 hmem with rfl | hmem
        · exact eq_epoch_of_inEpoch hfirst
        · exact ih h request hmem
      · rename_i hresult
        exact absurd h hresult
    · cases h

theorem Fresh.acceptAll {requests : List GameEntityAccessRequest} (hfresh : Fresh epochs)
    (hepochs : ∀ request ∈ requests, request.entity.epoch = epochs.entityEpoch) :
    Fresh (requests.foldl (fun state request => state.record (.accepted request.entity))
      epochs) := by
  induction requests generalizing epochs with
  | nil => exact hfresh
  | cons first rest ih =>
    exact ih (hfresh.accept (hepochs first List.mem_cons_self)) fun request hmem =>
      hepochs request (List.mem_cons_of_mem _ hmem)

theorem Fresh.visitEntities (hfresh : Fresh epochs) (hroom : Room epochs) (caller : Thread)
    (seen : Seen) (resolve : Address → GameEntityAccessRequest → KeelResult) (validate : Check)
    (requests : List GameEntityAccessRequest) (callback : Bool) :
    Fresh (epochs.visitEntities caller seen resolve validate requests callback).1 := by
  unfold EntityEpochs.visitEntities
  split
  · exact hfresh
  split
  · rcases hanswer : epochs.currentEntitySystemLocked seen with ⟨observed, _ | system⟩
    · exact (hfresh.observe seen (Nat.lt_of_succ_lt hroom) hanswer).1
    · have hobserved := (hfresh.observe seen (Nat.lt_of_succ_lt hroom) hanswer).1
      dsimp only
      split
      · rename_i hresolved
        split
        · exact hobserved.acceptAll (inEpoch_of_resolveAll hresolved)
        · exact hobserved
      · exact hobserved
  · exact hfresh

theorem Fresh.weaponMatches (hfresh : Fresh epochs) (hroom : Room epochs) (caller : Thread)
    (seen later : Seen) (resolved : KeelResult) (native : Check) (pawn : GameEntityIdentity) :
    Fresh (epochs.weaponMatches caller seen later resolved native pawn).1 := by
  unfold EntityEpochs.weaponMatches
  split
  · split
    · rcases hanswer : epochs.currentEntitySystemLocked seen with ⟨observed, _ | system⟩
      · exact (hfresh.observe seen (Nat.lt_of_succ_lt hroom) hanswer).1
      · obtain ⟨hobserved, hepoch⟩ := hfresh.observe seen (Nat.lt_of_succ_lt hroom) hanswer
        have hagain : observed.entityEpoch.toNat + 1 < 2 ^ 64 := by
          unfold Room at hroom
          omega
        dsimp only
        split
        · split
          · rcases hsecond : observed.currentEntitySystemLocked later with ⟨again, _ | current⟩
            · exact (hobserved.observe later hagain hsecond).1
            · have hlater := (hobserved.observe later hagain hsecond).1
              dsimp only
              split
              · rename_i hsame
                exact hlater.acceptIf hsame.1 _
              · exact hlater
          · exact hobserved
        · exact hobserved
    · exact hfresh
  · exact hfresh

theorem Fresh.stop (hfresh : Fresh epochs) (hroom : Room epochs) : Fresh epochs.stop := by
  have hadvance := toNat_advance (Nat.lt_of_succ_lt hroom)
  refine hfresh.change rfl ?_
  show _ < epochs.advanceEntityEpochLocked.entityEpoch.toNat
  omega

theorem fresh_of_none_obtained
    (hnone : epochs.history.any EntityEvent.isObtained = false)
    (hlawful : Lawful epochLaw epochs.history) : Fresh epochs := by
  have hnever : ∀ entity, .obtained entity ∉ epochs.history := fun entity hmem => by
    have hsome : epochs.history.any EntityEvent.isObtained = true :=
      List.any_eq_true.2 ⟨_, hmem, rfl⟩
    rw [hnone] at hsome
    cases hsome
  exact {
    bounded := fun entity hmem => absurd hmem (hnever entity)
    older := fun entity h => absurd (obtained_of_outdated h) (hnever entity)
    lawful := hlawful }

theorem Fresh.start (hfresh : Fresh epochs) (hroom : Room epochs)
    (hnone : epochs.history.any EntityEvent.isObtained = false) (caller : Thread)
    (interfaces : Option Interfaces) : Fresh (epochs.start caller interfaces) := by
  cases interfaces with
  | none => exact hfresh.stop hroom
  | some interfaces => exact fresh_of_none_obtained hnone (hfresh.stop hroom).lawful

theorem invalidates_of_changesLevel {modes : LoopModes} {call : NativeCall}
    (hreports : modes.Reports call) (h : modes.changesLevel call = true) :
    (modes.call call).2.invalidates = true := by
  cases call with
  | registerLoopMode name factory =>
    simp only [LoopModes.changesLevel, LoopModes.call, LoopModes.registerLoopMode] at h
    split at h <;> cases h
  | unregisterLoopMode name factory =>
    simp only [LoopModes.changesLevel, LoopModes.call, LoopModes.unregisterLoopMode] at h
    split at h <;> cases h
  | createLoopMode factory loop =>
    simp only [LoopModes.changesLevel, LoopModes.call, LoopModes.createLoopMode] at h
    split at h <;> cases h
  | loopInit loop result =>
    simp only [LoopModes.changesLevel, LoopModes.call, LoopModes.loopInit] at h ⊢
    split at h
    · rename_i hfirst
      rw [if_pos hfirst]
    · cases h
  | loopShutdown loop =>
    simp only [LoopModes.changesLevel, LoopModes.call, LoopModes.loopShutdown] at h ⊢
    split at h
    · rename_i hknown
      rw [if_pos hknown]
    · cases h
  | destroyLoopMode factory loop =>
    simp only [LoopModes.changesLevel, Bool.and_eq_true, bne_iff_ne, decide_eq_true_eq] at h
    simp only [LoopModes.call, LoopModes.destroyLoopMode, if_pos (And.intro h.1 (hreports h.2)),
      decide_eq_true h.2]

theorem Fresh.nativeCall (hfresh : Fresh epochs) (hroom : Room epochs) {call : NativeCall}
    (hreports : epochs.modes.Reports call) : Fresh (epochs.nativeCall call) := by
  have hadvance := toNat_advance (Nat.lt_of_succ_lt hroom)
  have hlater : epochs.entityEpoch.toNat
      < epochs.advanceEntityEpochLocked.entityEpoch.toNat := by omega
  unfold EntityEpochs.nativeCall
  by_cases hchanges : epochs.modes.changesLevel call
  · have hinvalidates := invalidates_of_changesLevel hreports hchanges
    simp only [if_pos hchanges, if_pos hinvalidates]
    exact hfresh.change rfl hlater
  · simp only [if_neg hchanges]
    split
    · exact hfresh.advance rfl hlater
    · exact hfresh.congr rfl rfl

theorem Fresh.step (hfresh : Fresh epochs) (hroom : Room epochs) {input : EntityInput}
    (htimely : Timely epochs input) : Fresh (epochs.step input) := by
  cases input with
  | start caller interfaces => exact hfresh.start hroom htimely caller interfaces
  | stop => exact hfresh.stop hroom
  | call call => exact hfresh.nativeCall hroom htimely
  | findEntityByIndex caller seen native index => exact hfresh.findEntity hroom caller seen _
  | findEntityBySource2Handle caller seen native handle =>
    exact hfresh.findEntity hroom caller seen _
  | captureEntity caller seen native instance' =>
    simp only [EntityEpochs.step, EntityEpochs.captureEntity]
    split
    · exact hfresh
    · exact hfresh.findEntity hroom caller seen _
  | validateEntity caller seen native entity =>
    exact hfresh.validateEntity hroom caller seen native entity
  | readEntityField caller seen fieldFits native entity =>
    exact hfresh.readEntityField hroom caller seen fieldFits native entity
  | visitEntities caller seen resolve validate requests callback =>
    exact hfresh.visitEntities hroom caller seen resolve validate requests callback
  | weaponMatches caller seen later resolved native pawn =>
    exact hfresh.weaponMatches hroom caller seen later resolved native pawn
  | observe seen => exact (hfresh.observe seen (Nat.lt_of_succ_lt hroom) rfl).1

end Step

/-! ## The law of a run -/

/-- **Identities do not outlive their epoch.** In a run where `Start` comes before the first
identity is handed out, loops in a level are destroyed through registered factories and the counter
does not come round, only identities that were obtained after the last change are accepted, and the
epochs of the others are not in force. -/
theorem entity_identities_fresh (inputs : List EntityInput)
    (hinputs : Heeds EntityEpochs.step (fun epochs input => Room epochs ∧ Timely epochs input)
      .initial inputs) :
    Lawful epochLaw (run EntityEpochs.step .initial inputs).history
      ∧ ∀ entity, outdated entity (run EntityEpochs.step .initial inputs).history = true →
        entity.epoch ≠ (run EntityEpochs.step .initial inputs).entityEpoch := by
  have hfresh : Fresh (run EntityEpochs.step .initial inputs) :=
    Heeds.invariant (fun _ _ hfresh hinput => hfresh.step hinput.1 hinput.2) fresh_initial hinputs
  refine ⟨hfresh.lawful, fun entity houtdated heq => ?_⟩
  have holder := hfresh.older entity houtdated
  rw [heq] at holder
  exact Nat.lt_irrefl _ holder

instance (epochs : EntityEpochs) : Decidable (Room epochs) :=
  inferInstanceAs (Decidable (epochs.entityEpoch.toNat + 2 < 2 ^ 64))

def everyInterface : Interfaces := ⟨true, true⟩

/-- An entity is found and validated, the level ends, and it is found again. -/
def foundTwice : List EntityInput :=
  [.start 1 (some everyInterface), .call (.registerLoopMode (some "game".toList) 16),
    .call (.createLoopMode 16 32), .call (.loopInit 32 true),
    .findEntityByIndex 1 ⟨64, true⟩ (fun _ index => .ok (index, 7)) 5,
    .validateEntity 1 ⟨64, true⟩ (fun _ _ => .ok) ⟨5, 7, 3⟩,
    .call (.loopShutdown 32),
    .validateEntity 1 ⟨64, true⟩ (fun _ _ => .ok) ⟨5, 7, 3⟩,
    .findEntityByIndex 1 ⟨64, true⟩ (fun _ index => .ok (index, 7)) 5,
    .visitEntities 1 ⟨64, true⟩ (fun _ _ => .ok) (fun _ _ => .ok) [⟨⟨5, 7, 5⟩, []⟩] true]

theorem foundTwice_fresh : (run EntityEpochs.step .initial foundTwice).history
      = [.accepted ⟨5, 7, 5⟩, .obtained ⟨5, 7, 5⟩, .changed, .changed, .accepted ⟨5, 7, 3⟩,
        .obtained ⟨5, 7, 3⟩, .changed, .changed, .changed]
    ∧ Lawful epochLaw (run EntityEpochs.step .initial foundTwice).history :=
  ⟨by decide +kernel, (entity_identities_fresh foundTwice (by decide +kernel)).1⟩

/-- `Start` brings an epoch back: an entity from before `Stop` is accepted after it. -/
theorem epoch_back_in_force : ¬ ∀ inputs : List EntityInput,
    Lawful epochLaw (run EntityEpochs.step .initial inputs).history := by
  intro hall
  have hlawful := hall [.start 1 (some everyInterface),
    .findEntityByIndex 1 ⟨64, true⟩ (fun _ index => .ok (index, 7)) 5, .stop,
    .start 1 (some everyInterface),
    .validateEntity 1 ⟨64, true⟩ (fun _ _ => .ok) ⟨5, 7, 2⟩]
  have hrejected : outdated ⟨5, 7, 2⟩ [.changed, .changed, .changed, .obtained ⟨5, 7, 2⟩,
    .changed, .changed] = false := hlawful.1
  exact absurd hrejected (by decide)

end KeelS2.Adapter
