import KeelS2.KeelHook.Abi
import KeelS2.Lib.Histories
import KeelS2.Lib.Runs
import Mathlib.Data.Finset.Basic

/-!
# Loop modes and level events

The adapter learns of levels from six native calls: which factories make loops for the mode
`game`, and what becomes of the loops they make. It keeps three sets of addresses for that,
and turns the first `LoopInit` of a loop and the next `LoopShutdown` into level events.

What the events should be is said of the *history* of the calls: within the lifetime of a
loop that a registered factory made, they alternate, beginning with `LEVEL_INIT`, and the
last one is a `LEVEL_SHUTDOWN` when the loop is destroyed. `DestroyLoopMode` does not keep to
that by itself. It drops an initialised loop without an event, and it leaves both sets as
they are when the factory is no longer registered, so that the next loop at the address is
taken for the old one. `level_events_paired` is the law for the calls that avoid both.

The callbacks are hooked onto the virtual tables of the factories and loops that were seen. On
an object that no set holds they do nothing, so here they are called on every object.
-/

namespace KeelS2.Adapter

open Lib

/-- A pointer; zero is the null pointer. -/
abbrev Address := Nat

inductive LevelEvent
  | levelInit
  | levelShutdown
  deriving DecidableEq, Repr

inductive NativeCall
  | registerLoopMode (name : Option Text) (factory : Address)
  | unregisterLoopMode (name : Option Text) (factory : Address)
  | createLoopMode (factory loop : Address)
  | loopInit (loop : Address) (result : Bool)
  | loopShutdown (loop : Address)
  | destroyLoopMode (factory loop : Address)
  deriving DecidableEq, Repr

/-! ## The callbacks -/

/-- The sets of the adapter. -/
structure LoopModes where
  activeFactories : Finset Address
  activeLoops : Finset Address
  initializedLoops : Finset Address
  deriving DecidableEq

/-- As `Start` and `ConfigureSource2` leave them. -/
def LoopModes.empty : LoopModes := ⟨∅, ∅, ∅⟩

/-- What a callback does besides: the level event it emits, and whether it calls
`InvalidateEntityEpoch`. -/
structure Effect where
  event : Option LevelEvent
  invalidates : Bool
  deriving DecidableEq, Repr

def Effect.none : Effect := ⟨.none, false⟩

def isGame (name : Option Text) (factory : Address) : Bool :=
  name == some "game".toList && factory != 0

namespace LoopModes

variable (modes : LoopModes)

/-- `EnsureFactoryHooks`, less the hooks. -/
def ensureFactoryHooks (factory : Address) : LoopModes :=
  { modes with activeFactories := insert factory modes.activeFactories }

/-- `EnsureLoopHooks`, less the hooks. -/
def ensureLoopHooks (loop : Address) : LoopModes :=
  { modes with activeLoops := insert loop modes.activeLoops }

def registerLoopMode (name : Option Text) (factory : Address) : LoopModes × Effect :=
  if isGame name factory then (modes.ensureFactoryHooks factory, .none) else (modes, .none)

def unregisterLoopMode (name : Option Text) (factory : Address) : LoopModes × Effect :=
  if isGame name factory then
    ({ modes with activeFactories := modes.activeFactories.erase factory }, .none)
  else (modes, .none)

def createLoopMode (factory loop : Address) : LoopModes × Effect :=
  if factory ∈ modes.activeFactories ∧ loop ≠ 0 then (modes.ensureLoopHooks loop, .none)
  else (modes, .none)

def destroyLoopMode (factory loop : Address) : LoopModes × Effect :=
  if loop ≠ 0 ∧ factory ∈ modes.activeFactories then
    ({ modes with
        initializedLoops := modes.initializedLoops.erase loop
        activeLoops := modes.activeLoops.erase loop },
      ⟨.none, decide (loop ∈ modes.initializedLoops)⟩)
  else (modes, .none)

def loopInit (loop : Address) (result : Bool) : LoopModes × Effect :=
  if loop ≠ 0 ∧ result ∧ loop ∈ modes.activeLoops ∧ loop ∉ modes.initializedLoops then
    ({ modes with initializedLoops := insert loop modes.initializedLoops },
      ⟨some .levelInit, true⟩)
  else (modes, .none)

def loopShutdown (loop : Address) : LoopModes × Effect :=
  if loop ≠ 0 ∧ loop ∈ modes.initializedLoops then
    ({ modes with initializedLoops := modes.initializedLoops.erase loop },
      ⟨some .levelShutdown, true⟩)
  else (modes, .none)

def call : NativeCall → LoopModes × Effect
  | .registerLoopMode name factory => modes.registerLoopMode name factory
  | .unregisterLoopMode name factory => modes.unregisterLoopMode name factory
  | .createLoopMode factory loop => modes.createLoopMode factory loop
  | .loopInit loop result => modes.loopInit loop result
  | .loopShutdown loop => modes.loopShutdown loop
  | .destroyLoopMode factory loop => modes.destroyLoopMode factory loop

end LoopModes

/-! ## Histories -/

/-- A call with the level event that came of it. -/
structure Entry where
  call : NativeCall
  event : Option LevelEvent
  deriving DecidableEq, Repr

/-- The factory is registered for the mode `game`. -/
def registered (factory : Address) : List Entry → Bool
  | [] => false
  | ⟨.registerLoopMode name other, _⟩ :: earlier =>
    if isGame name other ∧ other = factory then true else registered factory earlier
  | ⟨.unregisterLoopMode name other, _⟩ :: earlier =>
    if isGame name other ∧ other = factory then false else registered factory earlier
  | _ :: earlier => registered factory earlier

/-- Where the loop at an address stands. An existing one has its level events so far, the latest
first. Where a factory returns null, there is no loop. -/
inductive Standing
  | unseen
  | alive (ofGame : Bool) (events : List LevelEvent)
  | gone
  deriving DecidableEq, Repr

def Standing.isAlive : Standing → Bool
  | .alive _ _ => true
  | _ => false

def Standing.add : Option LevelEvent → Standing → Standing
  | some event, .alive ofGame events => .alive ofGame (event :: events)
  | _, standing => standing

def standing (loop : Address) : List Entry → Standing
  | [] => .unseen
  | ⟨.createLoopMode factory other, _⟩ :: earlier =>
    if other = loop ∧ other ≠ 0 then .alive (registered factory earlier) []
    else standing loop earlier
  | ⟨.destroyLoopMode _ other, _⟩ :: earlier =>
    if other = loop then .gone else standing loop earlier
  | ⟨.loopInit other _, event⟩ :: earlier | ⟨.loopShutdown other, event⟩ :: earlier =>
    if other = loop then (standing loop earlier).add event else standing loop earlier
  | _ :: earlier => standing loop earlier

/-- The loop is in a level: its latest event is a `LEVEL_INIT`. -/
def Playing (loop : Address) (history : List Entry) : Prop :=
  ∃ events, standing loop history = .alive true (.levelInit :: events)

/-- The loop was made by a registered factory. -/
def OfGame (loop : Address) (history : List Entry) : Prop :=
  ∃ events, standing loop history = .alive true events

/-- The law of the level events. A `LEVEL_INIT` comes in the lifetime of a loop that a
registered factory made, first or after a `LEVEL_SHUTDOWN`; a `LEVEL_SHUTDOWN` comes after a
`LEVEL_INIT` in it; and a loop is not destroyed in between. -/
def levelLaw (entry : Entry) (earlier : List Entry) : Prop :=
  match entry with
  | ⟨.loopInit loop _, some .levelInit⟩ => OfGame loop earlier ∧ ¬ Playing loop earlier
  | ⟨.loopShutdown loop, some .levelShutdown⟩ => Playing loop earlier
  | ⟨.destroyLoopMode _ loop, none⟩ => ¬ Playing loop earlier
  | ⟨_, event⟩ => event = none

/-! ## Runs -/

structure Levels where
  modes : LoopModes
  history : List Entry

def Levels.initial : Levels := ⟨.empty, []⟩

def Levels.step (levels : Levels) (call : NativeCall) : Levels :=
  ⟨(levels.modes.call call).1, ⟨call, (levels.modes.call call).2.event⟩ :: levels.history⟩

/-- What the engine keeps to. A new loop is not at the address of one that still exists, and a
loop that was destroyed is not used any more. -/
def Possible (levels : Levels) : NativeCall → Prop
  | .createLoopMode _ loop =>
    (standing loop levels.history).isAlive = false
  | .loopInit loop _ | .loopShutdown loop => standing loop levels.history ≠ .gone
  | _ => True

/-- What the adapter relies on. A loop is not destroyed in a level, and a loop at an address that
is still in `active_loops_` comes from a registered factory. -/
def Orderly (levels : Levels) : NativeCall → Prop
  | .destroyLoopMode _ loop => loop ∉ levels.modes.initializedLoops
  | .createLoopMode factory loop =>
    loop ∈ levels.modes.activeLoops → factory ∈ levels.modes.activeFactories
  | _ => True

instance (levels : Levels) : ∀ call, Decidable (Possible levels call)
  | .createLoopMode _ loop =>
    inferInstanceAs (Decidable ((standing loop levels.history).isAlive = false))
  | .loopInit loop _ | .loopShutdown loop =>
    inferInstanceAs (Decidable (standing loop levels.history ≠ .gone))
  | .registerLoopMode _ _ | .unregisterLoopMode _ _ | .destroyLoopMode _ _ => .isTrue trivial

instance (levels : Levels) : ∀ call, Decidable (Orderly levels call)
  | .destroyLoopMode _ loop => inferInstanceAs (Decidable (loop ∉ levels.modes.initializedLoops))
  | .createLoopMode factory loop =>
    inferInstanceAs (Decidable (loop ∈ levels.modes.activeLoops →
      factory ∈ levels.modes.activeFactories))
  | .registerLoopMode _ _ | .unregisterLoopMode _ _ | .loopInit _ _ | .loopShutdown _ =>
    .isTrue trivial

/-! ## The sets and the history -/

variable {loop : Address} {history : List Entry}

theorem Playing.isAlive (h : Playing loop history) : (standing loop history).isAlive = true := by
  obtain ⟨events, hstanding⟩ := h
  rw [hstanding]
  rfl

/-- What is said of a loop by where it stands is not changed by what leaves that as it is. -/
theorem playing_congr {earlier : List Entry} (h : standing loop history = standing loop earlier) :
    Playing loop history ↔ Playing loop earlier := by
  unfold Playing
  rw [h]

theorem ofGame_congr {earlier : List Entry} (h : standing loop history = standing loop earlier) :
    OfGame loop history ↔ OfGame loop earlier := by
  unfold OfGame
  rw [h]

/-- What the sets hold. A loop in `active_loops_` was made by a registered factory, unless it is
gone; the ones in `initialized_loops_` are those in a level. -/
structure Kept (levels : Levels) : Prop where
  factories : ∀ factory, factory ∈ levels.modes.activeFactories
    ↔ registered factory levels.history = true
  active : ∀ loop ∈ levels.modes.activeLoops,
    OfGame loop levels.history ∨ standing loop levels.history = .gone
  initialized : ∀ loop, loop ∈ levels.modes.initializedLoops ↔ Playing loop levels.history
  lawful : Lawful levelLaw levels.history

theorem kept_initial : Kept .initial where
  factories := fun factory => by simp [Levels.initial, LoopModes.empty, registered]
  active := fun loop hmem => by simp [Levels.initial, LoopModes.empty] at hmem
  initialized := fun loop => by
    simp [Levels.initial, LoopModes.empty, Playing, standing]
  lawful := trivial

section Step

variable {levels : Levels}

theorem Kept.of_unchanged (hkept : Kept levels) {modes : LoopModes} {entry : Entry}
    (hloops : modes.activeLoops = levels.modes.activeLoops)
    (hinitialized : modes.initializedLoops = levels.modes.initializedLoops)
    (hfactories : ∀ factory, factory ∈ modes.activeFactories
      ↔ registered factory (entry :: levels.history) = true)
    (hstanding : ∀ loop, standing loop (entry :: levels.history) = standing loop levels.history)
    (hlaw : levelLaw entry levels.history) : Kept ⟨modes, entry :: levels.history⟩ where
  factories := hfactories
  active := fun loop hmem => by
    rw [hstanding, ofGame_congr (hstanding loop)]
    exact hkept.active loop (hloops ▸ hmem)
  initialized := fun loop => by
    rw [playing_congr (hstanding loop), ← hkept.initialized loop]
    show loop ∈ modes.initializedLoops ↔ _
    rw [hinitialized]
  lawful := ⟨hlaw, hkept.lawful⟩

theorem Kept.register (hkept : Kept levels) (name : Option Text) (factory : Address) :
    Kept (levels.step (.registerLoopMode name factory)) := by
  by_cases hgame : isGame name factory
  · simp only [Levels.step, LoopModes.call, LoopModes.registerLoopMode, if_pos hgame]
    refine hkept.of_unchanged rfl rfl (fun other => ?_) (fun loop => rfl) rfl
    rw [LoopModes.ensureFactoryHooks, Finset.mem_insert, hkept.factories]
    by_cases hother : factory = other
    · subst hother
      simp [registered, hgame]
    · simp [registered, hother, Ne.symm hother]
  · simp only [Levels.step, LoopModes.call, LoopModes.registerLoopMode, if_neg hgame]
    refine hkept.of_unchanged rfl rfl (fun other => ?_) (fun loop => rfl) rfl
    rw [hkept.factories]
    simp [registered, hgame]

theorem Kept.unregister (hkept : Kept levels) (name : Option Text) (factory : Address) :
    Kept (levels.step (.unregisterLoopMode name factory)) := by
  by_cases hgame : isGame name factory
  · simp only [Levels.step, LoopModes.call, LoopModes.unregisterLoopMode, if_pos hgame]
    refine hkept.of_unchanged rfl rfl (fun other => ?_) (fun loop => rfl) rfl
    rw [Finset.mem_erase, hkept.factories]
    by_cases hother : factory = other
    · subst hother
      simp [registered, hgame]
    · simp [registered, hother, Ne.symm hother]
  · simp only [Levels.step, LoopModes.call, LoopModes.unregisterLoopMode, if_neg hgame]
    refine hkept.of_unchanged rfl rfl (fun other => ?_) (fun loop => rfl) rfl
    rw [hkept.factories]
    simp [registered, hgame]

theorem Kept.of_one_loop (hkept : Kept levels) {modes : LoopModes} {entry : Entry}
    (loop : Address)
    (hfactories : ∀ factory, factory ∈ modes.activeFactories
      ↔ registered factory (entry :: levels.history) = true)
    (hothers : ∀ other ≠ loop,
      standing other (entry :: levels.history) = standing other levels.history
        ∧ (other ∈ modes.activeLoops ↔ other ∈ levels.modes.activeLoops)
        ∧ (other ∈ modes.initializedLoops ↔ other ∈ levels.modes.initializedLoops))
    (hactive : loop ∈ modes.activeLoops → OfGame loop (entry :: levels.history)
      ∨ standing loop (entry :: levels.history) = .gone)
    (hinitialized : loop ∈ modes.initializedLoops ↔ Playing loop (entry :: levels.history))
    (hlaw : levelLaw entry levels.history) : Kept ⟨modes, entry :: levels.history⟩ where
  factories := hfactories
  active := fun other hmem => by
    by_cases heq : other = loop
    · subst heq
      exact hactive hmem
    · obtain ⟨hstanding, hloops, -⟩ := hothers other heq
      rw [hstanding, ofGame_congr hstanding]
      exact hkept.active other (hloops.1 hmem)
  initialized := fun other => by
    by_cases heq : other = loop
    · subst heq
      exact hinitialized
    · obtain ⟨hstanding, -, hloops⟩ := hothers other heq
      rw [playing_congr hstanding, ← hkept.initialized other]
      exact hloops
  lawful := ⟨hlaw, hkept.lawful⟩

variable {loop factory other : Address} {event : Option LevelEvent} {earlier : List Entry}

theorem standing_createLoopMode_of_ne (h : other ≠ loop) :
    standing other (⟨.createLoopMode factory loop, event⟩ :: earlier) = standing other earlier :=
  if_neg fun heq => h heq.1.symm

theorem standing_destroyLoopMode_of_ne (h : other ≠ loop) :
    standing other (⟨.destroyLoopMode factory loop, event⟩ :: earlier) = standing other earlier :=
  if_neg (Ne.symm h)

theorem standing_loopInit_of_ne {result : Bool} (h : other ≠ loop) :
    standing other (⟨.loopInit loop result, event⟩ :: earlier) = standing other earlier :=
  if_neg (Ne.symm h)

theorem standing_loopShutdown_of_ne (h : other ≠ loop) :
    standing other (⟨.loopShutdown loop, event⟩ :: earlier) = standing other earlier :=
  if_neg (Ne.symm h)

section

variable (hkept : Kept levels)

include hkept

theorem Kept.create (hpossible : Possible levels (.createLoopMode factory loop))
    (horderly : Orderly levels (.createLoopMode factory loop)) :
    Kept (levels.step (.createLoopMode factory loop)) := by
  have hidle : loop ∉ levels.modes.initializedLoops := fun hmem => by
    have halive := ((hkept.initialized loop).1 hmem).isAlive
    rw [hpossible] at halive
    cases halive
  by_cases hzero : loop = 0
  · subst hzero
    simp only [Levels.step, LoopModes.call, LoopModes.createLoopMode, ne_eq, not_true_eq_false,
      and_false, if_false]
    refine hkept.of_unchanged rfl rfl hkept.factories (fun other => ?_) rfl
    exact if_neg fun heq => heq.2 rfl
  have hnew (event) : standing loop (⟨.createLoopMode factory loop, event⟩ :: levels.history)
      = .alive (registered factory levels.history) [] := if_pos ⟨rfl, hzero⟩
  have hnotPlaying (event) :
      ¬ Playing loop (⟨.createLoopMode factory loop, event⟩ :: levels.history) := by
    rintro ⟨events, hplaying⟩
    rw [hnew] at hplaying
    injection hplaying with _ hevents
    cases hevents
  by_cases hactive : factory ∈ levels.modes.activeFactories
  · simp only [Levels.step, LoopModes.call, LoopModes.createLoopMode,
      if_pos (And.intro hactive hzero)]
    refine hkept.of_one_loop loop hkept.factories (fun other hne => ?_) (fun _ => ?_) ?_ rfl
    · refine ⟨standing_createLoopMode_of_ne hne, ?_, Iff.rfl⟩
      simp [LoopModes.ensureLoopHooks, hne]
    · rw [hkept.factories] at hactive
      exact Or.inl ⟨[], by rw [hnew, hactive]⟩
    · exact iff_of_false hidle (hnotPlaying _)
  · simp only [Levels.step, LoopModes.call, LoopModes.createLoopMode, hactive, false_and, if_false]
    refine hkept.of_one_loop loop hkept.factories (fun other hne => ?_) (fun hmem => ?_) ?_ rfl
    · exact ⟨standing_createLoopMode_of_ne hne, Iff.rfl, Iff.rfl⟩
    · exact absurd (horderly hmem) hactive
    · exact iff_of_false hidle (hnotPlaying _)

theorem Kept.destroy (horderly : Orderly levels (.destroyLoopMode factory loop)) :
    Kept (levels.step (.destroyLoopMode factory loop)) := by
  have hidle : loop ∉ levels.modes.initializedLoops := horderly
  have hgone (event) : standing loop (⟨.destroyLoopMode factory loop, event⟩ :: levels.history)
      = .gone := if_pos rfl
  have hnotPlaying (event) :
      ¬ Playing loop (⟨.destroyLoopMode factory loop, event⟩ :: levels.history) := by
    rintro ⟨events, hplaying⟩
    rw [hgone] at hplaying
    cases hplaying
  have hlaw : levelLaw ⟨.destroyLoopMode factory loop, none⟩ levels.history := fun hplaying =>
    hidle ((hkept.initialized loop).2 hplaying)
  by_cases hknown : loop ≠ 0 ∧ factory ∈ levels.modes.activeFactories
  · simp only [Levels.step, LoopModes.call, LoopModes.destroyLoopMode, if_pos hknown]
    refine hkept.of_one_loop loop hkept.factories (fun other hne => ?_) (fun _ => ?_) ?_ hlaw
    · refine ⟨standing_destroyLoopMode_of_ne hne, ?_, ?_⟩ <;> simp [hne]
    · exact Or.inr (hgone _)
    · exact iff_of_false (Finset.notMem_erase _ _) (hnotPlaying _)
  · simp only [Levels.step, LoopModes.call, LoopModes.destroyLoopMode, if_neg hknown]
    refine hkept.of_one_loop loop hkept.factories (fun other hne => ?_) (fun _ => ?_) ?_ hlaw
    · exact ⟨standing_destroyLoopMode_of_ne hne, Iff.rfl, Iff.rfl⟩
    · exact Or.inr (hgone _)
    · exact iff_of_false hidle (hnotPlaying _)

theorem Kept.init {result : Bool} (hpossible : Possible levels (.loopInit loop result)) :
    Kept (levels.step (.loopInit loop result)) := by
  by_cases hfirst : loop ≠ 0 ∧ result ∧ loop ∈ levels.modes.activeLoops
      ∧ loop ∉ levels.modes.initializedLoops
  · simp only [Levels.step, LoopModes.call, LoopModes.loopInit, if_pos hfirst]
    obtain ⟨-, -, hactive, hidle⟩ := hfirst
    obtain ⟨events, hstanding⟩ := (hkept.active loop hactive).resolve_right hpossible
    have hnew : standing loop (⟨.loopInit loop result, some .levelInit⟩ :: levels.history)
        = .alive true (.levelInit :: events) := by
      rw [standing, if_pos rfl, hstanding, Standing.add]
    refine hkept.of_one_loop loop hkept.factories (fun other hne => ?_) (fun _ => ?_) ?_ ?_
    · refine ⟨standing_loopInit_of_ne hne, Iff.rfl, ?_⟩
      simp [hne]
    · exact Or.inl ⟨_, hnew⟩
    · exact iff_of_true (Finset.mem_insert_self _ _) ⟨_, hnew⟩
    · exact ⟨⟨_, hstanding⟩, fun hplaying => hidle ((hkept.initialized loop).2 hplaying)⟩
  · simp only [Levels.step, LoopModes.call, LoopModes.loopInit, if_neg hfirst]
    refine hkept.of_unchanged rfl rfl hkept.factories (fun other => ?_) rfl
    rw [standing]
    split
    · cases standing other levels.history <;> rfl
    · rfl

theorem Kept.shutdown (loop : Address) : Kept (levels.step (.loopShutdown loop)) := by
  by_cases hknown : loop ≠ 0 ∧ loop ∈ levels.modes.initializedLoops
  · simp only [Levels.step, LoopModes.call, LoopModes.loopShutdown, if_pos hknown]
    have hplaying := (hkept.initialized loop).1 hknown.2
    obtain ⟨events, hstanding⟩ := hplaying
    have hnew : standing loop (⟨.loopShutdown loop, some .levelShutdown⟩ :: levels.history)
        = .alive true (.levelShutdown :: .levelInit :: events) := by
      rw [standing, if_pos rfl, hstanding, Standing.add]
    refine hkept.of_one_loop loop hkept.factories (fun other hne => ?_) (fun _ => ?_) ?_ ?_
    · refine ⟨standing_loopShutdown_of_ne hne, Iff.rfl, ?_⟩
      simp [hne]
    · exact Or.inl ⟨_, hnew⟩
    · refine iff_of_false (Finset.notMem_erase _ _) ?_
      rintro ⟨later, hlater⟩
      rw [hnew] at hlater
      cases hlater
    · exact ⟨events, hstanding⟩
  · simp only [Levels.step, LoopModes.call, LoopModes.loopShutdown, if_neg hknown]
    refine hkept.of_unchanged rfl rfl hkept.factories (fun other => ?_) rfl
    rw [standing]
    split
    · cases standing other levels.history <;> rfl
    · rfl

theorem Kept.step {call : NativeCall} (hpossible : Possible levels call)
    (horderly : Orderly levels call) : Kept (levels.step call) := by
  cases call with
  | registerLoopMode name factory => exact hkept.register name factory
  | unregisterLoopMode name factory => exact hkept.unregister name factory
  | createLoopMode factory loop => exact hkept.create hpossible horderly
  | loopInit loop result => exact hkept.init hpossible
  | loopShutdown loop => exact hkept.shutdown loop
  | destroyLoopMode factory loop => exact hkept.destroy horderly

end

end Step

/-! ## The law of a run -/

/-- **Level events come in pairs.** In a run of native calls that the engine can make, where no
loop is destroyed in a level and none is made by an unregistered factory at an address still in
`active_loops_`, every call keeps the law of the level events. -/
theorem level_events_paired (calls : List NativeCall)
    (hcalls : Heeds Levels.step (fun levels call => Possible levels call ∧ Orderly levels call)
      .initial calls) :
    Lawful levelLaw (run Levels.step .initial calls).history :=
  have hkept : Kept (run Levels.step .initial calls) :=
    Heeds.invariant (fun _ _ hkept hcall => hkept.step hcall.1 hcall.2) kept_initial hcalls
  hkept.lawful

/-- Two levels of a loop, then its destruction and another loop at its address. -/
def twoLevels : List NativeCall :=
  [.registerLoopMode (some "game".toList) 16, .createLoopMode 16 32, .loopInit 32 false,
    .loopInit 32 true, .loopShutdown 32, .loopInit 32 true, .loopShutdown 32,
    .destroyLoopMode 16 32, .createLoopMode 16 32, .loopInit 32 true,
    .unregisterLoopMode (some "game".toList) 16, .loopShutdown 32, .destroyLoopMode 16 32]

theorem twoLevels_paired : (run Levels.step .initial twoLevels).history.filterMap Entry.event
      = [.levelShutdown, .levelInit, .levelShutdown, .levelInit, .levelShutdown, .levelInit]
    ∧ Lawful levelLaw (run Levels.step .initial twoLevels).history :=
  ⟨by decide +kernel, level_events_paired twoLevels (by decide +kernel)⟩

/-- A loop that is destroyed in a level: its `LEVEL_INIT` is left without a `LEVEL_SHUTDOWN`. -/
theorem level_left_open : ¬ ∀ calls : List NativeCall, Heeds Levels.step Possible .initial calls →
    Lawful levelLaw (run Levels.step .initial calls).history := by
  intro hall
  have hlawful := hall [.registerLoopMode (some "game".toList) 16, .createLoopMode 16 32,
    .loopInit 32 true, .destroyLoopMode 16 32] ⟨trivial, rfl, by decide, trivial, trivial⟩
  exact hlawful.1 ⟨[], rfl⟩

end KeelS2.Adapter
