import KeelS2.Lib.LockOrder
import KeelS2.Lib.Runs

/-!
# The host's locks

Where the functions of the host and of its services take `lifecycle_mutex_`, the recursive
`state_mutex_` and the mutexes of the service registries, and with which of them they call a
plugin, an adapter or the engine. Whatever is called may call the host again, on the same thread.
-/

namespace KeelS2.Hosting.Locks

open Function (update update_of_ne update_self)

inductive HostFunction
  | start
  | completeStartup
  | stop
  /-- `CoreCommand`, and `DispatchCommand` of the host's own command. -/
  | coreCommand
  /-- `DispatchCommand` of a plugin's command. -/
  | dispatchCommand
  | visitEntities
  /-- Any other function that takes `state_mutex_`. -/
  | other
  deriving DecidableEq, Repr

/-- It begins with `lifecycle_mutex_`, and waits for it. -/
def HostFunction.takesLifecycle : HostFunction → Bool
  | .start | .completeStartup | .coreCommand => true
  | _ => false

/-- It calls with `state_mutex_` held. -/
def HostFunction.keeps : HostFunction → Bool
  | .dispatchCommand => false
  | _ => true

/-- It calls with `state_mutex_` released. -/
def HostFunction.releases : HostFunction → Bool
  | .completeStartup | .visitEntities => false
  | _ => true

/-- It releases both to wait for the dispatches. -/
def HostFunction.drains : HostFunction → Bool
  | .start | .stop => true
  | _ => false

/-- The registries that are locked on their own, and the one that an adapter may get to from
inside of them. -/
inductive Registry
  | service (number : Nat)
  | keelHook
  deriving DecidableEq, Repr

inductive Lock
  | lifecycle
  | state
  | registry (registry : Registry)
  deriving DecidableEq, Repr

/-- Where a thread stands, and what it has there. -/
inductive Frame
  | waitsLifecycle (function : HostFunction)
  | waitsState (function : HostFunction) (lifecycle : Bool)
  /-- It has `state_mutex_`. -/
  | inside (function : HostFunction) (lifecycle : Bool)
  /-- It has called something else, with these of the two. -/
  | calls (function : HostFunction) (lifecycle state : Bool)
  /-- `WaitForDispatchEntries`, with neither. -/
  | drains (function : HostFunction)
  | waitsRegistry (registry : Registry)
  | inRegistry (registry : Registry)
  /-- It has called the adapter with the registry locked. -/
  | engine (registry : Registry)
  deriving DecidableEq, Repr

def Frame.has : Frame → Lock → Bool
  | waitsState _ lifecycle, .lifecycle | inside _ lifecycle, .lifecycle
  | calls _ lifecycle _, .lifecycle => lifecycle
  | inside _ _, .state => true
  | calls _ _ state, .state => state
  | inRegistry registry, .registry other | engine registry, .registry other => registry == other
  | _, _ => false

/-- It has a lock. -/
def Frame.locked : Frame → Bool
  | waitsState _ lifecycle => lifecycle
  | calls _ lifecycle state => lifecycle || state
  | inside _ _ | inRegistry _ | engine _ => true
  | _ => false

/-- It has a registry. -/
def Frame.hasRegistry : Frame → Bool
  | inRegistry _ | engine _ => true
  | _ => false

inductive Course
  | returns
  /-- Something is called with `state_mutex_` held. -/
  | keeps
  | releases
  | drains
  /-- The adapter is called with the registry locked. -/
  | engine
  deriving DecidableEq, Repr

structure State where
  lifecycleMutex : Option Nat
  /-- Who has it, and how often besides. -/
  stateMutex : Option (Nat × Nat)
  registryMutex : Registry → Option Nat
  callStack : Nat → List Frame

def State.initial : State where
  lifecycleMutex := none
  stateMutex := none
  registryMutex := fun _ => none
  callStack := fun _ => []

inductive Action
  | enter (thread : Nat) (function : HostFunction)
  | lockRegistry (thread : Nat) (registry : Registry)
  | go (thread : Nat) (course : Course)
  deriving DecidableEq, Repr

namespace State

variable (state : State) (thread : Nat)

def setStack (stack : List Frame) : State :=
  { state with callStack := update state.callStack thread stack }

def lockState : Option State :=
  match state.stateMutex with
  | none => some { state with stateMutex := some (thread, 0) }
  | some (owner, more) =>
    if owner = thread then some { state with stateMutex := some (owner, more + 1) } else none

def unlockState : State :=
  match state.stateMutex with
  | some (owner, more + 1) => { state with stateMutex := some (owner, more) }
  | _ => { state with stateMutex := none }

def unlockLifecycle (lifecycle : Bool) : State :=
  if lifecycle then { state with lifecycleMutex := none } else state

/-- The thread goes on; `none` if it cannot. -/
def go (course : Course) : Option State :=
  match state.callStack thread, course with
  | .waitsLifecycle function :: frames, _ =>
    if state.lifecycleMutex = none then
      some ({ state with lifecycleMutex := some thread }.setStack thread
        (.waitsState function true :: frames))
    else none
  | .waitsState function lifecycle :: frames, _ =>
    (state.lockState thread).map (·.setStack thread (.inside function lifecycle :: frames))
  | .inside _ lifecycle :: frames, .returns =>
    some ((state.unlockState.unlockLifecycle lifecycle).setStack thread frames)
  | .inside function lifecycle :: frames, .keeps =>
    if function.keeps then some (state.setStack thread (.calls function lifecycle true :: frames))
    else none
  | .inside function lifecycle :: frames, .releases =>
    if function.releases then
      some (state.unlockState.setStack thread (.calls function lifecycle false :: frames))
    else none
  | .inside function lifecycle :: frames, .drains =>
    if function.drains then
      some ((state.unlockState.unlockLifecycle lifecycle).setStack thread
        (.drains function :: frames))
    else none
  | .calls function lifecycle state' :: frames, .returns =>
    if state' then some (state.setStack thread (.inside function lifecycle :: frames))
    else if function = .dispatchCommand then
      some ((state.unlockLifecycle lifecycle).setStack thread frames)
    else some (state.setStack thread (.waitsState function lifecycle :: frames))
  | .drains function :: frames, _ =>
    some (state.setStack thread (.waitsLifecycle function :: frames))
  | .waitsRegistry registry :: frames, _ =>
    if state.registryMutex registry = none then
      some ({ state with
        registryMutex := update state.registryMutex registry (some thread) }.setStack
          thread (.inRegistry registry :: frames))
    else none
  | .inRegistry registry :: frames, .returns =>
    some ({ state with
      registryMutex := update state.registryMutex registry none }.setStack thread frames)
  | .inRegistry registry :: frames, .engine =>
    some (state.setStack thread (.engine registry :: frames))
  | .engine registry :: frames, .returns =>
    some (state.setStack thread (.inRegistry registry :: frames))
  | _, _ => none

/-- The thread is where something else than the host runs. -/
def outside : Bool :=
  match state.callStack thread with
  | [] | .calls _ _ _ :: _ | .engine _ :: _ => true
  | _ => false

/-- The thread may be about to lock the registry. -/
def mayLock (registry : Registry) : Bool :=
  match state.callStack thread with
  | [] | .calls _ _ _ :: _ | .engine _ :: _ | .inside _ _ :: _ => true
  | .inRegistry (.service _) :: _ => registry = .keelHook
  | _ => false

end State

/-- One step; an action that cannot be taken changes nothing. -/
def step (state : State) : Action → State
  | .enter thread function =>
    if state.outside thread then
      if function.takesLifecycle then
        state.setStack thread (.waitsLifecycle function :: state.callStack thread)
      else if function = .stop then
        -- `std::try_to_lock`
        if state.lifecycleMutex = none then
          { state with lifecycleMutex := some thread }.setStack thread
            (.waitsState .stop true :: state.callStack thread)
        else state
      else state.setStack thread (.waitsState function false :: state.callStack thread)
    else state
  | .lockRegistry thread registry =>
    if state.mayLock thread registry then
      state.setStack thread (.waitsRegistry registry :: state.callStack thread)
    else state
  | .go thread course => (state.go thread course).getD state

/-- What is called from a call is called where it may take its locks: `Start`, `CompleteStartup`
and core commands where the host has called with no lock, a wait for the dispatches there too, and
nothing that locks further from the adapter that was called with a registry locked. -/
def orderly (state : State) : Action → Bool
  | .enter thread function =>
    if function.takesLifecycle then (state.callStack thread).all fun frame => !frame.locked
    else !(state.callStack thread).any Frame.hasRegistry ||
      (state.callStack thread).any (·.has .state)
  | .lockRegistry thread _ =>
    match state.callStack thread with
    | .inRegistry _ :: _ => true
    | stack => !stack.any Frame.hasRegistry
  | .go thread .drains =>
    match state.callStack thread with
    | .inside _ _ :: frames => frames.all fun frame => !frame.locked
    | _ => true
  | _ => true

/-! ## What is kept -/

namespace Frame

variable {frame : Frame}

theorem unlocked_has (hfree : frame.locked = false) (lock : Lock) : frame.has lock = false := by
  cases frame <;> cases lock <;> simp_all [locked, has]

theorem hasRegistry_of_has {registry : Registry} (hhas : frame.has (.registry registry) = true) :
    frame.hasRegistry = true := by
  cases frame with
  | inRegistry _ => rfl
  | engine _ => rfl
  | _ => cases hhas

end Frame

/-- A frame stands where it may wait for what it waits for, with the locks of those below it. -/
def Frame.Fits : Frame → List Frame → Prop
  | .waitsLifecycle _, frames | .drains _, frames => ∀ frame ∈ frames, frame.locked = false
  | .waitsState function _, frames | .inside function _, frames | .calls function _ _, frames =>
    (function.takesLifecycle = true → ∀ frame ∈ frames, frame.locked = false) ∧
      ((∀ frame ∈ frames, frame.hasRegistry = false) ∨ ∃ frame ∈ frames, frame.has .state = true)
  | .waitsRegistry registry, frames | .inRegistry registry, frames | .engine registry, frames =>
    (∀ frame ∈ frames, frame.hasRegistry = false) ∨
      registry = .keelHook ∧ ∃ number below, frames = .inRegistry (.service number) :: below ∧
        ∀ frame ∈ below, frame.hasRegistry = false

/-- Every frame fits those below it. -/
def Fits : List Frame → Prop
  | [] => True
  | frame :: frames => frame.Fits frames ∧ Fits frames

namespace State

/-- How often the thread has `state_mutex_`. -/
def depth (state : State) (thread : Nat) : Nat :=
  match state.stateMutex with
  | none => 0
  | some (owner, more) => if owner = thread then more + 1 else 0

structure Safe (state : State) : Prop where
  fits : ∀ thread, Fits (state.callStack thread)
  lifecycle : ∀ thread, state.lifecycleMutex = some thread →
    ∃ frame ∈ state.callStack thread, frame.has .lifecycle = true
  depths : ∀ thread, (state.callStack thread).countP (·.has .state) = state.depth thread
  registry : ∀ registry thread, state.registryMutex registry = some thread →
    ∃ frame ∈ state.callStack thread, frame.has (.registry registry) = true

variable {state after : State} {thread other : Nat} {frame next : Frame} {frames : List Frame}
variable {lifecycle : Bool}

/-! ## The recursive mutex -/

theorem lockState_depth (hlocked : state.lockState thread = some after) :
    after.depth thread = state.depth thread + 1 ∧
      ∀ other, other ≠ thread → after.depth other = state.depth other := by
  unfold lockState at hlocked
  split at hlocked
  · rename_i hfree
    cases hlocked
    refine ⟨by simp [depth, hfree], fun other hother => ?_⟩
    simp [depth, hfree, Ne.symm hother]
  · rename_i owner more howner
    split at hlocked
    · rename_i hsame
      cases hlocked
      refine ⟨by simp [depth, howner, hsame], fun other hother => ?_⟩
      simp [depth, howner, hsame, Ne.symm hother]
    · cases hlocked

theorem lockState_else (hlocked : state.lockState thread = some after) :
    after.lifecycleMutex = state.lifecycleMutex ∧ after.registryMutex = state.registryMutex ∧
      after.callStack = state.callStack := by
  unfold lockState at hlocked
  split at hlocked
  · cases hlocked
    exact ⟨rfl, rfl, rfl⟩
  · split at hlocked
    · cases hlocked
      exact ⟨rfl, rfl, rfl⟩
    · cases hlocked

theorem unlockState_depth (hheld : 0 < state.depth thread) :
    state.unlockState.depth thread + 1 = state.depth thread ∧
      ∀ other, other ≠ thread → state.unlockState.depth other = state.depth other := by
  unfold unlockState depth at *
  rcases howner : state.stateMutex with _ | ⟨owner, _ | more⟩
  · simp [howner] at hheld
  · simp only [howner] at hheld ⊢
    by_cases hsame : owner = thread
    · subst hsame
      exact ⟨by simp, fun other hother => by simp [Ne.symm hother]⟩
    · simp [hsame] at hheld
  · simp only [howner] at hheld ⊢
    by_cases hsame : owner = thread
    · subst hsame
      exact ⟨by simp, fun other hother => by simp [Ne.symm hother]⟩
    · simp [hsame] at hheld

theorem unlockState_else (state : State) :
    state.unlockState.lifecycleMutex = state.lifecycleMutex ∧
      state.unlockState.registryMutex = state.registryMutex ∧
        state.unlockState.callStack = state.callStack := by
  unfold unlockState
  split <;> exact ⟨rfl, rfl, rfl⟩

theorem Safe.state_owner (hsafe : Safe state) {more : Nat}
    (howner : state.stateMutex = some (thread, more)) :
    ∃ frame ∈ state.callStack thread, frame.has .state = true := by
  have hcount := hsafe.depths thread
  simp only [depth, howner, if_true] at hcount
  have hpos : 0 < (state.callStack thread).countP (·.has .state) := by omega
  exact List.countP_pos_iff.1 hpos

theorem Safe.state_frame (hsafe : Safe state) (hmem : frame ∈ state.callStack thread)
    (hhas : frame.has .state = true) : ∃ more, state.stateMutex = some (thread, more) := by
  have hpos : 0 < (state.callStack thread).countP (·.has .state) :=
    List.countP_pos_iff.2 ⟨frame, hmem, hhas⟩
  rw [hsafe.depths thread] at hpos
  unfold depth at hpos
  rcases howner : state.stateMutex with _ | ⟨owner, more⟩
  · simp [howner] at hpos
  · simp only [howner] at hpos
    split at hpos
    · rename_i hsame
      exact ⟨more, by rw [hsame]⟩
    · cases hpos

/-! ## A thread moves -/

theorem Safe.moves (hsafe : Safe state) {stack : List Frame}
    (hcallStack : after.callStack = update state.callStack thread stack)
    (hfits : Fits stack)
    (hlifecycle : ∀ owner, after.lifecycleMutex = some owner →
      owner = thread ∧ (∃ frame ∈ stack, frame.has .lifecycle = true) ∨
        owner ≠ thread ∧ state.lifecycleMutex = some owner)
    (hcount : stack.countP (·.has .state) = after.depth thread)
    (hdepth : ∀ other, other ≠ thread → after.depth other = state.depth other)
    (hregistry : ∀ registry owner, after.registryMutex registry = some owner →
      owner = thread ∧ (∃ frame ∈ stack, frame.has (.registry registry) = true) ∨
        owner ≠ thread ∧ state.registryMutex registry = some owner) : Safe after := by
  refine ⟨fun other => ?_, fun owner howner => ?_, fun other => ?_, fun registry owner howner => ?_⟩
  · rw [hcallStack]
    by_cases hother : other = thread
    · rw [hother, update_self]
      exact hfits
    · rw [update_of_ne hother]
      exact hsafe.fits other
  · rw [hcallStack]
    rcases hlifecycle owner howner with ⟨rfl, hhas⟩ | ⟨hother, hbefore⟩
    · rw [update_self]
      exact hhas
    · rw [update_of_ne hother]
      exact hsafe.lifecycle owner hbefore
  · rw [hcallStack]
    by_cases hother : other = thread
    · rw [hother, update_self]
      exact hcount
    · rw [update_of_ne hother, hdepth other hother]
      exact hsafe.depths other
  · rw [hcallStack]
    rcases hregistry registry owner howner with ⟨rfl, hhas⟩ | ⟨hother, hbefore⟩
    · rw [update_self]
      exact hhas
    · rw [update_of_ne hother]
      exact hsafe.registry registry owner hbefore

theorem exists_has {lock : Lock} {olds tops : List Frame}
    (hkept : ∀ old ∈ olds, old.has lock = true → ∃ top ∈ tops, top.has lock = true)
    (hhas : ∃ frame ∈ olds ++ frames, frame.has lock = true) :
    ∃ frame ∈ tops ++ frames, frame.has lock = true := by
  obtain ⟨frame, hmem, hhas⟩ := hhas
  rcases List.mem_append.1 hmem with hold | hbelow
  · obtain ⟨top, htop, hhas'⟩ := hkept frame hold hhas
    exact ⟨top, List.mem_append_left _ htop, hhas'⟩
  · exact ⟨frame, List.mem_append_right _ hbelow, hhas⟩

section

variable (hsafe : Safe state)

include hsafe

theorem Safe.lifecycle_stays {olds : List Frame} (hstack : state.callStack thread = olds ++ frames)
    (tops : List Frame)
    (hkept : ∀ old ∈ olds, old.has .lifecycle = true → ∃ top ∈ tops, top.has .lifecycle = true)
    (owner : Nat) (howner : state.lifecycleMutex = some owner) :
    owner = thread ∧ (∃ frame ∈ tops ++ frames, frame.has .lifecycle = true) ∨
      owner ≠ thread ∧ state.lifecycleMutex = some owner := by
  by_cases hsame : owner = thread
  · have hhas := hsafe.lifecycle owner howner
    rw [hsame, hstack] at hhas
    exact .inl ⟨hsame, exists_has hkept hhas⟩
  · exact .inr ⟨hsame, howner⟩

theorem Safe.registry_stays {olds : List Frame} (hstack : state.callStack thread = olds ++ frames)
    (tops : List Frame) (registry : Registry)
    (hkept : ∀ old ∈ olds, old.has (.registry registry) = true → ∃ top ∈ tops, top.has (.registry
      registry) = true)
    (owner : Nat) (howner : state.registryMutex registry = some owner) :
    owner = thread ∧ (∃ frame ∈ tops ++ frames, frame.has (.registry registry) = true) ∨
      owner ≠ thread ∧ state.registryMutex registry = some owner := by
  by_cases hsame : owner = thread
  · have hhas := hsafe.registry registry owner howner
    rw [hsame, hstack] at hhas
    exact .inl ⟨hsame, exists_has hkept hhas⟩
  · exact .inr ⟨hsame, howner⟩

theorem Safe.exchange {olds : List Frame} (hstack : state.callStack thread = olds ++ frames)
    (tops : List Frame) (hfits : Fits (tops ++ frames))
    (hlocks : ∀ lock, tops.countP (·.has lock) = olds.countP (·.has lock)) :
    Safe (state.setStack thread (tops ++ frames)) := by
  have hkept : ∀ lock, ∀ old ∈ olds, old.has lock = true → ∃ top ∈ tops, top.has lock = true := by
    intro lock old hold hhas
    have hpos : 0 < tops.countP (·.has lock) := by
      rw [hlocks lock]
      exact List.countP_pos_iff.2 ⟨old, hold, hhas⟩
    exact List.countP_pos_iff.1 hpos
  apply hsafe.moves rfl hfits
  · exact hsafe.lifecycle_stays hstack tops (hkept _)
  · have hcount := hsafe.depths thread
    rw [hstack, List.countP_append, ← hlocks, ← List.countP_append] at hcount
    exact hcount
  · exact fun _ _ => rfl
  · exact fun registry => hsafe.registry_stays hstack tops registry (hkept _)

theorem Safe.takesState (hstack : state.callStack thread = frame :: frames)
    (hlocked : (state.lockState thread).map (·.setStack thread (next :: frames)) = some after)
    (hfits : Fits (next :: frames)) (hnot : frame.has .state = false)
    (hhas : next.has .state = true) (hsame : ∀ lock, lock ≠ .state → next.has lock = frame.has lock) :
    Safe after := by
  obtain ⟨locked, hlock, rfl⟩ := Option.map_eq_some_iff.1 hlocked
  obtain ⟨hmine, hothers⟩ := lockState_depth hlock
  obtain ⟨hlifecycle, hregistry, hstack'⟩ := lockState_else hlock
  have holds : state.callStack thread = [frame] ++ frames := hstack
  have hkept : ∀ lock, lock ≠ .state → ∀ old ∈ [frame], old.has lock = true →
      ∃ top ∈ [next], top.has lock = true := by
    intro lock hne old hold hhas
    rw [List.mem_singleton.1 hold, ← hsame lock hne] at hhas
    exact ⟨next, List.mem_singleton_self _, hhas⟩
  apply hsafe.moves (by rw [setStack, hstack']) hfits
  · intro owner howner
    exact hsafe.lifecycle_stays holds [next] (hkept _ (by simp)) owner (hlifecycle ▸ howner)
  · have hcount := hsafe.depths thread
    rw [hstack, List.countP_cons_of_neg (by simp [hnot])] at hcount
    have hcons : (next :: frames).countP (·.has .state) = frames.countP (·.has .state) + 1 :=
      List.countP_cons_of_pos hhas
    rw [hcons, hcount]
    exact hmine.symm
  · exact hothers
  · intro registry owner howner
    exact hsafe.registry_stays holds [next] registry (hkept _ (by simp)) owner (hregistry ▸ howner)

theorem Safe.leavesState (hstack : state.callStack thread = frame :: frames)
    (hfits : Fits (next :: frames)) (hhas : frame.has .state = true)
    (hnot : next.has .state = false)
    (hsame : ∀ lock, lock ≠ .state → next.has lock = frame.has lock) :
    Safe (state.unlockState.setStack thread (next :: frames)) := by
  have hcount := hsafe.depths thread
  have hcons : (frame :: frames).countP (·.has .state) = frames.countP (·.has .state) + 1 :=
    List.countP_cons_of_pos hhas
  rw [hstack, hcons] at hcount
  obtain ⟨hmine, hothers⟩ := @unlockState_depth state thread (by omega)
  obtain ⟨hlifecycle, hregistry, hstack'⟩ := unlockState_else state
  have holds : state.callStack thread = [frame] ++ frames := hstack
  have hkept : ∀ lock, lock ≠ .state → ∀ old ∈ [frame], old.has lock = true →
      ∃ top ∈ [next], top.has lock = true := by
    intro lock hne old hold hhas
    rw [List.mem_singleton.1 hold, ← hsame lock hne] at hhas
    exact ⟨next, List.mem_singleton_self _, hhas⟩
  apply hsafe.moves (by rw [setStack, hstack']) hfits
  · intro owner howner
    exact hsafe.lifecycle_stays holds [next] (hkept _ (by simp)) owner (hlifecycle ▸ howner)
  · rw [List.countP_cons_of_neg (by simp [hnot])]
    change _ = state.unlockState.depth thread
    omega
  · exact hothers
  · intro registry owner howner
    exact hsafe.registry_stays holds [next] registry (hkept _ (by simp)) owner (hregistry ▸ howner)

theorem Safe.takesLifecycle {olds : List Frame} (hstack : state.callStack thread = olds ++ frames)
    (hfits : Fits (next :: frames)) (hhas : next.has .lifecycle = true)
    (hnone : ∀ old ∈ olds, ∀ lock, old.has lock = false) (hnext : next.has .state = false) :
    Safe ({ state with lifecycleMutex := some thread }.setStack thread (next :: frames)) := by
  apply hsafe.moves rfl hfits
  · intro owner howner
    cases howner
    exact .inl ⟨rfl, next, List.mem_cons_self, hhas⟩
  · have hcount := hsafe.depths thread
    have hzero : olds.countP (·.has .state) = 0 :=
      List.countP_eq_zero.2 fun old hold => by simp [hnone old hold]
    rw [hstack, List.countP_append, hzero, Nat.zero_add] at hcount
    rw [List.countP_cons_of_neg (by simp [hnext])]
    exact hcount
  · exact fun _ _ => rfl
  · intro registry owner howner
    refine hsafe.registry_stays hstack [next] registry (fun old hold hhas => ?_) owner howner
    rw [hnone old hold] at hhas
    cases hhas

end

theorem Safe.leavesLifecycle (hsafe : Safe state)
    (hstack : state.callStack thread = frame :: frames) (tops : List Frame)
    (hfits : Fits (tops ++ frames)) (hhas : frame.has .lifecycle = lifecycle)
    (hstate : frame.has .state = false) (hregistry : frame.hasRegistry = false)
    (hnone : ∀ top ∈ tops, ∀ lock, top.has lock = false) :
    Safe ((state.unlockLifecycle lifecycle).setStack thread (tops ++ frames)) := by
  have holds : state.callStack thread = [frame] ++ frames := hstack
  have hzero : tops.countP (·.has .state) = 0 :=
    List.countP_eq_zero.2 fun top hold => by simp [hnone top hold]
  have helse : (state.unlockLifecycle lifecycle).registryMutex = state.registryMutex ∧
      (state.unlockLifecycle lifecycle).callStack = state.callStack ∧
        (state.unlockLifecycle lifecycle).stateMutex = state.stateMutex := by
    unfold unlockLifecycle
    split <;> exact ⟨rfl, rfl, rfl⟩
  have hdepth : ∀ other, ((state.unlockLifecycle lifecycle).setStack thread
      (tops ++ frames)).depth other = state.depth other := by
    intro other
    simp [depth, setStack, helse.2.2]
  apply hsafe.moves (by rw [setStack, helse.2.1]) hfits
  · intro owner howner
    cases lifecycle with
    | true => cases howner
    | false =>
      refine hsafe.lifecycle_stays holds tops (fun old hold hhas' => ?_) owner howner
      rw [List.mem_singleton.1 hold, hhas] at hhas'
      cases hhas'
  · have hcount := hsafe.depths thread
    rw [hstack, List.countP_cons_of_neg (by simp [hstate])] at hcount
    rw [hdepth, List.countP_append, hzero, Nat.zero_add]
    exact hcount
  · exact fun other _ => hdepth other
  · intro registry owner howner
    refine hsafe.registry_stays holds tops registry (fun old hold hhas' => ?_) owner
      (helse.1 ▸ howner)
    rw [List.mem_singleton.1 hold] at hhas'
    rw [Frame.hasRegistry_of_has hhas'] at hregistry
    cases hregistry

theorem Safe.turnsRegistry (hsafe : Safe state)
    (hstack : state.callStack thread = frame :: frames) (tops : List Frame)
    (hfits : Fits (tops ++ frames)) {registry : Registry} {owner : Option Nat}
    (howner : ∀ thread', owner = some thread' → thread' = thread ∧
      ∃ top ∈ tops, top.has (.registry registry) = true)
    (hhas : ∀ lock, lock ≠ .registry registry → frame.has lock = false)
    (hnone : ∀ top ∈ tops, top.has .state = false) :
    Safe ({ state with
      registryMutex := update state.registryMutex registry owner }.setStack thread
        (tops ++ frames)) := by
  have holds : state.callStack thread = [frame] ++ frames := hstack
  have hgone : ∀ lock, lock ≠ .registry registry → ∀ old ∈ [frame], old.has lock = true →
      ∃ top ∈ tops, top.has lock = true := by
    intro lock hne old hold hhas'
    rw [List.mem_singleton.1 hold, hhas lock hne] at hhas'
    cases hhas'
  have hzero : tops.countP (·.has .state) = 0 :=
    List.countP_eq_zero.2 fun top hold => by simp [hnone top hold]
  apply hsafe.moves rfl hfits
  · exact hsafe.lifecycle_stays holds tops (hgone _ (by simp))
  · have hcount := hsafe.depths thread
    rw [hstack, List.countP_cons_of_neg (by simp [hhas])] at hcount
    rw [List.countP_append, hzero, Nat.zero_add]
    exact hcount
  · exact fun _ _ => rfl
  · intro other owner' howner'
    change update state.registryMutex registry owner other = some owner' at howner'
    by_cases hsame : other = registry
    · subst hsame
      rw [update_self] at howner'
      obtain ⟨rfl, top, htop, hhas'⟩ := howner owner' howner'
      exact .inl ⟨rfl, top, List.mem_append_left _ htop, hhas'⟩
    · rw [update_of_ne hsame] at howner'
      exact hsafe.registry_stays holds tops other (hgone _ (by simp [hsame])) owner' howner'

theorem setStack_unlockLifecycle (stack stack' : List Frame) :
    ((state.setStack thread stack).unlockLifecycle lifecycle).setStack thread stack' =
      (state.unlockLifecycle lifecycle).setStack thread stack' := by
  cases lifecycle <;> simp [unlockLifecycle, setStack]

theorem Safe.leavesBoth (hsafe : Safe state) {function : HostFunction}
    (hstack : state.callStack thread = .inside function lifecycle :: frames) (tops : List Frame)
    (hfits : Fits (tops ++ frames)) (hnone : ∀ top ∈ tops, ∀ lock, top.has lock = false) :
    Safe ((state.unlockState.unlockLifecycle lifecycle).setStack thread (tops ++ frames)) := by
  have hcalls : Fits (.calls function lifecycle false :: frames) := by
    have hall := hsafe.fits thread
    rw [hstack] at hall
    exact hall
  have hleft := hsafe.leavesState hstack hcalls rfl rfl (by
    intro lock hne
    cases lock with
    | state => exact absurd rfl hne
    | _ => rfl)
  have hboth := @Safe.leavesLifecycle _ thread _ frames lifecycle hleft
    (update_self ..) tops hfits rfl rfl rfl hnone
  rwa [setStack_unlockLifecycle] at hboth

theorem Safe.goesOn (hsafe : Safe state) (hstack : state.callStack thread = frame :: frames)
    (hfits : frame.Fits frames → next.Fits frames)
    (hlocks : ∀ lock, next.has lock = frame.has lock) :
    Safe (state.setStack thread (next :: frames)) := by
  have hall := hsafe.fits thread
  rw [hstack] at hall
  have holds : state.callStack thread = [frame] ++ frames := hstack
  apply hsafe.exchange holds [next]
  · exact ⟨hfits hall.1, hall.2⟩
  · intro lock
    simp [hlocks]

theorem go_safe (hsafe : Safe state) {course : Course}
    (horderly : orderly state (.go thread course) = true)
    (hgo : state.go thread course = some after) : Safe after := by
  have hall : ∀ frame frames, state.callStack thread = frame :: frames →
      frame.Fits frames ∧ Fits frames := by
    intro frame frames hstack
    have hfits := hsafe.fits thread
    rw [hstack] at hfits
    exact hfits
  unfold go at hgo
  split at hgo
  · rename_i _ function frames hstack
    obtain ⟨hfits, hbelow⟩ := hall _ _ hstack
    split at hgo
    · cases hgo
      have holds : state.callStack thread = [.waitsLifecycle function] ++ frames := hstack
      apply hsafe.takesLifecycle holds
      · refine ⟨⟨fun _ => hfits, .inl fun frame hmem => ?_⟩, hbelow⟩
        by_contra hregistry
        have hfree := hfits frame hmem
        cases frame <;> simp_all [Frame.hasRegistry, Frame.locked]
      · rfl
      · intro old hold lock
        rw [List.mem_singleton.1 hold]
        cases lock <;> rfl
      · rfl
    · cases hgo
  · rename_i _ function lifecycle frames hstack
    have hfits := hall (.waitsState function lifecycle) frames hstack
    refine hsafe.takesState hstack hgo hfits rfl rfl fun lock hne => ?_
    cases lock with
    | state => exact absurd rfl hne
    | _ => rfl
  · rename_i function lifecycle frames hstack
    cases hgo
    apply hsafe.leavesBoth hstack [] (hall _ _ hstack).2
    intro top htop
    cases htop
  · rename_i function lifecycle frames hstack
    split at hgo
    · cases hgo
      exact hsafe.goesOn hstack id fun lock => by cases lock <;> rfl
    · cases hgo
  · rename_i function lifecycle frames hstack
    split at hgo
    · cases hgo
      have hfits := hall (.inside function lifecycle) frames hstack
      refine hsafe.leavesState hstack hfits rfl rfl fun lock hne => ?_
      cases lock with
      | state => exact absurd rfl hne
      | _ => rfl
    · cases hgo
  · rename_i function lifecycle frames hstack
    split at hgo
    · cases hgo
      apply hsafe.leavesBoth hstack [.drains function]
      · simp only [orderly, hstack, List.all_eq_true, Bool.not_eq_true'] at horderly
        exact ⟨horderly, (hall _ _ hstack).2⟩
      · intro top htop lock
        rw [List.mem_singleton.1 htop]
        cases lock <;> rfl
    · cases hgo
  · rename_i function lifecycle state' frames hstack
    split at hgo
    · rename_i hheld
      subst hheld
      cases hgo
      exact hsafe.goesOn hstack id fun lock => by cases lock <;> rfl
    · rename_i hfree
      rw [Bool.not_eq_true] at hfree
      subst hfree
      split at hgo
      · cases hgo
        apply hsafe.leavesLifecycle hstack [] (hall _ _ hstack).2 rfl rfl rfl
        intro top htop
        cases htop
      · cases hgo
        exact hsafe.goesOn hstack id fun lock => by cases lock <;> rfl
  · rename_i _ function frames hstack
    cases hgo
    exact hsafe.goesOn hstack id fun lock => by cases lock <;> rfl
  · rename_i _ registry frames hstack
    split at hgo
    · cases hgo
      have hfits := hall (.waitsRegistry registry) frames hstack
      apply hsafe.turnsRegistry hstack [.inRegistry registry] hfits
      · intro owner howner
        exact ⟨(Option.some.inj howner).symm, _, List.mem_singleton_self _, by simp [Frame.has]⟩
      · intro lock _
        cases lock <;> rfl
      · intro top htop
        rw [List.mem_singleton.1 htop]
        rfl
    · cases hgo
  · rename_i registry frames hstack
    cases hgo
    apply hsafe.turnsRegistry hstack [] (hall _ _ hstack).2
    · intro owner howner
      cases howner
    · intro lock hne
      cases lock with
      | registry other =>
        have hother : registry ≠ other := fun h => hne (by rw [h])
        simp [Frame.has, hother]
      | _ => rfl
    · intro top htop
      cases htop
  · rename_i registry frames hstack
    cases hgo
    exact hsafe.goesOn hstack id fun lock => by cases lock <;> rfl
  · rename_i registry frames hstack
    cases hgo
    exact hsafe.goesOn hstack id fun lock => by cases lock <;> rfl
  · cases hgo

theorem Safe.pushes (hsafe : Safe state) (thread : Nat) (hfits : next.Fits (state.callStack thread))
    (hnone : ∀ lock, next.has lock = false) :
    Safe (state.setStack thread (next :: state.callStack thread)) := by
  have hstack : state.callStack thread = [] ++ state.callStack thread := rfl
  apply hsafe.exchange hstack [next]
  · exact ⟨hfits, hsafe.fits thread⟩
  · intro lock
    simp [hnone]

end State

open State in
theorem step_safe {state : State} {action : Action} (hsafe : Safe state)
    (horderly : orderly state action = true) : Safe (step state action) := by
  cases action with
  | enter thread function =>
    have hregistry : function.takesLifecycle = false →
        (∀ frame ∈ state.callStack thread, frame.hasRegistry = false) ∨
          ∃ frame ∈ state.callStack thread, frame.has .state = true := by
      intro hnot
      simp only [orderly, hnot, Bool.false_eq_true, if_false, Bool.or_eq_true,
        Bool.not_eq_true', List.any_eq_false, List.any_eq_true, Bool.not_eq_true] at horderly
      exact horderly
    simp only [step]
    split
    · split
      · rename_i htakes
        simp only [orderly, htakes, if_true, List.all_eq_true, Bool.not_eq_true'] at horderly
        exact hsafe.pushes thread horderly fun lock => by cases lock <;> rfl
      · rename_i hnot
        rw [Bool.not_eq_true] at hnot
        split
        · rename_i hstop
          subst hstop
          split
          · have hstack : state.callStack thread = [] ++ state.callStack thread := rfl
            apply hsafe.takesLifecycle hstack
            · refine ⟨⟨?_, hregistry rfl⟩, hsafe.fits thread⟩
              intro htakes
              cases htakes
            · rfl
            · intro old hold
              cases hold
            · rfl
          · exact hsafe
        · refine hsafe.pushes thread ⟨?_, hregistry hnot⟩ fun lock => by cases lock <;> rfl
          intro htakes
          rw [hnot] at htakes
          cases htakes
    · exact hsafe
  | lockRegistry thread registry =>
    simp only [step]
    split
    · rename_i hmay
      refine hsafe.pushes thread ?_ fun lock => by cases lock <;> rfl
      have hall := hsafe.fits thread
      cases hstack : state.callStack thread with
      | nil => exact .inl fun frame hmem => by cases hmem
      | cons frame frames =>
        rw [hstack] at hall
        simp only [mayLock, hstack] at hmay
        simp only [orderly, hstack] at horderly
        cases frame with
        | inRegistry below =>
          cases below with
          | keelHook => cases hmay
          | service number =>
            -- only what has no other registry may go on to the one of the hooks
            rcases hall.1 with hnone | ⟨hhook, _⟩
            · exact .inr ⟨of_decide_eq_true hmay, number, frames, rfl, hnone⟩
            · cases hhook
        | _ =>
          refine .inl fun frame hmem => ?_
          rw [Bool.not_eq_true', List.any_eq_false] at horderly
          exact Bool.not_eq_true _ ▸ horderly frame hmem
    · exact hsafe
  | go thread course =>
    simp only [step]
    cases hgo : state.go thread course with
    | none => exact hsafe
    | some after => exact go_safe hsafe horderly hgo

/-! ## Who waits for whom -/

namespace State

/-- Who has the lock. -/
def holder (state : State) : Lock → Option Nat
  | .lifecycle => state.lifecycleMutex
  | .state => state.stateMutex.map (·.1)
  | .registry registry => state.registryMutex registry

/-- The lock that the thread waits for; who has the recursive one gets it again. -/
def wants (state : State) (thread : Nat) : Option Lock :=
  match state.callStack thread with
  | .waitsLifecycle _ :: _ => some .lifecycle
  | .waitsState _ _ :: _ => if state.holder .state = some thread then none else some .state
  | .waitsRegistry registry :: _ => some (.registry registry)
  | _ => none

/-- Who waits for `lifecycle_mutex_` has neither it nor `state_mutex_`, and nobody waits for
himself in the end. -/
structure Disciplined (state : State) : Prop where
  lifecycle : ∀ thread, state.wants thread = some .lifecycle →
    state.holder .lifecycle ≠ some thread ∧ state.holder .state ≠ some thread
  acyclic : ∀ thread, ¬Relation.TransGen (Lib.WaitsFor state.wants state.holder) thread thread

end State

/-- The order in which the locks are taken. -/
def Lock.rank : Lock → Nat
  | .lifecycle => 0
  | .state => 1
  | .registry (.service _) => 2
  | .registry .keelHook => 3

namespace State

variable {state : State} {thread : Nat} {lock : Lock}

theorem Safe.holder_frame (hsafe : Safe state) (hholder : state.holder lock = some thread) :
    ∃ frame ∈ state.callStack thread, frame.has lock = true := by
  cases lock with
  | lifecycle => exact hsafe.lifecycle thread hholder
  | state =>
    obtain ⟨⟨owner, more⟩, howner, hsame⟩ := Option.map_eq_some_iff.1 hholder
    cases hsame
    exact hsafe.state_owner howner
  | registry registry => exact hsafe.registry registry thread hholder

theorem Safe.inOrder (hsafe : Safe state) : Lib.InOrder state.wants state.holder Lock.rank := by
  intro thread wanted held hwants hholder
  obtain ⟨frame, hmem, hhas⟩ := hsafe.holder_frame hholder
  have hall := hsafe.fits thread
  unfold wants at hwants
  split at hwants
  · rename_i function frames hstack
    cases hwants
    rw [hstack] at hmem hall
    rcases List.mem_cons.1 hmem with rfl | hbelow
    · cases hhas
    · rw [Frame.unlocked_has (hall.1 frame hbelow)] at hhas
      cases hhas
  · rename_i function lifecycle frames hstack
    split at hwants
    · cases hwants
    · rename_i hnot
      cases hwants
      cases held with
      | lifecycle => decide
      | state => exact absurd hholder hnot
      | registry registry =>
        rw [hstack] at hmem hall
        rcases List.mem_cons.1 hmem with rfl | hbelow
        · cases hhas
        rcases hall.1.2 with hnone | ⟨holds, hmem', hstate⟩
        · have hregistry := hnone frame hbelow
          rw [Frame.hasRegistry_of_has hhas] at hregistry
          cases hregistry
        · obtain ⟨more, howner⟩ := hsafe.state_frame
            (hstack ▸ List.mem_cons_of_mem _ hmem') hstate
          exact absurd (by simp [holder, howner]) hnot
  · rename_i registry frames hstack
    cases hwants
    cases held with
    | lifecycle => cases registry <;> simp [Lock.rank]
    | state => cases registry <;> simp [Lock.rank]
    | registry other =>
      rw [hstack] at hmem hall
      rcases List.mem_cons.1 hmem with rfl | hbelow
      · cases hhas
      have hregistry := Frame.hasRegistry_of_has hhas
      rcases hall.1 with hnone | ⟨rfl, number, below, rfl, hnone⟩
      · rw [hnone frame hbelow] at hregistry
        cases hregistry
      · rcases List.mem_cons.1 hbelow with rfl | hlower
        · cases other with
          | service _ => simp [Lock.rank]
          | keelHook => cases hhas
        · rw [hnone frame hlower] at hregistry
          cases hregistry
  · cases hwants

theorem Safe.disciplined (hsafe : Safe state) : state.Disciplined := by
  refine ⟨?_, hsafe.inOrder.no_cycle⟩
  intro thread hwants
  have horder := fun held => hsafe.inOrder thread .lifecycle held hwants
  -- nothing comes before `lifecycle_mutex_`
  exact ⟨fun hholder => Nat.not_lt_zero _ (horder .lifecycle hholder),
    fun hholder => Nat.not_lt_zero _ (horder .state hholder)⟩

theorem initial_safe : State.initial.Safe where
  fits := fun _ => trivial
  lifecycle := by
    intro thread howner
    cases howner
  depths := fun _ => rfl
  registry := by
    intro registry thread howner
    cases howner

end State

/-- Nobody waits for `lifecycle_mutex_` with it or with `state_mutex_`, and no threads wait for
each other, as long as the host is called from its own calls where it may take its locks. -/
theorem disciplined_if_orderly (actions : List Action)
    (hheeds : Lib.Heeds step (fun state action => orderly state action = true) State.initial
      actions) :
    (Lib.run step State.initial actions).Disciplined :=
  (Lib.Heeds.invariant (fun _ _ hsafe horderly => step_safe hsafe horderly) State.initial_safe
    hheeds).disciplined

/-- A core command loads a plugin, whose load callback asks for another interface. -/
def loadsPlugin (thread : Nat) : List Action :=
  [.enter thread .coreCommand, .go thread .returns, .go thread .returns, .go thread .releases,
    .enter thread .other, .go thread .returns, .go thread .returns, .go thread .returns,
    .go thread .returns, .go thread .returns]

/-- A second core command waits for the first. -/
theorem disciplined_if_orderly_loads :
    (Lib.run step State.initial (.enter 1 .coreCommand :: loadsPlugin 0 ++
      [.enter 0 .coreCommand, .go 1 .returns, .enter 0 .stop])).Disciplined :=
  disciplined_if_orderly _ (by decide)

/-- The load callback has the engine run a core command. -/
def commandsInLoad : List Action :=
  [.enter 0 .coreCommand, .go 0 .returns, .go 0 .returns, .go 0 .releases, .enter 0 .coreCommand]

/-- The thread waits for itself. -/
theorem load_waits_for_itself :
    ¬∀ actions : List Action, (Lib.run step State.initial actions).Disciplined := by
  intro hall
  have hdisciplined := (hall commandsInLoad).lifecycle 0 (by decide)
  exact hdisciplined.1 (by decide)

end KeelS2.Hosting.Locks
