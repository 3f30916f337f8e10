import KeelS2.Lib.Counters
import KeelS2.Lib.Runs

/-!
# Start, Stop and the dispatch gate

`Host::Start`, `Host::Stop` and the two functions a game adapter brackets a dispatch with, on any
number of threads. A step takes a lock, or does what is done until the lock is released again, or
ends a wait. Plugins and services, which are called with `state_mutex_` released, may call the
host in their turn: what a thread is in is a stack.

A run is what one `Start` begins; `run` numbers them, and `resources` is the run whose resources
there are.
-/

namespace KeelS2.Hosting

open Function (update update_of_ne update_self)

inductive HostState
  | stopped
  | starting
  | running
  | stopping
  deriving DecidableEq, Repr

inductive Operation
  | start
  | stop
  deriving DecidableEq, Repr

/-- Where a thread stands in a function it has called. -/
inductive Frame
  /-- `Start`, before `lifecycle_mutex_`. -/
  | start
  /-- Behind it, and before `state_mutex_`. -/
  | startState
  | startChecks
  /-- `LoadPlugins` has called a plugin, with `state_mutex_` released. -/
  | loading
  | starting
  /-- `Stop`, which has got `lifecycle_mutex_` at once, before `state_mutex_`. -/
  | stopState
  | stopChecks
  /-- `WaitForDispatchEntries`, with neither lock. -/
  | waits (operation : Operation) (run : Nat)
  | takesLifecycle (operation : Operation) (run : Nat)
  | takesState (operation : Operation) (run : Nat)
  /-- `ReleaseResources`; drained once it has waited for the dispatches. -/
  | releasing (operation : Operation) (run : Nat) (drained : Bool)
  /-- It has called a plugin or a service, with `state_mutex_` released. -/
  | yielded (operation : Operation) (run : Nat) (drained : Bool)
  /-- `BeginGameCommandDispatch`, behind the count. -/
  | entered
  /-- A dispatch that was let in, with the locks it has. -/
  | dispatching (lifecycle state : Bool)
  deriving DecidableEq, Repr

/-- What is not up to the host. -/
inductive Course
  /-- What `Start` was given will not do; a native operation is active; a service cannot stop. -/
  | refuses
  /-- `Start` cannot have its adapter or its command. -/
  | fails
  | throws
  /-- A plugin or a service is called. -/
  | yields
  /-- `ReleaseResources` waits for the dispatches. -/
  | drains
  | completes
  | locksLifecycle
  | locksState
  | unlocks
  deriving DecidableEq, Repr

structure State where
  hostState : HostState
  run : Nat
  resources : Option Nat
  dispatchOpen : Bool
  /-- `g_dispatch_entries`. -/
  entries : Nat
  lifecycleMutex : Option Nat
  /-- Who has the recursive mutex, and how often besides. -/
  stateMutex : Option (Nat × Nat)
  callStack : Nat → List Frame
  /-- What the last `Stop` returned, if no run has begun since. -/
  stopResult : Option Bool

def State.initial : State where
  hostState := .stopped
  run := 0
  resources := none
  dispatchOpen := false
  entries := 0
  lifecycleMutex := none
  stateMutex := none
  callStack := fun _ => []
  stopResult := none

inductive Action
  | call (thread : Nat) (operation : Operation)
  | enter (thread : Nat)
  | go (thread : Nat) (course : Course)
  deriving DecidableEq, Repr

namespace State

variable (state : State) (thread : Nat)

def setStack (stack : List Frame) : State :=
  { state with callStack := update state.callStack thread stack }

def lockLifecycle : Option State :=
  if state.lifecycleMutex = none then some { state with lifecycleMutex := some thread } else none

def lockState : Option State :=
  match state.stateMutex with
  | none => some { state with stateMutex := some (thread, 0) }
  | some (owner, more) =>
    if owner = thread then some { state with stateMutex := some (owner, more + 1) } else none

def unlockState : State :=
  match state.stateMutex with
  | some (owner, more + 1) => { state with stateMutex := some (owner, more) }
  | _ => { state with stateMutex := none }

/-- Both locks are released. -/
def unlockBoth : State :=
  { state.unlockState with lifecycleMutex := none }

/-- `Stop` returns; what `Start` returns is not kept. -/
def answer (operation : Operation) (result : Bool) : State :=
  match operation with
  | .start => state
  | .stop => { state with stopResult := some result }

/-- `Start` behind its checks. -/
def startSection (frames : List Frame) (first : Bool) : Course → Option State
  | .fails =>
    if first then
      some ({ state with hostState := .stopping }.setStack thread
        (.releasing .start state.run false :: frames))
    else none
  | .throws =>
    some ({ state with dispatchOpen := false, hostState := .stopping }.unlockBoth.setStack thread
      (.waits .start state.run :: frames))
  | .yields => some (state.unlockState.setStack thread (.loading :: frames))
  | .completes =>
    some ({ state with hostState := .running, dispatchOpen := true }.unlockBoth.setStack thread
      frames)
  | _ => none

/-- A part of `ReleaseResources`, up to where it releases `state_mutex_` or waits. -/
def releaseSection (frames : List Frame) (operation : Operation) (run : Nat) (drained : Bool) :
    Course → Option State
  | .refuses =>
    if drained then none
    else some ((state.answer operation false).unlockBoth.setStack thread frames)
  | .yields =>
    some (state.unlockState.setStack thread (.yielded operation run drained :: frames))
  | .drains =>
    if drained = false ∧ state.entries = 0 then
      some (state.setStack thread (.releasing operation run true :: frames))
    else none
  | .completes =>
    if drained then
      some (({ state with resources := none, hostState := .stopped }.answer operation
        true).unlockBoth.setStack thread frames)
    else none
  | _ => none

/-- `Stop` behind `state_mutex_`. -/
def stopSection (frames : List Frame) (course : Course) : State :=
  if state.hostState = .stopped then
    (state.answer .stop true).unlockBoth.setStack thread frames
  else if course = .refuses then
    (state.answer .stop false).unlockBoth.setStack thread frames
  else match state.hostState with
    | .running =>
      { state with hostState := .stopping, dispatchOpen := false }.unlockBoth.setStack thread
        (.waits .stop state.run :: frames)
    | .stopping => state.setStack thread (.releasing .stop state.run false :: frames)
    | _ => (state.answer .stop false).unlockBoth.setStack thread frames

/-- A dispatch that was let in takes locks, releases them, and ends. -/
def dispatchSection (frames : List Frame) (lifecycle held : Bool) : Course → Option State
  | .locksLifecycle =>
    if lifecycle then none
    else (state.lockLifecycle thread).map
      (·.setStack thread (.dispatching true held :: frames))
  | .locksState =>
    if held then none
    else (state.lockState thread).map (·.setStack thread (.dispatching lifecycle true :: frames))
  | .unlocks =>
    if held then some (state.unlockState.setStack thread (.dispatching lifecycle false :: frames))
    else if lifecycle then
      some ({ state with lifecycleMutex := none }.setStack thread
        (.dispatching false false :: frames))
    else none
  | .completes =>
    if lifecycle || held then none
    else some ({ state with entries := state.entries - 1 }.setStack thread frames)
  | _ => none

/-- The thread goes on; `none` if it cannot. -/
def go (course : Course) : Option State :=
  match state.callStack thread with
  | [] => none
  | .start :: frames =>
    (state.lockLifecycle thread).map (·.setStack thread (.startState :: frames))
  | .startState :: frames =>
    (state.lockState thread).map (·.setStack thread (.startChecks :: frames))
  | .startChecks :: frames =>
    if state.hostState ≠ .stopped ∨ course = .refuses then
      some (state.unlockBoth.setStack thread frames)
    else
      { state with
        hostState := .starting, run := state.run + 1, resources := some (state.run + 1)
        stopResult := none }.startSection thread frames true course
  | .loading :: frames => (state.lockState thread).map (·.setStack thread (.starting :: frames))
  | .starting :: frames => state.startSection thread frames false course
  | .stopState :: frames =>
    (state.lockState thread).map (·.setStack thread (.stopChecks :: frames))
  | .stopChecks :: frames => some (state.stopSection thread frames course)
  | .waits operation run :: frames =>
    if state.entries = 0 then
      some (state.setStack thread (.takesLifecycle operation run :: frames))
    else none
  | .takesLifecycle operation run :: frames =>
    (state.lockLifecycle thread).map (·.setStack thread (.takesState operation run :: frames))
  | .takesState operation run :: frames =>
    -- nothing is looked at again
    (state.lockState thread).map (·.setStack thread (.releasing operation run false :: frames))
  | .releasing operation run drained :: frames =>
    state.releaseSection thread frames operation run drained course
  | .yielded operation run drained :: frames =>
    (state.lockState thread).map (·.setStack thread (.releasing operation run drained :: frames))
  | .entered :: frames =>
    if state.dispatchOpen then
      some (state.setStack thread (.dispatching false false :: frames))
    else some ({ state with entries := state.entries - 1 }.setStack thread frames)
  | .dispatching lifecycle held :: frames =>
    state.dispatchSection thread frames lifecycle held course

/-- The thread is where something else than the host runs. -/
def outside : Bool :=
  match state.callStack thread with
  | [] | .loading :: _ | .yielded _ _ _ :: _ | .dispatching _ _ :: _ => true
  | _ => false

end State

/-- One step; an action that cannot be taken changes nothing. -/
def step (state : State) : Action → State
  | .call thread operation =>
    if state.outside thread then
      match operation with
      | .start => state.setStack thread (.start :: state.callStack thread)
      | .stop =>
        match state.lockLifecycle thread with
        | none => state.answer .stop false
        | some locked => locked.setStack thread (.stopState :: state.callStack thread)
    else state
  | .enter thread =>
    if state.outside thread then
      { state with entries := state.entries + 1 }.setStack thread
        (.entered :: state.callStack thread)
    else state
  | .go thread course => (state.go thread course).getD state

/-- The step gives `ReleaseResources` the locks that were released for a wait, and another run has
begun in the meantime. -/
def overtaken (state : State) : Action → Bool
  | .go thread _ =>
    match state.callStack thread with
    | .takesState _ run :: _ => state.hostState ≠ .stopped && state.run ≠ run
    | _ => false
  | _ => false

/-! ## What is kept -/

/-- Whoever stands there has `lifecycle_mutex_`. -/
def Frame.critical : Frame → Bool
  | .startState | .startChecks | .loading | .starting | .stopState | .stopChecks => true
  | .takesState _ _ | .releasing _ _ _ | .yielded _ _ _ => true
  | .dispatching lifecycle _ => lifecycle
  | _ => false

/-- The frame is counted in `g_dispatch_entries`. -/
def Frame.counted : Frame → Bool
  | .entered | .dispatching _ _ => true
  | _ => false

/-- A dispatch was let in, and has not ended. -/
def Frame.admitted : Frame → Bool
  | .dispatching _ _ => true
  | _ => false

namespace State

/-- No dispatch that was let in is under way. -/
def Quiet (state : State) : Prop :=
  ∀ thread, ∀ frame ∈ state.callStack thread, frame.admitted = false

/-- What a frame counts on while others go on. -/
def Ok (state : State) : Frame → Prop
  | .loading | .starting => state.hostState = .starting
  | .waits _ run | .takesLifecycle _ run | .takesState _ run =>
    run ≤ state.run ∧
      (run = state.run → state.hostState = .stopping ∨ state.hostState = .stopped)
  | .releasing _ run drained | .yielded _ run drained =>
    (state.hostState = .stopped ∨ state.hostState = .stopping ∧ run = state.run) ∧
      (drained = true → state.Quiet)
  | _ => True

structure Safe (state : State) : Prop where
  exclusive : ∀ thread, ∀ frame ∈ state.callStack thread, frame.critical = true →
    state.lifecycleMutex = some thread
  single : ∀ thread, (state.callStack thread).countP Frame.critical ≤ 1
  counted : Lib.Counts (fun thread => (state.callStack thread).countP Frame.counted) state.entries
  open_running : state.dispatchOpen = true → state.hostState = .running
  live : state.hostState ≠ .stopped → state.resources = some state.run
  stopped : state.hostState = .stopped → state.resources = none ∧ state.Quiet
  frames : ∀ thread, ∀ frame ∈ state.callStack thread, state.Ok frame
  answered : state.stopResult = some true → state.hostState = .stopped

variable {state after : State} {thread other : Nat} {frame next : Frame} {frames : List Frame}
variable {operation : Operation} {course : Course}

/-! ## The locks and the stacks do not tell on each other -/

@[simp] theorem setStack_callStack_self (stack : List Frame) :
    (state.setStack thread stack).callStack thread = stack := by
  simp [setStack]

/-- Nothing but the state lock is different. -/
structure SameBut (state after : State) : Prop where
  hostState : after.hostState = state.hostState
  run : after.run = state.run
  resources : after.resources = state.resources
  dispatchOpen : after.dispatchOpen = state.dispatchOpen
  entries : after.entries = state.entries
  lifecycleMutex : after.lifecycleMutex = state.lifecycleMutex
  callStack : after.callStack = state.callStack
  stopResult : after.stopResult = state.stopResult

theorem lockState_same (hlocked : state.lockState thread = some after) : SameBut state after := by
  unfold lockState at hlocked
  split at hlocked
  · cases hlocked
    exact ⟨rfl, rfl, rfl, rfl, rfl, rfl, rfl, rfl⟩
  · split at hlocked
    · cases hlocked
      exact ⟨rfl, rfl, rfl, rfl, rfl, rfl, rfl, rfl⟩
    · cases hlocked

theorem unlockState_same (state : State) : SameBut state state.unlockState := by
  unfold unlockState
  split <;> exact ⟨rfl, rfl, rfl, rfl, rfl, rfl, rfl, rfl⟩

theorem SameBut.safe (hsame : SameBut state after) (hsafe : Safe state) : Safe after := by
  obtain ⟨h1, h2, h3, h4, h5, h6, h7, h8⟩ := hsame
  cases state
  cases after
  simp only at h1 h2 h3 h4 h5 h6 h7 h8
  subst h1 h2 h3 h4 h5 h6 h7 h8
  exact ⟨hsafe.exclusive, hsafe.single, hsafe.counted, hsafe.open_running, hsafe.live,
    hsafe.stopped, fun thread frame hmem => by cases frame <;> exact hsafe.frames thread _ hmem,
    hsafe.answered⟩

/-! ## Who has the lifecycle lock -/

theorem Safe.alone (hsafe : Safe state) (hstack : state.callStack thread = frame :: frames)
    (hcritical : frame.critical = true) :
    (∀ below ∈ frames, below.critical = false) ∧
      ∀ other, other ≠ thread → ∀ frame ∈ state.callStack other, frame.critical = false := by
  have hsingle := hsafe.single thread
  rw [hstack, List.countP_cons_of_pos hcritical] at hsingle
  have hnone : frames.countP Frame.critical = 0 := by omega
  have howner := hsafe.exclusive thread frame (by rw [hstack]; exact List.mem_cons_self) hcritical
  refine ⟨fun below hmem => by simpa using List.countP_eq_zero.1 hnone below hmem, ?_⟩
  intro other hne frame hmem
  by_contra hother
  rw [Bool.not_eq_false] at hother
  have howner' := hsafe.exclusive other frame hmem hother
  rw [howner] at howner'
  exact hne (Option.some.inj howner').symm

theorem Safe.quiet (hsafe : Safe state) (hzero : state.entries = 0) : state.Quiet := by
  intro thread frame hmem
  have hcounts := hsafe.counted
  rw [hzero] at hcounts
  have hnone := List.countP_eq_zero.1 (hcounts.none thread) frame hmem
  cases frame <;> simp_all [Frame.counted, Frame.admitted]

theorem counted_setStack (tops : List Frame) {olds : List Frame} {entries : Nat}
    (hsafe : Safe state) (hstack : state.callStack thread = olds ++ frames)
    (hentries : entries + olds.countP Frame.counted =
      state.entries + tops.countP Frame.counted) :
    Lib.Counts (fun other => (update state.callStack thread (tops ++ frames) other).countP
      Frame.counted) entries := by
  have hupdate : (fun other => (update state.callStack thread (tops ++ frames)
      other).countP Frame.counted) = update
        (fun other => (state.callStack other).countP Frame.counted) thread
        ((tops ++ frames).countP Frame.counted) := by
    funext other
    by_cases hother : other = thread
    · simp [hother]
    · simp [update_of_ne hother]
  rw [hupdate]
  refine hsafe.counted.update ?_
  rw [hstack, List.countP_append, List.countP_append]
  omega

/-! ## A thread moves -/

/-- How the lifecycle lock goes with the frames that are exchanged. -/
inductive Handover (lifecycle lifecycle' : Option Nat) (thread : Nat) (olds tops : List Frame) :
    Prop
  | kept (hsame : lifecycle' = lifecycle)
      (hcount : tops.countP Frame.critical = olds.countP Frame.critical)
  | taken (hfree : lifecycle = none) (htaken : lifecycle' = some thread)
      (hcount : tops.countP Frame.critical = 1)
  | released (hcount : olds.countP Frame.critical = 1) (hfree : lifecycle' = none)
      (hnone : tops.countP Frame.critical = 0)

theorem Handover.exclusive {lifecycle' : Option Nat} {olds tops : List Frame}
    (hhandover : Handover state.lifecycleMutex lifecycle' thread olds tops)
    (hsafe : Safe state) (hstack : state.callStack thread = olds ++ frames) :
    (∀ other, ∀ frame ∈ update state.callStack thread (tops ++ frames) other,
        frame.critical = true → lifecycle' = some other) ∧
      ∀ other, (update state.callStack thread (tops ++ frames) other).countP
        Frame.critical ≤ 1 := by
  have hsingle := hsafe.single thread
  rw [hstack, List.countP_append] at hsingle
  have hmine : ∀ frame ∈ olds ++ frames, frame.critical = true →
      state.lifecycleMutex = some thread := fun frame hmem =>
    hsafe.exclusive thread frame (hstack ▸ hmem)
  cases hhandover with
  | kept hsame hcount =>
    subst hsame
    refine ⟨fun other frame hmem hcritical => ?_, fun other => ?_⟩
    · by_cases hother : other = thread
      · subst hother
        rw [update_self] at hmem
        rcases List.mem_append.1 hmem with htop | hbelow
        · have hpos : 0 < olds.countP Frame.critical := by
            rw [← hcount]
            exact List.countP_pos_iff.2 ⟨frame, htop, hcritical⟩
          obtain ⟨old, hold, hcritical'⟩ := List.countP_pos_iff.1 hpos
          exact hmine old (List.mem_append_left _ hold) hcritical'
        · exact hmine frame (List.mem_append_right _ hbelow) hcritical
      · rw [update_of_ne hother] at hmem
        exact hsafe.exclusive other frame hmem hcritical
    · by_cases hother : other = thread
      · subst hother
        rw [update_self, List.countP_append, hcount]
        exact hsingle
      · rw [update_of_ne hother]
        exact hsafe.single other
  | taken hfree htaken hcount =>
    have hnobody : ∀ other, ∀ frame ∈ state.callStack other, frame.critical = false := by
      intro other frame hmem
      by_contra hcritical
      rw [Bool.not_eq_false] at hcritical
      have howner := hsafe.exclusive other frame hmem hcritical
      rw [hfree] at howner
      cases howner
    refine ⟨fun other frame hmem hcritical => ?_, fun other => ?_⟩
    · by_cases hother : other = thread
      · rw [hother]
        exact htaken
      · rw [update_of_ne hother] at hmem
        exact absurd (hnobody other frame hmem) (by simp [hcritical])
    · by_cases hother : other = thread
      · subst hother
        have hbelow : frames.countP Frame.critical = 0 := by
          refine List.countP_eq_zero.2 fun frame hmem => ?_
          simp [hnobody other frame (hstack ▸ List.mem_append_right _ hmem)]
        rw [update_self, List.countP_append, hcount, hbelow]
      · rw [update_of_ne hother]
        exact hsafe.single other
  | released hcount hfree hnone =>
    obtain ⟨old, hold, hcritical'⟩ := List.countP_pos_iff.1 (by omega :
      0 < olds.countP Frame.critical)
    have howner := hmine old (List.mem_append_left _ hold) hcritical'
    have hbelow : frames.countP Frame.critical = 0 := by omega
    refine ⟨fun other frame hmem hcritical => ?_, fun other => ?_⟩
    · by_cases hother : other = thread
      · subst hother
        rw [update_self] at hmem
        have hpos : 0 < (tops ++ frames).countP Frame.critical :=
          List.countP_pos_iff.2 ⟨frame, hmem, hcritical⟩
        rw [List.countP_append] at hpos
        omega
      · rw [update_of_ne hother] at hmem
        have howner' := hsafe.exclusive other frame hmem hcritical
        rw [howner] at howner'
        exact absurd (Option.some.inj howner').symm hother
    · by_cases hother : other = thread
      · subst hother
        rw [update_self, List.countP_append]
        omega
      · rw [update_of_ne hother]
        exact hsafe.single other

theorem Safe.moves (hsafe : Safe state) {olds : List Frame}
    (hstack : state.callStack thread = olds ++ frames) (tops : List Frame) {entries : Nat}
    {lifecycle : Option Nat} {held : Option (Nat × Nat)} {result : Option Bool}
    (hafter : after = { state with
      entries := entries, lifecycleMutex := lifecycle, stateMutex := held, stopResult := result
      callStack := update state.callStack thread (tops ++ frames) })
    (hlifecycle : Handover state.lifecycleMutex lifecycle thread olds tops)
    (hentries : entries + olds.countP Frame.counted =
      state.entries + tops.countP Frame.counted)
    (hok : ∀ frame ∈ tops, state.Ok frame)
    (hadmitted : ∀ frame ∈ tops, frame.admitted = true →
      state.dispatchOpen = true ∨ ∃ old ∈ olds, old.admitted = true)
    (hresult : result = some true → state.hostState = .stopped) : Safe after := by
  subst hafter
  obtain ⟨hexclusive, hsingle⟩ := hlifecycle.exclusive hsafe hstack
  -- nobody is let in while the host does not run
  have hquiet : state.hostState ≠ .running → state.Quiet → ∀ other,
      ∀ frame ∈ update state.callStack thread (tops ++ frames) other,
        frame.admitted = false := by
    intro hnot hquiet other frame hmem
    by_cases hother : other = thread
    · subst hother
      rw [update_self] at hmem
      rcases List.mem_append.1 hmem with htop | hbelow
      · by_contra hin
        rw [Bool.not_eq_false] at hin
        rcases hadmitted frame htop hin with hopen | ⟨old, hold, hin'⟩
        · exact hnot (hsafe.open_running hopen)
        · have hout := hquiet other old (hstack ▸ List.mem_append_left _ hold)
          exact absurd (hout.symm.trans hin') (by decide)
      · exact hquiet other frame (hstack ▸ List.mem_append_right _ hbelow)
    · rw [update_of_ne hother] at hmem
      exact hquiet other frame hmem
  have hkept : ∀ frame, state.Ok frame → Ok { state with
      entries := entries, lifecycleMutex := lifecycle, stateMutex := held, stopResult := result
      callStack := update state.callStack thread (tops ++ frames) } frame := by
    intro frame hframe
    cases frame with
    | releasing operation run drained =>
      refine ⟨hframe.1, fun hdrained => hquiet ?_ (hframe.2 hdrained)⟩
      rcases hframe.1 with hstate | ⟨hstate, _⟩ <;> simp [hstate]
    | yielded operation run drained =>
      refine ⟨hframe.1, fun hdrained => hquiet ?_ (hframe.2 hdrained)⟩
      rcases hframe.1 with hstate | ⟨hstate, _⟩ <;> simp [hstate]
    | _ => exact hframe
  have hframes : ∀ other, ∀ frame ∈ update state.callStack thread (tops ++ frames) other,
      state.Ok frame := by
    intro other frame hmem
    by_cases hother : other = thread
    · subst hother
      rw [update_self] at hmem
      rcases List.mem_append.1 hmem with htop | hbelow
      · exact hok frame htop
      · exact hsafe.frames other frame (hstack ▸ List.mem_append_right _ hbelow)
    · rw [update_of_ne hother] at hmem
      exact hsafe.frames other frame hmem
  have hstill : state.hostState = .stopped → state.resources = none ∧ ∀ other,
      ∀ frame ∈ update state.callStack thread (tops ++ frames) other,
        frame.admitted = false := by
    intro hstopped
    refine ⟨(hsafe.stopped hstopped).1, hquiet ?_ (hsafe.stopped hstopped).2⟩
    simp [hstopped]
  exact ⟨hexclusive, hsingle, counted_setStack tops hsafe hstack hentries, hsafe.open_running,
    hsafe.live, hstill, fun other frame hmem => hkept frame (hframes other frame hmem), hresult⟩

theorem Safe.turns (hsafe : Safe state) (hstack : state.callStack thread = frame :: frames)
    (hcritical : frame.critical = true) (hcounted : frame.counted = false) (top : Frame)
    (hcritical' : top.critical = true) (hcounted' : top.counted = false)
    {hostState : HostState} {run : Nat} {resources : Option Nat} {dispatchOpen : Bool}
    {result : Option Bool}
    (hafter : after = { state with
      hostState := hostState, run := run, resources := resources, dispatchOpen := dispatchOpen
      stopResult := result
      callStack := update state.callStack thread (top :: frames) })
    (htop : after.Ok top) (hopen : dispatchOpen = true → hostState = .running)
    (hlive : hostState ≠ .stopped → resources = some run)
    (hstopped : hostState = .stopped → resources = none ∧ state.Quiet)
    (hanswered : result = some true → hostState = .stopped)
    (hwaits : ∀ earlier ≤ state.run,
      (earlier = state.run → state.hostState = .stopping ∨ state.hostState = .stopped) →
        earlier ≤ run ∧ (earlier = run → hostState = .stopping ∨ hostState = .stopped)) :
    Safe after := by
  have hstack' : state.callStack thread = [frame] ++ frames := hstack
  have hhandover : Handover state.lifecycleMutex state.lifecycleMutex thread [frame] [top] :=
    .kept rfl (by simp [hcritical, hcritical'])
  obtain ⟨hexclusive, hsingle⟩ := hhandover.exclusive hsafe hstack'
  obtain ⟨hbelow, hothers⟩ := hsafe.alone hstack hcritical
  have hquiet : state.Quiet → ∀ other,
      ∀ frame ∈ update state.callStack thread (top :: frames) other,
        frame.admitted = false := by
    intro hquiet other frame hmem
    by_cases hother : other = thread
    · subst hother
      rw [update_self] at hmem
      rcases List.mem_cons.1 hmem with rfl | hlower
      · cases frame <;> simp_all [Frame.counted, Frame.admitted]
      · exact hquiet other frame (hstack ▸ List.mem_cons_of_mem _ hlower)
    · rw [update_of_ne hother] at hmem
      exact hquiet other frame hmem
  -- those without the lock wait for it, or stand nowhere the state matters
  have hkept : ∀ below, below.critical = false → state.Ok below → after.Ok below := by
    intro below hnot hbelow
    subst hafter
    cases below with
    | waits operation earlier => exact hwaits earlier hbelow.1 hbelow.2
    | takesLifecycle operation earlier => exact hwaits earlier hbelow.1 hbelow.2
    | start => trivial
    | entered => trivial
    | dispatching lifecycle held => trivial
    | _ => cases hnot
  have hframes : ∀ other,
      ∀ below ∈ update state.callStack thread (top :: frames) other, after.Ok below := by
    intro other below hmem
    by_cases hother : other = thread
    · subst hother
      rw [update_self] at hmem
      rcases List.mem_cons.1 hmem with rfl | hlower
      · exact htop
      · exact hkept below (hbelow below hlower)
          (hsafe.frames other below (hstack ▸ List.mem_cons_of_mem _ hlower))
    · rw [update_of_ne hother] at hmem
      exact hkept below (hothers other hother below hmem) (hsafe.frames other below hmem)
  have hcounts : Lib.Counts (fun other => (update state.callStack thread
      (top :: frames) other).countP Frame.counted) state.entries :=
    counted_setStack [top] hsafe hstack' (by simp [hcounted, hcounted'])
  subst hafter
  exact ⟨hexclusive, hsingle, hcounts, hopen, hlive, fun hstop =>
    ⟨(hstopped hstop).1, hquiet (hstopped hstop).2⟩, hframes, hanswered⟩

/-! ## What one thread does -/

theorem SameBut.ok (hsame : SameBut state after) (hok : state.Ok frame) : after.Ok frame := by
  obtain ⟨h1, h2, h3, h4, h5, h6, h7, h8⟩ := hsame
  cases state
  cases after
  simp only at h1 h2 h3 h4 h5 h6 h7 h8
  subst h1 h2 h3 h4 h5 h6 h7 h8
  cases frame <;> exact hok

section

variable (hsafe : Safe state)

include hsafe

theorem Safe.answer (operation : Operation) {result : Bool}
    (hresult : result = true → state.hostState = .stopped) :
    Safe (state.answer operation result) := by
  cases operation with
  | start => exact hsafe
  | stop =>
    exact ⟨hsafe.exclusive, hsafe.single, hsafe.counted, hsafe.open_running, hsafe.live,
      hsafe.stopped, fun thread frame hmem => by cases frame <;> exact hsafe.frames thread _ hmem,
      fun htrue => hresult (Option.some.inj htrue)⟩

section

variable (hstack : state.callStack thread = frame :: frames)

include hstack

theorem Safe.exchange (hcritical : next.critical = frame.critical)
    (hcounted : next.counted = frame.counted) (hok : state.Ok next)
    (hadmitted : next.admitted = true → state.dispatchOpen = true ∨ frame.admitted = true) :
    Safe (state.setStack thread (next :: frames)) := by
  have hstack' : state.callStack thread = [frame] ++ frames := hstack
  apply hsafe.moves hstack' [next] rfl
  · exact .kept rfl (by simp [hcritical])
  · simp [hcounted]
  · intro top htop
    rw [List.mem_singleton.1 htop]
    exact hok
  · intro top htop hin
    rw [List.mem_singleton.1 htop] at hin
    exact (hadmitted hin).imp_right fun hout => ⟨frame, List.mem_singleton_self _, hout⟩
  · exact hsafe.answered

theorem Safe.enterState
    (hlocked : (state.lockState thread).map (·.setStack thread (next :: frames)) = some after)
    (hcritical : next.critical = frame.critical) (hcounted : next.counted = frame.counted)
    (hok : state.Ok next) (hadmitted : next.admitted = true → frame.admitted = true) :
    Safe after := by
  obtain ⟨locked, hlock, rfl⟩ := Option.map_eq_some_iff.1 hlocked
  have hsame := lockState_same hlock
  exact (hsame.safe hsafe).exchange (hsame.callStack.symm ▸ hstack) hcritical hcounted
    (hsame.ok hok) fun hin => .inr (hadmitted hin)

theorem Safe.leaveState (hcritical : next.critical = frame.critical)
    (hcounted : next.counted = frame.counted) (hok : state.Ok next)
    (hadmitted : next.admitted = true → frame.admitted = true) :
    Safe (state.unlockState.setStack thread (next :: frames)) := by
  have hsame := unlockState_same state
  exact (hsame.safe hsafe).exchange (hsame.callStack.symm ▸ hstack) hcritical hcounted
    (hsame.ok hok) fun hin => .inr (hadmitted hin)

end

theorem Safe.enterLifecycle (olds : List Frame) (hstack : state.callStack thread = olds ++ frames)
    (hlocked : (state.lockLifecycle thread).map (·.setStack thread (next :: frames)) = some after)
    (hcritical : next.critical = true)
    (hcounted : [next].countP Frame.counted = olds.countP Frame.counted) (hok : state.Ok next)
    (hadmitted : next.admitted = true → ∃ old ∈ olds, old.admitted = true) : Safe after := by
  obtain ⟨locked, hlock, rfl⟩ := Option.map_eq_some_iff.1 hlocked
  unfold lockLifecycle at hlock
  split at hlock
  · rename_i hfree
    cases hlock
    apply hsafe.moves hstack [next] rfl
    · exact .taken hfree rfl (by simp [hcritical])
    · rw [hcounted]
    · intro top htop
      rw [List.mem_singleton.1 htop]
      exact hok
    · intro top htop hin
      rw [List.mem_singleton.1 htop] at hin
      exact .inr (hadmitted hin)
    · exact hsafe.answered
  · cases hlock

theorem Safe.leave (hstack : state.callStack thread = frame :: frames)
    (hcritical : frame.critical = true) (hcounted : frame.counted = false) (tops : List Frame)
    (htops : ∀ top ∈ tops, top.critical = false ∧ top.counted = false ∧ state.Ok top) :
    Safe (state.unlockBoth.setStack thread (tops ++ frames)) := by
  have hsame := unlockState_same state
  have hstack' : state.unlockState.callStack thread = [frame] ++ frames :=
    hsame.callStack.symm ▸ hstack
  have hnone : tops.countP Frame.critical = 0 :=
    List.countP_eq_zero.2 fun top hmem => by simp [(htops top hmem).1]
  have huncounted : tops.countP Frame.counted = 0 :=
    List.countP_eq_zero.2 fun top hmem => by simp [(htops top hmem).2.1]
  apply (hsame.safe hsafe).moves hstack' tops rfl
  · exact .released (by simp [hcritical]) rfl hnone
  · simp [hcounted, unlockBoth, huncounted]
  · intro top htop
    exact hsame.ok (htops top htop).2.2
  · intro top htop hin
    have hout := (htops top htop).2.1
    cases top <;> simp_all [Frame.counted, Frame.admitted]
  · exact (hsame.safe hsafe).answered

end

@[simp] theorem setStack_setStack (stack stack' : List Frame) :
    (state.setStack thread stack).setStack thread stack' = state.setStack thread stack' := by
  simp [setStack]

theorem unlockState_setStack (stack : List Frame) :
    (state.setStack thread stack).unlockState = state.unlockState.setStack thread stack := by
  unfold unlockState setStack
  rcases state.stateMutex with _ | ⟨owner, _ | more⟩ <;> rfl

@[simp] theorem unlockBoth_setStack (stack stack' : List Frame) :
    (state.setStack thread stack).unlockBoth.setStack thread stack' =
      state.unlockBoth.setStack thread stack' := by
  simp only [unlockBoth, unlockState_setStack]
  simp [setStack]

/-! ## Start -/

/-- Where the thread stands before does not matter to what `Start` does. -/
theorem startSection_setStack (stack : List Frame) (first : Bool) :
    (state.setStack thread stack).startSection thread frames first course =
      state.startSection thread frames first course := by
  cases course with
  | fails => simp [startSection, setStack]
  | throws =>
    have hthrow := @unlockBoth_setStack
      { state with dispatchOpen := false, hostState := .stopping } thread stack
    exact congrArg some (hthrow _)
  | yields =>
    simp only [startSection]
    rw [unlockState_setStack, setStack_setStack]
  | completes =>
    have hcomplete := @unlockBoth_setStack
      { state with dispatchOpen := true, hostState := .running } thread stack
    exact congrArg some (hcomplete _)
  | _ => rfl

theorem startSection_safe (hsafe : Safe state) {first : Bool}
    (hstack : state.callStack thread = .starting :: frames)
    (hgo : state.startSection thread frames first course = some after) : Safe after := by
  have hstarting : state.hostState = .starting :=
    hsafe.frames thread .starting (by rw [hstack]; exact List.mem_cons_self)
  have hlive : state.resources = some state.run := by
    apply hsafe.live
    rw [hstarting]
    intro h
    cases h
  have hclosed : state.dispatchOpen ≠ true := by
    intro hopen
    have hrunning := hsafe.open_running hopen
    rw [hstarting] at hrunning
    cases hrunning
  have hunanswered : state.stopResult ≠ some true := by
    intro htrue
    have hstopped := hsafe.answered htrue
    rw [hstarting] at hstopped
    cases hstopped
  have hearlier : ∀ run ≤ state.run,
      (run = state.run → state.hostState = .stopping ∨ state.hostState = .stopped) →
        run < state.run := by
    intro run hle hover
    rcases Nat.lt_or_eq_of_le hle with hlt | heq
    · exact hlt
    · rcases hover heq with hnot | hnot <;> rw [hstarting] at hnot <;> cases hnot
  have hstops : ∀ dispatchOpen, dispatchOpen ≠ true → Safe
      ({ state with dispatchOpen := dispatchOpen, hostState := .stopping }.setStack thread
        (.releasing .start state.run false :: frames)) := by
    intro dispatchOpen hopen
    apply hsafe.turns hstack rfl rfl (.releasing .start state.run false) rfl rfl rfl
    · exact ⟨.inr ⟨rfl, rfl⟩, fun h => by cases h⟩
    · exact fun h => absurd h hopen
    · exact fun _ => hlive
    · exact fun h => by cases h
    · exact fun h => absurd h hunanswered
    · exact fun run hle _ => ⟨hle, fun _ => .inl rfl⟩
  cases course with
  | fails =>
    simp only [startSection] at hgo
    split at hgo
    · cases hgo
      exact hstops state.dispatchOpen hclosed
    · cases hgo
  | throws =>
    cases hgo
    -- the state changes first, and then the locks are released
    have hleft := (hstops false (by decide)).leave (setStack_callStack_self _) rfl rfl
      [.waits .start state.run] (by
        intro top htop
        rw [List.mem_singleton.1 htop]
        exact ⟨rfl, rfl, Nat.le_refl _, fun _ => .inl rfl⟩)
    rwa [unlockBoth_setStack] at hleft
  | yields =>
    cases hgo
    exact hsafe.leaveState hstack rfl rfl hstarting fun h => by cases h
  | completes =>
    cases hgo
    have hruns : Safe ({ state with hostState := .running, dispatchOpen := true }.setStack thread
        (.startChecks :: frames)) := by
      apply hsafe.turns hstack rfl rfl .startChecks rfl rfl rfl
      · trivial
      · exact fun _ => rfl
      · exact fun _ => hlive
      · exact fun h => by cases h
      · exact fun h => absurd h hunanswered
      · intro run hle hover
        have hlt := hearlier run hle hover
        exact ⟨hle, fun heq => absurd heq (Nat.ne_of_lt hlt)⟩
    have hleft := hruns.leave (setStack_callStack_self _) rfl rfl [] (by
      intro top htop
      cases htop)
    rwa [unlockBoth_setStack] at hleft
  | _ => cases hgo

/-! ## Stop -/

theorem Safe.returns (hsafe : Safe state) (hstack : state.callStack thread = frame :: frames)
    (hcritical : frame.critical = true) (hcounted : frame.counted = false)
    (operation : Operation) {result : Bool} (hresult : result = true → state.hostState = .stopped) :
    Safe ((state.answer operation result).unlockBoth.setStack thread frames) := by
  have hanswer : (state.answer operation result).callStack thread = frame :: frames := by
    cases operation <;> exact hstack
  apply (hsafe.answer operation hresult).leave hanswer hcritical hcounted []
  intro top htop
  cases htop

theorem stopSection_safe (hsafe : Safe state) (course : Course)
    (hstack : state.callStack thread = .stopChecks :: frames) :
    Safe (state.stopSection thread frames course) := by
  unfold stopSection
  split
  · rename_i hstopped
    exact hsafe.returns hstack rfl rfl .stop fun _ => hstopped
  · split
    · exact hsafe.returns hstack rfl rfl .stop fun h => by cases h
    · split
      · rename_i hrunning
        have hlive : state.resources = some state.run := by
          apply hsafe.live
          rw [hrunning]
          intro h
          cases h
        have hunanswered : state.stopResult ≠ some true := by
          intro htrue
          have hstopped := hsafe.answered htrue
          rw [hrunning] at hstopped
          cases hstopped
        have hstops : Safe
            ({ state with hostState := .stopping, dispatchOpen := false }.setStack thread
              (.stopChecks :: frames)) := by
          apply hsafe.turns hstack rfl rfl .stopChecks rfl rfl rfl
          · trivial
          · exact fun h => by cases h
          · exact fun _ => hlive
          · exact fun h => by cases h
          · exact fun h => absurd h hunanswered
          · exact fun run hle _ => ⟨hle, fun _ => .inl rfl⟩
        have hleft := hstops.leave (setStack_callStack_self _) rfl rfl
          [.waits .stop state.run] (by
            intro top htop
            rw [List.mem_singleton.1 htop]
            exact ⟨rfl, rfl, Nat.le_refl _, fun _ => .inl rfl⟩)
        rwa [unlockBoth_setStack] at hleft
      · rename_i hstopping
        exact hsafe.exchange hstack rfl rfl ⟨.inr ⟨hstopping, rfl⟩, fun h => by cases h⟩
          fun h => by cases h
      · exact hsafe.returns hstack rfl rfl .stop fun h => by cases h

theorem releaseSection_safe (hsafe : Safe state) {run : Nat} {drained : Bool}
    (hstack : state.callStack thread = .releasing operation run drained :: frames)
    (hgo : state.releaseSection thread frames operation run drained course = some after) :
    Safe after := by
  have hok : state.Ok (.releasing operation run drained) :=
    hsafe.frames thread _ (by rw [hstack]; exact List.mem_cons_self)
  cases course with
  | refuses =>
    simp only [releaseSection] at hgo
    split at hgo
    · cases hgo
    · cases hgo
      exact hsafe.returns hstack rfl rfl operation fun h => by cases h
  | yields =>
    cases hgo
    exact hsafe.leaveState hstack rfl rfl hok fun h => by cases h
  | drains =>
    simp only [releaseSection] at hgo
    split at hgo
    · rename_i hzero
      cases hgo
      exact hsafe.exchange hstack rfl rfl ⟨hok.1, fun _ => hsafe.quiet hzero.2⟩
        fun h => by cases h
    · cases hgo
  | completes =>
    simp only [releaseSection] at hgo
    split at hgo
    · rename_i hdrained
      cases hgo
      have hclosed : state.dispatchOpen ≠ true := by
        intro hopen
        have hrunning := hsafe.open_running hopen
        rcases hok.1 with hstate | ⟨hstate, _⟩ <;> rw [hrunning] at hstate <;> cases hstate
      have hstopped : Safe
          ({ state with resources := none, hostState := .stopped }.setStack thread
            (.releasing operation run drained :: frames)) := by
        apply hsafe.turns hstack rfl rfl (.releasing operation run drained) rfl rfl rfl
        · refine ⟨.inl rfl, fun _ => ?_⟩
          intro other frame hmem
          -- the stack has not changed
          have hsame : update state.callStack thread
              (.releasing operation run drained :: frames) = state.callStack := by
            rw [← hstack, Function.update_eq_self]
          exact hok.2 hdrained other frame (hsame ▸ hmem)
        · exact fun h => absurd h hclosed
        · exact fun h => absurd rfl h
        · exact fun _ => ⟨rfl, hok.2 hdrained⟩
        · exact fun _ => rfl
        · exact fun run hle _ => ⟨hle, fun _ => .inr rfl⟩
      have hreturned := @Safe.returns _ thread _ frames hstopped (setStack_callStack_self _) rfl rfl
        operation true fun _ => rfl
      cases operation with
      | start => rwa [answer, unlockBoth_setStack] at hreturned
      | stop =>
        have hsame := @unlockBoth_setStack
          { state with resources := none, hostState := .stopped, stopResult := some true } thread
          (.releasing .stop run drained :: frames) frames
        exact hsame ▸ hreturned
    · cases hgo
  | _ => cases hgo

/-! ## Dispatches -/

theorem Safe.counted_pos (hsafe : Safe state) (hstack : state.callStack thread = frame :: frames)
    (hcounted : frame.counted = true) : 1 ≤ state.entries := by
  have hle := hsafe.counted.le thread
  rw [hstack, List.countP_cons_of_pos hcounted] at hle
  omega

theorem Safe.exits (hsafe : Safe state) (hstack : state.callStack thread = frame :: frames)
    (hcritical : frame.critical = false) (hcounted : frame.counted = true) :
    Safe ({ state with entries := state.entries - 1 }.setStack thread frames) := by
  have hstack' : state.callStack thread = [frame] ++ frames := hstack
  have hpos := hsafe.counted_pos hstack hcounted
  apply hsafe.moves hstack' [] rfl
  · exact .kept rfl (by simp [hcritical])
  · simp only [List.countP_singleton, hcounted, List.countP_nil, if_true]
    omega
  · intro top htop
    cases htop
  · intro top htop
    cases htop
  · exact hsafe.answered

theorem dispatchSection_safe (hsafe : Safe state) {lifecycle held : Bool}
    (hstack : state.callStack thread = .dispatching lifecycle held :: frames)
    (hgo : state.dispatchSection thread frames lifecycle held course = some after) :
    Safe after := by
  have hstack' : state.callStack thread = [.dispatching lifecycle held] ++ frames := hstack
  cases course with
  | locksLifecycle =>
    simp only [dispatchSection] at hgo
    split at hgo
    · cases hgo
    · exact hsafe.enterLifecycle [.dispatching lifecycle held] hstack hgo rfl rfl trivial
        fun _ => ⟨_, List.mem_singleton_self _, rfl⟩
  | locksState =>
    simp only [dispatchSection] at hgo
    split at hgo
    · cases hgo
    · exact hsafe.enterState hstack hgo rfl rfl trivial fun _ => rfl
  | unlocks =>
    simp only [dispatchSection] at hgo
    split at hgo
    · cases hgo
      exact hsafe.leaveState hstack rfl rfl trivial fun _ => rfl
    · split at hgo
      · rename_i hlifecycle
        subst hlifecycle
        cases hgo
        apply hsafe.moves hstack' [.dispatching false false] rfl
        · exact .released rfl rfl rfl
        · rfl
        · intro top htop
          rw [List.mem_singleton.1 htop]
          trivial
        · exact fun _ _ _ => .inr ⟨_, List.mem_singleton_self _, rfl⟩
        · exact hsafe.answered
      · cases hgo
  | completes =>
    simp only [dispatchSection] at hgo
    split at hgo
    · cases hgo
    · rename_i hfree
      cases hgo
      cases lifecycle with
      | false => exact hsafe.exits hstack rfl rfl
      | true => exact absurd rfl hfree
  | _ => cases hgo

/-! ## A step -/

theorem go_safe (hsafe : Safe state) (hkept : overtaken state (.go thread course) = false)
    (hgo : state.go thread course = some after) : Safe after := by
  have hok : ∀ frame frames, state.callStack thread = frame :: frames → state.Ok frame := by
    intro frame frames hstack
    exact hsafe.frames thread frame (by rw [hstack]; exact List.mem_cons_self)
  unfold go at hgo
  split at hgo
  · cases hgo
  · rename_i frames hstack
    exact hsafe.enterLifecycle [.start] hstack hgo rfl rfl trivial fun h => by cases h
  · rename_i frames hstack
    exact hsafe.enterState hstack hgo rfl rfl trivial fun h => by cases h
  · rename_i frames hstack
    split at hgo
    · cases hgo
      apply hsafe.leave hstack rfl rfl []
      intro top htop
      cases htop
    · rename_i hstarts
      have hstopped : state.hostState = .stopped := by
        by_contra hnot
        exact hstarts (.inl hnot)
      have hclosed : state.dispatchOpen ≠ true := by
        intro hopen
        have hrunning := hsafe.open_running hopen
        rw [hstopped] at hrunning
        cases hrunning
      have hstarting : Safe
          ({ state with
            hostState := .starting, run := state.run + 1, resources := some (state.run + 1)
            stopResult := none }.setStack thread (.starting :: frames)) := by
        apply hsafe.turns hstack rfl rfl .starting rfl rfl rfl
        · exact rfl
        · exact fun h => absurd h hclosed
        · exact fun _ => rfl
        · exact fun h => by cases h
        · exact fun h => by cases h
        · intro run hle _
          have hlt : run < state.run + 1 := Nat.lt_succ_of_le hle
          exact ⟨hlt.le, fun heq => absurd heq hlt.ne⟩
      apply startSection_safe hstarting (setStack_callStack_self _)
      rw [startSection_setStack]
      exact hgo
  · rename_i frames hstack
    exact hsafe.enterState hstack hgo rfl rfl (hok .loading frames hstack) fun h => by cases h
  · rename_i frames hstack
    exact startSection_safe hsafe hstack hgo
  · rename_i frames hstack
    exact hsafe.enterState hstack hgo rfl rfl trivial fun h => by cases h
  · rename_i frames hstack
    cases hgo
    exact stopSection_safe hsafe course hstack
  · rename_i operation run frames hstack
    split at hgo
    · cases hgo
      exact hsafe.exchange hstack rfl rfl (hok (.waits operation run) frames hstack)
        fun h => by cases h
    · cases hgo
  · rename_i operation run frames hstack
    exact hsafe.enterLifecycle [.takesLifecycle operation run] hstack hgo rfl rfl
      (hok (.takesLifecycle operation run) frames hstack) fun h => by cases h
  · rename_i operation run frames hstack
    have hover := (hok _ _ hstack).2
    -- the state is stopped, or is still that of the run that was to be released
    have hstill : state.hostState = .stopped ∨ state.hostState = .stopping ∧ run = state.run := by
      simp only [overtaken, hstack, Bool.and_eq_false_iff, decide_eq_false_iff_not,
        not_not] at hkept
      rcases hkept with hstopped | hsame
      · exact .inl hstopped
      · rcases hover hsame.symm with hstopping | hstopped
        · exact .inr ⟨hstopping, hsame.symm⟩
        · exact .inl hstopped
    exact hsafe.enterState hstack hgo rfl rfl ⟨hstill, fun h => by cases h⟩ fun h => by cases h
  · rename_i operation run drained frames hstack
    exact releaseSection_safe hsafe hstack hgo
  · rename_i operation run drained frames hstack
    exact hsafe.enterState hstack hgo rfl rfl (hok (.yielded operation run drained) frames hstack)
      fun h => by cases h
  · rename_i frames hstack
    split at hgo
    · rename_i hopen
      cases hgo
      exact hsafe.exchange hstack rfl rfl trivial fun _ => .inl hopen
    · cases hgo
      exact hsafe.exits hstack rfl rfl
  · rename_i lifecycle held frames hstack
    exact dispatchSection_safe hsafe hstack hgo

theorem Safe.calls (hsafe : Safe state) (thread : Nat) (top : Frame)
    (hcritical : top.critical = false) (hok : state.Ok top) (hadmitted : top.admitted = false) :
    Safe ({ state with entries := state.entries + [top].countP Frame.counted }.setStack thread
      (top :: state.callStack thread)) := by
  have hstack : state.callStack thread = [] ++ state.callStack thread := rfl
  apply hsafe.moves hstack [top] rfl
  · exact .kept rfl (by simp [hcritical])
  · rfl
  · intro other htop
    rw [List.mem_singleton.1 htop]
    exact hok
  · intro other htop hin
    rw [List.mem_singleton.1 htop, hadmitted] at hin
    cases hin
  · exact hsafe.answered

end State

open State in
theorem step_safe {state : State} {action : Action} (hsafe : Safe state)
    (hkept : overtaken state action = false) : Safe (step state action) := by
  cases action with
  | call thread operation =>
    simp only [step]
    split
    · cases operation with
      | start => exact hsafe.calls thread .start rfl trivial rfl
      | stop =>
        cases hlocked : state.lockLifecycle thread with
        | none => exact hsafe.answer .stop fun h => by cases h
        | some locked =>
          have hstack : state.callStack thread = [] ++ state.callStack thread := rfl
          have hentered : (state.lockLifecycle thread).map
              (·.setStack thread (.stopState :: state.callStack thread)) =
                some (locked.setStack thread (.stopState :: state.callStack thread)) := by
            rw [hlocked]
            rfl
          exact hsafe.enterLifecycle [] hstack hentered rfl rfl trivial fun h => by cases h
    · exact hsafe
  | enter thread =>
    simp only [step]
    split
    · exact hsafe.calls thread .entered rfl trivial rfl
    · exact hsafe
  | go thread course =>
    simp only [step]
    cases hgo : state.go thread course with
    | none => exact hsafe
    | some after => exact go_safe hsafe hkept hgo

/-! ## Every run -/

/-- What is promised of the dispatch gate, of a release, and of the end. -/
structure State.Sound (state : State) : Prop where
  gate : state.dispatchOpen = true →
    state.hostState = .running ∧ state.resources = some state.run
  /-- There is nothing to be released, or it is what the run had whose end this is. -/
  released : ∀ thread operation run drained,
    .releasing operation run drained ∈ state.callStack thread →
      state.resources = none ∨ state.hostState = .stopping ∧ state.resources = some run
  finished : state.stopResult = some true →
    state.hostState = .stopped ∧ state.dispatchOpen = false ∧ state.resources = none ∧ state.Quiet

theorem State.Safe.sound {state : State} (hsafe : state.Safe) : state.Sound := by
  refine ⟨fun hopen => ?_, fun thread operation run drained hmem => ?_, fun htrue => ?_⟩
  · have hrunning := hsafe.open_running hopen
    refine ⟨hrunning, hsafe.live ?_⟩
    rw [hrunning]
    intro h
    cases h
  · rcases (hsafe.frames thread _ hmem).1 with hstopped | ⟨hstopping, hsame⟩
    · exact .inl (hsafe.stopped hstopped).1
    · refine .inr ⟨hstopping, hsame ▸ hsafe.live ?_⟩
      rw [hstopping]
      intro h
      cases h
  · have hstopped := hsafe.answered htrue
    obtain ⟨hnone, hquiet⟩ := hsafe.stopped hstopped
    refine ⟨hstopped, ?_, hnone, hquiet⟩
    by_contra hopen
    rw [Bool.not_eq_false] at hopen
    have hrunning := hsafe.open_running hopen
    rw [hstopped] at hrunning
    cases hrunning

theorem initial_safe : State.initial.Safe where
  exclusive := by
    intro thread frame hmem
    cases hmem
  single := fun _ => Nat.zero_le _
  counted := Lib.counts_zero
  open_running := by
    intro h
    cases h
  live := by
    intro h
    exact absurd rfl h
  stopped := by
    intro _
    refine ⟨rfl, ?_⟩
    intro thread frame hmem
    cases hmem
  frames := by
    intro thread frame hmem
    cases hmem
  answered := by
    intro h
    cases h

/-- The gate is open for a host that runs, a run's resources are released for its own end, and
nothing is left once `Stop` has stopped the host: as long as whoever has waited finds the run it
waited for, or the host stopped. -/
theorem sound_unless_overtaken (actions : List Action)
    (hheeds : Lib.Heeds step (fun state action => overtaken state action = false) State.initial
      actions) :
    (Lib.run step State.initial actions).Sound :=
  (Lib.Heeds.invariant (fun _ _ hsafe hkept => step_safe hsafe hkept) initial_safe hheeds).sound

def starts (thread : Nat) : List Action :=
  [.call thread .start, .go thread .completes, .go thread .completes, .go thread .completes]

/-- The wait of a `Stop`, and what comes behind it. -/
def goesOn (thread : Nat) : List Action :=
  [.go thread .completes, .go thread .completes, .go thread .completes, .go thread .drains,
    .go thread .completes]

/-- A `Stop` that nobody gets in the way of. -/
def stops (thread : Nat) : List Action :=
  [.call thread .stop, .go thread .completes, .go thread .completes] ++ goesOn thread

theorem sound_unless_overtaken_stops :
    (Lib.run step State.initial (starts 0 ++ stops 1)).Sound :=
  sound_unless_overtaken _ (by decide)

/-- The first `Stop` waits for the dispatches. A second one finds the host stopping, and stops it;
the host starts again, and the first `Stop` goes on. -/
def releasesNextRun : List Action :=
  starts 0 ++ [.call 0 .stop, .go 0 .completes, .go 0 .completes] ++
    [.call 1 .stop, .go 1 .completes, .go 1 .completes, .go 1 .drains, .go 1 .completes] ++
      starts 2 ++ goesOn 0

/-- It releases a host that runs: the gate stays open, with no adapter behind it. -/
theorem releases_next_run :
    ¬∀ actions : List Action, (Lib.run step State.initial actions).Sound := by
  intro hall
  have hsound := (hall releasesNextRun).gate (by decide)
  exact absurd hsound.1 (by decide)

end KeelS2.Hosting
