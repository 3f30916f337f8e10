import KeelS2.Lib.Possession
import KeelS2.Sdk.EntityWrappers

/-!
# Who owns an entity handle

A handle is held by a state, or it is in a host call, or it is gone. `Sound` says that none is in
two of these places, and that none gets lost between being issued and being adopted. Every step
keeps it.
-/

namespace KeelS2.Sdk.Wrappers

open Lib

/-! ## Where the handles are -/

/-- The handle that a host call is about. -/
def Frame.handle : Frame → Option Nat
  | .release _ old _ _ => some old.handle
  | .factory .. => none
  | .describe _ _ _ _ handle => some handle
  | .candidate handle => some handle

/-- The handle that is issued and not yet settled. -/
def Frame.described : Frame → Option Nat
  | .describe _ _ _ _ handle => some handle
  | _ => none

/-- The handle that the host has released. -/
def Event.done : Event → Option Nat
  | .released handle .ok => some handle
  | _ => none

theorem Event.done_of_ne {handle : Nat} {result : KeelResult} (hne : result ≠ .ok) :
    (Event.released handle result).done = none := by
  cases result
  · exact absurd rfl hne
  all_goals rfl

namespace World

variable (world : World)

def possession : Possession Nat where
  holds id := (world.states id).value.map Value.handle
  hands := world.frames.filterMap Frame.handle
  issued := world.nextHandle
  gone := world.events.filterMap Event.done

structure Sound : Prop where
  possessed : world.possession.Sound
  issued : ∀ handle, .issued handle ∈ world.events → handle < world.nextHandle
  accounted : ∀ handle < world.nextHandle, .adopted handle ∈ world.events ∨
    .passed handle ∈ world.events ∨ handle ∈ world.frames.filterMap Frame.described

theorem sound_initial : World.initial.Sound where
  possessed := Possession.sound_nobody
  issued _ hmem := by cases hmem
  accounted _ hlt := by cases hlt

theorem possession_setState (id : Nat) (state : State) :
    (world.setState id state).possession =
      { world.possession with
        holds := Function.update world.possession.holds id (state.value.map Value.handle) } := by
  unfold possession
  congr 1
  funext other
  by_cases heq : other = id
  · subst heq
    simp [setState]
  · simp [setState, heq]

variable {world} {after : World}

theorem Sound.congr (hsound : world.Sound)
    (hholds : after.possession.holds = world.possession.holds)
    (hframes : after.frames = world.frames) (hnext : after.nextHandle = world.nextHandle)
    (hevents : after.events = world.events) : after.Sound := by
  have hpossession : after.possession = world.possession := by
    have hhands : after.possession.hands = world.possession.hands := by
      simp only [possession, hframes]
    have hgone : after.possession.gone = world.possession.gone := by
      simp only [possession, hevents]
    calc after.possession
      _ = ⟨after.possession.holds, after.possession.hands, after.nextHandle,
            after.possession.gone⟩ := rfl
      _ = world.possession := by rw [hholds, hhands, hnext, hgone]; rfl
  constructor
  · rw [hpossession]
    exact hsound.possessed
  · rw [hevents, hnext]
    exact hsound.issued
  · rw [hevents, hnext, hframes]
    exact hsound.accounted

theorem Sound.setWrapper (hsound : world.Sound) (wrapper : Nat) (state : Option (Option Nat)) :
    (world.setWrapper wrapper state).Sound :=
  hsound.congr rfl rfl rfl rfl

variable {id generation : Nat} {frames : List Frame} {state : State} {frame : Frame} {old : Value}

theorem Sound.setState (hsound : world.Sound) (hvalue : state.value = (world.states id).value) :
    (world.setState id state).Sound := by
  refine hsound.congr ?_ rfl rfl rfl
  rw [possession_setState, hvalue]
  exact Function.update_eq_self ..

theorem Sound.push (hsound : world.Sound) (hhandle : frame.handle = none) :
    (world.push frame).Sound where
  possessed := by
    have heq : (world.push frame).possession = world.possession := by
      simp [possession, World.push, hhandle]
    rw [heq]
    exact hsound.possessed
  issued := hsound.issued
  accounted handle hlt := by
    rcases hsound.accounted handle hlt with hadopted | hpassed | hmem
    · exact Or.inl hadopted
    · exact Or.inr (Or.inl hpassed)
    · refine Or.inr (Or.inr ?_)
      obtain ⟨other, hother, hdescribed⟩ := List.mem_filterMap.1 hmem
      exact List.mem_filterMap.2 ⟨other, List.mem_cons_of_mem _ hother, hdescribed⟩

theorem Sound.pop (hsound : world.Sound) (hframes : world.frames = frame :: frames)
    (hhandle : frame.handle = none) :
    { world with frames := frames }.Sound where
  possessed := by
    have heq : { world with frames := frames }.possession = world.possession := by
      simp [possession, hframes, hhandle]
    rw [heq]
    exact hsound.possessed
  issued := hsound.issued
  accounted handle hlt := by
    have hdescribed : frame.described = none := by
      cases frame <;> first | rfl | cases hhandle
    have haccounted := hsound.accounted handle hlt
    rwa [hframes, List.filterMap_cons_none hdescribed] at haccounted

/-! ## The steps of an operation -/

section

variable (hsound : world.Sound)

include hsound

theorem Sound.afterRelease (id generation : Nat) (result : KeelResult) (next : Next) :
    (world.afterRelease id generation result next).Sound := by
  cases next with
  | done => exact hsound
  | destroyed wrapper => exact hsound.setWrapper wrapper none
  | «open» request =>
    unfold World.afterRelease
    dsimp only
    split
    · split
      · exact hsound
      · split
        · exact hsound.push rfl
        · exact hsound
    · exact hsound

theorem Sound.take (hvalue : (world.states id).value = some old) (hnone : state.value = none)
    (generation : Nat) (next : Next) :
    (((world.setState id state).log (.passed old.handle)).push
      (.release id old generation next)).Sound where
  possessed := by
    have hholds : world.possession.holds id = some old.handle := by
      simp [possession, hvalue]
    have htaken := hsound.possessed.take hholds
    have hstates : (world.setState id state).possession.holds =
        Function.update world.possession.holds id none := by
      rw [possession_setState, hnone]
      rfl
    rwa [← hstates] at htaken
  issued handle hmem := by
    refine hsound.issued handle ?_
    simpa [World.push, World.log, World.setState] using hmem
  accounted handle hlt := by
    rcases hsound.accounted handle hlt with hadopted | hpassed | hmem
    · exact Or.inl (List.mem_cons_of_mem _ hadopted)
    · exact Or.inr (Or.inl (List.mem_cons_of_mem _ hpassed))
    · exact Or.inr (Or.inr hmem)

theorem Sound.drop (id : Nat) (hnone : state.value = none) :
    (world.setState id state).Sound where
  possessed := by
    rw [possession_setState, hnone]
    exact hsound.possessed.drop id
  issued := hsound.issued
  accounted := hsound.accounted

theorem Sound.release (id : Nat) (next : Next) : (world.release id next).Sound := by
  unfold World.release
  dsimp only
  split
  · exact (hsound.drop id rfl).afterRelease ..
  · next old hvalue =>
    split
    · exact hsound.take hvalue rfl ..
    · exact (hsound.drop id rfl).afterRelease ..

theorem Sound.settled {handle : Nat} (hframes : world.frames = frame :: frames)
    (hhandle : frame.handle = some handle) (hdescribed : frame.described = none)
    (result : KeelResult) :
    ({ world with frames := frames }.log (.released handle result)).Sound where
  possessed := by
    have hhands : world.possession.hands = handle :: frames.filterMap Frame.handle := by
      simp [possession, hframes, hhandle]
    by_cases hok : result = .ok
    · subst hok
      exact hsound.possessed.finish hhands
    · have hlost := hsound.possessed.lose hhands
      have hgone : (Event.released handle result :: world.events).filterMap Event.done =
          world.events.filterMap Event.done :=
        List.filterMap_cons_none (Event.done_of_ne hok)
      unfold possession World.log
      rwa [hgone]
  issued found hmem := by
    refine hsound.issued found ?_
    simpa [World.log] using hmem
  accounted found hlt := by
    have haccounted := hsound.accounted found hlt
    rw [hframes, List.filterMap_cons_none hdescribed] at haccounted
    rcases haccounted with hadopted | hpassed | hmem
    · exact Or.inl (List.mem_cons_of_mem _ hadopted)
    · exact Or.inr (Or.inl (List.mem_cons_of_mem _ hpassed))
    · exact Or.inr (Or.inr hmem)

end

theorem Sound.restored (hsound : world.Sound) {next : Next}
    (hframes : world.frames = .release id old generation next :: frames) {result : KeelResult}
    (hne : result ≠ .ok) (hvalue : state.value = some old) :
    (({ world with frames := frames }.log (.released old.handle result)).setState id state).Sound
    where
  possessed := by
    have hhands : world.possession.hands = old.handle :: frames.filterMap Frame.handle := by
      simp [possession, hframes, Frame.handle]
    have hput := hsound.possessed.put hhands id
    have hgone : (Event.released old.handle result :: world.events).filterMap Event.done =
        world.events.filterMap Event.done :=
      List.filterMap_cons_none (Event.done_of_ne hne)
    rw [possession_setState, hvalue]
    unfold possession World.log
    rw [hgone]
    exact hput
  issued := (hsound.settled hframes rfl rfl result).issued
  accounted := (hsound.settled hframes rfl rfl result).accounted

section

variable (hsound : world.Sound)

include hsound

theorem Sound.released {next : Next}
    (hframes : world.frames = .release id old generation next :: frames) (result : KeelResult) :
    ({ world with frames := frames }.released id old generation next result).Sound := by
  unfold World.released
  refine Sound.afterRelease ?_ ..
  split
  · next hrefused =>
    have hne : result ≠ .ok := by
      rintro rfl
      cases hrefused.1
    exact hsound.restored hframes hne rfl
  · exact hsound.settled hframes rfl rfl result

theorem Sound.issue (events : List Event) (hhandle : frame.handle = some world.nextHandle)
    (hevents : events = [] ∧ frame.described = some world.nextHandle ∨ events = [.passed
      world.nextHandle]) :
    ({ world with
        nextHandle := world.nextHandle + 1
        frames := frame :: world.frames
        events := events ++ .issued world.nextHandle :: world.events } : World).Sound where
  possessed := by
    have hissued := hsound.possessed.issue
    have hgone : (events ++ .issued world.nextHandle :: world.events).filterMap Event.done =
        world.events.filterMap Event.done := by
      rcases hevents with ⟨rfl, -⟩ | rfl <;> rfl
    unfold possession
    rw [hgone, List.filterMap_cons_some hhandle]
    exact hissued
  issued handle hmem := by
    dsimp only at hmem ⊢
    have hcases : handle = world.nextHandle ∨ .issued handle ∈ world.events := by
      rcases hevents with ⟨rfl, -⟩ | rfl <;> simpa using hmem
    rcases hcases with rfl | hmem
    · exact Nat.lt_succ_self _
    · exact Nat.lt_succ_of_lt (hsound.issued handle hmem)
  accounted handle hlt := by
    rcases Nat.lt_succ_iff_lt_or_eq.1 hlt with hlt | rfl
    · rcases hsound.accounted handle hlt with hadopted | hpassed | hmem
      · exact Or.inl (List.mem_append_right _ (List.mem_cons_of_mem _ hadopted))
      · exact Or.inr (Or.inl (List.mem_append_right _ (List.mem_cons_of_mem _ hpassed)))
      · refine Or.inr (Or.inr ?_)
        obtain ⟨other, hother, hdescribed⟩ := List.mem_filterMap.1 hmem
        exact List.mem_filterMap.2 ⟨other, List.mem_cons_of_mem _ hother, hdescribed⟩
    · right
      rcases hevents with ⟨rfl, hdescribed⟩ | rfl
      · exact Or.inr (List.mem_filterMap.2 ⟨frame, List.mem_cons_self, hdescribed⟩)
      · exact Or.inl List.mem_cons_self

theorem Sound.produced (id generation context : Nat) (request : Request) (answer : Answer) :
    (world.produced id generation context request answer).Sound := by
  unfold World.produced
  split
  · dsimp only
    split
    · exact hsound.issue [] rfl (Or.inl ⟨rfl, rfl⟩)
    · exact hsound.issue [.passed world.nextHandle] rfl (Or.inr rfl)
  · exact hsound

theorem Sound.described {context handle : Nat} {request : Request}
    (hframes : world.frames = .describe id generation context request handle :: frames)
    (answer : Answer) :
    ({ world with frames := frames }.described id generation context request handle answer).Sound :=
  by
  have hhands : world.possession.hands = handle :: frames.filterMap Frame.handle := by
    simp [possession, hframes, Frame.handle]
  have hcases : ∀ found < world.nextHandle, found = handle ∨ .adopted found ∈ world.events ∨
      .passed found ∈ world.events ∨ found ∈ frames.filterMap Frame.described := by
    intro found hlt
    have haccounted := hsound.accounted found hlt
    have hdescribed : (Frame.describe id generation context request handle).described =
        some handle := rfl
    rw [hframes, List.filterMap_cons_some hdescribed, List.mem_cons] at haccounted
    tauto
  unfold World.described
  split
  · constructor
    · have hput := hsound.possessed.put hhands id
      have heq := possession_setState { world with frames := frames } id
        { world.states id with value := some ⟨context, handle⟩ }
      exact (congrArg Possession.Sound heq).mpr hput
    · intro found hmem
      refine hsound.issued found ?_
      simpa [World.log, World.setState] using hmem
    · intro found hlt
      rcases hcases found hlt with rfl | hadopted | hpassed | hmem
      · exact Or.inl List.mem_cons_self
      · exact Or.inl (List.mem_cons_of_mem _ hadopted)
      · exact Or.inr (Or.inl (List.mem_cons_of_mem _ hpassed))
      · exact Or.inr (Or.inr hmem)
  · constructor
    · have heq : ({ world with frames := frames }.dispose handle).possession =
          world.possession := by
        have hgone : (Event.passed handle).done = none := rfl
        simp [possession, World.dispose, World.log, World.push, hframes, Frame.handle, hgone]
      rw [heq]
      exact hsound.possessed
    · intro found hmem
      refine hsound.issued found ?_
      simpa [World.dispose, World.log, World.push] using hmem
    · intro found hlt
      rcases hcases found hlt with rfl | hadopted | hpassed | hmem
      · exact Or.inr (Or.inl List.mem_cons_self)
      · exact Or.inl (List.mem_cons_of_mem _ hadopted)
      · exact Or.inr (Or.inl (List.mem_cons_of_mem _ hpassed))
      · exact Or.inr (Or.inr hmem)

theorem Sound.answer (answer : Answer) : (world.answer answer).Sound := by
  unfold World.answer
  split
  · exact hsound
  · next frame frames hframes =>
    cases frame with
    | release id old generation next => exact hsound.released hframes answer.result
    | factory id generation context request =>
      exact (hsound.pop hframes rfl).produced id generation context request answer
    | describe id generation context request handle => exact hsound.described hframes answer
    | candidate handle => exact hsound.settled hframes rfl rfl answer.result

theorem Sound.kill (id : Nat) : (world.setState id { world.states id with alive := false }).Sound :=
  hsound.setState rfl

theorem Sound.step (input : Input) : (world.step input).Sound := by
  cases input with
  | create wrapper =>
    simp only [World.step, World.create]
    split
    · exact hsound.setWrapper ..
    · exact hsound
  | moveConstruct source wrapper =>
    simp only [World.step, World.moveConstruct]
    split
    · exact (hsound.setWrapper ..).setWrapper ..
    · exact hsound
  | moveAssign wrapper source =>
    simp only [World.step, World.moveAssign]
    split
    · exact hsound
    · split
      · have hmoved := (hsound.setWrapper wrapper (world.wrappers source)).setWrapper source
          (some none)
        split
        · exact (hsound.setWrapper ..).setWrapper ..
        · exact (((hsound.setWrapper ..).setWrapper ..).kill _).release ..
      · exact hsound
  | destroy wrapper =>
    simp only [World.step, World.destroy]
    split
    · exact hsound
    · exact hsound.setWrapper ..
    · exact (hsound.kill _).release ..
  | reset wrapper =>
    simp only [World.step, World.reset]
    split
    · exact hsound.release ..
    · exact hsound
  | «open» wrapper request =>
    simp only [World.step, World.openEntity]
    split
    · exact hsound
    · refine Sound.release ?_ ..
      exact hsound.congr rfl rfl rfl rfl
    · exact hsound.release ..
  | capture wrapper =>
    simp only [World.step, World.capture]
    split
    · exact hsound.congr rfl rfl rfl rfl
    · exact hsound
  | answer answer => exact hsound.answer answer
  | disable context => exact hsound.congr rfl rfl rfl rfl

end

end World

end KeelS2.Sdk.Wrappers
