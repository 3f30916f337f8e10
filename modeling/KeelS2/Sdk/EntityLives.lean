import KeelS2.Sdk.EntityWrappers

/-!
# The lives of the states of entities

A state only gets older: by one generation whenever it is released, and once it has lost its wrapper
it is never alive again. That is what snapshots and host calls go by. A state belongs to one wrapper
at most, also when it is moved.
-/

namespace KeelS2.Sdk.Wrappers

/-! ## How a state gets older -/

def State.SameAge (before after : State) : Prop :=
  after.generation = before.generation ∧ after.alive = before.alive

/-- A state that was released, and its wrapper destroyed perhaps. -/
def State.Aged (before after : State) : Prop :=
  after.generation = before.generation + 1 ∧ (after.alive = true → before.alive = true)

namespace World

variable (world : World)

/-- The state that is released: the one that the wrapper has which is reset, opened, assigned to or
destroyed. -/
def touched : Input → Option Nat
  | .reset wrapper | .open wrapper _ | .destroy wrapper => (world.wrappers wrapper).join
  | .moveAssign wrapper source =>
    if wrapper = source ∨ world.wrappers source = none then none
    else (world.wrappers wrapper).join
  | _ => none

theorem afterRelease_frame (id generation : Nat) (result : KeelResult) (next : Next) :
    (world.afterRelease id generation result next).states = world.states ∧
      (world.afterRelease id generation result next).snapshots = world.snapshots := by
  cases next with
  | done => exact ⟨rfl, rfl⟩
  | destroyed wrapper => exact ⟨rfl, rfl⟩
  | «open» request =>
    unfold afterRelease
    dsimp only
    split
    · split
      · exact ⟨rfl, rfl⟩
      · split <;> exact ⟨rfl, rfl⟩
    · exact ⟨rfl, rfl⟩

theorem afterRelease_states (id generation : Nat) (result : KeelResult) (next : Next) :
    (world.afterRelease id generation result next).states = world.states :=
  (world.afterRelease_frame id generation result next).1

theorem release_states (id : Nat) (next : Next) :
    (world.release id next).states = Function.update world.states id
      ⟨none, (world.states id).generation + 1, (world.states id).alive⟩ := by
  unfold release
  dsimp only
  split
  · exact afterRelease_states ..
  · split
    · rfl
    · exact afterRelease_states ..

theorem sameAge_setState (id : Nat) (value : Option Value) (other : Nat) :
    (world.states other).SameAge
      ((world.setState id { world.states id with value := value }).states other) := by
  by_cases heq : other = id
  · subst heq
    simp [setState, State.SameAge]
  · simp [setState, State.SameAge, heq]

theorem answer_age (answer : Answer) (id : Nat) :
    (world.states id).SameAge ((world.answer answer).states id) := by
  unfold World.answer
  split
  · exact ⟨rfl, rfl⟩
  · next frame frames hframes =>
    cases frame with
    | release held old generation next =>
      dsimp only
      unfold released
      rw [afterRelease_states]
      dsimp only
      split
      · exact sameAge_setState world held (some old) id
      · exact ⟨rfl, rfl⟩
    | factory held generation context request =>
      dsimp only
      unfold produced
      split
      · dsimp only
        split <;> exact ⟨rfl, rfl⟩
      · exact ⟨rfl, rfl⟩
    | describe held generation context request handle =>
      dsimp only
      unfold described
      split
      · exact sameAge_setState world held (some ⟨context, handle⟩) id
      · exact ⟨rfl, rfl⟩
    | candidate handle => exact ⟨rfl, rfl⟩

theorem release_age (after : World) {held : Nat} (next : Next)
    (hstates : ∀ other ≠ held, after.states other = world.states other)
    (hheld : (after.states held).generation = (world.states held).generation)
    (halive : (after.states held).alive = true → (world.states held).alive = true) (id : Nat) :
    held = id ∧ (world.states id).Aged ((after.release held next).states id) ∨
      held ≠ id ∧ (world.states id).SameAge ((after.release held next).states id) := by
  rw [release_states]
  by_cases heq : held = id
  · subst heq
    left
    simpa [State.Aged, hheld] using halive
  · right
    rw [Function.update_of_ne (Ne.symm heq), hstates id (Ne.symm heq)]
    exact ⟨heq, rfl, rfl⟩

theorem kill_age (after : World) (hafter : after.states = world.states) (held : Nat) (next : Next)
    (id : Nat) :
    held = id ∧ (world.states id).Aged
        (((after.setState held { after.states held with alive := false }).release held next).states
          id) ∨
      held ≠ id ∧ (world.states id).SameAge
        (((after.setState held { after.states held with alive := false }).release held next).states
          id) := by
  refine release_age world _ next ?_ ?_ ?_ id
  · intro other hne
    simp [setState, hafter, hne]
  · simp [setState, hafter]
  · simp [setState]

theorem step_age (input : Input) (id : Nat) :
    (world.touched input = some id ∨ id = world.nextState) ∧
        (world.states id).Aged ((world.step input).states id) ∨
      world.touched input ≠ some id ∧
        (world.states id).SameAge ((world.step input).states id) := by
  have hreleased : ∀ {held : Nat} {after : World}, world.touched input = some held →
      (held = id ∧ (world.states id).Aged (after.states id) ∨
        held ≠ id ∧ (world.states id).SameAge (after.states id)) →
      (world.touched input = some id ∨ id = world.nextState) ∧
          (world.states id).Aged (after.states id) ∨
        world.touched input ≠ some id ∧ (world.states id).SameAge (after.states id) := by
    intro held after htouched hage
    rw [htouched]
    simpa [or_and_right, or_assoc] using Or.imp_right Or.inr hage
  cases input with
  | create wrapper =>
    refine Or.inr ⟨by simp [touched], ?_⟩
    simp only [World.step, World.create]
    split <;> exact ⟨rfl, rfl⟩
  | moveConstruct source wrapper =>
    refine Or.inr ⟨by simp [touched], ?_⟩
    simp only [World.step, World.moveConstruct]
    split <;> exact ⟨rfl, rfl⟩
  | moveAssign wrapper source =>
    by_cases hself : wrapper = source
    · exact Or.inr ⟨by simp [touched, hself],
        by simp [World.step, moveAssign, hself, State.SameAge]⟩
    cases hsource : world.wrappers source with
    | none =>
      refine Or.inr ⟨by simp [touched, hsource], ?_⟩
      cases hwrapper : world.wrappers wrapper <;>
        simp [World.step, moveAssign, hself, hwrapper, hsource, State.SameAge]
    | some state =>
      cases hwrapper : world.wrappers wrapper with
      | none =>
        refine Or.inr ⟨by simp [touched, hwrapper], ?_⟩
        simp [World.step, moveAssign, hself, hwrapper, State.SameAge]
      | some previous =>
        cases previous with
        | none =>
          refine Or.inr ⟨by simp [touched, hwrapper], ?_⟩
          simp [World.step, moveAssign, hself, hwrapper, hsource, State.SameAge, setWrapper]
        | some held =>
          have htouched : world.touched (.moveAssign wrapper source) = some held := by
            simp [touched, hself, hwrapper, hsource]
          refine hreleased htouched ?_
          simp only [World.step, moveAssign, hself, hwrapper, hsource, if_false]
          exact kill_age world ((world.setWrapper wrapper (some state)).setWrapper source
            (some none)) rfl held .done id
  | destroy wrapper =>
    simp only [World.step, World.destroy]
    split
    · next hwrapper => exact Or.inr ⟨by simp [touched, hwrapper], rfl, rfl⟩
    · next hwrapper => exact Or.inr ⟨by simp [touched, hwrapper], rfl, rfl⟩
    · next held hwrapper =>
      exact hreleased (by simp [touched, hwrapper]) (kill_age world world rfl held _ id)
  | reset wrapper =>
    simp only [World.step, World.reset]
    split
    · next held hwrapper =>
      exact hreleased (by simp [touched, hwrapper])
        (release_age world world .done (fun _ _ => rfl) rfl (fun halive => halive) id)
    · next hnone =>
      refine Or.inr ⟨?_, rfl, rfl⟩
      intro hjoin
      exact hnone id (Option.join_eq_some_iff.1 hjoin)
  | «open» wrapper request =>
    simp only [World.step, World.openEntity]
    split
    · next hwrapper => exact Or.inr ⟨by simp [touched, hwrapper], rfl, rfl⟩
    · next hwrapper =>
      have hfresh : world.touched (.open wrapper request) = none := by simp [touched, hwrapper]
      let opened := { world with nextState := world.nextState + 1 }.setWrapper wrapper
        (some (some world.nextState))
      rw [hfresh]
      rcases release_age world opened (.open request) (fun _ _ => rfl) rfl (fun halive => halive) id
        with haged | hsame
      · exact Or.inl ⟨Or.inr haged.1.symm, haged.2⟩
      · exact Or.inr ⟨by simp, hsame.2⟩
    · next held hwrapper =>
      exact hreleased (by simp [touched, hwrapper])
        (release_age world world (.open request) (fun _ _ => rfl) rfl (fun halive => halive) id)
  | capture wrapper =>
    refine Or.inr ⟨by simp [touched], ?_⟩
    simp only [World.step, World.capture]
    split <;> exact ⟨rfl, rfl⟩
  | answer answer => exact Or.inr ⟨by simp [touched], world.answer_age answer id⟩
  | disable context => exact Or.inr ⟨by simp [touched], rfl, rfl⟩

theorem afterRelease_snapshots (id generation : Nat) (result : KeelResult) (next : Next) :
    (world.afterRelease id generation result next).snapshots = world.snapshots :=
  (world.afterRelease_frame id generation result next).2

theorem release_snapshots (id : Nat) (next : Next) :
    (world.release id next).snapshots = world.snapshots := by
  unfold release
  dsimp only
  split
  · exact afterRelease_snapshots ..
  · split
    · rfl
    · exact afterRelease_snapshots ..

theorem answer_snapshots (answer : Answer) :
    (world.answer answer).snapshots = world.snapshots := by
  unfold World.answer
  split
  · rfl
  · next frame frames hframes =>
    cases frame with
    | release held old generation next =>
      dsimp only
      unfold released
      rw [afterRelease_snapshots]
      dsimp only
      split <;> rfl
    | factory held generation context request =>
      dsimp only
      unfold produced
      split
      · dsimp only
        split <;> rfl
      · rfl
    | describe held generation context request handle =>
      dsimp only
      unfold described
      split <;> rfl
    | candidate handle => rfl

theorem step_snapshots (input : Input) :
    (world.step input).snapshots = world.snapshots ∨
      (world.step input).states = world.states ∧ ∃ id value,
        (world.step input).snapshots =
          ⟨id, value, (world.states id).generation⟩ :: world.snapshots := by
  cases input with
  | capture wrapper =>
    simp only [World.step, World.capture]
    split
    · next id hwrapper => exact Or.inr ⟨rfl, id, (world.states id).value, rfl⟩
    · exact Or.inl rfl
  | create wrapper =>
    left
    simp only [World.step, World.create]
    split <;> rfl
  | moveConstruct source wrapper =>
    left
    simp only [World.step, World.moveConstruct]
    split <;> rfl
  | moveAssign wrapper source =>
    left
    simp only [World.step, World.moveAssign]
    split
    · rfl
    · split
      · split
        · rfl
        · exact release_snapshots ..
      · rfl
  | destroy wrapper =>
    left
    simp only [World.step, World.destroy]
    split
    · rfl
    · rfl
    · exact release_snapshots ..
  | reset wrapper =>
    left
    simp only [World.step, World.reset]
    split
    · exact release_snapshots ..
    · rfl
  | «open» wrapper request =>
    left
    simp only [World.step, World.openEntity]
    split
    · rfl
    · exact release_snapshots ..
    · exact release_snapshots ..
  | answer answer => exact Or.inl (answer_snapshots world answer)
  | disable context => exact Or.inl rfl

/-- No snapshot is of a generation that is still to come. -/
def Captured : Prop :=
  ∀ snapshot ∈ world.snapshots, snapshot.generation ≤ (world.states snapshot.state).generation

variable {world}

theorem step_older (world : World) (input : Input) (id : Nat) :
    (world.states id).generation ≤ ((world.step input).states id).generation ∧
      (((world.step input).states id).alive = true → (world.states id).alive = true) := by
  rcases world.step_age input id with ⟨-, haged⟩ | ⟨-, hsame⟩
  · exact ⟨Nat.le.intro haged.1.symm, haged.2⟩
  · exact ⟨Nat.le_of_eq hsame.1.symm, fun halive => hsame.2.symm.trans halive⟩

theorem Captured.step (hcaptured : world.Captured) (input : Input) :
    (world.step input).Captured := by
  intro snapshot hmem
  rcases world.step_snapshots input with hsnapshots | ⟨hstates, id, value, hsnapshots⟩
  · rw [hsnapshots] at hmem
    exact Nat.le_trans (hcaptured snapshot hmem) (world.step_older input snapshot.state).1
  · rw [hsnapshots, List.mem_cons] at hmem
    rw [hstates]
    rcases hmem with rfl | hmem
    · exact Nat.le_refl _
    · exact hcaptured snapshot hmem

/-- What a snapshot is of is over. -/
def Over (world : World) (snapshot : Snapshot) : Prop :=
  (world.states snapshot.state).alive = false ∨
    snapshot.generation < (world.states snapshot.state).generation

theorem Over.step {snapshot : Snapshot} (hover : world.Over snapshot) (input : Input) :
    (world.step input).Over snapshot := by
  obtain ⟨hgeneration, halive⟩ := world.step_older input snapshot.state
  rcases hover with hdead | hlt
  · refine Or.inl (Bool.eq_false_iff.2 ?_)
    intro hnow
    rw [halive hnow] at hdead
    cases hdead
  · exact Or.inr (Nat.lt_of_lt_of_le hlt hgeneration)

end World

def Frame.state : Frame → Option Nat
  | .release state .. | .factory state .. | .describe state .. => some state
  | .candidate _ => none

namespace World

/-- Every state has one wrapper at most, and one that is still to be made is as it will be made. -/
structure Allocated (world : World) : Prop where
  unshared : ∀ wrapper other id, world.wrappers wrapper = some (some id) →
    world.wrappers other = some (some id) → wrapper = other
  known : ∀ wrapper id, world.wrappers wrapper = some (some id) → id < world.nextState
  underway : ∀ frame ∈ world.frames, ∀ id ∈ frame.state, id < world.nextState
  fresh : ∀ id, world.nextState ≤ id → world.states id = ⟨none, 0, true⟩

variable {world after : World}

theorem Allocated.frame (hallocated : world.Allocated)
    (hwrappers : ∀ wrapper id, after.wrappers wrapper = some (some id) →
      world.wrappers wrapper = some (some id))
    (hframes : ∀ frame ∈ after.frames, frame ∈ world.frames ∨
      ∀ id ∈ frame.state, id < world.nextState)
    (hnext : after.nextState = world.nextState)
    (hstates : ∀ id, world.nextState ≤ id → after.states id = world.states id) :
    after.Allocated where
  unshared wrapper other id hwrapper hother :=
    hallocated.unshared wrapper other id (hwrappers _ _ hwrapper) (hwrappers _ _ hother)
  known wrapper id hwrapper := by
    rw [hnext]
    exact hallocated.known wrapper id (hwrappers _ _ hwrapper)
  underway frame hmem id hid := by
    rw [hnext]
    rcases hframes frame hmem with hmem | hlt
    · exact hallocated.underway frame hmem id hid
    · exact hlt id hid
  fresh id hle := by
    rw [hnext] at hle
    rw [hstates id hle]
    exact hallocated.fresh id hle

theorem Allocated.setWrapper (hallocated : world.Allocated) (wrapper : Nat)
    {state : Option (Option Nat)} (hstate : state.join = none) :
    (world.setWrapper wrapper state).Allocated := by
  refine hallocated.frame ?_ (fun frame hmem => Or.inl hmem) rfl (fun _ _ => rfl)
  intro other id hother
  by_cases heq : other = wrapper
  · subst heq
    simp only [World.setWrapper, Function.update_self] at hother
    subst hother
    cases hstate
  · simpa [World.setWrapper, heq] using hother

theorem Allocated.setState (hallocated : world.Allocated) {id : Nat} (hlt : id < world.nextState)
    (state : State) : (world.setState id state).Allocated := by
  refine hallocated.frame (fun _ _ hwrapper => hwrapper) (fun frame hmem => Or.inl hmem) rfl ?_
  intro other hle
  have hne : other ≠ id := by omega
  simp [World.setState, hne]

theorem Allocated.push (hallocated : world.Allocated) {frame : Frame}
    (hstate : ∀ id ∈ frame.state, id < world.nextState) : (world.push frame).Allocated := by
  refine hallocated.frame (fun _ _ hwrapper => hwrapper) ?_ rfl (fun _ _ => rfl)
  intro other hmem
  rcases List.mem_cons.1 hmem with rfl | hmem
  · exact Or.inr hstate
  · exact Or.inl hmem

section

variable (hallocated : world.Allocated)

include hallocated

theorem Allocated.log (event : Event) : (world.log event).Allocated :=
  hallocated.frame (fun _ _ hwrapper => hwrapper) (fun _ hmem => Or.inl hmem) rfl (fun _ _ => rfl)

theorem Allocated.move {source wrapper : Nat} (hne : wrapper ≠ source) :
    ((world.setWrapper wrapper (world.wrappers source)).setWrapper source (some none)).Allocated :=
  by
  have hcases : ∀ other id, ((world.setWrapper wrapper (world.wrappers source)).setWrapper source
      (some none)).wrappers other = some (some id) →
        other = wrapper ∧ world.wrappers source = some (some id) ∨
          other ≠ source ∧ other ≠ wrapper ∧ world.wrappers other = some (some id) := by
    intro other id hother
    by_cases hsource : other = source
    · simp [World.setWrapper, hsource] at hother
    · by_cases hwrapper : other = wrapper
      · exact Or.inl ⟨hwrapper, by simpa [World.setWrapper, hwrapper, hne] using hother⟩
      · exact Or.inr ⟨hsource, hwrapper,
          by simpa [World.setWrapper, hsource, hwrapper] using hother⟩
  constructor
  · intro first second id hfirst hsecond
    rcases hcases first id hfirst with ⟨hone, hfirst⟩ | ⟨hone, -, hfirst⟩ <;>
      rcases hcases second id hsecond with ⟨htwo, hsecond⟩ | ⟨htwo, -, hsecond⟩
    · rw [hone, htwo]
    · exact absurd (hallocated.unshared _ _ id hsecond hfirst) htwo
    · exact absurd (hallocated.unshared _ _ id hfirst hsecond) hone
    · exact hallocated.unshared _ _ id hfirst hsecond
  · intro other id hother
    rcases hcases other id hother with ⟨-, hother⟩ | ⟨-, -, hother⟩
    · exact hallocated.known _ id hother
    · exact hallocated.known _ id hother
  · exact hallocated.underway
  · exact hallocated.fresh

theorem Allocated.make {wrapper : Nat} :
    ({ world with nextState := world.nextState + 1 }.setWrapper wrapper
      (some (some world.nextState))).Allocated := by
  have hcases : ∀ other id, ({ world with nextState := world.nextState + 1 }.setWrapper wrapper
      (some (some world.nextState))).wrappers other = some (some id) →
        other = wrapper ∧ id = world.nextState ∨ world.wrappers other = some (some id) := by
    intro other id hother
    by_cases heq : other = wrapper
    · simp only [World.setWrapper, heq, Function.update_self, Option.some.injEq] at hother
      exact Or.inl ⟨heq, hother.symm⟩
    · exact Or.inr (by simpa [World.setWrapper, heq] using hother)
  constructor
  · intro first second id hfirst hsecond
    rcases hcases first id hfirst with ⟨hone, rfl⟩ | hfirst <;>
      rcases hcases second _ hsecond with ⟨htwo, hid⟩ | hsecond
    · rw [hone, htwo]
    · exact absurd (hallocated.known second _ hsecond) (Nat.lt_irrefl _)
    · exact absurd (hallocated.known first _ (hid ▸ hfirst)) (Nat.lt_irrefl _)
    · exact hallocated.unshared first second id hfirst hsecond
  · intro other id hother
    rcases hcases other id hother with ⟨-, rfl⟩ | hother
    · exact Nat.lt_succ_self _
    · exact Nat.lt_succ_of_lt (hallocated.known other id hother)
  · intro frame hmem id hid
    exact Nat.lt_succ_of_lt (hallocated.underway frame hmem id hid)
  · intro id hle
    exact hallocated.fresh id (Nat.le_of_succ_le hle)

theorem Allocated.afterRelease {id : Nat} (hlt : id < world.nextState) (generation : Nat)
    (result : KeelResult) (next : Next) :
    (world.afterRelease id generation result next).Allocated := by
  cases next with
  | done => exact hallocated
  | destroyed wrapper => exact hallocated.setWrapper wrapper rfl
  | «open» request =>
    unfold World.afterRelease
    dsimp only
    split
    · split
      · exact hallocated
      · split
        · exact hallocated.push (by simpa [Frame.state] using hlt)
        · exact hallocated
    · exact hallocated

theorem Allocated.release {id : Nat} (hlt : id < world.nextState) (next : Next) :
    (world.release id next).Allocated := by
  unfold World.release
  dsimp only
  split
  · exact (hallocated.setState hlt _).afterRelease hlt ..
  · split
    · refine ((hallocated.setState hlt _).log _).push ?_
      rintro other ⟨⟩
      exact hlt
    · exact (hallocated.setState hlt _).afterRelease hlt ..

theorem Allocated.answer (answer : Answer) : (world.answer answer).Allocated := by
  unfold World.answer
  split
  · exact hallocated
  · next frame frames hframes =>
    have hback : { world with frames := frames }.Allocated :=
      hallocated.frame (fun _ _ hwrapper => hwrapper)
        (fun other hmem => Or.inl (hframes ▸ List.mem_cons_of_mem _ hmem)) rfl (fun _ _ => rfl)
    have hstate : ∀ id ∈ frame.state, id < world.nextState :=
      hallocated.underway frame (hframes ▸ List.mem_cons_self)
    cases frame with
    | release id old generation next =>
      have hlt := hstate id rfl
      dsimp only
      unfold released
      dsimp only
      split
      · exact ((hback.log _).setState hlt _).afterRelease hlt ..
      · exact (hback.log _).afterRelease hlt ..
    | factory id generation context request =>
      dsimp only
      unfold produced
      split
      · have hissued : ({ world with frames := frames, nextHandle := world.nextHandle + 1 } :
            World).Allocated :=
          hback.frame (fun _ _ hwrapper => hwrapper) (fun _ hmem => Or.inl hmem) rfl
            (fun _ _ => rfl)
        dsimp only
        split
        · exact (hissued.log _).push hstate
        · exact ((hissued.log _).log _).push (by simp [Frame.state])
      · exact hback
    | describe id generation context request handle =>
      have hlt := hstate id rfl
      dsimp only
      unfold described
      split
      · exact (hback.setState hlt _).log _
      · exact (hback.log _).push (by simp [Frame.state])
    | candidate handle => exact hback.log _

theorem Allocated.step (input : Input) : (world.step input).Allocated := by
  cases input with
  | create wrapper =>
    simp only [World.step, World.create]
    split
    · exact hallocated.setWrapper wrapper rfl
    · exact hallocated
  | moveConstruct source wrapper =>
    simp only [World.step, World.moveConstruct]
    split
    · next state hsource hwrapper =>
      have hne : wrapper ≠ source := by
        rintro rfl
        rw [hsource] at hwrapper
        cases hwrapper
      exact hsource ▸ hallocated.move hne
    · exact hallocated
  | moveAssign wrapper source =>
    simp only [World.step, World.moveAssign]
    split
    · exact hallocated
    · next hne =>
      split
      · next previous state hwrapper hsource =>
        have hmoved := hallocated.move hne
        rw [hsource] at hmoved
        split
        · exact hmoved
        · next id =>
          have hlt := hallocated.known wrapper id hwrapper
          exact (hmoved.setState hlt _).release hlt ..
      · exact hallocated
  | destroy wrapper =>
    simp only [World.step, World.destroy]
    split
    · exact hallocated
    · exact hallocated.setWrapper wrapper rfl
    · next id hwrapper =>
      have hlt := hallocated.known wrapper id hwrapper
      exact (hallocated.setState hlt _).release hlt ..
  | reset wrapper =>
    simp only [World.step, World.reset]
    split
    · next id hwrapper => exact hallocated.release (hallocated.known wrapper id hwrapper) ..
    · exact hallocated
  | «open» wrapper request =>
    simp only [World.step, World.openEntity]
    split
    · exact hallocated
    · exact hallocated.make.release (Nat.lt_succ_self _) ..
    · next id hwrapper => exact hallocated.release (hallocated.known wrapper id hwrapper) ..
  | capture wrapper =>
    simp only [World.step, World.capture]
    split
    · exact hallocated.frame (fun _ _ hwrapper => hwrapper) (fun _ hmem => Or.inl hmem) rfl
        (fun _ _ => rfl)
    · exact hallocated
  | answer answer => exact hallocated.answer answer
  | disable context =>
    exact hallocated.frame (fun _ _ hwrapper => hwrapper) (fun _ hmem => Or.inl hmem) rfl
      (fun _ _ => rfl)

end

theorem Allocated.sameAge (input : Input) {id : Nat} (hlt : id < world.nextState)
    (huntouched : world.touched input ≠ some id) :
    (world.states id).SameAge ((world.step input).states id) := by
  rcases world.step_age input id with ⟨hwhere, -⟩ | ⟨-, hsame⟩
  · rcases hwhere with htouched | rfl
    · exact absurd htouched huntouched
    · exact absurd hlt (Nat.lt_irrefl _)
  · exact hsame

end World
end KeelS2.Sdk.Wrappers
