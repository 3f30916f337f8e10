import KeelS2.Cs2.ConstructionScopes

/-!
# The keys of owned constructions

`Set` puts one key into a construction or leaves it as it is. Its copy of the keys is made before
the backend builds the values, and is put back behind it: in between the record is busy, so that
no other `Set` of it is under way (`Effect`, `Keyed.step`).
-/

namespace KeelS2.Cs2.Construction

/-! ## Upserts -/

theorem sameKey_symm {left right : Text} (h : sameKey left right = true) :
    sameKey right left = true := by
  simp only [sameKey, decide_eq_true_eq] at *
  exact h.symm

theorem sameKey_trans {left middle right : Text} (h : sameKey left middle = true)
    (h' : sameKey middle right = true) : sameKey left right = true := by
  simp only [sameKey, decide_eq_true_eq] at *
  exact h.trans h'

/-- No two keys have one name, ignoring case. -/
def Distinct (keys : List Key) : Prop :=
  keys.Pairwise fun left right => sameKey left.name right.name = false

/-- With the key of a name is in its place, or at the end if the name is new; all others stay. -/
structure Upserted (keys : List Key) (key : Key) (keys' : List Key) : Prop where
  placed : (∃ index old, keys[index]? = some old ∧ sameKey old.name key.name = true ∧
      keys' = keys.set index key) ∨
    ((∀ old ∈ keys, sameKey old.name key.name = false) ∧ keys.length < keyMaxCount ∧
      keys' = keys ++ [key])

theorem upserted_of_upsert {keys keys' : List Key} {key : Key}
    (h : State.upsert keys key = some keys') :
    Upserted keys key keys' := by
  unfold State.upsert at h
  split at h
  · next index hindex =>
    cases h
    obtain ⟨hlt, hsame, -⟩ := List.findIdx?_eq_some_iff_getElem.1 hindex
    exact ⟨Or.inl ⟨index, keys[index], List.getElem?_eq_getElem hlt, hsame, rfl⟩⟩
  · next hnone =>
    split at h
    · cases h
    · next hroom =>
      cases h
      refine ⟨Or.inr ⟨fun old hold => ?_, Nat.not_le.1 hroom, rfl⟩⟩
      simpa using List.findIdx?_eq_none_iff.1 hnone old hold

theorem Upserted.length_le {keys keys' : List Key} {key : Key} (h : Upserted keys key keys')
    (hlength : keys.length ≤ keyMaxCount) : keys'.length ≤ keyMaxCount := by
  rcases h.placed with ⟨index, old, -, -, rfl⟩ | ⟨-, hroom, rfl⟩
  · rwa [List.length_set]
  · rw [List.length_append, List.length_singleton]
    omega

theorem Upserted.distinct {keys keys' : List Key} {key : Key} (h : Upserted keys key keys')
    (hdistinct : Distinct keys) : Distinct keys' := by
  rcases h.placed with ⟨index, old, hold, hsame, rfl⟩ | ⟨hnew, -, rfl⟩
  · -- A name that is the same as the old one's is as different from the others as that.
    obtain ⟨hindex, rfl⟩ := List.getElem?_eq_some_iff.1 hold
    unfold Distinct at *
    rw [List.pairwise_iff_getElem] at *
    intro i j hi hj hij
    rw [List.length_set] at hi hj
    have hpair := hdistinct i j hi hj hij
    rw [List.getElem_set, List.getElem_set]
    split
    · next heq =>
      subst heq
      rw [if_neg (by omega)]
      by_contra hcontra
      rw [Bool.not_eq_false] at hcontra
      rw [sameKey_trans hsame hcontra] at hpair
      cases hpair
    · split
      · next heq =>
        subst heq
        by_contra hcontra
        rw [Bool.not_eq_false] at hcontra
        rw [sameKey_trans hcontra (sameKey_symm hsame)] at hpair
        cases hpair
      · exact hpair
  · unfold Distinct
    rw [List.pairwise_append]
    refine ⟨hdistinct, List.pairwise_singleton _ _, fun old hold new hmem => ?_⟩
    cases List.mem_singleton.1 hmem
    exact hnew old hold

/-! ## What a step does to the keys -/

/-- What a record is apart from its flags and its identity. -/
def Record.data (record : Record) : Nat × Text × List Key × Option Nat :=
  (record.token, record.className, record.keys, record.values)

/-- It is not the success of a `Set`. -/
def Unset (answer : Call × KeelResult) : Prop :=
  ∀ token key, answer ≠ (.set token key, .ok)

def After.unset : After → Prop
  | answer call result => Unset (call, result)
  | reset _ => True

/-- A frame that has no keys and no success of a `Set` in it. -/
def Frame.harmless : Frame → Prop
  | setValidate _ _ _ | setBuild _ _ _ _ => False
  | leave after => after.unset
  | _ => True

/-- The record that a `Set` is under way for. -/
def Frame.sets : Frame → Option Nat
  | setValidate _ _ record | setBuild _ _ _ record => some record
  | _ => none

/-- What leaves the data, the frames and the answers. -/
structure Silent (state state' : State) : Prop where
  data : ∀ record, (state'.records record).data = (state.records record).data
  made : state'.made = state.made
  builds : state'.builds = state.builds
  stack : state'.stack = state.stack
  answers : state'.answers = state.answers

/-- What leaves the data, and has nothing to do with a `Set`. -/
structure Plain (state state' : State) : Prop where
  data : ∀ record, (state'.records record).data = (state.records record).data
  made : state'.made = state.made
  builds : state'.builds = state.builds
  stack : ∀ frame ∈ state'.stack, frame ∈ state.stack ∨ frame.harmless
  answers : state'.answers = state.answers ∨
    ∃ answer, Unset answer ∧ state'.answers = answer :: state.answers

namespace Silent

variable {state state' state'' : State}

theorem trans (h : Silent state state') (h' : Silent state' state'') : Silent state state'' :=
  ⟨fun record => (h'.data record).trans (h.data record), h'.made.trans h.made,
    h'.builds.trans h.builds, h'.stack.trans h.stack, h'.answers.trans h.answers⟩

theorem plain (h : Silent state state') (h' : Plain state' state'') : Plain state state'' where
  data record := (h'.data record).trans (h.data record)
  made := h'.made.trans h.made
  builds := h'.builds.trans h.builds
  stack frame hframe := by
    rw [← h.stack]
    exact h'.stack frame hframe
  answers := by
    rw [← h.answers]
    exact h'.answers

theorem edit (state : State) (record : Nat) (change : Record → Record)
    (hdata : ∀ record, (change record).data = record.data) :
    Silent state (state.edit record change) := by
  refine ⟨fun other => ?_, rfl, rfl, rfl, rfl⟩
  simp only [State.edit]
  split
  · exact hdata _
  · rfl

theorem detach (state : State) (record : Nat) : Silent state (state.detach record) :=
  (edit state record (fun record => { record with closed := true }) fun _ => rfl).trans
    ⟨fun _ => rfl, rfl, rfl, rfl, rfl⟩

theorem enter (state : State) (record : Nat) : Silent state (state.enter record) :=
  (edit state record (fun record => { record with busy := true }) fun _ => rfl).trans
    ⟨fun _ => rfl, rfl, rfl, rfl, rfl⟩

theorem consume (state : State) (record : Nat) : Silent state (state.consume record) :=
  (edit state record (fun record => { record with consumed := true }) fun _ => rfl).trans
    ⟨fun _ => rfl, rfl, rfl, rfl, rfl⟩

end Silent

namespace Plain

theorem refl (state : State) : Plain state state :=
  ⟨fun _ => rfl, rfl, rfl, fun _ h => Or.inl h, Or.inl rfl⟩

theorem answer (state : State) {call : Call} {result : KeelResult} (h : Unset (call, result)) :
    Plain state (state.answer call result) :=
  ⟨fun _ => rfl, rfl, rfl, fun _ h => Or.inl h, Or.inr ⟨_, h, rfl⟩⟩

theorem push (state : State) {frame : Frame} (h : frame.harmless) :
    Plain state (state.push frame) := by
  refine ⟨fun _ => rfl, rfl, rfl, fun other hother => ?_, Or.inl rfl⟩
  rcases List.mem_cons.1 hother with rfl | hmem
  · exact Or.inr h
  · exact Or.inl hmem

theorem resetNext (rest : List Nat) (state : State) : Plain state (state.resetNext rest) := by
  induction rest with
  | nil =>
    have hdown : Silent state { state with resetting := state.resetting - 1 } :=
      ⟨fun _ => rfl, rfl, rfl, rfl, rfl⟩
    exact hdown.plain (answer _ fun _ _ heq => by cases heq)
  | cons record rest ih =>
    unfold State.resetNext
    split
    · exact ih
    · exact (Silent.enter state record).plain
        ((Silent.consume _ record).plain (push _ trivial))

theorem resume (state : State) {after : After} (h : after.unset) :
    Plain state (state.resume after) := by
  have hdown : Silent state { state with depth := state.depth - 1 } :=
    ⟨fun _ => rfl, rfl, rfl, rfl, rfl⟩
  cases after with
  | answer call result => exact hdown.plain (answer _ h)
  | reset rest => exact hdown.plain (resetNext rest _)

theorem endOperation (state : State) (record : Nat) (wasBusy : Bool) {after : After}
    (h : after.unset) : Plain state (state.endOperation record wasBusy after) := by
  unfold State.endOperation
  have hbusy := Silent.edit state record (fun record => { record with busy := wasBusy })
    fun _ => rfl
  dsimp only
  split
  · exact hbusy.plain ((Silent.consume _ record).plain (push _ h))
  · exact hbusy.plain (resume _ h)

end Plain

/-- What may become of the keys behind the frame that was on top. -/
inductive Effect (frame : Frame) (state state' : State) : Prop
  | plain (h : Plain state state')
  /-- A `Create` has made a record. -/
  | made (className : Text) (slot : Nat)
      (data : ∀ record, (state'.records record).data =
        if record = state.made then (state.nextToken, className, [], none)
        else (state.records record).data)
      (made : state'.made = state.made + 1) (builds : state'.builds = state.builds)
      (stack : state'.stack = .createBuild state.made slot :: state.stack)
      (answers : state'.answers = state.answers)
  /-- It has built the record without keys. -/
  | built (record slot value : Nat) (frame_eq : frame = .createBuild record slot)
      (data : ∀ other, (state'.records other).data =
        if other = record then
          ((state.records record).token, (state.records record).className,
            (state.records record).keys, some value)
        else (state.records other).data)
      (made : state'.made = state.made)
      (builds : state'.builds = ((state.records record).className, [], value) :: state.builds)
      (stack : state'.stack = .createCreate record :: state.stack)
      (answers : state'.answers = state.answers)
  /-- A `Set` has found its record. -/
  | found (token : Nat) (key : Key) (record : Nat)
      (data : ∀ other, (state'.records other).data = (state.records other).data)
      (token_eq : (state.records record).token = token)
      (made : state'.made = state.made) (builds : state'.builds = state.builds)
      (stack : state'.stack = .setValidate token key record :: state.stack)
      (answers : state'.answers = state.answers)
  /-- It has made its copy of the keys. -/
  | copied (token : Nat) (key : Key) (keys : List Key) (record : Nat)
      (frame_eq : frame = .setValidate token key record)
      (data : ∀ other, (state'.records other).data = (state.records other).data)
      (upsert : State.upsert (state.records record).keys key = some keys)
      (made : state'.made = state.made) (builds : state'.builds = state.builds)
      (stack : state'.stack = .setBuild token key keys record :: state.stack)
      (answers : state'.answers = state.answers)
  /-- It has put it back, with the values of it. -/
  | committed (token : Nat) (key : Key) (keys : List Key) (record value : Nat)
      (frame_eq : frame = .setBuild token key keys record)
      (data : ∀ other, (state'.records other).data =
        if other = record then
          ((state.records record).token, (state.records record).className, keys, some value)
        else (state.records other).data)
      (made : state'.made = state.made)
      (builds : state'.builds = ((state.records record).className, keys, value) :: state.builds)
      (stack : state'.stack = state.stack)
      (answers : state'.answers = (.set token key, .ok) :: state.answers)

namespace Effect

theorem unset_of (call : Call) (h : ∀ token key, call ≠ .set token key) (result : KeelResult) :
    Unset (call, result) := by
  intro token key heq
  exact h token key (Prod.mk.inj heq).1

theorem unset_failed (call : Call) {result : KeelResult} (h : result ≠ .ok) :
    Unset (call, result) := by
  intro token key heq
  exact h (Prod.mk.inj heq).2

theorem error_of_begin {state : State} {token : Nat} {result : KeelResult}
    (h : state.begin_ token = .error result) : result ≠ .ok := by
  unfold State.begin_ at h
  split at h
  · cases h
    intro heq
    cases heq
  · split at h
    · cases h
      intro heq
      cases heq
    · cases h

theorem start (frame : Frame) (state : State) (call : Call) :
    Effect frame state (state.start call) := by
  unfold State.start
  cases call with
  | create className =>
    have hunset := fun result => unset_of (.create className)
      (fun _ _ heq => by cases heq) result
    dsimp only
    split
    · exact .plain (Plain.answer _ (hunset _))
    · split
      · exact .plain (Plain.answer _ (hunset _))
      · next slot _ =>
        refine .made className slot (fun record => ?_) rfl rfl rfl rfl
        simp only [State.push]
        split <;> rfl
  | describe token =>
    have hunset := fun result => unset_of (.describe token)
      (fun _ _ heq => by cases heq) result
    dsimp only
    split
    · exact .plain (Plain.answer _ (hunset _))
    · split
      · exact .plain (Plain.answer _ (hunset _))
      · exact .plain (Plain.push _ trivial)
  | set token key =>
    dsimp only
    split
    · next result hresult =>
      exact .plain (Plain.answer _ (unset_failed _ (error_of_begin hresult)))
    · next record hrecord =>
      obtain ⟨-, -, htoken, -⟩ := Scoped.of_begin hrecord
      have hentered := Silent.enter state record
      exact .found token key record hentered.data htoken rfl rfl rfl rfl
  | teleport token =>
    dsimp only
    split
    · exact .plain (Plain.answer _ (unset_of _ (fun _ _ heq => by cases heq) _))
    · next record _ =>
      exact .plain ((Silent.enter state record).plain (Plain.push _ trivial))
  | spawn token =>
    dsimp only
    split
    · exact .plain (Plain.answer _ (unset_of _ (fun _ _ heq => by cases heq) _))
    · next record _ =>
      exact .plain ((Silent.enter state record).plain (Plain.push _ trivial))
  | cancel token =>
    have hunset := fun result => unset_of (.cancel token)
      (fun _ _ heq => by cases heq) result
    dsimp only
    split
    · exact .plain (Plain.answer _ (hunset _))
    · next record _ =>
      have hdetached := Silent.detach state record
      split
      · exact .plain (hdetached.plain (Plain.answer _ (hunset _)))
      · have hentered := hdetached.trans (Silent.enter _ record)
        split
        · exact .plain (hentered.plain ((Silent.consume _ record).plain (Plain.push _ trivial)))
        · exact .plain (hentered.plain (Plain.endOperation _ record false (hunset _)))
  | visit token =>
    have hunset := fun result => unset_of (.visit token)
      (fun _ _ heq => by cases heq) result
    dsimp only
    split
    · exact .plain (Plain.answer _ (hunset _))
    · next record _ =>
      split
      · exact .plain (Plain.answer _ (hunset _))
      · split
        · exact .plain (Plain.answer _ (hunset _))
        · exact .plain ((Silent.enter state record).plain (Plain.push _ trivial))
  | reset => exact .plain (Plain.refl state)

theorem back {state : State} {frame : Frame} (h : ∀ after, frame = .leave after → after.unset)
    (outcome : Outcome) : Effect frame state (state.back frame outcome) := by
  have hcreate : ∀ className result, After.unset (.answer (.create className) result) :=
    fun className => unset_of (.create className) (fun _ _ heq => by cases heq)
  unfold State.back
  cases frame with
  | ready call =>
    dsimp only
    split
    · exact .plain (Plain.answer _ (unset_failed _ (fun heq => by cases heq)))
    · split
      · next hresult => exact .plain (Plain.answer _ (unset_failed _ hresult))
      · exact start _ state call
  | createBuild record slot =>
    dsimp only
    split
    · exact .plain (Plain.answer _ (hcreate _ _))
    · split
      · exact .plain (Plain.answer _ (hcreate _ _))
      · refine .built record slot outcome.value rfl (fun other => ?_) rfl ?_ rfl rfl
        · simp only [State.push, State.enter, State.edit]
          split
          · next heq =>
            subst heq
            rfl
          · rfl
        · simp only [State.push, State.enter, State.edit, if_true]
  | createCreate record =>
    have hedited := Silent.edit state record (fun record =>
      { record with
        identity := outcome.identity
        created := !outcome.threw && outcome.result = .ok }) fun _ => rfl
    dsimp only
    split
    · exact .plain (hedited.plain ((Silent.detach _ record).plain
        (Plain.endOperation _ record false (hcreate _ _))))
    · split
      · exact .plain (hedited.plain ((Silent.detach _ record).plain
          (Plain.endOperation _ record false (hcreate _ _))))
      · split
        · have hrefused := hedited.trans
            (Silent.edit _ record (fun record => { record with created := false }) fun _ => rfl)
          exact .plain (hrefused.plain ((Silent.detach _ record).plain
            (Plain.endOperation _ record false (hcreate _ _))))
        · split
          · exact .plain (hedited.plain ((Silent.detach _ record).plain
              (Plain.endOperation _ record false (hcreate _ _))))
          · exact .plain (hedited.plain (Plain.push _ trivial))
  | createValidate record =>
    dsimp only
    split
    · exact .plain ((Silent.detach _ record).plain
        (Plain.endOperation _ record false (hcreate _ _)))
    · split
      · exact .plain ((Silent.detach _ record).plain
          (Plain.endOperation _ record false (hcreate _ _)))
      · exact .plain (Plain.endOperation _ record false (hcreate _ _))
  | describeValidate token record =>
    exact .plain (Plain.answer _ (unset_of _ (fun _ _ heq => by cases heq) _))
  | setValidate token key record =>
    dsimp only
    split
    · exact .plain (Plain.endOperation _ record false
        (unset_failed _ (fun heq => by cases heq)))
    · split
      · next hresult =>
        refine .plain (Plain.endOperation _ record false (unset_failed _ ?_))
        split
        · intro heq
          cases heq
        · next hopen => exact hresult.resolve_right hopen
      · split
        · exact .plain (Plain.endOperation _ record false
            (unset_failed _ (fun heq => by cases heq)))
        · next keys hkeys =>
          exact .copied token key keys record rfl (fun _ => rfl) hkeys rfl rfl rfl rfl
  | setBuild token key keys record =>
    dsimp only
    split
    · exact .plain (Plain.endOperation _ record false
        (unset_failed _ (fun heq => by cases heq)))
    · split
      · next hresult =>
        refine .plain (Plain.endOperation _ record false (unset_failed _ ?_))
        split
        · intro heq
          cases heq
        · next hopen => exact hresult.resolve_right hopen
      · next hdone =>
        simp only [not_or, Bool.not_eq_true] at hdone
        -- The record is open, so that nothing is left to be finished.
        simp only [State.endOperation, State.edit, if_true, State.finishes, hdone.2,
          Bool.false_and, Bool.false_eq_true, if_false]
        refine .committed token key keys record outcome.value rfl (fun other => ?_) rfl rfl rfl rfl
        simp only [State.resume, State.answer]
        split
        · next heq =>
          subst heq
          rfl
        · rfl
  | teleportValidate token record =>
    have hunset := fun result => unset_of (.teleport token)
      (fun _ _ heq => by cases heq) result
    dsimp only
    split
    · exact .plain (Plain.endOperation _ record false (hunset _))
    · split
      · exact .plain (Plain.endOperation _ record false (hunset _))
      · exact .plain (Plain.push _ trivial)
  | teleport token record =>
    exact .plain (Plain.endOperation _ record false
      (unset_of _ (fun _ _ heq => by cases heq) _))
  | spawnValidate token record =>
    have hunset := fun result => unset_of (.spawn token)
      (fun _ _ heq => by cases heq) result
    dsimp only
    split
    · exact .plain (Plain.endOperation _ record false (hunset _))
    · split
      · exact .plain (Plain.endOperation _ record false (hunset _))
      · exact .plain (Plain.push _ trivial)
  | spawn token record =>
    have hunset := fun result => unset_of (.spawn token)
      (fun _ _ heq => by cases heq) result
    dsimp only
    split
    · have hconsumed := Silent.edit state record (fun record => { record with consumed := true })
        fun _ => rfl
      have hlogged : Silent (state.edit record fun record => { record with consumed := true })
          { (state.edit record fun record => { record with consumed := true }) with
            dispatched := record :: state.dispatched } := ⟨fun _ => rfl, rfl, rfl, rfl, rfl⟩
      exact .plain ((hconsumed.trans hlogged).plain ((Silent.detach _ record).plain
        (Plain.endOperation _ record false (hunset _))))
    · exact .plain (Plain.endOperation _ record false (hunset _))
  | visitValidate token record wasBusy =>
    have hunset := fun result => unset_of (.visit token)
      (fun _ _ heq => by cases heq) result
    dsimp only
    split
    · exact .plain (Plain.endOperation _ record wasBusy (hunset _))
    · split
      · exact .plain (Plain.endOperation _ record wasBusy (hunset _))
      · exact .plain (Plain.push _ trivial)
  | visit token record wasBusy =>
    exact .plain (Plain.endOperation _ record wasBusy
      (unset_of _ (fun _ _ heq => by cases heq) _))
  | cancelFinish token record =>
    exact .plain (Plain.endOperation _ record false
      (unset_of _ (fun _ _ heq => by cases heq) _))
  | resetFinish record rest => exact .plain (Plain.endOperation _ record false trivial)
  | leave after => exact .plain (Plain.resume _ (h after rfl))

end Effect
/-! ## Runs -/

/-- The records that have been made have keys of different names, and the values that were built
from them; what is under way for one of them has its keys. -/
structure Keyed (frames : List Frame) (state : State) : Prop where
  distinct : ∀ record < state.made, Distinct (state.records record).keys
  bounded : ∀ record < state.made, (state.records record).keys.length ≤ keyMaxCount
  bare : ∀ record < state.made, (state.records record).values = none →
    (state.records record).keys = []
  built : ∀ record < state.made, ∀ value, (state.records record).values = some value →
    ((state.records record).className, (state.records record).keys, value) ∈ state.builds
  validating : ∀ token key record, .setValidate token key record ∈ frames →
    (state.records record).token = token
  building : ∀ token key keys record, .setBuild token key keys record ∈ frames →
    (state.records record).token = token ∧
      State.upsert (state.records record).keys key = some keys
  leaving : ∀ after, .leave after ∈ frames → after.unset

namespace Keyed

variable {state state' : State}

theorem initial : Keyed [] State.initial where
  distinct _ hrecord := by cases hrecord
  bounded _ hrecord := by cases hrecord
  bare _ hrecord := by cases hrecord
  built _ hrecord := by cases hrecord
  validating _ _ _ hframe := by cases hframe
  building _ _ _ _ hframe := by cases hframe
  leaving _ hframe := by cases hframe

theorem of_data (h : Keyed state.stack state)
    (hdata : ∀ record, (state'.records record).data = (state.records record).data)
    (hmade : state'.made = state.made) (hbuilds : state'.builds = state.builds)
    (hstack : ∀ frame ∈ state'.stack, frame ∈ state.stack ∨ frame.harmless ∨
      (∃ token key record, frame = .setValidate token key record ∧
        (state.records record).token = token) ∨
      ∃ token key keys record, frame = .setBuild token key keys record ∧
        (state.records record).token = token ∧
        State.upsert (state.records record).keys key = some keys) :
    Keyed state'.stack state' := by
  have htoken : ∀ record, (state'.records record).token = (state.records record).token :=
    fun record => congrArg (·.1) (hdata record)
  have hclass : ∀ record, (state'.records record).className = (state.records record).className :=
    fun record => congrArg (·.2.1) (hdata record)
  have hkeys : ∀ record, (state'.records record).keys = (state.records record).keys :=
    fun record => congrArg (·.2.2.1) (hdata record)
  have hvalues : ∀ record, (state'.records record).values = (state.records record).values :=
    fun record => congrArg (·.2.2.2) (hdata record)
  refine ⟨?_, ?_, ?_, ?_, ?_, ?_, ?_⟩
  · intro record hrecord
    rw [hkeys]
    exact h.distinct record (hmade ▸ hrecord)
  · intro record hrecord
    rw [hkeys]
    exact h.bounded record (hmade ▸ hrecord)
  · intro record hrecord hnone
    rw [hvalues] at hnone
    rw [hkeys]
    exact h.bare record (hmade ▸ hrecord) hnone
  · intro record hrecord value hvalue
    rw [hvalues] at hvalue
    rw [hclass, hkeys, hbuilds]
    exact h.built record (hmade ▸ hrecord) value hvalue
  · intro token key record hframe
    rw [htoken]
    rcases hstack _ hframe with hold | hharm | ⟨_, _, _, heq, hnew⟩ | ⟨_, _, _, _, heq, -⟩
    · exact h.validating token key record hold
    · exact hharm.elim
    · cases heq
      exact hnew
    · cases heq
  · intro token key keys record hframe
    rw [htoken, hkeys]
    rcases hstack _ hframe with hold | hharm | ⟨_, _, _, heq, -⟩ | ⟨_, _, _, _, heq, hnew⟩
    · exact h.building token key keys record hold
    · exact hharm.elim
    · cases heq
    · cases heq
      exact hnew
  · intro after hframe
    rcases hstack _ hframe with hold | hharm | ⟨_, _, _, heq, -⟩ | ⟨_, _, _, _, heq, -⟩
    · exact h.leaving after hold
    · exact hharm
    · cases heq
    · cases heq

theorem of_data_except (h : Keyed state.stack state) (record : Nat)
    (hdata : ∀ other, other ≠ record → (state'.records other).data = (state.records other).data)
    (hmade : ∀ other < state'.made, other ≠ record → other < state.made)
    (hbuilds : ∀ build ∈ state.builds, build ∈ state'.builds)
    (hdistinct : Distinct (state'.records record).keys)
    (hbounded : (state'.records record).keys.length ≤ keyMaxCount)
    (hbare : (state'.records record).values = none → (state'.records record).keys = [])
    (hbuilt : ∀ value, (state'.records record).values = some value →
      ((state'.records record).className, (state'.records record).keys, value) ∈ state'.builds)
    (hstack : ∀ frame ∈ state'.stack, frame.harmless ∨
      (frame ∈ state.stack ∧ frame.sets ≠ some record)) : Keyed state'.stack state' := by
  have htoken : ∀ other, other ≠ record →
      (state'.records other).token = (state.records other).token :=
    fun other hne => congrArg (·.1) (hdata other hne)
  have hclass : ∀ other, other ≠ record →
      (state'.records other).className = (state.records other).className :=
    fun other hne => congrArg (·.2.1) (hdata other hne)
  have hkeys : ∀ other, other ≠ record →
      (state'.records other).keys = (state.records other).keys :=
    fun other hne => congrArg (·.2.2.1) (hdata other hne)
  have hvalues : ∀ other, other ≠ record →
      (state'.records other).values = (state.records other).values :=
    fun other hne => congrArg (·.2.2.2) (hdata other hne)
  refine ⟨?_, ?_, ?_, ?_, ?_, ?_, ?_⟩
  · intro other hother
    by_cases heq : other = record
    · exact heq ▸ hdistinct
    · rw [hkeys other heq]
      exact h.distinct other (hmade other hother heq)
  · intro other hother
    by_cases heq : other = record
    · exact heq ▸ hbounded
    · rw [hkeys other heq]
      exact h.bounded other (hmade other hother heq)
  · intro other hother
    by_cases heq : other = record
    · exact heq ▸ hbare
    · rw [hkeys other heq, hvalues other heq]
      exact h.bare other (hmade other hother heq)
  · intro other hother
    by_cases heq : other = record
    · exact heq ▸ hbuilt
    · intro value hvalue
      rw [hvalues other heq] at hvalue
      rw [hclass other heq, hkeys other heq]
      exact hbuilds _ (h.built other (hmade other hother heq) value hvalue)
  · intro token key other hframe
    rcases hstack _ hframe with hharm | ⟨hold, hsets⟩
    · exact hharm.elim
    · rw [htoken other fun heq => hsets (congrArg some heq)]
      exact h.validating token key other hold
  · intro token key keys other hframe
    rcases hstack _ hframe with hharm | ⟨hold, hsets⟩
    · exact hharm.elim
    · have hne : other ≠ record := fun heq => hsets (congrArg some heq)
      rw [htoken other hne, hkeys other hne]
      exact h.building token key keys other hold
  · intro after hframe
    rcases hstack _ hframe with hharm | ⟨hold, -⟩
    · exact hharm
    · exact h.leaving after hold

theorem pop {frame : Frame} {frames : List Frame} (h : Keyed (frame :: frames) state) :
    Keyed frames state :=
  ⟨h.distinct, h.bounded, h.bare, h.built,
    fun token key record hframe => h.validating token key record (List.mem_cons_of_mem _ hframe),
    fun token key keys record hframe =>
      h.building token key keys record (List.mem_cons_of_mem _ hframe),
    fun after hframe => h.leaving after (List.mem_cons_of_mem _ hframe)⟩

theorem mem_kept_of_sets {frames : List Frame} {frame : Frame} (hframe : frame ∈ frames)
    {record : Nat} (hsets : frame.sets = some record) : record ∈ kept frames := by
  refine List.mem_filterMap.2 ⟨frame, hframe, ?_⟩
  cases frame <;> simp_all [Frame.sets, Frame.keeps, Frame.opens]

theorem mem_refs_of_sets {frame : Frame} {record : Nat} (hsets : frame.sets = some record) :
    record ∈ frame.refs := by
  cases frame <;> simp_all [Frame.sets, Frame.refs, Frame.opens]

theorem effect {frame : Frame} (hscoped : Scoped (frame :: state.stack) state)
    (h : Keyed (frame :: state.stack) state) (heffect : Effect frame state state') :
    Keyed state'.stack state' := by
  cases heffect with
  | plain hplain =>
    refine h.pop.of_data hplain.data hplain.made hplain.builds fun other hother => ?_
    exact (hplain.stack other hother).imp_right Or.inl
  | made className slot hdata hmade hbuilds hstack hanswers =>
    have hnew := hdata state.made
    rw [if_pos rfl] at hnew
    have hkeys : (state'.records state.made).keys = [] := congrArg (·.2.2.1) hnew
    have hvalues : (state'.records state.made).values = none := congrArg (·.2.2.2) hnew
    refine h.pop.of_data_except state.made (fun other hne => ?_) (fun other hother hne => ?_)
      (fun build hbuild => by rwa [hbuilds]) ?_ ?_ (fun _ => hkeys) (fun value hvalue => ?_) ?_
    · rw [hdata, if_neg hne]
    · omega
    · rw [hkeys]
      exact List.Pairwise.nil
    · rw [hkeys]
      exact Nat.zero_le _
    · rw [hvalues] at hvalue
      cases hvalue
    · intro other hother
      rw [hstack] at hother
      rcases List.mem_cons.1 hother with rfl | hmem
      · exact Or.inl trivial
      · refine Or.inr ⟨hmem, fun hsets => ?_⟩
        have hlt := (hscoped.refs other (List.mem_cons_of_mem _ hmem) _
          (mem_refs_of_sets hsets)).1
        exact absurd hlt (lt_irrefl _)
  | built record slot value hframe hdata hmade hbuilds hstack hanswers =>
    obtain ⟨hlt, hnone⟩ := hscoped.building record (by rw [hframe]; exact List.mem_cons_self)
    have hnew := hdata record
    rw [if_pos rfl] at hnew
    have hkeys : (state'.records record).keys = [] :=
      (congrArg (·.2.2.1) hnew).trans (h.bare record hlt hnone)
    have hvalues : (state'.records record).values = some value := congrArg (·.2.2.2) hnew
    have hclass : (state'.records record).className = (state.records record).className :=
      congrArg (·.2.1) hnew
    refine h.pop.of_data_except record (fun other hne => ?_) (fun other hother hne => ?_)
      (fun build hbuild => by rw [hbuilds]; exact List.mem_cons_of_mem _ hbuild) ?_ ?_
      (fun _ => hkeys) (fun other hother => ?_) ?_
    · rw [hdata, if_neg hne]
    · exact hmade ▸ hother
    · rw [hkeys]
      exact List.Pairwise.nil
    · rw [hkeys]
      exact Nat.zero_le _
    · rw [hvalues] at hother
      cases hother
      rw [hclass, hkeys, hbuilds]
      exact List.mem_cons_self
    · intro other hother
      rw [hstack] at hother
      rcases List.mem_cons.1 hother with rfl | hmem
      · exact Or.inl trivial
      · refine Or.inr ⟨hmem, fun hsets => ?_⟩
        have hsome := (hscoped.refs other (List.mem_cons_of_mem _ hmem) _
          (mem_refs_of_sets hsets)).2
        rw [hnone] at hsome
        cases hsome
  | found token key record hdata htoken hmade hbuilds hstack hanswers =>
    refine h.pop.of_data hdata hmade hbuilds fun other hother => ?_
    rw [hstack] at hother
    rcases List.mem_cons.1 hother with rfl | hmem
    · exact Or.inr (Or.inr (Or.inl ⟨token, key, record, rfl, htoken⟩))
    · exact Or.inl hmem
  | copied token key keys record hframe hdata hupsert hmade hbuilds hstack hanswers =>
    have htoken := h.validating token key record (by rw [hframe]; exact List.mem_cons_self)
    refine h.pop.of_data hdata hmade hbuilds fun other hother => ?_
    rw [hstack] at hother
    rcases List.mem_cons.1 hother with rfl | hmem
    · exact Or.inr (Or.inr (Or.inr ⟨token, key, keys, record, rfl, htoken, hupsert⟩))
    · exact Or.inl hmem
  | committed token key keys record value hframe hdata hmade hbuilds hstack hanswers =>
    obtain ⟨-, hupsert⟩ := h.building token key keys record
      (by rw [hframe]; exact List.mem_cons_self)
    have hlt := (hscoped.refs frame List.mem_cons_self record
      (by rw [hframe]; exact List.mem_cons_self)).1
    have hupserted := upserted_of_upsert hupsert
    have hnew := hdata record
    rw [if_pos rfl] at hnew
    have hkeys : (state'.records record).keys = keys := congrArg (·.2.2.1) hnew
    have hvalues : (state'.records record).values = some value := congrArg (·.2.2.2) hnew
    have hclass : (state'.records record).className = (state.records record).className :=
      congrArg (·.2.1) hnew
    refine h.pop.of_data_except record (fun other hne => ?_) (fun other hother hne => ?_)
      (fun build hbuild => by rw [hbuilds]; exact List.mem_cons_of_mem _ hbuild) ?_ ?_
      (fun hnone => ?_) (fun other hother => ?_) ?_
    · rw [hdata, if_neg hne]
    · exact hmade ▸ hother
    · rw [hkeys]
      exact hupserted.distinct (h.distinct record hlt)
    · rw [hkeys]
      exact hupserted.length_le (h.bounded record hlt)
    · rw [hvalues] at hnone
      cases hnone
    · rw [hvalues] at hother
      cases hother
      rw [hclass, hkeys, hbuilds]
      exact List.mem_cons_self
    · -- The record is busy: the frame that is gone was the only one of a `Set` of it.
      intro other hother
      rw [hstack] at hother
      by_cases hsets : other.sets = some record
      · have hnodup := hscoped.nested.nodup_kept
        unfold kept at hnodup
        rw [hframe, List.filterMap_cons] at hnodup
        exact absurd (mem_kept_of_sets hother hsets) (List.nodup_cons.1 hnodup).1
      · exact Or.inr ⟨hother, hsets⟩

end Keyed
/-- A `Set` of the record is under way. -/
def State.setting (state : State) (record : Nat) : Prop :=
  ∃ frame ∈ state.stack, frame.sets = some record

/-- A `Set` has succeeded: its key is in its record, which has the values that were built with it,
and all other records are as they were. -/
structure Committed (state state' : State) (token : Nat) (key : Key) (record : Nat) : Prop where
  made : record < state.made
  named : (state.records record).token = token
  upserted : Upserted (state.records record).keys key (state'.records record).keys
  built : ∃ value, (state'.records record).values = some value ∧
    state'.builds =
      ((state.records record).className, (state'.records record).keys, value) :: state.builds
  others : ∀ other, other ≠ record → (state'.records other).data = (state.records other).data
  alone : ¬state'.setting record
  answered : state'.answers = (.set token key, .ok) :: state.answers

/-- The keys are as they were and so are the values that had been built; no `Set` has succeeded. -/
structure Untouched (state state' : State) : Prop where
  keys : ∀ record < state.made, (state'.records record).keys = (state.records record).keys
  values : ∀ record < state.made, ∀ value, (state.records record).values = some value →
    (state'.records record).values = some value
  answered : state'.answers = state.answers ∨
    ∃ answer, Unset answer ∧ state'.answers = answer :: state.answers

theorem Plain.untouched {state state' : State} (h : Plain state state') :
    Untouched state state' where
  keys record _ := congrArg (·.2.2.1) (h.data record)
  values record _ _ hvalue := (congrArg (·.2.2.2) (h.data record)).trans hvalue
  answered := h.answers

namespace Keyed

variable {state state' : State}

theorem committed_or_untouched {frame : Frame} (hscoped : Scoped (frame :: state.stack) state)
    (h : Keyed (frame :: state.stack) state) (heffect : Effect frame state state') :
    (∃ token key record, Committed state state' token key record) ∨ Untouched state state' := by
  cases heffect with
  | plain hplain => exact Or.inr hplain.untouched
  | made className slot hdata hmade hbuilds hstack hanswers =>
    have hsame : ∀ record < state.made,
        (state'.records record).data = (state.records record).data := by
      intro record hrecord
      rw [hdata, if_neg (Nat.ne_of_lt hrecord)]
    exact Or.inr ⟨fun record hrecord => congrArg (·.2.2.1) (hsame record hrecord),
      fun record hrecord value hvalue => (congrArg (·.2.2.2) (hsame record hrecord)).trans hvalue,
      Or.inl hanswers⟩
  | built record slot value hframe hdata hmade hbuilds hstack hanswers =>
    obtain ⟨-, hnone⟩ := hscoped.building record (by rw [hframe]; exact List.mem_cons_self)
    refine Or.inr ⟨fun other _ => ?_, fun other _ value' hvalue => ?_, Or.inl hanswers⟩
    · by_cases heq : other = record
      · subst heq
        have hnew := hdata other
        rw [if_pos rfl] at hnew
        exact congrArg (·.2.2.1) hnew
      · have hold := hdata other
        rw [if_neg heq] at hold
        exact congrArg (·.2.2.1) hold
    · have hne : other ≠ record := by
        rintro rfl
        rw [hnone] at hvalue
        cases hvalue
      have hold := hdata other
      rw [if_neg hne] at hold
      exact (congrArg (·.2.2.2) hold).trans hvalue
  | found token key record hdata htoken hmade hbuilds hstack hanswers =>
    exact Or.inr ⟨fun other _ => congrArg (·.2.2.1) (hdata other),
      fun other _ value hvalue => (congrArg (·.2.2.2) (hdata other)).trans hvalue,
      Or.inl hanswers⟩
  | copied token key keys record hframe hdata hupsert hmade hbuilds hstack hanswers =>
    exact Or.inr ⟨fun other _ => congrArg (·.2.2.1) (hdata other),
      fun other _ value hvalue => (congrArg (·.2.2.2) (hdata other)).trans hvalue,
      Or.inl hanswers⟩
  | committed token key keys record value hframe hdata hmade hbuilds hstack hanswers =>
    obtain ⟨htoken, hupsert⟩ := h.building token key keys record
      (by rw [hframe]; exact List.mem_cons_self)
    have hlt := (hscoped.refs frame List.mem_cons_self record
      (by rw [hframe]; exact List.mem_cons_self)).1
    have hnew := hdata record
    rw [if_pos rfl] at hnew
    have hkeys : (state'.records record).keys = keys := congrArg (·.2.2.1) hnew
    refine Or.inl ⟨token, key, record, hlt, htoken, ?_, ⟨value, congrArg (·.2.2.2) hnew, ?_⟩,
      fun other hne => ?_, ?_, hanswers⟩
    · rw [hkeys]
      exact upserted_of_upsert hupsert
    · rw [hkeys, hbuilds]
    · rw [hdata, if_neg hne]
    · rintro ⟨other, hother, hsets⟩
      rw [hstack] at hother
      have hnodup := hscoped.nested.nodup_kept
      unfold kept at hnodup
      rw [hframe, List.filterMap_cons] at hnodup
      exact absurd (mem_kept_of_sets hother hsets) (List.nodup_cons.1 hnodup).1

theorem step (hscoped : Scoped state.stack state) (h : Keyed state.stack state) (input : Input) :
    Keyed (state.step input).stack (state.step input) ∧
    ((∃ token key record, Committed state (state.step input) token key record) ∨
      Untouched state (state.step input)) := by
  have hplain : ∀ state', Plain state state' → Keyed state'.stack state' ∧
      ((∃ token key record, Committed state state' token key record) ∨
        Untouched state state') := by
    intro state' hplain
    refine ⟨?_, Or.inr hplain.untouched⟩
    exact h.of_data hplain.data hplain.made hplain.builds fun other hother =>
      (hplain.stack other hother).imp_right Or.inl
  have hready := fun call => hplain _ (@Plain.push state (.ready call) trivial)
  unfold State.step
  cases input with
  | create className =>
    dsimp only
    split
    · exact hplain _ (Plain.refl state)
    · exact hready _
  | set token input =>
    dsimp only
    split
    · exact hplain _ (Plain.refl state)
    · exact hready _
  | teleport token valid =>
    dsimp only
    split
    · exact hready _
    · exact hplain _ (Plain.refl state)
  | visit token valid =>
    dsimp only
    split
    · exact hready _
    · exact hplain _ (Plain.refl state)
  | describe token => exact hready _
  | spawn token => exact hready _
  | cancel token => exact hready _
  | reset =>
    have hreset : Silent state
        { state with
          resetting := state.resetting + 1
          slots := List.replicate capacity none
          records := fun other =>
            if other ∈ state.slots.filterMap id then { state.records other with closed := true }
            else state.records other } := by
      refine ⟨fun other => ?_, rfl, rfl, rfl, rfl⟩
      dsimp only
      split <;> rfl
    exact hplain _ (hreset.plain (Plain.resetNext _ _))
  | back outcome =>
    dsimp only
    split
    · exact hplain _ (Plain.refl state)
    · next frame below hstack =>
      rw [hstack] at hscoped h
      have hscoped' : Scoped (frame :: below) { state with stack := below } :=
        hscoped.of_same (fun _ => rfl) (fun _ => rfl) rfl rfl rfl fun _ h => h
      have hkeyed : Keyed (frame :: below) { state with stack := below } :=
        ⟨h.distinct, h.bounded, h.bare, h.built, h.validating, h.building, h.leaving⟩
      have heffect := @Effect.back { state with stack := below } frame
        (fun after heq => h.leaving after (heq ▸ List.mem_cons_self)) outcome
      refine ⟨effect hscoped' hkeyed heffect, ?_⟩
      rcases committed_or_untouched hscoped' hkeyed heffect with
        ⟨token, key, record, hcommitted⟩ | huntouched
      · exact Or.inl ⟨token, key, record, hcommitted.made, hcommitted.named, hcommitted.upserted,
          hcommitted.built, hcommitted.others, hcommitted.alone, hcommitted.answered⟩
      · exact Or.inr ⟨huntouched.keys, huntouched.values, huntouched.answered⟩

theorem run (inputs : List Input) : Keyed (Lib.run State.step State.initial inputs).stack
    (Lib.run State.step State.initial inputs) :=
  (@Lib.run_invariant _ _ State.step
    (fun state => Scoped state.stack state ∧ Keyed state.stack state)
    (fun _ input h => ⟨h.1.step input, (step h.1 h.2 input).1⟩) State.initial
    ⟨Scoped.initial, initial⟩ inputs).2

end Keyed

theorem data_of_setting {state : State} (hscoped : Scoped state.stack state)
    (h : Keyed state.stack state) (record : Nat) (inputs : List Input)
    (hsetting : ∀ n ≤ inputs.length, (Lib.run State.step state (inputs.take n)).setting record) :
    ((Lib.run State.step state inputs).records record).keys = (state.records record).keys ∧
      ((Lib.run State.step state inputs).records record).values =
        (state.records record).values := by
  induction inputs generalizing state with
  | nil => exact ⟨rfl, rfl⟩
  | cons input inputs ih =>
    obtain ⟨frame, hframe, hsets⟩ := hsetting 0 (Nat.zero_le _)
    obtain ⟨hlt, hsome⟩ := hscoped.refs frame hframe record (Keyed.mem_refs_of_sets hsets)
    obtain ⟨value, hvalue⟩ := Option.isSome_iff_exists.1 hsome
    obtain ⟨hkeyed, hwhat⟩ := h.step hscoped input
    have hrest := ih (hscoped.step input) hkeyed fun n hn =>
      hsetting (n + 1) (Nat.succ_le_succ hn)
    have hnext : (state.step input).setting record :=
      hsetting 1 (Nat.succ_le_succ (Nat.zero_le _))
    rw [Lib.run_cons, hrest.1, hrest.2]
    rcases hwhat with ⟨token, key, other, hcommitted⟩ | huntouched
    · have hne : record ≠ other := fun heq => hcommitted.alone (heq ▸ hnext)
      have hsame := hcommitted.others record hne
      exact ⟨congrArg (·.2.2.1) hsame, congrArg (·.2.2.2) hsame⟩
    · exact ⟨huntouched.keys record hlt, (huntouched.values record hlt value hvalue).trans
        hvalue.symm⟩

/-- In every run: the keys of a record are different and not too many, and its values have been
built from them. A step either is the success of a `Set`, with nothing but its key in the place of
the one of its name or at the end, or leaves keys and values; and while a `Set` is under way its
record stays as it is, so that a `Set` that fails has changed nothing. -/
theorem set_upserts (inputs : List Input) :
    let state := Lib.run State.step State.initial inputs
    (∀ record < state.made, Distinct (state.records record).keys ∧
      (state.records record).keys.length ≤ keyMaxCount ∧
      ∀ value, (state.records record).values = some value →
        ((state.records record).className, (state.records record).keys, value) ∈ state.builds) ∧
    (∀ record, some record ∈ state.slots →
      record < state.made ∧ (state.records record).values.isSome = true) ∧
    (∀ input, (∃ token key record, Committed state (state.step input) token key record) ∨
      Untouched state (state.step input)) ∧
    ∀ record inputs',
      (∀ n ≤ inputs'.length, (Lib.run State.step state (inputs'.take n)).setting record) →
      ((Lib.run State.step state inputs').records record).keys = (state.records record).keys ∧
        ((Lib.run State.step state inputs').records record).values =
          (state.records record).values := by
  intro state
  have hscoped := Scoped.run inputs
  have hkeyed := Keyed.run inputs
  refine ⟨fun record hrecord => ⟨hkeyed.distinct record hrecord, hkeyed.bounded record hrecord,
    hkeyed.built record hrecord⟩, hscoped.slots, fun input => (hkeyed.step hscoped input).2, ?_⟩
  exact data_of_setting hscoped hkeyed

end KeelS2.Cs2.Construction
