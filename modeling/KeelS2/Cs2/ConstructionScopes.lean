import KeelS2.Cs2.OwnedConstruction

/-!
# The scopes of owned constructions

What the frames of a stack say about the object: how deep it is, which records are busy and how
many resets are under way. All three are functions of the stack, so that they are back at their
value when a call is.
-/

namespace KeelS2.Cs2.Construction

open List (countP_cons filterMap_cons mem_cons mem_cons_of_mem mem_cons_self mem_singleton nodup_cons)

/-! ## Frames -/

namespace After

def isReset : After → Bool
  | answer _ _ => false
  | reset _ => true

/-- The records of a reset that are still to be gone through. -/
def rest : After → List Nat
  | answer _ _ => []
  | reset rest => rest

end After

namespace Frame

/-- The `Operation` of a frame: its record and its `was_busy`. -/
def opens : Frame → Option (Nat × Bool)
  | createCreate record | createValidate record | setValidate _ _ record | setBuild _ _ _ record
  | teleportValidate _ record | teleport _ record | spawnValidate _ record | spawn _ record
  | cancelFinish _ record | resetFinish record _ => some (record, false)
  | visitValidate _ record wasBusy | visit _ record wasBusy => some (record, wasBusy)
  | _ => none

/-- The record that a frame keeps busy: its `Operation` has not found it so. -/
def keeps (frame : Frame) : Option Nat :=
  match frame.opens with
  | some (record, false) => some record
  | _ => none

/-- It is counted in `depth_`. -/
def nested : Frame → Bool
  | leave _ => true
  | frame => frame.opens.isSome

/-- It is counted in `resetting_`. -/
def resets : Frame → Bool
  | resetFinish _ _ => true
  | leave after => after.isReset
  | _ => false

/-- The records that it may yet touch. -/
def refs : Frame → List Nat
  | describeValidate _ record => [record]
  | resetFinish record rest => record :: rest
  | leave after => after.rest
  | frame => (frame.opens.map Prod.fst).toList

/-- The record that is being built for the first time. -/
def building : Frame → Option Nat
  | createBuild record _ => some record
  | _ => none

end Frame

/-- The records that are kept busy. -/
def kept (frames : List Frame) : List Nat := frames.filterMap Frame.keeps

/-- An `Operation` has found its record busy iff another one below it keeps it so. -/
def Nested : List Frame → Prop
  | [] => True
  | frame :: below =>
    (∀ record wasBusy, frame.opens = some (record, wasBusy) →
      wasBusy = decide (record ∈ kept below)) ∧ Nested below

/-- The object is as a stack says. -/
structure Scoped (frames : List Frame) (state : State) : Prop where
  busy : ∀ record, (state.records record).busy = decide (record ∈ kept frames)
  nested : Nested frames
  depth : state.depth = frames.countP Frame.nested
  resetting : state.resetting = frames.countP Frame.resets
  slots : ∀ record, some record ∈ state.slots →
    record < state.made ∧ (state.records record).values.isSome = true
  refs : ∀ frame ∈ frames, ∀ record ∈ frame.refs,
    record < state.made ∧ (state.records record).values.isSome = true
  building : ∀ record ∈ frames.filterMap Frame.building,
    record < state.made ∧ (state.records record).values = none
  once : (frames.filterMap Frame.building).Nodup

theorem mem_kept_cons {frame : Frame} {below : List Frame} {record : Nat} :
    record ∈ kept (frame :: below) ↔ frame.opens = some (record, false) ∨ record ∈ kept below := by
  unfold kept
  rw [filterMap_cons]
  unfold Frame.keeps
  rcases frame.opens with _ | ⟨other, _ | _⟩
  · simp
  · simp only [mem_cons, Option.some.injEq, Prod.mk.injEq, and_true]
    exact or_congr_left eq_comm
  · simp

theorem Nested.nodup_kept {frames : List Frame} (h : Nested frames) : (kept frames).Nodup := by
  induction frames with
  | nil => exact List.nodup_nil
  | cons frame below ih =>
    have htail := ih h.2
    unfold kept at htail ⊢
    rw [filterMap_cons]
    cases hkeeps : frame.keeps with
    | none => exact htail
    | some record =>
      refine List.nodup_cons.2 ⟨?_, htail⟩
      unfold Frame.keeps at hkeeps
      split at hkeeps
      · next other hopens =>
        cases hkeeps
        exact of_decide_eq_false (h.1 record false hopens).symm
      · cases hkeeps

namespace Scoped

variable {frames : List Frame} {state : State}

theorem initial : Scoped [] State.initial where
  busy _ := rfl
  nested := trivial
  depth := rfl
  resetting := rfl
  slots record hrecord := by
    have := List.eq_of_mem_replicate hrecord
    cases this
  refs _ hframe := by cases hframe
  building _ hrecord := by cases hrecord
  once := List.nodup_nil

section

variable (h : Scoped frames state)

include h

theorem of_same {state' : State}
    (hbusy : ∀ record, (state'.records record).busy = (state.records record).busy)
    (hvalues : ∀ record, (state'.records record).values.isSome = (state.records
      record).values.isSome)
    (hmade : state'.made = state.made) (hdepth : state'.depth = state.depth)
    (hresetting : state'.resetting = state.resetting)
    (hslots : ∀ record, some record ∈ state'.slots → some record ∈ state.slots) :
    Scoped frames state' where
  busy record := (hbusy record).trans (h.busy record)
  nested := h.nested
  depth := hdepth.trans h.depth
  resetting := hresetting.trans h.resetting
  slots record hrecord := by
    rw [hmade, hvalues]
    exact h.slots record (hslots record hrecord)
  refs frame hframe record hrecord := by
    rw [hmade, hvalues]
    exact h.refs frame hframe record hrecord
  building record hrecord := by
    obtain ⟨hlt, hnone⟩ := h.building record hrecord
    refine ⟨hmade ▸ hlt, Option.isSome_eq_false_iff.1 ?_ |> Option.isNone_iff_eq_none.1⟩
    rw [hvalues, hnone]
    rfl
  once := h.once

theorem answer (call : Call) (result : KeelResult) : Scoped frames (state.answer call result) :=
  h.of_same (fun _ => rfl) (fun _ => rfl) rfl rfl rfl fun _ h => h

theorem edit (record : Nat) (change : Record → Record)
    (hbusy : (change (state.records record)).busy = (state.records record).busy)
    (hvalues : (change (state.records record)).values.isSome = (state.records record).values.isSome) :
    Scoped frames (state.edit record change) := by
  refine h.of_same (fun other => ?_) (fun other => ?_) rfl rfl rfl fun _ h => h
  · simp only [State.edit]
    split
    · next heq => exact heq ▸ hbusy
    · rfl
  · simp only [State.edit]
    split
    · next heq => exact heq ▸ hvalues
    · rfl

theorem detach (record : Nat) : Scoped frames (state.detach record) := by
  have hclosed := h.edit record (fun record => { record with closed := true }) rfl rfl
  refine hclosed.of_same (fun _ => rfl) (fun _ => rfl) rfl rfl rfl fun other hother => ?_
  rcases List.mem_or_eq_of_mem_set hother with hmem | heq
  · exact hmem
  · cases heq

theorem consume (record : Nat) : Scoped frames (state.consume record) := by
  have hconsumed := h.edit record (fun record => { record with consumed := true }) rfl rfl
  exact hconsumed.of_same (fun _ => rfl) (fun _ => rfl) rfl rfl rfl fun _ h => h

/-- The stack itself is not looked at. -/
theorem pushed (frame : Frame) : Scoped frames (state.push frame) :=
  h.of_same (fun _ => rfl) (fun _ => rfl) rfl rfl rfl fun _ h => h

end

/-- Frames that the markers do not tell apart. -/
theorem swap {frame : Frame} (h : Scoped (frame :: frames) state) (frame' : Frame)
    (hopens : frame'.opens = frame.opens) (hnested : frame'.nested = frame.nested)
    (hresets : frame'.resets = frame.resets) (hbuilding : frame'.building = frame.building)
    (hrefs : ∀ record ∈ frame'.refs, record ∈ frame.refs) :
    Scoped (frame' :: frames) state where
  busy record := by
    rw [h.busy]
    simp [mem_kept_cons, hopens]
  nested := ⟨fun record wasBusy hwas => h.nested.1 record wasBusy (hopens ▸ hwas), h.nested.2⟩
  depth := by
    rw [h.depth, countP_cons, countP_cons, hnested]
  resetting := by
    rw [h.resetting, countP_cons, countP_cons, hresets]
  slots := h.slots
  refs other hother record hrecord := by
    rcases List.mem_cons.1 hother with rfl | hmem
    · exact h.refs frame mem_cons_self record (hrefs record hrecord)
    · exact h.refs other (mem_cons_of_mem _ hmem) record hrecord
  building record hrecord := by
    refine h.building record ?_
    rwa [filterMap_cons, hbuilding, ← filterMap_cons] at hrecord
  once := by
    have honce := h.once
    rwa [filterMap_cons, ← hbuilding, ← filterMap_cons] at honce

theorem push (h : Scoped frames state) (frame : Frame) (hopens : frame.opens = none)
    (hnested : frame.nested = false) (hresets : frame.resets = false)
    (hbuilding : frame.building = none)
    (hrefs : ∀ record ∈ frame.refs,
      record < state.made ∧ (state.records record).values.isSome = true) :
    Scoped (frame :: frames) state where
  busy record := by
    rw [h.busy]
    simp [mem_kept_cons, hopens]
  nested := by
    refine ⟨fun record wasBusy hwas => ?_, h.nested⟩
    rw [hopens] at hwas
    cases hwas
  depth := by rw [h.depth, countP_cons, hnested]; rfl
  resetting := by rw [h.resetting, countP_cons, hresets]; rfl
  slots := h.slots
  refs other hother record hrecord := by
    rcases List.mem_cons.1 hother with rfl | hmem
    · exact hrefs record hrecord
    · exact h.refs other hmem record hrecord
  building record hrecord := by
    rw [filterMap_cons, hbuilding] at hrecord
    exact h.building record hrecord
  once := by
    rw [filterMap_cons, hbuilding]
    exact h.once

variable {record : Nat} {frame : Frame} {after : After}

theorem pop (h : Scoped (frame :: frames) state) (hopens : frame.opens = none)
    (hnested : frame.nested = false) (hresets : frame.resets = false) : Scoped frames state where
  busy record := by
    rw [h.busy]
    simp [mem_kept_cons, hopens]
  nested := h.nested.2
  depth := by rw [h.depth, countP_cons, hnested]; rfl
  resetting := by rw [h.resetting, countP_cons, hresets]; rfl
  slots := h.slots
  refs other hother := h.refs other (mem_cons_of_mem _ hother)
  building record hrecord := h.building record (by
    rw [filterMap_cons]
    split
    · exact hrecord
    · exact mem_cons_of_mem _ hrecord)
  once := by
    have honce := h.once
    rw [filterMap_cons] at honce
    split at honce
    · exact honce
    · exact (List.nodup_cons.1 honce).2

theorem enter (h : Scoped frames state) (frame : Frame)
    (hbuilt : record < state.made ∧ (state.records record).values.isSome = true)
    (hopens : frame.opens = some (record, (state.records record).busy))
    (hnested : frame.nested = true) (hresets : frame.resets = false)
    (hbuilding : frame.building = none) (hrefs : ∀ other ∈ frame.refs, other = record) :
    Scoped (frame :: frames) (state.enter record) where
  busy other := by
    simp only [State.enter, State.edit, mem_kept_cons, hopens, Option.some.injEq, Prod.mk.injEq]
    split
    · next heq =>
      subst heq
      have hbusy := h.busy other
      cases hwas : (state.records other).busy with
      | false => simp
      | true =>
        rw [hwas] at hbusy
        simp [of_decide_eq_true hbusy.symm]
    · next hne =>
      rw [h.busy]
      simp [Ne.symm hne]
  nested := by
    refine ⟨fun other wasBusy hwas => ?_, h.nested⟩
    rw [hopens] at hwas
    cases hwas
    exact h.busy record
  depth := by
    simp only [State.enter, State.edit, countP_cons, hnested, if_true]
    rw [h.depth]
  resetting := by
    simp only [State.enter, State.edit, countP_cons, hresets]
    exact h.resetting
  slots other hother := by
    have hslot := h.slots other hother
    simp only [State.enter, State.edit]
    refine ⟨hslot.1, ?_⟩
    split <;> exact hslot.2
  refs other hother place hplace := by
    have hbuilt' : place < state.made ∧ (state.records place).values.isSome = true := by
      rcases List.mem_cons.1 hother with rfl | hmem
      · rw [hrefs place hplace]
        exact hbuilt
      · exact h.refs other hmem place hplace
    simp only [State.enter, State.edit]
    refine ⟨hbuilt'.1, ?_⟩
    split <;> exact hbuilt'.2
  building other hother := by
    rw [filterMap_cons, hbuilding] at hother
    have hbuilding' := h.building other hother
    simp only [State.enter, State.edit]
    refine ⟨hbuilding'.1, ?_⟩
    split <;> exact hbuilding'.2
  once := by
    rw [filterMap_cons, hbuilding]
    exact h.once

/-- The destructor up to `Finish`: behind it the frame only counts the depth. -/
theorem close (h : Scoped (frame :: frames) state) {wasBusy : Bool}
    (hopens : frame.opens = some (record, wasBusy)) (hresets : frame.resets = after.isReset)
    (hrest : ∀ other ∈ after.rest, other ∈ frame.refs) (hbuilding : frame.building = none)
    (hnested : frame.nested = true) :
    Scoped (.leave after :: frames)
      (state.edit record fun record => { record with busy := wasBusy }) where
  busy other := by
    have hwas := h.nested.1 record wasBusy hopens
    have hbusy := h.busy other
    have hleave : Frame.opens (.leave after) = none := rfl
    simp only [State.edit, mem_kept_cons, hleave, reduceCtorEq, false_or]
    split
    · next heq =>
      subst heq
      exact hwas
    · next hne =>
      rw [hbusy]
      simp [mem_kept_cons, hopens, Ne.symm hne]
  nested := by
    refine ⟨fun other wasBusy hwas => ?_, h.nested.2⟩
    cases hwas
  depth := by
    have hdepth := h.depth
    rw [countP_cons, hnested] at hdepth
    rw [countP_cons]
    exact hdepth
  resetting := by
    have hresetting := h.resetting
    rw [countP_cons, hresets] at hresetting
    rw [countP_cons]
    exact hresetting
  slots other hother := by
    have hslot := h.slots other hother
    simp only [State.edit]
    refine ⟨hslot.1, ?_⟩
    split <;> exact hslot.2
  refs other hother place hplace := by
    have hbuilt : place < state.made ∧ (state.records place).values.isSome = true := by
      rcases List.mem_cons.1 hother with rfl | hmem
      · exact h.refs frame mem_cons_self place (hrest place hplace)
      · exact h.refs other (mem_cons_of_mem _ hmem) place hplace
    simp only [State.edit]
    refine ⟨hbuilt.1, ?_⟩
    split <;> exact hbuilt.2
  building other hother := by
    have hbuilding' := h.building other (by
      rw [filterMap_cons, hbuilding]
      exact hother)
    simp only [State.edit]
    refine ⟨hbuilding'.1, ?_⟩
    split <;> exact hbuilding'.2
  once := by
    have honce := h.once
    rw [filterMap_cons, hbuilding] at honce
    exact honce

/-- A frame that only counts the depth is gone. -/
theorem left {call : Call} {result : KeelResult}
    (h : Scoped (.leave (.answer call result) :: frames) state) :
    Scoped frames { state with depth := state.depth - 1 } where
  busy record := by
    have hbusy := h.busy record
    rw [hbusy]
    simp [mem_kept_cons, Frame.opens]
  nested := h.nested.2
  depth := by
    have hdepth := h.depth
    rw [countP_cons, if_pos (by rfl)] at hdepth
    simp [hdepth]
  resetting := by
    have hresetting := h.resetting
    rw [countP_cons, if_neg (by simp [Frame.resets, After.isReset])] at hresetting
    exact hresetting
  slots := h.slots
  refs other hother := h.refs other (mem_cons_of_mem _ hother)
  building := h.building
  once := h.once

/-- A reset that has not ended is counted above the frames. -/
structure Resetting (frames : List Frame) (state : State) : Prop where
  below : Scoped frames { state with resetting := state.resetting - 1 }
  counted : 1 ≤ state.resetting

theorem leftReset {rest : List Nat} (h : Scoped (.leave (.reset rest) :: frames) state) :
    Resetting frames { state with depth := state.depth - 1 } := by
  have hresetting := h.resetting
  rw [countP_cons, if_pos (by rfl)] at hresetting
  refine ⟨⟨?_, h.nested.2, ?_, ?_, h.slots, ?_, h.building, h.once⟩, ?_⟩
  · intro record
    have hbusy := h.busy record
    dsimp only
    rw [hbusy]
    simp [mem_kept_cons, Frame.opens]
  · have hdepth := h.depth
    rw [countP_cons, if_pos (by rfl)] at hdepth
    simp [hdepth]
  · simp [hresetting]
  · exact fun other hother => h.refs other (mem_cons_of_mem _ hother)
  · simp only [hresetting]
    omega

/-- The loop of `Reset`, by induction on what is left. -/
theorem resetNext {rest : List Nat} {state : State} (h : Resetting state.stack state)
    (hrest : ∀ record ∈ rest,
      record < state.made ∧ (state.records record).values.isSome = true) :
    Scoped (state.resetNext rest).stack (state.resetNext rest) := by
  induction rest with
  | nil => exact h.below.answer .reset .ok
  | cons record rest ih =>
    obtain ⟨hrecord, htail⟩ := List.forall_mem_cons.1 hrest
    unfold State.resetNext
    split
    · exact ih htail
    · next hturn =>
      simp only [Bool.or_eq_true, Bool.not_eq_true', not_or, Bool.not_eq_true] at hturn
      have hentered := h.below.enter (.cancelFinish 0 record) hrecord
        (by simp [Frame.opens, hturn.1]) rfl rfl rfl
        (fun other hother => List.mem_singleton.1 hother)
      have hconsumed := hentered.consume record
      refine ⟨hconsumed.busy, hconsumed.nested, hconsumed.depth, ?_, hconsumed.slots, ?_,
        hconsumed.building, hconsumed.once⟩
      · have hresetting := hconsumed.resetting
        have hcounted := h.counted
        rw [countP_cons, if_neg (by simp [Frame.resets])] at hresetting
        change state.resetting = List.countP Frame.resets (.resetFinish record rest :: state.stack)
        rw [countP_cons, if_pos (by rfl)]
        have hless : state.resetting - 1 = List.countP Frame.resets state.stack := hresetting
        omega
      · intro other hother place hplace
        rcases List.mem_cons.1 hother with rfl | hmem
        · have hbuilt : place < state.made ∧ (state.records place).values.isSome = true :=
            hrest place hplace
          refine ⟨hbuilt.1, ?_⟩
          simp only [State.push, State.consume, State.enter, State.edit]
          split <;> exact hbuilt.2
        · exact hconsumed.refs other (mem_cons_of_mem _ hmem) place hplace

theorem resume {state : State} (h : Scoped (.leave after :: state.stack) state) :
    Scoped (state.resume after).stack (state.resume after) := by
  unfold State.resume
  cases after with
  | answer call result => exact h.left.answer call result
  | reset rest =>
    exact resetNext (leftReset h) fun record hrecord => h.refs _ mem_cons_self record hrecord

theorem endOperation {state : State} (h : Scoped (frame :: state.stack) state) {wasBusy : Bool}
    (hopens : frame.opens = some (record, wasBusy)) (hresets : frame.resets = after.isReset)
    (hrest : ∀ other ∈ after.rest, other ∈ frame.refs) (hbuilding : frame.building = none)
    (hnested : frame.nested = true) :
    Scoped (state.endOperation record wasBusy after).stack
      (state.endOperation record wasBusy after) := by
  have hclosed := h.close hopens hresets hrest hbuilding hnested
  unfold State.endOperation
  dsimp only
  split
  · exact (hclosed.consume record).pushed (.leave after)
  · exact resume hclosed

/-! ## Steps -/

theorem mem_of_find {state : State} {token : Nat} (h : state.find token = some record) :
    some record ∈ state.slots ∧ (state.records record).closed = false ∧
      (state.records record).token = token := by
  unfold State.find at h
  split at h
  · cases h
  · have hmem := List.mem_of_find?_eq_some h
    have hcheck := List.find?_some h
    simp only [Bool.and_eq_true, Bool.not_eq_true', decide_eq_true_eq] at hcheck
    obtain ⟨slot, hslot, hid⟩ := List.mem_filterMap.1 hmem
    cases hid
    exact ⟨hslot, hcheck⟩

theorem of_begin {state : State} {token : Nat} (h : state.begin_ token = .ok record) :
    some record ∈ state.slots ∧ (state.records record).closed = false ∧
      (state.records record).token = token ∧ (state.records record).busy = false ∧
      state.resetting = 0 ∧ state.depth < maxDepth := by
  unfold State.begin_ at h
  split at h
  · cases h
  · next found hfound =>
    split at h
    · cases h
    · next hfree =>
      cases h
      obtain ⟨hslot, hclosed, htoken⟩ := mem_of_find hfound
      simp only [not_or, not_not, Bool.not_eq_true, Nat.not_le] at hfree
      exact ⟨hslot, hclosed, htoken, hfree.2.1, hfree.1, hfree.2.2⟩

theorem build {state : State} (h : Scoped state.stack state) (token : Nat) (className : Text)
    (slot : Nat) (next : Nat) : Scoped (.createBuild state.made slot :: state.stack)
      { state with
        records := fun other =>
          if other = state.made then Record.new token className else state.records other
        made := state.made + 1
        nextToken := next } where
  busy record := by
    have hbusy := h.busy record
    dsimp only
    split
    · next heq =>
      -- No frame has a record that is still to be made.
      subst heq
      have hnone : state.made ∉ kept state.stack := by
        intro hmem
        obtain ⟨frame, hframe, hkeeps⟩ := List.mem_filterMap.1 hmem
        have hrefs : state.made ∈ frame.refs := by
          unfold Frame.keeps at hkeeps
          split at hkeeps
          · next other hopens =>
            cases hkeeps
            cases frame <;> simp_all [Frame.opens, Frame.refs]
          · cases hkeeps
        exact absurd (h.refs frame hframe _ hrefs).1 (lt_irrefl _)
      simp [mem_kept_cons, Frame.opens, hnone, Record.new]
    · rw [hbusy]
      simp [mem_kept_cons, Frame.opens]
  nested := ⟨(fun _ _ hwas => by cases hwas), h.nested⟩
  depth := h.depth
  resetting := h.resetting
  slots record hrecord := by
    have hslot := h.slots record hrecord
    dsimp only
    rw [if_neg (Nat.ne_of_lt hslot.1)]
    exact ⟨Nat.lt_succ_of_lt hslot.1, hslot.2⟩
  refs frame hframe record hrecord := by
    rcases List.mem_cons.1 hframe with rfl | hmem
    · cases hrecord
    · have hbuilt := h.refs frame hmem record hrecord
      dsimp only
      rw [if_neg (Nat.ne_of_lt hbuilt.1)]
      exact ⟨Nat.lt_succ_of_lt hbuilt.1, hbuilt.2⟩
  building record hrecord := by
    dsimp only
    rcases List.mem_cons.1 hrecord with rfl | hmem
    · rw [if_pos rfl]
      exact ⟨Nat.lt_succ_self _, rfl⟩
    · have hbuilding := h.building record hmem
      rw [if_neg (Nat.ne_of_lt hbuilding.1)]
      exact ⟨Nat.lt_succ_of_lt hbuilding.1, hbuilding.2⟩
  once := by
    refine List.nodup_cons.2 ⟨fun hmem => ?_, h.once⟩
    exact absurd (h.building _ hmem).1 (lt_irrefl _)

theorem start {state : State} (h : Scoped state.stack state) (call : Call) :
    Scoped (state.start call).stack (state.start call) := by
  unfold State.start
  cases call with
  | create className =>
    dsimp only
    split
    · exact h.answer _ _
    · split
      · exact h.answer _ _
      · next slot _ => exact (h.build state.nextToken className slot (state.nextToken + 1)).pushed _
  | describe token =>
    dsimp only
    split
    · exact h.answer _ _
    · next record hrecord =>
      split
      · exact h.answer _ _
      · refine (h.push (.describeValidate token record) rfl rfl rfl rfl ?_).pushed _
        intro other hother
        cases List.mem_singleton.1 hother
        exact h.slots record (mem_of_find hrecord).1
  | set token key =>
    dsimp only
    split
    · exact h.answer _ _
    · next record hrecord =>
      obtain ⟨hslot, -, -, hbusy, -⟩ := of_begin hrecord
      exact (h.enter (.setValidate token key record) (h.slots record hslot)
        (by rw [hbusy]; rfl) rfl rfl rfl (fun _ => List.mem_singleton.1)).pushed _
  | teleport token =>
    dsimp only
    split
    · exact h.answer _ _
    · next record hrecord =>
      obtain ⟨hslot, -, -, hbusy, -⟩ := of_begin hrecord
      exact (h.enter (.teleportValidate token record) (h.slots record hslot)
        (by rw [hbusy]; rfl) rfl rfl rfl (fun _ => List.mem_singleton.1)).pushed _
  | spawn token =>
    dsimp only
    split
    · exact h.answer _ _
    · next record hrecord =>
      obtain ⟨hslot, -, -, hbusy, -⟩ := of_begin hrecord
      exact (h.enter (.spawnValidate token record) (h.slots record hslot)
        (by rw [hbusy]; rfl) rfl rfl rfl (fun _ => List.mem_singleton.1)).pushed _
  | cancel token =>
    dsimp only
    split
    · exact h.answer _ _
    · next record hrecord =>
      have hbuilt := h.slots record (mem_of_find hrecord).1
      have hdetached := h.detach record
      have hbuilt' : record < (state.detach record).made ∧
          ((state.detach record).records record).values.isSome = true := by
        simp only [State.detach, State.edit, if_true]
        exact hbuilt
      split
      · exact hdetached.answer _ _
      · next hfree =>
        have hentered := hdetached.enter (.cancelFinish token record) hbuilt'
          (by rw [Bool.eq_false_iff.2 hfree]; rfl) rfl rfl rfl (fun _ => List.mem_singleton.1)
        split
        · exact (hentered.consume record).pushed _
        · exact endOperation hentered rfl rfl (fun _ hother => by cases hother) rfl rfl
  | visit token =>
    dsimp only
    split
    · exact h.answer _ _
    · next record hrecord =>
      split
      · exact h.answer _ _
      · split
        · exact h.answer _ _
        · exact (h.enter (.visitValidate token record (state.records record).busy)
            (h.slots record (mem_of_find hrecord).1) rfl rfl rfl rfl
            (fun _ => List.mem_singleton.1)).pushed _
  | reset => exact h

/-- A record that has been built for the first time is put into its slot. -/
theorem place {slot : Nat} (h : Scoped (.createBuild record slot :: frames) state) (value : Nat)
    (builds : List (Text × List Key × Nat)) :
    (state.records record).busy = false ∧ record < state.made ∧
    Scoped frames
      { (state.edit record fun record => { record with values := some value }) with
        builds := builds
        slots := state.slots.set slot (some record) } := by
  obtain ⟨hlt, hnone⟩ := h.building record mem_cons_self
  obtain ⟨hfresh, honce⟩ := List.nodup_cons.1 h.once
  have hrefs : ∀ frame ∈ frames, ∀ other ∈ frame.refs, other ≠ record := by
    rintro frame hframe other hother rfl
    have hbuilt := (h.refs frame (mem_cons_of_mem _ hframe) other hother).2
    rw [hnone] at hbuilt
    cases hbuilt
  have hkept : record ∉ kept frames := by
    intro hmem
    obtain ⟨frame, hframe, hkeeps⟩ := List.mem_filterMap.1 hmem
    refine hrefs frame hframe record ?_ rfl
    unfold Frame.keeps at hkeeps
    split at hkeeps
    · next other hopens =>
      cases hkeeps
      cases frame <;> simp_all [Frame.opens, Frame.refs]
    · cases hkeeps
  have hbusy : ∀ other, (state.records other).busy = decide (other ∈ kept frames) := by
    intro other
    rw [h.busy]
    simp [mem_kept_cons, Frame.opens]
  refine ⟨?_, hlt, ?_, h.nested.2, h.depth, h.resetting, ?_, ?_, ?_, honce⟩
  · rw [hbusy]
    exact decide_eq_false hkept
  · intro other
    simp only [State.edit]
    split <;> exact hbusy other
  · intro other hother
    simp only [State.edit]
    rcases List.mem_or_eq_of_mem_set hother with hmem | heq
    · have hslot := h.slots other hmem
      refine ⟨hslot.1, ?_⟩
      split
      · rfl
      · exact hslot.2
    · cases heq
      exact ⟨hlt, by simp⟩
  · intro frame hframe other hother
    have hbuilt := h.refs frame (mem_cons_of_mem _ hframe) other hother
    simp only [State.edit]
    rw [if_neg (hrefs frame hframe other hother)]
    exact hbuilt
  · intro other hother
    have hbuilding := h.building other (mem_cons_of_mem _ hother)
    have hne : other ≠ record := fun heq => hfresh (heq ▸ hother)
    simp only [State.edit]
    rw [if_neg hne]
    exact hbuilding

/-- The end of an operation that has found its record not busy. -/
theorem endFree {state : State} (h : Scoped (frame :: state.stack) state)
    (hopens : frame.opens = some (record, false)) {call : Call} {result : KeelResult}
    (hresets : frame.resets = false) (hbuilding : frame.building = none)
    (hnested : frame.nested = true) :
    Scoped (state.endOperation record false (.answer call result)).stack
      (state.endOperation record false (.answer call result)) :=
  endOperation h hopens hresets (fun _ hother => by cases hother) hbuilding hnested

theorem back {state : State} {frame : Frame} (h : Scoped (frame :: state.stack) state)
    (outcome : Outcome) :
    Scoped (state.back frame outcome).stack (state.back frame outcome) := by
  unfold State.back
  cases frame with
  | ready call =>
    have hpopped := h.pop rfl rfl rfl
    dsimp only
    split
    · exact hpopped.answer _ _
    · split
      · exact hpopped.answer _ _
      · exact hpopped.start call
  | createBuild record slot =>
    have hpopped := h.pop rfl rfl rfl
    dsimp only
    split
    · exact hpopped.answer _ _
    · split
      · exact hpopped.answer _ _
      · obtain ⟨hbusy, hlt, hplaced⟩ := h.place outcome.value
          (((state.edit record fun record =>
            { record with values := some outcome.value }).records record |>.className, [],
            outcome.value) :: state.builds)
        have hentered := hplaced.enter (.createCreate record) ⟨hlt, by simp [State.edit]⟩
          (by simp [State.edit, Frame.opens, hbusy]) rfl rfl rfl (fun _ => List.mem_singleton.1)
        exact hentered.pushed _
  | createCreate record =>
    have hedited := h.edit record (fun record =>
      { record with
        identity := outcome.identity
        created := !outcome.threw && outcome.result = .ok }) rfl rfl
    dsimp only
    split
    · exact endFree (hedited.detach record) rfl rfl rfl rfl
    · split
      · exact endFree (hedited.detach record) rfl rfl rfl rfl
      · split
        · exact endFree ((hedited.edit record _ rfl rfl).detach record) rfl rfl rfl rfl
        · split
          · exact endFree (hedited.detach record) rfl rfl rfl rfl
          · exact (hedited.swap (.createValidate record) rfl rfl rfl rfl fun _ h => h).pushed _
  | createValidate record =>
    dsimp only
    split
    · exact endFree (h.detach record) rfl rfl rfl rfl
    · split
      · exact endFree (h.detach record) rfl rfl rfl rfl
      · exact endFree h rfl rfl rfl rfl
  | describeValidate token record => exact (h.pop rfl rfl rfl).answer _ _
  | setValidate token key record =>
    dsimp only
    split
    · exact endFree h rfl rfl rfl rfl
    · split
      · exact endFree h rfl rfl rfl rfl
      · split
        · exact endFree h rfl rfl rfl rfl
        · next keys _ =>
          exact (h.swap (.setBuild token key keys record) rfl rfl rfl rfl fun _ h => h).pushed _
  | setBuild token key keys record =>
    dsimp only
    split
    · exact endFree h rfl rfl rfl rfl
    · split
      · exact endFree h rfl rfl rfl rfl
      · have hbuilt := (h.refs _ mem_cons_self record mem_cons_self).2
        have hlogged : Scoped (.setBuild token key keys record :: state.stack)
            { state with builds :=
                ((state.records record).className, keys, outcome.value) :: state.builds } :=
          h.of_same (fun _ => rfl) (fun _ => rfl) rfl rfl rfl fun _ h => h
        exact endFree (hlogged.edit record
          (fun record => { record with keys := keys, values := some outcome.value }) rfl
          hbuilt.symm) rfl rfl rfl rfl
  | teleportValidate token record =>
    dsimp only
    split
    · exact endFree h rfl rfl rfl rfl
    · split
      · exact endFree h rfl rfl rfl rfl
      · exact (h.swap (.teleport token record) rfl rfl rfl rfl fun _ h => h).pushed _
  | teleport token record => exact endFree h rfl rfl rfl rfl
  | spawnValidate token record =>
    dsimp only
    split
    · exact endFree h rfl rfl rfl rfl
    · split
      · exact endFree h rfl rfl rfl rfl
      · exact (h.swap (.spawn token record) rfl rfl rfl rfl fun _ h => h).pushed _
  | spawn token record =>
    dsimp only
    split
    · have hedited := h.edit record (fun record => { record with consumed := true }) rfl rfl
      have hlogged : Scoped (.spawn token record :: state.stack)
          { (state.edit record fun record => { record with consumed := true }) with
            dispatched := record :: state.dispatched } :=
        hedited.of_same (fun _ => rfl) (fun _ => rfl) rfl rfl rfl fun _ h => h
      exact endFree (hlogged.detach record) rfl rfl rfl rfl
    · exact endFree h rfl rfl rfl rfl
  | visitValidate token record wasBusy =>
    dsimp only
    split
    · exact endOperation h rfl rfl (fun _ hother => by cases hother) rfl rfl
    · split
      · exact endOperation h rfl rfl (fun _ hother => by cases hother) rfl rfl
      · exact (h.swap (.visit token record wasBusy) rfl rfl rfl rfl fun _ h => h).pushed _
  | visit token record wasBusy =>
    exact endOperation h rfl rfl (fun _ hother => by cases hother) rfl rfl
  | cancelFinish token record => exact endFree h rfl rfl rfl rfl
  | resetFinish record rest =>
    exact endOperation h rfl rfl (fun other hother => mem_cons_of_mem _ hother) rfl rfl
  | leave after => exact resume h

theorem reset {state : State} (h : Scoped state.stack state) :
    Scoped state.reset.stack state.reset := by
  unfold State.reset
  refine resetNext ⟨?_, Nat.succ_pos _⟩ fun record hrecord => ?_
  · refine h.of_same (fun other => ?_) (fun other => ?_) rfl rfl ?_ fun other hother => ?_
    · dsimp only
      split <;> rfl
    · dsimp only
      split <;> rfl
    · exact Nat.add_sub_cancel _ _
    · cases List.eq_of_mem_replicate hother
  · obtain ⟨slot, hslot, hid⟩ := List.mem_filterMap.1 hrecord
    cases hid
    have hbuilt := h.slots record hslot
    dsimp only
    refine ⟨hbuilt.1, ?_⟩
    split <;> exact hbuilt.2

theorem step {state : State} (h : Scoped state.stack state) (input : Input) :
    Scoped (state.step input).stack (state.step input) := by
  have hready : ∀ call, Scoped (state.push (.ready call)).stack (state.push (.ready call)) :=
    fun call => (h.push (.ready call) rfl rfl rfl rfl fun _ hother => by cases hother).pushed _
  unfold State.step
  cases input with
  | create className =>
    dsimp only
    split
    · exact h
    · exact hready _
  | set token input =>
    dsimp only
    split
    · exact h
    · exact hready _
  | teleport token valid =>
    dsimp only
    split
    · exact hready _
    · exact h
  | visit token valid =>
    dsimp only
    split
    · exact hready _
    · exact h
  | describe token => exact hready _
  | spawn token => exact hready _
  | cancel token => exact hready _
  | reset => exact h.reset
  | back outcome =>
    dsimp only
    split
    · exact h
    · next frame below hstack =>
      refine @back { state with stack := below } frame ?_ outcome
      rw [hstack] at h
      exact h.of_same (fun _ => rfl) (fun _ => rfl) rfl rfl rfl fun _ h => h

theorem run (inputs : List Input) : Scoped (Lib.run State.step State.initial inputs).stack
    (Lib.run State.step State.initial inputs) :=
  @Lib.run_invariant _ _ State.step (fun state => Scoped state.stack state)
    (fun _ input h => step h input) State.initial initial inputs

end Scoped
end KeelS2.Cs2.Construction
