import KeelS2.Sdk.EntityLives
import KeelS2.Sdk.EntityOwnership

/-!
# The law of entity wrappers

Whatever is done to the wrappers, and whatever the host answers and does meanwhile: no handle has
two owners or is released twice, none is forgotten before it is adopted, no snapshot outlives a
release of its state, and a refused release changes nothing.
-/

namespace KeelS2.Sdk.Wrappers

open Lib

namespace World

variable {world inner : World}

/-! ## A refused release -/

theorem step_release {input : Input} {wrapper id : Nat}
    (hinput : input = .reset wrapper ∨ ∃ request, input = .open wrapper request)
    (hwrapper : world.wrappers wrapper = some (some id)) :
    ∃ next, (∀ other, next ≠ .destroyed other) ∧ world.step input = world.release id next := by
  rcases hinput with rfl | ⟨request, rfl⟩
  · exact ⟨.done, (fun other h => by cases h), by simp [World.step, World.reset, hwrapper]⟩
  · exact ⟨.open request, (fun other h => by cases h),
      by simp [World.step, World.openEntity, hwrapper]⟩

theorem release_of_value {id : Nat} {value : Value} (next : Next)
    (hvalue : (world.states id).value = some value)
    (haccepting : world.accepting value.context = true) :
    world.release id next =
      ((world.setState id ⟨none, (world.states id).generation + 1, (world.states id).alive⟩).log
        (.passed value.handle)).push
          (.release id value ((world.states id).generation + 1) next) := by
  simp [World.release, hvalue, haccepting]

theorem afterRelease_of_refused {id generation : Nat} {result : KeelResult} {next : Next}
    (hrefused : refused result = true) (hnext : ∀ other, next ≠ .destroyed other) :
    inner.afterRelease id generation result next = inner := by
  cases next with
  | done => rfl
  | destroyed wrapper => exact absurd rfl (hnext wrapper)
  | «open» request => simp [afterRelease, hrefused]

theorem Allocated.undisturbed (hallocated : world.Allocated) {id generation : Nat}
    (hstate : world.unchanged id generation = true) (hpast : 0 < generation) {during : List Input}
    (hduring : Heeds World.step (fun world input => world.touched input ≠ some id) world during) :
    (run World.step world during).Allocated ∧
      (run World.step world during).unchanged id generation = true := by
  suffices hstep : ∀ (now : World) (input : Input),
      now.Allocated ∧ now.unchanged id generation = true → now.touched input ≠ some id →
        (now.step input).Allocated ∧ (now.step input).unchanged id generation = true from
    Heeds.invariant hstep ⟨hallocated, hstate⟩ hduring
  rintro now input ⟨hallocated, hunchanged⟩ huntouched
  refine ⟨hallocated.step input, ?_⟩
  simp only [unchanged, Bool.decide_and, Bool.decide_eq_true, Bool.and_eq_true,
    decide_eq_true_eq] at hunchanged ⊢
  have hlt : id < now.nextState := by
    refine Nat.lt_of_not_le ?_
    intro hle
    have hfresh := congrArg State.generation (hallocated.fresh id hle)
    rw [hunchanged.2] at hfresh
    exact Nat.ne_of_gt hpast hfresh
  have hsame := World.Allocated.sameAge input hlt huntouched
  exact ⟨hsame.2.trans hunchanged.1, hsame.1.trans hunchanged.2⟩

theorem Allocated.kept (hallocated : world.Allocated) {input : Input} {wrapper id : Nat}
    {value : Value} (hinput : input = .reset wrapper ∨ ∃ request, input = .open wrapper request)
    (hwrapper : world.wrappers wrapper = some (some id))
    (halive : (world.states id).alive = true) (hvalue : (world.states id).value = some value)
    (haccepting : world.accepting value.context = true) {during : List Input}
    (hduring : Heeds World.step (fun world input => world.touched input ≠ some id)
      (world.step input) during)
    (hframes : (run World.step (world.step input) during).frames = (world.step input).frames)
    {answer : Answer} (hrefused : refused answer.result = true) :
    (((run World.step (world.step input) during).answer answer).states id).value = some value ∧
      (((run World.step (world.step input) during).answer answer).states id).alive = true ∧
      ((run World.step (world.step input) during).answer answer).wrappers =
        (run World.step (world.step input) during).wrappers := by
  obtain ⟨next, hnext, hstep⟩ := step_release hinput hwrapper
  rw [release_of_value next hvalue haccepting] at hstep
  have hbegun : (world.step input).unchanged id ((world.states id).generation + 1) = true := by
    rw [hstep]
    simp [unchanged, World.setState, World.log, World.push, halive]
  have hundisturbed := ((hallocated.step input).undisturbed hbegun (Nat.succ_pos _) hduring).2
  have hinner : (run World.step (world.step input) during).frames =
      .release id value ((world.states id).generation + 1) next :: world.frames := by
    rw [hframes, hstep]
    rfl
  generalize run World.step (world.step input) during = inner at hinner hundisturbed ⊢
  have hback : inner.answer answer = { inner with frames := world.frames }.released id value
      ((world.states id).generation + 1) next answer.result := by
    unfold World.answer
    rw [hinner]
  rw [hback]
  unfold released
  rw [afterRelease_of_refused hrefused hnext, if_pos ⟨hrefused, hundisturbed⟩]
  refine ⟨?_, ?_, rfl⟩
  · simp [World.setState]
  · simp only [unchanged, Bool.decide_and, Bool.decide_eq_true, Bool.and_eq_true] at hundisturbed
    simpa [World.setState, World.log] using hundisturbed.1

/-! ## The law -/

theorem Sound.exclusive (hsound : world.Sound) {id other : Nat} {value value' : Value}
    (hvalue : (world.states id).value = some value)
    (hother : (world.states other).value = some value') (heq : value.handle = value'.handle) :
    id = other := by
  refine hsound.possessed.exclusive id other value.handle ?_ ?_
  · simp [possession, hvalue]
  · simp [possession, hother, heq]

theorem Sound.once (hsound : world.Sound) (handle : Nat) :
    world.events.count (.released handle .ok) ≤ 1 := by
  have hgone : world.possession.gone.Nodup :=
    (List.nodup_append.1 hsound.possessed.distinct).2.1
  calc world.events.count (.released handle .ok)
    _ ≤ world.events.countP (fun event => event.done == some handle) := by
      refine List.countP_mono_left ?_
      intro event hmem heq
      rw [eq_of_beq heq]
      simp [Event.done]
    _ = world.possession.gone.count handle := (List.count_filterMap ..).symm
    _ ≤ 1 := List.nodup_iff_count_le_one.1 hgone handle

theorem Sound.given (hsound : world.Sound) {handle : Nat}
    (hissued : .issued handle ∈ world.events) (hadopted : .adopted handle ∉ world.events)
    (hframes : ∀ frame ∈ world.frames, frame.described ≠ some handle) :
    .passed handle ∈ world.events := by
  rcases hsound.accounted handle (hsound.issued handle hissued) with h | hpassed | hmem
  · exact absurd h hadopted
  · exact hpassed
  · obtain ⟨frame, hframe, hdescribed⟩ := List.mem_filterMap.1 hmem
    exact absurd hdescribed (hframes frame hframe)

end World
end KeelS2.Sdk.Wrappers
