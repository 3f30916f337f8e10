import Mathlib.Data.Finsupp.Weight

/-!
# Counters of those inside

A counter that everybody adds one to on the way in, and takes one from on the way out, is the sum
of how often each is inside. A wait for zero ends when nobody is.
-/

namespace KeelS2.Lib

variable {Thread : Type*} [DecidableEq Thread]

/-- `total` is the sum of `inside`, over all threads. -/
def Counts (inside : Thread → Nat) (total : Nat) : Prop :=
  ∃ finite : Thread →₀ Nat, ⇑finite = inside ∧ finite.degree = total

variable {inside : Thread → Nat} {total total' now : Nat} {thread : Thread}

omit [DecidableEq Thread] in
theorem counts_zero : Counts (fun _ : Thread => 0) 0 :=
  ⟨0, rfl, map_zero _⟩

omit [DecidableEq Thread] in
theorem Counts.le (hcounts : Counts inside total) (thread : Thread) : inside thread ≤ total := by
  obtain ⟨finite, rfl, rfl⟩ := hcounts
  exact Finsupp.le_degree thread finite

omit [DecidableEq Thread] in
theorem Counts.none (hcounts : Counts inside 0) (thread : Thread) : inside thread = 0 :=
  Nat.le_zero.1 (hcounts.le thread)

omit [DecidableEq Thread] in
theorem Counts.mono {further : Thread → Nat} (hcounts : Counts inside total)
    (hfurther : Counts further total') (hle : ∀ thread, inside thread ≤ further thread) :
    total ≤ total' := by
  obtain ⟨finite, rfl, rfl⟩ := hcounts
  obtain ⟨other, rfl, rfl⟩ := hfurther
  exact Finsupp.degree_mono hle

theorem Counts.update (hcounts : Counts inside total)
    (hmove : total' + inside thread = total + now) :
    Counts (Function.update inside thread now) total' := by
  obtain ⟨finite, rfl, rfl⟩ := hcounts
  refine ⟨finite.update thread now, by rw [Finsupp.coe_update], ?_⟩
  have hsum : finite.update thread now + Finsupp.single thread (finite thread) =
      finite + Finsupp.single thread now := by
    ext other
    by_cases hother : other = thread
    · simp [hother, Nat.add_comm]
    · simp [hother]
  have hdegree := congrArg Finsupp.degree hsum
  rw [map_add, map_add, Finsupp.degree_single, Finsupp.degree_single] at hdegree
  omega

theorem Counts.swap (hcounts : Counts inside total) (first second : Thread) :
    Counts (Function.update (Function.update inside first (inside second)) second (inside first))
      total := by
  rcases eq_or_ne second first with rfl | hne
  · rwa [Function.update_idem, Function.update_eq_self]
  · have hle := hcounts.le first
    have hmiddle : Counts (Function.update inside first (inside second))
        (total + inside second - inside first) := hcounts.update (by omega)
    refine hmiddle.update ?_
    rw [Function.update_of_ne hne]
    omega

theorem Counts.stack {Frame : Type*} {counts : Frame → Bool} {callStacks : Thread → List Frame}
    {frames : List Frame}
    (hcounts : Counts (fun other => (callStacks other).countP counts) total)
    (hmove : total' + (callStacks thread).countP counts = total + frames.countP counts) :
    Counts (fun other => (Function.update callStacks thread frames other).countP counts)
      total' := by
  have hupdate : (fun other => (Function.update callStacks thread frames other).countP counts) =
      Function.update (fun other => (callStacks other).countP counts) thread
        (frames.countP counts) := by
    funext other
    by_cases hother : other = thread
    · simp [hother]
    · simp [Function.update_of_ne hother]
  rw [hupdate]
  exact hcounts.update hmove

end KeelS2.Lib
