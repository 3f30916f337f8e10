import Mathlib.Data.List.Nodup

/-!
# Things in one place at a time

Things are issued one after the other, and numbered. One is with a holder, or in a hand on its way,
or it is gone for good, or lost. `Sound` says that none is in two of these places; every move keeps
it.
-/

namespace KeelS2.Lib

/-- Who holds what, what is on its way (innermost hand first), how many things there have been, and
which of them are gone. -/
structure Possession (Holder : Type*) where
  holds : Holder → Option Nat
  hands : List Nat
  issued : Nat
  gone : List Nat

variable {Holder : Type*}

namespace Possession

structure Sound (possession : Possession Holder) : Prop where
  exclusive : ∀ holder other thing, possession.holds holder = some thing →
    possession.holds other = some thing → holder = other
  apart : ∀ holder thing, possession.holds holder = some thing →
    thing ∉ possession.hands ++ possession.gone
  distinct : (possession.hands ++ possession.gone).Nodup
  held : ∀ holder thing, possession.holds holder = some thing → thing < possession.issued
  known : ∀ thing ∈ possession.hands ++ possession.gone, thing < possession.issued

variable {possession : Possession Holder} {thing : Nat} {rest : List Nat}

theorem sound_nobody : Sound (⟨fun _ => none, [], 0, []⟩ : Possession Holder) where
  exclusive _ _ _ hholds := by cases hholds
  apart _ _ hholds := by cases hholds
  distinct := List.nodup_nil
  held _ _ hholds := by cases hholds
  known _ hmem := by cases hmem

theorem Sound.issue (hsound : possession.Sound) :
    Sound ⟨possession.holds, possession.issued :: possession.hands, possession.issued + 1,
      possession.gone⟩ where
  exclusive := hsound.exclusive
  apart holder thing hholds := by
    have hlt := hsound.held holder thing hholds
    rw [List.cons_append, List.mem_cons]
    rintro (rfl | hmem)
    · exact Nat.lt_irrefl _ hlt
    · exact hsound.apart holder thing hholds hmem
  distinct := by
    rw [List.cons_append, List.nodup_cons]
    refine ⟨?_, hsound.distinct⟩
    intro hmem
    exact Nat.lt_irrefl _ (hsound.known _ hmem)
  held holder thing hholds := Nat.lt_succ_of_lt (hsound.held holder thing hholds)
  known thing hmem := by
    rw [List.cons_append, List.mem_cons] at hmem
    rcases hmem with rfl | hmem
    · exact Nat.lt_succ_self _
    · exact Nat.lt_succ_of_lt (hsound.known thing hmem)

theorem Sound.lose (hsound : possession.Sound) (hhands : possession.hands = thing :: rest) :
    Sound ⟨possession.holds, rest, possession.issued, possession.gone⟩ where
  exclusive := hsound.exclusive
  apart holder found hholds hmem := by
    refine hsound.apart holder found hholds ?_
    rw [hhands]
    exact List.mem_cons_of_mem _ hmem
  distinct := by
    have hdistinct := hsound.distinct
    rw [hhands, List.cons_append] at hdistinct
    exact hdistinct.of_cons
  held := hsound.held
  known found hmem := by
    refine hsound.known found ?_
    rw [hhands]
    exact List.mem_cons_of_mem _ hmem

theorem Sound.finish (hsound : possession.Sound) (hhands : possession.hands = thing :: rest) :
    Sound ⟨possession.holds, rest, possession.issued, thing :: possession.gone⟩ := by
  have hperm : (possession.hands ++ possession.gone).Perm (rest ++ thing :: possession.gone) := by
    rw [hhands]
    exact List.perm_middle.symm
  constructor
  · exact hsound.exclusive
  · intro holder found hholds hmem
    exact hsound.apart holder found hholds (hperm.mem_iff.2 hmem)
  · exact hperm.nodup hsound.distinct
  · exact hsound.held
  · intro found hmem
    exact hsound.known found (hperm.mem_iff.2 hmem)

variable [DecidableEq Holder]

/-- Who has a thing after one has parted with what he had, had it before. -/
theorem holds_of_update_none {holds : Holder → Option Nat} {holder other : Holder}
    (hholds : Function.update holds holder none other = some thing) :
    other ≠ holder ∧ holds other = some thing := by
  by_cases heq : other = holder
  · rw [heq, Function.update_self] at hholds
    cases hholds
  · rw [Function.update_of_ne heq] at hholds
    exact ⟨heq, hholds⟩

theorem Sound.drop (hsound : possession.Sound) (holder : Holder) :
    Sound ⟨Function.update possession.holds holder none, possession.hands, possession.issued,
      possession.gone⟩ where
  exclusive first second found hfirst hsecond :=
    hsound.exclusive first second found (holds_of_update_none hfirst).2
      (holds_of_update_none hsecond).2
  apart other found hfound := hsound.apart other found (holds_of_update_none hfound).2
  distinct := hsound.distinct
  held other found hfound := hsound.held other found (holds_of_update_none hfound).2
  known := hsound.known

theorem Sound.take (hsound : possession.Sound) {holder : Holder}
    (hholds : possession.holds holder = some thing) :
    Sound ⟨Function.update possession.holds holder none, thing :: possession.hands,
      possession.issued, possession.gone⟩ := by
  have hdropped := hsound.drop holder
  constructor
  · exact hdropped.exclusive
  · intro other found hfound
    rw [List.cons_append, List.mem_cons]
    rintro (rfl | hmem)
    · obtain ⟨hne, hother⟩ := holds_of_update_none hfound
      exact hne (hsound.exclusive other holder found hother hholds)
    · exact hdropped.apart other found hfound hmem
  · rw [List.cons_append, List.nodup_cons]
    exact ⟨hsound.apart holder thing hholds, hsound.distinct⟩
  · exact hdropped.held
  · intro found hmem
    rw [List.cons_append, List.mem_cons] at hmem
    rcases hmem with rfl | hmem
    · exact hsound.held holder found hholds
    · exact hsound.known found hmem

theorem Sound.put (hsound : possession.Sound) (hhands : possession.hands = thing :: rest)
    (holder : Holder) :
    Sound ⟨Function.update possession.holds holder (some thing), rest, possession.issued,
      possession.gone⟩ := by
  have hlost := hsound.lose hhands
  have hfresh : thing ∉ rest ++ possession.gone := by
    have hdistinct := hsound.distinct
    rw [hhands, List.cons_append, List.nodup_cons] at hdistinct
    exact hdistinct.1
  have hthing : thing ∈ possession.hands ++ possession.gone := by
    rw [hhands]
    exact List.mem_cons_self
  have hcases : ∀ other found,
      Function.update possession.holds holder (some thing) other = some found →
        other = holder ∧ found = thing ∨ other ≠ holder ∧ possession.holds other = some found := by
    intro other found hfound
    by_cases heq : other = holder
    · rw [heq, Function.update_self, Option.some.injEq] at hfound
      exact Or.inl ⟨heq, hfound.symm⟩
    · rw [Function.update_of_ne heq] at hfound
      exact Or.inr ⟨heq, hfound⟩
  have hnobody : ∀ other, possession.holds other ≠ some thing := fun other hother =>
    hsound.apart other thing hother hthing
  constructor
  · intro first second found hfirst hsecond
    rcases hcases first found hfirst with ⟨hone, rfl⟩ | ⟨-, hfirst⟩ <;>
      rcases hcases second _ hsecond with ⟨htwo, heq⟩ | ⟨-, hsecond⟩
    · rw [hone, htwo]
    · exact absurd hsecond (hnobody second)
    · exact absurd (heq ▸ hfirst) (hnobody first)
    · exact hsound.exclusive first second found hfirst hsecond
  · intro other found hfound
    rcases hcases other found hfound with ⟨-, rfl⟩ | ⟨-, hfound⟩
    · exact hfresh
    · exact hlost.apart other found hfound
  · exact hlost.distinct
  · intro other found hfound
    rcases hcases other found hfound with ⟨-, rfl⟩ | ⟨-, hfound⟩
    · exact hsound.known found hthing
    · exact hsound.held other found hfound
  · exact hlost.known

end Possession
end KeelS2.Lib
