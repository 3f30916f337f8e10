import Mathlib.Logic.Relation

/-!
# Locks that are taken in an order

A thread waits for whoever has the lock that it wants. Where every lock that a thread has comes
before the one it waits for, in some order of the locks, no threads wait for each other in a
circle.
-/

namespace KeelS2.Lib

variable {Thread Lock : Type*} (wants : Thread → Option Lock) (holder : Lock → Option Thread)

def WaitsFor (first second : Thread) : Prop :=
  ∃ lock, wants first = some lock ∧ holder lock = some second

/-- The lock a thread waits for comes after all that it has. -/
def InOrder (rank : Lock → Nat) : Prop :=
  ∀ thread wanted held, wants thread = some wanted → holder held = some thread →
    rank held < rank wanted

variable {wants holder}

theorem InOrder.chain {rank : Lock → Nat} (horder : InOrder wants holder rank)
    {first last : Thread} (hchain : Relation.TransGen (WaitsFor wants holder) first last)
    {wanted wanted' : Lock} (hfirst : wants first = some wanted)
    (hlast : wants last = some wanted') : rank wanted < rank wanted' := by
  induction hchain generalizing wanted' with
  | single hwaits =>
    obtain ⟨lock, hlock, hholder⟩ := hwaits
    rw [hfirst] at hlock
    cases hlock
    exact horder _ _ _ hlast hholder
  | tail _ hwaits ih =>
    obtain ⟨lock, hlock, hholder⟩ := hwaits
    exact Nat.lt_trans (ih hlock) (horder _ _ _ hlast hholder)

theorem InOrder.no_cycle {rank : Lock → Nat} (horder : InOrder wants holder rank)
    (thread : Thread) : ¬Relation.TransGen (WaitsFor wants holder) thread thread := by
  intro hcycle
  obtain ⟨next, ⟨wanted, hwanted, _⟩, _⟩ := Relation.TransGen.head'_iff.1 hcycle
  exact Nat.lt_irrefl _ (horder.chain hcycle hwanted hwanted)

end KeelS2.Lib
