import Mathlib.Data.Set.Finite.Basic

/-!
# Chains in a finite set

From each member of a finite set that is not good a step leads on, to a member or to something
good. Whoever goes on and on comes to something good, or into a circle.
-/

namespace KeelS2.Lib

open Relation (ReflTransGen TransGen)

variable {α : Type*} {r : α → α → Prop} {good : α → Prop} {members : Set α}

theorem reaches_good (hfinite : members.Finite)
    (hstep : ∀ a ∈ members, good a ∨ ∃ b, r a b ∧ (b ∈ members ∨ good b))
    (hcircle : ∀ a ∈ members, ¬TransGen r a a) {a : α} (ha : a ∈ members) :
    ∃ b, ReflTransGen r a b ∧ good b := by
  have : Finite members := hfinite
  have hwell : WellFounded (TransGen fun b a : members => r a b) := by
    have hirrefl : Std.Irrefl (TransGen fun b a : members => r a b) :=
      ⟨fun b hb => hcircle b b.2 ((Relation.transGen_swap.1 hb).lift Subtype.val fun _ _ h => h)⟩
    exact Finite.wellFounded_of_trans_of_irrefl _
  have hend : ∀ first : members, ∃ b, ReflTransGen r first b ∧ good b := by
    intro first
    induction first using hwell.induction with
    | _ first ih =>
      rcases hstep first first.2 with hgood | ⟨next, hnext, hmem | hgood⟩
      · exact ⟨first, .refl, hgood⟩
      · obtain ⟨b, hreach, hgood⟩ := ih ⟨next, hmem⟩ (.single hnext)
        exact ⟨b, .head hnext hreach, hgood⟩
      · exact ⟨next, .single hnext, hgood⟩
  exact hend ⟨a, ha⟩

theorem reaches_good_or_circle (hfinite : members.Finite)
    (hstep : ∀ a ∈ members, good a ∨ ∃ b, r a b ∧ (b ∈ members ∨ good b)) {a : α}
    (ha : a ∈ members) : ∃ b, ReflTransGen r a b ∧ (good b ∨ TransGen r b b) := by
  by_contra hnone
  -- The members that can be reached have no circle among them.
  have hreached : (members ∩ {c | ReflTransGen r a c}).Finite := hfinite.inter_of_left _
  have hend : ∃ b, ReflTransGen r a b ∧ good b := by
    refine reaches_good hreached ?_ (fun c hc hcircle => hnone ⟨c, hc.2, .inr hcircle⟩) ⟨ha, .refl⟩
    intro c hc
    rcases hstep c hc.1 with hgood | ⟨next, hnext, hmem | hgood⟩
    · exact .inl hgood
    · exact .inr ⟨next, hnext, .inl ⟨hmem, hc.2.tail hnext⟩⟩
    · exact .inr ⟨next, hnext, .inr hgood⟩
  obtain ⟨b, hreach, hgood⟩ := hend
  exact hnone ⟨b, hreach, .inl hgood⟩

end KeelS2.Lib
