import Mathlib.Data.List.Basic

/-!
# What a search gathers

A search that may fail goes through a list and puts together what each element gives. `Gathers`
says of a search that it does not fail, and which elements it comes back with; there is one rule
for each way to put searches together.
-/

namespace KeelS2.Lib

variable {α β : Type*}

/-- What each element gives, one after the other. -/
def collect (search : α → Option (List β)) : List α → Option (List β)
  | [] => some []
  | a :: rest => (search a).bind fun here => (collect search rest).map (here ++ ·)

/-- The search does not fail, and finds those that `wanted` holds of. -/
def Gathers (search : Option (List β)) (wanted : β → Prop) : Prop :=
  ∃ found, search = some found ∧ ∀ b, b ∈ found ↔ wanted b

theorem gathers_nil {wanted : β → Prop} (hnone : ∀ b, ¬ wanted b) : Gathers (some []) wanted :=
  ⟨[], rfl, fun b => ⟨fun hmem => absurd hmem List.not_mem_nil, fun hb => absurd hb (hnone b)⟩⟩

theorem gathers_singleton (b : β) : Gathers (some [b]) (· = b) :=
  ⟨[b], rfl, fun _ => List.mem_singleton⟩

namespace Gathers

variable {search : Option (List β)} {wanted : β → Prop}

theorem congr {wanted' : β → Prop} (hgathers : Gathers search wanted)
    (hiff : ∀ b, wanted b ↔ wanted' b) : Gathers search wanted' := by
  obtain ⟨found, hfound, hmem⟩ := hgathers
  exact ⟨found, hfound, fun b => (hmem b).trans (hiff b)⟩

theorem collect {search : α → Option (List β)} {wanted : α → β → Prop} {l : List α}
    (hsearch : ∀ a ∈ l, Gathers (search a) (wanted a)) :
    Gathers (collect search l) fun b => ∃ a ∈ l, wanted a b := by
  induction l with
  | nil => exact gathers_nil fun b ⟨_, hmem, _⟩ => absurd hmem List.not_mem_nil
  | cons a rest ih =>
    obtain ⟨here, hhere, hmem⟩ := hsearch a List.mem_cons_self
    obtain ⟨found, hfound, hrest⟩ := ih fun b hb => hsearch b (List.mem_cons_of_mem a hb)
    refine ⟨here ++ found, ?_, fun b => ?_⟩
    · rw [Lib.collect, hhere, hfound]
      rfl
    · rw [List.mem_append, hmem, hrest]
      simp

/-- A loop over what was found before. -/
theorem bind {search : Option (List α)} {found : α → Prop} {next : α → Option (List β)}
    {wanted : α → β → Prop} (hsearch : Gathers search found)
    (hnext : ∀ a, found a → Gathers (next a) (wanted a)) :
    Gathers (search.bind (Lib.collect next)) fun b => ∃ a, found a ∧ wanted a b := by
  obtain ⟨list, hlist, hmem⟩ := hsearch
  rw [hlist]
  refine (Gathers.collect fun a ha => hnext a ((hmem a).mp ha)).congr fun b => ?_
  simp only [hmem]

end Gathers

end KeelS2.Lib
