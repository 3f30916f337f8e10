import Mathlib.Data.List.Basic

/-!
# Histories

A history is what has happened, the latest first. A law says what an entry has to do with what came
before it, and a history is lawful when each of its entries keeps the law.
-/

namespace KeelS2.Lib

variable {Entry : Type*} {law : Entry → List Entry → Prop}

def Lawful (law : Entry → List Entry → Prop) : List Entry → Prop
  | [] => True
  | entry :: earlier => law entry earlier ∧ Lawful law earlier

theorem Lawful.at {later earlier : List Entry} {entry : Entry}
    (hlawful : Lawful law (later ++ entry :: earlier)) : law entry earlier := by
  induction later with
  | nil => exact hlawful.1
  | cons first later ih => exact ih hlawful.2

theorem Lawful.append {entries earlier : List Entry} (hlawful : Lawful law earlier)
    (hfree : ∀ entry ∈ entries, ∀ before, law entry before) : Lawful law (entries ++ earlier) := by
  induction entries with
  | nil => exact hlawful
  | cons entry entries ih =>
    exact ⟨hfree entry List.mem_cons_self _,
      ih fun other hmem => hfree other (List.mem_cons_of_mem _ hmem)⟩

end KeelS2.Lib
