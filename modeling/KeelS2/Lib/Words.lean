import Mathlib.Data.List.TakeWhile

/-!
# Words of a text

A text is read as *words* with blanks between them. `Words` says which words a text consists
of, one constructor for what the text may begin with, and the lemmas follow a reader that
passes the blanks first and then takes a word: `words_dropWhile` for the one half of its step
and `words_of_word` for the other.
-/

namespace KeelS2.Lib

variable {α : Type} (blank : α → Bool)

/-- The words of a text, in order: every word is as long as it can be. -/
inductive Words : List (List α) → List α → Prop
  | nil : Words [] []
  | blank {c : α} {words : List (List α)} {text : List α} :
    blank c = true → Words words text → Words words (c :: text)
  | word {word : List α} {words : List (List α)} {text : List α} :
    word ≠ [] → (∀ c ∈ word, blank c = false) → (∀ c ∈ text.head?, blank c = true) →
    Words words text → Words (word :: words) (word ++ text)

variable {blank}

theorem words_nil {words : List (List α)} : Words blank words [] ↔ words = [] := by
  constructor
  · intro h
    generalize htext : ([] : List α) = text at h
    cases h with
    | nil => rfl
    | blank => cases htext
    | word hne =>
      exact absurd (List.append_eq_nil_iff.1 htext.symm).1 hne
  · rintro rfl
    exact .nil

theorem words_cons_blank {c : α} (hc : blank c = true) {words : List (List α)} {text : List α} :
    Words blank words (c :: text) ↔ Words blank words text := by
  constructor
  · intro h
    generalize htext : c :: text = whole at h
    cases h with
    | nil => cases htext
    | blank _ hrest =>
      cases htext
      exact hrest
    | @word word _ rest hne hword =>
      obtain ⟨first, others, rfl⟩ := List.exists_cons_of_ne_nil hne
      cases htext
      rw [hword c List.mem_cons_self] at hc
      cases hc
  · exact .blank hc

theorem words_dropWhile {words : List (List α)} {text : List α} :
    Words blank words (text.dropWhile blank) ↔ Words blank words text := by
  induction text with
  | nil => rfl
  | cons c rest ih =>
    cases hc : blank c with
    | true => rw [List.dropWhile_cons_of_pos hc, words_cons_blank hc, ih]
    | false => rw [List.dropWhile_cons_of_neg (by simp [hc])]

theorem words_of_word {c : α} (hc : blank c = false) {words : List (List α)} {text : List α} :
    Words blank words (c :: text) ↔
      ∃ others, words = (c :: text).takeWhile (fun c => !blank c) :: others ∧
        Words blank others ((c :: text).dropWhile fun c => !blank c) := by
  constructor
  · intro h
    generalize htext : c :: text = whole at h ⊢
    cases h with
    | nil => cases htext
    | blank hblank =>
      cases htext
      rw [hc] at hblank
      cases hblank
    | @word word others rest hne hword hrest htail =>
      have hinside : ∀ c ∈ word, (!blank c) = true := fun c hmem => by rw [hword c hmem]; rfl
      have hbreak : rest.takeWhile (fun c => !blank c) = [] ∧
          rest.dropWhile (fun c => !blank c) = rest := by
        cases rest with
        | nil => exact ⟨rfl, rfl⟩
        | cons next _ =>
          have hnext : ¬ (!blank next) = true := by simp [hrest next rfl]
          exact ⟨List.takeWhile_cons_of_neg hnext, List.dropWhile_cons_of_neg hnext⟩
      refine ⟨others, ?_, ?_⟩
      · rw [List.takeWhile_append_of_pos hinside, hbreak.1, List.append_nil]
      · rw [List.dropWhile_append_of_pos hinside, hbreak.2]
        exact htail
  · rintro ⟨others, rfl, hothers⟩
    have hsplit := List.takeWhile_append_dropWhile (p := fun c => !blank c) (l := c :: text)
    generalize hword : (c :: text).takeWhile (fun c => !blank c) = word at hsplit ⊢
    generalize hrest : (c :: text).dropWhile (fun c => !blank c) = rest at hsplit hothers
    rw [← hsplit]
    refine .word ?_ ?_ ?_ hothers
    · rw [← hword, List.takeWhile_cons_of_pos (by simp [hc])]
      exact List.cons_ne_nil _ _
    · intro d hd
      rw [← hword] at hd
      simpa using List.mem_takeWhile_imp hd
    · intro d hd
      rw [← hrest] at hd
      cases hdrop : (c :: text).dropWhile fun c => !blank c with
      | nil =>
        rw [hdrop] at hd
        cases hd
      | cons first tail =>
        rw [hdrop] at hd
        cases hd
        have hfirst := List.head_dropWhile_not (fun c => !blank c) (l := c :: text)
          (by rw [hdrop]; exact List.cons_ne_nil _ _)
        simp only [hdrop, List.head_cons] at hfirst
        simpa using hfirst

end KeelS2.Lib
