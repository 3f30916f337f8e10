import Mathlib.Data.List.Basic

/-!
# Lists with distinct keys

What is looked up by a key that no two entries share is the entry of that key, and what a series
of changes does to an entry is the change with its key.
-/

namespace KeelS2.Lib

variable {Entry Key : Type*} [BEq Key] [LawfulBEq Key] {key : Entry → Key}

theorem find_of_distinct {entries : List Entry} (hdistinct : (entries.map key).Nodup)
    {entry : Entry} (hmem : entry ∈ entries) :
    entries.find? (key · == key entry) = some entry := by
  induction entries with
  | nil => cases hmem
  | cons first rest ih =>
    rw [List.map_cons, List.nodup_cons] at hdistinct
    rw [List.find?_cons]
    rcases List.mem_cons.1 hmem with rfl | hmem
    · simp
    · have hne : key first ≠ key entry := by
        intro heq
        exact hdistinct.1 (heq ▸ List.mem_map_of_mem hmem)
      simp only [beq_eq_false_iff_ne.2 hne]
      exact ih hdistinct.2 hmem

/-! ## Association lists -/

variable {Value : Type*}

theorem mem_of_lookup {entries : List (Key × Value)} {wanted : Key} {value : Value}
    (h : entries.lookup wanted = some value) : (wanted, value) ∈ entries := by
  obtain ⟨front, back, heq, -⟩ := List.lookup_eq_some_iff.1 h
  simp [heq]

theorem lookup_of_distinct {entries : List (Key × Value)}
    (hdistinct : (entries.map Prod.fst).Nodup) {wanted : Key} {value : Value}
    (hmem : (wanted, value) ∈ entries) : entries.lookup wanted = some value := by
  induction entries with
  | nil => cases hmem
  | cons first rest ih =>
    rw [List.map_cons, List.nodup_cons] at hdistinct
    rcases List.mem_cons.1 hmem with rfl | hmem
    · exact List.lookup_cons_self
    · have hne : wanted ≠ first.1 := by
        intro heq
        exact hdistinct.1 (heq ▸ List.mem_map_of_mem hmem)
      rw [List.lookup_cons, beq_eq_false_iff_ne.2 hne]
      exact ih hdistinct.2 hmem

theorem isSome_lookup {entries : List (Key × Value)} {wanted : Key} :
    (entries.lookup wanted).isSome = true ↔ wanted ∈ entries.map Prod.fst := by
  simp [List.lookup_isSome_iff, List.mem_map]

/-! ## Changes, each to the entries of its key -/

section Changes

variable {Entry Key Change : Type*} [DecidableEq Key] {key : Entry → Key} {target : Change → Key}
  {change : Change → Entry → Entry}

theorem foldl_change_of_notMem {changes : List Change} {entry : Entry}
    (h : key entry ∉ changes.map target) :
    changes.foldl (fun entry next => if key entry = target next then change next entry else entry)
      entry = entry := by
  induction changes with
  | nil => rfl
  | cons next changes ih =>
    rw [List.map_cons, List.mem_cons, not_or] at h
    rw [List.foldl_cons, if_neg h.1]
    exact ih h.2

theorem foldl_change_of_mem (hkey : ∀ next entry, key (change next entry) = key entry)
    {changes : List Change} (hdistinct : (changes.map target).Nodup) {next : Change}
    (hmem : next ∈ changes) {entry : Entry} (h : key entry = target next) :
    changes.foldl (fun entry next => if key entry = target next then change next entry else entry)
      entry = change next entry := by
  induction changes with
  | nil => exact absurd hmem List.not_mem_nil
  | cons first changes ih =>
    rw [List.map_cons, List.nodup_cons] at hdistinct
    rw [List.foldl_cons]
    rcases List.mem_cons.mp hmem with rfl | hmem
    · rw [if_pos h]
      refine foldl_change_of_notMem ?_
      rw [hkey, h]
      exact hdistinct.1
    · have hne : key entry ≠ target first := by
        intro heq
        exact hdistinct.1 (heq ▸ h ▸ List.mem_map_of_mem hmem)
      rw [if_neg hne]
      exact ih hdistinct.2 hmem

end Changes

end KeelS2.Lib
