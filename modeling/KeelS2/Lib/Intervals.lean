import Mathlib.Data.List.Sort

/-!
# Merging intervals

Intervals of naturals, sorted by where they begin, are merged from left to right: one that
begins no later than the last one ends is joined to it. What comes out covers the same
numbers, and its intervals are *separated*, with a gap of at least one number between two of
them. So a window every number of which is covered lies inside a single merged interval.

The second half is about strictly ascending lists, in which what is before an entry is what
is smaller.
-/

namespace KeelS2.Lib

/-- The numbers from `first` to before `stop`. -/
structure Interval where
  first : Nat
  stop : Nat
  deriving DecidableEq, Repr

def Interval.Has (interval : Interval) (x : Nat) : Prop :=
  interval.first ≤ x ∧ x < interval.stop

/-- Some interval of the list has the number. -/
def Covered (intervals : List Interval) (x : Nat) : Prop :=
  ∃ interval ∈ intervals, interval.Has x

/-- The merge behind an interval that is still open at its end. -/
def mergeFrom (current : Interval) : List Interval → List Interval
  | [] => [current]
  | next :: rest =>
    if current.stop < next.first then current :: mergeFrom next rest
    else mergeFrom ⟨current.first, max current.stop next.stop⟩ rest

def merge : List Interval → List Interval
  | [] => []
  | first :: rest => mergeFrom first rest

/-- Two intervals with a number between them that neither has. -/
def Separated (left right : Interval) : Prop :=
  left.stop < right.first

theorem covered_cons {interval : Interval} {rest : List Interval} {x : Nat} :
    Covered (interval :: rest) x ↔ interval.Has x ∨ Covered rest x := by
  simp [Covered]

variable {current interval : Interval} {rest intervals : List Interval} {size : Nat}

section

variable (hfirst : ∀ next ∈ rest, current.first ≤ next.first)

include hfirst

section

variable (hsorted : rest.Pairwise fun left right => left.first ≤ right.first)

include hsorted

theorem covered_mergeFrom (x : Nat) :
    Covered (mergeFrom current rest) x ↔ Covered (current :: rest) x := by
  induction rest generalizing current with
  | nil => rfl
  | cons next rest ih =>
    rw [List.pairwise_cons] at hsorted
    unfold mergeFrom
    split
    · rw [covered_cons, ih hsorted.1 hsorted.2, @covered_cons _ (next :: rest)]
    · rename_i htouch
      have hnext := hfirst next List.mem_cons_self
      have hrest : ∀ other ∈ rest, current.first ≤ other.first := fun other hother =>
        le_trans hnext (hsorted.1 other hother)
      rw [@ih ⟨current.first, max current.stop next.stop⟩ hrest hsorted.2,
        covered_cons, covered_cons, covered_cons, ← or_assoc]
      have hjoined : Interval.Has ⟨current.first, max current.stop next.stop⟩ x ↔
          current.Has x ∨ next.Has x := by
        unfold Interval.Has
        dsimp only
        omega
      rw [hjoined]

theorem first_le_of_mem_mergeFrom (h : interval ∈ mergeFrom current rest) :
    current.first ≤ interval.first := by
  induction rest generalizing current with
  | nil =>
    rw [List.mem_singleton.1 h]
  | cons next rest ih =>
    rw [List.pairwise_cons] at hsorted
    have hnext := hfirst next List.mem_cons_self
    unfold mergeFrom at h
    split at h
    · rcases List.mem_cons.1 h with rfl | h
      · exact le_refl _
      · exact le_trans hnext (ih hsorted.1 hsorted.2 h)
    · refine @ih ⟨current.first, max current.stop next.stop⟩ ?_ hsorted.2 h
      intro other hother
      exact le_trans hnext (hsorted.1 other hother)

theorem separated_mergeFrom : (mergeFrom current rest).Pairwise Separated := by
  induction rest generalizing current with
  | nil => exact List.pairwise_singleton _ _
  | cons next rest ih =>
    rw [List.pairwise_cons] at hsorted
    unfold mergeFrom
    split
    · rename_i hgap
      rw [List.pairwise_cons]
      refine ⟨fun interval hmem => ?_, ih hsorted.1 hsorted.2⟩
      have hafter := first_le_of_mem_mergeFrom hsorted.1 hsorted.2 hmem
      exact lt_of_lt_of_le hgap hafter
    · refine @ih ⟨current.first, max current.stop next.stop⟩ ?_ hsorted.2
      intro other hother
      exact le_trans (hfirst next List.mem_cons_self) (hsorted.1 other hother)

end

end

section Merge

variable {intervals : List Interval}

theorem covered_merge (hsorted : intervals.Pairwise fun left right => left.first ≤ right.first)
    (x : Nat) : Covered (merge intervals) x ↔ Covered intervals x := by
  cases intervals with
  | nil => rfl
  | cons first rest =>
    rw [List.pairwise_cons] at hsorted
    exact covered_mergeFrom hsorted.1 hsorted.2 x

theorem separated_merge
    (hsorted : intervals.Pairwise fun left right => left.first ≤ right.first) :
    (merge intervals).Pairwise Separated := by
  cases intervals with
  | nil => exact List.Pairwise.nil
  | cons first rest =>
    rw [List.pairwise_cons] at hsorted
    exact separated_mergeFrom hsorted.1 hsorted.2

end Merge

/-- Merging only ever lengthens. -/
theorem length_le_of_mem_mergeFrom (hcurrent : current.first + size ≤ current.stop)
    (hrest : ∀ next ∈ rest, next.first + size ≤ next.stop) (h : interval ∈ mergeFrom current rest) :
    interval.first + size ≤ interval.stop := by
  induction rest generalizing current with
  | nil =>
    rw [List.mem_singleton.1 h]
    exact hcurrent
  | cons next rest ih =>
    have hnext := hrest next List.mem_cons_self
    have htail : ∀ other ∈ rest, other.first + size ≤ other.stop := fun other hother =>
      hrest other (List.mem_cons_of_mem _ hother)
    unfold mergeFrom at h
    split at h
    · rcases List.mem_cons.1 h with rfl | h
      · exact hcurrent
      · exact ih hnext htail h
    · refine @ih ⟨current.first, max current.stop next.stop⟩ ?_ htail h
      exact le_trans hcurrent (le_max_left _ _)

theorem length_le_of_mem_merge (hsize : ∀ next ∈ intervals, next.first + size ≤ next.stop)
    (h : interval ∈ merge intervals) : interval.first + size ≤ interval.stop := by
  cases intervals with
  | nil => cases h
  | cons first rest =>
    exact length_le_of_mem_mergeFrom (hsize first List.mem_cons_self)
      (fun next hnext => hsize next (List.mem_cons_of_mem _ hnext)) h

/-- Neighbours that are both covered are covered by one interval, where the intervals are
separated. -/
theorem same_of_separated (h : intervals.Pairwise Separated) {left right : Interval}
    (hleft : left ∈ intervals) (hright : right ∈ intervals) {x : Nat} (hx : left.Has x)
    (hnext : right.Has (x + 1)) : left = right := by
  unfold Interval.Has at hx hnext
  by_contra hne
  rcases List.pairwise_iff_getElem.1 h with hpair
  obtain ⟨i, hi, rfl⟩ := List.getElem_of_mem hleft
  obtain ⟨j, hj, rfl⟩ := List.getElem_of_mem hright
  rcases Nat.lt_trichotomy i j with hij | rfl | hij
  · have hgap := hpair i j hi hj hij
    unfold Separated at hgap
    omega
  · exact hne rfl
  · have hgap := hpair j i hj hi hij
    unfold Separated at hgap
    omega

theorem window_of_separated (h : intervals.Pairwise Separated) {start : Nat} (hsize : 0 < size) :
    (∀ index < size, Covered intervals (start + index)) ↔
      ∃ interval ∈ intervals, interval.first ≤ start ∧ start + size ≤ interval.stop := by
  constructor
  · intro hcovered
    obtain ⟨interval, hmem, hhas⟩ := hcovered 0 hsize
    refine ⟨interval, hmem, hhas.1, ?_⟩
    -- The interval of the first number has every further one of the window.
    have hall : ∀ index < size, interval.Has (start + index) := by
      intro index
      induction index with
      | zero => exact fun _ => hhas
      | succ index ih =>
        intro hindex
        have hprevious := ih (by omega)
        obtain ⟨other, hother, hnext⟩ := hcovered (index + 1) hindex
        have hsame := same_of_separated h hmem hother hprevious hnext
        exact hsame ▸ hnext
    have hlast := (hall (size - 1) (by omega)).2
    omega
  · rintro ⟨interval, hmem, hfirst, hstop⟩ index hindex
    exact ⟨interval, hmem, by omega, by omega⟩

/-! ## Ascending lists -/

section Ascending

variable {values : List Nat}

theorem length_filter_lt (h : values.Pairwise (· < ·)) {index value : Nat}
    (hget : values[index]? = some value) : (values.filter (· < value)).length = index := by
  induction values generalizing index with
  | nil => cases hget
  | cons first rest ih =>
    rw [List.pairwise_cons] at h
    cases index with
    | zero =>
      rw [List.getElem?_cons_zero, Option.some.injEq] at hget
      rw [← hget, List.filter_cons, if_neg (by simp), List.length_eq_zero_iff,
        List.filter_eq_nil_iff]
      intro other hother
      have := h.1 other hother
      simpa using this.le
    | succ index =>
      rw [List.getElem?_cons_succ] at hget
      have hless := h.1 value (List.mem_of_getElem? hget)
      rw [List.filter_cons, if_pos (by simpa using hless), List.length_cons, ih h.2 hget]

/-- Where the first entries are all selected, selecting leaves them where they are. -/
theorem getElem?_filter_of_all {p : Nat → Bool} {bound : Nat}
    (h : ∀ index < bound, ∀ value, values[index]? = some value → p value = true) :
    ∀ index < bound, (values.filter p)[index]? = values[index]? := by
  induction values generalizing bound with
  | nil => exact fun _ _ => rfl
  | cons first rest ih =>
    intro index hindex
    have hfirst : p first = true := h 0 (by omega) first rfl
    rw [List.filter_cons, if_pos hfirst]
    cases index with
    | zero => rfl
    | succ index =>
      rw [List.getElem?_cons_succ, List.getElem?_cons_succ]
      apply @ih (bound - 1) ?_ index (by omega)
      intro earlier hearlier value hget
      exact h (earlier + 1) (by omega) value hget

theorem getElem?_eq_some_iff_of_ascending (h : values.Pairwise (· < ·)) {index value : Nat} :
    values[index]? = some value ↔
      value ∈ values ∧ (values.filter (· < value)).length = index := by
  constructor
  · intro hget
    exact ⟨List.mem_of_getElem? hget, length_filter_lt h hget⟩
  · rintro ⟨hmem, rfl⟩
    obtain ⟨place, hplace, hget⟩ := List.getElem_of_mem hmem
    have hentry : values[place]? = some value := by
      rw [List.getElem?_eq_getElem hplace, hget]
    rw [length_filter_lt h hentry, hentry]

/-- Two ascending lists of which one has all the entries of the other agree up to a place
exactly if what the smaller one lacks stands behind that place. -/
theorem agree_until_iff {few : List Nat} (hvalues : values.Pairwise (· < ·))
    (hfew : few.Pairwise (· < ·)) (hsub : ∀ value ∈ few, value ∈ values) {bound : Nat} :
    (∀ index < bound, values[index]? = few[index]?) ↔
      ∀ value ∈ values, value ∉ few → bound ≤ (values.filter (· < value)).length := by
  constructor
  · intro hsame value hmem hlacks
    by_contra hbefore
    have hentry := (getElem?_eq_some_iff_of_ascending hvalues).2 ⟨hmem, rfl⟩
    rw [hsame _ (by omega)] at hentry
    exact hlacks (List.mem_of_getElem? hentry)
  · intro hlate
    have hfiltered : few = values.filter (· ∈ few) := by
      apply List.Pairwise.eq_of_mem_iff hfew (hvalues.filter _)
      intro value
      rw [List.mem_filter, decide_eq_true_eq]
      exact ⟨fun h => ⟨hsub value h, h⟩, fun h => h.2⟩
    rw [hfiltered]
    intro index hindex
    refine (getElem?_filter_of_all ?_ index hindex).symm
    intro earlier hearlier value hget
    rw [decide_eq_true_eq]
    by_contra hlacks
    have hplace := hlate value (List.mem_of_getElem? hget) hlacks
    rw [length_filter_lt hvalues hget] at hplace
    omega

end Ascending

end KeelS2.Lib
