import KeelS2.Compatibility.Resolution
import Mathlib.Algebra.Order.BigOperators.Group.List
import Mathlib.Algebra.Order.Group.Nat

/-!
# The regions that the host scans

A module is mapped in pieces, and neighbouring pieces are one region of memory. The host joins
them before it scans, but leaves out a piece that is shorter than the pattern before it joins.
So a match that needs a byte of such a piece is missed, and from there on the matches are
numbered differently: `scanCorrect_iff`.
-/

namespace KeelS2.Compatibility

open Lib

/-! ## Regions -/

/-- The address is mapped, readable and executable. -/
def Mapped (ranges : List MemoryRange) (x : Nat) : Prop :=
  ∃ range ∈ ranges, range.readable = true ∧ range.executable = true ∧ range.address ≤ x ∧
    x < range.address + range.size

instance (ranges : List MemoryRange) (x : Nat) : Decidable (Mapped ranges x) :=
  inferInstanceAs (Decidable (∃ range ∈ ranges, range.readable = true ∧
    range.executable = true ∧ range.address ≤ x ∧ x < range.address + range.size))

/-- All the bytes are mapped. -/
def InRegion (ranges : List MemoryRange) (size position : Nat) : Prop :=
  ∀ index < size, Mapped ranges (position + index)

instance (ranges : List MemoryRange) (size position : Nat) :
    Decidable (InRegion ranges size position) :=
  inferInstanceAs (Decidable (∀ index < size, Mapped ranges (position + index)))

section Regions

variable {ranges : List MemoryRange}

/-- An address behind every range. -/
def behind (ranges : List MemoryRange) : Nat :=
  (ranges.map fun range => range.address + range.size).sum

theorem lt_behind {x : Nat} (h : Mapped ranges x) : x < behind ranges := by
  obtain ⟨range, hrange, -, -, -, hlast⟩ := h
  refine Nat.lt_of_lt_of_le hlast ?_
  apply List.le_sum_of_mem
  exact List.mem_map.2 ⟨range, hrange, rfl⟩

end Regions

/-- A match that lies wholly inside a region. -/
def RegionMatch (memory : Nat → UInt8) (ranges : List MemoryRange)
    (pattern : List (Option UInt8)) (position : Nat) : Prop :=
  matchesAt memory pattern position = true ∧ InRegion ranges pattern.length position

instance (memory : Nat → UInt8) (ranges : List MemoryRange) (pattern : List (Option UInt8)) :
    DecidablePred (RegionMatch memory ranges pattern) := fun position =>
  inferInstanceAs (Decidable (matchesAt memory pattern position = true ∧
    InRegion ranges pattern.length position))

/-! ## Where the scan finds what the regions hold -/

/-- `ScanPattern` gives the only match of the regions, and for an occurrence number the match
with so many before it. -/
structure ScanCorrect (memory : Nat → UInt8) (ranges : List MemoryRange)
    (pattern : List (Option UInt8)) : Prop where
  only : ∀ position, scanPattern memory ranges pattern 0 = .ok position ↔
    RegionMatch memory ranges pattern position ∧
      ∀ other, RegionMatch memory ranges pattern other → other = position
  numbered : ∀ occurrence : UInt32, occurrence ≠ 0 → ∀ position,
    scanPattern memory ranges pattern occurrence = .ok position ↔
      RegionMatch memory ranges pattern position ∧
        Nat.count (RegionMatch memory ranges pattern) position + 1 = occurrence.toNat

section Scan

variable {memory : Nat → UInt8} {ranges : List MemoryRange} {pattern : List (Option UInt8)}

/-- The matches of the regions, in ascending order. -/
def regionMatches (memory : Nat → UInt8) (ranges : List MemoryRange)
    (pattern : List (Option UInt8)) : List Nat :=
  (List.range (behind ranges)).filter (RegionMatch memory ranges pattern)

theorem mem_regionMatches (hpattern : pattern ≠ []) {position : Nat} :
    position ∈ regionMatches memory ranges pattern ↔
      RegionMatch memory ranges pattern position := by
  unfold regionMatches
  rw [List.mem_filter, List.mem_range, decide_eq_true_eq]
  constructor
  · exact fun h => h.2
  · intro h
    have hfirst := h.2 0 (List.length_pos_iff.2 hpattern)
    exact ⟨lt_behind hfirst, h⟩

theorem pairwise_regionMatches (memory : Nat → UInt8) (ranges : List MemoryRange)
    (pattern : List (Option UInt8)) :
    (regionMatches memory ranges pattern).Pairwise (· < ·) :=
  List.pairwise_lt_range.filter _

/-- How many matches of the regions stand before a position. -/
theorem length_regionMatches_before (hpattern : pattern ≠ []) (position : Nat) :
    ((regionMatches memory ranges pattern).filter (· < position)).length
      = Nat.count (RegionMatch memory ranges pattern) position := by
  have hlists : (regionMatches memory ranges pattern).filter (· < position)
      = (List.range position).filter (RegionMatch memory ranges pattern) := by
    apply List.Pairwise.eq_of_mem_iff (r := (· < ·))
    · exact (pairwise_regionMatches memory ranges pattern).filter _
    · exact List.pairwise_lt_range.filter _
    · intro other
      rw [List.mem_filter, List.mem_filter, mem_regionMatches hpattern, List.mem_range,
        decide_eq_true_eq, decide_eq_true_eq, and_comm]
  rw [hlists, Nat.count, List.countP_eq_length_filter]

theorem regionMatches_eq_singleton (hpattern : pattern ≠ []) {position : Nat} :
    regionMatches memory ranges pattern = [position] ↔
      RegionMatch memory ranges pattern position ∧
        ∀ other, RegionMatch memory ranges pattern other → other = position := by
  simp only [← mem_regionMatches hpattern]
  constructor
  · intro h
    rw [h]
    exact ⟨List.mem_singleton_self _, fun other hother => List.mem_singleton.1 hother⟩
  · rintro ⟨hmem, honly⟩
    apply List.Pairwise.eq_of_mem_iff (pairwise_regionMatches memory ranges pattern)
      (List.pairwise_singleton _ _)
    intro other
    rw [List.mem_singleton]
    exact ⟨honly other, fun h => h ▸ hmem⟩

theorem scanCorrect_iff_selected (hpattern : pattern ≠ []) :
    ScanCorrect memory ranges pattern ↔
      ∀ (occurrence : UInt32) position,
        countMatches occurrence (hostMatches memory ranges pattern) 0 0 = .ok position ↔
          selectMatch (regionMatches memory ranges pattern) occurrence.toNat = .ok position := by
  have hzero : ∀ position, selectMatch (regionMatches memory ranges pattern) 0 = .ok position ↔
      RegionMatch memory ranges pattern position ∧
        ∀ other, RegionMatch memory ranges pattern other → other = position := fun position =>
    selectMatch_zero.trans (regionMatches_eq_singleton hpattern)
  have hnumbered : ∀ occurrence : UInt32, occurrence ≠ 0 → ∀ position,
      selectMatch (regionMatches memory ranges pattern) occurrence.toNat = .ok position ↔
        RegionMatch memory ranges pattern position ∧
          Nat.count (RegionMatch memory ranges pattern) position + 1 = occurrence.toNat := by
    intro occurrence hne position
    have hnat : occurrence.toNat ≠ 0 := fun heq => hne (UInt32.toNat_inj.1 heq)
    rw [selectMatch_pos hnat,
      getElem?_eq_some_iff_of_ascending (pairwise_regionMatches memory ranges pattern),
      mem_regionMatches hpattern, length_regionMatches_before hpattern]
    apply and_congr_right
    intro _
    omega
  constructor
  · rintro ⟨honly, hcount⟩ occurrence position
    by_cases hoccurrence : occurrence = 0
    · rw [hoccurrence]
      exact (honly position).trans (hzero position).symm
    · exact (hcount occurrence hoccurrence position).trans
        (hnumbered occurrence hoccurrence position).symm
  · intro h
    refine ⟨fun position => ?_, fun occurrence hoccurrence position => ?_⟩
    · exact (h 0 position).trans (hzero position)
    · exact (h occurrence position).trans (hnumbered occurrence hoccurrence position)

theorem regionMatch_of_mem_hostMatches (hpattern : pattern ≠ []) {position : Nat}
    (h : position ∈ hostMatches memory ranges pattern) :
    RegionMatch memory ranges pattern position := by
  rw [mem_hostMatches hpattern] at h
  refine ⟨h.1, fun index hindex => ?_⟩
  obtain ⟨range, hrange, hscanned, hlow, hhigh⟩ := h.2 index hindex
  exact ⟨range, hrange, hscanned.1, hscanned.2.1, hlow, hhigh⟩

/-- **Where the scan keeps to the regions.** For a pattern of at least one byte, `ScanPattern`
finds what the regions of the module hold exactly if every match with a byte in none of the
ranges that are as long as the pattern has at least `2 ^ 32 - 1` matches before it, and so
cannot be asked for. -/
theorem scanCorrect_iff (memory : Nat → UInt8) (ranges : List MemoryRange)
    (pattern : List (Option UInt8)) (hpattern : pattern ≠ []) :
    ScanCorrect memory ranges pattern ↔
      ∀ position, RegionMatch memory ranges pattern position →
        ¬ JoinedMemory ranges pattern.length position →
        2 ^ 32 - 1 ≤ Nat.count (RegionMatch memory ranges pattern) position := by
  have hplaces : (∀ index < 2 ^ 32 - 1, (hostMatches memory ranges pattern)[index]?
        = (regionMatches memory ranges pattern)[index]?) ↔
      ∀ index < 2 ^ 32 - 1, (regionMatches memory ranges pattern)[index]?
        = (hostMatches memory ranges pattern)[index]? :=
    forall_congr' fun _ => forall_congr' fun _ => eq_comm
  rw [scanCorrect_iff_selected hpattern, selected_iff_getElem?, hplaces,
    agree_until_iff (pairwise_regionMatches memory ranges pattern) (pairwise_hostMatches hpattern)
      fun position h => (mem_regionMatches hpattern).2 (regionMatch_of_mem_hostMatches hpattern h)]
  simp only [mem_regionMatches hpattern, length_regionMatches_before hpattern,
    mem_hostMatches hpattern]
  constructor
  · intro h position hmatch hlacks
    exact h position hmatch fun hfound => hlacks hfound.2
  · intro h position hmatch hlacks
    exact h position hmatch fun hjoined => hlacks ⟨hmatch.1, hjoined⟩

end Scan

/-- A pattern across two pieces, each of one byte, is not found. -/
theorem short_pieces_missed :
    ¬ ∀ (memory : Nat → UInt8) (ranges : List MemoryRange) (pattern : List (Option UInt8)),
      pattern ≠ [] → ScanCorrect memory ranges pattern := by
  intro h
  have hcorrect := h seamMemory [⟨1, 1, true, true⟩, ⟨2, 1, true, true⟩] [some 0x90, some 0xc3]
    (by decide)
  have hfound : RegionMatch seamMemory [⟨1, 1, true, true⟩, ⟨2, 1, true, true⟩]
      [some 0x90, some 0xc3] 1 := by
    decide
  have hmissed : scanPattern seamMemory [⟨1, 1, true, true⟩, ⟨2, 1, true, true⟩]
      [some 0x90, some 0xc3] 1 = .error .notFound := by
    decide
  have hgiven := (hcorrect.numbered 1 (by decide) 1).2 ⟨hfound, by decide⟩
  rw [hmissed] at hgiven
  cases hgiven

/-- Over pieces that are long enough the seam is found. -/
theorem long_pieces_found : ScanCorrect seamMemory [⟨0, 2, true, true⟩, ⟨2, 2, true, true⟩]
    [some 0x90, some 0xc3] := by
  refine (scanCorrect_iff seamMemory [⟨0, 2, true, true⟩, ⟨2, 2, true, true⟩]
    [some 0x90, some 0xc3] (by decide)).2 ?_
  intro position hmatch hlacks
  refine absurd (fun index hindex => ?_) hlacks
  obtain ⟨range, hrange, hreadable, hexecutable, hlow, hhigh⟩ := hmatch.2 index hindex
  have hlong : ∀ range ∈ [(⟨0, 2, true, true⟩ : MemoryRange), ⟨2, 2, true, true⟩],
      Scanned 2 range := by
    decide
  exact ⟨range, hrange, hlong range hrange, hlow, hhigh⟩

end KeelS2.Compatibility
