import KeelS2.Compatibility.Images
import KeelS2.Lib.Intervals
import Mathlib.Data.Nat.Count

/-!
# Where the host and the review tool resolve a pattern

The host scans the memory of a loaded module, and joins executable ranges that overlap or
touch before it scans them. The review tool scans the ranges of the file one by one. So the
host also finds a match that lies across several ranges, which the tool does not, and from
there on the two number the matches differently. `scanners_agree_iff` says that this is the
only difference.
-/

namespace KeelS2.Compatibility

open Lib

/-! ## The scanner of the host -/

/-- A range of `platform::LoadedModule`. -/
structure MemoryRange where
  address : Nat
  size : Nat
  readable : Bool
  executable : Bool
  deriving DecidableEq, Repr

/-- The ranges that `ScanPattern` keeps, as where they begin and end. -/
def scanRanges (patternSize : Nat) (ranges : List MemoryRange) : List Interval :=
  ranges.filterMap fun range =>
    if ¬ range.readable ∨ ¬ range.executable ∨ range.size < patternSize then none
    else if 2 ^ 64 - 1 - range.address < range.size then none
    else some ⟨range.address, range.address + range.size⟩

/-- The positions of one merged range that match. -/
def scanInterval (memory : Nat → UInt8) (pattern : List (Option UInt8)) (range : Interval) :
    List Nat :=
  ((List.range (range.stop - range.first - pattern.length + 1)).map (range.first + ·)).filter
    (matchesAt memory pattern)

/-- The positions that match, in the order `ScanPattern` comes to them. -/
def hostMatches (memory : Nat → UInt8) (ranges : List MemoryRange)
    (pattern : List (Option UInt8)) : List Nat :=
  (merge (sortBy Interval.first (scanRanges pattern.length ranges))).flatMap
    (scanInterval memory pattern)

/-- What `ScanPattern` does at each match, with its counter, and at the end. -/
def countMatches (occurrence : UInt32) : List Nat → UInt32 → Nat → Except KeelResult Nat
  | [], counted, selected =>
    if occurrence = 0 ∧ counted = 1 then .ok selected else .error .notFound
  | position :: rest, counted, selected =>
    if occurrence = 0 then
      if 1 < counted + 1 then .error .ambiguous
      else countMatches occurrence rest (counted + 1) position
    else if counted + 1 = occurrence then .ok position
    else countMatches occurrence rest (counted + 1) selected

def scanPattern (memory : Nat → UInt8) (ranges : List MemoryRange)
    (pattern : List (Option UInt8)) (occurrence : UInt32) : Except KeelResult Nat :=
  countMatches occurrence (hostMatches memory ranges pattern) 0 0

/-! ## What the host finds -/

/-- A range that the host scans: a match has to fit it. -/
def Scanned (size : Nat) (range : MemoryRange) : Prop :=
  range.readable = true ∧ range.executable = true ∧ size ≤ range.size ∧
    range.size ≤ 2 ^ 64 - 1 - range.address

instance (size : Nat) (range : MemoryRange) : Decidable (Scanned size range) :=
  inferInstanceAs (Decidable (range.readable = true ∧ range.executable = true ∧
    size ≤ range.size ∧ range.size ≤ 2 ^ 64 - 1 - range.address))

/-- Each byte from `position` on lies in some range that the host scans. -/
def JoinedMemory (ranges : List MemoryRange) (size position : Nat) : Prop :=
  ∀ index < size, ∃ range ∈ ranges, Scanned size range ∧ range.address ≤ position + index ∧
    position + index < range.address + range.size

section Memory

variable {memory : Nat → UInt8} {ranges : List MemoryRange} {pattern : List (Option UInt8)}

variable {size : Nat} {interval : Interval}

theorem mem_scanRanges :
    interval ∈ scanRanges size ranges ↔
      ∃ range ∈ ranges, Scanned size range ∧
        interval = ⟨range.address, range.address + range.size⟩ := by
  simp only [scanRanges, List.mem_filterMap]
  constructor
  · rintro ⟨range, hrange, hkept⟩
    split at hkept
    · cases hkept
    · rename_i hflags
      simp only [not_or, Decidable.not_not, Nat.not_lt] at hflags
      split at hkept
      · cases hkept
      · cases hkept
        exact ⟨range, hrange, ⟨hflags.1, hflags.2.1, hflags.2.2, by omega⟩, rfl⟩
  · rintro ⟨range, hrange, ⟨hreadable, hexecutable, hsize, hfits⟩, rfl⟩
    refine ⟨range, hrange, ?_⟩
    rw [if_neg (by simp [hreadable, hexecutable, hsize]), if_neg (by omega)]

/-- The merged ranges the host walks. -/
def mergedMemory (ranges : List MemoryRange) (size : Nat) : List Interval :=
  merge (sortBy Interval.first (scanRanges size ranges))

theorem separated_mergedMemory (ranges : List MemoryRange) (size : Nat) :
    (mergedMemory ranges size).Pairwise Separated :=
  separated_merge (sorted_sortBy Interval.first _)

theorem covered_mergedMemory {x : Nat} :
    Covered (mergedMemory ranges size) x ↔
      ∃ range ∈ ranges, Scanned size range ∧ range.address ≤ x ∧
        x < range.address + range.size := by
  unfold mergedMemory
  rw [covered_merge (sorted_sortBy Interval.first _)]
  unfold Covered
  constructor
  · rintro ⟨interval, hmem, hhas⟩
    rw [(perm_sortBy Interval.first _).mem_iff, mem_scanRanges] at hmem
    obtain ⟨range, hrange, hscanned, rfl⟩ := hmem
    exact ⟨range, hrange, hscanned, hhas.1, hhas.2⟩
  · rintro ⟨range, hrange, hscanned, hlow, hhigh⟩
    refine ⟨⟨range.address, range.address + range.size⟩, ?_, hlow, hhigh⟩
    rw [(perm_sortBy Interval.first _).mem_iff, mem_scanRanges]
    exact ⟨range, hrange, hscanned, rfl⟩

theorem length_le_mergedMemory (h : interval ∈ mergedMemory ranges size) :
    interval.first + size ≤ interval.stop := by
  apply length_le_of_mem_merge ?_ h
  intro next hnext
  rw [(perm_sortBy Interval.first _).mem_iff, mem_scanRanges] at hnext
  obtain ⟨range, -, hscanned, rfl⟩ := hnext
  have hsize := hscanned.2.2.1
  dsimp only
  omega

theorem mem_scanInterval (hsize : interval.first + pattern.length ≤ interval.stop) {position : Nat} :
    position ∈ scanInterval memory pattern interval ↔
      interval.first ≤ position ∧ position + pattern.length ≤ interval.stop ∧
      matchesAt memory pattern position = true := by
  simp only [scanInterval, List.mem_filter, List.mem_map, List.mem_range]
  constructor
  · rintro ⟨⟨index, hindex, rfl⟩, hmatch⟩
    exact ⟨by omega, by omega, hmatch⟩
  · rintro ⟨hlow, hhigh, hmatch⟩
    exact ⟨⟨position - interval.first, by omega, by omega⟩, hmatch⟩

theorem mem_hostMatches (hpattern : pattern ≠ []) {position : Nat} :
    position ∈ hostMatches memory ranges pattern ↔
      matchesAt memory pattern position = true ∧
        JoinedMemory ranges pattern.length position := by
  have hsize : 0 < pattern.length := List.length_pos_iff.2 hpattern
  have hwindow : (∃ interval ∈ mergedMemory ranges pattern.length,
      interval.first ≤ position ∧ position + pattern.length ≤ interval.stop) ↔
      JoinedMemory ranges pattern.length position := by
    rw [← window_of_separated (separated_mergedMemory _ _) hsize]
    unfold JoinedMemory
    simp only [covered_mergedMemory]
  rw [← hwindow]
  show position ∈ (mergedMemory ranges pattern.length).flatMap _ ↔ _
  rw [List.mem_flatMap]
  constructor
  · rintro ⟨interval, hinterval, hmem⟩
    rw [mem_scanInterval (length_le_mergedMemory hinterval)] at hmem
    exact ⟨hmem.2.2, interval, hinterval, hmem.1, hmem.2.1⟩
  · rintro ⟨hmatch, interval, hinterval, hlow, hhigh⟩
    refine ⟨interval, hinterval, ?_⟩
    rw [mem_scanInterval (length_le_mergedMemory hinterval)]
    exact ⟨hlow, hhigh, hmatch⟩

theorem pairwise_hostMatches (hpattern : pattern ≠ []) :
    (hostMatches memory ranges pattern).Pairwise (· < ·) := by
  have hsize : 0 < pattern.length := List.length_pos_iff.2 hpattern
  show ((mergedMemory ranges pattern.length).flatMap _).Pairwise _
  rw [List.pairwise_flatMap]
  constructor
  · intro interval _
    unfold scanInterval
    apply List.Pairwise.filter
    rw [List.pairwise_map]
    exact List.pairwise_lt_range.imp fun hlt => by omega
  · refine (separated_mergedMemory ranges pattern.length).imp_of_mem ?_
    intro left right hleft hright hgap x hx y hy
    rw [mem_scanInterval (length_le_mergedMemory hleft)] at hx
    rw [mem_scanInterval (length_le_mergedMemory hright)] at hy
    unfold Separated at hgap
    omega

end Memory

/-! ## What the host finds in the ranges of the review tool -/

/-- The same ranges for the host, all of them readable and executable. -/
def hostRanges (ranges : List Range) : List MemoryRange :=
  ranges.map fun range => ⟨range.offset, range.size, true, true⟩

/-- Each byte from `position` on lies in some range that is long enough to be scanned. -/
def Joined (ranges : List Range) (size position : Nat) : Prop :=
  ∀ index < size, ∃ range ∈ ranges, size ≤ range.size ∧ range.offset ≤ position + index ∧
    position + index < range.offset + range.size

/-- All the bytes lie in one range. -/
def Inside (ranges : List Range) (size position : Nat) : Prop :=
  ∃ range ∈ ranges, range.offset ≤ position ∧ position + size ≤ range.offset + range.size

/-- A match in the joined ranges. -/
def HostMatch (memory : Nat → UInt8) (ranges : List Range) (pattern : List (Option UInt8))
    (position : Nat) : Prop :=
  matchesAt memory pattern position = true ∧ Joined ranges pattern.length position

/-- A match that lies across several ranges, inside none. -/
def Spanning (memory : Nat → UInt8) (ranges : List Range) (pattern : List (Option UInt8))
    (position : Nat) : Prop :=
  HostMatch memory ranges pattern position ∧ ¬ Inside ranges pattern.length position

instance (ranges : List Range) (size position : Nat) : Decidable (Joined ranges size position) :=
  inferInstanceAs (Decidable (∀ index < size, ∃ range ∈ ranges, size ≤ range.size ∧
    range.offset ≤ position + index ∧ position + index < range.offset + range.size))

instance (memory : Nat → UInt8) (ranges : List Range) (pattern : List (Option UInt8)) :
    DecidablePred (HostMatch memory ranges pattern) := fun position =>
  inferInstanceAs (Decidable (matchesAt memory pattern position = true ∧
    Joined ranges pattern.length position))

section Host

variable {memory : Nat → UInt8} {ranges : List Range} {pattern : List (Option UInt8)}

theorem joinedMemory_hostRanges
    (hbounds : ∀ range ∈ ranges, range.offset + range.size < 2 ^ 64) {size position : Nat} :
    JoinedMemory (hostRanges ranges) size position ↔ Joined ranges size position := by
  unfold JoinedMemory Joined hostRanges
  simp only [List.mem_map]
  constructor
  · intro h index hindex
    obtain ⟨_, ⟨range, hrange, rfl⟩, hscanned, hlow, hhigh⟩ := h index hindex
    exact ⟨range, hrange, hscanned.2.2.1, hlow, hhigh⟩
  · intro h index hindex
    obtain ⟨range, hrange, hsize, hlow, hhigh⟩ := h index hindex
    have hfits := hbounds range hrange
    exact ⟨_, ⟨range, hrange, rfl⟩, ⟨rfl, rfl, hsize, by dsimp only; omega⟩, hlow, hhigh⟩

theorem mem_hostMatches_hostRanges
    (hbounds : ∀ range ∈ ranges, range.offset + range.size < 2 ^ 64) (hpattern : pattern ≠ [])
    {position : Nat} :
    position ∈ hostMatches memory (hostRanges ranges) pattern ↔
      HostMatch memory ranges pattern position := by
  rw [mem_hostMatches hpattern, joinedMemory_hostRanges hbounds]
  rfl

end Host

/-! ## Which match is selected -/

variable {found : List Nat} {position : Nat}

theorem selectMatch_zero : selectMatch found 0 = .ok position ↔ found = [position] := by
  cases found with
  | nil => simp [selectMatch]
  | cons first rest => cases rest <;> simp [selectMatch]

theorem selectMatch_pos {occurrence : Nat} (h : occurrence ≠ 0) :
    selectMatch found occurrence = .ok position ↔ found[occurrence - 1]? = some position := by
  cases found with
  | nil => simp [selectMatch]
  | cons first rest =>
    simp only [selectMatch, if_neg h]
    cases (first :: rest)[occurrence - 1]? <;> simp

theorem countMatches_zero : countMatches 0 found 0 0 = .ok position ↔ found = [position] := by
  cases found with
  | nil => simp [countMatches]
  | cons first rest => cases rest <;> simp [countMatches]

theorem countMatches_ambiguous :
    countMatches 0 found 0 0 = .error .ambiguous ↔ 1 < found.length := by
  cases found with
  | nil => simp [countMatches]
  | cons first rest => cases rest <;> simp [countMatches]

/-- The counter has not wrapped by the time it reaches an occurrence number. -/
theorem countMatches_pos {occurrence : UInt32} (h : occurrence ≠ 0) {counted : UInt32}
    (hcounted : counted.toNat < occurrence.toNat) {selected : Nat} :
    countMatches occurrence found counted selected = .ok position ↔
      found[occurrence.toNat - counted.toNat - 1]? = some position := by
  induction found generalizing counted selected with
  | nil => simp [countMatches, h]
  | cons first rest ih =>
    have hbound := occurrence.toNat_lt
    have hnext : (counted + 1).toNat = counted.toNat + 1 := by
      rw [UInt32.toNat_add]
      apply Nat.mod_eq_of_lt
      show counted.toNat + 1 < 2 ^ 32
      omega
    rw [countMatches, if_neg h]
    split
    · rename_i hreached
      have hzero : occurrence.toNat - counted.toNat - 1 = 0 := by
        rw [← hreached, hnext]
        omega
      simp [hzero]
    · rename_i hbelow
      have hne : counted.toNat + 1 ≠ occurrence.toNat := by
        intro heq
        exact hbelow (UInt32.toNat_inj.1 (hnext.trans heq))
      rw [ih (by omega), hnext]
      have hindex : occurrence.toNat - counted.toNat - 1
          = (occurrence.toNat - (counted.toNat + 1) - 1) + 1 := by omega
      rw [hindex, List.getElem?_cons_succ]

/-! ## Where the two agree -/

/-- The two resolve the pattern alike for every occurrence number, and call it ambiguous
alike. -/
structure ScannersAgree (memory : Nat → UInt8) (ranges : List Range)
    (pattern : List (Option UInt8)) : Prop where
  selected : ∀ (occurrence : UInt32) position,
    scanPattern memory (hostRanges ranges) pattern occurrence = .ok position ↔
      selectMatch (scan memory ranges pattern) occurrence.toNat = .ok position
  ambiguous : scanPattern memory (hostRanges ranges) pattern 0 = .error .ambiguous ↔
    1 < (scan memory ranges pattern).length

/-- Two lists of matches are told apart by some occurrence number or by none: what counts is
the entries that such a number can name. -/
theorem selected_iff_getElem? {host tool : List Nat} :
    (∀ (occurrence : UInt32) position, countMatches occurrence host 0 0 = .ok position ↔
      selectMatch tool occurrence.toNat = .ok position) ↔
    ∀ index < 2 ^ 32 - 1, host[index]? = tool[index]? := by
  constructor
  · intro hselected index hindex
    have hnat : (UInt32.ofNat (index + 1)).toNat = index + 1 :=
      UInt32.toNat_ofNat_of_lt' (by show index + 1 < 2 ^ 32; omega)
    have hne : UInt32.ofNat (index + 1) ≠ 0 := by
      intro hzero
      rw [hzero] at hnat
      exact absurd hnat (by simp)
    apply Option.ext
    intro position
    have hcounted : (0 : UInt32).toNat < (UInt32.ofNat (index + 1)).toNat := by
      rw [hnat]
      exact Nat.succ_pos index
    have hagree := hselected (UInt32.ofNat (index + 1)) position
    rw [countMatches_pos hne hcounted, selectMatch_pos (by omega), hnat] at hagree
    simpa using hagree
  · intro hentries
    have hzero := hentries 0 (by decide)
    have hone := hentries 1 (by decide)
    have hsingle : ∀ position, host = [position] ↔ tool = [position] := by
      intro position
      cases host with
      | nil =>
        cases tool with
        | nil => rfl
        | cons _ _ => cases hzero
      | cons first rest =>
        cases tool with
        | nil => cases hzero
        | cons other others =>
          cases hzero
          cases rest with
          | nil =>
            cases others with
            | nil => rfl
            | cons _ _ => cases hone
          | cons _ _ =>
            cases others with
            | nil => cases hone
            | cons _ _ => simp
    intro occurrence position
    by_cases hoccurrence : occurrence = 0
    · rw [hoccurrence]
      exact countMatches_zero.trans ((hsingle position).trans selectMatch_zero.symm)
    · have hnat : occurrence.toNat ≠ 0 := by
        intro heq
        exact hoccurrence (UInt32.toNat_inj.1 heq)
      have hbound := occurrence.toNat_lt
      have hpositive : (0 : UInt32).toNat < occurrence.toNat := by
        show 0 < occurrence.toNat
        omega
      rw [countMatches_pos hoccurrence hpositive, selectMatch_pos hnat]
      have hentry := hentries (occurrence.toNat - 1) (by omega)
      simp only [UInt32.toNat_zero, Nat.sub_zero]
      rw [hentry]

theorem agree_iff_getElem? {host tool : List Nat} :
    ((∀ (occurrence : UInt32) position, countMatches occurrence host 0 0 = .ok position ↔
        selectMatch tool occurrence.toNat = .ok position) ∧
      (countMatches 0 host 0 0 = .error .ambiguous ↔ 1 < tool.length)) ↔
    ∀ index < 2 ^ 32 - 1, host[index]? = tool[index]? := by
  rw [selected_iff_getElem?]
  constructor
  · exact fun h => h.1
  · intro hentries
    have hfew : host.length ≤ 1 ↔ tool.length ≤ 1 := by
      rw [← List.getElem?_eq_none_iff, ← List.getElem?_eq_none_iff, hentries 1 (by decide)]
    refine ⟨hentries, countMatches_ambiguous.trans ?_⟩
    omega

section Agreement

variable {memory : Nat → UInt8} {ranges : List Range} {pattern : List (Option UInt8)}

theorem mem_scan_iff (hbounds : ∀ range ∈ ranges, range.offset + range.size < 2 ^ 64)
    (hpattern : pattern ≠ []) {position : Nat} :
    position ∈ scan memory ranges pattern ↔
      position ∈ hostMatches memory (hostRanges ranges) pattern ∧
      Inside ranges pattern.length position := by
  rw [mem_scan, mem_hostMatches_hostRanges hbounds hpattern]
  unfold HostMatch Inside
  constructor
  · rintro ⟨hmatch, range, hrange, hlow, hhigh⟩
    refine ⟨⟨hmatch, fun index hindex => ?_⟩, range, hrange, hlow, hhigh⟩
    exact ⟨range, hrange, by omega, by omega, by omega⟩
  · rintro ⟨⟨hmatch, -⟩, hinside⟩
    exact ⟨hmatch, hinside⟩

/-- How many matches the host comes to before a position. -/
theorem length_hostMatches_before
    (hbounds : ∀ range ∈ ranges, range.offset + range.size < 2 ^ 64) (hpattern : pattern ≠ [])
    (position : Nat) :
    ((hostMatches memory (hostRanges ranges) pattern).filter (· < position)).length
      = Nat.count (HostMatch memory ranges pattern) position := by
  have hlists : (hostMatches memory (hostRanges ranges) pattern).filter (· < position)
      = (List.range position).filter (HostMatch memory ranges pattern) := by
    apply List.Pairwise.eq_of_mem_iff (r := (· < ·))
    · exact (pairwise_hostMatches hpattern).filter _
    · exact List.pairwise_lt_range.filter _
    · intro other
      rw [List.mem_filter, List.mem_filter, mem_hostMatches_hostRanges hbounds hpattern,
        List.mem_range,
        decide_eq_true_eq, decide_eq_true_eq, and_comm]
  rw [hlists, Nat.count, List.countP_eq_length_filter]

/-- **Where the host and the review tool agree.** For executable ranges that fit the address
space and a pattern that asks for at least one byte: the two resolve every occurrence number
alike exactly when each match that spans several ranges has at least `2 ^ 32 - 1` others
before it, and so cannot be named. -/
theorem scanners_agree_iff (memory : Nat → UInt8) (ranges : List Range)
    (pattern : List (Option UInt8))
    (hbounds : ∀ range ∈ ranges, range.offset + range.size < 2 ^ 64) (hpattern : pattern ≠ []) :
    ScannersAgree memory ranges pattern ↔
      ∀ position, Spanning memory ranges pattern position →
        2 ^ 32 - 1 ≤ Nat.count (HostMatch memory ranges pattern) position := by
  have hascending := @pairwise_hostMatches memory (hostRanges ranges) _ hpattern
  have hentries : ScannersAgree memory ranges pattern ↔
      ∀ index < 2 ^ 32 - 1, (hostMatches memory (hostRanges ranges) pattern)[index]?
        = (scan memory ranges pattern)[index]? := by
    rw [← agree_iff_getElem?]
    exact ⟨fun h => ⟨h.selected, h.ambiguous⟩, fun h => ⟨h.1, h.2⟩⟩
  rw [hentries, agree_until_iff hascending (pairwise_scan memory ranges pattern)
    fun position h => ((mem_scan_iff hbounds hpattern).1 h).1]
  simp only [length_hostMatches_before hbounds hpattern, mem_scan_iff hbounds hpattern,
    mem_hostMatches_hostRanges hbounds hpattern]
  constructor
  · rintro hlate position ⟨hmatch, houtside⟩
    exact hlate position hmatch fun h => houtside h.2
  · intro hlate position hmatch hlacks
    exact hlate position ⟨hmatch, fun hinside => hlacks ⟨hmatch, hinside⟩⟩

end Agreement

/-- Two bytes at the seam of two ranges that touch. -/
def seamMemory (address : Nat) : UInt8 :=
  if address = 1 then 0x90 else if address = 2 then 0xc3 else 0

/-- The host finds the pattern at the seam, where the tool finds nothing. -/
theorem seam_found_by_host_only :
    scanPattern seamMemory (hostRanges [⟨0, 2⟩, ⟨2, 2⟩]) [some 0x90, some 0xc3] 0 = .ok 1 ∧
      scan seamMemory [⟨0, 2⟩, ⟨2, 2⟩] [some 0x90, some 0xc3] = [] ∧
      ¬ ScannersAgree seamMemory [⟨0, 2⟩, ⟨2, 2⟩] [some 0x90, some 0xc3] := by
  have hhost : scanPattern seamMemory (hostRanges [⟨0, 2⟩, ⟨2, 2⟩]) [some 0x90, some 0xc3] 0
      = .ok 1 := by
    decide
  have htool : scan seamMemory [⟨0, 2⟩, ⟨2, 2⟩] [some 0x90, some 0xc3] = [] := by
    decide
  refine ⟨hhost, htool, fun hagree => ?_⟩
  have hselected := (hagree.selected 0 1).1 hhost
  rw [htool] at hselected
  cases hselected

/-- Over one range there is no such match, and the two agree. -/
theorem one_range_agrees : ScannersAgree seamMemory [⟨0, 4⟩] [some 0x90, some 0xc3] := by
  refine (scanners_agree_iff seamMemory [⟨0, 4⟩] [some 0x90, some 0xc3] (by decide)
    (by decide)).2 ?_
  intro position hspanning
  obtain ⟨range, hrange, -, -, hlast⟩ := hspanning.1.2 1 (by decide)
  rw [List.mem_singleton.1 hrange] at hlast
  exact absurd ⟨⟨0, 4⟩, List.mem_cons_self, Nat.zero_le _, hlast⟩ hspanning.2

end KeelS2.Compatibility
