import KeelS2.Platform.LoadedModules
import Mathlib.Data.List.Nodup

/-!
# What the search finds

Each loop of the search in terms of the memory: it reads bytes of readable ranges only, and what
it finds is said by `Candidate`. The answer depends on the candidates alone.
-/

namespace KeelS2.Platform

open Lib Lib.ByteMemory LoadedModule

/-! ## Reading -/

namespace ModuleMemoryRange

variable {range : ModuleMemoryRange} {address size : Nat}

theorem containsSpan_iff :
    range.containsSpan address size = true ↔
      range.address ≤ address ∧ address + size ≤ range.address + range.size := by
  unfold containsSpan
  rw [Bool.and_eq_true, Bool.and_eq_true, decide_eq_true_eq, decide_eq_true_eq, decide_eq_true_eq]
  omega

variable (range) in
/-- The bytes are in the range, and it is searched. -/
structure Spans (address size : Nat) : Prop where
  readable : range.readable = true
  executable : range.executable = false
  starts : range.address ≤ address
  ends : address + size ≤ range.address + range.size

end ModuleMemoryRange

namespace LoadedModule

variable {module : LoadedModule} {memory : Memory} {address size : Nat}

variable (module) in
/-- The bytes are in one readable range. -/
def Readable (address size : Nat) : Prop :=
  ∃ range ∈ module.ranges, range.readable = true ∧ range.address ≤ address ∧
    address + size ≤ range.address + range.size

variable (module) in
/-- They are in one that is searched. -/
def Searchable (address size : Nat) : Prop :=
  ∃ range ∈ module.ranges, range.Spans address size

theorem Searchable.readable (h : module.Searchable address size) :
    module.Readable address size := by
  obtain ⟨range, hmem, hspans⟩ := h
  exact ⟨range, hmem, hspans.readable, hspans.starts, hspans.ends⟩

theorem Readable.part (h : module.Readable address size) {place part : Nat}
    (hfirst : address ≤ place) (hlast : place + part ≤ address + size) :
    module.Readable place part := by
  obtain ⟨range, hmem, hreadable, hstart, hend⟩ := h
  exact ⟨range, hmem, hreadable, by omega, by omega⟩

theorem readableRange_isSome :
    (module.readableRange address size).isSome = true ↔ module.Readable address size := by
  unfold readableRange Readable
  rw [List.find?_isSome]
  simp only [Bool.and_eq_true, ModuleMemoryRange.containsSpan_iff]

theorem readableRange_isNone :
    (module.readableRange address size).isNone = true ↔ ¬ module.Readable address size := by
  rw [← readableRange_isSome, Bool.not_eq_true, Option.isSome_eq_false_iff]

theorem readByte_eq (h : module.Readable address 1) :
    module.readByte memory address = some (memory address) := by
  unfold readByte
  rw [if_pos (readableRange_isSome.mpr h)]

theorem readBytes_succ (memory : Memory) (address size : Nat) :
    readBytes memory address (size + 1) = memory address :: readBytes memory (address + 1)
      size := by
  unfold readBytes
  rw [List.range_succ_eq_map, List.map_cons, List.map_map]
  refine congrArg₂ _ rfl (List.map_congr_left fun index _ => ?_)
  rw [Function.comp_apply, Nat.succ_eq_add_one, Nat.add_assoc, Nat.add_comm 1]

theorem copyMappedBytes_eq (h : module.Readable address size) :
    module.copyMappedBytes memory address size = some (readBytes memory address size) := by
  induction size generalizing address with
  | zero => rfl
  | succ size ih =>
    rw [copyMappedBytes, readByte_eq (h.part (Nat.le_refl _) (by omega)), Option.bind_some,
      ih (h.part (by omega) (by omega)), readBytes_succ]
    rfl

theorem equalMappedBytes_eq {pattern : List UInt8} (h : module.Readable address pattern.length) :
    module.equalMappedBytes memory address pattern =
      some (decide (readBytes memory address pattern.length = pattern)) := by
  induction pattern generalizing address with
  | nil => rfl
  | cons byte rest ih =>
    have hlength : (byte :: rest).length = rest.length + 1 := rfl
    rw [hlength] at h ⊢
    rw [equalMappedBytes, readByte_eq (h.part (Nat.le_refl _) (by omega)), Option.bind_some,
      readBytes_succ]
    split
    · rename_i hne
      simp [hne]
    · rename_i heq
      rw [not_not] at heq
      rw [ih (h.part (by omega) (by omega))]
      simp [heq]

/-- The word at an address. -/
def word (memory : Memory) (address : Nat) : Nat :=
  littleEndian (readBytes memory address wordSize)

theorem readValue_eq (memory : Memory) (address : Nat) :
    module.readValue memory address =
      some (if (module.readableRange address wordSize).isNone then none
        else some (word memory address)) := by
  unfold readValue
  split
  · rfl
  · rename_i hsome
    rw [readableRange_isNone, not_not] at hsome
    rw [copyMappedBytes_eq hsome]
    rfl

/-! ## The loops -/

theorem place_gathers {pattern : List UInt8} {place : Nat}
    (h : module.Readable place pattern.length) :
    Gathers ((module.equalMappedBytes memory place pattern).map fun equal =>
      if equal then [place] else [])
      fun found => readBytes memory place pattern.length = pattern ∧ found = place := by
  rw [equalMappedBytes_eq h]
  by_cases hequal : readBytes memory place pattern.length = pattern
  · simp only [Option.map_some, hequal, decide_true, if_true, true_and]
    exact gathers_singleton place
  · simp only [Option.map_some, hequal, decide_false, false_and]
    exact gathers_nil fun _ => id

theorem range_findBytes_gathers {range : ModuleMemoryRange} {pattern : List UInt8}
    (hmem : range ∈ module.ranges) :
    Gathers
      (if !range.readable || range.executable || range.size < pattern.length then some []
      else
        collect (fun offset =>
          (module.equalMappedBytes memory (range.address + offset) pattern).map fun equal =>
            if equal then [range.address + offset] else [])
          (List.range (range.size - pattern.length + 1)))
      fun place => range.Spans place pattern.length ∧
        readBytes memory place pattern.length = pattern := by
  split
  · rename_i hskip
    refine gathers_nil fun place hplace => ?_
    have hstarts := hplace.1.starts
    have hends := hplace.1.ends
    have hsmall : ¬ range.size < pattern.length := by omega
    simp [hplace.1.readable, hplace.1.executable, hsmall] at hskip
  · rename_i hsearch
    simp only [Bool.or_eq_true, Bool.not_eq_true', not_or, Bool.not_eq_true, Bool.not_eq_false,
      decide_eq_true_eq] at hsearch
    obtain ⟨⟨hreadable, hexecutable⟩, hsize⟩ := hsearch
    have hspans : ∀ offset < range.size - pattern.length + 1,
        range.Spans (range.address + offset) pattern.length := by
      intro offset hoffset
      exact ⟨hreadable, hexecutable, by omega, by omega⟩
    refine (Gathers.collect fun offset hoffset => place_gathers (Searchable.readable
      ⟨range, hmem, hspans offset (List.mem_range.mp hoffset)⟩)).congr fun place => ?_
    constructor
    · rintro ⟨offset, hoffset, hequal, rfl⟩
      exact ⟨hspans offset (List.mem_range.mp hoffset), hequal⟩
    · rintro ⟨hplace, hequal⟩
      have hstarts := hplace.starts
      have hends := hplace.ends
      have hoffset : range.address + (place - range.address) = place := by omega
      refine ⟨place - range.address, List.mem_range.mpr (by omega), ?_, hoffset.symm⟩
      rw [hoffset]
      exact hequal

theorem findBytes_gathers {pattern : List UInt8} (hpattern : pattern ≠ []) :
    Gathers (module.findBytes memory pattern) fun place =>
      module.Searchable place pattern.length ∧
        readBytes memory place pattern.length = pattern := by
  unfold findBytes
  rw [if_neg hpattern]
  refine (Gathers.collect fun range hmem => range_findBytes_gathers hmem).congr fun place => ?_
  unfold Searchable
  grind

theorem word_gathers {place : Nat} (value : Nat) (h : module.Readable place wordSize) :
    Gathers ((module.copyMappedBytes memory place wordSize).map fun candidate =>
      if littleEndian candidate = value then [place] else [])
      fun found => word memory place = value ∧ found = place := by
  rw [copyMappedBytes_eq h, Option.map_some]
  change Gathers (some (if word memory place = value then [place] else [])) _
  by_cases hequal : word memory place = value
  · rw [if_pos hequal]
    simp only [hequal, true_and]
    exact gathers_singleton place
  · rw [if_neg hequal]
    exact gathers_nil fun _ hfound => hequal hfound.1

theorem range_findAlignedValue_gathers {range : ModuleMemoryRange} (value : Nat)
    (hmem : range ∈ module.ranges) :
    Gathers
      (if !range.readable || range.executable || range.size < wordSize then some []
      else
        let aligned := (range.address + wordSize - 1) / wordSize * wordSize
        let skipped := aligned - range.address
        if range.size < skipped || range.size - skipped < wordSize then some []
        else
          collect (fun index =>
            (module.copyMappedBytes memory (aligned + index * wordSize) wordSize).map
              fun candidate =>
                if littleEndian candidate = value then [aligned + index * wordSize] else [])
            (List.range ((range.size - skipped - wordSize) / wordSize + 1)))
      fun place => wordSize ∣ place ∧ range.Spans place wordSize ∧ word memory place = value := by
  have haligned : wordSize ∣ (range.address + wordSize - 1) / wordSize * wordSize :=
    ⟨_, Nat.mul_comm _ _⟩
  have hround : range.address ≤ (range.address + wordSize - 1) / wordSize * wordSize ∧
      (range.address + wordSize - 1) / wordSize * wordSize < range.address + wordSize := by
    unfold wordSize
    omega
  dsimp only
  generalize (range.address + wordSize - 1) / wordSize * wordSize = aligned at haligned hround ⊢
  obtain ⟨hfirst, hlast⟩ := hround
  split
  · rename_i hskip
    refine gathers_nil fun place hplace => ?_
    have hstarts := hplace.2.1.starts
    have hends := hplace.2.1.ends
    have hsmall : ¬ range.size < wordSize := by omega
    simp [hplace.2.1.readable, hplace.2.1.executable, hsmall] at hskip
  · rename_i hsearch
    simp only [Bool.or_eq_true, Bool.not_eq_true', not_or, Bool.not_eq_true, Bool.not_eq_false,
      decide_eq_true_eq] at hsearch
    obtain ⟨⟨hreadable, hexecutable⟩, hsize⟩ := hsearch
    -- a word of the range is at the first aligned place or behind it
    have hplaced : ∀ place, wordSize ∣ place → range.address ≤ place → aligned ≤ place := by
      intro place hdvd hstarts
      unfold wordSize at *
      omega
    split
    · rename_i hnone
      refine gathers_nil fun place hplace => ?_
      have hends := hplace.2.1.ends
      have hle := hplaced place hplace.1 hplace.2.1.starts
      simp only [Bool.or_eq_true, decide_eq_true_eq] at hnone
      omega
    · rename_i hsome
      simp only [Bool.or_eq_true, decide_eq_true_eq, not_or, Nat.not_lt] at hsome
      obtain ⟨hskipped, hroom⟩ := hsome
      have hspans : ∀ index < (range.size - (aligned - range.address) - wordSize) / wordSize + 1,
          range.Spans (aligned + index * wordSize) wordSize := by
        intro index hindex
        refine ⟨hreadable, hexecutable, by omega, ?_⟩
        unfold wordSize at *
        omega
      refine (Gathers.collect fun index hindex => word_gathers value (Searchable.readable
        ⟨range, hmem, hspans index (List.mem_range.mp hindex)⟩)).congr fun place => ?_
      constructor
      · rintro ⟨index, hindex, hword, rfl⟩
        exact ⟨Nat.dvd_add haligned ⟨index, Nat.mul_comm _ _⟩,
          hspans index (List.mem_range.mp hindex), hword⟩
      · rintro ⟨hdvd, hplace, hword⟩
        have hends := hplace.ends
        have hle := hplaced place hdvd hplace.starts
        have hindex : aligned + (place - aligned) / wordSize * wordSize = place := by
          unfold wordSize at *
          omega
        refine ⟨(place - aligned) / wordSize, List.mem_range.mpr ?_, ?_, hindex.symm⟩
        · unfold wordSize at *
          omega
        · rw [hindex]
          exact hword

theorem findAlignedValue_gathers (value : Nat) :
    Gathers (module.findAlignedValue memory value) fun place =>
      wordSize ∣ place ∧ module.Searchable place wordSize ∧ word memory place = value := by
  unfold findAlignedValue
  refine (Gathers.collect fun range hmem =>
    range_findAlignedValue_gathers value hmem).congr fun place => ?_
  unfold Searchable
  grind

/-! ## What is taken for a virtual table -/

/-- Behind the reference there is an address point, if the word before it is an offset to top. -/
theorem tableAt_gathers (typeReference : Nat) :
    Gathers (module.tableAt memory typeReference) fun place =>
      wordSize ≤ typeReference ∧ module.Readable (typeReference - wordSize) wordSize ∧
        word memory (typeReference - wordSize) = 0 ∧ place = typeReference + wordSize := by
  unfold tableAt
  split
  · rename_i hlow
    exact gathers_nil fun _ hplace => by omega
  · rename_i hlow
    rw [readValue_eq, Option.map_some]
    by_cases hreadable : module.Readable (typeReference - wordSize) wordSize
    · rw [if_neg (readableRange_isNone.not.mpr (not_not.mpr hreadable))]
      by_cases hzero : word memory (typeReference - wordSize) = 0
      · rw [if_pos (congrArg some hzero)]
        refine (gathers_singleton _).congr fun place => ?_
        exact ⟨fun h => ⟨Nat.not_lt.mp hlow, hreadable, hzero, h⟩, fun h => h.2.2.2⟩
      · rw [if_neg (fun h => hzero (Option.some.inj h))]
        exact gathers_nil fun _ hplace => hzero hplace.2.2.1
    · rw [if_pos (readableRange_isNone.mpr hreadable), if_neg (by simp)]
      exact gathers_nil fun _ hplace => hreadable hplace.2.1

variable (module memory) in
/-- The record at this place is referred to from here, behind a zero. -/
structure References (typeInfo reference : Nat) : Prop where
  aligned : wordSize ∣ reference
  searchable : module.Searchable reference wordSize
  refers : word memory reference = typeInfo
  bounded : wordSize ≤ reference
  readable : module.Readable (reference - wordSize) wordSize
  offsetToTop : word memory (reference - wordSize) = 0

variable (module memory) in
/-- There is a type-information record of the name, as far as the search looks. -/
structure Records (name : Text) (typeInfo : Nat) : Prop where
  aligned : wordSize ∣ typeInfo
  readable : module.Readable typeInfo wordSize
  vtable : word memory typeInfo ≠ 0
  reference : module.Searchable (typeInfo + wordSize) wordSize
  searchable : module.Searchable (word memory (typeInfo + wordSize)) (decorated name).length
  named : readBytes memory (word memory (typeInfo + wordSize)) (decorated name).length =
    decorated name

theorem decorated_ne_nil (name : Text) : decorated name ≠ [] := by
  unfold decorated
  simp

theorem tablesOf_gathers (nameReference : Nat) :
    Gathers (module.tablesOf memory nameReference) fun place =>
      wordSize ≤ nameReference ∧ module.Readable (nameReference - wordSize) wordSize ∧
        word memory (nameReference - wordSize) ≠ 0 ∧
          ∃ reference, module.References memory (nameReference - wordSize) reference ∧
            place = reference + wordSize := by
  unfold tablesOf
  split
  · rename_i hlow
    exact gathers_nil fun _ hplace => by omega
  · rename_i hlow
    rw [readValue_eq, Option.bind_some]
    by_cases hreadable : module.Readable (nameReference - wordSize) wordSize
    · rw [if_neg (readableRange_isNone.not.mpr (not_not.mpr hreadable)), Option.getD_some]
      by_cases hzero : word memory (nameReference - wordSize) = 0
      · rw [if_pos hzero]
        exact gathers_nil fun _ hplace => hplace.2.2.1 hzero
      · rw [if_neg hzero]
        refine ((findAlignedValue_gathers _).bind fun reference _ =>
          tableAt_gathers reference).congr fun place => ?_
        constructor
        · rintro ⟨reference, ⟨haligned, hsearchable, hword⟩, hbounded, hread, hoffset, hplace⟩
          exact ⟨Nat.not_lt.mp hlow, hreadable, hzero, reference,
            ⟨haligned, hsearchable, hword, hbounded, hread, hoffset⟩, hplace⟩
        · rintro ⟨-, -, -, reference, h, hplace⟩
          exact ⟨reference, ⟨h.aligned, h.searchable, h.refers⟩, h.bounded, h.readable,
            h.offsetToTop, hplace⟩
    · rw [if_pos (readableRange_isNone.mpr hreadable), Option.getD_none, if_pos rfl]
      exact gathers_nil fun _ hplace => hreadable hplace.2.1

theorem tableAddresses_gathers (name : Text) :
    Gathers (module.tableAddresses memory name) fun place =>
      ∃ typeInfo reference, module.Records memory name typeInfo ∧
        module.References memory typeInfo reference ∧ place = reference + wordSize := by
  unfold tableAddresses
  refine ((findBytes_gathers (decorated_ne_nil name)).bind fun place _ =>
    (findAlignedValue_gathers place).bind fun reference _ =>
      tablesOf_gathers reference).congr fun place => ?_
  constructor
  · rintro ⟨start, ⟨hsearchable, hnamed⟩, nameReference, ⟨haligned, hreference, rfl⟩, hbounded,
      hreadable, hvtable, reference, hreferences, rfl⟩
    have hback : nameReference - wordSize + wordSize = nameReference := Nat.sub_add_cancel hbounded
    refine ⟨nameReference - wordSize, reference, ⟨?_, hreadable, hvtable, ?_, ?_, ?_⟩,
      hreferences, rfl⟩
    · exact Nat.dvd_sub haligned (Nat.dvd_refl _)
    · rw [hback]
      exact hreference
    · rw [hback]
      exact hsearchable
    · rw [hback]
      exact hnamed
  · rintro ⟨typeInfo, reference, hrecords, hreferences, rfl⟩
    have hback : typeInfo + wordSize - wordSize = typeInfo := Nat.add_sub_cancel _ _
    refine ⟨_, ⟨hrecords.searchable, hrecords.named⟩, typeInfo + wordSize,
      ⟨Nat.dvd_add hrecords.aligned (Nat.dvd_refl _), hrecords.reference, rfl⟩, ?_⟩
    rw [hback]
    exact ⟨Nat.le_add_left _ _, hrecords.readable, hrecords.vtable, reference, hreferences, rfl⟩

/-! ## The candidates -/

variable (module memory) in
/-- What the search takes for an address point of the class's primary table. -/
def Candidate (name : Text) (entryCount place : Nat) : Prop :=
  (∃ typeInfo reference, module.Records memory name typeInfo ∧
    module.References memory typeInfo reference ∧ place = reference + wordSize) ∧
      module.Readable place (entryCount * wordSize)

/-- A count that `AddVtableCandidate` sorts out beforehand fits into no range. -/
theorem Readable.entryCount_le {place entryCount : Nat}
    (h : module.Readable place (entryCount * wordSize)) : entryCount ≤ maxSize / wordSize := by
  obtain ⟨range, -, -, -, hend⟩ := h
  have hfits := range.fits
  unfold maxSize wordSize at *
  omega

theorem addVtableCandidate_eq (entryCount : Nat) (candidates : List Nat) (address : Nat)
    [Decidable (module.Readable address (entryCount * wordSize))] :
    module.addVtableCandidate entryCount candidates address =
      if module.Readable address (entryCount * wordSize) ∧ address ∉ candidates then
        candidates ++ [address]
      else candidates := by
  simp only [addVtableCandidate, readableRange_isNone]
  by_cases hreadable : module.Readable address (entryCount * wordSize)
  · have hle := hreadable.entryCount_le
    simp only [hreadable, not_true_eq_false, or_false, true_and]
    rw [if_neg (by omega)]
    by_cases hmem : address ∈ candidates <;> simp [hmem]
  · simp [hreadable]

theorem foldl_addVtableCandidate (entryCount : Nat) (addresses candidates : List Nat) :
    (candidates.Nodup →
      (addresses.foldl (module.addVtableCandidate entryCount) candidates).Nodup) ∧
    ∀ place, place ∈ addresses.foldl (module.addVtableCandidate entryCount) candidates ↔
      place ∈ candidates ∨ (place ∈ addresses ∧ module.Readable place (entryCount * wordSize)) := by
  classical
  induction addresses generalizing candidates with
  | nil => simp
  | cons address rest ih =>
    obtain ⟨hnodup, hmem⟩ := ih (module.addVtableCandidate entryCount candidates address)
    rw [addVtableCandidate_eq] at hnodup hmem
    rw [List.foldl_cons, addVtableCandidate_eq]
    refine ⟨fun hcandidates => hnodup ?_, fun place => ?_⟩
    · split
      · rename_i hnew
        rw [← List.concat_eq_append]
        exact hcandidates.concat hnew.2
      · exact hcandidates
    · rw [hmem]
      split
      · rename_i hnew
        simp only [List.mem_append, List.mem_cons]
        grind
      · rename_i hold
        simp only [List.mem_cons]
        grind

/-- `FindItaniumVtables` comes to an end without reading where it may not, with each candidate
once. -/
theorem findItaniumVtables_spec (module : LoadedModule) (memory : Memory) (name : Text)
    (entryCount : Nat) :
    ∃ candidates, module.findItaniumVtables memory name entryCount = some candidates ∧
      candidates.Nodup ∧
        ∀ place, place ∈ candidates ↔ module.Candidate memory name entryCount place := by
  obtain ⟨addresses, haddresses, hmem⟩ : Gathers (module.tableAddresses memory name) _ :=
    tableAddresses_gathers name
  obtain ⟨hnodup, hfold⟩ := @foldl_addVtableCandidate module entryCount addresses []
  refine ⟨_, ?_, hnodup List.nodup_nil, fun place => ?_⟩
  · unfold findItaniumVtables
    rw [haddresses, Option.map_some]
  · rw [hfold, hmem]
    simp [Candidate]

/-! ## The answer -/

/-- `FindPrimaryVtable` looks for the table at all. -/
structure ValidRequest (module : LoadedModule) (name : Text) (entryCount : Nat) : Prop where
  name : validClassName name = true
  entryCount : entryCount ≠ 0
  ranges : module.ranges ≠ []

end LoadedModule

/-- The answer in terms of the candidates. -/
structure VtableAnswer.Follows (answer : VtableAnswer) (candidate : Nat → Prop) : Prop where
  found : ∀ place, (answer.lookup = .found ∧ answer.table = some place) ↔
    candidate place ∧ ∀ other, candidate other → other = place
  notFound : answer.lookup = .notFound ↔ ∀ place, ¬ candidate place

theorem follows_candidates {candidates : List Nat} (hnodup : candidates.Nodup) (name : Text) :
    (VtableAnswer.ofCandidates name candidates).Follows (· ∈ candidates) := by
  cases candidates with
  | nil => exact ⟨fun place => by simp [VtableAnswer.ofCandidates],
      by simp [VtableAnswer.ofCandidates]⟩
  | cons first rest =>
    cases rest with
    | nil =>
      refine ⟨fun place => ?_, ?_⟩
      · simp only [VtableAnswer.ofCandidates, List.mem_singleton, true_and, Option.some.injEq]
        constructor
        · rintro rfl
          exact ⟨rfl, fun _ => id⟩
        · exact fun h => h.1.symm
      · simp [VtableAnswer.ofCandidates]
    | cons second rest =>
      have hne : first ≠ second := by
        rintro rfl
        exact (List.nodup_cons.mp hnodup).1 List.mem_cons_self
      refine ⟨fun place => ⟨fun h => (by cases h.1), fun h => ?_⟩, ?_⟩
      · have hfirst := h.2 first List.mem_cons_self
        have hsecond := h.2 second (List.mem_cons_of_mem _ List.mem_cons_self)
        exact absurd (hfirst.trans hsecond.symm) hne
      · exact ⟨fun h => (by cases h), fun h => absurd List.mem_cons_self (h first)⟩

/-- Whatever stands in the memory, the search ends without reading a byte that no readable range
has; and its answer follows from the candidates. -/
theorem findPrimaryVtable_spec (module : LoadedModule) (memory : Memory) (name : Text)
    (entryCount : Nat) :
    ∃ answer, module.findPrimaryVtable memory name entryCount = some answer ∧
      (module.ValidRequest name entryCount →
        answer.Follows (module.Candidate memory name entryCount)) ∧
      (¬ module.ValidRequest name entryCount → answer.lookup = .failed) := by
  have hvalid : module.ValidRequest name entryCount ↔
      ¬ (!validClassName name || entryCount = 0 || module.ranges.isEmpty) = true := by
    constructor
    · rintro ⟨hname, hcount, hranges⟩
      simp [hname, hcount, hranges]
    · intro h
      simp only [Bool.or_eq_true, Bool.not_eq_true', decide_eq_true_eq, not_or,
        Bool.not_eq_false, List.isEmpty_iff] at h
      exact ⟨h.1.1, h.1.2, h.2⟩
  unfold LoadedModule.findPrimaryVtable
  split
  · rename_i hrefused
    exact ⟨_, rfl, fun h => absurd hrefused (hvalid.mp h), fun _ => rfl⟩
  · rename_i haccepted
    obtain ⟨candidates, hcandidates, hnodup, hmem⟩ :=
      findItaniumVtables_spec module memory name entryCount
    rw [hcandidates, Option.map_some]
    refine ⟨_, rfl, fun _ => ?_, fun h => absurd (hvalid.mpr haccepted) h⟩
    have hiff : (· ∈ candidates) = module.Candidate memory name entryCount :=
      funext fun place => propext (hmem place)
    rw [← hiff]
    exact follows_candidates hnodup name

end KeelS2.Platform
