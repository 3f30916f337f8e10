import KeelS2.Compatibility.ProfileFormat
import Mathlib.Data.List.ReduceOption

/-!
# Module images

What the review reads of a module file: its fingerprint, the file ranges that are
executable, and where in them a byte pattern matches. The two readers of program headers
refuse a range that leaves the file, so `imageOf` hands out ranges that `Scan` can
walk without a bound of its own; `InBounds` is what it relies on.
-/

namespace KeelS2.Compatibility

open Lib

/-! ## Fingerprints -/

/-- The bytes of a file, one character of its text a byte. -/
def bytesOf (content : Text) : List UInt8 :=
  content.map fun character => UInt8.ofNat character.toNat

def fnvOffset : UInt64 := 14695981039346656037
def fnvPrime : UInt64 := 1099511628211

def fnvStep (hash : UInt64) (byte : UInt8) : UInt64 :=
  (hash ^^^ byte.toUInt64) * fnvPrime

/-- The size and the hash of a file that was read to its end. -/
def fingerprintOf (bytes : List UInt8) : FileFingerprint :=
  ⟨UInt64.ofNat bytes.length, bytes.foldl fnvStep fnvOffset⟩

/-- The inverse of the FNV prime, which is odd. -/
def fnvInverse : UInt64 := 14886173955864302971

theorem fnvPrime_mul_cancel {left right : UInt64} (h : left * fnvPrime = right * fnvPrime) :
    left = right := by
  have hone : fnvPrime * fnvInverse = 1 := by decide
  calc left = left * fnvPrime * fnvInverse := by rw [UInt64.mul_assoc, hone, UInt64.mul_one]
    _ = right * fnvPrime * fnvInverse := by rw [h]
    _ = right := by rw [UInt64.mul_assoc, hone, UInt64.mul_one]

theorem fnvStep_hash_injective {byte : UInt8} {left right : UInt64}
    (h : fnvStep left byte = fnvStep right byte) : left = right :=
  (UInt64.xor_left_inj _).1 (fnvPrime_mul_cancel h)

theorem fnvStep_byte_injective {hash : UInt64} {left right : UInt8}
    (h : fnvStep hash left = fnvStep hash right) : left = right := by
  have hbytes := (UInt64.xor_right_inj hash).1 (fnvPrime_mul_cancel h)
  have hnat := congrArg UInt64.toNat hbytes
  apply UInt8.toNat.inj
  simpa using hnat

/-- Two files that differ in one byte only have different fingerprints. -/
theorem fingerprint_of_one_byte {front back : List UInt8} {byte other : UInt8}
    (h : byte ≠ other) :
    fingerprintOf (front ++ byte :: back) ≠ fingerprintOf (front ++ other :: back) := by
  intro heq
  have hhash := congrArg FileFingerprint.fnv1a64 heq
  simp only [fingerprintOf, List.foldl_append, List.foldl_cons] at hhash
  apply h
  apply @fnvStep_byte_injective (front.foldl fnvStep fnvOffset)
  -- The bytes behind the changed one keep two different hashes apart.
  generalize fnvStep (front.foldl fnvStep fnvOffset) byte = left at hhash ⊢
  generalize fnvStep (front.foldl fnvStep fnvOffset) other = right at hhash ⊢
  clear heq h
  induction back generalizing left right with
  | nil => exact hhash
  | cons next rest ih => exact fnvStep_hash_injective (ih _ _ hhash)

/-! ## Executable ranges -/

structure Range where
  offset : Nat
  size : Nat
  deriving DecidableEq, Repr

/-- `ReadLittleEndian` of a value of `width` bytes. -/
def readLittleEndian (width : Nat) (bytes : List UInt8) (offset : Nat) : Option Nat :=
  if bytes.length < offset ∨ bytes.length - offset < width then none
  else some (((bytes.drop offset).take width).foldr (fun byte value => byte.toNat + 256 * value) 0)

/-- `AddRange`, less the list it adds to. -/
def addRange (offset size fileSize : Nat) : Option Range :=
  if size = 0 ∨ fileSize < offset ∨ fileSize - offset < size then none else some ⟨offset, size⟩

/-- The ranges of the headers in a table, if every header could be read and one is
executable. -/
def tableRanges (readHeader : Nat → Option (Option Range)) (count : Nat) : Option (List Range) :=
  match (List.range count).mapM readHeader with
  | some headers => if headers.reduceOption = [] then none else some headers.reduceOption
  | none => none

def elfHeader (bytes : List UInt8) (entry : Nat) : Option (Option Range) := do
  let type ← readLittleEndian 4 bytes entry
  let flags ← readLittleEndian 4 bytes (entry + 4)
  let offset ← readLittleEndian 8 bytes (entry + 8)
  let size ← readLittleEndian 8 bytes (entry + 32)
  if type = 1 ∧ flags &&& 1 ≠ 0 then (addRange offset size bytes.length).map some else some none

def elfRanges (bytes : List UInt8) : Option (List Range) :=
  if bytes.length < 64 ∨ bytes.take 7 ≠ [0x7f, 0x45, 0x4c, 0x46, 2, 1, 1] then none
  else do
    let machine ← readLittleEndian 2 bytes 18
    let table ← readLittleEndian 8 bytes 32
    let entrySize ← readLittleEndian 2 bytes 54
    let entryCount ← readLittleEndian 2 bytes 56
    if machine ≠ 62 ∨ entrySize < 56 ∨ entryCount = 0 then none
    else if bytes.length < table ∨ bytes.length - table < entrySize * entryCount then none
    else tableRanges (fun index => elfHeader bytes (table + index * entrySize)) entryCount

def peHeader (bytes : List UInt8) (header : Nat) : Option (Option Range) := do
  let rawSize ← readLittleEndian 4 bytes (header + 16)
  let rawOffset ← readLittleEndian 4 bytes (header + 20)
  let characteristics ← readLittleEndian 4 bytes (header + 36)
  if characteristics &&& 0x20000000 ≠ 0 then (addRange rawOffset rawSize bytes.length).map some
  else some none

def peSignature : List UInt8 := [0x50, 0x45, 0, 0]

/-- The signature is where the header offset says. The offset is a `std::uint32_t`, and so are
the places computed from it. -/
def hasPeSignature (bytes : List UInt8) (peOffset : Nat) : Bool :=
  (List.range 4).all fun index =>
    bytes.getD ((peOffset + index) % 2 ^ 32) 0 == peSignature.getD index 0

def peRanges (bytes : List UInt8) : Option (List Range) :=
  if bytes.length < 64 ∨ bytes.take 2 ≠ [0x4d, 0x5a] then none
  else do
    let peOffset ← readLittleEndian 4 bytes 0x3c
    if bytes.length < peOffset ∨ bytes.length - peOffset < 24 ∨
        ¬ hasPeSignature bytes peOffset then none
    else do
      let machine ← readLittleEndian 2 bytes (peOffset + 4)
      let sectionCount ← readLittleEndian 2 bytes (peOffset + 6)
      let optionalSize ← readLittleEndian 2 bytes (peOffset + 20)
      let optionalMagic ← readLittleEndian 2 bytes (peOffset + 24)
      let table := peOffset + 24 + optionalSize
      if machine ≠ 0x8664 ∨ optionalSize < 2 ∨ optionalMagic ≠ 0x20b ∨ sectionCount = 0 then none
      else if bytes.length < table ∨ bytes.length - table < sectionCount * 40 then none
      else tableRanges (fun index => peHeader bytes (table + index * 40)) sectionCount

structure ModuleImage where
  bytes : List UInt8
  executableRanges : List Range
  deriving DecidableEq, Repr

/-- `ReadModuleImage`, behind the reading of the file, whose size a stream gives as a
`std::streamoff`. A file that one of the two readers has
taken a range from starts with the magic number of its format, and the other refuses it. -/
def imageOf (bytes : List UInt8) : Except Text ModuleImage :=
  if bytes.length = 0 ∨ 2 ^ 63 ≤ bytes.length then .error "module size is invalid".toList
  else
    match (elfRanges bytes).orElse fun _ => peRanges bytes with
    | some ranges => .ok ⟨bytes, sortBy Range.offset ranges⟩
    | none =>
      .error
        "module is not a supported ELF64 or PE image with executable file ranges".toList

def readModuleImage (disk : Disk) (path : Path) : Except Text ModuleImage :=
  match disk.files path with
  | none => .error "could not open module".toList
  | some content => imageOf (bytesOf content)

def fingerprintFile (disk : Disk) (path : Path) : Except Text FileFingerprint :=
  match disk.files path with
  | none => .error "could not open the file".toList
  | some content => .ok (fingerprintOf (bytesOf content))

/-- Every range is a part of the file, and not an empty one. -/
def InBounds (fileSize : Nat) (ranges : List Range) : Prop :=
  ∀ range ∈ ranges, range.size ≠ 0 ∧ range.offset + range.size ≤ fileSize

variable {bytes : List UInt8} {range : Range} {ranges : List Range}

theorem addRange_eq_some {offset size fileSize : Nat}
    (h : addRange offset size fileSize = some range) :
    range.size ≠ 0 ∧ range.offset + range.size ≤ fileSize := by
  unfold addRange at h
  split at h
  · cases h
  · rename_i hbounds
    cases h
    simp only [not_or, Nat.not_lt] at hbounds
    refine ⟨hbounds.1, ?_⟩
    show offset + size ≤ fileSize
    omega

theorem exists_of_mem_mapM {α β : Type} {f : α → Option β} {values : List α} {results : List β}
    (h : values.mapM f = some results) {result : β} (hmem : result ∈ results) :
    ∃ value ∈ values, f value = some result := by
  induction values generalizing results with
  | nil =>
    simp only [List.mapM_nil, Option.pure_def, Option.some.injEq] at h
    rw [← h] at hmem
    cases hmem
  | cons value rest ih =>
    simp only [List.mapM_cons, Option.bind_eq_bind, Option.bind_eq_some_iff, Option.pure_def,
      Option.some.injEq] at h
    obtain ⟨first, hfirst, others, hothers, rfl⟩ := h
    rcases List.mem_cons.1 hmem with rfl | hmem
    · exact ⟨value, List.mem_cons_self, hfirst⟩
    · obtain ⟨found, hfound, heq⟩ := ih hothers hmem
      exact ⟨found, List.mem_cons_of_mem _ hfound, heq⟩

theorem inBounds_tableRanges {readHeader : Nat → Option (Option Range)} {count fileSize : Nat}
    (hheader : ∀ index range, readHeader index = some (some range) → range.size ≠ 0 ∧ range.offset +
      range.size ≤ fileSize)
    (h : tableRanges readHeader count = some ranges) : InBounds fileSize ranges := by
  unfold tableRanges at h
  split at h
  · rename_i headers hheaders
    split at h
    · cases h
    · cases h
      intro range hrange
      rw [List.reduceOption_mem_iff] at hrange
      obtain ⟨index, -, hindex⟩ := exists_of_mem_mapM hheaders hrange
      exact hheader index range hindex
  · cases h

theorem elfHeader_eq_some {entry : Nat} (h : elfHeader bytes entry = some (some range)) :
    range.size ≠ 0 ∧ range.offset + range.size ≤ bytes.length := by
  simp only [elfHeader, Option.bind_eq_bind, Option.bind_eq_some_iff] at h
  obtain ⟨type, -, flags, -, offset, -, size, -, h⟩ := h
  split at h
  · rw [Option.map_eq_some_iff] at h
    obtain ⟨found, hfound, heq⟩ := h
    cases heq
    exact addRange_eq_some hfound
  · cases h

theorem peHeader_eq_some {header : Nat} (h : peHeader bytes header = some (some range)) :
    range.size ≠ 0 ∧ range.offset + range.size ≤ bytes.length := by
  simp only [peHeader, Option.bind_eq_bind, Option.bind_eq_some_iff] at h
  obtain ⟨rawSize, -, rawOffset, -, characteristics, -, h⟩ := h
  split at h
  · rw [Option.map_eq_some_iff] at h
    obtain ⟨found, hfound, heq⟩ := h
    cases heq
    exact addRange_eq_some hfound
  · cases h

theorem inBounds_elfRanges (h : elfRanges bytes = some ranges) : InBounds bytes.length ranges := by
  unfold elfRanges at h
  split at h
  · cases h
  · simp only [Option.bind_eq_bind, Option.bind_eq_some_iff] at h
    obtain ⟨machine, -, table, -, entrySize, -, entryCount, -, h⟩ := h
    split at h
    · cases h
    · split at h
      · cases h
      · exact inBounds_tableRanges (fun _ _ => elfHeader_eq_some) h

theorem inBounds_peRanges (h : peRanges bytes = some ranges) : InBounds bytes.length ranges := by
  unfold peRanges at h
  split at h
  · cases h
  · simp only [Option.bind_eq_bind, Option.bind_eq_some_iff] at h
    obtain ⟨peOffset, -, h⟩ := h
    split at h
    · cases h
    · simp only [Option.bind_eq_some_iff] at h
      obtain ⟨machine, -, sectionCount, -, optionalSize, -, optionalMagic, -, h⟩ := h
      split at h
      · cases h
      · split at h
        · cases h
        · exact inBounds_tableRanges (fun _ _ => peHeader_eq_some) h

/-- What the scanner relies on: it is given ranges of the file only, and a file whose
positions fit a file offset. -/
theorem imageOf_eq_ok {image : ModuleImage} (h : imageOf bytes = .ok image) :
    image.bytes = bytes ∧ InBounds bytes.length image.executableRanges ∧ bytes.length < 2 ^ 64 := by
  unfold imageOf at h
  split at h
  · cases h
  · rename_i hsize
    simp only [not_or, Nat.not_le] at hsize
    split at h
    · rename_i ranges hranges
      cases h
      refine ⟨rfl, ?_, by omega⟩
      have hfound : InBounds bytes.length ranges := by
        cases helf : elfRanges bytes with
        | some found =>
          rw [helf] at hranges
          cases hranges
          exact inBounds_elfRanges helf
        | none =>
          rw [helf] at hranges
          exact inBounds_peRanges hranges
      intro range hrange
      exact hfound range ((perm_sortBy Range.offset ranges).mem_iff.1 hrange)
    · cases h

/-! ## Scanning -/

/-- The pattern matches the memory from `position` on. -/
def matchesAt (memory : Nat → UInt8) : List (Option UInt8) → Nat → Bool
  | [], _ => true
  | none :: rest, position => matchesAt memory rest (position + 1)
  | some value :: rest, position =>
    memory position == value && matchesAt memory rest (position + 1)

def scanRange (memory : Nat → UInt8) (pattern : List (Option UInt8)) (range : Range) : List Nat :=
  if range.size < pattern.length then []
  else
    ((List.range (range.size - pattern.length + 1)).map (range.offset + ·)).filter
      (matchesAt memory pattern)

def unique : List Nat → List Nat
  | first :: second :: rest =>
    if first = second then unique (second :: rest) else first :: unique (second :: rest)
  | values => values

def scan (memory : Nat → UInt8) (ranges : List Range) (pattern : List (Option UInt8)) : List Nat :=
  unique (sortBy id (ranges.flatMap (scanRange memory pattern)))

def ModuleImage.scan (image : ModuleImage) (pattern : List (Option UInt8)) : List Nat :=
  Compatibility.scan (image.bytes.getD · 0) image.executableRanges pattern

/-- `SelectMatch`: the match, or the reason why there is none. -/
def selectMatch (found : List Nat) (occurrence : Nat) : Except Text Nat :=
  match found with
  | [] => .error "was not found in an executable file range".toList
  | first :: rest =>
    if occurrence = 0 then
      if rest = [] then .ok first
      else
        .error ("is ambiguous with ".toList ++ decimal (rest.length + 1) ++ " matches".toList)
    else
      match (first :: rest)[occurrence - 1]? with
      | some selected => .ok selected
      | none =>
        .error ("requested occurrence ".toList ++ decimal occurrence ++ " but only ".toList
          ++ decimal (rest.length + 1) ++ " matches exist".toList)

theorem mem_unique {values : List Nat} {value : Nat} : value ∈ unique values ↔ value ∈ values := by
  fun_induction unique values with
  | case1 second rest ih => simp [ih]
  | case2 first second rest hne ih => simp [ih]
  | case3 => rfl

theorem pairwise_unique {values : List Nat} (h : values.Pairwise (· ≤ ·)) :
    (unique values).Pairwise (· < ·) := by
  fun_induction unique values with
  | case1 second rest ih => exact ih h.of_cons
  | case2 first second rest hne ih =>
    rw [List.pairwise_cons] at h ⊢
    refine ⟨fun other hother => ?_, ih h.2⟩
    have hsecond : first < second := by
      have := h.1 second List.mem_cons_self
      omega
    rcases List.mem_cons.1 (mem_unique.1 hother) with rfl | hother
    · exact hsecond
    · have := (List.pairwise_cons.1 h.2).1 other hother
      omega
  | case3 values hshort =>
    cases values with
    | nil => exact List.Pairwise.nil
    | cons first rest =>
      cases rest with
      | nil => exact List.pairwise_singleton _ _
      | cons second rest => exact absurd rfl (hshort first second rest)

theorem mem_scanRange {memory : Nat → UInt8} {pattern : List (Option UInt8)} {position : Nat} :
    position ∈ scanRange memory pattern range ↔
      range.offset ≤ position ∧ position + pattern.length ≤ range.offset + range.size ∧
      matchesAt memory pattern position = true := by
  unfold scanRange
  split
  · simp only [List.not_mem_nil, false_iff, not_and]
    omega
  · simp only [List.mem_filter, List.mem_map, List.mem_range]
    constructor
    · rintro ⟨⟨index, hindex, rfl⟩, hmatch⟩
      exact ⟨by omega, by omega, hmatch⟩
    · rintro ⟨hlow, hhigh, hmatch⟩
      exact ⟨⟨position - range.offset, by omega, by omega⟩, hmatch⟩

theorem mem_scan {memory : Nat → UInt8} {pattern : List (Option UInt8)} {position : Nat} :
    position ∈ scan memory ranges pattern ↔
      matchesAt memory pattern position = true ∧ ∃ range ∈ ranges,
        range.offset ≤ position ∧ position + pattern.length ≤ range.offset + range.size := by
  unfold scan
  rw [mem_unique, (perm_sortBy id _).mem_iff, List.mem_flatMap]
  constructor
  · rintro ⟨range, hrange, hmem⟩
    obtain ⟨hlow, hhigh, hmatch⟩ := mem_scanRange.1 hmem
    exact ⟨hmatch, range, hrange, hlow, hhigh⟩
  · rintro ⟨hmatch, range, hrange, hlow, hhigh⟩
    exact ⟨range, hrange, mem_scanRange.2 ⟨hlow, hhigh, hmatch⟩⟩

theorem pairwise_scan (memory : Nat → UInt8) (ranges : List Range)
    (pattern : List (Option UInt8)) : (scan memory ranges pattern).Pairwise (· < ·) :=
  pairwise_unique (sorted_sortBy id _)

theorem mem_of_selectMatch {found : List Nat} {occurrence selected : Nat}
    (h : selectMatch found occurrence = .ok selected) : selected ∈ found := by
  unfold selectMatch at h
  split at h
  · cases h
  · split at h
    · split at h
      · cases h
        exact List.mem_cons_self
      · cases h
    · split at h
      · rename_i hget
        cases h
        exact List.mem_of_getElem? hget
      · cases h

end KeelS2.Compatibility
