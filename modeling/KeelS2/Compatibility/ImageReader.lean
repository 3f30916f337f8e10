import KeelS2.Compatibility.Images

/-!
# Reading a module image within its bounds

The reader of module images once more, with every read of the file and every computation of an
offset checked: a read behind the end of the file is a fault, and so is a sum or a product that
its type cannot hold. What the reader makes of a file without a fault is what `imageOf` says.

There is one fault left. `PeRanges` computes the places of the signature behind the first in 32
bits, so a header offset right below `2 ^ 32` wraps: `readerSound_iff`.
-/

namespace KeelS2.Compatibility

open Lib

inductive Fault
  | outOfBounds
  | overflow
  deriving DecidableEq, Repr

abbrev Checked (α : Type) := Except Fault α

/-- `bytes[offset]`. -/
def byteAt (bytes : List UInt8) (offset : Nat) : Checked UInt8 :=
  match bytes[offset]? with
  | some byte => .ok byte
  | none => .error .outOfBounds

/-- A sum in an unsigned type of so many bits. -/
def addOffsets (width a b : Nat) : Checked Nat :=
  if a + b < 2 ^ width then .ok (a + b) else .error .overflow

def subOffsets (a b : Nat) : Checked Nat :=
  if b ≤ a then .ok (a - b) else .error .overflow

def mulOffsets (width a b : Nat) : Checked Nat :=
  if a * b < 2 ^ width then .ok (a * b) else .error .overflow

namespace Reader

/-! ## The reader -/

/-- The loop of `ReadLittleEndian`, with `remaining` bytes to read. -/
def littleEndianFrom (bytes : List UInt8) (offset : Nat) : Nat → Nat → Checked Nat
  | 0, _ => .ok 0
  | remaining + 1, index => do
    let place ← addOffsets 64 offset index
    let byte ← byteAt bytes place
    let value ← littleEndianFrom bytes offset remaining (index + 1)
    .ok (byte.toNat + 256 * value)

def readLittleEndian (width : Nat) (bytes : List UInt8) (offset : Nat) : Checked (Option Nat) :=
  if bytes.length < offset then .ok none
  else do
    let left ← subOffsets bytes.length offset
    if left < width then .ok none
    else do
      let value ← littleEndianFrom bytes offset width 0
      .ok (some value)

def addRange (ranges : List Range) (offset size fileSize : Nat) : Checked (Bool × List Range) :=
  if size = 0 ∨ fileSize < offset then .ok (false, ranges)
  else do
    let left ← subOffsets fileSize offset
    if left < size then .ok (false, ranges)
    else .ok (true, ranges ++ [⟨offset, size⟩])

/-- The bytes at `base` in turn, up to the first that is not as expected. -/
def bytesAt (width : Nat) (bytes : List UInt8) (base : Nat) : Nat → List UInt8 → Checked Bool
  | _, [] => .ok true
  | index, expected :: rest => do
    let place ← addOffsets width base index
    let byte ← byteAt bytes place
    if byte = expected then bytesAt width bytes base (index + 1) rest else .ok false

/-- The loop over the headers of a table, from `index` on. A header that cannot be read or
has a range that cannot be added ends it. -/
def tableRanges (readHeader : Nat → List Range → Checked (Bool × List Range)) :
    Nat → Nat → List Range → Checked (Bool × List Range)
  | 0, _, ranges => .ok (ranges ≠ [], ranges)
  | remaining + 1, index, ranges => do
    let (read, ranges) ← readHeader index ranges
    if read then do
      let next ← addOffsets 16 index 1
      tableRanges readHeader remaining next ranges
    else .ok (false, ranges)

def elfHeader (bytes : List UInt8) (table entrySize index : Nat) (ranges : List Range) :
    Checked (Bool × List Range) := do
  let behind ← mulOffsets 64 index entrySize
  let entry ← addOffsets 64 table behind
  let some type ← readLittleEndian 4 bytes entry | .ok (false, ranges)
  let flagsPlace ← addOffsets 64 entry 4
  let some flags ← readLittleEndian 4 bytes flagsPlace | .ok (false, ranges)
  let offsetPlace ← addOffsets 64 entry 8
  let some offset ← readLittleEndian 8 bytes offsetPlace | .ok (false, ranges)
  let sizePlace ← addOffsets 64 entry 32
  let some size ← readLittleEndian 8 bytes sizePlace | .ok (false, ranges)
  if type = 1 ∧ flags &&& 1 ≠ 0 then addRange ranges offset size bytes.length
  else .ok (true, ranges)

def elfRanges (bytes : List UInt8) (ranges : List Range) : Checked (Bool × List Range) := do
  if bytes.length < 64 then .ok (false, ranges)
  else
    let magic ← bytesAt 64 bytes 0 0 [0x7f, 0x45, 0x4c, 0x46, 2, 1, 1]
    if ¬ magic then .ok (false, ranges)
    else
      let some machine ← readLittleEndian 2 bytes 18 | .ok (false, ranges)
      if machine ≠ 62 then .ok (false, ranges)
      else
        let some table ← readLittleEndian 8 bytes 32 | .ok (false, ranges)
        let some entrySize ← readLittleEndian 2 bytes 54 | .ok (false, ranges)
        let some entryCount ← readLittleEndian 2 bytes 56 | .ok (false, ranges)
        if entrySize < 56 ∨ entryCount = 0 then .ok (false, ranges)
        else if bytes.length < table then .ok (false, ranges)
        else
          let size ← mulOffsets 64 entrySize entryCount
          let left ← subOffsets bytes.length table
          if left < size then .ok (false, ranges)
          else tableRanges (elfHeader bytes table entrySize) entryCount 0 ranges

def peHeader (bytes : List UInt8) (table index : Nat) (ranges : List Range) :
    Checked (Bool × List Range) := do
  let behind ← mulOffsets 64 index 40
  let header ← addOffsets 64 table behind
  let sizePlace ← addOffsets 64 header 16
  let some rawSize ← readLittleEndian 4 bytes sizePlace | .ok (false, ranges)
  let offsetPlace ← addOffsets 64 header 20
  let some rawOffset ← readLittleEndian 4 bytes offsetPlace | .ok (false, ranges)
  let flagsPlace ← addOffsets 64 header 36
  let some characteristics ← readLittleEndian 4 bytes flagsPlace | .ok (false, ranges)
  if characteristics &&& 0x20000000 ≠ 0 then addRange ranges rawOffset rawSize bytes.length
  else .ok (true, ranges)

def peRanges (bytes : List UInt8) (ranges : List Range) : Checked (Bool × List Range) := do
  if bytes.length < 64 then .ok (false, ranges)
  else
    let magic ← bytesAt 64 bytes 0 0 [0x4d, 0x5a]
    if ¬ magic then .ok (false, ranges)
    else
      let some peOffset ← readLittleEndian 4 bytes 0x3c | .ok (false, ranges)
      if bytes.length < peOffset then .ok (false, ranges)
      else
        let left ← subOffsets bytes.length peOffset
        if left < 24 then .ok (false, ranges)
        else
          -- `bytes[pe_offset + 1]` and the two behind it are computed in 32 bits.
          let signature ← bytesAt 32 bytes peOffset 0 peSignature
          if ¬ signature then .ok (false, ranges)
          else
            let machinePlace ← addOffsets 64 peOffset 4
            let some machine ← readLittleEndian 2 bytes machinePlace | .ok (false, ranges)
            if machine ≠ 0x8664 then .ok (false, ranges)
            else
              let countPlace ← addOffsets 64 peOffset 6
              let some sectionCount ← readLittleEndian 2 bytes countPlace | .ok (false, ranges)
              let sizePlace ← addOffsets 64 peOffset 20
              let some optionalSize ← readLittleEndian 2 bytes sizePlace | .ok (false, ranges)
              if optionalSize < 2 then .ok (false, ranges)
              else
                let magicPlace ← addOffsets 64 peOffset 24
                let some optionalMagic ← readLittleEndian 2 bytes magicPlace
                  | .ok (false, ranges)
                if optionalMagic ≠ 0x20b ∨ sectionCount = 0 then .ok (false, ranges)
                else
                  let optional ← addOffsets 64 peOffset 24
                  let table ← addOffsets 64 optional optionalSize
                  if bytes.length < table then .ok (false, ranges)
                  else
                    let size ← mulOffsets 64 sectionCount 40
                    let left ← subOffsets bytes.length table
                    if left < size then .ok (false, ranges)
                    else tableRanges (peHeader bytes table) sectionCount 0 ranges

/-- `ReadModuleImage`, behind the reading of the file. `PeRanges` is given the list that
`ElfRanges` may have added to before it gave up. -/
def readModuleImage (bytes : List UInt8) : Checked (Option ModuleImage) :=
  if bytes.length = 0 ∨ 2 ^ 63 ≤ bytes.length then .ok none
  else do
    let (elf, ranges) ← elfRanges bytes []
    if elf then .ok (some ⟨bytes, sortBy Range.offset ranges⟩)
    else do
      let (pe, ranges) ← peRanges bytes ranges
      if pe then .ok (some ⟨bytes, sortBy Range.offset ranges⟩) else .ok none

/-- The inner loop of `Scan`. -/
def matchesFrom (bytes : List UInt8) (position : Nat) : List (Option UInt8) → Nat → Checked Bool
  | [], _ => .ok true
  | none :: rest, index => matchesFrom bytes position rest (index + 1)
  | some value :: rest, index => do
    let place ← addOffsets 64 position index
    let byte ← byteAt bytes place
    if byte = value then matchesFrom bytes position rest (index + 1) else .ok false

/-- The loop of `Scan` over the positions in a range, with `remaining` of them to go. -/
def scanFrom (bytes : List UInt8) (pattern : List (Option UInt8)) :
    Nat → Nat → Checked (List Nat)
  | 0, _ => .ok []
  | remaining + 1, position => do
    let found ← matchesFrom bytes position pattern 0
    let next ← addOffsets 64 position 1
    let others ← scanFrom bytes pattern remaining next
    .ok (if found then position :: others else others)

def scanRange (bytes : List UInt8) (pattern : List (Option UInt8)) (range : Range) :
    Checked (List Nat) :=
  if range.size < pattern.length then .ok []
  else do
    let stop ← addOffsets 64 range.offset range.size
    let last ← subOffsets stop pattern.length
    scanFrom bytes pattern (last + 1 - range.offset) range.offset

def scanRanges (bytes : List UInt8) (pattern : List (Option UInt8)) :
    List Range → Checked (List Nat)
  | [] => .ok []
  | range :: ranges => do
    let found ← scanRange bytes pattern range
    let others ← scanRanges bytes pattern ranges
    .ok (found ++ others)

def scan (image : ModuleImage) (pattern : List (Option UInt8)) : Checked (List Nat) := do
  let found ← scanRanges image.bytes pattern image.executableRanges
  .ok (unique (sortBy id found))

/-- A module is read, and scanned for a pattern. -/
def readAndScan (bytes : List UInt8) (pattern : List (Option UInt8)) :
    Checked (Option (ModuleImage × List Nat)) := do
  let some image ← readModuleImage bytes | .ok none
  let found ← scan image pattern
  .ok (some (image, found))

/-! ## No fault in the parts -/

variable {bytes : List UInt8} {width a b offset index : Nat}

theorem addOffsets_eq (h : a + b < 2 ^ width) : addOffsets width a b = .ok (a + b) :=
  if_pos h

theorem subOffsets_eq (h : b ≤ a) : subOffsets a b = .ok (a - b) :=
  if_pos h

theorem mulOffsets_eq (h : a * b < 2 ^ width) : mulOffsets width a b = .ok (a * b) :=
  if_pos h

theorem byteAt_eq (h : offset < bytes.length) : byteAt bytes offset = .ok bytes[offset] := by
  unfold byteAt
  rw [List.getElem?_eq_getElem h]

@[simp] theorem ok_bind {α β : Type} (value : α) (next : α → Checked β) :
    ((Except.ok value : Checked α) >>= next) = next value := rfl

section Parts

variable {bytes : List UInt8} (hlength : bytes.length < 2 ^ 64)

include hlength

theorem littleEndianFrom_eq {offset remaining index : Nat}
    (h : offset + index + remaining ≤ bytes.length) :
    littleEndianFrom bytes offset remaining index
      = .ok (((bytes.drop (offset + index)).take remaining).foldr
        (fun byte value => byte.toNat + 256 * value) 0) := by
  induction remaining generalizing index with
  | zero => rfl
  | succ remaining ih =>
    have hplace : offset + index < bytes.length := by omega
    rw [littleEndianFrom, addOffsets_eq (by omega), ok_bind, byteAt_eq hplace, ok_bind,
      ih (by omega), ok_bind, List.drop_eq_getElem_cons hplace]
    rfl

theorem readLittleEndian_eq (width offset : Nat) :
    readLittleEndian width bytes offset
      = .ok (Compatibility.readLittleEndian width bytes offset) := by
  unfold readLittleEndian Compatibility.readLittleEndian
  by_cases hbehind : bytes.length < offset
  · rw [if_pos hbehind, if_pos (.inl hbehind)]
  · rw [if_neg hbehind, subOffsets_eq (by omega), ok_bind]
    by_cases hshort : bytes.length - offset < width
    · rw [if_pos hshort, if_pos (.inr hshort)]
    · rw [if_neg hshort, littleEndianFrom_eq hlength (by omega), ok_bind,
        if_neg (by simp [hbehind, hshort])]
      rfl

end Parts

/-- What a header comes to. -/
def headerRead (ranges : List Range) : Option (Option Range) → Checked (Bool × List Range)
  | none => .ok (false, ranges)
  | some header => .ok (true, ranges ++ header.toList)

theorem addRange_eq (ranges : List Range) (offset size fileSize : Nat) :
    addRange ranges offset size fileSize
      = headerRead ranges ((Compatibility.addRange offset size fileSize).map some) := by
  unfold addRange Compatibility.addRange
  by_cases hempty : size = 0 ∨ fileSize < offset
  · rw [if_pos hempty, if_pos (by tauto)]
    rfl
  · rw [if_neg hempty, subOffsets_eq (by omega), ok_bind]
    by_cases hlong : fileSize - offset < size
    · rw [if_pos hlong, if_pos (by tauto)]
      rfl
    · rw [if_neg hlong, if_neg (by tauto)]
      rfl

theorem elfHeader_eq (hlength : bytes.length < 2 ^ 64) {table entrySize : Nat}
    (h : table + index * entrySize + 56 ≤ bytes.length) (ranges : List Range) :
    elfHeader bytes table entrySize index ranges
      = headerRead ranges (Compatibility.elfHeader bytes (table + index * entrySize)) := by
  unfold elfHeader Compatibility.elfHeader
  rw [mulOffsets_eq (by omega), ok_bind, addOffsets_eq (by omega), ok_bind]
  generalize table + index * entrySize = entry at h ⊢
  rw [addOffsets_eq (by omega), addOffsets_eq (by omega), addOffsets_eq (by omega)]
  simp only [readLittleEndian_eq hlength, ok_bind]
  cases Compatibility.readLittleEndian 4 bytes entry with
  | none => rfl
  | some type =>
    cases Compatibility.readLittleEndian 4 bytes (entry + 4) with
    | none => rfl
    | some flags =>
      cases Compatibility.readLittleEndian 8 bytes (entry + 8) with
      | none => rfl
      | some offset =>
        cases Compatibility.readLittleEndian 8 bytes (entry + 32) with
        | none => rfl
        | some size =>
          simp only [Option.bind_eq_bind, Option.bind_some]
          split
          · exact addRange_eq ranges offset size bytes.length
          · simp [headerRead]

theorem peHeader_eq (hlength : bytes.length < 2 ^ 64) {table : Nat}
    (h : table + index * 40 + 40 ≤ bytes.length) (ranges : List Range) :
    peHeader bytes table index ranges
      = headerRead ranges (Compatibility.peHeader bytes (table + index * 40)) := by
  unfold peHeader Compatibility.peHeader
  rw [mulOffsets_eq (by omega), ok_bind, addOffsets_eq (by omega), ok_bind]
  generalize table + index * 40 = header at h ⊢
  rw [addOffsets_eq (by omega), addOffsets_eq (by omega), addOffsets_eq (by omega)]
  simp only [readLittleEndian_eq hlength, ok_bind]
  cases Compatibility.readLittleEndian 4 bytes (header + 16) with
  | none => rfl
  | some rawSize =>
    cases Compatibility.readLittleEndian 4 bytes (header + 20) with
    | none => rfl
    | some rawOffset =>
      cases Compatibility.readLittleEndian 4 bytes (header + 36) with
      | none => rfl
      | some characteristics =>
        simp only [Option.bind_eq_bind, Option.bind_some]
        split
        · exact addRange_eq ranges rawOffset rawSize bytes.length
        · simp [headerRead]

/-- What the loop over a table comes to, next to the headers it is to read. -/
def LoopRead (result : Checked (Bool × List Range)) (ranges : List Range) :
    Option (List (Option Range)) → Prop
  | some headers =>
    result = .ok (decide (ranges ++ headers.reduceOption ≠ []), ranges ++ headers.reduceOption)
  | none => ∃ left, result = .ok (false, left)

theorem tableRanges_eq {readHeader : Nat → List Range → Checked (Bool × List Range)}
    {header : Nat → Option (Option Range)} {remaining index : Nat} {ranges : List Range}
    (hheader : ∀ place, index ≤ place → place < index + remaining →
      ∀ ranges, readHeader place ranges = headerRead ranges (header place))
    (hcount : index + remaining < 2 ^ 16) :
    LoopRead (tableRanges readHeader remaining index ranges) ranges
      ((List.range' index remaining).mapM header) := by
  induction remaining generalizing index ranges with
  | zero => simp [tableRanges, LoopRead]
  | succ remaining ih =>
    rw [List.range'_succ, List.mapM_cons, tableRanges,
      hheader index (Nat.le_refl _) (by omega)]
    cases hread : header index with
    | none => exact ⟨ranges, rfl⟩
    | some found =>
      have hrest := @ih (index + 1) (ranges ++ found.toList)
        (fun place hlow hhigh => hheader place (by omega) (by omega)) (by omega)
      simp only [headerRead, ok_bind, if_pos, addOffsets_eq (show index + 1 < 2 ^ 16 by omega)]
      cases hothers : (List.range' (index + 1) remaining).mapM header with
      | none =>
        rw [hothers] at hrest
        exact hrest
      | some headers =>
        rw [hothers] at hrest
        have hlist : ranges ++ found.toList ++ headers.reduceOption
            = ranges ++ (found :: headers).reduceOption := by
          cases found <;> simp [List.reduceOption]
        simp only [LoopRead, hlist] at hrest
        exact hrest

/-! ## The bytes of a signature -/

/-- The bytes from a place on are as expected. -/
def Stands (bytes : List UInt8) (place : Nat) (expected : List UInt8) : Prop :=
  ∀ index < expected.length, bytes[place + index]? = expected[index]?

/-- The comparison comes to a byte whose place the type cannot hold. -/
def Wraps (width : Nat) (bytes : List UInt8) (place : Nat) (expected : List UInt8) : Prop :=
  ∃ index < expected.length, 2 ^ width ≤ place + index ∧
    ∀ earlier < index, bytes[place + earlier]? = expected[earlier]?

instance (bytes : List UInt8) (place : Nat) (expected : List UInt8) :
    Decidable (Stands bytes place expected) :=
  inferInstanceAs (Decidable (∀ index < expected.length,
    bytes[place + index]? = expected[index]?))

theorem stands_cons {place : Nat} {first : UInt8} {rest : List UInt8} :
    Stands bytes place (first :: rest) ↔
      bytes[place]? = some first ∧ Stands bytes (place + 1) rest := by
  constructor
  · intro h
    refine ⟨h 0 (Nat.succ_pos _), fun index hindex => ?_⟩
    have hnext := h (index + 1) (Nat.succ_lt_succ hindex)
    rwa [← Nat.add_assoc, Nat.add_right_comm] at hnext
  · rintro ⟨hfirst, hrest⟩ index hindex
    cases index with
    | zero => exact hfirst
    | succ index =>
      have hnext := hrest index (Nat.lt_of_succ_lt_succ hindex)
      rwa [Nat.add_right_comm, Nat.add_assoc] at hnext

theorem wraps_cons {place : Nat} {first : UInt8} {rest : List UInt8} :
    Wraps width bytes place (first :: rest) ↔
      2 ^ width ≤ place ∨ (bytes[place]? = some first ∧ Wraps width bytes (place + 1) rest) := by
  constructor
  · rintro ⟨index, hindex, hroom, hearlier⟩
    cases index with
    | zero => exact .inl hroom
    | succ index =>
      refine .inr ⟨hearlier 0 (Nat.succ_pos _), index, Nat.lt_of_succ_lt_succ hindex, by omega,
        fun earlier hlt => ?_⟩
      have hnext := hearlier (earlier + 1) (Nat.succ_lt_succ hlt)
      rwa [← Nat.add_assoc, Nat.add_right_comm] at hnext
  · rintro (hroom | ⟨hfirst, index, hindex, hroom, hearlier⟩)
    · exact ⟨0, Nat.succ_pos _, hroom, fun earlier hlt => absurd hlt (Nat.not_lt_zero _)⟩
    · refine ⟨index + 1, Nat.succ_lt_succ hindex, by omega, fun earlier hlt => ?_⟩
      cases earlier with
      | zero => exact hfirst
      | succ earlier =>
        have hnext := hearlier earlier (Nat.lt_of_succ_lt_succ hlt)
        rwa [Nat.add_right_comm, Nat.add_assoc] at hnext

theorem bytesAt_eq {base : Nat} {expected : List UInt8}
    (hinside : base + index + expected.length ≤ bytes.length) :
    (Wraps width bytes (base + index) expected →
      bytesAt width bytes base index expected = .error .overflow) ∧
    (¬ Wraps width bytes (base + index) expected →
      bytesAt width bytes base index expected
        = .ok (decide (Stands bytes (base + index) expected))) := by
  induction expected generalizing index with
  | nil =>
    refine ⟨fun ⟨_, hlt, _⟩ => absurd hlt (Nat.not_lt_zero _), fun _ => ?_⟩
    have hstands : Stands bytes (base + index) [] := fun _ hlt => absurd hlt (Nat.not_lt_zero _)
    rw [decide_eq_true hstands]
    rfl
  | cons first rest ih =>
    rw [List.length_cons] at hinside
    have hplace : base + index < bytes.length := by omega
    have hget : bytes[base + index]? = some bytes[base + index] :=
      List.getElem?_eq_getElem hplace
    rw [wraps_cons]
    by_cases hroom : 2 ^ width ≤ base + index
    · refine ⟨fun _ => ?_, fun h => absurd (.inl hroom) h⟩
      rw [bytesAt, addOffsets, if_neg (by omega)]
      rfl
    · rw [bytesAt, addOffsets_eq (by omega), ok_bind, byteAt_eq hplace, ok_bind]
      by_cases hsame : bytes[base + index] = first
      · rw [if_pos hsame]
        have hfirst : bytes[base + index]? = some first := by rw [hget, hsame]
        obtain ⟨hwraps, hclean⟩ := @ih (index + 1) (by omega)
        refine ⟨fun h => hwraps ?_, fun h => ?_⟩
        · exact (h.resolve_left hroom).2
        · rw [hclean fun hrest => h (.inr ⟨hfirst, hrest⟩)]
          congr 2
          rw [stands_cons, eq_iff_iff]
          exact ⟨fun hrest => ⟨hfirst, hrest⟩, fun hall => hall.2⟩
      · have hother : bytes[base + index]? ≠ some first := by
          rw [hget]
          exact fun heq => hsame (Option.some.inj heq)
        rw [if_neg hsame]
        refine ⟨fun h => absurd (h.resolve_left hroom).1 hother, fun _ => ?_⟩
        rw [decide_eq_false fun hall => hother (stands_cons.1 hall).1]

theorem take_eq_iff_stands {bytes expected : List UInt8} :
    bytes.take expected.length = expected ↔ Stands bytes 0 expected := by
  constructor
  · intro heq index hindex
    rw [Nat.zero_add, ← heq, List.getElem?_take, if_pos hindex]
  · intro hstands
    apply List.ext_getElem?
    intro index
    rw [List.getElem?_take]
    split
    · rename_i hindex
      have := hstands index hindex
      rwa [Nat.zero_add] at this
    · rename_i hbehind
      exact (List.getElem?_eq_none (by omega)).symm

/-! ## The two formats -/

theorem readLittleEndian_some {width : Nat} {bytes : List UInt8} {offset : Nat}
    (h : offset + width ≤ bytes.length) :
    ∃ value, Compatibility.readLittleEndian width bytes offset = some value := by
  refine ⟨_, if_neg ?_⟩
  omega

theorem readLittleEndian_lt {value : Nat}
    (h : Compatibility.readLittleEndian width bytes offset = some value) : value < 256 ^ width := by
  unfold Compatibility.readLittleEndian at h
  split at h
  · cases h
  · cases h
    have hfold : ∀ few : List UInt8,
        few.foldr (fun byte value => byte.toNat + 256 * value) 0 < 256 ^ few.length := by
      intro few
      induction few with
      | nil => exact Nat.one_pos
      | cons byte rest ih =>
        have hbyte := byte.toNat_lt
        rw [List.foldr_cons, List.length_cons, Nat.pow_succ]
        omega
    refine Nat.lt_of_lt_of_le (hfold _) (Nat.pow_le_pow_right (by decide) ?_)
    rw [List.length_take]
    exact Nat.min_le_left _ _

/-- What one of the readers comes to, next to what it should find. -/
def ReadAs (result : Checked (Bool × List Range)) (found : Option (List Range)) : Prop :=
  match found with
  | some ranges => result = .ok (true, ranges)
  | none => ∃ left, result = .ok (false, left)

theorem readAs_none (left : List Range) : ReadAs (.ok (false, left)) none :=
  ⟨left, rfl⟩

/-- The loop from the first header on, with nothing found before. -/
theorem readAs_tableRanges {readHeader : Nat → List Range → Checked (Bool × List Range)}
    {header : Nat → Option (Option Range)} {count : Nat}
    (hheader : ∀ place < count, ∀ ranges, readHeader place ranges = headerRead ranges
    (header place))
    (hcount : count < 2 ^ 16) :
    ReadAs (tableRanges readHeader count 0 []) (Compatibility.tableRanges header count) := by
  have hloop := @tableRanges_eq readHeader header count 0 []
    (fun place _ hplace => hheader place (by omega)) (by omega)
  unfold Compatibility.tableRanges
  rw [List.range_eq_range']
  cases hread : (List.range' 0 count).mapM header with
  | none =>
    rw [hread] at hloop
    exact hloop
  | some headers =>
    rw [hread] at hloop
    dsimp only [LoopRead] at hloop ⊢
    rw [hloop, List.nil_append]
    split
    · rename_i hempty
      rw [hempty]
      exact readAs_none []
    · rename_i hsome
      rw [decide_eq_true hsome]
      rfl

theorem not_wraps_front {expected : List UInt8} (h : expected.length ≤ 64) :
    ¬ Wraps 64 bytes (0 + 0) expected := by
  rintro ⟨index, hindex, hroom, -⟩
  omega

theorem readAs_elfRanges {bytes : List UInt8} (hlength : bytes.length < 2 ^ 64) :
    ReadAs (elfRanges bytes []) (Compatibility.elfRanges bytes) := by
  unfold elfRanges Compatibility.elfRanges
  by_cases hshort : bytes.length < 64
  · rw [if_pos hshort, if_pos (.inl hshort)]
    exact readAs_none []
  · rw [if_neg hshort, (bytesAt_eq (by simp; omega)).2 (not_wraps_front (by decide)), ok_bind]
    have hmagic := @take_eq_iff_stands bytes [0x7f, 0x45, 0x4c, 0x46, 2, 1, 1]
    by_cases hstands : Stands bytes 0 [0x7f, 0x45, 0x4c, 0x46, 2, 1, 1]
    · rw [if_neg (by simp [hstands]), if_neg (by rw [not_or, Decidable.not_not]; exact
        ⟨hshort, hmagic.2 hstands⟩)]
      obtain ⟨machine, hmachine⟩ := @readLittleEndian_some 2 bytes 18 (by omega)
      obtain ⟨table, htable⟩ := @readLittleEndian_some 8 bytes 32 (by omega)
      obtain ⟨entrySize, hsize⟩ := @readLittleEndian_some 2 bytes 54 (by omega)
      obtain ⟨entryCount, hcount⟩ := @readLittleEndian_some 2 bytes 56 (by omega)
      have hsizelt := readLittleEndian_lt hsize
      have hcountlt := readLittleEndian_lt hcount
      simp only [readLittleEndian_eq hlength, hmachine, htable, hsize, hcount, ok_bind,
        Option.bind_eq_bind, Option.bind_some]
      by_cases hx86 : machine = 62
      · by_cases hfields : entrySize < 56 ∨ entryCount = 0
        · rw [if_neg (by simp [hx86]), if_pos hfields, if_pos (.inr hfields)]
          exact readAs_none []
        · have hproduct : entrySize * entryCount < 2 ^ 64 :=
            Nat.lt_trans (Nat.mul_lt_mul'' hsizelt hcountlt) (by decide)
          have hheader : ¬ (machine ≠ 62 ∨ entrySize < 56 ∨ entryCount = 0) := by tauto
          rw [if_neg (by simp [hx86]), if_neg hfields, if_neg hheader]
          by_cases hbehind : bytes.length < table
          · rw [if_pos hbehind, if_pos (.inl hbehind)]
            exact readAs_none []
          · rw [if_neg hbehind, mulOffsets_eq hproduct, subOffsets_eq (by omega), ok_bind, ok_bind]
            by_cases hlong : bytes.length - table < entrySize * entryCount
            · rw [if_pos hlong, if_pos (.inr hlong)]
              exact readAs_none []
            · rw [if_neg hlong, if_neg (by tauto)]
              refine readAs_tableRanges (fun place hplace ranges => ?_) hcountlt
              apply elfHeader_eq hlength
              have hentries : (place + 1) * entrySize ≤ entryCount * entrySize :=
                Nat.mul_le_mul_right _ hplace
              rw [Nat.add_mul, Nat.one_mul, Nat.mul_comm entryCount] at hentries
              omega
      · rw [if_pos hx86, if_pos (.inl hx86)]
        exact readAs_none []
    · rw [if_pos (by simp [hstands]), if_pos (.inr fun htake => hstands (hmagic.1 htake))]
      exact readAs_none []

/-- A file that does not begin like an ELF file is refused before a range is added. -/
theorem elfRanges_of_not_magic (h : bytes[0]? ≠ some 0x7f) (ranges : List Range) :
    elfRanges bytes ranges = .ok (false, ranges) := by
  unfold elfRanges
  by_cases hshort : bytes.length < 64
  · rw [if_pos hshort]
  · rw [if_neg hshort, (bytesAt_eq (by simp; omega)).2 (not_wraps_front (by decide)), ok_bind,
      if_pos]
    have hstands : ¬ Stands bytes (0 + 0) [0x7f, 0x45, 0x4c, 0x46, 2, 1, 1] := fun hall =>
      h (stands_cons.1 hall).1
    simp [hstands]

/-- The place of a byte of the PE signature does not fit 32 bits, and the reader comes to
it. -/
def PeOffsetWraps (bytes : List UInt8) : Prop :=
  64 ≤ bytes.length ∧ bytes.length < 2 ^ 63 ∧ Stands bytes 0 [0x4d, 0x5a] ∧
    ∃ peOffset, Compatibility.readLittleEndian 4 bytes 0x3c = some peOffset ∧
      peOffset + 24 ≤ bytes.length ∧ Wraps 32 bytes peOffset peSignature

theorem hasPeSignature_iff {peOffset : Nat} (hinside : peOffset + 24 ≤ bytes.length)
    (hclean : ¬ Wraps 32 bytes peOffset peSignature) :
    hasPeSignature bytes peOffset = true ↔ Stands bytes peOffset peSignature := by
  have hroom : ∀ index < 4, (∀ earlier < index, bytes[peOffset + earlier]? =
    peSignature[earlier]?) →
      (peOffset + index) % 2 ^ 32 = peOffset + index := by
    intro index hindex hearlier
    apply Nat.mod_eq_of_lt
    by_contra hwide
    exact hclean ⟨index, hindex, by omega, hearlier⟩
  have hbyte : ∀ index < 4, bytes.getD (peOffset + index) 0 = peSignature.getD index 0 ↔
      bytes[peOffset + index]? = peSignature[index]? := by
    intro index hindex
    have hfile : peOffset + index < bytes.length := by omega
    rw [List.getD_eq_getElem?_getD, List.getD_eq_getElem?_getD, List.getElem?_eq_getElem hfile,
      List.getElem?_eq_getElem (show index < peSignature.length from hindex)]
    simp
  simp only [hasPeSignature, List.all_eq_true, List.mem_range, beq_iff_eq]
  constructor
  · intro h index
    -- Every byte before this one is as expected, so this one's place has not wrapped.
    induction index using Nat.strong_induction_on with
    | _ index ih =>
      intro hindex
      have hplace := hroom index hindex fun earlier hlt => ih earlier hlt (by omega)
      have hfound := h index hindex
      rw [hplace] at hfound
      exact (hbyte index hindex).1 hfound
  · intro hstands index hindex
    rw [hroom index hindex fun earlier hlt => hstands earlier (Nat.lt_trans hlt hindex)]
    exact (hbyte index hindex).2 (hstands index hindex)

theorem readAs_sections (hlength : bytes.length < 2 ^ 64)
    {peOffset machine sectionCount optionalSize optionalMagic : Nat}
    (hcount : sectionCount < 256 ^ 2) (hroom : peOffset + 24 + optionalSize < 2 ^ 64) :
    ReadAs
      (if machine ≠ 0x8664 then .ok (false, [])
        else if optionalSize < 2 then .ok (false, [])
        else if optionalMagic ≠ 0x20b ∨ sectionCount = 0 then .ok (false, [])
        else do
          let table ← addOffsets 64 (peOffset + 24) optionalSize
          if bytes.length < table then .ok (false, [])
          else do
            let size ← mulOffsets 64 sectionCount 40
            let left ← subOffsets bytes.length table
            if left < size then .ok (false, [])
            else tableRanges (peHeader bytes table) sectionCount 0 [])
      (if machine ≠ 0x8664 ∨ optionalSize < 2 ∨ optionalMagic ≠ 0x20b ∨ sectionCount = 0 then none
        else if bytes.length < peOffset + 24 + optionalSize ∨
          bytes.length - (peOffset + 24 + optionalSize) < sectionCount * 40 then none
        else Compatibility.tableRanges
          (fun index => Compatibility.peHeader bytes (peOffset + 24 + optionalSize + index * 40))
          sectionCount) := by
  by_cases hmachine : machine ≠ 0x8664
  · rw [if_pos hmachine, if_pos (.inl hmachine)]
    exact readAs_none []
  · rw [if_neg hmachine]
    by_cases hsmall : optionalSize < 2
    · rw [if_pos hsmall, if_pos (.inr (.inl hsmall))]
      exact readAs_none []
    · rw [if_neg hsmall]
      by_cases hfields : optionalMagic ≠ 0x20b ∨ sectionCount = 0
      · rw [if_pos hfields, if_pos (.inr (.inr hfields))]
        exact readAs_none []
      · have hheader : ¬ (machine ≠ 0x8664 ∨ optionalSize < 2 ∨ optionalMagic ≠ 0x20b ∨
            sectionCount = 0) := by tauto
        rw [if_neg hfields, if_neg hheader, addOffsets_eq hroom, ok_bind]
        generalize peOffset + 24 + optionalSize = table
        by_cases hbehind : bytes.length < table
        · rw [if_pos hbehind, if_pos (.inl hbehind)]
          exact readAs_none []
        · rw [if_neg hbehind, mulOffsets_eq (by omega), subOffsets_eq (by omega), ok_bind, ok_bind]
          by_cases hlong : bytes.length - table < sectionCount * 40
          · rw [if_pos hlong, if_pos (.inr hlong)]
            exact readAs_none []
          · have hfits : ¬ (bytes.length < table ∨ bytes.length - table < sectionCount * 40) := by
              tauto
            rw [if_neg hlong, if_neg hfits]
            refine readAs_tableRanges (fun place hplace ranges => ?_) hcount
            exact peHeader_eq hlength (by omega) ranges

theorem readAs_peRanges (hlength : bytes.length < 2 ^ 63) (hclean : ¬ PeOffsetWraps bytes) :
    ReadAs (peRanges bytes []) (Compatibility.peRanges bytes) := by
  have hwide : bytes.length < 2 ^ 64 := by omega
  unfold peRanges Compatibility.peRanges
  by_cases hshort : bytes.length < 64
  · rw [if_pos hshort, if_pos (.inl hshort)]
    exact readAs_none []
  · rw [if_neg hshort, (bytesAt_eq (by simp; omega)).2 (not_wraps_front (by decide)), ok_bind]
    have hmagic := @take_eq_iff_stands bytes [0x4d, 0x5a]
    by_cases hstands : Stands bytes 0 [0x4d, 0x5a]
    · rw [if_neg (by simp [hstands]), if_neg (by rw [not_or, Decidable.not_not]; exact
        ⟨hshort, hmagic.2 hstands⟩)]
      obtain ⟨peOffset, hpe⟩ := @readLittleEndian_some 4 bytes 0x3c (by omega)
      have hpelt := readLittleEndian_lt hpe
      simp only [readLittleEndian_eq hwide, hpe, ok_bind, Option.bind_eq_bind, Option.bind_some]
      by_cases hbehind : bytes.length < peOffset
      · rw [if_pos hbehind, if_pos (.inl hbehind)]
        exact readAs_none []
      · rw [if_neg hbehind, subOffsets_eq (by omega), ok_bind]
        by_cases hroom : bytes.length - peOffset < 24
        · rw [if_pos hroom, if_pos (.inr (.inl hroom))]
          exact readAs_none []
        · have hkept : ¬ Wraps 32 bytes peOffset peSignature := fun hwraps =>
            hclean ⟨by omega, hlength, hstands, peOffset, hpe, by omega, hwraps⟩
          have hsignature := hasPeSignature_iff (by omega) hkept
          rw [if_neg hroom, (bytesAt_eq (by simp [peSignature]; omega)).2 hkept, ok_bind]
          by_cases hpresent : Stands bytes peOffset peSignature
          · have hheader : ¬ (bytes.length < peOffset ∨ bytes.length - peOffset < 24 ∨
                ¬ hasPeSignature bytes peOffset = true) := by tauto
            rw [if_neg (by simp [hpresent]), if_neg hheader]
            obtain ⟨machine, hmachine⟩ := @readLittleEndian_some 2 bytes (peOffset + 4) (by omega)
            obtain ⟨sectionCount, hcount⟩ :=
              @readLittleEndian_some 2 bytes (peOffset + 6) (by omega)
            obtain ⟨optionalSize, hsize⟩ :=
              @readLittleEndian_some 2 bytes (peOffset + 20) (by omega)
            have hcountlt := readLittleEndian_lt hcount
            have hsizelt := readLittleEndian_lt hsize
            rw [addOffsets_eq (by omega), addOffsets_eq (by omega), addOffsets_eq (by omega),
              addOffsets_eq (by omega)]
            simp only [ok_bind, hmachine, hcount, hsize, Option.bind_some]
            cases hoptional : Compatibility.readLittleEndian 2 bytes (peOffset + 24) with
            | none =>
              simp only [Option.bind_none]
              split
              · exact readAs_none []
              · split <;> exact readAs_none []
            | some optionalMagic =>
              simp only [Option.bind_some]
              exact readAs_sections hwide hcountlt (by omega)
          · rw [if_pos (by simp [hpresent]), if_pos (by tauto)]
            exact readAs_none []
    · rw [if_pos (by simp [hstands]), if_pos (.inr fun htake => hstands (hmagic.1 htake))]
      exact readAs_none []

theorem peRanges_of_not_magic (h : bytes[0]? ≠ some 0x4d) (ranges : List Range) :
    peRanges bytes ranges = .ok (false, ranges) := by
  unfold peRanges
  by_cases hshort : bytes.length < 64
  · rw [if_pos hshort]
  · rw [if_neg hshort, (bytesAt_eq (by simp; omega)).2 (not_wraps_front (by decide)), ok_bind,
      if_pos]
    have hstands : ¬ Stands bytes (0 + 0) [0x4d, 0x5a] := fun hall => h (stands_cons.1 hall).1
    simp [hstands]

theorem peRanges_of_wraps (h : PeOffsetWraps bytes) (ranges : List Range) :
    peRanges bytes ranges = .error .overflow := by
  obtain ⟨hlong, hlength, hmagic, peOffset, hpe, hinside, hwraps⟩ := h
  unfold peRanges
  rw [if_neg (by omega), (bytesAt_eq (by simp; omega)).2 (not_wraps_front (by decide)), ok_bind,
    if_neg (by simp [hmagic]), readLittleEndian_eq (by omega), hpe]
  dsimp only [ok_bind]
  rw [if_neg (by omega), subOffsets_eq (by omega), ok_bind, if_neg (by omega),
    (bytesAt_eq (by simp [peSignature]; omega)).1 hwraps]
  rfl

theorem readModuleImage_eq (hclean : ¬ PeOffsetWraps bytes) :
    readModuleImage bytes = .ok (imageOf bytes).toOption := by
  unfold readModuleImage imageOf
  by_cases hsize : bytes.length = 0 ∨ 2 ^ 63 ≤ bytes.length
  · rw [if_pos hsize, if_pos hsize]
    rfl
  · rw [if_neg hsize, if_neg hsize]
    have hlength : bytes.length < 2 ^ 63 := by omega
    have helf := @readAs_elfRanges bytes (by omega)
    cases hfound : Compatibility.elfRanges bytes with
    | some found =>
      rw [hfound] at helf
      rw [show elfRanges bytes [] = .ok (true, found) from helf]
      rfl
    | none =>
      rw [hfound] at helf
      obtain ⟨left, hleft⟩ := helf
      have hpe := readAs_peRanges hlength hclean
      by_cases hmagic : bytes[0]? = some 0x7f
      · -- The file begins like an ELF file, so `PeRanges` refuses it whatever was added.
        have hother : bytes[0]? ≠ some 0x4d := by
          rw [hmagic]
          decide
        rw [hleft]
        dsimp only [ok_bind]
        rw [if_neg (by decide), peRanges_of_not_magic hother]
        rw [peRanges_of_not_magic hother] at hpe
        cases hpure : Compatibility.peRanges bytes with
        | none => rfl
        | some found =>
          rw [hpure] at hpe
          cases hpe
      · rw [elfRanges_of_not_magic hmagic]
        dsimp only [ok_bind]
        rw [if_neg (by decide)]
        cases hpure : Compatibility.peRanges bytes with
        | some found =>
          rw [hpure] at hpe
          rw [show peRanges bytes [] = .ok (true, found) from hpe]
          rfl
        | none =>
          rw [hpure] at hpe
          obtain ⟨rest, hrest⟩ := hpe
          rw [hrest]
          rfl

/-! ## The scan -/

section Scan

variable {bytes : List UInt8} (hlength : bytes.length < 2 ^ 63)

variable {pattern : List (Option UInt8)}

include hlength

theorem matchesFrom_eq {position index : Nat} (h : position + index + pattern.length ≤ bytes.length) :
    matchesFrom bytes position pattern index
      = .ok (matchesAt (bytes.getD · 0) pattern (position + index)) := by
  induction pattern generalizing index with
  | nil => rfl
  | cons first rest ih =>
    rw [List.length_cons] at h
    have hrest := @ih (index + 1) (by omega)
    cases first with
    | none => exact hrest
    | some value =>
      have hplace : position + index < bytes.length := by omega
      rw [matchesFrom, addOffsets_eq (by omega), ok_bind, byteAt_eq hplace, ok_bind, matchesAt,
        List.getD_eq_getElem?_getD, List.getElem?_eq_getElem hplace, Option.getD_some]
      by_cases hsame : bytes[position + index] = value
      · rw [if_pos hsame, hrest, beq_iff_eq.2 hsame, Bool.true_and, Nat.add_assoc]
      · rw [if_neg hsame, beq_eq_false_iff_ne.2 hsame, Bool.false_and]

theorem scanFrom_eq {remaining position : Nat}
    (h : remaining ≠ 0 → position + remaining + pattern.length ≤ bytes.length + 1) :
    scanFrom bytes pattern remaining position
      = .ok ((List.range' position remaining).filter (matchesAt (bytes.getD · 0) pattern)) := by
  induction remaining generalizing position with
  | zero => rfl
  | succ remaining ih =>
    have hroom := h (Nat.succ_ne_zero _)
    have hrest := @ih (position + 1) (fun _ => by omega)
    rw [scanFrom, matchesFrom_eq hlength (by omega), ok_bind, addOffsets_eq (by omega), ok_bind,
      hrest, ok_bind, List.range'_succ, List.filter_cons]
    rfl

theorem scanRange_eq {range : Range} (h : range.offset + range.size ≤ bytes.length) :
    scanRange bytes pattern range
      = .ok (Compatibility.scanRange (bytes.getD · 0) pattern range) := by
  unfold scanRange Compatibility.scanRange
  by_cases hshort : range.size < pattern.length
  · rw [if_pos hshort, if_pos hshort]
  · rw [if_neg hshort, if_neg hshort, addOffsets_eq (by omega), ok_bind, subOffsets_eq (by omega),
      ok_bind]
    have hcount : range.offset + range.size - pattern.length + 1 - range.offset
        = range.size - pattern.length + 1 := by omega
    rw [hcount, scanFrom_eq hlength (fun _ => by omega), List.range'_eq_map_range]

theorem scan_eq {image : ModuleImage} (himage : image.bytes = bytes)
    (hranges : InBounds bytes.length image.executableRanges) (pattern : List (Option UInt8)) :
    scan image pattern = .ok (image.scan pattern) := by
  have hall : ∀ ranges, InBounds bytes.length ranges → scanRanges bytes pattern ranges
      = .ok (ranges.flatMap (Compatibility.scanRange (bytes.getD · 0) pattern)) := by
    intro ranges hinside
    induction ranges with
    | nil => rfl
    | cons range ranges ih =>
      rw [scanRanges, scanRange_eq hlength (hinside range List.mem_cons_self).2, ok_bind,
        ih fun other hother => hinside other (List.mem_cons_of_mem _ hother)]
      rfl
  unfold scan ModuleImage.scan Compatibility.scan
  rw [himage, hall _ hranges]
  rfl

end Scan

/-! ## What the header tables say -/

/-- A field of the file, where the file has one. -/
def fieldAt (width : Nat) (bytes : List UInt8) (offset : Nat) : Nat :=
  (Compatibility.readLittleEndian width bytes offset).getD 0

/-- The range of a program header, if it is an executable load segment. -/
def elfSegment (bytes : List UInt8) (entry : Nat) : Option Range :=
  if fieldAt 4 bytes entry = 1 ∧ fieldAt 4 bytes (entry + 4) &&& 1 ≠ 0 then
    some ⟨fieldAt 8 bytes (entry + 8), fieldAt 8 bytes (entry + 32)⟩
  else none

/-- The executable load segments of an ELF64 file. -/
def elfSegments (bytes : List UInt8) : List Range :=
  (List.range (fieldAt 2 bytes 56)).filterMap fun index =>
    elfSegment bytes (fieldAt 8 bytes 32 + index * fieldAt 2 bytes 54)

/-- The range of a section header, if the section is executable. -/
def peSection (bytes : List UInt8) (header : Nat) : Option Range :=
  if fieldAt 4 bytes (header + 36) &&& 0x20000000 ≠ 0 then
    some ⟨fieldAt 4 bytes (header + 20), fieldAt 4 bytes (header + 16)⟩
  else none

/-- The executable sections of a PE file. -/
def peSections (bytes : List UInt8) : List Range :=
  let peOffset := fieldAt 4 bytes 0x3c
  let table := peOffset + 24 + fieldAt 2 bytes (peOffset + 20)
  (List.range (fieldAt 2 bytes (peOffset + 6))).filterMap fun index =>
    peSection bytes (table + index * 40)

theorem addRange_eq_some_iff {size fileSize : Nat} {range : Range}
    (h : Compatibility.addRange offset size fileSize = some range) : range = ⟨offset, size⟩ := by
  unfold Compatibility.addRange at h
  split at h
  · cases h
  · cases h
    rfl

theorem elfSegment_of_header {entry : Nat} {header : Option Range}
    (h : Compatibility.elfHeader bytes entry = some header) : header = elfSegment bytes entry := by
  simp only [Compatibility.elfHeader, Option.bind_eq_bind, Option.bind_eq_some_iff] at h
  obtain ⟨type, htype, flags, hflags, offset, hoffset, size, hsize, h⟩ := h
  simp only [elfSegment, fieldAt, htype, hflags, hoffset, hsize, Option.getD_some]
  split at h
  · rename_i hexecutable
    obtain ⟨range, hrange, rfl⟩ := Option.map_eq_some_iff.1 h
    rw [if_pos hexecutable, addRange_eq_some_iff hrange]
  · rename_i hother
    cases h
    rw [if_neg hother]

theorem peSection_of_header {entry : Nat} {header : Option Range}
    (h : Compatibility.peHeader bytes entry = some header) : header = peSection bytes entry := by
  simp only [Compatibility.peHeader, Option.bind_eq_bind, Option.bind_eq_some_iff] at h
  obtain ⟨rawSize, hsize, rawOffset, hoffset, characteristics, hflags, h⟩ := h
  simp only [peSection, fieldAt, hflags, hoffset, hsize, Option.getD_some]
  split at h
  · rename_i hexecutable
    obtain ⟨range, hrange, rfl⟩ := Option.map_eq_some_iff.1 h
    rw [if_pos hexecutable, addRange_eq_some_iff hrange]
  · rename_i hother
    cases h
    rw [if_neg hother]

theorem tableRanges_eq_some {readHeader : Nat → Option (Option Range)}
    {stated : Nat → Option Range} {count : Nat} {ranges : List Range}
    (hstated : ∀ index header, readHeader index = some header → header = stated index)
    (h : Compatibility.tableRanges readHeader count = some ranges) :
    ranges = (List.range count).filterMap stated ∧ ranges ≠ [] := by
  have hmap : ∀ (places : List Nat) headers, places.mapM readHeader = some headers →
      headers = places.map stated := by
    intro places
    induction places with
    | nil =>
      intro headers hheaders
      cases hheaders
      rfl
    | cons place places ih =>
      intro headers hheaders
      simp only [List.mapM_cons, Option.bind_eq_bind, Option.bind_eq_some_iff, Option.pure_def,
        Option.some.injEq] at hheaders
      obtain ⟨first, hfirst, others, hothers, rfl⟩ := hheaders
      rw [List.map_cons, ih others hothers, hstated place first hfirst]
  unfold Compatibility.tableRanges at h
  split at h
  · rename_i headers hheaders
    split at h
    · cases h
    · rename_i hsome
      cases h
      refine ⟨?_, hsome⟩
      rw [hmap _ _ hheaders, List.reduceOption, List.filterMap_map]
      rfl
  · cases h

theorem elfRanges_eq_some {ranges : List Range} (h : Compatibility.elfRanges bytes = some ranges) :
    ranges = elfSegments bytes ∧ ranges ≠ [] ∧
      Stands bytes 0 [0x7f, 0x45, 0x4c, 0x46, 2, 1, 1] := by
  unfold Compatibility.elfRanges at h
  split at h
  · cases h
  · rename_i hmagic
    rw [not_or, Decidable.not_not] at hmagic
    simp only [Option.bind_eq_bind, Option.bind_eq_some_iff] at h
    obtain ⟨machine, -, table, htable, entrySize, hsize, entryCount, hcount, h⟩ := h
    split at h
    · cases h
    · split at h
      · cases h
      · obtain ⟨heq, hne⟩ := @tableRanges_eq_some _
          (fun index => elfSegment bytes (table + index * entrySize)) _ _
          (fun index header hheader => elfSegment_of_header hheader) h
        refine ⟨?_, hne, take_eq_iff_stands.1 hmagic.2⟩
        simp [heq, elfSegments, fieldAt, htable, hsize, hcount]

theorem peRanges_eq_some {ranges : List Range} (h : Compatibility.peRanges bytes = some ranges) :
    ranges = peSections bytes ∧ ranges ≠ [] ∧ Stands bytes 0 [0x4d, 0x5a] := by
  unfold Compatibility.peRanges at h
  split at h
  · cases h
  · rename_i hmagic
    rw [not_or, Decidable.not_not] at hmagic
    simp only [Option.bind_eq_bind, Option.bind_eq_some_iff] at h
    obtain ⟨peOffset, hpe, h⟩ := h
    split at h
    · cases h
    · simp only [Option.bind_eq_some_iff] at h
      obtain ⟨machine, -, sectionCount, hcount, optionalSize, hsize, optionalMagic, -, h⟩ := h
      split at h
      · cases h
      · split at h
        · cases h
        · obtain ⟨heq, hne⟩ := @tableRanges_eq_some _
            (fun index => peSection bytes (peOffset + 24 + optionalSize + index * 40)) _ _
            (fun index header hheader => peSection_of_header hheader) h
          refine ⟨?_, hne, take_eq_iff_stands.1 hmagic.2⟩
          simp [heq, peSections, fieldAt, hpe, hsize, hcount]

/-! ## The whole reader -/

/-- What is accepted of a file is what its header tables call executable, in the file and not
empty. -/
structure Accepted (bytes : List UInt8) (image : ModuleImage) : Prop where
  whole : image.bytes = bytes
  nonempty : image.executableRanges ≠ []
  inBounds : InBounds bytes.length image.executableRanges
  tables : (Stands bytes 0 [0x7f, 0x45, 0x4c, 0x46, 2, 1, 1] ∧
      image.executableRanges.Perm (elfSegments bytes)) ∨
    (Stands bytes 0 [0x4d, 0x5a] ∧ image.executableRanges.Perm (peSections bytes))

/-- The reader comes to an end without a fault, and accepts nothing else. -/
structure ReaderSound (bytes : List UInt8) (pattern : List (Option UInt8)) : Prop where
  faultless : ∃ result, readAndScan bytes pattern = .ok result
  accepted : ∀ image found, readAndScan bytes pattern = .ok (some (image, found)) →
    Accepted bytes image

theorem accepted_of_imageOf {image : ModuleImage} (h : imageOf bytes = .ok image) :
    Accepted bytes image := by
  obtain ⟨hbytes, hinside, -⟩ := imageOf_eq_ok h
  have hranges : ∃ ranges, image.executableRanges = sortBy Range.offset ranges ∧ ranges ≠ [] ∧
      ((Stands bytes 0 [0x7f, 0x45, 0x4c, 0x46, 2, 1, 1] ∧ ranges = elfSegments bytes) ∨
        (Stands bytes 0 [0x4d, 0x5a] ∧ ranges = peSections bytes)) := by
    unfold imageOf at h
    split at h
    · cases h
    · split at h
      · rename_i ranges hranges
        cases h
        refine ⟨ranges, rfl, ?_⟩
        cases helf : Compatibility.elfRanges bytes with
        | some found =>
          rw [helf] at hranges
          cases hranges
          obtain ⟨heq, hne, hmagic⟩ := elfRanges_eq_some helf
          exact ⟨hne, .inl ⟨hmagic, heq⟩⟩
        | none =>
          rw [helf] at hranges
          obtain ⟨heq, hne, hmagic⟩ := peRanges_eq_some hranges
          exact ⟨hne, .inr ⟨hmagic, heq⟩⟩
      · cases h
  obtain ⟨ranges, heq, hne, htables⟩ := hranges
  have hperm := perm_sortBy Range.offset ranges
  refine ⟨hbytes, ?_, hinside, ?_⟩
  · intro hnil
    rw [← heq, hnil] at hperm
    exact hne (List.nil_perm.1 hperm)
  · rw [heq]
    rcases htables with ⟨hmagic, rfl⟩ | ⟨hmagic, rfl⟩
    · exact .inl ⟨hmagic, hperm⟩
    · exact .inr ⟨hmagic, hperm⟩

theorem readAndScan_eq (hclean : ¬ PeOffsetWraps bytes) (pattern : List (Option UInt8)) :
    readAndScan bytes pattern
      = .ok ((imageOf bytes).toOption.map fun image => (image, image.scan pattern)) := by
  unfold readAndScan
  rw [readModuleImage_eq hclean]
  cases himage : imageOf bytes with
  | error reason => rfl
  | ok image =>
    obtain ⟨hbytes, hinside, -⟩ := imageOf_eq_ok himage
    have hlength : bytes.length < 2 ^ 63 := by
      unfold imageOf at himage
      split at himage
      · cases himage
      · omega
    dsimp only [Except.toOption, ok_bind]
    rw [scan_eq hlength hbytes hinside]
    rfl

theorem readAndScan_of_wraps (h : PeOffsetWraps bytes) (pattern : List (Option UInt8)) :
    readAndScan bytes pattern = .error .overflow := by
  have hmagic : bytes[0]? ≠ some 0x7f := by
    rw [show bytes[0]? = some 0x4d from h.2.2.1 0 (by decide)]
    decide
  have hlong := h.1
  have hlength := h.2.1
  unfold readAndScan readModuleImage
  rw [if_neg (by omega), elfRanges_of_not_magic hmagic]
  dsimp only [ok_bind]
  rw [if_neg (by decide), peRanges_of_wraps h]
  rfl

/-- **Where the reader keeps to the file.** For every file and every pattern the reader comes to
an end, reads inside the file and computes no offset that does not fit its type, and accepts just
what the header tables call executable: unless the file is a PE image whose header offset is so
close to `2 ^ 32` that the signature goes on behind it. -/
theorem readerSound_iff (bytes : List UInt8) (pattern : List (Option UInt8)) :
    ReaderSound bytes pattern ↔ ¬ PeOffsetWraps bytes := by
  constructor
  · intro h hwraps
    obtain ⟨result, hresult⟩ := h.faultless
    rw [readAndScan_of_wraps hwraps] at hresult
    cases hresult
  · intro hclean
    have hread := readAndScan_eq hclean pattern
    refine ⟨⟨_, hread⟩, fun image found hfound => ?_⟩
    rw [hread] at hfound
    cases himage : imageOf bytes with
    | error reason =>
      rw [himage] at hfound
      cases hfound
    | ok other =>
      rw [himage] at hfound
      cases hfound
      exact accepted_of_imageOf himage

/-! ## A file whose header offset wraps -/

/-- The first 64 bytes of a PE file whose header is said to be at the last 32-bit offset. -/
def wrappingHeader : List UInt8 :=
  [0x4d, 0x5a] ++ List.replicate 58 0 ++ [0xff, 0xff, 0xff, 0xff]

def wrappingFile : List UInt8 :=
  wrappingHeader ++ (List.replicate (2 ^ 32 - 65) 0 ++ (0x50 :: List.replicate 23 0))

theorem wrappingFile_wraps : PeOffsetWraps wrappingFile := by
  have hheader : wrappingHeader.length = 64 := by decide
  have hlength : wrappingFile.length = 2 ^ 32 + 23 := by
    simp only [wrappingFile, List.length_append, hheader, List.length_replicate, List.length_cons]
    omega
  have hfront : ∀ index < 64, wrappingFile[index]? = wrappingHeader[index]? := by
    intro index hindex
    exact List.getElem?_append_left (by rw [hheader]; exact hindex)
  have hoffset : Compatibility.readLittleEndian 4 wrappingFile 0x3c = some (2 ^ 32 - 1) := by
    unfold Compatibility.readLittleEndian
    rw [if_neg (by rw [hlength]; omega), wrappingFile, List.drop_append_of_le_length (by decide),
      List.take_append_of_le_length (by decide)]
    decide
  have hsignature : wrappingFile[2 ^ 32 - 1]? = some 0x50 := by
    rw [wrappingFile, List.getElem?_append_right (by rw [hheader]; omega), hheader,
      List.getElem?_append_right (by rw [List.length_replicate]; omega), List.length_replicate]
    rfl
  refine ⟨by omega, by omega, ?_, 2 ^ 32 - 1, hoffset, by omega, 1, by decide, by decide, ?_⟩
  · intro index hindex
    rw [Nat.zero_add, hfront index (Nat.lt_trans hindex (by decide))]
    have hfew : index = 0 ∨ index = 1 := by
      have : index < 2 := hindex
      omega
    rcases hfew with rfl | rfl <;> rfl
  · intro earlier hearlier
    rw [Nat.lt_one_iff.1 hearlier]
    exact hsignature

/-- The place of the second byte of its signature is computed as zero. -/
theorem pe_offset_overflows :
    ¬ ∀ (bytes : List UInt8) (pattern : List (Option UInt8)), ReaderSound bytes pattern := by
  intro h
  obtain ⟨result, hresult⟩ := (h wrappingFile []).faultless
  rw [readAndScan_of_wraps wrappingFile_wraps] at hresult
  cases hresult

end Reader

end KeelS2.Compatibility
