import Mathlib.Data.List.GetD

/-!
# Memory by the byte

A memory is what stands at each address. Blocks of it are read and written as lists.
-/

namespace KeelS2.Lib.ByteMemory

variable {Byte : Type*}

def readBytes (memory : Nat → Byte) (address size : Nat) : List Byte :=
  (List.range size).map fun index => memory (address + index)

def writeBytes (memory : Nat → Byte) (address : Nat) (bytes : List Byte) : Nat → Byte :=
  fun place => if place < address then memory place else bytes.getD (place - address) (memory place)

@[simp] theorem length_readBytes (memory : Nat → Byte) (address size : Nat) :
    (readBytes memory address size).length = size := by
  simp [readBytes]

theorem readBytes_congr {memory memory' : Nat → Byte} {address size : Nat}
    (h : ∀ place, address ≤ place → place < address + size → memory place = memory' place) :
    readBytes memory address size = readBytes memory' address size := by
  unfold readBytes
  refine List.map_congr_left fun index hindex => ?_
  exact h _ (Nat.le_add_right _ _) (by have := List.mem_range.1 hindex; omega)

theorem writeBytes_outside {memory : Nat → Byte} {address : Nat} {bytes : List Byte}
    {place : Nat} (h : place < address ∨ address + bytes.length ≤ place) :
    writeBytes memory address bytes place = memory place := by
  unfold writeBytes
  split
  · rfl
  · exact List.getD_eq_default _ _ (by omega)

theorem readBytes_writeBytes (memory : Nat → Byte) (address : Nat) (bytes : List Byte) :
    readBytes (writeBytes memory address bytes) address bytes.length = bytes := by
  apply List.ext_getElem
  · exact length_readBytes _ _ _
  · intro index _ hindex
    have hnot : ¬address + index < address := by omega
    simp [readBytes, writeBytes, hnot, hindex]

/-! ## Several blocks -/

def writeBlocks (memory : Nat → Byte) (blocks : List (Nat × List Byte)) : Nat → Byte :=
  blocks.foldl (fun memory block => writeBytes memory block.1 block.2) memory

/-- Two blocks have no place in common. -/
def Apart (first second : Nat × List Byte) : Prop :=
  first.1 + first.2.length ≤ second.1 ∨ second.1 + second.2.length ≤ first.1

theorem writeBlocks_outside {memory : Nat → Byte} {blocks : List (Nat × List Byte)} {place : Nat}
    (h : ∀ block ∈ blocks, place < block.1 ∨ block.1 + block.2.length ≤ place) :
    writeBlocks memory blocks place = memory place := by
  induction blocks generalizing memory with
  | nil => rfl
  | cons block rest ih =>
    refine Eq.trans ?_ (writeBytes_outside (h block List.mem_cons_self))
    exact ih fun other hmem => h other (List.mem_cons_of_mem _ hmem)

theorem readBytes_writeBlocks {memory : Nat → Byte} {blocks : List (Nat × List Byte)}
    (hapart : blocks.Pairwise Apart) {block : Nat × List Byte} (hmem : block ∈ blocks) :
    readBytes (writeBlocks memory blocks) block.1 block.2.length = block.2 := by
  induction blocks generalizing memory with
  | nil => cases hmem
  | cons first rest ih =>
    obtain ⟨hfirst, hrest⟩ := List.pairwise_cons.1 hapart
    rcases List.mem_cons.1 hmem with rfl | hmem
    · refine Eq.trans (readBytes_congr fun place hle hlt => ?_)
        (readBytes_writeBytes memory block.1 block.2)
      change writeBlocks (writeBytes memory block.1 block.2) rest place = _
      refine writeBlocks_outside fun other hother => ?_
      rcases hfirst other hother with hbefore | hbehind
      · exact .inl (by omega)
      · exact .inr (by omega)
    · exact ih hrest hmem

end KeelS2.Lib.ByteMemory
