import KeelS2.Hooking.SharedVtable
import KeelS2.Lib.Runs
import Mathlib.Data.Finset.Card

/-!
# The vtable of one object

An `InstanceVtable` is a copy of an object's vtable, its *shadow*, whose entries are replaced one
by one. The object is pointed to the shadow while any entry is replaced. Others may write the
object's pointer at any time, so it is only ever exchanged, and an operation that finds it changed
undoes what it has done.

The last entry is taken out of the shadow before the object is pointed back, and put in again
where the object's pointer cannot be exchanged. What comes of that is not looked at: if the memory
query fails that the exchange begins with, the entry stays out although it is recorded.
`consistent_of_run` is what holds as long as that query does not fail.
-/

namespace KeelS2.Hooking

open Lib
open Function (update update_eq_self update_of_ne update_self)

/-! ## The operations -/

structure InstanceVtable where
  /-- The table the object was created with, and the shadow, as the object points to them. -/
  originalTable : Address
  shadowTable : Address
  original : Nat → Address
  entryCount : Nat
  shadow : Nat → Address
  /-- Null where the entry is not replaced. -/
  replacements : Nat → Address
  enabledCount : Nat

/-- The table and the object's pointer. -/
structure VtableState where
  table : InstanceVtable
  object : Cell Address

/-- What the memory queries of an operation answer, and what others write into the object. -/
structure VtableSteps where
  /-- The object is accessible. -/
  accessible : Bool
  /-- Until the pointer is first read or exchanged. -/
  first : List Address
  /-- The entry of the shadow is accessible. -/
  entryAccessible : Bool
  /-- Between the first and the second access to the pointer. -/
  second : List Address
  /-- The object is accessible for the second time. -/
  objectAccessible : Bool
  /-- The entry of the shadow is accessible for the second time. -/
  rollbackAccessible : Bool
  deriving DecidableEq, Repr

/-- The outcomes of an exchange that nobody interferes with. -/
def undisturbed (accessible : Bool) : Outcomes :=
  ⟨accessible, true, true, [], true, [], []⟩

namespace InstanceVtable

/-- `Exchange` of an entry of the shadow. -/
def exchangeEntry (table : InstanceVtable) (index : Nat) (expected desired : Address)
    (accessible : Bool) : VtableHookResult × InstanceVtable :=
  match exchange ⟨table.shadow index, []⟩ expected desired false (undisturbed accessible) with
  | (answer, entry) =>
    (answer, { table with shadow := update table.shadow index entry.value })

/-- The entry is recorded as replaced, or with null as not replaced. -/
def setReplacement (table : InstanceVtable) (index : Nat) (replacement : Address) (count : Nat) :
    InstanceVtable :=
  { table with
    replacements := update table.replacements index replacement
    enabledCount := count }

end InstanceVtable

namespace VtableState

/-- `Create`: `object` is what the object points to, `original` the entries there, and `storage`
where the shadow is allocated. -/
def create (entryCount : Nat) (object : Address) (original : Nat → Address)
    (accessible tableAccessible : Bool) (storage : Option Address) :
    VtableHookResult × Option VtableState :=
  if entryCount = 0 ∨ ¬ accessible then (.invalid, none)
  else if object = 0 ∨ ¬ tableAccessible then (.invalid, none)
  else
    match storage with
    | none => (.protectionFailure, none)
    | some shadowTable =>
      (.ok, some ⟨⟨object, shadowTable, original, entryCount, original, fun _ => 0, 0⟩,
        ⟨object, []⟩⟩)

def enable (state : VtableState) (index : Nat) (replacement : Address) (steps : VtableSteps) :
    VtableHookResult × VtableState :=
  let table := state.table
  let object := state.object.foreign steps.first
  if table.entryCount ≤ index ∨ replacement = 0 ∨ table.replacements index ≠ 0 then
    (.invalid, ⟨table, object⟩)
  else if ¬ steps.accessible then (.invalid, ⟨table, object⟩)
  else if table.enabledCount = 0 then
    let replaced := { table with shadow := update table.shadow index replacement }
    match exchange object table.originalTable table.shadowTable false
        (undisturbed steps.objectAccessible) with
    | (.ok, object) => (.ok, ⟨replaced.setReplacement index replacement 1, object⟩)
    | (applied, object) =>
      (applied, ⟨{ replaced with
        shadow := update replaced.shadow index (table.original index) }, object⟩)
  else if object.value ≠ table.shadowTable then (.conflict, ⟨table, object⟩)
  else
    match table.exchangeEntry index (table.original index) replacement steps.entryAccessible with
    | (.ok, replaced) =>
      (.ok, ⟨replaced.setReplacement index replacement (table.enabledCount + 1), object⟩)
    | (answer, replaced) => (answer, ⟨replaced, object⟩)

def disable (state : VtableState) (index : Nat) (replacement : Address) (steps : VtableSteps) :
    VtableHookResult × VtableState :=
  let table := state.table
  let object := state.object.foreign steps.first
  if table.entryCount ≤ index ∨ replacement = 0 ∨ table.replacements index ≠ replacement then
    (.invalid, ⟨table, object⟩)
  else if ¬ steps.accessible then (.invalid, ⟨table, object⟩)
  else if object.value ≠ table.shadowTable then (.conflict, ⟨table, object⟩)
  else
    match table.exchangeEntry index replacement (table.original index) steps.entryAccessible with
    | (.ok, restored) =>
      if table.enabledCount = 1 then
        match exchange (object.foreign steps.second) table.shadowTable table.originalTable false
            (undisturbed steps.objectAccessible) with
        | (.ok, object) => (.ok, ⟨restored.setReplacement index 0 0, object⟩)
        | (removed, object) =>
          (removed, ⟨(restored.exchangeEntry index (table.original index) replacement
            steps.rollbackAccessible).2, object⟩)
      else (.ok, ⟨restored.setReplacement index 0 (table.enabledCount - 1), object⟩)
    | (answer, restored) => (answer, ⟨restored, object⟩)

def restore (state : VtableState) (steps : VtableSteps) : VtableHookResult × VtableState :=
  let table := state.table
  let object := state.object.foreign steps.first
  if table.enabledCount = 0 then (.ok, ⟨table, object⟩)
  else if ¬ steps.accessible then (.invalid, ⟨table, object⟩)
  else
    match exchange object table.shadowTable table.originalTable false
        (undisturbed steps.objectAccessible) with
    | (.ok, object) =>
      (.ok, ⟨{ table with
        shadow := fun index => if index < table.entryCount then table.original index
          else table.shadow index
        replacements := fun index => if index < table.entryCount then 0
          else table.replacements index
        enabledCount := 0 }, object⟩)
    | (restored, object) => (restored, ⟨table, object⟩)

end VtableState

inductive VtableInput
  | enable (index : Nat) (replacement : Address) (steps : VtableSteps)
  | disable (index : Nat) (replacement : Address) (steps : VtableSteps)
  | restore (steps : VtableSteps)
  /-- Somebody else writes the object's pointer. -/
  | foreign (value : Address)

namespace VtableState

def perform (state : VtableState) : VtableInput → VtableHookResult × VtableState
  | .enable index replacement steps => state.enable index replacement steps
  | .disable index replacement steps => state.disable index replacement steps
  | .restore steps => state.restore steps
  | .foreign value => (.ok, ⟨state.table, state.object.foreign [value]⟩)

def step (state : VtableState) (input : VtableInput) : VtableState :=
  (state.perform input).2

end VtableState

/-! ## What an operation may have done -/

variable {cell : Cell Address} {expected desired : Address}

theorem exchange_undisturbed :
    exchange cell expected desired false (undisturbed true)
      = (if cell.value = expected then .ok else .conflict,
        (cell.exchange expected desired).2) := by
  unfold exchange undisturbed
  by_cases h : cell.value = expected
  · simp [Cell.foreign, Cell.exchange, h]
  · simp [Cell.foreign, Cell.exchange, h]

theorem exchange_refused {accessible : Bool} (h : ¬ (accessible = true ∧ cell.value = expected)) :
    ∃ answer, answer ≠ .ok ∧
      exchange cell expected desired false (undisturbed accessible) = (answer, cell) := by
  cases accessible with
  | false => exact ⟨.invalid, by decide, rfl⟩
  | true =>
    have hne : cell.value ≠ expected := fun heq => h ⟨rfl, heq⟩
    refine ⟨.conflict, by decide, ?_⟩
    rw [exchange_undisturbed, if_neg hne, Cell.exchange_of_ne hne]

theorem exchange_done (h : cell.value = expected) :
    exchange cell expected desired false (undisturbed true)
      = (.ok, (cell.exchange expected desired).2) := by
  rw [exchange_undisturbed, if_pos h]

namespace InstanceVtable

variable {table : InstanceVtable} {index : Nat} {expected desired : Address}

theorem exchangeEntry_done (h : table.shadow index = expected) :
    table.exchangeEntry index expected desired true
      = (.ok, { table with shadow := update table.shadow index desired }) := by
  unfold exchangeEntry
  rw [exchange_done h, Cell.exchange_of_eq h]

theorem exchangeEntry_refused {accessible : Bool}
    (h : ¬ (accessible = true ∧ table.shadow index = expected)) :
    ∃ answer, answer ≠ .ok ∧
      table.exchangeEntry index expected desired accessible = (answer, table) := by
  obtain ⟨answer, hne, heq⟩ := @exchange_refused ⟨table.shadow index, []⟩ expected desired
    accessible h
  refine ⟨answer, hne, ?_⟩
  unfold exchangeEntry
  rw [heq]
  dsimp only
  rw [update_eq_self]

/-- An entry of the shadow and its record. -/
def setEntry (table : InstanceVtable) (index : Nat) (entry replacement : Address) (count : Nat) :
    InstanceVtable :=
  { table with
    shadow := update table.shadow index entry
    replacements := update table.replacements index replacement
    enabledCount := count }

/-- Everything as it was in the original. -/
def restored (table : InstanceVtable) : InstanceVtable :=
  { table with
    shadow := fun index => if index < table.entryCount then table.original index
      else table.shadow index
    replacements := fun index => if index < table.entryCount then 0
      else table.replacements index
    enabledCount := 0 }

/-- The exchanges between the two tables. -/
def Swaps (table : InstanceVtable) (previous value : Address) : Prop :=
  (previous = table.originalTable ∧ value = table.shadowTable) ∨
    (previous = table.shadowTable ∧ value = table.originalTable)

/-- The slots that hold a replacement. -/
def replaced (table : InstanceVtable) : Finset Nat :=
  (Finset.range table.entryCount).filter fun index => table.replacements index ≠ 0

theorem mem_replaced : index ∈ table.replaced ↔
    index < table.entryCount ∧ table.replacements index ≠ 0 := by
  unfold replaced
  rw [Finset.mem_filter, Finset.mem_range]

end InstanceVtable

namespace VtableState

variable {state : VtableState}

/-- What holds between operations. -/
structure Kept (state : VtableState) : Prop where
  distinct : state.table.originalTable ≠ state.table.shadowTable
  counted : state.table.enabledCount = state.table.replaced.card
  shadowed : ∀ index < state.table.entryCount, state.table.shadow index =
    if state.table.replacements index ≠ 0 then state.table.replacements index
    else state.table.original index
  put : Cell.owned state.table.originalTable state.object.writes =
    if 0 < state.table.enabledCount then state.table.shadowTable else state.table.originalTable
  exchanges : state.object.Exchanges state.table.Swaps
  coherent : state.object.Coherent state.table.originalTable

/-- The operations by what they come to. -/
inductive Performed (state : VtableState) : VtableHookResult → VtableState → Prop
  | kept (answer : VtableHookResult) (values : List Address) :
    Performed state answer ⟨state.table, state.object.foreign values⟩
  | applied {index : Nat} {replacement : Address} {values : List Address} :
    index < state.table.entryCount → replacement ≠ 0 → state.table.replacements index = 0 →
    state.table.enabledCount = 0 →
    (state.object.foreign values).value = state.table.originalTable →
    Performed state .ok ⟨state.table.setEntry index replacement replacement 1,
      ((state.object.foreign values).exchange state.table.originalTable
        state.table.shadowTable).2⟩
  | enabled {index : Nat} {replacement : Address} {values : List Address} :
    index < state.table.entryCount → replacement ≠ 0 → state.table.replacements index = 0 →
    state.table.enabledCount ≠ 0 →
    Performed state .ok
      ⟨state.table.setEntry index replacement replacement (state.table.enabledCount + 1),
        state.object.foreign values⟩
  | disabled {index : Nat} {values : List Address} :
    index < state.table.entryCount → state.table.replacements index ≠ 0 →
    state.table.enabledCount ≠ 1 →
    Performed state .ok
      ⟨state.table.setEntry index (state.table.original index) 0 (state.table.enabledCount - 1),
        state.object.foreign values⟩
  | removed {index : Nat} {values : List Address} :
    index < state.table.entryCount → state.table.replacements index ≠ 0 →
    state.table.enabledCount = 1 →
    (state.object.foreign values).value = state.table.shadowTable →
    Performed state .ok ⟨state.table.setEntry index (state.table.original index) 0 0,
      ((state.object.foreign values).exchange state.table.shadowTable
        state.table.originalTable).2⟩
  | restored {values : List Address} :
    (state.object.foreign values).value = state.table.shadowTable →
    Performed state .ok ⟨state.table.restored,
      ((state.object.foreign values).exchange state.table.shadowTable
        state.table.originalTable).2⟩

variable {index count : Nat} {entry : Address}

theorem Kept.shadow_eq (hkept : Kept state) (hindex : index < state.table.entryCount)
    (h : state.table.replacements index = 0) :
    state.table.shadow index = state.table.original index := by
  rw [hkept.shadowed index hindex, if_neg (by simp [h])]

theorem Kept.shadow_eq_replacement (hkept : Kept state) (hindex : index < state.table.entryCount)
    (h : state.table.replacements index ≠ 0) :
    state.table.shadow index = state.table.replacements index := by
  rw [hkept.shadowed index hindex, if_pos h]

theorem enable_spec (hkept : Kept state) (index : Nat) (replacement : Address)
    (steps : VtableSteps) :
    Performed state (state.enable index replacement steps).1
      (state.enable index replacement steps).2 := by
  unfold enable
  dsimp only
  split
  · exact .kept _ _
  · rename_i hslot
    simp only [not_or, Decidable.not_not, Nat.not_le] at hslot
    obtain ⟨hindex, hreplacement, hfree⟩ := hslot
    split
    · exact .kept _ _
    · split
      · rename_i hcount
        by_cases hfound : steps.objectAccessible = true ∧
            (state.object.foreign steps.first).value = state.table.originalTable
        · rw [hfound.1, exchange_done hfound.2]
          exact .applied hindex hreplacement hfree hcount hfound.2
        · obtain ⟨answer, hne, hrefused⟩ := @exchange_refused _ _ state.table.shadowTable _ hfound
          rw [hrefused]
          -- The entry that was put into the shadow for the exchange is taken out again.
          have hundone : update (update state.table.shadow index replacement)
              index (state.table.original index) = state.table.shadow := by
            rw [Function.update_idem, ← hkept.shadow_eq hindex hfree, update_eq_self]
          cases answer with
          | ok => exact absurd rfl hne
          | _ =>
            dsimp only
            rw [hundone]
            exact .kept _ _
      · rename_i hcount
        split
        · exact .kept _ _
        · by_cases haccessible : steps.entryAccessible = true
          · rw [haccessible, InstanceVtable.exchangeEntry_done (hkept.shadow_eq hindex hfree)]
            exact .enabled hindex hreplacement hfree hcount
          · obtain ⟨answer, hne, hrefused⟩ :=
              @InstanceVtable.exchangeEntry_refused state.table index
                (state.table.original index) replacement _ (fun h => haccessible h.1)
            rw [hrefused]
            cases answer with
            | ok => exact absurd rfl hne
            | _ => exact .kept _ _

/-- `Disable` comes to where it puts the entry into the shadow again. -/
def RollsBack (state : VtableState) (index : Nat) (replacement : Address)
    (steps : VtableSteps) : Prop :=
  index < state.table.entryCount ∧ replacement ≠ 0 ∧
    state.table.replacements index = replacement ∧ steps.accessible = true ∧
    (state.object.foreign steps.first).value = state.table.shadowTable ∧
    steps.entryAccessible = true ∧ state.table.enabledCount = 1 ∧
    ¬ (steps.objectAccessible = true ∧
      ((state.object.foreign steps.first).foreign steps.second).value = state.table.shadowTable)

theorem disable_spec (hkept : Kept state) (index : Nat) (replacement : Address)
    (steps : VtableSteps)
    (hrestorable : RollsBack state index replacement steps → steps.rollbackAccessible = true) :
    Performed state (state.disable index replacement steps).1
      (state.disable index replacement steps).2 := by
  unfold disable
  dsimp only
  split
  · exact .kept _ _
  · rename_i hslot
    simp only [not_or, Decidable.not_not, Nat.not_le] at hslot
    obtain ⟨hindex, hreplacement, rfl⟩ := hslot
    have hentry := hkept.shadow_eq_replacement hindex hreplacement
    split
    · exact .kept _ _
    · rename_i haccessible
      split
      · exact .kept _ _
      · rename_i hpointer
        rw [Decidable.not_not] at haccessible hpointer
        by_cases hopen : steps.entryAccessible = true
        · rw [hopen, InstanceVtable.exchangeEntry_done hentry]
          dsimp only
          split
          · rename_i hcount
            by_cases hfound : steps.objectAccessible = true ∧
                ((state.object.foreign steps.first).foreign steps.second).value
                  = state.table.shadowTable
            · rw [hfound.1, exchange_done hfound.2]
              rw [Cell.foreign_append] at hfound ⊢
              exact .removed hindex hreplacement hcount hfound.2
            · obtain ⟨answer, hne, hrefused⟩ :=
                @exchange_refused _ _ state.table.originalTable _ hfound
              rw [hrefused, hrestorable ⟨hindex, hreplacement, rfl, haccessible, hpointer, hopen,
                hcount, hfound⟩, Cell.foreign_append]
              have hundone := @InstanceVtable.exchangeEntry_done
                { state.table with
                  shadow := update state.table.shadow index
                    (state.table.original index) } index (state.table.original index)
                (state.table.replacements index) (update_self ..)
              rw [hundone]
              dsimp only
              rw [Function.update_idem, ← hentry, update_eq_self]
              cases answer with
              | ok => exact absurd rfl hne
              | _ => exact .kept _ _
          · rename_i hcount
            exact .disabled hindex hreplacement hcount
        · obtain ⟨answer, hne, hrefused⟩ :=
            @InstanceVtable.exchangeEntry_refused state.table index
              (state.table.replacements index) (state.table.original index) _
              (fun h => hopen h.1)
          rw [hrefused]
          cases answer with
          | ok => exact absurd rfl hne
          | _ => exact .kept _ _

theorem restore_spec (state : VtableState) (steps : VtableSteps) :
    Performed state (state.restore steps).1 (state.restore steps).2 := by
  unfold restore
  dsimp only
  split
  · exact .kept _ _
  · split
    · exact .kept _ _
    · by_cases hfound : steps.objectAccessible = true ∧
          (state.object.foreign steps.first).value = state.table.shadowTable
      · rw [hfound.1, exchange_done hfound.2]
        exact .restored hfound.2
      · obtain ⟨answer, hne, hrefused⟩ := @exchange_refused _ _ state.table.originalTable _ hfound
        rw [hrefused]
        cases answer with
        | ok => exact absurd rfl hne
        | _ => exact .kept _ _

/-- The memory query of a roll-back, where one is made, does not fail. -/
def Restorable (state : VtableState) : VtableInput → Prop
  | .disable index replacement steps =>
    RollsBack state index replacement steps → steps.rollbackAccessible = true
  | .enable .. | .restore _ | .foreign _ => True

theorem perform_spec (hkept : Kept state) {input : VtableInput}
    (hrestorable : Restorable state input) :
    Performed state (state.perform input).1 (state.perform input).2 := by
  cases input with
  | enable index replacement steps => exact enable_spec hkept index replacement steps
  | disable index replacement steps => exact disable_spec hkept index replacement steps hrestorable
  | restore steps => exact restore_spec state steps
  | foreign value => exact .kept .ok [value]

/-! ## What every operation keeps -/

theorem shadowed_setEntry (hkept : Kept state) {replacement : Address}
    (hentry : entry = if replacement ≠ 0 then replacement else state.table.original index) :
    ∀ other < state.table.entryCount,
      (state.table.setEntry index entry replacement count).shadow other =
        if (state.table.setEntry index entry replacement count).replacements other ≠ 0 then
          (state.table.setEntry index entry replacement count).replacements other
        else state.table.original other := by
  intro other hother
  unfold InstanceVtable.setEntry
  dsimp only
  by_cases heq : other = index
  · subst heq
    simp only [update_self]
    exact hentry
  · simp only [update_of_ne heq]
    exact hkept.shadowed other hother

theorem replaced_setEntry {replacement : Address} (hindex : index < state.table.entryCount)
    (hreplacement : replacement ≠ 0) :
    (state.table.setEntry index entry replacement count).replaced
      = insert index state.table.replaced := by
  ext other
  rw [Finset.mem_insert, InstanceVtable.mem_replaced, InstanceVtable.mem_replaced]
  show other < state.table.entryCount ∧
    update state.table.replacements index replacement other ≠ 0 ↔ _
  by_cases heq : other = index
  · subst heq
    rw [update_self]
    exact ⟨fun _ => .inl rfl, fun _ => ⟨hindex, hreplacement⟩⟩
  · rw [update_of_ne heq]
    exact ⟨.inr, fun h => h.resolve_left heq⟩

theorem replaced_clearEntry :
    (state.table.setEntry index entry 0 count).replaced
      = state.table.replaced.erase index := by
  ext other
  rw [Finset.mem_erase, InstanceVtable.mem_replaced, InstanceVtable.mem_replaced]
  show other < state.table.entryCount ∧
    update state.table.replacements index 0 other ≠ 0 ↔ _
  by_cases heq : other = index
  · subst heq
    rw [update_self]
    exact ⟨fun h => absurd rfl h.2, fun h => absurd rfl h.1⟩
  · rw [update_of_ne heq]
    exact ⟨fun h => ⟨heq, h⟩, fun h => h.2⟩

theorem card_replaced_insert (hkept : Kept state) (hfree : state.table.replacements index = 0) :
    (insert index state.table.replaced).card = state.table.enabledCount + 1 := by
  rw [Finset.card_insert_of_notMem, hkept.counted]
  intro hmem
  exact (InstanceVtable.mem_replaced.1 hmem).2 hfree

theorem card_replaced_erase (hkept : Kept state) (hindex : index < state.table.entryCount)
    (htaken : state.table.replacements index ≠ 0) :
    (state.table.replaced.erase index).card = state.table.enabledCount - 1 := by
  rw [Finset.card_erase_of_mem (InstanceVtable.mem_replaced.2 ⟨hindex, htaken⟩), hkept.counted]

theorem count_pos (hkept : Kept state) (hindex : index < state.table.entryCount)
    (htaken : state.table.replacements index ≠ 0) : 0 < state.table.enabledCount := by
  rw [hkept.counted, Finset.card_pos]
  exact ⟨index, InstanceVtable.mem_replaced.2 ⟨hindex, htaken⟩⟩

theorem owned_exchange {object : Cell Address} {expected desired initial : Address}
    (h : object.value = expected) :
    Cell.owned initial (object.exchange expected desired).2.writes = desired := by
  rw [Cell.exchange_of_eq h]
  rfl

theorem Kept.performed (hkept : Kept state) {answer : VtableHookResult} {next : VtableState}
    (h : Performed state answer next) : Kept next := by
  have hput := hkept.put
  cases h with
  | kept answer values =>
    exact ⟨hkept.distinct, hkept.counted, hkept.shadowed,
      (Cell.owned_foreign _ _ values).trans hput, hkept.exchanges.foreign values,
      hkept.coherent.foreign values⟩
  | @applied index replacement values hindex hreplacement hfree hcount hfound =>
    refine ⟨hkept.distinct, ?_, shadowed_setEntry hkept (if_pos hreplacement).symm, ?_,
      (hkept.exchanges.foreign values).exchange (.inl ⟨rfl, rfl⟩),
      (hkept.coherent.foreign values).exchange⟩
    · rw [replaced_setEntry hindex hreplacement, card_replaced_insert hkept hfree, hcount]
      rfl
    · exact owned_exchange hfound
  | @enabled index replacement values hindex hreplacement hfree hcount =>
    refine ⟨hkept.distinct, ?_, shadowed_setEntry hkept (if_pos hreplacement).symm, ?_,
      hkept.exchanges.foreign values, hkept.coherent.foreign values⟩
    · rw [replaced_setEntry hindex hreplacement, card_replaced_insert hkept hfree]
      rfl
    · rw [if_pos (Nat.pos_of_ne_zero hcount)] at hput
      exact (Cell.owned_foreign _ _ values).trans (hput.trans (if_pos (Nat.succ_pos _)).symm)
  | @disabled index values hindex htaken hcount =>
    have hpositive := count_pos hkept hindex htaken
    refine ⟨hkept.distinct, ?_, shadowed_setEntry hkept (if_neg (by simp)).symm, ?_,
      hkept.exchanges.foreign values, hkept.coherent.foreign values⟩
    · rw [replaced_clearEntry, card_replaced_erase hkept hindex htaken]
      rfl
    · have hleft : 0 < state.table.enabledCount - 1 := by omega
      rw [if_pos hpositive] at hput
      exact (Cell.owned_foreign _ _ values).trans (hput.trans (if_pos hleft).symm)
  | @removed index values hindex htaken hcount hfound =>
    refine ⟨hkept.distinct, ?_, shadowed_setEntry hkept (if_neg (by simp)).symm, ?_,
      (hkept.exchanges.foreign values).exchange (.inr ⟨rfl, rfl⟩),
      (hkept.coherent.foreign values).exchange⟩
    · rw [replaced_clearEntry, card_replaced_erase hkept hindex htaken, hcount]
      rfl
    · exact owned_exchange hfound
  | @restored values hfound =>
    refine ⟨hkept.distinct, ?_, ?_, ?_,
      (hkept.exchanges.foreign values).exchange (.inr ⟨rfl, rfl⟩),
      (hkept.coherent.foreign values).exchange⟩
    · have hnone : state.table.restored.replaced = ∅ := by
        apply Finset.eq_empty_of_forall_notMem
        intro index hmem
        obtain ⟨hindex, htaken⟩ := InstanceVtable.mem_replaced.1 hmem
        exact htaken (if_pos hindex)
      show 0 = state.table.restored.replaced.card
      rw [hnone, Finset.card_empty]
    · intro index hindex
      have hclear : state.table.restored.replacements index = 0 := if_pos hindex
      rw [if_neg (by simp [hclear])]
      exact if_pos hindex
    · exact owned_exchange hfound

theorem kept_create {entryCount : Nat} {object : Address} {original : Nat → Address}
    {accessible tableAccessible : Bool} {storage : Option Address}
    (hfresh : storage ≠ some object)
    (h : (create entryCount object original accessible tableAccessible storage).2 = some state) :
    Kept state := by
  unfold create at h
  split at h
  · cases h
  · split at h
    · cases h
    · cases storage with
      | none => cases h
      | some shadowTable =>
        cases h
        refine ⟨fun heq => hfresh (congrArg some heq.symm), ?_, fun index _ => ?_, ?_,
          (fun _ _ hmem => by cases hmem), Cell.coherent_new⟩
        · symm
          rw [Finset.card_eq_zero]
          apply Finset.eq_empty_of_forall_notMem
          intro index hmem
          exact (InstanceVtable.mem_replaced.1 hmem).2 rfl
        · rfl
        · rfl

/-! ## Every run -/

/-- The four pieces of state fit together, and the object's pointer fits them unless somebody
else has changed it since an operation last wrote it. -/
structure Consistent (state : VtableState) : Prop where
  counted : state.table.enabledCount = state.table.replaced.card
  shadowed : ∀ index < state.table.entryCount, state.table.shadow index =
    if state.table.replacements index ≠ 0 then state.table.replacements index
    else state.table.original index
  pointer : state.object.value = Cell.owned state.table.originalTable state.object.writes →
    (state.object.value = state.table.shadowTable ↔ 0 < state.table.enabledCount)
  /-- A pointer that somebody else wrote is only overwritten if it is one of the two tables. -/
  foreign : ∀ later previous value theirs earlier,
    state.object.writes = later ++ .exchange previous value :: .foreign theirs :: earlier →
    theirs = state.table.originalTable ∨ theirs = state.table.shadowTable

/-- An operation that fails changes nothing; the object's pointer is as others wrote it. -/
def FailsClean (state : VtableState) (input : VtableInput) : Prop :=
  (state.perform input).1 ≠ .ok →
    (state.step input).table = state.table ∧
      ∃ values, (state.step input).object = state.object.foreign values

theorem Kept.consistent (hkept : Kept state) : Consistent state := by
  refine ⟨hkept.counted, hkept.shadowed, fun howned => ?_, ?_⟩
  · rw [howned, hkept.put]
    split
    · rename_i hpositive
      exact ⟨fun _ => hpositive, fun _ => rfl⟩
    · rename_i hzero
      exact ⟨fun heq => absurd heq hkept.distinct, fun hpositive => absurd hpositive hzero⟩
  · intro later previous value theirs earlier hwrites
    rcases hkept.coherent.of_overwritten hkept.exchanges hwrites with h | h
    · exact .inl h.1
    · exact .inr h.1

theorem Kept.failsClean (hkept : Kept state) {input : VtableInput}
    (hrestorable : Restorable state input) : FailsClean state input := by
  intro hfailed
  have hspec := perform_spec hkept hrestorable
  unfold step
  generalize (state.perform input).1 = answer at hspec hfailed
  generalize (state.perform input).2 = next at hspec ⊢
  cases hspec with
  | kept answer values => exact ⟨rfl, values, rfl⟩
  | _ => exact absurd rfl hfailed

/-- **Every run of an instance vtable.** From what `Create` leaves, as long as no memory query of
a roll-back fails, the state is consistent and an operation that fails changes nothing. -/
theorem consistent_of_run {start : VtableState} {entryCount : Nat} {object : Address}
    {original : Nat → Address} {accessible tableAccessible : Bool} {storage : Option Address}
    (hfresh : storage ≠ some object)
    (hcreated : (create entryCount object original accessible tableAccessible storage).2
      = some start)
    (inputs : List VtableInput) (hrestorable : Heeds step Restorable start inputs) :
    Consistent (run step start inputs) ∧ Heeds step FailsClean start inputs := by
  have hstep : ∀ state input, Kept state → Restorable state input → Kept (step state input) :=
    fun state input hkept hinput => hkept.performed (perform_spec hkept hinput)
  have hstart := kept_create hfresh hcreated
  exact ⟨(Heeds.invariant hstep hstart hrestorable).consistent,
    Heeds.conclude hstep (fun _ _ hkept hinput => hkept.failsClean hinput) hstart hrestorable⟩

/-- Memory that is there, and nobody else writing. -/
def quiet : VtableSteps :=
  ⟨true, [], true, [], true, true⟩

/-- An object of one virtual function, as `Create` leaves it. -/
def single : VtableState :=
  ⟨⟨4096, 8192, fun _ => 100, 1, fun _ => 100, fun _ => 0, 0⟩, ⟨4096, []⟩⟩

/-- A run in which somebody else points the object elsewhere and back. -/
theorem single_run_consistent :
    let inputs : List VtableInput :=
      [.enable 0 200 quiet, .foreign 12288, .disable 0 200 quiet, .foreign 8192, .restore quiet]
    Consistent (run step single inputs) ∧ Heeds step FailsClean single inputs :=
  @consistent_of_run single 1 4096 (fun _ => 100) true true (some 8192) (by decide) rfl _
    ⟨trivial, trivial, fun _ => rfl, trivial, trivial, trivial⟩

/-- Both queries fail that the exchanges of the object and of the entry begin with, so the entry
is the original one although its slot still holds the replacement. -/
theorem roll_back_refused :
    ¬ ∀ (start : VtableState) (entryCount : Nat) (object : Address) (original : Nat → Address)
      (accessible tableAccessible : Bool) (storage : Option Address),
      storage ≠ some object →
      (create entryCount object original accessible tableAccessible storage).2 = some start →
      ∀ inputs : List VtableInput,
        Consistent (run step start inputs) ∧ Heeds step FailsClean start inputs := by
  intro h
  have hrun := h single 1 4096 (fun _ => 100) true true (some 8192) (by decide) rfl
    [.enable 0 200 quiet, .disable 0 200 ⟨true, [], true, [], false, false⟩]
  exact absurd (hrun.1.shadowed 0 (by decide)) (by decide)

end VtableState

end KeelS2.Hooking
