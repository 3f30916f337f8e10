import KeelS2.Lib.Cells

/-!
# Hooks in a vtable that objects share

`Exchange` replaces a pointer in memory that may be write-protected: it opens the page, compares
and exchanges, closes the page, and takes the exchange back where the page cannot be closed.
Every step may fail, and anybody else may write the same slot in between; what the memory
answers and what others write is given with a call. `SharedVtableHook` puts its replacement
into the slot and takes it out again by such exchanges, and remembers whether it is in.
-/

namespace KeelS2.Hooking

open Lib

/-- A pointer, as its bits. -/
abbrev Address := Nat

inductive VtableHookResult
  | ok
  | invalid
  | conflict
  | protectionFailure
  deriving DecidableEq, Repr

/-! ## The exchange -/

/-- What the steps of one call of `Exchange` come to, and what others write into the slot. -/
structure Outcomes where
  /-- The location is aligned and `Accessible`. -/
  accessible : Bool
  /-- The query of the page finds it mapped and readable. -/
  queried : Bool
  /-- The page can be made writable. -/
  opened : Bool
  /-- Until the exchange. -/
  before : List Address
  /-- The protection can be restored. -/
  restored : Bool
  /-- Between the exchange and where it would be taken back. -/
  between : List Address
  /-- Until the call returns. -/
  after : List Address
  deriving DecidableEq, Repr

/-- All that others write during the call. -/
def Outcomes.foreign (outcomes : Outcomes) : List Address :=
  outcomes.before ++ outcomes.between ++ outcomes.after

/-- `Exchange`. What the second attempt to restore the protection comes to is ignored. -/
def exchange (slot : Cell Address) (expected desired : Address) (protect : Bool)
    (outcomes : Outcomes) : VtableHookResult × Cell Address :=
  if ¬ outcomes.accessible then (.invalid, slot.foreign outcomes.foreign)
  else if protect ∧ ¬ outcomes.queried then (.invalid, slot.foreign outcomes.foreign)
  else if protect ∧ ¬ outcomes.opened then (.protectionFailure, slot.foreign outcomes.foreign)
  else
    match (slot.foreign outcomes.before).exchange expected desired with
    | (exchanged, slot) =>
      let slot := slot.foreign outcomes.between
      if protect ∧ ¬ outcomes.restored then
        let slot := if exchanged then (slot.exchange desired expected).2 else slot
        (.protectionFailure, slot.foreign outcomes.after)
      else (if exchanged then .ok else .conflict, slot.foreign outcomes.after)

section Exchange

variable {slot : Cell Address} {expected desired : Address} {protect : Bool}
  {outcomes : Outcomes}

/-- The memory lets the exchange go through and stay. -/
def Outcomes.Permit (outcomes : Outcomes) (protect : Bool) : Prop :=
  outcomes.accessible = true ∧
    (protect = true →
      outcomes.queried = true ∧ outcomes.opened = true ∧ outcomes.restored = true)

theorem exchange_eq_ok :
    (exchange slot expected desired protect outcomes).1 = .ok ↔
      outcomes.Permit protect ∧ (slot.foreign outcomes.before).value = expected := by
  unfold exchange Outcomes.Permit
  split
  · rename_i hinaccessible
    simp [hinaccessible]
  · split
    · rename_i hquery
      simp [hquery]
    · split
      · rename_i hopen
        simp [hopen]
      · rename_i haccessible hquery hopen
        simp only [Decidable.not_not] at haccessible
        by_cases heq : (slot.foreign outcomes.before).value = expected
        · rw [Cell.exchange_of_eq heq]
          dsimp only
          split
          · rename_i hrestore
            simp [hrestore]
          · rename_i hrestore
            cases protect <;> simp_all
        · rw [Cell.exchange_of_ne heq]
          dsimp only
          split <;> simp [heq]

/-- The slot right after an exchange that went through. -/
def putInto (slot : Cell Address) (expected desired : Address) (outcomes : Outcomes) :
    Cell Address :=
  ((slot.foreign outcomes.before).exchange expected desired).2

/-- What a call may have done by the time it returns. -/
inductive Exchanged (slot : Cell Address) (expected desired : Address) (outcomes : Outcomes) :
    VtableHookResult → Cell Address → Prop
  | refused {answer : VtableHookResult} : answer ≠ .ok →
    Exchanged slot expected desired outcomes answer (slot.foreign outcomes.foreign)
  | kept : (slot.foreign outcomes.before).value = expected →
    Exchanged slot expected desired outcomes .ok
      ((putInto slot expected desired outcomes).foreign (outcomes.between ++ outcomes.after))
  /-- The page could not be closed, and the exchange was taken back unless somebody else had
  written in between. -/
  | takenBack : (slot.foreign outcomes.before).value = expected →
    Exchanged slot expected desired outcomes .protectionFailure
      ((((putInto slot expected desired outcomes).foreign outcomes.between).exchange
        desired expected).2.foreign outcomes.after)

theorem exchange_spec (slot : Cell Address) (expected desired : Address) (protect : Bool)
    (outcomes : Outcomes) :
    Exchanged slot expected desired outcomes (exchange slot expected desired protect outcomes).1
      (exchange slot expected desired protect outcomes).2 := by
  unfold exchange
  split
  · exact .refused (fun h => by cases h)
  · split
    · exact .refused (fun h => by cases h)
    · split
      · exact .refused (fun h => by cases h)
      · by_cases hfound : (slot.foreign outcomes.before).value = expected
        · have hexchanged : (slot.foreign outcomes.before).exchange expected desired
              = (true, putInto slot expected desired outcomes) := by
            rw [putInto, Cell.exchange_of_eq hfound]
          rw [hexchanged]
          dsimp only
          split
          · exact .takenBack hfound
          · rw [Cell.foreign_append]
            exact .kept hfound
        · -- Nothing was exchanged, so there is nothing to take back.
          have hrefused : ∀ answer, answer ≠ .ok → Exchanged slot expected desired outcomes answer
              (slot.foreign outcomes.foreign) := fun _ => .refused
          rw [Cell.exchange_of_ne hfound]
          dsimp only
          split
          · rw [if_neg (by decide), Cell.foreign_append, Cell.foreign_append,
              ← List.append_assoc]
            exact hrefused .protectionFailure (fun h => by cases h)
          · rw [Cell.foreign_append, Cell.foreign_append, ← List.append_assoc]
            exact hrefused .conflict (fun h => by cases h)

theorem putInto_value (h : (slot.foreign outcomes.before).value = expected) :
    (putInto slot expected desired outcomes).value = desired := by
  rw [putInto, Cell.exchange_of_eq h]

theorem exchange_value_of_ok (h : (exchange slot expected desired protect outcomes).1 = .ok) :
    (exchange slot expected desired protect outcomes).2.value
      = (outcomes.between ++ outcomes.after).getLastD desired := by
  have hspec := exchange_spec slot expected desired protect outcomes
  rw [h] at hspec
  generalize (exchange slot expected desired protect outcomes).2 = result at hspec ⊢
  cases hspec with
  | refused hne => exact absurd rfl hne
  | kept hfound => rw [Cell.foreign_value, putInto_value hfound]

theorem exchange_value_of_ne_ok (h : (exchange slot expected desired protect outcomes).1 ≠ .ok) :
    (exchange slot expected desired protect outcomes).2.value = slot.value ∨
      (exchange slot expected desired protect outcomes).2.value ∈ outcomes.foreign := by
  have hspec := exchange_spec slot expected desired protect outcomes
  generalize (exchange slot expected desired protect outcomes).1 = answer at h hspec
  generalize (exchange slot expected desired protect outcomes).2 = result at hspec ⊢
  unfold Outcomes.foreign
  cases hspec with
  | refused => exact Cell.foreign_value_mem slot _
  | kept => exact absurd rfl h
  | takenBack hfound =>
    -- What is put back was in the slot when the call came to its exchange.
    have hbefore := Cell.foreign_value_mem slot outcomes.before
    rw [hfound] at hbefore
    rcases Cell.foreign_value_mem _ outcomes.after with hafter | hafter
    · rw [hafter]
      by_cases hstill :
          ((putInto slot expected desired outcomes).foreign outcomes.between).value = desired
      · rw [Cell.exchange_of_eq hstill]
        rcases hbefore with heq | hmem
        · exact .inl heq
        · exact .inr (by simp [hmem])
      · rw [Cell.exchange_of_ne hstill]
        rcases Cell.foreign_value_mem (putInto slot expected desired outcomes) outcomes.between
          with hput | hmem
        · rw [hput, putInto_value hfound] at hstill
          exact absurd rfl hstill
        · exact .inr (by simp [hmem])
    · exact .inr (by simp [hafter])

/-- The call itself exchanges its two values only. -/
theorem exchanges_exchange {allowed : Address → Address → Prop} (hslot : slot.Exchanges allowed)
    (hput : allowed expected desired) (hback : allowed desired expected) :
    (exchange slot expected desired protect outcomes).2.Exchanges allowed := by
  have hspec := exchange_spec slot expected desired protect outcomes
  generalize (exchange slot expected desired protect outcomes).1 = answer at hspec
  generalize (exchange slot expected desired protect outcomes).2 = result at hspec ⊢
  cases hspec with
  | refused => exact hslot.foreign _
  | kept => exact ((hslot.foreign _).exchange hput).foreign _
  | takenBack => exact ((((hslot.foreign _).exchange hput).foreign _).exchange hback).foreign _

theorem coherent_exchange {initial : Address} (hslot : slot.Coherent initial) :
    (exchange slot expected desired protect outcomes).2.Coherent initial := by
  have hspec := exchange_spec slot expected desired protect outcomes
  generalize (exchange slot expected desired protect outcomes).1 = answer at hspec
  generalize (exchange slot expected desired protect outcomes).2 = result at hspec ⊢
  cases hspec with
  | refused => exact hslot.foreign _
  | kept => exact (hslot.foreign _).exchange.foreign _
  | takenBack => exact ((hslot.foreign _).exchange.foreign _).exchange.foreign _

end Exchange

/-! ## The hook -/

/-- `SharedVtableHook`, less the location of its slot. -/
structure SharedVtableHook where
  original : Address
  replacement : Address
  enabled : Bool
  deriving DecidableEq, Repr

namespace SharedVtableHook

def enable (hook : SharedVtableHook) (slot : Cell Address) (outcomes : Outcomes) :
    VtableHookResult × SharedVtableHook × Cell Address :=
  if hook.enabled then (.ok, hook, slot.foreign outcomes.foreign)
  else
    match exchange slot hook.original hook.replacement true outcomes with
    | (.ok, slot) => (.ok, { hook with enabled := true }, slot)
    | (result, slot) => (result, hook, slot)

def disable (hook : SharedVtableHook) (slot : Cell Address) (outcomes : Outcomes) :
    VtableHookResult × SharedVtableHook × Cell Address :=
  if ¬ hook.enabled then (.ok, hook, slot.foreign outcomes.foreign)
  else
    match exchange slot hook.replacement hook.original true outcomes with
    | (.ok, slot) => (.ok, { hook with enabled := false }, slot)
    | (result, slot) => (result, hook, slot)

/-- The value that the slot is to hold while the hook is recorded so. -/
def value (hook : SharedVtableHook) (enabled : Bool) : Address :=
  if enabled then hook.replacement else hook.original

/-- `Enable`, or `Disable`. -/
def change (hook : SharedVtableHook) (wanted : Bool) (slot : Cell Address)
    (outcomes : Outcomes) : VtableHookResult × SharedVtableHook × Cell Address :=
  if wanted then hook.enable slot outcomes else hook.disable slot outcomes

/-- The exchanges between the two values of the hook. -/
def Swaps (hook : SharedVtableHook) (previous value : Address) : Prop :=
  (previous = hook.original ∧ value = hook.replacement) ∨
    (previous = hook.replacement ∧ value = hook.original)

section Change

variable {hook : SharedVtableHook} {wanted : Bool} {slot : Cell Address} {outcomes : Outcomes}

theorem change_of_eq (h : hook.enabled = wanted) :
    hook.change wanted slot outcomes = (.ok, hook, slot.foreign outcomes.foreign) := by
  subst h
  unfold change enable disable
  cases henabled : hook.enabled with
  | true => rw [if_pos rfl, if_pos rfl]
  | false => rw [if_neg (by decide), if_pos (by decide)]

theorem change_of_ne (h : hook.enabled ≠ wanted) :
    hook.change wanted slot outcomes =
      ((exchange slot (hook.value !wanted) (hook.value wanted) true outcomes).1,
        (if (exchange slot (hook.value !wanted) (hook.value wanted) true outcomes).1 = .ok then
          { hook with enabled := wanted } else hook),
        (exchange slot (hook.value !wanted) (hook.value wanted) true outcomes).2) := by
  unfold change enable disable value
  cases wanted with
  | true =>
    rw [if_pos rfl, if_neg h]
    cases hresult : exchange slot hook.original hook.replacement true outcomes with
    | mk answer slot' => cases answer <;> simp [hresult]
  | false =>
    rw [if_neg (by decide), if_neg (by simpa using h)]
    cases hresult : exchange slot hook.replacement hook.original true outcomes with
    | mk answer slot' => cases answer <;> simp [hresult]

theorem swaps_values (hook : SharedVtableHook) (enabled : Bool) :
    hook.Swaps (hook.value !enabled) (hook.value enabled) := by
  cases enabled with
  | true => exact .inl ⟨rfl, rfl⟩
  | false => exact .inr ⟨rfl, rfl⟩

theorem exchanges_change (h : slot.Exchanges hook.Swaps) :
    (hook.change wanted slot outcomes).2.2.Exchanges hook.Swaps := by
  by_cases hrecorded : hook.enabled = wanted
  · rw [change_of_eq hrecorded]
    exact h.foreign _
  · rw [change_of_ne hrecorded]
    have hback := hook.swaps_values !wanted
    rw [Bool.not_not] at hback
    exact exchanges_exchange h (hook.swaps_values wanted) hback

theorem coherent_change {initial : Address} (h : slot.Coherent initial) :
    (hook.change wanted slot outcomes).2.2.Coherent initial := by
  by_cases hrecorded : hook.enabled = wanted
  · rw [change_of_eq hrecorded]
    exact h.foreign _
  · rw [change_of_ne hrecorded]
    exact coherent_exchange h

end Change

/-- What a call answers and leaves, in terms of what the slot holds when it returns. -/
structure Accounts (hook : SharedVtableHook) (wanted : Bool) (entry : Address)
    (outcomes : Outcomes) (answer : VtableHookResult) (after : SharedVtableHook)
    (slot : Cell Address) : Prop where
  success : answer = .ok ↔ slot.value = hook.value wanted ∧ after.enabled = wanted
  recorded : answer ≠ .ok → (after.enabled = true ↔ slot.value = hook.replacement)
  held : answer ≠ .ok → slot.value = entry ∨ slot.value ∈ outcomes.foreign
  removed : answer ≠ .ok → after.enabled = false → slot.value ≠ hook.replacement
  kept : ∀ later previous value theirs earlier,
    slot.writes = later ++ .exchange previous value :: .foreign theirs :: earlier →
    theirs = hook.original ∨ theirs = hook.replacement

/-- What a call does, whatever the memory answers and others write. -/
structure Changes (hook : SharedVtableHook) (wanted : Bool) (entry : Address)
    (outcomes : Outcomes) (answer : VtableHookResult) (after : SharedVtableHook)
    (slot : Cell Address) : Prop where
  /-- A hook that is recorded so is left alone, whatever the slot holds. -/
  idle : hook.enabled = wanted →
    answer = .ok ∧ after = hook ∧ slot = (⟨entry, []⟩ : Cell Address).foreign outcomes.foreign
  success : hook.enabled ≠ wanted → (answer = .ok ↔ outcomes.Permit true ∧
    outcomes.before.getLastD entry = hook.value !wanted)
  /-- After a success only somebody else can have displaced the value. -/
  done : hook.enabled ≠ wanted → answer = .ok → after = { hook with enabled := wanted } ∧
    slot.value = (outcomes.between ++ outcomes.after).getLastD (hook.value wanted)
  failed : answer ≠ .ok → after = hook ∧ (slot.value = entry ∨ slot.value ∈ outcomes.foreign)
  removed : answer ≠ .ok → after.enabled = false → slot.value = hook.replacement →
    entry = hook.replacement ∨ hook.replacement ∈ outcomes.foreign
  kept : ∀ later previous value theirs earlier,
    slot.writes = later ++ .exchange previous value :: .foreign theirs :: earlier →
    theirs = hook.original ∨ theirs = hook.replacement

/-- **What `Enable` and `Disable` answer for.** -/
theorem change_changes (hook : SharedVtableHook) (wanted : Bool) (entry : Address)
    (outcomes : Outcomes) :
    Changes hook wanted entry outcomes (hook.change wanted ⟨entry, []⟩ outcomes).1
      (hook.change wanted ⟨entry, []⟩ outcomes).2.1
      (hook.change wanted ⟨entry, []⟩ outcomes).2.2 := by
  have hfailed : (hook.change wanted ⟨entry, []⟩ outcomes).1 ≠ .ok →
      (hook.change wanted ⟨entry, []⟩ outcomes).2.1 = hook ∧
        ((hook.change wanted ⟨entry, []⟩ outcomes).2.2.value = entry ∨
          (hook.change wanted ⟨entry, []⟩ outcomes).2.2.value ∈ outcomes.foreign) := by
    by_cases hrecorded : hook.enabled = wanted
    · rw [change_of_eq hrecorded]
      exact fun h => absurd rfl h
    · rw [change_of_ne hrecorded]
      intro hne
      exact ⟨if_neg hne, exchange_value_of_ne_ok hne⟩
  refine ⟨?_, ?_, ?_, hfailed, ?_, ?_⟩
  · intro hrecorded
    rw [change_of_eq hrecorded]
    exact ⟨rfl, rfl, rfl⟩
  · intro hrecorded
    rw [change_of_ne hrecorded, exchange_eq_ok, Cell.foreign_value]
  · intro hrecorded
    rw [change_of_ne hrecorded]
    intro hok
    exact ⟨if_pos hok, exchange_value_of_ok hok⟩
  · intro hne _ hours
    obtain ⟨-, hvalue⟩ := hfailed hne
    rwa [hours, eq_comm] at hvalue
  · intro later previous value theirs earlier hwrites
    have hcoherent := @coherent_change hook wanted _ outcomes _ (@Cell.coherent_new _ entry)
    have hexchanges := @exchanges_change hook wanted ⟨entry, []⟩ outcomes
      (fun _ _ hmem => by cases hmem)
    rcases hcoherent.of_overwritten hexchanges hwrites with h | h
    · exact .inl h.1
    · exact .inr h.1

/-- Somebody else's value in the slot of a hook that is recorded as enabled: `Enable` has nothing
to do, and `Disable` refuses and leaves the record as it is. -/
theorem foreign_value_unaccounted :
    ¬ ∀ (hook : SharedVtableHook) (wanted : Bool) (entry : Address) (outcomes : Outcomes),
      Accounts hook wanted entry outcomes (hook.change wanted ⟨entry, []⟩ outcomes).1
        (hook.change wanted ⟨entry, []⟩ outcomes).2.1
        (hook.change wanted ⟨entry, []⟩ outcomes).2.2 := by
  intro h
  have haccounts := h ⟨16, 32, true⟩ true 48 ⟨true, true, true, [], true, [], []⟩
  exact absurd (haccounts.success.1 rfl).1 (by decide)

end SharedVtableHook

end KeelS2.Hooking
