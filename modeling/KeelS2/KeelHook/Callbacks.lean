import KeelS2.KeelHook.Abi
import Mathlib.Data.List.Sort

/-!
# Callback records and their order

A target's callbacks run by descending priority, and by registration sequence among equal
priorities. `Dispatch` copies the target's list and sorts the copy; `std::stable_sort` is an
insertion sort here, which orders the same lists the same way.
-/

namespace KeelS2.KeelHook

abbrev KeelHookTargetHandle := Nat
abbrev KeelHookCallbackHandle := Nat

def phasePre : Nat := 1
def phasePost : Nat := 2
def phaseBoth : Nat := phasePre ||| phasePost

/-- The fields of a `CallbackRecord` that never change. What `callback` and `user_data` do
when called is looked up by the record. -/
structure CallbackRecord where
  handle : KeelHookCallbackHandle
  owner : KeelPluginHandle
  phases : Nat
  priority : Int
  sequence : Nat
  deriving DecidableEq, Repr

def CallbackRecord.runsIn (callback : CallbackRecord) (phase : Nat) : Bool :=
  callback.phases &&& phase ≠ 0

/-- The comparison `Dispatch` sorts with, read as "not after". -/
def CallbackRecord.precedes (left right : CallbackRecord) : Prop :=
  if left.priority ≠ right.priority then left.priority > right.priority
  else left.sequence ≤ right.sequence

instance : DecidableRel CallbackRecord.precedes := fun left right =>
  inferInstanceAs (Decidable (if left.priority ≠ right.priority then
    left.priority > right.priority else left.sequence ≤ right.sequence))

def sortCallbacks (callbacks : List CallbackRecord) : List CallbackRecord :=
  callbacks.insertionSort CallbackRecord.precedes

theorem CallbackRecord.precedes_iff (left right : CallbackRecord) :
    left.precedes right ↔ left.priority > right.priority ∨
      (left.priority = right.priority ∧ left.sequence ≤ right.sequence) := by
  unfold CallbackRecord.precedes
  split <;> omega

instance : Std.Total CallbackRecord.precedes where
  total left right := by
    simp only [CallbackRecord.precedes_iff]
    omega

instance : IsTrans CallbackRecord CallbackRecord.precedes where
  trans left middle right hlm hmr := by
    rw [CallbackRecord.precedes_iff] at *
    omega

theorem sortCallbacks_perm (callbacks : List CallbackRecord) :
    (sortCallbacks callbacks).Perm callbacks :=
  List.perm_insertionSort _ callbacks

theorem sortCallbacks_pairwise (callbacks : List CallbackRecord) :
    (sortCallbacks callbacks).Pairwise CallbackRecord.precedes :=
  List.pairwise_insertionSort _ callbacks

end KeelS2.KeelHook
