import Mathlib.Data.List.Basic

/-!
# Cells that several writers share

A cell holds a value that anybody may overwrite. Its owner only ever *exchanges* a value that
it names for another one. The cell keeps the writes to it, the latest first, so that what the
owner has overwritten can be told: `Coherent` is what makes the record true, and
`Exchanges` what the owner allows itself.
-/

namespace KeelS2.Lib

inductive CellWrite (α : Type)
  | foreign (value : α)
  | exchange (previous value : α)
  deriving DecidableEq, Repr

structure Cell (α : Type) where
  value : α
  writes : List (CellWrite α)
  deriving DecidableEq, Repr

namespace Cell

variable {α : Type}

/-- Others write values, one after the other. -/
def foreign (cell : Cell α) : List α → Cell α
  | [] => cell
  | value :: values => foreign ⟨value, .foreign value :: cell.writes⟩ values

/-- Compare and exchange. -/
def exchange [DecidableEq α] (cell : Cell α) (expected desired : α) : Bool × Cell α :=
  if cell.value = expected then (true, ⟨desired, .exchange cell.value desired :: cell.writes⟩)
  else (false, cell)

/-- What a cell that held `initial` holds after the writes. -/
def valueOf (initial : α) : List (CellWrite α) → α
  | [] => initial
  | .foreign value :: _ => value
  | .exchange _ value :: _ => value

/-- What the owner last put into a cell that held `initial`. -/
def owned (initial : α) : List (CellWrite α) → α
  | [] => initial
  | .foreign _ :: earlier => owned initial earlier
  | .exchange _ value :: _ => value

/-- What the record says of the exchanges and of the value is true. -/
def Coherent (initial : α) (cell : Cell α) : Prop :=
  cell.value = valueOf initial cell.writes ∧
    ∀ later previous value earlier, cell.writes = later ++ .exchange previous value :: earlier →
      valueOf initial earlier = previous

/-- The owner has only made exchanges of this kind. -/
def Exchanges (allowed : α → α → Prop) (cell : Cell α) : Prop :=
  ∀ previous value, .exchange previous value ∈ cell.writes → allowed previous value

theorem foreign_value (cell : Cell α) (values : List α) :
    (cell.foreign values).value = values.getLastD cell.value := by
  induction values generalizing cell with
  | nil => rfl
  | cons value values ih =>
    rw [foreign, ih, List.getLastD_cons]

theorem foreign_writes (cell : Cell α) (values : List α) :
    (cell.foreign values).writes = (values.map .foreign).reverse ++ cell.writes := by
  induction values generalizing cell with
  | nil => rfl
  | cons value values ih =>
    rw [foreign, ih, List.map_cons, List.reverse_cons, List.append_assoc]
    rfl

theorem foreign_append (cell : Cell α) (first second : List α) :
    (cell.foreign first).foreign second = cell.foreign (first ++ second) := by
  induction first generalizing cell with
  | nil => rfl
  | cons value values ih => exact ih _

/-- A value that is in a cell after others wrote was there before or is one of theirs. -/
theorem foreign_value_mem (cell : Cell α) (values : List α) :
    (cell.foreign values).value = cell.value ∨ (cell.foreign values).value ∈ values := by
  rw [foreign_value]
  exact List.mem_cons.1 List.getLastD_mem_cons

theorem owned_foreign (initial : α) (cell : Cell α) (values : List α) :
    owned initial (cell.foreign values).writes = owned initial cell.writes := by
  induction values generalizing cell with
  | nil => rfl
  | cons value values ih => exact ih _

section Own

variable {initial : α} {allowed : α → α → Prop} {cell : Cell α}

theorem coherent_new : Coherent initial (⟨initial, []⟩ : Cell α) := by
  refine ⟨rfl, fun later previous value earlier h => ?_⟩
  cases later <;> cases h

theorem coherent_cons {write : CellWrite α} {next : α}
    (hvalue : next = valueOf initial (write :: cell.writes))
    (hwrite : ∀ previous value, write = .exchange previous value → cell.value = previous)
    (h : Coherent initial cell) : Coherent initial ⟨next, write :: cell.writes⟩ := by
  refine ⟨hvalue, fun later previous value earlier hsplit => ?_⟩
  cases later with
  | nil =>
    cases hsplit
    rw [← h.1]
    exact hwrite previous value rfl
  | cons first later =>
    rw [List.cons_append, List.cons.injEq] at hsplit
    exact h.2 later previous value earlier hsplit.2

theorem Coherent.foreign (h : Coherent initial cell) (values : List α) :
    Coherent initial (cell.foreign values) := by
  induction values generalizing cell with
  | nil => exact h
  | cons value values ih => exact ih (coherent_cons rfl (fun _ _ heq => by cases heq) h)

theorem Exchanges.foreign (h : Exchanges allowed cell) (values : List α) :
    Exchanges allowed (cell.foreign values) := by
  intro previous value hmem
  rw [foreign_writes, List.mem_append] at hmem
  rcases hmem with hmem | hmem
  · rw [List.mem_reverse, List.mem_map] at hmem
    obtain ⟨_, -, heq⟩ := hmem
    cases heq
  · exact h previous value hmem

theorem Coherent.of_overwritten (hcoherent : Coherent initial cell)
    (hexchanges : Exchanges allowed cell) {later earlier : List (CellWrite α)}
    {previous value theirs : α}
    (h : cell.writes = later ++ .exchange previous value :: .foreign theirs :: earlier) :
    allowed theirs value := by
  have hprevious : theirs = previous := hcoherent.2 later previous value _ h
  rw [hprevious]
  apply hexchanges
  rw [h]
  simp

variable [DecidableEq α] {expected desired : α}

theorem exchange_of_eq (h : cell.value = expected) :
    cell.exchange expected desired =
      (true, ⟨desired, .exchange expected desired :: cell.writes⟩) := by
  subst h
  exact if_pos rfl

theorem exchange_of_ne (h : cell.value ≠ expected) :
    cell.exchange expected desired = (false, cell) :=
  if_neg h

theorem Coherent.exchange (h : Coherent initial cell) :
    Coherent initial (cell.exchange expected desired).2 := by
  unfold Cell.exchange
  split
  · exact coherent_cons rfl (fun previous value heq => by cases heq; rfl) h
  · exact h

theorem Exchanges.exchange (h : Exchanges allowed cell) (hallowed : allowed expected desired) :
    Exchanges allowed (cell.exchange expected desired).2 := by
  unfold Cell.exchange
  split
  · rename_i heq
    intro previous value hmem
    rcases List.mem_cons.1 hmem with hnew | hold
    · cases hnew
      rwa [heq]
    · exact h previous value hold
  · exact h

end Own

end Cell

end KeelS2.Lib
