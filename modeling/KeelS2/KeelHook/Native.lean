import KeelS2.KeelHook.Value
import Mathlib.Data.List.Forall2

/-!
# The native side of a dispatch

How arguments come in from the native caller, how a function is called with them, and how a
result goes back. The call adapter is modelled by what it passes: one `NativeArgument` for
each value pushed, in order, and one `NativeReturn`. Allocation failures and the adapter's
own errors, which only unsupported call modes raise, are left out.
-/

namespace KeelS2.KeelHook

/-- What one pushed value carries: a word, or the content of an aggregate. -/
structure NativeArgument where
  type : KeelHookValueType
  word : UInt64
  bytes : Bytes
  deriving DecidableEq, Repr

structure NativeReturn where
  word : UInt64
  bytes : Bytes
  deriving DecidableEq, Repr

def NativeArgument.absent : NativeArgument := ⟨valueVoid, 0, []⟩
def NativeReturn.zero : NativeReturn := ⟨0, []⟩

/-- Native code, which may change the world it runs in. -/
abbrev NativeFunction (World : Type) := List NativeArgument → World → NativeReturn × World

def truncateWord (bytes : Nat) (word : UInt64) : UInt64 :=
  UInt64.ofNat (word.toNat % 2 ^ (8 * bytes))

/-- The member of the union that `type` names. A `bool` is read as `boolBytes` bytes and
compared with zero: four where it is an argument or a `KeelBool`, one where it is returned. -/
def nativeWord (boolBytes : Nat) (type : KeelHookValueType) (word : UInt64) : UInt64 :=
  if type = valueBool then
    if truncateWord boolBytes word = 0 then 0 else 1
  else
    truncateWord (scalarByteSize type) word

/-! ## Arguments that come in -/

/-- One turn of the loop of `ExtractArguments`. -/
def extractArgument (lifecycle : Lifecycle) (slot : ValueSlot)
    (operations : Option ObjectOperations) (address : UInt64) (received : NativeArgument) : Cell :=
  let cell := initializeValue lifecycle slot operations (.fresh address) false
  if slot.type = valueAggregate then
    if slot.shape.object.isSome then
      let (_, storage) := cell.storage.copyFrom lifecycle (some received.bytes)
      ⟨bindValue slot storage, storage⟩
    else
      ⟨cell.value, { cell.storage with bytes := fitBytes slot.byteSize received.bytes }⟩
  else if isScalarValueType slot.type then
    ⟨{ cell.value with word := nativeWord 4 slot.type received.word }, cell.storage⟩
  else
    cell

/-- `ExtractArguments`; `address` is where the storage of each argument lies. -/
def extractArguments (lifecycle : Lifecycle) (address : Nat → UInt64) :
    Nat → List ValueSlot → List (Option ObjectOperations) → List NativeArgument → List Cell
  | _, [], _, _ => []
  | index, slot :: slots, operations, received =>
    extractArgument lifecycle slot operations.head?.join (address index)
        (received.headD .absent) ::
      extractArguments lifecycle address (index + 1) slots operations.tail received.tail

/-- The format string of a variadic target is replaced by the text it makes of the other
arguments, in the buffer at `formatted`. -/
def formatArguments (prototype : PrototypeData) (formatted : UInt64) (cells : List Cell) :
    List Cell :=
  if prototype.vafmt then
    cells.modify (prototype.arguments.length - 1) fun cell =>
      { cell with value := { cell.value with word := formatted } }
  else
    cells

/-! ## Calls -/

/-- What lies at an address: in one of the given storages, or anywhere else. -/
def pointee (foreign : UInt64 → Option Bytes) (cells : List Cell) (address : UInt64) :
    Option Bytes :=
  match cells.find? (·.storage.address = address) with
  | some cell => some cell.storage.bytes
  | none => foreign address

/-- `AddNativeArgument`, with the content `aggregate.data` points at. The switch is over the
value's own type, not the prototype's. -/
def addNativeArgument (value : KeelHookValue) (content : Bytes) : Option NativeArgument :=
  if value.type = valueAggregate then
    some ⟨value.type, value.word, content⟩
  else if isScalarValueType value.type then
    some ⟨value.type, nativeWord 4 value.type value.word, []⟩
  else
    none

/-- An argument as `CallFunction` passes it: an object is copied first, and `none` is a copy
that could not be made. -/
def nativeArgument (lifecycle : Lifecycle) (read : UInt64 → Option Bytes) (slot : ValueSlot)
    (operations : Option ObjectOperations) (value : KeelHookValue) :
    Option (KeelHookValue × Bytes) :=
  if slot.shape.object.isNone then
    some (value, (read value.word).getD [])
  else
    let native := initializeValue lifecycle slot operations (.fresh 0) false
    if value.aggregateReserved ≠ objectConstructed then
      none
    else
      let (copied, storage) := native.storage.copyFrom lifecycle (read value.word)
      if copied then some (bindValue slot storage, storage.bytes) else none

/-- The argument loop of `CallFunction`. -/
def nativeArguments (lifecycle : Lifecycle) (read : UInt64 → Option Bytes) :
    List ValueSlot → List (Option ObjectOperations) → List Cell →
      Option (List (KeelHookValue × Bytes))
  | slot :: slots, operations, cell :: cells =>
    match nativeArgument lifecycle read slot operations.head?.join cell.value with
    | none => none
    | some first =>
      (nativeArguments lifecycle read slots operations.tail cells).map (first :: ·)
  | _, _, _ => some []

/-- The pushes. A variadic target gets the format `"%s"`, which lies at `formatLiteral`, and
the formatted text. -/
def pushArguments (prototype : PrototypeData) (formatLiteral : UInt64)
    (arguments : List (KeelHookValue × Bytes)) : List NativeArgument :=
  if prototype.vafmt then
    arguments.dropLast.filterMap (fun (value, content) => addNativeArgument value content) ++
      [⟨valuePointer, formatLiteral, []⟩,
        ⟨valuePointer, (arguments.getLast?.map (·.1.word)).getD 0, []⟩]
  else
    arguments.filterMap fun (value, content) => addNativeArgument value content

/-- The result of a call that returned. -/
def returnedValue (lifecycle : Lifecycle) (slot : ValueSlot) (operations : Option ObjectOperations)
    (storage : AggregateStorage) (returned : NativeReturn) : Cell :=
  let cell := initializeValue lifecycle slot operations storage false
  if slot.type = valueAggregate then
    if slot.shape.object.isSome then
      let storage := { cell.storage with bytes := returned.bytes }.adoptConstructed
      ⟨bindValue slot storage, storage⟩
    else
      ⟨cell.value, { cell.storage with bytes := fitBytes slot.byteSize returned.bytes }⟩
  else if isScalarValueType slot.type then
    ⟨{ cell.value with word := nativeWord 1 slot.type returned.word }, cell.storage⟩
  else
    cell

/-- Where `CallFunction` finds the memory its arguments point at, and the format it pushes. -/
structure NativeMemory where
  foreign : UInt64 → Option Bytes
  formatLiteral : UInt64

/-- `CallFunction`, which leaves the result over `storage`. A call that cannot be made leaves
a fresh value instead. -/
def callFunction {World : Type} (lifecycle : Lifecycle) (memory : NativeMemory)
    (prototype : PrototypeData) (binding : PrototypeBinding)
    (function : Option (NativeFunction World)) (arguments : List Cell)
    (storage : AggregateStorage) (world : World) : Cell × World :=
  match nativeArguments lifecycle (pointee memory.foreign arguments) prototype.argumentSlots
      binding.argumentObjects arguments, function with
  | some pushed, some function =>
    let (returned, world) := function (pushArguments prototype memory.formatLiteral pushed) world
    (returnedValue lifecycle prototype.returnSlot binding.returnObject storage returned, world)
  | _, _ =>
    (initializeValue lifecycle prototype.returnSlot binding.returnObject storage true, world)

/-! ## Results that go back -/

def storeNativeResult (lifecycle : Lifecycle) (foreign : UInt64 → Option Bytes)
    (slot : ValueSlot) (result : Cell) : NativeReturn :=
  if result.value.type = valueAggregate then
    if slot.shape.aggregate.isSome ∧ result.value.word ≠ 0 then
      ⟨0, (pointee foreign [result] result.value.word).getD []⟩
    else if slot.shape.object.isSome then
      match result.storage.operations with
      | none => .zero
      | some callbacks =>
        let copied :=
          if result.storage.constructed then
            lifecycle.copyConstruct callbacks.copyConstruct result.storage.bytes
          else
            none
        ⟨0, (copied <|> lifecycle.defaultConstruct callbacks.defaultConstruct).getD []⟩
    else
      .zero
  else if isScalarValueType result.value.type then
    ⟨nativeWord 4 result.value.type result.value.word, []⟩
  else
    .zero

/-! ## Arguments that can be passed on -/

/-- An argument that `CallFunction` accepts: settled, and constructed if it is an object. -/
structure Cell.Passable (slot : ValueSlot) (cell : Cell) : Prop extends cell.Settled slot where
  constructed : slot.shape.object.isSome → cell.storage.constructed

section Passable

variable {lifecycle : Lifecycle}

variable {slot : ValueSlot} {operations : Option ObjectOperations} {cells : List Cell} {cell : Cell}

theorem extractArgument_passable (hcopies : lifecycle.CopiesSucceed) (hslot : slot.Described)
    (hbinds : slot.Binds operations) (address : UInt64) (received : NativeArgument) :
    (extractArgument lifecycle slot operations address received).Passable slot := by
  have hfresh : (initializeValue lifecycle slot operations (.fresh address) false).Settled slot :=
    initializeValue_settled hslot hbinds _ _
  by_cases htype : slot.type = valueAggregate
  · unfold extractArgument initializeValue
    rcases hslot.cases htype with ⟨_, haggregate, hobject⟩ | ⟨object, haggregate, hobject⟩
    · have hoperations : operations = none := by simpa [ValueSlot.Binds, hobject] using hbinds
      simp only [if_pos htype, hobject, Option.isSome_none, Bool.false_eq_true, if_false,
        Bool.and_false, AggregateStorage.prepare, hoperations]
      exact ⟨settled_plain hobject address received.bytes, fun h => by simp [hobject] at h⟩
    · have hsome : slot.shape.object.isSome := by simp [hobject]
      obtain ⟨callbacks, hoperations⟩ := Option.isSome_iff_exists.mp (hbinds.mpr hsome)
      simp only [if_pos htype, hsome, if_true, Bool.and_false, AggregateStorage.prepare,
        hoperations, AggregateStorage.copyFrom, hcopies _ _, Bool.false_eq_true, if_false,
        AggregateStorage.fresh]
      exact ⟨settled_object hsome address received.bytes callbacks, fun _ => rfl⟩
  · obtain ⟨haggregate, hobject⟩ := hslot.bare htype
    have hnone : slot.shape.object.isSome → False := by simp [hobject]
    unfold extractArgument
    rw [if_neg htype]
    split
    · exact ⟨⟨hfresh.type, hfresh.reserved, fun h => absurd h htype, fun h => absurd h htype,
        fun h => absurd h htype, hfresh.owned⟩, fun h => (hnone h).elim⟩
    · exact ⟨hfresh, fun h => (hnone h).elim⟩

theorem returnedValue_settled (hslot : slot.Described) (hbinds : slot.Binds operations)
    (address : UInt64) (returned : NativeReturn) :
    (returnedValue lifecycle slot operations (.fresh address) returned).Settled slot := by
  have hfresh : (initializeValue lifecycle slot operations (.fresh address) false).Settled slot :=
    initializeValue_settled hslot hbinds _ _
  by_cases htype : slot.type = valueAggregate
  · unfold returnedValue initializeValue
    rcases hslot.cases htype with ⟨_, haggregate, hobject⟩ | ⟨object, haggregate, hobject⟩
    · have hoperations : operations = none := by simpa [ValueSlot.Binds, hobject] using hbinds
      simp only [if_pos htype, hobject, Option.isSome_none, Bool.false_eq_true, if_false,
        Bool.and_false, AggregateStorage.prepare, hoperations]
      exact settled_plain hobject address returned.bytes
    · have hsome : slot.shape.object.isSome := by simp [hobject]
      obtain ⟨callbacks, hoperations⟩ := Option.isSome_iff_exists.mp (hbinds.mpr hsome)
      simp only [if_pos htype, hsome, if_true, Bool.and_false, AggregateStorage.prepare,
        hoperations, AggregateStorage.adoptConstructed, Option.isSome_some]
      exact settled_object hsome address returned.bytes callbacks
  · unfold returnedValue
    rw [if_neg htype]
    split
    · exact ⟨hfresh.type, hfresh.reserved, fun h => absurd h htype, fun h => absurd h htype,
        fun h => absurd h htype, hfresh.owned⟩
    · exact hfresh

theorem returnedValue_operations (slot : ValueSlot) (operations : Option ObjectOperations)
    (storage : AggregateStorage) (returned : NativeReturn) :
    (returnedValue lifecycle slot operations storage returned).storage.operations =
      operations := by
  unfold returnedValue initializeValue
  split
  · split <;> exact prepare_operations _ _ _
  · split <;> exact prepare_operations _ _ _

theorem extractArguments_passable (hcopies : lifecycle.CopiesSucceed) (address : Nat → UInt64)
    {slots : List ValueSlot} {operations : List (Option ObjectOperations)}
    (hslots : ∀ slot ∈ slots, slot.Described)
    (hbinds : List.Forall₂ ValueSlot.Binds slots operations) :
    ∀ index received, List.Forall₂ Cell.Passable slots
      (extractArguments lifecycle address index slots operations received) := by
  induction hbinds with
  | nil => exact fun _ _ => .nil
  | @cons slot first slots operations hfirst _ ih =>
    intro index received
    refine .cons ?_ (ih (fun slot hslot => hslots slot (List.mem_cons_of_mem _ hslot)) _ _)
    exact extractArgument_passable hcopies (hslots _ List.mem_cons_self) hfirst _ _

theorem formatArguments_passable {prototype : PrototypeData}
    (hcells : List.Forall₂ Cell.Passable prototype.argumentSlots cells)
    (hvafmt : prototype.vafmt → ∀ slot, prototype.argumentSlots[prototype.arguments.length - 1]? =
      some slot → slot.type ≠ valueAggregate)
    (formatted : UInt64) :
    List.Forall₂ Cell.Passable prototype.argumentSlots
      (formatArguments prototype formatted cells) := by
  unfold formatArguments
  split
  · rename_i hformat
    rw [List.forall₂_iff_get] at hcells ⊢
    refine ⟨by rw [List.length_modify]; exact hcells.1, fun index hslot hcell => ?_⟩
    have hpassable := hcells.2 index hslot (by simpa using hcell)
    simp only [List.get_eq_getElem] at hpassable ⊢
    rw [List.getElem_modify]
    split
    · rename_i hlast
      subst hlast
      have hscalar := hvafmt hformat _ (List.getElem?_eq_getElem hslot)
      exact ⟨⟨hpassable.type, hpassable.reserved, fun h => absurd h hscalar,
        fun h => absurd h hscalar, fun h => absurd h hscalar, hpassable.owned⟩,
        hpassable.constructed⟩
    · exact hpassable
  · exact hcells

theorem acceptEdit_passable (hslot : slot.Described) (hcell : cell.Passable slot)
    (value : KeelHookValue) (bytes : Bytes) :
    (acceptEdit slot cell (cell.write slot value bytes)).Passable slot := by
  refine ⟨acceptEdit_settled hslot hcell.toSettled value bytes, fun hobject => ?_⟩
  have hwritten : (cell.storage.write slot value bytes).constructed := by
    rw [AggregateStorage.write_constructed]
    exact hcell.constructed hobject
  have hkept : (runtimeValueValid slot value (cell.storage.write slot value bytes)).2.constructed :=
    runtimeValueValid_constructed value hwritten
  unfold acceptEdit
  split
  rename_i valid storage hvalid
  cases valid with
  | false => exact hcell.constructed hobject
  | true =>
    have hstorage : (runtimeValueValid slot value (cell.storage.write slot value bytes)).2 =
        storage := congrArg Prod.snd hvalid
    rw [hstorage] at hkept
    exact hkept

theorem nativeArgument_isSome (hcopies : lifecycle.CopiesSucceed) (hcell : cell.Passable slot)
    (hslot : slot.Described) (hbinds : slot.Binds operations) {read : UInt64 → Option Bytes}
    (hread : (read cell.storage.address).isSome) :
    (nativeArgument lifecycle read slot operations cell.value).isSome := by
  unfold nativeArgument
  split
  · rfl
  · rename_i hnone
    have hobject : slot.shape.object.isSome := by simpa [Option.isSome_iff_ne_none] using hnone
    have htype : slot.type = valueAggregate := by
      by_contra htype
      simp [hslot.bare htype] at hobject
    obtain ⟨callbacks, hoperations⟩ := Option.isSome_iff_exists.mp (hbinds.mpr hobject)
    obtain ⟨bytes, hbytes⟩ := Option.isSome_iff_exists.mp hread
    have hvalue : cell.value.word = cell.storage.address ∧
        cell.value.aggregateReserved = objectConstructed := by
      rw [hcell.bound htype, bindValue, if_pos ⟨htype, .inr hobject⟩]
      simp [hcell.constructed hobject]
    simp [initializeValue, hvalue, hbytes, hoperations, AggregateStorage.prepare,
      AggregateStorage.copyFrom, hcopies _ _]

theorem pointee_isSome (foreign : UInt64 → Option Bytes) (hcell : cell ∈ cells) :
    (pointee foreign cells cell.storage.address).isSome := by
  unfold pointee
  cases hfind : cells.find? (·.storage.address = cell.storage.address) with
  | some found => rfl
  | none =>
    have hnone := List.find?_eq_none.mp hfind cell hcell
    simp at hnone

theorem nativeArguments_isSome (hcopies : lifecycle.CopiesSucceed) (read : UInt64 → Option Bytes)
    {slots : List ValueSlot} {operations : List (Option ObjectOperations)}
    (hslots : ∀ slot ∈ slots, slot.Described)
    (hbinds : List.Forall₂ ValueSlot.Binds slots operations)
    (hcells : List.Forall₂ Cell.Passable slots cells)
    (hread : ∀ cell ∈ cells, (read cell.storage.address).isSome) :
    (nativeArguments lifecycle read slots operations cells).isSome := by
  induction hbinds generalizing cells with
  | nil =>
    cases hcells
    rfl
  | @cons slot first slots operations hfirst hrest ih =>
    cases hcells with
    | @cons _ cell _ cells hcell hcells =>
      have hhead := nativeArgument_isSome hcopies hcell (hslots _ List.mem_cons_self) hfirst
        (hread _ List.mem_cons_self)
      obtain ⟨pushed, hpushed⟩ := Option.isSome_iff_exists.mp hhead
      have htail := ih (fun slot h => hslots slot (List.mem_cons_of_mem _ h)) hcells
        (fun cell h => hread cell (List.mem_cons_of_mem _ h))
      simp only [nativeArguments, List.head?_cons, Option.join_some, List.tail_cons, hpushed,
        Option.isSome_map]
      exact htail

end Passable

end KeelS2.KeelHook
