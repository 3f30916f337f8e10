import KeelS2.KeelHook.Prototype

/-!
# Hook values and their storage

A `KeelHookValue` is what a callback reads and writes; an aggregate's or an object's content
lies in an `AggregateStorage` beside it, to which the value only points. The dispatcher
copies values to keep a copy aside and to put a copy back, and asks of every value a callback
left whether it is still well formed.

The bytes of a storage are the bytes of a plain aggregate, or the *value* of an object: that
two representations of one object differ is not seen here, so that a copy which succeeds can
be said to be equal to its source.
-/

namespace KeelS2.KeelHook

abbrev Bytes := List UInt8

/-- The 64 bytes of a fresh `AggregateStorage`. -/
def zeroBytes : Bytes := List.replicate maxAggregateSize 0

/-- The first `size` of `bytes` in a storage that was just filled with zeros. -/
def fitBytes (size : Nat) (bytes : Bytes) : Bytes :=
  (List.range size).map (bytes.getD · 0) ++ List.replicate (maxAggregateSize - size) 0

/-- `KeelHookValue`. The union is one word beside the two other fields of its `aggregate`
member: `word` is the scalar, the pointer or `aggregate.data`. -/
structure KeelHookValue where
  type : KeelHookValueType
  reserved : Nat
  word : UInt64
  aggregateSize : Nat
  aggregateReserved : Nat
  deriving DecidableEq, Repr

def KeelHookValue.empty : KeelHookValue := ⟨valueVoid, 0, 0, 0, 0⟩

/-- `KH_VALUE_OBJECT_CONSTRUCTED`. -/
def objectConstructed : Nat := 1

/-- A type with the descriptors that stand beside it in a prototype. -/
structure ValueSlot where
  type : KeelHookValueType
  shape : ValueShape
  deriving DecidableEq, Repr

def ValueSlot.byteSize (slot : ValueSlot) : Nat :=
  match slot.shape.aggregate, slot.shape.object with
  | some aggregate, _ => aggregate.byteSize
  | none, some object => object.byteSize
  | none, none => 0

def PrototypeData.returnSlot (prototype : PrototypeData) : ValueSlot :=
  ⟨prototype.returnType, prototype.returnShape⟩

def PrototypeData.argumentSlots (prototype : PrototypeData) : List ValueSlot :=
  List.zipWith ValueSlot.mk prototype.arguments prototype.argumentShapes

/-! ## Storage -/

/-- The plugins' lifecycle callbacks, by address: the value one leaves at its destination, or
`none` when it threw or did not return `KEEL_TRUE`. What a failed one leaves is no value. -/
structure Lifecycle where
  defaultConstruct : Address → Option Bytes
  copyConstruct : Address → Bytes → Option Bytes
  copyAssign : Address → Bytes → Bytes → Option Bytes

/-- Copying an object succeeds, and the copy has the value of its source. -/
def Lifecycle.CopiesSucceed (lifecycle : Lifecycle) : Prop :=
  ∀ address bytes, lifecycle.copyConstruct address bytes = some bytes

structure AggregateStorage where
  address : UInt64
  bytes : Bytes
  operations : Option ObjectOperations
  constructed : Bool
  deriving DecidableEq, Repr

namespace AggregateStorage

def fresh (address : UInt64) : AggregateStorage := ⟨address, zeroBytes, none, false⟩

def prepare (lifecycle : Lifecycle) (storage : AggregateStorage)
    (operations : Option ObjectOperations) (construct : Bool) : AggregateStorage :=
  let storage := { storage with bytes := zeroBytes, operations, constructed := false }
  match construct, operations with
  | true, some callbacks =>
    match lifecycle.defaultConstruct callbacks.defaultConstruct with
    | some bytes => { storage with bytes, constructed := true }
    | none => storage
  | _, _ => storage

/-- `CopyFrom`, with its answer. `source` is `none` for a null pointer. -/
def copyFrom (lifecycle : Lifecycle) (storage : AggregateStorage) (source : Option Bytes) :
    Bool × AggregateStorage :=
  match storage.operations, source with
  | some callbacks, some source =>
    if storage.constructed then
      match lifecycle.copyAssign callbacks.copyAssign storage.bytes source with
      | some bytes => (true, { storage with bytes })
      | none => (false, storage)
    else
      match lifecycle.copyConstruct callbacks.copyConstruct source with
      | some bytes => (true, { storage with bytes, constructed := true })
      | none => (false, storage)
  | _, _ => (false, storage)

def adoptConstructed (storage : AggregateStorage) : AggregateStorage :=
  { storage with constructed := storage.operations.isSome }

end AggregateStorage

/-! ## Values over storage -/

/-- A value with the storage that belongs to it. -/
structure Cell where
  value : KeelHookValue
  storage : AggregateStorage
  deriving DecidableEq, Repr

def Cell.fresh (address : UInt64) : Cell := ⟨.empty, .fresh address⟩

def bindValue (slot : ValueSlot) (storage : AggregateStorage) : KeelHookValue :=
  if slot.type = valueAggregate ∧ (slot.shape.aggregate.isSome ∨ slot.shape.object.isSome) then
    { type := slot.type, reserved := 0, word := storage.address, aggregateSize := slot.byteSize
      aggregateReserved := if storage.constructed then objectConstructed else 0 }
  else
    { KeelHookValue.empty with type := slot.type }

def initializeValue (lifecycle : Lifecycle) (slot : ValueSlot)
    (operations : Option ObjectOperations) (storage : AggregateStorage)
    (constructObject : Bool) : Cell :=
  let storage :=
    storage.prepare lifecycle operations (slot.shape.object.isSome && constructObject)
  ⟨bindValue slot storage, storage⟩

/-- `RuntimeValueValid`, with the storage it leaves: a value that says its object was
constructed in place makes the storage adopt it. -/
def runtimeValueValid (slot : ValueSlot) (value : KeelHookValue) (storage : AggregateStorage) :
    Bool × AggregateStorage :=
  if value.type ≠ slot.type ∨ value.reserved ≠ 0 then
    (false, storage)
  else if slot.type ≠ valueAggregate then
    (true, storage)
  else if (slot.shape.aggregate.isNone ∧ slot.shape.object.isNone) ∨
      value.word ≠ storage.address ∨ value.aggregateSize ≠ slot.byteSize then
    (false, storage)
  else if slot.shape.aggregate.isSome then
    (value.aggregateReserved = 0, storage)
  else
    let storage :=
      if value.aggregateReserved = objectConstructed ∧ !storage.constructed ∧
          storage.operations.isSome then
        storage.adoptConstructed
      else
        storage
    (value.aggregateReserved = if storage.constructed then objectConstructed else 0, storage)

/-- The storage `CopyValue` leaves for an aggregate: a copy of `source` where `output` was. -/
def copyStorage (lifecycle : Lifecycle) (slot : ValueSlot) (source output : AggregateStorage) :
    AggregateStorage :=
  if slot.shape.object.isSome then
    let storage := output.prepare lifecycle source.operations false
    if source.constructed then
      let (copied, storage) := storage.copyFrom lifecycle (some source.bytes)
      if copied then storage else storage.prepare lifecycle source.operations true
    else
      storage
  else
    let storage := output.prepare lifecycle none false
    if slot.shape.aggregate.isSome then
      { storage with bytes := fitBytes slot.byteSize source.bytes }
    else
      storage

/-- `CopyValue`, into `output`. -/
def copyValue (lifecycle : Lifecycle) (slot : ValueSlot) (source output : Cell) : Cell :=
  if slot.type ≠ valueAggregate then
    ⟨source.value, output.storage⟩
  else
    let storage := copyStorage lifecycle slot source.storage output.storage
    ⟨bindValue slot storage, storage⟩

/-! ## What a callback writes -/

/-- A callback's writes through the pointer a value hands it. Only an aggregate's value
points at its storage, and an object that is neither constructed nor said to be has no value:
whatever is written there reads as zeros. -/
def AggregateStorage.write (storage : AggregateStorage) (slot : ValueSlot)
    (value : KeelHookValue) (bytes : Bytes) : AggregateStorage :=
  if slot.type ≠ valueAggregate then
    storage
  else
    match slot.shape.object with
    | none => { storage with bytes := fitBytes slot.byteSize bytes }
    | some _ =>
      if storage.constructed ∨ value.aggregateReserved = objectConstructed then
        { storage with bytes }
      else
        { storage with bytes := zeroBytes }

/-- What a callback left in a cell: its writes to the value and through it. -/
def Cell.write (slot : ValueSlot) (cell : Cell) (value : KeelHookValue) (bytes : Bytes) : Cell :=
  ⟨value, cell.storage.write slot value bytes⟩

/-- The per-value part of `ValidateFrame`: a value that is not well formed is put back. -/
def validateValue (lifecycle : Lifecycle) (slot : ValueSlot) (before written : Cell) : Cell :=
  let (valid, storage) := runtimeValueValid slot written.value written.storage
  if valid then ⟨written.value, storage⟩
  else copyValue lifecycle slot before ⟨written.value, storage⟩

/-! ## Values at rest -/

theorem fitBytes_fitBytes (size : Nat) (bytes : Bytes) :
    fitBytes size (fitBytes size bytes) = fitBytes size bytes := by
  have hmap : (List.range size).map ((fitBytes size bytes).getD · 0) =
      (List.range size).map (bytes.getD · 0) := by
    apply List.map_congr_left
    intro index hindex
    rw [List.mem_range] at hindex
    simp [fitBytes, List.getD_eq_getElem?_getD, List.getElem?_append_left, hindex]
  conv_lhs => rw [fitBytes, hmap]
  rw [fitBytes]

theorem fitBytes_zeroBytes {size : Nat} (hsize : size ≤ maxAggregateSize) :
    fitBytes size zeroBytes = zeroBytes := by
  have hmap : (List.range size).map (zeroBytes.getD · 0) = List.replicate size 0 := by
    rw [List.eq_replicate_iff]
    refine ⟨by simp, ?_⟩
    intro byte hbyte
    obtain ⟨index, -, rfl⟩ := List.mem_map.mp hbyte
    rw [zeroBytes, List.getD_eq_getElem?_getD, List.getElem?_replicate]
    split <;> rfl
  rw [fitBytes, hmap, zeroBytes, List.replicate_append_replicate, Nat.add_sub_cancel' hsize]

/-- What the descriptor readers guarantee of a slot: an aggregate type has exactly one
descriptor, whose content fits a storage, and any other type has none. -/
structure ValueSlot.Described (slot : ValueSlot) : Prop where
  one : slot.type = valueAggregate → slot.shape.aggregate.isSome ≠ slot.shape.object.isSome
  bare : slot.type ≠ valueAggregate → slot.shape.aggregate = none ∧ slot.shape.object = none
  fits : slot.byteSize ≤ maxAggregateSize

/-- What every value of a dispatch is between two callbacks: well formed, with a storage that
holds nothing but what the value's type keeps there. -/
structure Cell.Settled (slot : ValueSlot) (cell : Cell) : Prop where
  type : cell.value.type = slot.type
  reserved : cell.value.reserved = 0
  bound : slot.type = valueAggregate → cell.value = bindValue slot cell.storage
  plain : slot.type = valueAggregate → slot.shape.object = none →
    cell.storage = ⟨cell.storage.address, fitBytes slot.byteSize cell.storage.bytes, none, false⟩
  raw : slot.type = valueAggregate → slot.shape.object.isSome → cell.storage.constructed = false →
    cell.storage.bytes = zeroBytes
  owned : cell.storage.constructed → cell.storage.operations.isSome

section Settled

variable {lifecycle : Lifecycle} {slot : ValueSlot} {cell : Cell}

theorem ValueSlot.Described.cases (hslot : slot.Described) (htype : slot.type = valueAggregate) :
    (∃ aggregate, slot.shape.aggregate = some aggregate ∧ slot.shape.object = none) ∨
      ∃ object, slot.shape.aggregate = none ∧ slot.shape.object = some object := by
  have hone := hslot.one htype
  cases haggregate : slot.shape.aggregate with
  | none =>
    cases hobject : slot.shape.object with
    | none => simp [haggregate, hobject] at hone
    | some object => exact .inr ⟨object, rfl, rfl⟩
  | some aggregate =>
    cases hobject : slot.shape.object with
    | none => exact .inl ⟨aggregate, rfl, rfl⟩
    | some object => simp [haggregate, hobject] at hone

theorem bindValue_type (storage : AggregateStorage) :
    (bindValue slot storage).type = slot.type := by
  unfold bindValue
  split <;> rfl

theorem bindValue_reserved (storage : AggregateStorage) :
    (bindValue slot storage).reserved = 0 := by
  unfold bindValue
  split <;> rfl

theorem settled_plain (hobject : slot.shape.object = none) (address : UInt64) (bytes : Bytes) :
    (Cell.mk (bindValue slot ⟨address, fitBytes slot.byteSize bytes, none, false⟩)
      ⟨address, fitBytes slot.byteSize bytes, none, false⟩).Settled slot := by
  refine ⟨bindValue_type _, bindValue_reserved _, fun _ => rfl, fun _ _ => ?_, fun _ h => ?_,
    fun h => ?_⟩
  · simp [fitBytes_fitBytes]
  · simp [hobject] at h
  · simp at h

theorem settled_object (hobject : slot.shape.object.isSome) (address : UInt64) (bytes : Bytes)
    (callbacks : ObjectOperations) :
    (Cell.mk (bindValue slot ⟨address, bytes, some callbacks, true⟩)
      ⟨address, bytes, some callbacks, true⟩).Settled slot := by
  refine ⟨bindValue_type _, bindValue_reserved _, fun _ => rfl, fun _ h => ?_, fun _ _ h => ?_,
    fun _ => rfl⟩
  · simp [h] at hobject
  · simp at h

theorem copyStorage_plain (storage output : AggregateStorage)
    (haggregate : slot.shape.aggregate.isSome) (hobject : slot.shape.object = none) :
    copyStorage lifecycle slot storage output =
      ⟨output.address, fitBytes slot.byteSize storage.bytes, none, false⟩ := by
  simp [copyStorage, haggregate, hobject, AggregateStorage.prepare]

theorem copyStorage_object (hcopies : lifecycle.CopiesSucceed) {storage : AggregateStorage}
    (output : AggregateStorage) (hobject : slot.shape.object.isSome)
    (howned : storage.constructed → storage.operations.isSome) :
    copyStorage lifecycle slot storage output =
      ⟨output.address, if storage.constructed then storage.bytes else zeroBytes,
        storage.operations, storage.constructed⟩ := by
  cases hconstructed : storage.constructed with
  | false => simp [copyStorage, hobject, hconstructed, AggregateStorage.prepare]
  | true =>
    obtain ⟨callbacks, hoperations⟩ := Option.isSome_iff_exists.mp (howned hconstructed)
    simp [copyStorage, hobject, hconstructed, hoperations, AggregateStorage.prepare,
      AggregateStorage.copyFrom, hcopies _ _]

/-- The storage of an edited cell is still the one the cell had. -/
structure Cell.EditOf (slot : ValueSlot) (edited cell : Cell) : Prop where
  address : edited.storage.address = cell.storage.address
  scalar : slot.type ≠ valueAggregate → edited.storage = cell.storage

/-- **What was put aside comes back.** A settled value that is copied aside and copied back
over whatever became of it is what it was. -/
theorem copyValue_restore (hcopies : lifecycle.CopiesSucceed) (hslot : slot.Described)
    (hcell : cell.Settled slot) (aside : Cell) {edited : Cell} (hedited : edited.EditOf slot cell) :
    copyValue lifecycle slot (copyValue lifecycle slot cell aside) edited = cell := by
  by_cases htype : slot.type = valueAggregate
  · have hback : copyStorage lifecycle slot
        (copyStorage lifecycle slot cell.storage aside.storage) edited.storage = cell.storage := by
      rcases hslot.cases htype with ⟨_, haggregate, hobject⟩ | ⟨_, haggregate, hobject⟩
      · rw [copyStorage_plain _ _ (by simp [haggregate]) hobject,
          copyStorage_plain _ _ (by simp [haggregate]) hobject, fitBytes_fitBytes, hedited.address]
        exact (hcell.plain htype hobject).symm
      · have hsome : slot.shape.object.isSome := by simp [hobject]
        rw [copyStorage_object hcopies aside.storage hsome hcell.owned,
          copyStorage_object hcopies edited.storage hsome (by exact hcell.owned),
          hedited.address]
        cases hconstructed : cell.storage.constructed with
        | false =>
          have hraw := hcell.raw htype hsome hconstructed
          simp [← hraw, ← hconstructed]
        | true => simp [← hconstructed]
    simp only [copyValue, htype, ne_eq, not_true_eq_false, if_false, hback]
    rw [← hcell.bound htype]
  · simp [copyValue, htype, hedited.scalar htype]

theorem copyValue_settled (hcopies : lifecycle.CopiesSucceed) (hslot : slot.Described)
    {source output : Cell} (hsource : source.Settled slot) (houtput : output.Settled slot) :
    (copyValue lifecycle slot source output).Settled slot := by
  by_cases htype : slot.type = valueAggregate
  · simp only [copyValue, htype, ne_eq, not_true_eq_false, if_false]
    rcases hslot.cases htype with ⟨_, haggregate, hobject⟩ | ⟨_, haggregate, hobject⟩
    · rw [copyStorage_plain _ _ (by simp [haggregate]) hobject]
      exact settled_plain hobject _ _
    · have hsome : slot.shape.object.isSome := by simp [hobject]
      rw [copyStorage_object hcopies _ hsome hsource.owned]
      refine ⟨bindValue_type _, bindValue_reserved _, fun _ => rfl, fun _ h => ?_,
        fun _ _ h => ?_, hsource.owned⟩
      · simp [hobject] at h
      · simp only at h ⊢
        rw [if_neg (by simp [h])]
  · simp only [copyValue, ne_eq, htype, not_false_eq_true, if_true]
    exact ⟨hsource.type, hsource.reserved, fun h => absurd h htype, fun h => absurd h htype,
      fun h => absurd h htype, houtput.owned⟩

/-! ### Edits -/

@[simp]
theorem AggregateStorage.write_address (storage : AggregateStorage) (value : KeelHookValue)
    (bytes : Bytes) : (storage.write slot value bytes).address = storage.address := by
  unfold AggregateStorage.write
  split
  · rfl
  · cases slot.shape.object with
    | none => rfl
    | some object => dsimp only; split <;> rfl

theorem AggregateStorage.write_scalar (htype : slot.type ≠ valueAggregate)
    (storage : AggregateStorage) (value : KeelHookValue) (bytes : Bytes) :
    storage.write slot value bytes = storage := by
  rw [AggregateStorage.write, if_pos htype]

theorem AggregateStorage.write_object (htype : slot.type = valueAggregate)
    (hobject : slot.shape.object.isSome) (storage : AggregateStorage) (value : KeelHookValue)
    (bytes : Bytes) :
    storage.write slot value bytes =
      if storage.constructed ∨ value.aggregateReserved = objectConstructed then
        { storage with bytes }
      else
        { storage with bytes := zeroBytes } := by
  obtain ⟨object, hsome⟩ := Option.isSome_iff_exists.mp hobject
  simp [AggregateStorage.write, htype, hsome]

@[simp]
theorem runtimeValueValid_address (value : KeelHookValue) (storage : AggregateStorage) :
    (runtimeValueValid slot value storage).2.address = storage.address := by
  unfold runtimeValueValid
  grind [AggregateStorage.adoptConstructed]

theorem AggregateStorage.write_constructed (storage : AggregateStorage) (value : KeelHookValue)
    (bytes : Bytes) : (storage.write slot value bytes).constructed = storage.constructed := by
  unfold AggregateStorage.write
  split
  · rfl
  · cases slot.shape.object with
    | none => rfl
    | some object => dsimp only; split <;> rfl

theorem runtimeValueValid_constructed {storage : AggregateStorage} (value : KeelHookValue)
    (hconstructed : storage.constructed) :
    (runtimeValueValid slot value storage).2.constructed := by
  unfold runtimeValueValid
  grind

theorem runtimeValueValid_scalar (htype : slot.type ≠ valueAggregate) (value : KeelHookValue)
    (storage : AggregateStorage) : (runtimeValueValid slot value storage).2 = storage := by
  unfold runtimeValueValid
  simp only [htype, ne_eq, not_false_eq_true, if_true]
  split <;> rfl

/-- What an edit comes to: the edited value if it is well formed, the old one otherwise. -/
def acceptEdit (slot : ValueSlot) (cell edited : Cell) : Cell :=
  let (valid, storage) := runtimeValueValid slot edited.value edited.storage
  if valid then ⟨edited.value, storage⟩ else cell

theorem validateValue_eq_acceptEdit (hcopies : lifecycle.CopiesSucceed) (hslot : slot.Described)
    (hcell : cell.Settled slot) (aside : Cell) (value : KeelHookValue) (bytes : Bytes) :
    validateValue lifecycle slot (copyValue lifecycle slot cell aside)
        (cell.write slot value bytes) =
      acceptEdit slot cell (cell.write slot value bytes) := by
  unfold validateValue acceptEdit
  cases hvalid : runtimeValueValid slot (cell.write slot value bytes).value
      (cell.write slot value bytes).storage with
  | mk valid storage =>
    cases valid with
    | true => rfl
    | false =>
      apply copyValue_restore hcopies hslot hcell
      have hstorage : (runtimeValueValid slot value (cell.storage.write slot value bytes)).2 =
          storage := congrArg Prod.snd hvalid
      refine ⟨?_, fun htype => ?_⟩
      · rw [← hstorage, runtimeValueValid_address, AggregateStorage.write_address]
      · rw [← hstorage, runtimeValueValid_scalar htype, AggregateStorage.write_scalar htype]

theorem eq_bindValue {value : KeelHookValue} {storage : AggregateStorage}
    (hslot : slot.Described) (htype : slot.type = valueAggregate)
    (hvalue : value.type = slot.type ∧ value.reserved = 0 ∧ value.word = storage.address ∧
      value.aggregateSize = slot.byteSize ∧
      value.aggregateReserved = if storage.constructed then objectConstructed else 0) :
    value = bindValue slot storage := by
  obtain ⟨hty, hreserved, hword, hsize, hobject⟩ := hvalue
  have hdescribed : slot.shape.aggregate.isSome ∨ slot.shape.object.isSome := by
    rcases hslot.cases htype with ⟨_, h, _⟩ | ⟨_, _, h⟩ <;> simp [h]
  rw [bindValue, if_pos ⟨htype, hdescribed⟩, ← hobject, ← hty, ← hreserved, ← hword, ← hsize]

theorem Cell.Settled.of_valid (hslot : slot.Described) (hcell : cell.Settled slot)
    {value : KeelHookValue} {bytes : Bytes} {storage : AggregateStorage}
    (hvalid : runtimeValueValid slot value (cell.storage.write slot value bytes) =
      (true, storage)) :
    (Cell.mk value storage).Settled slot := by
  have hhead : value.type = slot.type ∧ value.reserved = 0 := by
    by_contra hhead
    rw [runtimeValueValid, if_pos (by tauto)] at hvalid
    exact absurd (congrArg Prod.fst hvalid) (by simp)
  rw [runtimeValueValid, if_neg (by tauto)] at hvalid
  by_cases htype : slot.type = valueAggregate
  · rw [if_neg (by simpa using htype)] at hvalid
    rcases hslot.cases htype with ⟨_, haggregate, hobject⟩ | ⟨_, haggregate, hobject⟩
    · have hwrite : cell.storage.write slot value bytes =
          ⟨cell.storage.address, fitBytes slot.byteSize bytes, none, false⟩ := by
        have hplain := hcell.plain htype hobject
        simp only [AggregateStorage.write, htype, hobject, ne_eq, not_true_eq_false, if_false]
        rw [hplain]
      rw [hwrite] at hvalid
      simp only [haggregate, hobject, Option.isNone_some, Option.isSome_some, if_true] at hvalid
      split at hvalid
      · exact absurd (congrArg Prod.fst hvalid) (by simp)
      · simp only [Prod.mk.injEq, decide_eq_true_eq] at hvalid
        obtain ⟨hreserved, rfl⟩ := hvalid
        refine ⟨hhead.1, hhead.2, fun _ => eq_bindValue hslot htype ?_, fun _ _ => ?_,
          fun _ h => ?_, fun h => ?_⟩
        · simp_all
        · simp [fitBytes_fitBytes]
        · simp [hobject] at h
        · simp at h
    · have hsome : slot.shape.object.isSome := by simp [hobject]
      simp only [haggregate, hobject, Option.isNone_none, Option.isNone_some, Option.isSome_none,
        Bool.false_eq_true, and_false, false_or, if_false] at hvalid
      split at hvalid
      · exact absurd (congrArg Prod.fst hvalid) (by simp)
      · rename_i hplace
        simp only [Prod.mk.injEq, decide_eq_true_eq] at hvalid
        obtain ⟨hreserved, hstorage⟩ := hvalid
        rw [hstorage] at hreserved
        have hkept : storage.address = cell.storage.address ∧
            (storage.constructed → storage.operations.isSome) ∧
            (storage.constructed = false → storage = cell.storage) := by
          rw [AggregateStorage.write_object htype hsome] at hstorage
          have howned := hcell.owned
          by_cases hconstructed : cell.storage.constructed
          · simp [hconstructed] at hstorage
            subst hstorage
            exact ⟨rfl, fun _ => howned hconstructed, by simp⟩
          · by_cases hadopted : value.aggregateReserved = objectConstructed
            · by_cases hoperations : cell.storage.operations.isSome
              · simp [hconstructed, hadopted, hoperations] at hstorage
                subst hstorage
                exact ⟨rfl, fun _ => hoperations, by
                  simp [AggregateStorage.adoptConstructed, hoperations]⟩
              · -- a claim to be constructed that nothing can back is not well formed
                simp [hconstructed, hadopted, hoperations] at hstorage
                subst hstorage
                simp [hadopted, objectConstructed] at hreserved
            · have hfalse : cell.storage.constructed = false := by simpa using hconstructed
              simp [hconstructed, hadopted] at hstorage
              subst hstorage
              refine ⟨rfl, by simp, fun _ => ?_⟩
              rw [← hcell.raw htype hsome hfalse, ← hfalse]
        obtain ⟨haddress, howned, hraw⟩ := hkept
        refine ⟨hhead.1, hhead.2, fun _ => eq_bindValue hslot htype ?_, fun _ h => ?_,
          fun _ _ h => ?_, howned⟩
        · have hwrite : (cell.storage.write slot value bytes).address = cell.storage.address :=
            AggregateStorage.write_address _ _ _
          exact ⟨hhead.1, hhead.2, by grind, by grind, hreserved⟩
        · simp [hobject] at h
        · have hsame : storage = cell.storage := hraw h
          rw [hsame] at h ⊢
          exact hcell.raw htype hsome h
  · rw [if_pos htype] at hvalid
    obtain rfl := congrArg Prod.snd hvalid
    refine ⟨hhead.1, hhead.2, fun h => absurd h htype, fun h => absurd h htype,
      fun h => absurd h htype, ?_⟩
    rw [AggregateStorage.write_scalar htype]
    exact hcell.owned

theorem acceptEdit_settled (hslot : slot.Described) (hcell : cell.Settled slot)
    (value : KeelHookValue) (bytes : Bytes) :
    (acceptEdit slot cell (cell.write slot value bytes)).Settled slot := by
  unfold acceptEdit
  cases hvalid : runtimeValueValid slot (cell.write slot value bytes).value
      (cell.write slot value bytes).storage with
  | mk valid storage =>
    cases valid with
    | true => exact hcell.of_valid hslot hvalid
    | false => exact hcell

theorem Cell.Settled.valid (hslot : slot.Described) (hcell : cell.Settled slot) :
    runtimeValueValid slot cell.value cell.storage = (true, cell.storage) := by
  rw [runtimeValueValid, if_neg (by simp [hcell.type, hcell.reserved])]
  by_cases htype : slot.type = valueAggregate
  · have hbound := hcell.bound htype
    have hdescribed : slot.shape.aggregate.isSome ∨ slot.shape.object.isSome := by
      rcases hslot.cases htype with ⟨_, h, _⟩ | ⟨_, _, h⟩ <;> simp [h]
    rw [bindValue, if_pos ⟨htype, hdescribed⟩] at hbound
    rw [if_neg (by simpa using htype), hbound]
    rcases hslot.cases htype with ⟨_, haggregate, hobject⟩ | ⟨_, haggregate, hobject⟩
    · have hplain := hcell.plain htype hobject
      have hconstructed : cell.storage.constructed = false := by rw [hplain]
      simp [haggregate, hconstructed]
    · cases hconstructed : cell.storage.constructed <;>
        simp [haggregate, hobject, hconstructed, objectConstructed]
  · rw [if_pos htype]

theorem Cell.Settled.write_self (hcell : cell.Settled slot) (value : KeelHookValue) :
    cell.storage.write slot value cell.storage.bytes = cell.storage := by
  unfold AggregateStorage.write
  split
  · rfl
  · rename_i htype
    have htype : slot.type = valueAggregate := by simpa using htype
    cases hobject : slot.shape.object with
    | none =>
      have hplain := hcell.plain htype hobject
      have hbytes : fitBytes slot.byteSize cell.storage.bytes = cell.storage.bytes := by
        rw [hplain, fitBytes_fitBytes]
      simp [hbytes]
    | some object =>
      dsimp only
      split
      · rfl
      · rename_i hunclaimed
        rw [← hcell.raw htype (by simp [hobject]) (by simp_all)]

theorem Cell.Settled.validateValue_self (hslot : slot.Described) (hcell : cell.Settled slot)
    (before : Cell) : validateValue lifecycle slot before cell = cell := by
  rw [validateValue, hcell.valid hslot]
  rfl

theorem acceptEdit_editOf (value : KeelHookValue) (bytes : Bytes) :
    (acceptEdit slot cell (cell.write slot value bytes)).EditOf slot cell := by
  unfold acceptEdit
  cases hvalid : runtimeValueValid slot (cell.write slot value bytes).value
      (cell.write slot value bytes).storage with
  | mk valid storage =>
    cases valid with
    | false => exact ⟨rfl, fun _ => rfl⟩
    | true =>
      have hstorage : (runtimeValueValid slot value (cell.storage.write slot value bytes)).2 =
          storage := congrArg Prod.snd hvalid
      refine ⟨?_, fun htype => ?_⟩
      · show storage.address = _
        rw [← hstorage, runtimeValueValid_address, AggregateStorage.write_address]
      · show storage = _
        rw [← hstorage, runtimeValueValid_scalar htype, AggregateStorage.write_scalar htype]

/-! ### Fresh values -/

/-- A binding's operations for a slot: a plain aggregate has none. -/
def ValueSlot.Binds (slot : ValueSlot) (operations : Option ObjectOperations) : Prop :=
  operations.isSome ↔ slot.shape.object.isSome

theorem initializeValue_settled (hslot : slot.Described) {operations : Option ObjectOperations}
    (hbinds : slot.Binds operations) (storage : AggregateStorage) (constructObject : Bool) :
    (initializeValue lifecycle slot operations storage constructObject).Settled slot := by
  refine ⟨bindValue_type _, bindValue_reserved _, fun _ => rfl, fun _ hobject => ?_,
    fun _ _ hraw => ?_, ?_⟩
  · have hoperations : operations = none := by
      cases operations with
      | none => rfl
      | some callbacks => simp [ValueSlot.Binds, hobject] at hbinds
    simp [initializeValue, hobject, AggregateStorage.prepare, hoperations,
      fitBytes_zeroBytes hslot.fits]
  · simp only [initializeValue, AggregateStorage.prepare] at hraw ⊢
    grind
  · simp only [initializeValue, AggregateStorage.prepare]
    grind

/-! ### Operations -/

theorem AggregateStorage.write_operations (storage : AggregateStorage) (value : KeelHookValue)
    (bytes : Bytes) : (storage.write slot value bytes).operations = storage.operations := by
  unfold AggregateStorage.write
  split
  · rfl
  · cases slot.shape.object with
    | none => rfl
    | some object => dsimp only; split <;> rfl

theorem runtimeValueValid_operations (value : KeelHookValue) (storage : AggregateStorage) :
    (runtimeValueValid slot value storage).2.operations = storage.operations := by
  unfold runtimeValueValid
  grind [AggregateStorage.adoptConstructed]

theorem acceptEdit_operations (value : KeelHookValue) (bytes : Bytes) :
    (acceptEdit slot cell (cell.write slot value bytes)).storage.operations =
      cell.storage.operations := by
  unfold acceptEdit
  cases hvalid : runtimeValueValid slot (cell.write slot value bytes).value
      (cell.write slot value bytes).storage with
  | mk valid storage =>
    cases valid with
    | false => rfl
    | true =>
      have hstorage : (runtimeValueValid slot value (cell.storage.write slot value bytes)).2 =
          storage := congrArg Prod.snd hvalid
      show storage.operations = _
      rw [← hstorage, runtimeValueValid_operations, AggregateStorage.write_operations]

theorem prepare_operations (storage : AggregateStorage) (operations : Option ObjectOperations)
    (construct : Bool) : (storage.prepare lifecycle operations construct).operations =
      operations := by
  unfold AggregateStorage.prepare
  grind

/-- A copy has its source's operations, unless the type has none. -/
theorem copyValue_operations (hcopies : lifecycle.CopiesSucceed) (hslot : slot.Described)
    {source output : Cell} (hsource : source.Settled slot)
    {operations : Option ObjectOperations} (hbinds : slot.Binds operations)
    (hoperations : source.storage.operations = operations)
    (houtput : output.storage.operations = operations) :
    (copyValue lifecycle slot source output).storage.operations = operations := by
  by_cases htype : slot.type = valueAggregate
  · simp only [copyValue, htype, ne_eq, not_true_eq_false, if_false]
    rcases hslot.cases htype with ⟨_, haggregate, hobject⟩ | ⟨_, haggregate, hobject⟩
    · rw [copyStorage_plain _ _ (by simp [haggregate]) hobject]
      cases operations with
      | none => rfl
      | some callbacks => simp [ValueSlot.Binds, hobject] at hbinds
    · rw [copyStorage_object hcopies _ (by simp [hobject]) hsource.owned, hoperations]
  · simp [copyValue, htype, houtput]

end Settled

end KeelS2.KeelHook
