import KeelS2.Cs2.EntityFields

/-!
# Damage records

Eight fields of a damage record are read, and four of them written, at offsets that the schema
system has given. The offsets are kept by the caller, so that every call checks them once more
before it looks at the record.
-/

namespace KeelS2.Cs2

open Lib.ByteMemory
open List (range replicate)

variable {Class : Type*}

/-- `kDamageFields`. -/
def damageFields : List Text :=
  ["m_flDamage".toList, "m_bitsDamageType".toList, "m_iDamageCustom".toList,
    "m_hInflictor".toList, "m_hAttacker".toList, "m_hAbility".toList,
    "m_vecDamageForce".toList, "m_vecDamagePosition".toList]

def damageSizes : List Nat := [4, 4, 4, 4, 4, 4, 12, 12]

def damageSize (index : Nat) : Nat := damageSizes.getD index 0

def damageClass : Text := "CTakeDamageInfo".toList

structure CSchemaEnumInfo where
  name : Option Text
  size : Nat
  alignment : Nat
  deriving DecidableEq, Repr

structure KeelCs2DamageSchema (Class : Type*) where
  classInfo : Option Class
  offsets : List Int
  deriving DecidableEq

def KeelCs2DamageSchema.offset (schema : KeelCs2DamageSchema Class) (index : Nat) : Int :=
  schema.offsets.getD index 0

/-- A signed offset as it is added to an address that it does not precede. -/
def KeelCs2DamageSchema.place (schema : KeelCs2DamageSchema Class) (index : Nat) : Nat :=
  (schema.offset index).toNat

/-! ## Resolving -/

section

variable (classes : Class → CSchemaClassInfo Class)

def statClass (scope : Text → Except Unit (Option Class)) (name : Text) :
    Except KeelResult Class :=
  match scope name with
  | .error _ => .error .engineFailure
  | .ok none => .error .notFound
  | .ok (some type) =>
    if validClass classes (some type) false && (classes type).name = some name then .ok type
    else .error .incompatible

def statField (type : Class) (name : Text) : Except KeelResult (Int × CSchemaType) :=
  if !validClass classes (some type) false then .error .incompatible
  else
    match (classes type).fields.elements.filter (·.name = some name) with
    | [] => .error .notFound
    | [field] =>
      match field.type with
      | none => .error .incompatible
      | some type => .ok (field.singleInheritanceOffset, type)
    | _ => .error .incompatible

/-- `StatSpan`, which fails with `INCOMPATIBLE` only. -/
def statSpan (type : Class) (offset : Int) (size alignment : Nat) : Option Nat :=
  if validClass classes (some type) false && 0 ≤ offset && size ≠ 0 && powerOfTwo alignment &&
      alignment ≤ (classes type).alignment && offset.toNat % alignment = 0 &&
      offset.toNat + size ≤ classSize classes type then some offset.toNat
  else none

/-- `HookFieldType`. What a type is a declared enumeration of, if it is one, is `declaredEnum`. -/
def hookFieldType (declaredEnum : CSchemaType → Option (Option CSchemaEnumInfo))
    (type : CSchemaType) : Nat → Bool
  | 0 => fieldTypeFits schemaFloat32 ⟨.float32, 4, 4⟩ type
  | 1 => type.atomicCategory = .invalid &&
      declaredEnum type = some (some ⟨some "DamageTypes_t".toList, 4, 4⟩)
  | 2 => fieldTypeFits 6 ⟨.int32, 4, 4⟩ type
  | 3 | 4 | 5 => fieldTypeFits schemaEntityHandle ⟨.uint32, 4, 4⟩ type
  | _ => fieldTypeFits schemaVector3 ⟨.float32, 12, 4⟩ type

/-- A cast to `unsigned`. -/
def unsigned (offset : Int) : Nat := (offset % (2 ^ 32 : Nat)).toNat

/-- Whether `DamageOffsets` lets the schema pass. -/
def damageOffsets (schema : KeelCs2DamageSchema Class) : Bool :=
  match schema.classInfo with
  | none => false
  | some type =>
    validClass classes (some type) false && (classes type).name = some damageClass &&
      (range 8).all fun i =>
        (statSpan classes type (schema.offset i) (damageSize i) 4).any fun offset =>
          8 ≤ offset && (range i).all fun j =>
            (offset + damageSize i) % 2 ^ 32 ≤ unsigned (schema.offset j) ||
              (unsigned (schema.offset j) + damageSize j) % 2 ^ 32 ≤ offset

variable (declaredEnum : CSchemaType → Option (Option CSchemaEnumInfo))

/-- One turn of the loop of `KeelCs2_ResolveDamageSchema`. -/
def damageOffset (type : Class) (index : Nat) : Except KeelResult Int :=
  match statField classes type (damageFields.getD index []) with
  | .error result => .error result
  | .ok (offset, fieldType) =>
    if !hookFieldType declaredEnum fieldType index then .error .incompatible
    else
      match statSpan classes type offset (damageSize index) 4 with
      | none => .error .incompatible
      | some start => .ok start

/-- `KeelCs2_ResolveDamageSchema`; `output` is whether there is somewhere to put the schema. -/
def resolveDamageSchema (system : Option (ISchemaSystem Class)) (module' : Option Text)
    (output : Bool) : KeelResult × Option (KeelCs2DamageSchema Class) :=
  match system with
  | none => (.invalidArgument, none)
  | some system =>
    if module'.getD [] = [] || !output then (.invalidArgument, none)
    else
      match system (module'.getD []) with
      | .error _ => (.engineFailure, none)
      | .ok none => (.notFound, none)
      | .ok (some scope) =>
        match statClass classes scope damageClass with
        | .error result => (result, none)
        | .ok type =>
          match (range 8).mapM (damageOffset classes declaredEnum type) with
          | .error result => (result, none)
          | .ok offsets =>
            if damageOffsets classes ⟨some type, offsets⟩ then (.ok, some ⟨some type, offsets⟩)
            else (.incompatible, none)

/-! ## Reading and writing -/

/-- A `KeelDamageInfo`, whose values are listed as the fields are. -/
structure KeelDamageInfo where
  size : Nat
  values : List (List UInt8)
  deriving DecidableEq, Repr

structure KeelDamageEdit where
  size : Nat
  reserved : Nat
  damage : List UInt8
  damageType : List UInt8
  force : List UInt8
  position : List UInt8
  lengths : damage.length = 4 ∧ damageType.length = 4 ∧ force.length = 12 ∧ position.length = 12

def damageInfoSize : Nat := 56
def damageEditSize : Nat := 40

/-- What is left in the output by a call that fails. -/
def KeelDamageInfo.blank : KeelDamageInfo where
  size := damageInfoSize
  values :=
    replicate 3 (replicate 4 0) ++ replicate 3 (replicate 4 255) ++
      replicate 2 (replicate 12 0)

/-- The comparison of a `float` with zero. -/
def isNegative32 (bytes : List UInt8) : Bool :=
  2 ^ 31 < littleEndian bytes && littleEndian bytes ≤ 2 ^ 31 + 255 * 2 ^ 23

def damageNumbers (damage force position : List UInt8) : Bool :=
  isFinite32 damage && (range 3).all fun index =>
    isFinite32 ((force.drop (4 * index)).take 4) &&
      isFinite32 ((position.drop (4 * index)).take 4)

/-- What `KeelCs2_WriteDamage` asks of the edit. -/
def KeelDamageEdit.valid (edit : KeelDamageEdit) : Bool :=
  edit.size = damageEditSize && edit.reserved = 0 && !isNegative32 edit.damage &&
    damageNumbers edit.damage edit.force edit.position

def damageAddress (schema : KeelCs2DamageSchema Class) (record : Nat) :
    Except KeelResult Nat :=
  if record = 0 then .error .invalidArgument
  else
    match damageOffsets classes schema, schema.classInfo with
    | true, some type =>
      if record % (classes type).alignment = 0 ∧
          classSize classes type - 1 ≤ 2 ^ 64 - 1 - record then .ok record
      else .error .incompatible
    | _, _ => .error .incompatible

/-- `KeelCs2_ReadDamage`; `output` is the size that the caller has put into it. -/
def readDamage (memory : Nat → UInt8) (schema : Option (KeelCs2DamageSchema Class))
    (record : Nat) (output : Option Nat) : KeelResult × Option KeelDamageInfo :=
  match output, schema with
  | none, _ => (.invalidArgument, none)
  | some _, none => (.invalidArgument, some .blank)
  | some size, some schema =>
    if size ≠ damageInfoSize then (.invalidArgument, some .blank)
    else
      match damageAddress classes schema record with
      | .error result => (result, some .blank)
      | .ok address =>
        let values := (range 8).map fun index =>
          readBytes memory (address + schema.place index) (damageSize index)
        if damageNumbers (values.getD 0 []) (values.getD 6 []) (values.getD 7 []) then
          (.ok, some ⟨damageInfoSize, values⟩)
        else (.incompatible, some .blank)

/-- The copies of `KeelCs2_WriteDamage`. -/
def damageBlocks (schema : KeelCs2DamageSchema Class) (address : Nat) (edit : KeelDamageEdit) :
    List (Nat × List UInt8) :=
  [(address + schema.place 0, edit.damage), (address + schema.place 1, edit.damageType),
    (address + schema.place 6, edit.force), (address + schema.place 7, edit.position)]

/-- `KeelCs2_WriteDamage`, and the memory behind it. -/
def writeDamage (memory : Nat → UInt8) (schema : Option (KeelCs2DamageSchema Class))
    (record : Nat) (input : Option KeelDamageEdit) : KeelResult × (Nat → UInt8) :=
  match schema, input with
  | some schema, some edit =>
    if !edit.valid then (.invalidArgument, memory)
    else
      match damageAddress classes schema record with
      | .error result => (result, memory)
      | .ok address => (.ok, writeBlocks memory (damageBlocks schema address edit))
  | _, _ => (.invalidArgument, memory)

end

/-! ## Layouts -/

/-- Where the fields lie, once `DamageOffsets` has let the schema pass. -/
structure Laid (classes : Class → CSchemaClassInfo Class) (schema : KeelCs2DamageSchema Class)
    (type : Class) : Prop where
  class' : schema.classInfo = some type
  passes : damageOffsets classes schema = true
  behind : ∀ i < 8, 8 ≤ schema.place i
  inside : ∀ i < 8, schema.place i + damageSize i ≤ classSize classes type
  apart : ∀ i < 8, ∀ j < i, schema.place i + damageSize i ≤ schema.place j ∨
    schema.place j + damageSize j ≤ schema.place i

variable {classes : Class → CSchemaClassInfo Class} {schema : KeelCs2DamageSchema Class}
  {type : Class}

theorem statSpan_eq_some {offset : Int} {size alignment start : Nat}
    (h : statSpan classes type offset size alignment = some start) :
    0 ≤ offset ∧ start = offset.toNat ∧ start + size ≤ classSize classes type ∧
      classSize classes type ≤ 16 * 1024 * 1024 := by
  unfold statSpan at h
  split at h
  · next hcond =>
    simp only [Bool.and_eq_true, decide_eq_true_eq, validClass, validInfo] at hcond
    cases h
    refine ⟨by tauto, rfl, hcond.2, ?_⟩
    unfold classSize
    omega
  · cases h

theorem laid_of_damageOffsets (h : damageOffsets classes schema = true) :
    ∃ type, Laid classes schema type := by
  have hpasses := h
  unfold damageOffsets at h
  split at h
  · cases h
  · next type hclass =>
    simp only [Bool.and_eq_true, List.all_eq_true, List.mem_range, Option.any_eq_true,
      Bool.or_eq_true, decide_eq_true_eq] at h
    obtain ⟨-, hfields⟩ := h
    have hspan : ∀ i < 8, 0 ≤ schema.offset i ∧
        schema.place i + damageSize i ≤ classSize classes type ∧
        classSize classes type ≤ 16 * 1024 * 1024 := by
      intro i hi
      obtain ⟨start, hstart, -⟩ := hfields i hi
      obtain ⟨hoffset, rfl, hrest⟩ := statSpan_eq_some hstart
      exact ⟨hoffset, hrest⟩
    refine ⟨type, hclass, hpasses, fun i hi => ?_, fun i hi => (hspan i hi).2.1,
      fun i hi j hj => ?_⟩
    · obtain ⟨start, hstart, hbehind, -⟩ := hfields i hi
      obtain ⟨-, rfl, -⟩ := statSpan_eq_some hstart
      exact hbehind
    · obtain ⟨start, hstart, -, hapart⟩ := hfields i hi
      obtain ⟨-, rfl, -⟩ := statSpan_eq_some hstart
      obtain ⟨hoffset, hinside, hsmall⟩ := hspan i hi
      obtain ⟨hoffset', hinside', -⟩ := hspan j (Nat.lt_trans hj hi)
      have hunsigned : unsigned (schema.offset j) = schema.place j := by
        unfold unsigned KeelCs2DamageSchema.place at *
        omega
      have := hapart j hj
      rw [hunsigned] at this
      unfold KeelCs2DamageSchema.place at *
      omega

section

variable (hlaid : Laid classes schema type)
include hlaid

theorem Laid.separate {i j : Nat} (hi : i < 8) (hj : j < 8) (hne : i ≠ j) :
    schema.place i + damageSize i ≤ schema.place j ∨
      schema.place j + damageSize j ≤ schema.place i := by
  rcases Nat.lt_or_gt_of_ne hne with hlt | hlt
  · exact (hlaid.apart j hj i hlt).symm
  · exact hlaid.apart i hi j hlt

theorem Laid.address (record : Nat) : damageAddress classes schema record = .ok record ∨
    ∃ result, result ≠ .ok ∧ damageAddress classes schema record = .error result := by
  unfold damageAddress
  rw [hlaid.passes, hlaid.class']
  dsimp only
  split_ifs
  · exact .inr ⟨_, by decide, rfl⟩
  · exact .inl rfl
  · exact .inr ⟨_, by decide, rfl⟩

theorem Laid.blocks_apart (record : Nat) (edit : KeelDamageEdit) :
    (damageBlocks schema record edit).Pairwise Apart := by
  obtain ⟨hdamage, htype, hforce, hposition⟩ := edit.lengths
  have h01 := hlaid.separate (i := 0) (j := 1) (by omega) (by omega) (by omega)
  have h06 := hlaid.separate (i := 0) (j := 6) (by omega) (by omega) (by omega)
  have h07 := hlaid.separate (i := 0) (j := 7) (by omega) (by omega) (by omega)
  have h16 := hlaid.separate (i := 1) (j := 6) (by omega) (by omega) (by omega)
  have h17 := hlaid.separate (i := 1) (j := 7) (by omega) (by omega) (by omega)
  have h67 := hlaid.separate (i := 6) (j := 7) (by omega) (by omega) (by omega)
  simp only [damageSize, damageSizes, List.getD_cons_zero, List.getD_cons_succ] at *
  simp only [damageBlocks, List.pairwise_cons, List.forall_mem_cons, Apart, hdamage, htype,
    hforce, hposition]
  simp
  omega

end

theorem damageBlocks_outside {record place : Nat} {edit : KeelDamageEdit}
    (h : ∀ i ∈ [0, 1, 6, 7], place < record + schema.place i ∨
      record + schema.place i + damageSize i ≤ place) :
    ∀ block ∈ damageBlocks schema record edit,
      place < block.1 ∨ block.1 + block.2.length ≤ place := by
  obtain ⟨hdamage, htype, hforce, hposition⟩ := edit.lengths
  simpa [damageBlocks, damageSize, damageSizes, hdamage, htype, hforce, hposition] using h

theorem Laid.values (hlaid : Laid classes schema type) (memory : Nat → UInt8) (record : Nat)
    (edit : KeelDamageEdit) :
    ((range 8).map fun index =>
      readBytes (writeBlocks memory (damageBlocks schema record edit))
        (record + schema.place index) (damageSize index)) =
      [edit.damage, edit.damageType, readBytes memory (record + schema.place 2) 4,
        readBytes memory (record + schema.place 3) 4, readBytes memory (record + schema.place 4) 4,
        readBytes memory (record + schema.place 5) 4, edit.force, edit.position] := by
  obtain ⟨hdamage, htype, hforce, hposition⟩ := edit.lengths
  have hwritten : ∀ block ∈ damageBlocks schema record edit,
      readBytes (writeBlocks memory (damageBlocks schema record edit)) block.1 block.2.length =
        block.2 := fun block hmem => readBytes_writeBlocks (hlaid.blocks_apart record edit) hmem
  simp only [damageBlocks, List.forall_mem_cons, hdamage, htype, hforce, hposition] at hwritten
  have hformer : ∀ i ∈ [2, 3, 4, 5],
      readBytes (writeBlocks memory (damageBlocks schema record edit)) (record + schema.place i) 4 =
        readBytes memory (record + schema.place i) 4 := by
    intro i hi
    have hsize : i < 8 ∧ damageSize i = 4 ∧ i ∉ [0, 1, 6, 7] := by
      simp only [List.mem_cons, List.not_mem_nil, or_false] at hi
      rcases hi with rfl | rfl | rfl | rfl <;> decide
    refine readBytes_congr fun place hle hlt => writeBlocks_outside (damageBlocks_outside ?_)
    intro j hj
    have hne : i ≠ j := fun heq => hsize.2.2 (heq ▸ hj)
    have hj' : j < 8 := by
      simp only [List.mem_cons, List.not_mem_nil, or_false] at hj
      omega
    have := hlaid.separate hsize.1 hj' hne
    omega
  simp only [List.forall_mem_cons] at hformer
  obtain ⟨h0, h1, h6, h7, -⟩ := hwritten
  obtain ⟨h2, h3, h4, h5, -⟩ := hformer
  simp only [range, List.range.loop, List.map_cons, List.map_nil, damageSize, damageSizes,
    List.getD_cons_zero, List.getD_cons_succ, damageBlocks] at *
  simp only [h0, h1, h2, h3, h4, h5, h6, h7]

/-! ## The law -/

theorem laid_of_resolved {declaredEnum : CSchemaType → Option (Option CSchemaEnumInfo)}
    {system : Option (ISchemaSystem Class)} {module' : Option Text} {output : Bool}
    (h : resolveDamageSchema classes declaredEnum system module' output = (.ok, some schema)) :
    ∃ type, Laid classes schema type := by
  unfold resolveDamageSchema at h
  split at h
  · cases h
  split at h
  · cases h
  split at h
  · cases h
  · cases h
  split at h
  · cases h
  split at h
  · cases h
  split at h
  · next hpasses =>
    cases h
    exact laid_of_damageOffsets hpasses
  · cases h

/-- A call that has not returned OK has written nothing; any other has made the copies. -/
theorem writeDamage_cases (hlaid : Laid classes schema type) (memory : Nat → UInt8) (record : Nat)
    (input : Option KeelDamageEdit) :
    ((writeDamage classes memory (some schema) record input).1 ≠ .ok ∧
        (writeDamage classes memory (some schema) record input).2 = memory) ∨
      ∃ edit, input = some edit ∧ edit.valid = true ∧
        damageAddress classes schema record = .ok record ∧
        writeDamage classes memory (some schema) record input =
          (.ok, writeBlocks memory (damageBlocks schema record edit)) := by
  unfold writeDamage
  cases input with
  | none => exact .inl ⟨by simp, rfl⟩
  | some edit =>
    dsimp only
    split
    · exact .inl ⟨by simp, rfl⟩
    · next hvalid =>
      rcases hlaid.address record with haddress | ⟨result, hresult, haddress⟩
      · rw [haddress]
        exact .inr ⟨edit, rfl, by simpa using hvalid, rfl, rfl⟩
      · rw [haddress]
        exact .inl ⟨hresult, rfl⟩

/-- **A damage record.** A write that returns OK is read back, with the four values that it does
not write as they were; no other byte changes, and one that returns anything else changes none.
Neither call has to do with a byte before the ninth of the record, or behind its last. -/
theorem damage_law {declaredEnum : CSchemaType → Option (Option CSchemaEnumInfo)}
    {system : Option (ISchemaSystem Class)} {module' : Option Text} {output : Bool}
    (hresolved : resolveDamageSchema classes declaredEnum system module' output =
      (.ok, some schema)) :
    ∃ type, schema.classInfo = some type ∧
      ∀ (memory : Nat → UInt8) (record : Nat) (input : Option KeelDamageEdit),
        let write := writeDamage classes memory (some schema) record input
        (write.1 = .ok → ∃ edit, input = some edit ∧
          readDamage classes write.2 (some schema) record (some damageInfoSize) =
            (.ok, some ⟨damageInfoSize, [edit.damage, edit.damageType,
              readBytes memory (record + schema.place 2) 4,
              readBytes memory (record + schema.place 3) 4,
              readBytes memory (record + schema.place 4) 4,
              readBytes memory (record + schema.place 5) 4, edit.force, edit.position]⟩)) ∧
        (∀ place, (∀ i ∈ [0, 1, 6, 7], place < record + schema.place i ∨
          record + schema.place i + damageSize i ≤ place) → write.2 place = memory place) ∧
        (write.1 ≠ .ok → write.2 = memory) ∧
        (∀ place, place < record + 8 ∨ record + classSize classes type ≤ place →
          write.2 place = memory place) ∧
        ∀ memory' size, (∀ place, record + 8 ≤ place →
            place < record + classSize classes type → memory place = memory' place) →
          readDamage classes memory (some schema) record size =
            readDamage classes memory' (some schema) record size := by
  obtain ⟨type, hlaid⟩ := laid_of_resolved hresolved
  refine ⟨type, hlaid.class', fun memory record input => ?_⟩
  have hcases := writeDamage_cases hlaid memory record input
  have houtside : ∀ place, (∀ i ∈ [0, 1, 6, 7], place < record + schema.place i ∨
      record + schema.place i + damageSize i ≤ place) →
      (writeDamage classes memory (some schema) record input).2 place = memory place := by
    intro place hplace
    rcases hcases with ⟨-, hkept⟩ | ⟨edit, -, -, -, heq⟩
    · rw [hkept]
    · rw [heq]
      exact writeBlocks_outside (damageBlocks_outside hplace)
  refine ⟨fun hok => ?_, houtside, fun hfailed => ?_, fun place hplace => houtside place ?_,
    fun memory' size hsame => ?_⟩
  · rcases hcases with ⟨hfailed, -⟩ | ⟨edit, hinput, hvalid, haddress, heq⟩
    · exact absurd hok hfailed
    · refine ⟨edit, hinput, ?_⟩
      have hnumbers : damageNumbers edit.damage edit.force edit.position = true := by
        unfold KeelDamageEdit.valid at hvalid
        exact (Bool.and_eq_true_iff.1 hvalid).2
      simp only [heq, readDamage, haddress, ne_eq, not_true_eq_false, if_false, hlaid.values,
        List.getD_cons_zero, List.getD_cons_succ, hnumbers, if_true]
  · rcases hcases with ⟨-, hkept⟩ | ⟨edit, -, -, -, heq⟩
    · exact hkept
    · rw [heq] at hfailed
      exact absurd rfl hfailed
  · intro i hi
    have hlt : i < 8 := by
      simp only [List.mem_cons, List.not_mem_nil, or_false] at hi
      omega
    have := hlaid.behind i hlt
    have := hlaid.inside i hlt
    omega
  · have hread : ((range 8).map fun index =>
        readBytes memory (record + schema.place index) (damageSize index)) =
        (range 8).map fun index =>
          readBytes memory' (record + schema.place index) (damageSize index) := by
      refine List.map_congr_left fun i hi => readBytes_congr fun place hle hlt => ?_
      have hinside := hlaid.inside i (List.mem_range.1 hi)
      have hbehind := hlaid.behind i (List.mem_range.1 hi)
      exact hsame place (by omega) (by omega)
    unfold readDamage
    cases size with
    | none => rfl
    | some size =>
      rcases hlaid.address record with haddress | ⟨result, -, haddress⟩
      · simp only [haddress, hread]
      · simp only [haddress]

/-! ## One record -/

/-- A class of 64 bytes with the eight fields behind one another. -/
def damageInfo : CSchemaClassInfo Unit where
  name := some damageClass
  size := 64
  alignment := 8
  fields := ⟨8, some fun index => ⟨damageFields.getD index [], some (
    if index = 0 then ⟨.builtin, .invalid, [], .float32, 4, 4, none⟩
    else if index = 1 then ⟨.other, .invalid, [], .other, 4, 4, none⟩
    else if index = 2 then ⟨.builtin, .invalid, [], .int32, 4, 4, none⟩
    else if index < 6 then
      ⟨.atomic, .t, "CHandle<CBaseEntity>".toList, .other, 4, 4, some .declaredClass⟩
    else ⟨.atomic, .plain, "Vector".toList, .other, 12, 4, none⟩),
    if index = 7 then 44 else 8 + 4 * index⟩⟩
  baseClasses := ⟨0, none⟩

def damageSchema : KeelCs2DamageSchema Unit := ⟨some (), [8, 12, 16, 20, 24, 28, 32, 44]⟩

theorem resolve_damageInfo : resolveDamageSchema (fun _ => damageInfo)
    (fun _ => some (some ⟨some "DamageTypes_t".toList, 4, 4⟩))
    (some fun _ => .ok (some fun _ => .ok (some ()))) (some ['m']) true =
      (.ok, some damageSchema) := by
  decide +kernel

/-- 1.0 as the damage, with no force, at the origin. -/
def oneDamage : KeelDamageEdit where
  size := damageEditSize
  reserved := 0
  damage := [0, 0, 128, 63]
  damageType := [2, 0, 0, 0]
  force := replicate 12 0
  position := replicate 12 0
  lengths := ⟨rfl, rfl, rfl, rfl⟩

theorem damage_written : ∃ info,
    readDamage (fun _ => damageInfo)
      (writeDamage (fun _ => damageInfo) (fun _ => 7) (some damageSchema) 4096
        (some oneDamage)).2 (some damageSchema) 4096 (some damageInfoSize) = (.ok, some info) := by
  obtain ⟨type, -, hlaw⟩ := damage_law resolve_damageInfo
  obtain ⟨edit, -, hread⟩ := (hlaw (fun _ => 7) 4096 (some oneDamage)).1 (by decide +kernel)
  exact ⟨_, hread⟩

end KeelS2.Cs2
