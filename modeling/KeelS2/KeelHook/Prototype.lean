import KeelS2.KeelHook.Abi
import KeelS2.Lib.SelfDelimiting

/-!
# Canonical prototypes

`CanonicalPrototype` and the two descriptor readers under it. A plugin hands the service a
graph of descriptors; what comes out is a `PrototypeData`, whose `==` decides whether two
plugins may share one target, and with it one native closure.

Descriptors are read through pointers, so the aggregate graph may share nodes and may be
cyclic: the build context remembers what was completed and what is still open.
-/

namespace KeelS2.KeelHook

open Lib

/-- A result code other than `ok`, and the text that is logged with it. -/
abbrev Failure := KeelResult × String

/-! ## What the plugin passes -/

abbrev Address := Nat

/-- `sizeof` of the descriptors, which every descriptor repeats in its first field. -/
def sizeofAggregateField : Nat := 24
def sizeofAggregate : Nat := 24
def sizeofObject : Nat := 56
def sizeofPrototype : Nat := 64

structure KeelHookAggregateField where
  size : Nat
  type : KeelHookValueType
  offset : Nat
  arrayLength : Nat
  aggregate : Option Address

structure KeelHookAggregate where
  size : Nat
  byteSize : Nat
  fieldCount : Nat
  flags : Nat
  fields : Option (Nat → KeelHookAggregateField)

structure KeelHookObject where
  size : Nat
  byteSize : Nat
  alignment : Nat
  flags : Nat
  identity : Option Text
  defaultConstruct : Option Address
  copyConstruct : Option Address
  copyAssign : Option Address
  destroy : Option Address

structure KeelHookPrototype where
  size : Nat
  callingConvention : Nat
  returnType : KeelHookValueType
  argumentCount : Nat
  argumentTypes : Option (Nat → KeelHookValueType)
  returnAggregate : Option Address
  argumentAggregates : Option (Nat → Option Address)
  fixedArgumentCount : Nat
  flags : Nat
  returnObject : Option Address
  argumentObjects : Option (Nat → Option Address)

def callNative : Nat := 1
def prototypeVafmt : Nat := 1

/-- The descriptors a prototype points at. -/
structure Descriptors where
  aggregate : Address → KeelHookAggregate
  object : Address → KeelHookObject

/-- `platform::ModuleLookup`, with the path of the module that was found. -/
inductive ModuleLookup
  | found (path : Text)
  | notFound
  | ambiguous
  | failed
  deriving DecidableEq

/-- What the code asks of the operating system and of the call adapter. -/
structure Platform where
  findLoadedModuleForAddress : Address → ModuleLookup
  isExecutableAddress : Address → Bool
  acquirePin : Text → Except String Unit
  newAggregate : Nat → Nat → Bool

def moduleResult : ModuleLookup → KeelResult
  | .ambiguous => .ambiguous
  | .notFound => .notFound
  | _ => .engineFailure

/-! ## What the service keeps -/

/-- The fields of a canonical aggregate in order, nested aggregates in place. -/
inductive FieldLayout
  | nil
  | scalar (type : KeelHookValueType) (offset arrayLength : Nat) (rest : FieldLayout)
  | nested (offset arrayLength byteSize : Nat) (inner rest : FieldLayout)
  deriving DecidableEq, Repr

structure AggregateData where
  byteSize : Nat
  identity : Text
  layout : FieldLayout
  deriving DecidableEq, Repr

structure ObjectData where
  byteSize : Nat
  alignment : Nat
  identity : Text
  deriving DecidableEq, Repr

structure ObjectOperations where
  object : ObjectData
  defaultConstruct : Address
  copyConstruct : Address
  copyAssign : Address
  destroy : Address
  deriving DecidableEq, Repr

/-- The two descriptors that stand beside a value type: at most one is there. -/
structure ValueShape where
  aggregate : Option AggregateData
  object : Option ObjectData
  deriving DecidableEq, Repr

structure PrototypeBinding where
  returnObject : Option ObjectOperations
  argumentObjects : List (Option ObjectOperations)
  deriving DecidableEq, Repr

structure PrototypeData where
  callingConvention : Nat
  returnType : KeelHookValueType
  arguments : List KeelHookValueType
  returnShape : ValueShape
  argumentShapes : List ValueShape
  aggregateIdentity : Text
  method : Bool
  vafmt : Bool
  deriving Repr

/-- `PrototypeData::operator==`: of the descriptors only their flat encoding is compared. -/
instance : BEq PrototypeData where
  beq p q :=
    p.callingConvention == q.callingConvention && p.returnType == q.returnType &&
      p.arguments == q.arguments && p.aggregateIdentity == q.aggregateIdentity &&
      p.method == q.method && p.vafmt == q.vafmt

/-! ## Aggregates -/

structure AggregateBuildContext where
  completed : List (Address × AggregateData)
  active : List Address
  count : Nat

def AggregateBuildContext.empty : AggregateBuildContext := ⟨[], [], 0⟩

/-- The part of an aggregate's identity that one field adds. -/
def fieldIdentity (field : KeelHookAggregateField) (nested : Text) : Text :=
  decimal field.type ++ ':' :: decimal field.offset ++ ':' :: decimal field.arrayLength ++
    ':' :: nested ++ [';']

/-- The field loop of `CanonicalAggregate`. `descend` is the recursive call; `previous` is
`none` at index 0, where the order of offsets is not checked. -/
def canonicalFields
    (descend : Option Address → AggregateBuildContext →
      Except Failure (AggregateData × AggregateBuildContext))
    (byteSize : Nat) :
    List KeelHookAggregateField → Option Nat → AggregateBuildContext → Text →
      Except Failure (Text × FieldLayout × AggregateBuildContext)
  | [], _, context, identity => .ok (identity, .nil, context)
  | field :: rest, previous, context, identity =>
    if field.size ≠ sizeofAggregateField ∨ field.arrayLength = 0 ∨ field.offset ≥ byteSize ∨
        (∃ offset ∈ previous, field.offset < offset) then
      .error (.invalidArgument, "aggregate field descriptor is invalid")
    else if field.type = valueAggregate then
      match descend field.aggregate context with
      | .error failure => .error failure
      | .ok (nested, context) =>
        if nested.byteSize = 0 ∨
            field.arrayLength > (byteSize - field.offset) / nested.byteSize then
          .error (.invalidArgument, "aggregate field exceeds its containing object")
        else
          match canonicalFields descend byteSize rest (some field.offset) context
              (identity ++ fieldIdentity field nested.identity) with
          | .error failure => .error failure
          | .ok (identity, layout, context) =>
            .ok (identity,
              .nested field.offset field.arrayLength nested.byteSize nested.layout layout,
              context)
    else if isScalarValueType field.type ∧ field.aggregate = none then
      if scalarByteSize field.type = 0 ∨
          field.arrayLength > (byteSize - field.offset) / scalarByteSize field.type then
        .error (.invalidArgument, "aggregate field exceeds its containing object")
      else
        match canonicalFields descend byteSize rest (some field.offset) context
            (identity ++ fieldIdentity field []) with
        | .error failure => .error failure
        | .ok (identity, layout, context) =>
          .ok (identity, .scalar field.type field.offset field.arrayLength layout, context)
    else
      .error (.invalidArgument, "aggregate field type is invalid")

/-- `CanonicalAggregate`. The first argument is how many levels are left: the source's
`depth` counts up from 1 and is refused above `maxAggregateDepth`. -/
def canonicalAggregate (descriptors : Descriptors) (platform : Platform) :
    Nat → Option Address → AggregateBuildContext →
      Except Failure (AggregateData × AggregateBuildContext)
  | 0, _, _ => .error (.invalidArgument, "aggregate descriptor nesting is invalid")
  | _ + 1, none, _ => .error (.invalidArgument, "aggregate descriptor nesting is invalid")
  | levels + 1, some pointer, context =>
    match context.completed.lookup pointer with
    | some data => .ok (data, context)
    | none =>
      let input := descriptors.aggregate pointer
      match input.fields with
      | none => .error (.invalidArgument, "aggregate descriptor is invalid or recursive")
      | some fields =>
        if pointer ∈ context.active ∨ context.count + 1 > maxAggregateDescriptors ∨
            input.size ≠ sizeofAggregate ∨ input.flags ≠ 0 ∨
            input.byteSize = 0 ∨ input.byteSize > maxAggregateSize ∨
            input.fieldCount = 0 ∨ input.fieldCount > maxAggregateFields then
          .error (.invalidArgument, "aggregate descriptor is invalid or recursive")
        else
          match canonicalFields (canonicalAggregate descriptors platform levels) input.byteSize
              ((List.range input.fieldCount).map fields) none
              { context with active := pointer :: context.active, count := context.count + 1 }
              (decimal input.byteSize ++ ['{']) with
          | .error failure => .error failure
          | .ok (identity, layout, context) =>
            if platform.newAggregate input.fieldCount input.byteSize then
              let data : AggregateData := ⟨input.byteSize, identity ++ ['}'], layout⟩
              .ok (data,
                { context with
                  active := context.active.erase pointer
                  completed := (pointer, data) :: context.completed })
            else
              .error (.engineFailure, "aggregate adapter allocation failed")

/-! ## Objects -/

/-- The loop over the four lifecycle callbacks: each must be loaded executable code, all in
the module of the first, whose path is returned. -/
def lifecycleModule (platform : Platform) : List Address → Option Text →
    Except Failure (Option Text)
  | [], path => .ok path
  | callback :: rest, path =>
    match platform.findLoadedModuleForAddress callback with
    | .found candidate =>
      if !platform.isExecutableAddress callback then
        .error (.invalidArgument, "object lifecycle callback is not loaded executable code")
      else
        match path with
        | none => lifecycleModule platform rest (some candidate)
        | some first =>
          if first = candidate then lifecycleModule platform rest (some first)
          else .error (.invalidArgument, "object lifecycle callbacks must belong to one module")
    | lookup =>
      .error (moduleResult lookup, "object lifecycle callback is not loaded executable code")

def canonicalObject (descriptors : Descriptors) (platform : Platform)
    (pointer : Option Address) : Except Failure (ObjectData × ObjectOperations) :=
  match pointer with
  | none => .error (.invalidArgument, "object lifecycle descriptor is invalid")
  | some pointer =>
    let input := descriptors.object pointer
    match copyText input.identity maxObjectIdentity false, input.defaultConstruct,
        input.copyConstruct, input.copyAssign, input.destroy with
    | some identity, some defaultConstruct, some copyConstruct, some copyAssign, some destroy =>
      if input.size ≠ sizeofObject ∨ input.flags ≠ 0 ∨
          input.byteSize = 0 ∨ input.byteSize > maxAggregateSize ∨
          input.alignment = 0 ∨ input.alignment > maxAggregateAlignment ∨
          input.alignment &&& (input.alignment - 1) ≠ 0 then
        .error (.invalidArgument, "object lifecycle descriptor is invalid")
      else
        match lifecycleModule platform
            [defaultConstruct, copyConstruct, copyAssign, destroy] none with
        | .error failure => .error failure
        | .ok path =>
          let object : ObjectData := ⟨input.byteSize, input.alignment, identity⟩
          match platform.acquirePin (path.getD []) with
          | .error text => .error (.engineFailure, text)
          | .ok () =>
            .ok (object, ⟨object, defaultConstruct, copyConstruct, copyAssign, destroy⟩)
    | _, _, _, _, _ => .error (.invalidArgument, "object lifecycle descriptor is invalid")

/-! ## Prototypes -/

/-- One value's descriptors: an aggregate, an object, or neither. -/
def canonicalShape (descriptors : Descriptors) (platform : Platform)
    (aggregate object : Option Address) (context : AggregateBuildContext) :
    Except Failure (ValueShape × Option ObjectOperations × AggregateBuildContext) :=
  match aggregate, object with
  | some pointer, _ =>
    match canonicalAggregate descriptors platform maxAggregateDepth (some pointer) context with
    | .error failure => .error failure
    | .ok (data, context) => .ok (⟨some data, none⟩, none, context)
  | none, some pointer =>
    match canonicalObject descriptors platform (some pointer) with
    | .error failure => .error failure
    | .ok (data, operations) => .ok (⟨none, some data⟩, some operations, context)
  | none, none => .ok (⟨none, none⟩, none, context)

/-- The argument loop of `CanonicalPrototype`, over the argument types and, beside each, the
two descriptors the plugin passed for it. -/
def canonicalArguments (descriptors : Descriptors) (platform : Platform) :
    List (KeelHookValueType × Option Address × Option Address) → AggregateBuildContext →
      Except Failure (List ValueShape × List (Option ObjectOperations))
  | [], _ => .ok ([], [])
  | (type, aggregate, object) :: rest, context =>
    if (type == valueAggregate) ≠ (aggregate.isSome != object.isSome) ∨
        (type ≠ valueAggregate ∧ (aggregate.isSome ∨ object.isSome)) then
      .error (.invalidArgument, "prototype argument aggregate descriptors are inconsistent")
    else
      match canonicalShape descriptors platform aggregate object context with
      | .error failure => .error failure
      | .ok (shape, operations, context) =>
        match canonicalArguments descriptors platform rest context with
        | .error failure => .error failure
        | .ok (shapes, bindings) => .ok (shape :: shapes, operations :: bindings)

/-- The part of the flat identity one value adds; `tag` is `R` for the return value and `A`
for an argument. -/
def ValueShape.identity (tag : Char) : ValueShape → Text
  | ⟨some aggregate, _⟩ => tag :: 'A' :: aggregate.identity
  | ⟨none, some object⟩ =>
    tag :: 'O' :: decimal object.byteSize ++ ':' :: decimal object.alignment ++
      ':' :: object.identity
  | ⟨none, none⟩ => [tag, '-']

/-- The checks `CanonicalPrototype` makes before it reads a descriptor. -/
def checkPrototype (input : KeelHookPrototype) (method : Bool)
    (arguments : List KeelHookValueType) : Except Failure Unit :=
  if input.size ≠ sizeofPrototype ∨ input.callingConvention ≠ callNative ∨
      input.flags &&& (0xffffffff - prototypeVafmt) ≠ 0 ∨
      input.fixedArgumentCount ≠ input.argumentCount ∨
      !isValueType input.returnType true ∨ input.argumentCount > maxArguments ∨
      (input.argumentCount ≠ 0 ∧ input.argumentTypes.isNone) then
    .error (if input.callingConvention = callNative then .invalidArgument else .unsupported,
      "prototype is invalid or unsupported")
  else if arguments.any (fun type => !isValueType type false) then
    .error (.unsupported, "prototype contains an unsupported argument type")
  else if method ∧ arguments.head? ≠ some valuePointer then
    .error (.invalidArgument, "method prototype must begin with an object pointer")
  else if input.flags &&& prototypeVafmt ≠ 0 ∧ arguments.getLast? ≠ some valuePointer then
    .error (.invalidArgument, "vafmt prototype must end with a format string pointer")
  else if
      (input.returnType == valueAggregate) ≠
          (input.returnAggregate.isSome != input.returnObject.isSome) ∨
        (valueAggregate ∈ arguments ∧ input.argumentAggregates.isNone ∧
          input.argumentObjects.isNone) ∨
        (input.returnType ≠ valueAggregate ∧
          (input.returnAggregate.isSome ∨ input.returnObject.isSome)) then
    .error (.invalidArgument, "prototype aggregate descriptors do not match its value types")
  else
    .ok ()

/-- The argument types, read from the plugin's array. -/
def KeelHookPrototype.readArgumentTypes (input : KeelHookPrototype) : List KeelHookValueType :=
  match input.argumentTypes with
  | none => []
  | some types => (List.range input.argumentCount).map types

/-- Each argument with the descriptors the plugin's two arrays hold for it. -/
def KeelHookPrototype.describedArguments (input : KeelHookPrototype) :
    List (KeelHookValueType × Option Address × Option Address) :=
  input.readArgumentTypes.zipIdx.map fun (type, index) =>
    (type, input.argumentAggregates.bind (· index), input.argumentObjects.bind (· index))

def canonicalPrototype (descriptors : Descriptors) (platform : Platform)
    (input : KeelHookPrototype) (method : Bool) :
    Except Failure (PrototypeData × PrototypeBinding) :=
  match checkPrototype input method input.readArgumentTypes with
  | .error failure => .error failure
  | .ok () =>
    match canonicalShape descriptors platform input.returnAggregate input.returnObject
        AggregateBuildContext.empty with
    | .error failure => .error failure
    | .ok (returnShape, returnObject, context) =>
      match canonicalArguments descriptors platform input.describedArguments context with
      | .error failure => .error failure
      | .ok (argumentShapes, argumentObjects) =>
        .ok ({ callingConvention := input.callingConvention
               returnType := input.returnType
               arguments := input.readArgumentTypes
               returnShape
               argumentShapes
               aggregateIdentity :=
                 returnShape.identity 'R' ++ argumentShapes.flatMap (ValueShape.identity 'A')
               method
               vafmt := input.flags &&& prototypeVafmt ≠ 0 },
             ⟨returnObject, argumentObjects⟩)

end KeelS2.KeelHook
