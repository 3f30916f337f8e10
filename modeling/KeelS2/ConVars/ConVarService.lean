import KeelS2.Hosting.CommandDispatch
import Mathlib.Data.UInt

/-!
# The console-variable service

A plugin creates a console variable or finds one, and has a record of it until it releases it. A
definition stays when its record goes: the engine keeps the variable, and whoever creates it again
has to say of it what was said before.
-/

namespace KeelS2.ConVars

open Plugins (PluginRecord validMetadataText)
open Hosting.CommandDispatch (validCommandName)

abbrev KeelConVarHandle := Nat
abbrev GameConVarHandle := Nat
abbrev KeelConVarType := Nat

def convarBool : KeelConVarType := 1
def convarInt32 : KeelConVarType := 2
def convarFloat32 : KeelConVarType := 3
def convarString : KeelConVarType := 4

def flagRelease : Nat := 2 ^ 19

/-- The bits of `kPublicFlags`. -/
def publicFlags : List Nat := [5, 6, 7, 8, 11, 13, 14, 19, 22, 26]

/-! ## Values -/

/-- `KeelConVarScalar`, a union: what each member reads. A float is its bits. -/
structure KeelConVarScalar where
  booleanValue : Nat
  int32Value : Int
  float32Value : UInt32
  stringValue : Option Text
  deriving DecidableEq, Repr

structure KeelConVarValue where
  size : Nat
  type : KeelConVarType
  value : KeelConVarScalar
  deriving DecidableEq, Repr

def sizeofConVarValue : Nat := 16

structure StoredValue where
  booleanValue : Nat
  int32Value : Int
  float32Value : UInt32
  stringValue : Text
  deriving DecidableEq, Repr

def StoredValue.empty : StoredValue := ⟨0, 0, 0, []⟩

/-- What a `std::string` has of a C string. -/
def cString (text : Option Text) : Text :=
  (text.getD []).takeWhile (· ≠ '\x00')

def storeValue (value : KeelConVarValue) : StoredValue :=
  if value.type = convarBool then
    { StoredValue.empty with booleanValue := value.value.booleanValue }
  else if value.type = convarInt32 then
    { StoredValue.empty with int32Value := value.value.int32Value }
  else if value.type = convarFloat32 then
    { StoredValue.empty with float32Value := value.value.float32Value }
  else if value.type = convarString then
    { StoredValue.empty with stringValue := cString value.value.stringValue }
  else .empty

def equalValue (stored : StoredValue) (value : KeelConVarValue) (type : KeelConVarType) : Bool :=
  if type = convarBool then stored.booleanValue == value.value.booleanValue
  else if type = convarInt32 then stored.int32Value == value.value.int32Value
  else if type = convarFloat32 then stored.float32Value == value.value.float32Value
  else if type = convarString then
    value.value.stringValue.isSome && stored.stringValue == cString value.value.stringValue
  else false

def validType (type : KeelConVarType) : Bool :=
  type == convarBool || type == convarInt32 || type == convarFloat32 || type == convarString

/-- `std::isfinite`: the exponent is not all ones. -/
def isFinite (bits : UInt32) : Bool := bits.toNat / 2 ^ 23 % 2 ^ 8 ≠ 255

/-- The order of the floats that are finite, the two zeros being one. -/
def floatOrder (bits : UInt32) : Int :=
  if bits.toNat < 2 ^ 31 then bits.toNat else -(bits.toNat - 2 ^ 31)

def validValue (value : KeelConVarValue) (type : KeelConVarType) : Bool :=
  if value.size ≠ sizeofConVarValue ∨ value.type ≠ type then false
  else if type = convarBool then value.value.booleanValue == 0 || value.value.booleanValue == 1
  else if type = convarFloat32 then isFinite value.value.float32Value
  else if type = convarString then
    value.value.stringValue.isSome && (cString value.value.stringValue).length ≤ 4095
  else type == convarInt32

/-! ## Definitions -/

structure KeelConVarSpec where
  size : Nat
  type : KeelConVarType
  name : Option Text
  description : Option Text
  flags : Nat
  defaultValue : KeelConVarValue
  hasMinimum : Nat
  reservedMinimum : Nat
  minimumValue : KeelConVarValue
  hasMaximum : Nat
  reservedMaximum : Nat
  maximumValue : KeelConVarValue
  callback : Option Nat
  userData : Nat

def sizeofConVarSpec : Nat := 112

/-- What `ValidDefinition` asks of the three numbers of an `int32` or a `float32`. -/
def inBounds (minimum maximum value : Int) : Bool :=
  minimum ≤ maximum && minimum ≤ value && value ≤ maximum

def validDefinition (spec : KeelConVarSpec) : Bool :=
  if spec.size ≠ sizeofConVarSpec ∨ !validCommandName spec.name ∨
      !validMetadataText spec.description 255 true ∨ !validType spec.type ∨
      (∃ bit < 64, spec.flags.testBit bit ∧ bit ∉ publicFlags) ∨
      !validValue spec.defaultValue spec.type ∨ 1 < spec.hasMinimum ∨ 1 < spec.hasMaximum ∨
      spec.reservedMinimum ≠ 0 ∨ spec.reservedMaximum ≠ 0 then false
  else
    let hasMinimum := spec.hasMinimum == 1
    let hasMaximum := spec.hasMaximum == 1
    if (spec.type = convarBool ∨ spec.type = convarString) ∧ (hasMinimum ∨ hasMaximum) then false
    else if hasMinimum && !validValue spec.minimumValue spec.type ||
        hasMaximum && !validValue spec.maximumValue spec.type then false
    else if spec.type = convarInt32 then
      inBounds (if hasMinimum then spec.minimumValue.value.int32Value else -2 ^ 31)
        (if hasMaximum then spec.maximumValue.value.int32Value else 2 ^ 31 - 1)
        spec.defaultValue.value.int32Value
    else if spec.type = convarFloat32 then
      inBounds
        (if hasMinimum then floatOrder spec.minimumValue.value.float32Value else -0x7f7fffff)
        (if hasMaximum then floatOrder spec.maximumValue.value.float32Value else 0x7f7fffff)
        (floatOrder spec.defaultValue.value.float32Value)
    else true

structure Definition where
  name : Text
  description : Text
  flags : Nat
  type : KeelConVarType
  defaultValue : StoredValue
  hasMinimum : Bool
  minimumValue : StoredValue
  hasMaximum : Bool
  maximumValue : StoredValue
  active : KeelConVarHandle
  deriving DecidableEq, Repr

/-- `Definition`'s constructor. -/
def Definition.ofSpec (spec : KeelConVarSpec) : Definition where
  name := cString spec.name
  description := cString spec.description
  flags := spec.flags ||| flagRelease
  type := spec.type
  defaultValue := storeValue spec.defaultValue
  hasMinimum := spec.hasMinimum == 1
  minimumValue := if spec.hasMinimum == 1 then storeValue spec.minimumValue else .empty
  hasMaximum := spec.hasMaximum == 1
  maximumValue := if spec.hasMaximum == 1 then storeValue spec.maximumValue else .empty
  active := 0

def equalDefinition (definition : Definition) (spec : KeelConVarSpec) : Bool :=
  let hasMinimum := spec.hasMinimum == 1
  let hasMaximum := spec.hasMaximum == 1
  definition.type == spec.type && definition.name == cString spec.name &&
    definition.description == cString spec.description &&
    definition.flags == spec.flags ||| flagRelease &&
    definition.hasMinimum == hasMinimum && definition.hasMaximum == hasMaximum &&
    equalValue definition.defaultValue spec.defaultValue spec.type &&
    (!hasMinimum || equalValue definition.minimumValue spec.minimumValue spec.type) &&
    (!hasMaximum || equalValue definition.maximumValue spec.maximumValue spec.type)

def normalizeName (name : Option Text) : Text := (cString name).map Char.toLower

def validLookupName (name : Option Text) : Bool :=
  match name with
  | none => false
  | some characters =>
    let seen := characters.takeWhile (· ≠ '\x00')
    seen.all (fun character => character.isAlphanum || character == '_') && seen.length ≤ 63 &&
      seen.length ≠ 0

/-! ## Records -/

/-- `Record`. A callback is a number, and so is the object that a native access is given. -/
structure Record where
  handle : KeelConVarHandle
  owner : KeelPluginHandle
  gameHandle : GameConVarHandle
  nativeConvar : Option Nat
  provider : KeelConVarHandle
  name : Text
  definitionKey : Text
  callback : Option Nat
  nativeCallback : Option Nat
  userData : Nat
  created : Bool
  enabled : Bool
  active : Nat
  releaseState : Nat
  /-- It stands in `records_`; one that does not lives on while somebody has a pointer to it. -/
  registered : Bool
  deriving DecidableEq, Repr

structure ConVarService where
  records : List Record
  definitions : List (Text × Definition)
  nextConvar : Nat
  shuttingDown : Bool
  shutdownComplete : Bool

/-- What the adapter answers to `CreateConVar` and to `FindConVar`. -/
structure GameAnswer where
  result : KeelResult
  handle : GameConVarHandle
  native : Option Nat

/-- What the host knows of the plugin that calls. -/
structure Client where
  plugin : KeelPluginHandle
  owner : Option PluginRecord
  acceptingResources : Bool
  gameThread : Bool

namespace Client

variable (client : Client)

/-- It may have what it asks for. -/
def accepted : Bool := client.acceptingResources && client.owner.any (·.acceptingResources)

/-- It may give back what it has. -/
def settles : Bool :=
  client.owner.any fun owner =>
    owner.acceptingResources || owner.prepareUnloadActive || owner.preparePauseActive

/-- Its callbacks may be called at once. -/
def dispatches : Bool := client.owner.any fun owner => owner.state = .loaded && !owner.loading

end Client

namespace ConVarService

def initial : ConVarService := ⟨[], [], 1, false, false⟩

variable (service : ConVarService)

/-- A record through a pointer to it. -/
def record (convar : KeelConVarHandle) : Option Record :=
  service.records.find? (·.handle == convar)

/-- `records_.find`. -/
def find (convar : KeelConVarHandle) : Option Record :=
  service.records.find? fun record => record.registered && record.handle == convar

/-- `definitions_.find`. -/
def definition (key : Text) : Option Definition :=
  (service.definitions.find? (·.1 == key)).map (·.2)

def modify (convar : KeelConVarHandle) (write : Record → Record) : ConVarService :=
  { service with records := service.records.map fun record =>
      if record.handle = convar then write record else record }

/-- The `active` of a definition is written. -/
def setActive (key : Text) (convar : KeelConVarHandle) : ConVarService :=
  { service with definitions := service.definitions.map fun entry =>
      if entry.1 = key then (entry.1, { entry.2 with active := convar }) else entry }

/-- What is written once the adapter has created the variable. -/
def addCreated (record : Record) : ConVarService :=
  ({ service with records := service.records ++ [record] }).setActive record.definitionKey
    record.handle

/-- `CreateImpl`; `lookup` is what the adapter answers to the question whether there is such a
variable already. -/
def createImpl (client : Client) (spec : Option KeelConVarSpec)
    (callback nativeCallback : Option Nat) (userData : Nat) (output : Bool) (lookup : KeelResult)
    (answer : GameAnswer) : ConVarService × KeelResult × KeelConVarHandle :=
  match spec with
  | none => (service, .invalidArgument, 0)
  | some spec =>
    if !output || !validDefinition spec then (service, .invalidArgument, 0)
    else if !client.accepted then (service, .notReady, 0)
    else if !client.gameThread then (service, .wrongThread, 0)
    else if service.shuttingDown then (service, .notReady, 0)
    else if service.nextConvar = 0 then (service, .engineFailure, 0)
    else
      let key := normalizeName spec.name
      let definition := service.definition key
      let refusal : Option KeelResult := match definition with
        | some definition =>
          if definition.active ≠ 0 then some .alreadyExists
          else if !equalDefinition definition spec then some .incompatible
          else none
        | none =>
          if lookup = .ok then some .alreadyExists
          else if lookup ≠ .notFound then some lookup
          else none
      match refusal with
      | some result => (service, result, 0)
      | none =>
        let handle := service.nextConvar
        let inserted :=
          { service with
            nextConvar := (handle + 1) % 2 ^ 64
            definitions := if definition.isNone then
              service.definitions ++ [(key, Definition.ofSpec spec)] else service.definitions }
        if answer.result ≠ .ok then
          ({ inserted with definitions := if definition.isNone then
              inserted.definitions.filter (·.1 ≠ key) else inserted.definitions },
            answer.result, 0)
        else
          (inserted.addCreated
            { handle := handle, owner := client.plugin, gameHandle := answer.handle
              nativeConvar := answer.native, provider := handle, name := cString spec.name
              definitionKey := key, callback := callback, nativeCallback := nativeCallback
              userData := userData, created := true, enabled := client.dispatches, active := 0
              releaseState := 0, registered := true },
            .ok, handle)

def create (client : Client) (spec : Option KeelConVarSpec) (output : Bool) (lookup : KeelResult)
    (answer : GameAnswer) : ConVarService × KeelResult × KeelConVarHandle :=
  service.createImpl client spec (spec.bind (·.callback)) none ((spec.map (·.userData)).getD 0)
    output lookup answer

def createNative (client : Client) (spec : Option KeelConVarSpec) (callback : Option Nat)
    (userData : Nat) (output : Bool) (lookup : KeelResult) (answer : GameAnswer) :
    ConVarService × KeelResult × KeelConVarHandle :=
  if spec.all fun spec => spec.callback.isSome || spec.userData ≠ 0 then
    (service, .invalidArgument, 0)
  else service.createImpl client spec none callback userData output lookup answer

def findImpl (client : Client) (name : Option Text) (expectedType : KeelConVarType)
    (output : Bool) (answer : GameAnswer) : ConVarService × KeelResult × KeelConVarHandle :=
  if !output || !validLookupName name || !validType expectedType then
    (service, .invalidArgument, 0)
  else if !client.accepted then (service, .notReady, 0)
  else if !client.gameThread then (service, .wrongThread, 0)
  else if service.shuttingDown || service.nextConvar = 0 then (service, .notReady, 0)
  else
    let handle := service.nextConvar
    let taken := { service with nextConvar := (handle + 1) % 2 ^ 64 }
    if answer.result ≠ .ok then (taken, answer.result, 0)
    else
      ({ taken with
          records := service.records ++
            [{ handle := handle, owner := client.plugin, gameHandle := answer.handle
               nativeConvar := answer.native
               provider := ((service.definition (normalizeName name)).map (·.active)).getD 0
               name := cString name, definitionKey := [], callback := none
               nativeCallback := none, userData := 0, created := false
               enabled := client.dispatches, active := 0, releaseState := 0
               registered := true }] },
        .ok, handle)

/-! ## Releases -/

def ownedRecord (plugin : KeelPluginHandle) (convar : KeelConVarHandle) : Option Record :=
  if convar = 0 then none else (service.find convar).filter (·.owner = plugin)

/-- `ReleaseRecord` takes the record's release for itself. -/
def beginRelease (convar : KeelConVarHandle) : ConVarService :=
  service.modify convar fun record => { record with releaseState := 1, enabled := false }

/-- `ReleaseRecord` behind the adapter: the record goes from both tables. -/
def eraseRecord (convar : KeelConVarHandle) : ConVarService :=
  match service.record convar with
  | none => service
  | some record =>
    let erased := service.modify convar fun record => { record with registered := false }
    if record.created ∧
        (service.definition record.definitionKey).any (·.active = record.handle) then
      erased.setActive record.definitionKey 0
    else erased

/-- The last step of `ReleaseRecord`. -/
def endRelease (convar : KeelConVarHandle) : ConVarService :=
  service.modify convar fun record => { record with releaseState := 2 }

/-- `ReleaseRecord` of a record that nobody else releases or uses. -/
def releaseRecord (convar : KeelConVarHandle) : ConVarService :=
  ((service.beginRelease convar).eraseRecord convar).endRelease convar

/-- `Release`; `current` is that a callback of the record is on the thread's stack. -/
def release (client : Client) (convar : KeelConVarHandle) (current : Bool) :
    ConVarService × KeelResult :=
  if !client.settles then (service, .notReady)
  else match service.ownedRecord client.plugin convar with
    | none => (service, .notFound)
    | some record =>
      if current then (service, .busy) else (service.releaseRecord record.handle, .ok)

/-- The records of a plugin. -/
def owned (plugin : KeelPluginHandle) : List Record :=
  service.records.filter fun record => record.registered && record.owner = plugin

/-- `enabled` is written to the records of a plugin. -/
def enable (plugin : KeelPluginHandle) (enabled : Bool) : ConVarService :=
  { service with records := service.records.map fun record =>
      if record.registered && record.owner = plugin && (!enabled || record.releaseState = 0) then
        { record with enabled := enabled }
      else record }

def activate (plugin : KeelPluginHandle) : ConVarService :=
  if service.shuttingDown then service else service.enable plugin true

/-- `Deactivate`; `current` is that a callback of the plugin is on the thread's stack. -/
def deactivate (plugin : KeelPluginHandle) (current : Bool) : ConVarService × KeelResult :=
  if current then (service, .busy) else (service.enable plugin false, .ok)

def releasePlugin (plugin : KeelPluginHandle) (current : Bool) : ConVarService × KeelResult :=
  let (deactivated, result) := service.deactivate plugin current
  if result ≠ .ok then (deactivated, result)
  else
    (((deactivated.owned plugin).map (·.handle)).foldl releaseRecord deactivated, .ok)

/-- `Shutdown`; `current` is that a callback of a console variable is on the thread's stack. -/
def shutdown (current : Bool) : ConVarService × Bool :=
  if service.shutdownComplete then (service, true)
  else
    let closing :=
      { service with
        shuttingDown := true
        records := service.records.map fun record =>
          if record.registered then { record with enabled := false } else record }
    if current then (closing, false)
    else
      let released := ((closing.records.filter (·.registered)).map (·.handle)).foldl
        releaseRecord closing
      ({ released with definitions := [], shutdownComplete := true }, true)

end ConVarService
end KeelS2.ConVars
