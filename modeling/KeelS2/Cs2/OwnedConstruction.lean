import KeelS2.Entities.EntityOutputs
import KeelS2.Lib.Runs

/-!
# Owned constructions

`OwnedConstructions` keeps what plugins construct: an entity that the backend has created, and the
keys that it is going to be spawned with. The backend may fail, throw, and call the object again.
It all runs on the game thread, so that what is under way is one stack: each of its frames waits
for the backend, and a call may come at any time.
-/

namespace KeelS2.Cs2.Construction

open Entities (GameEntityIdentity)

def keyString : Nat := 1
def keyMaxCount : Nat := 128
def keyMaxName : Nat := 127
def keyMaxString : Nat := 4095
def maxDepth : Nat := 8

def capacity : Nat := 64

/-! ## Keys -/

/-- `KeelCs2EntityKeyValue`; `payload` stands for its numbers. -/
structure KeelCs2EntityKeyValue where
  sized : Bool
  type : Nat
  name : Option Text
  stringValue : Option Text
  payload : Nat
  deriving DecidableEq, Repr

structure Key where
  type : Nat
  payload : Nat
  name : Text
  text : Text
  deriving DecidableEq, Repr

def copyText (input : Option Text) (maximum : Nat) : Option Text :=
  match input with
  | none => none
  | some text => if maximum < text.length then none else some text

def copyKey (input : KeelCs2EntityKeyValue) : Option Key :=
  if !input.sized then none
  else
    match copyText input.name keyMaxName with
    | none => none
    | some name =>
      if input.type = keyString then
        match copyText input.stringValue keyMaxString with
        | none => none
        | some text => some ⟨input.type, input.payload, name, text⟩
      else some ⟨input.type, input.payload, name, []⟩

/-- `SameKey`: the names without case. -/
def sameKey (left right : Text) : Bool :=
  left.map Char.toLower = right.map Char.toLower

/-! ## The object -/

structure Record where
  token : Nat
  identity : GameEntityIdentity
  className : Text
  keys : List Key
  values : Option Nat
  busy : Bool
  closed : Bool
  created : Bool
  consumed : Bool
  deriving DecidableEq, Repr

def Record.new (token : Nat) (className : Text) : Record where
  token := token
  identity := ⟨0, 0, 0⟩
  className := className
  keys := []
  values := none
  busy := false
  closed := false
  created := false
  consumed := false

/-- The operations, their arguments checked. -/
inductive Call
  | create (className : Text)
  | describe (token : Nat)
  | set (token : Nat) (key : Key)
  | teleport (token : Nat)
  | spawn (token : Nat)
  | cancel (token : Nat)
  | visit (token : Nat)
  | reset
  deriving DecidableEq, Repr

/-- What comes when an `Operation` has ended. -/
inductive After
  | answer (call : Call) (result : KeelResult)
  /-- The rest of the loop of `Reset`. -/
  | reset (rest : List Nat)
  deriving DecidableEq, Repr

/-- The function of the backend that is waited for, with the locals of the operation. A record is
its number, and `wasBusy` is that of its `Operation`, where it is not false. -/
inductive Frame
  | ready (call : Call)
  | createBuild (record slot : Nat)
  | createCreate (record : Nat)
  | createValidate (record : Nat)
  | describeValidate (token record : Nat)
  | setValidate (token : Nat) (key : Key) (record : Nat)
  | setBuild (token : Nat) (key : Key) (keys : List Key) (record : Nat)
  | teleportValidate (token record : Nat)
  | teleport (token record : Nat)
  | spawnValidate (token record : Nat)
  | spawn (token record : Nat)
  | visitValidate (token record : Nat) (wasBusy : Bool)
  | visit (token record : Nat) (wasBusy : Bool)
  /-- `Finish` in `Cancel` -/
  | cancelFinish (token record : Nat)
  /-- and in `Reset`. -/
  | resetFinish (record : Nat) (rest : List Nat)
  /-- `Finish` in `~Operation`, behind which only `depth_` is counted down. -/
  | leave (after : After)
  deriving DecidableEq, Repr

/-- The object and the records that it has made. What has been answered, what the backend has been
told and what it has built is written down, the latest first. -/
structure State where
  records : Nat → Record
  made : Nat
  slots : List (Option Nat)
  nextToken : Nat
  depth : Nat
  resetting : Nat
  stack : List Frame
  answers : List (Call × KeelResult)
  dispatched : List Nat
  cancelled : List Nat
  builds : List (Text × List Key × Nat)

def State.initial : State where
  records := fun _ => Record.new 0 []
  made := 0
  slots := List.replicate capacity none
  nextToken := 1
  depth := 0
  resetting := 0
  stack := []
  answers := []
  dispatched := []
  cancelled := []
  builds := []

/-- What the backend's function has done when it is back, by its result or by an exception; the
identity is what `Create` has put out, `invoked` what `Spawn` has, and `value` what was built. -/
structure Outcome where
  threw : Bool
  result : KeelResult
  identity : GameEntityIdentity
  invoked : Bool
  value : Nat
  deriving DecidableEq, Repr

/-- A call of the object, or the return of the backend to the frame on top. Where an argument is
only checked, the input is what the check says. -/
inductive Input
  | create (className : Option Text)
  | describe (token : Nat)
  | set (token : Nat) (input : KeelCs2EntityKeyValue)
  | teleport (token : Nat) (valid : Bool)
  | spawn (token : Nat)
  | cancel (token : Nat)
  | visit (token : Nat) (valid : Bool)
  | reset
  | back (outcome : Outcome)
  deriving DecidableEq, Repr

namespace State

def edit (state : State) (record : Nat) (change : Record → Record) : State :=
  { state with
    records := fun other =>
      if other = record then change (state.records other) else state.records other }

def push (state : State) (frame : Frame) : State :=
  { state with stack := frame :: state.stack }

def answer (state : State) (call : Call) (result : KeelResult) : State :=
  { state with answers := (call, result) :: state.answers }

def find (state : State) (token : Nat) : Option Nat :=
  if token = 0 then none
  else (state.slots.filterMap id).find? fun record =>
    !(state.records record).closed && (state.records record).token = token

def detach (state : State) (record : Nat) : State :=
  let state := state.edit record fun record => { record with closed := true }
  { state with slots := state.slots.set (state.slots.idxOf (some record)) none }

/-- The constructor of `Operation`. -/
def enter (state : State) (record : Nat) : State :=
  let state := state.edit record fun record => { record with busy := true }
  { state with depth := state.depth + 1 }

/-- `Finish` calls the backend: the record is created and not consumed. -/
def finishes (state : State) (record : Nat) : Bool :=
  !(state.records record).consumed && (state.records record).created

/-- `Finish`, up to the call. -/
def consume (state : State) (record : Nat) : State :=
  let state := state.edit record fun record => { record with consumed := true }
  { state with cancelled := record :: state.cancelled }

/-- The loop of `Reset`. What `Finish` does nothing for is passed over: its `Operation` has no
effect. -/
def resetNext : List Nat → State → State
  | [], state => { state with resetting := state.resetting - 1 }.answer .reset .ok
  | record :: rest, state =>
    if (state.records record).busy || !state.finishes record then resetNext rest state
    else ((state.enter record).consume record).push (.resetFinish record rest)

/-- `--depth_`, and on. -/
def resume (state : State) (after : After) : State :=
  let state := { state with depth := state.depth - 1 }
  match after with
  | .answer call result => state.answer call result
  | .reset rest => state.resetNext rest

/-- `~Operation`. -/
def endOperation (state : State) (record : Nat) (wasBusy : Bool) (after : After) : State :=
  let state := state.edit record fun record => { record with busy := wasBusy }
  if (state.records record).closed && !wasBusy && state.finishes record then
    (state.consume record).push (.leave after)
  else state.resume after

/-- `Begin` behind `Ready`. -/
def begin_ (state : State) (token : Nat) : Except KeelResult Nat :=
  match state.find token with
  | none => .error .notFound
  | some record =>
    if state.resetting ≠ 0 ∨ (state.records record).busy ∨ maxDepth ≤ state.depth then .error .busy
    else .ok record

/-- An operation that goes on where `Ready` says yes. -/
def start (state : State) (call : Call) : State :=
  match call with
  | .create className =>
    if state.resetting ≠ 0 ∨ maxDepth ≤ state.depth ∨ state.nextToken = 2 ^ 64 - 1 then
      state.answer call .busy
    else
      match state.slots.findIdx? (· = none) with
      | none => state.answer call .busy
      | some slot =>
        { state with
          records := fun other =>
            if other = state.made then Record.new state.nextToken className
            else state.records other
          made := state.made + 1
          nextToken := state.nextToken + 1 }.push (.createBuild state.made slot)
  | .describe token =>
    match state.find token with
    | none => state.answer call .notFound
    | some record =>
      if !(state.records record).created || (state.records record).consumed then
        state.answer call .notFound
      else state.push (.describeValidate token record)
  | .set token key =>
    match state.begin_ token with
    | .error result => state.answer call result
    | .ok record => (state.enter record).push (.setValidate token key record)
  | .teleport token =>
    match state.begin_ token with
    | .error result => state.answer call result
    | .ok record => (state.enter record).push (.teleportValidate token record)
  | .spawn token =>
    match state.begin_ token with
    | .error result => state.answer call result
    | .ok record => (state.enter record).push (.spawnValidate token record)
  | .cancel token =>
    match state.find token with
    | none => state.answer call .notFound
    | some record =>
      let state := state.detach record
      if (state.records record).busy then state.answer call .ok
      else if state.finishes record then
        ((state.enter record).consume record).push (.cancelFinish token record)
      else (state.enter record).endOperation record false (.answer call .ok)
  | .visit token =>
    match state.find token with
    | none => state.answer call .notFound
    | some record =>
      if !(state.records record).created || (state.records record).consumed then
        state.answer call .notFound
      else if state.resetting ≠ 0 ∨ maxDepth ≤ state.depth then state.answer call .busy
      else
        (state.enter record).push (.visitValidate token record (state.records record).busy)
  | .reset => state

/-- The keys that `Set` builds: with the key in the place of the one of its name, or at the end
if there is room. -/
def upsert (keys : List Key) (key : Key) : Option (List Key) :=
  match keys.findIdx? fun old => sameKey old.name key.name with
  | some index => some (keys.set index key)
  | none => if keyMaxCount ≤ keys.length then none else some (keys ++ [key])

/-- `result`, unless it is OK. -/
def refused (result : KeelResult) : KeelResult :=
  if result = .ok then .notFound else result

/-- Somebody else has the identity that was created. -/
def duplicate (state : State) (record : Nat) : Bool :=
  (state.slots.filterMap id).any fun other =>
    other ≠ record && (state.records other).created && !(state.records other).consumed &&
      !(state.records other).closed &&
      (state.records other).identity = (state.records record).identity

/-- The backend is back from a function that was called in this frame, which is gone. -/
def back (state : State) (frame : Frame) (outcome : Outcome) : State :=
  match frame with
  | .ready call =>
    if outcome.threw then state.answer call .engineFailure
    else if outcome.result ≠ .ok then state.answer call outcome.result
    else state.start call
  | .createBuild record slot =>
    let call := Call.create (state.records record).className
    if outcome.threw then state.answer call .engineFailure
    else if outcome.result ≠ .ok then state.answer call outcome.result
    else
      let state := state.edit record fun record => { record with values := some outcome.value }
      let state :=
        { state with
          builds := ((state.records record).className, [], outcome.value) :: state.builds
          slots := state.slots.set slot (some record) }
      (state.enter record).push (.createCreate record)
  | .createCreate record =>
    let call := Call.create (state.records record).className
    let state := state.edit record fun record =>
      { record with
        identity := outcome.identity
        created := !outcome.threw && outcome.result = .ok }
    if outcome.threw then
      (state.detach record).endOperation record false (.answer call .engineFailure)
    else if outcome.result ≠ .ok then
      (state.detach record).endOperation record false (.answer call outcome.result)
    else if state.duplicate record then
      let state := state.edit record fun record => { record with created := false }
      (state.detach record).endOperation record false (.answer call .alreadyExists)
    else if (state.records record).closed then
      (state.detach record).endOperation record false (.answer call .notFound)
    else state.push (.createValidate record)
  | .createValidate record =>
    let call := Call.create (state.records record).className
    if outcome.threw then
      (state.detach record).endOperation record false (.answer call .engineFailure)
    else if outcome.result ≠ .ok ∨ (state.records record).closed then
      (state.detach record).endOperation record false (.answer call (refused outcome.result))
    else state.endOperation record false (.answer call .ok)
  | .describeValidate token record =>
    state.answer (.describe token)
      (if outcome.threw then .engineFailure
      else if (state.records record).closed then .notFound
      else outcome.result)
  | .setValidate token key record =>
    if outcome.threw then
      state.endOperation record false (.answer (.set token key) .engineFailure)
    else if outcome.result ≠ .ok ∨ (state.records record).closed then
      state.endOperation record false (.answer (.set token key)
        (if (state.records record).closed then .notFound else outcome.result))
    else
      match upsert (state.records record).keys key with
      | none => state.endOperation record false (.answer (.set token key) .busy)
      | some keys => state.push (.setBuild token key keys record)
  | .setBuild token key keys record =>
    if outcome.threw then
      state.endOperation record false (.answer (.set token key) .engineFailure)
    else if outcome.result ≠ .ok ∨ (state.records record).closed then
      state.endOperation record false (.answer (.set token key)
        (if (state.records record).closed then .notFound else outcome.result))
    else
      let state :=
        { state with
          builds := ((state.records record).className, keys, outcome.value) :: state.builds }
      let state := state.edit record fun record =>
        { record with keys := keys, values := some outcome.value }
      state.endOperation record false (.answer (.set token key) .ok)
  | .teleportValidate token record =>
    if outcome.threw then
      state.endOperation record false (.answer (.teleport token) .engineFailure)
    else if outcome.result ≠ .ok ∨ (state.records record).closed then
      state.endOperation record false (.answer (.teleport token)
        (if (state.records record).closed then .notFound else outcome.result))
    else state.push (.teleport token record)
  | .teleport token record =>
    state.endOperation record false (.answer (.teleport token)
      (if outcome.threw then .engineFailure
      else if (state.records record).closed then .notFound
      else outcome.result))
  | .spawnValidate token record =>
    if outcome.threw then
      state.endOperation record false (.answer (.spawn token) .engineFailure)
    else if outcome.result ≠ .ok ∨ (state.records record).closed then
      state.endOperation record false (.answer (.spawn token)
        (if (state.records record).closed then .notFound else outcome.result))
    else state.push (.spawn token record)
  | .spawn token record =>
    let result := if outcome.threw then .engineFailure else outcome.result
    if outcome.invoked then
      let state := state.edit record fun record => { record with consumed := true }
      let state := { state with dispatched := record :: state.dispatched }
      (state.detach record).endOperation record false (.answer (.spawn token) result)
    else state.endOperation record false (.answer (.spawn token) result)
  | .visitValidate token record wasBusy =>
    if outcome.threw then
      state.endOperation record wasBusy (.answer (.visit token) .engineFailure)
    else if outcome.result ≠ .ok ∨ (state.records record).closed then
      state.endOperation record wasBusy (.answer (.visit token)
        (if (state.records record).closed then .notFound else outcome.result))
    else state.push (.visit token record wasBusy)
  | .visit token record wasBusy =>
    state.endOperation record wasBusy (.answer (.visit token)
      (if outcome.threw then .engineFailure else outcome.result))
  | .cancelFinish token record =>
    state.endOperation record false (.answer (.cancel token)
      (if outcome.threw then .engineFailure else outcome.result))
  | .resetFinish record rest => state.endOperation record false (.reset rest)
  | .leave after => state.resume after

/-- `Reset`, up to its loop. -/
def reset (state : State) : State :=
  let old := state.slots.filterMap id
  let state :=
    { state with
      resetting := state.resetting + 1
      slots := List.replicate capacity none
      records := fun other =>
        if other ∈ old then { state.records other with closed := true } else state.records other }
  state.resetNext old

def step (state : State) (input : Input) : State :=
  match input with
  | .create className =>
    match copyText className keyMaxName with
    | none => state
    | some className => state.push (.ready (.create className))
  | .describe token => state.push (.ready (.describe token))
  | .set token input =>
    match copyKey input with
    | none => state
    | some key => state.push (.ready (.set token key))
  | .teleport token valid => if valid then state.push (.ready (.teleport token)) else state
  | .spawn token => state.push (.ready (.spawn token))
  | .cancel token => state.push (.ready (.cancel token))
  | .visit token valid => if valid then state.push (.ready (.visit token)) else state
  | .reset => state.reset
  | .back outcome =>
    match state.stack with
    | [] => state
    | frame :: below => { state with stack := below }.back frame outcome

end State
end KeelS2.Cs2.Construction
