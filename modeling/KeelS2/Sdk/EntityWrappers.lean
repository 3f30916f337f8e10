import KeelS2.KeelHook.Abi
import KeelS2.Lib.Runs

/-!
# Entity wrappers and the host calls they make

An `Entity` holds a handle through a `State` it shares with snapshots. Its operations call the
host, and while the host is in a call anything may be done, to the same wrapper too. So an operation
runs up to its host call, which is put on a stack of `Frame`s; the innermost call comes back with an
answer, and the operation goes on. What it finds then may not be what it left: a state counts its
generations, and knows whether its wrapper is alive.

What a use of a wrapper asks the host does nothing to the wrapper, so a use is only the snapshot it
takes. Statuses are left out.
-/

namespace KeelS2.Sdk.Wrappers

/-! ## The state -/

/-- `Entity::Value`, where there is a handle: the context it was opened for, and the handle. -/
structure Value where
  context : Nat
  handle : Nat
  deriving DecidableEq, Repr

structure State where
  value : Option Value
  generation : Nat
  alive : Bool
  deriving DecidableEq, Repr

structure Snapshot where
  state : Nat
  value : Option Value
  generation : Nat
  deriving DecidableEq, Repr

structure KeelEntityInfo where
  size : Nat
  index : Int
  source2Handle : Nat
  reserved : Nat
  epoch : Nat
  deriving DecidableEq, Repr

def sizeofEntityInfo : Nat := 24
def invalidSource2EntityHandle : Nat := 4294967295

/-- What `Open` is called with: the service's context, if it has one, and what is asked for. -/
structure Request where
  context : Option Nat
  index : Int
  source : Nat
  deriving DecidableEq, Repr

def Request.accepts (request : Request) (info : KeelEntityInfo) : Bool :=
  info.size = sizeofEntityInfo ∧ info.reserved = 0 ∧ 0 ≤ info.index ∧
    info.source2Handle ≠ invalidSource2EntityHandle ∧ info.epoch ≠ 0 ∧
    (request.index < 0 ∨ info.index = request.index) ∧
    (request.source = invalidSource2EntityHandle ∨ info.source2Handle = request.source)

/-- What is left to do after `Release`. A destructor is over with it. -/
inductive Next
  | done
  | destroyed (wrapper : Nat)
  | open (request : Request)
  deriving DecidableEq, Repr

/-- An operation that waits for the host. -/
inductive Frame
  /-- `Release`, with what it has taken out of the state. -/
  | release (state : Nat) (old : Value) (generation : Nat) (next : Next)
  /-- `Open`, in the factory. -/
  | factory (state generation context : Nat) (request : Request)
  /-- `Open`, with a candidate that is being described. -/
  | describe (state generation context : Nat) (request : Request) (handle : Nat)
  /-- The destructor of a candidate. -/
  | candidate (handle : Nat)
  deriving DecidableEq, Repr

/-- What has happened to a handle. `passed` is a call of the host's `release`, and `released` what
came of it. -/
inductive Event
  | issued (handle : Nat)
  | adopted (handle : Nat)
  | passed (handle : Nat)
  | released (handle : Nat) (result : KeelResult)
  deriving DecidableEq, Repr

/-- `wrappers` has no entry where there is no object, and an empty one where the object has no
state. `frames` are innermost first, `events` latest first. -/
structure World where
  accepting : Nat → Bool
  states : Nat → State
  nextState : Nat
  wrappers : Nat → Option (Option Nat)
  frames : List Frame
  nextHandle : Nat
  events : List Event
  snapshots : List Snapshot

/-- What the host answers. Whatever the result, it may have issued a handle, which is a new one. -/
structure Answer where
  result : KeelResult
  issued : Bool
  info : KeelEntityInfo
  deriving DecidableEq, Repr

namespace World

def initial : World where
  accepting _ := true
  states _ := ⟨none, 0, true⟩
  nextState := 0
  wrappers _ := none
  frames := []
  nextHandle := 0
  events := []
  snapshots := []

variable (world : World)

def setState (id : Nat) (state : State) : World :=
  { world with states := Function.update world.states id state }

def setWrapper (wrapper : Nat) (state : Option (Option Nat)) : World :=
  { world with wrappers := Function.update world.wrappers wrapper state }

def push (frame : Frame) : World := { world with frames := frame :: world.frames }

def log (event : Event) : World := { world with events := event :: world.events }

/-- Nothing was done to the state since. -/
def unchanged (id generation : Nat) : Bool :=
  (world.states id).alive ∧ (world.states id).generation = generation

/-! ### Release -/

def refused (result : KeelResult) : Bool := result = .wrongThread ∨ result = .busy

/-- What follows `Release`. `Open` goes on to its factory. -/
def afterRelease (id generation : Nat) (result : KeelResult) : Next → World
  | .done => world
  | .destroyed wrapper => world.setWrapper wrapper none
  | .open request =>
    if world.unchanged id generation = true ∧ refused result = false then
      match request.context with
      | none => world
      | some context =>
        if world.accepting context then world.push (.factory id generation context request)
        else world
    else world

/-- `Entity::Release`, up to the host. -/
def release (id : Nat) (next : Next) : World :=
  let held := world.states id
  let emptied := world.setState id ⟨none, held.generation + 1, held.alive⟩
  match held.value with
  | none => emptied.afterRelease id (held.generation + 1) .ok next
  | some old =>
    if world.accepting old.context then
      (emptied.log (.passed old.handle)).push (.release id old (held.generation + 1) next)
    else emptied.afterRelease id (held.generation + 1) .notReady next

/-- The host comes back. A refused handle is put back where nothing has changed. -/
def released (id : Nat) (old : Value) (generation : Nat) (next : Next) (result : KeelResult) :
    World :=
  let logged := world.log (.released old.handle result)
  let restored :=
    if refused result = true ∧ world.unchanged id generation = true then
      logged.setState id { logged.states id with value := some old }
    else logged
  restored.afterRelease id generation result next

/-! ### Open -/

/-- The destructor of a candidate that still has its handle. -/
def dispose (handle : Nat) : World := (world.log (.passed handle)).push (.candidate handle)

/-- The factory comes back. -/
def produced (id generation context : Nat) (request : Request) (answer : Answer) : World :=
  if answer.issued then
    let handle := world.nextHandle
    let given := { world with nextHandle := handle + 1 }.log (.issued handle)
    if answer.result = .ok ∧ world.unchanged id generation = true then
      given.push (.describe id generation context request handle)
    else given.dispose handle
  else world

/-- The candidate is described, and adopted. -/
def described (id generation context : Nat) (request : Request) (handle : Nat) (answer : Answer) :
    World :=
  if answer.result = .ok ∧ world.unchanged id generation = true ∧
      world.accepting context = true ∧ request.accepts answer.info = true then
    (world.setState id { world.states id with value := some ⟨context, handle⟩ }).log
      (.adopted handle)
  else world.dispose handle

/-! ### The operations of a wrapper -/

def create (wrapper : Nat) : World :=
  match world.wrappers wrapper with
  | none => world.setWrapper wrapper (some none)
  | some _ => world

def moveConstruct (source wrapper : Nat) : World :=
  match world.wrappers source, world.wrappers wrapper with
  | some state, none => (world.setWrapper wrapper (some state)).setWrapper source (some none)
  | _, _ => world

def moveAssign (wrapper source : Nat) : World :=
  if wrapper = source then world
  else
    match world.wrappers wrapper, world.wrappers source with
    | some previous, some state =>
      let moved := (world.setWrapper wrapper (some state)).setWrapper source (some none)
      match previous with
      | none => moved
      | some id => (moved.setState id { moved.states id with alive := false }).release id .done
    | _, _ => world

def destroy (wrapper : Nat) : World :=
  match world.wrappers wrapper with
  | none => world
  | some none => world.setWrapper wrapper none
  | some (some id) =>
    (world.setState id { world.states id with alive := false }).release id (.destroyed wrapper)

def reset (wrapper : Nat) : World :=
  match world.wrappers wrapper with
  | some (some id) => world.release id .done
  | _ => world

/-- `Find`, `FindSource2` and `Create`. -/
def openEntity (wrapper : Nat) (request : Request) : World :=
  match world.wrappers wrapper with
  | none => world
  | some none =>
    ({ world with nextState := world.nextState + 1 }.setWrapper wrapper
      (some (some world.nextState))).release world.nextState (.open request)
  | some (some id) => world.release id (.open request)

/-- `Capture`. A snapshot of a wrapper without a state is nothing. -/
def capture (wrapper : Nat) : World :=
  match world.wrappers wrapper with
  | some (some id) =>
    { world with
      snapshots :=
        ⟨id, (world.states id).value, (world.states id).generation⟩ :: world.snapshots }
  | _ => world

/-- The innermost host call comes back. -/
def answer (answer : Answer) : World :=
  match world.frames with
  | [] => world
  | frame :: frames =>
    let back := { world with frames := frames }
    match frame with
    | .release id old generation next => back.released id old generation next answer.result
    | .factory id generation context request => back.produced id generation context request answer
    | .describe id generation context request handle =>
      back.described id generation context request handle answer
    | .candidate handle => back.log (.released handle answer.result)

end World

/-! ## Runs -/

inductive Input
  | create (wrapper : Nat)
  | moveConstruct (source wrapper : Nat)
  | moveAssign (wrapper source : Nat)
  | destroy (wrapper : Nat)
  | reset (wrapper : Nat)
  | open (wrapper : Nat) (request : Request)
  | capture (wrapper : Nat)
  | answer (answer : Answer)
  /-- A context accepts no more resources. -/
  | disable (context : Nat)

def World.step (world : World) : Input → World
  | .create wrapper => world.create wrapper
  | .moveConstruct source wrapper => world.moveConstruct source wrapper
  | .moveAssign wrapper source => world.moveAssign wrapper source
  | .destroy wrapper => world.destroy wrapper
  | .reset wrapper => world.reset wrapper
  | .open wrapper request => world.openEntity wrapper request
  | .capture wrapper => world.capture wrapper
  | .answer answer => world.answer answer
  | .disable context =>
    { world with accepting := Function.update world.accepting context false }

end KeelS2.Sdk.Wrappers
