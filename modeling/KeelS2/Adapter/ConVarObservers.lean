import KeelS2.Adapter.LoopModes
import KeelS2.Lib.Counters

/-!
# Observers of console variables

`ObserveConVar` and `ReleaseConVar` are called on the main thread. The engine calls
`GlobalConVarChanged` for every change, on any thread: it takes down pointers to the observed
entries under the lock, leaves it, and looks at each entry again, so that an entry may be released
in between. Two counters stand against that. `provider_active` of an entry is what `ReleaseConVar`
waits for; the entry is then put with the retired ones, and `Stop` waits for
`global_observers_active_` before it frees those.

Every time a thread takes the lock, changes a counter or comes back from a wait is a step here.
What one thread calls on top of another call is its stack. The values are of any type.
-/

namespace KeelS2.Adapter.Observers

open Lib

abbrev Thread := Nat

/-- `KEELS2_CONVAR_GLOBAL_SLOT`. -/
def globalSlot : Int := -1

/-- Where an entry is. While it is released its place in `convars_` is empty. -/
inductive Standing
  | missing
  | live
  | releasing
  | retired
  | freed
  deriving DecidableEq, Repr

def Standing.alive : Standing → Bool
  | live | releasing => true
  | missing | retired | freed => false

/-- A `ConVarEntry`. The observer is a callback with its data. -/
structure ConVarEntry (Value : Type) where
  object : Address
  standing : Standing
  observer : Option Nat
  observed : Option Value
  providerActive : Nat
  deriving DecidableEq, Repr

/-- Where a thread stands in a call: in `GlobalConVarChanged` up to `waking`, then in
`ReleaseConVar`, or in `Stop`. The handles are those of the entries still to be looked at. -/
inductive Frame
  | entered (object : Address) (slot : Int)
  | selected (handles : List Nat)
  | holding (handle : Nat) (rest : List Nat)
  /-- The callback runs. -/
  | running (handle : Nat) (rest : List Nat)
  /-- `provider_active` has come to zero, and who waits for it is woken. -/
  | waking (handle : Nat) (rest : List Nat)
  | releasing (handle : Nat)
  | waiting (handle : Nat)
  | stopping
  deriving DecidableEq, Repr

inductive Event (Value : Type)
  /-- `ObserveConVar` returned, having read the value. -/
  | observed (handle : Nat) (value : Value)
  /-- The callback was called. -/
  | notified (handle : Nat) (previous : Option Value) (current : Value)
  /-- It came back. -/
  | ended (handle : Nat)
  /-- `ReleaseConVar` returned. -/
  | released (handle : Nat)
  | freed (handle : Nat)
  /-- A notification has used its pointer to the entry. -/
  | touched (handle : Nat)
  deriving DecidableEq, Repr

/-- `convars` are the keys of `convars_`. -/
structure ConVarObservers (Value : Type) where
  entries : Nat → ConVarEntry Value
  convars : List Nat
  retiredConvars : List Nat
  convarObservers : List Nat
  observerCount : Nat
  installed : Bool
  cvar : Bool
  globalObserversActive : Nat
  callStacks : Thread → List Frame
  history : List (Event Value)

namespace ConVarObservers

variable {Value : Type}

def initial : ConVarObservers Value where
  entries := fun _ => ⟨0, .missing, none, none, 0⟩
  convars := []
  retiredConvars := []
  convarObservers := []
  observerCount := 0
  installed := false
  cvar := false
  globalObserversActive := 0
  callStacks := fun _ => []
  history := []

variable (main : Thread) (state : ConVarObservers Value)

def record (event : Event Value) : ConVarObservers Value :=
  { state with history := event :: state.history }

def touch (handles : List Nat) : ConVarObservers Value :=
  { state with history := handles.map .touched ++ state.history }

def setEntry (handle : Nat) (entry : ConVarEntry Value) : ConVarObservers Value :=
  { state with entries := Function.update state.entries handle entry }

def setStack (thread : Thread) (frames : List Frame) : ConVarObservers Value :=
  { state with callStacks := Function.update state.callStacks thread frames }

/-- A call on top of what the thread is in: of a callback, or of nothing of this. -/
def mayCall (thread : Thread) : Bool :=
  match state.callStacks thread with
  | [] | .running _ _ :: _ => true
  | _ => false

/-! ## On the main thread -/

/-- What is left of `Start` after the `Stop` it begins with. -/
def start : ConVarObservers Value :=
  if state.mayCall main && state.convars.isEmpty then { state with cvar := true } else state

/-- A variable is registered or found, for a handle that was not given before. -/
def create (handle : Nat) (object : Address) : ConVarObservers Value :=
  if state.mayCall main && state.cvar && (state.entries handle).standing == .missing then
    { state.setEntry handle ⟨object, .live, none, none, 0⟩ with
      convars := handle :: state.convars }
  else state

/-- `value` is what `ReadConVar` answers. -/
def observeConVar (caller : Thread) (handle : Nat) (callback : Option Nat)
    (value : Except KeelResult Value) : ConVarObservers Value × KeelResult :=
  if caller ≠ main then (state, .wrongThread)
  else
    match callback with
    | none => (state, .invalidArgument)
    | some callback =>
      if state.cvar = false then (state, .invalidArgument)
      else
        let entry := state.entries handle
        if entry.standing ≠ .live ∨ entry.object = 0 then (state, .notFound)
        else
          match value with
          | .error error => (state, error)
          | .ok value =>
            if entry.observer.isSome then (state, .alreadyExists)
            else
              ({ state.setEntry handle
                  { entry with observer := some callback, observed := some value } with
                installed := if state.observerCount = 0 then true else state.installed
                convarObservers := state.convarObservers ++ [handle]
                observerCount := state.observerCount + 1
                history := .observed handle value :: state.history }, .ok)

/-- The beginning of `ReleaseConVar`, on top of these frames. -/
def releaseConVar (handle : Nat) (frames : List Frame) : ConVarObservers Value :=
  if handle ∈ state.convars ∧ (state.entries handle).standing = .live then
    (state.setEntry handle { state.entries handle with standing := .releasing }).setStack main
      (.releasing handle :: frames)
  else state

/-- What it does under the lock. -/
def removeObserver (handle : Nat) (frames : List Frame) : ConVarObservers Value :=
  let entry := state.entries handle
  let left :=
    if entry.observer.isSome then
      { state.setEntry handle { entry with observer := none } with
        convarObservers := state.convarObservers.filter fun other => other != handle
        observerCount := state.observerCount - 1
        installed := if state.observerCount - 1 = 0 ∧ state.cvar then false else state.installed }
    else state
  left.setStack main (.waiting handle :: frames)

/-- `WaitForConVarProviders` for the entry, and the rest. -/
def retire (handle : Nat) (frames : List Frame) : ConVarObservers Value :=
  let entry := state.entries handle
  if entry.providerActive = 0 then
    { (state.setEntry handle { entry with standing := .retired }).setStack main frames with
      convars := state.convars.filter fun other => other != handle
      retiredConvars := state.retiredConvars ++ [handle]
      history := .released handle :: state.history }
  else state

/-- The entries after `retired_convars_.clear()`. -/
def clearRetired (handle : Nat) : ConVarEntry Value :=
  if handle ∈ state.retiredConvars then { state.entries handle with standing := .freed }
  else state.entries handle

/-- `Stop`: `first` is the first of `convars_`, as long as there is one. -/
def stopConVars (first : Nat) (frames : List Frame) : ConVarObservers Value :=
  match state.convars with
  | _ :: _ => state.releaseConVar main first (.stopping :: frames)
  | [] =>
    if state.globalObserversActive = 0 then
      { state.setStack main frames with
        entries := state.clearRetired
        retiredConvars := []
        cvar := false
        history := state.retiredConvars.map .freed ++ state.history }
    else state

/-! ## On any thread -/

/-- `GlobalConVarChanged` is called. -/
def globalConVarChanged (thread : Thread) (object : Address) (slot : Int) :
    ConVarObservers Value :=
  { state.setStack thread (.entered object slot :: state.callStacks thread) with
    globalObserversActive := state.globalObserversActive + 1 }

/-- It returns. -/
def leave (thread : Thread) (frames : List Frame) : ConVarObservers Value :=
  { state.setStack thread frames with
    globalObserversActive := state.globalObserversActive - 1 }

/-- The first time under the lock. -/
def select (thread : Thread) (object : Address) (frames : List Frame) : ConVarObservers Value :=
  (state.touch state.convarObservers).setStack thread
    (.selected (state.convarObservers.filter fun handle =>
      (state.entries handle).object == object) :: frames)

/-- The time under the lock for one entry. -/
def enter (thread : Thread) (handle : Nat) (rest : List Nat) (frames : List Frame) :
    ConVarObservers Value :=
  let entry := state.entries handle
  if entry.observer.isSome then
    ((state.setEntry handle { entry with providerActive := entry.providerActive + 1 }).touch
      [handle]).setStack thread (.holding handle rest :: frames)
  else (state.touch [handle]).setStack thread (.selected rest :: frames)

/-- The destructor of the `ConVarProviderScope`. -/
def leaveProvider (thread : Thread) (handle : Nat) (rest : List Nat) (frames : List Frame) :
    ConVarObservers Value :=
  let entry := state.entries handle
  ((state.setEntry handle { entry with providerActive := entry.providerActive - 1 }).touch
    [handle]).setStack thread
      ((if entry.providerActive = 1 then .waking handle rest else .selected rest) :: frames)

/-- What is done with the entry, up to the call of the callback. `current` is the value, where it
can be read. -/
def notify (thread : Thread) (handle : Nat) (rest : List Nat) (frames : List Frame)
    (current : Option Value) : ConVarObservers Value :=
  match decide (thread = main), current with
  | true, some current =>
    let entry := state.entries handle
    (((state.setEntry handle { entry with observed := some current }).touch [handle]).setStack
      thread (.running handle rest :: frames)).record (.notified handle entry.observed current)
  | _, _ => state.leaveProvider thread handle rest frames

/-- The next step of a thread, where no callback runs. -/
def goOn (thread : Thread) (current : Option Value) (first : Nat) : ConVarObservers Value :=
  match state.callStacks thread with
  | [] => state
  | .entered object slot :: frames =>
    if object = 0 ∨ slot ≠ 0 ∧ slot ≠ globalSlot then state.leave thread frames
    else state.select thread object frames
  | .selected [] :: frames => state.leave thread frames
  | .selected (handle :: rest) :: frames => state.enter thread handle rest frames
  | .holding handle rest :: frames => state.notify main thread handle rest frames current
  | .running _ _ :: _ => state
  | .waking handle rest :: frames =>
    (state.touch [handle]).setStack thread (.selected rest :: frames)
  | .releasing handle :: frames => state.removeObserver main handle frames
  | .waiting handle :: frames => state.retire main handle frames
  | .stopping :: frames => state.stopConVars main first frames

/-- The callback that runs comes back, or throws. -/
def returns (thread : Thread) (throws : Bool) : ConVarObservers Value :=
  match state.callStacks thread with
  | .running handle rest :: frames =>
    (state.leaveProvider thread handle (if throws then [] else rest) frames).record (.ended handle)
  | _ => state

end ConVarObservers

/-! ## Runs -/

inductive ObserverInput (Value : Type)
  | start
  | create (handle : Nat) (object : Address)
  | observe (caller : Thread) (handle : Nat) (callback : Option Nat)
      (value : Except KeelResult Value)
  | release (handle : Nat)
  | stop
  | change (thread : Thread) (object : Address) (slot : Int)
  | goOn (thread : Thread) (current : Option Value) (first : Nat)
  | returns (thread : Thread) (throws : Bool)

variable {Value : Type}

def ConVarObservers.step (main : Thread) (state : ConVarObservers Value) :
    ObserverInput Value → ConVarObservers Value
  | .start => state.start main
  | .create handle object => state.create main handle object
  | .observe caller handle callback value =>
    if state.mayCall caller then (state.observeConVar main caller handle callback value).1
      else state
  | .release handle =>
    if state.mayCall main then state.releaseConVar main handle (state.callStacks main) else state
  | .stop =>
    if state.mayCall main then state.setStack main (.stopping :: state.callStacks main) else state
  | .change thread object slot =>
    if state.mayCall thread then state.globalConVarChanged thread object slot else state
  | .goOn thread current first => state.goOn main thread current first
  | .returns thread throws => state.returns thread throws

/-! ## The law -/

/-- What the observer was told last, or what was read when it was set. -/
def lastCurrent (handle : Nat) : List (Event Value) → Option Value
  | [] => none
  | .observed other value :: earlier =>
    if other = handle then some value else lastCurrent handle earlier
  | .notified other _ current :: earlier =>
    if other = handle then some current else lastCurrent handle earlier
  | _ :: earlier => lastCurrent handle earlier

/-- How many of the callbacks of a handle that were called have not come back. -/
def underWay (handle : Nat) : List (Event Value) → Int
  | [] => 0
  | .notified other _ _ :: earlier => underWay handle earlier + if other = handle then 1 else 0
  | .ended other :: earlier => underWay handle earlier - if other = handle then 1 else 0
  | _ :: earlier => underWay handle earlier

/-- A callback is told what it was told last, and is not called any more when its release has
returned; by then none is under way. Freed entries are not used. -/
def observerLaw : Event Value → List (Event Value) → Prop
  | .notified handle previous _, earlier =>
    previous.isSome ∧ lastCurrent handle earlier = previous ∧ .released handle ∉ earlier
  | .released handle, earlier => underWay handle earlier = 0
  | .touched handle, earlier => .freed handle ∉ earlier
  | _, _ => True

end KeelS2.Adapter.Observers
