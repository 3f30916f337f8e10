import KeelS2.Lib.Counters
import KeelS2.Lib.Keyed
import KeelS2.Plugins.FriendlyNames

/-!
# Commands that are dispatched and taken away

`Host::DispatchCommand` finds its command under `state_mutex_`, counts itself into `active` and
calls the plugin with the lock released; what it calls it reads from the record only then.
`UnregisterCommand` and `RemoveCommandsOwnedBy` clear that record, under the lock. A record that
was unregistered is kept, since a dispatch may still have its address.
-/

namespace KeelS2.Hosting

open Plugins (PluginRecord equalInsensitive validMetadataText)

abbrev KeelCommandHandle := Nat

/-- `CommandRecord`; a callback is a number. -/
structure CommandRecord where
  handle : KeelCommandHandle
  owner : KeelPluginHandle
  name : Text
  callback : Option Nat
  nativeCallback : Option Nat
  userData : Nat
  enabled : Bool
  active : Nat
  deriving DecidableEq, Repr

namespace CommandDispatch

/-- Where a thread stands in `DispatchCommand`. -/
inductive Frame
  /-- Before the locks. -/
  | called (command : KeelCommandHandle)
  /-- Behind them, and counted. -/
  | marked (command : KeelCommandHandle)
  /-- It has looked which of the two callbacks there is. -/
  | tested (command : KeelCommandHandle) (native : Bool)
  /-- It has read what it calls. -/
  | fetched (command : KeelCommandHandle) (callback : Option Nat) (userData : Nat)
  | running (command : KeelCommandHandle) (callback : Option Nat) (userData : Nat)
  /-- The command is the host's own. -/
  | core (command : KeelCommandHandle)
  deriving DecidableEq, Repr

namespace Frame

def command : Frame → KeelCommandHandle
  | called command | marked command | tested command _ | fetched command _ _
  | running command _ _ | core command => command

/-- It is counted in `active`. -/
def counted : Frame → Bool
  | called _ => false
  | _ => true

def isRunning : Frame → Bool
  | running _ _ _ => true
  | _ => false

end Frame

structure State where
  acceptingResources : Bool
  /-- There is an adapter. -/
  adapter : Bool
  dispatchOpen : Bool
  plugins : List PluginRecord
  commands : List CommandRecord
  retiredCommands : List CommandRecord
  nextCommand : Nat
  callStack : Nat → List Frame
  /-- The commands of which somebody outside them has heard that they are unregistered. -/
  gone : List KeelCommandHandle

def State.initial : State where
  acceptingResources := false
  adapter := false
  dispatchOpen := false
  plugins := []
  commands := []
  retiredCommands := []
  nextCommand := 1
  callStack := fun _ => []
  gone := []

/-- `KeelCommandSpec`, or its Source 2 kind; `sized` is that its size, and there `reserved`, is
right. -/
structure CommandSpec where
  sized : Bool
  name : Option Text
  description : Option Text
  callback : Option Nat
  userData : Nat

def isCommandCharacter (character : Char) : Bool :=
  ('a' ≤ character && character ≤ 'z') || character.isDigit || character == '_'

def validCommandName (name : Option Text) : Bool :=
  match name with
  | none => false
  | some characters =>
    let seen := characters.takeWhile (· ≠ '\x00')
    seen.all isCommandCharacter && seen.length ≤ 63 && seen.length ≠ 0

namespace State

variable (state : State)

def pluginByHandle (plugin : KeelPluginHandle) : Option PluginRecord :=
  state.plugins.find? (·.handle == plugin)

/-- The records a dispatch may have the address of. -/
def records : List CommandRecord := state.commands ++ state.retiredCommands

def record (command : KeelCommandHandle) : Option CommandRecord :=
  state.records.find? (·.handle == command)

def setStack (thread : Nat) (stack : List Frame) : State :=
  { state with callStack := Function.update state.callStack thread stack }

def modify (command : KeelCommandHandle) (change : CommandRecord → CommandRecord) : State :=
  let one record := if record.handle = command then change record else record
  { state with
    commands := state.commands.map one, retiredCommands := state.retiredCommands.map one }

/-! ## Registration -/

/-- `RegisterCommandRecord`; the handle is used up also where the adapter refuses. -/
def registerCommandRecord (record : CommandRecord) (registers : Bool) : Bool × State :=
  let state := { state with nextCommand := (state.nextCommand + 1) % 2 ^ 64 }
  if registers then (true, { state with commands := state.commands ++ [record] })
  else (false, state)

def registerCoreCommand (callback : Nat) (registers : Bool) : Bool × State :=
  if state.nextCommand = 0 then (false, state)
  else
    state.registerCommandRecord
      { handle := state.nextCommand, owner := 0, name := ['k', 'e', 'e', 'l']
        callback := some callback, nativeCallback := none, userData := 0, enabled := true
        active := 0 } registers

/-- What `RegisterCommand` and `RegisterSource2Command` have in common: all but the field that the
callback goes to. -/
def register (native : Bool) (plugin : KeelPluginHandle) (spec : Option CommandSpec)
    (output registers : Bool) : KeelResult × State :=
  if !state.acceptingResources || !state.adapter then (.notReady, state)
  else match spec, state.pluginByHandle plugin with
    | some spec, some owner =>
      match spec.name, spec.callback with
      | some name, some callback =>
        if !spec.sized || !output then (.invalidArgument, state)
        else if !owner.acceptingResources then (.notReady, state)
        else if state.nextCommand = 0 then (.engineFailure, state)
        else if equalInsensitive (name.takeWhile (· ≠ '\x00')) ['k', 'e', 'e', 'l'] then
          (.reservedName, state)
        else if !validCommandName name || !validMetadataText spec.description 255 true then
          (.invalidArgument, state)
        else if state.commands.any
            (equalInsensitive ·.name (name.takeWhile (· ≠ '\x00'))) then (.alreadyExists, state)
        else
          match state.registerCommandRecord
            { handle := state.nextCommand, owner := plugin, name := name.takeWhile (· ≠ '\x00')
              callback := if native then none else some callback
              nativeCallback := if native then some callback else none
              userData := spec.userData
              enabled := !owner.loading && owner.state == .loaded
              active := 0 } registers with
          | (true, state) => (.ok, state)
          | (false, state) => (.engineFailure, state)
      | _, _ => (.invalidArgument, state)
    | _, _ => (.invalidArgument, state)

def registerCommand := state.register false

def registerSource2Command := state.register true

/-! ## Removal -/

/-- The thread is inside the command's callback. -/
def inside (thread : Nat) (command : KeelCommandHandle) : Bool :=
  (state.callStack thread).any fun frame => frame.isRunning && frame.command == command

/-- What is done to each record that is unregistered. -/
def retire (thread : Nat) (removed : CommandRecord → Bool) : State :=
  let records := state.commands.filter removed
  { state with
    commands := state.commands.filter fun record => !removed record
    retiredCommands := state.retiredCommands ++ records.map fun record =>
      { record with enabled := false, callback := none, nativeCallback := none, userData := 0 }
    gone := state.gone ++ (records.map (·.handle)).filter fun command =>
      !state.inside thread command }

def unregisterCommand (thread : Nat) (plugin : KeelPluginHandle) (command : KeelCommandHandle) :
    KeelResult × State :=
  if command = 0 ∨ (state.pluginByHandle plugin).isNone then (.invalidArgument, state)
  else match state.commands.find? (·.handle == command) with
    | none => (.notFound, state)
    | some record =>
      if record.owner ≠ plugin then (.notFound, state)
      else (.ok, state.retire thread (·.handle == command))

def removeCommandsOwnedBy (thread : Nat) (owner : KeelPluginHandle) : State :=
  state.retire thread (·.owner == owner)

def setCommandsOwnedEnabled (owner : KeelPluginHandle) (enabled : Bool) : State :=
  { state with commands := state.commands.map fun record =>
      if record.owner = owner then { record with enabled := enabled } else record }

def pluginCommandActive (owner : KeelPluginHandle) : Bool :=
  state.records.any fun record => record.owner == owner && record.active ≠ 0

/-! ## Dispatch -/

/-- A dispatch ends. -/
def finish (thread : Nat) (command : KeelCommandHandle) (frames : List Frame) : State :=
  (state.modify command fun record => { record with active := record.active - 1 }).setStack thread
    frames

/-- The thread goes on in `DispatchCommand`; `context` is that the engine gave a context and a
command with it. -/
def go (thread : Nat) (context : Bool) : State :=
  match state.callStack thread with
  | [] => state
  | .called command :: frames =>
    match state.record command with
    | none => state.setStack thread frames
    | some record =>
      if !state.dispatchOpen || !record.enabled then state.setStack thread frames
      else
        (state.modify command fun record => { record with active := record.active + 1 }).setStack
          thread ((if record.owner = 0 then .core command else .marked command) :: frames)
  | .marked command :: frames =>
    match state.record command with
    | none => state
    | some record =>
      state.setStack thread (.tested command record.nativeCallback.isSome :: frames)
  | .tested command native :: frames =>
    match state.record command with
    | none => state
    | some record =>
      if native then
        if context then
          state.setStack thread
            (.fetched command record.nativeCallback record.userData :: frames)
        else state.finish thread command frames
      else state.setStack thread (.fetched command record.callback record.userData :: frames)
  | .fetched command callback userData :: frames =>
    state.setStack thread (.running command callback userData :: frames)
  | .running command _ _ :: frames => state.finish thread command frames
  | .core command :: frames => state.finish thread command frames

/-- The thread is where something else than the dispatch runs. -/
def outside (thread : Nat) : Bool :=
  match state.callStack thread with
  | [] | .running _ _ _ :: _ | .core _ :: _ => true
  | _ => false

end State

inductive Action
  /-- The engine calls `DispatchCommand`, with a record it was given once. -/
  | dispatch (thread : Nat) (command : KeelCommandHandle)
  | go (thread : Nat) (context : Bool)
  | registerCore (callback : Nat) (registers : Bool)
  | register (thread : Nat) (native : Bool) (plugin : KeelPluginHandle)
    (spec : Option CommandSpec) (output registers : Bool)
  | unregister (thread : Nat) (plugin : KeelPluginHandle) (command : KeelCommandHandle)
  /-- The plugin manager takes a plugin's commands away. -/
  | release (thread : Nat) (owner : KeelPluginHandle)
  | setEnabled (owner : KeelPluginHandle) (enabled : Bool)
  /-- What else the host and the plugin manager do to what is looked at here. -/
  | manage (acceptingResources adapter dispatchOpen : Bool) (plugins : List PluginRecord)

/-- One step: what is done under one hold of `state_mutex_`, or between two. -/
def step (state : State) : Action → State
  | .dispatch thread command =>
    if state.outside thread && (state.record command).isSome then
      state.setStack thread (.called command :: state.callStack thread)
    else state
  | .go thread context => state.go thread context
  | .registerCore callback registers => (state.registerCoreCommand callback registers).2
  | .register thread native plugin spec output registers =>
    if state.outside thread then
      ((if native then state.registerSource2Command plugin spec output registers
        else state.registerCommand plugin spec output registers)).2
    else state
  | .unregister thread plugin command =>
    if state.outside thread then (state.unregisterCommand thread plugin command).2 else state
  | .release thread owner =>
    if state.outside thread then state.removeCommandsOwnedBy thread owner else state
  | .setEnabled owner enabled => state.setCommandsOwnedEnabled owner enabled
  | .manage acceptingResources adapter dispatchOpen plugins =>
    { state with
      acceptingResources := acceptingResources, adapter := adapter
      dispatchOpen := dispatchOpen, plugins := plugins }

/-- The records that the action takes away. -/
def State.removes (state : State) : Action → CommandRecord → Bool
  | .unregister thread plugin command, record =>
    state.outside thread && command ≠ 0 && (state.pluginByHandle plugin).isSome &&
      record.handle == command && record.owner == plugin
  | .release thread owner, record => state.outside thread && record.owner == owner
  | _, _ => false

/-- The thread that takes a command away. -/
def Action.thread : Action → Nat
  | .unregister thread _ _ | .release thread _ => thread
  | _ => 0

/-- A command is taken away only while no dispatch of it is on its way to the callback, and none
is in the callback, except where the callback itself takes it away. -/
def State.Leaves (state : State) (action : Action) : Prop :=
  ∀ record ∈ state.commands, state.removes action record = true →
    ∀ other, ∀ frame ∈ state.callStack other, frame.counted = true →
      frame.command = record.handle →
        frame.isRunning = true ∧ state.inside action.thread record.handle = true

/-! ## What is kept -/

namespace Frame

/-- The dispatch of this command is counted. -/
def holds (command : KeelCommandHandle) (frame : Frame) : Bool :=
  frame.counted && frame.command == command

variable {frame : Frame} {command : KeelCommandHandle}

theorem holds_iff : frame.holds command = true ↔
    frame.counted = true ∧ frame.command = command := by
  simp [holds]

end Frame

namespace State

/-- The command is registered, with this record. -/
def Registered (state : State) (command : KeelCommandHandle) (record : CommandRecord) : Prop :=
  record ∈ state.commands ∧ record.handle = command

/-- What a dispatch counts on where it stands. -/
def Ok (state : State) : Frame → Prop
  | .called _ | .core _ => True
  | .marked command => ∃ record, state.Registered command record
  | .tested command native =>
    ∃ record, state.Registered command record ∧ native = record.nativeCallback.isSome
  | .fetched command callback _ =>
    callback.isSome = true ∧ ∃ record, state.Registered command record
  | .running _ callback _ => callback.isSome = true

structure Safe (state : State) : Prop where
  bounded : state.nextCommand < 2 ^ 64
  fresh : state.nextCommand ≠ 0 → ∀ record ∈ state.records, record.handle < state.nextCommand
  distinct : (state.records.map (·.handle)).Nodup
  known : ∀ thread, ∀ frame ∈ state.callStack thread,
    ∃ record ∈ state.records, record.handle = frame.command
  counted : ∀ record ∈ state.records, Lib.Counts
    (fun thread => (state.callStack thread).countP (Frame.holds record.handle)) record.active
  callable : ∀ record ∈ state.commands,
    record.nativeCallback.isSome = true ∨ record.callback.isSome = true
  disabled : ∀ record ∈ state.retiredCommands, record.enabled = false
  frames : ∀ thread, ∀ frame ∈ state.callStack thread, state.Ok frame
  retired : ∀ command ∈ state.gone, ∃ record ∈ state.retiredCommands, record.handle = command
  isOver : ∀ command ∈ state.gone, ∀ thread, ∀ frame ∈ state.callStack thread,
    frame.holds command = false

variable {state after : State} {thread other : Nat} {frame next : Frame} {frames : List Frame}
variable {record : CommandRecord} {command : KeelCommandHandle}

/-! ## Records -/

theorem mem_records : record ∈ state.records ↔
    record ∈ state.commands ∨ record ∈ state.retiredCommands :=
  List.mem_append

theorem Safe.record_mem (hsafe : Safe state) (hmem : record ∈ state.records) :
    state.record record.handle = some record :=
  Lib.find_of_distinct hsafe.distinct hmem

theorem record_some (hfound : state.record command = some record) :
    record ∈ state.records ∧ record.handle = command := by
  have hhandle := List.find?_some hfound
  exact ⟨List.mem_of_find?_eq_some hfound, by simpa using hhandle⟩

theorem Safe.apart (hsafe : Safe state) {retired : CommandRecord} (hmem : record ∈ state.commands)
    (hretired : retired ∈ state.retiredCommands) : record.handle ≠ retired.handle := by
  have hdistinct := hsafe.distinct
  rw [records, List.map_append, List.nodup_append] at hdistinct
  exact hdistinct.2.2 _ (List.mem_map_of_mem hmem) _ (List.mem_map_of_mem hretired)

theorem Safe.registered_unique (hsafe : Safe state) {first second : CommandRecord}
    (hfirst : state.Registered command first) (hsecond : state.Registered command second) :
    first = second := by
  have hfound := hsafe.record_mem (mem_records.2 (.inl hfirst.1))
  have hfound' := hsafe.record_mem (mem_records.2 (.inl hsecond.1))
  rw [hfirst.2] at hfound
  rw [hsecond.2, hfound] at hfound'
  exact Option.some.inj hfound'

/-- The records are where they were, with other counts, or enabled otherwise. -/
structure Renews (state after : State) (renew renewRetired : CommandRecord → CommandRecord) :
    Prop where
  commands : after.commands = state.commands.map renew
  retiredCommands : after.retiredCommands = state.retiredCommands.map renewRetired
  same : ∀ record, (renew record).handle = record.handle ∧
    (renew record).callback = record.callback ∧
      (renew record).nativeCallback = record.nativeCallback
  sameRetired : ∀ record, (renewRetired record).handle = record.handle ∧
    (renewRetired record).enabled = record.enabled
  nextCommand : after.nextCommand = state.nextCommand
  gone : after.gone = state.gone

variable {renew renewRetired : CommandRecord → CommandRecord}

theorem Renews.handles (hrenews : Renews state after renew renewRetired) :
    after.records.map (·.handle) = state.records.map (·.handle) := by
  rw [records, records, hrenews.commands, hrenews.retiredCommands, List.map_append,
    List.map_append, List.map_map, List.map_map]
  congr 1
  · exact List.map_congr_left fun record _ => (hrenews.same record).1
  · exact List.map_congr_left fun record _ => (hrenews.sameRetired record).1

theorem Renews.registered (hrenews : Renews state after renew renewRetired)
    (hregistered : state.Registered command record) :
    after.Registered command (renew record) := by
  refine ⟨?_, (hrenews.same record).1.trans hregistered.2⟩
  rw [hrenews.commands]
  exact List.mem_map_of_mem hregistered.1

theorem Renews.ok (hrenews : Renews state after renew renewRetired) (hok : state.Ok frame) :
    after.Ok frame := by
  cases frame with
  | marked command =>
    obtain ⟨record, hregistered⟩ := hok
    exact ⟨_, hrenews.registered hregistered⟩
  | tested command native =>
    obtain ⟨record, hregistered, hnative⟩ := hok
    refine ⟨_, hrenews.registered hregistered, ?_⟩
    rw [(hrenews.same record).2.2]
    exact hnative
  | fetched command callback userData =>
    obtain ⟨hsome, record, hregistered⟩ := hok
    exact ⟨hsome, _, hrenews.registered hregistered⟩
  | _ => exact hok

/-! ## A thread moves -/

theorem Safe.moves (hsafe : Safe state) (hrenews : Renews state after renew renewRetired)
    {olds : List Frame} (hstack : state.callStack thread = olds ++ frames) (tops : List Frame)
    (hcallStack : after.callStack = Function.update state.callStack thread (tops ++ frames))
    (hactive : ∀ record ∈ state.commands,
      (renew record).active + olds.countP (Frame.holds record.handle) =
        record.active + tops.countP (Frame.holds record.handle))
    (hactiveRetired : ∀ record ∈ state.retiredCommands,
      (renewRetired record).active + olds.countP (Frame.holds record.handle) =
        record.active + tops.countP (Frame.holds record.handle))
    (htops : ∀ top ∈ tops, state.Ok top ∧
      (∃ record ∈ state.records, record.handle = top.command) ∧
        (top.counted = true → (∃ record, state.Registered top.command record) ∨
          ∃ old ∈ olds, old.counted = true ∧ old.command = top.command)) : Safe after := by
  -- who stands somewhere now, stood there before or has just come
  have hwhere : ∀ other, ∀ frame ∈ after.callStack other,
      frame ∈ tops ∨ ∃ other, frame ∈ state.callStack other := by
    intro other frame hmem
    rw [hcallStack] at hmem
    by_cases hother : other = thread
    · subst hother
      rw [Function.update_self] at hmem
      rcases List.mem_append.1 hmem with htop | hbelow
      · exact .inl htop
      · exact .inr ⟨other, hstack ▸ List.mem_append_right _ hbelow⟩
    · rw [Function.update_of_ne hother] at hmem
      exact .inr ⟨other, hmem⟩
  have hhandles : ∀ command, (∃ record ∈ state.records, record.handle = command) →
      ∃ record ∈ after.records, record.handle = command := by
    intro command hknown
    have hmem : command ∈ state.records.map (·.handle) := by
      obtain ⟨record, hmem, hhandle⟩ := hknown
      exact List.mem_map.2 ⟨record, hmem, hhandle⟩
    rw [← hrenews.handles] at hmem
    exact List.mem_map.1 hmem
  have hback : ∀ record ∈ after.records,
      ∃ old ∈ state.records, old.handle = record.handle := by
    intro record hmem
    have hmem' : record.handle ∈ after.records.map (·.handle) := List.mem_map_of_mem hmem
    rw [hrenews.handles] at hmem'
    exact List.mem_map.1 hmem'
  have hcounts : ∀ record ∈ state.records, ∀ active,
      active + olds.countP (Frame.holds record.handle) =
        record.active + tops.countP (Frame.holds record.handle) →
      Lib.Counts (fun other => (after.callStack other).countP (Frame.holds record.handle))
        active := by
    intro record hmem active hmove
    have hupdate : (fun other => (after.callStack other).countP (Frame.holds record.handle)) =
        Function.update
          (fun other => (state.callStack other).countP (Frame.holds record.handle)) thread
          ((tops ++ frames).countP (Frame.holds record.handle)) := by
      funext other
      rw [hcallStack]
      by_cases hother : other = thread
      · simp [hother]
      · simp [Function.update_of_ne hother]
    rw [hupdate]
    refine (hsafe.counted record hmem).update ?_
    rw [hstack, List.countP_append, List.countP_append]
    omega
  refine ⟨hrenews.nextCommand ▸ hsafe.bounded, ?_, hrenews.handles ▸ hsafe.distinct, ?_, ?_, ?_, ?_,
    ?_, ?_, ?_⟩
  · intro hnext record hmem
    obtain ⟨old, hold, hhandle⟩ := hback record hmem
    rw [hrenews.nextCommand] at hnext ⊢
    exact hhandle ▸ hsafe.fresh hnext old hold
  · intro other frame hmem
    apply hhandles
    rcases hwhere other frame hmem with htop | ⟨before, hbefore⟩
    · exact (htops frame htop).2.1
    · exact hsafe.known before frame hbefore
  · intro record hmem
    rcases mem_records.1 hmem with hcommand | hretired
    · rw [hrenews.commands] at hcommand
      obtain ⟨old, hold, rfl⟩ := List.mem_map.1 hcommand
      rw [(hrenews.same old).1]
      exact hcounts old (mem_records.2 (.inl hold)) _ (hactive old hold)
    · rw [hrenews.retiredCommands] at hretired
      obtain ⟨old, hold, rfl⟩ := List.mem_map.1 hretired
      rw [(hrenews.sameRetired old).1]
      exact hcounts old (mem_records.2 (.inr hold)) _ (hactiveRetired old hold)
  · intro record hmem
    rw [hrenews.commands] at hmem
    obtain ⟨old, hold, rfl⟩ := List.mem_map.1 hmem
    rw [(hrenews.same old).2.1, (hrenews.same old).2.2]
    exact hsafe.callable old hold
  · intro record hmem
    rw [hrenews.retiredCommands] at hmem
    obtain ⟨old, hold, rfl⟩ := List.mem_map.1 hmem
    rw [(hrenews.sameRetired old).2]
    exact hsafe.disabled old hold
  · intro other frame hmem
    apply hrenews.ok
    rcases hwhere other frame hmem with htop | ⟨before, hbefore⟩
    · exact (htops frame htop).1
    · exact hsafe.frames before frame hbefore
  · intro command hgone
    rw [hrenews.gone] at hgone
    obtain ⟨record, hmem, hhandle⟩ := hsafe.retired command hgone
    refine ⟨renewRetired record, ?_, (hrenews.sameRetired record).1.trans hhandle⟩
    rw [hrenews.retiredCommands]
    exact List.mem_map_of_mem hmem
  · intro command hgone other frame hmem
    rw [hrenews.gone] at hgone
    rcases hwhere other frame hmem with htop | ⟨before, hbefore⟩
    · by_contra hholds
      rw [Bool.not_eq_false, Frame.holds_iff] at hholds
      rcases (htops frame htop).2.2 hholds.1 with ⟨record, hregistered⟩ |
        ⟨old, hold, hcounted, hsame⟩
      · obtain ⟨retired, hmem', hhandle⟩ := hsafe.retired command hgone
        apply hsafe.apart hregistered.1 hmem'
        rw [hregistered.2, hhandle, hholds.2]
      · have hover := hsafe.isOver command hgone thread old (hstack ▸ List.mem_append_left _ hold)
        have hholds' : old.holds command = true :=
          Frame.holds_iff.2 ⟨hcounted, hsame.trans hholds.2⟩
        rw [hover] at hholds'
        cases hholds'
    · exact hsafe.isOver command hgone before frame hbefore

theorem renews_refl (stack : Nat → List Frame) :
    Renews state { state with callStack := stack } id id where
  commands := (List.map_id _).symm
  retiredCommands := (List.map_id _).symm
  same := fun _ => ⟨rfl, rfl, rfl⟩
  sameRetired := fun _ => ⟨rfl, rfl⟩
  nextCommand := rfl
  gone := rfl

theorem Safe.exchange (hsafe : Safe state) (hstack : state.callStack thread = frame :: frames)
    (hcommand : next.command = frame.command) (hcounted : next.counted = frame.counted)
    (hok : state.Ok next) : Safe (state.setStack thread (next :: frames)) := by
  have hstack' : state.callStack thread = [frame] ++ frames := hstack
  have hholds : ∀ command, next.holds command = frame.holds command := by
    intro command
    simp [Frame.holds, hcommand, hcounted]
  apply hsafe.moves (renews_refl _) hstack' [next] rfl
  · intro record _
    simp [hholds, id_eq]
  · intro record _
    simp [hholds, id_eq]
  · intro top htop
    rw [List.mem_singleton.1 htop]
    refine ⟨hok, ?_, fun hin => .inr ⟨frame, List.mem_singleton_self _, ?_, hcommand.symm⟩⟩
    · rw [hcommand]
      exact hsafe.known thread frame (hstack ▸ List.mem_cons_self)
    · rw [← hcounted]
      exact hin

theorem Safe.returns (hsafe : Safe state) (hstack : state.callStack thread = frame :: frames)
    (hcounted : frame.counted = false) : Safe (state.setStack thread frames) := by
  have hstack' : state.callStack thread = [frame] ++ frames := hstack
  have hholds : ∀ command, frame.holds command = false := by
    intro command
    simp [Frame.holds, hcounted]
  apply hsafe.moves (renews_refl _) hstack' [] rfl
  · intro record _
    simp [hholds]
  · intro record _
    simp [hholds]
  · intro top htop
    cases htop

/-- The count of one command is another. -/
def recount (command : KeelCommandHandle) (active : Nat → Nat) (record : CommandRecord) :
    CommandRecord :=
  if record.handle = command then { record with active := active record.active } else record

theorem recount_same (active : Nat → Nat) (record : CommandRecord) :
    (recount command active record).handle = record.handle ∧
      (recount command active record).callback = record.callback ∧
        (recount command active record).nativeCallback = record.nativeCallback ∧
          (recount command active record).enabled = record.enabled := by
  unfold recount
  split <;> exact ⟨rfl, rfl, rfl, rfl⟩

theorem renews_recount (active : Nat → Nat) (stack : List Frame) :
    Renews state ((state.modify command fun record =>
      { record with active := active record.active }).setStack thread stack)
        (recount command active) (recount command active) where
  commands := rfl
  retiredCommands := rfl
  same := fun record =>
    have hsame := recount_same active record
    ⟨hsame.1, hsame.2.1, hsame.2.2.1⟩
  sameRetired := fun record =>
    have hsame := recount_same active record
    ⟨hsame.1, hsame.2.2.2⟩
  nextCommand := rfl
  gone := rfl

theorem Safe.enters (hsafe : Safe state) (hstack : state.callStack thread = frame :: frames)
    (hcounted : frame.counted = false) (hregistered : state.Registered command record)
    (hcommand : next.command = command) (hcounted' : next.counted = true) (hok : state.Ok next) :
    Safe ((state.modify command fun record => { record with active := record.active + 1 }).setStack
      thread (next :: frames)) := by
  have hstack' : state.callStack thread = [frame] ++ frames := hstack
  have hactive : ∀ record : CommandRecord,
      (recount command (· + 1) record).active + [frame].countP (Frame.holds record.handle) =
        record.active + [next].countP (Frame.holds record.handle) := by
    intro record
    simp only [List.countP_singleton, Frame.holds, hcounted, hcounted', hcommand, Bool.true_and,
      Bool.false_and, beq_iff_eq, recount]
    by_cases hsame : record.handle = command
    · simp [hsame]
    · simp [hsame, Ne.symm hsame]
  apply hsafe.moves (renews_recount (· + 1) (next :: frames)) hstack' [next] rfl
  · intro record _
    exact hactive record
  · intro record _
    exact hactive record
  · intro top htop
    rw [List.mem_singleton.1 htop, hcommand]
    exact ⟨hok, ⟨record, mem_records.2 (.inl hregistered.1), hregistered.2⟩,
      fun _ => .inl ⟨record, hregistered⟩⟩

theorem Safe.finishes (hsafe : Safe state) (hstack : state.callStack thread = frame :: frames)
    (hcounted : frame.counted = true) : Safe (state.finish thread frame.command frames) := by
  have hstack' : state.callStack thread = [frame] ++ frames := hstack
  have hactive : ∀ record ∈ state.records,
      (recount frame.command (· - 1) record).active + [frame].countP (Frame.holds record.handle) =
        record.active + ([] : List Frame).countP (Frame.holds record.handle) := by
    intro record hmem
    simp only [List.countP_singleton, List.countP_nil, Frame.holds, hcounted, Bool.true_and,
      beq_iff_eq, recount]
    by_cases hsame : record.handle = frame.command
    · have hle := (hsafe.counted record hmem).le thread
      have hholds : frame.holds record.handle = true :=
        Frame.holds_iff.2 ⟨hcounted, hsame.symm⟩
      rw [hstack, List.countP_cons_of_pos hholds] at hle
      simp only [hsame, if_true]
      omega
    · simp [hsame, Ne.symm hsame]
  apply hsafe.moves (renews_recount (· - 1) frames) hstack' [] rfl
  · intro record hmem
    exact hactive record (mem_records.2 (.inl hmem))
  · intro record hmem
    exact hactive record (mem_records.2 (.inr hmem))
  · intro top htop
    cases htop

theorem go_safe (hsafe : Safe state) (thread : Nat) (context : Bool) :
    Safe (state.go thread context) := by
  have hok : ∀ frame frames, state.callStack thread = frame :: frames → state.Ok frame := by
    intro frame frames hstack
    exact hsafe.frames thread frame (by rw [hstack]; exact List.mem_cons_self)
  unfold go
  split
  · exact hsafe
  · rename_i command frames hstack
    split
    · exact hsafe.returns hstack rfl
    · rename_i record hfound
      obtain ⟨hmem, hhandle⟩ := record_some hfound
      split
      · exact hsafe.returns hstack rfl
      · rename_i hopen
        rw [Bool.or_eq_true, Bool.not_eq_true', Bool.not_eq_true', not_or,
          Bool.not_eq_false, Bool.not_eq_false] at hopen
        -- what was unregistered is not enabled
        have hregistered : state.Registered command record := by
          rcases mem_records.1 hmem with hcommand | hretired
          · exact ⟨hcommand, hhandle⟩
          · have hdisabled := hsafe.disabled record hretired
            rw [hopen.2] at hdisabled
            cases hdisabled
        split
        · exact hsafe.enters hstack rfl hregistered rfl rfl trivial
        · exact hsafe.enters hstack rfl hregistered rfl rfl ⟨record, hregistered⟩
  · rename_i command frames hstack
    split
    · exact hsafe
    · rename_i record hfound
      obtain ⟨found, hregistered⟩ := hok (.marked command) frames hstack
      have hrecord := hsafe.record_mem (mem_records.2 (.inl hregistered.1))
      rw [hregistered.2, hfound] at hrecord
      cases hrecord
      exact hsafe.exchange hstack rfl rfl ⟨record, hregistered, rfl⟩
  · rename_i command native frames hstack
    split
    · exact hsafe
    · rename_i record hfound
      obtain ⟨found, hregistered, hnative⟩ := hok (.tested command native) frames hstack
      have hrecord := hsafe.record_mem (mem_records.2 (.inl hregistered.1))
      rw [hregistered.2, hfound] at hrecord
      cases hrecord
      split
      · rename_i hsome
        split
        · exact hsafe.exchange hstack rfl rfl ⟨hnative ▸ hsome, record, hregistered⟩
        · exact hsafe.finishes hstack rfl
      · rename_i hnone
        have hcallback : record.callback.isSome = true := by
          rcases hsafe.callable record hregistered.1 with hnative' | hcallback
          · exact absurd (hnative.trans hnative') hnone
          · exact hcallback
        exact hsafe.exchange hstack rfl rfl ⟨hcallback, record, hregistered⟩
  · rename_i command callback userData frames hstack
    exact hsafe.exchange hstack rfl rfl (hok (.fetched command callback userData) frames hstack).1
  · rename_i command callback userData frames hstack
    exact hsafe.finishes hstack rfl
  · rename_i command frames hstack
    exact hsafe.finishes hstack rfl

/-! ## Commands are taken away -/

theorem retire_handles (thread : Nat) (removed : CommandRecord → Bool) :
    ((state.retire thread removed).records.map (·.handle)).Perm
      (state.records.map (·.handle)) := by
  have hclear : (state.retire thread removed).records.map (·.handle) =
      (state.commands.filter (fun record => !removed record) ++ (state.retiredCommands ++
        state.commands.filter removed)).map (·.handle) := by
    simp [records, retire]
  rw [hclear]
  apply List.Perm.map
  have hparts : (state.commands.filter removed ++
      state.commands.filter fun record => !removed record).Perm state.commands :=
    List.filter_append_perm removed state.commands
  calc state.commands.filter (fun record => !removed record) ++
        (state.retiredCommands ++ state.commands.filter removed)
      _ |>.Perm (state.commands.filter (fun record => !removed record) ++
          (state.commands.filter removed ++ state.retiredCommands)) :=
        List.Perm.append_left _ List.perm_append_comm
      _ |>.Perm ((state.commands.filter (fun record => !removed record) ++
          state.commands.filter removed) ++ state.retiredCommands) := by
        rw [List.append_assoc]
      _ |>.Perm (state.commands ++ state.retiredCommands) :=
        List.Perm.append_right _ (List.perm_append_comm.trans hparts)

theorem Safe.retires (hsafe : Safe state) (thread : Nat) (removed : CommandRecord → Bool)
    (hleaves : ∀ record ∈ state.commands, removed record = true →
      ∀ other, ∀ frame ∈ state.callStack other, frame.counted = true →
        frame.command = record.handle →
          frame.isRunning = true ∧ state.inside thread record.handle = true) :
    Safe (state.retire thread removed) := by
  have hperm : ((state.retire thread removed).records.map (·.handle)).Perm
      (state.records.map (·.handle)) := retire_handles thread removed
  have hback : ∀ record ∈ (state.retire thread removed).records,
      ∃ old ∈ state.records, old.handle = record.handle ∧ old.active = record.active := by
    intro record hmem
    rcases mem_records.1 hmem with hcommand | hretired
    · exact ⟨record, mem_records.2 (.inl (List.mem_filter.1 hcommand).1), rfl, rfl⟩
    · rcases List.mem_append.1 hretired with hbefore | hnew
      · exact ⟨record, mem_records.2 (.inr hbefore), rfl, rfl⟩
      · obtain ⟨old, hold, rfl⟩ := List.mem_map.1 hnew
        exact ⟨old, mem_records.2 (.inl (List.mem_filter.1 hold).1), rfl, rfl⟩
  -- a dispatch on its way to the callback keeps the command registered
  have hstays : ∀ other, ∀ frame ∈ state.callStack other, frame.counted = true →
      frame.isRunning = false → ∀ record, state.Registered frame.command record →
        (state.retire thread removed).Registered frame.command record := by
    intro other frame hmem hcounted hnot record hregistered
    refine ⟨List.mem_filter.2 ⟨hregistered.1, ?_⟩, hregistered.2⟩
    rw [Bool.not_eq_true']
    by_contra hremoved
    rw [Bool.not_eq_false] at hremoved
    have hrunning := hleaves record hregistered.1 hremoved other frame hmem hcounted
      hregistered.2.symm
    rw [hnot] at hrunning
    cases hrunning.1
  refine ⟨hsafe.bounded, ?_, hperm.nodup_iff.2 hsafe.distinct, ?_, ?_, ?_, ?_, ?_, ?_, ?_⟩
  · intro hnext record hmem
    obtain ⟨old, hold, hhandle, _⟩ := hback record hmem
    exact hhandle ▸ hsafe.fresh hnext old hold
  · intro other frame hmem
    obtain ⟨record, hrecord, hhandle⟩ := hsafe.known other frame hmem
    have hin : frame.command ∈ state.records.map (·.handle) :=
      List.mem_map.2 ⟨record, hrecord, hhandle⟩
    exact List.mem_map.1 (hperm.mem_iff.2 hin)
  · intro record hmem
    obtain ⟨old, hold, hhandle, hactive⟩ := hback record hmem
    rw [← hhandle, ← hactive]
    exact hsafe.counted old hold
  · intro record hmem
    exact hsafe.callable record (List.mem_filter.1 hmem).1
  · intro record hmem
    rcases List.mem_append.1 hmem with hbefore | hnew
    · exact hsafe.disabled record hbefore
    · obtain ⟨old, hold, rfl⟩ := List.mem_map.1 hnew
      rfl
  · intro other frame hmem
    have hok := hsafe.frames other frame hmem
    cases frame with
    | marked command =>
      obtain ⟨record, hregistered⟩ := hok
      exact ⟨record, hstays other _ hmem rfl rfl record hregistered⟩
    | tested command native =>
      obtain ⟨record, hregistered, hnative⟩ := hok
      exact ⟨record, hstays other _ hmem rfl rfl record hregistered, hnative⟩
    | fetched command callback userData =>
      obtain ⟨hsome, record, hregistered⟩ := hok
      exact ⟨hsome, record, hstays other _ hmem rfl rfl record hregistered⟩
    | _ => exact hok
  · intro command hgone
    rcases List.mem_append.1 hgone with hbefore | hnew
    · obtain ⟨record, hmem, hhandle⟩ := hsafe.retired command hbefore
      exact ⟨record, List.mem_append_left _ hmem, hhandle⟩
    · obtain ⟨record, hmem, rfl⟩ := List.mem_map.1 (List.mem_filter.1 hnew).1
      exact ⟨_, List.mem_append_right _ (List.mem_map_of_mem hmem), rfl⟩
  · intro command hgone other frame hmem
    rcases List.mem_append.1 hgone with hbefore | hnew
    · exact hsafe.isOver command hbefore other frame hmem
    · obtain ⟨hhandle, houtside⟩ := List.mem_filter.1 hnew
      obtain ⟨record, hrecord, rfl⟩ := List.mem_map.1 hhandle
      obtain ⟨hcommand, hremoved⟩ := List.mem_filter.1 hrecord
      by_contra hholds
      rw [Bool.not_eq_false, Frame.holds_iff] at hholds
      have hinside := (hleaves record hcommand hremoved other frame hmem hholds.1 hholds.2).2
      rw [hinside] at houtside
      cases houtside

/-! ## Commands are registered -/

theorem Safe.advances (hsafe : Safe state) {handle : Nat}
    (hbounded : handle < 2 ^ 64) (hlater : handle ≠ 0 → handle = state.nextCommand + 1)
    (hnext : state.nextCommand ≠ 0) : Safe { state with nextCommand := handle } := by
  refine ⟨hbounded, ?_, hsafe.distinct, hsafe.known, hsafe.counted, hsafe.callable,
    hsafe.disabled, fun other frame hmem => ?_, hsafe.retired, hsafe.isOver⟩
  · intro hmore old hold
    have hlt := hsafe.fresh hnext old hold
    have hhandle := hlater hmore
    change old.handle < handle
    rw [hhandle]
    exact Nat.lt_succ_of_lt hlt
  · cases frame <;> exact hsafe.frames other _ hmem

theorem Safe.adds (hsafe : Safe state)
    (hlower : state.nextCommand ≠ 0 → record.handle < state.nextCommand)
    (hfresh : ∀ old ∈ state.records, old.handle ≠ record.handle) (hactive : record.active = 0)
    (hcallable : record.nativeCallback.isSome = true ∨ record.callback.isSome = true) :
    Safe { state with commands := state.commands ++ [record] } := by
  have hnobody : ∀ other, ∀ frame ∈ state.callStack other, frame.command ≠ record.handle := by
    intro other frame hmem heq
    obtain ⟨old, hold, hsame⟩ := hsafe.known other frame hmem
    exact hfresh old hold (hsame.trans heq)
  have hrecords : ∀ old, old ∈ ({ state with commands := state.commands ++ [record] } :
      State).records ↔ old ∈ state.records ∨ old = record := by
    intro old
    simp only [records, List.mem_append, List.mem_singleton]
    tauto
  refine ⟨hsafe.bounded, ?_, ?_, ?_, ?_, ?_, hsafe.disabled, ?_, hsafe.retired, hsafe.isOver⟩
  · intro hmore old hold
    rcases (hrecords old).1 hold with hbefore | rfl
    · exact hsafe.fresh hmore old hbefore
    · exact hlower hmore
  · have hdistinct : (record.handle :: state.records.map (·.handle)).Nodup := by
      refine List.nodup_cons.2 ⟨?_, hsafe.distinct⟩
      intro hmem
      obtain ⟨old, hold, heq⟩ := List.mem_map.1 hmem
      exact hfresh old hold heq
    refine (List.Perm.nodup_iff ?_).2 hdistinct
    simp only [records, List.map_append, List.map_cons, List.map_nil, List.append_assoc]
    exact List.perm_middle
  · intro other frame hmem
    obtain ⟨old, hold, hsame⟩ := hsafe.known other frame hmem
    exact ⟨old, (hrecords old).2 (.inl hold), hsame⟩
  · intro old hold
    rcases (hrecords old).1 hold with hbefore | rfl
    · exact hsafe.counted old hbefore
    · have hzero : (fun other => (state.callStack other).countP (Frame.holds old.handle)) =
          fun _ => 0 := by
        funext other
        refine List.countP_eq_zero.2 fun frame hmem => ?_
        rw [Frame.holds_iff]
        exact fun hholds => hnobody other frame hmem hholds.2
      rw [hactive]
      exact hzero ▸ Lib.counts_zero
  · intro old hold
    rcases List.mem_append.1 hold with hbefore | hnew
    · exact hsafe.callable old hbefore
    · rw [List.mem_singleton.1 hnew]
      exact hcallable
  · intro other frame hmem
    have hok := hsafe.frames other frame hmem
    cases frame with
    | marked command =>
      obtain ⟨old, hold, hsame⟩ := hok
      exact ⟨old, List.mem_append_left _ hold, hsame⟩
    | tested command native =>
      obtain ⟨old, ⟨hold, hsame⟩, hnative⟩ := hok
      exact ⟨old, ⟨List.mem_append_left _ hold, hsame⟩, hnative⟩
    | fetched command callback userData =>
      obtain ⟨hsome, old, hold, hsame⟩ := hok
      exact ⟨hsome, old, List.mem_append_left _ hold, hsame⟩
    | _ => exact hok

theorem Safe.registers (hsafe : Safe state) (hnext : state.nextCommand ≠ 0)
    (hhandle : record.handle = state.nextCommand) (hactive : record.active = 0)
    (hcallable : record.nativeCallback.isSome = true ∨ record.callback.isSome = true)
    (registers : Bool) : Safe (state.registerCommandRecord record registers).2 := by
  have hfresh : ∀ old ∈ state.records, old.handle ≠ record.handle := by
    intro old hold heq
    have hlt := hsafe.fresh hnext old hold
    rw [heq, hhandle] at hlt
    exact Nat.lt_irrefl _ hlt
  have hbounded := hsafe.bounded
  have hlater : (state.nextCommand + 1) % 2 ^ 64 ≠ 0 →
      (state.nextCommand + 1) % 2 ^ 64 = state.nextCommand + 1 := by
    intro hmore
    omega
  have hadvanced := hsafe.advances (Nat.mod_lt _ (Nat.two_pow_pos 64)) hlater hnext
  unfold registerCommandRecord
  split
  · refine hadvanced.adds (fun hmore => ?_) hfresh hactive hcallable
    rw [hhandle]
    change state.nextCommand < (state.nextCommand + 1) % 2 ^ 64
    rw [hlater hmore]
    exact Nat.lt_succ_self _
  · exact hadvanced

theorem register_safe (hsafe : Safe state) (native : Bool) (plugin : KeelPluginHandle)
    (spec : Option CommandSpec) (output registers : Bool) :
    Safe (state.register native plugin spec output registers).2 := by
  unfold register
  split
  · exact hsafe
  split
  · split
    · split
      · exact hsafe
      split
      · exact hsafe
      split
      · exact hsafe
      · rename_i hnext
        split
        · exact hsafe
        split
        · exact hsafe
        split
        · exact hsafe
        · split <;> rename_i hregistered
          · have hregisters := congrArg Prod.snd hregistered
            exact hregisters ▸ hsafe.registers hnext rfl rfl (by cases native <;> simp) registers
          · have hregisters := congrArg Prod.snd hregistered
            exact hregisters ▸ hsafe.registers hnext rfl rfl (by cases native <;> simp) registers
    · exact hsafe
  · exact hsafe

/-! ## A step -/

theorem Safe.enables (hsafe : Safe state) (owner : KeelPluginHandle) (enabled : Bool) :
    Safe (state.setCommandsOwnedEnabled owner enabled) := by
  have hrenews : Renews state (state.setCommandsOwnedEnabled owner enabled)
      (fun record => if record.owner = owner then { record with enabled := enabled } else record)
      id := by
    refine ⟨rfl, (List.map_id _).symm, fun record => ?_, fun _ => ⟨rfl, rfl⟩, rfl, rfl⟩
    by_cases howner : record.owner = owner
    · rw [if_pos howner]
      exact ⟨rfl, rfl, rfl⟩
    · rw [if_neg howner]
      exact ⟨rfl, rfl, rfl⟩
  have hstack : state.callStack 0 = [] ++ state.callStack 0 := rfl
  apply hsafe.moves hrenews hstack []
  · exact (Function.update_eq_self 0 state.callStack).symm
  · intro record _
    by_cases howner : record.owner = owner
    · rw [if_pos howner]
    · rw [if_neg howner]
  · intro record _
    rfl
  · intro top htop
    cases htop

theorem unregisterCommand_safe (hsafe : Safe state) {plugin : KeelPluginHandle}
    (houtside : state.outside thread = true)
    (hleaves : state.Leaves (.unregister thread plugin command)) :
    Safe (state.unregisterCommand thread plugin command).2 := by
  unfold unregisterCommand
  split
  · exact hsafe
  · rename_i hknown
    rw [not_or] at hknown
    split
    · exact hsafe
    · rename_i record hfound
      split
      · exact hsafe
      · rename_i howner
        apply hsafe.retires
        intro found hmem hremoved
        have hmem' := List.mem_of_find?_eq_some hfound
        have hhandle := List.find?_some hfound
        -- there is no other record of that handle
        have hsame : found = record :=
          hsafe.registered_unique ⟨hmem, by simpa using hremoved⟩ ⟨hmem', by simpa using hhandle⟩
        subst hsame
        apply hleaves found hmem
        simp only [removes, houtside, Bool.true_and, Bool.and_eq_true, beq_iff_eq,
          decide_eq_true_eq]
        refine ⟨⟨⟨hknown.1, ?_⟩, by simpa using hremoved⟩, not_not.1 howner⟩
        rw [← Bool.not_eq_false, Option.isSome_eq_false_iff]
        exact hknown.2

end State

open State in
theorem step_safe {state : State} {action : Action} (hsafe : Safe state)
    (hleaves : state.Leaves action) : Safe (step state action) := by
  cases action with
  | dispatch thread command =>
    simp only [step]
    split
    · rename_i hcalls
      rw [Bool.and_eq_true] at hcalls
      obtain ⟨record, hfound⟩ := Option.isSome_iff_exists.1 hcalls.2
      have hstack : state.callStack thread = [] ++ state.callStack thread := rfl
      apply hsafe.moves (renews_refl _) hstack [.called command] rfl
      · intro record _
        rfl
      · intro record _
        rfl
      · intro top htop
        rw [List.mem_singleton.1 htop]
        exact ⟨trivial, ⟨record, record_some hfound⟩, fun h => by cases h⟩
    · exact hsafe
  | go thread context => exact go_safe hsafe thread context
  | registerCore callback registers =>
    simp only [step, registerCoreCommand]
    split
    · exact hsafe
    · rename_i hnext
      exact hsafe.registers hnext rfl rfl (.inr rfl) registers
  | register thread native plugin spec output registers =>
    simp only [step]
    split
    · split
      · exact register_safe hsafe true plugin spec output registers
      · exact register_safe hsafe false plugin spec output registers
    · exact hsafe
  | unregister thread plugin command =>
    simp only [step]
    split
    · rename_i houtside
      exact unregisterCommand_safe hsafe houtside hleaves
    · exact hsafe
  | release thread owner =>
    simp only [step]
    split
    · rename_i houtside
      apply hsafe.retires
      intro record hmem howner
      exact hleaves record hmem (by simp [removes, houtside, howner])
    · exact hsafe
  | setEnabled owner enabled => exact hsafe.enables owner enabled
  | manage acceptingResources adapter dispatchOpen plugins =>
    exact ⟨hsafe.bounded, hsafe.fresh, hsafe.distinct, hsafe.known, hsafe.counted,
      hsafe.callable, hsafe.disabled, fun other frame hmem => by
        cases frame <;> exact hsafe.frames other _ hmem, hsafe.retired, hsafe.isOver⟩

/-! ## Every run -/

namespace State

/-- What is promised to a plugin whose commands are dispatched, and to one that takes a command
away. -/
structure Sound (state : State) : Prop where
  /-- Who is about to call calls something, of a command that is registered. -/
  starts : ∀ thread frames command callback userData,
    state.callStack thread = .fetched command callback userData :: frames →
      callback.isSome = true ∧ ∃ record ∈ state.commands, record.handle = command
  calls : ∀ thread command callback userData,
    .running command callback userData ∈ state.callStack thread → callback.isSome = true
  /-- Once somebody outside has heard that it is gone, nobody is in it or on the way to it. -/
  isOver : ∀ command ∈ state.gone, ∀ thread, ∀ frame ∈ state.callStack thread,
    frame.counted = true → frame.command ≠ command

theorem Safe.sound {state : State} (hsafe : Safe state) : Sound state := by
  refine ⟨?_, ?_, ?_⟩
  · intro thread frames command callback userData hstack
    obtain ⟨hsome, record, hregistered⟩ := hsafe.frames thread
      (.fetched command callback userData) (by rw [hstack]; exact List.mem_cons_self)
    exact ⟨hsome, record, hregistered⟩
  · intro thread command callback userData hmem
    exact hsafe.frames thread _ hmem
  · intro command hgone thread frame hmem hcounted hsame
    have hover := hsafe.isOver command hgone thread frame hmem
    rw [Frame.holds_iff.2 ⟨hcounted, hsame⟩] at hover
    cases hover

theorem initial_safe : Safe initial where
  bounded := by decide
  fresh := by
    intro _ record hmem
    cases hmem
  distinct := List.nodup_nil
  known := by
    intro thread frame hmem
    cases hmem
  counted := by
    intro record hmem
    cases hmem
  callable := by
    intro record hmem
    cases hmem
  disabled := by
    intro record hmem
    cases hmem
  frames := by
    intro thread frame hmem
    cases hmem
  retired := by
    intro command hmem
    cases hmem
  isOver := by
    intro command hmem
    cases hmem

end State

/-- No dispatch calls a null callback or one that was unregistered before, and who has heard that
a command is gone finds nobody in it: as long as commands are taken away while nobody is in them or
on the way, but for the callback itself. -/
theorem sound_unless_taken (actions : List Action)
    (hheeds : Lib.Heeds step (fun state action => state.Leaves action) State.initial actions) :
    (Lib.run step State.initial actions).Sound :=
  (Lib.Heeds.invariant (fun _ _ hsafe hleaves => step_safe hsafe hleaves) State.initial_safe
    hheeds).sound

/-- A plugin that runs. -/
def runningPlugin : PluginRecord :=
  { PluginRecord.new 1 [] with state := .loaded, acceptingResources := true }

def commandSpec (name : Text) : Option CommandSpec :=
  some ⟨true, some name, none, some 7, 0⟩

/-- A command is registered and unregistered, another one is dispatched. -/
def unregistersAndDispatches : List Action :=
  [.manage true true true [runningPlugin], .register 0 false 1 (commandSpec ['a']) true true,
    .unregister 0 1 1, .register 0 true 1 (commandSpec ['a']) true true, .dispatch 1 1, .go 1 true,
    .dispatch 1 2, .go 1 true, .go 1 true, .go 1 true, .go 1 true]

theorem sound_unless_taken_unregisters :
    (Lib.run step State.initial unregistersAndDispatches).Sound := by
  apply sound_unless_taken
  refine ⟨?_, ?_, ?_, ?_, ?_, ?_, ?_, ?_, ?_, ?_, ?_, trivial⟩
  case refine_3 =>
    intro record _ _ other frame hmem
    cases hmem
  all_goals
    intro record _ hremoved
    cases hremoved

/-- The command is dispatched, and unregistered before its callback is read. -/
def unregistersDispatched : List Action :=
  [.manage true true true [runningPlugin], .register 0 false 1 (commandSpec ['a']) true true,
    .dispatch 1 1, .go 1 true, .unregister 0 1 1, .go 1 true, .go 1 true]

/-- The callback is null then. -/
theorem unregistered_calls_null :
    ¬∀ actions : List Action, (Lib.run step State.initial actions).Sound := by
  intro hall
  have hstarts := (hall unregistersDispatched).starts 1 [] 1 none 0 (by decide)
  cases hstarts.1

end CommandDispatch
end KeelS2.Hosting
