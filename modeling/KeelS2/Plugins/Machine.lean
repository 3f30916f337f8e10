import KeelS2.Plugins.Commands
import KeelS2.Lib.Runs

/-!
# The plugin manager as a machine

Any number of commands are under way, each on a thread of its own or called from a plugin's
callback. The one that has `state_mutex_` takes a step; where it calls a plugin or a service it
gives the lock up, and others go on until it has its answer and the lock again.
-/

namespace KeelS2.Plugins

/-- Where a command stands with the lock. -/
inductive Status
  | working
  | calling
  | answered (answer : Answer)
  | asked (query : Query)
  deriving DecidableEq, Repr

structure Task where
  leaf : Leaf
  callers : List Caller
  status : Status
  gameThread : Bool

/-- No command is under way. -/
def Task.idle : Task where
  leaf := .returned ⟨true, none⟩
  callers := []
  status := .working
  gameThread := false

structure Machine where
  host : Host
  /-- Who has `state_mutex_`. -/
  holder : Option Nat
  tasks : Nat → Task

/-- The host before any plugin was looked for. -/
def Host.initial : Host where
  plugins := []
  disabledPlugins := []
  loadOrder := []
  nextPlugin := 1
  bulkPluginOperation := false
  present := fun _ => false
  dispatch := fun _ _ => false
  held := fun _ _ => false
  commandsEnabled := fun _ => false
  commandsHeld := fun _ => false
  commandActive := fun _ => false
  pinned := fun _ => false
  leased := fun _ => false

def Machine.initial : Machine where
  host := .initial
  holder := none
  tasks := fun _ => .idle

/-! ## One step of the task that has the lock -/

/-- A service's part of a call is done while the lock is released, the rest under it. -/
def Call.ofService : Call → Bool
  | .deactivate _ | .release _ => true
  | _ => false

namespace Host

/-- What a command returns, by its kind. -/
def scriptResult (host : Host) (kind : Kind) (handle : KeelPluginHandle) (ok : Bool) : Result :=
  match kind with
  | .start _ => ⟨ok, if ok then (host.pluginByHandle handle).map (·.handle) else some handle⟩
  | _ => ⟨ok, none⟩

/-- The calls that are left when a turn went on, or the result. -/
def scriptLeaf (host : Host) (kind : Kind) (handle : KeelPluginHandle) (rest : List Call)
    (failed : Bool) : Turn → Leaf
  | .next => .script kind handle rest failed
  | .skipTo target => .script kind handle (rest.dropWhile (· ≠ target)) failed
  | .stop result => .returned (host.scriptResult kind handle result)

/-- A command's turn after its first call. -/
def settle (host : Host) (kind : Kind) (handle : KeelPluginHandle) (failed : Bool)
    (answer : Answer) (call : Call) (rest : List Call) : Host × Leaf :=
  let failed := failed || call.refused answer
  let (after, turn) := host.turn kind handle failed answer call
  (after, after.scriptLeaf kind handle rest failed turn)

end Host

namespace Machine

def setTask (machine : Machine) (thread : Nat) (task : Task) : Machine :=
  { machine with tasks := Function.update machine.tasks thread task }

/-- The task stands where it stood, with the stack a step has left. -/
def goOn (machine : Machine) (thread : Nat) (next : Next) : Machine :=
  let task := machine.tasks thread
  { machine with host := next.host }.setTask thread
    { task with leaf := next.leaf, callers := next.callers, status := .working }

/-- The task gives the lock up for a call. -/
def release (machine : Machine) (thread : Nat) (host : Host) : Machine :=
  let task := machine.tasks thread
  { machine with host := host, holder := none }.setTask thread { task with status := .calling }

/-- What a task that has the lock does next. -/
def work (machine : Machine) (thread : Nat) (files : Files) : Machine :=
  let task := machine.tasks thread
  let host := machine.host
  match task.leaf with
  | .discover _ => machine.release thread host
  | .allLoaded =>
    if host.present .pluginService then machine.release thread host
    else machine.goOn thread ⟨host, .returned ⟨true, none⟩, task.callers⟩
  | .script kind handle [] _ =>
    machine.goOn thread ⟨host, .returned (host.scriptResult kind handle true), task.callers⟩
  | .script kind handle (call :: rest) failed =>
    if host.makes task.gameThread handle call then
      machine.release thread (host.calling handle call)
    else
      let (host, leaf) := host.settle kind handle failed (host.skipped handle call) call rest
      machine.goOn thread ⟨host, leaf, task.callers⟩
  | .returned result =>
    match task.callers with
    | [] => { machine with holder := none }.setTask thread .idle
    | caller :: callers =>
      let next := host.resume files result caller
      machine.goOn thread { next with callers := next.callers ++ callers }

/-- The task has the lock again and goes on with the answer it got. -/
def regain (machine : Machine) (thread : Nat) : Machine :=
  let task := machine.tasks thread
  let host := machine.host
  let taken := { machine with holder := some thread }
  match task.status, task.leaf with
  | .asked query, .discover handle =>
    taken.goOn thread ⟨host.finishDiscover handle query,
      .returned ⟨true, some handle⟩, task.callers⟩
  | .answered answer, .script kind handle (call :: rest) failed =>
    let host := if call.ofService then host else host.called handle call answer
    let (host, leaf) := host.settle kind handle failed answer call rest
    taken.goOn thread ⟨host, leaf, task.callers⟩
  | .answered _, .allLoaded => taken.goOn thread ⟨host, .returned ⟨true, none⟩, task.callers⟩
  | _, _ => machine

/-- The call is over: what it did is done, without the lock. -/
def answer (machine : Machine) (thread : Nat) (answer : Answer) : Machine :=
  let task := machine.tasks thread
  let host := match task.leaf with
    | .script _ handle (call :: _) _ =>
      if call.ofService then machine.host.called handle call answer else machine.host
    | _ => machine.host
  { machine with host := host }.setTask thread { task with status := .answered answer }

end Machine

/-! ## Actions -/

/-- What plugins and services do on their own. -/
inductive Event
  /-- A service is connected to. -/
  | connect (service : Service)
  /-- A plugin registers something with a service. -/
  | acquire (service : Service) (handle : KeelPluginHandle)
  /-- `SetPreparePause` and `SetPrepareUnload`, with a callback or without. -/
  | preparePause (handle : KeelPluginHandle) (callback : Bool)
  | prepareUnload (handle : KeelPluginHandle) (callback : Bool)
  /-- A native operation begins or ends. -/
  | operations (handle : KeelPluginHandle) (count : Nat)
  /-- A command of the plugin begins or ends, its factories are pinned, its publications leased.
  -/
  | uses (commandActive pinned leased : KeelPluginHandle → Bool)

namespace Host

/-- The check of the two functions that set a preparing callback. -/
def takesCallback (plugin : PluginRecord) (callback : Bool) : Bool :=
  !callback || (plugin.acceptingResources && !plugin.transitioning && !plugin.cleanupPending)

def happen (host : Host) : Event → Host
  | .connect service =>
    if host.present service then host
    else
      { host with
        present := fun other => if other = service then true else host.present other
        dispatch := fun other => if other = service then fun _ => false else host.dispatch other
        held := fun other => if other = service then fun _ => false else host.held other }
  | .acquire service handle =>
    match host.pluginByHandle handle with
    | none => host
    | some plugin =>
      if plugin.acceptingResources && host.present service then
        { host with
          held := fun other =>
            if other = service then set (host.held other) handle true else host.held other
          dispatch := fun other =>
            if other = service ∧ plugin.state = .loaded ∧ plugin.loading = false then
              set (host.dispatch other) handle true
            else host.dispatch other }
      else host
  | .preparePause handle callback =>
    host.modify handle fun plugin =>
      if !plugin.preparePauseActive && takesCallback plugin callback then
        { plugin with preparePause := callback }
      else plugin
  | .prepareUnload handle callback =>
    host.modify handle fun plugin =>
      if !plugin.prepareUnloadActive && takesCallback plugin callback then
        { plugin with prepareUnload := callback }
      else plugin
  | .operations handle count =>
    host.modify handle fun plugin => { plugin with activeNativeOperations := count }
  | .uses commandActive pinned leased =>
    { host with commandActive := commandActive, pinned := pinned, leased := leased }

end Host

inductive Action
  | invoke (thread : Nat) (gameThread : Bool) (origin : Origin) (command : Command)
      (files : Files)
  | work (files : Files)
  | answer (thread : Nat) (answer : Answer)
  | asked (thread : Nat) (query : Query)
  | regain (thread : Nat)
  | happen (event : Event)

namespace Machine

/-- One step; an action that cannot be taken changes nothing. -/
def step (machine : Machine) : Action → Machine
  | .invoke thread gameThread origin command files =>
    let task := machine.tasks thread
    match machine.holder, task.leaf, task.callers with
    | none, .returned _, [] =>
      if command.admitted machine.host.bulkPluginOperation origin then
        let next := machine.host.invoke files command
        { machine with host := next.host, holder := some thread }.setTask thread
          ⟨next.leaf, next.callers, .working, gameThread⟩
      else machine
    | _, _, _ => machine
  | .work files =>
    match machine.holder with
    | none => machine
    | some thread => machine.work thread files
  | .answer thread answer =>
    match (machine.tasks thread).status, (machine.tasks thread).leaf with
    | .calling, .discover _ => machine
    | .calling, _ => machine.answer thread answer
    | _, _ => machine
  | .asked thread query =>
    match (machine.tasks thread).status, (machine.tasks thread).leaf with
    | .calling, .discover _ =>
      machine.setTask thread { machine.tasks thread with status := .asked query }
    | _, _ => machine
  | .regain thread =>
    if machine.holder = none then machine.regain thread else machine
  | .happen event =>
    -- what plugins do to the records they do under the lock
    if machine.holder = none then { machine with host := machine.host.happen event } else machine

end Machine
end KeelS2.Plugins
