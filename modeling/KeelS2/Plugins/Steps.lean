import KeelS2.Plugins.Machine

/-!
# The steps of the machine, one by one

`Does` lists what a step can be: an action that cannot be taken, a task that goes elsewhere, a
call, its answer, a turn of a command, a function that goes on or ends. `step_does` says that
there is no other; what every step keeps is proved by the cases.
-/

namespace KeelS2.Plugins

/-- Nothing is under way on the thread. -/
def Task.waits (task : Task) : Bool :=
  match task.leaf, task.callers with
  | .returned _, [] => true
  | _, _ => false

theorem Task.returned_of_waits {task : Task} (h : task.waits = true) :
    (∃ result, task.leaf = .returned result) ∧ task.callers = [] := by
  unfold Task.waits at h
  split at h
  · next result hleaf hcallers => exact ⟨⟨result, hleaf⟩, hcallers⟩
  · cases h

namespace Machine

/-- The host a command has its turn in, once it has its answer. -/
def reached (host : Host) (handle : KeelPluginHandle) (call : Call) (answer : Answer) : Host :=
  if call.ofService then host else host.called handle call answer

inductive Does (machine : Machine) : Action → Machine → Prop
  | idles (action : Action) : Does machine action machine
  | happens (event : Event) (hholder : machine.holder = none) :
    Does machine (.happen event) { machine with host := machine.host.happen event }
  | begins {thread : Nat} {gameThread : Bool} {origin : Origin} {command : Command}
      {files : Files} (hholder : machine.holder = none)
      (hwaits : (machine.tasks thread).waits = true)
      (hadmitted : command.admitted machine.host.bulkPluginOperation origin = true) :
    Does machine (.invoke thread gameThread origin command files)
      ({ machine with
          host := (machine.host.invoke files command).host, holder := some thread }.setTask thread
        ⟨(machine.host.invoke files command).leaf, (machine.host.invoke files command).callers,
          .working, gameThread⟩)
  /-- The lock is given up for a question to a plugin, or for `PublishAllLoaded`. -/
  | waits {thread : Nat} {files : Files} (hholder : machine.holder = some thread)
      (hleaf : (∃ handle, (machine.tasks thread).leaf = .discover handle) ∨
        (machine.tasks thread).leaf = .allLoaded) :
    Does machine (.work files) (machine.release thread machine.host)
  | calls {thread : Nat} {files : Files} {kind : Kind} {handle : KeelPluginHandle} {call : Call}
      {rest : List Call} {failed : Bool} (hholder : machine.holder = some thread)
      (hleaf : (machine.tasks thread).leaf = .script kind handle (call :: rest) failed)
      (hmakes : machine.host.makes (machine.tasks thread).gameThread handle call = true) :
    Does machine (.work files) (machine.release thread (machine.host.calling handle call))
  /-- A call that is not made has its turn all the same. -/
  | skips {thread : Nat} {files : Files} {kind : Kind} {handle : KeelPluginHandle} {call : Call}
      {rest : List Call} {failed : Bool} (hholder : machine.holder = some thread)
      (hleaf : (machine.tasks thread).leaf = .script kind handle (call :: rest) failed)
      (hmakes : machine.host.makes (machine.tasks thread).gameThread handle call = false) :
    Does machine (.work files) (machine.goOn thread
      ⟨(machine.host.settle kind handle failed (machine.host.skipped handle call) call rest).1,
        (machine.host.settle kind handle failed (machine.host.skipped handle call) call rest).2,
        (machine.tasks thread).callers⟩)
  /-- The result is there: the command had no call left, or `PublishAllLoaded` nobody to call. -/
  | returns {thread : Nat} {action : Action} {holder : Option Nat} (result : Result)
      (hleaf : (∃ kind handle failed, (machine.tasks thread).leaf = .script kind handle [] failed ∧
          result = machine.host.scriptResult kind handle true) ∨
        (machine.tasks thread).leaf = .allLoaded ∧ result = ⟨true, none⟩) :
    Does machine action ({ machine with holder := holder }.goOn thread
      ⟨machine.host, .returned result, (machine.tasks thread).callers⟩)
  | ends {thread : Nat} {files : Files} {result : Result} (hholder : machine.holder = some thread)
      (hleaf : (machine.tasks thread).leaf = .returned result)
      (hcallers : (machine.tasks thread).callers = []) :
    Does machine (.work files) ({ machine with holder := none }.setTask thread .idle)
  | resumes {thread : Nat} {files : Files} {result : Result} {caller : Caller}
      {callers : List Caller} (hholder : machine.holder = some thread)
      (hleaf : (machine.tasks thread).leaf = .returned result)
      (hcallers : (machine.tasks thread).callers = caller :: callers) :
    Does machine (.work files) (machine.goOn thread
      { machine.host.resume files result caller with
        callers := (machine.host.resume files result caller).callers ++ callers })
  | answers {thread : Nat} {answer : Answer}
      (hstatus : (machine.tasks thread).status = .calling)
      (hleaf : ∀ handle, (machine.tasks thread).leaf ≠ .discover handle) :
    Does machine (.answer thread answer) (machine.answer thread answer)
  | asks {thread : Nat} {query : Query} {handle : KeelPluginHandle}
      (hstatus : (machine.tasks thread).status = .calling)
      (hleaf : (machine.tasks thread).leaf = .discover handle) :
    Does machine (.asked thread query)
      (machine.setTask thread { machine.tasks thread with status := .asked query })
  | describes {thread : Nat} {query : Query} {handle : KeelPluginHandle}
      (hholder : machine.holder = none) (hstatus : (machine.tasks thread).status = .asked query)
      (hleaf : (machine.tasks thread).leaf = .discover handle) :
    Does machine (.regain thread) ({ machine with holder := some thread }.goOn thread
      ⟨machine.host.finishDiscover handle query, .returned ⟨true, some handle⟩,
        (machine.tasks thread).callers⟩)
  | settles {thread : Nat} {kind : Kind} {handle : KeelPluginHandle} {call : Call}
      {rest : List Call} {failed : Bool} {answer : Answer} (hholder : machine.holder = none)
      (hstatus : (machine.tasks thread).status = .answered answer)
      (hleaf : (machine.tasks thread).leaf = .script kind handle (call :: rest) failed) :
    Does machine (.regain thread) ({ machine with holder := some thread }.goOn thread
      ⟨((reached machine.host handle call answer).settle kind handle failed answer call rest).1,
        ((reached machine.host handle call answer).settle kind handle failed answer call rest).2,
        (machine.tasks thread).callers⟩)

variable {machine : Machine} {thread : Nat}

theorem work_does (hholder : machine.holder = some thread) (files : Files) :
    Does machine (.work files) (machine.work thread files) := by
  unfold work
  dsimp only
  split
  · next handle hleaf => exact .waits hholder (.inl ⟨handle, hleaf⟩)
  · next hleaf =>
    split
    · exact .waits hholder (.inr hleaf)
    · exact .returns ⟨true, none⟩ (.inr ⟨hleaf, rfl⟩)
  · next kind handle failed hleaf => exact .returns _ (.inl ⟨kind, handle, failed, hleaf, rfl⟩)
  · next hleaf =>
    split
    · next hmakes => exact .calls hholder hleaf hmakes
    · next hmakes => exact .skips hholder hleaf (by simpa using hmakes)
  · next hleaf =>
    split
    · next hcallers => exact .ends hholder hleaf hcallers
    · next hcallers => exact .resumes hholder hleaf hcallers

theorem regain_does (hholder : machine.holder = none) (thread : Nat) :
    Does machine (.regain thread) (machine.regain thread) := by
  unfold regain
  dsimp only
  split
  · next hstatus hleaf => exact .describes hholder hstatus hleaf
  · next hstatus hleaf => exact .settles hholder hstatus hleaf
  · next hleaf => exact .returns ⟨true, none⟩ (.inr ⟨hleaf, rfl⟩)
  · exact .idles _

/-- There is no other step. -/
theorem step_does (machine : Machine) (action : Action) :
    Does machine action (machine.step action) := by
  cases action with
  | invoke thread gameThread origin command files =>
    simp only [step]
    split
    · next hholder hleaf hcallers =>
      split
      · next hadmitted =>
        refine .begins hholder ?_ hadmitted
        simp [Task.waits, hleaf, hcallers]
      · exact .idles _
    · exact .idles _
  | work files =>
    cases hholder : machine.holder with
    | none =>
      simp only [step, hholder]
      exact .idles _
    | some thread =>
      simp only [step, hholder]
      exact work_does hholder files
  | answer thread answer =>
    simp only [step]
    split
    · exact .idles _
    · next hstatus hleaf => exact .answers hstatus fun handle hbad => hleaf handle hbad
    · exact .idles _
  | asked thread query =>
    simp only [step]
    split
    · next handle hstatus hleaf => exact .asks hstatus hleaf
    · exact .idles _
  | regain thread =>
    simp only [step]
    split
    · next hholder => exact regain_does hholder thread
    · exact .idles _
  | happen event =>
    simp only [step]
    split
    · next hholder => exact .happens event hholder
    · exact .idles _

end Machine
end KeelS2.Plugins
