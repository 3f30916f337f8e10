import KeelS2.KeelHook.Reference
import KeelS2.KeelHook.Scripts

/-!
# Calling the original by hand

A PRE callback may have the original called instead of leaving that to the dispatch. Here the
two are compared: a callback that calls it and goes on, and one that just goes on. The
dispatch keeps what an earlier OVERRIDE set; the call by hand writes over it.
-/

namespace KeelS2.KeelHook

/-- Plugins as they are, but what one callback does in the PRE phase is `script`. -/
def Environment.replace (plugins : Environment) (chosen : CallbackRecord)
    (script : FrameMemory → Script) : Environment :=
  { plugins with
    behaviour := fun callback seen =>
      if callback = chosen ∧ seen.frame.phase = phasePre then script seen
      else plugins.behaviour callback seen }

/-- Edits what it sees, has the original called, and returns CONTINUE without looking again. -/
def callsOriginal (plugin : KeelPluginHandle) (frame : Nat) (edit : FrameMemory → FrameMemory)
    (seen : FrameMemory) : Script :=
  .callOriginal plugin frame (edit seen) fun memory _ =>
    .done { memory with arguments := [] } (some actionContinue)

/-- Makes the same edits and returns CONTINUE. -/
def leavesOriginal (edit : FrameMemory → FrameMemory) (seen : FrameMemory) : Script :=
  .done (edit seen) (some actionContinue)

/-- What POST callbacks saw, in the order they were called. -/
def postFrames (events : List Event) : List (CallbackRecord × FrameMemory) :=
  events.filterMap fun event =>
    match event with
    | .callback callback seen =>
      if seen.frame.phase = phasePost then some (callback, seen) else none
    | .original _ => none

/-- Two dispatches end alike: the same value goes back, and POST callbacks saw the same. -/
def EndsAlike (first second : NativeReturn × World) : Prop :=
  first.1 = second.1 ∧ postFrames first.2.events = postFrames second.2.events

/-! ## When the two end alike -/

namespace DispatchContext

variable (context : DispatchContext)

/-- What the original returns for these arguments, as `CallFunction` hands it out. -/
def originalValue (arguments : List Cell) : Cell :=
  (callFunction context.lifecycle context.environment.memory context.prototype context.binding
    (context.target.trampoline.map fun original pushed (_ : Unit) => (original pushed, ()))
    arguments (.fresh 0) ()).1

/-- The result after the call by hand: nobody has looked at the edited arguments yet, and
what was in force is gone. -/
def explicitResult (edit : FrameMemory → FrameMemory) (locals : Locals) : Cell :=
  copyValue context.lifecycle context.returnSlot
    (context.originalValue (locals.write context (edit locals.memory)).arguments) locals.result

/-- The result after the dispatch's own call. -/
def implicitResult (edit : FrameMemory → FrameMemory) (locals : Locals) : Cell :=
  if locals.overridden then
    locals.result
  else
    copyValue context.lifecycle context.returnSlot
      (context.originalValue (acceptArguments context.argumentSlots locals.arguments
        (edit locals.memory).arguments)) locals.result

/-- Whether the call by hand is admitted at a callback's turn. -/
def Admits (chosen : CallbackRecord) (edit : FrameMemory → FrameMemory) (locals : Locals)
    (world : World) : Prop :=
  world.registration.enabled chosen.handle ∧ context.callbackDepth < callbackStackSize ∧
    (edit locals.memory).frame.phase = phasePre ∧ locals.decided = false

/-- The local variables behind the turn of the callback that called the original. -/
def explicitTurn (edit : FrameMemory → FrameMemory) (locals : Locals) : Locals :=
  { locals with
    arguments := acceptArguments context.argumentSlots locals.arguments
      (edit locals.memory).arguments
    result := context.explicitResult edit locals
    frame := context.header phasePre
      (carriedFlags true ((edit locals.memory).frame.flags ||| frameOriginalCalled))
      (context.explicitResult edit locals).value
    originalCalled := true }

/-- The local variables behind the turn of the callback that did not. -/
def implicitTurn (edit : FrameMemory → FrameMemory) (locals : Locals) : Locals :=
  { locals with
    arguments := acceptArguments context.argumentSlots locals.arguments
      (edit locals.memory).arguments
    frame := context.header phasePre (carriedFlags false (edit locals.memory).frame.flags)
      locals.result.value }

/-- Behind callbacks that leave the arguments alone and return CONTINUE only the flags they
left in the frame have changed. -/
def pastQuiet (left : CallbackRecord → FrameMemory → FrameMemory) :
    List CallbackRecord → Locals → Locals
  | [], locals => locals
  | callback :: rest, locals =>
    pastQuiet left rest
      { locals with
        frame := context.header phasePre
          (carriedFlags locals.originalCalled (left callback locals.memory).frame.flags)
          locals.result.value }

/-- The two results are the same as far as anyone can tell: the caller gets the same value,
and where POST callbacks look on, they are shown the same. -/
def ResultsAgree (edit : FrameMemory → FrameMemory)
    (left : CallbackRecord → FrameMemory → FrameMemory) (callbacks later : List CallbackRecord)
    (locals : Locals) (world : World) : Prop :=
  if callbacks.any (world.calls phasePost) then
    context.explicitResult edit locals = context.implicitResult edit locals ∧
      (context.pastQuiet left (later.filter (world.calls phasePre))
          (context.explicitTurn edit locals)).frame.flags =
        (context.pastQuiet left (later.filter (world.calls phasePre))
          (context.implicitTurn edit locals)).frame.flags ||| frameOriginalCalled
  else
    storeNativeResult context.lifecycle context.environment.memory.foreign context.returnSlot
        (context.explicitResult edit locals) =
      storeNativeResult context.lifecycle context.environment.memory.foreign context.returnSlot
        (context.implicitResult edit locals)

end DispatchContext

/-! ## The call -/

theorem postFrames_append (events later : List Event) :
    postFrames (events ++ later) = postFrames events ++ postFrames later :=
  List.filterMap_append

theorem postFrames_cons {callback : CallbackRecord} {seen : FrameMemory}
    (hphase : seen.frame.phase = phasePost) (events : List Event) :
    postFrames (.callback callback seen :: events) = (callback, seen) :: postFrames events := by
  simp [postFrames, hphase]

section Copies

variable {lifecycle : Lifecycle} {slot : ValueSlot} {source cell edited : Cell}

theorem copyValue_editOf (hcopies : lifecycle.CopiesSucceed) (hslot : slot.Described)
    (hsource : source.Settled slot) (hedited : edited.EditOf slot cell) :
    copyValue lifecycle slot source edited = copyValue lifecycle slot source cell := by
  by_cases htype : slot.type = valueAggregate
  · have hstorage : copyStorage lifecycle slot source.storage edited.storage =
        copyStorage lifecycle slot source.storage cell.storage := by
      rcases hslot.cases htype with ⟨_, haggregate, hobject⟩ | ⟨_, haggregate, hobject⟩
      · rw [copyStorage_plain _ _ (by simp [haggregate]) hobject,
          copyStorage_plain _ _ (by simp [haggregate]) hobject, hedited.address]
      · have hsome : slot.shape.object.isSome := by simp [hobject]
        rw [copyStorage_object hcopies _ hsome hsource.owned,
          copyStorage_object hcopies _ hsome hsource.owned, hedited.address]
    simp [copyValue, htype, hstorage]
  · simp [copyValue, htype, hedited.scalar htype]

theorem copyValue_isEdit (hcopies : lifecycle.CopiesSucceed) (hslot : slot.Described)
    (hsource : source.Settled slot) (cell : Cell) :
    (copyValue lifecycle slot source cell).EditOf slot cell := by
  by_cases htype : slot.type = valueAggregate
  · refine ⟨?_, fun h => absurd htype h⟩
    simp only [copyValue, htype, ne_eq, not_true_eq_false, if_false]
    rcases hslot.cases htype with ⟨_, haggregate, hobject⟩ | ⟨_, haggregate, hobject⟩
    · rw [copyStorage_plain _ _ (by simp [haggregate]) hobject]
    · have hsome : slot.shape.object.isSome := by simp [hobject]
      rw [copyStorage_object hcopies _ hsome hsource.owned]
  · simp only [copyValue, ne_eq, htype, not_false_eq_true, if_true]
    exact ⟨rfl, fun _ => rfl⟩

theorem Cell.Settled.eq_of_shown {first second : Cell} (hslot : slot.Described)
    (hfirst : first.Settled slot) (hsecond : second.Settled slot)
    (hat : first.EditOf slot cell) (hat' : second.EditOf slot cell)
    (hoperations : first.storage.operations = second.storage.operations)
    (hvalue : first.value = second.value) (hbytes : first.storage.bytes = second.storage.bytes) :
    first = second := by
  have haddress : first.storage.address = second.storage.address :=
    hat.address.trans hat'.address.symm
  have hstorage : first.storage = second.storage := by
    by_cases htype : slot.type = valueAggregate
    · rcases hslot.cases htype with ⟨_, haggregate, hobject⟩ | ⟨_, haggregate, hobject⟩
      · rw [hfirst.plain htype hobject, hsecond.plain htype hobject, haddress, hbytes]
      · -- an object's value says whether it is constructed
        have hsaid := hvalue
        rw [hfirst.bound htype, hsecond.bound htype] at hsaid
        have hconstructed : first.storage.constructed = second.storage.constructed := by
          have hword := congrArg KeelHookValue.aggregateReserved hsaid
          simp only [bindValue, htype, hobject, Option.isSome_some, or_true, and_self,
            if_true] at hword
          cases hone : first.storage.constructed <;> cases htwo : second.storage.constructed <;>
            simp_all [objectConstructed]
        obtain ⟨_, storage⟩ := first
        obtain ⟨_, storage'⟩ := second
        cases storage
        cases storage'
        simp_all
    · rw [hat.scalar htype, hat'.scalar htype]
  obtain ⟨_, _⟩ := first
  obtain ⟨_, _⟩ := second
  simp_all

end Copies

section Call

variable {context : DispatchContext}

theorem originalValue_settled (hcontext : context.Sound) (arguments : List Cell) :
    (context.originalValue arguments).Settled context.returnSlot := by
  unfold DispatchContext.originalValue callFunction
  split
  · exact returnedValue_settled hcontext.conforms.returned hcontext.conforms.returnBinds 0 _
  · exact initializeValue_settled hcontext.conforms.returned hcontext.conforms.returnBinds _ _

theorem originalValue_operations (arguments : List Cell) :
    (context.originalValue arguments).storage.operations = context.binding.returnObject := by
  unfold DispatchContext.originalValue callFunction
  split
  · exact returnedValue_operations _ _ _ _
  · exact prepare_operations _ _ _

variable (context) in
theorem callFunction_originalValue (arguments : List Cell) (world : World) :
    ∃ call, postFrames call = [] ∧
      callFunction context.lifecycle context.environment.memory context.prototype context.binding
          context.target.originalFunction arguments (.fresh 0) world =
        (context.originalValue arguments, world.after call) := by
  unfold DispatchContext.originalValue callFunction DispatchTarget.originalFunction
  cases nativeArguments context.lifecycle
    (pointee context.environment.memory.foreign arguments) context.prototype.argumentSlots
    context.binding.argumentObjects arguments with
  | none => exact ⟨[], rfl, by rw [World.after_nil]⟩
  | some pushed =>
    cases context.target.trampoline with
    | none => exact ⟨[], rfl, by rw [World.after_nil]; rfl⟩
    | some original => exact ⟨[.original _], rfl, rfl⟩

variable {chosen : CallbackRecord} {edit : FrameMemory → FrameMemory} {locals : Locals}

variable (edit) in
theorem explicitResult_settled (hcontext : context.Sound)
    (hresult : locals.result.Settled context.returnSlot) :
    (context.explicitResult edit locals).Settled context.returnSlot :=
  copyValue_settled hcontext.copies hcontext.conforms.returned
    (originalValue_settled hcontext _) hresult

/-- The local variables between the call by hand and the end of the callback. -/
def DispatchContext.calledByHand (context : DispatchContext) (edit : FrameMemory → FrameMemory)
    (locals : Locals) : Locals :=
  let written := locals.write context (edit locals.memory)
  let result := context.explicitResult edit locals
  { written with
    result
    frame := { written.frame with
      result := result.value
      flags := written.frame.flags ||| frameOriginalCalled }
    originalCalled := true }

variable (chosen) in
theorem callOriginalControl_admitted (hcontext : context.Sound)
    (hphase : (edit locals.memory).frame.phase = phasePre) (hdecided : locals.decided = false)
    (world : World) :
    ∃ call, postFrames call = [] ∧
      callOriginalControl context chosen chosen.owner context.depth
          (locals.write context (edit locals.memory)) world =
        (.ok, context.calledByHand edit locals, world.after call) := by
  set written := locals.write context (edit locals.memory) with hwritten
  obtain ⟨call, hnone, hcall⟩ :=
    callFunction_originalValue context written.arguments world
  have hcurrent : currentControl context chosen chosen.owner context.depth = true := by
    simp [currentControl]
  have hopen : ¬ (written.originalCalled || written.superseded) = true := by
    have : (locals.originalCalled || locals.superseded) = false := hdecided
    simpa [hwritten, Locals.write] using this
  have hcopy : copyValue context.lifecycle context.returnSlot
      (context.originalValue written.arguments) written.result =
        context.explicitResult edit locals :=
    copyValue_editOf hcontext.copies hcontext.conforms.returned
      (originalValue_settled hcontext _)
      ⟨AggregateStorage.write_address _ _ _, fun h => AggregateStorage.write_scalar h _ _ _⟩
  have hpre : ¬ written.frame.phase ≠ phasePre := not_not_intro hphase
  refine ⟨call, hnone, ?_⟩
  rw [callOriginalControl, if_neg (by simp [hcurrent]), if_neg hpre, if_neg hopen, hcall]
  dsimp only
  rw [hcopy]
  rfl

theorem calledByHand_write_self (hcontext : context.Sound)
    (hresult : locals.result.Settled context.returnSlot) :
    (context.calledByHand edit locals).write context
        { (context.calledByHand edit locals).memory with arguments := [] } =
      context.calledByHand edit locals := by
  have hself := (explicitResult_settled edit hcontext hresult).write_self
    (context.explicitResult edit locals).value
  unfold Locals.write
  simp only [writeArguments_nil]
  exact congrArg (fun storage => { context.calledByHand edit locals with
    result := ⟨(context.explicitResult edit locals).value, storage⟩ }) hself

/-- `ValidateFrame` behind such a callback looks at the arguments only then. -/
theorem validateFrame_calledByHand (hcontext : context.Sound)
    (hrested : locals.Rested context phasePre) :
    validateFrame context phasePre (snapshotValues context locals)
        (context.calledByHand edit locals) =
      context.explicitTurn edit locals := by
  have harguments := validateArguments_eq_acceptArguments hcontext.copies
    hcontext.conforms.described hrested.arguments (locals.arguments.map fun _ => .fresh 0)
    (edit locals.memory).arguments (by simp)
  have hresult : validateValue context.lifecycle context.returnSlot
      (snapshotValues context locals).result (context.explicitResult edit locals) =
        context.explicitResult edit locals :=
    (explicitResult_settled edit hcontext hrested.result).validateValue_self
      hcontext.conforms.returned _
  have hedited : (context.calledByHand edit locals).edited =
      context.explicitResult edit locals := rfl
  rw [validateFrame, hedited, hresult]
  exact congrArg (fun arguments => { context.explicitTurn edit locals with arguments }) harguments

theorem preTurn_explicit (hcontext : context.Sound) (hrested : locals.Rested context phasePre)
    {world : World} (hadmits : context.Admits chosen edit locals world)
    (hbehaves : context.environment.behaviour chosen locals.memory =
      callsOriginal chosen.owner context.depth edit locals.memory) :
    ∃ call, postFrames call = [] ∧
      preTurn context chosen locals world =
        (context.explicitTurn edit locals,
          (world.record (.callback chosen locals.memory)).after call) := by
  obtain ⟨henabled, hroom, hphase, hdecided⟩ := hadmits
  obtain ⟨call, hnone, hcall⟩ := callOriginalControl_admitted chosen hcontext hphase hdecided
    (world.record (.callback chosen locals.memory))
  have hscript : runScript context chosen (callsOriginal chosen.owner context.depth edit
      locals.memory) locals (world.record (.callback chosen locals.memory)) =
        (some actionContinue, context.calledByHand edit locals,
          (world.record (.callback chosen locals.memory)).after call) := by
    rw [callsOriginal, runScript, hcall]
    dsimp only
    rw [runScript, calledByHand_write_self hcontext hrested.result]
  have hfirst : locals.originalCalled = false := by
    have hopen : (locals.originalCalled || locals.superseded) = false := hdecided
    simp at hopen
    exact hopen.1
  refine ⟨call, hnone, ?_⟩
  rw [preTurn, invokeCallback, if_neg (by simpa using henabled), if_neg (by omega), hbehaves,
    hscript]
  dsimp only
  rw [validateFrame_calledByHand hcontext hrested, hfirst]
  rfl

theorem explicitTurn_rested (hcontext : context.Sound) (hrested : locals.Rested context phasePre) :
    (context.explicitTurn edit locals).Rested context phasePre := by
  refine ⟨acceptArguments_passable hcontext.conforms.described hrested.arguments _,
    explicitResult_settled edit hcontext hrested.result, ?_, ?_⟩
  · exact copyValue_operations hcontext.copies hcontext.conforms.returned
      (originalValue_settled hcontext _) hcontext.conforms.returnBinds
      (originalValue_operations _) hrested.operations
  · simp [DispatchContext.explicitTurn, DispatchContext.header, carriedFlags_carriedFlags]

theorem preTurn_implicit (hcontext : context.Sound) (hrested : locals.Rested context phasePre)
    {world : World} (hadmits : context.Admits chosen edit locals world)
    (hbehaves : context.environment.behaviour chosen locals.memory =
      leavesOriginal edit locals.memory) :
    preTurn context chosen locals world =
        (context.implicitTurn edit locals, world.record (.callback chosen locals.memory)) ∧
      (context.implicitTurn edit locals).Rested context phasePre := by
  obtain ⟨henabled, hroom, -, hdecided⟩ := hadmits
  have hturn := preTurn_plain hcontext hrested world henabled hroom hbehaves
  have hfirst : locals.originalCalled = false := by
    have hopen : (locals.originalCalled || locals.superseded) = false := hdecided
    simp at hopen
    exact hopen.1
  have hafter : locals.afterPre context (edit locals.memory) actionContinue =
      context.implicitTurn edit locals := by
    simp [Locals.afterPre, Locals.after, actionContinue, actionOverride, actionSupersede,
      DispatchContext.implicitTurn, hfirst]
  rw [← hafter]
  exact ⟨hturn, hrested.afterPre hcontext _ _⟩

end Call

/-! ## The callbacks behind it -/

/-- A callback that leaves the arguments alone and returns CONTINUE. -/
structure Quiet (plugins : CallbackRecord → FrameMemory → Script)
    (left : CallbackRecord → FrameMemory → FrameMemory) (callback : CallbackRecord) : Prop where
  goesOn : ∀ seen : FrameMemory, seen.frame.phase = phasePre →
    plugins callback seen = .done (left callback seen) (some actionContinue)
  untouched : ∀ seen : FrameMemory, seen.frame.phase = phasePre →
    (left callback seen).arguments = seen.arguments

/-- Arguments that were not touched are accepted as they are. -/
theorem acceptArguments_self {slots : List ValueSlot} {cells : List Cell}
    (hslots : ∀ slot ∈ slots, slot.Described) (hcells : List.Forall₂ Cell.Passable slots cells) :
    acceptArguments slots cells (cells.map fun cell => (cell.value, cell.storage.bytes)) =
      cells := by
  induction hcells with
  | nil => rfl
  | @cons slot cell slots cells hcell _ ih =>
    have hvalid := hcell.toSettled.valid (hslots slot List.mem_cons_self)
    have hrest := ih fun other hother => hslots other (List.mem_cons_of_mem _ hother)
    rw [List.map_cons, acceptArguments, hrest, acceptEdit, Cell.write,
      hcell.toSettled.write_self, hvalid]
    rfl

section Later

variable {context : DispatchContext} {left : CallbackRecord → FrameMemory → FrameMemory}
  {locals : Locals}

theorem preTurn_quiet (hcontext : context.Sound) (hrested : locals.Rested context phasePre)
    (world : World) {callback : CallbackRecord}
    (henabled : world.registration.enabled callback.handle)
    (hroom : context.callbackDepth < callbackStackSize)
    (hquiet : Quiet context.environment.behaviour left callback) :
    preTurn context callback locals world =
        (context.pastQuiet left [callback] locals,
          world.record (.callback callback locals.memory)) ∧
      (context.pastQuiet left [callback] locals).Rested context phasePre := by
  have hphase : locals.memory.frame.phase = phasePre := by
    show locals.frame.phase = phasePre
    rw [hrested.frame]
    rfl
  have hturn := preTurn_plain hcontext hrested world henabled hroom (hquiet.goesOn _ hphase)
  have hsame : acceptArguments context.argumentSlots locals.arguments
      (left callback locals.memory).arguments = locals.arguments := by
    rw [hquiet.untouched _ hphase]
    exact acceptArguments_self hcontext.conforms.described hrested.arguments
  have hafter : locals.afterPre context (left callback locals.memory) actionContinue =
      context.pastQuiet left [callback] locals := by
    simp [Locals.afterPre, Locals.after, actionContinue, actionOverride, actionSupersede,
      DispatchContext.pastQuiet, hsame]
  rw [← hafter]
  exact ⟨hturn, hrested.afterPre hcontext _ _⟩

theorem pastQuiet_cons (callback : CallbackRecord) (rest : List CallbackRecord)
    (locals : Locals) :
    context.pastQuiet left (callback :: rest) locals =
      context.pastQuiet left rest (context.pastQuiet left [callback] locals) := rfl

theorem pastQuiet_eq (callbacks : List CallbackRecord) :
    ∀ locals, context.pastQuiet left callbacks locals =
      { locals with frame := (context.pastQuiet left callbacks locals).frame } := by
  induction callbacks with
  | nil => exact fun _ => rfl
  | cons callback rest ih =>
    intro locals
    rw [pastQuiet_cons, ih]
    rfl

theorem preLoop_quiet (hcontext : context.Sound) (hroom : context.callbackDepth < callbackStackSize)
    {callbacks : List CallbackRecord}
    (hquiet : ∀ callback ∈ callbacks, callback.runsIn phasePre →
      Quiet context.environment.behaviour left callback) :
    ∀ (locals : Locals) (world : World), locals.Rested context phasePre →
      locals.recalled = false →
      ∃ events, postFrames events = [] ∧
        preLoop context callbacks locals world =
          (context.pastQuiet left (callbacks.filter (world.calls phasePre)) locals,
            world.after events) ∧
        (context.pastQuiet left (callbacks.filter (world.calls phasePre)) locals).Rested context
          phasePre := by
  induction callbacks with
  | nil =>
    intro locals world hrested _
    exact ⟨[], rfl, by rw [World.after_nil]; rfl, hrested⟩
  | cons callback rest ih =>
    intro locals world hrested hrecalled
    have hrest := ih fun other hother => hquiet other (List.mem_cons_of_mem _ hother)
    cases hphase : callback.runsIn phasePre with
    | false =>
      rw [preLoop_skip _ _ _ hphase, List.filter_cons_of_neg
        fun h => by simp [(World.calls_iff.mp h).2] at hphase]
      exact hrest locals world hrested hrecalled
    | true =>
      by_cases henabled : world.registration.enabled callback.handle
      · obtain ⟨hturn, hrested'⟩ := preTurn_quiet hcontext hrested world henabled hroom
          (hquiet callback List.mem_cons_self hphase)
        have hrecalled' : (context.pastQuiet left [callback] locals).recalled = false := hrecalled
        obtain ⟨events, hnone, hloop, hrested''⟩ :=
          hrest _ (world.record (.callback callback locals.memory)) hrested' hrecalled'
        have hshown : postFrames [Event.callback callback locals.memory] = [] := by
          have hpre : locals.memory.frame.phase = phasePre := by
            show locals.frame.phase = phasePre
            rw [hrested.frame]
            rfl
          simp [postFrames, hpre, phasePre, phasePost]
        rw [List.filter_cons_of_pos (World.calls_iff.mpr ⟨henabled, hphase⟩), pastQuiet_cons]
        refine ⟨.callback callback locals.memory :: events, ?_, ?_, hrested''⟩
        · rw [← List.singleton_append, postFrames_append, hshown, hnone]
          rfl
        · rw [preLoop_turn _ _ _ hphase (by rw [hturn]; exact hrecalled'), hturn]
          dsimp only
          rw [hloop, World.record, World.after_after]
          rfl
      · have hturn : preTurn context callback locals world = (locals, world) :=
          preTurn_disabled hcontext hrested (by simpa using henabled)
        rw [List.filter_cons_of_neg fun h => henabled (World.calls_iff.mp h).1,
          preLoop_turn _ _ _ hphase (by rw [hturn]; exact hrecalled), hturn]
        exact hrest locals world hrested hrecalled

/-- Quiet callbacks never have the target called again, whatever state they find. -/
theorem preLoop_quiet_recalled {callbacks : List CallbackRecord}
    (hquiet : ∀ callback ∈ callbacks, callback.runsIn phasePre →
      Quiet context.environment.behaviour left callback) :
    ∀ locals world, locals.frame.phase = phasePre →
      (preLoop context callbacks locals world).1.recalled = locals.recalled := by
  induction callbacks with
  | nil => exact fun _ _ _ => rfl
  | cons callback rest ih =>
    intro locals world hlocals
    have hrest := ih fun other hother => hquiet other (List.mem_cons_of_mem _ hother)
    cases hphase : callback.runsIn phasePre with
    | false =>
      rw [preLoop_skip _ _ _ hphase]
      exact hrest locals world hlocals
    | true =>
      have hturned : (preTurn context callback locals world).1.recalled = locals.recalled := by
        rw [preTurn_recalled, invokeCallback,
          (hquiet callback List.mem_cons_self hphase).goesOn locals.memory hlocals]
        split_ifs <;> rfl
      cases hturn : (preTurn context callback locals world).1.recalled with
      | true => rw [preLoop_recalled _ _ _ hphase hturn, hturned]
      | false =>
        rw [preLoop_turn _ _ _ hphase hturn, hrest _ _ (preTurn_phase _ _ _), hturned]

end Later

/-! ## A call that is refused -/

section Refused

variable {context : DispatchContext} {chosen : CallbackRecord}
  {edit : FrameMemory → FrameMemory} {locals : Locals} {world : World}

theorem Locals.write_again (left : FrameMemory) :
    (locals.write context left).write context
        { (locals.write context left).memory with arguments := [] } =
      locals.write context left := by
  have hagain := @AggregateStorage.write_again context.returnSlot locals.result.storage
    left.frame.result left.resultBytes
  unfold Locals.write
  simp only [writeArguments_nil]
  exact congrArg (fun storage => { locals.write context left with
    result := ⟨locals.result.value, storage⟩ }) hagain

theorem invokeCallback_refused {plugins : CallbackRecord → FrameMemory → Script}
    {closure closure' : Option (RecallState → NativeFunction World)}
    {plugins' : CallbackRecord → FrameMemory → Script}
    (hrefused : ¬ context.Admits chosen edit locals world)
    (hcalls : plugins chosen locals.memory =
      callsOriginal chosen.owner context.depth edit locals.memory)
    (hleaves : plugins' chosen locals.memory = leavesOriginal edit locals.memory) :
    invokeCallback (context.under plugins closure) chosen locals world =
      invokeCallback (context.under plugins' closure') chosen locals world := by
  unfold invokeCallback
  by_cases henabled : (!world.registration.enabled chosen.handle) = true
  · rw [if_pos henabled, if_pos henabled]
  by_cases hfull : context.callbackDepth ≥ callbackStackSize
  · have hfull' := fun behaviour closure =>
      show (context.under behaviour closure).callbackDepth ≥ callbackStackSize from hfull
    rw [if_neg henabled, if_neg henabled, if_pos (hfull' _ _), if_pos (hfull' _ _)]
  have hroom := fun behaviour closure =>
    show ¬ (context.under behaviour closure).callbackDepth ≥ callbackStackSize from hfull
  have hcalls' : (context.under plugins closure).environment.behaviour chosen locals.memory =
      callsOriginal chosen.owner context.depth edit locals.memory := hcalls
  have hleaves' : (context.under plugins' closure').environment.behaviour chosen locals.memory =
      leavesOriginal edit locals.memory := hleaves
  rw [if_neg henabled, if_neg henabled, if_neg (hroom _ _), if_neg (hroom _ _), hcalls', hleaves']
  -- either the phase was spoilt or the original is decided
  have hanswer : ∃ answer, callOriginalControl (context.under plugins closure) chosen chosen.owner
      context.depth (locals.write context (edit locals.memory))
      (world.record (.callback chosen locals.memory)) =
        (answer, locals.write context (edit locals.memory),
          world.record (.callback chosen locals.memory)) := by
    have hcurrent : ¬ (!currentControl (context.under plugins closure) chosen chosen.owner
        context.depth) = true := by
      have hdepth : (context.under plugins closure).depth = context.depth := rfl
      simp [currentControl, hdepth]
    by_cases hphase : (locals.write context (edit locals.memory)).frame.phase ≠ phasePre
    · exact ⟨.unsupported, by rw [callOriginalControl, if_neg hcurrent, if_pos hphase]⟩
    · have hdecided : ((locals.write context (edit locals.memory)).originalCalled ||
          (locals.write context (edit locals.memory)).superseded) = true := by
        by_contra hopen
        exact hrefused ⟨by simpa using henabled, by omega, not_not.mp hphase,
          by simpa [Locals.decided, Locals.write] using hopen⟩
      exact ⟨.alreadyExists, by
        rw [callOriginalControl, if_neg hcurrent, if_neg hphase, if_pos hdecided]⟩
  obtain ⟨answer, hanswer⟩ := hanswer
  have hscript : runScript (context.under plugins closure) chosen
      (callsOriginal chosen.owner context.depth edit locals.memory) locals
      (world.record (.callback chosen locals.memory)) =
        (some actionContinue, locals.write context (edit locals.memory),
          world.record (.callback chosen locals.memory)) := by
    rw [callsOriginal, runScript]
    rw [show locals.write (context.under plugins closure) (edit locals.memory) =
      locals.write context (edit locals.memory) from rfl, hanswer]
    dsimp only
    rw [runScript]
    exact congrArg (fun locals => (some actionContinue, locals,
      world.record (.callback chosen _))) (Locals.write_again (edit locals.memory))
  rw [hscript]
  rfl

end Refused

/-! ## The POST phase of the two -/

section Post

variable {context : DispatchContext} {locals : Locals}

theorem DispatchContext.Sound.under (hcontext : context.Sound)
    (behaviour : CallbackRecord → FrameMemory → Script)
    (closure : Option (RecallState → NativeFunction World)) :
    (context.under behaviour closure).Sound :=
  ⟨hcontext.conforms, hcontext.copies⟩

theorem Locals.Rested.under {phase : Nat} (hrested : locals.Rested context phase)
    (behaviour : CallbackRecord → FrameMemory → Script)
    (closure : Option (RecallState → NativeFunction World)) :
    locals.Rested (context.under behaviour closure) phase :=
  ⟨hrested.arguments, hrested.result, hrested.operations, hrested.frame⟩

theorem Locals.Rested.enterPost (hrested : locals.Rested context phasePre) :
    locals.enterPost.Rested context phasePost := by
  refine ⟨hrested.arguments, hrested.result, hrested.operations, ?_⟩
  have hflags : locals.frame.flags = carriedFlags locals.originalCalled locals.frame.flags :=
    congrArg KeelHookFrame.flags hrested.frame
  show { locals.frame with phase := phasePost, result := locals.result.value } = _
  rw [hrested.frame]
  simp [DispatchContext.header, Locals.enterPost, ← hflags]

theorem postLoop_idle (hcontext : context.Sound) (hrested : locals.Rested context phasePost)
    (world : World) {callbacks : List CallbackRecord}
    (hnone : callbacks.any (world.calls phasePost) = false) :
    postLoop context callbacks locals world = (locals, world) := by
  induction callbacks with
  | nil => rfl
  | cons callback rest ih =>
    rw [List.any_cons, Bool.or_eq_false_iff] at hnone
    rw [postLoop]
    by_cases hphase : callback.runsIn phasePost
    · have hdisabled : world.registration.enabled callback.handle = false := by
        simpa [World.calls, hphase] using hnone.1
      rw [if_neg (by simp [hphase]), postTurn_disabled hcontext hrested hdisabled]
      exact ih hnone.2
    · rw [if_pos (by simpa using hphase)]
      exact ih hnone.2

/-- The first thing a POST loop does is to show the local variables as they are. -/
theorem postLoop_first (hcontext : context.Sound)
    (hroom : context.callbackDepth < callbackStackSize)
    (plugins : CallbackRecord → FrameMemory → Script)
    (hrested : locals.Rested context phasePost) (hdecided : locals.decided)
    {registration : Registration} {first : CallbackRecord} {callbacks : List CallbackRecord}
    (hfirst : callbacks.find? (World.calls ⟨registration, []⟩ phasePost) = some first) :
    ∃ locals' registration' rest, ∀ behaviour closure events,
      (∀ callback (seen : FrameMemory), seen.frame.phase = phasePost →
        behaviour callback seen = plugins callback seen) →
      postLoop (context.under behaviour closure) callbacks locals ⟨registration, events⟩ =
        (locals', ⟨registration', events ++ .callback first locals.memory :: rest⟩) := by
  have hphase : locals.frame.phase = phasePost := by
    rw [hrested.frame]
    rfl
  induction callbacks with
  | nil => simp at hfirst
  | cons callback later ih =>
    by_cases hcalls : World.calls ⟨registration, []⟩ phasePost callback
    · obtain ⟨henabled, hruns⟩ := World.calls_iff.mp hcalls
      rw [List.find?_cons_of_pos hcalls, Option.some_inj] at hfirst
      subst hfirst
      obtain ⟨middle, between, shown, hdecided', hphase', hshown, hturn⟩ :=
        postTurn_decided context plugins callback registration hdecided hphase
      obtain ⟨locals', registration', rest, hrest⟩ :=
        postLoop_decided context plugins later middle between hdecided' hphase'
      rw [hshown henabled hroom] at hturn
      refine ⟨locals', registration', rest, fun behaviour closure events hbehaves => ?_⟩
      rw [postLoop, if_neg (by simp [hruns]), hturn behaviour closure events (hbehaves callback)]
      dsimp only
      rw [hrest behaviour closure _ hbehaves, List.append_assoc]
      rfl
    · rw [List.find?_cons_of_neg hcalls] at hfirst
      obtain ⟨locals', registration', rest, hrest⟩ := ih hfirst
      refine ⟨locals', registration', rest, fun behaviour closure events hbehaves => ?_⟩
      rw [← hrest behaviour closure events hbehaves, postLoop]
      by_cases hruns : callback.runsIn phasePost
      · have hdisabled : registration.enabled callback.handle = false := by
          simpa [World.calls, hruns] using hcalls
        rw [if_neg (by simp [hruns]), postTurn_disabled (hcontext.under behaviour closure)
          (hrested.under behaviour closure) hdisabled]
      · rw [if_pos (by simpa using hruns)]

/-- The end of a dispatch as far as its caller and its POST callbacks can tell. -/
def DispatchContext.ending (context : DispatchContext) (run : Locals × World) :
    NativeReturn × World :=
  (storeNativeResult context.lifecycle context.environment.memory.foreign context.returnSlot
    run.1.result, run.2)

/-- **Two POST phases compared.** They end alike exactly if they start alike, where anybody
looks. -/
theorem postLoop_endsAlike_iff (hcontext : context.Sound)
    (hroom : context.callbackDepth < callbackStackSize) {first second : Locals} (home : Cell)
    (hfirst : first.Rested context phasePost) (hsecond : second.Rested context phasePost)
    (hdecided : first.decided)
    (hskeleton : second = { first with result := second.result, frame := second.frame })
    (hat : first.result.EditOf context.returnSlot home)
    (hat' : second.result.EditOf context.returnSlot home)
    (plugins : CallbackRecord → FrameMemory → Script) (callbacks : List CallbackRecord)
    (registration : Registration) {events events' : List Event}
    (hevents : postFrames events = postFrames events')
    {behaviour behaviour' : CallbackRecord → FrameMemory → Script}
    (hbehaves : ∀ callback (seen : FrameMemory), seen.frame.phase = phasePost →
      behaviour callback seen = plugins callback seen)
    (hbehaves' : ∀ callback (seen : FrameMemory), seen.frame.phase = phasePost →
      behaviour' callback seen = plugins callback seen)
    (closure closure' : Option (RecallState → NativeFunction World)) :
    EndsAlike
        (context.ending (postLoop (context.under behaviour closure) callbacks first
          ⟨registration, events⟩))
        (context.ending (postLoop (context.under behaviour' closure') callbacks second
          ⟨registration, events'⟩)) ↔
      if callbacks.any (World.calls ⟨registration, []⟩ phasePost) then
        first.result = second.result ∧ first.frame.flags = second.frame.flags
      else
        storeNativeResult context.lifecycle context.environment.memory.foreign context.returnSlot
            first.result =
          storeNativeResult context.lifecycle context.environment.memory.foreign
            context.returnSlot second.result := by
  have hdecided' : second.decided := by
    rw [hskeleton]
    exact hdecided
  cases hany : callbacks.any (World.calls ⟨registration, []⟩ phasePost) with
  | false =>
    rw [postLoop_idle (hcontext.under behaviour closure) (hfirst.under _ _)
        ⟨registration, events⟩ hany,
      postLoop_idle (hcontext.under behaviour' closure') (hsecond.under _ _)
        ⟨registration, events'⟩ hany]
    simp only [Bool.false_eq_true, if_false]
    exact ⟨fun h => h.1, fun h => ⟨h, hevents⟩⟩
  | true =>
    obtain ⟨called, hcalled⟩ : ∃ called,
        callbacks.find? (World.calls ⟨registration, []⟩ phasePost) = some called := by
      rw [← Option.isSome_iff_exists, List.find?_isSome]
      simpa using hany
    simp only [if_true]
    constructor
    · intro hends
      obtain ⟨_, _, rest, hrun⟩ :=
        postLoop_first hcontext hroom plugins hfirst hdecided hcalled
      obtain ⟨_, _, rest', hrun'⟩ :=
        postLoop_first hcontext hroom plugins hsecond hdecided' hcalled
      have hframes := hends.2
      rw [hrun _ _ _ hbehaves, hrun' _ _ _ hbehaves'] at hframes
      have hphase : first.memory.frame.phase = phasePost := by
        show first.frame.phase = phasePost
        rw [hfirst.frame]
        rfl
      have hphase' : second.memory.frame.phase = phasePost := by
        show second.frame.phase = phasePost
        rw [hsecond.frame]
        rfl
      simp only [DispatchContext.ending, postFrames_append, hevents, List.append_cancel_left_eq,
        postFrames_cons hphase, postFrames_cons hphase', List.cons.injEq, Prod.mk.injEq,
        true_and] at hframes
      have hframe : first.frame = second.frame := congrArg FrameMemory.frame hframes.1
      have hbytes : first.result.storage.bytes = second.result.storage.bytes :=
        congrArg FrameMemory.resultBytes hframes.1
      have hvalue : first.result.value = second.result.value := by
        have hresult := congrArg KeelHookFrame.result hframe
        rw [hfirst.frame, hsecond.frame] at hresult
        exact hresult
      exact ⟨hfirst.result.eq_of_shown hcontext.conforms.returned hsecond.result hat hat'
        (hfirst.operations.trans hsecond.operations.symm) hvalue hbytes, by rw [hframe]⟩
    · rintro ⟨hresult, hflags⟩
      have hcalledSame : second.originalCalled = first.originalCalled := by rw [hskeleton]
      have hframe : second.frame = first.frame := by
        rw [hfirst.frame, hsecond.frame, hresult, hflags, hcalledSame]
      have hsame : second = first := by
        rw [hskeleton, hframe, ← hresult]
      obtain ⟨_, _, rest, hrun⟩ :=
        postLoop_first hcontext hroom plugins hfirst hdecided hcalled
      rw [hsame, hrun _ _ _ hbehaves, hrun _ _ _ hbehaves']
      refine ⟨rfl, ?_⟩
      simp [DispatchContext.ending, postFrames_append, hevents]

end Post

/-! ## The dispatch's own call -/

section Implicit

variable {context : DispatchContext} {locals : Locals}

theorem implicitOriginal_closed (hclosed : locals.decided ∨ locals.recalled) (world : World) :
    implicitOriginal context locals world = (locals, world) := by
  rw [implicitOriginal, if_neg]
  unfold Locals.decided at hclosed
  cases hcalled : locals.originalCalled <;> cases hsuperseded : locals.superseded <;>
    simp_all

/-- The local variables behind the dispatch's own call. -/
def DispatchContext.calledByDispatch (context : DispatchContext) (locals : Locals) : Locals :=
  { locals with
    originalCalled := true
    result := if !locals.overridden then
        copyValue context.lifecycle context.returnSlot (context.originalValue locals.arguments)
          locals.result
      else
        locals.result
    frame := { locals.frame with flags := locals.frame.flags ||| frameOriginalCalled } }

variable (context) in
theorem implicitOriginal_uncalled (hdecided : locals.decided = false)
    (hrecalled : locals.recalled = false) (world : World) :
    ∃ call, postFrames call = [] ∧
      implicitOriginal context locals world =
        (context.calledByDispatch locals, world.after call) := by
  obtain ⟨call, hnone, hcall⟩ := callFunction_originalValue context locals.arguments world
  have hopen : locals.originalCalled = false ∧ locals.superseded = false := by
    simpa [Locals.decided] using hdecided
  refine ⟨call, hnone, ?_⟩
  rw [implicitOriginal, if_pos (by simp [hopen, hrecalled]), hcall]
  rfl

theorem implicitOriginal_decides (context : DispatchContext) (locals : Locals) (world : World)
    (hrecalled : (implicitOriginal context locals world).1.recalled = false) :
    (implicitOriginal context locals world).1.decided := by
  by_cases hclosed : locals.decided ∨ locals.recalled
  · rw [implicitOriginal_closed hclosed] at hrecalled ⊢
    exact hclosed.resolve_right (by simpa using hrecalled)
  · rw [not_or] at hclosed
    obtain ⟨call, -, hcall⟩ := implicitOriginal_uncalled context
      (by simpa using hclosed.1) (by simpa using hclosed.2) world
    rw [hcall]
    rfl

theorem calledByDispatch_rested (hcontext : context.Sound)
    (hrested : locals.Rested context phasePre) (hcalled : locals.originalCalled = false) :
    (context.calledByDispatch locals).enterPost.Rested context phasePost := by
  have hflags : locals.frame.flags = carriedFlags false locals.frame.flags := by
    have hframe := congrArg KeelHookFrame.flags hrested.frame
    rw [hcalled] at hframe
    exact hframe
  refine ⟨hrested.arguments, ?_, ?_, ?_⟩
  · show (if !locals.overridden then _ else _ : Cell).Settled _
    split
    · exact copyValue_settled hcontext.copies hcontext.conforms.returned
        (originalValue_settled hcontext _) hrested.result
    · exact hrested.result
  · show (if !locals.overridden then _ else _ : Cell).storage.operations = _
    split
    · exact copyValue_operations hcontext.copies hcontext.conforms.returned
        (originalValue_settled hcontext _) hcontext.conforms.returnBinds
        (originalValue_operations _) hrested.operations
    · exact hrested.operations
  · simp only [DispatchContext.calledByDispatch, Locals.enterPost, DispatchContext.header]
    rw [hflags, carriedFlags_originalCalled, ← hflags]
    exact congrArg (fun frame : KeelHookFrame => { frame with
      phase := phasePost, flags := locals.frame.flags ||| frameOriginalCalled,
      result := (context.calledByDispatch locals).result.value }) hrested.frame

end Implicit

/-! ## The two dispatches -/

section Replace

variable {plugins : Environment} {chosen : CallbackRecord} {script : FrameMemory → Script}

theorem Environment.replace_other {callback : CallbackRecord} (hother : callback ≠ chosen) :
    (plugins.replace chosen script).behaviour callback = plugins.behaviour callback := by
  funext seen
  simp [Environment.replace, hother]

theorem Environment.replace_post (callback : CallbackRecord) (seen : FrameMemory)
    (hphase : seen.frame.phase = phasePost) :
    (plugins.replace chosen script).behaviour callback seen = plugins.behaviour callback seen := by
  simp [Environment.replace, hphase, phasePre, phasePost]

theorem Environment.replace_pre {seen : FrameMemory} (hphase : seen.frame.phase = phasePre) :
    (plugins.replace chosen script).behaviour chosen seen = script seen := by
  simp [Environment.replace, hphase]

theorem Quiet.replace {left : CallbackRecord → FrameMemory → FrameMemory}
    {callback : CallbackRecord} (hquiet : Quiet plugins.behaviour left callback)
    (hother : callback ≠ chosen) :
    Quiet (plugins.replace chosen script).behaviour left callback := by
  refine ⟨fun seen hphase => ?_, hquiet.untouched⟩
  rw [Environment.replace_other hother]
  exact hquiet.goesOn seen hphase

theorem recallClosure_isSome (environment environment' : Environment) (target : DispatchTarget)
    (room depth callbackDepth : Nat) :
    (recallClosure environment target room depth callbackDepth).isSome =
      (recallClosure environment' target room depth callbackDepth).isSome := by
  rcases room with _ | _ | room <;>
    simp [recallClosure]

end Replace

section Compared

variable {context : DispatchContext}

/-- The dispatch behind its PRE loop. -/
def DispatchContext.finish (context : DispatchContext) (callbacks : List CallbackRecord)
    (run : Locals × World) : Locals × World :=
  let (locals, world) := implicitOriginal context run.1 run.2
  postPhase context callbacks locals world

theorem implicitOriginal_under (behaviour : CallbackRecord → FrameMemory → Script)
    (closure : Option (RecallState → NativeFunction World)) (locals : Locals) (world : World) :
    implicitOriginal (context.under behaviour closure) locals world =
      implicitOriginal context locals world := rfl

theorem finish_same (plugins : CallbackRecord → FrameMemory → Script)
    {behaviour behaviour' : CallbackRecord → FrameMemory → Script}
    (hbehaves : ∀ callback (seen : FrameMemory), seen.frame.phase = phasePost →
      behaviour callback seen = plugins callback seen)
    (hbehaves' : ∀ callback (seen : FrameMemory), seen.frame.phase = phasePost →
      behaviour' callback seen = plugins callback seen)
    (closure closure' : Option (RecallState → NativeFunction World))
    (callbacks : List CallbackRecord) (run : Locals × World) :
    (context.under behaviour closure).finish callbacks run =
      (context.under behaviour' closure').finish callbacks run := by
  have hdecides := implicitOriginal_decides context run.1 run.2
  unfold DispatchContext.finish
  rw [implicitOriginal_under, implicitOriginal_under]
  generalize implicitOriginal context run.1 run.2 = middle at hdecides
  obtain ⟨locals, registration, events⟩ := middle
  dsimp only at hdecides ⊢
  unfold postPhase
  cases hrecalled : locals.recalled with
  | true => rw [if_pos rfl, if_pos rfl]
  | false =>
    rw [if_neg (by decide), if_neg (by decide)]
    obtain ⟨locals', registration', seen, hpost⟩ := postLoop_decided context plugins
      callbacks.reverse locals.enterPost registration (hdecides hrecalled) rfl
    rw [hpost behaviour closure events hbehaves, hpost behaviour' closure' events hbehaves']

/-- Where the call by hand is not admitted, the two runs are one from the callback's turn on. -/
theorem preLoop_refused {plugins plugins' : CallbackRecord → FrameMemory → Script}
    {closure closure' : Option (RecallState → NativeFunction World)}
    (hclosure : closure'.isSome = closure.isSome) {chosen : CallbackRecord}
    {edit : FrameMemory → FrameMemory} {locals : Locals} {world : World}
    (hpre : chosen.runsIn phasePre) (hrecalled : locals.recalled = false)
    (hrefused : ¬ context.Admits chosen edit locals world)
    (hcalls : plugins chosen locals.memory =
      callsOriginal chosen.owner context.depth edit locals.memory)
    (hleaves : plugins' chosen locals.memory = leavesOriginal edit locals.memory)
    {left : CallbackRecord → FrameMemory → FrameMemory} {later : List CallbackRecord}
    (hlater : ∀ callback ∈ later, callback.runsIn phasePre → Quiet plugins' left callback)
    (hsame : ∀ callback ∈ later, plugins callback = plugins' callback) :
    preLoop (context.under plugins closure) (chosen :: later) locals world =
      preLoop (context.under plugins' closure') (chosen :: later) locals world := by
  have hinvoked : invokeCallback (context.under plugins closure) chosen locals world =
      invokeCallback (context.under plugins' closure') chosen locals world :=
    invokeCallback_refused hrefused hcalls hleaves
  have hturn : preTurn (context.under plugins closure) chosen locals world =
      preTurn (context.under plugins' closure') chosen locals world := by
    unfold preTurn
    rw [hinvoked]
    rfl
  have hstill : (preTurn (context.under plugins' closure') chosen locals world).1.recalled =
      false := by
    have hleaves' : (context.under plugins' closure').environment.behaviour chosen
        locals.memory = leavesOriginal edit locals.memory := hleaves
    rw [preTurn_recalled, invokeCallback, hleaves']
    split_ifs <;> exact hrecalled
  rw [preLoop_turn _ _ _ hpre (by rw [hturn]; exact hstill), preLoop_turn _ _ _ hpre hstill, hturn]
  refine preLoop_unrecalled hclosure hsame _ _ ?_
  have hquiet : ∀ callback ∈ later, callback.runsIn phasePre →
      Quiet (context.under plugins' closure').environment.behaviour left callback := hlater
  rw [preLoop_quiet_recalled hquiet _ _ (preTurn_phase _ _ _)]
  exact hstill

end Compared

section Main

variable {plugins : Environment} {target : DispatchTarget} {binding : PrototypeBinding}
  {room depth callbackDepth : Nat} {recallState : Option RecallState}
    {received : List NativeArgument}
  {world : World} {earlier later : List CallbackRecord} {chosen : CallbackRecord}
  {edit : FrameMemory → FrameMemory} {left : CallbackRecord → FrameMemory → FrameMemory}

variable {context : DispatchContext} {locals : Locals}

theorem locals_rested (hcontext : context.Sound)
    (hrecall : ∀ state, recallState = some state → state.result.Settled context.returnSlot ∧
      state.result.storage.operations = context.binding.returnObject) :
    (context.locals recallState (context.received received)
      (context.initialResult recallState)).Rested context phasePre := by
  have hresult : (context.initialResult recallState).Settled context.returnSlot ∧
      (context.initialResult recallState).storage.operations = context.binding.returnObject := by
    cases recallState with
    | none => exact ⟨initialResult_settled hcontext, initialResult_operations⟩
    | some state =>
      obtain ⟨hsettled, hoperations⟩ := hrecall state rfl
      have hfresh := initialResult_settled hcontext
      unfold DispatchContext.initialResult
      dsimp only
      split
      · exact ⟨copyValue_settled hcontext.copies hcontext.conforms.returned hsettled hfresh,
          copyValue_operations hcontext.copies hcontext.conforms.returned hsettled
            hcontext.conforms.returnBinds hoperations initialResult_operations⟩
      · exact ⟨hfresh, initialResult_operations⟩
  refine ⟨received_passable hcontext received, hresult.1, hresult.2, ?_⟩
  have hflags : carriedFlags false frameRecalled = frameRecalled := by decide
  have hnone : carriedFlags false 0 = 0 := by decide
  cases recallState with
  | none => simp [DispatchContext.locals, DispatchContext.header, hnone]
  | some state => simp [DispatchContext.locals, DispatchContext.header, hflags]

theorem dispatch_replace (script : FrameMemory → Script)
    (hbinding : world.registration.binding = some binding) (hroom : 0 < room)
    (hdepth : depth < dispatchStackSize) :
    let context := dispatchContext plugins target binding room depth callbackDepth
    let changed := context.under (plugins.replace chosen script).behaviour
      (recallClosure (plugins.replace chosen script) target room depth callbackDepth)
    let callbacks := sortCallbacks world.registration.callbacks
    dispatch (plugins.replace chosen script) target room depth callbackDepth recallState received
        world =
      context.ending (changed.finish callbacks
        (preLoop changed (preCallbacks callbacks recallState)
          (context.locals recallState (context.received received)
            (context.initialResult recallState))
          world)) := by
  intro context changed callbacks
  have hfull : ¬ ((room == 0) = true ∨ (dispatchContext (plugins.replace chosen script) target
      binding room depth callbackDepth).depth ≥ dispatchStackSize) := by
    simp [dispatchContext]
    omega
  rw [dispatch_of_binding hbinding, dispatchBound, if_neg hfull]
  rfl

/-- The chosen callback's turn: what the callbacks before it leave. -/
def DispatchContext.turnOf (context : DispatchContext) (recallState : Option RecallState)
    (received : List NativeArgument) (earlier : List CallbackRecord) (world : World) :
    Locals × World :=
  preLoop context earlier
    (context.locals recallState (context.received received)
    (context.initialResult recallState)) world

section Under

variable {context : DispatchContext} (behaviour : CallbackRecord → FrameMemory → Script)
  (closure : Option (RecallState → NativeFunction World))

@[simp]
theorem DispatchContext.explicitTurn_under (locals : Locals) :
    (context.under behaviour closure).explicitTurn edit locals =
      context.explicitTurn edit locals := rfl

@[simp]
theorem DispatchContext.implicitTurn_under (locals : Locals) :
    (context.under behaviour closure).implicitTurn edit locals =
      context.implicitTurn edit locals := rfl

@[simp]
theorem DispatchContext.pastQuiet_under (callbacks : List CallbackRecord) :
    ∀ locals, (context.under behaviour closure).pastQuiet left callbacks locals =
      context.pastQuiet left callbacks locals := by
  induction callbacks with
  | nil => exact fun _ => rfl
  | cons callback rest ih => exact fun locals => ih _

end Under

theorem finish_called (hcalled : locals.originalCalled) (hrecalled : locals.recalled = false)
    (callbacks : List CallbackRecord) (world : World) :
    context.finish callbacks (locals, world) =
      postLoop context callbacks.reverse locals.enterPost world := by
  unfold DispatchContext.finish
  rw [implicitOriginal_closed (.inl (by simp [Locals.decided, hcalled]))]
  dsimp only
  rw [postPhase, if_neg (by simp [hrecalled])]

theorem finish_uncalled (context : DispatchContext) (hdecided : locals.decided = false)
    (hrecalled : locals.recalled = false) (callbacks : List CallbackRecord) (world : World) :
    ∃ call, postFrames call = [] ∧
      context.finish callbacks (locals, world) =
        postLoop context callbacks.reverse (context.calledByDispatch locals).enterPost
          (world.after call) := by
  obtain ⟨call, hnone, hcall⟩ := implicitOriginal_uncalled context hdecided hrecalled world
  refine ⟨call, hnone, ?_⟩
  have hrecalled' : (context.calledByDispatch locals).recalled = false := hrecalled
  unfold DispatchContext.finish
  rw [hcall]
  dsimp only
  rw [postPhase, if_neg (by simp [hrecalled'])]

theorem preLoop_explicit (hcontext : context.Sound) {world : World}
    (hrested : locals.Rested context phasePre) (hrecalled : locals.recalled = false)
    (hadmits : context.Admits chosen edit locals world) (hpre : chosen.runsIn phasePre)
    (hcalls : context.environment.behaviour chosen locals.memory = callsOriginal chosen.owner
      context.depth edit locals.memory)
    (hlater : ∀ callback ∈ later, callback.runsIn phasePre → Quiet context.environment.behaviour
      left callback) :
    ∃ events, postFrames events = [] ∧
      preLoop context (chosen :: later) locals world =
        (context.pastQuiet left (later.filter (world.calls phasePre))
          (context.explicitTurn edit locals),
          world.after (.callback chosen locals.memory :: events)) ∧
      (context.pastQuiet left (later.filter (world.calls phasePre))
        (context.explicitTurn edit locals)).Rested context phasePre := by
  obtain ⟨call, hcall, hturn⟩ := preTurn_explicit hcontext hrested hadmits hcalls
  obtain ⟨events, hevents, hloop, hrested'⟩ := preLoop_quiet hcontext hadmits.2.1 hlater
    (context.explicitTurn edit locals)
    ((world.record (.callback chosen locals.memory)).after call)
    (explicitTurn_rested hcontext hrested) hrecalled
  refine ⟨call ++ events, by rw [postFrames_append, hcall, hevents]; rfl, ?_, hrested'⟩
  rw [preLoop_turn _ _ _ hpre (by rw [hturn]; exact hrecalled), hturn]
  dsimp only
  rw [hloop, World.record, World.after_after, World.after_after]
  rfl

theorem preLoop_implicit (hcontext : context.Sound) {world : World}
    (hrested : locals.Rested context phasePre) (hrecalled : locals.recalled = false)
    (hadmits : context.Admits chosen edit locals world) (hpre : chosen.runsIn phasePre)
    (hleaves : context.environment.behaviour chosen locals.memory = leavesOriginal edit
      locals.memory)
    (hlater : ∀ callback ∈ later, callback.runsIn phasePre → Quiet context.environment.behaviour
      left callback) :
    ∃ events, postFrames events = [] ∧
      preLoop context (chosen :: later) locals world =
        (context.pastQuiet left (later.filter (world.calls phasePre))
          (context.implicitTurn edit locals),
          world.after (.callback chosen locals.memory :: events)) ∧
      (context.pastQuiet left (later.filter (world.calls phasePre))
        (context.implicitTurn edit locals)).Rested context phasePre := by
  obtain ⟨hturn, hrested'⟩ := preTurn_implicit hcontext hrested hadmits hleaves
  obtain ⟨events, hevents, hloop, hrested''⟩ := preLoop_quiet hcontext hadmits.2.1 hlater
    (context.implicitTurn edit locals) (world.record (.callback chosen locals.memory))
    hrested' hrecalled
  refine ⟨events, hevents, ?_, hrested''⟩
  rw [preLoop_turn _ _ _ hpre (by rw [hturn]; exact hrecalled), hturn]
  dsimp only
  rw [hloop, World.record, World.after_after]
  rfl

theorem admitted_endsAlike_iff (hcontext : context.Sound) {world : World}
    (hrested : locals.Rested context phasePre) (hrecalled : locals.recalled = false)
    (hadmits : context.Admits chosen edit locals world) (hpre : chosen.runsIn phasePre)
    {explicit implicit : CallbackRecord → FrameMemory → Script}
    (hcalls : explicit chosen locals.memory = callsOriginal chosen.owner context.depth edit
      locals.memory)
    (hleaves : implicit chosen locals.memory = leavesOriginal edit locals.memory)
    (plugins : CallbackRecord → FrameMemory → Script)
    (hexplicit : ∀ callback (seen : FrameMemory), seen.frame.phase = phasePost → explicit callback
      seen = plugins callback seen)
    (himplicit : ∀ callback (seen : FrameMemory), seen.frame.phase = phasePost → implicit callback
      seen = plugins callback seen)
    (hlater : ∀ callback ∈ later, callback.runsIn phasePre → Quiet explicit left callback)
    (hlater' : ∀ callback ∈ later, callback.runsIn phasePre → Quiet implicit left callback)
    (closure closure' : Option (RecallState → NativeFunction World))
    (callbacks : List CallbackRecord) :
    EndsAlike
        (context.ending ((context.under explicit closure).finish callbacks
          (preLoop (context.under explicit closure) (chosen :: later) locals world)))
        (context.ending ((context.under implicit closure').finish callbacks
          (preLoop (context.under implicit closure') (chosen :: later) locals world))) ↔
      context.ResultsAgree edit left callbacks later locals world := by
  have hroom := hadmits.2.1
  have hopen : locals.originalCalled = false ∧ locals.superseded = false := by
    simpa [Locals.decided] using hadmits.2.2.2
  -- the two PRE loops
  obtain ⟨events, hevents, hloop, hrestedE⟩ := preLoop_explicit
    (hcontext.under explicit closure) (hrested.under explicit closure) hrecalled hadmits hpre
    hcalls hlater
  obtain ⟨events', hevents', hloop', hrestedI⟩ := preLoop_implicit
    (hcontext.under implicit closure') (hrested.under implicit closure') hrecalled hadmits hpre
    hleaves hlater'
  simp only [DispatchContext.explicitTurn_under, DispatchContext.implicitTurn_under,
    DispatchContext.pastQuiet_under] at hloop hloop' hrestedE hrestedI
  set quiet := later.filter (world.calls phasePre)
  set first := context.pastQuiet left quiet (context.explicitTurn edit locals) with hfirst
  set second := context.pastQuiet left quiet (context.implicitTurn edit locals) with hsecond
  have hfirstEq : first = { context.explicitTurn edit locals with frame := first.frame } :=
    pastQuiet_eq _ _
  have hsecondEq : second = { context.implicitTurn edit locals with frame := second.frame } :=
    pastQuiet_eq _ _
  have hcalled : first.originalCalled = true := by
    rw [hfirstEq]
    rfl
  have huncalled : second.originalCalled = false := by
    rw [hsecondEq]
    exact hopen.1
  have hundecided : second.decided = false := by
    rw [hsecondEq]
    exact hadmits.2.2.2
  -- the original in the second run
  obtain ⟨call, hcall, hfinish'⟩ := finish_uncalled (context.under implicit closure') hundecided
    (by rw [hsecondEq]; exact hrecalled) callbacks
    (world.after (.callback chosen locals.memory :: events'))
  rw [hloop, hloop', finish_called hcalled (by rw [hfirstEq]; exact hrecalled), hfinish']
  have hresult : (context.calledByDispatch second).result =
      context.implicitResult edit locals := by
    rw [hsecondEq]
    show (if !locals.overridden then _ else locals.result) = _
    rw [DispatchContext.implicitResult]
    by_cases hoverridden : locals.overridden = true
    · rw [if_neg (by simp [hoverridden]), if_pos hoverridden]
    · rw [if_pos (by simpa using hoverridden), if_neg hoverridden]
      rfl
  have hat : (context.implicitResult edit locals).EditOf context.returnSlot locals.result := by
    unfold DispatchContext.implicitResult
    split
    · exact ⟨rfl, fun _ => rfl⟩
    · exact copyValue_isEdit hcontext.copies hcontext.conforms.returned
        (originalValue_settled hcontext _) _
  have hrestedFirst : first.Rested context phasePre :=
    hrestedE.under context.environment.behaviour context.closure
  have hrestedSecond : second.Rested context phasePre :=
    hrestedI.under context.environment.behaviour context.closure
  have hskeleton : (context.calledByDispatch second).enterPost =
      { first.enterPost with
        result := (context.calledByDispatch second).enterPost.result
        frame := (context.calledByDispatch second).enterPost.frame } := by
    rw [hfirstEq, hsecondEq]
    rfl
  have hfirstResult : first.enterPost.result = context.explicitResult edit locals := by
    rw [hfirstEq]
    rfl
  have hsecondResult : (context.calledByDispatch second).enterPost.result =
      context.implicitResult edit locals := hresult
  have hshown := fun (shown : List Event) (hshown : postFrames shown = []) =>
    show postFrames (world.events ++ .callback chosen locals.memory :: shown) =
        postFrames world.events by
      have hphase : locals.memory.frame.phase ≠ phasePost := by
        show locals.frame.phase ≠ phasePost
        rw [hrested.frame]
        show phasePre ≠ phasePost
        decide
      have hone : postFrames [Event.callback chosen locals.memory] = [] := by
        simp [postFrames, hphase]
      rw [← List.singleton_append, postFrames_append, postFrames_append, hone, hshown]
      simp
  have hcompared := postLoop_endsAlike_iff hcontext hroom locals.result
    hrestedFirst.enterPost
    (calledByDispatch_rested hcontext hrestedSecond huncalled)
    (show first.enterPost.decided by simp [Locals.decided, Locals.enterPost, hcalled])
    hskeleton
    (by
      rw [hfirstResult]
      exact copyValue_isEdit hcontext.copies hcontext.conforms.returned
        (originalValue_settled hcontext _) _)
    (by
      rw [hsecondResult]
      exact hat)
    plugins callbacks.reverse world.registration
    ((hshown events hevents).trans ((postFrames_append _ call).trans
      (by rw [hshown events' hevents', hcall, List.append_nil])).symm)
    hexplicit himplicit closure closure'
  rw [List.any_reverse, hfirstResult, hsecondResult] at hcompared
  exact hcompared

/-- **When calling the original by hand makes no difference.** A callback that calls the
original and returns CONTINUE, followed by callbacks that leave the arguments alone and return
CONTINUE, is compared with one that leaves the call to the dispatch. The two end alike exactly
if the call is refused or the two results agree. -/
theorem callsOriginal_endsAlike_iff (hconforms : target.prototype.Conforms binding)
    (hcopies : plugins.lifecycle.CopiesSucceed)
    (hbinding : world.registration.binding = some binding) (hroom : 0 < room)
    (hdepth : depth < dispatchStackSize)
    (hrecall : ∀ state, recallState = some state →
      state.result.Settled target.prototype.returnSlot ∧
        state.result.storage.operations = binding.returnObject)
    (hnodup : world.registration.callbacks.Nodup)
    (hcallbacks : preCallbacks (sortCallbacks world.registration.callbacks) recallState =
      earlier ++ chosen :: later)
    (hpre : chosen.runsIn phasePre)
    (hreached : ((dispatchContext plugins target binding room depth callbackDepth).turnOf
    recallState
      received earlier world).1.recalled = false)
    (hlater : ∀ callback ∈ later, callback.runsIn phasePre →
      Quiet plugins.behaviour left callback) :
    let context := dispatchContext plugins target binding room depth callbackDepth
    let turn := context.turnOf recallState received earlier world
    EndsAlike
        (dispatch (plugins.replace chosen (callsOriginal chosen.owner depth edit)) target room
          depth callbackDepth recallState received world)
        (dispatch (plugins.replace chosen (leavesOriginal edit)) target room depth callbackDepth
          recallState received world) ↔
      (context.Admits chosen edit turn.1 turn.2 →
        context.ResultsAgree edit left (sortCallbacks world.registration.callbacks) later turn.1
          turn.2) := by
  intro context turn
  have hsound : context.Sound := ⟨hconforms, hcopies⟩
  -- no callback comes twice
  have honce : (earlier ++ chosen :: later).Nodup := by
    rw [← hcallbacks]
    have hsorted : (sortCallbacks world.registration.callbacks).Nodup :=
      (sortCallbacks_perm _).nodup_iff.mpr hnodup
    cases recallState with
    | none => exact hsorted
    | some state => exact hsorted.sublist ((List.drop_sublist _ _).trans (List.dropWhile_sublist _))
  have hearlier : ∀ callback ∈ earlier, callback ≠ chosen := by
    rintro callback hmem rfl
    exact (List.nodup_append.mp honce).2.2 _ hmem _ List.mem_cons_self rfl
  have hother : ∀ callback ∈ later, callback ≠ chosen := by
    rintro callback hmem rfl
    exact (List.nodup_cons.mp (List.nodup_append.mp honce).2.1).1 hmem
  have hquiet : ∀ script, ∀ callback ∈ later, callback.runsIn phasePre →
      Quiet (plugins.replace chosen script).behaviour left callback :=
    fun script callback hmem hruns => (hlater callback hmem hruns).replace (hother callback hmem)
  have hclosure : ∀ script script',
      (recallClosure (plugins.replace chosen script) target room depth callbackDepth).isSome =
        (recallClosure (plugins.replace chosen script') target room depth callbackDepth).isSome :=
    fun _ _ => recallClosure_isSome _ _ _ _ _ _
  -- both runs get to the callback's turn in the same way
  have hturn : ∀ script, preLoop (context.under (plugins.replace chosen script).behaviour
      (recallClosure (plugins.replace chosen script) target room depth callbackDepth))
      (earlier ++ chosen :: later)
      (context.locals recallState (context.received received)
        (context.initialResult recallState)) world =
        preLoop (context.under (plugins.replace chosen script).behaviour
          (recallClosure (plugins.replace chosen script) target room depth callbackDepth))
          (chosen :: later) turn.1 turn.2 := by
    intro script
    have hreached' : (preLoop (context.under plugins.behaviour
        (recallClosure plugins target room depth callbackDepth)) earlier
        (context.locals recallState (context.received received) (context.initialResult recallState))
        world).1.recalled = false := hreached
    have hbefore : ∀ callback ∈ earlier,
        (plugins.replace chosen script).behaviour callback = plugins.behaviour callback :=
      fun callback hmem => Environment.replace_other (hearlier callback hmem)
    have hsame := preLoop_unrecalled (recallClosure_isSome plugins
      (plugins.replace chosen script) target room depth callbackDepth) hbefore _ _ hreached'
    rw [preLoop_append _ _ _ _ (by rw [hsame]; exact hreached'), hsame]
    rfl
  have hphase : turn.1.frame.phase = phasePre := preLoop_phase _ _ _ rfl
  rw [dispatch_replace _ hbinding hroom hdepth, dispatch_replace _ hbinding hroom hdepth,
    hcallbacks, hturn, hturn]
  by_cases hadmits : context.Admits chosen edit turn.1 turn.2
  · have hundecided : turn.1.originalCalled = false := by
      have hopen : turn.1.originalCalled = false ∧ turn.1.superseded = false := by
        simpa [Locals.decided] using hadmits.2.2.2
      exact hopen.1
    have hrested : turn.1.Rested context phasePre :=
      preLoop_rested hsound _ _ _ (locals_rested hsound hrecall) hundecided
    rw [forall_prop_of_true hadmits]
    exact admitted_endsAlike_iff hsound hrested hreached hadmits hpre
      (Environment.replace_pre hphase) (Environment.replace_pre hphase) plugins.behaviour
      Environment.replace_post Environment.replace_post (hquiet _) (hquiet _) _ _ _
  · have hafter : ∀ callback ∈ later,
        (plugins.replace chosen (callsOriginal chosen.owner depth edit)).behaviour callback =
          (plugins.replace chosen (leavesOriginal edit)).behaviour callback := by
      intro callback hmem
      rw [Environment.replace_other (hother callback hmem),
        Environment.replace_other (hother callback hmem)]
    have hsame : preLoop (context.under
          (plugins.replace chosen (callsOriginal chosen.owner depth edit)).behaviour
          (recallClosure (plugins.replace chosen (callsOriginal chosen.owner depth edit)) target
            room depth callbackDepth)) (chosen :: later) turn.1 turn.2 =
        preLoop (context.under (plugins.replace chosen (leavesOriginal edit)).behaviour
          (recallClosure (plugins.replace chosen (leavesOriginal edit)) target room depth
            callbackDepth)) (chosen :: later) turn.1 turn.2 :=
      preLoop_refused (hclosure _ _) hpre hreached hadmits (Environment.replace_pre hphase)
        (Environment.replace_pre hphase) (hquiet _) hafter
    rw [hsame, finish_same plugins.behaviour Environment.replace_post Environment.replace_post]
    exact ⟨fun _ h => absurd h hadmits, fun _ => ⟨rfl, rfl⟩⟩

end Main

/-! ## An OVERRIDE that is lost -/

/-- `int32_t f()`. -/
def returnsInt : PrototypeData where
  callingConvention := callNative
  returnType := valueInt32
  arguments := []
  returnShape := ⟨none, none⟩
  argumentShapes := []
  aggregateIdentity := "R-".toList
  method := false
  vafmt := false

theorem returnsInt_conforms : returnsInt.Conforms ⟨none, []⟩ := by
  refine ⟨ValueShape.WellFormed.plain.described rfl, ?_, Iff.rfl, .nil, by decide⟩
  simp [PrototypeData.argumentSlots, returnsInt]

/-- A hooked function that returns 5. -/
def returnsFive : DispatchTarget where
  handle := 1
  prototype := returnsInt
  trampoline := some fun _ => ⟨5, []⟩
  closure := true

def overriding : CallbackRecord := ⟨1, 1, phasePre, 0, 1⟩
def calling : CallbackRecord := ⟨2, 1, phasePre, 0, 2⟩
def watching : CallbackRecord := ⟨3, 1, phasePre, 0, 3⟩

/-- The first callback overrides the result with 7, the others only go on. -/
def overridesSeven : Environment :=
  quietPlugins fun callback seen =>
    if callback.handle = 1 then
      ({ seen with frame := { seen.frame with result := ⟨valueInt32, 0, 7, 0, 0⟩ } },
        some actionOverride)
    else
      (seen, some actionContinue)

def threeCallbacks : World where
  registration :=
    { callbacks := [overriding, calling, watching]
      enabled := fun _ => true
      binding := some ⟨none, []⟩ }
  events := []

/-- **The call by hand loses an earlier OVERRIDE.** The dispatch's own call keeps the 7; behind
a call by hand the caller gets what the original returned. -/
theorem override_lost_by_call :
    (dispatch (overridesSeven.replace calling (callsOriginal 1 0 id)) returnsFive 64 0 0 none []
        threeCallbacks).1 = ⟨5, []⟩ ∧
      (dispatch (overridesSeven.replace calling (leavesOriginal id)) returnsFive 64 0 0 none []
        threeCallbacks).1 = ⟨7, []⟩ := by
  decide

/-- The comparison at those dispatches. -/
theorem callsOriginal_endsAlike_iff_overridden :
    let context := dispatchContext overridesSeven returnsFive ⟨none, []⟩ 64 0 0
    let turn := context.turnOf none [] [overriding] threeCallbacks
    EndsAlike
        (dispatch (overridesSeven.replace calling (callsOriginal 1 0 id)) returnsFive 64 0 0 none []
          threeCallbacks)
        (dispatch (overridesSeven.replace calling (leavesOriginal id)) returnsFive 64 0 0 none []
          threeCallbacks) ↔
      (context.Admits calling id turn.1 turn.2 →
        context.ResultsAgree id (fun _ seen => seen)
          (sortCallbacks threeCallbacks.registration.callbacks) [watching] turn.1 turn.2) :=
  callsOriginal_endsAlike_iff returnsInt_conforms (fun _ _ => rfl) rfl (by decide) (by decide)
    (fun _ h => nomatch h) (by decide) (by decide) (by decide) (by decide)
    (fun callback hmem _ => by
      obtain rfl := List.mem_singleton.mp hmem
      exact ⟨fun _ _ => rfl, fun _ _ => rfl⟩)

end KeelS2.KeelHook
