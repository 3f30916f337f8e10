import KeelS2.KeelHook.Turn

/-!
# Callbacks that do make control calls

A control call is either admitted, and then the dispatch has its original behind it for good,
or refused, and then it only cost the plugin a call: the script might as well have written
everything at once. And once the original was called or superseded no call is admitted any
more, so what a callback does then no longer depends on what a call would do.
-/

namespace KeelS2.KeelHook

/-- The dispatch needs no original any more. -/
def Locals.decided (locals : Locals) : Bool := locals.originalCalled || locals.superseded

/-! ## Writing twice -/

section Write

variable {slot : ValueSlot}

theorem AggregateStorage.write_write (storage : AggregateStorage) (value value' : KeelHookValue)
    (bytes bytes' : Bytes) :
    (storage.write slot value bytes).write slot value' bytes' =
      storage.write slot value' bytes' := by
  by_cases htype : slot.type = valueAggregate
  · cases hobject : slot.shape.object with
    | none => simp [AggregateStorage.write, htype, hobject]
    | some object =>
      have hsome : slot.shape.object.isSome := by simp [hobject]
      simp only [AggregateStorage.write_object htype hsome]
      cases storage.constructed <;> grind
  · simp [AggregateStorage.write_scalar htype]

theorem AggregateStorage.write_again (storage : AggregateStorage) (value : KeelHookValue)
    (bytes : Bytes) :
    (storage.write slot value bytes).write slot value (storage.write slot value bytes).bytes =
      storage.write slot value bytes := by
  rw [AggregateStorage.write_write]
  by_cases htype : slot.type = valueAggregate
  · cases hobject : slot.shape.object with
    | none => simp [AggregateStorage.write, htype, hobject, fitBytes_fitBytes]
    | some object =>
      have hsome : slot.shape.object.isSome := by simp [hobject]
      simp only [AggregateStorage.write_object htype hsome]
      split <;> rfl
  · simp [AggregateStorage.write_scalar htype]

theorem writeArguments_writeArguments (slots : List ValueSlot) :
    ∀ cells writes later,
      writeArguments slots (writeArguments slots cells writes) later =
        writeArguments slots cells (later ++ writes.drop later.length) := by
  induction slots with
  | nil => intro cells writes later; rfl
  | cons slot slots ih =>
    intro cells writes later
    cases later with
    | nil => simp
    | cons write later =>
      cases cells with
      | nil => rfl
      | cons cell cells =>
        obtain ⟨value, bytes⟩ := write
        cases writes with
        | nil => simp
        | cons first writes =>
          simp [writeArguments, Cell.write, AggregateStorage.write_write, ih]

end Write

/-- Two rounds of writes as one. -/
def FrameMemory.isOver (later earlier : FrameMemory) : FrameMemory :=
  { later with
    arguments := later.arguments ++ earlier.arguments.drop later.arguments.length }

theorem Locals.write_write (context : DispatchContext) (locals : Locals)
    (earlier later : FrameMemory) :
    (locals.write context earlier).write context later =
      locals.write context (later.isOver earlier) := by
  simp [Locals.write, AggregateStorage.write_write, writeArguments_writeArguments,
      FrameMemory.isOver]

/-! ## Refused calls -/

/-- The same dispatch with other plugins, and with other code behind the closure. -/
def DispatchContext.under (context : DispatchContext)
    (behaviour : CallbackRecord → FrameMemory → Script)
    (closure : Option (RecallState → NativeFunction World)) : DispatchContext :=
  { context with environment := { context.environment with behaviour }, closure }

section Controls

variable {context : DispatchContext} {callback : CallbackRecord} {locals : Locals}
  {behaviour behaviour' : CallbackRecord → FrameMemory → Script}
  {closure closure' : Option (RecallState → NativeFunction World)}

@[simp]
theorem currentControl_under (plugin : KeelPluginHandle) (frame : Nat) :
    currentControl (context.under behaviour closure) callback plugin frame =
      currentControl context callback plugin frame := rfl

@[simp]
theorem DispatchContext.under_target : (context.under behaviour closure).target = context.target :=
  rfl

@[simp]
theorem DispatchContext.under_closure : (context.under behaviour closure).closure = closure := rfl

variable (context callback) in
theorem callOriginalControl_cases (locals : Locals) (plugin : KeelPluginHandle) (frame : Nat)
    (world : World) :
    (∃ answer, callOriginalControl context callback plugin frame locals world =
        (answer, locals, world)) ∨
      (callOriginalControl context callback plugin frame locals world).2.1.originalCalled ∧
        (callOriginalControl context callback plugin frame locals world).2.1.recalled =
          locals.recalled := by
  unfold callOriginalControl
  repeat (split; · exact .inl ⟨_, rfl⟩)
  exact .inr ⟨rfl, rfl⟩

variable (context callback) in
theorem recallControl_cases (locals : Locals) (plugin : KeelPluginHandle) (frame : Nat)
    (world : World) :
    (∃ answer, recallControl context callback plugin frame locals world =
        (answer, locals, world)) ∨
      (recallControl context callback plugin frame locals world).2.1.originalCalled ∧
        (recallControl context callback plugin frame locals world).2.1.recalled := by
  unfold recallControl
  repeat (split; · exact .inl ⟨_, rfl⟩)
  exact .inr ⟨rfl, rfl⟩

variable (behaviour') in
theorem recallControl_refused (hclosure : closure.isSome = closure'.isSome)
    (plugin : KeelPluginHandle) (frame : Nat) (world : World)
    (hrecalled : (recallControl (context.under behaviour closure) callback plugin frame locals
      world).2.1.recalled = false) :
    recallControl (context.under behaviour' closure') callback plugin frame locals world =
      recallControl (context.under behaviour closure) callback plugin frame locals world := by
  unfold recallControl at hrecalled ⊢
  by_cases hcontrol : (!currentControl context callback plugin frame) = true
  · have hrefused := fun behaviour closure =>
      show (!currentControl (context.under behaviour closure) callback plugin frame) = true from
        hcontrol
    rw [if_pos (hrefused _ _), if_pos (hrefused _ _)]
  have hcurrent := fun behaviour closure =>
    show ¬ (!currentControl (context.under behaviour closure) callback plugin frame) = true from
      hcontrol
  rw [if_neg (hcurrent _ _)] at hrecalled
  rw [if_neg (hcurrent _ _), if_neg (hcurrent behaviour closure)]
  by_cases hphase : locals.frame.phase ≠ phasePre ∨ (!context.target.closure) = true
  · have hrefused := fun behaviour closure =>
      show locals.frame.phase ≠ phasePre ∨
        (!(context.under behaviour closure).target.closure) = true from hphase
    rw [if_pos (hrefused _ _), if_pos (hrefused _ _)]
  have hnative := fun behaviour closure =>
    show ¬ (locals.frame.phase ≠ phasePre ∨
      (!(context.under behaviour closure).target.closure) = true) from hphase
  rw [if_neg (hnative _ _)] at hrecalled
  rw [if_neg (hnative _ _), if_neg (hnative behaviour closure)]
  by_cases hdecided : (locals.originalCalled || locals.superseded) = true
  · rw [if_pos hdecided, if_pos hdecided]
  rw [if_neg hdecided] at hrecalled
  rw [if_neg hdecided, if_neg hdecided]
  cases closure with
  | none =>
    cases closure' with
    | none => rfl
    | some closure' => simp at hclosure
  | some closure => exact Bool.noConfusion hrecalled

variable (context callback) in
theorem callOriginalControl_decided (hdecided : locals.decided) (plugin : KeelPluginHandle)
    (frame : Nat) :
    ∃ answer, ∀ behaviour closure world,
      callOriginalControl (context.under behaviour closure) callback plugin frame locals world =
        (answer, locals, world) := by
  have hopen : (locals.originalCalled || locals.superseded) = true := hdecided
  unfold callOriginalControl
  simp only [currentControl_under]
  split_ifs with hcontrol hphase
  · exact ⟨.notReady, fun _ _ _ => rfl⟩
  · exact ⟨.unsupported, fun _ _ _ => rfl⟩
  · exact ⟨.alreadyExists, fun _ _ _ => rfl⟩

variable (context callback) in
theorem recallControl_decided (hdecided : locals.decided) (plugin : KeelPluginHandle)
    (frame : Nat) :
    ∃ answer, ∀ behaviour closure world,
      recallControl (context.under behaviour closure) callback plugin frame locals world =
        (answer, locals, world) := by
  have hopen : (locals.originalCalled || locals.superseded) = true := hdecided
  unfold recallControl
  simp only [currentControl_under, DispatchContext.under_target]
  split_ifs with hcontrol hphase
  · exact ⟨.notReady, fun _ _ _ => rfl⟩
  · exact ⟨.unsupported, fun _ _ _ => rfl⟩
  · exact ⟨.alreadyExists, fun _ _ _ => rfl⟩

end Controls

/-! ## Scripts that are refused everything -/

section Scripts

variable (context : DispatchContext) (callback : CallbackRecord)

/-- **Once the original is decided, a script is its writes.** Every call it makes is refused,
so neither the closure nor what has happened so far matters; it may still change
registrations. -/
theorem runScript_decided (script : Script) :
    ∀ (locals : Locals) (registration : Registration), locals.decided →
      ∃ action left registration', ∀ behaviour closure events,
        runScript (context.under behaviour closure) callback script locals
            ⟨registration, events⟩ =
          (action, locals.write context left, ⟨registration', events⟩) := by
  induction script with
  | done memory action =>
    intro locals registration _
    exact ⟨action, memory, registration, fun _ _ _ => rfl⟩
  | update change next ih =>
    intro locals registration hdecided
    exact ih locals (change registration) hdecided
  | callOriginal plugin frame memory next ih =>
    intro locals registration hdecided
    have hwritten : (locals.write context memory).decided := hdecided
    obtain ⟨answer, hrefused⟩ :=
      callOriginalControl_decided context callback hwritten plugin frame
    obtain ⟨action, left, registration', hrest⟩ :=
      ih (locals.write context memory).memory answer (locals.write context memory) registration
        hdecided
    refine ⟨action, left.isOver memory, registration', fun behaviour closure events => ?_⟩
    rw [← Locals.write_write, ← hrest behaviour closure events, runScript]
    exact congrArg (fun r => runScript (context.under behaviour closure) callback
      (next r.2.1.memory r.1) r.2.1 r.2.2) (hrefused behaviour closure ⟨registration, events⟩)
  | recallTarget plugin frame memory next ih =>
    intro locals registration hdecided
    have hwritten : (locals.write context memory).decided := hdecided
    obtain ⟨answer, hrefused⟩ :=
      recallControl_decided context callback hwritten plugin frame
    obtain ⟨action, left, registration', hrest⟩ :=
      ih (locals.write context memory).memory answer (locals.write context memory) registration
        hdecided
    refine ⟨action, left.isOver memory, registration', fun behaviour closure events => ?_⟩
    rw [← Locals.write_write, ← hrest behaviour closure events, runScript]
    exact congrArg (fun r => runScript (context.under behaviour closure) callback
      (next r.2.1.memory r.1) r.2.1 r.2.2) (hrefused behaviour closure ⟨registration, events⟩)

/-! ## Scripts that have something called -/

theorem runScript_grows (script : Script) :
    ∀ locals world,
      (locals.originalCalled → (runScript context callback script locals
        world).2.1.originalCalled) ∧
      (locals.recalled → (runScript context callback script locals world).2.1.recalled) := by
  induction script with
  | done memory action => exact fun _ _ => ⟨id, id⟩
  | update change next ih => exact fun locals world => ih _ _
  | callOriginal plugin frame memory next ih =>
    intro locals world
    rw [runScript]
    rcases callOriginalControl_cases context callback (locals.write context memory)
      plugin frame world with
      ⟨answer, hrefused⟩ | ⟨hcalled, hrecalled⟩
    · rw [hrefused]
      exact ih _ answer (locals.write context memory) world
    · exact ⟨fun _ => (ih _ _ _ _).1 hcalled, fun h => (ih _ _ _ _).2 (hrecalled.trans h)⟩
  | recallTarget plugin frame memory next ih =>
    intro locals world
    rw [runScript]
    rcases recallControl_cases context callback (locals.write context memory)
      plugin frame world with
      ⟨answer, hrefused⟩ | ⟨hcalled, hrecalled⟩
    · rw [hrefused]
      exact ih _ answer (locals.write context memory) world
    · exact ⟨fun _ => (ih _ _ _ _).1 hcalled, fun _ => (ih _ _ _ _).2 hrecalled⟩

/-- A script that never had the target called again does not depend on what such a call
would do. -/
theorem runScript_unrecalled {behaviour : CallbackRecord → FrameMemory → Script}
    (behaviour' : CallbackRecord → FrameMemory → Script)
    {closure closure' : Option (RecallState → NativeFunction World)}
    (hclosure : closure.isSome = closure'.isSome) (script : Script) :
    ∀ locals world,
      (runScript (context.under behaviour closure) callback script locals
        world).2.1.recalled = false →
      runScript (context.under behaviour' closure') callback script locals world =
        runScript (context.under behaviour closure) callback script locals world := by
  induction script with
  | done memory action => exact fun _ _ _ => rfl
  | update change next ih => exact fun locals world => ih _ _
  | callOriginal plugin frame memory next ih => exact fun locals world => ih _ _ _ _
  | recallTarget plugin frame memory next ih =>
    intro locals world hrecalled
    set called := recallControl (context.under behaviour closure) callback plugin frame
      (locals.write context memory) world with hcalled
    have hrest : (runScript (context.under behaviour closure) callback
        (next called.2.1.memory called.1) called.2.1 called.2.2).2.1.recalled = false := hrecalled
    -- a call that was admitted would still show
    have hnot : called.2.1.recalled = false := by
      by_contra hadmitted
      have hstill := (runScript_grows (context.under behaviour closure) callback
        (next called.2.1.memory called.1) called.2.1 called.2.2).2
        (by simpa using hadmitted)
      rw [hrest] at hstill
      exact Bool.noConfusion hstill
    have hsame := recallControl_refused behaviour' hclosure plugin frame world hnot
    rw [← hcalled] at hsame
    calc runScript (context.under behaviour' closure') callback
          (.recallTarget plugin frame memory next) locals world
        = runScript (context.under behaviour' closure') callback
            (next called.2.1.memory called.1) called.2.1 called.2.2 :=
          congrArg (fun r : KeelResult × Locals × World =>
            runScript (context.under behaviour' closure') callback (next r.2.1.memory r.1)
              r.2.1 r.2.2) hsame
      _ = runScript (context.under behaviour closure) callback
            (.recallTarget plugin frame memory next) locals world := ih _ _ _ _ hrest

/-- A script that did not have the original called wrote, and maybe changed registrations. -/
theorem runScript_undecided (script : Script) :
    ∀ locals world,
      (runScript context callback script locals world).2.1.originalCalled = false →
      ∃ left, (runScript context callback script locals world).2.1 = locals.write context left := by
  induction script with
  | done memory action => exact fun _ _ _ => ⟨memory, rfl⟩
  | update change next ih => exact fun locals world => ih _ _
  | callOriginal plugin frame memory next ih =>
    intro locals world hundecided
    rw [runScript] at hundecided ⊢
    rcases callOriginalControl_cases context callback (locals.write context memory)
      plugin frame world with ⟨answer, hrefused⟩ | hcalled
    · rw [hrefused] at hundecided ⊢
      obtain ⟨left, hleft⟩ := ih _ _ _ _ hundecided
      exact ⟨left.isOver memory, by rw [hleft, Locals.write_write]⟩
    · rw [(runScript_grows _ _ _ _ _).1 hcalled.1] at hundecided
      exact Bool.noConfusion hundecided
  | recallTarget plugin frame memory next ih =>
    intro locals world hundecided
    rw [runScript] at hundecided ⊢
    rcases recallControl_cases context callback (locals.write context memory)
      plugin frame world with ⟨answer, hrefused⟩ | hcalled
    · rw [hrefused] at hundecided ⊢
      obtain ⟨left, hleft⟩ := ih _ _ _ _ hundecided
      exact ⟨left.isOver memory, by rw [hleft, Locals.write_write]⟩
    · rw [(runScript_grows _ _ _ _ _).1 hcalled.1] at hundecided
      exact Bool.noConfusion hundecided

end Scripts

/-! ## The PRE loop without a recall -/

section Unrecalled

variable {context : DispatchContext}
  {behaviour behaviour' : CallbackRecord → FrameMemory → Script}
  {closure closure' : Option (RecallState → NativeFunction World)}

@[simp]
theorem applyPreAction_recalled (before : Snapshot) (explicitCall : Bool)
    (action : KeelHookAction) (locals : Locals) :
    (applyPreAction context before explicitCall action locals).recalled = locals.recalled := by
  unfold applyPreAction
  split_ifs <;> rfl

theorem preTurn_recalled (callback : CallbackRecord) (locals : Locals) (world : World) :
    (preTurn context callback locals world).1.recalled =
      (invokeCallback context callback locals world).2.1.recalled :=
  applyPreAction_recalled _ _ _ _

theorem invokeCallback_unrecalled (hclosure : closure.isSome = closure'.isSome)
    {callback : CallbackRecord} (hsame : behaviour' callback = behaviour callback)
    (locals : Locals) (world : World)
    (hrecalled : (invokeCallback (context.under behaviour closure) callback locals
      world).2.1.recalled = false) :
    invokeCallback (context.under behaviour' closure') callback locals world =
      invokeCallback (context.under behaviour closure) callback locals world := by
  unfold invokeCallback at hrecalled ⊢
  by_cases henabled : (!world.registration.enabled callback.handle) = true
  · rw [if_pos henabled, if_pos henabled]
  rw [if_neg henabled] at hrecalled
  rw [if_neg henabled, if_neg henabled]
  by_cases hfull : context.callbackDepth ≥ callbackStackSize
  · have hfull' := fun behaviour closure =>
      show (context.under behaviour closure).callbackDepth ≥ callbackStackSize from hfull
    rw [if_pos (hfull' _ _), if_pos (hfull' _ _)]
  have hroom := fun behaviour closure =>
    show ¬ (context.under behaviour closure).callbackDepth ≥ callbackStackSize from hfull
  rw [if_neg (hroom _ _)] at hrecalled
  rw [if_neg (hroom _ _), if_neg (hroom behaviour closure)]
  have hscript := runScript_unrecalled context callback behaviour' hclosure
    (behaviour callback locals.memory) locals (world.record (.callback callback locals.memory))
    hrecalled
  have hbehaviour : (context.under behaviour' closure').environment.behaviour callback =
      behaviour callback := hsame
  rw [hbehaviour]
  exact congrArg (fun r : Option KeelHookAction × Locals × World =>
    (r.1.getD actionContinue, r.2.1, r.2.2)) hscript

theorem preTurn_unrecalled (hclosure : closure.isSome = closure'.isSome)
    {callback : CallbackRecord} (hsame : behaviour' callback = behaviour callback)
    (locals : Locals) (world : World)
    (hrecalled : (preTurn (context.under behaviour closure) callback locals world).1.recalled =
      false) :
    preTurn (context.under behaviour' closure') callback locals world =
      preTurn (context.under behaviour closure) callback locals world := by
  rw [preTurn_recalled] at hrecalled
  have hinvoked := invokeCallback_unrecalled hclosure hsame locals world hrecalled
  unfold preTurn
  rw [hinvoked]
  rfl

section Cons

variable {callback : CallbackRecord} (rest : List CallbackRecord) (locals : Locals) (world : World)

theorem preLoop_skip (hphase : callback.runsIn phasePre = false) :
    preLoop context (callback :: rest) locals world = preLoop context rest locals world := by
  rw [preLoop, if_pos (by simp [hphase])]

theorem preLoop_turn (hphase : callback.runsIn phasePre)
    (hturn : (preTurn context callback locals world).1.recalled = false) :
    preLoop context (callback :: rest) locals world =
      preLoop context rest (preTurn context callback locals world).1
        (preTurn context callback locals world).2 := by
  rw [preLoop, if_neg (by simp [hphase])]
  dsimp only
  rw [if_neg (by simp [hturn])]

theorem preLoop_recalled (hphase : callback.runsIn phasePre)
    (hturn : (preTurn context callback locals world).1.recalled = true) :
    preLoop context (callback :: rest) locals world = preTurn context callback locals world := by
  rw [preLoop, if_neg (by simp [hphase])]
  dsimp only
  rw [if_pos hturn]

end Cons

/-- As long as no callback has the target called again, the PRE loop does not depend on what
such a call would do, nor on callbacks that are not its own. -/
theorem preLoop_unrecalled (hclosure : closure.isSome = closure'.isSome)
    {callbacks : List CallbackRecord}
    (hsame : ∀ callback ∈ callbacks, behaviour' callback = behaviour callback) :
    ∀ locals world,
      (preLoop (context.under behaviour closure) callbacks locals world).1.recalled = false →
      preLoop (context.under behaviour' closure') callbacks locals world =
        preLoop (context.under behaviour closure) callbacks locals world := by
  induction callbacks with
  | nil => exact fun _ _ _ => rfl
  | cons callback rest ih =>
    intro locals world hrecalled
    have hrest := ih fun other hother => hsame other (List.mem_cons_of_mem _ hother)
    cases hphase : callback.runsIn phasePre with
    | false =>
      rw [preLoop_skip _ _ _ hphase] at hrecalled
      rw [preLoop_skip _ _ _ hphase, preLoop_skip _ _ _ hphase]
      exact hrest locals world hrecalled
    | true =>
      cases hturn : (preTurn (context.under behaviour closure)
        callback locals world).1.recalled with
      | true =>
        rw [preLoop_recalled _ _ _ hphase hturn, hturn] at hrecalled
        exact Bool.noConfusion hrecalled
      | false =>
        have hsameTurn :=
          preTurn_unrecalled hclosure (hsame callback List.mem_cons_self) locals world hturn
        rw [preLoop_turn _ _ _ hphase hturn] at hrecalled
        rw [preLoop_turn _ _ _ hphase hturn,
          preLoop_turn _ _ _ hphase (by rw [hsameTurn]; exact hturn), hsameTurn]
        exact hrest _ _ hrecalled

/-- A PRE loop that gets through its first callbacks goes on with the others. -/
theorem preLoop_append (callbacks rest : List CallbackRecord) :
    ∀ locals world, (preLoop context callbacks locals world).1.recalled = false →
      preLoop context (callbacks ++ rest) locals world =
        preLoop context rest (preLoop context callbacks locals world).1
          (preLoop context callbacks locals world).2 := by
  induction callbacks with
  | nil => exact fun _ _ _ => rfl
  | cons callback callbacks ih =>
    intro locals world hrecalled
    rw [List.cons_append]
    cases hphase : callback.runsIn phasePre with
    | false =>
      rw [preLoop_skip _ _ _ hphase] at hrecalled
      rw [preLoop_skip _ _ _ hphase, preLoop_skip _ _ _ hphase]
      exact ih locals world hrecalled
    | true =>
      cases hturn : (preTurn context callback locals world).1.recalled with
      | true =>
        rw [preLoop_recalled _ _ _ hphase hturn, hturn] at hrecalled
        exact Bool.noConfusion hrecalled
      | false =>
        rw [preLoop_turn _ _ _ hphase hturn] at hrecalled
        rw [preLoop_turn _ _ _ hphase hturn, preLoop_turn _ _ _ hphase hturn]
        exact ih _ _ hrecalled

end Unrecalled

/-! ## As long as nobody calls the original -/

section Undecided

variable {context : DispatchContext} {callback : CallbackRecord} {locals : Locals}

theorem applyPreAction_originalCalled (before : Snapshot) (explicitCall : Bool)
    (action : KeelHookAction) (locals : Locals) :
    (applyPreAction context before explicitCall action locals).originalCalled =
      locals.originalCalled := by
  unfold applyPreAction
  split_ifs <;> rfl

theorem preTurn_originalCalled (callback : CallbackRecord) (locals : Locals) (world : World) :
    (preTurn context callback locals world).1.originalCalled =
      (invokeCallback context callback locals world).2.1.originalCalled :=
  applyPreAction_originalCalled _ _ _ _

theorem preTurn_phase (callback : CallbackRecord) (locals : Locals) (world : World) :
    (preTurn context callback locals world).1.frame.phase = phasePre := by
  unfold preTurn applyPreAction
  dsimp only
  split_ifs <;> rfl

theorem preLoop_phase (callbacks : List CallbackRecord) :
    ∀ locals world, locals.frame.phase = phasePre →
      (preLoop context callbacks locals world).1.frame.phase = phasePre := by
  induction callbacks with
  | nil => exact fun _ _ hphase => hphase
  | cons callback rest ih =>
    intro locals world hlocals
    cases hphase : callback.runsIn phasePre with
    | false =>
      rw [preLoop_skip _ _ _ hphase]
      exact ih locals world hlocals
    | true =>
      cases hturn : (preTurn context callback locals world).1.recalled with
      | true =>
        rw [preLoop_recalled _ _ _ hphase hturn]
        exact preTurn_phase _ _ _
      | false =>
        rw [preLoop_turn _ _ _ hphase hturn]
        exact ih _ _ (preTurn_phase _ _ _)

theorem invokeCallback_grows (callback : CallbackRecord) (locals : Locals) (world : World)
    (hcalled : locals.originalCalled) :
    (invokeCallback context callback locals world).2.1.originalCalled := by
  unfold invokeCallback
  split_ifs
  · exact hcalled
  · exact hcalled
  · exact (runScript_grows _ _ _ _ _).1 hcalled

theorem preLoop_grows (callbacks : List CallbackRecord) :
    ∀ locals world, locals.originalCalled →
      (preLoop context callbacks locals world).1.originalCalled := by
  induction callbacks with
  | nil => exact fun _ _ hcalled => hcalled
  | cons callback rest ih =>
    intro locals world hcalled
    have hturned : (preTurn context callback locals world).1.originalCalled := by
      rw [preTurn_originalCalled]
      exact invokeCallback_grows callback locals world hcalled
    cases hphase : callback.runsIn phasePre with
    | false =>
      rw [preLoop_skip _ _ _ hphase]
      exact ih locals world hcalled
    | true =>
      cases hturn : (preTurn context callback locals world).1.recalled with
      | true =>
        rw [preLoop_recalled _ _ _ hphase hturn]
        exact hturned
      | false =>
        rw [preLoop_turn _ _ _ hphase hturn]
        exact ih _ _ hturned

theorem invokeCallback_undecided (hrested : locals.Rested context phasePre) (world : World)
    (hundecided : (invokeCallback context callback locals world).2.1.originalCalled = false) :
    ∃ left, (invokeCallback context callback locals world).2.1 = locals.write context left := by
  unfold invokeCallback at hundecided ⊢
  split_ifs at hundecided ⊢ with henabled hfull
  · exact ⟨locals.idle, hrested.write_idle.symm⟩
  · exact ⟨locals.idle, hrested.write_idle.symm⟩
  · exact runScript_undecided _ _ _ _ _ hundecided

/-- A turn in which the original was not called leaves everything settled, whatever calls were
refused. -/
theorem preTurn_rested (hcontext : context.Sound) (hrested : locals.Rested context phasePre)
    (world : World)
    (hundecided : (preTurn context callback locals world).1.originalCalled = false) :
    (preTurn context callback locals world).1.Rested context phasePre := by
  rw [preTurn_originalCalled] at hundecided
  obtain ⟨left, hleft⟩ := invokeCallback_undecided hrested world hundecided
  have hfirst : locals.originalCalled = false := by
    by_contra hcalled
    rw [invokeCallback_grows callback locals world (by simpa using hcalled)] at hundecided
    exact Bool.noConfusion hundecided
  have hexplicit : (!locals.originalCalled && (validateFrame context phasePre
      (snapshotValues context locals) (locals.write context left)).originalCalled) = false := by
    simp [validateFrame, Locals.write, hfirst]
  have hturn : (preTurn context callback locals world).1 =
      locals.afterPre context left (invokeCallback context callback locals world).1 := by
    rw [← applyPreAction_eq hcontext hrested, preTurn]
    dsimp only
    rw [hleft, hexplicit]
  rw [hturn]
  exact hrested.afterPre hcontext _ _

theorem preLoop_rested (hcontext : context.Sound) (callbacks : List CallbackRecord) :
    ∀ locals world, locals.Rested context phasePre →
      (preLoop context callbacks locals world).1.originalCalled = false →
      (preLoop context callbacks locals world).1.Rested context phasePre := by
  induction callbacks with
  | nil => exact fun _ _ hrested _ => hrested
  | cons callback rest ih =>
    intro locals world hrested hundecided
    cases hphase : callback.runsIn phasePre with
    | false =>
      rw [preLoop_skip _ _ _ hphase] at hundecided ⊢
      exact ih locals world hrested hundecided
    | true =>
      cases hturn : (preTurn context callback locals world).1.recalled with
      | true =>
        rw [preLoop_recalled _ _ _ hphase hturn] at hundecided ⊢
        exact preTurn_rested hcontext hrested world hundecided
      | false =>
        rw [preLoop_turn _ _ _ hphase hturn] at hundecided ⊢
        refine ih _ _ (preTurn_rested hcontext hrested world ?_) hundecided
        by_contra hcalled
        rw [preLoop_grows _ _ _ (by simpa using hcalled)] at hundecided
        exact Bool.noConfusion hundecided

end Undecided

/-! ## The POST loop -/

section Decided

variable (context : DispatchContext)

/-- What the POST loop makes of the local variables after a callback's code. -/
def Locals.closePost (context : DispatchContext) (locals written : Locals)
    (action : KeelHookAction) : Locals :=
  (applyPostAction context (snapshotValues context locals) action
    (validateFrame context phasePost (snapshotValues context locals) written)).showResult

theorem Locals.closePost_decided (locals written : Locals) (action : KeelHookAction) :
    (locals.closePost context written action).decided = written.decided := by
  unfold Locals.closePost applyPostAction
  split_ifs <;> rfl

theorem Locals.closePost_phase (locals written : Locals) (action : KeelHookAction) :
    (locals.closePost context written action).frame.phase = phasePost := by
  unfold Locals.closePost applyPostAction
  split_ifs <;> rfl

/-- **The POST phase is cut off from what came before.** Behind the original only the local
variables and the registrations count: not what has happened, nor what the closure would do,
nor how plugins behave in the PRE phase. -/
theorem postTurn_decided (plugins : CallbackRecord → FrameMemory → Script)
    (callback : CallbackRecord) {locals : Locals} (registration : Registration)
    (hdecided : locals.decided) (hphase : locals.frame.phase = phasePost) :
    ∃ locals' registration' seen, locals'.decided ∧ locals'.frame.phase = phasePost ∧
      (registration.enabled callback.handle → context.callbackDepth < callbackStackSize →
        seen = [.callback callback locals.memory]) ∧
      ∀ behaviour closure events,
        (∀ seen : FrameMemory, seen.frame.phase = phasePost →
          behaviour callback seen = plugins callback seen) →
        postTurn (context.under behaviour closure) callback locals ⟨registration, events⟩ =
          (locals', ⟨registration', events ++ seen⟩) := by
  by_cases henabled : (!registration.enabled callback.handle) = true
  · refine ⟨locals.closePost context locals actionContinue, registration, [],
      (Locals.closePost_decided _ _ _ _).trans hdecided, Locals.closePost_phase _ _ _ _,
      fun h => by simp [h] at henabled, fun behaviour closure events _ => ?_⟩
    rw [postTurn, invokeCallback, if_pos henabled, List.append_nil]
    rfl
  by_cases hfull : context.callbackDepth ≥ callbackStackSize
  · refine ⟨locals.closePost context locals actionContinue, registration, [],
      (Locals.closePost_decided _ _ _ _).trans hdecided, Locals.closePost_phase _ _ _ _,
      fun _ hroom => absurd hroom (by omega), fun behaviour closure events _ => ?_⟩
    have hfull' : (context.under behaviour closure).callbackDepth ≥ callbackStackSize := hfull
    rw [postTurn, invokeCallback, if_neg henabled, if_pos hfull', List.append_nil]
    rfl
  · obtain ⟨action, left, registration', hscript⟩ := runScript_decided context callback
      (plugins callback locals.memory) locals registration hdecided
    refine ⟨locals.closePost context (locals.write context left) (action.getD actionContinue),
      registration', [.callback callback locals.memory],
      (Locals.closePost_decided _ _ _ _).trans hdecided, Locals.closePost_phase _ _ _ _,
      fun _ _ => rfl, fun behaviour closure events hbehaves => ?_⟩
    have hroom : ¬ (context.under behaviour closure).callbackDepth ≥ callbackStackSize := hfull
    have hsame : (context.under behaviour closure).environment.behaviour callback locals.memory =
        plugins callback locals.memory := hbehaves _ hphase
    rw [postTurn, invokeCallback, if_neg henabled, if_neg hroom, hsame]
    exact congrArg (fun r : Option KeelHookAction × Locals × World =>
      (locals.closePost context r.2.1 (r.1.getD actionContinue), r.2.2))
      (hscript behaviour closure (events ++ [.callback callback locals.memory]))

theorem postLoop_decided (plugins : CallbackRecord → FrameMemory → Script)
    (callbacks : List CallbackRecord) :
    ∀ (locals : Locals) (registration : Registration), locals.decided →
      locals.frame.phase = phasePost →
      ∃ locals' registration' seen, ∀ behaviour closure events,
        (∀ callback (seen : FrameMemory), seen.frame.phase = phasePost →
          behaviour callback seen = plugins callback seen) →
        postLoop (context.under behaviour closure) callbacks locals ⟨registration, events⟩ =
          (locals', ⟨registration', events ++ seen⟩) := by
  induction callbacks with
  | nil =>
    intro locals registration _ _
    exact ⟨locals, registration, [], fun _ _ events _ => by rw [List.append_nil]; rfl⟩
  | cons callback rest ih =>
    intro locals registration hdecided hphase
    by_cases hruns : (!callback.runsIn phasePost) = true
    · obtain ⟨locals', registration', seen, hrest⟩ := ih locals registration hdecided hphase
      refine ⟨locals', registration', seen, fun behaviour closure events hbehaves => ?_⟩
      rw [postLoop, if_pos hruns]
      exact hrest behaviour closure events hbehaves
    · obtain ⟨middle, between, first, hdecided', hphase', -, hturn⟩ :=
        postTurn_decided context plugins callback registration hdecided hphase
      obtain ⟨locals', registration', seen, hrest⟩ := ih middle between hdecided' hphase'
      refine ⟨locals', registration', first ++ seen, fun behaviour closure events hbehaves => ?_⟩
      rw [postLoop, if_neg hruns, hturn behaviour closure events (hbehaves callback)]
      dsimp only
      rw [hrest behaviour closure (events ++ first) hbehaves, List.append_assoc]

end Decided

end KeelS2.KeelHook
