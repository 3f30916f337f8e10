import KeelS2.KeelHook.Turn

/-!
# The reference fold of a dispatch

What a dispatch is for, said without snapshots, saved copies or precedence flags: callbacks
take turns, each turn sees what the turns before it left, and the result in force is read off
the turns themselves. `dispatch_eq_reference` says that `Dispatch` computes this whenever no
callback makes a control call.
-/

namespace KeelS2.KeelHook

/-- A callback that makes no control call: what it leaves behind, and its action. `none`
stands for an exception. -/
abbrev PlainCallback := CallbackRecord → FrameMemory → FrameMemory × Option KeelHookAction

/-- One turn: what the callback was shown, its action, and what became of its edits. -/
structure Turn where
  callback : CallbackRecord
  seen : FrameMemory
  action : KeelHookAction
  arguments : List Cell
  result : Cell
  flags : Nat

def Turn.event (turn : Turn) : Event := .callback turn.callback turn.seen

/-! ## Reading the outcome off the turns -/

/-- The result of the last turn with this action. -/
def lastResult (action : KeelHookAction) (turns : List Turn) (otherwise : Cell) : Cell :=
  ((turns.filter (·.action = action)).getLast?.map (·.result)).getD otherwise

/-- The result of the PRE phase: that of the last SUPERSEDE, else of the last OVERRIDE, else
of the original. -/
def preResult (turns : List Turn) (original : Cell) : Cell :=
  lastResult actionSupersede turns (lastResult actionOverride turns original)

/-- In the POST phase only an OVERRIDE changes the result. -/
def postResult (turns : List Turn) (result : Cell) : Cell :=
  lastResult actionOverride turns result

def argumentsAfter (turns : List Turn) (arguments : List Cell) : List Cell :=
  (turns.getLast?.map (·.arguments)).getD arguments

def flagsAfter (turns : List Turn) (flags : Nat) : Nat :=
  (turns.getLast?.map (·.flags)).getD flags

def supersedes (turns : List Turn) : Bool := turns.any (·.action = actionSupersede)

/-- Whether some turn stands in for the original's result. -/
def overrides (turns : List Turn) : Bool :=
  turns.any fun turn => turn.action = actionOverride ∨ turn.action = actionSupersede

/-! ## The fold -/

/-- What stays the same through the turns of one phase. An action above `highest` is unknown
there, and refuses the edits of the arguments. -/
structure Phase where
  phase : Nat
  highest : Nat
  originalCalled : Bool
  arguments : List Cell
  flags : Nat
  inForce : List Turn → Cell

section Fold

variable (context : DispatchContext) (plain : PlainCallback)

/-- What the next callback is shown. -/
def Phase.shown (phase : Phase) (turns : List Turn) : FrameMemory :=
  let result := phase.inForce turns
  { frame := context.header phase.phase (flagsAfter turns phase.flags) result.value
    arguments := (argumentsAfter turns phase.arguments).map fun cell =>
      (cell.value, cell.storage.bytes)
    resultBytes := result.storage.bytes }

/-- The next callback's turn, given what it leaves and returns. -/
def Phase.turn (phase : Phase) (turns : List Turn) (callback : CallbackRecord)
    (left : FrameMemory) (action : KeelHookAction) : Turn :=
  let arguments := argumentsAfter turns phase.arguments
  let result := phase.inForce turns
  { callback
    seen := phase.shown context turns
    action
    arguments :=
      if action ≤ phase.highest then
        acceptArguments context.argumentSlots arguments left.arguments
      else
        arguments
    result := acceptEdit context.returnSlot result
      (result.write context.returnSlot left.frame.result left.resultBytes)
    flags := carriedFlags phase.originalCalled left.frame.flags }

def takeTurn (phase : Phase) (turns : List Turn) (callback : CallbackRecord) : Turn :=
  let (left, action) := plain callback (phase.shown context turns)
  phase.turn context turns callback left (action.getD actionContinue)

def takeTurns (phase : Phase) : List CallbackRecord → List Turn → List Turn
  | [], turns => turns
  | callback :: rest, turns =>
    takeTurns phase rest (turns ++ [takeTurn context plain phase turns callback])

/-- The PRE phase over the arguments and the result as they came in. -/
def prePhaseOf (arguments : List Cell) (result : Cell) : Phase where
  phase := phasePre
  highest := actionSupersede
  originalCalled := false
  arguments
  flags := 0
  inForce turns := preResult turns result

/-- The POST phase behind the PRE turns. -/
def postPhaseOf (pre : List Turn) (arguments : List Cell) (result : Cell) : Phase where
  phase := phasePost
  highest := actionOverride
  originalCalled := !supersedes pre
  arguments := argumentsAfter pre arguments
  flags := if supersedes pre then flagsAfter pre 0 else flagsAfter pre 0 ||| frameOriginalCalled
  inForce turns := postResult turns result

/-- What the original is passed. -/
def originalArguments (arguments : List Cell) : List NativeArgument :=
  pushArguments context.prototype context.environment.memory.formatLiteral
    ((nativeArguments context.lifecycle (pointee context.environment.memory.foreign arguments)
      context.argumentSlots context.binding.argumentObjects arguments).getD [])

/-- What the original returns, where the dispatch keeps its result. -/
def originalResult (original : List NativeArgument → NativeReturn) (arguments : List Cell)
    (home : Cell) : Cell :=
  copyValue context.lifecycle context.returnSlot
    (returnedValue context.lifecycle context.returnSlot context.binding.returnObject (.fresh 0)
      (original (originalArguments context arguments)))
    home

/-- A whole dispatch: the turns of both phases, what the original was passed if it was
called, and the result. -/
structure Reference where
  pre : List Turn
  original : Option (List NativeArgument)
  post : List Turn
  result : Cell

def Reference.events (run : Reference) : List Event :=
  run.pre.map Turn.event ++ run.original.toList.map Event.original ++ run.post.map Turn.event

/-- The reference fold, over the enabled callbacks in order. -/
def reference (original : List NativeArgument → NativeReturn) (callbacks : List CallbackRecord)
    (arguments : List Cell) (result : Cell) : Reference :=
  let pre := takeTurns context plain (prePhaseOf arguments result)
    (callbacks.filter (·.runsIn phasePre)) []
  let left := argumentsAfter pre arguments
  let settled := preResult pre
    (if supersedes pre then result else originalResult context original left result)
  let post := takeTurns context plain (postPhaseOf pre arguments settled)
    (callbacks.filter (·.runsIn phasePost)).reverse []
  { pre
    original := if supersedes pre then none else some (originalArguments context left)
    post
    result := postResult post settled }

end Fold

/-! ## Reading after one more turn -/

theorem lastResult_append (action : Nat) (turns : List Turn) (turn : Turn) (otherwise : Cell) :
    lastResult action (turns ++ [turn]) otherwise =
      if turn.action = action then turn.result else lastResult action turns otherwise := by
  unfold lastResult
  rw [List.filter_append]
  by_cases haction : turn.action = action
  · simp [haction]
  · simp [haction]

theorem lastResult_of_any {action : Nat} {turns : List Turn}
    (hany : turns.any (·.action = action)) (otherwise otherwise' : Cell) :
    lastResult action turns otherwise = lastResult action turns otherwise' := by
  obtain ⟨turn, hturn, haction⟩ := List.any_eq_true.mp hany
  have hne : turns.filter (·.action = action) ≠ [] :=
    List.ne_nil_of_mem (List.mem_filter.mpr ⟨hturn, haction⟩)
  rw [lastResult, lastResult, List.getLast?_eq_some_getLast hne]
  rfl

theorem lastResult_of_not_any {action : Nat} {turns : List Turn}
    (hany : turns.any (·.action = action) = false) (otherwise : Cell) :
    lastResult action turns otherwise = otherwise := by
  have hnil : turns.filter (·.action = action) = [] := by
    rw [List.filter_eq_nil_iff]
    intro turn hturn
    have := List.any_eq_false.mp hany turn hturn
    simpa using this
  simp [lastResult, hnil]

theorem preResult_append (turns : List Turn) (turn : Turn) (original : Cell) :
    preResult (turns ++ [turn]) original =
      if turn.action = actionSupersede ∨ (turn.action = actionOverride ∧ !supersedes turns) then
        turn.result
      else
        preResult turns original := by
  unfold preResult
  rw [lastResult_append, lastResult_append]
  by_cases hsupersede : turn.action = actionSupersede
  · simp [hsupersede]
  by_cases hoverride : turn.action = actionOverride
  · cases hany : supersedes turns with
    | true =>
      rw [if_neg hsupersede, if_pos hoverride, if_neg (by simp [hsupersede])]
      exact lastResult_of_any hany _ _
    | false =>
      rw [lastResult_of_not_any hany, lastResult_of_not_any hany]
      simp [hoverride]
  · simp [hsupersede, hoverride]

@[simp]
theorem argumentsAfter_append (turns : List Turn) (turn : Turn) (arguments : List Cell) :
    argumentsAfter (turns ++ [turn]) arguments = turn.arguments := by
  simp [argumentsAfter]

@[simp]
theorem flagsAfter_append (turns : List Turn) (turn : Turn) (flags : Nat) :
    flagsAfter (turns ++ [turn]) flags = turn.flags := by
  simp [flagsAfter]

@[simp]
theorem argumentsAfter_nil (arguments : List Cell) : argumentsAfter [] arguments = arguments := rfl

@[simp]
theorem flagsAfter_nil (flags : Nat) : flagsAfter [] flags = flags := rfl

@[simp]
theorem postResult_nil (result : Cell) : postResult [] result = result := rfl

/-! ## The local variables follow the turns -/

section Loops

variable {context : DispatchContext} {plain : PlainCallback} (arguments : List Cell) (result : Cell)

/-- The local variables of `Dispatch` after some turns of the PRE loop. -/
def preLocals (context : DispatchContext) (turns : List Turn) : Locals where
  arguments := argumentsAfter turns arguments
  result := preResult turns result
  frame := context.header phasePre (flagsAfter turns 0) (preResult turns result).value
  originalCalled := false
  overridden := overrides turns
  superseded := supersedes turns
  recalled := false

theorem overrides_of_supersedes {turns : List Turn} (h : supersedes turns) :
    overrides turns := by
  obtain ⟨turn, hturn, haction⟩ := List.any_eq_true.mp h
  refine List.any_eq_true.mpr ⟨turn, hturn, ?_⟩
  simp only [decide_eq_true_eq] at haction ⊢
  exact .inr haction

theorem preLocals_append (turns : List Turn) (callback : CallbackRecord) (left : FrameMemory)
    (action : Nat) :
    preLocals arguments result context
        (turns ++ [(prePhaseOf arguments result).turn context turns callback left action]) =
      (preLocals arguments result context turns).afterPre context left action := by
  have hresult := preResult_append turns
    ((prePhaseOf arguments result).turn context turns callback left action) result
  simp only [preLocals, Locals.afterPre, Locals.after, argumentsAfter_append, flagsAfter_append,
    hresult, Locals.mk.injEq]
  refine ⟨?_, ?_, ?_, trivial, ?_, ?_, trivial⟩
  · by_cases hknown : action ≤ actionSupersede <;> simp [Phase.turn, prePhaseOf, hknown]
  · simp [Phase.turn, Locals.leftResult, prePhaseOf]
  · simp [Phase.turn, Locals.leftResult, prePhaseOf]
  · rw [overrides, List.any_append, ← overrides]
    by_cases hsuperseded : supersedes turns
    · rw [overrides_of_supersedes hsuperseded]
      rfl
    · simp [Phase.turn, hsuperseded, or_comm]
  · simp [supersedes, List.any_append, Phase.turn]

def World.afterTurns (world : World) (turns : List Turn) : World :=
  world.after (turns.map Turn.event)

theorem World.afterTurns_append (world : World) (turns : List Turn) (turn : Turn) :
    (world.afterTurns turns).record turn.event = world.afterTurns (turns ++ [turn]) := by
  simp [World.afterTurns, World.record, World.after_after]

/-- No callback makes a control call, and there is room on the callback stack. -/
structure Plainly (context : DispatchContext) (plain : PlainCallback) : Prop where
  sound : context.Sound
  room : context.callbackDepth < callbackStackSize
  behaves : ∀ callback seen, context.environment.behaviour callback seen =
    .done (plain callback seen).1 (plain callback seen).2

/-- Whether a dispatch calls a callback in a phase. -/
def World.calls (world : World) (phase : Nat) (callback : CallbackRecord) : Bool :=
  world.registration.enabled callback.handle && callback.runsIn phase

theorem World.calls_iff {world : World} {phase : Nat} {callback : CallbackRecord} :
    world.calls phase callback ↔
      world.registration.enabled callback.handle ∧ callback.runsIn phase := by
  simp [World.calls]

theorem preTurn_eq_takeTurn (hplain : Plainly context plain) (world : World) {turns : List Turn}
    (hrested : (preLocals arguments result context turns).Rested context phasePre)
    {callback : CallbackRecord} (henabled : world.registration.enabled callback.handle) :
    let later := turns ++ [takeTurn context plain (prePhaseOf arguments result) turns callback]
    preTurn context callback (preLocals arguments result context turns) (world.afterTurns turns) =
        (preLocals arguments result context later, world.afterTurns later) ∧
      (preLocals arguments result context later).Rested context phasePre := by
  have hturn := preTurn_plain hplain.sound hrested (world.afterTurns turns) henabled
    hplain.room (hplain.behaves _ _)
  have hnext := hrested.afterPre hplain.sound
    (plain callback (preLocals arguments result context turns).memory).1
    (((plain callback (preLocals arguments result context turns).memory).2).getD actionContinue)
  rw [← preLocals_append arguments result turns callback] at hturn hnext
  refine ⟨hturn.trans ?_, hnext⟩
  rw [← World.afterTurns_append]
  rfl

theorem preLoop_eq_takeTurns (hplain : Plainly context plain) (world : World) :
    ∀ callbacks turns, (preLocals arguments result context turns).Rested context phasePre →
      let later := takeTurns context plain (prePhaseOf arguments result)
        (callbacks.filter (world.calls phasePre)) turns
      preLoop context callbacks (preLocals arguments result context turns)
          (world.afterTurns turns) =
        (preLocals arguments result context later, world.afterTurns later) ∧
      (preLocals arguments result context later).Rested context phasePre := by
  intro callbacks
  induction callbacks with
  | nil => exact fun turns hrested => ⟨rfl, hrested⟩
  | cons callback rest ih =>
    intro turns hrested
    rw [preLoop]
    by_cases hphase : callback.runsIn phasePre
    · rw [if_neg (by simpa using hphase)]
      by_cases henabled : world.registration.enabled callback.handle
      · obtain ⟨hturn, hnext⟩ := preTurn_eq_takeTurn arguments result hplain world hrested henabled
        rw [hturn, List.filter_cons_of_pos (World.calls_iff.mpr ⟨henabled, hphase⟩)]
        exact ih _ hnext
      · rw [preTurn_disabled hplain.sound hrested (by simpa [World.afterTurns] using henabled),
          List.filter_cons_of_neg fun h => henabled (World.calls_iff.mp h).1]
        exact ih turns hrested
    · rw [if_pos (by simpa using hphase),
        List.filter_cons_of_neg fun h => hphase (World.calls_iff.mp h).2]
      exact ih turns hrested

/-! ## The original and the POST loop -/

theorem callFunction_original (hcontext : context.Sound)
    {original : List NativeArgument → NativeReturn}
    (htrampoline : context.target.trampoline = some original) {cells : List Cell}
    (hcells : List.Forall₂ Cell.Passable context.argumentSlots cells)
    (storage : AggregateStorage) (world : World) :
    callFunction context.lifecycle context.environment.memory context.prototype context.binding
        context.target.originalFunction cells storage world =
      (returnedValue context.lifecycle context.returnSlot context.binding.returnObject storage
          (original (originalArguments context cells)),
        world.record (.original (originalArguments context cells))) := by
  obtain ⟨pushed, hpushed⟩ := Option.isSome_iff_exists.mp
    (nativeArguments_isSome hcontext.copies (pointee context.environment.memory.foreign cells)
      hcontext.conforms.described hcontext.conforms.argumentBinds hcells
      fun cell hcell => pointee_isSome _ hcell)
  simp [callFunction, originalArguments, DispatchTarget.originalFunction, htrampoline, hpushed]

theorem originalResult_settled (hcontext : context.Sound)
    (original : List NativeArgument → NativeReturn) (cells : List Cell) {home : Cell}
    (hhome : home.Settled context.returnSlot) :
    (originalResult context original cells home).Settled context.returnSlot :=
  copyValue_settled hcontext.copies hcontext.conforms.returned
    (returnedValue_settled hcontext.conforms.returned hcontext.conforms.returnBinds 0 _) hhome

end Loops

/-- The local variables of `Dispatch` after some turns of the POST loop. -/
def postLocals (context : DispatchContext) (pre : List Turn) (arguments : List Cell)
    (result : Cell) (turns : List Turn) : Locals :=
  let phase := postPhaseOf pre arguments result
  { arguments := argumentsAfter turns phase.arguments
    result := postResult turns result
    frame := context.header phasePost (flagsAfter turns phase.flags) (postResult turns result).value
    originalCalled := phase.originalCalled
    overridden := overrides pre
    superseded := supersedes pre
    recalled := false }

section Post

variable {context : DispatchContext} {plain : PlainCallback} {pre : List Turn}
  {arguments : List Cell} {result : Cell}

theorem postResult_append (turns : List Turn) (turn : Turn) (result : Cell) :
    postResult (turns ++ [turn]) result =
      if turn.action = actionOverride then turn.result else postResult turns result :=
  lastResult_append _ _ _ _

theorem postLocals_append (turns : List Turn) (callback : CallbackRecord) (left : FrameMemory)
    (action : Nat) :
    postLocals context pre arguments result
        (turns ++ [(postPhaseOf pre arguments result).turn context turns callback left action]) =
      (postLocals context pre arguments result turns).afterPost context left action := by
  have hresult := postResult_append turns
    ((postPhaseOf pre arguments result).turn context turns callback left action) result
  simp only [postLocals, Locals.afterPost, Locals.after, argumentsAfter_append, flagsAfter_append,
    hresult, Locals.mk.injEq]
  refine ⟨?_, ?_, ?_, trivial, trivial, trivial, trivial⟩
  · by_cases hknown : action ≤ actionOverride <;> simp [Phase.turn, postPhaseOf, hknown]
  · by_cases hoverride : action = actionOverride <;>
      simp [Phase.turn, Locals.leftResult, postPhaseOf, hoverride]
  · by_cases hoverride : action = actionOverride <;>
      simp [Phase.turn, Locals.leftResult, postPhaseOf, hoverride]

theorem postTurn_eq_takeTurn (hplain : Plainly context plain) (world : World) {turns : List Turn}
    (hrested : (postLocals context pre arguments result turns).Rested context phasePost)
    {callback : CallbackRecord} (henabled : world.registration.enabled callback.handle) :
    let later := turns ++
      [takeTurn context plain (postPhaseOf pre arguments result) turns callback]
    postTurn context callback (postLocals context pre arguments result turns)
          (world.afterTurns turns) =
        (postLocals context pre arguments result later, world.afterTurns later) ∧
      (postLocals context pre arguments result later).Rested context phasePost := by
  have hturn := postTurn_plain hplain.sound hrested (world.afterTurns turns) henabled
    hplain.room (hplain.behaves _ _)
  have hnext := hrested.afterPost hplain.sound
    (plain callback (postLocals context pre arguments result turns).memory).1
    (((plain callback (postLocals context pre arguments result turns).memory).2).getD
      actionContinue)
  rw [← postLocals_append turns callback] at hturn hnext
  refine ⟨hturn.trans ?_, hnext⟩
  rw [← World.afterTurns_append]
  rfl

theorem postLoop_eq_takeTurns (hplain : Plainly context plain) (world : World) :
    ∀ callbacks turns, (postLocals context pre arguments result turns).Rested context phasePost →
      let later := takeTurns context plain (postPhaseOf pre arguments result)
        (callbacks.filter (world.calls phasePost)) turns
      postLoop context callbacks (postLocals context pre arguments result turns)
          (world.afterTurns turns) =
        (postLocals context pre arguments result later, world.afterTurns later) := by
  intro callbacks
  induction callbacks with
  | nil => exact fun turns _ => rfl
  | cons callback rest ih =>
    intro turns hrested
    rw [postLoop]
    by_cases hphase : callback.runsIn phasePost
    · rw [if_neg (by simpa using hphase)]
      by_cases henabled : world.registration.enabled callback.handle
      · obtain ⟨hturn, hnext⟩ := postTurn_eq_takeTurn hplain world hrested henabled
        rw [hturn, List.filter_cons_of_pos (World.calls_iff.mpr ⟨henabled, hphase⟩)]
        exact ih _ hnext
      · rw [postTurn_disabled hplain.sound hrested (by simpa [World.afterTurns] using henabled),
          List.filter_cons_of_neg fun h => henabled (World.calls_iff.mp h).1]
        exact ih turns hrested
    · rw [if_pos (by simpa using hphase),
        List.filter_cons_of_neg fun h => hphase (World.calls_iff.mp h).2]
      exact ih turns hrested

end Post

/-! ## The refinement -/

section Refinement

variable {context : DispatchContext} {plain : PlainCallback} {arguments : List Cell}
  {result : Cell} {original : List NativeArgument → NativeReturn}

/-- The result the PRE phase leaves, the original's where nobody overrode it. -/
def settledResult (context : DispatchContext) (original : List NativeArgument → NativeReturn)
    (pre : List Turn) (arguments : List Cell) (result : Cell) : Cell :=
  preResult pre
    (if supersedes pre then result
    else originalResult context original (argumentsAfter pre arguments) result)

theorem preResult_of_overridden {pre : List Turn} (first second : Cell)
    (hoverridden : overrides pre) :
    preResult pre first = preResult pre second := by
  unfold preResult
  by_cases hoverride : pre.any (·.action = actionOverride)
  · rw [lastResult_of_any hoverride first second]
  · obtain ⟨turn, hturn, haction⟩ := List.any_eq_true.mp hoverridden
    have hsupersede : pre.any (·.action = actionSupersede) := by
      refine List.any_eq_true.mpr ⟨turn, hturn, ?_⟩
      simp only [decide_eq_true_eq] at haction ⊢
      refine haction.resolve_left fun h => hoverride ?_
      exact List.any_eq_true.mpr ⟨turn, hturn, by simpa using h⟩
    exact lastResult_of_any hsupersede _ _

theorem preResult_of_not_overridden {pre : List Turn} (otherwise : Cell)
    (hoverridden : overrides pre = false) :
    preResult pre otherwise = otherwise := by
  have hnone := List.any_eq_false.mp hoverridden
  have hnot : ∀ action : Nat, action = actionOverride ∨ action = actionSupersede →
      pre.any (·.action = action) = false := by
    intro action haction
    refine List.any_eq_false.mpr fun turn hturn => ?_
    have := hnone turn hturn
    simp only [decide_eq_true_eq] at this ⊢
    rintro rfl
    exact this haction
  rw [preResult, lastResult_of_not_any (hnot _ (.inr rfl)), lastResult_of_not_any
    (hnot _ (.inl rfl))]

/-- What the dispatch records of the original: nothing when a PRE callback superseded it. -/
def originalEvents (context : DispatchContext) (pre : List Turn) (arguments : List Cell) :
    List Event :=
  if supersedes pre then []
  else [.original (originalArguments context (argumentsAfter pre arguments))]

theorem implicitOriginal_eq (hcontext : context.Sound)
    (htrampoline : context.target.trampoline = some original) {pre : List Turn}
    (hrested : (preLocals arguments result context pre).Rested context phasePre) (world : World) :
    ∃ locals, implicitOriginal context (preLocals arguments result context pre) world =
        (locals, world.after (originalEvents context pre arguments)) ∧
      locals.recalled = false ∧
      locals.enterPost = postLocals context pre arguments
        (settledResult context original pre arguments result) [] := by
  unfold implicitOriginal
  cases hsuperseded : supersedes pre with
  | true =>
    refine ⟨preLocals arguments result context pre, ?_, rfl, ?_⟩
    · rw [if_neg (by simp [preLocals, hsuperseded])]
      simp [originalEvents, hsuperseded]
    · simp [Locals.enterPost, preLocals, postLocals, postPhaseOf, settledResult, hsuperseded,
        DispatchContext.header]
  | false =>
    rw [if_pos (by simp [preLocals, hsuperseded])]
    simp only [callFunction_original hcontext htrampoline hrested.arguments]
    refine ⟨_, Prod.ext rfl ?_, rfl, ?_⟩
    · simp [originalEvents, hsuperseded, World.record, preLocals]
    · cases hoverridden : overrides pre with
      | true =>
        have hresult := preResult_of_overridden result
          (originalResult context original (argumentsAfter pre arguments) result) hoverridden
        simp [Locals.enterPost, preLocals, postLocals, postPhaseOf, settledResult, hsuperseded,
          hoverridden, hresult, DispatchContext.header]
      | false =>
        have hresult := fun otherwise => preResult_of_not_overridden otherwise hoverridden
        simp [Locals.enterPost, preLocals, postLocals, postPhaseOf, settledResult, hsuperseded,
          hoverridden, hresult, DispatchContext.header, originalResult]

theorem originalResult_operations (hcontext : context.Sound)
    (original : List NativeArgument → NativeReturn) (cells : List Cell) {home : Cell}
    (hhome : home.storage.operations = context.binding.returnObject) :
    (originalResult context original cells home).storage.operations =
      context.binding.returnObject :=
  copyValue_operations hcontext.copies hcontext.conforms.returned
    (returnedValue_settled hcontext.conforms.returned hcontext.conforms.returnBinds 0 _)
    hcontext.conforms.returnBinds (returnedValue_operations _ _ _ _) hhome

theorem settledResult_settled (hcontext : context.Sound) {pre : List Turn}
    (hrested : (preLocals arguments result context pre).Rested context phasePre)
    (hresult : result.Settled context.returnSlot)
    (hoperations : result.storage.operations = context.binding.returnObject) :
    (settledResult context original pre arguments result).Settled context.returnSlot ∧
      (settledResult context original pre arguments result).storage.operations =
        context.binding.returnObject := by
  unfold settledResult
  cases hoverridden : overrides pre with
  | true =>
    rw [preResult_of_overridden _ result hoverridden]
    exact ⟨hrested.result, hrested.operations⟩
  | false =>
    rw [preResult_of_not_overridden _ hoverridden]
    split
    · exact ⟨hresult, hoperations⟩
    · exact ⟨originalResult_settled hcontext original _ hresult,
        originalResult_operations hcontext original _ hoperations⟩

theorem postLocals_rested (hcontext : context.Sound) {pre : List Turn}
    (hrested : (preLocals arguments result context pre).Rested context phasePre)
    (hresult : result.Settled context.returnSlot)
    (hoperations : result.storage.operations = context.binding.returnObject) :
    (postLocals context pre arguments (settledResult context original pre arguments result)
      []).Rested context phasePost := by
  obtain ⟨hsettled, hbound⟩ := settledResult_settled hcontext hrested hresult hoperations
  refine ⟨hrested.arguments, hsettled, hbound, ?_⟩
  have hflags : flagsAfter pre 0 = carriedFlags false (flagsAfter pre 0) :=
    congrArg KeelHookFrame.flags hrested.frame
  simp only [postLocals, postPhaseOf, flagsAfter_nil, postResult_nil, DispatchContext.header]
  cases supersedes pre with
  | true =>
    simp only [if_true, Bool.not_true]
    rw [← hflags]
  | false =>
    simp only [Bool.false_eq_true, if_false, Bool.not_false]
    rw [hflags, carriedFlags_originalCalled]

/-- The callbacks of a snapshot that a dispatch may call, in order. -/
def World.ordered (world : World) : List CallbackRecord :=
  (sortCallbacks world.registration.callbacks).filter (world.registration.enabled ·.handle)

theorem World.ordered_filter (world : World) (phase : Nat) :
    world.ordered.filter (·.runsIn phase) =
      (sortCallbacks world.registration.callbacks).filter (world.calls phase) := by
  rw [World.ordered, List.filter_filter]
  congr 1
  funext callback
  exact Bool.and_comm _ _

theorem World.ordered_filter_reverse (world : World) (phase : Nat) :
    (world.ordered.filter (·.runsIn phase)).reverse =
      (sortCallbacks world.registration.callbacks).reverse.filter (world.calls phase) := by
  rw [World.ordered_filter, List.filter_reverse]

theorem World.after_calls (world : World) (events : List Event) :
    (world.after events).calls = world.calls := rfl

theorem dispatchCallbacks_eq_reference (hplain : Plainly context plain)
    (htrampoline : context.target.trampoline = some original)
    (harguments : List.Forall₂ Cell.Passable context.argumentSlots arguments)
    (hresult : result.Settled context.returnSlot)
    (hoperations : result.storage.operations = context.binding.returnObject) (world : World) :
    let run := reference context plain original world.ordered arguments result
    ∃ locals, dispatchCallbacks context none (context.locals none arguments result) world =
      (locals, world.after run.events) ∧ locals.result = run.result := by
  have hflags : carriedFlags false 0 = 0 := by decide
  have hstart : (preLocals arguments result context []).Rested context phasePre := by
    refine ⟨harguments, hresult, hoperations, ?_⟩
    simp [preLocals, flagsAfter_nil, DispatchContext.header, hflags]
  obtain ⟨hpre, hrested⟩ := preLoop_eq_takeTurns arguments result hplain world
    (sortCallbacks world.registration.callbacks) [] hstart
  rw [← World.ordered_filter] at hpre hrested
  set pre := takeTurns context plain (prePhaseOf arguments result)
    (world.ordered.filter (·.runsIn phasePre)) [] with hturns
  obtain ⟨locals, horiginal, hrecalled, henter⟩ := implicitOriginal_eq hplain.sound htrampoline
    hrested (world.afterTurns pre)
  -- the POST loop goes over the same snapshot backwards
  have hpostRested : (postLocals context pre arguments
      (settledResult context original pre arguments result) []).Rested context phasePost :=
    postLocals_rested hplain.sound hrested hresult hoperations
  have hpost := postLoop_eq_takeTurns hplain
    ((world.afterTurns pre).after (originalEvents context pre arguments))
    (sortCallbacks world.registration.callbacks).reverse [] hpostRested
  simp only [World.afterTurns, World.after_calls, ← World.ordered_filter_reverse, List.map_nil,
    World.after_nil] at hpost hpre horiginal
  have hlocals : context.locals none arguments result = preLocals arguments result context [] := rfl
  have hrun : dispatchCallbacks context none (context.locals none arguments result) world =
      postLoop context (sortCallbacks world.registration.callbacks).reverse
        (postLocals context pre arguments (settledResult context original pre arguments result) [])
        ((world.after (pre.map Turn.event)).after (originalEvents context pre arguments)) := by
    rw [dispatchCallbacks, hlocals, preCallbacks, hpre]
    dsimp only
    rw [horiginal]
    dsimp only
    rw [postPhase, if_neg (by simp [hrecalled]), henter]
  refine ⟨_, (hrun.trans hpost).trans (Prod.ext rfl ?_), rfl⟩
  dsimp only
  rw [World.after_after, World.after_after, ← List.append_assoc]
  congr 3
  cases hsuperseded : supersedes pre <;>
    simp [originalEvents, reference, ← hturns, hsuperseded]

theorem takeTurns_callbacks (context : DispatchContext) (plain : PlainCallback) (phase : Phase) :
    ∀ callbacks turns, (takeTurns context plain phase callbacks turns).map (·.callback) =
      turns.map (·.callback) ++ callbacks := by
  intro callbacks
  induction callbacks with
  | nil => intro turns; simp [takeTurns]
  | cons callback rest ih =>
    intro turns
    rw [takeTurns, ih]
    simp [takeTurn, Phase.turn]

theorem received_passable (hcontext : context.Sound) (received : List NativeArgument) :
    List.Forall₂ Cell.Passable context.argumentSlots (context.received received) :=
  formatArguments_passable
    (extractArguments_passable hcontext.copies _ hcontext.conforms.described
      hcontext.conforms.argumentBinds _ _)
    hcontext.conforms.format _

theorem initialResult_operations :
    (context.initialResult none).storage.operations = context.binding.returnObject :=
  prepare_operations _ _ _

theorem initialResult_settled (hcontext : context.Sound) :
    (context.initialResult none).Settled context.returnSlot :=
  initializeValue_settled hcontext.conforms.returned hcontext.conforms.returnBinds _ _

/-- **A dispatch is the reference fold.** Where no callback makes a control call, copies of
objects succeed and no stack is exhausted, `Dispatch` returns the fold's result and makes the
fold's calls in the fold's order: the enabled PRE callbacks by descending priority and
ascending sequence, the original unless one of them superseded it, and the enabled POST
callbacks in the reverse order. -/
theorem dispatch_eq_reference {environment : Environment} {target : DispatchTarget}
    {binding : PrototypeBinding} (hconforms : target.prototype.Conforms binding)
    (hcopies : environment.lifecycle.CopiesSucceed)
    (htrampoline : target.trampoline = some original)
    (hplain : ∀ callback seen, environment.behaviour callback seen =
      .done (plain callback seen).1 (plain callback seen).2)
    {world : World} (hbinding : world.registration.binding = some binding)
    {room depth callbackDepth : Nat} (hroom : 0 < room) (hdepth : depth < dispatchStackSize)
    (hcallbacks : callbackDepth < callbackStackSize) (received : List NativeArgument) :
    let context := dispatchContext environment target binding room depth callbackDepth
    let run := reference context plain original world.ordered (context.received received)
      (context.initialResult none)
    dispatch environment target room depth callbackDepth none received world =
        (storeNativeResult environment.lifecycle environment.memory.foreign
          target.prototype.returnSlot run.result, world.after run.events) ∧
      run.pre.map (·.callback) = world.ordered.filter (·.runsIn phasePre) ∧
      run.post.map (·.callback) = (world.ordered.filter (·.runsIn phasePost)).reverse ∧
      world.ordered.Pairwise CallbackRecord.precedes := by
  intro context run
  have hsound : context.Sound := ⟨hconforms, hcopies⟩
  refine ⟨?_, ?_, ?_, (sortCallbacks_pairwise _).filter _⟩
  · have hplainly : Plainly context plain := ⟨hsound, hcallbacks, hplain⟩
    obtain ⟨locals, hcallbacks, hresult⟩ := dispatchCallbacks_eq_reference hplainly htrampoline
      (received_passable hsound received) (initialResult_settled hsound)
      initialResult_operations world
    rw [dispatch_of_binding hbinding, dispatchBound]
    dsimp only
    rw [if_neg (by
      have hfull : (room == 0) = false := by simp; omega
      rw [hfull]
      simpa [dispatchContext] using hdepth)]
    rw [hcallbacks]
    dsimp only
    rw [hresult]
    rfl
  · exact takeTurns_callbacks _ _ _ _ _
  · exact takeTurns_callbacks _ _ _ _ _

end Refinement

/-! ## A callback that edits one argument well and one badly -/

def valueInt32 : KeelHookValueType := 6

/-- `void f(int32_t, int32_t)`. -/
def takesTwo : PrototypeData where
  callingConvention := callNative
  returnType := valueVoid
  arguments := [valueInt32, valueInt32]
  returnShape := ⟨none, none⟩
  argumentShapes := [⟨none, none⟩, ⟨none, none⟩]
  aggregateIdentity := "R-A-A-".toList
  method := false
  vafmt := false

def noObjects : PrototypeBinding := ⟨none, [none, none]⟩

theorem takesTwo_conforms : takesTwo.Conforms noObjects := by
  have hslot : ∀ type : Nat, (none : Option Description).isSome = (type == valueAggregate) →
      (ValueSlot.mk type ⟨none, none⟩).Described := fun _ => ValueShape.WellFormed.plain.described
  refine ⟨hslot _ rfl, ?_, Iff.rfl, .cons Iff.rfl (.cons Iff.rfl .nil), by decide⟩
  simp [PrototypeData.argumentSlots, takesTwo, hslot valueInt32 rfl]

def hookedTwo : DispatchTarget where
  handle := 1
  prototype := takesTwo
  trampoline := some fun _ => .zero
  closure := true

/-- Sets the first argument to 7 and spoils the type of the second. -/
def spoilsSecond : PlainCallback := fun _ seen =>
  ({ seen with arguments :=
      [(⟨valueInt32, 0, 7, 0, 0⟩, zeroBytes), (⟨valuePointer, 0, 8, 0, 0⟩, zeroBytes)] },
    some actionContinue)

def quietPlugins (plain : PlainCallback) : Environment where
  lifecycle := ⟨fun _ => some [], fun _ bytes => some bytes, fun _ _ bytes => some bytes⟩
  memory := ⟨fun _ => none, 1⟩
  formatted := 2
  layout _ := ⟨3, fun index => 100 + UInt64.ofNat index, 4⟩
  receive _ pushed := pushed
  behaviour callback seen := .done (plain callback seen).1 (plain callback seen).2

/-- One enabled PRE callback. -/
def oneCallback : World where
  registration :=
    { callbacks := [⟨1, 1, phasePre, 0, 1⟩], enabled := fun _ => true, binding := some noObjects }
  events := []

def oneAndTwo : List NativeArgument := [⟨valueInt32, 1, []⟩, ⟨valueInt32, 2, []⟩]

/-- **An edit survives the refusal of another.** The callback leaves its second argument
ill-typed. That one is put back, but its edit of the first reaches the original. -/
theorem edit_survives_refused_neighbour :
    (runtimeValueValid ⟨valueInt32, ⟨none, none⟩⟩ ⟨valuePointer, 0, 8, 0, 0⟩
        (.fresh 101)).1 = false ∧
      (dispatch (quietPlugins spoilsSecond) hookedTwo 64 0 0 none oneAndTwo
        oneCallback).2.events.getLast? =
        some (.original [⟨valueInt32, 7, []⟩, ⟨valueInt32, 2, []⟩]) := by
  decide

/-- The refinement at that dispatch. -/
theorem dispatch_eq_reference_takesTwo :
    let context := dispatchContext (quietPlugins spoilsSecond) hookedTwo noObjects 64 0 0
    let run := reference context spoilsSecond (fun _ => .zero) oneCallback.ordered
      (context.received oneAndTwo) (context.initialResult none)
    dispatch (quietPlugins spoilsSecond) hookedTwo 64 0 0 none oneAndTwo oneCallback =
        (storeNativeResult (quietPlugins spoilsSecond).lifecycle
          (quietPlugins spoilsSecond).memory.foreign hookedTwo.prototype.returnSlot run.result,
          oneCallback.after run.events) ∧
      run.pre.map (·.callback) = oneCallback.ordered.filter (·.runsIn phasePre) ∧
      run.post.map (·.callback) = (oneCallback.ordered.filter (·.runsIn phasePost)).reverse ∧
      oneCallback.ordered.Pairwise CallbackRecord.precedes :=
  dispatch_eq_reference takesTwo_conforms (fun _ _ => rfl) rfl (fun _ _ => rfl) rfl (by decide)
    (by decide) (by decide) oneAndTwo

end KeelS2.KeelHook
