import KeelS2.KeelHook.Conforms
import KeelS2.KeelHook.Dispatch

/-!
# One turn of a callback that makes no control call

Between two callbacks every value of a dispatch is settled, so what was put aside before a
turn comes back exactly. A turn then comes to this: the arguments and the result the callback
left, each edit accepted or refused on its own, and what its action makes of them.
-/

namespace KeelS2.KeelHook

/-! ## Accepted edits -/

/-- The arguments after a callback's edits, each accepted or refused. -/
def acceptArguments : List ValueSlot → List Cell → List (KeelHookValue × Bytes) → List Cell
  | slot :: slots, cell :: cells, (value, bytes) :: rest =>
    acceptEdit slot cell (cell.write slot value bytes) :: acceptArguments slots cells rest
  | _, cells, _ => cells

@[simp]
theorem writeArguments_nil (slots : List ValueSlot) (cells : List Cell) :
    writeArguments slots cells [] = cells := by
  cases slots <;> cases cells <;> rfl

@[simp]
theorem acceptArguments_nil (slots : List ValueSlot) (cells : List Cell) :
    acceptArguments slots cells [] = cells := by
  cases slots <;> cases cells <;> rfl

section Arguments

variable {lifecycle : Lifecycle} {slots : List ValueSlot} {cells : List Cell}

theorem acceptArguments_passable (hslots : ∀ slot ∈ slots, slot.Described)
    (hcells : List.Forall₂ Cell.Passable slots cells) :
    ∀ writes, List.Forall₂ Cell.Passable slots (acceptArguments slots cells writes) := by
  induction hcells with
  | nil => exact fun _ => .nil
  | @cons slot cell slots cells hcell hcells ih =>
    intro writes
    have hrest := ih fun s hs => hslots s (List.mem_cons_of_mem _ hs)
    cases writes with
    | nil => exact .cons hcell hcells
    | cons write writes =>
      exact .cons (acceptEdit_passable (hslots _ List.mem_cons_self) hcell _ _) (hrest writes)

theorem validateArguments_eq_acceptArguments (hcopies : lifecycle.CopiesSucceed)
    (hslots : ∀ slot ∈ slots, slot.Described) (hcells : List.Forall₂ Cell.Passable slots cells) :
    ∀ asides writes, asides.length = cells.length →
      validateArguments lifecycle slots (copyArguments lifecycle slots cells asides)
          (writeArguments slots cells writes) =
        acceptArguments slots cells writes := by
  induction hcells with
  | nil => intro asides writes _; cases writes <;> cases asides <;> rfl
  | @cons slot cell slots cells hcell hcells ih =>
    intro asides writes hlength
    have hslot := hslots slot List.mem_cons_self
    have hrest := ih fun s hs => hslots s (List.mem_cons_of_mem _ hs)
    cases asides with
    | nil => simp at hlength
    | cons aside asides =>
      have htail := fun writes => hrest asides writes (by simpa using hlength)
      cases writes with
      | nil =>
        have hnil := htail []
        simp only [writeArguments_nil, acceptArguments_nil] at hnil ⊢
        rw [copyArguments, validateArguments, hcell.toSettled.validateValue_self hslot, hnil]
      | cons write writes =>
        obtain ⟨value, bytes⟩ := write
        simp [writeArguments, acceptArguments, copyArguments, validateArguments, htail writes,
            validateValue_eq_acceptEdit hcopies hslot hcell.toSettled aside]

theorem copyArguments_restore (hcopies : lifecycle.CopiesSucceed)
    (hslots : ∀ slot ∈ slots, slot.Described) (hcells : List.Forall₂ Cell.Passable slots cells) :
    ∀ asides writes, asides.length = cells.length →
      copyArguments lifecycle slots (copyArguments lifecycle slots cells asides)
        (acceptArguments slots cells writes) = cells := by
  induction hcells with
  | nil => intro asides writes _; cases asides <;> cases writes <;> rfl
  | @cons slot cell slots cells hcell hcells ih =>
    intro asides writes hlength
    have hslot := hslots slot List.mem_cons_self
    have hrest := ih fun s hs => hslots s (List.mem_cons_of_mem _ hs)
    cases asides with
    | nil => simp at hlength
    | cons aside asides =>
      have htail := fun writes => hrest asides writes (by simpa using hlength)
      cases writes with
      | nil =>
        have hnil := htail []
        rw [acceptArguments_nil] at hnil ⊢
        rw [copyArguments, copyArguments, hnil,
          copyValue_restore hcopies hslot hcell.toSettled aside ⟨rfl, fun _ => rfl⟩]
      | cons write writes =>
        obtain ⟨value, bytes⟩ := write
        rw [acceptArguments, copyArguments, copyArguments, htail writes,
          copyValue_restore hcopies hslot hcell.toSettled aside (acceptEdit_editOf value bytes)]

end Arguments

/-! ## The local variables between two turns -/

theorem carriedFlags_carriedFlags (originalCalled : Bool) (flags : Nat) :
    carriedFlags originalCalled (carriedFlags originalCalled flags) =
      carriedFlags originalCalled flags := by
  unfold carriedFlags
  rw [Nat.and_or_distrib_right, Nat.and_assoc, Nat.and_self]
  cases originalCalled <;> simp [frameOriginalCalled, frameRecalled]

theorem carriedFlags_originalCalled (flags : Nat) :
    carriedFlags true (carriedFlags false flags ||| frameOriginalCalled) =
      carriedFlags false flags ||| frameOriginalCalled := by
  have hbits : frameOriginalCalled &&& frameRecalled = 0 := rfl
  simp only [carriedFlags, if_true, Bool.false_eq_true, if_false, Nat.zero_or]
  rw [Nat.and_or_distrib_right, Nat.and_assoc, Nat.and_self, hbits, Nat.or_zero, Nat.or_comm]

/-- Between two turns everything is settled, and the frame is what the dispatcher wrote. -/
structure Locals.Rested (context : DispatchContext) (phase : Nat) (locals : Locals) : Prop where
  arguments : List.Forall₂ Cell.Passable context.argumentSlots locals.arguments
  result : locals.result.Settled context.returnSlot
  operations : locals.result.storage.operations = context.binding.returnObject
  frame : locals.frame = context.header phase
    (carriedFlags locals.originalCalled locals.frame.flags) locals.result.value

/-- A context whose target conforms to the binding the dispatch uses, and whose plugins copy
objects without failing. -/
structure DispatchContext.Sound (context : DispatchContext) : Prop where
  conforms : context.prototype.Conforms context.binding
  copies : context.lifecycle.CopiesSucceed

/-- The result a callback left, if its edit is accepted. -/
def Locals.leftResult (context : DispatchContext) (locals : Locals) (left : FrameMemory) : Cell :=
  acceptEdit context.returnSlot locals.result
    (locals.result.write context.returnSlot left.frame.result left.resultBytes)

/-- A turn's outcome: whether the edits of the arguments are kept, and whether the edited
result is taken. -/
def Locals.after (context : DispatchContext) (phase : Nat) (locals : Locals) (left : FrameMemory)
    (keeps takes : Bool) : Locals :=
  let result := if takes then locals.leftResult context left else locals.result
  { locals with
    arguments :=
      if keeps then acceptArguments context.argumentSlots locals.arguments left.arguments
      else locals.arguments
    result
    frame := context.header phase (carriedFlags locals.originalCalled left.frame.flags)
      result.value }

section Turns

variable {context : DispatchContext} {locals : Locals} {phase : Nat}

theorem Locals.Rested.after (hcontext : context.Sound) (hrested : locals.Rested context phase)
    (left : FrameMemory) (keeps takes : Bool) :
    (locals.after context phase left keeps takes).Rested context phase := by
  refine ⟨?_, ?_, ?_, ?_⟩
  · show List.Forall₂ _ _ (if keeps then _ else _)
    cases keeps with
    | true => exact acceptArguments_passable hcontext.conforms.described hrested.arguments _
    | false => exact hrested.arguments
  · show (if takes then _ else _ : Cell).Settled _
    cases takes with
    | true => exact acceptEdit_settled hcontext.conforms.returned hrested.result _ _
    | false => exact hrested.result
  · show (if takes then _ else _ : Cell).storage.operations = _
    cases takes with
    | true => exact (acceptEdit_operations _ _).trans hrested.operations
    | false => exact hrested.operations
  · simp [Locals.after, DispatchContext.header, carriedFlags_carriedFlags]

theorem validateFrame_write (hcontext : context.Sound) (hrested : locals.Rested context phase)
    (left : FrameMemory) :
    validateFrame context phase (snapshotValues context locals) (locals.write context left) =
      { locals with
        arguments := acceptArguments context.argumentSlots locals.arguments left.arguments
        result := ⟨locals.result.value, (locals.leftResult context left).storage⟩
        frame := context.header phase (carriedFlags locals.originalCalled left.frame.flags)
          (locals.leftResult context left).value } := by
  have hresult := validateValue_eq_acceptEdit hcontext.copies hcontext.conforms.returned
    hrested.result (.fresh 0) left.frame.result left.resultBytes
  have harguments := validateArguments_eq_acceptArguments hcontext.copies
    hcontext.conforms.described hrested.arguments (locals.arguments.map fun _ => .fresh 0)
    left.arguments (by simp)
  simp only [validateFrame, snapshotValues, Locals.write, Locals.edited, Locals.leftResult]
  rw [harguments]
  simp only [Cell.write] at hresult
  rw [hresult]
  rfl

theorem restoreResult_eq (hcontext : context.Sound) (hrested : locals.Rested context phase)
    (left : FrameMemory) {later : Locals}
    (hlater : later.result.storage = (locals.leftResult context left).storage) :
    restoreResult context (snapshotValues context locals) later =
      { later with result := locals.result } := by
  have hedit : (locals.leftResult context left).EditOf context.returnSlot locals.result :=
    acceptEdit_editOf left.frame.result left.resultBytes
  rw [restoreResult, snapshotValues,
    copyValue_restore hcontext.copies hcontext.conforms.returned hrested.result (.fresh 0)
      ⟨by rw [hlater]; exact hedit.address, fun h => by rw [hlater]; exact hedit.scalar h⟩]

theorem restoreArguments_eq (hcontext : context.Sound) (hrested : locals.Rested context phase)
    (left : FrameMemory) {later : Locals}
    (hlater : later.arguments =
      acceptArguments context.argumentSlots locals.arguments left.arguments) :
    restoreArguments context (snapshotValues context locals) later =
      { later with arguments := locals.arguments } := by
  rw [restoreArguments, snapshotValues, hlater,
    copyArguments_restore hcontext.copies hcontext.conforms.described hrested.arguments _ _
      (by simp)]

/-! ## A turn of the PRE loop -/

/-- What a PRE callback's action does with its edits: only an unknown action refuses the
arguments, and a result is taken with SUPERSEDE, or with OVERRIDE while nothing supersedes. -/
def Locals.afterPre (context : DispatchContext) (locals : Locals) (left : FrameMemory)
    (action : KeelHookAction) : Locals :=
  let takes := action = actionSupersede ∨ (action = actionOverride ∧ !locals.superseded)
  { locals.after context phasePre left (action ≤ actionSupersede) takes with
    overridden := locals.overridden || takes
    superseded := locals.superseded || action = actionSupersede }

theorem applyPreAction_eq (hcontext : context.Sound) (hrested : locals.Rested context phasePre)
    (left : FrameMemory) (action : Nat) :
    (applyPreAction context (snapshotValues context locals) false action
        (validateFrame context phasePre (snapshotValues context locals)
          (locals.write context left))).showResult =
      locals.afterPre context left action := by
  rw [validateFrame_write hcontext hrested left]
  unfold applyPreAction
  by_cases hcontinue : action = actionContinue
  · rw [if_pos hcontinue, if_neg (by decide), restoreResult_eq hcontext hrested left rfl]
    simp [Locals.showResult, Locals.afterPre, Locals.after, DispatchContext.header, hcontinue,
      actionContinue, actionOverride, actionSupersede]
  by_cases hoverride : action = actionOverride
  · rw [if_neg hcontinue, if_pos hoverride]
    cases hsuperseded : locals.superseded with
    | true =>
      rw [if_neg (by simp), restoreResult_eq hcontext hrested left rfl]
      simp [Locals.showResult, Locals.afterPre, Locals.after, DispatchContext.header, hoverride,
        actionOverride, actionSupersede, hsuperseded]
    | false =>
      rw [if_pos (by simp)]
      simp [Locals.showResult, Locals.afterPre, Locals.after, Locals.edited,
        DispatchContext.header, hoverride, actionOverride, actionSupersede, hsuperseded]
  by_cases hsupersede : action = actionSupersede
  · rw [if_neg hcontinue, if_neg hoverride, if_pos hsupersede]
    simp [Locals.showResult, Locals.afterPre, Locals.after, Locals.edited,
      DispatchContext.header, hsupersede]
  · have hunknown : ¬ action ≤ actionSupersede := by
      simp only [actionContinue, actionOverride, actionSupersede]
        at hcontinue hoverride hsupersede ⊢
      omega
    rw [if_neg hcontinue, if_neg hoverride, if_neg hsupersede, if_neg (by decide),
      restoreArguments_eq hcontext hrested left rfl, restoreResult_eq hcontext hrested left rfl]
    simp [Locals.showResult, Locals.afterPre, Locals.after, DispatchContext.header, hunknown,
      hoverride, hsupersede]

theorem Locals.Rested.afterPre (hcontext : context.Sound)
    (hrested : locals.Rested context phasePre) (left : FrameMemory) (action : Nat) :
    (locals.afterPre context left action).Rested context phasePre := by
  have hafter := hrested.after hcontext left (action ≤ actionSupersede)
    (action = actionSupersede ∨ (action = actionOverride ∧ !locals.superseded))
  exact ⟨hafter.arguments, hafter.result, hafter.operations, hafter.frame⟩

theorem preTurn_plain (hcontext : context.Sound) (hrested : locals.Rested context phasePre)
    (world : World) {callback : CallbackRecord} {left : FrameMemory}
    {action : Option KeelHookAction} (henabled : world.registration.enabled callback.handle)
    (hroom : context.callbackDepth < callbackStackSize)
    (hdone : context.environment.behaviour callback locals.memory = .done left action) :
    preTurn context callback locals world =
      (locals.afterPre context left (action.getD actionContinue),
        world.record (.callback callback locals.memory)) := by
  have hturn := applyPreAction_eq hcontext hrested left (action.getD actionContinue)
  have hcalled : (locals.write context left).originalCalled = locals.originalCalled := rfl
  have hexplicit : (!locals.originalCalled && (validateFrame context phasePre
      (snapshotValues context locals) (locals.write context left)).originalCalled) = false := by
    simp [validateFrame, hcalled]
  unfold preTurn invokeCallback
  rw [if_neg (by simpa using henabled), if_neg (by omega), hdone]
  simp [runScript, hexplicit, hturn]

/-- What a callback that is not called would have to leave. -/
def Locals.idle (locals : Locals) : FrameMemory :=
  { frame := locals.frame, arguments := [], resultBytes := locals.result.storage.bytes }

theorem Locals.Rested.write_idle (hrested : locals.Rested context phase) :
    locals.write context locals.idle = locals := by
  unfold Locals.write Locals.idle
  simp [writeArguments_nil, hrested.result.write_self]

theorem preTurn_disabled (hcontext : context.Sound) (hrested : locals.Rested context phasePre)
    {callback : CallbackRecord} {world : World}
    (hdisabled : world.registration.enabled callback.handle = false) :
    preTurn context callback locals world = (locals, world) := by
  have hturn := applyPreAction_eq hcontext hrested locals.idle actionContinue
  rw [hrested.write_idle] at hturn
  have hexplicit : (!locals.originalCalled && (validateFrame context phasePre
      (snapshotValues context locals) locals).originalCalled) = false := by
    simp [validateFrame]
  have hidle : locals.afterPre context locals.idle actionContinue = locals := by
    have hframe : context.header phasePre (carriedFlags locals.originalCalled
        locals.idle.frame.flags) locals.result.value = locals.frame := hrested.frame.symm
    simp [Locals.afterPre, Locals.after, actionContinue, actionOverride, actionSupersede,
      Locals.idle] at hframe ⊢
    rw [hframe]
  unfold preTurn invokeCallback
  rw [if_pos (by simpa using hdisabled)]
  simp [hexplicit, hturn, hidle]

/-! ## A turn of the POST loop -/

/-- In the POST phase only OVERRIDE takes the result, and SUPERSEDE is an unknown action. -/
def Locals.afterPost (context : DispatchContext) (locals : Locals) (left : FrameMemory)
    (action : KeelHookAction) : Locals :=
  locals.after context phasePost left (action ≤ actionOverride) (action = actionOverride)

theorem applyPostAction_eq (hcontext : context.Sound) (hrested : locals.Rested context phasePost)
    (left : FrameMemory) (action : Nat) :
    (applyPostAction context (snapshotValues context locals) action
        (validateFrame context phasePost (snapshotValues context locals)
          (locals.write context left))).showResult =
      locals.afterPost context left action := by
  rw [validateFrame_write hcontext hrested left]
  unfold applyPostAction
  by_cases hoverride : action = actionOverride
  · rw [if_pos hoverride]
    simp [Locals.showResult, Locals.afterPost, Locals.after, Locals.edited,
      DispatchContext.header, hoverride]
  by_cases hcontinue : action = actionContinue
  · rw [if_neg hoverride, if_neg (by simpa using hcontinue),
      restoreResult_eq hcontext hrested left rfl]
    simp [Locals.showResult, Locals.afterPost, Locals.after, DispatchContext.header, hcontinue,
      actionContinue, actionOverride]
  · have hunknown : ¬ action ≤ actionOverride := by
      simp only [actionContinue, actionOverride] at hcontinue hoverride ⊢
      omega
    rw [if_neg hoverride, if_pos hcontinue, restoreArguments_eq hcontext hrested left rfl,
      restoreResult_eq hcontext hrested left rfl]
    simp [Locals.showResult, Locals.afterPost, Locals.after, DispatchContext.header, hunknown,
      hoverride]

theorem Locals.Rested.afterPost (hcontext : context.Sound)
    (hrested : locals.Rested context phasePost) (left : FrameMemory) (action : Nat) :
    (locals.afterPost context left action).Rested context phasePost :=
  hrested.after hcontext left _ _

theorem postTurn_plain (hcontext : context.Sound) (hrested : locals.Rested context phasePost)
    (world : World) {callback : CallbackRecord} {left : FrameMemory}
    {action : Option KeelHookAction} (henabled : world.registration.enabled callback.handle)
    (hroom : context.callbackDepth < callbackStackSize)
    (hdone : context.environment.behaviour callback locals.memory = .done left action) :
    postTurn context callback locals world =
      (locals.afterPost context left (action.getD actionContinue),
        world.record (.callback callback locals.memory)) := by
  have hturn := applyPostAction_eq hcontext hrested left (action.getD actionContinue)
  unfold postTurn invokeCallback
  rw [if_neg (by simpa using henabled), if_neg (by omega), hdone]
  simp [runScript, hturn]

theorem postTurn_disabled (hcontext : context.Sound) (hrested : locals.Rested context phasePost)
    {callback : CallbackRecord} {world : World}
    (hdisabled : world.registration.enabled callback.handle = false) :
    postTurn context callback locals world = (locals, world) := by
  have hturn := applyPostAction_eq hcontext hrested locals.idle actionContinue
  rw [hrested.write_idle] at hturn
  have hidle : locals.afterPost context locals.idle actionContinue = locals := by
    have hframe : context.header phasePost (carriedFlags locals.originalCalled
        locals.idle.frame.flags) locals.result.value = locals.frame := hrested.frame.symm
    simp [Locals.afterPost, Locals.after, actionContinue, actionOverride, Locals.idle] at hframe ⊢
    rw [hframe]
  unfold postTurn invokeCallback
  rw [if_pos (by simpa using hdisabled)]
  simp [hturn, hidle]

end Turns

end KeelS2.KeelHook
