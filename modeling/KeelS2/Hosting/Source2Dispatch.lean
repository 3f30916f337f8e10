import KeelS2.KeelHook.Abi
import Mathlib.Data.List.Sort
import Mathlib.Data.List.TakeWhile

/-!
# The dispatch of Source 2 events

`Source2CallbacksService::Dispatch`: the subscriptions of an event are called from a sorted
snapshot, and each of them may reject a client's connection or command. A callback may do anything
to the rest of the program, and other threads run beside it: what they are is the world, and the
world says what is enabled and what a callback does.
-/

namespace KeelS2.Hosting.Source2

abbrev Handle := Nat

/-- `KEELS2_SOURCE2_REJECTION_CAPACITY`. -/
def rejectionCapacity : Nat := 256

/-- `callback_stack_.size()`. -/
def callbackStackSize : Nat := 64

def gameEventType : Nat := 3
def clientConnectType : Nat := 4
def clientCommandType : Nat := 5

/-- The buffer that a callback gets for its rejection. -/
abbrev RejectionBuffer := { bytes : Text // bytes.length = rejectionCapacity }

def RejectionBuffer.zero : RejectionBuffer :=
  ⟨List.replicate rejectionCapacity '\x00', List.length_replicate⟩

structure Subscription where
  handle : Handle
  type : Nat
  priority : Int
  sequence : Nat
  gameEvent : Text
  deriving DecidableEq, Repr

/-- `KeelSource2CallbackEvent` with its payload: `valid` is what `ValidEnvelope` says, `name` is a
game event's, and the rejection is the caller's buffer and its capacity. -/
structure Event where
  valid : Bool
  type : Nat
  name : Text
  rejectionMessage : Option Text
  rejectionCapacity : Nat
  deriving DecidableEq, Repr

variable {World : Type*}

/-- The rest of the program. `enabled` is the flag of a subscription under the registry's mutex;
`look` is the flag at the callback's turn, with what other threads have done until then. A call
answers nothing if the callback throws. -/
structure Program (World : Type*) where
  enabled : World → Handle → Bool
  look : Handle → World → Bool × World
  call : Handle → Event → World → Option Nat × RejectionBuffer × World

/-- `subscriptions_`, in the order of its iteration, and `shutting_down_`. Sequences are given out
once. -/
structure Registry where
  subscriptions : List Subscription
  shuttingDown : Bool
  distinct : (subscriptions.map Subscription.sequence).Nodup

/-- What a callback's turn has come to: the flag, and the answer and the buffer if it was
called. -/
structure Turn where
  handle : Handle
  enabled : Bool
  called : Option (Option Nat × RejectionBuffer)

/-- The comparison of `std::sort`, where it does not say that `right` is first. -/
def before (left right : Subscription) : Bool :=
  if left.priority ≠ right.priority then right.priority < left.priority
  else left.sequence ≤ right.sequence

def wanted (program : Program World) (world : World) (event : Event)
    (subscription : Subscription) : Bool :=
  subscription.type = event.type && program.enabled world subscription.handle &&
    (event.type ≠ gameEventType || subscription.gameEvent = event.name)

/-- The snapshot, sorted. -/
def snapshot (program : Program World) (registry : Registry) (world : World) (event : Event) :
    List Subscription :=
  (registry.subscriptions.filter (wanted program world event)).mergeSort before

/-- `KEEL_FALSE` is the answer of a callback that was called, to an event that can be rejected. -/
def Turn.rejects (event : Event) (turn : Turn) : Bool :=
  (event.type = clientConnectType || event.type = clientCommandType) &&
    match turn.called with
    | some (some answer, _) => answer = 0
    | _ => false

/-- `"Connection rejected by a KeelS2 plugin"`. -/
def defaultRejection : Text :=
  ['C', 'o', 'n', 'n', 'e', 'c', 't', 'i', 'o', 'n', ' ', 'r', 'e', 'j', 'e', 'c', 't', 'e',
    'd', ' ', 'b', 'y', ' ', 'a', ' ', 'K', 'e', 'e', 'l', 'S', '2', ' ', 'p', 'l', 'u', 'g', 'i',
    'n']

/-- The text of a buffer whose last byte is made the end, or the one for an empty text. -/
def rejectionText (buffer : RejectionBuffer) : Text :=
  let text := (buffer.val.take (rejectionCapacity - 1)).takeWhile (· ≠ '\x00')
  if text = [] then defaultRejection else text

/-- The locals of `Dispatch`, with the turns that were taken. -/
structure Progress (World : Type*) where
  world : World
  accepted : Bool
  winningRejection : Text
  turns : List Turn

/-- One turn of the loop; `depth` is `callback_depth_`. -/
def takeTurn (program : Program World) (depth : Nat) (event : Event)
    (progress : Progress World) (subscription : Subscription) : Progress World :=
  let (enabled, world) := program.look subscription.handle progress.world
  if !enabled || depth = callbackStackSize then
    { progress with
      world := world
      turns := progress.turns ++ [⟨subscription.handle, enabled, none⟩] }
  else
    let (answer, buffer, world) := program.call subscription.handle event world
    let turn : Turn := ⟨subscription.handle, enabled, some (answer, buffer)⟩
    let rejection :=
      if turn.rejects event && progress.accepted && event.type = clientConnectType then
        (rejectionText buffer).take (rejectionCapacity - 1)
      else progress.winningRejection
    { world := world
      accepted := progress.accepted && !turn.rejects event
      winningRejection := rejection
      turns := progress.turns ++ [turn] }

/-- The text in a buffer of that capacity, cut off, with its end. -/
def putText (buffer text : Text) (capacity : Nat) : Text :=
  let text := text.take (capacity - 1)
  text ++ '\x00' :: buffer.drop (text.length + 1)

/-- What `Dispatch` leaves: its answer, the caller's buffer, and the turns. -/
structure Outcome (World : Type*) where
  accepted : Bool
  rejectionMessage : Option Text
  world : World
  turns : List Turn

/-- The loop of `Dispatch`. -/
def takeTurns (program : Program World) (depth : Nat) (event : Event) (world : World)
    (subscriptions : List Subscription) : Progress World :=
  subscriptions.foldl (takeTurn program depth event) ⟨world, true, [], []⟩

/-- What `Dispatch` puts into the caller's buffer. -/
def putRejection (event : Event) (progress : Progress World) : Option Text :=
  if !progress.accepted && event.type = clientConnectType && event.rejectionCapacity ≠ 0 then
    event.rejectionMessage.map (putText · progress.winningRejection event.rejectionCapacity)
  else event.rejectionMessage

def dispatch (program : Program World) (depth : Nat) (registry : Registry) (event : Event)
    (world : World) : Outcome World :=
  if !event.valid || registry.shuttingDown then ⟨true, event.rejectionMessage, world, []⟩
  else
    let progress :=
      takeTurns program depth event world (snapshot program registry world event)
    ⟨progress.accepted, putRejection event progress, progress.world, progress.turns⟩

/-! ## The order -/

/-- A run of turns through the world: each looks at its flag, and calls its callback once if the
flag is set and there is room on the stack. -/
inductive Took (program : Program World) (depth : Nat) (event : Event) :
    World → List Turn → World → Prop
  | done {world : World} : Took program depth event world [] world
  | skipped {world world' last : World} {handle : Handle} {enabled : Bool} {turns : List Turn}
      (hlook : program.look handle world = (enabled, world'))
      (hskip : enabled = false ∨ depth = callbackStackSize)
      (h : Took program depth event world' turns last) :
      Took program depth event world (⟨handle, enabled, none⟩ :: turns) last
  | called {world world' world'' last : World} {handle : Handle} {answer : Option Nat}
      {buffer : RejectionBuffer} {turns : List Turn}
      (hlook : program.look handle world = (true, world')) (hroom : depth ≠ callbackStackSize)
      (hcall : program.call handle event world' = (answer, buffer, world''))
      (h : Took program depth event world'' turns last) :
      Took program depth event world (⟨handle, true, some (answer, buffer)⟩ :: turns) last

variable {event : Event} {program : Program World} {depth : Nat} {start : World}
  {seen : List Subscription} {progress : Progress World}

theorem Took.append {world middle last : World} {turns turns' : List Turn}
    (h : Took program depth event world turns middle)
    (h' : Took program depth event middle turns' last) :
    Took program depth event world (turns ++ turns') last := by
  induction h with
  | done => exact h'
  | skipped hlook hskip _ ih => exact Took.skipped hlook hskip (ih h')
  | called hlook hroom hcall _ ih => exact Took.called hlook hroom hcall (ih h')

/-- The text of the rejection, where the turn rejects. -/
def Turn.text (turn : Turn) : Text :=
  match turn.called with
  | some (_, buffer) => (rejectionText buffer).take (rejectionCapacity - 1)
  | none => []

/-- What is so of the locals behind these turns. -/
structure Kept (program : Program World) (depth : Nat) (event : Event) (start : World)
    (seen : List Subscription) (progress : Progress World) : Prop where
  handles : progress.turns.map Turn.handle = seen.map Subscription.handle
  took : Took program depth event start progress.turns progress.world
  accepted : progress.accepted = progress.turns.all fun turn => !turn.rejects event
  winning : event.type = clientConnectType → ∀ turn,
    progress.turns.find? (·.rejects event) = some turn → progress.winningRejection = turn.text

theorem Kept.takeTurn (h : Kept program depth event start seen progress)
    (subscription : Subscription) :
    Kept program depth event start (seen ++ [subscription])
      (takeTurn program depth event progress subscription) := by
  unfold Source2.takeTurn
  cases hlook : program.look subscription.handle progress.world with
  | mk enabled world =>
    dsimp only
    split
    · next hskip =>
      have hrejects : ∀ handle enabled, Turn.rejects event ⟨handle, enabled, none⟩ = false := by
        simp [Turn.rejects]
      refine ⟨?_, ?_, ?_, ?_⟩
      · simp [h.handles]
      · refine h.took.append (Took.skipped hlook ?_ Took.done)
        simpa using hskip
      · simp [h.accepted, hrejects]
      · intro htype turn hturn
        rw [List.find?_append] at hturn
        simp only [List.find?_cons, hrejects, List.find?_nil, Option.or_none] at hturn
        exact h.winning htype turn hturn
    · next hcalled =>
      simp only [Bool.or_eq_true, Bool.not_eq_true', decide_eq_true_eq, not_or,
        Bool.not_eq_false] at hcalled
      cases hcall : program.call subscription.handle event world with
      | mk answer rest =>
        cases rest with
        | mk buffer world' =>
          simp only [hcall]
          refine ⟨?_, ?_, ?_, ?_⟩
          · simp [h.handles]
          · rw [hcalled.1] at hlook ⊢
            exact h.took.append (Took.called hlook hcalled.2 hcall Took.done)
          · simp [h.accepted]
          · intro htype turn hturn
            rw [List.find?_append] at hturn
            cases hfirst : progress.turns.find? (·.rejects event) with
            | some first =>
              -- Somebody has rejected before, so that the flag keeps the text.
              have hrefused : progress.accepted = false := by
                rw [h.accepted, List.all_eq_false]
                exact ⟨first, List.mem_of_find?_eq_some hfirst,
                  by simpa using List.find?_some hfirst⟩
              rw [hfirst, Option.some_or] at hturn
              cases hturn
              simp only [hrefused, Bool.and_false, Bool.false_and, Bool.false_eq_true, if_false]
              exact h.winning htype turn hfirst
            | none =>
              have haccepted : progress.accepted = true := by
                rw [h.accepted, List.all_eq_true]
                intro other hother
                simpa using List.find?_eq_none.1 hfirst other hother
              rw [hfirst, Option.none_or, List.find?_singleton] at hturn
              split at hturn
              · next hrejects =>
                cases hturn
                simp [hrejects, haccepted, htype, Turn.text]
              · cases hturn

theorem rejectionText_end_free (buffer : RejectionBuffer) : '\x00' ∉ rejectionText buffer := by
  unfold rejectionText
  dsimp only
  split
  · decide
  · intro hmem
    have := List.mem_takeWhile_imp hmem
    simp at this

theorem Turn.text_end_free (turn : Turn) : '\x00' ∉ turn.text := by
  unfold Turn.text
  split
  · exact fun hmem => rejectionText_end_free _ (List.mem_of_mem_take hmem)
  · exact List.not_mem_nil

theorem putText_takeWhile {text : Text} (h : '\x00' ∉ text) (buffer : Text) (capacity : Nat) :
    (putText buffer text capacity).takeWhile (· ≠ '\x00') = text.take (capacity - 1) ∧
      '\x00' ∈ putText buffer text capacity := by
  unfold putText
  constructor
  · dsimp only
    rw [List.takeWhile_append_of_pos]
    · simp
    · intro c hc
      have hne : c ≠ '\x00' := fun heq => h (heq ▸ List.mem_of_mem_take hc)
      simpa using hne
  · simp

theorem putText_drop (text buffer : Text) {capacity : Nat} (h : capacity ≠ 0) :
    (putText buffer text capacity).drop capacity = buffer.drop capacity := by
  unfold putText
  dsimp only
  have hlength : (text.take (capacity - 1)).length + 1 ≤ capacity := by
    rw [List.length_take]
    omega
  rw [List.drop_append, List.drop_eq_nil_of_le (by omega), List.nil_append]
  obtain ⟨more, hmore⟩ := Nat.exists_eq_add_of_le hlength
  have hback : capacity - (text.take (capacity - 1)).length = more + 1 := by omega
  rw [hback, List.drop_succ_cons, List.drop_drop, ← hmore]

/-! ## Rejections -/

theorem Kept.message (h : Kept program depth event start seen progress)
    (htype : event.type = clientConnectType) {turn : Turn}
    (hturn : progress.turns.find? (·.rejects event) = some turn) {buffer : Text}
    (hbuffer : event.rejectionMessage = some buffer) (hcapacity : event.rejectionCapacity ≠ 0) :
    ∃ after, putRejection event progress = some after ∧
      after.takeWhile (· ≠ '\x00') = turn.text.take (event.rejectionCapacity - 1) ∧
      '\x00' ∈ after ∧
      after.drop event.rejectionCapacity = buffer.drop event.rejectionCapacity := by
  have hrefused : progress.accepted = false := by
    rw [h.accepted, List.all_eq_false]
    exact ⟨turn, List.mem_of_find?_eq_some hturn, by simpa using List.find?_some hturn⟩
  obtain ⟨htext, hend⟩ := putText_takeWhile turn.text_end_free buffer event.rejectionCapacity
  refine ⟨putText buffer turn.text event.rejectionCapacity, ?_, htext, hend,
    putText_drop turn.text buffer hcapacity⟩
  unfold putRejection
  rw [if_pos (by simp [hrefused, htype, hcapacity]), hbuffer, h.winning htype turn hturn]
  rfl

def connecting : Event where
  valid := true
  type := clientConnectType
  name := []
  rejectionMessage := none
  rejectionCapacity := 0

end KeelS2.Hosting.Source2
