import KeelS2.KeelHook.Abi
import Mathlib.Data.UInt

/-!
# Setting a console variable

On the main thread a set goes through the engine's filter callback: `SetConVarNow` takes down the
value that is stored, lets the filter reject the candidate or rewrite it, clamps what comes of it,
stores it, and calls the change callbacks when it is another value than the one taken down.

A filter may set the same variable before it returns, and what it sets may be filtered in its turn.
The value that is replaced is then not the one that was taken down. `set_law_iff` says that this is
all that can go wrong: a set does what it should unless its filter leaves another value than it was
called with and the set then stores its own.

A string is a buffer of the engine's allocator, which is modelled by the buffers it has given out
and the ones it was given back. The types here are `bool`, `int32` and `string`; a filter that is
said to rewrite a string gives it any contents, in whatever memory.
-/

namespace KeelS2.Adapter.ConVars

inductive ConVarType
  | boolean
  | int32
  | string
  deriving DecidableEq, Repr

/-- A `char*` that is not null, with the text it points to. -/
structure CString where
  buffer : Nat
  text : Text
  deriving DecidableEq, Repr

/-- `cs2::ConVarValue`. Which of its members is meant is told by the type of the variable. -/
structure ConVarValue where
  boolean : Bool
  int32 : Int
  string : Option CString
  deriving DecidableEq, Repr

def ConVarValue.zero : ConVarValue := ⟨false, 0, none⟩

/-- `string ? string : ""`. -/
def textOf : Option CString → Text
  | none => []
  | some string => string.text

/-- What is asked of a `ConVarEntry`. `ready` is that the adapter has its interfaces and the entry
its data; the bounds are those of an `int32`. -/
structure ConVarEntry where
  type : ConVarType
  ready : Bool
  minimum : Option Int
  maximum : Option Int
  deriving DecidableEq, Repr

/-- What a variable holds, as one can compare it. -/
inductive Content
  | boolean (value : Bool)
  | int32 (value : Int)
  | string (text : Text)
  deriving DecidableEq, Repr

def ConVarValue.content (value : ConVarValue) : ConVarType → Content
  | .boolean => .boolean value.boolean
  | .int32 => .int32 value.int32
  | .string => .string (textOf value.string)

def equalEngineValue : ConVarType → ConVarValue → ConVarValue → Bool
  | .boolean, first, second => first.boolean == second.boolean
  | .int32, first, second => first.int32 == second.int32
  | .string, first, second => textOf first.string == textOf second.string

def clampEngineValue (entry : ConVarEntry) (value : ConVarValue) : ConVarValue :=
  match entry.type with
  | .int32 =>
    let raised :=
      match entry.minimum with
      | some minimum => max value.int32 minimum
      | none => value.int32
    let lowered :=
      match entry.maximum with
      | some maximum => min raised maximum
      | none => raised
    { value with int32 := lowered }
  | _ => value

/-- `EngineValueText`. -/
def Content.engineText : Content → Text
  | .boolean value => if value then "true".toList else "false".toList
  | .int32 value => (toString value).toList
  | .string text => text

/-- A call of the change callbacks, the variable's own or the global ones. -/
inductive Notice
  | change (new old : Content)
  | globalChange (new old : Text)
  deriving DecidableEq, Repr

/-- The variable in the engine, and the engine's allocator: `next` is the buffer it gives out
next. -/
structure Engine where
  values : ConVarValue
  timesChanged : UInt32
  performingCallbacks : Bool
  queued : List ConVarValue
  notices : List Notice
  next : Nat
  freed : List Nat
  deriving DecidableEq, Repr

/-- Which of its allocations fail, where a set comes to them. -/
structure Failures where
  previous : Bool
  candidate : Bool
  text : Bool
  replacement : Bool
  deriving DecidableEq, Repr

def Failures.none : Failures := ⟨false, false, false, false⟩

namespace Engine

variable (engine : Engine)

/-- `string_duplicate_`. -/
def duplicate (fails : Bool) (text : Text) : Option CString × Engine :=
  if fails then (none, engine)
  else (some ⟨engine.next, text⟩, { engine with next := engine.next + 1 })

/-- `memory_free_`. -/
def free : Option CString → Engine
  | none => engine
  | some string => { engine with freed := string.buffer :: engine.freed }

section

variable (string : Option CString)

include string

@[simp] theorem free_values :
    (engine.free string).values = engine.values := by cases string <;> rfl

@[simp] theorem free_timesChanged :
    (engine.free string).timesChanged = engine.timesChanged := by cases string <;> rfl

@[simp] theorem free_notices :
    (engine.free string).notices = engine.notices := by cases string <;> rfl

@[simp] theorem free_next :
    (engine.free string).next = engine.next := by cases string <;> rfl

@[simp] theorem free_freed :
    (engine.free string).freed = (string.map CString.buffer).toList ++ engine.freed := by
  cases string <;> rfl

end

end Engine

/-- How a set ends. Only in `stored` was it accepted. -/
inductive Outcome
  | notFound
  | invalidArgument
  | notReady
  /-- The set was queued, or would change nothing. -/
  | deferred
  | rejected
  | failed
  | stored
  deriving DecidableEq, Repr

def Outcome.result : Outcome → KeelResult
  | .notFound => .notFound
  | .invalidArgument => .invalidArgument
  | .notReady => .notReady
  | .deferred | .rejected | .stored => .ok
  | .failed => .engineFailure

/-! ## `SetConVarNow` -/

/-- The values that `SetConVarNow` goes to the filter with, and the strings it has to free. -/
structure Prepared where
  previous : ConVarValue
  candidate : ConVarValue
  previousString : Option CString
  candidateString : Option CString
  deriving DecidableEq, Repr

section Set

variable (entry : ConVarEntry)

/-- The candidate and the previous string are freed in this order. -/
def Engine.release (engine : Engine) (previousString candidateString : Option CString) : Engine :=
  (engine.free candidateString).free previousString

def prepare (requested : ConVarValue) (failures : Failures) (engine : Engine) :
    Engine × Option Prepared :=
  match entry.type with
  | .string =>
    let first := engine.duplicate failures.previous (textOf engine.values.string)
    let second := first.2.duplicate failures.candidate (textOf requested.string)
    if first.1.isSome && second.1.isSome then
      (second.2, some ⟨{ ConVarValue.zero with string := first.1 },
        { ConVarValue.zero with string := second.1 }, first.1, second.1⟩)
    else (second.2.release first.1 second.1, none)
  | _ => (engine, some ⟨engine.values, requested, none, none⟩)

/-- What is stored in place of the value there. -/
def store (failures : Failures) (effective : ConVarValue) (engine : Engine) : Option Engine :=
  match entry.type with
  | .boolean =>
    some { engine with values := { engine.values with boolean := effective.boolean } }
  | .int32 => some { engine with values := { engine.values with int32 := effective.int32 } }
  | .string =>
    match engine.duplicate failures.replacement (textOf effective.string) with
    | (none, _) => none
    | (some replacement, duplicated) =>
      some { duplicated.free engine.values.string with
        values := { engine.values with string := some replacement } }

/-- The rest of `SetConVarNow` after the filter has let `answered` through, up to the release of
its strings. Where the texts cannot be allocated, it throws. -/
def settle (failures : Failures) (previous answered : ConVarValue) (returned : Engine) :
    Engine × Outcome :=
  let effective := clampEngineValue entry answered
  let changed := !equalEngineValue entry.type effective previous
  if changed && failures.text then (returned, .failed)
  else
    match store entry failures effective returned with
    | none => (returned, .failed)
    | some stored =>
      if changed then
        ({ stored with
            timesChanged := stored.timesChanged + 1
            notices :=
              .globalChange (effective.content entry.type).engineText
                  (previous.content entry.type).engineText ::
                .change (stored.values.content entry.type) (previous.content entry.type) ::
                stored.notices }, .stored)
      else (stored, .stored)

/-- `callFilter` is `CallFilterCallback`: what it does, and the candidate it lets through. -/
def setConVarNow (callFilter : Engine → ConVarValue → Engine × Option ConVarValue)
    (requested : ConVarValue) (failures : Failures) (engine : Engine) : Engine × Outcome :=
  if entry.ready then
    match prepare entry requested failures engine with
    | (prepared, none) => (prepared, .failed)
    | (prepared, some values) =>
      match callFilter prepared values.candidate with
      | (returned, none) =>
        (returned.release values.previousString values.candidateString, .rejected)
      | (returned, some answered) =>
        let settled := settle entry failures values.previous answered returned
        (settled.1.release values.previousString values.candidateString, settled.2)
  else (engine, .notReady)

/-! ## `QueueConVarSet` -/

/-- A call of `QueueConVarSet`. `found` is that the handle has an entry with data, `sized` that
`value.size` is right. -/
structure Request where
  found : Bool
  slot : Int
  sized : Bool
  type : ConVarType
  value : ConVarValue
  deriving DecidableEq, Repr

/-- `KEELS2_CONVAR_GLOBAL_SLOT`. -/
def globalSlot : Int := -1

def queueConVarSet (mainThread : Bool)
    (callFilter : Engine → ConVarValue → Engine × Option ConVarValue) (request : Request)
    (failures : Failures) (engine : Engine) : Engine × Outcome :=
  if request.found = false then (engine, .notFound)
  else if (request.slot ≠ globalSlot ∧ request.slot ≠ 0) ∨ request.sized = false
      ∨ request.type ≠ entry.type ∨ (request.type = .string ∧ request.value.string = none) then
    (engine, .invalidArgument)
  else if mainThread = false then
    ({ engine with queued := clampEngineValue entry request.value :: engine.queued }, .deferred)
  else if engine.performingCallbacks then
    let clamped := clampEngineValue entry request.value
    if equalEngineValue entry.type engine.values clamped then (engine, .deferred)
    else ({ engine with queued := clamped :: engine.queued }, .deferred)
  else setConVarNow entry callFilter request.value failures engine

/-! ## Filters -/

/-- What a filter callback does in one call. Before it answers it may set the variable through the
adapter, which calls the filter again, or through the engine. -/
inductive FilterCallback
  | reject
  | accept
  | rewrite (candidate : ConVarValue)
  | sets (request : Request) (failures : Failures) (inner rest : FilterCallback)
  | stores (value : ConVarValue) (rest : FilterCallback)

/-- A set by the engine itself. -/
def Engine.assign (engine : Engine) (value : ConVarValue) : Engine :=
  match store entry .none value engine with
  | none => engine
  | some stored => { stored with timesChanged := stored.timesChanged + 1 }

def callFilter : FilterCallback → Engine → ConVarValue → Engine × Option ConVarValue
  | .reject, engine, _ => (engine, none)
  | .accept, engine, candidate => (engine, some candidate)
  | .rewrite candidate, engine, _ => (engine, some candidate)
  | .sets request failures inner rest, engine, candidate =>
    callFilter rest (queueConVarSet entry true (callFilter inner) request failures engine).1
      candidate
  | .stores value rest, engine, candidate =>
    callFilter rest (engine.assign entry value) candidate

end Set

/-! ## What a set should do -/

section Law

variable (entry : ConVarEntry)

/-- The set is made at once. -/
def Direct (request : Request) (engine : Engine) : Prop :=
  request.found = true
    ∧ ¬ ((request.slot ≠ globalSlot ∧ request.slot ≠ 0) ∨ request.sized = false
      ∨ request.type ≠ entry.type ∨ (request.type = .string ∧ request.value.string = none))
    ∧ engine.performingCallbacks = false ∧ entry.ready = true

instance (request : Request) (engine : Engine) : Decidable (Direct entry request engine) :=
  inferInstanceAs (Decidable (_ ∧ ¬ _ ∧ _ ∧ _))

/-- What the filter leaves and answers, where a set comes to it. -/
def filterReturned (filter : FilterCallback) (request : Request) (failures : Failures)
    (engine : Engine) : Option (Engine × Option ConVarValue) :=
  if Direct entry request engine then
    let prepared := prepare entry request.value failures engine
    prepared.2.map fun values => callFilter entry filter prepared.1 values.candidate
  else none

/-- The variable is as it was. -/
structure Same (before after : Engine) : Prop where
  values : after.values = before.values
  timesChanged : after.timesChanged = before.timesChanged
  notices : after.notices = before.notices

def Within (value : ConVarValue) : Prop :=
  entry.type = .int32 → (∀ minimum, entry.minimum = some minimum → minimum ≤ value.int32)
    ∧ ∀ maximum, entry.maximum = some maximum → value.int32 ≤ maximum

/-- The notices of a change from one content to another: none where they are the same. -/
def noticesOf (new old : Content) : List Notice :=
  if new = old then []
  else [.globalChange new.engineText old.engineText, .change new old]

/-- The buffer that the variable holds. -/
def storedBuffers (engine : Engine) : List Nat :=
  match entry.type with
  | .string => (engine.values.string.map CString.buffer).toList
  | _ => []

/-- Every buffer that the allocator gave out was freed once, or is the stored one, or is held by
a set that is under way. -/
def Balanced (engine : Engine) (held : List Nat) : Prop :=
  ∀ buffer, (engine.freed ++ storedBuffers entry engine ++ held).count buffer
    = if buffer < engine.next then 1 else 0

/-- What a set should do: one that is refused or fails leaves the variable as its filter left it;
one that is accepted leaves it with the clamped candidate, and the change callbacks run once where
it replaced another value, and are told that value. -/
structure SetLaw (filter : FilterCallback) (request : Request) (failures : Failures)
    (engine after : Engine) (outcome : Outcome) (held : List Nat) : Prop where
  unfiltered : filterReturned entry filter request failures engine = none → Same engine after
  refused : ∀ returned answer,
    filterReturned entry filter request failures engine = some (returned, answer) →
      outcome ≠ .stored → Same returned after
  accepted : ∀ returned answer,
    filterReturned entry filter request failures engine = some (returned, answer) →
      outcome = .stored → ∃ candidate, answer = some candidate
        ∧ after.values.content entry.type = (clampEngineValue entry candidate).content entry.type
        ∧ Within entry after.values
        ∧ after.notices = noticesOf (after.values.content entry.type)
            (returned.values.content entry.type) ++ returned.notices
  balanced : Balanced entry after held

/-- The allocations of a set that was let through do not fail. The texts are needed where the
clamped candidate differs from the value the filter was called with. -/
def allocates (failures : Failures) (candidate : ConVarValue) (previous : Content) : Bool :=
  !((clampEngineValue entry candidate).content entry.type != previous && failures.text)
    && !(entry.type == .string && failures.replacement)

/-- A filter that lets the set through to its end leaves the value it was called with. -/
def LeavesValue (filter : FilterCallback) (request : Request) (failures : Failures)
    (engine : Engine) : Prop :=
  ∀ returned candidate,
    filterReturned entry filter request failures engine = some (returned, some candidate) →
      allocates entry failures candidate (engine.values.content entry.type) = true →
        returned.values.content entry.type = engine.values.content entry.type

end Law

/-! ## Contents -/

theorem equalEngineValue_iff {type : ConVarType} {first second : ConVarValue} :
    equalEngineValue type first second = true ↔ first.content type = second.content type := by
  cases type <;> simp [equalEngineValue, ConVarValue.content]

section Entry

variable {entry : ConVarEntry}

theorem within_clamp (hbounds : ∀ minimum maximum, entry.minimum = some minimum →
      entry.maximum = some maximum → minimum ≤ maximum) (value : ConVarValue) :
    Within entry (clampEngineValue entry value) := by
  intro htype
  unfold clampEngineValue
  rw [htype]
  cases hminimum : entry.minimum with
  | none =>
    cases hmaximum : entry.maximum with
    | none => simp
    | some maximum => simp
  | some minimum =>
    cases hmaximum : entry.maximum with
    | none => simp
    | some maximum =>
      have hle := hbounds minimum maximum hminimum hmaximum
      simp [hle]

/-! ## The allocator -/

variable {engine prepared : Engine} {held : List Nat} {failures : Failures}
  {requested : ConVarValue} {string : CString}
  {filter : Engine → ConVarValue → Engine × Option ConVarValue}

theorem balanced_duplicate {duplicated : Engine} {fails : Bool} {text : Text}
    (hbalanced : Balanced entry engine held)
    (h : engine.duplicate fails text = (some string, duplicated)) :
    Balanced entry duplicated (string.buffer :: held) := by
  unfold Engine.duplicate at h
  split at h
  · cases h
  · simp only [Prod.mk.injEq, Option.some.injEq] at h
    obtain ⟨rfl, rfl⟩ := h
    intro buffer
    have hcount := hbalanced buffer
    simp only [List.count_append, List.count_cons] at hcount ⊢
    show engine.freed.count buffer + (storedBuffers entry engine).count buffer + _ = _
    by_cases hnew : engine.next = buffer
    · simp only [hnew, beq_self_eq_true, if_true] at hcount ⊢
      simp only [lt_irrefl, if_false] at hcount
      simp only [Nat.lt_succ_self, if_true]
      omega
    · have hne : (engine.next == buffer) = false := by simpa using hnew
      simp only [hne, Bool.false_eq_true, if_false]
      have hlt : buffer < engine.next + 1 ↔ buffer < engine.next := by omega
      simp only [hlt]
      omega

theorem balanced_free (h : Balanced entry engine (string.buffer :: held)) :
    Balanced entry (engine.free (some string)) held := by
  intro buffer
  have hcount := h buffer
  simp only [List.count_append, List.count_cons] at hcount
  show (string.buffer :: engine.freed ++ storedBuffers entry engine ++ held).count buffer = _
  simp only [List.cons_append, List.count_cons, List.count_append]
  show _ = if buffer < engine.next then 1 else 0
  omega

theorem balanced_release {previousString candidateString : Option CString}
    (h : Balanced entry engine ((candidateString.map CString.buffer).toList ++ ((previousString.map
      CString.buffer).toList ++ held))) :
    Balanced entry (engine.release previousString candidateString) held := by
  unfold Engine.release
  cases candidateString with
  | none =>
    cases previousString with
    | none => exact h
    | some previous => exact balanced_free h
  | some candidate =>
    cases previousString with
    | none => exact balanced_free h
    | some previous => exact balanced_free (balanced_free h)

theorem balanced_store {stored : Engine} {effective : ConVarValue}
    (hbalanced : Balanced entry engine held)
    (h : store entry failures effective engine = some stored) : Balanced entry stored held := by
  unfold store at h
  cases htype : entry.type with
  | boolean | int32 =>
    simp only [htype, Option.some.injEq] at h
    subst h
    intro buffer
    have hcount := hbalanced buffer
    simp only [storedBuffers, htype] at hcount ⊢
    exact hcount
  | string =>
    simp only [htype] at h
    split at h
    · cases h
    · rename_i replacement duplicated hduplicate
      simp only [Option.some.injEq] at h
      subst h
      have hnew := balanced_duplicate hbalanced hduplicate
      have hvalues : duplicated.values = engine.values := by
        unfold Engine.duplicate at hduplicate
        split at hduplicate
        · cases hduplicate
        · simp only [Prod.mk.injEq] at hduplicate
          rw [← hduplicate.2]
      intro buffer
      have hcount := hnew buffer
      simp only [storedBuffers, htype, hvalues, List.count_append, List.count_cons] at hcount
      simp only [storedBuffers, htype, Engine.free_freed, Engine.free_next, List.count_append,
        Option.map_some, Option.toList_some, List.count_cons, List.count_nil]
      omega

theorem store_spec {stored : Engine} {effective : ConVarValue}
    (h : store entry failures effective engine = some stored) :
    stored.values.content entry.type = effective.content entry.type
      ∧ (entry.type = .int32 → stored.values.int32 = effective.int32)
      ∧ stored.notices = engine.notices := by
  unfold store at h
  cases htype : entry.type with
  | boolean | int32 =>
    simp only [htype, Option.some.injEq] at h
    subst h
    simp [ConVarValue.content]
  | string =>
    simp only [htype, Engine.duplicate] at h
    split at h
    · cases h
    · rename_i replacement duplicated hduplicate
      simp only [Option.some.injEq] at h
      subst h
      split at hduplicate
      · cases hduplicate
      · simp only [Prod.mk.injEq, Option.some.injEq] at hduplicate
        obtain ⟨rfl, rfl⟩ := hduplicate
        simp [ConVarValue.content, textOf]

theorem store_isSome (failures : Failures) (effective : ConVarValue) (engine : Engine) :
    (store entry failures effective engine).isSome
      = !(entry.type == .string && failures.replacement) := by
  unfold store Engine.duplicate
  cases entry.type with
  | boolean | int32 => rfl
  | string =>
    cases failures.replacement <;> rfl

/-! ## Every buffer is accounted for -/

theorem balanced_congr {other : Engine} (h : Balanced entry engine held)
    (hvalues : other.values = engine.values) (hfreed : other.freed = engine.freed)
    (hnext : other.next = engine.next) : Balanced entry other held := by
  intro buffer
  simp only [storedBuffers, hvalues, hfreed, hnext]
  exact h buffer

theorem balanced_prepare {values : Prepared} (hbalanced : Balanced entry engine held)
    (h : prepare entry requested failures engine = (prepared, some values)) :
    Balanced entry prepared ((values.candidateString.map CString.buffer).toList
      ++ ((values.previousString.map CString.buffer).toList ++ held)) := by
  unfold prepare at h
  cases htype : entry.type with
  | boolean | int32 =>
    simp only [htype, Prod.mk.injEq, Option.some.injEq] at h
    obtain ⟨rfl, rfl⟩ := h
    exact hbalanced
  | string =>
    simp only [htype] at h
    rcases hfirst : engine.duplicate failures.previous (textOf engine.values.string)
      with ⟨_ | previous, first⟩
    · simp [hfirst] at h
    · rcases hsecond : first.duplicate failures.candidate (textOf requested.string)
        with ⟨_ | candidate, second⟩
      · simp [hfirst, hsecond] at h
      · simp only [hfirst, hsecond, Option.isSome_some, Bool.and_self, if_true, Prod.mk.injEq,
          Option.some.injEq] at h
        obtain ⟨rfl, rfl⟩ := h
        exact balanced_duplicate (balanced_duplicate hbalanced hfirst) hsecond

/-- Where one of the two strings cannot be duplicated, the other is freed. -/
theorem balanced_prepare_none (hbalanced : Balanced entry engine held)
    (h : prepare entry requested failures engine = (prepared, none)) :
    Balanced entry prepared held := by
  unfold prepare at h
  cases htype : entry.type with
  | boolean | int32 => simp [htype] at h
  | string =>
    simp only [htype] at h
    split at h
    · simp at h
    · simp only [Prod.mk.injEq, and_true] at h
      subst h
      apply balanced_release
      have hstep : ∀ (current : Engine) (fails : Bool) (text : Text) (held : List Nat),
          Balanced entry current held → Balanced entry (current.duplicate fails text).2
            (((current.duplicate fails text).1.map CString.buffer).toList ++ held) := by
        intro current fails text held hcurrent
        rcases hresult : current.duplicate fails text with ⟨_ | string, duplicated⟩
        · unfold Engine.duplicate at hresult
          split at hresult
          · simp only [Prod.mk.injEq, true_and] at hresult
            exact hresult ▸ hcurrent
          · cases hresult
        · exact balanced_duplicate hcurrent hresult
      exact hstep _ _ _ _ (hstep _ _ _ _ hbalanced)

theorem balanced_settle {previous answered : ConVarValue} {returned : Engine}
    (hbalanced : Balanced entry returned held) :
    Balanced entry (settle entry failures previous answered returned).1 held := by
  unfold settle
  dsimp only
  split
  · exact hbalanced
  · split
    · exact hbalanced
    · rename_i stored hstored
      have hnew := balanced_store hbalanced hstored
      split
      · exact balanced_congr hnew rfl rfl rfl
      · exact hnew

/-- A filter accounts for the buffers it is given, as `SetConVarNow` does. -/
def Keeps (entry : ConVarEntry)
    (filter : Engine → ConVarValue → Engine × Option ConVarValue) : Prop :=
  ∀ engine candidate held, Balanced entry engine held →
    Balanced entry (filter engine candidate).1 held

theorem balanced_setConVarNow (hfilter : Keeps entry filter)
    (hbalanced : Balanced entry engine held) :
    Balanced entry (setConVarNow entry filter requested failures engine).1 held := by
  unfold setConVarNow
  split
  · rcases hprepared : prepare entry requested failures engine with ⟨prepared, _ | values⟩
    · exact balanced_prepare_none hbalanced hprepared
    · have hready := balanced_prepare hbalanced hprepared
      have hreturned := hfilter prepared values.candidate _ hready
      rcases hanswer : filter prepared values.candidate with ⟨returned, _ | answered⟩
      · simp only [hanswer] at hreturned ⊢
        exact balanced_release hreturned
      · simp only [hanswer] at hreturned ⊢
        exact balanced_release (balanced_settle hreturned)
  · exact hbalanced

theorem balanced_queueConVarSet (hfilter : Keeps entry filter) {mainThread : Bool}
    {request : Request} (hbalanced : Balanced entry engine held) :
    Balanced entry (queueConVarSet entry mainThread filter request failures engine).1 held := by
  unfold queueConVarSet
  split
  · exact hbalanced
  split
  · exact hbalanced
  split
  · exact balanced_congr hbalanced rfl rfl rfl
  split
  · dsimp only
    split
    · exact hbalanced
    · exact balanced_congr hbalanced rfl rfl rfl
  · exact balanced_setConVarNow hfilter hbalanced

theorem balanced_assign {value : ConVarValue} (hbalanced : Balanced entry engine held) :
    Balanced entry (engine.assign entry value) held := by
  unfold Engine.assign
  split
  · exact hbalanced
  · rename_i stored hstored
    exact balanced_congr (balanced_store hbalanced hstored) rfl rfl rfl

theorem keeps_callFilter (filter : FilterCallback) : Keeps entry (callFilter entry filter) := by
  induction filter with
  | reject => exact fun engine candidate held hbalanced => hbalanced
  | accept => exact fun engine candidate held hbalanced => hbalanced
  | rewrite value => exact fun engine candidate held hbalanced => hbalanced
  | sets request failures inner rest hinner hrest =>
    exact fun engine candidate held hbalanced =>
      hrest _ candidate held (balanced_queueConVarSet hinner hbalanced)
  | stores value rest hrest =>
    exact fun engine candidate held hbalanced =>
      hrest _ candidate held (balanced_assign hbalanced)

/-! ## The parts of a set -/

theorem Same.refl (engine : Engine) : Same engine engine := ⟨rfl, rfl, rfl⟩

theorem Same.trans {first second third : Engine} (h : Same first second)
    (h' : Same second third) : Same first third :=
  ⟨h'.values.trans h.values, h'.timesChanged.trans h.timesChanged, h'.notices.trans h.notices⟩

theorem same_release (engine : Engine) (previousString candidateString : Option CString) :
    Same engine (engine.release previousString candidateString) := by
  constructor <;> simp [Engine.release]

theorem same_duplicate (engine : Engine) (fails : Bool) (text : Text) :
    Same engine (engine.duplicate fails text).2 := by
  unfold Engine.duplicate
  split <;> exact ⟨rfl, rfl, rfl⟩

theorem same_prepare (requested : ConVarValue) (failures : Failures) (engine : Engine) :
    Same engine (prepare entry requested failures engine).1 := by
  unfold prepare
  split
  · dsimp only
    have hsecond := (same_duplicate engine failures.previous (textOf engine.values.string)).trans
      (same_duplicate _ failures.candidate (textOf requested.string))
    split
    · exact hsecond
    · exact hsecond.trans (same_release _ _ _)
  · exact Same.refl engine

theorem text_duplicate {duplicated : Engine} {fails : Bool} {text : Text}
    (h : engine.duplicate fails text = (some string, duplicated)) : string.text = text := by
  unfold Engine.duplicate at h
  split at h
  · cases h
  · simp only [Prod.mk.injEq, Option.some.injEq] at h
    rw [← h.1]

theorem content_previous {values : Prepared}
    (h : prepare entry requested failures engine = (prepared, some values)) :
    values.previous.content entry.type = engine.values.content entry.type := by
  unfold prepare at h
  cases htype : entry.type with
  | boolean | int32 =>
    simp only [htype, Prod.mk.injEq, Option.some.injEq] at h
    rw [← h.2]
  | string =>
    simp only [htype] at h
    rcases hfirst : engine.duplicate failures.previous (textOf engine.values.string)
      with ⟨_ | previous, first⟩
    · simp [hfirst] at h
    · simp only [hfirst, Option.isSome_some, Bool.true_and] at h
      split at h
      · simp only [Prod.mk.injEq, Option.some.injEq] at h
        rw [← h.2]
        exact congrArg Content.string (text_duplicate hfirst)
      · simp at h

theorem noticesOf_injective {new old old' : Content}
    (h : noticesOf new old = noticesOf new old') : old = old' := by
  unfold noticesOf at h
  split at h
  · rename_i hold
    split at h
    · rename_i hold'
      exact hold.symm.trans hold'
    · cases h
  · split at h
    · cases h
    · injection h with _ h
      injection h with h
      injection h

theorem not_equalEngineValue {type : ConVarType} {first second : ConVarValue} :
    (!equalEngineValue type first second) = (first.content type != second.content type) := by
  by_cases heq : first.content type = second.content type
  · simp [equalEngineValue_iff.2 heq, heq]
  · have hne := mt equalEngineValue_iff.1 heq
    simp [hne, heq]

theorem settle_spec (failures : Failures) (previous answered : ConVarValue) (returned : Engine) :
    (allocates entry failures answered (previous.content entry.type) = false
        ∧ settle entry failures previous answered returned = (returned, .failed))
      ∨ ∃ settled, allocates entry failures answered (previous.content entry.type) = true
        ∧ settle entry failures previous answered returned = (settled, .stored)
        ∧ settled.values.content entry.type
            = (clampEngineValue entry answered).content entry.type
        ∧ (entry.type = .int32 →
            settled.values.int32 = (clampEngineValue entry answered).int32)
        ∧ settled.notices = noticesOf ((clampEngineValue entry answered).content entry.type)
            (previous.content entry.type) ++ returned.notices := by
  unfold settle allocates
  simp only [not_equalEngineValue]
  have hisSome := @store_isSome entry failures (clampEngineValue entry answered) returned
  rw [← hisSome]
  split
  · rename_i htext
    exact Or.inl ⟨by simp [htext], rfl⟩
  · rename_i htext
    rw [Bool.not_eq_true] at htext
    cases hstore : store entry failures (clampEngineValue entry answered) returned with
    | none => exact Or.inl ⟨by simp, rfl⟩
    | some stored =>
      obtain ⟨hcontent, hint, hnotices⟩ := store_spec hstore
      refine Or.inr ?_
      by_cases hchanged : (clampEngineValue entry answered).content entry.type
          = previous.content entry.type
      · refine ⟨stored, by simp [htext], ?_, hcontent, hint, ?_⟩
        · simp [hchanged]
        · rw [hnotices, noticesOf, if_pos hchanged]
          rfl
      · refine ⟨_, by simp [htext], if_pos (by simpa using hchanged), hcontent, hint, ?_⟩
        rw [noticesOf, if_neg hchanged, hcontent, hnotices]
        rfl

theorem queueConVarSet_of_direct {request : Request} (h : Direct entry request engine) :
    queueConVarSet entry true filter request failures engine
      = setConVarNow entry filter request.value failures engine := by
  obtain ⟨hfound, hvalid, hidle, -⟩ := h
  simp [queueConVarSet, hfound, hvalid, hidle]

theorem queueConVarSet_of_not_direct
    {filter : Engine → ConVarValue → Engine × Option ConVarValue} {request : Request}
    {failures : Failures} {engine : Engine} (h : ¬ Direct entry request engine) :
    Same engine (queueConVarSet entry true filter request failures engine).1
      ∧ (queueConVarSet entry true filter request failures engine).2 ≠ .stored := by
  unfold queueConVarSet
  split
  · exact ⟨Same.refl engine, by simp⟩
  rename_i hfound
  split
  · exact ⟨Same.refl engine, by simp⟩
  rename_i hvalid
  split
  · exact ⟨⟨rfl, rfl, rfl⟩, by simp⟩
  split
  · dsimp only
    split
    · exact ⟨Same.refl engine, by simp⟩
    · exact ⟨⟨rfl, rfl, rfl⟩, by simp⟩
  · rename_i hidle
    have hready : ¬ entry.ready = true := fun hready =>
      h ⟨by simpa using hfound, hvalid, by simpa using hidle, hready⟩
    rw [setConVarNow, if_neg hready]
    exact ⟨Same.refl engine, by simp⟩

/-! ## The law of a set -/

section SetLaw

variable {filter : FilterCallback} {request : Request} {failures : Failures}
  {engine after returned : Engine} {outcome : Outcome} {held : List Nat}

/-- A set whose filter is not called. -/
theorem setLaw_of_unfiltered
    (hnone : filterReturned entry filter request failures engine = none)
    (hsame : Same engine after) (hfinal : Balanced entry after held) :
    SetLaw entry filter request failures engine after outcome held
      ↔ LeavesValue entry filter request failures engine := by
  have hnever {result} : filterReturned entry filter request failures engine ≠ some result := by
    rw [hnone]
    exact (Option.some_ne_none _).symm
  exact iff_of_true
    { unfiltered := fun _ => hsame
      refused := fun _ _ h => absurd h hnever
      accepted := fun _ _ h => absurd h hnever
      balanced := hfinal }
    fun _ _ h => absurd h hnever

/-- A set that is not carried out, be it that the filter rejects it or that memory runs out. -/
theorem setLaw_of_refused {answer : Option ConVarValue}
    (hreturned : filterReturned entry filter request failures engine = some (returned, answer))
    (hsame : Same returned after) (houtcome : outcome ≠ .stored)
    (hfinal : Balanced entry after held)
    (hfails : ∀ candidate, answer = some candidate →
      allocates entry failures candidate (engine.values.content entry.type) = false) :
    SetLaw entry filter request failures engine after outcome held
      ↔ LeavesValue entry filter request failures engine := by
  refine iff_of_true
    { unfiltered := fun h => ?_
      refused := fun other answer' h _ => ?_
      accepted := fun _ _ _ hstored => absurd hstored houtcome
      balanced := hfinal } ?_
  · rw [hreturned] at h
    cases h
  · rw [hreturned] at h
    cases h
    exact hsame
  · intro other candidate h hallocates
    rw [hreturned] at h
    cases h
    rw [hfails candidate rfl] at hallocates
    cases hallocates

theorem setLaw_of_stored {answered : ConVarValue}
    (hreturned : filterReturned entry filter request failures engine
      = some (returned, some answered))
    (hallocates : allocates entry failures answered (engine.values.content entry.type) = true)
    (hcontent : after.values.content entry.type
      = (clampEngineValue entry answered).content entry.type)
    (hwithin : Within entry after.values)
    (hnotices : after.notices = noticesOf (after.values.content entry.type)
      (engine.values.content entry.type) ++ returned.notices)
    (hfinal : Balanced entry after held) :
    SetLaw entry filter request failures engine after .stored held
      ↔ LeavesValue entry filter request failures engine := by
  constructor
  · intro hlaw other candidate h _
    rw [hreturned] at h
    cases h
    obtain ⟨_, _, _, _, htold⟩ := hlaw.accepted returned (some answered) hreturned rfl
    rw [hnotices] at htold
    exact (noticesOf_injective (List.append_cancel_right htold)).symm
  · intro hleaves
    have hsame := hleaves returned answered hreturned hallocates
    exact
      { unfiltered := fun h => by
          rw [hreturned] at h
          cases h
        refused := fun _ _ _ h => absurd rfl h
        accepted := fun other answer h _ => by
          rw [hreturned] at h
          cases h
          exact ⟨answered, rfl, hcontent, hwithin, by rw [hsame, hnotices]⟩
        balanced := hfinal }

end SetLaw

theorem Within.congr {value other : ConVarValue} (h : Within entry value)
    (hint : entry.type = .int32 → other.int32 = value.int32) : Within entry other := by
  intro htype
  rw [hint htype]
  exact h htype

end Entry

/-- **When a set does what it should.** For bounds in order and an allocator whose buffers are
accounted for: exactly when a filter that lets the set through to its end leaves the value it was
called with. -/
theorem set_law_iff (entry : ConVarEntry) (filter : FilterCallback) (request : Request)
    (failures : Failures) (engine : Engine) (held : List Nat)
    (hbounds : ∀ minimum maximum, entry.minimum = some minimum →
      entry.maximum = some maximum → minimum ≤ maximum)
    (hbalanced : Balanced entry engine held) :
    SetLaw entry filter request failures engine
        (queueConVarSet entry true (callFilter entry filter) request failures engine).1
        (queueConVarSet entry true (callFilter entry filter) request failures engine).2 held
      ↔ LeavesValue entry filter request failures engine := by
  have hfinal : Balanced entry
      (queueConVarSet entry true (callFilter entry filter) request failures engine).1 held :=
    balanced_queueConVarSet (keeps_callFilter filter) hbalanced
  by_cases hdirect : Direct entry request engine
  swap
  · have hsame := @queueConVarSet_of_not_direct entry (callFilter entry filter) request failures
      engine hdirect
    exact setLaw_of_unfiltered (if_neg hdirect) hsame.1 hfinal
  have hfiltered : filterReturned entry filter request failures engine
      = (prepare entry request.value failures engine).2.map fun values =>
          callFilter entry filter (prepare entry request.value failures engine).1
            values.candidate := if_pos hdirect
  have hprepares := @same_prepare entry request.value failures engine
  rw [queueConVarSet_of_direct hdirect] at hfinal ⊢
  simp only [setConVarNow, if_pos hdirect.2.2.2] at hfinal ⊢
  rcases hprepared : prepare entry request.value failures engine with ⟨prepared, _ | values⟩
  · simp only [hprepared, Option.map_none] at hfiltered hfinal hprepares ⊢
    exact setLaw_of_unfiltered hfiltered hprepares hfinal
  have hprevious := content_previous hprepared
  simp only [hprepared, Option.map_some] at hfiltered hfinal ⊢
  rcases hanswer : callFilter entry filter prepared values.candidate
    with ⟨returned, _ | answered⟩
  · simp only [hanswer] at hfiltered hfinal ⊢
    refine setLaw_of_refused hfiltered (same_release _ _ _) (by decide) hfinal ?_
    exact fun candidate h => by cases h
  simp only [hanswer] at hfiltered hfinal ⊢
  rcases @settle_spec entry failures values.previous answered returned with
    ⟨hfails, hsettle⟩ | ⟨settled, hallocates, hsettle, hcontent, hint, hnotices⟩
  · rw [hsettle] at hfinal ⊢
    refine setLaw_of_refused hfiltered (same_release _ _ _) (by simp) hfinal ?_
    rintro candidate ⟨⟩
    rw [← hprevious]
    exact hfails
  · rw [hsettle] at hfinal ⊢
    have hrelease := same_release settled values.previousString values.candidateString
    refine setLaw_of_stored hfiltered (hprevious ▸ hallocates) ?_ ?_ ?_ hfinal
    · rw [hrelease.values, hcontent]
    · refine (within_clamp hbounds answered).congr fun htype => ?_
      rw [hrelease.values, hint htype]
    · rw [hrelease.values, hrelease.notices, hcontent, hnotices, hprevious]

/-! ## Two sets -/

/-- A variable that holds the text `old`, in the only buffer that was given out. -/
def oldText : Engine where
  values := { ConVarValue.zero with string := some ⟨0, "old".toList⟩ }
  timesChanged := 0
  performingCallbacks := false
  queued := []
  notices := []
  next := 1
  freed := []

def stringEntry : ConVarEntry := ⟨.string, true, none, none⟩

def newText : Request :=
  ⟨true, 0, true, .string, { ConVarValue.zero with string := some ⟨9, "new".toList⟩ }⟩

/-- The filter has its own text put in place of the one asked for. -/
def givenText : FilterCallback :=
  .rewrite { ConVarValue.zero with string := some ⟨8, "given".toList⟩ }

theorem balanced_oldText : Balanced stringEntry oldText [] := by
  intro buffer
  show List.count buffer [0] = if buffer < 1 then 1 else 0
  cases buffer <;> simp

theorem givenText_law : SetLaw stringEntry givenText newText .none oldText
    (queueConVarSet stringEntry true (callFilter stringEntry givenText) newText .none oldText).1
    .stored [] := by
  refine (set_law_iff stringEntry givenText newText .none oldText [] (fun _ _ h => by cases h)
    balanced_oldText).2 ?_
  intro returned candidate h _
  cases h
  rfl

/-- An `int32` that is one. A filter sets it to three before it lets a set to two through. -/
def one : Engine := { oldText with values := { ConVarValue.zero with int32 := 1 }, next := 0 }

def intEntry : ConVarEntry := ⟨.int32, true, none, none⟩

def setTo (value : Int) : Request :=
  ⟨true, 0, true, .int32, { ConVarValue.zero with int32 := value }⟩

/-- The change callbacks are told that one was replaced, where it was three. -/
theorem stale_previous : ¬ ∀ filter : FilterCallback,
    SetLaw intEntry filter (setTo 2) .none one
      (queueConVarSet intEntry true (callFilter intEntry filter) (setTo 2) .none one).1
      (queueConVarSet intEntry true (callFilter intEntry filter) (setTo 2) .none one).2 [] := by
  intro hall
  have hlaw := hall (.sets (setTo 3) .none .accept .accept)
  obtain ⟨_, _, _, _, htold⟩ := hlaw.accepted _ _ rfl rfl
  exact absurd htold (by decide)

end KeelS2.Adapter.ConVars
