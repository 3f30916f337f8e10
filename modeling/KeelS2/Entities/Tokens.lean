import KeelS2.Entities.SchemaEntityService
import KeelS2.Lib.Custody

/-!
# Where the tokens are

A construction holds the token that the adapter made for it, and parts with it when it is spawned
or cancelled. `Custody` says what that comes to; here is which of the service's steps are its moves.
-/

namespace KeelS2.Entities.Schema

open Lib (Custody Custodial Heeds Lawful run)

/-! ## What is under way with tokens -/

/-- The token that is being cancelled. -/
def Frame.cancelling : Frame → Option Nat
  | .pruneCancel _ token _ | .rejectCancel token | .releaseCancel token | .pluginCancel token _
  | .shutdownCancel token _ _ => some token
  | _ => none

/-- The construction that gets what the adapter makes, with the handle of its record. -/
def Frame.creating : Frame → Option (Nat × Nat)
  | .create _ handle state => some (handle, state)
  | _ => none

/-- The constructions that are to be cancelled next. -/
def Frame.closing : Frame → List Nat
  | .pluginCancel _ pending | .shutdownCancel _ pending _ => pending
  | _ => []

/-- The construction that is being changed, with its token. -/
def Frame.changing : Frame → Option (Nat × Nat)
  | .changeConstruction state token _ => some (state, token)
  | _ => none

def Frame.stops : Frame → Bool
  | .shutdownCancel _ _ _ => true
  | _ => false

/-- The frame has nothing to do with tokens. -/
structure Frame.Plain (frame : Frame) : Prop where
  cancelling : frame.cancelling = none
  creating : frame.creating = none
  closing : frame.closing = []
  changing : frame.changing = none
  stops : frame.stops = false

/-- A frame in which one token is cancelled, and which `Shutdown` does not wait for. -/
structure Frame.Cancels (frame : Frame) (token : Nat) : Prop where
  cancelling : frame.cancelling = some token
  creating : frame.creating = none
  changing : frame.changing = none
  stops : frame.stops = false

/-- What an event says of a token. -/
def Event.custodial : Event → Option (Custodial Nat)
  | .created token => some (.made token)
  | .used token => if token = 0 then none else some (.used token)
  | .spawned token => some (.spent token)
  | .cancelling token => some (.returning token)
  | .cancelled token => some (.returned token)
  | _ => none

/-- Who is told that the service has stopped may rely on it: every token is spawned or
cancelled. -/
def Event.ends : Event → List Event → Prop
  | .stopped complete, earlier => complete = true → ∀ token, .created token ∈ earlier →
    .spawned token ∈ earlier ∨ .cancelled token ∈ earlier
  | _, _ => True

/-- The event says nothing of tokens. -/
structure Event.Plain (event : Event) : Prop where
  custodial : event.custodial = none
  ends : ∀ earlier, event.ends earlier

/-- A token is not zero. -/
def Construction.token? (construction : Construction) : Option Nat :=
  if construction.token = 0 then none else some construction.token

namespace SchemaEntityService

variable {service : SchemaEntityService}

/-- The tokens of the constructions. -/
def custody (service : SchemaEntityService) : Custody Nat Nat where
  holds state := (service.constructions state).token?
  returning := service.stack.filterMap Frame.cancelling
  entries := service.history.filterMap Event.custodial

/-- Who is to be cancelled by what is under way. -/
def closing (service : SchemaEntityService) : List Nat :=
  service.stack.flatMap Frame.closing

section

variable {events : List Event} {token : Nat}

theorem mem_entries {entry : Custodial Nat} {event : Event}
    (honly : ∀ other : Event, other.custodial = some entry ↔ other = event) :
    entry ∈ events.filterMap Event.custodial ↔ event ∈ events := by
  rw [List.mem_filterMap]
  constructor
  · rintro ⟨other, hmem, hother⟩
    exact (honly other).1 hother ▸ hmem
  · intro hmem
    exact ⟨event, hmem, (honly event).2 rfl⟩

@[simp] theorem mem_made :
    .made token ∈ events.filterMap Event.custodial ↔ .created token ∈ events := by
  refine mem_entries fun other => ?_
  cases other <;> simp [Event.custodial]

@[simp] theorem mem_spent :
    .spent token ∈ events.filterMap Event.custodial ↔ .spawned token ∈ events := by
  refine mem_entries fun other => ?_
  cases other <;> simp [Event.custodial]

@[simp] theorem mem_returning :
    .returning token ∈ events.filterMap Event.custodial ↔ .cancelling token ∈ events := by
  refine mem_entries fun other => ?_
  cases other <;> simp [Event.custodial]

@[simp] theorem mem_returned :
    .returned token ∈ events.filterMap Event.custodial ↔ .cancelled token ∈ events := by
  refine mem_entries fun other => ?_
  cases other <;> simp [Event.custodial]

end

variable {state token handle : Nat} {after : SchemaEntityService} {frame : Frame}
  {record : EntityRecord} {rest : List Frame}

theorem holds_iff : service.custody.holds state = some token ↔
    token ≠ 0 ∧ (service.constructions state).token = token := by
  simp only [custody, Construction.token?]
  split
  · next hzero =>
    simp only [reduceCtorEq, hzero, false_iff, not_and]
    rintro hne rfl
    exact hne rfl
  · next hne =>
    rw [Option.some.injEq]
    constructor
    · rintro rfl
      exact ⟨hne, rfl⟩
    · exact And.right

theorem holds_none (hzero : (service.constructions state).token = 0) :
    service.custody.holds state = none :=
  if_pos hzero

/-! ## What is kept -/

/-- The construction waits for the adapter, and its record, where there is one, is of the handle. -/
structure Creates (service : SchemaEntityService) (pair : Nat × Nat) : Prop where
  known : pair.2 < service.nextConstruction
  initializing : (service.constructions pair.2).initializing = true
  token : (service.constructions pair.2).token = 0
  below : service.nextEntity ≠ 0 → pair.1 < service.nextEntity
  record : ∀ record ∈ service.entities, record.handle = pair.1 → record.construction = some pair.2

/-- What is being changed has its token still, or has parted with it. -/
structure Changes (service : SchemaEntityService) (pair : Nat × Nat) : Prop where
  token : pair.2 ≠ 0
  known : pair.1 < service.nextConstruction
  made : (service.constructions pair.1).initializing = false
  holds : (service.constructions pair.1).token = pair.2 ∨
    (service.constructions pair.1).token = 0 ∧
      (.spawned pair.2 ∈ service.history ∨ .cancelling pair.2 ∈ service.history)

/-- `extra` are constructions that a release is about to cancel. -/
structure Kept (service : SchemaEntityService) (extra : List Nat) : Prop where
  sound : service.custody.Sound
  ended : Lawful Event.ends service.history
  created : ((service.stack.filterMap Frame.creating).map Prod.snd).Nodup
  creating : ∀ pair ∈ service.stack.filterMap Frame.creating, service.Creates pair
  fresh : ∀ state, service.nextConstruction ≤ state → (service.constructions state).token = 0
  changing : ∀ pair ∈ service.stack.filterMap Frame.changing, service.Changes pair
  /-- Who has constructed it can be found. -/
  owned : ∀ state, (service.constructions state).closed = false → service.unfinished state = true →
    ∃ record ∈ service.entities, record.constructionOwner = true ∧
      record.construction = some state
  numbered : ∀ record ∈ service.entities, record.constructionOwner = true →
    ∀ state, record.construction = some state → state < service.nextConstruction
  distinct : (service.entities.map (·.handle)).Nodup
  room : service.nextEntity < 2 ^ 64
  below : service.nextEntity ≠ 0 → ∀ record ∈ service.entities, record.handle < service.nextEntity
  /-- What is closed parts with its token soon. -/
  closes : ∀ state, (service.constructions state).closed = true →
    (service.constructions state).token ≠ 0 → state ∈ extra ++ service.closing
  /-- When the service has stopped, nothing that is open has a token. -/
  stopped : service.shuttingDown = true → ∀ state, (service.constructions state).token ≠ 0 →
    (service.constructions state).closed = true
  /-- Where `Shutdown` came, nothing was being cancelled. -/
  under : ∀ frame below, frame :: below <:+ service.stack → frame.stops = true →
    below.filterMap Frame.cancelling = [] ∧ service.shuttingDown = true
  bounded : ∀ plugin, service.entities.countP (service.isPending plugin) ≤ constructionMaxPending

variable {extra : List Nat}

theorem initial_kept (profile : Text) : Kept (initial profile) [] where
  sound := Custody.sound_empty
  ended := trivial
  created := List.nodup_nil
  creating _ hmem := by cases hmem
  fresh _ _ := rfl
  changing _ hmem := by cases hmem
  owned _ _ hunfinished := by cases hunfinished
  numbered _ hmem := by cases hmem
  distinct := List.nodup_nil
  room := show 1 < 2 ^ 64 by decide
  below _ _ hmem := by cases hmem
  closes _ hclosed := by cases hclosed
  stopped hdown := by cases hdown
  under _ _ hsuffix := by cases List.suffix_nil.1 hsuffix
  bounded _ := Nat.zero_le _

theorem Kept.weaken (hkept : Kept service extra) {more : List Nat}
    (hsub : ∀ state ∈ extra, state ∈ more) : Kept service more :=
  { hkept with
    closes := by
      intro state hclosed htoken
      rcases List.mem_append.1 (hkept.closes state hclosed htoken) with hmem | hmem
      · exact List.mem_append_left _ (hsub state hmem)
      · exact List.mem_append_right _ hmem }

/-! ### Events and frames -/

theorem Changes.later {pair : Nat × Nat} (hchanges : service.Changes pair)
    (hconstructions : after.constructions = service.constructions)
    (hnext : after.nextConstruction = service.nextConstruction)
    (hhistory : ∀ event ∈ service.history, event ∈ after.history) : after.Changes pair where
  token := hchanges.token
  known := hnext ▸ hchanges.known
  made := hconstructions ▸ hchanges.made
  holds := by
    rw [hconstructions]
    exact hchanges.holds.imp_right (And.imp_right (Or.imp (hhistory _) (hhistory _)))

theorem Creates.later {pair : Nat × Nat} (hcreates : service.Creates pair)
    (hconstructions : after.constructions = service.constructions)
    (hnext : after.nextConstruction = service.nextConstruction)
    (hbelow : after.nextEntity ≠ 0 → pair.1 < after.nextEntity)
    (hentities : ∀ record ∈ after.entities, record.handle = pair.1 → record ∈ service.entities) :
    after.Creates pair where
  known := hnext ▸ hcreates.known
  initializing := hconstructions ▸ hcreates.initializing
  token := hconstructions ▸ hcreates.token
  below := hbelow
  record record hmem hhandle := hcreates.record record (hentities record hmem hhandle) hhandle

theorem entries_tell {events : List Event} (hplain : ∀ event ∈ events, event.Plain) :
    (events ++ service.history).filterMap Event.custodial =
      service.history.filterMap Event.custodial := by
  rw [List.filterMap_append, List.filterMap_eq_nil_iff.2, List.nil_append]
  intro event hmem
  exact (hplain event hmem).custodial

theorem Kept.tell (hkept : Kept service extra) {events : List Event}
    (hplain : ∀ event ∈ events, event.Plain) : Kept (service.tell events) extra :=
  { hkept with
    sound := by
      unfold custody
      simp only [SchemaEntityService.tell]
      rw [entries_tell hplain]
      exact hkept.sound
    ended := hkept.ended.append fun event hmem earlier => (hplain event hmem).ends earlier
    creating := by
      intro pair hmem
      have hcreates := hkept.creating pair hmem
      exact hcreates.later rfl rfl hcreates.below fun _ hmem _ => hmem
    changing := by
      intro pair hmem
      exact (hkept.changing pair hmem).later rfl rfl fun _ => List.mem_append_right _ }

theorem Kept.uses (hkept : Kept service extra) (state : Nat) :
    Kept (service.tell [.used (service.constructions state).token]) extra :=
  { hkept with
    sound := by
      by_cases hzero : (service.constructions state).token = 0
      · simpa [custody, SchemaEntityService.tell, Event.custodial, hzero] using hkept.sound
      · have hsound := hkept.sound.use (holds_iff.2 ⟨hzero, rfl⟩)
        simpa [custody, SchemaEntityService.tell, Event.custodial, hzero] using hsound
    ended := ⟨trivial, hkept.ended⟩
    creating := by
      intro pair hmem
      have hcreates := hkept.creating pair hmem
      exact hcreates.later rfl rfl hcreates.below fun _ hmem _ => hmem
    changing := by
      intro pair hmem
      exact (hkept.changing pair hmem).later rfl rfl fun _ => List.mem_append_right _ }

theorem Kept.pushes (hkept : Kept service extra) (hplain : frame.Plain) :
    Kept (service.setStack (frame :: service.stack)) extra :=
  { hkept with
    sound := by
      simpa [custody, setStack, hplain.cancelling] using hkept.sound
    created := by simpa [setStack, hplain.creating] using hkept.created
    creating := by
      intro pair hmem
      simp only [setStack, List.filterMap_cons_none hplain.creating] at hmem
      have hcreates := hkept.creating pair hmem
      exact hcreates.later rfl rfl hcreates.below fun _ hmem _ => hmem
    changing := by
      intro pair hmem
      simp only [setStack, List.filterMap_cons_none hplain.changing] at hmem
      exact (hkept.changing pair hmem).later rfl rfl fun _ => id
    closes := by simpa [closing, setStack, hplain.closing] using hkept.closes
    under := by
      intro other below hsuffix hstops
      rcases List.suffix_cons_iff.1 hsuffix with heq | hsuffix
      · cases heq
        rw [hplain.stops] at hstops
        cases hstops
      · exact hkept.under other below hsuffix hstops }

theorem mem_rest {Found : Type} (hstack : service.stack = frame :: rest)
    (select : Frame → Option Found) {found : Found} (hmem : found ∈ rest.filterMap select) :
    found ∈ service.stack.filterMap select := by
  rw [hstack]
  exact ((List.sublist_cons_self frame rest).filterMap select).subset hmem

theorem Kept.pops (hkept : Kept service extra) (hstack : service.stack = frame :: rest)
    (hcancelling : frame.cancelling = none) (hclosing : frame.closing = []) :
    Kept (service.setStack rest) extra :=
  { hkept with
    sound := by
      simpa [custody, setStack, hstack, hcancelling] using hkept.sound
    created := by
      have hcreated := hkept.created
      rw [hstack] at hcreated
      exact hcreated.sublist (((List.sublist_cons_self frame rest).filterMap _).map _)
    creating := by
      intro pair hmem
      have hcreates := hkept.creating pair (mem_rest hstack _ hmem)
      exact hcreates.later rfl rfl hcreates.below fun _ hmem _ => hmem
    changing := by
      intro pair hmem
      exact (hkept.changing pair (mem_rest hstack _ hmem)).later rfl rfl fun _ => id
    closes := by simpa [closing, setStack, hstack, hclosing] using hkept.closes
    under := by
      intro other below hsuffix hstops
      refine hkept.under other below ?_ hstops
      rw [hstack]
      exact hsuffix.trans (List.suffix_cons frame rest) }

theorem Kept.concludes (hkept : Kept service extra) (hstack : service.stack = frame :: rest)
    (hcancelling : frame.cancelling = some token) {reply : Reply}
    (hreply : reply.result = .ok ∨ reply.result = .notFound) :
    Kept ((service.setStack rest).concluded token reply) (frame.closing ++ extra) := by
  have hevent : (service.setStack rest).concluded token reply =
      (service.setStack rest).tell [.cancelled token] := by
    unfold concluded
    rw [if_pos hreply]
  rw [hevent]
  constructor
  · have hreturning : service.custody.returning = token :: rest.filterMap Frame.cancelling := by
      unfold custody
      rw [hstack, List.filterMap_cons_some hcancelling]
    exact hkept.sound.finish hreturning
  · exact ⟨trivial, hkept.ended⟩
  · have hcreated := hkept.created
    rw [hstack] at hcreated
    exact hcreated.sublist (((List.sublist_cons_self frame rest).filterMap _).map _)
  · intro pair hmem
    have hcreates := hkept.creating pair (mem_rest hstack _ hmem)
    exact hcreates.later rfl rfl hcreates.below fun _ hmem _ => hmem
  · exact hkept.fresh
  · intro pair hmem
    exact (hkept.changing pair (mem_rest hstack _ hmem)).later rfl rfl
      fun _ => List.mem_append_right _
  · exact hkept.owned
  · exact hkept.numbered
  · exact hkept.distinct
  · exact hkept.room
  · exact hkept.below
  · intro state hclosed htoken
    have hmem := hkept.closes state hclosed htoken
    simp only [closing, hstack, List.flatMap_cons, List.mem_append] at hmem
    simp only [closing, SchemaEntityService.tell, setStack, List.mem_append]
    tauto
  · exact hkept.stopped
  · intro other below hsuffix hstops
    refine hkept.under other below ?_ hstops
    rw [hstack]
    exact hsuffix.trans (List.suffix_cons frame rest)
  · exact hkept.bounded

/-! ### Constructions -/

/-- The construction is open, and the adapter is to finish it. -/
def Awaits (service : SchemaEntityService) (state : Nat) : Prop :=
  (service.constructions state).closed = false ∧ service.unfinished state = true

theorem unfinished_iff : service.unfinished state = true ↔
    (service.constructions state).initializing = true ∨
      (service.constructions state).token ≠ 0 := by
  simp [unfinished]

theorem isPending_iff {plugin : KeelPluginHandle} :
    service.isPending plugin record = true ↔ record.owner = plugin ∧
      record.constructionOwner = true ∧
        ∃ state, record.construction = some state ∧ service.Awaits state := by
  unfold isPending Awaits
  cases record.construction with
  | none => simp
  | some state => simp [and_assoc]

theorem Kept.bounds (hkept : Kept service extra)
    (hentities : after.entities.Sublist service.entities)
    (hawaits : ∀ state, after.Awaits state → service.Awaits state) (plugin : KeelPluginHandle) :
    after.entities.countP (after.isPending plugin) ≤ constructionMaxPending := by
  refine le_trans (le_trans (List.countP_mono_left ?_) hentities.countP_le) (hkept.bounded plugin)
  intro record hmem hpending
  obtain ⟨howner, hconstructs, state, hstate, hstill⟩ := isPending_iff.1 hpending
  exact isPending_iff.2 ⟨howner, hconstructs, state, hstate, hawaits state hstill⟩

section

variable {state other : Nat} {construction : Construction}

@[simp] theorem setConstruction_self :
    (service.setConstruction state construction).constructions state = construction :=
  Function.update_self ..

theorem setConstruction_of_ne (hne : other ≠ state) :
    (service.setConstruction state construction).constructions other =
      service.constructions other :=
  Function.update_of_ne hne ..

theorem custody_set : (service.setConstruction state construction).custody =
    { service.custody with holds := service.custody.give state construction.token? } := by
  have hholds : (fun other => ((service.setConstruction state construction).constructions
      other).token?) = service.custody.give state construction.token? := by
    funext other
    by_cases heq : other = state
    · rw [heq, setConstruction_self, Custody.give_self]
    · rw [setConstruction_of_ne heq, Custody.give_of_ne heq]
      rfl
  unfold custody
  rw [hholds]
  rfl

theorem custody_set_same (htoken : construction.token = (service.constructions state).token) :
    (service.setConstruction state construction).custody = service.custody := by
  rw [custody_set]
  have hholds : construction.token? = service.custody.holds state := by
    unfold custody Construction.token?
    rw [htoken]
  rw [hholds, Custody.give, Function.update_eq_self]

end

/-- Constructions are closed or part with their tokens, and nothing else is undone. -/
structure Lowers (service after : SchemaEntityService) : Prop where
  nextConstruction : after.nextConstruction = service.nextConstruction
  entities : after.entities = service.entities
  nextEntity : after.nextEntity = service.nextEntity
  shuttingDown : after.shuttingDown = service.shuttingDown
  creating : after.stack.filterMap Frame.creating = service.stack.filterMap Frame.creating
  changing : after.stack.filterMap Frame.changing = service.stack.filterMap Frame.changing
  history : ∀ event ∈ service.history, event ∈ after.history
  initializing : ∀ state, (after.constructions state).initializing =
    (service.constructions state).initializing
  tokens : ∀ state, (after.constructions state).token = (service.constructions state).token ∨
    (after.constructions state).token = 0 ∧ ∀ token ≠ 0,
      (service.constructions state).token = token →
        .spawned token ∈ after.history ∨ .cancelling token ∈ after.history
  opened : ∀ state, (after.constructions state).closed = false →
    (service.constructions state).closed = false

theorem Lowers.zero (hlowers : service.Lowers after)
    (hzero : (service.constructions state).token = 0) : (after.constructions state).token = 0 := by
  rcases hlowers.tokens state with htoken | hgone
  · exact htoken.trans hzero
  · exact hgone.1

theorem Lowers.awaits (hlowers : service.Lowers after) (state : Nat) (hawaits : after.Awaits state) :
    service.Awaits state := by
  refine ⟨hlowers.opened state hawaits.1, ?_⟩
  rw [unfinished_iff, ← hlowers.initializing]
  refine (unfinished_iff.1 hawaits.2).imp_right ?_
  intro hne hzero
  exact hne (hlowers.zero hzero)

theorem Kept.lowers (hkept : Kept service extra) (hlowers : service.Lowers after) {more : List Nat}
    (hsound : after.custody.Sound) (hended : Lawful Event.ends after.history)
    (hcloses : ∀ state, (after.constructions state).closed = true → (after.constructions
      state).token ≠ 0 → state ∈ more ++ after.closing)
    (hunder : ∀ frame below, frame :: below <:+ after.stack → frame.stops = true → below.filterMap
      Frame.cancelling = [] ∧ after.shuttingDown = true) : Kept after more where
  sound := hsound
  ended := hended
  created := by
    rw [hlowers.creating]
    exact hkept.created
  creating := by
    intro pair hmem
    rw [hlowers.creating] at hmem
    have hcreates := hkept.creating pair hmem
    refine ⟨?_, ?_, hlowers.zero hcreates.token, ?_, ?_⟩
    · rw [hlowers.nextConstruction]
      exact hcreates.known
    · rw [hlowers.initializing]
      exact hcreates.initializing
    · rw [hlowers.nextEntity]
      exact hcreates.below
    · rw [hlowers.entities]
      exact hcreates.record
  fresh := by
    intro state hlater
    rw [hlowers.nextConstruction] at hlater
    exact hlowers.zero (hkept.fresh state hlater)
  changing := by
    intro pair hmem
    rw [hlowers.changing] at hmem
    have hchanges := hkept.changing pair hmem
    refine ⟨hchanges.token, ?_, ?_, ?_⟩
    · rw [hlowers.nextConstruction]
      exact hchanges.known
    · rw [hlowers.initializing]
      exact hchanges.made
    rcases hchanges.holds with htoken | ⟨hzero, hgone⟩
    · rcases hlowers.tokens pair.1 with hsame | ⟨hzero, hgone⟩
      · exact Or.inl (hsame.trans htoken)
      · exact Or.inr ⟨hzero, hgone pair.2 hchanges.token htoken⟩
    · exact Or.inr ⟨hlowers.zero hzero, hgone.imp (hlowers.history _) (hlowers.history _)⟩
  owned := by
    intro state hopen hunfinished
    have hawaits := hlowers.awaits state ⟨hopen, hunfinished⟩
    rw [hlowers.entities]
    exact hkept.owned state hawaits.1 hawaits.2
  numbered := by
    rw [hlowers.entities, hlowers.nextConstruction]
    exact hkept.numbered
  distinct := by
    rw [hlowers.entities]
    exact hkept.distinct
  room := by
    rw [hlowers.nextEntity]
    exact hkept.room
  below := by
    rw [hlowers.nextEntity, hlowers.entities]
    exact hkept.below
  closes := hcloses
  stopped := by
    intro hdown state htoken
    rw [hlowers.shuttingDown] at hdown
    have hclosed := hkept.stopped hdown state fun hzero => htoken (hlowers.zero hzero)
    by_contra hopen
    have hopen := hlowers.opened state (Bool.eq_false_of_not_eq_true hopen)
    exact absurd (hopen.symm.trans hclosed) Bool.false_ne_true
  under := hunder
  bounded := by
    intro plugin
    exact hkept.bounds (by rw [hlowers.entities]) hlowers.awaits plugin

theorem lowers_set {construction : Construction}
    (hconstructions : after.constructions = Function.update service.constructions state
      construction)
    (hnext : after.nextConstruction = service.nextConstruction)
    (hentities : after.entities = service.entities)
    (hnextEntity : after.nextEntity = service.nextEntity)
    (hdown : after.shuttingDown = service.shuttingDown)
    (hcreating : after.stack.filterMap Frame.creating = service.stack.filterMap Frame.creating)
    (hchanging : after.stack.filterMap Frame.changing = service.stack.filterMap Frame.changing)
    (hhistory : ∀ event ∈ service.history, event ∈ after.history)
    (hinitializing : construction.initializing = (service.constructions state).initializing)
    (htoken : construction.token = (service.constructions state).token ∨ construction.token = 0 ∧ ∀
      token ≠ 0, (service.constructions state).token = token → .spawned token ∈ after.history ∨
      .cancelling token ∈ after.history)
    (hopened : construction.closed = false → (service.constructions state).closed = false) :
    service.Lowers after where
  nextConstruction := hnext
  entities := hentities
  nextEntity := hnextEntity
  shuttingDown := hdown
  creating := hcreating
  changing := hchanging
  history := hhistory
  initializing := by
    intro other
    rw [hconstructions]
    by_cases heq : other = state
    · rw [heq, Function.update_self]
      exact hinitializing
    · rw [Function.update_of_ne heq]
  tokens := by
    intro other
    rw [hconstructions]
    by_cases heq : other = state
    · rw [heq, Function.update_self]
      exact htoken
    · rw [Function.update_of_ne heq]
      exact Or.inl rfl
  opened := by
    intro other
    rw [hconstructions]
    by_cases heq : other = state
    · rw [heq, Function.update_self]
      exact hopened
    · rw [Function.update_of_ne heq]
      exact id

theorem Kept.closesOne (hkept : Kept service extra) (state : Nat) :
    Kept (service.close state) (state :: extra) := by
  have hlowers : service.Lowers (service.close state) :=
    lowers_set rfl rfl rfl rfl rfl rfl rfl (fun _ => id) rfl (Or.inl rfl)
      fun hopen => by cases hopen
  have hcustody : (service.close state).custody = service.custody := custody_set_same rfl
  refine hkept.lowers hlowers (hcustody ▸ hkept.sound) hkept.ended ?_ hkept.under
  intro other hclosed htoken
  by_cases heq : other = state
  · exact heq ▸ List.mem_cons_self
  · rw [close, setConstruction_of_ne heq] at hclosed htoken
    exact List.mem_cons_of_mem _ (hkept.closes other hclosed htoken)

theorem Kept.closesAll (pending : List Nat) (hkept : Kept service extra) :
    Kept (service.closeAll pending) (pending ++ extra) := by
  induction pending generalizing service extra with
  | nil => exact hkept
  | cons state pending ih =>
    refine (ih (hkept.closesOne state)).weaken ?_
    intro other hmem
    simp only [List.mem_append, List.mem_cons, List.cons_append] at hmem ⊢
    tauto

theorem Kept.setsBusy (hkept : Kept service extra) (state : Nat) (busy : Bool) :
    Kept (service.setConstruction state { service.constructions state with busy := busy })
      extra := by
  have hlowers : service.Lowers (service.setConstruction state
      { service.constructions state with busy := busy }) :=
    lowers_set rfl rfl rfl rfl rfl rfl rfl (fun _ => id) rfl (Or.inl rfl) id
  have hcustody : (service.setConstruction state
      { service.constructions state with busy := busy }).custody = service.custody :=
    custody_set_same rfl
  refine hkept.lowers hlowers (hcustody ▸ hkept.sound) hkept.ended ?_ hkept.under
  intro other hclosed htoken
  refine hkept.closes other ?_ ?_
  · by_cases heq : other = state
    · rw [heq, setConstruction_self] at hclosed
      exact heq ▸ hclosed
    · rwa [setConstruction_of_ne heq] at hclosed
  · by_cases heq : other = state
    · rw [heq, setConstruction_self] at htoken
      exact heq ▸ htoken
    · rwa [setConstruction_of_ne heq] at htoken

theorem Kept.closes_take (hkept : Kept service (state :: extra)) (other : Nat)
    (hclosed : ((service.take state).constructions other).closed = true)
    (htoken : ((service.take state).constructions other).token ≠ 0) :
    other ∈ extra ++ service.closing := by
  by_cases heq : other = state
  · rw [heq, take, setConstruction_self] at htoken
    exact absurd rfl htoken
  · rw [take, setConstruction_of_ne heq] at hclosed htoken
    have hmem := hkept.closes other hclosed htoken
    rw [List.cons_append, List.mem_cons] at hmem
    exact hmem.resolve_left heq

theorem Kept.takesNothing (hkept : Kept service (state :: extra))
    (hzero : (service.constructions state).token = 0) : Kept (service.take state) extra := by
  have hlowers : service.Lowers (service.take state) :=
    lowers_set rfl rfl rfl rfl rfl rfl rfl (fun _ => id) rfl (Or.inl hzero.symm)
      fun hopen => by cases hopen
  have hcustody : (service.take state).custody = service.custody :=
    custody_set_same hzero.symm
  exact hkept.lowers hlowers (hcustody ▸ hkept.sound) hkept.ended hkept.closes_take hkept.under

theorem custody_part {construction : Construction} (hzero : construction.token = 0)
    (stack : List Frame) (history : List Event) :
    ({ service.setConstruction state construction with
      stack := stack
      history := history } : SchemaEntityService).custody =
        ⟨service.custody.give state none, stack.filterMap Frame.cancelling,
          history.filterMap Event.custodial⟩ := by
  have hcustody : (service.setConstruction state construction).custody =
      { service.custody with holds := service.custody.give state none } := by
    rw [custody_set]
    unfold Construction.token?
    rw [if_pos hzero]
  exact congrArg (fun holds => Custody.mk holds _ _) (congrArg Custody.holds hcustody)

theorem Kept.takesToken (hkept : Kept service (state :: (frame.closing ++ extra)))
    (hne : (service.constructions state).token ≠ 0)
    (hcancelling : frame.cancelling = some (service.constructions state).token)
    (hcreating : frame.creating = none) (hchanging : frame.changing = none)
    (hstops : frame.stops = true → service.stack.filterMap Frame.cancelling = [] ∧
      service.shuttingDown = true) :
    Kept ((service.take state).push frame [.cancelling (service.constructions state).token])
      extra := by
  have hlowers : service.Lowers ((service.take state).push frame
      [.cancelling (service.constructions state).token]) := by
    refine lowers_set rfl rfl rfl rfl rfl (List.filterMap_cons_none hcreating)
      (List.filterMap_cons_none hchanging) (fun _ => List.mem_cons_of_mem _) rfl ?_
      fun hopen => by cases hopen
    refine Or.inr ⟨rfl, ?_⟩
    rintro token - rfl
    exact Or.inr List.mem_cons_self
  refine hkept.lowers hlowers ?_ ⟨trivial, hkept.ended⟩ ?_ ?_
  · have hsound := hkept.sound.return (holds_iff.2 ⟨hne, rfl⟩)
    have hcustody : ((service.take state).push frame
        [.cancelling (service.constructions state).token]).custody = _ :=
      custody_part rfl (frame :: service.stack)
        (.cancelling (service.constructions state).token :: service.history)
    rw [List.filterMap_cons_some hcancelling] at hcustody
    rw [hcustody]
    exact hsound
  · intro other hclosed htoken
    have hmem := hkept.closes_take other hclosed htoken
    simp only [closing, push, SchemaEntityService.tell, setStack, take, setConstruction,
      List.flatMap_cons, List.mem_append] at hmem ⊢
    tauto
  · intro other below hsuffix hother
    rcases List.suffix_cons_iff.1 hsuffix with heq | hsuffix
    · cases heq
      exact hstops hother
    · exact hkept.under other below hsuffix hother

theorem Kept.returnsChange (hkept : Kept service extra) (hchanges : service.Changes (state, token))
    (spawns : Bool) (reply : Reply) : Kept (service.changed state token spawns reply) extra := by
  unfold changed
  dsimp only
  split
  · have hlowers : service.Lowers ((service.setConstruction state
        { service.constructions state with token := 0, busy := false }).tell [.spawned token]) := by
      refine lowers_set rfl rfl rfl rfl rfl rfl rfl (fun _ => List.mem_cons_of_mem _) rfl
        (Or.inr ⟨rfl, ?_⟩) id
      rintro other hne hother
      rcases hchanges.holds with htoken | ⟨hzero, -⟩
      · have heq : other = token := hother.symm.trans htoken
        exact Or.inl (heq ▸ List.mem_cons_self)
      · exact absurd (hother.symm.trans hzero) hne
    refine hkept.lowers hlowers ?_ ⟨trivial, hkept.ended⟩ ?_ hkept.under
    · have hcustody : ((service.setConstruction state { service.constructions state with
          token := 0, busy := false }).tell [.spawned token]).custody = _ :=
        custody_part rfl service.stack (.spawned token :: service.history)
      rw [hcustody]
      rcases hchanges.holds with htoken | ⟨hzero, hgone⟩
      · exact hkept.sound.spend (holds_iff.2 ⟨hchanges.token, htoken⟩)
      · -- It was spawned or cancelled while the adapter was spawning it.
        have hgive : service.custody.give state none = service.custody.holds := by
          rw [← holds_none hzero, Custody.give, Function.update_eq_self]
        rw [hgive]
        refine hkept.sound.late ?_
        unfold custody
        rw [mem_spent, mem_returning]
        exact hgone
    · intro other hclosed htoken
      by_cases heq : other = state
      · rw [heq] at htoken
        exact absurd (congrArg Construction.token setConstruction_self) htoken
      · have hsame : ((service.setConstruction state { service.constructions state with
            token := 0, busy := false }).tell [.spawned token]).constructions other =
              service.constructions other := setConstruction_of_ne heq
        rw [hsame] at hclosed htoken
        exact hkept.closes other hclosed htoken
  · exact hkept.setsBusy state false

/-! ### Records -/

theorem Kept.removes (hkept : Kept service extra) (keep : EntityRecord → Bool)
    (hgoes : ∀ record ∈ service.entities, keep record = false → record.constructionOwner = true →
      ∀ state, record.construction = some state → ¬service.Awaits state) :
    Kept { service with entities := service.entities.filter keep } extra :=
  { hkept with
    creating := by
      intro pair hmem
      have hcreates := hkept.creating pair hmem
      exact hcreates.later rfl rfl hcreates.below fun _ hmem _ => List.mem_of_mem_filter hmem
    changing := by
      intro pair hmem
      exact (hkept.changing pair hmem).later rfl rfl fun _ => id
    owned := by
      intro state hopen hunfinished
      obtain ⟨record, hmem, hconstructs, hstate⟩ := hkept.owned state hopen hunfinished
      refine ⟨record, List.mem_filter.2 ⟨hmem, ?_⟩, hconstructs, hstate⟩
      by_contra hgone
      exact hgoes record hmem (Bool.eq_false_of_not_eq_true hgone) hconstructs state hstate
        ⟨hopen, hunfinished⟩
    numbered := by
      intro record hmem
      exact hkept.numbered record (List.mem_of_mem_filter hmem)
    distinct := hkept.distinct.sublist (List.filter_sublist.map _)
    below := by
      intro hne record hmem
      exact hkept.below hne record (List.mem_of_mem_filter hmem)
    bounded := by
      intro plugin
      exact le_trans List.filter_sublist.countP_le (hkept.bounded plugin) }

/-- One record is found by its handle, and no other. -/
theorem find_mem (hfind : service.find handle = some record) :
    record ∈ service.entities ∧ record.handle = handle := by
  have hhandle := List.find?_some hfind
  exact ⟨List.mem_of_find?_eq_some hfind, eq_of_beq hhandle⟩

theorem Kept.only (hkept : Kept service extra) {other : EntityRecord}
    (hfind : service.find handle = some record) (hmem : other ∈ service.entities)
    (hhandle : other.handle = handle) : other = record := by
  obtain ⟨hrecord, heq⟩ := find_mem hfind
  exact List.inj_on_of_nodup_map hkept.distinct hmem hrecord (hhandle.trans heq.symm)

theorem Kept.erases (hkept : Kept service extra) (hfind : service.find handle = some record)
    (hover : record.constructionOwner = true → ∀ state, record.construction = some state →
      ¬service.Awaits state) : Kept (service.erase handle) extra := by
  have hremoved := hkept.removes (fun other => decide (other.handle ≠ handle)) (by
    intro other hmem hgone
    have hhandle : other.handle = handle := by simpa using hgone
    rw [hkept.only hfind hmem hhandle]
    exact hover)
  have hplain : ∀ event ∈ [Event.released handle], event.Plain := by
    intro event hmem
    rw [List.mem_singleton.1 hmem]
    exact ⟨rfl, fun _ => trivial⟩
  exact hremoved.tell hplain

theorem next_handle {next : Nat} (hroom : next < 2 ^ 64) :
    (next + 1) % 2 ^ 64 = next + 1 ∨ (next + 1) % 2 ^ 64 = 0 := by
  omega

theorem Kept.numbers (hkept : Kept service extra) (hnext : service.nextEntity ≠ 0)
    (record : EntityRecord) (hhandle : record.handle = service.nextEntity) :
    ((record :: service.entities).map (·.handle)).Nodup ∧
      ((service.nextEntity + 1) % 2 ^ 64 ≠ 0 → ∀ other ∈ record :: service.entities,
        other.handle < (service.nextEntity + 1) % 2 ^ 64) := by
  constructor
  · rw [List.map_cons, List.nodup_cons]
    refine ⟨?_, hkept.distinct⟩
    intro hmem
    obtain ⟨other, hmem, hsame⟩ := List.mem_map.1 hmem
    have hlt := hkept.below hnext other hmem
    omega
  · intro hne other hmem
    have hup := (next_handle hkept.room).resolve_right hne
    rw [hup]
    rcases List.mem_cons.1 hmem with rfl | hmem
    · omega
    · have hlt := hkept.below hnext other hmem
      omega

theorem Kept.adds (hkept : Kept service extra) (hnext : service.nextEntity ≠ 0)
    (record : EntityRecord)
    (hhandle : record.handle = service.nextEntity)
    (hnumbered : record.constructionOwner = true → ∀ state, record.construction = some state →
      state < service.nextConstruction)
    (hbounded : ∀ plugin, (record :: service.entities).countP (service.isPending plugin) ≤
      constructionMaxPending) :
    Kept { service with
      entities := record :: service.entities
      nextEntity := (service.nextEntity + 1) % 2 ^ 64 } extra :=
  { hkept with
    creating := by
      intro pair hmem
      have hcreates := hkept.creating pair hmem
      have hlt := hcreates.below hnext
      refine hcreates.later rfl rfl ?_ ?_
      · intro hne
        have hup := (next_handle hkept.room).resolve_right hne
        dsimp only
        omega
      · intro other hother hsame
        refine (List.mem_cons.1 hother).resolve_left ?_
        rintro rfl
        omega
    changing := by
      intro pair hmem
      exact (hkept.changing pair hmem).later rfl rfl fun _ => id
    owned := by
      intro state hstill hunfinished
      obtain ⟨other, hmem, hother⟩ := hkept.owned state hstill hunfinished
      exact ⟨other, List.mem_cons_of_mem _ hmem, hother⟩
    numbered := by
      intro other hmem
      rcases List.mem_cons.1 hmem with rfl | hmem
      · exact hnumbered
      · exact hkept.numbered other hmem
    distinct := (hkept.numbers hnext record hhandle).1
    room := Nat.mod_lt _ (by decide)
    below := (hkept.numbers hnext record hhandle).2
    bounded := hbounded }

theorem Kept.allots (hkept : Kept service extra) (hnext : service.nextEntity ≠ 0)
    (plugin : KeelPluginHandle) (identity : GameEntityIdentity)
    (construction : Option Nat) :
    Kept (service.allot plugin identity construction false) extra := by
  have hadded := hkept.adds hnext ⟨service.nextEntity, plugin, identity, construction, false⟩
    rfl (fun hconstructs => by cases hconstructs) (by
      intro other
      rw [List.countP_cons_of_neg]
      · exact hkept.bounded other
      · intro hpending
        have hconstructs := (isPending_iff.1 hpending).2.1
        cases hconstructs)
  have hplain : ∀ event ∈ [Event.recorded service.nextEntity identity,
      .allotted plugin service.nextEntity], event.Plain := by
    intro event hmem
    rcases List.mem_pair.1 hmem with rfl | rfl
    · exact ⟨rfl, fun _ => trivial⟩
    · exact ⟨rfl, fun _ => trivial⟩
  exact hadded.tell hplain

/-! ## Creating and changing -/

theorem Kept.pending_new (hkept : Kept service extra) (plugin other : KeelPluginHandle) :
    service.entities.countP ((service.setConstruction service.nextConstruction
      ⟨false, 0, plugin, true, false⟩).isPending other) ≤
        service.entities.countP (service.isPending other) := by
  refine List.countP_mono_left ?_
  intro record hmem hpending
  obtain ⟨howner, hconstructs, state, hstate, hawaits⟩ := isPending_iff.1 hpending
  refine isPending_iff.2 ⟨howner, hconstructs, state, hstate, ?_⟩
  have hne : state ≠ service.nextConstruction := by
    rintro rfl
    exact Nat.lt_irrefl _ (hkept.numbered record hmem hconstructs _ hstate)
  unfold Awaits unfinished at hawaits ⊢
  rwa [setConstruction_of_ne hne] at hawaits

theorem Kept.beginsCreate (hkept : Kept service extra) (plugin : KeelPluginHandle) :
    Kept (service.beginCreate plugin) extra := by
  unfold beginCreate
  split
  · exact hkept
  next hroom =>
  obtain ⟨hfew, hnext⟩ := not_or.1 hroom
  have hfew := Nat.lt_of_not_le hfew
  -- The construction is new: it has no token, and nothing knows of it.
  have hnew := hkept.fresh service.nextConstruction (Nat.le_refl _)
  have hne : ∀ pair ∈ service.stack.filterMap Frame.creating,
      pair.2 ≠ service.nextConstruction := by
    intro pair hmem
    exact Nat.ne_of_lt (hkept.creating pair hmem).known
  have hnumbers := hkept.numbers hnext
    ⟨service.nextEntity, plugin, ⟨0, 0, 0⟩, some service.nextConstruction, true⟩ rfl
  have hmade : Kept { service.setConstruction service.nextConstruction
      ⟨false, 0, plugin, true, false⟩ with
        nextConstruction := service.nextConstruction + 1
        entities := ⟨service.nextEntity, plugin, ⟨0, 0, 0⟩, some service.nextConstruction, true⟩ ::
          service.entities
        nextEntity := (service.nextEntity + 1) % 2 ^ 64
        stack := .create plugin service.nextEntity service.nextConstruction ::
          service.stack } extra := by
    have hcustody : (service.setConstruction service.nextConstruction
        ⟨false, 0, plugin, true, false⟩).custody = service.custody := custody_set_same hnew.symm
    have hothers : ∀ state, state ≠ service.nextConstruction →
        (service.setConstruction service.nextConstruction
          ⟨false, 0, plugin, true, false⟩).constructions state = service.constructions state := by
      intro state hne
      exact setConstruction_of_ne hne
    have hself : (service.setConstruction service.nextConstruction
        ⟨false, 0, plugin, true, false⟩).constructions service.nextConstruction =
          ⟨false, 0, plugin, true, false⟩ := setConstruction_self
    constructor
    · change (service.setConstruction service.nextConstruction
        ⟨false, 0, plugin, true, false⟩).custody.Sound
      rw [hcustody]
      exact hkept.sound
    · exact hkept.ended
    · refine List.nodup_cons.2 ⟨?_, hkept.created⟩
      intro hmem
      obtain ⟨pair, hmem, heq⟩ := List.mem_map.1 hmem
      exact hne pair hmem heq
    · intro pair hmem
      rcases List.mem_cons.1 hmem with rfl | hmem
      · refine ⟨Nat.lt_succ_self _, ?_, ?_, ?_, ?_⟩
        · dsimp only
          rw [hself]
        · dsimp only
          rw [hself]
        · intro hstill
          exact hnumbers.2 hstill _ List.mem_cons_self
        · intro record hrecord hhandle
          have hold := List.nodup_cons.1 hnumbers.1
          rcases List.mem_cons.1 hrecord with rfl | hrecord
          · rfl
          · exact absurd (List.mem_map.2 ⟨record, hrecord, hhandle⟩) hold.1
      · have hcreates := hkept.creating pair hmem
        have hlt := hcreates.below hnext
        refine ⟨Nat.lt_succ_of_lt hcreates.known, ?_, ?_, ?_, ?_⟩
        · dsimp only
          rw [hothers pair.2 (hne pair hmem)]
          exact hcreates.initializing
        · dsimp only
          rw [hothers pair.2 (hne pair hmem)]
          exact hcreates.token
        · intro hstill
          have hup := (next_handle hkept.room).resolve_right hstill
          dsimp only
          omega
        · intro record hrecord hhandle
          rcases List.mem_cons.1 hrecord with rfl | hrecord
          · dsimp only at hhandle
            omega
          · exact hcreates.record record hrecord hhandle
    · intro state hlater
      dsimp only at hlater ⊢
      rw [hothers state (by omega)]
      exact hkept.fresh state (by omega)
    · intro pair hmem
      have hchanges := hkept.changing pair hmem
      have hpair := hothers pair.1 (Nat.ne_of_lt hchanges.known)
      refine ⟨hchanges.token, Nat.lt_succ_of_lt hchanges.known, ?_, ?_⟩
      · dsimp only
        rw [hpair]
        exact hchanges.made
      · dsimp only
        rw [hpair]
        exact hchanges.holds
    · intro state hstill hunfinished
      by_cases heq : state = service.nextConstruction
      · exact ⟨_, List.mem_cons_self, rfl, heq ▸ rfl⟩
      · unfold unfinished at hunfinished
        dsimp only at hstill hunfinished
        rw [hothers state heq] at hstill hunfinished
        obtain ⟨record, hmem, hrecord⟩ := hkept.owned state hstill hunfinished
        exact ⟨record, List.mem_cons_of_mem _ hmem, hrecord⟩
    · intro record hmem hconstructs state hstate
      rcases List.mem_cons.1 hmem with rfl | hmem
      · cases hstate
        exact Nat.lt_succ_self _
      · exact Nat.lt_succ_of_lt (hkept.numbered record hmem hconstructs state hstate)
    · exact hnumbers.1
    · exact Nat.mod_lt _ (by decide)
    · exact hnumbers.2
    · intro state hclosed htoken
      by_cases heq : state = service.nextConstruction
      · rw [heq] at hclosed
        dsimp only at hclosed
        rw [hself] at hclosed
        cases hclosed
      · dsimp only at hclosed htoken
        rw [hothers state heq] at hclosed htoken
        exact hkept.closes state hclosed htoken
    · intro hdown state htoken
      by_cases heq : state = service.nextConstruction
      · rw [heq] at htoken
        dsimp only at htoken
        rw [hself] at htoken
        exact absurd rfl htoken
      · dsimp only at htoken ⊢
        rw [hothers state heq] at htoken ⊢
        exact hkept.stopped hdown state htoken
    · intro frame below hsuffix hstops
      rcases List.suffix_cons_iff.1 hsuffix with heq | hsuffix
      · cases heq
        cases hstops
      · exact hkept.under frame below hsuffix hstops
    · intro other
      have hold := hkept.pending_new plugin other
      by_cases hmine : other = plugin
      · subst hmine
        refine le_trans ?_ hfew
        rw [List.countP_cons]
        split
        · exact Nat.succ_le_succ hold
        · exact Nat.le_succ_of_le hold
      · rw [List.countP_cons_of_neg]
        · exact le_trans hold (hkept.bounded other)
        · intro hpending
          exact hmine (isPending_iff.1 hpending).1.symm
  have hplain : ∀ event ∈ [Event.recorded service.nextEntity ⟨0, 0, 0⟩,
      .allotted plugin service.nextEntity], event.Plain := by
    intro event hmem
    rcases List.mem_pair.1 hmem with rfl | rfl
    · exact ⟨rfl, fun _ => trivial⟩
    · exact ⟨rfl, fun _ => trivial⟩
  exact hmade.tell hplain

theorem Kept.drop (hkept : Kept service (state :: extra))
    (hopen : (service.constructions state).closed = false) : Kept service extra :=
  { hkept with
    closes := by
      intro other hclosed htoken
      have hmem := hkept.closes other hclosed htoken
      rw [List.cons_append, List.mem_cons] at hmem
      refine hmem.resolve_left ?_
      rintro rfl
      exact absurd (hopen.symm.trans hclosed) Bool.false_ne_true }

/-- The adapter has made what the construction waited for. -/
def finish (service : SchemaEntityService) (state token : Nat) : SchemaEntityService :=
  (service.setConstruction state
    { service.constructions state with token := token, initializing := false }).tell
      (if token = 0 then [] else [.created token])

theorem finish_of_ne {other : Nat} (hne : other ≠ state) :
    (service.finish state token).constructions other = service.constructions other :=
  setConstruction_of_ne hne

theorem finish_self (state token : Nat) : (service.finish state token).constructions state =
    { service.constructions state with token := token, initializing := false } :=
  setConstruction_self

theorem finish_close (state token : Nat) :
    (service.close state).finish state token = (service.finish state token).close state := by
  unfold finish close SchemaEntityService.tell
  rw [setConstruction_self]
  unfold setConstruction
  simp

theorem finish_sound (hsound : service.custody.Sound)
    (hzero : (service.constructions state).token = 0) (hnew : .created token ∉ service.history) :
    (service.finish state token).custody.Sound := by
  by_cases hnone : token = 0
  · have hcustody : (service.finish state token).custody = service.custody := by
      unfold finish
      rw [if_pos hnone]
      exact custody_set_same (hnone.trans hzero.symm)
    rw [hcustody]
    exact hsound
  · have hcustody : (service.setConstruction state { service.constructions state with
        token := token, initializing := false }).custody =
          { service.custody with holds := service.custody.give state (some token) } := by
      rw [custody_set]
      unfold Construction.token?
      rw [if_neg hnone]
    have hmatch : (service.finish state token).custody =
        ⟨service.custody.give state (some token), service.custody.returning,
          .made token :: service.custody.entries⟩ := by
      have hheld := congrArg Custody.holds hcustody
      unfold finish
      rw [if_neg hnone]
      exact congrArg (fun holds => Custody.mk holds _ _) hheld
    rw [hmatch]
    refine hsound.make (holds_none hzero) ?_
    unfold custody
    rwa [mem_made]

theorem Kept.finishes (hkept : Kept service extra) (hcreates : service.Creates (handle, state))
    (hout : state ∉ (service.stack.filterMap Frame.creating).map Prod.snd)
    (hnew : .created token ∉ service.history)
    (hdown : service.shuttingDown = true → (service.constructions state).closed = true) :
    Kept (service.finish state token) (state :: extra) := by
  have hhistory : ∀ event ∈ service.history, event ∈ (service.finish state token).history := by
    intro event hmem
    exact List.mem_append_right _ hmem
  have hopen : ∀ other, ((service.finish state token).constructions other).closed =
      (service.constructions other).closed := by
    intro other
    by_cases heq : other = state
    · rw [heq, finish_self]
    · rw [finish_of_ne heq]
  have hawaits : ∀ other, (service.finish state token).Awaits other → service.Awaits other := by
    rintro other ⟨hstill, hunfinished⟩
    rw [hopen] at hstill
    refine ⟨hstill, ?_⟩
    by_cases heq : other = state
    · rw [heq, unfinished_iff]
      exact Or.inl hcreates.initializing
    · unfold unfinished at hunfinished ⊢
      rwa [finish_of_ne heq] at hunfinished
  constructor
  · exact finish_sound hkept.sound hcreates.token hnew
  · refine hkept.ended.append ?_
    intro event hmem earlier
    split at hmem
    · cases hmem
    · rw [List.mem_singleton.1 hmem]
      trivial
  · exact hkept.created
  · intro pair hmem
    have hother := hkept.creating pair hmem
    have hne : pair.2 ≠ state := by
      rintro rfl
      exact hout (List.mem_map_of_mem hmem)
    refine ⟨hother.known, ?_, ?_, hother.below, hother.record⟩
    · rw [finish_of_ne hne]
      exact hother.initializing
    · rw [finish_of_ne hne]
      exact hother.token
  · intro other hlater
    have hknown := hcreates.known
    have hlater : service.nextConstruction ≤ other := hlater
    rw [finish_of_ne (by dsimp only at hknown; omega)]
    exact hkept.fresh other hlater
  · intro pair hmem
    have hchanges := hkept.changing pair hmem
    have hne : pair.1 ≠ state := by
      rintro rfl
      exact absurd (hchanges.made.symm.trans hcreates.initializing) Bool.false_ne_true
    refine ⟨hchanges.token, hchanges.known, ?_, ?_⟩
    · rw [finish_of_ne hne]
      exact hchanges.made
    · rw [finish_of_ne hne]
      exact hchanges.holds.imp_right (And.imp_right (Or.imp (hhistory _) (hhistory _)))
  · intro other hstill hunfinished
    have hold := hawaits other ⟨hstill, hunfinished⟩
    exact hkept.owned other hold.1 hold.2
  · exact hkept.numbered
  · exact hkept.distinct
  · exact hkept.room
  · exact hkept.below
  · intro other hclosed htoken
    by_cases heq : other = state
    · exact heq ▸ List.mem_cons_self
    · rw [finish_of_ne heq] at hclosed htoken
      exact List.mem_cons_of_mem _ (hkept.closes other hclosed htoken)
  · intro hstopped other htoken
    rw [hopen]
    by_cases heq : other = state
    · exact heq ▸ hdown hstopped
    · rw [finish_of_ne heq] at htoken
      exact hkept.stopped hstopped other htoken
  · exact hkept.under
  · intro plugin
    have hentities : (service.finish state token).entities.Sublist service.entities :=
      List.Sublist.refl _
    exact hkept.bounds hentities hawaits plugin

theorem Kept.records (hkept : Kept service extra) (change : EntityRecord → EntityRecord)
    (hsame : ∀ record, (change record).handle = record.handle ∧
      (change record).owner = record.owner ∧
        (change record).construction = record.construction ∧
          (change record).constructionOwner = record.constructionOwner) :
    Kept { service with entities := service.entities.map change } extra :=
  { hkept with
    creating := by
      intro pair hmem
      have hcreates := hkept.creating pair hmem
      refine ⟨hcreates.known, hcreates.initializing, hcreates.token, hcreates.below, ?_⟩
      intro record hrecord hhandle
      obtain ⟨old, hold, rfl⟩ := List.mem_map.1 hrecord
      rw [(hsame old).1] at hhandle
      rw [(hsame old).2.2.1]
      exact hcreates.record old hold hhandle
    changing := by
      intro pair hmem
      exact (hkept.changing pair hmem).later rfl rfl fun _ => id
    owned := by
      intro state hopen hunfinished
      obtain ⟨record, hmem, hconstructs, hstate⟩ := hkept.owned state hopen hunfinished
      refine ⟨change record, List.mem_map_of_mem hmem, ?_, ?_⟩
      · rw [(hsame record).2.2.2]
        exact hconstructs
      · rw [(hsame record).2.2.1]
        exact hstate
    numbered := by
      intro record hrecord hconstructs state hstate
      obtain ⟨old, hold, rfl⟩ := List.mem_map.1 hrecord
      rw [(hsame old).2.2.2] at hconstructs
      rw [(hsame old).2.2.1] at hstate
      exact hkept.numbered old hold hconstructs state hstate
    distinct := by
      have hhandles : (service.entities.map change).map (·.handle) =
          service.entities.map (·.handle) := by
        rw [List.map_map]
        exact List.map_congr_left fun record _ => (hsame record).1
      dsimp only
      rw [hhandles]
      exact hkept.distinct
    below := by
      intro hne record hrecord
      obtain ⟨old, hold, rfl⟩ := List.mem_map.1 hrecord
      rw [(hsame old).1]
      exact hkept.below hne old hold
    bounded := by
      intro plugin
      refine le_trans ?_ (hkept.bounded plugin)
      rw [List.countP_map]
      refine List.countP_mono_left ?_
      intro record _ hpending
      obtain ⟨howner, hconstructs, state, hstate, hawaits⟩ := isPending_iff.1 hpending
      rw [(hsame record).2.1] at howner
      rw [(hsame record).2.2.2] at hconstructs
      rw [(hsame record).2.2.1] at hstate
      exact isPending_iff.2 ⟨howner, hconstructs, state, hstate, hawaits⟩ }

theorem Kept.cancels {frame : Nat → Frame} (hframe : ∀ token, (frame token).Cancels token)
    (hclosing : ∀ token, (frame token).closing = [])
    {isOver : SchemaEntityService → SchemaEntityService}
    (hover : ∀ {after : SchemaEntityService}, after.shuttingDown = service.shuttingDown → Kept after
      extra → Kept (isOver after) extra)
    (hkept : Kept service (state :: extra)) :
    Kept (service.cancelConstruction state frame isOver) extra := by
  unfold cancelConstruction
  dsimp only
  split
  · next hzero => exact hover rfl (hkept.takesNothing hzero)
  · next hne =>
    have hcancels := hframe (service.constructions state).token
    refine Kept.takesToken ?_ hne hcancels.cancelling hcancels.creating hcancels.changing ?_
    · rw [hclosing]
      exact hkept
    · intro hstops
      rw [hcancels.stops] at hstops
      cases hstops

theorem cancelConstruction_close (state : Nat) (frame : Nat → Frame)
    (isOver : SchemaEntityService → SchemaEntityService) :
    (service.close state).cancelConstruction state frame isOver =
      service.cancelConstruction state frame isOver := by
  have htake : (service.close state).take state = service.take state := by
    unfold close take
    rw [setConstruction_self]
    unfold setConstruction
    rw [Function.update_idem]
  have htoken : ((service.close state).constructions state).token =
      (service.constructions state).token := by
    rw [close, setConstruction_self]
  unfold cancelConstruction
  rw [htake, htoken]

theorem Kept.returnsCreate (hkept : Kept service []) {reply : Reply}
    (hcreates : service.Creates (handle, state))
    (hout : state ∉ (service.stack.filterMap Frame.creating).map Prod.snd)
    (hnew : .created reply.token ∉ service.history) :
    Kept (service.created handle state reply) [] := by
  unfold SchemaEntityService.created
  dsimp only
  change Kept (if _ then { service.finish state reply.token with
    entities := _, history := _ } else _) []
  split
  · next haccepted =>
    simp only [Bool.and_eq_true, Bool.not_eq_true', pluginReady] at haccepted
    have hup : service.shuttingDown = false := haccepted.1.2.2
    have hfinished : Kept (service.finish state reply.token) [state] := by
      refine hkept.finishes hcreates hout hnew fun hdown => ?_
      exact absurd (hup.symm.trans hdown) Bool.false_ne_true
    have hopen : ((service.finish state reply.token).constructions state).closed = false := by
      rw [finish_self]
      exact haccepted.1.1.2
    have hrecorded := (hfinished.drop hopen).records
      (fun record => if record.handle = handle then { record with entity := reply.identity }
        else record) (by
          intro record
          by_cases heq : record.handle = handle
          · simp [heq]
          · simp [heq])
    have hplain : ∀ event ∈ [Event.recorded handle reply.identity], event.Plain := by
      intro event hmem
      rw [List.mem_singleton.1 hmem]
      exact ⟨rfl, fun _ => trivial⟩
    exact hrecorded.tell hplain
  · change Kept ((if _ then (service.finish state reply.token).erase handle
      else service.finish state reply.token).cancelConstruction state .rejectCancel id) []
    rw [← cancelConstruction_close]
    have hclosed : Kept ((service.finish state reply.token).close state) [state] := by
      have hclose : Kept ((service.close state).finish state reply.token) [state, state] := by
        have hself : (service.close state).constructions state =
            { service.constructions state with closed := true } := setConstruction_self
        refine (hkept.closesOne state).finishes ⟨hcreates.known, ?_, ?_, hcreates.below,
          hcreates.record⟩ hout hnew fun _ => ?_
        · rw [hself]
          exact hcreates.initializing
        · rw [hself]
          exact hcreates.token
        · rw [hself]
      rw [finish_close] at hclose
      refine hclose.weaken ?_
      intro other hmem
      simpa using hmem
    refine Kept.cancels (fun _ => ⟨rfl, rfl, rfl, rfl⟩) (fun _ => rfl) (fun _ => id) ?_
    split
    · next hfound =>
      obtain ⟨record, hfind⟩ := Option.isSome_iff_exists.1 hfound
      have hrecord := find_mem hfind
      have herased : Kept (((service.finish state reply.token).close state).erase handle)
          [state] := by
        refine hclosed.erases hfind ?_
        rintro - other hother ⟨hstill, -⟩
        have hsame := (hcreates.record record hrecord.1 hrecord.2).symm.trans hother
        rw [Option.some.injEq] at hsame
        dsimp only at hsame
        rw [← hsame, close, setConstruction_self] at hstill
        cases hstill
      exact herased
    · exact hclosed

end SchemaEntityService
end KeelS2.Entities.Schema
