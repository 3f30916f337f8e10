import KeelS2.Entities.Tokens

/-!
# What becomes of a token

`CancelConstruction` forgets its token before it asks the adapter, and what the adapter then does
not cancel is lost; and a `Shutdown` that comes while another goes on, or after it, is told that
all is done. Where neither happens no token is lost (`Accounted`).
-/

namespace KeelS2.Entities.Schema
namespace SchemaEntityService

open Lib (Custody Heeds Lawful run)

variable {service : SchemaEntityService}

/-! ## What is asked of a step -/

/-- The adapter makes a token that it has not made before. -/
def Fresh (service : SchemaEntityService) : Act → Prop
  | .reply reply =>
    match service.stack with
    | .create _ _ _ :: _ => .created reply.token ∉ service.history
    | _ => True
  | _ => True

/-- The adapter cancels what it is to cancel, or does not know of it; and the service is stopped
while nothing is being cancelled. -/
def Orderly (service : SchemaEntityService) : Act → Prop
  | .reply reply =>
    match service.stack with
    | frame :: _ => frame.cancelling.isSome → reply.result = .ok ∨ reply.result = .notFound
    | [] => True
  | .call (.shutdown true _) => service.stack.filterMap Frame.cancelling = []
  | _ => True

/-! ## Releases -/

theorem Kept.cancelsPending (pending : List Nat) (hkept : Kept service pending) :
    Kept (service.cancelPending pending) [] := by
  induction pending generalizing service with
  | nil => exact hkept
  | cons state pending ih =>
    unfold cancelPending
    dsimp only
    split
    · next hzero => exact ih (hkept.takesNothing hzero)
    · next hne =>
      refine Kept.takesToken ?_ hne rfl rfl rfl fun hstops => by cases hstops
      exact hkept.weaken fun other hmem => by simpa [Frame.closing] using hmem

theorem closing_nil {stack : List Frame} (hquiet : stack.filterMap Frame.cancelling = []) :
    stack.flatMap Frame.closing = [] := by
  rw [List.flatMap_eq_nil_iff]
  intro frame hmem
  have hnone := List.filterMap_eq_nil_iff.1 hquiet frame hmem
  cases frame <;> first | rfl | cases hnone

theorem Kept.isOver (hkept : Kept service []) (hdown : service.shuttingDown = true)
    (hquiet : service.stack.filterMap Frame.cancelling = []) (token : Nat)
    (hmade : .created token ∈ service.history) :
    .spawned token ∈ service.history ∨ .cancelled token ∈ service.history := by
  rcases hkept.sound.accounted token (mem_made.2 hmade) with ⟨state, hholds⟩ | hspent | hmem |
    hreturned
  · obtain ⟨hne, htoken⟩ := holds_iff.1 hholds
    have hzero : (service.constructions state).token ≠ 0 := htoken ▸ hne
    have hmem := hkept.closes state (hkept.stopped hdown state hzero) hzero
    rw [closing, closing_nil hquiet] at hmem
    cases hmem
  · exact Or.inl (mem_spent.1 hspent)
  · have hnone : service.custody.returning = [] := hquiet
    rw [hnone] at hmem
    cases hmem
  · exact Or.inr (mem_returned.1 hreturned)

theorem Kept.tells (hkept : Kept service []) {complete : Bool}
    (hover : complete = true → ∀ token, .created token ∈ service.history →
      .spawned token ∈ service.history ∨ .cancelled token ∈ service.history) :
    Kept (service.tell [.stopped complete]) [] :=
  { hkept with
    ended := ⟨hover, hkept.ended⟩
    creating := by
      intro pair hmem
      have hcreates := hkept.creating pair hmem
      exact hcreates.later rfl rfl hcreates.below fun _ hmem _ => hmem
    changing := by
      intro pair hmem
      exact (hkept.changing pair hmem).later rfl rfl fun _ => List.mem_append_right _ }

theorem Kept.shutdownsPending (pending : List Nat) (hkept : Kept service pending)
    (hdown : service.shuttingDown = true)
    (hquiet : service.stack.filterMap Frame.cancelling = []) (complete : Bool) :
    Kept (service.shutdownPending complete pending) [] := by
  induction pending generalizing service with
  | nil => exact hkept.tells fun _ => hkept.isOver hdown hquiet
  | cons state pending ih =>
    unfold shutdownPending
    dsimp only
    split
    · next hzero => exact ih (hkept.takesNothing hzero) hdown hquiet
    · next hne =>
      refine Kept.takesToken ?_ hne rfl rfl rfl fun _ => ⟨hquiet, hdown⟩
      exact hkept.weaken fun other hmem => by simpa [Frame.closing] using hmem

variable {state : Nat} {extra : List Nat} {frame : Frame} {record : EntityRecord}
  {events : List Event} {plugin : KeelPluginHandle}

theorem owned_iff : service.owned record = some state ↔
    record.constructionOwner = true ∧ record.construction = some state ∧
      service.unfinished state = true := by
  unfold owned
  split
  · next howner => simp [howner, Option.filter_eq_some_iff]
  · next howner => simp [howner]

/-- Whoever owns nothing that is unfinished is not awaited. -/
theorem not_awaits (hnone : service.owned record = none)
    (hconstructs : record.constructionOwner = true) (state : Nat)
    (hstate : record.construction = some state) : ¬service.Awaits state := by
  rintro ⟨-, hunfinished⟩
  have hsome := owned_iff.2 ⟨hconstructs, hstate, hunfinished⟩
  rw [hnone] at hsome
  cases hsome

theorem Kept.releasesEntity (hkept : Kept service []) (plugin : KeelPluginHandle) (handle : Nat)
    (gameThread held : Bool) : Kept (service.releaseEntity plugin handle gameThread held) [] := by
  unfold releaseEntity
  split
  · exact hkept
  next record hfind =>
  split
  · exact hkept
  split
  · next hnone => exact hkept.erases hfind (not_awaits hnone)
  next state howned =>
  split
  · exact hkept
  · refine Kept.cancels (fun _ => ⟨rfl, rfl, rfl, rfl⟩) (fun _ => rfl) (fun _ => id) ?_
    refine (hkept.closesOne state).erases hfind ?_
    rintro - other hother ⟨hopen, -⟩
    have hsame := hother.symm.trans (owned_iff.1 howned).2.1
    rw [Option.some.injEq] at hsame
    rw [hsame, close, setConstruction_self] at hopen
    cases hopen

/-! ### What is closed at once -/

theorem closeAll_eq (pending : List Nat) : service.closeAll pending =
    { service with constructions := (service.closeAll pending).constructions } := by
  induction pending generalizing service with
  | nil => rfl
  | cons state pending ih => exact ih

theorem closeAll_unfinished (pending : List Nat) (state : Nat) :
    (service.closeAll pending).unfinished state = service.unfinished state := by
  induction pending generalizing service with
  | nil => rfl
  | cons other pending ih =>
    refine ih.trans ?_
    unfold unfinished close
    by_cases heq : state = other
    · rw [heq, setConstruction_self]
    · rw [setConstruction_of_ne heq]

theorem closeAll_stays (pending : List Nat) (hclosed : (service.constructions state).closed = true) :
    ((service.closeAll pending).constructions state).closed = true := by
  induction pending generalizing service with
  | nil => exact hclosed
  | cons other pending ih =>
    refine ih ?_
    unfold close
    by_cases heq : state = other
    · rw [heq, setConstruction_self]
    · rwa [setConstruction_of_ne heq]

theorem closeAll_closed {pending : List Nat} (hmem : state ∈ pending) :
    ((service.closeAll pending).constructions state).closed = true := by
  induction pending generalizing service with
  | nil => cases hmem
  | cons other pending ih =>
    rcases List.mem_cons.1 hmem with rfl | hmem
    · have hclosed : ((service.close state).constructions state).closed = true := by
        rw [close, setConstruction_self]
      exact closeAll_stays pending hclosed
    · exact ih hmem

theorem closeAll_awaits {pending : List Nat}
    (hlisted : ∀ state, service.owned record = some state → state ∈ pending)
    (hconstructs : record.constructionOwner = true) (state : Nat)
    (hstate : record.construction = some state) : ¬(service.closeAll pending).Awaits state := by
  rintro ⟨hopen, hunfinished⟩
  rw [closeAll_unfinished] at hunfinished
  have hmem := hlisted state (owned_iff.2 ⟨hconstructs, hstate, hunfinished⟩)
  rw [closeAll_closed hmem] at hopen
  cases hopen

theorem Kept.fieldsOnly (hkept : Kept service extra) (fields : List FieldRecord) (nextField : Nat)
    (fieldCache : List (Text × GameSchemaField)) :
    Kept { service with
      fields := fields
      nextField := nextField
      fieldCache := fieldCache } extra :=
  { hkept with
    creating := by
      intro pair hmem
      have hcreates := hkept.creating pair hmem
      exact hcreates.later rfl rfl hcreates.below fun _ hmem _ => hmem
    changing := by
      intro pair hmem
      exact (hkept.changing pair hmem).later rfl rfl fun _ => id }

theorem Kept.releasesPlugin (hkept : Kept service []) (plugin : KeelPluginHandle)
    (gameThread held : Bool) : Kept (service.releasePlugin plugin gameThread held) [] := by
  unfold releasePlugin
  split
  · exact hkept
  dsimp only
  split
  · exact hkept
  refine Kept.cancelsPending _ ?_
  generalize hpending : (service.entities.filter (·.owner == plugin)).filterMap service.owned =
    pending
  have hentities : (service.closeAll pending).entities = service.entities := by
    rw [closeAll_eq]
  have hclosed : Kept (service.closeAll pending) pending := by
    have hclosed := hkept.closesAll pending
    rwa [List.append_nil] at hclosed
  have hremoved := hclosed.removes (fun record => decide (record.owner ≠ plugin)) (by
    intro record hmem hgone
    rw [hentities] at hmem
    refine closeAll_awaits fun state howned => ?_
    rw [← hpending, List.mem_filterMap]
    refine ⟨record, List.mem_filter.2 ⟨hmem, ?_⟩, howned⟩
    simpa using hgone)
  have hplain : ∀ event ∈ [Event.releasedAll plugin], event.Plain := by
    intro event hmem
    rw [List.mem_singleton.1 hmem]
    exact ⟨rfl, fun _ => trivial⟩
  exact (hremoved.fieldsOnly _ _ _).tell hplain

theorem closeAll_down (pending : List Nat) :
    { service with shuttingDown := true }.closeAll pending =
    { service.closeAll pending with shuttingDown := true } := by
  induction pending generalizing service with
  | nil => rfl
  | cons state pending ih => exact @ih (service.close state)

theorem Kept.stops (hkept : Kept service extra) (hnone : service.entities = []) :
    Kept { service with shuttingDown := true } extra :=
  { hkept with
    creating := by
      intro pair hmem
      have hcreates := hkept.creating pair hmem
      exact hcreates.later rfl rfl hcreates.below fun _ hmem _ => hmem
    changing := by
      intro pair hmem
      exact (hkept.changing pair hmem).later rfl rfl fun _ => id
    under := by
      intro frame below hsuffix hstops
      exact ⟨(hkept.under frame below hsuffix hstops).1, rfl⟩
    stopped := by
      intro _ state htoken
      by_contra hopen
      obtain ⟨record, hmem, -⟩ := hkept.owned state (Bool.eq_false_of_not_eq_true hopen)
        (unfinished_iff.2 (Or.inr htoken))
      rw [hnone] at hmem
      cases hmem }

theorem Kept.shutdown (hkept : Kept service []) (outputsStopped gameThread held : Bool)
    (horderly : outputsStopped = true → service.stack.filterMap Frame.cancelling = []) :
    Kept (service.shutdown outputsStopped gameThread held) [] := by
  unfold SchemaEntityService.shutdown
  split
  · exact hkept.tells fun hcomplete => by cases hcomplete
  next hstopped =>
  have hquiet := horderly (by simpa using hstopped)
  split
  · next hdown => exact hkept.tells fun _ => hkept.isOver hdown hquiet
  dsimp only
  split
  · exact hkept.tells fun hcomplete => by cases hcomplete
  generalize hpending : service.entities.filterMap service.owned = pending
  rw [closeAll_down]
  have hentities : (service.closeAll pending).entities = service.entities := by
    rw [closeAll_eq]
  have hstack : (service.closeAll pending).stack = service.stack := by
    rw [closeAll_eq]
  have hclosed : Kept (service.closeAll pending) pending := by
    have hclosed := hkept.closesAll pending
    rwa [List.append_nil] at hclosed
  have hremoved := hclosed.removes (fun _ => false) (by
    intro record hmem _
    rw [hentities] at hmem
    refine closeAll_awaits fun state howned => ?_
    rw [← hpending, List.mem_filterMap]
    exact ⟨record, hmem, howned⟩)
  rw [List.filter_false] at hremoved
  have hplain : ∀ event ∈ [Event.cleared], event.Plain := by
    intro event hmem
    rw [List.mem_singleton.1 hmem]
    exact ⟨rfl, fun _ => trivial⟩
  have hcleared := ((hremoved.stops rfl).fieldsOnly [] service.nextField []).tell hplain
  have hnext : (service.closeAll pending).nextField = service.nextField := by
    rw [closeAll_eq]
  rw [← hnext] at hcleared
  exact hcleared.shutdownsPending pending rfl (hstack ▸ hquiet) true

/-! ## The other calls -/

theorem Kept.tellsPushes (hkept : Kept service extra) (hframe : frame.Plain)
    (hplain : ∀ event ∈ events, event.Plain) : Kept (service.push frame events) extra :=
  (hkept.pushes hframe).tell hplain

theorem Kept.usesPushes (hkept : Kept service extra) (state : Nat) (hframe : frame.Plain)
    (hplain : ∀ event ∈ events, event.Plain) :
    Kept (service.push frame (events ++ [.used (service.constructions state).token])) extra := by
  have hused := ((hkept.uses state).pushes hframe).tell hplain
  unfold SchemaEntityService.tell setStack at hused
  unfold push SchemaEntityService.tell setStack
  simpa using hused

theorem no_events : ∀ event ∈ ([] : List Event), event.Plain := by
  intro event hmem
  cases hmem

theorem Kept.prunes (hkept : Kept service []) (plugin : KeelPluginHandle) (pending : List Nat) :
    Kept (service.prune plugin pending) [] := by
  cases pending with
  | nil => exact hkept.beginsCreate plugin
  | cons state pending =>
    have hused := hkept.usesPushes state
      (show (Frame.pruneDescribe plugin state pending).Plain from ⟨rfl, rfl, rfl, rfl, rfl⟩)
      no_events
    exact hused

theorem Kept.issues (hkept : Kept service []) (plugin : KeelPluginHandle)
    (identity : GameEntityIdentity) : Kept (service.issue plugin identity) [] := by
  unfold issue
  split
  · exact hkept
  next hnext =>
  refine hkept.allots ?_ plugin identity none
  intro hzero
  exact hnext (by simp [hzero])

theorem Kept.issuesField (hkept : Kept service []) (plugin : KeelPluginHandle)
    (spec : KeelSchemaFieldSpec) (field : GameSchemaField) :
    Kept (service.issueField plugin spec field) [] := by
  unfold issueField
  split
  · exact hkept
  · have hplain : ∀ event ∈ [Event.fieldIssued plugin service.nextField spec field],
        event.Plain := by
      intro event hmem
      rw [List.mem_singleton.1 hmem]
      exact ⟨rfl, fun _ => trivial⟩
    exact (hkept.fieldsOnly (⟨service.nextField, plugin, field⟩ :: service.fields)
      ((service.nextField + 1) % 2 ^ 64) service.fieldCache).tell hplain

theorem Kept.resolvesField (hkept : Kept service []) (plugin : KeelPluginHandle)
    (spec : KeelSchemaFieldSpec) (reply : Reply) :
    Kept (service.fieldResolved plugin spec reply) [] := by
  have hplain : ∀ event ∈ [Event.resolved spec reply.field], event.Plain := by
    intro event hmem
    rw [List.mem_singleton.1 hmem]
    exact ⟨rfl, fun _ => trivial⟩
  unfold fieldResolved
  split
  · exact hkept
  split
  · exact (hkept.tell hplain).issuesField plugin spec _
  · exact ((hkept.fieldsOnly service.fields service.nextField
      ((fieldCacheKey service.compatibilityProfile spec, reply.field) ::
        service.fieldCache)).tell hplain).issuesField plugin spec _

theorem called_plain {call : EntityCall} :
    (∀ event ∈ call.map fun entry => Event.called plugin entry.1 entry.2, event.Plain) ∧
      ∀ event ∈ call.map fun entry => Event.again plugin entry.1 entry.2, event.Plain := by
  constructor <;>
  · intro event hmem
    obtain ⟨entry, -, rfl⟩ := List.mem_map.1 hmem
    exact ⟨rfl, fun _ => trivial⟩

theorem called_one {handle : Nat} {identity : GameEntityIdentity} :
    ∀ event ∈ [Event.called plugin handle identity], event.Plain := by
  intro event hmem
  rw [List.mem_singleton.1 hmem]
  exact ⟨rfl, fun _ => trivial⟩

theorem Kept.pushesChange (hkept : Kept service []) {token : Nat}
    (hchanges : service.Changes (state, token)) (spawns : Bool) :
    Kept (service.setStack (.changeConstruction state token spawns :: service.stack)) [] :=
  { hkept with
    creating := by
      intro pair hmem
      have hcreates := hkept.creating pair hmem
      exact hcreates.later rfl rfl hcreates.below fun _ hmem _ => hmem
    changing := by
      intro pair hmem
      rcases List.mem_cons.1 hmem with rfl | hmem
      · exact hchanges.later rfl rfl fun _ => id
      · exact (hkept.changing pair hmem).later rfl rfl fun _ => id
    under := by
      intro frame below hsuffix hstops
      rcases List.suffix_cons_iff.1 hsuffix with heq | hsuffix
      · cases heq
        cases hstops
      · exact hkept.under frame below hsuffix hstops }

theorem Kept.beginsChange (hkept : Kept service [])
    (hmade : (service.constructions state).initializing = false)
    (hne : (service.constructions state).token ≠ 0) (spawns : Bool)
    (hplain : ∀ event ∈ events, event.Plain) :
    Kept ((service.setConstruction state { service.constructions state with busy := true }).push
      (.changeConstruction state (service.constructions state).token spawns)
        (events ++ [.used (service.constructions state).token])) [] := by
  generalize hbusy : service.setConstruction state
    { service.constructions state with busy := true } = busy
  have hstate : busy.constructions state = { service.constructions state with busy := true } := by
    rw [← hbusy, setConstruction_self]
  have htoken : (busy.constructions state).token = (service.constructions state).token := by
    rw [hstate]
  have hkept : Kept busy [] := hbusy ▸ hkept.setsBusy state true
  have hchanges : busy.Changes (state, (service.constructions state).token) := by
    refine ⟨hne, ?_, ?_, Or.inl htoken⟩
    · by_contra hlater
      exact hne (htoken ▸ hkept.fresh state (Nat.le_of_not_lt hlater))
    · rw [hstate]
      exact hmade
  have hused := hkept.uses state
  rw [htoken] at hused
  have htold := (hused.pushesChange (hchanges.later rfl rfl fun _ => List.mem_append_right _)
    spawns).tell hplain
  unfold SchemaEntityService.tell setStack at htold
  unfold push SchemaEntityService.tell setStack
  simpa using htold

theorem Kept.usesConstruction (hkept : Kept service []) (plugin : KeelPluginHandle) (entity : Nat)
    (hframe : frame.Plain) :
    Kept (match service.constructionOf plugin entity with
      | none => service
      | some (record, state) =>
        if (service.constructions state).initializing || (service.constructions state).token = 0
        then service
        else service.push frame
          [.called plugin entity record.entity, .used (service.constructions state).token]) [] := by
  split
  · exact hkept
  next record state hfound =>
  split
  · exact hkept
  · have hused := hkept.usesPushes state hframe
      (show ∀ event ∈ [Event.called plugin entity record.entity], event.Plain from called_one)
    exact hused

theorem Kept.calls (hkept : Kept service []) (op : Op)
    (horderly : service.Orderly (.call op)) : Kept (service.call op) [] := by
  cases op with
  | constructionReady gate =>
    simp only [SchemaEntityService.call]
    split
    · exact hkept.tellsPushes ⟨rfl, rfl, rfl, rfl, rfl⟩ no_events
    · exact hkept
  | createEntity plugin name gate =>
    simp only [SchemaEntityService.call]
    split
    · exact hkept.tellsPushes ⟨rfl, rfl, rfl, rfl, rfl⟩ no_events
    · exact hkept
  | describeConstruction plugin entity gate =>
    simp only [SchemaEntityService.call]
    split
    · exact hkept
    · exact hkept.usesConstruction plugin entity ⟨rfl, rfl, rfl, rfl, rfl⟩
  | changeConstruction plugin entity wellFormed spawns gate =>
    simp only [SchemaEntityService.call]
    split
    · exact hkept
    split
    · exact hkept
    next record state hfound =>
    split
    · exact hkept
    next hready =>
    simp only [Bool.not_eq_true, Bool.or_eq_false_iff, decide_eq_false_iff_not] at hready
    exact hkept.beginsChange hready.1.1.2 hready.2 spawns
      (show ∀ event ∈ [Event.called plugin entity record.entity], event.Plain from called_one)
  | observeConstruction plugin source original gate =>
    simp only [SchemaEntityService.call]
    split
    · exact hkept
    split
    · exact hkept
    next record hfound =>
    split
    · exact hkept
    next state hstate =>
    split
    · exact hkept
    · exact hkept.usesPushes state (show (Frame.observeConstruction plugin record state
        (service.constructions state).token).Plain from ⟨rfl, rfl, rfl, rfl, rfl⟩) no_events
  | visitConstruction plugin entity gate =>
    simp only [SchemaEntityService.call]
    split
    · exact hkept
    · exact hkept.usesConstruction plugin entity ⟨rfl, rfl, rfl, rfl, rfl⟩
  | releaseEntity plugin entity held => exact hkept.releasesEntity plugin entity true held
  | releasePlugin plugin held => exact hkept.releasesPlugin plugin true held
  | shutdown outputsStopped held =>
    refine hkept.shutdown outputsStopped true held ?_
    rintro rfl
    exact horderly
  | findEntity plugin gate =>
    simp only [SchemaEntityService.call]
    split
    · exact hkept.tellsPushes ⟨rfl, rfl, rfl, rfl, rfl⟩ no_events
    · exact hkept
  | captureEntity plugin gate =>
    simp only [SchemaEntityService.call]
    split
    · exact hkept.tellsPushes ⟨rfl, rfl, rfl, rfl, rfl⟩ no_events
    · exact hkept
  | resolveField plugin spec gate =>
    simp only [SchemaEntityService.call, SchemaEntityService.resolveField]
    split
    · exact hkept
    split
    · exact hkept.issuesField plugin spec _
    · exact hkept.tellsPushes ⟨rfl, rfl, rfl, rfl, rfl⟩ no_events
  | releaseField plugin field => exact hkept.fieldsOnly _ _ _
  | useEntities plugin use gate =>
    simp only [SchemaEntityService.call, SchemaEntityService.useEntities]
    split
    · exact hkept
    split
    · next call calls hfound =>
      split
      · exact hkept
      · exact hkept.tellsPushes ⟨rfl, rfl, rfl, rfl, rfl⟩ called_plain.1
    · exact hkept

/-! ## The adapter's answers -/

theorem Kept.popped (hkept : Kept service []) {handle : Nat} {rest : List Frame}
    (hstack : service.stack = .create plugin handle state :: rest) :
    Kept (service.setStack rest) [] ∧ (service.setStack rest).Creates (handle, state) ∧
      state ∉ (rest.filterMap Frame.creating).map Prod.snd := by
  refine ⟨hkept.pops hstack rfl rfl, ?_, ?_⟩
  · have hcreates := hkept.creating (handle, state) (by
      rw [hstack]
      exact List.mem_cons_self)
    exact hcreates.later rfl rfl hcreates.below fun _ hmem _ => hmem
  · have hcreated := hkept.created
    rw [hstack] at hcreated
    exact (List.nodup_cons.1 hcreated).1

theorem Kept.returns (hkept : Kept service []) {rest : List Frame}
    (hstack : service.stack = frame :: rest) (reply : Reply) (hfresh : service.Fresh (.reply reply))
    (horderly : service.Orderly (.reply reply)) :
    Kept ((service.setStack rest).returned reply frame) [] := by
  simp only [Fresh, Orderly, hstack] at hfresh horderly
  cases frame with
  | ready => exact hkept.pops hstack rfl rfl
  | readyToCreate plugin =>
    have hpopped := hkept.pops hstack rfl rfl
    simp only [returned]
    split
    · exact hpopped
    · exact hpopped.prunes plugin _
  | pruneDescribe plugin state pending =>
    have hpopped := hkept.pops hstack rfl rfl
    simp only [returned]
    split
    · refine Kept.cancels (fun _ => ⟨rfl, rfl, rfl, rfl⟩) (fun _ => rfl)
        (fun _ hafter => hafter.prunes plugin pending) ?_
      exact hpopped.weaken fun other hmem => List.mem_cons_of_mem _ hmem
    · exact hpopped.prunes plugin pending
  | pruneCancel plugin token pending =>
    have hdone := hkept.concludes hstack rfl (horderly rfl)
    exact hdone.prunes plugin pending
  | create plugin handle state =>
    obtain ⟨hpopped, hcreates, hout⟩ := hkept.popped hstack
    exact hpopped.returnsCreate hcreates hout hfresh
  | rejectCancel token => exact hkept.concludes hstack rfl (horderly rfl)
  | describeConstruction => exact hkept.pops hstack rfl rfl
  | changeConstruction state token spawns =>
    have hchanges := hkept.changing (state, token) (by
      rw [hstack]
      exact List.mem_cons_self)
    exact (hkept.pops hstack rfl rfl).returnsChange (hchanges.later rfl rfl fun _ => id) spawns
      reply
  | observeConstruction plugin original state token =>
    have hpopped := hkept.pops hstack rfl rfl
    simp only [returned, observed]
    split
    · exact hpopped
    split
    · exact hpopped
    split
    · exact hpopped
    next hroom =>
      exact hpopped.allots (fun hzero => hroom (Or.inr hzero)) plugin reply.identity (some state)
  | visitConstruction => exact hkept.pops hstack rfl rfl
  | releaseCancel token => exact hkept.concludes hstack rfl (horderly rfl)
  | pluginCancel token pending =>
    have hdone := hkept.concludes hstack rfl (horderly rfl)
    rw [List.append_nil] at hdone
    exact hdone.cancelsPending pending
  | shutdownCancel token pending complete =>
    have hdone := hkept.concludes hstack rfl (horderly rfl)
    rw [List.append_nil] at hdone
    have hsuffix : Frame.shutdownCancel token pending complete :: rest <:+ service.stack :=
      ⟨[], hstack.symm⟩
    obtain ⟨hquiet, hdown⟩ := hkept.under _ rest hsuffix rfl
    exact hdone.shutdownsPending pending hdown hquiet _
  | findEntity plugin =>
    have hpopped := hkept.pops hstack rfl rfl
    simp only [returned]
    split
    · exact hpopped.issues plugin _
    · exact hpopped
  | captureEntity plugin =>
    have hpopped := hkept.pops hstack rfl rfl
    simp only [returned]
    split
    · exact hpopped.tellsPushes ⟨rfl, rfl, rfl, rfl, rfl⟩ no_events
    · exact hpopped
  | validateCaptured plugin identity =>
    have hpopped := hkept.pops hstack rfl rfl
    simp only [returned]
    split
    · exact hpopped.issues plugin _
    · exact hpopped
  | resolveField plugin spec => exact (hkept.pops hstack rfl rfl).resolvesField plugin spec reply
  | useEntities plugin calls =>
    have hpopped := hkept.pops hstack rfl rfl
    simp only [returned, usedEntities]
    split
    · exact hpopped
    split
    · exact hpopped
    · exact hpopped.tellsPushes ⟨rfl, rfl, rfl, rfl, rfl⟩ called_plain.2

theorem step_kept (hkept : Kept service []) {act : Act} (hfresh : service.Fresh act)
    (horderly : service.Orderly act) : Kept (service.step act) [] := by
  cases act with
  | call op => exact hkept.calls op horderly
  | reply reply =>
    simp only [step]
    split
    · exact hkept
    · next frame rest hstack => exact hkept.returns hstack reply hfresh horderly
  | releaseEntity plugin entity => exact hkept.releasesEntity plugin entity false false
  | releaseField plugin field => exact hkept.fieldsOnly _ _ _
  | releasePlugin plugin held =>
    simp only [step]
    split
    · exact hkept.releasesPlugin plugin false held
    · exact hkept
  | shutdown outputsStopped held =>
    simp only [step]
    split
    · next hempty =>
      refine hkept.shutdown outputsStopped false held fun _ => ?_
      rw [List.isEmpty_iff.1 hempty]
      rfl
    · exact hkept

/-! ## What it comes to -/

/-- The token is being cancelled, or its construction is one of those that are next. -/
def BeingCancelled (service : SchemaEntityService) (token : Nat) : Prop :=
  token ∈ service.stack.filterMap Frame.cancelling ∨
    ∃ state ∈ service.closing, (service.constructions state).token = token

/-- One open construction has the token, and no other has. -/
def Held (service : SchemaEntityService) (token : Nat) : Prop :=
  ∃ state, (service.constructions state).token = token ∧
    (service.constructions state).closed = false ∧
      ∀ other, (service.constructions other).token = token → other = state

/-- What must have come before an event, and what must not. -/
def law : Event → List Event → Prop
  | .used token, earlier => token ≠ 0 →
    .created token ∈ earlier ∧ .spawned token ∉ earlier ∧ .cancelling token ∉ earlier
  | .cancelling token, earlier =>
    .created token ∈ earlier ∧ .spawned token ∉ earlier ∧ .cancelling token ∉ earlier
  | .cancelled token, earlier => .cancelling token ∈ earlier ∧ .cancelled token ∉ earlier
  | .stopped complete, earlier => complete = true → ∀ token, .created token ∈ earlier →
    .spawned token ∈ earlier ∨ .cancelled token ∈ earlier
  | _, _ => True

structure Disciplined (service : SchemaEntityService) : Prop where
  /-- No token is lost. -/
  accounted : ∀ token, .created token ∈ service.history → service.Held token ∨
    .spawned token ∈ service.history ∨ .cancelled token ∈ service.history ∨
      service.BeingCancelled token
  /-- When no call is under way, each has come to an end, or has its construction. -/
  idle : service.stack = [] → ∀ token, .created token ∈ service.history → service.Held token ∨
    .spawned token ∈ service.history ∨ .cancelled token ∈ service.history
  /-- What has a token has neither been spawned nor cancelled. -/
  held : ∀ state, (service.constructions state).token ≠ 0 →
    .spawned (service.constructions state).token ∉ service.history ∧
      .cancelling (service.constructions state).token ∉ service.history
  lawful : Lawful law service.history
  bounded : ∀ plugin, service.entities.countP (service.isPending plugin) ≤ constructionMaxPending

theorem lawful_of_custody {history : List Event}
    (hcustody : Lawful Lib.Custodial.law (history.filterMap Event.custodial))
    (hended : Lawful Event.ends history) : Lawful law history := by
  induction history with
  | nil => trivial
  | cons event earlier ih =>
    cases hevent : event.custodial with
    | none =>
      rw [List.filterMap_cons_none hevent] at hcustody
      refine ⟨?_, ih hcustody hended.2⟩
      cases event with
      | used token =>
        intro hne
        simp only [Event.custodial, if_neg hne] at hevent
        cases hevent
      | stopped complete => exact hended.1
      | cancelling token => cases hevent
      | cancelled token => cases hevent
      | _ => trivial
    | some entry =>
      rw [List.filterMap_cons_some hevent] at hcustody
      refine ⟨?_, ih hcustody.2 hended.2⟩
      have hlaw := hcustody.1
      cases event with
      | used token =>
        intro hne
        rw [Event.custodial, if_neg hne] at hevent
        cases hevent
        simpa only [Lib.Custodial.law, mem_made, mem_spent, mem_returning] using hlaw
      | cancelling token =>
        cases hevent
        simp only [Lib.Custodial.law, mem_made, mem_spent, mem_returning] at hlaw
        exact hlaw
      | cancelled token =>
        cases hevent
        simp only [Lib.Custodial.law, mem_returned, mem_returning] at hlaw
        exact hlaw
      | stopped complete => exact hended.1
      | _ => trivial

theorem Kept.accounts (hkept : Kept service []) (token : Nat)
    (hmade : .created token ∈ service.history) : service.Held token ∨
      .spawned token ∈ service.history ∨ .cancelled token ∈ service.history ∨
        service.BeingCancelled token := by
  rcases hkept.sound.accounted token (mem_made.2 hmade) with ⟨state, hholds⟩ | hspent | hmem |
    hreturned
  · obtain ⟨hne, htoken⟩ := holds_iff.1 hholds
    cases hclosed : (service.constructions state).closed with
    | false =>
      refine Or.inl ⟨state, htoken, hclosed, ?_⟩
      intro other hother
      exact hkept.sound.exclusive other state token (holds_iff.2 ⟨hne, hother⟩) hholds
    | true =>
      have hmem := hkept.closes state hclosed (htoken ▸ hne)
      exact Or.inr (Or.inr (Or.inr (Or.inr ⟨state, hmem, htoken⟩)))
  · exact Or.inr (Or.inl (mem_spent.1 hspent))
  · exact Or.inr (Or.inr (Or.inr (Or.inl hmem)))
  · exact Or.inr (Or.inr (Or.inl (mem_returned.1 hreturned)))

theorem Kept.disciplined (hkept : Kept service []) : service.Disciplined where
  accounted := hkept.accounts
  idle := by
    intro hidle token hmade
    rcases hkept.accounts token hmade with hheld | hspawned | hcancelled | hbeing | hbeing
    · exact Or.inl hheld
    · exact Or.inr (Or.inl hspawned)
    · exact Or.inr (Or.inr hcancelled)
    · rw [hidle] at hbeing
      cases hbeing
    · obtain ⟨state, hmem, -⟩ := hbeing
      rw [closing, hidle] at hmem
      cases hmem
  held := by
    intro state hne
    have hheld := (hkept.sound.held state _ (holds_iff.2 ⟨hne, rfl⟩)).2
    exact ⟨fun hmem => hheld.1 (mem_spent.2 hmem), fun hmem => hheld.2 (mem_returning.2 hmem)⟩
  lawful := lawful_of_custody hkept.sound.lawful hkept.ended
  bounded := hkept.bounded

/-- No token is lost or used when it is gone, and no `Shutdown` says that it is when it is not. -/
theorem tokens_disciplined (profile : Text) (acts : List Act)
    (hfresh : Heeds step Fresh (initial profile) acts)
    (horderly : Heeds step Orderly (initial profile) acts) :
    (run step (initial profile) acts).Disciplined := by
  have hstep : ∀ (service : SchemaEntityService) (act : Act), Kept service [] →
      service.Fresh act ∧ service.Orderly act → Kept (service.step act) [] := by
    intro service act hkept hact
    exact step_kept hkept hact.1 hact.2
  exact ((hfresh.and horderly).invariant hstep (initial_kept profile)).disciplined

/-! ## Runs of it -/

def opened : Gate := ⟨true, false, true⟩

/-- What the adapter answers, with this token. -/
def answer (result : KeelResult) (token : Nat) (dispatched : Nat) : Act :=
  .reply ⟨result, token, ⟨3, 1, 9⟩, dispatched, ⟨1, 1, 4, 0, [], []⟩, opened⟩

/-- A plugin creates an entity, and the adapter makes this token. -/
def creates (token : Nat) : List Act :=
  [.call (.createEntity 7 (some ['n', 'p', 'c']) opened), answer .ok 0 0, answer .ok token 0]

/-- It spawns one, and releases another. -/
def spawnsAndReleases : List Act :=
  creates 5 ++ [.call (.changeConstruction 7 1 true true opened), answer .ok 0 1] ++ creates 6 ++
    [.call (.releaseEntity 7 2 false), answer .ok 0 0, .call (.shutdown true false)]

theorem released_disciplined : (run step (initial []) spawnsAndReleases).Disciplined := by
  refine tokens_disciplined [] spawnsAndReleases ?_ ?_
  · simp only [spawnsAndReleases, creates, List.cons_append, List.nil_append, Lib.heeds_cons]
    refine ⟨trivial, trivial, fun hmem => ?_, trivial, trivial, trivial, trivial, fun hmem => ?_,
      trivial, trivial, trivial, trivial⟩
    · revert hmem
      decide
    · revert hmem
      decide
  · simp only [spawnsAndReleases, creates, List.cons_append, List.nil_append, Lib.heeds_cons]
    refine ⟨trivial, fun hsome => ?_, fun hsome => ?_, trivial, fun hsome => ?_, trivial,
      fun hsome => ?_, fun hsome => ?_, trivial, fun _ => Or.inl rfl, rfl, trivial⟩
    all_goals cases hsome

/-- The adapter fails to cancel what is released, and its token is lost. -/
theorem failed_cancel_undisciplined :
    ¬ ∀ (profile : Text) (acts : List Act), Heeds step Fresh (initial profile) acts →
      (run step (initial profile) acts).Disciplined := by
  intro hall
  have hdisciplined := hall [] (creates 5 ++ [.call (.releaseEntity 7 1 false),
    answer .engineFailure 0 0]) ?_
  · rcases hdisciplined.idle rfl 5 (by decide) with ⟨state, htoken, -⟩ | hspawned | hcancelled
    · cases state with
      | zero => cases htoken
      | succ state => cases htoken
    · revert hspawned
      decide
    · revert hcancelled
      decide
  · simp only [creates, List.cons_append, List.nil_append, Lib.heeds_cons]
    refine ⟨trivial, trivial, fun hmem => ?_, trivial, trivial, trivial⟩
    revert hmem
    decide

end SchemaEntityService
end KeelS2.Entities.Schema
