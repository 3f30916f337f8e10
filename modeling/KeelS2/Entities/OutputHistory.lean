import KeelS2.Entities.EntityOutputs
import KeelS2.Lib.Histories
import KeelS2.Lib.Runs

/-!
# What the output service has done

The history of the service is held against a law: who is found at a PRE, in which order, that a POST
has them the other way round, and that a callback has its turn enabled just when its subscription
has not been disabled before (`law`). `Booked` ties the service's tables to the history.
-/

namespace KeelS2.Entities

open Lib (Lawful)

namespace Entry

/-- The dispatch that an entry belongs to. -/
def call? : Entry → Option Nat
  | entered call .. | turn call .. | answered call .. | returned call _ => some call
  | _ => none

/-- An action for which a subscription is disabled. -/
def refuses (event : OutputEvent) (action : Option Nat) : Bool :=
  action ≠ some outputContinue && !(action = some outputBlock && event.phase = outputPre)

end Entry

/-- Whom the POST of a token asks, and those that were found at its PRE: the first that came since
no more was said of the token. -/
def frozen (token : Nat) : List Entry → Option (List OutputRecord)
  | [] => none
  | .dropped other :: earlier => if other = token then none else frozen token earlier
  | .entered _ event other callbacks :: earlier =>
    if other = token ∧ event.phase = outputPre then some ((frozen token earlier).getD callbacks)
    else frozen token earlier
  | _ :: earlier => frozen token earlier

/-- The subscription was made, and not disabled since. -/
def Standing (earlier : List Entry) (record : OutputRecord) : Prop :=
  .subscribed record ∈ earlier ∧ .disabled record.handle ∉ earlier

/-- What an entry has to do with what came before it. -/
def law : Entry → List Entry → Prop
  | .entered _ event token callbacks, earlier =>
    (event.phase = outputPre ∧ callbacks.Pairwise OutputRecord.Before ∧
      ∀ record, record ∈ callbacks ↔ Standing earlier record ∧ record.matchesEvent event = true) ∨
    event.phase = outputPost ∧ frozen token earlier = some callbacks.reverse
  | .turn _ _ record enabled _, earlier => enabled = true ↔ .disabled record.handle ∉ earlier
  | .answered _ event record action, earlier =>
    Entry.refuses event action = true → .disabled record.handle ∈ earlier
  | _, _ => True

namespace Outputs

variable {service after : Outputs} {log entries : List Entry} {entry : Entry}
variable {record other : OutputRecord} {event : OutputEvent} {token : Nat}
variable {handles : List KeelEntityOutputHandle}

/-- The handle has been given out. -/
def Issued (service : Outputs) (handle : Nat) : Prop :=
  handle ≠ 0 ∧ handle < 2 ^ 64 ∧ (service.nextOutput = 0 ∨ handle < service.nextOutput)

/-- The tables are what the history says. -/
structure Booked (service : Outputs) : Prop where
  bound : service.nextOutput < 2 ^ 64
  issued : ∀ record, .subscribed record ∈ service.log → service.Issued record.handle
  gone : ∀ handle, .disabled handle ∈ service.log → service.Issued handle
  nodup : service.outputs.Nodup
  once : ∀ record other, .subscribed record ∈ service.log → .subscribed other ∈ service.log →
    record.handle = other.handle → record = other
  listed : ∀ record, record ∈ service.outputs ↔ Standing service.log record
  enabled : ∀ handle, service.enabled handle = true ↔
    ∃ record ∈ service.outputs, record.handle = handle
  known : ∀ call event token callbacks, .entered call event token callbacks ∈ service.log →
    ∀ record ∈ callbacks, .subscribed record ∈ service.log
  kept : ∀ token, service.invocation token = frozen token service.log
  lawful : Lawful law service.log

theorem mem_of_frozen {callbacks : List OutputRecord}
    (hfrozen : frozen token log = some callbacks) :
    ∃ call event, .entered call event token callbacks ∈ log := by
  induction log generalizing callbacks with
  | nil => cases hfrozen
  | cons first earlier ih =>
    have hearlier : ∀ {callbacks : List OutputRecord}, frozen token earlier = some callbacks →
        ∃ call event, .entered call event token callbacks ∈ first :: earlier := by
      intro callbacks hfrozen
      obtain ⟨call, event, hmem⟩ := ih hfrozen
      exact ⟨call, event, List.mem_cons_of_mem _ hmem⟩
    cases first with
    | dropped other =>
      simp only [frozen] at hfrozen
      split at hfrozen
      · cases hfrozen
      · exact hearlier hfrozen
    | entered call event other found =>
      simp only [frozen] at hfrozen
      split at hfrozen
      · next hmine =>
        cases hbefore : frozen token earlier with
        | none =>
          rw [hbefore] at hfrozen
          cases hfrozen
          rw [hmine.1]
          exact ⟨call, event, List.mem_cons_self⟩
        | some kept =>
          rw [hbefore] at hfrozen
          cases hfrozen
          exact hearlier hbefore
      · exact hearlier hfrozen
    | _ => exact hearlier hfrozen

/-! ## Nothing of the tables is written -/

/-- Entries that are nothing to the tables. -/
def plain : Entry → Bool
  | .refused _ | .turn .. | .answered .. | .returned .. => true
  | .entered _ event .. => event.phase ≠ outputPre
  | _ => false

theorem frozen_plain (hplain : plain entry = true) (token : Nat) :
    frozen token (entry :: log) = frozen token log := by
  cases entry with
  | entered call event other callbacks =>
    have hphase : event.phase ≠ outputPre := by simpa [plain] using hplain
    simp [frozen, hphase]
  | _ => first | rfl | cases hplain

theorem Booked.tells (hbooked : Booked service) (hlog : after.log = entry :: service.log)
    (hlaw : law entry service.log) (hsubscribed : ∀ record, entry ≠ .subscribed record)
    (hdisabled : ∀ handle, entry ≠ .disabled handle)
    (hknown : ∀ call event token callbacks, entry = .entered call event token callbacks →
      ∀ record ∈ callbacks, .subscribed record ∈ service.log)
    (hkept : ∀ token, after.invocation token = frozen token after.log)
    (houtputs : after.outputs = service.outputs) (henabled : after.enabled = service.enabled)
    (hnext : after.nextOutput = service.nextOutput) : Booked after := by
  have hsubscribed : ∀ record, .subscribed record ∈ after.log ↔
    .subscribed record ∈ service.log := by
    intro record
    rw [hlog, List.mem_cons]
    exact or_iff_right fun hsame => hsubscribed record hsame.symm
  have hdisabled : ∀ handle, .disabled handle ∈ after.log ↔ .disabled handle ∈ service.log := by
    intro handle
    rw [hlog, List.mem_cons]
    exact or_iff_right fun hsame => hdisabled handle hsame.symm
  refine ⟨hnext ▸ hbooked.bound, fun record hmem => ?_, fun handle hmem => ?_,
    houtputs ▸ hbooked.nodup, fun record other hmem hmem' => ?_, fun record => ?_,
    fun handle => ?_, fun call event token callbacks hmem record hrecord => ?_, hkept, ?_⟩
  · unfold Issued
    rw [hnext]
    exact hbooked.issued record ((hsubscribed record).1 hmem)
  · unfold Issued
    rw [hnext]
    exact hbooked.gone handle ((hdisabled handle).1 hmem)
  · exact hbooked.once record other ((hsubscribed record).1 hmem) ((hsubscribed other).1 hmem')
  · rw [houtputs]
    unfold Standing
    rw [hsubscribed, hdisabled]
    exact hbooked.listed record
  · rw [henabled, houtputs]
    exact hbooked.enabled handle
  · rw [hsubscribed]
    rw [hlog, List.mem_cons] at hmem
    rcases hmem with hsame | hmem
    · exact hknown call event token callbacks hsame.symm record hrecord
    · exact hbooked.known call event token callbacks hmem record hrecord
  · rw [hlog]
    exact ⟨hlaw, hbooked.lawful⟩

theorem Booked.notes (hbooked : Booked service) (hlaw : law entry service.log)
    (hplain : plain entry = true)
    (hknown : ∀ call event token callbacks, entry = .entered call event token callbacks →
      ∀ record ∈ callbacks, .subscribed record ∈ service.log) : Booked (service.tell entry) := by
  refine hbooked.tells rfl hlaw ?_ ?_ hknown (fun token => ?_) rfl rfl rfl
  · rintro record rfl
    cases hplain
  · rintro handle rfl
    cases hplain
  · exact (hbooked.kept token).trans (frozen_plain hplain token).symm

theorem Booked.of_same (hbooked : Booked service) (houtputs : after.outputs = service.outputs)
    (henabled : after.enabled = service.enabled)
    (hinvocations : after.invocations = service.invocations)
    (hnext : after.nextOutput = service.nextOutput) (hlog : after.log = service.log) :
    Booked after := by
  refine ⟨hnext ▸ hbooked.bound, ?_, ?_, houtputs ▸ hbooked.nodup, hlog ▸ hbooked.once, ?_, ?_,
    hlog ▸ hbooked.known, fun token => ?_, hlog ▸ hbooked.lawful⟩
  · unfold Issued
    rw [hnext, hlog]
    exact hbooked.issued
  · unfold Issued
    rw [hnext, hlog]
    exact hbooked.gone
  · rw [houtputs, hlog]
    exact hbooked.listed
  · rw [henabled, houtputs]
    exact hbooked.enabled
  · have hsame : after.invocation token = service.invocation token := by
      unfold invocation
      rw [hinvocations]
    rw [hsame, hlog]
    exact hbooked.kept token

/-! ## The tables are written -/

theorem frozen_disabled (handles : List KeelEntityOutputHandle) (token : Nat) :
    frozen token (handles.map .disabled ++ log) = frozen token log := by
  induction handles with
  | nil => rfl
  | cons handle handles ih => exact ih

theorem disabled_mem {handle : KeelEntityOutputHandle} :
    .disabled handle ∈ handles.map Entry.disabled ++ log ↔
      handle ∈ handles ∨ .disabled handle ∈ log := by
  rw [List.mem_append, List.mem_map]
  refine or_congr ⟨?_, fun hmem => ⟨handle, hmem, rfl⟩⟩ Iff.rfl
  rintro ⟨other, hmem, hsame⟩
  cases hsame
  exact hmem

theorem Booked.disables (hbooked : Booked service)
    (hissued : ∀ handle ∈ handles, service.Issued handle) : Booked (service.disable handles) := by
  have hother : ∀ {entry : Entry}, (∀ handle, entry ≠ .disabled handle) →
      entry ∈ (service.disable handles).log → entry ∈ service.log := by
    intro entry hdiffers hmem
    rcases List.mem_append.1 hmem with hmem | hmem
    · obtain ⟨handle, _, hsame⟩ := List.mem_map.1 hmem
      exact absurd hsame.symm (hdiffers handle)
    · exact hmem
  refine ⟨hbooked.bound, fun record hmem => ?_, fun handle hmem => ?_, hbooked.nodup.filter _,
    fun record other hmem hmem' => ?_, fun record => ?_, fun handle => ?_,
    fun call event token callbacks hmem record hrecord => ?_, fun token => ?_, ?_⟩
  · exact hbooked.issued record (hother (by simp) hmem)
  · rcases disabled_mem.1 hmem with hmine | hbefore
    · exact hissued handle hmine
    · exact hbooked.gone handle hbefore
  · exact hbooked.once record other (hother (by simp) hmem) (hother (by simp) hmem')
  · show record ∈ service.outputs.filter _ ↔ Standing (handles.map Entry.disabled ++ service.log) _
    rw [List.mem_filter, hbooked.listed record]
    unfold Standing
    rw [disabled_mem]
    constructor
    · rintro ⟨⟨hsubscribed, hdisabled⟩, houtside⟩
      have houtside : record.handle ∉ handles := by simpa using houtside
      exact ⟨List.mem_append_right _ hsubscribed, fun hmem => hmem.elim houtside hdisabled⟩
    · rintro ⟨hsubscribed, hstands⟩
      rw [not_or] at hstands
      exact ⟨⟨hother (by simp) hsubscribed, hstands.2⟩, by simpa using hstands.1⟩
  · show (service.enabled handle && decide (handle ∉ handles)) = true ↔
      ∃ record ∈ service.outputs.filter _, record.handle = handle
    rw [Bool.and_eq_true, decide_eq_true_eq, hbooked.enabled handle]
    constructor
    · rintro ⟨⟨record, hmem, rfl⟩, houtside⟩
      exact ⟨record, List.mem_filter.2 ⟨hmem, by simpa using houtside⟩, rfl⟩
    · rintro ⟨record, hmem, rfl⟩
      obtain ⟨hmem, houtside⟩ := List.mem_filter.1 hmem
      exact ⟨⟨record, hmem, rfl⟩, by simpa using houtside⟩
  · exact List.mem_append_right _ (hbooked.known call event token callbacks
      (hother (by simp) hmem) record hrecord)
  · exact (hbooked.kept token).trans (frozen_disabled handles token).symm
  · refine hbooked.lawful.append fun entry hmem before => ?_
    obtain ⟨handle, _, rfl⟩ := List.mem_map.1 hmem
    trivial

/-! ### A PRE -/

theorem not_before_iff {first second : OutputRecord} :
    ¬second.Before first ↔ second.priority < first.priority ∨
      first.priority = second.priority ∧ first.handle ≤ second.handle := by
  unfold OutputRecord.Before
  omega

instance : Std.Total fun first second : OutputRecord => ¬second.Before first where
  total first second := by
    rw [not_before_iff, not_before_iff]
    omega

instance : IsTrans OutputRecord fun first second => ¬second.Before first where
  trans first second third hfirst hsecond := by
    rw [not_before_iff] at hfirst hsecond ⊢
    omega

theorem mem_callbacks : record ∈ service.callbacks event ↔
    record ∈ service.outputs ∧ service.enabled record.handle = true ∧
      record.matchesEvent event = true := by
  unfold callbacks
  rw [List.mem_insertionSort, List.mem_filter, Bool.and_eq_true]

theorem Booked.mem_callbacks (hbooked : Booked service) : record ∈ service.callbacks event ↔
    Standing service.log record ∧ record.matchesEvent event = true := by
  rw [Outputs.mem_callbacks, ← and_assoc, hbooked.listed record]
  refine and_congr_left fun _ => and_iff_left_of_imp fun hstands => ?_
  exact (hbooked.enabled record.handle).2 ⟨record, (hbooked.listed record).2 hstands, rfl⟩

theorem Booked.callbacks_pairwise (hbooked : Booked service) (event : OutputEvent) :
    (service.callbacks event).Pairwise OutputRecord.Before := by
  have hsorted : (service.callbacks event).Pairwise fun first second => ¬second.Before first :=
    List.pairwise_insertionSort _ _
  have hnodup : (service.callbacks event).Nodup :=
    (List.perm_insertionSort _ _).nodup_iff.2 (hbooked.nodup.filter _)
  refine (hsorted.and hnodup).imp_of_mem fun hfirst hsecond hboth => ?_
  rename_i first second
  obtain ⟨hafter, hdiffer⟩ := hboth
  have hhandles : first.handle ≠ second.handle := by
    intro hsame
    exact hdiffer (hbooked.once first second (hbooked.mem_callbacks.1 hfirst).1.1
      (hbooked.mem_callbacks.1 hsecond).1.1 hsame)
  rw [not_before_iff] at hafter
  exact hafter.imp_right fun hsame => ⟨hsame.1, lt_of_le_of_ne hsame.2 hhandles⟩

theorem Booked.freezes (hbooked : Booked service) (hphase : event.phase = outputPre) (token : Nat) :
    Booked (service.freeze event token) := by
  refine hbooked.tells rfl (.inl ⟨hphase, hbooked.callbacks_pairwise event,
    fun _ => hbooked.mem_callbacks⟩) (by simp) (by simp) ?_ (fun other => ?_) rfl rfl rfl
  · intro _ _ _ _ hsame record hrecord
    cases hsame
    exact (hbooked.mem_callbacks.1 hrecord).1.1
  · have hfrozen : frozen other (service.freeze event token).log =
        if token = other then some ((frozen other service.log).getD (service.callbacks event))
        else frozen other service.log := by
      show frozen other (.entered service.calls event token (service.callbacks event) ::
        service.log) = _
      simp [frozen, hphase]
    rw [hfrozen, ← hbooked.kept other]
    show (((if (service.invocation token).isSome then service.invocations
      else (token, service.callbacks event) :: service.invocations).find?
        (·.1 == other)).map (·.2)) = _
    by_cases hmine : token = other
    · subst hmine
      rw [if_pos rfl]
      cases hkept : service.invocation token with
      | none => simp
      | some callbacks =>
        rw [Option.isSome_some, if_pos rfl, Option.getD_some]
        exact hkept
    · rw [if_neg hmine]
      cases hkept : service.invocation token with
      | none => simp [hmine, invocation]
      | some callbacks =>
        rw [Option.isSome_some, if_pos rfl]
        rfl

/-! ### Others -/

theorem Booked.drops (hbooked : Booked service) (token : Nat) : Booked (service.drop token) := by
  refine hbooked.tells rfl trivial (by simp) (by simp) (by simp) (fun other => ?_) rfl rfl rfl
  · have hfrozen : frozen other (service.drop token).log =
        if token = other then none else frozen other service.log := rfl
    rw [hfrozen, ← hbooked.kept other]
    show ((service.invocations.filter (·.1 ≠ token)).find? (·.1 == other)).map (·.2) = _
    rw [List.find?_filter]
    by_cases hmine : token = other
    · rw [if_pos hmine, Option.map_eq_none_iff, List.find?_eq_none]
      intro entry _
      simp [hmine]
    · rw [if_neg hmine]
      unfold invocation
      refine congrArg (fun wanted => (service.invocations.find? wanted).map (·.2)) ?_
      funext entry
      by_cases hkey : entry.1 = other
      · simp [hkey, Ne.symm hmine]
      · simp [hkey]

theorem Booked.subscribes (hbooked : Booked service) (hnext : service.nextOutput ≠ 0)
    (hhandle : record.handle = service.nextOutput)
    (hmoved : after.nextOutput = (service.nextOutput + 1) % 2 ^ 64)
    (houtputs : after.outputs = record :: service.outputs)
    (henabled : after.enabled = Function.update service.enabled record.handle true)
    (hinvocations : after.invocations = service.invocations)
    (hlog : after.log = .subscribed record :: service.log) : Booked after := by
  have hbound := hbooked.bound
  have hissued : ∀ {handle : Nat}, service.Issued handle → after.Issued handle := by
    rintro handle ⟨hzero, hsmall, hbefore⟩
    refine ⟨hzero, hsmall, ?_⟩
    have hbefore : handle < service.nextOutput := hbefore.resolve_left hnext
    rw [hmoved]
    omega
  have hfresh : ∀ {handle : Nat}, service.Issued handle → handle ≠ record.handle := by
    rintro handle ⟨_, _, hbefore⟩
    have hbefore : handle < service.nextOutput := hbefore.resolve_left hnext
    omega
  have hdisabled : ∀ handle, .disabled handle ∈ after.log ↔ .disabled handle ∈ service.log := by
    intro handle
    rw [hlog, List.mem_cons]
    exact or_iff_right (by simp)
  have hsubscribed : ∀ other, .subscribed other ∈ after.log ↔
      other = record ∨ .subscribed other ∈ service.log := by
    intro other
    rw [hlog, List.mem_cons]
    simp
  refine ⟨?_, fun other hmem => ?_, fun handle hmem => ?_, ?_,
    fun first second hmem hmem' hsame => ?_,
    fun other => ?_, fun handle => ?_,
    fun call event token callbacks hmem other hother => ?_, fun token => ?_, ?_⟩
  · omega
  · rcases (hsubscribed other).1 hmem with rfl | hmem
    · refine ⟨by omega, by omega, ?_⟩
      rw [hmoved]
      omega
    · exact hissued (hbooked.issued other hmem)
  · exact hissued (hbooked.gone handle ((hdisabled handle).1 hmem))
  · rw [houtputs, List.nodup_cons]
    refine ⟨fun hmem => ?_, hbooked.nodup⟩
    exact hfresh (hbooked.issued record ((hbooked.listed record).1 hmem).1) rfl
  · rcases (hsubscribed first).1 hmem with rfl | hmem
    · rcases (hsubscribed second).1 hmem' with rfl | hmem'
      · rfl
      · exact absurd hsame.symm (hfresh (hbooked.issued second hmem'))
    · rcases (hsubscribed second).1 hmem' with rfl | hmem'
      · exact absurd hsame (hfresh (hbooked.issued first hmem))
      · exact hbooked.once first second hmem hmem' hsame
  · rw [houtputs, List.mem_cons, hbooked.listed other]
    unfold Standing
    rw [hsubscribed, hdisabled]
    constructor
    · rintro (rfl | ⟨hmem, hstands⟩)
      · exact ⟨.inl rfl, fun hmem => hfresh (hbooked.gone _ hmem) rfl⟩
      · exact ⟨.inr hmem, hstands⟩
    · rintro ⟨rfl | hmem, hstands⟩
      · exact .inl rfl
      · exact .inr ⟨hmem, hstands⟩
  · rw [henabled, houtputs]
    by_cases hmine : handle = record.handle
    · rw [hmine, Function.update_self]
      exact iff_of_true rfl ⟨record, List.mem_cons_self, rfl⟩
    · rw [Function.update_of_ne hmine, hbooked.enabled handle]
      constructor
      · rintro ⟨other, hmem, hsame⟩
        exact ⟨other, List.mem_cons_of_mem _ hmem, hsame⟩
      · rintro ⟨other, hmem, hsame⟩
        rcases List.mem_cons.1 hmem with rfl | hmem
        · exact absurd hsame.symm hmine
        · exact ⟨other, hmem, hsame⟩
  · rw [hlog, List.mem_cons] at hmem
    exact (hsubscribed other).2 (.inr (hbooked.known call event token callbacks
      (hmem.resolve_left (by simp)) other hother))
  · have hsame : after.invocation token = service.invocation token := by
      unfold invocation
      rw [hinvocations]
    rw [hsame, hlog]
    exact hbooked.kept token
  · rw [hlog]
    exact ⟨trivial, hbooked.lawful⟩

end Outputs
end KeelS2.Entities
