import KeelS2.Entities.OutputHistory

/-!
# What an output event comes to

Every dispatch gives its callbacks one turn each, in order, and returns what they answered
(`Over`); one that is still under way has done so up to where it stands (`Underway`). The depth
and the native operations are those of what is under way (`Counted`).
-/

namespace KeelS2.Entities

open Lib (run)
open List (countP_cons mem_cons mem_cons_of_mem mem_cons_self mem_filter mem_filterMap mem_map mem_singleton)

/-! ## The history of one dispatch -/

def history (call : Nat) (log : List Entry) : List Entry :=
  log.filter fun entry => entry.call? = some call

/-- Whom the dispatch was to ask. -/
def begins (history : List Entry) : List (OutputEvent × List OutputRecord) :=
  history.filterMap fun
    | .entered _ event _ callbacks => some (event, callbacks)
    | _ => none

/-- Who has had a turn, the first first. -/
def turns (history : List Entry) : List OutputRecord :=
  (history.filterMap fun
    | .turn _ _ record _ _ => some record
    | _ => none).reverse

/-- Whose callback was called. -/
def invoked (history : List Entry) : List OutputRecord :=
  (history.filterMap fun
    | .turn _ event record enabled inService =>
      if enabled && record.hasPhase event.phase && inService then some record else none
    | _ => none).reverse

/-- What the callbacks answered. -/
def answers (history : List Entry) : List (OutputRecord × Option Nat) :=
  (history.filterMap fun
    | .answered _ _ record action => some (record, action)
    | _ => none).reverse

/-- What a PRE comes to, and no POST. -/
def blocks (event : OutputEvent) (answers : List (OutputRecord × Option Nat)) : Bool :=
  event.phase = outputPre && answers.any fun answer => answer.2 ≠ some outputContinue

/-- How far a dispatch has come; `calling` is whose callback it is in. -/
structure Underway (history : List Entry) (dispatch : Dispatch) (calling : Option OutputRecord) :
    Prop where
  begun : ∃ callbacks, begins history = [(dispatch.event, callbacks)] ∧
    turns history ++ dispatch.remaining = callbacks
  answered : (answers history).map Prod.fst ++ calling.toList = invoked history
  blocks : dispatch.block = Entities.blocks dispatch.event (answers history)

/-- What a dispatch has come to. -/
structure Over (history : List Entry) (blocked : Bool) : Prop where
  begun : ∃ event, begins history = [(event, turns history)] ∧
    blocked = Entities.blocks event (answers history)
  answered : (answers history).map Prod.fst = invoked history

section

variable {earlier : List Entry} {dispatch : Dispatch} {record : OutputRecord}
variable {remaining : List OutputRecord} {enabled inService : Bool}

theorem Underway.passes (hunderway : Underway earlier dispatch none)
    (hremaining : dispatch.remaining = record :: remaining)
    (hpassed : ¬(enabled && record.hasPhase dispatch.event.phase && inService) = true) :
    Underway (.turn dispatch.call dispatch.event record enabled inService :: earlier)
      { dispatch with remaining := remaining } none := by
  obtain ⟨⟨callbacks, hbegins, hturns⟩, hanswered, hblocks⟩ := hunderway
  refine ⟨⟨callbacks, hbegins, ?_⟩, ?_, hblocks⟩
  · rw [← hturns, hremaining]
    simp [turns]
  · simp only [answers, invoked] at hanswered ⊢
    rw [List.filterMap_cons_none rfl, List.filterMap_cons_none (by exact if_neg hpassed)]
    exact hanswered

theorem Underway.calls (hunderway : Underway earlier dispatch none)
    (hremaining : dispatch.remaining = record :: remaining)
    (hserved : (enabled && record.hasPhase dispatch.event.phase && inService) = true) :
    Underway (.turn dispatch.call dispatch.event record enabled inService :: earlier)
      { dispatch with remaining := remaining } (some record) := by
  obtain ⟨⟨callbacks, hbegins, hturns⟩, hanswered, hblocks⟩ := hunderway
  refine ⟨⟨callbacks, hbegins, ?_⟩, ?_, hblocks⟩
  · rw [← hturns, hremaining]
    simp [turns]
  · simp only [answers, invoked, Option.toList_none, List.append_nil] at hanswered ⊢
    rw [List.filterMap_cons_none rfl, List.filterMap_cons_some (by exact if_pos hserved),
      List.reverse_cons, ← hanswered]
    rfl

theorem Underway.answers (hunderway : Underway earlier dispatch (some record)) {action : Option Nat}
    {block : Bool} (hblock : block = (dispatch.block ||
      (dispatch.event.phase = outputPre && action ≠ some outputContinue))) :
    Underway (.answered dispatch.call dispatch.event record action :: earlier)
      { dispatch with block := block } none := by
  obtain ⟨hbegun, hanswered, hblocks⟩ := hunderway
  have hanswers : Entities.answers
      (.answered dispatch.call dispatch.event record action :: earlier) =
        Entities.answers earlier ++ [(record, action)] := by
    simp [Entities.answers]
  refine ⟨hbegun, ?_, ?_⟩
  · rw [hanswers, List.map_append]
    simpa [invoked] using hanswered
  · rw [hanswers, hblock, hblocks]
    simp only [Entities.blocks]
    rw [List.any_append]
    by_cases hphase : dispatch.event.phase = outputPre
    · simp [hphase]
    · simp [hphase]

theorem Underway.isOver (hunderway : Underway earlier dispatch none)
    (hremaining : dispatch.remaining = []) :
    Over (.returned dispatch.call dispatch.block :: earlier) dispatch.block := by
  obtain ⟨⟨callbacks, hbegins, hturns⟩, hanswered, hblocks⟩ := hunderway
  rw [hremaining, List.append_nil] at hturns
  rw [Option.toList_none, List.append_nil] at hanswered
  exact ⟨⟨dispatch.event, hturns ▸ hbegins, hblocks⟩, hanswered⟩

end

theorem history_cons_of_ne {call : Nat} {entry : Entry} {log : List Entry}
    (hother : entry.call? ≠ some call) : history call (entry :: log) = history call log := by
  unfold history
  rw [List.filter_cons_of_neg (by simpa using hother)]

theorem history_cons {call : Nat} {entry : Entry} {log : List Entry}
    (hmine : entry.call? = some call) :
    history call (entry :: log) = entry :: history call log := by
  unfold history
  rw [List.filter_cons_of_pos (by simpa using hmine)]

theorem mem_begins {call : Nat} {event : OutputEvent} {token : Nat} {callbacks : List OutputRecord}
    {log : List Entry} (hmem : .entered call event token callbacks ∈ log) :
    (event, callbacks) ∈ begins (history call log) :=
  List.mem_filterMap.2 ⟨_, List.mem_filter.2 ⟨hmem, by simp [Entry.call?]⟩, rfl⟩

/-! ## What is kept of what is under way -/

def Frame.call? : Frame → Option Nat
  | .turning dispatch | .calling dispatch _ => some dispatch.call
  | _ => none

/-- What `PruneOutputs` is called for is a PRE, or no dispatch. -/
def Purpose.Proper : Purpose → Prop
  | .dispatching event _ => event.phase = outputPre
  | .configuring _ => True

/-- Whose native operations are raised meanwhile. -/
def Purpose.taken : Purpose → List KeelPluginHandle
  | .dispatching _ _ => []
  | .configuring configuration => [configuration.plugin]

/-- What holds where a frame stands. -/
def Stands (log : List Entry) : Frame → Prop
  | .pruning purpose asked remaining =>
    purpose.Proper ∧ ∀ record ∈ asked :: remaining, .subscribed record ∈ log
  | .turning dispatch => Underway (history dispatch.call log) dispatch none
  | .calling dispatch record =>
    Underway (history dispatch.call log) dispatch (some record) ∧ .subscribed record ∈ log
  | _ => True

structure Staged (log : List Entry) (calls : Nat) (frames : List Frame) : Prop where
  calls : ∀ entry ∈ log, ∀ call, entry.call? = some call → call < calls
  entered : ∀ entry ∈ log, ∀ call, entry.call? = some call →
    ∃ event token callbacks, .entered call event token callbacks ∈ log
  stands : ∀ frame ∈ frames, Stands log frame
  apart : (frames.filterMap Frame.call?).Nodup
  unreturned : ∀ frame ∈ frames, ∀ call, frame.call? = some call → ∀ blocked,
    .returned call blocked ∉ log
  finished : ∀ call event token callbacks, .entered call event token callbacks ∈ log →
    (∃ blocked, .returned call blocked ∈ log) ∨ ∃ frame ∈ frames, frame.call? = some call
  isOver : ∀ call blocked, .returned call blocked ∈ log → Over (history call log) blocked

variable {log entries : List Entry} {calls call : Nat} {frames : List Frame} {frame : Frame}
variable {entry : Entry} {record : OutputRecord}

theorem Stands.later (hstands : Stands log frame)
    (hother : ∀ call, frame.call? = some call → entry.call? ≠ some call) :
    Stands (entry :: log) frame := by
  cases frame with
  | pruning purpose asked remaining =>
    exact ⟨hstands.1, fun record hmem => mem_cons_of_mem _ (hstands.2 record hmem)⟩
  | turning dispatch =>
    show Underway (history dispatch.call (entry :: log)) dispatch none
    rw [history_cons_of_ne (hother dispatch.call rfl)]
    exact hstands
  | calling dispatch record =>
    refine ⟨?_, mem_cons_of_mem _ hstands.2⟩
    rw [history_cons_of_ne (hother dispatch.call rfl)]
    exact hstands.1
  | _ => trivial

theorem Stands.lasts (hstands : Stands log frame) (hother : ∀ entry ∈ entries, entry.call? = none) :
    Stands (entries ++ log) frame := by
  induction entries with
  | nil => exact hstands
  | cons entry entries ih =>
    refine Stands.later (ih fun other hmem => hother other (mem_cons_of_mem _ hmem))
      fun call _ hsame => ?_
    rw [hother entry mem_cons_self] at hsame
    cases hsame

theorem history_append (hother : ∀ entry ∈ entries, entry.call? = none) (call : Nat) :
    history call (entries ++ log) = history call log := by
  unfold history
  rw [List.filter_append, List.filter_eq_nil_iff.2 ?_, List.nil_append]
  intro entry hmem
  simp [hother entry hmem]

theorem Staged.lasts (hstaged : Staged log calls frames)
    (hother : ∀ entry ∈ entries, entry.call? = none) : Staged (entries ++ log) calls frames := by
  have hold : ∀ {entry : Entry} {call : Nat}, entry ∈ entries ++ log → entry.call? = some call →
      entry ∈ log := by
    intro entry call hmem hcall
    refine (List.mem_append.1 hmem).resolve_left fun hnew => ?_
    rw [hother entry hnew] at hcall
    cases hcall
  refine ⟨fun entry hmem call hcall => ?_, fun entry hmem call hcall => ?_,
    fun frame hmem => (hstaged.stands frame hmem).lasts hother, hstaged.apart,
    fun frame hframe call hcall blocked hmem =>
      hstaged.unreturned frame hframe call hcall blocked (hold hmem rfl),
        fun call event token callbacks hmem => ?_, fun call blocked hmem => ?_⟩
  · exact hstaged.calls entry (hold hmem hcall) call hcall
  · obtain ⟨event, token, callbacks, hentered⟩ := hstaged.entered entry (hold hmem hcall) call hcall
    exact ⟨event, token, callbacks, List.mem_append_right _ hentered⟩
  · refine (hstaged.finished call event token callbacks (hold hmem rfl)).imp_left ?_
    rintro ⟨blocked, hreturned⟩
    exact ⟨blocked, List.mem_append_right _ hreturned⟩
  · rw [history_append hother]
    exact hstaged.isOver call blocked (hold hmem rfl)

theorem Staged.tells (hstaged : Staged log calls frames) (hcall : entry.call? = none) :
    Staged (entry :: log) calls frames := by
  refine @Staged.lasts log [entry] calls frames hstaged fun other hmem => ?_
  rw [List.mem_singleton.1 hmem]
  exact hcall

theorem Staged.push (hstaged : Staged log calls frames) (hcall : frame.call? = none)
    (hstands : Stands log frame) : Staged log calls (frame :: frames) := by
  refine ⟨hstaged.calls, hstaged.entered, fun other hmem => ?_, ?_, fun other hmem call hsame => ?_,
    fun call event token callbacks hmem => ?_, hstaged.isOver⟩
  · rcases List.mem_cons.1 hmem with rfl | hmem
    · exact hstands
    · exact hstaged.stands other hmem
  · rw [List.filterMap_cons_none hcall]
    exact hstaged.apart
  · rcases List.mem_cons.1 hmem with rfl | hmem
    · rw [hcall] at hsame
      cases hsame
    · exact hstaged.unreturned other hmem call hsame
  · refine (hstaged.finished call event token callbacks hmem).imp_right ?_
    rintro ⟨other, hother, hsame⟩
    exact ⟨other, mem_cons_of_mem _ hother, hsame⟩

theorem Staged.pop (hstaged : Staged log calls (frame :: frames)) (hcall : frame.call? = none) :
    Staged log calls frames := by
  refine ⟨hstaged.calls, hstaged.entered,
    fun other hmem => hstaged.stands other (mem_cons_of_mem _ hmem), ?_,
    fun other hmem => hstaged.unreturned other (mem_cons_of_mem _ hmem),
      fun call event token callbacks hmem => ?_, hstaged.isOver⟩
  · have hapart := hstaged.apart
    rwa [List.filterMap_cons_none hcall] at hapart
  · refine (hstaged.finished call event token callbacks hmem).imp_right ?_
    rintro ⟨other, hother, hsame⟩
    rcases List.mem_cons.1 hother with rfl | hother
    · rw [hcall] at hsame
      cases hsame
    · exact ⟨other, hother, hsame⟩

theorem Staged.others (hstaged : Staged log calls (frame :: frames))
    (hcall : frame.call? = some call)
    {other : Frame} (hmem : other ∈ frames) : other.call? ≠ some call := by
  intro hsame
  have hapart := hstaged.apart
  rw [List.filterMap_cons_some hcall, List.nodup_cons] at hapart
  exact hapart.1 (List.mem_filterMap.2 ⟨other, hmem, hsame⟩)

theorem Staged.entered_frame (hstaged : Staged log calls frames) (hmem : frame ∈ frames)
    (hcall : frame.call? = some call) :
    ∃ event token callbacks, .entered call event token callbacks ∈ log := by
  have hbegun : ∀ {dispatch : Dispatch} {calling : Option OutputRecord},
      Underway (history dispatch.call log) dispatch calling →
      ∃ event token callbacks, .entered dispatch.call event token callbacks ∈ log := by
    intro dispatch calling hunderway
    obtain ⟨callbacks, hbegins, _⟩ := hunderway.begun
    have hmem : (dispatch.event, callbacks) ∈ begins (history dispatch.call log) := by
      rw [hbegins]
      exact mem_cons_self
    obtain ⟨entry, hentry, hsame⟩ := List.mem_filterMap.1 hmem
    obtain ⟨hentry, hcall⟩ := List.mem_filter.1 hentry
    cases entry with
    | entered call event token found =>
      have hcall : call = dispatch.call := by simpa [Entry.call?] using hcall
      exact ⟨event, token, found, hcall ▸ hentry⟩
    | _ => cases hsame
  have hstands := hstaged.stands frame hmem
  cases frame with
  | turning dispatch =>
    cases hcall
    exact hbegun hstands
  | calling dispatch record =>
    cases hcall
    exact hbegun hstands.1
  | _ => cases hcall

theorem Staged.goes (hstaged : Staged log calls (frame :: frames)) {next : Frame}
    (hcall : frame.call? = some call) (hnext : next.call? = some call)
    (hentry : entry.call? = some call) (hreturned : ∀ blocked, entry ≠ .returned call blocked)
    (hentered : ∀ event token callbacks, entry ≠ .entered call event token callbacks)
    (hstands : Stands (entry :: log) next) : Staged (entry :: log) calls (next :: frames) := by
  obtain ⟨event, token, callbacks, hbegun⟩ := hstaged.entered_frame mem_cons_self hcall
  have hmine : ∀ {number : Nat}, entry.call? = some number → number = call := fun hnumber =>
    Option.some.inj (hnumber.symm.trans hentry)
  have hdone : ∀ {number : Nat} {blocked : Bool}, .returned number blocked ∈ entry :: log →
      .returned number blocked ∈ log := by
    intro number blocked hmem
    refine (List.mem_cons.1 hmem).resolve_left fun hsame => ?_
    have hcall := hmine (hsame ▸ rfl : entry.call? = some number)
    exact hreturned blocked (hcall ▸ hsame.symm)
  refine ⟨fun other hmem number hnumber => ?_, fun other hmem number hnumber => ?_,
    fun other hmem => ?_, ?_, fun other hmem number hnumber blocked hreturned => ?_,
    fun number event token callbacks hmem => ?_, fun number blocked hmem => ?_⟩
  · rcases List.mem_cons.1 hmem with rfl | hmem
    · rw [hmine hnumber]
      exact hstaged.calls _ hbegun call rfl
    · exact hstaged.calls other hmem number hnumber
  · rcases List.mem_cons.1 hmem with rfl | hmem
    · rw [hmine hnumber]
      exact ⟨event, token, callbacks, mem_cons_of_mem _ hbegun⟩
    · obtain ⟨event, token, callbacks, hmem⟩ := hstaged.entered other hmem number hnumber
      exact ⟨event, token, callbacks, mem_cons_of_mem _ hmem⟩
  · rcases List.mem_cons.1 hmem with rfl | hmem
    · exact hstands
    · refine (hstaged.stands other (mem_cons_of_mem _ hmem)).later fun number hnumber
        hsame => ?_
      exact hstaged.others hcall hmem (hmine hsame ▸ hnumber)
  · have hapart := hstaged.apart
    rw [List.filterMap_cons_some hcall] at hapart
    rwa [List.filterMap_cons_some hnext]
  · rcases List.mem_cons.1 hmem with rfl | hmem
    · exact hstaged.unreturned frame mem_cons_self number
        (hcall.trans (hnext.symm.trans hnumber)) blocked (hdone hreturned)
    · exact hstaged.unreturned other (mem_cons_of_mem _ hmem) number hnumber blocked
        (hdone hreturned)
  · have hmem : .entered number event token callbacks ∈ log := by
      refine (List.mem_cons.1 hmem).resolve_left fun hsame => ?_
      have hcall := hmine (hsame ▸ rfl : entry.call? = some number)
      exact hentered event token callbacks (hcall ▸ hsame.symm)
    rcases hstaged.finished number event token callbacks hmem with ⟨blocked, hreturned⟩ | hframe
    · exact .inl ⟨blocked, mem_cons_of_mem _ hreturned⟩
    · obtain ⟨other, hother, hnumber⟩ := hframe
      rcases List.mem_cons.1 hother with rfl | hother
      · exact .inr ⟨next, mem_cons_self, hnext.trans (hcall.symm.trans hnumber)⟩
      · exact .inr ⟨other, mem_cons_of_mem _ hother, hnumber⟩
  · have hmem := hdone hmem
    have hother : entry.call? ≠ some number := by
      intro hnumber
      exact hstaged.unreturned frame mem_cons_self number (hmine hnumber ▸ hcall) blocked hmem
    rw [history_cons_of_ne hother]
    exact hstaged.isOver number blocked hmem

theorem Staged.returns (hstaged : Staged log calls (frame :: frames))
    (hcall : frame.call? = some call) {blocked : Bool}
    (hover : Over (history call (.returned call blocked :: log)) blocked) :
    Staged (.returned call blocked :: log) calls frames := by
  obtain ⟨event, token, callbacks, hbegun⟩ := hstaged.entered_frame mem_cons_self hcall
  have hdiffers : ∀ {other : Frame} {number : Nat}, other ∈ frames → other.call? = some number →
      number ≠ call := by
    rintro other number hmem hnumber rfl
    exact hstaged.others hcall hmem hnumber
  refine ⟨fun other hmem number hnumber => ?_, fun other hmem number hnumber => ?_,
    fun other hmem => ?_, ?_, fun other hmem number hnumber blocked hreturned => ?_,
    fun number event token callbacks hmem => ?_, fun number done hmem => ?_⟩
  · rcases List.mem_cons.1 hmem with rfl | hmem
    · cases hnumber
      exact hstaged.calls _ hbegun call rfl
    · exact hstaged.calls other hmem number hnumber
  · rcases List.mem_cons.1 hmem with rfl | hmem
    · cases hnumber
      exact ⟨event, token, callbacks, mem_cons_of_mem _ hbegun⟩
    · obtain ⟨event, token, callbacks, hmem⟩ := hstaged.entered other hmem number hnumber
      exact ⟨event, token, callbacks, mem_cons_of_mem _ hmem⟩
  · refine (hstaged.stands other (mem_cons_of_mem _ hmem)).later fun number hnumber hsame => ?_
    exact hdiffers hmem hnumber (Option.some.inj hsame).symm
  · have hapart := hstaged.apart
    rw [List.filterMap_cons_some hcall, List.nodup_cons] at hapart
    exact hapart.2
  · rcases List.mem_cons.1 hreturned with hsame | hreturned
    · cases hsame
      exact hdiffers hmem hnumber rfl
    · exact hstaged.unreturned other (mem_cons_of_mem _ hmem) number hnumber blocked hreturned
  · have hmem : .entered number event token callbacks ∈ log :=
      (List.mem_cons.1 hmem).resolve_left (by simp)
    rcases hstaged.finished number event token callbacks hmem with ⟨done, hreturned⟩ | hframe
    · exact .inl ⟨done, mem_cons_of_mem _ hreturned⟩
    · obtain ⟨other, hother, hnumber⟩ := hframe
      rcases List.mem_cons.1 hother with rfl | hother
      · obtain rfl : number = call := Option.some.inj (hnumber.symm.trans hcall)
        exact .inl ⟨blocked, mem_cons_self⟩
      · exact .inr ⟨other, hother, hnumber⟩
  · rcases List.mem_cons.1 hmem with hsame | hmem
    · cases hsame
      exact hover
    · have hother : Entry.call? (.returned call blocked) ≠ some number := by
        intro hsame
        exact hstaged.unreturned frame mem_cons_self number
          (hcall.trans hsame) done hmem
      rw [history_cons_of_ne hother]
      exact hstaged.isOver number done hmem

theorem Staged.enters (hstaged : Staged log calls frames) (event : OutputEvent) (token : Nat)
    (callbacks : List OutputRecord) :
    Staged (.entered calls event token callbacks :: log) (calls + 1)
      (.turning ⟨calls, event, token, callbacks, false⟩ :: frames) := by
  have hnobody : ∀ entry ∈ log, entry.call? ≠ some calls := by
    intro entry hmem hsame
    exact Nat.lt_irrefl _ (hstaged.calls entry hmem calls hsame)
  have hempty : history calls log = [] := by
    refine List.filter_eq_nil_iff.2 fun entry hmem => ?_
    simpa using hnobody entry hmem
  have hfresh : ∀ frame ∈ frames, frame.call? ≠ some calls := by
    intro frame hmem hsame
    obtain ⟨event, token, callbacks, hbegun⟩ := hstaged.entered_frame hmem hsame
    exact hnobody _ hbegun rfl
  refine ⟨fun other hmem number hnumber => ?_, fun other hmem number hnumber => ?_,
    fun other hmem => ?_, ?_, fun other hmem number hnumber blocked hreturned => ?_,
    fun number event token callbacks hmem => ?_, fun number done hmem => ?_⟩
  · rcases List.mem_cons.1 hmem with rfl | hmem
    · cases hnumber
      exact Nat.lt_succ_self calls
    · exact Nat.lt_succ_of_lt (hstaged.calls other hmem number hnumber)
  · rcases List.mem_cons.1 hmem with rfl | hmem
    · cases hnumber
      exact ⟨event, token, callbacks, mem_cons_self⟩
    · obtain ⟨event, token, callbacks, hmem⟩ := hstaged.entered other hmem number hnumber
      exact ⟨event, token, callbacks, mem_cons_of_mem _ hmem⟩
  · rcases List.mem_cons.1 hmem with rfl | hmem
    · show Underway (history calls _) _ none
      rw [history_cons rfl, hempty]
      exact ⟨⟨callbacks, rfl, rfl⟩, rfl, by simp [blocks, answers]⟩
    · refine (hstaged.stands other hmem).later fun number hnumber hsame => ?_
      cases hsame
      exact hfresh other hmem hnumber
  · rw [show (Frame.turning ⟨calls, event, token, callbacks, false⟩ :: frames).filterMap
      Frame.call? =
      calls :: frames.filterMap Frame.call? from rfl, List.nodup_cons]
    refine ⟨fun hmem => ?_, hstaged.apart⟩
    obtain ⟨other, hother, hsame⟩ := List.mem_filterMap.1 hmem
    exact hfresh other hother hsame
  · have hreturned : .returned number blocked ∈ log :=
      (List.mem_cons.1 hreturned).resolve_left (by simp)
    rcases List.mem_cons.1 hmem with rfl | hmem
    · cases hnumber
      exact hnobody _ hreturned rfl
    · exact hstaged.unreturned other hmem number hnumber blocked hreturned
  · rcases List.mem_cons.1 hmem with hsame | hmem
    · cases hsame
      exact .inr ⟨_, mem_cons_self, rfl⟩
    · rcases hstaged.finished number event token callbacks hmem with ⟨done, hreturned⟩ | hframe
      · exact .inl ⟨done, mem_cons_of_mem _ hreturned⟩
      · obtain ⟨other, hother, hnumber⟩ := hframe
        exact .inr ⟨other, mem_cons_of_mem _ hother, hnumber⟩
  · have hmem : .returned number done ∈ log := (List.mem_cons.1 hmem).resolve_left (by simp)
    have hother : Entry.call? (.entered calls event token callbacks) ≠ some number := by
      intro hsame
      cases hsame
      exact hnobody _ hmem rfl
    rw [history_cons_of_ne hother]
    exact hstaged.isOver number done hmem

/-! ## The counters -/

namespace Outputs

/-- The counters are those of the frames, and so much more. -/
structure Counted (service : Outputs) (deeper : Nat) (holders : List KeelPluginHandle)
    (frames : List Frame) : Prop where
  depth : service.depth = deeper + frames.countP Frame.deepens
  held : ∀ plugin, service.nativeOperations plugin =
    holders.count plugin + frames.countP (Frame.holds plugin)

/-- All that is kept, on the way from one step to the next. -/
structure Within (service : Outputs) (deeper : Nat) (holders : List KeelPluginHandle) : Prop where
  booked : Booked service
  staged : Staged service.log service.calls service.frames
  counted : Counted service deeper holders service.frames

variable {service : Outputs} {deeper : Nat} {holders : List KeelPluginHandle}
variable {plugin : KeelPluginHandle} {event : OutputEvent} {token : Nat}

theorem Counted.of_frame {frames : List Frame} (hcounted : Counted service 0 [] (frame :: frames)) :
    Counted service (if frame.deepens then 1 else 0) frame.holder.toList frames := by
  refine ⟨?_, fun plugin => ?_⟩
  · rw [hcounted.depth, countP_cons]
    omega
  · rw [hcounted.held plugin, countP_cons]
    cases hholder : frame.holder with
    | none => simp [Frame.holds, hholder]
    | some holder =>
      by_cases hsame : holder = plugin
      · simp [Frame.holds, hholder, hsame, Nat.add_comm]
      · simp [Frame.holds, hholder, hsame]

theorem Counted.to_frame {frames : List Frame}
    (hcounted : Counted service (if frame.deepens then 1 else 0) frame.holder.toList frames) :
    Counted service 0 [] (frame :: frames) := by
  refine ⟨?_, fun plugin => ?_⟩
  · rw [hcounted.depth, countP_cons]
    omega
  · rw [hcounted.held plugin, countP_cons]
    cases hholder : frame.holder with
    | none => simp [Frame.holds, hholder]
    | some holder =>
      by_cases hsame : holder = plugin
      · simp [Frame.holds, hholder, hsame, Nat.add_comm]
      · simp [Frame.holds, hholder, hsame]

theorem Counted.deepen (hcounted : Counted service deeper holders frames) :
    Counted service.deepen (deeper + 1) holders frames := by
  refine ⟨?_, hcounted.held⟩
  show service.depth + 1 = _
  rw [hcounted.depth]
  omega

theorem Counted.surface (hcounted : Counted service (deeper + 1) holders frames) :
    Counted service.surface deeper holders frames := by
  refine ⟨?_, hcounted.held⟩
  show service.depth - 1 = _
  rw [hcounted.depth]
  omega

theorem Counted.hold (hcounted : Counted service deeper holders frames)
    (plugin : KeelPluginHandle) :
    Counted (service.hold plugin) deeper (plugin :: holders) frames := by
  refine ⟨hcounted.depth, fun other => ?_⟩
  show Function.update service.nativeOperations plugin _ other = _
  by_cases hsame : other = plugin
  · subst hsame
    rw [Function.update_self, hcounted.held other, List.count_cons_self]
    omega
  · rw [Function.update_of_ne hsame, hcounted.held other, List.count_cons_of_ne (Ne.symm hsame)]

theorem Counted.unhold (hcounted : Counted service deeper (plugin :: holders) frames) :
    Counted (service.unhold plugin) deeper holders frames := by
  refine ⟨hcounted.depth, fun other => ?_⟩
  show Function.update service.nativeOperations plugin _ other = _
  by_cases hsame : other = plugin
  · subst hsame
    rw [Function.update_self, hcounted.held other, List.count_cons_self]
    omega
  · rw [Function.update_of_ne hsame, hcounted.held other, List.count_cons_of_ne (Ne.symm hsame)]

/-! ## What the functions keep -/

theorem Within.push (frame : Frame)
    (hwithin : Within service (if frame.deepens then 1 else 0) frame.holder.toList)
    (hcall : frame.call? = none) (hstands : Stands service.log frame) :
    Within (service.push frame) 0 [] where
  booked := hwithin.booked.of_same rfl rfl rfl rfl rfl
  staged := hwithin.staged.push hcall hstands
  counted := ⟨hwithin.counted.to_frame.depth, hwithin.counted.to_frame.held⟩

theorem Within.disable (hwithin : Within service deeper holders)
    {handles : List KeelEntityOutputHandle} (hissued : ∀ handle ∈ handles, service.Issued handle) :
    Within (service.disable handles) deeper holders where
  booked := hwithin.booked.disables hissued
  staged := hwithin.staged.lasts fun entry hmem => by
    obtain ⟨handle, _, rfl⟩ := List.mem_map.1 hmem
    rfl
  counted := ⟨hwithin.counted.depth, hwithin.counted.held⟩

theorem Booked.issued_of_mem (hbooked : Booked service) (hmem : record ∈ service.outputs) :
    service.Issued record.handle :=
  hbooked.issued record ((hbooked.listed record).1 hmem).1

theorem Within.unconfigure (hwithin : Within service 1 [plugin]) :
    Within (service.unconfigure plugin) 0 [] where
  booked := hwithin.booked.of_same rfl rfl rfl rfl rfl
  staged := hwithin.staged
  counted := hwithin.counted.unhold.surface

theorem Within.subscribe {configuration : Configuration}
    (hwithin : Within service 1 [configuration.plugin]) (spec : KeelEntityOutputSpec) :
    Within (service.subscribe configuration spec) 0 [] := by
  have hback := hwithin.unconfigure
  unfold Outputs.subscribe
  simp only
  split
  · exact hback
  · next hroom =>
    refine ⟨hback.booked.subscribes (fun hnext => hroom (.inl hnext)) rfl rfl rfl rfl rfl rfl,
      hback.staged.tells rfl, hback.counted.depth, hback.counted.held⟩

theorem Within.configured {configuration : Configuration}
    (hwithin : Within service 1 [configuration.plugin]) :
    Within (service.configured configuration) 0 [] := by
  unfold Outputs.configured
  simp only
  split
  · exact hwithin.unconfigure
  split
  · exact hwithin.unconfigure
  split
  · exact Within.push (.validating configuration) hwithin rfl trivial
  · exact hwithin.subscribe _

theorem Within.validated {configuration : Configuration}
    (hwithin : Within service 1 [configuration.plugin]) (answer : Answer) :
    Within (service.validated configuration answer) 0 [] := by
  unfold Outputs.validated
  simp only
  split
  · exact hwithin.unconfigure
  split
  · exact hwithin.unconfigure
  split
  · exact hwithin.unconfigure
  · exact hwithin.subscribe _

theorem Within.freeze (hwithin : Within service 1 []) (hphase : event.phase = outputPre)
    (token : Nat) : Within (service.freeze event token) 0 [] where
  booked := hwithin.booked.freezes hphase token
  staged := hwithin.staged.enters event token _
  counted := Counted.to_frame ⟨hwithin.counted.depth, hwithin.counted.held⟩

theorem Within.enter (hwithin : Within service 1 []) (hphase : event.phase = outputPost)
    {callbacks : List OutputRecord} (hkept : service.invocation token = some callbacks) :
    Within (service.enter event token callbacks.reverse) 0 [] := by
  have hfrozen : frozen token service.log = some callbacks :=
    (hwithin.booked.kept token).symm.trans hkept
  refine ⟨?_, hwithin.staged.enters event token _,
    Counted.to_frame ⟨hwithin.counted.depth, hwithin.counted.held⟩⟩
  have hnoted : Booked (service.tell (.entered service.calls event token callbacks.reverse)) := by
    refine hwithin.booked.notes (.inr ⟨hphase, ?_⟩) (by simp [plain, hphase, outputPost, outputPre])
      fun call other token found hsame record hrecord => ?_
    · rw [List.reverse_reverse]
      exact hfrozen
    · cases hsame
      obtain ⟨call, event, hmem⟩ := mem_of_frozen hfrozen
      exact hwithin.booked.known call event token callbacks hmem record (List.mem_reverse.1 hrecord)
  exact hnoted.of_same rfl rfl rfl rfl rfl

theorem Within.prune {purpose : Purpose} (hwithin : Within service 1 (purpose.taken))
    (hproper : purpose.Proper) {records : List OutputRecord}
    (hknown : ∀ record ∈ records, .subscribed record ∈ service.log) :
    Within (service.prune purpose records) 0 [] := by
  cases records with
  | nil =>
    cases purpose with
    | dispatching event token => exact hwithin.freeze hproper token
    | configuring configuration => exact hwithin.configured
  | cons asked remaining =>
    cases purpose with
    | dispatching event token =>
      exact Within.push (.pruning (.dispatching event token) asked remaining) hwithin rfl
        ⟨hproper, hknown⟩
    | configuring configuration =>
      exact Within.push (.pruning (.configuring configuration) asked remaining) hwithin rfl
        ⟨hproper, hknown⟩

/-! ## Going on -/

theorem Within.pop (hwithin : Within service 0 []) (hframes : service.frames = frame :: frames)
    (hcall : frame.call? = none) :
    Within { service with frames := frames } (if frame.deepens then 1 else 0)
      frame.holder.toList where
  booked := hwithin.booked.of_same rfl rfl rfl rfl rfl
  staged := (hframes ▸ hwithin.staged).pop hcall
  counted := by
    have hcounted := hwithin.counted
    rw [hframes] at hcounted
    exact ⟨hcounted.of_frame.depth, hcounted.of_frame.held⟩

theorem Within.goes (next : Frame) (hwithin : Within service 0 [])
    (hframes : service.frames = frame :: frames) (hcall : frame.call? = some call) {after : Outputs}
    (hlog : after.log = entry :: service.log) (hbooked : Booked after)
    (hcalls : after.calls = service.calls) (hafter : after.frames = next :: frames)
    (hcounted : Counted after 0 [] (next :: frames)) (hnext : next.call? = some call)
    (hentry : entry.call? = some call) (hreturned : ∀ blocked, entry ≠ .returned call blocked)
    (hentered : ∀ event token callbacks, entry ≠ .entered call event token callbacks)
    (hstands : Stands (entry :: service.log) next) : Within after 0 [] where
  booked := hbooked
  staged := by
    rw [hlog, hcalls, hafter]
    have hstaged := hwithin.staged
    rw [hframes] at hstaged
    exact hstaged.goes hcall hnext hentry hreturned hentered hstands
  counted := hafter ▸ hcounted

theorem Within.standing (hwithin : Within service 0 []) {dispatch : Dispatch}
    (hunderway : Underway (history dispatch.call service.log) dispatch none)
    {remaining : List OutputRecord} (hremaining : dispatch.remaining = record :: remaining) :
    .subscribed record ∈ service.log ∧
      (service.enabled record.handle = true ↔ .disabled record.handle ∉ service.log) := by
  obtain ⟨callbacks, hbegins, hturns⟩ := hunderway.begun
  have hmem : record ∈ callbacks := by
    rw [← hturns, hremaining]
    simp
  have hsubscribed : .subscribed record ∈ service.log := by
    have hbegun : (dispatch.event, callbacks) ∈ begins (history dispatch.call service.log) := by
      rw [hbegins]
      exact mem_cons_self
    obtain ⟨entry, hentry, hsame⟩ := List.mem_filterMap.1 hbegun
    have hentry := (List.mem_filter.1 hentry).1
    cases entry with
    | entered call event token found =>
      cases hsame
      exact hwithin.booked.known call _ token _ hentry record hmem
    | _ => cases hsame
  refine ⟨hsubscribed, ?_⟩
  rw [hwithin.booked.enabled record.handle]
  constructor
  · rintro ⟨other, hother, hsame⟩
    exact hsame ▸ ((hwithin.booked.listed other).1 hother).2
  · intro hdisabled
    exact ⟨record, (hwithin.booked.listed record).2 ⟨hsubscribed, hdisabled⟩, rfl⟩

theorem Within.turn (hwithin : Within service 0 []) {dispatch : Dispatch}
    (hframes : service.frames = .turning dispatch :: frames) :
    Within ({ service with frames := frames }.turn dispatch) 0 [] := by
  have hstaged := hwithin.staged
  rw [hframes] at hstaged
  have hunderway : Underway (history dispatch.call service.log) dispatch none :=
    hstaged.stands _ mem_cons_self
  have hcounted : Counted { service with frames := frames } 1 [] frames := by
    have hcounted := hwithin.counted
    rw [hframes] at hcounted
    exact ⟨hcounted.of_frame.depth, hcounted.of_frame.held⟩
  unfold Outputs.turn
  cases hremaining : dispatch.remaining with
  | nil =>
    have hnoted : Booked (service.tell (.returned dispatch.call dispatch.block)) :=
      hwithin.booked.notes trivial rfl (by simp)
    refine ⟨hnoted.of_same rfl rfl rfl rfl rfl, hstaged.returns rfl ?_, hcounted.surface.depth,
      hcounted.surface.held⟩
    rw [history_cons rfl]
    exact hunderway.isOver hremaining
  | cons record remaining =>
    obtain ⟨hsubscribed, henabled⟩ := hwithin.standing hunderway hremaining
    have hnoted : Booked (service.tell (.turn dispatch.call dispatch.event record
        (service.enabled record.handle) (service.inService record.owner))) :=
      hwithin.booked.notes henabled rfl (by simp)
    simp only
    split
    · next hserved =>
      have hheld := hcounted.hold record.owner
      refine Within.goes (.calling { dispatch with remaining := remaining } record)
        hwithin hframes rfl
        rfl (hnoted.of_same rfl rfl rfl rfl rfl) rfl rfl
        (Counted.to_frame ⟨hheld.depth, hheld.held⟩) rfl rfl (by simp) (by simp)
        ⟨?_, mem_cons_of_mem _ hsubscribed⟩
      rw [history_cons rfl]
      exact hunderway.calls hremaining hserved
    · next hpassed =>
      refine Within.goes (.turning { dispatch with remaining := remaining }) hwithin hframes rfl
        rfl (hnoted.of_same rfl rfl rfl rfl rfl) rfl rfl
        (Counted.to_frame ⟨hcounted.depth, hcounted.held⟩) rfl rfl (by simp) (by simp) ?_
      show Underway (history dispatch.call _) _ none
      rw [history_cons rfl]
      exact hunderway.passes hremaining hpassed

theorem Within.answered (hwithin : Within service 0 []) {dispatch : Dispatch}
    (hframes : service.frames = .calling dispatch record :: frames) (action : Option Nat) :
    Within ({ service with frames := frames }.answered dispatch record action) 0 [] := by
  have hstaged := hwithin.staged
  rw [hframes] at hstaged
  obtain ⟨hunderway, hsubscribed⟩ :
      Underway (history dispatch.call service.log) dispatch (some record) ∧
        Entry.subscribed record ∈ service.log := hstaged.stands _ mem_cons_self
  have hcounted : Counted { service with frames := frames } 1 [record.owner] frames := by
    have hcounted := hwithin.counted
    rw [hframes] at hcounted
    exact ⟨hcounted.of_frame.depth, hcounted.of_frame.held⟩
  have hback := hcounted.unhold
  -- What the dispatch has come to then, however the subscription fares.
  have hgoes : ∀ {earlier : Outputs} (block : Bool), Within earlier 0 [] →
      earlier.frames = service.frames →
      history dispatch.call earlier.log = history dispatch.call service.log →
      Booked (earlier.tell (.answered dispatch.call dispatch.event record action)) →
      block = (dispatch.block ||
        (dispatch.event.phase = outputPre && action ≠ some outputContinue)) →
      ∀ {after : Outputs}, after = { earlier.tell
        (.answered dispatch.call dispatch.event record action)
        with
          frames := .turning { dispatch with block := block } :: frames
          depth := after.depth
          nativeOperations := after.nativeOperations } →
      Counted after 1 [] frames → Within after 0 [] := by
    intro earlier block hearlier hsame hhistory hbooked hblock after hafter hcounted
    refine Within.goes (.turning { dispatch with block := block }) hearlier
      (hsame.trans hframes) rfl
      (by rw [hafter]; rfl) (by rw [hafter]; exact hbooked.of_same rfl rfl rfl rfl rfl)
      (by rw [hafter]; rfl) (by rw [hafter])
        (Counted.to_frame ⟨hcounted.depth, hcounted.held⟩) rfl rfl
      (by simp) (by simp) ?_
    show Underway (history dispatch.call _) _ none
    rw [history_cons rfl, hhistory]
    exact hunderway.answers hblock
  unfold Outputs.answered
  simp only
  split
  · next hblocks =>
    refine hgoes true hwithin rfl rfl (hwithin.booked.notes ?_ rfl (by simp)) ?_ rfl
      ⟨hback.depth, hback.held⟩
    · intro hrefuses
      simp [Entry.refuses, hblocks.1, hblocks.2] at hrefuses
    · simp [hblocks.1, hblocks.2, outputBlock, outputContinue]
  · next hdiffers =>
    split
    · next hrefuses =>
      have hissued : ∀ handle ∈ [record.handle], service.Issued handle := by
        intro handle hmem
        rw [List.mem_singleton.1 hmem]
        exact hwithin.booked.issued record hsubscribed
      have hdisabled := hwithin.disable hissued
      refine hgoes (dispatch.block || dispatch.event.phase = outputPre) hdisabled rfl ?_
        (hdisabled.booked.notes (fun _ => List.mem_append_left _ (by simp)) rfl (by simp)) ?_ rfl
        ⟨hback.depth, hback.held⟩
      · refine history_append (fun entry hmem => ?_) dispatch.call
        obtain ⟨handle, _, rfl⟩ := List.mem_map.1 hmem
        rfl
      · simp [hrefuses]
    · next hcontinues =>
      have hcontinues : action = some outputContinue := not_not.1 hcontinues
      refine hgoes dispatch.block hwithin rfl rfl (hwithin.booked.notes ?_ rfl (by simp)) ?_ rfl
        ⟨hback.depth, hback.held⟩
      · intro hrefuses
        simp [Entry.refuses, hcontinues] at hrefuses
      · simp [hcontinues]

theorem Within.of_same (hwithin : Within service deeper holders) {after : Outputs}
    (houtputs : after.outputs = service.outputs) (henabled : after.enabled = service.enabled)
    (hinvocations : after.invocations = service.invocations)
    (hnext : after.nextOutput = service.nextOutput) (hlog : after.log = service.log)
    (hcalls : after.calls = service.calls) (hframes : after.frames = service.frames)
    (hdepth : after.depth = service.depth)
    (hoperations : after.nativeOperations = service.nativeOperations) :
    Within after deeper holders where
  booked := hwithin.booked.of_same houtputs henabled hinvocations hnext hlog
  staged := by
    rw [hlog, hcalls, hframes]
    exact hwithin.staged
  counted := by
    rw [hframes]
    refine ⟨hdepth.trans hwithin.counted.depth, fun plugin => ?_⟩
    rw [hoperations]
    exact hwithin.counted.held plugin

theorem Within.mem_bound (hwithin : Within service deeper holders) (hmem : record ∈ service.bound) :
    .subscribed record ∈ service.log :=
  ((hwithin.booked.listed record).1 (List.mem_filter.1 hmem).1).1

theorem Within.startedWith {configuration : Configuration}
    (hwithin : Within service 1 [configuration.plugin]) (stage : Starting) (result : KeelResult) :
    Within (service.startedWith stage configuration result) 0 [] := by
  have hback : Within ({ service with starting := false }.unconfigure configuration.plugin) 0 [] :=
    Within.unconfigure (hwithin.of_same rfl rfl rfl rfl rfl rfl rfl rfl rfl)
  cases stage with
  | stopping =>
    simp only [Outputs.startedWith]
    split
    · exact hback
    · exact Within.push (.starting .starting configuration)
        (hwithin.of_same rfl rfl rfl rfl rfl rfl rfl rfl rfl) rfl trivial
  | starting =>
    simp only [Outputs.startedWith]
    split
    · have hstarted : Within { service with started := true, starting := false } 1
          [configuration.plugin] := hwithin.of_same rfl rfl rfl rfl rfl rfl rfl rfl rfl
      exact @Within.prune _ (.configuring configuration) hstarted trivial service.bound
        fun record hmem => hwithin.mem_bound hmem
    split
    · exact Within.push (.starting .abandoning configuration) hwithin rfl trivial
    · exact hback
  | abandoning =>
    simp only [Outputs.startedWith]
    split
    · exact hback.of_same rfl rfl rfl rfl rfl rfl rfl rfl rfl
    · exact hback

theorem Within.go (hwithin : Within service 0 []) (answer : Answer) :
    Within (service.go answer) 0 [] := by
  unfold Outputs.go
  cases hframes : service.frames with
  | nil => exact hwithin
  | cons frame frames =>
    cases frame with
    | pruning purpose asked remaining =>
      have hstands := hwithin.staged.stands (.pruning purpose asked remaining) (by simp [hframes])
      obtain ⟨hproper, hknown⟩ := hstands
      have hbelow : Within { service with frames := frames } 1 purpose.taken := by
        have hpopped := hwithin.pop hframes rfl
        cases purpose <;> exact hpopped
      have hissued : ∀ handle ∈ [asked.handle], service.Issued handle := by
        intro handle hmem
        rw [List.mem_singleton.1 hmem]
        exact hwithin.booked.issued asked (hknown asked mem_cons_self)
      have hremaining : ∀ record ∈ remaining, Entry.subscribed record ∈ service.log :=
        fun record hmem => hknown record (mem_cons_of_mem _ hmem)
      simp only
      split
      · exact (hbelow.disable hissued).prune hproper fun record hmem =>
          List.mem_append_right _ (hremaining record hmem)
      · exact hbelow.prune hproper hremaining
    | turning dispatch => exact hwithin.turn hframes
    | calling dispatch record => exact hwithin.answered hframes answer.action
    | starting stage configuration =>
      exact Within.startedWith (hwithin.pop hframes rfl) stage answer.result
    | validating configuration => exact Within.validated (hwithin.pop hframes rfl) answer
    | halting =>
      simp only
      split
      · exact (hwithin.pop hframes rfl).of_same rfl rfl rfl rfl rfl rfl rfl rfl rfl
      · exact hwithin.pop hframes rfl
    | operating plugin =>
      have hbelow := hwithin.pop hframes rfl
      have hback : Counted ({ service with frames := frames }.unhold plugin) 0 [] frames :=
        Counted.unhold ⟨hbelow.counted.depth, hbelow.counted.held⟩
      exact ⟨hbelow.booked.of_same rfl rfl rfl rfl rfl, hbelow.staged, hback⟩

/-! ## Acts -/

section

variable (hwithin : Within service 0 [])

include hwithin

theorem Within.deepen : Within service.deepen 1 [] where
  booked := hwithin.booked.of_same rfl rfl rfl rfl rfl
  staged := hwithin.staged
  counted := hwithin.counted.deepen

theorem Within.refuse (token : Nat) :
    Within (service.tell (.refused token)) 0 [] where
  booked := hwithin.booked.notes trivial rfl (by simp)
  staged := hwithin.staged.tells rfl
  counted := ⟨hwithin.counted.depth, hwithin.counted.held⟩

theorem Within.dispatch (event : OutputEvent) (token : Nat) (gameThread : Bool) :
    Within (service.dispatch event token gameThread) 0 [] := by
  have hdeeper := hwithin.deepen
  unfold Outputs.dispatch
  split
  · exact hwithin
  split
  · split
    · exact hwithin.refuse token
    · exact hwithin
  split
  · next hphase =>
    split
    · exact hwithin.refuse token
    split
    · refine Within.freeze (hdeeper.disable fun handle hmem => ?_) hphase token
      obtain ⟨record, hrecord, rfl⟩ := List.mem_map.1 hmem
      exact hwithin.booked.issued record (hwithin.mem_bound (List.mem_filter.1 hrecord).1)
    · exact @Within.prune service.deepen (.dispatching event token) hdeeper hphase service.bound
        fun record hmem => hwithin.mem_bound hmem
  · split
    · next hphase =>
      split
      · exact hwithin
      · next hkept => exact hdeeper.enter hphase hkept
    · exact hwithin

theorem Within.configure (configuration : Configuration) (gameThread supported : Bool) :
    Within (service.configure configuration gameThread supported) 0 [] := by
  have hheld : Within (service.hold configuration.plugin).deepen 1 [configuration.plugin] :=
    ⟨hwithin.booked.of_same rfl rfl rfl rfl rfl, hwithin.staged, (hwithin.counted.hold _).deepen⟩
  unfold Outputs.configure
  simp only
  split
  · exact hwithin
  split
  · exact hwithin
  split
  · exact hheld.unconfigure
  split
  · exact Within.push (.starting .stopping configuration)
      (hheld.of_same rfl rfl rfl rfl rfl rfl rfl rfl rfl) rfl trivial
  · exact Within.push (.starting .starting configuration)
      (hheld.of_same rfl rfl rfl rfl rfl rfl rfl rfl rfl) rfl trivial

theorem Within.stop (supported : Bool) : Within (service.stopOutputs supported) 0 [] := by
  have hstopping : Within { service with stopping := true } 0 [] :=
    hwithin.of_same rfl rfl rfl rfl rfl rfl rfl rfl rfl
  have hsilent : Within ({ service with stopping := true }.disable
      (service.outputs.map OutputRecord.handle)) 0 [] := by
    refine hstopping.disable fun handle hmem => ?_
    obtain ⟨record, hrecord, rfl⟩ := List.mem_map.1 hmem
    exact hwithin.booked.issued_of_mem hrecord
  unfold Outputs.stopOutputs
  simp only
  split
  · exact hsilent
  split
  · exact Within.push .halting hsilent rfl trivial
  · exact hsilent

theorem step_within (act : Act) : Within (service.step act)
    0 [] := by
  cases act with
  | dispatch event token gameThread =>
    simp only [step]
    split
    · exact hwithin.dispatch event token gameThread
    · exact hwithin
  | drop token =>
    simp only [step]
    split
    · exact ⟨hwithin.booked.drops token, hwithin.staged.tells rfl, hwithin.counted.depth,
        hwithin.counted.held⟩
    · exact hwithin
  | subscribe plugin spec captured gameThread supported =>
    simp only [step]
    split
    · exact hwithin.configure _ gameThread supported
    · exact hwithin
  | prepare plugin gameThread supported =>
    simp only [step]
    split
    · exact hwithin.configure _ gameThread supported
    · exact hwithin
  | unsubscribe plugin handle gameThread =>
    simp only [step]
    split
    · unfold Outputs.unsubscribe
      split
      · exact hwithin
      split
      · next hlisted =>
        obtain ⟨record, hmem, hsame⟩ := List.any_eq_true.1 hlisted
        refine hwithin.disable fun other hother => ?_
        rw [List.mem_singleton.1 hother]
        have hhandle : record.handle = handle := by
          simp only [Bool.and_eq_true, decide_eq_true_eq] at hsame
          exact hsame.1
        exact hhandle ▸ hwithin.booked.issued_of_mem hmem
      · exact hwithin
    · exact hwithin
  | releaseOutputs plugin =>
    simp only [step]
    split
    · refine hwithin.disable fun handle hmem => ?_
      obtain ⟨record, hrecord, rfl⟩ := List.mem_map.1 hmem
      exact hwithin.booked.issued_of_mem (List.mem_filter.1 hrecord).1
    · exact hwithin
  | stop supported =>
    simp only [step]
    split
    · exact hwithin.stop supported
    · exact hwithin
  | go answer => exact hwithin.go answer
  | own plugin owner => exact hwithin.of_same rfl rfl rfl rfl rfl rfl rfl rfl rfl
  | operate plugin =>
    simp only [step]
    split
    · have hheld : Within (service.hold plugin) 0 [plugin] :=
        ⟨hwithin.booked.of_same rfl rfl rfl rfl rfl, hwithin.staged, hwithin.counted.hold plugin⟩
      exact Within.push (.operating plugin) hheld rfl trivial
    · exact hwithin

end

theorem initial_within : Within initial 0 [] where
  booked := by
    refine ⟨by decide, fun record hmem => ?_, fun handle hmem => ?_, List.nodup_nil,
      fun record other hmem => ?_, fun _ => ?_, fun handle => ?_,
      fun call event token callbacks hmem => ?_, fun token => rfl, trivial⟩
    · cases hmem
    · cases hmem
    · cases hmem
    · exact iff_of_false (by simp [initial]) fun hstands => by cases hstands.1
    · simp [initial]
    · cases hmem
  staged := by
    refine ⟨fun entry hmem => ?_, fun entry hmem => ?_, fun frame hmem => ?_, List.nodup_nil,
      fun frame hmem => ?_, fun call event token callbacks hmem => ?_, fun call blocked hmem => ?_⟩
    · cases hmem
    · cases hmem
    · cases hmem
    · cases hmem
    · cases hmem
    · cases hmem
  counted := ⟨rfl, fun _ => rfl⟩

theorem run_within (acts : List Act) : Within (run step initial acts) 0 [] := by
  have hstep : ∀ (service : Outputs) (act : Act), Within service 0 [] →
      Within (service.step act) 0 [] := fun _ act hwithin => step_within hwithin act
  exact Lib.run_invariant hstep initial_within acts

/-! ## The law of output events -/

theorem blocks_iff {answers : List (OutputRecord × Option Nat)} :
    blocks event answers = true ↔ event.phase = outputPre ∧
      ∃ answer ∈ answers, answer.2 ≠ some outputContinue := by
  unfold blocks
  rw [Bool.and_eq_true, decide_eq_true_eq, List.any_eq_true]
  simp only [decide_eq_true_eq]

theorem Within.course (hwithin : Within service 0 []) {callbacks : List OutputRecord}
    (hentered : .entered call event token callbacks ∈ service.log) :
    turns (history call service.log) <+: callbacks ∧
      ∀ blocked, .returned call blocked ∈ service.log →
        turns (history call service.log) = callbacks ∧
        (answers (history call service.log)).map Prod.fst = invoked (history call service.log) ∧
        (blocked = true ↔ event.phase = outputPre ∧
          ∃ answer ∈ answers (history call service.log), answer.2 ≠ some outputContinue) := by
  have hbegins := mem_begins hentered
  have hover : ∀ blocked, .returned call blocked ∈ service.log →
      turns (history call service.log) = callbacks ∧
      (answers (history call service.log)).map Prod.fst = invoked (history call service.log) ∧
      (blocked = true ↔ event.phase = outputPre ∧
        ∃ answer ∈ answers (history call service.log), answer.2 ≠ some outputContinue) := by
    intro blocked hreturned
    obtain ⟨⟨other, hbegun, hblocked⟩, hanswered⟩ := hwithin.staged.isOver call blocked hreturned
    rw [hbegun, mem_singleton, Prod.mk.injEq] at hbegins
    obtain ⟨rfl, rfl⟩ := hbegins
    refine ⟨rfl, hanswered, ?_⟩
    rw [hblocked]
    exact blocks_iff
  have hunderway : ∀ {dispatch : Dispatch} {calling : Option OutputRecord}, dispatch.call = call →
      Underway (history dispatch.call service.log) dispatch calling →
      turns (history call service.log) <+: callbacks := by
    rintro dispatch calling rfl ⟨⟨found, hbegun, hturns⟩, _⟩
    rw [hbegun, mem_singleton, Prod.mk.injEq] at hbegins
    exact ⟨dispatch.remaining, hturns.trans hbegins.2.symm⟩
  refine ⟨?_, hover⟩
  rcases hwithin.staged.finished call event token callbacks hentered with
    ⟨blocked, hreturned⟩ | hframe
  · exact (hover blocked hreturned).1 ▸ List.prefix_rfl
  · obtain ⟨frame, hmem, hcall⟩ := hframe
    have hstands := hwithin.staged.stands frame hmem
    cases frame with
    | turning dispatch => exact hunderway (Option.some.inj hcall) hstands
    | calling dispatch record => exact hunderway (Option.some.inj hcall) hstands.1
    | _ => cases hcall

/-- What disables a subscription. -/
def Silences (handle : KeelEntityOutputHandle) : Entry → Prop
  | .disabled other => other = handle
  | .answered _ event record action => record.handle = handle ∧ Entry.refuses event action = true
  | _ => False

theorem Within.silent (hwithin : Within service 0 []) {later earlier : List Entry}
    {handle : KeelEntityOutputHandle} (hlog : service.log = later ++ entry :: earlier)
    (hsilences : Silences handle entry) (hhandle : record.handle = handle) (inService : Bool) :
    .turn call event record true inService ∉ later := by
  intro hmem
  have hdisabled : .disabled handle ∈ entry :: earlier := by
    have hlaw : law entry earlier := by
      have hlawful := hwithin.booked.lawful
      rw [hlog] at hlawful
      exact hlawful.at
    cases entry with
    | disabled other =>
      rw [show other = handle from hsilences]
      exact mem_cons_self
    | answered call event record action =>
      exact mem_cons_of_mem _ (hsilences.1 ▸ hlaw hsilences.2)
    | _ => exact hsilences.elim
  obtain ⟨after, between, hlater⟩ := List.append_of_mem hmem
  have hlaw : law (.turn call event record true inService) (between ++ entry :: earlier) := by
    have hlawful := hwithin.booked.lawful
    rw [hlog, hlater, List.append_assoc, List.cons_append] at hlawful
    exact hlawful.at
  exact hlaw.1 rfl (List.mem_append_right _ (hhandle.symm ▸ hdisabled))

/-- A PRE is blocked with nobody asked where it comes too deep, its token is in use, or too many
are. -/
theorem Within.refused_iff (hwithin : Within service 0 []) (event : OutputEvent) (token : Nat) :
    (service.dispatch event token true).log = .refused token :: service.log ↔
      token ≠ 0 ∧ event.sized = true ∧ service.stopping = false ∧ event.phase = outputPre ∧
        (outputMaxDepth ≤ service.depth ∨ (frozen token service.log).isSome = true ∨
          outputMaxInvocations ≤ service.invocations.length) := by
  have hstays : service.log ≠ .refused token :: service.log := (List.cons_ne_self _ _).symm
  have hfreezes : ∀ (deeper : Outputs),
    (deeper.freeze event token).log ≠ .refused token :: service.log := by
    intro deeper hsame
    cases (List.cons.inj hsame).1
  unfold Outputs.dispatch
  rw [← hwithin.booked.kept token]
  split
  · next hturned =>
    refine iff_of_false hstays ?_
    rintro ⟨htoken, hsized, hstopping, _⟩
    simp [htoken, hsized, hstopping] at hturned
  · next htaken =>
    simp only [not_or, Bool.not_eq_true', Bool.not_true, Bool.false_eq_true, not_false_eq_true,
      and_true, Bool.not_eq_true, Bool.not_eq_false] at htaken
    obtain ⟨htoken, hsized, hstopping⟩ := htaken
    split
    · next hdeep =>
      split
      · next hphase => exact iff_of_true rfl ⟨htoken, hsized, hstopping, hphase, .inl hdeep⟩
      · next hphase => exact iff_of_false hstays fun hall => hphase hall.2.2.2.1
    · next hshallow =>
      split
      · next hphase =>
        split
        · next hused => exact iff_of_true rfl ⟨htoken, hsized, hstopping, hphase, .inr hused⟩
        · next hfree =>
          have hopen : ¬(outputMaxDepth ≤ service.depth ∨ (service.invocation token).isSome = true ∨
              outputMaxInvocations ≤ service.invocations.length) := not_or.2 ⟨hshallow, hfree⟩
          split
          · exact iff_of_false (hfreezes _) fun hall => hopen hall.2.2.2.2
          · refine iff_of_false ?_ fun hall => hopen hall.2.2.2.2
            cases hbound : service.bound with
            | nil => exact hfreezes _
            | cons asked remaining => exact hstays
      · next hphase =>
        refine iff_of_false ?_ fun hall => hphase hall.2.2.2.1
        split
        · split
          · exact hstays
          · intro hsame
            cases (List.cons.inj hsame).1
        · exact hstays

/-- For every run: whom an event asks is found at its PRE, in order, and its POST has them the other
way round; each has one turn, and is called in it if its subscription is not disabled by then, is to
the phase, and its plugin may be called; a PRE that is taken blocks just when a callback that was
called says so, and one is not taken where it comes too deep, its token is in use, or too many are;
a subscription that is disabled is not called again; and the counters are those of what is under
way. -/
theorem output_events (acts : List Act) :
    let service := run step initial acts
    (∀ later call event token callbacks earlier,
      service.log = later ++ .entered call event token callbacks :: earlier →
        (event.phase = outputPre ∧ callbacks.Pairwise OutputRecord.Before ∧
          ∀ record, record ∈ callbacks ↔
            Standing earlier record ∧ record.matchesEvent event = true) ∨
        event.phase = outputPost ∧ frozen token earlier = some callbacks.reverse) ∧
    (∀ call event token callbacks, .entered call event token callbacks ∈ service.log →
      turns (history call service.log) <+: callbacks ∧
      ∀ blocked, .returned call blocked ∈ service.log →
        turns (history call service.log) = callbacks ∧
        (answers (history call service.log)).map Prod.fst = invoked (history call service.log) ∧
        (blocked = true ↔ event.phase = outputPre ∧
          ∃ answer ∈ answers (history call service.log), answer.2 ≠ some outputContinue)) ∧
    (∀ event token, (service.dispatch event token true).log = .refused token :: service.log ↔
      token ≠ 0 ∧ event.sized = true ∧ service.stopping = false ∧ event.phase = outputPre ∧
        (outputMaxDepth ≤ service.depth ∨ (frozen token service.log).isSome = true ∨
          outputMaxInvocations ≤ service.invocations.length)) ∧
    (∀ later call event record enabled inService earlier,
      service.log = later ++ .turn call event record enabled inService :: earlier →
        (enabled = true ↔ .disabled record.handle ∉ earlier)) ∧
    (∀ later entry earlier handle, service.log = later ++ entry :: earlier →
      Silences handle entry → ∀ call event record inService, record.handle = handle →
        .turn call event record true inService ∉ later) ∧
    (∀ plugin handle, service.outside = true → plugin ≠ 0 → handle ≠ 0 →
      (∃ record ∈ service.outputs, record.handle = handle ∧ record.owner = plugin) →
        .disabled handle ∈ (service.step (.unsubscribe plugin handle true)).log) ∧
    (∀ plugin, service.outside = true → ∀ record ∈ service.outputs, record.owner = plugin →
      .disabled record.handle ∈ (service.step (.releaseOutputs plugin)).log) ∧
    service.depth = service.frames.countP Frame.deepens ∧
    (∀ plugin, service.nativeOperations plugin = service.frames.countP (Frame.holds plugin)) ∧
    ∀ more, (run step service more).frames = service.frames →
      (run step service more).depth = service.depth ∧
        (run step service more).nativeOperations = service.nativeOperations := by
  intro service
  have hwithin : Within service 0 [] := run_within acts
  have hcounted : service.depth = service.frames.countP Frame.deepens ∧
      ∀ plugin, service.nativeOperations plugin = service.frames.countP (Frame.holds plugin) := by
    refine ⟨hwithin.counted.depth.trans (Nat.zero_add _), fun plugin => ?_⟩
    exact (hwithin.counted.held plugin).trans (Nat.zero_add _)
  refine ⟨fun later call event token callbacks earlier hlog => ?_,
    fun call event token callbacks hentered => hwithin.course hentered,
    fun event token => hwithin.refused_iff event token,
      fun later call event record enabled inService earlier hlog => ?_,
    fun later entry earlier handle hlog hsilences call event record inService hhandle =>
      hwithin.silent hlog hsilences hhandle inService,
    fun plugin handle houtside hplugin hhandle hlisted => ?_,
    fun plugin houtside record hmem howner => ?_, hcounted.1, hcounted.2, fun more hframes => ?_⟩
  · have hlawful := hwithin.booked.lawful
    rw [hlog] at hlawful
    exact hlawful.at
  · have hlawful := hwithin.booked.lawful
    rw [hlog] at hlawful
    exact hlawful.at
  · obtain ⟨record, hmem, hsame, howner⟩ := hlisted
    have hany : (service.outputs.any fun record =>
        record.handle = handle && record.owner = plugin) = true :=
      List.any_eq_true.2 ⟨record, hmem, by simp [hsame, howner]⟩
    simp only [step, houtside, if_true, Outputs.unsubscribe]
    rw [if_neg (by simp [hplugin, hhandle]), if_pos hany]
    exact List.mem_append_left _ (by simp)
  · simp only [step, houtside, if_true, Outputs.releaseOutputs]
    refine List.mem_append_left _ (List.mem_map_of_mem (List.mem_map_of_mem ?_))
    exact List.mem_filter.2 ⟨hmem, by simpa using howner⟩
  · have hlater : Within (run step service more) 0 [] := by
      have hstep : ∀ (service : Outputs) (act : Act), Within service 0 [] →
          Within (service.step act) 0 [] := fun _ act hwithin => step_within hwithin act
      exact Lib.run_invariant hstep hwithin more
    refine ⟨?_, funext fun plugin => ?_⟩
    · rw [hlater.counted.depth, hwithin.counted.depth, hframes]
    · rw [hlater.counted.held plugin, hwithin.counted.held plugin, hframes]

def firing (phase : Nat) : OutputEvent := ⟨true, phase, ⟨1, 1, 1⟩, ['a'], ['b']⟩

def done : Answer := ⟨.ok, some outputContinue, none⟩

/-- A second PRE of a token. -/
def firedTwice : List Act :=
  [.dispatch (firing outputPre) 1 true, .go done, .dispatch (firing outputPre) 1 true]

theorem refused_unasked : ¬∀ acts token, .refused token ∈ (run step initial acts).log →
    ∃ call event record action, .answered call event record action ∈ (run step initial acts).log ∧
      action ≠ some outputContinue := by
  intro hasked
  have hlog : (run step initial firedTwice).log =
      [.refused 1, .returned 0 false, .entered 0 (firing outputPre) 1 []] := by decide +kernel
  obtain ⟨call, event, record, action, hmem, _⟩ := hasked firedTwice 1 (by simp [hlog])
  simp [hlog] at hmem

/-- A plugin that subscribes, and blocks an output. -/
def blockedOnce : List Act :=
  [.own 1 ⟨true, true, true, false, false⟩,
    .subscribe 1 ⟨sizeofOutputSpec, outputBoth, 0, 0, 0, none, none, some 1, 0⟩ none true true,
    .go done, .dispatch (firing outputPre) 1 true, .go done,
    .go { done with action := some outputBlock },
    .go done, .dispatch (firing outputPost) 1 true, .go done, .go done, .go done]

theorem blockedOnce_law :
    .returned 0 true ∈ (run step initial blockedOnce).log ∧
      ∃ answer ∈ answers (history 0 (run step initial blockedOnce).log),
        answer.2 ≠ some outputContinue := by
  have hentered : .entered 0 (firing outputPre) 1 [⟨1, 1, outputBoth, 0, ⟨0, 0, 0⟩, [], [], 1, 0⟩] ∈
      (run step initial blockedOnce).log := by decide +kernel
  have hreturned : .returned 0 true ∈ (run step initial blockedOnce).log := by decide +kernel
  obtain ⟨_, hcourse, _⟩ := output_events blockedOnce
  obtain ⟨_, hover⟩ := hcourse 0 _ 1 _ hentered
  exact ⟨hreturned, ((hover true hreturned).2.2.1 rfl).2⟩

end Outputs
end KeelS2.Entities
