import KeelS2.Adapter.ConVarObservers

/-!
# What observers of console variables are told

Three invariants carry the law. `Listed` is what the list of observers, its counter and the engine's
callback have to do with the entries. `Guarded` ties the two other counters to the threads: an entry
that was retired is held by none, and one that was freed is not in anybody's hands. `Told` is the
history. Each step keeps them (`Consistent.step`).
-/

namespace KeelS2.Adapter.Observers

open Lib
open Function (update update_of_ne update_self)

variable {Value : Type}

def Standing.ended : Standing → Bool
  | retired | freed => true
  | missing | live | releasing => false

theorem Standing.not_over {standing : Standing} (halive : standing.alive = true) :
    standing.ended = false := by
  cases standing with
  | live | releasing => rfl
  | missing | retired | freed => cases halive

namespace Frame

def notifies : Frame → Bool
  | entered _ _ | selected _ | holding _ _ | running _ _ | waking _ _ => true
  | releasing _ | waiting _ | stopping => false

def holds (handle : Nat) : Frame → Bool
  | holding other _ | running other _ => other == handle
  | _ => false

def runs (handle : Nat) : Frame → Bool
  | running other _ => other == handle
  | _ => false

def handles : Frame → List Nat
  | selected handles => handles
  | holding handle rest | running handle rest | waking handle rest => handle :: rest
  | entered _ _ | releasing _ | waiting _ | stopping => []

/-- Others are called on top of it. -/
def calls : Frame → Bool
  | running _ _ | stopping => true
  | _ => false

/-- What a frame relies on. -/
def Fits (main thread : Thread) (entries : Nat → ConVarEntry Value) : Frame → Prop
  | releasing handle => thread = main ∧ (entries handle).standing = .releasing
  | waiting handle => thread = main ∧ (entries handle).standing = .releasing ∧
      (entries handle).observer = none
  | running _ _ | stopping => thread = main
  | entered _ _ | selected _ | holding _ _ | waking _ _ => True

end Frame

structure Listed (state : ConVarObservers Value) : Prop where
  nodup : state.convarObservers.Nodup
  counted : state.observerCount = state.convarObservers.length
  installed : state.installed = true ↔ 0 < state.observerCount
  attached : 0 < state.observerCount → state.cvar = true
  listed : ∀ handle, handle ∈ state.convarObservers ↔ (state.entries handle).observer.isSome = true

/-- An entry has an observer, or a thread that holds it. -/
def ConVarEntry.used (entry : ConVarEntry Value) : Prop :=
  entry.observer.isSome = true ∨ 0 < entry.providerActive

structure Guarded (main : Thread) (state : ConVarObservers Value) : Prop where
  notifying : Counts (fun thread => (state.callStacks thread).countP Frame.notifies)
    state.globalObserversActive
  provided : ∀ handle, Counts
    (fun thread => (state.callStacks thread).countP (Frame.holds handle))
      (state.entries handle).providerActive
  alive : ∀ handle, (state.entries handle).used → (state.entries handle).standing.alive = true
  keyed : ∀ handle, (state.entries handle).standing.alive = true → handle ∈ state.convars
  fits : ∀ thread, ∀ frame ∈ state.callStacks thread, frame.Fits main thread state.entries
  known : ∀ thread, ∀ frame ∈ state.callStacks thread, ∀ handle ∈ frame.handles,
    (state.entries handle).standing ≠ .freed
  below : ∀ thread, ∀ frame ∈ (state.callStacks thread).tail, frame.calls = true
  retired : ∀ handle ∈ state.retiredConvars, (state.entries handle).standing = .retired

structure Told (main : Thread) (state : ConVarObservers Value) : Prop where
  last : ∀ handle, lastCurrent handle state.history = (state.entries handle).observed
  seen : ∀ handle, (state.entries handle).used → (state.entries handle).observed.isSome = true
  unseen : ∀ handle, (state.entries handle).standing = .missing →
    (state.entries handle).observed = none
  underWay : ∀ handle, underWay handle state.history =
    ((state.callStacks main).countP (Frame.runs handle) : Nat)
  ended : ∀ handle, .released handle ∈ state.history →
    (state.entries handle).standing.ended = true
  dead : ∀ handle, .freed handle ∈ state.history → (state.entries handle).standing = .freed
  lawful : Lawful observerLaw state.history

structure Consistent (main : Thread) (state : ConVarObservers Value) : Prop where
  listed : Listed state
  guarded : Guarded main state
  told : Told main state

theorem consistent_initial (main : Thread) :
    Consistent main (.initial : ConVarObservers Value) where
  listed := {
    nodup := List.nodup_nil
    counted := rfl
    installed := by simp [ConVarObservers.initial]
    attached := fun h => by cases h
    listed := fun handle => by simp [ConVarObservers.initial] }
  guarded := {
    notifying := counts_zero
    provided := fun handle => counts_zero
    alive := fun handle hused => by simp [ConVarObservers.initial, ConVarEntry.used] at hused
    keyed := fun handle halive => by cases halive
    fits := fun thread frame hmem => by cases hmem
    known := fun thread frame hmem => by cases hmem
    below := fun thread frame hmem => by cases hmem
    retired := fun handle hmem => by cases hmem }
  told := {
    last := fun handle => rfl
    seen := fun handle hused => by simp [ConVarObservers.initial, ConVarEntry.used] at hused
    unseen := fun handle _ => rfl
    underWay := fun handle => rfl
    ended := fun handle hmem => by cases hmem
    dead := fun handle hmem => by cases hmem
    lawful := trivial }

section Moves

variable {main thread : Thread} {state after : ConVarObservers Value}
variable {olds tops frames : List Frame} {frame : Frame} {handle : Nat}

/-! ## The stacks -/

variable (olds tops) in
/-- Who stands somewhere now, stood there before or has just come. -/
theorem mem_stack {other : Thread}
    (hcallStacks : after.callStacks = update state.callStacks thread (tops ++ frames))
    (hstack : state.callStacks thread = olds ++ frames) (hmem : frame ∈ after.callStacks other) :
    other = thread ∧ frame ∈ tops ∨
      frame ∈ state.callStacks other ∧ (other = thread → frame ∈ frames) := by
  rw [hcallStacks] at hmem
  by_cases hother : other = thread
  · subst hother
    rw [update_self] at hmem
    rcases List.mem_append.1 hmem with hmem | hmem
    · exact Or.inl ⟨rfl, hmem⟩
    · exact Or.inr ⟨hstack ▸ List.mem_append_right _ hmem, fun _ => hmem⟩
  · rw [update_of_ne hother] at hmem
    exact Or.inr ⟨hmem, fun h => absurd h hother⟩

variable (olds tops) in
theorem Guarded.move (hguarded : Guarded main state)
    (hstack : state.callStacks thread = olds ++ frames)
    (hcallStacks : after.callStacks = update state.callStacks thread (tops ++ frames))
    (hnotifying : after.globalObserversActive + olds.countP Frame.notifies =
      state.globalObserversActive + tops.countP Frame.notifies)
    (hprovided : ∀ handle, (after.entries handle).providerActive + olds.countP (Frame.holds handle)
      = (state.entries handle).providerActive + tops.countP (Frame.holds handle))
    (halive : ∀ handle, (after.entries handle).used →
      (after.entries handle).standing.alive = true)
    (hkeyed : ∀ handle, (after.entries handle).standing.alive = true → handle ∈ after.convars)
    (hkept : ∀ other, ∀ frame ∈ state.callStacks other, (other = thread → frame ∈ frames) →
      frame.Fits main other state.entries → frame.Fits main other after.entries)
    (hknown : ∀ handle, (state.entries handle).standing ≠ .freed →
      (after.entries handle).standing ≠ .freed)
    (htops : ∀ frame ∈ tops, frame.Fits main thread after.entries ∧
      ∀ handle ∈ frame.handles, (state.entries handle).standing ≠ .freed)
    (hbelow : ∀ frame ∈ (tops ++ frames).tail, frame.calls = true)
    (hretired : ∀ handle ∈ after.retiredConvars, (after.entries handle).standing = .retired) :
    Guarded main after where
  notifying := by
    rw [hcallStacks]
    refine hguarded.notifying.stack ?_
    rw [hstack, List.countP_append, List.countP_append]
    omega
  provided := fun handle => by
    rw [hcallStacks]
    refine (hguarded.provided handle).stack ?_
    have hmoved := hprovided handle
    rw [hstack, List.countP_append, List.countP_append]
    omega
  alive := halive
  keyed := hkeyed
  fits := fun other frame hmem => by
    rcases mem_stack olds tops hcallStacks hstack hmem with ⟨rfl, htop⟩ | ⟨hold, hframes⟩
    · exact (htops frame htop).1
    · exact hkept other frame hold hframes (hguarded.fits other frame hold)
  known := fun other frame hmem handle hhandle => by
    rcases mem_stack olds tops hcallStacks hstack hmem with ⟨rfl, htop⟩ | ⟨hold, _⟩
    · exact hknown handle ((htops frame htop).2 handle hhandle)
    · exact hknown handle (hguarded.known other frame hold handle hhandle)
  below := fun other frame hmem => by
    rw [hcallStacks] at hmem
    by_cases hother : other = thread
    · subst hother
      rw [update_self] at hmem
      exact hbelow frame hmem
    · rw [update_of_ne hother] at hmem
      exact hguarded.below other frame hmem
  retired := hretired

theorem Frame.Fits.congr {entries entries' : Nat → ConVarEntry Value}
    (hstanding : ∀ handle, (entries' handle).standing = (entries handle).standing)
    (hobserver : ∀ handle, (entries handle).observer = none → (entries' handle).observer = none)
    (hfits : frame.Fits main thread entries) : frame.Fits main thread entries' := by
  cases frame with
  | releasing handle => exact ⟨hfits.1, (hstanding handle).trans hfits.2⟩
  | waiting handle =>
    exact ⟨hfits.1, (hstanding handle).trans hfits.2.1, hobserver handle hfits.2.2⟩
  | _ => exact hfits

theorem Frame.Fits.others {entries entries' : Nat → ConVarEntry Value}
    (hfits : frame.Fits main thread entries) (hcalls : thread = main → frame.calls = true) :
    frame.Fits main thread entries' := by
  cases frame with
  | releasing handle => exact absurd (hcalls hfits.1) Bool.false_ne_true
  | waiting handle => exact absurd (hcalls hfits.1) Bool.false_ne_true
  | _ => exact hfits

theorem Guarded.tail_calls (hguarded : Guarded main state)
    (hstack : state.callStacks thread = frame :: frames) :
    ∀ other ∈ frames, other.calls = true := by
  intro other hmem
  have hbelow := hguarded.below thread
  rw [hstack] at hbelow
  exact hbelow other hmem

theorem Guarded.mayCall (hguarded : Guarded main state) (hmay : state.mayCall thread = true) :
    ∀ other ∈ state.callStacks thread, other.calls = true := by
  unfold ConVarObservers.mayCall at hmay
  split at hmay
  · rename_i hstack
    rw [hstack]
    exact fun other hmem => by cases hmem
  · rename_i handle rest frames hstack
    rw [hstack]
    intro other hmem
    rcases List.mem_cons.1 hmem with rfl | hmem
    · rfl
    · exact hguarded.tail_calls hstack other hmem
  · cases hmay

/-! ## The history -/

/-- Events that say nothing of a callback. -/
def Event.plain : Event Value → Bool
  | .touched _ | .freed _ => true
  | _ => false

theorem lastCurrent_append {events : List (Event Value)} (history : List (Event Value))
    (hplain : ∀ event ∈ events, event.plain = true) :
    lastCurrent handle (events ++ history) = lastCurrent handle history := by
  induction events with
  | nil => rfl
  | cons event rest ih =>
    have hrest := ih fun other hmem => hplain other (List.mem_cons_of_mem _ hmem)
    cases event with
    | touched | freed => exact hrest
    | _ => exact absurd (hplain _ List.mem_cons_self) Bool.false_ne_true

theorem underWay_append {events : List (Event Value)} (history : List (Event Value))
    (hplain : ∀ event ∈ events, event.plain = true) :
    underWay handle (events ++ history) = underWay handle history := by
  induction events with
  | nil => rfl
  | cons event rest ih =>
    have hrest := ih fun other hmem => hplain other (List.mem_cons_of_mem _ hmem)
    cases event with
    | touched | freed => exact hrest
    | _ => exact absurd (hplain _ List.mem_cons_self) Bool.false_ne_true

theorem plain_touched (handles : List Nat) :
    ∀ event ∈ handles.map (Event.touched : Nat → Event Value), event.plain = true := by
  intro event hmem
  obtain ⟨handle, _, rfl⟩ := List.mem_map.1 hmem
  rfl

theorem plain_freed (handles : List Nat) :
    ∀ event ∈ handles.map (Event.freed : Nat → Event Value), event.plain = true := by
  intro event hmem
  obtain ⟨handle, _, rfl⟩ := List.mem_map.1 hmem
  rfl

theorem mem_of_touched {event : Event Value} {handles : List Nat} {history : List (Event Value)}
    (hother : ∀ handle, event ≠ .touched handle)
    (hmem : event ∈ handles.map .touched ++ history) : event ∈ history := by
  refine (List.mem_append.1 hmem).resolve_left fun hmem => ?_
  obtain ⟨handle, _, heq⟩ := List.mem_map.1 hmem
  exact hother handle heq.symm

theorem mem_of_cons_touched {event first : Event Value} {history : List (Event Value)}
    (htouched : ∀ handle, event ≠ .touched handle) (hfirst : event ≠ first)
    (hmem : event ∈ first :: .touched handle :: history) : event ∈ history :=
  @mem_of_touched _ _ [handle] _ htouched ((List.mem_cons.1 hmem).resolve_left hfirst)

/-- Entries that were not freed may be used. -/
theorem lawful_touched {handles : List Nat} {history : List (Event Value)}
    (hlawful : Lawful observerLaw history)
    (hhandles : ∀ handle ∈ handles, .freed handle ∉ history) :
    Lawful observerLaw (handles.map .touched ++ history) := by
  induction handles with
  | nil => exact hlawful
  | cons first rest ih =>
    refine ⟨fun hmem => ?_, ih fun handle hmem => hhandles handle (List.mem_cons_of_mem _ hmem)⟩
    exact hhandles first List.mem_cons_self
      (mem_of_touched (fun handle heq => by cases heq) hmem)

/-- An entry goes on from where it is. -/
structure Standing.Advances (standing next : Standing) : Prop where
  ended : standing.ended = true → next.ended = true
  freed : standing = .freed → next = .freed
  missing : next = .missing → standing = .missing

theorem Standing.Advances.refl (standing : Standing) : standing.Advances standing :=
  ⟨id, id, id⟩

theorem Told.move (htold : Told main state) (handles : List Nat)
    (hhandles : ∀ handle ∈ handles, (state.entries handle).standing ≠ .freed)
    (hhistory : after.history = handles.map .touched ++ state.history)
    (hobserved : ∀ handle, (after.entries handle).observed = (state.entries handle).observed)
    (hstanding : ∀ handle,
      (state.entries handle).standing.Advances (after.entries handle).standing)
    (hused : ∀ handle, (after.entries handle).used → (state.entries handle).used)
    (hruns : ∀ handle, (after.callStacks main).countP (Frame.runs handle) =
      (state.callStacks main).countP (Frame.runs handle)) : Told main after where
  last := fun handle => by
    rw [hhistory, lastCurrent_append _ (plain_touched handles), hobserved]
    exact htold.last handle
  seen := fun handle h => by
    rw [hobserved]
    exact htold.seen handle (hused handle h)
  unseen := fun handle h => by
    rw [hobserved]
    exact htold.unseen handle ((hstanding handle).missing h)
  underWay := fun handle => by
    rw [hhistory, underWay_append _ (plain_touched handles), hruns]
    exact htold.underWay handle
  ended := fun handle hmem => by
    rw [hhistory] at hmem
    exact (hstanding handle).ended
      (htold.ended handle (mem_of_touched (fun other heq => by cases heq) hmem))
  dead := fun handle hmem => by
    rw [hhistory] at hmem
    exact (hstanding handle).freed
      (htold.dead handle (mem_of_touched (fun other heq => by cases heq) hmem))
  lawful := by
    rw [hhistory]
    exact lawful_touched htold.lawful fun handle hmem hfreed =>
      hhandles handle hmem (htold.dead handle hfreed)

variable (olds tops) in
theorem countP_runs (hstack : state.callStacks thread = olds ++ frames)
    (hcallStacks : after.callStacks = update state.callStacks thread (tops ++ frames))
    (hruns : tops.countP (Frame.runs handle) = olds.countP (Frame.runs handle)) :
    (after.callStacks main).countP (Frame.runs handle) =
      (state.callStacks main).countP (Frame.runs handle) := by
  rw [hcallStacks]
  by_cases hmain : main = thread
  · subst hmain
    rw [update_self, hstack, List.countP_append, List.countP_append, hruns]
  · rw [update_of_ne hmain]

theorem Listed.congr (hlisted : Listed state)
    (hobservers : after.convarObservers = state.convarObservers)
    (hcount : after.observerCount = state.observerCount)
    (hinstalled : after.installed = state.installed)
    (hcvar : state.cvar = true → after.cvar = true)
    (hobserver : ∀ handle, (after.entries handle).observer.isSome =
      (state.entries handle).observer.isSome) : Listed after where
  nodup := hobservers ▸ hlisted.nodup
  counted := by rw [hobservers, hcount, hlisted.counted]
  installed := by rw [hinstalled, hcount, hlisted.installed]
  attached := fun h => hcvar (hlisted.attached (hcount ▸ h))
  listed := fun handle => by rw [hobservers, hobserver, hlisted.listed]

/-! ## Steps that leave the entries -/

variable (olds tops) in
section

variable (hconsistent : Consistent main state)

include hconsistent

theorem Consistent.goesOn (handles : List Nat)
    (hhandles : ∀ handle ∈ handles, (state.entries handle).standing ≠ .freed)
    (hstack : state.callStacks thread = olds ++ frames)
    (hnotifies : tops.countP Frame.notifies = olds.countP Frame.notifies)
    (hholds : ∀ handle, tops.countP (Frame.holds handle) = olds.countP (Frame.holds handle))
    (hruns : ∀ handle, tops.countP (Frame.runs handle) = olds.countP (Frame.runs handle))
    (htops : ∀ frame ∈ tops, frame.Fits main thread state.entries ∧ ∀ handle ∈ frame.handles,
      (state.entries handle).standing ≠ .freed)
    (hbelow : ∀ frame ∈ (tops ++ frames).tail, frame.calls = true) :
    Consistent main ((state.touch handles).setStack thread (tops ++ frames)) where
  listed := hconsistent.listed.congr rfl rfl rfl id fun _ => rfl
  guarded := hconsistent.guarded.move olds tops hstack rfl
    (by rw [hnotifies]; rfl) (fun handle => by rw [hholds]; rfl) hconsistent.guarded.alive
    hconsistent.guarded.keyed (fun _ _ _ _ hfits => hfits) (fun _ h => h)
      htops hbelow hconsistent.guarded.retired
  told := hconsistent.told.move handles hhandles rfl (fun _ => rfl) (fun _ => .refl _)
    (fun _ h => h) fun handle => countP_runs olds tops hstack rfl (hruns handle)

theorem Consistent.known (hstack : state.callStacks thread = frame :: frames) :
    ∀ handle ∈ frame.handles, (state.entries handle).standing ≠ .freed :=
  hconsistent.guarded.known thread frame (hstack ▸ List.mem_cons_self)

theorem Consistent.stop (hmay : state.mayCall main = true) :
    Consistent main (state.setStack main (.stopping :: state.callStacks main)) :=
  hconsistent.goesOn [] [.stopping] [] (fun handle hmem => by cases hmem)
    (List.nil_append _).symm rfl (fun _ => rfl) (fun _ => rfl)
    (fun frame hmem => by
      rw [List.mem_singleton.1 hmem]
      exact ⟨rfl, fun handle hmem => by cases hmem⟩)
    (hconsistent.guarded.mayCall hmay)

theorem Consistent.globalConVarChanged (hmay : state.mayCall thread = true) (object : Address)
    (slot : Int) :
    Consistent main (state.globalConVarChanged thread object slot) where
  listed := hconsistent.listed.congr rfl rfl rfl id fun _ => rfl
  guarded := hconsistent.guarded.move [] [.entered object slot]
    (List.nil_append _).symm rfl rfl (fun _ => rfl) hconsistent.guarded.alive
    hconsistent.guarded.keyed (fun _ _ _ _ hfits => hfits) (fun _ h => h)
    (fun frame hmem => by
      rw [List.mem_singleton.1 hmem]
      exact ⟨trivial, fun handle hmem => by cases hmem⟩)
    (hconsistent.guarded.mayCall hmay) hconsistent.guarded.retired
  told := hconsistent.told.move [] (fun handle hmem => by cases hmem) rfl (fun _ => rfl)
    (fun _ => .refl _) (fun _ h => h) fun handle =>
      countP_runs [] [.entered object slot] (List.nil_append _).symm rfl rfl

theorem Consistent.leave (hstack : state.callStacks thread = frame :: frames)
    (hnotifies : frame.notifies = true) (hholds : ∀ handle, frame.holds handle = false)
    (hruns : ∀ handle, frame.runs handle = false) :
    Consistent main (state.leave thread frames) where
  listed := hconsistent.listed.congr rfl rfl rfl id fun _ => rfl
  guarded := by
    have hpositive : 1 ≤ state.globalObserversActive := by
      refine le_trans ?_ (hconsistent.guarded.notifying.le thread)
      rw [hstack, List.countP_cons_of_pos hnotifies]
      exact Nat.succ_le_succ (Nat.zero_le _)
    refine hconsistent.guarded.move [frame] [] hstack rfl ?_
      (fun handle => ?_) hconsistent.guarded.alive hconsistent.guarded.keyed
      (fun _ _ _ _ hfits => hfits) (fun _ h => h)
      (fun frame hmem => by cases hmem) ?_ hconsistent.guarded.retired
    · rw [List.countP_cons_of_pos hnotifies]
      show state.globalObserversActive - 1 + _ = _
      simp only [List.countP_nil]
      omega
    · rw [List.countP_cons_of_neg (by rw [hholds]; exact Bool.false_ne_true)]
      rfl
    · exact fun other hmem =>
        hconsistent.guarded.tail_calls hstack other (List.mem_of_mem_tail hmem)
  told := hconsistent.told.move [] (fun handle hmem => by cases hmem) rfl (fun _ => rfl)
    (fun _ => .refl _) (fun _ h => h) fun handle =>
      countP_runs [frame] [] hstack rfl (by
        rw [List.countP_cons_of_neg (by rw [hruns]; exact Bool.false_ne_true)])

end

theorem not_freed_of_used (hguarded : Guarded main state) (hused : (state.entries handle).used) :
    (state.entries handle).standing ≠ .freed := by
  intro hfreed
  have halive := hguarded.alive handle hused
  rw [hfreed] at halive
  cases halive

theorem Consistent.select (hconsistent : Consistent main state) {slot : Int} {object : Address}
    (hstack : state.callStacks thread = .entered object slot :: frames) :
    Consistent main (state.select thread object frames) := by
  have hobservers : ∀ handle ∈ state.convarObservers, (state.entries handle).standing ≠ .freed :=
    fun handle hmem => not_freed_of_used hconsistent.guarded
      (Or.inl ((hconsistent.listed.listed handle).1 hmem))
  exact hconsistent.goesOn [.entered object slot] [.selected _] state.convarObservers hobservers
    hstack rfl (fun _ => rfl) (fun _ => rfl)
    (fun frame hmem => by
      rw [List.mem_singleton.1 hmem]
      exact ⟨trivial, fun handle hhandle =>
        hobservers handle (List.mem_of_mem_filter hhandle)⟩)
    (hconsistent.guarded.tail_calls hstack)

variable {rest : List Nat} {entry : ConVarEntry Value}

theorem Consistent.pass (hconsistent : Consistent main state)
    (hstack : state.callStacks thread = frame :: frames) (hhandles : frame.handles = handle :: rest)
    (hnotifies : frame.notifies = true) (hholds : ∀ handle, frame.holds handle = false)
    (hruns : ∀ handle, frame.runs handle = false) :
    Consistent main ((state.touch [handle]).setStack thread (.selected rest :: frames)) := by
  have hknown := hconsistent.known hstack
  rw [hhandles] at hknown
  refine hconsistent.goesOn [frame] [.selected rest] [handle] (fun other hmem => ?_) hstack
    ?_ (fun other => ?_) (fun other => ?_) (fun other hmem => ?_)
    (hconsistent.guarded.tail_calls hstack)
  · rw [List.mem_singleton.1 hmem]
    exact hknown handle List.mem_cons_self
  · rw [List.countP_cons_of_pos hnotifies]
    rfl
  · rw [List.countP_cons_of_neg (a := frame) (by rw [hholds]; exact Bool.false_ne_true)]
    rfl
  · rw [List.countP_cons_of_neg (a := frame) (by rw [hruns]; exact Bool.false_ne_true)]
    rfl
  · rw [List.mem_singleton.1 hmem]
    exact ⟨trivial, fun other hother => hknown other (List.mem_cons_of_mem _ hother)⟩

/-! ## Steps that change an entry -/

theorem used_update {other : Nat} (hused : entry.used → (state.entries handle).used)
    (h : (update state.entries handle entry other).used) : (state.entries other).used := by
  by_cases hother : other = handle
  · subst hother
    rw [update_self] at h
    exact hused h
  · rwa [update_of_ne hother] at h

/-- What is so of the entry, and of the entries before, is so of the entries. -/
theorem forall_update {P : Nat → ConVarEntry Value → Prop} (hentry : P handle entry)
    (hothers : ∀ other, P other (state.entries other)) (other : Nat) :
    P other (update state.entries handle entry other) := by
  by_cases hother : other = handle
  · subst hother
    rw [update_self]
    exact hentry
  · rw [update_of_ne hother]
    exact hothers other

theorem update_congr {α : Type} (f : ConVarEntry Value → α)
    (hentry : f entry = f (state.entries handle)) (other : Nat) :
    f (update state.entries handle entry other) = f (state.entries other) := by
  by_cases hother : other = handle
  · subst hother
    rw [update_self, hentry]
  · rw [update_of_ne hother]

theorem Guarded.exchange {next : Frame} (hguarded : Guarded main state)
    (hstack : state.callStacks thread = frame :: frames)
    (hstanding : entry.standing = (state.entries handle).standing)
    (hobserver : entry.observer = (state.entries handle).observer)
    (halive : entry.used → entry.standing.alive = true)
    (hnotifies : [next].countP Frame.notifies = [frame].countP Frame.notifies)
    (hprovided : entry.providerActive + [frame].countP (Frame.holds handle) = (state.entries
      handle).providerActive + [next].countP (Frame.holds handle))
    (hothers : ∀ other, other ≠ handle → [frame].countP (Frame.holds other) = [next].countP
      (Frame.holds other))
    (hfits : ∀ entries : Nat → ConVarEntry Value, next.Fits main thread entries)
    (hknown : ∀ other ∈ next.handles, (state.entries other).standing ≠ .freed) :
    Guarded main (((state.setEntry handle entry).touch [handle]).setStack thread
      (next :: frames)) := by
  have hstandings : ∀ other, (update state.entries handle entry other).standing =
      (state.entries other).standing := update_congr ConVarEntry.standing hstanding
  have hobservers : ∀ other, (update state.entries handle entry other).observer =
      (state.entries other).observer := update_congr ConVarEntry.observer hobserver
  refine hguarded.move [frame] [next] hstack rfl
    (by rw [hnotifies]; rfl) (fun other => ?_)
    (forall_update (P := fun _ entry => entry.used → entry.standing.alive = true) halive
      hguarded.alive)
    (fun other h => hguarded.keyed other (by rwa [← hstandings other]))
    (fun _ _ _ _ hfits => hfits.congr hstandings fun other h => (hobservers other).trans h)
    (fun other h => ?_) (fun other hmem => ?_) (hguarded.tail_calls hstack)
    (fun other hmem => (hstandings other).trans (hguarded.retired other hmem))
  · show (update state.entries handle entry other).providerActive + _ = _
    by_cases hother : other = handle
    · subst hother
      rw [update_self]
      exact hprovided
    · rw [update_of_ne hother, hothers other hother]
  · show (update state.entries handle entry other).standing ≠ .freed
    rwa [hstandings]
  · rw [List.mem_singleton.1 hmem]
    exact ⟨hfits _, hknown⟩

theorem Told.exchange {next : Frame} (htold : Told main state)
    (hstack : state.callStacks thread = frame :: frames)
    (hfreed : (state.entries handle).standing ≠ .freed)
    (hstanding : entry.standing = (state.entries handle).standing)
    (hobserved : entry.observed = (state.entries handle).observed)
    (hused : entry.used → (state.entries handle).used)
    (hruns : ∀ other, [next].countP (Frame.runs other) = [frame].countP (Frame.runs other)) :
    Told main (((state.setEntry handle entry).touch [handle]).setStack thread
      (next :: frames)) := by
  have hstandings : ∀ other, (update state.entries handle entry other).standing =
      (state.entries other).standing := update_congr ConVarEntry.standing hstanding
  refine htold.move [handle] (fun other hmem => ?_) rfl
    (update_congr ConVarEntry.observed hobserved) (fun other => ?_)
    (fun other => used_update hused) fun other =>
      countP_runs [frame] [next] hstack rfl (hruns other)
  · rw [List.mem_singleton.1 hmem]
    exact hfreed
  · show Standing.Advances _ (update state.entries handle entry other).standing
    rw [hstandings]
    exact .refl _

theorem Consistent.hold (hconsistent : Consistent main state)
    (hstack : state.callStacks thread = .selected (handle :: rest) :: frames)
    (hobserver : (state.entries handle).observer.isSome = true) :
    Consistent main (((state.setEntry handle { state.entries handle with
      providerActive := (state.entries handle).providerActive + 1 }).touch [handle]).setStack thread
        (.holding handle rest :: frames)) := by
  have hknown := hconsistent.known hstack
  refine ⟨hconsistent.listed.congr rfl rfl rfl id
    (update_congr (fun entry => entry.observer.isSome) rfl),
    hconsistent.guarded.exchange hstack rfl rfl ?_ rfl ?_ (fun other hother => ?_)
      (fun _ => trivial) hknown,
    hconsistent.told.exchange hstack (hknown handle List.mem_cons_self) rfl rfl
      (fun _ => Or.inl hobserver) fun _ => rfl⟩
  · exact fun _ => hconsistent.guarded.alive handle (Or.inl hobserver)
  · simp [Frame.holds]
  · simp [Frame.holds, Ne.symm hother]

theorem Consistent.enter (hconsistent : Consistent main state)
    (hstack : state.callStacks thread = .selected (handle :: rest) :: frames) :
    Consistent main (state.enter thread handle rest frames) := by
  unfold ConVarObservers.enter
  dsimp only
  split
  · rename_i hobserver
    exact hconsistent.hold hstack hobserver
  · exact hconsistent.pass hstack rfl rfl (fun _ => rfl) fun _ => rfl

theorem provider_pos (hguarded : Guarded main state)
    (hstack : state.callStacks thread = frame :: frames) (hholds : frame.holds handle = true) :
    0 < (state.entries handle).providerActive := by
  refine lt_of_lt_of_le ?_ ((hguarded.provided handle).le thread)
  rw [hstack, List.countP_cons_of_pos hholds]
  exact Nat.succ_pos _

theorem Guarded.leaveProvider (hguarded : Guarded main state)
    (hstack : state.callStacks thread = frame :: frames) (hnotifies : frame.notifies = true)
    (hholds : ∀ other, frame.holds other = (handle == other))
    (hknown : ∀ other ∈ handle :: rest, (state.entries other).standing ≠ .freed) :
    Guarded main (state.leaveProvider thread handle rest frames) := by
  have hpositive := provider_pos hguarded hstack ((hholds handle).trans (beq_self_eq_true handle))
  have hcount : ∀ other, [frame].countP (Frame.holds other) = if handle = other then 1 else 0 := by
    intro other
    simp [List.countP_cons, hholds]
  unfold ConVarObservers.leaveProvider
  refine hguarded.exchange hstack rfl rfl
    (fun _ => hguarded.alive handle (Or.inr hpositive)) ?_ ?_ (fun other hother => ?_)
    (fun _ => ?_) ?_
  · rw [List.countP_cons_of_pos (a := frame) hnotifies]
    split <;> rfl
  · rw [hcount, if_pos rfl]
    split <;> simp [Frame.holds] <;> omega
  · rw [hcount, if_neg (Ne.symm hother)]
    split <;> rfl
  · split <;> trivial
  · split
    · exact hknown
    · exact fun other hmem => hknown other (List.mem_cons_of_mem _ hmem)

theorem Guarded.record {event : Event Value} (hguarded : Guarded main state) :
    Guarded main (state.record event) :=
  ⟨hguarded.notifying, hguarded.provided, hguarded.alive, hguarded.keyed, hguarded.fits,
    hguarded.known, hguarded.below, hguarded.retired⟩

theorem Listed.record {event : Event Value} (hlisted : Listed state) :
    Listed (state.record event) :=
  hlisted.congr rfl rfl rfl id fun _ => rfl

theorem Listed.leaveProvider (hlisted : Listed state) (rest : List Nat) :
    Listed (state.leaveProvider thread handle rest frames) :=
  hlisted.congr rfl rfl rfl id (update_congr (fun entry => entry.observer.isSome) rfl)

theorem Told.not_released (htold : Told main state)
    (halive : (state.entries handle).standing.alive = true) :
    .released handle ∉ state.history := by
  intro hmem
  have hover := htold.ended handle hmem
  rw [Standing.not_over halive] at hover
  cases hover

/-! ## The callback -/

theorem Consistent.skip (hconsistent : Consistent main state)
    (hstack : state.callStacks thread = .holding handle rest :: frames) :
    Consistent main (state.leaveProvider thread handle rest frames) := by
  have hknown := hconsistent.known hstack
  have hpositive := provider_pos hconsistent.guarded hstack (beq_self_eq_true handle)
  refine ⟨hconsistent.listed.leaveProvider rest,
    hconsistent.guarded.leaveProvider hstack rfl (fun _ => rfl) hknown, ?_⟩
  exact hconsistent.told.exchange hstack (hknown handle List.mem_cons_self) rfl rfl
    (fun _ => Or.inr hpositive) fun other => by split <;> rfl

theorem Consistent.call (hconsistent : Consistent main state)
    (hstack : state.callStacks main = .holding handle rest :: frames) (current : Value) :
    Consistent main ((((state.setEntry handle { state.entries handle with
      observed := some current }).touch [handle]).setStack main
        (.running handle rest :: frames)).record
          (.notified handle (state.entries handle).observed current)) := by
  have hknown := hconsistent.known hstack
  have hused : (state.entries handle).used :=
    Or.inr (provider_pos hconsistent.guarded hstack (beq_self_eq_true handle))
  have halive := hconsistent.guarded.alive handle hused
  have htold := hconsistent.told
  have hstandings : ∀ other, (update state.entries handle { state.entries handle with
      observed := some current } other).standing = (state.entries other).standing :=
    update_congr ConVarEntry.standing rfl
  refine ⟨Listed.record (hconsistent.listed.congr rfl rfl rfl id
    (update_congr (fun entry => entry.observer.isSome) rfl)),
    Guarded.record (hconsistent.guarded.exchange hstack rfl rfl (fun _ => halive) rfl rfl
      (fun _ _ => rfl) (fun _ => rfl) hknown), ?_⟩
  exact {
    last := fun other => by
      show (if handle = other then some current else lastCurrent other state.history) =
        (update state.entries handle _ other).observed
      by_cases hother : handle = other
      · subst hother
        rw [if_pos rfl, update_self]
      · rw [if_neg hother, update_of_ne (Ne.symm hother)]
        exact htold.last other
    seen := forall_update (P := fun _ entry => entry.used → entry.observed.isSome = true)
      (fun _ => rfl) htold.seen
    unseen := forall_update (P := fun _ entry => entry.standing = .missing →
      entry.observed = none)
      (fun hmissing => by rw [hmissing] at halive; cases halive) htold.unseen
    underWay := fun other => by
      show underWay other state.history + (if handle = other then 1 else 0) =
        (((update state.callStacks main (.running handle rest :: frames)) main).countP
          (Frame.runs other) : Nat)
      rw [htold.underWay other, hstack, update_self, List.countP_cons, List.countP_cons]
      simp [Frame.runs]
    ended := fun other hmem => by
      rw [← htold.ended other (mem_of_cons_touched (fun _ heq => by cases heq)
        (fun heq => by cases heq) hmem)]
      exact congrArg Standing.ended (hstandings other)
    dead := fun other hmem => by
      rw [← htold.dead other (mem_of_cons_touched (fun _ heq => by cases heq)
        (fun heq => by cases heq) hmem)]
      exact hstandings other
    lawful := by
      refine ⟨⟨htold.seen handle hused, htold.last handle, fun hmem => ?_⟩, fun hmem => ?_,
        htold.lawful⟩
      · exact htold.not_released halive
          (@mem_of_touched _ _ [handle] _ (fun _ heq => by cases heq) hmem)
      · exact hknown handle List.mem_cons_self (htold.dead handle hmem) }

theorem Consistent.notify (hconsistent : Consistent main state)
    (hstack : state.callStacks thread = .holding handle rest :: frames) (current : Option Value) :
    Consistent main (state.notify main thread handle rest frames current) := by
  unfold ConVarObservers.notify
  split
  · rename_i value hmain
    have hsame : thread = main := of_decide_eq_true hmain
    subst hsame
    exact hconsistent.call hstack value
  · exact hconsistent.skip hstack

theorem Consistent.returns (hconsistent : Consistent main state) (throws : Bool) :
    Consistent main (state.returns thread throws) := by
  unfold ConVarObservers.returns
  split
  swap
  · exact hconsistent
  rename_i handle rest frames hstack
  have hmain : thread = main :=
    hconsistent.guarded.fits thread (.running handle rest) (hstack ▸ List.mem_cons_self)
  subst hmain
  have hknown := hconsistent.known hstack
  have hpositive := provider_pos hconsistent.guarded hstack (beq_self_eq_true handle)
  have hleft : ∀ other ∈ handle :: (if throws then [] else rest),
      (state.entries other).standing ≠ .freed := by
    intro other hmem
    rcases List.mem_cons.1 hmem with rfl | hmem
    · exact hknown other List.mem_cons_self
    · cases throws with
      | true => cases hmem
      | false => exact hknown other (List.mem_cons_of_mem _ hmem)
  have htold := hconsistent.told
  have hstandings : ∀ other, (update state.entries handle { state.entries handle with
      providerActive := (state.entries handle).providerActive - 1 } other).standing =
        (state.entries other).standing := update_congr ConVarEntry.standing rfl
  have hobserveds : ∀ other, (update state.entries handle { state.entries handle with
      providerActive := (state.entries handle).providerActive - 1 } other).observed =
        (state.entries other).observed := update_congr ConVarEntry.observed rfl
  refine ⟨Listed.record (hconsistent.listed.leaveProvider _),
    Guarded.record (hconsistent.guarded.leaveProvider hstack rfl (fun _ => rfl) hleft), ?_⟩
  exact {
    last := fun other => (htold.last other).trans (hobserveds other).symm
    seen := fun other hused => (congrArg Option.isSome (hobserveds other)).trans
      (htold.seen other (used_update (fun _ => Or.inr hpositive) hused))
    unseen := fun other hmissing => (hobserveds other).trans
      (htold.unseen other ((hstandings other).symm.trans hmissing))
    underWay := fun other => by
      have hframe : (if (state.entries handle).providerActive = 1
          then Frame.waking handle (if throws then [] else rest)
          else .selected (if throws then [] else rest)).runs other = false := by
        split <;> rfl
      show underWay other state.history - (if handle = other then 1 else 0) =
        (((update state.callStacks thread (_ :: frames)) thread).countP
          (Frame.runs other) : Nat)
      rw [htold.underWay other, hstack, update_self, List.countP_cons, List.countP_cons,
        hframe]
      simp [Frame.runs]
    ended := fun other hmem => by
      rw [← htold.ended other (mem_of_cons_touched (fun _ heq => by cases heq)
        (fun heq => by cases heq) hmem)]
      exact congrArg Standing.ended (hstandings other)
    dead := fun other hmem => by
      rw [← htold.dead other (mem_of_cons_touched (fun _ heq => by cases heq)
        (fun heq => by cases heq) hmem)]
      exact hstandings other
    lawful := ⟨trivial, fun hmem => hknown handle List.mem_cons_self (htold.dead handle hmem),
      htold.lawful⟩ }

/-! ## The main thread -/

theorem Consistent.start (hconsistent : Consistent main state) :
    Consistent main (state.start main) := by
  unfold ConVarObservers.start
  split
  · exact ⟨hconsistent.listed.congr rfl rfl rfl (fun _ => rfl) fun _ => rfl,
      ⟨hconsistent.guarded.notifying, hconsistent.guarded.provided, hconsistent.guarded.alive,
        hconsistent.guarded.keyed, hconsistent.guarded.fits, hconsistent.guarded.known,
        hconsistent.guarded.below, hconsistent.guarded.retired⟩,
      ⟨hconsistent.told.last, hconsistent.told.seen, hconsistent.told.unseen,
        hconsistent.told.underWay, hconsistent.told.ended, hconsistent.told.dead,
        hconsistent.told.lawful⟩⟩
  · exact hconsistent

variable (olds tops) in
theorem Guarded.moveMain (entry : ConVarEntry Value) (hguarded : Guarded main state)
    (hentries : after.entries = update state.entries handle entry)
    (hstack : state.callStacks main = olds ++ frames)
    (hcallStacks : after.callStacks = update state.callStacks main (tops ++ frames))
    (hglobal : after.globalObserversActive = state.globalObserversActive)
    (hquiet : ∀ frame ∈ olds ++ tops, frame.notifies = false)
    (hactive : entry.providerActive = (state.entries handle).providerActive)
    (halive : entry.used → entry.standing.alive = true) (hfreed : entry.standing ≠ .freed)
    (hkeyed : ∀ other, (after.entries other).standing.alive = true → other ∈ after.convars)
    (hframes : ∀ frame ∈ frames, frame.calls = true)
    (htops : ∀ frame ∈ tops, frame.Fits main main after.entries)
    (hone : tops.length ≤ 1)
    (hretired : ∀ other ∈ after.retiredConvars,
      other = handle ∧ entry.standing = .retired ∨ other ≠ handle ∧ other ∈ state.retiredConvars) :
    Guarded main after := by
  have hnone : ∀ {list : List Frame}, (∀ frame ∈ list, frame.notifies = false) →
      list.countP Frame.notifies = 0 ∧ (∀ other, list.countP (Frame.holds other) = 0) := by
    intro list hlist
    refine ⟨List.countP_eq_zero.2 fun frame hmem => ?_, fun other =>
      List.countP_eq_zero.2 fun frame hmem => ?_⟩
    · rw [hlist frame hmem]
      exact Bool.false_ne_true
    · have hquiet := hlist frame hmem
      cases frame with
      | holding _ _ | running _ _ => cases hquiet
      | _ => exact Bool.false_ne_true
  obtain ⟨holds, hholds⟩ := hnone fun frame hmem => hquiet frame (List.mem_append_left _ hmem)
  obtain ⟨htopNone, htopHolds⟩ :=
    hnone fun frame hmem => hquiet frame (List.mem_append_right _ hmem)
  refine hguarded.move olds tops hstack hcallStacks (by rw [hglobal, holds, htopNone])
    (fun other => ?_) (fun other hused => ?_) hkeyed
    (fun other frame hmem hframe hfits => hfits.others fun hother => hframes frame (hframe hother))
    (fun other h => ?_) (fun frame hmem => ⟨htops frame hmem, fun other hother => ?_⟩)
    (fun frame hmem => ?_) (fun other hmem => ?_)
  · rw [hholds, htopHolds, hentries]
    exact congrArg (· + 0) (update_congr ConVarEntry.providerActive hactive other)
  · rw [hentries] at hused ⊢
    exact forall_update (P := fun _ entry => entry.used → entry.standing.alive = true) halive
      hguarded.alive other hused
  · rw [hentries]
    by_cases hother : other = handle
    · subst hother
      rwa [update_self]
    · rwa [update_of_ne hother]
  · have hquiet := hquiet frame (List.mem_append_right _ hmem)
    cases frame with
    | releasing _ | waiting _ | stopping => cases hother
    | _ => cases hquiet
  · cases tops with
    | nil => exact hframes frame (List.mem_of_mem_tail hmem)
    | cons first rest =>
      have hrest : rest = [] :=
        List.eq_nil_of_length_eq_zero (Nat.le_zero.1 (Nat.le_of_succ_le_succ hone))
      subst hrest
      exact hframes frame hmem
  · rw [hentries]
    rcases hretired other hmem with ⟨rfl, hstanding⟩ | ⟨hother, hold⟩
    · rw [update_self]
      exact hstanding
    · rw [update_of_ne hother]
      exact hguarded.retired other hold

theorem Consistent.releaseConVar (hconsistent : Consistent main state)
    (hstack : state.callStacks main = frames) (hframes : ∀ frame ∈ frames, frame.calls = true)
    (handle : Nat) : Consistent main (state.releaseConVar main handle frames) := by
  unfold ConVarObservers.releaseConVar
  split
  swap
  · exact hconsistent
  rename_i hlive
  have hobservers : ∀ other, (update state.entries handle { state.entries handle with
      standing := .releasing } other).observer.isSome = (state.entries other).observer.isSome :=
    update_congr (fun entry => entry.observer.isSome) rfl
  refine ⟨hconsistent.listed.congr rfl rfl rfl id hobservers, ?_, ?_⟩
  · refine hconsistent.guarded.moveMain [] [.releasing handle] _ rfl hstack rfl
      rfl (fun frame hmem => ?_) rfl (fun _ => rfl) (fun h => by cases h)
      (forall_update (P := fun other entry => entry.standing.alive = true → other ∈ state.convars)
        (fun _ => hlive.1) hconsistent.guarded.keyed) hframes
      (fun frame hmem => ?_) (Nat.le_refl 1) (fun other hmem => Or.inr ⟨?_, hmem⟩)
    · rw [List.mem_singleton.1 hmem]
      rfl
    · rw [List.mem_singleton.1 hmem]
      refine ⟨rfl, ?_⟩
      show (update state.entries handle _ handle).standing = .releasing
      rw [update_self]
    · rintro rfl
      have hretired := hconsistent.guarded.retired other hmem
      rw [hlive.2] at hretired
      cases hretired
  · refine hconsistent.told.move [] (fun other hmem => by cases hmem) rfl
      (update_congr ConVarEntry.observed rfl)
      (forall_update (P := fun other entry =>
        (state.entries other).standing.Advances entry.standing) ?_ fun _ => .refl _)
      (fun other => used_update id)
      (fun other => countP_runs [] [.releasing handle] hstack rfl rfl)
    rw [hlive.2]
    exact ⟨(fun h => by cases h), (fun h => by cases h), (fun h => by cases h)⟩

theorem Listed.remove (hlisted : Listed state)
    (hobserver : (state.entries handle).observer.isSome = true) :
    Listed ({ state.setEntry handle { state.entries handle with observer := none } with
      convarObservers := state.convarObservers.filter fun other => other != handle
      observerCount := state.observerCount - 1
      installed := if state.observerCount - 1 = 0 ∧ state.cvar then false
        else state.installed } : ConVarObservers Value) := by
  have hmem := (hlisted.listed handle).2 hobserver
  have hpositive : 0 < state.observerCount :=
    hlisted.counted ▸ List.length_pos_of_mem hmem
  have hcvar := hlisted.attached hpositive
  refine ⟨hlisted.nodup.filter _, ?_, ?_, fun _ => hcvar, fun other => ?_⟩
  · show state.observerCount - 1 = _
    rw [← hlisted.nodup.erase_eq_filter, List.length_erase_of_mem hmem, hlisted.counted]
  · show (if state.observerCount - 1 = 0 ∧ state.cvar then false else state.installed) = true ↔
      0 < state.observerCount - 1
    by_cases hzero : state.observerCount - 1 = 0
    · rw [if_pos ⟨hzero, hcvar⟩, hzero]
      exact ⟨(fun h => by cases h), (fun h => by cases h)⟩
    · rw [if_neg fun h => hzero h.1]
      exact ⟨fun _ => Nat.pos_of_ne_zero hzero, fun _ => hlisted.installed.2 hpositive⟩
  · rw [List.mem_filter, bne_iff_ne]
    show _ ↔ (update state.entries handle _ other).observer.isSome = true
    by_cases hother : other = handle
    · subst hother
      rw [update_self]
      exact ⟨(fun h => absurd rfl h.2), (fun h => by cases h)⟩
    · rw [update_of_ne hother, ← hlisted.listed other]
      exact ⟨fun h => h.1, fun h => ⟨h, hother⟩⟩

theorem Consistent.removeObserver (hconsistent : Consistent main state)
    (hstack : state.callStacks main = .releasing handle :: frames) :
    Consistent main (state.removeObserver main handle frames) := by
  have hfits := hconsistent.guarded.fits main (.releasing handle) (hstack ▸ List.mem_cons_self)
  have hframes := hconsistent.guarded.tail_calls hstack
  unfold ConVarObservers.removeObserver
  dsimp only
  split
  · rename_i hobserver
    have hstandings : ∀ other, (update state.entries handle { state.entries handle with
        observer := none } other).standing = (state.entries other).standing :=
      update_congr ConVarEntry.standing rfl
    refine ⟨(hconsistent.listed.remove hobserver).congr rfl rfl rfl id fun _ => rfl, ?_, ?_⟩
    · refine hconsistent.guarded.moveMain [.releasing handle]
        [.waiting handle] _ rfl hstack rfl rfl (fun frame hmem => ?_) rfl (fun hused => ?_)
        (fun h => ?_) (fun other h => hconsistent.guarded.keyed other (by rwa [← hstandings other]))
        hframes (fun frame hmem => ?_) (Nat.le_refl 1) (fun other hmem => Or.inr ⟨?_, hmem⟩)
      · rcases List.mem_cons.1 hmem with rfl | hmem
        · rfl
        · rw [List.mem_singleton.1 hmem]
          rfl
      · rw [show ({ state.entries handle with observer := none } : ConVarEntry Value).standing =
          .releasing from hfits.2]
        rfl
      · rw [show ({ state.entries handle with observer := none } : ConVarEntry Value).standing =
          .releasing from hfits.2] at h
        cases h
      · rw [List.mem_singleton.1 hmem]
        exact ⟨rfl, (hstandings handle).trans hfits.2, by
          show (update state.entries handle _ handle).observer = none
          rw [update_self]⟩
      · rintro rfl
        have hretired := hconsistent.guarded.retired other hmem
        rw [hfits.2] at hretired
        cases hretired
    · exact hconsistent.told.move [] (fun other hmem => by cases hmem) rfl
        (update_congr ConVarEntry.observed rfl)
        (forall_update (P := fun other entry =>
          (state.entries other).standing.Advances entry.standing) (.refl _) fun _ => .refl _)
        (fun other => used_update fun _ => Or.inl hobserver)
        (fun other => countP_runs [.releasing handle] [.waiting handle] hstack
          rfl rfl)
  · rename_i hobserver
    exact hconsistent.goesOn [.releasing handle] [.waiting handle] []
      (fun other hmem => by cases hmem) hstack rfl (fun _ => rfl) (fun _ => rfl)
      (fun frame hmem => by
        rw [List.mem_singleton.1 hmem]
        exact ⟨⟨hfits.1, hfits.2, Option.not_isSome_iff_eq_none.1 hobserver⟩,
          fun other hother => by cases hother⟩)
      hframes

theorem countP_runs_eq_zero (hguarded : Guarded main state)
    (hzero : (state.entries handle).providerActive = 0) :
    (state.callStacks main).countP (Frame.runs handle) = 0 := by
  have hholds := hguarded.provided handle
  rw [hzero] at hholds
  refine List.countP_eq_zero.2 fun frame hmem hruns => ?_
  refine List.countP_eq_zero.1 (hholds.none main) frame hmem ?_
  cases frame with
  | running other rest => exact hruns
  | _ => cases hruns

theorem Consistent.retire (hconsistent : Consistent main state)
    (hstack : state.callStacks main = .waiting handle :: frames) :
    Consistent main (state.retire main handle frames) := by
  obtain ⟨_, hstanding, hobserver⟩ :=
    hconsistent.guarded.fits main (.waiting handle) (hstack ▸ List.mem_cons_self)
  have hframes := hconsistent.guarded.tail_calls hstack
  have htold := hconsistent.told
  unfold ConVarObservers.retire
  dsimp only
  split
  swap
  · exact hconsistent
  rename_i hzero
  have hunused : ¬ (state.entries handle).used := by
    rintro (hused | hused)
    · rw [hobserver] at hused
      cases hused
    · exact absurd hzero (Nat.pos_iff_ne_zero.1 hused)
  have hobserveds : ∀ other, (update state.entries handle { state.entries handle with
      standing := .retired } other).observed = (state.entries other).observed :=
    update_congr ConVarEntry.observed rfl
  refine ⟨hconsistent.listed.congr rfl rfl rfl id
    (update_congr (fun entry => entry.observer.isSome) rfl), ?_, ?_⟩
  · refine hconsistent.guarded.moveMain [.waiting handle] []
      _ rfl hstack rfl rfl (fun frame hmem => ?_) rfl (fun hused => absurd hused hunused)
      (fun h => by cases h) (fun other h => ?_) hframes (fun frame hmem => by cases hmem)
      (Nat.zero_le 1) (fun other hmem => ?_)
    · rw [List.mem_singleton.1 hmem]
      rfl
    · have halive : (update state.entries handle { state.entries handle with
        standing := .retired } other).standing.alive = true := h
      by_cases hother : other = handle
      · subst hother
        rw [update_self] at halive
        cases halive
      · rw [update_of_ne hother] at halive
        exact List.mem_filter.2 ⟨hconsistent.guarded.keyed other halive, bne_iff_ne.2 hother⟩
    · by_cases hother : other = handle
      · exact Or.inl ⟨hother, rfl⟩
      · refine Or.inr ⟨hother, (List.mem_append.1 hmem).resolve_right fun hmem => ?_⟩
        exact hother (List.mem_singleton.1 hmem)
  · have hnone := countP_runs_eq_zero hconsistent.guarded hzero
    exact {
      last := fun other => (htold.last other).trans (hobserveds other).symm
      seen := fun other hused => (congrArg Option.isSome (hobserveds other)).trans
        (htold.seen other (used_update (show ConVarEntry.used { state.entries handle with
          standing := .retired } → _ from fun hused => absurd hused hunused) hused))
      unseen := forall_update (P := fun _ entry => entry.standing = .missing →
        entry.observed = none) (fun h => by cases h) htold.unseen
      underWay := fun other => (htold.underWay other).trans (congrArg Nat.cast
        (countP_runs [.waiting handle] [] hstack rfl rfl).symm)
      ended := fun other hmem => by
        show (update state.entries handle _ other).standing.ended = true
        by_cases hother : other = handle
        · subst hother
          rw [update_self]
          rfl
        · rw [update_of_ne hother]
          refine htold.ended other ((List.mem_cons.1 hmem).resolve_left fun heq => hother ?_)
          cases heq
          rfl
      dead := fun other hmem => by
        have hdead := htold.dead other ((List.mem_cons.1 hmem).resolve_left fun heq => by cases heq)
        have hother : other ≠ handle := by
          rintro rfl
          rw [hstanding] at hdead
          cases hdead
        show (update state.entries handle _ other).standing = .freed
        rw [update_of_ne hother]
        exact hdead
      lawful := ⟨(htold.underWay handle).trans (congrArg Nat.cast hnone), htold.lawful⟩ }

theorem handles_eq_nil (hguarded : Guarded main state) (hzero : state.globalObserversActive = 0)
    (hmem : frame ∈ state.callStacks thread) : frame.handles = [] := by
  have hnotifying := hguarded.notifying
  rw [hzero] at hnotifying
  have hquiet := List.countP_eq_zero.1 (hnotifying.none thread) frame hmem
  cases frame with
  | releasing | waiting | stopping | entered => rfl
  | _ => exact absurd rfl hquiet

theorem clearRetired_of_not_mem (hmem : handle ∉ state.retiredConvars) :
    state.clearRetired handle = state.entries handle :=
  if_neg hmem

theorem clearRetired_standing (hmem : handle ∈ state.retiredConvars) :
    (state.clearRetired handle).standing = .freed := by
  rw [ConVarObservers.clearRetired, if_pos hmem]

theorem clearRetired_congr {α : Type} (f : ConVarEntry Value → α)
    (hf : ∀ entry, f { entry with standing := .freed } = f entry) (handle : Nat) :
    f (state.clearRetired handle) = f (state.entries handle) := by
  unfold ConVarObservers.clearRetired
  split
  · exact hf _
  · rfl

theorem used_clearRetired (h : (state.clearRetired handle).used) : (state.entries handle).used := by
  unfold ConVarObservers.clearRetired at h
  split at h
  · exact h
  · exact h

theorem Guarded.free (hguarded : Guarded main state)
    (hstack : state.callStacks main = .stopping :: frames)
    (hzero : state.globalObserversActive = 0) :
    Guarded main { state.setStack main frames with
      entries := state.clearRetired
      retiredConvars := []
      cvar := false
      history := state.retiredConvars.map .freed ++ state.history } := by
  have hframes := hguarded.tail_calls hstack
  have hmem_of : ∀ other, ∀ frame ∈ (state.setStack main frames).callStacks other,
      frame ∈ state.callStacks other ∧ (other = main → frame ∈ frames) := fun other frame hmem =>
    (mem_stack [.stopping] [] (show (state.setStack main frames).callStacks =
      update state.callStacks main ([] ++ frames) from rfl) hstack hmem).resolve_left
        fun h => by cases h.2
  exact {
    notifying := hguarded.notifying.stack (by rw [hstack]; rfl)
    provided := fun handle => by
      have hprovided : Counts (fun other =>
          (update state.callStacks main frames other).countP (Frame.holds handle))
          (state.entries handle).providerActive :=
        (hguarded.provided handle).stack (by rw [hstack]; rfl)
      rw [← clearRetired_congr ConVarEntry.providerActive (fun _ => rfl)] at hprovided
      exact hprovided
    alive := fun handle hused => by
      have halive := hguarded.alive handle (used_clearRetired hused)
      have hmem : handle ∉ state.retiredConvars := fun hmem => by
        rw [hguarded.retired handle hmem] at halive
        cases halive
      show (state.clearRetired handle).standing.alive = true
      rw [clearRetired_of_not_mem hmem]
      exact halive
    keyed := fun handle halive => by
      have halive : (state.clearRetired handle).standing.alive = true := halive
      by_cases hmem : handle ∈ state.retiredConvars
      · rw [clearRetired_standing hmem] at halive
        cases halive
      · rw [clearRetired_of_not_mem hmem] at halive
        exact hguarded.keyed handle halive
    fits := fun other frame hmem => by
      obtain ⟨hold, hmain⟩ := hmem_of other frame hmem
      exact (hguarded.fits other frame hold).others fun hother => hframes frame (hmain hother)
    known := fun other frame hmem handle hhandle => by
      rw [handles_eq_nil hguarded hzero (hmem_of other frame hmem).1] at hhandle
      cases hhandle
    below := fun other frame hmem => by
      have hmem : frame ∈ (update state.callStacks main frames other).tail := hmem
      by_cases hother : other = main
      · subst hother
        rw [update_self] at hmem
        exact hframes frame (List.mem_of_mem_tail hmem)
      · rw [update_of_ne hother] at hmem
        exact hguarded.below other frame hmem
    retired := fun handle hmem => by cases hmem }

theorem Told.free (htold : Told main state)
    (hstack : state.callStacks main = .stopping :: frames) :
    Told main { state.setStack main frames with
      entries := state.clearRetired
      retiredConvars := []
      cvar := false
      history := state.retiredConvars.map .freed ++ state.history } := by
  have hplain : ∀ event ∈ state.retiredConvars.map (Event.freed : Nat → Event Value),
      event.plain = true := plain_freed _
  have hobserved : ∀ handle, (state.clearRetired handle).observed =
      (state.entries handle).observed := clearRetired_congr ConVarEntry.observed fun _ => rfl
  have hmem_of : ∀ {event : Event Value}, (∀ handle, event ≠ .freed handle) →
      event ∈ state.retiredConvars.map .freed ++ state.history → event ∈ state.history := by
    intro event hother hmem
    refine (List.mem_append.1 hmem).resolve_left fun hmem => ?_
    obtain ⟨handle, _, heq⟩ := List.mem_map.1 hmem
    exact hother handle heq.symm
  exact {
    last := fun handle => (lastCurrent_append _ hplain).trans
      ((htold.last handle).trans (hobserved handle).symm)
    seen := fun handle hused => (congrArg Option.isSome (hobserved handle)).trans
      (htold.seen handle (used_clearRetired hused))
    unseen := fun handle hmissing => by
      have hmissing : (state.clearRetired handle).standing = .missing := hmissing
      have hmem : handle ∉ state.retiredConvars := fun hmem => by
        rw [clearRetired_standing hmem] at hmissing
        cases hmissing
      show (state.clearRetired handle).observed = none
      rw [clearRetired_of_not_mem hmem] at hmissing ⊢
      exact htold.unseen handle hmissing
    underWay := fun handle => by
      have hruns : ((state.setStack main frames).callStacks main).countP (Frame.runs handle) =
          (state.callStacks main).countP (Frame.runs handle) :=
        countP_runs [.stopping] [] hstack rfl rfl
      exact (underWay_append _ hplain).trans
        ((htold.underWay handle).trans (congrArg Nat.cast hruns.symm))
    ended := fun handle hmem => by
      have hover := htold.ended handle (hmem_of (fun _ heq => by cases heq) hmem)
      show (state.clearRetired handle).standing.ended = true
      by_cases hretired : handle ∈ state.retiredConvars
      · rw [clearRetired_standing hretired]
        rfl
      · rw [clearRetired_of_not_mem hretired]
        exact hover
    dead := fun handle hmem => by
      show (state.clearRetired handle).standing = .freed
      by_cases hretired : handle ∈ state.retiredConvars
      · exact clearRetired_standing hretired
      · rw [clearRetired_of_not_mem hretired]
        refine htold.dead handle ((List.mem_append.1 hmem).resolve_left fun hmem => hretired ?_)
        obtain ⟨other, hother, heq⟩ := List.mem_map.1 hmem
        cases heq
        exact hother
    lawful := htold.lawful.append fun event hmem before => by
      obtain ⟨handle, _, rfl⟩ := List.mem_map.1 hmem
      trivial }

theorem Consistent.stopConVars (hconsistent : Consistent main state)
    (hstack : state.callStacks main = .stopping :: frames) (first : Nat) :
    Consistent main (state.stopConVars main first frames) := by
  unfold ConVarObservers.stopConVars
  split
  · refine hconsistent.releaseConVar hstack (fun frame hmem => ?_) first
    rcases List.mem_cons.1 hmem with rfl | hmem
    · rfl
    · exact hconsistent.guarded.tail_calls hstack frame hmem
  · split
    · rename_i hconvars hzero
      refine ⟨?_, hconsistent.guarded.free hstack hzero,
        hconsistent.told.free hstack⟩
      -- Who has an observer is among the keys, and there are none.
      have hnone : state.convarObservers = [] :=
        List.eq_nil_iff_forall_not_mem.2 fun handle hmem => by
        have hused : (state.entries handle).used :=
          Or.inl ((hconsistent.listed.listed handle).1 hmem)
        have hkeyed := hconsistent.guarded.keyed handle (hconsistent.guarded.alive handle hused)
        rw [hconvars] at hkeyed
        cases hkeyed
      have hcount : state.observerCount = 0 := by rw [hconsistent.listed.counted, hnone]; rfl
      exact {
        nodup := hconsistent.listed.nodup
        counted := hconsistent.listed.counted
        installed := hconsistent.listed.installed
        attached := fun h => absurd hcount (Nat.pos_iff_ne_zero.1 h)
        listed := fun handle => (hconsistent.listed.listed handle).trans (by
          show _ ↔ (state.clearRetired handle).observer.isSome = true
          rw [clearRetired_congr ConVarEntry.observer fun _ => rfl]) }
    · exact hconsistent

theorem Consistent.create (hconsistent : Consistent main state) (handle : Nat) (object : Address) :
    Consistent main (state.create main handle object) := by
  unfold ConVarObservers.create
  split
  swap
  · exact hconsistent
  rename_i hnew
  simp only [Bool.and_eq_true, beq_iff_eq] at hnew
  obtain ⟨⟨hmay, _⟩, hmissing⟩ := hnew
  have hframes := hconsistent.guarded.mayCall hmay
  have hunused : ¬ (state.entries handle).used := fun hused => by
    have halive := hconsistent.guarded.alive handle hused
    rw [hmissing] at halive
    cases halive
  have hobserver : (state.entries handle).observer.isSome = false :=
    Bool.eq_false_iff.2 fun h => hunused (Or.inl h)
  have hactive : (state.entries handle).providerActive = 0 :=
    Nat.eq_zero_of_not_pos fun h => hunused (Or.inr h)
  have hentry : ¬ ConVarEntry.used (⟨object, .live, none, none, 0⟩ : ConVarEntry Value) := by
    rintro (h | h) <;> cases h
  refine ⟨hconsistent.listed.congr rfl rfl rfl id
    (update_congr (fun entry => entry.observer.isSome) hobserver.symm), ?_, ?_⟩
  · refine hconsistent.guarded.moveMain [] []
      ⟨object, .live, none, none, 0⟩ rfl rfl (Function.update_eq_self ..).symm rfl
      (fun frame hmem => by cases hmem) hactive.symm (fun _ => rfl) (fun h => by cases h)
      (fun other h => ?_) hframes (fun frame hmem => by cases hmem) (Nat.zero_le 1)
      (fun other hmem => Or.inr ⟨?_, hmem⟩)
    · have halive : (update state.entries handle ⟨object, .live, none, none, 0⟩
        other).standing.alive = true := h
      by_cases hother : other = handle
      · exact List.mem_cons.2 (Or.inl hother)
      · rw [update_of_ne hother] at halive
        exact List.mem_cons_of_mem _ (hconsistent.guarded.keyed other halive)
    · rintro rfl
      have hretired := hconsistent.guarded.retired other hmem
      rw [hmissing] at hretired
      cases hretired
  · refine hconsistent.told.move [] (fun other hmem => by cases hmem) rfl
      (update_congr ConVarEntry.observed (hconsistent.told.unseen handle hmissing).symm)
      (forall_update (P := fun other entry =>
        (state.entries other).standing.Advances entry.standing) ?_ fun _ => .refl _)
      (fun other => used_update (fun h => absurd h hentry)) fun other => rfl
    rw [hmissing]
    exact ⟨(fun h => by cases h), (fun h => by cases h), (fun _ => rfl)⟩

/-- An observer comes to the list, and with the first one the engine's callback. -/
theorem Listed.insert (hlisted : Listed state) (callback : Nat) (value : Value)
    (hcvar : state.cvar = true) (hobserver : (state.entries handle).observer.isSome = false)
    (history : List (Event Value)) :
    Listed ({ state.setEntry handle { state.entries handle with
        observer := some callback, observed := some value } with
      installed := if state.observerCount = 0 then true else state.installed
      convarObservers := state.convarObservers ++ [handle]
      observerCount := state.observerCount + 1
      history := history } : ConVarObservers Value) := by
  have hmissing : handle ∉ state.convarObservers := fun hmem => by
    rw [(hlisted.listed handle).1 hmem] at hobserver
    cases hobserver
  refine ⟨?_, ?_, ?_, fun _ => hcvar, fun other => ?_⟩
  · refine List.nodup_append.2 ⟨hlisted.nodup, List.nodup_singleton _,
      fun other hmem other' hmem' => ?_⟩
    rintro rfl
    exact hmissing (List.mem_singleton.1 hmem' ▸ hmem)
  · show state.observerCount + 1 = _
    rw [List.length_append, hlisted.counted]
    rfl
  · refine ⟨fun _ => Nat.succ_pos _, fun _ => ?_⟩
    show (if state.observerCount = 0 then true else state.installed) = true
    split
    · rfl
    · rename_i hcount
      exact hlisted.installed.2 (Nat.pos_of_ne_zero hcount)
  · rw [List.mem_append, List.mem_singleton]
    show _ ↔ (update state.entries handle _ other).observer.isSome = true
    by_cases hother : other = handle
    · subst hother
      rw [update_self]
      exact ⟨fun _ => rfl, fun _ => Or.inr rfl⟩
    · rw [update_of_ne hother, ← hlisted.listed other]
      exact ⟨(fun h => h.resolve_right hother), Or.inl⟩

theorem Consistent.observe (hconsistent : Consistent main state) {caller : Thread}
    (hmay : state.mayCall caller = true) (handle : Nat) (callback : Option Nat)
    (value : Except KeelResult Value) :
    Consistent main (state.observeConVar main caller handle callback value).1 := by
  unfold ConVarObservers.observeConVar
  split
  · exact hconsistent
  rename_i hcaller
  have hsame : caller = main := by_contra fun h => hcaller h
  subst hsame
  split
  · exact hconsistent
  rename_i callback
  split
  · exact hconsistent
  rename_i hcvar
  dsimp only
  split
  · exact hconsistent
  rename_i hentry
  obtain ⟨hlive, _⟩ := not_or.1 hentry
  have hlive : (state.entries handle).standing = .live := not_not.1 hlive
  split
  · exact hconsistent
  rename_i value
  split
  · exact hconsistent
  rename_i hobserver
  have hframes := hconsistent.guarded.mayCall hmay
  have htold := hconsistent.told
  have hstandings : ∀ other, (update state.entries handle { state.entries handle with
      observer := some callback, observed := some value } other).standing =
        (state.entries other).standing := update_congr ConVarEntry.standing rfl
  refine ⟨hconsistent.listed.insert callback value (Bool.not_eq_false _ ▸ hcvar)
    (Bool.not_eq_true _ ▸ hobserver) _, ?_, ?_⟩
  · refine hconsistent.guarded.moveMain [] []
      { state.entries handle with observer := some callback, observed := some value }
      rfl rfl (Function.update_eq_self ..).symm rfl (fun frame hmem => by cases hmem) rfl
      (fun _ => ?_) (fun h => ?_)
      (fun other h => hconsistent.guarded.keyed other (by rwa [← hstandings other])) hframes
      (fun frame hmem => by cases hmem) (Nat.zero_le 1) (fun other hmem => Or.inr ⟨?_, hmem⟩)
    · show (state.entries handle).standing.alive = true
      rw [hlive]
      rfl
    · rw [show (state.entries handle).standing = .freed from h] at hlive
      cases hlive
    · rintro rfl
      have hretired := hconsistent.guarded.retired other hmem
      rw [hlive] at hretired
      cases hretired
  · exact {
      last := fun other => by
        show (if handle = other then some value else lastCurrent other state.history) =
          (update state.entries handle _ other).observed
        by_cases hother : handle = other
        · subst hother
          rw [if_pos rfl, update_self]
        · rw [if_neg hother, update_of_ne (Ne.symm hother)]
          exact htold.last other
      seen := forall_update (P := fun _ entry => entry.used → entry.observed.isSome = true)
        (fun _ => rfl) htold.seen
      unseen := forall_update (P := fun _ entry => entry.standing = .missing →
        entry.observed = none)
        (fun h => by
          rw [show (state.entries handle).standing = .missing from h] at hlive
          cases hlive) htold.unseen
      underWay := htold.underWay
      ended := fun other hmem => by
        rw [← htold.ended other ((List.mem_cons.1 hmem).resolve_left fun heq => by cases heq)]
        exact congrArg Standing.ended (hstandings other)
      dead := fun other hmem => by
        rw [← htold.dead other ((List.mem_cons.1 hmem).resolve_left fun heq => by cases heq)]
        exact hstandings other
      lawful := ⟨trivial, htold.lawful⟩ }

theorem Consistent.goOn (hconsistent : Consistent main state) (thread : Thread)
    (current : Option Value) (first : Nat) :
    Consistent main (state.goOn main thread current first) := by
  have hmain : ∀ {frame : Frame} {frames : List Frame}, state.callStacks thread = frame :: frames →
      frame.Fits main thread state.entries := fun hstack =>
    hconsistent.guarded.fits thread _ (hstack ▸ List.mem_cons_self)
  unfold ConVarObservers.goOn
  split
  · exact hconsistent
  · rename_i object slot frames hstack
    split
    · exact hconsistent.leave hstack rfl (fun _ => rfl) fun _ => rfl
    · exact hconsistent.select hstack
  · rename_i frames hstack
    exact hconsistent.leave hstack rfl (fun _ => rfl) fun _ => rfl
  · rename_i handle rest frames hstack
    exact hconsistent.enter hstack
  · rename_i handle rest frames hstack
    exact hconsistent.notify hstack current
  · exact hconsistent
  · rename_i handle rest frames hstack
    exact hconsistent.pass hstack rfl rfl (fun _ => rfl) fun _ => rfl
  · rename_i handle frames hstack
    obtain ⟨rfl, _⟩ := hmain hstack
    exact hconsistent.removeObserver hstack
  · rename_i handle frames hstack
    obtain ⟨rfl, _⟩ := hmain hstack
    exact hconsistent.retire hstack
  · rename_i frames hstack
    have hsame : thread = main := hmain hstack
    subst hsame
    exact hconsistent.stopConVars hstack first

theorem Consistent.step (hconsistent : Consistent main state) (input : ObserverInput Value) :
    Consistent main (state.step main input) := by
  cases input with
  | start => exact hconsistent.start
  | create handle object => exact hconsistent.create handle object
  | observe caller handle callback value =>
    simp only [ConVarObservers.step]
    split
    · rename_i hmay
      exact hconsistent.observe hmay handle callback value
    · exact hconsistent
  | release handle =>
    simp only [ConVarObservers.step]
    split
    · rename_i hmay
      exact hconsistent.releaseConVar rfl (hconsistent.guarded.mayCall hmay) handle
    · exact hconsistent
  | stop =>
    simp only [ConVarObservers.step]
    split
    · rename_i hmay
      exact hconsistent.stop hmay
    · exact hconsistent
  | change thread object slot =>
    simp only [ConVarObservers.step]
    split
    · rename_i hmay
      exact hconsistent.globalConVarChanged hmay object slot
    · exact hconsistent
  | goOn thread current first => exact hconsistent.goOn thread current first
  | returns thread throws => exact hconsistent.returns throws

end Moves

/-! ## The law of a run -/

/-- **Observers of console variables.** Whatever the threads do: the list has each entry with an
observer once, the counter is its length, such entries are alive, and the engine's callback is
installed when there are any; and the history keeps `observerLaw`. -/
theorem convar_observers_lawful (main : Thread) (inputs : List (ObserverInput Value)) :
    (run (ConVarObservers.step main) .initial inputs).convarObservers.Nodup
      ∧ (run (ConVarObservers.step main) .initial inputs).observerCount =
        (run (ConVarObservers.step main) .initial inputs).convarObservers.length
      ∧ (∀ handle, handle ∈ (run (ConVarObservers.step main) .initial inputs).convarObservers ↔
        ((run (ConVarObservers.step main) .initial inputs).entries handle).standing.alive = true ∧
          ((run (ConVarObservers.step main) .initial inputs).entries handle).observer.isSome = true)
      ∧ ((run (ConVarObservers.step main) .initial inputs).installed = true ↔
        0 < (run (ConVarObservers.step main) .initial inputs).observerCount)
      ∧ Lawful observerLaw (run (ConVarObservers.step main) .initial inputs).history := by
  have hconsistent : Consistent main (run (ConVarObservers.step main) .initial inputs) :=
    run_invariant (fun _ input hconsistent => hconsistent.step input) (consistent_initial main)
      inputs
  refine ⟨hconsistent.listed.nodup, hconsistent.listed.counted, fun handle => ?_,
    hconsistent.listed.installed, hconsistent.told.lawful⟩
  rw [hconsistent.listed.listed handle]
  exact ⟨fun hobserver => ⟨hconsistent.guarded.alive handle (Or.inl hobserver), hobserver⟩,
    fun h => h.2⟩

end KeelS2.Adapter.Observers
