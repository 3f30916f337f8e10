import KeelS2.Plugins.EventOrder

/-!
# The law of the events, over every run

`Goes` says what a step of the manager is for those who wait for the events: one thread goes on,
and what it comes to owe is what the plugin's record has gone through. Every step of the machine
is of that kind, so a run in which the subscriber's turn is waited for keeps the law.
-/

namespace KeelS2.Plugins
namespace Host

variable {host after : Host} {handle other : KeelPluginHandle} {plugin : PluginRecord}
variable {kind : Kind} {call : Call} {leaf : Leaf} {calls rest : List Call} {failed : Bool}

theorem Turned.replaced (hturned : Turned host handle kind call after leaf)
    (hplugin : host.pluginByHandle handle = some plugin)
    (hleaf : leaf = .script (.start false) other (.publish .loaded :: rest) failed) :
    Phase.paused.Fits after other := by
  cases hturned with
  | returns => cases hleaf
  | continues _ hsilent =>
    cases hleaf
    cases hsilent
  | settles _ hbecomes =>
    cases hleaf
    obtain ⟨now, hnow, _, hstate⟩ := hbecomes.found hplugin
    exact ⟨now, hnow, hstate⟩
  | announces => cases hleaf
  | fails _ hsilent =>
    cases hleaf
    cases hsilent
  | retains => cases hleaf
  | closes => cases hleaf
  | pauses => cases hleaf
  | unloads => cases hleaf

theorem Turned.pausing (hturned : Turned host handle kind call after leaf)
    (hleaf : leaf = .script .pause handle calls failed) (hmem : .preparePause ∈ calls)
    (hrunning : Phase.running.Fits host handle) : Phase.running.Fits after handle := by
  cases hturned with
  | returns => cases hleaf
  | continues hkeeps => exact hkeeps.quiet handle _ hrunning
  | settles => cases hleaf
  | announces => cases hleaf
  | fails => cases hleaf
  | retains => cases hleaf
  | closes => cases hleaf
  | pauses =>
    cases hleaf
    simp at hmem
  | unloads => cases hleaf

end Host

namespace Stream

open Lib (run Heeds)

variable {stream after : Stream} {machine : Machine} {thread other : Nat}
variable {handle : KeelPluginHandle}

/-! ## A step, as the subscriber sees it -/

/-- What the thread comes to owe of a plugin, the record goes through; or an event of it is lost. -/
structure Moves (stream after : Stream) (thread : Nat) (handle : KeelPluginHandle)
    (events : List PluginEvent) : Prop where
  owed : after.owed thread handle = stream.owed thread handle ++ events ∨
    after.missed handle = true ∧ stream.owed thread handle ≠ []
  follows : ∀ phase : Phase, phase.Fits stream.machine.host handle → ∃ next : Phase,
    phase.follow events = some next ∧ next.Fits after.machine.host handle
  /-- Nobody else has anything of the plugin to deliver. -/
  alone : events ≠ [] → stream.Party thread handle ∨
    (∃ hold, (after.machine.tasks thread).leaf.hold = some (hold, handle)) ∧
      ∀ other, stream.owed other handle = []

structure Goes (stream after : Stream) (thread : Nat) : Prop where
  tasks : ∀ other, other ≠ thread →
    after.machine.tasks other = stream.machine.tasks other
  publications : ∀ other, other ≠ thread → after.publications other = stream.publications other
  placed : after.Placed thread
  carried : ∀ handle, after.carried thread handle = stream.carried thread handle
  moves : ∀ handle, ∃ events, Moves stream after thread handle events
  /-- What it takes to be its own nobody has anything to deliver of. -/
  takes : ∀ hold handle, (after.machine.tasks thread).leaf.hold = some (hold, handle) →
    (∃ held, (stream.machine.tasks thread).leaf.hold = some (held, handle)) ∨
      ∀ other, stream.owed other handle = []
  replaced : ∀ handle rest failed, (after.machine.tasks thread).leaf =
      .script (.start false) handle (.publish .loaded :: rest) failed →
    Phase.paused.Fits after.machine.host handle
  pausing : ∀ handle calls failed, (after.machine.tasks thread).leaf =
      .script .pause handle calls failed → .preparePause ∈ calls →
    Phase.running.Fits after.machine.host handle
  /-- What others hold stands. -/
  stands : ∀ other, other ≠ thread → ∀ hold handle,
    (stream.machine.tasks other).leaf.hold = some (hold, handle) →
      Option.Rel Stands (stream.machine.host.pluginByHandle handle)
        (after.machine.host.pluginByHandle handle)
  published : after.published = stream.published
  received : after.received = stream.received
  sequence : after.nextEventSequence = stream.nextEventSequence
  missed : ∀ handle, after.missed handle = false → stream.missed handle = false

namespace Goes

theorem owed_other (hgoes : Goes stream after thread) (hne : other ≠ thread)
    (handle : KeelPluginHandle) : after.owed other handle = stream.owed other handle := by
  unfold owed
  rw [hgoes.tasks other hne, hgoes.publications other hne]

theorem carried_all (hgoes : Goes stream after thread) (other : Nat)
    (handle : KeelPluginHandle) : after.carried other handle = stream.carried other handle := by
  by_cases hother : other = thread
  · rw [hother]
    exact hgoes.carried handle
  · unfold Stream.carried sent
    rw [hgoes.tasks other hother, hgoes.publications other hother]

theorem owed_mine {events : List PluginEvent} (hmoves : Moves stream after thread handle events)
    (howed : after.owed thread handle ≠ []) : stream.owed thread handle ≠ [] ∨ events ≠ [] := by
  rcases hmoves.owed with hmine | ⟨_, hmine⟩
  · by_contra hno
    push Not at hno
    rw [hmine, hno.1, hno.2] at howed
    exact howed rfl
  · exact .inl hmine

section

variable (hgoes : Goes stream after thread)

include hgoes

theorem sole {events : List PluginEvent} (hmoves : Moves stream after thread handle events)
    (hthere : after.missed handle = false) (hsole : after.Sole other handle) :
    stream.Sole other handle ∧
      after.owed other handle = stream.owed other handle ++ events := by
  have hmine : after.owed thread handle = stream.owed thread handle ++ events := by
    rcases hmoves.owed with hmine | ⟨hmissed, _⟩
    · exact hmine
    · rw [hthere] at hmissed
      cases hmissed
  by_cases hother : other = thread
  · subst hother
    refine ⟨fun third hne => ?_, hmine⟩
    rw [← hgoes.owed_other hne handle]
    exact hsole third hne
  · have hnone := hsole thread (Ne.symm hother)
    rw [hmine, List.append_eq_nil_iff] at hnone
    refine ⟨fun third hne => ?_, ?_⟩
    · by_cases hthird : third = thread
      · rw [hthird]
        exact hnone.1
      · rw [← hgoes.owed_other hthird handle]
        exact hsole third hne
    · rw [hgoes.owed_other hother, hnone.2, List.append_nil]

theorem not_party (hsound : Sound stream) (hsafe : Host.Safe after.machine.host after.machine.tasks)
    (hne : other ≠ thread) (hmine : after.Party thread handle) : ¬after.Party other handle := by
  intro hparty
  have hbefore : stream.Party other handle := by
    unfold Party at hparty ⊢
    rwa [hgoes.owed_other hne handle, hgoes.tasks other hne] at hparty
  have hheld : ∀ hold, (after.machine.tasks thread).leaf.hold = some (hold, handle) →
      (∀ third, stream.owed third handle = []) → False := by
    intro hold hhold hnone
    rcases hbefore with howed | ⟨held, hheld⟩
    · exact howed (hnone other)
    · rw [← hgoes.tasks other hne] at hheld
      exact hsafe.apart thread other (Ne.symm hne) hold held handle hhold hheld
  rcases hmine with howed | ⟨hold, hhold⟩
  · obtain ⟨events, hmoves⟩ := hgoes.moves handle
    rcases owed_mine hmoves howed with hold | hevents
    · exact hsound.apart other thread hne handle hbefore (.inl hold)
    · rcases hmoves.alone hevents with hparty | ⟨⟨hold, hhold⟩, hnone⟩
      · exact hsound.apart other thread hne handle hbefore hparty
      · exact hheld hold hhold hnone
  · rcases hgoes.takes hold handle hhold with ⟨held, hheld⟩ | hnone
    · exact hsound.apart other thread hne handle hbefore (.inr ⟨held, hheld⟩)
    · exact hheld hold hhold hnone

theorem quiet (hsound : Sound stream) (hne : other ≠ thread) (howed : stream.owed other handle ≠ []) :
    Host.Quiet stream.machine.host after.machine.host handle := by
  obtain ⟨events, hmoves⟩ := hgoes.moves handle
  have hnone : events = [] := by
    by_contra hevents
    rcases hmoves.alone hevents with hparty | ⟨_, hnone⟩
    · exact hsound.apart other thread hne handle (.inl howed) hparty
    · exact howed (hnone other)
  subst hnone
  intro phase hfits
  obtain ⟨next, hfollow, hnext⟩ := hmoves.follows phase hfits
  cases hfollow
  exact hnext

theorem sound (hsound : Sound stream) (hsafe : Host.Safe after.machine.host after.machine.tasks)
    (himaged : Host.Imaged after.machine.host after.machine.tasks) (hbusy : after.machine.Busy) :
    Sound after where
  safe := hsafe
  imaged := himaged
  busy := hbusy
  placed other := by
    by_cases hother : other = thread
    · rw [hother]
      exact hgoes.placed
    · have hplaced := hsound.placed other
      constructor
      · rw [hgoes.publications other hother, hgoes.tasks other hother]
        exact hplaced.publishing
      · rw [hgoes.publications other hother, hgoes.tasks other hother]
        exact hplaced.answered
  apart first second hne handle hfirst hsecond := by
    by_cases hmine : first = thread
    · subst hmine
      exact hgoes.not_party hsound hsafe (Ne.symm hne) hfirst hsecond
    by_cases hother : second = thread
    · subst hother
      exact hgoes.not_party hsound hsafe hne hsecond hfirst
    have hbefore : ∀ third, third ≠ thread → after.Party third handle →
        stream.Party third handle := by
      intro third hthird hparty
      unfold Party at hparty ⊢
      rwa [hgoes.owed_other hthird handle, hgoes.tasks third hthird] at hparty
    exact hsound.apart first second hne handle (hbefore first hmine hfirst)
      (hbefore second hother hsecond)
  served other handle howed := by
    obtain ⟨events, hmoves⟩ := hgoes.moves handle
    by_cases hother : other = thread
    · subst hother
      by_cases hevents : events = []
      · have hbefore := (owed_mine hmoves howed).resolve_right (not_not.2 hevents)
        obtain ⟨phase, hphase, hfits⟩ := hsound.served other handle hbefore
        obtain ⟨next, hfollow, hnext⟩ := hmoves.follows phase hfits
        rw [hevents] at hfollow
        cases hfollow
        exact ⟨phase, hphase, hnext⟩
      · obtain ⟨phase, hfits⟩ := Host.fits_exists stream.machine.host handle
        obtain ⟨next, hfollow, hnext⟩ := hmoves.follows phase hfits
        exact ⟨next, Phase.follow_ne_fresh hfollow hevents, hnext⟩
    · rw [hgoes.owed_other hother] at howed
      obtain ⟨phase, hphase, hfits⟩ := hsound.served other handle howed
      exact ⟨phase, hphase, hgoes.quiet hsound hother howed phase hfits⟩
  replaced other handle rest failed hleaf := by
    by_cases hother : other = thread
    · rw [hother] at hleaf
      exact hgoes.replaced handle rest failed hleaf
    · rw [hgoes.tasks other hother] at hleaf
      have howed : stream.owed other handle ≠ [] := by
        unfold owed
        rw [hleaf]
        simp only [Leaf.owes, if_true]
        split_ifs <;> simp
      exact hgoes.quiet hsound hother howed _ (hsound.replaced other handle rest failed hleaf)
  pausing other handle calls failed hleaf hmem := by
    by_cases hother : other = thread
    · rw [hother] at hleaf
      exact hgoes.pausing handle calls failed hleaf hmem
    · rw [hgoes.tasks other hother] at hleaf
      have hrel := hgoes.stands other hother .stopping handle (by rw [hleaf]; rfl)
      obtain ⟨plugin, hplugin, hstate⟩ := hsound.pausing other handle calls failed hleaf hmem
      rw [hplugin] at hrel
      show ∃ plugin, after.machine.host.pluginByHandle handle = some plugin ∧ plugin.state = .loaded
      generalize after.machine.host.pluginByHandle handle = found at hrel ⊢
      cases hrel with
      | some hstands => exact ⟨_, rfl, hstands.state.trans hstate⟩
  law handle hthere other hsole := by
    obtain ⟨events, hmoves⟩ := hgoes.moves handle
    obtain ⟨hbefore, howed⟩ := hgoes.sole hmoves hthere hsole
    obtain ⟨phase, hfollow, hfits⟩ := hsound.law handle (hgoes.missed handle hthere) other hbefore
    obtain ⟨next, hmore, hnext⟩ := hmoves.follows phase hfits
    refine ⟨next, ?_, hnext⟩
    have hreceived : after.receivedOf handle = stream.receivedOf handle := by
      unfold receivedOf
      rw [hgoes.received]
    rw [hreceived, howed, ← List.append_assoc, Phase.follow_append, hfollow]
    exact hmore
  complete handle hthere other hsole := by
    obtain ⟨events, hmoves⟩ := hgoes.moves handle
    obtain ⟨hbefore, _⟩ := hgoes.sole hmoves hthere hsole
    unfold publishedOf receivedOf
    rw [hgoes.published, hgoes.received, hgoes.carried_all other handle]
    exact hsound.complete handle (hgoes.missed handle hthere) other hbefore
  increasing := by
    rw [hgoes.published]
    exact hsound.increasing
  bound := by
    rw [hgoes.sequence]
    exact hsound.bound
  below := by
    rw [hgoes.published, hgoes.sequence]
    exact hsound.below

end

end Goes

/-! ## Behind a step of the manager -/

/-- What a step of the manager does besides. -/
structure Managed (stream after : Stream) : Prop where
  publications : after.publications = stream.publicationAfter after.machine
  published : after.published = stream.published
  received : after.received = stream.received
  sequence : after.nextEventSequence = stream.nextEventSequence
  missed : ∀ handle, after.missed handle = false → stream.missed handle = false

variable {inside : Option Nat} {action : Action}

namespace Managed

section

variable (hmanaged : Managed stream after)

include hmanaged

theorem publications_same (hplaced : stream.Placed thread)
    (htask : after.machine.tasks thread = stream.machine.tasks thread) :
    after.publications thread = stream.publications thread := by
  rw [hmanaged.publications]
  unfold publicationAfter
  rw [htask]
  by_cases hworking : (stream.machine.tasks thread).status = .working
  · rw [if_pos hworking]
    by_contra hsome
    have hpublishes := hplaced.publishing.1 (Option.isSome_iff_ne_none.2 (Ne.symm hsome))
    exact hpublishes.2 hworking
  · rw [if_neg hworking, if_neg hworking]

theorem publications_working (hworking : (after.machine.tasks thread).status = .working) :
    after.publications thread = none := by
  rw [hmanaged.publications]
  exact if_pos hworking

theorem owed_working (hworking : (after.machine.tasks thread).status = .working)
    (handle : KeelPluginHandle) :
    after.owed thread handle = (after.machine.tasks thread).leaf.owes handle := by
  refine owed_of_not_passed ?_
  rw [hmanaged.publications_working hworking]
  simp

theorem goes_on (hsound : Sound stream)
    (htasks : ∀ other, other ≠ thread → after.machine.tasks other = stream.machine.tasks other)
    (hworking : (after.machine.tasks thread).status = .working)
    (hcarried : ∀ handle, stream.carried thread handle = [])
    (hmoves : ∀ handle, ∃ events, Moves stream after thread handle events)
    (htakes : ∀ hold handle, (after.machine.tasks thread).leaf.hold = some (hold, handle) → (∃ held,
      (stream.machine.tasks thread).leaf.hold = some (held, handle)) ∨ ∀ other, stream.owed other
      handle = [])
    (hreplaced : ∀ handle rest failed, (after.machine.tasks thread).leaf = .script (.start false)
      handle (.publish .loaded :: rest) failed → Phase.paused.Fits after.machine.host handle)
    (hpausing : ∀ handle calls failed, (after.machine.tasks thread).leaf = .script .pause handle
      calls failed → .preparePause ∈ calls → Phase.running.Fits after.machine.host handle)
    (hstands : ∀ other, other ≠ thread → ∀ hold handle, (stream.machine.tasks other).leaf.hold =
      some (hold, handle) → Option.Rel Stands (stream.machine.host.pluginByHandle handle)
      (after.machine.host.pluginByHandle handle)) : Goes stream after thread where
  tasks := htasks
  publications other hne := hmanaged.publications_same (hsound.placed other) (htasks other hne)
  placed := by
    constructor
    · rw [hmanaged.publications_working hworking]
      simp [hworking]
    · intro answer hstatus
      rw [hworking] at hstatus
      cases hstatus
  carried handle := by
    rw [hcarried handle]
    unfold Stream.carried
    rw [hmanaged.publications_working hworking]
  moves := hmoves
  takes := htakes
  replaced := hreplaced
  pausing := hpausing
  stands := hstands
  published := hmanaged.published
  received := hmanaged.received
  sequence := hmanaged.sequence
  missed := hmanaged.missed

end

end Managed

theorem Moves.of_quiet (howed : after.owed thread handle = stream.owed thread handle)
    (hquiet : Host.Quiet stream.machine.host after.machine.host handle) :
    Moves stream after thread handle [] where
  owed := .inl (howed.trans (List.append_nil _).symm)
  follows phase hfits := ⟨phase, rfl, hquiet phase hfits⟩
  alone hbad := absurd rfl hbad

theorem settle_leaf {host : Host} {kind : Kind} {call : Call} {rest : List Call}
    {failed : Bool} {own : KeelPluginHandle} {answer : Answer} :
    (∃ result, (host.settle kind own failed answer call rest).2 = .returned result) ∨
      ∃ later failed', later <:+ rest ∧
        (host.settle kind own failed answer call rest).2 = .script kind own later failed' := by
  rcases hturn : host.turn kind own (failed || call.refused answer) answer call with ⟨next, turn⟩
  rw [Host.settle_eq hturn]
  cases turn with
  | next => exact .inr ⟨rest, _, List.suffix_refl rest, rfl⟩
  | skipTo target => exact .inr ⟨_, _, List.dropWhile_suffix _, rfl⟩
  | stop result => exact .inl ⟨_, rfl⟩

namespace Managed

theorem stays (hmanaged : Managed stream after) (hsound : Sound stream)
    (htasks : ∀ other, other ≠ thread → after.machine.tasks other = stream.machine.tasks other)
    (hleaf : (after.machine.tasks thread).leaf = (stream.machine.tasks thread).leaf)
    (hworking : (after.machine.tasks thread).status = .working →
      (stream.machine.tasks thread).status = .working)
    (hanswered : ∀ answer, (after.machine.tasks thread).status = .answered answer →
      (stream.machine.tasks thread).status ≠ .working ∧
        ∀ publication ∈ stream.publications thread, publication = .passed)
    (hstanding : Host.Standing stream.machine.host after.machine.host)
    (hallotted : ∀ handle, stream.machine.host.Allotted handle →
      after.machine.host.Allotted handle) : Goes stream after thread := by
  have hplaced := hsound.placed thread
  have hnone : (stream.machine.tasks thread).status = .working →
      stream.publications thread = none := by
    intro hstatus
    by_contra hsome
    exact (hplaced.publishing.1 (Option.isSome_iff_ne_none.2 hsome)).2 hstatus
  have hafter : after.publications thread = stream.publicationAfter after.machine thread := by
    rw [hmanaged.publications]
  unfold publicationAfter at hafter
  -- a publication can only begin here
  have hpublication : after.publications thread = stream.publications thread ∨
      stream.publications thread = none ∧ after.publications thread = some .called := by
    split_ifs at hafter with hnow hbefore hpublishes
    · exact .inl (hafter.trans (hnone (hworking hnow)).symm)
    · exact .inr ⟨hnone hbefore, hafter⟩
    · exact .inl (hafter.trans (hnone hbefore).symm)
    · exact .inl hafter
  have howed : ∀ handle, after.owed thread handle = stream.owed thread handle := by
    intro handle
    unfold owed
    rw [hleaf]
    rcases hpublication with hsame | ⟨hbefore, hnow⟩
    · rw [hsame]
    · rw [hbefore, hnow]
      simp
  have hquiet : ∀ handle, Host.Quiet stream.machine.host after.machine.host handle :=
    fun handle => .of_rel (hstanding handle) (hallotted handle)
  refine ⟨htasks, fun other hne => hmanaged.publications_same (hsound.placed other)
    (htasks other hne), ⟨?_, fun answer hstatus => ?_⟩, fun handle => ?_,
    fun handle => ⟨[], .of_quiet (howed handle) (hquiet handle)⟩, fun hold handle hhold => ?_,
    fun handle rest failed hscript => ?_, fun handle calls failed hscript hmem => ?_,
    fun other _ hold handle _ => hstanding handle, hmanaged.published, hmanaged.received,
    hmanaged.sequence, hmanaged.missed⟩
  · rw [hafter, hleaf]
    split_ifs with hnow hbefore hpublishes
    · simp [hnow]
    · simp [hnow, hpublishes]
    · simp [hpublishes]
    · rw [hplaced.publishing]
      simp [hnow, hbefore]
  · obtain ⟨hnot, hpassed⟩ := hanswered answer hstatus
    rcases hpublication with hsame | ⟨hbefore, hnow⟩
    · rw [hsame]
      exact hpassed
    · rw [if_neg (by simp [hstatus]), if_neg hnot, hbefore, hnow] at hafter
      cases hafter
  · unfold Stream.carried sent
    rw [hleaf]
    rcases hpublication with hsame | ⟨hbefore, hnow⟩
    · rw [hsame]
    · rw [hbefore, hnow]
  · rw [hleaf] at hhold
    exact .inl ⟨hold, hhold⟩
  · rw [hleaf] at hscript
    exact hquiet handle _ (hsound.replaced thread handle rest failed hscript)
  · rw [hleaf] at hscript
    exact hquiet handle _ (hsound.pausing thread handle calls failed hscript hmem)

theorem returns (hmanaged : Managed stream after) (hsound : Sound stream)
    (htasks : ∀ other, other ≠ thread → after.machine.tasks other = stream.machine.tasks other)
    (howed : ∀ handle, stream.owed thread handle = []) (result : Result)
    (hleaf : (after.machine.tasks thread).leaf = .returned result)
    (hworking : (after.machine.tasks thread).status = .working)
    (hquiet : ∀ handle, Host.Quiet stream.machine.host after.machine.host handle)
    (hstands : ∀ other, other ≠ thread → ∀ hold handle,
      (stream.machine.tasks other).leaf.hold = some (hold, handle) →
        Option.Rel Stands (stream.machine.host.pluginByHandle handle)
          (after.machine.host.pluginByHandle handle)) : Goes stream after thread := by
  refine hmanaged.goes_on hsound htasks hworking (fun handle => carried_nil (howed handle))
    (fun handle => ⟨[], .of_quiet ?_ (hquiet handle)⟩) (fun hold handle hhold => ?_)
    (fun handle rest failed hscript => ?_) (fun handle calls failed hscript => ?_) hstands
  · rw [hmanaged.owed_working hworking, howed handle, hleaf]
    rfl
  · rw [hleaf] at hhold
    cases hhold
  · rw [hleaf] at hscript
    cases hscript
  · rw [hleaf] at hscript
    cases hscript

theorem opens (hmanaged : Managed stream after) (hsound : Sound stream)
    (htasks : ∀ other, other ≠ thread → after.machine.tasks other = stream.machine.tasks other)
    (hworking : (after.machine.tasks thread).status = .working) {result : Result}
    (hreturned : (stream.machine.tasks thread).leaf = .returned result) {files : Files}
    {owned : List KeelPluginHandle} {next : Next}
    (hopened : Host.Opened stream.machine.host files owned next)
    (hhost : after.machine.host = next.host)
    (hleaf : (after.machine.tasks thread).leaf = next.leaf)
    (howned : ∀ handle ∈ owned, handle ∈ (stream.machine.tasks thread).owned)
    (horderly : ∀ handle ∈ next.leaf.transits, ∀ other, stream.owed other handle = []) :
    Goes stream after thread := by
  have hnone : ∀ handle, stream.owed thread handle = [] := by
    intro handle
    unfold owed
    rw [hreturned]
    split_ifs <;> rfl
  have howes : ∀ handle, after.owed thread handle = next.leaf.owes handle := by
    intro handle
    rw [hmanaged.owed_working hworking, hleaf]
  obtain ⟨middle, hclears, hbegins⟩ := id hopened
  have hnumbered := hclears.numbered hsound.safe.numbered
  have hquiet := hclears.quiet
  have hgoes := hbegins.goes hnumbered
  refine hmanaged.goes_on hsound htasks hworking (fun handle => carried_nil (hnone handle))
    (fun handle => ?_) (fun hold handle hhold => .inr fun other => ?_)
    (fun handle rest failed hscript => ?_) (fun handle calls failed hscript _ => ?_)
    fun other hne hold handle hheld => ?_
  · rcases hgoes handle with ⟨hleaves, hno⟩ | ⟨hpaused, hrunning, hyes, htransits, hhold⟩
    · refine ⟨[], .of_quiet ?_ ?_⟩
      · rw [howes, hno, hnone]
      · rw [hhost]
        exact (hquiet handle).trans hleaves
    · refine ⟨[.resumed], .inl ?_, fun phase hfits => ?_, fun _ => .inr ⟨⟨.resuming, ?_⟩, ?_⟩⟩
      · rw [howes, hyes, hnone]
        rfl
      · rw [Host.fits_paused (hquiet handle phase hfits) hpaused, hhost]
        exact ⟨.running, rfl, hrunning⟩
      · rw [hleaf]
        exact hhold
      · exact horderly handle htransits
  · by_contra howed
    obtain ⟨phase, hphase, hfits⟩ := hsound.served other handle howed
    have hmiddle := hquiet handle phase hfits
    rw [hleaf] at hhold
    rcases hbegins.takes hnumbered hhold with hnew | htransits | ⟨plugin, hplugin, hloading⟩
    · exact hnew (Host.fits_allotted hnumbered hmiddle hphase)
    · exact howed (horderly handle htransits other)
    · exact hphase (Host.fits_idle hmiddle hplugin (by simp [hloading]))
  · rw [hleaf] at hscript
    rcases hgoes handle with ⟨_, hno⟩ | ⟨_, _, hyes, _⟩
    · rw [hscript] at hno
      simp [Leaf.owes] at hno
    · rw [hscript] at hyes
      simp [Leaf.owes] at hyes
  · rw [hhost]
    exact hbegins.pausing (hleaf.symm.trans hscript)
  · rw [hhost]
    exact Host.rel_of_same (Machine.opened_kept hsound.safe hsound.imaged hopened howned hne hheld)

variable {kind : Kind} {rest : List Call} {failed : Bool} {own : KeelPluginHandle}

theorem tells (hmanaged : Managed stream after) (hsound : Sound stream)
    (htasks : ∀ other, other ≠ thread → after.machine.tasks other = stream.machine.tasks other)
    (hworking : (after.machine.tasks thread).status = .working) {event : PluginEvent}
    (hscript : (stream.machine.tasks thread).leaf = .script kind own (.publish event :: rest)
      failed)
    (hkeeps : Host.Keeps own stream.machine.host after.machine.host)
    (hhold : (after.machine.tasks thread).leaf.hold = none)
    (howes : ∀ handle, (after.machine.tasks thread).leaf.owes handle = ((stream.machine.tasks
      thread).leaf.owes handle).tail)
    (hcarried : ∀ handle, stream.carried thread handle = [])
    (hheard : stream.publications thread = some .passed ∨ after.missed own = true)
    (hstands : ∀ other, other ≠ thread → ∀ hold handle, (stream.machine.tasks other).leaf.hold =
      some (hold, handle) → Option.Rel Stands (stream.machine.host.pluginByHandle handle)
      (after.machine.host.pluginByHandle handle)) : Goes stream after thread := by
  refine hmanaged.goes_on hsound htasks hworking hcarried (fun handle => ?_)
    (fun hold handle hheld => ?_) (fun handle later failed' hleaf => ?_)
    (fun handle calls failed' hleaf => ?_) hstands
  · refine ⟨[], ?_, fun phase hfits => ⟨phase, rfl, hkeeps.quiet handle phase hfits⟩,
      fun hbad => absurd rfl hbad⟩
    rw [hmanaged.owed_working hworking, howes, List.append_nil]
    by_cases hpassed : stream.publications thread = some .passed
    · exact .inl (owed_of_passed hpassed).symm
    rw [owed_of_not_passed hpassed, hscript]
    by_cases hown : handle = own
    · subst hown
      refine .inr ⟨hheard.resolve_left hpassed, ?_⟩
      obtain ⟨later, hlater⟩ := owes_of_publishes
        (show (Leaf.script kind handle (.publish event :: rest) failed).publishes =
          some (event, some handle) from rfl)
      rw [hlater]
      exact List.cons_ne_nil _ _
    · rw [Host.owes_ne hown]
      exact .inl rfl
  · rw [hhold] at hheld
    cases hheld
  · -- two events are owed only before the first of them
    have htwo := howes handle
    have hone : ((stream.machine.tasks thread).leaf.owes handle).length ≤ 2 := by
      unfold Leaf.owes
      split
      · split_ifs <;> simp
      · split_ifs <;> simp
      · simp
    have howed : (Leaf.script (.start false) handle (.publish .loaded :: later) failed').owes
        handle = [.loaded, .paused] := if_pos rfl
    rw [hleaf, howed] at htwo
    have hlength := congrArg List.length htwo
    rw [List.length_tail, List.length_cons, List.length_singleton] at hlength
    omega
  · rw [hleaf] at hhold
    cases hhold

theorem turns (hmanaged : Managed stream after) (hsound : Sound stream)
    (htasks : ∀ other, other ≠ thread → after.machine.tasks other = stream.machine.tasks other)
    (hworking : (after.machine.tasks thread).status = .working) {host : Host} {call : Call}
    {answer : Answer}
    (hscript : (stream.machine.tasks thread).leaf = .script kind own (call :: rest) failed)
    (hstanding : Host.Standing stream.machine.host host)
    (hstill : Host.Still stream.machine.host host)
    (hhost : after.machine.host = (host.settle kind own failed answer call rest).1)
    (hleaf : (after.machine.tasks thread).leaf = (host.settle kind own failed answer call rest).2)
    (hsilent : call.publishes = false)
    (hstands : ∀ other, other ≠ thread → ∀ hold handle, (stream.machine.tasks other).leaf.hold =
      some (hold, handle) → Option.Rel Stands (stream.machine.host.pluginByHandle handle)
      (after.machine.host.pluginByHandle handle)) : Goes stream after thread := by
  have hformed := hsound.safe.formed thread
  rw [hscript] at hformed
  have hquiet : ∀ handle, Host.Quiet stream.machine.host host handle :=
    fun handle => .of_rel (hstanding handle) hstill.allotted
  have hturned : Host.Turned host own kind call (host.settle kind own failed answer call rest).1
      (host.settle kind own failed answer call rest).2 :=
    Machine.settle_turned hsound.safe hsound.imaged hscript
  rw [← hhost, ← hleaf] at hturned
  have howed : ∀ handle, stream.owed thread handle = [] := by
    intro handle
    have hsilently : Host.Silent (call :: rest) := hsilent
    unfold owed
    rw [hscript, Host.owes_silent hsilently]
    split_ifs <;> rfl
  -- the plugin is there, in the state that its holder knows of
  obtain ⟨hold, hhold⟩ := Host.hold_of_silent hformed hsilent
  have hmine : (stream.machine.tasks thread).leaf.hold = some (hold, own) := by
    rw [hscript]
    exact hhold
  obtain ⟨plugin, hplugin⟩ : ∃ plugin, host.pluginByHandle own = some plugin := by
    have hopen := (Host.openImage_of_rel (hstanding own)).trans
      ((hsound.imaged.grips thread).held hold own hmine)
    obtain ⟨plugin, hplugin, _⟩ := Option.map_eq_some_iff.1 hopen
    exact ⟨plugin, hplugin⟩
  have hok := hstill.ok (hsound.safe.held thread hold own hmine).2 plugin hplugin
  obtain ⟨_, _, hchange, _⟩ := hstill.change
  have hnumbered := hchange.numbered hsound.safe.numbered
  have hrunning : kind = .pause → .preparePause ∈ call :: rest →
      Phase.running.Fits host own := by
    intro hkind hmem
    subst hkind
    exact hquiet own _ (hsound.pausing thread own (call :: rest) failed hscript hmem)
  have hgoes := hturned.goes hnumbered hsilent hplugin hok
    (fun disable wasRunning hkind => ?_) (fun activate hkind => ?_) fun hkind hcall => ?_
  · have howes : ∀ handle, handle ≠ own → (after.machine.tasks thread).leaf.owes handle = [] := by
      intro handle hother
      rw [hleaf]
      rcases settle_leaf with ⟨result, hresult⟩ | ⟨later, failed', _, hlater⟩
      · rw [hresult]
        rfl
      · rw [hlater]
        exact Host.owes_ne hother
    refine hmanaged.goes_on hsound htasks hworking (fun handle => carried_nil (howed handle))
      (fun handle => ?_) (fun hold' handle hheld => .inl ⟨hold, ?_⟩)
      (fun handle later failed' hnow => ?_) (fun handle calls failed' hnow hmem => ?_) hstands
    · by_cases hother : handle = own
      · subst hother
        rcases hgoes with ⟨hleaves, hno⟩ | ⟨hsome, hfollows⟩
        · refine ⟨[], .of_quiet ?_ ((hquiet handle).trans hleaves)⟩
          rw [hmanaged.owed_working hworking, hno, howed]
        · refine ⟨(after.machine.tasks thread).leaf.owes handle, .inl ?_, fun phase hfits => ?_,
            fun _ => .inl (.inr ⟨hold, hmine⟩)⟩
          · rw [hmanaged.owed_working hworking, howed]
            rfl
          · exact hfollows phase (hquiet handle phase hfits)
      · refine ⟨[], .of_quiet ?_ ((hquiet handle).trans (.of_same (hturned.others hother) ?_))⟩
        · rw [hmanaged.owed_working hworking, howes handle hother, howed]
        · exact (·.of_nextPlugin hturned.nextPlugin)
    · rw [hmine]
      rw [hleaf] at hheld
      rcases settle_leaf with ⟨result, hresult⟩ | ⟨later, failed', _, hlater⟩
      · rw [hresult] at hheld
        cases hheld
      · rw [hlater] at hheld
        rw [Host.hold_handle hheld]
    · exact hturned.replaced hplugin hnow
    · rw [hleaf] at hnow
      rcases settle_leaf with ⟨result, hresult⟩ | ⟨later, failed', hlater, hnext⟩
      · rw [hresult] at hnow
        cases hnow
      · rw [hnext] at hnow
        cases hnow
        refine hturned.pausing (hleaf.trans hnext) hmem (hrunning rfl ?_)
        exact List.mem_cons_of_mem _ (hlater.subset hmem)
  · subst hkind
    simp only [Leaf.hold] at hhold
    split_ifs at hhold
    cases hhold
    rfl
  · subst hkind
    obtain ⟨_, hways⟩ := Host.start_hold hhold
    rcases hways with ⟨rfl, _⟩ | ⟨rfl, _⟩ | ⟨rfl, _⟩ | ⟨rfl, _⟩ <;> simp
  · obtain ⟨found, hfound, hstate⟩ := hrunning hkind (hcall ▸ List.mem_cons_self)
    rw [hplugin] at hfound
    cases hfound
    exact hstate

theorem settles (hmanaged : Managed stream after) (hsound : Sound stream)
    (htasks : ∀ other, other ≠ thread → after.machine.tasks other = stream.machine.tasks other)
    (hworking : (after.machine.tasks thread).status = .working) {host : Host} {call : Call}
    {answer : Answer}
    (hscript : (stream.machine.tasks thread).leaf = .script kind own (call :: rest) failed)
    (hstanding : Host.Standing stream.machine.host host)
    (hstill : Host.Still stream.machine.host host)
    (hsame : ∀ event, call = .publish event → host = stream.machine.host)
    (hhost : after.machine.host = (host.settle kind own failed answer call rest).1)
    (hleaf : (after.machine.tasks thread).leaf = (host.settle kind own failed answer call rest).2)
    (hcarried : ∀ handle, stream.carried thread handle = [])
    (hheard : ∀ event, call = .publish event → stream.publications thread = some .passed ∨
      after.missed own = true)
    (hstands : ∀ other, other ≠ thread → ∀ hold handle, (stream.machine.tasks other).leaf.hold =
      some (hold, handle) → Option.Rel Stands (stream.machine.host.pluginByHandle handle)
      (after.machine.host.pluginByHandle handle)) : Goes stream after thread := by
  cases hsilent : call.publishes with
  | false =>
    exact hmanaged.turns hsound htasks hworking hscript hstanding hstill hhost hleaf hsilent hstands
  | true =>
    obtain ⟨event, rfl⟩ : ∃ event, call = .publish event := by
      cases call <;> first | exact ⟨_, rfl⟩ | cases hsilent
    obtain rfl := hsame event rfl
    have hformed := hsound.safe.formed thread
    rw [hscript] at hformed
    have hpaused : kind = .start false → event = .loaded →
        (stream.machine.host.pluginByHandle own).any (·.state = .paused) = true := by
      rintro rfl rfl
      obtain ⟨plugin, hplugin, hstate⟩ := hsound.replaced thread own rest failed hscript
      rw [hplugin]
      simpa using hstate
    obtain ⟨hkeeps, hhold, howes⟩ := @Host.settle_published _ own kind failed event rest answer
      hformed hpaused
    rw [← hhost] at hkeeps
    rw [← hleaf] at hhold
    simp only [← hleaf] at howes
    refine hmanaged.tells hsound htasks hworking hscript hkeeps hhold (fun handle => ?_) hcarried
      (hheard event rfl) hstands
    rw [howes, hscript]

end Managed

/-! ## Every step of the machine -/

theorem initial_sound : Sound initial where
  safe := Machine.initial_safe
  imaged := Machine.initial_imaged
  busy := Machine.busy_of_none rfl
  placed thread := by
    constructor
    · simp [initial, Machine.initial, Task.idle]
    · intro answer hstatus
      cases hstatus
  apart first second hne handle hfirst := by
    rcases hfirst with howed | ⟨hold, hhold⟩
    · exact absurd rfl howed
    · cases hhold
  served thread handle howed := absurd rfl howed
  replaced thread handle rest failed hleaf := by cases hleaf
  pausing thread handle calls failed hleaf := by cases hleaf
  law handle _ thread _ := by
    refine ⟨.fresh, rfl, fun plugin hplugin => ?_⟩
    cases hplugin
  complete handle _ thread _ := rfl
  increasing := List.Pairwise.nil
  bound := by decide
  below := .inr fun sent hmem => by cases hmem

def ready : Files := ⟨.opened, true, none, none⟩

def agreed : Answer := ⟨.ok, false, true, false⟩

/-- A plugin is loaded, up to where the subscriber is to be called with its `LOADED`. -/
def loading (filename : Text) : List Act :=
  [.manage none (.invoke 0 true .console (.load filename) ready), .manage none (.work ready),
    .manage none (.asked 0 ⟨true, true, true, filename, ['1'], []⟩), .manage none (.regain 0),
    .manage none (.work ready), .manage none (.work ready), .manage none (.answer 0 agreed),
    .manage none (.regain 0), .manage none (.work ready), .number 0, .collect 0]

end Stream
end KeelS2.Plugins
