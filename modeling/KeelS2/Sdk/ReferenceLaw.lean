import KeelS2.Sdk.TargetReferences

/-!
# The law of the references to a target

`Sound` says that the references of a state and the uses of it are the objects that hold it; every
orderly step keeps it. With it the last object to let go is known, and no state is held that is not
registered.
-/

namespace KeelS2.Sdk.References

open Lib
open Function (update update_eq_self_iff update_of_ne update_self)

/-! ## What is held -/

namespace Plugin

variable (plugin : Plugin)

/-- The state that a target object (on the left) or a callback object (on the right) has. -/
def heldAt : Place ⊕ Place → Option Nat
  | .inl place => (plugin.targets place).join
  | .inr place => (plugin.callbacks place).bind Callback.target

def holds (id : Nat) (holder : Place ⊕ Place) : Nat :=
  if plugin.heldAt holder = some id then 1 else 0

theorem heldAt_setTarget (place : Place) (target : Option (Option Nat)) :
    (plugin.setTarget place target).heldAt =
      update plugin.heldAt (.inl place) target.join := by
  funext holder
  cases holder with
  | inl other =>
    by_cases h : other = place
    · subst h
      simp [heldAt, setTarget]
    · rw [update_of_ne (fun heq => h (Sum.inl.inj heq))]
      simp [heldAt, setTarget, h]
  | inr other =>
    rw [update_of_ne (fun heq => by cases heq)]
    rfl

theorem heldAt_setCallback (place : Place) (callback : Option Callback) :
    (plugin.setCallback place callback).heldAt =
      update plugin.heldAt (.inr place) (callback.bind Callback.target) := by
  funext holder
  cases holder with
  | inl other =>
    rw [update_of_ne (fun heq => by cases heq)]
    rfl
  | inr other =>
    by_cases h : other = place
    · subst h
      simp [heldAt, setCallback]
    · rw [update_of_ne (fun heq => h (Sum.inr.inj heq))]
      simp [heldAt, setCallback, h]

theorem heldAt_congr {after : Plugin} (htargets : after.targets = plugin.targets)
    (hcallbacks : after.callbacks = plugin.callbacks) : after.heldAt = plugin.heldAt := by
  funext holder
  cases holder with
  | inl place => rw [heldAt, heldAt, htargets]
  | inr place => rw [heldAt, heldAt, hcallbacks]

theorem unregister_objects (id : Nat) :
    (plugin.unregister id).targets = plugin.targets ∧
      (plugin.unregister id).callbacks = plugin.callbacks := by
  unfold unregister
  split
  · exact ⟨rfl, rfl⟩
  · split
    · exact ⟨rfl, rfl⟩
    · exact ⟨rfl, rfl⟩

theorem releaseReferenceLocked_objects (id : Nat) (answer : KeelResult) :
    (plugin.releaseReferenceLocked id answer).2.targets = plugin.targets ∧
      (plugin.releaseReferenceLocked id answer).2.callbacks = plugin.callbacks := by
  simp only [releaseReferenceLocked]
  split
  · exact ⟨rfl, rfl⟩
  · split
    · exact ⟨rfl, rfl⟩
    · generalize (if plugin.asks id = true then answer else KeelResult.notReady) = result
      cases settled result with
      | true =>
        rw [if_pos rfl]
        split
        · exact unregister_objects _ id
        · exact ⟨rfl, rfl⟩
      | false => exact ⟨rfl, rfl⟩

theorem releaseReferenceLocked_heldAt (id : Nat) (answer : KeelResult) :
    (plugin.releaseReferenceLocked id answer).2.heldAt = plugin.heldAt :=
  plugin.heldAt_congr (plugin.releaseReferenceLocked_objects id answer).1
    (plugin.releaseReferenceLocked_objects id answer).2

theorem releaseReferenceLocked_refused {id : Nat} {answer : KeelResult}
    (h : settled (plugin.releaseReferenceLocked id answer).1 = false) :
    (plugin.releaseReferenceLocked id answer).2 = plugin.record id (plugin.asks id) := by
  revert h
  simp only [releaseReferenceLocked]
  split
  · exact fun h => by cases h
  · split
    · exact fun h => by cases h
    · generalize (if plugin.asks id = true then answer else KeelResult.notReady) = result
      cases hresult : settled result with
      | true =>
        intro h
        rw [if_pos rfl] at h
        rw [hresult] at h
        cases h
      | false => exact fun _ => rfl

end Plugin

/-- Whoever lets go has the lease released if nobody else holds the state. -/
def Lawful (entry : LetGo) : Prop :=
  entry.asked = true ↔ entry.holders = 1 ∧ entry.accepting = true

/-- What every orderly step keeps. -/
structure Sound (plugin : Plugin) : Prop where
  uses : ∀ id, Counts (plugin.holds id) (plugin.uses id)
  references : ∀ id, plugin.uses id ≠ 0 → (plugin.states id).references = plugin.uses id
  connected : ∀ id, plugin.uses id ≠ 0 → (plugin.states id).connected = true
  registered : ∀ id, plugin.uses id ≠ 0 →
    ∃ handle, (plugin.states id).handle = some handle ∧ plugin.registered handle = some id
  fresh : ∀ id, plugin.nextState ≤ id → plugin.uses id = 0
  lawful : ∀ entry ∈ plugin.letGo, Lawful entry

/-- Only what the objects hold may differ. -/
structure Same (plugin after : Plugin) : Prop where
  states : after.states = plugin.states
  uses : after.uses = plugin.uses
  registered : after.registered = plugin.registered
  nextState : after.nextState = plugin.nextState
  letGo : after.letGo = plugin.letGo

namespace Sound

variable {plugin after : Plugin}

theorem initial : Sound Plugin.initial where
  uses id := by
    have hholds : Plugin.initial.holds id = fun _ => 0 := by
      funext holder
      cases holder with
      | inl place => rfl
      | inr place => rfl
    rw [hholds]
    exact counts_zero
  references _ h := absurd rfl h
  connected _ h := absurd rfl h
  registered _ h := absurd rfl h
  fresh _ _ := rfl
  lawful _ h := absurd h List.not_mem_nil

theorem uses_ne_zero (h : Sound plugin) {holder : Place ⊕ Place} {id : Nat}
    (hholder : plugin.heldAt holder = some id) : plugin.uses id ≠ 0 := by
  have hle := (h.uses id).le holder
  rw [Plugin.holds, if_pos hholder] at hle
  omega

theorem counts_update {holder : Place ⊕ Place} {held : Option Nat}
    (h : ∀ id, Counts (plugin.holds id) (plugin.uses id))
    (hheld : after.heldAt = update plugin.heldAt holder held)
    (huses : ∀ id, after.uses id + plugin.holds id holder =
      plugin.uses id + if held = some id then 1 else 0) (id : Nat) :
    Counts (after.holds id) (after.uses id) := by
  have hholds : after.holds id =
      update (plugin.holds id) holder (if held = some id then 1 else 0) := by
    funext other
    unfold Plugin.holds
    rw [hheld]
    by_cases hother : other = holder
    · rw [hother, update_self, update_self]
    · rw [update_of_ne hother, update_of_ne hother]
  rw [hholds]
  exact (h id).update (huses id)

theorem of_same (h : Sound plugin) (hsame : Same plugin after)
    (hcounts : ∀ id, Counts (after.holds id) (plugin.uses id)) : Sound after where
  uses := by
    rw [hsame.uses]
    exact hcounts
  references := by
    rw [hsame.states, hsame.uses]
    exact h.references
  connected := by
    rw [hsame.states, hsame.uses]
    exact h.connected
  registered := by
    rw [hsame.states, hsame.uses, hsame.registered]
    exact h.registered
  fresh := by
    rw [hsame.nextState, hsame.uses]
    exact h.fresh
  lawful := by
    rw [hsame.letGo]
    exact h.lawful

theorem of_kept (h : Sound plugin) (hcounts : ∀ id, Counts (after.holds id) (after.uses id))
    (hkept : ∀ other, after.uses other ≠ 0 → plugin.uses other ≠ 0 ∧
      (after.states other).references = after.uses other ∧
      (after.states other).connected = (plugin.states other).connected ∧
      (after.states other).handle = (plugin.states other).handle)
    (hregistered : ∀ handle other, after.uses other ≠ 0 →
      plugin.registered handle = some other → after.registered handle = some other)
    (hnext : after.nextState = plugin.nextState)
    (hlawful : ∀ entry ∈ after.letGo, Lawful entry) : Sound after where
  uses := hcounts
  references other hother := (hkept other hother).2.1
  connected other hother := by
    obtain ⟨hbefore, -, hconnected, -⟩ := hkept other hother
    rw [hconnected]
    exact h.connected other hbefore
  registered other hother := by
    obtain ⟨hbefore, -, -, hhandle⟩ := hkept other hother
    obtain ⟨found, hfound, hentry⟩ := h.registered other hbefore
    exact ⟨found, hhandle.trans hfound, hregistered found other hother hentry⟩
  fresh other hother := by
    by_contra hnot
    rw [hnext] at hother
    exact (hkept other hnot).1 (h.fresh other hother)
  lawful := hlawful

theorem congr (h : Sound plugin) (hsame : Same plugin after)
    (hheld : after.heldAt = plugin.heldAt) : Sound after := by
  refine h.of_same hsame fun id => ?_
  have hholds : after.holds id = plugin.holds id := by
    funext holder
    rw [Plugin.holds, Plugin.holds, hheld]
  rw [hholds]
  exact h.uses id

theorem swap (h : Sound plugin) (hsame : Same plugin after) {first second : Place ⊕ Place}
    (hheld : after.heldAt = update
      (update plugin.heldAt first (plugin.heldAt second)) second (plugin.heldAt first)) :
    Sound after := by
  refine h.of_same hsame fun id => ?_
  have hholds : after.holds id = update
      (update (plugin.holds id) first (plugin.holds id second)) second
        (plugin.holds id first) := by
    funext other
    unfold Plugin.holds
    rw [hheld]
    by_cases hsecond : other = second
    · rw [hsecond, update_self, update_self]
    · rw [update_of_ne hsecond, update_of_ne hsecond]
      by_cases hfirst : other = first
      · rw [hfirst, update_self, update_self]
      · rw [update_of_ne hfirst, update_of_ne hfirst]
  rw [hholds]
  exact (h.uses id).swap first second

/-! ### Letting go -/

variable {id : Nat} {answer : KeelResult}

section

variable (h : Sound plugin)

include h

theorem asks_of_last (hlast : plugin.uses id = 1) : plugin.asks id = plugin.accepting := by
  have hne : plugin.uses id ≠ 0 := by omega
  obtain ⟨handle, hhandle, -⟩ := h.registered id hne
  unfold Plugin.asks
  rw [h.references id hne, h.connected id hne, hhandle, hlast]
  simp

theorem asks_of_others (hne : plugin.uses id ≠ 0) (hothers : plugin.uses id ≠ 1) :
    plugin.asks id = false := by
  unfold Plugin.asks
  rw [h.references id hne]
  simp [hothers]

theorem lawful_record (hne : plugin.uses id ≠ 0) :
    ∀ entry ∈ (plugin.record id (plugin.asks id)).letGo, Lawful entry := by
  intro entry hentry
  rcases List.mem_cons.mp hentry with rfl | hentry
  · show plugin.asks id = true ↔ plugin.uses id = 1 ∧ plugin.accepting = true
    by_cases hlast : plugin.uses id = 1
    · rw [h.asks_of_last hlast]
      simp [hlast]
    · rw [h.asks_of_others hne hlast]
      simp [hlast]
  · exact h.lawful entry hentry

theorem unregister_eq (hne : plugin.uses id ≠ 0) (asked : Bool) :
    ∃ handle, plugin.registered handle = some id ∧
      (plugin.record id asked).unregister id =
        { plugin.record id asked with
          registered := update plugin.registered handle none } := by
  obtain ⟨handle, hhandle, hregistered⟩ := h.registered id hne
  refine ⟨handle, hregistered, ?_⟩
  unfold Plugin.unregister Plugin.record
  simp only [hhandle, hregistered]
  simp

theorem release_last (hlast : plugin.uses id = 1)
    (hsettled : settled (plugin.releaseReferenceLocked id answer).1 = true) :
    ∃ handle, plugin.registered handle = some id ∧
      (plugin.releaseReferenceLocked id answer).2 =
        { plugin.record id (plugin.asks id) with
          registered := update plugin.registered handle none
          states := update plugin.states id ⟨false, none, 0⟩ } := by
  have hne : plugin.uses id ≠ 0 := by omega
  obtain ⟨handle, hregistered, hunregister⟩ := h.unregister_eq hne (plugin.asks id)
  have hreferences : (plugin.states id).references = 1 := by rw [h.references id hne, hlast]
  refine ⟨handle, hregistered, ?_⟩
  unfold Plugin.releaseReferenceLocked at hsettled ⊢
  simp only [hreferences, h.connected id hne, hunregister] at hsettled ⊢
  simp only [one_ne_zero, if_false, ne_eq, not_true_eq_false, if_true] at hsettled ⊢
  generalize (if plugin.asks id = true then answer else KeelResult.notReady) = result
    at hsettled ⊢
  cases hresult : settled result with
  | true => rfl
  | false =>
    rw [hresult, if_neg Bool.false_ne_true] at hsettled
    rw [hresult] at hsettled
    cases hsettled

theorem release_others (hne : plugin.uses id ≠ 0) (hothers : plugin.uses id ≠ 1)
    (answer : KeelResult) :
    (plugin.releaseReferenceLocked id answer).2 =
      (plugin.record id (plugin.asks id)).setState id
        { plugin.states id with references := plugin.uses id - 1 } := by
  have hreferences := h.references id hne
  unfold Plugin.releaseReferenceLocked
  simp [hreferences, hne, hothers]

theorem release_refused (hne : plugin.uses id ≠ 0)
    (hrefused : settled (plugin.releaseReferenceLocked id answer).1 = false) :
    Sound (plugin.releaseReferenceLocked id answer).2 := by
  rw [plugin.releaseReferenceLocked_refused hrefused]
  exact ⟨h.uses, h.references, h.connected, h.registered, h.fresh, h.lawful_record hne⟩

theorem counts_drop {holder : Place ⊕ Place} (hholder : plugin.heldAt holder = some id)
    (hheld : after.heldAt = update plugin.heldAt holder none)
    (huses : after.uses = update plugin.uses id (plugin.uses id - 1)) (other : Nat) :
    Counts (after.holds other) (after.uses other) := by
  refine counts_update h.uses hheld (fun other => ?_) other
  have hne := h.uses_ne_zero hholder
  unfold Plugin.holds
  rw [huses, hholder]
  rcases eq_or_ne other id with rfl | hother
  · rw [update_self, if_pos rfl, if_neg (by simp)]
    omega
  · rw [update_of_ne hother, if_neg (by simpa using hother.symm), if_neg (by simp)]

theorem release_settled {holder : Place ⊕ Place} (hholder : plugin.heldAt holder = some id)
    (hsettled : settled (plugin.releaseReferenceLocked id answer).1 = true)
    (hsame : Same ((plugin.releaseReferenceLocked id answer).2.drop id) after)
    (hheld : after.heldAt = update plugin.heldAt holder none) : Sound after := by
  have hne := h.uses_ne_zero hholder
  have hlawful := h.lawful_record hne
  by_cases hlast : plugin.uses id = 1
  · obtain ⟨handle, hregistered, hreleased⟩ := h.release_last hlast hsettled
    rw [hreleased] at hsame
    have huses : after.uses = update plugin.uses id (plugin.uses id - 1) := hsame.uses
    have hdropped : ∀ other, after.uses other ≠ 0 → other ≠ id := by
      rintro other hother rfl
      rw [huses, update_self, hlast] at hother
      exact hother rfl
    refine h.of_kept (h.counts_drop hholder hheld huses) ?_ ?_ hsame.nextState ?_
    · intro other hother
      have hnot := hdropped other hother
      have hstates : after.states other = plugin.states other := by
        rw [hsame.states]
        exact update_of_ne hnot _ _
      rw [huses, update_of_ne hnot] at hother ⊢
      rw [hstates]
      exact ⟨hother, h.references other hother, rfl, rfl⟩
    · intro found other hother hentry
      have hdifferent : found ≠ handle := by
        rintro rfl
        rw [hregistered] at hentry
        exact hdropped other hother (Option.some.inj hentry).symm
      rw [hsame.registered]
      show update plugin.registered handle none found = some other
      rwa [update_of_ne hdifferent]
    · rw [hsame.letGo]
      exact hlawful
  · rw [h.release_others hne hlast answer] at hsame
    have huses : after.uses = update plugin.uses id (plugin.uses id - 1) := hsame.uses
    have hstates : after.states = update plugin.states id
      { plugin.states id with references := plugin.uses id - 1 } := hsame.states
    refine h.of_kept (h.counts_drop hholder hheld huses) ?_ ?_ hsame.nextState ?_
    · intro other hother
      rw [huses] at hother ⊢
      rw [hstates]
      rcases eq_or_ne other id with rfl | hnot
      · rw [update_self, update_self]
        exact ⟨hne, rfl, rfl, rfl⟩
      · rw [update_of_ne hnot] at hother ⊢
        rw [update_of_ne hnot]
        exact ⟨hother, h.references other hother, rfl, rfl⟩
    · intro found other hother hentry
      rw [hsame.registered]
      exact hentry
    · rw [hsame.letGo]
      exact hlawful

theorem last_of_refused (hne : plugin.uses id ≠ 0)
    (hrefused : settled (plugin.releaseReferenceLocked id answer).1 = false) :
    plugin.uses id = 1 := by
  by_contra hothers
  have hreferences := h.references id hne
  unfold Plugin.releaseReferenceLocked at hrefused
  simp only [hreferences, hne, hothers, if_false, ne_eq, not_false_eq_true, if_true] at hrefused
  cases hrefused

end

theorem drop_last (h : Sound plugin) {holder : Place ⊕ Place} {id : Nat}
    (hholder : plugin.heldAt holder = some id) (hlast : plugin.uses id = 1)
    (hsame : Same (plugin.drop id) after)
    (hheld : after.heldAt = update plugin.heldAt holder none) : Sound after := by
  have huses : after.uses = update plugin.uses id (plugin.uses id - 1) := hsame.uses
  refine h.of_kept (h.counts_drop hholder hheld huses) ?_ ?_ hsame.nextState ?_
  · intro other hother
    rw [huses] at hother ⊢
    rw [hsame.states]
    rcases eq_or_ne other id with rfl | hnot
    · rw [update_self, hlast] at hother
      exact absurd rfl hother
    · rw [update_of_ne hnot] at hother ⊢
      exact ⟨hother, h.references other hother, rfl, rfl⟩
  · intro found other hother hentry
    rw [hsame.registered]
    exact hentry
  · rw [hsame.letGo]
    exact h.lawful

end Sound

/-! ## Resetting and destroying -/

namespace Plugin

variable (plugin : Plugin)

theorem heldAt_drop (id : Nat) : (plugin.drop id).heldAt = plugin.heldAt :=
  plugin.heldAt_congr rfl rfl

theorem setTarget_empties (place : Place) (target : Option (Option Nat)) (h : target.join = none) :
    (plugin.setTarget place target).heldAt = update plugin.heldAt (.inl place) none := by
  rw [heldAt_setTarget, h]

end Plugin

namespace Sound

variable {plugin : Plugin}

theorem resetTarget (h : Sound plugin) (place : Place) (release : KeelResult) :
    Sound (plugin.resetTarget place release).2 := by
  unfold Plugin.resetTarget
  cases hheld : (plugin.targets place).join with
  | none => exact h
  | some id =>
    have hholder : plugin.heldAt (.inl place) = some id := hheld
    have hne := h.uses_ne_zero hholder
    dsimp only
    rw [if_pos (h.connected id hne)]
    cases hsettled : settled (plugin.releaseReferenceLocked id release).1 with
    | true =>
      rw [if_pos rfl]
      refine h.release_settled hholder hsettled ⟨rfl, rfl, rfl, rfl, rfl⟩ ?_
      rw [Plugin.setTarget_empties _ _ _ rfl, Plugin.heldAt_drop,
        Plugin.releaseReferenceLocked_heldAt]
    | false =>
      rw [if_neg Bool.false_ne_true]
      exact h.release_refused hne hsettled

variable {id handle : Nat} {place : Place}

section

variable (h : Sound plugin)

include h

theorem resetTarget_cases (place : Place) (release : KeelResult)
    (hheld : (plugin.targets place).join = some id) :
    (settled (plugin.resetTarget place release).1 = true ∧
      (plugin.resetTarget place release).2.targets place = some none) ∨
    (settled (plugin.resetTarget place release).1 = false ∧
      (plugin.resetTarget place release).2 = plugin.record id (plugin.asks id) ∧
      plugin.uses id = 1) := by
  have hne : plugin.uses id ≠ 0 := @uses_ne_zero plugin h (.inl place) id hheld
  unfold Plugin.resetTarget
  rw [hheld]
  dsimp only
  rw [if_pos (h.connected id hne)]
  cases hsettled : settled (plugin.releaseReferenceLocked id release).1 with
  | true =>
    left
    rw [if_pos rfl]
    exact ⟨hsettled, update_self ..⟩
  | false =>
    right
    rw [if_neg Bool.false_ne_true]
    exact ⟨hsettled, plugin.releaseReferenceLocked_refused hsettled, h.last_of_refused hne hsettled⟩

theorem destroyTarget (place : Place) (release : KeelResult) :
    Sound (plugin.destroyTarget place release) := by
  have hreset := h.resetTarget place release
  unfold Plugin.destroyTarget
  cases hafter : (((plugin.resetTarget place release).2).targets place).join with
  | none =>
    simp only [hafter]
    refine hreset.congr ⟨rfl, rfl, rfl, rfl, rfl⟩ ?_
    rw [Plugin.setTarget_empties _ _ _ rfl]
    exact Function.update_eq_self_iff.mpr hafter.symm
  | some id =>
    simp only [hafter]
    have hlast : (plugin.resetTarget place release).2.uses id = 1 := by
      cases hbefore : (plugin.targets place).join with
      | none =>
        simp only [Plugin.resetTarget, hbefore] at hafter
        cases hafter
      | some held =>
        rcases h.resetTarget_cases place release hbefore with ⟨-, hempty⟩ | ⟨-, hrecorded, huses⟩
        · rw [hempty] at hafter
          cases hafter
        · rw [hrecorded] at hafter ⊢
          have hsame : held = id := Option.some.inj (hbefore.symm.trans hafter)
          exact hsame ▸ huses
    refine @drop_last _ _ hreset (.inl place) id hafter hlast ⟨rfl, rfl, rfl, rfl, rfl⟩ ?_
    rw [Plugin.setTarget_empties _ _ _ rfl, Plugin.heldAt_drop]

theorem clearHandle (hcallback : plugin.callbacks place = some ⟨some id, handle⟩) :
    Sound (plugin.setCallback place (some ⟨some id, 0⟩)) := by
  refine h.congr ⟨rfl, rfl, rfl, rfl, rfl⟩ ?_
  rw [Plugin.heldAt_setCallback]
  refine Function.update_eq_self_iff.mpr ?_
  simp [Plugin.heldAt, hcallback]

theorem resetCallback (place : Place) (remove release : KeelResult) :
    Sound (plugin.resetCallback place remove release).2 := by
  unfold Plugin.resetCallback
  cases hcallback : plugin.callbacks place with
  | none => exact h
  | some callback =>
    obtain ⟨target, handle⟩ := callback
    cases target with
    | none => exact h
    | some id =>
      have hholder : plugin.heldAt (.inr place) = some id := by
        simp [Plugin.heldAt, hcallback]
      dsimp only
      rw [if_pos (h.connected id (h.uses_ne_zero hholder))]
      split
      · have hcleared := h.clearHandle hcallback
        have hheld : (plugin.setCallback place (some ⟨some id, 0⟩)).heldAt (.inr place) =
            some id := by
          simp [Plugin.heldAt, Plugin.setCallback]
        cases hsettled : settled ((plugin.setCallback place
            (some ⟨some id, 0⟩)).releaseReferenceLocked id release).1 with
        | true =>
          rw [if_pos rfl]
          refine hcleared.release_settled hheld hsettled ⟨rfl, rfl, rfl, rfl, rfl⟩ ?_
          rw [Plugin.heldAt_setCallback, Plugin.heldAt_drop, Plugin.releaseReferenceLocked_heldAt]
          rfl
        | false =>
          rw [if_neg Bool.false_ne_true]
          exact hcleared.release_refused (hcleared.uses_ne_zero hheld) hsettled
      · exact h

theorem resetCallback_cases (place : Place) (remove release : KeelResult)
    (hcallback : plugin.callbacks place = some ⟨some id, handle⟩) :
    (settled (plugin.resetCallback place remove release).1 = true ∧
      (plugin.resetCallback place remove release).2.callbacks place = some .empty) ∨
    (settled (plugin.removeCallback ⟨some id, handle⟩ remove) = false ∧
      plugin.resetCallback place remove release =
        (plugin.removeCallback ⟨some id, handle⟩ remove, plugin)) ∨
    (settled (plugin.resetCallback place remove release).1 = false ∧
      settled (plugin.removeCallback ⟨some id, handle⟩ remove) = true ∧
      (plugin.resetCallback place remove release).2 =
        (plugin.setCallback place (some ⟨some id, 0⟩)).record id
          ((plugin.setCallback place (some ⟨some id, 0⟩)).asks id) ∧ plugin.uses id = 1) := by
  have hholder : plugin.heldAt (.inr place) = some id := by
    simp [Plugin.heldAt, hcallback]
  have hne := h.uses_ne_zero hholder
  unfold Plugin.resetCallback
  rw [hcallback]
  dsimp only
  rw [if_pos (h.connected id hne)]
  cases hremoved : settled (plugin.removeCallback ⟨some id, handle⟩ remove) with
  | true =>
    rw [if_pos rfl]
    cases hsettled : settled ((plugin.setCallback place
        (some ⟨some id, 0⟩)).releaseReferenceLocked id release).1 with
    | true =>
      left
      rw [if_pos rfl]
      refine ⟨?_, update_self ..⟩
      dsimp only
      split
      · exact hremoved
      · exact hsettled
    | false =>
      right
      right
      rw [if_neg Bool.false_ne_true]
      exact ⟨hsettled, rfl, Plugin.releaseReferenceLocked_refused _ hsettled,
        (h.clearHandle hcallback).last_of_refused hne hsettled⟩
  | false =>
    right
    left
    exact ⟨rfl, by rw [if_neg Bool.false_ne_true]⟩

/-- An object whose callback can be removed has nothing left after a reset but the last reference
to a state. -/
theorem left_of_resetCallback {remove release : KeelResult}
    (hremovable : plugin.removable place remove = true)
    (hafter : (plugin.resetCallback place remove release).2.callbacks place = some ⟨some id,
      handle⟩) : handle = 0 ∧ (plugin.resetCallback place remove release).2.uses id = 1 := by
  cases hbefore : plugin.callbacks place with
  | none =>
    simp only [Plugin.resetCallback, hbefore] at hafter
    cases hafter
  | some callback =>
    obtain ⟨target, given⟩ := callback
    cases target with
    | none =>
      simp only [Plugin.resetCallback, hbefore, Option.some.injEq, Callback.mk.injEq] at hafter
      cases hafter.1
    | some held =>
      rcases h.resetCallback_cases place remove release hbefore with
        ⟨-, hempty⟩ | ⟨hrefused, -⟩ | ⟨-, -, hrecorded, huses⟩
      · rw [hempty] at hafter
        cases hafter
      · rw [Plugin.removable, hbefore, Option.all_some, hrefused] at hremovable
        cases hremovable
      · rw [hrecorded] at hafter ⊢
        simp only [Plugin.record, Plugin.setCallback, update_self, Option.some.injEq,
          Callback.mk.injEq] at hafter
        obtain ⟨rfl, rfl⟩ := hafter
        exact ⟨rfl, huses⟩

theorem destroyCallback {remove : KeelResult} (hremovable : plugin.removable place remove = true)
    (release : KeelResult) : Sound (plugin.destroyCallback place remove release) := by
  have hreset := h.resetCallback place remove release
  unfold Plugin.destroyCallback
  cases hafter : (plugin.resetCallback place remove release).2.callbacks place with
  | none =>
    simp only [hafter]
    exact hreset
  | some callback =>
    obtain ⟨target, handle⟩ := callback
    simp only [hafter]
    cases target with
    | none =>
      refine hreset.congr ⟨rfl, rfl, rfl, rfl, rfl⟩ ?_
      rw [Plugin.heldAt_setCallback]
      refine Function.update_eq_self_iff.mpr ?_
      simp [Plugin.heldAt, hafter]
    | some id =>
      obtain ⟨rfl, hlast⟩ := h.left_of_resetCallback hremovable hafter
      have hholder : (plugin.resetCallback place remove release).2.heldAt (.inr place) =
        some id := by
        simp [Plugin.heldAt, hafter]
      refine hreset.drop_last hholder hlast ⟨rfl, rfl, rfl, rfl, rfl⟩ ?_
      rw [Plugin.heldAt_setCallback]
      rfl

theorem resetHook (hook : Nat) (answers : Answers) : Sound (plugin.resetHook hook answers).2 := by
  have hcallback := h.resetCallback (.member hook) answers.remove answers.release
  unfold Plugin.resetHook
  split
  rename_i result reset heq
  rw [heq] at hcallback
  split
  · exact hcallback.resetTarget (.member hook) answers.releaseTarget
  · exact hcallback

theorem destroyHook {hook : Nat} {first second : Answers}
    (hremovable : (plugin.resetHook hook first).2.removable (.member hook) second.remove = true) :
    Sound (plugin.destroyHook hook first second) :=
  ((h.resetHook hook first).destroyCallback hremovable second.release).destroyTarget (.member hook)
    second.releaseTarget

end

/-! ## Construction, moves and adoption -/

section

variable (h : Sound plugin)

include h

theorem createTarget (place : Place) : Sound (plugin.createTarget place) := by
  unfold Plugin.createTarget
  split
  · rename_i hnone
    refine h.congr ⟨rfl, rfl, rfl, rfl, rfl⟩ ?_
    rw [Plugin.setTarget_empties _ _ _ rfl]
    refine Function.update_eq_self_iff.mpr ?_
    simp [Plugin.heldAt, Option.isNone_iff_eq_none.mp hnone]
  · exact h

theorem createCallback (place : Place) : Sound (plugin.createCallback place) := by
  unfold Plugin.createCallback
  split
  · rename_i hnone
    refine h.congr ⟨rfl, rfl, rfl, rfl, rfl⟩ ?_
    rw [Plugin.heldAt_setCallback]
    refine Function.update_eq_self_iff.mpr ?_
    simp [Plugin.heldAt, Option.isNone_iff_eq_none.mp hnone, Callback.empty]
  · exact h

theorem moveConstructTarget (source place : Place) :
    Sound (plugin.moveConstructTarget source place) := by
  unfold Plugin.moveConstructTarget
  split
  · rename_i target hsource hplace
    refine @swap plugin _ h ⟨rfl, rfl, rfl, rfl, rfl⟩ (.inl place) (.inl source) ?_
    rw [Plugin.heldAt_setTarget, Plugin.heldAt_setTarget]
    simp [Plugin.heldAt, hsource, hplace]
  · exact h

theorem moveAssignTarget (left right : Place) : Sound (plugin.moveAssignTarget left right) := by
  unfold Plugin.moveAssignTarget
  split
  · rename_i first second hleft hright
    refine @swap plugin _ h ⟨rfl, rfl, rfl, rfl, rfl⟩ (.inl left) (.inl right) ?_
    rw [Plugin.heldAt_setTarget, Plugin.heldAt_setTarget]
    simp [Plugin.heldAt, hleft, hright]
  · exact h

theorem moveConstructCallback (source place : Place) :
    Sound (plugin.moveConstructCallback source place) := by
  unfold Plugin.moveConstructCallback
  split
  · rename_i callback hsource hplace
    refine @swap plugin _ h ⟨rfl, rfl, rfl, rfl, rfl⟩ (.inr place) (.inr source) ?_
    rw [Plugin.heldAt_setCallback, Plugin.heldAt_setCallback]
    simp [Plugin.heldAt, hsource, hplace, Callback.empty]
  · exact h

theorem moveAssignCallback (left right : Place) : Sound (plugin.moveAssignCallback left right) := by
  unfold Plugin.moveAssignCallback
  split
  · rename_i first second hleft hright
    refine @swap plugin _ h ⟨rfl, rfl, rfl, rfl, rfl⟩ (.inr left) (.inr right) ?_
    rw [Plugin.heldAt_setCallback, Plugin.heldAt_setCallback]
    simp [Plugin.heldAt, hleft, hright]
  · exact h

theorem take {after : Plugin} {holder : Place ⊕ Place} (hnone : plugin.heldAt holder = none)
    (hne : plugin.uses id ≠ 0)
    (hheld : after.heldAt = update plugin.heldAt holder (some id))
    (hsame : Same ((plugin.setState id { plugin.states id with references := (plugin.states
      id).references + 1 }).use id) after) : Sound after := by
  have huses : after.uses = update plugin.uses id (plugin.uses id + 1) := hsame.uses
  have hstates : after.states = update plugin.states id
    { plugin.states id with references := (plugin.states id).references + 1 } := hsame.states
  refine h.of_kept (counts_update h.uses hheld fun other => ?_) ?_ ?_ hsame.nextState ?_
  · unfold Plugin.holds
    rw [huses, hnone, if_neg (by simp)]
    rcases eq_or_ne other id with rfl | hnot
    · rw [update_self, if_pos rfl]
    · rw [update_of_ne hnot, if_neg (by simpa using hnot.symm)]
  · intro other hother
    rw [huses] at hother ⊢
    rw [hstates]
    rcases eq_or_ne other id with rfl | hnot
    · rw [update_self, update_self, h.references other hne]
      exact ⟨hne, rfl, rfl, rfl⟩
    · rw [update_of_ne hnot] at hother ⊢
      rw [update_of_ne hnot]
      exact ⟨hother, h.references other hother, rfl, rfl⟩
  · intro found other hother hentry
    rw [hsame.registered]
    exact hentry
  · rw [hsame.letGo]
    exact h.lawful

theorem takeNew {handle : KeelHookTargetHandle} (hnone : plugin.heldAt (.inl place) = none)
    (hlock : plugin.lock handle = none) :
    Sound
      { ((plugin.setState plugin.nextState ⟨true, some handle, 1⟩).use plugin.nextState).setTarget
          place (some (some plugin.nextState)) with
        registered := update plugin.registered handle (some plugin.nextState)
        nextState := plugin.nextState + 1 } := by
  have hzero : plugin.uses plugin.nextState = 0 := h.fresh plugin.nextState le_rfl
  have hfree : ∀ id, plugin.registered handle = some id → plugin.uses id = 0 := by
    intro id hid
    by_contra hne
    rw [Plugin.lock, hid, Option.filter_some, if_pos (by simpa using hne)] at hlock
    cases hlock
  have hcases : ∀ other, update plugin.uses plugin.nextState
      (plugin.uses plugin.nextState + 1) other ≠ 0 →
      other = plugin.nextState ∨ other ≠ plugin.nextState ∧ plugin.uses other ≠ 0 := by
    intro other hother
    rcases eq_or_ne other plugin.nextState with rfl | hnot
    · exact Or.inl rfl
    · rw [update_of_ne hnot] at hother
      exact Or.inr ⟨hnot, hother⟩
  constructor
  · refine fun id => @counts_update plugin _ (.inl place) (some plugin.nextState) h.uses ?_ ?_ id
    · exact Plugin.heldAt_setTarget _ _ _
    · intro other
      show update plugin.uses plugin.nextState (plugin.uses plugin.nextState + 1) other +
        plugin.holds other (.inl place) = _
      rw [Plugin.holds, hnone, if_neg (by simp)]
      rcases eq_or_ne other plugin.nextState with rfl | hnot
      · rw [update_self, if_pos rfl]
      · rw [update_of_ne hnot, if_neg (by simpa using hnot.symm)]
  · intro other hother
    show (update plugin.states plugin.nextState ⟨true, some handle, 1⟩ other).references =
      update plugin.uses plugin.nextState (plugin.uses plugin.nextState + 1) other
    rcases hcases other hother with rfl | ⟨hnot, hbefore⟩
    · rw [update_self, update_self, hzero]
    · rw [update_of_ne hnot, update_of_ne hnot]
      exact h.references other hbefore
  · intro other hother
    show (update plugin.states plugin.nextState ⟨true, some handle, 1⟩ other).connected =
      true
    rcases hcases other hother with rfl | ⟨hnot, hbefore⟩
    · rw [update_self]
    · rw [update_of_ne hnot]
      exact h.connected other hbefore
  · intro other hother
    show ∃ found,
      (update plugin.states plugin.nextState ⟨true, some handle, 1⟩ other).handle =
        some found ∧
      update plugin.registered handle (some plugin.nextState) found = some other
    rcases hcases other hother with rfl | ⟨hnot, hbefore⟩
    · exact ⟨handle, by rw [update_self], by rw [update_self]⟩
    · obtain ⟨found, hfound, hentry⟩ := h.registered other hbefore
      have hdifferent : found ≠ handle := by
        rintro rfl
        exact hbefore (hfree other hentry)
      refine ⟨found, ?_, ?_⟩
      · rwa [update_of_ne hnot]
      · rwa [update_of_ne hdifferent]
  · intro other hother
    have hnot : other ≠ plugin.nextState := by
      rintro rfl
      exact absurd hother (by simp)
    show update plugin.uses plugin.nextState (plugin.uses plugin.nextState + 1) other = 0
    rw [update_of_ne hnot]
    exact h.fresh other (Nat.le_of_succ_le hother)
  · exact h.lawful

theorem resolve (place : Place) (answer : Except KeelResult KeelHookTargetHandle) :
    Sound (plugin.resolve place answer).2 := by
  unfold Plugin.resolve
  split
  · split
    · rename_i hempty
      have hnone : plugin.heldAt (.inl place) = none := by
        simp [Plugin.heldAt, hempty]
      cases answer with
      | error result => exact h
      | ok handle =>
        show Sound (plugin.adoptResolvedTargetLocked handle place)
        unfold Plugin.adoptResolvedTargetLocked
        split
        · rename_i id hlock
          have hne : plugin.uses id ≠ 0 := by
            simpa using (Option.filter_eq_some_iff.mp hlock).2
          exact h.take hnone hne (Plugin.heldAt_setTarget _ _ _) ⟨rfl, rfl, rfl, rfl, rfl⟩
        · rename_i hlock
          exact h.takeNew hnone hlock
    · exact h
  · exact h

theorem addCallback (target place : Place) (answer : Except KeelResult Nat) :
    Sound (plugin.addCallback target place answer).2 := by
  unfold Plugin.addCallback
  split
  · rename_i id callback htarget hcallback
    have hne : plugin.uses id ≠ 0 := @uses_ne_zero plugin h (.inl target) id htarget
    split
    · split
      · exact h
      · rename_i hempty
        have hnone : plugin.heldAt (.inr place) = none := by
          rw [not_or, Option.not_isSome_iff_eq_none] at hempty
          simp [Plugin.heldAt, hcallback, hempty.1]
        cases answer with
        | error result => exact h
        | ok handle =>
          exact h.take hnone hne (Plugin.heldAt_setCallback _ _ _) ⟨rfl, rfl, rfl, rfl, rfl⟩
    · exact h
  · exact h

theorem step {input : Input} (horderly : Orderly plugin input) : Sound (plugin.step input) := by
  cases input with
  | createTarget place => exact h.createTarget place
  | createCallback place => exact h.createCallback place
  | createHook hook => exact (h.createTarget (.member hook)).createCallback (.member hook)
  | resolve place answer => exact h.resolve place answer
  | addCallback target place answer => exact h.addCallback target place answer
  | resetTarget place release => exact h.resetTarget place release
  | resetCallback place remove release => exact h.resetCallback place remove release
  | resetHook hook answers => exact h.resetHook hook answers
  | moveConstructTarget source place => exact h.moveConstructTarget source place
  | moveConstructCallback source place => exact h.moveConstructCallback source place
  | moveConstructHook source hook =>
    exact (h.moveConstructTarget (.member source) (.member hook)).moveConstructCallback
      (.member source) (.member hook)
  | moveAssignTarget left right => exact h.moveAssignTarget left right
  | moveAssignCallback left right => exact h.moveAssignCallback left right
  | moveAssignHook left right =>
    exact (h.moveAssignTarget (.member left) (.member right)).moveAssignCallback
      (.member left) (.member right)
  | destroyTarget place release => exact h.destroyTarget place release
  | destroyCallback place remove release => exact h.destroyCallback horderly release
  | destroyHook hook first second => exact h.destroyHook horderly
  | disableResources => exact ⟨h.uses, h.references, h.connected, h.registered, h.fresh, h.lawful⟩

end

end Sound

/-! ## What the counts are good for -/

/-- The reference count of a state is the number of the objects that hold it, no two states that
are held have the same handle, and the lease is released when the last object lets go. -/
structure Accounted (plugin : Plugin) : Prop where
  counts : ∀ holder id, plugin.heldAt holder = some id →
    Counts (plugin.holds id) (plugin.states id).references
  distinct : ∀ holder other id found, plugin.heldAt holder = some id →
    plugin.heldAt other = some found →
      ∃ handle, (plugin.states id).handle = some handle ∧
        ((plugin.states found).handle = some handle → found = id)
  released : ∀ entry ∈ plugin.letGo, Lawful entry

/-- An object whose reset is refused as busy keeps its reference, and a reset that the host does
not refuse empties it. -/
structure Retryable (plugin : Plugin) : Prop where
  target : ∀ place release, (plugin.resetTarget place release).1 = .busy →
    (plugin.resetTarget place release).2.targets = plugin.targets ∧
      (plugin.resetTarget place release).2.states = plugin.states
  targetEmpties : ∀ place release, settled release = true →
    settled (plugin.resetTarget place release).1 = true ∧
      ((plugin.resetTarget place release).2.targets place).join = none
  callback : ∀ place remove release, (plugin.resetCallback place remove release).1 = .busy →
    (plugin.resetCallback place remove release).2.heldAt = plugin.heldAt ∧
      (plugin.resetCallback place remove release).2.states = plugin.states
  callbackEmpties : ∀ place remove release, settled remove = true → settled release = true →
    settled (plugin.resetCallback place remove release).1 = true ∧
      ((plugin.resetCallback place remove release).2.callbacks place).bind Callback.target = none
  hook : ∀ hook answers, (plugin.resetHook hook answers).1 = .busy →
    (plugin.resetHook hook answers).2.targets (.member hook) = plugin.targets (.member hook) ∧
      ((plugin.resetHook hook answers).2.heldAt (.inr (.member hook)) =
          plugin.heldAt (.inr (.member hook)) ∨
        ((plugin.targets (.member hook)).join).isSome = true)
  hookEmpties : ∀ hook answers, settled answers.remove = true → settled answers.release = true →
    settled answers.releaseTarget = true →
      settled (plugin.resetHook hook answers).1 = true ∧
        (plugin.resetHook hook answers).2.heldAt (.inl (.member hook)) = none ∧
        (plugin.resetHook hook answers).2.heldAt (.inr (.member hook)) = none

theorem Sound.accounted {plugin : Plugin} (h : Sound plugin) : Accounted plugin where
  counts holder id hheld := by
    have hne := h.uses_ne_zero hheld
    rw [h.references id hne]
    exact h.uses id
  distinct holder other id found hheld hfound := by
    obtain ⟨handle, hhandle, hentry⟩ := h.registered id (h.uses_ne_zero hheld)
    obtain ⟨handle', hhandle', hentry'⟩ := h.registered found (h.uses_ne_zero hfound)
    refine ⟨handle, hhandle, fun hsame => ?_⟩
    have heq : handle' = handle := Option.some.inj (hhandle'.symm.trans hsame)
    rw [heq, hentry] at hentry'
    exact (Option.some.inj hentry').symm
  released := h.lawful

/-! ### Resets that are refused, and resets that are not -/

section Resets

variable {plugin : Plugin}

theorem busy_not_settled {result : KeelResult} (h : result = .busy) : settled result = false := by
  rw [h]
  rfl

theorem releaseReferenceLocked_settled {id : Nat} {answer : KeelResult}
    (h : settled answer = true) :
    settled (plugin.releaseReferenceLocked id answer).1 = true := by
  simp only [Plugin.releaseReferenceLocked]
  split
  · rfl
  · split
    · rfl
    · have hresult : settled (if plugin.asks id = true then answer else .notReady) = true := by
        split
        · exact h
        · rfl
      rw [if_pos hresult]
      exact hresult

theorem removeCallback_settled {callback : Callback} {answer : KeelResult}
    (h : settled answer = true) : settled (plugin.removeCallback callback answer) = true := by
  unfold Plugin.removeCallback
  split
  · rfl
  · split
    · exact h
    · rfl

theorem resetTarget_refused {place : Place} {release : KeelResult}
    (h : settled (plugin.resetTarget place release).1 = false) :
    ∃ id, (plugin.targets place).join = some id ∧
      (plugin.resetTarget place release).2 = plugin.record id (plugin.asks id) := by
  revert h
  unfold Plugin.resetTarget
  cases hheld : (plugin.targets place).join with
  | none => exact fun h => by cases h
  | some id =>
    dsimp only
    split
    · cases hsettled : settled (plugin.releaseReferenceLocked id release).1 with
      | true =>
        intro h
        rw [if_pos rfl, hsettled] at h
        cases h
      | false =>
        intro _
        rw [if_neg Bool.false_ne_true]
        exact ⟨id, rfl, plugin.releaseReferenceLocked_refused hsettled⟩
    · exact fun h => by cases h

theorem resetTarget_empties {place : Place} {release : KeelResult} (h : settled release = true) :
    settled (plugin.resetTarget place release).1 = true ∧
      ((plugin.resetTarget place release).2.targets place).join = none := by
  unfold Plugin.resetTarget
  cases hheld : (plugin.targets place).join with
  | none => exact ⟨rfl, hheld⟩
  | some id =>
    dsimp only
    split
    · have hsettled := @releaseReferenceLocked_settled plugin id release h
      rw [if_pos hsettled]
      exact ⟨hsettled, by simp [Plugin.setTarget]⟩
    · exact ⟨rfl, by simp [Plugin.setTarget]⟩

theorem resetCallback_refused {place : Place} {remove release : KeelResult}
    (h : settled (plugin.resetCallback place remove release).1 = false) :
    (plugin.resetCallback place remove release).2.heldAt = plugin.heldAt ∧
      (plugin.resetCallback place remove release).2.states = plugin.states := by
  revert h
  unfold Plugin.resetCallback
  cases hcallback : plugin.callbacks place with
  | none => exact fun _ => ⟨rfl, rfl⟩
  | some callback =>
    obtain ⟨target, handle⟩ := callback
    cases target with
    | none => exact fun _ => ⟨rfl, rfl⟩
    | some id =>
      dsimp only
      split
      · split
        · rename_i hremoved
          cases hsettled : settled ((plugin.setCallback place
              (some ⟨some id, 0⟩)).releaseReferenceLocked id release).1 with
          | true =>
            intro h
            rw [if_pos rfl] at h
            dsimp only at h
            split at h
            · rw [hremoved] at h
              cases h
            · rw [hsettled] at h
              cases h
          | false =>
            intro _
            rw [if_neg Bool.false_ne_true, Plugin.releaseReferenceLocked_refused _ hsettled]
            refine ⟨?_, rfl⟩
            show (plugin.setCallback place (some ⟨some id, 0⟩)).heldAt = plugin.heldAt
            rw [Plugin.heldAt_setCallback]
            refine Function.update_eq_self_iff.mpr ?_
            simp [Plugin.heldAt, hcallback]
        · exact fun _ => ⟨rfl, rfl⟩
      · exact fun h => by cases h

theorem resetCallback_empties {place : Place} {remove release : KeelResult}
    (hremove : settled remove = true) (hrelease : settled release = true) :
    settled (plugin.resetCallback place remove release).1 = true ∧
      ((plugin.resetCallback place remove release).2.callbacks place).bind Callback.target =
        none := by
  unfold Plugin.resetCallback
  cases hcallback : plugin.callbacks place with
  | none => exact ⟨rfl, by rw [hcallback]; rfl⟩
  | some callback =>
    obtain ⟨target, handle⟩ := callback
    cases target with
    | none => exact ⟨rfl, by rw [hcallback]; rfl⟩
    | some id =>
      dsimp only
      split
      · have hremoved := @removeCallback_settled plugin ⟨some id, handle⟩ remove hremove
        have hsettled := @releaseReferenceLocked_settled (plugin.setCallback place
          (some ⟨some id, 0⟩)) id release hrelease
        rw [if_pos hremoved, if_pos hsettled]
        refine ⟨?_, by simp [Plugin.setCallback, Callback.empty]⟩
        dsimp only
        split
        · exact hremoved
        · exact hsettled
      · exact ⟨rfl, by simp [Plugin.setCallback, Callback.empty]⟩

theorem resetTarget_callbacks (place : Place) (release : KeelResult) :
    (plugin.resetTarget place release).2.callbacks = plugin.callbacks := by
  unfold Plugin.resetTarget
  split
  · rfl
  · rename_i id _
    split
    · dsimp only
      split
      · exact (plugin.releaseReferenceLocked_objects id release).2
      · exact (plugin.releaseReferenceLocked_objects id release).2
    · rfl

theorem resetCallback_targets (place : Place) (remove release : KeelResult) :
    (plugin.resetCallback place remove release).2.targets = plugin.targets := by
  unfold Plugin.resetCallback
  split
  · rfl
  · split
    · rfl
    · rename_i id _
      split
      · dsimp only
        split
        · split
          · exact (Plugin.releaseReferenceLocked_objects _ id release).1
          · exact (Plugin.releaseReferenceLocked_objects _ id release).1
        · rfl
      · rfl

theorem resetHook_eq (hook : Nat) (answers : Answers) :
    plugin.resetHook hook answers =
      if settled (plugin.resetCallback (.member hook) answers.remove answers.release).1 then
        (plugin.resetCallback (.member hook) answers.remove answers.release).2.resetTarget
          (.member hook) answers.releaseTarget
      else plugin.resetCallback (.member hook) answers.remove answers.release := rfl

theorem retryable (plugin : Plugin) : Retryable plugin where
  target place release hbusy := by
    obtain ⟨id, -, hrecorded⟩ := resetTarget_refused (busy_not_settled hbusy)
    rw [hrecorded]
    exact ⟨rfl, rfl⟩
  targetEmpties place release h := resetTarget_empties h
  callback place remove release hbusy := resetCallback_refused (busy_not_settled hbusy)
  callbackEmpties place remove release hremove hrelease := resetCallback_empties hremove hrelease
  hook hook answers hbusy := by
    have htargets := @resetCallback_targets plugin (.member hook) answers.remove answers.release
    rw [resetHook_eq] at hbusy ⊢
    split at hbusy
    · rename_i hsettled
      rw [if_pos hsettled]
      obtain ⟨id, hheld, hrecorded⟩ := resetTarget_refused (busy_not_settled hbusy)
      rw [htargets] at hheld
      rw [hrecorded]
      refine ⟨?_, Or.inr (by rw [hheld]; rfl)⟩
      show (plugin.resetCallback (.member hook) answers.remove answers.release).2.targets
        (.member hook) = plugin.targets (.member hook)
      rw [htargets]
    · rename_i hrefused
      rw [if_neg hrefused, htargets, (resetCallback_refused (busy_not_settled hbusy)).1]
      exact ⟨rfl, Or.inl rfl⟩
  hookEmpties hook answers hremove hrelease htarget := by
    obtain ⟨hsettled, hempty⟩ := @resetCallback_empties plugin (.member hook) answers.remove
      answers.release hremove hrelease
    rw [resetHook_eq, if_pos hsettled]
    obtain ⟨hsettledTarget, hemptyTarget⟩ := @resetTarget_empties
      (plugin.resetCallback (.member hook) answers.remove answers.release).2 (.member hook)
      answers.releaseTarget htarget
    refine ⟨hsettledTarget, hemptyTarget, ?_⟩
    unfold Plugin.heldAt
    rw [resetTarget_callbacks]
    exact hempty

end Resets

/-! ## Runs -/

/-- In every orderly run the references are the objects that hold the state. -/
theorem accounted_of_run {inputs : List Input}
    (horderly : Heeds Plugin.step Orderly Plugin.initial inputs) :
    Accounted (run Plugin.step Plugin.initial inputs) ∧
      Retryable (run Plugin.step Plugin.initial inputs) :=
  ⟨(Heeds.invariant (fun _ _ hsound horderly => hsound.step horderly) Sound.initial
    horderly).accounted, retryable _⟩

/-- A target with a callback, and a hook on the same handle. The host is busy for a while; the hook
is moved and then destroyed. -/
def twoHolders : List Input :=
  [.createTarget (.alone 0), .createCallback (.alone 0), .resolve (.alone 0) (.ok 5),
    .addCallback (.alone 0) (.alone 0) (.ok 7), .createHook 0, .resolve (.member 0) (.ok 5),
    .addCallback (.member 0) (.member 0) (.ok 8), .resetCallback (.alone 0) .busy .ok,
    .createHook 1, .moveAssignHook 1 0, .resetTarget (.alone 0) .busy,
    .destroyHook 1 ⟨.busy, .ok, .ok⟩ ⟨.ok, .ok, .ok⟩, .resetCallback (.alone 0) .ok .busy]

theorem twoHolders_accounted :
    Accounted (run Plugin.step Plugin.initial twoHolders) ∧
      Retryable (run Plugin.step Plugin.initial twoHolders) :=
  accounted_of_run ⟨trivial, trivial, trivial, trivial, trivial, trivial, trivial, trivial, trivial,
    trivial, trivial, rfl, trivial, trivial⟩

/-- The callback object goes while its removal is refused. The target is then the only object that
has the state, and resets it, but the host is not asked for the lease. -/
theorem destroyed_while_removal_is_refused :
    ¬ ∀ inputs : List Input, Accounted (run Plugin.step Plugin.initial inputs) ∧
      Retryable (run Plugin.step Plugin.initial inputs) := by
  intro hall
  have haccounted := (hall [.createTarget (.alone 0), .createCallback (.alone 0),
    .resolve (.alone 0) (.ok 5), .addCallback (.alone 0) (.alone 0) (.ok 7),
    .destroyCallback (.alone 0) .busy .ok, .resetTarget (.alone 0) .ok]).1
  have hlawful := haccounted.released ⟨1, true, false⟩ (by decide)
  exact absurd (hlawful.mpr ⟨rfl, rfl⟩) Bool.false_ne_true

end KeelS2.Sdk.References
