import KeelS2.Players.PlayerRegistry

/-!
# Connection handles

What a plugin may rely on when it holds a slot and a generation. A slot *serves* a generation
while `Current` says so; `call_cases` says all that one call can do to what the slots serve, and
everything about runs follows from it: only a generation straight from the counter is ever new.
-/

namespace KeelS2.Players.PlayerRegistry

open Lib

/-- The generation a slot serves, zero for none. -/
def serves (registry : PlayerRegistry) (slot : Int) : Nat :=
  if registry.validSlot slot = true ∧ (registry.entry slot).disconnecting = false then
    (registry.entry slot).player.connection
  else 0

variable {registry before after : PlayerRegistry} {slot : Int} {entry : Entry} {generation : Nat}
  {next : PlayerCall}

theorem current_iff {connection : KeelPlayerConnection} :
    registry.current connection = true ↔ connection.reserved = 0 ∧ connection.generation ≠ 0 ∧
      registry.serves connection.slot = connection.generation := by
  unfold current serves
  by_cases hslot : registry.validSlot connection.slot = true
  · by_cases hlive : (registry.entry connection.slot).disconnecting = false
    · simp [hslot, hlive, and_assoc]
    · simp [hslot, hlive]
      intros
      omega
  · simp [hslot]
    intros
    omega

theorem serves_put_ne {other : Int} (hslot : registry.validSlot slot = true) (hne : other ≠ slot) :
    (registry.put slot entry).serves other = registry.serves other := by
  unfold serves
  rw [validSlot_put]
  by_cases hother : registry.validSlot other = true
  · rw [entry_put_ne hslot hother hne]
  · simp [hother]

theorem serves_put_self (hslot : registry.validSlot slot = true) :
    (registry.put slot entry).serves slot =
      if entry.disconnecting = false then entry.player.connection else 0 := by
  unfold serves
  rw [validSlot_put, entry_put_self hslot]
  simp [hslot]

theorem serves_put_vacant (hslot : registry.validSlot slot = true)
    (hvacant : entry.disconnecting = true ∨ entry.player.connection = 0) (other : Int) :
    (registry.put slot entry).serves other = registry.serves other ∨
      (registry.put slot entry).serves other = 0 := by
  by_cases hne : other = slot
  · right
    subst hne
    rw [serves_put_self hslot]
    rcases hvacant with hgone | hnone
    · simp [hgone]
    · simp [hnone]
  · left
    exact serves_put_ne hslot hne

/-- What `call` does to what the slots serve. -/
inductive Serving (before after : PlayerRegistry) : Prop
  /-- Nothing new is served, and the counter stays. -/
  | kept (next : after.next = before.next)
      (slots : ∀ slot, after.serves slot = before.serves slot ∨ after.serves slot = 0)
  /-- One slot serves the generation the counter stood at, and the counter goes on. -/
  | begun (at_ : Int) (counter : before.next ≠ 0)
      (next : after.next = (before.next + 1) % 2 ^ 64)
      (fresh : after.serves at_ = before.next)
      (slots : ∀ slot, slot ≠ at_ → after.serves slot = before.serves slot)

theorem nextGeneration_spent (hspent : registry.next = 0) :
    registry.nextGeneration = (0, registry) := by
  simp [nextGeneration, hspent]

theorem nextGeneration_left (hleft : registry.next ≠ 0) :
    registry.nextGeneration =
      (registry.next, { registry with next := (registry.next + 1) % 2 ^ 64 }) := by
  simp [nextGeneration, hleft]

theorem serving_put_fresh {registry : PlayerRegistry} {slot : Int} {entry : Entry}
    (hslot : registry.validSlot slot = true) (hleft : registry.next ≠ 0)
    (hlive : entry.disconnecting = false) (hgeneration : entry.player.connection = registry.next) :
    Serving registry (registry.nextGeneration.2.put slot entry) := by
  rw [nextGeneration_left hleft]
  have hslot' : ({ registry with next := (registry.next + 1) % 2 ^ 64 } :
      PlayerRegistry).validSlot slot = true := hslot
  refine .begun slot hleft rfl ?_ fun other hne => ?_
  · rw [serves_put_self hslot', hlive, hgeneration]
    rfl
  · rw [serves_put_ne hslot' hne]
    rfl

theorem serving_put_vacant (hslot : registry.validSlot slot = true)
    (hvacant : entry.disconnecting = true ∨ entry.player.connection = 0) :
    Serving registry (registry.put slot entry) :=
  .kept rfl (serves_put_vacant hslot hvacant)

theorem Serving.refl (registry : PlayerRegistry) : Serving registry registry :=
  .kept rfl fun _ => .inl rfl

theorem connected_serving (registry : PlayerRegistry) (slot : Int) (name : Option Text)
    (bot : Bool) : Serving registry (registry.connected slot name bot).2 := by
  unfold connected
  cases name with
  | none => exact .refl registry
  | some name =>
    by_cases hslot : registry.validSlot slot = true
    · by_cases hleft : registry.next = 0
      · simp only [hslot, nextGeneration_spent hleft]
        exact serving_put_vacant hslot (.inl rfl)
      · have hfresh := fun entry hlive hgeneration =>
          @serving_put_fresh registry slot entry hslot hleft hlive hgeneration
        rw [nextGeneration_left hleft] at hfresh
        simp only [hslot, nextGeneration_left hleft, hleft]
        exact hfresh _ rfl rfl
    · simp only [hslot]
      exact .refl registry

/-- A rejected update changes nothing; an accepted one writes the facts under the slot's own
generation or under the next one. -/
inductive Updating (registry : PlayerRegistry) (facts : KeelPlayerInfo) :
    KeelResult × KeelPlayerInfo × PlayerRegistry → Prop
  | rejected (result : KeelResult) (failed : result ≠ .ok) :
      Updating registry facts (result, clear, registry)
  | continued (slot : registry.validSlot facts.slot = true)
      (valid : validFacts facts = true)
      (live : (registry.entry facts.slot).disconnecting = false)
      (same : startsConnection (registry.entry facts.slot) facts = false)
      (player : KeelPlayerInfo)
      (stored : player = { facts with
        connection := (registry.entry facts.slot).player.connection }) :
      Updating registry facts (.ok, player, registry.put facts.slot
        ⟨player, false, facts.flags &&& playerConnecting ≠ 0⟩)
  | begun (slot : registry.validSlot facts.slot = true)
      (valid : validFacts facts = true)
      (live : (registry.entry facts.slot).disconnecting = false)
      (other : startsConnection (registry.entry facts.slot) facts = true)
      (left : registry.next ≠ 0)
      (player : KeelPlayerInfo)
      (stored : player = { facts with connection := registry.next }) :
      Updating registry facts (.ok, player, registry.nextGeneration.2.put facts.slot
        ⟨player, false, facts.flags &&& playerConnecting ≠ 0⟩)

theorem update_updating (registry : PlayerRegistry) (facts : KeelPlayerInfo) :
    Updating registry facts (registry.update facts) := by
  unfold update
  by_cases hslot : registry.validSlot facts.slot = true
  · by_cases hvalid : validFacts facts = true
    · by_cases hlive : (registry.entry facts.slot).disconnecting = false
      · by_cases hstarts : startsConnection (registry.entry facts.slot) facts = true
        · by_cases hleft : registry.next = 0
          · simp only [hslot, hvalid, hlive, hstarts, nextGeneration_spent hleft]
            exact .rejected _ (by decide)
          · have := Updating.begun hslot hvalid hlive hstarts hleft _ rfl
            simpa [hslot, hvalid, hlive, hstarts, nextGeneration_left hleft, hleft] using this
        · have hsame : startsConnection (registry.entry facts.slot) facts = false := by
            simpa using hstarts
          have hconnection : (registry.entry facts.slot).player.connection ≠ 0 := by
            intro hnone
            simp [startsConnection, hnone] at hsame
          have := Updating.continued hslot hvalid hlive hsame _ rfl
          simpa [hslot, hvalid, hlive, hsame, hconnection] using this
      · simp only [hslot, hvalid, hlive]
        exact .rejected _ (by decide)
    · simp only [hslot, hvalid]
      exact .rejected _ (by decide)
  · simp only [hslot]
    exact .rejected _ (by decide)

theorem update_serving (registry : PlayerRegistry) (facts : KeelPlayerInfo) :
    Serving registry (registry.update facts).2.2 := by
  have hupdating := update_updating registry facts
  generalize registry.update facts = outcome at hupdating ⊢
  cases hupdating with
  | rejected result failed => exact .refl registry
  | continued slot valid live same player stored =>
    refine .kept rfl fun other => ?_
    by_cases hne : other = facts.slot
    · left
      rw [hne, serves_put_self slot, stored]
      simp [serves, slot, live]
    · left
      exact serves_put_ne slot hne
  | begun slot valid live other left player stored =>
    exact serving_put_fresh slot left rfl (by rw [stored])

theorem call_serving (registry : PlayerRegistry) (call : PlayerCall) :
    Serving registry (registry.call call) := by
  cases call with
  | connected slot name bot => exact connected_serving registry slot name bot
  | disconnected slot =>
    simp only [PlayerRegistry.call, disconnected]
    split
    · next hslot => exact serving_put_vacant hslot (.inl rfl)
    · exact .refl registry
  | missing slot =>
    simp only [PlayerRegistry.call, missing]
    split
    · next hslot =>
      split
      · exact serving_put_vacant hslot (.inr rfl)
      · exact .refl registry
    · exact .refl registry
  | update facts => exact update_serving registry facts

/-! ## Freshness of generations -/

/-- Every generation below the counter has been handed out; past the wrap, all have. -/
def Issued (registry : PlayerRegistry) (generation : Nat) : Prop :=
  registry.next = 0 ∨ generation < registry.next

/-- Whatever is served was handed out before. -/
structure Counted (registry : PlayerRegistry) : Prop where
  next : registry.next < 2 ^ 64
  served : ∀ slot, registry.serves slot ≠ 0 → registry.Issued (registry.serves slot)

theorem create_serves {capacity : Nat} (hnew : create capacity = some registry) (slot : Int) :
    registry.serves slot = 0 := by
  unfold create at hnew
  split at hnew
  · cases hnew
  · cases hnew
    unfold serves entry
    split
    · rw [List.getD_eq_getElem?_getD, List.getElem?_replicate]
      split <;> rfl
    · rfl

theorem create_counted {capacity : Nat} (hnew : create capacity = some registry) :
    registry.Counted := by
  have hserves := create_serves hnew
  constructor
  · unfold create at hnew
    split at hnew
    · cases hnew
    · cases hnew
      show (1 : Nat) < 2 ^ 64
      decide
  · intro slot hslot
    exact absurd (hserves slot) hslot

theorem Serving.issued (hserving : Serving before after) (hcounted : before.Counted)
    (hissued : before.Issued generation) : after.Issued generation := by
  have hbound := hcounted.next
  unfold Issued at *
  cases hserving with
  | kept next slots => rwa [next]
  | begun at_ counter next fresh slots =>
    rw [next]
    omega

theorem Serving.issued_fresh (hcounted : before.Counted)
    (hnext : after.next = (before.next + 1) % 2 ^ 64) : after.Issued before.next := by
  have hbound := hcounted.next
  unfold Issued
  rw [hnext]
  omega

theorem Serving.counted (hserving : Serving before after) (hcounted : before.Counted) :
    after.Counted := by
  constructor
  · cases hserving with
    | kept next slots => rw [next]; exact hcounted.next
    | begun at_ counter next fresh slots => rw [next]; omega
  · intro slot hslot
    cases hserving with
    | kept next slots =>
      rcases slots slot with hsame | hnone
      · rw [hsame] at hslot ⊢
        exact Serving.issued (.kept next slots) hcounted (hcounted.served slot hslot)
      · exact absurd hnone hslot
    | begun at_ counter next fresh slots =>
      by_cases hat : slot = at_
      · subst hat
        rw [fresh]
        exact Serving.issued_fresh hcounted next
      · rw [slots slot hat] at hslot ⊢
        exact Serving.issued (.begun at_ counter next fresh slots) hcounted
          (hcounted.served slot hslot)

theorem Serving.takes_up (hserving : Serving before after)
    (hnew : after.serves slot ≠ before.serves slot) (hsome : after.serves slot ≠ 0) :
    after.serves slot = before.next ∧ before.next ≠ 0 ∧
      after.next = (before.next + 1) % 2 ^ 64 ∧
      ∀ other, other ≠ slot → after.serves other = before.serves other := by
  cases hserving with
  | kept next slots =>
    rcases slots slot with hsame | hnone
    · exact absurd hsame hnew
    · exact absurd hnone hsome
  | begun at_ counter next fresh slots =>
    by_cases hat : slot = at_
    · subst hat
      exact ⟨fresh, counter, next, slots⟩
    · exact absurd (slots slot hat) hnew

theorem Serving.not_again (hserving : Serving before after) (hissued : before.Issued generation)
    (hzero : generation ≠ 0) (hother : before.serves slot ≠ generation) :
    after.serves slot ≠ generation := by
  intro hserves
  have hnew : after.serves slot ≠ before.serves slot := by
    rw [hserves]
    exact hother.symm
  obtain ⟨hfresh, hleft, -⟩ := hserving.takes_up hnew (by rw [hserves]; exact hzero)
  rw [hserves] at hfresh
  unfold Issued at hissued
  omega

/-! ## Runs -/

theorem run_counted (hcounted : registry.Counted) (calls : List PlayerCall) :
    (run call registry calls).Counted :=
  run_invariant (fun registry next hcounted => (call_serving registry next).counted hcounted)
    hcounted calls

/-- The call gives `generation` to a connection in `slot`. -/
def Assigns (registry : PlayerRegistry) (next : PlayerCall) (slot : Int) (generation : Nat) :
    Prop :=
  generation ≠ 0 ∧ registry.serves slot ≠ generation ∧
    (registry.call next).serves slot = generation

theorem Assigns.fresh (hassigns : registry.Assigns next slot generation) :
    generation = registry.next ∧ registry.next ≠ 0 ∧
      (registry.call next).next = (registry.next + 1) % 2 ^ 64 ∧
      ∀ other, other ≠ slot → (registry.call next).serves other = registry.serves other := by
  obtain ⟨hzero, hbefore, hafter⟩ := hassigns
  have hnew : (registry.call next).serves slot ≠ registry.serves slot := by
    rw [hafter]
    exact hbefore.symm
  have hsome : (registry.call next).serves slot ≠ 0 := by
    rw [hafter]
    exact hzero
  obtain ⟨hfresh, hrest⟩ := (call_serving registry next).takes_up hnew hsome
  exact ⟨hafter.symm.trans hfresh, hrest⟩

/-- The user id stored for a slot, -1 while it is unknown. -/
def user (registry : PlayerRegistry) (slot : Int) : Int :=
  (registry.entry slot).player.userId

/-- An update continues the slot's connection and stores the unknown id over a known one, so
that the next known id is compared with nothing. -/
def forgetsUser (registry : PlayerRegistry) (facts : KeelPlayerInfo) : Bool :=
  registry.validSlot facts.slot && validFacts facts &&
    !(registry.entry facts.slot).disconnecting &&
    !startsConnection (registry.entry facts.slot) facts &&
    0 ≤ registry.user facts.slot && facts.userId == -1

def RemembersUsers (registry : PlayerRegistry) : PlayerCall → Prop
  | .update facts => registry.forgetsUser facts = false
  | _ => True

/-- No connection of the run ever stands for two users. -/
def OneUserEach (registry : PlayerRegistry) (calls : List PlayerCall) : Prop :=
  ∀ earlier between rest, calls = earlier ++ between ++ rest → ∀ connection,
    (run call registry earlier).current connection = true →
    (run call registry (earlier ++ between)).current connection = true →
    (run call registry earlier).user connection.slot ≠ -1 →
    (run call registry (earlier ++ between)).user connection.slot ≠ -1 →
    (run call registry (earlier ++ between)).user connection.slot =
      (run call registry earlier).user connection.slot

theorem user_put_ne {other : Int} (hslot : registry.validSlot slot = true)
    (hother : registry.validSlot other = true) (hne : other ≠ slot) :
    (registry.put slot entry).user other = registry.user other := by
  unfold user
  rw [entry_put_ne hslot hother hne]

theorem validSlot_of_serves (hserves : registry.serves slot ≠ 0) :
    registry.validSlot slot = true := by
  unfold serves at hserves
  split at hserves
  · next h => exact h.1
  · exact absurd rfl hserves

theorem user_put_vacant {at_ : Int} (hat : registry.validSlot at_ = true)
    (hvacant : entry.disconnecting = true ∨ entry.player.connection = 0)
    (hserves : (registry.put at_ entry).serves slot ≠ 0) :
    (registry.put at_ entry).user slot = registry.user slot := by
  have hslot := validSlot_of_serves hserves
  rw [validSlot_put] at hslot
  refine user_put_ne hat hslot fun hsame => hserves ?_
  rw [hsame, serves_put_self hat]
  rcases hvacant with hgone | hnone
  · simp [hgone]
  · simp [hnone]

/-- A slot that serves what it served before was not the one to take a fresh generation. -/
theorem user_put_fresh {registry : PlayerRegistry} (hcounted : registry.Counted)
    {at_ slot : Int} {entry : Entry} (hat : registry.validSlot at_ = true)
    (hleft : registry.next ≠ 0) (hlive : entry.disconnecting = false)
    (hgeneration : entry.player.connection = registry.next)
    (hserves : registry.serves slot ≠ 0)
    (hsame : (registry.nextGeneration.2.put at_ entry).serves slot = registry.serves slot) :
    (registry.nextGeneration.2.put at_ entry).user slot = registry.user slot := by
  rw [nextGeneration_left hleft] at hsame ⊢
  have hat' : ({ registry with next := (registry.next + 1) % 2 ^ 64 } :
      PlayerRegistry).validSlot at_ = true := hat
  refine user_put_ne hat' (validSlot_of_serves hserves) fun hslot => ?_
  rw [hslot, serves_put_self hat', hlive, hgeneration] at hsame
  have hissued := hcounted.served slot hserves
  unfold Issued at hissued
  rw [hslot, ← hsame, if_pos rfl] at hissued
  omega

theorem validFacts_userId {facts : KeelPlayerInfo} (hvalid : validFacts facts = true) :
    -1 ≤ facts.userId := by
  by_contra hless
  simp [validFacts, show facts.userId < -1 by omega] at hvalid

/-- A connection that goes on keeps its known user, unless the update forgets it. -/
theorem call_user (hcounted : registry.Counted) (hremembers : registry.RemembersUsers next)
    (hserves : registry.serves slot ≠ 0) (hknown : 0 ≤ registry.user slot)
    (hsame : (registry.call next).serves slot = registry.serves slot) :
    (registry.call next).user slot = registry.user slot := by
  have hafter : (registry.call next).serves slot ≠ 0 := by
    rw [hsame]
    exact hserves
  cases next with
  | connected at_ name bot =>
    simp only [call, connected] at hsame hafter ⊢
    cases name with
    | none => rfl
    | some name =>
      by_cases hat : registry.validSlot at_ = true
      · by_cases hleft : registry.next = 0
        · simp only [hat, nextGeneration_spent hleft] at hafter ⊢
          exact user_put_vacant hat (.inl rfl) hafter
        · have hfresh := fun entry hlive hgeneration hsame =>
            @user_put_fresh _ hcounted _ _ entry hat hleft hlive hgeneration hserves hsame
          rw [nextGeneration_left hleft] at hfresh
          simp only [hat, nextGeneration_left hleft, hleft] at hsame ⊢
          exact hfresh _ rfl rfl hsame
      · simp only [hat]
        rfl
  | disconnected at_ =>
    simp only [call, disconnected] at hafter ⊢
    by_cases hat : registry.validSlot at_ = true
    · rw [if_pos hat] at hafter ⊢
      exact user_put_vacant hat (.inl rfl) hafter
    · rw [if_neg hat]
  | missing at_ =>
    simp only [call, missing] at hafter ⊢
    by_cases hat : registry.validSlot at_ = true
    · rw [if_pos hat] at hafter ⊢
      split
      · next hidle =>
        rw [if_pos hidle] at hafter
        exact user_put_vacant hat (.inr rfl) hafter
      · rfl
    · rw [if_neg hat]
  | update facts =>
    have hupdating := update_updating registry facts
    simp only [call] at hsame ⊢
    generalize registry.update facts = outcome at hupdating hsame ⊢
    cases hupdating with
    | rejected result failed => rfl
    | continued at_ valid live same player stored =>
      by_cases hslot : slot = facts.slot
      · subst hslot
        -- the two ids were compared, and the new one is known since the old one was
        have hpair : differentUser (registry.entry facts.slot) facts = false := by
          simp only [startsConnection, decide_eq_false_iff_not, not_or] at same
          simpa using same.2.1
        have hnew : facts.userId ≠ -1 := by
          intro hunknown
          simp [RemembersUsers, forgetsUser, at_, valid, live, same, hknown, hunknown]
            at hremembers
        have hleast := validFacts_userId valid
        unfold user at hknown ⊢
        rw [entry_put_self at_, stored]
        simp only [differentUser, hknown, true_and, decide_eq_false_iff_not, not_and, ne_eq,
          not_not] at hpair
        exact (hpair (by omega)).symm
      · exact user_put_ne at_ (validSlot_of_serves hserves) hslot
    | begun at_ valid live other left player stored =>
      exact user_put_fresh hcounted at_ left rfl (by rw [stored]) hserves hsame

/-- The stored user of a served connection is unknown or a real one. -/
def Identified (registry : PlayerRegistry) : Prop :=
  ∀ slot, registry.serves slot ≠ 0 → -1 ≤ registry.user slot

theorem Identified.put {registry : PlayerRegistry} (hidentified : registry.Identified)
    {at_ : Int} {entry : Entry} (hat : registry.validSlot at_ = true)
    (hentry : entry.disconnecting = false → entry.player.connection ≠ 0 →
      -1 ≤ entry.player.userId) : (registry.put at_ entry).Identified := by
  intro slot hserves
  have hslot := validSlot_of_serves hserves
  rw [validSlot_put] at hslot
  by_cases hsame : slot = at_
  · subst hsame
    rw [serves_put_self hat] at hserves
    unfold user
    rw [entry_put_self hat]
    split at hserves
    · next hlive => exact hentry hlive hserves
    · exact absurd rfl hserves
  · rw [serves_put_ne hat hsame] at hserves
    rw [user_put_ne hat hslot hsame]
    exact hidentified slot hserves

theorem call_identified (hidentified : registry.Identified) (next : PlayerCall) :
    (registry.call next).Identified := by
  have hcounter : registry.nextGeneration.2.Identified := by
    unfold nextGeneration
    split
    · exact hidentified
    · exact hidentified
  have hvalidSlot : ∀ slot, registry.nextGeneration.2.validSlot slot = registry.validSlot slot := by
    intro slot
    unfold nextGeneration
    split <;> rfl
  cases next with
  | connected at_ name bot =>
    simp only [call, connected]
    cases name with
    | none => exact hidentified
    | some name =>
      by_cases hat : registry.validSlot at_ = true
      · by_cases hleft : registry.next = 0
        · simp only [hat, nextGeneration_spent hleft]
          refine hidentified.put hat fun hlive => ?_
          cases hlive
        · have hat' : registry.nextGeneration.2.validSlot at_ = true := by
            rw [hvalidSlot]
            exact hat
          rw [nextGeneration_left hleft] at hcounter hat'
          simp only [hat, nextGeneration_left hleft, hleft]
          exact hcounter.put hat' fun _ _ => show -1 ≤ clear.userId by decide
      · simp only [hat]
        exact hidentified
  | disconnected at_ =>
    simp only [call, disconnected]
    split
    · next hat => exact hidentified.put hat fun hlive => by cases hlive
    · exact hidentified
  | missing at_ =>
    simp only [call, missing]
    split
    · next hat =>
      split
      · exact hidentified.put hat fun _ hsome => absurd rfl hsome
      · exact hidentified
    · exact hidentified
  | update facts =>
    have hupdating := update_updating registry facts
    simp only [call]
    generalize registry.update facts = outcome at hupdating ⊢
    cases hupdating with
    | rejected result failed => exact hidentified
    | continued at_ valid live same player stored =>
      refine hidentified.put at_ fun _ _ => ?_
      rw [stored]
      exact validFacts_userId valid
    | begun at_ valid live other left player stored =>
      refine hcounter.put (by rw [hvalidSlot]; exact at_) fun _ _ => ?_
      rw [stored]
      exact validFacts_userId valid

/-- From a state in which `slot` serves `generation` with the known user `id`: whenever it
serves it again, it is with that user. -/
structure Known (slot : Int) (generation : Nat) (id : Int) (registry : PlayerRegistry) :
    Prop where
  counted : registry.Counted
  issued : registry.Issued generation
  user : registry.serves slot = generation → registry.user slot = id

theorem call_known {id : Int} (hzero : generation ≠ 0) (hid : 0 ≤ id)
    (hknown : Known slot generation id registry) (hremembers : registry.RemembersUsers next) :
    Known slot generation id (registry.call next) := by
  have hserving := call_serving registry next
  refine ⟨hserving.counted hknown.counted, hserving.issued hknown.counted hknown.issued, ?_⟩
  intro hafter
  by_cases hbefore : registry.serves slot = generation
  · have huser := hknown.user hbefore
    rw [← huser]
    refine call_user hknown.counted hremembers ?_ ?_ ?_
    · rw [hbefore]
      exact hzero
    · rw [huser]
      exact hid
    · rw [hafter, hbefore]
  · exact absurd hafter (hserving.not_again hknown.issued hzero hbefore)

theorem run_identified (hidentified : registry.Identified) (calls : List PlayerCall) :
    (run call registry calls).Identified :=
  @run_invariant _ _ _ Identified (fun _ next hidentified => call_identified hidentified next)
    _ hidentified calls

/-- In every run whose updates never store the unknown id over a known one, a connection handle
stands for at most one user. -/
theorem one_user_each_of_remembered {capacity : Nat} {registry : PlayerRegistry}
    (hnew : create capacity = some registry) (calls : List PlayerCall)
    (hremembers : Heeds call RemembersUsers registry calls) : registry.OneUserEach calls := by
  intro earlier between rest hcalls connection hcurrent hstill hknown hknown'
  obtain ⟨-, hzero, hserves⟩ := current_iff.1 hcurrent
  have hserves' := (current_iff.1 hstill).2.2
  have hcounted := run_counted (create_counted hnew) earlier
  have hidentified : registry.Identified := fun slot hslot =>
    absurd (create_serves hnew slot) hslot
  have hleast := run_identified hidentified earlier connection.slot
    (by rw [hserves]; exact hzero)
  have hstart : Known connection.slot connection.generation
      ((run call registry earlier).user connection.slot) (run call registry earlier) := by
    refine ⟨hcounted, ?_, fun _ => rfl⟩
    rw [← hserves]
    exact hcounted.served _ (by rw [hserves]; exact hzero)
  rw [hcalls, List.append_assoc, heeds_append, heeds_append] at hremembers
  rw [run_append] at hserves' ⊢
  have hend : Known connection.slot connection.generation
      ((run call registry earlier).user connection.slot)
      (run call (run call registry earlier) between) :=
    Heeds.invariant (fun state input h hok => call_known hzero (by omega) h hok) hstart
      hremembers.2.1
  exact hend.user hserves'

/-- Facts a game adapter may report for a player in slot zero who is still connecting. -/
def connectingFacts (id : Int) : KeelPlayerInfo :=
  { clear with slot := 0, userId := id, flags := playerConnected ||| playerConnecting }

set_option maxRecDepth 4000 in
theorem one_user_each_of_remembered_known :
    Heeds call RemembersUsers ⟨[.empty], 1⟩
        [.update (connectingFacts (-1)), .update (connectingFacts 5),
          .update (connectingFacts 6)] ∧
      OneUserEach ⟨[.empty], 1⟩
        [.update (connectingFacts (-1)), .update (connectingFacts 5),
          .update (connectingFacts 6)] := by
  have hheeds : Heeds call RemembersUsers ⟨[.empty], 1⟩
      [.update (connectingFacts (-1)), .update (connectingFacts 5),
        .update (connectingFacts 6)] := by
    refine ⟨?_, ?_, ?_, trivial⟩ <;> (simp only [RemembersUsers]; decide)
  exact ⟨hheeds, @one_user_each_of_remembered 1 _ rfl _ hheeds⟩

set_option maxRecDepth 4000 in
/-- User 5 is forgotten by an update with the unknown id, and user 6 takes over the connection
5 had. -/
theorem forgotten_user_replaced :
    ¬ OneUserEach ⟨[.empty], 1⟩
      [.update (connectingFacts 5), .update (connectingFacts (-1)),
        .update (connectingFacts 6)] := by
  intro hone
  have := hone [.update (connectingFacts 5)]
    [.update (connectingFacts (-1)), .update (connectingFacts 6)] [] rfl ⟨0, 0, 1⟩
    (by decide) (by decide) (by decide) (by decide)
  revert this
  decide

end KeelS2.Players.PlayerRegistry
