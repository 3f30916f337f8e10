import KeelS2.Adapter.NativeOutputs

/-!
# The brackets of native entity outputs

What the output service is told of a token is a bracket, and the brackets that are open are those of
the dispatches on the stack (`Sound`). So they are nested, and when the stack is empty all of them
are closed and no place is taken.
-/

namespace KeelS2.Adapter.Outputs

open Lib
open Function (update_of_ne update_self)

/-! ## One dispatch -/

namespace Frame

variable (frame : Frame)

/-- The places that a frame holds. -/
def slots : List Slot :=
  match frame.stage with
  | .completing slot => slot :: frame.completions
  | _ => frame.completions

/-- What the service was told since the PRE. -/
def turn : Option Turn :=
  if frame.recalled then some .recalled
  else
    match frame.stage with
    | .pre _ | .inPre _ | .original => none
    | .post left => if frame.callbacks.idxOf .output < left then none else some .post
    | .inPost index => if frame.callbacks.idxOf .output < index then none else some .post
    | .done | .completing _ => some .post

/-- The PRE loop has passed the callbacks before this one. -/
def passed : Option Nat :=
  match frame.stage with
  | .pre index => some index
  | .inPre index => some (index + 1)
  | _ => none

/-- A dispatch that was recalled is in the callback that did so, or past the POST loop. -/
def mayBeRecalled : Bool :=
  match frame.stage with
  | .inPre _ | .done | .completing _ => true
  | _ => false

structure Sound (frame : Frame) : Prop where
  one : ∀ slot ∈ frame.slots, frame.slots = [slot]
  nodup : frame.callbacks.Nodup
  member : frame.completions ≠ [] → .output ∈ frame.callbacks
  passes : ∀ index ∈ frame.passed, frame.completions ≠ [] →
    frame.callbacks.idxOf .output < index
  called : frame.recalled = true → frame.originalCalled = true
  recallable : frame.recalled = true → frame.mayBeRecalled = true

/-- It waits for a recall of its own. -/
def Awaits : Prop := frame.recalled = false ∧ ∃ index, frame.stage = .inPre index

/-- The same dispatch, with the same places. -/
structure Continues (frame next : Frame) : Prop where
  address : next.address = frame.address
  target : next.target = frame.target
  recalling : next.recalling = frame.recalling
  slots : next.slots = frame.slots

variable {frame} {next : Frame} {index : Nat}

theorem Sound.not_recalled (hsound : frame.Sound) (h : frame.mayBeRecalled = false) :
    frame.recalled = false := by
  cases hrecalled : frame.recalled with
  | false => rfl
  | true => exact absurd (hsound.recallable hrecalled) (by rw [h]; exact Bool.false_ne_true)

theorem Sound.idxOf_eq (hsound : frame.Sound) (houtput : frame.callbacks[index]? = some .output) :
    frame.callbacks.idxOf .output = index := by
  obtain ⟨hindex, hget⟩ := List.getElem?_eq_some_iff.1 houtput
  rw [← hget]
  exact hsound.nodup.idxOf_getElem index hindex

theorem Sound.idxOf_ne (hsound : frame.Sound) (hheld : frame.completions ≠ [])
    (hother : frame.callbacks[index]? ≠ some .output) :
    frame.callbacks.idxOf .output ≠ index := by
  rintro rfl
  exact hother (List.getElem?_idxOf (hsound.member hheld))

theorem Sound.advance (hsound : frame.Sound) (hcallbacks : next.callbacks = frame.callbacks)
    (hcompletions : next.completions = frame.completions) (hslots : next.slots = frame.slots)
    (hpasses : ∀ index ∈ next.passed, frame.completions ≠ [] →
      frame.callbacks.idxOf .output < index)
    (hcalled : next.recalled = true → next.originalCalled = true)
    (hrecallable : next.recalled = true → next.mayBeRecalled = true) : next.Sound where
  one := hslots ▸ hsound.one
  nodup := hcallbacks ▸ hsound.nodup
  member := hcallbacks ▸ hcompletions ▸ hsound.member
  passes := hcallbacks ▸ hcompletions ▸ hpasses
  called := hcalled
  recallable := hrecallable

end Frame

/-- Dispatches that recall are above one that waits. -/
def Chained : List Frame → Prop
  | [] => True
  | frame :: below =>
    (frame.recalling = true → ∀ lower ∈ below.head?, lower.Awaits) ∧ Chained below

/-! ## The history -/

/-- These are the open brackets of a lawful history. -/
structure Told (history : List (BracketEvent UInt64 Turn)) (nextToken : UInt64)
    (brackets : List (UInt64 × Option Turn)) : Prop where
  brackets : openBrackets history = brackets
  bounded : ∀ token, .opened token ∈ history → nextToken = 0 ∨ token < nextToken
  lawful : Lawful bracketLaw history

section History

variable {history : List (BracketEvent UInt64 Turn)} {nextToken token : UInt64} {turn : Turn}
variable {brackets : List (UInt64 × Option Turn)}

theorem lt_succ_or (number : UInt64) : number + 1 = 0 ∨ number < number + 1 := by
  rw [← UInt64.toNat_inj, UInt64.lt_iff_toNat_lt, UInt64.toNat_add]
  have hbound := number.toNat_lt
  have hone : (1 : UInt64).toNat = 1 := rfl
  have hzero : (0 : UInt64).toNat = 0 := rfl
  omega

theorem Told.count (htold : Told history nextToken brackets) (hnext : nextToken ≠ 0) :
    Told history (nextToken + 1) brackets where
  brackets := htold.brackets
  bounded := fun token hmem => by
    rcases lt_succ_or nextToken with hzero | hlt
    · exact Or.inl hzero
    · exact Or.inr (UInt64.lt_trans ((htold.bounded token hmem).resolve_left hnext) hlt)
  lawful := htold.lawful

theorem Told.opened (htold : Told history nextToken brackets) (hnext : nextToken ≠ 0) :
    Told (.opened nextToken :: history) (nextToken + 1) ((nextToken, none) :: brackets) where
  brackets := by rw [openBrackets_opened, htold.brackets]
  bounded := fun token hmem => by
    rcases List.mem_cons.1 hmem with heq | hmem
    · cases heq
      exact lt_succ_or nextToken
    · exact (htold.count hnext).bounded token hmem
  lawful := ⟨fun token hmem => (htold.bounded token hmem).resolve_left hnext, htold.lawful⟩

theorem Told.marked (htold : Told history nextToken ((token, none) :: brackets)) (turn : Turn) :
    Told (.marked token turn :: history) nextToken ((token, some turn) :: brackets) where
  brackets := by rw [openBrackets_marked, htold.brackets, List.modifyHead_cons]
  bounded := fun other hmem =>
    htold.bounded other ((List.mem_cons.1 hmem).resolve_left fun heq => by cases heq)
  lawful := ⟨by rw [bracketLaw, htold.brackets, List.head?_cons], htold.lawful⟩

theorem Told.closed (htold : Told history nextToken ((token, some turn) :: brackets)) :
    Told (.closed token :: history) nextToken brackets where
  brackets := by rw [openBrackets_closed, htold.brackets, List.tail_cons]
  bounded := fun other hmem =>
    htold.bounded other ((List.mem_cons.1 hmem).resolve_left fun heq => by cases heq)
  lawful := ⟨⟨turn, by rw [htold.brackets, List.head?_cons]⟩, htold.lawful⟩

end History

/-! ## The table -/

/-- The bracket of a dispatch, while it is open. -/
def NativeOutputHooks.bracket (hooks : NativeOutputHooks) (frame : Frame) :
    Option (UInt64 × Option Turn) :=
  match frame.completions with
  | [] => none
  | slot :: _ => (hooks.pending slot).map fun pending => (pending.token, frame.turn)

/-- The places that are taken are those of the dispatches on the stack. -/
structure Placed (hooks : NativeOutputHooks) : Prop where
  frames : ∀ frame ∈ hooks.stack, frame.Sound
  addresses : (hooks.stack.map Frame.address).Nodup
  occupied : ∀ slot pending, hooks.pending slot = some pending → hooks.callback = true ∧
    ∃ frame ∈ hooks.stack, frame.address = pending.frame ∧ frame.target = hooks.target ∧
      slot ∈ frame.slots
  held : ∀ frame ∈ hooks.stack, ∀ slot ∈ frame.slots,
    ∃ pending, hooks.pending slot = some pending ∧ pending.frame = frame.address
  chained : Chained hooks.stack

structure Sound (hooks : NativeOutputHooks) : Prop where
  placed : Placed hooks
  told : Told hooks.history hooks.nextToken (hooks.stack.filterMap hooks.bracket)

theorem sound_initial : Sound .initial where
  placed := {
    frames := fun frame hmem => by cases hmem
    addresses := List.nodup_nil
    occupied := fun slot pending h => by cases h
    held := fun frame hmem => by cases hmem
    chained := trivial }
  told := {
    brackets := rfl
    bounded := fun token hmem => by cases hmem
    lawful := trivial }

section Table

variable {hooks : NativeOutputHooks} {frame next other : Frame} {below : List Frame}
variable {slot : Slot} {pending : Pending}

theorem Placed.eq_of_address (hplaced : Placed hooks) (hframe : frame ∈ hooks.stack)
    (hother : other ∈ hooks.stack) (haddress : frame.address = other.address) : frame = other :=
  List.inj_on_of_nodup_map hplaced.addresses hframe hother haddress

theorem Placed.eq_of_slot (hplaced : Placed hooks) (hframe : frame ∈ hooks.stack)
    (hother : other ∈ hooks.stack) (hslot : slot ∈ frame.slots) (hslot' : slot ∈ other.slots) :
    frame = other := by
  obtain ⟨pending, hpending, haddress⟩ := hplaced.held frame hframe slot hslot
  obtain ⟨pending', hpending', haddress'⟩ := hplaced.held other hother slot hslot'
  rw [hpending] at hpending'
  cases hpending'
  exact hplaced.eq_of_address hframe hother (haddress.symm.trans haddress')

theorem Placed.serves (hplaced : Placed hooks) (hframe : frame ∈ hooks.stack)
    (hslot : slot ∈ frame.slots) : hooks.serves frame = true := by
  obtain ⟨pending, hpending, haddress⟩ := hplaced.held frame hframe slot hslot
  obtain ⟨hcallback, owner, howner, haddress', htarget, _⟩ := hplaced.occupied slot pending hpending
  have hsame := hplaced.eq_of_address howner hframe (haddress'.trans haddress)
  subst hsame
  simp [NativeOutputHooks.serves, hcallback, htarget]

theorem mem_of_found {address : Address} (hfound : hooks.found address = some pending) :
    ∃ slot, hooks.pending slot = some pending ∧ pending.frame = address := by
  obtain ⟨slot, _, hslot⟩ := List.exists_of_findSome?_eq_some hfound
  obtain ⟨hpending, haddress⟩ := Option.filter_eq_some_iff.1 hslot
  exact ⟨slot, hpending, beq_iff_eq.1 haddress⟩

theorem Placed.found_eq_some_iff (hplaced : Placed hooks) (hframe : frame ∈ hooks.stack) :
    hooks.found frame.address = some pending ↔
      ∃ slot ∈ frame.slots, hooks.pending slot = some pending := by
  have hforward : ∀ {pending}, hooks.found frame.address = some pending →
      ∃ slot ∈ frame.slots, hooks.pending slot = some pending := by
    intro pending hfound
    obtain ⟨slot, hpending, haddress⟩ := mem_of_found hfound
    obtain ⟨_, owner, howner, haddress', _, hslot⟩ := hplaced.occupied slot pending hpending
    have hsame := hplaced.eq_of_address howner hframe (haddress'.trans haddress)
    exact ⟨slot, hsame ▸ hslot, hpending⟩
  refine ⟨hforward, fun ⟨slot, hslot, hpending⟩ => ?_⟩
  cases hfound : hooks.found frame.address with
  | none =>
    have hnone := List.findSome?_eq_none_iff.1 hfound slot (List.mem_finRange slot)
    obtain ⟨pending', hpending', haddress⟩ := hplaced.held frame hframe slot hslot
    rw [hpending', Option.filter_some, if_pos (beq_iff_eq.2 haddress)] at hnone
    cases hnone
  | some pending' =>
    -- A dispatch holds one place only.
    obtain ⟨slot', hslot', hpending'⟩ := hforward hfound
    rw [(hplaced.frames frame hframe).one slot hslot, List.mem_singleton] at hslot'
    rw [hslot', hpending] at hpending'
    exact hpending'.symm

theorem Placed.pending_none (hplaced : Placed hooks) (hslots : frame.slots = [])
    (hframe : frame ∈ hooks.stack) : hooks.found frame.address = none := by
  cases hfound : hooks.found frame.address with
  | none => rfl
  | some pending =>
    obtain ⟨slot, hslot, _⟩ := (hplaced.found_eq_some_iff hframe).1 hfound
    rw [hslots] at hslot
    cases hslot

theorem Placed.update {table : Slot → Option Pending} (hplaced : Placed hooks)
    (hstack : hooks.stack = frame :: below) (hsound : next.Sound)
    (haddress : next.address = frame.address) (hrecalling : next.recalling = frame.recalling)
    (hbelow : ∀ other ∈ below, ∀ slot ∈ other.slots, table slot = hooks.pending slot)
    (hheld : ∀ slot ∈ next.slots, ∃ pending, table slot = some pending ∧
      pending.frame = next.address)
    (hoccupied : ∀ slot pending, table slot = some pending →
      slot ∈ next.slots ∧ next.address = pending.frame ∧ hooks.callback = true ∧
          next.target = hooks.target ∨
        slot ∉ frame.slots ∧ hooks.pending slot = some pending) (nextToken : UInt64)
    (history : List (BracketEvent UInt64 Turn)) :
    Placed { hooks with
      stack := next :: below, pending := table, nextToken := nextToken, history := history } where
  frames := fun other hmem => by
    rcases List.mem_cons.1 hmem with rfl | hmem
    · exact hsound
    · exact hplaced.frames other (hstack ▸ List.mem_cons_of_mem _ hmem)
  addresses := by
    have haddresses := hplaced.addresses
    rw [hstack, List.map_cons, ← haddress] at haddresses
    exact haddresses
  occupied := fun slot pending hpending => by
    rcases hoccupied slot pending hpending with ⟨hslot, hsame, hcallback, htarget⟩ | ⟨hslot, hold⟩
    · exact ⟨hcallback, next, List.mem_cons_self, hsame, htarget, hslot⟩
    · obtain ⟨hcallback, owner, howner, hrest⟩ := hplaced.occupied slot pending hold
      rw [hstack] at howner
      rcases List.mem_cons.1 howner with rfl | howner
      · exact absurd hrest.2.2 hslot
      · exact ⟨hcallback, owner, List.mem_cons_of_mem _ howner, hrest⟩
  held := fun other hmem slot hslot => by
    rcases List.mem_cons.1 hmem with rfl | hmem
    · exact hheld slot hslot
    · obtain ⟨pending, hpending, hsame⟩ :=
        hplaced.held other (hstack ▸ List.mem_cons_of_mem _ hmem) slot hslot
      exact ⟨pending, (hbelow other hmem slot hslot).trans hpending, hsame⟩
  chained := by
    have hchained := hplaced.chained
    rw [hstack] at hchained
    exact ⟨fun h => hchained.1 (hrecalling ▸ h), hchained.2⟩

theorem filterMap_cons_toList {α β : Type*} (f : α → Option β) (first : α) (rest : List α) :
    (first :: rest).filterMap f = (f first).toList ++ rest.filterMap f := by
  cases hfirst : f first with
  | none => rw [List.filterMap_cons_none hfirst]; rfl
  | some value => rw [List.filterMap_cons_some hfirst]; rfl

theorem bracket_of_completions (h : frame.completions = []) : hooks.bracket frame = none := by
  simp [NativeOutputHooks.bracket, h]

theorem mem_slots_of_completions (h : slot ∈ frame.completions) : slot ∈ frame.slots := by
  cases hstage : frame.stage with
  | completing other =>
    simp only [Frame.slots, hstage]
    exact List.mem_cons_of_mem _ h
  | _ => simpa [Frame.slots, hstage] using h

theorem bracket_congr {later : NativeOutputHooks}
    (h : ∀ slot ∈ frame.slots, later.pending slot = hooks.pending slot) :
    later.bracket frame = hooks.bracket frame := by
  unfold NativeOutputHooks.bracket
  split
  · rfl
  · rename_i slot rest hcompletions
    rw [h slot (mem_slots_of_completions (hcompletions ▸ List.mem_cons_self))]

theorem Sound.goesOn {history : List (BracketEvent UInt64 Turn)} (hsound : Sound hooks)
    (hstack : hooks.stack = frame :: below) (hcontinues : frame.Continues next)
    (hnext : next.Sound)
    (htold : Told history hooks.nextToken
      ((hooks.bracket next).toList ++ below.filterMap hooks.bracket)) :
    Sound { hooks with stack := next :: below, history := history } where
  placed := by
    have hmem : frame ∈ hooks.stack := hstack ▸ List.mem_cons_self
    refine hsound.placed.update hstack hnext hcontinues.address hcontinues.recalling
      (fun _ _ _ _ => rfl) (fun slot hslot => ?_) (fun slot pending hpending => ?_) _ _
    · rw [hcontinues.slots] at hslot
      rw [hcontinues.address]
      exact hsound.placed.held frame hmem slot hslot
    · by_cases hslot : slot ∈ frame.slots
      · obtain ⟨hcallback, owner, howner, haddress, htarget, hslot'⟩ :=
          hsound.placed.occupied slot pending hpending
        have hsame := hsound.placed.eq_of_slot howner hmem hslot' hslot
        subst hsame
        exact Or.inl ⟨hcontinues.slots ▸ hslot, hcontinues.address.trans haddress, hcallback,
          hcontinues.target.trans htarget⟩
      · exact Or.inr ⟨hslot, hpending⟩
  told := by
    rw [← filterMap_cons_toList] at htold
    exact htold

theorem Sound.brackets (hsound : Sound hooks) (hstack : hooks.stack = frame :: below) :
    Told hooks.history hooks.nextToken
      ((hooks.bracket frame).toList ++ below.filterMap hooks.bracket) := by
  rw [← filterMap_cons_toList, ← hstack]
  exact hsound.told

theorem Sound.silent (hsound : Sound hooks) (hstack : hooks.stack = frame :: below)
    (hcontinues : frame.Continues next) (hnext : next.Sound)
    (hbracket : hooks.bracket next = hooks.bracket frame) :
    Sound (hooks.setStack (next :: below)) :=
  hsound.goesOn hstack hcontinues hnext (hbracket ▸ hsound.brackets hstack)

theorem bracket_eq (hcompletions : next.completions = frame.completions)
    (hturn : frame.completions ≠ [] → next.turn = frame.turn) :
    hooks.bracket next = hooks.bracket frame := by
  unfold NativeOutputHooks.bracket
  rw [hcompletions]
  split
  · rfl
  · rename_i slot rest hheld
    rw [hturn (hheld ▸ List.cons_ne_nil slot rest)]

theorem Sound.move {stage : Stage} (hsound : Sound hooks) (hstack : hooks.stack = frame :: below)
    (hslots : (frame.goTo stage).slots = frame.slots)
    (hpasses : ∀ index ∈ (frame.goTo stage).passed, frame.completions ≠ [] →
      frame.callbacks.idxOf .output < index)
    (hrecallable : frame.recalled = true → (frame.goTo stage).mayBeRecalled = true)
    (hturn : frame.completions ≠ [] → (frame.goTo stage).turn = frame.turn) :
    Sound (hooks.setStack (frame.goTo stage :: below)) := by
  have hframe := hsound.placed.frames frame (hstack ▸ List.mem_cons_self)
  exact hsound.silent hstack ⟨rfl, rfl, rfl, hslots⟩
    (hframe.advance rfl rfl hslots hpasses hframe.called hrecallable)
    (bracket_eq rfl hturn)

/-! ## The steps of a dispatch -/

theorem Sound.pre {index : Nat} {stage : Stage} (hsound : Sound hooks)
    (hstack : hooks.stack = frame :: below) (hstage : frame.stage = .pre index)
    (hto : stage = .inPre index ∨ stage = .pre (index + 1) ∨ stage = .original ∨
      stage = .post frame.callbacks.length) :
    Sound (hooks.setStack (frame.goTo stage :: below)) := by
  have hframe := hsound.placed.frames frame (hstack ▸ List.mem_cons_self)
  have hrecalled : frame.recalled = false :=
    hframe.not_recalled (by simp [Frame.mayBeRecalled, hstage])
  have hpassed : frame.completions ≠ [] → frame.callbacks.idxOf .output < index :=
    hframe.passes index (by simp [Frame.passed, hstage])
  have hturn : frame.turn = none := by simp [Frame.turn, hrecalled, hstage]
  refine hsound.move hstack ?_ ?_ (fun h => by rw [hrecalled] at h; cases h) fun hheld => ?_
  · rcases hto with rfl | rfl | rfl | rfl <;> simp only [Frame.slots, Frame.goTo, hstage]
  · rcases hto with rfl | rfl | rfl | rfl <;> simp only [Frame.passed, Frame.goTo]
    · intro next hmem hheld
      cases hmem
      exact Nat.lt_succ_of_lt (hpassed hheld)
    · intro next hmem hheld
      cases hmem
      exact Nat.lt_succ_of_lt (hpassed hheld)
    · intro next hmem
      cases hmem
    · intro next hmem
      cases hmem
  · rw [hturn]
    rcases hto with rfl | rfl | rfl | rfl <;> simp only [Frame.turn, Frame.goTo, hrecalled]
    · rfl
    · rfl
    · rfl
    · have hlength := List.idxOf_lt_length_iff.2 (hframe.member hheld)
      simp [hlength]

theorem Sound.original (hsound : Sound hooks) (hstack : hooks.stack = frame :: below)
    (hstage : frame.stage = .original) :
    Sound (hooks.setStack ({ frame with
      originalCalled := true, stage := .post frame.callbacks.length } :: below)) := by
  have hframe := hsound.placed.frames frame (hstack ▸ List.mem_cons_self)
  have hrecalled : frame.recalled = false :=
    hframe.not_recalled (by simp [Frame.mayBeRecalled, hstage])
  have hslots : Frame.slots { frame with
      originalCalled := true, stage := .post frame.callbacks.length } = frame.slots := by
    simp [Frame.slots, hstage]
  refine hsound.silent hstack ⟨rfl, rfl, rfl, hslots⟩ (hframe.advance rfl rfl hslots ?_
    (fun _ => rfl) fun h => ?_) (bracket_eq rfl fun hheld => ?_)
  · intro index hmem
    cases hmem
  · rw [hrecalled] at h
    cases h
  · have hlength := List.idxOf_lt_length_iff.2 (hframe.member hheld)
    simp [Frame.turn, hrecalled, hstage, hlength]

theorem Sound.post {left index : Nat} {stage : Stage} (hsound : Sound hooks)
    (hstack : hooks.stack = frame :: below) (hstage : frame.stage = .post left)
    (hto : left = index + 1 ∧ (frame.completions ≠ [] → frame.callbacks.idxOf .output ≠ index) ∧
        (stage = .inPost index ∨ stage = .post index) ∨
      left = 0 ∧ stage = .done) :
    Sound (hooks.setStack (frame.goTo stage :: below)) := by
  have hframe := hsound.placed.frames frame (hstack ▸ List.mem_cons_self)
  have hrecalled : frame.recalled = false :=
    hframe.not_recalled (by simp only [Frame.mayBeRecalled, hstage])
  refine hsound.move hstack ?_ ?_ (fun h => by rw [hrecalled] at h; cases h) fun hheld => ?_
  · rcases hto with ⟨_, _, rfl | rfl⟩ | ⟨_, rfl⟩ <;> simp only [Frame.slots, Frame.goTo, hstage]
  · rcases hto with ⟨_, _, rfl | rfl⟩ | ⟨_, rfl⟩ <;> exact fun index hmem => by cases hmem
  · rcases hto with ⟨rfl, hne, rfl | rfl⟩ | ⟨rfl, rfl⟩ <;>
      simp only [Frame.turn, Frame.goTo, hrecalled, hstage]
    · have hiff : frame.callbacks.idxOf .output < index ↔
          frame.callbacks.idxOf .output < index + 1 := by
        have hne := hne hheld
        omega
      simp only [hiff]
    · have hiff : frame.callbacks.idxOf .output < index ↔
          frame.callbacks.idxOf .output < index + 1 := by
        have hne := hne hheld
        omega
      simp only [hiff]
    · simp

/-! ## What the service is told -/

theorem Placed.eq_cons_of_slot (hplaced : Placed hooks) (hframe : frame ∈ hooks.stack)
    {rest : List Slot} (hcompletions : frame.completions = slot :: rest) :
    frame.slots = [slot] ∧ ∃ pending, hooks.pending slot = some pending ∧
      pending.frame = frame.address := by
  have hslot : slot ∈ frame.slots :=
    mem_slots_of_completions (hcompletions ▸ List.mem_cons_self)
  exact ⟨(hplaced.frames frame hframe).one slot hslot, hplaced.held frame hframe slot hslot⟩

theorem bracket_of_pending {rest : List Slot} (hcompletions : frame.completions = slot :: rest)
    (hpending : hooks.pending slot = some pending) :
    hooks.bracket frame = some (pending.token, frame.turn) := by
  simp [NativeOutputHooks.bracket, hcompletions, hpending]

theorem Sound.entryPost {index : Nat} (hsound : Sound hooks)
    (hstack : hooks.stack = frame :: below) (hstage : frame.stage = .post (index + 1))
    (houtput : frame.callbacks[index]? = some .output) :
    Sound (hooks.entryPost frame below index) := by
  have hmem : frame ∈ hooks.stack := hstack ▸ List.mem_cons_self
  have hframe := hsound.placed.frames frame hmem
  have hslots : frame.slots = frame.completions := by simp [Frame.slots, hstage]
  have hidx := hframe.idxOf_eq houtput
  cases hcompletions : frame.completions with
  | nil =>
    have hfound := hsound.placed.pending_none (hslots.trans hcompletions) hmem
    have hpassed : Sound (hooks.setStack (frame.goTo (.post index) :: below)) :=
      hsound.post hstack hstage
        (Or.inl ⟨rfl, fun hheld => absurd hcompletions hheld, Or.inr rfl⟩)
    unfold NativeOutputHooks.entryPost
    split
    · rw [hfound]
      exact hpassed
    · exact hpassed
  | cons slot rest =>
    obtain ⟨hone, pending, hpending, haddress⟩ :=
      hsound.placed.eq_cons_of_slot hmem hcompletions
    have hslot : slot ∈ frame.slots := hone ▸ List.mem_cons_self
    have hserves := hsound.placed.serves hmem hslot
    have hfound : hooks.found frame.address = some pending :=
      (hsound.placed.found_eq_some_iff hmem).2 ⟨slot, hslot, hpending⟩
    have hrecalled : frame.recalled = false :=
      hframe.not_recalled (by simp [Frame.mayBeRecalled, hstage])
    have hbefore : frame.turn = none := by simp [Frame.turn, hrecalled, hstage, hidx]
    have hafter : (frame.goTo (.inPost index)).turn = some .post := by
      simp [Frame.turn, Frame.goTo, hrecalled, hidx]
    have htold := hsound.brackets hstack
    rw [bracket_of_pending hcompletions hpending, hbefore] at htold
    have hnext : (frame.goTo (.inPost index)).slots = frame.slots := by
      simp [Frame.slots, Frame.goTo, hstage]
    simp only [NativeOutputHooks.entryPost, if_pos hserves, hfound]
    refine hsound.goesOn hstack ⟨rfl, rfl, rfl, hnext⟩ (hframe.advance rfl rfl hnext
      (fun index hmem => by cases hmem) hframe.called
      (fun h => by rw [Frame.goTo, hrecalled] at h; cases h)) ?_
    rw [show hooks.bracket (frame.goTo (.inPost index)) = _ from
      bracket_of_pending hcompletions hpending, hafter]
    exact htold.marked .post

theorem Sound.complete {rest : List Slot} (hsound : Sound hooks)
    (hstack : hooks.stack = frame :: below) (hstage : frame.stage = .done)
    (hcompletions : frame.completions = slot :: rest) :
    Sound (hooks.complete { frame with completions := rest } below slot) := by
  have hmem : frame ∈ hooks.stack := hstack ▸ List.mem_cons_self
  have hframe := hsound.placed.frames frame hmem
  have hslots : frame.slots = frame.completions := by simp [Frame.slots, hstage]
  obtain ⟨hone, pending, hpending, haddress⟩ := hsound.placed.eq_cons_of_slot hmem hcompletions
  have hrest : rest = [] := by
    rw [hslots, hcompletions] at hone
    exact (List.cons.inj hone).2
  subst hrest
  obtain ⟨hcallback, _⟩ := hsound.placed.occupied slot pending hpending
  obtain ⟨turn, hturn⟩ : ∃ turn, frame.turn = some turn := by
    cases hrecalled : frame.recalled with
    | true => exact ⟨.recalled, by simp [Frame.turn, hrecalled]⟩
    | false => exact ⟨.post, by simp [Frame.turn, hrecalled, hstage]⟩
  have htold := hsound.brackets hstack
  rw [bracket_of_pending hcompletions hpending, hturn] at htold
  simp only [NativeOutputHooks.complete, hpending, if_pos hcallback]
  refine hsound.goesOn hstack ⟨rfl, rfl, rfl, ?_⟩ ?_ ?_
  · rw [hone]
    rfl
  · exact {
      one := fun other hother => by
        rw [List.mem_singleton.1 hother]
        rfl
      nodup := hframe.nodup
      member := fun hheld => absurd rfl hheld
      passes := fun index hmem => by cases hmem
      called := hframe.called
      recallable := fun _ => rfl }
  · exact htold.closed

theorem Frame.Sound.completions_eq_nil {index : Nat} (hframe : frame.Sound)
    (hstage : frame.stage = .pre index) (houtput : frame.callbacks[index]? = some .output) :
    frame.completions = [] := by
  by_contra hheld
  have hlt := hframe.passes index (by simp [Frame.passed, hstage]) hheld
  rw [hframe.idxOf_eq houtput] at hlt
  exact Nat.lt_irrefl _ hlt

theorem mem_of_free (hfree : hooks.free = some slot) : hooks.pending slot = none :=
  Option.isNone_iff_eq_none.1 (List.find?_some hfree :)

theorem Sound.supersede (hsound : Sound hooks) (hstack : hooks.stack = frame :: below)
    (superseded : Bool) :
    Sound (hooks.setStack ({ frame with superseded := superseded } :: below)) := by
  have hframe := hsound.placed.frames frame (hstack ▸ List.mem_cons_self)
  exact hsound.silent hstack ⟨rfl, rfl, rfl, rfl⟩
    (hframe.advance rfl rfl rfl hframe.passes hframe.called hframe.recallable)
    (bracket_eq rfl fun _ => rfl)

theorem Sound.reserve {index : Nat} (hsound : Sound hooks) (hstack : hooks.stack = frame :: below)
    (hstage : frame.stage = .pre index) (houtput : frame.callbacks[index]? = some .output)
    (hserves : hooks.serves frame = true) (hnext : hooks.nextToken ≠ 0)
    (hfree : hooks.pending slot = none) :
    Sound { hooks with
      pending := Function.update hooks.pending slot (some ⟨frame.address, hooks.nextToken⟩)
      nextToken := hooks.nextToken + 1
      stack := { frame with stage := .inPre index, completions := [slot] } :: below
      history := .opened hooks.nextToken :: hooks.history } := by
  have hmem : frame ∈ hooks.stack := hstack ▸ List.mem_cons_self
  have hframe := hsound.placed.frames frame hmem
  have hnone := hframe.completions_eq_nil hstage houtput
  have hslots : frame.slots = [] := by simp [Frame.slots, hstage, hnone]
  have hrecalled : frame.recalled = false :=
    hframe.not_recalled (by simp [Frame.mayBeRecalled, hstage])
  have hidx := hframe.idxOf_eq houtput
  obtain ⟨hcallback, htarget⟩ := Bool.and_eq_true_iff.1 hserves
  -- The place is none of those below.
  have hbelow : ∀ other ∈ below, ∀ place ∈ other.slots,
      Function.update hooks.pending slot (some ⟨frame.address, hooks.nextToken⟩) place =
        hooks.pending place := by
    intro other hother place hplace
    refine update_of_ne ?_ _ _
    rintro rfl
    obtain ⟨pending, hpending, _⟩ :=
      hsound.placed.held other (hstack ▸ List.mem_cons_of_mem _ hother) place hplace
    rw [hfree] at hpending
    cases hpending
  have hnew : Frame.Sound { frame with stage := .inPre index, completions := [slot] } := {
    one := fun other hother => by
      rw [List.mem_singleton.1 hother]
      rfl
    nodup := hframe.nodup
    member := fun _ => List.mem_of_getElem? houtput
    passes := fun other hother _ => by
      cases hother
      exact hidx ▸ Nat.lt_succ_self _
    called := hframe.called
    recallable := fun _ => rfl }
  refine ⟨hsound.placed.update hstack hnew rfl rfl hbelow ?_ ?_ _ _, ?_⟩
  · intro other hother
    rw [List.mem_singleton.1 hother]
    exact ⟨_, update_self .., rfl⟩
  · intro other pending hpending
    by_cases hsame : other = slot
    · subst hsame
      rw [update_self] at hpending
      cases hpending
      exact Or.inl ⟨List.mem_cons_self, rfl, hcallback, beq_iff_eq.1 htarget⟩
    · rw [update_of_ne hsame] at hpending
      exact Or.inr ⟨by rw [hslots]; exact List.not_mem_nil, hpending⟩
  · have htold := hsound.brackets hstack
    rw [bracket_of_completions hnone] at htold
    have hturn : Frame.turn { frame with stage := .inPre index, completions := [slot] } = none := by
      simp [Frame.turn, hrecalled]
    show Told _ _ (List.filterMap _ (_ :: below))
    rw [filterMap_cons_toList, bracket_of_pending rfl (update_self ..), hturn,
      List.filterMap_congr fun other hother => bracket_congr (hbelow other hother)]
    exact htold.opened hnext

theorem Sound.entryPre {index : Nat} (hsound : Sound hooks) (hstack : hooks.stack = frame :: below)
    (hstage : frame.stage = .pre index) (houtput : frame.callbacks[index]? = some .output)
    (seen : Capture) : Sound (hooks.entryPre frame below index seen) := by
  have hframe := hsound.placed.frames frame (hstack ▸ List.mem_cons_self)
  have hnone := hframe.completions_eq_nil hstage houtput
  have hpassed : Sound (hooks.setStack (frame.goTo (.pre (index + 1)) :: below)) :=
    hsound.pre hstack hstage (Or.inr (Or.inl rfl))
  cases seen with
  | refused => exact hpassed
  | threw => exact hpassed.supersede rfl true
  | captured =>
    simp only [NativeOutputHooks.entryPre]
    split
    · rename_i hready
      obtain ⟨hserves, hnext⟩ := Bool.and_eq_true_iff.1 hready
      cases hfree : hooks.free with
      | none => exact hpassed
      | some slot =>
        have hdefer : frame.defer slot = ({ frame with completions := [slot] }, .ok) := by
          simp [Frame.defer, hnone]
        simp only [hdefer]
        exact hsound.reserve hstack hstage houtput hserves (bne_iff_ne.1 hnext)
          (mem_of_free hfree)
    · exact hpassed

theorem Sound.completed (hsound : Sound hooks) (hstack : hooks.stack = frame :: below)
    (hstage : frame.stage = .completing slot) :
    Sound ((hooks.setPending slot none).setStack (frame.goTo .done :: below)) := by
  have hmem : frame ∈ hooks.stack := hstack ▸ List.mem_cons_self
  have hframe := hsound.placed.frames frame hmem
  have hslots : frame.slots = slot :: frame.completions := by simp [Frame.slots, hstage]
  have hslot : slot ∈ frame.slots := hslots ▸ List.mem_cons_self
  have hnone : frame.completions = [] := by
    have hone := hframe.one slot hslot
    rw [hslots] at hone
    exact (List.cons.inj hone).2
  have hnew : (frame.goTo .done).slots = [] := by simp [Frame.slots, Frame.goTo, hnone]
  have hbelow : ∀ other ∈ below, ∀ place ∈ other.slots,
      Function.update hooks.pending slot none place = hooks.pending place := by
    intro other hother place hplace
    refine update_of_ne ?_ _ _
    rintro rfl
    have hsame := hsound.placed.eq_of_slot hmem (hstack ▸ List.mem_cons_of_mem _ hother) hslot
      hplace
    have haddresses := hsound.placed.addresses
    rw [hstack, List.map_cons, List.nodup_cons] at haddresses
    exact haddresses.1 (hsame ▸ List.mem_map_of_mem hother)
  have hnext : (frame.goTo .done).Sound := {
    one := fun other hother => by rw [hnew] at hother; cases hother
    nodup := hframe.nodup
    member := fun hheld => absurd hnone hheld
    passes := fun index hmem => by cases hmem
    called := hframe.called
    recallable := fun _ => rfl }
  refine ⟨hsound.placed.update hstack hnext rfl rfl hbelow ?_ ?_ _ _, ?_⟩
  · intro other hother
    rw [hnew] at hother
    cases hother
  · intro other pending hpending
    by_cases hsame : other = slot
    · subst hsame
      rw [update_self] at hpending
      cases hpending
    · rw [update_of_ne hsame] at hpending
      exact Or.inr ⟨by simpa [hslots, hnone] using hsame, hpending⟩
  · have htold := hsound.brackets hstack
    rw [bracket_of_completions hnone] at htold
    show Told _ _ (List.filterMap _ (_ :: below))
    rw [filterMap_cons_toList,
      show NativeOutputHooks.bracket _ (frame.goTo .done) = none from bracket_of_completions hnone,
      List.filterMap_congr fun other hother => bracket_congr (hbelow other hother)]
    exact htold

theorem Sound.returns (hsound : Sound hooks) (supersedes : Bool) :
    Sound (hooks.returns supersedes) := by
  unfold NativeOutputHooks.returns
  split
  · exact hsound
  rename_i frame below hstack
  have hframe := hsound.placed.frames frame (hstack ▸ List.mem_cons_self)
  split
  · rename_i index hstage
    by_cases hrecalled : frame.recalled = true
    · rw [if_pos hrecalled]
      have hdone : Sound (hooks.setStack (frame.goTo .done :: below)) :=
        hsound.move hstack (by simp [Frame.slots, Frame.goTo, hstage])
          (fun index hmem => by cases hmem) (fun _ => rfl)
          (fun _ => by simp [Frame.turn, Frame.goTo, hrecalled])
      exact hdone.supersede rfl (frame.superseded || supersedes)
    · rw [if_neg hrecalled]
      have hpassed := hframe.passes (index + 1) (by simp [Frame.passed, hstage])
      have hpre : Sound (hooks.setStack (frame.goTo (.pre (index + 1)) :: below)) :=
        hsound.move hstack (by simp [Frame.slots, Frame.goTo, hstage])
          (fun next hmem => by cases hmem; exact hpassed) (fun h => absurd h hrecalled)
          (fun _ => by simp [Frame.turn, Frame.goTo, hrecalled, hstage])
      exact hpre.supersede rfl (frame.superseded || supersedes)
  · rename_i index hstage
    have hrecalled : frame.recalled = false :=
      hframe.not_recalled (by simp [Frame.mayBeRecalled, hstage])
    exact hsound.move hstack (by simp [Frame.slots, Frame.goTo, hstage])
      (fun next hmem => by cases hmem) (fun h => by rw [hrecalled] at h; cases h)
      (fun _ => by simp [Frame.turn, Frame.goTo, hrecalled, hstage])
  · rename_i slot hstage
    exact hsound.completed hstack hstage
  · exact hsound
  · exact hsound
  · exact hsound
  · exact hsound

/-! ## The stack -/

theorem Sound.pop (hsound : Sound hooks) (hstack : hooks.stack = frame :: below)
    (hslots : frame.slots = []) : Sound (hooks.setStack below) where
  placed := by
    have hbelow : ∀ other ∈ below, other ∈ hooks.stack := fun other hother =>
      hstack ▸ List.mem_cons_of_mem _ hother
    exact {
      frames := fun other hother => hsound.placed.frames other (hbelow other hother)
      addresses := by
        have haddresses := hsound.placed.addresses
        rw [hstack] at haddresses
        exact haddresses.of_cons
      occupied := fun slot pending hpending => by
        obtain ⟨hcallback, owner, howner, hrest⟩ := hsound.placed.occupied slot pending hpending
        rw [hstack] at howner
        rcases List.mem_cons.1 howner with rfl | howner
        · exact absurd hrest.2.2 (by rw [hslots]; exact List.not_mem_nil)
        · exact ⟨hcallback, owner, howner, hrest⟩
      held := fun other hother => hsound.placed.held other (hbelow other hother)
      chained := by
        have hchained := hsound.placed.chained
        rw [hstack] at hchained
        exact hchained.2 }
  told := by
    have hnone : frame.completions = [] := by
      by_contra hheld
      obtain ⟨slot, rest, hcompletions⟩ := List.exists_cons_of_ne_nil hheld
      have hmem : slot ∈ frame.slots :=
        mem_slots_of_completions (hcompletions ▸ List.mem_cons_self)
      rw [hslots] at hmem
      cases hmem
    have htold := hsound.brackets hstack
    rw [bracket_of_completions hnone] at htold
    exact htold

theorem Sound.leave (hsound : Sound hooks) (hstack : hooks.stack = frame :: below)
    (hslots : frame.slots = []) : Sound (hooks.leave frame below) := by
  have hpopped := hsound.pop hstack hslots
  unfold NativeOutputHooks.leave
  split
  · rename_i lower rest hrecalling
    have hmem : lower ∈ (hooks.setStack (lower :: rest)).stack := List.mem_cons_self
    have hlower := hpopped.placed.frames lower hmem
    have hchained := hsound.placed.chained
    rw [hstack] at hchained
    obtain ⟨hrecalled, index, hstage⟩ := hchained.1 hrecalling lower rfl
    have hsame : lower.slots = lower.completions := by simp [Frame.slots, hstage]
    have hrest : Frame.slots { lower with originalCalled := true, recalled := true } =
        lower.slots := rfl
    have hnew : Frame.Sound { lower with originalCalled := true, recalled := true } :=
      hlower.advance rfl rfl hrest hlower.passes (fun _ => rfl)
        (fun _ => by simp [Frame.mayBeRecalled, hstage])
    have htold := hpopped.brackets rfl
    by_cases hcompletions : lower.completions = []
    · have hfound := hpopped.placed.pending_none (hsame.trans hcompletions) hmem
      rw [show hooks.found lower.address = none from hfound]
      refine hpopped.goesOn rfl ⟨rfl, rfl, rfl, hrest⟩ hnew ?_
      rw [bracket_of_completions hcompletions] at htold
      rw [show NativeOutputHooks.bracket _ { lower with originalCalled := true, recalled := true } =
        none from bracket_of_completions hcompletions]
      exact htold
    · obtain ⟨slot, others, hcompletions⟩ := List.exists_cons_of_ne_nil hcompletions
      obtain ⟨hone, pending, hpending, _⟩ := hpopped.placed.eq_cons_of_slot hmem hcompletions
      have hfound := (hpopped.placed.found_eq_some_iff hmem).2
        ⟨slot, hone ▸ List.mem_cons_self, hpending⟩
      rw [show hooks.found lower.address = some pending from hfound]
      have hturn : lower.turn = none := by simp [Frame.turn, hrecalled, hstage]
      rw [bracket_of_pending hcompletions hpending, hturn] at htold
      refine hpopped.goesOn rfl ⟨rfl, rfl, rfl, hrest⟩ hnew ?_
      rw [show NativeOutputHooks.bracket _ { lower with originalCalled := true, recalled := true } =
        _ from bracket_of_pending hcompletions hpending]
      exact htold.marked .recalled
  · exact hpopped

theorem Sound.push (hsound : Sound hooks) {address : Address} {target index : Nat}
    {callbacks : List Who} {recalling : Bool}
    (hfresh : address ∉ hooks.stack.map Frame.address) (hnodup : callbacks.Nodup)
    (hawaits : recalling = true → ∀ lower ∈ hooks.stack.head?, lower.Awaits) :
    Sound (hooks.setStack (⟨address, target, callbacks, recalling, .pre index, false, false,
      false, []⟩ :: hooks.stack)) where
  placed := {
    frames := fun frame hmem => by
      rcases List.mem_cons.1 hmem with rfl | hmem
      · exact {
          one := fun slot hslot => by cases hslot
          nodup := hnodup
          member := fun hheld => absurd rfl hheld
          passes := fun _ _ hheld => absurd rfl hheld
          called := fun h => by cases h
          recallable := fun h => by cases h }
      · exact hsound.placed.frames frame hmem
    addresses := List.nodup_cons.2 ⟨hfresh, hsound.placed.addresses⟩
    occupied := fun slot pending hpending => by
      obtain ⟨hcallback, owner, howner, hrest⟩ := hsound.placed.occupied slot pending hpending
      exact ⟨hcallback, owner, List.mem_cons_of_mem _ howner, hrest⟩
    held := fun frame hmem slot hslot => by
      rcases List.mem_cons.1 hmem with rfl | hmem
      · cases hslot
      · exact hsound.placed.held frame hmem slot hslot
    chained := ⟨hawaits, hsound.placed.chained⟩ }
  told := hsound.told

theorem Sound.goOn (hsound : Sound hooks) (runs : Bool) (seen : Capture) :
    Sound (hooks.goOn runs seen) := by
  unfold NativeOutputHooks.goOn
  split
  · exact hsound
  rename_i frame below hstack
  split
  · rename_i index hstage
    split
    · refine hsound.pre hstack hstage ?_
      split
      · exact Or.inr (Or.inr (Or.inr rfl))
      · exact Or.inr (Or.inr (Or.inl rfl))
    · rename_i houtput
      exact hsound.entryPre hstack hstage houtput seen
    · refine hsound.pre hstack hstage ?_
      cases runs with
      | true => exact Or.inl rfl
      | false => exact Or.inr (Or.inl rfl)
  · rename_i hstage
    exact hsound.original hstack hstage
  · rename_i hstage
    exact @Sound.post _ _ _ 0 0 .done hsound hstack hstage (Or.inr ⟨rfl, rfl⟩)
  · rename_i index hstage
    split
    · rename_i houtput
      exact hsound.entryPost hstack hstage houtput
    · rename_i hother
      have hframe := hsound.placed.frames frame (hstack ▸ List.mem_cons_self)
      refine hsound.post hstack hstage
        (Or.inl ⟨rfl, fun hheld => hframe.idxOf_ne hheld hother, ?_⟩)
      cases runs with
      | true => exact Or.inl rfl
      | false => exact Or.inr rfl
  · rename_i hstage
    split
    · rename_i hcompletions
      exact hsound.leave hstack (by simp [Frame.slots, hstage, hcompletions])
    · rename_i slot rest hcompletions
      exact hsound.complete hstack hstage hcompletions
  · exact hsound
  · exact hsound
  · exact hsound

theorem caller_eq_some {peer : Nat} (hcaller : hooks.caller = some (frame, peer)) :
    ∃ below index, hooks.stack = frame :: below ∧ frame.stage = .inPre index := by
  unfold NativeOutputHooks.caller at hcaller
  split at hcaller
  · cases hcaller
  rename_i first below hstack
  split at hcaller
  · rename_i index hstage
    split at hcaller
    · cases hcaller
      exact ⟨below, index, hstack, hstage⟩
    · cases hcaller
  · cases hcaller

section

variable (hsound : Sound hooks)

include hsound

theorem Sound.recallCall {address : Address} {callbacks : List Who}
    (hfresh : address ∉ hooks.stack.map Frame.address) (hnodup : callbacks.Nodup) (room : Bool) :
    Sound (hooks.recallCall address callbacks room) := by
  unfold NativeOutputHooks.recallCall
  split
  · exact hsound
  rename_i frame peer hcaller
  obtain ⟨below, index, hstack, hstage⟩ := caller_eq_some hcaller
  split
  · exact hsound
  · rename_i hallowed
    refine hsound.push hfresh hnodup fun _ lower hlower => ?_
    rw [hstack, List.head?_cons, Option.mem_some_iff] at hlower
    subst hlower
    have hframe := hsound.placed.frames frame (hstack ▸ List.mem_cons_self)
    have hrecalled : frame.recalled = false := by
      cases hrecalled : frame.recalled with
      | false => rfl
      | true => exact absurd (by simp [hframe.called hrecalled]) hallowed
    exact ⟨hrecalled, index, hstage⟩

theorem Sound.callOriginal : Sound hooks.callOriginal := by
  unfold NativeOutputHooks.callOriginal
  split
  · exact hsound
  rename_i frame peer hcaller
  obtain ⟨below, index, hstack, hstage⟩ := caller_eq_some hcaller
  have hframe := hsound.placed.frames frame (hstack ▸ List.mem_cons_self)
  split
  · exact hsound
  · rw [hstack, List.tail_cons]
    exact hsound.silent hstack ⟨rfl, rfl, rfl, rfl⟩
      (hframe.advance rfl rfl rfl hframe.passes (fun _ => rfl) hframe.recallable)
      (bracket_eq rfl fun _ => rfl)

theorem Sound.idle (hnone : ∀ slot, hooks.pending slot = none) (callback hook : Bool) (target : Nat) :
    Sound { hooks with callback := callback, hook := hook, target := target } where
  placed := {
    frames := hsound.placed.frames
    addresses := hsound.placed.addresses
    occupied := fun slot pending hpending => by
      rw [hnone slot] at hpending
      cases hpending
    held := hsound.placed.held
    chained := hsound.placed.chained }
  told := hsound.told

theorem Sound.start (same : Bool) (resolved : Except KeelResult Nat) (added released : KeelResult) :
    Sound (hooks.start same resolved added released).1 := by
  unfold NativeOutputHooks.start
  split
  · exact hsound
  rename_i hcallback
  have hnone : ∀ slot, hooks.pending slot = none := by
    intro slot
    cases hpending : hooks.pending slot with
    | none => rfl
    | some pending => exact absurd (hsound.placed.occupied slot pending hpending).1 hcallback
  split
  · exact hsound
  split
  · exact hsound.idle hnone hooks.callback hooks.hook 0
  split
  · exact hsound.idle hnone true true _
  · exact hsound.idle hnone false false _

theorem Sound.stop (removed released : KeelResult) : Sound (hooks.stop removed released).1 := by
  unfold NativeOutputHooks.stop
  split
  · exact hsound
  rename_i hany
  have hnone : ∀ slot, hooks.pending slot = none := by
    intro slot
    cases hpending : hooks.pending slot with
    | none => rfl
    | some pending =>
      exact absurd (List.any_eq_true.2 ⟨slot, List.mem_finRange slot, by rw [hpending]; rfl⟩) hany
  split
  · exact hsound
  split
  · exact hsound.idle hnone hooks.callback false hooks.target
  · exact hsound.idle hnone false false 0

theorem Sound.step {input : OutputInput} (hpossible : Possible hooks input) :
    Sound (hooks.step input) := by
  cases input with
  | start same resolved added released => exact hsound.start same resolved added released
  | stop removed released => exact hsound.stop removed released
  | fire address target callbacks room =>
    simp only [NativeOutputHooks.step, NativeOutputHooks.fire]
    split
    · exact hsound.push hpossible.1 hpossible.2 fun h => by cases h
    · exact hsound
  | recallCall address callbacks room => exact hsound.recallCall hpossible.1 hpossible.2 room
  | callOriginal => exact hsound.callOriginal
  | goOn runs seen => exact hsound.goOn runs seen
  | returns supersedes => exact hsound.returns supersedes

end

end Table

/-! ## The law of a run -/

/-- **Every PRE has its completion.** What the service is told forms nested brackets with increasing
tokens. When no dispatch is on, each token was told a PRE, then one POST, or none where a callback
behind the output hook recalled the call, and then one completion; no place is taken, and `Stop` is
not refused as busy. -/
theorem native_outputs_bracketed (inputs : List OutputInput)
    (hinputs : Heeds NativeOutputHooks.step Possible .initial inputs) :
    Lawful bracketLaw (run NativeOutputHooks.step .initial inputs).history
      ∧ ((run NativeOutputHooks.step .initial inputs).stack = [] →
        (∀ token, .opened token ∈ (run NativeOutputHooks.step .initial inputs).history →
          ∃ turn, about token (run NativeOutputHooks.step .initial inputs).history =
            [.closed token, .marked token turn, .opened token])
        ∧ (∀ slot, (run NativeOutputHooks.step .initial inputs).pending slot = none)
        ∧ ((run NativeOutputHooks.step .initial inputs).stop .ok .ok).2 = .ok) := by
  have hsound : Sound (run NativeOutputHooks.step .initial inputs) :=
    Heeds.invariant (fun _ _ hsound hpossible => hsound.step hpossible) sound_initial hinputs
  refine ⟨hsound.told.lawful, fun hstack => ?_⟩
  have hnone : ∀ slot, (run NativeOutputHooks.step .initial inputs).pending slot = none := by
    intro slot
    cases hpending : (run NativeOutputHooks.step .initial inputs).pending slot with
    | none => rfl
    | some pending =>
      obtain ⟨_, owner, howner, _⟩ := hsound.placed.occupied slot pending hpending
      rw [hstack] at howner
      cases howner
  refine ⟨fun token hmem => ?_, hnone, ?_⟩
  · have hopen := hsound.told.brackets
    rw [hstack] at hopen
    exact (traced_of_lawful UInt64.lt_irrefl hsound.told.lawful).closed token hmem
      (by rw [hopen]; exact List.not_mem_nil)
  · have hany : (List.finRange 64).any (fun slot =>
        ((run NativeOutputHooks.step .initial inputs).pending slot).isSome) = false :=
      List.any_eq_false.2 fun slot _ => by rw [hnone slot]; exact Bool.false_ne_true
    simp [NativeOutputHooks.stop, hany]

/-- The service calls the function again in its PRE, throws there, and is told of both calls; `Stop`
is refused in between, and a plugin recalls the outer call. -/
def nestedAndRecalled : List OutputInput :=
  [.start true (.ok 3) .ok .ok, .fire 100 3 [.output, .peer 1] true, .goOn true .captured,
    .fire 200 3 [.output, .peer 1] true, .goOn true .captured, .returns true,
    .goOn false .refused, .goOn false .refused, .goOn false .refused, .goOn false .refused,
    .returns false, .goOn false .refused, .goOn false .refused, .returns false,
    .goOn false .refused, .stop .ok .ok, .returns false, .goOn true .refused,
    .recallCall 300 [.output, .peer 1] true, .goOn false .refused, .goOn false .refused,
    .goOn false .refused, .goOn false .refused, .goOn false .refused, .goOn false .refused,
    .returns false, .goOn false .refused, .returns false, .goOn false .refused]

theorem nestedAndRecalled_bracketed :
    (run NativeOutputHooks.step .initial nestedAndRecalled).history
      = [.closed 1, .marked 1 .recalled, .closed 2, .marked 2 .post, .opened 2, .opened 1]
    ∧ ((run NativeOutputHooks.step .initial nestedAndRecalled).stop .ok .ok).2 = .ok :=
  ⟨by decide +kernel, ((native_outputs_bracketed nestedAndRecalled (by decide +kernel)).2
    (by decide +kernel)).2.2⟩

/-- A plugin behind the output hook recalls the call, and the service is told no POST. -/
theorem recalled_without_post : ¬ ∀ inputs : List OutputInput,
    Heeds NativeOutputHooks.step Possible .initial inputs →
    (run NativeOutputHooks.step .initial inputs).stack = [] →
    ∀ token, .opened token ∈ (run NativeOutputHooks.step .initial inputs).history →
      .marked token .post ∈ (run NativeOutputHooks.step .initial inputs).history := by
  intro hall
  have hposted := hall [.start true (.ok 3) .ok .ok, .fire 100 3 [.output, .peer 1] true,
    .goOn true .captured, .returns false, .goOn true .refused,
    .recallCall 200 [.output, .peer 1] true, .goOn false .refused, .goOn false .refused,
    .goOn false .refused, .goOn false .refused, .goOn false .refused, .goOn false .refused,
    .returns false, .goOn false .refused, .returns false, .goOn false .refused]
    (by decide +kernel) (by decide +kernel) 1 (by decide +kernel)
  exact absurd hposted (by decide +kernel)

end KeelS2.Adapter.Outputs
