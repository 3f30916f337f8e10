import KeelS2.Lib.Histories

/-!
# Tokens in custody

Tokens are made, each for one holder, which may use it. A holder parts with its token by spending
it, or by giving it back, which takes a while. `Sound` says that no token gets lost and that none
is used when its holder has parted with it; every move keeps it.
-/

namespace KeelS2.Lib

/-- What becomes of a token. -/
inductive Custodial (Token : Type*)
  | made (token : Token)
  | used (token : Token)
  | spent (token : Token)
  | returning (token : Token)
  | returned (token : Token)
  deriving DecidableEq, Repr

/-- Who holds what, what is being given back, and what there has been. -/
structure Custody (Holder Token : Type*) where
  holds : Holder → Option Token
  returning : List Token
  entries : List (Custodial Token)

variable {Holder Token : Type*} [DecidableEq Holder]

namespace Custodial

/-- What must have come before, and what must not. -/
def law : Custodial Token → List (Custodial Token) → Prop
  | .made token, earlier => .made token ∉ earlier
  | .used token, earlier =>
    .made token ∈ earlier ∧ .spent token ∉ earlier ∧ .returning token ∉ earlier
  | .spent token, earlier => .made token ∈ earlier
  | .returning token, earlier =>
    .made token ∈ earlier ∧ .spent token ∉ earlier ∧ .returning token ∉ earlier
  | .returned token, earlier => .returning token ∈ earlier ∧ .returned token ∉ earlier

end Custodial

namespace Custody

/-- The holder has made a token, or parts with one. -/
def give (custody : Custody Holder Token) (holder : Holder) (token : Option Token) :
    Holder → Option Token :=
  Function.update custody.holds holder token

structure Sound (custody : Custody Holder Token) : Prop where
  /-- Nobody else has the same token. -/
  exclusive : ∀ holder other token, custody.holds holder = some token →
    custody.holds other = some token → holder = other
  held : ∀ holder token, custody.holds holder = some token →
    .made token ∈ custody.entries ∧ .spent token ∉ custody.entries ∧
      .returning token ∉ custody.entries
  distinct : custody.returning.Nodup
  underway : ∀ token ∈ custody.returning,
    .returning token ∈ custody.entries ∧ .returned token ∉ custody.entries
  /-- No token is lost. -/
  accounted : ∀ token, .made token ∈ custody.entries →
    (∃ holder, custody.holds holder = some token) ∨ .spent token ∈ custody.entries ∨
      token ∈ custody.returning ∨ .returned token ∈ custody.entries
  known : ∀ token, .spent token ∈ custody.entries ∨ .returning token ∈ custody.entries →
    .made token ∈ custody.entries
  begun : ∀ token, .returned token ∈ custody.entries → .returning token ∈ custody.entries
  lawful : Lawful Custodial.law custody.entries

variable {custody after : Custody Holder Token}

omit [DecidableEq Holder] in
theorem sound_empty : Sound (⟨fun _ => none, [], []⟩ : Custody Holder Token) where
  exclusive _ _ _ hholds := by cases hholds
  held _ _ hholds := by cases hholds
  distinct := List.nodup_nil
  underway _ hmem := by cases hmem
  accounted _ hmem := by cases hmem
  known _ hmem := by rcases hmem with hmem | hmem <;> cases hmem
  begun _ hmem := by cases hmem
  lawful := trivial

theorem give_self (holder : Holder) (token : Option Token) :
    custody.give holder token holder = token :=
  Function.update_self ..

variable {token : Token} {holder other : Holder}

theorem give_of_ne (hne : other ≠ holder) (token : Option Token) :
    custody.give holder token other = custody.holds other :=
  Function.update_of_ne hne ..

/-- Who has a token after another has parted with his had it before. -/
theorem holds_of_give_none (hholds : custody.give holder none other = some token) :
    other ≠ holder ∧ custody.holds other = some token := by
  by_cases heq : other = holder
  · rw [heq, give_self] at hholds
    cases hholds
  · exact ⟨heq, by rwa [give_of_ne heq] at hholds⟩

theorem Sound.make (hsound : custody.Sound) (hfree : custody.holds holder = none)
    (hnew : .made token ∉ custody.entries) :
    Sound ⟨custody.give holder (some token), custody.returning,
      .made token :: custody.entries⟩ := by
  have hnobody : ∀ other, custody.holds other ≠ some token := by
    intro other hother
    exact hnew (hsound.held other token hother).1
  have hold : ∀ other, other ≠ holder → custody.give holder (some token) other =
      custody.holds other := by
    intro other hne
    exact give_of_ne hne _
  constructor
  · intro first second found hfirst hsecond
    dsimp only at hfirst hsecond
    by_cases hone : first = holder <;> by_cases htwo : second = holder
    · rw [hone, htwo]
    · rw [hone, give_self, Option.some.injEq] at hfirst
      rw [hold second htwo, ← hfirst] at hsecond
      exact absurd hsecond (hnobody second)
    · rw [htwo, give_self, Option.some.injEq] at hsecond
      rw [hold first hone, ← hsecond] at hfirst
      exact absurd hfirst (hnobody first)
    · rw [hold first hone] at hfirst
      rw [hold second htwo] at hsecond
      exact hsound.exclusive first second found hfirst hsecond
  · intro other found hfound
    dsimp only at hfound ⊢
    by_cases heq : other = holder
    · rw [heq, give_self, Option.some.injEq] at hfound
      subst hfound
      refine ⟨List.mem_cons_self, ?_, ?_⟩
      · simp only [List.mem_cons, reduceCtorEq, false_or]
        intro hspent
        exact hnew (hsound.known token (Or.inl hspent))
      · simp only [List.mem_cons, reduceCtorEq, false_or]
        intro hreturning
        exact hnew (hsound.known token (Or.inr hreturning))
    · rw [hold other heq] at hfound
      have hheld := hsound.held other found hfound
      exact ⟨List.mem_cons_of_mem _ hheld.1, by simpa using hheld.2⟩
  · exact hsound.distinct
  · simpa using hsound.underway
  · intro found hmade
    rcases List.mem_cons.1 hmade with heq | hmade
    · cases heq
      exact Or.inl ⟨holder, give_self holder _⟩
    · rcases hsound.accounted found hmade with ⟨other, hother⟩ | hrest
      · refine Or.inl ⟨other, ?_⟩
        have hne : other ≠ holder := by
          intro heq
          rw [heq, hfree] at hother
          cases hother
        dsimp only
        rwa [hold other hne]
      · exact Or.inr (by simpa using hrest)
  · intro found hparted
    exact List.mem_cons_of_mem _ (hsound.known found (by simpa using hparted))
  · simpa using hsound.begun
  · exact ⟨hnew, hsound.lawful⟩

omit [DecidableEq Holder] in
theorem Sound.use (hsound : custody.Sound) (hholds : custody.holds holder = some token) :
    Sound { custody with entries := .used token :: custody.entries } where
  exclusive := hsound.exclusive
  held := by simpa using hsound.held
  distinct := hsound.distinct
  underway := by simpa using hsound.underway
  accounted := by simpa using hsound.accounted
  known := by simpa using hsound.known
  begun := by simpa using hsound.begun
  lawful := ⟨hsound.held holder token hholds, hsound.lawful⟩

theorem Sound.parts (hsound : custody.Sound) (hholds : custody.holds holder = some token)
    {found : Token} (hfound : custody.give holder none other = some found) :
    custody.holds other = some found ∧ found ≠ token := by
  obtain ⟨hne, hfound⟩ := holds_of_give_none hfound
  refine ⟨hfound, ?_⟩
  rintro rfl
  exact hne (hsound.exclusive other holder found hfound hholds)

theorem Sound.spend (hsound : custody.Sound) (hholds : custody.holds holder = some token) :
    Sound ⟨custody.give holder none, custody.returning, .spent token :: custody.entries⟩ := by
  have hmade := (hsound.held holder token hholds).1
  constructor
  · intro first second found hfirst hsecond
    exact hsound.exclusive first second found (hsound.parts hholds hfirst).1
      (hsound.parts hholds hsecond).1
  · intro other found hfound
    obtain ⟨hfound, hne⟩ := hsound.parts hholds hfound
    simpa [hne] using hsound.held other found hfound
  · exact hsound.distinct
  · simpa using hsound.underway
  · intro found hfound
    by_cases heq : found = token
    · exact Or.inr (Or.inl (heq ▸ List.mem_cons_self))
    rcases hsound.accounted found (by simpa using hfound) with ⟨other, hother⟩ | hrest
    · refine Or.inl ⟨other, ?_⟩
      have hne : other ≠ holder := by
        intro hother'
        rw [hother', hholds, Option.some.injEq] at hother
        exact heq hother.symm
      dsimp only
      rwa [give_of_ne hne]
    · right
      simpa [heq] using hrest
  · intro found hparted
    refine List.mem_cons_of_mem _ ?_
    by_cases heq : found = token
    · exact heq ▸ hmade
    · exact hsound.known found (by simpa [heq] using hparted)
  · simpa using hsound.begun
  · exact ⟨hmade, hsound.lawful⟩

omit [DecidableEq Holder] in
theorem Sound.late (hsound : custody.Sound)
    (hparted : .spent token ∈ custody.entries ∨ .returning token ∈ custody.entries) :
    Sound { custody with entries := .spent token :: custody.entries } := by
  have hmade := hsound.known token hparted
  constructor
  · exact hsound.exclusive
  · intro other found hfound
    have hheld := hsound.held other found hfound
    have hne : found ≠ token := by
      rintro rfl
      rcases hparted with hspent | hreturning
      · exact hheld.2.1 hspent
      · exact hheld.2.2 hreturning
    simpa [hne] using hheld
  · exact hsound.distinct
  · simpa using hsound.underway
  · intro found hfound
    rcases hsound.accounted found (by simpa using hfound) with hholds | hspent | hrest
    · exact Or.inl hholds
    · exact Or.inr (Or.inl (List.mem_cons_of_mem _ hspent))
    · exact Or.inr (Or.inr (by simpa using hrest))
  · intro found hfound
    refine List.mem_cons_of_mem _ ?_
    by_cases heq : found = token
    · exact heq ▸ hmade
    · exact hsound.known found (by simpa [heq] using hfound)
  · simpa using hsound.begun
  · exact ⟨hmade, hsound.lawful⟩

theorem Sound.return (hsound : custody.Sound) (hholds : custody.holds holder = some token) :
    Sound ⟨custody.give holder none, token :: custody.returning,
      .returning token :: custody.entries⟩ := by
  have hheld := hsound.held holder token hholds
  constructor
  · intro first second found hfirst hsecond
    exact hsound.exclusive first second found (hsound.parts hholds hfirst).1
      (hsound.parts hholds hsecond).1
  · intro other found hfound
    obtain ⟨hfound, hne⟩ := hsound.parts hholds hfound
    simpa [hne] using hsound.held other found hfound
  · refine List.nodup_cons.2 ⟨?_, hsound.distinct⟩
    intro hmem
    exact hheld.2.2 (hsound.underway token hmem).1
  · intro found hfound
    by_cases heq : found = token
    · subst heq
      refine ⟨List.mem_cons_self, ?_⟩
      simp only [List.mem_cons, reduceCtorEq, false_or]
      intro hreturned
      exact hheld.2.2 (hsound.begun found hreturned)
    · have hfound : found ∈ custody.returning := by simpa [heq] using hfound
      simpa [heq] using hsound.underway found hfound
  · intro found hfound
    by_cases heq : found = token
    · exact Or.inr (Or.inr (Or.inl (heq ▸ List.mem_cons_self)))
    rcases hsound.accounted found (by simpa using hfound) with ⟨other, hother⟩ | hrest
    · refine Or.inl ⟨other, ?_⟩
      have hne : other ≠ holder := by
        intro hother'
        rw [hother', hholds, Option.some.injEq] at hother
        exact heq hother.symm
      dsimp only
      rwa [give_of_ne hne]
    · right
      simpa [heq] using hrest
  · intro found hparted
    refine List.mem_cons_of_mem _ ?_
    by_cases heq : found = token
    · exact heq ▸ hheld.1
    · exact hsound.known found (by simpa [heq] using hparted)
  · intro found hreturned
    exact List.mem_cons_of_mem _ (hsound.begun found (by simpa using hreturned))
  · exact ⟨hheld, hsound.lawful⟩

omit [DecidableEq Holder] in
theorem Sound.finish (hsound : custody.Sound) {returning : List Token}
    (hreturning : custody.returning = token :: returning) :
    Sound ⟨custody.holds, returning, .returned token :: custody.entries⟩ := by
  have hdistinct := hsound.distinct
  rw [hreturning, List.nodup_cons] at hdistinct
  have hunderway := hsound.underway token (hreturning ▸ List.mem_cons_self)
  constructor
  · exact hsound.exclusive
  · simpa using hsound.held
  · exact hdistinct.2
  · intro found hfound
    have hne : found ≠ token := by
      rintro rfl
      exact hdistinct.1 hfound
    simpa [hne] using hsound.underway found (hreturning ▸ List.mem_cons_of_mem _ hfound)
  · intro found hfound
    rcases hsound.accounted found (by simpa using hfound) with hholds | hspent | hmem | hreturned
    · exact Or.inl hholds
    · exact Or.inr (Or.inl (by simpa using hspent))
    · rw [hreturning] at hmem
      rcases List.mem_cons.1 hmem with rfl | hmem
      · exact Or.inr (Or.inr (Or.inr List.mem_cons_self))
      · exact Or.inr (Or.inr (Or.inl hmem))
    · exact Or.inr (Or.inr (Or.inr (List.mem_cons_of_mem _ hreturned)))
  · simpa using hsound.known
  · intro found hfound
    refine List.mem_cons_of_mem _ ?_
    by_cases heq : found = token
    · exact heq ▸ hunderway.1
    · exact hsound.begun found (by simpa [heq] using hfound)
  · exact ⟨hunderway, hsound.lawful⟩

end Custody
end KeelS2.Lib
