import Mathlib.Data.List.Induction
import Mathlib.Data.Nat.Digits.Defs
import Mathlib.Data.Prod.Lex
import KeelS2.Plugins.PluginRecord

/-!
# Semantic versions

What `ParseSemanticVersion` accepts and what `DependencyVersionMatches` decides, against the
numbers the texts write and their lexicographic order.
-/

namespace KeelS2.Plugins

/-! ## Decimal numbers -/

/-- The number a text of decimal digits writes, its last digit counting ones. -/
def decimalValue (digits : Text) : Nat :=
  Nat.ofDigits 10 (digits.reverse.map fun digit => digit.toNat - '0'.toNat)

/-- The text is a decimal number of 32 bits, and which. -/
structure Writes (text : Text) (value : Nat) : Prop where
  nonempty : text ≠ []
  digits : ∀ digit ∈ text, digit.isDigit = true
  word : value < 2 ^ 32
  value_eq : decimalValue text = value

theorem decimalValue_concat (digits : Text) (last : Char) :
    decimalValue (digits ++ [last]) = decimalValue digits * 10 + (last.toNat - '0'.toNat) := by
  unfold decimalValue
  rw [List.reverse_append, List.reverse_singleton, List.singleton_append, List.map_cons,
    Nat.ofDigits_cons, Nat.mul_comm 10, Nat.add_comm]

/-- The loop of `std::from_chars`, by induction from the last digit. -/
theorem foldl_digits (digits : Text) :
    digits.foldl (fun value digit => value * 10 + (digit.toNat - '0'.toNat)) 0 =
      decimalValue digits := by
  induction digits using List.reverseRecOn with
  | nil => rfl
  | append_singleton digits last ih =>
    rw [List.foldl_append, ih, decimalValue_concat]
    rfl

theorem fromChars_eq_some_iff {text : Text} {value : Nat} :
    fromChars text = some value ↔ Writes text value := by
  unfold fromChars
  simp only [foldl_digits]
  constructor
  · intro h
    split at h
    · cases h
    · next hguard =>
      cases h
      simp only [Bool.or_eq_true, not_or, List.isEmpty_iff, Bool.not_eq_true',
        Bool.not_eq_false, List.all_eq_true, decide_eq_true_eq, Nat.not_le] at hguard
      exact ⟨hguard.1.1, hguard.1.2, hguard.2, rfl⟩
  · intro h
    obtain ⟨hnonempty, hdigits, hword, rfl⟩ := h
    have hall : text.all Char.isDigit = true := List.all_eq_true.2 hdigits
    have hempty : text.isEmpty = false := List.isEmpty_eq_false_iff.2 hnonempty
    rw [if_neg]
    simp only [hall, hempty, Bool.not_true, Bool.false_or, Bool.or_false, decide_eq_true_eq]
    exact Nat.not_le.2 hword

theorem Writes.dot_free {text : Text} {value : Nat} (h : Writes text value) : '.' ∉ text := by
  intro hdot
  exact absurd (h.digits '.' hdot) (by decide)

/-! ## Versions -/

theorem splitDot_eq_some_iff {version before rest : Text} :
    splitDot version = some (before, rest) ↔ version = before ++ '.' :: rest ∧ '.' ∉ before := by
  induction version generalizing before with
  | nil => simp [splitDot]
  | cons first version ih =>
    by_cases hfirst : first = '.'
    · subst hfirst
      cases before with
      | nil => simp [splitDot]
      | cons c before =>
        simp only [splitDot, List.dropWhile_cons, List.takeWhile_cons]
        simp
        rintro rfl - h
        exact absurd rfl h
    · have hunfold : splitDot (first :: version) =
          (splitDot version).map fun parts => (first :: parts.1, parts.2) := by
        simp only [splitDot, List.dropWhile_cons, List.takeWhile_cons, hfirst, ne_eq,
          not_false_eq_true, decide_true, if_true]
        split <;> rfl
      rw [hunfold, Option.map_eq_some_iff]
      constructor
      · rintro ⟨parts, hparts, hpair⟩
        cases hpair
        obtain ⟨hversion, hfree⟩ := ih.1 hparts
        exact ⟨by rw [hversion]; rfl, by simp [Ne.symm hfirst, hfree]⟩
      · rintro ⟨hversion, hfree⟩
        cases before with
        | nil =>
          cases hversion
          exact absurd rfl hfirst
        | cons c before =>
          cases hversion
          exact ⟨(before, rest), ih.2 ⟨rfl, fun hdot => hfree (List.mem_cons_of_mem _ hdot)⟩, rfl⟩

/-- The text is a version, and which: three decimal numbers of 32 bits with dots between
them. -/
def IsVersion (version : Text) (triple : Nat × Nat × Nat) : Prop :=
  ∃ major minor patch : Text, version = major ++ '.' :: (minor ++ '.' :: patch) ∧
    Writes major triple.1 ∧ Writes minor triple.2.1 ∧ Writes patch triple.2.2

theorem parseSemanticVersion_eq_some_iff {version : Text} {triple : Nat × Nat × Nat} :
    parseSemanticVersion version = some triple ↔ IsVersion version triple := by
  obtain ⟨major, minor, patch⟩ := triple
  unfold parseSemanticVersion IsVersion
  simp only [Option.bind_eq_bind, Option.bind_eq_some_iff, Option.pure_def, Option.some.injEq,
    Prod.mk.injEq, Prod.exists, splitDot_eq_some_iff, fromChars_eq_some_iff]
  constructor
  · rintro ⟨first, rest, ⟨rfl, -⟩, _, hmajor, second, third, ⟨rfl, -⟩, _, hminor, _, hpatch,
      rfl, rfl, rfl⟩
    exact ⟨first, second, third, rfl, hmajor, hminor, hpatch⟩
  · rintro ⟨first, second, third, rfl, hmajor, hminor, hpatch⟩
    exact ⟨first, _, ⟨rfl, hmajor.dot_free⟩, _, hmajor, second, third, ⟨rfl, hminor.dot_free⟩, _,
      hminor, _, hpatch, rfl, rfl, rfl⟩

/-! ## Requirements -/

/-- Versions are ordered by their first number, then their second, then their third. -/
def versionOrder (triple : Nat × Nat × Nat) : ℕ ×ₗ ℕ ×ₗ ℕ :=
  toLex (triple.1, toLex triple.2)

theorem versionAtLeast_iff {actual required : Nat × Nat × Nat} :
    versionAtLeast actual required = true ↔ versionOrder required ≤ versionOrder actual := by
  unfold versionAtLeast versionOrder
  rw [Prod.Lex.toLex_le_toLex, Prod.Lex.toLex_le_toLex]
  simp

theorem dependencyVersionMatches_of_versions {actual : Text}
    {dependency : PluginDependencyRecord} {found required : Nat × Nat × Nat}
    (hfound : IsVersion actual found) (hrequired : IsVersion dependency.version required) :
    dependencyVersionMatches actual dependency = true ↔
      (dependency.requirement = pluginDependencyExact ∧ found = required) ∨
      (dependency.requirement = pluginDependencyAtLeast ∧
        versionOrder required ≤ versionOrder found) := by
  rw [← parseSemanticVersion_eq_some_iff] at hfound hrequired
  unfold dependencyVersionMatches
  rw [hfound, hrequired]
  dsimp only
  by_cases hexact : dependency.requirement = pluginDependencyExact
  · simp [hexact, pluginDependencyExact, pluginDependencyAtLeast]
  · by_cases hatLeast : dependency.requirement = pluginDependencyAtLeast
    · simp [hatLeast, pluginDependencyExact, pluginDependencyAtLeast, versionAtLeast_iff]
    · simp [hexact, hatLeast]

theorem versions_of_dependencyVersionMatches {actual : Text}
    {dependency : PluginDependencyRecord}
    (h : dependencyVersionMatches actual dependency = true) :
    ∃ found required, IsVersion actual found ∧ IsVersion dependency.version required := by
  unfold dependencyVersionMatches at h
  split at h
  · next found required hfound hrequired =>
    exact ⟨found, required, parseSemanticVersion_eq_some_iff.1 hfound,
      parseSemanticVersion_eq_some_iff.1 hrequired⟩
  · cases h

/-- `version` satisfies the requirement of at least `required`. -/
def AtLeast (version required : Text) : Prop :=
  ∀ name, dependencyVersionMatches version ⟨name, required, pluginDependencyAtLeast⟩ = true

theorem atLeast_iff {version required : Text} {found least : Nat × Nat × Nat}
    (hfound : IsVersion version found) (hleast : IsVersion required least) :
    AtLeast version required ↔ versionOrder least ≤ versionOrder found := by
  unfold AtLeast
  simp only [fun name => @dependencyVersionMatches_of_versions version
    ⟨name, required, pluginDependencyAtLeast⟩ found least hfound hleast]
  simp [pluginDependencyAtLeast, pluginDependencyExact]

theorem atLeast_refl {version : Text} {found : Nat × Nat × Nat}
    (hfound : IsVersion version found) : AtLeast version version :=
  (atLeast_iff hfound hfound).2 le_rfl

theorem atLeast_trans {first second third : Text} (h : AtLeast first second)
    (h' : AtLeast second third) : AtLeast first third := by
  obtain ⟨high, middle, hhigh, hmiddle⟩ := versions_of_dependencyVersionMatches (h [])
  obtain ⟨-, low, -, hlow⟩ := versions_of_dependencyVersionMatches (h' [])
  have hupper := (atLeast_iff hhigh hmiddle).1 h
  have hlower := (atLeast_iff hmiddle hlow).1 h'
  exact (atLeast_iff hhigh hlow).2 (hlower.trans hupper)

theorem atLeast_total {first second : Text} {one two : Nat × Nat × Nat}
    (hone : IsVersion first one) (htwo : IsVersion second two) :
    AtLeast first second ∨ AtLeast second first := by
  rw [atLeast_iff hone htwo, atLeast_iff htwo hone]
  exact le_total _ _

/-- Versions are what they should be, and requirements compare the numbers they write. -/
theorem dependencyVersionMatches_decides :
    (∀ version triple, parseSemanticVersion version = some triple ↔ IsVersion version triple) ∧
    (∀ actual dependency found required, IsVersion actual found →
      IsVersion dependency.version required →
      (dependencyVersionMatches actual dependency = true ↔
        (dependency.requirement = pluginDependencyExact ∧ found = required) ∨
        (dependency.requirement = pluginDependencyAtLeast ∧
          versionOrder required ≤ versionOrder found))) ∧
    (∀ actual dependency, dependencyVersionMatches actual dependency = true →
      ∃ found required, IsVersion actual found ∧ IsVersion dependency.version required) ∧
    (∀ version found, IsVersion version found → AtLeast version version) ∧
    (∀ first second third, AtLeast first second → AtLeast second third →
      AtLeast first third) ∧
    (∀ first second one two, IsVersion first one → IsVersion second two →
      AtLeast first second ∨ AtLeast second first) :=
  ⟨fun _ _ => parseSemanticVersion_eq_some_iff,
    fun _ _ _ _ => dependencyVersionMatches_of_versions,
    fun _ _ => versions_of_dependencyVersionMatches,
    fun _ _ => atLeast_refl,
    fun _ _ _ => atLeast_trans,
    fun _ _ _ _ => atLeast_total⟩

end KeelS2.Plugins
