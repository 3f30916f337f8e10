import KeelS2.KeelHook.Abi
import KeelS2.Lib.Records
import KeelS2.Lib.Words

/-!
# The text of a byte pattern

`ParsePattern` reads a pattern that a plugin or a compatibility profile gives as a text.
`Spells` says what a text stands for, word by word. The reader counts the bytes only behind a
literal one, so a text that ends in wildcards may spell more of them than the maximum:
`parsePattern_eq_some` says exactly what it takes.
-/

namespace KeelS2.KeelHook

open Lib

/-- `std::isspace` in the "C" locale. -/
def isSpace (c : Char) : Bool :=
  c == ' ' || ('\t' ≤ c && c ≤ '\r')

def maxPatternBytes : Nat := 4096

/-- What one token adds to the pattern. -/
def parseToken : Text → Option (Option UInt8)
  | ['?'] => some none
  | ['?', '?'] => some none
  | [first, second] => do
    let high ← hexDigit first
    let low ← hexDigit second
    some (some (UInt8.ofNat (high * 16 + low)))
  | _ => none

theorem length_dropWhile_lt {α : Type} {p : α → Bool} {c : α} {rest : List α} (h : p c = true) :
    ((c :: rest).dropWhile p).length < (c :: rest).length := by
  rw [List.dropWhile_cons_of_pos h, List.length_cons]
  exact Nat.lt_succ_of_le (List.length_dropWhile_le p rest)

variable {bytes : List (Option UInt8)} {text : Text} {byte : Option UInt8}

theorem head_not_space {rest : Text} {c : Char} (htext : text.dropWhile isSpace = c :: rest) :
    isSpace c = false := by
  have hne : text.dropWhile isSpace ≠ [] := by
    rw [htext]
    exact List.cons_ne_nil _ _
  simpa only [htext, List.head_cons] using List.head_dropWhile_not isSpace hne

/-- The outer loop of `ParsePattern`, from one position of the text on. -/
def parseFrom (text : Text) (bytes : List (Option UInt8)) : Option (List (Option UInt8)) :=
  match _htext : text.dropWhile isSpace with
  | [] => if bytes = [] then none else some bytes
  | c :: rest =>
    let token := (c :: rest).takeWhile fun c => !isSpace c
    let behind := (c :: rest).dropWhile fun c => !isSpace c
    match parseToken token with
    | none => none
    | some none => parseFrom behind (bytes ++ [none])
    | some (some value) =>
      if maxPatternBytes < (bytes ++ [some value]).length then none
      else parseFrom behind (bytes ++ [some value])
termination_by text.length
decreasing_by
  all_goals
    have hword := @length_dropWhile_lt _ (fun c => !isSpace c) c rest
      (by rw [head_not_space _htext]; rfl)
    have hblanks := List.length_dropWhile_le isSpace text
    rw [_htext] at hblanks
    exact Nat.lt_of_lt_of_le hword hblanks

def parsePattern (text : Text) : Option (List (Option UInt8)) :=
  parseFrom text []

/-! ## What a text spells -/

/-- A token and the byte that it stands for. -/
inductive Denotes : Text → Option UInt8 → Prop
  | short : Denotes ['?'] none
  | long : Denotes ['?', '?'] none
  | literal {first second : Char} {high low : Nat} :
    hexDigit first = some high → hexDigit second = some low →
    Denotes [first, second] (some (UInt8.ofNat (high * 16 + low)))

/-- The text is a sequence of tokens with white space between them, and these are their
bytes. -/
def Spells (text : Text) (bytes : List (Option UInt8)) : Prop :=
  ∃ words, Words isSpace words text ∧ List.Forall₂ Denotes words bytes

theorem parseToken_eq_some {token : Text} : parseToken token = some byte ↔ Denotes token byte := by
  constructor
  · intro h
    unfold parseToken at h
    split at h
    · cases h
      exact .short
    · cases h
      exact .long
    · simp only [Option.bind_eq_bind, Option.bind_eq_some_iff] at h
      obtain ⟨high, hhigh, low, hlow, h⟩ := h
      cases h
      exact .literal hhigh hlow
    · cases h
  · intro h
    cases h with
    | short => rfl
    | long => rfl
    | @literal first second high low hhigh hlow =>
      have hfirst : first ≠ '?' := by
        rintro rfl
        cases hhigh
      unfold parseToken
      split
      · rename_i heq
        cases heq
      · rename_i heq
        cases heq
        exact absurd rfl hfirst
      · rename_i heq
        cases heq
        simp [hhigh, hlow]
      · rename_i hnone
        exact absurd rfl (hnone first second)

theorem spells_dropWhile : Spells (text.dropWhile isSpace) bytes ↔ Spells text bytes := by
  unfold Spells
  simp only [words_dropWhile]

theorem spells_nil : Spells [] bytes ↔ bytes = [] := by
  unfold Spells
  simp only [words_nil]
  constructor
  · rintro ⟨words, rfl, hbytes⟩
    cases hbytes
    rfl
  · rintro rfl
    exact ⟨[], rfl, .nil⟩

theorem spells_of_blank (htext : text.dropWhile isSpace = []) : Spells text bytes ↔ bytes = [] := by
  rw [← spells_dropWhile, htext, spells_nil]

theorem spells_of_token {c : Char} (hc : isSpace c = false) {text : Text}
    {bytes : List (Option UInt8)} :
    Spells (c :: text) bytes ↔
      ∃ byte others, bytes = byte :: others ∧
        Denotes ((c :: text).takeWhile fun c => !isSpace c) byte ∧
        Spells ((c :: text).dropWhile fun c => !isSpace c) others := by
  unfold Spells
  simp only [words_of_word hc]
  constructor
  · rintro ⟨words, ⟨others, rfl, hothers⟩, hbytes⟩
    cases hbytes with
    | @cons _ byte _ rest hbyte hrest => exact ⟨byte, rest, rfl, hbyte, others, hothers, hrest⟩
  · rintro ⟨byte, others, rfl, hbyte, words, hwords, hothers⟩
    exact ⟨_, ⟨words, rfl, hwords⟩, .cons hbyte hothers⟩

/-! ## What the reader takes -/

/-- No literal byte stands behind the maximum number of bytes, if `before` of them came
earlier. -/
def LiteralsFit (before : Nat) (bytes : List (Option UInt8)) : Prop :=
  ∀ index value, bytes[index]? = some (some value) → before + index < maxPatternBytes

theorem literalsFit_nil (before : Nat) : LiteralsFit before [] := by
  intro index value h
  cases h

theorem literalsFit_cons {before : Nat} :
    LiteralsFit before (byte :: bytes) ↔
      (byte ≠ none → before < maxPatternBytes) ∧ LiteralsFit (before + 1) bytes := by
  constructor
  · intro h
    refine ⟨fun hbyte => ?_, fun index value hget => ?_⟩
    · obtain ⟨value, rfl⟩ := Option.ne_none_iff_exists'.1 hbyte
      exact h 0 value rfl
    · have := h (index + 1) value hget
      omega
  · rintro ⟨hfirst, hrest⟩ index value hget
    cases index with
    | zero =>
      cases hget
      exact hfirst (Option.some_ne_none value)
    | succ index =>
      have := hrest index value hget
      omega

/-- What the loop is to give from a position on, where a token that stands for `byte` is
next. -/
theorem spells_step {rest : Text} {c : Char} (htext : text.dropWhile isSpace = c :: rest)
    {result : List (Option UInt8)}
    (hbyte : parseToken ((c :: rest).takeWhile fun c => !isSpace c) = some byte) :
    (∃ others, result = bytes ++ others ∧ Spells text others ∧ result ≠ [] ∧
        LiteralsFit bytes.length others) ↔
      (byte ≠ none → bytes.length < maxPatternBytes) ∧
      ∃ others, result = bytes ++ [byte] ++ others ∧
        Spells ((c :: rest).dropWhile fun c => !isSpace c) others ∧ result ≠ [] ∧
        LiteralsFit (bytes ++ [byte]).length others := by
  have hspells := @spells_of_token c (head_not_space htext) rest
  rw [← htext] at hspells
  simp only [spells_dropWhile] at hspells
  rw [htext] at hspells
  constructor
  · rintro ⟨others, rfl, hothers, hne, hfit⟩
    obtain ⟨first, tail, rfl, hfirst, htail⟩ := hspells.1 hothers
    rw [← parseToken_eq_some, hbyte] at hfirst
    cases hfirst
    rw [literalsFit_cons] at hfit
    exact ⟨hfit.1, tail, by simp, htail, hne, by simpa using hfit.2⟩
  · rintro ⟨hroom, tail, rfl, htail, hne, hfit⟩
    refine ⟨byte :: tail, by simp, ?_, hne, ?_⟩
    · exact hspells.2 ⟨byte, tail, rfl, parseToken_eq_some.1 hbyte, htail⟩
    · rw [literalsFit_cons]
      exact ⟨hroom, by simpa using hfit⟩

theorem parseFrom_eq_some {result : List (Option UInt8)} :
    parseFrom text bytes = some result ↔
      ∃ others, result = bytes ++ others ∧ Spells text others ∧ result ≠ [] ∧
        LiteralsFit bytes.length others := by
  fun_induction parseFrom text bytes with
  | case1 text htext =>
    simp only [spells_of_blank htext]
    constructor
    · intro h
      cases h
    · rintro ⟨others, rfl, rfl, hne, -⟩
      exact absurd rfl hne
  | case2 text bytes htext hne =>
    simp only [spells_of_blank htext]
    constructor
    · intro h
      cases h
      exact ⟨[], by simp, rfl, hne, literalsFit_nil _⟩
    · rintro ⟨others, rfl, rfl, -, -⟩
      simp
  | case3 text bytes c rest htext token hnone =>
    have hspells := @spells_of_token c (head_not_space htext) rest
    constructor
    · intro h
      cases h
    · rintro ⟨others, rfl, hothers, -, -⟩
      rw [← spells_dropWhile, htext] at hothers
      obtain ⟨byte, tail, rfl, hbyte, -⟩ := hspells.1 hothers
      rw [← parseToken_eq_some, hnone] at hbyte
      cases hbyte
  | case4 text bytes c rest htext token behind hwild ih =>
    rw [spells_step htext hwild, ih]
    exact ⟨fun h => ⟨fun hne => absurd rfl hne, h⟩, fun h => h.2⟩
  | case5 text bytes c rest htext token value hvalue hlong =>
    rw [spells_step htext hvalue]
    constructor
    · intro h
      cases h
    · rintro ⟨hroom, -⟩
      have := hroom (Option.some_ne_none value)
      simp only [List.length_append, List.length_singleton] at hlong
      omega
  | case6 text bytes c rest htext token behind value hvalue hshort ih =>
    rw [spells_step htext hvalue, ih]
    simp only [List.length_append, List.length_singleton, Nat.not_lt] at hshort
    exact ⟨fun h => ⟨fun _ => hshort, h⟩, fun h => h.2⟩

theorem parsePattern_eq_some :
    parsePattern text = some bytes ↔
      Spells text bytes ∧ bytes ≠ [] ∧ LiteralsFit 0 bytes := by
  unfold parsePattern
  rw [parseFrom_eq_some]
  constructor
  · rintro ⟨others, rfl, hothers⟩
    exact hothers
  · intro h
    exact ⟨bytes, rfl, h⟩

/-! ## Where the maximum is not enforced -/

/-- The reader takes a text exactly for a pattern of one to the maximum number of bytes, and
as that pattern. -/
def ReadAsSpelled (text : Text) : Prop :=
  ∀ bytes, parsePattern text = some bytes ↔
    Spells text bytes ∧ bytes ≠ [] ∧ bytes.length ≤ maxPatternBytes

/-- **A pattern that is too long is refused by its literal bytes only.** The reader does what
`ReadAsSpelled` asks for unless the text spells more than the maximum number of bytes and all
those behind the maximum are wildcards. -/
theorem readAsSpelled_iff (text : Text) :
    ReadAsSpelled text ↔
      ∀ bytes, Spells text bytes → maxPatternBytes < bytes.length →
        ∃ index value, maxPatternBytes ≤ index ∧ bytes[index]? = some (some value) := by
  unfold ReadAsSpelled
  constructor
  · intro h bytes hspells hlong
    by_contra hwild
    have hfit : LiteralsFit 0 bytes := by
      intro index value hget
      by_contra hbehind
      exact hwild ⟨index, value, by omega, hget⟩
    have hne : bytes ≠ [] := by
      rintro rfl
      cases hlong
    have := ((h bytes).1 (parsePattern_eq_some.2 ⟨hspells, hne, hfit⟩)).2.2
    omega
  · intro h bytes
    rw [parsePattern_eq_some]
    constructor
    · rintro ⟨hspells, hne, hfit⟩
      refine ⟨hspells, hne, ?_⟩
      by_contra hlong
      obtain ⟨index, value, hbehind, hget⟩ := h bytes hspells (by omega)
      have := hfit index value hget
      omega
    · rintro ⟨hspells, hne, hshort⟩
      refine ⟨hspells, hne, fun index value hget => ?_⟩
      have := (List.getElem?_eq_some_iff.1 hget).1
      omega

/-- A text of so many wildcards. -/
def wildcards (count : Nat) : Text :=
  (List.replicate count ['?', ' ']).flatten

theorem spells_wildcards (count : Nat) : Spells (wildcards count) (List.replicate count none) := by
  induction count with
  | zero => exact spells_nil.2 rfl
  | succ count ih =>
    show Spells ('?' :: ' ' :: wildcards count) _
    rw [spells_of_token (by decide)]
    refine ⟨none, List.replicate count none, rfl, .short, ?_⟩
    rw [← spells_dropWhile]
    show Spells ((wildcards count).dropWhile isSpace) _
    rw [spells_dropWhile]
    exact ih

theorem wildcards_read {count : Nat} (h : 0 < count) :
    parsePattern (wildcards count) = some (List.replicate count none) := by
  rw [parsePattern_eq_some]
  refine ⟨spells_wildcards count, fun hnil => ?_, fun index value hget => ?_⟩
  · rw [List.replicate_eq_nil_iff] at hnil
    omega
  · have := List.mem_replicate.1 (List.mem_of_getElem? hget)
    cases this.2

/-- One wildcard more than the maximum is read. -/
theorem too_many_wildcards_read : ¬ ∀ text, ReadAsSpelled text := by
  intro h
  have hread := wildcards_read (Nat.succ_pos maxPatternBytes)
  have hshort := ((h (wildcards (maxPatternBytes + 1)) _).1 hread).2.2
  rw [List.length_replicate] at hshort
  exact absurd hshort (Nat.not_succ_le_self maxPatternBytes)

end KeelS2.KeelHook
