import KeelS2.KeelHook.Abi
import KeelS2.Lib.SelfDelimiting

/-!
# Log messages

`FormatLogMessage` walks a format up to its first `{}`, appends the first argument, and hands
the rest of the format and of the arguments to itself; a version without arguments takes what
is left. `tokenise` is the specification of the whole: `formatLogMessage_eq_true` says that
the recursion takes exactly the formats that fall into tokens with one `{}` for each argument,
and what it writes for them.
-/

namespace KeelS2.Sdk

open Lib

/-! ## Values -/

/-- `sizeof(buffer)` in `AppendLogNumber`. -/
def logNumberSize : Nat := 128

/-- The kinds of arguments that `AppendLogValue` compiles for. -/
inductive LogValue
  | null
  /-- An array of `char`, with all its elements. -/
  | array (bytes : Text)
  /-- The string that a `const char*` points to, if to any. -/
  | pointer (text : Option Text)
  /-- A `std::string` or a `std::string_view`. -/
  | string (bytes : Text)
  | bool (value : Bool)
  | char (value : Char)
  | integral (value : { value : Int // value.natAbs < 2 ^ 64 })
  /-- A floating-point number, as the shortest text that reads back as it. -/
  | floating (shortest : { text : Text // text.length ≤ logNumberSize })
  | enumeration (underlying : { value : Int // value.natAbs < 2 ^ 64 })
  /-- An object with a method `Get`, and what that returns. -/
  | wrapper (value : LogValue)

def appendLogText (output text : Text) : Text :=
  output ++ text.takeWhile (· ≠ '\x00')

/-- What `std::to_chars` writes for an integer. -/
def integerText (value : Int) : Text :=
  if value < 0 then '-' :: decimal value.natAbs else decimal value.natAbs

/-- `AppendLogNumber`, given what `std::to_chars` needs to write. -/
def appendLogNumber (output text : Text) : Bool × Text :=
  if logNumberSize < text.length then (false, output) else (true, output ++ text)

def appendLogValue (output : Text) : LogValue → Bool × Text
  | .null => (true, output ++ "(null)".toList)
  | .array bytes => (true, appendLogText output bytes)
  | .pointer text => (true, output ++ text.getD "(null)".toList)
  | .string bytes => (true, appendLogText output bytes)
  | .bool value => (true, output ++ if value then "true".toList else "false".toList)
  | .char value => (true, output ++ [value])
  | .integral value => appendLogNumber output (integerText value)
  | .floating shortest => appendLogNumber output shortest
  | .enumeration underlying => appendLogNumber output (integerText underlying)
  | .wrapper value => appendLogValue output value

/-- The text of a value. -/
def LogValue.rendering : LogValue → Text
  | .null => "(null)".toList
  | .array bytes => bytes.takeWhile (· ≠ '\x00')
  | .pointer text => text.getD "(null)".toList
  | .string bytes => bytes.takeWhile (· ≠ '\x00')
  | .bool value => if value then "true".toList else "false".toList
  | .char value => [value]
  | .integral value => integerText value
  | .floating shortest => shortest
  | .enumeration underlying => integerText underlying
  | .wrapper value => value.rendering

theorem length_integerText {value : Int} (h : value.natAbs < 2 ^ 64) :
    (integerText value).length ≤ 21 := by
  have hdigits : (decimal value.natAbs).length ≤ 20 :=
    (Nat.length_toDigits_le_iff (by decide) (by decide)).2 (by omega)
  unfold integerText
  split
  · rw [List.length_cons]
    omega
  · omega

variable {result rest output format : Text} {texts : List Text} {character : Char}

theorem appendLogNumber_eq {text : Text} (h : text.length ≤ logNumberSize) :
    appendLogNumber output text = (true, output ++ text) := by
  unfold appendLogNumber
  rw [if_neg (by omega)]

theorem appendLogValue_eq (output : Text) (value : LogValue) :
    appendLogValue output value = (true, output ++ value.rendering) := by
  have hinteger : ∀ value : Int, value.natAbs < 2 ^ 64 →
      appendLogNumber output (integerText value) = (true, output ++ integerText value) := by
    intro value hvalue
    have hlength := length_integerText hvalue
    exact appendLogNumber_eq (Nat.le_trans hlength (by decide))
  induction value with
  | integral value => exact hinteger value value.2
  | enumeration underlying => exact hinteger underlying underlying.2
  | floating shortest => exact appendLogNumber_eq shortest.2
  | wrapper value ih => exact ih
  | _ => rfl

/-! ## The formatter -/

/-- `FormatLogMessage` without arguments. `literal` is what was passed since the last brace. -/
def formatRest (output literal : Text) : Text → Bool × Text
  | [] => (true, output ++ literal)
  | character :: rest =>
    if character ≠ '{' ∧ character ≠ '}' then formatRest output (literal ++ [character]) rest
    else
      match rest with
      | [] => (false, output ++ literal)
      | next :: rest =>
        if next ≠ character then (false, output ++ literal)
        else formatRest (output ++ literal ++ [character]) [] rest

/-- `FormatLogMessage` with a first argument, where `formatOthers` is the call for the
others. -/
def formatFirst (first : LogValue) (formatOthers : Text → Text → Bool × Text)
    (output literal : Text) : Text → Bool × Text
  | [] => (false, output)
  | character :: rest =>
    if character ≠ '{' ∧ character ≠ '}' then
      formatFirst first formatOthers output (literal ++ [character]) rest
    else
      match rest with
      | [] => (false, output ++ literal)
      | next :: rest =>
        if character = '{' ∧ next = '}' then
          match appendLogValue (output ++ literal) first with
          | (true, written) => formatOthers written rest
          | (false, written) => (false, written)
        else if next ≠ character then (false, output ++ literal)
        else formatFirst first formatOthers (output ++ literal ++ [character]) [] rest

/-- `FormatLogMessage`, with what it leaves in `output`. -/
def formatLogMessage : List LogValue → Text → Text → Bool × Text
  | [], output, format => formatRest output [] format
  | first :: rest, output, format =>
    formatFirst first (formatLogMessage rest) output [] format

/-! ## Tokens of a format -/

inductive FormatToken
  | literal (character : Char)
  | openBrace
  | closeBrace
  | placeholder
  deriving DecidableEq, Repr

/-- A format from left to right, if it falls into tokens. -/
def tokenise : Text → Option (List FormatToken)
  | [] => some []
  | '{' :: '{' :: rest => (tokenise rest).map (.openBrace :: ·)
  | '{' :: '}' :: rest => (tokenise rest).map (.placeholder :: ·)
  | '}' :: '}' :: rest => (tokenise rest).map (.closeBrace :: ·)
  | character :: rest =>
    if character = '{' ∨ character = '}' then none
    else (tokenise rest).map (.literal character :: ·)

def placeholders (tokens : List FormatToken) : Nat :=
  tokens.count .placeholder

/-- The tokens written out, the `i`-th placeholder as the `i`-th text. -/
def written : List FormatToken → List Text → Text
  | .literal character :: tokens, texts => character :: written tokens texts
  | .openBrace :: tokens, texts => '{' :: written tokens texts
  | .closeBrace :: tokens, texts => '}' :: written tokens texts
  | .placeholder :: tokens, text :: texts => text ++ written tokens texts
  | .placeholder :: tokens, [] => written tokens []
  | [], _ => []

/-! ## What the formatter takes -/

/-- The format falls into tokens, with one placeholder for each text, and these written out are
the result. -/
def Reads (format : Text) (texts : List Text) (result : Text) : Prop :=
  ∃ tokens, tokenise format = some tokens ∧ placeholders tokens = texts.length ∧
    result = written tokens texts

theorem reads_nil : Reads [] texts result ↔ texts = [] ∧ result = [] := by
  constructor
  · rintro ⟨tokens, htokens, hcount, rfl⟩
    cases htokens
    exact ⟨List.length_eq_zero_iff.1 hcount.symm, rfl⟩
  · rintro ⟨rfl, rfl⟩
    exact ⟨[], rfl, rfl, rfl⟩

theorem reads_of_token {format rest texts : _} (token : FormatToken) (hplain : token ≠ .placeholder)
    (hwritten : ∀ tokens, written (token :: tokens) texts = character :: written tokens texts)
    (htokens : tokenise format = (tokenise rest).map (token :: ·)) :
    Reads format texts result ↔ ∃ tail, Reads rest texts tail ∧ result = character :: tail := by
  unfold Reads
  rw [htokens]
  constructor
  · rintro ⟨tokens, hmap, hcount, rfl⟩
    obtain ⟨others, hothers, rfl⟩ := Option.map_eq_some_iff.1 hmap
    refine ⟨written others texts, ⟨others, hothers, ?_, rfl⟩, hwritten others⟩
    rwa [placeholders, List.count_cons_of_ne hplain] at hcount
  · rintro ⟨tail, ⟨others, hothers, hcount, rfl⟩, rfl⟩
    refine ⟨token :: others, by rw [hothers]; rfl, ?_, (hwritten others).symm⟩
    rwa [placeholders, List.count_cons_of_ne hplain]

theorem reads_literal (h : character ≠ '{' ∧ character ≠ '}') :
    Reads (character :: rest) texts result ↔
      ∃ tail, Reads rest texts tail ∧ result = character :: tail := by
  apply reads_of_token (.literal character) (by simp) (fun _ => rfl)
  rw [tokenise, if_neg (by simp [h])]
  · exact fun _ heq _ => h.1 heq
  · exact fun _ heq _ => h.1 heq
  · exact fun _ heq _ => h.2 heq

theorem reads_escaped (h : ¬ (character ≠ '{' ∧ character ≠ '}')) :
    Reads (character :: character :: rest) texts result ↔
      ∃ tail, Reads rest texts tail ∧ result = character :: tail := by
  by_cases hopen : character = '{'
  · subst hopen
    exact reads_of_token .openBrace (by decide) (fun _ => rfl) rfl
  · have hclose : character = '}' := by
      by_contra hne
      exact h ⟨hopen, hne⟩
    subst hclose
    exact reads_of_token .closeBrace (by decide) (fun _ => rfl) rfl

theorem reads_placeholder :
    Reads ('{' :: '}' :: rest) texts result ↔
      ∃ first others tail, texts = first :: others ∧ Reads rest others tail ∧
        result = first ++ tail := by
  have hcount : ∀ tokens, placeholders (.placeholder :: tokens) = placeholders tokens + 1 :=
    fun _ => List.count_cons_self
  constructor
  · rintro ⟨tokens, hmap, hlength, rfl⟩
    obtain ⟨others, hothers, rfl⟩ := Option.map_eq_some_iff.1 hmap
    rw [hcount] at hlength
    cases texts with
    | nil => cases hlength
    | cons first texts =>
      exact ⟨first, texts, written others texts, rfl,
        ⟨others, hothers, Nat.succ.inj hlength, rfl⟩, rfl⟩
  · rintro ⟨first, texts, tail, rfl, ⟨others, hothers, hlength, rfl⟩, rfl⟩
    refine ⟨.placeholder :: others, ?_, ?_, rfl⟩
    · show (tokenise rest).map _ = _
      rw [hothers]
      rfl
    · rw [hcount, hlength]
      rfl

/-- A brace at the end, or one that does not go with what is behind it. -/
theorem not_reads_stray (h : ¬ (character ≠ '{' ∧ character ≠ '}'))
    (hstray : ∀ next ∈ rest.head?, next ≠ character ∧ ¬ (character = '{' ∧ next = '}')) :
    ¬ Reads (character :: rest) texts result := by
  rintro ⟨tokens, htokens, -⟩
  have hnone : tokenise (character :: rest) = none := by
    rw [tokenise, if_pos (by simpa [imp_iff_not_or, or_comm] using h)]
    · rintro others rfl rfl
      exact (hstray '{' rfl).1 rfl
    · rintro others rfl rfl
      exact (hstray '}' rfl).2 ⟨rfl, rfl⟩
    · rintro others rfl rfl
      exact (hstray '}' rfl).1 rfl
  rw [hnone] at htokens
  cases htokens

theorem exists_written_iff {gives : Text → Prop} {front : Text} :
    (∃ tail, gives tail ∧ result = front ++ [character] ++ tail) ↔
      ∃ tail, (∃ others, gives others ∧ tail = character :: others) ∧ result = front ++ tail := by
  constructor
  · rintro ⟨others, hothers, rfl⟩
    exact ⟨character :: others, ⟨others, hothers, rfl⟩, by simp⟩
  · rintro ⟨_, ⟨others, hothers, rfl⟩, rfl⟩
    exact ⟨others, hothers, by simp⟩

theorem formatRest_eq_true {literal : Text} :
    formatRest output literal format = (true, result) ↔
      ∃ tail, Reads format [] tail ∧ result = output ++ literal ++ tail := by
  fun_induction formatRest output literal format with
  | case1 output literal =>
    constructor
    · intro h
      cases h
      exact ⟨[], reads_nil.2 ⟨rfl, rfl⟩, (List.append_nil _).symm⟩
    · rintro ⟨tail, htail, rfl⟩
      rw [(reads_nil.1 htail).2, List.append_nil]
  | case2 output literal character rest hplain ih =>
    rw [ih]
    simp [reads_literal hplain, ← exists_written_iff, ← List.append_assoc]
  | case3 output literal character hbrace =>
    constructor
    · intro h
      cases h
    · rintro ⟨tail, htail, -⟩
      exact absurd htail (not_reads_stray hbrace fun next hnext => by cases hnext)
  | case4 output literal character hbrace next rest hnext =>
    constructor
    · intro h
      cases h
    · rintro ⟨tail, htail, -⟩
      by_cases hplaceholder : character = '{' ∧ next = '}'
      · obtain ⟨rfl, rfl⟩ := hplaceholder
        obtain ⟨first, others, -, heq, -⟩ := reads_placeholder.1 htail
        cases heq
      · refine absurd htail (not_reads_stray hbrace fun other hother => ?_)
        cases hother
        exact ⟨hnext, hplaceholder⟩
  | case5 output literal character hbrace next rest hnext ih =>
    rw [ih, Decidable.not_not.1 hnext]
    simp [reads_escaped hbrace, ← exists_written_iff]

theorem formatFirst_eq_true {first : LogValue} {formatOthers : Text → Text → Bool × Text}
    (hothers : ∀ output format result, formatOthers output format = (true, result) ↔ ∃ tail, Reads
      format texts tail ∧ result = output ++ tail)
    {literal : Text} :
    formatFirst first formatOthers output literal format = (true, result) ↔
      ∃ tail, Reads format (first.rendering :: texts) tail ∧
        result = output ++ literal ++ tail := by
  fun_induction formatFirst first formatOthers output literal format with
  | case1 output literal =>
    constructor
    · intro h
      cases h
    · rintro ⟨tail, htail, -⟩
      cases (reads_nil.1 htail).1
  | case2 output literal character rest hplain ih =>
    rw [ih]
    simp [reads_literal hplain, ← exists_written_iff, ← List.append_assoc]
  | case3 output literal character hbrace =>
    constructor
    · intro h
      cases h
    · rintro ⟨tail, htail, -⟩
      exact absurd htail (not_reads_stray hbrace fun next hnext => by cases hnext)
  | case4 output literal character hbrace next rest hplaceholder written happended =>
    obtain ⟨rfl, rfl⟩ := hplaceholder
    rw [appendLogValue_eq] at happended
    cases happended
    rw [hothers]
    simp only [reads_placeholder]
    constructor
    · rintro ⟨tail, htail, rfl⟩
      exact ⟨_, ⟨first.rendering, texts, tail, rfl, htail, rfl⟩, by simp⟩
    · rintro ⟨_, ⟨_, _, tail, heq, htail, rfl⟩, rfl⟩
      cases heq
      exact ⟨tail, htail, by simp⟩
  | case5 output literal character hbrace next rest hplaceholder written happended =>
    rw [appendLogValue_eq] at happended
    cases happended
  | case6 output literal character hbrace next rest hplaceholder hnext =>
    constructor
    · intro h
      cases h
    · rintro ⟨tail, htail, -⟩
      refine absurd htail (not_reads_stray hbrace fun other hother => ?_)
      cases hother
      exact ⟨hnext, hplaceholder⟩
  | case7 output literal character hbrace next rest hplaceholder hnext ih =>
    rw [ih, Decidable.not_not.1 hnext]
    simp [reads_escaped hbrace, ← exists_written_iff]

theorem formatLogMessage_reads (values : List LogValue) (output format result : Text) :
    formatLogMessage values output format = (true, result) ↔
      ∃ tail, Reads format (values.map LogValue.rendering) tail ∧ result = output ++ tail := by
  induction values generalizing output format result with
  | nil =>
    rw [formatLogMessage, formatRest_eq_true, List.append_nil]
    rfl
  | cons first rest ih =>
    rw [formatLogMessage, formatFirst_eq_true ih, List.append_nil]
    rfl

/-- **What the formatter writes.** It succeeds exactly if the format falls into tokens with as
many placeholders as there are values, and then it has appended these tokens, every
placeholder as the rendering of its value. -/
theorem formatLogMessage_eq_true (values : List LogValue) (output format result : Text) :
    formatLogMessage values output format = (true, result) ↔
      ∃ tokens, tokenise format = some tokens ∧ placeholders tokens = values.length ∧
        result = output ++ written tokens (values.map LogValue.rendering) := by
  rw [formatLogMessage_reads]
  unfold Reads
  rw [List.length_map]
  constructor
  · rintro ⟨tail, ⟨tokens, htokens, hcount, rfl⟩, rfl⟩
    exact ⟨tokens, htokens, hcount, rfl⟩
  · rintro ⟨tokens, htokens, hcount, rfl⟩
    exact ⟨_, ⟨tokens, htokens, hcount, rfl⟩, rfl⟩

/-- A text as a format that stands for it. -/
def escaped (text : Text) : Text :=
  text.flatMap fun character =>
    if character ≠ '{' ∧ character ≠ '}' then [character] else [character, character]

theorem Reads.escaped (h : Reads rest texts result) (text : Text) :
    Reads (escaped text ++ rest) texts (text ++ result) := by
  induction text with
  | nil => exact h
  | cons character text ih =>
    unfold Sdk.escaped at ih ⊢
    rw [List.flatMap_cons]
    split
    · next hplain => exact (reads_literal hplain).2 ⟨_, ih, rfl⟩
    · next hbrace => exact (reads_escaped hbrace).2 ⟨_, ih, rfl⟩

/-- Every message can be written: the texts between the values escaped, and a placeholder for
each value. -/
theorem formatLogMessage_escaped (parts : List (Text × LogValue)) (last output : Text) :
    formatLogMessage (parts.map Prod.snd) output
        (parts.flatMap (fun part => escaped part.1 ++ ['{', '}']) ++ escaped last) =
      (true, output ++ (parts.flatMap (fun part => part.1 ++ part.2.rendering) ++ last)) := by
  refine (formatLogMessage_reads _ _ _ _).2 ⟨_, ?_, rfl⟩
  induction parts with
  | nil => simpa using (reads_nil.2 ⟨rfl, rfl⟩).escaped last
  | cons part parts ih =>
    simp only [List.flatMap_cons, List.append_assoc, List.map_cons]
    exact (reads_placeholder.2 ⟨_, _, _, rfl, ih, rfl⟩).escaped part.1

end KeelS2.Sdk
