import KeelS2.Lib.SelfDelimiting
import Mathlib.Algebra.Group.Nat.Defs

/-!
# Texts of records

The three layers of a plain record file, each with its inverse. A *numeral* is read back as
the number it was printed from, in decimal or in hexadecimal of a fixed width; a *line* is
cut into the fields that a separator joined; and a text is cut into the lines that were
each written with a line feed behind. A layer's inverse holds where the layer above never
writes the letter that the layer cuts at, so that is the one thing a format has to show.
-/

namespace KeelS2.Lib

/-! ## Numerals -/

/-- The number a decimal numeral stands for; leading zeros are read, signs and blanks are
not. -/
def readDecimal (text : List Char) : Option Nat :=
  if text ≠ [] ∧ text.all Char.isDigit then some (Nat.ofDigitChars 10 text 0) else none

theorem decimal_ne_nil (n : Nat) : decimal n ≠ [] := by
  obtain ⟨c, cs, hn, -⟩ := exists_digit_cons_decimal n
  simp [hn]

theorem readDecimal_decimal (n : Nat) : readDecimal (decimal n) = some n := by
  have hdigits : (decimal n).all Char.isDigit := by
    rw [List.all_eq_true]
    exact fun c hc => isDigit_of_mem_decimal hc
  unfold readDecimal
  rw [if_pos ⟨decimal_ne_nil n, hdigits⟩]
  exact congrArg some Nat.ofDigitChars_ten_toDigits

/-- The value of a hexadecimal digit of either case. -/
def hexDigit (c : Char) : Option Nat :=
  if '0' ≤ c ∧ c ≤ '9' then some (c.toNat - '0'.toNat)
  else if 'a' ≤ c ∧ c ≤ 'f' then some (c.toNat - 'a'.toNat + 10)
  else if 'A' ≤ c ∧ c ≤ 'F' then some (c.toNat - 'A'.toNat + 10)
  else none

theorem hexDigit_digitChar : ∀ n < 16, hexDigit n.digitChar = some n := by
  decide

theorem hexDigit_toUpper_digitChar : ∀ n < 16, hexDigit n.digitChar.toUpper = some n := by
  decide

/-- The last `width` hexadecimal digits of a number, in lower case. -/
def hexDigits : Nat → Nat → List Char
  | 0, _ => []
  | width + 1, n => hexDigits width (n / 16) ++ [(n % 16).digitChar]

/-- The number that hexadecimal digits stand for, read from the left. -/
def readHexFrom (n : Nat) : List Char → Option Nat
  | [] => some n
  | c :: rest =>
    match hexDigit c with
    | some digit => readHexFrom (16 * n + digit) rest
    | none => none

def readHex (text : List Char) : Option Nat :=
  readHexFrom 0 text

theorem readHexFrom_append (left right : List Char) (n : Nat) :
    readHexFrom n (left ++ right) = (readHexFrom n left).bind (readHexFrom · right) := by
  induction left generalizing n with
  | nil => rfl
  | cons c rest ih =>
    simp only [List.cons_append, readHexFrom]
    cases hexDigit c with
    | none => rfl
    | some digit => exact ih _

theorem length_hexDigits (width n : Nat) : (hexDigits width n).length = width := by
  induction width generalizing n with
  | zero => rfl
  | succ width ih => simp [hexDigits, ih]

theorem readHex_hexDigits (width n : Nat) (h : n < 16 ^ width) :
    readHex (hexDigits width n) = some n := by
  induction width generalizing n with
  | zero =>
    have hzero : n = 0 := by simpa using h
    rw [hzero]
    rfl
  | succ width ih =>
    have hhigh : n / 16 < 16 ^ width := by
      apply Nat.div_lt_of_lt_mul
      rwa [Nat.pow_succ, Nat.mul_comm] at h
    have hlow : hexDigit (n % 16).digitChar = some (n % 16) :=
      hexDigit_digitChar _ (Nat.mod_lt _ (by decide))
    have hread := ih (n / 16) hhigh
    unfold readHex at hread ⊢
    rw [hexDigits, readHexFrom_append, hread]
    simp only [Option.bind_some, readHexFrom, hlow]
    exact congrArg some (Nat.div_add_mod n 16)

theorem isAlphanum_of_mem_hexDigits {width n : Nat} {c : Char} (h : c ∈ hexDigits width n) :
    c.isAlphanum = true := by
  induction width generalizing n with
  | zero => cases h
  | succ width ih =>
    have hlast : ∀ k < 16, (Nat.digitChar k).isAlphanum = true := by decide
    rcases List.mem_append.1 h with h | h
    · exact ih h
    · rw [List.mem_singleton] at h
      rw [h]
      exact hlast _ (Nat.mod_lt _ (by decide))

/-! ## Fields -/

/-- The fields of a line; `[]` has one, the empty field. -/
def fields (separator : Char) (line : List Char) : List (List Char) :=
  line.splitOn separator

def joinFields (separator : Char) (record : List (List Char)) : List Char :=
  [separator].intercalate record

theorem joinFields_cons_cons (separator : Char) (first second : List Char)
    (rest : List (List Char)) :
    joinFields separator (first :: second :: rest)
      = first ++ separator :: joinFields separator (second :: rest) := by
  simp [joinFields, List.intercalate_cons_cons]

theorem of_mem_joinFields {separator character : Char} {record : List (List Char)}
    (h : character ∈ joinFields separator record) :
    character = separator ∨ ∃ field ∈ record, character ∈ field := by
  induction record with
  | nil => simp [joinFields] at h
  | cons first rest ih =>
    cases rest with
    | nil =>
      simp only [joinFields, List.intercalate_singleton] at h
      exact Or.inr ⟨first, List.mem_cons_self, h⟩
    | cons second more =>
      rw [joinFields_cons_cons] at h
      rcases List.mem_append.1 h with h | h
      · exact Or.inr ⟨first, List.mem_cons_self, h⟩
      · rcases List.mem_cons.1 h with h | h
        · exact Or.inl h
        · rcases ih h with h | ⟨field, hmem, h⟩
          · exact Or.inl h
          · exact Or.inr ⟨field, List.mem_cons_of_mem _ hmem, h⟩

theorem head?_joinFields {separator : Char} {first : List Char} {rest : List (List Char)}
    (hne : first ≠ []) : (joinFields separator (first :: rest)).head? = first.head? := by
  cases rest with
  | nil => simp [joinFields]
  | cons second more =>
    rw [joinFields_cons_cons]
    exact List.head?_append_of_ne_nil _ hne

theorem fields_joinFields {separator : Char} {record : List (List Char)} (hne : record ≠ [])
    (h : ∀ field ∈ record, separator ∉ field) :
    fields separator (joinFields separator record) = record :=
  List.splitOn_intercalate separator h hne

/-! ## Lines -/

/-- The lines of a text as they are taken off it one by one: a line ends at a line feed or
with the text, and behind a last line feed there is no further line. -/
def lines (text : List Char) : List (List Char) :=
  let pieces := text.splitOn '\n'
  if pieces.getLast? = some [] then pieces.dropLast else pieces

def unlines (written : List (List Char)) : List Char :=
  written.flatMap (· ++ ['\n'])

theorem splitOn_unlines {written : List (List Char)} (h : ∀ line ∈ written, '\n' ∉ line) :
    (unlines written).splitOn '\n' = written ++ [[]] := by
  induction written with
  | nil => rfl
  | cons line rest ih =>
    have hfirst : '\n' ∉ line := h line List.mem_cons_self
    have hrest := ih fun other hother => h other (List.mem_cons_of_mem _ hother)
    have hcut : unlines (line :: rest) = line ++ '\n' :: unlines rest := by
      simp [unlines]
    rw [hcut, List.splitOn_append_cons_self_of_not_mem hfirst, hrest]
    rfl

theorem lines_unlines {written : List (List Char)} (h : ∀ line ∈ written, '\n' ∉ line) :
    lines (unlines written) = written := by
  unfold lines
  rw [splitOn_unlines h]
  simp

end KeelS2.Lib
