import Mathlib.Data.List.Basic

/-!
# Self-delimiting encodings

An encoding of values into words is *self-delimiting* when a reader that knows only where
an encoded value starts also knows where it ends: two encodings followed by arbitrary
tails agree only if the values and the tails agree. That is stronger than injectivity and,
unlike it, closed under concatenation — which is why it is the property to prove when a
larger text is glued together out of smaller ones.

The one self-delimiting atom needed is a decimal numeral *followed by a non-digit*; a bare
numeral is injective but not self-delimiting.
-/

namespace KeelS2.Lib

variable {α β γ : Type*}

/-! ## Splitting a word at the first letter of another class -/

/-- Two words over one class of letters, each followed by a letter outside the class, are
split at the same place. -/
theorem append_cons_cancel {p : γ → Prop} {u v : List γ} {c d : γ} {s t : List γ}
    (hu : ∀ x ∈ u, p x) (hv : ∀ x ∈ v, p x) (hc : ¬ p c) (hd : ¬ p d)
    (h : u ++ c :: s = v ++ d :: t) : u = v ∧ c = d ∧ s = t := by
  induction u generalizing v with
  | nil =>
    cases v with
    | nil => simpa using h
    | cons y ys =>
      simp only [List.nil_append, List.cons_append, List.cons.injEq] at h
      exact absurd (h.1 ▸ hv y (by simp)) hc
  | cons x xs ih =>
    cases v with
    | nil =>
      simp only [List.nil_append, List.cons_append, List.cons.injEq] at h
      exact absurd (h.1 ▸ hu x (by simp)) hd
    | cons y ys =>
      simp only [List.cons_append, List.cons.injEq] at h
      obtain ⟨rfl, hrest⟩ := h
      obtain ⟨rfl, hcd, hst⟩ := ih (fun z hz => hu z (by simp [hz]))
        (fun z hz => hv z (by simp [hz])) hrest
      exact ⟨rfl, hcd, hst⟩

/-! ## Decimal numerals -/

/-- The decimal numeral of `n`, as the standard library prints it. -/
def decimal (n : Nat) : List Char := Nat.toDigits 10 n

theorem isDigit_of_mem_decimal {n : Nat} {c : Char} (h : c ∈ decimal n) : c.isDigit = true :=
  Nat.isDigit_of_mem_toDigits (by decide) (by decide) h

theorem decimal_injective {m n : Nat} (h : decimal m = decimal n) : m = n := by
  have hv := congrArg (fun l => Nat.ofDigitChars 10 l 0) h
  simpa [decimal] using hv

theorem decimal_cons_cancel {m n : Nat} {c d : Char} {s t : List Char}
    (hc : c.isDigit = false) (hd : d.isDigit = false)
    (h : decimal m ++ c :: s = decimal n ++ d :: t) : m = n ∧ c = d ∧ s = t := by
  obtain ⟨hmn, hcd, hst⟩ := append_cons_cancel (p := fun x => x.isDigit = true)
    (fun _ => isDigit_of_mem_decimal) (fun _ => isDigit_of_mem_decimal)
    (by simp [hc]) (by simp [hd]) h
  exact ⟨decimal_injective hmn, hcd, hst⟩

/-- A numeral is never empty, so a word it starts starts with a digit. -/
theorem exists_digit_cons_decimal (n : Nat) :
    ∃ c cs, decimal n = c :: cs ∧ c.isDigit = true := by
  cases h : decimal n with
  | nil => exact absurd h Nat.toDigits_ne_nil
  | cons c cs => exact ⟨c, cs, rfl, isDigit_of_mem_decimal (n := n) (by simp [h])⟩

/-- A word that starts with a numeral does not start with a non-digit. -/
theorem decimal_append_ne_cons {n : Nat} {c : Char} {s t : List Char}
    (hc : c.isDigit = false) : decimal n ++ s ≠ c :: t := by
  obtain ⟨d, ds, hn, hd⟩ := exists_digit_cons_decimal n
  rw [hn]
  intro h
  simp only [List.cons_append, List.cons.injEq] at h
  rw [h.1, hc] at hd
  exact Bool.noConfusion hd

end KeelS2.Lib
