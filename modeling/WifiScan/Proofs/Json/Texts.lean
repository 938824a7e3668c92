import WifiScan.Proofs.Json.Written

/-!
# Reading texts in quotes

A text in quotes is read as the text (`readChars_quoted`): each character is read from the way in
which it is written, and no character is written with the closing quote.
-/
namespace WifiScan.Json

theorem digitValue?_digitChar : ∀ d < 16, Hex.digitValue? (Nat.digitChar d) = some d := by decide

/-- The digits of a control character. -/
theorem lower_control : ∀ n < 0x20,
    Hex.lower 4 n = ['0', '0', Nat.digitChar (n / 16), Nat.digitChar (n % 16)] := by decide

theorem readChars_control {c : Char} (control : c.toNat < 0x20) (cs : List Char) :
    readChars .plain ('\\' :: 'u' :: (Hex.lower 4 c.toNat ++ cs)) =
      (readChars .plain cs).map fun (r, rest) => (c :: r, rest) := by
  have zero : Hex.digitValue? '0' = some 0 := by decide
  have high := digitValue?_digitChar (c.toNat / 16) (by omega)
  have low := digitValue?_digitChar (c.toNat % 16) (by omega)
  have unit : 16 * (16 * (16 * (16 * 0 + 0) + 0) + c.toNat / 16) + c.toNat % 16 = c.toNat := by
    omega
  have single : isLowSurrogate c.toNat = false ∧ isHighSurrogate c.toNat = false := by
    simp only [isLowSurrogate, isHighSurrogate, Bool.and_eq_false_iff, decide_eq_false_iff_not]
    omega
  -- The number of a control character is far below the surrogates.
  rw [lower_control _ control]
  simp only [List.cons_append, List.nil_append, readChars, unescape?, zero, high, low, unit, single,
    Char.ofNat_toNat]
  rfl

/-- How a character of a text is written: by a letter of its own after a backslash, by its number,
or as it is. -/
inductive Escaped (c : Char) : List Char → Prop
  | letter {d : Char} (own : d ∈ ['"', '\\', 'b', 'f', 'n', 'r', 't'])
      (back : unescape? d = some c) : Escaped c ['\\', d]
  | number (control : c.toNat < 0x20) : Escaped c ('\\' :: 'u' :: Hex.lower 4 c.toNat)
  | plain (quote : c ≠ '"') (backslash : c ≠ '\\') (printed : ¬c.toNat < 0x20) : Escaped c [c]

theorem escaped_escape (c : Char) : Escaped c (escape c) := by
  unfold escape
  -- Seven characters have letters of their own, and the other control characters have numbers.
  split
  next h => subst h; exact .letter (by simp) rfl
  split
  next h => subst h; exact .letter (by simp) rfl
  split
  next h => subst h; exact .letter (by simp) rfl
  split
  next h => subst h; exact .letter (by simp) rfl
  split
  next h => subst h; exact .letter (by simp) rfl
  split
  next h => subst h; exact .letter (by simp) rfl
  split
  next h => subst h; exact .letter (by simp) rfl
  split
  next control => exact .number control
  next quote backslash _ _ _ _ _ printed => exact .plain quote backslash printed

/-- A character is read from the way in which it is written. -/
theorem readChars_escape (c : Char) (cs : List Char) :
    readChars .plain (escape c ++ cs) =
      (readChars .plain cs).map fun (r, rest) => (c :: r, rest) := by
  have way := escaped_escape c
  generalize escape c = written at way ⊢
  cases way with
  | letter _ back =>
    simp only [List.cons_append, List.nil_append, readChars, back]
    rfl
  | number control => exact readChars_control control cs
  | plain quote backslash printed =>
    simp only [List.cons_append, List.nil_append, readChars, quote, backslash, printed, if_false]

theorem readChars_quoted (s rest : List Char) :
    readChars .plain (s.flatMap escape ++ '"' :: rest) = .ok (s, rest) := by
  induction s with
  | nil => rfl
  | cons c s ih =>
    rw [List.flatMap_cons, List.append_assoc, readChars_escape, ih]
    rfl

end WifiScan.Json
