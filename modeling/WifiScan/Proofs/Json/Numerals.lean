import WifiScan.Proofs.Json.Written

/-!
# Reading integers

The digits of an integer of 64 bits are read as that integer, whatever follows that can follow a
number (`readInteger_digits`): they are taken to the last, none of them is a zero that leads, and
the number is finite as a double. How digits are scanned is stated of any of them, since other texts
than the library's own may have more of them than an integer has.
-/
namespace WifiScan.Json

/-! ### Digits -/

def Digits (ds : List Char) : Prop := ds ≠ [] ∧ ∀ c ∈ ds, c.isDigit = true

/-- The digits before a point. A zero that leads is the only one. -/
def WholeText (ds : List Char) : Prop := Digits ds ∧ ∀ c cs, ds ≠ '0' :: c :: cs

theorem Digits.starts {ds : List Char} (digits : Digits ds) :
    ∃ c cs, ds = c :: cs ∧ c.isDigit = true := by
  obtain ⟨c, cs, rfl⟩ := List.exists_cons_of_ne_nil digits.1
  exact ⟨c, cs, rfl, digits.2 c List.mem_cons_self⟩

theorem isDigit_of_mem_toDigits {n : Nat} {c : Char} (member : c ∈ Nat.toDigits 10 n) :
    c.isDigit = true :=
  Nat.isDigit_of_mem_toDigits (by omega) (by omega) member

theorem eq_zero_of_head_toDigits {n : Nat} {cs : List Char}
    (digits : Nat.toDigits 10 n = '0' :: cs) : n = 0 := by
  induction n using Nat.strongRecOn generalizing cs with
  | ind n ih =>
    rw [Nat.toDigits_eq_if (by omega)] at digits
    split at digits
    · exact Nat.digitChar_eq_zero.1 (List.cons.inj digits).1
    next large =>
      -- The first digit is that of the number without the last.
      cases front : Nat.toDigits 10 (n / 10) with
      | nil => exact absurd front Nat.toDigits_ne_nil
      | cons c front' =>
        rw [front, List.cons_append] at digits
        obtain ⟨rfl, -⟩ := List.cons.inj digits
        have := ih (n / 10) (by omega) front
        omega

/-- The digits of a number are taken as the ones before a point. -/
theorem whole_toDigits (n : Nat) : WholeText (Nat.toDigits 10 n) := by
  refine ⟨⟨Nat.toDigits_ne_nil, fun c => isDigit_of_mem_toDigits⟩, fun c cs leads => ?_⟩
  -- Only zero starts with a zero, and it has no other digit.
  rw [eq_zero_of_head_toDigits leads, Nat.toDigits_zero] at leads
  cases leads

/-- No blank starts a number. -/
theorem solid_of_startsNumber {c : Char} (starts : startsNumber c = true) : isBlank c = false := by
  cases blank : isBlank c with
  | false => rfl
  | true =>
    simp only [isBlank, Bool.or_eq_true, decide_eq_true_eq] at blank
    rcases blank with ((rfl | rfl) | rfl) | rfl <;> cases starts

theorem digits_cons (i : Int) :
    ∃ c cs, digits i = c :: cs ∧ startsNumber c = true ∧ isBlank c = false := by
  cases i with
  | ofNat n =>
    obtain ⟨c, cs, front, digit⟩ := (whole_toDigits n).1.starts
    have starts : startsNumber c = true := by simp [startsNumber, digit]
    exact ⟨c, cs, front, starts, solid_of_startsNumber starts⟩
  | negSucc n => exact ⟨'-', _, rfl, rfl, rfl⟩

/-- What can follow a number starts with none of the characters that can be part of one. -/
theorem Ends.cases {rest : List Char} (ends : Ends rest) :
    rest = [] ∨ ∃ c cs, rest = c :: cs ∧ c.isDigit = false ∧ c ≠ '.' ∧ c ≠ 'e' ∧ c ≠ 'E' := by
  match rest with
  | [] => exact Or.inl rfl
  | c :: cs =>
    refine Or.inr ⟨c, cs, rfl, ?_⟩
    simp only [Ends, isBlank, Bool.or_eq_true, decide_eq_true_eq] at ends
    rcases ends with (((rfl | rfl) | rfl) | rfl) | rfl | rfl | rfl <;> decide

/-- It adds no digit to a number, and no point. -/
theorem Ends.head {rest : List Char} (ends : Ends rest) :
    ∀ c ∈ rest.head?, c.isDigit = false ∧ c ≠ '.' := by
  intro c head
  rcases ends.cases with rfl | ⟨d, cs, rfl, other, point, -⟩
  · cases head
  · cases head
    exact ⟨other, point⟩

namespace Numeral

theorem scanDigits_append {ds rest : List Char} (digits : Digits ds)
    (stop : ∀ c ∈ rest.head?, c.isDigit = false) : scanDigits (ds ++ rest) = .ok (ds, rest) := by
  have stopped : rest.takeWhile Char.isDigit = [] ∧ rest.dropWhile Char.isDigit = rest := by
    cases rest with
    | nil => exact ⟨rfl, rfl⟩
    | cons c cs => simp [stop c rfl]
  have taken : (ds ++ rest).takeWhile Char.isDigit = ds := by
    rw [List.takeWhile_append_of_pos digits.2, stopped.1, List.append_nil]
  have dropped : (ds ++ rest).dropWhile Char.isDigit = rest := by
    rw [List.dropWhile_append_of_pos digits.2, stopped.2]
  obtain ⟨c, cs, rfl, digit⟩ := digits.starts
  simp only [List.cons_append] at taken dropped ⊢
  simp only [scanDigits, digit, if_true, taken, dropped]

theorem scanWhole_append {ds rest : List Char} (whole : WholeText ds)
    (stop : ∀ c ∈ rest.head?, c.isDigit = false) : scanWhole (ds ++ rest) = .ok (ds, rest) := by
  obtain ⟨digits, single⟩ := whole
  unfold scanWhole
  rw [scanDigits_append digits stop]
  dsimp only [bind, Except.bind]
  split
  next leads => exact absurd rfl (single _ _)
  next => rfl

theorem scanFraction_none {rest : List Char} (stop : ∀ c ∈ rest.head?, c ≠ '.') :
    scanFraction rest = .ok ([], rest) := by
  unfold scanFraction
  split
  next => exact absurd rfl (stop '.' rfl)
  next => rfl

theorem scanExponent_none {rest : List Char} (ends : Ends rest) :
    scanExponent rest = .ok (none, rest) := by
  rcases ends.cases with rfl | ⟨c, cs, rfl, -, -, small, large⟩
  · rfl
  · unfold scanExponent
    split
    next leads => exact absurd (List.cons.inj leads).1 small
    next leads => exact absurd (List.cons.inj leads).1 large
    next => rfl

theorem scanUnsigned_toDigits (negative : Bool) (n : Nat) {rest : List Char} (ends : Ends rest) :
    scanUnsigned negative (Nat.toDigits 10 n ++ rest) =
      .ok (⟨negative, Nat.toDigits 10 n, [], none⟩, rest) := by
  have whole := scanWhole_append (whole_toDigits n) fun c head => (ends.head c head).1
  have fraction := scanFraction_none fun c head => (ends.head c head).2
  simp only [scanUnsigned, whole, fraction, scanExponent_none ends, bind, Except.bind, pure,
    Except.pure]

/-- A number whose first character is a digit has no sign. -/
theorem scan_unsigned {ds : List Char} (digits : Digits ds) (rest : List Char) :
    scan (ds ++ rest) = scanUnsigned false (ds ++ rest) := by
  obtain ⟨c, cs, rfl, digit⟩ := digits.starts
  unfold scan
  split
  next signed =>
    cases (List.cons.inj signed).1
    cases digit
  next => rfl

/-- The parts of an integer's digits: its sign and its absolute value. -/
def ofInt (i : Int) : Numeral := ⟨i < 0, Nat.toDigits 10 i.natAbs, [], none⟩

theorem scan_digits (i : Int) {rest : List Char} (ends : Ends rest) :
    scan (digits i ++ rest) = .ok (ofInt i, rest) := by
  cases i with
  | ofNat n =>
    exact (scan_unsigned (whole_toDigits n).1 rest).trans (scanUnsigned_toDigits false n ends)
  | negSucc n =>
    have negative : ofInt (.negSucc n) = ⟨true, Nat.toDigits 10 (n + 1), [], none⟩ := by
      simp [ofInt, Int.negSucc_lt_zero]
    rw [negative]
    exact scanUnsigned_toDigits true (n + 1) ends

/-! ### Values -/

theorem le_ofDigitChars (cs : List Char) (s : Nat) : s ≤ Nat.ofDigitChars 10 cs s := by
  have positive : 0 < 10 ^ cs.length := Nat.pow_pos (by omega)
  rw [Nat.ofDigitChars_eq_ofDigitChars_zero]
  exact Nat.le_trans (Nat.le_mul_of_pos_left s positive) (Nat.le_add_right ..)

/-- Digits of a number of 64 bits are all absorbed. -/
theorem absorb_eq {cs : List Char} {s : Nat} (small : Nat.ofDigitChars 10 cs s < UInt64.size) :
    absorb s cs = (Nat.ofDigitChars 10 cs s, []) := by
  induction cs generalizing s with
  | nil => rfl
  | cons c cs ih =>
    have step : Nat.ofDigitChars 10 (c :: cs) s =
        Nat.ofDigitChars 10 cs (Nat.ofDigitChars 10 [c] s) :=
      Nat.ofDigitChars_append (l := [c]) s
    rw [step] at small ⊢
    have next := Nat.lt_of_le_of_lt (le_ofDigitChars cs _) small
    simp only [absorb, next, if_true, ih small]

theorem roundToDouble_le (n : Nat) : roundToDouble n ≤ 2 * n := by
  unfold roundToDouble
  split
  · omega
  next large =>
    have positive : n ≠ 0 := by
      rintro rfl
      exact large (by decide)
    -- Rounding up adds one unit of the last bit, which is at most the number itself.
    generalize shift : n.log2 - 52 = k
    have unit : 2 ^ k ≤ n :=
      Nat.le_trans (Nat.pow_le_pow_right (by omega) (by omega)) (Nat.log2_self_le positive)
    have floor : n / 2 ^ k * 2 ^ k ≤ n := Nat.div_mul_le_self ..
    simp only [Nat.shiftLeft_eq, Nat.shiftRight_eq_div_pow]
    split
    · rw [Nat.succ_mul]
      omega
    · omega

theorem overflows_eq_false {n : Nat} (small : n < UInt64.size) : overflows n 0 = false := by
  have round := roundToDouble_le n
  have one : roundToDouble 1 = 1 := by decide
  have bound : 2 * UInt64.size ≤ infiniteFrom := by decide
  simp only [overflows, Int.toNat_zero, Nat.pow_eq, Nat.pow_zero, one, Nat.mul_one]
  have finite : decide (infiniteFrom ≤ roundToDouble n) = false := decide_eq_false (by omega)
  rw [finite]
  simp

/-- An integer of 64 bits, with or without a sign. -/
def Fits (i : Int) : Prop := Int64.minValue.toInt ≤ i ∧ i < UInt64.size

variable {i : Int}

theorem Fits.natAbs_lt (fits : Fits i) : i.natAbs < UInt64.size := by
  obtain ⟨least, most⟩ := fits
  have : Int64.minValue.toInt = -9223372036854775808 := by decide
  simp only [UInt64.size] at most ⊢
  omega

theorem isFinite_ofInt (fits : Fits i) : (ofInt i).isFinite = true := by
  have small : Nat.ofDigitChars 10 (Nat.toDigits 10 i.natAbs) 0 < UInt64.size := by
    rw [Nat.ofDigitChars_ten_toDigits]
    exact fits.natAbs_lt
  simp only [isFinite, ofInt, absorb_eq small, Nat.ofDigitChars_ten_toDigits, absorb]
  simp [overflows_eq_false fits.natAbs_lt]

theorem integer?_ofInt (fits : Fits i) : (ofInt i).integer? = some i := by
  have small := fits.natAbs_lt
  simp only [integer?, ofInt, Nat.ofDigitChars_ten_toDigits, and_self, if_true, decide_eq_true_eq]
  by_cases negative : i < 0
  · have value : -(i.natAbs : Int) = i := by omega
    have bounds : 0 < i.natAbs ∧ Int64.minValue.toInt ≤ -(i.natAbs : Int) := by
      rw [value]
      exact ⟨by omega, fits.1⟩
    rw [if_pos negative, if_pos bounds, value]
  · have value : (i.natAbs : Int) = i := by omega
    rw [if_neg negative, if_pos small, value]

end Numeral

/-- The digits of an integer are read as the integer. -/
theorem readInteger_digits {i : Int} (fits : Numeral.Fits i) {w rest : List Char} (blank : Blank w)
    (ends : Ends rest) : readInteger (w ++ (digits i ++ rest)) = .ok (i, rest) := by
  have number : readNumber (digits i ++ rest) = .ok (some i, rest) := by
    simp only [readNumber, Numeral.scan_digits i ends, Numeral.isFinite_ofInt fits, if_true,
      Numeral.integer?_ofInt fits]
  obtain ⟨c, cs, front, starts, solid⟩ := digits_cons i
  rw [front, List.cons_append] at number ⊢
  simp only [readInteger, skipBlanks_blank blank solid, starts, if_true, number]

end WifiScan.Json
