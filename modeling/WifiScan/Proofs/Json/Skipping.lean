import WifiScan.Proofs.Json.Grammar

/-!
# Skipping well-formed values

## Main result

`skipValue_value`: a well-formed value that nobody asks for is skipped, from the blanks before it to
its last character. No number in it is too large, and no surrogate in it needs another.

## Proof strategy

Each reader follows the grammar. A number is scanned in its parts, each of which ends where the next
one starts; a text in quotes is skipped letter by letter; lists and objects are skipped by induction
on their layout, with two steps for each character, as the readers count them.
-/
namespace WifiScan.Json

/-! ### Numbers -/

namespace Numeral

theorem scanFraction_append {fs : List Char} (fraction : FractionText fs) :
    ∃ ds, ∀ rest, (∀ c ∈ rest.head?, c.isDigit = false ∧ c ≠ '.') →
      scanFraction (fs ++ rest) = .ok (ds, rest) := by
  cases fraction with
  | absent =>
    exact ⟨[], fun rest stop => scanFraction_none fun c head => (stop c head).2⟩
  | @present ds digits =>
    exact ⟨ds, fun rest stop => scanDigits_append digits fun c head => (stop c head).1⟩

theorem scanSigned_append {sign ds : List Char} (signed : sign = [] ∨ sign = ['+'] ∨ sign = ['-'])
    (digits : Digits ds) : ∃ e, ∀ rest, (∀ c ∈ rest.head?, c.isDigit = false) →
      scanSigned (sign ++ ds ++ rest) = .ok (e, rest) := by
  rcases signed with rfl | rfl | rfl
  · refine ⟨Nat.ofDigitChars 10 ds 0, fun rest stop => ?_⟩
    have scanned := scanDigits_append digits stop
    obtain ⟨c, cs, rfl, digit⟩ := digits.starts
    rw [List.nil_append]
    unfold scanSigned
    split
    -- No digit is a sign.
    next signed => cases (List.cons.inj signed).1; cases digit
    next signed => cases (List.cons.inj signed).1; cases digit
    next => rw [scanned]; rfl
  · refine ⟨Nat.ofDigitChars 10 ds 0, fun rest stop => ?_⟩
    simp only [List.cons_append, List.nil_append, scanSigned, scanDigits_append digits stop,
      Except.map]
  · refine ⟨-Nat.ofDigitChars 10 ds 0, fun rest stop => ?_⟩
    simp only [List.cons_append, List.nil_append, scanSigned, scanDigits_append digits stop,
      Except.map]

theorem scanExponent_append {es : List Char} (exponent : ExponentText es) :
    ∃ e, ∀ rest, Ends rest → scanExponent (es ++ rest) = .ok (e, rest) := by
  cases exponent with
  | absent =>
    exact ⟨none, fun rest ends => scanExponent_none ends⟩
  | @present mark sign ds marked signed digits =>
    obtain ⟨e, scanned⟩ := scanSigned_append signed digits
    refine ⟨some e, fun rest ends => ?_⟩
    have scanned := scanned rest fun c head => (ends.head c head).1
    rcases marked with rfl | rfl
    · simp only [List.cons_append, scanExponent, scanned, Except.map]
    · simp only [List.cons_append, scanExponent, scanned, Except.map]

/-- What can follow the digits before the exponent. -/
theorem stop_exponent {es rest : List Char} (exponent : ExponentText es) (ends : Ends rest) :
    ∀ c ∈ (es ++ rest).head?, c.isDigit = false ∧ c ≠ '.' := by
  intro c head
  cases exponent with
  | absent => exact ends.head c head
  | present marked =>
    cases head
    rcases marked with rfl | rfl <;> decide

/-- What can follow the digits before the point. -/
theorem stop_fraction {fs rest : List Char} (fraction : FractionText fs)
    (stop : ∀ c ∈ rest.head?, c.isDigit = false) :
    ∀ c ∈ (fs ++ rest).head?, c.isDigit = false := by
  intro c head
  cases fraction with
  | absent => exact stop c head
  | present =>
    cases head
    decide

theorem scanUnsigned_append {t : List Char} (unsigned : UnsignedText t) (negative : Bool) :
    ∃ n, ∀ rest, Ends rest → scanUnsigned negative (t ++ rest) = .ok (n, rest) := by
  obtain @⟨whole, fs, es, isWhole, fraction, exponent⟩ := unsigned
  obtain ⟨ds, fractionScanned⟩ := scanFraction_append fraction
  obtain ⟨e, exponentScanned⟩ := scanExponent_append exponent
  refine ⟨⟨negative, whole, ds, e⟩, fun rest ends => ?_⟩
  have stop := stop_exponent exponent ends
  have wholeScanned := scanWhole_append isWhole
    (stop_fraction fraction fun c head => (stop c head).1)
  simp only [scanUnsigned, List.append_assoc, wholeScanned, fractionScanned _ stop,
    exponentScanned rest ends, bind, Except.bind, pure, Except.pure]

/-- A number is scanned to its last character, whatever follows it that can. -/
theorem scan_number {t : List Char} (number : NumberText t) :
    ∃ n, ∀ rest, Ends rest → scan (t ++ rest) = .ok (n, rest) := by
  cases number with
  | positive unsigned =>
    obtain ⟨n, scanned⟩ := scanUnsigned_append unsigned false
    refine ⟨n, fun rest ends => ?_⟩
    rw [← scanned rest ends]
    obtain @⟨ds, fs, es, ⟨digits, -⟩, -, -⟩ := unsigned
    rw [List.append_assoc]
    exact scan_unsigned digits _
  | negative unsigned =>
    obtain ⟨n, scanned⟩ := scanUnsigned_append unsigned true
    exact ⟨n, scanned⟩

end Numeral

/-! ### Texts in quotes -/

theorem unescape?_letter {c : Char} (letter : c ∈ ['"', '\\', '/', 'b', 'f', 'n', 'r', 't']) :
    (unescape? c).isSome = true := by
  simp only [List.mem_cons, List.not_mem_nil, or_false] at letter
  rcases letter with rfl | rfl | rfl | rfl | rfl | rfl | rfl | rfl <;> rfl

/-- The values of the digits of a code unit. -/
theorem exists_digitValues {a b c d : Char}
    (digits : ∀ x ∈ [a, b, c, d], (Hex.digitValue? x).isSome = true) :
    ∃ m n p q, Hex.digitValue? a = some m ∧ Hex.digitValue? b = some n ∧
      Hex.digitValue? c = some p ∧ Hex.digitValue? d = some q := by
  obtain ⟨m, first⟩ := Option.isSome_iff_exists.1 (digits a (by simp))
  obtain ⟨n, second⟩ := Option.isSome_iff_exists.1 (digits b (by simp))
  obtain ⟨p, third⟩ := Option.isSome_iff_exists.1 (digits c (by simp))
  obtain ⟨q, fourth⟩ := Option.isSome_iff_exists.1 (digits d (by simp))
  exact ⟨m, n, p, q, first, second, third, fourth⟩

theorem skipChars_quoted {t : List Char} (quoted : QuotedText t) (more : List Char) :
    skipChars .plain (t ++ more) = .ok more := by
  induction quoted with
  | close => rfl
  | plain quote backslash printed _ ih =>
    simp only [List.cons_append, skipChars, quote, backslash, printed, if_false, ih]
  | escape letter _ ih =>
    simp only [List.cons_append, skipChars, unescape?_letter letter, if_true, ih]
    rfl
  | @unit a b c d t digits _ ih =>
    -- The letter of a unit is no escape of its own.
    have other : (unescape? 'u').isSome = false := by decide
    obtain ⟨m, n, p, q, first, second, third, fourth⟩ := exists_digitValues digits
    simp only [List.cons_append, skipChars, other, first, second, third, fourth, ih]
    rfl

/-! ### Values -/

/-- A value is skipped with two steps for each of its characters. -/
def Skipped (v : List Char) : Prop :=
  ∀ (fuel : Nat) {w more : List Char}, Blank w → Ends more → 2 * v.length ≤ fuel →
    skipValueWith fuel (w ++ (v ++ more)) = .ok more

theorem ItemsText.length_pos {first : Bool} {vs : List (List Char)} {cs : List Char}
    (layout : ItemsText first vs cs) : 0 < cs.length := by
  induction layout with
  | nil => simp
  | cons _ _ ih =>
    simp only [List.length_append]
    omega

theorem MembersText.length_pos {first : Bool} {kvs : List (List Char × List Char)} {cs : List Char}
    (layout : MembersText first kvs cs) : 0 < cs.length := by
  cases layout with
  | nil => simp
  | cons =>
    simp only [List.length_append, List.length_cons]
    omega

theorem skipItemsWith_items (fuel : Nat) {vs : List (List Char)} {v w cs : List Char}
    (more : List Char) (blank : Blank w) (item : Skipped v) (layout : ItemsText false vs cs)
    (items : ∀ v ∈ vs, Skipped v) (enough : 2 * (v.length + cs.length) ≤ fuel) :
    skipItemsWith fuel (w ++ (v ++ (cs ++ more))) = .ok more := by
  induction vs generalizing v w cs fuel with
  | nil =>
    have := layout.length_pos
    obtain ⟨fuel, rfl⟩ := Nat.exists_eq_add_one.2 (show 0 < fuel by omega)
    rw [skipItemsWith, item fuel blank (layout.ends more) (by omega)]
    -- The bracket follows the item.
    cases layout with
    | @nil _ w' blank' =>
      simp only [List.append_assoc, List.cons_append, List.nil_append, bind, Except.bind,
        skipBlanks_blank blank' (c := ']') rfl]
  | cons v' vs ih =>
    have := layout.length_pos
    obtain ⟨fuel, rfl⟩ := Nat.exists_eq_add_one.2 (show 0 < fuel by omega)
    rw [skipItemsWith, item fuel blank (layout.ends more) (by omega)]
    cases layout with
    | cons gap others =>
      cases gap with
      | @next before after left right =>
        simp only [List.length_append, List.length_cons] at enough
        have rest := ih fuel right (items v' List.mem_cons_self) others
          (fun u member => items u (List.mem_cons_of_mem _ member)) (by omega)
        simp only [List.append_assoc, List.cons_append, bind, Except.bind,
          skipBlanks_blank left (c := ',') rfl, rest]

theorem skipMembersWith_members (fuel : Nat) {kvs : List (List Char × List Char)}
    {k v w before after cs : List Char} (more : List Char) (blank : Blank w) (name : QuotedText k)
    (left : Blank before) (right : Blank after) (value : Skipped v)
    (layout : MembersText false kvs cs) (values : ∀ kv ∈ kvs, Skipped kv.2)
    (enough : 2 * (v.length + cs.length) ≤ fuel) :
    skipMembersWith fuel
        (w ++ '"' :: (k ++ (before ++ ':' :: (after ++ (v ++ (cs ++ more)))))) = .ok more := by
  induction kvs generalizing k v w before after cs fuel with
  | nil =>
    have := layout.length_pos
    obtain ⟨fuel, rfl⟩ := Nat.exists_eq_add_one.2 (show 0 < fuel by omega)
    have skipped := value fuel right (layout.ends more) (by omega)
    -- The brace follows the value.
    cases layout with
    | @nil _ w' blank' =>
      simp only [List.append_assoc, List.cons_append, List.nil_append] at skipped ⊢
      simp only [skipMembersWith, skipBlanks_blank blank (c := '"') rfl, skipChars_quoted name,
        skipBlanks_blank left (c := ':') rfl, skipped, skipBlanks_blank blank' (c := '}') rfl,
        bind, Except.bind]
  | cons kv kvs ih =>
    have := layout.length_pos
    obtain ⟨fuel, rfl⟩ := Nat.exists_eq_add_one.2 (show 0 < fuel by omega)
    have skipped := value fuel right (layout.ends more) (by omega)
    cases layout with
    | @cons _ k' v' _ before' after' _ _ gap name' left' right' others =>
      cases gap with
      | @next gapBefore gapAfter gapLeft gapRight =>
        simp only [List.length_append, List.length_cons] at enough
        have next : Skipped v' := values (k', v') List.mem_cons_self
        have rest := ih fuel gapRight name' left' right' next others
          (fun u member => values u (List.mem_cons_of_mem _ member)) (by omega)
        simp only [List.append_assoc, List.cons_append] at skipped rest ⊢
        simp only [skipMembersWith, skipBlanks_blank blank (c := '"') rfl, skipChars_quoted name,
          skipBlanks_blank left (c := ':') rfl, skipped, skipBlanks_blank gapLeft (c := ',') rfl,
          rest, bind, Except.bind]

/-- A value is skipped by the step that reads its first character. -/
theorem skipped_of_step {v : List Char} (value : ValueText v)
    (step : ∀ (fuel : Nat) {more : List Char}, Ends more → 2 * v.length ≤ fuel + 1 →
      skipValueWith (fuel + 1) (v ++ more) = .ok more) : Skipped v := by
  intro fuel w more blank ends enough
  have start := skipBlanks_value value blank more
  obtain ⟨c, t, rfl, solid, -⟩ := value.starts
  rw [List.length_cons] at enough
  obtain ⟨fuel, rfl⟩ := Nat.exists_eq_add_one.2 (show 0 < fuel by omega)
  have skipped := step fuel ends enough
  rw [skipValueWith, List.cons_append, skipBlanks_cons solid] at skipped
  rw [skipValueWith, start]
  exact skipped

theorem skipped_number {t : List Char} (number : NumberText t) : Skipped t := by
  apply skipped_of_step (.number number)
  intro fuel more ends _
  obtain ⟨n, scanned⟩ := Numeral.scan_number number
  have scanned := scanned more ends
  obtain ⟨c, cs, rfl, starts⟩ := number.starts
  rw [skipValueWith, List.cons_append, skipBlanks_cons (solid_of_startsNumber starts)]
  rw [List.cons_append] at scanned
  -- No other value starts as a number does.
  split
  all_goals try (next same => cases (List.cons.inj same).1; cases starts)
  next same => cases same
  next same =>
    cases same
    simp only [starts, if_true, skipNumber, scanned]

theorem skipped_list {vs : List (List Char)} {cs : List Char} (layout : ItemsText true vs cs)
    (items : ∀ v ∈ vs, ValueText v) (skipped : ∀ v ∈ vs, Skipped v) : Skipped ('[' :: cs) := by
  apply skipped_of_step (.list layout items)
  intro fuel more _ enough
  rw [skipValueWith, List.cons_append, skipBlanks_cons rfl]
  cases layout with
  | @nil _ w blank =>
    simp only [List.append_assoc, List.cons_append, List.nil_append,
      skipBlanks_blank blank (c := ']') rfl]
  | @cons _ v w cs vs gap others =>
    cases gap with
    | first blank =>
      simp only [List.length_append, List.length_cons] at enough
      have rest := skipItemsWith_items fuel more blank_nil (skipped v List.mem_cons_self) others
        (fun u member => skipped u (List.mem_cons_of_mem _ member)) (by omega)
      have start := skipBlanks_value (items v List.mem_cons_self) blank (cs ++ more)
      -- An item does not start with the bracket that closes the list.
      obtain ⟨c, t, rfl, -, open_⟩ := (items v List.mem_cons_self).starts
      simp only [List.append_assoc, List.cons_append, List.nil_append] at rest start ⊢
      rw [start]
      split
      next same => cases same
      next same => exact absurd (List.cons.inj same).1 open_
      next => exact rest

theorem skipped_object {kvs : List (List Char × List Char)} {cs : List Char}
    (layout : MembersText true kvs cs) (values : ∀ kv ∈ kvs, ValueText kv.2)
    (skipped : ∀ kv ∈ kvs, Skipped kv.2) : Skipped ('{' :: cs) := by
  apply skipped_of_step (.object layout values)
  intro fuel more _ enough
  rw [skipValueWith, List.cons_append, skipBlanks_cons rfl]
  cases layout with
  | @nil _ w blank =>
    simp only [List.append_assoc, List.cons_append, List.nil_append,
      skipBlanks_blank blank (c := '}') rfl]
  | @cons _ k v w before after cs kvs gap name left right others =>
    cases gap with
    | first blank =>
      simp only [List.length_append, List.length_cons] at enough
      have value : Skipped v := skipped (k, v) List.mem_cons_self
      have rest := skipMembersWith_members fuel more blank_nil name left right value others
        (fun u member => skipped u (List.mem_cons_of_mem _ member)) (by omega)
      simp only [List.append_assoc, List.cons_append, List.nil_append,
        skipBlanks_blank blank (c := '"') rfl] at rest ⊢
      exact rest

theorem skipValueWith_value {v : List Char} (value : ValueText v) : Skipped v := by
  induction value with
  | null => exact skipped_of_step .null fun _ _ _ _ => rfl
  | bool b =>
    apply skipped_of_step (.bool b)
    intro fuel more _ _
    cases b <;> rfl
  | number number => exact skipped_number number
  | text quoted =>
    apply skipped_of_step (.text quoted)
    intro fuel more _ _
    exact skipChars_quoted quoted more
  | list layout items ih => exact skipped_list layout items ih
  | object layout values ih => exact skipped_object layout values ih

/-- A well-formed value is skipped. -/
theorem skipValue_value {v w more : List Char} (value : ValueText v) (blank : Blank w)
    (ends : Ends more) : skipValue (w ++ (v ++ more)) = .ok more := by
  apply skipValueWith_value value _ blank ends
  simp only [List.length_append]
  omega

end WifiScan.Json
