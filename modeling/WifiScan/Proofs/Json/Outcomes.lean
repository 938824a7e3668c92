import WifiScan.Json.Codec
import WifiScan.Proofs.Json.Skipping

/-!
# What is read of a well-formed value

What a reader makes of a well-formed value depends on the value alone: not on the blanks before it,
nor on the text that follows (`Contained`). So a value is read within a list or an object as it is
by itself, and is refused there with the same fault. The readers of words, texts and numbers are
contained, and those of compound values are if the readers of their parts are.

## Proof strategy

The first character of a value says what kind of value it is. If that is the kind that a reader asks
for, the reader follows the grammar; if it is another, the reader finds the fault in the value
itself (`misfit_outcome`).
-/
namespace WifiScan.Json

variable {α β : Type}

/-- Reading a value comes to an outcome, whatever stands around the value. -/
def Yields (read : Reader α) (v : List Char) (out : Except Fault α) : Prop :=
  ∀ w more : List Char, Blank w → Ends more →
    read (w ++ (v ++ more)) = out.map fun a => (a, more)

/-- Reading a well-formed value comes to an outcome of the value alone. -/
def Contained (read : Reader α) : Prop := ∀ ⦃v : List Char⦄, ValueText v → ∃ out, Yields read v out

/-- What a text, given by its characters, is decoded as. -/
def Codec.valueOf (c : Codec α) (t : List Char) : Except Fault α := c.decode (String.ofList t)

/-- The outcome of a value is what it is decoded as by itself, with blanks around it or none. -/
theorem Yields.valueOf {c : Codec α} {v w w' : List Char} {out : Except Fault α}
    (yields : Yields c.read v out) (before : Blank w) (after : Blank w') :
    c.valueOf (w ++ (v ++ w')) = out := by
  have nothing : skipBlanks w' = [] := by
    have skipped := skipBlanks_append after []
    rw [List.append_nil] at skipped
    exact skipped
  simp only [Codec.valueOf, Codec.decode, readWhole, String.toList_ofList,
    yields w w' before (ends_blank after)]
  cases out with
  | error fault => rfl
  | ok a => simp only [Except.map, bind, Except.bind, nothing, pure, Except.pure]

theorem Yields.valueOf_self {c : Codec α} {v : List Char} {out : Except Fault α}
    (yields : Yields c.read v out) : c.valueOf v = out := by
  have decoded := yields.valueOf blank_nil blank_nil
  rwa [List.nil_append, List.append_nil] at decoded

theorem Contained.yields {c : Codec α} (contained : Contained c.read) {v : List Char}
    (value : ValueText v) : Yields c.read v (c.valueOf v) := by
  obtain ⟨out, yields⟩ := contained value
  rwa [yields.valueOf_self]

/-- An outcome that a rule turns into another one. -/
theorem Yields.bind {read : Reader α} {read' : Reader β} {v : List Char} {out : Except Fault α}
    (yields : Yields read v out) (next : α → Except Fault β)
    (reads : ∀ cs, read' cs = (do
      let (a, rest) ← read cs
      return (← next a, rest))) : Yields read' v (out.bind next) := by
  intro w more blank ends
  rw [reads, yields w more blank ends]
  cases out with
  | error fault => rfl
  | ok a =>
    cases value : next a <;>
      simp [Except.map, Bind.bind, Except.bind, value, pure, Except.pure]

/-! ### Texts in quotes and numbers -/

/-- The letters of a text in quotes are read, or refused for a surrogate that has no other half,
whatever follows the text. The second half of the statement is about a text that comes right after
the first half of a surrogate pair. -/
theorem readChars_outcome {t : List Char} (quoted : QuotedText t) :
    (∃ out : Except Fault (List Char), ∀ more,
      readChars .plain (t ++ more) = out.map fun r => (r, more)) ∧
    ∀ high, ∃ out : Except Fault (List Char), ∀ more,
      readChars (.pair high) (t ++ more) = out.map fun r => (r, more) := by
  have put {read : Except Fault (List Char × List Char)} {out : Except Fault (List Char)}
      {more : List Char} (c : Char) (eq : read = out.map fun r => (r, more)) :
      (read.map fun p => (c :: p.1, p.2)) = (out.map (c :: ·)).map fun r => (r, more) := by
    rw [eq]
    cases out <;> rfl
  induction quoted with
  | close => exact ⟨⟨.ok [], fun _ => rfl⟩, fun _ => ⟨.error .malformed, fun _ => rfl⟩⟩
  | @plain c t quote backslash printed _ ih =>
    obtain ⟨⟨out, read⟩, -⟩ := ih
    refine ⟨⟨out.map (c :: ·), fun more => ?_⟩, fun high => ⟨.error .malformed, fun more => ?_⟩⟩
    · simp only [List.cons_append, readChars, quote, backslash, printed, if_false]
      exact put c (read more)
    · simp only [List.cons_append, readChars, backslash, if_false]
      rfl
  | @escape c t letter _ ih =>
    obtain ⟨⟨out, read⟩, -⟩ := ih
    obtain ⟨d, short⟩ := Option.isSome_iff_exists.1 (unescape?_letter letter)
    have other : c ≠ 'u' := by
      rintro rfl
      simp at letter
    refine ⟨⟨out.map (d :: ·), fun more => ?_⟩, fun high => ⟨.error .malformed, fun more => ?_⟩⟩
    · simp only [List.cons_append, readChars, short]
      exact put d (read more)
    · simp only [List.cons_append, readChars, other, if_false]
      rfl
  | @unit a b c d t digits _ ih =>
    obtain ⟨⟨out, read⟩, paired⟩ := ih
    have other : unescape? 'u' = none := by decide
    obtain ⟨m, n, p, q, first, second, third, fourth⟩ := exists_digitValues digits
    generalize unit : 16 * (16 * (16 * (16 * 0 + m) + n) + p) + q = value
    constructor
    · -- A unit by itself, a second half in the first place, or the first half of a pair.
      by_cases low : isLowSurrogate value = true
      · refine ⟨.error .malformed, fun more => ?_⟩
        simp only [List.cons_append, readChars, other, first, second, third, fourth, unit, low]
        rfl
      · by_cases isHigh : isHighSurrogate value = true
        · obtain ⟨out, read⟩ := paired value
          refine ⟨out, fun more => ?_⟩
          simp only [List.cons_append, readChars, other, first, second, third, fourth, unit, low,
            isHigh, ← read more]
          rfl
        · refine ⟨out.map (Char.ofNat value :: ·), fun more => ?_⟩
          simp only [List.cons_append, readChars, other, first, second, third, fourth, unit, low,
            isHigh, ← put _ (read more)]
          rfl
    · intro high
      by_cases low : isLowSurrogate value = true
      · refine ⟨out.map (ofSurrogates high value :: ·), fun more => ?_⟩
        simp only [List.cons_append, readChars, first, second, third, fourth, unit, low,
          ← put _ (read more)]
        rfl
      · refine ⟨.error .malformed, fun more => ?_⟩
        simp only [List.cons_append, readChars, first, second, third, fourth, unit, low]
        rfl

theorem readNumber_outcome {t : List Char} (number : NumberText t) :
    ∃ out : Except Fault (Option Int), ∀ more, Ends more →
      readNumber (t ++ more) = out.map fun i => (i, more) := by
  obtain ⟨n, scanned⟩ := Numeral.scan_number number
  refine ⟨if n.isFinite then .ok n.integer? else .error .malformed, fun more ends => ?_⟩
  simp only [readNumber, scanned more ends]
  split <;> rfl

/-- The fault of a value of another type than is asked for. -/
theorem misfit_outcome {v : List Char} (value : ValueText v) :
    ∃ fault, ∀ more, Ends more → misfit (v ++ more) = fault := by
  cases value with
  | null => exact ⟨.mismatch, fun _ _ => rfl⟩
  | bool b => cases b <;> exact ⟨.mismatch, fun _ _ => rfl⟩
  | number number =>
    obtain ⟨out, read⟩ := readNumber_outcome number
    refine ⟨match out with | .error e => e | .ok _ => .mismatch, fun more ends => ?_⟩
    -- A number is read to its end, to find whether it is too large.
    have read := read more ends
    obtain ⟨c, cs, rfl, starts⟩ := number.starts
    unfold misfit
    split
    all_goals try (next same => cases (List.cons.inj same).1; cases starts)
    next same => cases same
    next same =>
      cases same
      rw [if_pos starts, read]
      cases out <;> rfl
  | text quoted =>
    obtain ⟨⟨out, read⟩, -⟩ := readChars_outcome quoted
    refine ⟨match out with | .error e => e | .ok _ => .mismatch, fun more _ => ?_⟩
    simp only [List.cons_append, misfit, read]
    cases out <;> rfl
  | list => exact ⟨.mismatch, fun _ _ => rfl⟩
  | object => exact ⟨.mismatch, fun _ _ => rfl⟩

/-- A reader that finds the fault of its type in a value. -/
theorem yields_misfit {read : Reader α} {v : List Char} (value : ValueText v)
    (falls : ∀ {w more : List Char}, Blank w →
      read (w ++ (v ++ more)) = .error (misfit (v ++ more))) :
    ∃ out, Yields read v out := by
  obtain ⟨fault, outcome⟩ := misfit_outcome value
  refine ⟨.error fault, fun w more blank ends => ?_⟩
  rw [falls blank, outcome more ends]
  rfl

/-! ### Words, texts and refinements -/

theorem readText_contained : Contained readText := by
  intro v value
  obtain ⟨c, t, rfl, -⟩ := value.starts
  by_cases own : c = '"'
  · subst own
    obtain ⟨⟨out, read⟩, -⟩ := readChars_outcome value.of_quote
    refine ⟨out.map String.ofList, fun w more blank _ => ?_⟩
    rw [readText, skipBlanks_value value blank]
    simp only [List.cons_append, read]
    cases out <;> rfl
  · apply yields_misfit value
    intro w more blank
    rw [readText, skipBlanks_value value blank]
    simp only [List.cons_append]
    split
    next same => exact absurd (List.cons.inj same).1 own
    next => rfl

theorem readInteger_contained : Contained readInteger := by
  intro v value
  obtain ⟨c, t, rfl, -⟩ := value.starts
  by_cases starts : startsNumber c = true
  · obtain ⟨out, read⟩ := readNumber_outcome (value.of_number starts)
    refine ⟨out.bind fun i => i.elim (.error .mismatch) .ok, fun w more blank ends => ?_⟩
    have read := read more ends
    rw [readInteger, skipBlanks_value value blank]
    simp only [List.cons_append, starts, if_true] at read ⊢
    rw [read]
    cases out with
    | error fault => rfl
    | ok i => cases i <;> rfl
  · apply yields_misfit value
    intro w more blank
    rw [readInteger, skipBlanks_value value blank]
    simp only [List.cons_append, starts]
    rfl

theorem readBool_contained : Contained readBool := by
  intro v value
  obtain ⟨c, t, rfl, -⟩ := value.starts
  by_cases own : c ∈ ['t', 'f']
  · obtain word | ⟨b, word⟩ := value.of_letter (List.mem_cons_of_mem _ own)
    · cases word
      simp at own
    · refine ⟨.ok b, fun w more blank _ => ?_⟩
      rw [readBool, skipBlanks_value value blank, word]
      cases b <;> rfl
  · simp only [List.mem_cons, List.not_mem_nil, or_false, not_or] at own
    apply yields_misfit value
    intro w more blank
    rw [readBool, skipBlanks_value value blank]
    simp only [List.cons_append]
    split
    next same => exact absurd (List.cons.inj same).1 own.1
    next same => exact absurd (List.cons.inj same).1 own.2
    next => rfl

theorem readNull_contained : Contained readNull := by
  intro v value
  obtain ⟨c, t, rfl, -⟩ := value.starts
  by_cases own : c = 'n'
  · obtain word | ⟨b, word⟩ := value.of_letter (own ▸ List.mem_cons_self)
    · refine ⟨.ok (), fun w more blank _ => ?_⟩
      rw [readNull, skipBlanks_value value blank, word]
      rfl
    · cases b <;> cases word <;> cases own
  · apply yields_misfit value
    intro w more blank
    rw [readNull, skipBlanks_value value blank]
    simp only [List.cons_append]
    split
    next same => exact absurd (List.cons.inj same).1 own
    next => rfl

namespace Codec

theorem integer_contained (ofInt? : Int → Option α) (toInt : α → Int) :
    Contained (integer ofInt? toInt).read := by
  intro v value
  obtain ⟨out, yields⟩ := readInteger_contained value
  refine ⟨_, yields.bind (fun i => (ofInt? i).elim (.error .mismatch) .ok) fun cs => ?_⟩
  apply bind_congr
  intro (i, rest)
  dsimp only
  cases ofInt? i <;> rfl

theorem refine_contained {c : Codec α} (contained : Contained c.read)
    (build : α → Except Fault β) (parts : β → α) : Contained (c.refine build parts).read := by
  intro v value
  obtain ⟨out, yields⟩ := contained value
  exact ⟨_, yields.bind build fun cs => rfl⟩

end Codec

/-! ### Names -/

/-- The name that the text of a name stands for. -/
def nameOf (k : List Char) : Except Fault String := Codec.text.valueOf ('"' :: k)

theorem readChars_name {k : List Char} (name : QuotedText k) (more : List Char) :
    ((readChars .plain (k ++ more)).map fun (r, rest) => (String.ofList r, rest)) =
      (nameOf k).map fun n => (n, more) := by
  obtain ⟨⟨out, read⟩, -⟩ := readChars_outcome name
  have alone : nameOf k = out.map String.ofList := by
    have whole := read []
    rw [List.append_nil] at whole
    have start : skipBlanks ('"' :: k) = '"' :: k := skipBlanks_cons rfl k
    simp only [nameOf, Codec.valueOf, Codec.decode, readWhole, String.toList_ofList, Codec.text,
      readText, start, whole]
    cases out <;> rfl
  rw [alone, read]
  cases out <;> rfl

theorem readText_name {k w : List Char} (name : QuotedText k) (blank : Blank w)
    (more : List Char) :
    readText (w ++ '"' :: (k ++ more)) = (nameOf k).map fun n => (n, more) := by
  simp only [readText, skipBlanks_blank blank (c := '"') rfl]
  exact readChars_name name more

end WifiScan.Json
