import WifiScan.Proofs.Json.Numerals

/-!
# Well-formed texts

The texts that are values, whatever type is asked for: `ValueText v` says that `v` is one value from
its first character to its last. A list and an object show the texts they are made of, so that a law
about what is read of them can name these. Unlike the texts that the library writes, they may have
any number, any escape, and any blanks between their parts.
-/
namespace WifiScan.Json

/-! ### Numbers -/

inductive FractionText : List Char → Prop
  | absent : FractionText []
  | present {ds : List Char} (digits : Digits ds) : FractionText ('.' :: ds)

inductive ExponentText : List Char → Prop
  | absent : ExponentText []
  | present {mark : Char} {sign ds : List Char} (marked : mark = 'e' ∨ mark = 'E')
      (signed : sign = [] ∨ sign = ['+'] ∨ sign = ['-']) (digits : Digits ds) :
      ExponentText (mark :: (sign ++ ds))

/-- A number without its sign. -/
inductive UnsignedText : List Char → Prop
  | parts {ds fs es : List Char} (whole : WholeText ds) (fraction : FractionText fs)
      (exponent : ExponentText es) : UnsignedText (ds ++ (fs ++ es))

inductive NumberText : List Char → Prop
  | positive {t : List Char} (unsigned : UnsignedText t) : NumberText t
  | negative {t : List Char} (unsigned : UnsignedText t) : NumberText ('-' :: t)

/-! ### Texts in quotes -/

/-- The characters of a text in quotes, and the closing quote. Surrogates need not be paired. -/
inductive QuotedText : List Char → Prop
  | close : QuotedText ['"']
  | plain {c : Char} {t : List Char} (quote : c ≠ '"') (backslash : c ≠ '\\')
      (printed : ¬c.toNat < 0x20) (more : QuotedText t) : QuotedText (c :: t)
  | escape {c : Char} {t : List Char} (letter : c ∈ ['"', '\\', '/', 'b', 'f', 'n', 'r', 't'])
      (more : QuotedText t) : QuotedText ('\\' :: c :: t)
  | unit {a b c d : Char} {t : List Char}
      (digits : ∀ x ∈ [a, b, c, d], (Hex.digitValue? x).isSome = true) (more : QuotedText t) :
      QuotedText ('\\' :: 'u' :: a :: b :: c :: d :: t)

/-! ### Lists, objects and values -/

/-- Items with the closing bracket, from before the first item or after an earlier one. -/
inductive ItemsText : Bool → List (List Char) → List Char → Prop
  | nil {first : Bool} {w : List Char} (blank : Blank w) : ItemsText first [] (w ++ [']'])
  | cons {first : Bool} {v w cs : List Char} {vs : List (List Char)} (gap : Gap first w)
      (items : ItemsText false vs cs) : ItemsText first (v :: vs) (w ++ (v ++ cs))

/-- Members with the closing brace, from before the first member or after an earlier one. Each has
the text of its name, from after the opening quote on, and that of its value. -/
inductive MembersText : Bool → List (List Char × List Char) → List Char → Prop
  | nil {first : Bool} {w : List Char} (blank : Blank w) : MembersText first [] (w ++ ['}'])
  | cons {first : Bool} {k v w before after cs : List Char} {kvs : List (List Char × List Char)}
      (gap : Gap first w) (name : QuotedText k) (left : Blank before) (right : Blank after)
      (members : MembersText false kvs cs) :
      MembersText first ((k, v) :: kvs)
        (w ++ '"' :: (k ++ (before ++ ':' :: (after ++ (v ++ cs)))))

/-- A text is a well-formed value. -/
inductive ValueText : List Char → Prop
  | null : ValueText nullWord
  | bool (b : Bool) : ValueText (boolWord b)
  | number {t : List Char} (number : NumberText t) : ValueText t
  | text {t : List Char} (quoted : QuotedText t) : ValueText ('"' :: t)
  | list {vs : List (List Char)} {cs : List Char} (layout : ItemsText true vs cs)
      (items : ∀ v ∈ vs, ValueText v) : ValueText ('[' :: cs)
  | object {kvs : List (List Char × List Char)} {cs : List Char} (layout : MembersText true kvs cs)
      (values : ∀ kv ∈ kvs, ValueText kv.2) : ValueText ('{' :: cs)

/-! ### What texts start with, and what follows them -/

theorem NumberText.starts {t : List Char} (number : NumberText t) :
    ∃ c cs, t = c :: cs ∧ startsNumber c = true := by
  cases number with
  | positive unsigned =>
    obtain ⟨⟨digits, -⟩, -, -⟩ := unsigned
    obtain ⟨c, cs, rfl, digit⟩ := digits.starts
    exact ⟨c, _, rfl, by simp [startsNumber, digit]⟩
  | negative unsigned => exact ⟨'-', _, rfl, rfl⟩

/-- A value starts with a character that is neither blank nor a closing bracket. -/
theorem ValueText.starts {v : List Char} (value : ValueText v) :
    ∃ c cs, v = c :: cs ∧ isBlank c = false ∧ c ≠ ']' := by
  cases value with
  | null => exact ⟨'n', _, rfl, rfl, by decide⟩
  | bool b =>
    cases b with
    | true => exact ⟨'t', _, rfl, rfl, by decide⟩
    | false => exact ⟨'f', _, rfl, rfl, by decide⟩
  | number number =>
    obtain ⟨c, cs, rfl, starts⟩ := number.starts
    refine ⟨c, cs, rfl, solid_of_startsNumber starts, ?_⟩
    rintro rfl
    cases starts
  | text => exact ⟨'"', _, rfl, rfl, by decide⟩
  | list => exact ⟨'[', _, rfl, rfl, by decide⟩
  | object => exact ⟨'{', _, rfl, rfl, by decide⟩

theorem skipBlanks_value {v w : List Char} (value : ValueText v) (blank : Blank w)
    (more : List Char) : skipBlanks (w ++ (v ++ more)) = v ++ more := by
  obtain ⟨c, cs, rfl, solid, -⟩ := value.starts
  exact skipBlanks_blank blank solid (cs ++ more)

/-- Blanks and a mark that ends a number. -/
theorem ends_mark {w : List Char} (blank : Blank w) {c : Char} (mark : c = ',' ∨ c = ']' ∨ c = '}')
    (cs : List Char) : Ends (w ++ c :: cs) := by
  cases w with
  | nil => exact Or.inr mark
  | cons b w => exact Or.inl (blank b List.mem_cons_self)

theorem ends_blank {w : List Char} (blank : Blank w) : Ends w := by
  cases w with
  | nil => trivial
  | cons b w => exact Or.inl (blank b List.mem_cons_self)

/-- What comes after an item can follow a number. -/
theorem ItemsText.ends {vs : List (List Char)} {cs : List Char} (layout : ItemsText false vs cs)
    (more : List Char) : Ends (cs ++ more) := by
  cases layout with
  | nil blank =>
    rw [List.append_assoc]
    exact ends_mark blank (by simp) _
  | cons gap items =>
    cases gap with
    | next before after =>
      simp only [List.append_assoc, List.cons_append]
      exact ends_mark before (by simp) _

/-- What comes after a member can follow a number. -/
theorem MembersText.ends {kvs : List (List Char × List Char)} {cs : List Char}
    (layout : MembersText false kvs cs) (more : List Char) : Ends (cs ++ more) := by
  cases layout with
  | nil blank =>
    rw [List.append_assoc]
    exact ends_mark blank (by simp) _
  | cons gap name left right members =>
    cases gap with
    | next before after =>
      simp only [List.append_assoc, List.cons_append]
      exact ends_mark before (by simp) _

/-! ### Kinds of values -/

namespace ValueText

variable {t : List Char}

theorem of_quote (value : ValueText ('"' :: t)) : QuotedText t := by
  generalize same : '"' :: t = v at value
  cases value with
  | null => cases same
  | bool b => cases b <;> cases same
  | number number =>
    obtain ⟨c, cs, rfl, starts⟩ := number.starts
    cases same
    cases starts
  | text quoted => cases same; exact quoted
  | list => cases same
  | object => cases same

theorem of_bracket (value : ValueText ('[' :: t)) :
    ∃ vs, ItemsText true vs t ∧ ∀ v ∈ vs, ValueText v := by
  generalize same : '[' :: t = v at value
  cases value with
  | null => cases same
  | bool b => cases b <;> cases same
  | number number =>
    obtain ⟨c, cs, rfl, starts⟩ := number.starts
    cases same
    cases starts
  | text => cases same
  | list layout items => cases same; exact ⟨_, layout, items⟩
  | object => cases same

theorem of_brace (value : ValueText ('{' :: t)) :
    ∃ kvs, MembersText true kvs t ∧ ∀ kv ∈ kvs, ValueText kv.2 := by
  generalize same : '{' :: t = v at value
  cases value with
  | null => cases same
  | bool b => cases b <;> cases same
  | number number =>
    obtain ⟨c, cs, rfl, starts⟩ := number.starts
    cases same
    cases starts
  | text => cases same
  | list => cases same
  | object layout values => cases same; exact ⟨_, layout, values⟩

theorem of_number {c : Char} (value : ValueText (c :: t)) (starts : startsNumber c = true) :
    NumberText (c :: t) := by
  generalize same : c :: t = v at value
  cases value with
  | null => cases same; cases starts
  | bool b => cases b <;> cases same <;> cases starts
  | number number => exact number
  | text => cases same; cases starts
  | list => cases same; cases starts
  | object => cases same; cases starts

/-- A value whose first character is a letter is the word of the letter. -/
theorem of_letter {c : Char} (value : ValueText (c :: t)) (letter : c ∈ ['n', 't', 'f']) :
    c :: t = nullWord ∨ ∃ b, c :: t = boolWord b := by
  generalize same : c :: t = v at value
  cases value with
  | null => exact Or.inl rfl
  | bool b => exact Or.inr ⟨b, rfl⟩
  | number number =>
    obtain ⟨d, cs, rfl, starts⟩ := number.starts
    cases same
    simp only [List.mem_cons, List.not_mem_nil, or_false] at letter
    rcases letter with rfl | rfl | rfl <;> cases starts
  | text => cases same; simp at letter
  | list => cases same; simp at letter
  | object => cases same; simp at letter

end ValueText

end WifiScan.Json
