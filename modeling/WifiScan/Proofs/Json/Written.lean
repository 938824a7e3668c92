import WifiScan.Json.Reader
import WifiScan.Json.Value

/-!
# Written forms of values

`Written j cs rest` says that the text `cs` starts with a written form of `j` and goes on with
`rest`. It leaves open which blanks stand around brackets, commas, colons and items, so a law about
what is read of written values holds of both forms that the library writes (`compact_written`,
`indented_written`) and of texts laid out in any other way.
-/
namespace WifiScan.Json

/-! ### Blanks -/

def Blank (w : List Char) : Prop := ∀ c ∈ w, isBlank c = true

theorem blank_nil : Blank [] := by simp [Blank]

theorem blank_space : Blank [' '] := by simp [Blank, isBlank]

theorem blank_newline (depth : Nat) : Blank (newline depth) := by
  intro c member
  simp only [newline, List.mem_cons, List.mem_replicate] at member
  rcases member with rfl | ⟨-, rfl⟩ <;> rfl

theorem skipBlanks_append {w : List Char} (blank : Blank w) (cs : List Char) :
    skipBlanks (w ++ cs) = skipBlanks cs :=
  List.dropWhile_append_of_pos blank

theorem skipBlanks_cons {c : Char} (solid : isBlank c = false) (cs : List Char) :
    skipBlanks (c :: cs) = c :: cs :=
  List.dropWhile_cons_of_neg (by simp [solid])

/-- The first character that is not blank. -/
theorem skipBlanks_blank {w : List Char} {c : Char} (blank : Blank w) (solid : isBlank c = false)
    (cs : List Char) : skipBlanks (w ++ c :: cs) = c :: cs := by
  rw [skipBlanks_append blank, skipBlanks_cons solid]

/-! ### Written forms -/

/-- A text that can follow a number. -/
def Ends : List Char → Prop
  | [] => True
  | c :: _ => isBlank c = true ∨ c = ',' ∨ c = ']' ∨ c = '}'

/-- What stands before an item or a member: blanks, and a comma among them before all but the
first. -/
inductive Gap : Bool → List Char → Prop
  | first {w : List Char} (blank : Blank w) : Gap true w
  | next {w w' : List Char} (before : Blank w) (after : Blank w') : Gap false (w ++ ',' :: w')

mutual

/-- A text starts with a written form of a value and goes on with `rest`. -/
inductive Written : Json → List Char → List Char → Prop
  | null {rest : List Char} : Written .null (nullWord ++ rest) rest
  | bool {b : Bool} {rest : List Char} : Written (.bool b) (boolWord b ++ rest) rest
  | int {i : Int} {rest : List Char} (ends : Ends rest) : Written (.int i) (digits i ++ rest) rest
  | text {s : String} {rest : List Char} : Written (.text s) (quote s ++ rest) rest
  | list {js : List Json} {cs rest : List Char} (items : WrittenItems true js cs rest) :
      Written (.list js) ('[' :: cs) rest
  | object {ms : List (String × Json)} {cs rest : List Char}
      (members : WrittenMembers true ms cs rest) : Written (.object ms) ('{' :: cs) rest

/-- Items and the closing bracket, from before the first item or after an earlier one. -/
inductive WrittenItems : Bool → List Json → List Char → List Char → Prop
  | nil {first : Bool} {w rest : List Char} (blank : Blank w) :
      WrittenItems first [] (w ++ ']' :: rest) rest
  | cons {first : Bool} {j : Json} {js : List Json} {w cs mid rest : List Char} (gap : Gap first w)
      (item : Written j cs mid) (items : WrittenItems false js mid rest) :
      WrittenItems first (j :: js) (w ++ cs) rest

/-- Members and the closing brace, from before the first member or after an earlier one. -/
inductive WrittenMembers : Bool → List (String × Json) → List Char → List Char → Prop
  | nil {first : Bool} {w rest : List Char} (blank : Blank w) :
      WrittenMembers first [] (w ++ '}' :: rest) rest
  | cons {first : Bool} {k : String} {j : Json} {ms : List (String × Json)}
      {w before after cs mid rest : List Char} (gap : Gap first w) (left : Blank before)
      (right : Blank after) (value : Written j cs mid)
      (members : WrittenMembers false ms mid rest) :
      WrittenMembers first ((k, j) :: ms) (w ++ (quote k ++ (before ++ ':' :: (after ++ cs)))) rest

end

/-! ### The forms that the library writes -/

theorem gap_comma : Gap false [','] := .next blank_nil blank_nil

theorem gap_newline (depth : Nat) : Gap false (',' :: newline depth) :=
  .next blank_nil (blank_newline depth)

theorem ends_compactItems (js : List Json) (rest : List Char) : Ends (compactItems js ++ rest) := by
  cases js <;> simp [compactItems, Ends]

theorem ends_compactMembers (ms : List (String × Json)) (rest : List Char) :
    Ends (compactMembers ms ++ rest) := by
  cases ms <;> simp [compactMembers, Ends]

theorem ends_indentedItems (depth : Nat) (js : List Json) (rest : List Char) :
    Ends (indentedItems depth js ++ rest) := by
  cases js <;> simp [indentedItems, newline, Ends, isBlank]

theorem ends_indentedMembers (depth : Nat) (ms : List (String × Json)) (rest : List Char) :
    Ends (indentedMembers depth ms ++ rest) := by
  cases ms <;> simp [indentedMembers, newline, Ends, isBlank]

-- The proofs follow the writers, which write a value, and then its items or members one by one.
mutual

theorem compact_written (j : Json) {rest : List Char} (ends : Ends rest) :
    Written j (compact j ++ rest) rest := by
  match j with
  | null => simpa only [compact] using .null
  | bool b => simpa only [compact] using .bool
  | int i => simpa only [compact] using .int ends
  | text s => simpa only [compact] using .text
  | list [] => simpa only [compact] using .list (.nil blank_nil)
  | list (j :: js) =>
    -- A comma or a bracket comes next, which ends a number.
    have item := compact_written j (ends_compactItems js rest)
    have items := WrittenItems.cons (.first blank_nil) item (compactItems_written js rest)
    simpa only [compact, List.cons_append, List.append_assoc] using .list items
  | object [] => simpa only [compact] using .object (.nil blank_nil)
  | object ((k, j) :: ms) =>
    have value := compact_written j (ends_compactMembers ms rest)
    have members := WrittenMembers.cons (k := k) (.first blank_nil) blank_nil blank_nil value
      (compactMembers_written ms rest)
    simpa only [compact, List.cons_append, List.append_assoc] using .object members

theorem compactItems_written (js : List Json) (rest : List Char) :
    WrittenItems false js (compactItems js ++ rest) rest := by
  match js with
  | [] => simpa only [compactItems] using .nil blank_nil
  | j :: js =>
    have item := compact_written j (ends_compactItems js rest)
    simpa only [compactItems, List.cons_append, List.append_assoc] using
      .cons gap_comma item (compactItems_written js rest)

theorem compactMembers_written (ms : List (String × Json)) (rest : List Char) :
    WrittenMembers false ms (compactMembers ms ++ rest) rest := by
  match ms with
  | [] => simpa only [compactMembers] using .nil blank_nil
  | (k, j) :: ms =>
    have value := compact_written j (ends_compactMembers ms rest)
    have members := WrittenMembers.cons (k := k) gap_comma blank_nil blank_nil value
      (compactMembers_written ms rest)
    simpa only [compactMembers, List.cons_append, List.nil_append, List.append_assoc] using members

end

mutual

theorem indented_written (depth : Nat) (j : Json) {rest : List Char} (ends : Ends rest) :
    Written j (indented depth j ++ rest) rest := by
  match j with
  | null => simpa only [indented] using .null
  | bool b => simpa only [indented] using .bool
  | int i => simpa only [indented] using .int ends
  | text s => simpa only [indented] using .text
  | list [] => simpa only [indented] using .list (.nil blank_nil)
  | list (j :: js) =>
    have item := indented_written (depth + 1) j (ends_indentedItems depth js rest)
    simpa only [indented, List.cons_append, List.append_assoc] using
      .list (.cons (.first (blank_newline _)) item (indentedItems_written depth js rest))
  | object [] => simpa only [indented] using .object (.nil blank_nil)
  | object ((k, j) :: ms) =>
    have value := indented_written (depth + 1) j (ends_indentedMembers depth ms rest)
    simpa only [indented, List.cons_append, List.append_assoc] using
      .object (.cons (.first (blank_newline _)) blank_nil blank_space value
        (indentedMembers_written depth ms rest))

theorem indentedItems_written (depth : Nat) (js : List Json) (rest : List Char) :
    WrittenItems false js (indentedItems depth js ++ rest) rest := by
  match js with
  | [] =>
    simpa only [indentedItems, List.append_assoc] using .nil (blank_newline depth)
  | j :: js =>
    have item := indented_written (depth + 1) j (ends_indentedItems depth js rest)
    simpa only [indentedItems, List.cons_append, List.append_assoc] using
      .cons (gap_newline _) item (indentedItems_written depth js rest)

theorem indentedMembers_written (depth : Nat) (ms : List (String × Json)) (rest : List Char) :
    WrittenMembers false ms (indentedMembers depth ms ++ rest) rest := by
  match ms with
  | [] =>
    simpa only [indentedMembers, List.append_assoc] using .nil (blank_newline depth)
  | (k, j) :: ms =>
    have value := indented_written (depth + 1) j (ends_indentedMembers depth ms rest)
    simpa only [indentedMembers, List.cons_append, List.append_assoc] using
      .cons (gap_newline _) blank_nil blank_space value (indentedMembers_written depth ms rest)

end

end WifiScan.Json
