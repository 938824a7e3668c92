import WifiScan.Proofs.Json.FieldFaults

/-!
# Records by the fields that are given

## Main result

`Codec.Gathers.byFields`: what a record is decoded as depends on the texts that are given for its
fields alone, not on their order, nor on members of other names, nor on whether they are members of
an object or the first items of a list. If each field that has no fallback is given once and no
other more than once, the record has what the texts given are decoded as, and its fallbacks for the
rest; if one is missing or given twice, the text is refused as one of another type.

## Proof strategy

An object and a list that show the same members come to the same record (`Fields.read_shows`). What
it is, or which fault is found instead, is known of the members, so a codec that builds its value
from that record inherits it (`Codec.Gathers`).
-/
namespace WifiScan.Json

variable {α β ρ : Type}

namespace Fields

/-! ### Lists -/

theorem gather_later {name : String} {codec : Codec α} {fallback : Option α} {rest : Fields ρ}
    {ms : List (String × List Char)} (others : name ∉ ms.map Prod.fst) (own : Option α)
    (d : rest.Draft) :
    (field name codec fallback rest).gather (own, d) ms =
      (rest.gather d ms).map fun d' => (own, d') := by
  induction ms generalizing d with
  | nil => rfl
  | cons m ms ih =>
    simp only [List.map_cons, List.mem_cons, not_or] at others
    simp only [gather, take, Ne.symm others.1, if_false, bind, Except.bind]
    cases rest.take m.1 m.2 d with
    | error fault => rfl
    | ok d' => exact ih others.2 d'

/-- Items come to the same as members named as the fields in order. -/
theorem takeInOrder_eq_outcome {fs : Fields ρ} (distinct : fs.names.Nodup)
    {vs : List (List Char)} (atMost : vs.length ≤ fs.names.length) :
    fs.takeInOrder vs = fs.outcome (fs.names.zip vs) := by
  induction fs generalizing vs with
  | done =>
    rw [List.length_eq_zero_iff.1 (Nat.le_zero.1 atMost)]
    rfl
  | field name codec fallback rest ih =>
    obtain ⟨new, distinct⟩ := List.nodup_cons.1 distinct
    cases vs with
    | nil =>
      have others : rest.takeInOrder [] = rest.outcome (rest.names.zip []) :=
        ih distinct (Nat.zero_le _)
      rw [List.zip_nil_right] at others ⊢
      simp only [takeInOrder, others, outcome, gather, blank, finish, Except.bind, Option.none_or]
      cases fallback with
      | none => rfl
      | some a => cases rest.finish rest.blank <;> rfl
    | cons v vs =>
      have others := ih distinct (Nat.le_of_succ_le_succ atMost)
      -- No name that follows is that of this field, so the first item is the only one for it.
      have passed : name ∉ (rest.names.zip vs).map Prod.fst := by
        intro member
        obtain ⟨⟨k, u⟩, pair, rfl⟩ := List.mem_map.1 member
        exact new (List.of_mem_zip pair).1
      simp only [names, List.zip_cons_cons, takeInOrder, others, outcome, gather, take, blank,
        if_true, bind, Except.bind]
      cases codec.valueOf v with
      | error fault => rfl
      | ok a =>
        simp only [Except.map, gather_later passed]
        cases rest.gather rest.blank (rest.names.zip vs) with
        | error fault => rfl
        | ok d =>
          simp only [finish, Option.some_or]
          cases rest.finish d <;> rfl

theorem read_shows {fs : Fields ρ} (parts : fs.ContainedParts) (distinct : fs.names.Nodup)
    {ms : List (String × List Char)} {v : List Char} (shows_ : fs.Shows ms v) :
    Yields fs.read v (fs.outcome ms) := by
  cases shows_ with
  | object layout values names =>
    rw [outcome, ← takeAll_eq_gather names]
    exact object_yields parts layout values
  | list layout items atMost =>
    rw [← takeInOrder_eq_outcome distinct atMost]
    exact list_yields parts layout items

/-- The draft of a record all of whose fields have been read. -/
def full : {ρ : Type} → (fs : Fields ρ) → ρ → fs.Draft
  | _, .done, _ => ()
  | _, .field _ _ _ rest, (a, r) => (some a, rest.full r)

/-- The fallbacks of all fields. -/
def fallbacks : {ρ : Type} → (fs : Fields ρ) → fs.Draft
  | _, .done => ()
  | _, .field _ _ fallback rest => (fallback, rest.fallbacks)

end Fields

/-! ### Codecs -/

namespace Codec

variable {c : Codec α} {fs : Fields ρ} {build : ρ → Except Fault α}

/-- What is read of a value that shows members is built from the record that they come to. -/
def Gathers (c : Codec α) (fs : Fields ρ) (build : ρ → Except Fault α) : Prop :=
  ∀ ⦃ms : List (String × List Char)⦄ ⦃v : List Char⦄, fs.Shows ms v →
    Yields c.read v ((fs.outcome ms).bind build)

theorem record_gathers (parts : fs.ContainedParts) (distinct : fs.names.Nodup) (build : ρ → α)
    (split : α → ρ) : (record fs build split).Gathers fs fun r => .ok (build r) := by
  intro ms v shows_
  refine (Fields.read_shows parts distinct shows_).bind (fun r => .ok (build r)) fun cs => ?_
  simp only [record]
  cases fs.read cs <;> rfl

/-- A rule that is applied to the value after it is read is applied to what is built. -/
theorem Gathers.refine (gathers : c.Gathers fs build) (rule : α → Except Fault β) (parts : β → α) :
    (c.refine rule parts).Gathers fs fun r => (build r).bind rule := by
  intro ms v shows_
  have yields : Yields (c.refine rule parts).read v _ := (gathers shows_).bind rule fun cs => rfl
  cases come : fs.outcome ms with
  | error fault => rwa [come] at yields
  | ok r => rwa [come] at yields

/-- What a record is decoded as depends on the texts given for its fields alone. -/
structure ByFields (c : Codec α) (fs : Fields ρ) (build : ρ → Except Fault α) : Prop where
  /-- If the members are complete and their texts are decoded, the value is built from the record
  that they give. -/
  complete : ∀ {ms : List (String × List Char)} {t : List Char}, fs.Gives ms t → fs.Complete ms →
    (∀ m ∈ ms, fs.Accepts m) → ∃ r, fs.Given ms r ∧ c.valueOf t = build r
  /-- A text that leaves out a field without a fallback or gives a field twice is refused as one of
  another type, if the texts given for the fields are decoded. -/
  incomplete : ∀ {ms : List (String × List Char)} {t : List Char}, fs.Gives ms t →
    ¬fs.Complete ms → (∀ m ∈ ms, fs.Accepts m) → c.valueOf t = .error .mismatch
  /-- If they are not all decoded, it is refused all the same: as one of another type, or with the
  fault of one of them. -/
  incompleteAnyway : ∀ {ms : List (String × List Char)} {t : List Char}, fs.Gives ms t →
    ¬fs.Complete ms → ∃ fault, c.valueOf t = .error fault ∧
      (fault = .mismatch ∨ ∃ m ∈ ms, fs.Refuses m fault)
  /-- The second text of a field and what comes after it do not matter to that. -/
  repeated : ∀ {front back : List (String × List Char)} {k : String} {v t : List Char},
    fs.Gives (front ++ (k, v) :: back) t → k ∈ fs.names → k ∈ front.map Prod.fst →
    (∀ m ∈ front, fs.Accepts m) → c.valueOf t = .error .mismatch
  /-- Before a field is given twice, the first text that a field refuses gives its fault. -/
  refused : ∀ {front back : List (String × List Char)} {k : String} {v t : List Char}
    {fault : Fault}, fs.Gives (front ++ (k, v) :: back) t → (∀ m ∈ front, fs.Accepts m) →
    (∀ name ∈ fs.names, (textsOf name (front ++ [(k, v)])).length ≤ 1) →
    fs.Refuses (k, v) fault → c.valueOf t = .error fault
  /-- A text that is decoded gives a record from which its value is built. -/
  only : ∀ {ms : List (String × List Char)} {t : List Char} {a : α}, fs.Gives ms t →
    c.valueOf t = .ok a → ∃ r, fs.Given ms r ∧ build r = .ok a
  /-- Two texts that give the fields the same texts, in whatever order, among whatever other members
  and in an object or a list, are decoded as the same value. -/
  alike : ∀ {ms ms' : List (String × List Char)} {t t' : List Char}, fs.Gives ms t →
    fs.Gives ms' t' → (∀ name ∈ fs.names, textsOf name ms = textsOf name ms') →
    ∀ a, c.valueOf t = .ok a ↔ c.valueOf t' = .ok a

theorem Gathers.valueOf_eq (gathers : c.Gathers fs build) {ms : List (String × List Char)}
    {t : List Char} (gives : fs.Gives ms t) : c.valueOf t = (fs.outcome ms).bind build := by
  cases gives with
  | text before shows_ after => exact (gathers shows_).valueOf before after

theorem Gathers.valueOf_eq_ok_iff (gathers : c.Gathers fs build) (distinct : fs.names.Nodup)
    {ms : List (String × List Char)} {t : List Char} (gives : fs.Gives ms t) (a : α) :
    c.valueOf t = .ok a ↔ ∃ r, fs.Given ms r ∧ build r = .ok a := by
  rw [gathers.valueOf_eq gives]
  simp only [← Fields.outcome_eq_ok_iff distinct]
  cases fs.outcome ms <;> simp [Except.bind]

/-- Members that are not complete come to no record. -/
theorem Gathers.incomplete (gathers : c.Gathers fs build) (distinct : fs.names.Nodup)
    {ms : List (String × List Char)} {t : List Char} (gives : fs.Gives ms t)
    (incomplete : ¬fs.Complete ms) :
    ∃ fault, c.valueOf t = .error fault ∧ (fault = .mismatch ∨ ∃ m ∈ ms, fs.Refuses m fault) := by
  rw [gathers.valueOf_eq gives]
  cases come : fs.outcome ms with
  | error fault => exact ⟨fault, rfl, Fields.outcome_fault come⟩
  | ok r =>
    have given := (Fields.outcome_eq_ok_iff distinct).1 come
    exact absurd (Fields.exists_given_iff.1 ⟨r, given⟩).1 incomplete

theorem Gathers.byFields (gathers : c.Gathers fs build) (distinct : fs.names.Nodup) :
    c.ByFields fs build where
  complete {ms t} gives complete accepts := by
    obtain ⟨r, given⟩ := Fields.exists_given_iff.2 ⟨complete, accepts⟩
    refine ⟨r, given, ?_⟩
    rw [gathers.valueOf_eq gives, (Fields.outcome_eq_ok_iff distinct).2 given]
    rfl
  incomplete gives incomplete accepts := by
    obtain ⟨fault, failed, rfl | ⟨m, member, refuses⟩⟩ :=
      gathers.incomplete distinct gives incomplete
    · exact failed
    · -- No text is refused, so that the fault is that of a missing or repeated field.
      exact absurd refuses ((accepts m member).not_refuses fault)
  incompleteAnyway gives incomplete := gathers.incomplete distinct gives incomplete
  repeated gives own earlier accepts := by
    rw [gathers.valueOf_eq gives, Fields.outcome_repeated own earlier accepts]
    rfl
  refused gives accepts once refuses := by
    rw [gathers.valueOf_eq gives, Fields.outcome_refused distinct accepts once refuses]
    rfl
  only gives decoded := (gathers.valueOf_eq_ok_iff distinct gives _).1 decoded
  alike gives gives' same a := by
    rw [gathers.valueOf_eq_ok_iff distinct gives, gathers.valueOf_eq_ok_iff distinct gives']
    simp only [Fields.given_congr same]

end Codec

end WifiScan.Json
