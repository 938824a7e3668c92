import WifiScan.Proofs.Json.GivenFields

/-!
# Faults of the fields that are given

Members that come to no record come to the fault of a text that a field refuses, or to the fault of
another type, which is that of a field missing or given twice (`outcome_fault`). The first such text
decides, whatever comes after it (`outcome_repeated`, `outcome_refused`).

## Proof strategy

A value that was put into a draft stays there, so a field that is given again is refused
(`holds_of_gather`). A field that has no value yet refuses a text with the fault of the text
(`exists_gather`).
-/
namespace WifiScan.Json.Fields

variable {ρ : Type}

theorem Accepts.not_refuses {fs : Fields ρ} {m : String × List Char} (accepts : fs.Accepts m)
    (fault : Fault) : ¬fs.Refuses m fault := by
  induction fs with
  | done => exact id
  | field name codec fallback rest ih =>
    rintro (⟨same, refused⟩ | ⟨-, refuses⟩)
    · obtain ⟨a, decoded⟩ := accepts.1 same
      rw [decoded] at refused
      cases refused
    · exact ih accepts.2 refuses

/-- A member is refused for a field that has its value, or with the fault of its own text. -/
theorem take_fault {fs : Fields ρ} {m : String × List Char} {d : fs.Draft} {fault : Fault}
    (failed : fs.take m.1 m.2 d = .error fault) : fault = .mismatch ∨ fs.Refuses m fault := by
  induction fs with
  | done => cases failed
  | field name codec fallback rest ih =>
    obtain ⟨own, d⟩ := d
    by_cases same : m.1 = name
    · simp only [take, same, if_true] at failed
      -- A field that has its value refuses every text; one that has none reads it.
      cases own with
      | some a =>
        cases failed
        exact Or.inl rfl
      | none =>
        cases decoded : codec.valueOf m.2 with
        | error e =>
          rw [decoded] at failed
          cases failed
          exact Or.inr (Or.inl ⟨same, decoded⟩)
        | ok a =>
          rw [decoded] at failed
          cases failed
    · simp only [take, same, if_false] at failed
      cases put : rest.take m.1 m.2 d with
      | error e =>
        rw [put] at failed
        cases failed
        exact (ih put).imp_right fun refuses => Or.inr ⟨same, refuses⟩
      | ok d' =>
        rw [put] at failed
        cases failed

theorem gather_fault {fs : Fields ρ} {ms : List (String × List Char)} {d : fs.Draft}
    {fault : Fault} (failed : fs.gather d ms = .error fault) :
    fault = .mismatch ∨ ∃ m ∈ ms, fs.Refuses m fault := by
  induction ms generalizing d with
  | nil => cases failed
  | cons m ms ih =>
    simp only [gather] at failed
    cases taken : fs.take m.1 m.2 d with
    | error e =>
      rw [taken] at failed
      cases failed
      exact (take_fault taken).imp_right fun refuses => ⟨m, List.mem_cons_self, refuses⟩
    | ok d' =>
      rw [taken] at failed
      refine (ih failed).imp_right ?_
      rintro ⟨m', member, refuses⟩
      exact ⟨m', List.mem_cons_of_mem _ member, refuses⟩

theorem finish_fault {fs : Fields ρ} {d : fs.Draft} {fault : Fault}
    (failed : fs.finish d = .error fault) : fault = .mismatch := by
  induction fs with
  | done => cases failed
  | field name codec fallback rest ih =>
    obtain ⟨own, d⟩ := d
    simp only [finish] at failed
    cases value : own.or fallback with
    | none =>
      rw [value] at failed
      cases failed
      rfl
    | some a =>
      cases finished : rest.finish d with
      | error e =>
        rw [value, finished] at failed
        cases failed
        exact ih finished
      | ok r =>
        rw [value, finished] at failed
        cases failed

/-- Members that come to no record have a text that a field refuses, or come to the fault of another
type. -/
theorem outcome_fault {fs : Fields ρ} {ms : List (String × List Char)} {fault : Fault}
    (failed : fs.outcome ms = .error fault) :
    fault = .mismatch ∨ ∃ m ∈ ms, fs.Refuses m fault := by
  unfold outcome at failed
  cases gathered : fs.gather fs.blank ms with
  | error e =>
    rw [gathered] at failed
    cases failed
    exact gather_fault gathered
  | ok d =>
    rw [gathered] at failed
    exact Or.inl (finish_fault failed)

/-- The field of a name has its value. -/
def Holds : {ρ : Type} → (fs : Fields ρ) → String → fs.Draft → Prop
  | _, .done => fun _ _ => False
  | _, @Fields.field α _ name _ _ rest => fun k (d : Option α × rest.Draft) =>
    if k = name then d.1.isSome = true else rest.Holds k d.2

theorem Holds.take_eq {fs : Fields ρ} {k : String} {d : fs.Draft} (holds : fs.Holds k d)
    (v : List Char) : fs.take k v d = .error .mismatch := by
  induction fs with
  | done => cases holds
  | field name codec fallback rest ih =>
    obtain ⟨own, d⟩ := d
    by_cases same : k = name
    · simp only [Holds, same, if_true] at holds
      obtain ⟨a, rfl⟩ := Option.isSome_iff_exists.1 holds
      simp only [Fields.take, same, if_true]
    · simp only [Holds, same, if_false] at holds
      simp only [Fields.take, same, if_false, ih holds]
      rfl

/-- A value that was put into a draft stays there. -/
theorem holds_of_take {fs : Fields ρ} {k k' : String} {v : List Char} {d d' : fs.Draft}
    (held : k ∈ fs.names ∧ k' = k ∨ fs.Holds k d) (taken : fs.take k' v d = .ok d') :
    fs.Holds k d' := by
  induction fs with
  | done =>
    rcases held with ⟨own, -⟩ | holds
    · cases own
    · cases holds
  | field name codec fallback rest ih =>
    obtain ⟨own, d⟩ := d
    by_cases named : k' = name
    · simp only [take, named, if_true] at taken
      -- The value that is put here is that of this field, which had none.
      cases own with
      | some a => cases taken
      | none =>
        cases decoded : codec.valueOf v with
        | error fault => rw [decoded] at taken; cases taken
        | ok a =>
          rw [decoded] at taken
          cases taken
          by_cases same : k = name
          · simp only [Holds, same, if_true, Option.isSome_some]
          · simp only [Holds, same, if_false] at held ⊢
            rcases held with ⟨-, rfl⟩ | holds
            · exact absurd named same
            · exact holds
    · -- It is put behind this field, which keeps what it has.
      simp only [take, named, if_false] at taken
      cases put : rest.take k' v d with
      | error fault => rw [put] at taken; cases taken
      | ok d'' =>
        rw [put] at taken
        cases taken
        by_cases same : k = name
        · simp only [Holds, same, if_true] at held ⊢
          rcases held with ⟨-, rfl⟩ | holds
          · exact absurd rfl named
          · exact holds
        · simp only [Holds, same, if_false] at held ⊢
          exact ih (held.imp_left (And.imp_left fun own =>
            (List.mem_cons.1 own).resolve_left same)) put

theorem holds_of_gather {fs : Fields ρ} {ms : List (String × List Char)} {k : String}
    {d d' : fs.Draft} (held : k ∈ fs.names ∧ k ∈ ms.map Prod.fst ∨ fs.Holds k d)
    (gathered : fs.gather d ms = .ok d') : fs.Holds k d' := by
  induction ms generalizing d with
  | nil =>
    cases gathered
    rcases held with ⟨-, nowhere⟩ | holds
    · cases nowhere
    · exact holds
  | cons m ms ih =>
    simp only [gather] at gathered
    cases taken : fs.take m.1 m.2 d with
    | error fault => rw [taken] at gathered; cases gathered
    | ok d'' =>
      rw [taken] at gathered
      refine ih ?_ gathered
      rcases held with ⟨own, here | later⟩ | holds
      · exact Or.inr (holds_of_take (Or.inl ⟨own, rfl⟩) taken)
      · exact Or.inl ⟨own, by assumption⟩
      · exact Or.inr (holds_of_take (Or.inr holds) taken)

theorem gather_append (fs : Fields ρ) (d : fs.Draft) (ms ms' : List (String × List Char)) :
    fs.gather d (ms ++ ms') = (fs.gather d ms).bind fun d' => fs.gather d' ms' := by
  induction ms generalizing d with
  | nil => rfl
  | cons m ms ih =>
    simp only [List.cons_append, gather, bind, Except.bind]
    cases fs.take m.1 m.2 d with
    | error fault => rfl
    | ok d' => exact ih d'

/-- A field that is given again is refused, whatever comes after that. -/
theorem outcome_repeated {fs : Fields ρ} {front back : List (String × List Char)} {k : String}
    {v : List Char} (own : k ∈ fs.names) (earlier : k ∈ front.map Prod.fst)
    (accepts : ∀ m ∈ front, fs.Accepts m) :
    fs.outcome (front ++ (k, v) :: back) = .error .mismatch := by
  rw [outcome, gather_append]
  cases gathered : fs.gather fs.blank front with
  | error fault =>
    rcases gather_fault gathered with rfl | ⟨m, member, refuses⟩
    · rfl
    · exact absurd refuses ((accepts m member).not_refuses fault)
  | ok d =>
    have holds := holds_of_gather (Or.inl ⟨own, earlier⟩) gathered
    simp only [gather, holds.take_eq, bind, Except.bind]

/-- Once members are put into a draft, a field that has no value there refuses a text with the fault
of the text. -/
theorem exists_gather {fs : Fields ρ} (distinct : fs.names.Nodup)
    {ms : List (String × List Char)} (accepts : ∀ m ∈ ms, fs.Accepts m)
    (once : ∀ name ∈ fs.names, (textsOf name ms).length ≤ 1) :
    ∃ d, fs.gather fs.blank ms = .ok d ∧ ∀ {k : String} {v : List Char} {fault : Fault},
      textsOf k ms = [] → fs.Refuses (k, v) fault → fs.take k v d = .error fault := by
  induction fs with
  | done => exact ⟨(), gather_done ms, fun _ refuses => refuses.elim⟩
  | field name codec fallback rest ih =>
    obtain ⟨new, distinct⟩ := List.nodup_cons.1 distinct
    obtain ⟨decoded, others⟩ := accepts_field.1 accepts
    obtain ⟨d, gathered, refused⟩ :=
      ih distinct others fun other member => once other (List.mem_cons_of_mem _ member)
    have once := once name List.mem_cons_self
    -- The field has a value if a text was given for it, and none otherwise.
    obtain ⟨own, held, empty⟩ : ∃ own, hold codec none (textsOf name ms) = .ok own ∧
        (textsOf name ms = [] → own = none) := by
      generalize textsOf name ms = vs at decoded once
      match vs with
      | [] => exact ⟨none, rfl, fun _ => rfl⟩
      | [v] =>
        obtain ⟨a, value⟩ := decoded v List.mem_cons_self
        exact ⟨some a, by simp only [hold, value, bind, Except.bind], fun none_ => by cases none_⟩
      | _ :: _ :: _ => simp at once
    refine ⟨(own, d), (gather_field new).2 ⟨held, gathered⟩, fun {k v fault} none_ refuses => ?_⟩
    rcases refuses with ⟨same, refuses⟩ | ⟨other, refuses⟩
    · subst same
      simp only [take, if_true, empty none_]
      exact congrArg (Except.map _) refuses
    · have other : k ≠ name := other
      simp only [take, other, if_false, refused none_ refuses]
      rfl

theorem Refuses.mem {fs : Fields ρ} {m : String × List Char} {fault : Fault}
    (refuses : fs.Refuses m fault) : m.1 ∈ fs.names := by
  induction fs with
  | done => exact refuses.elim
  | field name codec fallback rest ih =>
    rcases refuses with ⟨same, -⟩ | ⟨-, refuses⟩
    · exact same ▸ List.mem_cons_self
    · exact List.mem_cons_of_mem _ (ih refuses)

/-- The first text that a field refuses gives its fault, whatever comes after it. -/
theorem outcome_refused {fs : Fields ρ} (distinct : fs.names.Nodup)
    {front back : List (String × List Char)} {k : String} {v : List Char} {fault : Fault}
    (accepts : ∀ m ∈ front, fs.Accepts m)
    (once : ∀ name ∈ fs.names, (textsOf name (front ++ [(k, v)])).length ≤ 1)
    (refuses : fs.Refuses (k, v) fault) :
    fs.outcome (front ++ (k, v) :: back) = .error fault := by
  -- The fields hold what stands before, and the field of the name holds nothing.
  have before : ∀ name ∈ fs.names, (textsOf name front).length ≤ 1 := by
    intro name member
    have := once name member
    rw [textsOf_append, List.length_append] at this
    omega
  have first : textsOf k front = [] := by
    have := once k refuses.mem
    rw [textsOf_append, textsOf_cons_self, List.length_append, List.length_cons] at this
    exact List.length_eq_zero_iff.1 (by omega)
  obtain ⟨d, gathered, refused⟩ := exists_gather distinct accepts before
  rw [outcome, gather_append, gathered]
  simp only [gather, Except.bind, bind, refused first refuses]

end WifiScan.Json.Fields
