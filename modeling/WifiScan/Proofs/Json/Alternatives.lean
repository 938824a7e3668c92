import WifiScan.Proofs.Json.Outcomes

/-!
# Reading named alternatives

A name by itself is read as the alternative of the name, if that holds nothing. An object is read as
the alternative of its first member, which has to be the only one (`Alternative.readAny_object`). So
a type of named alternatives is contained if each of them is.
-/
namespace WifiScan.Json

variable {α β : Type}

namespace Alternative

/-- The alternative of the name that a text stands for. -/
def find (as : List (Alternative α)) (k : List Char) : Except Fault (Alternative α) := do
  match as.find? (·.name = (← nameOf k)) with
  | some a => return a
  | none => .error .mismatch

theorem readName_name {k w : List Char} (as : List (Alternative α)) (name : QuotedText k)
    (blank : Blank w) (more : List Char) :
    readName as (w ++ '"' :: (k ++ more)) = (find as k).map fun a => (a, more) := by
  simp only [readName, find, readText_name name blank]
  cases nameOf k with
  | error fault => rfl
  | ok n =>
    simp only [Except.map, bind, Except.bind]
    cases as.find? (·.name = n) <;> rfl

theorem closeObject_members {kvs : List (List Char × List Char)} {cs : List Char}
    (layout : MembersText false kvs cs) (more : List Char) :
    closeObject (cs ++ more) = if kvs = [] then .ok more else .error .malformed := by
  cases layout with
  | @nil _ w blank =>
    simp only [List.append_assoc, List.cons_append, List.nil_append, closeObject,
      skipBlanks_blank blank (c := '}') rfl, if_true]
  | cons gap =>
    cases gap with
    | next before after =>
      simp only [List.append_assoc, List.cons_append, closeObject,
        skipBlanks_blank before (c := ',') rfl, reduceCtorEq, if_false]
      rfl

theorem mem_of_find {as : List (Alternative α)} {k : List Char} {a : Alternative α}
    (found : find as k = .ok a) : a ∈ as := by
  unfold find at found
  cases named : nameOf k with
  | error fault => simp [named, bind, Except.bind] at found
  | ok n =>
    simp only [named, bind, Except.bind] at found
    split at found
    next first =>
      cases found
      exact List.mem_of_find?_eq_some first
    next => cases found

/-- A name by itself is read as the alternative of the name, if that holds nothing. -/
theorem readAny_name (as : List (Alternative α)) {k : List Char} (name : QuotedText k) :
    Yields (readAny as) ('"' :: k)
      ((find as k).bind fun a => a.bare?.elim (.error .mismatch) .ok) := by
  intro w more blank _
  have named := readName_name as name blank_nil more
  rw [readAny, List.cons_append, skipBlanks_blank blank (c := '"') rfl]
  simp only [List.nil_append] at named ⊢
  rw [named]
  cases find as k with
  | error fault => rfl
  | ok a =>
    simp only [Except.map, bind, Except.bind]
    cases a.bare? <;> rfl

/-- An object is read as the alternative of its first member, which has to be the only one. -/
theorem readAny_member {as : List (Alternative α)} {a : Alternative α} {k v cs : List Char}
    {kvs : List (List Char × List Char)} {out : Except Fault α} (found : find as k = .ok a)
    (layout : MembersText true ((k, v) :: kvs) cs) (yields : Yields a.read v out) :
    Yields (readAny as) ('{' :: cs)
      (out.bind fun x => if kvs = [] then .ok x else .error .malformed) := by
  intro w more blank _
  cases layout with
  | @cons _ _ _ _ before after cs _ gap name left right others =>
    cases gap with
    | first blank' =>
      have named := readName_name as name blank_nil
        (before ++ ':' :: (after ++ (v ++ (cs ++ more))))
      simp only [List.nil_append] at named
      simp only [readAny, List.append_assoc, List.cons_append,
        skipBlanks_blank blank (c := '{') rfl, skipBlanks_blank blank' (c := '"') rfl, named, found,
        skipColon, skipBlanks_blank left (c := ':') rfl, yields after _ right (others.ends more),
        Except.map, bind, Except.bind]
      cases out with
      | error fault => rfl
      | ok x =>
        simp only [closeObject_members others]
        -- Once the member is read, the closing brace has to follow.
        by_cases alone : kvs = []
        case pos => simp only [alone, if_true, pure, Except.pure]
        case neg => simp only [alone, if_false]

theorem readAny_object {as : List (Alternative α)} (parts : ∀ a ∈ as, Contained a.read)
    {kvs : List (List Char × List Char)} {cs : List Char} (layout : MembersText true kvs cs)
    (values : ∀ kv ∈ kvs, ValueText kv.2) : ∃ out, Yields (readAny as) ('{' :: cs) out := by
  cases kvs with
  | nil =>
    cases layout with
    | @nil _ w' blank' =>
      refine ⟨.error .malformed, fun w more blank _ => ?_⟩
      simp only [readAny, List.append_assoc, List.cons_append, List.nil_append,
        skipBlanks_blank blank (c := '{') rfl, skipBlanks_blank blank' (c := '}') rfl]
      rfl
  | cons kv kvs =>
    obtain ⟨k, v⟩ := kv
    cases found : find as k with
    | ok a =>
      obtain ⟨out, yields⟩ := parts a (mem_of_find found) (values (k, v) List.mem_cons_self)
      exact ⟨_, readAny_member found layout yields⟩
    | error fault =>
      -- A name that no alternative has is refused before its value is looked at.
      refine ⟨.error fault, fun w more blank _ => ?_⟩
      cases layout with
      | @cons _ _ _ _ before after cs _ gap name left right others =>
        cases gap with
        | first blank' =>
          have named := readName_name as name blank_nil
            (before ++ ':' :: (after ++ (v ++ (cs ++ more))))
          simp only [List.nil_append] at named
          simp only [readAny, List.append_assoc, List.cons_append,
            skipBlanks_blank blank (c := '{') rfl, skipBlanks_blank blank' (c := '"') rfl, named,
            found, Except.map, bind, Except.bind]

/-- Alternatives are contained if each of them is. -/
theorem readAny_contained {as : List (Alternative α)} (parts : ∀ a ∈ as, Contained a.read) :
    Contained (readAny as) := by
  intro v value
  obtain ⟨c, t, rfl, -⟩ := value.starts
  by_cases byName : c = '"'
  · subst byName
    exact ⟨_, readAny_name as value.of_quote⟩
  by_cases byMember : c = '{'
  · subst byMember
    obtain ⟨kvs, layout, values⟩ := value.of_brace
    exact readAny_object parts layout values
  · -- A value of any other kind is refused without a look at the rest of it.
    refine ⟨.error .malformed, fun w more blank _ => ?_⟩
    rw [readAny, skipBlanks_value value blank]
    simp only [List.cons_append]
    split
    next same => cases same
    next same => exact absurd (List.cons.inj same).1 byName
    next same => exact absurd (List.cons.inj same).1 byMember
    next => rfl

theorem plain_contained (name : String) (a : α) : Contained (plain name a).read := by
  intro v value
  obtain ⟨out, yields⟩ := readNull_contained value
  refine ⟨_, yields.bind (fun _ => .ok a) fun cs => ?_⟩
  simp only [plain]
  cases readNull cs <;> rfl

theorem holding_yields {c : Codec β} {v : List Char} {out : Except Fault β}
    (yields : Yields c.read v out) (name : String) (wrap : β → α) :
    Yields (holding name c wrap).read v (out.bind fun b => .ok (wrap b)) := by
  apply yields.bind
  intro cs
  simp only [holding]
  cases c.read cs <;> rfl

theorem holding_contained {c : Codec β} (contained : Contained c.read) (name : String)
    (wrap : β → α) : Contained (holding name c wrap).read := by
  intro v value
  obtain ⟨out, yields⟩ := contained value
  exact ⟨_, holding_yields yields name wrap⟩

end Alternative

theorem Codec.names_contained (name : α → String) (all : List α) :
    Contained (Codec.names name all).read := by
  apply Alternative.readAny_contained
  intro a member
  obtain ⟨b, -, rfl⟩ := List.mem_map.1 member
  exact Alternative.plain_contained (name b) b

end WifiScan.Json
