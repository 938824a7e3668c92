import WifiScan.Proofs.Format.RoundTrip
import WifiScan.Proofs.Json.Mapping

/-!
# Tables from lists

A table is made from three lists of frequencies, or read from a text that gives them. The
frequencies are gone through list by list, and the first one that was seen before is an error. What
was seen when the error comes is all of the lists before, and of the current list what is less; so
the error names the least frequency that two lists share.

## Main result

`tables_from_lists`: a table is made exactly from lists that share no frequency, and it keeps of
each list the ascending list of its members. Otherwise the least shared frequency is reported. A
text that gives the lists comes to the same.
-/
namespace WifiScan

open Json

/-- The least value with a property. -/
structure Least {α : Type} [LE α] (p : α → Prop) (a : α) : Prop where
  has : p a
  le : ∀ b, p b → a ≤ b

/-- The first member of an ascending set that a search finds is the least one. -/
theorem AscendingSet.find?_eq_some_iff {α : Type} [LT α] [LE α] [Std.IsLinearOrder α]
    [Std.LawfulOrderLT α] (s : AscendingSet α) (p : α → Bool) (a : α) :
    s.toList.find? p = some a ↔ Least (fun b => b ∈ s ∧ p b = true) a := by
  have least {b : α} (found : s.toList.find? p = some b) :
      Least (fun b => b ∈ s ∧ p b = true) b := by
    obtain ⟨own, before, after, split, none⟩ := List.find?_eq_some_iff_append.1 found
    have ascending := split ▸ s.ascending
    refine ⟨⟨List.mem_of_find?_eq_some found, own⟩, fun c ⟨member, own'⟩ => ?_⟩
    rw [← mem_toList, split] at member
    -- Those before the one found lack the property, and those after it are greater.
    rcases List.mem_append.1 member with early | late
    · simpa [own'] using none c early
    · rcases List.mem_cons.1 late with rfl | late
      · exact Std.le_refl c
      · have later := (List.pairwise_append.1 ascending).2.1
        exact Std.le_of_lt ((List.pairwise_cons.1 later).1 c late)
  constructor
  · exact least
  · intro own
    cases found : s.toList.find? p with
    | none => exact absurd own.has.2 (List.find?_eq_none.1 found a own.has.1)
    | some b =>
      have other := least found
      rw [Std.le_antisymm (other.le a own.has) (own.le b other.has)]

/-- A list has the same members as another, in strictly ascending order. -/
structure Ascends {α : Type} [LT α] (members l : List α) : Prop where
  ascending : l.Pairwise (· < ·)
  mem : ∀ a, a ∈ l ↔ a ∈ members

/-- The members of a list are put in strictly ascending order in one way. -/
theorem AscendingSet.toList_ofList_iff {members l : List Frequency} :
    (ofList members).toList = l ↔ Ascends members l := by
  constructor
  · rintro rfl
    exact ⟨(ofList members).ascending, fun f => mem_ofList⟩
  · intro own
    have same : ofList members = ⟨l, own.ascending⟩ :=
      ext_mem fun f => mem_ofList.trans (own.mem f).symm
    rw [same]

namespace FrequencyTable

/-! ### Going through the lists -/

/-- Adds a frequency to those seen before, unless it is one of them. -/
def see (seen : FrequencySet) (f : Frequency) : Except ChannelError FrequencySet :=
  if f ∈ seen then .error (.overlappingBands f) else .ok (seen.insert f)

/-- Adds the frequencies of a sub-band to those seen before, one after another. -/
def sweep (seen held : FrequencySet) : Except ChannelError FrequencySet :=
  held.toList.foldlM see seen

def sets (t : FrequencyTable) : FrequencySet × FrequencySet × FrequencySet :=
  (t.ghz24, t.ghz5, t.ghz5Dfs)

/-- The sets of three lists, unless a frequency is seen twice on going through them. -/
def sweepLists (ghz24 ghz5 ghz5Dfs : List Frequency) :
    Except ChannelError (FrequencySet × FrequencySet × FrequencySet) := do
  let low := .ofList ghz24
  let high := .ofList ghz5
  let dfs := .ofList ghz5Dfs
  let seen ← sweep ∅ low
  let seen ← sweep seen high
  let _ ← sweep seen dfs
  return (low, high, dfs)

/-- A list without repeats is gone through up to the first frequency that was seen before the list.
In the middle of the list more was seen, but none of what is to come. -/
private theorem foldlM_see (before : FrequencySet) (fs : List Frequency) (distinct : fs.Nodup)
    (seen : FrequencySet) (same : ∀ f ∈ fs, f ∈ seen ↔ f ∈ before) :
    fs.foldlM see seen =
      match fs.find? (· ∈ before) with
      | some f => .error (.overlappingBands f)
      | none => .ok (.ofList fs ∪ seen) := by
  induction fs generalizing seen with
  | nil => exact congrArg Except.ok (AscendingSet.ext_mem fun f => by simp)
  | cons f fs ih =>
    obtain ⟨new, distinct⟩ := List.nodup_cons.1 distinct
    rw [List.foldlM_cons, see]
    by_cases old : f ∈ before
    · have known := (same f List.mem_cons_self).2 old
      rw [if_pos known, List.find?_cons_of_pos (by simpa using old)]
      rfl
    · have unknown := fun known => old ((same f List.mem_cons_self).1 known)
      rw [if_neg unknown, List.find?_cons_of_neg (by simpa using old)]
      -- A list without repetitions does not meet its own frequencies again.
      have same' : ∀ g ∈ fs, g ∈ seen.insert f ↔ g ∈ before := fun g member => by
        have other : g ≠ f := fun again => new (again ▸ member)
        rw [AscendingSet.mem_insert, or_iff_right other, same g (List.mem_cons_of_mem f member)]
      have added : AscendingSet.ofList fs ∪ seen.insert f = .ofList (f :: fs) ∪ seen :=
        AscendingSet.ext_mem fun g => by
          simp only [AscendingSet.mem_union, AscendingSet.mem_ofList, AscendingSet.mem_insert,
            List.mem_cons, or_assoc, or_left_comm]
      exact (ih distinct (seen.insert f) same').trans (by rw [added])

theorem sweep_eq (seen held : FrequencySet) : sweep seen held =
    match held.toList.find? (· ∈ seen) with
    | some f => .error (.overlappingBands f)
    | none => .ok (held ∪ seen) := by
  have distinct : held.toList.Nodup := held.ascending.imp fun {f g} lt same => by
    subst same
    exact Std.lt_irrefl lt
  rw [sweep, foldlM_see seen _ distinct seen fun _ _ => Iff.rfl, AscendingSet.ofList_toList]

theorem ofSets_map_sets (a b c : FrequencySet) : (ofSets a b c).map sets =
    match shared? a b c with
    | some f => .error (.overlappingBands f)
    | none => .ok (a, b, c) := by
  unfold ofSets
  split
  next f shared => simp only [shared, Except.map]
  next none => simp only [none, Except.map, sets]

/-- Lists come to a table, or to an error, as they are gone through. -/
theorem ofLists_eq_sweepLists (a b c : List Frequency) :
    (ofLists a b c).map sets = sweepLists a b c := by
  -- Nothing was seen before the first list; the searches of `shared?` are those of the other two.
  have first (s : FrequencySet) : sweep ∅ s = .ok s := by
    rw [sweep_eq, List.find?_eq_none.2 (by simp)]
    exact congrArg Except.ok (AscendingSet.ext_mem fun f => by simp)
  rw [ofLists, ofSets_map_sets, shared?]
  simp only [sweepLists, first, sweep_eq, bind, Except.bind]
  cases (AscendingSet.ofList b).toList.find? (· ∈ AscendingSet.ofList a) with
  | some f => rfl
  | none =>
    simp only [Option.none_or, AscendingSet.mem_union, or_comm]
    cases (AscendingSet.ofList c).toList.find? _ <;> rfl

/-! ### What lists come to -/

variable {a b c : List Frequency} {t : FrequencyTable}

theorem ofLists_eq_ok_iff : ofLists a b c = .ok t ↔
    t.ghz24 = .ofList a ∧ t.ghz5 = .ofList b ∧ t.ghz5Dfs = .ofList c := by
  constructor
  · intro built
    have outcome := ofSets_map_sets (.ofList a) (.ofList b) (.ofList c)
    rw [← ofLists, built] at outcome
    split at outcome
    · cases outcome
    · simpa only [Except.map, sets, Except.ok.injEq, Prod.mk.injEq] using outcome
  · rintro ⟨low, high, dfs⟩
    rw [ofLists, ← low, ← high, ← dfs, t.ofSets_eq]

/-- A table is made exactly of lists that share no frequency. -/
theorem exists_ofLists_iff : (∃ t, ofLists a b c = .ok t) ↔
    (∀ f ∈ a, f ∉ b) ∧ (∀ f ∈ a, f ∉ c) ∧ ∀ f ∈ b, f ∉ c := by
  constructor
  · rintro ⟨t, built⟩
    obtain ⟨low, high, dfs⟩ := ofLists_eq_ok_iff.1 built
    have apart := t.ghz5_disjoint
    have apart' := t.ghz5Dfs_disjoint
    simp only [low, high, dfs, AscendingSet.mem_toList, AscendingSet.mem_ofList] at apart apart'
    exact ⟨fun f inA inB => apart f inB inA, fun f inA inC => (apart' f inC).1 inA,
      fun f inB inC => (apart' f inC).2 inB⟩
  · rintro ⟨low, dfs, high⟩
    refine ⟨⟨.ofList a, .ofList b, .ofList c, ?_, ?_⟩, ofLists_eq_ok_iff.2 ⟨rfl, rfl, rfl⟩⟩
    · simp only [AscendingSet.mem_toList, AscendingSet.mem_ofList]
      exact fun f inB inA => low f inA inB
    · simp only [AscendingSet.mem_toList, AscendingSet.mem_ofList]
      exact fun f inC => ⟨fun inA => dfs f inA inC, fun inB => high f inB inC⟩

/-- The frequency that three lists are refused for: the least one common to the first two, or else
the least one of the third that lies in one of them. -/
def FirstShared (a b c : List Frequency) (f : Frequency) : Prop :=
  Least (fun f => f ∈ a ∧ f ∈ b) f ∨
    (∀ f ∈ a, f ∉ b) ∧ Least (fun f => f ∈ c ∧ (f ∈ a ∨ f ∈ b)) f

theorem shared?_eq_some_iff {f : Frequency} :
    shared? (.ofList a) (.ofList b) (.ofList c) = some f ↔ FirstShared a b c f := by
  rw [shared?, Option.or_eq_some_iff, AscendingSet.find?_eq_some_iff,
    AscendingSet.find?_eq_some_iff, List.find?_eq_none]
  simp only [decide_eq_true_eq, AscendingSet.mem_toList, AscendingSet.mem_ofList, FirstShared]
  refine or_congr ?_ (and_congr_left fun _ => ?_)
  · simp only [and_comm]
  · exact forall_congr' fun f => imp_not_comm

theorem ofLists_eq_error_iff {e : ChannelError} :
    ofLists a b c = .error e ↔ ∃ f, e = .overlappingBands f ∧ FirstShared a b c f := by
  have outcome := ofSets_map_sets (.ofList a) (.ofList b) (.ofList c)
  rw [← ofLists] at outcome
  simp only [← shared?_eq_some_iff]
  constructor
  · intro refused
    rw [refused] at outcome
    split at outcome
    next f shared =>
      cases outcome
      exact ⟨f, rfl, shared⟩
    next => cases outcome
  · rintro ⟨f, rfl, shared⟩
    rw [shared] at outcome
    cases built : ofLists a b c with
    | error e =>
      rw [built] at outcome
      cases outcome
      rfl
    | ok t =>
      rw [built] at outcome
      cases outcome

/-- The least shared frequency is reported, not the one that is listed first. -/
example : ofLists [2437, 2412] [5180, 2437, 2412] [5180] = .error (.overlappingBands 2412) := rfl

/-! ### Lists in texts -/

/-- The fields of a table before the lists are checked. -/
def listFields : Fields (List Frequency × List Frequency × List Frequency × Unit) :=
  .field "band_24_ghz" (.list .uint32) none <|
  .field "band_5_ghz" (.list .uint32) none <|
  .field "band_5_ghz_dfs" (.list .uint32) none .done

/-- Reads and writes any three lists under the names of the sub-bands. -/
def listsCodec : Codec (List Frequency × List Frequency × List Frequency) :=
  .record listFields (fun (a, b, c, _) => (a, b, c)) fun (a, b, c) => (a, b, c, ())

theorem listsCodec_lawful : listsCodec.Lawful := by
  have list := Codec.list_lawful Codec.uint32_lawful
  have parts : listFields.LawfulParts := ⟨list, list, list, trivial⟩
  exact Codec.record_lawful ⟨parts, by decide⟩ fun _ => rfl

theorem codec_read_set (cs : List Char) : FrequencySet.codec.read cs =
    ((Codec.list .uint32).read cs).map (onValue AscendingSet.ofList) :=
  Codec.refine_ok_read ..

/-- The fields of a table are lists that become sets. -/
def listMapping : Fields.Mapping listFields fields :=
  .field "band_24_ghz" none .ofList codec_read_set <|
  .field "band_5_ghz" none .ofList codec_read_set <|
  .field "band_5_ghz_dfs" none .ofList codec_read_set .done

/-- A table is read where its lists are, and then made from them. -/
theorem codec_read (cs : List Char) : codec.read cs =
    (listsCodec.read cs).bind fun ((a, b, c), rest) =>
      ((ofLists a b c).mapError fun e => .refused e.message).map fun t => (t, rest) := by
  simp only [codec, Codec.refine, Codec.record, listsCodec, listMapping.read, bind]
  cases listFields.read cs with
  | error fault => rfl
  | ok out =>
    obtain ⟨⟨a, b, c, -⟩, rest⟩ := out
    change ((ofLists a b c).mapError _).bind _ = ((ofLists a b c).mapError _).map _
    cases ofLists a b c <;> rfl

end FrequencyTable

/-- What is decoded is what is read first, provided that only blanks follow. -/
theorem Json.Codec.decode_eq_ok_iff {α : Type} {c : Codec α} {text : String} {a : α} :
    c.decode text = .ok a ↔ ∃ rest, c.read text.toList = .ok (a, rest) ∧ skipBlanks rest = [] := by
  simp only [decode, readWhole, bind, Except.bind]
  cases c.read text.toList with
  | error fault => simp only [reduceCtorEq, false_and, exists_false]
  | ok out =>
    obtain ⟨b, rest⟩ := out
    simp only [Except.ok.injEq, Prod.mk.injEq, and_assoc, exists_and_left, exists_eq_left']
    split
    next blank => simp only [pure, Except.pure, Except.ok.injEq, blank, and_true]
    next more => simp only [reduceCtorEq, false_iff, not_and]; exact fun _ blank => more blank

namespace FrequencyTable

variable {a b c : List Frequency} {t : FrequencyTable} {text : String}

theorem codec_decode (given : listsCodec.decode text = .ok (a, b, c)) :
    codec.decode text = (ofLists a b c).mapError fun e => .refused e.message := by
  obtain ⟨rest, read, blank⟩ := Json.Codec.decode_eq_ok_iff.1 given
  have outcome : codec.read text.toList =
      ((ofLists a b c).mapError fun e => .refused e.message).map fun t => (t, rest) := by
    rw [codec_read, read]
    rfl
  cases built : ofLists a b c with
  | error e =>
    rw [built] at outcome
    rw [Codec.decode, readWhole, outcome]
    rfl
  | ok t =>
    rw [built] at outcome
    exact Json.Codec.decode_eq_ok_iff.2 ⟨rest, outcome, blank⟩

theorem exists_lists_of_decode (decoded : codec.decode text = .ok t) :
    ∃ a b c, listsCodec.decode text = .ok (a, b, c) ∧ ofLists a b c = .ok t := by
  obtain ⟨rest, read, blank⟩ := Json.Codec.decode_eq_ok_iff.1 decoded
  rw [codec_read] at read
  -- A fault of either step would be the fault of the whole.
  cases given : listsCodec.read text.toList with
  | error fault =>
    rw [given] at read
    cases read
  | ok out =>
    obtain ⟨⟨a, b, c⟩, rest'⟩ := out
    simp only [given, Except.bind] at read
    cases built : ofLists a b c with
    | error e =>
      rw [built] at read
      cases read
    | ok t' =>
      rw [built] at read
      cases read
      exact ⟨a, b, c, Json.Codec.decode_eq_ok_iff.2 ⟨rest, given, blank⟩, built⟩

/-- What comes of three lists, whether they are given or read from a text. -/
structure ComeToTables (a b c : List Frequency) : Prop where
  /-- Lists come to a table, or to an error, as they are gone through. -/
  swept : (ofLists a b c).map sets = sweepLists a b c
  built : (∃ t, ofLists a b c = .ok t) ↔
    (∀ f ∈ a, f ∉ b) ∧ (∀ f ∈ a, f ∉ c) ∧ ∀ f ∈ b, f ∉ c
  /-- Each sub-band of the table is the ascending list of the members of its list. -/
  normal : ∀ t, ofLists a b c = .ok t → ∀ l, (t.ghz24.toList = l ↔ Ascends a l) ∧
    (t.ghz5.toList = l ↔ Ascends b l) ∧ (t.ghz5Dfs.toList = l ↔ Ascends c l)
  /-- Lists with the same members come to the same table, or to the same error. -/
  same : ∀ a' b' c', (∀ f, f ∈ a' ↔ f ∈ a) → (∀ f, f ∈ b' ↔ f ∈ b) → (∀ f, f ∈ c' ↔ f ∈ c) →
    ofLists a' b' c' = ofLists a b c
  again : ∀ t, ofLists a b c = .ok t →
    ofLists t.ghz24.toList t.ghz5.toList t.ghz5Dfs.toList = .ok t
  refused : ∀ e, ofLists a b c = .error e ↔ ∃ f, e = .overlappingBands f ∧ FirstShared a b c f
  /-- The lists are decoded from each of their written forms. -/
  written : ∀ w cs w', Blank w → Written (listsCodec.toJson (a, b, c)) cs w' → Blank w' →
    listsCodec.decode (String.ofList (w ++ cs)) = .ok (a, b, c)
  /-- Where the lists are decoded, a table is decoded to what they come to. -/
  decoded : ∀ text, listsCodec.decode text = .ok (a, b, c) →
    codec.decode text = (ofLists a b c).mapError fun e => .refused e.message

/-- All lists come to tables as they are gone through, and no table is decoded but from lists. -/
theorem tables_from_lists : (∀ a b c, ComeToTables a b c) ∧
    ∀ text t, codec.decode text = .ok t →
      ∃ a b c, listsCodec.decode text = .ok (a, b, c) ∧ ofLists a b c = .ok t := by
  refine ⟨fun a b c => ?_, fun _ _ => exists_lists_of_decode⟩
  constructor
  case swept => exact ofLists_eq_sweepLists a b c
  case built => exact exists_ofLists_iff
  case normal =>
    intro t built l
    obtain ⟨low, high, dfs⟩ := ofLists_eq_ok_iff.1 built
    rw [low, high, dfs]
    exact ⟨AscendingSet.toList_ofList_iff, AscendingSet.toList_ofList_iff,
      AscendingSet.toList_ofList_iff⟩
  case same =>
    intro a' b' c' low high dfs
    have set {l l' : List Frequency} (mem : ∀ f, f ∈ l' ↔ f ∈ l) :
        AscendingSet.ofList l' = AscendingSet.ofList l :=
      AscendingSet.ext_mem fun f => by rw [AscendingSet.mem_ofList, AscendingSet.mem_ofList, mem]
    rw [ofLists, set low, set high, set dfs, ← ofLists]
  case again =>
    intro t _
    simp only [ofLists_eq_ok_iff, AscendingSet.ofList_toList, and_self]
  case refused => exact fun e => ofLists_eq_error_iff
  case written => exact fun w cs w' => listsCodec_lawful.decode_written
  case decoded => exact fun text => codec_decode

end FrequencyTable

end WifiScan
