/-!
# Texts in the order of their bytes

Texts are compared character by character. Written in UTF-8 they are compared byte by byte, and that
comes to the same.

## Main result

`lt_iff_utf8_lt`: a text is less than another exactly if its bytes are.

## Proof strategy

Two different characters settle the comparison of what they are written as before either has ended
(`settles_utf8EncodeChar`). A character is written as a leading byte and then six bits at a time, so
the order of the characters of one length comes down to that of their leading bytes
(`InOrder.tail`). The leading bytes of longer characters are greater (`InOrder.join`).
-/
namespace WifiScan.Text

/-- The bytes of a text in UTF-8. -/
def utf8 (s : String) : List UInt8 := s.toUTF8.data.toList

/-- Bytes that come before others whatever follows the two. -/
def Settles (l m : List UInt8) : Prop := ∀ a b, l ++ a < m ++ b

theorem Settles.of_head {x y : UInt8} (less : x < y) (l m : List UInt8) :
    Settles (x :: l) (y :: m) :=
  fun _ _ => List.cons_lt_cons_iff.2 (Or.inl less)

theorem Settles.of_last {x y : UInt8} (less : x < y) (l : List UInt8) :
    Settles (l ++ [x]) (l ++ [y]) := by
  intro a b
  induction l with
  | nil => exact List.cons_lt_cons_iff.2 (Or.inl less)
  | cons z l ih => exact List.cons_lt_cons_iff.2 (Or.inr ⟨rfl, ih⟩)

theorem Settles.append {l m : List UInt8} (settles : Settles l m) (l' m' : List UInt8) :
    Settles (l ++ l') (m ++ m') := by
  intro a b
  rw [List.append_assoc, List.append_assoc]
  exact settles (l' ++ a) (m' ++ b)

/-! ### Numbers written in bytes -/

/-- A leading byte: the digit of a number to some base, above an offset. -/
def lead (base offset v : Nat) : List UInt8 := [.ofNat (v % base + offset)]

/-- A number without its last six bits, and then these. -/
def tail (write : Nat → List UInt8) (v : Nat) : List UInt8 :=
  write (v / 64) ++ [.ofNat (v % 64 + 128)]

/-- The numbers below a bound in one way, and the others in another. -/
def join (bound : Nat) (short long : Nat → List UInt8) (v : Nat) : List UInt8 :=
  if v < bound then short v else long v

/-- Numbers are written with a first byte in a range, and of two below a bound the lesser is written
so that it comes first. -/
structure InOrder (low high bound : Nat) (write : Nat → List UInt8) : Prop where
  led : ∀ v, ∃ x l, write v = x :: l ∧ low ≤ x.toNat ∧ x.toNat < high
  settled : ∀ v w, v < w → w < bound → Settles (write v) (write w)

private theorem ofNat_lt {m n : Nat} (less : m < n) (byte : n < 256) :
    UInt8.ofNat m < UInt8.ofNat n := by
  rw [UInt8.lt_iff_toNat_lt, UInt8.toNat_ofNat', UInt8.toNat_ofNat']
  omega

theorem inOrder_lead {base offset : Nat} (some : 0 < base) (byte : offset + base ≤ 256) :
    InOrder offset (offset + base) base (lead base offset) where
  led v := by
    have digit := Nat.mod_lt v some
    refine ⟨_, [], rfl, ?_⟩
    rw [UInt8.toNat_ofNat']
    omega
  settled v w less below := by
    -- Below the base a number is its own digit.
    have digit : w % base = w := Nat.mod_eq_of_lt below
    have digit' : v % base = v := Nat.mod_eq_of_lt (Nat.lt_trans less below)
    refine .of_head (ofNat_lt ?_ ?_) [] []
    · omega
    · omega

namespace InOrder

variable {low high low' high' bound bound' : Nat} {write write' : Nat → List UInt8}

theorem tail (inOrder : InOrder low high bound write) :
    InOrder low high (bound * 64) (tail write) where
  led v := by
    obtain ⟨x, l, written, range⟩ := inOrder.led (v / 64)
    exact ⟨x, l ++ [.ofNat (v % 64 + 128)], by rw [Text.tail, written, List.cons_append], range⟩
  settled v w less below := by
    rcases Nat.lt_or_ge (v / 64) (w / 64) with before | within
    · exact (inOrder.settled _ _ before (by omega)).append _ _
    · -- The numbers differ in their last six bits only.
      have same : v / 64 = w / 64 := by omega
      simp only [Text.tail, same]
      exact .of_last (ofNat_lt (by omega) (by omega)) _

theorem join (short : InOrder low high bound write) (long : InOrder low' high' bound' write')
    (above : high ≤ low') : InOrder low high' bound' (join bound write write') where
  led v := by
    obtain ⟨x, l, written, range⟩ := short.led v
    obtain ⟨y, m, written', range'⟩ := long.led v
    unfold Text.join
    split
    · exact ⟨x, l, written, by omega⟩
    · exact ⟨y, m, written', by omega⟩
  settled v w less below := by
    unfold Text.join
    split
    next =>
      split
      next inside => exact short.settled v w less inside
      next =>
        -- One is short and the other long, so that their leading bytes tell.
        obtain ⟨x, l, written, range⟩ := short.led v
        obtain ⟨y, m, written', range'⟩ := long.led w
        rw [written, written']
        exact .of_head (UInt8.lt_iff_toNat_lt.2 (by omega)) l m
    next outside =>
      rw [if_neg (by omega)]
      exact long.settled v w less below

end InOrder

/-! ### Characters and texts -/

theorem utf8EncodeChar_eq (c : Char) :
    String.utf8EncodeChar c =
      join 0x80 (lead 0x80 0)
        (join 0x800 (tail (lead 0x20 0xc0))
          (join 0x10000 (tail (tail (lead 0x10 0xe0))) (tail (tail (tail (lead 8 0xf0))))))
        c.toNat := by
  simp only [String.utf8EncodeChar, join, lead, tail, Nat.div_div_eq_div_mul, ← Nat.lt_succ_iff,
    Char.toNat, List.cons_append, List.nil_append, Nat.add_zero]
  split
  next one => rw [Nat.mod_eq_of_lt one]
  next => rfl

theorem settles_utf8EncodeChar {c d : Char} (less : c < d) :
    Settles (String.utf8EncodeChar c) (String.utf8EncodeChar d) := by
  have one : InOrder 0 (0 + 0x80) 0x80 (lead 0x80 0) := inOrder_lead (by decide) (by decide)
  have two : InOrder 0xc0 (0xc0 + 0x20) (0x20 * 64) (tail (lead 0x20 0xc0)) :=
    (inOrder_lead (by decide) (by decide)).tail
  have three : InOrder 0xe0 (0xe0 + 0x10) (0x10 * 64 * 64) (tail (tail (lead 0x10 0xe0))) :=
    (inOrder_lead (by decide) (by decide)).tail.tail
  have four : InOrder 0xf0 (0xf0 + 8) (8 * 64 * 64 * 64) (tail (tail (tail (lead 8 0xf0)))) :=
    (inOrder_lead (by decide) (by decide)).tail.tail.tail
  -- Joined from the longest down, each with leading bytes below those of the longer ones.
  have all := one.join (two.join (three.join four (by decide)) (by decide)) (by decide)
  have inRange : d.toNat < 8 * 64 * 64 * 64 := by
    have valid := d.valid
    simp only [UInt32.isValidChar, Nat.isValidChar] at valid
    unfold Char.toNat
    omega
  rw [utf8EncodeChar_eq, utf8EncodeChar_eq]
  exact all.settled c.toNat d.toNat less inRange

theorem utf8_eq (s : String) : utf8 s = s.toList.flatMap String.utf8EncodeChar := by
  have written : (String.ofList s.toList).toByteArray = s.toList.utf8Encode :=
    String.toByteArray_ofList
  rw [String.ofList_toList] at written
  rw [utf8, String.toUTF8_eq_toByteArray, written, List.utf8Encode, List.toList_data_toByteArray]

theorem flatMap_utf8EncodeChar_lt {cs ds : List Char} (less : cs < ds) :
    cs.flatMap String.utf8EncodeChar < ds.flatMap String.utf8EncodeChar := by
  induction less with
  | @nil d ds =>
    -- A character has at least one byte.
    obtain ⟨x, l, written⟩ := List.exists_cons_of_ne_nil (String.utf8EncodeChar_ne_nil (c := d))
    rw [List.flatMap_cons, written]
    exact List.nil_lt_cons ..
  | rel before => exact settles_utf8EncodeChar before _ _
  | cons _ ih =>
    rw [List.flatMap_cons, List.flatMap_cons]
    exact List.append_left_lt ih

/-- A text is less than another exactly if its bytes are. -/
theorem lt_iff_utf8_lt {s t : String} : s < t ↔ utf8 s < utf8 t := by
  have forward {s t : String} (less : s < t) : utf8 s < utf8 t := by
    rw [utf8_eq, utf8_eq]
    exact flatMap_utf8EncodeChar_lt (String.lt_iff.1 less)
  constructor
  · exact forward
  · -- Both orders are total, so it is enough that the bytes keep that of the texts.
    intro less
    rcases Std.lt_trichotomy s t with before | rfl | after
    · exact before
    · exact absurd less (List.lt_irrefl _)
    · exact absurd less (List.lt_asymm (forward after))

end WifiScan.Text
