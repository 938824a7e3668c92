/-!
# Request classes

Scans are requested in two classes, which never compete: each class has room for one request.
`PerClass` holds one value for each.
-/
namespace WifiScan

inductive ScanClass where
  | single
  | background
  deriving DecidableEq, Repr

namespace ScanClass

/-- Every class, the single scan first. -/
def all : List ScanClass := [single, background]

/-- The name shown to people. -/
def name : ScanClass → String
  | single => "single"
  | background => "background"

end ScanClass

structure PerClass (α : Type) where
  single : α
  background : α
  deriving DecidableEq, Repr

namespace PerClass

variable {α β : Type}

/-- The same value for both classes. -/
def both (a : α) : PerClass α := ⟨a, a⟩

def get (p : PerClass α) : ScanClass → α
  | .single => p.single
  | .background => p.background

def set (p : PerClass α) (c : ScanClass) (a : α) : PerClass α :=
  match c with
  | .single => { p with single := a }
  | .background => { p with background := a }

def map (f : α → β) (p : PerClass α) : PerClass β := ⟨f p.single, f p.background⟩

@[simp] theorem get_both (a : α) (c : ScanClass) : (both a).get c = a := by cases c <;> rfl

/-- Setting the value of a class leaves that of the other. -/
theorem get_set (p : PerClass α) (c d : ScanClass) (a : α) :
    (p.set c a).get d = if d = c then a else p.get d := by
  cases c <;> cases d <;> rfl

@[simp] theorem get_set_self (p : PerClass α) (c : ScanClass) (a : α) :
    (p.set c a).get c = a := by
  rw [get_set, if_pos rfl]

@[simp] theorem set_set (p : PerClass α) (c : ScanClass) (a b : α) :
    (p.set c a).set c b = p.set c b := by
  cases c <;> rfl

theorem get_set_of_ne (p : PerClass α) {c d : ScanClass} (a : α) (h : d ≠ c) :
    (p.set c a).get d = p.get d := by
  rw [get_set, if_neg h]

@[simp] theorem get_map (f : α → β) (p : PerClass α) (c : ScanClass) :
    (p.map f).get c = f (p.get c) := by
  cases c <;> rfl

theorem ext_get {p q : PerClass α} (h : ∀ c, p.get c = q.get c) : p = q := by
  cases p; cases q
  have h₁ := h .single
  have h₂ := h .background
  simp only [get] at h₁ h₂
  rw [h₁, h₂]

end PerClass

end WifiScan
