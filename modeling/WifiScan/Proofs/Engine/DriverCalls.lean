import WifiScan.Simulation.Driver

/-!
# What drivers answer for a class

The engine calls its driver for one class at a time. Some drivers answer for a class as if they had
never been called for the other (`AnswersAlone`). Virtual drivers do, because they keep the
frequencies of their last commands by class (`VirtualDriver.answersAlone`).
-/
namespace WifiScan

variable {σ : Type}

/-- Something that can change a driver: a call of the engine, or a change made from outside. -/
inductive DriverCall (σ : Type) where
  | command (scanClass : ScanClass) (frequencies : FrequencySet) (hidden : NetworkIds)
  | results (scanClass : ScanClass) (now : UInt64)
  | script (change : σ → σ)

namespace DriverCall

/-- Whether a call is made for a class; a change from outside concerns both. -/
def concerns (c : ScanClass) : DriverCall σ → Bool
  | command d .. | results d _ => d = c
  | script _ => true

variable [ScanDriver σ]

/-- The driver after a call. -/
def apply (d : σ) : DriverCall σ → σ
  | command c fs hidden => (ScanDriver.command d c fs hidden).2
  | results c now => (ScanDriver.results d c now).2
  | script change => change d

/-- The driver after calls in order. -/
def applyAll (d : σ) (qs : List (DriverCall σ)) : σ := qs.foldl apply d

theorem applyAll_append (d : σ) (qs rs : List (DriverCall σ)) :
    applyAll d (qs ++ rs) = applyAll (applyAll d qs) rs :=
  List.foldl_append

end DriverCall

section Answers

variable [ScanDriver σ]

/-- Two states of a driver that answer alike whatever they are asked for a class. -/
structure SameAnswers (c : ScanClass) (d d' : σ) : Prop where
  interface : ScanDriver.interface d = ScanDriver.interface d'
  command : ∀ fs hidden,
    (ScanDriver.command d c fs hidden).1 = (ScanDriver.command d' c fs hidden).1
  results : ∀ now, (ScanDriver.results d c now).1 = (ScanDriver.results d' c now).1

/-- After any calls and any of some changes from outside, the driver answers for a class as if the
calls for the other class had not been made. -/
def AnswersAlone (c : ScanClass) (changes : (σ → σ) → Prop) (d : σ) : Prop :=
  ∀ qs : List (DriverCall σ), (∀ change, .script change ∈ qs → changes change) →
    SameAnswers c (DriverCall.applyAll d qs) (DriverCall.applyAll d (qs.filter (·.concerns c)))

theorem AnswersAlone.mono {c : ScanClass} {changes more : (σ → σ) → Prop} {d : σ}
    (alone : AnswersAlone c more d) (fewer : ∀ change, changes change → more change) :
    AnswersAlone c changes d :=
  fun qs known => alone qs fun change member => fewer change (known change member)

end Answers

namespace VirtualDriver

/-- What can be changed about a virtual driver from outside. -/
inductive Change where
  | accepting (value : Bool)
  | accessPoint (ap : VirtualAccessPoint)
  | accessPoints (aps : List VirtualAccessPoint)
  | stale (result : ScanResult)
  deriving DecidableEq

def Change.apply (d : VirtualDriver) : Change → VirtualDriver
  | accepting value => d.setAccepting value
  | accessPoint ap => d.addAccessPoint ap
  | accessPoints aps => d.setAccessPoints aps
  | stale result => d.addStale result

/-- Whether a function on drivers is such a change. -/
def IsChange (f : VirtualDriver → VirtualDriver) : Prop :=
  ∃ change : Change, f = fun d => change.apply d

/-- Virtual drivers that differ at most in what they remember of the other class, and of
commands. -/
structure AlikeFor (c : ScanClass) (d d' : VirtualDriver) : Prop where
  interface : d.interface = d'.interface
  accepting : d.accepting = d'.accepting
  accessPoints : d.accessPoints = d'.accessPoints
  stale : d.stale = d'.stale
  lastFrequencies : d.lastFrequencies.get c = d'.lastFrequencies.get c

namespace AlikeFor

variable {c : ScanClass} {d d' : VirtualDriver}

theorem sameAnswers (alike : AlikeFor c d d') : SameAnswers c d d' where
  interface := alike.interface
  command fs hidden := by
    simp only [ScanDriver.command, command, alike.accepting]
    split <;> rfl
  results now := by
    simp only [ScanDriver.results, results, alike.lastFrequencies, alike.accessPoints, alike.stale]

theorem change (alike : AlikeFor c d d') {f : VirtualDriver → VirtualDriver} (known : IsChange f) :
    AlikeFor c (f d) (f d') := by
  obtain ⟨interface, accepting, accessPoints, stale, last⟩ := alike
  obtain ⟨change, rfl⟩ := known
  cases change with
  | accepting value => exact ⟨interface, rfl, accessPoints, stale, last⟩
  | accessPoint ap =>
    exact ⟨interface, accepting, congrArg (· ++ [ap]) accessPoints, stale, last⟩
  | accessPoints aps => exact ⟨interface, accepting, rfl, stale, last⟩
  | stale result => exact ⟨interface, accepting, accessPoints, congrArg (· ++ [result]) stale, last⟩

/-- A call for the class keeps drivers alike. -/
theorem call (alike : AlikeFor c d d') {q : DriverCall VirtualDriver} (own : q.concerns c = true)
    (known : ∀ f, q = .script f → IsChange f) :
    AlikeFor c (q.apply d) (q.apply d') := by
  cases q with
  | script f => exact alike.change (known f rfl)
  | results b now => exact alike
  | command b fs hidden =>
    obtain ⟨interface, accepting, accessPoints, stale, last⟩ := alike
    simp only [DriverCall.concerns, decide_eq_true_eq] at own
    subst own
    simp only [DriverCall.apply, ScanDriver.command, command, accepting]
    -- A taken command is remembered by both, and a refused one by neither.
    split
    · exact ⟨interface, rfl, accessPoints, stale, by simp only [PerClass.get_set_self]⟩
    · exact ⟨interface, rfl, accessPoints, stale, last⟩

/-- A call for the other class changes nothing that matters. -/
theorem call_left (alike : AlikeFor c d d') {q : DriverCall VirtualDriver}
    (other : q.concerns c = false) : AlikeFor c (q.apply d) d' := by
  cases q with
  | script change => cases other
  | results b now => exact alike
  | command b fs hidden =>
    obtain ⟨interface, accepting, accessPoints, stale, last⟩ := alike
    simp only [DriverCall.concerns, decide_eq_false_iff_not] at other
    simp only [DriverCall.apply, ScanDriver.command, command]
    split
    · -- The command is remembered for the other class.
      refine ⟨interface, accepting, accessPoints, stale, ?_⟩
      simp only [PerClass.get_set_of_ne _ _ (Ne.symm other), last]
    · exact ⟨interface, accepting, accessPoints, stale, last⟩

theorem calls (alike : AlikeFor c d d') (qs : List (DriverCall VirtualDriver))
    (known : ∀ f, .script f ∈ qs → IsChange f) :
    AlikeFor c (DriverCall.applyAll d qs) (DriverCall.applyAll d' (qs.filter (·.concerns c))) := by
  induction qs generalizing d d' with
  | nil => exact alike
  | cons q qs ih =>
    have rest : ∀ f, .script f ∈ qs → IsChange f := fun f member =>
      known f (List.mem_cons_of_mem _ member)
    cases own : q.concerns c with
    | true =>
      rw [List.filter_cons_of_pos own]
      refine ih (alike.call own fun f same => known f ?_) rest
      rw [same]
      exact List.mem_cons_self
    | false =>
      rw [List.filter_cons_of_neg (by simp [own])]
      exact ih (alike.call_left own) rest

end AlikeFor

/-- A virtual driver answers for each class without regard to the other. -/
theorem answersAlone (c : ScanClass) (d : VirtualDriver) : AnswersAlone c IsChange d :=
  fun qs known => (AlikeFor.calls ⟨rfl, rfl, rfl, rfl, rfl⟩ qs known).sameAnswers

end VirtualDriver

end WifiScan
