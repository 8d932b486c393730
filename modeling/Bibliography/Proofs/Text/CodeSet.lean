import Mathlib.Data.Nat.Bitwise
/-!
# Sets of code points

A set of code points is one number, whose bits tell what is in it. That two sets
do not meet, or that one lies in the other, is then settled by one operation on
numbers, for tables of some thousand entries.
-/

namespace Bibliography.Text

/-- A set of code points. -/
structure CodeSet where
  /-- The bit of each code point in the set is one. -/
  bits : Nat

namespace CodeSet

instance : Membership Nat CodeSet :=
  ⟨fun s n => s.bits.testBit n = true⟩

instance : Union CodeSet :=
  ⟨fun s t => ⟨s.bits ||| t.bits⟩⟩

/-- The set of the code points in closed ranges. -/
def ofRanges (ranges : List (Nat × Nat)) : CodeSet :=
  ⟨ranges.foldl (fun bits r => bits ||| (2 ^ (r.2 + 1 - r.1) - 1) <<< r.1) 0⟩

/-- The set of the code points that are listed for the members of a list. -/
def collect {α : Type} (f : α → List Nat) (as : List α) : CodeSet :=
  ⟨as.foldl (fun bits a => (f a).foldl (fun bits n => bits ||| 1 <<< n) bits) 0⟩

variable {s t : CodeSet} {n : Nat} {ranges : List (Nat × Nat)}

instance : Decidable (n ∈ s) :=
  inferInstanceAs (Decidable (_ = true))

theorem mem_union : n ∈ s ∪ t ↔ n ∈ s ∨ n ∈ t := by
  show (s.bits ||| t.bits).testBit n = true ↔ _
  rw [Nat.testBit_or, Bool.or_eq_true]
  exact Iff.rfl

/-- Bits that are put together one by one are those of the parts. -/
theorem testBit_foldl {α : Type} {put : Nat → α → Nat} {p : α → Prop} {as : List α}
    (hput : ∀ a ∈ as, ∀ bits, (put bits a).testBit n = true ↔ bits.testBit n = true ∨ p a)
    (bits : Nat) :
    (as.foldl put bits).testBit n = true ↔ bits.testBit n = true ∨ ∃ a ∈ as, p a := by
  induction as generalizing bits with
  | nil => simp
  | cons a as ih =>
    obtain ⟨ha, has⟩ := List.forall_mem_cons.1 hput
    rw [List.foldl_cons, ih has, ha, or_assoc]
    simp

theorem mem_ofRanges : n ∈ ofRanges ranges ↔ ∃ r ∈ ranges, r.1 ≤ n ∧ n ≤ r.2 := by
  have hput : ∀ r ∈ ranges, ∀ bits : Nat,
      (bits ||| (2 ^ (r.2 + 1 - r.1) - 1) <<< r.1).testBit n = true ↔
        bits.testBit n = true ∨ r.1 ≤ n ∧ n ≤ r.2 := by
    intro r _ bits
    rw [Nat.testBit_or, Bool.or_eq_true, Nat.testBit_shiftLeft, Nat.testBit_two_pow_sub_one,
      Bool.and_eq_true, decide_eq_true_iff, decide_eq_true_iff]
    exact or_congr_right (by omega)
  refine (testBit_foldl hput 0).trans ?_
  rw [Nat.zero_testBit]
  simp

theorem mem_collect {α : Type} {f : α → List Nat} {as : List α} :
    n ∈ collect f as ↔ ∃ a ∈ as, n ∈ f a := by
  have hbit : ∀ (ns : List Nat) (bits : Nat),
      (ns.foldl (fun bits n => bits ||| 1 <<< n) bits).testBit n = true ↔
        bits.testBit n = true ∨ ∃ m ∈ ns, n = m := by
    intro ns
    refine testBit_foldl fun m _ bits => ?_
    rw [Nat.testBit_or, Bool.or_eq_true, Nat.one_shiftLeft, Nat.testBit_two_pow,
      decide_eq_true_iff, @eq_comm _ m]
  refine (testBit_foldl (fun a _ bits => hbit (f a) bits) 0).trans ?_
  rw [Nat.zero_testBit]
  simp

/-! ## How sets lie -/

/-- Two sets that do not meet. -/
def Apart (s t : CodeSet) : Prop :=
  s.bits &&& t.bits = 0

/-- A set that lies in another one. -/
def Within (s t : CodeSet) : Prop :=
  s.bits &&& t.bits = s.bits

instance : Decidable (s.Apart t) :=
  inferInstanceAs (Decidable (_ = _))

instance : Decidable (s.Within t) :=
  inferInstanceAs (Decidable (_ = _))

theorem Apart.not_mem (h : s.Apart t) (ht : n ∈ t) : n ∉ s := by
  intro hs
  have hbit : (s.bits &&& t.bits).testBit n = true := by
    rw [Nat.testBit_and, Bool.and_eq_true]
    exact ⟨hs, ht⟩
  rw [h, Nat.zero_testBit] at hbit
  cases hbit

theorem Within.mem (h : s.Within t) (hs : n ∈ s) : n ∈ t := by
  have hbit : (s.bits &&& t.bits).testBit n = true := by
    rw [h]
    exact hs
  rw [Nat.testBit_and, Bool.and_eq_true] at hbit
  exact hbit.2

end CodeSet

end Bibliography.Text
