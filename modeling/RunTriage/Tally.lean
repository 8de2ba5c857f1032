/-!
Contract: sums of counts.

Owns: the sum of a list of natural numbers, and how it behaves on lists that are put
together or reordered.
-/

namespace RunTriage

/-- The sum of numbers. -/
def total : List Nat → Nat
  | [] => 0
  | count :: rest => count + total rest

@[simp] theorem total_nil : total [] = 0 := rfl

@[simp] theorem total_cons (count : Nat) (rest : List Nat) :
    total (count :: rest) = count + total rest := rfl

theorem total_append (left right : List Nat) :
    total (left ++ right) = total left + total right := by
  induction left with
  | nil => simp
  | cons count rest inductionHypothesis => simp [inductionHypothesis]; omega

theorem total_perm {left right : List Nat} (same : left.Perm right) : total left = total right := by
  induction same with
  | nil => rfl
  | cons count _ inductionHypothesis => simp [inductionHypothesis]
  | swap first second rest => simp; omega
  | trans _ _ first second => exact first.trans second

end RunTriage
