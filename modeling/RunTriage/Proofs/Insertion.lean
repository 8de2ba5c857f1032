import Mathlib.Data.List.ReduceOption
import RunTriage.Session.Layout

/-!
Contract: sequences with items inserted.

Owns:
- `insertFrom`, a sequence with further items before each of its positions;
- `OnlyGaps`, entries that stand for lines of anyone but the runner;
- what such insertions keep: the runner's lines in their order.

Does not own: how a stream with insertions is divided.
-/

namespace RunTriage.Session

/-! ## Insertion -/

section Insertion

variable {α β : Type}

/-- The items of a sequence that starts at a position, each with what is inserted behind it. -/
def widened (extra : Nat → List α) (position : Nat) : List α → List α
  | [] => []
  | item :: rest => item :: (extra (position + 1) ++ widened extra (position + 1) rest)

/-- A sequence that starts at a position, with the items `extra n` inserted before the item at
each position `n`, and also behind the last item. -/
def insertFrom (extra : Nat → List α) (position : Nat) (items : List α) : List α :=
  extra position ++ widened extra position items

variable (extra : Nat → List α)

theorem widened_cons (position : Nat) (item : α) (rest : List α) :
    widened extra position (item :: rest) = item :: insertFrom extra (position + 1) rest := rfl

theorem head?_widened (position : Nat) (items : List α) :
    (widened extra position items).head? = items.head? := by
  cases items <;> rfl

theorem widened_append (position : Nat) (front back : List α) :
    widened extra position (front ++ back) =
      widened extra position front ++ widened extra (position + front.length) back := by
  induction front generalizing position with
  | nil => rfl
  | cons item rest inductionHypothesis =>
    have shifted : position + 1 + rest.length = position + (item :: rest).length := by
      rw [List.length_cons]
      omega
    rw [List.cons_append, widened, inductionHypothesis, shifted, widened, List.cons_append,
      List.append_assoc]

theorem insertFrom_append (position : Nat) (front back : List α) :
    insertFrom extra position (front ++ back) =
      insertFrom extra position front ++ widened extra (position + front.length) back := by
  rw [insertFrom, widened_append, insertFrom, List.append_assoc]

variable {extra}

theorem mem_insertFrom {position : Nat} {items : List α} {item : α}
    (member : item ∈ insertFrom extra position items) :
    item ∈ items ∨ ∃ place, item ∈ extra place := by
  induction items generalizing position with
  | nil =>
    rw [insertFrom, widened, List.append_nil] at member
    exact .inr ⟨position, member⟩
  | cons first rest inductionHypothesis =>
    rw [insertFrom, widened_cons] at member
    rcases List.mem_append.mp member with inserted | behind
    · exact .inr ⟨position, inserted⟩
    · rcases List.mem_cons.mp behind with isFirst | later
      · exact .inl (isFirst ▸ List.mem_cons_self)
      · exact (inductionHypothesis later).imp_left (List.mem_cons_of_mem first)

theorem map_insertFrom (f : α → β) (position : Nat) (items : List α) :
    (insertFrom extra position items).map f =
      insertFrom (fun place => (extra place).map f) position (items.map f) := by
  induction items generalizing position with
  | nil => rw [insertFrom, List.map_append]; rfl
  | cons first rest inductionHypothesis =>
    rw [insertFrom, widened_cons, List.map_append, List.map_cons, inductionHypothesis]
    rfl

/-- Before the first insertion the sequence is as it was. -/
theorem insertFrom_eq_append (extra : Nat → List α) (position : Nat) {items : List α} {count : Nat}
    (within : count ≤ items.length)
    (nothing : ∀ place, position ≤ place → place < position + count → extra place = []) :
    insertFrom extra position items =
      items.take count ++ insertFrom extra (position + count) (items.drop count) := by
  induction count generalizing position items with
  | zero => rfl
  | succ count inductionHypothesis =>
    cases items with
    | nil => cases within
    | cons first rest =>
      have nothingHere : extra position = [] := nothing position (Nat.le_refl _) (by omega)
      have nothingLater (place : Nat) (least : position + 1 ≤ place)
          (most : place < position + 1 + count) : extra place = [] :=
        nothing place (by omega) (by omega)
      have shifted : position + 1 + count = position + (count + 1) := by omega
      rw [insertFrom, nothingHere, widened_cons,
        inductionHypothesis (position + 1) (Nat.le_of_succ_le_succ within) nothingLater, shifted]
      rfl

end Insertion

/-! ## Gaps -/

/-- All of the entries stand for lines that are not the runner's. -/
def OnlyGaps (entries : Transcript) : Prop := ∀ entry ∈ entries, entry = none

theorem OnlyGaps.nil : OnlyGaps [] := fun _ member => nomatch member

theorem OnlyGaps.reduceOption_eq {entries : Transcript} (gaps : OnlyGaps entries) :
    entries.reduceOption = [] := by
  induction entries with
  | nil => rfl
  | cons entry rest inductionHypothesis =>
    obtain ⟨rfl, restGaps⟩ := List.forall_mem_cons.mp gaps
    rw [List.reduceOption_cons_of_none]
    exact inductionHypothesis restGaps

section Gaps

variable {extra : Nat → Transcript} (gaps : ∀ place, OnlyGaps (extra place))

include gaps

theorem reduceOption_insertFrom (position : Nat) (entries : Transcript) :
    (insertFrom extra position entries).reduceOption = entries.reduceOption := by
  induction entries generalizing position with
  | nil =>
    rw [insertFrom, List.reduceOption_append, (gaps position).reduceOption_eq]
    rfl
  | cons first rest inductionHypothesis =>
    rw [insertFrom, widened_cons, List.reduceOption_append, (gaps position).reduceOption_eq,
      List.nil_append]
    cases first with
    | none =>
      rw [List.reduceOption_cons_of_none, List.reduceOption_cons_of_none, inductionHypothesis]
    | some text =>
      rw [List.reduceOption_cons_of_some, List.reduceOption_cons_of_some, inductionHypothesis]

theorem reduceOption_widened (position : Nat) (entries : Transcript) :
    (widened extra position entries).reduceOption = entries.reduceOption := by
  have inserted := reduceOption_insertFrom gaps position entries
  rw [insertFrom, List.reduceOption_append, (gaps position).reduceOption_eq,
    List.nil_append] at inserted
  exact inserted

/-- Behind entries that nothing is inserted between, the stream goes on with what is inserted
behind the last of them. -/
theorem drop_widened (position : Nat) {entries : Transcript} {count : Nat}
    (within : count ≤ entries.length)
    (nothing : ∀ place, position < place → place < position + count → extra place = []) :
    ∃ before, OnlyGaps before ∧ (widened extra position entries).drop count =
      before ++ widened extra (position + count) (entries.drop count) := by
  cases count with
  | zero => exact ⟨[], .nil, rfl⟩
  | succ count =>
    cases entries with
    | nil => cases within
    | cons first rest =>
      have restWithin : count ≤ rest.length := Nat.le_of_succ_le_succ within
      have unchanged := insertFrom_eq_append extra (position + 1) restWithin
        fun place least most => nothing place (by omega) (by omega)
      have shifted : position + 1 + count = position + (count + 1) := by omega
      have taken : (rest.take count).length = count := List.length_take_of_le restWithin
      refine ⟨extra (position + (count + 1)), gaps _, ?_⟩
      rw [widened_cons, List.drop_succ_cons, unchanged, shifted, List.drop_left' taken]
      rfl

end Gaps

end RunTriage.Session
