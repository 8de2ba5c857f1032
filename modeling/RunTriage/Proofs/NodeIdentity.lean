import Mathlib.Data.String.Basic
import RunTriage.Pattern.CharSet
import RunTriage.TestRecord

/-!
Contract: displayed identities of tests, told apart by their text.

Owns:
- the identities that can be told from a text, and the texts that may stand behind one;
- `eq_of_display_append`, by which a text starts with one such identity at most.

Does not own: how an identity is found in a line, which is in `RunTriage.Proofs.NodeText`.
-/

namespace RunTriage

/-! ## Identities -/

/-- Word characters, `/`, `-` and `.`. -/
def IsPathChar (char : Char) : Prop :=
  Pattern.CharSet.word.contains char = true ∨ char = '/' ∨ char = '-' ∨ char = '.'

instance : DecidablePred IsPathChar := fun char =>
  inferInstanceAs (Decidable (_ ∨ char = '/' ∨ char = '-' ∨ char = '.'))

/-- A text of such characters, at least one. -/
def IsPath (text : String) : Prop :=
  text ≠ "" ∧ ∀ char ∈ text.toList, IsPathChar char

instance : DecidablePred IsPath := fun text =>
  decidable_of_iff (text ≠ "" ∧ text.toList.all (fun char => decide (IsPathChar char)) = true)
    (by simp [IsPath])

namespace NodeId

/-- An identity as test runners give it: the file is a script, and no bracket closes the
parametrization before its end. -/
structure IsValid (id : NodeId) : Prop where
  file : ∃ stem, IsPath stem ∧ id.file = stem ++ ".py"
  name : IsPath id.name
  param : ∀ param ∈ id.param, ']' ∉ param.toList

/-- The parametrization as it is displayed. -/
def bracket (id : NodeId) : List Char :=
  match id.param with
  | some param => '[' :: (param.toList ++ [']'])
  | none => []

theorem toList_display (id : NodeId) :
    id.display.toList = id.file.toList ++ ':' :: ':' :: (id.name.toList ++ id.bracket) := by
  cases isParam : id.param <;> simp [display, bracket, isParam]

/-- The characters behind an identity are no part of it: they neither continue the name nor add a
parametrization. -/
def EndsBefore (id : NodeId) (rest : List Char) : Prop :=
  id.param = none →
    (∀ char ∈ rest.head?, ¬IsPathChar char) ∧ ∀ later, rest = '[' :: later → ']' ∉ later

theorem endsBefore_space (id : NodeId) (rest : List Char) : id.EndsBefore (' ' :: rest) := by
  intro _
  constructor
  · intro char isHead
    cases isHead
    decide +kernel
  · intro later isRest
    cases isRest

/-! ## One identity only -/

/-- Two runs of characters of a kind that start in the same place, each up to a character of
another kind, are the same run. -/
theorem eq_of_append_eq_append {holds : Char → Prop} [DecidablePred holds]
    {first second rest later : List Char} (firstHolds : ∀ char ∈ first, holds char)
    (secondHolds : ∀ char ∈ second, holds char) (firstStops : ∀ char ∈ rest.head?, ¬holds char)
    (secondStops : ∀ char ∈ later.head?, ¬holds char) (same : first ++ rest = second ++ later) :
    first = second ∧ rest = later := by
  have run {chars behind : List Char} (hold : ∀ char ∈ chars, holds char)
      (stops : ∀ char ∈ behind.head?, ¬holds char) :
      (chars ++ behind).takeWhile (fun char => decide (holds char)) = chars := by
    rw [List.takeWhile_append_of_pos fun char member => decide_eq_true (hold char member)]
    cases behind with
    | nil => simp
    | cons next behind => simp [stops next rfl]
  have sameRun : first = second := by
    rw [← run firstHolds firstStops, same, run secondHolds secondStops]
  subst sameRun
  exact ⟨rfl, List.append_cancel_left same⟩

section Unique

variable {id other : NodeId} {rest later : List Char}

theorem IsValid.isPathChar_of_mem_file (valid : id.IsValid) :
    ∀ char ∈ id.file.toList, IsPathChar char := by
  intro char member
  obtain ⟨stem, isStem, isFile⟩ := valid.file
  rw [isFile, String.toList_append] at member
  rcases List.mem_append.mp member with inStem | inEnding
  · exact isStem.2 char inStem
  · have isEnding : IsPath ".py" := by decide +kernel
    exact isEnding.2 char inEnding

/-- No character behind a name could be a part of it. -/
theorem EndsBefore.name_stops (ends : id.EndsBefore rest) :
    ∀ char ∈ (id.bracket ++ rest).head?, ¬IsPathChar char := by
  intro char isHead
  cases isParam : id.param with
  | none =>
    rw [bracket, isParam] at isHead
    exact (ends isParam).1 char isHead
  | some param =>
    rw [bracket, isParam] at isHead
    cases isHead
    decide +kernel

theorem EndsBefore.ne_bracket (ends : id.EndsBefore rest) (noParam : id.param = none)
    (param : List Char) : rest ≠ '[' :: (param ++ ']' :: later) := by
  intro isRest
  apply (ends noParam).2 _ isRest
  simp

theorem param_eq_of_bracket_append (valid : id.IsValid) (otherValid : other.IsValid)
    (ends : id.EndsBefore rest) (otherEnds : other.EndsBefore later)
    (same : id.bracket ++ rest = other.bracket ++ later) : id.param = other.param := by
  cases isParam : id.param with
  | none =>
    cases isOther : other.param with
    | none => rfl
    | some param =>
      simp only [bracket, isParam, isOther, List.nil_append, List.cons_append,
        List.append_assoc] at same
      exact absurd same (ends.ne_bracket isParam param.toList)
  | some param =>
    cases isOther : other.param with
    | none =>
      simp only [bracket, isParam, isOther, List.nil_append, List.cons_append,
        List.append_assoc] at same
      exact absurd same.symm (otherEnds.ne_bracket isOther param.toList)
    | some otherParam =>
      simp only [bracket, isParam, isOther, List.cons_append, List.append_assoc,
        List.cons.injEq, true_and] at same
      have inside {value : String} (noClose : ']' ∉ value.toList) :
          ∀ char ∈ value.toList, char ≠ ']' :=
        fun char member isClose => noClose (isClose ▸ member)
      have sameParam := (eq_of_append_eq_append (inside (valid.param param isParam))
        (inside (otherValid.param otherParam isOther)) (by simp) (by simp) same).1
      rw [String.toList_inj.mp sameParam]

/-- A text starts with one identity at most. -/
theorem eq_of_display_append (valid : id.IsValid) (otherValid : other.IsValid)
    (ends : id.EndsBefore rest) (otherEnds : other.EndsBefore later)
    (same : id.display.toList ++ rest = other.display.toList ++ later) : id = other := by
  rw [toList_display, toList_display] at same
  simp only [List.append_assoc, List.cons_append] at same
  have colon (behind : List Char) : ∀ char ∈ (':' :: behind).head?, ¬IsPathChar char := by
    intro char isHead
    cases isHead
    decide +kernel
  obtain ⟨sameFile, behindFile⟩ := eq_of_append_eq_append valid.isPathChar_of_mem_file
    otherValid.isPathChar_of_mem_file (colon _) (colon _) same
  obtain ⟨sameName, behindName⟩ := eq_of_append_eq_append valid.name.2 otherValid.name.2
    ends.name_stops otherEnds.name_stops (List.cons.inj (List.cons.inj behindFile).2).2
  have sameParam := param_eq_of_bracket_append valid otherValid ends otherEnds behindName
  cases id
  cases other
  simp_all [String.toList_inj]

end Unique

end NodeId

end RunTriage
