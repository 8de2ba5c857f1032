import Mathlib.Data.String.Basic
import RunTriage.Files

/-!
Contract: texts that are taken apart at a character.

Owns:
- the fields of a text, which are those of the list of its characters, and which make up the text
  again when they are put together;
- the parts of a path.

Does not own: what paths lead to, which is in `RunTriage.Files`.
-/

namespace RunTriage

namespace Text

open String

/-- What splitting does from a position on: `field` is the open field, and `done` holds the fields
before it, the last one first. -/
theorem splitOnAux_singleton (char : Char) (earlier field rest : List Char)
    (done : List String) :
    splitOnAux (ofList (earlier ++ field ++ rest)) (ofList [char]) ⟨utf8Len earlier⟩
        ⟨utf8Len earlier + utf8Len field⟩ 0 done =
      done.reverse ++ (List.splitOnPPrepend (· == char) rest field.reverse).map ofList := by
  rw [← utf8Len_append]
  induction rest generalizing earlier field done with
  | nil =>
    have atEnd := (atEnd_of_valid (earlier ++ field) []).mpr rfl
    rw [splitOnAux, if_pos atEnd, utf8Len_append, extract_of_valid]
    simp
  | cons next rest inductionHypothesis =>
    have inside := mt (atEnd_of_valid (earlier ++ field) (next :: rest)).mp (List.cons_ne_nil _ _)
    have isNext := get_of_valid (earlier ++ field) (next :: rest)
    have isChar : (0 : Pos.Raw).get (ofList [char]) = char := get_of_valid [] [char]
    rw [splitOnAux, if_neg inside, isNext, isChar, List.splitOnPPrepend_cons_eq_if]
    by_cases same : next = char
    · subst same
      have behind := next_of_valid (earlier ++ field) next rest
      have behindChar : (0 : Pos.Raw).next (ofList [next]) = ⟨next.utf8Size⟩ := by
        simpa using next_of_valid [] next []
      have onlyChar : (⟨next.utf8Size⟩ : Pos.Raw).atEnd (ofList [next]) = true := by
        simpa using (atEnd_of_valid [next] []).mpr rfl
      have back : (⟨utf8Len (earlier ++ field) + next.utf8Size⟩ : Pos.Raw).unoffsetBy
          ⟨next.utf8Size⟩ = ⟨utf8Len earlier + utf8Len field⟩ := by
        simp [Pos.Raw.unoffsetBy]
      have ended := inductionHypothesis (earlier ++ field ++ [next]) [] (ofList field :: done)
      simp only [behind, behindChar, onlyChar, BEq.rfl, if_true, back, extract_of_valid,
        List.headD_cons]
      simpa [List.splitOnPPrepend_nil_right, Nat.add_assoc] using ended
    · have different : (next == char) = false := beq_false_of_ne same
      have longer := inductionHypothesis earlier (field ++ [next]) done
      have behind := next_of_valid (earlier ++ field) next rest
      rw [List.headD_cons, different, if_neg Bool.false_ne_true, if_neg Bool.false_ne_true]
      show splitOnAux _ _ _ ((⟨utf8Len (earlier ++ field)⟩ : Pos.Raw).next _) 0 done = _
      rw [behind]
      simpa [Nat.add_assoc] using longer

/-- The fields of a text are those of its characters. -/
theorem splitOn_singleton (text : String) (char : Char) :
    text.splitOn (ofList [char]) = (text.toList.splitOn char).map ofList := by
  have someChar : (ofList [char] == "") = false := by
    simp [← String.toList_inj]
  have whole := splitOnAux_singleton char [] [] text.toList []
  simp only [List.append_nil, List.nil_append, utf8Len_nil, Nat.add_zero, ofList_toList] at whole
  rw [splitOn, someChar]
  simpa [List.splitOn, List.splitOnPPrepend_nil_right] using whole

theorem splitOn_append {α : Type} [BEq α] [LawfulBEq α] {separator : α} {left : List α}
    (absent : separator ∉ left) (right : List α) :
    (left ++ right).splitOn separator = (right.splitOn separator).modifyHead (left ++ ·) := by
  induction left with
  | nil =>
    rw [List.nil_append]
    cases right.splitOn separator <;> rfl
  | cons item left inductionHypothesis =>
    have notFirst : (item == separator) = false :=
      beq_false_of_ne fun same => absent (same ▸ List.mem_cons_self)
    have notLater : separator ∉ left := fun member => absent (List.mem_cons_of_mem _ member)
    rw [List.cons_append, List.splitOn_cons_eq_if_modifyHead, notFirst, if_neg Bool.false_ne_true,
      inductionHypothesis notLater, List.modifyHead_modifyHead]
    rfl

/-- The fields of a text, put together again, are the text. -/
theorem intercalate_splitOn (text : String) (char : Char) :
    [char].intercalate ((text.splitOn (ofList [char])).map toList) = text.toList := by
  have fields : ((text.toList.splitOn char).map ofList).map toList = text.toList.splitOn char := by
    rw [List.map_map]
    exact (List.map_congr_left fun _ _ => toList_ofList).trans (List.map_id _)
  rw [splitOn_singleton, fields]
  exact List.intercalate_splitOn char

/-- Two fields without the separator, put together, come apart again. -/
theorem splitOn_pair {left right : String} {char : Char} (leftAbsent : char ∉ left.toList)
    (rightAbsent : char ∉ right.toList) :
    (left ++ ofList [char] ++ right).splitOn (ofList [char]) = [left, right] := by
  have whole : (left ++ ofList [char] ++ right).toList =
      left.toList ++ char :: (right.toList ++ []) := by simp
  rw [splitOn_singleton, whole, splitOn_append leftAbsent, List.splitOn_cons_eq_if_modifyHead,
    if_pos (beq_self_eq_true char), splitOn_append rightAbsent]
  simp

theorem splitOn_of_not_mem {text : String} {char : Char} (absent : char ∉ text.toList) :
    text.splitOn (ofList [char]) = [text] := by
  have fields := splitOn_append absent []
  rw [List.append_nil] at fields
  rw [splitOn_singleton, fields]
  simp

end Text

theorem PathText.parts_eq (path : String) :
    parts path = (path.toList.splitOn '/').map String.ofList :=
  Text.splitOn_singleton path '/'

end RunTriage
