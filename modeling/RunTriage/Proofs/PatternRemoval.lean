import RunTriage.Proofs.PatternPaths
import RunTriage.Proofs.PatternWords

/-!
Contract: what is left of a text when the matches of a pattern are taken out in one pass.

Owns:
- `Strips`, one pass over a text that takes out words of a language, and `removeAll` as such a pass;
- `Interrupted`, texts with a word that other words stand inside of, and delimited languages, for
  which they are exactly the texts that still have a word in them after one pass;
- when a pass changes nothing.

Does not own: languages whose words can be the beginning of each other.
-/

namespace RunTriage.Pattern

/-! ## One pass over a text -/

/-- One pass from left to right: a character is kept if no word begins with it. -/
inductive Strips (language : Language Char) : List Char → List Char → Prop
  | nil : Strips language [] []
  | keep {char : Char} {rest stripped : List Char} :
      (∀ word ∈ language, ¬word <+: char :: rest) → Strips language rest stripped →
      Strips language (char :: rest) (char :: stripped)
  | remove {word rest stripped : List Char} :
      word ∈ language → Strips language rest stripped → Strips language (word ++ rest) stripped

section Pass

variable {language : Language Char} {text stripped : List Char}

/-- Characters at which no word begins are all kept. -/
theorem Strips.append_kept {rest : List Char} (strips : Strips language rest stripped)
    (kept : List Char)
    (noWord : ∀ index < kept.length, ∀ word ∈ language, ¬word <+: (kept ++ rest).drop index) :
    Strips language (kept ++ rest) (kept ++ stripped) := by
  induction kept with
  | nil => exact strips
  | cons char kept inductionHypothesis =>
    refine .keep (noWord 0 (Nat.zero_lt_succ _)) (inductionHypothesis fun index inside => ?_)
    exact noWord (index + 1) (Nat.succ_lt_succ inside)

theorem Strips.length_le (strips : Strips language text stripped) :
    stripped.length ≤ text.length := by
  induction strips with
  | nil => exact Nat.le_refl _
  | keep _ _ inductionHypothesis => exact Nat.succ_le_succ inductionHypothesis
  | remove _ _ inductionHypothesis =>
    rw [List.length_append]
    exact Nat.le_add_left_of_le inductionHypothesis

/-- A pass that takes out a word leaves less than there was. -/
theorem Strips.not_isInfix (strips : Strips language text stripped) (noEmpty : [] ∉ language)
    (whole : text.length ≤ stripped.length) : ∀ word ∈ language, ¬word <:+: text := by
  induction strips with
  | nil =>
    intro word isWord isInfix
    exact noEmpty (List.infix_nil.mp isInfix ▸ isWord)
  | keep noWord _ inductionHypothesis =>
    intro word isWord isInfix
    rcases List.infix_cons_iff.mp isInfix with here | later
    · exact noWord word isWord here
    · exact inductionHypothesis (Nat.le_of_succ_le_succ whole) word isWord later
  | @remove word rest stripped isWord later _ =>
    have shorter := later.length_le
    have someChar : 0 < word.length :=
      List.length_pos_iff.mpr fun isEmpty => noEmpty (isEmpty ▸ isWord)
    rw [List.length_append] at whole
    omega

/-- A pass changes nothing if and only if no word occurs in the text. -/
theorem Strips.eq_iff (strips : Strips language text stripped) (noEmpty : [] ∉ language) :
    stripped = text ↔ ∀ word ∈ language, ¬word <:+: text := by
  constructor
  · rintro same
    exact strips.not_isInfix noEmpty (congrArg List.length same).ge
  · intro noWord
    induction strips with
    | nil => rfl
    | keep _ _ inductionHypothesis =>
      congr 1
      exact inductionHypothesis fun word isWord isInfix =>
        noWord word isWord (List.infix_cons isInfix)
    | remove isWord _ _ => exact absurd (List.prefix_append ..).isInfix (noWord _ isWord)

end Pass

/-! ## Removal -/

section Removal

variable {pattern : Pattern} {subject : Subject}

theorem not_isPrefix_of_not_spans (unconditional : pattern.isUnconditional = true) {start : Nat}
    (noSpan : ∀ stop, ¬Spans subject pattern start stop) :
    ∀ word ∈ pattern.words, ¬word <+: subject.toList.drop start := fun word isWord isPrefix =>
  noSpan _ ((spans_iff_reads unconditional).mpr ⟨word, isWord, rfl, isPrefix⟩)

/-- All that stands before the next match is kept. -/
theorem Strips.of_isNext (unconditional : pattern.isUnconditional = true) {position : Nat}
    {found : Match} (next : IsNext pattern subject (fun start => position ≤ start) found)
    {stripped : List Char}
    (later : Strips pattern.words (subject.toList.drop found.stop) stripped) :
    Strips pattern.words (subject.toList.drop position)
      ((subject.toList.drop position).take (found.start - position) ++ stripped) := by
  have notEarlier : position ≤ found.start := of_decide_eq_true next.isAllowed
  obtain ⟨word, isWord, ends, rest, whole⟩ := (spans_iff_reads unconditional).mp next.spans
  have isRest : rest = subject.toList.drop found.stop := by
    rw [ends, ← List.drop_drop, ← whole, List.drop_left]
  have removed : Strips pattern.words (subject.toList.drop found.start) stripped := by
    rw [← whole, isRest]
    exact .remove isWord later
  have split : (subject.toList.drop position).take (found.start - position) ++
      subject.toList.drop found.start = subject.toList.drop position := by
    have joined := List.take_append_drop (found.start - position) (subject.toList.drop position)
    rwa [List.drop_drop, Nat.add_sub_cancel' notEarlier] at joined
  have kept := removed.append_kept ((subject.toList.drop position).take (found.start - position))
    fun index isIndex => by
      rw [split, List.drop_drop]
      rw [List.length_take] at isIndex
      refine not_isPrefix_of_not_spans unconditional fun stop spans => ?_
      have earliest := next.earliest (position + index) (by have := next.inside; omega)
        (decide_eq_true (Nat.le_add_right position index)) stop spans
      omega
  rwa [split] at kept

/-- Without a next match everything is kept. -/
theorem Strips.of_no_next (unconditional : pattern.isUnconditional = true) {position : Nat}
    (isNone : firstMatchIn? pattern subject (fun start => position ≤ start) = none) :
    Strips pattern.words (subject.toList.drop position) (subject.toList.drop position) := by
  have kept := (Strips.nil : Strips pattern.words [] []).append_kept
    (subject.toList.drop position) fun index isIndex => by
      rw [List.append_nil, List.drop_drop]
      rw [List.length_drop, Array.length_toList] at isIndex
      exact not_isPrefix_of_not_spans unconditional (not_spans_of_firstMatchIn? isNone
        (by omega) (decide_eq_true (Nat.le_add_right position index)))
  rwa [List.append_nil] at kept

/-- Removal from a position on is a pass over the rest, if the pattern takes some character in every
match. Each round goes beyond one match, so as many rounds as characters are enough. -/
theorem strips_removeAllFrom (unconditional : pattern.isUnconditional = true)
    (noEmpty : [] ∉ pattern.words) {rounds position : Nat} (inside : position ≤ subject.size)
    (enough : subject.size < position + rounds) :
    Strips pattern.words (subject.toList.drop position)
      (removeAllFrom pattern subject rounds position) := by
  induction rounds generalizing position with
  | zero => exact absurd enough (Nat.not_lt_of_le inside)
  | succ rounds inductionHypothesis =>
    rw [removeAllFrom]
    cases isNext : firstMatchIn? pattern subject fun start => position ≤ start with
    | none => exact .of_no_next unconditional isNext
    | some found =>
      have next := isNext_of_firstMatchIn? isNext
      have notEarlier : position ≤ found.start := of_decide_eq_true next.isAllowed
      have onward : found.start < found.stop := by
        obtain ⟨word, isWord, ends, _⟩ := (spans_iff_reads unconditional).mp next.spans
        have someChar : 0 < word.length :=
          List.length_pos_iff.mpr fun isEmpty => noEmpty (isEmpty ▸ isWord)
        omega
      dsimp only
      rw [if_pos onward]
      exact .of_isNext unconditional next
        (inductionHypothesis (next.spans.le_size next.inside) (by omega))

/-- Removing all matches is one pass that takes out the words of the pattern. -/
theorem strips_removeAll (unconditional : pattern.isUnconditional = true)
    (noEmpty : [] ∉ pattern.words) (text : String) :
    Strips pattern.words text.toList (pattern.removeAll text).toList := by
  have pass : Strips pattern.words ((subjectOf text).toList.drop 0)
      (removeAllFrom pattern (subjectOf text) ((subjectOf text).size + 1) 0) :=
    strips_removeAllFrom unconditional noEmpty (Nat.zero_le _) (by omega)
  rw [removeAll, String.toList_ofList]
  exact pass

end Removal

/-! ## Words inside of words -/

/-- Characters with whole words put in between. -/
inductive Spread (language : Language Char) : List Char → List Char → Prop
  | nil : Spread language [] []
  | char {char : Char} {inner spread : List Char} :
      Spread language inner spread → Spread language (char :: inner) (char :: spread)
  | word {word inner spread : List Char} :
      word ∈ language → Spread language inner spread → Spread language inner (word ++ spread)

/-- A word stands in the text with other words put in behind its first character and before its
last. -/
def Interrupted (language : Language Char) (text : List Char) : Prop :=
  ∃ before lead inner spread last after, text = before ++ lead :: (spread ++ last :: after) ∧
    lead :: (inner ++ [last]) ∈ language ∧ Spread language inner spread ∧ spread ≠ inner

section Kept

variable {language : Language Char} {text stripped : List Char}

/-- Where a kept character comes from: what is kept before it stands before it in the text, with
words put in between, and no word begins with it. -/
theorem Strips.exists_of_kept {before after : List Char} {char : Char}
    (strips : Strips language text (before ++ char :: after)) :
    ∃ front rest, text = front ++ char :: rest ∧ Spread language before front ∧
      (∀ word ∈ language, ¬word <+: char :: rest) ∧ Strips language rest after := by
  generalize isStripped : before ++ char :: after = stripped at strips
  induction strips generalizing before with
  | nil => simp at isStripped
  | @keep first rest stripped noWord later inductionHypothesis =>
    cases before with
    | nil =>
      obtain ⟨rfl, rfl⟩ := List.cons.inj isStripped
      exact ⟨[], rest, rfl, .nil, noWord, later⟩
    | cons other before =>
      obtain ⟨rfl, isLater⟩ := List.cons.inj isStripped
      obtain ⟨front, behind, rfl, spread, noWordBehind, pass⟩ := inductionHypothesis isLater
      exact ⟨other :: front, behind, rfl, .char spread, noWordBehind, pass⟩
  | @remove word rest stripped isWord _ inductionHypothesis =>
    obtain ⟨front, behind, rfl, spread, noWordBehind, pass⟩ := inductionHypothesis isStripped
    exact ⟨word ++ front, behind, by rw [List.append_assoc], .word isWord spread, noWordBehind,
      pass⟩

/-- A word that is left by a pass was interrupted before. -/
theorem Strips.interrupted {before inner after : List Char} {lead last : Char}
    (strips : Strips language text (before ++ lead :: (inner ++ last :: after)))
    (isWord : lead :: (inner ++ [last]) ∈ language) : Interrupted language text := by
  obtain ⟨front, rest, rfl, _, noWord, pass⟩ := strips.exists_of_kept
  obtain ⟨spread, behind, rfl, isSpread, _, _⟩ := pass.exists_of_kept
  refine ⟨front, lead, inner, spread, last, behind, rfl, isWord, isSpread, ?_⟩
  -- With nothing put in, the word itself would have begun at the kept lead.
  rintro rfl
  have here : lead :: (spread ++ last :: behind) = lead :: (spread ++ [last]) ++ behind := by simp
  exact noWord _ isWord (here ▸ List.prefix_append ..)

/-- Some word is the first that is put in. -/
theorem Spread.exists_first_word {inner spread : List Char}
    (isSpread : Spread language inner spread) (different : spread ≠ inner) :
    ∃ front word rest behind, inner = front ++ behind ∧ spread = front ++ (word ++ rest) ∧
      word ∈ language := by
  induction isSpread with
  | nil => exact absurd rfl different
  | @char char inner spread _ inductionHypothesis =>
    obtain ⟨front, word, rest, behind, rfl, rfl, isWord⟩ :=
      inductionHypothesis fun same => different (same ▸ rfl)
    exact ⟨char :: front, word, rest, behind, rfl, rfl, isWord⟩
  | @word word inner spread isWord _ _ => exact ⟨[], word, spread, inner, rfl, rfl, isWord⟩

end Kept

/-! ## Delimited languages -/

/-- A list that does not hold an item ends before it. -/
theorem isPrefix_append_cons_iff {α : Type} {items front rest : List α} {item : α}
    (absent : item ∉ items) : items <+: front ++ item :: rest ↔ items <+: front := by
  constructor
  · intro isPrefix
    rcases List.prefix_or_prefix_of_prefix isPrefix (List.prefix_append front _) with
      within | ⟨beyond, rfl⟩
    · exact within
    · cases beyond with
      | nil => exact (List.append_nil front).symm ▸ List.prefix_refl front
      | cons next beyond =>
        have isNext := (List.prefix_append_right_inj front).mp isPrefix
        obtain ⟨rfl, _⟩ := List.cons_prefix_cons.mp isNext
        exact absurd (List.mem_append_right front List.mem_cons_self) absent
  · intro within
    exact within.trans (List.prefix_append front _)

/-- Every word opens with a character that stands nowhere else in a word, and goes on to another
character, by which it can be told where it ends. -/
structure Delimited (language : Language Char) (opens : Char → Prop) : Prop where
  shape : ∀ word ∈ language, ∃ lead inner last, word = lead :: (inner ++ [last]) ∧ opens lead ∧
    ∀ char ∈ inner ++ [last], ¬opens char
  unique : ∀ first ∈ language, ∀ second ∈ language, first <+: second → first = second

namespace Delimited

variable {language : Language Char} {opens : Char → Prop} (delimited : Delimited language opens)

include delimited

theorem noEmpty : [] ∉ language := by
  intro isWord
  obtain ⟨lead, inner, last, same, _⟩ := delimited.shape [] isWord
  cases same

theorem opens_of_isPrefix {word rest : List Char} {char : Char} (isWord : word ∈ language)
    (isPrefix : word <+: char :: rest) : opens char := by
  obtain ⟨lead, inner, last, rfl, isLead, _⟩ := delimited.shape word isWord
  exact (List.cons_prefix_cons.mp isPrefix).1 ▸ isLead

/-- Of two words from the same place on neither is longer. -/
theorem eq_of_append_eq {first second rest others : List Char} (isFirst : first ∈ language)
    (isSecond : second ∈ language) (same : first ++ rest = second ++ others) : first = second := by
  rcases List.prefix_or_prefix_of_prefix (List.prefix_append first rest)
    (same ▸ List.prefix_append second others) with firstShorter | secondShorter
  · exact delimited.unique first isFirst second isSecond firstShorter
  · exact (delimited.unique second isSecond first isFirst secondShorter).symm

section Pass

variable {rest stripped : List Char} {char : Char}

theorem keep_of_not_opens (inside : ¬opens char)
    (strips : Strips language (char :: rest) stripped) :
    ∃ behind, stripped = char :: behind ∧ Strips language rest behind := by
  generalize isText : char :: rest = text at strips
  cases strips with
  | nil => cases isText
  | keep _ later =>
    obtain ⟨rfl, rfl⟩ := List.cons.inj isText
    exact ⟨_, rfl, later⟩
  | remove isWord _ =>
    exact absurd (delimited.opens_of_isPrefix isWord (isText ▸ List.prefix_append ..)) inside

theorem strips_of_word {word : List Char} (isWord : word ∈ language)
    (strips : Strips language (word ++ rest) stripped) : Strips language rest stripped := by
  generalize isText : word ++ rest = text at strips
  cases strips with
  | nil => exact absurd ((List.append_eq_nil_iff.mp isText).1 ▸ isWord) delimited.noEmpty
  | keep noWord _ => exact absurd (isText ▸ List.prefix_append ..) (noWord word isWord)
  | remove isOther later =>
    obtain rfl := delimited.eq_of_append_eq isWord isOther isText
    exact List.append_cancel_left isText ▸ later

/-- A pass that comes to an opening character begins there anew. -/
theorem exists_strips_of_opens {before : List Char} (isLead : opens char)
    (strips : Strips language (before ++ char :: rest) stripped) :
    ∃ front behind, stripped = front ++ behind ∧ Strips language (char :: rest) behind := by
  generalize isText : before ++ char :: rest = text at strips
  induction strips generalizing before with
  | nil => simp at isText
  | @keep first others stripped noWord later inductionHypothesis =>
    cases before with
    | nil =>
      rw [List.nil_append] at isText
      exact ⟨[], first :: stripped, rfl, isText ▸ .keep noWord later⟩
    | cons _ before =>
      obtain ⟨front, behind, rfl, pass⟩ := inductionHypothesis (List.cons.inj isText).2
      exact ⟨first :: front, behind, rfl, pass⟩
  | @remove word others stripped isWord later inductionHypothesis =>
    rcases List.append_eq_append_iff.mp isText with ⟨own, rfl, ends⟩ | ⟨behindWord, rfl, isOthers⟩
    · cases before with
      | nil =>
        rw [List.nil_append] at isText
        exact ⟨[], stripped, rfl, isText ▸ .remove isWord later⟩
      | cons first before =>
        cases own with
        | nil => exact @inductionHypothesis [] ends
        | cons _ own =>
          -- The character would stand inside of the word.
          obtain ⟨lead, inner, last, isShape, _, closed⟩ := delimited.shape _ isWord
          obtain ⟨rfl, _⟩ := List.cons.inj ends
          have isInner : before ++ char :: own = inner ++ [last] := (List.cons.inj isShape).2
          exact absurd isLead (closed char (isInner ▸ List.mem_append_right _ List.mem_cons_self))
    · exact inductionHypothesis isOthers.symm

/-- The words put in between are taken out, and the characters are kept. -/
theorem exists_strips_of_spread {inner spread after : List Char} {last : Char}
    (isSpread : Spread language inner spread) (closed : ∀ char ∈ inner ++ [last], ¬opens char)
    (strips : Strips language (spread ++ last :: after) stripped) :
    ∃ behind, stripped = inner ++ last :: behind := by
  induction isSpread generalizing stripped with
  | nil =>
    obtain ⟨behind, rfl, _⟩ := delimited.keep_of_not_opens
      (closed last List.mem_cons_self) strips
    exact ⟨behind, rfl⟩
  | @char char inner spread _ inductionHypothesis =>
    obtain ⟨isInner, others⟩ := List.forall_mem_cons.mp closed
    obtain ⟨_, rfl, later⟩ := delimited.keep_of_not_opens isInner strips
    obtain ⟨behind, rfl⟩ := inductionHypothesis others later
    exact ⟨behind, rfl⟩
  | @word word inner spread isWord _ inductionHypothesis =>
    rw [List.append_assoc] at strips
    exact inductionHypothesis closed (delimited.strips_of_word isWord strips)

end Pass

/-- No word begins where a word is interrupted: it would have to end before the interruption. -/
theorem not_isPrefix_of_interrupted {lead last : Char} {inner spread after : List Char}
    (isWord : lead :: (inner ++ [last]) ∈ language) (isSpread : Spread language inner spread)
    (different : spread ≠ inner) :
    ∀ word ∈ language, ¬word <+: lead :: (spread ++ last :: after) := by
  intro word isOther isPrefix
  obtain ⟨front, first, rest, behind, rfl, rfl, isFirst⟩ := isSpread.exists_first_word different
  obtain ⟨otherLead, otherInner, otherLast, rfl, _, closed⟩ := delimited.shape word isOther
  obtain ⟨opener, inside, final, rfl, isOpener, _⟩ := delimited.shape first isFirst
  obtain ⟨rfl, tailPrefix⟩ := List.cons_prefix_cons.mp isPrefix
  have tail : front ++ (opener :: (inside ++ [final]) ++ rest) ++ last :: after =
      front ++ opener :: (inside ++ [final] ++ rest ++ last :: after) := by simp
  rw [tail] at tailPrefix
  have within : otherInner ++ [otherLast] <+: front :=
    (isPrefix_append_cons_iff fun member => closed opener member isOpener).mp tailPrefix
  have isShorter : otherLead :: (otherInner ++ [otherLast]) <+:
      otherLead :: (front ++ behind ++ [last]) := by
    rw [List.append_assoc]
    exact List.cons_prefix_cons.mpr ⟨rfl, within.trans (List.prefix_append ..)⟩
  have same := delimited.unique _ isOther _ isWord isShorter
  have sameLength := congrArg List.length same
  have shorter := within.length_le
  simp only [List.length_cons, List.length_append, List.length_nil] at sameLength shorter
  omega

/-- After a pass there are words left exactly if there was an interrupted one before. -/
theorem exists_isInfix_iff {text stripped : List Char} (strips : Strips language text stripped) :
    (∃ word ∈ language, word <:+: stripped) ↔ Interrupted language text := by
  constructor
  · rintro ⟨word, isWord, before, after, rfl⟩
    obtain ⟨lead, inner, last, rfl, _⟩ := delimited.shape word isWord
    have split : before ++ lead :: (inner ++ [last]) ++ after =
        before ++ lead :: (inner ++ last :: after) := by simp
    exact (split ▸ strips).interrupted isWord
  · rintro ⟨before, lead, inner, spread, last, after, rfl, isWord, isSpread, different⟩
    obtain ⟨_, _, _, isShape, isLead, closed⟩ := delimited.shape _ isWord
    obtain ⟨rfl, sameTail⟩ := List.cons.inj isShape
    rw [← sameTail] at closed
    obtain ⟨front, behind, rfl, pass⟩ := delimited.exists_strips_of_opens isLead strips
    generalize isRest : lead :: (spread ++ last :: after) = rest at pass
    -- The pass keeps the lead, since no word begins there, and then takes out what was put in.
    cases pass with
    | nil => cases isRest
    | keep noWord later =>
      obtain ⟨rfl, rfl⟩ := List.cons.inj isRest
      obtain ⟨others, rfl⟩ := delimited.exists_strips_of_spread isSpread closed later
      exact ⟨_, isWord, front, others, by simp⟩
    | remove isOther _ =>
      exact absurd (isRest ▸ List.prefix_append ..)
        (delimited.not_isPrefix_of_interrupted isWord isSpread different _ isOther)

end Delimited

end RunTriage.Pattern
