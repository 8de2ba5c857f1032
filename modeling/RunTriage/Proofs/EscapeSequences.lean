import RunTriage.Line.Basic
import RunTriage.Proofs.PatternRemoval

/-!
Contract: what a displayed message holds of terminal escape sequences.

Owns:
- the shape of an escape sequence, by which sequences are told apart;
- which messages show a sequence when they are displayed: those where taking out whole sequences
  brings the parts of another one together;
- when a second pass changes nothing.

Does not own: removal of the words of any language, which is in `RunTriage.Proofs.PatternRemoval`.
-/

namespace RunTriage.Line

open Pattern

/-! ## Shape -/

/-- What a sequence begins with: the escape character and a letter, or one control character. -/
inductive IsLead : List Char → Prop
  | escape {letter : Char} : 64 ≤ letter.toNat → letter.toNat ≤ 95 → IsLead ['\x1b', letter]
  | control {control : Char} : 128 ≤ control.toNat → control.toNat ≤ 159 → IsLead [control]

section Shape

variable {word : List Char}

theorem mem_words_charsFrom {low high : Char} :
    word ∈ (charsFrom low high).words ↔
      ∃ char, (low.toNat ≤ char.toNat ∧ char.toNat ≤ high.toNat) ∧ word = [char] := by
  rw [charsFrom, mem_words_charIn]
  simp only [contains_range]

theorem mem_words_zeroOrMore_charsFrom {low high : Char} :
    word ∈ (zeroOrMore (charsFrom low high)).words ↔
      ∀ char ∈ word, low.toNat ≤ char.toNat ∧ char.toNat ≤ high.toNat := by
  rw [charsFrom, mem_words_zeroOrMore_charIn]
  simp only [contains_range]

theorem mem_words_lead :
    word ∈ (either (.sequence (literal '\x1b') (charsFrom '@' '_'))
      (charsFrom '\u0080' '\u009f')).words ↔ IsLead word := by
  rw [words, Language.mem_add, mem_words_sequence, mem_words_charsFrom]
  simp only [mem_words_literal, mem_words_charsFrom]
  constructor
  · rintro (⟨_, rfl, _, ⟨letter, within, rfl⟩, rfl⟩ | ⟨control, within, rfl⟩)
    · exact .escape within.1 within.2
    · exact .control within.1 within.2
  · rintro (⟨low, high⟩ | ⟨low, high⟩)
    · exact .inl ⟨_, rfl, _, ⟨_, ⟨low, high⟩, rfl⟩, rfl⟩
    · exact .inr ⟨_, ⟨low, high⟩, rfl⟩

/-- A sequence is a lead, parameters, intermediate characters and one final character. -/
theorem mem_words_escapeSequence :
    word ∈ escapeSequence.words ↔ ∃ lead parameters intermediates final,
      word = lead ++ (parameters ++ (intermediates ++ [final])) ∧ IsLead lead ∧
        (∀ char ∈ parameters, 48 ≤ char.toNat ∧ char.toNat ≤ 63) ∧
        (∀ char ∈ intermediates, 32 ≤ char.toNat ∧ char.toNat ≤ 47) ∧
        64 ≤ final.toNat ∧ final.toNat ≤ 126 := by
  have parts : escapeSequence =
      .sequence (.either (.sequence (literal '\x1b') (charsFrom '@' '_'))
          (charsFrom '\u0080' '\u009f'))
        (.sequence (.zeroOrMore (charsFrom '0' '?'))
          (.sequence (.zeroOrMore (charsFrom ' ' '/')) (charsFrom '@' '~'))) := rfl
  rw [parts, mem_words_sequence]
  simp only [mem_words_lead, mem_words_sequence, mem_words_zeroOrMore_charsFrom,
    mem_words_charsFrom]
  constructor
  · rintro ⟨lead, leads, _, ⟨parameters, areParameters, _, ⟨intermediates, areIntermediates, _,
      ⟨final, isFinal, rfl⟩, rfl⟩, rfl⟩, rfl⟩
    exact ⟨lead, parameters, intermediates, final, rfl, leads, areParameters, areIntermediates,
      isFinal⟩
  · rintro ⟨lead, parameters, intermediates, final, rfl, leads, areParameters, areIntermediates,
      isFinal⟩
    exact ⟨lead, leads, _, ⟨parameters, areParameters, _, ⟨intermediates, areIntermediates, _,
      ⟨final, isFinal, rfl⟩, rfl⟩, rfl⟩, rfl⟩

/-- No character between the lead and the final one could be a final one itself. -/
theorem exists_of_mem_words (isWord : word ∈ escapeSequence.words) :
    ∃ lead inner final, word = lead ++ (inner ++ [final]) ∧ IsLead lead ∧
      (∀ char ∈ inner, 32 ≤ char.toNat ∧ char.toNat < 64) ∧
      64 ≤ final.toNat ∧ final.toNat ≤ 126 := by
  obtain ⟨lead, parameters, intermediates, final, rfl, leads, areParameters, areIntermediates,
    isFinal⟩ := mem_words_escapeSequence.mp isWord
  refine ⟨lead, parameters ++ intermediates, final, by rw [List.append_assoc], leads, ?_, isFinal⟩
  intro char member
  rcases List.mem_append.mp member with isParameter | isIntermediate
  · have within := areParameters char isParameter
    omega
  · have within := areIntermediates char isIntermediate
    omega

end Shape

/-! ## Telling sequences apart -/

/-- The characters that a sequence opens with. -/
def IsOpening (char : Char) : Prop :=
  char.toNat = 27 ∨ 128 ≤ char.toNat ∧ char.toNat ≤ 159

theorem IsLead.exists_cons {lead : List Char} (leads : IsLead lead) :
    ∃ opening rest, lead = opening :: rest ∧ IsOpening opening ∧
      ∀ char ∈ rest, ¬IsOpening char := by
  cases leads with
  | @escape letter low high =>
    refine ⟨'\x1b', [letter], rfl, .inl rfl, ?_⟩
    rintro char member (isEscape | isControl)
    all_goals
      obtain rfl := List.mem_singleton.mp member
      omega
  | @control control low high =>
    exact ⟨control, [], rfl, .inr ⟨low, high⟩, fun _ member => absurd member List.not_mem_nil⟩

/-- Where one lead begins, no other does. -/
theorem IsLead.eq_of_isPrefix {lead other rest others : List Char} (leads : IsLead lead)
    (otherLeads : IsLead other) (isPrefix : lead ++ rest <+: other ++ others) :
    lead = other ∧ rest <+: others := by
  cases leads with
  | escape low high =>
    cases otherLeads with
    | escape _ _ =>
      obtain ⟨_, letterPrefix⟩ := List.cons_prefix_cons.mp isPrefix
      obtain ⟨rfl, restPrefix⟩ := List.cons_prefix_cons.mp letterPrefix
      exact ⟨rfl, restPrefix⟩
    | @control control fromLow toHigh =>
      obtain ⟨rfl, _⟩ := List.cons_prefix_cons.mp isPrefix
      exact absurd fromLow (by decide)
  | control low high =>
    cases otherLeads with
    | escape _ _ =>
      obtain ⟨rfl, _⟩ := List.cons_prefix_cons.mp isPrefix
      exact absurd low (by decide)
    | control _ _ =>
      obtain ⟨rfl, restPrefix⟩ := List.cons_prefix_cons.mp isPrefix
      exact ⟨rfl, restPrefix⟩

/-- Two runs of characters, each up to a final one, agree if one begins the other. -/
theorem eq_of_isPrefix_of_final {inner others : List Char} {final otherFinal : Char}
    (areInner : ∀ char ∈ inner, char.toNat < 64) (areOthers : ∀ char ∈ others, char.toNat < 64)
    (isFinal : 64 ≤ final.toNat) (isOtherFinal : 64 ≤ otherFinal.toNat)
    (isPrefix : inner ++ [final] <+: others ++ [otherFinal]) :
    inner ++ [final] = others ++ [otherFinal] := by
  induction inner generalizing others with
  | nil =>
    cases others with
    | nil =>
      obtain ⟨rfl, _⟩ := List.cons_prefix_cons.mp isPrefix
      rfl
    | cons other others =>
      obtain ⟨rfl, _⟩ := List.cons_prefix_cons.mp isPrefix
      exact absurd isFinal (Nat.not_le_of_lt (areOthers final List.mem_cons_self))
  | cons char inner inductionHypothesis =>
    cases others with
    | nil =>
      obtain ⟨rfl, _⟩ := List.cons_prefix_cons.mp isPrefix
      exact absurd isOtherFinal (Nat.not_le_of_lt (areInner char List.mem_cons_self))
    | cons other others =>
      obtain ⟨rfl, restPrefix⟩ := List.cons_prefix_cons.mp isPrefix
      exact congrArg (List.cons char) (inductionHypothesis (List.forall_mem_cons.mp areInner).2
        (List.forall_mem_cons.mp areOthers).2 restPrefix)

/-- A sequence opens with a character that no sequence goes on with, and its final character tells
where it ends. -/
theorem delimited_escapeSequence : Delimited escapeSequence.words IsOpening where
  shape word isWord := by
    obtain ⟨lead, inner, final, rfl, leads, areInner, isFinal⟩ := exists_of_mem_words isWord
    obtain ⟨opening, rest, rfl, opens, notRest⟩ := leads.exists_cons
    refine ⟨opening, rest ++ inner, final, by simp, opens, fun char member => ?_⟩
    rw [List.append_assoc] at member
    rcases List.mem_append.mp member with inRest | later
    · exact notRest char inRest
    · rcases List.mem_append.mp later with isInner | isLast
      · have within := areInner char isInner
        unfold IsOpening
        omega
      · obtain rfl := List.mem_singleton.mp isLast
        unfold IsOpening
        omega
  unique first isFirst second isSecond isPrefix := by
    obtain ⟨lead, inner, final, rfl, leads, areInner, isFinal⟩ := exists_of_mem_words isFirst
    obtain ⟨otherLead, others, otherFinal, rfl, otherLeads, areOthers, isOtherFinal⟩ :=
      exists_of_mem_words isSecond
    obtain ⟨rfl, restPrefix⟩ := leads.eq_of_isPrefix otherLeads isPrefix
    congr 1
    exact eq_of_isPrefix_of_final (fun char member => (areInner char member).2)
      (fun char member => (areOthers char member).2) isFinal.1 isOtherFinal.1 restPrefix

/-! ## Display -/

/-- What is displayed of a line before the bar: clock time, level and origin. -/
def heading (line : Line) : String :=
  (line.time.map Instant.renderMicros).getD "???" ++ " " ++
    Text.alignRight 7 (line.level.getD "") ++ " " ++ line.pod.getD "---" ++ ":" ++
    line.container.getD "---"

theorem display_eq (line : Line) :
    line.display = line.heading ++ " | " ++ withoutEscapes line.message :=
  rfl

theorem escapeSequence_isUnconditional : escapeSequence.isUnconditional = true := by
  decide

theorem strips_withoutEscapes (text : String) :
    Strips escapeSequence.words text.toList (withoutEscapes text).toList :=
  strips_removeAll escapeSequence_isUnconditional delimited_escapeSequence.noEmpty text

/-- A displayed line shows its message behind a bar, with a sequence in it exactly if the message
has a sequence that others stand inside of. No other message changes when it is stripped again. -/
theorem isMatch_withoutEscapes_iff (line : Line) :
    line.display = line.heading ++ " | " ++ withoutEscapes line.message ∧
    (escapeSequence.isMatch (withoutEscapes line.message) = true ↔
      Interrupted escapeSequence.words line.message.toList) ∧
    (withoutEscapes (withoutEscapes line.message) = withoutEscapes line.message ↔
      ¬Interrupted escapeSequence.words line.message.toList) := by
  have found : (∃ word ∈ escapeSequence.words, word <:+: (withoutEscapes line.message).toList) ↔
      Interrupted escapeSequence.words line.message.toList :=
    delimited_escapeSequence.exists_isInfix_iff (strips_withoutEscapes line.message)
  refine ⟨line.display_eq, ?_, ?_⟩
  · rw [isMatch_iff_isInfix escapeSequence_isUnconditional, found]
  · rw [← found, ← String.toList_inj,
      (strips_withoutEscapes _).eq_iff delimited_escapeSequence.noEmpty]
    simp only [not_exists, not_and]

/-- Taking out the inner sequence brings the parts of the outer one together. -/
theorem isMatch_withoutEscapes_nested :
    (ofMessage "\x1b\x1b[0m[0m").display = "???         ---:--- | \x1b[0m" ∧
      escapeSequence.isMatch (withoutEscapes "\x1b\x1b[0m[0m") = true ∧
      withoutEscapes (withoutEscapes "\x1b\x1b[0m[0m") ≠ withoutEscapes "\x1b\x1b[0m[0m" := by
  decide +kernel

end RunTriage.Line
