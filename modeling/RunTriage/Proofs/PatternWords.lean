import Mathlib.Computability.Language
import RunTriage.Proofs.PatternSpans

/-!
Contract: the words that a pattern takes, apart from where they stand.

Owns:
- `words`, the language of a pattern, one case for each kind of pattern;
- `Reads`, where the characters of a text are a word of a language;
- `spans_iff_reads`, by which a pattern without conditions matches exactly where it reads one of
  its words;
- `mem_words_slice`, by which what a match covers is a word.

Does not own: the words of patterns with conditions, which depend on the text around them.
-/

namespace RunTriage.Pattern

/-- A pattern that looks at nothing but the characters it takes. -/
def isUnconditional : Pattern → Bool
  | .check _ => false
  | .sequence first second | .either first second =>
    first.isUnconditional && second.isUnconditional
  | .repeated body _ _ _ | .group _ body => body.isUnconditional
  | .empty | .charIn _ => true

/-- The words that a pattern takes. A condition takes no characters. -/
def words : Pattern → Language Char
  | .empty | .check _ => 1
  | .charIn set => {word | ∃ char, set.contains char = true ∧ word = [char]}
  | .sequence first second => first.words * second.words
  | .either first second => first.words + second.words
  | .repeated body least most _ =>
    {word | ∃ more, (∀ limit ∈ most, more ≤ limit - least) ∧ word ∈ body.words ^ (least + more)}
  | .group _ body => body.words

section Words

variable {set : CharSet} {word : List Char}

theorem mem_words_charIn :
    word ∈ (charIn set).words ↔ ∃ char, set.contains char = true ∧ word = [char] :=
  Iff.rfl

theorem mem_words_literal {char : Char} :
    word ∈ (literal char).words ↔ word = [char] := by
  rw [literal, mem_words_charIn]
  constructor
  · rintro ⟨other, isIn, rfl⟩
    rw [contains_singleton.mp isIn]
  · rintro rfl
    exact ⟨char, contains_singleton.mpr rfl, rfl⟩

theorem mem_words_sequence {first second : Pattern} :
    word ∈ (sequence first second).words ↔
      ∃ head ∈ first.words, ∃ rest ∈ second.words, word = head ++ rest := by
  rw [words, Language.mem_mul]
  simp only [eq_comm]

/-- Any number of characters of a set. -/
theorem mem_words_zeroOrMore_charIn :
    word ∈ (zeroOrMore (charIn set)).words ↔ ∀ char ∈ word, set.contains char = true := by
  constructor
  · rintro ⟨_, _, isWord⟩ char member
    obtain ⟨parts, rfl, _, areChars⟩ := Language.mem_pow.mp isWord
    obtain ⟨part, isPart, inPart⟩ := List.mem_flatten.mp member
    obtain ⟨other, isIn, rfl⟩ := mem_words_charIn.mp (areChars part isPart)
    exact List.mem_singleton.mp inPart ▸ isIn
  · intro areIn
    refine ⟨word.length, by simp, Language.mem_pow.mpr ⟨word.map fun char => [char], ?_, ?_, ?_⟩⟩
    · rw [← List.flatMap_def, List.flatMap_singleton']
    · rw [List.length_map, Nat.zero_add]
    · intro part isPart
      obtain ⟨char, member, rfl⟩ := List.mem_map.mp isPart
      exact ⟨char, areIn char member, rfl⟩

theorem mem_words_group {index : Nat} {body : Pattern} :
    word ∈ (group index body).words ↔ word ∈ body.words :=
  Iff.rfl

theorem mem_words_concat_cons {first : Pattern} {rest : List Pattern} :
    word ∈ (concat (first :: rest)).words ↔
      ∃ head ∈ first.words, ∃ tail ∈ (concat rest).words, word = head ++ tail := by
  cases rest with
  | nil =>
    have alone : (concat [first]).words = first.words * (concat []).words := (mul_one _).symm
    rw [alone, Language.mem_mul]
    simp only [eq_comm]
  | cons second rest => exact mem_words_sequence

theorem mem_words_text {chars : String} : word ∈ (text chars).words ↔ word = chars.toList := by
  rw [text]
  generalize chars.toList = letters
  induction letters generalizing word with
  | nil => exact Language.mem_one word
  | cons letter letters inductionHypothesis =>
    rw [List.map_cons, mem_words_concat_cons]
    simp only [mem_words_literal, inductionHypothesis]
    simp

theorem mem_words_oneOrMore {body : Pattern} :
    word ∈ (oneOrMore body).words ↔
      ∃ head ∈ body.words, ∃ rest ∈ (zeroOrMore body).words, word = head ++ rest := by
  constructor
  · rintro ⟨more, _, isWord⟩
    rw [pow_add, pow_one] at isWord
    obtain ⟨head, isHead, rest, isRest, rfl⟩ := Language.mem_mul.mp isWord
    refine ⟨head, isHead, rest, ⟨more, by simp, ?_⟩, rfl⟩
    rwa [Nat.zero_add]
  · rintro ⟨head, isHead, rest, ⟨more, _, isRest⟩, rfl⟩
    refine ⟨more, by simp, ?_⟩
    rw [Nat.zero_add] at isRest
    rw [pow_add, pow_one]
    exact Language.append_mem_mul isHead isRest

/-- One or more characters of a set. -/
theorem mem_words_oneOrMore_charIn :
    word ∈ (oneOrMore (charIn set)).words ↔
      word ≠ [] ∧ ∀ char ∈ word, set.contains char = true := by
  rw [mem_words_oneOrMore]
  simp only [mem_words_charIn, mem_words_zeroOrMore_charIn]
  constructor
  · rintro ⟨_, ⟨char, isIn, rfl⟩, rest, areIn, rfl⟩
    exact ⟨List.cons_ne_nil _ _, List.forall_mem_cons.mpr ⟨isIn, areIn⟩⟩
  · rintro ⟨nonempty, areIn⟩
    cases word with
    | nil => exact absurd rfl nonempty
    | cons char rest =>
      obtain ⟨isIn, restIn⟩ := List.forall_mem_cons.mp areIn
      exact ⟨[char], ⟨char, isIn, rfl⟩, rest, restIn, rfl⟩

theorem mem_words_optional {body : Pattern} :
    word ∈ (optional body).words ↔ word = [] ∨ word ∈ body.words := by
  constructor
  · rintro ⟨more, within, isWord⟩
    have atMost := within 1 rfl
    obtain rfl | rfl : more = 0 ∨ more = 1 := by omega
    · exact .inl ((Language.mem_one word).mp isWord)
    · rw [Nat.zero_add, pow_one] at isWord
      exact .inr isWord
  · rintro (rfl | isWord)
    · exact ⟨0, fun _ _ => Nat.zero_le _, Language.nil_mem_one⟩
    · refine ⟨1, fun limit isLimit => ?_, ?_⟩
      · cases isLimit
        exact Nat.le_refl 1
      · rwa [Nat.zero_add, pow_one]

end Words

/-- The characters between two positions of a text are a word. -/
def Reads (subject : Subject) (language : Language Char) (start stop : Nat) : Prop :=
  ∃ word ∈ language, stop = start + word.length ∧ word <+: subject.toList.drop start

section Reads

variable {subject : Subject} {start stop : Nat} {first second : Language Char}

theorem append_isPrefix_iff {α : Type} {left right items : List α} :
    left ++ right <+: items ↔ left <+: items ∧ right <+: items.drop left.length := by
  constructor
  · rintro ⟨rest, rfl⟩
    rw [List.append_assoc, List.drop_left]
    exact ⟨List.prefix_append .., List.prefix_append ..⟩
  · rintro ⟨⟨rest, rfl⟩, isPrefix⟩
    rw [List.drop_left] at isPrefix
    exact (List.prefix_append_right_inj left).mpr isPrefix

theorem reads_one : Reads subject 1 start stop ↔ stop = start := by
  constructor
  · rintro ⟨word, isEmpty, ends, _⟩
    rw [(Language.mem_one word).mp isEmpty] at ends
    exact ends
  · rintro rfl
    exact ⟨[], Language.nil_mem_one, rfl, List.nil_prefix⟩

theorem reads_add : Reads subject (first + second) start stop ↔
    Reads subject first start stop ∨ Reads subject second start stop := by
  simp only [Reads, Language.mem_add, or_and_right, exists_or]

/-- A word of a product is a word of each factor, one behind the other. -/
theorem reads_mul : Reads subject (first * second) start stop ↔
    ∃ middle, Reads subject first start middle ∧ Reads subject second middle stop := by
  constructor
  · rintro ⟨_, isWord, rfl, isPrefix⟩
    obtain ⟨head, isHead, rest, isRest, rfl⟩ := Language.mem_mul.mp isWord
    obtain ⟨headPrefix, restPrefix⟩ := append_isPrefix_iff.mp isPrefix
    rw [List.drop_drop] at restPrefix
    refine ⟨start + head.length, ⟨head, isHead, rfl, headPrefix⟩, rest, isRest, ?_, restPrefix⟩
    rw [List.length_append, Nat.add_assoc]
  · rintro ⟨_, ⟨head, isHead, rfl, headPrefix⟩, rest, isRest, rfl, restPrefix⟩
    rw [← List.drop_drop] at restPrefix
    refine ⟨head ++ rest, Language.append_mem_mul isHead isRest, ?_,
      append_isPrefix_iff.mpr ⟨headPrefix, restPrefix⟩⟩
    rw [List.length_append, Nat.add_assoc]

theorem reads_pow {language : Language Char} {count : Nat} :
    Reads subject (language ^ count) start stop ↔
      Rounds (Reads subject language) count start stop := by
  induction count generalizing start with
  | zero =>
    rw [pow_zero, reads_one]
    constructor
    · rintro rfl
      exact .none _
    · rintro ⟨⟩
      rfl
  | succ count inductionHypothesis =>
    rw [pow_succ', reads_mul]
    constructor
    · rintro ⟨middle, turn, later⟩
      exact .more turn (inductionHypothesis.mp later)
    · rintro (_ | ⟨turn, later⟩)
      exact ⟨_, turn, inductionHypothesis.mpr later⟩

theorem reads_repeated {language : Language Char} {least : Nat} {most : Option Nat} :
    Reads subject {word | ∃ more, (∀ limit ∈ most, more ≤ limit - least) ∧
        word ∈ language ^ (least + more)} start stop ↔
      ∃ more, (∀ limit ∈ most, more ≤ limit - least) ∧
        Rounds (Reads subject language) (least + more) start stop := by
  constructor
  · rintro ⟨word, ⟨more, within, isWord⟩, ends⟩
    exact ⟨more, within, reads_pow.mp ⟨word, isWord, ends⟩⟩
  · rintro ⟨more, within, rounds⟩
    obtain ⟨word, isWord, ends⟩ := reads_pow.mpr rounds
    exact ⟨word, ⟨more, within, isWord⟩, ends⟩

end Reads

section Spans

variable {subject : Subject}

theorem singleton_isPrefix_drop_iff {char : Char} {position : Nat} :
    [char] <+: subject.toList.drop position ↔ subject[position]? = some char := by
  have isHead : (subject.toList.drop position)[0]? = subject[position]? := by
    rw [List.getElem?_drop, Nat.add_zero, Array.getElem?_toList]
  rw [← isHead]
  cases subject.toList.drop position with
  | nil => simp
  | cons first rest => simp [eq_comm]

/-- A pattern without conditions matches exactly where the text reads one of its words. -/
theorem spans_iff_reads {pattern : Pattern} (unconditional : pattern.isUnconditional = true)
    {start stop : Nat} :
    Spans subject pattern start stop ↔ Reads subject pattern.words start stop := by
  induction pattern generalizing start stop with
  | empty =>
    rw [words, reads_one]
    constructor
    · rintro ⟨⟩
      rfl
    · rintro rfl
      exact .empty _
  | charIn set =>
    constructor
    · rintro (_ | ⟨isChar, isIn⟩)
      exact ⟨_, ⟨_, isIn, rfl⟩, rfl, singleton_isPrefix_drop_iff.mpr isChar⟩
    · rintro ⟨_, ⟨char, isIn, rfl⟩, rfl, isPrefix⟩
      exact .charIn (singleton_isPrefix_drop_iff.mp isPrefix) isIn
  | check condition => cases unconditional
  | sequence first second firstHypothesis secondHypothesis =>
    obtain ⟨isFirst, isSecond⟩ := (Bool.and_eq_true _ _).mp unconditional
    rw [words, reads_mul]
    constructor
    · rintro (_ | _ | _ | ⟨before, after⟩)
      exact ⟨_, (firstHypothesis isFirst).mp before, (secondHypothesis isSecond).mp after⟩
    · rintro ⟨middle, before, after⟩
      exact .sequence ((firstHypothesis isFirst).mpr before) ((secondHypothesis isSecond).mpr after)
  | either first second firstHypothesis secondHypothesis =>
    obtain ⟨isFirst, isSecond⟩ := (Bool.and_eq_true _ _).mp unconditional
    rw [words, reads_add, ← firstHypothesis isFirst, ← secondHypothesis isSecond]
    constructor
    · intro spans
      cases spans with
      | eitherFirst inner => exact .inl inner
      | eitherSecond inner => exact .inr inner
    · rintro (inner | inner)
      · exact .eitherFirst inner
      · exact .eitherSecond inner
  | repeated body least most greedy inductionHypothesis =>
    have sameTurn : Spans subject body = Reads subject body.words := by
      funext first last
      exact propext (inductionHypothesis unconditional)
    rw [words, reads_repeated, spans_repeated_iff, sameTurn]
  | group index body inductionHypothesis =>
    rw [words, spans_group_iff]
    exact inductionHypothesis unconditional

/-- What a match covers is a word. -/
theorem mem_words_slice {pattern : Pattern} (unconditional : pattern.isUnconditional = true)
    {start stop : Nat} (spans : Spans subject pattern start stop) :
    (Subject.slice subject start stop).toList ∈ pattern.words := by
  obtain ⟨word, isWord, rfl, isPrefix⟩ := (spans_iff_reads unconditional).mp spans
  rw [Subject.slice, String.toList_ofList, Nat.add_sub_cancel_left,
    ← List.prefix_iff_eq_take.mp isPrefix]
  exact isWord

/-- A pattern without conditions matches a text if and only if one of its words occurs there. -/
theorem isMatch_iff_isInfix {pattern : Pattern} (unconditional : pattern.isUnconditional = true)
    {text : String} :
    pattern.isMatch text = true ↔ ∃ word ∈ pattern.words, word <:+: text.toList := by
  rw [isMatch_iff]
  constructor
  · rintro ⟨start, _, stop, spans⟩
    obtain ⟨word, isWord, _, isPrefix⟩ := (spans_iff_reads unconditional).mp spans
    exact ⟨word, isWord, isPrefix.isInfix.trans (List.drop_suffix start text.toList).isInfix⟩
  · rintro ⟨word, isWord, before, after, whole⟩
    have isRest : (subjectOf text).toList.drop before.length = word ++ after := by
      show text.toList.drop before.length = word ++ after
      rw [← whole, List.append_assoc, List.drop_left]
    have inside : before.length ≤ (subjectOf text).size := by
      show before.length ≤ text.toList.toArray.size
      rw [List.size_toArray, ← whole]
      simp
    refine ⟨before.length, inside, before.length + word.length, ?_⟩
    exact (spans_iff_reads unconditional).mpr ⟨word, isWord, rfl, isRest ▸ List.prefix_append ..⟩

end Spans

end RunTriage.Pattern
