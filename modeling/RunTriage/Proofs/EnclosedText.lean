import RunTriage.Pattern.Compile

/-!
Contract: reading a text that stands in parentheses.

Owns:
- `Enclosed`, which relates what is left of a text to what is left of it in parentheses;
- `Mirrors`, by which a reader finds in parentheses whatever it finds without them;
- numbers and escapes, which are read the same in both.

Does not own: classes and groups, which are in `RunTriage.Proofs.EnclosedClasses` and
`RunTriage.Proofs.EnclosedGroups`.
-/

namespace RunTriage.Pattern.Reader

/-! ## What is left of a text -/

/-- What is left of a text, and what is left of it in parentheses. A comment at the end of the
text takes in the closing parenthesis. -/
def Enclosed (inner outer : List Char) : Prop :=
  outer = inner ++ [')'] ∨ inner = [] ∧ outer = []

theorem enclosed_append (inner : List Char) : Enclosed inner (inner ++ [')']) := .inl rfl

namespace Enclosed

variable {inner outer : List Char}

theorem eq_cons {char : Char} {rest : List Char} (enclosed : Enclosed (char :: rest) outer) :
    outer = char :: (rest ++ [')']) := by
  rcases enclosed with same | ⟨empty, _⟩
  · exact same
  · cases empty

theorem length_le (enclosed : Enclosed inner outer) : inner.length ≤ outer.length := by
  rcases enclosed with rfl | ⟨rfl, rfl⟩
  · rw [List.length_append]
    exact Nat.le_add_right _ _
  · exact Nat.le_refl 0

theorem ne_cons (enclosed : Enclosed inner outer) {char : Char} (noClose : char ≠ ')')
    (other : ∀ later, inner ≠ char :: later) (later : List Char) : outer ≠ char :: later := by
  rintro rfl
  rcases enclosed with same | ⟨_, same⟩
  · cases inner with
    | nil => exact noClose (List.cons.inj same).1
    | cons first rest => exact other rest (by rw [(List.cons.inj same).1])
  · cases same

theorem of_nil (enclosed : Enclosed [] outer) : outer = [')'] ∨ outer = [] :=
  enclosed.imp id And.right

end Enclosed

theorem isBlank_close : Text.isBlank ')' = false := by decide

theorem enclosed_skipComments (inComment : Bool) (inner : List Char) :
    Enclosed (skipComments inComment inner) (skipComments inComment (inner ++ [')'])) := by
  induction inner generalizing inComment with
  | nil =>
    cases inComment with
    | false =>
      refine .inl ?_
      simp [skipComments, isBlank_close]
    | true => exact .inr ⟨rfl, by simp [skipComments]⟩
  | cons char rest inductionHypothesis =>
    rw [List.cons_append, skipComments, skipComments]
    split
    · exact inductionHypothesis _
    · split
      · exact inductionHypothesis false
      · split
        · exact inductionHypothesis true
        · exact .inl rfl

theorem Enclosed.skip {inner outer : List Char} (enclosed : Enclosed inner outer)
    (ignoreSpace : Bool) : Enclosed (skip ignoreSpace inner) (skip ignoreSpace outer) := by
  cases ignoreSpace with
  | false => exact enclosed
  | true =>
    rcases enclosed with rfl | ⟨rfl, rfl⟩
    · exact enclosed_skipComments false inner
    · exact .inr ⟨rfl, rfl⟩

theorem enclosed_skip_append (ignoreSpace : Bool) (inner : List Char) :
    Enclosed (skip ignoreSpace inner) (skip ignoreSpace (inner ++ [')'])) :=
  (enclosed_append inner).skip ignoreSpace

theorem Enclosed.trimStart {inner outer : List Char} (enclosed : Enclosed inner outer) :
    Enclosed (Text.trimStart inner) (Text.trimStart outer) := by
  rcases enclosed with rfl | ⟨rfl, rfl⟩
  · induction inner with
    | nil => exact .inl (Text.trimStart_of_not_blank isBlank_close)
    | cons char rest inductionHypothesis =>
      rw [Text.trimStart, Text.trimStart, List.cons_append, List.dropWhile_cons,
        List.dropWhile_cons]
      split
      · exact inductionHypothesis
      · exact .inl rfl
  · exact .inr ⟨rfl, rfl⟩

theorem length_skipComments_le (inComment : Bool) (chars : List Char) :
    (skipComments inComment chars).length ≤ chars.length := by
  induction chars generalizing inComment with
  | nil => exact Nat.le_refl 0
  | cons char rest inductionHypothesis =>
    rw [skipComments, List.length_cons]
    split
    · exact Nat.le_succ_of_le (inductionHypothesis _)
    · split
      · exact Nat.le_succ_of_le (inductionHypothesis _)
      · split
        · exact Nat.le_succ_of_le (inductionHypothesis _)
        · exact Nat.le_refl _

theorem length_skip_le (ignoreSpace : Bool) (chars : List Char) :
    (skip ignoreSpace chars).length ≤ chars.length := by
  cases ignoreSpace with
  | false => exact Nat.le_refl _
  | true => exact length_skipComments_le false chars

/-- Whatever the first result holds, the second one holds something related to it. -/
def Mirrors {α β : Type} (related : α → β → Prop) (result : Option α) (other : Option β) : Prop :=
  ∀ found, result = some found → ∃ mirrored, other = some mirrored ∧ related found mirrored

namespace Mirrors

variable {α β γ δ : Type} {related : α → β → Prop} {result : Option α} {other : Option β}

theorem none : Mirrors related .none other := fun _ isNone => nomatch isNone

theorem some {found : α} {mirrored : β} (isRelated : related found mirrored) :
    Mirrors related (.some found) (.some mirrored) := by
  intro same isSame
  cases isSame
  exact ⟨mirrored, rfl, isRelated⟩

theorem map {onward : γ → δ → Prop} {make : α → γ} {makeOther : β → δ}
    (mirrors : Mirrors related result other)
    (made : ∀ found mirrored, related found mirrored → onward (make found) (makeOther mirrored)) :
    Mirrors onward (result.map make) (other.map makeOther) := by
  intro last isLast
  obtain ⟨found, isFound, rfl⟩ := Option.map_eq_some_iff.mp isLast
  obtain ⟨mirrored, isMirrored, isRelated⟩ := mirrors found isFound
  exact ⟨makeOther mirrored, by rw [isMirrored]; rfl, made found mirrored isRelated⟩

theorem bind {onward : γ → δ → Prop} {next : α → Option γ} {nextOther : β → Option δ}
    (mirrors : Mirrors related result other)
    (goesOn : ∀ found mirrored, related found mirrored →
      Mirrors onward (next found) (nextOther mirrored)) :
    Mirrors onward (result.bind next) (other.bind nextOther) := by
  intro last isLast
  obtain ⟨found, isFound, isNext⟩ := Option.bind_eq_some_iff.mp isLast
  obtain ⟨mirrored, isMirrored, isRelated⟩ := mirrors found isFound
  obtain ⟨lastOther, isOther, lastRelated⟩ := goesOn found mirrored isRelated last isNext
  exact ⟨lastOther, by rw [isMirrored]; exact isOther, lastRelated⟩

end Mirrors

/-- The same was found, in a text and in the text in parentheses. -/
structure SameFound {α : Type} (found other : α × List Char) : Prop where
  same : other.1 = found.1
  rest : Enclosed found.2 other.2

/-- The same two things were found. -/
def SameTwo {α β : Type} (found other : α × β × List Char) : Prop :=
  other.1 = found.1 ∧ SameFound found.2 other.2

/-! ## Numbers -/

/-- Characters of a kind with what is skipped between them. -/
def readRun (accepts : Char → Bool) (ignoreSpace : Bool) :
    Nat → List Char → List Char × List Char
  | 0, chars => ([], chars)
  | fuel + 1, chars =>
    match chars with
    | [] => ([], [])
    | char :: rest =>
      if accepts char then
        let later := readRun accepts ignoreSpace fuel (skip ignoreSpace rest)
        (char :: later.1, later.2)
      else ([], chars)

theorem readDigits_eq (ignoreSpace : Bool) (fuel : Nat) (chars : List Char) :
    readDigits ignoreSpace fuel chars = readRun Char.isDigit ignoreSpace fuel chars := by
  induction fuel generalizing chars with
  | zero => rfl
  | succ fuel inductionHypothesis =>
    cases chars with
    | nil => rfl
    | cons char rest => rw [readDigits, readRun, inductionHypothesis]

theorem readBoundaryName_eq (ignoreSpace : Bool) (fuel : Nat) (chars : List Char) :
    readBoundaryName ignoreSpace fuel chars = readRun isBoundaryChar ignoreSpace fuel chars := by
  induction fuel generalizing chars with
  | zero => rfl
  | succ fuel inductionHypothesis =>
    cases chars with
    | nil => rfl
    | cons char rest => rw [readBoundaryName, readRun, inductionHypothesis]

/-- With fuel for all characters, a run ends where it ends in parentheses. -/
theorem sameFound_readRun {accepts : Char → Bool} (stops : accepts ')' = false)
    (ignoreSpace : Bool) {fuel enough : Nat} {inner outer : List Char}
    (enclosed : Enclosed inner outer) (within : inner.length ≤ fuel)
    (outerWithin : outer.length ≤ enough) :
    SameFound (readRun accepts ignoreSpace fuel inner)
      (readRun accepts ignoreSpace enough outer) := by
  have atEnd (fuel : Nat) : readRun accepts ignoreSpace fuel [] = ([], []) := by
    cases fuel <;> rfl
  have atClose (fuel : Nat) : readRun accepts ignoreSpace fuel [')'] = ([], [')']) := by
    cases fuel <;> simp [readRun, stops]
  have nothing (fuel enough : Nat) {outer : List Char} (enclosed : Enclosed [] outer) :
      SameFound (readRun accepts ignoreSpace fuel [])
        (readRun accepts ignoreSpace enough outer) := by
    rcases enclosed.of_nil with rfl | rfl
    · rw [atEnd, atClose]
      exact ⟨rfl, .inl rfl⟩
    · rw [atEnd, atEnd]
      exact ⟨rfl, .inr ⟨rfl, rfl⟩⟩
  induction fuel generalizing enough inner outer with
  | zero =>
    obtain rfl := List.length_eq_zero_iff.mp (Nat.le_zero.mp within)
    exact nothing 0 enough enclosed
  | succ fuel inductionHypothesis =>
    cases inner with
    | nil => exact nothing (fuel + 1) enough enclosed
    | cons char rest =>
      obtain rfl := enclosed.eq_cons
      cases enough with
      | zero => cases outerWithin
      | succ enough =>
        rw [readRun, readRun]
        dsimp only
        split
        · have skipped := length_skip_le ignoreSpace rest
          have outerSkipped := length_skip_le ignoreSpace (rest ++ [')'])
          rw [List.length_cons] at within outerWithin
          have later := inductionHypothesis (enclosed_skip_append ignoreSpace rest)
            (by omega : _ ≤ fuel) (by omega : _ ≤ enough)
          exact ⟨congrArg (List.cons char) later.same, later.rest⟩
        · exact ⟨rfl, .inl rfl⟩

theorem mirrors_readCount (ignoreSpace : Bool) {inner outer : List Char}
    (enclosed : Enclosed inner outer) :
    Mirrors SameFound (readCount ignoreSpace inner) (readCount ignoreSpace outer) := by
  have noDigit : Char.isDigit ')' = false := by decide
  have digits := sameFound_readRun noDigit ignoreSpace enclosed.trimStart (Nat.le_refl _)
    (Nat.le_refl _)
  rw [readCount, readCount, readDigits_eq, readDigits_eq, digits.same]
  split
  · exact .none
  · exact .some ⟨rfl, digits.rest.trimStart.skip ignoreSpace⟩

/-! ## Escapes -/

theorem mirrors_readHexDigits (ignoreSpace : Bool) (count : Nat) {inner outer : List Char}
    (enclosed : Enclosed inner outer) :
    Mirrors SameFound (readHexDigits ignoreSpace count inner)
      (readHexDigits ignoreSpace count outer) := by
  induction count generalizing inner outer with
  | zero => exact .some ⟨rfl, enclosed⟩
  | succ count inductionHypothesis =>
    cases inner with
    | nil => exact .none
    | cons char rest =>
      obtain rfl := enclosed.eq_cons
      rw [readHexDigits, readHexDigits]
      split
      · exact (inductionHypothesis (enclosed_skip_append ignoreSpace rest)).map
          fun _ _ later => ⟨congrArg (List.cons char) later.same, later.rest⟩
      · exact .none

theorem mirrors_readHexBrace (ignoreSpace : Bool) {fuel enough : Nat} (upTo : fuel ≤ enough)
    {inner outer : List Char} (enclosed : Enclosed inner outer) :
    Mirrors SameFound (readHexBrace ignoreSpace fuel inner)
      (readHexBrace ignoreSpace enough outer) := by
  induction fuel generalizing enough inner outer with
  | zero => exact .none
  | succ fuel inductionHypothesis =>
    cases enough with
    | zero => cases upTo
    | succ enough =>
      cases inner with
      | nil => exact .none
      | cons char rest =>
        obtain rfl := enclosed.eq_cons
        rw [readHexBrace, readHexBrace]
        split
        · exact .some ⟨rfl, enclosed_skip_append ignoreSpace rest⟩
        · split
          · exact (inductionHypothesis (Nat.le_of_succ_le_succ upTo)
              (enclosed_skip_append ignoreSpace rest)).map
                fun _ _ later => ⟨congrArg (List.cons char) later.same, later.rest⟩
          · exact .none

theorem mirrors_readHex (ignoreSpace : Bool) (width : Nat) {inner outer : List Char}
    (enclosed : Enclosed inner outer) :
    Mirrors SameFound (readHex ignoreSpace width inner) (readHex ignoreSpace width outer) := by
  cases inner with
  | nil => exact .none
  | cons char rest =>
    obtain rfl := enclosed.eq_cons
    rw [readHex, readHex]
    split
    · have start := enclosed_skip_append ignoreSpace rest
      refine (mirrors_readHexBrace ignoreSpace (Nat.succ_le_succ start.length_le) start).bind ?_
      rintro ⟨_, behind⟩ ⟨digits, later⟩ ⟨rfl, isBehind⟩
      dsimp only
      split
      · exact .none
      · cases hexChar? digits with
        | none => exact .none
        | some _ => exact .some ⟨rfl, isBehind⟩
    · refine (mirrors_readHexDigits ignoreSpace width (enclosed_append (char :: rest))).bind ?_
      rintro ⟨_, behind⟩ ⟨digits, later⟩ ⟨rfl, isBehind⟩
      dsimp only
      cases hexChar? digits with
      | none => exact .none
      | some _ => exact .some ⟨rfl, isBehind⟩

theorem mirrors_readBraced (ignoreSpace : Bool) {fuel enough : Nat} (upTo : fuel ≤ enough)
    {inner outer : List Char} (enclosed : Enclosed inner outer) :
    Mirrors SameFound (readBraced ignoreSpace fuel inner)
      (readBraced ignoreSpace enough outer) := by
  induction fuel generalizing enough inner outer with
  | zero => exact .none
  | succ fuel inductionHypothesis =>
    cases enough with
    | zero => cases upTo
    | succ enough =>
      cases inner with
      | nil => exact .none
      | cons char rest =>
        obtain rfl := enclosed.eq_cons
        rw [readBraced, readBraced]
        split
        · exact .some ⟨rfl, enclosed_append rest⟩
        · exact (inductionHypothesis (Nat.le_of_succ_le_succ upTo)
            (enclosed_skip_append ignoreSpace rest)).map
              fun _ _ later => ⟨congrArg (List.cons char) later.same, later.rest⟩

theorem mirrors_readProperty (ignoreSpace negated : Bool) {inner outer : List Char}
    (enclosed : Enclosed inner outer) :
    Mirrors SameFound (readProperty ignoreSpace negated inner)
      (readProperty ignoreSpace negated outer) := by
  cases inner with
  | nil => exact .none
  | cons char rest =>
    obtain rfl := enclosed.eq_cons
    rw [readProperty, readProperty]
    split
    · have start := enclosed_skip_append ignoreSpace rest
      exact (mirrors_readBraced ignoreSpace (Nat.succ_le_succ start.length_le) start).map
        fun _ _ later => ⟨congrArg (queryOf negated) later.same, later.rest⟩
    · split
      · exact .none
      · exact .some ⟨rfl, enclosed_skip_append ignoreSpace rest⟩

theorem readBoundary_other (ignoreSpace : Bool) {chars : List Char}
    (noBrace : ∀ rest, chars ≠ '\x7b' :: rest) :
    readBoundary ignoreSpace chars = some (.anchor .wordBoundary, chars) := by
  unfold readBoundary
  split
  · exact absurd rfl (noBrace _)
  · rfl

theorem mirrors_readBoundary (ignoreSpace : Bool) {inner outer : List Char}
    (enclosed : Enclosed inner outer) :
    Mirrors SameFound (readBoundary ignoreSpace inner) (readBoundary ignoreSpace outer) := by
  have noBoundary : isBoundaryChar ')' = false := by decide
  cases inner with
  | nil =>
    rcases enclosed.of_nil with rfl | rfl <;> exact .some ⟨rfl, enclosed⟩
  | cons char rest =>
    obtain rfl := enclosed.eq_cons
    by_cases opens : char = '\x7b'
    · subst opens
      simp only [readBoundary]
      have start := enclosed_skip_append ignoreSpace rest
      generalize skip ignoreSpace rest = begin at start ⊢
      generalize skip ignoreSpace (rest ++ [')']) = outerBegin at start ⊢
      cases begin with
      | nil => exact .none
      | cons first others =>
        obtain rfl := start.eq_cons
        dsimp only
        split
        · have name : SameFound
              (readRun isBoundaryChar ignoreSpace (others.length + 1) (first :: others))
              (readRun isBoundaryChar ignoreSpace ((others ++ [')']).length + 1)
                (first :: (others ++ [')']))) :=
            sameFound_readRun noBoundary ignoreSpace (enclosed_append (first :: others))
              (Nat.le_refl _) (Nat.le_refl _)
          rw [readBoundaryName_eq, readBoundaryName_eq, name.same]
          have behind := name.rest
          split
          · rename_i later isBrace
            rw [isBrace] at behind
            rw [behind.eq_cons]
            cases boundary? _ with
            | none => exact .none
            | some _ => exact .some ⟨rfl, enclosed_append later⟩
          · exact .none
        · exact .some ⟨rfl, enclosed⟩
    · have noBrace (other later : List Char) : char :: other ≠ '\x7b' :: later :=
        fun same => opens (List.cons.inj same).1
      rw [readBoundary_other ignoreSpace (noBrace rest),
        readBoundary_other ignoreSpace (noBrace (rest ++ [')']))]
      exact .some ⟨rfl, enclosed⟩

theorem mirrors_readEscape (ignoreSpace : Bool) {inner outer : List Char}
    (enclosed : Enclosed inner outer) :
    Mirrors SameFound (readEscape ignoreSpace inner) (readEscape ignoreSpace outer) := by
  cases inner with
  | nil => exact .none
  | cons char rest =>
    obtain rfl := enclosed.eq_cons
    have start := enclosed_skip_append ignoreSpace rest
    have hex (width : Nat) :
        Mirrors SameFound
          ((readHex ignoreSpace width (skip ignoreSpace rest)).map
            fun read => (Tree.char read.1, read.2))
          ((readHex ignoreSpace width (skip ignoreSpace (rest ++ [')']))).map
            fun read => (Tree.char read.1, read.2)) :=
      (mirrors_readHex ignoreSpace width start).map
        fun _ _ later => ⟨congrArg Tree.char later.same, later.rest⟩
    unfold readEscape
    dsimp only
    split
    · exact .none
    · split
      · exact .some ⟨rfl, enclosed_append rest⟩
      · split
        case h_1 => exact hex 2
        case h_2 => exact hex 4
        case h_3 => exact hex 8
        case h_4 => exact mirrors_readProperty ignoreSpace false start
        case h_5 => exact mirrors_readProperty ignoreSpace true start
        case h_20 => exact mirrors_readBoundary ignoreSpace (enclosed_append rest)
        all_goals first | exact .some ⟨rfl, enclosed_append rest⟩ | exact .none

end RunTriage.Pattern.Reader
