import RunTriage.Proofs.EnclosedText

/-!
Contract: classes in brackets, within a text that stands in parentheses.

Owns:
- ASCII classes by name, which are found in parentheses exactly if they are found without them;
- the character looked at in advance, which the closing parenthesis does not change where it counts;
- classes of any depth, which are read the same in parentheses.

Does not own: what a class stands for.
-/

namespace RunTriage.Pattern.Reader

/-! ## Classes in brackets -/

theorem takeWhile_append_of_drop {accepts : Char → Bool} {chars rest : List Char} {stop : Char}
    (later : List Char)
    (stops : chars.drop (chars.takeWhile accepts).length = stop :: rest) :
    (chars ++ later).takeWhile accepts = chars.takeWhile accepts ∧
      (chars ++ later).drop (chars.takeWhile accepts).length = stop :: (rest ++ later) := by
  have notAll : (chars.takeWhile accepts).length ≠ chars.length := by
    intro all
    rw [all, List.drop_length] at stops
    cases stops
  constructor
  · rw [List.takeWhile_append, if_neg notAll]
  · rw [List.drop_append_of_le_length (List.takeWhile_sublist _).length_le, stops]
    rfl

/-- An ASCII class after its colon and the sign that negates it. -/
def readAsciiName (negated : Bool) (chars : List Char) : Option (ClassItem × List Char) :=
  let name := chars.takeWhile (· ≠ ':')
  match chars.drop name.length with
  | ':' :: ']' :: rest =>
    (asciiClass? (String.ofList name)).map fun set => (.ascii set negated, rest)
  | _ => none

theorem readAsciiName_enclosed (negated : Bool) (chars : List Char) :
    readAsciiName negated (chars ++ [')']) =
      (readAsciiName negated chars).map fun found => (found.1, found.2 ++ [')']) := by
  rw [readAsciiName, readAsciiName]
  cases stops : chars.drop (chars.takeWhile (· ≠ ':')).length with
  | nil =>
    have whole : chars.takeWhile (· ≠ ':') = chars := by
      have length := List.drop_eq_nil_iff.mp stops
      exact (List.takeWhile_sublist _).eq_of_length_le length
    have noColon : (chars ++ [')']).takeWhile (· ≠ ':') = chars ++ [')'] := by
      rw [List.takeWhile_append, if_pos (congrArg List.length whole)]
      rfl
    rw [noColon, List.drop_length]
    rfl
  | cons stop rest =>
    obtain ⟨sameName, onward⟩ := takeWhile_append_of_drop [')'] stops
    rw [sameName, onward]
    by_cases isColon : stop = ':'
    · subst isColon
      cases rest with
      | nil => rfl
      | cons next others =>
        by_cases isEnd : next = ']'
        · subst isEnd
          simp only [List.cons_append, Option.map_map]
          rfl
        · simp [isEnd]
    · simp [isColon]

theorem readAsciiClass_enclosed (chars : List Char) :
    readAsciiClass (chars ++ [')']) =
      (readAsciiClass chars).map fun found => (found.1, found.2 ++ [')']) := by
  have plain {rest : List Char} (noCaret : ∀ later, rest ≠ '^' :: later) :
      readAsciiClass (':' :: rest) = readAsciiName false rest := by
    unfold readAsciiClass
    split
    · rename_i isColon
      cases isColon
      split
      rename_i isNegated
      split at isNegated
      · exact absurd rfl (noCaret _)
      · cases isNegated
        rfl
    · rename_i noColon
      exact absurd rfl (noColon rest)
  cases chars with
  | nil => rfl
  | cons char rest =>
    by_cases isColon : char = ':'
    · subst isColon
      cases rest with
      | nil => exact readAsciiName_enclosed false []
      | cons first others =>
        by_cases isCaret : first = '^'
        · subst isCaret
          exact readAsciiName_enclosed true others
        · have noCaret (more later : List Char) : first :: more ≠ '^' :: later :=
            fun same => isCaret (List.cons.inj same).1
          have named := readAsciiName_enclosed false (first :: others)
          rw [← plain (noCaret others), List.cons_append, ← plain (noCaret _)] at named
          exact named
    · simp [readAsciiClass, isColon]

theorem mirrors_readClassStart (ignoreSpace : Bool) {fuel enough : Nat} (upTo : fuel ≤ enough)
    {inner outer : List Char} (enclosed : Enclosed inner outer) (items : List ClassItem) :
    Mirrors SameFound (readClassStart ignoreSpace fuel inner items)
      (readClassStart ignoreSpace enough outer items) := by
  induction fuel generalizing enough inner outer items with
  | zero => exact .none
  | succ fuel inductionHypothesis =>
    cases enough with
    | zero => cases upTo
    | succ enough =>
      cases inner with
      | nil => exact .none
      | cons char rest =>
        obtain rfl := enclosed.eq_cons
        have start := enclosed_skip_append ignoreSpace rest
        rw [readClassStart, readClassStart]
        split
        · exact inductionHypothesis (Nat.le_of_succ_le_succ upTo) start _
        · split
          · generalize skip ignoreSpace rest = begin at start ⊢
            generalize skip ignoreSpace (rest ++ [')']) = outerBegin at start ⊢
            cases begin with
            | nil => exact .none
            | cons first others =>
              obtain rfl := start.eq_cons
              exact .some ⟨rfl, enclosed_append _⟩
          · exact .some ⟨rfl, enclosed⟩

theorem mirrors_readClassOpen (ignoreSpace : Bool) {inner outer : List Char}
    (enclosed : Enclosed inner outer) :
    Mirrors SameTwo
      (readClassOpen ignoreSpace inner) (readClassOpen ignoreSpace outer) := by
  have start := enclosed.skip ignoreSpace
  rw [readClassOpen, readClassOpen]
  generalize skip ignoreSpace inner = begin at start ⊢
  generalize skip ignoreSpace outer = outerBegin at start ⊢
  cases begin with
  | nil => exact .none
  | cons char rest =>
    obtain rfl := start.eq_cons
    dsimp only
    split
    · have items := enclosed_skip_append ignoreSpace rest
      exact (mirrors_readClassStart ignoreSpace (Nat.succ_le_succ items.length_le) items []).map
        fun _ _ sameItems => ⟨rfl, sameItems⟩
    · have upTo : rest.length + 2 ≤ (rest ++ [')']).length + 2 := by simp
      exact (mirrors_readClassStart ignoreSpace upTo (enclosed_append (char :: rest)) []).map
        fun _ _ sameItems => ⟨rfl, sameItems⟩

theorem mirrors_readClassUnit (ignoreSpace : Bool) {inner outer : List Char}
    (enclosed : Enclosed inner outer) :
    Mirrors SameFound (readClassUnit ignoreSpace inner) (readClassUnit ignoreSpace outer) := by
  cases inner with
  | nil => exact .none
  | cons char rest =>
    obtain rfl := enclosed.eq_cons
    rw [readClassUnit, readClassUnit]
    split
    · exact mirrors_readEscape ignoreSpace (enclosed_append rest)
    · exact .some ⟨rfl, enclosed_append rest⟩

theorem peekFrom_close (inComment : Bool) (chars : List Char) :
    peekFrom inComment (chars ++ [')']) = (peekFrom inComment chars).or (some ')') := by
  induction chars generalizing inComment with
  | nil => cases inComment <;> simp [peekFrom, isBlank_close]
  | cons char rest inductionHypothesis =>
    rw [List.cons_append, peekFrom, peekFrom]
    split
    · exact inductionHypothesis inComment
    · split
      · exact inductionHypothesis true
      · rfl

theorem head?_close (rest : List Char) {wanted : Char} (noClose : wanted ≠ ')') :
    (rest ++ [')']).head? = some wanted ↔ rest.head? = some wanted := by
  cases rest with
  | nil => simp [noClose.symm]
  | cons first others => exact Iff.rfl

/-- A solid character is the next one in parentheses if it is without them. -/
theorem peek_close (ignoreSpace : Bool) (char : Char) (rest : List Char) {wanted : Char}
    (solid : Text.isBlank wanted = false) (noClose : wanted ≠ ')') (noComment : wanted ≠ '#') :
    peek ignoreSpace (char :: (rest ++ [')'])) = some wanted ↔
      peek ignoreSpace (char :: rest) = some wanted := by
  cases ignoreSpace with
  | false => exact head?_close rest noClose
  | true =>
    simp only [peek, List.drop_succ_cons, List.drop_zero, if_true, peekFrom_close]
    cases ahead : peekFrom false rest with
    | some next => exact Iff.rfl
    | none =>
      -- Nothing solid is left, so the closing parenthesis is next, or nothing at all.
      refine iff_of_false (by simp [noClose.symm]) fun isHead => ?_
      cases rest with
      | nil => cases isHead
      | cons first others =>
        obtain rfl : first = wanted := by simpa using isHead
        simp [peekFrom, solid, noComment] at ahead

theorem mirrors_readClassItem (ignoreSpace : Bool) {inner outer : List Char}
    (enclosed : Enclosed inner outer) :
    Mirrors SameFound (readClassItem ignoreSpace inner) (readClassItem ignoreSpace outer) := by
  refine (mirrors_readClassUnit ignoreSpace enclosed).bind ?_
  rintro ⟨_, behind⟩ ⟨first, later⟩ ⟨rfl, isBehind⟩
  have start := isBehind.skip ignoreSpace
  dsimp only
  generalize skip ignoreSpace behind = begin at start ⊢
  generalize skip ignoreSpace later = outerBegin at start ⊢
  cases begin with
  | nil => exact .none
  | cons char after =>
    obtain rfl := start.eq_cons
    have bracket := peek_close ignoreSpace char after (by decide : Text.isBlank ']' = false)
      (by decide) (by decide)
    have hyphen := peek_close ignoreSpace char after (by decide : Text.isBlank '-' = false)
      (by decide) (by decide)
    dsimp only
    simp only [bracket, hyphen]
    split
    · cases itemOf? first with
      | none => exact .none
      | some _ => exact .some ⟨rfl, start⟩
    · refine (mirrors_readClassUnit ignoreSpace
        (enclosed_skip_append ignoreSpace after)).bind ?_
      rintro ⟨_, behindSecond⟩ ⟨second, laterSecond⟩ ⟨rfl, isBehindSecond⟩
      dsimp only
      split
      · split
        · exact .some ⟨rfl, isBehindSecond⟩
        · exact .none
      · exact .none

theorem mirrors_readClassBody (ignoreSpace : Bool) {fuel enough : Nat} (upTo : fuel ≤ enough)
    {inner outer : List Char} (enclosed : Enclosed inner outer) (stack : List OpenClass)
    (items : List ClassItem) :
    Mirrors SameFound (readClassBody ignoreSpace fuel stack items inner)
      (readClassBody ignoreSpace enough stack items outer) := by
  induction fuel generalizing enough inner outer stack items with
  | zero => exact .none
  | succ fuel inductionHypothesis =>
    cases enough with
    | zero => cases upTo
    | succ enough =>
      have goesOn {rest later : List Char} (behind : Enclosed rest later) :=
        inductionHypothesis (Nat.le_of_succ_le_succ upTo) behind
      have start := enclosed.skip ignoreSpace
      unfold readClassBody
      generalize skip ignoreSpace inner = begin at start ⊢
      generalize skip ignoreSpace outer = outerBegin at start ⊢
      cases stack with
      | nil => exact .none
      | cons current others =>
        cases begin with
        | nil => exact .none
        | cons char rest =>
          obtain rfl := start.eq_cons
          have operation (kind : SetOperation) {sign : Char} (isHead : rest.head? = some sign) :
              Mirrors SameFound
                (readClassBody ignoreSpace fuel
                  ({ current with waiting := some (kind, closeBody current.waiting items) } ::
                    others) [] (rest.drop 1))
                (readClassBody ignoreSpace enough
                  ({ current with waiting := some (kind, closeBody current.waiting items) } ::
                    others) [] ((rest ++ [')']).drop 1)) := by
            obtain ⟨behind, rfl⟩ := List.head?_eq_some_iff.mp isHead
            exact goesOn (enclosed_append behind) _ _
          dsimp only
          simp only [head?_close rest (by decide : '&' ≠ ')'),
            head?_close rest (by decide : '-' ≠ ')'), head?_close rest (by decide : '~' ≠ ')')]
          split
          · rw [readAsciiClass_enclosed]
            cases ascii : readAsciiClass rest with
            | some found => exact goesOn (enclosed_append found.2) _ _
            | none =>
              have opening := mirrors_readClassOpen ignoreSpace (enclosed_append rest)
              cases isOpen : readClassOpen ignoreSpace rest with
              | none => exact .none
              | some opened =>
                obtain ⟨⟨_, _, later⟩, isOther, rfl, rfl, behind⟩ := opening _ isOpen
                rw [isOther]
                exact goesOn behind _ _
          · split
            · cases others with
              | nil => exact .some ⟨rfl, enclosed_append rest⟩
              | cons next others => exact goesOn (enclosed_append rest) _ _
            · split
              · rename_i signs
                simp only [Bool.and_eq_true, decide_eq_true_eq] at signs
                exact operation _ signs.2
              · split
                · rename_i signs
                  simp only [Bool.and_eq_true, decide_eq_true_eq] at signs
                  exact operation _ signs.2
                · split
                  · rename_i signs
                    simp only [Bool.and_eq_true, decide_eq_true_eq] at signs
                    exact operation _ signs.2
                  · have item := mirrors_readClassItem ignoreSpace (enclosed_append (char :: rest))
                    cases isItem : readClassItem ignoreSpace (char :: rest) with
                    | none => exact .none
                    | some found =>
                      obtain ⟨⟨_, later⟩, isOther, rfl, behind⟩ := item _ isItem
                      rw [List.cons_append] at isOther
                      rw [isOther]
                      exact goesOn behind _ _

theorem mirrors_readClass (ignoreSpace : Bool) {inner outer : List Char}
    (enclosed : Enclosed inner outer) :
    Mirrors SameFound (readClass ignoreSpace inner) (readClass ignoreSpace outer) := by
  have opening := mirrors_readClassOpen ignoreSpace enclosed
  rw [readClass, readClass]
  cases isOpen : readClassOpen ignoreSpace inner with
  | none => exact .none
  | some opened =>
    obtain ⟨⟨_, _, later⟩, isOther, rfl, rfl, behind⟩ := opening _ isOpen
    rw [isOther]
    exact mirrors_readClassBody ignoreSpace (Nat.succ_le_succ enclosed.length_le) behind _ _

end RunTriage.Pattern.Reader
