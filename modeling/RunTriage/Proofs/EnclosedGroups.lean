import RunTriage.Proofs.EnclosedClasses

/-!
Contract: groups and the whole pattern, within a text that stands in parentheses.

Owns:
- `SameState`, which holds of two readers if one of them stands within one more group;
- the constructs that change that state, and every step, which are the same in both;
- the tree of a text in parentheses, if the text is a pattern of its own.

Does not own: texts that are no patterns of their own, which may close the parenthesis before them
and open the one behind them.
-/

namespace RunTriage.Pattern.Reader

/-! ## Groups -/

theorem mirrors_readSwitches {inner outer : List Char} (enclosed : Enclosed inner outer)
    (negating dangling : Bool) (read : Switches) :
    Mirrors SameTwo
      (readSwitches inner negating dangling read) (readSwitches outer negating dangling read) := by
  induction inner generalizing outer negating dangling read with
  | nil => exact .none
  | cons char rest inductionHypothesis =>
    obtain rfl := enclosed.eq_cons
    have goesOn := inductionHypothesis (enclosed_append rest)
    rw [readSwitches, readSwitches]
    split
    · split
      · exact .none
      · exact .some ⟨rfl, rfl, enclosed_append rest⟩
    · split
      · split
        · exact .none
        · exact goesOn true true read
      · split
        · split
          · exact .none
          · exact goesOn negating false _
        · exact .none

theorem mirrors_readGroupName {inner outer : List Char} (enclosed : Enclosed inner outer) :
    Mirrors SameFound (readGroupName inner) (readGroupName outer) := by
  rcases enclosed with rfl | ⟨rfl, rfl⟩
  · cases stops : inner.drop (inner.takeWhile (· ≠ '>')).length with
    | nil =>
      rw [readGroupName, stops]
      exact .none
    | cons stop rest =>
      obtain ⟨sameName, onward⟩ := takeWhile_append_of_drop [')'] stops
      rw [readGroupName, readGroupName, sameName, onward, stops]
      split
      · rename_i isEnd
        cases isEnd
        cases inner.takeWhile (· ≠ '>') with
        | nil => exact .none
        | cons first others =>
          dsimp only
          split
          · exact .some ⟨rfl, enclosed_append rest⟩
          · exact .none
      · exact .none
  · exact .none

/-- The state within one more group, which is the outermost one. -/
def State.within (state : State) (base : OpenGroup) (rest : List Char) : State :=
  { state with rest := rest, opened := state.opened ++ [base] }

/-- The same state was reached, within one more group. -/
structure SameState (base : OpenGroup) (state other : State) : Prop where
  same : other = state.within base other.rest
  rest : Enclosed state.rest other.rest

theorem readGroup_named (state : State) {rest : List Char} (noEqual : ∀ later, rest ≠ '=' :: later)
    (noMark : ∀ later, rest ≠ '!' :: later) {chars : List Char}
    (start : skip state.ignoreSpace chars = '?' :: '<' :: rest) :
    readGroup state chars = readNamedGroup state rest := by
  unfold readGroup
  rw [start]
  split <;> grind

theorem readGroup_switches (state : State) {rest : List Char}
    (noEqual : ∀ later, rest ≠ '=' :: later) (noMark : ∀ later, rest ≠ '!' :: later)
    (noName : ∀ later, rest ≠ '<' :: later) (noLongName : ∀ later, rest ≠ 'P' :: '<' :: later)
    {chars : List Char} (start : skip state.ignoreSpace chars = '?' :: rest) :
    readGroup state chars = readSwitchGroup state rest := by
  unfold readGroup
  rw [start]
  split <;> rename_i same <;> simp_all

theorem readGroup_capture (state : State) {rest : List Char}
    (noOption : ∀ later, rest ≠ '?' :: later) {chars : List Char}
    (start : skip state.ignoreSpace chars = rest) :
    readGroup state chars = some (state.enterCapture none rest) := by
  unfold readGroup
  rw [start]
  split <;> simp_all

section Constructs

variable (state : State) (base : OpenGroup) (before : List Char) {inner outer : List Char}
  (enclosed : Enclosed inner outer)

include enclosed

theorem mirrors_readNamedGroup :
    Mirrors (SameState base) (readNamedGroup state inner)
      (readNamedGroup (state.within base before) outer) := by
  have name := mirrors_readGroupName enclosed
  rw [readNamedGroup, readNamedGroup]
  cases isName : readGroupName inner with
  | none => exact .none
  | some found =>
    obtain ⟨⟨_, later⟩, isOther, rfl, behind⟩ := name _ isName
    have sameNames : (state.within base before).names = state.names := rfl
    rw [isOther, sameNames]
    dsimp only
    split
    · exact .none
    · exact .some ⟨rfl, behind⟩

theorem mirrors_readSwitchGroup :
    Mirrors (SameState base) (readSwitchGroup state inner)
      (readSwitchGroup (state.within base before) outer) := by
  have switches := mirrors_readSwitches enclosed false false []
  rw [readSwitchGroup, readSwitchGroup]
  cases isRead : readSwitches inner false false [] with
  | none => exact .none
  | some found =>
    obtain ⟨⟨_, _, later⟩, isOther, rfl, rfl, behind⟩ := switches _ isRead
    rw [isOther]
    dsimp only
    split
    · split
      · exact .none
      · exact .some ⟨rfl, behind⟩
    · exact .some ⟨rfl, behind⟩

theorem mirrors_readGroup :
    Mirrors (SameState base) (readGroup state inner)
      (readGroup (state.within base before) outer) := by
  have start := enclosed.skip state.ignoreSpace
  have sameMode : (state.within base before).ignoreSpace = state.ignoreSpace := rfl
  generalize begins : skip state.ignoreSpace inner = begin at start
  generalize outerBegins : skip state.ignoreSpace outer = outerBegin at start
  by_cases isOption : ∃ rest, begin = '?' :: rest
  · obtain ⟨rest, rfl⟩ := isOption
    obtain rfl := start.eq_cons
    have behind := enclosed_append rest
    by_cases isEqual : ∃ later, rest = '=' :: later
    · obtain ⟨later, rfl⟩ := isEqual
      rw [readGroup, begins]
      exact .none
    by_cases isMark : ∃ later, rest = '!' :: later
    · obtain ⟨later, rfl⟩ := isMark
      rw [readGroup, begins]
      exact .none
    by_cases isName : ∃ later, rest = '<' :: later
    · obtain ⟨later, rfl⟩ := isName
      have isLater := enclosed_append later
      by_cases looksAhead : (∃ more, later = '=' :: more) ∨ ∃ more, later = '!' :: more
      · rcases looksAhead with ⟨more, rfl⟩ | ⟨more, rfl⟩
        · rw [readGroup, begins]
          exact .none
        · rw [readGroup, begins]
          exact .none
      · have noEqual : ∀ more, later ≠ '=' :: more :=
          fun more same => looksAhead (.inl ⟨more, same⟩)
        have noMark : ∀ more, later ≠ '!' :: more :=
          fun more same => looksAhead (.inr ⟨more, same⟩)
        rw [readGroup_named state noEqual noMark begins,
          readGroup_named (state.within base before) (isLater.ne_cons (by decide) noEqual)
            (isLater.ne_cons (by decide) noMark) outerBegins]
        exact mirrors_readNamedGroup state base before isLater
    by_cases isLongName : ∃ later, rest = 'P' :: '<' :: later
    · obtain ⟨later, rfl⟩ := isLongName
      rw [readGroup, readGroup, sameMode, begins, outerBegins]
      exact mirrors_readNamedGroup state base before (enclosed_append later)
    have noEqual : ∀ later, rest ≠ '=' :: later := fun later same => isEqual ⟨later, same⟩
    have noMark : ∀ later, rest ≠ '!' :: later := fun later same => isMark ⟨later, same⟩
    have noName : ∀ later, rest ≠ '<' :: later := fun later same => isName ⟨later, same⟩
    have noLongName : ∀ later, rest ≠ 'P' :: '<' :: later :=
      fun later same => isLongName ⟨later, same⟩
    have noOuterName : ∀ later, rest ++ [')'] ≠ 'P' :: '<' :: later := by
      intro later same
      cases rest with
      | nil => cases same
      | cons first others =>
        obtain ⟨rfl, sameRest⟩ := List.cons.inj same
        exact (enclosed_append others).ne_cons (by decide)
          (fun more isNext => noLongName more (by rw [isNext])) later sameRest
    rw [readGroup_switches state noEqual noMark noName noLongName begins,
      readGroup_switches (state.within base before) (behind.ne_cons (by decide) noEqual)
        (behind.ne_cons (by decide) noMark) (behind.ne_cons (by decide) noName) noOuterName
        outerBegins]
    exact mirrors_readSwitchGroup state base before behind
  · have noOption : ∀ later, begin ≠ '?' :: later := fun later same => isOption ⟨later, same⟩
    rw [readGroup_capture state noOption begins,
      readGroup_capture (state.within base before) (start.ne_cons (by decide) noOption) outerBegins]
    exact .some ⟨rfl, start⟩

theorem mirrors_closeGroup :
    Mirrors (SameState base) (closeGroup state inner)
      (closeGroup (state.within base before) outer) := by
  rw [closeGroup, closeGroup]
  cases isOpen : state.opened with
  | nil => exact .none
  | cons innermost others =>
    have opened : (state.within base before).opened = innermost :: (others ++ [base]) := by
      rw [State.within, isOpen]
      rfl
    rw [opened]
    exact .some ⟨rfl, enclosed⟩

theorem mirrors_repeatLast (least : Nat) (most : Option Nat) (greedy : Bool) :
    Mirrors (SameState base) (repeatLast state least most greedy inner)
      (repeatLast (state.within base before) least most greedy outer) := by
  have sameParts : (state.within base before).parts = state.parts := rfl
  rw [repeatLast, repeatLast, sameParts]
  cases state.parts with
  | nil => exact .none
  | cons part parts =>
    dsimp only
    split
    · exact .some ⟨rfl, enclosed⟩
    · exact .none

theorem mirrors_readRepetition (least : Nat) (most : Option Nat) :
    Mirrors (SameState base) (readRepetition state least most inner)
      (readRepetition (state.within base before) least most outer) := by
  by_cases isLazy : ∃ rest, inner = '?' :: rest
  · obtain ⟨rest, rfl⟩ := isLazy
    obtain rfl := enclosed.eq_cons
    exact mirrors_repeatLast state base before (enclosed_append rest) least most false
  · have greedy (state : State) {chars : List Char} (noMark : ∀ rest, chars ≠ '?' :: rest) :
        readRepetition state least most chars = repeatLast state least most true chars := by
      unfold readRepetition
      split
      · exact absurd rfl (noMark _)
      · rfl
    have noMark : ∀ rest, inner ≠ '?' :: rest := fun rest same => isLazy ⟨rest, same⟩
    rw [greedy state noMark,
      greedy (state.within base before) (enclosed.ne_cons (by decide) noMark)]
    exact mirrors_repeatLast state base before enclosed least most true

end Constructs

theorem mirrors_readBounds (ignoreSpace : Bool) {inner outer : List Char}
    (enclosed : Enclosed inner outer) :
    Mirrors SameTwo (readBounds ignoreSpace inner) (readBounds ignoreSpace outer) := by
  refine (mirrors_readCount ignoreSpace (enclosed.skip ignoreSpace)).bind ?_
  rintro ⟨_, behind⟩ ⟨least, later⟩ ⟨rfl, isBehind⟩
  dsimp only
  split
  · rename_i rest
    obtain rfl := isBehind.eq_cons
    have start := enclosed_skip_append ignoreSpace rest
    simp only
    generalize skip ignoreSpace rest = begin at start ⊢
    generalize skip ignoreSpace (rest ++ [')']) = outerBegin at start ⊢
    split
    · rename_i more
      obtain rfl := start.eq_cons
      exact .some ⟨rfl, rfl, enclosed_append more⟩
    · rename_i noBrace
      split
      · rename_i more
        exact absurd rfl (start.ne_cons (by decide) noBrace more)
      · refine (mirrors_readCount ignoreSpace start).bind ?_
        rintro ⟨_, behindMost⟩ ⟨most, laterMost⟩ ⟨rfl, isBehindMost⟩
        dsimp only
        split
        · rename_i more
          obtain rfl := isBehindMost.eq_cons
          split
          · exact .some ⟨rfl, rfl, enclosed_append more⟩
          · exact .none
        · exact .none
  · rename_i rest
    obtain rfl := isBehind.eq_cons
    exact .some ⟨rfl, rfl, enclosed_append rest⟩
  · exact .none

section Steps

variable (state : State) (base : OpenGroup) (before : List Char) {inner outer : List Char}
  (enclosed : Enclosed inner outer)

include enclosed

theorem mirrors_readCounted :
    Mirrors (SameState base) (readCounted state inner)
      (readCounted (state.within base before) outer) := by
  have sameMode : (state.within base before).ignoreSpace = state.ignoreSpace := rfl
  have bounds := mirrors_readBounds state.ignoreSpace enclosed
  rw [readCounted, readCounted, sameMode]
  cases isRead : readBounds state.ignoreSpace inner with
  | none => exact .none
  | some found =>
    obtain ⟨_, _, rest⟩ := found
    obtain ⟨⟨least, most, later⟩, isOther, rfl, rfl, behind⟩ := bounds _ isRead
    rw [isOther]
    have start := behind.skip state.ignoreSpace
    dsimp only at start ⊢
    generalize skip state.ignoreSpace rest = begin at start ⊢
    generalize skip state.ignoreSpace later = outerBegin at start ⊢
    split
    · rename_i more
      obtain rfl := start.eq_cons
      exact mirrors_repeatLast state base before (enclosed_append more) least most false
    · rename_i noMark
      split
      · rename_i more
        exact absurd rfl (start.ne_cons (by decide) noMark more)
      · exact mirrors_repeatLast state base before start least most true

omit enclosed in
theorem mirrors_push {result other : Option (Tree × List Char)}
    (mirrors : Mirrors SameFound result other) :
    Mirrors (SameState base) (result.map fun read => state.push read.1 read.2)
      (other.map fun read => (state.within base before).push read.1 read.2) := by
  refine mirrors.map ?_
  rintro ⟨_, rest⟩ ⟨tree, later⟩ ⟨rfl, behind⟩
  exact ⟨rfl, behind⟩

/-- Every construct is read in parentheses as it is without them. -/
theorem mirrors_step (char : Char) :
    Mirrors (SameState base) (step state char inner)
      (step (state.within base before) char outer) := by
  have pushed (tree : Tree) : Mirrors (SameState base) (some (state.push tree inner))
      (some ((state.within base before).push tree outer)) := .some ⟨rfl, enclosed⟩
  unfold step
  split
  case h_1 => exact mirrors_readGroup state base before enclosed
  case h_2 => exact mirrors_closeGroup state base before enclosed
  case h_3 => exact .some ⟨rfl, enclosed⟩
  case h_4 => exact mirrors_push state base before (mirrors_readClass state.ignoreSpace enclosed)
  case h_5 => exact mirrors_readRepetition state base before enclosed 0 (some 1)
  case h_6 => exact mirrors_readRepetition state base before enclosed 0 none
  case h_7 => exact mirrors_readRepetition state base before enclosed 1 none
  case h_8 => exact mirrors_readCounted state base before enclosed
  case h_9 => exact mirrors_push state base before (mirrors_readEscape state.ignoreSpace enclosed)
  all_goals exact pushed _

end Steps

/-! ## The whole text -/

/-- The state behind a group, which holds everything read so far. -/
def State.closed (state : State) (base : OpenGroup) : State :=
  { state with
    rest := []
    opened := []
    parts := .group base.kind state.current :: base.parts
    branches := base.branches
    ignoreSpace := base.ignoreSpace }

theorem run_succ (fuel : Nat) (state : State) :
    run (fuel + 1) state =
      match skip state.ignoreSpace state.rest with
      | [] => some { state with rest := [] }
      | char :: rest => (step state char rest).bind (run fuel) := by
  rw [run]
  cases skip state.ignoreSpace state.rest with
  | nil => rfl
  | cons char rest =>
    dsimp only
    cases step state char rest <;> rfl

theorem skip_nil (ignoreSpace : Bool) : skip ignoreSpace [] = [] := by
  cases ignoreSpace <;> rfl

/-- A text without open groups becomes the only group, if the parenthesis behind it is read. -/
theorem eq_closed_of_run {fuel extra : Nat} {state final last : State} (base : OpenGroup)
    {before : List Char} (isRun : run fuel state = some final) (balanced : final.opened = [])
    (enclosed : Enclosed state.rest before) (more : 0 < extra)
    (isLast : run (fuel + extra) (state.within base before) = some last)
    (closed : last.opened = []) : last = final.closed base := by
  induction fuel generalizing state before with
  | zero => cases isRun
  | succ fuel inductionHypothesis =>
    have start := enclosed.skip state.ignoreSpace
    rw [run_succ] at isRun
    rw [Nat.add_right_comm, run_succ] at isLast
    change (match skip state.ignoreSpace before with
      | [] => some { state.within base before with rest := [] }
      | char :: rest => (step (state.within base before) char rest).bind (run (fuel + extra))) =
        some last at isLast
    cases begins : skip state.ignoreSpace state.rest with
    | nil =>
      rw [begins] at isRun start
      cases isRun
      have outermost : (state.within base before).opened = [base] := by
        show state.opened ++ [base] = [base]
        have noneOpen : state.opened = [] := balanced
        rw [noneOpen]
        rfl
      -- Behind the text stands the parenthesis, unless a comment has taken it in; then the group
      -- is still open at the end.
      rcases start.of_nil with isClose | isSwallowed
      · rw [isClose] at isLast
        have isClosed : step (state.within base before) ')' [] =
            some (({ state with rest := [] } : State).closed base) := by
          show closeGroup _ _ = _
          rw [closeGroup, outermost]
          rfl
        dsimp only at isLast
        rw [isClosed, Option.bind_some] at isLast
        cases enough : fuel + extra with
        | zero => omega
        | succ enough =>
          have atEnd : ∀ mode, skip mode (({ state with rest := [] } : State).closed base).rest =
            [] := skip_nil
          rw [enough, run_succ, atEnd] at isLast
          cases isLast
          rfl
      · rw [isSwallowed] at isLast
        cases isLast
        exact absurd (outermost.symm.trans closed) (List.cons_ne_nil _ _)
    | cons char rest =>
      rw [begins] at isRun start
      obtain ⟨next, isNext, isRun⟩ := Option.bind_eq_some_iff.mp isRun
      obtain ⟨other, isOther, sameState⟩ :=
        mirrors_step state base before (enclosed_append rest) char next isNext
      rw [start.eq_cons] at isLast
      dsimp only at isLast
      rw [isOther, Option.bind_some, sameState.same] at isLast
      exact inductionHypothesis isRun sameState.rest isLast

theorem exists_run_of_read? {text : String} {tree : Tree} (isRead : read? text = some tree) :
    ∃ final, run (text.toList.length + 1) (.start text.toList) = some final ∧
      final.opened = [] ∧ tree = final.current := by
  rw [read?] at isRead
  split at isRead
  · rename_i final isRun
    split at isRead
    · rename_i balanced
      cases isRead
      exact ⟨final, isRun, List.isEmpty_iff.mp ((Bool.and_eq_true _ _).mp balanced).1, rfl⟩
    · cases isRead
  · cases isRead

/-- The group that binds a pattern to the start of a line. -/
def boundGroup : OpenGroup := ⟨.plain [], [.anchor .lineStart], [], false⟩

theorem run_bound (fuel : Nat) (chars : List Char) :
    run (fuel + 2) (.start ('^' :: '(' :: '?' :: ':' :: chars)) =
      run fuel ((State.start []).within boundGroup chars) := by
  rfl

/-- A pattern of its own is the only group of the text that binds it to the start of a line. -/
theorem read?_bound {text : String} {own whole : Tree} (isOwn : read? text = some own)
    (isWhole : read? ("^(?:" ++ text ++ ")") = some whole) :
    whole = .concat [.anchor .lineStart, .group (.plain []) own] := by
  have chars : ("^(?:" ++ text ++ ")").toList =
      '^' :: '(' :: '?' :: ':' :: (text.toList ++ [')']) := by
    rw [String.toList_append, String.toList_append]
    rfl
  obtain ⟨final, isRun, balanced, rfl⟩ := exists_run_of_read? isOwn
  obtain ⟨last, isLast, closed, rfl⟩ := exists_run_of_read? isWhole
  have length : ("^(?:" ++ text ++ ")").toList.length + 1 = text.toList.length + 1 + 3 + 2 := by
    rw [chars]
    simp
  rw [length, chars, run_bound] at isLast
  obtain rfl := eq_closed_of_run boundGroup isRun balanced (enclosed_append text.toList)
    (Nat.succ_pos 2) isLast closed
  rfl

end RunTriage.Pattern.Reader
