import RunTriage.Pattern.Basic

/-!
Contract: where a pattern matches a text, and which spans its groups take.

Owns:
- `Spans`, the relation between the two ends of a match;
- `startsInto`, the positions from which a pattern reaches given ends;
- `isMatch`, whether a pattern matches anywhere;
- `firstMatch?`, the match with the least start and, from there, the one that
  goes before all others.

The preferred match is found without search: at each choice the positions from
which the rest can still be matched are known, so the first choice that leads
to the end is taken for good.

Does not own: how a pattern is written.
-/

namespace RunTriage.Pattern

/-- A text whose characters can be looked up by position. -/
abbrev Subject := Array Char

/-- The character before a position. -/
def Subject.before? (subject : Subject) (position : Nat) : Option Char :=
  if position = 0 then none else subject[position - 1]?

/-- The character after a position. -/
def Subject.after? (subject : Subject) (position : Nat) : Option Char :=
  subject[position]?

def isWordChar (word : CharSet) : Option Char → Bool
  | none => false
  | some char => word.contains char

/-- The condition holds at a position. -/
def Condition.holds (subject : Subject) (position : Nat) : Condition → Bool
  | .textStart => position = 0
  | .textEnd => position = subject.size
  | .lineStart => position = 0 || Subject.before? subject position = some '\n'
  | .lineEnd => position = subject.size || Subject.after? subject position = some '\n'
  | .returnLineStart =>
    position = 0 || Subject.before? subject position = some '\n' ||
      (Subject.before? subject position = some '\r' &&
        Subject.after? subject position ≠ some '\n')
  | .returnLineEnd =>
    position = subject.size || Subject.after? subject position = some '\r' ||
      (Subject.after? subject position = some '\n' &&
        Subject.before? subject position ≠ some '\r')
  | .wordBoundary word =>
    isWordChar word (Subject.before? subject position) !=
      isWordChar word (Subject.after? subject position)
  | .notWordBoundary word =>
    isWordChar word (Subject.before? subject position) ==
      isWordChar word (Subject.after? subject position)
  | .wordStart word =>
    !isWordChar word (Subject.before? subject position) &&
      isWordChar word (Subject.after? subject position)
  | .wordEnd word =>
    isWordChar word (Subject.before? subject position) &&
      !isWordChar word (Subject.after? subject position)
  | .wordStartHalf word => !isWordChar word (Subject.before? subject position)
  | .wordEndHalf word => !isWordChar word (Subject.after? subject position)

/-! ## The relation -/

/-- `Spans subject pattern start stop`: the pattern can match the text between
the two positions. A repetition takes the rounds that it must take before those
that it may take. -/
inductive Spans (subject : Subject) : Pattern → Nat → Nat → Prop where
  | empty (position : Nat) : Spans subject .empty position position
  | charIn {set : CharSet} {position : Nat} {char : Char} :
      subject[position]? = some char → set.contains char = true →
      Spans subject (.charIn set) position (position + 1)
  | check {condition : Condition} {position : Nat} :
      condition.holds subject position = true →
      Spans subject (.check condition) position position
  | sequence {first second : Pattern} {start middle stop : Nat} :
      Spans subject first start middle → Spans subject second middle stop →
      Spans subject (.sequence first second) start stop
  | eitherFirst {first second : Pattern} {start stop : Nat} :
      Spans subject first start stop → Spans subject (.either first second) start stop
  | eitherSecond {first second : Pattern} {start stop : Nat} :
      Spans subject second start stop → Spans subject (.either first second) start stop
  | stop {body : Pattern} {most : Option Nat} {greedy : Bool} {position : Nat} :
      Spans subject (.repeated body 0 most greedy) position position
  | must {body : Pattern} {least : Nat} {most : Option Nat} {greedy : Bool}
      {start middle stop : Nat} :
      Spans subject body start middle →
      Spans subject (.repeated body least (most.map (· - 1)) greedy) middle stop →
      Spans subject (.repeated body (least + 1) most greedy) start stop
  | may {body : Pattern} {most : Option Nat} {greedy : Bool} {start middle stop : Nat} :
      most ≠ some 0 → Spans subject body start middle →
      Spans subject (.repeated body 0 (most.map (· - 1)) greedy) middle stop →
      Spans subject (.repeated body 0 most greedy) start stop
  | group {index : Nat} {body : Pattern} {start stop : Nat} :
      Spans subject body start stop → Spans subject (.group index body) start stop

/-! ## Positions that can still match -/

/-- Each position once; `seen` has the bits of the earlier ones. -/
def distinct : List Nat → Nat → List Nat
  | [], _ => []
  | position :: rest, seen =>
    if seen.testBit position then distinct rest seen
    else position :: distinct rest (seen ||| (1 <<< position))

/-- Bits of a list of positions. -/
def bitsOf (positions : List Nat) : Nat :=
  positions.foldl (fun bits position => bits ||| (1 <<< position)) 0

/-- Repeat a step back from positions, up to a number of times, and collect all
positions on the way. `seen` has the bits of `reached`, and `frontier` holds the
positions added last. -/
def collect (step : List Nat → List Nat) : Nat → List Nat → List Nat → Nat → List Nat
  | 0, _, reached, _ => reached
  | rounds + 1, frontier, reached, seen =>
    let fresh := distinct (step frontier) seen
    if fresh.isEmpty then reached
    else collect step rounds fresh (reached ++ fresh) (seen ||| bitsOf fresh)

/-- Repeat a step back exactly a number of times. -/
def stepBack (step : List Nat → List Nat) : Nat → List Nat → List Nat
  | 0, positions => positions
  | rounds + 1, positions =>
    if positions.isEmpty then [] else stepBack step rounds (step positions)

/-- Positions from which the repetition, once it may stop, reaches `ends`. Every
useful round takes a character, so one round more than there are characters is
enough where no limit is given. -/
def collectEnds (step : List Nat → List Nat) (limit : Nat) (ends : List Nat) : List Nat :=
  collect step limit ends ends (bitsOf ends)

/-- Rounds that a repetition may add to the least number. -/
def extraRounds (subject : Subject) (least : Nat) : Option Nat → Nat
  | none => subject.size + 1
  | some most => most - least

/-- The positions from which the pattern can match up to one of the ends. -/
def startsInto (subject : Subject) : Pattern → List Nat → List Nat
  | .empty, ends => ends
  | .charIn set, ends =>
    ends.filterMap fun stop =>
      match Subject.before? subject stop with
      | some char => if set.contains char then some (stop - 1) else none
      | none => none
  | .check condition, ends => ends.filter fun position => condition.holds subject position
  | .sequence first second, ends => startsInto subject first (startsInto subject second ends)
  | .either first second, ends =>
    distinct (startsInto subject first ends ++ startsInto subject second ends) 0
  | .repeated body least most _, ends =>
    stepBack (startsInto subject body) least
      (collectEnds (startsInto subject body) (extraRounds subject least most) ends)
  | .group _ body, ends => startsInto subject body ends

/-- Every position of a text, the one after its last character included. -/
def positions (subject : Subject) : List Nat := List.range (subject.size + 1)

/-- Whether the pattern matches anywhere in a text. -/
def isMatchIn (pattern : Pattern) (subject : Subject) : Bool :=
  !(startsInto subject pattern (positions subject)).isEmpty

/-- Whether the pattern matches anywhere in a text. -/
def isMatch (pattern : Pattern) (text : String) : Bool :=
  isMatchIn pattern text.toList.toArray

/-! ## The preferred match -/

/-- A span taken by a group. -/
structure GroupSpan where
  index : Nat
  start : Nat
  stop : Nat
deriving DecidableEq, Repr

/-- Where a match stops, and the spans its groups took on the way, in order. -/
structure Path where
  stop : Nat
  groups : List GroupSpan
deriving DecidableEq, Repr

namespace Path

def stay (position : Nat) : Path := ⟨position, []⟩

/-- A path goes on after another one. -/
def andThen (first second : Path) : Path :=
  ⟨second.stop, first.groups ++ second.groups⟩

end Path

/-- A body matched exactly a number of times. `follow position ends` is the
preferred path of the body from a position to one of the ends. -/
def followTimes (step : List Nat → List Nat) (follow : Nat → List Nat → Path) :
    Nat → Nat → List Nat → Path
  | 0, start, _ => .stay start
  | rounds + 1, start, ends =>
    let first := follow start (stepBack step rounds ends)
    first.andThen (followTimes step follow rounds first.stop ends)

/-- A body matched up to a number of times. -/
def followUpTo (step : List Nat → List Nat) (follow : Nat → List Nat → Path) (greedy : Bool) :
    Nat → Nat → List Nat → Path
  | 0, start, _ => .stay start
  | rounds + 1, start, ends =>
    let inner := collectEnds step rounds ends
    let canStop := ends.contains start
    let canGoOn := (step inner).contains start
    if canGoOn && (greedy || !canStop) then
      let first := follow start inner
      first.andThen (followUpTo step follow greedy rounds first.stop ends)
    else .stay start

/-- A body matched any number of times behind a round that stopped at `start`, each
time taking a character. `loops` has the positions from which rounds lead to one of
the ends. -/
def followOnward (step : List Nat → List Nat) (follow : Nat → List Nat → Path) (greedy : Bool)
    (loops ends : List Nat) : Nat → Nat → Path
  | 0, start => .stay start
  | rounds + 1, start =>
    let ahead := loops.filter (start < ·)
    let canStop := ends.contains start
    let canGoOn := (step ahead).contains start
    if canGoOn && (greedy || !canStop) then
      let first := follow start ahead
      first.andThen (followOnward step follow greedy loops ends rounds first.stop)
    else .stay start

/-- A body matched at least once and then any number of times. The first round may
take no character, and is the only one then. -/
def followOften (step : List Nat → List Nat) (follow : Nat → List Nat → Path) (greedy : Bool)
    (loops ends : List Nat) (rounds start : Nat) : Path :=
  let first := follow start (loops.filter (start < ·) ++ ends)
  if first.stop = start then first
  else first.andThen (followOnward step follow greedy loops ends rounds first.stop)

/-- The preferred path of a pattern from `start`, which must be one of the
positions of `startsInto`, to one of the ends. -/
def preferredPath (subject : Subject) : Pattern → Nat → List Nat → Path
  | .empty, start, _ => .stay start
  | .charIn _, start, _ => .stay (start + 1)
  | .check _, start, _ => .stay start
  | .sequence first second, start, ends =>
    let head := preferredPath subject first start (startsInto subject second ends)
    head.andThen (preferredPath subject second head.stop ends)
  | .either first second, start, ends =>
    if (startsInto subject first ends).contains start then
      preferredPath subject first start ends
    else
      preferredPath subject second start ends
  | .repeated body least (some most) greedy, start, ends =>
    let step := startsInto subject body
    let follow := preferredPath subject body
    let head := followTimes step follow least start (collectEnds step (most - least) ends)
    head.andThen (followUpTo step follow greedy (most - least) head.stop ends)
  | .repeated body least none greedy, start, ends =>
    let step := startsInto subject body
    let follow := preferredPath subject body
    let loops := collectEnds step (subject.size + 1) ends
    let goOn := step loops
    match least with
    | 0 =>
      if goOn.contains start && (greedy || !ends.contains start) then
        followOften step follow greedy loops ends (subject.size + 1) start
      else .stay start
    | rounds + 1 =>
      let head := followTimes step follow rounds start goOn
      head.andThen (followOften step follow greedy loops ends (subject.size + 1) head.stop)
  | .group index body, start, ends =>
    let inner := preferredPath subject body start ends
    ⟨inner.stop, inner.groups ++ [⟨index, start, inner.stop⟩]⟩

/-- A match with its text. -/
structure Match where
  subject : Subject
  start : Nat
  stop : Nat
  groups : List GroupSpan
deriving Repr

/-- The characters between two positions. -/
def Subject.slice (subject : Subject) (start stop : Nat) : String :=
  String.ofList ((subject.toList.drop start).take (stop - start))

/-- The text of the span that a group took last. -/
def Match.group? (found : Match) (index : Nat) : Option String :=
  match found.groups.reverse.find? (fun span => span.index = index) with
  | some span => some (Subject.slice found.subject span.start span.stop)
  | none => none

/-- The least of the positions. -/
def least? : List Nat → Option Nat
  | [] => none
  | position :: rest => some (rest.foldl min position)

/-- The match with the least start among the given ones, and from there the
preferred one. -/
def firstMatchIn? (pattern : Pattern) (subject : Subject) (allowed : Nat → Bool) :
    Option Match :=
  let ends := positions subject
  match least? ((startsInto subject pattern ends).filter allowed) with
  | none => none
  | some start =>
    let path := preferredPath subject pattern start ends
    some ⟨subject, start, path.stop, path.groups⟩

/-- The first match in a text. -/
def firstMatch? (pattern : Pattern) (text : String) : Option Match :=
  firstMatchIn? pattern text.toList.toArray fun _ => true

/-- The text without the spans of the matches found from left to right. Matches
do not overlap, and an empty one takes nothing away. -/
def removeAllFrom (pattern : Pattern) (subject : Subject) : Nat → Nat → List Char
  | 0, position => subject.toList.drop position
  | rounds + 1, position =>
    match firstMatchIn? pattern subject (fun start => position ≤ start) with
    | none => subject.toList.drop position
    | some found =>
      let kept := (subject.toList.drop position).take (found.start - position)
      if found.start < found.stop then
        kept ++ removeAllFrom pattern subject rounds found.stop
      else
        kept ++ (subject.toList.drop found.start).take 1 ++
          removeAllFrom pattern subject rounds (found.start + 1)

/-- The text without every match of a pattern. -/
def removeAll (pattern : Pattern) (text : String) : String :=
  let subject := text.toList.toArray
  String.ofList (removeAllFrom pattern subject (subject.size + 1) 0)

end RunTriage.Pattern
