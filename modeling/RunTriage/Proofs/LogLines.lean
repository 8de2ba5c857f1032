import RunTriage.Proofs.ReadableLogs

/-!
Contract: a log is read line by line, and every line counts once.

Owns:
- `ofTexts`, the log of texts, each of which is decoded on its own;
- the log of two byte strings with a line feed between them;
- the counters of a pass over a log, which are those of the log.

Does not own: which logs can be read, which is in `RunTriage.Proofs.ReadableLogs`, and what a line
means, which is in `RunTriage.Line.Reader`.
-/

namespace RunTriage.Log

/-! ## Logs put together -/

theorem empty_append (log : Log) : (⟨[], 0⟩ : Log).append log = log := by
  rw [append, List.nil_append, Nat.zero_add]

theorem append_assoc (first second third : Log) :
    (first.append second).append third = first.append (second.append third) := by
  simp only [append, List.append_assoc, Nat.add_assoc]

/-- Encoded lines are read one after the other, and all of them or none. -/
theorem readLines_append (first second : List (List UInt8)) :
    readLines (first ++ second) =
      (readLines first).bind fun log => (readLines second).map log.append := by
  induction first with
  | nil =>
    have unchanged : (fun log : Log => (⟨[], 0⟩ : Log).append log) = id := funext empty_append
    show readLines second = (readLines second).map fun log => (⟨[], 0⟩ : Log).append log
    rw [unchanged]
    cases readLines second <;> rfl
  | cons bytes rest inductionHypothesis =>
    rw [List.cons_append, readLines, readLines, inductionHypothesis]
    cases decodeText? bytes with
    | none => rfl
    | some text =>
      cases readLines rest with
      | error error => rfl
      | ok log =>
        cases readLines second with
        | error error => rfl
        | ok later => exact congrArg Except.ok (append_assoc (ofText text) log later).symm

/-- Two byte strings with a line feed between them hold the lines of both. -/
theorem read_append_lineFeed (left right : List UInt8) :
    read (left ++ 10 :: right) = (read left).bind fun log => (read right).map log.append := by
  rw [read, read, read, splitLines_eq, List.splitOn_append_cons_self, ← splitLines_eq,
    ← splitLines_eq, readLines_append]

/-! ## The lines of a text -/

/-- The log of texts, each of which is decoded on its own. -/
def ofTexts (texts : List String) : Log :=
  ⟨texts.flatMap fun text => (ofText text).lines,
    texts.foldr (fun text others => (ofText text).malformed + others) 0⟩

theorem ofTexts_cons (text : String) (rest : List String) :
    ofTexts (text :: rest) = (ofText text).append (ofTexts rest) := by
  rw [ofTexts, ofTexts, append, List.flatMap_cons, List.foldr_cons]

/-- A line adds one record, or counts as malformed, unless it is blank. -/
theorem size_ofText (text : String) :
    (ofText text).lines.length + (ofText text).malformed =
      if !(Text.trim text).isEmpty then 1 else 0 := by
  unfold ofText
  dsimp only
  cases (Text.trim text).isEmpty with
  | true => rfl
  | false => cases Line.read (Text.trim text) <;> rfl

theorem size_ofTexts (texts : List String) :
    (ofTexts texts).lines.length + (ofTexts texts).malformed =
      texts.countP fun text => !(Text.trim text).isEmpty := by
  induction texts with
  | nil => rfl
  | cons text rest inductionHypothesis =>
    rw [ofTexts_cons, append, List.length_append, List.countP_cons, ← inductionHypothesis,
      ← size_ofText]
    dsimp only
    omega

theorem readLines_encoded (lines : List (List Char)) :
    readLines (lines.map fun line => line.flatMap String.utf8EncodeChar) =
      .ok (ofTexts (lines.map String.ofList)) := by
  induction lines with
  | nil => rfl
  | cons line rest inductionHypothesis =>
    have isText : decodeText? (line.flatMap String.utf8EncodeChar) = some (String.ofList line) :=
      decodeText?_eq_some_iff.mpr (by rw [String.toList_ofList])
    rw [List.map_cons, List.map_cons, readLines, isText, inductionHypothesis, ofTexts_cons]

/-- The log of an encoded text is the log of its lines. -/
theorem read_of_decodeText? {bytes : List UInt8} {text : String}
    (isText : decodeText? bytes = some text) : read bytes = .ok (ofTexts (text.splitOn "\n")) := by
  obtain rfl := decodeText?_eq_some_iff.mp isText
  have lines : text.splitOn "\n" = (text.toList.splitOn '\n').map String.ofList :=
    Text.splitOn_singleton text '\n'
  rw [read, splitLines_eq, splitOn_flatMap_utf8EncodeChar, readLines_encoded, lines]

/-! ## Counters -/

namespace Reading

/-- The reading of a log whose counters are those of its lines. -/
def ofLog (log : Log) : Reading := ⟨log.lines, log.lines.length, log.malformed⟩

/-- The reading of the lines of two others. -/
def append (left right : Reading) : Reading :=
  ⟨left.lines ++ right.lines, left.decoded + right.decoded, left.malformed + right.malformed⟩

theorem ofLog_append (left right : Log) :
    ofLog (left.append right) = (ofLog left).append (ofLog right) := by
  rw [ofLog, Log.append, List.length_append]
  rfl

theorem take_eq (reading : Reading) (text : String) :
    reading.take text = reading.append (ofLog (ofText text)) := by
  unfold take ofText
  dsimp only
  split
  · simp [append, ofLog]
  · cases Line.read (Text.trim text) <;> simp [append, ofLog]

theorem append_assoc (first second third : Reading) :
    (first.append second).append third = first.append (second.append third) := by
  simp only [append, List.append_assoc, Nat.add_assoc]

/-- A pass over encoded lines adds what they add to a log. -/
theorem takeAll_eq (reading : Reading) (lines : List (List UInt8)) :
    reading.takeAll lines = (readLines lines).map fun log => reading.append (ofLog log) := by
  induction lines generalizing reading with
  | nil => simp [takeAll, readLines, append, ofLog, Except.map]
  | cons bytes rest inductionHypothesis =>
    rw [takeAll, readLines]
    cases decodeText? bytes with
    | none => rfl
    | some text =>
      dsimp only
      rw [inductionHypothesis]
      cases readLines rest with
      | error error => exact (rfl : Except.error error = Except.error error)
      | ok log =>
        show Except.ok ((reading.take text).append (ofLog log)) =
          Except.ok (reading.append (ofLog ((ofText text).append log)))
        rw [take_eq, append_assoc, ofLog_append]

end Reading

theorem readCounting_eq (bytes : List UInt8) :
    readCounting bytes = (read bytes).map Reading.ofLog := by
  have unchanged : (fun log => Reading.start.append (Reading.ofLog log)) = Reading.ofLog := by
    funext log
    simp [Reading.append, Reading.start, Reading.ofLog]
  rw [readCounting, Reading.takeAll_eq, unchanged, read]

theorem readCounting_append_lineFeed (left right : List UInt8) :
    readCounting (left ++ 10 :: right) =
      (readCounting left).bind fun first => (readCounting right).map first.append := by
  rw [readCounting_eq, readCounting_eq, readCounting_eq, read_append_lineFeed]
  cases read left with
  | error error => rfl
  | ok first =>
    cases read right with
    | error error => rfl
    | ok second => exact congrArg Except.ok (Reading.ofLog_append first second)

/-- Reading is local to the lines. Two byte strings with a line feed between them can be read just
if both of them can, and then hold the records of the first and behind them those of the second,
with their counters added. If bytes can be read, then each record comes from one line of their text
by itself, and the counters tell the number of records and that of all lines that are not blank. -/
theorem readCounting_by_lines (left right bytes : List UInt8) :
    ((∃ error, readCounting (left ++ 10 :: right) = .error error) ↔
        (∃ error, readCounting left = .error error) ∨
          ∃ error, readCounting right = .error error) ∧
      (∀ first second, readCounting left = .ok first → readCounting right = .ok second →
        readCounting (left ++ 10 :: right) =
          .ok ⟨first.lines ++ second.lines, first.decoded + second.decoded,
            first.malformed + second.malformed⟩) ∧
      ∀ reading, readCounting bytes = .ok reading →
        read bytes = .ok ⟨reading.lines, reading.malformed⟩ ∧
          reading.decoded = reading.lines.length ∧
          ∃ text, decodeText? bytes = some text ∧
            reading.lines = (text.splitOn "\n").flatMap (fun line => (ofText line).lines) ∧
            reading.decoded + reading.malformed =
              (text.splitOn "\n").countP fun line => !(Text.trim line).isEmpty := by
  refine ⟨?_, fun first second isFirst isSecond => ?_, fun reading isReading => ?_⟩
  · rw [readCounting_append_lineFeed]
    cases readCounting left with
    | error error => exact iff_of_true ⟨error, rfl⟩ (.inl ⟨error, rfl⟩)
    | ok first => cases readCounting right <;> simp [Except.bind, Except.map]
  · rw [readCounting_append_lineFeed, isFirst, isSecond]
    rfl
  · rw [readCounting_eq] at isReading
    cases isRead : read bytes with
    | error error =>
      rw [isRead] at isReading
      cases isReading
    | ok log =>
      rw [isRead] at isReading
      cases isReading
      have isSome : (decodeText? bytes).isSome := by
        rw [← isSome_read, isRead]
        rfl
      obtain ⟨text, isText⟩ := Option.isSome_iff_exists.mp isSome
      obtain rfl := Except.ok.inj ((read_of_decodeText? isText).symm.trans isRead)
      exact ⟨rfl, rfl, text, isText, rfl, size_ofTexts _⟩

/-- A record, a line that is none and a blank one, with and without carriage returns. -/
theorem readCounting_by_lines_mixedEndings :
    let left := "\x7b\x7d\r".toUTF8.toList
    let right := "no\r\n \n".toUTF8.toList
    let bytes := left ++ 10 :: right
    let reading : Reading := ⟨[.ofMessage ""], 1, 1⟩
    readCounting left = .ok ⟨[.ofMessage ""], 1, 0⟩ ∧ readCounting right = .ok ⟨[], 0, 1⟩ ∧
      readCounting bytes = .ok reading ∧ read bytes = .ok ⟨reading.lines, reading.malformed⟩ := by
  intro left right bytes reading
  have isFirst : readCounting left = .ok ⟨[.ofMessage ""], 1, 0⟩ := by decide +kernel
  have isSecond : readCounting right = .ok ⟨[], 0, 1⟩ := by decide +kernel
  obtain ⟨_, joined, exact⟩ := readCounting_by_lines left right bytes
  have isReading : readCounting bytes = .ok reading := joined _ _ isFirst isSecond
  exact ⟨isFirst, isSecond, isReading, (exact reading isReading).1⟩

end RunTriage.Log
