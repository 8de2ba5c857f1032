import RunTriage.TestRecord

/-!
Contract: the lines with which a test runner structures its output.

Owns:
- the pattern of each kind of marker line;
- what a marker line tells: a test, an outcome, a report or a section.

Does not own: which lines come from the runner, and how the markers divide a
stream, which is in `RunTriage.Session.Layout`.
-/

namespace RunTriage.Session

open Pattern (charIn literal oneOrMore zeroOrMore optional concat)

/-! ## Characters -/

def charSetFrom (low high : Char) : Pattern.CharSet := .range low high

/-- Word characters, `-`, `.` and `/`. -/
def pathChars : Pattern.CharSet :=
  ⟨(45, 57) :: (65, 90) :: (95, 95) :: (97, 122) :: Pattern.CharSet.wordBeyondAscii⟩

/-- Word characters, `-` and `.`. -/
def nameChars : Pattern.CharSet :=
  ⟨(45, 46) :: (48, 57) :: (65, 90) :: (95, 95) :: (97, 122) ::
    Pattern.CharSet.wordBeyondAscii⟩

/-- Word characters and the space. -/
def titleChars : Pattern.CharSet :=
  ⟨(32, 32) :: (48, 57) :: (65, 90) :: (95, 95) :: (97, 122) ::
    Pattern.CharSet.wordBeyondAscii⟩

def capitals : Pattern.CharSet := ⟨[(65, 90)]⟩

/-- The space and small letters. -/
def smallTitleChars : Pattern.CharSet := ⟨[(32, 32), (97, 122)]⟩

def except (char : Char) : Pattern.CharSet :=
  (Pattern.CharSet.singleton char).complement

def lineStart : Pattern := .check .textStart

def lineEnd : Pattern := .check .textEnd

/-- One or more of a character. -/
def rule (char : Char) : Pattern := oneOrMore (literal char)

/-- A parametrization in brackets, taken as a group without them. -/
def bracketed (index : Nat) : Pattern :=
  optional (concat [literal '[', .group index (zeroOrMore (charIn (except ']'))), literal ']'])

/-! ## Patterns of markers -/

/-- The header of a session, or the line that counts the collected tests. -/
def sessionHeader : Pattern :=
  concat [lineStart, .either
    (concat [rule '=', .text " test session starts ", rule '='])
    (concat [.text "collected", zeroOrMore (charIn Pattern.inLine), .text "selected",
      zeroOrMore (charIn Pattern.inLine)])]

/-- The identity of a test at the start of a line: file, name, parametrization. -/
def nodePattern : Pattern :=
  concat [lineStart,
    .group 1 (concat [oneOrMore (charIn pathChars), .text ".py"]),
    .text "::",
    .group 2 (oneOrMore (charIn pathChars)),
    bracketed 3]

/-- An outcome, perhaps a reason in parentheses, and the progress in percent at
the end of a line. -/
def endPattern : Pattern :=
  concat [.group 1 (oneOrMore (charIn capitals)), literal ' ',
    optional (concat [literal '(', zeroOrMore (charIn (except ')')), literal ')']),
    zeroOrMore (literal ' '), literal '[', zeroOrMore (literal ' '),
    oneOrMore (charIn .digit), literal '%', literal ']', lineEnd]

/-- The start of the log of a teardown. -/
def teardownPattern : Pattern :=
  concat [lineStart, rule '-', literal ' ', oneOrMore (charIn titleChars), literal ' ',
    rule '-']

/-- The header of a group of detail reports. -/
def groupPattern : Pattern :=
  concat [lineStart, rule '=', literal ' ', oneOrMore (charIn capitals), literal ' ', rule '=']

/-- The header of a detail report: perhaps an occasion, then name and
parametrization of the test. -/
def reportPattern : Pattern :=
  concat [lineStart, rule '_', literal ' ',
    optional (concat [oneOrMore (charIn capitals), .text " at ",
      .group 1 (oneOrMore (charIn .word)), .text " of "]),
    .group 2 (oneOrMore (charIn nameChars)),
    bracketed 3, literal ' ', rule '_', lineEnd]

/-- The header of a section of a detail report. -/
def titlePattern : Pattern :=
  concat [lineStart, rule '-', literal ' ', .group 1 (oneOrMore (charIn titleChars)),
    literal ' ', rule '-', lineEnd]

/-- The header of the summary that follows the detail reports. -/
def summaryPattern : Pattern :=
  concat [lineStart, rule '=', literal ' ', oneOrMore (charIn smallTitleChars),
    .text " summary ", oneOrMore (charIn smallTitleChars), literal ' ', rule '=']

/-! ## What a marker tells -/

def opensSession (text : String) : Bool := sessionHeader.isMatch text

/-- The test that a line starts with. -/
def node? (text : String) : Option NodeId :=
  (nodePattern.firstMatch? text).map fun found =>
    ⟨(found.group? 1).getD "", (found.group? 2).getD "", found.group? 3⟩

def isNode (text : String) : Bool := nodePattern.isMatch text

/-- A line carries the mark that ends a test. -/
def endsTest (text : String) : Bool := endPattern.isMatch text

/-- The outcome that an end mark names, if it is a known one. -/
def endOutcome? (text : String) : Option Outcome :=
  match endPattern.firstMatch? text with
  | some found => Outcome.ofKeyword? ((found.group? 1).getD "")
  | none => none

def opensTeardown (text : String) : Bool := teardownPattern.isMatch text

def opensGroup (text : String) : Bool := groupPattern.isMatch text

/-- What the header of a detail report tells. -/
structure ReportHeader where
  occasion : Option String
  name : String
  param : Option String
deriving DecidableEq, Repr

namespace ReportHeader

/-- The header in a line. -/
def read? (text : String) : Option ReportHeader :=
  (reportPattern.firstMatch? text).map fun found =>
    ⟨found.group? 1, (found.group? 2).getD "", found.group? 3⟩

/-- Key under which a record keeps the report. -/
def key (header : ReportHeader) : String :=
  match header.occasion with
  | some occasion => occasion ++ "_detail"
  | none => "detail"

/-- The report is about a test with this identity; headers name no file. -/
def isAbout (header : ReportHeader) (id : NodeId) : Bool :=
  id.name = header.name && id.param = header.param

end ReportHeader

/-- The title of a section of a detail report. -/
def title? (text : String) : Option String :=
  (titlePattern.firstMatch? text).bind fun found => found.group? 1

def opensSummary (text : String) : Bool := summaryPattern.isMatch text

end RunTriage.Session
