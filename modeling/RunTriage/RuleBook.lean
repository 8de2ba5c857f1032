import RunTriage.Rule

/-!
Contract: collections of rules with an index by test.

Owns:
- registration: a code is used once, is not reserved, and its rule has a symptom;
- the index by test, which gives the rules for a test without trying all of them;
- the index by code, and look-up of a rule or fallback by it.

Does not own: how rules are written down, which is in `RunTriage.RuleFile`.
-/

namespace RunTriage

/-- Why a collection of rules is refused. -/
inductive RegistrationError where
  | reserved (code : String)
  | duplicate (code : String)
  | noSymptoms (code : String)
deriving DecidableEq, Repr

namespace RegistrationError

/-- The text without the mark of its kind. -/
def description : RegistrationError → String
  | .reserved code => "Classifier code '" ++ code ++ "' is reserved"
  | .duplicate code => "Duplicate classifier code '" ++ code ++ "'"
  | .noSymptoms code => "Classifier '" ++ code ++ "' has no predicates"

end RegistrationError

/-- A rule with its position in the order of registration. -/
structure Placed where
  position : Nat
  rule : Rule
deriving Inhabited

/-- Rules in the order of registration, and their indexes by code and by test. -/
structure RuleBook where
  rules : List Rule
  /-- The position of the rule with a code. -/
  coded : List (String × Nat)
  /-- The rules listing a test, in ascending order of their positions. -/
  keyed : List (TestKey × List Placed)
  /-- The rules tried on every test, in ascending order of their positions. -/
  everywhere : List Placed
deriving Inhabited

namespace RuleBook

/-- The collection without rules. -/
def empty : RuleBook := ⟨[], [], [], []⟩

/-! ## The index by code -/

/-- The position stored under a code. -/
def positionOf? (book : RuleBook) (code : String) : Option Nat :=
  (book.coded.find? fun entry => entry.1 = code).map Prod.snd

/-! ## The index by test -/

/-- Put a rule last under a key. -/
def addUnder (key : TestKey) (placed : Placed) :
    List (TestKey × List Placed) → List (TestKey × List Placed)
  | [] => [(key, [placed])]
  | (stored, known) :: rest =>
    if stored = key then (stored, known ++ [placed]) :: rest
    else (stored, known) :: addUnder key placed rest

/-- The rules stored under a key. -/
def under (key : TestKey) : List (TestKey × List Placed) → List Placed
  | [] => []
  | (stored, known) :: rest => if stored = key then known else under key rest

/-- The collection with one more rule, which comes last. -/
def push (book : RuleBook) (rule : Rule) : RuleBook :=
  let placed : Placed := ⟨book.rules.length, rule⟩
  let rules := book.rules ++ [rule]
  let coded := (rule.code, book.rules.length) :: book.coded
  match rule.scope with
  | .everywhere =>
    { book with rules := rules, coded := coded, everywhere := book.everywhere ++ [placed] }
  | .only tests =>
    { book with
      rules := rules
      coded := coded
      keyed := tests.eraseDups.foldl (fun index key => addUnder key placed index) book.keyed }

/-- The rules tried on a test, in the order of registration. -/
def candidates (book : RuleBook) (key : TestKey) : List Rule :=
  (List.merge (under key book.keyed) book.everywhere fun left right =>
    left.position < right.position).map Placed.rule

/-! ## Registration -/

def hasCode (book : RuleBook) (code : String) : Bool := (book.positionOf? code).isSome

/-- The collection with one more rule, if the rule can be registered. -/
def register (book : RuleBook) (rule : Rule) : Except RegistrationError RuleBook :=
  if Fallback.isReserved rule.code then .error (.reserved rule.code)
  else if book.hasCode rule.code then .error (.duplicate rule.code)
  else if rule.symptoms.isEmpty then .error (.noSymptoms rule.code)
  else .ok (book.push rule)

def registerAll (book : RuleBook) : List Rule → Except RegistrationError RuleBook
  | [] => .ok book
  | rule :: rest =>
    match book.register rule with
    | .ok larger => registerAll larger rest
    | .error error => .error error

/-- The collection of the rules of a list. -/
def ofRules (rules : List Rule) : Except RegistrationError RuleBook :=
  registerAll empty rules

/-! ## Look-up -/

/-- Every rule, then every fallback. -/
def all (book : RuleBook) : List Rule :=
  book.rules ++ Fallback.all.map Fallback.rule

/-- The rule or fallback with a code. -/
def find? (book : RuleBook) (code : String) : Option Rule :=
  match book.positionOf? code with
  | some position => book.rules[position]?
  | none => (Fallback.all.map Fallback.rule).find? fun rule => rule.code = code

/-- Number of rules, without the fallbacks. -/
def size (book : RuleBook) : Nat := book.rules.length

def isEmpty (book : RuleBook) : Bool := book.rules.isEmpty

end RuleBook

end RunTriage
