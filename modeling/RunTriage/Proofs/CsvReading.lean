import RunTriage.Snapshot.Export

/-!
Contract: exported tables can be read back.

Owns:
- a reader of CSV that goes through a text once: a line feed outside quotes ends a record, a comma
  outside quotes a field, and inside quotes two quotes stand for one;
- texts that need no quotes, which numbers, rates and dates are;
- the table read from an export, which has the header and one record for each row.

Does not own: what the rows say, which is in `RunTriage.Snapshot.Statistics`.
-/

namespace RunTriage

namespace Csv

/-! ## The reader -/

inductive Place where
  | outside
  | inside
  /-- Behind a quote, which has ended the quotes unless another one follows. -/
  | behindQuote
deriving DecidableEq

/-- What a reader knows: the records before the open one, its fields before the open one, and the
characters of that field. -/
structure Reading where
  records : List (List String)
  fields : List String
  chars : List Char
  place : Place

namespace Reading

/-- A field starts. -/
def atField (records : List (List String)) (fields : List String) : Reading :=
  ⟨records, fields, [], .outside⟩

def stepOutside (reading : Reading) (char : Char) : Reading :=
  if char = '"' then { reading with place := .inside }
  else if char = ',' then atField reading.records (reading.fields ++ [.ofList reading.chars])
  else if char = '\n' then
    atField (reading.records ++ [reading.fields ++ [.ofList reading.chars]]) []
  else { reading with chars := reading.chars ++ [char], place := .outside }

def step (reading : Reading) (char : Char) : Reading :=
  match reading.place with
  | .outside => reading.stepOutside char
  | .inside =>
    if char = '"' then { reading with place := .behindQuote }
    else { reading with chars := reading.chars ++ [char] }
  | .behindQuote =>
    if char = '"' then { reading with chars := reading.chars ++ [char], place := .inside }
    else reading.stepOutside char

/-- The records at the end of the text, where the last one needs no line feed. -/
def finish (reading : Reading) : List (List String) :=
  if reading.fields = [] ∧ reading.chars = [] ∧ reading.place = .outside then reading.records
  else reading.records ++ [reading.fields ++ [.ofList reading.chars]]

end Reading

/-- The records in a text. -/
def read (text : String) : List (List String) :=
  (text.toList.foldl Reading.step (.atField [] [])).finish

/-! ## Reading a field -/

namespace Reading

variable {records : List (List String)} {fields : List String} {chars : List Char} {place : Place}

theorem foldl_step_plain {plain : List Char} (isPlain : ∀ char ∈ plain, needsQuotes char = false) :
    plain.foldl step ⟨records, fields, chars, .outside⟩ =
      ⟨records, fields, chars ++ plain, .outside⟩ := by
  induction plain generalizing chars with
  | nil => rw [List.foldl_nil, List.append_nil]
  | cons char rest inductionHypothesis =>
    have keeps := isPlain char List.mem_cons_self
    have restPlain := fun char member => isPlain char (List.mem_cons_of_mem _ member)
    simp only [needsQuotes, Bool.or_eq_false_iff, decide_eq_false_iff_not] at keeps
    obtain ⟨⟨notComma, notQuote⟩, notFeed⟩ := keeps
    have added : step ⟨records, fields, chars, .outside⟩ char =
        ⟨records, fields, chars ++ [char], .outside⟩ := by
      simp [step, stepOutside, notComma, notQuote, notFeed]
    rw [List.foldl_cons, added, inductionHypothesis restPlain, List.append_assoc]
    rfl

/-- Inside quotes a reader takes back the doubling. -/
theorem foldl_step_doubleQuotes (quoted : List Char) :
    (doubleQuotes quoted).foldl step ⟨records, fields, chars, .inside⟩ =
      ⟨records, fields, chars ++ quoted, .inside⟩ := by
  induction quoted generalizing chars with
  | nil =>
    rw [List.append_nil]
    rfl
  | cons char rest inductionHypothesis =>
    have added : (if char = '"' then ['"', '"'] else [char]).foldl step
        ⟨records, fields, chars, .inside⟩ = ⟨records, fields, chars ++ [char], .inside⟩ := by
      by_cases isQuote : char = '"'
      · simp [isQuote, step]
      · simp [isQuote, step]
    rw [doubleQuotes, List.flatMap_cons, List.foldl_append, added, ← doubleQuotes,
      inductionHypothesis, List.append_assoc]
    rfl

/-- The written form of a field is read as its value, and quotes are closed. -/
theorem foldl_step_field (records : List (List String)) (fields : List String) (value : String) :
    ∃ place, place ≠ .inside ∧
      (field value).toList.foldl step (atField records fields) =
        ⟨records, fields, value.toList, place⟩ := by
  unfold field
  split
  · refine ⟨.behindQuote, by decide, ?_⟩
    have opened : step (atField records fields) '"' = ⟨records, fields, [], .inside⟩ := rfl
    rw [String.toList_ofList, List.foldl_cons, opened, List.foldl_append, foldl_step_doubleQuotes]
    rfl
  · rename_i noneNeeds
    have isPlain : ∀ char ∈ value.toList, needsQuotes char = false := by
      intro char member
      exact Bool.eq_false_iff.mpr fun needs =>
        noneNeeds (List.any_eq_true.mpr ⟨char, member, needs⟩)
    exact ⟨.outside, by decide, foldl_step_plain isPlain⟩

theorem step_comma (closed : place ≠ .inside) :
    step ⟨records, fields, chars, place⟩ ',' = atField records (fields ++ [.ofList chars]) := by
  cases place with
  | inside => exact absurd rfl closed
  | outside => rfl
  | behindQuote => rfl

theorem step_lineFeed (closed : place ≠ .inside) :
    step ⟨records, fields, chars, place⟩ '\n' =
      atField (records ++ [fields ++ [.ofList chars]]) [] := by
  cases place with
  | inside => exact absurd rfl closed
  | outside => rfl
  | behindQuote => rfl

/-! ## Reading records -/

theorem foldl_step_record {values : List String} (someField : values ≠ []) :
    (record (values.map field)).toList.foldl step (atField records fields) =
      atField (records ++ [fields ++ values]) [] := by
  induction values generalizing fields with
  | nil => exact absurd rfl someField
  | cons value rest inductionHypothesis =>
    obtain ⟨place, closed, isRead⟩ := foldl_step_field records fields value
    cases rest with
    | nil =>
      have written : record ([value].map field) = field value ++ "\n" := by
        rw [record, List.map_singleton, String.intercalate_singleton]
      rw [written, String.toList_append, List.foldl_append, isRead]
      show step _ '\n' = _
      rw [step_lineFeed closed, String.ofList_toList]
    | cons next rest =>
      have written : record ((value :: next :: rest).map field) =
          field value ++ "," ++ record ((next :: rest).map field) := by
        simp only [record, List.map_cons, String.intercalate_cons_cons, String.append_assoc]
      rw [written, String.toList_append, String.toList_append, List.foldl_append,
        List.foldl_append, isRead]
      show List.foldl step (step _ ',') _ = _
      rw [step_comma closed, String.ofList_toList, inductionHypothesis (List.cons_ne_nil next rest),
        List.append_assoc]
      rfl

theorem foldl_step_join {rows : List (List String)} (someField : ∀ values ∈ rows, values ≠ []) :
    (String.join (rows.map fun values => record (values.map field))).toList.foldl step
        (atField records []) = atField (records ++ rows) [] := by
  induction rows generalizing records with
  | nil =>
    rw [List.append_nil]
    rfl
  | cons values rest inductionHypothesis =>
    have others := fun other member => someField other (List.mem_cons_of_mem values member)
    rw [List.map_cons, String.join_cons, String.toList_append, List.foldl_append,
      foldl_step_record (someField values List.mem_cons_self), inductionHypothesis others,
      List.append_assoc]
    rfl

end Reading

/-- Records of at least one field are read as they were written. -/
theorem read_join {rows : List (List String)} (someField : ∀ values ∈ rows, values ≠ []) :
    read (String.join (rows.map fun values => record (values.map field))) = rows := by
  rw [read, Reading.foldl_step_join someField]
  rfl

example : read "SKB-1,\"Timeout, \"\"slow\"\" device\",1\n" =
    [["SKB-1", "Timeout, \"slow\" device", "1"]] := by
  decide

/-! ## Texts without quotes -/

/-- No character of the text makes quotes necessary. -/
def Plain (text : String) : Prop :=
  ∀ char ∈ text.toList, needsQuotes char = false

instance (text : String) : Decidable (Plain text) :=
  List.decidableBAll (fun char => needsQuotes char = false) text.toList

theorem field_of_plain {text : String} (plain : Plain text) : field text = text := by
  have noneNeeds : text.toList.any needsQuotes = false :=
    List.any_eq_false.mpr fun char member => by simp [plain char member]
  rw [field, noneNeeds]
  rfl

theorem plain_append {left right : String} (leftPlain : Plain left) (rightPlain : Plain right) :
    Plain (left ++ right) := by
  intro char member
  rw [String.toList_append] at member
  rcases List.mem_append.mp member with inLeft | inRight
  · exact leftPlain char inLeft
  · exact rightPlain char inRight

theorem plain_toString (count : Nat) : Plain (toString count) := by
  intro char member
  rw [Nat.toString_eq_repr, Nat.toList_repr] at member
  have isDigit := Nat.isDigit_of_mem_toDigits (by decide) (by decide) member
  have different (other : Char) (notDigit : other.isDigit = false) : char ≠ other := by
    intro same
    rw [same, notDigit] at isDigit
    cases isDigit
  simp [needsQuotes, different ',' rfl, different '"' rfl, different '\n' rfl]

theorem plain_zeros (count : Nat) : Plain (.ofList (List.replicate count '0')) := by
  intro char member
  rw [String.toList_ofList] at member
  rw [(List.mem_replicate.mp member).2]
  rfl

theorem plain_padNumber (width value : Nat) : Plain (Instant.padNumber width value) :=
  plain_append (plain_zeros _) (plain_toString value)

theorem plain_renderYear (year : Int) : Plain (Instant.renderYear year) := by
  unfold Instant.renderYear
  split
  · exact plain_padNumber _ _
  · split
    · exact plain_append (by decide) (plain_padNumber _ _)
    · exact plain_append (by decide) (plain_padNumber _ _)

theorem plain_renderDate (date : Date) : Plain (Instant.renderDate date) := by
  have untilMonth := plain_append (plain_append (plain_renderYear date.year)
    (by decide : Plain "-")) (plain_padNumber 2 date.month)
  exact plain_append (plain_append untilMonth (by decide)) (plain_padNumber 2 date.day)

theorem plain_renderClock (instant : Instant) : Plain instant.renderClock := by
  have untilMinute := plain_append (plain_append (plain_padNumber 2 instant.hour)
    (by decide : Plain ":")) (plain_padNumber 2 instant.minute)
  exact plain_append (plain_append untilMinute (by decide)) (plain_padNumber 2 _)

theorem plain_renderFraction (instant : Instant) : Plain instant.renderFraction := by
  unfold Instant.renderFraction
  dsimp only
  split
  · decide
  · split
    · exact plain_append (by decide) (plain_padNumber 3 _)
    · split
      · exact plain_append (by decide) (plain_padNumber 6 _)
      · exact plain_append (by decide) (plain_padNumber 9 _)

theorem plain_renderNumericOffset (instant : Instant) : Plain instant.renderNumericOffset := by
  have untilClock := plain_append (plain_append (plain_renderDate instant.date)
    (by decide : Plain "T")) (plain_renderClock instant)
  exact plain_append (plain_append untilClock (plain_renderFraction instant)) (by decide)

theorem plain_fixedMagnitude (places significand : Nat) (exponent : Int) :
    Plain (.ofList (Decimal.fixedMagnitude places significand exponent)) := by
  unfold Decimal.fixedMagnitude
  dsimp only
  split
  · rw [String.ofList_toList]
    exact plain_toString _
  · rw [String.ofList_append, String.ofList_toList]
    refine plain_append (plain_toString _) ?_
    rw [← List.singleton_append, String.ofList_append, String.ofList_append, String.ofList_toList]
    exact plain_append (by decide) (plain_append (plain_zeros _) (plain_toString _))

theorem plain_fixed (places : Nat) (value : Float) : Plain (Decimal.fixed places value) := by
  have signPlain (negative : Bool) : Plain (.ofList (Decimal.signChars negative)) := by
    cases negative <;> decide
  unfold Decimal.fixed
  split
  · decide
  · rw [String.ofList_append]
    exact plain_append (signPlain _) (by decide)
  · rw [String.ofList_append]
    exact plain_append (signPlain _) (plain_fixedMagnitude _ _ _)

theorem plain_word (frequency : Frequency) : Plain frequency.word := by
  cases frequency <;> decide

/-! ## Exports -/

/-- What the fields of a row stand for. -/
def valuesOf (row : OverviewRow) : List String :=
  [row.code, row.message, toString row.runs, Decimal.fixed ratePlaces row.rate,
    row.frequency.word, (row.lastSeen.map Instant.renderNumericOffset).getD "",
    row.lastRun.getD "", correlationsText row.correlations]

theorem row_eq (row : OverviewRow) : Csv.row row = record ((valuesOf row).map field) := by
  have seenPlain : Plain ((row.lastSeen.map Instant.renderNumericOffset).getD "") := by
    cases row.lastSeen with
    | none => decide
    | some instant => exact plain_renderNumericOffset instant
  simp only [Csv.row, valuesOf, List.map_cons, List.map_nil, field_of_plain (plain_toString _),
    field_of_plain (plain_fixed _ _), field_of_plain (plain_word _), field_of_plain seenPlain]

theorem header_eq : header.map field = header := by decide

end Csv

/-- An exported table is read as its header and one record of eight fields for each row. -/
theorem Snapshot.read_exported (snapshot : Snapshot) :
    Csv.read (snapshot.exported .csv) =
      Csv.header :: (snapshot.overview none).map fun row =>
        [row.code, row.message, toString row.runs, Decimal.fixed 4 row.rate, row.frequency.word,
          (row.lastSeen.map Instant.renderNumericOffset).getD "", row.lastRun.getD "",
          " ".intercalate (row.correlations.map fun correlation =>
            correlation.code ++ ":" ++ Decimal.fixed 2 correlation.excess)] := by
  have written : snapshot.exported .csv =
      String.join ((Csv.header :: (snapshot.overview none).map Csv.valuesOf).map fun values =>
        Csv.record (values.map Csv.field)) := by
    rw [List.map_cons, String.join_cons, Csv.header_eq, List.map_map]
    show Csv.record Csv.header ++ String.join ((snapshot.overview none).map Csv.row) = _
    rw [show Csv.row = _ from funext Csv.row_eq]
    rfl
  rw [written]
  refine Csv.read_join fun values member => ?_
  rcases List.mem_cons.mp member with isHeader | isRow
  · rw [isHeader]
    exact List.cons_ne_nil _ _
  · obtain ⟨row, _, rfl⟩ := List.mem_map.mp isRow
    exact List.cons_ne_nil _ _

end RunTriage
