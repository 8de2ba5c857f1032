import RunTriage.Batch
import RunTriage.Proofs.Splitting

/-!
Contract: which logs can be read.

Owns:
- byte strings that encode characters, cut at line feeds and joined by them;
- the logs that can be read, which are those whose bytes encode a text as a whole, even though
  they are decoded line by line.

Does not own: what the lines mean, which is in `RunTriage.Line.Reader`.
-/

namespace RunTriage

namespace Log

/-! ## Encoded characters -/

def Encodes (bytes : List UInt8) : Prop :=
  ∃ chars : List Char, chars.flatMap String.utf8EncodeChar = bytes

/-- Bytes are decoded to the text that they encode. -/
theorem decodeText?_eq_some_iff {bytes : List UInt8} {text : String} :
    decodeText? bytes = some text ↔ text.toList.flatMap String.utf8EncodeChar = bytes := by
  have encoding : text.toByteArray = ⟨bytes.toArray⟩ ↔
      text.toList.flatMap String.utf8EncodeChar = bytes := by
    have encoded : text.toByteArray = text.toList.utf8Encode := by
      rw [← String.toByteArray_ofList, String.ofList_toList]
    rw [encoded, List.utf8Encode]
    constructor
    · intro same
      have sameBytes := congrArg (fun array => array.data.toList) same
      rwa [List.data_toByteArray] at sameBytes
    · rintro rfl
      exact ByteArray.ext List.data_toByteArray
  rw [← encoding]
  unfold decodeText? String.fromUTF8?
  split
  · rename_i valid
    rw [Option.some.injEq, ← String.toByteArray_inj, eq_comm]
    rfl
  · rename_i invalid
    refine iff_of_false nofun fun same => invalid ?_
    exact same ▸ text.isValidUTF8

theorem isSome_decodeText? {bytes : List UInt8} : (decodeText? bytes).isSome ↔ Encodes bytes := by
  rw [Option.isSome_iff_exists]
  constructor
  · rintro ⟨text, isText⟩
    exact ⟨text.toList, decodeText?_eq_some_iff.mp isText⟩
  · rintro ⟨chars, encoded⟩
    refine ⟨String.ofList chars, decodeText?_eq_some_iff.mpr ?_⟩
    rwa [String.toList_ofList]

theorem encodes_nil : Encodes [] := ⟨[], rfl⟩

theorem Encodes.append {left right : List UInt8} (first : Encodes left) (second : Encodes right) :
    Encodes (left ++ right) := by
  obtain ⟨leftChars, rfl⟩ := first
  obtain ⟨rightChars, rfl⟩ := second
  exact ⟨leftChars ++ rightChars, List.flatMap_append⟩

theorem encodes_lineFeed : Encodes [10] := ⟨['\n'], by decide⟩

/-- A character beyond ASCII is encoded without any byte of ASCII. -/
theorem byte_of_mem_utf8EncodeChar {char : Char} {byte : UInt8}
    (member : byte ∈ String.utf8EncodeChar char) :
    byte.toNat = char.toNat ∨ 128 ≤ byte.toNat := by
  unfold String.utf8EncodeChar at member
  dsimp only at member
  split at member
  · have ascii : byte.toNat = char.val.toNat := by
      rw [List.mem_singleton.mp member, UInt8.toNat_ofNat']
      omega
    exact .inl ascii
  · right
    split at member
    · simp only [List.mem_cons, List.not_mem_nil, or_false] at member
      rcases member with rfl | rfl <;> rw [UInt8.toNat_ofNat'] <;> omega
    · split at member
      · simp only [List.mem_cons, List.not_mem_nil, or_false] at member
        rcases member with rfl | rfl | rfl <;> rw [UInt8.toNat_ofNat'] <;> omega
      · simp only [List.mem_cons, List.not_mem_nil, or_false] at member
        rcases member with rfl | rfl | rfl | rfl <;> rw [UInt8.toNat_ofNat'] <;> omega

/-- Only a line feed is encoded with the byte of a line feed. -/
theorem lineFeed_not_mem_utf8EncodeChar {char : Char} (other : char ≠ '\n') :
    10 ∉ String.utf8EncodeChar char := by
  intro member
  rcases byte_of_mem_utf8EncodeChar member with same | high
  · exact other (Char.toNat_inj.mp same.symm)
  · exact absurd high (by decide)

/-! ## Lines -/

theorem splitLines_eq (bytes : List UInt8) : splitLines bytes = bytes.splitOn 10 := by
  induction bytes with
  | nil => rfl
  | cons byte rest inductionHypothesis =>
    rw [splitLines, List.splitOn_cons_eq_if_modifyHead, ← inductionHypothesis]
    by_cases isFeed : byte = 10
    · rw [if_pos isFeed, if_pos (beq_iff_eq.mpr isFeed)]
    · rw [if_neg isFeed, if_neg (mt beq_iff_eq.mp isFeed)]
      cases lines : splitLines rest with
      | nil => exact absurd (inductionHypothesis.symm.trans lines) (List.splitOn_ne_nil _ _)
      | cons line lines => rfl

/-- Cutting encoded characters at line feeds is cutting the characters. -/
theorem splitOn_flatMap_utf8EncodeChar (chars : List Char) :
    (chars.flatMap String.utf8EncodeChar).splitOn 10 =
      (chars.splitOn '\n').map fun line => line.flatMap String.utf8EncodeChar := by
  induction chars with
  | nil => rfl
  | cons char rest inductionHypothesis =>
    rw [List.flatMap_cons, List.splitOn_cons_eq_if_modifyHead]
    by_cases isFeed : char = '\n'
    · subst isFeed
      have encoded : String.utf8EncodeChar '\n' = [10] := by decide
      simp [encoded, List.splitOn_cons_eq_if_modifyHead, inductionHypothesis]
    · rw [Text.splitOn_append (lineFeed_not_mem_utf8EncodeChar isFeed), inductionHypothesis,
        if_neg (mt beq_iff_eq.mp isFeed)]
      cases rest.splitOn '\n' <;> simp

theorem encodes_intercalate {lines : List (List UInt8)} (each : ∀ line ∈ lines, Encodes line) :
    Encodes ([10].intercalate lines) := by
  induction lines with
  | nil => exact encodes_nil
  | cons line rest inductionHypothesis =>
    have first := each line List.mem_cons_self
    have others := inductionHypothesis fun line member => each line (List.mem_cons_of_mem _ member)
    cases rest with
    | nil => simpa using first
    | cons next rest =>
      rw [List.intercalate_cons_cons]
      exact (first.append encodes_lineFeed).append others

/-- All lines encode characters if and only if the bytes do as a whole. -/
theorem encodes_splitLines {bytes : List UInt8} :
    (∀ line ∈ splitLines bytes, Encodes line) ↔ Encodes bytes := by
  rw [splitLines_eq]
  constructor
  · intro each
    have joined : [10].intercalate (bytes.splitOn 10) = bytes := List.intercalate_splitOn 10
    exact joined ▸ encodes_intercalate each
  · rintro ⟨chars, rfl⟩ line member
    rw [splitOn_flatMap_utf8EncodeChar] at member
    obtain ⟨lineChars, _, rfl⟩ := List.mem_map.mp member
    exact ⟨lineChars, rfl⟩

/-! ## Logs -/

theorem isSome_readLines {lines : List (List UInt8)} :
    (readLines lines).toOption.isSome ↔ ∀ line ∈ lines, Encodes line := by
  induction lines with
  | nil => exact ⟨fun _ _ member => absurd member List.not_mem_nil, fun _ => rfl⟩
  | cons line rest inductionHypothesis =>
    rw [List.forall_mem_cons, ← inductionHypothesis, ← isSome_decodeText?, readLines]
    cases decodeText? line with
    | none => simp [Except.toOption]
    | some text => cases readLines rest <;> simp [Except.toOption]

/-- A log can be read if and only if its bytes as a whole encode a text. -/
theorem isSome_read {bytes : List UInt8} :
    (read bytes).toOption.isSome = (decodeText? bytes).isSome := by
  rw [Bool.eq_iff_iff, isSome_decodeText?, ← encodes_splitLines]
  exact isSome_readLines

end Log

/-- The logs that can be read are the files that hold a text. -/
theorem Batch.isSome_log? (files : Files) (path : String) :
    (log? files path).isSome = (files.text? path).isSome := by
  unfold log? Files.text?
  cases files.contents? path with
  | none => rfl
  | some bytes => exact Log.isSome_read

end RunTriage
