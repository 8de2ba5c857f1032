import Mathlib.Data.List.Forall2
import Mathlib.Data.List.Nodup
import Mathlib.Data.List.Perm.Subperm
import RunTriage.Proofs.Extents
import RunTriage.Proofs.Tables
import RunTriage.Session.Basic

/-!
Contract: every line that a test holds comes from one position of the session.

Owns:
- `Attribution`, the positions of the lines of a test by section;
- how the detail reports keep the lines that are placed in them;
- the attribution of a session, which uses no position twice, and the number of lines
  that no test holds.

Does not own: which test and which section a line goes to.
-/

namespace RunTriage.Session

/-! ## Lines at positions -/

/-- The lines at positions. -/
def linesAt (lines : List Line) (positions : List Nat) : List Line :=
  positions.filterMap fun position => lines[position]?

theorem length_linesAt {lines : List Line} {positions : List Nat}
    (inside : ∀ position ∈ positions, position < lines.length) :
    (linesAt lines positions).length = positions.length := by
  induction positions with
  | nil => rfl
  | cons first rest inductionHypothesis =>
    have firstInside : first < lines.length := inside first List.mem_cons_self
    have restInside : ∀ position ∈ rest, position < lines.length :=
      fun position member => inside position (List.mem_cons_of_mem first member)
    rw [List.length_cons, ← inductionHypothesis restInside]
    simp [linesAt, List.getElem?_eq_getElem firstInside]

theorem slice_eq_linesAt (lines : List Line) (start stop : Nat) :
    slice lines start stop = linesAt lines (List.range' start (stop - start)) := by
  rw [slice]
  generalize stop - start = count
  induction count generalizing start with
  | zero => rfl
  | succ count inductionHypothesis =>
    rw [linesAt, List.range'_succ, List.filterMap_cons]
    cases here : lines[start]? with
    | none =>
      have past : lines.length ≤ start := List.getElem?_eq_none_iff.mp here
      have noMore := inductionHypothesis (start + 1)
      rw [List.drop_of_length_le (Nat.le_succ_of_le past), List.take_nil] at noMore
      rw [List.drop_of_length_le past, List.take_nil]
      exact noMore
    | some line =>
      obtain ⟨inside, isLine⟩ := List.getElem?_eq_some_iff.mp here
      rw [List.drop_eq_getElem_cons inside, List.take_succ_cons, isLine, inductionHypothesis]
      rfl

/-! ## Places in detail reports -/

/-- The positions of the lines of detail reports, by key and title. -/
abbrev Places := SortedTable (List (String × List Nat))

/-- The section with the lines at the positions of its place. -/
def sectionAt (lines : List Line) (place : String × List Nat) : Section :=
  ⟨place.1, linesAt lines place.2⟩

/-- The detail reports with the lines at their places. -/
def sectionsAt (lines : List Line) (places : Places) : SortedTable (List Section) :=
  places.map fun entry => (entry.1, entry.2.map (sectionAt lines))

/-- Add a position to the place with a title, which is made if there is none. -/
def addToPlace (title : String) (position : Nat) :
    List (String × List Nat) → List (String × List Nat)
  | [] => [(title, [position])]
  | place :: rest =>
    if place.1 = title then (place.1, place.2 ++ [position]) :: rest
    else place :: addToPlace title position rest

/-- Put the position of a placement into its place. -/
def addPosition (places : Places) (placement : Placement) : Places :=
  places.alter placement.key fun known =>
    addToPlace placement.title placement.position (known.getD [])

/-- The places in the detail reports of one test. -/
def placesOf (placements : List Placement) (test : Nat) : Places :=
  (placements.filter fun placement => placement.test = test).foldl addPosition []

section Places

variable {lines : List Line} {placements : List Placement} {placement : Placement}
  {title : String} {position : Nat} {line : Line}

theorem map_addToPlace (isLine : lines[position]? = some line)
    (places : List (String × List Nat)) :
    (addToPlace title position places).map (sectionAt lines) =
      addToSection title line (places.map (sectionAt lines)) := by
  induction places with
  | nil => simp [addToPlace, addToSection, sectionAt, linesAt, isLine]
  | cons place rest inductionHypothesis =>
    by_cases named : place.1 = title
    · simp [addToPlace, addToSection, sectionAt, linesAt, isLine, named]
    · simp [addToPlace, addToSection, sectionAt, named, inductionHypothesis]

theorem sectionsAt_addPosition (inside : placement.position < lines.length) (places : Places) :
    sectionsAt lines (addPosition places placement) =
      addPlacement lines (sectionsAt lines places) placement := by
  have isLine : lines[placement.position]? = some lines[placement.position] :=
    List.getElem?_eq_getElem inside
  rw [sectionsAt, addPosition, SortedTable.alter, SortedTable.insert_mapValues,
    map_addToPlace isLine]
  simp only [addPlacement, isLine, SortedTable.alter, sectionsAt, SortedTable.find?_mapValues]
  cases places.find? placement.key <;> rfl

theorem foldl_addPlacement (inside : ∀ placement ∈ placements, placement.position < lines.length)
    (places : Places) :
    placements.foldl (addPlacement lines) (sectionsAt lines places) =
      sectionsAt lines (placements.foldl addPosition places) := by
  induction placements generalizing places with
  | nil => rfl
  | cons first rest inductionHypothesis =>
    rw [List.foldl_cons, List.foldl_cons,
      ← sectionsAt_addPosition (inside first List.mem_cons_self)]
    exact inductionHypothesis
      (fun placement member => inside placement (List.mem_cons_of_mem first member)) _

theorem detailsOf_eq_sectionsAt
    (inside : ∀ placement ∈ placements, placement.position < lines.length) (test : Nat) :
    detailsOf lines placements test = sectionsAt lines (placesOf placements test) :=
  foldl_addPlacement (fun placement member => inside placement (List.mem_of_mem_filter member)) []

end Places

/-! ## Conservation of positions -/

/-- The positions in a list of places. -/
def placePositions (parts : List (String × List Nat)) : List Nat :=
  parts.flatMap Prod.snd

/-- The positions in the places of detail reports. -/
def allPositions (places : Places) : List Nat :=
  places.flatMap fun entry => placePositions entry.2

/-- The places hold these positions, each once, and every place holds some of them in
their order. -/
structure Keeps (places : Places) (positions : List Nat) : Prop where
  ascending : places.Ascending
  conserved : (allPositions places).Perm positions
  ordered : ∀ entry ∈ places, ∀ part ∈ entry.2, part.2.Sublist positions

section Keeps

variable {places : Places} {positions : List Nat} {title : String} {position : Nat}

theorem perm_addToPlace (parts : List (String × List Nat)) :
    (placePositions (addToPlace title position parts)).Perm
      (placePositions parts ++ [position]) := by
  induction parts with
  | nil => exact List.Perm.refl _
  | cons part rest inductionHypothesis =>
    unfold addToPlace placePositions
    split
    · rw [List.flatMap_cons, List.flatMap_cons, List.append_assoc, List.append_assoc]
      exact List.perm_append_comm.append_left part.2
    · rw [List.flatMap_cons, List.flatMap_cons, List.append_assoc]
      exact inductionHypothesis.append_left part.2

theorem sublist_addToPlace {parts : List (String × List Nat)}
    (ordered : ∀ part ∈ parts, part.2.Sublist positions) :
    ∀ part ∈ addToPlace title position parts, part.2.Sublist (positions ++ [position]) := by
  induction parts with
  | nil =>
    intro part member
    rw [List.mem_singleton.mp member]
    exact List.sublist_append_right positions [position]
  | cons first rest inductionHypothesis =>
    obtain ⟨firstOrdered, restOrdered⟩ := List.forall_mem_cons.mp ordered
    have longer {part : String × List Nat} (sublist : part.2.Sublist positions) :
        part.2.Sublist (positions ++ [position]) :=
      sublist.trans (List.sublist_append_left positions [position])
    unfold addToPlace
    split
    · exact List.forall_mem_cons.mpr
        ⟨firstOrdered.append_right [position], fun part member => longer (restOrdered part member)⟩
    · exact List.forall_mem_cons.mpr ⟨longer firstOrdered, inductionHypothesis restOrdered⟩

theorem Keeps.addPosition (keeps : Keeps places positions) (placement : Placement) :
    Keeps (addPosition places placement) (positions ++ [placement.position]) where
  ascending := keeps.ascending.alter _ _
  conserved := by
    -- What the key held before stands on both sides and cancels.
    have exchanged := keeps.ascending.perm_flatMap_insert placement.key
      (addToPlace placement.title placement.position
        ((places.find? placement.key).getD [])) placePositions
    have before : (places.find? placement.key).elim [] placePositions =
        placePositions ((places.find? placement.key).getD []) := by
      cases places.find? placement.key <;> rfl
    rw [before] at exchanged
    have added : (placePositions (addToPlace placement.title placement.position
          ((places.find? placement.key).getD []))).Perm
        ([placement.position] ++ placePositions ((places.find? placement.key).getD [])) :=
      (perm_addToPlace _).trans List.perm_append_comm
    have balanced := exchanged.trans (keeps.conserved.append added)
    rw [← List.append_assoc] at balanced
    exact (List.perm_append_right_iff _).mp balanced
  ordered := by
    intro entry member part isPart
    rcases SortedTable.eq_or_mem_of_mem_insert member with isNew | isOld
    · subst isNew
      refine sublist_addToPlace (fun known isKnown => ?_) part isPart
      cases found : places.find? placement.key with
      | none => simp [found] at isKnown
      | some parts =>
        rw [found, Option.getD_some] at isKnown
        exact keeps.ordered _ (SortedTable.mem_of_find? found) known isKnown
    · exact (keeps.ordered entry isOld part isPart).trans (List.sublist_append_left _ _)

theorem keeps_foldl (placements : List Placement) (keeps : Keeps places positions) :
    Keeps (placements.foldl Session.addPosition places)
      (positions ++ placements.map Placement.position) := by
  induction placements generalizing places positions with
  | nil => simpa using keeps
  | cons first rest inductionHypothesis =>
    rw [List.foldl_cons, List.map_cons, List.append_cons]
    exact inductionHypothesis (keeps.addPosition first)

theorem keeps_placesOf (placements : List Placement) (test : Nat) :
    Keeps (placesOf placements test)
      ((placements.filter fun placement => placement.test = test).map Placement.position) :=
  keeps_foldl _ ⟨SortedTable.ascending_nil, .refl [], fun _ member => nomatch member⟩

end Keeps

/-! ## The attribution of a session -/

theorem total_map_eq_length {α β : Type} {items : List α} {size : α → Nat}
    {contents : α → List β} (same : ∀ item ∈ items, size item = (contents item).length) :
    total (items.map size) = (items.flatMap contents).length := by
  induction items with
  | nil => rfl
  | cons first rest inductionHypothesis =>
    obtain ⟨firstSame, restSame⟩ := List.forall_mem_cons.mp same
    rw [List.map_cons, total_cons, List.flatMap_cons, List.length_append, firstSame,
      inductionHypothesis restSame]

/-- The positions of the lines of a test, by section. -/
structure Attribution where
  messages : List Nat
  teardown : Option (List Nat)
  details : Places

namespace Attribution

/-- The messages followed by the teardown. -/
def block (attribution : Attribution) : List Nat :=
  attribution.messages ++ attribution.teardown.getD []

/-- The positions in detail reports. -/
def detailPositions (attribution : Attribution) : List Nat :=
  allPositions attribution.details

/-- The positions of each section. -/
def sections (attribution : Attribution) : List (List Nat) :=
  attribution.messages :: (attribution.teardown.toList ++
    attribution.details.flatMap fun entry => entry.2.map Prod.snd)

/-- The positions of all sections. -/
def positions (attribution : Attribution) : List Nat := attribution.sections.flatten

/-- Every section of a test holds the lines at the positions of the same section. -/
structure Explains (lines : List Line) (attribution : Attribution) (test : TestRecord) :
    Prop where
  messages : test.messages = linesAt lines attribution.messages
  teardown : test.teardown = attribution.teardown.map (linesAt lines)
  details : test.details = sectionsAt lines attribution.details

theorem positions_eq (attribution : Attribution) :
    attribution.positions = attribution.block ++ attribution.detailPositions := by
  have details : (attribution.details.flatMap fun entry => entry.2.map Prod.snd).flatten =
      attribution.detailPositions := by
    rw [List.flatten_eq_flatMap, List.flatMap_assoc]
    simp only [List.flatMap_map]
    rfl
  rw [positions, sections, List.flatten_cons, List.flatten_append, details, block]
  cases attribution.teardown <;> simp

theorem Explains.lineCount_eq {lines : List Line} {attribution : Attribution}
    {test : TestRecord} (explains : Explains lines attribution test)
    (inside : ∀ position ∈ attribution.positions, position < lines.length) :
    test.lineCount = attribution.positions.length := by
  rw [positions_eq] at inside ⊢
  obtain ⟨blockInside, detailsInside⟩ := List.forall_mem_append.mp inside
  obtain ⟨messagesInside, teardownInside⟩ := List.forall_mem_append.mp blockInside
  have messages : test.messages.length = attribution.messages.length := by
    rw [explains.messages, length_linesAt messagesInside]
  have teardown : (test.teardown.getD []).length = (attribution.teardown.getD []).length := by
    rw [explains.teardown]
    cases held : attribution.teardown with
    | none => rfl
    | some positions =>
      rw [held] at teardownInside
      exact length_linesAt teardownInside
  have details : total (test.details.values.map fun sections =>
      total (sections.map fun part => part.lines.length)) = attribution.detailPositions.length := by
    rw [explains.details, sectionsAt, SortedTable.values, List.map_map, List.map_map]
    refine total_map_eq_length fun entry isEntry => ?_
    rw [Function.comp, Function.comp, List.map_map]
    refine total_map_eq_length fun part isPart => length_linesAt fun position member => ?_
    exact detailsInside position (List.mem_flatMap.mpr
      ⟨entry, isEntry, List.mem_flatMap.mpr ⟨part, isPart, member⟩⟩)
  rw [TestRecord.lineCount, messages, teardown, details, block, List.length_append,
    List.length_append]

end Attribution

/-- Tests hold lines at positions from `start` on, without loss or duplication. -/
structure Attributes (lines : List Line) (start : Nat) (attributions : List Attribution)
    (tests : List TestRecord) : Prop where
  explains : List.Forall₂ (Attribution.Explains lines) attributions tests
  /-- Every position is one of the session. -/
  inside : ∀ position ∈ attributions.flatMap Attribution.positions,
    start ≤ position ∧ position < lines.length
  /-- No position occurs twice, be it in one section, in two sections or in two tests. -/
  distinct : (attributions.flatMap Attribution.positions).Nodup
  /-- The lines of a section are in the order of the stream. -/
  ordered : ∀ attribution ∈ attributions, ∀ part ∈ attribution.sections, part.Pairwise (· < ·)
  /-- The messages of a test and its teardown are one contiguous block. -/
  contiguous : ∀ attribution ∈ attributions,
    ∃ first count, attribution.block = List.range' first count
  /-- The blocks follow one another in the order of the tests. -/
  blocksAscend : (attributions.flatMap Attribution.block).Pairwise (· < ·)
  /-- The detail reports come after all blocks. -/
  blocksFirst : ∀ position ∈ attributions.flatMap Attribution.block,
    ∀ later ∈ attributions.flatMap Attribution.detailPositions, position < later

section Attributes

variable {lines : List Line} {start : Nat} {attributions : List Attribution}
  {tests : List TestRecord}

theorem countLines_eq (explains : List.Forall₂ (Attribution.Explains lines) attributions tests)
    (inside : ∀ position ∈ attributions.flatMap Attribution.positions,
      position < lines.length) :
    countLines tests = (attributions.flatMap Attribution.positions).length := by
  induction explains with
  | nil => rfl
  | @cons attribution test _ _ first _ inductionHypothesis =>
    rw [List.flatMap_cons] at inside
    obtain ⟨firstInside, restInside⟩ := List.forall_mem_append.mp inside
    rw [countLines, List.map_cons, total_cons, List.flatMap_cons, List.length_append,
      first.lineCount_eq firstInside, ← inductionHypothesis restInside]
    rfl

theorem Attributes.countLines_le (attributes : Attributes lines start attributions tests) :
    countLines tests ≤ lines.length - start := by
  have below : ∀ position ∈ attributions.flatMap Attribution.positions, position < lines.length :=
    fun position member => (attributes.inside position member).2
  rw [countLines_eq attributes.explains below]
  have among : attributions.flatMap Attribution.positions ⊆
      List.range' start (lines.length - start) := fun position member => by
    obtain ⟨least, most⟩ := attributes.inside position member
    rw [List.mem_range'_1]
    omega
  simpa using (attributes.distinct.subperm among).length_le

end Attributes

/-! ## The attribution of a layout -/

/-- The positions that a layout gives to a test. -/
def attributionOf (placements : List Placement) (test : Nat) (extent : Extent) : Attribution :=
  { messages := List.range' extent.start (extent.stop - extent.start)
    teardown := extent.teardown.map fun count => List.range' extent.stop count
    details := placesOf placements test }

/-- The positions that a layout gives to its tests. -/
def attributionsOf (layout : Layout) : List Attribution :=
  layout.extents.mapIdx (attributionOf layout.placements)

section Layout

variable {placements : List Placement} {extents : List Extent} {extent : Extent}

theorem block_attributionOf (upward : extent.start ≤ extent.stop) (test : Nat) :
    (attributionOf placements test extent).block = extent.positions := by
  have toStop : extent.start + (extent.stop - extent.start) = extent.stop := by omega
  have length : extent.finish - extent.start =
      (extent.stop - extent.start) + extent.teardown.getD 0 := by
    rw [Extent.finish]
    omega
  have teardown : ((extent.teardown.map fun count => List.range' extent.stop count).getD []) =
      List.range' extent.stop (extent.teardown.getD 0) := by
    cases extent.teardown <;> rfl
  rw [Extent.positions, length, ← List.range'_append_1, toStop, ← teardown]
  rfl

theorem explains_attributionOf {lines : List Line}
    (inside : ∀ placement ∈ placements, placement.position < lines.length) (test : Nat)
    (extent : Extent) : (attributionOf placements test extent).Explains lines
      (recordOf lines placements test extent) where
  messages := slice_eq_linesAt lines extent.start extent.stop
  teardown := by
    show extent.teardown.map _ = (extent.teardown.map _).map _
    cases extent.teardown with
    | none => rfl
    | some count =>
      have held := slice_eq_linesAt lines extent.stop (extent.stop + count)
      rw [Nat.add_sub_cancel_left] at held
      exact congrArg some held
  details := detailsOf_eq_sectionsAt inside test

theorem explains_attributionsOf {lines : List Line} (layout : Layout)
    (inside : ∀ placement ∈ layout.placements, placement.position < lines.length) :
    List.Forall₂ (Attribution.Explains lines) (attributionsOf layout) (recordsOf lines layout) := by
  refine List.forall₂_iff_get.mpr ⟨?_, fun test _ _ => ?_⟩
  · simp [attributionsOf, recordsOf]
  · simp only [attributionsOf, recordsOf, List.get_eq_getElem, List.getElem_mapIdx]
    exact explains_attributionOf inside test _

theorem flatMap_block {layout : Layout}
    (upward : ∀ extent ∈ layout.extents, extent.start ≤ extent.stop) :
    (attributionsOf layout).flatMap Attribution.block =
      layout.extents.flatMap Extent.positions := by
  have each : (attributionsOf layout).map Attribution.block =
      layout.extents.map Extent.positions := by
    refine List.ext_getElem (by simp [attributionsOf]) fun index _ inside => ?_
    rw [List.getElem_map, List.getElem_map]
    simp only [attributionsOf, List.getElem_mapIdx]
    exact block_attributionOf (upward _ (List.getElem_mem _)) index
  rw [List.flatMap_def, List.flatMap_def, each]

theorem flatMap_detailPositions (layout : Layout) :
    (attributionsOf layout).flatMap Attribution.detailPositions =
      (List.range layout.extents.length).flatMap fun test =>
        allPositions (placesOf layout.placements test) := by
  have each : (attributionsOf layout).map Attribution.detailPositions =
      (List.range layout.extents.length).map fun test =>
        allPositions (placesOf layout.placements test) := by
    refine List.ext_getElem (by simp [attributionsOf]) fun index _ inside => ?_
    simp [attributionsOf, attributionOf, Attribution.detailPositions]
  rw [List.flatMap_def, List.flatMap_def, each]

theorem mem_allPositions_placesOf {test position : Nat} :
    position ∈ allPositions (placesOf placements test) ↔
      ∃ placement ∈ placements, placement.test = test ∧ placement.position = position := by
  rw [(keeps_placesOf placements test).conserved.mem_iff]
  simp [and_assoc]

/-- No two tests share a position in their detail reports. -/
theorem nodup_details (distinct : (placements.map Placement.position).Nodup) (count : Nat) :
    ((List.range count).flatMap fun test => allPositions (placesOf placements test)).Nodup := by
  refine List.nodup_flatMap.mpr ⟨fun test _ => ?_, List.nodup_range.imp ?_⟩
  · rw [(keeps_placesOf placements test).conserved.nodup_iff]
    exact distinct.sublist (List.filter_sublist.map _)
  · intro first second different position inFirst inSecond
    obtain ⟨placement, member, isFirst, here⟩ := mem_allPositions_placesOf.mp inFirst
    obtain ⟨other, isOther, isSecond, same⟩ := mem_allPositions_placesOf.mp inSecond
    have one := List.inj_on_of_nodup_map distinct member isOther (here.trans same.symm)
    exact different (isFirst.symm.trans (one ▸ isSecond))

theorem pairwise_sections (ascending : (placements.map Placement.position).Pairwise (· < ·))
    (test : Nat) (extent : Extent) :
    ∀ part ∈ (attributionOf placements test extent).sections, part.Pairwise (· < ·) := by
  intro part member
  rcases List.mem_cons.mp member with isMessages | isLater
  · rw [isMessages]
    exact List.pairwise_lt_range'
  · rcases List.mem_append.mp isLater with isTeardown | isDetail
    · have isTeardown := Option.mem_toList.mp isTeardown
      obtain ⟨count, _, isPart⟩ := Option.map_eq_some_iff.mp isTeardown
      rw [← isPart]
      exact List.pairwise_lt_range'
    · obtain ⟨entry, isEntry, isPart⟩ := List.mem_flatMap.mp isDetail
      obtain ⟨place, isPlace, rfl⟩ := List.mem_map.mp isPart
      have kept := (keeps_placesOf placements test).ordered entry isEntry place isPlace
      exact ascending.sublist (kept.trans (List.filter_sublist.map _))

end Layout

theorem attributes_ofLines (runnerPod : String) (lines : List Line) :
    Attributes lines (sessionStart (transcriptOf runnerPod lines))
      (attributionsOf (Layout.ofTranscript (transcriptOf runnerPod lines)))
      (ofLines runnerPod lines).tests := by
  have sameLength : (transcriptOf runnerPod lines).length = lines.length := List.length_map _
  have sublist := Layout.positions_sublist (transcriptOf runnerPod lines)
  have upward := Layout.start_le_stop (transcriptOf runnerPod lines)
  rw [sameLength] at sublist
  show Attributes _ _ _ (recordsOf lines (Layout.ofTranscript (transcriptOf runnerPod lines)))
  generalize Layout.ofTranscript (transcriptOf runnerPod lines) = layout at *
  generalize sessionStart (transcriptOf runnerPod lines) = start at *
  -- Everything about positions follows from the one list that they are taken from.
  have ascending := List.Pairwise.sublist sublist List.pairwise_lt_range'
  obtain ⟨blocksAscend, placementsAscend, blocksFirst⟩ := List.pairwise_append.mp ascending
  have within (position : Nat) (member : position ∈ layout.extents.flatMap Extent.positions ++
      layout.placements.map Placement.position) : start ≤ position ∧ position < lines.length := by
    have inRange := List.mem_range'_1.mp (sublist.subset member)
    omega
  have placed (position : Nat)
      (member : position ∈ (attributionsOf layout).flatMap Attribution.detailPositions) :
      position ∈ layout.placements.map Placement.position := by
    rw [flatMap_detailPositions] at member
    obtain ⟨test, _, inTest⟩ := List.mem_flatMap.mp member
    obtain ⟨placement, isPlacement, _, here⟩ := mem_allPositions_placesOf.mp inTest
    exact List.mem_map.mpr ⟨placement, isPlacement, here⟩
  have split : ((attributionsOf layout).flatMap Attribution.positions).Perm
      ((attributionsOf layout).flatMap Attribution.block ++
        (attributionsOf layout).flatMap Attribution.detailPositions) := by
    rw [funext Attribution.positions_eq]
    exact (List.flatMap_append_perm _ _ _).symm
  rw [← flatMap_block upward] at blocksAscend blocksFirst within
  refine ⟨?_, fun position member => ?_, ?_, fun attribution member => ?_,
    fun attribution member => ?_, blocksAscend,
    fun position member later isLater => blocksFirst position member later (placed later isLater)⟩
  · refine explains_attributionsOf layout fun placement member => ?_
    exact (within _ (List.mem_append_right _ (List.mem_map_of_mem member))).2
  · rcases List.mem_append.mp (split.mem_iff.mp member) with inBlock | inDetails
    · exact within position (List.mem_append_left _ inBlock)
    · exact within position (List.mem_append_right _ (placed position inDetails))
  · rw [split.nodup_iff, List.nodup_append]
    refine ⟨blocksAscend.imp Nat.ne_of_lt, ?_, fun position inBlock later inDetails => ?_⟩
    · rw [flatMap_detailPositions]
      exact nodup_details (placementsAscend.imp Nat.ne_of_lt) _
    · exact Nat.ne_of_lt (blocksFirst position inBlock later (placed later inDetails))
  · obtain ⟨test, inside, rfl⟩ := List.mem_mapIdx.mp member
    exact pairwise_sections placementsAscend test _
  · obtain ⟨test, inside, rfl⟩ := List.mem_mapIdx.mp member
    exact ⟨_, _, block_attributionOf (upward _ (List.getElem_mem inside)) test⟩

/-- Every line held in a section of a test stems from one position of the session, and no
position is used twice. So the lines of the session are those that the tests hold and
those that are counted as held by none. -/
theorem ofLines_without_loss (runnerPod : String) (lines : List Line) :
    let transcript := transcriptOf runnerPod lines
    let session := ofLines runnerPod lines
    Attributes lines (sessionStart transcript) (attributionsOf (Layout.ofTranscript transcript))
        session.tests ∧
      sessionStart transcript + session.sessionLines = lines.length ∧
      session.attributed + session.unattributed = session.sessionLines := by
  intro transcript session
  have attributes := attributes_ofLines runnerPod lines
  have sameLength : transcript.length = lines.length := List.length_map _
  have startLe : sessionStart transcript ≤ lines.length :=
    sameLength ▸ sessionStart_le transcript
  exact ⟨attributes, Nat.add_sub_of_le startLe, Nat.add_sub_of_le attributes.countLines_le⟩

end RunTriage.Session
