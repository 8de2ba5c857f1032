import RunTriage.Proofs.Attribution

/-!
Contract: the sections of detail reports, read off the placements of their lines.

Owns:
- `gathered`, each title at its first occurrence with all that is filed under it;
- `Files`, the places that placements make: under each key, the titles gathered from the
  placements with this key.

Does not own: which report a placement comes from, which is in `RunTriage.Proofs.ReportSections`.
-/

namespace RunTriage.Session

/-! ## Positions by title -/

/-- The positions filed under a title. -/
def positionsUnder (title : String) (filed : List (String × Nat)) : List Nat :=
  (filed.filter fun line => line.1 = title).map Prod.snd

/-- Each title once, in the order of first occurrence, with the positions filed under it. -/
def gathered (filed : List (String × Nat)) : List (String × List Nat) :=
  (filed.map Prod.fst).eraseDups.map fun title => (title, positionsUnder title filed)

section Gathered

variable {titles : List String} {title : String} {position : Nat} {held : String → List Nat}

theorem addToPlace_of_mem (distinct : titles.Nodup) (member : title ∈ titles) :
    addToPlace title position (titles.map fun name => (name, held name)) =
      titles.map fun name =>
        (name, if name = title then held name ++ [position] else held name) := by
  induction titles with
  | nil => cases member
  | cons first rest inductionHypothesis =>
    obtain ⟨isNew, restDistinct⟩ := List.nodup_cons.mp distinct
    rw [List.map_cons, List.map_cons, addToPlace]
    by_cases isFirst : first = title
    · subst isFirst
      rw [if_pos rfl, if_pos rfl]
      refine congrArg (List.cons _) (List.map_congr_left fun name isName => ?_)
      have different : name ≠ first := fun same => isNew (same ▸ isName)
      rw [if_neg different]
    · rw [if_neg isFirst, if_neg isFirst]
      have inRest : title ∈ rest := List.mem_of_ne_of_mem (Ne.symm isFirst) member
      exact congrArg (List.cons _) (inductionHypothesis restDistinct inRest)

theorem addToPlace_of_not_mem (isNew : title ∉ titles) :
    addToPlace title position (titles.map fun name => (name, held name)) =
      titles.map (fun name => (name, held name)) ++ [(title, [position])] := by
  induction titles with
  | nil => rfl
  | cons first rest inductionHypothesis =>
    have notFirst : first ≠ title := fun same => isNew (same ▸ List.mem_cons_self)
    have notInRest : title ∉ rest := fun member => isNew (List.mem_cons_of_mem first member)
    rw [List.map_cons, addToPlace, if_neg notFirst, inductionHypothesis notInRest]
    rfl

theorem positionsUnder_concat (name : String) (filed : List (String × Nat)) :
    positionsUnder name (filed ++ [(title, position)]) =
      if name = title then positionsUnder name filed ++ [position]
      else positionsUnder name filed := by
  rw [positionsUnder, List.filter_append, List.map_append]
  by_cases same : name = title
  · simp [positionsUnder, same]
  · simp [positionsUnder, same, Ne.symm same]

/-- What is gathered grows with each line that is filed: by a position if its title is known, and
by a title with this position otherwise. -/
theorem gathered_concat (filed : List (String × Nat)) (title : String) (position : Nat) :
    gathered (filed ++ [(title, position)]) = addToPlace title position (gathered filed) := by
  have distinct : (filed.map Prod.fst).eraseDups.Nodup := nodup_eraseDups _
  rw [gathered, List.map_append, List.eraseDups_append, List.map_append, gathered]
  simp only [positionsUnder_concat]
  by_cases known : title ∈ filed.map Prod.fst
  · rw [addToPlace_of_mem distinct (List.mem_eraseDups.mpr known)]
    simp [List.removeAll, known]
  · have isNew : title ∉ (filed.map Prod.fst).eraseDups := fun member =>
      known (List.mem_eraseDups.mp member)
    have nothing : positionsUnder title filed = [] := by
      rw [positionsUnder, List.map_eq_nil_iff, List.filter_eq_nil_iff]
      intro line isLine named
      exact known (List.mem_map.mpr ⟨line, isLine, of_decide_eq_true named⟩)
    rw [addToPlace_of_not_mem isNew]
    refine congrArg₂ _ (List.map_congr_left fun name isName => ?_) ?_
    · have different : name ≠ title := fun same => isNew (same ▸ isName)
      rw [if_neg different]
    · simp [List.removeAll, known, nothing, List.eraseDups_cons]

end Gathered

/-! ## Places by key -/

/-- The title and the position of each placement under a key. -/
def filedUnder (key : String) (placements : List Placement) : List (String × Nat) :=
  (placements.filter fun placement => placement.key = key).map fun placement =>
    (placement.title, placement.position)

/-- Under each key the places hold what the placements with this key gather; without such a
placement there is no such key. -/
def Files (places : Places) (placements : List Placement) : Prop :=
  ∀ key, places.find? key =
    if filedUnder key placements = [] then none else some (gathered (filedUnder key placements))

section Files

variable {places : Places} {placements : List Placement}

theorem filedUnder_concat (key : String) (placements : List Placement) (placement : Placement) :
    filedUnder key (placements ++ [placement]) =
      if placement.key = key then
        filedUnder key placements ++ [(placement.title, placement.position)]
      else filedUnder key placements := by
  rw [filedUnder, List.filter_append, List.map_append]
  by_cases same : placement.key = key
  · simp [filedUnder, same]
  · simp [filedUnder, same]

theorem Files.addPosition (files : Files places placements) (placement : Placement) :
    Files (addPosition places placement) (placements ++ [placement]) := by
  intro key
  rw [Session.addPosition, SortedTable.find?_alter, filedUnder_concat, files]
  by_cases same : placement.key = key
  · subst same
    rw [if_pos rfl, if_pos rfl, if_neg (List.append_ne_nil_of_right_ne_nil _ (by simp)),
      gathered_concat]
    by_cases nothing : filedUnder placement.key placements = []
    · simp [nothing, gathered]
    · simp [nothing]
  · rw [if_neg same, if_neg same, files]

theorem files_foldl (placements : List Placement) :
    Files (placements.foldl addPosition []) placements := by
  induction placements using List.reverseRecOn with
  | nil => exact fun _ => rfl
  | append_singleton placements placement inductionHypothesis =>
    rw [List.foldl_concat]
    exact inductionHypothesis.addPosition placement

theorem files_placesOf (placements : List Placement) (test : Nat) :
    Files (placesOf placements test)
      (placements.filter fun placement => placement.test = test) :=
  files_foldl _

end Files

end RunTriage.Session
