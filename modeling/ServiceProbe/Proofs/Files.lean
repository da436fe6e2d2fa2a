import ServiceProbe.Files
/-!
Files that are found where they are put. A path leads from directory to directory, from the root or from the
current one, and a file at its end is read if no directory on the way stands where the file does.
-/
namespace ServiceProbe.Files

theorem destination_snoc (front : List Text) (part : Text) :
    destination (front ++ [part]) =
      if isUp part then parent (destination front) else destination front ++ [part] := by
  rw [destination, List.foldl_append]
  rfl

/-- A path that leads to a file can be walked: no name is too long, and the file is at its end only. -/
structure Leads (path : Path) : Prop where
  short : (Utf8.encode path.text).length ≤ longestPath
  names : ∀ part ∈ path.parts, (Utf8.encode part).length ≤ longestName
  named : (destination path.parts).all isUp = false
  last : ∀ count < path.parts.length, destination (path.parts.take count) ≠ destination path.parts

section Walk

variable {path : Path} (leads : Leads path) (content : Bytes)

include leads

theorem node_on_way {count : Nat} (on : count < path.parts.length) :
    (holding path content ++ surroundings).node? (destination (path.parts.take count)) =
      some .directory := by
  -- Some directory that is given stands where the walk is; it need not be the one at this count.
  have passed : (List.range path.parts.length).find? (fun other =>
      destination (path.parts.take other) == destination (path.parts.take count)) ≠ none := by
    intro missed
    have missed := List.find?_eq_none.mp missed count (List.mem_range.mpr on)
    simp at missed
  obtain ⟨other, found⟩ := Option.ne_none_iff_exists'.mp passed
  have elsewhere : (destination path.parts == destination (path.parts.take count)) = false :=
    beq_eq_false_iff_ne.mpr (leads.last count on).symm
  rw [node?]
  split
  · rfl
  · rw [holding, List.cons_append, List.find?_cons_of_neg (by simp [elsewhere]), List.find?_append,
      List.find?_map]
    simp only [Function.comp_def, found]
    rfl

theorem node_at_end :
    (holding path content ++ surroundings).node? (destination path.parts) = some (.file content) := by
  rw [node?, if_neg (by simp [leads.named]), holding, List.cons_append,
    List.find?_cons_of_pos (by simp)]

/-- Each part leads on to where it should. -/
theorem enter_next {count : Nat} (on : count < path.parts.length) :
    enter (holding path content ++ surroundings) (destination (path.parts.take count))
        path.parts[count] = .ok (destination (path.parts.take (count + 1))) := by
  have next : path.parts.take (count + 1) = path.parts.take count ++ [path.parts[count]] :=
    List.take_succ_eq_append_getElem on
  have here : requireDirectory (holding path content ++ surroundings)
      (destination (path.parts.take count)) = .ok () := by
    rw [requireDirectory, node_on_way leads content on]
  rw [enter, here, next, destination_snoc]
  by_cases up : isUp path.parts[count]
  · rw [if_pos up]
    simp only [if_pos up]
    rfl
  · have reached := next ▸ destination_snoc (path.parts.take count) path.parts[count]
    rw [if_neg up] at reached
    -- The next place is on the way, or the end of it.
    have stands : ((holding path content ++ surroundings).node?
        (destination (path.parts.take count) ++ [path.parts[count]])).isNone = false := by
      rw [← reached]
      rcases Nat.lt_or_ge (count + 1) path.parts.length with more | all
      · rw [node_on_way leads content more]
        rfl
      · rw [List.take_of_length_le all, node_at_end leads content]
        rfl
    have size := leads.names path.parts[count] (List.getElem_mem on)
    rw [if_neg up]
    simp only [if_neg up, if_neg (Nat.not_lt.mpr size), stands]
    rfl

theorem walk {count : Nat} (within : count ≤ path.parts.length) :
    (path.parts.take count).foldlM (enter (holding path content ++ surroundings)) [] =
      .ok (destination (path.parts.take count)) := by
  -- Part by part; so far the walk has come to where the parts lead.
  induction count with
  | zero => rfl
  | succ count ih =>
    have before := ih (Nat.le_of_succ_le within)
    have step := enter_next leads content (Nat.lt_of_succ_le within)
    have next : path.parts.take (count + 1) = path.parts.take count ++ [path.parts[count]] :=
      List.take_succ_eq_append_getElem (Nat.lt_of_succ_le within)
    rw [next] at step ⊢
    rw [List.foldlM_append, before]
    simp only [List.foldlM_cons, List.foldlM_nil, bind_pure]
    exact step

/-- What is put at the end of a path is read there. -/
theorem read_holding : (holding path content).read path = .ok content := by
  have reached := walk leads content (Nat.le_refl _)
  rw [List.take_length] at reached
  simp only [read, if_neg (Nat.not_lt.mpr leads.short), reached, bind, Except.bind,
    contentAt, node_at_end leads content]

end Walk

end ServiceProbe.Files
