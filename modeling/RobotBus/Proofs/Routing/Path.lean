import RobotBus.Path

/-!
# Paths taken apart

`Path.split` undoes `Path.through` for a name without slashes (`split_through`), and the other way
round for every path (`through_split`). `along` leads through several links. What a path ends with
stays the same when links are put in front of it.
-/

namespace RobotBus.Path

/-- The path that leads through links one after the other, and then along `rest`. -/
def along (names : List String) (rest : Option String) : Option String :=
  names.foldr (fun name path => some (through name path)) rest

/-- The path that leads through links one after the other, and then along `path`. -/
def via (names : List String) (path : String) : String :=
  names.foldr (fun name path => through name (some path)) path

/-- What follows the last slash of a path, or the whole path if there is none. -/
def lastSegment (path : String) : String :=
  String.ofList (path.toList.reverse.takeWhile (· ≠ '/')).reverse

/-- The last segment, if there is one, is not the target of messages to everyone. -/
def EndsAtOne (path : Option String) : Prop :=
  ∀ p ∈ path, lastSegment p ≠ everyone

theorem along_cons (name : String) (names : List String) (rest : Option String) :
    along (name :: names) rest = some (through name (along names rest)) := rfl

theorem along_append (names names' : List String) (rest : Option String) :
    along (names ++ names') rest = along names (along names' rest) :=
  List.foldr_append

theorem along_some (names : List String) (path : String) :
    along names (some path) = some (via names path) := by
  induction names with
  | nil => rfl
  | cons name names ih => rw [along_cons, ih, via, via, List.foldr_cons]

/-! ## Names -/

theorem isLinkName_iff {name : String} :
    isLinkName name = true ↔ name.toList ≠ [] ∧ '/' ∉ name.toList ∧ name ≠ everyone := by
  simp [isLinkName, and_assoc]

theorem toList_through (name : String) (rest : Option String) :
    (through name rest).toList = name.toList ++ (rest.elim [] fun path => '/' :: path.toList) := by
  cases rest with
  | none => rw [through, Option.elim_none, List.append_nil]
  | some path =>
    rw [through, String.toList_append, String.toList_append, List.append_assoc]
    rfl

theorem isPart_of_notMem {chars : List Char} (h : '/' ∉ chars) :
    ∀ c ∈ chars, decide (c ≠ '/') = true := by
  intro c hc
  have hNe : c ≠ '/' := fun hSlash => h (hSlash ▸ hc)
  simpa using hNe

theorem split_eq (path : String) :
    split path = (String.ofList (path.toList.takeWhile (· ≠ '/')),
      (path.toList.dropWhile (· ≠ '/')).tail?.map String.ofList) := by
  rw [split]
  cases path.toList.dropWhile (· ≠ '/') <;> rfl

/-- The link that was put in front of a path is its first segment. -/
theorem split_through {name : String} (h : '/' ∉ name.toList) (rest : Option String) :
    split (through name rest) = (name, rest) := by
  have hAll := isPart_of_notMem h
  rw [split_eq, toList_through, List.takeWhile_append_of_pos hAll,
    List.dropWhile_append_of_pos hAll]
  cases rest with
  | none => simp
  | some path => simp

/-- A path leads through its first segment and then along the rest. -/
theorem through_split (path : String) : through (split path).1 (split path).2 = path := by
  apply String.toList_injective
  have hParts := List.takeWhile_append_dropWhile (p := fun c => decide (c ≠ '/')) (l := path.toList)
  rw [toList_through, split_eq, String.toList_ofList]
  cases hDrop : path.toList.dropWhile (fun c => decide (c ≠ '/')) with
  | nil =>
    rw [hDrop] at hParts
    simpa using hParts
  | cons c rest =>
    have hSlash : c = '/' := by
      have hHead := List.head?_dropWhile_not (fun c => decide (c ≠ '/')) path.toList
      rw [hDrop] at hHead
      simpa using hHead
    rw [hDrop, hSlash] at hParts
    simpa using hParts

/-- A path through a link is not addressed to everyone. -/
theorem through_ne_everyone {name : String} (h : isLinkName name = true) (rest : Option String) :
    through name rest ≠ everyone := by
  obtain ⟨_, hSlash, hOne⟩ := isLinkName_iff.1 h
  intro hEveryone
  have hSplit := congrArg split hEveryone
  rw [split_through hSlash] at hSplit
  exact hOne (congrArg Prod.fst hSplit)

theorem length_rest_lt {path rest : String} (h : (split path).2 = some rest) :
    rest.toList.length < path.toList.length := by
  have hPath := congrArg (fun p => p.toList.length) (through_split path)
  simp only [toList_through, h, Option.elim_some, List.length_append, List.length_cons] at hPath
  omega

/-! ## Ends -/

theorem lastSegment_through (name rest : String) :
    lastSegment (through name (some rest)) = lastSegment rest := by
  rw [lastSegment, lastSegment, toList_through, Option.elim_some, List.reverse_append,
    List.reverse_cons, List.append_assoc, List.takeWhile_append]
  split
  · rename_i hAll
    have hSelf : rest.toList.reverse.takeWhile (· ≠ '/') = rest.toList.reverse :=
      (List.takeWhile_prefix _).eq_of_length hAll
    rw [hSelf]
    simp
  · rfl

theorem EndsAtOne.ne_everyone {path : String} (h : EndsAtOne (some path)) : path ≠ everyone := by
  rintro rfl
  exact h everyone rfl rfl

theorem EndsAtOne.of_through {name : String} {rest : Option String}
    (h : EndsAtOne (some (Path.through name rest))) : EndsAtOne rest := by
  rintro path hPath
  obtain rfl := Option.mem_def.1 hPath
  rw [← lastSegment_through name]
  exact h _ rfl

theorem EndsAtOne.of_along {names : List String} {rest : Option String}
    (h : EndsAtOne (along names rest)) : EndsAtOne rest := by
  induction names with
  | nil => exact h
  | cons name names ih => exact ih h.of_through

end RobotBus.Path
