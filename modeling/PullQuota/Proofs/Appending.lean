import PullQuota.Summary

/-!
Which files can be appended to, and what is in the tree afterwards.
-/

namespace PullQuota

namespace Files

variable {files after : Files} {path : String} {place : FilePath} {added : List UInt8}

/-- A path names the file at a place, or one that can be made there: it ends neither in a slash nor
at a directory. -/
def Names (files : Files) (path : String) (place : FilePath) : Prop :=
  files.locate path = .ok place ∧ path.toList.getLast? ≠ some '/' ∧
    files.node? place ≠ some .directory

theorem Names.unique {place' : FilePath} (h : files.Names path place)
    (h' : files.Names path place') : place = place' :=
  Except.ok.inj (h.1.symm.trans h'.1)

/-- The bytes of the file at a place; where there is no file, there are none. -/
def bytesAt (files : Files) (place : FilePath) : List UInt8 :=
  match files.node? place with
  | some (.file content) => content
  | _ => []

theorem withoutSlashes_eq_self (plain : path.toList.getLast? ≠ some '/') :
    withoutSlashes path = path := by
  have kept : path.toList.reverse.dropWhile (· == '/') = path.toList.reverse := by
    cases backwards : path.toList.reverse with
    | nil => rfl
    | cons last rest =>
      have final : path.toList.getLast? = some last := by
        rw [← List.head?_reverse, backwards, List.head?_cons]
      have other : last ≠ '/' := fun slash => plain (slash ▸ final)
      exact List.dropWhile_cons_of_neg (by simpa using other)
  rw [withoutSlashes, kept, List.reverse_reverse, String.ofList_toList]

/-- What is appended goes to the file that the path names, which is made if it is not there. -/
theorem append_eq_ok_iff : files.append path added = .ok after ↔
    ∃ place, files.Names path place ∧
      files.set place (.file (files.bytesAt place ++ added)) = after := by
  by_cases slash : path.toList.getLast? = some '/'
  · have refused : files.append path added ≠ .ok after := by
      unfold append
      cases files.locate (withoutSlashes path) <;> simp [slash]
    exact iff_of_false refused fun ⟨place, names, _⟩ => names.2.1 slash
  · unfold append
    rw [withoutSlashes_eq_self slash]
    simp only [Names, bytesAt, if_neg slash]
    cases files.locate path with
    | error error => simp
    | ok place =>
      simp only [Except.ok.injEq, ne_eq, slash, not_false_eq_true, true_and, and_assoc,
        exists_eq_left']
      cases files.node? place with
      | none => simp
      | some node => cases node <;> simp

theorem find?_set (place : FilePath) (node : FileNode) (other : FilePath) :
    (files.set place node).nodes.find? (·.1 == other) =
      if other = place then some (place, node) else files.nodes.find? (·.1 == other) := by
  unfold set
  split
  next known =>
    have sought : ((·.1 == other) ∘ fun old : FilePath × FileNode =>
        if old.1 == place then (place, node) else old) = (·.1 == other) := by
      funext old
      by_cases same : old.1 = place <;> simp [same]
    rw [List.find?_map, sought]
    split
    next same =>
      obtain ⟨old, found⟩ := Option.isSome_iff_exists.mp
        (List.find?_isSome.mpr (List.any_eq_true.mp known))
      have there := List.find?_some found
      rw [same, found, Option.map_some, if_pos there]
    next different =>
      cases found : files.nodes.find? (·.1 == other) with
      | none => rfl
      | some old =>
        have there : old.1 = other := by simpa using List.find?_some found
        simp [there, different]
  next unknown =>
    rw [List.find?_append]
    split
    next same =>
      have absent : files.nodes.find? (·.1 == place) = none :=
        List.find?_eq_none.mpr fun old mem there =>
          unknown (List.any_eq_true.mpr ⟨old, mem, there⟩)
      simp [same, absent]
    next different => simp [Ne.symm different]

/-- Where there is no directory, setting a node changes what is at that place, and nothing else. -/
theorem node?_set (h : files.node? place ≠ some .directory) (node : FileNode) (other : FilePath) :
    (files.set place node).node? other =
      if other = place then some node else files.node? other := by
  have inside : ¬ place.all (· == "..") = true := by
    intro outside
    rw [node?, if_pos outside] at h
    exact h rfl
  unfold node?
  rw [find?_set]
  by_cases outside : other.all (· == "..") = true
  · have different : other ≠ place := fun same => inside (same ▸ outside)
    simp only [if_pos outside, if_neg different]
  · simp only [if_neg outside]
    split <;> rfl

/-- A path to whose file anything can be appended. -/
def Appendable (files : Files) (path : String) : Prop :=
  ∀ content, ∃ after, files.append path content = .ok after

/-- Whether something can be appended does not depend on what it is. -/
theorem appendable_of_append (h : files.append path added = .ok after) :
    files.Appendable path := by
  obtain ⟨place, names, _⟩ := append_eq_ok_iff.mp h
  intro other
  exact ⟨_, append_eq_ok_iff.mpr ⟨place, names, rfl⟩⟩

/-- No summary is named, or it can be appended to. -/
def TakeSummary (files : Files) (file : Option String) : Prop :=
  ∀ path, file = some path → path ≠ "" → files.Appendable path

theorem takeSummary_iff {file : Option String} (markdown : String) :
    files.TakeSummary file ↔ ∃ after, writeSummary files file markdown = .ok after := by
  unfold TakeSummary writeSummary
  cases file with
  | none => simp
  | some path =>
    by_cases empty : path = ""
    · simp [empty]
    · simp only [Option.some.injEq, forall_eq', ne_eq, empty, not_false_eq_true, forall_const,
        if_false]
      constructor
      · intro appendable
        obtain ⟨after, ha⟩ := appendable (Utf8.encode (markdown ++ "\n"))
        exact ⟨after, by simp only [ha]⟩
      · rintro ⟨after, h⟩
        split at h
        next ha => exact appendable_of_append ha
        next => cases h

end Files

end PullQuota
