import Lindenmayer.Proofs.Outcomes
import Lindenmayer.Proofs.Paths
import Lindenmayer.Storage.FileTree

/-!
Files that are written. A file that is written is at the place that its path names, it is what is found there
afterwards, and all other files are as they were (`write_filed`); where writing fails all files are
(`write_unfiled`). Directories may be made either way.
-/
namespace Lindenmayer.Filing
open Outcomes Paths FileTree

section
variable {α : Type}

/-! ### Making directories -/

/-- A tree with more directories than another at most. -/
structure Extends (t made : FileTree α) : Prop where
  here : made.here = t.here
  files : made.files = t.files
  directories : ∀ place, t.hasDirectory place = true → made.hasDirectory place = true

theorem Extends.refl (t : FileTree α) : Extends t t := ⟨rfl, rfl, fun _ there => there⟩

theorem Extends.trans {t u v : FileTree α} (first : Extends t u) (second : Extends u v) : Extends t v :=
  ⟨second.here.trans first.here, second.files.trans first.files,
    fun place there => second.directories place (first.directories place there)⟩

theorem makeDirectory_extends {t made : FileTree α} {place : List Text} (done : t.makeDirectory place = .ok made) :
    Extends t made ∧ made.hasDirectory place = true := by
  rw [makeDirectory] at done
  by_cases there : t.hasDirectory place = true
  · rw [if_pos there] at done
    cases done
    exact ⟨.refl _, there⟩
  · rw [if_neg there] at done
    obtain ⟨_, _, done⟩ := bind_ok.mp done
    split at done
    · cases done
    split at done
    · cases done
    split at done
    · cases done
    cases done
    refine ⟨⟨rfl, rfl, fun other found => ?_⟩, ?_⟩
    · rw [hasDirectory, List.contains_iff_mem] at found ⊢
      exact List.mem_append_left _ found
    · rw [hasDirectory, List.contains_iff_mem]
      exact List.mem_append_right _ List.mem_cons_self

theorem makeAll_extends {t made : FileTree α} {places : List (List Text)} (done : t.makeAll places = .ok made) :
    Extends t made ∧ ∀ place ∈ places, made.hasDirectory place = true := by
  induction places generalizing t with
  | nil =>
    cases done
    exact ⟨.refl _, by simp⟩
  | cons place rest ih =>
    rw [makeAll] at done
    split at done
    · rename_i next first
      obtain ⟨extended, there⟩ := makeDirectory_extends first
      obtain ⟨further, others⟩ := ih done
      exact ⟨extended.trans further, List.forall_mem_cons.mpr ⟨further.directories _ there, others⟩⟩
    · cases done

theorem makeAll_fails {t left : FileTree α} {places : List (List Text)} {failure : Failure}
    (failed : t.makeAll places = .error (failure, left)) : Extends t left := by
  induction places generalizing t with
  | nil => cases failed
  | cons place rest ih =>
    rw [makeAll] at failed
    split at failed
    · rename_i next first
      exact (makeDirectory_extends first).1.trans (ih failed)
    · cases failed
      exact .refl _

theorem makeDirectories_extends {t made : FileTree α} {place : List Text} (done : t.makeDirectories place = .ok made) :
    Extends t made ∧ made.hasDirectory place = true := by
  obtain ⟨extended, there⟩ := makeAll_extends done
  refine ⟨extended, there place (List.mem_map.mpr ⟨place.length, by simp, List.take_length⟩)⟩

/-! ### Following a path -/

theorem follow_cons (t : FileTree α) (place : List Text) (part : Text) (rest : List Text) :
    t.follow place (part :: rest) =
      if longestName < Text.pathLength part then .error .pathTooLong
      else if rest.isEmpty then .ok (enter place part)
      else if t.hasDirectory (enter place part) then t.follow (enter place part) rest
      else if (t.fileAt? (enter place part)).isSome then .error .notDirectory
      else .error .noSuchFile := rfl

/-- A path leads by its parts, whatever there is on the way. -/
theorem follow_ok {t : FileTree α} {place reached : List Text} {parts : List Text} (led : t.follow place parts = .ok reached) :
    reached = parts.foldl enter place := by
  induction parts generalizing place with
  | nil =>
    cases led
    rfl
  | cons part rest ih =>
    rw [follow_cons] at led
    split at led
    · cases led
    split at led
    · rename_i last
      cases led
      rw [List.isEmpty_iff.mp last]
      rfl
    split at led
    · exact ih led
    split at led
    · cases led
    · cases led

/-- A path that leads through a tree leads to the same place through one that differs in its files. -/
theorem follow_put {t : FileTree α} {place reached filed : List Text} {parts : List Text} {content : α}
    (led : t.follow place parts = .ok reached) : (t.put filed content).follow place parts = .ok reached := by
  induction parts generalizing place with
  | nil => exact led
  | cons part rest ih =>
    rw [follow_cons] at led ⊢
    split at led
    · cases led
    rename_i short
    rw [if_neg short]
    split at led
    · rename_i last
      rw [if_pos last]
      exact led
    rename_i more
    rw [if_neg more]
    split at led
    · rename_i there
      have still : (t.put filed content).hasDirectory (enter place part) = true := there
      rw [if_pos still]
      exact ih led
    split at led
    · cases led
    · cases led

theorem resolve_ok {t : FileTree α} {path : Text} {place : List Text} (resolved : t.resolve path = .ok place) :
    checkPath path = .ok () ∧ t.follow (origin t.here path) (Path.parts (Path.withoutEnd path)) = .ok place := by
  obtain ⟨⟨⟩, checked, led⟩ := bind_ok.mp resolved
  exact ⟨checked, led⟩

/-! ### Files at places -/

theorem fileAt_put (t : FileTree α) (place other : List Text) (content : α) :
    (t.put place content).fileAt? other = if kept other = kept place then some content else t.fileAt? other := by
  rw [fileAt?, put, List.find?_append]
  by_cases same : kept other = kept place
  · have removed : (t.files.filter (·.1 != kept place)).find? (·.1 == kept other) = none := by
      simp [List.find?_eq_none, same]
    rw [removed, if_pos same]
    simp [same]
  · have added : [(kept place, content)].find? (·.1 == kept other) = none := by
      simpa [List.find?_eq_none] using fun equal => same equal.symm
    rw [added, if_neg same, Option.or_none, List.find?_filter, fileAt?]
    congr 2
    funext entry
    by_cases here : entry.1 = kept other
    · simp [here, same]
    · simp [here]

/-! ### Writing -/

/-- What writing a file comes to: its directory is there, and the path leads to the file and no other is changed. -/
structure Filed (t : FileTree α) (path : Text) (place : List Text) (content : α) (written : FileTree α) : Prop where
  here : written.here = t.here
  directory : written.hasDirectory (Path.normalize t.here path).dropLast = true
  files : ∀ other, written.fileAt? other = if kept other = kept place then some content else t.fileAt? other
  found : written.find path = .file content

theorem write_filed {t written : FileTree α} {path : Text} {content : α} (bare : Path.withoutEnd path = path)
    (done : t.write path content = .ok written) : Filed t path (Path.normalize t.here path) content written := by
  obtain ⟨made, above, done⟩ := bind_ok.mp done
  obtain ⟨extended, there⟩ := makeDirectories_extends above
  cases wrote : made.writeAt path content with
  | error failure =>
    simp only [wrote] at done
    cases done
  | ok after =>
    simp only [wrote] at done
    cases done
    obtain ⟨place, resolved, wrote⟩ := bind_ok.mp wrote
    split at wrote
    · cases wrote
    cases wrote
    obtain ⟨checked, led⟩ := resolve_ok resolved
    have same : place = Path.normalize t.here path := by
      rw [follow_ok led, bare, extended.here, normalize_enter]
    have untouched (other : List Text) : made.fileAt? other = t.fileAt? other := by rw [fileAt?, fileAt?, extended.files]
    have files (other : List Text) :
        (made.put place content).fileAt? other = if kept other = kept place then some content else t.fileAt? other := by
      rw [fileAt_put, untouched]
    refine same ▸ ⟨extended.here, same ▸ there, files, ?_⟩
    have again : (made.put place content).resolve path = .ok place := bind_ok.mpr ⟨(), checked, follow_put led⟩
    rw [find, again]
    simp only [files, ↓reduceIte]

theorem write_unfiled {t left : FileTree α} {path : Text} {content : α} {failure : Failure}
    (failed : t.write path content = .error (failure, left)) : left.here = t.here ∧ left.files = t.files := by
  rcases bind_error.mp failed with failed | ⟨made, above, failed⟩
  · have extended := makeAll_fails failed
    exact ⟨extended.here, extended.files⟩
  · have extended := (makeDirectories_extends above).1
    split at failed
    · cases failed
      exact ⟨extended.here, extended.files⟩
    · cases failed

end

end Lindenmayer.Filing
