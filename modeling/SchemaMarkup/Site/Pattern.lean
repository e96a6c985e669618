import SchemaMarkup.Site.Disk
import SchemaMarkup.Site.Wildcard

set_option autoImplicit false

/-!
# Patterns of files

A pattern describes files below a directory by the components of the paths that lead to them. A
component is a name, a wildcard for names, or two asterisks, which stand for the directory reached
and all directories below it.

## Main definitions

* `SchemaMarkup.Pattern` — a pattern.
* `SchemaMarkup.Pattern.ofText` — read a pattern.
* `SchemaMarkup.Pattern.files` — the files that a pattern describes, in order.

## Main results

* `SchemaMarkup.Pattern.isFile_of_mem_files` — only files are described.
* `SchemaMarkup.Pattern.exists_files_eq_map` — only what stands below the directory is.
-/

namespace SchemaMarkup

/-- A component of a pattern. -/
inductive Pattern.Step where
  | name (s : String)
  | wild (w : Wildcard)
  | below
  deriving DecidableEq, Repr

/-- A pattern: its components, and whether a slash at its end restricts it to directories. -/
structure Pattern where
  steps : List Pattern.Step
  directories : Bool
  deriving DecidableEq, Repr

namespace Pattern

/-- The ways in which a text is no pattern. -/
inductive Fault where
  /-- There is no text, or an empty one; it is kept as it is shown. -/
  | blank (shown : String)
  /-- The text begins at the root. -/
  | absolute
  /-- Two asterisks stand beside something else. -/
  | beside
  /-- The text has no component. -/
  | noStep
  /-- The text has no component in front of its slash. -/
  | onlySlash
  deriving DecidableEq, Repr

/-- A fault in words; the last has none. -/
def Fault.message : Fault → String
  | blank shown => s!"Unacceptable pattern: {shown}"
  | absolute => "Non-relative patterns are unsupported"
  | beside => "Invalid pattern: '**' can only be an entire path component"
  | noStep => "tuple index out of range"
  | onlySlash => ""

/-- Two asterisks stand side by side. -/
def hasDouble : List Char → Bool
  | '*' :: '*' :: _ => true
  | _ :: s => hasDouble s
  | [] => false

/-- Read a component. -/
def stepOf (s : String) : Except Fault Step :=
  if s = "**" then .ok .below
  else if hasDouble s.toList then .error .beside
  else if Wildcard.isIn s then .ok (.wild (.ofText s))
  else .ok (.name s)

/-- Read a pattern. -/
def ofText (s : String) : Except Fault Pattern :=
  if s = "" then .error (.blank "''")
  else if Path.startOf s.toList ≠ .here then .error .absolute
  else
    let directories := s.toList.getLast? == some '/'
    match (Path.partsOf s.toList).mapM stepOf with
    | .error f => .error f
    | .ok [] => .error (if directories then .onlySlash else .noStep)
    | .ok steps => .ok ⟨steps, directories⟩

/-- A directory and all directories below it, of at most the given number of levels. -/
def directoriesBelow (d : Disk) : Nat → Path → List Path
  | 0, p => [p]
  | n + 1, p =>
    let inner := (d.names p).map fun s => p.join [s]
    p :: (inner.filter d.isDirectory).flatMap (directoriesBelow d n)

/-- How many levels of directories there can be on a disk. -/
def levels (d : Disk) : Nat := d.items.length

/-- What the components of a pattern describe below a directory. All but the last, and the last
too with `directories`, describe directories only. -/
def select (d : Disk) (directories : Bool) : List Step → Path → List Path
  | [], p => [p]
  | step :: steps, p =>
    let passes (q : Path) : Bool :=
      if steps.isEmpty && !directories then (d.find? q).isSome else d.isDirectory q
    match step with
    | .name s => if passes (p.join [s]) then select d directories steps (p.join [s]) else []
    | .wild w =>
      let named := (d.names p).filter fun s => w.fits s.toList
      ((named.map fun s => p.join [s]).filter passes).flatMap (select d directories steps)
    | .below =>
      ((directoriesBelow d (levels d) p).flatMap (select d directories steps)).eraseDups

/-- The files that a pattern describes below a directory, in the order of their paths. -/
def files (d : Disk) (p : Pattern) (base : Path) : List Path :=
  let found := if d.isDirectory base then select d p.directories p.steps base else []
  (found.filter d.isFile).mergeSort Path.precedes

/-- Only files are described. -/
theorem isFile_of_mem_files {d : Disk} {p : Pattern} {base q : Path} (h : q ∈ files d p base) :
    d.isFile q = true := by
  simp only [files, List.mem_mergeSort, List.mem_filter] at h
  exact h.2

theorem exists_join_of_mem_directoriesBelow {d : Disk} {n : Nat} {p q : Path}
    (h : q ∈ directoriesBelow d n p) : ∃ parts, q = p.join parts := by
  induction n generalizing p with
  | zero => exact ⟨[], by simpa [directoriesBelow] using h⟩
  | succ n ih =>
    rcases List.mem_cons.1 h with rfl | h
    · exact ⟨[], (Path.join_nil q).symm⟩
    · obtain ⟨inner, hinner, hq⟩ := List.mem_flatMap.1 h
      obtain ⟨s, -, rfl⟩ := List.mem_map.1 (List.mem_filter.1 hinner).1
      obtain ⟨parts, rfl⟩ := ih hq
      exact ⟨_, Path.join_join p [s] parts⟩

theorem exists_join_of_mem_select {d : Disk} {directories : Bool} {steps : List Step} {p q : Path}
    (h : q ∈ select d directories steps p) : ∃ parts, q = p.join parts := by
  induction steps generalizing p with
  | nil => exact ⟨[], by simpa [select] using h⟩
  | cons step steps ih =>
    -- each component leads on from the path, to where the others describe the file
    have hfurther : ∀ parts, q ∈ select d directories steps (p.join parts) →
        ∃ parts, q = p.join parts := by
      intro parts hq
      obtain ⟨parts', rfl⟩ := ih hq
      exact ⟨_, Path.join_join p parts parts'⟩
    cases step with
    | name s =>
      rw [select] at h
      exact hfurther _ (List.mem_ite_nil_right.1 h).2
    | wild w =>
      obtain ⟨inner, hinner, hq⟩ := List.mem_flatMap.1 h
      obtain ⟨s, -, rfl⟩ := List.mem_map.1 (List.mem_filter.1 hinner).1
      exact hfurther _ hq
    | below =>
      simp only [select, List.mem_eraseDups, List.mem_flatMap] at h
      obtain ⟨inner, hinner, hq⟩ := h
      obtain ⟨parts, rfl⟩ := exists_join_of_mem_directoriesBelow hinner
      exact hfurther _ hq

theorem exists_join_of_mem_files {d : Disk} {p : Pattern} {base q : Path}
    (h : q ∈ files d p base) : ∃ parts, q = base.join parts := by
  simp only [files, List.mem_mergeSort, List.mem_filter] at h
  obtain ⟨hfound, -⟩ := h
  split at hfound
  · exact exists_join_of_mem_select hfound
  · simp at hfound

/-- **Only what stands below the directory is described.** -/
theorem exists_files_eq_map (d : Disk) (p : Pattern) (base : Path) :
    ∃ names : List (List String), files d p base = names.map base.join := by
  refine ⟨(files d p base).map fun q => q.parts.drop base.parts.length, ?_⟩
  rw [List.map_map, List.map_congr_left (g := id), List.map_id]
  intro q hq
  obtain ⟨parts, rfl⟩ := exists_join_of_mem_files hq
  simp [Path.join]

end Pattern

end SchemaMarkup
