import Mathlib.Tactic.Lemma
import SchemaMarkup.Site.Disk

set_option autoImplicit false

/-!
# What a disk holds

The place of a path is told by its components alone, so that making directories and writing files
can be told place by place. A disk that receives a file has it at its place, has directories on the
way to it, and is otherwise as it was. Whatever a path led to before, it still leads to, unless the
file was written over it.

## Main definitions

* `SchemaMarkup.Place.along` — the places that components lead through.
* `SchemaMarkup.Disk.way` — the places that a path leads through.
* `SchemaMarkup.Disk.receive`, `SchemaMarkup.Disk.received` — what stands where once files have been
  received.
* `SchemaMarkup.Disk.Keeps` — the directories of a disk stay.

## Main results

* `SchemaMarkup.Disk.item?_of_makeDirectories`, `SchemaMarkup.Disk.item?_of_writeFile` — what stands
  where after directories were made and a file was written.
* `SchemaMarkup.Disk.item?_of_receive` — both, one after the other.
* `SchemaMarkup.Disk.Keeps.readFile` — a file that stays is read as before.
-/

namespace SchemaMarkup

/-- The places that components lead through, one behind each of them. -/
def Place.along (place : Place) : List String → List Place
  | [] => []
  | part :: parts => place.enter part :: Place.along (place.enter part) parts

namespace Disk

/-- The places that a path leads through, its own among them. -/
def way (d : Disk) (p : Path) : List Place := (d.origin p).along p.parts

/-- What stands at a place once a file has been received: the file at its own place, a directory on
the way to it, and elsewhere what stood there before. -/
def receive (d : Disk) (stood : Place → Option Item) (file : Path × List UInt8) (place : Place) :
    Option Item :=
  if place = d.placeOf file.1 then some (.file file.2)
  else if place ∈ d.way file.1.parent then some .directory
  else stood place

/-- What stands at a place once files have been received in order. -/
def received (d : Disk) (files : List (Path × List UInt8)) : Place → Option Item :=
  files.foldl d.receive d.item?

variable {d d' d'' : Disk} {p t : Path} {place place' : Place} {parts : List String}
  {bytes : List UInt8}

/-! ## Places -/

lemma eq_foldl_of_follow? (h : d.follow? place parts = some place') :
    place' = parts.foldl Place.enter place := by
  induction parts generalizing place with
  | nil => exact (Option.some.inj h).symm
  | cons part parts ih =>
    rw [follow?] at h
    split at h
    · exact ih h
    · simp at h

/-- A path leads to its own place if it leads anywhere. -/
lemma eq_placeOf_of_locate? (h : d.locate? p = some place) : place = d.placeOf p :=
  eq_foldl_of_follow? h

/-- A file can be read. -/
lemma exists_readFile_eq (h : d.isFile p = true) : ∃ bytes, d.readFile p = .ok bytes := by
  rw [isFile] at h
  split at h
  · rename_i bytes hfind
    exact ⟨bytes, by rw [readFile, hfind]⟩
  · simp at h

/-- Places do not depend on what stands there. -/
lemma receive_congr (h : d'.workingDirectory = d.workingDirectory) : d'.receive = d.receive := by
  have horigin : d'.origin = d.origin := by
    funext p
    rw [origin, origin, h]
  funext stood file place
  rw [receive, receive, placeOf, placeOf, way, way, horigin]

/-! ## Directories that stay -/

/-- The second disk has the directories of the first one, and its working directory. -/
structure Keeps (d d' : Disk) : Prop where
  workingDirectory : d'.workingDirectory = d.workingDirectory
  directory : ∀ place, d.item? place = some .directory → d'.item? place = some .directory

lemma Keeps.refl (d : Disk) : d.Keeps d := ⟨rfl, fun _ h => h⟩

lemma Keeps.trans (h : d.Keeps d') (h' : d'.Keeps d'') : d.Keeps d'' :=
  ⟨h'.workingDirectory.trans h.workingDirectory, fun q hq => h'.directory q (h.directory q hq)⟩

lemma Keeps.origin (h : d.Keeps d') (p : Path) : d'.origin p = d.origin p := by
  rw [Disk.origin, Disk.origin, h.workingDirectory]

lemma Keeps.placeOf (h : d.Keeps d') (p : Path) : d'.placeOf p = d.placeOf p := by
  rw [Disk.placeOf, Disk.placeOf, h.origin]

lemma Keeps.follow? (h : d.Keeps d') (hfollow : d.follow? place parts = some place') :
    d'.follow? place parts = some place' := by
  induction parts generalizing place with
  | nil => exact hfollow
  | cons part parts ih =>
    rw [Disk.follow?] at hfollow ⊢
    split at hfollow
    · rename_i hdirectory
      have hkept : d'.isDirectoryAt place = true := by
        simpa [isDirectoryAt] using h.directory place (by simpa [isDirectoryAt] using hdirectory)
      rw [if_pos hkept]
      exact ih hfollow
    · simp at hfollow

/-- **A file that stays is read as before**, whatever has been made around it. -/
theorem Keeps.readFile (h : d.Keeps d') (hread : d.readFile p = .ok bytes)
    (hstays : ∀ i, d.item? (d.placeOf p) = some i → d'.item? (d.placeOf p) = some i) :
    d'.readFile p = .ok bytes := by
  rw [Disk.readFile, Disk.find?] at hread
  cases hlocate : d.locate? p with
  | none => simp [hlocate] at hread
  | some place =>
    have hplace := eq_placeOf_of_locate? hlocate
    have hkept : d'.locate? p = some place := by
      rw [locate?, h.origin]
      exact h.follow? hlocate
    rw [hlocate, Option.bind_some] at hread
    split at hread
    · rename_i bytes' hitem
      rw [hplace] at hitem
      rw [Disk.readFile, Disk.find?, hkept, Option.bind_some, hplace, hstays _ hitem]
      exact hread
    · simp at hread
    · simp at hread

/-! ## Making and writing -/

/-- Directories that are made: what stood anywhere stays, and directories stand along the way. -/
lemma item?_of_makeFrom (h : d.makeFrom p place parts = .ok d') :
    d'.workingDirectory = d.workingDirectory ∧
      (∀ q i, d.item? q = some i → d'.item? q = some i) ∧
      ∀ q, d'.item? q = if q ∈ place.along parts then some .directory else d.item? q := by
  induction parts generalizing d place with
  | nil =>
    obtain rfl := Except.ok.inj h
    exact ⟨rfl, fun _ _ h => h, fun q => by simp [Place.along]⟩
  | cons part parts ih =>
    rw [makeFrom] at h
    split at h
    · simp at h
    · split at h
      · rename_i hnext
        obtain ⟨hworking, hstays, hitem⟩ := ih h
        refine ⟨hworking, hstays, fun q => ?_⟩
        rw [hitem, Place.along]
        by_cases hq : q = place.enter part
        · subst hq
          simp [hnext]
        · simp [hq]
      · simp at h
      · rename_i hnext
        -- the root is never missing
        have hne : place.enter part ≠ [] := by
          intro hroot
          simp [hroot, item?] at hnext
        obtain ⟨hworking, hstays, hitem⟩ := ih h
        refine ⟨hworking, fun q i hq => hstays q i ?_, fun q => ?_⟩
        · rw [item?_putAt _ _ _ _ hne, if_neg, hq]
          rintro rfl
          simp [hq] at hnext
        · rw [hitem, item?_putAt _ _ _ _ hne, Place.along]
          by_cases hq : q = place.enter part <;> simp [hq]

/-- **What stands where after directories were made.** -/
theorem item?_of_makeDirectories (h : d.makeDirectories p = .ok d') :
    d'.workingDirectory = d.workingDirectory ∧
      (∀ q i, d.item? q = some i → d'.item? q = some i) ∧
      ∀ q, d'.item? q = if q ∈ d.way p then some .directory else d.item? q := by
  rw [makeDirectories] at h
  split at h
  · simp at h
  · split at h
    · simp at h
    · exact item?_of_makeFrom h

/-- Nothing that there was goes when directories are made. -/
lemma keeps_of_makeDirectories (h : d.makeDirectories p = .ok d') : d.Keeps d' :=
  ⟨(item?_of_makeDirectories h).1, fun q => (item?_of_makeDirectories h).2.1 q _⟩

/-- **What stands where after a file was written.** -/
theorem item?_of_writeFile (h : d.writeFile p bytes = .ok d') :
    d'.workingDirectory = d.workingDirectory ∧ d.item? (d.placeOf p) ≠ some .directory ∧
      ∀ q, d'.item? q = if q = d.placeOf p then some (.file bytes) else d.item? q := by
  rw [writeFile] at h
  split at h
  · simp at h
  · rename_i place hlocate
    obtain rfl := eq_placeOf_of_locate? hlocate
    split at h
    · simp at h
    · rename_i hdirectory
      have hitem : d.item? (d.placeOf p) ≠ some .directory := by
        simpa [isDirectoryAt] using hdirectory
      split at h
      · obtain rfl := Except.ok.inj h
        have hne : d.placeOf p ≠ [] := by
          intro hroot
          simp [hroot, item?] at hitem
        exact ⟨rfl, hitem, fun q => item?_putAt _ _ _ _ hne⟩
      · simp at h

/-- **A disk receives a file**: the directories around it are made, and it is written. Directories
stay, and so does everything but what stood at the place of the file. -/
theorem item?_of_receive (hmake : d.makeDirectories t.parent = .ok d')
    (hwrite : d'.writeFile t bytes = .ok d'') :
    d.Keeps d'' ∧ (∀ q i, q ≠ d.placeOf t → d.item? q = some i → d''.item? q = some i) ∧
      d''.item? = d.receive d.item? (t, bytes) := by
  obtain ⟨hworking, hstays, hmade⟩ := item?_of_makeDirectories hmake
  obtain ⟨hworking', hdirectory, hwritten⟩ := item?_of_writeFile hwrite
  have hplace := (keeps_of_makeDirectories hmake).placeOf t
  rw [hplace] at hdirectory hwritten
  refine ⟨⟨hworking'.trans hworking, fun q hq => ?_⟩, fun q i hne hq => ?_, funext fun q => ?_⟩
  · rw [hwritten, if_neg, hstays q _ hq]
    rintro rfl
    exact hdirectory (hstays _ _ hq)
  · rw [hwritten, if_neg hne, hstays q i hq]
  · rw [hwritten, hmade, receive]

end Disk

end SchemaMarkup
