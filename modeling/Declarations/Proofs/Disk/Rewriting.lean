/-
This file says what writing several files leaves behind, where a file that cannot be
written is passed over. No file that is written decides whether another one can be, so
the places that hold files afterwards do not depend on the order, and neither does what
becomes of one more file.
-/

import Declarations.Proofs.Disk.Writing

namespace Declarations.Disk

variable {disk first second : Disk} {path : Path} {place : Place}

/-! ### Where files can be written -/

/-- Whether a file stands at a place. -/
def HoldsFile (disk : Disk) (place : Place) : Prop :=
  ∃ content, disk.entry? place = some (.file content)

/-- Whether a path leads to a place where a file can be written. -/
structure Admits (disk : Disk) (path : Path) (place : Place) : Prop where
  located : disk.locate path = .ok place
  free : disk.entry? place ≠ some .directory
  reachable : disk.HoldsFile place ∨ disk.entry? place.dropLast = some .directory

theorem exists_admits_iff (located : disk.locate path = .ok place) :
    (∃ other, disk.Admits path other) ↔ disk.entry? place ≠ some .directory ∧
      (disk.HoldsFile place ∨ disk.entry? place.dropLast = some .directory) := by
  constructor
  · rintro ⟨other, there, free, reachable⟩
    cases located.symm.trans there
    exact ⟨free, reachable⟩
  · rintro ⟨free, reachable⟩
    exact ⟨place, located, free, reachable⟩

/-- Writing succeeds where a file can be written. -/
theorem write_iff {content : FileContent} :
    (∃ written, disk.write path content = .ok written) ↔ ∃ place, disk.Admits path place := by
  cases located : disk.locate path with
  | error fault =>
    constructor
    · rintro ⟨written, success⟩
      rw [write, located] at success
      cases success
    · rintro ⟨place, admits⟩
      cases located.symm.trans admits.located
  | ok place =>
    rw [exists_admits_iff located, write, located]
    unfold HoldsFile
    simp only [bind, Except.bind]
    cases disk.entry? place with
    | none =>
      cases disk.entry? place.dropLast with
      | none => simp [throw, throwThe, MonadExceptOf.throw]
      | some entry =>
        cases entry <;> simp [throw, throwThe, MonadExceptOf.throw, pure, Except.pure]
    | some entry =>
      cases entry <;> simp [throw, throwThe, MonadExceptOf.throw, pure, Except.pure]

namespace Wrote

variable {before after : Disk} {content : FileContent}

theorem holdsFile_iff (wrote : Wrote before place content after) (other : Place) :
    after.HoldsFile other ↔ other = place ∨ before.HoldsFile other := by
  by_cases same : other = place
  · subst same
    exact ⟨fun _ => .inl rfl, fun _ => ⟨content, wrote.here⟩⟩
  · unfold HoldsFile
    rw [wrote.elsewhere other same, or_iff_right same]

/-- A file that was written where one can be decides nothing about other files. -/
theorem admits_iff (wrote : Wrote before place content after) {written : Path}
    (admitted : before.Admits written place) {other : Place} :
    after.Admits path other ↔ before.Admits path other := by
  constructor
  · rintro ⟨located, free, reachable⟩
    refine ⟨(wrote.locate_iff path other).mp located,
      fun directory => free ((wrote.directory_iff other).mpr directory), ?_⟩
    rw [wrote.holdsFile_iff, wrote.directory_iff] at reachable
    obtain (rfl | file) | directory := reachable
    · exact admitted.reachable
    · exact .inl file
    · exact .inr directory
  · rintro ⟨located, free, reachable⟩
    refine ⟨(wrote.locate_iff path other).mpr located,
      fun directory => free ((wrote.directory_iff other).mp directory), ?_⟩
    rw [wrote.holdsFile_iff, wrote.directory_iff]
    exact reachable.imp_left .inr

end Wrote

/-! ### Writing several files -/

/-- Writes a file where it can be written. -/
def overwrite (disk : Disk) (file : Path × FileContent) : Disk :=
  match disk.write file.1 file.2 with
  | .ok written => written
  | .error _ => disk

theorem overwrite_cases (disk : Disk) (file : Path × FileContent) :
    (overwrite disk file = disk ∧ ∀ place, ¬ disk.Admits file.1 place) ∨
      ∃ place, disk.Admits file.1 place ∧ Wrote disk place file.2 (overwrite disk file) := by
  unfold overwrite
  cases outcome : disk.write file.1 file.2 with
  | error fault =>
    refine .inl ⟨rfl, fun place admits => ?_⟩
    obtain ⟨written, success⟩ := write_iff.mpr ⟨place, admits⟩
    cases outcome.symm.trans success
  | ok written =>
    obtain ⟨place, located, wrote⟩ := wrote_of_write outcome
    obtain ⟨other, admits⟩ := write_iff.mp ⟨written, outcome⟩
    cases located.symm.trans admits.located
    exact .inr ⟨place, admits, wrote⟩

theorem home_overwrite (file : Path × FileContent) : (overwrite disk file).home = disk.home := by
  rcases overwrite_cases disk file with ⟨same, -⟩ | ⟨_, -, wrote⟩
  · rw [same]
  · exact wrote.home

theorem directory_overwrite (file : Path × FileContent) :
    Disk.entry? (overwrite disk file) place = some .directory ↔
      disk.entry? place = some .directory := by
  rcases overwrite_cases disk file with ⟨same, -⟩ | ⟨_, -, wrote⟩
  · rw [same]
  · exact wrote.directory_iff place

theorem admits_overwrite (file : Path × FileContent) :
    (overwrite disk file).Admits path place ↔ disk.Admits path place := by
  rcases overwrite_cases disk file with ⟨same, -⟩ | ⟨_, admits, wrote⟩
  · rw [same]
  · exact wrote.admits_iff admits

theorem holdsFile_overwrite (file : Path × FileContent) :
    (overwrite disk file).HoldsFile place ↔
      disk.HoldsFile place ∨ disk.Admits file.1 place := by
  rcases overwrite_cases disk file with ⟨same, none⟩ | ⟨other, admits, wrote⟩
  · rw [same]
    exact (or_iff_left (none place)).symm
  · have here : place = other ↔ disk.Admits file.1 place := by
      constructor
      · rintro rfl
        exact admits
      · intro there
        cases there.located.symm.trans admits.located
        rfl
    rw [wrote.holdsFile_iff, here, or_comm]

/-- Whether two disks have their directories at the same places, and their files, whatever these
hold. -/
structure Alike (first second : Disk) : Prop where
  home : first.home = second.home
  directory_iff : ∀ place,
    first.entry? place = some .directory ↔ second.entry? place = some .directory
  holdsFile_iff : ∀ place, first.HoldsFile place ↔ second.HoldsFile place

/-- A file stands where one stood, or where one of the files can be written. -/
theorem holdsFile_foldl_overwrite (files : List (Path × FileContent)) :
    (files.foldl overwrite disk).HoldsFile place ↔
      disk.HoldsFile place ∨ ∃ path ∈ files.map (·.1), disk.Admits path place := by
  induction files generalizing disk with
  | nil => simp
  | cons file rest inductionHypothesis =>
    rw [List.foldl_cons, inductionHypothesis, holdsFile_overwrite, or_assoc]
    simp only [admits_overwrite]
    simp

theorem foldl_overwrite (files : List (Path × FileContent)) :
    (files.foldl overwrite disk).home = disk.home ∧
      ∀ place, Disk.entry? (files.foldl overwrite disk) place = some .directory ↔
        disk.entry? place = some .directory := by
  induction files generalizing disk with
  | nil => exact ⟨rfl, fun _ => Iff.rfl⟩
  | cons file rest inductionHypothesis =>
    obtain ⟨home, directories⟩ := @inductionHypothesis (overwrite disk file)
    exact ⟨home.trans (home_overwrite file),
      fun place => (directories place).trans (directory_overwrite file)⟩

/-- The order in which files are written leaves no trace in where files stand. -/
theorem alike_foldl_overwrite {files others : List (Path × FileContent)}
    (permuted : files.Perm others) :
    (files.foldl overwrite disk).Alike (others.foldl overwrite disk) where
  home := (foldl_overwrite files).1.trans (foldl_overwrite others).1.symm
  directory_iff place :=
    ((foldl_overwrite files).2 place).trans ((foldl_overwrite others).2 place).symm
  holdsFile_iff place := by
    simp only [holdsFile_foldl_overwrite, (permuted.map (·.1)).mem_iff]

/-! ### One more file -/

namespace Alike

theorem stands_cases (alike : first.Alike second) (place : Place) :
    first.entry? place = none ∧ second.entry? place = none ∨
      first.entry? place = some .directory ∧ second.entry? place = some .directory ∨
        first.HoldsFile place ∧ second.HoldsFile place := by
  cases stands : first.entry? place with
  | none =>
    cases other : second.entry? place with
    | none => exact .inl ⟨rfl, rfl⟩
    | some entry =>
      cases entry with
      | directory => cases stands.symm.trans ((alike.directory_iff place).mpr other)
      | file content =>
        obtain ⟨content, file⟩ := (alike.holdsFile_iff place).mpr ⟨content, other⟩
        cases stands.symm.trans file
  | some entry =>
    cases entry with
    | directory => exact .inr (.inl ⟨rfl, (alike.directory_iff place).mp stands⟩)
    | file content =>
      have file : first.HoldsFile place := ⟨content, stands⟩
      exact .inr (.inr ⟨file, (alike.holdsFile_iff place).mp file⟩)

theorem follow_eq (alike : first.Alike second) :
    ∀ (steps : List String) (place : Place), first.follow place steps = second.follow place steps
  | [], _ => rfl
  | step :: rest, place => by
    unfold follow
    obtain ⟨none, other⟩ | ⟨directory, other⟩ | ⟨⟨_, file⟩, ⟨_, other⟩⟩ := alike.stands_cases place
    · rw [none, other]
    · rw [directory, other]
      simp only [alike.follow_eq rest]
    · rw [file, other]

theorem locate_eq (alike : first.Alike second) (path : Path) :
    first.locate path = second.locate path := by
  unfold locate
  rw [alike.home, alike.follow_eq]

/-- Writing succeeds on both disks or is refused for the same reason. -/
theorem write_cases (alike : first.Alike second) (path : Path) (content other : FileContent) :
    (∃ fault, first.write path content = .error fault ∧ second.write path other = .error fault) ∨
      ∃ written writtenOther, first.write path content = .ok written ∧
        second.write path other = .ok writtenOther := by
  unfold write
  rw [alike.locate_eq]
  cases second.locate path with
  | error fault => exact .inl ⟨fault, rfl, rfl⟩
  | ok place =>
    simp only [bind, Except.bind]
    obtain ⟨none, also⟩ | ⟨directory, also⟩ | ⟨⟨_, file⟩, ⟨_, also⟩⟩ := alike.stands_cases place
    · rw [none, also]
      obtain ⟨none, also⟩ | ⟨directory, also⟩ | ⟨⟨_, file⟩, ⟨_, also⟩⟩ :=
        alike.stands_cases place.dropLast
      · rw [none, also]
        exact .inl ⟨_, rfl, rfl⟩
      · rw [directory, also]
        exact .inr ⟨_, _, rfl, rfl⟩
      · rw [file, also]
        exact .inl ⟨_, rfl, rfl⟩
    · rw [directory, also]
      exact .inl ⟨_, rfl, rfl⟩
    · rw [file, also]
      exact .inr ⟨_, _, rfl, rfl⟩

end Alike

end Declarations.Disk
