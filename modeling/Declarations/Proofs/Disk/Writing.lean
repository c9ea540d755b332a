/-
This file says what writing a file leaves as it was: paths lead to the same places, all
directories stay, and a file that was not written has the text it had. It also proves that
making directories again changes nothing, also after files were written.
-/

import Declarations.Disk.Basic

namespace Declarations

namespace Disk

/-! ### Entries -/

theorem lookup_filter_of_ne {place other : Place} (different : other ≠ place)
    (entries : List (Place × DiskEntry)) :
    (entries.filter fun entry => entry.1 != place).lookup other = entries.lookup other := by
  induction entries with
  | nil => rfl
  | cons entry rest inductionHypothesis =>
    obtain ⟨found, content⟩ := entry
    by_cases same : found = place
    · have dropped : (found != place) = false := by
        rw [same]
        exact bne_self_eq_false place
      have skipped : (other == found) = false := by
        rw [same]
        exact beq_false_of_ne different
      rw [List.filter_cons_of_neg (by simp only [dropped, Bool.false_eq_true, not_false_eq_true]),
        inductionHypothesis, List.lookup_cons, skipped]
    · rw [List.filter_cons_of_pos (by simpa using same), List.lookup_cons, List.lookup_cons,
        inductionHypothesis]

theorem stands_put_self {disk : Disk} {place : Place} (below : place ≠ []) (entry : DiskEntry) :
    Disk.entry? (disk.put place entry) place = some entry := by
  have filled : place.isEmpty = false := by
    cases place with
    | nil => exact absurd rfl below
    | cons name rest => rfl
  unfold entry?
  rw [filled, if_neg Bool.false_ne_true, put, List.lookup_cons_self]

theorem stands_put_other {disk : Disk} {place other : Place} (different : other ≠ place)
    (entry : DiskEntry) : Disk.entry? (disk.put place entry) other = disk.entry? other := by
  have skipped : (other == place) = false := beq_false_of_ne different
  have looked : (disk.put place entry).entries.lookup other = disk.entries.lookup other := by
    rw [put, List.lookup_cons, skipped]
    exact lookup_filter_of_ne different disk.entries
  unfold entry?
  rw [looked]

theorem mem_of_stands {disk : Disk} {place : Place} {entry : DiskEntry}
    (stands : disk.entry? place = some entry) (filled : place ≠ []) :
    (place, entry) ∈ disk.entries := by
  unfold entry? at stands
  rw [if_neg (by simpa using filled)] at stands
  obtain ⟨before, behind, entries, _⟩ := List.lookup_eq_some_iff.mp stands
  rw [entries]
  exact List.mem_append_right _ List.mem_cons_self

theorem mem_of_stands_file {disk : Disk} {place : Place} {content : FileContent}
    (stands : disk.entry? place = some (.file content)) :
    (place, DiskEntry.file content) ∈ disk.entries := by
  refine mem_of_stands stands ?_
  rintro rfl
  cases stands

/-! ### Steps -/

/-- Where a step of a path leads. -/
def advance (place : Place) (step : String) : Place :=
  if step = "" ∨ step = "." then place
  else if step = ".." then place.dropLast
  else place ++ [step]

/-- A step is followed where a directory stands. -/
theorem follow_cons_iff {disk : Disk} {place final : Place} {step : String} {rest : List String} :
    disk.follow place (step :: rest) = .ok final ↔
      disk.entry? place = some .directory ∧ disk.follow (advance place step) rest = .ok final := by
  rw [follow, advance]
  cases disk.entry? place with
  | none => exact ⟨nofun, fun both => nomatch both.1⟩
  | some entry =>
    cases entry with
    | file content => exact ⟨nofun, fun both => nomatch both.1⟩
    | directory =>
      simp only [true_and]
      split
      · rfl
      · split <;> rfl

/-- Where the same directories stand, steps lead to the same places. -/
theorem follow_iff_of_directory {before after : Disk}
    (directory_iff : ∀ place,
      after.entry? place = some .directory ↔ before.entry? place = some .directory) :
    ∀ (steps : List String) (start final : Place),
      after.follow start steps = .ok final ↔ before.follow start steps = .ok final
  | [], start, final => Iff.rfl
  | step :: rest, start, final => by
    rw [follow_cons_iff, follow_cons_iff, directory_iff,
      follow_iff_of_directory directory_iff rest (advance start step) final]

theorem locate_iff_of_directory {before after : Disk} (home : after.home = before.home)
    (directory_iff : ∀ place,
      after.entry? place = some .directory ↔ before.entry? place = some .directory)
    (path : Path) (final : Place) :
    after.locate path = .ok final ↔ before.locate path = .ok final := by
  unfold locate
  split
  · exact ⟨nofun, nofun⟩
  · rw [home]
    exact follow_iff_of_directory directory_iff _ _ final

/-- What is found stands at the place that the path leads to. -/
theorem locate_of_find {disk : Disk} {path : Path} {entry : DiskEntry}
    (found : disk.find path = .ok entry) :
    ∃ place, disk.locate path = .ok place ∧ disk.entry? place = some entry := by
  unfold find at found
  cases located : disk.locate path with
  | error fault =>
    rw [located] at found
    cases found
  | ok place =>
    refine ⟨place, rfl, ?_⟩
    simp only [located, bind, Except.bind] at found
    cases stands : disk.entry? place with
    | none =>
      rw [stands] at found
      cases found
    | some other =>
      rw [stands] at found
      cases found
      rfl

/-- A text that can be read is that of a file on the disk. -/
theorem mem_of_readText {disk : Disk} {path : Path} {text : String}
    (read : disk.readText path = .ok text) :
    ∃ place, (place, DiskEntry.file (.text text)) ∈ disk.entries := by
  unfold readText at read
  cases found : disk.find path with
  | error fault =>
    rw [found] at read
    cases read
  | ok entry =>
    obtain ⟨place, _, stands⟩ := locate_of_find found
    rw [found] at read
    cases entry with
    | directory => cases read
    | file content =>
      cases content with
      | bytes bytes => cases read
      | text other =>
        cases read
        exact ⟨place, mem_of_stands_file stands⟩

/-! ### Writing a file -/

/-- A disk after a file was written at a place. -/
structure Wrote (before : Disk) (place : Place) (content : FileContent) (after : Disk) : Prop where
  home : after.home = before.home
  here : after.entry? place = some (.file content)
  elsewhere : ∀ other, other ≠ place → after.entry? other = before.entry? other
  fileBefore : before.entry? place ≠ some .directory

theorem wrote_put {disk : Disk} {place : Place} (content : FileContent)
    (fileBefore : disk.entry? place ≠ some .directory) :
    Wrote disk place content (disk.put place (.file content)) where
  home := rfl
  here := by
    refine stands_put_self ?_ _
    rintro rfl
    exact fileBefore rfl
  elsewhere _ different := stands_put_other different _
  fileBefore := fileBefore

/-- What is written stands where the path leads. -/
theorem wrote_of_write {disk written : Disk} {path : Path} {content : FileContent}
    (success : disk.write path content = .ok written) :
    ∃ place, disk.locate path = .ok place ∧ Wrote disk place content written := by
  unfold write at success
  cases located : disk.locate path with
  | error fault =>
    rw [located] at success
    cases success
  | ok place =>
    refine ⟨place, rfl, ?_⟩
    rw [located] at success
    simp only [bind, Except.bind] at success
    cases stands : disk.entry? place with
    | none =>
      have fileBefore : disk.entry? place ≠ some .directory := by
        rw [stands]
        exact nofun
      simp only [stands] at success
      cases above : disk.entry? place.dropLast with
      | none => simp [above, throw, throwThe, MonadExceptOf.throw] at success
      | some entry =>
        cases entry with
        | directory =>
          simp only [above, pure, Except.pure, Except.ok.injEq] at success
          rw [← success]
          exact wrote_put content fileBefore
        | file other => simp [above, throw, throwThe, MonadExceptOf.throw] at success
    | some entry =>
      cases entry with
      | directory => simp [stands, throw, throwThe, MonadExceptOf.throw] at success
      | file other =>
        simp only [stands, pure, Except.pure, Except.ok.injEq] at success
        rw [← success]
        exact wrote_put content (by rw [stands]; exact nofun)

namespace Wrote

variable {before after : Disk} {place : Place} {content : FileContent}

theorem directory_iff (wrote : Wrote before place content after) (other : Place) :
    after.entry? other = some .directory ↔ before.entry? other = some .directory := by
  by_cases same : other = place
  · subst same
    rw [wrote.here]
    exact ⟨nofun, fun directory => absurd directory wrote.fileBefore⟩
  · rw [wrote.elsewhere other same]

/-- Paths lead to the same places as before. -/
theorem locate_iff (wrote : Wrote before place content after) (path : Path) (final : Place) :
    after.locate path = .ok final ↔ before.locate path = .ok final :=
  locate_iff_of_directory wrote.home wrote.directory_iff path final

theorem find_other (wrote : Wrote before place content after) {path : Path} {other : Place}
    (located : before.locate path = .ok other) (different : other ≠ place) :
    after.find path = before.find path := by
  unfold find
  rw [located, (wrote.locate_iff path other).mpr located]
  simp only [bind, Except.bind, wrote.elsewhere other different]

theorem find_self (wrote : Wrote before place content after) {path : Path}
    (located : before.locate path = .ok place) : after.find path = .ok (.file content) := by
  unfold find
  rw [(wrote.locate_iff path place).mpr located]
  simp only [bind, Except.bind, wrote.here]
  rfl

/-- A file has the text it had, unless it is the one that was written. -/
theorem readText_cases {text : String} (wrote : Wrote before place (.text text) after)
    (path : Path) :
    after.readText path = .ok text ∨
      (after.readText path).toOption = (before.readText path).toOption := by
  cases located : before.locate path with
  | error fault =>
    refine Or.inr ?_
    have missing : ∃ fault, after.locate path = .error fault := by
      cases still : after.locate path with
      | error fault => exact ⟨fault, rfl⟩
      | ok final =>
        have before := (wrote.locate_iff path final).mp still
        rw [located] at before
        cases before
    obtain ⟨fault', missing⟩ := missing
    unfold readText find
    rw [located, missing]
    rfl
  | ok other =>
    by_cases same : other = place
    · subst same
      refine Or.inl ?_
      unfold readText
      rw [wrote.find_self located]
      rfl
    · refine Or.inr ?_
      unfold readText
      rw [wrote.find_other located same]

end Wrote

/-- What was written to a file is read from it. -/
theorem readText_of_write {disk written : Disk} {path : Path} {text : String}
    (success : disk.write path (.text text) = .ok written) : written.readText path = .ok text := by
  obtain ⟨place, located, wrote⟩ := wrote_of_write success
  rw [readText, wrote.find_self located]
  rfl

/-! ### Making directories -/

/-- Whether directories stand along the steps of a path. -/
def Paved (disk : Disk) : Place → List String → Prop
  | _, [] => True
  | place, step :: rest =>
    if step = "" ∨ step = "." then disk.Paved place rest
    else if step = ".." then disk.Paved place.dropLast rest
    else disk.entry? (place ++ [step]) = some .directory ∧ disk.Paved (place ++ [step]) rest

theorem Paved.mono {disk other : Disk}
    (keeps : ∀ place, disk.entry? place = some .directory → other.entry? place = some .directory) :
    ∀ {place : Place} {steps : List String}, disk.Paved place steps → other.Paved place steps
  | _, [], _ => trivial
  | place, step :: rest, paved => by
    unfold Paved at paved ⊢
    split at paved
    · rename_i stay
      rw [if_pos stay]
      exact paved.mono keeps
    · rename_i moves
      rw [if_neg moves]
      split at paved
      · rename_i up
        rw [if_pos up]
        exact paved.mono keeps
      · rename_i down
        rw [if_neg down]
        exact ⟨keeps _ paved.1, paved.2.mono keeps⟩

/-- Where the directories stand, nothing is made. -/
theorem Paved.makeAlong_eq {disk : Disk} :
    ∀ {place : Place} {steps : List String}, disk.Paved place steps →
      disk.makeAlong place steps = .ok disk
  | _, [], _ => rfl
  | place, step :: rest, paved => by
    unfold Paved at paved
    rw [makeAlong]
    split at paved
    · rename_i stay
      rw [if_pos stay]
      exact paved.makeAlong_eq
    · rename_i moves
      rw [if_neg moves]
      split at paved
      · rename_i up
        rw [if_pos up]
        exact paved.makeAlong_eq
      · rename_i down
        rw [if_neg down]
        simp only [paved.1]
        exact paved.2.makeAlong_eq

/-- After directories were made they stand, and those that stood before still do. -/
theorem paved_of_makeAlong :
    ∀ {disk made : Disk} {place : Place} {steps : List String},
      disk.makeAlong place steps = .ok made →
      made.home = disk.home ∧
        (∀ other, disk.entry? other = some .directory → made.entry? other = some .directory) ∧
        made.Paved place steps
  | disk, made, place, [], success => by
    cases success
    exact ⟨rfl, fun _ stands => stands, trivial⟩
  | disk, made, place, step :: rest, success => by
    rw [makeAlong] at success
    unfold Paved
    split at success
    · rename_i stay
      rw [if_pos stay]
      exact paved_of_makeAlong success
    · rename_i moves
      rw [if_neg moves]
      split at success
      · rename_i up
        rw [if_pos up]
        exact paved_of_makeAlong success
      · rename_i down
        rw [if_neg down]
        cases stands : disk.entry? (place ++ [step]) with
        | none =>
          simp only [stands] at success
          obtain ⟨home, keeps, paved⟩ := paved_of_makeAlong success
          have below : place ++ [step] ≠ [] := List.append_ne_nil_of_right_ne_nil _ nofun
          refine ⟨home, fun other directory => keeps other ?_, keeps _ ?_, paved⟩
          · by_cases same : other = place ++ [step]
            · rw [same]
              exact stands_put_self below _
            · rw [stands_put_other same]
              exact directory
          · exact stands_put_self below _
        | some entry =>
          cases entry with
          | directory =>
            simp only [stands] at success
            obtain ⟨home, keeps, paved⟩ := paved_of_makeAlong success
            exact ⟨home, keeps, keeps _ stands, paved⟩
          | file content =>
            simp only [stands] at success
            cases success

/-- A path that leads to a directory is paved. -/
theorem paved_of_follow {disk : Disk} :
    ∀ {steps : List String} {place final : Place}, disk.follow place steps = .ok final →
      disk.entry? final = some .directory → disk.Paved place steps
  | [], _, _, _, _ => trivial
  | step :: rest, place, final, followed, directory => by
    obtain ⟨_, behind⟩ := follow_cons_iff.mp followed
    have paved := paved_of_follow behind directory
    have stands : disk.entry? (advance place step) = some .directory := by
      cases rest with
      | nil =>
        cases behind
        exact directory
      | cons next rest => exact (follow_cons_iff.mp behind).1
    unfold Paved
    unfold advance at paved stands
    split
    · rename_i stay
      rw [if_pos stay] at paved
      exact paved
    · rename_i moves
      rw [if_neg moves] at paved stands
      split
      · rename_i up
        rw [if_pos up] at paved
        exact paved
      · rename_i down
        rw [if_neg down] at paved stands
        exact ⟨stands, paved⟩

/-- Whether a directory and those that lead to it stand. -/
def Has (disk : Disk) (path : Path) : Prop :=
  disk.Paved (if path.isAbsolute then [] else disk.home) (steps path)

theorem Has.makeDirectories_eq {disk : Disk} {path : Path} (has : disk.Has path) :
    disk.makeDirectories path = .ok disk :=
  Paved.makeAlong_eq has

theorem has_of_makeDirectories {disk made : Disk} {path : Path}
    (success : disk.makeDirectories path = .ok made) : made.Has path := by
  obtain ⟨home, _, paved⟩ := paved_of_makeAlong success
  unfold Has
  rw [home]
  exact paved

theorem has_of_isDirectory {disk : Disk} {path : Path} (directory : disk.isDirectory path = true) :
    disk.Has path := by
  unfold isDirectory at directory
  cases found : disk.find path with
  | error fault =>
    rw [found] at directory
    cases directory
  | ok entry =>
    obtain ⟨place, located, stands⟩ := locate_of_find found
    rw [found] at directory
    cases entry with
    | file content => cases directory
    | directory =>
      unfold locate at located
      split at located
      · cases located
      · exact paved_of_follow located stands

/-- Directories still stand after a file was written. -/
theorem Has.write {disk written : Disk} {path file : Path} {content : FileContent}
    (has : disk.Has path) (success : disk.write file content = .ok written) :
    written.Has path := by
  obtain ⟨place, _, wrote⟩ := wrote_of_write success
  unfold Has
  rw [wrote.home]
  exact has.mono fun other => (wrote.directory_iff other).mpr

end Disk

end Declarations
