/-
This file proves what writing files leaves alone. A name below a path leads below the directory of
the path, so names that differ lead to different places; and where only files at some places
changed, a path that leads elsewhere finds what it found before.
-/

import Declarations.Proofs.Disk.Places
import Declarations.Proofs.Disk.Rewriting

namespace Declarations.Disk

open Declarations.Path (IsName)

variable {disk before after : Disk} {path : Path} {place : Place} {content : FileContent}

/-! ### Names below a path -/

/-- The directory in which names below a path are looked for. Below the empty path they are names
below the home directory. -/
def base? (disk : Disk) (path : Path) : Except DiskFault Place :=
  if path.text.isEmpty then .ok disk.home else disk.locate path

theorem advance_name {name : String} (isName : IsName name) (place : Place) :
    advance place name = place ++ [name] := by
  rw [advance, if_neg (not_or.mpr ⟨isName.nonempty, isName.notHere⟩), if_neg isName.notUp]

theorem follow_concat_iff {start final : Place} {steps : List String} {step : String} :
    disk.follow start (steps ++ [step]) = .ok final ↔
      ∃ above, disk.follow start steps = .ok above ∧ disk.entry? above = some .directory ∧
        final = advance above step := by
  constructor
  · intro followed
    obtain ⟨above, here, there⟩ := follow_append followed
    obtain ⟨directory, last⟩ := follow_cons_iff.mp there
    exact ⟨above, here, directory, (Except.ok.inj last).symm⟩
  · rintro ⟨above, followed, directory, rfl⟩
    exact follow_concat followed directory

theorem head?_of_isName {name : String} (isName : IsName name) :
    name.toList.head? ≠ some '/' :=
  fun absolute => isName.plain (List.mem_of_mem_head? absolute)

theorem split_of_isName {name : String} (isName : IsName name) :
    Path.split name.toList = [name] := by
  rw [Path.split_of_not_mem isName.plain, String.ofList_toList]

theorem locate_join_of_empty {name : String} (isName : IsName name)
    (empty : path.text.isEmpty = true) :
    disk.locate (path.join name) = disk.follow disk.home [name] := by
  have text : (path.join name).text.toList = name.toList := by
    unfold Path.join
    rw [if_neg fun absolute => head?_of_isName isName (eq_of_beq absolute),
      if_pos (by rw [empty, Bool.true_or]), String.isEmpty_iff.mp empty, String.empty_append]
  have relative : (path.join name).isAbsolute = false := by
    rw [Path.isAbsolute, text]
    exact beq_false_of_ne (head?_of_isName isName)
  rw [locate_eq (text ▸ isName.toList_ne_nil), relative, text, split_of_isName isName]
  rfl

/-- A name below a path leads to the place of that name in the directory of the path. -/
theorem locate_join_iff {name : String} (isName : IsName name) :
    disk.locate (path.join name) = .ok place ↔
      ∃ above, disk.base? path = .ok above ∧ disk.entry? above = some .directory ∧
        place = above ++ [name] := by
  unfold base?
  split
  next empty =>
    have concat : [name] = [] ++ [name] := rfl
    rw [locate_join_of_empty isName empty, concat, follow_concat_iff]
    simp only [advance_name isName]
    rfl
  next filled =>
    refine ⟨fun located => ?_, fun ⟨above, based, directory, same⟩ =>
      same ▸ locate_join based directory isName⟩
    have written : path.text.toList ≠ [] := fun none =>
      filled (String.isEmpty_iff.mpr (String.toList_eq_nil_iff.mp none))
    rw [locate_eq written]
    rcases Path.toList_join_of_relative (head?_of_isName isName) with ⟨isOpen, text⟩ | text
    · obtain ⟨front, slash⟩ := isOpen.resolve_left written
      rw [locate_eq (by rw [text]; exact List.append_ne_nil_of_left_ne_nil written _),
        isAbsolute_of_append written text, text, slash, List.append_assoc, List.singleton_append,
        Path.split_append_slash, split_of_isName isName, follow_concat_iff] at located
      obtain ⟨above, followed, directory, rfl⟩ := located
      refine ⟨above, ?_, directory, advance_name isName above⟩
      -- The piece behind the last slash of the path is empty, and stays.
      rw [slash, Path.split_append_slash]
      exact follow_concat followed directory
    · rw [locate_eq (by rw [text]; exact List.append_ne_nil_of_left_ne_nil written _),
        isAbsolute_of_append written text, text, Path.split_append_slash, split_of_isName isName,
        follow_concat_iff] at located
      obtain ⟨above, followed, directory, rfl⟩ := located
      exact ⟨above, followed, directory, advance_name isName above⟩

theorem isEmpty_join {name : String} (isName : IsName name) (path : Path) :
    (path.join name).text.isEmpty = false := by
  obtain ⟨front, -, written⟩ := Path.exists_toList_join path name
  refine Bool.eq_false_iff.mpr fun empty => ?_
  rw [String.isEmpty_iff.mp empty] at written
  exact isName.toList_ne_nil (List.append_eq_nil_iff.mp written.symm).2

/-- A path that ends with a name leads to a place that does. -/
theorem exists_above_of_ends {front : List Char} {name : String} (isOpen : Path.IsOpen front)
    (isName : IsName name) (text : path.text.toList = front ++ name.toList)
    (located : disk.locate path = .ok place) : ∃ above, place = above ++ [name] := by
  obtain ⟨pieces, apart⟩ := isOpen.split
  rw [locate_eq (filled_of_locate located), text, apart, split_of_isName isName,
    follow_concat_iff] at located
  obtain ⟨above, -, -, rfl⟩ := located
  exact ⟨above, advance_name isName above⟩

/-! ### Disks that differ at some places -/

/-- Whether only files changed from one disk to another, and only at some places. -/
structure ChangesOnly (touched : Place → Prop) (before after : Disk) : Prop where
  home : after.home = before.home
  directory_iff : ∀ place,
    after.entry? place = some .directory ↔ before.entry? place = some .directory
  elsewhere : ∀ place, ¬ touched place → after.entry? place = before.entry? place

theorem Wrote.changesOnly (wrote : Wrote before place content after) :
    ChangesOnly (· = place) before after :=
  ⟨wrote.home, wrote.directory_iff, wrote.elsewhere⟩

namespace ChangesOnly

variable {touched others : Place → Prop} {last : Disk}

theorem refl (disk : Disk) : ChangesOnly touched disk disk :=
  ⟨rfl, fun _ => Iff.rfl, fun _ _ => rfl⟩

theorem mono (changes : ChangesOnly touched before after)
    (within : ∀ place, touched place → others place) : ChangesOnly others before after :=
  ⟨changes.home, changes.directory_iff,
    fun place outside => changes.elsewhere place fun inside => outside (within place inside)⟩

theorem trans (first : ChangesOnly touched before after) (second : ChangesOnly touched after last) :
    ChangesOnly touched before last where
  home := second.home.trans first.home
  directory_iff place := (second.directory_iff place).trans (first.directory_iff place)
  elsewhere place outside :=
    (second.elsewhere place outside).trans (first.elsewhere place outside)

theorem locate_iff (changes : ChangesOnly touched before after) (path : Path) (final : Place) :
    after.locate path = .ok final ↔ before.locate path = .ok final :=
  locate_iff_of_directory changes.home changes.directory_iff path final

/-- What a path leads to stays where the place was not touched. -/
theorem find_eq (changes : ChangesOnly touched before after)
    (located : before.locate path = .ok place) (outside : ¬ touched place) :
    after.find path = before.find path := by
  unfold find
  rw [located, (changes.locate_iff path place).mpr located]
  simp only [bind, Except.bind, changes.elsewhere place outside]

theorem readText_eq (changes : ChangesOnly touched before after)
    (located : before.locate path = .ok place) (outside : ¬ touched place) :
    after.readText path = before.readText path := by
  unfold readText
  rw [changes.find_eq located outside]

/-- The same is found by a path that leads to no place that was touched, or to none at all. -/
theorem toOption_find (changes : ChangesOnly touched before after)
    (outside : ∀ place, before.locate path = .ok place → ¬ touched place) :
    (after.find path).toOption = (before.find path).toOption := by
  cases located : before.locate path with
  | ok place => rw [changes.find_eq located (outside place located)]
  | error fault =>
    cases still : after.locate path with
    | ok final => cases located.symm.trans ((changes.locate_iff path final).mp still)
    | error other =>
      unfold find
      rw [located, still]
      rfl

theorem isFile_eq (changes : ChangesOnly touched before after)
    (outside : ∀ place, before.locate path = .ok place → ¬ touched place) :
    after.isFile path = before.isFile path := by
  have same := changes.toOption_find outside
  unfold isFile
  cases first : after.find path <;> cases second : before.find path <;>
    simp_all [Except.toOption]

theorem toOption_readText (changes : ChangesOnly touched before after)
    (outside : ∀ place, before.locate path = .ok place → ¬ touched place) :
    (after.readText path).toOption = (before.readText path).toOption := by
  have same := changes.toOption_find outside
  unfold readText
  cases first : after.find path <;> cases second : before.find path <;>
    simp_all [Except.toOption, bind, Except.bind]

end ChangesOnly

/-- A file that was written once can be written again. -/
theorem write_again {written : Disk} {other : FileContent}
    (success : disk.write path content = .ok written) :
    ∃ last, written.write path other = .ok last := by
  obtain ⟨place, admits⟩ := write_iff.mp ⟨written, success⟩
  obtain ⟨found, located, wrote⟩ := wrote_of_write success
  cases located.symm.trans admits.located
  exact write_iff.mpr ⟨_, (wrote.admits_iff admits).mpr admits⟩

end Declarations.Disk
