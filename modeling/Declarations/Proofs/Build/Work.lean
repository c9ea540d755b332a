/-
This file says how the steps of work run, one after the other, from a state on.
-/

import Declarations.Build.Cache

namespace Declarations.Work

variable {σ α β : Type} {first : Work σ α} {next : α → Work σ β} {state after : σ}

theorem run_bind : (first >>= next).run state =
    ExceptT.bindCont next (first.run state).1 (first.run state).2 :=
  rfl

theorem run_bind_ok {value : α} (given : first.run state = (.ok value, after)) :
    (first >>= next).run state = (next value).run after := by
  rw [run_bind, given]
  rfl

theorem run_bind_error {problem : Problem} (given : first.run state = (.error problem, after)) :
    (first >>= next).run state = (.error problem, after) := by
  rw [run_bind, given]
  rfl

theorem run_get : (get : Work σ σ).run state = (.ok state, state) :=
  rfl

theorem run_modify (change : σ → σ) :
    (modify change : Work σ Unit).run state = (.ok (), change state) :=
  rfl

theorem run_look_ok {find : σ → Except Problem α} {value : α} (found : find state = .ok value) :
    (look find).run state = (.ok value, state) := by
  unfold look
  rw [run_bind_ok run_get, found]
  rfl

theorem run_look_error {find : σ → Except Problem α} {problem : Problem}
    (found : find state = .error problem) : (look find).run state = (.error problem, state) := by
  unfold look
  rw [run_bind_ok run_get, found]
  rfl

theorem run_onDisk_ok {change : Disk → Except DiskFault Disk} {disk changed : Disk}
    (success : change disk = .ok changed) : (onDisk change).run disk = (.ok (), changed) := by
  unfold onDisk
  rw [run_bind_ok run_get, success]
  rfl

theorem run_onDisk_error {change : Disk → Except DiskFault Disk} {disk : Disk} {fault : DiskFault}
    (refused : change disk = .error fault) :
    (onDisk change).run disk = (.error (.disk none fault), disk) := by
  unfold onDisk
  rw [run_bind_ok run_get, refused]
  rfl

/-- Work that succeeds is work whose first part succeeds, and then the rest. -/
theorem of_run_bind_ok {value : β} (success : (first >>= next).run state = (.ok value, after)) :
    ∃ found between, first.run state = (.ok found, between) ∧
      (next found).run between = (.ok value, after) := by
  rw [run_bind] at success
  cases given : first.run state with
  | mk result between =>
    rw [given] at success
    cases result with
    | ok found => exact ⟨found, between, rfl, success⟩
    | error problem => cases success

theorem of_run_onDisk_ok {change : Disk → Except DiskFault Disk} {disk changed : Disk}
    (success : (onDisk change).run disk = (.ok (), changed)) : change disk = .ok changed := by
  cases result : change disk with
  | ok other =>
    rw [run_onDisk_ok result] at success
    rw [(Prod.mk.inj success).2]
  | error fault =>
    rw [run_onDisk_error result] at success
    cases success

end Declarations.Work
