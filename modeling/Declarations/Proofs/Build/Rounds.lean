/-
This file follows the rounds in which files are read. Every visit holds what reading its
source gives, visits are only added, and two ways of reading that agree on the files that
are visited lead to the same visits: which modules come from a cache makes no difference to
which files are read.
-/

import Declarations.Build.Analysis

namespace Declarations

/-- A reading as it would be without a cache. -/
def Reading.anew (reading : Reading) : Reading :=
  { reading with isFresh := true }

/-- A visit as it would be without a cache. -/
def Visit.anew (visit : Visit) : Visit :=
  { visit with outcome := visit.outcome.map Reading.anew }

namespace Analysis

/-- What is known after some rounds, as it would be without a cache. -/
def Progress.anew (progress : Progress) : Progress :=
  { progress with visits := progress.visits.map Visit.anew }

variable {search : ImportSearch} {disk : Disk} {policy : FollowImports}

/-! ### Visits -/

theorem visits_inspect (progress : Progress) (visit : Visit) :
    (inspect search disk policy progress visit).visits = progress.visits ++ [visit] := by
  unfold inspect
  cases visit.outcome with
  | error problem => rfl
  | ok reading => cases policy <;> rfl

theorem visits_foldl_inspect (visits : List Visit) (progress : Progress) :
    (visits.foldl (inspect search disk policy) progress).visits = progress.visits ++ visits := by
  induction visits generalizing progress with
  | nil => exact (List.append_nil _).symm
  | cons visit rest inductionHypothesis =>
    rw [List.foldl_cons, inductionHypothesis, visits_inspect, List.append_assoc]
    rfl

variable (read : BuildSource → Except Problem Reading)

/-- A round visits what the queue holds, in order. -/
theorem visits_round (isFollowed : Bool) (progress : Progress) :
    (round search disk policy read isFollowed progress).visits =
      progress.visits ++ progress.queue.map fun source => ⟨source, isFollowed, read source⟩ :=
  visits_foldl_inspect _ _

/-- Rounds only add visits. -/
theorem prefix_visits_rounds (count : Nat) (progress : Progress) :
    progress.visits <+: (rounds search disk policy read count progress).visits := by
  induction count generalizing progress with
  | zero => exact List.prefix_refl _
  | succ count inductionHypothesis =>
    unfold rounds
    split
    · exact List.prefix_refl _
    · refine List.IsPrefix.trans ?_ (inductionHypothesis _)
      rw [visits_round]
      exact List.prefix_append _ _

/-- There are no more rounds where no more file is asked for. -/
theorem rounds_of_done {progress : Progress} (done : progress.queue = []) (count : Nat) :
    rounds search disk policy read count progress = progress := by
  cases count with
  | zero => rfl
  | succ count =>
    unfold rounds
    rw [if_pos (List.isEmpty_iff.mpr done)]

/-- Every visit holds what reading its source gives. -/
def Progress.Faithful (progress : Progress) : Prop :=
  ∀ visit ∈ progress.visits, visit.outcome = read visit.source

variable {read}

theorem Progress.Faithful.round {progress : Progress} (faithful : progress.Faithful read)
    (isFollowed : Bool) : (round search disk policy read isFollowed progress).Faithful read := by
  intro visit member
  rw [visits_round, List.mem_append] at member
  rcases member with before | now
  · exact faithful visit before
  · obtain ⟨source, _, rfl⟩ := List.mem_map.mp now
    rfl

theorem Progress.Faithful.rounds {progress : Progress} (faithful : progress.Faithful read)
    (count : Nat) : (rounds search disk policy read count progress).Faithful read := by
  induction count generalizing progress with
  | zero => exact faithful
  | succ count inductionHypothesis =>
    unfold Analysis.rounds
    split
    · exact faithful
    · exact inductionHypothesis (faithful.round true)

theorem faithful_visitAll (sources : List BuildSource) :
    (visitAll disk policy read sources).Faithful read :=
  Progress.Faithful.rounds (Progress.Faithful.round (fun _ member => absurd member List.not_mem_nil)
    false) _

/-- Without sources nothing is read. -/
theorem visitUsing_nil (disk : Disk) (options : BuildOptions) (usable : Option Cache) :
    visitUsing disk options usable [] = ⟨[], [], [], []⟩ :=
  rounds_of_done _ rfl _

/-! ### Two ways of reading -/

theorem anew_inspect (progress : Progress) (visit : Visit) :
    (inspect search disk policy progress visit).anew =
      inspect search disk policy progress.anew visit.anew := by
  obtain ⟨source, isFollowed, outcome⟩ := visit
  cases outcome with
  | error problem =>
    exact congrArg (fun visits => { progress with visits := visits }) List.map_append
  | ok reading =>
    unfold Progress.anew
    rw [visits_inspect, List.map_append]
    cases policy <;> rfl

theorem anew_foldl_inspect (visits : List Visit) (progress : Progress) :
    (visits.foldl (inspect search disk policy) progress).anew =
      (visits.map Visit.anew).foldl (inspect search disk policy) progress.anew := by
  induction visits generalizing progress with
  | nil => rfl
  | cons visit rest inductionHypothesis =>
    rw [List.foldl_cons, inductionHypothesis, anew_inspect, List.map_cons, List.foldl_cons]

variable {other : BuildSource → Except Problem Reading}

/-- Whether two ways of reading give the same, apart from what comes from a cache. -/
def Agree (read other : BuildSource → Except Problem Reading) (source : BuildSource) : Prop :=
  (read source).map Reading.anew = other source

theorem anew_round {isFollowed : Bool} {progress : Progress}
    (agree : ∀ source ∈ progress.queue, Agree read other source) :
    (round search disk policy read isFollowed progress).anew =
      round search disk policy other isFollowed progress.anew := by
  have visited : (progress.queue.map fun source => (⟨source, isFollowed, read source⟩ : Visit)).map
        Visit.anew =
      progress.queue.map fun source => (⟨source, isFollowed, other source⟩ : Visit) := by
    rw [List.map_map]
    refine List.map_congr_left fun source member => ?_
    rw [← agree source member]
    rfl
  unfold round
  rw [anew_foldl_inspect, visited]
  rfl

/-- Rounds lead to the same visits where the ways of reading agree on what is visited. -/
theorem anew_rounds {count : Nat} {progress : Progress}
    (agree : ∀ visit ∈ (rounds search disk policy other count progress.anew).visits,
      Agree read other visit.source) :
    (rounds search disk policy read count progress).anew =
      rounds search disk policy other count progress.anew := by
  induction count generalizing progress with
  | zero => rfl
  | succ count inductionHypothesis =>
    unfold rounds at agree ⊢
    have sameQueue : progress.anew.queue = progress.queue := rfl
    rw [sameQueue] at agree ⊢
    by_cases done : progress.queue.isEmpty = true
    · rw [if_pos done, if_pos done]
    · rw [if_neg done] at agree
      rw [if_neg done, if_neg done]
      have next : (round search disk policy read true progress).anew =
          round search disk policy other true progress.anew := by
        refine anew_round fun source member => ?_
        have visited : (⟨source, true, other source⟩ : Visit) ∈
            (round search disk policy other true progress.anew).visits := by
          rw [visits_round]
          exact List.mem_append_right _ (List.mem_map_of_mem member)
        exact agree _ ((prefix_visits_rounds other count _).subset visited)
      rw [← next] at agree ⊢
      exact inductionHypothesis agree

theorem anew_visitAll {sources : List BuildSource}
    (agree : ∀ visit ∈ (visitAll disk policy other sources).visits,
      Agree read other visit.source) :
    (visitAll disk policy read sources).anew = visitAll disk policy other sources := by
  unfold visitAll at agree ⊢
  have first : (round (ImportSearch.ofRoots (sources.map (·.base))) disk policy read false
        ⟨sources.map (·.module), sources, [], []⟩).anew =
      round (ImportSearch.ofRoots (sources.map (·.base))) disk policy other false
        ⟨sources.map (·.module), sources, [], []⟩ := by
    refine anew_round fun source member => ?_
    have visited : (⟨source, false, other source⟩ : Visit) ∈
        (round (ImportSearch.ofRoots (sources.map (·.base))) disk policy other false
          ⟨sources.map (·.module), sources, [], []⟩).visits := by
      rw [visits_round]
      exact List.mem_append_right _ (List.mem_map_of_mem member)
    exact agree _ ((prefix_visits_rounds other _ _).subset visited)
  simp only [← first] at agree ⊢
  exact anew_rounds agree

/-! ### Results -/

/-- Whether two results have the same modules and failures. -/
def Same (first second : Analysis) : Prop :=
  first.modules = second.modules ∧ first.failures = second.failures

theorem Same.addVisit {first second : Analysis} (same : Same first second) (visit : Visit) :
    Same (addVisit policy first visit) (addVisit policy second visit.anew) := by
  unfold Analysis.addVisit Visit.anew
  cases visit.outcome with
  | ok reading => exact ⟨by simp only [Except.map, Reading.anew, same.1], same.2⟩
  | error problem =>
    simp only [Except.map]
    split
    · exact same
    · exact ⟨same.1, by simp only [same.2]⟩

theorem same_ofProgress_anew (policy : FollowImports) (progress : Progress) :
    Same (ofProgress policy progress) (ofProgress policy progress.anew) := by
  have folded : ∀ (visits : List Visit) (first second : Analysis), Same first second →
      Same (visits.foldl (addVisit policy) first)
        ((visits.map Visit.anew).foldl (addVisit policy) second) := by
    intro visits
    induction visits with
    | nil => exact fun _ _ same => same
    | cons visit rest inductionHypothesis =>
      exact fun _ _ same => inductionHypothesis _ _ (same.addVisit visit)
  exact folded progress.visits _ _ ⟨rfl, rfl⟩

end Analysis

end Declarations
