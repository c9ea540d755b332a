/-
This file proves what can be read from a JSON value, whatever the value is. A property holds of
all that a reader yields where it holds of what its parts yield, so it holds of a record where
every field that is put into a draft keeps it.
-/

import Declarations.Json.Shape
import Mathlib.Logic.Basic

namespace Declarations.Json.Shape

section

variable {ε α β : Type} {good : α → Prop} {fine : β → Prop}

/-- Whether a property holds of a result, if there is one. -/
def Yields (good : α → Prop) (result : Except ε α) : Prop :=
  ∀ value, result = .ok value → good value

theorem yields_ok {value : α} (here : good value) : Yields good (.ok value : Except ε α) := by
  rintro _ ⟨⟩
  exact here

theorem yields_error (error : ε) : Yields good (.error error : Except ε α) :=
  fun _ found => by cases found

theorem yields_any (result : Except ε α) : Yields (fun _ => True) result :=
  fun _ _ => trivial

theorem Yields.bind {first : Except ε α} {next : α → Except ε β} (yields : Yields good first)
    (goesOn : ∀ value, good value → Yields fine (next value)) : Yields fine (first >>= next) := by
  cases first with
  | error error => exact yields_error error
  | ok value => exact goesOn value (yields value rfl)

theorem Yields.map {first : Except ε α} {change : α → β} (yields : Yields good first)
    (changed : ∀ value, good value → fine (change value)) : Yields fine (first.map change) := by
  cases first with
  | error error => exact yields_error error
  | ok value => exact yields_ok (changed value (yields value rfl))

end

section

variable {α σ : Type} {good : α → Prop} {shape : Shape α} {kept : σ → Prop}

theorem yields_list (each : ∀ value, Yields good (shape value)) (value : Json) :
    Yields (fun items => ∀ item ∈ items, good item) (list shape value) := by
  cases value with
  | list items =>
    show Yields _ (items.mapM shape)
    induction items with
    | nil => exact yields_ok fun _ member => nomatch member
    | cons first rest hypothesis =>
      rw [List.mapM_cons]
      exact (each first).bind fun item here => hypothesis.bind fun items others =>
        yields_ok (List.forall_mem_cons.2 ⟨here, others⟩)
  | null | bool _ | integer _ | decimal _ | text _ | object _ => exact yields_error _

theorem yields_optional (each : ∀ value, Yields good (shape value)) (value : Json) :
    Yields (fun given => ∀ item ∈ given, good item) (optional shape value) := by
  unfold optional
  split
  · exact yields_ok fun _ member => nomatch member
  · refine (each _).map fun item here other member => ?_
    obtain rfl := Option.some.inj member
    exact here

theorem yields_tag (standing : Standing) (known : List (String × α)) (value : Json) :
    Yields (fun found => found ∈ known.map (·.2)) (tag standing known value) := by
  unfold tag ofWord
  split
  · split
    next found => exact yields_ok (List.mem_map_of_mem (NameMap.mem_of_lookup found))
    next => exact yields_error _
  · split
    · split
      next found => exact yields_ok (List.mem_map_of_mem (List.mem_of_getElem? found))
      next => exact yields_error _
    · exact yields_error _
  · exact yields_error _

theorem yields_fill {read : σ → String → Shape σ}
    (step : ∀ draft field value, kept draft → Yields kept (read draft field value))
    (fields : List (String × Json)) {start : σ} (here : kept start) :
    Yields kept (fill read start fields) := by
  induction fields generalizing start with
  | nil => exact yields_ok here
  | cons field rest hypothesis =>
    rw [fill, List.foldlM_cons]
    exact (step start field.1 field.2 here).bind fun _ filled => hypothesis filled

theorem yields_record {read : σ → String → Shape σ}
    (step : ∀ draft field value, kept draft → Yields kept (read draft field value))
    (name : String) (standing : Standing) (fields : List String) {start : σ} (here : kept start)
    (value : Json) :
    Yields (fun draft => kept draft.found) (record name standing fields start read value) := by
  cases value with
  | object given =>
    exact (yields_any _).bind fun _ _ =>
      (yields_fill step given here).bind fun _ found => yields_ok found
  | list items =>
    refine (yields_fill step _ here).bind fun found kept => ?_
    dsimp only
    split
    · exact yields_error _
    · exact yields_ok kept
  | null | bool _ | integer _ | decimal _ | text _ => exact yields_error _

theorem yields_require {get : σ → Option α} {draft : Draft σ} {field : String}
    (here : ∀ value ∈ get draft.found, good value) : Yields good (draft.require field get) := by
  unfold Draft.require
  split
  next found => exact yields_ok (here _ found)
  next => exact yields_error _

end

end Declarations.Json.Shape
