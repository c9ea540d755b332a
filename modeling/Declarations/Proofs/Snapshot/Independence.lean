/-
This file proves that the fields of each record in an entry can be put into its draft in either
order: each has a place of its own there, and is read without a look at the others.
-/

import Declarations.Proofs.Json.Order
import Declarations.Snapshot.Decoding

namespace Declarations

open Json.Shape (Independent bind_eq_ok pure_eq_ok)

/-! ### Types -/

namespace TypeDraft

variable (one : Json → Except Json.ShapeError TypeExpr)
  (many : Json → Except Json.ShapeError (List TypeExpr))

theorem independent_put :
    Independent fun draft field value =>
      TypeDraft.put draft field value (fun _ => one value) fun _ => many value := by
  intro draft next last first second value other different filled others
  -- Every pair of fields: each is read of its own value, and the two places differ.
  unfold TypeDraft.put at *
  dsimp only at filled others ⊢
  split at filled <;> split at others <;>
    simp only [bind_eq_ok, pure_eq_ok] at filled others ⊢ <;>
    grind

theorem independent_fill (tag : TypeTag) :
    Independent fun draft field value =>
      TypeDraft.fill tag draft field value (fun _ => one value) fun _ => many value :=
  (independent_put one many).ite (· ∈ tag.fields)

end TypeDraft

/-! ### Declarations -/

theorem ParameterDraft.independent_fill : Independent ParameterDraft.fill := by
  intro draft next last first second value other different filled others
  unfold ParameterDraft.fill at *
  split at filled <;> split at others <;>
    simp only [bind_eq_ok, pure_eq_ok] at filled others ⊢ <;>
    grind

namespace KindDraft

theorem independent_fillFunction : Independent fillFunction := by
  intro draft next last first second value other different filled others
  unfold fillFunction at *
  split at filled <;> split at others <;>
    simp only [bind_eq_ok, pure_eq_ok] at filled others ⊢ <;>
    grind

theorem independent_fillClass : Independent fillClass := by
  intro draft next last first second value other different filled others
  unfold fillClass at *
  split at filled <;> split at others <;>
    simp only [bind_eq_ok, pure_eq_ok] at filled others ⊢ <;>
    grind

theorem independent_fillVariable : Independent fillVariable := by
  intro draft next last first second value other different filled others
  unfold fillVariable at *
  split at filled <;> split at others <;>
    simp only [bind_eq_ok, pure_eq_ok] at filled others ⊢ <;>
    grind

theorem independent_fillAlias : Independent fillAlias := by
  intro draft next last first second value other different filled others
  unfold fillAlias at *
  split at filled <;> split at others <;>
    simp only [bind_eq_ok, pure_eq_ok] at filled others ⊢ <;>
    grind

end KindDraft

theorem SpanDraft.independent_fill : Independent SpanDraft.fill := by
  intro draft next last first second value other different filled others
  unfold SpanDraft.fill at *
  split at filled <;> split at others <;>
    simp only [bind_eq_ok, pure_eq_ok] at filled others ⊢ <;>
    grind

theorem EntryDraft.independent_fill
    (many : Json → Except Json.ShapeError (List DeclarationEntry)) :
    Independent fun draft field value => EntryDraft.fill draft field value fun _ => many value := by
  intro draft next last first second value other different filled others
  unfold EntryDraft.fill at *
  dsimp only at filled others ⊢
  split at filled <;> split at others <;>
    simp only [bind_eq_ok, pure_eq_ok] at filled others ⊢ <;>
    grind

/-! ### Modules -/

theorem SymbolDraft.independent_fill : Independent SymbolDraft.fill := by
  intro draft next last first second value other different filled others
  unfold SymbolDraft.fill at *
  split at filled <;> split at others <;>
    simp only [bind_eq_ok, pure_eq_ok] at filled others ⊢ <;>
    grind

theorem ModuleDraft.independent_fill : Independent ModuleDraft.fill := by
  intro draft next last first second value other different filled others
  unfold ModuleDraft.fill at *
  split at filled <;> split at others <;>
    simp only [bind_eq_ok, pure_eq_ok] at filled others ⊢ <;>
    grind

end Declarations
