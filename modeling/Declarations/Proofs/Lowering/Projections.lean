/-
This file proves that each option of lowering only takes something away: a module lowered
without lines, without docstrings or without strict unions is the module lowered with them,
projected. All three are shown at once, for a projection that leads from the types, texts,
docstrings and lines under some options to those under others.
-/

import Declarations.Proofs.Graph.NameIndex
import Declarations.Proofs.Lowering.Sites
import Declarations.Proofs.Lowering.Unions

namespace Declarations

/-! ### Projections -/

/-- What becomes of the parts of a module that options decide on. -/
structure Projection where
  type : TypeExpr → TypeExpr
  /-- What becomes of the default of a parameter and of the value of a variable. -/
  text : Option String → Option String
  docstring : Option String → Option String
  span : Option Span → Option Span

namespace Projection

/-- Erases lines, and the texts of defaults and values. -/
def withoutAsts : Projection :=
  ⟨id, fun _ => none, id, fun _ => none⟩

/-- Erases docstrings. -/
def withoutDocstrings : Projection :=
  ⟨id, id, fun _ => none, id⟩

/-- Rebuilds all unions without the absent value. -/
def loose : Projection :=
  ⟨TypeExpr.loosen, id, id, id⟩

end Projection

section

variable (projection : Projection)

def Parameter.project (parameter : Parameter) : Parameter :=
  { parameter with
    type := parameter.type.map projection.type
    default := projection.text parameter.default }

def Variable.project (info : Variable) : Variable :=
  { info with
    type := info.type.map projection.type
    value := projection.text info.value }

def DeclarationKind.project : DeclarationKind → DeclarationKind
  | .function signature =>
    .function { signature with
      parameters := signature.parameters.map (·.project projection)
      result := signature.result.map projection.type }
  | .classDef heading =>
    .classDef { heading with
      bases := heading.bases.map projection.type
      metaclass := heading.metaclass.map projection.type }
  | .variable info => .variable (info.project projection)
  | .typeAlias target => .typeAlias (projection.type target)

def DeclarationBody.project (body : DeclarationBody) : DeclarationBody :=
  { body with
    kind := body.kind.project projection
    docstring := projection.docstring body.docstring
    span := projection.span body.span }

def Declaration.project (declaration : Declaration) : Declaration :=
  { declaration with toDeclarationBody := declaration.toDeclarationBody.project projection }

theorem Declaration.project_adoptBelow (indices : List Nat) (declarations : List Declaration)
    (parent : Option Nat) :
    (adoptBelow indices declarations parent).map (·.project projection) =
      adoptBelow indices (declarations.map (·.project projection)) parent := by
  cases parent with
  | none => rfl
  | some place =>
    have adopted (declaration : Declaration) :
        (declaration.adopt indices).project projection =
          (declaration.project projection).adopt indices :=
      rfl
    exact map_modify adopted declarations place

namespace Module

/-- All declarations of a module are projected and keep their places. -/
def project (module : Module) : Module :=
  { module with
    docstring := projection.docstring module.docstring
    declarations := module.declarations.map (·.project projection)
    indexed := module.indexed.of_fullnames List.map_map }

theorem project_add (module : Module) (parent : Option Nat) (body : DeclarationBody) :
    (module.add parent body).project projection =
      (module.project projection).add parent (body.project projection) := by
  refine ext_of_declarations rfl rfl rfl rfl rfl ?_ ?_ rfl
  · simp only [project, add, List.length_map]
  · simp only [project, add, List.length_map, List.map_append]
    exact congrArg (· ++ _) (Declaration.project_adoptBelow projection _ _ parent)

end Module

end

/-! ### Types -/

/-- A change of types that keeps every form, and makes the unions of one rule those of
another. -/
structure TypeExpr.Rebuilds (change : TypeExpr → TypeExpr) (strict other : Bool) : Prop where
  any : change .any = .any
  absent : change .absent = .absent
  literal : ∀ values, change (.literal values) = .literal values
  unknown : ∀ text, change (.unknown text) = .unknown text
  builtin : ∀ name arguments,
    change (.builtin name arguments) = .builtin name (arguments.map change)
  named : ∀ reference arguments,
    change (.named reference arguments) = .named reference (arguments.map change)
  tuple : ∀ items, change (.tuple items) = .tuple (items.map change)
  callable : ∀ parameters result,
    change (.callable parameters result) =
      .callable (parameters.map (·.map change)) (change result)
  union : ∀ types,
    change (LoweringContext.union strict types) = LoweringContext.union other (types.map change)

namespace TypeExpr

theorem rebuilds_id (strict : Bool) : Rebuilds id strict strict where
  any := rfl
  absent := rfl
  literal _ := rfl
  unknown _ := rfl
  builtin _ _ := by rw [List.map_id]; rfl
  named _ _ := by rw [List.map_id]; rfl
  tuple _ := by rw [List.map_id]; rfl
  callable _ _ := by simp
  union _ := by rw [List.map_id]; rfl

theorem rebuilds_loosen : Rebuilds loosen true false where
  any := rfl
  absent := rfl
  literal _ := rfl
  unknown _ := rfl
  builtin _ arguments := by rw [loosen, loosenAll_eq_map]
  named _ arguments := by rw [loosen, loosenAll_eq_map]
  tuple items := by rw [loosen, loosenAll_eq_map]
  callable parameters result := by
    cases parameters with
    | none => rfl
    | some types => rw [loosen, loosenGiven, loosenAll_eq_map, Option.map_some]
  union := loosen_union

end TypeExpr

namespace LoweringContext

variable {options others : LoweringOptions} {change : TypeExpr → TypeExpr}
variable (rebuilds : TypeExpr.Rebuilds change options.strictOptional others.strictOptional)

include rebuilds in
theorem bareForm_rebuilds (form : String) : change (bareForm form) = bareForm form := by
  unfold bareForm
  split
  · exact rebuilds.any
  · exact rebuilds.any
  · exact rebuilds.builtin _ []
  · rw [rebuilds.callable, rebuilds.any]
    rfl
  · exact rebuilds.builtin _ []

variable (bindings : ImportBindings) (scopes : List Scope)

include rebuilds in
theorem nameType_rebuilds (name : String) :
    nameType ⟨others, bindings, scopes⟩ name =
      change (nameType ⟨options, bindings, scopes⟩ name) := by
  have same : bind ⟨others, bindings, scopes⟩ name = bind ⟨options, bindings, scopes⟩ name := rfl
  unfold nameType
  rw [same]
  cases bind ⟨options, bindings, scopes⟩ name with
  | builtin builtin => exact (rebuilds.builtin _ []).symm
  | special form => exact (bareForm_rebuilds rebuilds form).symm
  | external full => exact (rebuilds.builtin _ []).symm
  | key key => exact (rebuilds.named _ []).symm

include rebuilds in
theorem formType_rebuilds (form : String) (arguments : List TypeExpr) :
    formType ⟨others, bindings, scopes⟩ form (arguments.map change) =
      change (formType ⟨options, bindings, scopes⟩ form arguments) := by
  have first : (arguments.map change).head?.getD .any = change (arguments.head?.getD .any) := by
    cases arguments with
    | nil => exact rebuilds.any.symm
    | cons first rest => rfl
  unfold formType
  split
  · rw [rebuilds.union, List.map_append, List.map_singleton, rebuilds.absent]
  · exact (rebuilds.union arguments).symm
  · exact (rebuilds.tuple arguments).symm
  · exact first
  · exact first
  · exact first
  · exact rebuilds.any.symm
  · exact rebuilds.any.symm
  · exact (rebuilds.builtin _ arguments).symm

mutual

/-- The type of a hint under other options. -/
theorem typeOf_rebuilds
    (rebuilds : TypeExpr.Rebuilds change options.strictOptional others.strictOptional) :
    (hint : TypeHint) →
      typeOf ⟨others, bindings, scopes⟩ hint = change (typeOf ⟨options, bindings, scopes⟩ hint)
  | .name name => nameType_rebuilds rebuilds bindings scopes name
  | .subscript base arguments => by
    have same : bind ⟨others, bindings, scopes⟩ base = bind ⟨options, bindings, scopes⟩ base := rfl
    rw [typeOf, typeOf, same, typesOf_rebuilds rebuilds arguments]
    split
    · exact callableType_rebuilds rebuilds arguments
    · exact (rebuilds.literal _).symm
    · exact formType_rebuilds rebuilds bindings scopes _ _
    · exact (rebuilds.tuple _).symm
    · exact (rebuilds.builtin _ _).symm
    · exact (rebuilds.builtin _ _).symm
    · exact (rebuilds.named _ _).symm
  | .union members => by
    rw [typeOf, typeOf, rebuilds.union, typesOf_rebuilds rebuilds members]
  | .quoted text => by
    rw [typeOf, typeOf]
    split
    · exact nameType_rebuilds rebuilds bindings scopes text
    · exact (rebuilds.unknown text).symm
  | .absent => rebuilds.absent.symm
  | .ellipsis | .list _ | .literal _ | .other _ => (rebuilds.unknown _).symm

theorem typesOf_rebuilds
    (rebuilds : TypeExpr.Rebuilds change options.strictOptional others.strictOptional) :
    (hints : List TypeHint) →
      typesOf ⟨others, bindings, scopes⟩ hints =
        (typesOf ⟨options, bindings, scopes⟩ hints).map change
  | [] => rfl
  | hint :: rest => by
    rw [typesOf, typesOf, List.map_cons, typeOf_rebuilds rebuilds hint,
      typesOf_rebuilds rebuilds rest]

theorem callableType_rebuilds
    (rebuilds : TypeExpr.Rebuilds change options.strictOptional others.strictOptional)
    (hints : List TypeHint) :
    callableType ⟨others, bindings, scopes⟩ hints =
      change (callableType ⟨options, bindings, scopes⟩ hints) := by
  unfold callableType
  split
  next result =>
    rw [rebuilds.callable, typeOf_rebuilds rebuilds result]
    rfl
  next items result =>
    rw [rebuilds.callable, typeOf_rebuilds rebuilds result, typesOf_rebuilds rebuilds items]
    rfl
  next parameter result _ _ =>
    rw [rebuilds.callable, typeOf_rebuilds rebuilds result, typeOf_rebuilds rebuilds parameter]
    rfl
  next =>
    rw [rebuilds.callable, rebuilds.any]
    rfl

end

end LoweringContext

/-! ### Declarations -/

namespace LoweringContext

variable (options others : LoweringOptions) (bindings : ImportBindings) (scopes : List Scope)

mutual

/-- What reads like a type alias does so under all options. -/
theorem looksLikeAlias_options : (hint : TypeHint) →
    looksLikeAlias ⟨others, bindings, scopes⟩ hint =
      looksLikeAlias ⟨options, bindings, scopes⟩ hint
  | .union members => membersLookLikeAlias_options members
  | .subscript _ _ | .name _ | .absent | .ellipsis | .quoted _ | .list _ | .literal _
  | .other _ => rfl

theorem membersLookLikeAlias_options : (members : List TypeHint) →
    membersLookLikeAlias ⟨others, bindings, scopes⟩ members =
      membersLookLikeAlias ⟨options, bindings, scopes⟩ members
  | [] => rfl
  | member :: rest => by
    have first := looksLikeAlias_options member
    have after := membersLookLikeAlias_options rest
    unfold membersLookLikeAlias
    rw [after]
    split
    · rfl
    · rfl
    · rw [first]

end

end LoweringContext

/-- Whether a projection leads from what is made under some options to what is made under
others. -/
structure Projection.Leads (projection : Projection) (options others : LoweringOptions) :
    Prop where
  types : TypeExpr.Rebuilds projection.type options.strictOptional others.strictOptional
  text : ∀ text, (if others.preserveAsts then text else none) =
    projection.text (if options.preserveAsts then text else none)
  docstring : ∀ docstring, (if others.includeDocstrings then docstring else none) =
    projection.docstring (if options.includeDocstrings then docstring else none)
  span : ∀ span, (if others.preserveAsts then some span else none) =
    projection.span (if options.preserveAsts then some span else none)

theorem Projection.Leads.docstring_none {projection : Projection}
    {options others : LoweringOptions} (leads : projection.Leads options others) :
    projection.docstring none = none := by
  have missing := leads.docstring none
  rwa [ite_self, ite_self, eq_comm] at missing

namespace LoweringContext

variable {projection : Projection} {options others : LoweringOptions}
variable (leads : projection.Leads options others)
variable (bindings : ImportBindings) (scopes : List Scope)
include leads

theorem hint_leads (hint : Option TypeHint) :
    hint.map (typeOf ⟨others, bindings, scopes⟩) =
      (hint.map (typeOf ⟨options, bindings, scopes⟩)).map projection.type := by
  rw [Option.map_map]
  exact Option.map_congr fun hint _ => typeOf_rebuilds bindings scopes leads.types hint

theorem parameter_leads (outline : ParameterOutline) :
    parameter ⟨others, bindings, scopes⟩ outline =
      (parameter ⟨options, bindings, scopes⟩ outline).project projection := by
  unfold parameter Parameter.project
  rw [hint_leads leads, preserved, leads.text]
  rfl

theorem function_leads (scope : String) (outline : FunctionOutline) :
    function ⟨others, bindings, scopes⟩ scope outline =
      (function ⟨options, bindings, scopes⟩ scope outline).project projection := by
  have parameters : outline.parameters.map (parameter ⟨others, bindings, scopes⟩) =
      (outline.parameters.map (parameter ⟨options, bindings, scopes⟩)).map
        (·.project projection) := by
    rw [List.map_map]
    exact List.map_congr_left fun outline _ => parameter_leads leads bindings scopes outline
  unfold function
  rw [parameters, hint_leads leads, documented, leads.docstring, span, leads.span]
  rfl

theorem classHeading_leads (scope : String) (outline : ClassOutline) :
    classHeading ⟨others, bindings, scopes⟩ scope outline =
      (classHeading ⟨options, bindings, scopes⟩ scope outline).project projection := by
  have bases : outline.bases.map (typeOf ⟨others, bindings, scopes⟩) =
      (outline.bases.map (typeOf ⟨options, bindings, scopes⟩)).map projection.type := by
    rw [List.map_map]
    exact List.map_congr_left fun hint _ => typeOf_rebuilds bindings scopes leads.types hint
  unfold classHeading
  rw [bases, hint_leads leads, documented, leads.docstring, span, leads.span]
  rfl

theorem typed_leads (value : Option String) (hint : TypeHint) :
    (⟨some (typeOf ⟨others, bindings, scopes⟩ hint), false, false, projection.text value⟩ :
        Variable) =
      Variable.project projection
        ⟨some (typeOf ⟨options, bindings, scopes⟩ hint), false, false, value⟩ := by
  rw [typeOf_rebuilds bindings scopes leads.types hint]
  rfl

theorem variableOf_leads (value : Option String) : (hint : TypeHint) →
    variableOf ⟨others, bindings, scopes⟩ (projection.text value) hint =
      (variableOf ⟨options, bindings, scopes⟩ value hint).project projection
  | .name name => by
    have same : bind ⟨others, bindings, scopes⟩ name = bind ⟨options, bindings, scopes⟩ name := rfl
    rw [variableOf, variableOf, same]
    split
    · rfl
    · rfl
    · exact typed_leads leads bindings scopes value _
  | .subscript base arguments => by
    have head : ∀ inner rest, arguments = inner :: rest →
        variableOf ⟨others, bindings, scopes⟩ (projection.text value) inner =
          (variableOf ⟨options, bindings, scopes⟩ value inner).project projection :=
      fun inner rest same => variableOf_leads value inner
    have same : bind ⟨others, bindings, scopes⟩ base = bind ⟨options, bindings, scopes⟩ base := rfl
    unfold variableOf
    rw [same]
    split
    · rw [head _ _ rfl]
      rfl
    · rfl
    · rw [head _ _ rfl]
      rfl
    · rfl
    · exact typed_leads leads bindings scopes value _
  | .union _ | .absent | .ellipsis | .quoted _ | .list _ | .literal _ | .other _ =>
    typed_leads leads bindings scopes value _

theorem alias_leads (target : TypeHint) :
    DeclarationKind.typeAlias (typeOf ⟨others, bindings, scopes⟩ target) =
      (DeclarationKind.typeAlias (typeOf ⟨options, bindings, scopes⟩ target)).project
        projection := by
  rw [typeOf_rebuilds bindings scopes leads.types target]
  rfl

theorem kind_assignment_leads (isTop : Bool) (scope : String) (outline : AssignmentOutline) :
    (assignment ⟨others, bindings, scopes⟩ isTop scope outline).kind =
      (assignment ⟨options, bindings, scopes⟩ isTop scope outline).kind.project projection := by
  have declares : declaresAlias ⟨others, bindings, scopes⟩ outline.hint =
      declaresAlias ⟨options, bindings, scopes⟩ outline.hint := rfl
  have value : preserved ⟨others, bindings, scopes⟩ outline.value =
      projection.text (preserved ⟨options, bindings, scopes⟩ outline.value) :=
    leads.text outline.value
  rw [kind_assignment, kind_assignment, declares, value]
  simp only [looksLikeAlias_options options others]
  split
  · cases outline.valueType with
    | some target => exact alias_leads leads bindings scopes target
    | none => exact congrArg DeclarationKind.typeAlias (leads.types.unknown _).symm
  · cases outline.hint with
    | some hint =>
      exact congrArg DeclarationKind.variable (variableOf_leads leads bindings scopes _ hint)
    | none =>
      cases outline.valueType with
      | none => rfl
      | some target =>
        show ite _ _ _ = DeclarationKind.project projection (ite _ _ _)
        split
        · exact alias_leads leads bindings scopes target
        · rfl

theorem assignment_leads (isTop : Bool) (scope : String) (outline : AssignmentOutline) :
    assignment ⟨others, bindings, scopes⟩ isTop scope outline =
      (assignment ⟨options, bindings, scopes⟩ isTop scope outline).project projection := by
  refine DeclarationBody.mk.injEq .. ▸ ⟨rfl, rfl, ?_, ?_, ?_⟩
  · exact kind_assignment_leads leads bindings scopes isTop scope outline
  · exact leads.docstring_none.symm
  · exact leads.span _

theorem typeAlias_leads (scope name : String) (value : TypeHint) (line : Nat) :
    typeAlias ⟨others, bindings, scopes⟩ scope name value line =
      (typeAlias ⟨options, bindings, scopes⟩ scope name value line).project projection := by
  refine DeclarationBody.mk.injEq .. ▸ ⟨rfl, rfl, ?_, ?_, ?_⟩
  · exact alias_leads leads bindings scopes value
  · exact leads.docstring_none.symm
  · exact leads.span _

end LoweringContext

/-! ### Modules -/

namespace Module

variable {projection : Projection} {options others : LoweringOptions}

mutual

/-- An item adds its declarations under other options as it adds them projected. -/
theorem addItem_leads (leads : projection.Leads options others) (bindings : ImportBindings) :
    (item : Item) → (scopes : List Scope) → (parent : Option Nat) → (scope : String) →
      (module : Module) →
        addItem ⟨others, bindings, scopes⟩ parent scope item (module.project projection) =
          (addItem ⟨options, bindings, scopes⟩ parent scope item module).project projection
  | .classDef header body, scopes, parent, scope, module => by
    have heading := LoweringContext.classHeading_leads leads bindings scopes scope header
    have length : (module.project projection).declarations.length = module.declarations.length :=
      List.length_map _
    rw [addItem, addItem, heading, length]
    rw [← project_add]
    exact addItems_leads leads bindings body _ _ _ _ _
  | .function outline, scopes, parent, scope, module => by
    rw [addItem, addItem, LoweringContext.function_leads leads, project_add]
  | .assignment outline, scopes, parent, scope, module => by
    rw [addItem, addItem, LoweringContext.assignment_leads leads, project_add]
  | .typeAlias name value line, scopes, parent, scope, module => by
    rw [addItem, addItem, LoweringContext.typeAlias_leads leads, project_add]

theorem addItems_leads (leads : projection.Leads options others) (bindings : ImportBindings) :
    (items : List Item) → (scopes : List Scope) → (parent : Option Nat) → (scope : String) →
      (assigned : List String) → (module : Module) →
        addItems ⟨others, bindings, scopes⟩ parent scope assigned items
            (module.project projection) =
          (addItems ⟨options, bindings, scopes⟩ parent scope assigned items module).project
            projection
  | [], scopes, parent, scope, assigned, module => by rw [addItems, addItems]
  | item :: rest, scopes, parent, scope, assigned, module => by
    rw [addItems_cons, addItems_cons]
    split
    · exact addItems_leads leads bindings rest scopes parent scope assigned module
    · rw [addItem_leads leads bindings item]
      exact addItems_leads leads bindings rest scopes parent scope _ _

end

/-- A module lowered under other options is the projected module. -/
theorem ofOutline_leads (leads : projection.Leads options others) (name : String) (path : Path)
    (outline : Outline) :
    ofOutline others name path outline =
      (ofOutline options name path outline).project projection := by
  unfold ofOutline
  rw [← addItems_leads leads]
  refine congrArg _ (Module.ext rfl rfl ?_ rfl rfl rfl rfl rfl rfl)
  exact leads.docstring outline.docstring

/-- What a module has under all options: the names, kinds and places of its declarations. -/
def shape (module : Module) :
    List Nat × List (String × String × String × Option Nat × List Nat) :=
  (module.roots, module.declarations.map fun declaration =>
    (declaration.name, declaration.fullname, declaration.kind.tag, declaration.parent,
      declaration.children))

theorem shape_project (projection : Projection) (module : Module) :
    (module.project projection).shape = module.shape := by
  have each (declaration : Declaration) :
      (declaration.project projection).kind.tag = declaration.kind.tag := by
    show (declaration.kind.project projection).tag = declaration.kind.tag
    cases declaration.kind <;> rfl
  unfold shape project
  rw [List.map_map]
  refine congrArg _ (List.map_congr_left fun declaration _ => ?_)
  rw [Function.comp, each]
  rfl

theorem shape_leads (leads : projection.Leads options others) (name : String) (path : Path)
    (outline : Outline) :
    (ofOutline others name path outline).shape = (ofOutline options name path outline).shape := by
  rw [ofOutline_leads leads, shape_project]

end Module

namespace Projection

theorem leads_withoutAsts (options : LoweringOptions) :
    withoutAsts.Leads { options with preserveAsts := true }
      { options with preserveAsts := false } where
  types := TypeExpr.rebuilds_id _
  text _ := rfl
  docstring _ := rfl
  span _ := rfl

theorem leads_withoutDocstrings (options : LoweringOptions) :
    withoutDocstrings.Leads { options with includeDocstrings := true }
      { options with includeDocstrings := false } where
  types := TypeExpr.rebuilds_id _
  text _ := rfl
  docstring _ := rfl
  span _ := rfl

theorem leads_loose (options : LoweringOptions) :
    loose.Leads { options with strictOptional := true }
      { options with strictOptional := false } where
  types := TypeExpr.rebuilds_loosen
  text _ := rfl
  docstring _ := rfl
  span _ := rfl

end Projection

/-- Of the options of a build three decide on a module, and switching one of them off takes
away what that option is about: lines and the texts of values, docstrings, or the absent value
in unions. So the declarations have the same names, kinds and places under all options. -/
theorem Module.ofOutline_options (options : BuildOptions) (name : String) (path : Path)
    (outline : Outline) :
    ofOutline options name path outline =
        ofOutline ⟨options.strictOptional, options.preserveAsts, options.includeDocstrings⟩
          name path outline ∧
      ofOutline { options with preserveAsts := false } name path outline =
        (ofOutline { options with preserveAsts := true } name path outline).project
          .withoutAsts ∧
      ofOutline { options with includeDocstrings := false } name path outline =
        (ofOutline { options with includeDocstrings := true } name path outline).project
          .withoutDocstrings ∧
      ofOutline { options with strictOptional := false } name path outline =
        (ofOutline { options with strictOptional := true } name path outline).project .loose ∧
      ∀ others : BuildOptions,
        (ofOutline options name path outline).shape =
          (ofOutline others name path outline).shape := by
  have least (options : LoweringOptions) :
      (ofOutline options name path outline).shape =
        (ofOutline ⟨false, false, false⟩ name path outline).shape := by
    obtain ⟨strict, asts, docstrings⟩ := options
    calc (ofOutline ⟨strict, asts, docstrings⟩ name path outline).shape
        = (ofOutline ⟨strict, false, docstrings⟩ name path outline).shape := by
          cases asts with
          | false => rfl
          | true => exact (shape_leads (Projection.leads_withoutAsts ⟨strict, true, docstrings⟩)
              name path outline).symm
      _ = (ofOutline ⟨strict, false, false⟩ name path outline).shape := by
          cases docstrings with
          | false => rfl
          | true => exact (shape_leads (Projection.leads_withoutDocstrings ⟨strict, false, true⟩)
              name path outline).symm
      _ = (ofOutline ⟨false, false, false⟩ name path outline).shape := by
          cases strict with
          | false => rfl
          | true => exact (shape_leads (Projection.leads_loose ⟨true, false, false⟩)
              name path outline).symm
  exact ⟨rfl, ofOutline_leads (Projection.leads_withoutAsts options.lowering) name path outline,
    ofOutline_leads (Projection.leads_withoutDocstrings options.lowering) name path outline,
    ofOutline_leads (Projection.leads_loose options.lowering) name path outline,
    fun others => (least options.lowering).trans (least others.lowering).symm⟩

end Declarations
