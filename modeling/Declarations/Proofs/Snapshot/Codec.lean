/-
This file proves that an entry which was written as JSON is the same entry when it is read back,
with its references as keys that were not looked up. It is so where the fields come back as they
were written, as in a text that is read part by part, and where they come back in ascending
order, as in a snapshot.
-/

import Declarations.Proofs.Snapshot.Independence
import Declarations.Proofs.Snapshot.Layout

namespace Declarations

open Json (Order Shape ShapeError Standing)

/-! ### Steps of reading -/

theorem bind_ok {ε α β : Type} {first : Except ε α} {next : α → Except ε β} {value : α}
    {result : Except ε β} (given : first = .ok value) (goesOn : next value = result) :
    first >>= next = result := by
  rw [given]
  exact goesOn

namespace Json.Shape

theorem fill_cons {σ : Type} {read : σ → String → Shape σ} {draft next last : σ}
    {field : String} {value : Json} {rest : List (String × Json)}
    (filled : read draft field value = .ok next) (others : fill read next rest = .ok last) :
    fill read draft ((field, value) :: rest) = .ok last :=
  bind_ok filled others

theorem fill_append {σ : Type} {read : σ → String → Shape σ} {draft next last : σ}
    {first second : List (String × Json)} (filled : fill read draft first = .ok next)
    (others : fill read next second = .ok last) :
    fill read draft (first ++ second) = .ok last := by
  rw [fill, List.foldlM_append]
  exact bind_ok filled others

variable (order : Order) {α β : Type} {encode : α → Json} {shape : Shape β} {made : α → β}

theorem text_apply (value : String) : Shape.text (order.apply (.text value)) = .ok value := by
  rw [order.apply_text]
  rfl

theorem bool_apply (value : Bool) : Shape.bool (order.apply (.bool value)) = .ok value := by
  rw [order.apply_bool]
  rfl

theorem list_apply (reads : ∀ item, shape (order.apply (encode item)) = .ok (made item))
    (items : List α) :
    Shape.list shape (order.apply (.list (items.map encode))) = .ok (items.map made) := by
  rw [order.apply_list, List.map_map]
  show (items.map _).mapM shape = _
  induction items with
  | nil => rfl
  | cons first rest hypothesis =>
    rw [List.map_cons, List.mapM_cons]
    exact bind_ok (reads first) (bind_ok hypothesis rfl)

theorem list_texts (texts : List String) :
    Shape.list Shape.text (order.apply (ofTexts texts)) = .ok texts := by
  have read : ∀ item, Shape.text (order.apply (.text item)) = .ok (id item) := text_apply order
  have all := list_apply order read texts
  rwa [List.map_id] at all

/-- A value that may be absent is read as such when no value is written as null. -/
theorem optional_apply (solid : ∀ item, order.apply (encode item) ≠ .null)
    (reads : ∀ item, shape (order.apply (encode item)) = .ok (made item)) (given : Option α) :
    Shape.optional shape (order.apply (Json.ofOption encode given)) = .ok (given.map made) := by
  cases given with
  | none =>
    rw [ofOption, order.apply_null]
    rfl
  | some item =>
    rw [Json.ofOption, optional, reads]
    · rfl
    · exact solid item

theorem optional_text (given : Option String) :
    Shape.optional Shape.text (order.apply (Json.ofOption .text given)) = .ok given := by
  have read : ∀ item, Shape.text (order.apply (.text item)) = .ok (id item) := text_apply order
  have solid : ∀ item, order.apply (.text item) ≠ .null := by
    intro item
    rw [order.apply_text]
    nofun
  have all := optional_apply order solid read given
  rwa [Option.map_id, id] at all

theorem lookup_text_of_perm {fields given : List (String × Json)}
    (permuted : (order.applyInside fields).Perm given) (distinct : (given.map (·.1)).Nodup)
    {name value : String} (written : fields.lookup name = some (.text value)) :
    given.lookup name = some (.text value) := by
  rw [lookup_of_perm permuted.symm distinct, order.lookup_applyInside, written]
  exact congrArg some (order.apply_text value)

theorem tagOf_of_lookup {known : List (String × α)} {standing : Standing} {word : String}
    {value : α} {given : List (String × Json)} (distinct : (given.map (·.1)).Nodup)
    (tagged : given.lookup tagField = some (.text word)) (stands : known.lookup word = some value) :
    tagOf standing known given = .ok value := by
  have isTag : Shape.tag standing known (.text word) = .ok value := by
    rw [Shape.tag, Shape.ofWord, stands]
  refine bind_ok (once_of_nodup _ distinct) ?_
  rw [tagged]
  exact isTag

end Json.Shape

/-! ### Types -/

namespace TypeExpr

variable (order : Order) {standing : Standing}

theorem ofFields_eq_fill (tag : TypeTag) (draft : TypeDraft) (fields : List (String × Json)) :
    ofFields tag draft fields =
      Shape.fill (fun draft field value =>
        draft.fill tag field value (fun _ => ofJson .aside value) fun _ => ofJsonAll value)
        draft fields := by
  induction fields generalizing draft with
  | nil => rw [ofFields]; rfl
  | cons field rest hypothesis =>
    obtain ⟨name, value⟩ := field
    rw [ofFields]
    exact congrArg (bind _) (funext hypothesis)

/-- A type is read from its tag and its fields, in whichever order they stand. -/
theorem ofJson_apply {fields : List (String × Json)} {tag : TypeTag} {draft : TypeDraft}
    {type : TypeExpr} (distinct : (fields.map (·.1)).Nodup)
    (tagged : fields.lookup Json.tagField = some (.text tag.word))
    (found : ofFields tag {} (order.applyInside fields) = .ok draft)
    (finished : TypeDraft.finish tag ⟨draft, .missing⟩ = .ok type) :
    ofJson standing (order.apply (.object fields)) = .ok type := by
  obtain ⟨given, apply, permuted, distinctGiven⟩ := order.exists_perm_apply distinct
  have distinctInside := Json.nodup_names_of_perm permuted.symm distinctGiven
  have isKnown : TypeTag.known.lookup tag.word = some tag := by
    cases tag <;> rfl
  have filled : ofFields tag {} given = .ok draft := by
    rw [ofFields_eq_fill] at found ⊢
    exact Shape.fill_perm (TypeDraft.independent_fill _ _ tag) permuted distinctInside found
  rw [apply, ofJson]
  have found := Shape.lookup_text_of_perm order permuted distinctGiven tagged
  exact bind_ok (Shape.tagOf_of_lookup distinctGiven found isKnown)
    (bind_ok (Shape.once_of_nodup tag.fields distinctGiven) (bind_ok filled finished))

theorem ofFields_cons {tag : TypeTag} {draft next last : TypeDraft} {field : String} {value : Json}
    {rest : List (String × Json)}
    (filled : draft.fill tag field value (fun _ => ofJson .aside value) (fun _ => ofJsonAll value) =
      .ok next)
    (others : ofFields tag next rest = .ok last) :
    ofFields tag draft ((field, value) :: rest) = .ok last := by
  rw [ofFields]
  exact bind_ok filled others

theorem ofJsonAll_apply (items : List Json) :
    ofJsonAll (order.apply (.list items)) = ofJsonEach (items.map order.apply) := by
  rw [order.apply_list, ofJsonAll]

/-- A type may have arguments, which stand behind its other fields. -/
theorem nodup_withArguments {tag : TypeTag} {field : String} {value : Json}
    (notTag : field ≠ Json.tagField) (other : field ≠ "args") (arguments : List TypeExpr) :
    (([tag.field, (field, value)] ++ Json.nonemptyField "args" (toJsonAll arguments)).map
      (·.1)).Nodup := by
  have tagged : Json.tagField ≠ "args" := by decide
  cases arguments <;>
    simp [TypeTag.field, toJsonAll, Json.nonemptyField, notTag.symm, other, tagged]

theorem ofFields_arguments {tag : TypeTag} {draft : TypeDraft} {arguments read : List TypeExpr}
    (has : "args" ∈ tag.fields)
    (inner : ofJsonEach ((toJsonAll arguments).map order.apply) = .ok read)
    (empty : draft.arguments = []) :
    ofFields tag draft (order.applyInside (Json.nonemptyField "args" (toJsonAll arguments))) =
      .ok { draft with arguments := read } := by
  cases arguments with
  | nil =>
    obtain rfl : [] = read := Except.ok.inj inner
    have same : { draft with arguments := [] } = draft := by
      rw [← empty]
    rw [same]
    exact ofFields_eq_fill tag draft []
  | cons first rest =>
    have many := (ofJsonAll_apply order _).trans inner
    refine ofFields_cons ?_ (ofFields_eq_fill tag _ [])
    rw [TypeDraft.fill, if_pos has]
    exact bind_ok many rfl

mutual

theorem ofJson_toJson (standing : Standing) : (type : TypeExpr) →
    ofJson standing (order.apply type.toJson) = .ok (type.mapReferences Reference.forget)
  | .any | .absent => by cases order <;> rfl
  | .builtin name arguments => by
    have text := Shape.text_apply order name
    have inner := ofJsonEach_toJsonAll arguments
    rw [toJson]
    exact ofJson_apply order (nodup_withArguments (by decide) (by decide) arguments) rfl
      (ofFields_cons rfl (ofFields_cons (bind_ok text rfl)
        (ofFields_arguments order (by decide) inner rfl))) rfl
  | .named reference arguments => by
    have text := Shape.text_apply order reference.key
    have inner := ofJsonEach_toJsonAll arguments
    rw [toJson]
    exact ofJson_apply order (nodup_withArguments (by decide) (by decide) arguments) rfl
      (ofFields_cons rfl (ofFields_cons (bind_ok text rfl)
        (ofFields_arguments order (by decide) inner rfl))) rfl
  | .union members => by
    have inner := (ofJsonAll_apply order _).trans (ofJsonEach_toJsonAll members)
    rw [toJson]
    exact ofJson_apply order (by simp [TypeTag.field, Json.tagField]) rfl
      (ofFields_cons rfl (ofFields_cons (bind_ok inner rfl) rfl)) rfl
  | .tuple items => by
    have inner := (ofJsonAll_apply order _).trans (ofJsonEach_toJsonAll items)
    rw [toJson]
    exact ofJson_apply order (by simp [TypeTag.field, Json.tagField]) rfl
      (ofFields_cons rfl (ofFields_cons (bind_ok inner rfl) rfl)) rfl
  | .callable parameters result => by
    have value := ofJson_toJson .aside result
    have given := optional_toJsonGiven parameters
    rw [toJson]
    exact ofJson_apply order (by simp [TypeTag.field, Json.tagField]) rfl
      (ofFields_cons rfl (ofFields_cons (bind_ok given rfl)
        (ofFields_cons (bind_ok value rfl) rfl))) rfl
  | .literal values => by
    have inner := Shape.list_texts order values
    rw [toJson]
    exact ofJson_apply order (by simp [TypeTag.field, Json.tagField]) rfl
      (ofFields_cons rfl (ofFields_cons (bind_ok inner rfl) rfl)) rfl
  | .unknown spelling => by
    have text := Shape.text_apply order spelling
    rw [toJson]
    exact ofJson_apply order (by simp [TypeTag.field, Json.tagField]) rfl
      (ofFields_cons rfl (ofFields_cons (bind_ok text rfl) rfl)) rfl

theorem optional_toJsonGiven : (given : Option (List TypeExpr)) →
    Shape.optional (fun _ => ofJsonAll (order.apply (toJsonGiven given)))
      (order.apply (toJsonGiven given)) =
        .ok (mapReferencesGiven Reference.forget given)
  | none => by cases order <;> rfl
  | some types => by
    have inner := (ofJsonAll_apply order _).trans (ofJsonEach_toJsonAll types)
    rw [toJsonGiven, Shape.optional, inner]
    · rfl
    · rw [order.apply_list]
      nofun

theorem ofJsonEach_toJsonAll : (types : List TypeExpr) →
    ofJsonEach ((toJsonAll types).map order.apply) =
      .ok (mapReferencesAll Reference.forget types)
  | [] => rfl
  | first :: rest => by
    rw [toJsonAll, List.map_cons, ofJsonEach, ofJson_toJson .aside first,
      ofJsonEach_toJsonAll rest]
    rfl

end

end TypeExpr

/-! ### Declarations -/

namespace TypeExpr

variable (order : Order)

theorem apply_toJson_ne_null (type : TypeExpr) : order.apply type.toJson ≠ .null := by
  cases order <;> cases type <;> nofun

theorem optional_toJson (type : Option TypeExpr) :
    Shape.optional (ofJson .aside) (order.apply (Json.ofOption toJson type)) =
      .ok (type.map (mapReferences Reference.forget)) :=
  Shape.optional_apply order (apply_toJson_ne_null order) (ofJson_toJson order .aside) type

theorem list_toJson (types : List TypeExpr) :
    Shape.list (ofJson .aside) (order.apply (Json.list (types.map toJson))) =
      .ok (types.map (mapReferences Reference.forget)) :=
  Shape.list_apply order (ofJson_toJson order .aside) types

end TypeExpr

theorem Parameter.ofJson_toJson (order : Order) (parameter : Parameter) :
    ofJson (order.apply parameter.toJson) =
      .ok { parameter with type := parameter.type.map (TypeExpr.mapReferences .forget) } := by
  have kind : Shape.word .aside ArgumentKind.known (order.apply (.text parameter.kind.word)) =
      .ok parameter.kind := by
    rw [order.apply_text]
    cases parameter.kind <;> rfl
  have name := Shape.text_apply order parameter.name
  have default := Shape.optional_text order parameter.default
  have type := TypeExpr.optional_toJson order parameter.type
  rw [toJson]
  refine bind_ok (Shape.record_apply ParameterDraft.independent_fill order (by simp)
    (Shape.fill_cons (bind_ok name rfl) (Shape.fill_cons (bind_ok kind rfl)
      (Shape.fill_cons (bind_ok type rfl) (Shape.fill_cons (bind_ok default rfl) rfl)))) _ _ _) ?_
  rfl

theorem Shape.lineNumber_toNat (order : Order) (line : UInt64) :
    Shape.lineNumber (order.apply (.ofNat line.toNat)) = .ok line := by
  have fits : (0 : Int) ≤ line.toNat ∧ (line.toNat : Int) < Nat.pow 2 64 :=
    ⟨Int.natCast_nonneg _, Int.ofNat_lt.2 line.toNat_lt⟩
  rw [Shape.lineNumber, Json.ofNat, order.apply_integer, Shape.natural, if_pos fits]
  exact congrArg Except.ok UInt64.ofNat_toNat

theorem Span.ofJson_toJson (order : Order) (span : Span) :
    ofJson (order.apply span.toJson) = .ok span := by
  have first := Shape.lineNumber_toNat order span.first
  have last := Shape.lineNumber_toNat order span.last
  rw [toJson]
  refine bind_ok (Shape.record_apply SpanDraft.independent_fill order (by simp)
    (Shape.fill_cons (bind_ok first rfl) (Shape.fill_cons (bind_ok last rfl) rfl)) _ _ _) ?_
  rfl

namespace DeclarationKind

/-- The names of the fields that depend on the kind of a declaration. -/
def fieldNames : DeclarationKind → List String
  | .function _ => functionFields
  | .classDef _ => classFields
  | .variable _ => variableFields
  | .typeAlias _ => aliasFields

/-- Whether a field depends on the kind of a declaration. -/
def hasField (kind : DeclarationKind) (name : String) : Bool :=
  kind.fieldNames.contains name

theorem fillFunction_passes (signature : Signature) (draft : KindDraft) (field : String)
    (value : Json) (other : hasField (.function signature) field = false) :
    draft.fillFunction field value = .ok draft := by
  unfold KindDraft.fillFunction
  split <;> first | rfl | simp [hasField, fieldNames, functionFields] at other

theorem fillClass_passes (heading : ClassHeading) (draft : KindDraft) (field : String)
    (value : Json) (other : hasField (.classDef heading) field = false) :
    draft.fillClass field value = .ok draft := by
  unfold KindDraft.fillClass
  split <;> first | rfl | simp [hasField, fieldNames, classFields] at other

theorem fillVariable_passes (info : Variable) (draft : KindDraft) (field : String)
    (value : Json) (other : hasField (.variable info) field = false) :
    draft.fillVariable field value = .ok draft := by
  unfold KindDraft.fillVariable
  split <;> first | rfl | simp [hasField, fieldNames, variableFields] at other

theorem fillAlias_passes (target : TypeExpr) (draft : KindDraft) (field : String)
    (value : Json) (other : hasField (.typeAlias target) field = false) :
    draft.fillAlias field value = .ok draft := by
  unfold KindDraft.fillAlias
  split <;> first | rfl | simp [hasField, fieldNames, aliasFields] at other

theorem nodup_fields (kind : DeclarationKind) : (kind.fields.map (·.1)).Nodup := by
  cases kind <;> simp [fields]

variable (order : Order)

/-- The fields of a kind are read from an object that holds others as well. -/
theorem fill_of_perm {read : KindDraft → String → Shape KindDraft}
    (independent : Shape.Independent read) {kind : DeclarationKind}
    (passes : ∀ draft field value, kind.hasField field = false →
      read draft field value = .ok draft)
    {given : List (String × Json)} {found : KindDraft} (distinct : (given.map (·.1)).Nodup)
    (own : (order.applyInside kind.fields).Perm (Json.keepFields kind.hasField given))
    (filled : Shape.fill read {} (order.applyInside kind.fields) = .ok found)
    (known : List String) : KindDraft.read known read given = .ok ⟨found, .missing⟩ := by
  have distinctInside := order.names_applyInside kind.fields ▸ kind.nodup_fields
  have whole : Shape.fill read {} given = .ok found := by
    rw [Shape.fill_keepFields passes]
    exact Shape.fill_perm independent own distinctInside filled
  exact bind_ok (Shape.once_of_nodup known distinct) (bind_ok whole rfl)

theorem ofFields_of_perm {given : List (String × Json)} (distinct : (given.map (·.1)).Nodup) :
    (kind : DeclarationKind) →
    given.lookup Json.tagField = some (.text kind.entryTag) →
    (order.applyInside kind.fields).Perm (Json.keepFields kind.hasField given) →
      ofFields given = .ok (kind.mapReferences Reference.forget)
  | .function signature, tagged, own => by
    have parameters := Shape.list_apply order (Parameter.ofJson_toJson order) signature.parameters
    have result := TypeExpr.optional_toJson order signature.result
    have decorators := Shape.list_texts order signature.decorators
    have flag := Shape.bool_apply order
    refine bind_ok (Shape.tagOf_of_lookup distinct tagged rfl) (bind_ok
      (fill_of_perm order KindDraft.independent_fillFunction
      (fillFunction_passes signature) distinct own
      (Shape.fill_cons (bind_ok parameters rfl) (Shape.fill_cons (bind_ok result rfl)
        (Shape.fill_cons (bind_ok (flag _) rfl) (Shape.fill_cons (bind_ok decorators rfl)
          (Shape.fill_cons (bind_ok (flag _) rfl) (Shape.fill_cons (bind_ok (flag _) rfl)
            (Shape.fill_cons (bind_ok (flag _) rfl)
              (Shape.fill_cons (bind_ok (flag _) rfl) rfl)))))))) _) ?_)
    rfl
  | .classDef heading, tagged, own => by
    have bases := TypeExpr.list_toJson order heading.bases
    have metaclass := TypeExpr.optional_toJson order heading.metaclass
    have decorators := Shape.list_texts order heading.decorators
    refine bind_ok (Shape.tagOf_of_lookup distinct tagged rfl) (bind_ok
      (fill_of_perm order KindDraft.independent_fillClass
      (fillClass_passes heading) distinct own
      (Shape.fill_cons (bind_ok bases rfl) (Shape.fill_cons (bind_ok metaclass rfl)
        (Shape.fill_cons (bind_ok decorators rfl) rfl))) _) ?_)
    rfl
  | .variable info, tagged, own => by
    have type := TypeExpr.optional_toJson order info.type
    have value := Shape.optional_text order info.value
    have flag := Shape.bool_apply order
    refine bind_ok (Shape.tagOf_of_lookup distinct tagged rfl) (bind_ok
      (fill_of_perm order KindDraft.independent_fillVariable
      (fillVariable_passes info) distinct own
      (Shape.fill_cons (bind_ok type rfl) (Shape.fill_cons (bind_ok (flag _) rfl)
        (Shape.fill_cons (bind_ok (flag _) rfl)
          (Shape.fill_cons (bind_ok value rfl) rfl)))) _) ?_)
    rfl
  | .typeAlias target, tagged, own => by
    have type := TypeExpr.ofJson_toJson order .aside target
    refine bind_ok (Shape.tagOf_of_lookup distinct tagged rfl) (bind_ok
      (fill_of_perm order KindDraft.independent_fillAlias
      (fillAlias_passes target) distinct own (Shape.fill_cons (bind_ok type rfl) rfl) _) ?_)
    rfl

end DeclarationKind

/-! ### Entries -/

namespace DeclarationEntry

/-- Whether a field of a declaration does not depend on its kind. -/
def hasField (name : String) : Bool :=
  fieldNames.contains name

/-- How a field of a declaration is put into a draft. -/
def fillField (draft : EntryDraft) (field : String) : Shape EntryDraft := fun value =>
  draft.fill field value fun _ => ofJsonAll value

theorem ofFields_eq_fill (draft : EntryDraft) (fields : List (String × Json)) :
    ofFields draft fields = Shape.fill fillField draft fields := by
  induction fields generalizing draft with
  | nil => rw [ofFields]; rfl
  | cons field rest hypothesis =>
    obtain ⟨name, value⟩ := field
    rw [ofFields]
    exact congrArg (bind _) (funext hypothesis)

theorem fillField_passes (draft : EntryDraft) (field : String) (value : Json)
    (other : hasField field = false) : fillField draft field value = .ok draft := by
  unfold fillField EntryDraft.fill
  split <;> first | rfl | simp [hasField, fieldNames] at other

variable (body : DeclarationBody) (children : List DeclarationEntry)

/-- The fields of a declaration with those declared in it. -/
def allFields : List (String × Json) :=
  bodyFields body ++ Json.nonemptyField "children" (toJsonAll children)

theorem nodup_allFields : ((allFields body children).map (·.1)).Nodup := by
  obtain ⟨name, fullname, kind, docstring, span⟩ := body
  cases kind <;> cases docstring <;> cases span <;> cases children <;>
    simp [allFields, bodyFields, DeclarationKind.fields, Json.tagField, Json.optionalField,
      Json.nonemptyField, toJsonAll]

theorem lookup_allFields :
    (allFields body children).lookup Json.tagField = some (.text body.kind.entryTag) := by
  rfl

theorem keepFields_kind :
    Json.keepFields body.kind.hasField (allFields body children) = body.kind.fields := by
  obtain ⟨name, fullname, kind, docstring, span⟩ := body
  cases kind <;> cases docstring <;> cases span <;> cases children <;> rfl

theorem keepFields_entry :
    Json.keepFields hasField (allFields body children) =
      [("name", .text body.name), ("fullname", .text body.fullname)] ++
        Json.optionalField "docstring" .text body.docstring ++
        Json.optionalField "span" Span.toJson body.span ++
        Json.nonemptyField "children" (toJsonAll children) := by
  obtain ⟨name, fullname, kind, docstring, span⟩ := body
  cases kind <;> cases docstring <;> cases span <;> cases children <;> rfl

variable (order : Order)

theorem fill_docstring (name fullname : String) (docstring : Option String) :
    Shape.fill fillField { name := name, fullname := fullname }
        (order.applyInside (Json.optionalField "docstring" .text docstring)) =
      .ok { name := name, fullname := fullname, docstring := docstring } := by
  cases docstring with
  | none => rfl
  | some text => exact Shape.fill_cons (bind_ok (Shape.optional_text order (some text)) rfl) rfl

theorem fill_span (name fullname : String) (docstring : Option String) (span : Option Span) :
    Shape.fill fillField { name := name, fullname := fullname, docstring := docstring }
        (order.applyInside (Json.optionalField "span" Span.toJson span)) =
      .ok { name := name, fullname := fullname, docstring := docstring, span := span } := by
  have solid (span : Span) : order.apply span.toJson ≠ .null := by
    cases order <;> nofun
  have read : ∀ span, Span.ofJson (order.apply span.toJson) = .ok (id span) :=
    Span.ofJson_toJson order
  cases span with
  | none => rfl
  | some span =>
    exact Shape.fill_cons (bind_ok (Shape.optional_apply order solid read (some span)) rfl) rfl

theorem fill_children {children read : List DeclarationEntry}
    (inner : ofJsonEach ((toJsonAll children).map order.apply) = .ok read) (name fullname : String)
    (docstring : Option String) (span : Option Span) :
    Shape.fill fillField
        { name := name, fullname := fullname, docstring := docstring, span := span }
        (order.applyInside (Json.nonemptyField "children" (toJsonAll children))) =
      .ok { name := name, fullname := fullname, docstring := docstring, span := span,
            children := read } := by
  cases children with
  | nil =>
    obtain rfl : [] = read := Except.ok.inj inner
    rfl
  | cons first rest =>
    have many : ofJsonAll (order.apply (.list (toJsonAll (first :: rest)))) = .ok read := by
      rwa [order.apply_list, ofJsonAll]
    exact Shape.fill_cons (bind_ok many rfl) rfl

/-- The fields that do not depend on the kind are read from an object that holds others as well. -/
theorem ofFields_of_perm {body : DeclarationBody} {children read : List DeclarationEntry}
    (inner : ofJsonEach ((toJsonAll children).map order.apply) = .ok read)
    {given : List (String × Json)}
    (permuted : (order.applyInside (allFields body children)).Perm given) :
    ofFields {} given =
      .ok { name := body.name, fullname := body.fullname, docstring := body.docstring,
            span := body.span, children := read } := by
  have own := permuted.filter fun field => hasField field.1
  have distinct : ((order.applyInside (Json.keepFields hasField (allFields body children))).map
      (·.1)).Nodup := by
    rw [order.names_applyInside]
    exact (nodup_allFields body children).sublist (List.filter_sublist.map _)
  rw [← Json.keepFields, order.keepFields_applyInside] at own
  rw [ofFields_eq_fill, Shape.fill_keepFields fillField_passes]
  refine Shape.fill_perm (EntryDraft.independent_fill _) own distinct ?_
  have name := Shape.text_apply order body.name
  have fullname := Shape.text_apply order body.fullname
  rw [keepFields_entry, order.applyInside_append, order.applyInside_append,
    order.applyInside_append]
  exact Shape.fill_append (Shape.fill_append (Shape.fill_append
    (Shape.fill_cons (bind_ok name rfl) (Shape.fill_cons (bind_ok fullname rfl) rfl))
    (fill_docstring order _ _ _)) (fill_span order _ _ _ _)) (fill_children order inner _ _ _ _)

mutual

/-- A declaration is read back with all that is declared in it. -/
theorem ofJson_toJson : (entry : DeclarationEntry) →
    ofJson (order.apply entry.toJson) = .ok (entry.mapReferences Reference.forget)
  | .node body children => by
    have inner := ofJsonEach_toJsonAll children
    obtain ⟨given, apply, permuted, distinct⟩ :=
      order.exists_perm_apply (nodup_allFields body children)
    have tagged :=
      Shape.lookup_text_of_perm order permuted distinct (lookup_allFields body children)
    have own := permuted.filter fun field => body.kind.hasField field.1
    rw [← Json.keepFields, order.keepFields_applyInside, keepFields_kind] at own
    have kind := DeclarationKind.ofFields_of_perm order distinct body.kind tagged own
    have found := ofFields_of_perm order inner permuted
    have read : ofJson (.object given) =
        .ok (mapReferences Reference.forget (.node body children)) := by
      rw [ofJson]
      exact bind_ok (Shape.once_of_nodup _ distinct) (bind_ok found
        (bind_ok rfl (bind_ok rfl (bind_ok kind rfl))))
    rw [toJson]
    exact (congrArg ofJson apply).trans read

theorem ofJsonEach_toJsonAll : (entries : List DeclarationEntry) →
    ofJsonEach ((toJsonAll entries).map order.apply) =
      .ok (mapReferencesAll Reference.forget entries)
  | [] => rfl
  | first :: rest => by
    rw [toJsonAll, List.map_cons, ofJsonEach, ofJson_toJson first, ofJsonEach_toJsonAll rest]
    rfl

end

end DeclarationEntry

/-! ### Modules -/

theorem ImportedSymbol.ofJson_toJson (order : Order) (symbol : ImportedSymbol) :
    ofJson (order.apply symbol.toJson) = .ok { symbol with target := symbol.target.forget } := by
  have name := Shape.text_apply order symbol.name
  have key := Shape.text_apply order symbol.target.key
  rw [toJson]
  refine bind_ok (Shape.record_apply SymbolDraft.independent_fill order (by simp)
    (Shape.fill_cons (bind_ok name rfl) (Shape.fill_cons (bind_ok key rfl) rfl)) _ _ _) ?_
  rfl

namespace ModuleEntry

/-- The fields of a module. -/
def fields (entry : ModuleEntry) : List (String × Json) :=
  [(Json.tagField, .text entry.tag), ("version", .ofNat entry.version),
    ("name", .text entry.name), ("path", .text entry.path.text)] ++
  Json.optionalField "docstring" .text entry.docstring ++
  [("is_package", .bool entry.isPackage),
    ("imports", .list (entry.imports.map ImportedSymbol.toJson)),
    ("defs", .list (DeclarationEntry.toJsonAll entry.definitions))]

theorem nodup_fields (entry : ModuleEntry) : (entry.fields.map (·.1)).Nodup := by
  cases given : entry.docstring <;> simp [fields, given, Json.tagField, Json.optionalField]

theorem fill_docstring (order : Order) (tag : String) (version : Nat) (name : String) (path : Path)
    (docstring : Option String) :
    Shape.fill ModuleDraft.fill { tag := tag, version := version, name := name, path := path }
        (order.applyInside (Json.optionalField "docstring" .text docstring)) =
      .ok { tag := tag, version := version, name := name, path := path,
            docstring := docstring } := by
  cases docstring with
  | none => rfl
  | some text => exact Shape.fill_cons (bind_ok (Shape.optional_text order (some text)) rfl) rfl

/-- A module is read back from what it was written as, if its version is a number of 32 bits. -/
theorem ofJson_toJson (order : Order) {entry : ModuleEntry} (fits : entry.version < Nat.pow 2 32) :
    ofJson (order.apply entry.toJson) = .ok (entry.mapReferences Reference.forget) := by
  have within : (0 : Int) ≤ entry.version ∧ (entry.version : Int) < Nat.pow 2 32 :=
    ⟨Int.natCast_nonneg _, Int.ofNat_lt.2 fits⟩
  have version : Shape.natural 32 "u32" (order.apply (.ofNat entry.version)) =
      .ok entry.version := by
    rw [Json.ofNat, order.apply_integer, Shape.natural, if_pos within, Int.toNat_natCast]
  have text := Shape.text_apply order
  have path : Shape.pathText (order.apply (.text entry.path.text)) = .ok entry.path.text := by
    rw [order.apply_text]
    rfl
  have isPackage := Shape.bool_apply order entry.isPackage
  have imports := Shape.list_apply order (ImportedSymbol.ofJson_toJson order) entry.imports
  have definitions : DeclarationEntry.ofJsonAll (order.apply
      (.list (DeclarationEntry.toJsonAll entry.definitions))) =
        .ok (DeclarationEntry.mapReferencesAll Reference.forget entry.definitions) := by
    rw [order.apply_list, DeclarationEntry.ofJsonAll,
      DeclarationEntry.ofJsonEach_toJsonAll order entry.definitions]
  have read : Shape.fill ModuleDraft.fill {} (order.applyInside entry.fields) =
      .ok { tag := some entry.tag, version := some entry.version, name := some entry.name,
            path := some entry.path, docstring := entry.docstring, isPackage := entry.isPackage,
            imports := entry.imports.map fun symbol =>
              { symbol with target := symbol.target.forget }
            definitions :=
              DeclarationEntry.mapReferencesAll Reference.forget entry.definitions } := by
    rw [fields, order.applyInside_append, order.applyInside_append]
    exact Shape.fill_append (Shape.fill_append
      (Shape.fill_cons (bind_ok (text entry.tag) rfl) (Shape.fill_cons (bind_ok version rfl)
        (Shape.fill_cons (bind_ok (text entry.name) rfl)
          (Shape.fill_cons (bind_ok path rfl) rfl))))
      (fill_docstring order _ _ _ _ _))
      (Shape.fill_cons (bind_ok isPackage rfl) (Shape.fill_cons (bind_ok imports rfl)
        (Shape.fill_cons (bind_ok definitions rfl) rfl)))
  exact bind_ok
    (Shape.record_apply ModuleDraft.independent_fill order entry.nodup_fields read _ _ _) rfl

end ModuleEntry

end Declarations
