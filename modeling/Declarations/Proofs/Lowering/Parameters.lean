/-
This file proves that the parameters of a function are those in its definition. A parameter list
has up to four parts: parameters by position only, others in front of any star, a star with the
parameters behind it, and one that takes the keywords which are left. The part that a parameter
stands in and whether it has a default decide how arguments reach it. The marks between the parts
declare nothing.
-/

import Declarations.Outline.OfSource
import Declarations.Proofs.Lowering.Sites
import Declarations.Proofs.Source.Headers
import Mathlib.Data.List.Forall2

namespace Declarations

/-! ### Parameter lists -/

namespace Source

/-- A parameter that takes any number of arguments. -/
structure StarredParameter where
  name : String
  hint : Option Expr

/-- A star in a parameter list, with the parameters behind it. -/
inductive StarPart where
  /-- A star on its own has a parameter behind it. -/
  | bare (first : OrdinaryParameter) (others : List OrdinaryParameter)
  | taking (starred : StarredParameter) (others : List OrdinaryParameter)

/-- A parameter list. -/
structure ParameterList where
  positionOnly : List OrdinaryParameter
  regular : List OrdinaryParameter
  star : Option StarPart
  doubleStarred : Option StarredParameter

/-- The entries from a star on. -/
def StarPart.items : StarPart → List ParameterItem
  | .bare first others => .keywordMark :: (first :: others).map OrdinaryParameter.item
  | .taking starred others =>
    .starred starred.name starred.hint :: others.map OrdinaryParameter.item

/-- The entries of a parameter list. A slash stands behind parameters by position only. -/
def ParameterList.items (list : ParameterList) : List ParameterItem :=
  (if list.positionOnly.isEmpty then []
    else list.positionOnly.map OrdinaryParameter.item ++ [.positionMark]) ++
  (list.regular.map OrdinaryParameter.item ++
    (list.star.elim [] StarPart.items ++
      list.doubleStarred.toList.map fun starred => .doubleStarred starred.name starred.hint))

end Source

open Source

/-- What a parameter of a list declares: its name, how arguments reach it, and the hint and the
default that are written. -/
structure DeclaredParameter where
  name : String
  kind : ArgumentKind
  hint : Option Expr
  default : Option String

/-- What a parameter in front of any star declares. -/
def Source.OrdinaryParameter.byPosition (parameter : OrdinaryParameter) : DeclaredParameter :=
  ⟨parameter.name, if parameter.default.isSome then .optional else .positional, parameter.hint,
    parameter.default.map Expr.text⟩

/-- What a parameter behind a star declares. -/
def Source.OrdinaryParameter.byKeyword (parameter : OrdinaryParameter) : DeclaredParameter :=
  ⟨parameter.name, if parameter.default.isSome then .namedOptional else .named, parameter.hint,
    parameter.default.map Expr.text⟩

/-- What a star and the parameters behind it declare. -/
def Source.StarPart.declared : StarPart → List DeclaredParameter
  | .bare first others => (first :: others).map OrdinaryParameter.byKeyword
  | .taking starred others =>
    ⟨starred.name, .star, starred.hint, none⟩ :: others.map OrdinaryParameter.byKeyword

/-- What the parameters of a list in front of any star declare. -/
def Source.ParameterList.front (list : ParameterList) : List DeclaredParameter :=
  (list.positionOnly ++ list.regular).map OrdinaryParameter.byPosition

/-- What the parameters of a list from a star on declare. -/
def Source.ParameterList.back (list : ParameterList) : List DeclaredParameter :=
  list.star.elim [] StarPart.declared ++
    list.doubleStarred.toList.map fun starred => ⟨starred.name, .doubleStar, starred.hint, none⟩

/-- What a parameter list declares. -/
def Source.ParameterList.declared (list : ParameterList) : List DeclaredParameter :=
  list.front ++ list.back

/-- The parameter of a signature, given what hints stand for and whether defaults are kept. -/
def DeclaredParameter.parameter (typeOf : Expr → TypeExpr) (keepsDefaults : Bool)
    (declared : DeclaredParameter) : Parameter :=
  ⟨declared.name, declared.kind, declared.hint.map typeOf,
    if keepsDefaults then declared.default else none⟩

/-- Whether a signature has the parameters of a list, those by position in front of the others. -/
structure Signature.Declares (signature : Signature) (list : ParameterList)
    (keepsDefaults : Bool) : Prop where
  parameters : ∃ typeOf, signature.parameters =
    list.declared.map (DeclaredParameter.parameter typeOf keepsDefaults)
  positionFirst : ∃ byPosition others, signature.parameters = byPosition ++ others ∧
    (∀ parameter ∈ byPosition, parameter.kind.isPositional false = true) ∧
      ∀ parameter ∈ others, parameter.kind.isPositional false = false

/-! ### Lowering parameter lists -/

/-- The outline of an ordinary parameter. -/
def Source.OrdinaryParameter.outline (kind : ParameterKind) (parameter : OrdinaryParameter) :
    ParameterOutline :=
  ⟨parameter.name, parameter.hint.map .ofExpr, parameter.default.map Expr.text, kind⟩

namespace ParameterOutline

theorem ofItems_cons_ordinary (keywordOnly : Bool) (parameter : OrdinaryParameter)
    (rest : List ParameterItem) :
    ofItems keywordOnly (parameter.item :: rest) =
      parameter.outline (if keywordOnly then .keywordOnly else .regular) ::
        ofItems keywordOnly rest := by
  obtain ⟨name, hint, default⟩ := parameter
  cases default <;> cases hint <;> rfl

/-- The ordinary parameters up to the next star are of one kind. -/
theorem ofItems_ordinary (keywordOnly : Bool) (parameters : List OrdinaryParameter)
    (rest : List ParameterItem) :
    ofItems keywordOnly (parameters.map OrdinaryParameter.item ++ rest) =
      parameters.map (OrdinaryParameter.outline (if keywordOnly then .keywordOnly else .regular)) ++
        ofItems keywordOnly rest := by
  induction parameters with
  | nil => rfl
  | cons parameter others hypothesis =>
    rw [List.map_cons, List.cons_append, ofItems_cons_ordinary, hypothesis]
    rfl

/-- A slash declares nothing. -/
theorem ofItems_positionOnly (parameters : List OrdinaryParameter) (rest : List ParameterItem) :
    ofItems false ((if parameters.isEmpty then []
      else parameters.map OrdinaryParameter.item ++ [.positionMark]) ++ rest) =
      parameters.map (OrdinaryParameter.outline .regular) ++ ofItems false rest := by
  split
  next none =>
    rw [List.isEmpty_iff.1 none]
    rfl
  next =>
    rw [List.append_assoc, ofItems_ordinary]
    rfl

end ParameterOutline

namespace LoweringContext

open ParameterOutline (ofItems ofItems_ordinary ofItems_positionOnly)

variable (context : LoweringContext)

/-- The type that a hint stands for. -/
def hinted (hint : Expr) : TypeExpr :=
  context.typeOf (.ofExpr hint)

/-- The parameter that a declared one becomes. -/
abbrev lowered (declared : DeclaredParameter) : Parameter :=
  declared.parameter context.hinted context.options.preserveAsts

theorem map_outline_regular (parameters : List OrdinaryParameter) :
    (parameters.map (OrdinaryParameter.outline .regular)).map context.parameter =
      (parameters.map OrdinaryParameter.byPosition).map context.lowered := by
  rw [List.map_map, List.map_map]
  refine List.map_congr_left fun ⟨name, type, default⟩ _ => ?_
  cases default <;> cases type <;> rfl

theorem map_outline_keywordOnly (parameters : List OrdinaryParameter) :
    (parameters.map (OrdinaryParameter.outline .keywordOnly)).map context.parameter =
      (parameters.map OrdinaryParameter.byKeyword).map context.lowered := by
  rw [List.map_map, List.map_map]
  refine List.map_congr_left fun ⟨name, type, default⟩ _ => ?_
  cases default <;> cases type <;> rfl

theorem parameters_doubleStarred (keywordOnly : Bool) (doubleStarred : Option StarredParameter) :
    (ofItems keywordOnly (doubleStarred.toList.map fun starred =>
      .doubleStarred starred.name starred.hint)).map context.parameter =
      (doubleStarred.toList.map fun starred =>
        ⟨starred.name, .doubleStar, starred.hint, none⟩).map context.lowered := by
  cases doubleStarred with
  | none => rfl
  | some starred =>
    obtain ⟨name, type⟩ := starred
    cases type <;> rfl

/-- Behind a star, parameters are given by keyword. -/
theorem parameters_star (star : StarPart) (rest : List ParameterItem) :
    (ofItems false (star.items ++ rest)).map context.parameter =
      star.declared.map context.lowered ++ (ofItems true rest).map context.parameter := by
  cases star with
  | bare first others =>
    show (ofItems true ((first :: others).map OrdinaryParameter.item ++ rest)).map
      context.parameter = _
    rw [ofItems_ordinary, List.map_append, if_pos rfl, map_outline_keywordOnly]
    rfl
  | taking starred others =>
    have first : context.parameter ⟨starred.name, starred.hint.map .ofExpr, none, .starred⟩ =
        context.lowered ⟨starred.name, .star, starred.hint, none⟩ := by
      obtain ⟨name, type⟩ := starred
      cases type <;> rfl
    show context.parameter _ :: (ofItems true (others.map OrdinaryParameter.item ++ rest)).map
      context.parameter = _
    rw [ofItems_ordinary, List.map_append, if_pos rfl, map_outline_keywordOnly, first]
    rfl

theorem parameters_back (list : ParameterList) :
    (ofItems false (list.star.elim [] StarPart.items ++ list.doubleStarred.toList.map fun starred =>
      .doubleStarred starred.name starred.hint)).map context.parameter =
      list.back.map context.lowered := by
  obtain ⟨_, _, star, doubleStarred⟩ := list
  cases star with
  | none => exact context.parameters_doubleStarred false doubleStarred
  | some star =>
    refine (context.parameters_star star _).trans ?_
    rw [context.parameters_doubleStarred true, ← List.map_append]
    rfl

/-- The parameters of a function are those of its list. -/
theorem parameters_items (list : ParameterList) :
    (ofItems false list.items).map context.parameter = list.declared.map context.lowered := by
  rw [ParameterList.items, ofItems_positionOnly, ofItems_ordinary, if_neg Bool.false_ne_true,
    ← List.append_assoc, ← List.map_append, List.map_append, map_outline_regular, parameters_back,
    ← List.map_append]
  rfl

end LoweringContext

/-! ### Kinds of parameters -/

namespace Source

theorem StarPart.isPositional_of_mem_declared {star : StarPart} {declared : DeclaredParameter}
    (member : declared ∈ star.declared) : declared.kind.isPositional false = false := by
  have byKeyword {parameters : List OrdinaryParameter}
      (member : declared ∈ parameters.map OrdinaryParameter.byKeyword) :
      declared.kind.isPositional false = false := by
    obtain ⟨⟨_, _, default⟩, -, rfl⟩ := List.mem_map.1 member
    cases default <;> rfl
  cases star with
  | bare first others => exact byKeyword member
  | taking starred others =>
    rcases List.mem_cons.1 member with rfl | later
    · rfl
    · exact byKeyword later

theorem ParameterList.isPositional_of_mem_back {list : ParameterList}
    {declared : DeclaredParameter} (member : declared ∈ list.back) :
    declared.kind.isPositional false = false := by
  obtain ⟨_, _, star, doubleStarred⟩ := list
  rcases List.mem_append.1 member with behindStar | last
  · cases star with
    | none => cases behindStar
    | some star => exact star.isPositional_of_mem_declared behindStar
  · obtain ⟨starred, -, rfl⟩ := List.mem_map.1 last
    rfl

theorem ParameterList.isPositional_of_mem_front {list : ParameterList}
    {declared : DeclaredParameter} (member : declared ∈ list.front) :
    declared.kind.isPositional false = true := by
  obtain ⟨⟨_, _, default⟩, -, rfl⟩ := List.mem_map.1 member
  cases default <;> rfl

end Source

theorem Signature.declares_of_parameters {context : LoweringContext} {list : ParameterList}
    {signature : Signature} (same : signature.parameters = list.declared.map context.lowered) :
    signature.Declares list context.options.preserveAsts := by
  refine ⟨⟨_, same⟩, list.front.map context.lowered, list.back.map context.lowered,
    same.trans List.map_append, ?_, ?_⟩
  · exact List.forall_mem_map.2 fun _ member => ParameterList.isPositional_of_mem_front member
  · exact List.forall_mem_map.2 fun _ member => ParameterList.isPositional_of_mem_back member

/-! ### Functions of a file -/

namespace Item

/-- The name and the parameters of the function that an item is. -/
def function? : Item → Option (String × List ParameterOutline)
  | .function outline => some (outline.name, outline.parameters)
  | .classDef _ _ | .assignment _ | .typeAlias _ _ _ => none

mutual

/-- The functions in an item. -/
def functions : Item → List (String × List ParameterOutline)
  | .classDef _ body => functionsOf body
  | .function outline => [(outline.name, outline.parameters)]
  | .assignment _ | .typeAlias _ _ _ => []

/-- The functions in a body. -/
def functionsOf : List Item → List (String × List ParameterOutline)
  | [] => []
  | item :: rest => item.functions ++ functionsOf rest

end

theorem functionsOf_append (first second : List Item) :
    functionsOf (first ++ second) = functionsOf first ++ functionsOf second := by
  induction first with
  | nil => rfl
  | cons item rest hypothesis =>
    rw [List.cons_append, functionsOf, functionsOf, hypothesis, List.append_assoc]

theorem functions_of_reassigns {assigned : List String} {item : Item}
    (again : item.reassigns assigned = true) : item.functions = [] := by
  cases item with
  | assignment _ => rfl
  | classDef _ _ | function _ | typeAlias _ _ _ => cases again

end Item

namespace Site

mutual

/-- The sites of an item have its functions. -/
theorem filterMap_ofItem (own : Scope) (outer : List Scope) : (item : Item) →
    (ofItem own outer item).filterMap (·.item.function?) = item.functions
  | .classDef header body => by
    rw [ofItem, List.filterMap_cons, Item.functions]
    exact filterMap_ofItems _ (own :: outer) [] body
  | .function _ | .assignment _ | .typeAlias _ _ _ => by
    rw [ofItem, Item.functions]
    rfl

theorem filterMap_ofItems (own : Scope) (outer : List Scope) (assigned : List String) :
    (items : List Item) →
      (ofItems own outer assigned items).filterMap (·.item.function?) = Item.functionsOf items
  | [] => rfl
  | item :: rest => by
    rw [ofItems, Item.functionsOf]
    split
    next again =>
      rw [filterMap_ofItems own outer assigned rest, Item.functions_of_reassigns again]
      rfl
    next =>
      rw [List.filterMap_append, filterMap_ofItem own outer item,
        filterMap_ofItems own outer _ rest]

end

end Site

/-- The name and the parameters that a header has. -/
def Source.FunctionHeader.outlined (header : FunctionHeader) :
    String × List ParameterOutline :=
  (header.name, ParameterOutline.ofItems false header.parameters)

mutual

/-- The functions among the items of a statement are those that it declares. -/
theorem functionsOf_itemsOf : (statement : Stmt) →
    Item.functionsOf (itemsOf statement) = (headersOf statement).map FunctionHeader.outlined
  | .classDef header body => by
    rw [itemsOf, Item.functionsOf, Item.functions, headersOf, functionsOf_itemsOfBody body]
    exact List.append_nil _
  | .function header body => rfl
  | .assignment target hint value line => by
    rw [itemsOf, headersOf]
    cases AssignmentOutline.ofStmt? target hint value line <;> rfl
  | .typeAlias parts line => by
    rw [itemsOf, headersOf]
    cases aliasParts? parts <;> rfl
  | .clauses blocks => by rw [itemsOf, headersOf, functionsOf_itemsOfBlocks blocks]
  | .importing _ _ | .importingFrom _ _ _ _ | .expression _ | .loop _ | .other => rfl

theorem functionsOf_itemsOfBody : (body : List Stmt) →
    Item.functionsOf (itemsOfBody body) = (headersOfBody body).map FunctionHeader.outlined
  | [] => rfl
  | statement :: rest => by
    rw [itemsOfBody, headersOfBody, Item.functionsOf_append, List.map_append,
      functionsOf_itemsOf statement, functionsOf_itemsOfBody rest]

theorem functionsOf_itemsOfBlocks : (blocks : List (List Stmt)) →
    Item.functionsOf (itemsOfBlocks blocks) = (headersOfBlocks blocks).map FunctionHeader.outlined
  | [] => rfl
  | block :: rest => by
    rw [itemsOfBlocks, headersOfBlocks, Item.functionsOf_append, List.map_append,
      functionsOf_itemsOfBody block, functionsOf_itemsOfBlocks rest]

end

/-- The name and the signature of a function that is declared. -/
def DeclarationBody.function? (body : DeclarationBody) : Option (String × Signature) :=
  match body.kind with
  | .function signature => some (body.name, signature)
  | .classDef _ | .variable _ | .typeAlias _ => none

/-- The functions that a module declares, in order. -/
def Module.functions (module : Module) : List (String × Signature) :=
  module.bodies.filterMap DeclarationBody.function?

/-- Whether a function is lowered from an outline of its name and parameters. -/
def LoweredFrom (options : LoweringOptions) (outlined : String × List ParameterOutline)
    (function : String × Signature) : Prop :=
  function.1 = outlined.1 ∧ ∃ context : LoweringContext, context.options = options ∧
    function.2.parameters = outlined.2.map context.parameter

/-- The declaration at a site is a function where the item is one. -/
theorem LoweringContext.function?_declared (context : LoweringContext) (site : Site) :
    Option.Rel (LoweredFrom context.options) site.item.function?
      (context.declared site).function? := by
  obtain ⟨item, own, outer⟩ := site
  cases item with
  | function outline => exact .some ⟨rfl, context.within _, rfl, rfl⟩
  | classDef header body => exact .none
  | typeAlias name value line => exact .none
  | assignment outline =>
    have noFunction : (context.declared ⟨.assignment outline, own, outer⟩).function? = none := by
      rw [DeclarationBody.function?, LoweringContext.declared, LoweringContext.declaration,
        LoweringContext.kind_assignment]
      split
      next signature isFunction =>
        repeat' split at isFunction
        all_goals cases isFunction
      all_goals rfl
    rw [noFunction]
    exact .none

namespace Module

open Reader

/-- The functions of a module have the parameters that their headers have in the file. -/
theorem functions_ofOutline (options : LoweringOptions) (name : String) (path : Path)
    (body : List Stmt) :
    List.Forall₂ (fun header function => LoweredFrom options header.outlined function)
      (headersOfBody body) (ofOutline options name path (.ofBody body)).functions := by
  have sites : (Site.ofOutline name (.ofBody body)).filterMap (·.item.function?) =
      (headersOfBody body).map FunctionHeader.outlined :=
    (Site.filterMap_ofItems _ _ _ _).trans (functionsOf_itemsOfBody body)
  rw [functions, bodies_ofOutline, List.filterMap_map, ← List.forall₂_map_left_iff, ← sites]
  refine List.rel_filterMap ?_ (List.forall₂_same.2 fun site _ => rfl)
  rintro site _ rfl
  exact (contextOf options name path (.ofBody body)).function?_declared site

theorem declares_of_loweredFrom {options : LoweringOptions} {header : FunctionHeader}
    {function : String × Signature} {list : ParameterList}
    (lowered : LoweredFrom options header.outlined function)
    (isList : header.parameters = list.items) :
    function.2.Declares list options.preserveAsts := by
  obtain ⟨-, context, rfl, same⟩ := lowered
  rw [FunctionHeader.outlined, isList, context.parameters_items] at same
  exact Signature.declares_of_parameters same

/-- The functions that a file declares have the parameters which are written in their definitions,
where these stand in the file in the same order. A file that is a definition with a legal parameter
list declares it. -/
theorem parameters_as_written (options : LoweringOptions) (name : String) (path : Path)
    (text : String) :
    (∀ outline, Outline.read text = .ok outline →
      ∃ headers last, HeadersStand (ExprRules.ofText text) headers (Cursor.ofText text) last ∧
        List.Forall₂
          (fun (header : FunctionHeader) (function : String × Signature) =>
            function.1 = header.name ∧ ∀ list : ParameterList, header.parameters = list.items →
              function.2.Declares list options.preserveAsts)
          headers (ofOutline options name path outline).functions) ∧
    ∀ (header : FunctionHeader) (body : List Stmt) (last : Cursor text.toList.toArray)
      (list : ParameterList),
      header.Written (StmtRules.ofText text) body (Cursor.ofText text) last →
      last.ahead.kind = .fileEnd → header.parameters = list.items →
        ∃ outline signature, Outline.read text = .ok outline ∧
          (ofOutline options name path outline).functions = [(header.name, signature)] ∧
            signature.Declares list options.preserveAsts := by
  constructor
  · intro outline read
    cases parsed : parse text with
    | error line =>
      rw [Outline.read, parsed] at read
      cases read
    | ok body =>
      rw [Outline.read, parsed] at read
      cases read
      obtain ⟨last, stand⟩ := headersStand_of_parse parsed
      refine ⟨headersOfBody body, last, stand, ?_⟩
      refine (functions_ofOutline options name path body).imp fun header function lowered => ?_
      exact ⟨lowered.1, fun list isList => declares_of_loweredFrom lowered isList⟩
  · intro header body last list written ends isList
    obtain ⟨alone, named, parameters, parsed⟩ : ∃ alone : FunctionHeader,
        alone.name = header.name ∧ alone.parameters = list.items ∧
          parse text = .ok [.function alone body] :=
      ⟨{ header with
        decorators := [], isAsync := false, line := (Cursor.ofText text).ahead.line },
        rfl, isList, parse_of_written written ends⟩
    have read : Outline.read text = .ok (.ofBody [.function alone body]) := by
      rw [Outline.read, parsed]
      rfl
    obtain ⟨function, others, lowered, noOthers, same⟩ := List.forall₂_cons_left_iff.1
      (functions_ofOutline options name path [.function alone body])
    rw [List.forall₂_nil_left_iff.1 noOthers] at same
    have isNamed : function.1 = header.name := lowered.1.trans named
    refine ⟨_, function.2, read, ?_, declares_of_loweredFrom lowered parameters⟩
    rw [same, ← isNamed]

/-- A definition with parameters of all kinds and a comment among them. -/
def lending : String :=
  "def lend(book, /, to: str = None,  # a reader\n    *copies: int, days, late=0, **notes,): ...\n"

/-- The parameter list of the definition. -/
def lendingList : ParameterList where
  positionOnly := [⟨"book", none, none⟩]
  regular := [⟨"to", some (.name "str"), some .absent⟩]
  star := some (.taking ⟨"copies", some (.name "int")⟩
    [⟨"days", none, none⟩, ⟨"late", none, some (.constant "0")⟩])
  doubleStarred := some ⟨"notes", none⟩

/-- Whether the definition is read with the entries of its list, up to the end of the file. -/
def readsLending : Bool :=
  let alone : Reader Stmt := do
    expect "def"
    let statement ← functionRest (StmtRules.ofText lending) [] false 1
    if (← peek).kind == .fileEnd then return statement else refuse
  match alone lending.toList.toArray (Cursor.ofText lending) with
  | .ok (.function ⟨"lend", [.plain "book", .positionMark,
      .defaulted "to" (some (.name "str")) "None", .starred "copies" (some (.name "int")),
      .plain "days", .defaulted "late" none "0", .doubleStarred "notes" none],
      _, _, _, _, _⟩ _, _) => true
  | _ => false

theorem exists_written_lending :
    ∃ header body last, FunctionHeader.Written (StmtRules.ofText lending) header body
      (Cursor.ofText lending) last ∧ last.ahead.kind = .fileEnd ∧
        header.parameters = lendingList.items ∧ header.name = "lend" := by
  have reads : readsLending = true := by decide +kernel
  unfold readsLending at reads
  dsimp only at reads
  split at reads
  next read =>
    obtain ⟨_, atName, keyword, read⟩ := bind_ok read
    obtain ⟨statement, last, rest, read⟩ := bind_ok read
    obtain ⟨_, _, peeked, read⟩ := bind_ok read
    cases peeked
    split at read
    next ends =>
      cases read
      obtain ⟨header, body, same, written⟩ :=
        written_of_definition ((bind_of_ok keyword).trans rest)
      cases same
      exact ⟨_, _, _, written, eq_of_beq ends, rfl, rfl⟩
    next => cases read
  next => cases reads

/-- Of six parameters with and without hints and defaults, the texts of which are not kept. -/
theorem parameters_as_written_lending :
    let options : LoweringOptions := ⟨true, false, false⟩
    ∃ header body last outline signature,
      FunctionHeader.Written (StmtRules.ofText lending) header body (Cursor.ofText lending) last ∧
      last.ahead.kind = .fileEnd ∧ header.parameters = lendingList.items ∧
      Outline.read lending = .ok outline ∧
      (ofOutline options "shelf" ⟨"shelf.py"⟩ outline).functions = [("lend", signature)] ∧
      signature.parameters.map (fun parameter =>
          (parameter.name, parameter.kind, parameter.default)) =
        [("book", .positional, none), ("to", .optional, none), ("copies", .star, none),
          ("days", .named, none), ("late", .namedOptional, none), ("notes", .doubleStar, none)] ∧
      ∃ stands place,
        HeadersStand (ExprRules.ofText lending) [stands] (Cursor.ofText lending) place ∧
          stands.name = "lend" := by
  intro options
  obtain ⟨header, body, last, written, ends, isList, named⟩ := exists_written_lending
  obtain ⟨ofFile, ofDefinition⟩ := parameters_as_written options "shelf" ⟨"shelf.py"⟩ lending
  obtain ⟨outline, signature, read, only, declares⟩ :=
    ofDefinition header body last lendingList written ends isList
  rw [named] at only
  obtain ⟨headers, place, stand, declared⟩ := ofFile outline read
  rw [only] at declared
  obtain ⟨stands, others, ⟨isNamed, -⟩, noOthers, rfl⟩ := List.forall₂_cons_right_iff.1 declared
  rw [List.forall₂_nil_right_iff.1 noOthers] at stand
  obtain ⟨typeOf, parameters⟩ := declares.parameters
  refine ⟨header, body, last, outline, signature, written, ends, isList, read, only, ?_, stands,
    place, stand, isNamed.symm⟩
  rw [parameters]
  rfl

end Module

end Declarations
