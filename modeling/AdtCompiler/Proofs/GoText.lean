import AdtCompiler.Backend.GoRules
import AdtCompiler.Proofs.FreshName

/-!
# Generated Go declarations with their identifiers

The declarations of a data type once more, as pieces in which every identifier says what it does:
it is declared for the package, it is bound for a region of its declaration, or it is used, and
then by which binder the generator means it to be bound. Put together, the pieces are the text of
the declarations.

What a name in a type is meant to be was decided when the type was formed. A name of a record is
that of the record, whatever else has the name, since the record is held by a pointer. A type that
neither the language nor the document declares has its binder in a part of the package that is not
generated.

## Contents

- `Piece` and `Region`: identifiers and where they can be seen
- `meantBinder`: what a name in a type is meant to be bound by
- `declarations`: the declarations of a data type in pieces
- `text_declarations`: the pieces are the text of the unit's declarations
-/

namespace AdtCompiler.Go

/-! ## Pieces -/

/-- What binds an identifier of generated code. -/
inductive Binder where
  /-- The language itself. -/
  | predeclared
  /-- The import of the unit. -/
  | imported
  /-- A declaration of the package. -/
  | declared
  /-- Something outside the generated code. -/
  | foreign
  /-- A type parameter of the declaration, by its place. -/
  | typeParam (place : Nat)
  /-- A parameter or the receiver of the function, by its place. -/
  | param (place : Nat)
  /-- The variable of the switch. -/
  | switched
deriving Repr, DecidableEq

/-- A part of a declaration, each one inside the one before: type parameters are seen from the
signature on, parameters in the body, and the variable of a switch in its clauses. -/
inductive Region where
  | signature
  | body
  | clause
deriving Repr, DecidableEq

/-- A piece of a declaration. -/
inductive Piece where
  /-- Text without identifiers that have a binder. -/
  | plain (text : Text)
  /-- A name that is declared for the whole package. -/
  | declares (name : Text)
  /-- A name that is bound for a region and those inside it. -/
  | binds (region : Region) (name : Text)
  /-- A name in a region that is meant to be bound by the binder. -/
  | uses (region : Region) (name : Text) (binder : Binder)
deriving Repr, DecidableEq

namespace Piece

/-- The text of a piece. -/
def text : Piece → Text
  | plain text => text
  | declares name => name
  | binds _ name => name
  | uses _ name _ => name

@[simp] theorem text_plain (t : Text) : (plain t).text = t := rfl

@[simp] theorem text_declares (name : Text) : (declares name).text = name := rfl

@[simp] theorem text_binds (region : Region) (name : Text) : (binds region name).text = name := rfl

@[simp] theorem text_uses (region : Region) (name : Text) (binder : Binder) :
    (uses region name binder).text = name := rfl

/-- The name that a piece declares for the package. -/
def declared? : Piece → Option Text
  | declares name => some name
  | _ => none

/-- The name that a piece binds for a region. -/
def boundIn? (region : Region) : Piece → Option Text
  | binds r name => if r = region then some name else none
  | _ => none

end Piece

/-- The text of pieces. -/
def textOf (pieces : List Piece) : Text := pieces.flatMap Piece.text

@[simp] theorem textOf_nil : textOf [] = [] := rfl

@[simp] theorem textOf_cons (p : Piece) (ps : List Piece) :
    textOf (p :: ps) = p.text ++ textOf ps := rfl

@[simp] theorem textOf_append (ps qs : List Piece) :
    textOf (ps ++ qs) = textOf ps ++ textOf qs := by
  simp [textOf]

/-- Groups of pieces with a text between neighbours. -/
def separate (separator : Text) : List (List Piece) → List Piece
  | [] => []
  | [ps] => ps
  | ps :: rest => ps ++ .plain separator :: separate separator rest

@[simp] theorem textOf_separate (separator : Text) (groups : List (List Piece)) :
    textOf (separate separator groups) = Text.join separator (groups.map textOf) := by
  fun_induction separate separator groups with
  | case1 => rfl
  | case2 ps => rfl
  | case3 ps rest hrest ih =>
    cases rest with
    | nil => exact absurd rfl hrest
    | cons qs rest => simp [Text.join, ih]

/-- Groups of pieces in brackets, or nothing if there are none. -/
def bracketed (groups : List (List Piece)) : List Piece :=
  if groups.isEmpty then [] else .plain "[" :: separate ", " groups ++ [.plain "]"]

@[simp] theorem textOf_bracketed (groups : List (List Piece)) :
    textOf (bracketed groups) =
      Text.when (!groups.isEmpty) ("[" ++ Text.join ", " (groups.map textOf) ++ "]") := by
  cases groups with
  | nil => rfl
  | cons ps rest => simp [bracketed, Text.when]

/-! ## Type parameters and types -/

/-- Type parameters where a type or a function declares them. -/
def paramDecls (params : List Text) : List Piece :=
  bracketed (params.map fun p =>
    [.binds .signature p, .plain " ", .uses .signature "any" .predeclared])

/-- Type parameters where the receiver of a method binds them. -/
def receiverParams (params : List Text) : List Piece :=
  bracketed (params.map fun p => [.binds .signature p])

/-- Type parameters as they are passed on. -/
def paramUses (region : Region) (params : List Text) : List Piece :=
  bracketed (params.zipIdx.map fun (p, place) => [.uses region p (.typeParam place)])

@[simp] theorem textOf_paramDecls (params : List Text) :
    textOf (paramDecls params) = paramDecl params := by
  have hany : (" any" : Text) = " " ++ "any" := by decide
  simp [paramDecls, paramDecl, Function.comp_def, hany]

@[simp] theorem textOf_receiverParams (params : List Text) :
    textOf (receiverParams params) = paramArgs params := by
  simp [receiverParams, paramArgs, Function.comp_def]

@[simp] theorem textOf_paramUses (region : Region) (params : List Text) :
    textOf (paramUses region params) = paramArgs params := by
  have hempty : params.zipIdx.isEmpty = params.isEmpty := by cases params <;> rfl
  have hnames : params.zipIdx.map (fun entry => textOf [.uses region entry.1 (.typeParam entry.2)])
      = params := by simp
  simp only [paramUses, textOf_bracketed, List.isEmpty_map, List.map_map, Function.comp_def, hempty,
    hnames, paramArgs]

/-- The types of the language that generated code uses. -/
def nativeTypes : List Text :=
  ["any", "string", "bool", "byte", "rune", "int16", "int32", "int64", "float32", "float64"]

/-- What a name in a type is meant to be bound by. A type of the language stands for a primitive or
a class of the standard library, and a record of the document was looked up by its name. All other
names are written as they are found, for a type parameter, a type of the document, or one that the
document does not declare. -/
def meantBinder (doc : Doc) (params : List Text) (name : Text) : Binder :=
  if nativeTypes.contains name then .predeclared
  else if (recordNames doc).contains name then .declared
  else
    match params.idxOf? name with
    | some place => .typeParam place
    | none => if (typeNames doc).contains name then .declared else .foreign

theorem meantBinder_cases (doc : Doc) (params : List Text) (name : Text) :
    (name ∈ nativeTypes ∧ meantBinder doc params name = .predeclared) ∨
    (name ∉ nativeTypes ∧ name ∈ recordNames doc ∧ meantBinder doc params name = .declared) ∨
    (name ∉ recordNames doc ∧ ∃ place, params[place]? = some name ∧
      meantBinder doc params name = .typeParam place) ∨
    (name ∉ recordNames doc ∧ name ∉ params ∧ name ∈ typeNames doc ∧
      meantBinder doc params name = .declared) ∨
    (name ∉ nativeTypes ∧ name ∉ recordNames doc ∧ name ∉ params ∧ name ∉ typeNames doc ∧
      meantBinder doc params name = .foreign) := by
  unfold meantBinder
  simp only [List.contains_iff_mem]
  split
  case isTrue hnative => exact .inl ⟨hnative, rfl⟩
  case isFalse hnative =>
    split
    case isTrue hrecord => exact .inr (.inl ⟨hnative, hrecord, rfl⟩)
    case isFalse hrecord =>
      split
      case h_1 place hplace =>
        obtain ⟨hlt, hname, -⟩ := List.idxOf?_eq_some_iff.mp hplace
        have hget : params[place]? = some name := by rw [List.getElem?_eq_getElem hlt, hname]
        exact .inr (.inr (.inl ⟨hrecord, place, hget, rfl⟩))
      case h_2 hnone =>
        have hparam : name ∉ params := List.idxOf?_eq_none_iff.mp hnone
        split
        case isTrue htype => exact .inr (.inr (.inr (.inl ⟨hrecord, hparam, htype, rfl⟩)))
        case isFalse htype =>
          exact .inr (.inr (.inr (.inr ⟨hnative, hrecord, hparam, htype, rfl⟩)))

/-- A name in a type. -/
def typeMention (doc : Doc) (params : List Text) (name : Text) : Piece :=
  .uses .signature name (meantBinder doc params name)

@[simp] theorem text_typeMention (doc : Doc) (params : List Text) (name : Text) :
    (typeMention doc params name).text = name := rfl

mutual

/-- A type in pieces. -/
def typePieces (doc : Doc) (params : List Text) : GoType → List Piece
  | .named name args =>
    match args with
    | [] => [typeMention doc params name]
    | arg :: rest =>
      typeMention doc params name :: .plain "[" ::
        (typePieces doc params arg ++ typePiecesMore doc params rest ++ [.plain "]"])
  | .pointer target => .plain "*" :: typePieces doc params target
  | .slice elem => .plain "[]" :: typePieces doc params elem
  | .mapping key value =>
    .plain "map[" :: (typePieces doc params key ++ .plain "]" :: typePieces doc params value)
  | .unit => [.plain "struct\x7b\x7d"]
  | .missing => []

/-- The type arguments behind the first in pieces. -/
def typePiecesMore (doc : Doc) (params : List Text) : List GoType → List Piece
  | [] => []
  | arg :: rest => .plain ", " :: (typePieces doc params arg ++ typePiecesMore doc params rest)

end

mutual

@[simp] theorem textOf_typePieces (doc : Doc) (params : List Text) :
    (type : GoType) → textOf (typePieces doc params type) = type.text
  | .named name [] => by simp [typePieces, GoType.text]
  | .named name (arg :: rest) => by
    simp [typePieces, GoType.text, textOf_typePieces doc params arg,
      textOf_typePiecesMore doc params rest]
  | .pointer target => by simp [typePieces, GoType.text, textOf_typePieces doc params target]
  | .slice elem => by simp [typePieces, GoType.text, textOf_typePieces doc params elem]
  | .mapping key value => by
    simp [typePieces, GoType.text, textOf_typePieces doc params key,
      textOf_typePieces doc params value]
  | .unit => by simp [typePieces, GoType.text]
  | .missing => by simp [typePieces, GoType.text]

@[simp] theorem textOf_typePiecesMore (doc : Doc) (params : List Text) :
    (types : List GoType) → textOf (typePiecesMore doc params types) = GoType.textMore types
  | [] => by simp [typePiecesMore, GoType.textMore]
  | arg :: rest => by
    simp [typePiecesMore, GoType.textMore, textOf_typePieces doc params arg,
      textOf_typePiecesMore doc params rest]

end

mutual

/-- The names in a type. -/
def namesIn : GoType → List Text
  | .named name args => name :: namesInAll args
  | .pointer target => namesIn target
  | .slice elem => namesIn elem
  | .mapping key value => namesIn key ++ namesIn value
  | .unit => []
  | .missing => []

/-- The names in types. -/
def namesInAll : List GoType → List Text
  | [] => []
  | type :: rest => namesIn type ++ namesInAll rest

end

/-! ## Structs -/

/-- The lines of fields in pieces; `width` is the column that the fields before have set. -/
def fieldPieces (doc : Doc) (params : List Text) : (width : Option Nat) → List Field → List Piece
  | _, [] => []
  | width, f :: rest =>
    if hasType f then
      let column := width.getD (columnWidth (f :: rest))
      .plain ("\t" ++ f.1 ++ Text.times (column + 1 - nameWidth f.1) " ") ::
        (typePieces doc params f.2 ++ .plain "\n" :: fieldPieces doc params (some column) rest)
    else .plain ("\t" ++ f.1 ++ "\n") :: fieldPieces doc params none rest

@[simp] theorem textOf_fieldPieces (doc : Doc) (params : List Text) (width : Option Nat)
    (fields : List Field) :
    textOf (fieldPieces doc params width fields) = fieldLines width fields := by
  fun_induction fieldPieces doc params width fields with
  | case1 => rfl
  | case2 width f rest htype column ih =>
    rw [fieldLines, if_pos htype]
    simp [ih, column]
  | case3 width f rest htype ih =>
    rw [fieldLines, if_neg htype]
    simp [ih]

/-- The declaration of a struct in pieces. -/
def structPieces (doc : Doc) (name : Text) (params : List Text) (fields : List Field) :
    List Piece :=
  .plain "type " :: .declares name :: (paramDecls params ++ .plain " " ::
    (if fields.isEmpty then [.plain "struct\x7b\x7d\n"]
      else .plain "struct \x7b\n" :: (fieldPieces doc params none fields ++ [.plain "\x7d\n"])))

@[simp] theorem textOf_structPieces (doc : Doc) (name : Text) (params : List Text)
    (fields : List Field) :
    textOf (structPieces doc name params fields) = structDecl name params fields := by
  cases fields with
  | nil => simp [structPieces, structDecl]
  | cons f rest => simp [structPieces, structDecl]

/-! ## Functions -/

/-- The function that builds a constructor as the given struct, in pieces. -/
def builderPieces (doc : Doc) (params : List Text) (struct_ dataType : Text) (c : Constructor) :
    List Piece :=
  let names := builderParams params struct_ c
  .plain ("\n// " ++ builderName c.name ++ " builds a " ++ c.name ++ ".\n" ++ "func ") ::
    .declares (builderName c.name) :: (paramDecls params ++ .plain "(" ::
    (separate ", " (names.zipWith
        (fun p a =>
          let type := typeOf (recordNames doc) a.type
          .binds .body p ::
            if hasType (p, type) then .plain " " :: typePieces doc params type else [])
        c.args) ++ .plain ") " :: .uses .signature dataType .declared ::
    (paramUses .signature params ++ .plain (" \x7b\n" ++ "\treturn ") ::
    .uses .body struct_ .declared ::
    (paramUses .body params ++ .plain "\x7b" ::
    (separate ", " (names.zipIdx.zipWith
        (fun p a => [.plain (exported a.name ++ ": "), .uses .body p.1 (.param p.2)])
        c.args) ++ [.plain "\x7d\n\x7d\n"])))))

theorem zipWith_zipIdx {α β γ : Type} (f : α → β → γ) (xs : List α) (ys : List β) (n : Nat) :
    (xs.zipIdx n).zipWith (fun x y => f x.1 y) ys = xs.zipWith f ys := by
  induction xs generalizing ys n with
  | nil => simp
  | cons x xs ih => cases ys <;> simp [ih]

theorem textOf_builderPieces (doc : Doc) (params : List Text) (struct_ dataType : Text)
    (c : Constructor) :
    textOf (builderPieces doc params struct_ dataType c) =
      builder (recordNames doc) params struct_ (dataType ++ paramArgs params) c := by
  have hparam : ∀ (p : Text) (type : GoType),
      textOf (.binds .body p ::
        if hasType (p, type) then .plain " " :: typePieces doc params type else []) =
        paramText p type := by
    intro p type
    cases h : hasType (p, type) <;> simp [paramText, h, Text.when]
  have hinits : ((builderParams params struct_ c).zipIdx.zipWith
      (fun p a => [.plain (exported a.name ++ ": "), .uses .body p.1 (.param p.2)]) c.args).map
        textOf =
      (builderParams params struct_ c).zipWith
        (fun p a => exported a.name ++ ": " ++ p) c.args := by
    rw [List.map_zipWith, ← zipWith_zipIdx _ (builderParams params struct_ c) c.args 0]
    simp
  -- the equation of `builder` is slow to make, its definition is not
  delta builder builderPieces
  simp only [textOf_cons, textOf_append, textOf_separate, textOf_nil,
    List.map_zipWith, hparam, hinits, Piece.text_plain, Piece.text_declares, Piece.text_uses,
    textOf_paramDecls, textOf_paramUses, List.append_nil, List.append_assoc]

/-- The method that marks a constructor of a data type, in pieces. -/
def markerPieces (params : List Text) (constructor dataType : Text) : List Piece :=
  .plain "\nfunc (" :: .uses .signature constructor .declared :: (receiverParams params ++
    [.plain (") " ++ markerName dataType ++ "() \x7b\x7d\n")])

/-- The method that prints a constructor held by a struct, in pieces. -/
def stringerPieces (struct_ : Text) (params : List Text) (c : Constructor) : List Piece :=
  if c.args.isEmpty then
    .plain "\nfunc (" :: .uses .signature struct_ .declared :: (receiverParams params ++
      [.plain ") String() ", .uses .signature "string" .predeclared,
        .plain (" \x7b\n\treturn " ++ c.name.quoted ++ "\n\x7d\n")])
  else
    let receiver := receiverName params
    let form := c.name ++ "(" ++ Text.join ", " (c.args.map (·.name ++ " = %v")) ++ ")"
    .plain "\nfunc (" :: .binds .body receiver :: .plain " " ::
      .uses .signature struct_ .declared :: (receiverParams params ++
      .plain ") String() " :: .uses .signature "string" .predeclared :: .plain " \x7b\n\treturn " ::
      .uses .body "fmt" .imported :: .plain (".Sprintf(" ++ form.quoted ++ ", ") ::
      (separate ", " (c.args.map fun a =>
          [.uses .body receiver (.param 0), .plain ("." ++ exported a.name)]) ++
        [.plain ")\n\x7d\n"]))

theorem textOf_stringerPieces (struct_ : Text) (params : List Text) (c : Constructor) :
    textOf (stringerPieces struct_ params c) = stringer struct_ params c := by
  have hplain : (") String() string \x7b\n\treturn " : Text) =
      ") String() " ++ ("string" ++ " \x7b\n\treturn ") := by decide
  have hform : (") String() string \x7b\n\treturn fmt.Sprintf(" : Text) =
      ") String() " ++ ("string" ++ (" \x7b\n\treturn " ++ ("fmt" ++ ".Sprintf("))) := by decide
  unfold stringerPieces stringer
  split
  · simp [hplain]
  · simp [hform, Function.comp_def]

/-- A handler of the matching function with its type, in pieces. -/
def handlerPieces (d : DataType) (handler : Text) (c : Constructor) : List Piece :=
  .binds .body handler :: .plain " func(" :: .uses .signature c.name .declared ::
    (paramUses .signature d.params ++
      [.plain ") ", .uses .signature (matchNames d).result (.typeParam d.params.length)])

/-- A case of the matching function, in pieces; the handler comes with its place. -/
def casePieces (d : DataType) (handler : Text × Nat) (c : Constructor) : List Piece :=
  .plain "\tcase " :: .uses .clause c.name .declared :: (paramUses .clause d.params ++
    [.plain ":\n\t\treturn ", .uses .clause handler.1 (.param (handler.2 + 1)), .plain "(",
      .uses .clause (matchNames d).switched .switched, .plain ")\n"])

/-- The function that calls the handler of the constructor at hand, in pieces. -/
def matcherPieces (d : DataType) : List Piece :=
  let names := matchNames d
  .plain ("\n// " ++ matchName d.name ++ " calls the handler for the variant held by " ++
      names.value ++ ".\n" ++ "func ") ::
    .declares (matchName d.name) :: (paramDecls (d.params ++ [names.result]) ++ .plain "(" ::
    (separate ", " ((.binds .body names.value :: .plain " " :: .uses .signature d.name .declared ::
          paramUses .signature d.params) ::
        names.handlers.zipWith (handlerPieces d) d.constructors) ++
    .plain ") " :: .uses .signature names.result (.typeParam d.params.length) ::
    .plain (" \x7b\n" ++ "\tswitch ") ::
    .binds .clause names.switched :: .plain " := " :: .uses .body names.value (.param 0) ::
    .plain ".(type) \x7b\n" ::
    ((names.handlers.zipIdx.zipWith (casePieces d) d.constructors).flatten ++
    [.plain ("\t\x7d\n" ++ "\t"), .uses .body "panic" .predeclared, .plain "(",
      .uses .body "fmt" .imported,
      .plain (".Sprintf(\"unexpected " ++ d.name ++ " variant %T\", "),
      .uses .body names.value (.param 0), .plain "))\n\x7d\n"])))

theorem textOf_flatten (groups : List (List Piece)) :
    textOf groups.flatten = (groups.map textOf).flatten := by
  induction groups with
  | nil => rfl
  | cons ps rest ih => simp [ih]

theorem textOf_handlerPieces (d : DataType) (handler : Text) (c : Constructor) :
    textOf (handlerPieces d handler c) =
      handler ++ " func(" ++ (c.name ++ paramArgs d.params) ++ ") " ++ (matchNames d).result := by
  simp [handlerPieces]

theorem textOf_casePieces (d : DataType) (handler : Text × Nat) (c : Constructor) :
    textOf (casePieces d handler c) =
      "\tcase " ++ (c.name ++ paramArgs d.params) ++ ":\n\t\treturn " ++ handler.1 ++ "(" ++
        (matchNames d).switched ++ ")\n" := by
  simp [casePieces]

theorem textOf_matcherPieces (d : DataType) : textOf (matcherPieces d) = matcher d := by
  have hpanic : ("\tpanic(fmt.Sprintf(\"unexpected " : Text) =
      "\t" ++ ("panic" ++ ("(" ++ ("fmt" ++ ".Sprintf(\"unexpected "))) := by decide
  have hhandlers : ((matchNames d).handlers.zipWith (handlerPieces d) d.constructors).map textOf =
      (matchNames d).handlers.zipWith
        (fun h c => h ++ " func(" ++ c.name ++ paramArgs d.params ++ ") " ++ (matchNames d).result)
        d.constructors := by
    simp [List.map_zipWith, textOf_handlerPieces]
  have hcases :
      ((matchNames d).handlers.zipIdx.zipWith (casePieces d) d.constructors).map textOf =
      (matchNames d).handlers.zipWith
        (fun h c => "\tcase " ++ c.name ++ paramArgs d.params ++ ":\n\t\treturn " ++ h ++ "(" ++
          (matchNames d).switched ++ ")\n")
        d.constructors := by
    rw [List.map_zipWith, ← zipWith_zipIdx _ (matchNames d).handlers d.constructors 0]
    simp [textOf_casePieces]
  delta matcher matcherPieces
  simp only [hhandlers, hcases, textOf_flatten, hpanic, textOf_cons,
    textOf_append, textOf_separate, textOf_nil, textOf_paramDecls, textOf_paramUses,
    Piece.text_plain, Piece.text_declares, Piece.text_binds, Piece.text_uses, List.map_cons,
    List.append_assoc, List.append_nil]

/-! ## Data types -/

/-- The declarations of a record. -/
def recordDeclarations (doc : Doc) (d : DataType) (c : Constructor) : List (List Piece) :=
  [.plain ("\n// " ++ d.name ++ " is a record.\n") ::
      structPieces doc d.name d.params (fieldsOf (recordNames doc) c),
    builderPieces doc d.params d.name d.name c,
    stringerPieces d.name d.params c]

/-- The interface of a variant type. -/
def interfacePieces (d : DataType) : List Piece :=
  .plain ("\n// " ++ d.name ++ " is one of " ++ Text.join ", " (d.constructors.map (·.name)) ++
      ".\n" ++ "type ") :: .declares d.name :: (paramDecls d.params ++
    [.plain (" interface \x7b\n\t" ++ markerName d.name ++ "()\n\x7d\n")])

/-- The declarations of a constructor of a variant type. -/
def constructorDeclarations (doc : Doc) (d : DataType) (c : Constructor) : List (List Piece) :=
  [.plain ("\n// " ++ c.name ++ " is a " ++ d.name ++ ".\n") ::
      structPieces doc c.name d.params (fieldsOf (recordNames doc) c),
    markerPieces d.params c.name d.name,
    builderPieces doc d.params c.name d.name c,
    stringerPieces c.name d.params c]

/-- The declarations of a variant type. -/
def variantDeclarations (doc : Doc) (d : DataType) : List (List Piece) :=
  interfacePieces d :: (d.constructors.flatMap (constructorDeclarations doc d) ++ [matcherPieces d])

/-- The declarations of a data type. -/
def declarations (doc : Doc) (d : DataType) : List (List Piece) :=
  match d.constructors with
  | [c] => recordDeclarations doc d c
  | _ => variantDeclarations doc d

theorem text_recordDeclarations (doc : Doc) (d : DataType) (c : Constructor) :
    (recordDeclarations doc d c).flatMap textOf = recordDecls (recordNames doc) d c := by
  delta recordDeclarations recordDecls
  simp only [List.flatMap_cons, List.flatMap_nil, textOf_cons, Piece.text_plain,
    textOf_structPieces, textOf_builderPieces, textOf_stringerPieces, List.append_assoc,
    List.append_nil]

theorem text_constructorDeclarations (doc : Doc) (d : DataType) (c : Constructor) :
    (constructorDeclarations doc d c).flatMap textOf =
      constructorDecls (recordNames doc) d c := by
  delta constructorDeclarations constructorDecls markerPieces
  simp only [List.flatMap_cons, List.flatMap_nil, textOf_cons, textOf_append, textOf_nil,
    Piece.text_plain, Piece.text_uses, textOf_receiverParams, textOf_structPieces,
    textOf_builderPieces, textOf_stringerPieces, List.append_assoc, List.append_nil]

theorem text_variantDeclarations (doc : Doc) (d : DataType) :
    (variantDeclarations doc d).flatMap textOf = variantDecls (recordNames doc) d := by
  delta variantDeclarations interfacePieces variantDecls
  simp only [List.flatMap_cons, List.flatMap_append, List.flatMap_assoc, List.flatMap_nil,
    text_constructorDeclarations, textOf_matcherPieces, textOf_cons, textOf_append, textOf_nil,
    Piece.text_plain, Piece.text_declares, textOf_paramDecls, List.append_assoc, List.append_nil]

/-- A data type is a record with its one constructor, or a variant type. -/
theorem declarations_cases (doc : Doc) (d : DataType) :
    (∃ c, d.constructors = [c] ∧ d.isRecord = true ∧
      declarations doc d = recordDeclarations doc d c ∧
      decls (recordNames doc) d = recordDecls (recordNames doc) d c) ∨
    (d.isRecord = false ∧ declarations doc d = variantDeclarations doc d ∧
      decls (recordNames doc) d = variantDecls (recordNames doc) d) := by
  unfold declarations decls DataType.isRecord
  match d.constructors with
  | [] => exact .inr ⟨rfl, rfl, rfl⟩
  | [c] => exact .inl ⟨c, rfl, rfl, rfl, rfl⟩
  | c :: e :: rest => exact .inr ⟨by simp, rfl, rfl⟩

/-- **The pieces are the text** of the declarations of a data type. -/
theorem text_declarations (doc : Doc) (d : DataType) :
    (declarations doc d).flatMap textOf = decls (recordNames doc) d := by
  rcases declarations_cases doc d with ⟨c, -, -, hpieces, htext⟩ | ⟨-, hpieces, htext⟩
  · rw [hpieces, htext, text_recordDeclarations]
  · rw [hpieces, htext, text_variantDeclarations]

/-! ## Names that declarations bind -/

/-- Picks names out of the pieces that declare or bind one. -/
structure Selects (f : Piece → Option Text) : Prop where
  plain : ∀ t, f (.plain t) = none
  uses : ∀ region name binder, f (.uses region name binder) = none

theorem selects_declared? : Selects Piece.declared? := ⟨fun _ => rfl, fun _ _ _ => rfl⟩

theorem selects_boundIn? (region : Region) : Selects (Piece.boundIn? region) :=
  ⟨fun _ => rfl, fun _ _ _ => rfl⟩

section TypePieces

variable {P : Piece → Prop} (hplain : ∀ t, P (.plain t)) (doc : Doc) (params : List Text)

include hplain

mutual

/-- The pieces of a type are plain text and its names. -/
theorem forall_mem_typePieces : (type : GoType) →
    ((∀ p ∈ typePieces doc params type, P p) ↔
      ∀ name ∈ namesIn type, P (typeMention doc params name))
  | .named name [] => by simp [typePieces, namesIn, namesInAll]
  | .named name (arg :: rest) => by
    rw [typePieces, namesIn, namesInAll, List.forall_mem_cons, List.forall_mem_cons,
      List.forall_mem_append, List.forall_mem_append, List.forall_mem_singleton,
      forall_mem_typePieces arg, forall_mem_typePiecesMore rest, List.forall_mem_cons,
      List.forall_mem_append]
    simp only [hplain, and_true, true_and]
  | .pointer target => by
    rw [typePieces, namesIn, List.forall_mem_cons, forall_mem_typePieces target]
    exact and_iff_right (hplain _)
  | .slice elem => by
    rw [typePieces, namesIn, List.forall_mem_cons, forall_mem_typePieces elem]
    exact and_iff_right (hplain _)
  | .mapping key value => by
    rw [typePieces, namesIn, List.forall_mem_cons, List.forall_mem_append, List.forall_mem_cons,
      forall_mem_typePieces key, forall_mem_typePieces value, List.forall_mem_append]
    simp only [hplain, true_and]
  | .unit => by simp [typePieces, namesIn, hplain]
  | .missing => by simp [typePieces, namesIn]

theorem forall_mem_typePiecesMore : (types : List GoType) →
    ((∀ p ∈ typePiecesMore doc params types, P p) ↔
      ∀ name ∈ namesInAll types, P (typeMention doc params name))
  | [] => by simp [typePiecesMore, namesInAll]
  | arg :: rest => by
    rw [typePiecesMore, namesInAll, List.forall_mem_cons, List.forall_mem_append,
      forall_mem_typePieces arg, forall_mem_typePiecesMore rest, List.forall_mem_append]
    exact and_iff_right (hplain _)

end

/-- The lines of fields are plain text and the names in their types. -/
theorem forall_mem_fieldPieces (width : Option Nat) (fields : List Field) :
    (∀ p ∈ fieldPieces doc params width fields, P p) ↔
      ∀ f ∈ fields, ∀ name ∈ namesIn f.2, P (typeMention doc params name) := by
  fun_induction fieldPieces doc params width fields with
  | case1 => simp
  | case2 width f rest htype column ih =>
    simp only [List.forall_mem_cons, List.forall_mem_append, hplain, true_and, ih,
      forall_mem_typePieces hplain doc params f.2]
  | case3 width f rest htype ih =>
    -- a field without a type has no names in it either
    have hnone : namesIn f.2 = [] := by
      unfold hasType at htype
      split at htype
      case h_1 hmissing => rw [hmissing, namesIn]
      case h_2 => exact absurd rfl htype
    simp only [List.forall_mem_cons, hplain, true_and, ih, hnone, List.not_mem_nil,
      IsEmpty.forall_iff, implies_true]

end TypePieces

theorem filterMap_cons_toList {α β : Type} (f : α → Option β) (x : α) (xs : List α) :
    (x :: xs).filterMap f = (f x).toList ++ xs.filterMap f := by
  cases h : f x <;> simp [h]

/-- Names picked out of groups that each hold at most one, beside a list of the same length. -/
theorem flatMap_zipWith {α β : Type} (f : Piece → Option Text) (select : β → Option Text)
    (group : β → α → List Piece) {xs : List β} {items : List α}
    (hlength : xs.length = items.length)
    (hgroup : ∀ x item, (group x item).filterMap f = (select x).toList) :
    (xs.zipWith group items).flatMap (List.filterMap f) = xs.filterMap select := by
  induction xs generalizing items with
  | nil => rfl
  | cons x xs ih =>
    cases items with
    | nil => simp at hlength
    | cons item items =>
      rw [List.zipWith_cons_cons, List.flatMap_cons, hgroup, ih (by simpa using hlength),
        List.filterMap_cons]
      cases select x <;> rfl

namespace Selects

variable {f : Piece → Option Text} (h : Selects f)

include h

theorem typePieces (doc : Doc) (params : List Text) (type : GoType) :
    (typePieces doc params type).filterMap f = [] := by
  rw [List.filterMap_eq_nil_iff]
  exact (forall_mem_typePieces h.plain doc params type).mpr fun _ _ => h.uses _ _ _

theorem fieldPieces (doc : Doc) (params : List Text) (width : Option Nat) (fields : List Field) :
    (fieldPieces doc params width fields).filterMap f = [] := by
  rw [List.filterMap_eq_nil_iff]
  exact (forall_mem_fieldPieces h.plain doc params width fields).mpr fun _ _ _ _ => h.uses _ _ _

theorem separate (separator : Text) (groups : List (List Piece)) :
    (separate separator groups).filterMap f = groups.flatMap (List.filterMap f) := by
  fun_induction Go.separate separator groups with
  | case1 => rfl
  | case2 ps => simp
  | case3 ps rest hrest ih => simp [ih, h.plain]

theorem bracketed (groups : List (List Piece)) :
    (bracketed groups).filterMap f = groups.flatMap (List.filterMap f) := by
  cases groups with
  | nil => rfl
  | cons ps rest => simp [Go.bracketed, h.plain, h.separate]

theorem paramDecls (params : List Text) :
    (paramDecls params).filterMap f = params.filterMap fun p => f (.binds .signature p) := by
  rw [Go.paramDecls, h.bracketed, List.flatMap_map]
  induction params with
  | nil => rfl
  | cons p params ih => cases hp : f (.binds .signature p) <;> simp [hp, h.plain, h.uses, ih]

theorem receiverParams (params : List Text) :
    (receiverParams params).filterMap f = params.filterMap fun p => f (.binds .signature p) := by
  rw [Go.receiverParams, h.bracketed, List.flatMap_map]
  induction params with
  | nil => rfl
  | cons p params ih => cases hp : f (.binds .signature p) <;> simp [hp, ih]

theorem paramUses (region : Region) (params : List Text) :
    (paramUses region params).filterMap f = [] := by
  rw [Go.paramUses, h.bracketed, List.flatMap_map, List.flatMap_eq_nil_iff]
  intro entry _
  simp [h.uses]

theorem structPieces (doc : Doc) (name : Text) (params : List Text) (fields : List Field) :
    (structPieces doc name params fields).filterMap f =
      (f (.declares name)).toList ++ params.filterMap fun p => f (.binds .signature p) := by
  cases fields <;>
    simp [Go.structPieces, filterMap_cons_toList, h.plain, h.paramDecls, h.fieldPieces]

theorem builderPieces (doc : Doc) (params : List Text) (struct_ dataType : Text) (c : Constructor) :
    (builderPieces doc params struct_ dataType c).filterMap f =
      (f (.declares (builderName c.name))).toList ++
        (params.filterMap fun p => f (.binds .signature p)) ++
        (builderParams params struct_ c).filterMap fun p => f (.binds .body p) := by
  have hlength : (builderParams params struct_ c).length = c.args.length := by
    simp [builderParams]
  have hdecls := flatMap_zipWith f (fun p => f (.binds .body p))
    (fun p (a : Arg) => .binds .body p ::
      if hasType (p, typeOf (recordNames doc) a.type) then
        .plain " " :: Go.typePieces doc params (typeOf (recordNames doc) a.type) else [])
    hlength fun p a => by split <;> simp [filterMap_cons_toList, h.plain, h.typePieces]
  have hinits := flatMap_zipWith f (fun _ => none)
    (fun p (a : Arg) => [.plain (exported a.name ++ ": "), .uses .body p.1 (.param p.2)])
    ((List.length_zipIdx (i := 0)).trans hlength) fun p a => by simp [h.plain, h.uses]
  simp [Go.builderPieces, filterMap_cons_toList, h.plain, h.uses, h.paramDecls, h.paramUses,
    h.separate, hdecls, hinits]

theorem markerPieces (params : List Text) (constructor dataType : Text) :
    (markerPieces params constructor dataType).filterMap f =
      params.filterMap fun p => f (.binds .signature p) := by
  simp [Go.markerPieces, h.plain, h.uses, h.receiverParams]

theorem stringerPieces (struct_ : Text) (params : List Text) (c : Constructor) :
    (stringerPieces struct_ params c).filterMap f =
      ((if c.args.isEmpty then [] else [receiverName params]).filterMap
        fun p => f (.binds .body p)) ++
        params.filterMap fun p => f (.binds .signature p) := by
  unfold Go.stringerPieces
  split
  · simp [h.plain, h.uses, h.receiverParams]
  · have hvalues : (c.args.map fun a =>
        [.uses .body (receiverName params) (.param 0), .plain ("." ++ exported a.name)]).flatMap
          (List.filterMap f) = [] := by simp [h.plain, h.uses]
    simp [filterMap_cons_toList, h.plain, h.uses, h.receiverParams, h.separate, hvalues]

theorem interfacePieces (d : DataType) :
    (interfacePieces d).filterMap f =
      (f (.declares d.name)).toList ++ d.params.filterMap fun p => f (.binds .signature p) := by
  simp [Go.interfacePieces, filterMap_cons_toList, h.plain, h.paramDecls]

theorem matcherPieces (d : DataType) :
    (matcherPieces d).filterMap f =
      (f (.declares (matchName d.name))).toList ++
        ((d.params ++ [(matchNames d).result]).filterMap fun p => f (.binds .signature p)) ++
        (((matchNames d).value :: (matchNames d).handlers).filterMap fun p => f (.binds .body p)) ++
        (f (.binds .clause (matchNames d).switched)).toList := by
  have hlength : (matchNames d).handlers.length = d.constructors.length := by
    simp [matchNames]
  have hhandlers := flatMap_zipWith f (fun p => f (.binds .body p)) (handlerPieces d) hlength
    fun p c => by
      simp [handlerPieces, filterMap_cons_toList, h.plain, h.uses, h.paramUses]
  have hcases : ((matchNames d).handlers.zipIdx.zipWith (casePieces d)
      d.constructors).flatten.filterMap f = [] := by
    rw [List.filterMap_flatten, ← List.flatMap_def, flatMap_zipWith f (fun _ => none) (casePieces d)
      ((List.length_zipIdx (i := 0)).trans hlength) fun p c => by
        simp [casePieces, h.plain, h.uses, h.paramUses]]
    simp
  simp [Go.matcherPieces, filterMap_cons_toList, h.plain, h.uses, h.paramDecls, h.paramUses,
    h.separate, hhandlers, hcases, -List.filterMap_flatten]

end Selects

end AdtCompiler.Go
