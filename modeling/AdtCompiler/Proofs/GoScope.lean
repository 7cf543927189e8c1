import AdtCompiler.Proofs.GoPackage

/-!
# Which identifiers of generated Go code are captured

A declaration binds type parameters, parameters and the variable of a switch, each for a region
of its own, and an identifier is bound by the innermost binder of its name that it can see. In
the declarations of an accepted document that is the binder the generator means, for every
identifier but the names in the types of fields.

The names that the generator chooses itself are fresh, so the argument is the same everywhere:
the local names of a declaration are told apart from each other, and every other name that it
refers to is none of the local names in sight. The types of fields come from the document, and no
check looks at the names in them. A record may have the name of a type parameter, and a type that
the document does not declare may be named like a generated function, the imported package or a
function of the language.

## Contents

- `Locals.resolve`: which binder a name is bound by
- `CaptureFree`: every identifier of a declaration is bound as it is meant to be
- `Unambiguous`: names in the types of fields that nothing captures
- `accounted_declarations` and `captureFree_iff`: what is captured in an accepted document
- `functions_capture_free_iff` and `field_types_captured`
-/

namespace AdtCompiler.Go

/-! ## Scopes -/

/-- The names that a declaration binds. -/
structure Locals where
  typeParams : List Text
  params : List Text
  switched : List Text
deriving Repr, DecidableEq

/-- The names that the pieces of a declaration bind. -/
def localsOf (pieces : List Piece) : Locals where
  typeParams := pieces.filterMap (Piece.boundIn? .signature)
  params := pieces.filterMap (Piece.boundIn? .body)
  switched := pieces.filterMap (Piece.boundIn? .clause)

namespace Locals

/-- The local names that can be seen in a region. -/
def visible (locals : Locals) : Region → List Text
  | .signature => locals.typeParams
  | .body => locals.params ++ locals.typeParams
  | .clause => locals.switched ++ (locals.params ++ locals.typeParams)

/-- The binder of a name in a region: the innermost one that binds it. -/
def resolve (locals : Locals) (outer : Text → Option Binder) (region : Region) (name : Text) :
    Option Binder :=
  let switched := if locals.switched.contains name then some Binder.switched else none
  let param := (locals.params.idxOf? name).map Binder.param
  let typeParam := (locals.typeParams.idxOf? name).map Binder.typeParam
  match region with
  | .signature => typeParam.or (outer name)
  | .body => param.or (typeParam.or (outer name))
  | .clause => switched.or (param.or (typeParam.or (outer name)))

/-- The local names are told apart. -/
def Apart (locals : Locals) : Prop :=
  (locals.switched ++ (locals.params ++ locals.typeParams)).Nodup

variable {locals : Locals} {outer : Text → Option Binder} {region : Region} {name : Text}

/-- A name that is no local one in sight is bound outside the declaration. -/
theorem resolve_outer (h : name ∉ locals.visible region) :
    locals.resolve outer region name = outer name := by
  cases region <;> simp_all [visible, resolve, List.idxOf?_eq_none_iff.mpr]

theorem idxOf?_of_nodup {names : List Text} {place : Nat} (h : names.Nodup)
    (hplace : names[place]? = some name) : names.idxOf? name = some place := by
  obtain ⟨hlt, hname⟩ := List.getElem?_eq_some_iff.mp hplace
  refine List.idxOf?_eq_some_iff.mpr ⟨hlt, hname, fun j hj heq => ?_⟩
  have := (List.Nodup.getElem_inj_iff h).mp (heq.trans hname.symm)
  omega

theorem resolve_typeParam (h : locals.Apart) {place : Nat}
    (hplace : locals.typeParams[place]? = some name) :
    locals.resolve outer region name = some (.typeParam place) := by
  have hmem := List.mem_of_getElem? hplace
  obtain ⟨-, hinner, hswitched⟩ := List.nodup_append.mp h
  obtain ⟨-, hnodup, hparams⟩ := List.nodup_append.mp hinner
  have hnotParam : locals.params.idxOf? name = none :=
    List.idxOf?_eq_none_iff.mpr fun hp => hparams _ hp _ hmem rfl
  have hnotSwitched : name ∉ locals.switched := fun hs =>
    hswitched _ hs _ (List.mem_append_right _ hmem) rfl
  have hindex := idxOf?_of_nodup hnodup hplace
  cases region <;> simp [resolve, hindex, hnotParam, hnotSwitched]

theorem resolve_param (h : locals.Apart) {place : Nat} (region : Region)
    (hregion : region ≠ .signature) (hplace : locals.params[place]? = some name) :
    locals.resolve outer region name = some (.param place) := by
  have hmem := List.mem_of_getElem? hplace
  obtain ⟨-, hinner, hswitched⟩ := List.nodup_append.mp h
  have hnotSwitched : name ∉ locals.switched := fun hs =>
    hswitched _ hs _ (List.mem_append_left _ hmem) rfl
  have hindex := idxOf?_of_nodup (List.nodup_append.mp hinner).1 hplace
  cases region with
  | signature => exact absurd rfl hregion
  | body => simp [resolve, hindex]
  | clause => simp [resolve, hindex, hnotSwitched]

theorem resolve_switched (h : name ∈ locals.switched) :
    locals.resolve outer .clause name = some .switched := by
  simp [resolve, h]

end Locals

/-- Names that the language declares: its types and constants, and its functions. -/
def languageNames : List Text :=
  ["any", "bool", "byte", "comparable", "complex64", "complex128", "error", "float32", "float64",
    "int", "int8", "int16", "int32", "int64", "rune", "string", "uint", "uint8", "uint16",
    "uint32", "uint64", "uintptr", "true", "false", "iota", "nil", "append", "cap", "clear",
    "close", "complex", "copy", "delete", "imag", "len", "make", "max", "min", "new", "panic",
    "print", "println", "real", "recover"]

/-- The binder of a name outside the declarations of a unit: its import, then the declarations
of the package, then the language. -/
def fileBinder (doc : Doc) (d : DataType) (name : Text) : Option Binder :=
  if needsFormatting d = true ∧ name = "fmt" then some .imported
  else if (packageNames doc).contains name then some .declared
  else if languageNames.contains name then some .predeclared
  else none

/-- A piece that uses a name does so where the name has the binder it is meant to have. A name
from outside the generated code must have no binder in it, nor in the language. -/
def Piece.Resolved (locals : Locals) (outer : Text → Option Binder) : Piece → Prop
  | .uses region name .foreign => locals.resolve outer region name = none
  | .uses region name binder => locals.resolve outer region name = some binder
  | _ => True

/-- Every identifier that a declaration uses is bound as it is meant to be. -/
def CaptureFree (doc : Doc) (d : DataType) (pieces : List Piece) : Prop :=
  ∀ p ∈ pieces, p.Resolved (localsOf pieces) (fileBinder doc d)

/-! ## Pieces that are resolved -/

section Resolved

variable {locals : Locals} {outer : Text → Option Binder}

theorem forall_mem_separate {P : Piece → Prop} (hplain : ∀ t, P (.plain t)) {separator : Text}
    {groups : List (List Piece)} (h : ∀ ps ∈ groups, ∀ p ∈ ps, P p) :
    ∀ p ∈ separate separator groups, P p := by
  fun_induction separate separator groups with
  | case1 => simp
  | case2 ps => exact h ps List.mem_cons_self
  | case3 ps rest hrest ih =>
    intro p hp
    rcases List.mem_append.mp hp with hp | hp
    · exact h ps List.mem_cons_self p hp
    · rcases List.mem_cons.mp hp with rfl | hp
      · exact hplain _
      · exact ih (fun qs hqs => h qs (List.mem_cons_of_mem _ hqs)) p hp

theorem resolved_separate {separator : Text} {groups : List (List Piece)}
    (h : ∀ ps ∈ groups, ∀ p ∈ ps, p.Resolved locals outer) :
    ∀ p ∈ separate separator groups, p.Resolved locals outer :=
  forall_mem_separate (fun _ => trivial) h

theorem exists_of_mem_zipWith {α β γ : Type} {f : α → β → γ} {xs : List α} {ys : List β} {z : γ}
    (h : z ∈ xs.zipWith f ys) : ∃ x ∈ xs, ∃ y ∈ ys, f x y = z := by
  rw [← List.map_uncurry_zip_eq_zipWith] at h
  obtain ⟨⟨x, y⟩, hmem, heq⟩ := List.mem_map.mp h
  obtain ⟨hx, hy⟩ := List.of_mem_zip hmem
  exact ⟨x, hx, y, hy, heq⟩

theorem resolved_bracketed {groups : List (List Piece)}
    (h : ∀ ps ∈ groups, ∀ p ∈ ps, p.Resolved locals outer) :
    ∀ p ∈ bracketed groups, p.Resolved locals outer := by
  unfold bracketed
  split
  · simp
  · intro p hp
    rcases List.mem_append.mp hp with hp | hp
    · rcases List.mem_cons.mp hp with rfl | hp
      · trivial
      · exact resolved_separate h p hp
    · cases List.mem_singleton.mp hp
      trivial

theorem resolved_paramDecls {params : List Text}
    (hany : locals.resolve outer .signature "any" = some .predeclared) :
    ∀ p ∈ paramDecls params, p.Resolved locals outer := by
  refine resolved_bracketed fun ps hps => ?_
  obtain ⟨param, -, rfl⟩ := List.mem_map.mp hps
  simp [Piece.Resolved, hany]

theorem resolved_receiverParams {params : List Text} :
    ∀ p ∈ receiverParams params, p.Resolved locals outer := by
  refine resolved_bracketed fun ps hps => ?_
  obtain ⟨param, -, rfl⟩ := List.mem_map.mp hps
  simp [Piece.Resolved]

/-- Type parameters that a declaration binds in the same order are passed on as such. -/
theorem resolved_paramUses {region : Region} {params : List Text} (h : locals.Apart)
    (hparams : params <+: locals.typeParams) :
    ∀ p ∈ paramUses region params, p.Resolved locals outer := by
  refine resolved_bracketed fun ps hps => ?_
  obtain ⟨⟨param, place⟩, hentry, rfl⟩ := List.mem_map.mp hps
  have hplace : params[place]? = some param := by
    simpa using List.mem_zipIdx_iff_getElem?.mp hentry
  have hlocal : locals.typeParams[place]? = some param := by
    obtain ⟨behind, hbehind⟩ := hparams
    rw [← hbehind, List.getElem?_append_left (List.getElem?_eq_some_iff.mp hplace).1, hplace]
  simp [Piece.Resolved, Locals.resolve_typeParam h hlocal]

end Resolved

/-! ## Names of accepted documents -/

section Accepted

variable {doc : Doc} {d : DataType}

/-- A type parameter is none of the names that generated code mentions. -/
theorem mentioned_not_mem_params (h : Accepted doc) (hd : d ∈ doc.types) {name : Text}
    (hname : name ∈ mentionedNames) : name ∉ d.params := by
  intro hparam
  rcases reserved_or_referenced name hname with hreserved | hreferenced
  · exact not_mem_reserved_of_isName ((h.readable.types d hd).params name hparam) hreserved
  · exact h.free.params d hd name hparam hreferenced

theorem fileBinder_type (h : Accepted doc) {name : Text} (hname : name ∈ typeNames doc) :
    fileBinder doc d name = some .declared := by
  have hfmt : name ≠ "fmt" := by
    rintro rfl
    exact h.free.types _ hname (by decide)
  have hpackage := (mem_packageNames h).mpr (.inl hname)
  simp [fileBinder, hfmt, hpackage]

theorem fileBinder_predeclared (h : Accepted doc) {name : Text}
    (hname : name ∈ ("panic" : Text) :: nativeTypes) :
    fileBinder doc d name = some .predeclared := by
  have hknown : ∀ name ∈ ("panic" : Text) :: nativeTypes,
      name ≠ "fmt" ∧ name ∈ languageNames := by decide
  obtain ⟨hfmt, hlanguage⟩ := hknown name hname
  have hpackage := not_mem_packageNames h (List.mem_cons_of_mem _ hname)
  simp [fileBinder, hfmt, hpackage, hlanguage]

theorem fileBinder_fmt (h : needsFormatting d = true) :
    fileBinder doc d "fmt" = some .imported := by
  simp [fileBinder, h]

theorem name_mem_typeNames (hd : d ∈ doc.types) : d.name ∈ typeNames doc :=
  mem_typeNames.mpr ⟨d, hd, .inl rfl⟩

theorem constructor_mem_typeNames (hd : d ∈ doc.types) (hvariant : d.isRecord = false)
    {c : Constructor} (hc : c ∈ d.constructors) : c.name ∈ typeNames doc :=
  mem_typeNames.mpr ⟨d, hd, .inr ⟨hvariant, c, hc, rfl⟩⟩

/-! ## Declarations of types -/

variable {locals : Locals}

theorem resolve_type (h : Accepted doc) {region : Region} {name : Text}
    (hname : name ∈ typeNames doc) (hlocal : name ∉ locals.visible region) :
    locals.resolve (fileBinder doc d) region name = some .declared := by
  rw [Locals.resolve_outer hlocal, fileBinder_type h hname]

theorem resolve_native (h : Accepted doc) {region : Region} {name : Text}
    (hname : name ∈ ("panic" : Text) :: nativeTypes) (hlocal : name ∉ locals.visible region) :
    locals.resolve (fileBinder doc d) region name = some .predeclared := by
  rw [Locals.resolve_outer hlocal, fileBinder_predeclared h hname]

/-! ## Names in the types of fields -/

/-- The names in the types of the fields of a data type. -/
def fieldTypeNames (doc : Doc) (d : DataType) : List Text :=
  d.constructors.flatMap fun c => (fieldsOf (recordNames doc) c).flatMap fun f => namesIn f.2

/-- A name in the type of a field that is what it is meant to be. A record of this name is not
hidden by a type parameter, and if the document does not declare the name, neither the import nor a
generated function nor the language does. -/
structure Unambiguous (doc : Doc) (d : DataType) (name : Text) : Prop where
  record : name ∈ recordNames doc → name ∉ d.params
  other : name ∉ nativeTypes → name ∉ d.params → name ∉ typeNames doc →
    name ≠ "fmt" ∧ name ∉ builderNames doc ∧ name ∉ matcherNames doc ∧ name ∉ languageNames

/-- A piece that is bound as it is meant to be, or else a name in the type of a field that is
ambiguous. -/
def Piece.Accounted (doc : Doc) (d : DataType) (locals : Locals) (p : Piece) : Prop :=
  p.Resolved locals (fileBinder doc d) ∨
    ∃ name ∈ fieldTypeNames doc d, p = typeMention doc d.params name ∧ ¬ Unambiguous doc d name

theorem recordNames_subset {name : Text} (h : name ∈ recordNames doc) : name ∈ typeNames doc := by
  obtain ⟨d, hd, rfl⟩ := List.mem_map.mp h
  exact name_mem_typeNames (List.mem_filter.mp hd).1

/-- Nothing outside a declaration binds a name that the document does not declare, unless it is one
of those that the unit or the language has of its own. -/
theorem fileBinder_eq_none_iff (h : Accepted doc) (hneeds : needsFormatting d = true) {name : Text}
    (hname : name ∉ typeNames doc) :
    fileBinder doc d name = none ↔
      name ≠ "fmt" ∧ name ∉ builderNames doc ∧ name ∉ matcherNames doc ∧ name ∉ languageNames := by
  unfold fileBinder
  by_cases hfmt : name = "fmt"
  · simp [hneeds, hfmt]
  by_cases hpackage : name ∈ packageNames doc
  · have hfunction := (mem_packageNames h).mp hpackage
    simp only [hfmt, List.contains_iff_mem, hpackage, and_false, if_false, if_true, reduceCtorEq,
      false_iff]
    grind
  · have hfunction := mt (mem_packageNames h).mpr hpackage
    by_cases hlanguage : name ∈ languageNames <;> simp_all

/-- A name in a type is bound as it is meant to be iff it is unambiguous, wherever the type
parameters of the data type are the ones that are seen. -/
theorem resolved_typeMention_iff (h : Accepted doc) (hd : d ∈ doc.types) (hapart : locals.Apart)
    (hparams : locals.typeParams = d.params) (hneeds : needsFormatting d = true) (name : Text) :
    (typeMention doc d.params name).Resolved locals (fileBinder doc d) ↔
      Unambiguous doc d name := by
  have hlocal (hparam : name ∉ d.params) : name ∉ locals.visible .signature := by
    rw [Locals.visible, hparams]
    exact hparam
  have hbound (place : Nat) (hplace : d.params[place]? = some name) :
      locals.resolve (fileBinder doc d) .signature name = some (.typeParam place) :=
    Locals.resolve_typeParam hapart (hparams ▸ hplace)
  unfold typeMention
  rcases meantBinder_cases doc d.params name with ⟨hnative, hmeant⟩ | ⟨hnative, hrecord, hmeant⟩ |
    ⟨hrecord, place, hplace, hmeant⟩ | ⟨hrecord, hparam, htype, hmeant⟩ |
    ⟨hnative, hrecord, hparam, htype, hmeant⟩
  · -- a name of the language is bound by the language
    have hparam : name ∉ d.params :=
      mentioned_not_mem_params h hd (by simp [mentionedNames, hnative])
    rw [hmeant]
    refine iff_of_true (resolve_native h (List.mem_cons_of_mem _ hnative) (hlocal hparam)) ?_
    exact ⟨fun _ => hparam, fun hnot => absurd hnative hnot⟩
  · -- a record is bound by its declaration unless a type parameter comes first
    have htype := recordNames_subset hrecord
    rw [hmeant]
    constructor
    · intro hresolved
      refine ⟨fun _ hparam => ?_, fun _ _ hnot => absurd htype hnot⟩
      obtain ⟨place, hplace⟩ := List.mem_iff_getElem?.mp hparam
      cases (hbound place hplace).symm.trans hresolved
    · intro hclear
      exact resolve_type h htype (hlocal (hclear.record hrecord))
  · -- a type parameter is bound where it is declared
    rw [hmeant]
    refine iff_of_true (hbound place hplace) ⟨fun hmem => absurd hmem hrecord, fun _ hnot => ?_⟩
    exact absurd (List.mem_of_getElem? hplace) hnot
  · rw [hmeant]
    refine iff_of_true (resolve_type h htype (hlocal hparam)) ?_
    exact ⟨fun hmem => absurd hmem hrecord, fun _ _ hnot => absurd htype hnot⟩
  · -- what is left must be bound by nothing
    rw [hmeant, Piece.Resolved, Locals.resolve_outer (hlocal hparam),
      fileBinder_eq_none_iff h hneeds htype]
    exact ⟨fun hfree => ⟨fun hmem => absurd hmem hrecord, fun _ _ _ => hfree⟩,
      fun hclear => hclear.other hnative hparam htype⟩

/-- A unit with a field imports the package that formats. -/
theorem needsFormatting_of_arg {c : Constructor} (hc : c ∈ d.constructors) (hargs : c.args ≠ []) :
    needsFormatting d = true := by
  unfold needsFormatting
  split
  case h_1 e hone =>
    rw [hone, List.mem_singleton] at hc
    simpa [hc] using hargs
  case h_2 => rfl

/-- A unit of variants imports it for the matching function. -/
theorem needsFormatting_of_variant (hvariant : d.isRecord = false) : needsFormatting d = true := by
  unfold needsFormatting
  split
  case h_1 hone => simp [DataType.isRecord, hone] at hvariant
  case h_2 => rfl

theorem accounted_typeMention (h : Accepted doc) (hd : d ∈ doc.types) (hapart : locals.Apart)
    (hparams : locals.typeParams = d.params) {c : Constructor} (hc : c ∈ d.constructors) {a : Arg}
    (ha : a ∈ c.args) {name : Text} (hname : name ∈ namesIn (typeOf (recordNames doc) a.type)) :
    (typeMention doc d.params name).Accounted doc d locals := by
  have hneeds := needsFormatting_of_arg hc (List.ne_nil_of_mem ha)
  have hfield : name ∈ fieldTypeNames doc d :=
    List.mem_flatMap.mpr ⟨c, hc, List.mem_flatMap.mpr ⟨_, List.mem_map_of_mem ha, hname⟩⟩
  by_cases hclear : Unambiguous doc d name
  · exact .inl ((resolved_typeMention_iff h hd hapart hparams hneeds name).mpr hclear)
  · exact .inr ⟨name, hfield, rfl, hclear⟩

@[simp] theorem localsOf_cons_plain (t : Text) (ps : List Piece) :
    localsOf (.plain t :: ps) = localsOf ps := rfl

@[simp] theorem boundIn?_declares (region : Region) (name : Text) :
    Piece.boundIn? region (.declares name) = none := rfl

@[simp] theorem boundIn?_binds (r region : Region) (name : Text) :
    Piece.boundIn? region (.binds r name) = if r = region then some name else none := rfl

theorem localsOf_structPieces (name : Text) (params : List Text) (fields : List Field) :
    localsOf (structPieces doc name params fields) = ⟨params, [], []⟩ := by
  simp [localsOf, (selects_boundIn? _).structPieces]

theorem localsOf_interfacePieces : localsOf (interfacePieces d) = ⟨d.params, [], []⟩ := by
  simp [localsOf, (selects_boundIn? _).interfacePieces]

theorem localsOf_markerPieces (params : List Text) (constructor dataType : Text) :
    localsOf (markerPieces params constructor dataType) = ⟨params, [], []⟩ := by
  simp [localsOf, (selects_boundIn? _).markerPieces]

theorem localsOf_builderPieces (params : List Text) (struct_ dataType : Text) (c : Constructor) :
    localsOf (builderPieces doc params struct_ dataType c) =
      ⟨params, builderParams params struct_ c, []⟩ := by
  simp [localsOf, (selects_boundIn? _).builderPieces]

theorem localsOf_stringerPieces (struct_ : Text) (params : List Text) (c : Constructor) :
    localsOf (stringerPieces struct_ params c) =
      ⟨params, if c.args.isEmpty then [] else [receiverName params], []⟩ := by
  simp [localsOf, (selects_boundIn? _).stringerPieces]

theorem localsOf_matcherPieces :
    localsOf (matcherPieces d) = ⟨d.params ++ [(matchNames d).result],
      (matchNames d).value :: (matchNames d).handlers, [(matchNames d).switched]⟩ := by
  simp [localsOf, (selects_boundIn? _).matcherPieces]

/-! ## Chosen names -/

/-- The names that a matching function binds beside the type parameters of its data type. -/
def MatchNames.all (names : MatchNames) : List Text :=
  names.result :: names.value :: names.switched :: names.handlers

/-- The names of a matching function are chosen one after the other. -/
theorem all_matchNames (d : DataType) :
    (matchNames d).all = FreshName.chooseMany (matchTaken d)
      ("R" :: "v" :: "x" :: d.constructors.map ("on" ++ ·.name)) := rfl

theorem matchNames_nodup (d : DataType) : (matchNames d).all.Nodup := by
  rw [all_matchNames]
  exact FreshName.chooseMany_nodup _ _

theorem not_mem_matchTaken {name : Text} (hname : name ∈ (matchNames d).all) :
    name ∉ matchTaken d := by
  rw [all_matchNames] at hname
  exact FreshName.not_mem_of_mem_chooseMany hname

theorem result_ne_any (d : DataType) : (matchNames d).result ≠ "any" := by
  intro heq
  have hstart : ("R" : Text) <+: (matchNames d).result := FreshName.extends_choose _ _
  rw [heq] at hstart
  exact absurd hstart (by decide)

theorem not_mem_of_mem_builderParams {params : List Text} {struct_ name : Text} {c : Constructor}
    (hname : name ∈ builderParams params struct_ c) : name ∉ params ∧ name ≠ struct_ := by
  have hfree := FreshName.not_mem_of_mem_chooseMany hname
  simpa [not_or] using hfree

theorem receiverName_not_mem (params : List Text) :
    receiverName params ∉ params ∧ receiverName params ≠ "fmt" := by
  have hfree := FreshName.choose_not_mem "x" ("fmt" :: params)
  exact ⟨fun hmem => hfree (List.mem_cons_of_mem _ hmem), fun heq =>
    hfree (List.mem_cons.mpr (.inl heq))⟩

/-! ## Declarations -/

theorem resolve_any (h : Accepted doc) (hd : d ∈ doc.types)
    (hparams : locals.typeParams = d.params) :
    locals.resolve (fileBinder doc d) .signature "any" = some .predeclared := by
  refine resolve_native h (by decide) ?_
  rw [Locals.visible, hparams]
  exact mentioned_not_mem_params h hd (by decide)

theorem accounted_plain (t : Text) : (Piece.plain t).Accounted doc d locals := .inl trivial

theorem accounted_of_resolved {ps : List Piece}
    (h : ∀ p ∈ ps, p.Resolved locals (fileBinder doc d)) : ∀ p ∈ ps, p.Accounted doc d locals :=
  fun p hp => .inl (h p hp)

theorem typeParams_apart (h : Accepted doc) (hd : d ∈ doc.types) :
    Locals.Apart ⟨d.params, [], []⟩ := by
  simpa [Locals.Apart] using h.apart.params d hd

theorem accounted_structPieces (h : Accepted doc) (hd : d ∈ doc.types) (comment name : Text)
    {c : Constructor} (hc : c ∈ d.constructors) :
    ∀ p ∈ .plain comment :: structPieces doc name d.params (fieldsOf (recordNames doc) c),
      p.Accounted doc d (localsOf
        (.plain comment :: structPieces doc name d.params (fieldsOf (recordNames doc) c))) := by
  rw [localsOf_cons_plain, localsOf_structPieces]
  simp only [structPieces, List.forall_mem_cons, List.forall_mem_append]
  refine ⟨accounted_plain _, accounted_plain _, .inl trivial,
    accounted_of_resolved (resolved_paramDecls (resolve_any h hd rfl)), accounted_plain _, ?_⟩
  split
  · simpa using accounted_plain _
  · simp only [List.forall_mem_cons, List.forall_mem_append]
    refine ⟨accounted_plain _, ?_, by simpa using accounted_plain _⟩
    refine (forall_mem_fieldPieces accounted_plain doc d.params none _).mpr ?_
    intro f hf name hname
    obtain ⟨a, ha, rfl⟩ := List.mem_map.mp hf
    exact accounted_typeMention h hd (typeParams_apart h hd) rfl hc ha hname

theorem captureFree_interfacePieces (h : Accepted doc) (hd : d ∈ doc.types) :
    CaptureFree doc d (interfacePieces d) := by
  unfold CaptureFree
  rw [localsOf_interfacePieces]
  simp only [interfacePieces, List.forall_mem_cons, List.forall_mem_append, Piece.Resolved,
    true_and]
  exact ⟨resolved_paramDecls (resolve_any h hd rfl), by simp⟩

theorem captureFree_markerPieces (h : Accepted doc) {constructor : Text} (dataType : Text)
    (htype : constructor ∈ typeNames doc) (hparam : constructor ∉ d.params) :
    CaptureFree doc d (markerPieces d.params constructor dataType) := by
  unfold CaptureFree
  rw [localsOf_markerPieces]
  simp only [markerPieces, List.forall_mem_cons, List.forall_mem_append, Piece.Resolved, true_and]
  exact ⟨resolve_type h htype hparam, resolved_receiverParams, by simp⟩

theorem accounted_builderPieces (h : Accepted doc) (hd : d ∈ doc.types) {struct_ : Text}
    (htype : struct_ ∈ typeNames doc) (hparam : struct_ ∉ d.params) {c : Constructor}
    (hc : c ∈ d.constructors) :
    ∀ p ∈ builderPieces doc d.params struct_ d.name c,
      p.Accounted doc d (localsOf (builderPieces doc d.params struct_ d.name c)) := by
  -- the parameters were chosen apart from each other and from the type parameters
  have hapart : Locals.Apart ⟨d.params, builderParams d.params struct_ c, []⟩ := by
    change (builderParams d.params struct_ c ++ d.params).Nodup
    refine List.nodup_append.mpr ⟨FreshName.chooseMany_nodup _ _, h.apart.params d hd, ?_⟩
    rintro name hname _ hmem rfl
    exact (not_mem_of_mem_builderParams hname).1 hmem
  have huses (region : Region) : ∀ p ∈ paramUses region d.params,
      p.Accounted doc d ⟨d.params, builderParams d.params struct_ c, []⟩ :=
    accounted_of_resolved (resolved_paramUses hapart List.prefix_rfl)
  rw [localsOf_builderPieces]
  simp only [builderPieces, List.forall_mem_cons, List.forall_mem_append]
  refine ⟨accounted_plain _, .inl trivial,
    accounted_of_resolved (resolved_paramDecls (resolve_any h hd rfl)), accounted_plain _,
    forall_mem_separate accounted_plain ?_, accounted_plain _, .inl ?_, huses _, accounted_plain _,
    .inl ?_, huses _, accounted_plain _, accounted_of_resolved (resolved_separate ?_),
    by simpa using accounted_plain _⟩
  · -- parameters with their types
    intro ps hps
    obtain ⟨name, -, a, ha, rfl⟩ := exists_of_mem_zipWith hps
    have htypes := (forall_mem_typePieces accounted_plain doc d.params _).mpr fun _ hname =>
      accounted_typeMention h hd hapart rfl hc ha hname
    simp only [List.forall_mem_cons]
    refine ⟨.inl trivial, ?_⟩
    split
    · exact List.forall_mem_cons.mpr ⟨accounted_plain _, htypes⟩
    · simp
  · exact resolve_type h (name_mem_typeNames hd) (h.apart.notOwn d hd)
  · refine resolve_type h htype fun hmem => ?_
    rcases List.mem_append.mp hmem with hname | hmem
    · exact (not_mem_of_mem_builderParams hname).2 rfl
    · exact hparam hmem
  · -- fields with the parameters that they are set to
    intro ps hps
    obtain ⟨⟨name, place⟩, hentry, a, -, rfl⟩ := exists_of_mem_zipWith hps
    have hplace := List.mem_zipIdx_iff_getElem?.mp hentry
    simpa [Piece.Resolved] using Locals.resolve_param hapart .body (by decide) hplace

theorem captureFree_stringerPieces (h : Accepted doc) (hd : d ∈ doc.types) {struct_ : Text}
    (htype : struct_ ∈ typeNames doc) (hparam : struct_ ∉ d.params) {c : Constructor}
    (hneeds : c.args ≠ [] → needsFormatting d = true) :
    CaptureFree doc d (stringerPieces struct_ d.params c) := by
  have hstring : ("string" : Text) ∉ d.params := mentioned_not_mem_params h hd (by decide)
  unfold CaptureFree
  rw [localsOf_stringerPieces]
  unfold stringerPieces
  split
  case isTrue =>
    -- without fields there is no receiver to name
    simp only [List.forall_mem_cons, List.forall_mem_append, Piece.Resolved, true_and]
    exact ⟨resolve_type h htype hparam, resolved_receiverParams,
      resolve_native h (by decide) hstring, by simp⟩
  case isFalse hargs =>
    obtain ⟨hfree, hfmt⟩ := receiverName_not_mem d.params
    have hapart : Locals.Apart ⟨d.params, [receiverName d.params], []⟩ := by
      simpa [Locals.Apart] using ⟨hfree, h.apart.params d hd⟩
    simp only [List.forall_mem_cons, List.forall_mem_append, Piece.Resolved, true_and]
    refine ⟨resolve_type h htype hparam, resolved_receiverParams,
      resolve_native h (by decide) hstring, ?_, resolved_separate ?_, by simp⟩
    · -- the receiver is not named like the package that formats
      have hnotParam : ("fmt" : Text) ∉ d.params := mentioned_not_mem_params h hd (by decide)
      rw [Locals.resolve_outer, fileBinder_fmt (hneeds fun hnil => hargs (by simp [hnil]))]
      simpa [Locals.visible] using ⟨hfmt.symm, hnotParam⟩
    · intro ps hps
      obtain ⟨a, -, rfl⟩ := List.mem_map.mp hps
      simpa [Piece.Resolved] using Locals.resolve_param hapart .body (by decide) rfl

/-- The names that a matching function binds. -/
def matcherLocals (d : DataType) : Locals :=
  ⟨d.params ++ [(matchNames d).result], (matchNames d).value :: (matchNames d).handlers,
    [(matchNames d).switched]⟩

theorem matcherLocals_apart (h : Accepted doc) (hd : d ∈ doc.types) : (matcherLocals d).Apart := by
  have hnodup : ((matchNames d).all ++ d.params).Nodup := by
    refine List.nodup_append.mpr ⟨matchNames_nodup d, h.apart.params d hd, ?_⟩
    rintro name hname _ hparam rfl
    exact not_mem_matchTaken hname (by simp [matchTaken, hparam])
  refine (List.Perm.nodup_iff ?_).mpr hnodup
  rw [List.perm_iff_count]
  intro name
  simp only [matcherLocals, MatchNames.all, List.count_append, List.count_cons, List.count_nil]
  omega

/-- A name that the matching function must not bind is seen as what it is outside. -/
theorem not_visible_of_taken {name : Text} (htaken : name ∈ matchTaken d) (hparam : name ∉ d.params)
    (region : Region) : name ∉ (matcherLocals d).visible region := by
  have hfree : name ∉ (matchNames d).all := fun hmem => not_mem_matchTaken hmem htaken
  cases region <;> simp_all [Locals.visible, matcherLocals, MatchNames.all]

theorem resolve_constructor (h : Accepted doc) (hd : d ∈ doc.types) (hvariant : d.isRecord = false)
    {c : Constructor} (hc : c ∈ d.constructors) (region : Region) :
    (matcherLocals d).resolve (fileBinder doc d) region c.name = some .declared := by
  refine resolve_type h (constructor_mem_typeNames hd hvariant hc)
    (not_visible_of_taken ?_ (h.apart.notConstructor d hd c hc) region)
  have hname : c.name ∈ d.constructors.map (·.name) := List.mem_map_of_mem hc
  simp [matchTaken, hname]

theorem resolve_result (h : Accepted doc) (hd : d ∈ doc.types) :
    (matcherLocals d).resolve (fileBinder doc d) .signature (matchNames d).result =
      some (.typeParam d.params.length) :=
  Locals.resolve_typeParam (matcherLocals_apart h hd) (by simp [matcherLocals])

theorem resolved_matcherParamUses (h : Accepted doc) (hd : d ∈ doc.types) (region : Region) :
    ∀ p ∈ paramUses region d.params, p.Resolved (matcherLocals d) (fileBinder doc d) :=
  resolved_paramUses (matcherLocals_apart h hd) (List.prefix_append _ _)

theorem resolved_handlerPieces (h : Accepted doc) (hd : d ∈ doc.types)
    (hvariant : d.isRecord = false) (handler : Text) {c : Constructor} (hc : c ∈ d.constructors) :
    ∀ p ∈ handlerPieces d handler c, p.Resolved (matcherLocals d) (fileBinder doc d) := by
  simp only [handlerPieces, List.forall_mem_cons, List.forall_mem_append, Piece.Resolved, true_and]
  exact ⟨resolve_constructor h hd hvariant hc _, resolved_matcherParamUses h hd _,
    resolve_result h hd, by simp⟩

theorem resolved_casePieces (h : Accepted doc) (hd : d ∈ doc.types) (hvariant : d.isRecord = false)
    {handler : Text × Nat} (hplace : (matchNames d).handlers[handler.2]? = some handler.1)
    {c : Constructor} (hc : c ∈ d.constructors) :
    ∀ p ∈ casePieces d handler c, p.Resolved (matcherLocals d) (fileBinder doc d) := by
  simp only [casePieces, List.forall_mem_cons, List.forall_mem_append, Piece.Resolved, true_and]
  exact ⟨resolve_constructor h hd hvariant hc _, resolved_matcherParamUses h hd _,
    Locals.resolve_param (matcherLocals_apart h hd) .clause (by decide) hplace,
    Locals.resolve_switched List.mem_cons_self, by simp⟩

theorem captureFree_matcherPieces (h : Accepted doc) (hd : d ∈ doc.types)
    (hvariant : d.isRecord = false) (hneeds : needsFormatting d = true) :
    CaptureFree doc d (matcherPieces d) := by
  have hvalue : (matcherLocals d).resolve (fileBinder doc d) .body (matchNames d).value =
      some (.param 0) :=
    Locals.resolve_param (matcherLocals_apart h hd) .body (by decide) rfl
  -- what the function mentions from outside was counted as taken when its names were chosen
  have hmentioned : ∀ name ∈ [("fmt" : Text), "panic"],
      name ∉ (matcherLocals d).visible .body := by
    intro name hname
    refine not_visible_of_taken ?_ (mentioned_not_mem_params h hd ?_) .body
    · exact List.mem_append_right _ (List.mem_cons_of_mem _ hname)
    · exact List.mem_append_left nativeTypes hname
  have hlocals : localsOf (matcherPieces d) = matcherLocals d := localsOf_matcherPieces
  unfold CaptureFree
  rw [hlocals]
  simp only [matcherPieces, List.forall_mem_cons, List.forall_mem_append, Piece.Resolved, true_and]
  refine ⟨resolved_paramDecls ?_, resolved_separate ?_, resolve_result h hd, hvalue, ?_, ?_, ?_,
    hvalue, by simp⟩
  · refine resolve_native h (by decide) ?_
    have hany : ("any" : Text) ∉ d.params := mentioned_not_mem_params h hd (by decide)
    simpa [Locals.visible, matcherLocals] using ⟨hany, (result_ne_any d).symm⟩
  · -- the value, then the handlers
    rw [List.forall_mem_cons]
    constructor
    · simp only [List.forall_mem_cons, Piece.Resolved, true_and]
      exact ⟨resolve_type h (name_mem_typeNames hd)
        (not_visible_of_taken (by simp [matchTaken]) (h.apart.notOwn d hd) _),
        resolved_matcherParamUses h hd _⟩
    · intro ps hps
      obtain ⟨handler, -, c, hc, rfl⟩ := exists_of_mem_zipWith hps
      exact resolved_handlerPieces h hd hvariant handler hc
  · -- the cases
    intro p hp
    obtain ⟨ps, hps, hp⟩ := List.mem_flatten.mp hp
    obtain ⟨handler, hentry, c, hc, rfl⟩ := exists_of_mem_zipWith hps
    exact resolved_casePieces h hd hvariant (List.mem_zipIdx_iff_getElem?.mp hentry) hc p hp
  · exact resolve_native h (by decide) (hmentioned _ (by decide))
  · rw [Locals.resolve_outer (hmentioned _ (by decide)), fileBinder_fmt hneeds]

/-- Every identifier in the declarations of an accepted document is bound as it is meant to be,
but for ambiguous names in the types of fields. -/
theorem accounted_declarations (h : Accepted doc) (hd : d ∈ doc.types) :
    ∀ pieces ∈ declarations doc d, ∀ p ∈ pieces, p.Accounted doc d (localsOf pieces) := by
  have hown := name_mem_typeNames hd
  have hnotOwn := h.apart.notOwn d hd
  rcases declarations_cases doc d with ⟨c, hone, -, hpieces, -⟩ | ⟨hvariant, hpieces, -⟩
  · have hc : c ∈ d.constructors := hone ▸ List.mem_cons_self
    have hstringer := captureFree_stringerPieces h hd hown hnotOwn (needsFormatting_of_arg hc)
    rw [hpieces, recordDeclarations]
    simp only [List.forall_mem_cons (l := [_, _]), List.forall_mem_cons (l := [_]),
      List.forall_mem_singleton]
    exact ⟨accounted_structPieces h hd _ _ hc, accounted_builderPieces h hd hown hnotOwn hc,
      accounted_of_resolved hstringer⟩
  · have hneeds := needsFormatting_of_variant hvariant
    rw [hpieces, variantDeclarations]
    intro pieces hmem
    simp only [List.mem_cons, List.mem_append, List.mem_flatMap, List.not_mem_nil,
      or_false] at hmem
    rcases hmem with rfl | ⟨c, hc, hmem⟩ | rfl
    · exact accounted_of_resolved (captureFree_interfacePieces h hd)
    · have htype := constructor_mem_typeNames hd hvariant hc
      have hnotParam := h.apart.notConstructor d hd c hc
      simp only [constructorDeclarations, List.mem_cons, List.not_mem_nil, or_false] at hmem
      rcases hmem with rfl | rfl | rfl | rfl
      · exact accounted_structPieces h hd _ _ hc
      · exact accounted_of_resolved (captureFree_markerPieces h _ htype hnotParam)
      · exact accounted_builderPieces h hd htype hnotParam hc
      · exact accounted_of_resolved
          (captureFree_stringerPieces h hd htype hnotParam fun _ => hneeds)
    · exact accounted_of_resolved (captureFree_matcherPieces h hd hvariant hneeds)

end Accepted

/-! ## Functions -/

/-- The struct that holds the values of a constructor. -/
def structName (d : DataType) (c : Constructor) : Text := if d.isRecord then d.name else c.name

/-- The names that a matching function binds are told apart from each other and from the names
around them. -/
structure MatchApart (d : DataType) : Prop where
  distinct : (matchNames d).all.Nodup
  notParam : ∀ name ∈ (matchNames d).all, name ∉ d.params
  notType : ∀ name ∈ (matchNames d).all, name ≠ d.name
  notConstructor : ∀ name ∈ (matchNames d).all, ∀ c ∈ d.constructors, name ≠ c.name
  notMentioned : ∀ name ∈ (matchNames d).all, name ≠ "fmt" ∧ name ≠ "panic"

/-- The parameters of a function that builds a constructor are told apart, and each is what the
field at its place is set to. -/
structure BuilderApart (doc : Doc) (d : DataType) (c : Constructor) : Prop where
  distinct : (builderParams d.params (structName d c) c).Nodup
  notParam : ∀ name ∈ builderParams d.params (structName d c) c, name ∉ d.params
  notStruct : ∀ name ∈ builderParams d.params (structName d c) c, name ≠ structName d c
  /-- The struct is declared with the fields of the constructor. -/
  struct : ∃ comment, .plain comment ::
    structPieces doc (structName d c) d.params (fieldsOf (recordNames doc) c) ∈ declarations doc d
  /-- The function is declared, and its body sets the fields of the struct in their order. -/
  sets : ∃ function ∈ declarations doc d, ∃ signature,
    textOf function = signature ++ ("\treturn " ++ structName d c ++ paramArgs d.params ++ "\x7b" ++
      Text.join ", " ((fieldsOf (recordNames doc) c).zipWith
        (fun field (name : Text) => field.1 ++ ": " ++ name)
        (builderParams d.params (structName d c) c)) ++ "\x7d\n\x7d\n")
  /-- No field is left out. -/
  complete : (builderParams d.params (structName d c) c).length =
    (fieldsOf (recordNames doc) c).length

/-- The type parameters of a data type are told apart from the names that are used beside them. -/
structure ParamsApart (d : DataType) : Prop where
  notMentioned : ∀ param ∈ d.params, param ≠ "fmt" ∧ param ≠ "panic"
  notType : ∀ param ∈ d.params, param ≠ d.name
  notConstructor : ∀ param ∈ d.params, ∀ c ∈ d.constructors, param ≠ c.name

section Apart

variable {doc : Doc} {d : DataType}

theorem matchApart (d : DataType) : MatchApart d := by
  have hne : ∀ name ∈ (matchNames d).all, ∀ taken ∈ matchTaken d, name ≠ taken := by
    rintro name hname _ htaken rfl
    exact not_mem_matchTaken hname htaken
  refine ⟨matchNames_nodup d, fun name hname hparam => ?_, fun name hname => ?_,
    fun name hname c hc => ?_, fun name hname => ⟨?_, ?_⟩⟩
  · exact hne name hname name (by simp [matchTaken, hparam]) rfl
  · exact hne name hname _ (by simp [matchTaken])
  · have hmem : c.name ∈ d.constructors.map (·.name) := List.mem_map_of_mem hc
    exact hne name hname _ (by simp [matchTaken, hmem])
  · exact hne name hname _ (by simp [matchTaken])
  · exact hne name hname _ (by simp [matchTaken])

theorem struct_mem_declarations (doc : Doc) {c : Constructor} (hc : c ∈ d.constructors) :
    (∃ comment, .plain comment ::
      structPieces doc (structName d c) d.params (fieldsOf (recordNames doc) c) ∈
        declarations doc d) ∧
    builderPieces doc d.params (structName d c) d.name c ∈ declarations doc d := by
  unfold structName
  rcases declarations_cases doc d with ⟨e, hone, hrecord, hpieces, -⟩ | ⟨hvariant, hpieces, -⟩
  · rw [hone, List.mem_singleton] at hc
    subst hc
    rw [hpieces, hrecord]
    exact ⟨⟨_, List.mem_cons_self⟩, by simp [recordDeclarations]⟩
  · rw [hpieces, hvariant, variantDeclarations]
    have hmem : ∀ pieces ∈ constructorDeclarations doc d c, pieces ∈ interfacePieces d ::
        (d.constructors.flatMap (constructorDeclarations doc d) ++ [matcherPieces d]) :=
      fun pieces hpieces => List.mem_cons_of_mem _
        (List.mem_append_left _ (List.mem_flatMap.mpr ⟨c, hc, hpieces⟩))
    exact ⟨⟨_, hmem _ List.mem_cons_self⟩, hmem _ (by simp [constructorDeclarations])⟩

theorem zipWith_fieldsOf (records names : List Text) (c : Constructor) :
    (fieldsOf records c).zipWith (fun field (name : Text) => field.1 ++ (": " ++ name)) names =
      names.zipWith (fun name a => exported a.name ++ (": " ++ name)) c.args := by
  rw [fieldsOf, List.zipWith_map_left, List.zipWith_comm]

theorem builderApart {c : Constructor} (hc : c ∈ d.constructors) : BuilderApart doc d c := by
  have hnames := fun name (hname : name ∈ builderParams d.params (structName d c) c) =>
    not_mem_of_mem_builderParams hname
  obtain ⟨hstruct, hbuilder⟩ := struct_mem_declarations doc hc
  refine ⟨FreshName.chooseMany_nodup _ _, fun name hname => (hnames name hname).1,
    fun name hname => (hnames name hname).2, hstruct, ⟨_, hbuilder, ?_⟩, ?_⟩
  · rw [textOf_builderPieces]
    delta builder
    simp only [List.append_assoc, zipWith_fieldsOf]
    simp only [← List.append_assoc]
    exact ⟨_, rfl⟩
  · simp [builderParams, fieldsOf]

theorem paramsApart (h : Accepted doc) (hd : d ∈ doc.types) : ParamsApart d := by
  refine ⟨fun param hparam => ⟨?_, ?_⟩, ?_, ?_⟩
  · rintro rfl
    exact mentioned_not_mem_params h hd (by decide) hparam
  · rintro rfl
    exact mentioned_not_mem_params h hd (by decide) hparam
  · rintro _ hparam rfl
    exact h.apart.notOwn d hd hparam
  · rintro _ hparam c hc rfl
    exact h.apart.notConstructor d hd c hc hparam

end Apart

/-- The declarations of an accepted data type are free of capture iff the names in the types of its
fields are unambiguous. -/
theorem captureFree_iff {doc : Doc} {d : DataType} (h : Accepted doc) (hd : d ∈ doc.types) :
    (∀ pieces ∈ declarations doc d, CaptureFree doc d pieces) ↔
      ∀ name ∈ fieldTypeNames doc d, Unambiguous doc d name := by
  constructor
  · intro hfree name hname
    obtain ⟨c, hc, hname⟩ := List.mem_flatMap.mp hname
    obtain ⟨f, hf, hname⟩ := List.mem_flatMap.mp hname
    -- the struct of the constructor mentions the name in the line of its field
    obtain ⟨⟨comment, hstruct⟩, -⟩ := struct_mem_declarations doc hc
    have hresolved := hfree _ hstruct
    unfold CaptureFree at hresolved
    rw [localsOf_cons_plain, localsOf_structPieces] at hresolved
    have hfields : ∀ p ∈ fieldPieces doc d.params none (fieldsOf (recordNames doc) c),
        p.Resolved ⟨d.params, [], []⟩ (fileBinder doc d) := by
      intro p hp
      refine hresolved p ?_
      have hne : (fieldsOf (recordNames doc) c).isEmpty = false := by
        cases hfs : fieldsOf (recordNames doc) c with
        | nil => simp [hfs] at hf
        | cons => rfl
      simp [structPieces, hne, hp]
    have hmention := (forall_mem_fieldPieces (fun _ => trivial) doc d.params none _).mp hfields f hf
      name hname
    obtain ⟨a, ha, -⟩ := List.mem_map.mp hf
    have hneeds := needsFormatting_of_arg hc (List.ne_nil_of_mem ha)
    exact (resolved_typeMention_iff h hd (typeParams_apart h hd) rfl hneeds name).mp hmention
  · intro hclear pieces hpieces p hp
    rcases accounted_declarations h hd pieces hpieces p hp with hresolved | ⟨name, hname, -, hnot⟩
    · exact hresolved
    · exact absurd (hclear name hname) hnot

/-- **What generated functions capture.** In every declaration of an accepted document the names
that are bound are told apart from those that are used beside them. So every identifier is bound as
it is meant to be, but for the ambiguous names in the types of fields, and a data type is free of
capture iff it has none. The declarations are the text that is rendered. -/
theorem functions_capture_free_iff {file : SourceFile} {doc : Doc} {package : Text}
    (read : file.parse (Backend.go package).wordTable = .ok doc)
    (passes : (doc.check (Backend.go package).rules).isEmpty = true) {d : DataType}
    (hd : d ∈ doc.types) :
    MatchApart d ∧ (∀ c ∈ d.constructors, BuilderApart doc d c) ∧
      (receiverName d.params ∉ d.params ∧ receiverName d.params ≠ "fmt") ∧ ParamsApart d ∧
      (declarations doc d).flatMap textOf = decls (recordNames doc) d ∧
      (∀ pieces ∈ declarations doc d, ∀ p ∈ pieces,
        p.Resolved (localsOf pieces) (fileBinder doc d) ∨
          ∃ name ∈ fieldTypeNames doc d, p = typeMention doc d.params name ∧
            ¬ Unambiguous doc d name) ∧
      ((∀ pieces ∈ declarations doc d, CaptureFree doc d pieces) ↔
        ∀ name ∈ fieldTypeNames doc d, Unambiguous doc d name) := by
  have h := accepted_of_check read passes
  exact ⟨matchApart d, fun c hc => builderApart hc, receiverName_not_mem d.params,
    paramsApart h hd, text_declarations doc d, accounted_declarations h hd, captureFree_iff h hd⟩

/-- A source whose names are the ones that generated code would choose first, with a type from
elsewhere. -/
def wantedNames : SourceFile :=
  { id := 0, path := "wanted.adt"
    content := "Either<R, x, onLeft> = Left(R R, int Left) | v(x fmt, Time t)", flags := 0 }

/-- Where the names that generated code wants are taken, it chooses others. -/
theorem functions_capture_free_wanted :
    ∃ doc d, wantedNames.parse (Backend.go "").wordTable = .ok doc ∧
      (doc.check (Backend.go "").rules).isEmpty = true ∧ d ∈ doc.types ∧
      ((matchNames d).all = ["R1", "v1", "x1", "onLeft1", "onv"] ∧
        receiverName d.params = "x1" ∧
        d.constructors.map (fun c => builderParams d.params (structName d c) c) =
          ([["R1", "Left1"], ["fmt", "t"]] : List (List Text)) ∧
        fieldTypeNames doc d = ["R", "int32", "x", "Time"]) ∧
      MatchApart d ∧ ∀ pieces ∈ declarations doc d, CaptureFree doc d pieces := by
  have hread : wantedNames.parse (Backend.go "").wordTable = .ok ⟨"wanted.adt", "", [],
      [⟨"Either", ["R", "x", "onLeft"], [⟨"Left", [⟨.cls "R" [], "R"⟩, ⟨.prim .int, "Left"⟩]⟩,
        ⟨"v", [⟨.cls "x" [], "fmt"⟩, ⟨.cls "Time" [], "t"⟩]⟩]⟩]⟩ := rfl
  have hfree := functions_capture_free_iff hread (by decide) List.mem_cons_self
  refine ⟨_, _, hread, by decide, List.mem_cons_self, by decide +kernel, hfree.1,
    hfree.2.2.2.2.2.2.mpr fun name hname => ?_⟩
  have hnames : name ∈ (["R", "int32", "x", "Time"] : List Text) := hname
  simp only [List.mem_cons, List.not_mem_nil, or_false] at hnames
  rcases hnames with rfl | rfl | rfl | rfl <;> exact ⟨by decide +kernel, by decide +kernel⟩

/-- A source with types from elsewhere that are named like a generated function, the imported
package and a function of the language. -/
def strayTypes : SourceFile :=
  { id := 0, path := "stray.adt", content := "A = A(NewA x, fmt y, len z)\n", flags := 0 }

/-- A source with a record that is named like a type parameter. -/
def hiddenRecord : SourceFile :=
  { id := 0, path := "hidden.adt", content := "Rec = Rec(int x)\nBox<Rec> = Box(Rec value)\n"
    flags := 0 }

/-- What the pieces of the declarations of a data type are bound by that use a name as meant. -/
def bindersOf (doc : Doc) (d : DataType) (name : Text) (meant : Binder) : List (Option Binder) :=
  (declarations doc d).filterMap fun pieces =>
    if .uses .signature name meant ∈ pieces then
      some ((localsOf pieces).resolve (fileBinder doc d) .signature name)
    else none

/-- Both sources are accepted. In the first, names that are meant for types from elsewhere are bound
by the package, by the import and by the language; in the second, the name of the record is bound by
the type parameter. -/
theorem field_types_captured :
    (∃ doc d, strayTypes.parse (Backend.go "").wordTable = .ok doc ∧
      (doc.check (Backend.go "").rules).isEmpty = true ∧ d ∈ doc.types ∧
      bindersOf doc d "NewA" .foreign = [some .declared, some .declared] ∧
      bindersOf doc d "fmt" .foreign = [some .imported, some .imported] ∧
      bindersOf doc d "len" .foreign = [some .predeclared, some .predeclared]) ∧
    ∃ doc d, hiddenRecord.parse (Backend.go "").wordTable = .ok doc ∧
      (doc.check (Backend.go "").rules).isEmpty = true ∧ d ∈ doc.types ∧
      bindersOf doc d "Rec" .declared = [some (.typeParam 0), some (.typeParam 0)] := by
  refine ⟨⟨⟨"stray.adt", "", [], [⟨"A", [], [⟨"A", [⟨.cls "NewA" [], "x"⟩, ⟨.cls "fmt" [], "y"⟩,
      ⟨.cls "len" [], "z"⟩]⟩]⟩]⟩, _, rfl, by decide, List.mem_cons_self, by decide +kernel,
      by decide +kernel, by decide +kernel⟩,
    ⟨⟨"hidden.adt", "", [], [⟨"Rec", [], [⟨"Rec", [⟨.prim .int, "x"⟩]⟩]⟩,
      ⟨"Box", ["Rec"], [⟨"Box", [⟨.cls "Rec" [], "value"⟩]⟩]⟩]⟩, _, rfl, by decide,
      .tail _ (.head _), by decide +kernel⟩⟩

end AdtCompiler.Go
