import AdtCompiler.Proofs.GoPackage

/-!
# Declared names in the types of fields

A class type names a type parameter, a data type of the document, or a class from elsewhere. Before
the document is looked at, the names of collections and of standard classes are taken as native
types, if they have as many type arguments as those classes have. After that, whatever is spelled
like a record is a pointer to the record, even where it is a type parameter.

So a type parameter is written as itself unless its name is that of a standard class or of a record,
and a data type is referred to unless it is declared like a standard class or collection.

## Contents

- `isNative`: the names that have a native form, by the number of type arguments
- `referenceText`: how a generated type is referred to
- `declared_names_in_types`: which class types are written as what they name
-/

namespace AdtCompiler

namespace GoType

/-- Type arguments in brackets, if there are any. -/
def bracketText (args : List Text) : Text :=
  if args = [] then [] else "[" ++ Text.join ", " args ++ "]"

theorem join_textMore (arg : GoType) (rest : List GoType) :
    Text.join ", " (text arg :: rest.map text) = text arg ++ textMore rest := by
  induction rest generalizing arg with
  | nil => simp [Text.join, textMore]
  | cons next rest ih =>
    simp [Text.join, ih next, textMore]

theorem text_named (name : Text) (args : List GoType) :
    (named name args).text = name ++ bracketText (args.map text) := by
  cases args with
  | nil => simp [text, bracketText]
  | cons arg rest =>
    rw [bracketText, if_neg (by simp), List.map_cons, join_textMore, text]
    simp

end GoType

namespace Go

/-! ## Native forms -/

/-- The names that have a native form when they have a number of type arguments. -/
def isNative (name : Text) : Nat → Bool
  | 0 => (nativeClasses.lookup name).isSome
  | 1 => name == "List" || name == "Set" || name == "Optional"
  | 2 => name == "Map"
  | _ => false

/-- How a generated type is referred to: by its name with type arguments in brackets, and through a
pointer if it is a record. -/
def referenceText (d : DataType) (args : List Text) : Text :=
  (if d.isRecord then ("*" : Text) else []) ++ d.name ++ GoType.bracketText args

section Forms

variable {records : List Text} {name : Text} {args : List GoType} {doc : Doc} {d : DataType}

theorem typesOf_eq_map (records : List Text) (types : List Ty) :
    typesOf records types = types.map (typeOf records) := by
  induction types with
  | nil => rw [typesOf, List.map_nil]
  | cons t types ih => rw [typesOf, ih, List.map_cons]

/-- Type arguments that have forms are read as they are. -/
theorem readArgs_eq_self (h : .missing ∉ args) : readArgs args = args := by
  fun_induction readArgs args with
  | case1 a => simp at h
  | case2 a rest _ ih => rw [ih (fun hmem => h (List.mem_cons_of_mem _ hmem))]
  | case3 => rfl

/-- Without a native form, a class is named with its type arguments. -/
theorem classType_of_not_native (hnative : isNative name args.length = false)
    (hargs : .missing ∉ args) :
    classType records name args =
      if name ∈ records then .pointer (.named name args) else .named name args := by
  have hself := readArgs_eq_self hargs
  match args, hself with
  | [], hself =>
    have hnone : nativeClasses.lookup name = none := by simpa [isNative] using hnative
    simp [classType, hnone, hself]
  | [a], hself =>
    simp only [isNative, List.length_cons, List.length_nil, Bool.or_eq_false_iff,
      beq_eq_false_iff_ne] at hnative
    simp [classType, hnative, hself]
  | [a, b], hself =>
    simp only [isNative, List.length_cons, List.length_nil, beq_eq_false_iff_ne] at hnative
    simp [classType, hnative, hself]
  | a :: b :: c :: rest, hself => simp [classType, hself]

/-- Native forms of standard classes are words of their own. -/
theorem text_of_mem_nativeClasses : ∀ entry ∈ nativeClasses, entry.2.text ≠ [] ∧
    entry.2.text ≠ entry.1 ∧ entry.2.text ≠ "*" ++ entry.1 := by
  decide

theorem mem_of_lookup_nativeClasses {native : GoType}
    (h : nativeClasses.lookup name = some native) : (name, native) ∈ nativeClasses := by
  obtain ⟨front, back, hsplit, -⟩ := List.lookup_eq_some_iff.mp h
  rw [hsplit]
  exact List.mem_append_right front List.mem_cons_self

/-- Every class has a form. -/
theorem classType_ne_missing (records : List Text) (name : Text) (args : List GoType) :
    classType records name args ≠ .missing := by
  -- what is named is a named type or a pointer to one
  have hdeclared (args : List GoType) :
      (if records.contains name then GoType.pointer (.named name (readArgs args))
        else .named name (readArgs args)) ≠ .missing := by
    split <;> simp
  fun_cases classType records name args with
  | case1 native hlookup =>
    rintro rfl
    exact (text_of_mem_nativeClasses _ (mem_of_lookup_nativeClasses hlookup)).1 rfl
  | _ => first | exact hdeclared _ | simp

/-- A type that can be read has a form. -/
theorem typeOf_ne_missing {table : WordTable} {t : Ty} (h : t.Readable table) :
    typeOf records t ≠ .missing := by
  cases t with
  | prim kind =>
    rw [Ty.Readable] at h
    cases kind <;> simp [typeOf, Primitive.goType, GoType.word, Primitive.listed] at h ⊢
  | cls name args =>
    rw [typeOf]
    exact classType_ne_missing records name _
  | array elem => simp [typeOf]
  | absent => simp [Ty.Readable] at h

/-- Texts with different first bytes are different. -/
theorem ne_of_head? {s t : Text} (b c : UInt8) (hs : s.head? = some b) (ht : t.head? = some c)
    (h : b ≠ c) : s ≠ t := by
  rintro rfl
  exact h (Option.some.inj (hs.symm.trans ht))

/-- No native form is written like a reference to a generated type. -/
theorem text_ne_of_native (hnative : isNative name args.length = true) {mark : Text}
    (hmark : mark = [] ∨ mark = "*") :
    (classType records name args).text ≠
      mark ++ name ++ GoType.bracketText (args.map (·.text)) := by
  match args with
  | [] =>
    obtain ⟨native, hlookup⟩ := Option.isSome_iff_exists.mp hnative
    have htext := text_of_mem_nativeClasses _ (mem_of_lookup_nativeClasses hlookup)
    rcases hmark with rfl | rfl <;> simp [classType, hlookup, GoType.bracketText, htext]
  | [a] =>
    simp only [isNative, List.length_cons, List.length_nil, Bool.or_eq_true, beq_iff_eq] at hnative
    rcases hnative with (rfl | rfl) | rfl <;> rcases hmark with rfl | rfl
    · exact ne_of_head? (Text.byte '[') (Text.byte 'L') rfl rfl (by decide)
    · exact ne_of_head? (Text.byte '[') (Text.byte '*') rfl rfl (by decide)
    · exact ne_of_head? (Text.byte 'm') (Text.byte 'S') rfl rfl (by decide)
    · exact ne_of_head? (Text.byte 'm') (Text.byte '*') rfl rfl (by decide)
    · exact ne_of_head? (Text.byte '*') (Text.byte 'O') rfl rfl (by decide)
    · -- both begin with a star, but only one of them has more than the argument behind it
      have htext : (classType records "Optional" [a]).text = "*" ++ a.text := rfl
      have hbracket : GoType.bracketText [a.text] = "[" ++ a.text ++ "]" := rfl
      have hname : ("Optional" : Text).length = 8 := by decide
      intro heq
      have hlength := congrArg List.length heq
      simp only [htext, List.map_cons, List.map_nil, hbracket, List.length_append, hname] at hlength
      omega
  | [a, b] =>
    simp only [isNative, List.length_cons, List.length_nil, beq_iff_eq] at hnative
    subst hnative
    rcases hmark with rfl | rfl
    · exact ne_of_head? (Text.byte 'm') (Text.byte 'M') rfl rfl (by decide)
    · exact ne_of_head? (Text.byte 'm') (Text.byte '*') rfl rfl (by decide)
  | a :: b :: c :: rest => simp [isNative] at hnative

/-! ## Class types in documents -/

theorem mem_recordNames : name ∈ recordNames doc ↔ ∃ d ∈ doc.types, d.isRecord ∧ d.name = name := by
  simp [recordNames, and_assoc]

/-- A data type of an accepted document is the only one of its name. -/
theorem mem_recordNames_of_declared (h : Accepted doc) (hd : d ∈ doc.types) :
    d.name ∈ recordNames doc ↔ d.isRecord = true := by
  rw [mem_recordNames]
  constructor
  · rintro ⟨e, he, hrecord, hname⟩
    rwa [← List.inj_on_of_nodup_map h.apart.types_nodup he hd hname]
  · exact fun hrecord => ⟨d, hd, hrecord, rfl⟩

/-- A class type is written by its name, behind a star or not, iff it has no native form and the
star is there for a record. -/
theorem text_typeOf_eq_iff (records : List Text) {table : WordTable} {args : List Ty}
    (hreadable : (Ty.cls name args).Readable table) {mark : Text} (hmark : mark = [] ∨ mark = "*") :
    (typeOf records (.cls name args)).text =
        mark ++ name ++ GoType.bracketText (args.map fun t => (typeOf records t).text) ↔
      isNative name args.length = false ∧ (mark = "*" ↔ name ∈ records) := by
  have hmissing : .missing ∉ args.map (typeOf records) := by
    rw [Ty.Readable, Ty.allReadable_iff] at hreadable
    intro hmem
    obtain ⟨t, ht, htype⟩ := List.mem_map.mp hmem
    exact typeOf_ne_missing (hreadable.2 t ht) htype
  have htexts : (args.map fun t => (typeOf records t).text) =
      (args.map (typeOf records)).map (·.text) := by
    rw [List.map_map]
    rfl
  have hlength : (args.map (typeOf records)).length = args.length := List.length_map _
  rw [typeOf, typesOf_eq_map, htexts, ← hlength]
  cases hnative : isNative name (args.map (typeOf records)).length with
  | true => exact iff_of_false (text_ne_of_native hnative hmark) (by simp)
  | false =>
    rw [classType_of_not_native hnative hmissing]
    have hstar : ("*" : Text) ≠ [] := by decide
    by_cases hrecord : name ∈ records
    · rw [if_pos hrecord, GoType.text, GoType.text_named, List.append_assoc,
        List.append_cancel_right_eq]
      simp [hrecord, eq_comm]
    · rw [if_neg hrecord, GoType.text_named, List.append_assoc]
      rcases hmark with rfl | rfl <;> simp [hrecord, hstar, Ne.symm hstar]

end Forms

/-- **Which class types are written as what they name.** In a document that was read and checked for
Go, take a class type anywhere in the type of a constructor argument. Where it names a type
parameter, it is written as that name iff the name is neither that of a standard class nor that of a
record of the document. Where it names a data type instead, with as many type arguments as there are
parameters, it is written as a reference to the generated type iff there is no native form for the
name with that many type arguments. -/
theorem declared_names_in_types {file : SourceFile} {doc : Doc} {package : Text}
    (read : file.parse (Backend.go package).wordTable = .ok doc)
    (passes : (doc.check (Backend.go package).rules).isEmpty = true) {d : DataType}
    (hd : d ∈ doc.types) {c : Constructor} (hc : c ∈ d.constructors) {a : Arg} (ha : a ∈ c.args)
    {name : Text} {args : List Ty} (hin : (Ty.cls name args).Within a.type) :
    (name ∈ d.params → args = [] →
      ((typeOf (recordNames doc) (.cls name args)).text = name ↔
        isNative name 0 = false ∧ name ∉ recordNames doc)) ∧
    (¬ (name ∈ d.params ∧ args = []) → ∀ e ∈ doc.types, e.name = name →
      e.params.length = args.length →
      ((typeOf (recordNames doc) (.cls name args)).text =
          referenceText e (args.map fun t => (typeOf (recordNames doc) t).text) ↔
        isNative name args.length = false)) := by
  have h := accepted_of_check read passes
  have hreadable := hin.readable (((h.readable.types d hd).constructors c hc).args a ha).type
  constructor
  · -- a type parameter is looked up like any other name, so a record of that name hides it
    rintro - rfl
    have hnone : ([] : Text) ≠ "*" := by decide
    have hiff := text_typeOf_eq_iff (recordNames doc) hreadable (.inl rfl)
    simpa [GoType.bracketText, hnone] using hiff
  · rintro - e he rfl -
    have hmark : (if e.isRecord then ("*" : Text) else []) = [] ∨
        (if e.isRecord then ("*" : Text) else []) = "*" := by
      cases e.isRecord <;> simp
    have hstar : (if e.isRecord then ("*" : Text) else []) = "*" ↔ e.name ∈ recordNames doc := by
      rw [mem_recordNames_of_declared h he]
      cases e.isRecord <;> decide
    rw [referenceText, text_typeOf_eq_iff (recordNames doc) hreadable hmark]
    exact and_iff_left hstar

/-! ## Two documents -/

namespace Forest

/-- A record and a variant type that refer to each other and to themselves, inside a collection. -/
def file : SourceFile :=
  { id := 0, path := "forest.adt"
    content := "Pair<A> = Pair(A one, Tree<A> rest)\nTree<A> = Leaf | Node(Map<A, Pair<A>>[] kids)"
    flags := 0 }

def pair : DataType :=
  ⟨"Pair", ["A"], [⟨"Pair", [⟨.cls "A" [], "one"⟩, ⟨.cls "Tree" [.cls "A" []], "rest"⟩]⟩]⟩

/-- The argument of `Node`. -/
def kids : Arg := ⟨.array (.cls "Map" [.cls "A" [], .cls "Pair" [.cls "A" []]]), "kids"⟩

def tree : DataType := ⟨"Tree", ["A"], [⟨"Leaf", []⟩, ⟨"Node", [kids]⟩]⟩

def doc : Doc := ⟨"forest.adt", [], [], [pair, tree]⟩

theorem parse_file : file.parse (Backend.go "").wordTable = .ok doc := by rfl

theorem passes_doc : (doc.check (Backend.go "").rules).isEmpty = true := by decide

theorem pair_within : (Ty.cls "Pair" [.cls "A" []]).Within kids.type :=
  .elem (.arg (List.mem_cons_of_mem _ List.mem_cons_self) .here)

end Forest

/-- A record inside a collection is referred to through a pointer. -/
theorem declared_names_in_types_forest :
    (typeOf (recordNames Forest.doc) (.cls "Pair" [.cls "A" []])).text =
      referenceText Forest.pair ["A"] ∧ referenceText Forest.pair ["A"] = "*Pair[A]" := by
  have hdeclared := (declared_names_in_types Forest.parse_file Forest.passes_doc
    (List.mem_cons_of_mem Forest.pair List.mem_cons_self)
    (List.mem_cons_of_mem _ List.mem_cons_self) List.mem_cons_self Forest.pair_within).2
    (by simp) Forest.pair List.mem_cons_self rfl rfl
  exact ⟨hdeclared.mpr (by decide), by decide⟩

namespace Clash

/-- A data type named like a collection, and a type parameter named like a record. -/
def file : SourceFile :=
  { id := 0, path := "clash.adt"
    content := "Rec = Rec(int x)\nList<A> = Nil | Cons(A head, List<A> tail)\nBox<Rec> = Box(Rec r)"
    flags := 0 }

def list : DataType :=
  ⟨"List", ["A"], [⟨"Nil", []⟩,
    ⟨"Cons", [⟨.cls "A" [], "head"⟩, ⟨.cls "List" [.cls "A" []], "tail"⟩]⟩]⟩

def box : DataType := ⟨"Box", ["Rec"], [⟨"Box", [⟨.cls "Rec" [], "r"⟩]⟩]⟩

def doc : Doc :=
  ⟨"clash.adt", [], [], [⟨"Rec", [], [⟨"Rec", [⟨.prim .int, "x"⟩]⟩]⟩, list, box]⟩

end Clash

/-- A list that is declared in the document becomes a slice, and a type parameter that is spelled
like a record becomes a pointer. -/
theorem declared_names_hidden :
    Clash.file.parse (Backend.go "").wordTable = .ok Clash.doc ∧
      (Clash.doc.check (Backend.go "").rules).isEmpty = true ∧
      (typeOf (recordNames Clash.doc) (.cls "List" [.cls "A" []])).text = "[]A" ∧
      referenceText Clash.list ["A"] = "List[A]" ∧
      Clash.box.params = ["Rec"] ∧
      (typeOf (recordNames Clash.doc) (.cls "Rec" [])).text = "*Rec" :=
  ⟨by rfl, by decide, by decide, by decide, rfl, by decide⟩

end Go

end AdtCompiler
