import AdtCompiler.Proofs.GoReference
import AdtCompiler.Proofs.GoScope

/-!
# Records behind pointers

A struct that held a record of its own document by value could hold itself, and would have no
size. In the type of a field a record is therefore only ever the target of a pointer. This is said
twice: of the text of a type, in which every mention of a record has a star before it, and of the
type itself, in which a record stands nowhere but behind a pointer.

Type arguments are rendered before the name in front of them is looked up, so the argument is an
induction over the type: `Pointed` holds of the arguments first, and the star of the enclosing
record is put on top of them.

## Contents

- `Mention`: a name in a text, as a whole word
- `Starred`: texts in which every mention of a name has a star before it, and how they are put
  together
- `GoType.Pointed`: types with records only behind pointers
- `GoType.HoldsByValue`: what a struct must not do
- `records_behind_pointers`
-/

namespace AdtCompiler

namespace Go

/-! ## Mentions -/

/-- Whether a byte may stand in a name: an ASCII letter or digit, an underscore, or part of a
character beyond ASCII. -/
def isNameByte (b : UInt8) : Bool := 0x80 ≤ b || continuesIdentifier (.scalar b.toNat)

/-- A name stands in a text between `before` and `after`, and neither of them lengthens it. -/
structure Mention (name text before after : Text) : Prop where
  split : text = before ++ name ++ after
  left : ∀ b ∈ before.getLast?, isNameByte b = false
  right : ∀ b ∈ after.head?, isNameByte b = false

/-- A text that is not empty and holds nothing but name bytes. -/
structure IsWord (word : Text) : Prop where
  ne_nil : word ≠ []
  bytes : ∀ b ∈ word, isNameByte b = true

instance (word : Text) : Decidable (IsWord word) :=
  decidable_of_iff (word ≠ [] ∧ word.all isNameByte = true)
    ⟨fun h => ⟨h.1, List.all_eq_true.mp h.2⟩, fun h => ⟨h.ne_nil, List.all_eq_true.mpr h.bytes⟩⟩

theorem isWord_of_isIdentifier {name : Text} (h : isIdentifier name = true) : IsWord name := by
  refine ⟨ne_nil_of_isIdentifier h, fun b hb => ?_⟩
  by_cases hascii : b < 0x80
  · have := continues_of_isIdentifier h _ (Text.scalar_mem_runes hascii hb)
    simp [isNameByte, this]
  · simp [isNameByte, UInt8.not_lt.mp hascii]

/-- The byte that is put before pointers. -/
def star : UInt8 := Text.byte '*'

/-- Behind `front`, every mention of the name in the text has a star before it. -/
def Starred (name front text : Text) : Prop :=
  ∀ before after, Mention name (front ++ text) (front ++ before) after →
    (front ++ before).getLast? = some star

/-- Bytes that end every name before them and begin none. -/
structure IsMark (mark : Text) : Prop where
  ne_nil : mark ≠ []
  bytes : ∀ b ∈ mark, isNameByte b = false

theorem IsMark.head {mark : Text} (h : IsMark mark) (t : Text) :
    ∀ b ∈ (mark ++ t).head?, isNameByte b = false := by
  obtain ⟨c, rest, rfl⟩ := List.exists_cons_of_ne_nil h.ne_nil
  intro b hb
  cases hb
  exact h.bytes c List.mem_cons_self

theorem IsMark.head_self {mark : Text} (h : IsMark mark) :
    ∀ b ∈ mark.head?, isNameByte b = false := by
  simpa using h.head []

theorem IsMark.last {mark : Text} (h : IsMark mark) (s : Text) :
    ∀ b ∈ (s ++ mark).getLast?, isNameByte b = false := by
  intro b hb
  rw [List.getLast?_append_of_ne_nil s h.ne_nil] at hb
  exact h.bytes b (List.mem_of_getLast? hb)

section Starred

variable {name front s t : Text}

/-- A mention behind `front` splits what stands there. -/
theorem Mention.behind {before after : Text}
    (h : Mention name (front ++ t) (front ++ before) after) : t = before ++ name ++ after := by
  have hsplit := h.split
  simpa only [List.append_assoc, List.append_cancel_left_eq] using hsplit

/-- A word is a mention of nothing but itself. -/
theorem Starred.word (hword : ∀ b ∈ s, isNameByte b = true)
    (h : s ≠ name ∨ front.getLast? = some star) : Starred name front s := by
  intro before after hmention
  have hsplit := hmention.behind
  -- a mention is bounded by bytes that belong to no name, and the word has none
  have hbefore : before = [] := by
    rw [← List.getLast?_eq_none_iff, Option.eq_none_iff_forall_not_mem]
    intro b hb
    have hmem : b ∈ s := by simp [hsplit, List.mem_of_getLast? hb]
    have hlast := hmention.left b (by simp [List.getLast?_append, Option.mem_def.mp hb])
    simp [hword b hmem] at hlast
  have hafter : after = [] := by
    rw [← List.head?_eq_none_iff, Option.eq_none_iff_forall_not_mem]
    intro b hb
    have hmem : b ∈ s := by simp [hsplit, List.mem_of_head? hb]
    have hhead := hmention.right b hb
    simp [hword b hmem] at hhead
  subst hbefore hafter
  rcases h with hne | hstar
  · exact absurd (by simpa using hsplit) hne
  · simpa using hstar

/-- Marks mention no name. -/
theorem IsMark.starred (hname : IsWord name) (hmark : IsMark s) : Starred name front s := by
  intro before after hmention
  obtain ⟨b, rest, rfl⟩ := List.exists_cons_of_ne_nil hname.ne_nil
  have hmem : b ∈ s := by simp [hmention.behind]
  have hbyte := hname.bytes b List.mem_cons_self
  simp [hmark.bytes b hmem] at hbyte

/-- Texts are put together where no name goes on from one to the other. -/
theorem Starred.append (hname : IsWord name) (hs : Starred name front s)
    (ht : Starred name (front ++ s) t)
    (hbreak : (∀ b ∈ s.getLast?, isNameByte b = false) ∨ ∀ b ∈ t.head?, isNameByte b = false) :
    Starred name front (s ++ t) := by
  intro before after hmention
  have hsplit := hmention.behind
  rw [List.append_assoc, List.append_eq_append_iff] at hsplit
  -- a mention that begins behind `s` is one in `t`
  have hright : ∀ middle, before = s ++ middle → t = middle ++ (name ++ after) →
      (front ++ before).getLast? = some star := by
    rintro middle rfl rfl
    have hleft := hmention.left
    rw [← List.append_assoc] at hleft ⊢
    exact ht middle after ⟨by simp, hleft, hmention.right⟩
  rcases hsplit with ⟨middle, hbefore, ht'⟩ | ⟨rest, rfl, hrest⟩
  · exact hright middle hbefore ht'
  · rw [List.append_eq_append_iff] at hrest
    rcases hrest with ⟨more, rfl, rfl⟩ | ⟨more, rfl, rfl⟩
    · -- a mention that ends before `t` is one in `s`
      refine hs before more ⟨by simp, hmention.left, fun b hb => hmention.right b ?_⟩
      simp [List.head?_append, Option.mem_def.mp hb]
    · -- otherwise both texts hold a part of the name, unless one of the parts is empty
      rcases List.eq_nil_or_concat rest with rfl | ⟨rest, b, rfl⟩
      · exact hright [] (by simp) (by simp)
      · cases more with
        | nil =>
          refine hs before [] ⟨by simp, hmention.left, by simp⟩
        | cons c more =>
          have hb := hname.bytes b (by simp)
          have hc := hname.bytes c (by simp)
          rcases hbreak with hlast | hhead
          · simp [hb] at hlast
          · simp [hc] at hhead

theorem Starred.nil (hname : IsWord name) : Starred name front [] := by
  intro before after hmention
  have hsplit := hmention.behind
  simp [hname.ne_nil] at hsplit

theorem isMark_open : IsMark "[" := ⟨by decide, by decide +kernel⟩

theorem isMark_close : IsMark "]" := ⟨by decide, by decide +kernel⟩

/-- Type arguments end the name before them. -/
theorem Starred.brackets (hname : IsWord name) {args : List Text}
    (h : ∀ arg ∈ args, ∀ front, Starred name front arg) (hs : Starred name front s) :
    Starred name front (s ++ GoType.bracketText args) := by
  have hopen := isMark_open
  have hclose := isMark_close
  have hcomma : IsMark ", " := ⟨by decide, by decide +kernel⟩
  -- commas and brackets belong to no name, so mentions do not go across them
  have hjoin : ∀ front, Starred name front (Text.join ", " args) := by
    induction args with
    | nil => exact fun front => .nil hname
    | cons arg rest ih =>
      intro front
      have harg := h arg List.mem_cons_self front
      have hrest := ih fun arg harg => h arg (List.mem_cons_of_mem _ harg)
      cases rest with
      | nil => exact harg
      | cons next rest =>
        have hfirst : Starred name front (arg ++ ", ") :=
          harg.append hname (hcomma.starred hname) (.inr hcomma.head_self)
        exact hfirst.append hname (hrest _) (.inl (hcomma.last arg))
  unfold GoType.bracketText
  split
  · simpa using hs
  · have hargs : Starred name (front ++ s) ("[" ++ Text.join ", " args) :=
      (hopen.starred hname).append hname (hjoin _) (.inl (hopen.last []))
    have hall : Starred name (front ++ s) ("[" ++ Text.join ", " args ++ "]") :=
      hargs.append hname (hclose.starred hname) (.inr hclose.head_self)
    refine hs.append hname hall (.inr ?_)
    rw [List.append_assoc]
    exact hopen.head _

end Starred

end Go

/-! ## Types with records behind pointers -/

namespace GoType

open Go

/-- Types in which a record stands only behind a pointer, and every name is a word. -/
inductive Pointed (records : List Text) : GoType → Prop where
  | named {name : Text} {args : List GoType} (hword : IsWord name) (hname : name ∉ records)
      (hargs : ∀ arg ∈ args, Pointed records arg) : Pointed records (.named name args)
  /-- The target of a pointer may be a record. -/
  | target {name : Text} {args : List GoType} (hword : IsWord name)
      (hargs : ∀ arg ∈ args, Pointed records arg) :
      Pointed records (.pointer (.named name args))
  | pointer {target : GoType} (h : Pointed records target) : Pointed records (.pointer target)
  | slice {elem : GoType} (h : Pointed records elem) : Pointed records (.slice elem)
  | mapping {key value : GoType} (hkey : Pointed records key) (hvalue : Pointed records value) :
      Pointed records (.mapping key value)
  | unit : Pointed records .unit
  | missing : Pointed records .missing

variable {records : List Text} {name : Text}

/-- In the text of such a type every mention of a record has a star before it. -/
theorem Pointed.starred {type : GoType} (h : Pointed records type) (hrecord : name ∈ records)
    (hname : IsWord name) (hkeyword : name ∉ Go.keywords) (front : Text) :
    Starred name front type.text := by
  have hstar : IsMark "*" := ⟨by decide, by decide +kernel⟩
  have hopen := isMark_open
  have hclose := isMark_close
  have hslice : IsMark "[]" := ⟨by decide, by decide +kernel⟩
  have hbraces : IsMark "\x7b\x7d" := ⟨by decide, by decide +kernel⟩
  -- the words of the language in a type are no names
  have hlanguage : ∀ word ∈ (["map", "struct"] : List Text), ∀ front,
      Starred name front word := by
    intro word hword front
    have hwords : ∀ word ∈ (["map", "struct"] : List Text),
        word ∈ Go.keywords ∧ ∀ b ∈ word, isNameByte b = true := by decide +kernel
    obtain ⟨hmem, hbytes⟩ := hwords word hword
    exact .word hbytes (.inl fun heq => hkeyword (heq ▸ hmem))
  induction h generalizing front with
  | @named other args hword hother _ ih =>
    rw [text_named]
    refine .brackets hname ?_ (.word hword.bytes (.inl fun heq => hother (heq ▸ hrecord)))
    simpa using ih
  | @target other args hword _ ih =>
    rw [text, text_named]
    refine (hstar.starred hname).append hname ?_ (.inl (hstar.last []))
    refine .brackets hname (by simpa using ih) (.word hword.bytes (.inr ?_))
    rw [List.getLast?_append_of_ne_nil _ hstar.ne_nil]
    rfl
  | pointer _ ih =>
    rw [text]
    exact (hstar.starred hname).append hname (ih _) (.inl (hstar.last []))
  | slice _ ih =>
    rw [text]
    exact (hslice.starred hname).append hname (ih _) (.inl (hslice.last []))
  | mapping _ _ ihkey ihvalue =>
    have hmap : ("map[" : Text) = "map" ++ "[" := by decide
    rw [text, hmap]
    have hhead : Starred name front ("map" ++ "[") :=
      (hlanguage _ (by simp) _).append hname (hopen.starred hname) (.inr hopen.head_self)
    have hkey := hhead.append hname (ihkey _) (.inl (hopen.last "map"))
    have hmiddle := hkey.append hname (hclose.starred hname) (.inr hclose.head_self)
    exact hmiddle.append hname (ihvalue _) (.inl (hclose.last _))
  | unit =>
    have hunit : ("struct\x7b\x7d" : Text) = "struct" ++ "\x7b\x7d" := by decide
    rw [text, hunit]
    exact (hlanguage _ (by simp) _).append hname (hbraces.starred hname) (.inr hbraces.head_self)
  | missing =>
    rw [text]
    exact .nil hname

/-! ## Types held by value -/

/-- A type directly inside another. -/
inductive Child (part : GoType) : GoType → Prop where
  | arg {name : Text} {args : List GoType} (h : part ∈ args) : Child part (.named name args)
  | target : Child part (.pointer part)
  | elem : Child part (.slice part)
  | key (value : GoType) : Child part (.mapping part value)
  | value (key : GoType) : Child part (.mapping key part)

/-- The types inside a type, at any depth. -/
inductive Within (part : GoType) : GoType → Prop where
  | here : Within part part
  | inside {child whole : GoType} (h : Within part child) (hchild : child.Child whole) :
      Within part whole

/-- A named type is held by value: it is the type itself, or it stands in it as a type argument, an
element, a key or a value, and not as the target of a pointer. -/
def HoldsByValue (name : Text) (type : GoType) : Prop :=
  ∃ args, type = .named name args ∨
    ∃ around, around.Within type ∧ (GoType.named name args).Child around ∧
      around ≠ .pointer (.named name args)

theorem Pointed.not_mem {args : List GoType} (h : Pointed records (.named name args)) :
    name ∉ records := by
  cases h with
  | named _ hname _ => exact hname

/-- Inside of such a type, what a record stands directly inside of is a pointer. -/
theorem Pointed.eq_pointer {type around : GoType} {args : List GoType}
    (h : Pointed records type) (hrecord : name ∈ records) (hin : around.Within type)
    (hchild : (GoType.named name args).Child around) : around = .pointer (.named name args) := by
  induction h with
  | named _ _ hargs ih =>
    cases hin with
    | here =>
      cases hchild with
      | arg harg => exact absurd hrecord (hargs _ harg).not_mem
    | inside hin hstep =>
      cases hstep with
      | arg harg => exact ih _ harg hin
  | target _ hargs ih =>
    cases hin with
    | here =>
      cases hchild
      rfl
    | inside hin hstep =>
      cases hstep
      -- the record behind the pointer may be of any name, but its arguments may not
      cases hin with
      | here =>
        cases hchild with
        | arg harg => exact absurd hrecord (hargs _ harg).not_mem
      | inside hin hstep =>
        cases hstep with
        | arg harg => exact ih _ harg hin
  | pointer _ ih =>
    cases hin with
    | here =>
      cases hchild
      rfl
    | inside hin hstep =>
      cases hstep
      exact ih hin
  | slice h ih =>
    cases hin with
    | here =>
      cases hchild
      exact absurd hrecord h.not_mem
    | inside hin hstep =>
      cases hstep
      exact ih hin
  | mapping hkey hvalue ihkey ihvalue =>
    cases hin with
    | here =>
      cases hchild with
      | key => exact absurd hrecord hkey.not_mem
      | value => exact absurd hrecord hvalue.not_mem
    | inside hin hstep =>
      cases hstep with
      | key => exact ihkey hin
      | value => exact ihvalue hin
  | unit | missing =>
    cases hin with
    | here => cases hchild
    | inside _ hstep => cases hstep

theorem Pointed.not_holdsByValue {type : GoType} (h : Pointed records type)
    (hrecord : name ∈ records) : ¬ type.HoldsByValue name := by
  rintro ⟨args, rfl | ⟨around, hin, hchild, hne⟩⟩
  · exact h.not_mem hrecord
  · exact hne (h.eq_pointer hrecord hin hchild)

end GoType

/-! ## Types of a document -/

namespace Go

open GoType (Pointed)

variable {records : List Text}

/-- Types of the language are no records. -/
theorem pointed_native (hrecords : ∀ name ∈ records, name ∉ reservedWords) {word : Text}
    (hword : word ∈ nativeTypes) : Pointed records (.word word) := by
  have hwords : ∀ word ∈ nativeTypes, word ∈ reservedWords ∧ IsWord word := by decide +kernel
  obtain ⟨hreserved, hbytes⟩ := hwords word hword
  exact .named hbytes (fun hmem => hrecords word hmem hreserved) (by simp)

theorem pointed_primitive (hrecords : ∀ name ∈ records, name ∉ reservedWords) (p : Primitive) :
    Pointed records p.goType := by
  cases p with
  | unlisted => exact .missing
  | _ => exact pointed_native hrecords (by decide)

theorem pointed_nativeClass (hrecords : ∀ name ∈ records, name ∉ reservedWords)
    {entry : Text × GoType} (h : entry ∈ nativeClasses) : Pointed records entry.2 := by
  simp only [nativeClasses, List.mem_cons, List.not_mem_nil, or_false] at h
  rcases h with rfl | rfl | rfl | rfl | rfl | rfl | rfl | rfl | rfl | rfl <;>
    exact pointed_native hrecords (by decide)

theorem mem_of_mem_readArgs {args : List GoType} {arg : GoType} (h : arg ∈ readArgs args) :
    arg ∈ args := by
  fun_induction readArgs args with
  | case1 first => simp_all
  | case2 first rest _ ih =>
    rcases List.mem_cons.mp h with rfl | h
    · exact List.mem_cons_self
    · exact List.mem_cons_of_mem _ (ih h)
  | case3 => cases h

/-- The star of a record is put before it when its type arguments have theirs. -/
theorem pointed_classType (hrecords : ∀ name ∈ records, name ∉ reservedWords) {name : Text}
    (hword : IsWord name) {args : List GoType} (hargs : ∀ arg ∈ args, Pointed records arg) :
    Pointed records (classType records name args) := by
  -- where no class of the language is meant, the name is that of a data type
  have hdeclared (args : List GoType) (hargs : ∀ arg ∈ args, Pointed records arg) :
      Pointed records (if records.contains name then GoType.pointer (.named name (readArgs args))
        else .named name (readArgs args)) := by
    have hread : ∀ arg ∈ readArgs args, Pointed records arg :=
      fun arg harg => hargs arg (mem_of_mem_readArgs harg)
    split
    case isTrue => exact .target hword hread
    case isFalse hname => exact .named hword (by simpa using hname) hread
  fun_cases classType records name args with
  | case1 native hlookup =>
    exact pointed_nativeClass hrecords (mem_of_lookup_nativeClasses hlookup)
  | case2 => exact hdeclared _ hargs
  | case3 a => exact .slice (hargs a (by simp))
  | case4 a => exact .mapping (hargs a (by simp)) .unit
  | case5 a => exact .pointer (hargs a (by simp))
  | case6 a => exact hdeclared _ hargs
  | case7 a b => exact .mapping (hargs a (by simp)) (hargs b (by simp))
  | case8 a b => exact hdeclared _ hargs
  | case9 => exact hdeclared _ hargs

mutual

/-- **Types are rendered with records behind pointers only**, by induction over the type. -/
theorem pointed_typeOf (hrecords : ∀ name ∈ records, name ∉ reservedWords) :
    (t : Ty) → t.Readable ⟨reservedWords⟩ → Pointed records (typeOf records t)
  | .prim p, _ => by
    rw [typeOf]
    exact pointed_primitive hrecords p
  | .cls name args, h => by
    rw [typeOf]
    exact pointed_classType hrecords (isWord_of_isIdentifier h.1.identifier)
      (pointed_typesOf hrecords args h.2)
  | .array elem, h => by
    rw [typeOf]
    exact .slice (pointed_typeOf hrecords elem h)
  | .absent, h => by
    rw [typeOf]
    exact pointed_native hrecords (by decide)

theorem pointed_typesOf (hrecords : ∀ name ∈ records, name ∉ reservedWords) :
    (types : List Ty) → Ty.AllReadable ⟨reservedWords⟩ types →
      ∀ type ∈ typesOf records types, Pointed records type
  | [], _ => by simp [typesOf]
  | t :: rest, h => by
    rw [typesOf, List.forall_mem_cons]
    exact ⟨pointed_typeOf hrecords t h.1, pointed_typesOf hrecords rest h.2⟩

end

/-- Names of records are words, and none of them is reserved. -/
theorem isName_of_mem_recordNames {doc : Doc} (h : doc.Readable ⟨reservedWords⟩) {name : Text}
    (hname : name ∈ recordNames doc) : WordTable.IsName ⟨reservedWords⟩ name := by
  obtain ⟨d, hd, -, rfl⟩ := mem_recordNames.mp hname
  exact (h.types d hd).name

/-- The struct of a constructor is declared with the fields of the constructor. -/
theorem structDecl_infix (doc : Doc) {d : DataType} {c : Constructor} (hc : c ∈ d.constructors) :
    structDecl (structName d c) d.params (fieldsOf (recordNames doc) c) <:+:
      decls (recordNames doc) d := by
  obtain ⟨⟨comment, hmem⟩, -⟩ := struct_mem_declarations doc hc
  rw [← text_declarations, List.flatMap_def, ← textOf_structPieces doc]
  refine List.IsInfix.trans ?_ (List.infix_of_mem_flatten (List.mem_map_of_mem hmem))
  rw [textOf_cons]
  exact (List.suffix_append _ _).isInfix

/-- **Recursive records stay finite.** In a document that was read for Go, take a data type with one
constructor. Wherever its name stands in the text of a type of the document, at any depth, there is
a star before it. So the struct of a constructor, which is declared with the fields of the
constructor, has no field that holds the record by value, be it directly or as a type argument. -/
theorem records_behind_pointers {file : SourceFile} {doc : Doc} {package : Text}
    (read : file.parse (Backend.go package).wordTable = .ok doc) {r : DataType}
    (hr : r ∈ doc.types) (hone : r.constructors.length = 1) {d : DataType} (hd : d ∈ doc.types)
    {c : Constructor} (hc : c ∈ d.constructors) :
    (∀ a ∈ c.args, ∀ t, t.Within a.type → ∀ before after,
      Mention r.name (typeOf (recordNames doc) t).text before after →
        before.getLast? = some star) ∧
    structDecl (structName d c) d.params (fieldsOf (recordNames doc) c) <:+:
      decls (recordNames doc) d ∧
    ∀ field ∈ fieldsOf (recordNames doc) c, ¬ field.2.HoldsByValue r.name := by
  have hreadable := SourceFile.readable_of_parse read
  have hrecords : ∀ name ∈ recordNames doc, name ∉ reservedWords :=
    fun name hname => not_mem_reserved_of_isName (isName_of_mem_recordNames hreadable hname)
  have hrecord : r.name ∈ recordNames doc :=
    mem_recordNames.mpr ⟨r, hr, by simp [DataType.isRecord, hone], rfl⟩
  have hword := isWord_of_isIdentifier (isName_of_mem_recordNames hreadable hrecord).identifier
  have htypes : ∀ a ∈ c.args, a.type.Readable ⟨reservedWords⟩ :=
    fun a ha => (((hreadable.types d hd).constructors c hc).args a ha).type
  refine ⟨fun a ha t hin before after hmention => ?_, structDecl_infix doc hc,
    fun field hfield => ?_⟩
  · have hpointed := pointed_typeOf hrecords t (hin.readable (htypes a ha))
    have hkeyword : r.name ∉ keywords :=
      fun hmem => hrecords r.name hrecord (List.mem_append_left _ hmem)
    exact hpointed.starred hrecord hword hkeyword [] before after hmention
  · obtain ⟨a, ha, rfl⟩ := List.mem_map.mp hfield
    exact (pointed_typeOf hrecords a.type (htypes a ha)).not_holdsByValue hrecord

namespace Rose

/-- A record that refers to itself in a collection and as a type argument of itself. -/
def file : SourceFile :=
  { id := 0, path := "rose.adt"
    content := "Rose<A> = Rose(Map<A, Rose<A>[]> kids, Optional<Rose<Rose<A>>> up)", flags := 0 }

/-- The argument whose type is a rose of roses. -/
def up : Arg := ⟨.cls "Optional" [.cls "Rose" [.cls "Rose" [.cls "A" []]]], "up"⟩

def constructor : Constructor :=
  ⟨"Rose", [⟨.cls "Map" [.cls "A" [], .array (.cls "Rose" [.cls "A" []])], "kids"⟩, up]⟩

def rose : DataType := ⟨"Rose", ["A"], [constructor]⟩

def doc : Doc := ⟨"rose.adt", [], [], [rose]⟩

theorem parse_file : file.parse (Backend.go "").wordTable = .ok doc := by rfl

end Rose

/-- A record that is a type argument of itself has a star both inside and outside. -/
theorem records_behind_pointers_rose :
    (typeOf (recordNames Rose.doc) Rose.up.type).text = "**Rose[*Rose[A]]" ∧
      Mention "Rose" "**Rose[*Rose[A]]" "**Rose[*" "[A]]" ∧
      ("**Rose[*" : Text).getLast? = some star ∧
      ¬ (typeOf (recordNames Rose.doc) Rose.up.type).HoldsByValue "Rose" := by
  have hmention : Mention "Rose" (typeOf (recordNames Rose.doc) Rose.up.type).text "**Rose[*"
      "[A]]" := ⟨by decide, by decide +kernel, by decide +kernel⟩
  have htext : (typeOf (recordNames Rose.doc) Rose.up.type).text = "**Rose[*Rose[A]]" := by decide
  have h := records_behind_pointers Rose.parse_file (r := Rose.rose) List.mem_cons_self rfl
    (d := Rose.rose) List.mem_cons_self (c := Rose.constructor) List.mem_cons_self
  have hup : Rose.up ∈ Rose.constructor.args := List.mem_cons_of_mem _ List.mem_cons_self
  exact ⟨htext, htext ▸ hmention, h.1 Rose.up hup _ .here _ _ hmention,
    h.2.2 _ (List.mem_map_of_mem hup)⟩

end Go

end AdtCompiler
