import AdtCompiler.Proofs.Acceptance
import AdtCompiler.Proofs.Name

/-!
# Documents that can be read

A document is readable when its names are names, its primitive types exist and every data type has
a constructor. Whatever is read from a source is readable: the lexer gives the kinds of names to
names only, and every rule of the grammar makes something readable of readable parts.

## Contents

- `Doc.Readable`
- `Ty.Within`: the types inside a type
- `Sound`: what a form describes is made of readable parts
- `SourceFile.readable_of_parse`
-/

namespace AdtCompiler

open Token Grammar

/-! ## Readable documents -/

mutual

/-- Whether a type can be read. -/
def Ty.Readable (table : WordTable) : Ty → Prop
  | .prim kind => kind ∈ Primitive.listed
  | .cls name args => table.IsName name ∧ Ty.AllReadable table args
  | .array elem => elem.Readable table
  | .absent => False

/-- Whether all types of a list can be read. -/
def Ty.AllReadable (table : WordTable) : List Ty → Prop
  | [] => True
  | t :: rest => t.Readable table ∧ Ty.AllReadable table rest

end

theorem Ty.allReadable_iff {table : WordTable} {types : List Ty} :
    Ty.AllReadable table types ↔ ∀ t ∈ types, t.Readable table := by
  induction types with
  | nil => simp [Ty.AllReadable]
  | cons t types ih => simp [Ty.AllReadable, ih]

/-- The types inside a type: the type itself, type arguments and elements, at any depth. -/
inductive Ty.Within (part : Ty) : Ty → Prop where
  | here : Within part part
  | arg {name : Text} {args : List Ty} {arg : Ty} (harg : arg ∈ args) (h : Within part arg) :
      Within part (.cls name args)
  | elem {elem : Ty} (h : Within part elem) : Within part (.array elem)

/-- What is inside a type that can be read can be read. -/
theorem Ty.Within.readable {table : WordTable} {part whole : Ty} (h : part.Within whole)
    (hwhole : whole.Readable table) : part.Readable table := by
  induction h with
  | here => exact hwhole
  | arg harg _ ih =>
    simp only [Ty.Readable, Ty.allReadable_iff] at hwhole
    exact ih (hwhole.2 _ harg)
  | elem _ ih =>
    apply ih
    simpa only [Ty.Readable] using hwhole

mutual

/-- A type that can be read lacks no part. -/
theorem Ty.isComplete_of_readable {table : WordTable} : (t : Ty) → t.Readable table →
    t.isComplete = true
  | .prim _, _ => rfl
  | .cls _ args, h => Ty.allComplete_of_readable args h.2
  | .array elem, h => Ty.isComplete_of_readable elem h
  | .absent, h => h.elim

theorem Ty.allComplete_of_readable {table : WordTable} : (types : List Ty) →
    Ty.AllReadable table types → Ty.allComplete types = true
  | [], _ => rfl
  | t :: types, h => Bool.and_eq_true_iff.mpr
    ⟨Ty.isComplete_of_readable t h.1, Ty.allComplete_of_readable types h.2⟩

end

/-- Whether an argument can be read. -/
structure Arg.Readable (table : WordTable) (a : Arg) : Prop where
  type : a.type.Readable table
  name : table.IsName a.name

/-- Whether a constructor can be read. -/
structure Constructor.Readable (table : WordTable) (c : Constructor) : Prop where
  name : table.IsName c.name
  args : ∀ a ∈ c.args, a.Readable table

/-- Whether a data type can be read. -/
structure DataType.Readable (table : WordTable) (d : DataType) : Prop where
  name : table.IsName d.name
  params : ∀ p ∈ d.params, table.IsName p
  nonempty : d.constructors ≠ []
  constructors : ∀ c ∈ d.constructors, c.Readable table

/-- Whether a document can be read. -/
structure Doc.Readable (table : WordTable) (doc : Doc) : Prop where
  package : doc.package = [] ∨ table.IsPath doc.package
  imports : ∀ i ∈ doc.imports, table.IsPath i
  types : ∀ d ∈ doc.types, d.Readable table

/-- A document that can be read lacks no type. -/
theorem Doc.Readable.isComplete {table : WordTable} {doc : Doc} (h : doc.Readable table) :
    doc.isComplete = true := by
  simp only [Doc.isComplete, DataType.isComplete, Constructor.isComplete, List.all_eq_true]
  intro d hd c hc a ha
  exact a.type.isComplete_of_readable (((h.types d hd).constructors c hc).args a ha).type

mutual

/-- Readability of types can be decided. -/
def Ty.decReadable (table : WordTable) : (t : Ty) → Decidable (t.Readable table)
  | .prim kind => inferInstanceAs (Decidable (kind ∈ Primitive.listed))
  | .cls name args =>
    have := Ty.decAllReadable table args
    inferInstanceAs (Decidable (table.IsName name ∧ Ty.AllReadable table args))
  | .array elem => Ty.decReadable table elem
  | .absent => inferInstanceAs (Decidable False)

/-- Readability of lists of types can be decided. -/
def Ty.decAllReadable (table : WordTable) : (types : List Ty) →
    Decidable (Ty.AllReadable table types)
  | [] => inferInstanceAs (Decidable True)
  | t :: types =>
    have := Ty.decReadable table t
    have := Ty.decAllReadable table types
    inferInstanceAs (Decidable (t.Readable table ∧ Ty.AllReadable table types))

end

instance (table : WordTable) (t : Ty) : Decidable (t.Readable table) := Ty.decReadable table t

instance (table : WordTable) (a : Arg) : Decidable (a.Readable table) :=
  decidable_of_iff (a.type.Readable table ∧ table.IsName a.name)
    ⟨fun h => ⟨h.1, h.2⟩, fun h => ⟨h.type, h.name⟩⟩

instance (table : WordTable) (c : Constructor) : Decidable (c.Readable table) :=
  decidable_of_iff (table.IsName c.name ∧ ∀ a ∈ c.args, a.Readable table)
    ⟨fun h => ⟨h.1, h.2⟩, fun h => ⟨h.name, h.args⟩⟩

instance (table : WordTable) (d : DataType) : Decidable (d.Readable table) :=
  decidable_of_iff (table.IsName d.name ∧ (∀ p ∈ d.params, table.IsName p) ∧
      d.constructors.isEmpty = false ∧ ∀ c ∈ d.constructors, c.Readable table)
    ⟨fun h => ⟨h.1, h.2.1, by simpa using h.2.2.1, h.2.2.2⟩,
      fun h => ⟨h.name, h.params, by simpa using h.nonempty, h.constructors⟩⟩

instance (table : WordTable) (doc : Doc) : Decidable (doc.Readable table) :=
  decidable_of_iff ((doc.package = [] ∨ table.IsPath doc.package) ∧
      (∀ i ∈ doc.imports, table.IsPath i) ∧ ∀ d ∈ doc.types, d.Readable table)
    ⟨fun h => ⟨h.1, h.2.1, h.2.2⟩, fun h => ⟨h.package, h.imports, h.types⟩⟩

/-! ## Values of derivations -/

/-- A leaf of the kind of names is a name. -/
structure SoundLeaf (table : WordTable) (leaf : TokenKind × Text) : Prop where
  ident : leaf.1 = .ident → table.IsName leaf.2
  dotted : leaf.1 = .dottedIdent → table.IsPath leaf.2

/-- What a nonterminal describes can be read. -/
def SoundMeaning (table : WordTable) : (n : Nonterminal) → Meaning n → Prop
  | .doc => fun doc => ∀ source, Doc.Readable table (doc source)
  | .dataType => DataType.Readable table
  | .ctor => Constructor.Readable table
  | .arg => Arg.Readable table
  | .type => Ty.Readable table
  | .name => table.IsPath

/-- What a form describes is made of sound parts. -/
def Sound (table : WordTable) : (e : Form) → Value e → Prop
  | .token kinds => fun leaf : TokenKind × Text => leaf.1 ∈ kinds ∧ SoundLeaf table leaf
  | .ref n => SoundMeaning table n
  | .seq e f => fun v : Value e × Value f => Sound table e v.1 ∧ Sound table f v.2
  | .either e f => fun v : Value e ⊕ Value f => v.elim (Sound table e) (Sound table f)
  | .opt e => fun v : Option (Value e) => ∀ w ∈ v, Sound table e w
  | .many e => fun vs : List (Value e) => ∀ v ∈ vs, Sound table e v

variable {table : WordTable}

theorem SoundLeaf.isName {leaf : TokenKind × Text} (h : Sound table (.one .ident) leaf) :
    table.IsName leaf.2 :=
  h.2.ident (List.mem_singleton.mp h.1)

/-- The items of a list with separators are sound. -/
theorem sound_itemsOf {separator : TokenKind} {e : Form}
    {v : Value e × List ((TokenKind × Text) × Value e)}
    (h : Sound table (.separated separator e) v) : ∀ item ∈ itemsOf v, Sound table e item := by
  intro item hitem
  rcases List.mem_cons.mp hitem with rfl | hitem
  · exact h.1
  · obtain ⟨pair, hpair, rfl⟩ := List.mem_map.mp hitem
    exact (h.2 pair hpair).2

/-- The items of an optional list in brackets are sound. -/
theorem sound_enclosedItems {opening closing separator : TokenKind} {e : Form}
    {v : Option ((TokenKind × Text) × (Value e × List ((TokenKind × Text) × Value e)) ×
      (TokenKind × Text))}
    (h : Sound table (.opt (.between opening (.separated separator e) closing)) v) :
    ∀ item ∈ enclosedItems v, Sound table e item := by
  cases v with
  | none => intro item hitem; cases hitem
  | some v => exact sound_itemsOf (h v rfl).2.1

theorem primitiveOf_mem_listed {kind : TokenKind} (h : kind ∈ primitiveKeywords.map (·.1)) :
    primitiveOf kind ∈ Primitive.listed := by
  have hlisted : ∀ kind ∈ primitiveKeywords.map (·.1), primitiveOf kind ∈ Primitive.listed := by
    decide
  exact hlisted kind h

theorem readable_elementOf {v : Value element} (h : Sound table element v) :
    (elementOf v).Readable table := by
  cases v with
  | inl keyword => exact primitiveOf_mem_listed h.1
  | inr v =>
    obtain ⟨name, args⟩ := v
    exact ⟨SoundLeaf.isName h.1, Ty.allReadable_iff.mpr (sound_enclosedItems h.2)⟩

/-- Arrays of a readable type are readable. -/
theorem readable_foldl_array {α : Type} (brackets : List α) {t : Ty} (h : t.Readable table) :
    (brackets.foldl (fun type _ => Ty.array type) t).Readable table := by
  induction brackets generalizing t with
  | nil => exact h
  | cons b brackets ih => exact ih (t := .array t) h

/-- Every rule makes something readable of sound parts. -/
theorem act_sound (n : Nonterminal) (v : Value (rule n)) (h : Sound table (rule n) v) :
    SoundMeaning table n (act n v) := by
  cases n with
  | doc =>
    obtain ⟨⟨package, imports, types⟩, last⟩ := v
    obtain ⟨⟨hpackage, himports, htypes⟩, -⟩ := h
    intro source
    refine ⟨?_, ?_, htypes⟩
    · cases package with
      | none => exact .inl rfl
      | some clause => exact .inr (hpackage clause rfl).2
    · intro i hi
      obtain ⟨clause, hclause, rfl⟩ := List.mem_map.mp hi
      exact (himports clause hclause).2
  | dataType =>
    obtain ⟨name, params, equals, constructors⟩ := v
    obtain ⟨hname, hparams, -, hconstructors⟩ := h
    -- a list with separators has a first item, so there is a constructor
    refine ⟨SoundLeaf.isName hname, ?_, List.cons_ne_nil _ _, sound_itemsOf hconstructors⟩
    intro p hp
    obtain ⟨leaf, hleaf, rfl⟩ := List.mem_map.mp hp
    exact SoundLeaf.isName (sound_enclosedItems hparams leaf hleaf)
  | ctor =>
    obtain ⟨name, args⟩ := v
    exact ⟨SoundLeaf.isName h.1, sound_enclosedItems h.2⟩
  | arg =>
    obtain ⟨type, name⟩ := v
    exact ⟨h.1, SoundLeaf.isName h.2⟩
  | type =>
    -- brackets wrap the element, and an array of a readable type is readable
    obtain ⟨element, brackets⟩ := v
    exact readable_foldl_array brackets (readable_elementOf h.1)
  | name =>
    cases v with
    | inl plain => exact (SoundLeaf.isName h).isPath
    | inr dotted => exact h.2.dotted (List.mem_singleton.mp h.1)

/-- Sound leaves make a sound whole. -/
theorem Grammar.Deriv.sound {e : Form} (d : Deriv Text e)
    (h : ∀ leaf ∈ d.yield, SoundLeaf table leaf) : Sound table e d.value := by
  induction d with
  | token kind mem text => exact ⟨mem, h _ List.mem_cons_self⟩
  | ref body ih => exact act_sound _ _ (ih h)
  | seq a b iha ihb =>
    exact ⟨iha fun leaf hleaf => h leaf (List.mem_append_left _ hleaf),
      ihb fun leaf hleaf => h leaf (List.mem_append_right _ hleaf)⟩
  | left a ih => exact ih h
  | right b ih => exact ih h
  | none =>
    intro w hw
    cases hw
  | some a ih =>
    intro w hw
    cases Option.mem_some.mp hw
    exact ih h
  | nil =>
    intro v hv
    cases hv
  | cons a as iha ihas =>
    intro v hv
    rcases List.mem_cons.mp hv with rfl | hv
    · exact iha fun leaf hleaf => h leaf (List.mem_append_left _ hleaf)
    · exact ihas (fun leaf hleaf => h leaf (List.mem_append_right _ hleaf)) v hv

/-! ## Tokens of a file -/

/-- A token of the kind of names is a name. -/
theorem Token.Lexeme.soundLeaf {kind : TokenKind} {text rest : Text}
    (h : Lexeme table kind text rest) : SoundLeaf table (kind, text) := by
  cases h with
  | mark rest hmark =>
    have hkind := isPunctuation_of_punctuation? hmark
    refine ⟨fun hident => ?_, fun hdotted => ?_⟩
    · cases hident
      cases hkind
    · cases hdotted
      cases hkind
  | lone _ _ => exact ⟨nofun, nofun⟩
  | word _ _ _ =>
    exact ⟨fun h => WordTable.classify_eq_ident_iff.mp h,
      fun h => WordTable.classify_mem_iff.mp (.inr h)⟩

theorem Scans.soundLeaf {file : SourceFile} {t : Text} {tokens : List Token}
    (h : Scans file table t tokens) : ∀ token ∈ tokens, SoundLeaf table token.spelling := by
  induction h with
  | stop hgap => simp
  | step hgap hlexeme h ih =>
    intro token htoken
    rcases List.mem_cons.mp htoken with rfl | htoken
    · exact hlexeme.soundLeaf
    · exact ih token htoken

/-- **What is read can be read**: every document that is read from a source is readable. -/
theorem SourceFile.readable_of_parse {file : SourceFile} {doc : Doc}
    (h : file.parse table = .ok doc) : doc.Readable table := by
  obtain ⟨-, d, hyield, rfl⟩ := SourceFile.parse_eq_ok_iff.mp h
  obtain ⟨tokens, hscan⟩ := exists_scans file table file.content
  refine d.sound (fun leaf hleaf => ?_) file.path
  rw [hyield, hscan.lexed_eq, List.map_append, List.mem_append] at hleaf
  rcases hleaf with hleaf | hleaf
  · obtain ⟨token, htoken, rfl⟩ := List.mem_map.mp hleaf
    exact hscan.soundLeaf token htoken
  · -- the end token is no name
    cases List.mem_singleton.mp hleaf
    exact ⟨nofun, nofun⟩

end AdtCompiler
