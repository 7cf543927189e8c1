import AdtCompiler.Proofs.Reading
import AdtCompiler.Proofs.Scanning

/-!
# The reader accepts exactly its grammar

Every reader of the description language reads its form of the grammar. For the whole reader this
gives both sides of acceptance: a source is read exactly when the kinds of its tokens make up a
sentence, the document is the one that the only derivation describes, and a syntax error names
the first token with which no sentence goes on.
-/

namespace AdtCompiler

namespace Parser

open Grammar

/-! ## Tokens and lists -/

theorem reads_expect {kind : TokenKind} (heof : kind ≠ .eof) (alternatives : List TokenKind)
    (tokens : List Token) :
    Reads (.one kind) (fun _ => ()) anything tokens (expect kind alternatives tokens) := by
  unfold expect
  split
  case isTrue h => exact .tail h heof
  case isFalse h => exact .stuck _ rfl (by simpa [Form.first] using h)

/-- Taking the text of a token of an expected kind. -/
theorem reads_text {kinds : List TokenKind} {t : Token} {rest : List Token}
    (h : t.kind ∈ kinds) :
    Reads (.token kinds) (fun p : TokenKind × Text => p.2) anything (t :: rest)
      (.ok (t.text, rest)) :=
  .token h

theorem reads_expectIdent (what : Expected) (tokens : List Token) :
    Reads (.one .ident) (fun p : TokenKind × Text => p.2) anything tokens
      (expectIdent what tokens) := by
  cases tokens with
  | nil => exact .stuck what rfl (by decide)
  | cons t rest =>
    simp only [expectIdent]
    split
    case isTrue h => exact reads_text (List.mem_singleton.mpr h)
    case isFalse h => exact .stuck what rfl (by simpa [Form.first, peek] using h)

theorem reads_expectName (what : Expected) (tokens : List Token) :
    Reads (.ref .name) (fun name : Text => name) anything tokens (expectName what tokens) := by
  cases tokens with
  | nil => exact .stuck what rfl (by decide)
  | cons t rest =>
    simp only [expectName]
    split
    case isTrue h =>
      apply Reads.ref
      rcases h with h | h
      · exact .left rfl (by simp [Form.first, peek, h]) (reads_text (List.mem_singleton.mpr h))
      · exact .right rfl (by simp [Form.first, peek, h]) (reads_text (List.mem_singleton.mpr h))
    case isFalse h => exact .stuck what rfl (by simpa [Form.first, firstOf, peek] using h)

section
variable {α : Type} {e : Form} {value : Value e → α} [Nonempty (Deriv Unit e)]
  {item : List Token → Except Stop (α × List Token)}

/-- Items with separators between them are read when each item is, on tokens no more than
`bound`. -/
theorem reads_items {separator : TokenKind} {bound : Nat} (heof : separator ≠ .eof)
    (he : e.deterministic) (hnull : e.nullable = false) (hapart : Form.apart e.trail [separator])
    (hitem : ∀ tokens, tokens.length ≤ bound → Reads e value anything tokens (item tokens))
    (fuel : Nat) (tokens : List Token) (hfuel : tokens.length ≤ fuel)
    (hbound : tokens.length ≤ bound) :
    Reads (.separated separator e)
      (fun p : Value e × List (Value (.one separator) × Value e) => (itemsOf p).map value)
      anything tokens (items separator item fuel tokens) := by
  induction fuel generalizing tokens with
  | zero =>
    -- no token is left, so there is no item either
    cases List.length_eq_zero_iff.mp (Nat.le_zero.mp hfuel)
    have h := hitem [] hbound
    simp only [items]
    generalize item [] = r at h
    cases h with
    | ok d taken rest split spelled _ _ =>
      have htaken : taken = [] := (List.append_eq_nil_iff.mp split.symm).1
      exact absurd (by simpa [htaken] using spelled.symm) (d.yield_ne_nil hnull)
    | error stop taken split viable refused =>
      have hstop : Reads e value anything [] (.error stop) :=
        .error stop taken split viable refused
      exact hstop.stop_first hapart
  | succ fuel ih =>
    simp only [items]
    -- one token of lookahead behind an item decides whether there is another one
    refine .bind he hapart (hitem tokens hbound) fun x rest _ _ hless => ?_
    have hless : rest.length < tokens.length := hless hnull
    split
    case isTrue hsep =>
      have hseen : peek rest = separator := hsep
      refine .many_cons (fun h => absurd (by simp [hseen]) h) (.assoc ?_)
      refine .behind hseen heof fun _ => ?_
      have hlength := rest.length_tail
      exact .map (ih rest.tail (by omega) (by omega)) fun v => rfl
    case isFalse hsep => exact .many_nil (by simpa using hsep) trivial

/-- A list in brackets is read when its items are, on tokens fewer than `bound`. -/
theorem reads_enclosed {opening closing : TokenKind} {bound : Nat} (hopen : opening ≠ .eof)
    (hclose : closing ≠ .eof) (he : e.deterministic) (hnull : e.nullable = false)
    (hcomma : Form.apart e.trail [.comma])
    (hclosing : Form.apart (Form.separated .comma e).trail [closing])
    (hitem : ∀ tokens, tokens.length < bound → Reads e value anything tokens (item tokens))
    (tokens : List Token) (hbound : tokens.length ≤ bound) :
    Reads (.opt (.between opening (.separated .comma e) closing))
      (fun o : Option (Value (.one opening) × Value (.separated .comma e) × Value (.one closing)) =>
        (enclosedItems o).map value)
      anything tokens (enclosed opening closing item tokens) := by
  unfold enclosed
  split
  case isTrue hseen =>
    refine .opt_some (fun h => absurd (by simp [hseen]) h) ?_
    refine .behind hseen hopen fun _ => ?_
    have hlength := tokens.length_tail
    have hpos : 0 < tokens.length := by
      cases tokens with
      | nil => exact absurd hseen.symm hopen
      | cons => simp
    -- the opening bracket is taken, so the items are read from fewer tokens than `bound`
    have hitems := reads_items (by decide) he hnull hcomma
      (fun more (hmore : more.length ≤ bound - 1) => hitem more (by omega)) tokens.length
      tokens.tail (by omega) (by omega)
    refine .bind (Form.deterministic_separated he hnull hcomma) hclosing hitems
      fun list rest _ _ _ => ?_
    exact .map (g := fun _ => (itemsOf list).map value) (reads_expect hclose [.comma] rest)
      fun v => rfl
  case isFalse hseen => exact .opt_none (by simpa using hseen) trivial

end

/-! ## Types -/

/-- The keywords that name primitive types are those of the grammar. -/
theorem primitive?_eq_some_iff (kind : TokenKind) :
    (primitive? kind).isSome ↔ kind ∈ Form.primitive.first := by
  cases kind <;> decide

theorem primitiveOf_eq {kind : TokenKind} {type : Primitive} (h : primitive? kind = some type) :
    primitiveOf kind = type := by
  cases kind <;> cases h <;> rfl

theorem reads_brackets (type : Ty) (fuel : Nat) (tokens : List Token)
    (hfuel : tokens.length ≤ fuel) :
    Reads (.many (.seq (.one .lBracket) (.one .rBracket)))
      (fun l : List (Value (.seq (.one .lBracket) (.one .rBracket))) =>
        l.foldl (fun type _ => Ty.array type) type)
      anything tokens (brackets type fuel tokens) := by
  induction fuel generalizing type tokens with
  | zero =>
    cases List.length_eq_zero_iff.mp (Nat.le_zero.mp hfuel)
    exact .many_nil (by decide) trivial
  | succ fuel ih =>
    simp only [brackets]
    split
    case isTrue hseen =>
      refine .many_cons (fun h => absurd (by simp [hseen]) h) (.assoc ?_)
      refine .behind hseen (by decide) fun _ => ?_
      refine .bind rfl rfl (reads_expect (by decide) [] tokens.tail) fun _ rest _ hle _ => ?_
      have hlength := tokens.length_tail
      exact ih (.array type) rest (by omega)
    case isFalse hseen => exact .many_nil (by simpa using hseen) trivial

/-- What stands before the brackets of a type is read when its arguments are, on fewer tokens. -/
theorem reads_element {argument : List Token → Except Stop (Ty × List Token)}
    (tokens : List Token)
    (hargument : ∀ more, more.length < tokens.length →
      Reads (.ref .type) (fun type : Ty => type) anything more (argument more)) :
    Reads Grammar.element elementOf anything tokens (Parser.element argument tokens) := by
  unfold Parser.element
  split
  case h_1 type hprimitive =>
    cases tokens with
    | nil => cases hprimitive
    | cons t rest =>
      have hprimitive : primitive? t.kind = some type := hprimitive
      have hkeyword : t.kind ∈ Form.primitive.first :=
        (primitive?_eq_some_iff t.kind).mp (by rw [hprimitive]; rfl)
      have hident : t.kind ∉ [TokenKind.ident] := by
        intro h
        rw [List.mem_singleton.mp h] at hkeyword
        exact absurd hkeyword (by decide)
      -- keywords and identifiers are told apart by the first token
      rw [← primitiveOf_eq hprimitive]
      exact .left rfl hident (.token hkeyword)
  case h_2 hprimitive =>
    have hkeyword : peek tokens ∉ Form.primitive.first := by
      rw [← primitive?_eq_some_iff]
      simp [hprimitive]
    refine .right rfl hkeyword ?_
    refine .bind rfl rfl (reads_expectIdent .type tokens) fun name rest _ _ hless => ?_
    refine .map (reads_enclosed (by decide) (by decide) rfl rfl rfl rfl hargument rest
      (Nat.le_of_lt (hless rfl))) fun args => ?_
    exact congrArg (Ty.cls name.2) (List.map_id' (enclosedItems args)).symm

theorem reads_type (fuel : Nat) (tokens : List Token) (hfuel : tokens.length ≤ fuel) :
    Reads (.ref .type) (fun type : Ty => type) anything tokens (type fuel tokens) := by
  induction fuel generalizing tokens with
  | zero =>
    -- without tokens there is no type, so running out of fuel is no other answer
    cases List.length_eq_zero_iff.mp (Nat.le_zero.mp hfuel)
    exact .stuck .type rfl (by decide)
  | succ fuel ih =>
    simp only [type]
    refine .ref (.bind rfl rfl (reads_element tokens fun more hmore => ih more (by omega)) ?_)
    intro element rest _ _ _
    exact reads_brackets (elementOf element) rest.length rest (Nat.le_refl _)

/-! ## Declarations -/

theorem reads_arg (tokens : List Token) :
    Reads (.ref .arg) (fun a : Arg => a) anything tokens (arg tokens) := by
  refine .ref (.bind rfl rfl (reads_type tokens.length tokens (Nat.le_refl _)) ?_)
  exact fun type rest _ _ _ => .map (reads_expectIdent .argName rest) fun _ => rfl

theorem reads_constructor (tokens : List Token) :
    Reads (.ref .ctor) (fun c : Constructor => c) anything tokens (constructor tokens) := by
  refine .ref (.bind rfl rfl (reads_expectIdent .constructorName tokens) fun name rest _ _ _ => ?_)
  refine .map (reads_enclosed (by decide) (by decide) rfl rfl rfl rfl (fun more _ => reads_arg more)
    rest (Nat.le_refl _)) fun args => ?_
  exact congrArg (Constructor.mk name.2) (List.map_id' (enclosedItems args)).symm

theorem reads_dataType (tokens : List Token) :
    Reads (.ref .dataType) (fun d : DataType => d) anything tokens (dataType tokens) := by
  refine .ref (.bind rfl rfl (reads_expectIdent .dataTypeName tokens) fun name rest _ _ _ => ?_)
  refine .bind rfl rfl (reads_enclosed (by decide) (by decide) rfl rfl rfl rfl
    (fun more _ => reads_expectIdent .paramName more) rest (Nat.le_refl _))
    fun params rest _ _ _ => ?_
  refine .bind rfl rfl (reads_expect (by decide) [] rest) fun _ rest _ _ _ => ?_
  refine .map (reads_items (by decide) rfl rfl rfl (fun more _ => reads_constructor more)
    rest.length rest (Nat.le_refl _) (Nat.le_refl _)) fun constructors => ?_
  exact congrArg (DataType.mk name.2 _) (List.map_id' (itemsOf constructors)).symm

theorem reads_dataTypes (fuel : Nat) (tokens : List Token) (hfuel : tokens.length ≤ fuel) :
    Reads (.many (.ref .dataType)) (fun types : List DataType => types) (· = .eof) tokens
      (dataTypes fuel tokens) := by
  induction fuel generalizing tokens with
  | zero =>
    cases List.length_eq_zero_iff.mp (Nat.le_zero.mp hfuel)
    exact .many_nil (by decide) rfl
  | succ fuel ih =>
    simp only [dataTypes]
    split
    case isTrue hend =>
      exact .many_nil (by rw [hend]; decide) hend
    case isFalse hmore =>
      -- behind the data types only the end may follow, so any other token begins one
      refine .many_cons (fun _ => hmore) ?_
      refine .bind rfl rfl (reads_dataType tokens) fun first rest _ _ hless => ?_
      have hless := hless rfl
      exact .map (ih rest (by omega)) fun _ => rfl

theorem reads_package (tokens : List Token) :
    Reads (.opt (.seq (.one .kwPackage) (.ref .name)))
      (fun clause : Option (Value (.one .kwPackage) × Text) => (clause.map (·.2)).getD [])
      anything tokens (package tokens) := by
  unfold package
  split
  case isTrue hseen =>
    refine .opt_some (fun h => absurd (by simp [hseen]) h) ?_
    exact .behind hseen (by decide) fun _ => reads_expectName .packageName tokens.tail
  case isFalse hseen => exact .opt_none (by simpa using hseen) trivial

theorem reads_imports (fuel : Nat) (tokens : List Token) (hfuel : tokens.length ≤ fuel) :
    Reads (.many (.seq (.one .kwImport) (.ref .name)))
      (fun clauses : List (Value (.one .kwImport) × Text) => clauses.map (·.2))
      anything tokens (imports fuel tokens) := by
  induction fuel generalizing tokens with
  | zero =>
    cases List.length_eq_zero_iff.mp (Nat.le_zero.mp hfuel)
    exact .many_nil (by decide) trivial
  | succ fuel ih =>
    simp only [imports]
    split
    case isTrue hseen =>
      refine .many_cons (fun h => absurd (by simp [hseen]) h) (.assoc ?_)
      refine .behind hseen (by decide) fun _ => ?_
      refine .bind rfl rfl (reads_expectName .importName tokens.tail) fun name rest _ hle _ => ?_
      have hlength := tokens.length_tail
      exact .map (ih rest (by omega)) fun _ => rfl
    case isFalse hseen => exact .many_nil (by simpa using hseen) trivial

/-- The whole reader reads what stands before the end of a document. -/
theorem reads_doc (source : Text) (tokens : List Token) :
    Reads docBody (fun body => act .doc (body, (.eof, Token.eofText)) source) (· = .eof) tokens
      (doc source tokens) := by
  refine .bind rfl rfl (reads_package tokens) fun package rest _ _ _ => ?_
  refine .bind rfl rfl (reads_imports rest.length rest (Nat.le_refl _)) fun imports rest _ _ _ => ?_
  exact .map (reads_dataTypes rest.length rest (Nat.le_refl _)) fun _ => rfl

end Parser

/-! ## Sentences -/

namespace Grammar

/-- A document is its body and the end of the source. -/
def Deriv.closed {τ : Type} (body : Deriv τ docBody) (x : τ) : Deriv τ (.ref .doc) :=
  .ref (.seq body (.token .eof (List.mem_singleton.mpr rfl) x))

theorem Deriv.exists_closed {τ : Type} (d : Deriv τ (.ref .doc)) :
    ∃ body x, d = Deriv.closed body x := by
  cases d with
  | ref body =>
    cases body with
    | seq body last =>
      cases last with
      | token kind mem x =>
        cases List.mem_singleton.mp mem
        exact ⟨body, x, rfl⟩

@[simp] theorem Deriv.kinds_closed {τ : Type} (body : Deriv τ docBody) (x : τ) :
    (body.closed x).kinds = body.kinds ++ [.eof] :=
  Deriv.kinds_seq body _

/-- The end of the source does not lengthen a body. -/
theorem Deriv.body_ends {τ : Type} (body : Deriv τ docBody) : body.Ends [.eof] := by
  intro k hk hlengthens
  cases Option.mem_some.mp hk
  exact absurd (body.mem_trail hlengthens) (by decide)

/-- Whether some document begins with the kinds. -/
def Viable (kinds : List TokenKind) : Prop := ∃ sentence, Sentence sentence ∧ kinds <+: sentence

theorem Sentence.viable {kinds start : List TokenKind} (h : Sentence kinds)
    (hstart : start <+: kinds) : Viable start :=
  ⟨kinds, h, hstart⟩

end Grammar

/-! ## The grammar is accepted -/

open Grammar

/-- The tokens up to the one where a reader stopped. -/
theorem Parser.kinds_take_stop (taken rest : List Token) (eof : Token) (heof : eof.kind = .eof) :
    Parser.kinds ((taken ++ rest ++ [eof]).take (taken.length + 1)) =
      Parser.kinds taken ++ [Parser.peek rest] := by
  rw [List.append_assoc, List.take_length_add_append, Parser.kinds, List.map_append]
  cases rest with
  | nil => simp [Parser.peek, heof]
  | cons t rest => simp [Parser.peek]

theorem SourceFile.tokens?_eq_some {file : SourceFile} (hsize : file.content.length < UInt32.size)
    (table : WordTable) : file.tokens? table = some (file.tokens table) := by
  rw [tokens?, Cursor.start?, if_pos hsize, Option.map_some]

theorem SourceFile.tokens?_eq_none {file : SourceFile} (hsize : UInt32.size ≤ file.content.length)
    (table : WordTable) : file.tokens? table = none := by
  rw [tokens?, Cursor.start?, if_neg (Nat.not_lt.mpr hsize), Option.map_none]

/-- A file that is too long for offsets is not read. -/
theorem SourceFile.parse_of_long {file : SourceFile} (hsize : UInt32.size ≤ file.content.length)
    (table : WordTable) : file.parse table = .error .tooLong := by
  rw [parse, tokens?_eq_none hsize]

/-- A file that is not too long is read along a derivation of its tokens, or up to the first token
with which no document could go on. -/
theorem SourceFile.parse_cases {file : SourceFile} (hsize : file.content.length < UInt32.size)
    (table : WordTable) :
    (∃ d : Deriv Text (.ref .doc), d.yield = (file.lexed table).map Token.spelling ∧
      file.parse table = .ok (d.document file.path)) ∨
    (∃ e k, file.parse table = .error (.misfit e) ∧ (file.lexed table)[k]? = some e.token ∧
      Viable (Parser.kinds ((file.lexed table).take k)) ∧
      ¬ Viable (Parser.kinds ((file.lexed table).take (k + 1)))) := by
  obtain ⟨tokens, hscan⟩ := exists_scans file table file.content
  have hread := Parser.reads_doc file.path tokens
  rw [hscan.lexed_eq]
  simp only [SourceFile.parse, tokens?_eq_some hsize, hscan.file_tokens_eq]
  generalize Parser.doc file.path tokens = result at hread ⊢
  cases hread with
  | ok d taken rest split spelled ended followed =>
    -- a rest that begins with the end is empty: the end token stands behind the other tokens
    have hrest : rest = [] := by
      cases rest with
      | nil => rfl
      | cons t rest =>
        have ht : t ∈ tokens := by simp [split]
        exact absurd followed (hscan.kind_ne_eof t ht)
    refine .inl ⟨d.closed Token.eofText, ?_, rfl⟩
    rw [split, hrest, List.append_nil, List.map_append, spelled]
    rfl
  | error stop taken split viable refused =>
    -- the token at the stop is the first one that was not taken, or the end token
    refine .inr ⟨_, taken.length, rfl, ?_, ?_, ?_⟩
    · rw [split, List.append_assoc, List.getElem?_append_right (Nat.le_refl _), Nat.sub_self]
      cases stop.rest <;> rfl
    · obtain ⟨d, hd⟩ := viable
      refine ⟨_, ⟨d.closed (), rfl⟩, ?_⟩
      rw [split, List.append_assoc, List.take_left', Deriv.kinds_closed]
      · exact hd.trans (List.prefix_append _ _)
      · rfl
    · rintro ⟨_, ⟨d, rfl⟩, w, hw⟩
      obtain ⟨body, _, rfl⟩ := d.exists_closed
      refine refused body [.eof] w body.body_ends (by simp) ?_
      rw [split, Parser.kinds_take_stop _ _ _ rfl, Deriv.kinds_closed] at hw
      rw [← hw, List.append_assoc]
      rfl

/-- A derivation of the tokens with their texts is one of their kinds. -/
theorem sentence_of_yield {tokens : List Token} {d : Deriv Text (.ref .doc)}
    (h : d.yield = tokens.map Token.spelling) : Sentence (Parser.kinds tokens) :=
  ⟨d.map fun _ => (), by rw [Deriv.kinds_map, Parser.kinds_eq_of_spelled h.symm]⟩

/-- A file that was read is not too long. -/
theorem SourceFile.length_lt_of_parse {file : SourceFile} {table : WordTable} {doc : Doc}
    (h : file.parse table = .ok doc) : file.content.length < UInt32.size := by
  refine Nat.lt_of_not_le fun hlong => ?_
  rw [parse_of_long hlong] at h
  cases h

/-- A document is read exactly if the file is not too long and a derivation of the tokens describes
the document. -/
theorem SourceFile.parse_eq_ok_iff {file : SourceFile} {table : WordTable} {doc : Doc} :
    file.parse table = .ok doc ↔ file.content.length < UInt32.size ∧
      ∃ d : Deriv Text (.ref .doc),
        d.yield = (file.lexed table).map Token.spelling ∧ d.document file.path = doc := by
  by_cases hsize : file.content.length < UInt32.size
  case neg => exact iff_of_false (fun h => hsize (length_lt_of_parse h)) fun h => hsize h.1
  rw [and_iff_right hsize]
  rcases parse_cases hsize table with ⟨d, hyield, hok⟩ | ⟨e, k, herror, -, -, hrefused⟩
  · rw [hok]
    constructor
    · intro h
      exact ⟨d, hyield, Except.ok.inj h⟩
    · rintro ⟨d', hyield', rfl⟩
      rw [Deriv.eq_of_yield_eq rfl (hyield.trans hyield'.symm)]
  · rw [herror]
    refine iff_of_false (by simp) ?_
    rintro ⟨d, hyield, -⟩
    exact hrefused ((sentence_of_yield hyield).viable ((List.take_prefix _ _).map _))

/-- The spellings of tokens depend on the text alone. -/
theorem Scans.exists_same_spelling {file : SourceFile} {table : WordTable} {t : Text}
    {tokens : List Token} (h : Scans file table t tokens) (other : SourceFile) :
    ∃ tokens', Scans other table t tokens' ∧
      tokens'.map Token.spelling = tokens.map Token.spelling := by
  induction h with
  | stop hgap => exact ⟨[], .stop hgap, rfl⟩
  | step hgap hlexeme _ ih =>
    obtain ⟨tokens', hscans, hspelling⟩ := ih
    refine ⟨_, .step hgap hlexeme hscans, ?_⟩
    rw [List.map_cons, List.map_cons, hspelling]
    rfl

/-- Files whose tokens are spelled alike are lexed alike, their ends included. -/
theorem Scans.map_spelling_lexed {file other : SourceFile} {table table' : WordTable}
    {tokens tokens' : List Token} (h : Scans file table file.content tokens)
    (h' : Scans other table' other.content tokens')
    (hspelling : tokens'.map Token.spelling = tokens.map Token.spelling) :
    (other.lexed table').map Token.spelling = (file.lexed table).map Token.spelling := by
  rw [h.lexed_eq, h'.lexed_eq, List.map_append, List.map_append, hspelling]
  rfl

/-- A document is described up to the name of its source. -/
theorem Grammar.Deriv.document_eq (d : Deriv Text (.ref .doc)) (source other : Text) :
    d.document other = { d.document source with source := other } := by
  cases d with
  | ref => rfl

/-- Tokens spelled alike are read alike, whatever file and table they come from. -/
theorem SourceFile.parse_eq_ok_of_spelling {file other : SourceFile} {table table' : WordTable}
    {doc : Doc} (hsize : other.content.length < UInt32.size)
    (hspelling : (other.lexed table').map Token.spelling = (file.lexed table).map Token.spelling)
    (h : file.parse table = .ok doc) :
    doc.source = file.path ∧ other.parse table' = .ok { doc with source := other.path } := by
  obtain ⟨-, d, hyield, rfl⟩ := parse_eq_ok_iff.mp h
  refine ⟨by rw [d.document_eq file.path file.path], parse_eq_ok_iff.mpr ⟨hsize, d, ?_, ?_⟩⟩
  · rw [hspelling, hyield]
  · exact d.document_eq _ _

/-- What is read depends on the content of a file alone, but for the name of the source. -/
theorem SourceFile.parse_eq_ok_congr {file other : SourceFile} {table : WordTable} {doc : Doc}
    (hcontent : file.content = other.content) (h : file.parse table = .ok doc) :
    doc.source = file.path ∧ other.parse table = .ok { doc with source := other.path } := by
  obtain ⟨tokens, hscans⟩ := exists_scans file table file.content
  obtain ⟨tokens', hscans', hspelling⟩ := hscans.exists_same_spelling other
  have hsize := length_lt_of_parse h
  rw [hcontent] at hscans' hsize
  exact parse_eq_ok_of_spelling hsize (hscans.map_spelling_lexed hscans' hspelling) h

/-- Reading succeeds on the sentences, and stops at a token on all other sequences. -/
theorem SourceFile.parse_sentence_cases {file : SourceFile}
    (hsize : file.content.length < UInt32.size) (table : WordTable) :
    (∃ doc, file.parse table = .ok doc) ∧ Sentence (Parser.kinds (file.lexed table)) ∨
      (∃ e, file.parse table = .error (.misfit e)) ∧
        ¬ Sentence (Parser.kinds (file.lexed table)) := by
  rcases parse_cases hsize table with ⟨d, hyield, hok⟩ | ⟨e, k, herror, -, -, hrefused⟩
  · exact .inl ⟨⟨_, hok⟩, sentence_of_yield hyield⟩
  · exact .inr ⟨⟨e, herror⟩, fun h => hrefused (h.viable ((List.take_prefix _ _).map _))⟩

/-- **The reader accepts exactly its grammar.** Of the files that are not too long for offsets it
reads those whose tokens make up a sentence, and stops at a token of all others. A sentence has one
derivation, and the document is the one that this derivation describes. -/
theorem SourceFile.parse_iff_sentence (file : SourceFile) (table : WordTable) :
    ((∃ doc, file.parse table = .ok doc) ↔
      file.content.length < UInt32.size ∧ Sentence (Parser.kinds (file.lexed table))) ∧
    ((∃ e, file.parse table = .error (.misfit e)) ↔
      file.content.length < UInt32.size ∧ ¬ Sentence (Parser.kinds (file.lexed table))) ∧
    (file.parse table = .error .tooLong ↔ UInt32.size ≤ file.content.length) ∧
    Subsingleton { d : Deriv Unit (.ref .doc) // d.kinds = Parser.kinds (file.lexed table) } ∧
    (∀ doc, file.parse table = .ok doc ↔ file.content.length < UInt32.size ∧
      ∃ d : Deriv Text (.ref .doc),
        d.yield = (file.lexed table).map Token.spelling ∧ d.document file.path = doc) := by
  have hunique : Subsingleton
      { d : Deriv Unit (.ref .doc) // d.kinds = Parser.kinds (file.lexed table) } :=
    ⟨fun d d' => Subtype.ext (Deriv.eq_of_kinds_eq rfl (d.2.trans d'.2.symm))⟩
  by_cases hsize : file.content.length < UInt32.size
  · have hlong := Nat.not_le.mpr hsize
    rcases parse_sentence_cases hsize table with ⟨⟨doc, hok⟩, hsentence⟩ | ⟨⟨e, herror⟩, hnone⟩
    · refine ⟨iff_of_true ⟨doc, hok⟩ ⟨hsize, hsentence⟩, iff_of_false ?_ fun h => h.2 hsentence,
        iff_of_false ?_ hlong, hunique, fun doc => parse_eq_ok_iff⟩ <;> simp [hok]
    · refine ⟨iff_of_false ?_ fun h => hnone h.2, iff_of_true ⟨e, herror⟩ ⟨hsize, hnone⟩,
        iff_of_false ?_ hlong, hunique, fun doc => parse_eq_ok_iff⟩ <;> simp [herror]
  · have hlong := parse_of_long (Nat.not_lt.mp hsize) table
    refine ⟨iff_of_false ?_ fun h => hsize h.1, iff_of_false ?_ fun h => hsize h.1,
      iff_of_true hlong (Nat.not_lt.mp hsize), hunique, fun doc => parse_eq_ok_iff⟩ <;>
      simp [hlong]

/-- A syntax error points at a token: it has the token's place, and its message names the token. -/
structure SyntaxError.PointsAt (e : SyntaxError) (token : Token) : Prop where
  span : e.token.span = token.span
  line : e.token.line = token.line
  column : e.token.column = token.column
  found : e.found = (if token.kind = .eof then "<EOF>"
    else if token.kind = .reserved then "reserved word '" ++ token.text ++ "'"
    else "'" ++ token.text ++ "'" : Text)

theorem SyntaxError.pointsAt_token (e : SyntaxError) : e.PointsAt e.token := by
  refine ⟨rfl, rfl, rfl, ?_⟩
  unfold SyntaxError.found
  split <;> simp_all [Token.eofText]

/-- **Syntax errors point at the first token that does not fit**: some document begins with the
tokens before it, and none begins with these and it. -/
theorem SourceFile.parse_error_at_first_misfit (file : SourceFile) (table : WordTable)
    (e : SyntaxError) (h : file.parse table = .error (.misfit e)) :
    ∃ k token, (file.lexed table)[k]? = some token ∧
      Viable (Parser.kinds ((file.lexed table).take k)) ∧
      ¬ Viable (Parser.kinds ((file.lexed table).take (k + 1))) ∧ e.PointsAt token := by
  have hsize : file.content.length < UInt32.size := by
    refine Nat.lt_of_not_le fun hlong => ?_
    rw [parse_of_long hlong] at h
    cases h
  rcases parse_cases hsize table with ⟨d, _, hok⟩ | ⟨e', k, herror, htoken, hviable, hrefused⟩
  · rw [hok] at h
    cases h
  · rw [herror] at h
    cases h
    exact ⟨k, _, htoken, hviable, hrefused, e.pointsAt_token⟩

/-- A source that ends where a constructor is missing. -/
def danglingBar : SourceFile := { id := 0, path := "a.adt", content := "T = A |", flags := 0 }

/-- Behind a bar at the end of a source the end does not fit. -/
theorem SourceFile.parse_error_behind_bar :
    ∃ e, danglingBar.parse {} = .error (.misfit e) ∧
      ∃ k token, (danglingBar.lexed {})[k]? = some token ∧
        Viable (Parser.kinds ((danglingBar.lexed {}).take k)) ∧
        ¬ Viable (Parser.kinds ((danglingBar.lexed {}).take (k + 1))) ∧ e.PointsAt token := by
  have hfails : (match danglingBar.parse {} with
    | .error (.misfit _) => true
    | _ => false) = true := by decide
  match h : danglingBar.parse {}, hfails with
  | .error (.misfit e), _ => exact ⟨e, rfl, SourceFile.parse_error_at_first_misfit _ _ e h⟩

end AdtCompiler
