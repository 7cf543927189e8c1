import AdtCompiler.Backend.Basic
import AdtCompiler.Proofs.Acceptance
import AdtCompiler.Proofs.Collisions
import AdtCompiler.Proofs.Tiling
import AdtCompiler.Run.Locate
import Mathlib.Data.List.Forall2

/-!
# Findings are located at their names

A document does not hold the places of its names, so a finding is located by a second look at the
tokens of its source. The look succeeds because every name that a rule reports, also one that it
derives from another name, is introduced by a declaration of the document, and the names that
declarations introduce are spelled by words of the source in the same order. What is introduced
twice is spelled twice, and the first place goes into a note.

## Contents

- `Doc.introducedNames`: the names that the declarations of a document introduce
- `Grammar.introduced`: the same for what any form of the grammar describes
- `Grammar.Deriv.introduced_sublist`, `SourceFile.introducedNames_sublist`: they are spelled
- `Doc.introduced_of_check`: a finding is about a name that is introduced often enough
- `Span.Spells`, `Finding.LocatedBy`, `FindingSet.diagnostics_located`
-/

namespace AdtCompiler

/-! ## Names that declarations introduce -/

/-- The names of a constructor and its fields. -/
def Constructor.introducedNames (c : Constructor) : List Text := c.name :: c.fieldNames

/-- The names that a data type introduces, in the order in which they are written. -/
def DataType.introducedNames (d : DataType) : List Text :=
  d.name :: (d.params ++ d.constructors.flatMap Constructor.introducedNames)

/-- The names that a document introduces, in the order in which they are written. -/
def Doc.introducedNames (doc : Doc) : List Text := doc.types.flatMap DataType.introducedNames

/-! ## They are spelled by words -/

namespace Grammar

/-- The names that the meaning of a nonterminal introduces. A type refers to names and introduces
none, and neither does the name of a package. -/
def introducedBy : (n : Nonterminal) → Meaning n → List Text
  | .doc => fun doc => (doc []).introducedNames
  | .dataType => DataType.introducedNames
  | .ctor => Constructor.introducedNames
  | .arg => fun a => [a.name]
  | .type | .name => fun _ => []

/-- The names that are introduced by what a form describes. -/
def introduced : (e : Form) → Value e → List Text
  | .token kinds => fun leaf : TokenKind × Text => if kinds = [.ident] then [leaf.2] else []
  | .ref n => introducedBy n
  | .seq e f => fun v : Value e × Value f => introduced e v.1 ++ introduced f v.2
  | .either e f => fun v : Value e ⊕ Value f => v.elim (introduced e) (introduced f)
  | .opt e => fun v : Option (Value e) => v.elim [] (introduced e)
  | .many e => fun vs : List (Value e) => vs.flatMap (introduced e)

/-- A list with separators introduces what its items do. -/
theorem introduced_itemsOf (separator : TokenKind) {e : Form}
    (v : Value e × List ((TokenKind × Text) × Value e)) :
    ((itemsOf v).flatMap (introduced e)).Sublist (introduced (.separated separator e) v) := by
  obtain ⟨head, tail⟩ := v
  have htail : ((tail.map (·.2)).flatMap (introduced e)).Sublist
      (tail.flatMap (introduced (.seq (.one separator) e))) := by
    rw [List.flatMap_map]
    exact List.Sublist.flatMap_right tail fun item _ => List.sublist_append_right _ _
  exact (List.Sublist.refl _).append htail

/-- An optional list in brackets introduces the names of its items, where each of them introduces
one name. -/
theorem introduced_enclosedItems (opening separator closing : TokenKind) {e : Form}
    {name : Value e → Text} (hname : ∀ v, introduced e v = [name v])
    (v : Option ((TokenKind × Text) × (Value e × List ((TokenKind × Text) × Value e)) ×
      (TokenKind × Text))) :
    ((enclosedItems v).map name).Sublist
      (introduced (.opt (.between opening (.separated separator e) closing)) v) := by
  cases v with
  | none => exact List.Sublist.refl _
  | some v =>
    obtain ⟨left, items, right⟩ := v
    have hitems : (itemsOf items).map name = (itemsOf items).flatMap (introduced e) := by
      rw [funext hname, List.map_eq_flatMap]
    have hlist := hitems ▸ introduced_itemsOf separator items
    exact (hlist.trans (List.sublist_append_left _ _)).trans (List.sublist_append_right _ _)

/-- A rule introduces no name that its parts do not introduce, and keeps their order. -/
theorem introducedBy_act (n : Nonterminal) (v : Value (rule n)) :
    (introducedBy n (act n v)).Sublist (introduced (rule n) v) := by
  cases n with
  | doc =>
    obtain ⟨⟨package, imports, types⟩, last⟩ := v
    exact ((List.sublist_append_right _ _).trans (List.sublist_append_right _ _)).trans
      (List.sublist_append_left _ _)
  | dataType =>
    obtain ⟨name, params, equals, constructors⟩ := v
    have hparams := introduced_enclosedItems .lAngle .comma .rAngle (e := .one .ident)
      (fun leaf => rfl) params
    have hconstructors := introduced_itemsOf .bar (e := .ref .ctor) constructors
    exact (List.Sublist.refl [name.2]).append
      (hparams.append (hconstructors.trans (List.sublist_append_right _ _)))
  | ctor =>
    obtain ⟨name, args⟩ := v
    have hargs := introduced_enclosedItems .lParen .comma .rParen (e := .ref .arg)
      (fun a => rfl) args
    exact (List.Sublist.refl [name.2]).append hargs
  | arg => exact List.sublist_append_right _ _
  | type | name => exact List.nil_sublist _

/-- The texts of the words among the leaves of a derivation. -/
def words (leaves : List (TokenKind × Text)) : List Text :=
  (leaves.filter (·.1 == .ident)).map (·.2)

theorem words_append (leaves leaves' : List (TokenKind × Text)) :
    words (leaves ++ leaves') = words leaves ++ words leaves' := by
  simp only [words, List.filter_append, List.map_append]

/-- What a derivation introduces is spelled by its words. -/
theorem Deriv.introduced_sublist {e : Form} (d : Deriv Text e) :
    (introduced e d.value).Sublist (words d.yield) := by
  induction d with
  | token kind mem text =>
    show (ite _ [text] []).Sublist _
    split
    case isTrue hkinds =>
      obtain rfl : kind = .ident := by simpa [hkinds] using mem
      exact List.Sublist.refl _
    case isFalse => exact List.nil_sublist _
  | @ref n body ih => exact (introducedBy_act n body.value).trans ih
  | seq a b iha ihb => exact words_append a.yield b.yield ▸ iha.append ihb
  | left a ih => exact ih
  | right b ih => exact ih
  | none => exact List.Sublist.refl _
  | some a ih => exact ih
  | nil => exact List.Sublist.refl _
  | cons a as iha ihas => exact words_append a.yield as.yield ▸ iha.append ihas

end Grammar

section Occurrences

variable {file : SourceFile} {table : WordTable} {doc : Doc}

/-- The end of a source spells nothing, so its words are those among its tokens. -/
theorem Scans.words_lexed {tokens : List Token} (h : Scans file table file.content tokens) :
    Grammar.words ((file.lexed table).map Token.spelling) =
      (tokens.filter (·.kind == .ident)).map (·.text) := by
  rw [h.lexed_eq, List.map_append, Grammar.words_append]
  have hend : Grammar.words ([file.endToken].map Token.spelling) = [] := rfl
  rw [hend, List.append_nil, Grammar.words, List.filter_map, List.map_map]
  rfl

/-- The names that a document introduces are spelled by words of its source, in order. -/
theorem SourceFile.introducedNames_sublist (h : file.parse table = .ok doc) {tokens : List Token}
    (hscan : Scans file table file.content tokens) :
    doc.introducedNames.Sublist ((tokens.filter (·.kind == .ident)).map (·.text)) := by
  obtain ⟨-, d, hyield, rfl⟩ := parse_eq_ok_iff.mp h
  rw [← hscan.words_lexed, ← hyield]
  have hsource : (d.document file.path).introducedNames = (d.document []).introducedNames := by
    rw [d.document_eq file.path []]
    rfl
  exact hsource ▸ d.introduced_sublist

/-- A name has as many occurrences as there are words that spell it. -/
theorem Scans.length_occurrences {tokens : List Token} (h : Scans file table file.content tokens)
    (name : Text) :
    (file.occurrences table name).length =
      ((tokens.filter (·.kind == .ident)).map (·.text)).count name := by
  rw [SourceFile.occurrences, h.file_tokens_eq, List.length_map, List.count_eq_length_filter,
    List.filter_map, List.length_map, List.filter_filter]
  simp only [Function.comp_apply, Bool.and_comm]

/-- A name is spelled at least as often as it is introduced. -/
theorem SourceFile.count_introducedNames_le (h : file.parse table = .ok doc) (name : Text) :
    doc.introducedNames.count name ≤ (file.occurrences table name).length := by
  obtain ⟨tokens, hscan⟩ := exists_scans file table file.content
  rw [hscan.length_occurrences]
  exact (introducedNames_sublist h hscan).count_le name

end Occurrences

/-! ## Findings are about names that are introduced -/

section Introduced

variable {doc : Doc} {d : DataType} {c : Constructor} {f : Finding}

theorem DataType.introducedNames_sublist (hd : d ∈ doc.types) :
    d.introducedNames.Sublist doc.introducedNames :=
  List.sublist_flatten_of_mem (List.mem_map_of_mem hd)

theorem Constructor.introducedNames_sublist (hc : c ∈ d.constructors) :
    c.introducedNames.Sublist d.introducedNames := by
  have hconstructors : c.introducedNames.Sublist
      (d.constructors.flatMap Constructor.introducedNames) :=
    List.sublist_flatten_of_mem (List.mem_map_of_mem hc)
  exact (hconstructors.trans (List.sublist_append_right _ _)).trans (List.sublist_cons_self _ _)

theorem DataType.params_sublist (d : DataType) : d.params.Sublist d.introducedNames :=
  (List.sublist_append_left _ _).trans (List.sublist_cons_self _ _)

/-- The names that are taken are introduced, in the same order. -/
theorem DataType.takenNames_sublist (d : DataType) : d.takenNames.Sublist d.introducedNames := by
  have hseparate : d.separateNames.Sublist (d.constructors.map (·.name)) := by
    rcases d.map_name_constructors with heq | ⟨-, heq⟩ <;> simp [heq]
  have hconstructors : (d.constructors.map (·.name)).Sublist
      (d.constructors.flatMap Constructor.introducedNames) := by
    rw [List.map_eq_flatMap]
    exact List.Sublist.flatMap_right _ fun c _ => (List.nil_sublist _).cons_cons c.name
  exact ((hseparate.trans hconstructors).trans (List.sublist_append_right _ _)).cons_cons d.name

/-- A type parameter that hides a type is introduced beside the type. -/
theorem DataType.two_le_count_of_hides {p : Text} (hp : p ∈ d.params)
    (hides : p = d.name ∨ ∃ c ∈ d.constructors, p = c.name) :
    2 ≤ d.introducedNames.count p := by
  have hparam : 1 ≤ d.params.count p := List.one_le_count_iff.mpr hp
  rcases hides with rfl | ⟨c, hc, rfl⟩
  · rw [introducedNames, List.count_cons_self, List.count_append]
    omega
  · have hmem : c.name ∈ d.constructors.flatMap Constructor.introducedNames :=
      List.mem_flatMap.mpr ⟨c, hc, List.mem_cons_self⟩
    have hconstructor := List.one_le_count_iff.mpr hmem
    have htail := (List.sublist_cons_self d.name
      (d.params ++ d.constructors.flatMap Constructor.introducedNames)).count_le c.name
    rw [List.count_append] at htail
    rw [introducedNames]
    omega

/-- A collision is about a name that is introduced twice. -/
theorem Doc.Collision.two_le_count (h : doc.Collision f) :
    2 ≤ doc.introducedNames.count f.name := by
  cases h with
  | name n twice =>
    have htaken : doc.takenNames.Sublist doc.introducedNames :=
      List.Sublist.flatMap_right doc.types fun d _ => d.takenNames_sublist
    exact Nat.le_trans twice (htaken.count_le n)
  | @param d hd p twice =>
    have hparams := d.params_sublist.trans (DataType.introducedNames_sublist hd)
    exact Nat.le_trans twice (hparams.count_le p)
  | shadow hd hp hides =>
    exact Nat.le_trans (DataType.two_le_count_of_hides hp hides)
      ((DataType.introducedNames_sublist hd).count_le _)
  | @field d hd c hc n twice =>
    have hfields := (List.sublist_cons_self c.name c.fieldNames).trans
      ((Constructor.introducedNames_sublist hc).trans (DataType.introducedNames_sublist hd))
    exact Nat.le_trans twice (hfields.count_le n)

end Introduced

/-- Findings that are clashes of the given names with generated ones. -/
def ClashesOf (names : List Text) (found : List Finding) : Prop :=
  ∀ f ∈ found, f.kind = .generatedClash ∧ f.name ∈ names

namespace ClashesOf

variable {names names' : List Text} {found found' : List Finding}

theorem nil : ClashesOf names [] := fun _ h => absurd h List.not_mem_nil

theorem append (h : ClashesOf names found) (h' : ClashesOf names found') :
    ClashesOf names (found ++ found') :=
  fun f hf => (List.mem_append.mp hf).elim (h f) (h' f)

theorem flatMap {α : Type} {xs : List α} {findings : α → List Finding}
    (h : ∀ x ∈ xs, ClashesOf names (findings x)) : ClashesOf names (xs.flatMap findings) := by
  intro f hf
  obtain ⟨x, hx, hfound⟩ := List.mem_flatMap.mp hf
  exact h x hx f hfound

theorem mono (h : ClashesOf names found) (hsubset : names ⊆ names') : ClashesOf names' found :=
  fun f hf => (h f hf).imp_right fun hname => hsubset hname

theorem single {scope name counterpart : Text} (h : name ∈ names) :
    ClashesOf names [Go.clash scope name counterpart] := by
  intro f hf
  obtain rfl := List.mem_singleton.mp hf
  exact ⟨rfl, h⟩

/-- A finding that is made under a condition. -/
theorem guarded {condition : Prop} [Decidable condition] {scope name counterpart : Text}
    (h : condition → name ∈ names) :
    ClashesOf names (if condition then [Go.clash scope name counterpart] else []) := by
  split
  case isTrue hcondition => exact single (h hcondition)
  case isFalse => exact nil

end ClashesOf

section Rules

variable {doc : Doc} {d : DataType} {c : Constructor}

theorem Java.boundNames_subset (d : DataType) : boundNames d ⊆ d.introducedNames := by
  intro name hname
  simp only [boundNames, List.cons_append, List.mem_cons, List.mem_append, List.mem_map] at hname
  rcases hname with rfl | hparam | ⟨c, hc, rfl⟩
  · exact List.mem_cons_self
  · exact d.params_sublist.subset hparam
  · exact (Constructor.introducedNames_sublist hc).subset List.mem_cons_self

theorem Java.nameRule_clashes (doc : Doc) : ClashesOf doc.introducedNames (nameRule doc) := by
  refine .flatMap fun d hd => ?_
  unfold typeFindings
  split
  case isTrue => exact .nil
  case isFalse =>
    intro f hf
    obtain ⟨name, hname, rfl⟩ := List.mem_map.mp hf
    have hbound := boundNames_subset d (List.mem_of_mem_filter hname)
    exact ⟨rfl, (DataType.introducedNames_sublist hd).subset hbound⟩

namespace Go

theorem typeNames_subset_introducedNames (doc : Doc) : typeNames doc ⊆ doc.introducedNames := by
  intro name hname
  obtain ⟨d, hd, hmem⟩ := List.mem_flatMap.mp hname
  refine (DataType.introducedNames_sublist hd).subset ?_
  rcases List.mem_cons.mp hmem with rfl | hmem
  · exact List.mem_cons_self
  · split at hmem
    case isTrue => exact absurd hmem List.not_mem_nil
    case isFalse =>
      obtain ⟨c, hc, rfl⟩ := List.mem_map.mp hmem
      exact (Constructor.introducedNames_sublist hc).subset List.mem_cons_self

theorem referenceFindings_clashes (scope : Text) {name : Text} {names : List Text}
    (h : name ∈ names) : ClashesOf names (referenceFindings scope name) := by
  unfold referenceFindings
  split
  · exact .single h
  · exact .nil

/-- A field that clashes is one of the fields, whatever it clashes with. -/
theorem fieldClashesAfter_clashes (scope : Text) (seen : List (Text × Text)) (names : List Text) :
    ClashesOf names (fieldClashesAfter scope seen names) := by
  induction names generalizing seen with
  | nil => exact .nil
  | cons name rest ih =>
    unfold fieldClashesAfter
    refine .append (.append (.guarded fun _ => List.mem_cons_self) ?_)
      ((ih _).mono (List.subset_cons_self _ _))
    split
    · rw [← ite_not]
      exact .guarded fun _ => List.mem_cons_self
    · exact .nil

theorem constructorClashes_clashes (hc : c ∈ d.constructors) (hd : d ∈ doc.types) :
    ClashesOf doc.introducedNames (constructorClashes (typeNames doc) d c) := by
  have hown : c.introducedNames ⊆ doc.introducedNames :=
    ((Constructor.introducedNames_sublist hc).trans (DataType.introducedNames_sublist hd)).subset
  unfold constructorClashes
  refine .append (.append ?_ (.guarded fun hlisted => ?_)) ?_
  · split
    · exact .nil
    · exact referenceFindings_clashes "" (hown List.mem_cons_self)
  · -- the derived name is reported only where a type has it
    exact typeNames_subset_introducedNames doc (List.contains_iff_mem.mp hlisted)
  · have hfields : c.fieldNames ⊆ c.introducedNames := List.subset_cons_self _ _
    exact (fieldClashesAfter_clashes _ _ _).mono (List.Subset.trans hfields hown)

theorem nameRule_clashes (doc : Doc) : ClashesOf doc.introducedNames (nameRule doc) := by
  refine .flatMap fun d hd => ?_
  have hown : d.introducedNames ⊆ doc.introducedNames :=
    (DataType.introducedNames_sublist hd).subset
  unfold typeClashes
  refine .append (.append (.append ?_ ?_) (.guarded fun hlisted => ?_)) ?_
  · exact referenceFindings_clashes "" (hown List.mem_cons_self)
  · exact .flatMap fun p hp => referenceFindings_clashes d.name (hown (d.params_sublist.subset hp))
  · have hlisted := (Bool.and_eq_true_iff.mp hlisted).2
    exact typeNames_subset_introducedNames doc (List.contains_iff_mem.mp hlisted)
  · exact .flatMap fun c hc => constructorClashes_clashes hc hd

end Go

end Rules

/-- Whether findings of a kind are about two declarations that share a name. -/
def FindingKind.isShared : FindingKind → Bool
  | .duplicateName | .duplicateField | .duplicateParam | .shadowingParam => true
  | .generatedClash | .unlisted _ _ => false

theorem Backend.clashes_of_mem_rules {package name : Text} {backend : Backend}
    (hbackend : find? package name = some backend) {rule : CheckRule} (hrule : rule ∈ backend.rules)
    (doc : Doc) : ClashesOf doc.introducedNames (rule doc) := by
  unfold find? at hbackend
  split at hbackend
  · obtain rfl := Option.some.inj hbackend
    obtain rfl := List.mem_singleton.mp hrule
    exact Java.nameRule_clashes doc
  · split at hbackend
    · obtain rfl := Option.some.inj hbackend
      obtain rfl := List.mem_singleton.mp hrule
      exact Go.nameRule_clashes doc
    · cases hbackend

/-- A finding is about a name that the document introduces, and about one that it introduces twice
if two declarations share the name. -/
theorem Doc.introduced_of_check {package name : Text} {backend : Backend}
    (hbackend : Backend.find? package name = some backend) {doc : Doc} {f : Finding}
    (hf : (doc.check backend.rules).contains f = true) :
    1 ≤ doc.introducedNames.count f.name ∧
      (f.kind.isShared = true → 2 ≤ doc.introducedNames.count f.name) := by
  rcases contains_check.mp hf with hcore | ⟨rule, hrule, hfound⟩
  · have htwice := (mem_coreFindings.mp hcore).two_le_count
    exact ⟨Nat.le_of_succ_le htwice, fun _ => htwice⟩
  · obtain ⟨hkind, hname⟩ := Backend.clashes_of_mem_rules hbackend hrule doc f hfound
    refine ⟨List.one_le_count_iff.mpr hname, fun hshared => ?_⟩
    rw [hkind] at hshared
    cases hshared

/-! ## Places -/

/-- A span of a file that covers the bytes of a name and nothing else. -/
structure Span.Spells (span : Span) (file : SourceFile) (name : Text) : Prop where
  file_eq : span.file = file.id
  start_lt_stop : span.start.toNat < span.stop.toNat
  stop_le : span.stop.toNat ≤ file.content.length
  slice_eq : file.slice span.start.toNat span.stop.toNat = name

/-- A diagnostic reports a finding at a place where its name stands. There may be one note, about a
place before that one where the name stands too, and there is one if two declarations share the
name. -/
structure Finding.LocatedBy (f : Finding) (file : SourceFile) (d : Diagnostic) : Prop where
  severity_eq : d.severity = .error
  code_eq : d.code = f.kind.diagnosticCode
  message_eq : d.message = f.message
  spells : d.span.Spells file f.name
  notes_le : d.notes.length ≤ 1
  note_spells : ∀ note ∈ d.notes, note.span.Spells file f.name
  note_before : ∀ note ∈ d.notes, note.span.stop.toNat ≤ d.span.start.toNat
  shared : f.kind.isShared = true → d.notes.length = 1

section Places

variable {file : SourceFile} {table : WordTable}

/-- The occurrences of a name spell it, one behind the other. -/
theorem SourceFile.occurrences_spell (hsize : file.content.length < UInt32.size)
    (table : WordTable) (name : Text) :
    (∀ span ∈ file.occurrences table name, span.Spells file name) ∧
      (file.occurrences table name).Pairwise fun a b => a.stop.toNat ≤ b.start.toNat := by
  obtain ⟨tokens, hscan⟩ := exists_scans file table file.content
  have htiled : Tiled file table 0 tokens :=
    @Scans.tiled _ _ _ _ hscan hsize [] rfl (by simp [WordBreak])
  rw [occurrences, hscan.file_tokens_eq]
  constructor
  · intro span hspan
    obtain ⟨t, ht, rfl⟩ := List.mem_map.mp hspan
    obtain ⟨hmem, hword⟩ := List.mem_filter.mp ht
    have htext : t.text = name := eq_of_beq (Bool.and_eq_true_iff.mp hword).2
    have htile := htiled.tile t hmem
    exact ⟨htile.file_eq, htile.start_lt_stop, htile.stop_le, htile.text_eq.symm.trans htext⟩
  · exact List.pairwise_map.mpr (htiled.pairwise.filter _)

/-- Places that spell the name of a finding, and enough of them, locate it. -/
theorem Finding.locatedBy_diagnostic (f : Finding) {places : List Span}
    (hspells : ∀ span ∈ places, span.Spells file f.name)
    (hordered : places.Pairwise fun a b => a.stop.toNat ≤ b.start.toNat)
    (hone : 1 ≤ places.length) (htwo : f.kind.isShared = true → 2 ≤ places.length) :
    f.LocatedBy file (f.diagnostic file.id places) := by
  match places with
  | [] => cases hone
  | [only] =>
    refine ⟨rfl, rfl, rfl, hspells only List.mem_cons_self, Nat.zero_le 1, nofun, nofun, ?_⟩
    intro hshared
    have hlength : 2 ≤ 1 := htwo hshared
    omega
  | first :: second :: rest =>
    have hbefore := List.rel_of_pairwise_cons hordered List.mem_cons_self
    have hfirst := hspells first List.mem_cons_self
    have hsecond := hspells second (List.mem_cons_of_mem _ List.mem_cons_self)
    exact ⟨rfl, rfl, rfl, hsecond, Nat.le_refl 1, List.forall_mem_singleton.mpr hfirst,
      List.forall_mem_singleton.mpr hbefore, fun _ => rfl⟩

/-- **Every finding is located at its name.** The diagnostics of the findings in a source that is
read stand for the findings in order, each at bytes of the source that spell the name it is about.
If it is about two declarations that share the name, a note points to an earlier place where the
name stands. -/
theorem FindingSet.diagnostics_located {package name : Text} {backend : Backend} {doc : Doc}
    (hbackend : Backend.find? package name = some backend)
    (hsize : file.content.length < UInt32.size) (hparse : file.parse table = .ok doc) :
    List.Forall₂ (fun f d => f.LocatedBy file d) (doc.check backend.rules).sorted
      ((doc.check backend.rules).diagnostics file table) := by
  rw [diagnostics, List.forall₂_map_right_iff, List.forall₂_same]
  intro f hf
  have hmem : (doc.check backend.rules).contains f = true :=
    List.contains_iff_mem.mpr (List.mem_mergeSort.mp hf)
  obtain ⟨hone, htwo⟩ := Doc.introduced_of_check hbackend hmem
  have hcount := SourceFile.count_introducedNames_le hparse f.name
  obtain ⟨hspells, hordered⟩ := SourceFile.occurrences_spell hsize table f.name
  exact f.locatedBy_diagnostic hspells hordered (Nat.le_trans hone hcount)
    fun hshared => Nat.le_trans (htwo hshared) hcount

end Places

/-- A source with findings of all kinds, among them a type that has the name of a function which is
generated for another type, and a field that has the name of a method. -/
def crowded : SourceFile :=
  { id := 3, path := "c.adt", flags := 0,
    content := "A = A(int x, int x)\nNewA<T, T, NewA> = C // T\nC = D(int String) | E" }

/-- What is found in it, and about which names. -/
def crowdedFindings : List (FindingKind × Text) :=
  [(.duplicateName, "C"), (.duplicateField, "x"), (.duplicateParam, "T"),
    (.shadowingParam, "NewA"), (.generatedClash, "NewA"), (.generatedClash, "String")]

/-- All of it is located. -/
theorem FindingSet.diagnostics_located_crowded :
    ∃ doc, crowded.parse (Backend.go []).wordTable = .ok doc ∧
      (doc.check (Backend.go []).rules).items.map (fun f => (f.kind, f.name)) = crowdedFindings ∧
      List.Forall₂ (fun f d => f.LocatedBy crowded d) (doc.check (Backend.go []).rules).sorted
        ((doc.check (Backend.go []).rules).diagnostics crowded (Backend.go []).wordTable) := by
  have hfound : (crowded.parse (Backend.go []).wordTable).toOption.map (fun doc =>
      (doc.check (Backend.go []).rules).items.map fun f => (f.kind, f.name)) =
        some crowdedFindings := by
    decide +kernel
  cases hparse : crowded.parse (Backend.go []).wordTable with
  | error e =>
    rw [hparse] at hfound
    cases hfound
  | ok doc =>
    rw [hparse] at hfound
    have hgo : Backend.find? [] "go" = some (Backend.go []) := rfl
    exact ⟨doc, rfl, Option.some.inj hfound, diagnostics_located hgo (by decide) hparse⟩

end AdtCompiler
