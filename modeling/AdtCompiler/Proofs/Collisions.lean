import AdtCompiler.Proofs.Clash
import Mathlib.Data.List.Perm.Basic

/-!
# The check reports the collisions

The check walks through a document and remembers the names that it has seen. What it reports can be
said without the walk: a name is reported iff it is taken twice, counted over the whole document or
over the scope that it belongs to, and a type parameter is reported iff it is spelled like one of
the types around it.

## Contents

- `Doc.takenNames`: the names that share the namespace of a document
- `Doc.Collision`: what is to be reported, one constructor for each kind of finding
- `Doc.Distinct`: the documents in which nothing collides
- `Doc.check_reports_collisions`
-/

namespace AdtCompiler

/-! ## Names that are taken -/

namespace DataType

/-- The names of the constructors that become types of their own. An only constructor that is named
like the data type becomes one type with it. -/
def separateNames (d : DataType) : List Text :=
  match d.constructors with
  | [c] => if c.name = d.name then [] else [c.name]
  | cs => cs.map (·.name)

/-- The names that a data type takes. -/
def takenNames (d : DataType) : List Text := d.name :: d.separateNames

theorem declaredNames_eq (d : DataType) : d.declaredNames = d.takenNames := by
  unfold declaredNames takenNames separateNames isRecord
  match d.constructors with
  | [] => rfl
  | [c] => by_cases h : c.name = d.name <;> simp [h]
  | c :: c' :: cs => simp

/-- The constructors that are not separate are one, and it is named like the data type. -/
theorem map_name_constructors (d : DataType) :
    d.constructors.map (·.name) = d.separateNames ∨
      d.constructors.map (·.name) = [d.name] ∧ d.separateNames = [] := by
  unfold separateNames
  match d.constructors with
  | [] => exact .inl rfl
  | [c] => by_cases h : c.name = d.name <;> simp [h]
  | c :: c' :: cs => exact .inl rfl

theorem mem_separateNames {d : DataType} {n : Text} :
    n ∈ d.separateNames ↔
      ∃ c ∈ d.constructors, c.name = n ∧ ¬(d.constructors = [c] ∧ c.name = d.name) := by
  unfold separateNames
  match d.constructors with
  | [] => simp
  | [c] => by_cases h : c.name = d.name <;> simp [h, eq_comm (a := n)]
  | c :: c' :: cs => simp [eq_comm]

end DataType

/-- The names that a document takes, in the order of their declarations. -/
def Doc.takenNames (doc : Doc) : List Text := doc.types.flatMap DataType.takenNames

theorem Doc.declaredNames_eq (doc : Doc) : doc.declaredNames = doc.takenNames := by
  unfold declaredNames takenNames
  simp only [funext DataType.declaredNames_eq]

/-! ## Collisions -/

/-- The collisions in a document, as they are reported. -/
inductive Doc.Collision (doc : Doc) : Finding → Prop where
  | name (n : Text) (twice : 2 ≤ doc.takenNames.count n) :
      Collision doc ⟨.duplicateName, "", n, ""⟩
  | param {d : DataType} (hd : d ∈ doc.types) (p : Text) (twice : 2 ≤ d.params.count p) :
      Collision doc ⟨.duplicateParam, d.name, p, ""⟩
  | shadow {d : DataType} (hd : d ∈ doc.types) {p : Text} (hp : p ∈ d.params)
      (hides : p = d.name ∨ ∃ c ∈ d.constructors, p = c.name) :
      Collision doc ⟨.shadowingParam, d.name, p, ""⟩
  | field {d : DataType} (hd : d ∈ doc.types) {c : Constructor} (hc : c ∈ d.constructors)
      (f : Text) (twice : 2 ≤ (c.args.map (·.name)).count f) :
      Collision doc ⟨.duplicateField, c.name, f, ""⟩

theorem Constructor.mem_fieldFindings {c : Constructor} {f : Finding} :
    f ∈ c.fieldFindings ↔
      ∃ n, 2 ≤ (c.args.map (·.name)).count n ∧ ⟨.duplicateField, c.name, n, ""⟩ = f := by
  simp only [fieldFindings, fieldNames, List.mem_map, Check.mem_repeats]

theorem DataType.mem_paramFindings {d : DataType} {f : Finding} :
    f ∈ d.paramFindings ↔
      (∃ p, 2 ≤ d.params.count p ∧ ⟨.duplicateParam, d.name, p, ""⟩ = f) ∨
      ∃ p, (p ∈ d.params ∧ (p = d.name ∨ ∃ c ∈ d.constructors, p = c.name)) ∧
        ⟨.shadowingParam, d.name, p, ""⟩ = f := by
  simp only [paramFindings, List.mem_append, List.mem_map, List.mem_filter, Check.mem_repeats,
    isHiddenBy_iff]

/-- What the shared rules find are the collisions. -/
theorem Doc.mem_coreFindings {doc : Doc} {f : Finding} :
    f ∈ doc.coreFindings ↔ doc.Collision f := by
  simp only [coreFindings, List.mem_append, List.mem_map, List.mem_flatMap, Check.mem_repeats,
    declaredNames_eq, DataType.mem_paramFindings, Constructor.mem_fieldFindings]
  constructor
  · rintro (⟨n, twice, rfl⟩ | ⟨d, hd, (⟨p, twice, rfl⟩ | ⟨p, ⟨hp, hides⟩, rfl⟩) |
      ⟨c, hc, n, twice, rfl⟩⟩)
    · exact .name n twice
    · exact .param hd p twice
    · exact .shadow hd hp hides
    · exact .field hd hc n twice
  · intro h
    cases h with
    | name n twice => exact .inl ⟨n, twice, rfl⟩
    | param hd p twice => exact .inr ⟨_, hd, .inl (.inl ⟨p, twice, rfl⟩)⟩
    | shadow hd hp hides => exact .inr ⟨_, hd, .inl (.inr ⟨_, ⟨hp, hides⟩, rfl⟩)⟩
    | field hd hc f twice => exact .inr ⟨_, hd, .inr ⟨_, hc, f, twice, rfl⟩⟩

/-! ## Documents without collisions -/

/-- All names of types in a document are different, but for a constructor that is the only one of
its data type and named like it. Names are also different where they are local, and none of them
hides a type. -/
structure Doc.Distinct (doc : Doc) : Prop where
  types : (doc.types.map (·.name)).Nodup
  constructors : (doc.types.flatMap fun d => d.constructors.map (·.name)).Nodup
  exception : ∀ d ∈ doc.types, ∀ c ∈ d.constructors, ∀ e ∈ doc.types, c.name = e.name →
    d.constructors = [c] ∧ c.name = d.name
  params : ∀ d ∈ doc.types, d.params.Nodup
  fields : ∀ d ∈ doc.types, ∀ c ∈ d.constructors, (c.args.map (·.name)).Nodup
  visible : ∀ d ∈ doc.types, ∀ p ∈ d.params, p ≠ d.name ∧ ∀ c ∈ d.constructors, p ≠ c.name

namespace Doc

/-- The names of a document are those of its data types and those of separate constructors. -/
theorem takenNames_perm (doc : Doc) :
    (doc.types.map (·.name) ++ doc.types.flatMap DataType.separateNames).Perm doc.takenNames := by
  exact List.map_append_flatMap_perm doc.types (·.name) DataType.separateNames

theorem nodup_takenNames_iff {doc : Doc} :
    doc.takenNames.Nodup ↔
      (doc.types.map (·.name)).Nodup ∧ (doc.types.flatMap DataType.separateNames).Nodup ∧
      ∀ d ∈ doc.types, ∀ n ∈ d.separateNames, ∀ e ∈ doc.types, n ≠ e.name := by
  rw [← doc.takenNames_perm.nodup_iff, List.nodup_append]
  refine and_congr_right fun _ => and_congr_right fun _ => ?_
  constructor
  · intro h d hd n hn e he heq
    exact h e.name (List.mem_map_of_mem he) n (List.mem_flatMap.mpr ⟨d, hd, hn⟩) heq.symm
  · intro h m hm n hn heq
    obtain ⟨e, he, rfl⟩ := List.mem_map.mp hm
    obtain ⟨d, hd, hn⟩ := List.mem_flatMap.mp hn
    exact h d hd n hn e he heq.symm

/-- If no name is taken twice, no two constructors of the document share a name, whether they are
separate or not. -/
theorem nodup_constructors {doc : Doc} (h : doc.takenNames.Nodup) :
    (doc.types.flatMap fun d => d.constructors.map (·.name)).Nodup := by
  obtain ⟨htypes, hseparate, hapart⟩ := nodup_takenNames_iff.mp h
  rw [List.Nodup, List.pairwise_map] at htypes
  rw [List.nodup_flatMap] at hseparate ⊢
  constructor
  · intro d hd
    rcases d.map_name_constructors with heq | ⟨heq, -⟩
    · exact heq ▸ hseparate.1 d hd
    · exact heq ▸ List.nodup_singleton d.name
  · refine (htypes.and hseparate.2).imp_of_mem fun {d e} hd he ⟨hne, hdisjoint⟩ => ?_
    -- A constructor that is not separate has the name of its data type, which is taken already.
    show List.Disjoint (d.constructors.map (·.name)) (e.constructors.map (·.name))
    rcases d.map_name_constructors with hd' | ⟨hd', -⟩ <;>
      rcases e.map_name_constructors with he' | ⟨he', -⟩ <;> rw [hd', he']
    · exact hdisjoint
    · exact List.disjoint_singleton.mpr fun hmem => hapart d hd e.name hmem e he rfl
    · exact List.singleton_disjoint.mpr fun hmem => hapart e he d.name hmem d hd rfl
    · simpa using hne.symm

/-- No name is taken twice iff the names of data types and of constructors are different, but for
constructors that are not separate. -/
theorem nodup_takenNames_iff_distinct {doc : Doc} :
    doc.takenNames.Nodup ↔
      (doc.types.map (·.name)).Nodup ∧
      (doc.types.flatMap fun d => d.constructors.map (·.name)).Nodup ∧
      ∀ d ∈ doc.types, ∀ c ∈ d.constructors, ∀ e ∈ doc.types, c.name = e.name →
        d.constructors = [c] ∧ c.name = d.name := by
  constructor
  · intro h
    obtain ⟨htypes, -, hapart⟩ := nodup_takenNames_iff.mp h
    refine ⟨htypes, nodup_constructors h, fun d hd c hc e he heq => ?_⟩
    by_contra hseparate
    exact hapart d hd c.name (DataType.mem_separateNames.mpr ⟨c, hc, rfl, hseparate⟩) e he heq
  · rintro ⟨htypes, hconstructors, hexception⟩
    refine nodup_takenNames_iff.mpr ⟨htypes, hconstructors.sublist ?_, fun d hd n hn e he heq => ?_⟩
    · refine List.Sublist.flatMap_right doc.types fun d _ => ?_
      rcases d.map_name_constructors with heq | ⟨-, heq⟩ <;> simp [heq]
    · obtain ⟨c, hc, rfl, hseparate⟩ := DataType.mem_separateNames.mp hn
      exact hseparate (hexception d hd c hc e he heq)

theorem namesApart_iff_distinct {doc : Doc} : doc.NamesApart ↔ doc.Distinct := by
  constructor
  · intro h
    obtain ⟨htypes, hconstructors, hexception⟩ :=
      nodup_takenNames_iff_distinct.mp (declaredNames_eq doc ▸ h.declared)
    refine ⟨htypes, hconstructors, hexception, h.params, h.fields, fun d hd p hp => ⟨?_, ?_⟩⟩
    · exact fun heq => h.notOwn d hd (heq ▸ hp)
    · exact fun c hc heq => h.notConstructor d hd c hc (heq ▸ hp)
  · intro h
    refine ⟨?_, h.params, fun d hd hp => (h.visible d hd _ hp).1 rfl,
      fun d hd c hc hp => (h.visible d hd _ hp).2 c hc rfl, h.fields⟩
    rw [declaredNames_eq]
    exact nodup_takenNames_iff_distinct.mpr ⟨h.types, h.constructors, h.exception⟩

/-- Without rules of a back end the check reports the collisions and nothing else, so a document
passes iff its names are distinct. -/
theorem check_reports_collisions (doc : Doc) :
    (∀ f, (doc.check []).contains f = true ↔ doc.Collision f) ∧
      ((doc.check []).isEmpty = true ↔ doc.Distinct) := by
  constructor
  · intro f
    rw [FindingSet.contains, List.contains_iff_mem, check, FindingSet.mem_ofList,
      List.flatMap_nil, List.append_nil]
    exact mem_coreFindings
  · rw [check_isEmpty_iff, namesApart_iff_distinct]
    simp

end Doc

end AdtCompiler
