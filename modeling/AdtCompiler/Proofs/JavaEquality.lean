import AdtCompiler.Proofs.JavaMethod

/-!
# Equality and hash codes agree

Equal objects must have equal hash codes. The comparison of a field and its hash are chosen by its
type, each on its own, so that the two choices have to fit together: where the comparison of two
fields finds no difference, their hashes are the same number. This holds of every type as long as it
holds of the library's own methods, and the hash code is a function of these numbers.

Both methods read fields through an object. An argument may therefore be named like a local of
theirs.

## Contents

- `Runtime.Lawful`, `Runtime.HasInstance`: what is asked of the library and of objects
- `Runtime.agree`, `Runtime.mix`: what the comparison and the hash of a field compute
- `call_equalsOf`, `call_hashCodeOf`: what the methods return
- `equal_objects_hash_alike`: equal objects have equal hash codes
-/

namespace AdtCompiler.Java

variable {r : Runtime} {self other : Ref} {locals : Locals} {c : Constructor}

/-! ## Libraries and instances -/

namespace Runtime

/-- The hash of a field that holds an object or none. -/
def hashOrZero (r : Runtime) (x : Option Ref) : BitVec 32 := (x.map r.hashCode).getD 0

/-- The contracts of the library: what is equal has the same hash. The first one covers `null` as
well: an object that says it equals `null` must have hash zero. The library's own contract, by which
no object equals `null`, asks for more. -/
structure Lawful (r : Runtime) : Prop where
  equals : ∀ x y, r.equals x y = true → r.hashCode x = r.hashOrZero y
  arraysEqual : ∀ x y, r.arraysEqual x y = true → r.arraysHash x = r.arraysHash y
  deepEqual : ∀ x y, r.deepEqual x y = true → r.deepHash x = r.deepHash y

/-- An object of the class of a constructor: it has a value of the right type for each argument. -/
structure HasInstance (r : Runtime) (c : Constructor) (x : Ref) : Prop where
  isClass : r.isClass (r.classOf x) c.name = true
  fields : ∀ a ∈ c.args, (r.field x a.name).any (Value.isOf a.type) = true

/-- The value of the field for an argument. -/
def valueOf (r : Runtime) (x : Ref) (a : Arg) : Value := (r.field x a.name).getD (.ref none)

/-- Whether two fields are equal, as the form of their comparison has it. -/
def agree (r : Runtime) : EqualForm → Value → Value → Bool
  | .value, v, v' => (r.same v v').getD false
  | .doubleBits, .double x, .double y => r.doubleBits x == r.doubleBits y
  | .floatBits, .float x, .float y => r.floatBits x == r.floatBits y
  | .array deep, .ref x, .ref y => if deep then r.deepEqual x y else r.arraysEqual x y
  | .object, .ref (some x), .ref y => r.equals x y
  | .object, .ref none, .ref y => y.isNone
  | _, _, _ => false

/-- The two halves of a long over each other. -/
def halves (n : BitVec 64) : BitVec 32 := (n ^^^ n >>> 32).setWidth 32

/-- The hash of a field, as the form of the hash has it. -/
def mix (r : Runtime) : HashForm → Value → BitVec 32
  | .value, v => v.toInt?.getD 0
  | .truth, .boolean b => if b then 1231 else 1237
  | .long, .long n => halves n
  | .doubleBits, .double x => halves (r.doubleBits x)
  | .floatBits, .float x => r.floatBits x
  | .array deep, .ref x => if deep then r.deepHash x else r.arraysHash x
  | .object, .ref x => r.hashOrZero x
  | _, _ => 0

end Runtime

/-! ## One field -/

/-- Two values of one type. -/
inductive OfOneType : Ty → Value → Value → Prop where
  | boolean (a b : Bool) : OfOneType (.prim .boolean) (.boolean a) (.boolean b)
  | byte (a b : BitVec 8) : OfOneType (.prim .byte) (.byte a) (.byte b)
  | char (a b : BitVec 16) : OfOneType (.prim .char) (.char a) (.char b)
  | short (a b : BitVec 16) : OfOneType (.prim .short) (.short a) (.short b)
  | int (a b : BitVec 32) : OfOneType (.prim .int) (.int a) (.int b)
  | long (a b : BitVec 64) : OfOneType (.prim .long) (.long a) (.long b)
  | float (a b : BitVec 32) : OfOneType (.prim .float) (.float a) (.float b)
  | double (a b : BitVec 64) : OfOneType (.prim .double) (.double a) (.double b)
  | object (name : Text) (args : List Ty) (a b : Option Ref) :
      OfOneType (.cls name args) (.ref a) (.ref b)
  | array (elem : Ty) (a b : Option Ref) : OfOneType (.array elem) (.ref a) (.ref b)

section Field

variable {t : Ty} {v v' : Value} {read read' : Expr}

theorem ofOneType (hv : v.isOf t = true) (hv' : v'.isOf t = true) : OfOneType t v v' := by
  fun_cases Value.isOf t v <;> cases v' <;> simp [Value.isOf] at hv hv' <;> constructor

/-- The hash of a field is a number, the one that its form gives. -/
theorem eval_hashForm (h : OfOneType t v v') (hread : read.eval r self locals = some v) :
    ∃ x, ((hashForm t).expr read).eval r self locals = some x ∧
      x.toInt? = some (r.mix (hashForm t) v) := by
  cases h with
  | boolean a _ =>
    refine ⟨.int (if a then 1231 else 1237), ?_, rfl⟩
    cases a <;> simp [hashForm, HashForm.expr, hread]
  | byte | char | short | int => exact ⟨_, hread, rfl⟩
  | long a _ =>
    refine ⟨.int (Runtime.halves a), ?_, rfl⟩
    simp [hashForm, HashForm.expr, hread, Runtime.halves]
  | float a _ => exact ⟨.int (r.floatBits a), by simp [hashForm, HashForm.expr, hread], rfl⟩
  | double a _ =>
    refine ⟨.int (Runtime.halves (r.doubleBits a)), ?_, rfl⟩
    simp [hashForm, HashForm.expr, hread, Runtime.halves]
  | object name args a _ =>
    refine ⟨.int (r.hashOrZero a), ?_, rfl⟩
    cases a <;> simp [hashForm, HashForm.expr, hread, Runtime.hashOrZero]
  | array elem a _ =>
    refine ⟨.int (if isDeep elem then r.deepHash a else r.arraysHash a), ?_, rfl⟩
    simp [hashForm, HashForm.expr, hread]

/-- A statement that leaves with `false` where a condition does not hold. -/
theorem exec_leave {condition : Expr} {holds : Bool}
    (h : condition.eval r self locals = some (.boolean !holds)) :
    (Stmt.giveBackIf condition (.truth false)).exec r self locals =
      some (if holds then .next locals else .returned (.boolean false)) := by
  cases holds <;> simp [h]

/-- The comparison of two fields goes on if they agree, and else it ends with `false`. -/
theorem exec_equalForm (h : OfOneType t v v') (hread : read.eval r self locals = some v)
    (hread' : read'.eval r self locals = some v') :
    ((equalForm t).stmt read read').exec r self locals =
      some (if r.agree (equalForm t) v v' then .next locals else .returned (.boolean false)) := by
  cases h with
  | object name args a b =>
    cases a with
    | none =>
      -- only the other field can hold an object then
      have hbranch : ((equalForm (.cls name args)).stmt read read').exec r self locals =
          (Stmt.giveBackIf (.binary .differ read' .null) (.truth false)).exec r self locals := by
        simp [equalForm, EqualForm.stmt, hread]
      rw [hbranch]
      exact exec_leave (by cases b <;> simp [hread', Runtime.agree, equalForm])
    | some x =>
      have hbranch : ((equalForm (.cls name args)).stmt read read').exec r self locals =
          (Stmt.giveBackIf (.negation (.equals read read')) (.truth false)).exec r self locals := by
        simp [equalForm, EqualForm.stmt, hread]
      rw [hbranch]
      exact exec_leave (by simp [hread, hread', Runtime.agree, equalForm])
  | _ =>
    apply exec_leave
    simp [hread, hread', Runtime.agree, equalForm, Runtime.same, Value.toInt?]

/-- Where the comparison of two fields finds no difference, their hashes are the same. The bits of
floating-point numbers and the comparisons of arrays are those of the library: `Double`, `Float` and
`java` are taken for its names also in a class with a field of such a name, which would obscure
them. -/
theorem mix_eq_of_agree (hr : r.Lawful) (h : OfOneType t v v')
    (hagree : r.agree (equalForm t) v v' = true) :
    r.mix (hashForm t) v = r.mix (hashForm t) v' := by
  cases h with
  | object name args a b =>
    -- `null` has no method to ask; an object is asked about `null` too, which the law covers
    cases a with
    | none =>
      obtain rfl : b = none := by simpa [equalForm, Runtime.agree] using hagree
      rfl
    | some x => exact hr.equals x b hagree
  | array elem a b =>
    cases hdeep : isDeep elem with
    | true =>
      have hequal : r.deepEqual a b = true := by
        simpa [equalForm, Runtime.agree, hdeep] using hagree
      simpa [hashForm, Runtime.mix, hdeep] using hr.deepEqual a b hequal
    | false =>
      have hequal : r.arraysEqual a b = true := by
        simpa [equalForm, Runtime.agree, hdeep] using hagree
      simpa [hashForm, Runtime.mix, hdeep] using hr.arraysEqual a b hequal
  | _ =>
    simp only [equalForm, Runtime.agree, Runtime.same, Value.toInt?, Value.toLong?] at hagree
    simp_all [hashForm, Runtime.mix, Value.toInt?]

end Field

/-! ## Whole methods -/

/-- Whether all fields of two objects agree. -/
def Runtime.allAgree (r : Runtime) (args : List Arg) (x y : Ref) : Bool :=
  args.all fun a => r.agree (equalForm a.type) (r.valueOf x a) (r.valueOf y a)

/-- The hash code behind that of the arguments before. -/
def Runtime.hashFrom (r : Runtime) (x : Ref) (args : List Arg) (hash : BitVec 32) : BitVec 32 :=
  args.foldl (fun hash a => 31 * hash + r.mix (hashForm a.type) (r.valueOf x a)) hash

section Run

variable {x y : Ref} {args : List Arg}

theorem Runtime.HasInstance.field_eq (h : r.HasInstance c x) {a : Arg} (ha : a ∈ c.args) :
    r.field x a.name = some (r.valueOf x a) := by
  obtain ⟨v, hv, -⟩ := (Option.any_eq_true _ _).mp (h.fields a ha)
  simp [Runtime.valueOf, hv]

theorem Runtime.HasInstance.isOf (h : r.HasInstance c x) {a : Arg} (ha : a ∈ c.args) :
    (r.valueOf x a).isOf a.type = true := by
  simpa [h.field_eq ha] using h.fields a ha

/-- The steps of an equality find out whether all fields agree. -/
theorem execAll_comparisons (hx : r.HasInstance c x) (hy : r.HasInstance c y)
    (hargs : args ⊆ c.args) (hother : locals.lookup ("other" : Text) = some (.ref (some y))) :
    execAll r x (args.map comparison ++ [.giveBack (.truth true)]) locals =
      some (.boolean (r.allAgree args x y)) := by
  induction args with
  | nil => rfl
  | cons a args ih =>
    obtain ⟨ha, hargs⟩ := List.cons_subset.mp hargs
    have hstep : (comparison a).exec r x locals =
        some (if r.agree (equalForm a.type) (r.valueOf x a) (r.valueOf y a) then .next locals
          else .returned (.boolean false)) := by
      apply exec_equalForm (ofOneType (hx.isOf ha) (hy.isOf ha))
      · simp [hx.field_eq ha]
      · simp [hother, hy.field_eq ha]
    rw [List.map_cons, List.cons_append, execAll, hstep, Runtime.allAgree, List.all_cons]
    cases r.agree (equalForm a.type) (r.valueOf x a) (r.valueOf y a) with
    | true => exact ih hargs
    | false => rfl

/-- The steps of a hash code mix the hash of every field into the number before. -/
theorem execAll_mixings (hx : r.HasInstance c x) (hargs : args ⊆ c.args) {hash : BitVec 32}
    (hprime : locals.lookup ("prime" : Text) = some (.int 31))
    (hresult : locals.lookup ("result" : Text) = some (.int hash)) :
    execAll r x (args.map mixing ++ [.giveBack (.name "result")]) locals =
      some (.int (r.hashFrom x args hash)) := by
  induction args generalizing locals hash with
  | nil => simp [hresult, Runtime.hashFrom]
  | cons a args ih =>
    obtain ⟨ha, hargs⟩ := List.cons_subset.mp hargs
    have hread : (Expr.field .this a.name).eval r x locals = some (r.valueOf x a) := by
      simp [hx.field_eq ha]
    obtain ⟨v, hv, hmix⟩ := eval_hashForm (ofOneType (hx.isOf ha) (hx.isOf ha)) hread
    have hstep : (mixing a).exec r x locals = some (.next
        (("result", .int (31 * hash + r.mix (hashForm a.type) (r.valueOf x a))) :: locals)) := by
      simp [mixing, hprime, hresult, hv, hmix, Runtime.operate, Value.arithmetic]
    rw [List.map_cons, List.cons_append, execAll, hstep]
    -- the number is set anew, and the factor stays
    exact ih hargs (by rw [← hprime]; rfl) rfl

/-- What the method for hash codes returns. -/
theorem call_hashCodeOf (hx : r.HasInstance c x) :
    (hashCodeOf c).call r x [] =
      some (.int (if c.args.isEmpty then 0 else r.hashFrom x c.args 1)) := by
  cases hargs : c.args.isEmpty with
  | true => simp [Method.call, hashCodeOf, hargs]
  | false =>
    simp only [Method.call, hashCodeOf, hargs, Bool.false_eq_true, if_false]
    exact execAll_mixings hx (List.Subset.refl _) rfl rfl

/-- A return under a condition. -/
theorem execAll_giveBackIf {condition : Expr} {b : Bool} (value : Bool) (rest : List Stmt)
    (h : condition.eval r x locals = some (.boolean b)) :
    execAll r x (.giveBackIf condition (.truth value) :: rest) locals =
      if b then some (.boolean value) else execAll r x rest locals := by
  cases b <;> simp [h]

/-- The other object is declared with its class, which it has. -/
theorem execAll_otherObject (params : List Text) (rest : List Stmt) (hy : r.HasInstance c y)
    (hobj : locals.lookup ("obj" : Text) = some (.ref (some y))) :
    execAll r x (otherObject c.name params ++ rest) locals =
      execAll r x rest (("other", .ref (some y)) :: locals) := by
  cases hparams : params.isEmpty <;> simp [otherObject, hparams, hobj, hy.isClass]

/-- What the method for equality returns: objects are equal if they are the same, and else if they
have one class and all their fields agree. -/
theorem call_equalsOf (params : List Text) (hx : r.HasInstance c x) (hy : r.HasInstance c y) :
    (equalsOf c params).call r x [.ref (some y)] =
      some (.boolean (x == y || r.classOf x == r.classOf y && r.allAgree c.args x y)) := by
  have hobj : List.lookup ("obj" : Text) [("obj", Value.ref (some y))] = some (.ref (some y)) := rfl
  -- without arguments there is nothing to compare, and the other object is not declared
  have hrest : execAll r x ((if c.args.isEmpty then []
      else otherObject c.name params ++ c.args.map comparison) ++ [.giveBack (.truth true)])
      [("obj", .ref (some y))] = some (.boolean (r.allAgree c.args x y)) := by
    cases hargs : c.args.isEmpty with
    | true => simp [List.isEmpty_iff.mp hargs, Runtime.allAgree]
    | false =>
      rw [if_neg Bool.false_ne_true, List.append_assoc, execAll_otherObject params _ hy hobj]
      exact execAll_comparisons hx hy (List.Subset.refl _) rfl
  have hself : (Expr.binary .equal .this (.name "obj")).eval r x [("obj", .ref (some y))] =
      some (.boolean (x == y)) := by
    simp [hobj]
  have hnull : (Expr.binary .equal (.name "obj") .null).eval r x [("obj", .ref (some y))] =
      some (.boolean false) := by
    simp [hobj]
  have hclass : (Expr.binary .differ .ownClass (.classOf (.name "obj"))).eval r x
      [("obj", .ref (some y))] = some (.boolean !(r.classOf x == r.classOf y)) := by
    simp [hobj]
  simp only [Method.call, equalsOf, List.zip_cons_cons, List.zip_nil_right, List.cons_append,
    List.nil_append]
  rw [execAll_giveBackIf _ _ hself, execAll_giveBackIf _ _ hnull, execAll_giveBackIf _ _ hclass,
    hrest]
  -- what is left is the order of the three questions
  cases x == y <;> cases r.classOf x == r.classOf y <;> rfl

/-- Objects whose fields agree have the same hash code. -/
theorem hashFrom_eq_of_allAgree (hr : r.Lawful) (hx : r.HasInstance c x) (hy : r.HasInstance c y)
    (hargs : args ⊆ c.args) (h : r.allAgree args x y = true) (hash : BitVec 32) :
    r.hashFrom x args hash = r.hashFrom y args hash := by
  induction args generalizing hash with
  | nil => rfl
  | cons a args ih =>
    obtain ⟨ha, hargs⟩ := List.cons_subset.mp hargs
    rw [Runtime.allAgree, List.all_cons, Bool.and_eq_true] at h
    have hmix := mix_eq_of_agree hr (ofOneType (hx.isOf ha) (hy.isOf ha)) h.1
    simp only [Runtime.hashFrom, List.foldl_cons, hmix]
    exact ih hargs h.2 _

end Run

/-! ## What the methods read -/

theorem reads_mixing (a : Arg) : (mixing a).reads.dedup = [(.this, a.name)] := by
  cases hform : hashForm a.type <;> simp [mixing, Stmt.reads, Expr.reads, HashForm.expr, hform]

theorem reads_comparison (a : Arg) :
    (comparison a).reads.dedup = [(.this, a.name), (.name "other", a.name)] := by
  cases hform : equalForm a.type <;>
    simp [comparison, Stmt.reads, Expr.reads, EqualForm.stmt, hform]

/-- One step of a hash code for each argument, in order. -/
theorem steps_hashCodeOf (c : Constructor) :
    (hashCodeOf c).steps = c.args.map fun a => [(.this, a.name)] := by
  cases hargs : c.args.isEmpty with
  | true => simp [Method.steps, hashCodeOf, List.isEmpty_iff.mp hargs, Stmt.reads, Expr.reads]
  | false =>
    have hmixings : (c.args.map fun a => (mixing a).reads.dedup) =
        c.args.map fun a => [(Expr.this, a.name)] :=
      List.map_congr_left fun a _ => reads_mixing a
    simp [Method.steps, hashCodeOf, hargs, Stmt.reads, Expr.reads, Function.comp_def, hmixings]

/-- One step of an equality for each argument, in order. -/
theorem steps_equalsOf (c : Constructor) (params : List Text) :
    (equalsOf c params).steps = c.args.map fun a => [(.this, a.name), (.name "other", a.name)] := by
  cases hargs : c.args.isEmpty with
  | true => simp [Method.steps, equalsOf, List.isEmpty_iff.mp hargs, Stmt.reads, Expr.reads]
  | false =>
    have hcomparisons : (c.args.map fun a => (comparison a).reads.dedup) =
        c.args.map fun a => [(Expr.this, a.name), (.name "other", a.name)] :=
      List.map_congr_left fun a _ => reads_comparison a
    cases hparams : params.isEmpty <;>
      simp [Method.steps, equalsOf, otherObject, hargs, hparams, Stmt.reads, Expr.reads,
        Function.comp_def, hcomparisons]

theorem bareNames_subset {m : Method} {names : List Text}
    (h : ∀ s ∈ m.body, s.bareNames ⊆ names) : m.bareNames ⊆ names := by
  intro name hname
  obtain ⟨s, hs, hname⟩ := List.mem_flatMap.mp hname
  exact h s hs hname

/-- The names that stand alone in the method for hash codes are its locals. -/
theorem bareNames_hashCodeOf (c : Constructor) :
    (hashCodeOf c).bareNames ⊆ ["prime", "result"] := by
  have hmixing (a : Arg) : (mixing a).bareNames ⊆ ["prime", "result"] := by
    cases hform : hashForm a.type <;>
      simp [mixing, Stmt.bareNames, Expr.bareNames, HashForm.expr, hform]
  apply bareNames_subset
  cases hargs : c.args.isEmpty <;>
    simp [hashCodeOf, hargs, or_imp, forall_and, Stmt.bareNames, Expr.bareNames, hmixing]

/-- The names that stand alone in the method for equality are its parameter and its local. -/
theorem bareNames_equalsOf (c : Constructor) (params : List Text) :
    (equalsOf c params).bareNames ⊆ ["obj", "other"] := by
  have hcomparison (a : Arg) : (comparison a).bareNames ⊆ ["obj", "other"] := by
    cases hform : equalForm a.type <;>
      simp [comparison, Stmt.bareNames, Expr.bareNames, EqualForm.stmt, hform]
  apply bareNames_subset
  cases hargs : c.args.isEmpty <;> cases hparams : params.isEmpty <;>
    simp [equalsOf, otherObject, hargs, hparams, or_imp, forall_and, Stmt.bareNames,
      Expr.bareNames, hcomparison]

/-! ## Equal objects -/

/-- Read as programs, the methods for equality and hash codes return on any two objects of the class
of a constructor, and if the first returns `true` the second returns one number for both. Each of
them has one step per argument, in order, which reads the field of the argument through an object;
names that stand alone are locals. -/
theorem equal_objects_hash_alike {r : Runtime} (hr : r.Lawful) (c : Constructor)
    (params : List Text) (indent : Text) {x y : Ref} (hx : r.HasInstance c x)
    (hy : r.HasInstance c y) :
    (equalsOf c params).text indent = equalsMethod indent c params ∧
      (hashCodeOf c).text indent = hashCodeMethod indent c ∧
      (∃ equal hash hash', (equalsOf c params).call r x [.ref (some y)] = some (.boolean equal) ∧
        (hashCodeOf c).call r x [] = some (.int hash) ∧
        (hashCodeOf c).call r y [] = some (.int hash') ∧ (equal = true → hash = hash')) ∧
      (equalsOf c params).steps =
        (c.args.map fun a => [(.this, a.name), (.name "other", a.name)]) ∧
      (hashCodeOf c).steps = (c.args.map fun a => [(.this, a.name)]) ∧
      (equalsOf c params).bareNames ⊆ ["obj", "other"] ∧
      (hashCodeOf c).bareNames ⊆ ["prime", "result"] := by
  refine ⟨text_equalsOf indent c params, text_hashCodeOf indent c, ?_, steps_equalsOf c params,
    steps_hashCodeOf c, bareNames_equalsOf c params, bareNames_hashCodeOf c⟩
  refine ⟨_, _, _, call_equalsOf params hx hy, call_hashCodeOf hx, call_hashCodeOf hy, ?_⟩
  intro hequal
  rw [Bool.or_eq_true, beq_iff_eq, Bool.and_eq_true] at hequal
  rcases hequal with rfl | ⟨-, hagree⟩
  · rfl
  · rw [hashFrom_eq_of_allAgree hr hx hy (List.Subset.refl _) hagree]

/-! ## Two readings -/

namespace Readings

/-- Two fields are named like locals of the methods. -/
def reading : Constructor :=
  ⟨"Reading", [⟨.prim .double, "result"⟩, ⟨.cls "String" [], "other"⟩, ⟨.array (.prim .int), "raw"⟩,
    ⟨.array (.array (.cls "String" [])), "notes"⟩, ⟨.prim .long, "time"⟩, ⟨.prim .char, "mark"⟩]⟩

/-- The fields of a reading whose value has the bits `value` and whose objects are those behind
`base`. -/
def fields (value : BitVec 64) (base : Ref) : List (Text × Value) :=
  [("result", .double value), ("other", .ref (some base)), ("raw", .ref (some (base + 2))),
    ("notes", .ref (some (base + 4))), ("time", .long 0x1_0000_0002), ("mark", .char 109)]

def isNaN (bits : BitVec 64) : Bool :=
  bits &&& 0x7ff0_0000_0000_0000 == 0x7ff0_0000_0000_0000 && bits &&& 0x000f_ffff_ffff_ffff != 0

def isFloatNaN (bits : BitVec 32) : Bool :=
  bits &&& 0x7f80_0000 == 0x7f80_0000 && bits &&& 0x007f_ffff != 0

/-- Objects come in pairs with the same content. The first two are readings, neither of which has a
number for its value, and the values differ in their bits. -/
def runtime : Runtime where
  field x name :=
    if x = 0 then (fields 0x7ff8_0000_0000_0000 2).lookup name
    else if x = 1 then (fields 0x7ff8_0000_0000_0001 3).lookup name
    else none
  classOf x := if x < 2 then 100 else 101
  isClass k name := k == 100 && name == "Reading"
  equals x y := y.any (· / 2 == x / 2)
  hashCode x := if x / 2 = 1 then 3426 else BitVec.ofNat 32 (x / 2)
  arraysEqual x y := x.map (· / 2) == y.map (· / 2)
  arraysHash x := if x.map (· / 2) = some 2 then 994 else 0
  deepEqual x y := x.map (· / 2) == y.map (· / 2)
  deepHash x := if x.map (· / 2) = some 3 then 159 else 0
  doubleBits bits := if isNaN bits then 0x7ff8_0000_0000_0000 else bits
  floatBits bits := if isFloatNaN bits then 0x7fc0_0000 else bits
  doublesEqual a b := !isNaN a && !isNaN b && (a == b || (a ||| b) <<< 1 == 0)
  floatsEqual a b := !isFloatNaN a && !isFloatNaN b && (a == b || (a ||| b) <<< 1 == 0)

theorem lawful : runtime.Lawful where
  equals x y h := by
    cases y with
    | none => cases h
    | some y =>
      have hpair : y / 2 = x / 2 := by simpa [runtime] using h
      simp [runtime, Runtime.hashOrZero, hpair]
  arraysEqual x y h := by
    have hpair : x.map (· / 2) = y.map (· / 2) := by simpa [runtime] using h
    simp only [runtime, hpair]
  deepEqual x y h := by
    have hpair : x.map (· / 2) = y.map (· / 2) := by simpa [runtime] using h
    simp only [runtime, hpair]

theorem hasInstance_first : runtime.HasInstance reading 0 := ⟨by decide, by decide⟩

theorem hasInstance_second : runtime.HasInstance reading 1 := ⟨by decide, by decide⟩

end Readings

/-- Two readings that are equal though neither value is a number, and though `==` finds their values
to differ. -/
theorem equal_objects_hash_alike_readings :
    (equalsOf Readings.reading []).call Readings.runtime 0 [.ref (some 1)] =
        some (.boolean true) ∧
      (hashCodeOf Readings.reading).call Readings.runtime 0 [] =
        (hashCodeOf Readings.reading).call Readings.runtime 1 [] ∧
      Readings.runtime.doublesEqual 0x7ff8_0000_0000_0000 0x7ff8_0000_0000_0001 = false := by
  obtain ⟨-, -, ⟨equal, hash, hash', hcall, hfirst, hsecond, hagree⟩, -⟩ :=
    equal_objects_hash_alike Readings.lawful Readings.reading [] "" Readings.hasInstance_first
      Readings.hasInstance_second
  have htrue : (equalsOf Readings.reading []).call Readings.runtime 0 [.ref (some 1)] =
      some (.boolean true) := by
    decide +kernel
  obtain rfl : equal = true := by simpa [hcall] using htrue
  exact ⟨htrue, by rw [hfirst, hsecond, hagree rfl], by decide⟩

end AdtCompiler.Java
