import AdtCompiler.Backend.JavaType

/-!
# Java types are types with boxed arguments

A Java type is written like the type in a description, after the primitives that are type arguments
have given way to the classes that box them. Where a primitive stands decides: directly between the
angle brackets of a class it is boxed, at any depth, and anywhere else it stays, also as the element
of an array that is itself a type argument.

## Contents

- `Ty.boxed`: the type with boxed arguments
- `Ty.javaText_eq_text_boxed`: the text in Java is the text of that type
- `Ty.part?`: the part of a type at the end of a path
- `Ty.part?_boxed`: what boxing does to each part
- `Ty.java_boxes_arguments`
-/

namespace AdtCompiler.Ty

/-! ## Boxing -/

/-- A type as a type argument: a primitive gives way to the class that boxes it. -/
def asArg : Ty → Ty
  | prim p => cls p.javaBox []
  | t => t

mutual

/-- The type with its primitive type arguments boxed, at every depth. -/
def boxed : Ty → Ty
  | prim p => prim p
  | cls name args => cls name (boxedArgs args)
  | array elem => array elem.boxed
  | absent => absent

/-- The type arguments of a class, boxed. -/
def boxedArgs : List Ty → List Ty
  | [] => []
  | t :: rest => t.boxed.asArg :: boxedArgs rest

end

theorem boxedArgs_eq_map (args : List Ty) : boxedArgs args = args.map fun t => t.boxed.asArg := by
  induction args with
  | nil => rfl
  | cons t rest ih => simp [boxedArgs, ih]

theorem asArg_ne_prim (t : Ty) (p : Primitive) : t.asArg ≠ prim p := by
  cases t <;> simp [asArg]

mutual

/-- Boxing leaves no part out. -/
theorem isComplete_boxed : ∀ t : Ty, t.boxed.isComplete = t.isComplete
  | prim _ => by simp [boxed, isComplete]
  | cls _ args => by simp [boxed, isComplete, allComplete_boxedArgs args]
  | array elem => by simp [boxed, isComplete, isComplete_boxed elem]
  | absent => by simp [boxed, isComplete]

theorem allComplete_boxedArgs : ∀ args : List Ty,
    allComplete (boxedArgs args) = allComplete args
  | [] => by simp [boxedArgs, allComplete]
  | t :: rest => by
    have hbox : t.boxed.asArg.isComplete = t.boxed.isComplete := by
      cases t.boxed <;> simp [asArg, isComplete, allComplete]
    simp [boxedArgs, allComplete, hbox, isComplete_boxed t, allComplete_boxedArgs rest]

end

/-! ## Texts -/

/-- In the place of an argument only a primitive is spelled in another way. -/
theorem javaArg_eq_text_asArg {t : Ty} (h : t.javaText = t.boxed.text) :
    t.javaArg = t.boxed.asArg.text := by
  cases t with
  | prim p => simp [javaArg, boxed, asArg, text]
  | cls name args => cases args <;> simpa [javaArg, javaText, boxed, asArg] using h
  | array elem => simpa [javaArg, javaText, boxed, asArg] using h
  | absent => simp [javaArg, boxed, asArg, text]

/-- Type arguments are written one after the other, as those of the boxed type are. -/
theorem javaArgs_eq_argsText {arg : Ty} {rest : List Ty}
    (h : ∀ t ∈ arg :: rest, t.javaText = t.boxed.text) :
    arg.javaArg ++ javaArgs rest = argsText (boxedArgs (arg :: rest)) := by
  have harg := javaArg_eq_text_asArg (h arg List.mem_cons_self)
  induction rest generalizing arg with
  | nil => simp [javaArgs, boxedArgs, argsText, harg]
  | cons next rest ih =>
    have hnext := h next (List.mem_cons_of_mem _ List.mem_cons_self)
    have htail := ih (fun t ht => h t (List.mem_cons_of_mem _ ht)) (javaArg_eq_text_asArg hnext)
    calc arg.javaArg ++ javaArgs (next :: rest)
        = arg.javaArg ++ ", " ++ (next.javaArg ++ javaArgs rest) := by simp [javaArgs]
      _ = arg.boxed.asArg.text ++ ", " ++ argsText (boxedArgs (next :: rest)) := by
          rw [harg, htail]
      _ = argsText (boxedArgs (arg :: next :: rest)) := by simp [boxedArgs, argsText]

mutual

/-- The text of a type in Java is the text of the type with boxed arguments. -/
theorem javaText_eq_text_boxed : ∀ t : Ty, t.javaText = t.boxed.text
  | prim p => by simp [javaText, boxed, text]
  | cls name [] => by simp [javaText, boxed, boxedArgs, text]
  | cls name (arg :: rest) => by
    have hargs := javaArgs_eq_argsText (javaText_eq_text_boxed_of_mem (arg :: rest))
    simp only [javaText, boxed, text, List.append_assoc, ← hargs]
    simp [boxedArgs]
  | array elem => by simp [javaText, boxed, text, javaText_eq_text_boxed elem]
  | absent => by simp [javaText, boxed, text]

theorem javaText_eq_text_boxed_of_mem : ∀ ts : List Ty, ∀ t ∈ ts, t.javaText = t.boxed.text
  | [] => by simp
  | t :: rest =>
    List.forall_mem_cons.mpr ⟨javaText_eq_text_boxed t, javaText_eq_text_boxed_of_mem rest⟩

end

/-! ## Parts -/

/-- A step into a type: to a type argument, counted from zero, or to the elements of an array. -/
inductive Step where
  | arg (index : Nat)
  | elem

/-- The part of a type at the end of a path. -/
def part? : List Step → Ty → Option Ty
  | [], t => some t
  | .arg index :: path, cls _ args => args[index]?.bind (part? path)
  | .elem :: path, array elem => part? path elem
  | _ :: _, _ => none

/-- Whether a path ends at a type argument. -/
def endsAtArg (path : List Step) : Bool :=
  match path.getLast? with
  | some (.arg _) => true
  | _ => false

/-- A box has no parts but itself, just like the primitive in it. -/
theorem part?_asArg (step : Step) (path : List Step) (t : Ty) :
    part? (step :: path) t.asArg = part? (step :: path) t := by
  cases t with
  | prim p => cases step <;> simp [asArg, part?]
  | _ => rfl

/-- At the end of every path, the boxed type has the boxed part, as a type argument where the path
ends at one. -/
theorem part?_boxed (path : List Step) (t : Ty) :
    part? path t.boxed =
      (part? path t).map fun u => if endsAtArg path then u.boxed.asArg else u.boxed := by
  induction path generalizing t with
  | nil => rfl
  | cons step path ih =>
    cases step with
    | arg index =>
      cases t with
      | cls name args =>
        simp only [boxed, part?, boxedArgs_eq_map, List.getElem?_map]
        cases args[index]? with
        | none => rfl
        | some arg =>
          -- the path ends at this argument, or goes on inside of it
          cases path with
          | nil => rfl
          | cons next path => exact (part?_asArg next path arg.boxed).trans (ih arg)
      | _ => rfl
    | elem =>
      cases t with
      | array elem =>
        cases path with
        | nil => rfl
        | cons next path => exact ih elem
      | _ => rfl

/-- The outermost node of a type, without the parts. -/
def root : Ty → Ty
  | prim p => prim p
  | cls name args => cls name (args.map fun _ => absent)
  | array _ => array absent
  | absent => absent

theorem root_boxed (t : Ty) : t.boxed.root = t.root := by
  cases t with
  | cls name args => simp only [boxed, root, boxedArgs_eq_map, List.map_map, Function.comp_def]
  | _ => rfl

theorem root_asArg_boxed (t : Ty) : t.boxed.asArg.root = t.asArg.root := by
  cases t with
  | prim p => rfl
  | cls name args => exact root_boxed (cls name args)
  | array elem => rfl
  | absent => rfl

/-- **Java boxes the primitives that are type arguments, and nothing else.** The text of a type in
Java is the text of the type with boxed arguments. That type has the same nodes at the ends of the
same paths, but for the primitives at the ends of paths to type arguments, which are classes there,
the ones that box them. So no primitive of it is a type argument, and it lacks a part only where the
type does. -/
theorem java_boxes_arguments (t : Ty) :
    t.javaText = t.boxed.text ∧
    (∀ path, (part? path t.boxed).map root =
      (part? path t).map fun u => if endsAtArg path then u.asArg.root else u.root) ∧
    (∀ path p, part? path t.boxed = some (prim p) → endsAtArg path = false) ∧
    t.boxed.isComplete = t.isComplete := by
  refine ⟨javaText_eq_text_boxed t, fun path => ?_, fun path p h => ?_, isComplete_boxed t⟩
  · rw [part?_boxed, Option.map_map]
    congr 1
    funext u
    cases hpath : endsAtArg path with
    | true => exact root_asArg_boxed u
    | false => exact root_boxed u
  · rw [part?_boxed, Option.map_eq_some_iff] at h
    obtain ⟨u, -, hu⟩ := h
    cases hpath : endsAtArg path with
    | false => rfl
    | true =>
      rw [if_pos hpath] at hu
      exact absurd hu (asArg_ne_prim u.boxed p)

/-- Arrays and type arguments inside of one another. -/
def nested : Ty := array (cls "Map" [prim .int, cls "List" [array (prim .long), prim .char]])

/-- Boxing goes on inside of type arguments, and leaves the elements of arrays alone. -/
example : nested.javaText = "Map<Integer, List<long[], Character>>[]" := by decide +kernel

/-- The primitive that is left is the element of an array. -/
theorem java_boxes_arguments_nested :
    nested.javaText = nested.boxed.text ∧
    part? [.elem, .arg 1, .arg 0, .elem] nested.boxed = some (prim .long) ∧
    endsAtArg [.elem, .arg 1, .arg 0, .elem] = false := by
  obtain ⟨htext, -, hprim, -⟩ := java_boxes_arguments nested
  have hpart : part? [.elem, .arg 1, .arg 0, .elem] nested.boxed = some (prim .long) := rfl
  exact ⟨htext, hpart, hprim _ _ hpart⟩

end AdtCompiler.Ty
