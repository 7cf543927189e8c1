import AdtCompiler.Format.Toml.Statement

/-!
# The meaning of settings

Statements build a tree of tables, one after another. A key may be given once; a table that was
only implied by longer keys may still be given, and an array may be replaced. All keys are kept
in the order of the file, so that keys without a meaning can be reported.
-/

namespace AdtCompiler.Format.Toml

/-- A value. The members of a table keep their order. -/
inductive Value where
  | string (value : Text)
  | boolean (value : Bool)
  | integer (value : Int)
  | fraction (numeral : Text)
  | moment (spelling : Text)
  | array (items : List Value)
  | table (members : List (Text × Value))
  /-- A list of tables that is built member by member. -/
  | tables (members : List (List (Text × Value)))
deriving Inhabited

/-- A table: its members. -/
abbrev Table := List (Text × Value)

/-- The member has the value, at its old place if it was there. -/
def Table.put (t : Table) (name : Text) (value : Value) : Table :=
  if (t.lookup name).isSome then t.map fun m => if m.1 = name then (name, value) else m
  else t ++ [(name, value)]

/-- Changes the table at a path. In a list of tables the last one is meant. Anything else on the
path is an error. -/
def Table.changeAt? (t : Table) (change : Table → Option Table) : Key → Option Table
  | [] => change t
  | name :: path =>
    match t.lookup name with
    | some (.table inner) => do
      return t.put name (.table (← Table.changeAt? inner change path))
    | some (.tables members) => do
      let last ← members.getLast?
      return t.put name (.tables (members.dropLast ++ [← Table.changeAt? last change path]))
    | _ => none

/-- The value of a member of the table at a path. -/
def Table.find? (t : Table) : Key → Option Value
  | [] => none
  | [name] => t.lookup name
  | name :: path =>
    match t.lookup name with
    | some (.table inner) => Table.find? inner path
    | some (.tables members) => members.getLast?.bind fun last => Table.find? last path
    | _ => none

/-- A tree of settings under construction. -/
structure Builder where
  root : Table := []
  /-- The keys that were given, in order. -/
  keys : List Key := []
  /-- The keys whose latest value is an array. -/
  arrays : List Key := []
  /-- The tables that were only implied. -/
  implied : List Key := []
deriving Inhabited

namespace Builder

/-- Marks a table as implied. -/
def imply (b : Builder) (key : Key) : Builder := { b with implied := key :: b.implied }

/-- Marks a table as given. -/
def unimply (b : Builder) (key : Key) : Builder :=
  { b with implied := b.implied.filter (· != key) }

/-- Notes whether the value of a member is an array. A member without a name counts as its
table. -/
def note (b : Builder) (context : Key) (name : Text) (isArray : Bool) : Builder :=
  let key := if name.isEmpty then context else context ++ [name]
  let key := if key.isEmpty then [[]] else key
  let others := b.arrays.filter (· != key)
  { b with arrays := if isArray then key :: others else others }

/-- Gives a member of the table at `context` a value. -/
def put? (b : Builder) (context : Key) (name : Text) (value : Value) : Option Builder := do
  let key := context ++ [name]
  let replace : Option Builder := do
    return { b with root := ← b.root.changeAt? (fun t => some (t.put name value)) context }
  -- The path has to lead to a table even if nothing changes.
  let _ ← b.root.changeAt? some context
  if (b.root.find? key).isNone then replace
  else if b.arrays.contains key then (← replace).unimply key
  else if b.implied.contains key then b.unimply key
  else none

/-- Makes sure that the tables above the last part of a key are there; those that are not are
implied. -/
def openAbove? (b : Builder) (context : Key) : Key → Option Builder
  | [] => some b
  | [_] => some b
  | name :: path => do
    let key := context ++ [name]
    match b.root.find? key with
    | some (.table _) | some (.tables _) => b.openAbove? key path
    | some _ => none
    | none =>
      let root ← b.root.changeAt? (fun t => some (t.put name (.table []))) context
      { b.imply key with root }.openAbove? key path

/-- Opens the table of a key. -/
def openTable? (b : Builder) (key : Key) : Option Builder := do
  let b ← b.openAbove? [] key
  b.put? key.dropLast (key.getLast?.getD []) (.table [])

/-- Opens another member of the list of tables of a key. -/
def openNext? (b : Builder) (key : Key) : Option Builder := do
  let b ← b.openAbove? [] key
  let name := key.getLast?.getD []
  let members ←
    match b.root.find? key with
    | none => some []
    | some (.tables members) => some members
    | some _ => none
  let root ← b.root.changeAt? (fun t => some (t.put name (.tables (members ++ [[]])))) key.dropLast
  return { b with root }

/-- Opens the tables that a key with dots implies. -/
def openImplied? (b : Builder) (context : Key) : Key → Option Builder
  | [] => some b
  | [_] => some b
  | name :: path => do
    let key := context ++ [name]
    (← (b.imply key).openTable? key).openImplied? key path

/-! ## Values -/

mutual

/-- The value of an expression that belongs to a member of the table at `context`. -/
def value? (b : Builder) (context : Key) (name : Text) (inArray : Bool) :
    Expr → Option (Builder × Value)
  | .string t => some (b, .string t)
  | .boolean v => some (b, .boolean v)
  | .integer n => some (b, .integer n)
  | .fraction t => some (b, .fraction t)
  | .moment t => some (b, .moment t)
  | .array items => do
    let (b, values) ← items? (b.note context name true) context name items
    return (b, .array values)
  | .inline members => do
    let key := context ++ [name]
    let b := b.imply key
    let b ← if inArray then b.openNext? key else b.openTable? key
    let (b, table) ← members? b key [] members
    return (b, .table table)

/-- The values of the items of an array. -/
def items? (b : Builder) (context : Key) (name : Text) : List Expr → Option (Builder × List Value)
  | [] => some (b, [])
  | item :: rest => do
    let (b, value) ← value? b context name true item
    let (b, values) ← items? b context name rest
    return (b, value :: values)

/-- Gives the members of a table in braces, on top of those before, their values. -/
def members? (b : Builder) (context : Key) (table : Table) :
    List (Key × Expr) → Option (Builder × Table)
  | [] => some (b, table)
  | (key, e) :: rest => do
    let name := key.getLast?.getD []
    let inner := context ++ key.dropLast
    let b ← b.openImplied? context key
    let (b, value) ← value? { b with keys := b.keys ++ [inner ++ [name]] } inner name false e
    let b ← b.put? inner name value
    let b := b.note inner name (match value with | .array _ => true | _ => false)
    members? b context (table.put name value) rest

end

/-- Gives a key its value. -/
def assign? (b : Builder) (context key : Key) (e : Expr) : Option Builder := do
  let (b, _) ← members? b context [] [(key, e)]
  return b

/-- What a statement adds to the tree; `context` is the table that the line belongs to. -/
def statement? (b : Builder) (context : Key) : Statement → Option (Builder × Key)
  | .table key => do
    let b ← b.openTable? key
    return ({ b.note key [] false with keys := b.keys ++ [key] }, key)
  | .nextOf key => do
    let b ← b.openNext? key
    return ({ b.note key [] false with keys := b.keys ++ [key] }, key)
  | .assign key e => do return (← b.assign? context key e, context)

/-- What statements add to the tree. -/
def statements? (b : Builder) (context : Key) : List Statement → Option Builder
  | [] => some b
  | s :: rest => do
    let (b, context) ← b.statement? context s
    b.statements? context rest

end Builder

/-- A file of settings: its tables, and all keys in order. -/
structure Document where
  root : Table
  keys : List Key
deriving Inhabited

/-- Reads a file of settings. -/
def read? (t : Text) : Option Document := do
  let b ← Builder.statements? {} [] (← Toml.statements? t)
  return ⟨b.root, b.keys⟩

end AdtCompiler.Format.Toml
