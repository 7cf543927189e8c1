import AdtCompiler.Syntax.Ty

/-!
# Documents

A document describes data types: each has constructors, and each constructor has arguments. A
data type with one constructor is a record, and one with several is a variant type.
-/

namespace AdtCompiler

/-- An argument of a constructor. -/
structure Arg where
  type : Ty
  name : Text
deriving Repr, Inhabited

/-- A constructor of a data type. -/
structure Constructor where
  name : Text
  args : List Arg
deriving Repr, Inhabited

/-- A data type with its type parameters and constructors. -/
structure DataType where
  name : Text
  params : List Text
  constructors : List Constructor
deriving Repr, Inhabited

/-- A document: the data types of one source, with its package and imports. An empty package
means that there is none. -/
structure Doc where
  source : Text
  package : Text
  imports : List Text
  types : List DataType
deriving Repr, Inhabited

/-- Equality of what may be missing: something missing equals only something missing. -/
def equalIfAny (equal : α → α → Bool) : Option α → Option α → Bool
  | some a, some b => equal a b
  | none, none => true
  | _, _ => false

namespace Arg

/-- Structural equality. -/
def equal (a b : Arg) : Bool := a.name == b.name && a.type.equal b.type

/-- Structural equality of arguments that may be missing. -/
def equalIfAny : Option Arg → Option Arg → Bool := AdtCompiler.equalIfAny equal

end Arg

namespace Constructor

/-- Structural equality. -/
def equal (a b : Constructor) : Bool := a.name == b.name && a.args.isEqv b.args Arg.equal

/-- Structural equality of constructors that may be missing. -/
def equalIfAny : Option Constructor → Option Constructor → Bool := AdtCompiler.equalIfAny equal

/-- Whether all types are given. -/
def isComplete (c : Constructor) : Bool := c.args.all (·.type.isComplete)

end Constructor

namespace DataType

/-- Structural equality. -/
def equal (a b : DataType) : Bool :=
  a.name == b.name && a.params == b.params &&
    a.constructors.isEqv b.constructors Constructor.equal

/-- Structural equality of data types that may be missing. -/
def equalIfAny : Option DataType → Option DataType → Bool := AdtCompiler.equalIfAny equal

/-- Whether the data type has exactly one constructor. -/
def isRecord (d : DataType) : Bool := d.constructors.length == 1

/-- Whether all types are given. -/
def isComplete (d : DataType) : Bool := d.constructors.all Constructor.isComplete

end DataType

namespace Doc

/-- Structural equality; where the documents came from does not matter. -/
def equal (a b : Doc) : Bool :=
  a.package == b.package && a.imports == b.imports && a.types.isEqv b.types DataType.equal

/-- Structural equality of documents that may be missing. -/
def equalIfAny : Option Doc → Option Doc → Bool := AdtCompiler.equalIfAny equal

/-- The name of a data type with its package. -/
def qualifiedName (doc : Doc) (d : DataType) : Text :=
  if doc.package.isEmpty then d.name else doc.package ++ "." ++ d.name

/-- Whether all types are given. -/
def isComplete (doc : Doc) : Bool := doc.types.all DataType.isComplete

/-- What is written of a document. Nothing can be if a type is missing. -/
def written? (doc : Doc) (write : Doc → α) : Option α :=
  if doc.isComplete then some (write doc) else none

theorem written?_of_complete {doc : Doc} (h : doc.isComplete = true) (write : Doc → α) :
    doc.written? write = some (write doc) :=
  if_pos h

theorem written?_of_incomplete {doc : Doc} (h : doc.isComplete = false) (write : Doc → α) :
    doc.written? write = none :=
  if_neg (by simp [h])

end Doc

end AdtCompiler
