import ClassScript.Modifiers
import ClassScript.Program.Stmt

/-! # Class declarations -/

namespace ClassScript

/-- A parameter of a method. -/
structure Param where
  type : TypeRef
  name : Ident
  span : Span

/-- A field of a class. -/
structure FieldDecl where
  modifiers : Modifiers
  type : TypeRef
  name : Ident
  init : Option Expr
  span : Span

/-- A method or a constructor. -/
structure MethodDecl where
  modifiers : Modifiers
  /-- Absent for constructors and for methods without a result. -/
  returnType : Option TypeRef
  name : Ident
  params : List Param
  /-- Absent for abstract methods. -/
  body : Option (List Stmt)
  span : Span

/-- A member of a class; `κ` is the type of nested classes. -/
inductive Member (κ : Type) where
  | field (decl : FieldDecl)
  | method (decl : MethodDecl)
  | constructor (decl : MethodDecl)
  | inner (decl : κ)

/-- A class with its members in the order they were written. -/
structure ClassDecl where
  modifiers : Modifiers
  annotations : List String
  name : Ident
  superclass : Option TypeRef
  interfaces : List TypeRef
  members : List (Member ClassDecl)
  span : Span

namespace ClassDecl

def fields (c : ClassDecl) : List FieldDecl :=
  c.members.filterMap fun | .field f => some f | _ => none

def methods (c : ClassDecl) : List MethodDecl :=
  c.members.filterMap fun | .method m => some m | _ => none

def constructors (c : ClassDecl) : List MethodDecl :=
  c.members.filterMap fun | .constructor m => some m | _ => none

def innerClasses (c : ClassDecl) : List ClassDecl :=
  c.members.filterMap fun | .inner d => some d | _ => none

end ClassDecl

namespace Member

/-- Where the member was written. -/
def span : Member ClassDecl → Span
  | field f => f.span
  | method m => m.span
  | constructor m => m.span
  | inner c => c.span

end Member

end ClassScript
