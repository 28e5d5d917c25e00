import ClassScript.Class.Table
import ClassScript.Diagnostic
import ClassScript.Log

/-! # Registration

From class declarations to the classes of a table. A declaration is rejected at its first duplicate:
of fields, of overloads with the same parameter types, of constructors, of parameter names, and of
inner classes, in this order. Method bodies are not looked at. -/

namespace ClassScript

namespace FieldDecl

/-- What a declared field contributes to its class. -/
def info (f : FieldDecl) : FieldInfo :=
  ⟨f.name.name, f.type.dataType, f.modifiers, f.init, f.span⟩

end FieldDecl

namespace MethodDecl

/-- What a declared method contributes to its class. A result written as `void` is none. -/
def info (m : MethodDecl) : MethodInfo where
  name := m.name.name
  modifiers := m.modifiers
  returnType := (m.returnType.map TypeRef.dataType).filter fun t => !t.isVoid
  params := m.params.map fun p => ⟨p.name.name, p.type.dataType⟩
  body := match m.body with
    | some stmts => .script stmts
    | none => .abstract
  span := m.span

end MethodDecl

namespace Registration

/-! ## The members of one class -/

/-- Adds a field whose name is new, among static and instance fields together. -/
def addField (c : ClassInfo) (f : FieldDecl) : Except RegistrationError ClassInfo :=
  if c.instanceFields.contains f.name.name || c.staticFields.contains f.name.name then
    .error (.duplicateField f.name.name f.name.span)
  else .ok (c.addField f.info)

/-- The overloads of a name, instance methods before static ones. -/
def overloads (c : ClassInfo) (name : String) : List MethodInfo :=
  (c.instanceMethods.get? name).getD [] ++ (c.staticMethods.get? name).getD []

/-- Adds a method whose parameter types differ from those of every overload. -/
def addMethod (c : ClassInfo) (decl : MethodDecl) : Except RegistrationError ClassInfo :=
  let m := decl.info
  if (overloads c m.name).any (·.sameSignature m) then .error (.duplicateMethod m.name m.span)
  else .ok (c.addMethod m)

/-- Adds a constructor whose parameter types differ from those of every other. -/
def addConstructor (c : ClassInfo) (decl : MethodDecl) : Except RegistrationError ClassInfo :=
  let m := decl.info
  if c.constructors.any (·.sameSignature m) then .error (.duplicateMethod m.name m.span)
  else .ok (c.addConstructor m)

/-- Refuses the first parameter whose name, as written, is among `seen` or an earlier one. -/
def checkParams (seen : List String) : List Param → Except RegistrationError Unit
  | [] => .ok ()
  | p :: ps =>
    if seen.contains p.name.name then .error (.duplicateParameter p.name.name p.span)
    else checkParams (p.name.name :: seen) ps

/-- A class with its declared fields, methods and constructors, and no inner classes yet. -/
def ownMembers (outer : List String) (decl : ClassDecl) : Except RegistrationError ClassInfo := do
  let c : ClassInfo :=
    { ClassInfo.blank decl.name.name decl.modifiers with
      outer
      annotations := decl.annotations
      superclass := decl.superclass.map TypeRef.dataType
      interfaces := decl.interfaces.map TypeRef.dataType
      span := decl.span }
  let c ← decl.fields.foldlM addField c
  let c ← decl.methods.foldlM addMethod c
  let c ← decl.constructors.foldlM addConstructor c
  (decl.methods ++ decl.constructors).forM fun m => checkParams [] m.params
  return c

end Registration

/-! ## Classes with their inner classes -/

/-- Registration of a class; what it logs stays logged if the class is rejected. -/
abbrev Registration := EStateM RegistrationError Log

namespace Registration

/-- The event of a class that was registered. -/
def registered (c : ClassInfo) : LogEvent :=
  .classRegistered c.name (c.instanceFields.size + c.staticFields.size)
    (c.instanceMethods.size + c.staticMethods.size) c.constructors.length c.inner.length

mutual

/-- The class of a declaration inside the classes `outer`. -/
def register (outer : List String) : ClassDecl → Registration ClassInfo
  | ⟨modifiers, annotations, name, superclass, interfaces, members, span⟩ => do
    let decl : ClassDecl := ⟨modifiers, annotations, name, superclass, interfaces, members, span⟩
    let c ← MonadExcept.ofExcept (ownMembers outer decl)
    let inner ← registerInner (outer ++ [name.name]) [] members
    let c := { c with inner }
    modify (·.push (registered c))
    return c

/-- The inner classes among the members, after the ones already registered. -/
def registerInner (outer : List String) (done : List ClassInfo) :
    List (Member ClassDecl) → Registration (List ClassInfo)
  | [] => pure done
  | .inner decl :: members => do
    let c ← register outer decl
    if done.any fun d => sameName d.name c.name then
      throw (.duplicateClass c.name decl.name.span)
    else registerInner outer (done ++ [c]) members
  | .field _ :: members => registerInner outer done members
  | .method _ :: members => registerInner outer done members
  | .constructor _ :: members => registerInner outer done members

end

/-! ## Batches -/

/-- The table with the class of a declaration added, if its name is new and it is well formed. -/
def registerInto (t : ClassTable) (decl : ClassDecl) : Registration ClassTable := do
  if t.contains decl.name.name then
    throw (.duplicateClass decl.name.name decl.name.span)
  else
    let c ← register [] decl
    return t.add c

/-- The outcome of a batch: the table, and one error for each rejected declaration. -/
structure Outcome where
  table : ClassTable
  accepted : Nat
  errors : List RegistrationError
  log : Log

/-- Registers declarations one after the other. A rejected one is left out. -/
def registerAll (t : ClassTable) (decls : List ClassDecl) : Outcome :=
  decls.foldl
    (fun out decl =>
      match (registerInto out.table decl).run out.log with
      | .ok table log => { out with table, accepted := out.accepted + 1, log }
      | .error e log => { out with errors := out.errors ++ [e], log })
    ⟨t, 0, [], #[]⟩

end Registration

end ClassScript
