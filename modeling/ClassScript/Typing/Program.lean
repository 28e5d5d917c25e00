import ClassScript.Typing.Statement

/-! # Checking classes

A class is checked member by member: instance fields, static fields, constructors, instance methods
and static methods, then its inner classes. Built-in methods are taken as they are. -/

namespace ClassScript.Typing

/-- Declares the parameters of a method; one whose type is unknown is declared without a type. -/
def declareParams (cx : CheckContext) (params : List ParamInfo) (span : Span) : Check Unit :=
  params.forM fun p => do
    let type ← cx.resolveType p.type span
    Check.declare p.name type span

/-- Checks a field and its initializer. -/
def checkField (classes : ClassTable) (cls : ClassInfo) (f : FieldInfo) : Check Unit :=
  Check.inMethod do
    let cx : CheckContext := ⟨classes, cls, some .void, f.isStatic⟩
    let declared ← cx.resolveType f.type f.span
    match f.init with
    | some e => checkStored cx e declared
    | none => pure ()

/-- The declared result of a method, if its type is known. -/
def declaredResult (cx : CheckContext) (m : MethodInfo) : Check (Option DataType) :=
  match m.returnType with
  | some t => cx.resolveType t m.span
  | none => return some .void

/-- Checks the signature of a method and its statements. -/
def checkSignatureAndBody (classes : ClassTable) (cls : ClassInfo) (m : MethodInfo)
    (stmts : List Stmt) : Check Unit := do
  let before := (← get).errors.length
  Check.inMethod do
    let result ← declaredResult (.ofClass classes cls) m
    let cx : CheckContext := ⟨classes, cls, result, m.isStatic⟩
    declareParams cx m.params m.span
    checkStmts cx stmts
  Check.log (.methodChecked cls.name m.name ((← get).errors.length - before))

/-- Checks a method. -/
def checkMethod (classes : ClassTable) (cls : ClassInfo) (m : MethodInfo) : Check Unit :=
  match m.body with
  | .script stmts => checkSignatureAndBody classes cls m stmts
  | .abstract => checkSignatureAndBody classes cls m []
  | .native _ => pure ()

mutual

/-- Checks a class and its inner classes. -/
def checkClass (classes : ClassTable) : ClassInfo → Check Unit
  | ⟨name, outer, modifiers, annotations, superclass, interfaces, typeParams, instanceFields,
      staticFields, instanceMethods, staticMethods, constructors, inner, span⟩ => do
    let cls : ClassInfo :=
      ⟨name, outer, modifiers, annotations, superclass, interfaces, typeParams, instanceFields,
        staticFields, instanceMethods, staticMethods, constructors, inner, span⟩
    instanceFields.values.forM (checkField classes cls)
    staticFields.values.forM (checkField classes cls)
    constructors.forM (checkMethod classes cls)
    instanceMethods.all.forM (checkMethod classes cls)
    staticMethods.all.forM (checkMethod classes cls)
    checkClasses classes inner

/-- Checks classes in order. -/
def checkClasses (classes : ClassTable) : List ClassInfo → Check Unit
  | [] => pure ()
  | c :: cs => do
    checkClass classes c
    checkClasses classes cs

end

/-- The errors of every class of a table, and what checking logs. -/
def checkTable (classes : ClassTable) : List CheckError × Log :=
  let s := ((checkClasses classes classes.classes).run {}).2
  (s.errors, s.log)

end ClassScript.Typing
