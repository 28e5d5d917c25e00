import ClassScript.Class.Builtin
import ClassScript.Typing.Check
import ClassScript.Typing.Overload

/-! # Types of expressions

`infer` finds the type of an expression and reports the rules it breaks on the way. An absent type
means that something inside was reported already; rules that would need the type then stay silent.

In front of a member or a call an expression may also name a class, or be `this`. `denote` therefore
takes the role in which an expression stands, and its result says which of these the expression
denotes. Each rule that needs no recursion is a function of its own on the types of the parts. -/

namespace ClassScript

/-- The role in which an expression stands. -/
inductive Role where
  | value
  /-- In front of a member or a call. -/
  | receiver
deriving DecidableEq

/-- What an expression denotes. -/
inductive Denotation where
  /-- A class: members are static. -/
  | cls (info : ClassInfo)
  /-- The instance itself. -/
  | this
  | value (type : DataType)
  /-- A value of unknown type. -/
  | unknown

namespace Denotation

/-- A value whose type may be unknown. -/
def ofType? : Option DataType → Denotation
  | some t => value t
  | none => unknown

/-- The type of a value, if it is known. -/
def type? : Denotation → Option DataType
  | value t => some t
  | _ => none

@[simp] theorem type?_ofType? (t : Option DataType) : (ofType? t).type? = t := by
  cases t <;> rfl

end Denotation

namespace Typing

open Check (report)

variable (cx : CheckContext)

/-! ## Requirements -/

/-- A condition has to be Boolean. -/
def requireCondition (type : Option DataType) (span : Span) : Check Unit :=
  match type with
  | some t => if t.isBoolean then pure () else report (.conditionNotBoolean t) span
  | none => pure ()

/-- A stored value has to fit the declared type. -/
def requireFits (actual declared : Option DataType) (span : Span) : Check Unit :=
  match actual, declared with
  | some a, some d => if a.fitsExactly d then pure () else report (.typeMismatch a d) span
  | _, _ => pure ()

/-! ## Names and members -/

/-- What a bare name is as a value: a local, then a field of the enclosing class, an instance field
before a static one. The result is absent if the name is no value at all. -/
def valueOfName (i : Ident) : Check (Option Denotation) := do
  match (← get).scope.lookup? i.name with
  | some var => return some (.ofType? var.type)
  | none =>
    match cx.cls.instanceField? cx.classes i.name with
    | some f =>
      if cx.isStatic then
        report (.staticContext i.name) i.span
        return some .unknown
      else return some (.value f.type)
    | none =>
      match cx.cls.staticField? cx.classes i.name with
      | some (_, f) => return some (.value f.type)
      | none => return none

/-- What a bare name denotes; only a receiver may be a class. -/
def denoteName (role : Role) (i : Ident) : Check Denotation := do
  match ← valueOfName cx i with
  | some d => return d
  | none =>
    match role, cx.lookupClass? i.name with
    | .receiver, some c => return .cls c
    | _, _ =>
      report (.undefined .value i.name) i.span
      return .unknown

/-- What `this` denotes. -/
def denoteThis (role : Role) (span : Span) : Check Denotation :=
  if cx.isStatic then do
    report (.staticContext "this") span
    return .unknown
  else
    match role with
    | .value => return .value cx.cls.dataType
    | .receiver => return .this

/-- Reports a field that is not there. -/
def undefinedField (m : Ident) : Check (Option DataType) := do
  report (.undefined .field m.name) m.span
  return none

/-- The type of a member of what an expression denotes. -/
def memberType (outer : Denotation) (m : Ident) : Check (Option DataType) :=
  match outer with
  | .cls c =>
    match c.staticField? cx.classes m.name with
    | some (_, f) => return some f.type
    | none =>
      match c.instanceField? cx.classes m.name with
      | some _ => do
        report (.staticContext m.name) m.span
        return none
      | none => undefinedField m
  | .this =>
    match cx.cls.instanceField? cx.classes m.name with
    | some f => return some f.type
    | none => undefinedField m
  | .value t =>
    match cx.lookupClass? t.name with
    | none => return none
    | some c =>
      match c.instanceField? cx.classes m.name with
      | some f => return some f.type
      | none =>
        match c.staticField? cx.classes m.name with
        | some (_, f) => return some f.type
        | none => undefinedField m
  | .unknown => return none

/-- What a member denotes; an inner class may only be a receiver. -/
def denoteMember (role : Role) (outer : Denotation) (m : Ident) : Check Denotation := do
  match role, outer with
  | .receiver, .cls c =>
    match c.inner? m.name with
    | some d => return .cls d
    | none => return .ofType? (← memberType cx outer m)
  | _, _ => return .ofType? (← memberType cx outer m)

/-! ## Calls -/

/-- The overloads that a call chooses from. -/
structure CallTarget where
  /-- Absent if there is no method of the name. -/
  group : Option (List MethodInfo)
  bindings : TypeBindings
  /-- Whether the call comes from outside the class, so that hidden methods are out of reach. -/
  isExternal : Bool

/-- The target of a call without a receiver: an instance method, or else a static one. -/
def implicitTarget (name : String) (span : Span) : Check (Option CallTarget) := do
  let instances := cx.cls.instanceMethods? cx.classes name
  let statics := cx.cls.staticMethods? cx.classes name
  if cx.isStatic then
    if statics.isNone && instances.isSome then
      report (.staticContext name) span
      return none
    else return some ⟨statics, .none, false⟩
  else return some ⟨instances.or statics, .none, false⟩

/-- The target of a call on what the receiver denotes; absent if its class is unknown. -/
def explicitTarget (receiver : Denotation) (name : String) : Option CallTarget :=
  match receiver with
  | .this => some ⟨cx.cls.instanceMethods? cx.classes name, .none, false⟩
  | .cls c => some ⟨c.staticMethods? cx.classes name, .none, !cx.isCurrent c⟩
  | .value t =>
    match cx.lookupClass? t.name with
    | some c => some ⟨c.instanceMethods? cx.classes name, ⟨c.typeParams, t.args⟩, true⟩
    | none => none
  | .unknown => none

/-- Selects an overload. A fallback is logged, and reported if the number of arguments is wrong. -/
def select (name : String) (bindings : TypeBindings) (group : List MethodInfo)
    (args : List (Option DataType)) (span : Span) : Check (Option MethodInfo) :=
  match Overload.resolve cx.classes bindings group args with
  | none => return none
  | some found =>
    if found.isFallback then do
      Check.log (.overloadFallback name span)
      if found.acceptsArity args.length then return some found.method
      else
        report (.wrongArity name found.method.arity args.length) span
        return some found.method
    else return some found.method

/-- The type of a call: the result of the selected overload. -/
def callType (target : Option CallTarget) (method : Ident) (args : List (Option DataType))
    (span : Span) : Check (Option DataType) :=
  match target with
  | none => return none
  | some ⟨none, _, _⟩ => do
    report (.undefined .method method.name) method.span
    return none
  | some ⟨some group, bindings, isExternal⟩ => do
    match ← select cx method.name bindings group args span with
    | none => return none
    | some m =>
      if isExternal && !m.visibility.isExternallyCallable then
        report (.methodNotPublic m.visibility) span
        return none
      else
        let result := bindings.substitute m.resultType
        return if bindings.isUnbound result then none else some result

/-- The type of `new`: the class that is instantiated. -/
def createType (type : Option DataType) (args : List (Option DataType)) (span : Span) :
    Check (Option DataType) :=
  match type with
  | none => return none
  | some t =>
    match cx.lookupClass? t.name with
    | none => return none
    | some c =>
      if c.constructors.isEmpty then do
        if args.isEmpty then return some t
        else
          report (.wrongArity c.name 0 args.length) span
          return some t
      else do
        match ← select cx c.name ⟨c.typeParams, t.args⟩ c.constructors args span with
        | none => return none
        | some m =>
          if !m.visibility.isExternallyCallable && !cx.isCurrent c then
            report (.methodNotPublic m.visibility) span
            return some t
          else return some t

/-! ## Operators -/

/-- Whether a type can be added or compared. -/
def isAddable (t : DataType) : Bool := t.isNumeric || t.isString

/-- What is wrong with adding or comparing two types: both have to be numbers, or both text. -/
def comparison? (left right : DataType) : Option Violation :=
  if !isAddable left then some (.mustBeAddable left)
  else if !isAddable right then some (.mustBeAddable right)
  else if left.isString != right.isString then some (.typeMismatch left right)
  else none

/-- The type of a number computed from two. -/
def numericType (left right : DataType) : DataType :=
  if left.isDouble || right.isDouble then .double else .integer

/-- The type of `+ - * / %`, or what is wrong with the operands. -/
def arithmetic (op : BinaryOp) (left right : DataType) : Except Violation DataType :=
  match op with
  | .add =>
    match comparison? left right with
    | some v => .error v
    | none => .ok (if left.isString then .string else numericType left right)
  | _ =>
    if !left.isNumeric then .error (.mustBeNumeric left)
    else if !right.isNumeric then .error (.mustBeNumeric right)
    else .ok (numericType left right)

/-- The type of `+ - * / %`, reporting operands of the wrong type. -/
def arithmeticType (op : BinaryOp) (left right : DataType) (span : Span) :
    Check (Option DataType) :=
  match arithmetic op left right with
  | .ok t => return some t
  | .error v => do
    report v span
    return none

/-- Operands of a logical operator have to be Boolean; the first that is not is reported. -/
def requireLogical (left right : Option DataType) (span : Span) : Check Unit :=
  match [left, right].findSome? fun t => t.filter fun t => !t.isBoolean with
  | some t => report (.mustBeBoolean t) span
  | none => pure ()

/-- The type of a binary expression from the types of its operands. -/
def binaryType (op : BinaryOp) (left right : Option DataType) (span : Span) :
    Check (Option DataType) :=
  if op.isEquality then return some .boolean
  else if op.isLogical then do
    requireLogical left right span
    return some .boolean
  else
    match left, right with
    | some l, some r =>
      if op.isRelational then
        match comparison? l r with
        | some v => do
          report v span
          return some .boolean
        | none => return some .boolean
      else arithmeticType op l r span
    | _, _ => return none

/-- The type of `+a`, `-a` and `!a`. -/
def unaryType (op : UnaryOp) (operand : Option DataType) (span : Span) : Check (Option DataType) :=
  match operand with
  | none => return none
  | some t =>
    match op with
    | .not =>
      if t.isBoolean then return some t
      else do
        report (.mustBeBoolean t) span
        return none
    | .plus | .neg =>
      if t.isInteger then return some t
      else do
        report (.mustBeInteger t) span
        return none
    | .inc | .dec => return some t

/-- The type of an increment or a decrement: an Integer that can be assigned. -/
def stepType (operand : Expr) (type : Option DataType) (span : Span) : Check (Option DataType) :=
  match type with
  | none => return none
  | some t =>
    if !t.isInteger then do
      report (.mustBeInteger t) span
      return none
    else if !operand.isAssignable then do
      report .notAssignable span
      return none
    else return some t

/-- The type of `target op= value`. -/
def compoundType (op : BinaryOp) (target value : Option DataType) (span : Span) :
    Check (Option DataType) :=
  match target, value with
  | some t, some v => do
    match ← arithmeticType op t v span with
    | none => return none
    | some result =>
      if result.fitsExactly t then return some t
      else
        report (.typeMismatch result t) span
        return some t
  | _, _ => return none

/-- The type of `condition ? yes : no`: the one that the other can be passed for. -/
def conditionalType (yes no : Option DataType) (span : Span) : Check (Option DataType) :=
  match yes, no with
  | some y, some n =>
    if n.isAssignable cx.classes y then return some (if y.isNull then n else y)
    else if y.isAssignable cx.classes n then return some n
    else do
      report (.typeMismatch n y) span
      return none
  | _, _ => return none

/-- The type of `object[key]`. A Map takes String keys; anything else takes Integer or String keys,
and only a List has elements. -/
def indexType (object key : Option DataType) (keySpan span : Span) : Check (Option DataType) :=
  match object.filter DataType.isMap with
  | some m =>
    match key.filter fun k => !k.isString with
    | some k => do
      report (.mapKey k) keySpan
      return none
    | none => return m.args[1]?
  | none =>
    match key.filter fun k => !(k.isInteger || k.isString) with
    | some k => do
      report (.listKey k) keySpan
      return none
    | none =>
      match object with
      | none => return none
      | some t =>
        if t.isList then return t.args.head?
        else do
          report (.notIndexable t) span
          return none

/-! ## Expressions -/

mutual

/-- What an expression denotes in a role. -/
def denote (role : Role) : Expr → Check Denotation
  | .literal value _ => return .value value.dataType
  | .name i => denoteName cx role i
  | .this span => denoteThis cx role span
  | .member object m _ => do
    let outer ← denote .receiver object
    denoteMember cx role outer m
  | .call method args span => do
    let target ← implicitTarget cx method.name span
    let types ← inferAll args
    return .ofType? (← callType cx target method types span)
  | .callOn receiver method args span => do
    let outer ← denote .receiver receiver
    let types ← inferAll args
    return .ofType? (← callType cx (explicitTarget cx outer method.name) method types span)
  | .create type args span => do
    let t ← cx.resolveType type.dataType type.span
    let types ← inferAll args
    return .ofType? (← createType cx t types span)
  | .index object key span => do
    let t ← denote .value object
    let k ← denote .value key
    return .ofType? (← indexType t.type? k.type? key.span span)
  | .binary op left right span => do
    let l ← denote .value left
    let r ← denote .value right
    return .ofType? (← binaryType op l.type? r.type? span)
  | .unary op operand span => do
    let t ← denote .value operand
    if op.mutates then return .ofType? (← stepType operand t.type? span)
    else return .ofType? (← unaryType op t.type? span)
  | .post _ operand span => do
    let t ← denote .value operand
    return .ofType? (← stepType operand t.type? span)
  | .assign op target value span =>
    if target.isAssignable then do
      let t ← denote .value target
      let v ← denote .value value
      match op.binary? with
      | none =>
        requireFits v.type? t.type? value.span
        return .ofType? t.type?
      | some op => return .ofType? (← compoundType op t.type? v.type? span)
    else do
      report .notAssignable target.span
      let _ ← denote .value value
      return .unknown
  | .conditional condition yes no _ => do
    let c ← denote .value condition
    requireCondition c.type? condition.span
    let y ← denote .value yes
    let n ← denote .value no
    return .ofType? (← conditionalType cx y.type? n.type? no.span)
  | .query _ _ => return .value Builtin.recordList

/-- The types of several expressions, from left to right. -/
def inferAll : List Expr → Check (List (Option DataType))
  | [] => return []
  | e :: es => do
    let d ← denote .value e
    let types ← inferAll es
    return d.type? :: types

end

/-- The type of an expression. -/
def infer (e : Expr) : Check (Option DataType) := do
  return (← denote cx .value e).type?

end Typing

end ClassScript
