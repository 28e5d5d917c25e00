import ClassScript.Class.Table

/-! # Built-in classes

The classes every program starts with: the scalars, `Object`, the two containers, and the small
library around them. -/

namespace ClassScript

namespace Builtin

/-- Modifiers of every built-in class. -/
def modifiers : Modifiers := .union .pub .global

/-- A built-in method with parameters `p0`, `p1` and so on. -/
def method (name : String) (result : Option DataType) (params : List DataType)
    (native : NativeMethod) : MethodInfo where
  name
  modifiers := .pub
  returnType := result
  params := params.mapIdx fun i t => ⟨s!"p{i}", t⟩
  body := .native native
  span := .unknown

/-- A built-in method that needs no instance. -/
def staticMethod (name : String) (result : Option DataType) (params : List DataType)
    (native : NativeMethod) : MethodInfo :=
  { method name result params native with modifiers := .union .pub .static }

/-- A built-in class with its methods. -/
def classOf (name : String) (methods : List MethodInfo) : ClassInfo :=
  methods.foldl ClassInfo.addMethod (.blank name modifiers)

/-- A public field without an initializer. -/
def field (name : String) (type : DataType) : FieldInfo := ⟨name, type, .pub, none, .unknown⟩

/-! ## Scalars -/

def integerClass : ClassInfo :=
  classOf "Integer"
    [method "format" (some .string) [] .formatScalar,
      staticMethod "valueOf" (some .integer) [.string] .integerValueOf]

def doubleClass : ClassInfo :=
  classOf "Double"
    [method "format" (some .string) [] .formatScalar,
      method "intValue" (some .integer) [] .doubleIntValue]

def stringClass : ClassInfo :=
  classOf "String"
    [method "length" (some .integer) [] .stringLength,
      method "toUpperCase" (some .string) [] .stringToUpperCase,
      method "toLowerCase" (some .string) [] .stringToLowerCase,
      method "contains" (some .boolean) [.string] .stringContains,
      staticMethod "valueOf" (some .string) [.object] .stringValueOf]

def booleanClass : ClassInfo := classOf "Boolean" []

def objectClass : ClassInfo := classOf "Object" []

/-! ## Containers -/

/-- The generic parameter of lists, and those of maps. -/
def element : DataType := .simple "T"
def key : DataType := .simple "K"
def value : DataType := .simple "V"

def listClass : ClassInfo :=
  { classOf "List"
      [method "add" none [element] .listAdd,
        method "get" (some element) [.integer] .listGet,
        method "set" none [.integer, element] .listSet,
        method "size" (some .integer) [] .listSize,
        method "isEmpty" (some .boolean) [] .listIsEmpty,
        method "clear" none [] .listClear,
        method "contains" (some .boolean) [element] .listContains] with
    typeParams := ["T"]
    constructors := [method "List" none [] .listCreate] }

def mapClass : ClassInfo :=
  { classOf "Map"
      [method "put" (some value) [key, value] .mapPut,
        method "get" (some value) [key] .mapGet,
        method "containsKey" (some .boolean) [key] .mapContainsKey,
        method "remove" (some value) [key] .mapRemove,
        method "size" (some .integer) [] .mapSize,
        method "isEmpty" (some .boolean) [] .mapIsEmpty,
        method "keySet" (some (.list key)) [] .mapKeySet,
        method "values" (some (.list value)) [] .mapValues] with
    typeParams := ["K", "V"]
    constructors := [method "Map" none [] .mapCreate] }

/-! ## Library -/

def systemClass : ClassInfo :=
  classOf "System" [staticMethod "debug" none [.object] .systemDebug]

/-- The type of dates. -/
def date : DataType := .simple "Date"

def dateClass : ClassInfo :=
  classOf "Date"
    [staticMethod "today" (some date) [] .dateToday,
      staticMethod "newInstance" (some date) [.integer, .integer, .integer] .dateNewInstance,
      method "format" (some .string) [] .dateFormat,
      method "year" (some .integer) [] .dateYear,
      method "month" (some .integer) [] .dateMonth,
      method "day" (some .integer) [] .dateDay]

def requestClass : ClassInfo :=
  { classOf "HttpRequest"
      [method "setHeader" none [.string, .string] .requestSetHeader,
        method "getHeader" (some .string) [.string] .requestGetHeader,
        method "setMethod" none [.string] .requestSetMethod,
        method "getMethod" (some .string) [] .requestGetMethod,
        method "setEndpoint" none [.string] .requestSetEndpoint,
        method "getEndpoint" (some .string) [] .requestGetEndpoint] with
    constructors := [method "HttpRequest" none [] .requestCreate] }

/-- The class of the records that queries return, and its field for the record's id. -/
def recordName : String := "Account"
def recordIdField : String := "Id"

/-- The type of a query's result. -/
def recordList : DataType := .list (.simple recordName)

def recordClass : ClassInfo :=
  [field recordIdField .string, field "Name" .string].foldl ClassInfo.addField
    (.blank recordName modifiers)

def databaseClass : ClassInfo :=
  classOf "Database" [staticMethod "query" (some recordList) [.string] .databaseQuery]

end Builtin

namespace ClassTable

/-- The table every program starts with. -/
def initial : ClassTable :=
  ⟨[Builtin.integerClass, Builtin.doubleClass, Builtin.stringClass, Builtin.booleanClass,
    Builtin.objectClass, Builtin.listClass, Builtin.mapClass, Builtin.systemClass,
    Builtin.dateClass, Builtin.requestClass, Builtin.recordClass, Builtin.databaseClass]⟩

end ClassTable

end ClassScript
