import ClassScript.Fault
import ClassScript.Log
import ClassScript.Text.Quoted

/-! # The query service

Query text goes to a service outside the program, as it stands and with credentials. The service
answers with rows or fails. -/

namespace ClassScript

/-- Credentials for the query service; any part may be missing. -/
structure Credentials where
  username : Option String := none
  password : Option String := none
  endpoint : Option String := none
deriving DecidableEq

namespace Credentials

/-! ## Variables

The names of the variables that credentials are read from. -/

def usernameVar : String := "TALON_QUERY_USERNAME"
def passwordVar : String := "TALON_QUERY_PASSWORD"
def endpointVar : String := "TALON_QUERY_ENDPOINT"

/-- No credentials. -/
def none : Credentials := {}

/-- Credentials read by looking variables up. -/
def ofLookup (lookup : String → Option String) : Credentials :=
  ⟨lookup usernameVar, lookup passwordVar, lookup endpointVar⟩

/-- A part that has to be there. -/
def part (value : Option String) (var : String) : Except NativeError String :=
  match value with
  | some s => .ok s
  | Option.none => .error (.missingCredentials var)

/-- Username, password and endpoint, or the first that is missing. -/
def require (c : Credentials) : Except NativeError (String × String × String) := do
  let username ← part c.username usernameVar
  let password ← part c.password passwordVar
  let endpoint ← part c.endpoint endpointVar
  return (username, password, endpoint)

/-- A part in a description. -/
def partText : Option String → String
  | some s => "Some(" ++ Text.quote s ++ ")"
  | Option.none => "None"

/-- A description that does not give the password away. -/
def describe (c : Credentials) : String :=
  "QueryCredentials \x7b username: " ++ partText c.username
    ++ ", password: " ++ partText (c.password.map fun _ => "***")
    ++ ", endpoint: " ++ partText c.endpoint ++ " \x7d"

end Credentials

/-- A row of an answer: its id and its other columns, in order. -/
structure QueryRow where
  id : String
  fields : List (String × String)
deriving DecidableEq

/-- A service that answers queries. -/
structure QueryService where
  execute : Credentials → String → EStateM NativeError Log (List QueryRow)

namespace QueryService

/-- A service that answers every query with the same rows, given complete credentials. -/
def inMemory (rows : List QueryRow) : QueryService where
  execute credentials query := do
    let (username, _, endpoint) ← MonadExcept.ofExcept credentials.require
    modify (·.push (.querySent username endpoint query))
    return rows

end QueryService

end ClassScript
