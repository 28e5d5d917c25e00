import ClassScript.Name

/-! # Declaration modifiers

The keywords in front of a class, field or method, kept as a set. Access keywords exclude each other
in well-formed programs, but a set may hold several: `Modifiers.visibility` then takes the most
restrictive one. -/

namespace ClassScript

/-- Access level of a member. -/
inductive Visibility where
  /-- No access keyword was written. -/
  | unspecified
  | pub
  | prot
  | priv
  | global
deriving DecidableEq, Repr

namespace Visibility

/-- Whether a call through an explicit receiver may reach the member. -/
def isExternallyCallable : Visibility → Bool
  | priv | prot => false
  | _ => true

/-- The access level in messages. -/
def text : Visibility → String
  | unspecified => "default"
  | pub => "public"
  | prot => "protected"
  | priv => "private"
  | global => "global"

end Visibility

/-- A set of modifier keywords, one bit each. -/
structure Modifiers where
  bits : UInt16
deriving DecidableEq, Repr

namespace Modifiers

/-- No modifier. -/
def none : Modifiers := ⟨0⟩

instance : Inhabited Modifiers := ⟨none⟩

def pub : Modifiers := ⟨1⟩
def priv : Modifiers := ⟨2⟩
def prot : Modifiers := ⟨4⟩
def global : Modifiers := ⟨8⟩
def static : Modifiers := ⟨16⟩
def final : Modifiers := ⟨32⟩
def abstract : Modifiers := ⟨64⟩
def virtual : Modifiers := ⟨128⟩
def override : Modifiers := ⟨256⟩

/-- All keywords of either set. -/
def union (a b : Modifiers) : Modifiers := ⟨a.bits ||| b.bits⟩

/-- Whether every keyword of `b` is in `a`. -/
def contains (a b : Modifiers) : Bool := a.bits &&& b.bits == b.bits

/-- The keywords and their bits. -/
def keywords : List (String × Modifiers) :=
  [("public", pub), ("private", priv), ("protected", prot), ("global", global),
    ("static", static), ("final", final), ("abstract", abstract), ("virtual", virtual),
    ("override", override)]

/-- The modifier a keyword stands for, ignoring ASCII case. -/
def ofKeyword? (word : String) : Option Modifiers :=
  (keywords.find? fun k => sameName k.1 word).map Prod.snd

/-- The access level these modifiers grant. -/
def visibility (m : Modifiers) : Visibility :=
  if m.contains priv then .priv
  else if m.contains prot then .prot
  else if m.contains global then .global
  else if m.contains pub then .pub
  else .unspecified

/-- Whether the member belongs to its class and not to an instance. -/
def isStatic (m : Modifiers) : Bool := m.contains static

/-- Whether the class or method is abstract. -/
def isAbstract (m : Modifiers) : Bool := m.contains abstract

end Modifiers

end ClassScript
