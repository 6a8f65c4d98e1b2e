import ResourceFilter.Toml.Moment

/-!
The values of a TOML document.
-/

namespace ResourceFilter.Toml

/-- How a table came to be, which decides how it may grow. -/
inductive Origin
  | inline
  | dotted
  | parent
  | header
  deriving DecidableEq, Repr

inductive Value
  | string (text : String)
  | integer (value : Int)
  | float (value : FloatNumber)
  | boolean (value : Bool)
  | moment (value : Moment)
  /-- A list of values; a growing one is made of tables that headers open one by one. -/
  | array (growing : Bool) (items : List Value)
  | table (origin : Origin) (members : List (String × Value))

abbrev Members := List (String × Value)

def Members.set (name : String) (value : Value) : Members → Members
  | [] => [(name, value)]
  | (other, held) :: rest =>
      if name = other then (name, value) :: rest else (other, held) :: set name value rest

def Members.add? (name : String) (value : Value) (members : Members) : Option Members :=
  match members.lookup name with
  | some _ => none
  | none => some (members ++ [(name, value)])

def momentName : String := "$__toml_private_datetime"

def Value.members? : Value → Option Members
  | .table _ members => some members
  | .moment value => some [(momentName, .string value.text)]
  | _ => none

end ResourceFilter.Toml
