/-!
# JSON values

The values of the JSON data format, as the program exchanges them with the API server and as
its canonical hash source is written. Objects keep their members in the order given; the
writer (`Json.render`) prints them in that order, so a value built from `Dict`s is printed with
its keys in increasing order. Numbers are integers or else the text of a number with a fraction
or an exponent, which no part of the program computes with.

Field access (`Json.field?`) takes the last member of a name, as a map built from the members
would.
-/

set_option autoImplicit false

namespace ConfigRollout

/-- A JSON value. -/
inductive Json where
  | null
  | bool (b : Bool)
  /-- An integer. -/
  | int (n : Int)
  /-- A number written with a fraction or an exponent, kept as its text. -/
  | float (text : String)
  | str (s : String)
  | arr (items : List Json)
  /-- An object, as its members in the order given. -/
  | obj (fields : List (String × Json))
  deriving Repr, Inhabited

namespace Json

/-- The value of the last member with a given name, when the value is an object. -/
def field? (j : Json) (name : String) : Option Json :=
  match j with
  | .obj fields => (fields.reverse.find? (fun e => e.1 == name)).map Prod.snd
  | _ => none

/-- The member of a given name, with a missing member and `null` both read as absent. -/
def member? (j : Json) (name : String) : Option Json :=
  match j.field? name with
  | some .null => none
  | other => other

/-- The string held by a value. -/
def str? : Json → Option String
  | .str s => some s
  | _ => none

/-- The boolean held by a value. -/
def bool? : Json → Option Bool
  | .bool b => some b
  | _ => none

/-- The integer held by a value. -/
def int? : Json → Option Int
  | .int n => some n
  | _ => none

/-- The items of an array. -/
def arr? : Json → Option (List Json)
  | .arr items => some items
  | _ => none

/-- The members of an object. -/
def obj? : Json → Option (List (String × Json))
  | .obj fields => some fields
  | _ => none

/-- Whether a value is an object. -/
def isObj : Json → Bool
  | .obj _ => true
  | _ => false

end Json

end ConfigRollout
