import Larder.Number.Notation
import Larder.Number.Numeral
import Larder.Text.Quoted

/-!
# Larder — host values

The values that a host hands over as data: configuration, specifiers that may not be text, and the
value it understands as "resolve this import yourself". An object keeps its members in the order
in which they were given.
-/

namespace Larder

/-- A host value. -/
inductive Value where
  /-- The absent value. -/
  | null
  | bool (b : Bool)
  | int (n : Int)
  | float (x : Float)
  | str (s : String)
  | list (items : List Value)
  /-- Members in their order. -/
  | object (members : List (String × Value))
  deriving Repr, Inhabited

namespace Value

/-- Whether the value is the absent one. -/
def isNull : Value → Bool
  | null => true
  | _ => false

/-- The number that a numeral stands for. -/
def ofNumeral : Numeral → Value
  | .whole n => int n
  | .real x => float x

/-- Whether a value is a whole number in any of its forms: a truth value counts as one or zero. -/
def isNumber (n : Int) : Value → Bool
  | bool b => n = if b then 1 else 0
  | int m => m = n
  | float x => x == Float.ofInt n
  | _ => false

/-- The name of a value's type, as messages give it. -/
def typeName : Value → String
  | null => "NoneType"
  | bool _ => "bool"
  | int _ => "int"
  | float _ => "float"
  | str _ => "str"
  | list _ => "list"
  | object _ => "dict"

/-- The member of an object under a key. -/
def member? (key : String) : Value → Option Value
  | object members => members.lookup key
  | _ => none

/-- The text of a number, truth value or absent value, and the quoted form of a text. -/
def atomText : Value → String
  | null => "None"
  | bool true => "True"
  | bool false => "False"
  | int n => toString n
  | float x => Number.text x
  | str s => Text.quote s
  | list _ => "[]"
  | object _ => "\x7b\x7d"

mutual

/-- How a value is shown inside another one. -/
def shown : Value → String
  | list items => "[" ++ ", ".intercalate (shownItems items) ++ "]"
  | object members => "\x7b" ++ ", ".intercalate (shownMembers members) ++ "\x7d"
  | v => v.atomText

/-- The shown items of a sequence. -/
def shownItems : List Value → List String
  | [] => []
  | v :: rest => v.shown :: shownItems rest

/-- The shown members of an object. -/
def shownMembers : List (String × Value) → List String
  | [] => []
  | (k, v) :: rest => (Text.quote k ++ ": " ++ v.shown) :: shownMembers rest

end

/-- The text of a value: a text is itself, anything else is shown. -/
def text : Value → String
  | str s => s
  | v => v.shown

end Value

end Larder
