import TagQuery.Json.StringLiteral

/-!
# JSON values

* `Json.Value`: a JSON value. An object keeps its keys in order, and a number its spelling.
* `Json.Value.render`: its compact text, which has no blanks.
-/

namespace TagQuery.Json

/-- A JSON value. -/
inductive Value where
  | null
  | bool (value : Bool)
  | number (written : String)
  | string (text : String)
  | array (items : List Value)
  | object (fields : List (String × Value))

namespace Value

mutual

/-- The compact text of a value. -/
def render : Value → String
  | null => "null"
  | bool value => if value then "true" else "false"
  | number written => written
  | string text => quote text
  | array items => "[" ++ renderItems items ++ "]"
  | object fields => "\x7b" ++ renderFields fields ++ "\x7d"

/-- The items of an array, with commas between them. -/
def renderItems : List Value → String
  | [] => ""
  | [item] => item.render
  | item :: items => item.render ++ "," ++ renderItems items

/-- The fields of an object, with commas between them. -/
def renderFields : List (String × Value) → String
  | [] => ""
  | [(key, value)] => quote key ++ ":" ++ value.render
  | (key, value) :: fields => quote key ++ ":" ++ value.render ++ "," ++ renderFields fields

end

end Value

end TagQuery.Json
