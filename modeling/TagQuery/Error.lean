import TagQuery.Rejection

/-!
# Errors

* `Error`: everything that can go wrong in the library, by its cause.
* `Error.text`: the text shown to a user, which opens with the cause.
-/

namespace TagQuery

/-- What went wrong. -/
inductive Error where
  /-- A file could not be read or written. -/
  | io (message : String)
  /-- A text is not the JSON it should be. -/
  | json (message : String)
  /-- A setting could not be read or written. -/
  | config (message : String)
  /-- A query was rejected. -/
  | parse (error : ParseError)
  deriving DecidableEq

/-- The text of an error. -/
def Error.text : Error → String
  | io message => "IO error: " ++ message
  | json message => "JSON error: " ++ message
  | config message => "Configuration error: " ++ message
  | parse error => "Parse error: " ++ error.text

end TagQuery
