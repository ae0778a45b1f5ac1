import TextureGraph.Json.Token

/-!
# Parsing JSON

Reads one value from tokens with an explicit list of the arrays and objects that
are still open, so that no nesting is too deep to parse.
-/

namespace TextureGraph

namespace Json

/-- An open array or object with what it holds so far, last first. -/
inductive Frame where
  | array (items : List Json)
  | object (fields : List (JsonText × Json)) (key : JsonText)

/-- What the next token has to be. -/
inductive Expected where
  | value
  /-- A first item or the end of an array. -/
  | firstItem
  /-- A first key or the end of an object. -/
  | firstKey
  | key (fields : List (JsonText × Json))
  | colon (fields : List (JsonText × Json)) (key : JsonText)
  /-- What may follow a complete value. -/
  | next (value : Json)

/-- Start a value. -/
def startValue (frames : List Frame) : Token → Option (Expected × List Frame)
  | .null => some (.next null, frames)
  | .bool value => some (.next (bool value), frames)
  | .number value => some (.next (number value), frames)
  | .string text => some (.next (string text), frames)
  | .openArray => some (.firstItem, .array [] :: frames)
  | .openObject => some (.firstKey, frames)
  | _ => none

/-- Effect of one token. -/
def advance : Expected × List Frame → Token → Option (Expected × List Frame)
  | (.firstItem, .array _ :: frames), .closeArray => some (.next (array []), frames)
  | (.value, frames), token => startValue frames token
  | (.firstItem, frames), token => startValue frames token
  | (.firstKey, frames), .closeObject => some (.next (object []), frames)
  | (.firstKey, frames), .string key => some (.colon [] key, frames)
  | (.key fields, frames), .string key => some (.colon fields key, frames)
  | (.colon fields key, frames), .colon => some (.value, .object fields key :: frames)
  | (.next value, .array items :: frames), .comma =>
      some (.value, .array (value :: items) :: frames)
  | (.next value, .array items :: frames), .closeArray =>
      some (.next (array (value :: items).reverse), frames)
  | (.next value, .object fields key :: frames), .comma =>
      some (.key ((key, value) :: fields), frames)
  | (.next value, .object fields key :: frames), .closeObject =>
      some (.next (object ((key, value) :: fields).reverse), frames)
  | _, _ => none

/-- The value that all of a list of tokens spells. -/
def ofTokens? (tokens : List Token) : Option Json :=
  match tokens.foldlM advance (.value, []) with
  | some (.next value, []) => some value
  | _ => none

/-- The value that a text spells. -/
def parse? (text : String) : Option Json := do
  ofTokens? (← Token.ofText? text)

end Json

end TextureGraph
