import TextureGraph.Json.Number

/-!
# JSON values

Values as they are written: an object keeps all its fields in order, repeated ones
too, and a text may fail to be a string because half of a surrogate pair stands
alone in it. What is read from a document is settled first, which rules out such
texts, numbers that are too large, and too deep nesting.
-/

namespace TextureGraph

/-- A text in a JSON document, or nothing where its code units spell no string. -/
abbrev JsonText := Option String

inductive Json where
  | null
  | bool (value : Bool)
  | number (value : Json.Number)
  | string (text : JsonText)
  | array (items : List Json)
  | object (fields : List (JsonText × Json))

namespace Json

instance : Inhabited Json := ⟨null⟩

/-- How deep arrays and objects may nest in a document. -/
def maxDepth : Nat := 127

/-- Keep the last of the fields with one key. -/
def lastFields : List (JsonText × Json) → List (JsonText × Json)
  | [] => []
  | field :: rest =>
      if rest.any (·.1 == field.1) then lastFields rest else field :: lastFields rest

mutual

/-- Check a value that is read as a whole, and keep the last of repeated fields.
`depth` is how deep it may still nest. -/
def settle? (depth : Nat) : Json → Option Json
  | null => some null
  | bool value => some (bool value)
  | number value => if value.toBinary64?.isSome then some (number value) else none
  | string text => if text.isSome then some (string text) else none
  | array items =>
      match depth with
      | 0 => none
      | depth + 1 => (settleItems? depth items).map array
  | object fields =>
      match depth with
      | 0 => none
      | depth + 1 => (settleFields? depth fields).map fun settled => object (lastFields settled)

def settleItems? (depth : Nat) : List Json → Option (List Json)
  | [] => some []
  | item :: rest => do
      let item ← settle? depth item
      let rest ← settleItems? depth rest
      return item :: rest

def settleFields? (depth : Nat) : List (JsonText × Json) → Option (List (JsonText × Json))
  | [] => some []
  | (key, value) :: rest => do
      if key.isNone then none
      let value ← settle? depth value
      let rest ← settleFields? depth rest
      return (key, value) :: rest

end

/-! ## Reading -/

def asString? : Json → Option String
  | string text => text
  | _ => none

def asArray? : Json → Option (List Json)
  | array items => some items
  | _ => none

/-- An unsigned integer literal of 32 bits. -/
def asWord32? : Json → Option UInt32
  | number value => value.word32?
  | _ => none

/-- An unsigned integer literal of 64 bits. -/
def asWord64? : Json → Option Nat
  | number value => value.word64?
  | _ => none

/-- A number as a field of a structure. -/
def asBinary32? : Json → Option Binary32
  | number value => value.toField?
  | _ => none

/-- The last field of a key. -/
def field? (key : String) : Json → Option Json
  | object fields => (fields.reverse.find? (·.1 == some key)).map (·.2)
  | _ => none

/-- Values of the named fields of a structure, where each may be absent. In an
object the fields stand in any order, among others that are passed over, and none
of them twice; in an array they stand in the order of the names. -/
def fields? (names : List String) : Json → Option (List (Option Json))
  | object fields =>
      if fields.all (·.1.isSome) then
        names.mapM fun name =>
          match fields.filter (·.1 == some name) with
          | [] => some none
          | [(_, value)] => some (some value)
          | _ => none
      else none
  | array items =>
      if items.length ≤ names.length then
        some (items.map some ++ List.replicate (names.length - items.length) none)
      else none
  | _ => none

end Json

end TextureGraph
