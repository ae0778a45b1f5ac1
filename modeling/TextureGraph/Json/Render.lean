import TextureGraph.Json.Basic

/-!
# Printing JSON

Compact text of a value, with ASCII characters only inside of texts.
-/

namespace TextureGraph

namespace Json

/-- Four hexadecimal digits of a code unit. -/
def unitDigits (unit : Nat) : List Char :=
  [unit / 4096, unit / 256, unit / 16, unit].map fun n => Nat.digitChar (n % 16)

def escapeUnit (unit : Nat) : List Char :=
  '\\' :: 'u' :: unitDigits unit

/-- One character between quotes. -/
def escapeChar (c : Char) : List Char :=
  if c = '"' ∨ c = '\\' then ['\\', c]
  else if 0x20 ≤ c.toNat ∧ c.toNat < 0x7f then [c]
  else if c.toNat < 0x10000 then escapeUnit c.toNat
  else
    let offset := c.toNat - 0x10000
    escapeUnit (0xd800 + offset / 0x400) ++ escapeUnit (0xdc00 + offset % 0x400)

def renderString (text : String) : String :=
  String.ofList ('"' :: text.toList.flatMap escapeChar ++ ['"'])

/-- The digits as they are written. -/
def Number.render (number : Number) : String :=
  let fraction :=
    if number.fraction.isEmpty then "" else "." ++ String.ofList number.fraction
  let exponent :=
    match number.exponent with
    | some exponent => "e" ++ toString exponent
    | none => ""
  (if number.negative then "-" else "") ++ String.ofList number.whole ++ fraction ++ exponent

mutual

/-- Compact text of a value; a text that is no string is left empty. -/
def render : Json → String
  | null => "null"
  | bool value => if value then "true" else "false"
  | number value => value.render
  | string text => renderString (text.getD "")
  | array items => "[" ++ String.intercalate "," (renderItems items) ++ "]"
  | object fields => "\x7b" ++ String.intercalate "," (renderFields fields) ++ "\x7d"

def renderItems : List Json → List String
  | [] => []
  | item :: rest => render item :: renderItems rest

def renderFields : List (JsonText × Json) → List String
  | [] => []
  | (key, value) :: rest =>
      (renderString (key.getD "") ++ ":" ++ render value) :: renderFields rest

end

end Json

end TextureGraph
