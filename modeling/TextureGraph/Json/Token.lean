import TextureGraph.Json.Basic

/-!
# JSON tokens

Splits a text into tokens in one pass. Numbers and literals are maximal runs of
word characters, which are read once the run has ended; texts are collected as code
units, so that surrogate pairs are joined once the text has ended.
-/

namespace TextureGraph

namespace Json

inductive Token where
  | openArray
  | closeArray
  | openObject
  | closeObject
  | comma
  | colon
  | null
  | bool (value : Bool)
  | number (value : Number)
  | string (text : JsonText)
deriving DecidableEq, Repr

namespace Token

def isBlank (c : Char) : Bool :=
  c == ' ' || c == '\t' || c == '\n' || c == '\r'

/-- Whether a character can belong to a number or a literal. -/
def isWordChar (c : Char) : Bool :=
  c.isAlphanum || c == '+' || c == '-' || c == '.'

/-- Token of a single character. -/
def ofMark? : Char → Option Token
  | '[' => some openArray
  | ']' => some closeArray
  | '\x7b' => some openObject
  | '\x7d' => some closeObject
  | ',' => some comma
  | ':' => some colon
  | _ => none

/-- Token of a run of word characters. -/
def ofWord? (word : List Char) : Option Token :=
  if word = "null".toList then some null
  else if word = "true".toList then some (bool true)
  else if word = "false".toList then some (bool false)
  else (Number.ofText? word).map number

/-- Code unit of an escape of one letter. -/
def escapeUnit? : Char → Option Nat
  | '"' => some 0x22
  | '\\' => some 0x5c
  | '/' => some 0x2f
  | 'b' => some 0x08
  | 'f' => some 0x0c
  | 'n' => some 0x0a
  | 'r' => some 0x0d
  | 't' => some 0x09
  | _ => none

def hexValue? (c : Char) : Option Nat :=
  if '0' ≤ c ∧ c ≤ '9' then some (c.toNat - '0'.toNat)
  else if 'a' ≤ c ∧ c ≤ 'f' then some (c.toNat - 'a'.toNat + 10)
  else if 'A' ≤ c ∧ c ≤ 'F' then some (c.toNat - 'A'.toNat + 10)
  else none

def isHighSurrogate (unit : Nat) : Bool :=
  decide (0xd800 ≤ unit ∧ unit < 0xdc00)

def isLowSurrogate (unit : Nat) : Bool :=
  decide (0xdc00 ≤ unit ∧ unit < 0xe000)

/-- Characters of code points among which surrogates stand for halves of a
character, or nothing if a half is missing. -/
def charsOfUnits? : List Nat → Option (List Char)
  | [] => some []
  | [unit] =>
      if isHighSurrogate unit || isLowSurrogate unit then none else some [Char.ofNat unit]
  | unit :: next :: rest =>
      if isHighSurrogate unit then
        if isLowSurrogate next then
          (charsOfUnits? rest).map
            (Char.ofNat (0x10000 + (unit - 0xd800) * 0x400 + (next - 0xdc00)) :: ·)
        else none
      else if isLowSurrogate unit then none
      else (charsOfUnits? (next :: rest)).map (Char.ofNat unit :: ·)

/-- Text of code units that were collected last first. -/
def textOfUnits (reversed : List Nat) : JsonText :=
  (charsOfUnits? reversed.reverse).map String.ofList

/-- Where the pass stands in the text. Collected characters are listed last first. -/
inductive Mode where
  | between
  | word (reversed : List Char)
  | text (reversed : List Nat)
  | escape (reversed : List Nat)
  /-- After `digits` of the four digits of a numeric escape. -/
  | unicode (reversed : List Nat) (digits value : Nat)

/-- Start of a token, with the tokens before it last first. -/
def start (tokens : List Token) (c : Char) : Option (Mode × List Token) :=
  if isBlank c then some (.between, tokens)
  else if c = '"' then some (.text [], tokens)
  else if isWordChar c then some (.word [c], tokens)
  else (ofMark? c).map fun token => (.between, token :: tokens)

/-- Effect of one character. -/
def advance (mode : Mode) (tokens : List Token) (c : Char) : Option (Mode × List Token) :=
  match mode with
  | .between => start tokens c
  | .word reversed =>
      if isWordChar c then some (.word (c :: reversed), tokens)
      else do
        let token ← ofWord? reversed.reverse
        start (token :: tokens) c
  | .text reversed =>
      if c = '"' then some (.between, string (textOfUnits reversed) :: tokens)
      else if c = '\\' then some (.escape reversed, tokens)
      else if c.toNat < 0x20 then none
      else some (.text (c.toNat :: reversed), tokens)
  | .escape reversed =>
      if c = 'u' then some (.unicode reversed 0 0, tokens)
      else (escapeUnit? c).map fun unit => (.text (unit :: reversed), tokens)
  | .unicode reversed digits value => do
      let value := 16 * value + (← hexValue? c)
      if digits = 3 then
        return (.text (value :: reversed), tokens)
      else
        return (.unicode reversed (digits + 1) value, tokens)

/-- Tokens of the rest of a text. -/
def scan (mode : Mode) (tokens : List Token) : List Char → Option (List Token)
  | [] =>
      match mode with
      | .between => some tokens.reverse
      | .word reversed => (ofWord? reversed.reverse).map fun token => (token :: tokens).reverse
      | _ => none
  | c :: rest =>
      match advance mode tokens c with
      | some (mode, tokens) => scan mode tokens rest
      | none => none

/-- Tokens of a text, or nothing if it is not made of tokens. -/
def ofText? (text : String) : Option (List Token) :=
  scan .between [] text.toList

end Token

end Json

end TextureGraph
