import Mathlib.Data.List.Sort
import WizPay.Backend.Text

/-!
# JSON values

Values as request bodies carry them and as digests are computed over them.
`stableJson` writes an object with its keys in order, so that equal values have
one text.
-/

namespace WizPay.Backend

inductive Json where
  | null
  | bool (value : Bool)
  /-- A number, by the text that `String` makes of it. -/
  | number (text : String)
  | string (text : String)
  | array (items : List Json)
  | object (fields : List (String × Json))

namespace Json

/-- A character inside a JSON string. -/
def escape (c : Char) : List Char :=
  if c = '"' then ['\\', '"']
  else if c = '\\' then ['\\', '\\']
  else if c.val = 0x08 then ['\\', 'b']
  else if c.val = 0x0C then ['\\', 'f']
  else if c.val = 0x0A then ['\\', 'n']
  else if c.val = 0x0D then ['\\', 'r']
  else if c.val = 0x09 then ['\\', 't']
  else if c.val < 0x20 then
    ['\\', 'u', '0', '0', hexDigit (c.val.toNat / 16), hexDigit (c.val.toNat % 16)]
  else [c]

def quote (text : String) : List Char := '"' :: text.toList.flatMap escape ++ ['"']

/-- Items with commas between them. -/
def commaSeparated : List (List Char) → List Char
  | [] => []
  | [item] => item
  | item :: rest => item ++ ',' :: commaSeparated rest

mutual

/-- The characters of `JSON.stringify`. -/
def chars : Json → List Char
  | null => ['n', 'u', 'l', 'l']
  | bool true => ['t', 'r', 'u', 'e']
  | bool false => ['f', 'a', 'l', 's', 'e']
  | number text => text.toList
  | string text => quote text
  | array items => '[' :: commaSeparated (itemChars items) ++ [']']
  | object fields => '\x7b' :: commaSeparated (fieldChars fields) ++ ['\x7d']

def itemChars : List Json → List (List Char)
  | [] => []
  | item :: rest => item.chars :: itemChars rest

def fieldChars : List (String × Json) → List (List Char)
  | [] => []
  | (key, value) :: rest => (quote key ++ ':' :: value.chars) :: fieldChars rest

end

def stringify (value : Json) : String := String.ofList value.chars

mutual

/-- Every object with its keys in order; on the keys in use `localeCompare` and
the order of the code points agree. -/
def sortKeys : Json → Json
  | array items => array (sortItems items)
  | object fields => object ((sortFields fields).insertionSort fun first second => first.1 ≤ second.1)
  | value => value

def sortItems : List Json → List Json
  | [] => []
  | item :: rest => item.sortKeys :: sortItems rest

def sortFields : List (String × Json) → List (String × Json)
  | [] => []
  | (key, value) :: rest => (key, value.sortKeys) :: sortFields rest

end

def stableJson (value : Json) : String := value.sortKeys.stringify

/-- A property of an object; absent on everything else. -/
def get? : Json → String → Option Json
  | object fields, key => (fields.find? fun field => field.1 = key).map Prod.snd
  | _, _ => none

mutual

/-- `String(value)`. -/
def toText : Json → String
  | null => "null"
  | bool true => "true"
  | bool false => "false"
  | number text => text
  | string text => text
  | array items => String.intercalate "," (itemTexts items)
  | object _ => "[object Object]"

def itemTexts : List Json → List String
  | [] => []
  | null :: rest => "" :: itemTexts rest
  | item :: rest => item.toText :: itemTexts rest

end

/-- A property inside a template literal. -/
def propertyText : Option Json → String
  | some value => value.toText
  | none => "undefined"

/-- An optional text as a JSON value. -/
def ofOption : Option String → Json
  | some text => string text
  | none => null

end Json

end WizPay.Backend
