import Conduit.Decimal.Layout
import Conduit.Json.Basic

/-! # Writing JSON

The compact text of a JSON value: no blanks, members in the order they are held,
characters outside ASCII as they are. Only the quote, the backslash and the
control characters below the space are escaped, the latter by their short names
where they have one. A number that is not finite is written as `null`.
-/

namespace Conduit.Json

/-- The hexadecimal digit of a number below sixteen, in lower case. -/
def hexDigit (n : Nat) : Char := Nat.digitChar n

/-- The spelling of one character of a string. -/
def escaped (c : Char) : List Char :=
  match c with
  | '"' => ['\\', '"']
  | '\\' => ['\\', '\\']
  | '\x08' => ['\\', 'b']
  | '\t' => ['\\', 't']
  | '\n' => ['\\', 'n']
  | '\x0c' => ['\\', 'f']
  | '\r' => ['\\', 'r']
  | c =>
      if c.toNat < 0x20 then
        ['\\', 'u', '0', '0', hexDigit (c.toNat / 16), hexDigit (c.toNat % 16)]
      else [c]

/-- A string between its quotes. -/
def stringText (s : String) : List Char :=
  '"' :: (s.toList.flatMap escaped ++ ['"'])

mutual

/-- The characters of a value's compact text. -/
def chars : Json → List Char
  | null => ['n', 'u', 'l', 'l']
  | bool true => ['t', 'r', 'u', 'e']
  | bool false => ['f', 'a', 'l', 's', 'e']
  | int n => Decimal.integerText n
  | float x => if x.isFinite then x.text else ['n', 'u', 'l', 'l']
  | string s => stringText s
  | array elements => '[' :: (elementChars elements ++ [']'])
  | object members => '\x7b' :: (memberChars members ++ ['\x7d'])

/-- The elements of an array, with commas between them. -/
def elementChars : List Json → List Char
  | [] => []
  | [v] => chars v
  | v :: rest => chars v ++ ',' :: elementChars rest

/-- The members of an object, with commas between them. -/
def memberChars : List (String × Json) → List Char
  | [] => []
  | [(name, v)] => stringText name ++ ':' :: chars v
  | (name, v) :: rest => stringText name ++ ':' :: (chars v ++ ',' :: memberChars rest)

end

/-- The compact text of a value. -/
def text (v : Json) : String := String.ofList v.chars

/-- The compact text of a record, whose members keep the order they are given in. -/
def recordText (members : List (String × Json)) : String :=
  String.ofList ('\x7b' :: (memberChars members ++ ['\x7d']))

end Conduit.Json
