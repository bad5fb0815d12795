import Conduit.Json.Fault
import Conduit.Json.Number
import Conduit.Text.Digits

/-! # Reading JSON text

A reader takes a value from the front of a text, from left to right, and reports
the first fault it meets. Readers of nested values spend one unit of a budget for
every array or object they enter.
-/

namespace Conduit.Json

/-- A reader: from a text to a value and the text behind it, or a fault. -/
abbrev Reader := StateT (List Char) (Except Fault)

/-- The arrays and objects that a text may nest. -/
def nestingLimit : Nat := 127

namespace Reader

variable {α σ : Type}

/-- The blanks between tokens. -/
def isSpace (c : Char) : Bool := c == ' ' || c == '\n' || c == '\t' || c == '\r'

/-- The text breaks the grammar. -/
def malformed : Reader α := throw .malformed

/-- The next character that is no blank, which stays in front. -/
def peek : Reader (Option Char) := fun cs =>
  let rest := cs.dropWhile isSpace
  .ok (rest.head?, rest)

/-- Takes the next character that is no blank. -/
def next : Reader (Option Char) := fun cs =>
  match cs.dropWhile isSpace with
  | [] => .ok (none, [])
  | c :: rest => .ok (some c, rest)

/-- Takes the next character, which must be this one. -/
def token (c : Char) : Reader Unit := do
  if (← next) == some c then pure () else malformed

/-- Takes exactly these characters. -/
def word : List Char → Reader Unit
  | [] => pure ()
  | c :: cs => fun text =>
      match text with
      | d :: rest => if c = d then word cs rest else .error .malformed
      | [] => .error .malformed

/-- A part of a string as written: a character, or a code unit given by its
number. -/
inductive Piece where
  | char (c : Char)
  | unit (n : Nat)

/-- The code unit that four hexadecimal digits give. -/
def unit? (a b c d : Char) : Option Nat := do
  return (((← Text.hexValue? a) * 16 + (← Text.hexValue? b)) * 16 + (← Text.hexValue? c)) * 16 +
    (← Text.hexValue? d)

/-- The character that a short escape stands for. -/
def shortEscape? : Char → Option Char
  | '"' => some '"'
  | '\\' => some '\\'
  | '/' => some '/'
  | 'b' => some '\x08'
  | 'f' => some '\x0c'
  | 'n' => some '\n'
  | 'r' => some '\r'
  | 't' => some '\t'
  | _ => none

/-- The pieces of a string up to its closing quote, and the text behind it. -/
def pieces? : List Char → Option (List Piece × List Char)
  | [] => none
  | '"' :: rest => some ([], rest)
  | '\\' :: 'u' :: a :: b :: c :: d :: rest => do
      let n ← unit? a b c d
      let (tail, after) ← pieces? rest
      return (.unit n :: tail, after)
  | '\\' :: e :: rest => do
      let c ← shortEscape? e
      let (tail, after) ← pieces? rest
      return (.char c :: tail, after)
  | c :: rest =>
      if c.toNat < 0x20 then none
      else do
        let (tail, after) ← pieces? rest
        return (.char c :: tail, after)

/-- The characters of a string. A code unit above the basic plane is given by two
surrogates in a row; a surrogate on its own is no character. -/
def join? : List Piece → Option (List Char)
  | [] => some []
  | .char c :: rest => (join? rest).map (c :: ·)
  | .unit n :: rest =>
      if 0xDC00 ≤ n ∧ n ≤ 0xDFFF then none
      else if 0xD800 ≤ n ∧ n ≤ 0xDBFF then
        match rest with
        | .unit low :: rest =>
            if 0xDC00 ≤ low ∧ low ≤ 0xDFFF then
              (join? rest).map
                (Char.ofNat ((n - 0xD800) * 0x400 + (low - 0xDC00) + 0x10000) :: ·)
            else none
        | _ => none
      else (join? rest).map (Char.ofNat n :: ·)

/-- A string after its opening quote. -/
def stringBody : Reader String := fun cs =>
  match pieces? cs with
  | none => .error .malformed
  | some (ps, rest) =>
      match join? ps with
      | none => .error .malformed
      | some s => .ok (String.ofList s, rest)

/-- A number. -/
def number : Reader Json := fun cs =>
  match Numeral.read? cs with
  | none => .error .malformed
  | some (numeral, rest) =>
      match numeral.value? with
      | none => .error .malformed
      | some v => .ok (v, rest)

/-- The name of a member; a comma before the closing brace is refused here. -/
def key : Reader String := do
  token '"'
  stringBody

/-- The elements of an array from the first one on, to the closing bracket. The
bound is on their number. -/
def moreElements (element : Reader α) : Nat → Reader (List α)
  | 0 => malformed
  | bound + 1 => do
      let v ← element
      match ← next with
      | some ',' => return v :: (← moreElements element bound)
      | some ']' => return [v]
      | _ => malformed

/-- The elements of an array after its opening bracket. -/
def elements (element : Reader α) : Reader (List α) := do
  if (← peek) == some ']' then
    token ']'
    return []
  else moreElements element (← get).length

/-- The members of an object from the first one on, to the closing brace. Each is
given to `member` by its name, with the colon still to come. -/
def moreMembers (member : String → σ → Reader σ) : Nat → σ → Reader σ
  | 0, _ => malformed
  | bound + 1, held => do
      let held ← member (← key) held
      match ← next with
      | some ',' => moreMembers member bound held
      | some '\x7d' => return held
      | _ => malformed

/-- The members of an object after its opening brace. -/
def members (member : String → σ → Reader σ) (held : σ) : Reader σ := do
  if (← peek) == some '\x7d' then
    token '\x7d'
    return held
  else moreMembers member (← get).length held

/-- A free value whose elements and members are read by `inner`; without it there
may be no array or object. -/
def valueWith (inner : Option (Reader Json)) : Reader Json := do
  match ← peek with
  | some 'n' => word ['n', 'u', 'l', 'l']; return .null
  | some 't' => word ['t', 'r', 'u', 'e']; return .bool true
  | some 'f' => word ['f', 'a', 'l', 's', 'e']; return .bool false
  | some '"' => token '"'; return .string (← stringBody)
  | some '[' =>
      match inner with
      | none => malformed
      | some inner => token '['; return .array (← elements inner)
  | some '\x7b' =>
      match inner with
      | none => malformed
      | some inner =>
          token '\x7b'
          let add (name : String) (held : List (String × Json)) :
              Reader (List (String × Json)) := do
            token ':'
            return insertMember name (← inner) held
          return .object (← members add [])
  | _ => number

/-- A free value that nests at most `budget` arrays and objects. -/
def value : (budget : Nat) → Reader Json
  | 0 => valueWith none
  | budget + 1 => valueWith (some (value budget))

/-- Passes over a string after its opening quote. -/
def skipString : Reader Unit := fun cs =>
  match pieces? cs with
  | none => .error .malformed
  | some (_, rest) => .ok ((), rest)

/-- Passes over a number, of any size. -/
def skipNumber : Reader Unit := fun cs =>
  match Numeral.read? cs with
  | none => .error .malformed
  | some (_, rest) => .ok ((), rest)

/-- Passes over a value of no interest, of which only the grammar is checked. -/
def skip : (bound : Nat) → Reader Unit
  | 0 => malformed
  | bound + 1 => do
      match ← peek with
      | some 'n' => word ['n', 'u', 'l', 'l']
      | some 't' => word ['t', 'r', 'u', 'e']
      | some 'f' => word ['f', 'a', 'l', 's', 'e']
      | some '"' => token '"'; skipString
      | some '[' =>
          token '['
          let _ ← elements (skip bound)
      | some '\x7b' =>
          token '\x7b'
          members (fun _ _ => do token ':'; skip bound) ()
      | _ => skipNumber

/-- The start of a value that is not of the expected kind: the fault shows as much
of it as a reader of free values would take in at once. -/
def unexpected (expected : String) : Reader α := do
  match ← peek with
  | some 'n' => word ['n', 'u', 'l', 'l']; throw (.invalidType .null expected)
  | some 't' => word ['t', 'r', 'u', 'e']; throw (.invalidType (.bool true) expected)
  | some 'f' => word ['f', 'a', 'l', 's', 'e']; throw (.invalidType (.bool false) expected)
  | some '"' => token '"'; throw (.invalidType (.string (← stringBody)) expected)
  | some '[' => throw (.invalidType .sequence expected)
  | some '\x7b' => throw (.invalidType .map expected)
  | _ => throw (.invalidType (← number).found expected)

/-- A truth value. -/
def boolean : Reader Bool := do
  match ← peek with
  | some 't' => word ['t', 'r', 'u', 'e']; return true
  | some 'f' => word ['f', 'a', 'l', 's', 'e']; return false
  | _ => unexpected "a boolean"

/-- A string. -/
def string : Reader String := do
  if (← peek) == some '"' then
    token '"'
    stringBody
  else unexpected "a string"

/-- A natural number below `2 ^ 64`. -/
def index : Reader Nat := do
  match ← peek with
  | some c =>
      if c.isDigit || c == '-' then
        match ← number with
        | .int n =>
            if 0 ≤ n then return n.toNat else throw (.invalidValue (.int n) "usize")
        | other => throw (.invalidType other.found "usize")
      else unexpected "usize"
  | none => malformed

/-- A value, or nothing where the text has `null`. -/
def optional (reader : Reader α) : Reader (Option α) := do
  if (← peek) == some 'n' then
    word ['n', 'u', 'l', 'l']
    return none
  else return some (← reader)

/-- A list of values. -/
def list (budget : Nat) (element : (budget : Nat) → Reader α) : Reader (List α) := do
  if (← peek) == some '[' then
    match budget with
    | 0 => malformed
    | budget + 1 =>
        token '['
        elements (element budget)
  else unexpected "a sequence"

/-- One of several names: as a string, or as the only member of an object, whose
value is then `null`. -/
def variant (names : List (String × α)) (budget : Nat) : Reader α := do
  match ← peek with
  | some '"' => token '"'; choose (← stringBody)
  | some '\x7b' =>
      match budget with
      | 0 => malformed
      | _ + 1 =>
          token '\x7b'
          if (← peek) == some '"' then
            token '"'
            let chosen ← choose (← stringBody)
            token ':'
            if (← peek) == some 'n' then word ['n', 'u', 'l', 'l'] else unexpected "unit"
            token '\x7d'
            return chosen
          else unexpected "variant identifier"
  | _ => malformed
where
  /-- The meaning of a name. -/
  choose (name : String) : Reader α :=
    match names.lookup name with
    | some chosen => return chosen
    | none => throw (.unknownVariant name (names.map Prod.fst))

end Reader

/-- The value of a whole text: nothing but blanks may follow it. -/
def Reader.run {α : Type} (reader : Reader α) (text : String) : Except Fault α := do
  let (v, rest) ← StateT.run reader text.toList
  if rest.all Reader.isSpace then return v else throw .malformed

/-- The free value of a text. -/
def ofText (text : String) : Except Fault Json := (Reader.value nestingLimit).run text

end Conduit.Json
