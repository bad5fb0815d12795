import Conduit.Text.Digits

/-! # TOML documents

The tables of a TOML document, of whose values it matters whether they are strings,
integers of sixty-four bits, or anything else. A name may be defined once: a second
definition, of a value or of a table, is refused together with the document.
-/

namespace Conduit.Toml

open Text (codePoint? digit? number?)

/-- How a table came to be. -/
inductive Origin where
  /-- By a header of its own. -/
  | header
  /-- By the header of a table inside it. -/
  | implied
  /-- By a dotted key. -/
  | dotted
  /-- By a value in braces, which is complete. -/
  | braces
  deriving DecidableEq, Repr

/-- A value. -/
inductive Node where
  | string (text : String)
  | integer (n : Int)
  | other
  | table (origin : Origin) (members : List (String × Node))
  /-- A list of tables made by headers; only the last one can still grow. -/
  | tables (last : List (String × Node))

/-- The members of a table. -/
abbrev Members := List (String × Node)

/-! ## Tables -/

/-- Changes the member of a name, or adds it; `f` may refuse. -/
def update (name : String) (f : Option Node → Option Node) : Members → Option Members
  | [] => (f none).map fun node => [(name, node)]
  | (other, node) :: rest =>
      if other = name then (f (some node)).map fun node => (other, node) :: rest
      else (update name f rest).map ((other, node) :: ·)

/-- Changes the table that headers lead to, and makes those that are not there. -/
def descend (f : Members → Option Members) : List String → Members → Option Members
  | [], members => f members
  | name :: path, members =>
      members |> update name fun
        | none => (descend f path []).map (.table .implied)
        | some (.table origin inner) =>
            if origin = .braces then none else (descend f path inner).map (.table origin)
        | some (.tables last) => (descend f path last).map .tables
        | some _ => none

/-- Makes the table of a header. -/
def openTable (path : List String) (name : String) : Members → Option Members :=
  path |> descend (update name fun
    | none => some (.table .header [])
    | some (.table .implied inner) => some (.table .header inner)
    | some _ => none)

/-- Makes one more table of a list. -/
def openElement (path : List String) (name : String) : Members → Option Members :=
  path |> descend (update name fun
    | none => some (.tables [])
    | some (.tables _) => some (.tables [])
    | some _ => none)

/-- Defines a value under a dotted key. -/
def define (node : Node) : (path : List String) → (name : String) → Members → Option Members
  | [], name => update name fun
      | none => some node
      | some _ => none
  | head :: path, name => update head fun
      | none => (define node path name []).map (.table .dotted)
      | some (.table .dotted inner) => (define node path name inner).map (.table .dotted)
      | some _ => none

/-! ## Characters -/

/-- A reader of the front of a text. -/
abbrev Reader (α : Type) := StateT (List Char) Option α

/-- Blanks inside a line. -/
def isBlank (c : Char) : Bool := c == ' ' || c == '\t'

/-- Whether a character may stand in strings and comments. -/
def isPermitted (c : Char) : Bool := c == '\t' || (0x20 ≤ c.toNat && c.toNat != 0x7f)

/-- The text in front, up to what does not satisfy `p`. -/
def run (p : Char → Bool) : Reader (List Char) := fun cs => some (cs.takeWhile p, cs.dropWhile p)

/-- Passes over blanks. -/
def blanks : Reader Unit := fun cs => some ((), cs.dropWhile isBlank)

/-- The next character, which stays in front. -/
def peek : Reader (Option Char) := fun cs => some (cs.head?, cs)

/-- Takes exactly this text. -/
def token (text : String) : Reader Unit := fun cs =>
  if cs.take text.length == text.toList then some ((), cs.drop text.length) else none

/-- Passes over a comment, if one begins. -/
def comment : Reader Unit := fun cs =>
  match cs with
  | '#' :: rest =>
      let after := rest.dropWhile isPermitted
      match after with
      | [] => some ((), [])
      | '\n' :: _ => some ((), after)
      | '\r' :: '\n' :: _ => some ((), after)
      | _ => none
  | _ => some ((), cs)

/-- Takes the end of a line or of the document, after blanks and a comment. -/
def lineEnd : Reader Unit := do
  blanks
  comment
  fun cs =>
    match cs with
    | [] => some ((), [])
    | '\n' :: rest => some ((), rest)
    | '\r' :: '\n' :: rest => some ((), rest)
    | _ => none

/-- Passes over blanks, comments and line breaks. -/
def gaps : (bound : Nat) → Reader Unit
  | 0 => none
  | bound + 1 => do
      blanks
      comment
      match ← peek with
      | some '\n' => token "\n"; gaps bound
      | some '\r' => token "\r\n"; gaps bound
      | _ => return ()

/-! ## Strings -/

/-- The character of an escape after its backslash. -/
def escape? (cs : List Char) : Option (Char × List Char) :=
  match cs with
  | 'b' :: rest => some ('\x08', rest)
  | 't' :: rest => some ('\t', rest)
  | 'n' :: rest => some ('\n', rest)
  | 'f' :: rest => some ('\x0c', rest)
  | 'r' :: rest => some ('\r', rest)
  | '"' :: rest => some ('"', rest)
  | '\\' :: rest => some ('\\', rest)
  | 'u' :: rest => codePoint? 4 rest
  | 'U' :: rest => codePoint? 8 rest
  | _ => none

/-- Whether a backslash hides the end of its line and the blanks after it. -/
def hidesBreak (cs : List Char) : Bool :=
  match cs.dropWhile isBlank with
  | '\n' :: _ => true
  | '\r' :: '\n' :: _ => true
  | _ => false

/-- The rest of a string on one line; `held` is what has been read, backwards. -/
def lineString (escapes : Bool) (close : Char) : (bound : Nat) → (held cs : List Char) →
    Option (String × List Char)
  | 0, _, _ => none
  | _ + 1, _, [] => none
  | bound + 1, held, c :: rest =>
      if c = close then some (String.ofList held.reverse, rest)
      else if c = '\\' ∧ escapes then
        match escape? rest with
        | some (d, rest) => lineString escapes close bound (d :: held) rest
        | none => none
      else if isPermitted c then lineString escapes close bound (c :: held) rest
      else none

/-- The rest of a string on several lines, which three closing marks end; up to two
more of them belong to the string. -/
def longString (escapes : Bool) (close : Char) : (bound : Nat) → (held cs : List Char) →
    Option (String × List Char)
  | 0, _, _ => none
  | _ + 1, _, [] => none
  | bound + 1, held, c :: rest =>
      let marks := ((c :: rest).takeWhile (· == close)).length
      if 3 ≤ marks then
        let own := min (marks - 3) 2
        some (String.ofList (held.reverse ++ List.replicate own close), (c :: rest).drop (own + 3))
      else if c = '\\' ∧ escapes then
        if hidesBreak rest then
          longString escapes close bound held
            (rest.dropWhile fun d => isBlank d || d == '\n' || d == '\r')
        else
          match escape? rest with
          | some (d, rest) => longString escapes close bound (d :: held) rest
          | none => none
      else if c = '\r' ∧ rest.head? = some '\n' then
        longString escapes close bound ('\n' :: held) rest.tail
      else if isPermitted c ∨ c = '\n' then longString escapes close bound (c :: held) rest
      else none

/-- Without the line break in front. -/
def dropBreak : List Char → List Char
  | '\n' :: rest => rest
  | '\r' :: '\n' :: rest => rest
  | cs => cs

/-- A string on one line. -/
def shortStringValue : Reader String := fun cs =>
  match cs with
  | '"' :: rest => lineString true '"' (rest.length + 1) [] rest
  | '\'' :: rest => lineString false '\'' (rest.length + 1) [] rest
  | _ => none

/-- A string. -/
def stringValue : Reader String := fun cs =>
  match cs with
  | '"' :: '"' :: '"' :: rest =>
      let rest := dropBreak rest
      longString true '"' (rest.length + 1) [] rest
  | '\'' :: '\'' :: '\'' :: rest =>
      let rest := dropBreak rest
      longString false '\'' (rest.length + 1) [] rest
  | cs => shortStringValue cs

/-! ## Numbers and other words -/

/-- The digits of a numeral without the underscores between them; each underscore
stands between two digits. -/
def plainDigits? (base : Nat) (cs : List Char) : Option (List Char) :=
  let ds := cs.filter (· != '_')
  let apart := cs.zip cs.tail |>.all fun (c, d) => !(c == '_' && d == '_')
  if ds.all (fun c => (digit? base c).isSome) && apart && cs.head? != some '_' &&
      cs.getLast? != some '_' then
    some ds
  else none

/-- The number that digits and underscores to a base stand for. -/
def magnitude? (base : Nat) (cs : List Char) : Option Int := do
  return (← number? base (← plainDigits? base cs) : Nat)

/-- The size of a decimal numeral, which does not begin with a needless zero. -/
def decimal? (cs : List Char) : Option Int :=
  if cs.head? = some '0' ∧ 1 < cs.length then none else magnitude? 10 cs

/-- An integer. -/
def integer? (word : List Char) : Option Int :=
  match word with
  | '0' :: 'x' :: ds => magnitude? 16 ds
  | '0' :: 'o' :: ds => magnitude? 8 ds
  | '0' :: 'b' :: ds => magnitude? 2 ds
  | '+' :: ds => decimal? ds
  | '-' :: ds => (decimal? ds).map fun n => -n
  | ds => decimal? ds

/-- Without a sign in front. -/
def unsigned : List Char → List Char
  | '+' :: rest => rest
  | '-' :: rest => rest
  | cs => cs

/-- Whether a word is a number with a fraction or an exponent. -/
def isFloat (word : List Char) : Bool :=
  let body := unsigned word
  let isPower (c : Char) : Bool := c == 'e' || c == 'E'
  let mantissa := body.takeWhile (!isPower ·)
  let whole := mantissa.takeWhile (· != '.')
  let fraction := mantissa.drop whole.length
  let power := body.drop mantissa.length
  let fractionFits := fraction.isEmpty || (magnitude? 10 fraction.tail).isSome
  let powerFits := power.isEmpty || (magnitude? 10 (unsigned power.tail)).isSome
  ["inf", "nan"].any (·.toList == body) ||
    ((decimal? whole).isSome && fractionFits && powerFits && !(fraction.isEmpty && power.isEmpty))

/-- Whether a word is a date or a time, as far as its first characters tell. -/
def isMoment (word : List Char) : Bool :=
  let shape := word.map fun c => if c.isDigit then '0' else c
  let hour := "00:00:00".toList
  shape.take 8 == hour || (shape.take 10 == "0000-00-00".toList &&
    (shape.length == 10 || ["T", "t", " "].any fun mark =>
      (shape.drop 10).take 9 == mark.toList ++ hour))

/-- The characters of words. -/
def isWordChar (c : Char) : Bool :=
  c.isAlphanum || c == '_' || c == '+' || c == '-' || c == '.' || c == ':'

/-- A date may have its time after a blank. -/
def wordWithTime (word rest : List Char) : List Char × List Char :=
  match rest with
  | ' ' :: d :: _ =>
      if word.length = 10 ∧ isMoment word ∧ d.isDigit then
        (word ++ ' ' :: rest.tail.takeWhile isWordChar, rest.tail.dropWhile isWordChar)
      else (word, rest)
  | _ => (word, rest)

/-- A value that is a word: a number, a truth value, a date or a time. -/
def wordValue : Reader Node := fun cs =>
  let (word, rest) := wordWithTime (cs.takeWhile isWordChar) (cs.dropWhile isWordChar)
  match integer? word with
  | some n =>
      if -0x8000000000000000 ≤ n ∧ n < 0x8000000000000000 then some (.integer n, rest) else none
  | none =>
      if ["true", "false"].any (·.toList == word) || isFloat word || isMoment word then
        some (.other, rest)
      else none

/-! ## Keys and values -/

/-- The characters of keys without quotes. -/
def isKeyChar (c : Char) : Bool := c.isAlphanum || c == '_' || c == '-'

/-- One part of a key. -/
def keyPart : Reader String := do
  match ← peek with
  | some '"' => shortStringValue
  | some '\'' => shortStringValue
  | _ =>
      let cs ← run isKeyChar
      if cs.isEmpty then none else return String.ofList cs

/-- A key: the parts before the last one, and the last one. -/
def key : (bound : Nat) → Reader (List String × String)
  | 0 => none
  | bound + 1 => do
      blanks
      let part ← keyPart
      blanks
      if (← peek) == some '.' then
        token "."
        let (path, last) ← key bound
        return (part :: path, last)
      else return ([], part)

mutual

/-- A value. -/
def value : (bound : Nat) → Reader Node
  | 0 => none
  | bound + 1 => do
      match ← peek with
      | some '"' => return .string (← stringValue)
      | some '\'' => return .string (← stringValue)
      | some '[' =>
          token "["
          elements bound
          return .other
      | some '\x7b' =>
          token "\x7b"
          blanks
          if (← peek) == some '\x7d' then
            token "\x7d"
            return .table .braces []
          else return .table .braces (← entries bound [])
      | _ => wordValue

/-- The elements of an array, after its opening bracket. -/
def elements : (bound : Nat) → Reader Unit
  | 0 => none
  | bound + 1 => do
      gaps ((← get).length + 1)
      if (← peek) == some ']' then token "]"
      else
        let _ ← value bound
        gaps ((← get).length + 1)
        match ← peek with
        | some ',' => token ","; elements bound
        | _ => token "]"

/-- The entries of a table in braces, after its opening brace. -/
def entries : (bound : Nat) → Members → Reader Members
  | 0, _ => none
  | bound + 1, members => do
      let (path, name) ← key ((← get).length + 1)
      token "="
      blanks
      let node ← value bound
      let members ← (define node path name members : Option Members)
      blanks
      match ← peek with
      | some ',' => token ","; entries bound members
      | _ =>
          token "\x7d"
          return members

end

/-! ## Documents -/

/-- A header: whether it makes one more table of a list, the path and the name. -/
def header : Reader (Bool × List String × String) := do
  token "["
  let isElement := (← peek) == some '['
  if isElement then token "["
  let (path, name) ← key ((← get).length + 1)
  token "]"
  if isElement then token "]"
  return (isElement, path, name)

/-- The expressions of a document from here on, under the header `place`. -/
def expressions : (bound : Nat) → (place : List String) → Members → Reader Members
  | 0, _, _ => none
  | bound + 1, place, members => do
      gaps ((← get).length + 1)
      match ← peek with
      | none => return members
      | some '[' =>
          let (isElement, path, name) ← header
          lineEnd
          let members ←
            ((if isElement then openElement else openTable) path name members : Option Members)
          expressions bound (path ++ [name]) members
      | some _ =>
          let (path, name) ← key ((← get).length + 1)
          token "="
          blanks
          let node ← value ((← get).length + 1)
          lineEnd
          let members ← (descend (define node path name) place members : Option Members)
          expressions bound place members

/-- The outermost table of a document. -/
def members? (text : String) : Option Members := do
  let cs := text.toList
  let cs := if cs.head? == some '\ufeff' then cs.tail else cs
  let (members, _) ← (expressions (cs.length + 1) [] []).run cs
  return members

end Conduit.Toml
