import Conduit.Text.Digits

/-! # Flat YAML documents

The entries of a YAML document that is one mapping, in block style or in flow style.
Values are scalars, of which it matters whether they are plain or quoted, or nested
collections, which are only checked for their grammar where they are in flow style.
Anchors, tags, aliases and block scalars are not understood.
-/

namespace Conduit.Yaml

open Text (codePoint?)

/-- The value of an entry. -/
inductive Setting where
  | plain (text : String)
  | quoted (text : String)
  | nested
  deriving DecidableEq, Repr

/-- The entries of a document in order. -/
abbrev Entries := List (String × Setting)

/-! ## Characters and lines -/

/-- Whether a character may stand in a document. -/
def isPermitted (c : Char) : Bool :=
  let n := c.toNat
  n == 9 || n == 10 || n == 13 || (0x20 ≤ n && n ≤ 0x7E) || n == 0x85 ||
    (0xA0 ≤ n && n ≤ 0xFFFD && n != 0xFEFF) || 0x10000 ≤ n

/-- Blanks inside a line. -/
def isBlank (c : Char) : Bool := c == ' ' || c == '\t'

/-- The characters with every line break as a line feed. -/
def normalize : List Char → List Char
  | [] => []
  | '\r' :: '\n' :: rest => '\n' :: normalize rest
  | '\r' :: rest => '\n' :: normalize rest
  | c :: rest => c :: normalize rest

/-- The lines of a text. -/
def splitLines (cs : List Char) : List (List Char) := cs.splitOn '\n'

/-- The lines as one text again. -/
def joinLines (lines : List (List Char)) : List Char := (lines.intersperse ['\n']).flatten

/-- Without the blanks at both ends. -/
def strip (cs : List Char) : List Char :=
  ((cs.dropWhile isBlank).reverse.dropWhile isBlank).reverse

/-- Whether a line holds nothing but spaces and a comment. A tab may not stand where a
line could begin something. -/
def isIdle (line : List Char) : Bool :=
  match line.dropWhile (· == ' ') with
  | [] => true
  | c :: _ => c == '#'

/-- Whether what follows a colon leaves the value to the next lines. -/
def isBare (value : List Char) : Bool := isIdle (value.dropWhile isBlank)

/-- The blanks that a line is indented by. -/
def indentOf (line : List Char) : Nat := (line.takeWhile (· == ' ')).length

/-! ## Quoted scalars -/

/-- A line break inside quotes, with the blanks around it: one break is a blank, and
of several all but the first are kept. -/
def fold (before rest : List Char) : List Char × List Char :=
  let kept := (before.dropWhile isBlank)
  let gap := rest.takeWhile fun c => isBlank c || c == '\n'
  let breaks := gap.count '\n'
  (List.replicate breaks '\n' ++ (if breaks = 0 then [' '] else []) ++ kept,
    rest.dropWhile fun c => isBlank c || c == '\n')

/-- The rest of a single-quoted scalar; `held` is what has been read, backwards. -/
def singleQuoted (bound : Nat) (held cs : List Char) : Option (List Char × List Char) :=
  match bound, cs with
  | bound + 1, '\'' :: '\'' :: rest => singleQuoted bound ('\'' :: held) rest
  | _ + 1, '\'' :: rest => some (held.reverse, rest)
  | bound + 1, '\n' :: rest =>
      let (held, rest) := fold held rest
      singleQuoted bound held rest
  | bound + 1, c :: rest => singleQuoted bound (c :: held) rest
  | _, _ => none

/-- The characters of the short escapes. -/
def shortEscapes : List (Char × Char) :=
  [('0', '\x00'), ('a', '\x07'), ('b', '\x08'), ('t', '\t'), ('\t', '\t'), ('n', '\n'),
    ('v', '\x0b'), ('f', '\x0c'), ('r', '\r'), ('e', '\x1b'), (' ', ' '), ('"', '"'), ('/', '/'),
    ('\\', '\\'), ('N', '\u0085'), ('_', '\u00a0'), ('L', '\u2028'), ('P', '\u2029')]

/-- The character of an escape after its backslash. -/
def escape? (cs : List Char) : Option (Char × List Char) :=
  match cs with
  | 'x' :: rest => codePoint? 2 rest
  | 'u' :: rest => codePoint? 4 rest
  | 'U' :: rest => codePoint? 8 rest
  | c :: rest => (shortEscapes.lookup c).map fun d => (d, rest)
  | [] => none

/-- The rest of a double-quoted scalar; `held` is what has been read, backwards. -/
def doubleQuoted (bound : Nat) (held cs : List Char) : Option (List Char × List Char) :=
  match bound, cs with
  | _ + 1, '"' :: rest => some (held.reverse, rest)
  | bound + 1, '\\' :: '\n' :: rest => doubleQuoted bound held (rest.dropWhile isBlank)
  | bound + 1, '\\' :: rest =>
      match escape? rest with
      | some (c, rest) => doubleQuoted bound (c :: held) rest
      | none => none
  | bound + 1, '\n' :: rest =>
      let (held, rest) := fold held rest
      doubleQuoted bound held rest
  | bound + 1, c :: rest => doubleQuoted bound (c :: held) rest
  | _, _ => none

/-- A quoted scalar, if a quote leads. -/
def quotedScalar? (cs : List Char) : Option (List Char × List Char) :=
  match cs with
  | '\'' :: rest => singleQuoted (rest.length + 1) [] rest
  | '"' :: rest => doubleQuoted (rest.length + 1) [] rest
  | _ => none

/-- Whether a quote leads. -/
def isQuote (c : Char) : Bool := c == '\'' || c == '"'

/-! ## Plain scalars -/

/-- Whether a plain scalar may begin with `c` when `next` follows it. -/
def mayBegin (c : Char) (next : Option Char) : Bool :=
  if c == '-' || c == '?' || c == ':' then next.any fun d => !(isBlank d || d == '\n')
  else !(isBlank c || "#,[]\x7b\x7d&*!|>'\"%@`".toList.contains c)

/-- Whether a colon that `next` follows ends a key. -/
def endsKey (next : Option Char) : Bool := next.all fun d => isBlank d || d == '\n'

/-- The plain text in front of a line, up to a comment or a colon that ends a key;
`last` is the character before. -/
def plainRun (last : Char) : List Char → List Char × List Char
  | [] => ([], [])
  | c :: rest =>
      if c == '#' && isBlank last then ([], c :: rest)
      else if c == ':' && endsKey rest.head? then ([], c :: rest)
      else
        let (run, after) := plainRun c rest
        (c :: run, after)

/-- A plain scalar in front of a line, and whether a comment ends it. -/
def plainLine? (line : List Char) : Option (List Char × Bool) :=
  let (run, rest) := plainRun ' ' line
  match rest with
  | [] => some (strip run, false)
  | c :: _ => if c == '#' then some (strip run, true) else none

/-- A plain scalar goes on over lines: a line break is a blank, and of several all but
the first are kept, `gap` of them so far. Nothing follows a comment. -/
def plainLines? (text : List Char) (gap : Nat) : List (List Char) → Option (List Char)
  | [] => some text
  | line :: rest =>
      if line.all (· == ' ') then plainLines? text (gap + 1) rest
      else if isIdle line then if rest.all isIdle then some text else none
      else do
        let (run, isEnded) ← plainLine? line
        let text := text ++ (if gap = 0 then [' '] else List.replicate gap '\n') ++ run
        if isEnded then if rest.all isIdle then some text else none
        else plainLines? text 0 rest

/-- A plain scalar that begins on a line and may go on over the lines that follow. -/
def plainScalar? (line : List Char) (more : List (List Char)) : Option (List Char) := do
  let (run, isEnded) ← plainLine? line
  if isEnded then if more.all isIdle then some run else none
  else plainLines? run 0 more

/-! ## Flow style -/

/-- Passes over blanks, line breaks and comments. -/
def skipIdle (bound : Nat) (cs : List Char) : List Char :=
  match bound, cs with
  | bound + 1, c :: rest =>
      if isBlank c || c == '\n' then skipIdle bound rest
      else if c == '#' then skipIdle bound (rest.dropWhile (· != '\n'))
      else c :: rest
  | _, cs => cs

/-- What follows blanks, line breaks and comments. -/
def skip (cs : List Char) : List Char := skipIdle cs.length cs

/-- The characters that end a plain scalar in flow style. -/
def isFlowMark (c : Char) : Bool := ",[]\x7b\x7d".toList.contains c

/-- The plain text in front of flow text; `last` is the character before. A colon in it
may not touch a mark. -/
def flowRun? (last : Char) : List Char → Option (List Char × List Char)
  | [] => some ([], [])
  | c :: rest =>
      if c == ':' && rest.head?.any (fun d => isFlowMark d || d == '?') then none
      else if isFlowMark c || c == '\n' || (c == '#' && isBlank last) ||
          (c == ':' && endsKey rest.head?) then
        some ([], c :: rest)
      else (flowRun? c rest).map fun (run, after) => (c :: run, after)

/-- A scalar in flow style. -/
def flowScalar? (cs : List Char) : Option (Setting × List Char) :=
  match cs with
  | [] => none
  | c :: rest =>
      if isQuote c then
        (quotedScalar? cs).map fun (text, rest) => (.quoted (String.ofList text), rest)
      else if mayBegin c rest.head? then
        (flowRun? ' ' cs).map fun (run, rest) => (.plain (String.ofList (strip run)), rest)
      else none

/-- What is between a value and the next entry: a comma, or the closing mark, which
stays in front. -/
def flowNext? (close : Char) (cs : List Char) : Option (List Char) :=
  match skip cs with
  | ',' :: rest => some (skip rest)
  | c :: rest => if c == close then some (c :: rest) else none
  | [] => none

/-- The text of a scalar. -/
def Setting.text? : Setting → Option String
  | plain text => some text
  | quoted text => some text
  | nested => none

mutual

/-- A value in flow style; none stands for a plain empty scalar. -/
def flowValue? (bound : Nat) (cs : List Char) : Option (Setting × List Char) :=
  match bound, skip cs with
  | 0, _ => none
  | bound + 1, '[' :: rest => (flowElements? bound (skip rest)).map (Setting.nested, ·)
  | bound + 1, '\x7b' :: rest =>
      (flowEntries? bound [] (skip rest)).map fun (_, rest) => (.nested, rest)
  | _ + 1, c :: rest =>
      if c == ',' || c == ']' || c == '\x7d' then some (.plain "", c :: rest)
      else flowScalar? (c :: rest)
  | _ + 1, [] => none

/-- The elements of a sequence in flow style, after its opening bracket. -/
def flowElements? (bound : Nat) (cs : List Char) : Option (List Char) :=
  match bound, cs with
  | 0, _ => none
  | _ + 1, ']' :: rest => some rest
  | bound + 1, cs => do
      if cs.head? == some ',' then none
      let (_, rest) ← flowValue? bound cs
      let rest ← match skip rest with
        | ':' :: rest => (flowValue? bound rest).map Prod.snd
        | rest => some rest
      flowElements? bound (← flowNext? ']' rest)

/-- The entries of a mapping in flow style, after its opening brace. -/
def flowEntries? (bound : Nat) (held : Entries) (cs : List Char) : Option (Entries × List Char) :=
  match bound, cs with
  | 0, _ => none
  | _ + 1, '\x7d' :: rest => some (held.reverse, rest)
  | bound + 1, cs => do
      if cs.head? == some ',' then none
      let (key, rest) ← flowValue? bound cs
      let key ← key.text?
      let (value, rest) ← match skip rest with
        | ':' :: rest => flowValue? bound rest
        | rest => some (.plain "", rest)
      flowEntries? bound ((key, value) :: held) (← flowNext? '\x7d' rest)

end

/-- Whether nothing but blanks and comments is left. -/
def isOver (cs : List Char) : Bool := (skip cs).isEmpty

/-- The entries of a mapping in flow style that makes up a whole text. -/
def flowDocument? (cs : List Char) : Option Entries := do
  let (entries, rest) ← flowEntries? (cs.length + 1) [] (skip cs)
  if isOver rest then return entries else none

/-! ## Block style -/

/-- Whether a line without its indentation begins an element of a sequence. -/
def isElement (line : List Char) : Bool :=
  match line with
  | '-' :: rest => endsKey rest.head?
  | _ => false

/-- The key in front of a line without its indentation, and what follows the colon. -/
def key? (line : List Char) : Option (String × List Char) :=
  match line with
  | [] => none
  | c :: rest =>
      if isQuote c then do
        let (text, after) ← quotedScalar? line
        match after.dropWhile isBlank with
        | ':' :: value => if endsKey value.head? then some (String.ofList text, value) else none
        | _ => none
      else if mayBegin c rest.head? then
        match plainRun ' ' line with
        | (run, ':' :: value) => some (String.ofList (strip run), value)
        | _ => none
      else none

/-- The value on the line of its key and on the lines that belong to it. -/
def blockValue? (line : List Char) (more : List (List Char)) : Option Setting :=
  let line := line.dropWhile isBlank
  let whole := joinLines (line :: more)
  match line with
  | [] => none
  | c :: rest =>
      if isQuote c then do
        let (text, rest) ← quotedScalar? whole
        if isOver rest then return .quoted (String.ofList text) else none
      else if c == '[' || c == '\x7b' then do
        let (setting, rest) ← flowValue? (whole.length + 1) whole
        if isOver rest then return setting else none
      else if mayBegin c rest.head? then
        (plainScalar? line more).map fun text => .plain (String.ofList text)
      else none

/-- The value of an entry: what follows the colon, and the lines that belong to it. -/
def entryValue? (first : List Char) (more : List (List Char)) : Option Setting :=
  if isBare first then
    match more.dropWhile isIdle with
    | [] => some (.plain "")
    | line :: rest =>
        let body := line.dropWhile isBlank
        if isElement body || (key? body).isSome then some .nested else blockValue? line rest
  else blockValue? first more

/-- Whether a line belongs to the value of an entry at this indentation. -/
def belongs (indent : Nat) (bare : Bool) (line : List Char) : Bool :=
  isIdle line || indent < indentOf line ||
    (bare && indentOf line == indent && isElement (line.drop indent))

/-- The entries of a mapping in block style, whose keys have this indentation. -/
def blockEntries? (indent : Nat) : (bound : Nat) → List (List Char) → Option Entries
  | 0, _ => none
  | bound + 1, lines =>
      match lines.dropWhile isIdle with
      | [] => some []
      | line :: rest =>
          if indentOf line != indent then none
          else do
            let (key, value) ← key? (line.drop indent)
            let mine := belongs indent (isBare value)
            let value ← entryValue? value (rest.takeWhile mine)
            let entries ← blockEntries? indent bound (rest.dropWhile mine)
            return (key, value) :: entries

/-! ## Documents -/

/-- Whether a line is one of the marks at the edges of a document. -/
def isMark (mark : String) (line : List Char) : Bool :=
  line.take 3 == mark.toList && endsKey (line.drop 3).head?

/-- The lines of the only document. The first of them is the one that an opening mark
begins, without the mark; it is empty where there is no such mark. -/
def body? (lines : List (List Char)) : Option (List Char × List (List Char)) :=
  let lines := lines.dropWhile isIdle
  let (first, lines) := match lines with
    | line :: rest => if isMark "---" line then (line.drop 3, rest) else ([], lines)
    | [] => ([], [])
  let inside (line : List Char) : Bool := !(isMark "---" line || isMark "..." line)
  match lines.dropWhile inside with
  | [] => some (first, lines)
  | mark :: after =>
      if isMark "..." mark && after.all isIdle then some (first, lines.takeWhile inside) else none

/-- The entries that begin at a line. Block style cannot begin behind an opening mark. -/
def entriesFrom? (isMarked : Bool) (line : List Char) (rest : List (List Char)) : Option Entries :=
  match line.dropWhile isBlank with
  | '\x7b' :: first => flowDocument? (joinLines (first :: rest))
  | _ =>
      if isMarked then none else blockEntries? (indentOf line) (rest.length + 2) (line :: rest)

/-- The entries of a document; an empty document has none. -/
def entries? (text : String) : Option Entries := do
  let cs := text.toList
  let cs := if cs.head? == some '\ufeff' then cs.tail else cs
  if !cs.all isPermitted then none
  let (first, lines) ← body? (splitLines (normalize cs))
  if !isBare first then entriesFrom? true first lines
  else
    match lines.dropWhile isIdle with
    | [] => some []
    | line :: rest => entriesFrom? false line rest

end Conduit.Yaml
