import Conduit.Config.Environment

/-! # Settings from a file

A file of settings is a TOML document or a YAML document, as its path tells. How a document is
parsed is up to the parsers of these formats, and how a file is read is up to the system: both
are parameters here. What they give must be valid settings.
-/

namespace Conduit

/-- The formats of settings. -/
inductive ConfigFormat where
  | yaml
  | toml
  deriving DecidableEq, Repr

namespace ConfigFormat

/-- The name of the format. -/
def name : ConfigFormat → String
  | yaml => "YAML"
  | toml => "TOML"

/-- What follows the last dot of the last part of a path, where something stands
before that dot. -/
def extension? (path : List Char) : Option (List Char) :=
  let backwards := path.reverse.dropWhile (· == '/') |>.takeWhile (· != '/')
  let ending := backwards.takeWhile (· != '.')
  match backwards.drop ending.length with
  | _ :: _ :: _ => some ending.reverse
  | _ => none

/-- The format of the file at a path: TOML by its extension in any case, and YAML for
all else. -/
def ofPath (path : String) : ConfigFormat :=
  if (extension? path.toList).any fun ending => ending.map Char.toLower == "toml".toList then toml
  else yaml

end ConfigFormat

/-- The parsers of documents: the settings that a text of a format gives, or what is wrong with
the text. -/
abbrev ConfigParser := (format : ConfigFormat) → (text : String) → Except String WorkerConfig

namespace WorkerConfig

/-- The settings of the file at a path, which must be valid. Reading the file has given its text,
or the reason why it cannot be read. -/
def load (parse : ConfigParser) (path : String) (reading : Except String String) :
    Except ConfigFault WorkerConfig := do
  let text ← reading.mapError (.unreadable path)
  let format := ConfigFormat.ofPath path
  let config ← (parse format text).mapError (.unparsable format.name)
  config.validate
  return config

/-- The settings of a file with the variables taken over; they must be valid both
before and after. -/
def loadWithEnvironment (parse : ConfigParser) (path : String) (reading : Except String String)
    (env : Environment) : Except ConfigFault WorkerConfig := do
  (← load parse path reading).withEnvironment env

end WorkerConfig

end Conduit
