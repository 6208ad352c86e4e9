import BatchFlow.Configuration.Wiring
import BatchFlow.Toml.Schema
import BatchFlow.Yaml.Schema

/-! Loading configurations from files: which language a file is written in, and what it says. -/

namespace BatchFlow

/-- The language of a configuration file. -/
inductive Dialect where
  | yaml
  | toml
deriving DecidableEq

namespace Dialect

/-- The name of the file at a path. -/
def fileName? (path : String) : Option String :=
  let parts := (path.splitOn "/").filter fun part => part ≠ "" ∧ part ≠ "."
  match parts.getLast? with
  | some ".." => none
  | last => last

/-- The part of a file name after its last point. A point that starts the name does not count. -/
def extension? (name : String) : Option String :=
  match name.splitOn "." with
  | [] | [_] | ["", _] => none
  | parts => parts.getLast?

/-- Whether two characters are the same but for the case of ASCII letters. -/
def sameLetters (a b : String) : Bool :=
  a.toList.map Char.toLower == b.toList.map Char.toLower

/-- The language of the file at a path, by the extension of its name. -/
def ofPath (path : String) : Dialect :=
  match (fileName? path).bind extension? with
  | some extension => if sameLetters extension "toml" then .toml else .yaml
  | none => .yaml

end Dialect

/-- What there is at a path. -/
inductive FileContent where
  | bytes (bytes : ByteArray)
  | missing
  | directory
  /-- The path leads through something that is not a directory. -/
  | blocked
  /-- The system refuses for a reason of its own. -/
  | refused (reason : String)

namespace FileContent

/-- The text of a file, or why there is none. -/
def text : FileContent → Except String String
  | bytes content =>
    match String.fromUTF8? content with
    | some text => .ok text
    | none => .error "stream did not contain valid UTF-8"
  | missing => .error "No such file or directory (os error 2)"
  | directory => .error "Is a directory (os error 21)"
  | blocked => .error "Not a directory (os error 20)"
  | refused reason => .error reason

end FileContent

namespace Configuration

/-- The configuration that a YAML text describes. -/
def ofYaml (text : String) : Except ConfigFault Configuration :=
  match (Yaml.Document.parse? text).bind fun document =>
    read? Yaml.Part.format (.ofDocument document) with
  | some configuration => .ok configuration
  | none => .error (.yaml "the text does not describe an adaptor")

/-- The configuration that a TOML text describes. -/
def ofToml (text : String) : Except ConfigFault Configuration :=
  match (Toml.parse? text).bind fun entries =>
    read? Toml.Value.format (.table .header entries) with
  | some configuration => .ok configuration
  | none => .error (.toml "the text does not describe an adaptor")

/-- The configuration that a text in some language describes. -/
def ofText (dialect : Dialect) (text : String) : Except ConfigFault Configuration :=
  match dialect with
  | .yaml => ofYaml text
  | .toml => ofToml text

/-- The configuration in the file at a path. -/
def load (path : String) (content : FileContent) : Except ConfigFault Configuration := do
  let text ← content.text.mapError (.unreadable path)
  ofText (.ofPath path) text

/-- The configuration in the file at a path, if nothing is wrong with it by itself. -/
def loadAndCheck (path : String) (content : FileContent) : Except ConfigFault Configuration := do
  let configuration ← load path content
  let defects := configuration.defects
  if defects.isEmpty then return configuration else throw (.defective defects)

end Configuration

end BatchFlow
