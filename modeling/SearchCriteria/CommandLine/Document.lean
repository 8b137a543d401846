import SearchCriteria.CommandLine.Folder
import SearchCriteria.Json.Reader
import SearchCriteria.Text.Utf8
import SearchCriteria.Yaml.Reader

/-! Documents: files that hold one value of plain data. Those of JSON are read here, and all
others by whatever reader there is for them. -/
namespace SearchCriteria

/-- A reader of texts that are no JSON. It may put a failure down to the text, or raise one of
any kind. -/
abbrev Reader := List Char → Except LoadFault Value

/-- Where documents come from: the files there are, and the reader for those of no JSON. -/
structure Loader where
  files : Files
  reader : Reader

/-- The loader that reads YAML of plain data. -/
def Loader.ofFiles (files : Files) : Loader := ⟨files, Yaml.read?⟩

namespace Document

/-- The name of a file, without the path to it and without points in front. -/
def bareName (path : String) : List Char :=
  ((path.toList.splitOn '/').getLastD []).dropWhile (· == '.')

/-- The extension of a file, in small letters and with its point. -/
def extension (path : String) : String :=
  match (bareName path).splitOn '.' with
  | [_] => ""
  | parts => String.ofList ('.' :: (parts.getLastD []).map Char.toLower)

/-- The value that a text holds. The extension tells whether it is JSON. -/
def ofText? (reader : Reader) (path : String) (cs : List Char) : Except LoadFault Value :=
  if extension path == ".json" then
    match Json.read? cs with
    | some v => .ok v
    | none => .error (.unread .malformed)
  else reader cs

def ofBytes? (reader : Reader) (path : String) (bs : List UInt8) : Except LoadFault Value :=
  match decodeUtf8? bs with
  | some s => ofText? reader path (unifyLineBreaks s.toList)
  | none => .error (.unread .malformed)

def read? (loader : Loader) (path : String) : Except LoadFault Value :=
  ((loader.files path).mapError .unread).bind (ofBytes? loader.reader path)

/-- The failure that a fault of a document comes to, by the role that the document plays. -/
def failure (role : DocumentRole) (path : String) : LoadFault → Failure
  | .unread fault => .config (.unreadable role path fault)
  | .raised f => f

def load? (loader : Loader) (role : DocumentRole) (path : String) : Except Failure Value :=
  (read? loader path).mapError (failure role path)

end Document
end SearchCriteria
