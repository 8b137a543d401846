import SearchCriteria.Validation.Issue

/-! Why a call is refused. Causes are told apart here, and worded in one place. -/
namespace SearchCriteria

/-- A chain of criteria cannot be built so. -/
inductive CriteriaFault where
  | alreadyInChain
  | openRange
  | missingUpper
  | missingLower
  | notCollection (v : Value)
  | boostNotNumber (v : Value)
  | negativeBoost
  | emptyChain
  | nodeNotMap (v : Value)
  | entriesNotList (v : Value)
  | entryWithoutKey (v : Value)
  | notPair (v : Value)
  | blankInTerm (term : String)
deriving DecidableEq, Repr

/-- A criterion names no field. -/
inductive FieldFault where
  | unknown
  | unresolved (field : Value)
deriving DecidableEq, Repr

/-- A request cannot be served. -/
inductive RequestFault where
  | operation (name : String)
  | expression (text : String)
  | minScore
deriving DecidableEq, Repr

/-- Why a document could not be had from a file, as far as that is put down to the file. -/
inductive ReadFault where
  | notFound
  | notPermitted
  | isDirectory
  | notDirectory
  | nameTooLong
  | malformed
deriving DecidableEq, Repr

/-- The document that a file is read for. -/
inductive DocumentRole where
  | config
  | criteria
deriving DecidableEq, Repr

/-- A compiler cannot be configured so, or a document cannot be read. -/
inductive ConfigFault where
  | notMap
  | invalid (issues : List Issue)
  | unreadable (role : DocumentRole) (path : String) (fault : ReadFault)
deriving DecidableEq, Repr

/-- A value of this kind does not support what is asked of it. -/
inductive KindFault where
  | unhashable (kind : String)
  | notSubscriptable (kind : String)
  | notIterable (kind : String)
  | notJoinable (index : Nat) (kind : String)
  | notAppendable (kind : String)
  | notComparable (kind : String)
  | badKey (kind : String)
  | notSerializable (kind : String)
  | notName (kind : String)
  | notPath (kind : String)
  | notCount (kind : String)
  | level
deriving DecidableEq, Repr

/-- A value of the right kind stands for nothing. -/
inductive ChoiceFault where
  | operation (v : Value)
  | direction (v : Value)
  | level
deriving DecidableEq, Repr

/-- Everything a call can be refused for. -/
inductive Failure where
  | criteria (fault : CriteriaFault)
  | field (fault : FieldFault)
  | request (fault : RequestFault)
  | config (fault : ConfigFault)
  | invalid (model : String) (issues : List Issue)
  | kind (fault : KindFault)
  | choice (fault : ChoiceFault)
  | missingKey (key : Value)
  | outOfRange (index : String)
  | indexTooLarge
  | overflow
  | indexOverflow
  | tooManyDigits
  | noField (owner name : String)
  | noAttribute (owner name : String)
deriving DecidableEq, Repr

def CriteriaFault.message : CriteriaFault → String
  | .alreadyInChain => "Criteria is already part of this chain"
  | .openRange => "Range [* TO *] is not allowed"
  | .missingUpper => "Upper bound must not be None"
  | .missingLower => "Lower bound must not be None"
  | .notCollection v => "IN expects a collection of values, got " ++ v.quoted
  | .boostNotNumber v => "Boost must be a number, got " ++ v.quoted
  | .negativeBoost => "Boost must not be negative"
  | .emptyChain => "Criteria chain must not be empty"
  | .nodeNotMap v => "Criteria node must be a mapping, got " ++ v.quoted
  | .entriesNotList v => "Criteria entries must be a list, got " ++ v.quoted
  | .entryWithoutKey v => "Criteria entry " ++ v.quoted ++ " has no valid key"
  | .notPair v => "BETWEEN expects [lower, upper], got " ++ v.quoted
  | .blankInTerm term =>
    "Cannot construct query '" ++ term ++ "'. Use expression or multiple clauses instead."

def FieldFault.message : FieldFault → String
  | .unknown => "Unknown field"
  | .unresolved field => "Field " ++ field.quoted ++ " resolves to no name"

def RequestFault.message : RequestFault → String
  | .operation name => "Operation " ++ name ++ " not supported"
  | .expression text => "Expression " ++ text ++ " not supported"
  | .minScore => "Min score must not be negative"

/-- The system's number and words for a file that is not to be had, and the reader's for one
that is no document. -/
def ReadFault.message (path : String) : ReadFault → String
  | .notFound => "[Errno 2] No such file or directory: " ++ quotedText path
  | .notPermitted => "[Errno 13] Permission denied: " ++ quotedText path
  | .isDirectory => "[Errno 21] Is a directory: " ++ quotedText path
  | .notDirectory => "[Errno 20] Not a directory: " ++ quotedText path
  | .nameTooLong => "[Errno 36] File name too long: " ++ quotedText path
  | .malformed => "malformed document"

def DocumentRole.title : DocumentRole → String
  | .config => "Config"
  | .criteria => "Criteria"

def ConfigFault.message : ConfigFault → String
  | .notMap => "Config must be a mapping"
  | .invalid issues =>
    "Config format error: " ++ String.intercalate "; " (issues.map Issue.text)
  | .unreadable role path fault =>
    role.title ++ " file " ++ path ++ " could not be read: " ++ fault.message path

def KindFault.message : KindFault → String
  | .unhashable kind => "unhashable type: '" ++ kind ++ "'"
  | .notSubscriptable kind => "'" ++ kind ++ "' object is not subscriptable"
  | .notIterable kind => "'" ++ kind ++ "' object is not iterable"
  | .notJoinable index kind =>
    "sequence item " ++ toString index ++ ": expected str instance, " ++ kind ++ " found"
  | .notAppendable kind => "can only concatenate str (not \"" ++ kind ++ "\") to str"
  | .notComparable kind => "'<' not supported between instances of '" ++ kind ++ "' and 'int'"
  | .badKey kind => "keys must be str, int, float, bool or None, not " ++ kind
  | .notSerializable kind => "Object of type " ++ kind ++ " is not JSON serializable"
  | .notName kind => "attribute name must be string, not '" ++ kind ++ "'"
  | .notPath kind => "expected str, bytes or os.PathLike object, not " ++ kind
  | .notCount kind => "can't multiply sequence by non-int of type '" ++ kind ++ "'"
  | .level =>
    "Level not an integer or a valid string: \x7b'%': (<class 'logging.PercentStyle'>, "
      ++ "'%(levelname)s:%(name)s:%(message)s'), '\x7b': (<class 'logging.StrFormatStyle'>, "
      ++ "'\x7blevelname\x7d:\x7bname\x7d:\x7bmessage\x7d'), '$': "
      ++ "(<class 'logging.StringTemplateStyle'>, "
      ++ "'$\x7blevelname\x7d:$\x7bname\x7d:$\x7bmessage\x7d')\x7d"

def ChoiceFault.message : ChoiceFault → String
  | .operation v => v.quoted ++ " is not a valid OperationKey"
  | .direction v => v.quoted ++ " is not a valid SortDirection"
  | .level => "Unknown level: '%(levelname)s:%(name)s:%(message)s'"

/-- What is said about a refused call. -/
def Failure.message : Failure → String
  | .criteria f => f.message
  | .field f => f.message
  | .request f => f.message
  | .config f => f.message
  | .invalid model issues =>
    model ++ ": " ++ String.intercalate "; " (issues.map Issue.text)
  | .kind f => f.message
  | .choice f => f.message
  | .missingKey key => key.quoted
  | .outOfRange index => index ++ " out of range"
  | .overflow => "int too large to convert to float"
  | .indexTooLarge | .indexOverflow => "cannot fit 'int' into an index-sized integer"
  | .tooManyDigits =>
    "Exceeds the limit (" ++ toString maxDigits ++ " digits) for integer string conversion; "
      ++ "use sys.set_int_max_str_digits() to increase the limit"
  | .noField owner name => "\"" ++ owner ++ "\" object has no field \"" ++ name ++ "\""
  | .noAttribute owner name => "'" ++ owner ++ "' object has no attribute '" ++ name ++ "'"

/-- A failure that quotes a value. What cannot be written out cannot be quoted, and that is
the failure then. -/
def Failure.quoting (v : Value) (f : Failure) : Failure :=
  if v.isWritable then f else .tooManyDigits

/-- Why a document could not be had: for what is wrong with its file, or because reading it
failed in a way that is not put down to the file and passes through as it is. -/
inductive LoadFault where
  | unread (fault : ReadFault)
  | raised (f : Failure)
deriving DecidableEq, Repr

/-- Failures that the command line reports in one line; all others are its own. -/
def Failure.isReported : Failure → Bool
  | .criteria _ | .field _ | .request _ | .config _ => true
  | _ => false

end SearchCriteria
