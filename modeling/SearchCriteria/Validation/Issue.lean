import SearchCriteria.Value.Printer

/-! What is wrong with a record: a kind of complaint and the way to the place it is about. -/
namespace SearchCriteria

/-- One step into a record. -/
inductive PathStep where
  | name (s : String)
  | index (n : Int)
deriving DecidableEq, Repr

/-- What a rule complains about. -/
inductive Complaint where
  | missing
  | notText
  | textEncoding
  | notFloat
  | unreadableFloat
  | notBool
  | unreadableBool
  | notList
  | notMap
  | notRecord
  | notMember
  | wrongClass
deriving DecidableEq, Repr

def Complaint.code : Complaint → String
  | .missing => "missing"
  | .notText => "string_type"
  | .textEncoding => "string_unicode"
  | .notFloat => "float_type"
  | .unreadableFloat => "float_parsing"
  | .notBool => "bool_type"
  | .unreadableBool => "bool_parsing"
  | .notList => "list_type"
  | .notMap => "dict_type"
  | .notRecord => "model_type"
  | .notMember => "enum"
  | .wrongClass => "is_instance_of"

structure Issue where
  complaint : Complaint
  path : List PathStep
deriving DecidableEq, Repr

/-- The quoted form of a key, or its kind where it cannot be written out. -/
def keyLabel (v : Value) : String :=
  if v.isWritable then v.quoted else "<unprintable " ++ v.shortKind ++ " object>"

/-- The step that a key of a map is. An integer that cannot be an index is a name. -/
def PathStep.ofKey : Value → PathStep
  | .text s => .name s
  | .bool b => .index b.toNat
  | .int n => if Value.isIndex n then .index n else .name (keyLabel (.int n))
  | v => .name (keyLabel v)

def Issue.within (step : PathStep) (i : Issue) : Issue := { i with path := step :: i.path }

def PathStep.text : PathStep → String
  | .name s => s
  | .index n => toString n

def Issue.text (i : Issue) : String :=
  String.intercalate "." (i.path.map PathStep.text) ++ ": " ++ i.complaint.code

end SearchCriteria
