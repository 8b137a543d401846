import SearchCriteria.Value.Calendar

/-! Equality by content, and maps as tables under it. Numbers of every kind compare by
their exact value, maps and sets without regard to order, and a list is never equal to a
tuple. Parts of larger values, and keys of maps, are compared only where they are not the same
one anyway. -/
namespace SearchCriteria
namespace Value

/-- An integer against any value. A truth value counts as zero or one. -/
def equalInt (n : Int) : Value → Bool
  | .bool b => n == b.toNat
  | .int m => n == m
  | .float x => x.equalInt n
  | .complex x y => y.isZero && x.equalInt n
  | _ => false

def equalFloat (x : Binary64) : Value → Bool
  | .bool b => x.equalInt b.toNat
  | .int n => x.equalInt n
  | .float y => x.equal y
  | .complex y z => z.isZero && x.equal y
  | _ => false

/-- A complex number against any value. Without an imaginary part it counts as its real part. -/
def equalComplex (x y : Binary64) : Value → Bool
  | .complex u v => x.equal u && y.equal v
  | v => y.isZero && equalFloat x v

mutual

/-- Whether two parts of larger values are the same one or have equal content. A stream has
no content to compare, and an object is only the same as itself. -/
def alike : Value → Value → Bool
  | .null, .null => true
  | .bool b, v => equalInt b.toNat v
  | .int n, v => equalInt n v
  | .float x, .float y => x.alike y
  | .float x, v => equalFloat x v
  | .complex x y, .complex u v => x.alike u && y.alike v
  | .complex x y, v => equalComplex x y v
  | .text s, .text t => s == t
  | .list xs, .list ys => alikeItems xs ys
  | .tuple xs, .tuple ys => alikeItems xs ys
  | .map es, .map fs => es.length == fs.length && alikeEntries es fs
  | .set xs, .set ys => xs.length == ys.length && alikeMembers xs ys
  | .bytes bs, .bytes cs => bs == cs
  | .date d, .date e => d == e
  | .moment m, .moment n => m.simultaneous n
  | .object o, .object p => o.handle == p.handle
  | _, _ => false
termination_by structural v => v

def alikeItems : List Value → List Value → Bool
  | [], [] => true
  | x :: xs, y :: ys => alike x y && alikeItems xs ys
  | _, _ => false

/-- Whether each entry of the first map is one of the second. -/
def alikeEntries : List (Value × Value) → List (Value × Value) → Bool
  | [], _ => true
  | (k, v) :: es, fs => fs.any (fun f => alike k f.1 && alike v f.2) && alikeEntries es fs

/-- Whether each item of the first set is one of the second. -/
def alikeMembers : List Value → List Value → Bool
  | [], _ => true
  | x :: xs, ys => ys.any (fun y => alike x y) && alikeMembers xs ys

end

/-- Equality by content. By itself, what is not a number does not even equal itself. -/
def equal : Value → Value → Bool
  | .float x, .float y => x.equal y
  | .complex x y, v => equalComplex x y v
  | v, w => alike v w

mutual

/-- The part of a value that keeps it from being a key: a list, a map, a set or an object that
has content to compare, also inside a tuple. -/
def unhashable? : Value → Option Value
  | .list xs => some (.list xs)
  | .map es => some (.map es)
  | .set xs => some (.set xs)
  | .tuple xs => unhashableItem? xs
  | .object o => match o.handle with
    | .node _ | .compiler _ => none
    | .query _ | .search _ | .config _ => some (.object o)
  | _ => none

def unhashableItem? : List Value → Option Value
  | [] => none
  | x :: xs => (unhashable? x).or (unhashableItem? xs)

end

end Value

namespace Entries

/-- What a key is mapped to. A key is found when it is the same one or has equal content. -/
def find? (key : Value) : Entries → Option Value
  | [] => none
  | (k, v) :: es => if k.alike key then some v else find? key es

def position? (key : Value) (es : Entries) : Option Nat := es.findIdx? fun e => e.1.alike key

def named? (name : String) (es : Entries) : Option Value := find? (.text name) es

/-- A key that is already there keeps its place and its spelling and takes the new value. -/
def insert (key value : Value) : Entries → Entries
  | [] => [(key, value)]
  | (k, v) :: es => if k.alike key then (k, value) :: es else (k, v) :: insert key value es

/-- The map that listing the entries one after the other gives. -/
def ofList (es : List (Value × Value)) : Entries :=
  es.foldl (fun acc e => insert e.1 e.2 acc) []

end Entries
end SearchCriteria
