import SearchCriteria.Value.Access
import SearchCriteria.Value.Distinct

/-! Where values come from, which tells those apart that have equal content. A value that is
part of something is known by its place there. What was put into a place, and not made there,
keeps the origin that it had before: a table says of such places what they hold. -/
namespace SearchCriteria

/-- What holds no two values of one content. -/
inductive Pool where
  /-- Values of hardly any size, and fixed words. -/
  | common
  /-- The texts of a writer that lays values out in lines. -/
  | layout
  /-- Texts that were read from bytes. -/
  | reading
deriving DecidableEq, Repr

inductive Origin where
  /-- The only one of its content in a pool. -/
  | shared (pool : Pool)
  /-- Made for whoever asked, at that number. -/
  | made (n : Nat)
  /-- What an object has under a name. -/
  | member (owner : Handle) (name : String)
  /-- What is in a place of something that holds others. -/
  | item (whole : Origin) (place : Nat)
deriving DecidableEq, Repr

/-- Which origin what is held in a place has, for places into which something was put. The
latest comes first. -/
abbrev Holdings := List (Origin × Origin)

namespace Origin

def isPlace : Origin → Bool
  | .member .. | .item .. => true
  | .shared _ | .made _ => false

end Origin

namespace Holdings

/-- The origin of what is found in a place. Parts are looked for where the whole is from. -/
def resolve (held : Holdings) : Origin → Origin
  | .item whole k =>
    let place := .item (resolve held whole) k
    (held.lookup place).getD place
  | o => (held.lookup o).getD o

/-- The origin of a value that is found in a place. What has always been there is known by
the place, unless it is the only one of its content. -/
def originOf (held : Holdings) (v : Value) (place : Origin) : Origin :=
  let o := held.resolve place
  if o.isPlace && v.isUnique then .shared .common else o

/-- More places with what they hold, each of which is found in a place itself. -/
def extend (held moved : Holdings) : Holdings :=
  moved.map (fun m => (m.1, held.resolve m.2)) ++ held

/-- What a copy of a value has in common with it. -/
def ofCopy (v : Value) (source copy : Origin) : Holdings :=
  (v.parts.zipIdx.filter fun p => p.1.staysInCopy).map fun p =>
    (.item copy p.2, .item source p.2)

/-- What a list of texts has of the texts that bytes stand for. Neither very short nor very
long ones are kept for the next reader. -/
def ofReading (given : List Value) (texts : List Value) (place : Origin) : Holdings :=
  ((given.zip texts).zipIdx.filter fun p => match p.1 with
    | (.bytes bs, v) => !v.isUnique && 2 ≤ bs.length && bs.length < 64
    | _ => false).map fun p => (.item place p.2, .shared .reading)

end Holdings
end SearchCriteria
