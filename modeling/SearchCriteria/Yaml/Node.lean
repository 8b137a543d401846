import SearchCriteria.Yaml.Token

/-! The nodes that the tokens of a YAML text make up: scalars, sequences and mappings. -/
namespace SearchCriteria
namespace Yaml

/-- A node. A plain scalar may stand for something else than its text. -/
inductive Node where
  | scalar (plain : Bool) (text : String)
  | sequence (items : List Node)
  | mapping (entries : List (Node × Node))
deriving Repr

namespace Node

/-- Where nothing is written, nothing is meant. -/
def nothing : Node := .scalar true ""

/-- The tokens before which the node of a block entry is missing. -/
def endsItem : List Token → Bool
  | .entry :: _ | .blockEnd :: _ => true
  | _ => false

def endsPart : List Token → Bool
  | .key :: _ | .value :: _ | .blockEnd :: _ => true
  | _ => false

def endsPlainItem : List Token → Bool
  | .entry :: _ | .key :: _ | .value :: _ | .blockEnd :: _ => true
  | _ => false

/-- The tokens before which a part of an entry between brackets is missing. -/
def endsFlowPart : List Token → Bool
  | .value :: _ | .flowEntry :: _ | .flowSequenceEnd :: _ | .flowMappingEnd :: _ => true
  | _ => false

mutual

/-- A node. Between brackets there are no blocks, and only the value of a key may be a
sequence that is not indented. -/
def node? : Nat → Bool → Bool → List Token → Option (Node × List Token)
  | 0, _, _, _ => none
  | fuel + 1, inFlow, flush, ts => match ts with
    | .scalar plain text :: ts => some (.scalar plain text, ts)
    | .flowSequenceStart :: ts => (flowItems? fuel true ts).map fun (xs, ts) => (.sequence xs, ts)
    | .flowMappingStart :: ts => (flowEntries? fuel true ts).map fun (es, ts) => (.mapping es, ts)
    | .sequenceStart :: ts =>
      if inFlow then none
      else (blockItems? fuel ts).map fun (xs, ts) => (.sequence xs, ts)
    | .mappingStart :: ts =>
      if inFlow then none
      else (blockEntries? fuel ts).map fun (es, ts) => (.mapping es, ts)
    | .entry :: _ =>
      if flush then (flushItems? fuel ts).map fun (xs, ts) => (.sequence xs, ts) else none
    | _ => none

/-- The items of a sequence up to the end of its block. -/
def blockItems? : Nat → List Token → Option (List Node × List Token)
  | 0, _ => none
  | fuel + 1, ts => match ts with
    | .blockEnd :: ts => some ([], ts)
    | .entry :: ts => do
      let (x, ts) ← if endsItem ts then some (nothing, ts) else node? fuel false false ts
      let (xs, ts) ← blockItems? fuel ts
      return (x :: xs, ts)
    | _ => none

/-- The items of a sequence that stands in the column of its key. -/
def flushItems? : Nat → List Token → Option (List Node × List Token)
  | 0, _ => none
  | fuel + 1, ts => match ts with
    | .entry :: ts => do
      let (x, ts) ← if endsPlainItem ts then some (nothing, ts) else node? fuel false false ts
      let (xs, ts) ← flushItems? fuel ts
      return (x :: xs, ts)
    | ts => some ([], ts)

/-- The entries of a mapping up to the end of its block. -/
def blockEntries? : Nat → List Token → Option (List (Node × Node) × List Token)
  | 0, _ => none
  | fuel + 1, ts => match ts with
    | .blockEnd :: ts => some ([], ts)
    | .key :: ts => do
      let (k, ts) ← if endsPart ts then some (nothing, ts) else node? fuel false true ts
      let (v, ts) ← match ts with
        | .value :: ts => if endsPart ts then some (nothing, ts) else node? fuel false true ts
        | ts => some (nothing, ts)
      let (es, ts) ← blockEntries? fuel ts
      return ((k, v) :: es, ts)
    | _ => none

def flowValue? : Nat → List Token → Option (Node × List Token)
  | 0, _ => none
  | fuel + 1, ts => match ts with
    | .value :: ts => if endsFlowPart ts then some (nothing, ts) else node? fuel true false ts
    | ts => some (nothing, ts)

/-- The items between square brackets. An item may be a mapping of a single entry. -/
def flowItems? : Nat → Bool → List Token → Option (List Node × List Token)
  | 0, _, _ => none
  | fuel + 1, first, ts =>
    let item (ts : List Token) : Option (List Node × List Token) := match ts with
      | .flowSequenceEnd :: ts => some ([], ts)
      | .key :: ts => do
        let (k, ts) ← if endsFlowPart ts then some (nothing, ts) else node? fuel true false ts
        let (v, ts) ← flowValue? fuel ts
        let (xs, ts) ← flowItems? fuel false ts
        return (.mapping [(k, v)] :: xs, ts)
      | ts => do
        let (x, ts) ← node? fuel true false ts
        let (xs, ts) ← flowItems? fuel false ts
        return (x :: xs, ts)
    match ts with
    | .flowSequenceEnd :: ts => some ([], ts)
    | .flowEntry :: rest => if first then none else item rest
    | ts => if first then item ts else none

/-- The entries between braces. A key may stand alone. -/
def flowEntries? : Nat → Bool → List Token → Option (List (Node × Node) × List Token)
  | 0, _, _ => none
  | fuel + 1, first, ts =>
    let entry (ts : List Token) : Option (List (Node × Node) × List Token) := match ts with
      | .flowMappingEnd :: ts => some ([], ts)
      | .key :: ts => do
        let (k, ts) ← if endsFlowPart ts then some (nothing, ts) else node? fuel true false ts
        let (v, ts) ← flowValue? fuel ts
        let (es, ts) ← flowEntries? fuel false ts
        return ((k, v) :: es, ts)
      | ts => do
        let (k, ts) ← node? fuel true false ts
        let (es, ts) ← flowEntries? fuel false ts
        return ((k, nothing) :: es, ts)
    match ts with
    | .flowMappingEnd :: ts => some ([], ts)
    | .flowEntry :: rest => if first then none else entry rest
    | ts => if first then entry ts else none

end

/-- The node of a document, between the marks around it. -/
def document? (fuel : Nat) (ts : List Token) : Option (Node × List Token) :=
  match ts with
  | .documentStart :: ts => match ts with
    | [] | .documentStart :: _ | .documentEnd :: _ => some (nothing, ts)
    | ts => node? fuel false false ts
  | [] => some (nothing, [])
  | ts => node? fuel false false ts

/-- The node that the tokens of a text with a single document make up. -/
def ofTokens? (ts : List Token) : Option Node := do
  let (n, rest) ← document? (2 * ts.length + 2) ts
  if rest.all (· == .documentEnd) then some n else none

end Node
end Yaml
end SearchCriteria
