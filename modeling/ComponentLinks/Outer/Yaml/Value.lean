import ComponentLinks.Outer.Settings.Value
import ComponentLinks.Outer.Text.Base64
import ComponentLinks.Outer.Yaml.Node
import ComponentLinks.Outer.Yaml.Number

/-!
# Values of YAML documents

A plain scalar without a tag may be written so that it stands for nothing, a truth value, a number
or a date; every other scalar without a tag is a text. A tag says what a value is, and the value
must be written as such. Of several faults in a document the one counts that is nested least deeply.

## Main definitions

* `Yaml.Kind`: the kinds of values that tags ask for.
* `Yaml.plainValue`, `Yaml.scalarValue`: the value of a scalar.
* `Yaml.Node.standing?`: the scalar that stands for a mapping.
* `Yaml.Node.merged`: a node with the entries of merged mappings.
* `Yaml.Node.faultLevels`: the faults of a node by depth.
* `Yaml.Node.value`: the value of a node.
-/
namespace ComponentLinks.Yaml

/-! ## Kinds -/

inductive Kind where
  | null
  | bool
  | int
  | float
  | bytes
  | date
  | text
  | sequence
  | pairs
  | mapping
  | set
  | merge
  | default
  deriving Repr, DecidableEq

def kindNames : List (String × Kind) :=
  [("null", .null), ("bool", .bool), ("int", .int), ("float", .float), ("binary", .bytes),
   ("timestamp", .date), ("str", .text), ("seq", .sequence), ("omap", .pairs), ("pairs", .pairs),
   ("map", .mapping), ("set", .set), ("merge", .merge), ("value", .default)]

def Kind.ofTag? (tag : List Char) : Option Kind :=
  (Tag.standardStart.isPrefixOf? tag).bind fun name => kindNames.lookup (String.ofList name)

def Kind.isCollection : Kind → Bool
  | sequence | pairs | mapping | set => true
  | _ => false

/-! ## Scalars -/

def nullWords : List String := ["", "~", "null", "Null", "NULL"]

def trueWords : List String := ["yes", "Yes", "YES", "true", "True", "TRUE", "on", "On", "ON"]

def falseWords : List String := ["no", "No", "NO", "false", "False", "FALSE", "off", "Off", "OFF"]

def mergeSign : List Char := "<<".toList

def defaultSign : List Char := "=".toList

def dateValue (m : Moment) : Except Fault Value :=
  match m.fault? with
  | some f => .error (.moment f)
  | none => .ok .date

def numberOrText (cs : List Char) : Except Fault Value :=
  if isFraction cs then (readFraction cs).map .float
  else if isInteger cs then (readInteger cs).map .int
  else match Moment.ofText? cs with
    | some m => dateValue m
    | none => .ok (.text (String.ofList cs))

/-- The value of a plain scalar. The signs of merged mappings and of values that stand for theirs
have none. -/
def plainValue (cs : List Char) : Except Fault Value :=
  let s := String.ofList cs
  if nullWords.contains s then .ok .null
  else if trueWords.contains s then .ok (.bool true)
  else if falseWords.contains s then .ok (.bool false)
  else if cs = mergeSign || cs = defaultSign then .error .malformed
  else numberOrText cs

def textValue (text : List Char) : Spelling → Value
  | .halved => .halved (String.ofList text)
  | _ => .text (String.ofList text)

def readTruth (cs : List Char) : Except Fault Bool :=
  let word := String.ofList (Text.lowercase cs)
  if trueWords.contains word then .ok true
  else if falseWords.contains word then .ok false
  else .error (.noTruth (Text.lowercase cs))

def Kind.value (k : Kind) (text : List Char) (spelling : Spelling) : Except Fault Value :=
  match k with
  | null => .ok .null
  | bool => (readTruth text).map .bool
  | int => (readInteger text).map .int
  | float => (readFraction text).map .float
  | bytes =>
    if text.all fun c => c.toNat < 0x80 then (orMalformed (Text.bytesOf? text)).map .bytes
    else .error .malformed
  | date =>
    match Moment.read? text with
    | some m => dateValue m
    | none => .error .noMoment
  | .text => .ok (textValue text spelling)
  | _ => .error .malformed

def scalarValue (tag : Option (List Char)) (text : List Char) (spelling : Spelling) :
    Except Fault Value :=
  match tag, spelling with
  | none, .plain => plainValue text
  | none, _ => .ok (textValue text spelling)
  | some t, _ => (orMalformed (Kind.ofTag? t)).bind fun k => k.value text spelling

namespace Node

/-! ## Mappings for which a value stands -/

def isDefaultSign : Node → Bool
  | scalar none text .plain => text = defaultSign
  | scalar (some tag) _ _ | sequence (some tag) _ | mapping (some tag) _ =>
    Kind.ofTag? tag = some .default
  | _ => false

mutual

def standing? : Node → Option (List Char × Spelling)
  | scalar _ text spelling => some (text, spelling)
  | mapping _ entries => standingAmong? entries
  | _ => none

def standingAmong? : List (Node × Node) → Option (List Char × Spelling)
  | [] => none
  | (k, v) :: rest => if k.isDefaultSign then v.standing? else standingAmong? rest

end

def asksForScalar (tag : Option (List Char)) : Bool :=
  (tag.bind Kind.ofTag?).any [Kind.null, .bool, .int, .float, .bytes, .text].contains

/-! ## Merged mappings -/

def isMergeSign : Node → Bool
  | scalar none text .plain => text = mergeSign
  | scalar (some tag) _ _ | sequence (some tag) _ | mapping (some tag) _ =>
    Kind.ofTag? tag = some .merge
  | _ => false

def entries? : Node → Option (List (Node × Node))
  | mapping _ entries => some entries
  | mention _ => some []
  | _ => none

/-- The entries that a value gives to the mapping into which it is merged: its own or, if it is a
sequence, those of its mappings, the last one first. -/
def given? : Node → Option (List (Node × Node))
  | sequence _ nodes => (nodes.mapM entries?).map fun found => found.reverse.flatten
  | n => n.entries?

def mergedEntries (entries : List (Node × Node)) : List (Node × Node) :=
  match (entries.filter fun e => isMergeSign e.1).mapM fun e => given? e.2 with
  | some found => found.flatten ++ entries.filter fun e => !isMergeSign e.1
  | none => entries

mutual

/-- A node with the entries of merged mappings, and with the scalars that stand for mappings. The
sign of a mapping that cannot be merged stays. -/
def merged : Node → Node
  | scalar tag text spelling => scalar tag text spelling
  | sequence tag entries => sequence tag (mergedAll entries)
  | mapping tag entries =>
    match standingAmong? entries with
    | some (text, spelling) =>
      if asksForScalar tag then scalar tag text spelling
      else mapping tag (mergedEntries (mergedPairs entries))
    | none => mapping tag (mergedEntries (mergedPairs entries))
  | named name node => named name node.merged
  | mention name => mention name

def mergedAll : List Node → List Node
  | [] => []
  | n :: ns => n.merged :: mergedAll ns

def mergedPairs : List (Node × Node) → List (Node × Node)
  | [] => []
  | (k, v) :: rest => (k.merged, v.merged) :: mergedPairs rest

end

/-! ## Faults -/

/-- The value of a key, which is no collection. The sign of a value that stands for its mapping is a
text. -/
def keyValue : Node → Except Fault Value
  | scalar tag text spelling =>
    if (scalar tag text spelling).isDefaultSign then .ok (textValue text spelling)
    else scalarValue tag text spelling
  | _ => .error .malformed

def faultOf (v : Except Fault Value) : List Fault :=
  match v with
  | .error f => [f]
  | .ok _ => []

def besideLevels : List (List Fault) → List (List Fault) → List (List Fault)
  | fs :: rest, gs :: more => (fs ++ gs) :: besideLevels rest more
  | [], gs => gs
  | fs, [] => fs

/-- The levels of a collection with a tag, given those of what it holds. A tag for other
collections is a fault of what it holds, and any other tag one of its own. -/
def collectionLevels (tag : Option (List Char)) (accepted : List Kind)
    (held : Kind → List (List Fault)) : List (List Fault) :=
  match tag with
  | none => [] :: (accepted.head?.map held).getD []
  | some t =>
    match Kind.ofTag? t with
    | some k =>
      if accepted.contains k then [] :: held k
      else if k.isCollection then [[], [.malformed]]
      else [[.malformed]]
    | none => [[.malformed]]

mutual

def faultLevels : Node → List (List Fault)
  | scalar tag text spelling =>
    if (tag.bind Kind.ofTag?).any Kind.isCollection then [[], [.malformed]]
    else [faultOf (scalarValue tag text spelling)]
  | sequence tag entries =>
    let found := entryLevels entries
    let pairs := pairedLevels entries
    collectionLevels tag [.sequence, .pairs] fun k => if k = .pairs then pairs else found
  | mapping tag entries =>
    let found := besideLevels
      [if entries.any fun e => isMergeSign e.1 then [.malformed] else []] (pairLevels entries)
    collectionLevels tag [.mapping, .set] fun _ => found
  | named _ node => node.faultLevels
  | mention _ => []

def entryLevels : List Node → List (List Fault)
  | [] => []
  | n :: ns => besideLevels n.faultLevels (entryLevels ns)

def pairLevels : List (Node × Node) → List (List Fault)
  | [] => []
  | (k, n) :: rest =>
    besideLevels (besideLevels [faultOf k.keyValue] n.faultLevels) (pairLevels rest)

def pairedLevels : List Node → List (List Fault)
  | [] => []
  | n :: ns =>
    match n with
    | mapping _ [(k, v)] =>
      besideLevels (besideLevels k.faultLevels v.faultLevels) (pairedLevels ns)
    | _ => [[.malformed]]

end

/-! ## Values -/

mutual

def build : Node → Except Fault Value
  | scalar tag text spelling => scalarValue tag text spelling
  | sequence _ entries => (buildAll entries).map .list
  | mapping tag entries =>
    (buildPairs entries).map fun found =>
      if tag.bind Kind.ofTag? = some .set then .list (found.map Prod.fst) else .mapping found
  | named _ node => node.build
  | mention _ => .ok (.list [])

def buildAll : List Node → Except Fault (List Value)
  | [] => .ok []
  | n :: ns => do return (← n.build) :: (← buildAll ns)

def buildPairs : List (Node × Node) → Except Fault (List (Value × Value))
  | [] => .ok []
  | (k, n) :: rest => do return (← k.keyValue, ← n.build) :: (← buildPairs rest)

end

def value (n : Node) : Except Fault Value :=
  let n := n.merged
  match n.faultLevels.flatten with
  | f :: _ => .error f
  | [] => n.build

end Node

end ComponentLinks.Yaml
