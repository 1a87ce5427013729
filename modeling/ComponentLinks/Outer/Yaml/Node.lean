import ComponentLinks.Outer.Yaml.Token

/-!
# Nodes of YAML

The tree of a document: scalars, sequences and mappings. A node may be given a name, by which it can
stand in other places of the document too.

## Main definitions

* `Yaml.Node`: the tree.
* `Yaml.Node.read`: reading a node from tokens.
* `Yaml.Node.expand`: the tree with nodes in place of their names.
* `Yaml.Document`: the tree of a document, or a document without content.
* `Yaml.document`: the one document of a text.
-/
namespace ComponentLinks.Yaml

inductive Node where
  | scalar (tag : Option (List Char)) (text : List Char) (spelling : Spelling)
  | sequence (tag : Option (List Char)) (entries : List Node)
  | mapping (tag : Option (List Char)) (entries : List (Node × Node))
  | named (name : List Char) (node : Node)
  | mention (name : List Char)

namespace Node

/-! ## Reading -/

def absent : Node := scalar none [] .plain

def tagged (tag : Option (List Char)) (text : List Char) (spelling : Spelling) : Node :=
  if tag = some Tag.plain.rest then scalar none text .plain else scalar tag text spelling

def collectionTag (tag : Option (List Char)) : Option (List Char) :=
  tag.filter (· ≠ Tag.plain.rest)

structure Properties where
  name : Option (List Char)
  tag : Option (List Char)

def properties : List Token → Properties × List Token
  | .anchor name :: .tag t :: rest => (⟨some name, some t.rest⟩, rest)
  | .tag t :: .anchor name :: rest => (⟨some name, some t.rest⟩, rest)
  | .anchor name :: rest => (⟨some name, none⟩, rest)
  | .tag t :: rest => (⟨none, some t.rest⟩, rest)
  | ts => (⟨none, none⟩, ts)

namespace Properties

def isEmpty (p : Properties) : Bool := p.name.isNone && p.tag.isNone

def give (p : Properties) (n : Node) : Node :=
  match p.name with
  | some name => named name n
  | none => n

end Properties

def sees (wanted : List Token) : List Token → Bool
  | [] => false
  | t :: _ => wanted.contains t

def refuse {α : Type} : List Token → Except Fault α
  | .fault f :: _ => .error f
  | _ => .error .malformed

mutual

/-- A node. Block collections are read if `block`, and a sequence that is not indented further than
the mapping around it if `indentless`. -/
def read (fuel : Nat) (block indentless : Bool) (ts : List Token) :
    Except Fault (Node × List Token) :=
  match fuel with
  | 0 => refuse ts
  | fuel + 1 =>
    match ts with
    | .mention name :: rest => .ok (mention name, rest)
    | _ =>
      let (p, rest) := properties ts
      (readContent fuel p block indentless rest).map fun (n, r) => (p.give n, r)

def readContent (fuel : Nat) (p : Properties) (block indentless : Bool) (ts : List Token) :
    Except Fault (Node × List Token) :=
  match fuel with
  | 0 => refuse ts
  | fuel + 1 =>
    let missing : Except Fault (Node × List Token) :=
      if p.isEmpty then refuse ts else .ok (tagged p.tag [] .plain, ts)
    match ts with
    | .fault f :: _ => .error f
    | .scalar text spelling :: rest => .ok (tagged p.tag text spelling, rest)
    | .flowSequenceStart :: rest =>
      (readFlowEntries fuel true rest).map fun (es, r) => (sequence (collectionTag p.tag) es, r)
    | .flowMappingStart :: rest =>
      (readFlowPairs fuel true rest).map fun (es, r) => (mapping (collectionTag p.tag) es, r)
    | .blockEntry :: _ =>
      if indentless then
        (readIndentless fuel ts).map fun (es, r) => (sequence (collectionTag p.tag) es, r)
      else missing
    | .blockSequenceStart :: rest =>
      if block then
        (readBlockEntries fuel rest).map fun (es, r) => (sequence (collectionTag p.tag) es, r)
      else missing
    | .blockMappingStart :: rest =>
      if block then
        (readBlockPairs fuel rest).map fun (es, r) => (mapping (collectionTag p.tag) es, r)
      else missing
    | _ => missing

def readBlockEntries (fuel : Nat) (ts : List Token) : Except Fault (List Node × List Token) :=
  match fuel with
  | 0 => refuse ts
  | fuel + 1 =>
    match ts with
    | .blockEntry :: rest =>
      let entry :=
        if sees [.blockEntry, .blockEnd] rest then .ok (absent, rest)
        else read fuel true false rest
      entry.bind fun (e, r) => (readBlockEntries fuel r).map fun (es, r) => (e :: es, r)
    | .blockEnd :: rest => .ok ([], rest)
    | _ => refuse ts

def readIndentless (fuel : Nat) (ts : List Token) : Except Fault (List Node × List Token) :=
  match fuel with
  | 0 => refuse ts
  | fuel + 1 =>
    match ts with
    | .blockEntry :: rest =>
      let entry :=
        if sees [.blockEntry, .key, .value, .blockEnd] rest then .ok (absent, rest)
        else read fuel true false rest
      entry.bind fun (e, r) => (readIndentless fuel r).map fun (es, r) => (e :: es, r)
    | _ => .ok ([], ts)

def readBlockPairs (fuel : Nat) (ts : List Token) :
    Except Fault (List (Node × Node) × List Token) :=
  match fuel with
  | 0 => refuse ts
  | fuel + 1 =>
    match ts with
    | .key :: rest =>
      (readBlockPart fuel rest).bind fun (k, r) =>
        (match r with
          | .value :: r => readBlockPart fuel r
          | _ => .ok (absent, r)).bind fun (v, r) =>
            (readBlockPairs fuel r).map fun (es, r) => ((k, v) :: es, r)
    | .blockEnd :: rest => .ok ([], rest)
    | _ => refuse ts

def readBlockPart (fuel : Nat) (ts : List Token) : Except Fault (Node × List Token) :=
  match fuel with
  | 0 => refuse ts
  | fuel + 1 =>
    if sees [.key, .value, .blockEnd] ts then .ok (absent, ts) else read fuel true true ts

def readFlowEntries (fuel : Nat) (first : Bool) (ts : List Token) :
    Except Fault (List Node × List Token) :=
  match fuel with
  | 0 => refuse ts
  | fuel + 1 =>
    match ts with
    | .flowSequenceEnd :: rest => .ok ([], rest)
    | _ =>
      let here : Except Fault (List Token) := match first, ts with
        | true, _ => .ok ts
        | false, .flowEntry :: rest => .ok rest
        | false, _ => refuse ts
      here.bind fun ts => match ts with
        | .flowSequenceEnd :: rest => .ok ([], rest)
        | .key :: rest =>
          (readFlowPart fuel [.value, .flowEntry, .flowSequenceEnd] rest).bind fun (k, r) =>
            (readFlowValue fuel [.flowEntry, .flowSequenceEnd] r).bind fun (v, r) =>
              (readFlowEntries fuel false r).map fun (es, r) => (mapping none [(k, v)] :: es, r)
        | _ =>
          (read fuel false false ts).bind fun (e, r) =>
            (readFlowEntries fuel false r).map fun (es, r) => (e :: es, r)

/-- The keys and values of a flow mapping; an entry without a key sign is a key without a value. -/
def readFlowPairs (fuel : Nat) (first : Bool) (ts : List Token) :
    Except Fault (List (Node × Node) × List Token) :=
  match fuel with
  | 0 => refuse ts
  | fuel + 1 =>
    match ts with
    | .flowMappingEnd :: rest => .ok ([], rest)
    | _ =>
      let here : Except Fault (List Token) := match first, ts with
        | true, _ => .ok ts
        | false, .flowEntry :: rest => .ok rest
        | false, _ => refuse ts
      here.bind fun ts => match ts with
        | .flowMappingEnd :: rest => .ok ([], rest)
        | .key :: rest =>
          (readFlowPart fuel [.value, .flowEntry, .flowMappingEnd] rest).bind fun (k, r) =>
            (readFlowValue fuel [.flowEntry, .flowMappingEnd] r).bind fun (v, r) =>
              (readFlowPairs fuel false r).map fun (es, r) => ((k, v) :: es, r)
        | _ =>
          (read fuel false false ts).bind fun (k, r) =>
            (readFlowPairs fuel false r).map fun (es, r) => ((k, absent) :: es, r)

def readFlowPart (fuel : Nat) (ends : List Token) (ts : List Token) :
    Except Fault (Node × List Token) :=
  match fuel with
  | 0 => refuse ts
  | fuel + 1 => if sees ends ts then .ok (absent, ts) else read fuel false false ts

def readFlowValue (fuel : Nat) (ends : List Token) (ts : List Token) :
    Except Fault (Node × List Token) :=
  match fuel with
  | 0 => refuse ts
  | fuel + 1 =>
    match ts with
    | .value :: rest => readFlowPart fuel ends rest
    | _ => .ok (absent, ts)

end

/-! ## Names -/

abbrev Names := List (List Char × Node)

mutual

/-- A node with nodes in place of their names, and what names stand for after it. A name within the
node that it is given to stays. -/
def expand (names : Names) : Node → Node × Names
  | scalar tag text spelling => (scalar tag text spelling, names)
  | sequence tag entries =>
    let (es, names) := expandAll names entries
    (sequence tag es, names)
  | mapping tag entries =>
    let (es, names) := expandPairs names entries
    (mapping tag es, names)
  | named name node =>
    let (n, names) := node.expand names
    (n, (name, n) :: names)
  | mention name => ((names.lookup name).getD (mention name), names)

def expandAll (names : Names) : List Node → List Node × Names
  | [] => ([], names)
  | n :: ns =>
    let (m, names) := n.expand names
    let (ms, names) := expandAll names ns
    (m :: ms, names)

def expandPairs (names : Names) : List (Node × Node) → List (Node × Node) × Names
  | [] => ([], names)
  | (k, v) :: rest =>
    let (k, names) := k.expand names
    let (v, names) := v.expand names
    let (es, names) := expandPairs names rest
    ((k, v) :: es, names)

end

end Node

abbrev Document := Option Node

def whole (r : Node × List Token) : Except Fault Document :=
  match r.2.dropWhile (· == .documentEnd) with
  | [] => .ok (some r.1)
  | rest => Node.refuse rest

def directives (ts : List Token) : List Directive :=
  (ts.takeWhile fun t => t matches .directive _).filterMap fun t => match t with
    | .directive d => some d
    | _ => none

/-- Tokens with the whole of each tag, where `names` have been given before. A tag with a handle
that is not known, a name that is given twice and a name of no value are faults. -/
def withTags (abbreviations : List (List Char × List Char)) (names : List (List Char)) :
    List Token → List Token
  | [] => []
  | .tag t :: rest =>
    match t.name? abbreviations with
    | some name => .tag ⟨none, name⟩ :: withTags abbreviations names rest
    | none => [.fault .malformed]
  | .anchor name :: rest =>
    if names.contains name then [.fault .malformed]
    else .anchor name :: withTags abbreviations (name :: names) rest
  | .mention name :: rest =>
    if names.contains name then .mention name :: withTags abbreviations names rest
    else [.fault .malformed]
  | t :: rest => t :: withTags abbreviations names rest

def Document.content (abbreviations : List (List Char × List Char)) (ts : List Token) :
    Except Fault Document :=
  (Node.read (4 * ts.length + 8) true false (withTags abbreviations [] ts)).bind whole

def Document.ofTokens (ts : List Token) : Except Fault Document :=
  let ds := directives ts
  match ts.drop ds.length with
  | .documentStart :: rest =>
    if !areAccepted ds then .error .malformed
    else if rest.isEmpty || Node.sees [.documentStart, .documentEnd] rest then
      whole (.absent, rest)
    else Document.content (abbreviations ds) rest
  | rest =>
    if !ds.isEmpty then if areAccepted ds then Node.refuse rest else .error .malformed
    else if rest.isEmpty then .ok none
    else Document.content [] rest

def document (text : List Char) : Except Fault Document :=
  (Document.ofTokens (tokens text).toList).map fun d => d.map fun n => (n.expand []).1

end ComponentLinks.Yaml
