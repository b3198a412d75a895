import TypedClients.Settings.Yaml.Token

/-!
# The tree of a YAML document

A document is a tree of scalars, sequences and mappings, with the tags that are written. A reference
stands for the node with its anchor. A node that refers to itself from inside has no finite tree; it
is followed a few times, deeper than a configuration is read.
-/
namespace TypedClients.Settings.Yaml

inductive Node where
  /-- Text. When it is `plain`, its form decides what it denotes. -/
  | scalar (tag : Option String) (plain : Bool) (text : String)
  | sequence (tag : Option String) (items : List Node)
  | mapping (tag : Option String) (entries : List (Node × Node))
  /-- The node around this place that has an anchor. -/
  | enclosing (anchor : String)
  deriving Repr, Inhabited

namespace Node

/-- What stands where nothing is written. -/
def empty : Node := .scalar none true ""

/-! ### Nodes inside themselves -/

mutual

/-- Puts a node in the place of an enclosing one. -/
def replace (anchor : String) (node : Node) : Node → Node
  | scalar tag plain text => scalar tag plain text
  | sequence tag items => sequence tag (replaceItems anchor node items)
  | mapping tag entries => mapping tag (replaceEntries anchor node entries)
  | enclosing a => if a = anchor then node else enclosing a

def replaceItems (anchor : String) (node : Node) : List Node → List Node
  | [] => []
  | n :: ns => replace anchor node n :: replaceItems anchor node ns

def replaceEntries (anchor : String) (node : Node) : List (Node × Node) → List (Node × Node)
  | [] => []
  | (k, v) :: es =>
      (replace anchor node k, replace anchor node v) :: replaceEntries anchor node es

end

/-- A node of the same kind with nothing in it. -/
def hollow : Node → Node
  | sequence tag _ => sequence tag []
  | mapping tag _ => mapping tag []
  | n => n

/-- Follows references to the node from inside for a number of times. -/
def unroll (anchor : String) (n : Node) : Nat → Node
  | 0 => n.hollow
  | laps + 1 => replace anchor (n.unroll anchor laps) n

/-- How often a reference to a node from inside is followed. -/
def laps : Nat := 3

/-! ### Reading nodes -/

/-- The tokens to come, and the nodes with anchors so far. -/
structure Build where
  tokens : List Token
  anchors : List (String × Node) := []
  deriving Inhabited

def Build.drop (b : Build) (rest : List Token) : Build := { b with tokens := rest }

def Build.note (anchor : Option String) (node : Node) (b : Build) : Build :=
  match anchor with
  | some a => { b with anchors := (a, node) :: b.anchors }
  | none => b

/-- Where a node stands. -/
inductive Place where
  | block
  /-- As a key or a value of a block, where the items of a sequence need no indentation. -/
  | entry
  | flow
  deriving DecidableEq, Repr

/-- The anchor and the tag of a node, in either order, and what follows. -/
def properties : List Token → Option String × Option (Option String × String) × List Token
  | .anchor a :: .tag h s :: ts => (some a, some (h, s), ts)
  | .anchor a :: ts => (some a, none, ts)
  | .tag h s :: .anchor a :: ts => (some a, some (h, s), ts)
  | .tag h s :: ts => (none, some (h, s), ts)
  | ts => (none, none, ts)

/-- A tag in full. -/
def resolveTag (handles : List (String × String)) : Option String → String → Option String
  | none, suffix => some suffix
  | some handle, suffix => (handles.lookup handle).map (· ++ suffix)

/-- Reads a node, unless one of some tokens comes next: then nothing is written there. -/
def orEmpty (stops : List Token) (read : Build → Option (Node × Build)) (b : Build) :
    Option (Node × Build) :=
  match b.tokens with
  | t :: _ => if t ∈ stops then some (empty, b) else read b
  | [] => read b

/-- The value after a key, if there is one. -/
def valueAfter (stops : List Token) (read : Build → Option (Node × Build)) (b : Build) :
    Option (Node × Build) :=
  match b.tokens with
  | .value :: ts => orEmpty stops read (b.drop ts)
  | _ => some (empty, b)

/-- The position after the comma before an entry; the first one has none. -/
def afterComma (first : Bool) (b : Build) : Option Build :=
  if first then some b
  else match b.tokens with
    | .flowEntry :: ts => some (b.drop ts)
    | _ => none

/-- Reads what is in a collection. Inside it the anchor refers to the node around. -/
def collection {α : Type} (anchor : Option String) (make : List α → Node)
    (read : Build → Option (List α × Build)) (b : Build) : Option (Node × Build) := do
  let inside := match anchor with
    | some a => b.note (some a) (.enclosing a)
    | none => b
  let (items, b) ← read inside
  let node := match anchor with
    | some a => (make items).unroll a laps
    | none => make items
  return (node, b.note anchor node)

mutual

/-- Reads a node; the first number bounds the depth of the reading. -/
def read (handles : List (String × String)) : Nat → Place → Build → Option (Node × Build)
  | 0, _, _ => none
  | n + 1, place, b =>
      match b.tokens with
      | .reference a :: ts => (b.anchors.lookup a).map (·, b.drop ts)
      | _ => do
          let (anchor, written, rest) := properties b.tokens
          guard (anchor.all fun a => (b.anchors.lookup a).isNone)
          let tag ← match written with
            | some (handle, suffix) => (resolveTag handles handle suffix).map some
            | none => some none
          let byForm := tag == some "!"
          let tag := tag.filter (· != "!")
          let b := b.drop rest
          let leaf (plain : Bool) (text : String) (rest : List Token) : Option (Node × Build) :=
            let node := scalar tag (plain || byForm) text
            some (node, (b.drop rest).note anchor node)
          match place, rest with
          | .entry, .blockEntry :: _ =>
              collection anchor (sequence tag) (readLooseItems handles n) b
          | _, .scalar text plain :: ts => leaf plain text ts
          | _, .flowSequenceStart :: ts =>
              collection anchor (sequence tag) (readFlowItems handles n true) (b.drop ts)
          | _, .flowMappingStart :: ts =>
              collection anchor (mapping tag) (readFlowEntries handles n true) (b.drop ts)
          | .block, .blockSequenceStart :: ts | .entry, .blockSequenceStart :: ts =>
              collection anchor (sequence tag) (readItems handles n) (b.drop ts)
          | .block, .blockMappingStart :: ts | .entry, .blockMappingStart :: ts =>
              collection anchor (mapping tag) (readEntries handles n) (b.drop ts)
          | _, _ => if anchor.isSome ∨ written.isSome then leaf true "" rest else none

/-- The items of a block, up to its end. -/
def readItems (handles : List (String × String)) : Nat → Build → Option (List Node × Build)
  | 0, _ => none
  | n + 1, b =>
      match b.tokens with
      | .blockEntry :: ts => do
          let (item, b) ← orEmpty [.blockEntry, .blockEnd] (read handles n .block) (b.drop ts)
          let (items, b) ← readItems handles n b
          return (item :: items, b)
      | .blockEnd :: ts => some ([], b.drop ts)
      | _ => none

/-- Items that are no block of their own. -/
def readLooseItems (handles : List (String × String)) : Nat → Build → Option (List Node × Build)
  | 0, _ => none
  | n + 1, b =>
      match b.tokens with
      | .blockEntry :: ts => do
          let stops := [Token.blockEntry, .key, .value, .blockEnd]
          let (item, b) ← orEmpty stops (read handles n .block) (b.drop ts)
          let (items, b) ← readLooseItems handles n b
          return (item :: items, b)
      | _ => some ([], b)

/-- The entries of a block, up to its end. -/
def readEntries (handles : List (String × String)) :
    Nat → Build → Option (List (Node × Node) × Build)
  | 0, _ => none
  | n + 1, b =>
      match b.tokens with
      | .key :: ts => do
          let stops := [Token.key, .value, .blockEnd]
          let (key, b) ← orEmpty stops (read handles n .entry) (b.drop ts)
          let (value, b) ← valueAfter stops (read handles n .entry) b
          let (entries, b) ← readEntries handles n b
          return ((key, value) :: entries, b)
      | .blockEnd :: ts => some ([], b.drop ts)
      | _ => none

/-- The items in square brackets. A key among them makes a mapping of one entry. -/
def readFlowItems (handles : List (String × String)) :
    Nat → Bool → Build → Option (List Node × Build)
  | 0, _, _ => none
  | n + 1, first, b =>
      match b.tokens with
      | .flowSequenceEnd :: ts => some ([], b.drop ts)
      | _ => do
          let b ← afterComma first b
          match b.tokens with
          | .flowSequenceEnd :: ts => some ([], b.drop ts)
          | .key :: ts => do
              let stops := [Token.flowEntry, .flowSequenceEnd]
              let (key, b) ← orEmpty (.value :: stops) (read handles n .flow) (b.drop ts)
              let (value, b) ← valueAfter stops (read handles n .flow) b
              let (items, b) ← readFlowItems handles n false b
              return (mapping none [(key, value)] :: items, b)
          | _ => do
              let (item, b) ← read handles n .flow b
              let (items, b) ← readFlowItems handles n false b
              return (item :: items, b)

/-- The entries in curly brackets. A node without a mark of a key has no value. -/
def readFlowEntries (handles : List (String × String)) :
    Nat → Bool → Build → Option (List (Node × Node) × Build)
  | 0, _, _ => none
  | n + 1, first, b =>
      match b.tokens with
      | .flowMappingEnd :: ts => some ([], b.drop ts)
      | _ => do
          let b ← afterComma first b
          match b.tokens with
          | .flowMappingEnd :: ts => some ([], b.drop ts)
          | .key :: ts => do
              let stops := [Token.flowEntry, .flowMappingEnd]
              let (key, b) ← orEmpty (.value :: stops) (read handles n .flow) (b.drop ts)
              let (value, b) ← valueAfter stops (read handles n .flow) b
              let (entries, b) ← readFlowEntries handles n false b
              return ((key, value) :: entries, b)
          | _ => do
              let (key, b) ← read handles n .flow b
              let (entries, b) ← readFlowEntries handles n false b
              return ((key, empty) :: entries, b)

end

/-! ### Documents -/

/-- The handles that need no declaration. -/
def standardHandles : List (String × String) := [("!", "!"), ("!!", "tag:yaml.org,2002:")]

/-- The handles that are declared before a document, and what follows. There is at most one version,
which is one of the first series. -/
def declared (versioned : Bool) (handles : List (String × String)) :
    List Token → Option (List (String × String) × List Token)
  | .directive (.version major) :: ts =>
      if versioned ∨ major ≠ 1 then none else declared true handles ts
  | .directive (.tagHandle handle replacement) :: ts =>
      if (handles.lookup handle).isSome then none
      else declared versioned ((handle, replacement) :: handles) ts
  | .directive .other :: ts => declared versioned handles ts
  | ts => some (handles ++ standardHandles, ts)

/-- Reads the node of a document, after which nothing but ends of documents may come. -/
def readLast (handles : List (String × String)) (ts : List Token) : Option Node := do
  let (node, b) ← read handles (3 * ts.length + 3) .block { tokens := ts }
  guard (b.tokens.all (· == .documentEnd))
  return node

/-- The only document of a stream, if there is one. -/
def ofTokens (ts : List Token) : Option (Option Node) :=
  match ts with
  | [] => some none
  | .directive _ :: _ | .documentStart :: _ => do
      let (handles, ts) ← declared false [] ts
      match ts with
      | .documentStart :: ts =>
          if ts.all (· == .documentEnd) then some (some empty) else (readLast handles ts).map some
      | _ => none
  | ts => (readLast standardHandles ts).map some

end Node

end TypedClients.Settings.Yaml
