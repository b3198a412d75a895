import TypedClients.Settings.Yaml.Moment
import TypedClients.Settings.Yaml.Node
import TypedClients.Settings.Yaml.Number
import TypedClients.Settings.Yaml.Token.Scan
import TypedClients.Text.Base64

/-!
# Values of YAML documents

A node denotes a value by its tag, or by its form if it has none. Merge keys bring in the entries of
other mappings, which come first. A collection is made before what is in it, level by level: of two
nodes without a value the one at the higher level is refused.
-/
namespace TypedClients.Settings.Yaml

open TypedClients.Text

/-! ### Kinds -/

/-- What a tag says about a node. -/
inductive Kind where
  | null
  | bool
  | int
  | float
  | binary
  | moment
  | orderedMapping
  | pairs
  | set
  | text
  | sequence
  | mapping
  /-- The key that brings in other entries. -/
  | merge
  /-- The key of a value that stands for the whole mapping. -/
  | default
  | unknown
  deriving DecidableEq, Repr, Inhabited

namespace Kind

/-- What all tags of the standard start with. -/
def standardTag : String := "tag:yaml.org,2002:"

/-- The kinds that have a tag, with what it ends with. -/
def named : List (String × Kind) :=
  [("null", null), ("bool", bool), ("int", int), ("float", float), ("binary", binary),
    ("timestamp", moment), ("omap", orderedMapping), ("pairs", pairs), ("set", set), ("str", text),
    ("seq", sequence), ("map", mapping), ("merge", merge), ("value", default)]

def ofTag (tag : String) : Kind :=
  match named.find? fun (name, _) => tag == standardTag ++ name with
  | some (_, kind) => kind
  | none => unknown

def boolWords : List (String × Bool) :=
  [("yes", true), ("no", false), ("true", true), ("false", false), ("on", true), ("off", false)]

/-- Whether a text is a word in small letters, in capitals, or with one capital at its start. -/
def isWord (word text : String) : Bool :=
  let lower := word.toList
  let upper := lower.map Char.toUpper
  text.toList == lower || text.toList == upper || text.toList == upper.take 1 ++ lower.drop 1

/-- The kind of a plain text. -/
def ofForm (text : String) : Kind :=
  let cs := text.toList
  if boolWords.any fun (word, _) => isWord word text then bool
  else if isFloatForm cs then float
  else if isIntForm cs then int
  else if text = "<<" then merge
  else if text = "" ∨ text = "~" ∨ isWord "null" text then null
  else if Moment.isForm cs then moment
  else if text = "=" then default
  else Kind.text

/-- Whether values of a kind can change, so that they are no keys. -/
def isCollection : Kind → Bool
  | orderedMapping | pairs | set | sequence | mapping => true
  | _ => false

end Kind

/-- The kind of a node with a tag, or with another kind by its form. -/
def kindOr (form : Kind) : Option String → Kind
  | some tag => .ofTag tag
  | none => form

namespace Node

def kind : Node → Kind
  | scalar tag plain text => kindOr (if plain then .ofForm text else .text) tag
  | sequence tag _ => kindOr .sequence tag
  | mapping tag _ => kindOr .mapping tag
  | enclosing _ => .unknown

mutual

/-- The text of a scalar, or of the default value of a mapping. -/
def text? : Node → Option String
  | scalar _ _ text => some text
  | mapping _ entries => defaultText entries
  | _ => none

def defaultText : List (Node × Node) → Option String
  | [] => none
  | (k, v) :: es => if k.kind = .default then text? v else defaultText es

end

/-- A key that is no default but its text. -/
def asKey (key : Node) : Node :=
  match key with
  | scalar _ _ text => if key.kind = .default then scalar none false text else key
  | key => key

mutual

/-- The entries that the value of a merge key brings in: those of a mapping, or those of several
mappings, the last one first. -/
def merged : Node → Option (List (Node × Node))
  | mapping _ entries => (splitEntries entries).map fun (others, own) => others ++ own
  | sequence _ items => mergedItems items
  | _ => none

def mergedItems : List Node → Option (List (Node × Node))
  | [] => some []
  | mapping _ entries :: ns => do
      let (others, own) ← splitEntries entries
      return (← mergedItems ns) ++ (others ++ own)
  | _ => none

/-- The entries that merge keys bring into a mapping, and its own. -/
def splitEntries : List (Node × Node) → Option (List (Node × Node) × List (Node × Node))
  | [] => some ([], [])
  | (k, v) :: es => do
      if k.kind = .merge then
        let here ← merged v
        let (others, own) ← splitEntries es
        return (here ++ others, own)
      else
        let (others, own) ← splitEntries es
        return (others, (k.asKey, v) :: own)

end

mutual

/-- The number of nodes inside each other. -/
def depth : Node → Nat
  | sequence _ items => depthOfItems items + 1
  | mapping _ entries => depthOfEntries entries + 1
  | _ => 1

def depthOfItems : List Node → Nat
  | [] => 0
  | n :: ns => max (depth n) (depthOfItems ns)

def depthOfEntries : List (Node × Node) → Nat
  | [] => 0
  | (k, v) :: es => max (max (depth k) (depth v)) (depthOfEntries es)

end

end Node

/-! ### Values -/

/-- Why a text has no value. -/
inductive Refusal where
  | malformed
  | fault (fault : Fault)
  deriving DecidableEq, Repr, Inhabited

/-- A value, or the refusal with the level where it arises. -/
abbrev Leveled (α : Type) := Except (Nat × Refusal) α

/-- Both values, or the refusal at the higher level, the first one of two at the same. -/
def both {α β : Type} : Leveled α → Leveled β → Leveled (α × β)
  | .ok a, .ok b => .ok (a, b)
  | .error e, .ok _ => .error e
  | .ok _, .error e => .error e
  | .error e, .error e' => .error (if e'.1 < e.1 then e' else e)

def all {α : Type} : List (Leveled α) → Leveled (List α)
  | [] => .ok []
  | a :: as => (both a (all as)).map fun (a, as) => a :: as

def refuse {α : Type} (level : Nat) (why : Refusal) : Leveled α := .error (level, why)

/-- The value of a text of some kind. -/
def scalarValue (kind : Kind) (text : String) : Except Refusal Data :=
  let orFault {α : Type} (make : α → Data) : Except Fault α → Except Refusal Data
    | .ok a => .ok (make a)
    | .error e => .error (.fault e)
  match kind with
  | .null => .ok .null
  | .bool => match Kind.boolWords.lookup (text.map Char.toLower) with
      | some b => .ok (.bool b)
      | none => .error (.fault .noTruthValue)
  | .int => orFault .int (intValue text.toList)
  | .float => orFault .float (floatValue text.toList)
  | .binary =>
      match if text.toList.all (·.toNat < 128) then decodeBase64 text.toList else none with
      | some bytes => .ok (.bytes bytes)
      | none => .error .malformed
  | .moment => match Moment.read text.toList with
      | none => .error (.fault .noMoment)
      | some m => match m.problem? with
          | some problem => .error (.fault (.noSuchValue problem))
          | none => .ok .moment
  | .text => .ok (.text text)
  | _ => .error .malformed

/-- The only entry of a mapping. -/
def onlyEntry? : Node → Option (Node × Node)
  | .mapping _ [entry] => some entry
  | _ => none

/-- The value of a node; the first number bounds its depth, the second one is its level. What is in
a collection is at the next level. -/
def valueAt : Nat → Nat → Node → Leveled Data
  | 0, level, _ => refuse level .malformed
  | n + 1, level, node =>
      let inside := level + 1
      let value := valueAt n inside
      let keyValue (key : Node) : Leveled Data :=
        if key.kind.isCollection then refuse inside .malformed else value key
      let entries (node : Node) : Leveled (List (Data × Data)) :=
        match node with
        | .mapping _ es => match Node.splitEntries es with
            | some (others, own) =>
                all ((others ++ own).map fun (k, v) => both (keyValue k) (value v))
            | none => refuse inside .malformed
        | _ => refuse inside .malformed
      let pairs (node : Node) : Leveled Data :=
        match node with
        | .sequence _ items =>
            let pair (item : Node) : Leveled Data :=
              match onlyEntry? item with
              | some (k, v) => (both (value k) (value v)).map fun (k, v) => .list [k, v]
              | none => refuse inside .malformed
            (all (items.map pair)).map .list
        | _ => refuse inside .malformed
      match node.kind with
      | .sequence => match node with
          | .sequence _ items => (all (items.map value)).map .list
          | _ => refuse inside .malformed
      | .mapping => (entries node).map .mapping
      | .set => (entries node).map fun es => .set (es.map Prod.fst)
      | .orderedMapping | .pairs => pairs node
      | kind => match node.text? with
          | some text => (scalarValue kind text).mapError fun why => (level, why)
          | none => refuse level .malformed

/-- The value of a document; of an empty one it is null. -/
def read (s : String) : Except Refusal Data :=
  match (tokens s.toList).bind Node.ofTokens with
  | none => .error .malformed
  | some none => .ok .null
  | some (some node) => (valueAt (node.depth + 1) 0 node).mapError Prod.snd

end TypedClients.Settings.Yaml
