/-!
# Tokens of YAML

A token is a mark of structure, a property of a node, or a scalar. Block structure is marked where
it starts and where it ends, as flow structure is by brackets.
-/
namespace TypedClients.Settings.Yaml

/-- What a document says about itself before it starts. -/
inductive Directive where
  | version (major : Nat)
  /-- A handle of tags and what it is short for. -/
  | tagHandle (handle replacement : String)
  | other
  deriving DecidableEq, Repr, Inhabited

inductive Token where
  | directive (value : Directive)
  | documentStart
  | documentEnd
  | blockSequenceStart
  | blockMappingStart
  | blockEnd
  | flowSequenceStart
  | flowSequenceEnd
  | flowMappingStart
  | flowMappingEnd
  | blockEntry
  | flowEntry
  | key
  | value
  /-- Refers to the node with an anchor. -/
  | reference (name : String)
  | anchor (name : String)
  | tag (handle : Option String) (suffix : String)
  /-- Text; `plain` when it is written without quotes on its own lines. -/
  | scalar (text : String) (plain : Bool)
  deriving DecidableEq, Repr, Inhabited

end TypedClients.Settings.Yaml
