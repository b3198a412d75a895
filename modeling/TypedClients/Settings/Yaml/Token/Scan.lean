import TypedClients.Settings.Yaml.Scalar
import TypedClients.Settings.Yaml.Token
import TypedClients.Text.Utf8

/-!
# Reading tokens of YAML

Tokens are read from left to right. Two things are known only later: a block ends where a line is
indented less, and a key is one only when a colon follows it on its line. So the columns of the open
blocks are kept, and the place where a key may have started, to mark it there.
-/
namespace TypedClients.Settings.Yaml

open TypedClients.Text

/-! ### Names, tags and directives -/

/-- A character of names of anchors, handles and directives. -/
def isNameChar (c : Char) : Bool := c.isAlphanum || c == '-' || c == '_'

/-- A name of at least one character. -/
def nonemptyName (c : Cursor) : Option (String × Cursor) :=
  match c.takeWhile isNameChar with
  | ([], _) => none
  | (cs, c) => some (String.ofList cs, c)

/-- The name of an anchor. It ends at a blank or at some marks. -/
def anchorName (c : Cursor) : Option (String × Cursor) := do
  let (name, c) ← nonemptyName c
  guard (isBlankOrEnd c.next || "?:,]\x7d%@`".toList.contains c.next)
  return (name, c)

def isAddressChar (c : Char) : Bool :=
  c.isAlphanum || "-;/?:@&=+$,_.!~*'()[]".toList.contains c

/-- The bytes that are written as numbers in base sixteen. The first argument bounds their number. -/
def numberedBytes : Nat → Cursor → Option (List UInt8 × Cursor)
  | 0, c => some ([], c)
  | n + 1, c =>
      if c.next ≠ '%' then some ([], c)
      else do
        let ds := c.step.rest.take 2
        guard (ds.length = 2)
        let value ← valueInBase? 16 ds
        let (bytes, c) ← numberedBytes n (c.skip 3)
        return (UInt8.ofNat value :: bytes, c)

/-- The characters of an address; the first argument bounds the number of its parts. -/
def addressText : Nat → Cursor → Option (List Char × Cursor)
  | 0, c => some ([], c)
  | n + 1, c =>
      if c.next = '%' then do
        let (bytes, c) ← numberedBytes (c.rest.length + 1) c
        let cs ← (decodeUtf8 bytes).toOption
        let (more, c) ← addressText n c
        return (cs ++ more, c)
      else if isAddressChar c.next then do
        let (more, c') ← addressText n c.step
        return (c.next :: more, c')
      else some ([], c)

/-- An address of at least one character. -/
def address (c : Cursor) : Option (String × Cursor) := do
  let (cs, c) ← addressText (c.rest.length + 1) c
  guard (! cs.isEmpty)
  return (String.ofList cs, c)

/-- A handle: one exclamation mark, or a name between two. -/
def tagHandle (c : Cursor) : Option (String × Cursor) := do
  guard (c.next = '!')
  if c.ahead 1 = ' ' then return ("!", c.step)
  let (name, c) := c.step.takeWhile isNameChar
  guard (c.next = '!')
  return ("!" ++ String.ofList name ++ "!", c.step)

/-- A tag: an address in brackets, the mark alone, or a handle with the rest of the address. -/
def tagToken (c : Cursor) : Option (Token × Cursor) := do
  let after := c.ahead 1
  let (tag, c) ←
    if after = '<' then do
      let (suffix, c) ← address (c.skip 2)
      guard (c.next = '>')
      pure (Token.tag none suffix, c.step)
    else if isBlankOrEnd after then pure (Token.tag none "!", c.step)
    else do
      let word := c.step.rest.takeWhile (! isSpaceOrEnd ·)
      let (handle, c) ← if word.contains '!' then tagHandle c else pure ("!", c.step)
      let (suffix, c) ← address c
      pure (Token.tag (some handle) suffix, c)
  guard (isSpaceOrEnd c.next)
  return (tag, c)

def digitsOf (c : Cursor) : Option (Nat × Cursor) :=
  match c.takeWhile isDigit with
  | ([], _) => none
  | (ds, c) => some (decimalValue ds, c)

/-- The rest of a directive after its name. -/
def directiveValue (name : String) (c : Cursor) : Option (Directive × Cursor) := do
  let skipSpaces (c : Cursor) := c.skipWhile (· == ' ')
  match name with
  | "YAML" => do
      let (major, c) ← digitsOf (skipSpaces c)
      guard (c.next = '.')
      let (_, c) ← digitsOf c.step
      guard (isSpaceOrEnd c.next)
      return (.version major, c)
  | "TAG" => do
      let (handle, c) ← tagHandle (skipSpaces c)
      guard (c.next = ' ')
      let (replacement, c) ← address (skipSpaces c)
      guard (isSpaceOrEnd c.next)
      return (.tagHandle handle replacement, c)
  | _ => return (.other, c.skipWhile (! isBreakOrEnd ·))

/-- A directive after its mark, with the rest of its line. -/
def directive (c : Cursor) : Option (Directive × Cursor) := do
  let (name, c) ← nonemptyName c
  guard (isSpaceOrEnd c.next)
  let (value, c) ← directiveValue name c
  return (value, ← skipIgnored c)

/-! ### The state of reading -/

/-- A place where a key may start. -/
structure PossibleKey where
  /-- The number of tokens before it. -/
  position : Nat
  /-- Nothing but a key can stand there. -/
  required : Bool
  start : Cursor
  deriving Repr, Inhabited

structure Scan where
  cursor : Cursor
  /-- The tokens so far, the last one first. -/
  tokens : List Token := []
  /-- The columns of the open blocks, the innermost one first. -/
  columns : List Nat := []
  keyAllowed : Bool := true
  key : Option PossibleKey := none
  /-- The possible keys outside of each open bracket. -/
  outerKeys : List (Option PossibleKey) := []
  deriving Repr, Inhabited

namespace Scan

/-- Whether brackets are open; in them indentation means nothing. -/
def inFlow (s : Scan) : Bool := ! s.outerKeys.isEmpty

/-- The column of the innermost block. -/
def indent (s : Scan) : Int :=
  match s.columns with
  | [] => -1
  | column :: _ => column

def emit (token : Token) (s : Scan) : Scan := { s with tokens := token :: s.tokens }

/-- Puts tokens after the given number of others. -/
def insert (position : Nat) (tokens : List Token) (s : Scan) : Scan :=
  let late := s.tokens.take (s.tokens.length - position)
  { s with tokens := late ++ tokens.reverse ++ s.tokens.drop late.length }

/-- Forgets the possible key; nothing if there had to be one. -/
def dropKey (s : Scan) : Option Scan :=
  if s.key.any (·.required) then none else some { s with key := none }

/-- The greatest number of characters in a key. -/
def maxKeyLength : Nat := 1024

/-- Whether a key that started there can still end here. -/
def isLive (c : Cursor) (key : PossibleKey) : Bool :=
  key.start.line == c.line && decide (c.index - key.start.index ≤ maxKeyLength)

/-- Forgets the possible keys that have become too long. -/
def dropStale (s : Scan) : Option Scan :=
  let isStale (key : PossibleKey) := ! isLive s.cursor key
  if (s.key :: s.outerKeys).any (·.any fun key => isStale key && key.required) then none
  else some { s with key := s.key.filter (isLive s.cursor)
                     outerKeys := s.outerKeys.map (·.filter (isLive s.cursor)) }

/-- Closes the blocks to the right of a column. -/
def closeBlocks (column : Int) (s : Scan) : Scan :=
  if s.inFlow then s
  else
    let kept := s.columns.dropWhile fun (n : Nat) => column < n
    let closed := s.columns.length - kept.length
    { s with columns := kept, tokens := List.replicate closed .blockEnd ++ s.tokens }

/-- Whether a block that starts at a column is a new one. -/
def isDeeper (column : Nat) (s : Scan) : Bool := s.indent < column

/-- Opens a block here, unless one is open in this column. -/
def openBlock (token : Token) (s : Scan) : Scan :=
  let column := s.cursor.column
  if s.isDeeper column then { s.emit token with columns := column :: s.columns } else s

/-- Notes that a key may start here. -/
def noteKey (s : Scan) : Option Scan :=
  if s.keyAllowed then do
    let required := ! s.inFlow && s.indent == s.cursor.column
    return { ← s.dropKey with key := some ⟨s.tokens.length, required, s.cursor⟩ }
  else some s

def moveTo (cursor : Cursor) (s : Scan) : Scan := { s with cursor }

def skip (n : Nat) (s : Scan) : Scan := s.moveTo (s.cursor.skip n)

def allowKey (keyAllowed : Bool) (s : Scan) : Scan := { s with keyAllowed }

/-! ### Reading one token -/

/-- A token that may be a key or a part of one. -/
def node (read : Cursor → Option (Token × Cursor)) (s : Scan) : Option Scan := do
  let s ← s.noteKey
  let (token, c) ← read s.cursor
  return ((s.emit token).moveTo c).allowKey false

/-- A directive or a mark between documents: all blocks end. -/
def betweenDocuments (read : Cursor → Option (Token × Cursor)) (s : Scan) : Option Scan := do
  let s ← (s.closeBlocks (-1)).dropKey
  let (token, c) ← read s.cursor
  return ((s.emit token).moveTo c).allowKey false

def openFlow (token : Token) (s : Scan) : Option Scan := do
  let s ← s.noteKey
  return (({ s with key := none, outerKeys := s.key :: s.outerKeys }.emit token).skip 1).allowKey true

/-- A closing bracket, which needs an open one. -/
def closeFlow (token : Token) (s : Scan) : Option Scan := do
  let s ← s.dropKey
  match s.outerKeys with
  | [] => none
  | key :: outerKeys => return (({ s with key, outerKeys }.emit token).skip 1).allowKey false

def flowEntry (s : Scan) : Option Scan := do
  return (((← s.dropKey).emit .flowEntry).skip 1).allowKey true

/-- Opens a block for a mark outside of brackets, where a key must be allowed. -/
def openFor (token : Token) (s : Scan) : Option Scan :=
  if s.inFlow then some s else if s.keyAllowed then some (s.openBlock token) else none

def blockEntry (s : Scan) : Option Scan := do
  let s ← s.openFor .blockSequenceStart
  return (((← s.dropKey).emit .blockEntry).skip 1).allowKey true

/-- A mark before a key. -/
def explicitKey (s : Scan) : Option Scan := do
  let s ← s.openFor .blockMappingStart
  return (((← s.dropKey).emit .key).skip 1).allowKey (! s.inFlow)

/-- A colon: what started at the possible key is a key, and a mapping may start with it. -/
def value (s : Scan) : Option Scan := do
  let s ← match s.key with
    | some key =>
        let column := key.start.column
        let opens := ! s.inFlow && s.isDeeper column
        let s := { s with key := none, columns := if opens then column :: s.columns else s.columns }
        let tokens := if opens then [Token.blockMappingStart, .key] else [.key]
        some ((s.insert key.position tokens).allowKey false)
    | none => do
        let s ← s.openFor .blockMappingStart
        pure (s.allowKey (! s.inFlow))
  return (s.emit .value).skip 1

def blockText (folds : Bool) (s : Scan) : Option Scan := do
  let s ← s.dropKey
  let (cs, c) ← blockScalar folds s.indent s.cursor.step
  return ((s.emit (.scalar (String.ofList cs) false)).moveTo c).allowKey true

def quoted (double : Bool) (c : Cursor) : Option (Token × Cursor) := do
  let (cs, c) ← quotedText double (c.rest.length + 1) c.step
  return (.scalar (String.ofList cs) false, c)

/-- Plain text. After the end of its last line a key may follow. -/
def plain (s : Scan) : Option Scan := do
  let s ← s.noteKey
  let bound := s.cursor.rest.length + 1
  let (cs, c, crossed) := plainText s.inFlow (s.indent + 1) bound [] false s.cursor
  return ((s.emit (.scalar (String.ofList cs) true)).moveTo c).allowKey crossed

/-- Whether plain text starts with a character before another one. -/
def startsPlain (inFlow : Bool) (ch after : Char) : Bool :=
  (! isBlankOrEnd ch && ! "-?:,[]\x7b\x7d#&*!|>'\"%@`".toList.contains ch) ||
    (! isBlankOrEnd after && (ch == '-' || (! inFlow && (ch == '?' || ch == ':'))))

/-- Reads the next token. The cursor stands at its first character. -/
def token (s : Scan) : Option Scan :=
  let c := s.cursor
  let separate := isBlankOrEnd (c.ahead 1)
  let marker (token : Token) := s.betweenDocuments fun c => some (token, c.skip 3)
  if c.column = 0 ∧ c.next = '%' then
    s.betweenDocuments fun c => (directive c.step).map fun (value, c) => (.directive value, c)
  else if c.column = 0 ∧ c.atMarker '-' then marker .documentStart
  else if c.column = 0 ∧ c.atMarker '.' then marker .documentEnd
  else match c.next with
    | '[' => s.openFlow .flowSequenceStart
    | '\x7b' => s.openFlow .flowMappingStart
    | ']' => s.closeFlow .flowSequenceEnd
    | '\x7d' => s.closeFlow .flowMappingEnd
    | ',' => s.flowEntry
    | '*' => s.node fun c => (anchorName c.step).map fun (name, c) => (.reference name, c)
    | '&' => s.node fun c => (anchorName c.step).map fun (name, c) => (.anchor name, c)
    | '!' => s.node tagToken
    | '"' => s.node (quoted true)
    | '\'' => s.node (quoted false)
    | ch =>
        if ch = '-' ∧ separate then s.blockEntry
        else if ch = '?' ∧ (s.inFlow ∨ separate) then s.explicitKey
        else if ch = ':' ∧ (s.inFlow ∨ separate) then s.value
        else if ch = '|' ∧ ! s.inFlow then s.blockText false
        else if ch = '>' ∧ ! s.inFlow then s.blockText true
        else if startsPlain s.inFlow ch (c.ahead 1) then s.plain
        else none

/-- Skips what stands between tokens; the first argument bounds the number of lines. On a new line
outside of brackets a key may start. -/
def skipToToken : Nat → Scan → Scan
  | 0, s => s
  | n + 1, s =>
      let c := s.cursor.skipWhile (· == ' ')
      let c := if c.next = '#' then c.skipWhile (! isBreakOrEnd ·) else c
      match c.lineBreak? with
      | some (_, c) => skipToToken n ((s.moveTo c).allowKey (s.keyAllowed || ! s.inFlow))
      | none => s.moveTo c

/-- Reads all tokens; the first argument bounds their number. -/
def allTokens : Nat → Scan → Option (List Token)
  | 0, _ => none
  | n + 1, s => do
      let s ← (s.skipToToken (s.cursor.rest.length + 1)).dropStale
      let s := s.closeBlocks s.cursor.column
      if s.cursor.next = endMark then return (← (s.closeBlocks (-1)).dropKey).tokens.reverse
      else allTokens n (← s.token)

end Scan

/-- Whether a character may stand in a text. -/
def isPermitted (c : Char) : Bool :=
  let n := c.toNat
  n = 9 || n = 10 || n = 13 || (32 ≤ n && n ≤ 126) || n = 0x85 || (0xa0 ≤ n && n ≤ 0xd7ff) ||
    (0xe000 ≤ n && n ≤ 0xfffd) || 0x10000 ≤ n

/-- The tokens of a text. A mark of byte order before it is no part of it. -/
def tokens (cs : List Char) : Option (List Token) := do
  guard (cs.all isPermitted)
  let start : Cursor := { rest := cs }
  let start := if start.next = '\ufeff' then start.step else start
  Scan.allTokens (cs.length + 1) { cursor := start }

end TypedClients.Settings.Yaml
