import TypedClients.Code.Literal

/-!
# Tokens of source code

A token is a name, a reserved word, a number, a piece of quoted text, an operator, or one of the
layout tokens that end a line and open and close an indented block.
-/
namespace TypedClients.Code

/-- Quoted text as written: the markers before the quotes, and what stands between the quotes. -/
structure QuotedPiece where
  /-- Backslashes stand for themselves. -/
  raw : Bool
  bytes : Bool
  /-- The text holds replacement fields. -/
  formatted : Bool
  /-- The marker is a small `u`. -/
  marked : Bool
  body : List Char
  deriving DecidableEq, Repr, Inhabited

inductive Token where
  | name (text : String)
  | word (text : String)
  | number (value : Literal)
  | quoted (piece : QuotedPiece)
  | op (symbol : String)
  | newline
  | indent
  | dedent
  deriving DecidableEq, Repr, Inhabited

/-- The words that cannot be used as names. -/
def reservedWords : List String :=
  ["False", "None", "True", "and", "as", "assert", "async", "await", "break", "class", "continue",
    "def", "del", "elif", "else", "except", "finally", "for", "from", "global", "if", "import",
    "in", "is", "lambda", "nonlocal", "not", "or", "pass", "raise", "return", "try", "while",
    "with", "yield"]

/-- The operators and delimiters of three, two and one characters. -/
def operatorSymbols : List (List String) :=
  [["**=", "...", "//=", "<<=", ">>="],
    ["!=", "%=", "&=", "**", "*=", "+=", "-=", "->", "//", "/=", ":=", "<<", "<=", "==", ">=",
      ">>", "@=", "^=", "|="],
    ["%", "&", "(", ")", "*", "+", ",", "-", ".", "/", ":", ";", "<", "=", ">", "@", "[", "]",
      "^", "\x7b", "|", "\x7d", "~"]]

end TypedClients.Code
