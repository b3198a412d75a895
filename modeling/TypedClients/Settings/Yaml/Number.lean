import TypedClients.Failure
import TypedClients.Settings.Numeral
import TypedClients.Text.Blank

/-!
# Numbers in YAML

The forms of whole and of floating numbers, in which underscores may divide digits and colons divide
places of sixty; and the values of texts that are marked as numbers, which may have other forms or
none.
-/
namespace TypedClients.Settings.Yaml

open TypedClients.Text

/-! ### Forms -/

/-- A digit, or the underscore between digits. -/
def isGrouped (c : Char) : Bool := isDigit c || c == '_'

/-- Digits in groups, and what follows. -/
def digitRun : List Char → Option (List Char × List Char)
  | [] => none
  | c :: cs => if isDigit c then some (c :: cs.takeWhile isGrouped, cs.dropWhile isGrouped) else none

/-- Whether digits denote a number below sixty. -/
def isSixtieth : List Char → Bool
  | [c] => isDigit c
  | [c, d] => '0' ≤ c && c ≤ '5' && isDigit d
  | _ => false

/-- Whether a text has the form of a whole number. -/
def isIntForm (cs : List Char) : Bool :=
  let isDigitOf (base : Nat) (c : Char) : Bool := c == '_' || (valueInBase? base [c]).isSome
  let body := (sign cs).2
  match body with
  | [] => false
  | ['0'] => true
  | '0' :: 'b' :: ds => ! ds.isEmpty && ds.all (isDigitOf 2)
  | '0' :: 'x' :: ds => ! ds.isEmpty && ds.all (isDigitOf 16)
  | '0' :: ds => ds.all (isDigitOf 8)
  | c :: _ =>
      isDigit c && match splitOn ':' body with
        | whole :: parts => whole.all isGrouped && parts.all isSixtieth
        | [] => false

/-- Whether a text is a power of ten with its sign, or nothing. -/
def isPower : List Char → Bool
  | [] => true
  | e :: s :: d :: ds => (e == 'e' || e == 'E') && (s == '+' || s == '-') && (d :: ds).all isDigit
  | _ => false

/-- Whether the parts of a text between colons are places of sixty, the last one with a point. -/
def isSixtyFloat : List (List Char) → Bool
  | [] | [_] => false
  | whole :: parts =>
      let last := parts.getLastD []
      (match digitRun whole with
        | some (_, []) => true
        | _ => false) &&
      parts.dropLast.all isSixtieth && last.contains '.' &&
      isSixtieth (last.takeWhile (· != '.')) && ((last.dropWhile (· != '.')).drop 1).all isGrouped

/-- Whether a text has the form of a floating number. -/
def isFloatForm (cs : List Char) : Bool :=
  let body := (sign cs).2
  let bare := match cs with
    | '.' :: ds => match digitRun ds with
        | some (_, rest) => isPower rest
        | none => false
    | _ => false
  let pointed := match digitRun body with
    | some (_, '.' :: rest) => isPower (rest.dropWhile isGrouped)
    | _ => false
  bare || pointed || isSixtyFloat (splitOn ':' body) ||
    String.ofList body ∈ [".inf", ".Inf", ".INF"] || String.ofList cs ∈ [".nan", ".NaN", ".NAN"]

/-! ### Values -/

def withoutUnderscores (cs : List Char) : List Char := cs.filter (· != '_')

/-- The mark of a base before digits. -/
def dropBaseMark (base : Nat) : List Char → List Char
  | '0' :: c :: cs =>
      let marks := match base with
        | 2 => ['b', 'B']
        | 8 => ['o', 'O']
        | 16 => ['x', 'X']
        | _ => []
      if c ∈ marks then cs else '0' :: c :: cs
  | cs => cs

/-- The whole number that a text denotes in a base. -/
def intInBase (base : Nat) (cs : List Char) : Except Fault Int :=
  let (negative, body) := sign (trim cs)
  let ds := dropBaseMark base body
  match if ds.isEmpty then none else valueInBase? base ds with
  | some n => .ok (signed negative n)
  | none => .error (.noSuchValue ("invalid literal for int() with base " ++ decimal base ++ ": " ++
      quotedString (String.ofList cs)))

/-- The value of places of sixty. -/
def ofSixties (places : List Int) : Int := places.foldl (fun n place => n * 60 + place) 0

/-- The value of a text that is marked as a whole number. -/
def intValue (text : List Char) : Except Fault Int := do
  let (negative, body) := sign (withoutUnderscores text)
  let magnitude ← match body with
    | [] => .error .emptyNumber
    | ['0'] => .ok 0
    | '0' :: 'b' :: ds => intInBase 2 ds
    | '0' :: 'x' :: ds => intInBase 16 ds
    | '0' :: _ => intInBase 8 body
    | _ => (splitOn ':' body).mapM (intInBase 10) |>.map ofSixties
  return if negative then -magnitude else magnitude

/-- The floating number that a text denotes, if it is one; it is `none` inside where the number is no
whole one. -/
def floatOf? (cs : List Char) : Option (Option Int) := do
  let (negative, body) := sign (trim cs)
  if String.ofList body ∈ ["inf", "infinity", "nan"] then return none
  let whole := body.takeWhile isDigit
  let rest := body.dropWhile isDigit
  let (part, rest) := match rest with
    | '.' :: rest => (rest.takeWhile isDigit, rest.dropWhile isDigit)
    | rest => ([], rest)
  guard (! (whole ++ part).isEmpty)
  let power ← match rest with
    | [] => some 0
    | 'e' :: rest =>
        let (negative, ds) := sign rest
        if ds.isEmpty ∨ ! ds.all isDigit then none else some (signed negative (decimalValue ds))
    | _ => none
  match floating negative whole part power with
  | .float n => return n
  | _ => none

/-- The sum of places of sixty, where all are whole numbers. -/
def floatSixties (places : List (Option Int)) : Option Int := (places.mapM id).map ofSixties

/-- The value of a text that is marked as a floating number. -/
def floatValue (text : List Char) : Except Fault (Option Int) := do
  let lower := (withoutUnderscores text).map Char.toLower
  let (negative, body) := sign lower
  if lower.isEmpty then .error .emptyNumber
  else if String.ofList body ∈ [".inf", ".nan"] then return none
  else
    let places ← (splitOn ':' body).mapM fun cs => match floatOf? cs with
      | some n => .ok n
      | none => .error (.noSuchValue ("could not convert string to float: " ++
          quotedString (String.ofList cs)))
    return (floatSixties places).map fun n => if negative then -n else n

end TypedClients.Settings.Yaml
