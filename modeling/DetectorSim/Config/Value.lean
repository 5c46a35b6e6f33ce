import DetectorSim.Text.Space

/-!
Raw configuration values as trees of scalars and lists. White space and commas
separate items, square brackets enclose lists, and a text between quotes of one
kind is always a single scalar. A value with exactly one item is that item.
-/

namespace DetectorSim.Config

/-- A parsed configuration value. -/
inductive Value where
  | scalar (text : String)
  | list (items : List Value)
  deriving Repr, Inhabited

/-- Why a text is not a value. -/
inductive ValueFault where
  | unmatchedBracket
  | unterminatedList
  | missingQuote (quote : Char)
  deriving DecidableEq, Repr

/-- The wording of a fault. -/
def ValueFault.message : ValueFault → String
  | .unmatchedBracket => "unmatched ']'"
  | .unterminatedList => "unterminated '['"
  | .missingQuote quote => "missing closing " ++ String.ofList [quote]

namespace Value

/-- The characters that separate items. -/
def isSeparator (c : Char) : Bool :=
  Text.isSpace c || c == ','

/-- The two quote characters. -/
def isQuote (c : Char) : Bool :=
  c == '\x22' || c == '\x27'

/-- The characters that end a bare scalar. -/
def endsBare (c : Char) : Bool :=
  isSeparator c || c == '[' || c == ']' || isQuote c

/-- The parts of a value text: brackets, scalars, and a quote that is never closed. -/
inductive Token where
  | opening
  | closing
  | scalar (text : String)
  | unclosed (quote : Char)
  deriving DecidableEq, Repr

/-- Where a scan stands: between scalars, in a bare scalar, or behind an open quote. The
characters of the current scalar are kept last first. -/
inductive Scan where
  | between
  | bare (seen : List Char)
  | quoted (quote : Char) (seen : List Char)

/-- The scalar made of characters kept last first. -/
def Token.ofSeen (seen : List Char) : Token :=
  .scalar (String.ofList seen.reverse)

/-- What a character between scalars begins. -/
def Scan.begin (c : Char) : List Token × Scan :=
  if isSeparator c then ([], .between)
  else if c = '[' then ([.opening], .between)
  else if c = ']' then ([.closing], .between)
  else if isQuote c then ([], .quoted c [])
  else ([], .bare [c])

/-- Reads one character. -/
def Scan.step : Scan → Char → List Token × Scan
  | .between, c => Scan.begin c
  | .bare seen, c =>
    if endsBare c then (Token.ofSeen seen :: (Scan.begin c).1, (Scan.begin c).2)
    else ([], .bare (c :: seen))
  | .quoted quote seen, c =>
    if c = quote then ([Token.ofSeen seen], .between) else ([], .quoted quote (c :: seen))

/-- What is left at the end of the text. -/
def Scan.finish : Scan → List Token
  | .between => []
  | .bare seen => [Token.ofSeen seen]
  | .quoted quote _ => [.unclosed quote]

/-- The tokens of a text. -/
def tokens : Scan → List Char → List Token
  | scan, [] => scan.finish
  | scan, c :: rest => (scan.step c).1 ++ tokens (scan.step c).2 rest

/-- Gathers tokens into items. `outer` holds the items before each open bracket, innermost
first, and `items` those of the current list; both last first. -/
def gather : List Token → (outer : List (List Value)) → (items : List Value) →
    Except ValueFault (List Value)
  | [], [], items => .ok items.reverse
  | [], _ :: _, _ => .error .unterminatedList
  | .opening :: rest, outer, items => gather rest (items :: outer) []
  | .closing :: _, [], _ => .error .unmatchedBracket
  | .closing :: rest, before :: outer, items => gather rest outer (.list items.reverse :: before)
  | .scalar text :: rest, outer, items => gather rest outer (.scalar text :: items)
  | .unclosed quote :: _, _, _ => .error (.missingQuote quote)

/-- A single item stands for itself; any other number of items is a list. -/
def ofItems : List Value → Value
  | [item] => item
  | items => .list items

/-- Reads a value. -/
def parse (text : String) : Except ValueFault Value :=
  (gather (tokens .between text.toList) [] []).map ofItems

/-- The scalar that a value holds; a list of one element is unwrapped. The fault is the number
of elements found instead. -/
def asScalar : Value → Except Nat String
  | .scalar text => .ok text
  | .list [] => .error 0
  | .list [item] => item.asScalar
  | .list (_ :: _ :: rest) => .error (rest.length + 2)

end Value

end DetectorSim.Config
