import LineShell.Text.Numeral
import LineShell.Toml.Lexical

/-!
# Strings in TOML

Basic strings have escapes, literal strings have none; either kind may run over several lines
between tripled quotes. A line end right after the opening quotes does not count, and every other
one counts as a line feed.
-/
namespace LineShell.Toml

/-- The character with the given hexadecimal digits. -/
def codepoint (count : Nat) : Scan Char := do
  let digits ← Scan.exactly count fun c => (Numeral.digitValue? 16 c).isSome
  match Numeral.read 16 (Nat.pow 2 32) digits with
  | .ok value => StateT.lift (Numeral.toChar? value)
  | .error _ => failure

/-- An escape in a basic string. -/
def escape : Scan Char := do
  Scan.char '\\'
  match ← Scan.satisfy fun _ => true with
  | 'b' => return '\x08'
  | 'f' => return '\x0c'
  | 'n' => return '\n'
  | 'r' => return '\r'
  | 't' => return '\t'
  | '\\' => return '\\'
  | '"' => return '"'
  | 'u' => codepoint 4
  | 'U' => codepoint 8
  | _ => failure

/-- The characters that stand for themselves in a basic string. -/
def isBasic (c : Char) : Bool :=
  isPrintable c && c != '"' && c != '\\'

/-- The characters that stand for themselves in a literal string. -/
def isLiteral (c : Char) : Bool :=
  isPrintable c && c != '\''

/-- A basic string on one line. -/
def basicString : Scan (List Char) := do
  Scan.char '"'
  let cs ← Scan.many (Scan.satisfy isBasic <|> escape)
  Scan.char '"'
  return cs

/-- A literal string on one line. -/
def literalString : Scan (List Char) := do
  Scan.char '\''
  let cs ← Scan.run isLiteral
  Scan.char '\''
  return cs

/-- A backslash at the end of a line, which takes with it all blanks and line ends that follow. -/
def lineContinuation : Scan Unit := do
  Scan.char '\\'
  white
  newline
  let _ ← Scan.many ((do let _ ← Scan.run1 isWhite) <|> newline)

/-- Fails where three quotes stand. -/
def noDelimiter (quote : Char) : Scan Unit := do
  if [quote, quote, quote].isPrefixOf (← get) then failure

/-- The quotes at the end of a string on several lines: up to two of them belong to it. -/
def closing (quote : Char) : Scan (List Char) := do
  let quotes ← Scan.run (· == quote)
  if 3 ≤ quotes.length && quotes.length ≤ 5 then return quotes.drop 3 else failure

/-- A string on several lines, made of pieces and of quotes that are not three in a row. -/
def multiline (quote : Char) (piece : Scan (List Char)) : Scan (List Char) := do
  Scan.exactly 3 (· == quote) *> pure ()
  let _ ← optional newline
  let loneQuote : Scan (List Char) := do
    noDelimiter quote
    let c ← Scan.satisfy (· == quote)
    return [c]
  let pieces ← Scan.many (piece <|> loneQuote)
  return pieces.flatten ++ (← closing quote)

/-- A line end as part of a string. -/
def lineFeed : Scan (List Char) := do
  newline
  return ['\n']

/-- A basic string on several lines. -/
def multilineBasic : Scan (List Char) :=
  multiline '"' <|
    Scan.run1 isBasic
      <|> (do lineContinuation; return [])
      <|> (do return [← escape])
      <|> lineFeed

/-- A literal string on several lines. -/
def multilineLiteral : Scan (List Char) :=
  multiline '\'' (Scan.run1 isLiteral <|> lineFeed)

def string : Scan String := do
  let cs ← multilineBasic <|> basicString <|> multilineLiteral <|> literalString
  return String.ofList cs

end LineShell.Toml
