import LineShell.Text.Numeral

/-!
# Backslash escapes

A backslash and what follows it stand for one character: a letter for a control character, or
hexadecimal digits for a code point. A backslash that begins no escape stands for itself, so a
path written with backslashes survives. The first escape whose digits are wrong decides the error.
-/
namespace LineShell

/-- Why the digits of an escape give no character. -/
inductive CodepointError where
  | tooShort (expected : Nat) (found : String)
  | badHex (digits : String) (cause : NumeralError)
  | notCharacter (value : Nat)
  deriving Repr, DecidableEq

def CodepointError.message : CodepointError → String
  | .tooShort expected found => s!"expected {expected} hex digits, found \"" ++ found ++ "\""
  | .badHex digits cause => "could not parse " ++ digits ++ " as u32 hex: " ++ cause.message
  | .notCharacter value => s!"could not parse {value} as a unicode char"

/-- An escape that could not be decoded: its letter, the index of its backslash, and why. -/
structure EscapeFault where
  kind : Char
  index : Nat
  cause : CodepointError
  deriving Repr, DecidableEq

/-- An undecodable escape together with the text that holds it. -/
structure EscapeError extends EscapeFault where
  text : String
  deriving Repr, DecidableEq

def EscapeError.message (e : EscapeError) : String :=
  "\\" ++ e.kind.toString ++ s!" escape could not be parsed at {e.index} in " ++ e.text ++ ": "
    ++ e.cause.message

namespace Escape

/-- The character that a one-letter escape stands for. -/
def letter? : Char → Option Char
  | 'a' => some '\x07'
  | 'b' => some '\x08'
  | 'v' => some '\x0b'
  | 'f' => some '\x0c'
  | 'n' => some '\n'
  | 'r' => some '\r'
  | 't' => some '\t'
  | 'e' => some '\x1b'
  | 'E' => some '\x1b'
  | '0' => some '\x00'
  | '\\' => some '\\'
  | '\'' => some '\''
  | '"' => some '"'
  | _ => none

/-- The letters of the escapes that are followed by a code point. -/
def isCodepointKind (c : Char) : Bool :=
  c == 'x' || c == 'u' || c == 'U'

def isHexDigit (c : Char) : Bool :=
  (Numeral.digitValue? 16 c).isSome

/-- The character whose code point is written in hexadecimal. -/
def ofHex (digits : List Char) : Except CodepointError Char :=
  match Numeral.read 16 (Nat.pow 2 32) digits with
  | .error cause => .error (.badHex (String.ofList digits) cause)
  | .ok value =>
    match Numeral.toChar? value with
    | some c => .ok c
    | none => .error (.notCharacter value)

def fixed (count : Nat) (s : List Char) : Except CodepointError Char :=
  let digits := (s.take count).takeWhile isHexDigit
  if digits.length < count then .error (.tooShort count (String.ofList digits))
  else ofHex digits

/-- The code point after an escape letter, and how many characters it takes. Between braces all
characters up to the closing one count as digits; a brace that is not closed takes the rest. -/
def codepoint (kind : Char) (s : List Char) : Except CodepointError Char × Nat :=
  match kind, s with
  | 'x', s => (fixed 2 s, 2)
  | 'U', s => (fixed 8 s, 8)
  | _, '\x7b' :: rest =>
    let digits := rest.takeWhile (· != '\x7d')
    (ofHex digits, digits.length + 2)
  | _, s => (fixed 4 s, 4)

/-- Puts a decoded character in front; `count` characters were read for it. -/
def emit (count : Nat) (c : Char) :
    Except EscapeFault (List Char) → Except EscapeFault (List Char)
  | .ok cs => .ok (c :: cs)
  | .error fault => .error { fault with index := fault.index + count }

/-- The text with every escape replaced by its character. -/
def decode : List Char → Except EscapeFault (List Char)
  | [] => .ok []
  | '\\' :: k :: rest =>
    match letter? k with
    | some c => emit 2 c (decode rest)
    | none =>
      if isCodepointKind k then
        match codepoint k rest with
        | (.ok c, count) => emit (count + 2) c (decode (rest.drop count))
        | (.error cause, _) => .error ⟨k, 0, cause⟩
      else emit 1 '\\' (decode (k :: rest))
  | c :: rest => emit 1 c (decode rest)
termination_by s => s.length
decreasing_by all_goals (simp only [List.length_cons, List.length_drop]; omega)

end Escape

/-- The text with every escape replaced by its character. -/
def unescape (text : String) : Except EscapeError String :=
  match Escape.decode text.toList with
  | .ok cs => .ok (String.ofList cs)
  | .error fault => .error { fault with text }

end LineShell
