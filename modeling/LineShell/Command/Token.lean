import LineShell.Text.Offset

/-!
# Tokens of a command line

A line is cut into operators and words. A word is a run of bare characters and of spans between
double quotes; inside a span, blanks and operators are ordinary characters. Nothing is lost: the
gaps and the raw texts of the lexemes concatenate to the line, up to the blanks at its end.
-/
namespace LineShell

/-- What a command line is made of. -/
inductive Token where
  | pipe
  | append
  | write
  | read
  | background
  | word (text : String)
  deriving Repr, DecidableEq

/-- Why a part of a line is no token: a quote is never closed. -/
inductive LexError where
  /-- The open quote is where the token would begin. -/
  | unterminatedString
  /-- Something of a word stands before the open quote. -/
  | unknownToken
  deriving Repr, DecidableEq

def LexError.message : LexError → String
  | .unterminatedString => "unterminated string"
  | .unknownToken => "unknown token"

structure Span where
  start : Nat
  stop : Nat
  deriving Repr, DecidableEq

namespace Token

/-- The tokens that send output to a file or take input from one. -/
def isRedirection : Token → Bool
  | .append | .write | .read => true
  | _ => false

def isSeparator (c : Char) : Bool :=
  c == ' ' || c == '\t' || c == '\r' || c == '\n' || c == '\x0c'

/-- The characters that are operators, or the beginning of one, outside quotes. -/
def isOperator (c : Char) : Bool :=
  c == '|' || c == '<' || c == '>' || c == '&'

/-- The characters that stand for themselves outside quotes. -/
def isBare (c : Char) : Bool :=
  !isSeparator c && !isOperator c && c != '"'

/-- A raw text without its quotes. -/
def unquote (raw : List Char) : List Char :=
  raw.filter (· != '"')

/-- Splits the longest word off the front; the flag tells whether a quote is open. There is no
result when a quote stays open up to the end. -/
def splitWord : Bool → List Char → Option (List Char × List Char)
  | true, [] => none
  | false, [] => some ([], [])
  | true, c :: cs => (splitWord (c != '"') cs).map fun p => (c :: p.1, p.2)
  | false, c :: cs =>
    if c = '"' then (splitWord true cs).map fun p => (c :: p.1, p.2)
    else if isBare c then (splitWord false cs).map fun p => (c :: p.1, p.2)
    else some ([], c :: cs)

theorem splitWord_append {quoted : Bool} {s raw rest : List Char}
    (h : splitWord quoted s = some (raw, rest)) : raw ++ rest = s := by
  induction s generalizing quoted raw with
  | nil =>
    cases quoted <;> simp [splitWord] at h
    simp [h.1, h.2]
  | cons c cs ih =>
    cases quoted with
    | true =>
      simp only [splitWord, Option.map_eq_some_iff, Prod.mk.injEq, Prod.exists] at h
      obtain ⟨a, b, hab, rfl, rfl⟩ := h
      simp [ih hab]
    | false =>
      rw [splitWord] at h
      split at h
      · simp only [Option.map_eq_some_iff, Prod.mk.injEq, Prod.exists] at h
        obtain ⟨a, b, hab, rfl, rfl⟩ := h
        simp [ih hab]
      · split at h
        · simp only [Option.map_eq_some_iff, Prod.mk.injEq, Prod.exists] at h
          obtain ⟨a, b, hab, rfl, rfl⟩ := h
          simp [ih hab]
        · simp only [Option.some.injEq, Prod.mk.injEq] at h
          simp [← h.1, ← h.2]

/-- The word at the front of a text that begins with neither a separator nor an operator, its raw
text, and what follows it. -/
def frontWord (c : Char) (cs : List Char) : Except LexError Token × List Char × List Char :=
  match splitWord false (c :: cs) with
  | some (raw, rest) => (.ok (.word (String.ofList (unquote raw))), raw, rest)
  | none =>
    let fault := if c = '"' ∧ '"' ∉ cs then LexError.unterminatedString else .unknownToken
    (.error fault, c :: cs, [])

/-- The token at the front of a text that begins with no separator, its raw text, and what follows
it. -/
def front : Char → List Char → Except LexError Token × List Char × List Char
  | '|', cs => (.ok .pipe, ['|'], cs)
  | '&', cs => (.ok .background, ['&'], cs)
  | '<', cs => (.ok .read, ['<'], cs)
  | '>', '>' :: cs => (.ok .append, ['>', '>'], cs)
  | '>', cs => (.ok .write, ['>'], cs)
  | c, cs => frontWord c cs

theorem frontWord_append (c : Char) (cs : List Char) :
    (frontWord c cs).2.1 ++ (frontWord c cs).2.2 = c :: cs := by
  unfold frontWord
  split
  · next h => exact splitWord_append h
  · simp

theorem front_append (c : Char) (cs : List Char) :
    (front c cs).2.1 ++ (front c cs).2.2 = c :: cs := by
  unfold front
  split <;> first | rfl | exact frontWord_append _ _

theorem splitWord_raw_ne_nil {c : Char} {cs raw rest : List Char}
    (hs : isOperator c = false) (hb : isSeparator c = false)
    (h : splitWord false (c :: cs) = some (raw, rest)) : raw ≠ [] := by
  rw [splitWord] at h
  split at h
  · simp only [Option.map_eq_some_iff, Prod.mk.injEq] at h
    obtain ⟨_, _, rfl, _⟩ := h
    simp
  · split at h
    · simp only [Option.map_eq_some_iff, Prod.mk.injEq] at h
      obtain ⟨_, _, rfl, _⟩ := h
      simp
    · next hq hbare => simp [isBare, hs, hb, hq] at hbare

theorem front_raw_ne_nil {c : Char} (cs : List Char) (hc : isSeparator c = false) :
    (front c cs).2.1 ≠ [] := by
  unfold front
  split
  · simp
  · simp
  · simp
  · simp
  · simp
  · next pipe background read write _ =>
    unfold frontWord
    split
    · next h =>
      refine splitWord_raw_ne_nil ?_ hc h
      simp only [isOperator, Bool.or_eq_false_iff, beq_eq_false_iff_ne]
      exact ⟨⟨⟨pipe, read⟩, write⟩, background⟩
    · simp

theorem isSeparator_of_dropWhile {s : List Char} {c : Char} {cs : List Char}
    (h : s.dropWhile isSeparator = c :: cs) : isSeparator c = false := by
  induction s with
  | nil => simp at h
  | cons a as ih =>
    rw [List.dropWhile_cons] at h
    split at h
    · exact ih h
    · next ha =>
      simp only [List.cons.injEq] at h
      obtain ⟨rfl, -⟩ := h
      simpa using ha

theorem front_rest_length_lt {s : List Char} {c : Char} {cs : List Char}
    (h : s.dropWhile isSeparator = c :: cs) : (front c cs).2.2.length < s.length := by
  have happ := congrArg List.length (front_append c cs)
  have hne := List.length_pos_iff.2 (front_raw_ne_nil cs (isSeparator_of_dropWhile h))
  have hle : (c :: cs).length ≤ s.length := by
    rw [← h]
    exact (List.dropWhile_suffix isSeparator).length_le
  simp only [List.length_append] at happ
  omega

end Token

/-- A token, or a fault in place of one, as it is written in a line: after a gap of separators. -/
structure Lexeme where
  gap : List Char
  raw : List Char
  found : Except LexError Token

namespace Lexeme

/-- The lexemes of a text, from left to right. -/
def ofChars (s : List Char) : List Lexeme :=
  match h : s.dropWhile Token.isSeparator with
  | [] => []
  | c :: cs =>
    have : (Token.front c cs).2.2.length < s.length := Token.front_rest_length_lt h
    ⟨s.takeWhile Token.isSeparator, (Token.front c cs).2.1, (Token.front c cs).1⟩
      :: ofChars (Token.front c cs).2.2
termination_by s.length

/-- Where each lexeme stands when the first gap begins at byte `offset`. -/
def spansFrom : Nat → List Lexeme → List (Except LexError Token × Span)
  | _, [] => []
  | offset, l :: ls =>
    let start := offset + Text.byteLength l.gap
    let stop := start + Text.byteLength l.raw
    (l.found, ⟨start, stop⟩) :: spansFrom stop ls

end Lexeme

/-- The tokens and the faults of a line, each with its span. -/
def Token.lex (line : String) : List (Except LexError Token × Span) :=
  Lexeme.spansFrom 0 (Lexeme.ofChars line.toList)

end LineShell
