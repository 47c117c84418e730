/-!
# Blanks

The characters with the Unicode property White_Space, and what it means to trim them from one end
or from both ends of a text. Nothing is removed between two characters that are not blank.
-/
namespace LineShell.Text

/-- The characters with the property White_Space. -/
def isBlank (c : Char) : Bool :=
  let n := c.toNat
  (9 ≤ n && n ≤ 13) || n == 0x20 || n == 0x85 || n == 0xA0 || n == 0x1680
    || (0x2000 ≤ n && n ≤ 0x200A) || n == 0x2028 || n == 0x2029 || n == 0x202F || n == 0x205F
    || n == 0x3000

/-- Removes the longest run at the end whose characters all satisfy `p`. -/
def dropEndWhile (p : α → Bool) (s : List α) : List α :=
  (s.reverse.dropWhile p).reverse

@[simp] theorem dropEndWhile_nil (p : α → Bool) : dropEndWhile p [] = [] := rfl

theorem dropEndWhile_append_singleton (p : α → Bool) (s : List α) (a : α) :
    dropEndWhile p (s ++ [a]) = if p a then dropEndWhile p s else s ++ [a] := by
  simp only [dropEndWhile, List.reverse_append, List.reverse_singleton, List.singleton_append,
    List.dropWhile_cons]
  split <;> simp

theorem dropEndWhile_append_takeEnd (p : α → Bool) (s : List α) :
    dropEndWhile p s ++ (s.reverse.takeWhile p).reverse = s := by
  rw [dropEndWhile, ← List.reverse_append, List.takeWhile_append_dropWhile, List.reverse_reverse]

def trimStartChars (s : List Char) : List Char :=
  s.dropWhile isBlank

def trimEndChars (s : List Char) : List Char :=
  dropEndWhile isBlank s

def trimChars (s : List Char) : List Char :=
  trimEndChars (trimStartChars s)

def trimEnd (s : String) : String :=
  String.ofList (trimEndChars s.toList)

def trim (s : String) : String :=
  String.ofList (trimChars s.toList)

@[simp] theorem toList_trimEnd (s : String) : (trimEnd s).toList = trimEndChars s.toList := by
  simp [trimEnd]

@[simp] theorem toList_trim (s : String) : (trim s).toList = trimChars s.toList := by
  simp [trim]

end LineShell.Text
