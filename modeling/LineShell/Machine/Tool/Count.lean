import LineShell.Machine.Tool.Lines

/-!
# Counting
-/
namespace LineShell.Machine

/-- The bytes between which words stand. -/
def isSpaceByte (b : UInt8) : Bool :=
  b == 32 || (9 ≤ b && b ≤ 13)

/-- The number of words in bytes: what stands between blanks and has a byte that can be seen. -/
def countWords (bytes : Bytes) : Nat :=
  (bytes.splitOnP isSpaceByte).countP (·.any fun b => 32 < b && b < 127)

/-- The number of columns that a line takes, with tabs to every eighth. -/
def lineWidth (line : Bytes) : Nat :=
  line.foldl (fun column b =>
    if b = 9 then (column / 8 + 1) * 8
    else if 32 ≤ b && b < 127 then column + 1
    else column) 0

/-- When sums over all files are shown. -/
inductive Totals where
  | auto
  | always
  | only
  | never
  deriving DecidableEq

/-- The words for times when sums are shown. -/
def totalChoices : List (List (String × Totals)) :=
  [[("auto", .auto)], [("always", .always)], [("only", .only)], [("never", .never)]]

def wcTool : Tool :=
  withOptions "wc" 1
    { flags := "lwcmL"
      valued := "T"
      long := [("bytes", 'c'), ("chars", 'm'), ("lines", 'l'), ("words", 'w'),
        ("max-line-length", 'L'), ("total", 'T')] }
    fun parsed run =>
      let totals : Except String Totals := match parsed.value? 'T' with
        | some word => choice "wc" "--total" totalChoices word
        | none => .ok .auto
      match totals with
      | .error complaint => (1, run.complain complaint)
      | .ok totals =>
        let wanted (letter : Char) : Bool :=
          parsed.has letter || ((parsed.options.all (·.1 == 'T')) && letter != 'm' && letter != 'L')
        let operands := operandsOrInput parsed.operands
        let isDir (name : String) : Bool := name ≠ "-" && run.files.isDir (run.resolve name)
        let longest (bytes : Bytes) : Nat :=
          ((bytes.splitOnP fun b => b == 10 || b == 12 || b == 13).map lineWidth).foldl max 0
        let counts (bytes : Bytes) : List Nat :=
          (if wanted 'l' then [bytes.count 10] else [])
            ++ (if wanted 'w' then [countWords bytes] else [])
            ++ (if wanted 'm' then [bytes.length] else [])
            ++ (if wanted 'c' then [bytes.length] else [])
            ++ (if wanted 'L' then [longest bytes] else [])
        let none := counts []
        let add (sums row : List Nat) : List Nat :=
          (sums.zip row).zipIdx.map fun ((a, b), i) =>
            if wanted 'L' && i + 1 = row.length then max a b else a + b
        let sizes := operands.map fun name =>
          if name = "-" then run.inputSize.getD 0
          else
            match run.read name with
            | .ok bytes => bytes.length
            | .error _ => 0
        let single := operands.length = 1 && none.length = 1
        let fromInput := (operands.contains "-" && run.inputSize.isNone) || operands.any isDir
        let width := if single || totals = .only then 1 else if fromInput then 7
          else (toString (sizes.foldl (· + ·) 0)).length
        let line (name : String) (row : List Nat) : String :=
          " ".intercalate (row.map (padNumber width))
            ++ (if parsed.operands.isEmpty then "" else " " ++ name) ++ "\n"
        let ((code, sums), run) := foldOperands (fun name held (code, sums) run =>
          match held with
          | .ok flow =>
            let row := counts flow.bytes
            ((code, add sums row), if totals = .only then run else run.put (line name row))
          | .error e =>
            let run := run.complain
              (if name = "" then "wc: invalid zero-length file name" else cannotOpen "wc" name e)
            ((1, sums), if e = .os .isDirectory then run.put (line name none) else run))
          operands (0, none) run
        match totals with
        | .auto => (code, if 1 < operands.length then run.put (line "total" sums) else run)
        | .always => (code, run.put (line "total" sums))
        | .only =>
          (code, run.put (" ".intercalate (sums.map toString) ++ "\n"))
        | .never => (code, run)

end LineShell.Machine
