import LineShell.FileSystem.Copy
import LineShell.FileSystem.Listing
import LineShell.Machine.Tool.Extent
import LineShell.Machine.Tool.Print

/-!
# Making and removing files
-/
namespace LineShell.Machine

/-- Applies an operation to each operand; complaints are made of those that fail. -/
def forOperands (operands : List String) (operation : String → Run → Except String Unit × Run)
    (run : Run) : Nat × Run :=
  operands.foldl (fun (code, run) name =>
    match operation name run with
    | (.ok (), run) => (code, run)
    | (.error complaint, run) => (1, run.complain complaint)) (0, run)

/-- An operation on files, with the complaint for the case that it fails. -/
def attemptOr (run : Run) (complaint : IoError → String)
    (f : FileSystem → FileSystem.Change Unit) : Except String Unit × Run :=
  match run.attempt f with
  | (.ok (), run) => (.ok (), run)
  | (.error e, run) => (.error (complaint e), run)

/-- An operation that is told of when it went well, if that is wanted. -/
def telling (wanted : Bool) (message : String) (result : Except String Unit × Run) :
    Except String Unit × Run :=
  match result with
  | (.ok (), run) => (.ok (), if wanted then run.put (message ++ "\n") else run)
  | failed => failed

def touchTool : Tool :=
  withOptions "touch" 1
    { flags := "amchf"
      valued := "drt"
      long := [("no-create", 'c'), ("date", 'd'), ("reference", 'r'), ("no-dereference", 'h'),
        ("time", 't')] }
    fun parsed run =>
      if parsed.operands.isEmpty then
        (1, run.complain (withHelp "touch" "touch: missing file operand"))
      else
        forOperands parsed.operands (fun name run =>
          let path := run.resolve name
          if name = "-" || (run.files.pathExists path) || parsed.has 'c' then (.ok (), run)
          else
            attemptOr run (fun e =>
              let e := if e = .os .isDirectory then .os .noEntry else e
              (if e = .os .noEntry && name.endsWith "/" then "touch: setting times of "
                else "touch: cannot touch ") ++ quoteName name ++ ": " ++ plainMessage e)
              (·.update path id)) run

/-- The directories on the way to a path, the outermost first. -/
def pathStages (path : String) : List String :=
  let parts := (path.splitOn "/").filter (· ≠ "")
  let root := if path.startsWith "/" then "/" else ""
  (List.range parts.length).map fun i => root ++ "/".intercalate (parts.take (i + 1))

def mkdirTool : Tool :=
  withOptions "mkdir" 1
    { flags := "pvZ", valued := "m", long := [("parents", 'p'), ("verbose", 'v'), ("mode", 'm')] }
    fun parsed run =>
      let complaint (name : String) (e : IoError) : String :=
        "mkdir: cannot create directory " ++ quoteName name ++ ": " ++ plainMessage e
      let make (name : String) (run : Run) : Except String Unit × Run :=
        telling (parsed.has 'v') ("mkdir: created directory " ++ quoteName name)
          (attemptOr run (complaint name) (·.makeDir (run.resolve name)))
      if parsed.operands.isEmpty then missingOperand "mkdir" run
      else
        forOperands parsed.operands (fun name run =>
          if !parsed.has 'p' then make name run
          else if run.files.isDir (run.resolve name) then (.ok (), run)
          else
            (pathStages name).foldl (fun result stage =>
              match result with
              | (.error complaint, run) => (.error complaint, run)
              | (.ok (), run) =>
                if run.files.isDir (run.resolve stage) then (.ok (), run) else make stage run)
              (.ok (), run)) run

def rmdirTool : Tool :=
  withOptions "rmdir" 1
    { flags := "pv"
      valued := ""
      long := [("parents", 'p'), ("verbose", 'v'), ("ignore-fail-on-non-empty", 'i')] }
    fun parsed run =>
      let remove (name : String) (run : Run) : Except String Unit × Run :=
        let run :=
          if parsed.has 'v' then run.put ("rmdir: removing directory, " ++ quoteName name ++ "\n") else run
        match run.attempt (·.removeDir (run.resolve name)) with
        | (.ok (), run) => (.ok (), run)
        | (.error e, run) =>
          if parsed.has 'i' && e = .os .notEmpty then (.ok (), run)
          else (.error ("rmdir: failed to remove " ++ quoteName name ++ ": " ++ plainMessage e), run)
      if parsed.operands.isEmpty then missingOperand "rmdir" run
      else
        forOperands parsed.operands (fun name run =>
          if parsed.has 'p' then
            (pathStages name).reverse.foldl (fun result stage =>
              match result with
              | (.ok (), run) => remove stage run
              | failed => failed) (.ok (), run)
          else remove name run) run

/-- What is told of the removal of a node and all that lies below it. -/
def removalNotes (name : String) (node : Node) : List String :=
  let below := (Node.listing [] node).reverse.map fun (place, node) =>
    (node, name ++ "/" ++ Raw.decode (Path.joinSlash place))
  (below ++ [(node, name)]).map fun (node, name) =>
    (if node.isDir then "removed directory " else "removed ") ++ quoteName name

/-- Removes files, and directories if it is told to. -/
def rmTool : Tool :=
  withOptions "rm" 1
    { flags := "rRfdviI"
      valued := ""
      long := [("recursive", 'r'), ("force", 'f'), ("dir", 'd'), ("verbose", 'v')] }
    fun parsed run =>
      if parsed.operands.isEmpty then
        if parsed.has 'f' then (0, run) else missingOperand "rm" run
      else
        forOperands parsed.operands (fun name run =>
          let path := run.resolve name
          let complaint := fun e => "rm: cannot remove " ++ quoteName name ++ ": " ++ plainMessage e
          let last := baseName name ""
          let notes (node : Node) : String := "\n".intercalate (removalNotes name node)
          match run.files.locate .keep path with
          | .ok (.found _ (.dir entries) ..) =>
            if parsed.hasAny "rR" then
              if last = "." || last = ".." then
                (.error ("rm: refusing to remove '.' or '..' directory: skipping " ++ quoteName name),
                  run)
              else
                telling (parsed.has 'v') (notes (.dir entries))
                  (attemptOr run complaint (·.removeTree path))
            else if parsed.has 'd' then
              telling (parsed.has 'v') (notes (.dir entries))
                (attemptOr run complaint (·.removeDir path))
            else (.error (complaint (.os .isDirectory)), run)
          | .ok (.found _ node ..) =>
            telling (parsed.has 'v') (notes node) (attemptOr run complaint (·.removeFile path))
          | .ok (.missing ..) =>
            if parsed.has 'f' then (.ok (), run) else (.error (complaint (.os .noEntry)), run)
          | .error e =>
            if parsed.has 'f' && (e = .os .noEntry || e = .os .notDirectory) then (.ok (), run)
            else (.error (complaint e), run)) run

def unlinkTool : Tool := fun args run =>
  match args with
  | [name] =>
    forOperands [name] (fun name run =>
      attemptOr run (fun e => "unlink: cannot unlink " ++ quoteName name ++ ": " ++ plainMessage e)
        (·.removeFile (run.resolve name))) run
  | [] => missingOperand "unlink" run
  | _ :: extra :: _ =>
    (1, run.complain (withHelp "unlink" ("unlink: extra operand " ++ quoteText extra)))

def executableAfter (mode : String) (old : Bool) : Option Bool :=
  if !mode.isEmpty && mode.toList.all fun c => '0' ≤ c && c ≤ '7' then
    some ((digitsIn 8 mode.toList / 64) % 2 = 1)
  else
    (mode.splitOn ",").foldlM (fun old clause =>
      let s := clause.toList
      let who := s.takeWhile fun c => "ugoa".contains c
      let forOwner := who.isEmpty || who.any fun c => c == 'u' || c == 'a'
      match s.drop who.length with
      | mark :: letters =>
        if !("+-=".contains mark && letters.all fun c => "rwxXst".contains c) then none
        else
          let has := letters.contains 'x' || (letters.contains 'X' && old)
          if !forOwner then some old
          else if mark = '+' then some (old || has)
          else if mark = '-' then some (old && !has)
          else some has
      | [] => none) old

/-- Changes whether files may be executed. -/
def chmodTool : Tool := fun args run =>
  -- A mode may begin with a dash.
  let isMode (word : String) : Bool :=
    word.startsWith "-" && 1 < word.length
      && (word.toList.drop 1).all fun c => "rwxXst,+-=".contains c || c.isDigit
  let args := match args with
    | first :: rest => if isMode first then "--" :: first :: rest else first :: rest
    | [] => []
  withOptions "chmod" 1
    { flags := "Rcfv"
      valued := ""
      long := [("recursive", 'R'), ("silent", 'f'), ("quiet", 'f'), ("verbose", 'v')] }
    (fun parsed run =>
      match parsed.operands with
      | [] => missingOperand "chmod" run
      | [mode] =>
        (1, run.complain (withHelp "chmod" ("chmod: missing operand after " ++ quoteText mode)))
      | mode :: names =>
        if (executableAfter mode false).isNone then
          (1, run.complain (withHelp "chmod" ("chmod: invalid mode: " ++ quoteText mode)))
        else
          let change (node : Node) : Node := match node with
            | .file content old => .file content ((executableAfter mode old).getD old)
            | node => node
          forOperands names (fun name run =>
            attemptOr run (fun e => "chmod: cannot access " ++ quoteName name ++ ": " ++ plainMessage e)
              fun fs =>
                match fs.resolve (run.resolve name) with
                | .ok (place, node) =>
                  let changed := fs.put place (change node)
                  if parsed.has 'R' then
                    (.ok (), (Node.listing place node).foldl (fun (fs : FileSystem) (place, node) =>
                      match node with
                      | .file .. => fs.put place (change node)
                      | _ => fs) changed)
                  else (.ok (), changed)
                | .error e => (.error e, fs)) run) args run

/-- Bytes cut off or filled up to a size. -/
def resized (size : Nat) (bytes : Bytes) : Bytes :=
  bytes.take size ++ List.replicate (size - bytes.length) 0

def truncateTool : Tool :=
  withOptions "truncate" 1
    { flags := "co"
      valued := "sr"
      long := [("no-create", 'c'), ("size", 's'), ("reference", 'r')] }
    fun parsed run =>
      match parsed.value? 's', parsed.operands with
      | none, _ =>
        (1, run.complain (withHelp "truncate"
          "truncate: you must specify either '--size' or '--reference'"))
      | some _, [] => (1, run.complain (withHelp "truncate" "truncate: missing file operand"))
      | some word, names =>
        match count? word with
        | none => (1, run.complain ("truncate: Invalid number: " ++ quoteText word))
        | some (n, sign) =>
          let size (old : Nat) : Nat := match sign with
            | some '+' => old + n
            | some _ => old - n
            | none => n
          forOperands names (fun name run =>
            let path := run.resolve name
            if parsed.has 'c' && !run.files.pathExists path then (.ok (), run)
            else
              attemptOr run
                (fun e => "truncate: cannot open " ++ quoteName name ++ " for writing: " ++ plainMessage e)
                fun fs => fs.update path fun bytes => resized (size bytes.length) bytes) run

end LineShell.Machine
