import LineShell.Machine.Tool.Files

/-!
# Moving, copying and linking files
-/
namespace LineShell.Machine

/-- The sources and the target that operands name, or a complaint about them. With a directory given
by an option, all operands are sources. -/
def transferOperands (tool : String) (parsed : Parsed) (run : Run) :
    Except String (List String × String) :=
  let operands := parsed.operands
  match parsed.value? 't', operands with
  | _, [] => .error (withHelp tool (tool ++ ": missing file operand"))
  | some dir, operands =>
    if run.files.isDir (run.resolve dir) then .ok (operands, dir)
    else .error (tool ++ ": target directory " ++ quoteName dir ++ ": No such file or directory")
  | none, [only] =>
    .error (withHelp tool (tool ++ ": missing destination file operand after " ++ quoteName only))
  | none, [source, target] => .ok ([source], target)
  | none, operands =>
    let target := operands.getLastD ""
    if run.files.isDir (run.resolve target) then .ok (operands.dropLast, target)
    else if run.files.pathExists (run.resolve target) then
      .error (tool ++ ": target " ++ quoteName target ++ ": Not a directory")
    else .error (tool ++ ": target " ++ quoteName target ++ ": No such file or directory")

/-- The name under which a source comes to stand at a target. -/
def nameAt (parsed : Parsed) (run : Run) (source target : String) : String :=
  if !parsed.has 'T' && run.files.isDir (run.resolve target) then
    let base := baseName source ""
    if target.endsWith "/" then target ++ base else target ++ "/" ++ base
  else target

/-- The place of what a path names, itself if it is a link. -/
def placeOf? (run : Run) (name : String) : Option (LineShell.Place × Node) :=
  match run.files.locate .keep (run.resolve name) with
  | .ok (.found place node ..) => some (place, node)
  | _ => none

def mvTool : Tool :=
  withOptions "mv" 1
    { flags := "fnviTu"
      valued := "tS"
      long := [("force", 'f'), ("no-clobber", 'n'), ("verbose", 'v'), ("target-directory", 't'),
        ("no-target-directory", 'T'), ("update", 'u')] }
    fun parsed run =>
      match transferOperands "mv" parsed run with
      | .error complaint => (1, run.complain complaint)
      | .ok (sources, target) =>
        forOperands sources (fun source run =>
          let name := nameAt parsed run source target
          let place := run.resolve name
          let here := placeOf? run source
          let there := placeOf? run name
          let quoted := quoteName source ++ " to " ++ quoteName name
          if parsed.has 'n' && there.isSome then (.ok (), run)
          else
            match here, there with
            | some (a, node), some (b, old) =>
              if a = b then
                (.error ("mv: " ++ quoteName source ++ " and " ++ quoteName name ++ " are the same file"), run)
              else if node.isDir && !old.isDir then
                (.error ("mv: cannot overwrite non-directory " ++ quoteName name
                  ++ " with directory " ++ quoteName source), run)
              else if !node.isDir && old.isDir then
                (.error ("mv: cannot overwrite directory " ++ quoteName name ++ " with non-directory"), run)
              else
                telling (parsed.has 'v') ("renamed " ++ quoteName source ++ " -> " ++ quoteName name)
                  (attemptOr run (fun e => "mv: cannot move " ++ quoted ++ ": " ++ plainMessage e)
                    (·.rename (run.resolve source) place))
            | _, _ =>
              telling (parsed.has 'v') ("renamed " ++ quoteName source ++ " -> " ++ quoteName name)
                (attemptOr run
                  (fun e =>
                    if here.isNone then
                      "mv: cannot stat " ++ quoteName source ++ ": " ++ plainMessage e
                    else if e = .os .invalid then
                      "mv: cannot move " ++ quoteName source ++ " to a subdirectory of itself, "
                        ++ quoteName name
                    else "mv: cannot move " ++ quoted ++ ": " ++ plainMessage e)
                  (·.rename (run.resolve source) place))) run

mutual

/-- What is at a place after a node was copied there. Directories are merged, and a file keeps its
mode. -/
def copiedOver (source : Node) (old : Option Node) : Node :=
  match source, old with
  | .dir entries, some (.dir others) => .dir (copiedEntries entries others)
  | .file content _, some (.file _ mode) => .file content mode
  | source, _ => source

/-- The entries of a directory after others were copied there. -/
def copiedEntries (entries others : Entries) : Entries :=
  match entries with
  | [] => others
  | (name, node) :: rest =>
    copiedEntries rest (Node.alterEntry name (fun old => some (copiedOver node old)) others)

end

/-- What is told of a copy. -/
def copyNotes (source target : String) (node : Node) : List String :=
  let note (a b : String) : String := quoteName a ++ " -> " ++ quoteName b
  note source target :: (Node.listing [] node).map fun (place, _) =>
    let below := Raw.decode (Place.path place)
    note (source ++ below) (target ++ below)

/-- Copies files, and directories if it is told to. -/
def cpTool : Tool :=
  withOptions "cp" 1
    { flags := "rRafpvinTduPLHlsx"
      valued := "tS"
      long := [("recursive", 'r'), ("archive", 'a'), ("force", 'f'), ("verbose", 'v'),
        ("no-clobber", 'n'), ("no-target-directory", 'T'), ("target-directory", 't'),
        ("update", 'u'), ("preserve", 'p'), ("dereference", 'L'), ("no-dereference", 'P'),
        ("link", 'l'), ("symbolic-link", 's'), ("interactive", 'i')] }
    fun parsed run =>
      match transferOperands "cp" parsed run with
      | .error complaint => (1, run.complain complaint)
      | .ok (sources, target) =>
        let deep := parsed.hasAny "rRa"
        let keepsLinks := parsed.hasAny "adP" || (deep && !parsed.hasAny "LH")
        forOperands sources (fun source run =>
          let name := nameAt parsed run source target
          let path := run.resolve source
          let found := if keepsLinks then
              match run.files.locate .keep path with
              | .ok arrival => FileSystem.ofArrival arrival
              | .error e => .error e
            else run.files.resolve path
          match found with
          | .error e => (.error ("cp: cannot stat " ++ quoteName source ++ ": " ++ plainMessage e), run)
          | .ok (origin, node) =>
            let there := run.files.locate .keep (run.resolve name)
            let old := (run.files.resolve (run.resolve name)).toOption
            let notes := "\n".intercalate (copyNotes source name node)
            if parsed.has 'n' && (placeOf? run name).isSome then (.ok (), run)
            else if node.isDir && !deep then
              (.error ("cp: -r not specified; omitting directory " ++ quoteName source), run)
            else if old.any (·.1 == origin) && !node.isDir then
              (.error ("cp: " ++ quoteName source ++ " and " ++ quoteName name ++ " are the same file"), run)
            else if node.isDir && old.any fun o => !o.2.isDir then
              (.error ("cp: cannot overwrite non-directory " ++ quoteName name
                ++ " with directory " ++ quoteName source), run)
            else if !node.isDir && old.any (·.2.isDir) then
              (.error ("cp: cannot overwrite directory " ++ quoteName name
                ++ " with non-directory"), run)
            else
              match there with
              | .error e =>
                (.error ("cp: cannot create " ++ (if node.isDir then "directory " else
                  "regular file ") ++ quoteName name ++ ": " ++ plainMessage e), run)
              | .ok (.missing dir base slash) =>
                let place := dir ++ [base]
                if origin.isPrefixOf place && node.isDir then
                  (.error ("cp: cannot copy a directory, " ++ quoteName source ++ ", into itself, "
                    ++ quoteName name), run)
                else if slash && !node.isDir then
                  (.error ("cp: cannot create regular file " ++ quoteName name
                    ++ ": Not a directory"), run)
                else
                  let new := if parsed.has 's' then .link (Raw.encode source) else node
                  telling (parsed.has 'v') notes (.ok (), run.change (·.put place new))
              | .ok (.found place last ..) =>
                let place := match last, old with
                  | .link _, some (place, _) => place
                  | _, _ => place
                telling (parsed.has 'v') notes
                  (.ok (), run.change fun fs =>
                    fs.alter place fun old => some (copiedOver node old))) run

def lnTool : Tool :=
  withOptions "ln" 1
    { flags := "sfnvTrLPib"
      valued := "tS"
      long := [("symbolic", 's'), ("force", 'f'), ("no-dereference", 'n'), ("verbose", 'v'),
        ("no-target-directory", 'T'), ("target-directory", 't')] }
    fun parsed run =>
      let kind := if parsed.has 's' then "symbolic" else "hard"
      let follows (name : String) : Bool :=
        run.files.isDir (run.resolve name) && !parsed.has 'T'
          && !(parsed.has 'n' && (placeOf? run name).any fun p => !p.2.isDir)
      let inside (dir target : String) : String :=
        (if dir = "." then "./" else if dir.endsWith "/" then dir else dir ++ "/")
          ++ baseName target ""
      let pairs : Except String (List (String × String)) :=
        match parsed.value? 't', parsed.operands with
        | _, [] => .error (withHelp "ln" "ln: missing file operand")
        | some dir, operands => .ok (operands.map fun t => (t, inside dir t))
        | none, [target] => .ok [(target, inside "." target)]
        | none, [target, name] =>
          .ok [(target, if follows name then inside name target else name)]
        | none, operands =>
          let dir := operands.getLastD ""
          if follows dir then .ok (operands.dropLast.map fun t => (t, inside dir t))
          else .error ("ln: target " ++ quoteName dir ++ ": No such file or directory")
      match pairs with
      | .error complaint => (1, run.complain complaint)
      | .ok pairs =>
        pairs.foldl (fun (code, run) (target, name) =>
          let path := run.resolve name
          let make (fs : FileSystem) : FileSystem.Change Unit :=
            let fs := if parsed.has 'f' then (fs.removeFile path).2 else fs
            match fs.locate .keep path with
            | .ok (.missing dir base _) =>
              if parsed.has 's' then
                if target.isEmpty then (.error (.os .noEntry), fs)
                else (.ok (), fs.put (dir ++ [base]) (.link (Raw.encode target)))
              else
                match fs.resolve (run.resolve target) with
                | .ok (_, .dir _) => (.error (.os .notPermitted), fs)
                | .ok (_, node) => (.ok (), fs.put (dir ++ [base]) node)
                | .error e => (.error e, fs)
            | .ok (.found ..) => (.error (.os .entryExists), fs)
            | .error e => (.error e, fs)
          let complaint (e : IoError) : String :=
            if !parsed.has 's' && e = .os .noEntry
                && !run.files.pathExists (run.resolve target) then
              "ln: failed to access " ++ quoteName target ++ ": " ++ plainMessage e
            else if !parsed.has 's' && e = .os .notPermitted then
              "ln: " ++ quoteLabel target ++ ": hard link not allowed for directory"
            else
              "ln: failed to create " ++ kind ++ " link " ++ quoteName name
                ++ (if parsed.has 's' && target = "" then " -> ''" else "") ++ ": "
                ++ plainMessage e
          let arrow := if parsed.has 's' then " -> " else " => "
          match telling (parsed.has 'v') (quoteName name ++ arrow ++ quoteName target)
              (attemptOr run complaint make) with
          | (.ok (), run) => (code, run)
          | (.error complaint, run) => (1, run.complain complaint)) (0, run)

def readlinkTool : Tool :=
  withOptions "readlink" 1
    { flags := "femnqsvz"
      valued := ""
      long := [("canonicalize", 'f'), ("canonicalize-existing", 'e'),
        ("canonicalize-missing", 'm'), ("no-newline", 'n'), ("verbose", 'v'), ("zero", 'z')] }
    fun parsed run =>
      if parsed.operands.isEmpty then missingOperand "readlink" run
      else
        let ending := if parsed.has 'z' then "\x00" else "\n"
        let single := parsed.has 'n' && parsed.operands.length = 1
        parsed.operands.foldl (fun (code, run) name =>
          let path := run.resolve name
          let found : Option Path :=
            if parsed.hasAny "fem" then
              match run.files.canonical path with
              | .ok path => some path
              | .error _ =>
                if parsed.has 'e' then none
                else
                  match run.files.trace .follow path with
                  | .ok (.missing dir base _) => some (Place.path (dir ++ [base]))
                  | _ => if parsed.has 'm' then some path else none
            else
              match run.files.locate .keep path with
              | .ok (.found _ (.link target) ..) => some target
              | _ => none
          match found with
          | some path => (code, run.put (Raw.decode path ++ if single then "" else ending))
          | none => (1, run)) (0, run)

def realpathTool : Tool :=
  withOptions "realpath" 1
    { flags := "emLPqsz"
      valued := ""
      long := [("canonicalize-existing", 'e'), ("canonicalize-missing", 'm'),
        ("no-symlinks", 's'), ("quiet", 'q'), ("zero", 'z')] }
    fun parsed run =>
      if parsed.operands.isEmpty then missingOperand "realpath" run
      else
        let ending := if parsed.has 'z' then "\x00" else "\n"
        forOperands parsed.operands (fun name run =>
          let path := run.resolve name
          match run.files.trace .follow path with
          | .ok (.found place ..) => (.ok (), run.put (Raw.decode place.path ++ ending))
          | .ok (.missing dir base _) =>
            if parsed.has 'e' then
              (.error ("realpath: " ++ quoteLabel name ++ ": No such file or directory"), run)
            else (.ok (), run.put (Raw.decode (Place.path (dir ++ [base])) ++ ending))
          | .error e =>
            if parsed.has 'm' then (.ok (), run.put (Raw.decode path ++ ending))
            else (.error ("realpath: " ++ quoteLabel name ++ ": " ++ plainMessage e), run)) run

end LineShell.Machine
