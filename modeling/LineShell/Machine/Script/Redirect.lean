import LineShell.Machine.Run
import LineShell.Machine.Script.Grammar

/-!
# Leading streams elsewhere

What a redirection does to the streams of a command, and how the streams are put back after it.
-/
namespace LineShell.Machine.Script

/-- Why a file cannot be opened for writing. -/
def createFault (target : String) (e : IoError) : String :=
  "cannot create " ++ target ++ ": " ++
    if e = .os .noEntry || e = .os .notDirectory then "Directory nonexistent" else plainMessage e

/-- Why a file cannot be opened for reading. -/
def openFault (target : String) (e : IoError) : String :=
  "cannot open " ++ target ++ ": " ++
    if e = .os .noEntry || e = .os .notDirectory then "No such file" else plainMessage e

/-- Puts an entry in front of those of other numbers. -/
def putStream (streams : List (Nat × Stream)) (n : Nat) (stream : Stream) : List (Nat × Stream) :=
  (n, stream) :: streams.filter (·.1 != n)

/-- Puts a sink in the place of a stream. -/
def setSink (run : Run) (n : Nat) (sink : Sink) : Run :=
  match n with
  | 1 => { run with output := sink }
  | 2 => { run with errors := sink }
  | n => { run with others := putStream run.others n (.sink sink) }

/-- Puts a source in the place of a stream. -/
def setSource (run : Run) (n : Nat) (flow : Flow) : Run :=
  match n with
  | 0 => { run with input := flow, inputReady := 0, inputSize := none }
  | n => { run with others := putStream run.others n (.source flow) }

/-- Where a stream leads to, if it leads out. -/
def sinkOf? (run : Run) (n : Nat) : Option Sink :=
  match n with
  | 0 => none
  | 1 => some run.output
  | 2 => some run.errors
  | n =>
    match run.others.lookup n with
    | some (.sink sink) => some sink
    | _ => none

/-- Where a stream leads from, if it leads in. -/
def sourceOf? (run : Run) (n : Nat) : Option Flow :=
  match n with
  | 0 => some run.input
  | n =>
    match run.others.lookup n with
    | some (.source flow) => some flow
    | _ => none

/-- The number of the stream that a file of the machine stands for. -/
def deviceStream? (path : String) : Option Nat :=
  [("/dev/stdin", 0), ("/dev/stdout", 1), ("/dev/stderr", 2), ("/dev/fd/0", 0), ("/dev/fd/1", 1),
    ("/dev/fd/2", 2)].lookup path

/-- Leads a stream elsewhere, or says why that is not possible. If `keep` holds, what files hold is
not replaced. -/
def leadStream (run : Run) (keep : Bool) (redirect : Redirect) (target : String) :
    Except String Run :=
  let path := run.resolve target
  let n := redirect.stream
  let output (change : FileSystem → FileSystem.Change Unit) : Except String Run :=
    match (deviceStream? target).bind (sinkOf? run) with
    | some sink => .ok (setSink run n sink)
    | none =>
      match run.attempt change with
      | (.ok (), run) => .ok (setSink run n (.file path))
      | (.error e, _) => .error (createFault target e)
  let input (run : Run) : Except String Run :=
    match (deviceStream? target).bind (sourceOf? run) with
    | some flow => .ok (setSource run n flow)
    | none =>
      match run.read target with
      | .ok bytes =>
        let run := setSource run n (.ofBytes bytes)
        .ok (if n = 0 && target ≠ "/dev/null" then { run with inputSize := some bytes.length }
          else run)
      | .error e =>
        if e = .os .isDirectory then .ok (setSource run n .empty)
        else .error (openFault target e)
  match redirect.operator with
  | ">" =>
    if keep && run.files.isFile path then .error (createFault target (.os .entryExists))
    else output fun fs => fs.create path
  | ">|" => output fun fs => fs.create path
  | ">>" => output fun fs => fs.update path id
  | ">&" =>
    if target = "-" then .ok (setSink run n .nothing)
    else
      match target.toNat?.bind (sinkOf? run) with
      | some sink => .ok (setSink run n sink)
      | none =>
        if target.toNat?.isSome then .error (target ++ ": Bad file descriptor")
        else .error ScriptFault.badDescriptor.message
  | "<<" => .ok (setSource run n (.ofBytes (Raw.encode target)))
  | "<&" =>
    if target = "-" then .ok (setSource run n .empty)
    else
      match target.toNat?.bind (sourceOf? run) with
      | some flow => .ok (setSource run n flow)
      | none =>
        match target.toNat?.bind (sinkOf? run) with
        | some sink => .ok (setSink run n sink)
        | none => .error (target ++ ": Bad file descriptor")
  | "<>" =>
    match run.attempt fun fs => fs.update path id with
    | (.ok (), run) => input run
    | (.error e, _) => .error (createFault target e)
  | _ => input run

/-- The stream that the standard input is taken from by one of some redirections. -/
def sharedSource? (redirects : List Redirect) : Option Nat :=
  (redirects.filter (·.stream == 0)).getLast?.bind fun r =>
    if r.operator = "<&" then (String.ofList (literalText r.target)).toNat? else none

/-- The streams after a command as they were before it. What was read from a stream stays read. -/
def restoreStreams (redirects : List Redirect) (before after : Run) : Run :=
  let led := redirects.any (·.stream == 0)
  let others := match sharedSource? redirects with
    | some n => putStream before.others n (.source after.input)
    | none => before.others
  { after with
    input := if led then before.input else after.input
    inputReady := before.inputReady
    inputSize := before.inputSize
    output := before.output
    errors := before.errors
    others }

end LineShell.Machine.Script
