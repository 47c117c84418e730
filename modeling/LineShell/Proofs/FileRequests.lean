import LineShell.Proofs.Emptying

/-!
# Requests from inside and outside a directory

A shell that has gone to a directory does the same at a relative path as a shell that has stayed
where it was does at the path that goes on from the directory. Only the names in their reports
differ. This holds as long as neither looks up a path that meets a limit, since the paths from
outside are longer and may follow more links, and as long as no directory is removed that holds a
part of the way to the directory but not the directory itself.
-/
namespace LineShell

/-- The error without the names of the files that it is about. -/
def ShellError.nameless : ShellError → ShellError
  | .pathNotFound kind _ => .pathNotFound kind ""
  | .alreadyExists kind _ => .alreadyExists kind ""
  | e => e

/-- Whether a report is a success, or which error it is. -/
def Report.kind : Report → Except ShellError Unit
  | .ok _ => .ok ()
  | .error e => .error e.nameless

namespace Builtin
variable {fs : FileSystem} {cwd cwd' : Path} {name name' : String}

/-- Two commands end in the same way and leave the same files. -/
def FileReport.Alike (r r' : FileReport) : Prop :=
  Report.kind r.1 = Report.kind r'.1 ∧ r.2 = r'.2

theorem alike_reportChange (text text' : String) (change : FileSystem.Change Unit) :
    FileReport.Alike (reportChange text change) (reportChange text' change) := by
  obtain ⟨e | ⟨⟩, after⟩ := change <;> exact ⟨rfl, rfl⟩

/-! ## One path -/

section
variable (h : fs.FollowsAlike (Path.resolve cwd name) (Path.resolve cwd' name'))
include h

theorem alike_runCat : FileReport.Alike (runCat cwd [name] fs) (runCat cwd' [name'] fs) := by
  simp only [runCat, withPath, required, h.readText_eq]
  split
  · exact ⟨rfl, rfl⟩
  · split_ifs <;> exact ⟨rfl, rfl⟩

theorem alike_runMkdir :
    FileReport.Alike (runMkdir cwd [name] fs) (runMkdir cwd' [name'] fs) := by
  simp only [runMkdir, withPath, required, h.pathExists_eq, h.makeDir_eq]
  split_ifs
  · exact ⟨rfl, rfl⟩
  · exact alike_reportChange _ _ _

theorem alike_runTouch :
    FileReport.Alike (runTouch cwd [name] fs) (runTouch cwd' [name'] fs) := by
  simp only [runTouch, withPath, required, h.pathExists_eq, FileSystem.create, h.update_eq]
  split_ifs
  · exact ⟨rfl, rfl⟩
  · exact alike_reportChange _ _ _

theorem alike_runRm : FileReport.Alike (runRm cwd [name] fs) (runRm cwd' [name'] fs) := by
  simp only [runRm, withPath, required, h.pathExists_eq, h.isDir_eq, h.removeFile_eq]
  split_ifs
  · exact ⟨rfl, rfl⟩
  · exact ⟨rfl, rfl⟩
  · exact alike_reportChange _ _ _

theorem alike_runRmdir (htree : fs.removeTree (Path.resolve cwd name) =
      fs.removeTree (Path.resolve cwd' name')) :
    FileReport.Alike (runRmdir cwd [name] fs) (runRmdir cwd' [name'] fs) := by
  simp only [runRmdir, withPath, required, h.isDir_eq, htree]
  split_ifs
  · exact ⟨rfl, rfl⟩
  · exact alike_reportChange _ _ _

/-- A redirection reads or writes where its target leads. -/
theorem alike_apply (command : SimpleCommand) (text : String) (mode : RedirectMode) :
    Report.kind (((Redirection.mk command text mode name).apply cwd fs).1.map
        fun read => read.elim .silent .text) =
      Report.kind (((Redirection.mk command text mode name').apply cwd' fs).1.map
        fun read => read.elim .silent .text) ∧
    ((Redirection.mk command text mode name).apply cwd fs).2 =
      ((Redirection.mk command text mode name').apply cwd' fs).2 := by
  have hwrite (mode : RedirectMode) (text : String) :
      Redirection.write fs (Path.resolve cwd name) mode text =
        Redirection.write fs (Path.resolve cwd' name') mode text := by
    simp only [Redirection.write, h.update_eq]
  simp only [Redirection.apply, h.readText_eq, hwrite]
  split_ifs
  · exact ⟨rfl, rfl⟩
  · split
    · split
      · exact ⟨rfl, rfl⟩
      · split_ifs <;> exact ⟨rfl, rfl⟩
    · split
      · exact ⟨rfl, rfl⟩
      · split <;> exact ⟨rfl, rfl⟩

end

/-! ## Two paths -/

section
variable {place : Place} {base base' source target : Path}

/-- Where a source comes to stand depends on its last component. -/
theorem exists_destination_join (h : fs.Reaches base place) (h' : fs.Reaches base' place)
    (hsource : Path.isAbsolute source = false) (hcounted : Path.counted source ≠ [])
    (htarget : Path.Counts target)
    (halike : fs.FollowsAlike (Path.join base target) (Path.join base' target)) :
    ∃ dest, Path.Counts dest ∧
      destination fs (Path.join base source) (Path.join base target) = Path.join base dest ∧
      destination fs (Path.join base' source) (Path.join base' target) = Path.join base' dest := by
  have hbase := Path.ne_nil_of_isAbsolute h.absolute
  have hbase' := Path.ne_nil_of_isAbsolute h'.absolute
  rw [destination, destination, Path.fileName?_join hbase hsource hcounted,
    Path.fileName?_join hbase' hsource hcounted, halike.isDir_eq]
  cases Path.fileName? source with
  | none => exact ⟨target, htarget, rfl, rfl⟩
  | some name =>
    dsimp only
    split_ifs
    · exact ⟨Path.join target name, htarget.join name, Path.join_assoc .., Path.join_assoc ..⟩
    · exact ⟨target, htarget, rfl, rfl⟩

/-- Whether the parent of a destination is missing. -/
theorem isSome_parent_join (h : fs.Reaches base place) (h' : fs.Reaches base' place) {dest : Path}
    (hdest : Path.Counts dest)
    (hwithin : ∀ parent, Path.parent? (Path.join base dest) = some parent → fs.Within parent)
    (hwithin' : ∀ parent, Path.parent? (Path.join base' dest) = some parent → fs.Within parent) :
    ((Path.parent? (Path.join base dest)).filter (!fs.isDir ·)).isSome =
      ((Path.parent? (Path.join base' dest)).filter (!fs.isDir ·)).isSome := by
  cases habs : Path.isAbsolute dest with
  | true => rw [Path.join_of_isAbsolute habs, Path.join_of_isAbsolute habs]
  | false =>
    have hparent := Path.parent?_join h.absolute habs (hdest habs)
    have hparent' := Path.parent?_join h'.absolute habs (hdest habs)
    have hdir := hwithin _ hparent
    have hdir' := hwithin' _ hparent'
    rw [hparent, hparent']
    cases hfront : Path.front? dest with
    | none =>
      rw [hfront] at hdir hdir'
      simp [h.trunk.isDir hdir, h'.trunk.isDir hdir', Option.filter]
    | some front =>
      rw [hfront] at hdir hdir'
      have halike := h.followsAlike h' (fun _ => Path.counted_of_front? hfront) hdir hdir'
      cases hfound : fs.isDir (Path.join base' front) <;>
        simp [halike.isDir_eq, hfound, Option.filter]

theorem withDestination_pair (b : Builtin) (cwd : Path) (source target : String) (fs : FileSystem)
    (run : Path → Path → FileReport) : withDestination b cwd [source, target] fs run =
      if fs.pathExists (Path.resolve cwd source) then run (Path.resolve cwd source)
        (destination fs (Path.resolve cwd source) (Path.resolve cwd target))
      else (.error (.pathNotFound "Source path" source), fs) := by
  rw [withDestination, withPath]
  cases hexists : fs.pathExists (Path.resolve cwd source) <;> simp [required, hexists]

/-- The paths that are looked up when a source is copied to a target. -/
inductive CopyAsks (fs : FileSystem) (source target : Path) : FileSystem → Path → Prop
  | source : CopyAsks fs source target fs source
  | target : fs.pathExists source = true → CopyAsks fs source target fs target
  | dest : fs.pathExists source = true → fs.isDir source = true →
      CopyAsks fs source target fs (destination fs source target)
  | tree {fs' : FileSystem} {asked : Path} : fs.isDir source = true →
      fs.pathExists (destination fs source target) = false →
      FileSystem.CopyLevelsAsks (Path.maxLength + 1) fs source (destination fs source target) fs'
        asked → CopyAsks fs source target fs' asked
  | file {fs' : FileSystem} {asked : Path} : fs.isDir source = false →
      FileSystem.CopyFileAsks fs source (destination fs source target) fs' asked →
      CopyAsks fs source target fs' asked

/-- The paths that are looked up when a source is moved to a target. -/
inductive MoveAsks (fs : FileSystem) (source target : Path) : FileSystem → Path → Prop
  | source : MoveAsks fs source target fs source
  | target : fs.pathExists source = true → MoveAsks fs source target fs target
  | dest : fs.pathExists source = true →
      MoveAsks fs source target fs (destination fs source target)
  | parent {parent : Path} : fs.pathExists (destination fs source target) = false →
      Path.parent? (destination fs source target) = some parent →
      MoveAsks fs source target fs parent

variable {first second first' second' : String}
  (hfirst : Path.resolve cwd first = Path.join base source)
  (hsecond : Path.resolve cwd second = Path.join base target)
  (hfirst' : Path.resolve cwd' first' = Path.join base' source)
  (hsecond' : Path.resolve cwd' second' = Path.join base' target)
  (h : fs.Reaches base place) (h' : fs.Reaches base' place)
  (hsource : Path.isAbsolute source = false) (hcounted : Path.counted source ≠ [])
  (htarget : Path.Counts target)
include hfirst hsecond hfirst' hsecond' h h' hsource hcounted htarget

theorem alike_withDestination {b : Builtin} {run run' : Path → Path → FileReport}
    (halike : fs.FollowsAlike (Path.join base source) (Path.join base' source))
    (halike' : fs.pathExists (Path.join base source) = true →
      fs.FollowsAlike (Path.join base target) (Path.join base' target))
    (hrun : fs.pathExists (Path.join base source) = true → ∀ dest, Path.Counts dest →
      destination fs (Path.join base source) (Path.join base target) = Path.join base dest →
      destination fs (Path.join base' source) (Path.join base' target) = Path.join base' dest →
      FileReport.Alike (run (Path.join base source) (Path.join base dest))
        (run' (Path.join base' source) (Path.join base' dest))) :
    FileReport.Alike (withDestination b cwd [first, second] fs run)
      (withDestination b cwd' [first', second'] fs run') := by
  rw [withDestination_pair, withDestination_pair, hfirst, hsecond, hfirst', hsecond',
    ← halike.pathExists_eq]
  cases hexists : fs.pathExists (Path.join base source) with
  | false => exact ⟨rfl, rfl⟩
  | true =>
    obtain ⟨dest, hdest, heq, heq'⟩ :=
      exists_destination_join h h' hsource hcounted htarget (halike' hexists)
    rw [if_pos rfl, if_pos rfl, heq, heq']
    exact hrun hexists dest hdest heq heq'

theorem alike_runCp
    (hwithin : FileSystem.Unlimited (CopyAsks fs (Path.join base source) (Path.join base target)))
    (hwithin' : FileSystem.Unlimited
      (CopyAsks fs (Path.join base' source) (Path.join base' target))) :
    FileReport.Alike (runCp cwd [first, second] fs) (runCp cwd' [first', second'] fs) := by
  have halike := h.followsAlike h' (fun _ => hcounted) (hwithin _ _ .source) (hwithin' _ _ .source)
  have hexists := halike.pathExists_eq
  have hdir := halike.isDir_eq
  refine alike_withDestination hfirst hsecond hfirst' hsecond' h h' hsource hcounted htarget halike
    (fun hfound => h.followsAlike h' htarget (hwithin _ _ (.target hfound))
      (hwithin' _ _ (.target (hexists ▸ hfound)))) fun hfound dest hdest heq heq' => ?_
  rw [hdir]
  cases hplain' : fs.isDir (Path.join base' source) with
  | false =>
    have hplain := hdir.trans hplain'
    have hcopy := FileSystem.copiesAlike_copyFile h h' (fun _ => hcounted) hdest
      (fun fs' asked hasked => hwithin _ _ (.file hplain (heq ▸ hasked)))
      (fun fs' asked hasked => hwithin' _ _ (.file hplain' (heq' ▸ hasked)))
    rw [hcopy]
    exact alike_reportChange _ _ _
  | true =>
    have hplain := hdir.trans hplain'
    have hdestAlike := h.followsAlike h' hdest
      (heq ▸ hwithin _ _ (.dest hfound hplain))
      (heq' ▸ hwithin' _ _ (.dest (hexists ▸ hfound) hplain'))
    have hthere := hdestAlike.pathExists_eq
    rw [hthere]
    cases hmissing' : fs.pathExists (Path.join base' dest) with
    | true => exact ⟨rfl, rfl⟩
    | false =>
      have hmissing := hthere.trans hmissing'
      have hcopy := FileSystem.copiesAlike_copyLevels _ h h' (fun _ => hcounted) hdest
        (fun fs' asked hasked => hwithin _ _ (.tree hplain (heq ▸ hmissing) (heq ▸ hasked)))
        (fun fs' asked hasked => hwithin' _ _ (.tree hplain' (heq' ▸ hmissing') (heq' ▸ hasked)))
      rw [FileSystem.copyTree, FileSystem.copyTree, hcopy]
      exact alike_reportChange _ _ _

theorem alike_runMv
    (hwithin : FileSystem.Unlimited (MoveAsks fs (Path.join base source) (Path.join base target)))
    (hwithin' : FileSystem.Unlimited
      (MoveAsks fs (Path.join base' source) (Path.join base' target))) :
    FileReport.Alike (runMv cwd [first, second] fs) (runMv cwd' [first', second'] fs) := by
  have halike := h.followsAlike h' (fun _ => hcounted) (hwithin _ _ .source) (hwithin' _ _ .source)
  have hexists := halike.pathExists_eq
  refine alike_withDestination hfirst hsecond hfirst' hsecond' h h' hsource hcounted htarget halike
    (fun hfound => h.followsAlike h' htarget (hwithin _ _ (.target hfound))
      (hwithin' _ _ (.target (hexists ▸ hfound)))) fun hfound dest hdest heq heq' => ?_
  have hdestAlike := h.followsAlike h' hdest (heq ▸ hwithin _ _ (.dest hfound))
    (heq' ▸ hwithin' _ _ (.dest (hexists ▸ hfound)))
  have hthere := hdestAlike.pathExists_eq
  rw [hthere]
  cases hmissing' : fs.pathExists (Path.join base' dest) with
  | true => exact ⟨rfl, rfl⟩
  | false =>
    have hmissing := hthere.trans hmissing'
    have hparent := isSome_parent_join h h' hdest
      (fun parent hparent => hwithin _ _ (.parent (heq ▸ hmissing) (heq ▸ hparent)))
      (fun parent hparent => hwithin' _ _ (.parent (heq' ▸ hmissing') (heq' ▸ hparent)))
    rw [halike.rename_eq hdestAlike]
    revert hparent
    cases (Path.parent? (Path.join base dest)).filter (!fs.isDir ·) <;>
      cases (Path.parent? (Path.join base' dest)).filter (!fs.isDir ·) <;> intro hparent
    · exact alike_reportChange _ _ _
    · simp at hparent
    · simp at hparent
    · exact ⟨rfl, rfl⟩

end

/-- A command runs whatever its name stands for. -/
theorem run_of_name {σ : Type} (sys : System σ) (b : Builtin) (args : List String)
    (shell : Shell σ) : SimpleCommand.run sys ⟨b.name, args⟩ shell = b.run sys args shell := by
  rw [SimpleCommand.run, ofName?_name]

end Builtin

/-- What a shell is asked to do at paths. -/
inductive FileRequest where
  | cat (path : String)
  | touch (path : String)
  | mkdir (path : String)
  | rm (path : String)
  | rmdir (path : String)
  | redirect (command : SimpleCommand) (text : String) (mode : RedirectMode) (path : String)
  | cp (source target : String)
  | mv (source target : String)

namespace FileRequest

/-- The plan that asks for it. -/
def plan : FileRequest → Plan
  | .cat path => .simple ⟨"cat", [path]⟩
  | .touch path => .simple ⟨"touch", [path]⟩
  | .mkdir path => .simple ⟨"mkdir", [path]⟩
  | .rm path => .simple ⟨"rm", [path]⟩
  | .rmdir path => .simple ⟨"rmdir", [path]⟩
  | .redirect command text mode path => .redirected ⟨command, text, mode, path⟩
  | .cp source target => .simple ⟨"cp", [source, target]⟩
  | .mv source target => .simple ⟨"mv", [source, target]⟩

/-- The paths that it names. -/
def paths : FileRequest → List String
  | .cat path | .touch path | .mkdir path | .rm path | .rmdir path | .redirect _ _ _ path => [path]
  | .cp source target | .mv source target => [source, target]

/-- The same at other paths. -/
def map (f : String → String) : FileRequest → FileRequest
  | .cat path => .cat (f path)
  | .touch path => .touch (f path)
  | .mkdir path => .mkdir (f path)
  | .rm path => .rm (f path)
  | .rmdir path => .rmdir (f path)
  | .redirect command text mode path => .redirect command text mode (f path)
  | .cp source target => .cp (f source) (f target)
  | .mv source target => .mv (f source) (f target)

/-- What is typed for a path behind a directory. -/
def onward (d path : String) : String :=
  Utf8.lossy (Path.join d path)

/-- Nothing is replaced in it, as both are text. -/
theorem encode_onward (d path : String) : Utf8.encode (onward d path) = Path.join d path := by
  have htext : Utf8.IsText (Path.join d path) := by
    rw [Path.join]
    split
    · exact Utf8.isText_encode path
    · split
      · exact Utf8.isText_encode path
      · exact ⟨d ++ path, Utf8.encode_append d path⟩
      · exact ⟨d ++ ("/" ++ path), by rw [Utf8.encode_append, Utf8.encode_append]; rfl⟩
  exact htext.encode_lossy

/-- The paths that are looked up, each in the file system as it is then. -/
def Asks (cwd : Path) (fs : FileSystem) : FileRequest → FileSystem → Path → Prop
  | .cat path | .touch path | .mkdir path | .rm path | .redirect _ _ _ path =>
    fun fs' asked => fs' = fs ∧ asked = Path.resolve cwd path
  | .rmdir path => FileSystem.RemoveTreeAsks fs (Path.resolve cwd path)
  | .cp source target => Builtin.CopyAsks fs (Path.resolve cwd source) (Path.resolve cwd target)
  | .mv source target => Builtin.MoveAsks fs (Path.resolve cwd source) (Path.resolve cwd target)

/-- What is reported, and the files afterwards. -/
def report (cwd : Path) (fs : FileSystem) : FileRequest → Builtin.FileReport
  | .cat path => Builtin.runCat cwd [path] fs
  | .touch path => Builtin.runTouch cwd [path] fs
  | .mkdir path => Builtin.runMkdir cwd [path] fs
  | .rm path => Builtin.runRm cwd [path] fs
  | .rmdir path => Builtin.runRmdir cwd [path] fs
  | .redirect command text mode path =>
    let (result, files) := (Redirection.mk command text mode path).apply cwd fs
    (result.map fun read => read.elim .silent .text, files)
  | .cp source target => Builtin.runCp cwd [source, target] fs
  | .mv source target => Builtin.runMv cwd [source, target] fs

theorem execute_plan {σ : Type} (sys : System σ) (request : FileRequest) (shell : Shell σ) :
    request.plan.execute sys shell =
      shell.withFiles (request.report shell.session.workingDir shell.world.files) := by
  cases request with
  | cat path => exact Builtin.run_of_name sys .cat [path] shell
  | touch path => exact Builtin.run_of_name sys .touch [path] shell
  | mkdir path => exact Builtin.run_of_name sys .mkdir [path] shell
  | rm path => exact Builtin.run_of_name sys .rm [path] shell
  | rmdir path => exact Builtin.run_of_name sys .rmdir [path] shell
  | redirect => rfl
  | cp source target => exact Builtin.run_of_name sys .cp [source, target] shell
  | mv source target => exact Builtin.run_of_name sys .mv [source, target] shell

/-- A request comes to the same in a directory and along another way to it. -/
theorem alike_report {fs : FileSystem} {place : Place} {dir cwd : Path} {d : String}
    (request : FileRequest)
    (h : fs.Reaches dir place) (h' : fs.Reaches (Path.resolve cwd d) place)
    (hpaths : ∀ path ∈ request.paths,
      Path.isAbsolute path = false ∧ (Path.fileName? path).isSome = true)
    (hwithin : FileSystem.Unlimited (request.Asks dir fs))
    (hwithin' : FileSystem.Unlimited ((request.map (onward d)).Asks cwd fs))
    (hways : ∀ path target es last slash, request = .rmdir path →
      fs.locate .followAtSlash (Path.join dir path) =
        .ok (.found target (.dir es) last slash) →
      ((fs.put target (.dir [])).Reaches dir place ↔
        (fs.put target (.dir [])).Reaches (Path.resolve cwd d) place)) :
    Builtin.FileReport.Alike (request.report dir fs)
      ((request.map (onward d)).report cwd fs) := by
  have hresolve (path : String) : Path.resolve cwd (onward d path) =
      Path.join (Path.resolve cwd d) path := by
    rw [Path.resolve, encode_onward, Path.resolve, Path.join_assoc]
  have hcounted {path : String} (hpath : path ∈ request.paths) :
      Path.counted path ≠ [] := by
    obtain ⟨name, hname⟩ := Option.isSome_iff_exists.1 (hpaths path hpath).2
    exact Path.counted_ne_nil_of_fileName? hname
  have halike (path : String) (hpath : path ∈ request.paths)
      (hasked : request.Asks dir fs fs (Path.resolve dir path))
      (hasked' : (request.map (onward d)).Asks cwd fs fs
        (Path.resolve cwd (onward d path))) :
      fs.FollowsAlike (Path.resolve dir path) (Path.resolve cwd (onward d path)) := by
    have hlimit' := hwithin' _ _ hasked'
    rw [hresolve] at hlimit' ⊢
    exact h.followsAlike h' (fun _ => hcounted hpath) (hwithin _ _ hasked) hlimit'
  cases request with
  | cat path =>
    exact Builtin.alike_runCat (halike path (List.mem_singleton_self _) ⟨rfl, rfl⟩ ⟨rfl, rfl⟩)
  | touch path =>
    exact Builtin.alike_runTouch (halike path (List.mem_singleton_self _) ⟨rfl, rfl⟩ ⟨rfl, rfl⟩)
  | mkdir path =>
    exact Builtin.alike_runMkdir (halike path (List.mem_singleton_self _) ⟨rfl, rfl⟩ ⟨rfl, rfl⟩)
  | rm path =>
    exact Builtin.alike_runRm (halike path (List.mem_singleton_self _) ⟨rfl, rfl⟩ ⟨rfl, rfl⟩)
  | redirect command text mode path =>
    exact Builtin.alike_apply (halike path (List.mem_singleton_self _) ⟨rfl, rfl⟩ ⟨rfl, rfl⟩)
      command text mode
  | rmdir path =>
    have hpath := List.mem_singleton_self path
    refine Builtin.alike_runRmdir (halike path hpath .self .self) ?_
    have hlimit' : FileSystem.Unlimited
        (FileSystem.RemoveTreeAsks fs (Path.resolve cwd (onward d path))) := hwithin'
    rw [hresolve] at hlimit' ⊢
    exact FileSystem.removeTree_join_eq h h' (fun _ => hcounted hpath) hwithin hlimit'
      fun target es last slash => hways path target es last slash rfl
  | cp source target =>
    have hsource : source ∈ [source, target] := List.mem_cons_self
    have htarget : target ∈ [source, target] := List.mem_cons_of_mem _ (List.mem_singleton_self _)
    have hlimit' : FileSystem.Unlimited (Builtin.CopyAsks fs
        (Path.resolve cwd (onward d source)) (Path.resolve cwd (onward d target))) := hwithin'
    rw [hresolve, hresolve] at hlimit'
    exact Builtin.alike_runCp rfl rfl (hresolve source) (hresolve target) h h' (hpaths _ hsource).1
      (hcounted hsource) (fun _ => hcounted htarget) hwithin hlimit'
  | mv source target =>
    have hsource : source ∈ [source, target] := List.mem_cons_self
    have htarget : target ∈ [source, target] := List.mem_cons_of_mem _ (List.mem_singleton_self _)
    have hlimit' : FileSystem.Unlimited (Builtin.MoveAsks fs
        (Path.resolve cwd (onward d source)) (Path.resolve cwd (onward d target))) := hwithin'
    rw [hresolve, hresolve] at hlimit'
    exact Builtin.alike_runMv rfl rfl (hresolve source) (hresolve target) h h' (hpaths _ hsource).1
      (hcounted hsource) (fun _ => hcounted htarget) hwithin hlimit'

end FileRequest
end LineShell
