import LineShell.Proofs.Effect
import LineShell.Proofs.Idle
import LineShell.Proofs.OnTheWay
import LineShell.Proofs.Spreading

/-!
# What commands do to files

As long as no other process changes files, only the commands on files and redirections do. Of these
rm, rmdir and mv may take something away; the others let the file system grow.
-/
namespace LineShell

/-- No operation of a system changes a file. -/
structure System.KeepsFiles (sys : System σ) : Prop where
  start : ∀ cmd dir streams world, (sys.start cmd dir streams world).2.files = world.files
  wait : ∀ pid world, (sys.wait pid world).2.files = world.files
  collect : ∀ pid world, (sys.collect pid world).2.files = world.files
  kill : ∀ pid world, (sys.kill pid world).2.files = world.files
  signal : ∀ pid signal world, (sys.signal pid signal world).2.files = world.files
  statLine : ∀ pid world, (sys.statLine pid world).2.files = world.files
  processNames : ∀ world, (sys.processNames world).2.files = world.files
  pause : ∀ n world, (sys.pause n world).files = world.files

theorem System.keepsFiles_idle : System.idle.KeepsFiles where
  start _ _ _ _ := rfl
  wait _ _ := rfl
  collect _ _ := rfl
  kill _ _ := rfl
  signal _ _ _ := rfl
  statLine _ _ := rfl
  processNames _ := rfl
  pause _ _ := rfl

namespace System.KeepsFiles
variable {σ : Type} {sys : System σ} (h : sys.KeepsFiles)
include h

theorem files_statAll (pids : List Pid) (world : World σ) :
    (sys.statAll pids world).2.files = world.files := by
  induction pids generalizing world with
  | nil => rfl
  | cons pid pids ih => exact (ih _).trans (h.statLine pid world)

theorem files_processes (world : World σ) : (sys.processes world).2.files = world.files := by
  have hnames := h.processNames world
  rw [processes]
  revert hnames
  obtain ⟨e | names, after⟩ := sys.processNames world
  · exact id
  · exact (h.files_statAll _ after).trans

theorem files_findByName (needle : String) (world : World σ) :
    (sys.findByName needle world).2.files = world.files := by
  have hprocesses := h.files_processes world
  rw [findByName]
  revert hprocesses
  obtain ⟨e | found, after⟩ := sys.processes world
  · exact id
  · exact id

theorem files_send (pid : Pid) (signal : Option Signal) (world : World σ) :
    (sys.send pid signal world).2.files = world.files := by
  have hsignal := h.signal pid signal world
  rw [send]
  revert hsignal
  obtain ⟨e | ⟨⟩, after⟩ := sys.signal pid signal world
  · dsimp only
    split_ifs <;> exact id
  · exact id

theorem files_isAlive (pid : Pid) (world : World σ) :
    (sys.isAlive pid world).2.files = world.files := by
  have hsend := h.files_send pid none world
  rw [isAlive]
  revert hsend
  obtain ⟨e | ⟨⟩, after⟩ := sys.send pid none world
  · exact id
  · exact (h.statLine pid after).trans

theorem files_awaitEnd (pid : Pid) (deadline : ℕ) (world : World σ) :
    (sys.awaitEnd pid deadline world).2.files = world.files := by
  fun_induction awaitEnd sys pid deadline world with
  | case1 world alive => exact h.files_isAlive pid world
  | case2 world alive _ _ ih => exact (ih.trans (h.pause _ _)).trans (h.files_isAlive pid world)
  | case3 world alive => exact h.files_isAlive pid world

theorem files_terminate (pid : Pid) (timeout : ℕ) (world : World σ) :
    (sys.terminate pid timeout world).2.files = world.files := by
  have hasked := h.files_send pid (some .terminate) world
  rw [terminate]
  revert hasked
  obtain ⟨e | ⟨⟩, asked⟩ := sys.send pid (some .terminate) world
  · exact id
  · intro hasked
    have hwaited := (h.files_awaitEnd pid (sys.now asked + timeout) (sys.pause 0 asked)).trans
      (h.pause 0 asked)
    dsimp only at hasked ⊢
    revert hwaited
    obtain ⟨_ | _, waited⟩ := sys.awaitEnd pid (sys.now asked + timeout) (sys.pause 0 asked)
    · intro hwaited
      have hkilled := h.files_send pid (some .kill) waited
      dsimp only at hwaited ⊢
      revert hkilled
      obtain ⟨e | ⟨⟩, killed⟩ := sys.send pid (some .kill) waited
      · cases e <;> exact fun hkilled => (hkilled.trans hwaited).trans hasked
      · exact fun hkilled => (hkilled.trans hwaited).trans hasked
    · exact fun hwaited => hwaited.trans hasked

theorem files_launcher (launcher : Launcher) (dir : Path) (cmd : SimpleCommand) (world : World σ) :
    (launcher.run sys dir cmd world).2.files = world.files := by
  cases launcher with
  | native =>
    have hstart := h.start cmd dir .shared world
    rw [Launcher.run, Launcher.runNative]
    revert hstart
    obtain ⟨e | pid, started⟩ := sys.start cmd dir .shared world
    · exact id
    · intro hstart
      have hwait := h.wait pid started
      dsimp only at hstart ⊢
      revert hwait
      obtain ⟨e | ⟨⟩, ended⟩ := sys.wait pid started <;> exact fun hwait => hwait.trans hstart
  | subshell =>
    have hstart := h.start (Launcher.shellCommand cmd) dir ⟨.inherited, .piped, .piped⟩ world
    rw [Launcher.run, Launcher.runSubshell]
    revert hstart
    obtain ⟨e | pid, started⟩ :=
      sys.start (Launcher.shellCommand cmd) dir ⟨.inherited, .piped, .piped⟩ world
    · exact id
    · intro hstart
      have hcollect := h.collect pid started
      dsimp only at hstart ⊢
      revert hcollect
      obtain ⟨e | remains, ended⟩ := sys.collect pid started
      · exact fun hcollect => hcollect.trans hstart
      · dsimp only
        split_ifs <;> exact fun hcollect => hcollect.trans hstart

theorem files_launch (dir : Path) (cmd : SimpleCommand) (world : World σ) :
    (Job.launch sys dir cmd world).2.files = world.files := by
  have hstart := h.start cmd dir .shared world
  rw [Job.launch]
  split_ifs
  · rfl
  · revert hstart
    obtain ⟨e | pid, started⟩ := sys.start cmd dir .shared world <;> exact id

theorem files_start (dir : Path) (index : ℕ) (input : InputFrom) (stages : List SimpleCommand)
    (world : World σ) :
    (Pipeline.start sys dir index input stages world).2.files = world.files := by
  induction stages generalizing index input world with
  | nil => rfl
  | cons stage rest ih =>
    have hstart := h.start stage dir ⟨input, .piped, .inherited⟩ world
    rw [Pipeline.start]
    revert hstart
    obtain ⟨e | pid, started⟩ := sys.start stage dir ⟨input, .piped, .inherited⟩ world
    · exact id
    · exact (ih _ _ started).trans

theorem files_killAll (pids : List Pid) (world : World σ) :
    (Pipeline.killAll sys pids world).files = world.files := by
  induction pids generalizing world with
  | nil => rfl
  | cons pid pids ih => exact (ih _).trans (h.kill pid world)

theorem files_waitAll (pids : List Pid) (world : World σ) :
    (Pipeline.waitAll sys pids world).files = world.files := by
  induction pids generalizing world with
  | nil => rfl
  | cons pid pids ih => exact (ih _).trans (h.wait pid world)

theorem files_pipeline (dir : Path) (stages : List SimpleCommand) (world : World σ) :
    (Pipeline.run sys dir stages world).2.files = world.files := by
  have hstart := h.files_start dir 0 .inherited stages world
  rw [Pipeline.run]
  revert hstart
  obtain ⟨⟨pids, fault⟩, started⟩ := Pipeline.start sys dir 0 .inherited stages world
  cases fault with
  | some fault => exact (h.files_killAll pids started).trans
  | none =>
    dsimp only
    cases pids.getLast? with
    | none => exact id
    | some last =>
      intro hstart
      have hcollect := h.collect last started
      dsimp only
      revert hcollect
      obtain ⟨e | remains, collected⟩ := sys.collect last started
      · exact fun hcollect => hcollect.trans hstart
      · exact fun hcollect => ((h.files_waitAll _ collected).trans hcollect).trans hstart

theorem files_runKill (palette : Palette) (timeout : ℕ) (args : List String) (world : World σ) :
    (Builtin.runKill sys palette timeout args world).2.files = world.files := by
  rw [Builtin.runKill]
  cases Builtin.required .kill args with
  | error e => rfl
  | ok name =>
    have hfind := h.files_findByName name world
    dsimp only
    revert hfind
    obtain ⟨e | _ | process, found⟩ := sys.findByName name world
    · exact id
    · exact id
    · intro hfind
      have hended := h.files_terminate process.pid timeout found
      dsimp only
      revert hended
      obtain ⟨e | how, ended⟩ := sys.terminate process.pid timeout found <;>
        exact fun hended => hended.trans hfind

theorem files_runTop (world : World σ) : (Builtin.runTop sys world).2.files = world.files := by
  have hprocesses := h.files_processes world
  rw [Builtin.runTop]
  revert hprocesses
  obtain ⟨e | processes, after⟩ := sys.processes world <;> exact id

theorem files_runPs (dir : Path) (args : List String) (world : World σ) :
    (Builtin.runPs sys dir args world).2.files = world.files := by
  have hstart := h.start ⟨"ps", ["aux"]⟩ dir ⟨.inherited, .piped, .piped⟩ world
  rw [Builtin.runPs]
  split_ifs
  · rfl
  · revert hstart
    obtain ⟨e | pid, started⟩ := sys.start ⟨"ps", ["aux"]⟩ dir ⟨.inherited, .piped, .piped⟩ world
    · exact id
    · intro hstart
      have hcollect := h.collect pid started
      dsimp only
      revert hcollect
      obtain ⟨e | remains, collected⟩ := sys.collect pid started
      · exact fun hcollect => hcollect.trans hstart
      · dsimp only
        split_ifs <;> exact fun hcollect => hcollect.trans hstart

theorem files_runNano (dir : Path) (args : List String) (world : World σ) :
    (Builtin.runNano sys dir args world).2.files = world.files := by
  have hstart := h.start ⟨"nano", args.take 1⟩ dir .shared world
  unfold Builtin.runNano
  dsimp only
  revert hstart
  obtain ⟨e | pid, started⟩ := sys.start ⟨"nano", args.take 1⟩ dir .shared world
  · exact id
  · intro hstart
    have hwait := h.wait pid started
    dsimp only at hstart ⊢
    revert hwait
    obtain ⟨e | ⟨⟩, ended⟩ := sys.wait pid started <;> exact fun hwait => hwait.trans hstart

theorem files_runOpen (dir : Path) (args : List String) (world : World σ) :
    (Builtin.runOpen sys dir args world).2.files = world.files := by
  have hstart := h.start ⟨"xdg-open", args⟩ dir .shared world
  unfold Builtin.runOpen
  split_ifs
  · rfl
  · dsimp only
    revert hstart
    obtain ⟨e | pid, started⟩ := sys.start ⟨"xdg-open", args⟩ dir .shared world <;> exact id

end System.KeepsFiles

/-! ## The files after a plan -/

def Builtin.filesAfter (b : Builtin) (cwd : Path) (args : List String) (fs : FileSystem) :
    FileSystem :=
  match b with
  | .cp => (runCp cwd args fs).2
  | .mkdir => (runMkdir cwd args fs).2
  | .mv => (runMv cwd args fs).2
  | .rm => (runRm cwd args fs).2
  | .rmdir => (runRmdir cwd args fs).2
  | .touch => (runTouch cwd args fs).2
  | _ => fs

/-- The files after a plan that is executed in a directory. -/
def Plan.filesAfter (plan : Plan) (cwd : Path) (fs : FileSystem) : FileSystem :=
  match plan with
  | .simple cmd => ((Builtin.ofName? cmd.program).map (·.filesAfter cwd cmd.args fs)).getD fs
  | .redirected redirection => (redirection.apply cwd fs).2
  | _ => fs

variable {σ : Type} {sys : System σ}

/-- Showing the content of a file changes none. -/
theorem Builtin.files_runCat (cwd : Path) (args : List String) (fs : FileSystem) :
    (runCat cwd args fs).2 = fs := by
  rw [runCat, withPath]
  split
  · rfl
  · split <;> rfl

theorem Builtin.files_run (h : sys.KeepsFiles) (b : Builtin) (args : List String)
    (shell : Shell σ) : (b.run sys args shell).2.world.files =
      b.filesAfter shell.session.workingDir args shell.world.files := by
  cases b with
  | cat => exact files_runCat ..
  | cd =>
    simp only [run]
    split <;> rfl
  | kill => exact h.files_runKill ..
  | nano => exact h.files_runNano ..
  | openWith => exact h.files_runOpen ..
  | top => exact h.files_runTop ..
  | ps => exact h.files_runPs ..
  | _ => rfl

/-- What a plan does to the files does not depend on anything else. -/
theorem Plan.files_execute (h : sys.KeepsFiles) (plan : Plan) (shell : Shell σ) :
    (plan.execute sys shell).2.world.files =
      plan.filesAfter shell.session.workingDir shell.world.files := by
  cases plan with
  | noOp => rfl
  | simple cmd =>
    rw [execute, SimpleCommand.run, filesAfter]
    cases Builtin.ofName? cmd.program with
    | some b => exact b.files_run h cmd.args shell
    | none =>
      have hrun := h.files_launcher shell.session.launcher shell.session.workingDir cmd shell.world
      dsimp only
      revert hrun
      obtain ⟨e | stdout, world⟩ :=
        shell.session.launcher.run sys shell.session.workingDir cmd shell.world <;> exact id
  | piped stages => exact h.files_pipeline ..
  | redirected redirection => rfl
  | backgrounded cmd =>
    have hlaunch := h.files_launch shell.session.workingDir cmd shell.world
    rw [execute]
    revert hlaunch
    obtain ⟨e | job, world⟩ := Job.launch sys shell.session.workingDir cmd shell.world <;> exact id

/-! ## What grows -/

namespace FileSystem
variable (fs : FileSystem) (source target path : Path)

theorem grows_update (g : Bytes → Bytes) (executable : Bool) (mode : Bool → Bool) :
    Grows fs (fs.update path g executable mode).2 := by
  obtain ⟨⟨e, herror⟩, -⟩ | ⟨-, hdevice⟩ | ⟨place, old, x, new, hopens, hupdate⟩ :=
    fs.update_cases path g executable mode
  · rw [herror]
    exact .refl fs
  · rw [hdevice]
    exact .refl fs
  · rw [hupdate]
    obtain ⟨hcontent, hsame⟩ := hopens.put (g old) new
    exact hsame.grows hcontent

theorem grows_copyFile : Grows fs (fs.copyFile source target).2 := by
  rw [copyFile]
  split
  · exact .refl fs
  · next x _ =>
    have hempty := fs.grows_update target (fun _ => []) x fun _ => x
    revert hempty
    obtain ⟨e | ⟨⟩, emptied⟩ := fs.update target (fun _ => []) x fun _ => x
    · exact id
    · intro hempty
      dsimp only
      split
      · exact hempty.trans (grows_update _ _ _ _ _)
      · exact hempty
  · exact .refl fs

theorem grows_copyEntries {copyDir : FileSystem → Path → Path → Change Unit}
    (hcopy : ∀ fs source target, Grows fs (copyDir fs source target).2) (es : Entries) :
    Grows fs (copyEntries copyDir source target fs es).2 := by
  induction es generalizing fs with
  | nil => exact .refl fs
  | cons e rest ih =>
    obtain ⟨name, node⟩ := e
    have hfirst : Grows fs ((if node.isDir then copyDir else copyFile) fs
        (Path.join source name) (Path.join target name)).2 := by
      split
      · exact hcopy _ _ _
      · exact grows_copyFile _ _ _
    rw [copyEntries]
    revert hfirst
    obtain ⟨e | ⟨⟩, after⟩ := (if node.isDir then copyDir else copyFile) fs
      (Path.join source name) (Path.join target name)
    · exact id
    · exact fun hfirst => hfirst.trans (ih after)

theorem grows_copyLevels (depth : ℕ) : Grows fs (copyLevels depth fs source target).2 := by
  induction depth generalizing fs source target with
  | zero => exact .refl fs
  | succ depth ih =>
    have hmake := (fs.extends_makeDirAll target).grows
    rw [copyLevels]
    revert hmake
    obtain ⟨e | ⟨⟩, made⟩ := fs.makeDirAll target
    · exact id
    · intro hmake
      dsimp only
      split
      · exact hmake
      · exact hmake.trans (grows_copyEntries made source target (fun fs s t => ih fs s t) _)

end FileSystem

theorem Redirection.grows_apply (r : Redirection) (cwd : Path) (fs : FileSystem) :
    FileSystem.Grows fs (r.apply cwd fs).2 := by
  rw [apply.eq_def]
  dsimp only
  split_ifs
  · exact .refl fs
  · split
    · split
      · exact .refl fs
      · split_ifs <;> exact .refl fs
    · split
      · exact .refl fs
      · next text _ =>
        have hwrite : FileSystem.Grows fs (write fs (Path.resolve cwd r.target) r.mode text).2 := by
          cases r.mode <;> exact fs.grows_update _ _ _ _
        revert hwrite
        obtain ⟨e | ⟨⟩, after⟩ := write fs (Path.resolve cwd r.target) r.mode text <;> exact id

namespace Builtin
variable (cwd : Path) (args : List String) (fs : FileSystem)

theorem files_reportChange (text : String) (change : FileSystem.Change Unit) :
    (reportChange text change).2 = change.2 := by
  obtain ⟨e | ⟨⟩, after⟩ := change <;> rfl

/-- What holds of the files after a command that fails at once, and after its run on any path, holds
after the command. -/
theorem withPath_induction {P : FileSystem → Prop} {b : Builtin} {run : String → Path → FileReport}
    (hsame : P fs) (hrun : ∀ name, P (run name (Path.resolve cwd name)).2) :
    P (withPath b cwd args fs run).2 := by
  rw [withPath]
  split
  · exact hsame
  · exact hrun _

theorem grows_runMkdir : FileSystem.Grows fs (runMkdir cwd args fs).2 := by
  refine withPath_induction cwd args fs (.refl fs) fun name => ?_
  split_ifs
  · exact .refl fs
  · rw [files_reportChange]
    exact (fs.extends_makeDir _).grows

theorem grows_runTouch : FileSystem.Grows fs (runTouch cwd args fs).2 := by
  refine withPath_induction cwd args fs (.refl fs) fun name => ?_
  split_ifs
  · exact .refl fs
  · rw [files_reportChange]
    exact fs.grows_update _ _ _ _

theorem grows_runCp : FileSystem.Grows fs (runCp cwd args fs).2 := by
  obtain ⟨e, herror⟩ | ⟨name, arg, others, rfl, hrun⟩ := withDestination_cases .cp cwd args fs
    fun source target => if fs.isDir source then
        if fs.pathExists target then (.error (.alreadyExists "Directory" (Utf8.lossy target)), fs)
        else reportChange ("Directory copied to " ++ Utf8.lossy target) (fs.copyTree source target)
      else reportChange ("File copied to " ++ Utf8.lossy target) (fs.copyFile source target)
  · rw [runCp, herror]
    exact .refl fs
  · rw [runCp, hrun]
    split_ifs
    · exact .refl fs
    · rw [files_reportChange]
      exact fs.grows_copyLevels _ _ _
    · rw [files_reportChange]
      exact fs.grows_copyFile _ _

/-- Removing a file takes nothing away that is on the way to a directory. -/
theorem isDir_runRm {path : Path} (h : fs.isDir path = true) :
    (runRm cwd args fs).2.isDir path = true := by
  refine withPath_induction (P := fun after => after.isDir path = true) cwd args fs h fun name => ?_
  split_ifs with hmissing hdir
  · exact h
  · exact h
  · rw [files_reportChange]
    exact FileSystem.isDir_removeFile (by simpa using hmissing) (by simpa using hdir) h

end Builtin

end LineShell
