import LineShell.Proofs.Storage
import LineShell.Session

/-!
# An idle system

A system in which nothing runs and nothing can be started, so that what a shell does by itself can
be seen. Its clock stands still unless the shell waits. There may be no files in it, or nothing but
a device.
-/
namespace LineShell

/-- The system in which nothing runs. All that it keeps is its clock. -/
def System.idle : System ℕ where
  start _ _ _ world := (.error (.os .noEntry), world)
  wait _ world := (.ok (), world)
  collect _ world := (.ok ⟨some 0, [], []⟩, world)
  kill _ world := (.ok (), world)
  signal _ _ world := (.error .noProcess, world)
  statLine _ world := (none, world)
  processNames world := (.ok [], world)
  ownPid := 1
  now world := world.outside
  pause n world := { world with outside := world.outside + n }
  memoryTable _ := .error (.os .noEntry)
  disk _ := .error .noEntry
  localTime _ := ⟨1970, 1, 1, 0, 0, 0⟩
  now_signal _ _ _ := Nat.le_refl _
  now_statLine _ _ := Nat.le_refl _
  now_pause _ _ := Nat.le_refl _

/-- A shell that starts in the root directory over some files. -/
def Shell.startIn (files : FileSystem) : Shell ℕ where
  session := Session.start {} false "/" "ada" "box" none
  world := ⟨files, [], .ok [], [], 0⟩

namespace FileSystem

theorem locate_new : (⟨[]⟩ : FileSystem).locate .follow "/f" = .ok (.missing [] "f" false) := by
  have hnames : Path.names "/f" = (["f"] : Place) := by decide
  have hslash : Path.endsInSlash "/f" = false := by decide
  apply locate_of_walks (by decide) (by decide) (by decide)
  rw [hnames, hslash]
  exact .absent rfl (by decide) rfl

theorem canOpen_new : (⟨[]⟩ : FileSystem).CanOpen "/f" := by
  rw [CanOpen, update, locate_new]
  rfl

theorem leadsToDevice_new : (⟨[]⟩ : FileSystem).leadsToDevice "/f" = false := by
  rw [leadsToDevice, locate_new]

/-- Files of which one is a device that keeps nothing. -/
def withDevice : FileSystem :=
  ⟨[("dev", .dir [("null", .device)])]⟩

theorem leadsToDevice_withDevice : withDevice.leadsToDevice "/dev/null" = true := by
  have hnames : Path.names "/dev/null" = (["dev", "null"] : Place) := by decide
  have hslash : Path.endsInSlash "/dev/null" = false := by decide
  refine leadsToDevice_iff.2 ⟨["dev", "null"], ?_⟩
  apply locate_of_walks (by decide) (by decide) (by decide)
  rw [hnames, hslash]
  refine .down rfl (by decide) rfl rfl (by simp) ?_
  exact .last rfl (by decide) rfl (by simp [Node.isLink])

theorem canOpen_withDevice : withDevice.CanOpen "/dev/null" := by
  rw [CanOpen, update_of_leadsToDevice leadsToDevice_withDevice]

end FileSystem
end LineShell
