import LineShell.Banner
import LineShell.Builtin.Help
import LineShell.Builtin.Processes
import LineShell.Builtin.Tree
import LineShell.Session
import Mathlib.Data.List.Forall2

/-!
# Paint

Colour sequences stand around texts and never change them: every text that is painted is the plain
text with some of its parts between two sequences. What comes from it when all sequences are taken
out is the plain text, unless that has an escape character of its own.
-/
namespace LineShell

namespace Palette

def coloured : Palette := ⟨true⟩

def plain : Palette := ⟨false⟩

/-- The number of characters of the colour sequence that a text starts with, if it does. -/
def sequenceLength (text : List Char) : Nat :=
  let start := "\x1b[38;5;".toList
  if reset.toList.isPrefixOf text then reset.toList.length
  else if start.isPrefixOf text then
    let index := (text.drop start.length).takeWhile Char.isDigit
    let length := start.length + index.length + 1
    if !index.isEmpty && (text.take length).getLast? == some 'm' then length else 0
  else 0

/-- A text from `skip` characters on, without its colour sequences. -/
def unpaintFrom : Nat → List Char → List Char
  | _, [] => []
  | skip + 1, _ :: rest => unpaintFrom skip rest
  | 0, c :: rest =>
    match sequenceLength (c :: rest) with
    | 0 => c :: unpaintFrom 0 rest
    | skip + 1 => unpaintFrom skip rest

/-- A text without its colour sequences. -/
def unpaint (text : String) : String :=
  String.ofList (unpaintFrom 0 text.toList)

theorem unpaintFrom_append (front rest : List Char) :
    unpaintFrom front.length (front ++ rest) = unpaintFrom 0 rest := by
  induction front with
  | nil => rfl
  | cons c front ih => exact ih

/-- A sequence is taken out. -/
theorem unpaintFrom_of_sequenceLength {sequence rest : List Char} (hne : sequence ≠ [])
    (h : sequenceLength (sequence ++ rest) = sequence.length) :
    unpaintFrom 0 (sequence ++ rest) = unpaintFrom 0 rest := by
  obtain ⟨c, sequence, rfl⟩ := List.exists_cons_of_ne_nil hne
  rw [List.cons_append, List.length_cons] at h
  rw [List.cons_append, unpaintFrom, h]
  exact unpaintFrom_append sequence rest

theorem toList_start (tint : Tint) :
    (start tint).toList = "\x1b[38;5;".toList ++ [Nat.digitChar tint.index, 'm'] := by
  cases tint <;> decide

theorem sequenceLength_start (tint : Tint) (rest : List Char) :
    sequenceLength ((start tint).toList ++ rest) = (start tint).toList.length := by
  rw [toList_start]
  cases tint <;> simp [sequenceLength, reset, Tint.index, Nat.digitChar]

theorem sequenceLength_reset (rest : List Char) :
    sequenceLength (reset.toList ++ rest) = reset.toList.length := by
  have hreset : reset.toList = ['\x1b', '[', '3', '9', 'm'] := by decide
  simp [sequenceLength, hreset]

/-- A sequence starts with an escape character. -/
theorem sequenceLength_cons_of_ne {c : Char} (h : c ≠ '\x1b') (rest : List Char) :
    sequenceLength (c :: rest) = 0 := by
  simp [sequenceLength, reset, h.symm]

/-- A text without escape characters stays. -/
theorem unpaintFrom_append_of_not_mem {text : List Char} (h : '\x1b' ∉ text) (rest : List Char) :
    unpaintFrom 0 (text ++ rest) = text ++ unpaintFrom 0 rest := by
  induction text with
  | nil => rfl
  | cons c text ih =>
    obtain ⟨hne, htext⟩ := List.ne_and_not_mem_of_not_mem_cons h
    rw [List.cons_append, unpaintFrom, sequenceLength_cons_of_ne hne.symm, ih htext]
    rfl

/-- A text and what it is when some of its parts are painted. -/
inductive Paints : String → String → Prop where
  | same (text : String) : Paints text text
  | painted (tint : Tint) (text : String) : Paints (start tint ++ text ++ reset) text
  | append {a b a' b' : String} : Paints a a' → Paints b b' → Paints (a ++ b) (a' ++ b')

namespace Paints

theorem paint (tint : Tint) (text : String) :
    Paints (coloured.paint tint text) (plain.paint tint text) :=
  .painted tint text

theorem intercalate (sep : String) {xs ys : List String} (h : List.Forall₂ Paints xs ys) :
    Paints (sep.intercalate xs) (sep.intercalate ys) := by
  induction h with
  | nil => exact .same _
  | cons hhead htail ih =>
    cases htail with
    | nil => simpa using hhead
    | cons hnext htail =>
      rw [String.intercalate_cons_cons, String.intercalate_cons_cons]
      exact .append (.append hhead (.same sep)) ih

theorem join {xs ys : List String} (h : List.Forall₂ Paints xs ys) :
    Paints (String.join xs) (String.join ys) := by
  induction h with
  | nil => exact .same _
  | cons hhead _ ih =>
    rw [String.join_cons, String.join_cons]
    exact .append hhead ih

/-- Texts that are painted at the most in the same places. -/
theorem map {α : Type} {f g : α → String} (h : ∀ a, Paints (f a) (g a)) (l : List α) :
    List.Forall₂ Paints (l.map f) (l.map g) := by
  rw [List.forall₂_map_left_iff, List.forall₂_map_right_iff, List.forall₂_same]
  exact fun a _ => h a

/-- Taking the sequences out of a painted text leaves the plain one. -/
theorem unpaintFrom_append {a b : String} (h : Paints a b) (hfree : '\x1b' ∉ b.toList)
    (rest : List Char) : unpaintFrom 0 (a.toList ++ rest) = b.toList ++ unpaintFrom 0 rest := by
  induction h generalizing rest with
  | same text => exact unpaintFrom_append_of_not_mem hfree rest
  | painted tint text =>
    have hstart : (start tint).toList ≠ [] := by cases tint <;> decide
    have hreset : reset.toList ≠ [] := by decide
    rw [String.toList_append, String.toList_append, List.append_assoc, List.append_assoc,
      unpaintFrom_of_sequenceLength hstart (sequenceLength_start tint _),
      unpaintFrom_append_of_not_mem hfree,
      unpaintFrom_of_sequenceLength hreset (sequenceLength_reset _)]
  | append _ _ ihfront ihback =>
    rw [String.toList_append, List.mem_append, not_or] at hfree
    rw [String.toList_append, String.toList_append, List.append_assoc, ihfront hfree.1,
      ihback hfree.2, List.append_assoc]

theorem unpaint_eq {a b : String} (h : Paints a b) (hfree : '\x1b' ∉ b.toList) :
    unpaint a = b := by
  have hall := h.unpaintFrom_append hfree []
  rw [List.append_nil, unpaintFrom, List.append_nil] at hall
  rw [unpaint, hall, String.ofList_toList]

example : unpaint (coloured.paint .cyan "---" ++ coloured.paint .purple "a" ++ "/") = "---a/" := by
  decide

end Paints
end Palette

open Palette

/-! ## The texts that are painted -/

namespace Builtin

theorem paints_helpText : Paints (helpText coloured) (helpText plain) := by
  refine .intercalate _ (.cons (.paint _ _) (Paints.map (fun entry => ?_) _))
  exact .append (.append (.append (.same _) (.paint _ _)) (.same _)) (.paint _ _)

theorem paints_killText (pid : Pid) (how : Termination) :
    Paints (killText coloured pid how) (killText plain pid how) := by
  cases how with
  | graceful => exact .same _
  | forced => exact .append (.paint _ _) (.same _)

theorem paints_treeHeading (indent : String) (dir : Path) :
    Paints (treeHeading coloured indent dir) (treeHeading plain indent dir) :=
  .append (.append (.paint _ _) (.paint _ _)) (.same _)

theorem paints_treeEntries {subtree subtree' : Path → List String}
    (h : ∀ path, List.Forall₂ Paints (subtree path) (subtree' path)) (fs : FileSystem)
    (indent : String) (dir : Path) (entries : Entries) :
    List.Forall₂ Paints (treeEntries subtree coloured fs indent dir entries)
      (treeEntries subtree' plain fs indent dir entries) := by
  induction entries with
  | nil => exact .nil
  | cons entry entries ih =>
    refine List.rel_append ?_ ih
    dsimp only
    split
    · exact h _
    · exact .cons (.append (.paint _ _) (.same _)) .nil

theorem paints_treeLevels (fs : FileSystem) (depth : ℕ) (indent : String) (dir : Path) :
    List.Forall₂ Paints (treeLevels coloured fs depth indent dir)
      (treeLevels plain fs depth indent dir) := by
  induction depth generalizing indent dir with
  | zero => exact .nil
  | succ depth ih =>
    refine .cons (paints_treeHeading indent dir) ?_
    cases fs.readDir dir with
    | error e =>
      dsimp only
      split
      · exact .cons (.same _) .nil
      · exact .nil
    | ok entries => exact paints_treeEntries (fun path => ih _ path) fs _ dir _

end Builtin

namespace Diagnostic

theorem paints_body (shell line : String) (e : ShellError) :
    List.Forall₂ Paints (body coloured shell line e) (body plain shell line e) := by
  have hred (text : String) : List.Forall₂ Paints [coloured.paint .red text]
      [plain.paint .red text] := .cons (.paint _ _) .nil
  cases e with
  | launch cause =>
    cases cause with
    | commandNotFound command stdout stderr =>
      exact List.rel_append (List.forall₂_same.2 fun _ _ => .same _) (hred _)
    | spawn command cause => exact .cons (.paint _ _) (.cons (.same _) .nil)
    | invalidArguments program usage => exact hred _
  | pipelineLaunch stage program cause => exact .cons (.paint _ _) (hred _)
  | unsupportedRedirection command => exact .cons (.paint _ _) (hred _)
  | _ => exact hred _

theorem paints_hint (e : ShellError) : List.Forall₂ Paints (hint coloured e) (hint plain e) := by
  unfold hint
  split
  · exact .cons (.paint _ _) .nil
  · exact .nil
  · exact .nil
  · split
    · exact .cons (.paint _ _) .nil
    · exact .nil

theorem paints_complaint (e : ShellError) :
    List.Forall₂ Paints (complaint coloured e) (complaint plain e) := by
  unfold complaint
  split
  · exact Paints.map (fun text => .paint _ text) _
  · exact .nil

theorem paints_render (shell line : String) (e : ShellError) :
    Paints (render coloured shell line e) (render plain shell line e) :=
  .intercalate _ (List.rel_append (List.rel_append (paints_body shell line e) (paints_hint e))
    (paints_complaint e))

end Diagnostic

theorem Banner.paints_render (width : ℕ) :
    Paints (Banner.render coloured width) (Banner.render plain width) := by
  have hline (line : String) : Paints (coloured.paint .cyan (center line width) ++ "\n")
      (plain.paint .cyan (center line width) ++ "\n") := .append (.paint _ _) (.same _)
  exact .join (Paints.map (fun block => .append (.join (Paints.map hline block)) (.same _)) _)

end LineShell
