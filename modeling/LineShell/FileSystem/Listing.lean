import LineShell.FileSystem.Node

/-!
# Listing a tree

All nodes below a directory, each with its place: a directory before what lies below it, the
entries of one directory in the order of their names.
-/
namespace LineShell.Node

/-- Entries in the order of their names. -/
def sortEntries (entries : Entries) : Entries :=
  entries.mergeSort fun a b => decide (a.1 ≤ b.1)

mutual

/-- The nodes below a node, with their places. -/
def listing (here : Place) : Node → List (Place × Node)
  | .dir entries => ((listings here entries).mergeSort fun a b => decide (a.1 ≤ b.1)).flatMap (·.2)
  | _ => []

/-- For every entry its name, and the nodes from it downwards. -/
def listings (here : Place) : Entries → List (Name × List (Place × Node))
  | [] => []
  | (name, node) :: rest =>
    (name, (here ++ [name], node) :: listing (here ++ [name]) node) :: listings here rest

end

end LineShell.Node
