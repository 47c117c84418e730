import LineShell.Machine.Raw

/-!
# Flows of bytes

What a program reads or writes: some bytes, and after them either the end or a block that comes
over and over.
-/
namespace LineShell.Machine

/-- Bytes, followed by endless repetitions of a block unless that is empty. -/
structure Flow where
  bytes : Bytes
  cycle : Bytes
  deriving Repr, DecidableEq

namespace Flow

def empty : Flow := ⟨[], []⟩

/-- The flow that ends after some bytes. -/
def ofBytes (bytes : Bytes) : Flow := ⟨bytes, []⟩

/-- Whether a flow never ends. -/
def endless (flow : Flow) : Bool :=
  !flow.cycle.isEmpty

/-- A flow with another one after it; nothing comes after an endless one. -/
def append (a b : Flow) : Flow :=
  if a.endless then a else ⟨a.bytes ++ b.bytes, b.cycle⟩

/-- Copies of a block, with at least `count` bytes in all. -/
def unroll (block : Bytes) (count : Nat) : Bytes :=
  match block with
  | [] => []
  | _ => (List.replicate (count / block.length + 1) block).flatten

/-- The bytes of a flow, and of an endless one no more than a number that whoever reads it has long
had enough of. -/
def known (flow : Flow) : Bytes :=
  flow.bytes ++ unroll flow.cycle 65536

/-- The first `count` bytes, or all there are, and the rest. -/
def splitAt (count : Nat) (flow : Flow) : Bytes × Flow :=
  let bytes :=
    if flow.endless && flow.bytes.length < count then flow.bytes ++ unroll flow.cycle count
    else flow.bytes
  (bytes.take count, ⟨bytes.drop count, flow.cycle⟩)

/-- The bytes up to the line feed that ends the `count`th line, and the rest. -/
def splitLines : Nat → Bytes → Bytes × Bytes
  | 0, bytes => ([], bytes)
  | _ + 1, [] => ([], [])
  | count + 1, b :: rest =>
    let (line, after) := splitLines (if b = 10 then count else count + 1) rest
    (b :: line, after)

/-- The first `count` lines, or all there are, and the rest. -/
def splitAtLine (count : Nat) (flow : Flow) : Bytes × Flow :=
  let bytes :=
    if flow.endless then flow.bytes ++ (List.replicate count flow.cycle).flatten else flow.bytes
  let (lines, rest) := splitLines count bytes
  (lines, ⟨rest, flow.cycle⟩)

end Flow

/-- The pieces of bytes that a byte ends, without it; the last piece may go without. -/
def piecesBy (ending : UInt8) (bytes : Bytes) : List Bytes :=
  let pieces := bytes.splitOn ending
  if pieces.getLast? = some [] then pieces.dropLast else pieces

/-- The pieces of bytes that a byte ends, each with that byte if it has it. -/
def rawPiecesBy (ending : UInt8) (bytes : Bytes) : List Bytes :=
  let pieces := bytes.splitOn ending
  let closed := pieces.dropLast.map (· ++ [ending])
  match pieces.getLast? with
  | none | some [] => closed
  | some last => closed ++ [last]

/-- Pieces, each with a byte after it. -/
def endBy (ending : UInt8) (pieces : List Bytes) : Bytes :=
  pieces.flatMap (· ++ [ending])

def linesOf (bytes : Bytes) : List Bytes :=
  piecesBy 10 bytes

/-- Lines, each with a line feed after it. -/
def joinLines (lines : List Bytes) : Bytes :=
  endBy 10 lines

end LineShell.Machine
