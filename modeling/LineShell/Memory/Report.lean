import LineShell.Memory.Usage
import LineShell.Outcome

/-!
# Reports on memory and disks

One figure of a usage, as text.
-/
namespace LineShell

inductive Figure where
  | total
  | used
  | available
  deriving Repr, DecidableEq

namespace Figure

def ofWord? : Option String → Option Figure
  | some "total" => some .total
  | some "used" => some .used
  | some "available" => some .available
  | _ => none

/-- A figure in gigabytes; with what is used goes its share. -/
def text (usage : Usage) : Figure → String
  | .total => Usage.gigabytes usage.total
  | .used => Usage.gigabytes usage.used ++ "\n" ++ usage.percent.toFixed 1 ++ "%"
  | .available => Usage.gigabytes usage.available

end Figure

/-- The report on what a word asks for, with the usage text for words that ask for nothing. -/
def Usage.report (usage : Usage) (which : Option String) (help : String) : Report :=
  match Figure.ofWord? which with
  | some figure => .ok (.text (figure.text usage))
  | none => .error (.usage help)

end LineShell
