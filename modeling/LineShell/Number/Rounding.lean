/-!
# Rounding quotients

The integer nearest to a quotient; a quotient halfway between two integers goes to the even one.
-/
namespace LineShell

/-- The integer nearest to `num / den`, halves to even. -/
def roundDiv (num den : Nat) : Nat :=
  let quotient := num / den
  let twice := 2 * (num % den)
  if twice < den then quotient
  else if den < twice then quotient + 1
  else quotient + quotient % 2

end LineShell
