/-!
# Repeated operations

An operation that can be grouped in any way is repeated by halving: twice as many times is the same
number of times for the operand that is combined with itself.
-/

namespace HostWatch

/-- The operation on a number of equal operands, and `unit` on none of them. -/
def repeated {α : Type} (op : α → α → α) (unit x : α) (n : Nat) : α :=
  if n = 0 then unit
  else
    let half := repeated op unit (op x x) (n / 2)
    if n % 2 = 0 then half else op x half
termination_by n
decreasing_by omega

/-- The number whose product with `a` leaves one by a prime number, if `a` does not leave zero. -/
def inverseMod (prime a : Int) : Int :=
  repeated (fun x y ↦ x * y % prime) 1 (a % prime) (prime - 2).toNat

end HostWatch
