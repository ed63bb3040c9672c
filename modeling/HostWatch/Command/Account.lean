import HostWatch.Text.Search
/-!
# Accounts

A process runs under the number of an account, and the list of accounts says where the home of each
one is: a line for each account, with seven fields between colons.
-/

namespace HostWatch

namespace Account

/-- The number of the account that a process runs under, in the description of the process: the
first one on the line of account numbers. -/
def number? (description : List Char) : Option (List Char) :=
  (splitAtPiece ['\n'] description).findSome? fun line ↦
    (dropStart? "Uid:".toList line).map fun numbers ↦
      (numbers.dropWhile (!·.isDigit)).takeWhile Char.isDigit

/-- The home of the account of a number, in the list of accounts. -/
def home? (number accounts : List Char) : Option (List Char) :=
  (splitAtPiece ['\n'] accounts).findSome? fun line ↦
    match splitAtPiece [':'] line with
    | [_, _, found, _, _, home, _] => if found = number ∧ home ≠ [] then some home else none
    | _ => none

end Account

end HostWatch
