/-!
# Deletion of chunks

A failing list is made shorter by deleting chunks of it, first large ones and in
the end single elements, until no single deletion leaves a failing list.  The
test may have effects of its own, such as counting how often it is made.
-/

namespace Gatekeeper

namespace Shrink

variable {α : Type} {m : Type → Type} [Monad m]

/-- Try to delete each chunk of a list in turn, where `kept` stands before it. -/
def sweep (fails : List α → m Bool) (size : Nat) (kept : List α) : List α → m (List α)
  | [] => pure kept
  | x :: tail => do
      if ← fails (kept ++ tail.drop (size - 1)) then
        sweep fails size kept (tail.drop (size - 1))
      else
        sweep fails size (kept ++ x :: tail.take (size - 1)) (tail.drop (size - 1))
termination_by rest => rest.length
decreasing_by all_goals simp only [List.length_cons, List.length_drop]; omega

/-- Sweep with smaller and smaller chunks, and with single elements as long as that helps. -/
def deleteFrom (fails : List α → m Bool) (size : Nat) (xs : List α) : m (List α) := do
  if xs.isEmpty then
    return xs
  let left ← sweep fails size [] xs
  if _ : 1 < size then
    deleteFrom fails (size / 2) left
  else if _ : left.length < xs.length then
    deleteFrom fails size left
  else
    return left
termination_by (size, xs.length)
decreasing_by
  · exact Prod.Lex.left _ _ (by omega)
  · exact Prod.Lex.right _ ‹_›

/-- Delete chunks, starting with half of the list. -/
def deleteChunks (fails : List α → m Bool) (xs : List α) : m (List α) :=
  deleteFrom fails (max (xs.length / 2) 1) xs

end Shrink

end Gatekeeper
