import PullQuota.Files

/-!
Sessions: actions of the program one after the other, with changes of the files between them.
-/

namespace PullQuota

/-- A step of a session: a change of the files, or an action of the program. -/
inductive SessionStep (α : Type)
  | change (change : FileChange)
  | act (action : α)

/-- Runs the steps of a session in order, on files and a state that the actions may change. Only
actions have an answer. A session does not get past an action that never ends. -/
def runSession {σ α β : Type} (act : Files → σ → α → Option (β × Files × σ)) :
    Files → σ → List (SessionStep α) → List (Option β)
  | _, _, [] => []
  | files, state, .change change :: rest => none :: runSession act (files.change change) state rest
  | files, state, .act action :: rest =>
    match act files state action with
    | none => []
    | some (answer, files, state) => some answer :: runSession act files state rest

end PullQuota
