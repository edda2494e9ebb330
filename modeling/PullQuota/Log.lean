/-!
Lines of the workflow log: commands to the runner, and plain text.
-/

namespace PullQuota

inductive LogLine
  | debug (message : String)
  | warning (message : String)
  | error (message : String)
  | mask (secret : String)
  | output (name value : String)
  | info (text : String)
  deriving DecidableEq

namespace LogLine

/-- A command ends with its line, so line ends in its data are escaped, and with them the sign that
escapes. -/
def escapeChar (c : Char) : List Char :=
  if c = '%' then ['%', '2', '5']
  else if c = '\r' then ['%', '0', 'D']
  else if c = '\n' then ['%', '0', 'A']
  else [c]

def escape (s : String) : String :=
  String.ofList (s.toList.flatMap escapeChar)

theorem lineEnd_notMem_escape {c : Char} (h : c = '\n' ∨ c = '\r') (s : String) :
    c ∉ (escape s).toList := by
  simp only [escape, String.toList_ofList, List.mem_flatMap, not_exists, not_and]
  intro d _
  unfold escapeChar
  split
  next => rcases h with rfl | rfl <;> decide
  split
  next => rcases h with rfl | rfl <;> decide
  split
  next => rcases h with rfl | rfl <;> decide
  next => rcases h with rfl | rfl <;> simp_all [eq_comm]

def command (name data : String) : String :=
  "::" ++ name ++ "::" ++ escape data ++ "\n"

/-- The text of a line. An output starts with an empty line; plain text is not escaped. -/
def render : LogLine → String
  | debug message => command "debug" message
  | warning message => command "warning" message
  | error message => command "error" message
  | mask secret => command "add-mask" secret
  | output name value => "\n" ++ command ("set-output name=" ++ name) value
  | info text => text ++ "\n"

end LogLine

def renderLog (log : List LogLine) : String :=
  String.join (log.map LogLine.render)

end PullQuota
