import PullQuota.Log

/-!
How a log reads line by line, and how the data of a command is read back from its line.
-/

namespace PullQuota

namespace LogLine

/-- Undoes the escaping of data. -/
def unescape : List Char → List Char
  | '%' :: '2' :: '5' :: rest => '%' :: unescape rest
  | '%' :: '0' :: 'D' :: rest => '\r' :: unescape rest
  | '%' :: '0' :: 'A' :: rest => '\n' :: unescape rest
  | c :: rest => c :: unescape rest
  | [] => []

theorem unescape_cons_of_ne {c : Char} (h : c ≠ '%') (rest : List Char) :
    unescape (c :: rest) = c :: unescape rest := by
  simp [unescape, h]

theorem unescape_escape (s : String) : unescape (escape s).toList = s.toList := by
  rw [escape, String.toList_ofList]
  induction s.toList with
  | nil => rfl
  | cons c rest ih =>
    rw [List.flatMap_cons]
    by_cases percent : c = '%'
    · subst percent
      exact congrArg ('%' :: ·) ih
    by_cases carriage : c = '\r'
    · subst carriage
      exact congrArg ('\r' :: ·) ih
    by_cases newline : c = '\n'
    · subst newline
      exact congrArg ('\n' :: ·) ih
    have plain : escapeChar c = [c] := by simp [escapeChar, percent, carriage, newline]
    rw [plain, List.singleton_append, unescape_cons_of_ne percent, ih]

/-- The text of a command, without the end of its line. -/
def commandText (name data : String) : String :=
  "::" ++ name ++ "::" ++ escape data

/-- The text of a line, without its end. -/
def text : LogLine → String
  | debug message => commandText "debug" message
  | warning message => commandText "warning" message
  | error message => commandText "error" message
  | mask secret => commandText "add-mask" secret
  | output name value => "\n" ++ commandText ("set-output name=" ++ name) value
  | info text => text

theorem render_eq_text (line : LogLine) : line.render = line.text ++ "\n" := by
  cases line <;> simp [render, text, command, commandText, String.append_assoc]

/-- The lines as which a line reads: more than one if its text holds line ends. -/
def lines (line : LogLine) : List (List Char) :=
  line.text.toList.splitOn '\n'

theorem notMem_commandText {c : Char} (h : c = '\n' ∨ c = '\r') {name : String}
    (plain : c ∉ name.toList) (data : String) : c ∉ (commandText name data).toList := by
  have escaped := lineEnd_notMem_escape h data
  rcases h with rfl | rfl <;> simp [commandText, plain, escaped]

/-- A command is one line, whatever its data. -/
theorem lines_of_command {line : LogLine} {name data : String}
    (command : line.text = commandText name data) (plain : '\n' ∉ name.toList) :
    line.lines = [(commandText name data).toList] := by
  rw [lines, command]
  exact List.splitOn_eq_singleton (notMem_commandText (Or.inl rfl) plain data)

end LogLine

/-- A log reads as the lines of its parts, one after the other, and the last of them is complete. -/
theorem splitOn_renderLog (log : List LogLine) :
    (renderLog log).toList.splitOn '\n' = log.flatMap LogLine.lines ++ [[]] := by
  induction log with
  | nil => rfl
  | cons line rest ih =>
    have split : (renderLog (line :: rest)).toList =
        line.text.toList ++ '\n' :: (renderLog rest).toList := by
      simp [renderLog, LogLine.render_eq_text]
    rw [split, List.splitOn_append_cons_self, ih, List.flatMap_cons, List.append_assoc]
    rfl

end PullQuota
