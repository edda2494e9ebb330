import PullQuota.Proofs.Courses
import PullQuota.Proofs.Digits
import PullQuota.Proofs.Lines

/-!
The commands that the runner reads in a log, and those that the log means: they are the same just if
they are so for each line. A course has lines too, ended or not.
-/

namespace PullQuota

section Text

variable {c : Char}

/-- What the first part of a text begins with the text begins with, and what another part begins
with follows a separator. -/
theorem splitOn_prefixes (c : Char) (s : List Char) : ∃ first others,
    s.splitOn c = first :: others ∧ (∀ p, c ∉ p → (p <+: first ↔ p <+: s)) ∧
      ∀ p, c ∉ p → ((∃ part ∈ others, p <+: part) ↔ c :: p <:+: s) := by
  induction s with
  | nil => exact ⟨[], [], rfl, by simp, by simp⟩
  | cons x rest ih =>
    obtain ⟨first, others, split, begins, follows⟩ := ih
    rw [List.splitOn_cons_eq_if_modifyHead, split]
    by_cases same : x = c
    · subst same
      refine ⟨[], first :: others, by simp, fun p free => ?_, fun p free => ?_⟩
      · cases p with
        | nil => simp
        | cons y p => simp [List.cons_prefix_cons, Ne.symm (List.ne_of_not_mem_cons free)]
      · simp [List.infix_cons_iff, List.cons_prefix_cons, begins p free, follows p free]
    · refine ⟨x :: first, others, by simp [same], fun p free => ?_, fun p free => ?_⟩
      · cases p with
        | nil => simp
        | cons y p =>
          simp [List.cons_prefix_cons, begins p fun mem => free (List.mem_cons_of_mem y mem)]
      · simp [List.infix_cons_iff, List.cons_prefix_cons, Ne.symm same, follows p free]

theorem exists_prefix_splitOn_iff {p : List Char} (free : c ∉ p) (s : List Char) :
    (∃ part ∈ s.splitOn c, p <+: part) ↔ p <+: s ∨ c :: p <:+: s := by
  obtain ⟨first, others, split, begins, follows⟩ := splitOn_prefixes c s
  simp [split, begins p free, follows p free]

theorem cons_infix_append_iff {before : List Char} (free : c ∉ before) (p s : List Char) :
    c :: p <:+: before ++ s ↔ c :: p <:+: s := by
  induction before with
  | nil => rfl
  | cons x before ih =>
    rw [List.mem_cons, not_or] at free
    simp [List.infix_cons_iff, List.cons_prefix_cons, free.1, ih free.2]

theorem concat_infix_append_iff {after : List Char} (free : c ∉ after) (p s : List Char) :
    p ++ [c] <:+: s ++ after ↔ p ++ [c] <:+: s := by
  rw [← List.reverse_infix, ← @List.reverse_infix _ _ s]
  simp [cons_infix_append_iff, free]

end Text

namespace LogLine

/-- The mark at the start of each line that is a command. -/
def mark : List Char :=
  "::".toList

/-- The commands that the runner reads in a line. -/
def read (line : LogLine) : List (List Char) :=
  line.lines.filter (mark.isPrefixOf ·)

/-- The commands that a line is meant to be: plain text is none. -/
def meant : LogLine → List (List Char)
  | debug message => [(commandText "debug" message).toList]
  | warning message => [(commandText "warning" message).toList]
  | error message => [(commandText "error" message).toList]
  | mask secret => [(commandText "add-mask" secret).toList]
  | output name value => [(commandText ("set-output name=" ++ name) value).toList]
  | info _ => []

def Faithful (line : LogLine) : Prop :=
  line.read = line.meant

theorem mark_prefix_commandText (name data : String) : mark <+: (commandText name data).toList := by
  simp [commandText, mark]

theorem faithful_of_command {line : LogLine} {name data : String}
    (command : line.text = commandText name data)
    (meant : line.meant = [(commandText name data).toList]) (plain : '\n' ∉ name.toList) :
    line.Faithful := by
  rw [Faithful, read, lines_of_command command plain, meant]
  simp [mark_prefix_commandText]

/-- The empty line before an output is none. -/
theorem faithful_output {name : String} (plain : '\n' ∉ name.toList) (value : String) :
    (output name value).Faithful := by
  have free : '\n' ∉ ("set-output name=" ++ name).toList := by simp [plain]
  have single := List.splitOn_eq_singleton
    (notMem_commandText (Or.inl rfl) free value)
  have lines : (output name value).lines =
      [[], (commandText ("set-output name=" ++ name) value).toList] := by
    have text : (output name value).text.toList =
        [] ++ '\n' :: (commandText ("set-output name=" ++ name) value).toList := by
      simp [LogLine.text]
    rw [LogLine.lines, text, List.splitOn_append_cons_self, single]
    rfl
  have empty : ¬ mark <+: [] := by decide
  rw [Faithful, read, lines, meant]
  simp [mark_prefix_commandText, empty]

/-- Plain text is read as commands as well. -/
theorem faithful_info_iff {text : String} :
    (info text).Faithful ↔ ¬ mark <+: text.toList ∧ ¬ '\n' :: mark <:+: text.toList := by
  have free : '\n' ∉ mark := by decide
  rw [← not_or, ← exists_prefix_splitOn_iff free]
  simp [Faithful, read, meant, lines, LogLine.text]

end LogLine

/-- The lines of a log that the runner takes for commands. -/
def commandsRead (log : List LogLine) : List (List Char) :=
  ((renderLog log).toList.splitOn '\n').filter (LogLine.mark.isPrefixOf ·)

def commandsMeant (log : List LogLine) : List (List Char) :=
  log.flatMap LogLine.meant

theorem commandsRead_eq_flatMap (log : List LogLine) :
    commandsRead log = log.flatMap LogLine.read := by
  rw [commandsRead, splitOn_renderLog, List.filter_append, List.filter_flatMap]
  exact List.append_nil _

/-- A line that is not faithful is read as more commands than it means, and no other makes up for
it. -/
theorem commandsRead_eq_iff {log : List LogLine}
    (h : ∀ line ∈ log, line.Faithful ∨ line.meant = []) :
    commandsRead log = commandsMeant log ↔ ∀ line ∈ log, line.Faithful := by
  rw [commandsRead_eq_flatMap, commandsMeant]
  refine ⟨fun same line mem => ?_, List.flatMap_congr⟩
  by_contra unfaithful
  have atMost : ∀ line ∈ log, line.meant.length ≤ line.read.length := by
    intro line mem
    rcases h line mem with faithful | none
    · exact (congrArg List.length faithful).ge
    · simp [none]
  have none : line.meant = [] := (h line mem).resolve_left unfaithful
  have more : line.meant.length < line.read.length := by
    rw [none]
    exact List.length_pos_iff.mpr fun unread => unfaithful (unread.trans none.symm)
  have lengths := List.sum_lt_sum _ _ atMost ⟨line, mem, more⟩
  rw [← List.length_flatMap, ← List.length_flatMap, same] at lengths
  exact lt_irrefl _ lengths

namespace Course

variable {α β : Type} {allowed : LogLine → Prop}

theorem mem_log {course : Course α} {line : LogLine} :
    line ∈ course.log ↔ .wrote line ∈ course.deeds := by
  refine List.mem_filterMap.trans ⟨?_, fun wrote => ⟨_, wrote, rfl⟩⟩
  rintro ⟨deed, mem, told⟩
  cases deed with
  | wrote other =>
    cases Option.some.inj told
    exact mem
  | sent request => cases told

/-- Every line that is written is one of those. -/
def Writes (allowed : LogLine → Prop) (course : Course α) : Prop :=
  ∀ line, .wrote line ∈ course.deeds → allowed line

theorem writes_pure (a : α) : (pure a : Course α).Writes allowed :=
  fun _ mem => absurd mem List.not_mem_nil

theorem writes_write {log : List LogLine} (permitted : ∀ line ∈ log, allowed line) :
    (write log).Writes allowed := by
  intro line mem
  obtain ⟨other, written, same⟩ := List.mem_map.mp mem
  cases same
  exact permitted line written

theorem writes_send (request : Request) (answer : Option α) :
    (send request answer).Writes allowed := by
  intro line mem
  cases List.mem_singleton.mp mem

theorem Writes.bind {course : Course α} {next : α → Course β} (first : course.Writes allowed)
    (rest : ∀ a, (next a).Writes allowed) : (course >>= next).Writes allowed := by
  intro line mem
  rcases mem_deeds_bind.mp mem with earlier | ⟨a, _, later⟩
  · exact first line earlier
  · exact rest a line later

theorem Writes.mono {course : Course α} {allowed' : LogLine → Prop} (h : course.Writes allowed)
    (weaker : ∀ line, allowed line → allowed' line) : course.Writes allowed' :=
  fun line mem => weaker line (h line mem)

end Course

end PullQuota
