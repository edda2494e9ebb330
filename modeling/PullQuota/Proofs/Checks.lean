import PullQuota.Proofs.Counting
import PullQuota.Proofs.Settings

/-!
Which variables are accepted as settings, what is read from them, and which of them is complained
of: the first that breaks its rule.
-/

namespace PullQuota

namespace Variables

/-- A variable is set, and this is what stands between its blanks. -/
def Gives (env : Variables) (name text : String) : Prop :=
  ∃ value, env name = some value ∧ trim value = text ∧ text ≠ ""

/-- A variable is not set, or blank. -/
def Lacks (env : Variables) (name : String) : Prop :=
  ∀ value, env name = some value → trim value = ""

/-- The text of a variable, or what stands in for it. -/
def HasText (env : Variables) (name standard text : String) : Prop :=
  env.Lacks name ∧ text = standard ∨ env.Gives name text

/-- The count that the text of a variable writes, or what stands in for it. -/
def HasCount (env : Variables) (name : String) (standard n : Nat) : Prop :=
  env.Lacks name ∧ n = standard ∨ ∃ text, env.Gives name text ∧ Writes text n

variable {env : Variables} {name text : String}

theorem text?_eq_some_iff : env.text? name = some text ↔ env.Gives name text := by
  unfold text? Gives
  cases env name with
  | none => simp
  | some value =>
    by_cases blank : trim value = ""
    · simp +contextual [blank, eq_comm]
    · simp only [blank, if_false, Option.some.injEq, exists_eq_left']
      constructor
      · rintro rfl
        exact ⟨rfl, blank⟩
      · exact And.left

theorem text?_eq_none_iff : env.text? name = none ↔ env.Lacks name := by
  unfold text? Lacks
  cases env name <;> simp

theorem hasText_iff {standard : String} :
    env.HasText name standard text ↔ (env.text? name).getD standard = text := by
  rw [HasText, ← text?_eq_none_iff, ← text?_eq_some_iff]
  cases env.text? name <;> simp [eq_comm]

end Variables

/-- What the text of a variable has to be: a count within bounds, or a URL of the web. -/
inductive Rule
  | count (least greatest : Nat)
  | url

namespace Rule

def Allows : Rule → String → Prop
  | count least greatest, text => ∃ n, Writes text n ∧ least ≤ n ∧ n ≤ greatest
  | url, text => Url.scheme? text = some "http" ∨ Url.scheme? text = some "https"

/-- What is said of a text that breaks a rule. -/
def objection : Rule → String → String
  | count _ _, text => "\"" ++ text ++ "\" is not an integer in range"
  | url, text =>
    if Url.scheme? text = none then "\"" ++ text ++ "\" is not a URL"
    else "only http and https URLs are supported"

end Rule

/-- A variable with its rule. -/
structure Check where
  name : String
  rule : Rule

namespace Check

def Passes (check : Check) (env : Variables) : Prop :=
  ∀ text, env.Gives check.name text → check.rule.Allows text

/-- The variable of a check breaks its rule, and this is said of it. -/
def Refuses (check : Check) (env : Variables) (message : String) : Prop :=
  ∃ text, env.Gives check.name text ∧ ¬ check.rule.Allows text ∧
    message = "Invalid " ++ check.name ++ ": " ++ check.rule.objection text

end Check

namespace SettingError

variable (name text : String)

theorem message_notInRange : (notInRange name text).message =
    "Invalid " ++ name ++ ": " ++ ("\"" ++ text ++ "\" is not an integer in range") := by
  rw [message, show ": \"" = ": " ++ "\"" from rfl]
  simp only [String.append_assoc]

theorem message_notUrl : (notUrl name text).message =
    "Invalid " ++ name ++ ": " ++ ("\"" ++ text ++ "\" is not a URL") := by
  rw [message, show ": \"" = ": " ++ "\"" from rfl]
  simp only [String.append_assoc]

theorem message_notWeb : (notWeb name).message =
    "Invalid " ++ name ++ ": " ++ "only http and https URLs are supported" := by
  rw [message, show ": only http and https URLs are supported" =
    ": " ++ "only http and https URLs are supported" from rfl]
  simp only [String.append_assoc]

end SettingError

/-- A reading fails with an error of this message. -/
def FailsWith {α : Type} (reading : Except SettingError α) (message : String) : Prop :=
  ∃ error, reading = .error error ∧ error.message = message

theorem exists_ok_iff {α : Type} {reading : Except SettingError α} :
    (∃ value, reading = .ok value) ↔ ∀ message, ¬ FailsWith reading message := by
  cases reading <;> simp [FailsWith]

theorem failsWith_bind {α β : Type} {first : Except SettingError α}
    {next : α → Except SettingError β} {message : String} :
    FailsWith (first >>= next) message ↔
      FailsWith first message ∨ ∃ value, first = .ok value ∧ FailsWith (next value) message := by
  cases first <;> simp [FailsWith, bind, Except.bind]

namespace Variables

variable {env : Variables} {name text : String}

section Count

variable {standard least greatest n : Nat}

/-- A text that its rule allows is read as the count that it writes. -/
theorem parseCount_of_allows (limit : greatest ≤ Number.maxCount) :
    (Rule.count least greatest).Allows text ∧ Writes text n ↔
      parseCount text = some n ∧ least ≤ n ∧ n ≤ greatest := by
  rw [parseCount_eq_some_iff]
  constructor
  · rintro ⟨⟨m, writes, bounds⟩, writes'⟩
    cases Writes.unique writes writes'
    exact ⟨⟨writes, bounds.2.trans limit⟩, bounds⟩
  · rintro ⟨⟨writes, _⟩, bounds⟩
    exact ⟨⟨n, writes, bounds⟩, writes⟩

theorem allows_count_iff (limit : greatest ≤ Number.maxCount) :
    (Rule.count least greatest).Allows text ↔
      ∃ n, parseCount text = some n ∧ least ≤ n ∧ n ≤ greatest := by
  simp only [← parseCount_of_allows limit]
  constructor
  · rintro ⟨n, writes, bounds⟩
    exact ⟨n, ⟨n, writes, bounds⟩, writes⟩
  · rintro ⟨_, allows, _⟩
    exact allows

theorem count_eq_ok_iff (limit : greatest ≤ Number.maxCount) :
    env.count name standard least greatest = .ok n ↔
      Check.Passes ⟨name, .count least greatest⟩ env ∧ env.HasCount name standard n := by
  simp only [Check.Passes, HasCount, ← text?_eq_some_iff, ← text?_eq_none_iff]
  unfold count
  cases env.text? name with
  | none => simp [eq_comm]
  | some text =>
    simp only [Option.some.injEq, forall_eq', reduceCtorEq, false_and, false_or, exists_eq_left',
      parseCount_of_allows limit]
    cases parseCount text with
    | none => simp
    | some m =>
      by_cases bounds : least ≤ m ∧ m ≤ greatest
      · simp +contextual [bounds, eq_comm]
      · have other : m = n → least ≤ n → greatest < n := by
          rintro rfl within
          exact not_le.mp fun below => bounds ⟨within, below⟩
        simpa [bounds] using other

/-- Reading a count fails if it breaks the rule, and for no other reason. -/
theorem count_failsWith_iff {message : String} (limit : greatest ≤ Number.maxCount) :
    FailsWith (env.count name standard least greatest) message ↔
      Check.Refuses ⟨name, .count least greatest⟩ env message := by
  simp only [Check.Refuses, ← text?_eq_some_iff]
  unfold count
  cases env.text? name with
  | none => simp [FailsWith]
  | some text =>
    simp only [Option.some.injEq, exists_eq_left', allows_count_iff limit, Rule.objection,
      ← SettingError.message_notInRange]
    cases parseCount text with
    | none => simp [FailsWith, eq_comm]
    | some n => by_cases bounds : least ≤ n ∧ n ≤ greatest <;> simp [bounds, FailsWith, eq_comm]

end Count

section Web

variable {standard value : String}

theorem url_eq_ok_iff : env.url name standard = .ok value ↔
    Check.Passes ⟨name, .url⟩ env ∧ env.HasText name standard value := by
  simp only [Check.Passes, HasText, ← text?_eq_some_iff, ← text?_eq_none_iff]
  unfold url
  cases env.text? name with
  | none => simp [eq_comm]
  | some text =>
    simp only [Option.some.injEq, forall_eq', reduceCtorEq, false_and, false_or, Rule.Allows]
    cases Url.scheme? text with
    | none => simp
    | some scheme => by_cases web : scheme = "http" ∨ scheme = "https" <;> simp [web]

theorem url_failsWith_iff {message : String} : FailsWith (env.url name standard) message ↔
    Check.Refuses ⟨name, .url⟩ env message := by
  simp only [Check.Refuses, ← text?_eq_some_iff]
  unfold url
  cases env.text? name with
  | none => simp [FailsWith]
  | some text =>
    simp only [Option.some.injEq, exists_eq_left', Rule.Allows, Rule.objection]
    cases Url.scheme? text with
    | none => simp [FailsWith, SettingError.message_notUrl, eq_comm]
    | some scheme =>
      by_cases web : scheme = "http" ∨ scheme = "https" <;>
        simp [web, FailsWith, SettingError.message_notWeb, eq_comm]

end Web

end Variables

namespace Check

variable {env : Variables}

/-- Of a list of checks, one refuses and all before it pass. -/
def Stops (checks : List Check) (env : Variables) (message : String) : Prop :=
  ∃ earlier check later, checks = earlier ++ check :: later ∧
    (∀ other ∈ earlier, other.Passes env) ∧ check.Refuses env message

theorem stops_nil {message : String} : ¬ Stops [] env message := by
  rintro ⟨earlier, check, later, split, _⟩
  simp at split

theorem stops_cons {check : Check} {checks : List Check} {message : String} :
    Stops (check :: checks) env message ↔
      check.Refuses env message ∨ check.Passes env ∧ Stops checks env message := by
  constructor
  · rintro ⟨earlier, stop, later, split, passes, refuses⟩
    cases earlier with
    | nil =>
      cases split
      exact Or.inl refuses
    | cons first earlier =>
      cases split
      exact Or.inr ⟨passes check List.mem_cons_self, earlier, stop, later, rfl,
        fun other mem => passes other (List.mem_cons_of_mem _ mem), refuses⟩
  · rintro (refuses | ⟨pass, earlier, stop, later, rfl, passes, refuses⟩)
    · exact ⟨[], check, checks, rfl, by simp, refuses⟩
    · exact ⟨check :: earlier, stop, later, rfl, List.forall_mem_cons.mpr ⟨pass, passes⟩, refuses⟩

theorem passes_iff {check : Check} : check.Passes env ↔ ∀ message, ¬ check.Refuses env message := by
  constructor
  · rintro passes message ⟨text, gives, forbidden, _⟩
    exact forbidden (passes text gives)
  · intro content text gives
    by_contra forbidden
    exact content _ ⟨text, gives, forbidden, rfl⟩

theorem forall_passes_iff {checks : List Check} :
    (∀ check ∈ checks, check.Passes env) ↔ ∀ message, ¬ Stops checks env message := by
  induction checks with
  | nil => simp [stops_nil]
  | cons check checks ih =>
    simp only [List.forall_mem_cons, stops_cons, ih, not_or, not_and, forall_and, ← passes_iff]
    exact and_congr_right fun passes => by simp [passes]

/-- A reading that begins with a check fails at it, or goes on with the other checks. -/
theorem failsWith_step {α β : Type} {reading : Except SettingError α}
    {next : α → Except SettingError β} {check : Check} {checks : List Check} {message : String}
    (refuses : ∀ message, FailsWith reading message ↔ check.Refuses env message)
    (later : ∀ value, FailsWith (next value) message ↔ Stops checks env message) :
    FailsWith (reading >>= next) message ↔ Stops (check :: checks) env message := by
  have passes : check.Passes env ↔ ∃ value, reading = .ok value := by
    rw [passes_iff, exists_ok_iff]
    simp only [refuses]
  rw [failsWith_bind, stops_cons, refuses, passes]
  simp only [later, exists_and_right]

end Check

namespace Settings

/-- What is checked, in the order in which it is. -/
def checks : List Check :=
  [⟨"PORT", .count 1 65535⟩, ⟨"DOCKERHUB_TIMEOUT_MS", .count 1 Number.maxCount⟩,
    ⟨"DOCKERHUB_TOKEN_URL", .url⟩, ⟨"DOCKERHUB_RATE_LIMIT_URL", .url⟩]

/-- Each setting is what its variable says, or what stands in for it. -/
structure ReadFrom (settings : Settings) (env : Variables) : Prop where
  tcpPort : env.HasCount "PORT" 9000 settings.tcpPort
  host : env.HasText "HOST" "0.0.0.0" settings.host
  dataFile : env.HasText "DATA_FILE" "./data/datastore.json" settings.dataFile
  timeout : env.HasCount "DOCKERHUB_TIMEOUT_MS" 10000 settings.timeout
  token : env.HasText "DOCKERHUB_TOKEN_URL" RegistryUrls.standard.token settings.urls.token
  limits : env.HasText "DOCKERHUB_RATE_LIMIT_URL" RegistryUrls.standard.limits settings.urls.limits

variable {env : Variables} {settings : Settings} {message : String}

/-- The error is that of the first check that refuses. -/
theorem ofVariables_failsWith_iff :
    FailsWith (ofVariables env) message ↔ Check.Stops checks env message := by
  refine Check.failsWith_step (fun _ => Variables.count_failsWith_iff (by decide)) fun _ => ?_
  refine Check.failsWith_step (fun _ => Variables.count_failsWith_iff le_rfl) fun _ => ?_
  refine Check.failsWith_step (fun _ => Variables.url_failsWith_iff) fun _ => ?_
  refine Check.failsWith_step (fun _ => Variables.url_failsWith_iff) fun _ => ?_
  simp [FailsWith, Check.stops_nil, pure, Except.pure]

theorem exists_ofVariables_iff :
    (∃ settings, ofVariables env = .ok settings) ↔ ∀ check ∈ checks, check.Passes env := by
  rw [exists_ok_iff, Check.forall_passes_iff]
  simp only [ofVariables_failsWith_iff]

theorem readFrom_of_ofVariables (h : ofVariables env = .ok settings) : settings.ReadFrom env := by
  obtain ⟨tcpPort, host, dataFile, timeout, token, limits⟩ := ofVariables_eq_ok_iff.mp h
  exact
    { tcpPort := ((Variables.count_eq_ok_iff (by decide)).mp tcpPort).2
      host := Variables.hasText_iff.mpr host
      dataFile := Variables.hasText_iff.mpr dataFile
      timeout := ((Variables.count_eq_ok_iff le_rfl).mp timeout).2
      token := (Variables.url_eq_ok_iff.mp token).2
      limits := (Variables.url_eq_ok_iff.mp limits).2 }

/-- Settings are given just if every check passes, and each is then what its variable says or what
stands in for it. Otherwise the first check that refuses is complained of, whatever comes later. -/
theorem ofVariables_settled (env : Variables) :
    ((∃ settings, ofVariables env = .ok settings) ↔ ∀ check ∈ checks, check.Passes env) ∧
      (∀ settings, ofVariables env = .ok settings → settings.ReadFrom env) ∧
      ∀ message, FailsWith (ofVariables env) message ↔ Check.Stops checks env message :=
  ⟨exists_ofVariables_iff, fun _ => readFrom_of_ofVariables, fun _ => ofVariables_failsWith_iff⟩

end Settings

/-- Two variables that break their rules, after one that keeps its own between blanks. -/
def Variables.careless : Variables := fun name =>
  if name = "PORT" then some " 0080\n"
  else if name = "DOCKERHUB_TIMEOUT_MS" then some "0"
  else if name = "DOCKERHUB_RATE_LIMIT_URL" then some "ftp://limits"
  else none

/-- The same without the count that is out of range and without the URL. -/
def Variables.careful : Variables := fun name =>
  if name = "PORT" then some " 0080\n" else none

theorem Settings.ofVariables_settled_careless :
    Check.Stops checks .careless
        "Invalid DOCKERHUB_TIMEOUT_MS: \"0\" is not an integer in range" ∧
      (∃ settings, ofVariables .careful = .ok settings ∧ settings.tcpPort = 80 ∧
        settings.ReadFrom .careful) := by
  have failed : ofVariables .careless = .error (.notInRange "DOCKERHUB_TIMEOUT_MS" "0") := by
    decide +kernel
  have given : ofVariables .careful =
      .ok ⟨80, "0.0.0.0", "./data/datastore.json", 10000, .standard⟩ := by
    decide +kernel
  exact ⟨((ofVariables_settled .careless).2.2 _).mp ⟨_, failed, rfl⟩, _, given, rfl,
    (ofVariables_settled .careful).2.1 _ given⟩

end PullQuota
