import PullQuota.Proofs.Checks
import PullQuota.Proofs.Digits
import Mathlib.Data.List.DropRight

/-!
Settings that are written out as variables are read as themselves, and blanks at the ends of
variables do not matter.
-/

namespace PullQuota

section StripEnds

variable {p : Char → Bool} {left right : List Char}

theorem stripEnds_append (hl : ∀ c ∈ left, p c = true) (hr : ∀ c ∈ right, p c = true)
    (cs : List Char) : stripEnds p (left ++ cs ++ right) = stripEnds p cs := by
  have front : (left ++ cs ++ right).dropWhile p = (cs ++ right).dropWhile p := by
    rw [List.append_assoc, List.dropWhile_append_of_pos hl]
  have back : ∀ c ∈ right.reverse, p c = true := fun c mem => hr c (List.mem_reverse.mp mem)
  simp only [stripEnds, front]
  rw [List.dropWhile_append]
  split
  next nothing =>
    -- All is blank, and so is what is left of it.
    have none : right.dropWhile p = [] := List.dropWhile_eq_nil_iff.mpr hr
    rw [none, List.isEmpty_iff.mp nothing]
  next => rw [List.reverse_append, List.dropWhile_append_of_pos back]

theorem exists_append_stripEnds (p : Char → Bool) (cs : List Char) :
    ∃ left right, (∀ c ∈ left, p c = true) ∧ (∀ c ∈ right, p c = true) ∧
      cs = left ++ stripEnds p cs ++ right := by
  refine ⟨cs.takeWhile p, (cs.dropWhile p).rtakeWhile p, fun c => List.mem_takeWhile_imp,
    fun c => List.mem_rtakeWhile_imp, ?_⟩
  have back : (cs.dropWhile p).rdropWhile p ++ (cs.dropWhile p).rtakeWhile p = cs.dropWhile p :=
    List.rdropWhile_append_rtakeWhile
  calc cs = cs.takeWhile p ++ cs.dropWhile p := List.takeWhile_append_dropWhile.symm
    _ = cs.takeWhile p ++ ((cs.dropWhile p).rdropWhile p ++ (cs.dropWhile p).rtakeWhile p) := by
      rw [back]
    _ = cs.takeWhile p ++ stripEnds p cs ++ (cs.dropWhile p).rtakeWhile p :=
      (List.append_assoc _ _ _).symm

theorem stripEnds_stripEnds (p : Char → Bool) (cs : List Char) :
    stripEnds p (stripEnds p cs) = stripEnds p cs := by
  obtain ⟨left, right, hl, hr, split⟩ := exists_append_stripEnds p cs
  have same := stripEnds_append hl hr (stripEnds p cs)
  rw [← split] at same
  exact same.symm

end StripEnds

theorem trim_trim (text : String) : trim (trim text) = trim text := by
  simp only [trim, strip, String.toList_ofList, stripEnds_stripEnds]

/-- A text has blanks around it, or none. -/
def Spaced (core text : String) : Prop :=
  ∃ left right : String, (∀ c ∈ left.toList, isBlank c = true) ∧
    (∀ c ∈ right.toList, isBlank c = true) ∧ text = left ++ core ++ right

/-- Two texts differ in the blanks at their ends at most. -/
def Respaced (text text' : String) : Prop :=
  ∃ core, Spaced core text ∧ Spaced core text'

theorem Spaced.trim_eq {core text : String} (h : Spaced core text) : trim text = trim core := by
  obtain ⟨left, right, hl, hr, rfl⟩ := h
  simp only [trim, strip, String.toList_append, stripEnds_append hl hr]

theorem Respaced.trim_eq {text text' : String} (h : Respaced text text') :
    trim text = trim text' := by
  obtain ⟨core, first, second⟩ := h
  exact first.trim_eq.trans second.trim_eq.symm

/-- A text that a variable keeps when it is read. -/
structure Trimmed (text : String) : Prop where
  trim_eq : trim text = text
  nonempty : text ≠ ""

section Counts

theorem isBlank_of_isDigit {c : Char} (h : c.isDigit = true) : isBlank c = false := by
  have range : 48 ≤ c.toNat ∧ c.toNat ≤ 57 := by
    simp only [Char.isDigit, Bool.and_eq_true, decide_eq_true_eq] at h
    exact ⟨UInt32.le_iff_toNat_le.mp h.1, UInt32.le_iff_toNat_le.mp h.2⟩
  simp only [isBlank, Bool.or_eq_false_iff, Bool.and_eq_false_iff, decide_eq_false_iff_not,
    beq_eq_false_iff_ne]
  omega

/-- There are no blanks among digits. -/
theorem stripEnds_of_isDigit {digits : List Char} (h : ∀ c ∈ digits, c.isDigit = true) :
    stripEnds isBlank digits = digits := by
  have other : ∀ c ∈ digits, isBlank c = false := fun c mem => isBlank_of_isDigit (h c mem)
  have front : digits.dropWhile isBlank = digits := by
    rw [List.dropWhile_eq_self_iff]
    intro pos
    rw [other _ (List.getElem_mem pos)]
    exact Bool.false_ne_true
  have back : digits.rdropWhile isBlank = digits := by
    rw [List.rdropWhile_eq_self_iff]
    intro nonempty
    rw [other _ (List.getLast_mem nonempty)]
    exact Bool.false_ne_true
  unfold stripEnds
  rw [front]
  exact back

theorem stripEnds_decimalDigits (n : Nat) :
    stripEnds isBlank (decimalDigits n) = decimalDigits n :=
  stripEnds_of_isDigit fun _ => isDigit_of_mem_decimalDigits

theorem writes_toString (n : Nat) : Writes (toString n) n := by
  have digits : stripEnds isBlank (toString n).toList = decimalDigits n := by
    rw [toList_toString, stripEnds_decimalDigits]
  refine ⟨?_, ?_, ?_⟩
  · rw [digits]
    exact Nat.toDigits_ne_nil
  · rw [digits]
    intro d mem
    exact isDigit_of_mem_decimalDigits mem
  · rw [digits, decimalValue_decimalDigits]

theorem trimmed_toString (n : Nat) : Trimmed (toString n) := by
  constructor
  · rw [trim, strip, toList_toString, stripEnds_decimalDigits]
    rfl
  · intro empty
    have digits := toList_toString n
    rw [empty] at digits
    exact Nat.toDigits_ne_nil digits.symm

end Counts

namespace Variables

variable {env env' : Variables} {name text : String}

/-- Two environments have the same variables, with texts that differ in blanks at their ends. -/
def Respaced (env env' : Variables) : Prop :=
  ∀ name, Option.Rel PullQuota.Respaced (env name) (env' name)

theorem Respaced.text?_eq (h : env.Respaced env') (name : String) :
    env.text? name = env'.text? name := by
  have related := h name
  unfold text?
  generalize env name = first at related ⊢
  generalize env' name = second at related ⊢
  cases related with
  | none => rfl
  | some same => simp only [same.trim_eq]

theorem trimmed_of_text? (h : env.text? name = some text) : Trimmed text := by
  obtain ⟨value, _, rfl, nonempty⟩ := text?_eq_some_iff.mp h
  exact ⟨trim_trim value, nonempty⟩

theorem trimmed_getD {standard : String} (trimmed : Trimmed standard) :
    Trimmed ((env.text? name).getD standard) := by
  cases h : env.text? name with
  | none => exact trimmed
  | some text => exact trimmed_of_text? h

theorem text?_of_trimmed (set : env name = some text) (trimmed : Trimmed text) :
    env.text? name = some text :=
  text?_eq_some_iff.mpr ⟨text, set, trimmed.trim_eq, trimmed.nonempty⟩

/-- A count that is written out is accepted where it was accepted before. -/
theorem count_toString {standard least greatest n : Nat} (set : env name = some (toString n))
    (le : n ≤ Number.maxCount) (bounds : least ≤ n ∧ n ≤ greatest) :
    env.count name standard least greatest = .ok n := by
  have text := text?_of_trimmed set (trimmed_toString n)
  have read := parseCount_eq_some_iff.mpr ⟨writes_toString n, le⟩
  simp only [count, text, read, if_pos bounds]

section Url

variable {standard value : String}

theorem url_accepted (h : env.url name standard = .ok value) (trimmed : Trimmed standard)
    (web : Rule.url.Allows standard) : Trimmed value ∧ Rule.url.Allows value := by
  obtain ⟨passes, ⟨_, rfl⟩ | gives⟩ := url_eq_ok_iff.mp h
  · exact ⟨trimmed, web⟩
  · exact ⟨trimmed_of_text? (text?_eq_some_iff.mpr gives), passes value gives⟩

theorem url_of_allows (set : env name = some value) (trimmed : Trimmed value)
    (web : Rule.url.Allows value) : env.url name standard = .ok value := by
  have given := text?_of_trimmed set trimmed
  refine url_eq_ok_iff.mpr ⟨fun text gives => ?_, Or.inr (text?_eq_some_iff.mp given)⟩
  have same := Option.some.inj (given.symm.trans (text?_eq_some_iff.mpr gives))
  rwa [← same]

end Url

end Variables

namespace Settings

variable {env : Variables} {settings : Settings}

/-- The variables that say what the settings are. -/
def written (settings : Settings) : Variables := fun name =>
  if name = "PORT" then some (toString settings.tcpPort)
  else if name = "HOST" then some settings.host
  else if name = "DATA_FILE" then some settings.dataFile
  else if name = "DOCKERHUB_TIMEOUT_MS" then some (toString settings.timeout)
  else if name = "DOCKERHUB_TOKEN_URL" then some settings.urls.token
  else if name = "DOCKERHUB_RATE_LIMIT_URL" then some settings.urls.limits
  else none

theorem ofVariables_congr {env' : Variables} (h : ∀ name, env.text? name = env'.text? name) :
    ofVariables env = ofVariables env' := by
  simp only [ofVariables, Variables.count, Variables.url, h]

theorem standard_allowed :
    Rule.url.Allows RegistryUrls.standard.token ∧ Rule.url.Allows RegistryUrls.standard.limits := by
  have token : Url.scheme? RegistryUrls.standard.token = some "https" := by decide +kernel
  have limits : Url.scheme? RegistryUrls.standard.limits = some "https" := by decide +kernel
  exact ⟨Or.inr token, Or.inr limits⟩

theorem trimmed_standard : ∀ text ∈ ["0.0.0.0", "./data/datastore.json",
    RegistryUrls.standard.token, RegistryUrls.standard.limits], Trimmed text := by
  have trimmed : ∀ text ∈ ["0.0.0.0", "./data/datastore.json", RegistryUrls.standard.token,
      RegistryUrls.standard.limits], trim text = text ∧ text ≠ "" := by
    decide +kernel
  exact fun text mem => ⟨(trimmed text mem).1, (trimmed text mem).2⟩

theorem ofVariables_written (h : ofVariables env = .ok settings) :
    ofVariables settings.written = .ok settings := by
  obtain ⟨tcpPort, host, dataFile, timeout, token, limits⟩ := ofVariables_eq_ok_iff.mp h
  have tcpPort := Variables.count_bounds tcpPort (by decide) (by decide)
  have timeout := Variables.count_bounds timeout (by decide) (by decide)
  have host : Trimmed settings.host := host ▸ Variables.trimmed_getD (trimmed_standard _ (by simp))
  have dataFile : Trimmed settings.dataFile :=
    dataFile ▸ Variables.trimmed_getD (trimmed_standard _ (by simp))
  have token := Variables.url_accepted token (trimmed_standard _ (by simp)) standard_allowed.1
  have limits := Variables.url_accepted limits (trimmed_standard _ (by simp)) standard_allowed.2
  have small : settings.tcpPort ≤ Number.maxCount := tcpPort.2.trans (by decide)
  refine ofVariables_eq_ok_iff.mpr ⟨?_, ?_, ?_, ?_, ?_, ?_⟩
  · exact Variables.count_toString rfl small tcpPort
  · have text : settings.written.text? "HOST" = some settings.host :=
      Variables.text?_of_trimmed rfl host
    rw [text, Option.getD_some]
  · have text : settings.written.text? "DATA_FILE" = some settings.dataFile :=
      Variables.text?_of_trimmed rfl dataFile
    rw [text, Option.getD_some]
  · exact Variables.count_toString rfl timeout.2 timeout
  · exact Variables.url_of_allows rfl token.1 token.2
  · exact Variables.url_of_allows rfl limits.1 limits.2

/-- Settings are read again from variables that say what they are. Whether variables are accepted or
not, blanks at their ends change neither the settings nor what is complained of. -/
theorem ofVariables_stable (env : Variables) :
    (∀ settings, ofVariables env = .ok settings →
      ofVariables settings.written = .ok settings) ∧
      ∀ env' : Variables, env.Respaced env' → ofVariables env' = ofVariables env :=
  ⟨fun _ => ofVariables_written, fun _ respaced =>
    ofVariables_congr fun name => (respaced.text?_eq name).symm⟩

end Settings

/-- Variables with blanks around their texts, and with a count that begins with a zero. -/
def Variables.mirrored : Variables := fun name =>
  if name = "PORT" then some " 0080\n"
  else if name = "HOST" then some "\u3000localhost"
  else if name = "DOCKERHUB_TOKEN_URL" then some "\thttp://mirror/token "
  else none

/-- The same variables with blanks of several kinds around their texts. -/
def Variables.padded (env : Variables) : Variables := fun name =>
  (env name).map ("\t\u00a0" ++ · ++ "\ufeff\r\n")

theorem Settings.ofVariables_stable_mirrored :
    (∃ settings, ofVariables .mirrored = .ok settings ∧ settings.tcpPort = 80 ∧
      ofVariables settings.written = .ok settings) ∧
    Variables.careless.Respaced Variables.careless.padded ∧
    ofVariables Variables.careless.padded = ofVariables .careless := by
  have given : ofVariables .mirrored = .ok ⟨80, "localhost", "./data/datastore.json", 10000,
      ⟨"http://mirror/token", RegistryUrls.standard.limits⟩⟩ := by
    decide +kernel
  have respaced : Variables.careless.Respaced Variables.careless.padded := by
    intro name
    unfold Variables.padded
    cases Variables.careless name with
    | none => exact .none
    | some text =>
      have left : ∀ c ∈ "\t\u00a0".toList, isBlank c = true := List.all_eq_true.mp (by decide)
      have right : ∀ c ∈ "\ufeff\r\n".toList, isBlank c = true := List.all_eq_true.mp (by decide)
      exact .some ⟨text, ⟨"", "", by simp, by simp, by simp⟩, _, _, left, right, rfl⟩
  exact ⟨⟨_, given, rfl, (ofVariables_stable .mirrored).1 _ given⟩, respaced,
    (ofVariables_stable .careless).2 _ respaced⟩

end PullQuota
