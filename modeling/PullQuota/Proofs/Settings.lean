import PullQuota.Settings

/-!
What accepted settings are read from.
-/

namespace PullQuota

theorem Except.bind_eq_ok {ε α β : Type} {first : Except ε α} {next : α → Except ε β} {result : β} :
    first >>= next = .ok result ↔ ∃ value, first = .ok value ∧ next value = .ok result := by
  cases first <;> simp [bind, Except.bind]

theorem Variables.count_bounds {env : Variables} {name : String} {standard least greatest n : Nat}
    (h : env.count name standard least greatest = .ok n) (low : least ≤ standard)
    (high : standard ≤ greatest) : least ≤ n ∧ n ≤ greatest := by
  unfold count at h
  split at h
  next => cases h; exact ⟨low, high⟩
  next =>
    split at h
    next =>
      split at h
      next bounds => cases h; exact bounds
      next => cases h
    next => cases h

namespace Settings

variable {env : Variables} {settings : Settings}

/-- Settings are given if each variable can be read on its own. -/
theorem ofVariables_eq_ok_iff : ofVariables env = .ok settings ↔
    env.count "PORT" 9000 1 65535 = .ok settings.tcpPort ∧
      (env.text? "HOST").getD "0.0.0.0" = settings.host ∧
      (env.text? "DATA_FILE").getD "./data/datastore.json" = settings.dataFile ∧
      env.count "DOCKERHUB_TIMEOUT_MS" 10000 1 Number.maxCount = .ok settings.timeout ∧
      env.url "DOCKERHUB_TOKEN_URL" RegistryUrls.standard.token = .ok settings.urls.token ∧
      env.url "DOCKERHUB_RATE_LIMIT_URL" RegistryUrls.standard.limits =
        .ok settings.urls.limits := by
  constructor
  · intro h
    obtain ⟨tcpPort, hp, h⟩ := Except.bind_eq_ok.mp h
    obtain ⟨timeout, ht, h⟩ := Except.bind_eq_ok.mp h
    obtain ⟨token, hk, h⟩ := Except.bind_eq_ok.mp h
    obtain ⟨limits, hl, h⟩ := Except.bind_eq_ok.mp h
    cases h
    exact ⟨hp, rfl, rfl, ht, hk, hl⟩
  · rintro ⟨tcpPort, host, dataFile, timeout, token, limits⟩
    simp only [ofVariables, tcpPort, timeout, token, limits, host, dataFile]
    rfl

theorem timeout_bounds (h : ofVariables env = .ok settings) :
    1 ≤ settings.timeout ∧ settings.timeout ≤ Number.maxCount :=
  Variables.count_bounds (ofVariables_eq_ok_iff.mp h).2.2.2.1 (by decide) (by decide)

end Settings

end PullQuota
