import LineLint.Proofs.Server.Freshness

/-!
# Limits that can be used

Settings come to a run in many ways: as defaults, as a section of a pushed configuration, as the
answer to a request, or from a cell that an earlier answer has filled. On every way a limit of zero
is turned back, so that the checker never gets one, and what is published marks a part of a line.

* `Limit` — a limit that the checker can be run with.
* `Diagnostic.WellPlaced` — a range within one line.
* `Phase.settings?` — the settings that a run has.
* `Limited` — the invariant: all settings that are kept anywhere have such a limit.

Results:

* `limit_of_ofJson`, `limit_pushed`, `limit_resolved`: the three ways from the editor.
* `wellPlaced_of_mem`: the diagnostics of a report are well placed, whatever it says.
* `Moves.settings_cases`: where the settings of a run come from.
* `limited_of_session`: the invariant of all reachable states.
* `limits_usable`: what the checker gets, and what is published.
-/

namespace LineLint

/-- A limit that the checker can be run with. -/
def Limit (n : UInt32) : Prop := 1 ≤ n.toNat ∧ n.toNat ≤ Nat.pow 2 32 - 1

theorem limit_of_ne_zero {n : UInt32} (h : n ≠ 0) : Limit n := by
  have hlt : n.toNat < 4294967296 := n.toNat_lt
  have hpos : n.toNat ≠ 0 := fun hzero => h (UInt32.toNat_inj.mp hzero)
  show 1 ≤ n.toNat ∧ n.toNat ≤ 4294967295
  omega

/-! ## Ways from the editor -/

namespace Settings

variable {settings checked : Settings}

theorem limit_standard : Limit standard.maxLength := limit_of_ne_zero (by decide)

theorem limit_of_validated (h : settings.validated = .ok checked) : Limit checked.maxLength := by
  unfold validated at h
  split_ifs at h with hzero
  cases h
  exact limit_of_ne_zero hzero

/-- A section that can be read gives a limit, whatever value it is. -/
theorem limit_of_ofJson {v : Json} (h : ofJson v = .ok settings) : Limit settings.maxLength := by
  unfold ofJson at h
  split_ifs at h
  · cases h
    exact limit_standard
  · split at h
    · cases h
    · exact limit_of_validated h

/-- A pushed configuration gives a limit, whatever value it is. -/
theorem limit_pushed (configuration : Json) : Limit (pushed configuration).1.maxLength := by
  unfold pushed
  split
  · exact limit_standard
  · split
    · rename_i h
      exact limit_of_ofJson h
    · exact limit_standard

/-- What becomes of an answer has a limit, whatever the answer is. -/
theorem limit_resolved (answer : Except SettingsError Settings) :
    Limit (resolved answer).maxLength := by
  unfold resolved
  split
  · rename_i settings h
    cases answer with
    | error e => cases h
    | ok found => exact limit_of_validated h
  · exact limit_standard

end Settings

/-! ## Diagnostics -/

/-- A range within one line that can be counted from one, with its ends in order. -/
structure Diagnostic.WellPlaced (d : Diagnostic) : Prop where
  oneLine : d.start.line = d.stop.line
  bounded : d.stop.line.toNat ≤ Nat.pow 2 32 - 2
  ordered : d.start.le d.stop

/-- Lines of problems count from zero, and the last one of 32 bits does not occur. -/
theorem Problem.line_le {line : List Char} {p : Problem} (h : Problem.parse? line = some p) :
    p.line.toNat ≤ Nat.pow 2 32 - 2 := by
  unfold Problem.parse? at h
  split at h
  · split at h
    · rename_i digits _
      dsimp only at h
      split_ifs at h with hn
      cases h
      change 1 ≤ Report.decimal digits ∧ Report.decimal digits < 4294967296 at hn
      show (UInt32.ofNat (Report.decimal digits - 1)).toNat ≤ 4294967294
      have hsize : Report.decimal digits - 1 < UInt32.size := by
        show Report.decimal digits - 1 < 4294967296
        omega
      rw [UInt32.toNat_ofNat_of_lt' hsize]
      omega
    · cases h
  · cases h

theorem Problem.mem_problems {report : List Char} {cap : ℕ} {p : Problem}
    (h : p ∈ problems report cap) : ∃ line, Problem.parse? line = some p := by
  obtain ⟨line, -, hp⟩ := List.mem_filterMap.mp (List.mem_of_mem_take h)
  exact ⟨line, hp⟩

/-- The diagnostics of a report are well placed, whatever it says. -/
theorem wellPlaced_of_mem {settings : Settings} {report : String} {d : Diagnostic}
    (h : d ∈ Server.diagnosticsOf settings report) : d.WellPlaced := by
  obtain ⟨p, hp, rfl⟩ := List.mem_map.mp h
  obtain ⟨line, hline⟩ := Problem.mem_problems hp
  refine ⟨rfl, Problem.line_le hline, Or.inr ⟨rfl, ?_⟩⟩
  show settings.maxLength ≤ lastCharacter
  rw [UInt32.le_iff_toNat_le]
  have hlt : settings.maxLength.toNat < 4294967296 := settings.maxLength.toNat_lt
  show settings.maxLength.toNat ≤ 4294967295
  omega

/-! ## Settings that are kept -/

/-- The settings that a run has. -/
def Phase.settings? : Phase → Option Settings
  | .settled settings => some settings
  | .checking settings => some settings
  | .checked settings _ => some settings
  | _ => none

namespace Server

variable {s s' : Server} {a : Action} {effects : List Effect} {perResource registers : Bool}
  {past : List (Moment Server Action Effect)} {r : ℕ} {t : Ticket} {p : Phase}
  {settings : Settings}

/-- Where settings can come from at a step: they are the global value, or in a cell, or what becomes
of an answer. -/
def Offered (s : Server) (settings : Settings) : Prop :=
  settings = s.cache.global ∨ (∃ c, (s.cache.cell c).value = some settings) ∨
    ∃ answer, settings = Settings.resolved answer

/-- The settings of a run after a step are those it had, or the step has brought them. -/
theorem Moves.settings_cases (h : Moves s a s' effects) (hr : s'.runs[r]? = some ⟨t, p⟩)
    (hp : p.settings? = some settings) :
    (∃ q, s.runs[r]? = some ⟨t, q⟩ ∧ q.settings? = some settings) ∨ s.Offered settings := by
  obtain ⟨q, hrun, step⟩ | ⟨-, hrun | ⟨-, rfl⟩⟩ := h.run_after hr
  · cases step with
    | askGlobal => exact Or.inr (Or.inl (Option.some.inj hp).symm)
    | proceedReady c _ hv =>
      cases hp
      exact Or.inr (Or.inr (Or.inl ⟨c, hv⟩))
    | answered _ answer => exact Or.inr (Or.inr (Or.inr ⟨answer, (Option.some.inj hp).symm⟩))
    | check => exact Or.inl ⟨_, hrun, hp⟩
    | returned => exact Or.inl ⟨_, hrun, hp⟩
    | _ => cases hp
  · exact Or.inl ⟨p, hrun, hp⟩
  · cases hp

/-- The global value stays, or a pushed configuration is taken over, as is done in global mode. -/
theorem Moves.global_cases (h : Moves s a s' effects) :
    (s'.cache.global = s.cache.global ∧
      (s.cache.perResource = false → ∀ k, a ≠ .changeApplies k)) ∨
    ∃ k configuration, a = .changeApplies k ∧ s.changes[k]? = some ⟨configuration, .cleared⟩ ∧
      s'.cache.global = (Settings.pushed configuration).1 := by
  cases h with
  | changePasses k configuration _ hm =>
    refine Or.inl ⟨rfl, fun hmode => ?_⟩
    rw [hm] at hmode
    cases hmode
  | changeSets k configuration hk => exact Or.inr ⟨k, configuration, rfl, hk, rfl⟩
  | startOpen _ t => exact Or.inl ⟨Cache.global_lookup s.cache t.uri, fun _ => nofun⟩
  | answered _ _ c answer =>
    obtain ⟨f, hf⟩ := Cache.settle_eq_update answer
    refine Or.inl ⟨?_, fun _ => nofun⟩
    show (s.cache.settle c answer).1.global = s.cache.global
    rw [hf s.cache c]
    rfl
  | _ => exact Or.inl ⟨rfl, fun _ => nofun⟩

/-- All settings that are kept anywhere have a limit that can be used. -/
structure Limited (s : Server) : Prop where
  global : Limit s.cache.global.maxLength
  cells : ∀ (c : ℕ) (settings : Settings), (s.cache.cell c).value = some settings →
    Limit settings.maxLength
  runs : ∀ (r : ℕ) (t : Ticket) (p : Phase) (settings : Settings), s.runs[r]? = some ⟨t, p⟩ →
    p.settings? = some settings → Limit settings.maxLength

theorem limited_initial (perResource registers : Bool) :
    Limited (initial.introduced perResource registers) where
  global := Settings.limit_standard
  cells := by intro c settings h; cases h
  runs := by intro r t p settings h; cases h

theorem Limited.offered (h : Limited s) (ho : s.Offered settings) : Limit settings.maxLength := by
  rcases ho with rfl | ⟨c, hc⟩ | ⟨answer, rfl⟩
  · exact h.global
  · exact h.cells c settings hc
  · exact Settings.limit_resolved answer

/-- One step keeps the limits. -/
theorem Limited.step (h : Limited s) (hm : Moves s a s' effects) : Limited s' where
  global := by
    rcases hm.global_cases with ⟨hsame, -⟩ | ⟨-, configuration, -, -, hpushed⟩
    · rw [hsame]
      exact h.global
    · rw [hpushed]
      exact Settings.limit_pushed configuration
  cells := by
    intro c settings hv
    rcases hm.value_cases hv with hv | ⟨_, _, answer, -, -, rfl⟩
    · exact h.cells c settings hv
    · exact Settings.limit_resolved answer
  runs := by
    intro r t p settings hr hp
    rcases hm.settings_cases hr hp with ⟨q, hr, hq⟩ | ho
    · exact h.runs r t q settings hr hq
    · exact h.offered ho

theorem limited_of_session (h : Session perResource registers past s) : Limited s := by
  induction h with
  | nil => exact limited_initial perResource registers
  | snoc _ hs ih => exact ih.step (moves_of_step hs)

/-! ## What goes out -/

/-- The checker is started with the limit of settings that a run has. -/
theorem Moves.check_limit (h : Moves s a s' effects) (hl : Limited s) {path : Bytes}
    {maxLength : UInt32} (he : .check r path maxLength ∈ effects) : Limit maxLength := by
  obtain ⟨-, t, settings, hr, -, rfl⟩ := h.check_cases he
  exact hl.runs r t _ settings hr rfl

/-- What is published is nothing, or the diagnostics of a report. -/
theorem Moves.published_cases (h : Moves s a s' effects) {u : Uri} {found : List Diagnostic}
    (he : .publish u found ∈ effects) :
    found = [] ∨ ∃ settings report, found = diagnosticsOf settings report := by
  cases h with
  | finishPublishes _ t settings report =>
    have hfound : u = t.uri ∧ found = diagnosticsOf settings report := by simpa using he
    exact Or.inr ⟨settings, report, hfound.2⟩
  | didOpen u => cases u.localPath <;> simp at he
  | didClose v =>
    refine Or.inl ?_
    cases (s.cache.invalidate v).2 <;> simp at he <;> exact he.2.2
  | answered _ _ _ answer => cases hv : answer.bind Settings.validated <;> simp [hv] at he
  | returned _ _ _ result => cases result <;> simp at he
  | _ => simp at he

/-- **The checker never gets a limit that it cannot use.** Whatever the editor can do, whatever it
pushes or answers, and in whatever order steps are taken: the global value and the value of every
filled cell have a limit of at least one, and so has every start of the checker. Every diagnostic
that was published marks a range within one line, with its ends in order. -/
theorem limits_usable (h : Session perResource registers past s) :
    Limit s.cache.global.maxLength ∧
      (∀ c settings, (s.cache.cell c).value = some settings → Limit settings.maxLength) ∧
      (∀ m ∈ past, ∀ r path maxLength, .check r path maxLength ∈ m.effects → Limit maxLength) ∧
      ∀ m ∈ past, ∀ u found, .publish u found ∈ m.effects → ∀ d ∈ found, d.WellPlaced := by
  have hlimited := limited_of_session h
  refine ⟨hlimited.global, hlimited.cells, ?_, ?_⟩
  · intro m hm r path maxLength he
    obtain ⟨i, hi⟩ := List.mem_iff_getElem?.mp hm
    exact (moves_of_step (h.step_at hi)).check_limit (limited_of_session (h.take_at hi)) he
  · intro m hm u found he d hd
    obtain ⟨i, hi⟩ := List.mem_iff_getElem?.mp hm
    rcases (moves_of_step (h.step_at hi)).published_cases he with rfl | ⟨settings, report, rfl⟩
    · cases hd
    · exact wellPlaced_of_mem hd

/-- The editor answers a request with a limit of zero, and the checker reports the last line that it
can name. -/
def zeroed : List (Moment Server Action Effect) × Server :=
  replay step (initial.introduced true false)
    [.didOpen Documents.sampleFile, .start 0, .ask 0, .proceed 0, .answered 0 (.ok ⟨0, 1000⟩),
      .check 0, .returned 0 (.ok "/a:4294967295: long"), .finish 0]

theorem limits_usable_zeroed :
    (∃ m ∈ zeroed.1, .check 0 (textBytes "/a") 80 ∈ m.effects) ∧ Limit 80 ∧
      (∃ m ∈ zeroed.1, .publish Documents.sampleFile
        [⟨⟨4294967294, 80⟩, ⟨4294967294, 4294967295⟩, .warning, "lll", "long"⟩] ∈ m.effects) ∧
      Diagnostic.WellPlaced
        ⟨⟨4294967294, 80⟩, ⟨4294967294, 4294967295⟩, .warning, "lll", "long"⟩ := by
  have h : Session true false zeroed.1 zeroed.2 := replay_trace _ _ _
  obtain ⟨-, -, hchecks, hpublished⟩ := limits_usable h
  have hcheck : ∃ m ∈ zeroed.1, .check 0 (textBytes "/a") 80 ∈ m.effects :=
    ⟨_, List.mem_of_getElem? (i := 5) rfl, List.mem_singleton.mpr rfl⟩
  have hpublish : ∃ m ∈ zeroed.1, .publish Documents.sampleFile
      [⟨⟨4294967294, 80⟩, ⟨4294967294, 4294967295⟩, .warning, "lll", "long"⟩] ∈ m.effects :=
    ⟨_, List.mem_of_getElem? (i := 7) rfl, List.mem_cons_of_mem _ (List.mem_singleton.mpr rfl)⟩
  obtain ⟨m, hm, he⟩ := hcheck
  obtain ⟨m', hm', he'⟩ := hpublish
  exact ⟨⟨m, hm, he⟩, hchecks m hm _ _ _ he, ⟨m', hm', he'⟩,
    hpublished m' hm' _ _ he' _ (List.mem_singleton_self _)⟩

end Server

end LineLint
