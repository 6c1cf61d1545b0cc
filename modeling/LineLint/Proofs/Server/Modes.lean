import LineLint.Proofs.Server.Strides
import LineLint.Proofs.Settings.Modes

/-!
# Two ways to settings

The editor says at the beginning how settings are to be had. If it does not answer requests for
settings, there is one value for all, and neither requests nor entries. If it does, what it pushes
when the configuration changes is not looked at.

* `Action.unpushed` — an action without what is pushed by it.
* `Repushed` — two servers that differ in what was pushed.

Results:

* `Moves.bare`, `bare_of_session`: without requests there are no entries and no cells.
* `not_fetch_of_session`: no run asks the editor then.
* `Repushed.follow`, `repushed_of_session`: with requests, what is pushed makes no difference.
* `modes_apart`: neither way is seen on the other.
-/

namespace LineLint.Server

variable {s s' s₁ s₁' s₂ : Server} {a b : Action} {effects : List Effect} {registers : Bool}
  {past : List (Moment Server Action Effect)} {m : Moment Server Action Effect} {k : ℕ}
  {actions : List Action}

/-! ## Without requests -/

/-- In global mode no step makes an entry or a cell. -/
theorem Moves.bare (h : Moves s a s' effects) (hmode : s.cache.perResource = false)
    (hentries : s.cache.entries = []) (hcells : s.cache.cells = []) :
    s'.cache.entries = [] ∧ s'.cache.cells = [] := by
  cases h with
  | didClose u =>
    refine ⟨?_, hcells⟩
    show s.cache.entries.filter _ = []
    rw [hentries]
    rfl
  | changeBegins => exact ⟨rfl, hcells⟩
  | startOpen _ t =>
    show (s.cache.lookup t.uri).1.entries = [] ∧ (s.cache.lookup t.uri).1.cells = []
    rw [Cache.lookup_global hmode]
    exact ⟨hentries, hcells⟩
  | askCell r _ _ c =>
    refine ⟨hentries, ?_⟩
    show s.cache.cells.modify c _ = []
    rw [hcells, List.modify_nil]
  | answered _ _ c answer =>
    obtain ⟨f, hf⟩ := Cache.settle_eq_update answer
    show (s.cache.settle c answer).1.entries = [] ∧ (s.cache.settle c answer).1.cells = []
    rw [hf]
    refine ⟨hentries, ?_⟩
    show s.cache.cells.modify c _ = []
    rw [hcells, List.modify_nil]
  | _ => exact ⟨hentries, hcells⟩

theorem bare_of_session (h : Session false registers past s) :
    s.cache.entries = [] ∧ s.cache.cells = [] := by
  induction h with
  | nil => exact ⟨rfl, rfl⟩
  | snoc h hs ih => exact (moves_of_step hs).bare (perResource_of_session h) ih.1 ih.2

/-- In global mode no run has to do with a cell. -/
theorem cell?_of_global (h : Session false registers past s) {r : ℕ} {t : Ticket} {p : Phase}
    (hr : s.runs[r]? = some ⟨t, p⟩) : p.cell? = none := by
  cases hc : p.cell? with
  | none => rfl
  | some c =>
    obtain ⟨b, hb⟩ := cell_made h hr hc
    have hlt := madeAt_lt h hb
    rw [(bare_of_session h).2] at hlt
    exact absurd hlt (Nat.not_lt_zero c)

/-- In global mode no run asks the editor. -/
theorem not_fetch_of_session (h : Session false registers past s) (hm : m ∈ past) (r : ℕ)
    (u : Uri) : .fetch r u ∉ m.effects := by
  intro hf
  obtain ⟨i, hi⟩ := List.mem_iff_getElem?.mp hm
  obtain ⟨-, t, c, hr, -⟩ := (moves_of_step (h.step_at hi)).fetch_cases hf
  -- the run would stand in line at a cell
  cases cell?_of_global (h.take_at hi) hr

/-! ## With requests -/

/-- An action without what is pushed by it. -/
def Action.unpushed : Action → Action
  | .changeBegins _ => .changeBegins .null
  | a => a

theorem eq_of_unpushed (h : a.unpushed = b.unpushed) :
    (a = b ∧ ∀ configuration, a ≠ .changeBegins configuration) ∨
      ∃ old new, a = .changeBegins old ∧ b = .changeBegins new := by
  cases a with
  | changeBegins old => cases b <;> simp_all [Action.unpushed]
  | _ => cases b <;> simp_all [Action.unpushed]

/-- Two servers that differ at most in what was pushed. -/
structure Repushed (s₁ s₂ : Server) : Prop where
  documents : s₁.documents = s₂.documents
  cache : s₁.cache = s₂.cache
  runs : s₁.runs = s₂.runs
  registers : s₁.registerConfiguration = s₂.registerConfiguration
  changes : s₁.changes.map Change.phase = s₂.changes.map Change.phase

theorem Repushed.change (h : Repushed s₁ s₂) {configuration : Json} {p : ChangePhase}
    (hk : s₁.changes[k]? = some ⟨configuration, p⟩) :
    ∃ configuration', s₂.changes[k]? = some ⟨configuration', p⟩ := by
  have hphase := congrArg (·[k]?) h.changes
  simp only [List.getElem?_map, hk, Option.map_some] at hphase
  obtain ⟨⟨configuration', p'⟩, hk', rfl⟩ := Option.map_eq_some_iff.mp hphase.symm
  exact ⟨configuration', hk'⟩

theorem Repushed.setChange (h : Repushed s₁ s₂) {configuration configuration' : Json}
    {p p' : ChangePhase} (hk : s₁.changes[k]? = some ⟨configuration, p⟩)
    (hk' : s₂.changes[k]? = some ⟨configuration', p⟩) :
    Repushed (s₁.setChange k p') (s₂.setChange k p') where
  documents := h.documents
  cache := h.cache
  runs := h.runs
  registers := h.registers
  changes := by
    apply List.ext_getElem?
    intro i
    rw [List.getElem?_map, List.getElem?_map, changes_setChange hk, changes_setChange hk']
    split_ifs
    · rfl
    · rw [← List.getElem?_map, ← List.getElem?_map, h.changes]

/-- In per-resource mode, servers that differ in what was pushed take the same steps with the same
effects. -/
theorem Repushed.follow (h : Repushed s₁ s₂) (hm : Moves s₁ a s₁' effects)
    (hmode : s₁.cache.perResource = true) (hab : a.unpushed = b.unpushed) :
    ∃ s₂', s₂.step b = some (s₂', effects) ∧ Repushed s₁' s₂' := by
  rcases eq_of_unpushed hab with ⟨rfl, hother⟩ | ⟨old, new, rfl, rfl⟩
  · obtain ⟨documents, cache, runs, changes, registers⟩ := s₂
    obtain ⟨hdocuments, hcache, hruns, hregisters, hchanges⟩ := id h
    dsimp only at hdocuments hcache hruns hregisters hchanges
    subst hdocuments hcache hruns hregisters
    -- most steps do not touch the changes under way
    have hquiet : ∀ {t : Server}, Moves { s₁ with changes } a { t with changes } effects →
        t.changes = s₁.changes →
        ∃ s₂', step { s₁ with changes } a = some (s₂', effects) ∧ Repushed t s₂' :=
      fun hmove ht => ⟨_, step_of_moves hmove, rfl, rfl, rfl, rfl, ht ▸ hchanges⟩
    cases hm with
    | didOpen u => exact hquiet (.didOpen u) rfl
    | didSave u => exact hquiet (.didSave u) rfl
    | didClose u => exact hquiet (.didClose u) rfl
    | changeBegins configuration => exact absurd rfl (hother configuration)
    | changePasses i configuration hk =>
      obtain ⟨configuration', hk'⟩ := h.change hk
      exact ⟨_, step_of_moves (.changePasses i configuration' hk' hmode), h.setChange hk hk'⟩
    | changeSets i configuration hk hglobal =>
      rw [hmode] at hglobal
      cases hglobal
    | changeRevalidates i configuration hk =>
      obtain ⟨configuration', hk'⟩ := h.change hk
      refine ⟨_, step_of_moves (.changeRevalidates i configuration' hk'), rfl, rfl, rfl, rfl, ?_⟩
      exact (h.setChange hk hk').changes
    | startClosed r t hr ho => exact hquiet (.startClosed r t hr ho) rfl
    | startOpen r t hr ho => exact hquiet (.startOpen r t hr ho) rfl
    | askGlobal r t u hr => exact hquiet (.askGlobal r t u hr) rfl
    | askCell r t u c hr => exact hquiet (.askCell r t u c hr) rfl
    | proceedReady r t c settings hr ht => exact hquiet (.proceedReady r t c settings hr ht) rfl
    | proceedAsk r t c hr ht => exact hquiet (.proceedAsk r t c hr ht) rfl
    | answered r t c answer hr => exact hquiet (.answered r t c answer hr) rfl
    | check r t settings hr => exact hquiet (.check r t settings hr) rfl
    | returned r t settings result hr => exact hquiet (.returned r t settings result hr) rfl
    | finishPublishes r t settings report hr ha =>
      exact hquiet (.finishPublishes r t settings report hr ha) rfl
    | finishReports r t settings e hr ha => exact hquiet (.finishReports r t settings e hr ha) rfl
    | finishDiscards r t settings result hr ha =>
      exact hquiet (.finishDiscards r t settings result hr ha) rfl
  · cases hm
    obtain ⟨hdocuments, hcache, hruns, hregisters, hchanges⟩ := h
    refine ⟨(s₂.changeBegins new).1, ?_, hdocuments, congrArg (·.invalidateAll.1) hcache, hruns,
      hregisters, ?_⟩
    · rw [hcache]
      rfl
    · simp only [changeBegins, List.map_append, hchanges, List.map_cons, List.map_nil]

/-- In per-resource mode, whatever is pushed can be replaced, and nothing else changes. -/
theorem repushed_of_session (h : Session true registers past s)
    (hactions : actions.map Action.unpushed = past.map fun m => m.action.unpushed) :
    ∃ past' s', Session true registers past' s' ∧ past'.map Moment.action = actions ∧
      Repushed s s' ∧ past'.map Moment.effects = past.map Moment.effects ∧
      past'.map (fun m => m.after.documents) = past.map (fun m => m.after.documents) := by
  induction h generalizing actions with
  | nil =>
    obtain rfl := List.map_eq_nil_iff.mp hactions
    exact ⟨[], _, .nil, rfl, ⟨rfl, rfl, rfl, rfl, rfl⟩, rfl, rfl⟩
  | snoc h hs ih =>
    rw [List.map_append] at hactions
    obtain ⟨earlier, last, rfl, hearlier, hlast⟩ := List.map_eq_append_iff.mp hactions
    obtain ⟨b, rfl, hb⟩ := List.map_eq_singleton_iff.mp hlast
    obtain ⟨past', s', htrace, rfl, hsame, heffects, hdocuments⟩ := ih hearlier
    obtain ⟨s₂, hs₂, hsame₂⟩ := hsame.follow (moves_of_step hs) (perResource_of_session h) hb.symm
    refine ⟨_, s₂, htrace.snoc hs₂, by simp, hsame₂, ?_, ?_⟩
    · simp [heffects]
    · simp [hdocuments, hsame₂.documents]

/-- **The modes do not leak into each other.** In a session without requests for settings none is
made, and no entry. In a session with them, what is pushed when the configuration changes can be
replaced: the same steps are taken, with the same effects, and the documents are in the same states
throughout. In the cache, a lookup keeps the mode in which it was made: with a cell, it gets what
became of an answer to a request for this cell, which depends on who was begun there and on the
answers alone; without a cell, it gets the global value of the moment when it is resolved. And it
does not matter to lookups with a cell when the mode and the global value are set, and to what. -/
theorem modes_apart :
    (∀ registers past s, Session false registers past s → s.cache.entries = [] ∧
      ∀ m ∈ past, m.after.cache.entries = [] ∧ ∀ r u, .fetch r u ∉ m.effects) ∧
    (∀ registers past s, Session true registers past s → ∀ actions : List Action,
      actions.map Action.unpushed = past.map (fun m => m.action.unpushed) →
      (∃ past' s', Session true registers past' s' ∧ past'.map Moment.action = actions) ∧
      ∀ past' s', Session true registers past' s' → past'.map Moment.action = actions →
        past'.map Moment.effects = past.map Moment.effects ∧
        past'.map (fun m => m.after.documents) = past.map (fun m => m.after.documents)) ∧
    (∀ past r, Trace Resolver.step Resolver.initial past r → ∀ mode i n u,
      Resolver.MadeIn mode past i n u → Resolver.KeepsMode mode past r n) ∧
    (∀ past r past' r', Trace Resolver.step Resolver.initial past r →
      Trace Resolver.step Resolver.initial past' r' → ∀ n c c', r.cellOf n = some c →
      r'.cellOf n = some c' → r.statusOf n = some .resolved → r'.statusOf n = some .resolved →
      Resolver.started c past = Resolver.started c' past' →
      Resolver.answers c past = Resolver.answers c' past' →
      Resolver.returned n past = Resolver.returned n past') ∧
    ∀ (r : Resolver) (actions actions' : List Resolver.Action),
      Resolver.agenda r.cache.perResource actions = Resolver.agenda r.cache.perResource actions' →
      Resolver.Agree (replay Resolver.step r actions) (replay Resolver.step r actions') := by
  refine ⟨fun registers past s h => ⟨(bare_of_session h).1, fun m hm => ⟨?_, ?_⟩⟩,
    fun registers past s h actions hactions => ?_,
    fun past r h mode i n u hi => Resolver.keepsMode_of_madeIn h hi,
    fun past r past' r' h h' n c c' hc hc' hs hs' hstarted hanswers =>
      Resolver.returned_determined h h' hc hc' hs hs' hstarted hanswers,
    fun r actions actions' hagenda => Resolver.agree_of_agenda r hagenda⟩
  · obtain ⟨i, hi⟩ := List.mem_iff_getElem?.mp hm
    exact (bare_of_session ((h.take_at hi).snoc (h.step_at hi))).1
  · exact not_fetch_of_session h hm
  · obtain ⟨past₁, s₁, h₁, ha₁, -, heffects, hdocuments⟩ := repushed_of_session h hactions
    refine ⟨⟨past₁, s₁, h₁, ha₁⟩, fun past' s' h' ha' => ?_⟩
    obtain ⟨rfl, -⟩ := h₁.unique h' (ha₁.trans ha'.symm)
    exact ⟨heffects, hdocuments⟩

/-- A configuration is pushed before a run takes its settings. -/
def interrupted (perResource : Bool) (configuration : Json) :
    List (Moment Server Action Effect) × Server :=
  replay step (initial.introduced perResource false)
    [.didOpen Documents.sampleFile, .start 0, .changeBegins configuration, .changeApplies 0,
      .ask 0, .proceed 0, .answered 0 (.ok ⟨60, 5⟩), .check 0]

/-- A configuration with a limit. -/
def limiting : Json := .obj [("lll", .obj [("maxLength", .int 40)])]

/-- A lookup in each mode. Before they are resolved, the mode and the global value are set by the
actions in between. -/
def inBetween (settings : List Resolver.Action) :
    List (Moment Resolver Resolver.Action Resolver.Effect) × Resolver :=
  replay Resolver.step Resolver.initial
    ([.lookup Documents.sampleFile, .setPerResource true, .lookup Documents.sampleFile] ++
      settings ++ [.resolve 0, .resolve 1, .advance 1, .answer 1 (.ok ⟨60, 5⟩)])

theorem modes_apart_interrupted :
    (∃ m ∈ (interrupted false limiting).1, .check 0 (textBytes "/a") 40 ∈ m.effects) ∧
      (∀ m ∈ (interrupted false limiting).1, ∀ r u, .fetch r u ∉ m.effects) ∧
      (∃ m ∈ (interrupted true .null).1, .check 0 (textBytes "/a") 60 ∈ m.effects) ∧
      (interrupted true limiting).1.map Moment.effects =
        (interrupted true .null).1.map Moment.effects ∧
      Resolver.KeepsMode false (inBetween []).1 (inBetween []).2 0 ∧
      Resolver.KeepsMode true (inBetween []).1 (inBetween []).2 1 ∧
      Resolver.returned 0 (inBetween [.setPerResource false, .setGlobal ⟨40, 4⟩]).1 = [⟨40, 4⟩] ∧
      Resolver.returned 1 (inBetween [.setPerResource false, .setGlobal ⟨40, 4⟩]).1 = [⟨60, 5⟩] ∧
      Resolver.Agree (inBetween []) (inBetween [.setPerResource false, .setGlobal ⟨40, 4⟩]) := by
  obtain ⟨hglobal, hpushed, hkept, -, hset⟩ := modes_apart
  have hquiet : Session false false (interrupted false limiting).1 _ := replay_trace _ _ _
  have hnull : Session true false (interrupted true .null).1 _ := replay_trace _ _ _
  have hlimiting : Session true false (interrupted true limiting).1 _ := replay_trace _ _ _
  have hlookups : Trace Resolver.step Resolver.initial (inBetween []).1 (inBetween []).2 :=
    replay_trace _ _ _
  refine ⟨⟨_, List.mem_of_getElem? (i := 5) rfl, List.mem_singleton.mpr rfl⟩,
    fun m hm => ((hglobal _ _ _ hquiet).2 m hm).2,
    ⟨_, List.mem_of_getElem? (i := 7) rfl, List.mem_singleton.mpr rfl⟩,
    ((hpushed _ _ _ hnull _ rfl).2 _ _ hlimiting rfl).1,
    hkept _ _ hlookups false 0 0 Documents.sampleFile ⟨_, rfl, rfl, rfl, rfl⟩,
    hkept _ _ hlookups true 2 1 Documents.sampleFile ⟨_, rfl, rfl, rfl, rfl⟩, by decide, by decide,
    hset _ _ _ rfl⟩

end LineLint.Server
