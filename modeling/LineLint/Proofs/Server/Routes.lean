import LineLint.Proofs.Server.Limits
import LineLint.Proofs.Server.Modes
import LineLint.Proofs.Server.Snapshot
import LineLint.Proofs.Settings.Routes

/-!
# One section, two ways

The same section of the configuration gives the same settings, whether the editor pushes it in
global mode or answers a request with it in per-resource mode. From there on a run depends on its
settings alone: so the checker gets the same limit, and the same report leads to the same
diagnostics.

* `pushes`, `takenOver`, `inForce` — the settings that a trace has put in force.
* `Informed` — what a server in global mode knows of what was pushed.
* `Alike` — two runs that differ at most in what the checker is started on and returns.

Results:

* `Informed.step`, `informed_of_session`: the global value is what the trace has put in force.
* `resolves_iff_of_global`, `resolves_of_answered`: what runs resolve to in each mode.
* `alike_of_resolves`: runs with the same settings are alike.
* `routes_agree`: both ways give the same settings, and what is kept of them.
-/

namespace LineLint.Server

variable {s s' : Server} {a : Action} {effects : List Effect} {perResource registers : Bool}
  {past : List (Moment Server Action Effect)} {m : Moment Server Action Effect} {r i k : ℕ}
  {settings : Settings} {cell : Option ℕ} {l l' : List Station} {o o' : Option Run}

/-! ## The settings in force -/

/-- The configuration that an action pushes. -/
def Action.pushes? : Action → Option Json
  | .changeBegins configuration => some configuration
  | _ => none

/-- The change whose configuration an action takes over. -/
def Action.applies? : Action → Option ℕ
  | .changeApplies change => some change
  | _ => none

/-- The configurations that were pushed, in order. -/
def pushes (past : List (Moment Server Action Effect)) : List Json :=
  past.filterMap fun m => m.action.pushes?

/-- The changes whose configurations were taken over, in order. -/
def applied (past : List (Moment Server Action Effect)) : List ℕ :=
  past.filterMap fun m => m.action.applies?

/-- The configuration that was taken over last. -/
def takenOver (past : List (Moment Server Action Effect)) : Option Json :=
  (applied past).getLast?.bind fun change => (pushes past)[change]?

/-- The settings that a trace has put in force: those of the configuration that was taken over last,
and the defaults before. -/
def inForce (past : List (Moment Server Action Effect)) : Settings :=
  (takenOver past).elim Settings.standard fun configuration => (Settings.pushed configuration).1

@[simp]
theorem pushes_concat : pushes (past ++ [m]) = pushes past ++ m.action.pushes?.toList :=
  filterMap_concat _ past m

@[simp]
theorem applied_concat : applied (past ++ [m]) = applied past ++ m.action.applies?.toList :=
  filterMap_concat _ past m

/-- A step that takes nothing over, when all that was taken over had been pushed. -/
theorem takenOver_kept (h : ∀ change ∈ applied past, change < (pushes past).length)
    (ha : m.action.applies? = none) : takenOver (past ++ [m]) = takenOver past := by
  rw [takenOver, takenOver, applied_concat, ha, Option.toList_none, List.append_nil, pushes_concat]
  cases hlast : (applied past).getLast? with
  | none => rfl
  | some change =>
    exact List.getElem?_append_left (h change (List.mem_of_getLast? hlast))

theorem takenOver_applies (ha : m.action = .changeApplies k) :
    takenOver (past ++ [m]) = (pushes past)[k]? := by
  rw [takenOver, applied_concat, pushes_concat, ha]
  show (applied past ++ [k]).getLast?.bind (fun change => (pushes past ++ [])[change]?) = _
  rw [List.getLast?_concat, List.append_nil]
  rfl

/-- A change is noted when it begins, and keeps its configuration. -/
theorem Moves.configurations_eq (h : Moves s a s' effects) :
    s'.changes.map Change.configuration =
      s.changes.map Change.configuration ++ a.pushes?.toList := by
  have hset : ∀ k p, (s.setChange k p).changes.map Change.configuration =
      s.changes.map Change.configuration ++ [] := by
    intro k p
    rw [List.append_nil]
    exact map_modify_eq (by intro change; rfl) s.changes k
  cases h with
  | changeBegins => exact List.map_append
  | changePasses k => exact hset k .applied
  | changeSets k => exact hset k .applied
  | changeRevalidates k => exact hset k .done
  | _ => exact (List.append_nil _).symm

/-- What a server in global mode knows of what was pushed. -/
structure Informed (past : List (Moment Server Action Effect)) (s : Server) : Prop where
  configurations : s.changes.map Change.configuration = pushes past
  begun : ∀ change ∈ applied past, change < (pushes past).length
  global : s.cache.global = inForce past

/-- One step keeps a server informed. -/
theorem Informed.step (h : Informed past s) (hmode : s.cache.perResource = false)
    (hm : Moves s a s' effects) : Informed (past ++ [⟨s, a, effects, s'⟩]) s' := by
  have hpushes : s'.changes.map Change.configuration = pushes (past ++ [⟨s, a, effects, s'⟩]) := by
    rw [hm.configurations_eq, h.configurations, pushes_concat]
  have hgrows : ∀ {change}, change < (pushes past).length →
      change < (pushes (past ++ [⟨s, a, effects, s'⟩])).length := by
    intro change hchange
    rw [pushes_concat, List.length_append]
    exact Nat.lt_add_right _ hchange
  rcases hm.global_cases with ⟨hsame, hnone⟩ | ⟨k, configuration, rfl, hk, hset⟩
  · have happlies : a.applies? = none := by
      cases a with
      | changeApplies k => exact absurd rfl (hnone hmode k)
      | _ => rfl
    refine ⟨hpushes, ?_, ?_⟩
    · rw [applied_concat, happlies, Option.toList_none, List.append_nil]
      exact fun change hchange => hgrows (h.begun change hchange)
    · rw [hsame, h.global, inForce, inForce, takenOver_kept h.begun happlies]
  · have hpushed : (pushes past)[k]? = some configuration := by
      rw [← h.configurations, List.getElem?_map, hk]
      rfl
    refine ⟨hpushes, ?_, ?_⟩
    · rw [applied_concat]
      intro change hchange
      rcases List.mem_append.mp hchange with hold | hnew
      · exact hgrows (h.begun change hold)
      · obtain rfl := List.mem_singleton.mp hnew
        exact hgrows (List.getElem?_eq_some_iff.mp hpushed).1
    · rw [hset, inForce, takenOver_applies rfl, hpushed]
      rfl

theorem informed_of_session (h : Session false registers past s) : Informed past s := by
  induction h with
  | nil => exact ⟨rfl, nofun, rfl⟩
  | snoc h hs ih => exact ih.step (perResource_of_session h) (moves_of_step hs)

/-! ## What runs resolve to -/

theorem mem_itinerary {station : Station} (hm : past[i]? = some m)
    (ha : arrival r m = some station) : station ∈ itinerary r past :=
  List.mem_flatMap.mpr ⟨m, List.mem_of_getElem? hm,
    List.mem_append_left _ (Option.mem_toList.mpr ha)⟩

/-- A run resolves when it takes the global value, or by way of a cell. -/
theorem resolves_cases (h : .resolves cell settings ∈ stationsBy r m) :
    (m.action = .ask r ∧ cell = none ∧ m.before.cache.global = settings) ∨
      ∃ t p c, m.before.runs[r]? = some ⟨t, p⟩ ∧ p.cell? = some c := by
  rcases List.mem_append.mp h with h | h
  · have harrival : arrival r m = some (.resolves cell settings) := Option.mem_toList.mp h
    unfold arrival at harrival
    split_ifs at harrival with hown
    split at harrival
    · cases harrival
    · rename_i t p hr
      -- it starts, takes the global value, finds its cell filled, is answered, or none of these
      split at harrival
      · split_ifs at harrival
        cases harrival
      · rename_i ha
        rw [ha] at hown ⊢
        cases hown
        cases harrival
        exact Or.inl ⟨rfl, rfl, rfl⟩
      · exact Or.inr ⟨t, _, _, hr, rfl⟩
      · exact Or.inr ⟨t, _, _, hr, rfl⟩
      · cases harrival
      · cases harrival
  · obtain ⟨effect, -, he⟩ := List.mem_filterMap.mp h
    unfold sighting at he
    split at he
    · split_ifs at he
      cases he
    · split_ifs at he
      cases he
    · cases he

/-- In global mode, runs resolve to the global value. -/
theorem resolves_iff_of_global (h : Session false registers past s) :
    .resolves cell settings ∈ itinerary r past ↔ cell = none ∧ ∃ j, ReadsAt past j r settings := by
  constructor
  · intro hmem
    obtain ⟨m, hm, hstation⟩ := List.mem_flatMap.mp hmem
    obtain ⟨j, hj⟩ := List.mem_iff_getElem?.mp hm
    rcases resolves_cases hstation with ⟨ha, hcell, hglobal⟩ | ⟨t, p, c, hr, hc⟩
    · exact ⟨hcell, j, m, hj, ha, hglobal⟩
    · rw [cell?_of_global (h.take_at hj) hr] at hc
      cases hc
  · rintro ⟨rfl, j, ⟨before, action, effects, after⟩, hj, ha, hglobal⟩
    dsimp only at ha hglobal
    subst ha hglobal
    refine mem_itinerary hj ?_
    have hmove : Moves before (.ask r) after effects := moves_of_step (h.step_at hj)
    cases hmove with
    | askGlobal _ t u hr => simp [arrival, hr, Action.run?]
    | askCell _ t u c hr => cases cell?_of_global (h.take_at hj) hr

/-- A run that is answered resolves to what becomes of the answer. -/
theorem resolves_of_answered (h : Session perResource registers past s)
    {answer : Except SettingsError Settings} (hi : AnsweredAt past i r answer) :
    ∃ c, .resolves (some c) (Settings.resolved answer) ∈ itinerary r past := by
  obtain ⟨⟨before, action, effects, after⟩, hm, ha⟩ := hi
  dsimp only at ha
  subst ha
  have hmove : Moves before (.answered r answer) after effects := moves_of_step (h.step_at hm)
  cases hmove with
  | answered _ t c _ hr => exact ⟨c, mem_itinerary hm (by simp [arrival, hr, Action.run?])⟩

/-! ## Runs with the same settings -/

/-- Two runs with the same settings: the checker gets the same limit, and a report leads to the same
diagnostics. -/
structure Alike (l l' : List Station) : Prop where
  settings : ∃ cell cell' settings, .resolves cell settings ∈ l ∧ .resolves cell' settings ∈ l'
  limit : ∀ path path' maxLength maxLength', .checks path maxLength ∈ l →
    .checks path' maxLength' ∈ l' → maxLength = maxLength'
  diagnostics : ∀ report u u' found found', .returns (.ok report) ∈ l →
    .returns (.ok report) ∈ l' → .publishes u found ∈ l → .publishes u' found' ∈ l' →
    found = found'

/-- A run that has its settings goes the way of these settings. -/
theorem Along.of_resolved (h : Along l o) (hr : .resolves cell settings ∈ l) :
    ∃ t lookup result, l <+: route t lookup settings result ∨ ∃ report, result = .ok report ∧
      l = route t lookup settings result ++
        [.publishes t.uri (diagnosticsOf settings report)] := by
  rcases h.on_route with rfl | ⟨t, p, lookup, own, result, -, -, hl | ⟨-, report, rfl, rfl⟩⟩
  · cases hr
  · obtain ⟨-, rfl⟩ : cell = lookup.cell ∧ settings = own := by simpa [route] using hl.mem hr
    exact ⟨t, lookup, result, Or.inl hl⟩
  · obtain ⟨-, rfl⟩ : cell = lookup.cell ∧ settings = own := by simpa [route] using hr
    exact ⟨t, lookup, _, Or.inr ⟨report, rfl, rfl⟩⟩

theorem Along.limit_eq (h : Along l o) (hr : .resolves cell settings ∈ l) {path : Bytes}
    {maxLength : UInt32} (hc : .checks path maxLength ∈ l) : maxLength = settings.maxLength := by
  obtain ⟨t, lookup, result, hl | ⟨report, -, rfl⟩⟩ := h.of_resolved hr
  · have hstart : path = t.path ∧ maxLength = settings.maxLength := by
      simpa [route] using hl.mem hc
    exact hstart.2
  · have hstart : path = t.path ∧ maxLength = settings.maxLength := by simpa [route] using hc
    exact hstart.2

theorem Along.diagnostics_eq (h : Along l o) (hr : .resolves cell settings ∈ l) {report : String}
    {u : Uri} {found : List Diagnostic} (hreport : .returns (.ok report) ∈ l)
    (hp : .publishes u found ∈ l) : found = diagnosticsOf settings report := by
  obtain ⟨t, lookup, result, hl | ⟨own, rfl, rfl⟩⟩ := h.of_resolved hr
  · have hnone := hl.mem hp
    simp [route] at hnone
  · have hown : report = own := by simpa [route] using hreport
    have hend : u = t.uri ∧ found = diagnosticsOf settings own := by simpa [route] using hp
    rw [hown]
    exact hend.2

/-- Runs with the same settings are alike, in whatever sessions. -/
theorem alike_of_resolves (h : Along l o) (h' : Along l' o') {cell' : Option ℕ}
    (hr : .resolves cell settings ∈ l) (hr' : .resolves cell' settings ∈ l') : Alike l l' where
  settings := ⟨cell, cell', settings, hr, hr'⟩
  limit path path' maxLength maxLength' hc hc' := by
    rw [h.limit_eq hr hc, h'.limit_eq hr' hc']
  diagnostics report u u' found found' hreport hreport' hp hp' := by
    rw [h.diagnostics_eq hr hreport hp, h'.diagnostics_eq hr' hreport' hp']

/-- **A section gives the same settings in both modes.** A pushed configuration and an answer with
the same section, or both without one, give the same settings; without a section these are the
defaults. In global mode the configuration that was taken over last is in force, and it is what runs
resolve to. In per-resource mode a run that was answered resolves to what the answer gives. So if
the section in force and the section of an answer are the same, the checker gets the same limit in
both modes, and the same report leads to the same diagnostics. Lookups of an entry share its cell,
which keeps what an answer gave exactly if its section could be read, also as `null`; otherwise the
next lookup at the cell asks again. -/
theorem routes_agree :
    (∀ configuration reply, configuration.get? "lll" = Settings.section? reply →
      (Settings.pushed configuration).1 = Settings.resolved (Settings.answered reply)) ∧
    (∀ configuration : Json, configuration.get? "lll" = none →
      (Settings.pushed configuration).1 = Settings.standard) ∧
    (∀ reply, Settings.section? reply = none →
      Settings.resolved (Settings.answered reply) = Settings.standard) ∧
    (∀ registers past s, Session false registers past s → s.cache.global = inForce past ∧
      (∀ r cell settings, .resolves cell settings ∈ itinerary r past ↔
        cell = none ∧ ∃ j, ReadsAt past j r settings) ∧
      ∀ j r settings, ReadsAt past j r settings → settings = inForce (past.take j)) ∧
    (∀ registers past s, Session true registers past s → ∀ i r reply,
      AnsweredAt past i r (Settings.answered reply) →
      ∃ c, .resolves (some c) (Settings.resolved (Settings.answered reply)) ∈ itinerary r past) ∧
    (∀ registers past s registers' past' s', Session false registers past s →
      Session true registers' past' s' → ∀ configuration reply i j r r' settings,
      configuration.get? "lll" = Settings.section? reply →
      takenOver (past.take j) = some configuration → ReadsAt past j r settings →
      AnsweredAt past' i r' (Settings.answered reply) →
      Alike (itinerary r past) (itinerary r' past')) ∧
    (∀ rest, Settings.Accepted (.ok (.arr (.null :: rest))) Settings.standard) ∧
    ∀ past r, Trace Resolver.step Resolver.initial past r →
      (∀ u i j c c', i < j → Resolver.LookedUpAt past i u c → Resolver.LookedUpAt past j u c' →
        (∀ k, i < k → k < j → ¬Resolver.ForgottenAt past k u) → c = c') ∧
      ∀ c, Resolver.Retains past r c := by
  have hsame : ∀ configuration reply, configuration.get? "lll" = Settings.section? reply →
      (Settings.pushed configuration).1 = Settings.resolved (Settings.answered reply) := by
    intro configuration reply h
    rw [Settings.pushed_eq, Settings.resolved_answered, ← h]
    rfl
  have hforce : ∀ {registers past s j r settings}, Session false registers past s →
      ReadsAt past j r settings → settings = inForce (past.take j) := by
    rintro registers past s j r settings h ⟨m, hm, -, rfl⟩
    exact (informed_of_session (h.take_at hm)).global
  refine ⟨hsame, ?_, ?_, ?_, ?_, ?_, fun rest => ⟨.null, rfl, rfl⟩, fun past r h => ⟨?_, ?_⟩⟩
  · intro configuration h
    rw [Settings.pushed_eq, show configuration.get? sectionName = none from h]
    rfl
  · intro reply h
    rw [Settings.resolved_answered, h]
    rfl
  · intro registers past s h
    exact ⟨(informed_of_session h).global, fun r cell settings => resolves_iff_of_global h,
      fun j r settings hj => hforce h hj⟩
  · intro registers past s h i r reply hi
    exact resolves_of_answered h hi
  · intro registers past s registers' past' s' h h' configuration reply i j r r' settings hsection
      htaken hj hi
    have hresolves : .resolves none settings ∈ itinerary r past :=
      (resolves_iff_of_global h).mpr ⟨rfl, j, hj⟩
    obtain ⟨c, hresolves'⟩ := resolves_of_answered h' hi
    have hsettings : settings = Settings.resolved (Settings.answered reply) := by
      rw [hforce h hj, inForce, htaken]
      exact hsame configuration reply hsection
    rw [← hsettings] at hresolves'
    exact alike_of_resolves (along_of_session h r) (along_of_session h' r') hresolves hresolves'
  · intro u i j c c' hij hi hj hkept
    exact Resolver.lookups_share h hij hi hj hkept
  · exact Resolver.retains_of_trace h

/-- A configuration is pushed before a run takes its settings, and the checker reports a line. -/
def informed (configuration : Json) : List (Moment Server Action Effect) × Server :=
  replay step (initial.introduced false false)
    [.didOpen Documents.sampleFile, .changeBegins configuration, .changeApplies 0, .start 0, .ask 0,
      .check 0, .returned 0 (.ok "/a:7: long"), .finish 0]

/-- The editor answers a run, and the checker reports the same line. -/
def consulted (reply : Reply) : List (Moment Server Action Effect) × Server :=
  replay step (initial.introduced true false)
    [.didOpen Documents.sampleFile, .start 0, .ask 0, .proceed 0,
      .answered 0 (Settings.answered reply), .check 0, .returned 0 (.ok "/a:7: long"), .finish 0]

/-- Two lookups of a document, of which the first is answered. -/
def answeredOnce (reply : Reply) :
    List (Moment Resolver Resolver.Action Resolver.Effect) × Resolver :=
  replay Resolver.step Resolver.initial
    [.setPerResource true, .lookup Documents.sampleFile, .lookup Documents.sampleFile, .resolve 0,
      .resolve 1, .advance 0, .answer 0 (Settings.answered reply), .advance 1]

/-- The answer with the section of a configuration with a limit. -/
def limitingReply : Reply := .ok (.arr [.obj [("maxLength", .int 40)]])

theorem routes_agree_limiting :
    (Settings.pushed limiting).1 = ⟨40, 1000⟩ ∧
      Settings.resolved (Settings.answered limitingReply) = ⟨40, 1000⟩ ∧
      (informed limiting).2.cache.global = inForce (informed limiting).1 ∧
      Alike (itinerary 0 (informed limiting).1) (itinerary 0 (consulted limitingReply).1) ∧
      (∃ m ∈ (informed limiting).1, .check 0 (textBytes "/a") 40 ∈ m.effects) ∧
      (∃ m ∈ (consulted limitingReply).1, .check 0 (textBytes "/a") 40 ∈ m.effects) ∧
      Resolver.fetches 0 (answeredOnce (.ok (.arr [.null]))).1 = [0] ∧
      Resolver.Retains (answeredOnce (.ok (.arr [.null]))).1
        (answeredOnce (.ok (.arr [.null]))).2 0 ∧
      Resolver.fetches 0 (answeredOnce (.ok (.arr []))).1 = [0, 1] ∧
      Resolver.Retains (answeredOnce (.ok (.arr []))).1 (answeredOnce (.ok (.arr []))).2 0 := by
  obtain ⟨hsame, -, -, hglobal, -, halike, -, hretains⟩ := routes_agree
  have hinformed : Session false false (informed limiting).1 _ := replay_trace _ _ _
  have hconsulted : Session true false (consulted limitingReply).1 _ := replay_trace _ _ _
  have hpushed : (Settings.pushed limiting).1 = ⟨40, 1000⟩ := rfl
  have hreads : ReadsAt (informed limiting).1 4 0 ⟨40, 1000⟩ := ⟨_, rfl, rfl, rfl⟩
  have hanswered : AnsweredAt (consulted limitingReply).1 4 0 (Settings.answered limitingReply) :=
    ⟨_, rfl, rfl⟩
  exact ⟨hpushed, (hsame limiting limitingReply rfl).symm.trans hpushed,
    (hglobal _ _ _ hinformed).1,
    halike _ _ _ _ _ _ hinformed hconsulted limiting limitingReply 4 4 0 0 _ rfl rfl hreads
      hanswered,
    ⟨_, List.mem_of_getElem? (i := 5) rfl, List.mem_singleton.mpr rfl⟩,
    ⟨_, List.mem_of_getElem? (i := 5) rfl, List.mem_singleton.mpr rfl⟩,
    by decide, (hretains _ _ (replay_trace _ _ _)).2 0, by decide,
    (hretains _ _ (replay_trace _ _ _)).2 0⟩

end LineLint.Server
