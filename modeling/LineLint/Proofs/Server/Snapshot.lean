import LineLint.Proofs.Server.Outcomes

/-!
# One snapshot of the settings

A run reads its settings once and keeps them. Between its steps the configuration may change, the
cache may be cleared and others may fill or empty cells; what the run does from there on depends on
what it has read. So the limit that the checker gets, the column from which lines are marked and the
number of diagnostics that are published all come from the same settings.

* `allProblems` — what a report says, without a cap.
* `Station`, `stationsBy`, `itinerary` — what a run goes through, in order.
* `route`, `Passed`, `Along` — the itinerary of a run, by its phase.

Results:

* `getElem?_diagnosticsOf`: what becomes of each problem of a report.
* `Moves.stationsBy_other`: the steps of others add nothing to an itinerary.
* `Passed.advance`, `along_of_session`: the phase of a run says where it has been.
* `Along.on_route`: a run goes one way with its settings.
* `published_from_snapshot`: what a run publishes comes from one lookup, one start of the checker
  and one report.
-/

namespace LineLint

/-- What a report says, without a cap. -/
def allProblems (report : String) : List Problem :=
  (Text.lines report.toList).filterMap Problem.parse?

namespace Server

/-- A station of a run. -/
inductive Station where
  /-- It claims the source of its settings. -/
  | claims (lookup : Lookup)
  /-- The source, a cell or the global value, gives it its settings. -/
  | resolves (cell : Option ℕ) (settings : Settings)
  /-- It starts the checker. -/
  | checks (path : Bytes) (maxLength : UInt32)
  /-- The checker returns. -/
  | returns (result : Except CheckerError String)
  /-- It publishes diagnostics. -/
  | publishes (uri : Uri) (found : List Diagnostic)

/-- The station at which a run arrives inside the server by a step of its own. -/
def arrival (r : ℕ) (m : Moment Server Action Effect) : Option Station :=
  if m.action.run? = some r then
    match m.before.runs[r]? with
    | none => none
    | some ⟨t, p⟩ =>
      match m.action, p with
      | .start _, .spawned =>
        if m.before.documents.isOpen t.uri then some (.claims (m.before.cache.lookup t.uri).2)
        else none
      | .ask _, .claimed ⟨_, none⟩ => some (.resolves none m.before.cache.global)
      | .proceed _, .inLine c => (m.before.cache.cell c).value.map (.resolves (some c))
      | .answered _ answer, .fetching c => some (.resolves (some c) (Settings.resolved answer))
      | .returned _ result, _ => some (.returns result)
      | _, _ => none
  else none

/-- The station of a run that is seen outside: the checker is started for it, or it publishes. -/
def sighting (r : ℕ) (a : Action) : Effect → Option Station
  | .check i path maxLength => if i = r then some (.checks path maxLength) else none
  | .publish u found => if a.run? = some r then some (.publishes u found) else none
  | _ => none

/-- The stations that a step adds to the itinerary of a run. -/
def stationsBy (r : ℕ) (m : Moment Server Action Effect) : List Station :=
  (arrival r m).toList ++ m.effects.filterMap (sighting r m.action)

/-- The stations of a run, in order. -/
def itinerary (r : ℕ) (past : List (Moment Server Action Effect)) : List Station :=
  past.flatMap (stationsBy r)

variable {past : List (Moment Server Action Effect)} {m : Moment Server Action Effect}
  {s s' : Server} {a : Action} {effects : List Effect} {perResource registers : Bool}
  {r i : ℕ} {t : Ticket} {p : Phase} {settings : Settings} {report : String} {u : Uri}
  {found : List Diagnostic}

@[simp]
theorem itinerary_concat : itinerary r (past ++ [m]) = itinerary r past ++ stationsBy r m := by
  rw [itinerary, List.flatMap_append, List.flatMap_singleton]
  rfl

/-! ## Reports -/

/-- The problems that fit under the cap are marked in order, one by one. -/
theorem getElem?_diagnosticsOf (settings : Settings) (report : String) (i : ℕ) :
    (diagnosticsOf settings report)[i]? =
      if i < settings.maxProblems.toNat then
        ((allProblems report)[i]?).map (Diagnostic.ofProblem settings.maxLength)
      else none := by
  show (((allProblems report).take settings.maxProblems.toNat).map _)[i]? = _
  rw [List.getElem?_map, List.getElem?_take]
  split_ifs <;> rfl

theorem length_diagnosticsOf_le (settings : Settings) (report : String) :
    (diagnosticsOf settings report).length ≤ settings.maxProblems.toNat := by
  show (((allProblems report).take settings.maxProblems.toNat).map _).length ≤ _
  rw [List.length_map, List.length_take]
  omega

/-! ## The steps of others -/

/-- The steps of others add nothing to an itinerary: the checker is started for a run by its own
step alone. -/
theorem Moves.stationsBy_other (h : Moves s a s' effects) (ha : a.run? ≠ some r) :
    stationsBy r ⟨s, a, effects, s'⟩ = [] := by
  have hpublish : ∀ u found, sighting r a (.publish u found) = none := fun _ _ => if_neg ha
  have harrival : arrival r ⟨s, a, effects, s'⟩ = none := if_neg ha
  rw [stationsBy, harrival]
  show effects.filterMap (sighting r a) = []
  rw [List.filterMap_eq_nil_iff]
  intro effect heffect
  cases effect with
  | publish u found => exact hpublish u found
  | check i path maxLength =>
    obtain ⟨hown, -⟩ := h.check_cases heffect
    subst hown
    exact if_neg fun hir => ha (congrArg some hir)
  | _ => rfl

/-! ## The itinerary of a run by its phase -/

/-- The way of a run with these settings up to what the checker returns. -/
def route (t : Ticket) (lookup : Lookup) (settings : Settings)
    (result : Except CheckerError String) : List Station :=
  [.claims lookup, .resolves lookup.cell settings, .checks t.path settings.maxLength,
    .returns result]

/-- The itinerary of a run, by its phase. The settings that it has are those to which its lookup has
resolved. A run that is over has been nowhere, or has gone the whole way, and may have published
what the report says under these settings. -/
def Passed (l : List Station) (t : Ticket) : Phase → Prop
  | .spawned => l = []
  | .claimed lookup => lookup.uri = t.uri ∧ l = [.claims lookup]
  | .inLine c => l = [.claims ⟨t.uri, some c⟩]
  | .fetching c => l = [.claims ⟨t.uri, some c⟩]
  | .settled settings =>
    ∃ lookup : Lookup, lookup.uri = t.uri ∧ l = [.claims lookup, .resolves lookup.cell settings]
  | .checking settings => ∃ lookup : Lookup, lookup.uri = t.uri ∧
      l = [.claims lookup, .resolves lookup.cell settings, .checks t.path settings.maxLength]
  | .checked settings result =>
    ∃ lookup : Lookup, lookup.uri = t.uri ∧ l = route t lookup settings result
  | .finished => l = [] ∨ ∃ (lookup : Lookup) (settings : Settings)
      (result : Except CheckerError String), lookup.uri = t.uri ∧
        (l = route t lookup settings result ∨ ∃ report, result = .ok report ∧
          l = route t lookup settings result ++
            [.publishes t.uri (diagnosticsOf settings report)])

/-- The itinerary of a run that may not be there yet. -/
def Along (l : List Station) : Option Run → Prop
  | none => l = []
  | some run => Passed l run.ticket run.phase

/-- A step of a run adds its station. -/
theorem Passed.advance {q : Phase} (h : Passed (itinerary r past) t p)
    (hr : s.runs[r]? = some ⟨t, p⟩) (step : Advance s s' r t a p q effects) :
    Passed (itinerary r (past ++ [⟨s, a, effects, s'⟩])) t q := by
  rw [itinerary_concat]
  have hnotes : ∀ (a : Action) (notes : List Event),
      (notes.map Effect.log).filterMap (sighting r a) = [] := by
    intro a notes
    rw [List.filterMap_map, List.filterMap_eq_nil_iff]
    exact fun _ _ => rfl
  cases step with
  | startClosed ho =>
    refine Or.inl ?_
    rw [show itinerary r past = [] from h]
    simp [stationsBy, arrival, hr, ho, sighting]
  | startOpen ho =>
    refine ⟨Cache.lookup_uri s.cache t.uri, ?_⟩
    rw [show itinerary r past = [] from h]
    simp [stationsBy, arrival, hr, ho, Action.run?]
  | askGlobal u =>
    refine ⟨_, h.1, ?_⟩
    rw [h.2]
    simp [stationsBy, arrival, hr, Action.run?]
  | askCell u c =>
    obtain ⟨huri, hl⟩ := h
    dsimp only at huri
    subst huri
    show _ = _
    rw [hl]
    simp [stationsBy, arrival, hr]
  | proceedReady c settings hv =>
    refine ⟨⟨t.uri, some c⟩, rfl, ?_⟩
    rw [show itinerary r past = _ from h]
    simp [stationsBy, arrival, hr, Action.run?, hv]
  | proceedAsk c hv =>
    show _ = _
    rw [show itinerary r past = _ from h]
    simp [stationsBy, arrival, hr, sighting, hv]
  | answered c answer notes =>
    refine ⟨⟨t.uri, some c⟩, rfl, ?_⟩
    rw [show itinerary r past = _ from h]
    simp [stationsBy, arrival, hr, Action.run?, hnotes]
  | check settings =>
    obtain ⟨lookup, huri, hl⟩ := h
    refine ⟨lookup, huri, ?_⟩
    rw [hl]
    simp [stationsBy, arrival, hr, sighting]
  | returned settings result notes =>
    obtain ⟨lookup, huri, hl⟩ := h
    refine ⟨lookup, huri, ?_⟩
    rw [hl]
    simp [stationsBy, arrival, hr, Action.run?, hnotes, route]
  | finishPublishes settings report =>
    obtain ⟨lookup, huri, hl⟩ := h
    refine Or.inr ⟨lookup, settings, _, huri, Or.inr ⟨report, rfl, ?_⟩⟩
    rw [hl]
    simp [stationsBy, arrival, hr, Action.run?, List.filterMap_cons, sighting]
  | finishReports settings e =>
    obtain ⟨lookup, huri, hl⟩ := h
    refine Or.inr ⟨lookup, settings, .error e, huri, Or.inl ?_⟩
    rw [hl]
    simp [stationsBy, arrival, hr, sighting]
  | finishDiscards settings result =>
    obtain ⟨lookup, huri, hl⟩ := h
    refine Or.inr ⟨lookup, settings, result, huri, Or.inl ?_⟩
    rw [hl]
    simp [stationsBy, arrival, hr, sighting]

/-- One step keeps the itinerary of a run in line with its phase. -/
theorem Along.step (h : Along (itinerary r past) s.runs[r]?) (hm : Moves s a s' effects) :
    Along (itinerary r (past ++ [⟨s, a, effects, s'⟩])) s'.runs[r]? := by
  by_cases ha : a.run? = some r
  · obtain ⟨t, p, q, hrun, hafter, step⟩ := hm.advance ha
    rw [hrun] at h
    rw [hafter]
    exact Passed.advance h hrun step
  · rw [itinerary_concat, hm.stationsBy_other ha, List.append_nil]
    rcases hm.run_other ha with hsame | ⟨hnone, t, hnew⟩
    · rw [hsame]
      exact h
    · rw [hnone] at h
      rw [hnew]
      exact h

/-- The phase of a run says where it has been. -/
theorem along_of_session (h : Session perResource registers past s) (r : ℕ) :
    Along (itinerary r past) s.runs[r]? := by
  induction h with
  | nil => rfl
  | snoc _ hs ih => exact ih.step (moves_of_step hs)

/-! ## What is published -/

/-- A run that has begun goes one way with its settings. Only when it is over has it published. -/
theorem Along.on_route {o : Option Run} {l : List Station} (h : Along l o) :
    l = [] ∨ ∃ t p lookup settings result, o = some ⟨t, p⟩ ∧ lookup.uri = t.uri ∧
      (l <+: route t lookup settings result ∨ p = .finished ∧ ∃ report, result = .ok report ∧
        l = route t lookup settings result ++
          [.publishes t.uri (diagnosticsOf settings report)]) := by
  cases o with
  | none => exact Or.inl h
  | some run =>
    obtain ⟨t, p⟩ := run
    -- before a run has settings, any settings will do
    have hclaims : ∀ lookup : Lookup, [.claims lookup] <+: route t lookup .standard (.ok "") :=
      fun lookup => ⟨_, rfl⟩
    cases p with
    | spawned => exact Or.inl h
    | claimed lookup =>
      obtain ⟨huri, rfl⟩ := h
      exact Or.inr ⟨t, _, lookup, _, _, rfl, huri, Or.inl (hclaims lookup)⟩
    | inLine c =>
      obtain rfl : l = _ := h
      exact Or.inr ⟨t, _, ⟨t.uri, some c⟩, _, _, rfl, rfl, Or.inl (hclaims _)⟩
    | fetching c =>
      obtain rfl : l = _ := h
      exact Or.inr ⟨t, _, ⟨t.uri, some c⟩, _, _, rfl, rfl, Or.inl (hclaims _)⟩
    | settled settings =>
      obtain ⟨lookup, huri, rfl⟩ := h
      exact Or.inr ⟨t, _, lookup, settings, .ok "", rfl, huri, Or.inl ⟨_, rfl⟩⟩
    | checking settings =>
      obtain ⟨lookup, huri, rfl⟩ := h
      exact Or.inr ⟨t, _, lookup, settings, .ok "", rfl, huri, Or.inl ⟨_, rfl⟩⟩
    | checked settings result =>
      obtain ⟨lookup, huri, rfl⟩ := h
      exact Or.inr ⟨t, _, lookup, settings, result, rfl, huri, Or.inl (List.prefix_refl _)⟩
    | finished =>
      rcases h with rfl | ⟨lookup, settings, result, huri, rfl | ⟨report, rfl, rfl⟩⟩
      · exact Or.inl rfl
      · exact Or.inr ⟨t, _, lookup, settings, result, rfl, huri, Or.inl (List.prefix_refl _)⟩
      · exact Or.inr ⟨t, _, lookup, settings, _, rfl, huri, Or.inr ⟨rfl, report, rfl, rfl⟩⟩

/-- A run that has published has gone the whole way, and published what the report says. -/
theorem Along.of_published {o : Option Run} {l : List Station} (h : Along l o)
    (hp : .publishes u found ∈ l) :
    ∃ t lookup settings report, o = some ⟨t, .finished⟩ ∧ t.uri = u ∧ lookup.uri = u ∧
      found = diagnosticsOf settings report ∧
      l = route t lookup settings (.ok report) ++ [.publishes u found] := by
  rcases h.on_route with
    rfl | ⟨t, p, lookup, settings, result, ho, huri, hl | ⟨rfl, report, rfl, rfl⟩⟩
  · cases hp
  · have hnone := hl.mem hp
    simp [route] at hnone
  · obtain ⟨rfl, rfl⟩ : u = t.uri ∧ found = diagnosticsOf settings report := by
      simpa [route] using hp
    exact ⟨t, lookup, settings, report, ho, rfl, huri, rfl, rfl⟩

/-- **What is published comes from one snapshot of the settings.** However the steps of handlers and
runs interleave, when a run publishes, there are settings to which its own lookup has resolved,
once, and with which everything else is done: it has started the checker once, on the file of its
ticket with the limit of these settings; and of the report that this start has returned, it has
published the problems in order, as many as the settings allow, each as a warning from the limit to
the end of its line. -/
theorem published_from_snapshot (h : Session perResource registers past s) (hm : m ∈ past)
    (hr : m.action.run? = some r) (hp : .publish u found ∈ m.effects) :
    ∃ t lookup settings report, s.runs[r]? = some ⟨t, .finished⟩ ∧ t.uri = u ∧ lookup.uri = u ∧
      itinerary r past = [.claims lookup, .resolves lookup.cell settings,
        .checks t.path settings.maxLength, .returns (.ok report), .publishes u found] ∧
      found = ((allProblems report).take settings.maxProblems.toNat).map (fun problem =>
        { start := ⟨problem.line, settings.maxLength⟩, stop := ⟨problem.line, 4294967295⟩,
          severity := .warning, source := "lll", message := problem.message }) ∧
      found.length ≤ settings.maxProblems.toNat ∧
      ∀ i < settings.maxProblems.toNat, found[i]? =
        ((allProblems report)[i]?).map (Diagnostic.ofProblem settings.maxLength) := by
  have hstation : .publishes u found ∈ itinerary r past := by
    refine List.mem_flatMap.mpr ⟨m, hm, List.mem_append_right _ ?_⟩
    exact List.mem_filterMap.mpr ⟨_, hp, if_pos hr⟩
  obtain ⟨t, lookup, settings, report, hrun, ht, hlookup, rfl, hroute⟩ :=
    (along_of_session h r).of_published hstation
  refine ⟨t, lookup, settings, report, hrun, ht, hlookup, hroute, rfl,
    length_diagnosticsOf_le settings report, fun i hi => ?_⟩
  rw [getElem?_diagnosticsOf, if_pos hi]

/-- While a run waits for its settings, the configuration begins to change, and it is taken over
while the checker runs. The report has two problems, of which one may be shown. -/
def unsettled : List (Moment Server Action Effect) × Server :=
  replay step (initial.introduced true false)
    [.didOpen Documents.sampleFile, .start 0, .ask 0, .proceed 0, .changeBegins .null,
      .answered 0 (.ok ⟨60, 1⟩), .check 0, .changeApplies 0,
      .returned 0 (.ok "/a:1: long\nnote\n/a:2: longer"), .finish 0, .changeRevalidates 0]

theorem published_from_snapshot_unsettled :
    ∃ settings report found, (∃ m ∈ unsettled.1, m.action.run? = some 0 ∧
      .publish Documents.sampleFile found ∈ m.effects) ∧
      itinerary 0 unsettled.1 = [.claims ⟨Documents.sampleFile, some 0⟩,
        .resolves (some 0) settings, .checks (textBytes "/a") settings.maxLength,
        .returns (.ok report), .publishes Documents.sampleFile found] ∧
      settings = ⟨60, 1⟩ ∧ (allProblems report).length = 2 ∧
      found = [⟨⟨0, 60⟩, ⟨0, 4294967295⟩, .warning, "lll", "long"⟩] := by
  have h : Session true false unsettled.1 unsettled.2 := replay_trace _ _ _
  obtain ⟨m, hm, hr, hp⟩ : ∃ m ∈ unsettled.1, m.action.run? = some 0 ∧
      .publish Documents.sampleFile (diagnosticsOf ⟨60, 1⟩ "/a:1: long\nnote\n/a:2: longer") ∈
        m.effects :=
    ⟨_, List.mem_of_getElem? (i := 9) rfl, rfl, List.mem_cons_of_mem _ (List.mem_singleton.mpr rfl)⟩
  obtain ⟨t, lookup, settings, report, hrun, -, -, hroute, -⟩ :=
    published_from_snapshot h hm hr hp
  have hknown : itinerary 0 unsettled.1 = route ⟨Documents.sampleFile, textBytes "/a", 1⟩
      ⟨Documents.sampleFile, some 0⟩ ⟨60, 1⟩ (.ok "/a:1: long\nnote\n/a:2: longer") ++
        [.publishes Documents.sampleFile _] := rfl
  have hsame := hknown.symm.trans hroute
  cases hrun
  cases hsame
  exact ⟨_, _, _, ⟨m, hm, hr, hp⟩, hroute, rfl, rfl, rfl⟩

end Server

end LineLint
