import LineLint.Proofs.Server.Runs

/-!
# What a run does outside

A run starts the checker, and at its end it may tell the editor one thing: the diagnostics of its
document, or that the checker has failed. Whether it tells anything is decided at the very end, by
its ticket, and a failure touches nothing but the wait of its own document.

* `Account`, `account` — what a run has done: how it has begun, what it has started, got, and sent.
* `Ending`, `verdict` — how a run ends, and what it then tells the editor.
* `Course` — the account of a run, by its phase.
* `OvertakenAt` — a run loses its right to report.
* `Conduct`, `Contained` — what holds of every run, and of every failure.

Results:

* `Course.advance`, `course_of_session`: the phase of a run says all that it has done.
* `not_current_of_overtakenAt`: nobody waits for a run that was overtaken.
* `conduct_of_session`: a run reports at most once, and only if it was not overtaken.
* `finish_contained`: a failure changes nothing but the wait of its document.
* `runs_report_once`: both, for every reachable state.
-/

namespace LineLint

/-- Whether an effect is a notification to the editor. -/
def Effect.isNotification : Effect → Bool
  | .publish _ _ => true
  | .message _ _ => true
  | _ => false

/-- Whether an effect is a start of the checker. -/
def Effect.isCheck : Effect → Bool
  | .check _ _ _ => true
  | _ => false

namespace Server

/-- How a run ends: its settings, what the checker has returned, and whether its ticket is accepted.
-/
structure Ending where
  settings : Settings
  result : Except CheckerError String
  accepted : Bool

/-- What a run tells the editor at its end. -/
def verdict (t : Ticket) : Ending → List Effect
  | ⟨settings, .ok report, true⟩ => [.publish t.uri (diagnosticsOf settings report)]
  | ⟨_, .error e, true⟩ =>
    [.message .error ("lll failed for " ++ t.uri.text ++ ": " ++ e.message)]
  | ⟨_, _, false⟩ => []

/-! ## What a trace says of a run -/

/-- What a run has done, in order: when it has begun, whether its document was open; the starts of
the checker; what the checker has returned; how it has ended; and what it has sent to the editor. -/
structure Account where
  begun : List Bool
  checks : List Effect
  results : List (Except CheckerError String)
  endings : List Ending
  sent : List Effect

/-- Nothing has been done. -/
def Account.empty : Account := ⟨[], [], [], [], []⟩

/-- Whether its document is open when a run begins. -/
def begunBy (r : ℕ) (m : Moment Server Action Effect) : Option Bool :=
  match m.action with
  | .start i =>
    if i = r then (m.before.runs[r]?).map fun run => m.before.documents.isOpen run.ticket.uri
    else none
  | _ => none

/-- What the checker returns to a run. -/
def resultBy (r : ℕ) (m : Moment Server Action Effect) : Option (Except CheckerError String) :=
  match m.action with
  | .returned i result => if i = r then some result else none
  | _ => none

/-- How a step ends a run. -/
def endedBy (r : ℕ) (m : Moment Server Action Effect) : Option Ending :=
  match m.action with
  | .finish i =>
    if i = r then
      match m.before.runs[r]? with
      | some ⟨t, .checked settings result⟩ =>
        some ⟨settings, result, (m.before.documents.finish t).2⟩
      | _ => none
    else none
  | _ => none

/-- What a run does outside by a step of its own. -/
def effectsBy (r : ℕ) (m : Moment Server Action Effect) : List Effect :=
  if m.action.run? = some r then m.effects else []

/-- What a run has done in a trace. -/
def account (r : ℕ) (past : List (Moment Server Action Effect)) : Account where
  begun := past.filterMap (begunBy r)
  checks := past.flatMap fun m => (effectsBy r m).filter Effect.isCheck
  results := past.filterMap (resultBy r)
  endings := past.filterMap (endedBy r)
  sent := past.flatMap fun m => (effectsBy r m).filter Effect.isNotification

variable {past : List (Moment Server Action Effect)} {m : Moment Server Action Effect}
  {s s' : Server} {a : Action} {effects : List Effect} {perResource registers : Bool}
  {r i j k : ℕ} {t : Ticket} {p q : Phase} {l : Account} {settings : Settings}

@[simp]
theorem account_concat : account r (past ++ [m]) =
    ⟨(account r past).begun ++ (begunBy r m).toList,
      (account r past).checks ++ (effectsBy r m).filter Effect.isCheck,
      (account r past).results ++ (resultBy r m).toList,
      (account r past).endings ++ (endedBy r m).toList,
      (account r past).sent ++ (effectsBy r m).filter Effect.isNotification⟩ := by
  simp only [account, filterMap_concat, List.flatMap_append, List.flatMap_singleton]

/-- The steps of others add nothing to the account of a run. -/
theorem account_other (h : m.action.run? ≠ some r) : account r (past ++ [m]) = account r past := by
  have heffects : effectsBy r m = [] := if_neg h
  have hbegun : begunBy r m = none := by
    unfold begunBy
    split
    · rename_i i ha
      rw [ha] at h
      exact if_neg fun hi => h (congrArg some hi)
    · rfl
  have hresult : resultBy r m = none := by
    unfold resultBy
    split
    · rename_i i result ha
      rw [ha] at h
      exact if_neg fun hi => h (congrArg some hi)
    · rfl
  have hended : endedBy r m = none := by
    unfold endedBy
    split
    · rename_i i ha
      rw [ha] at h
      exact if_neg fun hi => h (congrArg some hi)
    · rfl
  rw [account_concat, heffects, hbegun, hresult, hended]
  simp [account]

/-! ## The account of a run by its phase -/

/-- The account of a run, by its phase. A run that is over has found its document closed when it
began, or has come to its end and told the editor its verdict. -/
def Course (l : Account) (r : ℕ) (t : Ticket) : Phase → Prop
  | .spawned => l = Account.empty
  | .claimed _ => l = ⟨[true], [], [], [], []⟩
  | .inLine _ => l = ⟨[true], [], [], [], []⟩
  | .fetching _ => l = ⟨[true], [], [], [], []⟩
  | .settled _ => l = ⟨[true], [], [], [], []⟩
  | .checking settings => l = ⟨[true], [.check r t.path settings.maxLength], [], [], []⟩
  | .checked settings result =>
    l = ⟨[true], [.check r t.path settings.maxLength], [result], [], []⟩
  | .finished => l = ⟨[false], [], [], [], []⟩ ∨ ∃ ending : Ending,
      l = ⟨[true], [.check r t.path ending.settings.maxLength], [ending.result], [ending],
        verdict t ending⟩

/-- A run that is not there yet has done nothing. -/
theorem account_of_none (h : Session perResource registers past s) (hr : s.runs[r]? = none) :
    account r past = Account.empty := by
  induction h with
  | nil => rfl
  | @snoc past s s' a effects h hs ih =>
    have hm := moves_of_step hs
    have hbefore : s.runs[r]? = none := by
      cases hrun : s.runs[r]? with
      | none => rfl
      | some run =>
        obtain ⟨q, hq⟩ := hm.reshapes.run_kept hrun
        rw [hr] at hq
        cases hq
    rw [account_other, ih hbefore]
    intro ha
    obtain ⟨_, _, _, hrun, -⟩ := hm.advance ha
    rw [hbefore] at hrun
    cases hrun

/-- Events that are logged are neither starts of the checker nor notifications. -/
theorem filter_notes (notes : List Event) :
    (notes.map Effect.log).filter Effect.isCheck = [] ∧
      (notes.map Effect.log).filter Effect.isNotification = [] := by
  simp [Effect.isCheck, Effect.isNotification]

/-- A step of a run adds to its account what it does. -/
theorem Course.advance (h : Course (account r past) r t p) (hr : s.runs[r]? = some ⟨t, p⟩)
    (step : Advance s s' r t a p q effects) :
    Course (account r (past ++ [⟨s, a, effects, s'⟩])) r t q := by
  have hown : effectsBy r ⟨s, a, effects, s'⟩ = effects := by
    cases step <;> exact if_pos rfl
  rw [account_concat, hown]
  cases step with
  | startClosed ho =>
    refine Or.inl ?_
    rw [h]
    simp [Account.empty, begunBy, resultBy, endedBy, hr, ho, Effect.isCheck, Effect.isNotification]
  | startOpen ho =>
    rw [h]
    simp [Course, Account.empty, begunBy, resultBy, endedBy, hr, ho]
  | askGlobal =>
    rw [h]
    simp [Course, begunBy, resultBy, endedBy]
  | askCell =>
    rw [h]
    simp [Course, begunBy, resultBy, endedBy]
  | proceedReady =>
    rw [h]
    simp [Course, begunBy, resultBy, endedBy]
  | proceedAsk =>
    rw [h]
    simp [Course, begunBy, resultBy, endedBy, Effect.isCheck, Effect.isNotification]
  | answered _ _ notes =>
    rw [h, (filter_notes notes).1, (filter_notes notes).2]
    simp [Course, begunBy, resultBy, endedBy]
  | check =>
    rw [h]
    simp [Course, begunBy, resultBy, endedBy, Effect.isCheck, Effect.isNotification]
  | returned _ _ notes =>
    rw [h, (filter_notes notes).1, (filter_notes notes).2]
    simp [Course, begunBy, resultBy, endedBy]
  | finishPublishes settings report ha =>
    rw [h]
    refine Or.inr ⟨⟨settings, .ok report, true⟩, ?_⟩
    simp [begunBy, resultBy, endedBy, hr, ha, Effect.isCheck, Effect.isNotification, verdict]
  | finishReports settings e ha =>
    rw [h]
    refine Or.inr ⟨⟨settings, .error e, true⟩, ?_⟩
    simp [begunBy, resultBy, endedBy, hr, ha, Effect.isCheck, Effect.isNotification, verdict]
  | finishDiscards settings result ha =>
    rw [h]
    refine Or.inr ⟨⟨settings, result, false⟩, ?_⟩
    simp [begunBy, resultBy, endedBy, hr, ha, Effect.isCheck, Effect.isNotification, verdict]

/-- One step keeps the account of a run in line with its phase. -/
theorem Course.step (hcourse : ∀ t p, s.runs[r]? = some ⟨t, p⟩ → Course (account r past) r t p)
    (hnone : s.runs[r]? = none → account r past = Account.empty) (hm : Moves s a s' effects)
    (hr : s'.runs[r]? = some ⟨t, p⟩) :
    Course (account r (past ++ [⟨s, a, effects, s'⟩])) r t p := by
  obtain ⟨q, hrun, step⟩ | ⟨ha, hrun | ⟨hnew, rfl⟩⟩ := hm.run_after hr
  · exact Course.advance (hcourse t q hrun) hrun step
  · rw [account_other ha]
    exact hcourse t p hrun
  · rw [account_other ha]
    exact hnone hnew

/-- The phase of a run says all that it has done. -/
theorem course_of_session (h : Session perResource registers past s)
    (hr : s.runs[r]? = some ⟨t, p⟩) : Course (account r past) r t p := by
  induction h generalizing t p with
  | nil => cases hr
  | snoc h hs ih =>
    exact Course.step (fun _ _ => ih) (account_of_none h) (moves_of_step hs) hr

/-! ## Runs that are overtaken -/

/-- A run loses its right to report: its document is closed, or gets a new run. -/
def OvertakenAt (past : List (Moment Server Action Effect)) (k r : ℕ) (t : Ticket) : Prop :=
  HappensAt past k fun m => (∃ p, m.before.runs[r]? = some ⟨t, p⟩) ∧
    (m.action = .didClose t.uri ∨
      ∃ i run, m.before.runs.length ≤ i ∧ m.after.runs[i]? = some run ∧ run.ticket.uri = t.uri)

/-- A run comes to its end. -/
def FinishesAt (past : List (Moment Server Action Effect)) (k r : ℕ) : Prop :=
  HappensAt past k fun m => m.action = .finish r

/-- A run that was overtaken is still there, and nobody waits for it. -/
theorem not_current_of_overtakenAt (h : Session perResource registers past s)
    (hk : OvertakenAt past k r t) : (∃ p, s.runs[r]? = some ⟨t, p⟩) ∧ ¬Current s t := by
  induction h with
  | nil => exact absurd hk not_happensAt_nil
  | snoc h hs ih =>
    have hw := wellFormed_of_session h
    have hm := moves_of_step hs
    have hshift := shift_of_moves hw hm
    rcases happensAt_concat.mp hk with hk | ⟨-, ⟨p, hr⟩, hlost⟩
    · obtain ⟨⟨p, hr⟩, hover⟩ := ih hk
      have htok := (ticketed_of_session h r _ hr).1
      exact ⟨hm.reshapes.run_kept hr, fun hc => hover (hm.current_before hw htok hc)⟩
    · dsimp only at hr hlost
      refine ⟨hm.reshapes.run_kept hr, fun hc => ?_⟩
      rcases hlost with ha | ⟨i, ⟨t', p'⟩, hlen, hi, huri⟩
      · subst ha
        exact hm.not_current_didClose hc
      · obtain ⟨hwaits, hnew⟩ := hshift.run_new hi hlen
        have htok := (ticketed_of_session h r _ hr).1
        dsimp only at huri htok
        rw [huri] at hwaits
        have hsame := Option.some.inj (hwaits.symm.trans hc)
        omega

/-- Only a run for which the checker has returned comes to its end. -/
theorem Moves.checked_of_finish (h : Moves s (.finish r) s' effects) :
    ∃ t settings result, s.runs[r]? = some ⟨t, .checked settings result⟩ := by
  cases h with
  | finishPublishes _ t settings report hr => exact ⟨t, settings, _, hr⟩
  | finishReports _ t settings e hr => exact ⟨t, settings, _, hr⟩
  | finishDiscards _ t settings result hr => exact ⟨t, settings, _, hr⟩

/-- A run that was overtaken ends without being accepted. -/
theorem ending_of_overtakenAt (h : Session perResource registers past s)
    (hj : OvertakenAt past j r t) (hjk : j < k) (hk : FinishesAt past k r) :
    ∃ ending ∈ (account r past).endings, ending.accepted = false := by
  obtain ⟨m, hm, ha⟩ := hk
  obtain ⟨⟨p, hr⟩, hover⟩ :=
    not_current_of_overtakenAt (h.take_at hm) (happensAt_take.mpr ⟨hjk, hj⟩)
  have hrefused : (m.before.documents.finish t).2 = false := by
    cases hfin : (m.before.documents.finish t).2 with
    | false => rfl
    | true => exact absurd ((Documents.finish_accepts_iff _ t).mp hfin) hover
  have hmoves := moves_of_step (h.step_at hm)
  rw [ha] at hmoves
  obtain ⟨t', settings, result, hr'⟩ := hmoves.checked_of_finish
  have ht : t' = t := by
    rw [hr] at hr'
    cases hr'
    rfl
  subst ht
  have hended : endedBy r m = some ⟨settings, result, false⟩ := by
    simp [endedBy, ha, hr', hrefused]
  exact ⟨_, List.mem_filterMap.mpr ⟨m, List.mem_of_getElem? hm, hended⟩, rfl⟩

/-! ## Every run, and every failure -/

/-- What holds of a run with a ticket after a trace. -/
structure Conduct (past : List (Moment Server Action Effect)) (r : ℕ) (t : Ticket) (p : Phase) :
    Prop where
  /-- It sends at most one notification. -/
  sent : (account r past).sent.length ≤ 1
  /-- It starts the checker at most once, on the file of its ticket. -/
  checked : (account r past).checks = [] ∨
    ∃ maxLength, (account r past).checks = [.check r t.path maxLength]
  /-- Once it is over, it has begun once. If its document was open then, it has started the checker
  and come to one end, with what the checker has returned; otherwise it has done nothing. -/
  finished : p = .finished →
    ((account r past).begun = [true] ∧ (account r past).checks.length = 1 ∧
      ∃ ending, (account r past).endings = [ending] ∧
        (account r past).results = [ending.result]) ∨
    (account r past).begun = [false] ∧ (account r past).checks = [] ∧ (account r past).sent = []
  /-- It publishes exactly if its ticket is accepted and the checker has succeeded, and then the
  diagnostics of its document. -/
  published : ∀ u found, .publish u found ∈ (account r past).sent ↔ u = t.uri ∧
    ∃ settings report, (account r past).endings = [⟨settings, .ok report, true⟩] ∧
      found = diagnosticsOf settings report
  /-- It sends a message exactly if its ticket is accepted and the checker has failed, and then an
  error that names its document. -/
  failed : ∀ kind text, .message kind text ∈ (account r past).sent ↔ kind = .error ∧
    ∃ settings e, (account r past).endings = [⟨settings, .error e, true⟩] ∧
      text = "lll failed for " ++ t.uri.text ++ ": " ++ e.message
  /-- Otherwise it sends nothing. -/
  silent : (∀ settings result, (account r past).endings ≠ [⟨settings, result, true⟩]) →
    (account r past).sent = []
  /-- It sends nothing if it was overtaken before its end. -/
  overtaken : ∀ j k, OvertakenAt past j r t → j < k → FinishesAt past k r →
    (account r past).sent = []

/-- What a run does that comes to its end. -/
theorem conduct_of_ending {ending : Ending} (hover : ∀ j k, OvertakenAt past j r t → j < k →
      FinishesAt past k r → ∃ ending ∈ (account r past).endings, ending.accepted = false)
    (h : account r past = ⟨[true], [.check r t.path ending.settings.maxLength], [ending.result],
      [ending], verdict t ending⟩) : Conduct past r t .finished := by
  obtain ⟨settings, result, accepted⟩ := ending
  constructor
  all_goals rw [h]
  · cases accepted <;> cases result <;> simp [verdict]
  · exact Or.inr ⟨_, rfl⟩
  · exact fun _ => Or.inl ⟨rfl, rfl, _, rfl, rfl⟩
  · cases accepted <;> cases result <;> simp [verdict]
  · cases accepted <;> cases result <;> simp [verdict]
  · intro hnone
    cases accepted with
    | false => cases result <;> rfl
    | true => exact absurd rfl (hnone settings result)
  · intro j k hj hjk hk
    obtain ⟨other, hmem, hrefused⟩ := hover j k hj hjk hk
    rw [h, List.mem_singleton] at hmem
    rw [hmem] at hrefused
    dsimp only at hrefused
    subst hrefused
    cases result <;> rfl

/-- What a run does that has not come to its end, or never will. -/
theorem conduct_of_silent (hsent : (account r past).sent = [])
    (hendings : (account r past).endings = [])
    (hchecked : (account r past).checks = [] ∨
      ∃ maxLength, (account r past).checks = [.check r t.path maxLength])
    (hfinished : p = .finished → (account r past).begun = [false] ∧ (account r past).checks = []) :
    Conduct past r t p where
  sent := by simp [hsent]
  checked := hchecked
  finished := fun hp => Or.inr ⟨(hfinished hp).1, (hfinished hp).2, hsent⟩
  published := by simp [hsent, hendings]
  failed := by simp [hsent, hendings]
  silent := fun _ => hsent
  overtaken := fun _ _ _ _ _ => hsent

/-- A run reports at most once, and only if it was not overtaken. -/
theorem conduct_of_session (h : Session perResource registers past s)
    (hr : s.runs[r]? = some ⟨t, p⟩) : Conduct past r t p := by
  have hcourse := course_of_session h hr
  -- a run that has not started the checker
  have hearly : ∀ {begun : List Bool}, account r past = ⟨begun, [], [], [], []⟩ →
      (p = .finished → begun = [false]) → Conduct past r t p := by
    intro begun hacc hfin
    exact conduct_of_silent (by rw [hacc]) (by rw [hacc]) (by simp [hacc])
      fun hp => by simp [hacc, hfin hp]
  cases p with
  | spawned => exact hearly hcourse nofun
  | claimed lookup => exact hearly hcourse nofun
  | inLine c => exact hearly hcourse nofun
  | fetching c => exact hearly hcourse nofun
  | settled settings => exact hearly hcourse nofun
  | checking settings =>
    have hacc : account r past = _ := hcourse
    exact conduct_of_silent (by rw [hacc]) (by rw [hacc]) (Or.inr ⟨_, by rw [hacc]⟩) nofun
  | checked settings result =>
    have hacc : account r past = _ := hcourse
    exact conduct_of_silent (by rw [hacc]) (by rw [hacc]) (Or.inr ⟨_, by rw [hacc]⟩) nofun
  | finished =>
    rcases hcourse with hacc | ⟨ending, hacc⟩
    · exact hearly hacc fun _ => rfl
    · exact conduct_of_ending (fun _ _ => ending_of_overtakenAt h) hacc

/-- What a step changes that reports the failure of a run: its document no longer waits. -/
structure Contained (past : List (Moment Server Action Effect)) (r : ℕ) (t : Ticket)
    (m : Moment Server Action Effect) : Prop where
  idle : m.after.documents.state t.uri = .idle
  path : (m.after.documents.get? t.uri).bind Document.path =
    (m.before.documents.get? t.uri).bind Document.path
  others : ∀ v, v ≠ t.uri → m.after.documents.get? v = m.before.documents.get? v
  lastToken : m.after.documents.lastToken = m.before.documents.lastToken
  cache : m.after.cache = m.before.cache
  changes : m.after.changes = m.before.changes
  runs : ∀ i, i ≠ r → m.after.runs[i]? = m.before.runs[i]?
  shown : ∀ v, shown v (past ++ [m]) = shown v past

/-- A failure is reported, and changes nothing but the wait of its document. -/
theorem finish_contained (past : List (Moment Server Action Effect)) {e : CheckerError}
    (hr : s.runs[r]? = some ⟨t, .checked settings (.error e)⟩)
    (ha : (s.documents.finish t).2 = true) :
    ∃ s' effects, s.step (.finish r) = some (s', effects) ∧
      effects = [.message .error ("lll failed for " ++ t.uri.text ++ ": " ++ e.message)] ∧
      Contained past r t ⟨s, .finish r, effects, s'⟩ := by
  have hget := Documents.get?_finish ha
  refine ⟨{ s with documents := (s.documents.finish t).1 }.setPhase r .finished, _, ?_, rfl, ?_⟩
  · show s.finish r = _
    simp [finish, hr, ha]
  · refine ⟨?_, ?_, ?_, Documents.lastToken_finish s.documents t, rfl, rfl, ?_, ?_⟩
    · have hopen := Documents.isOpen_of_pending? ((Documents.finish_accepts_iff _ t).mp ha)
      obtain ⟨doc, hd⟩ := Option.isSome_iff_exists.mp hopen
      show (s.documents.finish t).1.state t.uri = .idle
      simp [Documents.state, hget, hd]
    · show ((s.documents.finish t).1.get? t.uri).bind Document.path = _
      rw [hget, if_pos rfl]
      cases s.documents.get? t.uri <;> rfl
    · intro v hv
      show (s.documents.finish t).1.get? v = _
      rw [hget, if_neg hv]
    · intro i hi
      exact (runs_setPhase (s := { s with documents := _ }) hr i).trans (if_neg hi)
    · intro v
      rw [shown_concat]
      rfl

/-- **A run reports at most once, and a failure is contained.** However the steps of handlers and
runs interleave, every run starts the checker at most once and sends at most one notification, at
its end: the diagnostics of its document if its ticket is accepted and the checker has succeeded, an
error that names its document if its ticket is accepted and the checker has failed, and nothing
otherwise; a run that was overtaken sends nothing. A failed run whose ticket is accepted reports it,
its document waits no longer, and nothing else changes. -/
theorem runs_report_once (h : Session perResource registers past s) :
    (∀ r t p, s.runs[r]? = some ⟨t, p⟩ → Conduct past r t p) ∧
      ∀ r t settings e, s.runs[r]? = some ⟨t, .checked settings (.error e)⟩ →
        (s.documents.finish t).2 = true → ∃ s' effects, s.step (.finish r) = some (s', effects) ∧
          effects = [.message .error ("lll failed for " ++ t.uri.text ++ ": " ++ e.message)] ∧
          Contained past r t ⟨s, .finish r, effects, s'⟩ :=
  ⟨fun _ _ _ hr => conduct_of_session h hr, fun _ _ _ _ hr ha => finish_contained past hr ha⟩

/-- A document is opened and saved. The checker fails for both runs, and the first run, which was
overtaken, comes to its end. -/
def failing : List (Moment Server Action Effect) × Server :=
  replay step (initial.introduced false false)
    [.didOpen Documents.sampleFile, .start 0, .ask 0, .check 0, .didSave Documents.sampleFile,
      .start 1, .ask 1, .check 1, .returned 0 (.error (.timeout "lll" ⟨30, 0⟩)),
      .returned 1 (.error (.timeout "lll" ⟨30, 0⟩)), .finish 0]

theorem runs_report_once_failing :
    (account 0 failing.1).sent = [] ∧ (account 0 failing.1).checks.length = 1 ∧
      ∃ s', failing.2.step (.finish 1) = some (s', [.message .error
        "lll failed for file:///a: lll did not finish within 30s"]) ∧
        s'.documents.state Documents.sampleFile = .idle := by
  have h : Session false false failing.1 failing.2 := replay_trace _ _ _
  obtain ⟨hconduct, hcontained⟩ := runs_report_once h
  refine ⟨?_, rfl, ?_⟩
  · have hover : OvertakenAt failing.1 4 0 ⟨Documents.sampleFile, textBytes "/a", 1⟩ :=
      ⟨_, rfl, ⟨_, rfl⟩, Or.inr ⟨1, _, Nat.le_refl _, rfl, rfl⟩⟩
    exact (hconduct 0 _ _ rfl).overtaken 4 10 hover (by decide) ⟨_, rfl, rfl⟩
  · obtain ⟨s', effects, hs, rfl, hcontained⟩ := hcontained 1
      ⟨Documents.sampleFile, textBytes "/a", 2⟩ Settings.standard (.timeout "lll" ⟨30, 0⟩) rfl
      (by decide)
    have hmessage : "lll failed for " ++ Documents.sampleFile.text ++ ": " ++
        CheckerError.message (.timeout "lll" ⟨30, 0⟩) =
          "lll failed for file:///a: lll did not finish within 30s" := by decide
    exact ⟨s', hmessage ▸ hs, hcontained.idle⟩

end Server

end LineLint
