import LineLint.Proofs.Documents.Table
import LineLint.Proofs.Settings.Cache
import LineLint.Proofs.Trace
import LineLint.Server.Basic

/-!
# The steps of the server

Says once what each step can do: when it is possible, the state it leads to and its effects. Proofs
about the server go through the cases of `Moves` and never open the step functions again.

* `Server.Moves` — the steps, one case for each way they can go.
* `Server.Action.run?` — the run that takes a step.
* `Server.Advance` — a step of a run, seen from the run.
* `Server.Reshapes` — what a step does to the list of runs.
* `Session` — the traces of a server whose editor has introduced itself.

Results:

* `moves_of_step`, `step_of_moves`: the steps are the moves.
* `Moves.check_cases`, `Moves.fetch_cases`: who starts the checker, and who asks the editor.
* `Moves.reshapes`: how a move changes the list of runs.
* `Moves.run_other`, `Moves.advance`, `Moves.run_after`: a run is moved on by its own steps alone.
* `Moves.wellFormed`, `Moves.lastToken_le`: how a move changes the documents.
* `Moves.run_cases`, `ticketed_of_session`: where runs and their tickets come from.
-/

namespace LineLint

namespace Server

/-- New documents, and a run for each of some tickets. -/
def issued (s : Server) (documents : Documents) (tickets : List Ticket) : Server :=
  { s with documents, runs := s.runs ++ tickets.map fun t => ⟨t, .spawned⟩ }

/-- What a step can do: the action, the state it leads to and its effects. -/
inductive Moves (s : Server) : Action → Server → List Effect → Prop
  | didOpen (u : Uri) :
      Moves s (.didOpen u)
        (s.issued (s.documents.openDocument u).1 (s.documents.openDocument u).2.toList)
        (.message .log ("Document opened: " ++ u.text) ::
          if u.localPath.isNone then [.log (.noLocalPath u)] else [])
  | didSave (u : Uri) :
      Moves s (.didSave u)
        (s.issued (s.documents.request u).1 (s.documents.request u).2.toList)
        [.message .log ("Document saved: " ++ u.text)]
  | didClose (u : Uri) :
      Moves s (.didClose u)
        { s with documents := (s.documents.close u).1, cache := (s.cache.invalidate u).1 }
        ([.message .log ("Document closed: " ++ u.text)] ++
          (if (s.cache.invalidate u).2 then [.log (.entryInvalidated u)] else []) ++
          (if s.documents.isOpen u then [.publish u []] else []))
  | changeBegins (configuration : Json) :
      Moves s (.changeBegins configuration)
        { s with
          cache := s.cache.invalidateAll.1
          changes := s.changes ++ [⟨configuration, .cleared⟩] }
        [.message .log "Configuration changed", .log (.cacheCleared s.cache.invalidateAll.2)]
  | changePasses (k : ℕ) (configuration : Json)
      (hk : s.changes[k]? = some ⟨configuration, .cleared⟩) (hm : s.cache.perResource = true) :
      Moves s (.changeApplies k) (s.setChange k .applied) []
  | changeSets (k : ℕ) (configuration : Json)
      (hk : s.changes[k]? = some ⟨configuration, .cleared⟩) (hm : s.cache.perResource = false) :
      Moves s (.changeApplies k)
        { s.setChange k .applied with
          cache := s.cache.setGlobal (Settings.pushed configuration).1 }
        ((Settings.pushed configuration).2.map fun e => Effect.log (.badGlobal e)).toList
  | changeRevalidates (k : ℕ) (configuration : Json)
      (hk : s.changes[k]? = some ⟨configuration, .applied⟩) :
      Moves s (.changeRevalidates k)
        ((s.setChange k .done).issued s.documents.requestAll.1 s.documents.requestAll.2)
        [.log (.revalidating s.documents.requestAll.2.length)]
  | startClosed (r : ℕ) (t : Ticket) (hr : s.runs[r]? = some ⟨t, .spawned⟩)
      (ho : s.documents.isOpen t.uri = false) :
      Moves s (.start r) (s.setPhase r .finished) [.log (.closedBeforeStart t.uri)]
  | startOpen (r : ℕ) (t : Ticket) (hr : s.runs[r]? = some ⟨t, .spawned⟩)
      (ho : s.documents.isOpen t.uri = true) :
      Moves s (.start r)
        ({ s with cache := (s.cache.lookup t.uri).1 }.setPhase r
          (.claimed (s.cache.lookup t.uri).2)) []
  | askGlobal (r : ℕ) (t : Ticket) (u : Uri) (hr : s.runs[r]? = some ⟨t, .claimed ⟨u, none⟩⟩) :
      Moves s (.ask r) (s.setPhase r (.settled s.cache.global)) []
  | askCell (r : ℕ) (t : Ticket) (u : Uri) (c : ℕ)
      (hr : s.runs[r]? = some ⟨t, .claimed ⟨u, some c⟩⟩) :
      Moves s (.ask r) ({ s with cache := s.cache.join c r }.setPhase r (.inLine c)) []
  | proceedReady (r : ℕ) (t : Ticket) (c : ℕ) (settings : Settings)
      (hr : s.runs[r]? = some ⟨t, .inLine c⟩) (ht : s.cache.turn c r = .ready settings) :
      Moves s (.proceed r) (s.setPhase r (.settled settings)) []
  | proceedAsk (r : ℕ) (t : Ticket) (c : ℕ) (hr : s.runs[r]? = some ⟨t, .inLine c⟩)
      (ht : s.cache.turn c r = .ask) :
      Moves s (.proceed r) (s.setPhase r (.fetching c))
        [.log (.requesting t.uri), .fetch r t.uri]
  | answered (r : ℕ) (t : Ticket) (c : ℕ) (answer : Except SettingsError Settings)
      (hr : s.runs[r]? = some ⟨t, .fetching c⟩) :
      Moves s (.answered r answer)
        ({ s with cache := (s.cache.settle c answer).1 }.setPhase r
          (.settled (Settings.resolved answer)))
        (match answer.bind Settings.validated with
          | .ok _ => []
          | .error e => [.log (.fetchFailed t.uri e)])
  | check (r : ℕ) (t : Ticket) (settings : Settings)
      (hr : s.runs[r]? = some ⟨t, .settled settings⟩) :
      Moves s (.check r) (s.setPhase r (.checking settings))
        [.check r t.path settings.maxLength]
  | returned (r : ℕ) (t : Ticket) (settings : Settings) (result : Except CheckerError String)
      (hr : s.runs[r]? = some ⟨t, .checking settings⟩) :
      Moves s (.returned r result) (s.setPhase r (.checked settings result))
        (match result with
          | .ok _ => []
          | .error e => [.log (.checkerFailed t.uri e)])
  | finishPublishes (r : ℕ) (t : Ticket) (settings : Settings) (report : String)
      (hr : s.runs[r]? = some ⟨t, .checked settings (.ok report)⟩)
      (ha : (s.documents.finish t).2 = true) :
      Moves s (.finish r)
        ({ s with documents := (s.documents.finish t).1 }.setPhase r .finished)
        [.log (.publishing t.uri (diagnosticsOf settings report).length),
          .publish t.uri (diagnosticsOf settings report)]
  | finishReports (r : ℕ) (t : Ticket) (settings : Settings) (e : CheckerError)
      (hr : s.runs[r]? = some ⟨t, .checked settings (.error e)⟩)
      (ha : (s.documents.finish t).2 = true) :
      Moves s (.finish r)
        ({ s with documents := (s.documents.finish t).1 }.setPhase r .finished)
        [.message .error ("lll failed for " ++ t.uri.text ++ ": " ++ e.message)]
  | finishDiscards (r : ℕ) (t : Ticket) (settings : Settings) (result : Except CheckerError String)
      (hr : s.runs[r]? = some ⟨t, .checked settings result⟩)
      (ha : (s.documents.finish t).2 = false) :
      Moves s (.finish r) (s.setPhase r .finished)
        [.log (.discarded t.uri t.token (s.documents.state t.uri))]

variable {s s' : Server} {a : Action} {effects : List Effect}

/-! ## Every step is a move -/

theorem foldl_spawn (tickets : List Ticket) :
    ∀ s : Server, tickets.foldl spawn s = s.issued s.documents tickets := by
  induction tickets with
  | nil => intro s; simp [issued]
  | cons t tickets ih =>
    intro s
    rw [List.foldl_cons, ih]
    simp [issued, spawn]

theorem elim_spawn (s : Server) (ticket : Option Ticket) :
    ticket.elim s s.spawn = s.issued s.documents ticket.toList := by
  cases ticket with
  | none => simp [issued]
  | some t => rfl

theorem didOpen_moves (s : Server) (u : Uri) :
    Moves s (.didOpen u) (s.didOpen u).1 (s.didOpen u).2 := by
  have h := Moves.didOpen (s := s) u
  have hspawn := elim_spawn { s with documents := (s.documents.openDocument u).1 }
    (s.documents.openDocument u).2
  rwa [show s.issued (s.documents.openDocument u).1 (s.documents.openDocument u).2.toList =
    (s.didOpen u).1 from hspawn.symm] at h

theorem didSave_moves (s : Server) (u : Uri) :
    Moves s (.didSave u) (s.didSave u).1 (s.didSave u).2 := by
  have h := Moves.didSave (s := s) u
  have hspawn := elim_spawn { s with documents := (s.documents.request u).1 }
    (s.documents.request u).2
  rwa [show s.issued (s.documents.request u).1 (s.documents.request u).2.toList =
    (s.didSave u).1 from hspawn.symm] at h

theorem changeApplies_moves {k : ℕ} (h : s.changeApplies k = some (s', effects)) :
    Moves s (.changeApplies k) s' effects := by
  unfold changeApplies at h
  split at h
  · rename_i configuration hk
    dsimp only at h
    split_ifs at h with hm
    · cases h
      exact .changePasses k configuration hk hm
    · cases h
      exact .changeSets k configuration hk (by simpa [setChange] using hm)
  · cases h

theorem changeRevalidates_moves {k : ℕ} (h : s.changeRevalidates k = some (s', effects)) :
    Moves s (.changeRevalidates k) s' effects := by
  unfold changeRevalidates at h
  split at h
  · rename_i configuration hk
    dsimp only at h
    rw [foldl_spawn] at h
    cases h
    exact .changeRevalidates k configuration hk
  · cases h

theorem start_moves {r : ℕ} (h : s.start r = some (s', effects)) :
    Moves s (.start r) s' effects := by
  unfold start at h
  split at h
  · rename_i t hr
    dsimp only at h
    split_ifs at h with ho
    · cases h
      exact .startOpen r t hr ho
    · cases h
      exact .startClosed r t hr (by simpa using ho)
  · cases h

theorem ask_moves {r : ℕ} (h : s.ask r = some (s', effects)) : Moves s (.ask r) s' effects := by
  unfold ask at h
  split at h
  · rename_i t lookup hr
    obtain ⟨u, cell⟩ := lookup
    cases cell with
    | none => cases h; exact .askGlobal r t u hr
    | some c => cases h; exact .askCell r t u c hr
  · cases h

theorem proceed_moves {r : ℕ} (h : s.proceed r = some (s', effects)) :
    Moves s (.proceed r) s' effects := by
  unfold proceed at h
  split at h
  · rename_i t c hr
    split at h
    · rename_i settings ht
      cases h
      exact .proceedReady r t c settings hr ht
    · rename_i ht
      cases h
      exact .proceedAsk r t c hr ht
    · cases h
  · cases h

theorem answered_moves {r : ℕ} {answer : Except SettingsError Settings}
    (h : s.answered r answer = some (s', effects)) : Moves s (.answered r answer) s' effects := by
  unfold answered at h
  split at h
  · rename_i t c hr
    have hm := Moves.answered r t c answer hr
    unfold Settings.resolved at hm
    unfold Cache.settle at h hm
    cases hv : answer.bind Settings.validated with
    | ok settings =>
      simp only [hv] at h hm
      cases h
      exact hm
    | error e =>
      simp only [hv] at h hm
      cases h
      exact hm
  · cases h

theorem returned_moves {r : ℕ} {result : Except CheckerError String}
    (h : s.returned r result = some (s', effects)) : Moves s (.returned r result) s' effects := by
  unfold returned at h
  split at h
  · rename_i t settings hr
    cases h
    exact .returned r t settings result hr
  · cases h

theorem finish_moves {r : ℕ} (h : s.finish r = some (s', effects)) :
    Moves s (.finish r) s' effects := by
  unfold finish at h
  split at h
  · rename_i t settings result hr
    dsimp only at h
    split_ifs at h with ha
    · cases result with
      | ok report => cases h; exact .finishPublishes r t settings report hr ha
      | error e => cases h; exact .finishReports r t settings e hr ha
    · have ha' : (s.documents.finish t).2 = false := by simpa using ha
      rw [Documents.finish_refused ha'] at h
      cases h
      exact .finishDiscards r t settings result hr ha'
  · cases h

/-- Every step is a move. -/
theorem moves_of_step (h : s.step a = some (s', effects)) : Moves s a s' effects := by
  cases a with
  | didOpen u => cases h; exact didOpen_moves s u
  | didSave u => cases h; exact didSave_moves s u
  | didClose u => cases h; exact .didClose u
  | changeBegins configuration => cases h; exact .changeBegins configuration
  | changeApplies k => exact changeApplies_moves h
  | changeRevalidates k => exact changeRevalidates_moves h
  | start r => exact start_moves h
  | ask r => exact ask_moves h
  | proceed r => exact proceed_moves h
  | answered r answer => exact answered_moves h
  | check r =>
    change s.check r = _ at h
    unfold check at h
    split at h
    · rename_i t settings hr
      cases h
      exact .check r t settings hr
    · cases h
  | returned r result => exact returned_moves h
  | finish r => exact finish_moves h

/-- Every move is a step. -/
theorem step_of_moves (h : Moves s a s' effects) : s.step a = some (s', effects) := by
  cases h with
  | didOpen u => exact congrArg some (Prod.ext (elim_spawn _ _) rfl)
  | didSave u => exact congrArg some (Prod.ext (elim_spawn _ _) rfl)
  | didClose u => rfl
  | changeBegins configuration => rfl
  | changePasses k configuration hk hm =>
    show s.changeApplies k = _
    simp [changeApplies, hk, setChange, hm]
  | changeSets k configuration hk hm =>
    show s.changeApplies k = _
    simp [changeApplies, hk, setChange, hm]
  | changeRevalidates k configuration hk =>
    show s.changeRevalidates k = _
    simp only [changeRevalidates, hk, foldl_spawn]
    rfl
  | startClosed r t hr ho =>
    show s.start r = _
    simp [start, hr, ho]
  | startOpen r t hr ho =>
    show s.start r = _
    simp [start, hr, ho]
  | askGlobal r t u hr =>
    show s.ask r = _
    simp [ask, hr]
  | askCell r t u c hr =>
    show s.ask r = _
    simp [ask, hr]
  | proceedReady r t c settings hr ht =>
    show s.proceed r = _
    simp [proceed, hr, ht]
  | proceedAsk r t c hr ht =>
    show s.proceed r = _
    simp [proceed, hr, ht]
  | answered r t c answer hr =>
    show s.answered r answer = _
    unfold Server.answered Settings.resolved Cache.settle
    rw [hr]
    cases hv : answer.bind Settings.validated <;> rfl
  | check r t settings hr =>
    show s.check r = _
    simp [check, hr]
  | returned r t settings result hr =>
    show s.returned r result = _
    cases result <;> simp [Server.returned, hr]
  | finishPublishes r t settings report hr ha =>
    show s.finish r = _
    simp [finish, hr, ha]
  | finishReports r t settings e hr ha =>
    show s.finish r = _
    simp [finish, hr, ha]
  | finishDiscards r t settings result hr ha =>
    show s.finish r = _
    simp [finish, hr, ha, Documents.finish_refused ha]

/-! ## What goes out -/

/-- The checker is started for a run that has its settings, by its own step. -/
theorem Moves.check_cases (h : Moves s a s' effects) {r : ℕ} {path : Bytes} {maxLength : UInt32}
    (he : .check r path maxLength ∈ effects) : a = .check r ∧ ∃ t settings,
      s.runs[r]? = some ⟨t, .settled settings⟩ ∧ path = t.path ∧
        maxLength = settings.maxLength := by
  cases h with
  | check i t settings hi =>
    obtain ⟨rfl, hpath, hlimit⟩ : r = i ∧ path = t.path ∧ maxLength = settings.maxLength := by
      simpa using he
    exact ⟨rfl, t, settings, hi, hpath, hlimit⟩
  | didOpen u => cases u.localPath <;> simp at he
  | didClose u => cases (s.cache.invalidate u).2 <;> cases s.documents.isOpen u <;> simp at he
  | answered _ _ _ answer => cases hv : answer.bind Settings.validated <;> simp [hv] at he
  | returned _ _ _ result => cases result <;> simp at he
  | _ => simp at he

/-- The editor is asked for a run that stands in line at a cell, by its own step. -/
theorem Moves.fetch_cases (h : Moves s a s' effects) {r : ℕ} {u : Uri}
    (he : .fetch r u ∈ effects) :
    a = .proceed r ∧ ∃ t c, s.runs[r]? = some ⟨t, .inLine c⟩ ∧ u = t.uri := by
  cases h with
  | proceedAsk i t c hi =>
    obtain ⟨rfl, hu⟩ : r = i ∧ u = t.uri := by simpa using he
    exact ⟨rfl, t, c, hi, hu⟩
  | didOpen v => cases v.localPath <;> simp at he
  | didClose v => cases (s.cache.invalidate v).2 <;> cases s.documents.isOpen v <;> simp at he
  | answered _ _ _ answer => cases hv : answer.bind Settings.validated <;> simp [hv] at he
  | returned _ _ _ result => cases result <;> simp at he
  | _ => simp at he

/-! ## Runs -/

@[simp]
theorem documents_setPhase (s : Server) (r : ℕ) (p : Phase) :
    (s.setPhase r p).documents = s.documents := rfl

@[simp]
theorem cache_setPhase (s : Server) (r : ℕ) (p : Phase) : (s.setPhase r p).cache = s.cache := rfl

@[simp]
theorem changes_setPhase (s : Server) (r : ℕ) (p : Phase) :
    (s.setPhase r p).changes = s.changes := rfl

@[simp]
theorem length_runs_setPhase (s : Server) (r : ℕ) (p : Phase) :
    (s.setPhase r p).runs.length = s.runs.length :=
  List.length_modify ..

@[simp]
theorem documents_setChange (s : Server) (k : ℕ) (p : ChangePhase) :
    (s.setChange k p).documents = s.documents := rfl

@[simp]
theorem cache_setChange (s : Server) (k : ℕ) (p : ChangePhase) :
    (s.setChange k p).cache = s.cache := rfl

@[simp]
theorem runs_setChange (s : Server) (k : ℕ) (p : ChangePhase) :
    (s.setChange k p).runs = s.runs := rfl

theorem runs_setPhase {r : ℕ} {t : Ticket} {p p' : Phase} (hr : s.runs[r]? = some ⟨t, p⟩) (i : ℕ) :
    (s.setPhase r p').runs[i]? = if i = r then some ⟨t, p'⟩ else s.runs[i]? :=
  getElem?_modify_of_eq_some hr _ i

theorem runs_issued {d : Documents} {ts : List Ticket} {i : ℕ} {run : Run}
    (h : (s.issued d ts).runs[i]? = some run) :
    s.runs[i]? = some run ∨ s.runs.length ≤ i ∧ ∃ t ∈ ts, run = ⟨t, .spawned⟩ := by
  change (s.runs ++ ts.map fun t => (⟨t, .spawned⟩ : Run))[i]? = some run at h
  by_cases hi : i < s.runs.length
  · rw [List.getElem?_append_left hi] at h
    exact Or.inl h
  · rw [List.getElem?_append_right (by omega), List.getElem?_map] at h
    obtain ⟨t, ht, rfl⟩ := Option.map_eq_some_iff.mp h
    exact Or.inr ⟨by omega, t, List.mem_of_getElem? ht, rfl⟩

/-- The run that takes a step. -/
def Action.run? : Action → Option ℕ
  | .start r => some r
  | .ask r => some r
  | .proceed r => some r
  | .answered r _ => some r
  | .check r => some r
  | .returned r _ => some r
  | .finish r => some r
  | _ => none

/-- A step of a run, seen from the run: its phase before and after, and the effects. -/
inductive Advance (s s' : Server) (r : ℕ) (t : Ticket) :
    Action → Phase → Phase → List Effect → Prop
  | startClosed (ho : s.documents.isOpen t.uri = false) :
      Advance s s' r t (.start r) .spawned .finished [.log (.closedBeforeStart t.uri)]
  | startOpen (ho : s.documents.isOpen t.uri = true)
      (hcache : s'.cache = (s.cache.lookup t.uri).1) :
      Advance s s' r t (.start r) .spawned (.claimed (s.cache.lookup t.uri).2) []
  | askGlobal (u : Uri) :
      Advance s s' r t (.ask r) (.claimed ⟨u, none⟩) (.settled s.cache.global) []
  | askCell (u : Uri) (c : ℕ) :
      Advance s s' r t (.ask r) (.claimed ⟨u, some c⟩) (.inLine c) []
  | proceedReady (c : ℕ) (settings : Settings)
      (hv : (s.cache.cell c).value = some settings) :
      Advance s s' r t (.proceed r) (.inLine c) (.settled settings) []
  | proceedAsk (c : ℕ) (hv : (s.cache.cell c).value = none) :
      Advance s s' r t (.proceed r) (.inLine c) (.fetching c)
        [.log (.requesting t.uri), .fetch r t.uri]
  | answered (c : ℕ) (answer : Except SettingsError Settings) (notes : List Event) :
      Advance s s' r t (.answered r answer) (.fetching c) (.settled (Settings.resolved answer))
        (notes.map .log)
  | check (settings : Settings) :
      Advance s s' r t (.check r) (.settled settings) (.checking settings)
        [.check r t.path settings.maxLength]
  | returned (settings : Settings) (result : Except CheckerError String) (notes : List Event) :
      Advance s s' r t (.returned r result) (.checking settings) (.checked settings result)
        (notes.map .log)
  | finishPublishes (settings : Settings) (report : String)
      (ha : (s.documents.finish t).2 = true) :
      Advance s s' r t (.finish r) (.checked settings (.ok report)) .finished
        [.log (.publishing t.uri (diagnosticsOf settings report).length),
          .publish t.uri (diagnosticsOf settings report)]
  | finishReports (settings : Settings) (e : CheckerError)
      (ha : (s.documents.finish t).2 = true) :
      Advance s s' r t (.finish r) (.checked settings (.error e)) .finished
        [.message .error ("lll failed for " ++ t.uri.text ++ ": " ++ e.message)]
  | finishDiscards (settings : Settings) (result : Except CheckerError String)
      (ha : (s.documents.finish t).2 = false) :
      Advance s s' r t (.finish r) (.checked settings result) .finished
        [.log (.discarded t.uri t.token (s.documents.state t.uri))]

/-- What a move does to the list of runs, given the run whose step it is: nothing, or it adds a run
for each of some tickets, or it sets the phase of that run. -/
inductive Reshapes (s s' : Server) (a : Action) (effects : List Effect) : Option ℕ → Prop
  | kept (runs : s'.runs = s.runs) : Reshapes s s' a effects none
  | spawned (tickets : List Ticket)
      (runs : s'.runs = s.runs ++ tickets.map fun t => ⟨t, .spawned⟩) :
      Reshapes s s' a effects none
  | advanced (r : ℕ) (t : Ticket) (p q : Phase) (run : s.runs[r]? = some ⟨t, p⟩)
      (runs : s'.runs = (s.setPhase r q).runs) (step : Advance s s' r t a p q effects) :
      Reshapes s s' a effects (some r)

theorem Moves.reshapes (h : Moves s a s' effects) : Reshapes s s' a effects a.run? := by
  cases h with
  | didOpen => exact .spawned _ rfl
  | didSave => exact .spawned _ rfl
  | changeRevalidates => exact .spawned _ rfl
  | didClose => exact .kept rfl
  | changeBegins => exact .kept rfl
  | changePasses => exact .kept rfl
  | changeSets => exact .kept rfl
  | startClosed r t run ho => exact .advanced r t _ _ run rfl (.startClosed ho)
  | startOpen r t run ho => exact .advanced r t _ _ run rfl (.startOpen ho rfl)
  | askGlobal r t u run => exact .advanced r t _ _ run rfl (.askGlobal u)
  | askCell r t u c run => exact .advanced r t _ _ run rfl (.askCell u c)
  | proceedReady r t c settings run hturn =>
    exact .advanced r t _ _ run rfl (.proceedReady c settings (Cache.turn_eq_ready_iff.mp hturn))
  | proceedAsk r t c run hturn =>
    exact .advanced r t _ _ run rfl (.proceedAsk c (Cache.turn_eq_ask_iff.mp hturn).1)
  | answered r t c answer run =>
    refine .advanced r t _ _ run rfl ?_
    cases answer.bind Settings.validated with
    | ok _ => exact .answered c answer []
    | error e => exact .answered c answer [.fetchFailed t.uri e]
  | check r t settings run => exact .advanced r t _ _ run rfl (.check settings)
  | returned r t settings result run =>
    refine .advanced r t _ _ run rfl ?_
    cases result with
    | ok report => exact .returned settings (.ok report) []
    | error e => exact .returned settings (.error e) [.checkerFailed t.uri e]
  | finishPublishes r t settings report run ha =>
    exact .advanced r t _ _ run rfl (.finishPublishes settings report ha)
  | finishReports r t settings e run ha =>
    exact .advanced r t _ _ run rfl (.finishReports settings e ha)
  | finishDiscards r t settings result run ha =>
    exact .advanced r t _ _ run rfl (.finishDiscards settings result ha)

/-- A run keeps its place and its ticket. -/
theorem Reshapes.run_kept {own : Option ℕ} {r : ℕ} {t : Ticket} {p : Phase}
    (h : Reshapes s s' a effects own) (hr : s.runs[r]? = some ⟨t, p⟩) :
    ∃ q, s'.runs[r]? = some ⟨t, q⟩ := by
  cases h with
  | kept runs => exact ⟨p, runs ▸ hr⟩
  | spawned tickets runs =>
    have hlt := (List.getElem?_eq_some_iff.mp hr).1
    exact ⟨p, by rw [runs, List.getElem?_append_left hlt, hr]⟩
  | advanced i t' p' q run runs =>
    rw [runs, runs_setPhase run]
    by_cases hri : r = i
    · rw [hri, run] at hr
      cases hr
      exact ⟨q, if_pos hri⟩
    · exact ⟨p, (if_neg hri).trans hr⟩

/-- The steps of others leave a run alone, or it is new. -/
theorem Moves.run_other (h : Moves s a s' effects) {r : ℕ} (ha : a.run? ≠ some r) :
    s'.runs[r]? = s.runs[r]? ∨ s.runs[r]? = none ∧ ∃ t, s'.runs[r]? = some ⟨t, .spawned⟩ := by
  generalize hown : a.run? = own at ha
  cases hown ▸ h.reshapes with
  | kept runs => exact Or.inl (by rw [runs])
  | spawned tickets runs =>
    cases hrun : s'.runs[r]? with
    | none =>
      have hlen := List.getElem?_eq_none_iff.mp hrun
      rw [runs, List.length_append] at hlen
      exact Or.inl (List.getElem?_eq_none (by omega)).symm
    | some run =>
      rw [runs] at hrun
      rcases runs_issued (s := s) (d := s.documents) hrun with hold | ⟨hlen, t, -, rfl⟩
      · exact Or.inl hold.symm
      · exact Or.inr ⟨List.getElem?_eq_none hlen, t, rfl⟩
  | advanced i t p q run runs =>
    refine Or.inl ?_
    rw [runs, runs_setPhase run, if_neg fun hri => ha (congrArg some hri.symm)]

/-- The step of a run advances it. -/
theorem Moves.advance (h : Moves s a s' effects) {r : ℕ} (ha : a.run? = some r) :
    ∃ t p q, s.runs[r]? = some ⟨t, p⟩ ∧ s'.runs[r]? = some ⟨t, q⟩ ∧
      Advance s s' r t a p q effects := by
  cases ha ▸ h.reshapes with
  | advanced _ t p q run runs step =>
    refine ⟨t, p, q, run, ?_, step⟩
    rw [runs, runs_setPhase run, if_pos rfl]

/-- A run that is there after a step has taken it, or was there with the same phase, or is new. -/
theorem Moves.run_after (h : Moves s a s' effects) {r : ℕ} {t : Ticket} {p : Phase}
    (hr : s'.runs[r]? = some ⟨t, p⟩) :
    (∃ q, s.runs[r]? = some ⟨t, q⟩ ∧ Advance s s' r t a q p effects) ∨
      a.run? ≠ some r ∧ (s.runs[r]? = some ⟨t, p⟩ ∨ s.runs[r]? = none ∧ p = .spawned) := by
  by_cases ha : a.run? = some r
  · obtain ⟨t', q, p', hrun, hafter, step⟩ := h.advance ha
    rw [hr] at hafter
    cases hafter
    exact Or.inl ⟨q, hrun, step⟩
  · refine Or.inr ⟨ha, ?_⟩
    rcases h.run_other ha with hsame | ⟨hnone, t', hnew⟩
    · exact Or.inl (hsame ▸ hr)
    · rw [hr] at hnew
      cases hnew
      exact Or.inr ⟨hnone, rfl⟩

/-! ## Documents -/

/-- Every move keeps the documents well-formed. -/
theorem Moves.wellFormed (h : Moves s a s' effects) (hw : s.documents.WellFormed) :
    s'.documents.WellFormed := by
  cases h with
  | didOpen u => exact hw.openDocument u
  | didSave u => exact hw.request u
  | didClose u => exact hw.close u
  | changeRevalidates => exact hw.requestAll
  | finishPublishes _ t => exact hw.finish t
  | finishReports _ t => exact hw.finish t
  | _ => exact hw

/-- No move takes a token back. -/
theorem Moves.lastToken_le (h : Moves s a s' effects) (hw : s.documents.WellFormed) :
    s.documents.lastToken ≤ s'.documents.lastToken := by
  cases h with
  | didOpen u => exact (Documents.issues_openDocument s.documents u).lastToken_le
  | didSave u => exact (Documents.issues_request s.documents u).lastToken_le
  | changeRevalidates => exact (Documents.issues_requestAll hw).lastToken_le
  | finishPublishes _ t => exact Nat.le_of_eq (Documents.lastToken_finish s.documents t).symm
  | finishReports _ t => exact Nat.le_of_eq (Documents.lastToken_finish s.documents t).symm
  | _ => exact Nat.le_refl _

/-- What a move does to a run: nothing, or it changes its phase, or it is a new one with a fresh
ticket. -/
theorem Moves.run_cases (h : Moves s a s' effects) (hw : s.documents.WellFormed) {r : ℕ} {run : Run}
    (hr : s'.runs[r]? = some run) :
    (∃ p, s.runs[r]? = some ⟨run.ticket, p⟩) ∨
      s.runs.length ≤ r ∧ run.phase = .spawned ∧ run.ticket.token ≤ s'.documents.lastToken ∧
        run.ticket.uri.localPath = some run.ticket.path := by
  cases hold : s.runs[r]? with
  | some old =>
    obtain ⟨t, p⟩ := old
    obtain ⟨q, hq⟩ := h.reshapes.run_kept hold
    rw [hr] at hq
    cases hq
    exact Or.inl ⟨p, rfl⟩
  | none =>
    have hlen := List.getElem?_eq_none_iff.mp hold
    have hnew : ∀ {d d' : Documents} {ts : List Ticket} {x : Server}, Documents.WellFormed d →
        Documents.Issues d d' ts → x.runs = s.runs → (x.issued d' ts).runs[r]? = some run →
        run.phase = .spawned ∧ run.ticket.token ≤ d'.lastToken ∧
          run.ticket.uri.localPath = some run.ticket.path := by
      intro d d' ts x hd hi hx hr
      rcases runs_issued hr with hr | ⟨-, t, ht, rfl⟩
      · rw [hx, hold] at hr
        cases hr
      · exact ⟨rfl, (hi.token_mem ht).2, hi.localPath hd.path ht⟩
    -- a step that gives out no tickets has no run at a new place
    have hfew : s'.runs.length ≠ s.runs.length := by
      have := (List.getElem?_eq_some_iff.mp hr).1
      omega
    refine Or.inr ⟨hlen, ?_⟩
    cases h with
    | didOpen u => exact hnew (hw.set u) (Documents.issues_openDocument s.documents u) rfl hr
    | didSave u => exact hnew hw (Documents.issues_request s.documents u) rfl hr
    | changeRevalidates k =>
      exact hnew (x := s.setChange k .done) hw (Documents.issues_requestAll hw) rfl hr
    | _ => simp at hfew

/-- Runs hold tickets that were given out, for local files. -/
def Ticketed (s : Server) : Prop :=
  ∀ (r : ℕ) (run : Run), s.runs[r]? = some run →
    run.ticket.token ≤ s.documents.lastToken ∧ run.ticket.uri.localPath = some run.ticket.path

theorem Moves.ticketed (h : Moves s a s' effects) (hw : s.documents.WellFormed) (ht : Ticketed s) :
    Ticketed s' := by
  intro r run hr
  rcases h.run_cases hw hr with ⟨p, hp⟩ | ⟨-, -, htok, hpath⟩
  · exact ⟨Nat.le_trans (ht r _ hp).1 (h.lastToken_le hw), (ht r _ hp).2⟩
  · exact ⟨htok, hpath⟩

/-- The traces of a server whose editor has introduced itself, which fixes the mode. -/
abbrev Session (perResource registers : Bool) :
    List (Moment Server Action Effect) → Server → Prop :=
  Trace step (initial.introduced perResource registers)

theorem wellFormed_of_session {perResource registers : Bool}
    {past : List (Moment Server Action Effect)} (h : Session perResource registers past s) :
    s.documents.WellFormed := by
  induction h with
  | nil => exact Documents.wellFormed_empty
  | snoc _ hs ih => exact (moves_of_step hs).wellFormed ih

theorem ticketed_of_session {perResource registers : Bool}
    {past : List (Moment Server Action Effect)} (h : Session perResource registers past s) :
    Ticketed s := by
  induction h with
  | nil => intro r run hr; simp [introduced, initial] at hr
  | snoc h hs ih => exact (moves_of_step hs).ticketed (wellFormed_of_session h) ih

end Server

end LineLint
