import LineLint.Proofs.Server.Steps

/-!
# What the editor shows

The editor shows the diagnostics that were last published for a document. However the steps of
handlers and runs interleave, these are the diagnostics of the latest run that was accepted since
the document was opened, and none if it is closed.

* `shown` — what the editor shows for a document.
* `accepted?`, `acceptedSince` — the results of runs that were accepted.
* `reported` — the tokens of the runs whose results were published.
* `Glimpse` — a step seen from one document.

Results:

* `glimpse_of_moves`: every step is one of three kinds, seen from one document.
* `view_of_session`: the invariant that ties what is shown to the runs.
* `editor_view`: what is shown, in every reachable state.
-/

namespace LineLint.Server

/-! ## What a trace says -/

/-- The diagnostics that an effect publishes for a document. -/
def publishedBy (u : Uri) : Effect → Option (List Diagnostic)
  | .publish v found => if v = u then some found else none
  | _ => none

/-- All that was published for a document, in order. -/
def publications (u : Uri) (past : List (Moment Server Action Effect)) : List (List Diagnostic) :=
  past.flatMap fun m => m.effects.filterMap (publishedBy u)

/-- What the editor shows for a document: what was last published for it, or nothing. -/
def shown (u : Uri) (past : List (Moment Server Action Effect)) : List Diagnostic :=
  (publications u past).getLast?.getD []

/-- The result of an accepted run. -/
structure Accepted where
  token : ℕ
  diagnostics : List Diagnostic

/-- The result that a step accepts for a document: a run ends with a report, and its ticket is
accepted. -/
def accepted? (u : Uri) (m : Moment Server Action Effect) : Option Accepted :=
  match m.action with
  | .finish r =>
    match m.before.runs[r]? with
    | some ⟨t, .checked settings (.ok report)⟩ =>
      if t.uri = u ∧ (m.before.documents.finish t).2 = true then
        some ⟨t.token, diagnosticsOf settings report⟩
      else none
    | _ => none
  | _ => none

/-- Whether a document goes from closed to open. -/
def opens (u : Uri) (m : Moment Server Action Effect) : Bool :=
  !m.before.documents.isOpen u && m.after.documents.isOpen u

/-- The results accepted for a document since it last went from closed to open, in order. -/
def acceptedSince (u : Uri) (past : List (Moment Server Action Effect)) : List Accepted :=
  past.foldl (fun sofar m => (if opens u m then [] else sofar) ++ (accepted? u m).toList) []

/-- The token of the run whose result a step publishes for a document. -/
def reportedBy (u : Uri) (m : Moment Server Action Effect) : Option ℕ :=
  match m.action with
  | .finish r =>
    if m.effects.filterMap (publishedBy u) = [] then none
    else (m.before.runs[r]?).map fun run => run.ticket.token
  | _ => none

/-- The tokens of the runs whose results were published for a document, in order. -/
def reported (u : Uri) (past : List (Moment Server Action Effect)) : List ℕ :=
  past.filterMap (reportedBy u)

/-- The diagnostics of the result with the highest token, or none if there is no result. -/
def Newest (results : List Accepted) (found : List Diagnostic) : Prop :=
  results = [] ∧ found = [] ∨
    ∃ a ∈ results, (∀ b ∈ results, b = a ∨ b.token < a.token) ∧ found = a.diagnostics

variable {u : Uri} {past : List (Moment Server Action Effect)} {m : Moment Server Action Effect}
  {s s' : Server} {a : Action} {effects : List Effect}

/-! ## One step, seen from one document -/

/-- A step, seen from one document: nothing is shown anew, or it is closed and cleared, or the run
it waits for ends with a report. -/
inductive Glimpse (u : Uri) (m : Moment Server Action Effect) : Prop
  | same (published : m.effects.filterMap (publishedBy u) = []) (accepted : accepted? u m = none)
      (open_of : m.after.documents.isOpen u = false → m.before.documents.isOpen u = false)
      (waits : ∀ n, m.after.documents.pending? u = some n →
        m.before.documents.pending? u = some n ∨ m.before.documents.lastToken < n)
  | cleared (published : m.effects.filterMap (publishedBy u) = [[]])
      (accepted : accepted? u m = none) (unreported : reportedBy u m = none)
      (closed : m.after.documents.isOpen u = false)
  | accepted (n : ℕ) (found : List Diagnostic)
      (published : m.effects.filterMap (publishedBy u) = [found])
      (accepted : accepted? u m = some ⟨n, found⟩) (reported : reportedBy u m = some n)
      (waited : m.before.documents.pending? u = some n)
      (waits : m.after.documents.pending? u = none)
      (opened : m.after.documents.isOpen u = true)

/-- Giving out tickets shows nothing anew. -/
theorem glimpse_of_issues {d : Documents} {ts : List Ticket}
    (hi : Documents.Issues d m.after.documents ts)
    (hlast : d.lastToken = m.before.documents.lastToken)
    (hopen : m.before.documents.isOpen u = true → d.isOpen u = true)
    (hwait : ∀ n, d.pending? u = some n → m.before.documents.pending? u = some n)
    (published : m.effects.filterMap (publishedBy u) = []) (accepted : accepted? u m = none) :
    Glimpse u m := by
  refine .same published accepted ?_ ?_
  · intro h
    rw [hi.isOpen_eq] at h
    by_contra ho
    rw [hopen (by simpa using ho)] at h
    cases h
  · intro n hn
    by_cases hm : ∃ t ∈ ts, t.uri = u
    · obtain ⟨t, ht, rfl⟩ := hm
      rw [hi.pending?_eq ht] at hn
      have := (hi.token_mem ht).1
      have := Option.some.inj hn
      exact Or.inr (by omega)
    · rw [hi.pending?_other fun t ht hu => hm ⟨t, ht, hu⟩] at hn
      exact Or.inl (hwait n hn)

/-- A step that leaves the documents alone shows nothing anew. -/
theorem glimpse_of_documents_eq (h : m.after.documents = m.before.documents)
    (published : m.effects.filterMap (publishedBy u) = []) (accepted : accepted? u m = none) :
    Glimpse u m := by
  refine .same published accepted ?_ ?_
  · rw [h]
    exact id
  · rw [h]
    exact fun n hn => Or.inl hn

theorem glimpse_didClose (s : Server) (u v : Uri) (h : Moves s (.didClose v) s' effects) :
    Glimpse u ⟨s, .didClose v, effects, s'⟩ := by
  cases h
  by_cases hv : u = v
  · subst hv
    have hclosed : (s.documents.close u).1.isOpen u = false := by
      rw [Documents.isOpen, Documents.get?_close, if_pos rfl]
      rfl
    cases ho : s.documents.isOpen u with
    | true =>
      refine .cleared ?_ rfl rfl hclosed
      cases (s.cache.invalidate u).2 <;> simp [List.filterMap_cons, publishedBy]
    | false =>
      refine .same ?_ rfl (fun _ => ho) ?_
      · cases (s.cache.invalidate u).2 <;> simp [publishedBy]
      · intro n hn
        have := Documents.isOpen_of_pending? hn
        rw [hclosed] at this
        cases this
  · have hget : (s.documents.close v).1.get? u = s.documents.get? u := by
      rw [Documents.get?_close, if_neg hv]
    have hv' : ¬v = u := fun h => hv h.symm
    refine .same ?_ rfl ?_ ?_
    · cases (s.cache.invalidate v).2 <;> cases s.documents.isOpen v <;> simp [publishedBy, hv']
    · exact fun h => by rwa [← Documents.isOpen_eq_of_get?_eq hget]
    · exact fun n hn => Or.inl (by rwa [← Documents.pending?_eq_of_get?_eq hget])

theorem glimpse_finish {r : ℕ} (u : Uri) (h : Moves s (.finish r) s' effects) :
    Glimpse u ⟨s, .finish r, effects, s'⟩ := by
  cases h with
  | finishPublishes _ t settings report hr ha =>
    by_cases hu : t.uri = u
    · subst hu
      have hwaits := (Documents.finish_accepts_iff s.documents t).mp ha
      refine .accepted t.token (diagnosticsOf settings report) ?_ ?_ ?_ hwaits ?_ ?_
      · simp [List.filterMap_cons, publishedBy]
      · simp [accepted?, hr, ha]
      · simp [reportedBy, publishedBy, hr]
      · exact Documents.pending?_finish_self ha
      · have hopen := Documents.isOpen_of_pending? hwaits
        exact (Documents.isOpen_finish s.documents t t.uri).trans hopen
    · have hu' : u ≠ t.uri := fun h => hu h.symm
      refine .same ?_ ?_ ?_ ?_
      · simp [publishedBy, hu]
      · simp [accepted?, hr, hu]
      · exact fun h => (Documents.isOpen_finish s.documents t u).symm.trans h
      · exact fun n hn => Or.inl ((Documents.pending?_finish_other hu').symm.trans hn)
  | finishReports _ t settings e hr ha =>
    refine .same rfl ?_ ?_ ?_
    · simp [accepted?, hr]
    · exact fun h => (Documents.isOpen_finish s.documents t u).symm.trans h
    · intro n hn
      by_cases hu : u = t.uri
      · subst hu
        rw [show (setPhase _ r .finished).documents = (s.documents.finish t).1 from rfl,
          Documents.pending?_finish_self ha] at hn
        cases hn
      · exact Or.inl ((Documents.pending?_finish_other hu).symm.trans hn)
  | finishDiscards _ t settings result hr ha =>
    refine glimpse_of_documents_eq rfl rfl ?_
    cases result <;> simp [accepted?, hr, ha]

/-- Every step is one of three kinds, seen from one document. -/
theorem glimpse_of_moves (hw : s.documents.WellFormed) (u : Uri) (h : Moves s a s' effects) :
    Glimpse u ⟨s, a, effects, s'⟩ := by
  cases a with
  | didOpen v =>
    cases h
    refine glimpse_of_issues (Documents.issues_openDocument s.documents v) rfl ?_ ?_ ?_ rfl
    · intro ho
      rw [Documents.isOpen_set, ho, Bool.or_true]
    · intro n hn
      rw [Documents.pending?, Documents.get?_set] at hn
      split_ifs at hn
      · cases hn
      · exact hn
    · cases v.localPath <;> simp [publishedBy]
  | didSave v =>
    cases h
    exact glimpse_of_issues (Documents.issues_request s.documents v) rfl id (fun _ => id) rfl rfl
  | didClose v => exact glimpse_didClose s u v h
  | changeBegins configuration => cases h; exact glimpse_of_documents_eq rfl rfl rfl
  | changeApplies k =>
    cases h with
    | changePasses => exact glimpse_of_documents_eq rfl rfl rfl
    | changeSets _ configuration =>
      refine glimpse_of_documents_eq rfl ?_ rfl
      cases (Settings.pushed configuration).2 <;> simp [publishedBy]
  | changeRevalidates k =>
    cases h
    exact glimpse_of_issues (Documents.issues_requestAll hw) rfl id (fun _ => id) rfl rfl
  | start r => cases h <;> exact glimpse_of_documents_eq rfl rfl rfl
  | ask r => cases h <;> exact glimpse_of_documents_eq rfl rfl rfl
  | proceed r => cases h <;> exact glimpse_of_documents_eq rfl rfl rfl
  | answered r answer =>
    cases h
    refine glimpse_of_documents_eq rfl ?_ rfl
    dsimp only
    split <;> rfl
  | check r => cases h; exact glimpse_of_documents_eq rfl rfl rfl
  | returned r result =>
    cases h
    refine glimpse_of_documents_eq rfl ?_ rfl
    cases result <;> rfl
  | finish r => exact glimpse_finish u h

/-! ## The invariant -/

@[simp]
theorem shown_concat : shown u (past ++ [m]) =
    ((m.effects.filterMap (publishedBy u)).getLast?).getD (shown u past) := by
  unfold shown publications
  rw [List.flatMap_append, List.flatMap_singleton, List.getLast?_append]
  cases (m.effects.filterMap (publishedBy u)).getLast? <;> rfl

@[simp]
theorem acceptedSince_concat : acceptedSince u (past ++ [m]) =
    (if opens u m then [] else acceptedSince u past) ++ (accepted? u m).toList := by
  unfold acceptedSince
  rw [List.foldl_append]
  rfl

@[simp]
theorem reported_concat :
    reported u (past ++ [m]) = reported u past ++ (reportedBy u m).toList := by
  unfold reported
  rw [List.filterMap_append]
  cases h : reportedBy u m <;> simp [h]

theorem reportedBy_eq_none (h : m.effects.filterMap (publishedBy u) = []) :
    reportedBy u m = none := by
  unfold reportedBy
  split
  · rw [if_pos h]
  · rfl

/-- How what is shown for a document follows from the runs. Tokens of results are kept in order of
publication, and whatever the document still waits for comes after them. -/
structure View (u : Uri) (past : List (Moment Server Action Effect)) (s : Server) : Prop where
  closed : s.documents.isOpen u = false → shown u past = []
  latest : s.documents.isOpen u = true →
    shown u past = ((acceptedSince u past).getLast?).elim [] Accepted.diagnostics
  suffix : (acceptedSince u past).map Accepted.token <:+ reported u past
  sorted : (reported u past).Pairwise (· < ·)
  given : ∀ n ∈ reported u past, n ≤ s.documents.lastToken
  awaited : ∀ n ∈ reported u past, ∀ p, s.documents.pending? u = some p → n < p

theorem view_nil (u : Uri) (perResource registers : Bool) :
    View u [] (initial.introduced perResource registers) where
  closed := fun _ => rfl
  latest := fun _ => rfl
  suffix := List.suffix_refl _
  sorted := List.Pairwise.nil
  given := by intro n hn; cases hn
  awaited := by intro n hn; cases hn

/-- A step that shows nothing anew keeps the view. -/
theorem View.same (h : View u past s) (hlast : s.documents.lastToken ≤ m.after.documents.lastToken)
    (hbefore : m.before = s) (published : m.effects.filterMap (publishedBy u) = [])
    (accepted : accepted? u m = none)
    (open_of : m.after.documents.isOpen u = false → s.documents.isOpen u = false)
    (waits : ∀ n, m.after.documents.pending? u = some n →
      s.documents.pending? u = some n ∨ s.documents.lastToken < n) :
    View u (past ++ [m]) m.after := by
  have hshown : shown u (past ++ [m]) = shown u past := by
    rw [shown_concat, published]
    rfl
  have hrep : reported u (past ++ [m]) = reported u past := by
    rw [reported_concat, reportedBy_eq_none published]
    exact List.append_nil _
  have hsince : acceptedSince u (past ++ [m]) =
      if opens u m then [] else acceptedSince u past := by
    rw [acceptedSince_concat, accepted]
    exact List.append_nil _
  constructor
  case closed =>
    intro hc
    rw [hshown]
    exact h.closed (open_of hc)
  case latest =>
    intro ho
    rw [hshown, hsince]
    -- a document that was closed had nothing to show, and starts with nothing
    cases hb : s.documents.isOpen u with
    | false =>
      rw [if_pos (by simp [opens, hbefore, hb, ho]), h.closed hb]
      rfl
    | true =>
      rw [if_neg (by simp [opens, hbefore, hb])]
      exact h.latest hb
  case suffix =>
    rw [hsince, hrep]
    split_ifs
    · exact List.nil_suffix
    · exact h.suffix
  case sorted =>
    rw [hrep]
    exact h.sorted
  case given =>
    rw [hrep]
    exact fun n hn => Nat.le_trans (h.given n hn) hlast
  case awaited =>
    rw [hrep]
    intro n hn p hp
    rcases waits p hp with hp | hp
    · exact h.awaited n hn p hp
    · exact Nat.lt_of_le_of_lt (h.given n hn) hp

/-- A document that is closed shows nothing. -/
theorem View.cleared (h : View u past s)
    (hlast : s.documents.lastToken ≤ m.after.documents.lastToken)
    (published : m.effects.filterMap (publishedBy u) = [[]]) (accepted : accepted? u m = none)
    (unreported : reportedBy u m = none) (closed : m.after.documents.isOpen u = false) :
    View u (past ++ [m]) m.after := by
  have hrep : reported u (past ++ [m]) = reported u past := by
    rw [reported_concat, unreported]
    exact List.append_nil _
  constructor
  case closed =>
    intro _
    rw [shown_concat, published]
    rfl
  case latest =>
    intro ho
    rw [closed] at ho
    cases ho
  case suffix =>
    rw [acceptedSince_concat, accepted, hrep, if_neg (by simp [opens, closed])]
    simpa using h.suffix
  case sorted =>
    rw [hrep]
    exact h.sorted
  case given =>
    rw [hrep]
    exact fun n hn => Nat.le_trans (h.given n hn) hlast
  case awaited =>
    intro n _ p hp
    have hopen := Documents.isOpen_of_pending? hp
    rw [closed] at hopen
    cases hopen

/-- An accepted result is the newest: the document has waited for it. -/
theorem View.accepted {n : ℕ} {found : List Diagnostic} (h : View u past s)
    (hw : s.documents.WellFormed) (hlast : s.documents.lastToken ≤ m.after.documents.lastToken)
    (hbefore : m.before = s) (published : m.effects.filterMap (publishedBy u) = [found])
    (accepted : accepted? u m = some ⟨n, found⟩) (hreported : reportedBy u m = some n)
    (waited : s.documents.pending? u = some n) (waits : m.after.documents.pending? u = none)
    (opened : m.after.documents.isOpen u = true) : View u (past ++ [m]) m.after := by
  have hopens : opens u m = false := by
    simp [opens, hbefore, Documents.isOpen_of_pending? waited]
  have hsince : acceptedSince u (past ++ [m]) = acceptedSince u past ++ [⟨n, found⟩] := by
    rw [acceptedSince_concat, accepted, hopens]
    rfl
  have hrep : reported u (past ++ [m]) = reported u past ++ [n] := by
    rw [reported_concat, hreported]
    rfl
  constructor
  case closed =>
    intro hc
    rw [opened] at hc
    cases hc
  case latest =>
    intro _
    rw [shown_concat, published, hsince]
    simp
  case suffix =>
    rw [hsince, hrep, List.map_append]
    obtain ⟨older, hsuffix⟩ := h.suffix
    exact ⟨older, by rw [← List.append_assoc, hsuffix]; rfl⟩
  case sorted =>
    rw [hrep, List.pairwise_append]
    refine ⟨h.sorted, List.pairwise_singleton _ _, fun x hx y hy => ?_⟩
    rw [List.mem_singleton.mp hy]
    exact h.awaited x hx n waited
  case given =>
    rw [hrep]
    intro x hx
    rcases List.mem_append.mp hx with hx | hx
    · exact Nat.le_trans (h.given x hx) hlast
    · rw [List.mem_singleton.mp hx]
      exact Nat.le_trans (hw.given u n waited) hlast
  case awaited =>
    intro x _ p hp
    rw [waits] at hp
    cases hp

/-- One step keeps the view of a document. -/
theorem View.step (h : View u past s) (hw : s.documents.WellFormed)
    (hlast : s.documents.lastToken ≤ s'.documents.lastToken)
    (hg : Glimpse u ⟨s, a, effects, s'⟩) : View u (past ++ [⟨s, a, effects, s'⟩]) s' := by
  cases hg with
  | same published accepted open_of waits =>
    exact h.same hlast rfl published accepted open_of waits
  | cleared published accepted unreported closed =>
    exact h.cleared hlast published accepted unreported closed
  | accepted n found published accepted hreported waited waits opened =>
    exact h.accepted hw hlast rfl published accepted hreported waited waits opened

/-- The view of a document holds along every trace. -/
theorem view_of_session {perResource registers : Bool} (h : Session perResource registers past s)
    (u : Uri) : View u past s := by
  induction h with
  | nil => exact view_nil u perResource registers
  | snoc h hs ih =>
    have hw := wellFormed_of_session h
    have hm := moves_of_step hs
    exact ih.step hw (hm.lastToken_le hw) (glimpse_of_moves hw u hm)

/-- With tokens in order, the last result is the newest. -/
theorem newest_getLast {results : List Accepted}
    (h : (results.map Accepted.token).Pairwise (· < ·)) :
    Newest results (results.getLast?.elim [] Accepted.diagnostics) := by
  rcases List.eq_nil_or_concat' results with rfl | ⟨older, newest, rfl⟩
  · exact Or.inl ⟨rfl, rfl⟩
  · refine Or.inr ⟨newest, by simp, ?_, by simp⟩
    intro b hb
    rcases List.mem_append.mp hb with hb | hb
    · rw [List.map_append, List.pairwise_append] at h
      exact Or.inr (h.2.2 _ (List.mem_map_of_mem hb) _ (by simp))
    · exact Or.inl (List.mem_singleton.mp hb)

/-- **What the editor shows.** In every state that handlers and runs can reach, in whatever order
their steps are taken: nothing is shown for a document that is not open; for an open document the
diagnostics are shown of the run with the highest token, of those that were accepted with a report
since the document went from closed to open, and none if there is no such run. The tokens of the
runs whose results are published for a document go up. -/
theorem editor_view {perResource registers : Bool} (h : Session perResource registers past s)
    (u : Uri) :
    (s.documents.isOpen u = false → shown u past = []) ∧
      (s.documents.isOpen u = true → Newest (acceptedSince u past) (shown u past)) ∧
      (reported u past).Pairwise (· < ·) := by
  have hv := view_of_session h u
  refine ⟨hv.closed, fun ho => ?_, hv.sorted⟩
  rw [hv.latest ho]
  exact newest_getLast (hv.sorted.sublist hv.suffix.sublist)

/-- A document is opened and saved; the first run ends after the second, and its report comes too
late. -/
def overtaken : List (Moment Server Action Effect) × Server :=
  replay step (initial.introduced false false)
    [.didOpen Documents.sampleFile, .start 0, .ask 0, .check 0, .didSave Documents.sampleFile,
      .start 1, .ask 1, .check 1, .returned 1 (.ok "/a:2: new"), .finish 1,
      .returned 0 (.ok "/a:1: old"), .finish 0]

theorem editor_view_overtaken :
    overtaken.2.documents.isOpen Documents.sampleFile = true ∧
      shown Documents.sampleFile overtaken.1 = diagnosticsOf Settings.standard "/a:2: new" ∧
      Newest (acceptedSince Documents.sampleFile overtaken.1)
        (shown Documents.sampleFile overtaken.1) ∧
      (reported Documents.sampleFile overtaken.1).Pairwise (· < ·) := by
  have h : Session false false overtaken.1 overtaken.2 := replay_trace _ _ _
  have hopen : overtaken.2.documents.isOpen Documents.sampleFile = true := by decide
  obtain ⟨-, hnewest, hsorted⟩ := editor_view h Documents.sampleFile
  exact ⟨hopen, by decide, hnewest hopen, hsorted⟩

end LineLint.Server
