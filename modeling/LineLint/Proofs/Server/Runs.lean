import LineLint.Proofs.Server.Freshness

/-!
# What a step does to the runs

Most of what a step does is of no concern to the runs as a whole. Seen from there, it gives out
tickets that become runs, or moves one run on, or ends one, or does nothing.

* `Shift` — a step, seen from the runs.

Results:

* `shift_of_moves`: every step is one of four kinds, seen from the runs.
* `Shift.run_new`: a document waits for the run that is new.
-/

namespace LineLint.Server

variable {s s' : Server} {a : Action} {effects : List Effect} {r i : ℕ} {t : Ticket} {p q : Phase}
  {u : Uri}

/-- A step, seen from the runs: tickets are given out and each becomes a run; or a run goes on; or a
run ends for which nobody waits any more; or nothing happens to them. No document begins to wait but
for a ticket that is given out. -/
inductive Shift (s s' : Server) : Prop
  | issues (d : Documents) (ts : List Ticket) (issues : Documents.Issues d s'.documents ts)
      (last : d.lastToken = s.documents.lastToken)
      (path : ∀ u doc, d.get? u = some doc → doc.path = u.localPath)
      (waits : ∀ u n, d.pending? u = some n → s.documents.pending? u = some n)
      (runs : s'.runs = s.runs ++ ts.map fun t => ⟨t, .spawned⟩)
  | advances (r : ℕ) (t : Ticket) (p q : Phase) (run : s.runs[r]? = some ⟨t, p⟩)
      (runs : s'.runs = (s.setPhase r q).runs) (unfinished : q ≠ .finished)
      (documents : s'.documents = s.documents)
  | ends (r : ℕ) (t : Ticket) (p : Phase) (run : s.runs[r]? = some ⟨t, p⟩)
      (unawaited : ¬Current s' t)
      (waits : ∀ u n, s'.documents.pending? u = some n → s.documents.pending? u = some n)
      (runs : s'.runs = (s.setPhase r .finished).runs)
  | quiet (waits : ∀ u n, s'.documents.pending? u = some n → s.documents.pending? u = some n)
      (runs : s'.runs = s.runs)

theorem pending?_of_set {d : Documents} {v : Uri} {path : Option Bytes} {n : ℕ}
    (h : (d.set v ⟨path, none⟩).pending? u = some n) : d.pending? u = some n := by
  rw [Documents.pending?, Documents.get?_set] at h
  split_ifs at h
  · cases h
  · exact h

theorem pending?_of_close {d : Documents} {v : Uri} {n : ℕ}
    (h : (d.close v).1.pending? u = some n) : d.pending? u = some n := by
  rw [Documents.pending?, Documents.get?_close] at h
  split_ifs at h
  · cases h
  · exact h

/-- A run ends whose ticket is accepted. -/
theorem shift_of_accepted (run : s.runs[r]? = some ⟨t, p⟩) (ha : (s.documents.finish t).2 = true) :
    Shift s ({ s with documents := (s.documents.finish t).1 }.setPhase r .finished) := by
  have hnone := Documents.pending?_finish_self ha
  refine .ends r t p run ?_ ?_ rfl
  · intro hc
    have hc' : (s.documents.finish t).1.pending? t.uri = some t.token := hc
    rw [hnone] at hc'
    cases hc'
  · intro u n hn
    have hn' : (s.documents.finish t).1.pending? u = some n := hn
    by_cases hu : u = t.uri
    · rw [hu, hnone] at hn'
      cases hn'
    · rwa [Documents.pending?_finish_other hu] at hn'

/-- Every step is one of four kinds, seen from the runs. -/
theorem shift_of_moves (hw : s.documents.WellFormed) (h : Moves s a s' effects) : Shift s s' := by
  cases h with
  | didOpen u =>
    exact .issues _ _ (Documents.issues_openDocument s.documents u) rfl (hw.set u).path
      (fun _ _ => pending?_of_set) rfl
  | didSave u =>
    exact .issues _ _ (Documents.issues_request s.documents u) rfl hw.path (fun _ _ => id) rfl
  | didClose u => exact .quiet (fun _ _ => pending?_of_close) rfl
  | changeBegins => exact .quiet (fun _ _ => id) rfl
  | changePasses => exact .quiet (fun _ _ => id) rfl
  | changeSets => exact .quiet (fun _ _ => id) rfl
  | changeRevalidates =>
    exact .issues _ _ (Documents.issues_requestAll hw) rfl hw.path (fun _ _ => id) rfl
  | startClosed r t run ho =>
    refine .ends r t _ run (fun hc => ?_) (fun _ _ => id) rfl
    have hopen := Documents.isOpen_of_pending? hc
    simp [ho] at hopen
  | startOpen r t run => exact .advances r t _ _ run rfl nofun rfl
  | askGlobal r t _ run => exact .advances r t _ _ run rfl nofun rfl
  | askCell r t _ _ run => exact .advances r t _ _ run rfl nofun rfl
  | proceedReady r t _ _ run => exact .advances r t _ _ run rfl nofun rfl
  | proceedAsk r t _ run => exact .advances r t _ _ run rfl nofun rfl
  | answered r t _ _ run => exact .advances r t _ _ run rfl nofun rfl
  | check r t _ run => exact .advances r t _ _ run rfl nofun rfl
  | returned r t _ _ run => exact .advances r t _ _ run rfl nofun rfl
  | finishPublishes r t _ _ run ha => exact shift_of_accepted run ha
  | finishReports r t _ _ run ha => exact shift_of_accepted run ha
  | finishDiscards r t _ _ run ha =>
    refine .ends r t _ run (fun hc => ?_) (fun _ _ => id) rfl
    rw [(Documents.finish_accepts_iff s.documents t).mpr hc] at ha
    cases ha

/-- A document waits for the run that is new, and its token is new, too. -/
theorem Shift.run_new (h : Shift s s') (hr : s'.runs[r]? = some ⟨t, p⟩) (hn : s.runs.length ≤ r) :
    s'.documents.pending? t.uri = some t.token ∧ s.documents.lastToken < t.token := by
  have hold : ∀ {runs : List Run}, runs.length = s.runs.length → runs[r]? ≠ some ⟨t, p⟩ := by
    intro runs hlen hrun
    have := (List.getElem?_eq_some_iff.mp hrun).1
    omega
  cases h with
  | issues d ts issues last _ _ runs =>
    rcases runs_issued (s := s) (d := d) (runs ▸ hr) with hr | ⟨-, t', ht, hrun⟩
    · exact absurd hr (hold rfl)
    · cases hrun
      exact ⟨issues.pending?_eq ht, last ▸ (issues.token_mem ht).1⟩
  | advances _ _ _ _ _ runs => exact absurd (runs ▸ hr) (hold (length_runs_setPhase ..))
  | ends _ _ _ _ _ _ runs => exact absurd (runs ▸ hr) (hold (length_runs_setPhase ..))
  | quiet _ runs => exact absurd (runs ▸ hr) (hold rfl)

end LineLint.Server
