import LineLint.Proofs.Server.Entries
import Mathlib.Data.List.Count

/-!
# Which runs are started

The editor's notifications are handled one after the other, while the steps of runs may come in
between. Then the number of runs of a document can be read off what the editor has said: one for
each time that it was opened, one for each time that it was saved while it was open, and one for
each configuration change while it was open. A change gives out all its tickets at once, in the
order in which the documents last went from closed to open.

* `Action.notifies` — something that the editor tells the server.
* `InTurn` — each notification is handled to its end before the next one.
* `runsOf` — the number of runs of a document.
* `openings`, `openSaves`, `openChanges` — what calls for a run of a document.
* `saidOpen` — whether a document is open, by what the editor has said.
* `LastOpensAt` — when a document last went from closed to open.
* `Batch` — the tickets that are given out for a change.

Results:

* `isOpen_eq_saidOpen`: the server believes what the editor has said.
* `Moves.balance`, `balanced_of_session`: runs are started for what calls for them, and for nothing
  else.
* `arranged_of_session`: the table is in the order of opening.
* `handled_of_session`: a change is handled once, before the next notification.
* `lifecycle_runs`: how many runs there are, and which tickets a change gives out.
-/

namespace LineLint

namespace Documents

variable {d : Documents} {u v : Uri}

/-- Tickets are given out in the order in which they are asked for. -/
theorem uris_requestEach_sublist (us : List Uri) :
    ∀ d : Documents, ((d.requestEach us).2.map Ticket.uri).Sublist us := by
  induction us with
  | nil => intro d; exact List.Sublist.refl _
  | cons u us ih =>
    intro d
    rw [requestEach]
    cases hp : (d.get? u).bind Document.path with
    | none => rw [request_none hp]; exact (ih d).cons u
    | some path => rw [request_some hp]; exact (ih _).cons_cons u

/-- Which document gets a ticket because of a request. -/
theorem mem_uris_request_iff (hw : d.WellFormed) :
    u ∈ (d.request v).2.toList.map Ticket.uri ↔
      u = v ∧ d.isOpen v = true ∧ v.localPath.isSome = true := by
  rw [← path_ne_none_iff hw]
  cases hp : (d.get? v).bind Document.path with
  | none => simp [request_none hp]
  | some path => simp [request_some hp]

/-- Which documents get a ticket when all are asked for. -/
theorem mem_uris_requestAll_iff (hw : d.WellFormed) :
    u ∈ d.requestAll.2.map Ticket.uri ↔ d.isOpen u = true ∧ u.localPath.isSome = true := by
  constructor
  · intro hu
    obtain ⟨t, ht, rfl⟩ := List.mem_map.mp hu
    rw [← path_ne_none_iff hw, (issues_requestAll hw).paths t ht]
    nofun
  · rintro ⟨ho, hp⟩
    obtain ⟨t, ht, rfl⟩ := requestAll_complete hw ho (Option.isSome_iff_ne_none.mp hp)
    exact List.mem_map_of_mem ht

/-! ## The order of the table -/

/-- The URIs of the open documents, in the order of the table. -/
def keys (d : Documents) : List Uri := d.entries.map Prod.fst

theorem keys_set (d : Documents) (u : Uri) (doc : Document) :
    (d.set u doc).keys = if d.isOpen u then d.keys else d.keys ++ [u] := by
  rw [keys, set, map_fst_put]
  simp only [mem_keys_iff, keys]

theorem keys_request (d : Documents) (u : Uri) : (d.request u).1.keys = d.keys := by
  cases hp : (d.get? u).bind Document.path with
  | none => rw [request_none hp]
  | some path =>
    obtain ⟨doc, hd, -⟩ := Option.bind_eq_some_iff.mp hp
    have hopen : d.isOpen u = true := by rw [isOpen, hd]; rfl
    rw [request_some hp]
    exact (keys_set d u _).trans (if_pos hopen)

theorem keys_requestEach (us : List Uri) : ∀ d : Documents, (d.requestEach us).1.keys = d.keys := by
  induction us with
  | nil => intro d; rfl
  | cons u us ih => intro d; exact (ih _).trans (keys_request d u)

/-- A document that is opened goes to the end, unless it is open. -/
theorem keys_openDocument (d : Documents) (u : Uri) :
    (d.openDocument u).1.keys = if d.isOpen u then d.keys else d.keys ++ [u] :=
  (keys_request _ u).trans (keys_set d u _)

/-- Closing a document leaves the others in order. -/
theorem keys_close (d : Documents) (u : Uri) : (d.close u).1.keys = d.keys.filter (· != u) := by
  rw [keys, keys, List.filter_map]
  rfl

@[simp]
theorem keys_finish (d : Documents) (t : Ticket) : (d.finish t).1.keys = d.keys := by
  unfold finish
  cases hd : d.get? t.uri with
  | none => rfl
  | some doc =>
    have hopen : d.isOpen t.uri = true := by rw [isOpen, hd]; rfl
    dsimp only
    split_ifs
    · exact (keys_set d t.uri _).trans (if_pos hopen)
    · rfl

end Documents

namespace Server

variable {s s' : Server} {a : Action} {effects : List Effect} {perResource registers : Bool}
  {past : List (Moment Server Action Effect)} {m : Moment Server Action Effect} {u v : Uri}
  {t : Ticket} {ts : List Ticket} {i j k change : ℕ}

/-! ## What the editor says -/

/-- Whether an action is something that the editor tells the server. -/
def Action.notifies : Action → Bool
  | .didOpen _ => true
  | .didSave _ => true
  | .didClose _ => true
  | .changeBegins _ => true
  | _ => false

/-- The editor tells the server something. -/
def NotifiedAt (past : List (Moment Server Action Effect)) (k : ℕ) : Prop :=
  HappensAt past k fun m => m.action.notifies = true

/-- No configuration change is under way. -/
def Idle (s : Server) : Prop := ∀ change ∈ s.changes, change.phase = .done

instance (s : Server) : Decidable s.Idle :=
  inferInstanceAs (Decidable (∀ change ∈ s.changes, change.phase = .done))

/-- Each notification is handled to its end before the next one. What runs do in between does not
matter. -/
structure InTurn (past : List (Moment Server Action Effect)) (s : Server) : Prop where
  each : ∀ m ∈ past, m.action.notifies = true → m.before.Idle
  last : s.Idle

/-- What an action says about a document: that it is open from now on, or that it is closed. -/
def Action.toggles (u : Uri) : Action → Option Bool
  | .didOpen v => if v = u then some true else none
  | .didClose v => if v = u then some false else none
  | _ => none

/-- Whether a document is open, by what the editor has said last. -/
def saidOpen (u : Uri) (past : List (Moment Server Action Effect)) : Bool :=
  (past.filterMap fun m => m.action.toggles u).getLast?.getD false

@[simp]
theorem saidOpen_concat :
    saidOpen u (past ++ [m]) = (m.action.toggles u).getD (saidOpen u past) := by
  unfold saidOpen
  rw [filterMap_concat]
  cases m.action.toggles u with
  | none => simp
  | some b => simp

/-- A document is open exactly if the editor has said so. -/
theorem isOpen_eq_saidOpen (h : Session perResource registers past s) (u : Uri) :
    s.documents.isOpen u = saidOpen u past := by
  induction h with
  | nil => rfl
  | @snoc past s s' a effects h hs ih =>
    have hm := moves_of_step hs
    rw [saidOpen_concat]
    by_cases ho : a = .didOpen u
    · subst ho
      rw [hm.isOpen_didOpen]
      simp [Action.toggles]
    · by_cases hc : a = .didClose u
      · subst hc
        rw [hm.isOpen_didClose]
        simp [Action.toggles]
      · have hnone : a.toggles u = none := by
          cases a with
          | didOpen v => exact if_neg fun hv : v = u => ho (hv ▸ rfl)
          | didClose v => exact if_neg fun hv : v = u => hc (hv ▸ rfl)
          | _ => rfl
        rw [hm.isOpen_eq (wellFormed_of_session h) ho hc, ih, hnone]
        rfl

/-! ## The number of runs -/

/-- The number of runs of a document. -/
def runsOf (u : Uri) (s : Server) : ℕ := (s.runs.map fun run => run.ticket.uri).count u

/-- How often a document was opened. -/
def openings (u : Uri) (past : List (Moment Server Action Effect)) : ℕ :=
  past.countP fun m => match m.action with
    | .didOpen v => v == u
    | _ => false

/-- How often a document was saved while it was open. -/
def openSaves (u : Uri) (past : List (Moment Server Action Effect)) : ℕ :=
  past.countP fun m => match m.action with
    | .didSave v => v == u && m.before.documents.isOpen u
    | _ => false

/-- How often the configuration changed while a document was open. -/
def openChanges (u : Uri) (past : List (Moment Server Action Effect)) : ℕ :=
  past.countP fun m => match m.action with
    | .changeBegins _ => m.before.documents.isOpen u
    | _ => false

/-- The number of runs of a document for which an action calls. -/
def called (u : Uri) (s : Server) : Action → ℕ
  | .didOpen v => if v = u then 1 else 0
  | .didSave v => if v = u ∧ s.documents.isOpen u = true then 1 else 0
  | .changeBegins _ => if s.documents.isOpen u = true then 1 else 0
  | _ => 0

@[simp]
theorem called_concat : openings u (past ++ [m]) + openSaves u (past ++ [m]) +
    openChanges u (past ++ [m]) =
      openings u past + openSaves u past + openChanges u past + called u m.before m.action := by
  unfold openings openSaves openChanges
  rw [List.countP_append, List.countP_append, List.countP_append, List.countP_singleton,
    List.countP_singleton, List.countP_singleton]
  cases m.action <;> simp [called] <;> omega

/-- The number of configuration changes under way. -/
def underway (s : Server) : ℕ := s.changes.countP fun change => change.phase != .done

theorem Idle.underway (h : s.Idle) : s.underway = 0 := by
  rw [Server.underway, List.countP_eq_zero]
  intro change hc
  simp [h change hc]

/-- The runs of a document for which the changes under way have called. -/
def owed (u : Uri) (s : Server) : ℕ := if s.documents.isOpen u = true then s.underway else 0

/-- A change that goes on counts until it is done. -/
theorem underway_setChange {configuration : Json} {p q : ChangePhase}
    (hk : s.changes[k]? = some ⟨configuration, p⟩) :
    (s.setChange k q).underway + (if p ≠ .done then 1 else 0) =
      s.underway + if q ≠ .done then 1 else 0 := by
  have hparts := take_append_cons_drop hk
  obtain ⟨hlt, hk⟩ := List.getElem?_eq_some_iff.mp hk
  unfold underway setChange
  rw [List.modify_eq_take_cons_drop hlt, hk]
  conv_rhs => rw [hparts]
  simp only [List.countP_append, List.countP_cons, bne_iff_ne]
  omega

@[simp]
theorem runsOf_setPhase (u : Uri) (s : Server) (r : ℕ) (p : Phase) :
    runsOf u (s.setPhase r p) = runsOf u s := by
  rw [runsOf, runsOf, setPhase, map_modify_eq]
  exact fun _ => rfl

theorem runsOf_issued {d d' : Documents} (hi : Documents.Issues d d' ts) (u : Uri) (s : Server) :
    runsOf u (s.issued d' ts) = runsOf u s + if u ∈ ts.map Ticket.uri then 1 else 0 := by
  have hruns : (s.issued d' ts).runs.map (fun run => run.ticket.uri) =
      s.runs.map (fun run => run.ticket.uri) ++ ts.map Ticket.uri := by
    simp [issued]
  rw [runsOf, runsOf, hruns, List.count_append]
  split_ifs with hu
  · rw [List.count_eq_one_of_mem hi.distinct hu]
  · rw [List.count_eq_zero_of_not_mem hu]

/-- A step that opens and closes nothing starts `m` runs of a document that were owed, if it is
open, and calls for `n` more. -/
theorem balance_of_kept {m n : ℕ} (hopen : s'.documents.isOpen u = s.documents.isOpen u)
    (hunderway : s'.underway + m = s.underway + n)
    (hruns : runsOf u s' = runsOf u s + if s.documents.isOpen u = true then m else 0)
    (hcalled : called u s a = if s.documents.isOpen u = true then n else 0) :
    runsOf u s' + owed u s' = runsOf u s + owed u s + called u s a := by
  rw [hruns, hcalled, owed, owed, hopen]
  split_ifs <;> omega

/-- A notification that changes no configuration starts the runs for which it calls at once. -/
theorem balance_of_idle (hidle : s.Idle) (hchanges : s'.changes = s.changes)
    (hruns : runsOf u s' = runsOf u s + called u s a) :
    runsOf u s' + owed u s' = runsOf u s + owed u s + called u s a := by
  have hs := hidle.underway
  have hs' : s'.underway = 0 := by
    rw [underway, hchanges]
    exact hs
  rw [owed, owed, hs, hs', ite_self, ite_self, hruns, Nat.add_zero, Nat.add_zero]

theorem runsOf_didOpen (hw : s.documents.WellFormed) (hp : u.localPath.isSome = true) (v : Uri) :
    runsOf u (s.issued (s.documents.openDocument v).1 (s.documents.openDocument v).2.toList) =
      runsOf u s + if v = u then 1 else 0 := by
  have hopen : (s.documents.set v ⟨v.localPath, none⟩).isOpen v = true := by
    rw [Documents.isOpen_set, decide_eq_true rfl, Bool.true_or]
  have hmem : u ∈ (s.documents.openDocument v).2.toList.map Ticket.uri ↔ v = u := by
    refine (Documents.mem_uris_request_iff (hw.set v)).trans ⟨fun h => h.1.symm, ?_⟩
    rintro rfl
    exact ⟨rfl, hopen, hp⟩
  rw [runsOf_issued (Documents.issues_openDocument s.documents v)]
  simp only [hmem]

theorem runsOf_didSave (hw : s.documents.WellFormed) (hp : u.localPath.isSome = true) (v : Uri) :
    runsOf u (s.issued (s.documents.request v).1 (s.documents.request v).2.toList) =
      runsOf u s + if v = u ∧ s.documents.isOpen u = true then 1 else 0 := by
  have hmem : u ∈ (s.documents.request v).2.toList.map Ticket.uri ↔
      v = u ∧ s.documents.isOpen u = true := by
    refine (Documents.mem_uris_request_iff hw).trans ⟨?_, ?_⟩
    · rintro ⟨rfl, hopen, -⟩
      exact ⟨rfl, hopen⟩
    · rintro ⟨rfl, hopen⟩
      exact ⟨rfl, hopen, hp⟩
  rw [runsOf_issued (Documents.issues_request s.documents v)]
  simp only [hmem]

theorem runsOf_changeRevalidates (hw : s.documents.WellFormed) (hp : u.localPath.isSome = true) :
    runsOf u ((s.setChange k .done).issued s.documents.requestAll.1 s.documents.requestAll.2) =
      runsOf u s + if s.documents.isOpen u = true then 1 else 0 := by
  rw [runsOf_issued (Documents.issues_requestAll hw)]
  simp only [Documents.mem_uris_requestAll_iff hw, hp, and_true]
  rfl

/-- One step: runs are started as they are called for, at once or when the change that calls for
them is done. -/
theorem Moves.balance (h : Moves s a s' effects) (hw : s.documents.WellFormed)
    (hidle : a.notifies = true → s.Idle) (hp : u.localPath.isSome = true) :
    runsOf u s' + owed u s' = runsOf u s + owed u s + called u s a := by
  -- a change that goes on is still under way
  have hpasses : s'.documents = s.documents → s'.underway + 1 = s.underway + 1 →
      s'.runs = s.runs → called u s a = 0 →
      runsOf u s' + owed u s' = runsOf u s + owed u s + called u s a := by
    intro hdocuments hunderway hruns hcalled
    refine balance_of_kept (m := 0) (n := 0) (by rw [hdocuments]) (Nat.succ.inj hunderway) ?_ ?_
    · rw [runsOf, hruns, ite_self]
      rfl
    · rw [hcalled, ite_self]
  -- a run that goes on starts no others, and calls for none
  have hgoes : ∀ {x : Server} {r : ℕ} {p : Phase}, s' = x.setPhase r p → x.runs = s.runs →
      x.changes = s.changes → x.documents.isOpen u = s.documents.isOpen u → called u s a = 0 →
      runsOf u s' + owed u s' = runsOf u s + owed u s + called u s a := by
    rintro x r p rfl hruns hchanges hopen hcalled
    refine balance_of_kept (m := 0) (n := 0) hopen (congrArg (List.countP _) hchanges) ?_ ?_
    · rw [runsOf_setPhase, runsOf, hruns, ite_self]
      rfl
    · rw [hcalled, ite_self]
  cases h with
  | didOpen v => exact balance_of_idle (hidle rfl) rfl (runsOf_didOpen hw hp v)
  | didSave v => exact balance_of_idle (hidle rfl) rfl (runsOf_didSave hw hp v)
  | didClose v => exact balance_of_idle (hidle rfl) rfl rfl
  | changeBegins configuration =>
    refine balance_of_kept (m := 0) (n := 1) rfl ?_ ?_ rfl
    · simp [underway]
    · rw [ite_self]
      rfl
  | changePasses k configuration hk => exact hpasses rfl (underway_setChange hk) rfl rfl
  | changeSets k configuration hk => exact hpasses rfl (underway_setChange hk) rfl rfl
  | changeRevalidates k configuration hk =>
    refine balance_of_kept (m := 1) (n := 0) ?_ (underway_setChange hk)
      (runsOf_changeRevalidates hw hp) (ite_self 0).symm
    exact (Documents.issues_requestAll hw).isOpen_eq u
  | startClosed r t hr => exact hgoes rfl rfl rfl rfl rfl
  | startOpen r t hr => exact hgoes rfl rfl rfl rfl rfl
  | askGlobal r t v hr => exact hgoes rfl rfl rfl rfl rfl
  | askCell r t v c hr => exact hgoes rfl rfl rfl rfl rfl
  | proceedReady r t c settings hr => exact hgoes rfl rfl rfl rfl rfl
  | proceedAsk r t c hr => exact hgoes rfl rfl rfl rfl rfl
  | answered r t c answer hr => exact hgoes rfl rfl rfl rfl rfl
  | check r t settings hr => exact hgoes rfl rfl rfl rfl rfl
  | returned r t settings result hr => exact hgoes rfl rfl rfl rfl rfl
  | finishPublishes r t => exact hgoes rfl rfl rfl (Documents.isOpen_finish s.documents t u) rfl
  | finishReports r t => exact hgoes rfl rfl rfl (Documents.isOpen_finish s.documents t u) rfl
  | finishDiscards r t => exact hgoes rfl rfl rfl rfl rfl

/-- Runs have been started for what called for them, but for those that are owed. -/
theorem balanced_of_session (h : Session perResource registers past s)
    (hturn : ∀ m ∈ past, m.action.notifies = true → m.before.Idle)
    (hp : u.localPath.isSome = true) :
    runsOf u s + owed u s = openings u past + openSaves u past + openChanges u past := by
  induction h with
  | nil => rfl
  | @snoc past s s' a effects h hs ih =>
    have hlast := hturn ⟨s, a, effects, s'⟩ (by simp)
    have hbalance := (moves_of_step hs).balance (wellFormed_of_session h) hlast hp
    rw [called_concat, ← ih fun m hm => hturn m (List.mem_append_left _ hm), hbalance]

/-- There are no runs without a local file. -/
theorem runsOf_eq_zero (h : Session perResource registers past s)
    (hp : u.localPath.isSome = false) : runsOf u s = 0 := by
  apply List.count_eq_zero_of_not_mem
  intro hu
  obtain ⟨run, hrun, rfl⟩ := List.mem_map.mp hu
  obtain ⟨r, hr⟩ := List.mem_iff_getElem?.mp hrun
  rw [(ticketed_of_session h r run hr).2] at hp
  cases hp

/-! ## The order of opening -/

/-- A document goes from closed to open. -/
def GoesOpenAt (past : List (Moment Server Action Effect)) (k : ℕ) (u : Uri) : Prop :=
  HappensAt past k fun m => m.action = .didOpen u ∧ m.before.documents.isOpen u = false

/-- A document last goes from closed to open. -/
def LastOpensAt (past : List (Moment Server Action Effect)) (k : ℕ) (u : Uri) : Prop :=
  GoesOpenAt past k u ∧ ∀ j, GoesOpenAt past j u → j ≤ k

theorem LastOpensAt.concat (h : LastOpensAt past k u)
    (hm : m.action = .didOpen u → m.before.documents.isOpen u = true) :
    LastOpensAt (past ++ [m]) k u := by
  refine ⟨h.1.concat, fun j hj => ?_⟩
  rcases happensAt_concat.mp hj with hj | ⟨-, ha, hclosed⟩
  · exact h.2 j hj
  · rw [hm ha] at hclosed
    cases hclosed

theorem lastOpensAt_last (ha : m.action = .didOpen u)
    (hclosed : m.before.documents.isOpen u = false) :
    LastOpensAt (past ++ [m]) past.length u := by
  refine ⟨HappensAt.last ⟨ha, hclosed⟩, fun j hj => ?_⟩
  have hlt := hj.lt_length
  rw [List.length_append, List.length_singleton] at hlt
  omega

/-- A document last went from closed to open before another one. -/
def OpensBefore (past : List (Moment Server Action Effect)) (u v : Uri) : Prop :=
  ∃ i j, LastOpensAt past i u ∧ LastOpensAt past j v ∧ i < j

theorem OpensBefore.concat (h : OpensBefore past u v)
    (hu : m.before.documents.isOpen u = true) (hv : m.before.documents.isOpen v = true) :
    OpensBefore (past ++ [m]) u v := by
  obtain ⟨i, j, hi, hj, hlt⟩ := h
  exact ⟨i, j, hi.concat fun _ => hu, hj.concat fun _ => hv, hlt⟩

/-- What a step does to the order of the table: a document that goes from closed to open comes last,
and one that is closed is taken out. -/
theorem Moves.keys_cases (h : Moves s a s' effects) :
    s'.documents.keys.Sublist s.documents.keys ∨
      ∃ u, a = .didOpen u ∧ s.documents.isOpen u = false ∧
        s'.documents.keys = s.documents.keys ++ [u] := by
  have hsame : s'.documents.keys = s.documents.keys → s'.documents.keys.Sublist s.documents.keys ∨
      ∃ u, a = .didOpen u ∧ s.documents.isOpen u = false ∧
        s'.documents.keys = s.documents.keys ++ [u] :=
    fun h => Or.inl (h ▸ List.Sublist.refl _)
  cases h with
  | didOpen u =>
    have hkeys := Documents.keys_openDocument s.documents u
    cases hopen : s.documents.isOpen u with
    | true =>
      rw [hopen] at hkeys
      exact hsame hkeys
    | false =>
      rw [hopen] at hkeys
      exact Or.inr ⟨u, rfl, hopen, hkeys⟩
  | didSave u => exact hsame (Documents.keys_request s.documents u)
  | didClose u =>
    have hkeys := Documents.keys_close s.documents u
    exact Or.inl (hkeys ▸ List.filter_sublist)
  | changeRevalidates => exact hsame (Documents.keys_requestEach _ s.documents)
  | finishPublishes _ t => exact hsame (Documents.keys_finish s.documents t)
  | finishReports _ t => exact hsame (Documents.keys_finish s.documents t)
  | _ => exact hsame rfl

/-- The table is in the order of opening. -/
structure Arranged (past : List (Moment Server Action Effect)) (s : Server) : Prop where
  opened : ∀ u ∈ s.documents.keys, ∃ k, LastOpensAt past k u
  order : s.documents.keys.Pairwise (OpensBefore past)

/-- One step keeps the order. -/
theorem Arranged.step (h : Arranged past s) (hm : Moves s a s' effects) :
    Arranged (past ++ [⟨s, a, effects, s'⟩]) s' := by
  have hopened : ∀ u ∈ s.documents.keys, ∃ k, LastOpensAt (past ++ [⟨s, a, effects, s'⟩]) k u := by
    intro u hu
    obtain ⟨k, hk⟩ := h.opened u hu
    exact ⟨k, hk.concat fun _ => Documents.mem_keys_iff.mp hu⟩
  have horder : s.documents.keys.Pairwise (OpensBefore (past ++ [⟨s, a, effects, s'⟩])) :=
    h.order.imp_of_mem fun hu hv hbefore =>
      hbefore.concat (Documents.mem_keys_iff.mp hu) (Documents.mem_keys_iff.mp hv)
  rcases hm.keys_cases with hsub | ⟨u, rfl, hclosed, hkeys⟩
  · exact ⟨fun u hu => hopened u (hsub.subset hu), horder.sublist hsub⟩
  · have hlast : LastOpensAt (past ++ [⟨s, .didOpen u, effects, s'⟩]) past.length u :=
      lastOpensAt_last rfl hclosed
    refine ⟨fun v hv => ?_, ?_⟩
    · rw [hkeys] at hv
      rcases List.mem_append.mp hv with hv | hv
      · exact hopened v hv
      · rw [List.mem_singleton.mp hv]
        exact ⟨past.length, hlast⟩
    · rw [hkeys, List.pairwise_append]
      refine ⟨horder, List.pairwise_singleton _ _, fun v hv w hw => ?_⟩
      rw [List.mem_singleton.mp hw]
      -- what was opened before was opened earlier in the trace
      obtain ⟨k, hk⟩ := h.opened v hv
      exact ⟨k, past.length, hk.concat fun _ => Documents.mem_keys_iff.mp hv, hlast, hk.1.lt_length⟩

theorem arranged_of_session (h : Session perResource registers past s) : Arranged past s := by
  induction h with
  | nil => exact ⟨nofun, List.Pairwise.nil⟩
  | snoc _ hs ih => exact ih.step (moves_of_step hs)

/-- The tickets that are given out for a change: one run is started for each of them; they name the
open documents with a local file, each once, in the order in which these last went from closed to
open; and their tokens follow the last one. -/
structure Batch (past : List (Moment Server Action Effect)) (s s' : Server)
    (ts : List Ticket) : Prop where
  runs : s'.runs = s.runs ++ ts.map fun t => ⟨t, .spawned⟩
  members : ∀ u, u ∈ ts.map Ticket.uri ↔
    s.documents.isOpen u = true ∧ u.localPath.isSome = true
  distinct : (ts.map Ticket.uri).Nodup
  paths : ∀ t ∈ ts, t.uri.localPath = some t.path
  order : (ts.map Ticket.uri).Pairwise (OpensBefore past)
  tokens : ts.map Ticket.token = List.range' (s.documents.lastToken + 1) ts.length

theorem batch_of_moves (h : Session perResource registers past s)
    (hm : Moves s (.changeRevalidates change) s' effects) :
    Batch past s s' s.documents.requestAll.2 := by
  have hw := wellFormed_of_session h
  have hissues := Documents.issues_requestAll hw
  cases hm
  exact ⟨rfl, fun u => Documents.mem_uris_requestAll_iff hw, hissues.distinct,
    fun t ht => hissues.localPath hw.path ht,
    (arranged_of_session h).order.sublist (Documents.uris_requestEach_sublist _ _), hissues.tokens⟩

/-! ## Changes are handled once -/

/-- What a step does to a change: nothing, or it brings it on by one phase. -/
theorem Moves.change_cases (h : Moves s a s' effects) {configuration : Json} {p : ChangePhase}
    (hc : s.changes[change]? = some ⟨configuration, p⟩) :
    (s'.changes[change]? = some ⟨configuration, p⟩ ∧ a ≠ .changeRevalidates change) ∨
      (p = .cleared ∧ s'.changes[change]? = some ⟨configuration, .applied⟩ ∧
        a = .changeApplies change) ∨
      p = .applied ∧ s'.changes[change]? = some ⟨configuration, .done⟩ ∧
        a = .changeRevalidates change := by
  have hset : ∀ {k : ℕ} {other : Json} {p' q : ChangePhase},
      s.changes[k]? = some ⟨other, p'⟩ →
      (k = change ∧ p = p' ∧ (s.setChange k q).changes[change]? = some ⟨configuration, q⟩) ∨
        k ≠ change ∧ (s.setChange k q).changes[change]? = some ⟨configuration, p⟩ := by
    intro k other p' q hk
    rw [changes_setChange hk]
    by_cases hkc : k = change
    · subst hkc
      rw [hc] at hk
      cases hk
      exact Or.inl ⟨rfl, rfl, if_pos rfl⟩
    · exact Or.inr ⟨hkc, (if_neg fun h => hkc h.symm).trans hc⟩
  cases h with
  | changeBegins => exact Or.inl ⟨getElem?_concat_iff.mpr (Or.inl hc), nofun⟩
  | changePasses k _ hk =>
    rcases hset (q := .applied) hk with ⟨rfl, rfl, hq⟩ | ⟨-, hq⟩
    · exact Or.inr (Or.inl ⟨rfl, hq, rfl⟩)
    · exact Or.inl ⟨hq, nofun⟩
  | changeSets k _ hk =>
    rcases hset (q := .applied) hk with ⟨rfl, rfl, hq⟩ | ⟨-, hq⟩
    · exact Or.inr (Or.inl ⟨rfl, hq, rfl⟩)
    · exact Or.inl ⟨hq, nofun⟩
  | changeRevalidates k _ hk =>
    rcases hset (q := .done) hk with ⟨rfl, rfl, hq⟩ | ⟨hne, hq⟩
    · exact Or.inr (Or.inr ⟨rfl, hq, rfl⟩)
    · refine Or.inl ⟨hq, fun ha => ?_⟩
      cases ha
      exact hne rfl
  | _ => exact Or.inl ⟨hc, nofun⟩

/-- How far a change that began at `i` has come, as the trace tells. -/
def Handled (past : List (Moment Server Action Effect)) (i change : ℕ) : ChangePhase → Prop
  | .done => ∃ j, i < j ∧ (∀ k, i < k → k < j → ¬NotifiedAt past k) ∧
      ∀ k, RevalidatesAt past k change ↔ k = j
  | _ => (∀ k, i < k → ¬NotifiedAt past k) ∧ ∀ k, ¬RevalidatesAt past k change

theorem Handled.concat {p : ChangePhase} (h : Handled past i change p)
    (ha : m.action ≠ .changeRevalidates change) (hn : m.action.notifies = true → p = .done) :
    Handled (past ++ [m]) i change p := by
  have hrevalidates : ∀ k, RevalidatesAt (past ++ [m]) k change ↔ RevalidatesAt past k change :=
    fun k => happensAt_concat.trans (or_iff_left fun h => ha h.2)
  have hquiet : p ≠ .done → (∀ k, i < k → ¬NotifiedAt past k) →
      ∀ k, i < k → ¬NotifiedAt (past ++ [m]) k := by
    intro hp hnone k hik hk
    rcases happensAt_concat.mp hk with hk | ⟨-, hm⟩
    · exact hnone k hik hk
    · exact hp (hn hm)
  cases p with
  | cleared => exact ⟨hquiet nofun h.1, fun k hk => h.2 k ((hrevalidates k).mp hk)⟩
  | applied => exact ⟨hquiet nofun h.1, fun k hk => h.2 k ((hrevalidates k).mp hk)⟩
  | done =>
    obtain ⟨j, hij, hnone, honly⟩ := h
    refine ⟨j, hij, fun k hik hkj hk => ?_, fun k => (hrevalidates k).trans (honly k)⟩
    have hj : RevalidatesAt past j change := (honly j).mpr rfl
    have hlt := hj.lt_length
    rcases happensAt_concat.mp hk with hk | ⟨hk, -⟩
    · exact hnone k hik hkj hk
    · omega

/-- A change that revalidates is done from then on. -/
theorem Handled.last (h : Handled past i change .applied) (hi : i < past.length)
    (ha : m.action = .changeRevalidates change) : Handled (past ++ [m]) i change .done := by
  refine ⟨past.length, hi, fun k hik hk hn => ?_, fun k => ?_⟩
  · rcases happensAt_concat.mp hn with hn | ⟨hlast, -⟩
    · exact h.1 k hik hn
    · omega
  · refine happensAt_concat.trans ⟨fun hk => ?_, fun hk => Or.inr ⟨hk, ha⟩⟩
    exact hk.elim (fun hk => absurd hk (h.2 k)) And.left

/-- A change that has just begun. -/
theorem handled_begins (h : Session perResource registers past s) {configuration : Json}
    (ha : m.action = .changeBegins configuration) :
    Handled (past ++ [m]) past.length s.changes.length .cleared := by
  refine ⟨fun k hk hn => ?_, fun k hk => ?_⟩
  · have hlt := hn.lt_length
    rw [List.length_append, List.length_singleton] at hlt
    omega
  · rcases happensAt_concat.mp hk with hk | ⟨-, hm⟩
    · obtain ⟨_, hdone⟩ := done_of_revalidatesAt h hk
      exact absurd (List.getElem?_eq_some_iff.mp hdone).1 (Nat.lt_irrefl _)
    · rw [ha] at hm
      cases hm

/-- A change comes as far as the trace tells, and no notification comes before it is done. -/
theorem handled_of_session (h : Session perResource registers past s)
    (hturn : ∀ m ∈ past, m.action.notifies = true → m.before.Idle) (hi : BeginsAt past i change) :
    ∃ configuration p, s.changes[change]? = some ⟨configuration, p⟩ ∧ Handled past i change p := by
  induction h with
  | nil => exact absurd hi not_happensAt_nil
  | @snoc past s s' a effects h hs ih =>
    have hm := moves_of_step hs
    have hlast : a.notifies = true → s.Idle := hturn ⟨s, a, effects, s'⟩ (by simp)
    rcases happensAt_concat.mp hi with hbegun | ⟨rfl, ⟨configuration, ha⟩, hchange⟩
    · obtain ⟨configuration, p, hp, hhandled⟩ :=
        ih (fun m hm => hturn m (List.mem_append_left _ hm)) hbegun
      have hidle : a.notifies = true → p = .done :=
        fun hn => hlast hn _ (List.mem_of_getElem? hp)
      rcases hm.change_cases hp with ⟨hp', ha⟩ | ⟨rfl, hp', rfl⟩ | ⟨rfl, hp', rfl⟩
      · exact ⟨configuration, p, hp', hhandled.concat ha hidle⟩
      · exact ⟨configuration, .applied, hp', Handled.concat (p := .applied) hhandled nofun nofun⟩
      · exact ⟨configuration, .done, hp', hhandled.last hbegun.lt_length rfl⟩
    · dsimp only at ha hchange
      subst ha hchange
      refine ⟨configuration, .cleared, ?_, handled_begins h rfl⟩
      cases hm
      exact getElem?_concat_iff.mpr (Or.inr ⟨rfl, rfl⟩)

/-- **Every event of a document's life starts the runs it should.** If notifications are handled one
after the other, with any steps of runs in between, then the number of runs of a document with a
local file is the number of times that it was opened, and saved while it was open, and that the
configuration changed while it was open; without a local file there are none. A document is open
exactly if the last thing that the editor said about it was that it is. Every configuration change
is handled once, before the next notification, and gives out all its tickets at once: one for each
open document with a local file, in the order in which these last went from closed to open, with
tokens that follow each other. -/
theorem lifecycle_runs (h : Session perResource registers past s) (hturn : InTurn past s) :
    (∀ u, runsOf u s = if u.localPath.isSome then
        openings u past + openSaves u past + openChanges u past else 0) ∧
      (∀ u i m, past[i]? = some m →
        m.before.documents.isOpen u = saidOpen u (past.take i)) ∧
      ∀ i change, BeginsAt past i change → ∃ j m ts, i < j ∧ past[j]? = some m ∧
        (∀ k, i < k → k < j → ¬NotifiedAt past k) ∧
        (∀ k, RevalidatesAt past k change ↔ k = j) ∧
        Batch (past.take j) m.before m.after ts := by
  refine ⟨fun u => ?_, fun u i m hm => isOpen_eq_saidOpen (h.take_at hm) u, fun i change hi => ?_⟩
  · cases hp : u.localPath.isSome with
    | false => exact runsOf_eq_zero h hp
    | true =>
      have hbalanced := balanced_of_session h hturn.each hp
      rw [owed, hturn.last.underway, ite_self] at hbalanced
      exact hbalanced
  · obtain ⟨configuration, p, hp, hhandled⟩ := handled_of_session h hturn.each hi
    have hdone : p = .done := hturn.last _ (List.mem_of_getElem? hp)
    subst hdone
    obtain ⟨j, hij, hnone, honly⟩ := hhandled
    obtain ⟨m, hm, ha⟩ := (honly j).mpr rfl
    have hmoves := moves_of_step (h.step_at hm)
    rw [ha] at hmoves
    exact ⟨j, m, _, hij, hm, hnone, honly, batch_of_moves (h.take_at hm) hmoves⟩

/-- A document that is in no file. -/
def draft : Uri := ⟨"untitled", none, "Untitled-1", none, none⟩

/-- Two documents are open when the first is opened again, closed, and opened once more, and another
one has no local file. Then the configuration changes while a run begins, and one document is saved
that is not open. -/
def reopened : List (Moment Server Action Effect) × Server :=
  replay step (initial.introduced true false)
    [.didOpen Documents.sampleFile, .didOpen Documents.otherFile, .didOpen draft,
      .start 0, .didOpen Documents.sampleFile, .didClose Documents.sampleFile,
      .didSave Documents.sampleFile, .didOpen Documents.sampleFile, .didSave draft,
      .changeBegins .null, .start 1, .changeApplies 0, .ask 1, .changeRevalidates 0, .start 4,
      .didSave Documents.otherFile]

theorem lifecycle_runs_reopened :
    InTurn reopened.1 reopened.2 ∧
      runsOf Documents.sampleFile reopened.2 = 3 + 0 + 1 ∧
      runsOf Documents.otherFile reopened.2 = 1 + 1 + 1 ∧
      runsOf draft reopened.2 = 0 ∧
      ∃ m ts, reopened.1[13]? = some m ∧ Batch (reopened.1.take 13) m.before m.after ts ∧
        ts.map Ticket.uri = [Documents.otherFile, Documents.sampleFile] := by
  have h : Session true false reopened.1 reopened.2 := replay_trace _ _ _
  have hturn : InTurn reopened.1 reopened.2 := ⟨by decide, by decide⟩
  obtain ⟨hruns, -, hbatch⟩ := lifecycle_runs h hturn
  obtain ⟨j, m, ts, -, hm, -, honly, hts⟩ := hbatch 9 0 ⟨_, rfl, ⟨_, rfl⟩, rfl⟩
  have hj : 13 = j := (honly 13).mp ⟨_, rfl, rfl⟩
  subst hj
  have huris : (m.after.runs.drop m.before.runs.length).map (fun run => run.ticket.uri) =
      ts.map Ticket.uri := by
    rw [hts.runs, List.drop_left, List.map_map]
    rfl
  refine ⟨hturn, hruns _, hruns _, hruns _, m, ts, hm, hts, huris.symm.trans ?_⟩
  cases hm
  decide

end Server

end LineLint
