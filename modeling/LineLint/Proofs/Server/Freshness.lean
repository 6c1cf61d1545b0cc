import LineLint.Proofs.Server.View

/-!
# The settings behind what is published

A configuration change is handled in three steps between which anything else may happen, and
requests to the editor can be under way for a long time. Still no run publishes with settings from
before a change that has been handled. Two things work together: a change and a close take the
entries away, so that a cell never serves anyone who comes after them; and they take the tickets
away, so that those who came before them publish nothing.

* `BeginsAt`, `AppliesAt`, `RevalidatesAt` — the three steps of a configuration change.
* `AsksAt`, `AnsweredAt`, `FetchedAt` — a request to the editor and what came of it.
* `MadeAt` — when a cell was made, and for which document.
* `Current` — the document still waits for the run of this ticket.
* `Sourced` — what is known of the settings of a run, by its phase.

Results:

* `entry_made`: an entry's cell was made after the last time that the document's entry was
  forgotten.
* `current_kept`: what makes settings outdated takes the ticket away.
* `Provenance.sourced_advance`, `provenance_of_session`: the invariant of runs and cells.
* `published_settings_fresh`: the settings of what is published are not outdated.
-/

namespace LineLint.Server

variable {u v : Uri} {past : List (Moment Server Action Effect)} {m : Moment Server Action Effect}
  {s s' : Server} {a : Action} {effects : List Effect} {perResource registers : Bool}
  {t : Ticket} {settings : Settings} {answer : Except SettingsError Settings} {i j k c r change : ℕ}

/-! ## What a trace says -/

/-- A configuration change begins: all cached settings are forgotten. -/
def BeginsAt (past : List (Moment Server Action Effect)) (k change : ℕ) : Prop :=
  HappensAt past k fun m =>
    (∃ configuration, m.action = .changeBegins configuration) ∧ m.before.changes.length = change

/-- The pushed configuration of a change is taken over where it counts. -/
def AppliesAt (past : List (Moment Server Action Effect)) (k change : ℕ) : Prop :=
  HappensAt past k fun m => m.action = .changeApplies change

/-- All open documents get new runs because of a change. -/
def RevalidatesAt (past : List (Moment Server Action Effect)) (k change : ℕ) : Prop :=
  HappensAt past k fun m => m.action = .changeRevalidates change

/-- The editor closes a document. -/
def ClosesAt (past : List (Moment Server Action Effect)) (k : ℕ) (u : Uri) : Prop :=
  HappensAt past k fun m => m.action = .didClose u

/-- A run asks the editor for the settings of a document. -/
def AsksAt (past : List (Moment Server Action Effect)) (k r : ℕ) (u : Uri) : Prop :=
  HappensAt past k fun m => .fetch r u ∈ m.effects

/-- The editor answers a run. -/
def AnsweredAt (past : List (Moment Server Action Effect)) (k r : ℕ)
    (answer : Except SettingsError Settings) : Prop :=
  HappensAt past k fun m => m.action = .answered r answer

/-- A run takes the global value. -/
def ReadsAt (past : List (Moment Server Action Effect)) (k r : ℕ) (settings : Settings) : Prop :=
  HappensAt past k fun m => m.action = .ask r ∧ m.before.cache.global = settings

/-- A run starts the checker. -/
def ChecksAt (past : List (Moment Server Action Effect)) (k r : ℕ) (path : Bytes)
    (maxLength : UInt32) : Prop :=
  HappensAt past k fun m => .check r path maxLength ∈ m.effects

/-- Settings are the outcome of a request that was begun at a place: some run asked there, and its
next answer gives these settings, or is not usable, and they are the defaults. -/
def FetchedAt (past : List (Moment Server Action Effect)) (i : ℕ) (u : Uri)
    (settings : Settings) : Prop :=
  ∃ j asker answer, i < j ∧ AsksAt past i asker u ∧ AnsweredAt past j asker answer ∧
    (∀ k other, i < k → k < j → ¬AnsweredAt past k asker other) ∧
    settings = Settings.resolved answer

/-- What was asked for a document before this place is outdated: the document is closed, or a change
begins that has been handled to its end. -/
def OutdatesAt (past : List (Moment Server Action Effect)) (k : ℕ) (u : Uri) : Prop :=
  ClosesAt past k u ∨ ∃ change j, BeginsAt past k change ∧ RevalidatesAt past j change

/-- The global value before this place is outdated: it is replaced for a change that has been
handled to its end. -/
def ReplacesAt (past : List (Moment Server Action Effect)) (k : ℕ) : Prop :=
  ∃ change j, AppliesAt past k change ∧ RevalidatesAt past j change

theorem FetchedAt.concat (h : FetchedAt past i u settings) :
    FetchedAt (past ++ [m]) i u settings := by
  obtain ⟨j, asker, answer, hij, hask, hans, hnone, hset⟩ := h
  refine ⟨j, asker, answer, hij, hask.concat, hans.concat, ?_, hset⟩
  intro k other hik hkj hk
  have hj := hans.lt_length
  rcases happensAt_concat.mp hk with hk | ⟨hk, -⟩
  · exact hnone k other hik hkj hk
  · omega

/-! ## Configuration changes -/

theorem changes_setChange {configuration : Json} {p p' : ChangePhase}
    (hk : s.changes[k]? = some ⟨configuration, p⟩) (i : ℕ) :
    (s.setChange k p').changes[i]? = if i = k then some ⟨configuration, p'⟩ else s.changes[i]? :=
  getElem?_modify_of_eq_some hk _ i

/-- A change that is done stays done. -/
theorem Moves.done_kept (h : Moves s a s' effects) {configuration : Json}
    (hd : s.changes[change]? = some ⟨configuration, .done⟩) :
    s'.changes[change]? = some ⟨configuration, .done⟩ := by
  have hset : ∀ {k : ℕ} {other : Json} {p p' : ChangePhase}, s.changes[k]? = some ⟨other, p⟩ →
      p ≠ .done → (s.setChange k p').changes[change]? = some ⟨configuration, .done⟩ := by
    intro k other p p' hk hp
    rw [changes_setChange hk]
    split_ifs with hkc
    · subst hkc
      rw [hd] at hk
      cases hk
      exact absurd rfl hp
    · exact hd
  cases h with
  | changeBegins => exact getElem?_concat_iff.mpr (Or.inl hd)
  | changePasses _ _ hk => exact hset hk nofun
  | changeSets _ _ hk => exact hset hk nofun
  | changeRevalidates _ _ hk => exact hset hk nofun
  | _ => exact hd

/-- A change that has led to new runs is done. -/
theorem done_of_revalidatesAt (h : Session perResource registers past s)
    (hj : RevalidatesAt past j change) :
    ∃ configuration, s.changes[change]? = some ⟨configuration, .done⟩ := by
  induction h with
  | nil => exact absurd hj not_happensAt_nil
  | snoc h hs ih =>
    have hm := moves_of_step hs
    rcases happensAt_concat.mp hj with hj | ⟨-, ha⟩
    · obtain ⟨configuration, hd⟩ := ih hj
      exact ⟨configuration, hm.done_kept hd⟩
    · dsimp only at ha
      subst ha
      cases hm with
      | changeRevalidates _ configuration hk =>
        refine ⟨configuration, ?_⟩
        show ((setChange _ change .done).changes)[change]? = _
        rw [changes_setChange hk, if_pos rfl]

/-! ## Tickets -/

/-- The document of a ticket still waits for the run of this ticket. -/
def Current (s : Server) (t : Ticket) : Prop := s.documents.pending? t.uri = some t.token

/-- A document does not begin to wait for a ticket that is not new. -/
theorem Moves.current_before (h : Moves s a s' effects) (hw : s.documents.WellFormed)
    (htok : t.token ≤ s.documents.lastToken) (hc : Current s' t) : Current s t := by
  cases glimpse_of_moves hw t.uri h with
  | same _ _ _ waits =>
    rcases waits t.token hc with hb | hb
    · exact hb
    · dsimp only at hb
      omega
  | cleared _ _ _ closed =>
    have hopen := Documents.isOpen_of_pending? hc
    rw [closed] at hopen
    cases hopen
  | accepted _ _ _ _ _ _ waits _ =>
    rw [Current, waits] at hc
    cases hc

/-- Nobody waits for a ticket whose document has just been closed. -/
theorem Moves.not_current_didClose (h : Moves s (.didClose t.uri) s' effects) : ¬Current s' t := by
  intro hc
  cases h
  have hopen := Documents.isOpen_of_pending? hc
  rw [Documents.isOpen, Documents.get?_close, if_pos rfl] at hopen
  cases hopen

/-- Nobody waits for an old ticket once all open documents have new runs. -/
theorem Moves.not_current_changeRevalidates (h : Moves s (.changeRevalidates change) s' effects)
    (hw : s.documents.WellFormed) (htok : t.token ≤ s.documents.lastToken)
    (hpath : t.uri.localPath = some t.path) : ¬Current s' t := by
  intro hc
  have hopen := Documents.isOpen_of_pending? (h.current_before hw htok hc)
  cases h
  obtain ⟨new, hnew, huri⟩ := Documents.requestAll_complete hw hopen (by rw [hpath]; nofun)
  have hissues := Documents.issues_requestAll hw
  have hpending := hissues.pending?_eq hnew
  have hfresh := (hissues.token_mem hnew).1
  rw [huri] at hpending
  have htoken := Option.some.inj (hpending.symm.trans hc)
  omega

/-- What makes settings outdated takes the ticket away: if a document waits for an old ticket after
a step, it did so before, and the step makes nothing outdated. -/
theorem current_kept (h : Session perResource registers past s)
    (hs : s.step a = some (s', effects)) {p : Phase} (hr : s.runs[r]? = some ⟨t, p⟩)
    (hc : Current s' t) :
    Current s t ∧
      (∀ k, OutdatesAt (past ++ [⟨s, a, effects, s'⟩]) k t.uri → OutdatesAt past k t.uri) ∧
      ∀ k, ReplacesAt (past ++ [⟨s, a, effects, s'⟩]) k → ReplacesAt past k := by
  have hm := moves_of_step hs
  have hw := wellFormed_of_session h
  obtain ⟨htok, hpath⟩ := ticketed_of_session h r _ hr
  -- the change that this step ends would have taken the ticket away
  have hends : ∀ {j change}, RevalidatesAt (past ++ [⟨s, a, effects, s'⟩]) j change →
      RevalidatesAt past j change := by
    intro j change hj
    rcases happensAt_concat.mp hj with hj | ⟨-, ha⟩
    · exact hj
    · dsimp only at ha
      subst ha
      exact absurd hc (hm.not_current_changeRevalidates hw htok hpath)
  refine ⟨hm.current_before hw htok hc, ?_, ?_⟩
  · rintro k (hk | ⟨change, j, hk, hj⟩)
    · rcases happensAt_concat.mp hk with hk | ⟨-, ha⟩
      · exact Or.inl hk
      · dsimp only at ha
        subst ha
        exact absurd hc hm.not_current_didClose
    · have hj := hends hj
      rcases happensAt_concat.mp hk with hk | ⟨-, -, hchange⟩
      · exact Or.inr ⟨change, j, hk, hj⟩
      · -- a change that begins now has not been handled before
        obtain ⟨configuration, hd⟩ := done_of_revalidatesAt h hj
        have := (List.getElem?_eq_some_iff.mp hd).1
        dsimp only at hchange
        omega
  · rintro k ⟨change, j, hk, hj⟩
    have hj := hends hj
    rcases happensAt_concat.mp hk with hk | ⟨-, ha⟩
    · exact ⟨change, j, hk, hj⟩
    · obtain ⟨configuration, hd⟩ := done_of_revalidatesAt h hj
      dsimp only at ha
      subst ha
      cases hm with
      | changePasses _ _ hcleared => rw [hd] at hcleared; cases hcleared
      | changeSets _ _ hcleared => rw [hd] at hcleared; cases hcleared

/-! ## Cells and entries -/

theorem Moves.perResource_eq (h : Moves s a s' effects) :
    s'.cache.perResource = s.cache.perResource := by
  cases h with
  | startOpen _ t =>
    show (s.cache.lookup t.uri).1.perResource = s.cache.perResource
    exact Cache.lookup_perResource s.cache t.uri
  | answered _ _ c answer => exact Cache.settle_perResource s.cache c answer
  | _ => rfl

/-- The mode stays what the editor has said it is. -/
theorem perResource_of_session (h : Session perResource registers past s) :
    s.cache.perResource = perResource := by
  induction h with
  | nil => rfl
  | snoc _ hs ih => rw [(moves_of_step hs).perResource_eq, ih]

/-- A cell is made for a document. -/
def MadeAt (past : List (Moment Server Action Effect)) (k c : ℕ) (u : Uri) : Prop :=
  HappensAt past k fun m =>
    m.before.cache.cells.length = c ∧ c < m.after.cache.cells.length ∧
      ∃ r run, m.action = .start r ∧ m.before.runs[r]? = some run ∧ run.ticket.uri = u

theorem Moves.cells_length_le (h : Moves s a s' effects) :
    s.cache.cells.length ≤ s'.cache.cells.length := by
  cases h with
  | startOpen _ t => exact Cache.cells_length_lookup_le s.cache t.uri
  | askCell _ _ _ c => exact Nat.le_of_eq (Cache.cells_length_update ..).symm
  | answered _ _ c answer => exact Nat.le_of_eq (Cache.cells_length_settle s.cache c answer).symm
  | _ => exact Nat.le_refl _

theorem madeAt_lt (h : Session perResource registers past s) (hk : MadeAt past k c u) :
    c < s.cache.cells.length := by
  induction h with
  | nil => exact absurd hk not_happensAt_nil
  | snoc _ hs ih =>
    rcases happensAt_concat.mp hk with hk | ⟨-, -, hc, -⟩
    · exact Nat.lt_of_lt_of_le (ih hk) (moves_of_step hs).cells_length_le
    · exact hc

/-- A cell is made once, for one document. -/
theorem madeAt_unique (h : Session perResource registers past s) (hj : MadeAt past j c v)
    (hk : MadeAt past k c u) : j = k ∧ v = u := by
  induction h with
  | nil => exact absurd hk not_happensAt_nil
  | snoc h hs ih =>
    rcases happensAt_concat.mp hj with hj | ⟨hj, hjc, -, r, run, hra, hrun, hv⟩
    · rcases happensAt_concat.mp hk with hk | ⟨-, hkc, -⟩
      · exact ih hj hk
      · have := madeAt_lt h hj
        dsimp only at hkc
        omega
    · rcases happensAt_concat.mp hk with hk | ⟨hk, -, -, r', run', hra', hrun', hu⟩
      · have := madeAt_lt h hk
        dsimp only at hjc
        omega
      · dsimp only at hra hra' hrun hrun'
        rw [hra] at hra'
        cases hra'
        rw [hrun] at hrun'
        cases hrun'
        exact ⟨hj.trans hk.symm, hv.symm.trans hu⟩

/-- The entry of a document is forgotten. -/
def ForgetsAt (past : List (Moment Server Action Effect)) (k : ℕ) (u : Uri) : Prop :=
  HappensAt past k fun m =>
    m.action = .didClose u ∨ ∃ configuration, m.action = .changeBegins configuration

theorem OutdatesAt.forgetsAt (h : OutdatesAt past k u) : ForgetsAt past k u := by
  rcases h with ⟨m, hm, ha⟩ | ⟨_, _, ⟨m, hm, ha, -⟩, -⟩
  · exact ⟨m, hm, Or.inl ha⟩
  · exact ⟨m, hm, Or.inr ha⟩

/-- An entry that is there after a step was there before, and the step does not forget it, or the
step makes it together with its cell. -/
theorem Moves.entry_cases (h : Moves s a s' effects) (he : s'.cache.entry? u = some c) :
    (s.cache.entry? u = some c ∧ a ≠ .didClose u ∧
        ∀ configuration, a ≠ .changeBegins configuration) ∨
      s.cache.cells.length = c ∧ c < s'.cache.cells.length ∧
        ∃ r run, a = .start r ∧ s.runs[r]? = some run ∧ run.ticket.uri = u := by
  cases h with
  | didClose v =>
    change Cache.entry? (s.cache.invalidate v).1 u = some c at he
    rw [Cache.entry?_invalidate] at he
    split_ifs at he with hu
    refine Or.inl ⟨he, ?_, nofun⟩
    intro ha
    cases ha
    exact hu rfl
  | changeBegins => cases he
  | startOpen r t hr =>
    change Cache.entry? (s.cache.lookup t.uri).1 u = some c at he
    show _ ∨ _ ∧ c < (s.cache.lookup t.uri).1.cells.length ∧ _
    rcases Cache.lookup_entry?_cases he with he | ⟨rfl, hc, hlt⟩
    · exact Or.inl ⟨he, nofun, nofun⟩
    · exact Or.inr ⟨hc, hlt, r, _, rfl, hr, rfl⟩
  | answered _ _ i answer =>
    change Cache.entry? (s.cache.settle i answer).1 u = some c at he
    rw [Cache.entry?_settle] at he
    exact Or.inl ⟨he, nofun, nofun⟩
  | _ => exact Or.inl ⟨he, nofun, nofun⟩

/-- The cell of an entry was made for its document, after the entry was last forgotten. -/
theorem entry_made (h : Session perResource registers past s) (he : s.cache.entry? u = some c) :
    ∃ b, MadeAt past b c u ∧ ∀ k, ForgetsAt past k u → k < b := by
  induction h with
  | nil => cases he
  | @snoc past s s' a effects h hs ih =>
    rcases (moves_of_step hs).entry_cases he with ⟨he, hclose, hbegin⟩ | hmade
    · obtain ⟨b, hb, hlast⟩ := ih he
      refine ⟨b, hb.concat, fun k hk => ?_⟩
      rcases happensAt_concat.mp hk with hk | ⟨-, ha | ⟨configuration, ha⟩⟩
      · exact hlast k hk
      · exact absurd ha hclose
      · exact absurd ha (hbegin configuration)
    · refine ⟨past.length, HappensAt.last hmade, fun k hk => ?_⟩
      obtain ⟨-, -, r, _, rfl, -⟩ := hmade
      rcases happensAt_concat.mp hk with hk | ⟨-, ha | ⟨configuration, ha⟩⟩
      · exact hk.lt_length
      · cases ha
      · cases ha

/-! ## Runs -/

/-- A run is served by a cell that was made at `b` for its document. As long as the document waits
for the run, nothing since then has made settings outdated. -/
def Served (past : List (Moment Server Action Effect)) (s : Server) (t : Ticket) (c b : ℕ) : Prop :=
  MadeAt past b c t.uri ∧ (Current s t → ∀ k, OutdatesAt past k t.uri → k < b)

/-- Where the settings of a run come from. As long as the document waits for the run, nothing since
then has made them outdated. -/
structure Based (perResource : Bool) (past : List (Moment Server Action Effect)) (s : Server)
    (r : ℕ) (t : Ticket) (settings : Settings) : Prop where
  fetched : perResource = true → ∃ i, FetchedAt past i t.uri settings ∧
    (Current s t → ∀ k, OutdatesAt past k t.uri → k < i)
  read : perResource = false → ∃ i, ReadsAt past i r settings ∧
    (Current s t → ∀ k, ReplacesAt past k → k < i)

/-- What is known of the settings of a run, by its phase. -/
def Sourced (perResource : Bool) (past : List (Moment Server Action Effect)) (s : Server) (r : ℕ)
    (t : Ticket) : Phase → Prop
  | .spawned => True
  | .claimed ⟨_, none⟩ => perResource = false
  | .claimed ⟨_, some c⟩ => perResource = true ∧ ∃ b, Served past s t c b
  | .inLine c => perResource = true ∧ ∃ b, Served past s t c b
  | .fetching c => perResource = true ∧ ∃ b, Served past s t c b ∧
      ∃ i, b < i ∧ AsksAt past i r t.uri ∧ ∀ k answer, AnsweredAt past k r answer → k < i
  | .settled settings => Based perResource past s r t settings
  | .checking settings => Based perResource past s r t settings ∧
      ∃ k, ChecksAt past k r t.path settings.maxLength
  | .checked settings _ => Based perResource past s r t settings ∧
      ∃ k, ChecksAt past k r t.path settings.maxLength
  | .finished => True

/-- What is known of the value of a cell. -/
def Filled (past : List (Moment Server Action Effect)) (c : ℕ) (settings : Settings) : Prop :=
  ∃ b u, MadeAt past b c u ∧ ∃ i, b < i ∧ FetchedAt past i u settings

theorem Filled.concat (h : Filled past c settings) : Filled (past ++ [m]) c settings := by
  obtain ⟨b, u, hb, i, hbi, hi⟩ := h
  exact ⟨b, u, hb.concat, i, hbi, hi.concat⟩

section

variable (hkept : Current s' t → Current s t ∧
  (∀ k, OutdatesAt (past ++ [m]) k t.uri → OutdatesAt past k t.uri) ∧
  ∀ k, ReplacesAt (past ++ [m]) k → ReplacesAt past k)

include hkept

theorem Served.concat {b : ℕ} (h : Served past s t c b) : Served (past ++ [m]) s' t c b := by
  refine ⟨h.1.concat, fun hc k hk => ?_⟩
  obtain ⟨hcur, hout, -⟩ := hkept hc
  exact h.2 hcur k (hout k hk)

theorem Based.concat (h : Based perResource past s r t settings) :
    Based perResource (past ++ [m]) s' r t settings where
  fetched := by
    intro hmode
    obtain ⟨i, hi, hlast⟩ := h.fetched hmode
    refine ⟨i, hi.concat, fun hc k hk => ?_⟩
    obtain ⟨hcur, hout, -⟩ := hkept hc
    exact hlast hcur k (hout k hk)
  read := by
    intro hmode
    obtain ⟨i, hi, hlast⟩ := h.read hmode
    refine ⟨i, hi.concat, fun hc k hk => ?_⟩
    obtain ⟨hcur, -, hrep⟩ := hkept hc
    exact hlast hcur k (hrep k hk)

/-- What is known of a run stays true while others take their steps. -/
theorem Sourced.concat {p : Phase} (hne : ∀ answer, m.action ≠ .answered r answer)
    (h : Sourced perResource past s r t p) : Sourced perResource (past ++ [m]) s' r t p := by
  cases p with
  | spawned => trivial
  | claimed lookup =>
    obtain ⟨u, _ | c⟩ := lookup
    · exact h
    · obtain ⟨hmode, b, hb⟩ := h
      exact ⟨hmode, b, hb.concat hkept⟩
  | inLine c =>
    obtain ⟨hmode, b, hb⟩ := h
    exact ⟨hmode, b, hb.concat hkept⟩
  | fetching c =>
    obtain ⟨hmode, b, hb, i, hbi, hask, hlast⟩ := h
    refine ⟨hmode, b, hb.concat hkept, i, hbi, hask.concat, fun k answer hk => ?_⟩
    rcases happensAt_concat.mp hk with hk | ⟨-, ha⟩
    · exact hlast k answer hk
    · exact absurd ha (hne answer)
  | settled settings => exact Based.concat hkept h
  | checking settings =>
    obtain ⟨hbased, k, hk⟩ := h
    exact ⟨hbased.concat hkept, k, hk.concat⟩
  | checked settings result =>
    obtain ⟨hbased, k, hk⟩ := h
    exact ⟨hbased.concat hkept, k, hk.concat⟩
  | finished => trivial

end

/-! ## The steps of a run -/

/-- What is known along a trace of the cells that have a value, and of the runs. -/
structure Provenance (perResource : Bool) (past : List (Moment Server Action Effect))
    (s : Server) : Prop where
  filled : ∀ c settings, (s.cache.cell c).value = some settings → Filled past c settings
  sourced : ∀ r t p, s.runs[r]? = some ⟨t, p⟩ → Sourced perResource past s r t p

/-- The answer to a request settles what was fetched. -/
theorem fetchedAt_last (hask : AsksAt past i r u) (ha : m.action = .answered r answer)
    (hlast : ∀ k answer, AnsweredAt past k r answer → k < i) :
    FetchedAt (past ++ [m]) i u (Settings.resolved answer) := by
  refine ⟨past.length, r, answer, hask.lt_length, hask.concat, HappensAt.last ha, ?_, rfl⟩
  intro k other hik hk hans
  rcases happensAt_concat.mp hans with hans | ⟨hk', -⟩
  · have := hlast k other hans
    omega
  · omega

/-- A value that a cell has after a step it had before, or the step brings it as an answer. -/
theorem Moves.value_cases (h : Moves s a s' effects)
    (hv : (s'.cache.cell c).value = some settings) :
    (s.cache.cell c).value = some settings ∨ ∃ r t answer, a = .answered r answer ∧
      s.runs[r]? = some ⟨t, .fetching c⟩ ∧ settings = Settings.resolved answer := by
  cases h with
  | startOpen _ t =>
    change ((s.cache.lookup t.uri).1.cell c).value = some settings at hv
    rw [Cache.cell_lookup] at hv
    exact Or.inl hv
  | askCell r _ _ i =>
    change ((s.cache.join i r).cell c).value = some settings at hv
    rw [Cache.value_join] at hv
    exact Or.inl hv
  | answered r t i answer hr =>
    rcases Cache.value_settle hv with hv | ⟨rfl, hset⟩
    · exact Or.inl hv
    · exact Or.inr ⟨r, t, answer, rfl, hr, hset⟩
  | _ => exact Or.inl hv

theorem Provenance.filled_step (h : Provenance perResource past s) (hm : Moves s a s' effects)
    (hv : (s'.cache.cell c).value = some settings) :
    Filled (past ++ [⟨s, a, effects, s'⟩]) c settings := by
  rcases hm.value_cases hv with hv | ⟨r, t, answer, rfl, hr, rfl⟩
  · exact (h.filled c settings hv).concat
  · obtain ⟨-, b, hb, i, hbi, hask, hlast⟩ := h.sourced r t _ hr
    exact ⟨b, t.uri, hb.1.concat, i, hbi, fetchedAt_last hask rfl hlast⟩

/-- A run that begins finds a cell that was made after all that makes settings outdated. -/
theorem sourced_claimed (h : Session perResource registers past s') {lookup : Lookup}
    (hcell : ∀ c, lookup.cell = some c → s'.cache.entry? t.uri = some c)
    (hmode : lookup.cell.isSome = perResource) :
    Sourced perResource past s' r t (.claimed lookup) := by
  obtain ⟨u, _ | c⟩ := lookup
  · exact hmode.symm
  · obtain ⟨b, hb, hlast⟩ := entry_made h (hcell c rfl)
    exact ⟨hmode.symm, b, hb, fun _ k hk => hlast k hk.forgetsAt⟩

/-- A run that asks the editor has not been answered since. -/
theorem Served.fetching {b : ℕ} (hb : Served (past ++ [m]) s' t c b) (hbi : b < past.length)
    (hask : .fetch r t.uri ∈ m.effects) (hne : ∀ answer, m.action ≠ .answered r answer)
    (hmode : perResource = true) : Sourced perResource (past ++ [m]) s' r t (.fetching c) := by
  refine ⟨hmode, b, hb, past.length, hbi, HappensAt.last hask, fun k answer hk => ?_⟩
  rcases happensAt_concat.mp hk with hk | ⟨-, ha⟩
  · exact hk.lt_length
  · exact absurd ha (hne answer)

/-- A run that is answered has settings that were asked for after its cell was made. -/
theorem Served.based {b : ℕ} (hb : Served past s t c b) (hmode : perResource = true) (hbi : b < i)
    (hfetched : FetchedAt past i t.uri settings) : Based perResource past s r t settings := by
  refine ⟨fun _ => ⟨i, hfetched, fun hc k hk => Nat.lt_trans (hb.2 hc k hk) hbi⟩, fun hfalse => ?_⟩
  rw [hmode] at hfalse
  cases hfalse

/-- A run that is served by a filled cell has settings that were asked for after the cell was made.
-/
theorem Provenance.based_of_value (h : Provenance perResource past s)
    (hsession : Session perResource registers past s) {b : ℕ} (hmode : perResource = true)
    (hb : Served past s t c b) (hv : (s.cache.cell c).value = some settings) :
    Based perResource past s r t settings := by
  obtain ⟨b', u, hb', i, hbi, hi⟩ := h.filled c settings hv
  obtain ⟨rfl, rfl⟩ := madeAt_unique hsession hb' hb.1
  exact hb.based hmode hbi hi

/-- A run that takes the global value takes it after all that has replaced it. -/
theorem based_read (hmode : perResource = false) :
    Based perResource (past ++ [⟨s, .ask r, effects, s'⟩]) s' r t s.cache.global where
  fetched := by
    intro htrue
    rw [hmode] at htrue
    cases htrue
  read := by
    intro _
    refine ⟨past.length, HappensAt.last ⟨rfl, rfl⟩, fun _ k hk => ?_⟩
    obtain ⟨change, _, hk, -⟩ := hk
    rcases happensAt_concat.mp hk with hk | ⟨-, ha⟩
    · exact hk.lt_length
    · cases ha

/-- A step of a run keeps what is known of it. -/
theorem Provenance.sourced_advance (h : Provenance perResource past s)
    (hsession : Session perResource registers past s) (hs : s.step a = some (s', effects))
    {p q : Phase} (hr : s.runs[r]? = some ⟨t, p⟩) (step : Advance s s' r t a p q effects) :
    Sourced perResource (past ++ [⟨s, a, effects, s'⟩]) s' r t q := by
  have hnext : Session perResource registers (past ++ [⟨s, a, effects, s'⟩]) s' := hsession.snoc hs
  have hkept := current_kept hsession hs hr
  have hold := h.sourced r t p hr
  cases step with
  | startClosed => trivial
  | startOpen _ hcache =>
    refine sourced_claimed hnext (fun c hc => ?_) ?_
    · rw [hcache]
      exact Cache.entry?_lookup_self hc
    · rw [Cache.lookup_cell_isSome, perResource_of_session hsession]
  | askGlobal => exact based_read hold
  | askCell =>
    obtain ⟨hmode, b, hb⟩ := hold
    exact ⟨hmode, b, hb.concat hkept⟩
  | proceedReady _ _ hv =>
    obtain ⟨hmode, b, hb⟩ := hold
    exact (h.based_of_value hsession hmode hb hv).concat hkept
  | proceedAsk =>
    obtain ⟨hmode, b, hb⟩ := hold
    exact (hb.concat hkept).fetching hb.1.lt_length (by simp) (fun _ => nofun) hmode
  | answered _ answer =>
    obtain ⟨hmode, b, hb, i, hbi, hask, hlast⟩ := hold
    exact (hb.concat hkept).based hmode hbi (fetchedAt_last hask rfl hlast)
  | check => exact ⟨Based.concat hkept hold, past.length, HappensAt.last (by simp)⟩
  | returned =>
    obtain ⟨hbased, k, hk⟩ := hold
    exact ⟨hbased.concat hkept, k, hk.concat⟩
  | finishPublishes => trivial
  | finishReports => trivial
  | finishDiscards => trivial

/-- One step keeps what is known of the runs. -/
theorem Provenance.sourced_step (h : Provenance perResource past s)
    (hsession : Session perResource registers past s) (hs : s.step a = some (s', effects))
    {p : Phase} (hr : s'.runs[r]? = some ⟨t, p⟩) :
    Sourced perResource (past ++ [⟨s, a, effects, s'⟩]) s' r t p := by
  obtain ⟨q, hrun, step⟩ | ⟨ha, hrun | ⟨-, rfl⟩⟩ := (moves_of_step hs).run_after hr
  · exact h.sourced_advance hsession hs hrun step
  · refine (h.sourced r t p hrun).concat (current_kept hsession hs hrun) ?_
    rintro answer rfl
    exact ha rfl
  · trivial

/-- What is known of cells and runs holds along every trace. -/
theorem provenance_of_session (h : Session perResource registers past s) :
    Provenance perResource past s := by
  induction h with
  | nil =>
    refine ⟨?_, ?_⟩
    · intro c settings hv
      cases hv
    · intro r t p hr
      cases hr
  | snoc h hs ih =>
    exact ⟨fun c settings hv => ih.filled_step (moves_of_step hs) hv,
      fun r t p hr => ih.sourced_step h hs hr⟩

/-- **Published settings are fresh.** Whatever came before, in whatever order, when a run publishes
for a document, it has run the checker with the settings under which the diagnostics are made. In
per-resource mode they are the outcome of a request to the editor that was begun after the start of
every configuration change that has led to new runs, and after every close of the document. In
global mode they are the global value at a moment after it was replaced for every such change. -/
theorem published_settings_fresh (h : Session perResource registers past s)
    (hs : s.step (.finish r) = some (s', effects)) {found : List Diagnostic}
    (hp : .publish u found ∈ effects) :
    ∃ t settings report, s.runs[r]? = some ⟨t, .checked settings (.ok report)⟩ ∧ t.uri = u ∧
      found = diagnosticsOf settings report ∧
      (∃ k, ChecksAt past k r t.path settings.maxLength) ∧
      (perResource = true → ∃ i, FetchedAt past i u settings ∧
        (∀ change k j, BeginsAt past k change → RevalidatesAt past j change → k < i) ∧
        ∀ k, ClosesAt past k u → k < i) ∧
      (perResource = false → ∃ i, ReadsAt past i r settings ∧
        ∀ change k j, AppliesAt past k change → RevalidatesAt past j change → k < i) := by
  cases moves_of_step hs with
  | finishPublishes _ t settings report hr ha =>
    have hfound : u = t.uri ∧ found = diagnosticsOf settings report := by simpa using hp
    obtain ⟨rfl, rfl⟩ := hfound
    obtain ⟨hbased, hcheck⟩ := (provenance_of_session h).sourced r t _ hr
    have hcurrent : Current s t := (Documents.finish_accepts_iff s.documents t).mp ha
    refine ⟨t, settings, report, hr, rfl, rfl, hcheck, fun hmode => ?_, fun hmode => ?_⟩
    · obtain ⟨i, hi, hlast⟩ := hbased.fetched hmode
      refine ⟨i, hi, fun change k j hk hj => ?_, fun k hk => ?_⟩
      · exact hlast hcurrent k (Or.inr ⟨change, j, hk, hj⟩)
      · exact hlast hcurrent k (Or.inl hk)
    · obtain ⟨i, hi, hlast⟩ := hbased.read hmode
      exact ⟨i, hi, fun change k j hk hj => hlast hcurrent k ⟨change, j, hk, hj⟩⟩
  | finishReports => simp at hp
  | finishDiscards => simp at hp

/-- The configuration changes while a request for the settings of a document is under way. The old
request is answered after the new one. -/
def renewed : List (Moment Server Action Effect) × Server :=
  replay step (initial.introduced true false)
    [.didOpen Documents.sampleFile, .start 0, .ask 0, .proceed 0, .changeBegins .null,
      .changeApplies 0, .changeRevalidates 0, .start 1, .ask 1, .proceed 1,
      .answered 1 (.ok ⟨120, 1000⟩), .answered 0 (.ok ⟨60, 1000⟩), .check 0, .check 1,
      .returned 0 (.ok "/a:1: long"), .returned 1 (.ok "/a:2: long"), .finish 0]

theorem published_settings_fresh_renewed :
    (∃ s' effects, renewed.2.step (.finish 1) = some (s', effects) ∧
      .publish Documents.sampleFile (diagnosticsOf ⟨120, 1000⟩ "/a:2: long") ∈ effects) ∧
      ∃ i, FetchedAt renewed.1 i Documents.sampleFile ⟨120, 1000⟩ ∧
        (∀ change k j, BeginsAt renewed.1 k change → RevalidatesAt renewed.1 j change → k < i) ∧
        ∀ k, ClosesAt renewed.1 k Documents.sampleFile → k < i := by
  have h : Session true false renewed.1 renewed.2 := replay_trace _ _ _
  obtain ⟨⟨s', effects⟩, hs⟩ : ∃ next, renewed.2.step (.finish 1) = some next := ⟨_, rfl⟩
  have hp : .publish Documents.sampleFile (diagnosticsOf ⟨120, 1000⟩ "/a:2: long") ∈ effects := by
    cases hs
    exact List.mem_cons_of_mem _ (List.mem_singleton.mpr rfl)
  obtain ⟨t, settings, report, hrun, -, -, -, hfetched, -⟩ := published_settings_fresh h hs hp
  have hsettings : settings = ⟨120, 1000⟩ := by
    cases hrun
    rfl
  subst hsettings
  exact ⟨⟨s', effects, hs, hp⟩, hfetched rfl⟩

end LineLint.Server
