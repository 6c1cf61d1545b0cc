import LineLint.Proofs.Settings.Cache
import LineLint.Proofs.Trace
import LineLint.Settings.Resolver

/-!
# The steps of lookups

Says once what each step of a resolver can do, and what a trace of steps says of a cell and of a
lookup.

* `Resolver.Moves` — the steps, one case for each way they can go.
* `Resolver.Action.mover?` — the lookup that an action moves on.
* `Resolver.Advance` — a step of a lookup, seen from the lookup.
* `Resolver.Reshapes` — what a step does to the list of lookups.
* `cellOf`, `statusOf` — a lookup's cell, and how far it has come.
* `started`, `fetches`, `answers` — what has happened at a cell, in order.
* `returned` — the settings that a lookup has got.

Results:

* `moves_of_step`: every step is a move.
* `Moves.reshapes`: how a move changes the list of lookups.
* `Moves.lookup_other`, `Moves.advance`, `Moves.lookup_after`: a lookup is moved on by its own steps
  alone.
* `inRange_of_trace`: lookups name cells that exist.
* `returned_eq_nil`: a lookup gets its settings when it is resolved, and not before.
* `entry_of_lookedUpAt`: a lookup's cell stays the cell of the entry until the entry is forgotten.
-/

namespace LineLint.Resolver

/-- The effects of an answer: a failure is logged, and the lookup gets what becomes of the answer.
-/
def answerEffects (n : ℕ) (u : Uri) (answer : Except SettingsError Settings) : List Effect :=
  (match answer.bind Settings.validated with
    | .ok _ => []
    | .error e => [.log (.fetchFailed u e)]) ++ [.resolved n (Settings.resolved answer)]

/-- What a step can do: the action, the state it leads to and its effects. -/
inductive Moves (r : Resolver) : Action → Resolver → List Effect → Prop
  | setPerResource (enabled : Bool) :
      Moves r (.setPerResource enabled) { r with cache := r.cache.setPerResource enabled } []
  | setGlobal (settings : Settings) :
      Moves r (.setGlobal settings) { r with cache := r.cache.setGlobal settings } []
  | lookup (u : Uri) :
      Moves r (.lookup u)
        ⟨(r.cache.lookup u).1, r.lookups ++ [((r.cache.lookup u).2, .claimed)]⟩ []
  | invalidate (u : Uri) :
      Moves r (.invalidate u) { r with cache := (r.cache.invalidate u).1 }
        (if (r.cache.invalidate u).2 then [.log (.entryInvalidated u)] else [])
  | invalidateAll :
      Moves r .invalidateAll { r with cache := r.cache.invalidateAll.1 }
        [.log (.cacheCleared r.cache.invalidateAll.2)]
  | resolveGlobal (n : ℕ) (u : Uri) (hn : r.lookups[n]? = some (⟨u, none⟩, .claimed)) :
      Moves r (.resolve n) (r.setStatus n .resolved) [.resolved n r.cache.global]
  | resolveCell (n : ℕ) (u : Uri) (c : ℕ) (hn : r.lookups[n]? = some (⟨u, some c⟩, .claimed)) :
      Moves r (.resolve n) ({ r with cache := r.cache.join c n }.setStatus n .inLine) []
  | advanceReady (n : ℕ) (u : Uri) (c : ℕ) (settings : Settings)
      (hn : r.lookups[n]? = some (⟨u, some c⟩, .inLine))
      (hv : (r.cache.cell c).value = some settings) :
      Moves r (.advance n) (r.setStatus n .resolved) [.resolved n settings]
  | advanceAsk (n : ℕ) (u : Uri) (c : ℕ) (hn : r.lookups[n]? = some (⟨u, some c⟩, .inLine))
      (hv : (r.cache.cell c).value = none) (hl : (r.cache.cell c).line.head? = some n) :
      Moves r (.advance n) (r.setStatus n .fetching) [.fetch n u]
  | answer (n : ℕ) (u : Uri) (c : ℕ) (answer : Except SettingsError Settings)
      (hn : r.lookups[n]? = some (⟨u, some c⟩, .fetching)) :
      Moves r (.answer n answer)
        ({ r with cache := (r.cache.settle c answer).1 }.setStatus n .resolved)
        (answerEffects n u answer)

variable {r r' : Resolver} {a : Action} {effects : List Effect} {n k c i j : ℕ} {u : Uri}
  {past : List (Moment Resolver Action Effect)} {m : Moment Resolver Action Effect}
  {settings : Settings} {status : LookupStatus} {answer : Except SettingsError Settings}

/-! ## Every step is a move -/

theorem resolve_moves (h : r.resolve n = some (r', effects)) : Moves r (.resolve n) r' effects := by
  unfold resolve at h
  split at h
  · rename_i u hn
    cases h
    exact .resolveGlobal n u hn
  · rename_i u c hn
    cases h
    exact .resolveCell n u c hn
  · cases h

theorem advance_moves (h : r.advance n = some (r', effects)) : Moves r (.advance n) r' effects := by
  unfold advance at h
  split at h
  · rename_i u c hn
    split at h
    · rename_i settings ht
      cases h
      exact .advanceReady n u c settings hn (Cache.turn_eq_ready_iff.mp ht)
    · rename_i ht
      obtain ⟨hv, hl⟩ := Cache.turn_eq_ask_iff.mp ht
      cases h
      exact .advanceAsk n u c hn hv hl
    · cases h
  · cases h

theorem answer_step (hn : r.lookups[n]? = some (⟨u, some c⟩, .fetching))
    (answer : Except SettingsError Settings) :
    r.answer n answer =
      some ({ r with cache := (r.cache.settle c answer).1 }.setStatus n .resolved,
        answerEffects n u answer) := by
  unfold Resolver.answer Cache.settle answerEffects Settings.resolved
  simp only [hn]
  cases answer.bind Settings.validated <;> rfl

theorem answer_moves (h : r.answer n answer = some (r', effects)) :
    Moves r (.answer n answer) r' effects := by
  have hn : ∃ u c, r.lookups[n]? = some (⟨u, some c⟩, .fetching) := by
    unfold Resolver.answer at h
    split at h
    · rename_i u c hn
      exact ⟨u, c, hn⟩
    · cases h
  obtain ⟨u, c, hn⟩ := hn
  rw [answer_step hn] at h
  cases h
  exact .answer n u c answer hn

/-- Every step is a move. -/
theorem moves_of_step (h : r.step a = some (r', effects)) : Moves r a r' effects := by
  cases a with
  | setPerResource enabled => cases h; exact .setPerResource enabled
  | setGlobal settings => cases h; exact .setGlobal settings
  | lookup u => cases h; exact .lookup u
  | invalidate u => cases h; exact .invalidate u
  | invalidateAll => cases h; exact .invalidateAll
  | resolve n => exact resolve_moves h
  | advance n => exact advance_moves h
  | answer n answer => exact answer_moves h

/-! ## Lookups -/

/-- The cell of a lookup. -/
def cellOf (r : Resolver) (n : ℕ) : Option ℕ := (r.lookups[n]?).bind fun entry => entry.1.cell

/-- How far a lookup has come. -/
def statusOf (r : Resolver) (n : ℕ) : Option LookupStatus := (r.lookups[n]?).map Prod.snd

theorem cellOf_eq {o : Option ℕ} (h : r.lookups[n]? = some (⟨u, o⟩, status)) : r.cellOf n = o := by
  rw [cellOf, h]
  rfl

theorem statusOf_eq {l : Lookup} (h : r.lookups[n]? = some (l, status)) :
    r.statusOf n = some status := by
  rw [statusOf, h]
  rfl

theorem exists_of_cellOf (hc : r.cellOf n = some c) (hs : r.statusOf n = some status) :
    ∃ u, r.lookups[n]? = some (⟨u, some c⟩, status) := by
  obtain ⟨⟨⟨u, o⟩, status'⟩, hn, ho⟩ := Option.bind_eq_some_iff.mp hc
  rw [statusOf_eq hn] at hs
  cases hs
  dsimp only at ho
  subst ho
  exact ⟨u, hn⟩

theorem lookups_setStatus {entry : Lookup × LookupStatus} (h : r.lookups[n]? = some entry) (k : ℕ) :
    (r.setStatus n status).lookups[k]? =
      if k = n then some (entry.1, status) else r.lookups[k]? :=
  getElem?_modify_of_eq_some h _ k

@[simp]
theorem cache_setStatus (r : Resolver) (n : ℕ) (status : LookupStatus) :
    (r.setStatus n status).cache = r.cache := rfl

/-- How far a lookup has come does not change its cell. -/
@[simp]
theorem cellOf_setStatus (r : Resolver) (n : ℕ) (status : LookupStatus) (k : ℕ) :
    (r.setStatus n status).cellOf k = r.cellOf k := by
  unfold cellOf setStatus
  rw [List.getElem?_modify]
  cases r.lookups[k]? with
  | none => rfl
  | some entry => by_cases hk : n = k <;> simp [hk]

@[simp]
theorem cellOf_recache (r : Resolver) (cache : Cache) (k : ℕ) :
    cellOf { r with cache } k = r.cellOf k := rfl

@[simp]
theorem statusOf_recache (r : Resolver) (cache : Cache) (k : ℕ) :
    statusOf { r with cache } k = r.statusOf k := rfl

theorem statusOf_setStatus {entry : Lookup × LookupStatus} (h : r.lookups[n]? = some entry)
    (k : ℕ) : (r.setStatus n status).statusOf k = if k = n then some status else r.statusOf k := by
  rw [statusOf, statusOf, lookups_setStatus h]
  split_ifs <;> rfl

@[simp]
theorem cellOf_lookup (r : Resolver) (u : Uri) (n : ℕ) : (r.lookup u).1.cellOf n =
    if n = r.lookups.length then (r.cache.lookup u).2.cell else r.cellOf n := by
  show ((r.lookups ++ [((r.cache.lookup u).2, LookupStatus.claimed)])[n]?).bind _ = _
  rw [getElem?_concat]
  split_ifs <;> rfl

@[simp]
theorem statusOf_lookup (r : Resolver) (u : Uri) (n : ℕ) : (r.lookup u).1.statusOf n =
    if n = r.lookups.length then some .claimed else r.statusOf n := by
  show ((r.lookups ++ [((r.cache.lookup u).2, LookupStatus.claimed)])[n]?).map Prod.snd = _
  rw [getElem?_concat]
  split_ifs <;> rfl

/-- The lookup that an action moves on. -/
def Action.mover? : Action → Option ℕ
  | .resolve n => some n
  | .advance n => some n
  | .answer n _ => some n
  | _ => none

/-- A step of a lookup, seen from the lookup: how far it has come before and after, and the effects.
-/
inductive Advance (r : Resolver) (n : ℕ) :
    Action → Lookup → LookupStatus → LookupStatus → List Effect → Prop
  | resolveGlobal (u : Uri) :
      Advance r n (.resolve n) ⟨u, none⟩ .claimed .resolved [.resolved n r.cache.global]
  | resolveCell (u : Uri) (c : ℕ) : Advance r n (.resolve n) ⟨u, some c⟩ .claimed .inLine []
  | advanceReady (u : Uri) (c : ℕ) (settings : Settings)
      (hv : (r.cache.cell c).value = some settings) :
      Advance r n (.advance n) ⟨u, some c⟩ .inLine .resolved [.resolved n settings]
  | advanceAsk (u : Uri) (c : ℕ) :
      Advance r n (.advance n) ⟨u, some c⟩ .inLine .fetching [.fetch n u]
  | answer (u : Uri) (c : ℕ) (answer : Except SettingsError Settings) :
      Advance r n (.answer n answer) ⟨u, some c⟩ .fetching .resolved (answerEffects n u answer)

/-- What a move does to the list of lookups, given the lookup whose step it is: nothing, or it adds
a new one, or it sets how far that lookup has come. -/
inductive Reshapes (r r' : Resolver) (a : Action) (effects : List Effect) : Option ℕ → Prop
  | kept (lookups : r'.lookups = r.lookups) : Reshapes r r' a effects none
  | made (source : Lookup) (lookups : r'.lookups = r.lookups ++ [(source, .claimed)]) :
      Reshapes r r' a effects none
  | advanced (n : ℕ) (source : Lookup) (before after : LookupStatus)
      (lookup : r.lookups[n]? = some (source, before))
      (lookups : r'.lookups = (r.setStatus n after).lookups)
      (step : Advance r n a source before after effects) : Reshapes r r' a effects (some n)

theorem Moves.reshapes (hm : Moves r a r' effects) : Reshapes r r' a effects a.mover? := by
  cases hm with
  | lookup => exact .made _ rfl
  | resolveGlobal n u hn => exact .advanced n _ _ _ hn rfl (.resolveGlobal u)
  | resolveCell n u c hn => exact .advanced n _ _ _ hn rfl (.resolveCell u c)
  | advanceReady n u c settings hn hv =>
    exact .advanced n _ _ _ hn rfl (.advanceReady u c settings hv)
  | advanceAsk n u c hn => exact .advanced n _ _ _ hn rfl (.advanceAsk u c)
  | answer n u c answer hn => exact .advanced n _ _ _ hn rfl (.answer u c answer)
  | _ => exact .kept rfl

variable {source : Lookup}

/-- A lookup keeps its source. -/
theorem Reshapes.source_kept {own : Option ℕ} (h : Reshapes r r' a effects own)
    (hn : r.lookups[n]? = some (source, status)) :
    ∃ status', r'.lookups[n]? = some (source, status') := by
  cases h with
  | kept lookups => exact ⟨status, lookups ▸ hn⟩
  | made _ lookups => exact ⟨status, lookups ▸ getElem?_concat_iff.mpr (Or.inl hn)⟩
  | advanced k _ _ after hk lookups =>
    rw [lookups, lookups_setStatus hk]
    split_ifs with hnk
    · rw [hnk, hk] at hn
      cases hn
      exact ⟨after, rfl⟩
    · exact ⟨status, hn⟩

/-- The steps of others leave a lookup alone, or it is new. -/
theorem Moves.lookup_other (hm : Moves r a r' effects) (ha : a.mover? ≠ some n) :
    r'.lookups[n]? = r.lookups[n]? ∨
      r.lookups[n]? = none ∧ ∃ source, r'.lookups[n]? = some (source, .claimed) := by
  generalize hown : a.mover? = own at ha
  cases hown ▸ hm.reshapes with
  | kept lookups => exact Or.inl (by rw [lookups])
  | made source lookups =>
    rw [lookups, getElem?_concat]
    split_ifs with hn
    · exact Or.inr ⟨List.getElem?_eq_none (Nat.le_of_eq hn.symm), source, rfl⟩
    · exact Or.inl rfl
  | advanced k _ _ _ hk lookups =>
    refine Or.inl ?_
    rw [lookups, lookups_setStatus hk, if_neg fun hnk => ha (congrArg some hnk.symm)]

/-- The step of a lookup advances it. -/
theorem Moves.advance (hm : Moves r a r' effects) (ha : a.mover? = some n) :
    ∃ source before after, r.lookups[n]? = some (source, before) ∧
      r'.lookups[n]? = some (source, after) ∧ Advance r n a source before after effects := by
  cases ha ▸ hm.reshapes with
  | advanced _ source before after lookup lookups step =>
    refine ⟨source, before, after, lookup, ?_, step⟩
    rw [lookups, lookups_setStatus lookup, if_pos rfl]

/-- A lookup that is there after a step has taken it, or was there and as far, or is new. -/
theorem Moves.lookup_after (hm : Moves r a r' effects)
    (hn : r'.lookups[n]? = some (source, status)) :
    (∃ before, r.lookups[n]? = some (source, before) ∧
        Advance r n a source before status effects) ∨
      a.mover? ≠ some n ∧
        (r.lookups[n]? = some (source, status) ∨ r.lookups[n]? = none ∧ status = .claimed) := by
  by_cases ha : a.mover? = some n
  · obtain ⟨source', before, after, hlookup, hafter, step⟩ := hm.advance ha
    rw [hn] at hafter
    cases hafter
    exact Or.inl ⟨before, hlookup, step⟩
  · refine Or.inr ⟨ha, ?_⟩
    rcases hm.lookup_other ha with hsame | ⟨hnone, _, hnew⟩
    · exact Or.inl (hsame ▸ hn)
    · rw [hn] at hnew
      cases hnew
      exact Or.inr ⟨hnone, rfl⟩

/-- Lookups and entries name cells that exist. -/
structure InRange (r : Resolver) : Prop where
  entries : ∀ u c, r.cache.entry? u = some c → c < r.cache.cells.length
  lookups : ∀ n c, r.cellOf n = some c → c < r.cache.cells.length

theorem InRange.setStatus (h : InRange r) (n : ℕ) (status : LookupStatus) :
    InRange (r.setStatus n status) where
  entries := h.entries
  lookups := by simpa using h.lookups

theorem InRange.lookup (h : InRange r) (u : Uri) : InRange (r.lookup u).1 := by
  have hentries : ∀ v c, Cache.entry? (r.cache.lookup u).1 v = some c →
      c < (r.cache.lookup u).1.cells.length := by
    intro v c hc
    rcases Cache.lookup_entry?_cases hc with hc | ⟨-, -, hlt⟩
    · exact Nat.lt_of_lt_of_le (h.entries v c hc) (Cache.cells_length_lookup_le r.cache u)
    · exact hlt
  refine ⟨hentries, ?_⟩
  intro k c hc
  rw [cellOf_lookup] at hc
  split_ifs at hc
  · exact hentries u c (Cache.entry?_lookup_self hc)
  · exact Nat.lt_of_lt_of_le (h.lookups k c hc) (Cache.cells_length_lookup_le r.cache u)

theorem Moves.inRange (hm : Moves r a r' effects) (h : InRange r) : InRange r' := by
  cases hm with
  | setPerResource => exact ⟨h.entries, h.lookups⟩
  | setGlobal => exact ⟨h.entries, h.lookups⟩
  | lookup u => exact h.lookup u
  | invalidate u =>
    refine ⟨fun v c hc => ?_, h.lookups⟩
    rw [Cache.entry?_invalidate] at hc
    split_ifs at hc
    exact h.entries v c hc
  | invalidateAll => exact ⟨nofun, h.lookups⟩
  | resolveGlobal n => exact h.setStatus n .resolved
  | resolveCell n _ c =>
    refine InRange.setStatus ⟨?_, ?_⟩ n .inLine
    · simpa using h.entries
    · simpa using h.lookups
  | advanceReady n => exact h.setStatus n .resolved
  | advanceAsk n => exact h.setStatus n .fetching
  | answer n _ c answer =>
    refine InRange.setStatus ⟨?_, ?_⟩ n .resolved
    · simpa using h.entries
    · simpa using h.lookups

theorem inRange_of_trace (h : Trace step initial past r) : InRange r := by
  induction h with
  | nil => exact ⟨nofun, nofun⟩
  | snoc _ hs ih => exact (moves_of_step hs).inRange ih

/-! ## What a trace says -/

/-- The lookup that a step begins to resolve at a cell. -/
def startedBy (c : ℕ) (m : Moment Resolver Action Effect) : Option ℕ :=
  match m.action with
  | .resolve n => if m.before.cellOf n = some c then some n else none
  | _ => none

/-- The lookups that were begun to be resolved at a cell, in order. -/
def started (c : ℕ) (past : List (Moment Resolver Action Effect)) : List ℕ :=
  past.filterMap (startedBy c)

/-- The lookup that makes a request for a cell by an effect. -/
def fetchedBy (c : ℕ) (r : Resolver) : Effect → Option ℕ
  | .fetch n _ => if r.cellOf n = some c then some n else none
  | _ => none

/-- The lookups that have made requests for a cell, in order. -/
def fetches (c : ℕ) (past : List (Moment Resolver Action Effect)) : List ℕ :=
  past.flatMap fun m => m.effects.filterMap (fetchedBy c m.before)

/-- The answer that a step brings to a request for a cell, and the lookup that gets it. -/
def answeredBy (c : ℕ) (m : Moment Resolver Action Effect) :
    Option (ℕ × Except SettingsError Settings) :=
  match m.action with
  | .answer n answer => if m.before.cellOf n = some c then some (n, answer) else none
  | _ => none

/-- The answers to the requests for a cell, in order, and the lookups that have got them. -/
def answers (c : ℕ) (past : List (Moment Resolver Action Effect)) :
    List (ℕ × Except SettingsError Settings) :=
  past.filterMap (answeredBy c)

/-- The settings that a lookup gets by an effect. -/
def returnedBy (n : ℕ) : Effect → Option Settings
  | .resolved k settings => if k = n then some settings else none
  | _ => none

/-- The settings that a lookup has got. -/
def returned (n : ℕ) (past : List (Moment Resolver Action Effect)) : List Settings :=
  past.flatMap fun m => m.effects.filterMap (returnedBy n)

@[simp]
theorem fetchedBy_answerEffects (c : ℕ) (r : Resolver) (n : ℕ) (u : Uri)
    (answer : Except SettingsError Settings) :
    (answerEffects n u answer).filterMap (fetchedBy c r) = [] := by
  unfold answerEffects
  cases answer.bind Settings.validated <;> rfl

@[simp]
theorem filterMap_returnedBy_resolved (k n : ℕ) (settings : Settings) :
    [Effect.resolved n settings].filterMap (returnedBy k) = if n = k then [settings] else [] := by
  by_cases hn : n = k <;> simp [returnedBy, hn]

@[simp]
theorem returnedBy_answerEffects (k n : ℕ) (u : Uri) (answer : Except SettingsError Settings) :
    (answerEffects n u answer).filterMap (returnedBy k) =
      if n = k then [Settings.resolved answer] else [] := by
  unfold answerEffects
  cases answer.bind Settings.validated <;>
    by_cases hk : n = k <;> simp [List.filterMap_cons, returnedBy, hk]

@[simp]
theorem started_concat : started c (past ++ [m]) = started c past ++ (startedBy c m).toList := by
  unfold started
  rw [List.filterMap_append]
  cases h : startedBy c m <;> simp [h]

@[simp]
theorem fetches_concat : fetches c (past ++ [m]) =
    fetches c past ++ m.effects.filterMap (fetchedBy c m.before) := by
  unfold fetches
  rw [List.flatMap_append, List.flatMap_singleton]

@[simp]
theorem answers_concat : answers c (past ++ [m]) = answers c past ++ (answeredBy c m).toList := by
  unfold answers
  rw [List.filterMap_append]
  cases h : answeredBy c m <;> simp [h]

@[simp]
theorem returned_concat : returned n (past ++ [m]) =
    returned n past ++ m.effects.filterMap (returnedBy n) := by
  unfold returned
  rw [List.flatMap_append, List.flatMap_singleton]

/-- The steps of others give a lookup nothing. -/
theorem Moves.returnedBy_other (hm : Moves r a r' effects) (ha : a.mover? ≠ some n) :
    effects.filterMap (returnedBy n) = [] := by
  cases hm with
  | invalidate u => split_ifs <;> rfl
  | answer k u _ answer =>
    rw [returnedBy_answerEffects, if_neg]
    rintro rfl
    exact ha rfl
  | resolveGlobal k => simpa [Action.mover?] using ha
  | advanceReady k => simpa [Action.mover?] using ha
  | _ => rfl

/-- A lookup that is not resolved after a step was not resolved before, and the step gives it
nothing. -/
theorem Moves.not_resolved (hm : Moves r a r' effects) (hs : r'.statusOf n ≠ some .resolved) :
    r.statusOf n ≠ some .resolved ∧ effects.filterMap (returnedBy n) = [] := by
  by_cases ha : a.mover? = some n
  · obtain ⟨source, before, after, hn, hafter, hstep⟩ := hm.advance ha
    rw [statusOf_eq hafter] at hs
    rw [statusOf_eq hn]
    cases hstep with
    | resolveCell => exact ⟨nofun, rfl⟩
    | advanceAsk => exact ⟨nofun, rfl⟩
    | _ => exact absurd rfl hs
  · refine ⟨fun hn => hs ?_, hm.returnedBy_other ha⟩
    rcases hm.lookup_other ha with hsame | ⟨hnone, -⟩
    · rw [statusOf, hsame]
      exact hn
    · rw [statusOf, hnone] at hn
      cases hn

/-- A lookup gets its settings when it is resolved, and not before. -/
theorem returned_eq_nil (h : Trace step initial past r) (hs : r.statusOf n ≠ some .resolved) :
    returned n past = [] := by
  induction h with
  | nil => rfl
  | snoc _ hstep ih =>
    obtain ⟨hbefore, heffects⟩ := (moves_of_step hstep).not_resolved hs
    rw [returned_concat, ih hbefore, heffects]
    rfl

/-! ## Entries -/

/-- A lookup is made for a document, and gets a cell. -/
def LookedUpAt (past : List (Moment Resolver Action Effect)) (i : ℕ) (u : Uri) (c : ℕ) : Prop :=
  HappensAt past i fun m => m.action = .lookup u ∧ (m.before.cache.lookup u).2.cell = some c

/-- The entry of a document is forgotten. -/
def ForgottenAt (past : List (Moment Resolver Action Effect)) (i : ℕ) (u : Uri) : Prop :=
  HappensAt past i fun m => m.action = .invalidate u ∨ m.action = .invalidateAll

theorem Moves.entry_kept (hm : Moves r a r' effects) (hu : a ≠ .invalidate u)
    (hall : a ≠ .invalidateAll) (he : r.cache.entry? u = some c) : r'.cache.entry? u = some c := by
  cases hm with
  | lookup v => exact Cache.entry?_lookup_of_eq_some he v
  | invalidate v =>
    refine (Cache.entry?_invalidate r.cache v u).trans ?_
    rw [if_neg (fun h => hu (by rw [h])), he]
  | invalidateAll => exact absurd rfl hall
  | answer _ _ i answer => exact (Cache.entry?_settle r.cache i answer u).trans he
  | _ => exact he

/-- The cell of a lookup stays the cell of the entry until the entry is forgotten. -/
theorem entry_of_lookedUpAt (h : Trace step initial past r) (hi : LookedUpAt past i u c)
    (hkept : ∀ k, i < k → ¬ForgottenAt past k u) : r.cache.entry? u = some c := by
  induction h with
  | nil => exact absurd hi not_happensAt_nil
  | snoc _ hs ih =>
    rcases happensAt_concat.mp hi with hi | ⟨-, ha, hc⟩
    · have hlast := hkept _ hi.lt_length
      refine (moves_of_step hs).entry_kept ?_ ?_ (ih hi fun k hik hk => hkept k hik hk.concat)
      · exact fun ha => hlast (HappensAt.last (Or.inl ha))
      · exact fun ha => hlast (HappensAt.last (Or.inr ha))
    · dsimp only at ha hc
      subst ha
      cases moves_of_step hs with
      | lookup => exact Cache.entry?_lookup_self hc

/-- Lookups of a document share a cell as long as its entry is not forgotten. -/
theorem lookups_share (h : Trace step initial past r) (hij : i < j) (hi : LookedUpAt past i u c)
    (hj : LookedUpAt past j u k) (hkept : ∀ l, i < l → l < j → ¬ForgottenAt past l u) : c = k := by
  obtain ⟨m, hm, -, hcell⟩ := hj
  have hbefore := h.take_at hm
  have hearlier : LookedUpAt (past.take j) i u c := happensAt_take.mpr ⟨hij, hi⟩
  have hentry : m.before.cache.entry? u = some c := by
    apply entry_of_lookedUpAt hbefore hearlier
    intro l hil hl
    obtain ⟨hlj, hl⟩ := happensAt_take.mp hl
    exact hkept l hil hlj hl
  have hsame := Cache.entry?_lookup_of_eq_some hentry u
  rw [Cache.entry?_lookup_self hcell] at hsame
  exact (Option.some.inj hsame).symm

end LineLint.Resolver
