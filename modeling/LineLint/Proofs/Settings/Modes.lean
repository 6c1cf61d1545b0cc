import LineLint.Proofs.Settings.Invalidation

/-!
# The mode of a lookup

The mode and the global value can be set at any time. A lookup looks at the mode once, when it is
made: from then on it has a cell, or has none. With a cell it never looks at the mode or the global
value again. Without one it takes the global value that it finds when it is resolved.

* `modeAfter`, `globalAfter` — the mode and the global value that were set last.
* `agenda` — what is done apart from that, with the mode in which each lookup is made.
* `SameCells` — two states that differ in the mode and the global value.
* `Agree` — two courses of events that are the same for lookups with a cell.
* `MadeIn`, `KeepsMode` — a lookup that is made in a mode, and what it has from it.

Results:

* `SameCells.follow`: what is done with cells does not depend on the mode and the global value.
* `agree_of_agenda`: it does not matter to lookups with a cell when the mode and the global value
  are set, and to what.
* `returned_global`: a lookup without a cell gets the global value of the moment.
* `returned_determined`: what a lookup with a cell gets depends on its cell alone.
* `keepsMode_of_madeIn`: a lookup keeps the mode in which it was made.
-/

namespace LineLint

/-- A lookup does not depend on the global value. -/
theorem Cache.lookup_setGlobal (c : Cache) (settings : Settings) (u : Uri) :
    (c.setGlobal settings).lookup u = ((c.lookup u).1.setGlobal settings, (c.lookup u).2) := by
  cases hp : c.perResource with
  | false => rw [lookup_global hp, lookup_global (c := c.setGlobal settings) hp]
  | true =>
    cases hu : c.entry? u with
    | some i => rw [lookup_known hp hu, lookup_known (c := c.setGlobal settings) hp hu]
    | none =>
      rw [lookup_new hp hu, lookup_new (c := c.setGlobal settings) hp hu]
      rfl

namespace Resolver

variable {r r' r₁ r₁' r₂ : Resolver} {a : Action} {effects : List Effect} {n c i : ℕ} {u : Uri}
  {past : List (Moment Resolver Action Effect)} {m : Moment Resolver Action Effect}
  {status : LookupStatus} {source : Lookup} {mode : Bool} {actions actions' : List Action}
  {x y : List (Moment Resolver Action Effect) × Resolver}

/-! ## What was set last -/

/-- The mode after an action. -/
def modeBy (mode : Bool) : Action → Bool
  | .setPerResource enabled => enabled
  | _ => mode

/-- The global value after an action. -/
def globalBy (settings : Settings) : Action → Settings
  | .setGlobal settings' => settings'
  | _ => settings

/-- The mode after some actions. -/
def modeAfter (mode : Bool) (actions : List Action) : Bool := actions.foldl modeBy mode

/-- The global value after some actions. -/
def globalAfter (settings : Settings) (actions : List Action) : Settings :=
  actions.foldl globalBy settings

theorem Moves.mode_eq (hm : Moves r a r' effects) :
    r'.cache.perResource = modeBy r.cache.perResource a := by
  cases hm with
  | lookup u => exact Cache.lookup_perResource r.cache u
  | answer _ _ c answer => exact Cache.settle_perResource r.cache c answer
  | _ => rfl

theorem Moves.global_eq (hm : Moves r a r' effects) :
    r'.cache.global = globalBy r.cache.global a := by
  cases hm with
  | lookup u => exact Cache.global_lookup r.cache u
  | answer _ _ c answer =>
    obtain ⟨f, hf⟩ := Cache.settle_eq_update answer
    show (r.cache.settle c answer).1.global = _
    rw [hf]
    rfl
  | _ => rfl

/-- The global value is the one that was set last. -/
theorem global_of_trace {start : Resolver} (h : Trace step start past r) :
    r.cache.global = globalAfter start.cache.global (past.map Moment.action) := by
  induction h with
  | nil => rfl
  | snoc _ hs ih =>
    rw [(moves_of_step hs).global_eq, ih, globalAfter, globalAfter, List.map_append,
      List.foldl_append]
    rfl

/-! ## A lookup keeps its source -/

/-- A lookup is made for a document in a mode. -/
def MadeIn (mode : Bool) (past : List (Moment Resolver Action Effect)) (i n : ℕ) (u : Uri) : Prop :=
  HappensAt past i fun m => m.action = .lookup u ∧ m.before.lookups.length = n ∧
    m.before.cache.perResource = mode

/-- A lookup has a cell from when it was made on, or has none, by the mode of that moment. -/
theorem source_of_madeIn (h : Trace step initial past r) (hi : MadeIn mode past i n u) :
    ∃ source status, r.lookups[n]? = some (source, status) ∧ source.cell.isSome = mode := by
  induction h with
  | nil => exact absurd hi not_happensAt_nil
  | @snoc past r r' a effects _ hs ih =>
    rcases happensAt_concat.mp hi with hi | ⟨-, ha, hn, hmode⟩
    · obtain ⟨source, status, hsource, hcell⟩ := ih hi
      obtain ⟨status', hkept⟩ := (moves_of_step hs).reshapes.source_kept hsource
      exact ⟨source, status', hkept, hcell⟩
    · dsimp only at ha hn hmode
      subst ha
      cases moves_of_step hs with
      | lookup =>
        refine ⟨_, _, getElem?_concat_iff.mpr (Or.inr ⟨hn.symm, rfl⟩), ?_⟩
        exact (Cache.lookup_cell_isSome r.cache u).trans hmode

/-! ## Lookups without a cell -/

/-- What one step does to a lookup without a cell: it is made, or it is left alone, or it takes the
global value. -/
theorem Moves.global_cases (hm : Moves r a r' effects)
    (hn : r'.lookups[n]? = some (⟨u, none⟩, status)) :
    status = .claimed ∧ r.lookups[n]? = none ∨
      r.lookups[n]? = some (⟨u, none⟩, status) ∧ effects.filterMap (returnedBy n) = [] ∨
      a = .resolve n ∧ r.lookups[n]? = some (⟨u, none⟩, .claimed) ∧ status = .resolved ∧
        effects = [.resolved n r.cache.global] := by
  rcases hm.lookup_after hn with ⟨before, hbefore, hstep⟩ | ⟨ha, hsame | ⟨hnone, rfl⟩⟩
  · cases hstep with
    | resolveGlobal => exact Or.inr (Or.inr ⟨rfl, hbefore, rfl, rfl⟩)
  · exact Or.inr (Or.inl ⟨hsame, hm.returnedBy_other ha⟩)
  · exact Or.inl ⟨rfl, hnone⟩

/-- A lookup without a cell gets the global value that it finds when it is resolved. -/
theorem returned_global (h : Trace step initial past r)
    (hn : r.lookups[n]? = some (⟨u, none⟩, status)) :
    status = .claimed ∧ returned n past = [] ∨
      status = .resolved ∧ ∃ j, HappensAt past j fun m =>
        m.action = .resolve n ∧ returned n past = [m.before.cache.global] := by
  induction h generalizing status with
  | nil => cases hn
  | snoc h hs ih =>
    rcases (moves_of_step hs).global_cases hn with ⟨rfl, -⟩ | ⟨hn, hnothing⟩ |
      ⟨rfl, hclaimed, rfl, rfl⟩
    · refine Or.inl ⟨rfl, returned_eq_nil (h.snoc hs) ?_⟩
      rw [statusOf_eq hn]
      nofun
    · rw [returned_concat, hnothing, List.append_nil]
      rcases ih hn with hwaits | ⟨hstatus, j, hj⟩
      · exact Or.inl hwaits
      · exact Or.inr ⟨hstatus, j, hj.concat⟩
    · refine Or.inr ⟨rfl, _, HappensAt.last ⟨rfl, ?_⟩⟩
      rw [returned_concat, returned_eq_nil h (by rw [statusOf_eq hclaimed]; nofun)]
      simp [returnedBy]

/-! ## Lookups with a cell -/

/-- What a lookup with a cell gets depends on what happens at its cell, and on nothing else. -/
theorem returned_determined {past₁ past₂ : List (Moment Resolver Action Effect)} {c₁ c₂ : ℕ}
    (h₁ : Trace step initial past₁ r₁) (h₂ : Trace step initial past₂ r₂)
    (hc₁ : r₁.cellOf n = some c₁) (hc₂ : r₂.cellOf n = some c₂)
    (hs₁ : r₁.statusOf n = some .resolved) (hs₂ : r₂.statusOf n = some .resolved)
    (hstarted : started c₁ past₁ = started c₂ past₂)
    (hanswers : answers c₁ past₁ = answers c₂ past₂) : returned n past₁ = returned n past₂ := by
  obtain ⟨i, x, hi, hx, hreturned₁⟩ := returned_at_place h₁ hc₁ hs₁
  obtain ⟨j, y, hj, hy, hreturned₂⟩ := returned_at_place h₂ hc₂ hs₂
  rw [hstarted] at hi
  obtain rfl : i = j := (orderly_of_trace h₂ c₂).place_unique hi hj
  rw [hanswers, hy] at hx
  cases hx
  rw [hreturned₁, hreturned₂]

/-! ## Modes are kept -/

/-- What a lookup has from the mode in which it was made. -/
structure KeepsMode (mode : Bool) (past : List (Moment Resolver Action Effect)) (r : Resolver)
    (n : ℕ) : Prop where
  /-- In per-resource mode it has a cell for good, and gets what became of an answer to a request
  for this cell. -/
  perResource : mode = true → ∃ c, r.cellOf n = some c ∧
    ∀ settings ∈ returned n past, ∃ x ∈ answers c past, settings = Settings.resolved x.2
  /-- In global mode it has no cell for good. It can take the global value of this moment, or it has
  taken the value of the moment when it was resolved. -/
  global : mode = false → r.cellOf n = none ∧
    (r.statusOf n = some .claimed ∧ returned n past = [] ∧
        r.step (.resolve n) = some (r.setStatus n .resolved,
          [.resolved n (globalAfter Settings.standard (past.map Moment.action))]) ∨
      r.statusOf n = some .resolved ∧ ∃ j, HappensAt past j (fun m => m.action = .resolve n) ∧
        returned n past =
          [globalAfter Settings.standard ((past.take j).map Moment.action)])

/-- A lookup keeps the mode in which it was made. -/
theorem keepsMode_of_madeIn (h : Trace step initial past r) (hi : MadeIn mode past i n u) :
    KeepsMode mode past r n := by
  obtain ⟨⟨v, cell⟩, status, hsource, hcell⟩ := source_of_madeIn h hi
  cases cell with
  | some c =>
    refine ⟨fun _ => ⟨c, cellOf_eq hsource, fun settings hsettings => ?_⟩, ?_⟩
    · have hresolved : r.statusOf n = some .resolved := by
        by_contra hnot
        rw [returned_eq_nil h hnot] at hsettings
        cases hsettings
      obtain ⟨x, hx, hreturned⟩ := returned_of_resolved h (cellOf_eq hsource) hresolved
      rw [hreturned] at hsettings
      exact ⟨x, hx, List.mem_singleton.mp hsettings⟩
    · rintro rfl
      cases hcell
  | none =>
    refine ⟨?_, fun _ => ⟨cellOf_eq hsource, ?_⟩⟩
    · rintro rfl
      cases hcell
    rcases returned_global h hsource with ⟨rfl, hnothing⟩ | ⟨rfl, j, m, hm, ha, hreturned⟩
    · refine Or.inl ⟨statusOf_eq hsource, hnothing, ?_⟩
      rw [step_global hsource, global_of_trace h]
      rfl
    · refine Or.inr ⟨statusOf_eq hsource, j, ⟨m, hm, ha⟩, ?_⟩
      rw [hreturned, global_of_trace (h.take_at hm)]
      rfl

/-! ## States that differ in the mode and the global value -/

/-- Two states that differ at most in the mode and the global value. -/
structure SameCells (r₁ r₂ : Resolver) : Prop where
  entries : r₁.cache.entries = r₂.cache.entries
  cells : r₁.cache.cells = r₂.cache.cells
  lookups : r₁.lookups = r₂.lookups

theorem SameCells.symm (h : SameCells r₁ r₂) : SameCells r₂ r₁ :=
  ⟨h.entries.symm, h.cells.symm, h.lookups.symm⟩

theorem SameCells.cellOf_eq (h : SameCells r₁ r₂) (n : ℕ) : r₁.cellOf n = r₂.cellOf n := by
  rw [cellOf, cellOf, h.lookups]

/-- A lookup has no cell. -/
def TakesGlobal (r : Resolver) (n : ℕ) : Prop :=
  ∃ u status, r.lookups[n]? = some (⟨u, none⟩, status)

theorem Moves.takesGlobal_kept (hm : Moves r a r' effects) (hn : TakesGlobal r n) :
    TakesGlobal r' n := by
  obtain ⟨u, status, hn⟩ := hn
  obtain ⟨status', hn'⟩ := hm.reshapes.source_kept hn
  exact ⟨u, status', hn'⟩

theorem SameCells.takesGlobal_iff (h : SameCells r₁ r₂) : TakesGlobal r₁ n ↔ TakesGlobal r₂ n := by
  rw [TakesGlobal, TakesGlobal, h.lookups]

/-- Sets the mode or the global value. -/
def Action.Sets (a : Action) : Prop := (∃ enabled, a = .setPerResource enabled) ∨
  ∃ settings, a = .setGlobal settings

/-- What is done with cells does not depend on the mode and the global value, except for the mode in
which lookups are made. Only those without a cell may see a difference. -/
theorem SameCells.follow (h : SameCells r₁ r₂) (hm : Moves r₁ a r₁' effects) (ha : ¬a.Sets)
    (hmode : ∀ u, a = .lookup u → r₁.cache.perResource = r₂.cache.perResource) :
    ∃ r₂' effects', r₂.step a = some (r₂', effects') ∧ SameCells r₁' r₂' ∧
      (effects' = effects ∨ ∃ n, TakesGlobal r₁' n ∧ effects = [.resolved n r₁.cache.global] ∧
        effects' = [.resolved n r₂.cache.global]) := by
  obtain ⟨⟨mode, global, entries, cells⟩, lookups⟩ := r₂
  obtain ⟨rfl, rfl, rfl⟩ := h
  cases hm with
  | setPerResource enabled => exact absurd (Or.inl ⟨enabled, rfl⟩) ha
  | setGlobal settings => exact absurd (Or.inr ⟨settings, rfl⟩) ha
  | lookup u =>
    obtain rfl := hmode u rfl
    have hsame := Cache.lookup_setGlobal r₁.cache global u
    refine ⟨_, _, rfl, ⟨?_, ?_, ?_⟩, Or.inl rfl⟩
    · exact (congrArg (fun found => found.1.entries) hsame).symm
    · exact (congrArg (fun found => found.1.cells) hsame).symm
    · exact (congrArg (fun found => r₁.lookups ++ [(found.2, .claimed)]) hsame).symm
  | invalidate u => exact ⟨_, _, rfl, ⟨rfl, rfl, rfl⟩, Or.inl rfl⟩
  | invalidateAll => exact ⟨_, _, rfl, ⟨rfl, rfl, rfl⟩, Or.inl rfl⟩
  | resolveGlobal n u hn =>
    refine ⟨_, _, step_global hn, ⟨rfl, rfl, rfl⟩, Or.inr ⟨n, ⟨u, .resolved, ?_⟩, rfl, rfl⟩⟩
    rw [lookups_setStatus hn, if_pos rfl]
  | resolveCell n u c hn => exact ⟨_, _, step_join hn, ⟨rfl, rfl, rfl⟩, Or.inl rfl⟩
  | advanceReady n u c settings hn hv =>
    exact ⟨_, _, step_ready hn hv, ⟨rfl, rfl, rfl⟩, Or.inl rfl⟩
  | advanceAsk n u c hn hv hl => exact ⟨_, _, step_ask hn hv hl, ⟨rfl, rfl, rfl⟩, Or.inl rfl⟩
  | answer n u c answer hn =>
    obtain ⟨f, hf⟩ := Cache.settle_eq_update answer
    refine ⟨_, _, answer_step (r := ⟨⟨mode, global, _, _⟩, _⟩) hn answer, ?_, Or.inl rfl⟩
    rw [hf, hf]
    exact ⟨rfl, rfl, rfl⟩

/-! ## Setting the mode and the global value -/

/-- What an action asks for, apart from setting the mode or the global value. A lookup is noted with
the mode in which it is made. -/
def noted (mode : Bool) : Action → List (Action × Option Bool)
  | .setPerResource _ => []
  | .setGlobal _ => []
  | .lookup u => [(.lookup u, some mode)]
  | a => [(a, none)]

/-- What some actions ask for, apart from setting the mode and the global value. -/
def agenda (mode : Bool) : List Action → List (Action × Option Bool)
  | [] => []
  | a :: actions => noted mode a ++ agenda (modeBy mode a) actions

@[simp]
theorem agenda_concat (mode : Bool) (actions : List Action) (a : Action) :
    agenda mode (actions ++ [a]) = agenda mode actions ++ noted (modeAfter mode actions) a := by
  induction actions generalizing mode with
  | nil => exact List.append_nil _
  | cons b actions ih =>
    show noted mode b ++ agenda (modeBy mode b) (actions ++ [a]) = _
    rw [ih, ← List.append_assoc]
    rfl

theorem noted_eq_nil_iff : noted mode a = [] ↔ a.Sets := by
  cases a <;> simp [noted, Action.Sets]

theorem length_noted (ha : ¬a.Sets) : (noted mode a).length = 1 := by
  cases a <;> simp_all [noted, Action.Sets]

/-- Actions that ask for the same. -/
theorem eq_of_noted {mode' : Bool} {b : Action} (ha : ¬a.Sets)
    (h : noted mode a = noted mode' b) : a = b ∧ ∀ u, a = .lookup u → mode = mode' := by
  cases a with
  | setPerResource enabled => exact absurd (Or.inl ⟨enabled, rfl⟩) ha
  | setGlobal settings => exact absurd (Or.inr ⟨settings, rfl⟩) ha
  | lookup u => cases b <;> simp_all [noted]
  | _ => cases b <;> simp_all [noted]

theorem mode_replay (r : Resolver) (actions : List Action) :
    (replay step r actions).2.cache.perResource = modeAfter r.cache.perResource actions := by
  induction actions using List.reverseRecOn with
  | nil => rfl
  | append_singleton actions a ih =>
    rw [replay_concat, modeAfter, List.foldl_append, List.foldl_cons, List.foldl_nil]
    rw [modeAfter] at ih
    rw [← ih, replayOne]
    cases hs : step (replay step r actions).2 a with
    | some result => exact (moves_of_step hs).mode_eq
    | none =>
      -- to set the mode is never refused
      cases a with
      | setPerResource enabled => cases hs
      | _ => rfl

/-- Two courses of events are the same for lookups with a cell: the cells are the same, and the
lookups; the same requests are made; and all lookups that have not taken a global value have got the
same settings. -/
structure Agree (x y : List (Moment Resolver Action Effect) × Resolver) : Prop extends
    SameCells x.2 y.2 where
  fetched : ∀ c, fetches c x.1 = fetches c y.1
  returned : ∀ n, ¬TakesGlobal x.2 n → returned n x.1 = returned n y.1

theorem Agree.refl (x : List (Moment Resolver Action Effect) × Resolver) : Agree x x :=
  ⟨⟨rfl, rfl, rfl⟩, fun _ => rfl, fun _ _ => rfl⟩

theorem Agree.symm (h : Agree x y) : Agree y x where
  toSameCells := h.toSameCells.symm
  fetched c := (h.fetched c).symm
  returned n hn := (h.returned n (mt h.takesGlobal_iff.mp hn)).symm

/-- Lookups with a cell do not see that the mode or the global value is set. -/
theorem Agree.set (h : Agree x y) (ha : a.Sets) : Agree (replayOne step x a) y := by
  obtain ⟨r', hs, hsame⟩ : ∃ r', x.2.step a = some (r', []) ∧ SameCells r' x.2 := by
    rcases ha with ⟨enabled, rfl⟩ | ⟨settings, rfl⟩
    · exact ⟨_, rfl, rfl, rfl, rfl⟩
    · exact ⟨_, rfl, rfl, rfl, rfl⟩
  rw [replayOne, hs]
  refine ⟨⟨hsame.entries.trans h.entries, hsame.cells.trans h.cells,
    hsame.lookups.trans h.lookups⟩, fun c => ?_, fun n hn => ?_⟩
  · simp [h.fetched c]
  · simp [h.returned n (mt hsame.takesGlobal_iff.mpr hn)]

/-- Both courses go on with the same action. -/
theorem Agree.together (h : Agree x y) (ha : ¬a.Sets)
    (hmode : ∀ u, a = .lookup u → x.2.cache.perResource = y.2.cache.perResource) :
    Agree (replayOne step x a) (replayOne step y a) := by
  cases hs : x.2.step a with
  | none =>
    have hs' : y.2.step a = none := by
      -- the first course would go on as well
      by_contra hsome
      obtain ⟨⟨r', effects⟩, hs'⟩ := Option.ne_none_iff_exists'.mp hsome
      obtain ⟨_, _, hx, -⟩ := h.toSameCells.symm.follow (moves_of_step hs') ha
        fun u hu => (hmode u hu).symm
      rw [hs] at hx
      cases hx
    rw [replayOne, replayOne, hs, hs']
    exact h
  | some result =>
    obtain ⟨r', effects⟩ := result
    obtain ⟨r'', effects', hs', hsame, heffects⟩ :=
      h.toSameCells.follow (moves_of_step hs) ha hmode
    rw [replayOne, replayOne, hs, hs']
    refine ⟨hsame, fun c => ?_, fun n hn => ?_⟩
    · have hby : fetchedBy c x.2 = fetchedBy c y.2 := by
        funext effect
        cases effect with
        | fetch n u => rw [fetchedBy, fetchedBy, h.cellOf_eq]
        | _ => rfl
      rw [fetches_concat, fetches_concat, h.fetched c]
      dsimp only
      rw [hby]
      rcases heffects with rfl | ⟨k, -, rfl, rfl⟩
      · rfl
      · rfl
    · have hbefore := mt (moves_of_step hs).takesGlobal_kept hn
      rw [returned_concat, returned_concat, h.returned n hbefore]
      rcases heffects with rfl | ⟨k, hk, rfl, rfl⟩
      · rfl
      · have hkn : ¬k = n := by
          rintro rfl
          exact hn hk
        simp [returnedBy, hkn]

/-- It does not matter to lookups with a cell when the mode and the global value are set, and to
what, as long as every lookup is made in the same mode. -/
theorem agree_of_agenda (r : Resolver)
    (h : agenda r.cache.perResource actions = agenda r.cache.perResource actions') :
    Agree (replay step r actions) (replay step r actions') := by
  -- by the last action of each: what is set last is dropped, until both go on in the same way
  induction actions using List.reverseRecOn generalizing actions' with
  | nil =>
    induction actions' using List.reverseRecOn with
    | nil => exact Agree.refl _
    | append_singleton actions' b ih =>
      rw [agenda_concat] at h
      obtain ⟨hearlier, hb⟩ := List.append_eq_nil_iff.mp h.symm
      rw [replay_concat]
      exact ((ih hearlier.symm).symm.set (noted_eq_nil_iff.mp hb)).symm
  | append_singleton actions a ih =>
    rw [agenda_concat] at h
    by_cases ha : a.Sets
    · rw [noted_eq_nil_iff.mpr ha, List.append_nil] at h
      rw [replay_concat]
      exact (ih h).set ha
    · induction actions' using List.reverseRecOn with
      | nil => exact absurd (noted_eq_nil_iff.mp (List.append_eq_nil_iff.mp h).2) ha
      | append_singleton actions' b ih' =>
        rw [agenda_concat] at h
        by_cases hb : b.Sets
        · rw [noted_eq_nil_iff.mpr hb, List.append_nil] at h
          rw [replay_concat step r actions']
          exact ((ih' h).symm.set hb).symm
        · obtain ⟨hearlier, hlast⟩ := List.append_inj' h (by rw [length_noted ha, length_noted hb])
          obtain ⟨rfl, hmode⟩ := eq_of_noted ha hlast
          rw [replay_concat, replay_concat]
          refine (ih hearlier).together ha fun u hu => ?_
          rw [mode_replay, mode_replay]
          exact hmode u hu

end Resolver

end LineLint
