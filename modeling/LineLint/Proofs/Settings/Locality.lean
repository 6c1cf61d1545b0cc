import LineLint.Proofs.Settings.Separation
import LineLint.Proofs.Settings.SingleFlight
import Mathlib.Data.List.Induction

/-!
# Documents do not see each other

What is done for one document is not seen by another. Two states look alike from a document if its
lookups have come equally far, share cells in the same way, and find the same in them. The numbers
of the cells do not count: they depend on what is done for other documents.

* `Corresponds` — two ways of referring to cells.
* `Alike` — two states, seen from one document.
* `concerns`, `concerning` — what happens outside for a document.

Results:

* `alike_of_moves`: the steps of other lookups are not seen.
* `Alike.follow`, `Alike.together`: states that look alike take the same steps.
* `alike_replay`: states that look alike go on looking alike, whatever is done.
-/

namespace LineLint.Resolver

variable {r r' r₁ r₂ : Resolver} {a : Action} {effects : List Effect} {n c i j : ℕ} {u v w : Uri}
  {past past₁ past₂ : List (Moment Resolver Action Effect)} {status : LookupStatus}
  {cache cache₁ cache₂ : Cache} {x : Holder}

/-! ## Ways of referring to cells -/

/-- Two ways of referring to cells correspond: the same holders share a cell, and they find the same
in it, that is the same value and the same lookups in line. -/
structure Corresponds (f₁ f₂ : Holder → Option ℕ) (cell₁ cell₂ : ℕ → Cell) : Prop where
  shared : ∀ x y, f₁ x = f₁ y ↔ f₂ x = f₂ y
  cells : ∀ x, (f₁ x).map cell₁ = (f₂ x).map cell₂

section

variable {f₁ f₂ : Holder → Option ℕ} {cell₁ cell₂ : ℕ → Cell}

theorem Corresponds.eq_none_iff (h : Corresponds f₁ f₂ cell₁ cell₂) (x : Holder) :
    f₁ x = none ↔ f₂ x = none := by
  rw [← Option.map_eq_none_iff, h.cells x, Option.map_eq_none_iff]

theorem Corresponds.eq_some (h : Corresponds f₁ f₂ cell₁ cell₂) (hx : f₁ x = some i) :
    ∃ j, f₂ x = some j ∧ cell₁ i = cell₂ j := by
  have hcells := h.cells x
  rw [hx] at hcells
  obtain ⟨j, hj, hij⟩ := Option.map_eq_some_iff.mp hcells.symm
  exact ⟨j, hj, hij.symm⟩

/-- Holders may refer to the cells of others. -/
theorem Corresponds.comp (h : Corresponds f₁ f₂ cell₁ cell₂) (g : Holder → Holder) :
    Corresponds (f₁ ∘ g) (f₂ ∘ g) cell₁ cell₂ :=
  ⟨fun x y => h.shared (g x) (g y), fun x => h.cells (g x)⟩

/-- The entry is forgotten. -/
theorem Corresponds.forget (h : Corresponds f₁ f₂ cell₁ cell₂) :
    Corresponds (withEntry f₁ none) (withEntry f₂ none) cell₁ cell₂ where
  shared x y := by
    cases x with
    | entry =>
      cases y with
      | entry => exact Iff.rfl
      | lookup l => exact eq_comm.trans ((h.eq_none_iff (.lookup l)).trans eq_comm)
    | lookup k =>
      cases y with
      | entry => exact h.eq_none_iff (.lookup k)
      | lookup l => exact h.shared (.lookup k) (.lookup l)
  cells x := by
    cases x with
    | entry => rfl
    | lookup k => exact h.cells (.lookup k)

/-- The entry gets a cell to which no one else refers. -/
theorem Corresponds.enter (h : Corresponds f₁ f₂ cell₁ cell₂) (h₁ : ∀ x, f₁ x ≠ some i)
    (h₂ : ∀ x, f₂ x ≠ some j) (hcell : cell₁ i = cell₂ j) :
    Corresponds (withEntry f₁ (some i)) (withEntry f₂ (some j)) cell₁ cell₂ where
  shared x y := by
    cases x with
    | entry =>
      cases y with
      | entry => exact iff_of_true rfl rfl
      | lookup l => exact iff_of_false (h₁ _ ·.symm) (h₂ _ ·.symm)
    | lookup k =>
      cases y with
      | entry => exact iff_of_false (h₁ _) (h₂ _)
      | lookup l => exact h.shared (.lookup k) (.lookup l)
  cells x := by
    cases x with
    | entry => exact congrArg some hcell
    | lookup k => exact h.cells (.lookup k)

/-- The same change is made to a cell to which the same holders refer. -/
theorem Corresponds.update (h : Corresponds f₁ f₂ cache₁.cell cache₂.cell) (hx₁ : f₁ x = some i)
    (hx₂ : f₂ x = some j) (hi : i < cache₁.cells.length) (hj : j < cache₂.cells.length)
    (f : Cell → Cell) :
    Corresponds f₁ f₂ (cache₁.update i f).cell (cache₂.update j f).cell := by
  refine ⟨h.shared, fun y => ?_⟩
  cases hy₁ : f₁ y with
  | none =>
    rw [(h.eq_none_iff y).mp hy₁]
    rfl
  | some k =>
    obtain ⟨l, hy₂, hkl⟩ := h.eq_some hy₁
    have hsame : k = i ↔ l = j := by
      have hshared := h.shared y x
      rwa [hy₁, hx₁, hy₂, hx₂, Option.some_inj, Option.some_inj] at hshared
    rw [hy₂, Option.map_some, Option.map_some, Cache.cell_update hi, Cache.cell_update hj]
    by_cases hk : k = i
    · obtain rfl := hk
      obtain rfl := hsame.mp rfl
      rw [if_pos rfl, if_pos rfl, hkl]
    · rw [if_neg hk, if_neg (mt hsame.mpr hk), hkl]

/-- A change of a cell to which no one refers. -/
theorem corresponds_update (hi : i < cache.cells.length) (hother : ∀ x, f₁ x ≠ some i)
    (f : Cell → Cell) : Corresponds f₁ f₁ cache.cell (cache.update i f).cell := by
  refine ⟨fun x y => Iff.rfl, fun x => ?_⟩
  cases hx : f₁ x with
  | none => rfl
  | some k =>
    have hk : ¬k = i := fun hk => hother x (hk ▸ hx)
    rw [Option.map_some, Option.map_some, Cache.cell_update hi, if_neg hk]

end

/-! ## States seen from a document -/

/-- Two states look alike from a document. -/
structure Alike (v : Uri) (r₁ r₂ : Resolver) : Prop extends
    Corresponds (r₁.cellAt v) (r₂.cellAt v) r₁.cache.cell r₂.cache.cell where
  mode : r₁.cache.perResource = r₂.cache.perResource
  global : r₁.cache.global = r₂.cache.global
  /-- Lookups have been made for the same documents. -/
  uris : r₁.uris = r₂.uris
  /-- The lookups of the document have come equally far. -/
  status : ∀ n, r₁.uris[n]? = some v → r₁.statusOf n = r₂.statusOf n

theorem Alike.refl (v : Uri) (r : Resolver) : Alike v r r :=
  ⟨⟨fun _ _ => Iff.rfl, fun _ => rfl⟩, rfl, rfl, rfl, fun _ _ => rfl⟩

theorem Alike.symm (h : Alike v r₁ r₂) : Alike v r₂ r₁ where
  shared x y := (h.shared x y).symm
  cells x := (h.cells x).symm
  mode := h.mode.symm
  global := h.global.symm
  uris := h.uris.symm
  status n hn := (h.status n (h.uris ▸ hn)).symm

theorem Alike.trans (h : Alike v r₁ r) (h' : Alike v r r₂) : Alike v r₁ r₂ where
  shared x y := (h.shared x y).trans (h'.shared x y)
  cells x := (h.cells x).trans (h'.cells x)
  mode := h.mode.trans h'.mode
  global := h.global.trans h'.global
  uris := h.uris.trans h'.uris
  status n hn := (h.status n hn).trans (h'.status n (h.uris ▸ hn))

theorem Alike.lookups_length (h : Alike v r₁ r₂) : r₁.lookups.length = r₂.lookups.length := by
  rw [← uris_length, ← uris_length, h.uris]

/-- A lookup of the document uses the global value in both. -/
theorem Alike.uses_global (h : Alike v r₁ r₂) (hn : r₁.lookups[n]? = some (⟨v, none⟩, status)) :
    r₂.lookups[n]? = some (⟨v, none⟩, status) := by
  have hstatus := (h.status n (uris_eq hn)).symm.trans (statusOf_eq hn)
  rw [lookups_eq (h.uris ▸ uris_eq hn) hstatus, (h.eq_none_iff _).mp (cellAt_eq hn)]

/-- A lookup of the document has a cell in both, and finds the same in it. -/
theorem Alike.uses_cell (h : Alike v r₁ r₂) (hn : r₁.lookups[n]? = some (⟨v, some i⟩, status)) :
    ∃ j, r₂.lookups[n]? = some (⟨v, some j⟩, status) ∧ r₁.cache.cell i = r₂.cache.cell j := by
  have hstatus := (h.status n (uris_eq hn)).symm.trans (statusOf_eq hn)
  obtain ⟨j, hj, hcell⟩ := h.eq_some (cellAt_eq hn)
  refine ⟨j, ?_, hcell⟩
  rw [lookups_eq (h.uris ▸ uris_eq hn) hstatus, hj]

/-! ## What keeps states alike -/

/-- Something happens in the cells. -/
theorem Alike.recache (h : Alike v r₁ r₂)
    (hcells : Corresponds (r₁.cellAt v) (r₂.cellAt v) cache₁.cell cache₂.cell)
    (he₁ : cache₁.entries = r₁.cache.entries) (he₂ : cache₂.entries = r₂.cache.entries)
    (hmode : cache₁.perResource = cache₂.perResource) (hglobal : cache₁.global = cache₂.global) :
    Alike v { r₁ with cache := cache₁ } { r₂ with cache := cache₂ } := by
  refine ⟨?_, hmode, hglobal, h.uris, h.status⟩
  rw [funext (cellAt_recache he₁ v), funext (cellAt_recache he₂ v)]
  exact hcells

/-- A lookup moves on in both. -/
theorem Alike.setStatus {entry₁ entry₂ : Lookup × LookupStatus} (h : Alike v r₁ r₂)
    (hn₁ : r₁.lookups[n]? = some entry₁) (hn₂ : r₂.lookups[n]? = some entry₂) :
    Alike v (r₁.setStatus n status) (r₂.setStatus n status) := by
  refine ⟨?_, h.mode, h.global, by simpa using h.uris, fun k hk => ?_⟩
  · simpa using h.toCorresponds
  · rw [uris_setStatus] at hk
    rw [statusOf_setStatus hn₁, statusOf_setStatus hn₂, h.status k hk]

/-- A lookup of another document moves on. -/
theorem alike_setStatus {entry : Lookup × LookupStatus} (hn : r.lookups[n]? = some entry)
    (hother : r.uris[n]? ≠ some v) : Alike v r (r.setStatus n status) := by
  refine ⟨?_, rfl, rfl, (uris_setStatus r n status).symm, fun k hk => ?_⟩
  · simpa using (Alike.refl v r).toCorresponds
  · rw [statusOf_setStatus hn, if_neg]
    rintro rfl
    exact hother hk

/-- A lookup is made in both. -/
theorem Alike.lookup (h : Alike v r₁ r₂) (h₁ : InRange r₁) (h₂ : InRange r₂) (u : Uri) :
    Alike v (r₁.lookup u).1 (r₂.lookup u).1 := by
  refine ⟨?_, ?_, ?_, ?_, fun n hn => ?_⟩
  · have hcell : ∀ r : Resolver, (r.lookup u).1.cache.cell = r.cache.cell :=
      fun r => funext (Cache.cell_lookup r.cache u)
    rw [hcell, hcell]
    by_cases hsame : u = v → r₁.cache.perResource = false
    · rw [cellAt_lookup_same hsame, cellAt_lookup_same fun huv => h.mode ▸ hsame huv]
      exact h.toCorresponds
    · obtain ⟨rfl, hp₁⟩ := Classical.not_imp.mp hsame
      rw [Bool.not_eq_false] at hp₁
      have hp₂ : r₂.cache.perResource = true := h.mode ▸ hp₁
      cases hu₁ : r₁.cache.entry? u with
      | some i =>
        obtain ⟨j, hu₂, -⟩ := h.eq_some (x := .entry) hu₁
        rw [cellAt_lookup_known hp₁ hu₁, cellAt_lookup_known hp₂ hu₂, h.lookups_length]
        exact h.comp _
      | none =>
        have hu₂ := (h.eq_none_iff .entry).mp hu₁
        rw [cellAt_lookup_new hp₁ hu₁, cellAt_lookup_new hp₂ hu₂, h.lookups_length]
        -- cells that do not exist yet are empty, and no one refers to them
        refine (h.enter (fun x hx => ?_) (fun x hx => ?_) ?_).comp _
        · exact Nat.lt_irrefl _ (h₁.cellAt hx)
        · exact Nat.lt_irrefl _ (h₂.cellAt hx)
        · rw [Cache.cell_length, Cache.cell_length]
  · simpa [Resolver.lookup] using h.mode
  · simpa [Resolver.lookup] using h.global
  · simp [h.uris]
  · rw [uris_lookup] at hn
    rw [statusOf_lookup, statusOf_lookup, h.lookups_length]
    rcases getElem?_concat_iff.mp hn with hn | ⟨hlast, -⟩
    · rw [h.status n hn]
    · rw [uris_length, h.lookups_length] at hlast
      rw [if_pos hlast, if_pos hlast]

/-- The entry of a document is forgotten in both. -/
theorem Alike.invalidate (h : Alike v r₁ r₂) (u : Uri) :
    Alike v (r₁.invalidate u).1 (r₂.invalidate u).1 := by
  refine ⟨?_, h.mode, h.global, h.uris, h.status⟩
  rw [cellAt_invalidate, cellAt_invalidate]
  split_ifs
  · exact h.forget
  · exact h.toCorresponds

/-- The entry of another document is forgotten. -/
theorem alike_invalidate (hother : v ≠ u) (r : Resolver) : Alike v r (r.invalidate u).1 := by
  refine ⟨?_, rfl, rfl, rfl, fun _ _ => rfl⟩
  rw [cellAt_invalidate, if_neg hother]
  exact (Alike.refl v r).toCorresponds

/-- All entries are forgotten in both. -/
theorem Alike.invalidateAll (h : Alike v r₁ r₂) :
    Alike v r₁.invalidateAll.1 r₂.invalidateAll.1 := by
  refine ⟨?_, h.mode, h.global, h.uris, h.status⟩
  rw [cellAt_invalidateAll, cellAt_invalidateAll]
  exact h.forget

/-! ## What happens outside -/

/-- Whether an effect is about a document: it is for one of its lookups, or logs something of it. -/
def concerns (v : Uri) (r : Resolver) : Effect → Bool
  | .fetch n _ => r.uris[n]? = some v
  | .resolved n _ => r.uris[n]? = some v
  | .log (.fetchFailed u _) => u = v
  | .log (.entryInvalidated u) => u = v
  | .log _ => false

/-- What has happened outside for a document, in order. -/
def concerning (v : Uri) (past : List (Moment Resolver Action Effect)) : List Effect :=
  past.flatMap fun m => m.effects.filter (concerns v m.before)

@[simp]
theorem concerning_concat (m : Moment Resolver Action Effect) : concerning v (past ++ [m]) =
    concerning v past ++ m.effects.filter (concerns v m.before) := by
  rw [concerning, List.flatMap_append, List.flatMap_singleton]
  rfl

theorem concerns_answerEffects (hu : u ≠ v) (hn : r.uris[n]? ≠ some v)
    (answer : Except SettingsError Settings) :
    (answerEffects n u answer).filter (concerns v r) = [] := by
  unfold answerEffects
  cases answer.bind Settings.validated <;> simp [concerns, hu, hn]

/-- The step of a lookup of another document is not seen. -/
theorem alike_of_moves (hm : Moves r a r' effects) (hrange : InRange r) (hsep : Separate r)
    (ha : a.mover? = some n) (hother : r.uris[n]? ≠ some v) :
    Alike v r r' ∧ effects.filter (concerns v r) = [] := by
  -- the cell of a lookup of another document is none of this one's
  have hcell : ∀ {u c status}, r.lookups[n]? = some (⟨u, some c⟩, status) → ∀ x,
      r.cellAt v x ≠ some c := by
    intro u c status hn x hx
    have huv := hsep v u x (.lookup n) c hx (cellAt_eq hn)
    exact hother (huv ▸ uris_eq hn)
  have hupdate : ∀ {u c status after} (f : Cell → Cell),
      r.lookups[n]? = some (⟨u, some c⟩, status) →
      Alike v r ({ r with cache := r.cache.update c f }.setStatus n after) := by
    intro u c status after f hn
    have hchange := corresponds_update (hrange.lookups n c (cellOf_eq hn)) (hcell hn) f
    have halike := (Alike.refl v r).recache hchange rfl rfl rfl rfl
    exact halike.trans (alike_setStatus (r := { r with cache := _ }) hn hother)
  cases hm with
  | resolveGlobal k u hk =>
    cases ha
    exact ⟨alike_setStatus hk hother, by simp [concerns, hother]⟩
  | resolveCell k u c hk =>
    cases ha
    exact ⟨hupdate _ hk, rfl⟩
  | advanceReady k u c settings hk =>
    cases ha
    exact ⟨alike_setStatus hk hother, by simp [concerns, hother]⟩
  | advanceAsk k u c hk =>
    cases ha
    exact ⟨alike_setStatus hk hother, by simp [concerns, hother]⟩
  | answer k u c answer hk =>
    cases ha
    obtain ⟨f, hf⟩ := Cache.settle_eq_update answer
    rw [hf]
    refine ⟨hupdate f hk, concerns_answerEffects ?_ hother answer⟩
    rintro rfl
    exact hother (uris_eq hk)
  | _ => cases ha

/-! ## The same steps -/

/-- A lookup of the document takes the same steps in both. -/
theorem Alike.follow (h : Alike v r₁ r₂) (h₁ : InRange r₁) (h₂ : InRange r₂)
    (hm : Moves r₁ a r' effects) (ha : a.mover? = some n) (hn : r₁.uris[n]? = some v) :
    ∃ next, r₂.step a = some (next, effects) ∧ Alike v r' next := by
  have hown : ∀ {u o status}, r₁.lookups[n]? = some (⟨u, o⟩, status) → u = v :=
    fun hk => Option.some.inj ((uris_eq hk).symm.trans hn)
  have hupdate : ∀ {i j status after} (f : Cell → Cell),
      r₁.lookups[n]? = some (⟨v, some i⟩, status) → r₂.lookups[n]? = some (⟨v, some j⟩, status) →
      Alike v ({ r₁ with cache := r₁.cache.update i f }.setStatus n after)
        ({ r₂ with cache := r₂.cache.update j f }.setStatus n after) := by
    intro i j status after f hk₁ hk₂
    have hcells := h.update (cellAt_eq hk₁) (cellAt_eq hk₂) (h₁.lookups n i (cellOf_eq hk₁))
      (h₂.lookups n j (cellOf_eq hk₂)) f
    exact (h.recache hcells rfl rfl h.mode h.global).setStatus hk₁ hk₂
  cases hm with
  | resolveGlobal k u hk =>
    cases ha
    obtain rfl := hown hk
    have hk₂ := h.uses_global hk
    refine ⟨_, ?_, h.setStatus hk hk₂⟩
    rw [step_global hk₂, h.global]
  | resolveCell k u i hk =>
    cases ha
    obtain rfl := hown hk
    obtain ⟨j, hk₂, -⟩ := h.uses_cell hk
    exact ⟨_, step_join hk₂, hupdate _ hk hk₂⟩
  | advanceReady k u i settings hk hv =>
    cases ha
    obtain rfl := hown hk
    obtain ⟨j, hk₂, hcell⟩ := h.uses_cell hk
    exact ⟨_, step_ready hk₂ (hcell ▸ hv), h.setStatus hk hk₂⟩
  | advanceAsk k u i hk hv hl =>
    cases ha
    obtain rfl := hown hk
    obtain ⟨j, hk₂, hcell⟩ := h.uses_cell hk
    exact ⟨_, step_ask hk₂ (hcell ▸ hv) (hcell ▸ hl), h.setStatus hk hk₂⟩
  | answer k u i answer hk =>
    cases ha
    obtain rfl := hown hk
    obtain ⟨j, hk₂, -⟩ := h.uses_cell hk
    obtain ⟨f, hf⟩ := Cache.settle_eq_update answer
    refine ⟨_, answer_step hk₂ answer, ?_⟩
    rw [hf, hf]
    exact hupdate f hk hk₂
  | _ => cases ha

theorem Alike.concerns_eq (h : Alike v r₁ r₂) : concerns v r₁ = concerns v r₂ := by
  funext effect
  cases effect with
  | fetch n u => rw [concerns, concerns, h.uris]
  | resolved n settings => rw [concerns, concerns, h.uris]
  | log event => cases event <;> rfl

/-- What is done to the cache is done in both. -/
theorem Alike.together (h : Alike v r₁ r₂) (h₁ : InRange r₁) (h₂ : InRange r₂)
    (ha : a.mover? = none) : ∃ next₁ effects₁ next₂ effects₂,
      r₁.step a = some (next₁, effects₁) ∧ r₂.step a = some (next₂, effects₂) ∧
      Alike v next₁ next₂ ∧ effects₁.filter (concerns v r₁) = effects₂.filter (concerns v r₂) := by
  cases a with
  | setPerResource enabled =>
    exact ⟨_, _, _, _, rfl, rfl, h.recache h.toCorresponds rfl rfl rfl h.global, rfl⟩
  | setGlobal settings =>
    exact ⟨_, _, _, _, rfl, rfl, h.recache h.toCorresponds rfl rfl h.mode rfl, rfl⟩
  | lookup u => exact ⟨_, _, _, _, rfl, rfl, h.lookup h₁ h₂ u, rfl⟩
  | invalidate u =>
    refine ⟨_, _, _, _, rfl, rfl, h.invalidate u, ?_⟩
    show (if (r₁.cache.entry? u).isSome then [Effect.log (.entryInvalidated u)] else []).filter _ =
      (if (r₂.cache.entry? u).isSome then [Effect.log (.entryInvalidated u)] else []).filter _
    by_cases huv : u = v
    · subst huv
      have hentry : (r₁.cache.entry? u).isSome = (r₂.cache.entry? u).isSome := by
        have hcells := congrArg Option.isSome (h.cells .entry)
        rwa [Option.isSome_map, Option.isSome_map] at hcells
      rw [hentry, h.concerns_eq]
    · split_ifs <;> simp [concerns, huv]
  | invalidateAll => exact ⟨_, _, _, _, rfl, rfl, h.invalidateAll, rfl⟩
  | resolve n => cases ha
  | advance n => cases ha
  | answer n answer => cases ha

/-! ## Whole runs -/

section

variable {run run₁ run₂ : List (Moment Resolver Action Effect) × Resolver}

/-- An action for a lookup of another document is not seen, whether it is refused or not. -/
theorem alike_replayOne (hrange : InRange run.2) (hsep : Separate run.2) (ha : a.mover? = some n)
    (hother : run.2.uris[n]? ≠ some v) : Alike v run.2 (replayOne step run a).2 ∧
      concerning v (replayOne step run a).1 = concerning v run.1 := by
  unfold replayOne
  split
  · rename_i r' effects hs
    obtain ⟨halike, hnothing⟩ := alike_of_moves (moves_of_step hs) hrange hsep ha hother
    refine ⟨halike, ?_⟩
    rw [concerning_concat, hnothing, List.append_nil]
  · exact ⟨Alike.refl v run.2, rfl⟩

/-- One more action in both. -/
theorem Alike.replayOne (h : Alike v run₁.2 run₂.2)
    (heffects : concerning v run₁.1 = concerning v run₂.1)
    (h₁ : InRange run₁.2 ∧ Separate run₁.2) (h₂ : InRange run₂.2 ∧ Separate run₂.2) (a : Action) :
    Alike v (replayOne step run₁ a).2 (replayOne step run₂ a).2 ∧
      concerning v (replayOne step run₁ a).1 = concerning v (replayOne step run₂ a).1 := by
  cases ha : a.mover? with
  | none =>
    obtain ⟨next₁, effects₁, next₂, effects₂, hs₁, hs₂, halike, hsame⟩ := h.together h₁.1 h₂.1 ha
    rw [LineLint.replayOne, LineLint.replayOne, hs₁, hs₂]
    refine ⟨halike, ?_⟩
    rw [concerning_concat, concerning_concat, heffects, hsame]
  | some n =>
    by_cases hn : run₁.2.uris[n]? = some v
    · cases hs₁ : step run₁.2 a with
      | some result =>
        obtain ⟨next₁, effects⟩ := result
        obtain ⟨next₂, hs₂, halike⟩ := h.follow h₁.1 h₂.1 (moves_of_step hs₁) ha hn
        rw [LineLint.replayOne, LineLint.replayOne, hs₁, hs₂]
        refine ⟨halike, ?_⟩
        rw [concerning_concat, concerning_concat, heffects, h.concerns_eq]
      | none =>
        have hs₂ : step run₂.2 a = none := by
          -- the other state would take it as well
          by_contra hsome
          obtain ⟨⟨next₂, effects⟩, hs₂⟩ := Option.ne_none_iff_exists'.mp hsome
          obtain ⟨next₁, hs₁', -⟩ :=
            h.symm.follow h₂.1 h₁.1 (moves_of_step hs₂) ha (h.uris ▸ hn)
          rw [hs₁] at hs₁'
          cases hs₁'
        rw [LineLint.replayOne, LineLint.replayOne, hs₁, hs₂]
        exact ⟨h, heffects⟩
    · obtain ⟨halike₁, heffects₁⟩ := alike_replayOne h₁.1 h₁.2 ha hn
      obtain ⟨halike₂, heffects₂⟩ := alike_replayOne h₂.1 h₂.2 ha (h.uris ▸ hn)
      refine ⟨halike₁.symm.trans (h.trans halike₂), ?_⟩
      rw [heffects₁, heffects₂, heffects]

end

/-- States that look alike from a document go on looking alike, whatever is done, and the same
happens outside for the document. -/
theorem alike_replay (h₁ : Trace step initial past₁ r₁) (h₂ : Trace step initial past₂ r₂)
    (h : Alike v r₁ r₂) (actions : List Action) :
    Alike v (replay step r₁ actions).2 (replay step r₂ actions).2 ∧
      concerning v (replay step r₁ actions).1 = concerning v (replay step r₂ actions).1 := by
  have hsound : ∀ {past r}, Trace step initial past r → ∀ actions,
      InRange (replay step r actions).2 ∧ Separate (replay step r actions).2 := by
    intro past r hr actions
    have htrace := hr.append (replay_trace step r actions)
    exact ⟨inRange_of_trace htrace, separate_of_trace htrace⟩
  induction actions using List.reverseRecOn with
  | nil => exact ⟨h, rfl⟩
  | append_singleton actions a ih =>
    rw [replay_concat, replay_concat]
    exact ih.1.replayOne ih.2 (hsound h₁ actions) (hsound h₂ actions) a

end LineLint.Resolver
