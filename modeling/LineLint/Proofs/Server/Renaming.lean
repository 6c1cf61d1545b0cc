import LineLint.Proofs.Server.Entries
import Mathlib.Logic.Equiv.Basic

/-!
# The names of cells

Cells are named by their places, so that a name tells when a cell was made. Nothing else depends on
it: servers that differ only in the names of their cells, and in the order of their entries, take
the same steps with the same effects.

* `Phase.rename`, `Run.rename` — other names for the cells to which a run refers.
* `Cache.Renamed` — two caches that differ in the names of cells and the order of entries.
* `Renamed` — two servers that differ in this way.

Results:

* `Cache.Renamed.entry?`, `Cache.Renamed.lookup`, `Cache.Renamed.update`: what is done in both
  caches leaves them renamed.
* `Renamed.follow`: renamed servers take the same steps with the same effects.
-/

namespace LineLint

/-- The cell to which a run refers. -/
def Phase.cell? : Phase → Option ℕ
  | .claimed lookup => lookup.cell
  | .inLine c => some c
  | .fetching c => some c
  | _ => none

/-- Another name for the cell to which a run refers. -/
def Phase.rename (π : Equiv.Perm ℕ) : Phase → Phase
  | .claimed lookup => .claimed ⟨lookup.uri, lookup.cell.map π⟩
  | .inLine c => .inLine (π c)
  | .fetching c => .fetching (π c)
  | p => p

/-- Another name for the cell to which a run refers. -/
def Run.rename (π : Equiv.Perm ℕ) (run : Run) : Run := ⟨run.ticket, run.phase.rename π⟩

section

variable {π σ : Equiv.Perm ℕ}

/-- A run that refers to no cell with another name stays the same. -/
theorem Phase.rename_eq_self {p : Phase} (h : ∀ c, p.cell? = some c → π c = c) :
    p.rename π = p := by
  cases p with
  | claimed lookup =>
    obtain ⟨u, _ | c⟩ := lookup
    · rfl
    · simp [rename, h c rfl]
  | inLine c => simp [rename, h c rfl]
  | fetching c => simp [rename, h c rfl]
  | _ => rfl

theorem Phase.rename_trans (p : Phase) : (p.rename π).rename σ = p.rename (π.trans σ) := by
  cases p with
  | claimed lookup =>
    obtain ⟨u, _ | c⟩ := lookup
    · rfl
    · rfl
  | _ => rfl

end

namespace Cache

variable {π σ : Equiv.Perm ℕ} {c c' c'' : Cache} {u : Uri} {i : ℕ}

theorem entry?_eq_some_iff (hn : (c.entries.map Prod.fst).Nodup) :
    c.entry? u = some i ↔ (u, i) ∈ c.entries :=
  map_find?_eq_some_iff hn

/-- Two caches that differ only in the names of their cells, and in the order of their entries.
Names that are not in use yet are the same in both. -/
structure Renamed (π : Equiv.Perm ℕ) (c c' : Cache) : Prop where
  perResource : c'.perResource = c.perResource
  global : c'.global = c.global
  entries : c'.entries.Perm (c.entries.map fun entry => (entry.1, π entry.2))
  size : c'.cells.length = c.cells.length
  unused : ∀ i, c.cells.length ≤ i → π i = i
  cells : ∀ i, c'.cell (π i) = c.cell i

theorem Renamed.refl (c : Cache) : Renamed (Equiv.refl ℕ) c c where
  perResource := rfl
  global := rfl
  entries := by simp
  size := rfl
  unused := fun _ _ => rfl
  cells := fun _ => rfl

theorem Renamed.trans (h : Renamed π c c') (h' : Renamed σ c' c'') :
    Renamed (π.trans σ) c c'' where
  perResource := h'.perResource.trans h.perResource
  global := h'.global.trans h.global
  entries := by
    refine h'.entries.trans ((h.entries.map _).trans ?_)
    rw [List.map_map]
    exact List.Perm.refl _
  size := h'.size.trans h.size
  unused := by
    intro i hi
    rw [Equiv.trans_apply, h.unused i hi, h'.unused i (h.size ▸ hi)]
  cells := fun i => (h'.cells (π i)).trans (h.cells i)

/-- The same documents have entries. -/
theorem Renamed.entry? (h : Renamed π c c') (hn : (c.entries.map Prod.fst).Nodup) (u : Uri) :
    c'.entry? u = (c.entry? u).map π := by
  have hkeys : (c'.entries.map Prod.fst).Perm (c.entries.map Prod.fst) := by
    have := h.entries.map Prod.fst
    rwa [List.map_map] at this
  apply Option.ext
  intro i
  rw [entry?_eq_some_iff (hkeys.nodup_iff.mpr hn), h.entries.mem_iff, List.mem_map,
    Option.map_eq_some_iff]
  constructor
  · rintro ⟨⟨v, j⟩, hmem, heq⟩
    cases heq
    exact ⟨j, (entry?_eq_some_iff hn).mpr hmem, rfl⟩
  · rintro ⟨j, hj, rfl⟩
    exact ⟨(u, j), (entry?_eq_some_iff hn).mp hj, rfl⟩

/-- The same lookup in both: the new cell, if there is one, has the same name. -/
theorem Renamed.lookup (h : Renamed π c c') (hn : (c.entries.map Prod.fst).Nodup) (u : Uri) :
    Renamed π (c.lookup u).1 (c'.lookup u).1 ∧
      (c'.lookup u).2 = ⟨(c.lookup u).2.uri, (c.lookup u).2.cell.map π⟩ := by
  have hentry := h.entry? hn u
  cases hp : c.perResource with
  | false =>
    rw [lookup_global hp, lookup_global (h.perResource.trans hp)]
    exact ⟨h, rfl⟩
  | true =>
    have hp' := h.perResource.trans hp
    cases hu : c.entry? u with
    | some i =>
      rw [hu] at hentry
      rw [lookup_known hp hu, lookup_known hp' hentry]
      exact ⟨h, rfl⟩
    | none =>
      rw [hu] at hentry
      have hfresh : π c.cells.length = c'.cells.length :=
        (h.unused _ (Nat.le_refl _)).trans h.size.symm
      rw [lookup_new hp hu, lookup_new hp' hentry]
      refine ⟨⟨h.perResource, h.global, ?_, ?_, fun i hi => h.unused i ?_, fun i => ?_⟩, ?_⟩
      · rw [List.map_append, List.map_singleton, hfresh]
        exact h.entries.append_right _
      · simp [h.size]
      · simp only [List.length_append, List.length_singleton] at hi
        omega
      · have hcells := h.cells i
        rw [← cell_lookup c u, ← cell_lookup c' u, lookup_new hp hu,
          lookup_new hp' hentry] at hcells
        exact hcells
      · rw [Option.map_some, hfresh]

/-- The same change in both, of a cell and its counterpart. -/
theorem Renamed.update (h : Renamed π c c') (i : ℕ) (f : Cell → Cell) :
    Renamed π (c.update i f) (c'.update (π i) f) := by
  refine ⟨h.perResource, h.global, h.entries, ?_, ?_, fun j => ?_⟩
  · rw [cells_length_update, cells_length_update, h.size]
  · rw [cells_length_update]
    exact h.unused
  · by_cases hi : i < c.cells.length
    · have hi' : π i < c'.cells.length := by
        by_contra hge
        have hfix := h.unused (π i) (by rw [← h.size]; omega)
        rw [π.injective hfix, h.size] at hge
        exact hge hi
      rw [cell_update hi, cell_update hi', h.cells i, h.cells j]
      simp only [EmbeddingLike.apply_eq_iff_eq]
    · have hfix := h.unused i (by omega)
      have hnone : ∀ d : Cache, d.cells.length ≤ i → d.update i f = d := by
        intro d hd
        rw [Cache.update, List.modify_eq_self hd]
      rw [hfix, hnone c (by omega), hnone c' (by rw [h.size]; omega)]
      exact h.cells j

theorem Renamed.settle (h : Renamed π c c') (i : ℕ) (answer : Except SettingsError Settings) :
    Renamed π (c.settle i answer).1 (c'.settle (π i) answer).1 := by
  obtain ⟨f, hf⟩ := settle_eq_update answer
  rw [hf, hf]
  exact h.update i f

theorem Renamed.turn (h : Renamed π c c') (i who : ℕ) : c'.turn (π i) who = c.turn i who := by
  unfold Cache.turn
  rw [h.cells i]

theorem Renamed.invalidate (h : Renamed π c c') (hn : (c.entries.map Prod.fst).Nodup) (u : Uri) :
    Renamed π (c.invalidate u).1 (c'.invalidate u).1 ∧
      (c'.invalidate u).2 = (c.invalidate u).2 := by
  refine ⟨⟨h.perResource, h.global, ?_, h.size, h.unused, h.cells⟩, ?_⟩
  · refine (h.entries.filter _).trans ?_
    rw [List.filter_map]
    exact List.Perm.refl _
  · show (c'.entry? u).isSome = (c.entry? u).isSome
    rw [h.entry? hn, Option.isSome_map]

theorem Renamed.invalidateAll (h : Renamed π c c') :
    Renamed π c.invalidateAll.1 c'.invalidateAll.1 ∧ c'.invalidateAll.2 = c.invalidateAll.2 := by
  refine ⟨⟨h.perResource, h.global, List.Perm.nil, h.size, h.unused, h.cells⟩, ?_⟩
  have := h.entries.length_eq
  rwa [List.length_map] at this

end Cache

namespace Server

variable {π σ : Equiv.Perm ℕ} {s s' s'' next : Server} {a : Action} {effects : List Effect}
  {cache cache' : Cache} {documents : Documents} {r : ℕ} {t : Ticket} {p : Phase}

/-- Two servers that differ only in the names of their cells, and in the order of their entries. -/
structure Renamed (π : Equiv.Perm ℕ) (s s' : Server) : Prop where
  documents : s'.documents = s.documents
  cache : s.cache.Renamed π s'.cache
  runs : s'.runs = s.runs.map (Run.rename π)
  changes : s'.changes = s.changes
  registers : s'.registerConfiguration = s.registerConfiguration

theorem Renamed.refl (s : Server) : Renamed (Equiv.refl ℕ) s s where
  documents := rfl
  cache := Cache.Renamed.refl s.cache
  runs := by
    have hsame : Run.rename (Equiv.refl ℕ) = id :=
      funext fun run => congrArg (Run.mk run.ticket) (Phase.rename_eq_self fun _ _ => rfl)
    rw [hsame, List.map_id]
  changes := rfl
  registers := rfl

theorem Renamed.trans (h : Renamed π s s') (h' : Renamed σ s' s'') :
    Renamed (π.trans σ) s s'' where
  documents := h'.documents.trans h.documents
  cache := h.cache.trans h'.cache
  runs := by
    have hboth : Run.rename σ ∘ Run.rename π = Run.rename (π.trans σ) :=
      funext fun run => congrArg (Run.mk run.ticket) run.phase.rename_trans
    rw [h'.runs, h.runs, List.map_map, hboth]
  changes := h'.changes.trans h.changes
  registers := h'.registers.trans h.registers

theorem Renamed.run (h : Renamed π s s') (hr : s.runs[r]? = some ⟨t, p⟩) :
    s'.runs[r]? = some ⟨t, p.rename π⟩ := by
  rw [h.runs, List.getElem?_map, hr]
  rfl

theorem Renamed.setPhase (h : Renamed π s s') (r : ℕ) (p : Phase) :
    Renamed π (s.setPhase r p) (s'.setPhase r (p.rename π)) := by
  refine ⟨h.documents, h.cache, ?_, h.changes, h.registers⟩
  apply List.ext_getElem?
  intro i
  simp only [Server.setPhase, h.runs, List.getElem?_modify, List.getElem?_map, Option.map_eq_map,
    Option.map_map]
  congr 1
  funext run
  by_cases hri : r = i
  · simp [hri, Run.rename]
  · simp [hri]

theorem Renamed.issued (h : Renamed π s s') (documents : Documents) (ts : List Ticket) :
    Renamed π (s.issued documents ts) (s'.issued documents ts) := by
  refine ⟨rfl, h.cache, ?_, h.changes, h.registers⟩
  simp only [Server.issued, h.runs, List.map_append, List.map_map]
  rfl

theorem Renamed.setChange (h : Renamed π s s') (k : ℕ) (p : ChangePhase) :
    Renamed π (s.setChange k p) (s'.setChange k p) := by
  refine ⟨h.documents, h.cache, h.runs, ?_, h.registers⟩
  rw [Server.setChange, Server.setChange, h.changes]

theorem Renamed.recache (h : Renamed π s s') (hc : cache.Renamed π cache') :
    Renamed π { s with cache } { s' with cache := cache' } :=
  ⟨h.documents, hc, h.runs, h.changes, h.registers⟩

theorem Renamed.withDocuments (h : Renamed π s s') (documents : Documents) :
    Renamed π { s with documents } { s' with documents } :=
  ⟨rfl, h.cache, h.runs, h.changes, h.registers⟩

/-- Renamed servers take the same steps, with the same effects. -/
theorem Renamed.follow (h : Renamed π s s') (hn : (s.cache.entries.map Prod.fst).Nodup)
    (hm : Moves s a next effects) : ∃ next', Moves s' a next' effects ∧ Renamed π next next' := by
  have hd := h.documents
  cases hm with
  | didOpen u =>
    have hnext := h.issued (s.documents.openDocument u).1 (s.documents.openDocument u).2.toList
    rw [← hd] at hnext ⊢
    exact ⟨_, .didOpen u, hnext⟩
  | didSave u =>
    have hnext := h.issued (s.documents.request u).1 (s.documents.request u).2.toList
    rw [← hd] at hnext ⊢
    exact ⟨_, .didSave u, hnext⟩
  | didClose u =>
    obtain ⟨hcache, hremoved⟩ := h.cache.invalidate hn u
    rw [← hremoved, ← hd]
    exact ⟨_, .didClose u, (h.withDocuments _).recache hcache⟩
  | changeBegins configuration =>
    obtain ⟨hcache, hcount⟩ := h.cache.invalidateAll
    rw [← hcount]
    refine ⟨_, .changeBegins configuration, h.documents, hcache, h.runs, ?_, h.registers⟩
    exact congrArg (· ++ [_]) h.changes
  | changePasses k configuration hk hp =>
    exact ⟨_, .changePasses k configuration (h.changes ▸ hk) (h.cache.perResource.trans hp),
      h.setChange k .applied⟩
  | changeSets k configuration hk hp =>
    refine ⟨_, .changeSets k configuration (h.changes ▸ hk) (h.cache.perResource.trans hp), ?_⟩
    exact (h.setChange k .applied).recache
      ⟨h.cache.perResource, rfl, h.cache.entries, h.cache.size, h.cache.unused, h.cache.cells⟩
  | changeRevalidates k configuration hk =>
    have hnext := (h.setChange k .done).issued s.documents.requestAll.1 s.documents.requestAll.2
    rw [← hd] at hnext ⊢
    exact ⟨_, .changeRevalidates k configuration (h.changes ▸ hk), hnext⟩
  | startClosed r t hr ho =>
    exact ⟨_, .startClosed r t (h.run hr) (hd ▸ ho), h.setPhase r .finished⟩
  | startOpen r t hr ho =>
    obtain ⟨hcache, hlookup⟩ := h.cache.lookup hn t.uri
    have hnext := (h.recache hcache).setPhase r (.claimed (s.cache.lookup t.uri).2)
    rw [Phase.rename, ← hlookup] at hnext
    exact ⟨_, .startOpen r t (h.run hr) (hd ▸ ho), hnext⟩
  | askGlobal r t u hr =>
    rw [← h.cache.global]
    exact ⟨_, .askGlobal r t u (h.run hr), h.setPhase r (.settled s'.cache.global)⟩
  | askCell r t u c hr =>
    exact ⟨_, .askCell r t u (π c) (h.run hr),
      (h.recache (h.cache.update c _)).setPhase r (.inLine c)⟩
  | proceedReady r t c settings hr ht =>
    exact ⟨_, .proceedReady r t (π c) settings (h.run hr) ((h.cache.turn c r).trans ht),
      h.setPhase r (.settled settings)⟩
  | proceedAsk r t c hr ht =>
    exact ⟨_, .proceedAsk r t (π c) (h.run hr) ((h.cache.turn c r).trans ht),
      h.setPhase r (.fetching c)⟩
  | answered r t c answer hr =>
    exact ⟨_, .answered r t (π c) answer (h.run hr),
      (h.recache (h.cache.settle c answer)).setPhase r (.settled (Settings.resolved answer))⟩
  | check r t settings hr =>
    exact ⟨_, .check r t settings (h.run hr), h.setPhase r (.checking settings)⟩
  | returned r t settings result hr =>
    exact ⟨_, .returned r t settings result (h.run hr), h.setPhase r (.checked settings result)⟩
  | finishPublishes r t settings report hr ha =>
    rw [← hd] at ha ⊢
    exact ⟨_, .finishPublishes r t settings report (h.run hr) ha,
      (h.withDocuments _).setPhase r .finished⟩
  | finishReports r t settings e hr ha =>
    rw [← hd] at ha ⊢
    exact ⟨_, .finishReports r t settings e (h.run hr) ha,
      (h.withDocuments _).setPhase r .finished⟩
  | finishDiscards r t settings result hr ha =>
    rw [← hd] at ha ⊢
    exact ⟨_, .finishDiscards r t settings result (h.run hr) ha, h.setPhase r .finished⟩

end Server

end LineLint
