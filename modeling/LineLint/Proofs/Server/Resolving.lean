import LineLint.Proofs.Server.Limits
import LineLint.Proofs.Settings.SingleFlight

/-!
# The lookups behind the runs

The settings of documents are resolved by the runs of a server, and by the lookups of a resolver
that knows nothing of documents, changes and checkers. Both are the same: what a session does with
its cache is a trace of lookups, one for each run that has claimed the source of its settings. So
what holds of lookups holds of runs.

Lookups are numbered in the order in which they are made, and runs in the order in which they are
spawned. A run stands in line at a cell under its own number, its lookup under the other one.

* `Cache.relined` — a cache in whose lines everyone has another number.
* `Phase.lookup?` — the lookup of a run that does not have its settings yet.
* `claimants` — the runs that have made lookups, in order.
* `echo` — the step of the resolver that a step of the server amounts to.
* `Mirrors` — a run and its lookup have come equally far, and have the same settings.
* `Mirrored` — a server and a resolver agree.
* `Resolved` — what a session has done is what a resolver has done.

Results:

* `Cache.lookup_relined`, `Cache.join_relined`, `Cache.settle_relined`: the numbers in line do not
  matter.
* `Mirrored.step`: a step of the server is a step of the resolver, or none.
* `resolved_of_session`: every session is a trace of lookups, with the same requests.
* `fetching_unique`: at most one run has asked for a cell.
-/

namespace LineLint

/-! ## Other numbers in line -/

/-- A cell in whose line everyone has another number. -/
def Cell.relined (f : ℕ → ℕ) (cell : Cell) : Cell := { cell with line := cell.line.map f }

/-- A cache in whose lines everyone has another number. -/
def Cache.relined (f : ℕ → ℕ) (c : Cache) : Cache :=
  { c with cells := c.cells.map (Cell.relined f) }

@[simp]
theorem Cell.value_relined (f : ℕ → ℕ) (cell : Cell) : (cell.relined f).value = cell.value := rfl

@[simp]
theorem Cell.line_relined (f : ℕ → ℕ) (cell : Cell) :
    (cell.relined f).line = cell.line.map f := rfl

namespace Cache

variable {f g : ℕ → ℕ} {c : Cache} {i who : ℕ} {u : Uri}

@[simp]
theorem entry?_relined (f : ℕ → ℕ) (c : Cache) (u : Uri) :
    Cache.entry? (c.relined f) u = c.entry? u := rfl

@[simp]
theorem cell_relined (f : ℕ → ℕ) (c : Cache) (i : ℕ) :
    (c.relined f).cell i = (c.cell i).relined f := by
  show (c.cells.map _)[i]?.getD _ = _
  rw [List.getElem?_map, cell]
  cases c.cells[i]? <;> rfl

theorem lookup_relined (f : ℕ → ℕ) (c : Cache) (u : Uri) :
    (c.relined f).lookup u = ((c.lookup u).1.relined f, (c.lookup u).2) := by
  cases hp : c.perResource with
  | false => rw [lookup_global hp, lookup_global (c := c.relined f) hp]
  | true =>
    cases hu : c.entry? u with
    | some i => rw [lookup_known hp hu, lookup_known (c := c.relined f) hp hu]
    | none =>
      rw [lookup_new hp hu, lookup_new (c := c.relined f) hp hu]
      simp [relined, Cell.relined, Cell.empty]

/-- A change of a cell for which the numbers in line do not matter. -/
theorem update_relined {h k : Cell → Cell} (hk : ∀ cell, (h cell).relined f = k (cell.relined f))
    (c : Cache) (i : ℕ) : (c.relined f).update i k = (c.update i h).relined f := by
  unfold update relined
  rw [map_modify hk]

theorem join_relined (f : ℕ → ℕ) (c : Cache) (i who : ℕ) :
    (c.relined f).join i (f who) = (c.join i who).relined f := by
  refine update_relined (fun cell => ?_) c i
  unfold Cell.relined
  dsimp only
  split_ifs
  · rfl
  · simp

theorem settle_relined (f : ℕ → ℕ) (c : Cache) (i : ℕ) (answer : Except SettingsError Settings) :
    ((c.relined f).settle i answer).1 = (c.settle i answer).1.relined f := by
  unfold settle
  cases answer.bind Settings.validated with
  | ok settings => exact update_relined (h := fun _ => ⟨some settings, []⟩) (fun _ => rfl) c i
  | error e =>
    refine update_relined (fun cell => ?_) c i
    simp [Cell.relined, List.map_tail]

theorem relined_congr (h : ∀ i, ∀ k ∈ (c.cell i).line, f k = g k) : c.relined f = c.relined g := by
  unfold relined
  congr 1
  apply List.map_congr_left
  intro cell hcell
  obtain ⟨i, hi⟩ := List.mem_iff_getElem?.mp hcell
  have hline : (c.cell i).line = cell.line := by rw [Cache.cell, hi]; rfl
  unfold Cell.relined
  congr 1
  exact List.map_congr_left fun k hk => h i k (hline ▸ hk)

/-- Who stands in line after someone has joined it. -/
theorem mem_line_join {j k : ℕ} (h : k ∈ ((c.join i who).cell j).line) :
    k ∈ (c.cell j).line ∨ k = who := by
  by_cases hi : i < c.cells.length
  · rw [cell_join hi] at h
    split_ifs at h with hj
    · simpa [hj.1] using h
    · exact Or.inl h
  · rw [join, update, List.modify_eq_self (Nat.le_of_not_lt hi)] at h
    exact Or.inl h

/-- Nobody joins a line by getting an answer. -/
theorem mem_line_settle {answer : Except SettingsError Settings} {j k : ℕ}
    (h : k ∈ ((c.settle i answer).1.cell j).line) : k ∈ (c.cell j).line := by
  by_cases hi : i < c.cells.length
  · rw [cell_settle hi] at h
    split_ifs at h with hj
    · subst hj
      cases hv : answer.bind Settings.validated with
      | ok settings => simp [hv] at h
      | error e =>
        rw [hv] at h
        exact List.mem_of_mem_tail h
    · exact h
  · obtain ⟨f, hf⟩ := settle_eq_update answer
    rwa [hf, update, List.modify_eq_self (Nat.le_of_not_lt hi)] at h

end Cache

/-! ## Runs and their lookups -/

/-- The lookup of a run that does not have its settings yet, and how far it has come. -/
def Phase.lookup? (u : Uri) : Phase → Option (Lookup × LookupStatus)
  | .claimed lookup => some (⟨u, lookup.cell⟩, .claimed)
  | .inLine c => some (⟨u, some c⟩, .inLine)
  | .fetching c => some (⟨u, some c⟩, .fetching)
  | _ => none

theorem Phase.lookup?_claimed {u : Uri} {lookup : Lookup} (h : lookup.uri = u) :
    (Phase.claimed lookup).lookup? u = some (lookup, .claimed) := by
  subst h
  rfl

namespace Server

/-- The run that makes a lookup by a step. -/
def claimedBy (m : Moment Server Action Effect) : Option ℕ :=
  match m.action with
  | .start r => (m.before.runs[r]?).bind fun run =>
      if m.before.documents.isOpen run.ticket.uri then some r else none
  | _ => none

/-- The runs that have made lookups, in order. -/
def claimants (past : List (Moment Server Action Effect)) : List ℕ := past.filterMap claimedBy

@[simp]
theorem claimants_concat (past : List (Moment Server Action Effect))
    (m : Moment Server Action Effect) :
    claimants (past ++ [m]) = claimants past ++ (claimedBy m).toList :=
  filterMap_concat claimedBy past m

/-- What a step amounts to for lookups, if anything. The lookup of a run has the place of the run
among those that make lookups. -/
def echo (made : List ℕ) (m : Moment Server Action Effect) : Option Resolver.Action :=
  match m.action with
  | .didClose u => some (.invalidate u)
  | .changeBegins _ => some .invalidateAll
  | .changeApplies change =>
    if m.before.cache.perResource then none
    else (m.before.changes[change]?).map fun c => .setGlobal (Settings.pushed c.configuration).1
  | .start r => (m.before.runs[r]?).bind fun run =>
      if m.before.documents.isOpen run.ticket.uri then some (.lookup run.ticket.uri) else none
  | .ask r => some (.resolve (made.idxOf r))
  | .proceed r => some (.advance (made.idxOf r))
  | .answered r answer => some (.answer (made.idxOf r) answer)
  | _ => none

/-- The document for which a run asks by an effect. -/
def requestBy : Effect → Option Uri
  | .fetch _ u => some u
  | _ => none

/-- The documents for whose settings the editor was asked, in order. -/
def requests (past : List (Moment Server Action Effect)) : List Uri :=
  past.flatMap fun m => m.effects.filterMap requestBy

end Server

namespace Resolver

/-- The document for which a lookup asks by an effect. -/
def requestBy : Effect → Option Uri
  | .fetch _ u => some u
  | _ => none

/-- The documents for whose settings the editor was asked, in order. -/
def requests (past : List (Moment Resolver Action Effect)) : List Uri :=
  past.flatMap fun m => m.effects.filterMap requestBy

end Resolver

namespace Server

/-- A run and its lookup have come equally far, and the run has the settings that the lookup has
got. A run has no lookup before it starts, and never if its document is closed by then. -/
inductive Mirrors (t : Ticket) (p : Phase) : Option (Lookup × LookupStatus) → List Settings → Prop
  | absent (idle : p = .spawned ∨ p = .finished) : Mirrors t p none []
  | waiting (entry : Lookup × LookupStatus) (waits : p.lookup? t.uri = some entry) :
      Mirrors t p (some entry) []
  | resolved (lookup : Lookup) (settings : Settings)
      (has : p = .finished ∨ p.settings? = some settings) :
      Mirrors t p (some (lookup, .resolved)) [settings]

/-- A server and a resolver agree: their caches are the same but for the numbers of those in line,
and every run is as far as its lookup. `made` are the runs that have made lookups, and `past` is
what the resolver has done. -/
structure Mirrored (made : List ℕ) (past : List (Moment Resolver Resolver.Action Resolver.Effect))
    (s : Server) (r : Resolver) : Prop where
  cache : r.cache = s.cache.relined made.idxOf
  lined : ∀ c, ∀ i ∈ (s.cache.cell c).line, i ∈ made
  distinct : made.Nodup
  known : ∀ i ∈ made, i < s.runs.length
  size : r.lookups.length = made.length
  runs : ∀ i t p, s.runs[i]? = some ⟨t, p⟩ →
    Mirrors t p r.lookups[made.idxOf i]? (Resolver.returned (made.idxOf i) past)

section

variable {s s' : Server} {a : Action} {effects : List Effect} {made : List ℕ} {r r' : Resolver}
  {past : List (Moment Resolver Resolver.Action Resolver.Effect)}
  {m : Moment Resolver Resolver.Action Resolver.Effect} {i : ℕ} {t : Ticket} {p q : Phase}
  {lookup : Lookup} {before after : LookupStatus} {c : ℕ} {o : Option (Lookup × LookupStatus)}
  {got : List Settings} {settings : Settings}

/-- A run with a lookup is among those that have made one. -/
theorem Mirrored.mem_made (h : Mirrored made past s r) {entry : Lookup × LookupStatus}
    (hl : r.lookups[made.idxOf i]? = some entry) : i ∈ made := by
  rw [← List.idxOf_lt_length_iff, ← h.size]
  exact (List.getElem?_eq_some_iff.mp hl).1

theorem idxOf_ne (hi : i ∈ made) {j : ℕ} (hj : j ≠ i) : made.idxOf j ≠ made.idxOf i :=
  fun h => hj ((List.idxOf_inj hi).mp h.symm).symm

/-- The lookup of a run that does not have its settings yet. -/
theorem Mirrored.waiting (h : Mirrored made past s r) (hr : s.runs[i]? = some ⟨t, p⟩)
    {entry : Lookup × LookupStatus} (hp : p.lookup? t.uri = some entry) :
    r.lookups[made.idxOf i]? = some entry ∧ Resolver.returned (made.idxOf i) past = [] := by
  have hmirrors := h.runs i t p hr
  generalize r.lookups[made.idxOf i]? = o, Resolver.returned (made.idxOf i) past = got at hmirrors
  cases hmirrors with
  | absent idle => rcases idle with rfl | rfl <;> cases hp
  | waiting _ waits => exact ⟨waits.symm.trans hp, rfl⟩
  | resolved _ _ has =>
    rcases has with rfl | has
    · cases hp
    · cases p <;> cases hp <;> cases has

/-- A run that has not begun has made no lookup. -/
theorem Mirrored.notMem_made (h : Mirrored made past s r) (hr : s.runs[i]? = some ⟨t, .spawned⟩) :
    i ∉ made := by
  intro hi
  have hlt : made.idxOf i < r.lookups.length := by
    rw [h.size]
    exact List.idxOf_lt_length_iff.mpr hi
  have hmirrors := h.runs i t _ hr
  rw [List.getElem?_eq_getElem hlt] at hmirrors
  generalize r.lookups[made.idxOf i] = entry, Resolver.returned (made.idxOf i) past = got
    at hmirrors
  cases hmirrors with
  | waiting _ waits => cases waits
  | resolved _ _ has => rcases has with has | has <;> cases has

theorem Mirrored.length_le_idxOf (h : Mirrored made past s r) (hi : i ∉ made) :
    r.lookups.length ≤ made.idxOf i :=
  Nat.le_of_eq (h.size.trans (List.idxOf_eq_length_iff.mpr hi).symm)

/-- A run that makes a lookup gets the next place. -/
theorem Mirrored.idxOf_concat_self (h : Mirrored made past s r) (hi : i ∉ made) :
    (made ++ [i]).idxOf i = r.lookups.length := by
  rw [List.idxOf_append_of_notMem hi, List.idxOf_cons_self, h.size, Nat.add_zero]

/-- The others without a lookup have no place then either. -/
theorem Mirrored.length_lt_idxOf_concat (h : Mirrored made past s r) {j : ℕ} (hj : j ∉ made)
    (hji : j ≠ i) : r.lookups.length < (made ++ [i]).idxOf j := by
  rw [List.idxOf_append_of_notMem hj, List.idxOf_cons_ne _ hji.symm, h.size]
  omega

/-- A run that has made no lookup. -/
theorem Mirrored.runs_of_notMem (h : Mirrored made past s r) (hi : i ∉ made)
    (hr : s.runs[i]? = some ⟨t, p⟩) : p = .spawned ∨ p = .finished := by
  have hmirrors := h.runs i t p hr
  rw [List.getElem?_eq_none (h.length_le_idxOf hi)] at hmirrors
  generalize Resolver.returned (made.idxOf i) past = got at hmirrors
  cases hmirrors with
  | absent idle => exact idle

/-! ## Steps -/

/-- A run and its lookup take a step together. -/
theorem Mirrored.moved (h : Mirrored made past s r) (hr : s.runs[i]? = some ⟨t, p⟩)
    (hl : r.lookups[made.idxOf i]? = some (lookup, before))
    (hgot : Resolver.returned (made.idxOf i) past = []) {cache : Cache}
    (hlined : ∀ c, ∀ k ∈ (cache.cell c).line, k ∈ made)
    (hother : ∀ n, n ≠ made.idxOf i → m.effects.filterMap (Resolver.returnedBy n) = [])
    (hmirrors : Mirrors t q (some (lookup, after))
      (m.effects.filterMap (Resolver.returnedBy (made.idxOf i)))) :
    Mirrored made (past ++ [m]) ({ s with cache }.setPhase i q)
      ({ r with cache := cache.relined made.idxOf }.setStatus (made.idxOf i) after) := by
  have hi := h.mem_made hl
  refine ⟨rfl, hlined, h.distinct, ?_, ?_, ?_⟩
  · simpa using h.known
  · exact (List.length_modify ..).trans h.size
  · intro j t' p' hj
    rw [runs_setPhase (s := { s with cache }) hr] at hj
    rw [Resolver.lookups_setStatus (r := { r with cache := cache.relined made.idxOf }) hl,
      Resolver.returned_concat]
    by_cases hji : j = i
    · subst hji
      rw [if_pos rfl] at hj
      cases hj
      rw [if_pos rfl, hgot]
      exact hmirrors
    · rw [if_neg hji] at hj
      have hne := idxOf_ne hi hji
      rw [if_neg hne, hother _ hne, List.append_nil]
      exact h.runs j t' p' hj

/-- A run gets the settings that its lookup gets. -/
theorem Mirrored.served (h : Mirrored made past s r) (hr : s.runs[i]? = some ⟨t, p⟩)
    (hl : r.lookups[made.idxOf i]? = some (lookup, before))
    (hgot : Resolver.returned (made.idxOf i) past = []) {cache : Cache}
    (hlined : ∀ c, ∀ k ∈ (cache.cell c).line, k ∈ made)
    (hreturns : ∀ n, m.effects.filterMap (Resolver.returnedBy n) =
      if made.idxOf i = n then [settings] else []) :
    Mirrored made (past ++ [m]) ({ s with cache }.setPhase i (.settled settings))
      ({ r with cache := cache.relined made.idxOf }.setStatus (made.idxOf i) .resolved) := by
  refine h.moved hr hl hgot hlined (fun n hn => ?_) ?_
  · rw [hreturns, if_neg hn.symm]
  · rw [hreturns, if_pos rfl]
    exact .resolved lookup settings (Or.inr rfl)

/-- What happens to the entries and to the global value concerns neither runs nor lookups. -/
theorem Mirrored.elsewhere (h : Mirrored made past s r) (hruns : s'.runs = s.runs)
    (hcells : s'.cache.cells = s.cache.cells) (hcache : r'.cache = s'.cache.relined made.idxOf)
    (hlookups : r'.lookups = r.lookups)
    (hnothing : ∀ n, m.effects.filterMap (Resolver.returnedBy n) = []) :
    Mirrored made (past ++ [m]) s' r' := by
  refine ⟨hcache, ?_, h.distinct, hruns ▸ h.known, hlookups ▸ h.size, ?_⟩
  · intro c k hk
    rw [Cache.cell, hcells] at hk
    exact h.lined c k hk
  · intro j t p hj
    rw [hruns] at hj
    rw [hlookups, Resolver.returned_concat, hnothing, List.append_nil]
    exact h.runs j t p hj

/-- A step that is none for lookups leaves the cache alone. -/
theorem Moves.cache_of_echo (h : Moves s a s' effects)
    (hecho : echo made ⟨s, a, effects, s'⟩ = none) : s'.cache = s.cache := by
  cases h with
  | didClose => cases hecho
  | changeBegins => cases hecho
  | changeSets k configuration hk hmode => simp [echo, hmode, hk] at hecho
  | startOpen r t hr ho => simp [echo, hr, ho] at hecho
  | askCell => cases hecho
  | answered => cases hecho
  | _ => rfl

/-- A run that has its settings goes on with them, and its lookup is over. -/
theorem Mirrors.settled (h : Mirrors t p o got) (hp : p.settings? = some settings)
    (hq : q = .finished ∨ q.settings? = some settings) : Mirrors t q o got := by
  cases h with
  | absent idle => rcases idle with rfl | rfl <;> cases hp
  | waiting _ waits => cases p <;> cases hp <;> cases waits
  | resolved lookup _ has =>
    rcases has with rfl | has
    · cases hp
    · rw [hp] at has
      cases has
      exact .resolved lookup settings hq

/-- A step of a run that is none for its lookup. -/
theorem Advance.mirrors (h : Advance s s' i t a p q effects) (hr : s.runs[i]? = some ⟨t, p⟩)
    (hecho : echo made ⟨s, a, effects, s'⟩ = none) (hmirrors : Mirrors t p o got) :
    Mirrors t q o got := by
  cases h with
  | startClosed =>
    cases hmirrors with
    | absent => exact .absent (Or.inr rfl)
    | waiting _ waits => cases waits
    | resolved _ _ has => rcases has with has | has <;> cases has
  | startOpen ho => simp [echo, hr, ho] at hecho
  | check => exact hmirrors.settled rfl (Or.inr rfl)
  | returned => exact hmirrors.settled rfl (Or.inr rfl)
  | finishPublishes => exact hmirrors.settled rfl (Or.inl rfl)
  | finishReports => exact hmirrors.settled rfl (Or.inl rfl)
  | finishDiscards => exact hmirrors.settled rfl (Or.inl rfl)
  | _ => cases hecho

/-- A lookup that has not been made has got nothing. -/
theorem returned_of_le (htrace : Trace Resolver.step Resolver.initial past r) {n : ℕ}
    (hn : r.lookups.length ≤ n) : Resolver.returned n past = [] := by
  apply Resolver.returned_eq_nil htrace
  simp [Resolver.statusOf, List.getElem?_eq_none hn]

/-- A step that is none for lookups. -/
theorem Mirrored.still (h : Mirrored made past s r)
    (htrace : Trace Resolver.step Resolver.initial past r) (hm : Moves s a s' effects)
    (hecho : echo made ⟨s, a, effects, s'⟩ = none) : Mirrored made past s' r := by
  have hcache := hm.cache_of_echo hecho
  refine ⟨hcache ▸ h.cache, hcache ▸ h.lined, h.distinct, ?_, h.size, ?_⟩
  · intro j hj
    obtain ⟨q, hq⟩ := hm.reshapes.run_kept (List.getElem?_eq_getElem (h.known j hj))
    exact (List.getElem?_eq_some_iff.mp hq).1
  · intro j t p hj
    rcases hm.run_after hj with ⟨q, hq, hstep⟩ | ⟨-, hsame | ⟨hnew, rfl⟩⟩
    · exact hstep.mirrors hq hecho (h.runs j t q hq)
    · exact h.runs j t p hsame
    · have hlen := h.length_le_idxOf fun hmem =>
        Nat.not_le.mpr (h.known j hmem) (List.getElem?_eq_none_iff.mp hnew)
      rw [List.getElem?_eq_none hlen, returned_of_le htrace hlen]
      exact .absent (Or.inl rfl)

/-- A run and its lookup begin together. -/
theorem Mirrored.begun (h : Mirrored made past s r)
    (htrace : Trace Resolver.step Resolver.initial past r) (hr : s.runs[i]? = some ⟨t, .spawned⟩)
    (hnothing : ∀ n, m.effects.filterMap (Resolver.returnedBy n) = []) :
    Mirrored (made ++ [i]) (past ++ [m])
      ({ s with cache := (s.cache.lookup t.uri).1 }.setPhase i
        (.claimed (s.cache.lookup t.uri).2)) (r.lookup t.uri).1 := by
  have hi := h.notMem_made hr
  have hstay : ∀ j ∈ made, (made ++ [i]).idxOf j = made.idxOf j :=
    fun j hj => List.idxOf_append_of_mem hj
  have hline : ∀ c, ∀ k ∈ ((s.cache.lookup t.uri).1.cell c).line, k ∈ made := by
    intro c k hk
    rw [Cache.cell_lookup] at hk
    exact h.lined c k hk
  have hlookup := Cache.lookup_relined made.idxOf s.cache t.uri
  rw [← h.cache] at hlookup
  have hlookups : (r.lookup t.uri).1.lookups =
      r.lookups ++ [((s.cache.lookup t.uri).2, LookupStatus.claimed)] := by
    show r.lookups ++ [((r.cache.lookup t.uri).2, LookupStatus.claimed)] = _
    rw [hlookup]
  refine ⟨?_, ?_, ?_, ?_, ?_, ?_⟩
  · show (r.cache.lookup t.uri).1 = _
    rw [hlookup]
    exact Cache.relined_congr fun c k hk => (hstay k (hline c k hk)).symm
  · exact fun c k hk => List.mem_append_left _ (hline c k hk)
  · rw [← List.concat_eq_append]
    exact h.distinct.concat hi
  · intro j hj
    rw [length_runs_setPhase]
    rcases List.mem_append.mp hj with hj | hj
    · exact h.known j hj
    · rw [List.mem_singleton.mp hj]
      exact (List.getElem?_eq_some_iff.mp hr).1
  · rw [hlookups, List.length_append, List.length_append, h.size]
    rfl
  · intro j t' p hj
    rw [runs_setPhase (s := { s with cache := (s.cache.lookup t.uri).1 }) hr] at hj
    rw [hlookups, getElem?_concat, Resolver.returned_concat, hnothing, List.append_nil]
    split_ifs at hj with hji
    · subst hji
      cases hj
      rw [h.idxOf_concat_self hi, if_pos rfl, returned_of_le htrace (Nat.le_refl _)]
      exact .waiting _ (Phase.lookup?_claimed (Cache.lookup_uri s.cache t.uri))
    · by_cases hmem : j ∈ made
      · have hlt := List.idxOf_lt_length_iff.mpr hmem
        rw [hstay j hmem, if_neg (by rw [h.size]; omega)]
        exact h.runs j t' p hj
      · have hlater := h.length_lt_idxOf_concat hmem hji
        rw [if_neg (by omega), List.getElem?_eq_none (by omega),
          returned_of_le htrace (by omega)]
        exact .absent (h.runs_of_notMem hmem hj)

/-- A step of the server amounts for lookups to a step of the resolver, or to none: the editor gets
the same requests, and both agree again. -/
def Echoed (made : List ℕ) (past : List (Moment Resolver Resolver.Action Resolver.Effect))
    (r : Resolver) (m : Moment Server Action Effect) : Prop :=
  ∃ more r', Trace Resolver.step r more r' ∧ more.map Moment.action = (echo made m).toList ∧
    Resolver.requests more = m.effects.filterMap requestBy ∧
    Mirrored (made ++ (claimedBy m).toList) (past ++ more) m.after r'

section

variable {x : Moment Server Action Effect}

theorem claimedBy_of_echo (h : echo made x = none) : claimedBy x = none := by
  obtain ⟨s, a, effects, s'⟩ := x
  cases a with
  | start i =>
    cases hr : s.runs[i]? with
    | none => simp [claimedBy, hr]
    | some run =>
      cases ho : s.documents.isOpen run.ticket.uri with
      | false => simp [claimedBy, hr, ho]
      | true => simp [echo, hr, ho] at h
  | _ => rfl

/-- A step that is none for lookups makes no request. -/
theorem Moves.requestBy_of_echo (h : Moves s a s' effects)
    (hecho : echo made ⟨s, a, effects, s'⟩ = none) : effects.filterMap requestBy = [] := by
  rw [List.filterMap_eq_nil_iff]
  intro e he
  cases e with
  | fetch i u =>
    obtain ⟨rfl, -⟩ := h.fetch_cases he
    cases hecho
  | _ => rfl

theorem Mirrored.unheard (h : Mirrored made past s r)
    (htrace : Trace Resolver.step Resolver.initial past r) (hm : Moves s a s' effects)
    (hecho : echo made ⟨s, a, effects, s'⟩ = none) :
    Echoed made past r ⟨s, a, effects, s'⟩ := by
  refine ⟨[], r, .nil, by rw [hecho]; rfl, (hm.requestBy_of_echo hecho).symm, ?_⟩
  rw [claimedBy_of_echo hecho, Option.toList_none, List.append_nil, List.append_nil]
  exact h.still htrace hm hecho

theorem echoed_some {out : List Resolver.Effect} {more : List ℕ} (act : Resolver.Action)
    (hs : r.step act = some (r', out)) (hecho : echo made x = some act)
    (hmore : made ++ (claimedBy x).toList = more)
    (hsame : out.filterMap Resolver.requestBy = x.effects.filterMap requestBy)
    (h : Mirrored more (past ++ [⟨r, act, out, r'⟩]) x.after r') : Echoed made past r x := by
  refine ⟨[⟨r, act, out, r'⟩], r', Trace.snoc .nil hs, by rw [hecho]; rfl, ?_, hmore ▸ h⟩
  rw [← hsame]
  exact List.append_nil _

end

/-- The step of a resolver that begins a lookup for a run. -/
theorem Mirrored.start (h : Mirrored made past s r)
    (htrace : Trace Resolver.step Resolver.initial past r) (hm : Moves s (.start i) s' effects) :
    Echoed made past r ⟨s, .start i, effects, s'⟩ := by
  have hquiet := h.unheard htrace hm
  cases hm with
  | startClosed i t hr ho => exact hquiet (by simp [echo, hr, ho])
  | startOpen i t hr ho =>
    refine echoed_some (.lookup t.uri) rfl ?_ ?_ rfl (h.begun htrace hr fun _ => rfl)
    · simp [echo, hr, ho]
    · simp [claimedBy, hr, ho]

/-- A run takes the global value, or stands in line, as its lookup does. -/
theorem Mirrored.ask (h : Mirrored made past s r) (hm : Moves s (.ask i) s' effects) :
    Echoed made past r ⟨s, .ask i, effects, s'⟩ := by
  obtain ⟨cache, lookups⟩ := r
  obtain rfl : cache = s.cache.relined made.idxOf := h.cache
  cases hm with
  | askGlobal _ t u hr =>
    obtain ⟨hl, hgot⟩ := h.waiting hr rfl
    refine echoed_some (.resolve (made.idxOf i)) (Resolver.step_global hl) rfl
      (List.append_nil made) rfl ?_
    exact h.served hr hl hgot h.lined fun n => Resolver.filterMap_returnedBy_resolved ..
  | askCell _ t u c hr =>
    obtain ⟨hl, hgot⟩ := h.waiting hr rfl
    refine echoed_some (.resolve (made.idxOf i)) (Resolver.step_join hl) rfl
      (List.append_nil made) rfl ?_
    dsimp only
    rw [Cache.join_relined made.idxOf s.cache c i]
    refine h.moved hr hl hgot (fun j k hk => ?_) (fun _ _ => rfl) (.waiting _ rfl)
    rcases Cache.mem_line_join hk with hk | rfl
    · exact h.lined j k hk
    · exact h.mem_made hl

/-- A run takes the value of its cell, or asks the editor, as its lookup does. -/
theorem Mirrored.proceed (h : Mirrored made past s r) (hm : Moves s (.proceed i) s' effects) :
    Echoed made past r ⟨s, .proceed i, effects, s'⟩ := by
  obtain ⟨cache, lookups⟩ := r
  obtain rfl : cache = s.cache.relined made.idxOf := h.cache
  cases hm with
  | proceedReady _ t c settings hr hturn =>
    obtain ⟨hl, hgot⟩ := h.waiting hr rfl
    have hv : ((s.cache.relined made.idxOf).cell c).value = some settings := by
      rw [Cache.cell_relined]
      exact Cache.turn_eq_ready_iff.mp hturn
    refine echoed_some (.advance (made.idxOf i)) (Resolver.step_ready hl hv) rfl
      (List.append_nil made) rfl ?_
    exact h.served hr hl hgot h.lined fun n => Resolver.filterMap_returnedBy_resolved ..
  | proceedAsk _ t c hr hturn =>
    obtain ⟨hl, hgot⟩ := h.waiting hr rfl
    obtain ⟨hv, hhead⟩ := Cache.turn_eq_ask_iff.mp hturn
    have hv' : ((s.cache.relined made.idxOf).cell c).value = none := by
      rw [Cache.cell_relined]
      exact hv
    have hhead' : ((s.cache.relined made.idxOf).cell c).line.head? = some (made.idxOf i) := by
      rw [Cache.cell_relined, Cell.line_relined, List.head?_map, hhead]
      rfl
    refine echoed_some (.advance (made.idxOf i)) (Resolver.step_ask hl hv' hhead') rfl
      (List.append_nil made) rfl ?_
    exact h.moved hr hl hgot h.lined (fun _ _ => rfl) (.waiting _ rfl)

/-- A run takes the answer to its request, as its lookup does. -/
theorem Mirrored.answered {answer : Except SettingsError Settings} (h : Mirrored made past s r)
    (hm : Moves s (.answered i answer) s' effects) :
    Echoed made past r ⟨s, .answered i answer, effects, s'⟩ := by
  obtain ⟨cache, lookups⟩ := r
  obtain rfl : cache = s.cache.relined made.idxOf := h.cache
  cases hm with
  | answered _ t c _ hr =>
    obtain ⟨hl, hgot⟩ := h.waiting hr rfl
    refine echoed_some (.answer (made.idxOf i) answer) (Resolver.answer_step hl answer) rfl
      (List.append_nil made) ?_ ?_
    · unfold Resolver.answerEffects
      cases answer.bind Settings.validated <;> rfl
    · dsimp only
      rw [Cache.settle_relined made.idxOf s.cache c answer]
      exact h.served hr hl hgot (fun j k hk => h.lined j k (Cache.mem_line_settle hk))
        fun n => Resolver.returnedBy_answerEffects ..

/-- A pushed section is taken over in global mode, and nothing else happens to the settings. -/
theorem Mirrored.changeApplies {change : ℕ} (h : Mirrored made past s r)
    (htrace : Trace Resolver.step Resolver.initial past r)
    (hm : Moves s (.changeApplies change) s' effects) :
    Echoed made past r ⟨s, .changeApplies change, effects, s'⟩ := by
  have hquiet := h.unheard htrace hm
  cases hm with
  | changePasses _ configuration hk hmode => exact hquiet (by simp [echo, hmode])
  | changeSets _ configuration hk hmode =>
    refine echoed_some (.setGlobal (Settings.pushed configuration).1) rfl
      (by simp [echo, hmode, hk]) (List.append_nil made) ?_
      (h.elsewhere rfl rfl ?_ rfl fun _ => rfl)
    · cases (Settings.pushed configuration).2 <;> rfl
    · rw [h.cache]
      rfl

/-- A step of the server is a step of the resolver, or none. -/
theorem Mirrored.step (h : Mirrored made past s r)
    (htrace : Trace Resolver.step Resolver.initial past r) (hm : Moves s a s' effects) :
    Echoed made past r ⟨s, a, effects, s'⟩ := by
  have hquiet := h.unheard htrace hm
  cases a with
  | didClose u =>
    cases hm
    refine echoed_some (.invalidate u) rfl rfl (List.append_nil made) ?_
      (h.elsewhere rfl rfl ?_ rfl fun n => ?_)
    · dsimp only [Resolver.invalidate]
      split_ifs <;> rfl
    · show (r.cache.invalidate u).1 = _
      rw [h.cache]
      rfl
    · dsimp only [Resolver.invalidate]
      split_ifs <;> rfl
  | changeBegins =>
    cases hm
    refine echoed_some .invalidateAll rfl rfl (List.append_nil made) rfl
      (h.elsewhere rfl rfl ?_ rfl fun _ => rfl)
    show r.cache.invalidateAll.1 = _
    rw [h.cache]
    rfl
  | changeApplies => exact h.changeApplies htrace hm
  | start => exact h.start htrace hm
  | ask => exact h.ask hm
  | proceed => exact h.proceed hm
  | answered => exact h.answered hm
  | _ => exact hquiet rfl

/-- What a step amounts to depends only on the lookups that were made before it. -/
theorem Mirrored.echo_steady (h : Mirrored made past s r) (hm : Moves s a s' effects)
    (later : List ℕ) :
    echo (made ++ later) ⟨s, a, effects, s'⟩ = echo made ⟨s, a, effects, s'⟩ := by
  have hstay : ∀ {i : ℕ} {entry : Lookup × LookupStatus},
      r.lookups[made.idxOf i]? = some entry → (made ++ later).idxOf i = made.idxOf i :=
    fun hl => List.idxOf_append_of_mem (h.mem_made hl)
  cases hm with
  | askGlobal i t u hr => simp only [echo, hstay (h.waiting hr rfl).1]
  | askCell i t u c hr => simp only [echo, hstay (h.waiting hr rfl).1]
  | proceedReady i t c settings hr => simp only [echo, hstay (h.waiting hr rfl).1]
  | proceedAsk i t c hr => simp only [echo, hstay (h.waiting hr rfl).1]
  | answered i t c answer hr => simp only [echo, hstay (h.waiting hr rfl).1]
  | _ => rfl

end

section

variable {perResource registers : Bool} {past : List (Moment Server Action Effect)} {s : Server}
  {i j c : ℕ} {t t' : Ticket}

/-- A resolver to which nothing but the mode has been told. -/
def introducedResolver (perResource : Bool) : Resolver :=
  { Resolver.initial with cache := Cache.empty.setPerResource perResource }

theorem mirrored_introduced (perResource registers : Bool)
    (past : List (Moment Resolver Resolver.Action Resolver.Effect)) :
    Mirrored [] past (initial.introduced perResource registers)
      (introducedResolver perResource) where
  cache := rfl
  lined := by
    intro c i hi
    cases hi
  distinct := List.nodup_nil
  known := by
    intro i hi
    cases hi
  size := rfl
  runs := by
    intro i t p hi
    cases hi

/-- What a session has done is what a resolver has done: the steps of the resolver are what those of
the server amount to, the editor has got the same requests, and both agree. -/
structure Resolved (perResource : Bool) (past : List (Moment Server Action Effect)) (s : Server)
    (lookups : List (Moment Resolver Resolver.Action Resolver.Effect)) (r : Resolver) : Prop where
  trace : Trace Resolver.step Resolver.initial lookups r
  actions : lookups.map Moment.action =
    .setPerResource perResource :: past.filterMap (echo (claimants past))
  /-- What a step amounts to stays the same when more lookups are made. -/
  steady : ∀ m ∈ past, ∀ later, echo (claimants past ++ later) m = echo (claimants past) m
  requests : Resolver.requests lookups = requests past
  mirrored : Mirrored (claimants past) lookups s r

theorem Resolved.step {lookups : List (Moment Resolver Resolver.Action Resolver.Effect)}
    {r : Resolver} {a : Action} {effects : List Effect} {s' : Server}
    (h : Resolved perResource past s lookups r) (hm : Moves s a s' effects) :
    ∃ more r', Resolved perResource (past ++ [⟨s, a, effects, s'⟩]) s' (lookups ++ more) r' := by
  obtain ⟨more, r', htrace, hactions, hrequests, hmirrored⟩ := h.mirrored.step h.trace hm
  have hlast := h.mirrored.echo_steady hm
  have hclaims := claimants_concat past ⟨s, a, effects, s'⟩
  refine ⟨more, r', h.trace.append htrace, ?_, ?_, ?_, hclaims ▸ hmirrored⟩
  · have hearlier := fun later => List.filterMap_congr fun x hx => h.steady x hx later
    rw [List.map_append, h.actions, hactions, hclaims, filterMap_concat, hearlier, hlast]
    rfl
  · intro x hx later
    rw [hclaims, List.append_assoc]
    rcases List.mem_append.mp hx with hx | hx
    · rw [h.steady x hx, h.steady x hx]
    · rw [List.mem_singleton.mp hx, hlast, hlast]
  · have hconcat : ∀ l l' : List (Moment Resolver Resolver.Action Resolver.Effect),
        Resolver.requests (l ++ l') = Resolver.requests l ++ Resolver.requests l' :=
      fun _ _ => List.flatMap_append
    rw [hconcat, h.requests, hrequests, Server.requests, Server.requests, List.flatMap_append,
      List.flatMap_singleton]

/-- Every session is a trace of lookups. -/
theorem resolved_of_session (h : Session perResource registers past s) :
    ∃ lookups r, Resolved perResource past s lookups r := by
  induction h with
  | nil =>
    have hfirst : Resolver.initial.step (.setPerResource perResource) =
      some (introducedResolver perResource, []) := rfl
    exact ⟨_, _, Trace.snoc .nil hfirst, rfl, (fun _ hm => by cases hm), rfl,
      mirrored_introduced perResource registers _⟩
  | snoc h hs ih =>
    obtain ⟨lookups, r, hresolved⟩ := ih
    obtain ⟨more, r', hresolved'⟩ := hresolved.step (moves_of_step hs)
    exact ⟨lookups ++ more, r', hresolved'⟩

/-- At most one run has asked for a cell, as at most one lookup has. -/
theorem fetching_unique (h : Session perResource registers past s)
    (hi : s.runs[i]? = some ⟨t, .fetching c⟩) (hj : s.runs[j]? = some ⟨t', .fetching c⟩) :
    i = j := by
  obtain ⟨lookups, r, hresolved⟩ := resolved_of_session h
  have horderly := Resolver.orderly_of_trace hresolved.trace c
  obtain ⟨hl, -⟩ := hresolved.mirrored.waiting hi rfl
  obtain ⟨hl', -⟩ := hresolved.mirrored.waiting hj rfl
  obtain ⟨-, -, hfirst, -⟩ := horderly.in_flight hl
  obtain ⟨-, -, hfirst', -⟩ := horderly.in_flight hl'
  rw [hfirst] at hfirst'
  exact (List.idxOf_inj (hresolved.mirrored.mem_made hl)).mp (Option.some.inj hfirst')

end

end Server

end LineLint
