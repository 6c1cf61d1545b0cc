import LineLint.Proofs.Settings.Resolver

/-!
# Documents do not share cells

The cells of a document are those to which its entry and its lookups refer. No step makes two
documents refer to the same cell.

* `uris` — the documents of the lookups.
* `Holder`, `cellAt` — who refers to a cell of a document.
* `Separate` — no cell is shared by two documents.

Results:

* `cellAt_lookup_same`, `cellAt_lookup_known`, `cellAt_lookup_new`: who refers to what after a
  lookup.
* `Moves.separate`, `separate_of_trace`: no cell is ever shared by two documents.
-/

namespace LineLint.Resolver

variable {r r' : Resolver} {a : Action} {effects : List Effect} {n c i : ℕ} {u v : Uri}
  {past : List (Moment Resolver Action Effect)} {status : LookupStatus} {o : Option ℕ}
  {cache : Cache}

/-! ## Who refers to a cell -/

/-- The documents of the lookups, in order. -/
def uris (r : Resolver) : List Uri := r.lookups.map fun entry => entry.1.uri

/-- Who can refer to a cell of a document: its entry, or a lookup. -/
inductive Holder where
  | entry
  | lookup (n : ℕ)

/-- The cell of a document to which someone refers. -/
def cellAt (r : Resolver) (v : Uri) : Holder → Option ℕ
  | .entry => r.cache.entry? v
  | .lookup n => if r.uris[n]? = some v then r.cellOf n else none

theorem uris_eq (h : r.lookups[n]? = some (⟨u, o⟩, status)) : r.uris[n]? = some u := by
  rw [uris, List.getElem?_map, h]
  rfl

theorem cellAt_eq (h : r.lookups[n]? = some (⟨v, o⟩, status)) : r.cellAt v (.lookup n) = o := by
  rw [cellAt, if_pos (uris_eq h), cellOf_eq h]

theorem lookups_eq (hv : r.uris[n]? = some v) (hs : r.statusOf n = some status) :
    r.lookups[n]? = some (⟨v, r.cellAt v (.lookup n)⟩, status) := by
  obtain ⟨⟨⟨w, o⟩, status'⟩, hn, -⟩ := Option.map_eq_some_iff.mp hs
  rw [uris_eq hn] at hv
  cases hv
  rw [statusOf_eq hn] at hs
  cases hs
  rw [cellAt_eq hn, hn]

@[simp]
theorem uris_lookup (r : Resolver) (u : Uri) : (r.lookup u).1.uris = r.uris ++ [u] := by
  show (r.lookups ++ [((r.cache.lookup u).2, LookupStatus.claimed)]).map _ = _
  rw [List.map_append, List.map_singleton, Cache.lookup_uri]
  rfl

@[simp]
theorem uris_setStatus (r : Resolver) (n : ℕ) (status : LookupStatus) :
    (r.setStatus n status).uris = r.uris := by
  show (r.lookups.modify n fun entry => (entry.1, status)).map (fun entry => entry.1.uri) = _
  exact map_modify_eq (by intro entry; rfl) r.lookups n

/-- How far lookups have come does not matter for the cells. -/
@[simp]
theorem cellAt_setStatus (r : Resolver) (n : ℕ) (status : LookupStatus) :
    (r.setStatus n status).cellAt = r.cellAt := by
  funext v x
  cases x with
  | entry => rfl
  | lookup k => simp [cellAt]

/-- Nor does it matter what is in the cells. -/
theorem cellAt_recache (he : cache.entries = r.cache.entries) (v : Uri) (x : Holder) :
    cellAt { r with cache } v x = r.cellAt v x := by
  cases x with
  | entry =>
    show cache.entry? v = r.cache.entry? v
    rw [Cache.entry?, he, Cache.entry?]
  | lookup k => rfl

theorem InRange.cellAt (h : InRange r) {x : Holder} (hc : r.cellAt v x = some c) :
    c < r.cache.cells.length := by
  cases x with
  | entry => exact h.entries v c hc
  | lookup n =>
    rw [Resolver.cellAt] at hc
    split_ifs at hc
    exact h.lookups n c hc

/-! ## What a lookup changes -/

@[simp]
theorem uris_length (r : Resolver) : r.uris.length = r.lookups.length := List.length_map ..

/-- The cells of lookups after a new one. -/
theorem cellAt_lookup (r : Resolver) (u v : Uri) (k : ℕ) :
    (r.lookup u).1.cellAt v (.lookup k) =
      if k = r.lookups.length then if u = v then (r.cache.lookup u).2.cell else none
      else r.cellAt v (.lookup k) := by
  show (if (r.lookup u).1.uris[k]? = some v then (r.lookup u).1.cellOf k else none) = _
  rw [uris_lookup, getElem?_concat, cellOf_lookup, uris_length]
  by_cases hk : k = r.lookups.length
  · simp [hk]
  · simp only [if_neg hk]
    rfl

/-- Nobody refers to a cell through a lookup that has not been made. -/
@[simp]
theorem cellAt_length (r : Resolver) (v : Uri) : r.cellAt v (.lookup r.lookups.length) = none := by
  rw [cellAt, ← uris_length, List.getElem?_eq_none (Nat.le_refl _), if_neg nofun]

/-- A lookup for another document is of no concern, nor is one that uses the global value. -/
theorem cellAt_lookup_same (h : u = v → r.cache.perResource = false) :
    (r.lookup u).1.cellAt v = r.cellAt v := by
  funext x
  cases x with
  | entry =>
    refine (Cache.entry?_lookup r.cache u v).trans (if_neg ?_)
    rintro ⟨hvu, hp⟩
    rw [h hvu.symm] at hp
    cases hp
  | lookup k =>
    rw [cellAt_lookup]
    split_ifs with hk huv
    · rw [hk, cellAt_length, Cache.lookup_global (h huv)]
    · rw [hk, cellAt_length]
    · rfl

/-- Another cell for the entry. -/
def withEntry (f : Holder → Option ℕ) (o : Option ℕ) : Holder → Option ℕ
  | .entry => o
  | .lookup k => f (.lookup k)

theorem withEntry_cases {f : Holder → Option ℕ} {x : Holder} (hx : withEntry f o x = some c) :
    o = some c ∨ f x = some c := by
  cases x with
  | entry => exact Or.inl hx
  | lookup k => exact Or.inr hx

/-- The holder that has had the cell of the latest lookup: the entry. -/
def Holder.old (latest : ℕ) : Holder → Holder
  | .entry => .entry
  | .lookup k => if k = latest then .entry else .lookup k

/-- A lookup of a document that has an entry shares its cell. -/
theorem cellAt_lookup_known (hp : r.cache.perResource = true) (hv : r.cache.entry? v = some i) :
    (r.lookup v).1.cellAt v = r.cellAt v ∘ Holder.old r.lookups.length := by
  funext x
  cases x with
  | entry =>
    refine (Cache.entry?_lookup r.cache v v).trans ?_
    rw [if_pos ⟨rfl, hp⟩, Cache.lookup_known hp hv]
    exact hv.symm
  | lookup k =>
    rw [cellAt_lookup, if_pos (rfl : v = v), Function.comp_apply, Holder.old]
    split_ifs
    · rw [Cache.lookup_known hp hv]
      exact hv.symm
    · rfl

/-- A lookup of a document that has no entry makes one with a new cell, and shares it. -/
theorem cellAt_lookup_new (hp : r.cache.perResource = true) (hv : r.cache.entry? v = none) :
    (r.lookup v).1.cellAt v =
      withEntry (r.cellAt v) (some r.cache.cells.length) ∘ Holder.old r.lookups.length := by
  funext x
  cases x with
  | entry =>
    refine (Cache.entry?_lookup r.cache v v).trans ?_
    rw [if_pos ⟨rfl, hp⟩, Cache.lookup_new hp hv]
    rfl
  | lookup k =>
    rw [cellAt_lookup, if_pos (rfl : v = v), Function.comp_apply, Holder.old]
    split_ifs
    · rw [Cache.lookup_new hp hv]
      rfl
    · rfl

/-! ## What is forgotten -/

@[simp]
theorem cellAt_invalidate (r : Resolver) (u v : Uri) :
    (r.invalidate u).1.cellAt v = if v = u then withEntry (r.cellAt v) none else r.cellAt v := by
  funext x
  cases x with
  | entry =>
    refine (Cache.entry?_invalidate r.cache u v).trans ?_
    split_ifs <;> rfl
  | lookup k => split_ifs <;> rfl

@[simp]
theorem cellAt_invalidateAll (r : Resolver) (v : Uri) :
    r.invalidateAll.1.cellAt v = withEntry (r.cellAt v) none := by
  funext x
  cases x with
  | entry => rfl
  | lookup k => rfl

/-! ## No cell is shared by two documents -/

/-- No cell is shared by two documents. -/
def Separate (r : Resolver) : Prop :=
  ∀ v w x y c, r.cellAt v x = some c → r.cellAt w y = some c → v = w

theorem Separate.of_old (h : Separate r)
    (hold : ∀ v x c, r'.cellAt v x = some c → ∃ y, r.cellAt v y = some c) : Separate r' := by
  intro v w x y c hx hy
  obtain ⟨x', hx'⟩ := hold v x c hx
  obtain ⟨y', hy'⟩ := hold w y c hy
  exact h v w x' y' c hx' hy'

/-- A cell that someone refers to after a lookup was referred to before, or is new and belongs to
the document of the lookup. -/
theorem cellAt_lookup_cases {x : Holder} (hx : (r.lookup u).1.cellAt v x = some c) :
    (∃ y, r.cellAt v y = some c) ∨ u = v ∧ r.cache.cells.length = c := by
  by_cases hsame : u = v → r.cache.perResource = false
  · rw [cellAt_lookup_same hsame] at hx
    exact Or.inl ⟨x, hx⟩
  · obtain ⟨rfl, hp⟩ := Classical.not_imp.mp hsame
    rw [Bool.not_eq_false] at hp
    cases hu : r.cache.entry? u with
    | some i =>
      rw [cellAt_lookup_known hp hu] at hx
      exact Or.inl ⟨_, hx⟩
    | none =>
      rw [cellAt_lookup_new hp hu, Function.comp_apply] at hx
      rcases withEntry_cases hx with hnew | hx
      · exact Or.inr ⟨rfl, Option.some.inj hnew⟩
      · exact Or.inl ⟨_, hx⟩

theorem Separate.lookup (h : Separate r) (hrange : InRange r) (u : Uri) :
    Separate (r.lookup u).1 := by
  intro v w x y c hx hy
  rcases cellAt_lookup_cases hx with ⟨x', hx'⟩ | ⟨rfl, hc⟩
  · rcases cellAt_lookup_cases hy with ⟨y', hy'⟩ | ⟨rfl, hc⟩
    · exact h v w x' y' c hx' hy'
    · have := hrange.cellAt hx'
      omega
  · rcases cellAt_lookup_cases hy with ⟨y', hy'⟩ | ⟨rfl, -⟩
    · have := hrange.cellAt hy'
      omega
    · rfl

theorem Moves.separate (hm : Moves r a r' effects) (hrange : InRange r) (h : Separate r) :
    Separate r' := by
  have hmoved : ∀ {n : ℕ} {cache : Cache} {status : LookupStatus},
      cache.entries = r.cache.entries → Separate ({ r with cache }.setStatus n status) := by
    intro n cache status he
    refine h.of_old fun v x c hx => ⟨x, ?_⟩
    rwa [cellAt_setStatus, cellAt_recache he] at hx
  cases hm with
  | setPerResource => exact h.of_old fun v x c hx => ⟨x, (cellAt_recache rfl v x).symm.trans hx⟩
  | setGlobal => exact h.of_old fun v x c hx => ⟨x, (cellAt_recache rfl v x).symm.trans hx⟩
  | lookup u => exact h.lookup hrange u
  | invalidate u =>
    refine h.of_old fun v x c hx => ⟨x, ?_⟩
    have hx' := (congrFun (cellAt_invalidate r u v) x).symm.trans hx
    split_ifs at hx'
    · exact (withEntry_cases hx').resolve_left nofun
    · exact hx'
  | invalidateAll =>
    refine h.of_old fun v x c hx => ⟨x, ?_⟩
    have hx' := (congrFun (cellAt_invalidateAll r v) x).symm.trans hx
    exact (withEntry_cases hx').resolve_left nofun
  | answer _ _ c answer => exact hmoved (Cache.settle_entries r.cache c answer)
  | _ => exact hmoved rfl

/-- No cell is ever shared by two documents. -/
theorem separate_of_trace (h : Trace step initial past r) : Separate r := by
  induction h with
  | nil =>
    intro v w x y c hx
    cases x <;> cases hx
  | snoc h hs ih => exact (moves_of_step hs).separate (inRange_of_trace h) ih

end LineLint.Resolver
