import LineLint.Proofs.Server.Outcomes
import LineLint.Proofs.Server.Renaming

/-!
# Steps of runs side by side

A run reads little: its own phase, its document, the settings entry of the document, and the cell to
which it refers. It changes even less. So a step of a run is not touched by the step of a run for
another document, and the two can be taken in either order. Only new cells get other names then.

* `Stride` — what a step of a run does, whatever the state is.
* `Stride.Commutes` — two strides do the same to the cache in either order.
* `LooksSame` — two states are the same for a run.
* `Apart` — runs of different documents refer to different cells.

Results:

* `Moves.stride`: every step of a run is a stride, in all states that look the same to it.
* `Apart.looksSame`: a stride is not seen by the run of another document.
* `Apart.commute`: strides of runs for different documents lead to the same state in either order,
  up to the names of new cells.
* `swap_of_session`: two steps that follow each other can be taken the other way round.
* `step_after`: a step stays possible when the run of another document has taken one.
-/

namespace LineLint

/-! ## Handing in two tickets -/

namespace Documents

variable {d : Documents} {u v : Uri} {doc doc' : Document} {t t' : Ticket}

theorem put_comm (huv : u ≠ v) :
    ∀ l : List (Uri × Document), u ∈ l.map Prod.fst → v ∈ l.map Prod.fst →
      put u doc (put v doc' l) = put v doc' (put u doc l) := by
  intro l
  induction l with
  | nil => intro hu; cases hu
  | cons entry l ih =>
    intro hu hv
    rw [List.map_cons, List.mem_cons] at hu hv
    by_cases hentry : entry.1 = u
    · have hv' : ¬entry.1 = v := fun h => huv (hentry.symm.trans h)
      simp [put, hentry, huv]
    · by_cases hentry' : entry.1 = v
      · simp [put, hentry', Ne.symm huv]
      · simp only [put, if_neg hentry, if_neg hentry']
        rw [ih (hu.resolve_left fun h => hentry h.symm) (hv.resolve_left fun h => hentry' h.symm)]

theorem set_comm (huv : u ≠ v) (hu : d.isOpen u = true) (hv : d.isOpen v = true) :
    (d.set v doc').set u doc = (d.set u doc).set v doc' := by
  unfold set
  rw [put_comm huv d.entries (mem_keys_iff.mpr hu) (mem_keys_iff.mpr hv)]

/-- What a ticket does that is accepted. -/
theorem finish_accepted (h : (d.finish t).2 = true) :
    ∃ doc, d.get? t.uri = some doc ∧
      (d.finish t).1 = d.set t.uri { doc with pending := none } := by
  obtain ⟨doc, hd, hp⟩ := Option.bind_eq_some_iff.mp ((finish_accepts_iff d t).mp h)
  exact ⟨doc, hd, by simp [finish, hd, hp]⟩

theorem finish_accepts_after (h : t.uri ≠ t'.uri) :
    ((d.finish t').1.finish t).2 = (d.finish t).2 := by
  rw [Bool.eq_iff_iff, finish_accepts_iff, finish_accepts_iff, pending?_finish_other h]

theorem get?_finish_other (h : v ≠ t.uri) : (d.finish t).1.get? v = d.get? v := by
  cases ha : (d.finish t).2 with
  | false => rw [finish_refused ha]
  | true => rw [get?_finish ha, if_neg h]

/-- Tickets of different documents can be handed in in either order. -/
theorem finish_comm (h : t.uri ≠ t'.uri) :
    ((d.finish t').1.finish t).1 = ((d.finish t).1.finish t').1 := by
  have hafter : ((d.finish t').1.finish t).2 = (d.finish t).2 := finish_accepts_after h
  have hafter' : ((d.finish t).1.finish t').2 = (d.finish t').2 := finish_accepts_after h.symm
  cases ha : (d.finish t).2 with
  | false => rw [finish_refused (hafter.trans ha), finish_refused ha]
  | true =>
    cases ha' : (d.finish t').2 with
    | false => rw [finish_refused (hafter'.trans ha'), finish_refused ha']
    | true =>
      obtain ⟨doc, hd, hset⟩ := finish_accepted ha
      obtain ⟨doc', hd', hset'⟩ := finish_accepted ha'
      obtain ⟨_, hlate, hsetLate⟩ := finish_accepted (hafter.trans ha)
      obtain ⟨_, hlate', hsetLate'⟩ := finish_accepted (hafter'.trans ha')
      -- each ticket finds its document as it was
      rw [get?_finish_other h, hd] at hlate
      rw [get?_finish_other h.symm, hd'] at hlate'
      cases hlate
      cases hlate'
      rw [hsetLate, hsetLate', hset, hset']
      refine set_comm h ?_ ?_
      · rw [isOpen, hd]
        rfl
      · rw [isOpen, hd']
        rfl

end Documents

/-! ## Two changes of the cache -/

namespace Cache

variable {c : Cache} {u v : Uri} {i j : ℕ} {f g : Cell → Cell}

theorem update_comm (hij : i ≠ j) : (c.update j g).update i f = (c.update i f).update j g := by
  unfold update
  rw [List.modify_modify_ne f g c.cells hij]

/-- A lookup does not touch the cells that are there. -/
theorem lookup_update (hi : i < c.cells.length) (u : Uri) :
    (c.update i f).lookup u = ((c.lookup u).1.update i f, (c.lookup u).2) := by
  cases hp : c.perResource with
  | false => rw [lookup_global hp, lookup_global (c := c.update i f) hp]
  | true =>
    cases hu : c.entry? u with
    | some j => rw [lookup_known hp hu, lookup_known (c := c.update i f) hp hu]
    | none =>
      rw [lookup_new hp hu, lookup_new (c := c.update i f) hp hu, cells_length_update]
      have hcells : (c.cells ++ [Cell.empty]).modify i f = c.cells.modify i f ++ [Cell.empty] := by
        apply List.ext_getElem?
        intro k
        rw [List.getElem?_modify, getElem?_concat, getElem?_concat, List.length_modify,
          List.getElem?_modify]
        by_cases hk : k = c.cells.length
        · simp [hk]
          omega
        · simp [hk]
      simp only [update, hcells]

/-- A lookup of a document that has an entry is not touched by another lookup. -/
theorem lookup_known_comm (hp : c.perResource = true) (hu : c.entry? u = some i) (v : Uri) :
    ((c.lookup v).1.lookup u).1 = ((c.lookup u).1.lookup v).1 ∧
      ((c.lookup v).1.lookup u).2 = (c.lookup u).2 ∧
      ((c.lookup u).1.lookup v).2 = (c.lookup v).2 := by
  have hp' : (c.lookup v).1.perResource = true := (lookup_perResource c v).trans hp
  have hu' := entry?_lookup_of_eq_some hu v
  rw [lookup_known hp' hu', lookup_known hp hu]
  exact ⟨rfl, rfl, rfl⟩

/-- Two lookups that both make a cell. -/
theorem lookup_lookup_new (huv : u ≠ v) (hp : c.perResource = true) (hu : c.entry? u = none)
    (hv : c.entry? v = none) : (c.lookup u).1.lookup v =
      ({ c with
          entries := c.entries ++ [(u, c.cells.length)] ++ [(v, c.cells.length + 1)]
          cells := c.cells ++ [Cell.empty] ++ [Cell.empty] },
        ⟨v, some (c.cells.length + 1)⟩) := by
  have hv' : Cache.entry? (c.lookup u).1 v = none := by
    rw [lookup_new hp hu, entry?_append c u v _ hu, if_neg huv.symm, hv]
  rw [lookup_new ((lookup_perResource c u).trans hp) hv', lookup_new hp hu]
  simp

end Cache

/-! ## Strides -/

/-- What a step of a run does, whatever the state is. -/
inductive Stride where
  /-- The run goes on by itself. -/
  | goes (phase : Phase)
  /-- The run hands in its ticket. -/
  | finishes (ticket : Ticket)
  /-- The run claims the source of a document's settings. -/
  | claims (uri : Uri)
  /-- The run changes a cell. -/
  | fills (cell : ℕ) (change : Cell → Cell) (phase : Phase)

namespace Stride

def documents : Stride → Documents → Documents
  | .finishes t, d => (d.finish t).1
  | _, d => d

def cache : Stride → Cache → Cache
  | .claims u, c => (c.lookup u).1
  | .fills i f _, c => c.update i f
  | _, c => c

/-- The phase in which a stride leaves its run. -/
def phase : Stride → Cache → Phase
  | .goes p, _ => p
  | .finishes _, _ => .finished
  | .claims u, c => .claimed (c.lookup u).2
  | .fills _ _ p, _ => p

/-- Takes a stride. -/
def apply (k : Stride) (r : ℕ) (s : Server) : Server :=
  { s with documents := k.documents s.documents, cache := k.cache s.cache }.setPhase r
    (k.phase s.cache)

/-- A stride of a run with this ticket and phase: it is about the document of the ticket, and the
cell of the phase. -/
def Within (t : Ticket) (p : Phase) : Stride → Prop
  | .goes _ => True
  | .finishes t' => t' = t
  | .claims u => u = t.uri
  | .fills i _ _ => p.cell? = some i

variable {π : Equiv.Perm ℕ} {k k' : Stride} {c : Cache} {u v : Uri} {t t' : Ticket} {p p' : Phase}
  {d : Documents}

/-- Two strides do the same to the cache in either order, up to the names of new cells. -/
structure Commutes (π : Equiv.Perm ℕ) (k k' : Stride) (c : Cache) : Prop where
  caches : (k'.cache (k.cache c)).Renamed π (k.cache (k'.cache c))
  first : k.phase (k'.cache c) = (k.phase c).rename π
  second : k'.phase c = (k'.phase (k.cache c)).rename π
  old : ∀ i < c.cells.length, π i = i

theorem commutes_of_eq (hcache : k.cache (k'.cache c) = k'.cache (k.cache c))
    (hfirst : k.phase (k'.cache c) = k.phase c) (hsecond : k'.phase (k.cache c) = k'.phase c) :
    Commutes (Equiv.refl ℕ) k k' c where
  caches := by
    rw [hcache]
    exact Cache.Renamed.refl _
  first := by rw [hfirst, Phase.rename_eq_self fun _ _ => rfl]
  second := by rw [hsecond, Phase.rename_eq_self fun _ _ => rfl]
  old := fun _ _ => rfl

/-- Two new cells change their names with the order of the lookups. -/
theorem commutes_claims_new (huv : u ≠ v)
    (hentries : ∀ entry ∈ c.entries, entry.2 < c.cells.length) (hp : c.perResource = true)
    (hu : c.entry? u = none) (hv : c.entry? v = none) :
    Commutes (Equiv.swap c.cells.length (c.cells.length + 1)) (.claims u) (.claims v) c := by
  have hold : ∀ i < c.cells.length, Equiv.swap c.cells.length (c.cells.length + 1) i = i :=
    fun i hi => Equiv.swap_apply_of_ne_of_ne (by omega) (by omega)
  have hsame : c.entries.map (fun entry =>
      (entry.1, Equiv.swap c.cells.length (c.cells.length + 1) entry.2)) = c.entries := by
    refine (List.map_congr_left fun entry he => ?_).trans (List.map_id _)
    rw [hold entry.2 (hentries entry he)]
    rfl
  -- both cells are empty
  have hcells : ∀ i, (c.cells ++ [Cell.empty] ++ [Cell.empty])[Equiv.swap c.cells.length
      (c.cells.length + 1) i]?.getD Cell.empty =
      (c.cells ++ [Cell.empty] ++ [Cell.empty])[i]?.getD Cell.empty := by
    intro i
    rw [Equiv.swap_apply_def]
    split_ifs with hi hi
    · simp [hi]
    · simp [hi]
    · rfl
  have huv' := Cache.lookup_lookup_new huv hp hu hv
  have hvu' := Cache.lookup_lookup_new huv.symm hp hv hu
  refine ⟨?_, ?_, ?_, hold⟩
  · show Cache.Renamed _ ((c.lookup u).1.lookup v).1 ((c.lookup v).1.lookup u).1
    rw [huv', hvu']
    refine ⟨rfl, rfl, ?_, rfl, fun i hi => ?_, hcells⟩
    · rw [List.map_append, List.map_append, hsame]
      simp only [List.map_singleton, Equiv.swap_apply_left, Equiv.swap_apply_right,
        List.append_assoc]
      exact (List.Perm.swap _ _ _).append_left _
    · simp only [List.length_append, List.length_singleton] at hi
      exact Equiv.swap_apply_of_ne_of_ne (by omega) (by omega)
  · simp [phase, cache, hvu', Cache.lookup_new hp hu, Phase.rename]
  · simp [phase, cache, huv', Cache.lookup_new hp hv, Phase.rename]

theorem commutes_claims (huv : u ≠ v)
    (hentries : ∀ entry ∈ c.entries, entry.2 < c.cells.length) :
    ∃ π, Commutes π (.claims u) (.claims v) c := by
  cases hp : c.perResource with
  | false =>
    refine ⟨_, commutes_of_eq ?_ ?_ ?_⟩ <;> simp [cache, phase, Cache.lookup_global hp]
  | true =>
    cases hu : c.entry? u with
    | some i =>
      obtain ⟨hcache, hfirst, hsecond⟩ := Cache.lookup_known_comm hp hu v
      exact ⟨_, commutes_of_eq hcache (congrArg Phase.claimed hfirst)
        (congrArg Phase.claimed hsecond)⟩
    | none =>
      cases hv : c.entry? v with
      | some j =>
        obtain ⟨hcache, hfirst, hsecond⟩ := Cache.lookup_known_comm hp hv u
        exact ⟨_, commutes_of_eq hcache.symm (congrArg Phase.claimed hsecond)
          (congrArg Phase.claimed hfirst)⟩
      | none => exact ⟨_, commutes_claims_new huv hentries hp hu hv⟩

/-- Strides of runs for different documents commute, if the runs refer to different cells. -/
theorem commutes_of_within (hk : k.Within t p) (hk' : k'.Within t' p') (huri : t.uri ≠ t'.uri)
    (hentries : ∀ entry ∈ c.entries, entry.2 < c.cells.length)
    (hcell : ∀ i, p.cell? = some i → i < c.cells.length ∧ p'.cell? ≠ some i)
    (hcell' : ∀ i, p'.cell? = some i → i < c.cells.length) : ∃ π, Commutes π k k' c := by
  -- where at most one of them looks something up, nothing gets another name
  cases k with
  | goes q => cases k' <;> exact ⟨_, commutes_of_eq rfl rfl rfl⟩
  | finishes t₀ => cases k' <;> exact ⟨_, commutes_of_eq rfl rfl rfl⟩
  | claims u =>
    cases k' with
    | claims v =>
      cases hk
      cases hk'
      exact commutes_claims huri hentries
    | fills j g q =>
      have hlookup := Cache.lookup_update (f := g) (hcell' j hk') u
      have hclaim : Phase.claimed ((c.update j g).lookup u).2 = .claimed (c.lookup u).2 := by
        rw [hlookup]
      exact ⟨_, commutes_of_eq (congrArg Prod.fst hlookup) hclaim rfl⟩
    | _ => exact ⟨_, commutes_of_eq rfl rfl rfl⟩
  | fills i f q =>
    cases k' with
    | claims v =>
      have hlookup := Cache.lookup_update (f := f) (hcell i hk).1 v
      have hclaim : Phase.claimed ((c.update i f).lookup v).2 = .claimed (c.lookup v).2 := by
        rw [hlookup]
      exact ⟨_, commutes_of_eq (congrArg Prod.fst hlookup).symm rfl hclaim⟩
    | fills j g q' =>
      have hij : i ≠ j := fun h => (hcell i hk).2 (h ▸ hk')
      exact ⟨_, commutes_of_eq (Cache.update_comm hij) rfl rfl⟩
    | _ => exact ⟨_, commutes_of_eq rfl rfl rfl⟩

theorem documents_comm (hk : k.Within t p) (hk' : k'.Within t' p') (huri : t.uri ≠ t'.uri) :
    k.documents (k'.documents d) = k'.documents (k.documents d) := by
  cases k with
  | finishes t₀ =>
    cases hk
    cases k' with
    | finishes t₀' =>
      cases hk'
      exact Documents.finish_comm huri
    | _ => rfl
  | _ => cases k' <;> rfl

end Stride

namespace Server

variable {s s' x : Server} {a : Action} {effects : List Effect} {perResource registers : Bool}
  {past : List (Moment Server Action Effect)} {r r' : ℕ} {t t' : Ticket} {p p' : Phase}
  {k k' : Stride}

theorem runs_apply (hr : s.runs[r]? = some ⟨t, p⟩) (i : ℕ) :
    (k.apply r s).runs[i]? = if i = r then some ⟨t, k.phase s.cache⟩ else s.runs[i]? :=
  runs_setPhase (s := { s with documents := _, cache := _ }) hr i

/-- Two states are the same for a run: what decides about its next step is the same in both. The
entry of its document does not count, since a lookup is always possible. -/
structure LooksSame (r : ℕ) (t : Ticket) (p : Phase) (s x : Server) : Prop where
  run : x.runs[r]? = s.runs[r]?
  document : x.documents.get? t.uri = s.documents.get? t.uri
  global : x.cache.global = s.cache.global
  cell : ∀ i, p.cell? = some i → x.cache.cell i = s.cache.cell i

theorem LooksSame.symm (h : LooksSame r t p s x) : LooksSame r t p x s :=
  ⟨h.run.symm, h.document.symm, h.global.symm, fun i hi => (h.cell i hi).symm⟩

theorem LooksSame.isOpen (h : LooksSame r t p s x) :
    x.documents.isOpen t.uri = s.documents.isOpen t.uri :=
  Documents.isOpen_eq_of_get?_eq h.document

theorem LooksSame.accepts (h : LooksSame r t p s x) :
    (x.documents.finish t).2 = (s.documents.finish t).2 := by
  rw [Bool.eq_iff_iff, Documents.finish_accepts_iff, Documents.finish_accepts_iff,
    Documents.pending?_eq_of_get?_eq h.document]

theorem LooksSame.turn (h : LooksSame r t p s x) {i : ℕ} (hi : p.cell? = some i) :
    x.cache.turn i r = s.cache.turn i r := by
  rw [Cache.turn, Cache.turn, h.cell i hi]

/-- Every step of a run is a stride, in all states that look the same to it. -/
theorem Moves.stride (h : Moves s a s' effects) (ha : a.run? = some r) :
    ∃ (t : Ticket) (p : Phase) (k : Stride), s.runs[r]? = some ⟨t, p⟩ ∧ k.Within t p ∧
      s' = k.apply r s ∧
      ∀ x, LooksSame r t p s x → Moves x a (k.apply r x) effects := by
  cases h with
  | startClosed _ t hr ho =>
    cases ha
    exact ⟨t, _, .goes .finished, hr, trivial, rfl, fun x hx =>
      .startClosed r t (hx.run.trans hr) (hx.isOpen.trans ho)⟩
  | startOpen _ t hr ho =>
    cases ha
    exact ⟨t, _, .claims t.uri, hr, rfl, rfl, fun x hx =>
      .startOpen r t (hx.run.trans hr) (hx.isOpen.trans ho)⟩
  | askGlobal _ t u hr =>
    cases ha
    refine ⟨t, _, .goes (.settled s.cache.global), hr, trivial, rfl, fun x hx => ?_⟩
    rw [← hx.global]
    exact .askGlobal r t u (hx.run.trans hr)
  | askCell _ t u c hr =>
    cases ha
    exact ⟨t, _, .fills c _ (.inLine c), hr, rfl, rfl, fun x hx =>
      .askCell r t u c (hx.run.trans hr)⟩
  | proceedReady _ t c settings hr ht =>
    cases ha
    exact ⟨t, _, .goes (.settled settings), hr, trivial, rfl, fun x hx =>
      .proceedReady r t c settings (hx.run.trans hr) ((hx.turn rfl).trans ht)⟩
  | proceedAsk _ t c hr ht =>
    cases ha
    exact ⟨t, _, .goes (.fetching c), hr, trivial, rfl, fun x hx =>
      .proceedAsk r t c (hx.run.trans hr) ((hx.turn rfl).trans ht)⟩
  | answered _ t c answer hr =>
    cases ha
    obtain ⟨f, hf⟩ := Cache.settle_eq_update answer
    refine ⟨t, _, .fills c f (.settled (Settings.resolved answer)), hr, rfl, ?_, fun x hx => ?_⟩
    · rw [hf]
      rfl
    · have hm := Moves.answered (s := x) r t c answer (hx.run.trans hr)
      rw [hf] at hm
      exact hm
  | check _ t settings hr =>
    cases ha
    exact ⟨t, _, .goes (.checking settings), hr, trivial, rfl, fun x hx =>
      .check r t settings (hx.run.trans hr)⟩
  | returned _ t settings result hr =>
    cases ha
    exact ⟨t, _, .goes (.checked settings result), hr, trivial, rfl, fun x hx =>
      .returned r t settings result (hx.run.trans hr)⟩
  | finishPublishes _ t settings report hr hacc =>
    cases ha
    exact ⟨t, _, .finishes t, hr, rfl, rfl, fun x hx =>
      .finishPublishes r t settings report (hx.run.trans hr) (hx.accepts.trans hacc)⟩
  | finishReports _ t settings e hr hacc =>
    cases ha
    exact ⟨t, _, .finishes t, hr, rfl, rfl, fun x hx =>
      .finishReports r t settings e (hx.run.trans hr) (hx.accepts.trans hacc)⟩
  | finishDiscards _ t settings result hr hacc =>
    cases ha
    refine ⟨t, _, .goes .finished, hr, trivial, rfl, fun x hx => ?_⟩
    have hm := Moves.finishDiscards (s := x) r t settings result (hx.run.trans hr)
      (hx.accepts.trans hacc)
    rw [Documents.state, hx.document] at hm
    exact hm
  | _ => cases ha

/-- The cells to which entries and runs refer are there, and runs of different documents refer to
different cells. -/
structure Apart (s : Server) : Prop where
  entries : ∀ entry ∈ s.cache.entries, entry.2 < s.cache.cells.length
  runs : ∀ (r : ℕ) (t : Ticket) (p : Phase) (i : ℕ), s.runs[r]? = some ⟨t, p⟩ →
    p.cell? = some i → i < s.cache.cells.length
  separate : ∀ (r r' : ℕ) (t t' : Ticket) (p p' : Phase) (i : ℕ), s.runs[r]? = some ⟨t, p⟩ →
    s.runs[r']? = some ⟨t', p'⟩ → p.cell? = some i → p'.cell? = some i → t.uri = t'.uri

/-- The cell to which a run refers was made for its document. -/
theorem cell_made (h : Session perResource registers past s) (hr : s.runs[r]? = some ⟨t, p⟩)
    {i : ℕ} (hi : p.cell? = some i) : ∃ b, MadeAt past b i t.uri := by
  have hsourced := (provenance_of_session h).sourced r t p hr
  cases p with
  | claimed lookup =>
    obtain ⟨u, c⟩ := lookup
    cases hi
    obtain ⟨-, b, hb⟩ := hsourced
    exact ⟨b, hb.1⟩
  | inLine c =>
    cases hi
    obtain ⟨-, b, hb⟩ := hsourced
    exact ⟨b, hb.1⟩
  | fetching c =>
    cases hi
    obtain ⟨-, b, hb, -⟩ := hsourced
    exact ⟨b, hb.1⟩
  | _ => cases hi

theorem apart_of_session (h : Session perResource registers past s) : Apart s where
  entries := by
    rintro ⟨u, i⟩ he
    have hentry := (Cache.entry?_eq_some_iff (sheltered_of_session h).distinct).mpr he
    obtain ⟨b, hb, -⟩ := entry_made h hentry
    exact madeAt_lt h hb
  runs := by
    intro r t p i hr hi
    obtain ⟨b, hb⟩ := cell_made h hr hi
    exact madeAt_lt h hb
  separate := by
    intro r r' t t' p p' i hr hr' hi hi'
    obtain ⟨b, hb⟩ := cell_made h hr hi
    obtain ⟨b', hb'⟩ := cell_made h hr' hi'
    exact (madeAt_unique h hb hb').2

section

variable (hs : Apart s) (hr : s.runs[r]? = some ⟨t, p⟩) (hr' : s.runs[r']? = some ⟨t', p'⟩)
  (huri : t.uri ≠ t'.uri)

include hs hr hr' huri

theorem Apart.cells_ne {i : ℕ} (hi : p.cell? = some i) : p'.cell? ≠ some i :=
  fun hi' => huri (hs.separate r r' t t' p p' i hr hr' hi hi')

omit hs in
theorem runs_ne : r ≠ r' := by
  rintro rfl
  rw [hr] at hr'
  cases hr'
  exact huri rfl

/-- A stride is not seen by the run of another document. -/
theorem Apart.looksSame (hk : k.Within t p) : LooksSame r' t' p' s (k.apply r s) := by
  have hrr : ¬r' = r := (runs_ne hr hr' huri).symm
  refine ⟨?_, ?_, ?_, fun i hi => ?_⟩
  · rw [runs_apply hr, if_neg hrr]
  · cases k with
    | finishes t₀ =>
      cases hk
      exact Documents.get?_finish_other huri.symm
    | _ => rfl
  · cases k with
    | claims u => exact Cache.global_lookup s.cache u
    | _ => rfl
  · cases k with
    | claims u => exact Cache.cell_lookup s.cache u i
    | fills j f q =>
      have hij : ¬i = j := fun h => hs.cells_ne hr hr' huri hk (h ▸ hi)
      exact (Cache.cell_update (hs.runs r t p j hr hk) f i).trans (if_neg hij)
    | _ => rfl

/-- Strides of runs for different documents lead to the same state in either order, up to the names
of new cells. -/
theorem Apart.commute (hk : k.Within t p) (hk' : k'.Within t' p') :
    ∃ π : Equiv.Perm ℕ, Renamed π (k'.apply r' (k.apply r s)) (k.apply r (k'.apply r' s)) ∧
      ∀ i < s.cache.cells.length, π i = i := by
  obtain ⟨π, hcommutes⟩ := Stride.commutes_of_within hk hk' huri hs.entries
    (fun i hi => ⟨hs.runs r t p i hr hi, hs.cells_ne hr hr' huri hi⟩)
    (fun i hi => hs.runs r' t' p' i hr' hi)
  have hrr : r ≠ r' := runs_ne hr hr' huri
  refine ⟨π, ⟨?_, hcommutes.caches, ?_, rfl, rfl⟩, hcommutes.old⟩
  · exact Stride.documents_comm hk hk' huri
  · have hkept : (k'.apply r' s).runs[r]? = some ⟨t, p⟩ := by
      rw [runs_apply hr', if_neg hrr, hr]
    have hkept' : (k.apply r s).runs[r']? = some ⟨t', p'⟩ := by
      rw [runs_apply hr, if_neg hrr.symm, hr']
    apply List.ext_getElem?
    intro i
    rw [List.getElem?_map, runs_apply hkept, runs_apply hr', runs_apply hkept', runs_apply hr]
    by_cases hi : i = r
    · have hi' : ¬i = r' := fun h => hrr (hi.symm.trans h)
      rw [if_pos hi, if_neg hi', if_pos hi]
      exact congrArg (fun q => some (Run.mk t q)) hcommutes.first
    · rw [if_neg hi, if_neg hi]
      by_cases hi' : i = r'
      · rw [if_pos hi', if_pos hi']
        exact congrArg (fun q => some (Run.mk t' q)) hcommutes.second
      · rw [if_neg hi', if_neg hi']
        -- other runs refer to cells that are not new
        cases hrun : s.runs[i]? with
        | none => rfl
        | some run =>
          have hsame := Phase.rename_eq_self (p := run.phase) fun c hc =>
            hcommutes.old c (hs.runs i run.ticket run.phase c hrun hc)
          exact congrArg (fun q => some (Run.mk run.ticket q)) hsame.symm

end

/-! ## Two steps -/

/-- What two runs of different documents do, one after the other, they can do the other way round,
with the same effects. This leads to the same state, up to the names of new cells. -/
theorem swap_of_session (h : Session perResource registers past s) {a' : Action}
    {s₁ s₂ : Server} {effects' : List Effect} {run run' : Run} (ha : a.run? = some r)
    (ha' : a'.run? = some r') (hr : s.runs[r]? = some run) (hr' : s.runs[r']? = some run')
    (huri : run.ticket.uri ≠ run'.ticket.uri) (hs₁ : s.step a = some (s₁, effects))
    (hs₂ : s₁.step a' = some (s₂, effects')) :
    ∃ s₁' s₂' π, s.step a' = some (s₁', effects') ∧ s₁'.step a = some (s₂', effects) ∧
      Renamed π s₂ s₂' ∧ ∀ i < s.cache.cells.length, π i = i := by
  have hapart := apart_of_session h
  obtain ⟨t, p, k, hrun, hk, rfl, hfollow⟩ := (moves_of_step hs₁).stride ha
  obtain rfl := Option.some.inj (hr.symm.trans hrun)
  -- the second step looks at a state that is the same before the first
  obtain ⟨t', p', k', hrun', hk', rfl, hfollow'⟩ := (moves_of_step hs₂).stride ha'
  have hkept : s.runs[r']? = some ⟨t', p'⟩ := by
    rw [runs_apply hr, if_neg (runs_ne hr hr' huri).symm] at hrun'
    exact hrun'
  obtain rfl := Option.some.inj (hr'.symm.trans hkept)
  have hfirst := hfollow' s (hapart.looksSame hr hr' huri hk).symm
  have hsecond := hfollow _ (hapart.looksSame hr' hr huri.symm hk')
  obtain ⟨π, hrenamed, hold⟩ := hapart.commute hr hr' huri hk hk'
  exact ⟨_, _, π, step_of_moves hfirst, step_of_moves hsecond, hrenamed, hold⟩

/-- Two runs of different documents that can both take a step can take both. -/
theorem step_after (h : Session perResource registers past s) {a' : Action} {s₁ s₁' : Server}
    {effects' : List Effect} {run run' : Run} (ha : a.run? = some r) (ha' : a'.run? = some r')
    (hr : s.runs[r]? = some run) (hr' : s.runs[r']? = some run')
    (huri : run.ticket.uri ≠ run'.ticket.uri) (hs₁ : s.step a = some (s₁, effects))
    (hs₁' : s.step a' = some (s₁', effects')) : ∃ s₂, s₁.step a' = some (s₂, effects') := by
  have hapart := apart_of_session h
  obtain ⟨t, p, k, hrun, hk, rfl, -⟩ := (moves_of_step hs₁).stride ha
  obtain rfl := Option.some.inj (hr.symm.trans hrun)
  obtain ⟨t', p', k', hrun', -, -, hfollow'⟩ := (moves_of_step hs₁').stride ha'
  obtain rfl := Option.some.inj (hr'.symm.trans hrun')
  exact ⟨_, step_of_moves (hfollow' _ (hapart.looksSame hr hr' huri hk))⟩

end Server

end LineLint
