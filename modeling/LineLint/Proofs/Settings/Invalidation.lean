import LineLint.Proofs.Settings.Locality
import Mathlib.Data.List.Permutation

/-!
# Forgetting entries

A lookup keeps its cell, whatever happens to the entry of its document, and gets its settings from
the requests for this cell. After the entry was forgotten, lookups have a new cell, for which all
requests are still to be made. Other documents see nothing of it.

* `ClaimedAt`, `AsksAt`, `AnsweredAt` — what happens at a place of a trace.
* `CanResolve` — a lookup can get its settings by steps at its cell.
* `Claim` — what holds of a lookup and its cell.

Results:

* `cellOf_of_claimedAt`: a lookup keeps its cell.
* `returned_of_resolved`, `asksAt_of_answeredAt`: where settings come from.
* `forgottenAt_lt_of_asksAt`: requests for the cell of a later lookup come later.
* `canResolve`: the lookups at a cell need nothing else to be resolved.
* `invalidation_complete_and_local`: the entry of a document is forgotten completely, and that of no
  other.
-/

namespace LineLint.Resolver

variable {r r' : Resolver} {a : Action} {effects : List Effect} {n k c i j d : ℕ} {u v : Uri}
  {past more : List (Moment Resolver Action Effect)} {m m' : Moment Resolver Action Effect}
  {settings : Settings} {answer : Except SettingsError Settings}
  {reply : ℕ → Except SettingsError Settings}

/-! ## Places -/

/-- A lookup is made for a document, and has a cell. -/
def ClaimedAt (past : List (Moment Resolver Action Effect)) (i n : ℕ) (u : Uri) (c : ℕ) : Prop :=
  HappensAt past i fun m => m.action = .lookup u ∧ m.before.lookups.length = n ∧
    (m.before.cache.lookup u).2.cell = some c

/-- A lookup makes a request for a cell. -/
def AsksAt (past : List (Moment Resolver Action Effect)) (i n c : ℕ) : Prop :=
  HappensAt past i fun m => (∃ u, .fetch n u ∈ m.effects) ∧ m.before.cellOf n = some c

/-- The answer to a lookup's request for a cell comes. -/
def AnsweredAt (past : List (Moment Resolver Action Effect)) (i n c : ℕ)
    (answer : Except SettingsError Settings) : Prop :=
  HappensAt past i fun m => m.action = .answer n answer ∧ m.before.cellOf n = some c

theorem exists_asksAt (hn : n ∈ fetches c past) : ∃ i, AsksAt past i n c := by
  obtain ⟨m, hm, hn⟩ := List.mem_flatMap.mp hn
  obtain ⟨effect, heffect, hby⟩ := List.mem_filterMap.mp hn
  obtain ⟨i, hi⟩ := List.mem_iff_getElem?.mp hm
  cases effect with
  | fetch k u =>
    rw [fetchedBy] at hby
    split_ifs at hby with hc
    cases hby
    exact ⟨i, m, hi, ⟨u, heffect⟩, hc⟩
  | resolved k settings => cases hby
  | log event => cases hby

theorem exists_answeredAt (hx : (n, answer) ∈ answers c past) :
    ∃ i, AnsweredAt past i n c answer := by
  obtain ⟨m, hm, hby⟩ := List.mem_filterMap.mp hx
  obtain ⟨i, hi⟩ := List.mem_iff_getElem?.mp hm
  unfold answeredBy at hby
  split at hby
  · rename_i k answer' haction
    split_ifs at hby with hc
    cases hby
    exact ⟨i, m, hi, haction, hc⟩
  · cases hby

/-! ## Cells stay -/

theorem Moves.cells_length_le (hm : Moves r a r' effects) :
    r.cache.cells.length ≤ r'.cache.cells.length := by
  cases hm with
  | lookup u => exact Cache.cells_length_lookup_le r.cache u
  | _ => simp [Cache.setPerResource, Cache.setGlobal, Cache.invalidate, Cache.invalidateAll]

theorem cells_length_le (h : Trace step initial past r) (hm : past[i]? = some m) :
    m.before.cache.cells.length ≤ r.cache.cells.length := by
  induction h with
  | nil => simp at hm
  | snoc _ hs ih =>
    have hle := (moves_of_step hs).cells_length_le
    rcases getElem?_concat_iff.mp hm with hm | ⟨-, rfl⟩
    · exact Nat.le_trans (ih hm) hle
    · exact hle

/-- Cells are made in the course of time. -/
theorem cells_length_mono (h : Trace step initial past r) (hi : past[i]? = some m)
    (hj : past[j]? = some m') (hij : i ≤ j) :
    m.before.cache.cells.length ≤ m'.before.cache.cells.length := by
  rcases Nat.lt_or_eq_of_le hij with hlt | rfl
  · apply cells_length_le (h.take_at hj) (i := i)
    rw [List.getElem?_take, if_pos hlt]
    exact hi
  · rw [hi] at hj
    cases hj
    exact Nat.le_refl _

theorem Moves.cellOf_kept (hm : Moves r a r' effects) (hc : r.cellOf n = some c) :
    r'.cellOf n = some c := by
  obtain ⟨⟨source, status⟩, hn, hsource⟩ := Option.bind_eq_some_iff.mp hc
  obtain ⟨status', hn'⟩ := hm.reshapes.source_kept hn
  exact (cellOf_eq hn').trans hsource

theorem cellOf_kept (h : Trace step r more r') (hc : r.cellOf n = some c) :
    r'.cellOf n = some c := by
  induction h with
  | nil => exact hc
  | snoc _ hs ih => exact (moves_of_step hs).cellOf_kept ih

/-- A lookup keeps its cell. -/
theorem cellOf_of_claimedAt (h : Trace step initial past r) (hi : ClaimedAt past i n u c) :
    r.cellOf n = some c := by
  induction h with
  | nil => exact absurd hi not_happensAt_nil
  | snoc _ hs ih =>
    rcases happensAt_concat.mp hi with hi | ⟨-, ha, hn, hc⟩
    · exact (moves_of_step hs).cellOf_kept (ih hi)
    · dsimp only at ha hn hc
      subst ha
      cases moves_of_step hs with
      | lookup => exact (cellOf_lookup _ u n).trans ((if_pos hn.symm).trans hc)

/-! ## New cells for forgotten entries -/

/-- A step after which a document has an entry does not forget it, and has found or made it. -/
theorem Moves.entry_found (hm : Moves r a r' effects) (he : r'.cache.entry? u = some c) :
    ¬(a = .invalidate u ∨ a = .invalidateAll) ∧
      (r.cache.entry? u = some c ∨ r.cache.cells.length = c) := by
  cases hm with
  | lookup w =>
    refine ⟨nofun, ?_⟩
    rcases Cache.lookup_entry?_cases he with he | ⟨-, hc, -⟩
    · exact Or.inl he
    · exact Or.inr hc
  | invalidate w =>
    have he' := (Cache.entry?_invalidate r.cache w u).symm.trans he
    split_ifs at he' with hw
    refine ⟨?_, Or.inl he'⟩
    rintro (ha | ha)
    · cases ha
      exact hw rfl
    · cases ha
  | invalidateAll => cases he
  | answer _ _ i answer =>
    exact ⟨nofun, Or.inl ((Cache.entry?_settle r.cache i answer u).symm.trans he)⟩
  | _ => exact ⟨nofun, Or.inl he⟩

/-- The cell of an entry was made after the entry was last forgotten. -/
theorem forgotten_before_made (h : Trace step initial past r) (hk : ForgottenAt past k u)
    (he : r.cache.entry? u = some c) :
    HappensAt past k fun m => m.before.cache.cells.length ≤ c := by
  induction h with
  | nil => exact absurd hk not_happensAt_nil
  | snoc h hs ih =>
    obtain ⟨hnot, hfound⟩ := (moves_of_step hs).entry_found he
    rcases happensAt_concat.mp hk with hk | ⟨-, ha⟩
    · rcases hfound with he | rfl
      · exact (ih hk he).concat
      · obtain ⟨m, hm, -⟩ := hk
        exact HappensAt.concat ⟨m, hm, cells_length_le h hm⟩
    · exact absurd ha hnot

/-- The cell of a lookup was made after the entry was last forgotten. -/
theorem forgotten_before_claimed (h : Trace step initial past r) (hk : ForgottenAt past k u)
    (hi : ClaimedAt past i n u c) (hki : k < i) :
    HappensAt past k fun m => m.before.cache.cells.length ≤ c := by
  obtain ⟨m, hm, -, -, hc⟩ := hi
  have hbefore := h.take_at hm
  have hforgotten : ForgottenAt (past.take i) k u := happensAt_take.mpr ⟨hki, hk⟩
  rcases Cache.lookup_entry?_cases (Cache.entry?_lookup_self hc) with he | ⟨-, rfl, -⟩
  · exact (happensAt_take.mp (forgotten_before_made hbefore hforgotten he)).2
  · obtain ⟨m', hm', -⟩ := hk
    exact ⟨m', hm', cells_length_mono h hm' hm (Nat.le_of_lt hki)⟩

/-- Requests for the cell of a lookup are made after the entry was last forgotten. -/
theorem forgottenAt_lt_of_asksAt (h : Trace step initial past r) (hk : ForgottenAt past k u)
    (hi : ClaimedAt past i n u c) (hki : k < i) {asker : ℕ} (hj : AsksAt past j asker c) :
    k < j := by
  obtain ⟨m, hm, hmade⟩ := forgotten_before_claimed h hk hi hki
  obtain ⟨m', hm', -, hc⟩ := hj
  have hexists := (inRange_of_trace (h.take_at hm')).lookups asker c hc
  by_contra hjk
  have hle := cells_length_mono h hm' hm (Nat.not_lt.mp hjk)
  omega

/-- Lookups from before the entry was forgotten have another cell. -/
theorem claimedAt_ne (h : Trace step initial past r) (hk : ForgottenAt past k u)
    (hi : ClaimedAt past i n u c) (hki : k < i) {earlier c' : ℕ} (hjk : j < k)
    (hj : ClaimedAt past j earlier u c') : c' ≠ c := by
  obtain ⟨m, hm, hmade⟩ := forgotten_before_claimed h hk hi hki
  have hbefore := h.take_at hm
  have hold : ClaimedAt (past.take k) j earlier u c' := happensAt_take.mpr ⟨hjk, hj⟩
  have hexists := (inRange_of_trace hbefore).lookups earlier c' (cellOf_of_claimedAt hbefore hold)
  omega

/-! ## Where settings come from -/

/-- A lookup that is resolved has got what became of the answer at its own place in line, or of the
last answer if it stands behind. -/
theorem returned_at_place (h : Trace step initial past r) (hc : r.cellOf n = some c)
    (hs : r.statusOf n = some .resolved) : ∃ i x, (started c past)[i]? = some n ∧
      (answers c past)[min i ((answers c past).length - 1)]? = some x ∧
      returned n past = [Settings.resolved x.2] := by
  have ho := orderly_of_trace h c
  obtain ⟨i, hi⟩ := List.mem_iff_getElem?.mp ((ho.begun n).mpr ⟨hc, by rw [hs]; nofun⟩)
  by_cases hlt : i < (answers c past).length
  · have hx := List.getElem?_eq_getElem hlt
    refine ⟨i, _, hi, ?_, ho.returned_answer hx hi⟩
    rw [Nat.min_eq_left (by omega)]
    exact hx
  · have hle := Nat.not_lt.mp hlt
    cases ho.stage with
    | asking failed cell waiting =>
      have hwaits := waiting i n hle hi
      rw [hs] at hwaits
      split_ifs at hwaits <;> cases hwaits
    | filled settings cell last all later =>
      obtain ⟨earlier, x, hans, hx, -⟩ := last
      have hlast : (answers c past)[min i ((answers c past).length - 1)]? = some x := by
        rw [Nat.min_eq_right (by omega), ← List.getLast?_eq_getElem?,
          show answers c past = earlier ++ [x] from hans, List.getLast?_concat]
      rcases later i n hle hi with hline | ⟨-, hreturned⟩
      · rw [hs] at hline
        cases hline
      · exact ⟨i, x, hi, hlast, by rw [hx.resolved_eq]; exact hreturned⟩

/-- A lookup that is resolved has got what became of an answer to a request for its cell. -/
theorem returned_of_resolved (h : Trace step initial past r) (hc : r.cellOf n = some c)
    (hs : r.statusOf n = some .resolved) :
    ∃ x ∈ answers c past, returned n past = [Settings.resolved x.2] := by
  obtain ⟨i, x, -, hx, hreturned⟩ := returned_at_place h hc hs
  exact ⟨x, List.mem_of_getElem? hx, hreturned⟩

/-- An answer comes after the request. -/
theorem asksAt_of_answeredAt (h : Trace step initial past r) (hi : AnsweredAt past i n c answer) :
    ∃ j, j < i ∧ AsksAt past j n c := by
  obtain ⟨⟨before, action, effects, after⟩, hm, ha, hc⟩ := hi
  have hmoves := moves_of_step (h.step_at hm)
  dsimp only at ha hc hmoves
  subst ha
  cases hmoves with
  | answer _ u c' _ hn =>
    rw [cellOf_eq hn] at hc
    cases hc
    have ho := orderly_of_trace (h.take_at hm) c
    obtain ⟨-, -, hplace, hflight, -⟩ := ho.in_flight hn
    have hmem : n ∈ fetches c (past.take i) := by
      obtain ⟨rest, hrest⟩ := ho.fetched
      rw [← hrest, List.getElem?_append_left (by omega)] at hplace
      exact List.mem_of_getElem? hplace
    obtain ⟨j, hj⟩ := exists_asksAt hmem
    obtain ⟨hlt, hj⟩ := happensAt_take.mp hj
    exact ⟨j, hlt, hj⟩

/-- What a lookup has got comes from a request for its cell. -/
theorem returned_sourced (h : Trace step initial past r) (hc : r.cellOf n = some c)
    (hs : settings ∈ returned n past) : ∃ asker answer j l, j < l ∧ AsksAt past j asker c ∧
      AnsweredAt past l asker c answer ∧ settings = Settings.resolved answer := by
  have hresolved : r.statusOf n = some .resolved := by
    by_contra hnot
    rw [returned_eq_nil h hnot] at hs
    cases hs
  obtain ⟨⟨asker, answer⟩, hx, hreturned⟩ := returned_of_resolved h hc hresolved
  obtain ⟨l, hl⟩ := exists_answeredAt hx
  obtain ⟨j, hjl, hj⟩ := asksAt_of_answeredAt h hl
  rw [hreturned] at hs
  exact ⟨asker, answer, j, l, hjl, hj, hl, List.mem_singleton.mp hs⟩

/-! ## Lookups are resolved at their cells -/

/-- A step that a lookup takes at a cell. Requests get given answers. -/
def AtCell (c : ℕ) (reply : ℕ → Except SettingsError Settings)
    (m : Moment Resolver Action Effect) : Prop :=
  match m.action with
  | .resolve n => m.before.cellOf n = some c
  | .advance n => m.before.cellOf n = some c
  | .answer n answer => m.before.cellOf n = some c ∧ answer = reply n
  | _ => False

/-- A lookup can be resolved by steps at a cell alone. -/
def CanResolve (reply : ℕ → Except SettingsError Settings) (c n : ℕ) (r : Resolver) : Prop :=
  ∃ more r', Trace step r more r' ∧ (∀ m ∈ more, AtCell c reply m) ∧
    r'.statusOf n = some .resolved

theorem CanResolve.done (hs : r.statusOf n = some .resolved) : CanResolve reply c n r :=
  ⟨[], r, .nil, List.forall_mem_nil _, hs⟩

theorem CanResolve.of_step (h : CanResolve reply c n r') (hs : r.step a = some (r', effects))
    (ha : AtCell c reply ⟨r, a, effects, r'⟩) : CanResolve reply c n r := by
  obtain ⟨more, last, htrace, hat, hresolved⟩ := h
  refine ⟨[⟨r, a, effects, r'⟩] ++ more, last, (Trace.nil.snoc hs).append htrace, ?_, hresolved⟩
  intro m hm
  rcases List.mem_append.mp hm with hm | hm
  · rw [List.mem_singleton.mp hm]
    exact ha
  · exact hat m hm

section

-- What can be done once the one who is to be answered next has got the answer.
variable (h : Trace step initial past r)
  (hnext : ∀ past' r', Trace step initial past' r' →
    (answers c past').length = (answers c past).length + 1 → started c past' = started c past →
    r'.statusOf k = some .resolved → CanResolve reply c n r')

include h hnext

theorem canResolve_of_fetching (hk : r.lookups[k]? = some (⟨u, some c⟩, .fetching)) :
    CanResolve reply c n r := by
  have hs : r.step (.answer k (reply k)) = _ := answer_step hk (reply k)
  refine (hnext _ _ (h.snoc hs) ?_ ?_ ?_).of_step hs ⟨cellOf_eq hk, rfl⟩
  · rw [answers_concat]
    simp [answeredBy, cellOf_eq hk]
  · rw [started_concat]
    exact List.append_nil _
  · exact (statusOf_setStatus (r := { r with cache := _ }) hk k).trans (if_pos rfl)

theorem canResolve_of_first (hk : r.lookups[k]? = some (⟨u, some c⟩, .inLine))
    (hv : (r.cache.cell c).value = none) (hl : (r.cache.cell c).line.head? = some k) :
    CanResolve reply c n r := by
  have hs := step_ask hk hv hl
  refine (canResolve_of_fetching (h.snoc hs) (fun past' r' htrace hanswers hstarted => ?_)
    ((lookups_setStatus hk k).trans (if_pos rfl))).of_step hs (cellOf_eq hk)
  -- a request is neither an answer nor a beginning
  rw [answers_concat] at hanswers
  rw [started_concat] at hstarted
  exact hnext past' r' htrace (hanswers.trans (by simp [answeredBy]))
    (hstarted.trans (List.append_nil _))

/-- The first in line gets an answer, and if the cell is filled everyone in line can be resolved. -/
theorem canResolve_of_head (hk : (started c past)[(answers c past).length]? = some k)
    (hi : (answers c past).length ≤ i) (hn : (started c past)[i]? = some n) :
    CanResolve reply c n r := by
  have ho := orderly_of_trace h c
  cases ho.stage with
  | filled settings cell last all later =>
    rcases later i n hi hn with hs | ⟨hs, -⟩
    · obtain ⟨u, hlookup⟩ := ho.exists_lookup hn hs
      have hdone : CanResolve reply c n (r.setStatus n .resolved) :=
        .done ((statusOf_setStatus hlookup n).trans (if_pos rfl))
      exact hdone.of_step (step_ready hlookup (by rw [cell])) (cellOf_eq hlookup)
    · exact .done hs
  | asking failed cell waiting =>
    have hs := waiting _ k (Nat.le_refl _) hk
    split_ifs at hs
    · obtain ⟨u, hlookup⟩ := ho.exists_lookup hk hs
      exact canResolve_of_fetching h hnext hlookup
    · obtain ⟨u, hlookup⟩ := ho.exists_lookup hk hs
      refine canResolve_of_first h hnext hlookup (by rw [cell]) ?_
      rw [cell, List.head?_drop]
      exact hk

end

/-- Whoever stands in line can be resolved. The induction is on the number of those in front. -/
theorem canResolve_of_line (h : Trace step initial past r)
    (hn : (started c past)[(answers c past).length + d]? = some n) : CanResolve reply c n r := by
  induction d generalizing past r with
  | zero => exact canResolve_of_head h (fun _ _ _ _ _ hs => .done hs) hn (Nat.le_refl _) hn
  | succ d ih =>
    have hlt := (List.getElem?_eq_some_iff.mp hn).1
    have hk := List.getElem?_eq_getElem (l := started c past) (i := (answers c past).length)
      (by omega)
    refine canResolve_of_head h (fun past' r' htrace hanswers hstarted _ => ?_) hk
      (Nat.le_add_right ..) hn
    apply ih htrace
    rw [hanswers, hstarted, Nat.add_right_comm]
    exact hn

theorem canResolve_of_started (h : Trace step initial past r) (hn : n ∈ started c past) :
    CanResolve reply c n r := by
  obtain ⟨i, hi⟩ := List.mem_iff_getElem?.mp hn
  by_cases hlt : i < (answers c past).length
  · have ho := orderly_of_trace h c
    have hx := List.getElem?_eq_getElem hlt
    have hplace := ho.answer_place hx
    rw [show (ledger c past).started[i]? = some n from hi] at hplace
    cases hplace
    exact .done (ho.served _ (List.mem_of_getElem? hx)).1
  · obtain ⟨d, rfl⟩ := Nat.exists_eq_add_of_le (Nat.not_lt.mp hlt)
    exact canResolve_of_line h hi

/-- Every lookup with a cell can be resolved by steps at this cell, whatever the editor answers. -/
theorem canResolve (h : Trace step initial past r) (hc : r.cellOf n = some c)
    (reply : ℕ → Except SettingsError Settings) : CanResolve reply c n r := by
  by_cases hclaimed : r.statusOf n = some .claimed
  · obtain ⟨u, hn⟩ := exists_of_cellOf hc hclaimed
    have hs := step_join hn
    refine (canResolve_of_started (h.snoc hs) ?_).of_step hs hc
    rw [started_concat]
    simp [startedBy, hc]
  · exact canResolve_of_started h (((orderly_of_trace h c).begun n).mpr ⟨hc, hclaimed⟩)

/-! ## Completely, and nowhere else -/

/-- What holds of a lookup of a document and its cell after a trace. -/
structure Claim (past : List (Moment Resolver Action Effect)) (r : Resolver) (i n : ℕ) (u : Uri)
    (c : ℕ) : Prop where
  /-- It keeps its cell. -/
  kept : r.cellOf n = some c
  /-- What it has got is what became of the answer to a request for this cell. -/
  sourced : ∀ settings ∈ returned n past, ∃ asker answer j l, j < l ∧ AsksAt past j asker c ∧
    AnsweredAt past l asker c answer ∧ settings = Settings.resolved answer
  /-- If the entry was forgotten before the lookup was made, no request for this cell was made
  before that. -/
  renewed : ∀ k j asker, k < i → ForgottenAt past k u → AsksAt past j asker c → k < j
  /-- The lookups from before that have other cells. -/
  parted : ∀ j k earlier c', j < k → k < i → ForgottenAt past k u →
    ClaimedAt past j earlier u c' → c' ≠ c
  /-- Whatever the answers to requests will be, it has got its settings, or gets them by steps of
  the lookups at this cell alone. -/
  resolves : ∀ reply, ∃ more r', Trace step r more r' ∧ (∀ m ∈ more, AtCell c reply m) ∧
    ∃ settings, returned n (past ++ more) = [settings]

theorem claim_of_claimedAt (h : Trace step initial past r) (hi : ClaimedAt past i n u c) :
    Claim past r i n u c where
  kept := cellOf_of_claimedAt h hi
  sourced _ hs := returned_sourced h (cellOf_of_claimedAt h hi) hs
  renewed _ _ _ hki hk hj := forgottenAt_lt_of_asksAt h hk hi hki hj
  parted _ _ _ _ hjk hki hk hj := claimedAt_ne h hk hi hki hjk hj
  resolves reply := by
    have hc := cellOf_of_claimedAt h hi
    obtain ⟨more, r', htrace, hat, hresolved⟩ := canResolve h hc reply
    obtain ⟨x, -, hreturned⟩ :=
      returned_of_resolved (h.append htrace) (cellOf_kept htrace hc) hresolved
    exact ⟨more, r', htrace, hat, _, hreturned⟩

/-- **Entries are forgotten completely, and no others.** However the steps of lookups, answers and
changes of the cache interleave: a lookup with a cell keeps it, is resolved at it, and gets nothing
from a request that was made before its document was last forgotten. To forget the entry of one
document changes nothing for another, at once or later: its lookups share the same cells, with the
same values and the same lookups in line, they come equally far, and they make the same requests and
get the same settings, whatever is done from there on. -/
theorem invalidation_complete_and_local (h : Trace step initial past r) :
    (∀ i n u c, ClaimedAt past i n u c → Claim past r i n u c) ∧
      ∀ u v, v ≠ u → ∀ actions,
        Alike v (replay step r actions).2 (replay step (r.invalidate u).1 actions).2 ∧
          concerning v (replay step r actions).1 =
            concerning v (replay step (r.invalidate u).1 actions).1 := by
  refine ⟨fun i n u c hi => claim_of_claimedAt h hi, fun u v hvu actions => ?_⟩
  have hforgotten := h.snoc (a := .invalidate u) rfl
  exact alike_replay h hforgotten (alike_invalidate hvu r) actions

/-- A local file. -/
def localFile (path : String) : Uri := ⟨"file", some ⟨"", .empty, none⟩, path, none, none⟩

/-- Two documents, each with a request under way, of which the first is forgotten. Its next lookup
asks anew and gets the new answer, although the old one comes first. -/
def crossed : List (Moment Resolver Action Effect) × Resolver :=
  replay step initial
    [.setPerResource true, .lookup (localFile "/a"), .lookup (localFile "/b"), .resolve 0,
      .advance 0, .resolve 1, .advance 1, .invalidate (localFile "/a"), .lookup (localFile "/a"),
      .resolve 2, .answer 0 (.ok ⟨60, 1000⟩), .advance 2, .answer 2 (.ok ⟨120, 1000⟩)]

theorem invalidation_complete_and_local_crossed :
    AsksAt crossed.1 4 0 0 ∧ ForgottenAt crossed.1 7 (localFile "/a") ∧
      ClaimedAt crossed.1 8 2 (localFile "/a") 2 ∧
      AnsweredAt crossed.1 10 0 0 (.ok ⟨60, 1000⟩) ∧ returned 0 crossed.1 = [⟨60, 1000⟩] ∧
      returned 2 crossed.1 = [⟨120, 1000⟩] ∧ Claim crossed.1 crossed.2 8 2 (localFile "/a") 2 ∧
      crossed.2.statusOf 1 = some .fetching ∧
      Alike (localFile "/b") (replay step crossed.2 [.answer 1 (.ok ⟨99, 9⟩)]).2
        (replay step (crossed.2.invalidate (localFile "/a")).1 [.answer 1 (.ok ⟨99, 9⟩)]).2 := by
  have h : Trace step initial crossed.1 crossed.2 := replay_trace _ _ _
  have hasks : AsksAt crossed.1 4 0 0 := by
    apply happensAt_of_elim
    cbv
    exact ⟨⟨_, List.mem_singleton_self _⟩, trivial⟩
  have hclaimed : ClaimedAt crossed.1 8 2 (localFile "/a") 2 := happensAt_of_elim (by cbv)
  refine ⟨hasks, happensAt_of_elim (by cbv), hclaimed, happensAt_of_elim (by cbv), by cbv, by cbv,
    ?_, by cbv, ?_⟩
  · exact (invalidation_complete_and_local h).1 8 2 _ 2 hclaimed
  · exact ((invalidation_complete_and_local h).2 (localFile "/a") (localFile "/b") (by decide) _).1

end LineLint.Resolver
