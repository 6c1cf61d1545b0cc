import LineLint.Proofs.Settings.Line

/-!
# One request at a time

Lookups that share a cell share its requests to the editor, however the steps of lookups interleave
with each other and with everything else that happens to the cache.

* `ledger` — what has happened at a cell in a trace.
* `SingleFlight` — what holds of the lookups at a cell after a trace.

Results:

* `Orderly.next`, `orderly_of_trace`: the line at every cell is in order.
* `retried_of_trace`: a request is made only after all others have failed.
* `Orderly.filled`, `Orderly.failing`: who gets what.
* `single_flight`: lookups share cells, and cells share requests.
-/

namespace LineLint.Resolver

variable {r r' : Resolver} {a : Action} {effects : List Effect} {n c i j : ℕ} {u : Uri}
  {past : List (Moment Resolver Action Effect)} {m : Moment Resolver Action Effect}
  {settings : Settings} {l : Ledger} {x : ℕ × Except SettingsError Settings}

/-! ## The ledger of a trace -/

/-- What has happened at a cell in a trace. -/
def ledger (c : ℕ) (past : List (Moment Resolver Action Effect)) : Ledger :=
  ⟨started c past, fetches c past, answers c past, fun n => returned n past⟩

theorem ledger_concat : ledger c (past ++ [m]) =
    ⟨started c past ++ (startedBy c m).toList,
      fetches c past ++ m.effects.filterMap (fetchedBy c m.before),
      answers c past ++ (answeredBy c m).toList,
      fun n => returned n past ++ m.effects.filterMap (returnedBy n)⟩ := by
  simp [ledger]

/-- A step at which nothing happens at a cell but that lookups may get settings. -/
theorem ledger_quiet (hs : startedBy c m = none)
    (hf : m.effects.filterMap (fetchedBy c m.before) = []) (ha : answeredBy c m = none) :
    ledger c (past ++ [m]) = { ledger c past with
      returned := fun n => returned n past ++ m.effects.filterMap (returnedBy n) } := by
  rw [ledger_concat, hs, hf, ha]
  simp [ledger]

theorem ledger_join (hn : r.cellOf n = some c) : ledger c (past ++ [⟨r, .resolve n, [], r'⟩]) =
    { ledger c past with started := (ledger c past).started ++ [n] } := by
  rw [ledger_concat]
  simp [startedBy, answeredBy, hn, ledger]

theorem ledger_take : ledger c (past ++ [⟨r, .advance n, [.resolved n settings], r'⟩]) =
    (ledger c past).grant n settings := by
  rw [ledger_concat]
  simp [startedBy, fetchedBy, answeredBy, ledger, Ledger.grant]

theorem ledger_ask (hn : r.cellOf n = some c) :
    ledger c (past ++ [⟨r, .advance n, [.fetch n u], r'⟩]) =
      { ledger c past with fetches := (ledger c past).fetches ++ [n] } := by
  rw [ledger_concat]
  simp [startedBy, answeredBy, List.filterMap_cons, fetchedBy, returnedBy, hn, ledger]

theorem ledger_settle (hn : r.cellOf n = some c) (answer : Except SettingsError Settings) :
    ledger c (past ++ [⟨r, .answer n answer, answerEffects n u answer, r'⟩]) =
      (ledger c past).receive n answer := by
  rw [ledger_concat]
  simp [startedBy, answeredBy, hn, ledger, Ledger.receive, Ledger.grant]

theorem orderly_nil (c : ℕ) : Orderly (ledger c []) initial c where
  distinct := List.nodup_nil
  begun := by
    intro n
    constructor
    · nofun
    · rintro ⟨h, -⟩
      cases h
  fetched := List.nil_prefix
  answered := List.nil_prefix
  single := Nat.zero_le _
  served := nofun
  stage := .asking nofun rfl nofun

/-- One step keeps a cell in order. -/
theorem Orderly.next (h : Orderly (ledger c past) r c) (htrace : Trace step initial past r)
    (hs : r.step a = some (r', effects)) :
    Orderly (ledger c (past ++ [⟨r, a, effects, r'⟩])) r' c := by
  have hrange := inRange_of_trace htrace
  have hother : ∀ {i : ℕ}, ¬i = c → some i ≠ some c := fun hi hic => hi (Option.some.inj hic)
  have hnothing : ∀ {n : ℕ}, r.statusOf n ≠ some .resolved → returned n past = [] :=
    fun hn => returned_eq_nil htrace hn
  cases moves_of_step hs with
  | setPerResource =>
    rw [ledger_quiet rfl rfl rfl]
    exact h.elsewhere rfl (fun _ => Iff.rfl) fun _ _ => ⟨rfl, List.append_nil _⟩
  | setGlobal =>
    rw [ledger_quiet rfl rfl rfl]
    exact h.elsewhere rfl (fun _ => Iff.rfl) fun _ _ => ⟨rfl, List.append_nil _⟩
  | invalidate u =>
    rw [ledger_quiet rfl (by dsimp only; split_ifs <;> rfl) rfl]
    refine h.elsewhere rfl (fun _ => Iff.rfl) fun n _ => ⟨rfl, ?_⟩
    dsimp only
    split_ifs <;> exact List.append_nil _
  | invalidateAll =>
    rw [ledger_quiet rfl rfl rfl]
    exact h.elsewhere rfl (fun _ => Iff.rfl) fun _ _ => ⟨rfl, List.append_nil _⟩
  | lookup u =>
    rw [ledger_quiet rfl rfl rfl]
    exact h.lookup u fun _ => List.append_nil _
  | resolveGlobal n u hn =>
    rw [ledger_quiet (by simp [startedBy, cellOf_eq hn]) rfl rfl]
    refine h.other hn rfl (Option.some_ne_none c).symm rfl fun k hk => ?_
    simp [returnedBy, hk, ledger]
  | resolveCell n u i hn =>
    have hi := hrange.lookups n i (cellOf_eq hn)
    by_cases hic : i = c
    · subst hic
      rw [ledger_join (cellOf_eq hn)]
      exact h.join hn hi rfl
    · rw [ledger_quiet (by simp [startedBy, cellOf_eq hn, hic]) rfl rfl]
      refine h.other hn rfl (hother hic) ?_ fun _ _ => List.append_nil _
      rw [Cache.cell_join hi, if_neg fun hboth => hic hboth.1.symm]
  | advanceReady n u i settings hn hv =>
    by_cases hic : i = c
    · subst hic
      rw [ledger_take]
      exact h.take hn (hnothing (by rw [statusOf_eq hn]; decide)) hv rfl
    · rw [ledger_quiet rfl rfl rfl]
      refine h.other hn rfl (hother hic) rfl fun k hk => ?_
      simp [returnedBy, hk, ledger]
  | advanceAsk n u i hn hv hl =>
    by_cases hic : i = c
    · subst hic
      rw [ledger_ask (cellOf_eq hn)]
      exact h.ask hn hv hl rfl
    · rw [ledger_quiet rfl (by simp [fetchedBy, cellOf_eq hn, hic]) rfl]
      exact h.other hn rfl (hother hic) rfl fun _ _ => List.append_nil _
  | answer n u i answer hn =>
    have hi := hrange.lookups n i (cellOf_eq hn)
    by_cases hic : i = c
    · subst hic
      rw [ledger_settle (cellOf_eq hn)]
      exact h.settle hn (hnothing (by rw [statusOf_eq hn]; decide)) hi rfl
    · rw [ledger_quiet rfl (fetchedBy_answerEffects c r n u answer)
        (by simp [answeredBy, cellOf_eq hn, hic])]
      refine h.other hn rfl (hother hic) ?_ fun k hk => ?_
      · rw [Cache.cell_settle hi, if_neg fun hci => hic hci.symm]
      · dsimp only
        rw [returnedBy_answerEffects, if_neg hk]
        exact List.append_nil _

/-- Every cell is in order along every trace. -/
theorem orderly_of_trace (h : Trace step initial past r) (c : ℕ) : Orderly (ledger c past) r c := by
  induction h with
  | nil => exact orderly_nil c
  | snoc h hs ih => exact ih.next h hs

/-! ## What it means for lookups -/

/-- What holds of the lookups at a cell after a trace. The lookups are numbered in the order in
which they were begun, and so are the answers to their requests. -/
structure SingleFlight (past : List (Moment Resolver Action Effect)) (r : Resolver) (c : ℕ) :
    Prop where
  /-- No lookup is begun twice. -/
  distinct : (started c past).Nodup
  /-- The requests are made by the lookups in order. -/
  fetched : fetches c past <+: started c past
  /-- The answers are to the requests in order. -/
  answered : (answers c past).map Prod.fst <+: fetches c past
  /-- At most one request is under way. -/
  single : (fetches c past).length ≤ (answers c past).length + 1
  /-- A request is made only when all requests before it have been answered, and have failed. -/
  retried : ∀ i m, past[i]? = some m → m.effects.filterMap (fetchedBy c m.before) ≠ [] →
    (fetches c (past.take i)).length = (answers c (past.take i)).length ∧
      ∀ x ∈ answers c (past.take i), Fails x.2
  /-- If the first usable answer is that of number `j`, no request is made after it. The lookups
  before it have got the defaults; it has got the answer; and those after it have got the answer
  too, or can get it now. -/
  filled : ∀ j x settings, (answers c past)[j]? = some x → Usable x.2 settings →
    (∀ i y, i < j → (answers c past)[i]? = some y → Fails y.2) →
    (fetches c past).length = j + 1 ∧ ∀ i n, (started c past)[i]? = some n →
      (i < j → returned n past = [Settings.standard]) ∧
      (i = j → returned n past = [settings]) ∧
      (j < i → returned n past = [settings] ∨ returned n past = [] ∧
        ∃ r', r.step (.advance n) = some (r', [.resolved n settings]))
  /-- If no answer is usable, the lookups that were answered have got the defaults and no other has
  got anything. The next one can make its request now, or has made it and gets what becomes of the
  answer.
  -/
  failing : (∀ x ∈ answers c past, Fails x.2) → ∀ i n, (started c past)[i]? = some n →
    (i < (answers c past).length → returned n past = [Settings.standard]) ∧
    ((answers c past).length ≤ i → returned n past = []) ∧
    (i = (answers c past).length →
      (i = (fetches c past).length → ∃ r' u, r.step (.advance n) = some (r', [.fetch n u])) ∧
      (i < (fetches c past).length → ∀ answer, ∃ r' effects,
        r.step (.answer n answer) = some (r', effects) ∧
          .resolved n (Settings.resolved answer) ∈ effects))

/-- The first step of a lookup without a cell. -/
theorem step_global (hn : r.lookups[n]? = some (⟨u, none⟩, .claimed)) :
    r.step (.resolve n) = some (r.setStatus n .resolved, [.resolved n r.cache.global]) := by
  show r.resolve n = _
  simp only [resolve, hn]

/-- The first step of a lookup with a cell. -/
theorem step_join (hn : r.lookups[n]? = some (⟨u, some c⟩, .claimed)) :
    r.step (.resolve n) = some ({ r with cache := r.cache.join c n }.setStatus n .inLine, []) := by
  show r.resolve n = _
  simp only [resolve, hn]

/-- The step of a lookup in line at a filled cell. -/
theorem step_ready (hn : r.lookups[n]? = some (⟨u, some c⟩, .inLine))
    (hv : (r.cache.cell c).value = some settings) :
    r.step (.advance n) = some (r.setStatus n .resolved, [.resolved n settings]) := by
  show r.advance n = _
  simp only [advance, hn, Cache.turn_eq_ready_iff.mpr hv]

/-- The step of the first in line at an empty cell. -/
theorem step_ask (hn : r.lookups[n]? = some (⟨u, some c⟩, .inLine))
    (hv : (r.cache.cell c).value = none) (hl : (r.cache.cell c).line.head? = some n) :
    r.step (.advance n) = some (r.setStatus n .fetching, [.fetch n u]) := by
  show r.advance n = _
  simp only [advance, hn, Cache.turn_eq_ask_iff.mpr ⟨hv, hl⟩]

/-- Only the first in line makes a request. -/
theorem Moves.fetches_cases (hm : Moves r a r' effects)
    (hf : effects.filterMap (fetchedBy c r) ≠ []) :
    ∃ n u, r.lookups[n]? = some (⟨u, some c⟩, .inLine) ∧ (r.cache.cell c).value = none ∧
      (r.cache.cell c).line.head? = some n := by
  cases hm with
  | advanceAsk n u i hn hv hl =>
    by_cases hic : i = c
    · subst hic
      exact ⟨n, u, hn, hv, hl⟩
    · simp [fetchedBy, cellOf_eq hn, hic] at hf
  | answer n u _ answer => exact absurd (fetchedBy_answerEffects c r n u answer) hf
  | invalidate u => exact absurd (by split_ifs <;> rfl) hf
  | _ => exact absurd rfl hf

theorem retried_of_trace (h : Trace step initial past r) (hm : past[i]? = some m)
    (hf : m.effects.filterMap (fetchedBy c m.before) ≠ []) :
    (fetches c (past.take i)).length = (answers c (past.take i)).length ∧
      ∀ x ∈ answers c (past.take i), Fails x.2 := by
  obtain ⟨n, u, hn, hv, hl⟩ := (moves_of_step (h.step_at hm)).fetches_cases hf
  obtain ⟨failed, -, -, hnone, -⟩ := (orderly_of_trace (h.take_at hm) c).first_in_line hn hv hl
  exact ⟨hnone, failed⟩

theorem Orderly.filled (h : Orderly (ledger c past) r c) (htrace : Trace step initial past r)
    (hx : (answers c past)[j]? = some x) (hu : Usable x.2 settings)
    (hfirst : ∀ i y, i < j → (answers c past)[i]? = some y → Fails y.2) :
    (fetches c past).length = j + 1 ∧ ∀ i n, (started c past)[i]? = some n →
      (i < j → returned n past = [Settings.standard]) ∧
      (i = j → returned n past = [settings]) ∧
      (j < i → returned n past = [settings] ∨ returned n past = [] ∧
        ∃ r', r.step (.advance n) = some (r', [.resolved n settings])) := by
  obtain ⟨cell, hlen, hall, hlater⟩ := h.filled_of_usable hx hu
  refine ⟨hall, fun i n hn => ⟨fun hi => ?_, fun hi => ?_, fun hi => ?_⟩⟩
  · exact h.returned_failed (fun y hy => hfirst i y hi hy) (by omega) hn
  · subst hi
    exact (h.returned_answer hx hn).trans (by rw [hu.resolved_eq])
  · rcases hlater i n hi hn with hs | ⟨-, hret⟩
    · obtain ⟨u, hlookup⟩ := h.exists_lookup hn hs
      refine Or.inr ⟨returned_eq_nil htrace (by rw [hs]; nofun), _, step_ready hlookup ?_⟩
      rw [cell]
    · exact Or.inl hret

theorem Orderly.failing (h : Orderly (ledger c past) r c) (htrace : Trace step initial past r)
    (hfails : ∀ x ∈ answers c past, Fails x.2) (hn : (started c past)[i]? = some n) :
    (i < (answers c past).length → returned n past = [Settings.standard]) ∧
    ((answers c past).length ≤ i → returned n past = []) ∧
    (i = (answers c past).length →
      (i = (fetches c past).length → ∃ r' u, r.step (.advance n) = some (r', [.fetch n u])) ∧
      (i < (fetches c past).length → ∀ answer, ∃ r' effects,
        r.step (.answer n answer) = some (r', effects) ∧
          .resolved n (Settings.resolved answer) ∈ effects)) := by
  cases h.stage with
  | filled value cell last all later =>
    obtain ⟨earlier, y, hans, hy, -⟩ := last
    have hmem : y ∈ (ledger c past).answers := by
      rw [hans]
      exact List.mem_append_right _ (List.mem_singleton_self y)
    exact absurd hy (hfails y hmem value)
  | asking failed cell waiting =>
    refine ⟨fun hi => ?_, fun hi => ?_, fun hi => ⟨fun hasked => ?_, fun hasked answer => ?_⟩⟩
    · exact h.returned_failed (fun y hy => hfails y (List.mem_of_getElem? hy)) hi hn
    · apply returned_eq_nil htrace
      rw [waiting i n hi hn]
      split_ifs <;> nofun
    · have hs := (waiting i n (Nat.le_of_eq hi.symm) hn).trans
        (congrArg some (if_neg (Nat.not_lt.mpr (Nat.le_of_eq hasked.symm))))
      obtain ⟨u, hlookup⟩ := h.exists_lookup hn hs
      refine ⟨_, u, step_ask hlookup (by rw [cell]) ?_⟩
      rw [cell, List.head?_drop]
      exact hi ▸ hn
    · have hs := (waiting i n (Nat.le_of_eq hi.symm) hn).trans (congrArg some (if_pos hasked))
      obtain ⟨u, hlookup⟩ := h.exists_lookup hn hs
      refine ⟨_, _, answer_step hlookup answer, ?_⟩
      exact List.mem_append_right _ (List.mem_singleton_self _)

/-- **One request at a time.** However the steps of lookups, invalidations and changes of mode and
global value interleave: lookups of a document share a cell as long as its entry is not forgotten
between them, and the lookups that share a cell make their requests one at a time, in order, until
one answer is usable; that answer serves all lookups from there on. -/
theorem single_flight (h : Trace step initial past r) :
    (∀ u i j c c', i < j → LookedUpAt past i u c → LookedUpAt past j u c' →
      (∀ k, i < k → k < j → ¬ForgottenAt past k u) → c = c') ∧
      ∀ c, SingleFlight past r c := by
  refine ⟨fun u i j c c' hij hi hj hkept => lookups_share h hij hi hj hkept, fun c => ?_⟩
  have ho := orderly_of_trace h c
  exact ⟨ho.distinct, ho.fetched, ho.answered, ho.single,
    fun i m hm hf => retried_of_trace h hm hf,
    fun j x settings hx hu hfirst => ho.filled h hx hu hfirst,
    fun hfails i n hn => ho.failing h hfails hn⟩

/-- Four lookups of a document. The first request fails, the second brings a limit of zero, after
the entry was forgotten, and the third is answered. The fourth lookup comes after that. -/
def thirdTime : List (Moment Resolver Action Effect) × Resolver :=
  let u : Uri := ⟨"file", some ⟨"", .empty, none⟩, "/a", none, none⟩
  replay step initial
    [.setPerResource true, .lookup u, .lookup u, .lookup u, .lookup u, .resolve 0, .resolve 1,
      .advance 0, .resolve 2, .answer 0 (.error .missing), .advance 1, .invalidate u,
      .answer 1 (.ok ⟨0, 1000⟩), .advance 2, .answer 2 (.ok ⟨120, 1000⟩), .resolve 3, .advance 3]

theorem single_flight_thirdTime :
    started 0 thirdTime.1 = [0, 1, 2, 3] ∧ fetches 0 thirdTime.1 = [0, 1, 2] ∧
      returned 0 thirdTime.1 = [Settings.standard] ∧ returned 1 thirdTime.1 = [Settings.standard] ∧
      returned 2 thirdTime.1 = [⟨120, 1000⟩] ∧ returned 3 thirdTime.1 = [⟨120, 1000⟩] ∧
      SingleFlight thirdTime.1 thirdTime.2 0 := by
  have h : Trace step initial thirdTime.1 thirdTime.2 := replay_trace _ _ _
  refine ⟨by decide, by decide, by decide, by decide, by decide, by decide, ?_⟩
  exact (single_flight h).2 0

end LineLint.Resolver
