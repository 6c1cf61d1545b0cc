import LineLint.Proofs.Settings.Resolver
import Mathlib.Data.List.Nodup

/-!
# The line at a cell

Lookups that share a cell stand in line at it in the order in which they are begun, and the first
asks the editor. If the answer is usable, it fills the cell and serves everyone else, now and later;
otherwise the asker gets the defaults and the next in line asks.

* `Usable`, `Fails` — what an answer is worth.
* `Ledger` — what has happened at a cell.
* `Stage` — a cell is being asked for, or filled.
* `Orderly` — how the ledger, the cell and the lookups belong together.

Results:

* `Orderly.elsewhere`, `Orderly.lookup`, `Orderly.other`: what happens at other cells does not
  matter.
* `Orderly.join`, `Orderly.take`, `Orderly.ask`, `Orderly.settle`: the steps at a cell.
* `Orderly.first_in_line`, `Orderly.in_flight`: where the one who can ask stands, and the one who
  has asked.
-/

namespace LineLint.Resolver

variable {r r' : Resolver} {n k c i j : ℕ} {u : Uri} {settings : Settings}
  {answer : Except SettingsError Settings} {x : ℕ × Except SettingsError Settings}

/-! ## Answers -/

/-- An answer gives settings: they were found, and allow lines of some length. -/
def Usable (answer : Except SettingsError Settings) (settings : Settings) : Prop :=
  answer = .ok settings ∧ 0 < settings.maxLength

/-- An answer gives no settings. -/
def Fails (answer : Except SettingsError Settings) : Prop := ∀ settings, ¬Usable answer settings

theorem bind_validated_eq_ok_iff :
    answer.bind Settings.validated = .ok settings ↔ Usable answer settings := by
  unfold Usable
  cases answer with
  | error e => simp [Except.bind]
  | ok found =>
    show found.validated = _ ↔ _
    unfold Settings.validated
    rw [UInt32.pos_iff_ne_zero]
    by_cases h0 : found.maxLength = 0
    · rw [if_pos h0]
      constructor
      · nofun
      · rintro ⟨h, hne⟩
        cases h
        exact absurd h0 hne
    · rw [if_neg h0]
      constructor
      · intro h
        cases h
        exact ⟨rfl, h0⟩
      · rintro ⟨h, -⟩
        cases h
        rfl

theorem Usable.resolved_eq (h : Usable answer settings) : Settings.resolved answer = settings := by
  rw [Settings.resolved, bind_validated_eq_ok_iff.mpr h]

theorem Fails.bind_validated_eq (h : Fails answer) :
    ∃ e, answer.bind Settings.validated = .error e := by
  cases hv : answer.bind Settings.validated with
  | ok settings => exact absurd (bind_validated_eq_ok_iff.mp hv) (h settings)
  | error e => exact ⟨e, rfl⟩

theorem Fails.resolved_eq (h : Fails answer) : Settings.resolved answer = Settings.standard := by
  obtain ⟨e, he⟩ := h.bind_validated_eq
  rw [Settings.resolved, he]

theorem usable_or_fails (answer : Except SettingsError Settings) :
    (∃ settings, Usable answer settings) ∨ Fails answer := by
  by_cases h : ∃ settings, Usable answer settings
  · exact Or.inl h
  · exact Or.inr fun settings hs => h ⟨settings, hs⟩

/-! ## The invariant of a cell -/

/-- What has happened at a cell, in order: the lookups that were begun there, those that have made
requests, and the answers with the lookups that have got them. Besides, what lookups have got. -/
@[ext]
structure Ledger where
  started : List ℕ
  fetches : List ℕ
  answers : List (ℕ × Except SettingsError Settings)
  returned : ℕ → List Settings

/-- A lookup gets settings. -/
def Ledger.grant (l : Ledger) (n : ℕ) (settings : Settings) : Ledger :=
  { l with returned := fun k => l.returned k ++ if n = k then [settings] else [] }

/-- A lookup gets what becomes of the answer to its request. -/
def Ledger.receive (l : Ledger) (n : ℕ) (answer : Except SettingsError Settings) : Ledger :=
  { l.grant n (Settings.resolved answer) with answers := l.answers ++ [(n, answer)] }

variable {l : Ledger}

theorem Ledger.grant_self (hn : l.returned n = []) :
    (l.grant n settings).returned n = [settings] := by
  simp [grant, hn]

theorem Ledger.grant_other (hk : ¬n = k) : (l.grant n settings).returned k = l.returned k := by
  simp [grant, hk]

/-- A cell is being asked for, and all answers so far have failed; the line holds those who are
still to be served, of whom only the first can have asked. Or it was filled by the last answer, and
those who come later are served without a request. -/
inductive Stage (l : Ledger) (r : Resolver) (c : ℕ) : Prop
  | asking (failed : ∀ x ∈ l.answers, Fails x.2)
      (cell : r.cache.cell c = ⟨none, l.started.drop l.answers.length⟩)
      (waiting : ∀ i n, l.answers.length ≤ i → l.started[i]? = some n →
        r.statusOf n = some (if i < l.fetches.length then .fetching else .inLine))
  | filled (settings : Settings) (cell : r.cache.cell c = ⟨some settings, []⟩)
      (last : ∃ earlier x, l.answers = earlier ++ [x] ∧ Usable x.2 settings ∧
        ∀ y ∈ earlier, Fails y.2)
      (all : l.fetches.length = l.answers.length)
      (later : ∀ i n, l.answers.length ≤ i → l.started[i]? = some n →
        r.statusOf n = some .inLine ∨ r.statusOf n = some .resolved ∧ l.returned n = [settings])

/-- How the ledger, the cell and the lookups belong together. -/
structure Orderly (l : Ledger) (r : Resolver) (c : ℕ) : Prop where
  distinct : l.started.Nodup
  begun : ∀ n, n ∈ l.started ↔ r.cellOf n = some c ∧ r.statusOf n ≠ some .claimed
  fetched : l.fetches <+: l.started
  answered : l.answers.map Prod.fst <+: l.fetches
  single : l.fetches.length ≤ l.answers.length + 1
  served : ∀ x ∈ l.answers,
    r.statusOf x.1 = some .resolved ∧ l.returned x.1 = [Settings.resolved x.2]
  stage : Stage l r c

theorem Orderly.answers_le (h : Orderly l r c) : l.answers.length ≤ l.fetches.length := by
  have := h.answered.length_le
  rwa [List.length_map] at this

/-- Whoever has got an answer was begun. -/
theorem Orderly.mem_started (h : Orderly l r c) (hx : x ∈ l.answers) : x.1 ∈ l.started :=
  List.IsPrefix.mem (List.mem_map_of_mem hx) (h.answered.trans h.fetched)

/-- Answers come in the order in which lookups are begun. -/
theorem Orderly.answer_place (h : Orderly l r c) (hx : l.answers[i]? = some x) :
    l.started[i]? = some x.1 := by
  obtain ⟨more, hmore⟩ := h.answered.trans h.fetched
  have hlt := (List.getElem?_eq_some_iff.mp hx).1
  rw [← hmore, List.getElem?_append_left (by rwa [List.length_map]), List.getElem?_map, hx]
  rfl

theorem Orderly.place_unique (h : Orderly l r c) (hi : l.started[i]? = some n)
    (hj : l.started[j]? = some n) : i = j := by
  have hlt := (List.getElem?_eq_some_iff.mp hi).1
  exact (List.getElem?_inj hlt h.distinct).mp (hi.trans hj.symm)

/-- A lookup that was begun, with its cell. -/
theorem Orderly.exists_lookup (h : Orderly l r c) {status : LookupStatus}
    (hn : l.started[i]? = some n) (hs : r.statusOf n = some status) :
    ∃ u, r.lookups[n]? = some (⟨u, some c⟩, status) :=
  exists_of_cellOf ((h.begun n).mp (List.mem_of_getElem? hn)).1 hs

/-! ## Steps elsewhere -/

/-- What happens at other cells does not matter. -/
theorem Orderly.elsewhere {got : ℕ → List Settings} (h : Orderly l r c)
    (hcell : r'.cache.cell c = r.cache.cell c)
    (hbegun : ∀ n, r'.cellOf n = some c ∧ r'.statusOf n ≠ some .claimed ↔
      r.cellOf n = some c ∧ r.statusOf n ≠ some .claimed)
    (hsame : ∀ n ∈ l.started, r'.statusOf n = r.statusOf n ∧ got n = l.returned n) :
    Orderly { l with returned := got } r' c := by
  refine ⟨h.distinct, ?_, h.fetched, h.answered, h.single, ?_, ?_⟩
  · intro n
    rw [hbegun n]
    exact h.begun n
  · intro x hx
    obtain ⟨hstatus, hgot⟩ := hsame _ (h.mem_started hx)
    rw [hstatus]
    show _ ∧ got x.1 = _
    rw [hgot]
    exact h.served x hx
  · cases h.stage with
    | asking failed cell waiting =>
      refine .asking failed (hcell.trans cell) fun i n hi hn => ?_
      rw [(hsame n (List.mem_of_getElem? hn)).1]
      exact waiting i n hi hn
    | filled settings cell last all later =>
      refine .filled settings (hcell.trans cell) last all fun i n hi hn => ?_
      obtain ⟨hstatus, hgot⟩ := hsame n (List.mem_of_getElem? hn)
      rw [hstatus]
      show _ ∨ _ ∧ got n = _
      rw [hgot]
      exact later i n hi hn

/-- A lookup that is made is not begun by that. -/
theorem Orderly.lookup {got : ℕ → List Settings} (h : Orderly l r c) (u : Uri)
    (hgot : ∀ n, got n = l.returned n) :
    Orderly { l with returned := got } (r.lookup u).1 c := by
  have hlast : r.cellOf r.lookups.length = none := by simp [cellOf]
  refine h.elsewhere (Cache.cell_lookup r.cache u c) (fun n => ?_) fun n hn => ⟨?_, hgot n⟩
  · rw [cellOf_lookup, statusOf_lookup]
    split_ifs with hn
    · simp [hn, hlast]
    · exact Iff.rfl
  · refine (statusOf_lookup r u n).trans (if_neg ?_)
    rintro rfl
    have hcell := ((h.begun _).mp hn).1
    rw [hlast] at hcell
    cases hcell

section

variable {cache : Cache} {o : Option ℕ} {before after : LookupStatus}
  (hn : r.lookups[n]? = some (⟨u, o⟩, before)) (hr' : r' = { r with cache }.setStatus n after)

include hn hr'

theorem statusOf_moved (k : ℕ) : r'.statusOf k = if k = n then some after else r.statusOf k := by
  rw [hr']
  exact statusOf_setStatus (r := { r with cache }) hn k

omit hn in
theorem cellOf_moved (k : ℕ) : r'.cellOf k = r.cellOf k := by
  simp [hr']

/-- A lookup that moves at another cell, or takes the global value, does not matter. -/
theorem Orderly.other {got : ℕ → List Settings} (h : Orderly l r c) (ho : o ≠ some c)
    (hcell : cache.cell c = r.cache.cell c) (hgot : ∀ k, ¬n = k → got k = l.returned k) :
    Orderly { l with returned := got } r' c := by
  have hno : r.cellOf n ≠ some c := by
    rw [cellOf_eq hn]
    exact ho
  refine h.elsewhere (by rw [hr']; exact hcell) ?_ ?_
  · intro k
    rw [cellOf_moved hr', statusOf_moved hn hr']
    by_cases hk : k = n
    · subst hk
      constructor
      · exact fun hboth => absurd hboth.1 hno
      · exact fun hboth => absurd hboth.1 hno
    · rw [if_neg hk]
  · intro k hk
    have hne : ¬k = n := by
      rintro rfl
      exact hno ((h.begun k).mp hk).1
    refine ⟨?_, hgot k fun hnk => hne hnk.symm⟩
    rw [statusOf_moved hn hr', if_neg hne]

end

/-! ## Steps at the cell -/

/-- A lookup is begun: it is the last in line, unless the cell is filled. -/
theorem Orderly.join (h : Orderly l r c) (hn : r.lookups[n]? = some (⟨u, some c⟩, .claimed))
    (hc : c < r.cache.cells.length)
    (hr' : r' = { r with cache := r.cache.join c n }.setStatus n .inLine) :
    Orderly { l with started := l.started ++ [n] } r' c := by
  have hstatus := statusOf_moved hn hr'
  have hnew : n ∉ l.started := fun hmem => ((h.begun n).mp hmem).2 (statusOf_eq hn)
  have hold : ∀ k ∈ l.started, r'.statusOf k = r.statusOf k := by
    intro k hk
    rw [hstatus, if_neg]
    rintro rfl
    exact hnew hk
  have hle : l.fetches.length ≤ l.started.length := h.fetched.length_le
  have hanswers := h.answers_le
  have hcell : r'.cache.cell c = (r.cache.join c n).cell c := by rw [hr']; rfl
  rw [Cache.cell_join hc] at hcell
  refine ⟨?_, ?_, List.prefix_append_of_prefix h.fetched, h.answered, h.single, ?_, ?_⟩
  · rw [List.nodup_append]
    refine ⟨h.distinct, List.nodup_singleton n, fun x hx y hy hxy => ?_⟩
    rw [List.mem_singleton.mp hy] at hxy
    exact hnew (hxy ▸ hx)
  · intro k
    rw [List.mem_append, List.mem_singleton, cellOf_moved hr', hstatus, h.begun]
    by_cases hk : k = n
    · subst hk
      simp [cellOf_eq hn]
    · simp [hk]
  · intro x hx
    rw [hold _ (h.mem_started hx)]
    exact h.served x hx
  · cases h.stage with
    | asking failed cell waiting =>
      rw [if_pos ⟨rfl, by rw [cell]⟩, cell] at hcell
      refine .asking failed ?_ fun i k hi hk => ?_
      · rw [hcell, List.drop_append_of_le_length (Nat.le_trans hanswers hle)]
      · rcases getElem?_concat_iff.mp hk with hk | ⟨rfl, rfl⟩
        · rw [hold k (List.mem_of_getElem? hk)]
          exact waiting i k hi hk
        · rw [hstatus, if_pos rfl, if_neg (by simpa using hle)]
    | filled settings cell last all later =>
      rw [if_neg (by rw [cell]; nofun), cell] at hcell
      refine .filled settings hcell last all fun i k hi hk => ?_
      rcases getElem?_concat_iff.mp hk with hk | ⟨rfl, rfl⟩
      · rw [hold k (List.mem_of_getElem? hk)]
        exact later i k hi hk
      · exact Or.inl ((hstatus n).trans (if_pos rfl))

section

variable {cache : Cache} {before after : LookupStatus} (h : Orderly l r c)
  (hn : r.lookups[n]? = some (⟨u, some c⟩, before))
  (hr' : r' = { r with cache }.setStatus n after)

include h hn hr'

/-- A lookup that has been begun stays so. -/
theorem Orderly.begun_moved (hb : before ≠ .claimed) (ha : after ≠ .claimed) (k : ℕ) :
    k ∈ l.started ↔ r'.cellOf k = some c ∧ r'.statusOf k ≠ some .claimed := by
  rw [h.begun, cellOf_moved hr', statusOf_moved hn hr']
  by_cases hk : k = n
  · subst hk
    simp [cellOf_eq hn, statusOf_eq hn, hb, ha]
  · simp [hk]

/-- Whoever has got an answer is not the one who moves. -/
theorem Orderly.served_moved (hb : before ≠ .resolved) (hx : x ∈ l.answers) :
    ¬n = x.1 ∧ r'.statusOf x.1 = some .resolved := by
  have hres := (h.served x hx).1
  have hne : ¬x.1 = n := by
    intro hxn
    rw [hxn, statusOf_eq hn] at hres
    exact hb (Option.some.inj hres)
  refine ⟨fun hnx => hne hnx.symm, ?_⟩
  rw [statusOf_moved hn hr', if_neg hne]
  exact hres

end

/-- A lookup takes the value of the cell. -/
theorem Orderly.take (h : Orderly l r c) (hn : r.lookups[n]? = some (⟨u, some c⟩, .inLine))
    (hnone : l.returned n = []) (hv : (r.cache.cell c).value = some settings)
    (hr' : r' = r.setStatus n .resolved) : Orderly (l.grant n settings) r' c := by
  refine ⟨h.distinct, h.begun_moved hn hr' nofun nofun, h.fetched, h.answered, h.single, ?_, ?_⟩
  · intro x hx
    obtain ⟨hne, hres⟩ := h.served_moved hn hr' nofun hx
    rw [Ledger.grant_other hne]
    exact ⟨hres, (h.served x hx).2⟩
  · cases h.stage with
    | asking failed cell waiting =>
      rw [cell] at hv
      cases hv
    | filled value cell last all later =>
      rw [cell] at hv
      cases hv
      refine .filled settings (by rw [hr']; exact cell) last all fun i k hi hk => ?_
      rw [statusOf_moved hn hr']
      by_cases hkn : k = n
      · rw [if_pos hkn, hkn]
        exact Or.inr ⟨rfl, Ledger.grant_self hnone⟩
      · rw [if_neg hkn, Ledger.grant_other fun hnk => hkn hnk.symm]
        exact later i k hi hk

/-- Where the first in line at an empty cell stands: all answers so far have failed, and no request
is under way. -/
theorem Orderly.first_in_line (h : Orderly l r c)
    (hn : r.lookups[n]? = some (⟨u, some c⟩, .inLine)) (hv : (r.cache.cell c).value = none)
    (hl : (r.cache.cell c).line.head? = some n) :
    (∀ x ∈ l.answers, Fails x.2) ∧
      r.cache.cell c = ⟨none, l.started.drop l.answers.length⟩ ∧
      l.started[l.answers.length]? = some n ∧ l.fetches.length = l.answers.length ∧
      ∀ i k, l.answers.length ≤ i → l.started[i]? = some k → r.statusOf k = some .inLine := by
  cases h.stage with
  | filled value cell last all later =>
    rw [cell] at hv
    cases hv
  | asking failed cell waiting =>
    rw [cell, List.head?_drop] at hl
    have hnone : l.fetches.length = l.answers.length := by
      have hasks := waiting _ n (Nat.le_refl _) hl
      rw [statusOf_eq hn] at hasks
      have hle := h.answers_le
      by_contra hne
      rw [if_pos (by omega)] at hasks
      cases hasks
    refine ⟨failed, cell, hl, hnone, fun i k hi hk => ?_⟩
    have hwaits := waiting i k hi hk
    rwa [if_neg (by omega)] at hwaits

/-- The first in line asks the editor. -/
theorem Orderly.ask (h : Orderly l r c) (hn : r.lookups[n]? = some (⟨u, some c⟩, .inLine))
    (hv : (r.cache.cell c).value = none) (hl : (r.cache.cell c).line.head? = some n)
    (hr' : r' = r.setStatus n .fetching) :
    Orderly { l with fetches := l.fetches ++ [n] } r' c := by
  obtain ⟨failed, cell, hplace, hnone, hwaits⟩ := h.first_in_line hn hv hl
  have hlen : (l.fetches ++ [n]).length = l.answers.length + 1 := by
    rw [List.length_append, hnone]
    rfl
  refine ⟨h.distinct, h.begun_moved hn hr' nofun nofun, ?_, ?_, Nat.le_of_eq hlen, ?_, ?_⟩
  · exact concat_prefix h.fetched (hnone ▸ hplace)
  · exact List.prefix_append_of_prefix h.answered
  · exact fun x hx => ⟨(h.served_moved hn hr' nofun hx).2, (h.served x hx).2⟩
  · refine .asking failed (by rw [hr']; exact cell) fun i k hi hk => ?_
    rw [statusOf_moved hn hr', hlen]
    have hi' : l.answers.length ≤ i := hi
    by_cases hkn : k = n
    · subst hkn
      have hi'' := h.place_unique hk hplace
      rw [if_pos rfl, if_pos (by omega)]
    · have hne : i ≠ l.answers.length := by
        rintro rfl
        rw [hplace] at hk
        exact hkn (Option.some.inj hk).symm
      rw [if_neg hkn, if_neg (by omega), hwaits i k hi hk]

/-- Where a lookup stands whose request is under way: all answers so far have failed, it is the next
to be answered, and those behind it wait. -/
theorem Orderly.in_flight (h : Orderly l r c)
    (hn : r.lookups[n]? = some (⟨u, some c⟩, .fetching)) :
    (∀ x ∈ l.answers, Fails x.2) ∧
      r.cache.cell c = ⟨none, l.started.drop l.answers.length⟩ ∧
      l.started[l.answers.length]? = some n ∧ l.fetches.length = l.answers.length + 1 ∧
      ∀ i k, l.answers.length < i → l.started[i]? = some k → r.statusOf k = some .inLine := by
  have hmem : n ∈ l.started := by
    rw [h.begun, cellOf_eq hn, statusOf_eq hn]
    exact ⟨rfl, nofun⟩
  obtain ⟨i, hi⟩ := List.mem_iff_getElem?.mp hmem
  -- those who have been answered are resolved
  have hplace : l.answers.length ≤ i := by
    by_contra hlt
    have hx := List.getElem?_eq_getElem (l := l.answers) (i := i) (by omega)
    have hsame := h.answer_place hx
    rw [hi] at hsame
    have hres := (h.served _ (List.mem_of_getElem? hx)).1
    rw [← Option.some.inj hsame, statusOf_eq hn] at hres
    cases hres
  have hsingle := h.single
  cases h.stage with
  | filled value cell last all later =>
    rcases later i n hplace hi with hres | ⟨hres, -⟩
    · rw [statusOf_eq hn] at hres
      cases hres
    · rw [statusOf_eq hn] at hres
      cases hres
  | asking failed cell waiting =>
    have hasked : i < l.fetches.length := by
      have hasks := waiting i n hplace hi
      rw [statusOf_eq hn] at hasks
      by_contra hge
      rw [if_neg hge] at hasks
      cases hasks
    have hi' : i = l.answers.length := by omega
    subst hi'
    refine ⟨failed, cell, hi, by omega, fun j k hj hk => ?_⟩
    have hwaits := waiting j k (by omega) hk
    rwa [if_neg (by omega)] at hwaits

/-- A lookup gets the answer to its request. -/
theorem Orderly.settle (h : Orderly l r c) (hn : r.lookups[n]? = some (⟨u, some c⟩, .fetching))
    (hnone : l.returned n = []) (hc : c < r.cache.cells.length)
    (hr' : r' = { r with cache := (r.cache.settle c answer).1 }.setStatus n .resolved) :
    Orderly (l.receive n answer) r' c := by
  obtain ⟨failed, cell, hplace, hflight, hbehind⟩ := h.in_flight hn
  have hlen : (l.answers ++ [(n, answer)]).length = l.answers.length + 1 := List.length_append
  have hlater : ∀ i k, (l.answers ++ [(n, answer)]).length ≤ i → l.started[i]? = some k →
      r'.statusOf k = some .inLine := by
    intro i k hi hk
    rw [hlen] at hi
    have hne : ¬k = n := by
      rintro rfl
      have := h.place_unique hk hplace
      omega
    rw [statusOf_moved hn hr', if_neg hne]
    exact hbehind i k hi hk
  have hcell : r'.cache.cell c = ((r.cache.settle c answer).1).cell c := by rw [hr']; rfl
  rw [Cache.cell_settle hc, if_pos rfl, cell] at hcell
  refine ⟨h.distinct, h.begun_moved hn hr' nofun nofun, h.fetched, ?_, ?_, ?_, ?_⟩
  · show (l.answers ++ [(n, answer)]).map Prod.fst <+: l.fetches
    rw [List.map_append]
    refine concat_prefix h.answered ?_
    obtain ⟨more, hmore⟩ := h.fetched
    rw [List.length_map, ← hplace, ← hmore, List.getElem?_append_left (by omega)]
  · show l.fetches.length ≤ (l.answers ++ [(n, answer)]).length + 1
    omega
  · intro x hx
    rcases List.mem_append.mp hx with hx | hx
    · obtain ⟨hne, hres⟩ := h.served_moved hn hr' nofun hx
      exact ⟨hres, (Ledger.grant_other hne).trans (h.served x hx).2⟩
    · rw [List.mem_singleton.mp hx]
      exact ⟨(statusOf_moved hn hr' n).trans (if_pos rfl), Ledger.grant_self hnone⟩
  · rcases usable_or_fails answer with ⟨settings, husable⟩ | hfails
    · rw [bind_validated_eq_ok_iff.mpr husable] at hcell
      refine .filled settings hcell ⟨_, _, rfl, husable, failed⟩ (hflight.trans hlen.symm) ?_
      exact fun i k hi hk => Or.inl (hlater i k hi hk)
    · obtain ⟨e, he⟩ := hfails.bind_validated_eq
      rw [he] at hcell
      refine .asking ?_ ?_ fun i k hi hk => ?_
      · intro x hx
        rcases List.mem_append.mp hx with hx | hx
        · exact failed x hx
        · rw [List.mem_singleton.mp hx]
          exact hfails
      · show _ = Cell.mk none (l.started.drop (l.answers ++ [(n, answer)]).length)
        rw [hcell, hlen]
        simp only [List.tail_drop]
      · have hi' : l.fetches.length ≤ i := by
          rw [hflight, ← hlen]
          exact hi
        exact (hlater i k hi hk).trans (congrArg some (if_neg (Nat.not_lt.mpr hi')).symm)

/-! ## Who gets what -/

/-- What a lookup has got that was answered. -/
theorem Orderly.returned_answer (h : Orderly l r c) (hx : l.answers[i]? = some x)
    (hn : l.started[i]? = some n) : l.returned n = [Settings.resolved x.2] := by
  rw [h.answer_place hx] at hn
  cases hn
  exact (h.served x (List.mem_of_getElem? hx)).2

theorem Orderly.returned_failed (h : Orderly l r c)
    (hf : ∀ y, l.answers[i]? = some y → Fails y.2) (hi : i < l.answers.length)
    (hn : l.started[i]? = some n) : l.returned n = [Settings.standard] := by
  have hx := List.getElem?_eq_getElem hi
  rw [h.returned_answer hx hn, (hf _ hx).resolved_eq]

/-- A usable answer is the last one, and fills the cell. -/
theorem Orderly.filled_of_usable (h : Orderly l r c) (hx : l.answers[j]? = some x)
    (hu : Usable x.2 settings) :
    r.cache.cell c = ⟨some settings, []⟩ ∧ l.answers.length = j + 1 ∧ l.fetches.length = j + 1 ∧
      ∀ i n, j < i → l.started[i]? = some n → r.statusOf n = some .inLine ∨
        r.statusOf n = some .resolved ∧ l.returned n = [settings] := by
  cases h.stage with
  | asking failed cell waiting => exact absurd hu (failed x (List.mem_of_getElem? hx) settings)
  | filled value cell last all later =>
    obtain ⟨earlier, y, hans, hy, hfailed⟩ := last
    rw [hans] at hx
    rcases getElem?_concat_iff.mp hx with hx | ⟨hj, rfl⟩
    · exact absurd hu (hfailed x (List.mem_of_getElem? hx) settings)
    · have hvalue : value = settings := by
        have hsame := hy.1.symm.trans hu.1
        cases hsame
        rfl
      have hlen : l.answers.length = j + 1 := by
        rw [hans, List.length_append, hj]
        rfl
      subst hvalue
      exact ⟨cell, hlen, all.trans hlen, fun i n hi => later i n (by omega)⟩

end LineLint.Resolver
