import LineLint.Documents
import LineLint.Proofs.Lists
import Mathlib.Data.List.Nodup

/-!
# The table of open documents

What each operation does to what can be seen of a single document: whether it is open, and for which
token it waits. Everything else that is proved about documents rests on these lemmas.

* `pending?` — the token a document waits for.
* `Issues` — what giving out tickets does.
* `WellFormed` — what always holds of the table.

Results:

* `get?_set`, `get?_close`, `get?_finish`: documents other than the one named stay as they are.
* `finish_accepts_iff`: a ticket is accepted exactly if its document waits for its token.
* `issues_request`, `issues_openDocument`, `issues_requestAll`: the three ways to get tickets.
* `requestAll_complete`: no open document with a local file is left out.
-/

namespace LineLint.Documents

variable {d d' d'' : Documents} {u v : Uri} {doc : Document} {t : Ticket} {ts ts' : List Ticket}

/-- The token of the run that a document waits for. -/
def pending? (d : Documents) (u : Uri) : Option ℕ := (d.get? u).bind Document.pending

/-- A local file to try things on. -/
def sampleFile : Uri := ⟨"file", some ⟨"", .empty, none⟩, "/a", none, none⟩

/-- Another local file. -/
def otherFile : Uri := ⟨"file", some ⟨"", .empty, none⟩, "/b", none, none⟩

/-! ## Entries -/

theorem find?_put (u v : Uri) (doc : Document) (l : List (Uri × Document)) :
    ((put u doc l).find? fun entry => entry.1 == v).map Prod.snd =
      if v = u then some doc else (l.find? fun entry => entry.1 == v).map Prod.snd := by
  induction l with
  | nil =>
    rw [put]
    by_cases hv : v = u
    · subst hv; simp
    · have hv' : ¬u = v := fun h => hv h.symm
      simp [hv, hv']
  | cons entry l ih =>
    rw [put]
    by_cases he : entry.1 = u
    · rw [if_pos he]
      by_cases hv : v = u
      · subst hv; simp
      · have hv' : ¬u = v := fun h => hv h.symm
        simp [hv, hv', he]
    · rw [if_neg he, List.find?_cons, List.find?_cons]
      by_cases hv : entry.1 = v
      · have hne : ¬v = u := fun h => he (hv.trans h)
        simp [hv, hne]
      · simp only [beq_eq_false_iff_ne.mpr hv]
        exact ih

/-- Setting a document changes no other. -/
@[simp]
theorem get?_set (d : Documents) (u v : Uri) (doc : Document) :
    (d.set u doc).get? v = if v = u then some doc else d.get? v :=
  find?_put u v doc d.entries

/-- Closing a document changes no other. -/
@[simp]
theorem get?_close (d : Documents) (u v : Uri) :
    (d.close u).1.get? v = if v = u then none else d.get? v :=
  find?_filter_ne d.entries u v

theorem map_fst_put (u : Uri) (doc : Document) (l : List (Uri × Document)) :
    (put u doc l).map Prod.fst =
      if u ∈ l.map Prod.fst then l.map Prod.fst else l.map Prod.fst ++ [u] := by
  induction l with
  | nil => simp [put]
  | cons entry l ih =>
    rw [put]
    by_cases he : entry.1 = u
    · simp [he]
    · have he' : ¬u = entry.1 := fun h => he h.symm
      rw [if_neg he, List.map_cons, ih]
      by_cases hm : u ∈ l.map Prod.fst
      · have hm' : u ∈ (entry :: l).map Prod.fst := by
          rw [List.map_cons]
          exact List.mem_cons_of_mem _ hm
        rw [if_pos hm, if_pos hm', List.map_cons]
      · have hm' : u ∉ (entry :: l).map Prod.fst := by
          rw [List.map_cons, List.mem_cons]
          exact fun h => h.elim he' hm
        rw [if_neg hm, if_neg hm', List.map_cons, List.cons_append]

@[simp]
theorem mem_keys_iff : u ∈ d.entries.map Prod.fst ↔ d.isOpen u = true := by
  unfold isOpen get?
  rw [Option.isSome_map, List.find?_isSome, List.mem_map]
  constructor
  · rintro ⟨entry, he, rfl⟩
    exact ⟨entry, he, by simp⟩
  · rintro ⟨entry, he, hu⟩
    exact ⟨entry, he, by simpa using hu⟩

theorem isOpen_eq_of_get?_eq (h : d'.get? u = d.get? u) : d'.isOpen u = d.isOpen u := by
  rw [isOpen, isOpen, h]

theorem pending?_eq_of_get?_eq (h : d'.get? u = d.get? u) : d'.pending? u = d.pending? u := by
  rw [pending?, pending?, h]

theorem isOpen_of_pending? {n : ℕ} (h : d.pending? u = some n) : d.isOpen u = true := by
  obtain ⟨doc, hd, -⟩ := Option.bind_eq_some_iff.mp h
  rw [isOpen, hd]
  rfl

/-! ## Handing in tickets -/

/-- A ticket is accepted exactly if its document waits for its token. -/
theorem finish_accepts_iff (d : Documents) (t : Ticket) :
    (d.finish t).2 = true ↔ d.pending? t.uri = some t.token := by
  unfold finish pending?
  cases hd : d.get? t.uri with
  | none => simp
  | some doc =>
    by_cases hp : doc.pending = some t.token
    · simp [hp]
    · simp [hp]

/-- A ticket that is refused changes nothing. -/
theorem finish_refused (h : (d.finish t).2 = false) : (d.finish t).1 = d := by
  revert h
  unfold finish
  cases hd : d.get? t.uri with
  | none => intro _; rfl
  | some doc =>
    by_cases hp : doc.pending = some t.token
    · simp [hp]
    · simp [hp]

/-- A ticket that is accepted ends the wait of its document and changes nothing else. -/
theorem get?_finish (h : (d.finish t).2 = true) (v : Uri) :
    (d.finish t).1.get? v =
      if v = t.uri then (d.get? v).map fun doc => { doc with pending := none } else d.get? v := by
  obtain ⟨doc, hd, hp⟩ := Option.bind_eq_some_iff.mp ((finish_accepts_iff d t).mp h)
  simp only [finish, hd, hp, if_true, get?_set]
  by_cases hv : v = t.uri
  · subst hv
    simp [hd]
  · simp [hv]

@[simp]
theorem lastToken_finish (d : Documents) (t : Ticket) : (d.finish t).1.lastToken = d.lastToken := by
  unfold finish
  split
  · rfl
  · split <;> rfl

@[simp]
theorem isOpen_finish (d : Documents) (t : Ticket) (v : Uri) :
    (d.finish t).1.isOpen v = d.isOpen v := by
  cases h : (d.finish t).2 with
  | false => rw [finish_refused h]
  | true =>
    rw [isOpen, isOpen, get?_finish h]
    split_ifs
    · rw [Option.isSome_map]
    · rfl

theorem pending?_finish_self (h : (d.finish t).2 = true) :
    (d.finish t).1.pending? t.uri = none := by
  rw [pending?, get?_finish h, if_pos rfl]
  cases d.get? t.uri <;> rfl

theorem pending?_finish_other (h : v ≠ t.uri) : (d.finish t).1.pending? v = d.pending? v := by
  cases ha : (d.finish t).2 with
  | false => rw [finish_refused ha]
  | true => rw [pending?, pending?, get?_finish ha, if_neg h]

/-! ## Giving out tickets -/

/-- Giving out tickets: they carry the tokens that follow the last one and name different documents,
each with a local file; each of these documents then waits for its ticket, and the others stay as
they are. -/
structure Issues (d d' : Documents) (ts : List Ticket) : Prop where
  tokens : ts.map Ticket.token = List.range' (d.lastToken + 1) ts.length
  last : d'.lastToken = d.lastToken + ts.length
  distinct : (ts.map Ticket.uri).Nodup
  paths : ∀ t ∈ ts, (d.get? t.uri).bind Document.path = some t.path
  waits : ∀ t ∈ ts, d'.get? t.uri = some ⟨some t.path, some t.token⟩
  others : ∀ v, v ∉ ts.map Ticket.uri → d'.get? v = d.get? v

theorem Issues.nil (d : Documents) : Issues d d [] where
  tokens := rfl
  last := rfl
  distinct := List.nodup_nil
  paths := by simp
  waits := by simp
  others := fun _ _ => rfl

theorem Issues.token_mem (h : Issues d d' ts) (ht : t ∈ ts) :
    d.lastToken < t.token ∧ t.token ≤ d'.lastToken := by
  have hm : t.token ∈ List.range' (d.lastToken + 1) ts.length :=
    h.tokens ▸ List.mem_map_of_mem ht
  rw [List.mem_range'_1] at hm
  have := h.last
  omega

theorem Issues.lastToken_le (h : Issues d d' ts) : d.lastToken ≤ d'.lastToken := by
  have := h.last
  omega

theorem Issues.path_eq (h : Issues d d' ts) (v : Uri) :
    (d'.get? v).bind Document.path = (d.get? v).bind Document.path := by
  by_cases hv : v ∈ ts.map Ticket.uri
  · obtain ⟨t, ht, rfl⟩ := List.mem_map.mp hv
    rw [h.waits t ht, h.paths t ht]
    rfl
  · rw [h.others v hv]

theorem Issues.isOpen_eq (h : Issues d d' ts) (v : Uri) : d'.isOpen v = d.isOpen v := by
  by_cases hv : v ∈ ts.map Ticket.uri
  · obtain ⟨t, ht, rfl⟩ := List.mem_map.mp hv
    obtain ⟨doc, hd, -⟩ := Option.bind_eq_some_iff.mp (h.paths t ht)
    rw [isOpen, isOpen, h.waits t ht, hd]
    rfl
  · exact isOpen_eq_of_get?_eq (h.others v hv)

theorem Issues.pending?_eq (h : Issues d d' ts) (ht : t ∈ ts) :
    d'.pending? t.uri = some t.token := by
  rw [pending?, h.waits t ht]
  rfl

theorem Issues.pending?_other (h : Issues d d' ts) (hv : ∀ t ∈ ts, t.uri ≠ v) :
    d'.pending? v = d.pending? v := by
  apply pending?_eq_of_get?_eq (h.others v _)
  intro hm
  obtain ⟨t, ht, htv⟩ := List.mem_map.mp hm
  exact hv t ht htv

/-- Tickets given out after others, for other documents. -/
theorem Issues.append (h : Issues d d' ts) (h' : Issues d' d'' ts')
    (hne : ∀ t ∈ ts, t.uri ∉ ts'.map Ticket.uri) : Issues d d'' (ts ++ ts') where
  tokens := by
    rw [List.map_append, h.tokens, h'.tokens, h.last, List.length_append, ← List.range'_append_1]
    congr 2
    omega
  last := by
    rw [h'.last, h.last, List.length_append]
    omega
  distinct := by
    rw [List.map_append, List.nodup_append]
    refine ⟨h.distinct, h'.distinct, ?_⟩
    intro a ha b hb hab
    obtain ⟨t, ht, rfl⟩ := List.mem_map.mp ha
    exact hne t ht (hab ▸ hb)
  paths := by
    intro t ht
    rcases List.mem_append.mp ht with ht | ht
    · exact h.paths t ht
    · rw [← h.path_eq]
      exact h'.paths t ht
  waits := by
    intro t ht
    rcases List.mem_append.mp ht with ht | ht
    · rw [h'.others _ (hne t ht)]
      exact h.waits t ht
    · exact h'.waits t ht
  others := by
    intro v hv
    rw [List.map_append, List.mem_append, not_or] at hv
    rw [h'.others v hv.2, h.others v hv.1]

theorem request_none (h : (d.get? u).bind Document.path = none) : d.request u = (d, none) := by
  unfold request
  cases hd : d.get? u with
  | none => rfl
  | some doc =>
    rw [hd, Option.bind_some] at h
    simp only [h]

theorem request_some {path : Bytes} (h : (d.get? u).bind Document.path = some path) :
    d.request u =
      ({ d.set u ⟨some path, some (d.lastToken + 1)⟩ with lastToken := d.lastToken + 1 },
        some ⟨u, path, d.lastToken + 1⟩) := by
  obtain ⟨doc, hd, hp⟩ := Option.bind_eq_some_iff.mp h
  unfold request
  simp only [hd, hp]

/-- A request gives out at most one ticket, for its document. -/
theorem issues_request (d : Documents) (u : Uri) :
    Issues d (d.request u).1 (d.request u).2.toList := by
  cases hp : (d.get? u).bind Document.path with
  | none => rw [request_none hp]; exact Issues.nil d
  | some path =>
    have hset : ∀ v, (d.request u).1.get? v =
        if v = u then some ⟨some path, some (d.lastToken + 1)⟩ else d.get? v := by
      rw [request_some hp]
      exact fun v => get?_set d u v _
    rw [request_some hp] at hset ⊢
    refine ⟨rfl, rfl, List.nodup_singleton _, ?_, ?_, ?_⟩
    · intro t ht
      rw [List.mem_singleton.mp ht]
      exact hp
    · intro t ht
      rw [List.mem_singleton.mp ht, hset, if_pos rfl]
    · intro v hv
      rw [hset, if_neg (fun h => hv (List.mem_singleton.mpr h))]

theorem uri_request (ht : t ∈ (d.request u).2.toList) : t.uri = u := by
  cases hp : (d.get? u).bind Document.path with
  | none => rw [request_none hp] at ht; cases ht
  | some path =>
    rw [request_some hp] at ht
    rw [List.mem_singleton.mp ht]

/-- Opening a document sets it afresh and gives out at most one ticket, for it. -/
theorem issues_openDocument (d : Documents) (u : Uri) :
    Issues (d.set u ⟨u.localPath, none⟩) (d.openDocument u).1 (d.openDocument u).2.toList :=
  issues_request _ u

theorem Issues.localPath (hp : ∀ u doc, d.get? u = some doc → doc.path = u.localPath)
    (h : Issues d d' ts) (ht : t ∈ ts) : t.uri.localPath = some t.path := by
  obtain ⟨doc, hd, hpath⟩ := Option.bind_eq_some_iff.mp (h.paths t ht)
  rw [← hp t.uri doc hd, hpath]

@[simp]
theorem isOpen_set (d : Documents) (u v : Uri) (doc : Document) :
    (d.set u doc).isOpen v = (decide (v = u) || d.isOpen v) := by
  rw [isOpen, get?_set]
  by_cases hv : v = u
  · simp [hv]
  · simp [hv, isOpen]

theorem uri_requestEach (us : List Uri) :
    ∀ d : Documents, ∀ t ∈ (d.requestEach us).2, t.uri ∈ us := by
  induction us with
  | nil => intro d t ht; cases ht
  | cons u us ih =>
    intro d t ht
    rw [requestEach] at ht
    rcases List.mem_append.mp ht with ht | ht
    · rw [uri_request ht]
      exact List.mem_cons_self
    · exact List.mem_cons_of_mem _ (ih _ t ht)

theorem issues_requestEach (us : List Uri) (hus : us.Nodup) :
    ∀ d : Documents, Issues d (d.requestEach us).1 (d.requestEach us).2 := by
  induction us with
  | nil => exact Issues.nil
  | cons u us ih =>
    intro d
    rw [List.nodup_cons] at hus
    rw [requestEach]
    apply (issues_request d u).append (ih hus.2 _)
    intro t ht hm
    obtain ⟨t', ht', hu⟩ := List.mem_map.mp hm
    rw [uri_request ht] at hu
    exact hus.1 (hu ▸ uri_requestEach us _ t' ht')

theorem requestEach_complete (us : List Uri) (hus : us.Nodup) :
    ∀ d : Documents, ∀ u ∈ us, (d.get? u).bind Document.path ≠ none →
      ∃ t ∈ (d.requestEach us).2, t.uri = u := by
  induction us with
  | nil => intro d u hu; cases hu
  | cons w us ih =>
    intro d u hu hp
    rw [List.nodup_cons] at hus
    rw [requestEach]
    rcases List.mem_cons.mp hu with rfl | hu
    · obtain ⟨path, hpath⟩ := Option.ne_none_iff_exists'.mp hp
      rw [request_some hpath]
      exact ⟨_, List.mem_append_left _ (List.mem_singleton_self _), rfl⟩
    · rw [← (issues_request d w).path_eq u] at hp
      obtain ⟨t, ht, htu⟩ := ih hus.2 _ u hu hp
      exact ⟨t, List.mem_append_right _ ht, htu⟩

/-! ## What always holds -/

/-- What always holds of the table: each URI occurs once, the file of a document is the one its URI
names, and no document waits for a token that has not been given out. -/
structure WellFormed (d : Documents) : Prop where
  keys : (d.entries.map Prod.fst).Nodup
  path : ∀ u doc, d.get? u = some doc → doc.path = u.localPath
  given : ∀ u n, d.pending? u = some n → n ≤ d.lastToken

theorem wellFormed_empty : WellFormed empty where
  keys := List.nodup_nil
  path := by intro u doc h; cases h
  given := by intro u n h; cases h

/-- What stands in the table under a URI is what is found there. -/
theorem WellFormed.mem_entries_iff (h : WellFormed d) :
    (u, doc) ∈ d.entries ↔ d.get? u = some doc :=
  (map_find?_eq_some_iff h.keys).symm

/-- Which documents can get a ticket. -/
theorem path_ne_none_iff (h : WellFormed d) (u : Uri) :
    (d.get? u).bind Document.path ≠ none ↔ d.isOpen u = true ∧ u.localPath.isSome = true := by
  cases hd : d.get? u with
  | none => simp [isOpen, hd]
  | some doc =>
    rw [isOpen, hd, Option.bind_some, h.path u doc hd, ← Option.isSome_iff_ne_none]
    simp

/-- Tickets for all open documents that have a local file, one each. -/
theorem issues_requestAll (h : WellFormed d) : Issues d d.requestAll.1 d.requestAll.2 :=
  issues_requestEach _ h.keys d

/-- An open document with a local file is not left out. -/
theorem requestAll_complete (h : WellFormed d) (ho : d.isOpen u = true)
    (hp : u.localPath ≠ none) : ∃ t ∈ d.requestAll.2, t.uri = u := by
  apply requestEach_complete _ h.keys d u (mem_keys_iff.mpr ho)
  obtain ⟨doc, hd⟩ := Option.isSome_iff_exists.mp ho
  rw [hd, Option.bind_some, h.path u doc hd]
  exact hp

theorem nodup_keys_set (h : (d.entries.map Prod.fst).Nodup) (u : Uri) (doc : Document) :
    ((d.set u doc).entries.map Prod.fst).Nodup := by
  show ((put u doc d.entries).map Prod.fst).Nodup
  rw [map_fst_put]
  split_ifs with hu
  · exact h
  · rw [List.nodup_append]
    refine ⟨h, List.nodup_singleton u, ?_⟩
    intro a ha b hb hab
    rw [List.mem_singleton.mp hb] at hab
    exact hu (hab ▸ ha)

theorem nodup_keys_request (h : (d.entries.map Prod.fst).Nodup) (u : Uri) :
    ((d.request u).1.entries.map Prod.fst).Nodup := by
  cases hp : (d.get? u).bind Document.path with
  | none => rw [request_none hp]; exact h
  | some path => rw [request_some hp]; exact nodup_keys_set h u _

theorem nodup_keys_requestEach (us : List Uri) :
    ∀ d : Documents, (d.entries.map Prod.fst).Nodup →
      ((d.requestEach us).1.entries.map Prod.fst).Nodup := by
  induction us with
  | nil => intro d h; exact h
  | cons u us ih =>
    intro d h
    rw [requestEach]
    exact ih _ (nodup_keys_request h u)

/-- Giving out tickets keeps the table well-formed. -/
theorem WellFormed.issues (h : WellFormed d) (hi : Issues d d' ts)
    (hk : (d'.entries.map Prod.fst).Nodup) : WellFormed d' where
  keys := hk
  path := by
    intro u doc hd
    by_cases hu : u ∈ ts.map Ticket.uri
    · obtain ⟨t, ht, rfl⟩ := List.mem_map.mp hu
      obtain ⟨old, hold, hp⟩ := Option.bind_eq_some_iff.mp (hi.paths t ht)
      rw [hi.waits t ht] at hd
      cases hd
      rw [← h.path _ old hold, hp]
    · rw [hi.others u hu] at hd
      exact h.path u doc hd
  given := by
    intro u n hp
    by_cases hu : u ∈ ts.map Ticket.uri
    · obtain ⟨t, ht, rfl⟩ := List.mem_map.mp hu
      rw [hi.pending?_eq ht] at hp
      cases hp
      exact (hi.token_mem ht).2
    · rw [pending?_eq_of_get?_eq (hi.others u hu)] at hp
      exact Nat.le_trans (h.given u n hp) hi.lastToken_le

theorem WellFormed.set (h : WellFormed d) (u : Uri) : WellFormed (d.set u ⟨u.localPath, none⟩) where
  keys := nodup_keys_set h.keys u _
  path := by
    intro v doc hd
    rw [get?_set] at hd
    split_ifs at hd with hv
    · cases hd
      rw [hv]
    · exact h.path v doc hd
  given := by
    intro v n hp
    rw [pending?, get?_set] at hp
    split_ifs at hp with hv
    · cases hp
    · exact h.given v n hp

theorem WellFormed.request (h : WellFormed d) (u : Uri) : WellFormed (d.request u).1 :=
  h.issues (issues_request d u) (nodup_keys_request h.keys u)

theorem WellFormed.openDocument (h : WellFormed d) (u : Uri) : WellFormed (d.openDocument u).1 :=
  (h.set u).request u

theorem WellFormed.requestAll (h : WellFormed d) : WellFormed d.requestAll.1 :=
  h.issues (issues_requestAll h) (nodup_keys_requestEach _ d h.keys)

theorem WellFormed.close (h : WellFormed d) (u : Uri) : WellFormed (d.close u).1 where
  keys := h.keys.sublist (List.filter_sublist.map _)
  path := by
    intro v doc hd
    rw [get?_close] at hd
    split_ifs at hd
    exact h.path v doc hd
  given := by
    intro v n hp
    rw [pending?, get?_close] at hp
    split_ifs at hp
    · cases hp
    · exact h.given v n hp

theorem WellFormed.finish (h : WellFormed d) (t : Ticket) : WellFormed (d.finish t).1 := by
  cases ha : (d.finish t).2 with
  | false => rw [finish_refused ha]; exact h
  | true =>
    refine ⟨?_, ?_, ?_⟩
    · obtain ⟨doc, hd, hp⟩ := Option.bind_eq_some_iff.mp ((finish_accepts_iff d t).mp ha)
      simp only [Documents.finish, hd, hp, if_true]
      exact nodup_keys_set h.keys _ _
    · intro v doc hd
      rw [get?_finish ha] at hd
      split_ifs at hd
      · obtain ⟨old, hold, rfl⟩ := Option.map_eq_some_iff.mp hd
        exact h.path v old hold
      · exact h.path v doc hd
    · intro v n hp
      rw [lastToken_finish]
      by_cases hv : v = t.uri
      · rw [hv, pending?_finish_self ha] at hp
        cases hp
      · rw [pending?_finish_other hv] at hp
        exact h.given v n hp

end LineLint.Documents
