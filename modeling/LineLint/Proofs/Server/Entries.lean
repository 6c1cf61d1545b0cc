import LineLint.Proofs.Server.Freshness
import Mathlib.Data.List.Perm.Subperm

/-!
# Only open documents have settings

Runs make entries in the settings cache, and handlers take them away. A run does so only while it
sees its document open, and a close forgets the entry before anyone else can look. The lock of the
documents is held during each of these steps, so it is free in every state between two steps.

* `Sheltered` — the invariant: entries belong to open documents, one each.

Results:

* `Moves.isOpen_eq`: only the editor opens and closes documents.
* `sheltered_of_session`: the invariant of all reachable states.
* `closed_of_closesAt`: a document stays closed until it is opened again.
* `entries_of_open_documents`: a closed document has no entry, and no late answer brings one back.
-/

namespace LineLint

namespace Cache

variable {c : Cache} {u : Uri}

theorem mem_keys_iff : u ∈ c.entries.map Prod.fst ↔ ∃ i, c.entry? u = some i := by
  rw [← Option.isSome_iff_exists, entry?, Option.isSome_map, List.find?_isSome, List.mem_map]
  constructor
  · rintro ⟨entry, he, rfl⟩
    exact ⟨entry, he, by simp⟩
  · rintro ⟨entry, he, hu⟩
    exact ⟨entry, he, by simpa using hu⟩

/-- A lookup makes an entry only where there is none. -/
theorem nodup_keys_lookup (h : (c.entries.map Prod.fst).Nodup) (u : Uri) :
    ((c.lookup u).1.entries.map Prod.fst).Nodup := by
  cases hp : c.perResource with
  | false => rw [lookup_global hp]; exact h
  | true =>
    cases hu : c.entry? u with
    | some i => rw [lookup_known hp hu]; exact h
    | none =>
      have hnew : u ∉ c.entries.map Prod.fst := by
        intro hmem
        obtain ⟨i, hi⟩ := mem_keys_iff.mp hmem
        rw [hu] at hi
        cases hi
      rw [lookup_new hp hu, List.map_append, List.nodup_append]
      refine ⟨h, List.nodup_singleton u, fun v hv w hw hvw => ?_⟩
      have hvu : v = u := hvw.trans (List.mem_singleton.mp hw)
      exact hnew (hvu ▸ hv)

end Cache

namespace Server

variable {s s' : Server} {a : Action} {effects : List Effect} {perResource registers : Bool}
  {past : List (Moment Server Action Effect)} {u : Uri} {i k : ℕ}

/-! ## Open documents -/

/-- Only the editor opens and closes documents. -/
theorem Moves.isOpen_eq (h : Moves s a s' effects) (hw : s.documents.WellFormed)
    (ho : a ≠ .didOpen u) (hc : a ≠ .didClose u) :
    s'.documents.isOpen u = s.documents.isOpen u := by
  cases h with
  | didOpen v =>
    have hv : ¬u = v := fun h => ho (h ▸ rfl)
    refine ((Documents.issues_openDocument s.documents v).isOpen_eq u).trans ?_
    rw [Documents.isOpen_set, decide_eq_false hv, Bool.false_or]
  | didSave v => exact (Documents.issues_request s.documents v).isOpen_eq u
  | didClose v =>
    have hv : ¬u = v := fun h => hc (h ▸ rfl)
    apply Documents.isOpen_eq_of_get?_eq
    exact (Documents.get?_close s.documents v u).trans (if_neg hv)
  | changeRevalidates => exact (Documents.issues_requestAll hw).isOpen_eq u
  | finishPublishes _ t => exact Documents.isOpen_finish s.documents t u
  | finishReports _ t => exact Documents.isOpen_finish s.documents t u
  | _ => rfl

theorem Moves.isOpen_didOpen (h : Moves s (.didOpen u) s' effects) :
    s'.documents.isOpen u = true := by
  cases h
  refine ((Documents.issues_openDocument s.documents u).isOpen_eq u).trans ?_
  rw [Documents.isOpen_set, decide_eq_true rfl, Bool.true_or]

theorem Moves.isOpen_didClose (h : Moves s (.didClose u) s' effects) :
    s'.documents.isOpen u = false := by
  cases h
  rw [Documents.isOpen, Documents.get?_close, if_pos rfl]
  rfl

/-- The editor opens a document. -/
def OpensAt (past : List (Moment Server Action Effect)) (k : ℕ) (u : Uri) : Prop :=
  HappensAt past k fun m => m.action = .didOpen u

/-- A document stays closed until it is opened again. -/
theorem closed_of_closesAt (h : Session perResource registers past s) (hk : ClosesAt past k u)
    (hkept : ∀ j, k < j → ¬OpensAt past j u) : s.documents.isOpen u = false := by
  induction h with
  | nil => exact absurd hk not_happensAt_nil
  | @snoc past s s' a effects h hs ih =>
    have hm := moves_of_step hs
    by_cases hclose : a = .didClose u
    · subst hclose
      exact hm.isOpen_didClose
    · rcases happensAt_concat.mp hk with hk | ⟨-, ha⟩
      · have hopen : a ≠ .didOpen u := fun ha => hkept _ hk.lt_length (HappensAt.last ha)
        rw [hm.isOpen_eq (wellFormed_of_session h) hopen hclose]
        exact ih hk fun j hkj hj => hkept j hkj hj.concat
      · exact absurd ha hclose

/-! ## Entries -/

/-- Entries belong to open documents, one each. -/
structure Sheltered (s : Server) : Prop where
  distinct : (s.cache.entries.map Prod.fst).Nodup
  opened : ∀ u i, s.cache.entry? u = some i → s.documents.isOpen u = true

theorem Moves.nodup_entries (h : Moves s a s' effects)
    (hn : (s.cache.entries.map Prod.fst).Nodup) : (s'.cache.entries.map Prod.fst).Nodup := by
  cases h with
  | didClose u => exact hn.sublist (List.filter_sublist.map _)
  | changeBegins => exact List.nodup_nil
  | startOpen _ t => exact Cache.nodup_keys_lookup hn t.uri
  | answered _ _ i answer =>
    show (((s.cache.settle i answer).1.entries).map Prod.fst).Nodup
    rw [Cache.settle_entries]
    exact hn
  | _ => exact hn

/-- A run makes an entry only while its document is open. -/
theorem Moves.entry_made_open (h : Moves s a s' effects) {r : ℕ} {run : Run} (ha : a = .start r)
    (hr : s.runs[r]? = some run) (hgrown : s.cache.cells.length < s'.cache.cells.length) :
    s'.documents.isOpen run.ticket.uri = true := by
  subst ha
  cases h with
  | startClosed => exact absurd hgrown (Nat.lt_irrefl _)
  | startOpen _ t hr' ho =>
    rw [hr] at hr'
    cases hr'
    exact ho

/-- One step keeps entries with open documents. -/
theorem Sheltered.step (h : Sheltered s) (hw : s.documents.WellFormed)
    (hm : Moves s a s' effects) : Sheltered s' where
  distinct := hm.nodup_entries h.distinct
  opened := by
    intro u i hi
    rcases hm.entry_cases hi with ⟨hi, hclose, -⟩ | ⟨rfl, hgrown, r, run, ha, hr, rfl⟩
    · by_cases hopen : a = .didOpen u
      · subst hopen
        exact hm.isOpen_didOpen
      · rw [hm.isOpen_eq hw hopen hclose]
        exact h.opened u i hi
    · exact hm.entry_made_open ha hr hgrown

/-- Entries belong to open documents in every state that can be reached. -/
theorem sheltered_of_session (h : Session perResource registers past s) : Sheltered s := by
  induction h with
  | nil => exact ⟨List.nodup_nil, nofun⟩
  | snoc h hs ih => exact ih.step (wellFormed_of_session h) (moves_of_step hs)

/-- There are no more entries than open documents. -/
theorem Sheltered.length_le (h : Sheltered s) :
    s.cache.entries.length ≤ s.documents.entries.length := by
  have hsub : s.cache.entries.map Prod.fst ⊆ s.documents.entries.map Prod.fst := by
    intro u hu
    obtain ⟨i, hi⟩ := Cache.mem_keys_iff.mp hu
    exact Documents.mem_keys_iff.mpr (h.opened u i hi)
  have hle := (List.subperm_of_subset h.distinct hsub).length_le
  rwa [List.length_map, List.length_map] at hle

/-- **A closed document has no settings entry.** In every state that handlers and runs can reach, in
whatever order their steps are taken: every document with an entry in the cache is open, and there
are no more entries than open documents. From a close on, whatever is still under way, a document
has no entry until it is opened again. An answer to a request never makes an entry, nor takes one
away. -/
theorem entries_of_open_documents (h : Session perResource registers past s) :
    (∀ u ∈ s.cache.entries.map Prod.fst, s.documents.isOpen u = true) ∧
      s.cache.entries.length ≤ s.documents.entries.length ∧
      (∀ u k, ClosesAt past k u → (∀ j, k < j → ¬OpensAt past j u) → s.cache.entry? u = none) ∧
      ∀ r answer s' effects, s.step (.answered r answer) = some (s', effects) →
        s'.cache.entries = s.cache.entries := by
  have hsheltered := sheltered_of_session h
  refine ⟨fun u hu => ?_, hsheltered.length_le, fun u k hk hkept => ?_, ?_⟩
  · obtain ⟨i, hi⟩ := Cache.mem_keys_iff.mp hu
    exact hsheltered.opened u i hi
  · have hclosed := closed_of_closesAt h hk hkept
    cases hu : s.cache.entry? u with
    | none => rfl
    | some i =>
      rw [hsheltered.opened u i hu] at hclosed
      cases hclosed
  · intro r answer s' effects hs
    cases moves_of_step hs with
    | answered _ _ i _ _ => exact Cache.settle_entries s.cache i answer

/-- A document is closed twice while a request for its settings is under way, and a run for it has
not begun yet. Then the request is answered, and the run begins. -/
def abandoned : List (Moment Server Action Effect) × Server :=
  replay step (initial.introduced true false)
    [.didOpen Documents.sampleFile, .start 0, .ask 0, .proceed 0, .didSave Documents.sampleFile,
      .didClose Documents.sampleFile, .didClose Documents.sampleFile,
      .answered 0 (.ok ⟨120, 1000⟩), .start 1]

theorem entries_of_open_documents_abandoned :
    ClosesAt abandoned.1 6 Documents.sampleFile ∧
      (abandoned.2.cache.cell 0).value = some ⟨120, 1000⟩ ∧
      abandoned.2.cache.entry? Documents.sampleFile = none := by
  have h : Session true false abandoned.1 abandoned.2 := replay_trace _ _ _
  have hclose : ClosesAt abandoned.1 6 Documents.sampleFile := ⟨_, rfl, rfl⟩
  refine ⟨hclose, by decide, (entries_of_open_documents h).2.2.1 _ 6 hclose fun j hj hopen => ?_⟩
  have hlt : j < 9 := hopen.lt_length
  obtain ⟨m, hm, ha⟩ := hopen
  obtain rfl | rfl : j = 7 ∨ j = 8 := by omega
  · cases hm
    cases ha
  · cases hm
    cases ha

end Server

end LineLint
