import LineLint.Proofs.Server.Runs
import Mathlib.Data.List.Nodup
import Mathlib.Data.List.Perm.Basic

/-!
# No document is stuck

A handler gives out tickets under the lock of the documents, and spawns their runs when it no longer
holds it, one after the other. Here these are steps of their own, between which anything else may
happen. A document that waits for a token waits for exactly one run, or for one ticket that a
handler is about to turn into a run; so if there is neither, no document waits.

* `Handling` — a server and the tickets that its handlers hold.
* `Handling.step` — the steps of the server, with those that give out tickets cut into pieces.
* `tickets`, `outstanding` — all tickets, and those whose run is not finished.
* `Attended` — the invariant: documents wait for outstanding tickets.

Results:

* `handling_of_session`: what a server can reach, it can reach in pieces.
* `Attended.issue`, `Attended.keep`: giving out tickets, and everything else.
* `attended_of_trace`: the invariant of all reachable states.
* `waits_for_one_run`: a document that waits does so for exactly one run, and that run begins.
-/

namespace LineLint

/-- A server in the middle of what its handlers do: `held` are the tickets that have been given out
and are yet to be turned into runs. -/
structure Handling where
  server : Server
  held : List Ticket

/-- Whether an action gives out tickets. -/
def Server.Action.issues : Server.Action → Bool
  | .didOpen _ => true
  | .didSave _ => true
  | .changeRevalidates _ => true
  | _ => false

/-- Whether a run is over. -/
def Run.isFinished (run : Run) : Bool :=
  match run.phase with
  | .finished => true
  | _ => false

namespace Handling

open Server (Moves Session Shift Current)

/-- A step. -/
inductive Action where
  /-- A step of the server that gives out no tickets. -/
  | plain (action : Server.Action)
  /-- A document is opened, and the handler holds the ticket. -/
  | opens (uri : Uri)
  /-- A document is saved, and the handler holds the ticket. -/
  | saves (uri : Uri)
  /-- Tickets are given out because of a configuration change, and the handler holds them. -/
  | revalidates (change : ℕ)
  /-- A handler spawns the run of a ticket that it holds. -/
  | spawns (place : ℕ)

/-- The tickets of new documents are held. -/
def hold (x : Handling) (documents : Documents) (tickets : List Ticket) : Handling :=
  ⟨{ x.server with documents }, x.held ++ tickets⟩

/-- Takes a step, if it is possible in this state. -/
def step (x : Handling) : Action → Option (Handling × List Effect)
  | .plain a =>
    if a.issues then none
    else (x.server.step a).map fun next => ({ x with server := next.1 }, next.2)
  | .opens u =>
    let (documents, ticket) := x.server.documents.openDocument u
    some (x.hold documents ticket.toList, (x.server.didOpen u).2)
  | .saves u =>
    let (documents, ticket) := x.server.documents.request u
    some (x.hold documents ticket.toList, (x.server.didSave u).2)
  | .revalidates k =>
    match x.server.changes[k]? with
    | some ⟨_, .applied⟩ =>
      let (documents, tickets) := x.server.documents.requestAll
      some (Handling.hold ⟨x.server.setChange k .done, x.held⟩ documents tickets,
        [.log (.revalidating tickets.length)])
    | _ => none
  | .spawns i =>
    match x.held[i]? with
    | some t => some (⟨x.server.spawn t, x.held.eraseIdx i⟩, [])
    | none => none

/-- A server whose editor has introduced itself, and has done nothing else yet. -/
def initial (perResource registers : Bool) : Handling :=
  ⟨Server.initial.introduced perResource registers, []⟩

variable {x x' : Handling} {a : Action} {effects : List Effect} {perResource registers : Bool}
  {past : List (Moment Handling Action Effect)} {t : Ticket} {ts : List Ticket} {s : Server}
  {u : Uri} {n r : ℕ}

/-! ## The steps of the server in pieces -/

/-- The tickets that were given out last can be turned into runs at once, in order. -/
theorem trace_spawns {start : Handling} (ts : List Ticket) :
    ∀ (past : List (Moment Handling Action Effect)) (s : Server) (held : List Ticket),
      Trace step start past ⟨s, held ++ ts⟩ →
      ∃ past, Trace step start past ⟨s.issued s.documents ts, held⟩ := by
  induction ts with
  | nil =>
    intro past s held h
    rw [List.append_nil] at h
    exact ⟨past, by simpa [Server.issued] using h⟩
  | cons t ts ih =>
    intro past s held h
    have hstep : step ⟨s, held ++ t :: ts⟩ (.spawns held.length) =
        some (⟨s.spawn t, held ++ ts⟩, []) := by
      simp [step, List.eraseIdx_append_of_length_le]
    obtain ⟨past, hpast⟩ := ih _ _ _ (h.snoc hstep)
    exact ⟨past, by simpa [Server.issued, Server.spawn] using hpast⟩

/-- What a server can reach, it can reach in pieces. -/
theorem handling_of_session {past : List (Moment Server Server.Action Effect)}
    (h : Session perResource registers past s) :
    ∃ past, Trace step (initial perResource registers) past ⟨s, []⟩ := by
  induction h with
  | nil => exact ⟨[], .nil⟩
  | @snoc _ s s' a effects _ hs ih =>
    obtain ⟨past, hpast⟩ := ih
    have hplain : a.issues = false →
        ∃ past, Trace step (initial perResource registers) past ⟨s', []⟩ := by
      intro ha
      have hstep : step ⟨s, []⟩ (.plain a) = some (⟨s', []⟩, effects) := by simp [step, ha, hs]
      exact ⟨_, hpast.snoc hstep⟩
    cases Server.moves_of_step hs with
    | didOpen u => exact trace_spawns _ _ _ [] (hpast.snoc (a := .opens u) rfl)
    | didSave u => exact trace_spawns _ _ _ [] (hpast.snoc (a := .saves u) rfl)
    | changeRevalidates k configuration hk =>
      have hstep : step ⟨s, []⟩ (.revalidates k) =
          some (hold ⟨s.setChange k .done, []⟩ s.documents.requestAll.1 s.documents.requestAll.2,
            [.log (.revalidating s.documents.requestAll.2.length)]) := by
        simp [step, hk]
      exact trace_spawns _ _ _ [] (hpast.snoc hstep)
    | _ => exact hplain rfl

/-! ## Tickets -/

/-- All tickets that have been given out and are held or have become runs. -/
def tickets (x : Handling) : List Ticket := x.server.runs.map Run.ticket ++ x.held

/-- The tickets whose runs are not finished: those of runs under way, and those that handlers are
about to turn into runs. -/
def outstanding (x : Handling) : List Ticket :=
  (x.server.runs.filter fun run => !run.isFinished).map Run.ticket ++ x.held

theorem isFinished_iff {run : Run} : run.isFinished = true ↔ run.phase = .finished := by
  obtain ⟨t, p⟩ := run
  cases p <;> simp [Run.isFinished]

theorem mem_outstanding : t ∈ x.outstanding ↔
    (∃ (r : ℕ) (p : Phase), x.server.runs[r]? = some ⟨t, p⟩ ∧ p ≠ .finished) ∨ t ∈ x.held := by
  unfold outstanding
  rw [List.mem_append, List.mem_map]
  refine or_congr_left ⟨?_, ?_⟩
  · rintro ⟨⟨t', p⟩, hmem, rfl⟩
    obtain ⟨hrun, hp⟩ := List.mem_filter.mp hmem
    obtain ⟨r, hr⟩ := List.mem_iff_getElem?.mp hrun
    refine ⟨r, p, hr, fun hfin => ?_⟩
    rw [isFinished_iff.mpr hfin] at hp
    cases hp
  · rintro ⟨r, p, hr, hp⟩
    refine ⟨⟨t, p⟩, List.mem_filter.mpr ⟨List.mem_of_getElem? hr, ?_⟩, rfl⟩
    rw [Bool.not_eq_true', ← Bool.not_eq_true, isFinished_iff]
    exact hp

theorem outstanding_sublist (x : Handling) : x.outstanding.Sublist x.tickets :=
  (List.filter_sublist.map Run.ticket).append (List.Sublist.refl _)

/-- A phase is not part of a ticket. -/
@[simp]
theorem map_ticket_setPhase (s : Server) (r : ℕ) (q : Phase) :
    (s.setPhase r q).runs.map Run.ticket = s.runs.map Run.ticket := by
  show (s.runs.modify r fun run => { run with phase := q }).map Run.ticket = _
  exact map_modify_eq (by intro run; rfl) s.runs r

/-! ## The invariant -/

/-- Documents wait for outstanding tickets. Tickets carry different tokens, so that no two of them
can be meant. -/
structure Attended (x : Handling) : Prop where
  table : x.server.documents.WellFormed
  given : ∀ t ∈ x.tickets,
    t.token ≤ x.server.documents.lastToken ∧ t.uri.localPath = some t.path
  distinct : (x.tickets.map Ticket.token).Nodup
  awaited : ∀ u n, x.server.documents.pending? u = some n →
    ∃ t ∈ x.outstanding, t.uri = u ∧ t.token = n

theorem attended_initial (perResource registers : Bool) :
    Attended (initial perResource registers) where
  table := Documents.wellFormed_empty
  given := nofun
  distinct := List.nodup_nil
  awaited := nofun

/-- Tickets are given out, and are outstanding from then on. -/
theorem Attended.issue (h : Attended x) {d : Documents}
    (hi : Documents.Issues d x'.server.documents ts)
    (last : d.lastToken = x.server.documents.lastToken)
    (path : ∀ u doc, d.get? u = some doc → doc.path = u.localPath)
    (waits : ∀ u n, d.pending? u = some n → x.server.documents.pending? u = some n)
    (table : x'.server.documents.WellFormed) (hall : x'.tickets.Perm (x.tickets ++ ts))
    (hout : ∀ t, t ∈ x.outstanding ∨ t ∈ ts → t ∈ x'.outstanding) : Attended x' where
  table := table
  given := by
    intro t ht
    rcases List.mem_append.mp (hall.mem_iff.mp ht) with ht | ht
    · have hle := hi.lastToken_le
      have hold := h.given t ht
      exact ⟨by omega, hold.2⟩
    · exact ⟨(hi.token_mem ht).2, hi.localPath path ht⟩
  distinct := by
    rw [(hall.map Ticket.token).nodup_iff, List.map_append, List.nodup_append]
    refine ⟨h.distinct, hi.tokens ▸ List.nodup_range', ?_⟩
    intro a ha b hb
    obtain ⟨t, ht, rfl⟩ := List.mem_map.mp ha
    obtain ⟨t', ht', rfl⟩ := List.mem_map.mp hb
    have hold := (h.given t ht).1
    have hnew := (hi.token_mem ht').1
    omega
  awaited := by
    intro u n hn
    by_cases hu : ∃ t ∈ ts, t.uri = u
    · obtain ⟨t, ht, rfl⟩ := hu
      rw [hi.pending?_eq ht] at hn
      exact ⟨t, hout t (Or.inr ht), rfl, Option.some.inj hn⟩
    · rw [hi.pending?_other fun t ht htu => hu ⟨t, ht, htu⟩] at hn
      obtain ⟨t, ht, htu, htn⟩ := h.awaited u n (waits u n hn)
      exact ⟨t, hout t (Or.inl ht), htu, htn⟩

/-- No tickets are given out, and those that documents wait for stay outstanding. -/
theorem Attended.keep (h : Attended x) (table : x'.server.documents.WellFormed)
    (hlast : x.server.documents.lastToken ≤ x'.server.documents.lastToken)
    (waits : ∀ u n, x'.server.documents.pending? u = some n →
      x.server.documents.pending? u = some n)
    (hall : x'.tickets.Perm x.tickets)
    (hout : ∀ t ∈ x.outstanding, Current x'.server t → t ∈ x'.outstanding) : Attended x' where
  table := table
  given := by
    intro t ht
    obtain ⟨hle, hpath⟩ := h.given t (hall.mem_iff.mp ht)
    exact ⟨by omega, hpath⟩
  distinct := (hall.map Ticket.token).nodup_iff.mpr h.distinct
  awaited := by
    intro u n hn
    obtain ⟨t, ht, rfl, rfl⟩ := h.awaited u n (waits u n hn)
    exact ⟨t, hout t ht hn, rfl, rfl⟩

/-- A run that moves on stays outstanding, and so does every other. -/
theorem outstanding_setPhase {held : List Ticket} {s' : Server} {p q : Phase}
    (run : s.runs[r]? = some ⟨t, p⟩) (runs : s'.runs = (s.setPhase r q).runs) {t' : Ticket}
    (ht : t' ∈ outstanding ⟨s, held⟩) (hq : t' = t → q ≠ .finished) :
    t' ∈ outstanding ⟨s', held⟩ := by
  rw [mem_outstanding] at ht ⊢
  rcases ht with ⟨i, p', hi, hp'⟩ | ht
  · left
    dsimp only at hi ⊢
    rw [runs]
    by_cases hir : i = r
    · rw [hir, run] at hi
      cases hi
      exact ⟨r, q, by rw [Server.runs_setPhase run, if_pos rfl], hq rfl⟩
    · exact ⟨i, p', by rw [Server.runs_setPhase run, if_neg hir, hi], hp'⟩
  · exact Or.inr ht

/-- A step of the server keeps the invariant. -/
theorem Attended.shift {held : List Ticket} {s' : Server} (h : Attended ⟨s, held⟩)
    (hs : Shift s s') (table : s'.documents.WellFormed)
    (hlast : s.documents.lastToken ≤ s'.documents.lastToken) : Attended ⟨s', held⟩ := by
  cases hs with
  | issues d ts issues last path waits runs =>
    refine h.issue issues last path waits table ?_ ?_
    · have hmap : s'.runs.map Run.ticket = s.runs.map Run.ticket ++ ts := by
        rw [runs, List.map_append, List.map_map]
        simp [Function.comp_def]
      show (s'.runs.map Run.ticket ++ held).Perm (s.runs.map Run.ticket ++ held ++ ts)
      rw [hmap, List.append_assoc, List.append_assoc]
      exact List.Perm.append_left _ List.perm_append_comm
    · intro t ht
      rw [mem_outstanding] at ht ⊢
      dsimp only at ht ⊢
      rw [runs]
      rcases ht with (⟨r, p, hr, hp⟩ | ht) | ht
      · have hlt := (List.getElem?_eq_some_iff.mp hr).1
        exact Or.inl ⟨r, p, by rw [List.getElem?_append_left hlt, hr], hp⟩
      · exact Or.inr ht
      · have hnew : (⟨t, .spawned⟩ : Run) ∈ s.runs ++ ts.map fun t => ⟨t, .spawned⟩ :=
          List.mem_append_right _ (List.mem_map_of_mem ht)
        obtain ⟨r, hr⟩ := List.mem_iff_getElem?.mp hnew
        exact Or.inl ⟨r, _, hr, nofun⟩
  | advances r t p q run runs unfinished documents =>
    refine h.keep table hlast (by rw [documents]; exact fun _ _ => id) ?_ ?_
    · show (s'.runs.map Run.ticket ++ held).Perm _
      rw [runs, map_ticket_setPhase]
      exact List.Perm.refl _
    · exact fun t' ht _ => outstanding_setPhase run runs ht fun _ => unfinished
  | ends r t p run unawaited waits runs =>
    refine h.keep table hlast waits ?_ ?_
    · show (s'.runs.map Run.ticket ++ held).Perm _
      rw [runs, map_ticket_setPhase]
      exact List.Perm.refl _
    · intro t' ht hc
      exact outstanding_setPhase run runs ht fun htt => absurd (htt ▸ hc) unawaited
  | quiet waits runs =>
    refine h.keep table hlast waits ?_ ?_
    · show (s'.runs.map Run.ticket ++ held).Perm _
      rw [runs]
      exact List.Perm.refl _
    · intro t ht _
      rw [mem_outstanding] at ht ⊢
      dsimp only at ht ⊢
      rwa [runs]

/-- A handler holds the tickets that it has given out. -/
theorem Attended.hold (h : Attended x) {d documents : Documents}
    (hi : Documents.Issues d documents ts) (last : d.lastToken = x.server.documents.lastToken)
    (path : ∀ u doc, d.get? u = some doc → doc.path = u.localPath)
    (waits : ∀ u n, d.pending? u = some n → x.server.documents.pending? u = some n)
    (table : documents.WellFormed) : Attended (x.hold documents ts) := by
  refine h.issue hi last path waits table ?_ ?_
  · show (x.server.runs.map Run.ticket ++ (x.held ++ ts)).Perm _
    rw [← List.append_assoc]
    exact List.Perm.refl _
  · intro t ht
    rw [mem_outstanding] at ht ⊢
    show _ ∨ t ∈ x.held ++ ts
    rw [List.mem_append, ← or_assoc]
    exact ht

/-- A handler spawns the run of a ticket that it holds. -/
theorem Attended.spawn (h : Attended x) {i : ℕ} (hi : x.held[i]? = some t) :
    Attended ⟨x.server.spawn t, x.held.eraseIdx i⟩ := by
  have hperm : (t :: x.held.eraseIdx i).Perm x.held := by
    obtain ⟨hlt, rfl⟩ := List.getElem?_eq_some_iff.mp hi
    exact List.getElem_cons_eraseIdx_perm hlt
  refine h.keep h.table (Nat.le_refl _) (fun _ _ => id) ?_ ?_
  · show ((x.server.spawn t).runs.map Run.ticket ++ x.held.eraseIdx i).Perm
      (x.server.runs.map Run.ticket ++ x.held)
    rw [Server.spawn, List.map_append, List.append_assoc]
    exact List.Perm.append_left _ hperm
  · intro t' ht _
    rw [mem_outstanding] at ht ⊢
    simp only [Server.spawn]
    rcases ht with ⟨r, p, hr, hp⟩ | ht
    · exact Or.inl ⟨r, p, getElem?_concat_iff.mpr (Or.inl hr), hp⟩
    · rcases List.mem_cons.mp (hperm.mem_iff.mpr ht) with rfl | ht
      · refine Or.inl ⟨_, .spawned, getElem?_concat_iff.mpr (Or.inr ⟨rfl, rfl⟩), ?_⟩
        intro hfinished
        cases hfinished
      · exact Or.inr ht

/-- One step keeps the invariant. -/
theorem Attended.step (h : Attended x) (hs : x.step a = some (x', effects)) : Attended x' := by
  have htable := h.table
  cases a with
  | plain action =>
    simp only [Handling.step] at hs
    split_ifs at hs
    obtain ⟨⟨s', _⟩, hstep, hx⟩ := Option.map_eq_some_iff.mp hs
    cases hx
    have hm := Server.moves_of_step hstep
    exact h.shift (Server.shift_of_moves htable hm) (hm.wellFormed htable) (hm.lastToken_le htable)
  | opens u =>
    cases hs
    exact h.hold (Documents.issues_openDocument _ u) rfl (htable.set u).path
      (fun _ _ => Server.pending?_of_set) (htable.openDocument u)
  | saves u =>
    cases hs
    exact h.hold (Documents.issues_request _ u) rfl htable.path (fun _ _ => id) (htable.request u)
  | revalidates k =>
    simp only [Handling.step] at hs
    split at hs
    · cases hs
      have hx : Attended ⟨x.server.setChange k .done, x.held⟩ :=
        ⟨h.table, h.given, h.distinct, h.awaited⟩
      exact hx.hold (Documents.issues_requestAll htable) rfl htable.path (fun _ _ => id)
        htable.requestAll
    · cases hs
  | spawns i =>
    simp only [Handling.step] at hs
    split at hs
    · rename_i t hi
      cases hs
      exact h.spawn hi
    · cases hs

/-- The invariant holds in every state that can be reached. -/
theorem attended_of_trace (h : Trace step (initial perResource registers) past x) :
    Attended x := by
  induction h with
  | nil => exact attended_initial perResource registers
  | snoc _ hs ih => exact ih.step hs

/-! ## What it means for documents -/

/-- The ticket for which a document waits is the only outstanding one with its token. -/
theorem Attended.only_one (h : Attended x) {doc : Document}
    (hd : x.server.documents.get? u = some doc) (hn : doc.pending = some n) :
    ∃ path, doc.path = some path ∧
      (x.outstanding.filter fun t => t.token = n) = [⟨u, path, n⟩] := by
  have hpending : x.server.documents.pending? u = some n := by
    rw [Documents.pending?, hd]
    exact hn
  obtain ⟨⟨u', path, n'⟩, ht, rfl, rfl⟩ := h.awaited u n hpending
  have hpath := (h.given _ (x.outstanding_sublist.subset ht)).2
  refine ⟨path, (h.table.path _ doc hd).trans hpath, ?_⟩
  exact filter_key_eq (h.distinct.sublist (x.outstanding_sublist.map _)) ht

/-- A run that begins while its document is open goes on. -/
theorem step_start (hr : x.server.runs[r]? = some ⟨t, .spawned⟩)
    (ho : x.server.documents.isOpen t.uri = true) :
    ∃ x' lookup, x.step (.plain (.start r)) = some (x', []) ∧
      x'.server.runs[r]? = some ⟨t, .claimed lookup⟩ := by
  have hstart : x.server.step (.start r) =
      some ({ x.server with cache := (x.server.cache.lookup t.uri).1 }.setPhase r
        (.claimed (x.server.cache.lookup t.uri).2), []) := by
    show x.server.start r = _
    simp [Server.start, hr, ho]
  refine ⟨_, (x.server.cache.lookup t.uri).2, by simp only [step, hstart]; rfl, ?_⟩
  exact (Server.runs_setPhase (s := { x.server with cache := _ }) hr r).trans (if_pos rfl)

/-- **No document is stuck.** In every state that can be reached, however the steps of handlers and
runs interleave: a document that waits for a token has a local file, and of all runs that are not
finished, spawned or about to be, exactly one carries that token; it carries the URI and the file of
the document, too, and it does not find the document closed when it begins. So if there is no such
run left, no open document waits. -/
theorem waits_for_one_run (h : Trace step (initial perResource registers) past x) :
    (∀ u doc n, x.server.documents.get? u = some doc → doc.pending = some n →
      ∃ path, doc.path = some path ∧
        (x.outstanding.filter fun t => t.token = n) = [⟨u, path, n⟩] ∧
        ∀ r t, x.server.runs[r]? = some ⟨t, .spawned⟩ → t.token = n →
          ∃ x' lookup, x.step (.plain (.start r)) = some (x', []) ∧
            x'.server.runs[r]? = some ⟨t, .claimed lookup⟩) ∧
      (x.outstanding = [] → ∀ u, x.server.documents.isOpen u = true →
        x.server.documents.state u = .idle) := by
  have hattended := attended_of_trace h
  constructor
  · intro u doc n hd hn
    obtain ⟨path, hpath, honly⟩ := hattended.only_one hd hn
    refine ⟨path, hpath, honly, fun r t hr htn => step_start hr ?_⟩
    have hmem : t ∈ x.outstanding.filter fun t => t.token = n := by
      rw [List.mem_filter, mem_outstanding]
      exact ⟨Or.inl ⟨r, _, hr, nofun⟩, by simpa using htn⟩
    rw [honly, List.mem_singleton] at hmem
    rw [hmem, Documents.isOpen, hd]
    rfl
  · intro hnone u ho
    obtain ⟨doc, hd⟩ := Option.isSome_iff_exists.mp ho
    cases hn : doc.pending with
    | none => simp [Documents.state, hd, hn]
    | some n =>
      obtain ⟨path, -, honly⟩ := hattended.only_one hd hn
      rw [hnone] at honly
      cases honly

/-- A document is opened and saved while the handler of the first still holds its ticket; then the
configuration changes, and only two of the three runs have been spawned. -/
def overlapping : List (Moment Handling Action Effect) × Handling :=
  replay step (initial false false)
    [.opens Documents.sampleFile, .saves Documents.sampleFile, .spawns 1,
      .plain (.changeBegins .null), .plain (.changeApplies 0), .revalidates 0, .spawns 0,
      .plain (.start 0)]

theorem waits_for_one_run_overlapping :
    overlapping.2.outstanding.map Ticket.token = [2, 1, 3] ∧
      overlapping.2.server.documents.state Documents.sampleFile = .validating ∧
      (overlapping.2.outstanding.filter fun t => t.token = 3) =
        [⟨Documents.sampleFile, textBytes "/a", 3⟩] := by
  have h : Trace step (initial false false) overlapping.1 overlapping.2 := replay_trace _ _ _
  refine ⟨by decide, by decide, ?_⟩
  obtain ⟨path, hpath, honly, -⟩ := (waits_for_one_run h).1 Documents.sampleFile
    ⟨some (textBytes "/a"), some 3⟩ 3 (by decide) rfl
  cases hpath
  exact honly

end Handling

end LineLint
