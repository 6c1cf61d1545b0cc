import LineLint.Proofs.Documents.History

/-!
# The numbers on tickets

Tickets are numbered 1, 2, 3 and so on in the order in which they are given out, over all documents.
Whatever is done in between, made-up tickets included, the table keeps to these numbers: a document
waits for a ticket that was given out for it and for no other document. A request that is refused
leaves no gap. The next number is computed before it is known whether it will be used; as long as
there are few enough tickets, a counter of 64 bits has room for it.

* `issued` — the tickets of a history, in order.
* `request?`, `requestEach?`, `call?` — the same operations with a counter of 64 bits, which stop
  where it overflows.
* `Numbered` — how the table agrees with the tickets that were given out.

Results:

* `Numbered.step`, `numbered`: the agreement is kept by every call, and so holds of every history.
* `Numbered.pending_unique`: no two documents wait for the same number.
* `request_eq_none_iff`: which requests are refused.
* `call?_eq_some`, `trace_call?`: where the counter of 64 bits does not overflow.
* `tickets_numbered`: what holds of the documents after every history.
-/

namespace LineLint

/-- The ticket that a call gives back. -/
def Outcome.ticket? : Outcome → Option Ticket
  | .ticket t => some t
  | .told _ => none

namespace Documents

variable {past : List (Moment Documents Call Outcome)} {m : Moment Documents Call Outcome}
  {d : Documents} {doc : Document} {c : Call} {u v : Uri} {t : Ticket} {n : ℕ}

/-- The tickets that were given out, in order. -/
def issued (past : List (Moment Documents Call Outcome)) : List Ticket :=
  past.flatMap fun m => m.effects.filterMap Outcome.ticket?

@[simp]
theorem issued_concat : issued (past ++ [m]) =
    issued past ++ m.effects.filterMap Outcome.ticket? := by
  simp [issued]

theorem filterMap_ticket? (d : Documents) (c : Call) :
    (d.call c).2.filterMap Outcome.ticket? = d.tickets c := by
  have htickets : ∀ ts : List Ticket, (ts.map Outcome.ticket).filterMap Outcome.ticket? = ts := by
    intro ts
    rw [List.filterMap_map]
    exact List.filterMap_some
  cases c with
  | openDocument u => exact htickets _
  | request u => exact htickets _
  | requestAll => exact htickets _
  | close u => rfl
  | finish t => rfl

/-! ## Numbers given out -/

/-- How the table agrees with the tickets that were given out: they are numbered in order up to the
last number, and a document waits for one that was given out for it. -/
structure Numbered (past : List (Moment Documents Call Outcome)) (d : Documents) : Prop where
  wellFormed : WellFormed d
  tokens : (issued past).map Ticket.token = List.range' 1 d.lastToken
  owned : ∀ u n, d.pending? u = some n →
    ∃ t ∈ issued past, t.uri = u ∧ t.token = n ∧ u.localPath = some t.path

theorem numbered_nil : Numbered [] empty where
  wellFormed := wellFormed_empty
  tokens := rfl
  owned := by intro u n h; cases h

/-- A ticket that is given out carries the path of its document. -/
theorem localPath_of_mem_tickets (h : WellFormed d) (ht : t ∈ d.tickets c) :
    t.uri.localPath = some t.path :=
  ((h.call c).path _ _ ((issues_call h c).waits t ht)).symm

/-- One call: its tickets carry the numbers that follow, and a document waits for its new ticket or
goes on waiting for the one it had. -/
theorem Numbered.step (h : Numbered past d) (c : Call) :
    Numbered (past ++ [⟨d, c, (d.call c).2, (d.call c).1⟩]) (d.call c).1 := by
  have hi := issues_call h.wellFormed c
  have hissued : issued (past ++ [⟨d, c, (d.call c).2, (d.call c).1⟩]) =
      issued past ++ d.tickets c := by
    rw [issued_concat, filterMap_ticket?]
  refine ⟨h.wellFormed.call c, ?_, ?_⟩
  · have hlast : (d.call c).1.lastToken = d.lastToken + (d.tickets c).length := by
      rw [hi.last, lastToken_touched]
    rw [hissued, List.map_append, h.tokens, hi.tokens, lastToken_touched, hlast,
      ← List.range'_append_1, Nat.add_comm 1]
  · intro u n hn
    rw [hissued]
    -- a document waits for a ticket of this call, or for what it waited for before
    by_cases hu : ∃ t ∈ d.tickets c, t.uri = u
    · obtain ⟨t, ht, rfl⟩ := hu
      rw [hi.pending?_eq ht] at hn
      exact ⟨t, List.mem_append_right _ ht, rfl, Option.some.inj hn,
        localPath_of_mem_tickets h.wellFormed ht⟩
    · rw [hi.pending?_other fun t ht htu => hu ⟨t, ht, htu⟩] at hn
      obtain ⟨t, ht, howned⟩ := h.owned u n (pending?_of_touched hn)
      exact ⟨t, List.mem_append_left _ ht, howned⟩

/-- The table agrees with the tickets of every history, also if made-up tickets are handed in. -/
theorem numbered (h : Calls past d) : Numbered past d := by
  induction h with
  | nil => exact numbered_nil
  | @snoc past d d' c effects _ hs ih =>
    have hcall := Option.some.inj hs
    have hafter : d' = (d.call c).1 := by rw [hcall]
    have heffects : effects = (d.call c).2 := by rw [hcall]
    rw [hafter, heffects]
    exact ih.step c

section

variable (h : Numbered past d)
include h

theorem Numbered.length_issued : (issued past).length = d.lastToken := by
  have hlength := congrArg List.length h.tokens
  simpa using hlength

/-- The tickets carry the numbers of their places. -/
theorem Numbered.token_at (ht : (issued past)[n]? = some t) : t.token = n + 1 := by
  have htoken : ((issued past).map Ticket.token)[n]? = some t.token := by
    rw [List.getElem?_map, ht]
    rfl
  rw [h.tokens] at htoken
  obtain ⟨hn, hat⟩ := List.getElem?_eq_some_iff.mp htoken
  rw [← hat, List.getElem_range']
  omega

/-- A ticket that was given out stands at the place of its number. -/
theorem Numbered.issued_at (ht : t ∈ issued past) :
    1 ≤ t.token ∧ t.token ≤ d.lastToken ∧ (issued past)[t.token - 1]? = some t := by
  obtain ⟨k, hk⟩ := List.mem_iff_getElem?.mp ht
  have htoken := h.token_at hk
  have hlt := (List.getElem?_eq_some_iff.mp hk).1
  rw [h.length_issued] at hlt
  refine ⟨by omega, by omega, ?_⟩
  rw [htoken, Nat.add_sub_cancel]
  exact hk

/-- The number for which a document waits is one of those given out, and the ticket with this number
is for the document and carries its path. -/
theorem Numbered.ticket_of_pending (hd : (u, doc) ∈ d.entries) (hn : doc.pending = some n) :
    1 ≤ n ∧ n ≤ d.lastToken ∧
      ∃ path, doc.path = some path ∧ (issued past)[n - 1]? = some ⟨u, path, n⟩ := by
  have hget := h.wellFormed.mem_entries_iff.mp hd
  have hpending : d.pending? u = some n := by
    rw [pending?, hget]
    exact hn
  obtain ⟨⟨_, path, _⟩, ht, rfl, rfl, hpath⟩ := h.owned u n hpending
  obtain ⟨hpos, hle, hat⟩ := h.issued_at ht
  exact ⟨hpos, hle, path, (h.wellFormed.path _ doc hget).trans hpath, hat⟩

/-- No two documents wait for the same number: there is only one ticket with it. -/
theorem Numbered.pending_unique {doc' : Document} (hd : (u, doc) ∈ d.entries)
    (hd' : (v, doc') ∈ d.entries) (hn : doc.pending = some n) (hn' : doc'.pending = some n) :
    u = v := by
  obtain ⟨-, -, path, -, hat⟩ := h.ticket_of_pending hd hn
  obtain ⟨-, -, path', -, hat'⟩ := h.ticket_of_pending hd' hn'
  rw [hat] at hat'
  exact congrArg Ticket.uri (Option.some.inj hat')

end

/-! ## Requests that are refused -/

/-- A request is refused if the document is not open or has no local file, and only then. -/
theorem request_eq_none_iff (h : WellFormed d) :
    (d.request u).2 = none ↔ d.isOpen u = false ∨ u.localPath = none := by
  have hpath : (d.get? u).bind Document.path = none ↔ d.isOpen u = false ∨ u.localPath = none := by
    rw [← not_iff_not]
    refine (path_ne_none_iff h u).trans ?_
    simp [Option.isSome_iff_ne_none]
  rw [← hpath]
  cases hp : (d.get? u).bind Document.path with
  | none => simp [request_none hp]
  | some path => simp [request_some hp]

/-- A request that is refused changes nothing. -/
theorem request_refused (h : (d.request u).2 = none) : d.request u = (d, none) := by
  cases hp : (d.get? u).bind Document.path with
  | none => exact request_none hp
  | some path => rw [request_some hp] at h; cases h

/-! ## A counter of 64 bits -/

/-- Asks for a run, with a counter of 64 bits. The next number is computed first, before anything is
known of the document. -/
def request? (d : Documents) (u : Uri) : Option (Documents × Option Ticket) :=
  if d.lastToken + 1 < UInt64.size then some (d.request u) else none

/-- Asks for a run on each of some URIs, with a counter of 64 bits. -/
def requestEach? : Documents → List Uri → Option (Documents × List Ticket)
  | d, [] => some (d, [])
  | d, u :: us => do
    let (d, ticket) ← d.request? u
    let (d, tickets) ← requestEach? d us
    return (d, ticket.toList ++ tickets)

/-- Makes a call, with a counter of 64 bits: there is no answer if it overflows. -/
def call? (d : Documents) : Call → Option (Documents × List Outcome)
  | .openDocument u => do
    let (d, ticket) ← (d.set u ⟨u.localPath, none⟩).request? u
    return (d, ticket.toList.map .ticket)
  | .request u => do
    let (d, ticket) ← d.request? u
    return (d, ticket.toList.map .ticket)
  | .requestAll => do
    let (d, tickets) ← d.requestEach? (d.entries.map Prod.fst)
    return (d, tickets.map .ticket)
  | .close u => some (d.call (.close u))
  | .finish t => some (d.call (.finish t))

theorem request?_eq_some (h : d.lastToken + 1 < UInt64.size) :
    d.request? u = some (d.request u) :=
  if_pos h

theorem lastToken_le_requestEach (us : List Uri) :
    ∀ d : Documents, d.lastToken ≤ (d.requestEach us).1.lastToken := by
  induction us with
  | nil => intro d; exact Nat.le_refl _
  | cons u us ih =>
    intro d
    rw [requestEach]
    exact Nat.le_trans (issues_request d u).lastToken_le (ih _)

/-- Many requests: there is room for each number if there is room after the last. -/
theorem requestEach?_eq_some (us : List Uri) :
    ∀ d : Documents, (d.requestEach us).1.lastToken + 1 < UInt64.size →
      d.requestEach? us = some (d.requestEach us) := by
  induction us with
  | nil => intro d _; rfl
  | cons u us ih =>
    intro d h
    rw [requestEach] at h
    have hfirst := (issues_request d u).lastToken_le
    have hmore := lastToken_le_requestEach us (d.request u).1
    have hroom : d.lastToken + 1 < UInt64.size := by
      dsimp only at h
      omega
    rw [requestEach?, request?_eq_some hroom]
    simp only [Option.bind_eq_bind, Option.bind_some]
    rw [ih _ h]
    rfl

/-- One call: the counter does not overflow if there is room for one more number after it. -/
theorem call?_eq_some (hle : d.lastToken ≤ (d.call c).1.lastToken)
    (h : (d.call c).1.lastToken + 1 < UInt64.size) : d.call? c = some (d.call c) := by
  have hroom : d.lastToken + 1 < UInt64.size := by omega
  cases c with
  | openDocument u =>
    have hset : (d.set u ⟨u.localPath, none⟩).lastToken + 1 < UInt64.size := hroom
    rw [call?, request?_eq_some hset]
    rfl
  | request u =>
    rw [call?, request?_eq_some hroom]
    rfl
  | requestAll =>
    rw [call?, requestEach?_eq_some _ d h]
    rfl
  | close u => rfl
  | finish t => rfl

/-- A history with few enough tickets is also one of a counter of 64 bits: it never overflows. -/
theorem trace_call? (h : Calls past d) (hfew : (issued past).length < UInt64.size - 1) :
    Trace call? empty past d := by
  induction h with
  | nil => exact .nil
  | @snoc past d d' c effects hpast hs ih =>
    have hbefore := (numbered hpast).length_issued
    have hafter := (numbered (hpast.snoc hs)).length_issued
    have hgrown : (issued past).length ≤ (issued (past ++ [⟨d, c, effects, d'⟩])).length := by
      rw [issued_concat, List.length_append]
      exact Nat.le_add_right _ _
    have hcall : d.call c = (d', effects) := Option.some.inj hs
    -- the last number counts the tickets, before the call and after it
    refine (ih (by omega)).snoc ?_
    rw [call?_eq_some, hcall]
    · rw [hcall]
      show d.lastToken ≤ d'.lastToken
      omega
    · rw [hcall]
      show d'.lastToken + 1 < UInt64.size
      omega

/-- **The n-th ticket carries the number n, and documents wait for their own tickets.** Take any
history of calls, in which any tickets may be handed in. The last number is the number of tickets
given out, and each ticket carries the number of its place. Requests on documents that are not open
or have no local file are refused, they alone, and change nothing. Each URI stands once in the
table, with the path that it names. A number for which a document waits has been given out, for this
document and its path; no two documents wait for the same one. If there are fewer than 2⁶⁴ - 1
tickets, a counter of 64 bits goes through the same history without an overflow, and there is room
for the next request. -/
theorem tickets_numbered (h : Calls past d) :
    d.lastToken = (issued past).length ∧
    (∀ n t, (issued past)[n]? = some t → t.token = n + 1) ∧
    (∀ u, ((d.request u).2 = none ↔ d.isOpen u = false ∨ u.localPath = none) ∧
      ((d.request u).2 = none → (d.request u).1 = d)) ∧
    (d.entries.map Prod.fst).Nodup ∧
    (∀ u doc, (u, doc) ∈ d.entries → doc.path = u.localPath) ∧
    (∀ u doc n, (u, doc) ∈ d.entries → doc.pending = some n → 1 ≤ n ∧ n ≤ d.lastToken ∧
      ∃ path, doc.path = some path ∧ (issued past)[n - 1]? = some ⟨u, path, n⟩) ∧
    (∀ u v doc doc' n, (u, doc) ∈ d.entries → (v, doc') ∈ d.entries →
      doc.pending = some n → doc'.pending = some n → u = v) ∧
    ((issued past).length < UInt64.size - 1 →
      Trace call? empty past d ∧ ∀ u, d.request? u = some (d.request u)) := by
  have hn := numbered h
  refine ⟨hn.length_issued.symm, fun n t ht => hn.token_at ht, fun u => ?_, hn.wellFormed.keys,
    fun u doc hd => hn.wellFormed.path u doc (hn.wellFormed.mem_entries_iff.mp hd),
    fun u doc n => hn.ticket_of_pending, fun u v doc doc' n => hn.pending_unique, fun hfew => ?_⟩
  · refine ⟨request_eq_none_iff hn.wellFormed, fun hnone => ?_⟩
    rw [request_refused hnone]
  · have hlast := hn.length_issued
    exact ⟨trace_call? h hfew, fun u => request?_eq_some (by omega)⟩

/-- A document that is in no local file. -/
def unfiled : Uri := ⟨"untitled", none, "notes", none, none⟩

/-- Two documents are opened, and one without a local file, which gets no ticket, not even when all
are asked for. A made-up ticket names one document with the number of the other, and a document is
asked for that is not open any more. -/
def mixed : List (Moment Documents Call Outcome) × Documents :=
  replay (fun d c => some (d.call c)) empty
    [.openDocument sampleFile, .openDocument unfiled, .request unfiled, .openDocument otherFile,
      .finish ⟨sampleFile, [47, 97], 2⟩, .requestAll, .close otherFile, .request otherFile,
      .openDocument otherFile]

theorem tickets_numbered_mixed :
    issued mixed.1 = [⟨sampleFile, [47, 97], 1⟩, ⟨otherFile, [47, 98], 2⟩,
      ⟨sampleFile, [47, 97], 3⟩, ⟨otherFile, [47, 98], 4⟩, ⟨otherFile, [47, 98], 5⟩] ∧
    mixed.2 = ⟨[(sampleFile, ⟨some [47, 97], some 3⟩), (unfiled, ⟨none, none⟩),
      (otherFile, ⟨some [47, 98], some 5⟩)], 5⟩ ∧
    mixed.2.lastToken = (issued mixed.1).length ∧
    mixed.2.request unfiled = (mixed.2, none) ∧
    Trace call? empty mixed.1 mixed.2 := by
  have h : Calls mixed.1 mixed.2 := replay_trace _ _ _
  obtain ⟨hlast, -, hrefused, -, -, -, -, hroom⟩ := tickets_numbered h
  have hnone : (mixed.2.request unfiled).2 = none :=
    (hrefused unfiled).1.mpr (Or.inr (by decide))
  have hfew : (issued mixed.1).length < UInt64.size - 1 := by
    rw [show (issued mixed.1).length = 5 by decide]
    decide
  exact ⟨by decide, by decide, hlast, Prod.ext ((hrefused unfiled).2 hnone) hnone, (hroom hfew).1⟩

end Documents

end LineLint
