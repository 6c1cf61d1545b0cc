import LineLint.Proofs.Documents.History
import Mathlib.Data.List.Induction
import Mathlib.Order.Monotone.Basic

/-!
# Documents do not interfere

All documents draw their tokens from one counter, and a request for all of them goes through the
whole table. Still no document can tell whether there are others: if all that is done about other
documents is left out, it gets the same answers, up to the numbers on its tickets. These go down to
1, 2, 3 and so on.

* `Operation`, `Answer`, `Documents.operate` — the calls, and the questions that change nothing.
* `execute` — what comes of a sequence of operations on fresh documents.
* `rename` — other numbers on tickets, in an operation or an answer.
* `alone` — a sequence without what is done about other documents.
* `Twins` — documents among others, and one document alone.

Results:

* `Issues.ticket_cases`: a document gets at most one of the tickets that are given out at once.
* `Twins.other`, `Twins.operate`: one more operation, about other documents or about this one.
* `twins_execute`: the relation holds along every sequence of operations.
* `answers_without_others`: a document gets the same answers without the others.
-/

namespace LineLint

/-! ## Operations -/

/-- An operation on the open documents: a call, or a question. -/
inductive Operation where
  | call (call : Call)
  | isOpen (uri : Uri)
  | state (uri : Uri)
  deriving DecidableEq

/-- What an operation answers. -/
inductive Answer where
  | outcome (outcome : Outcome)
  | state (state : DocumentState)
  deriving DecidableEq

/-- The same ticket with another number. -/
def Ticket.rename (f : ℕ → ℕ) (t : Ticket) : Ticket := { t with token := f t.token }

/-- The same document with another number to wait for. -/
def Document.rename (f : ℕ → ℕ) (doc : Document) : Document :=
  { doc with pending := doc.pending.map f }

/-- The same call with other numbers on tickets. -/
def Call.rename (f : ℕ → ℕ) : Call → Call
  | .finish t => .finish (t.rename f)
  | c => c

/-- The same operation with other numbers on tickets. -/
def Operation.rename (f : ℕ → ℕ) : Operation → Operation
  | .call c => .call (c.rename f)
  | o => o

/-- The same answer with other numbers on tickets. -/
def Answer.rename (f : ℕ → ℕ) : Answer → Answer
  | .outcome (.ticket t) => .outcome (.ticket (t.rename f))
  | answer => answer

/-- Whether a call is about a document, or about all of them. -/
def Call.concerns (v : Uri) : Call → Bool
  | .openDocument u => u = v
  | .request u => u = v
  | .requestAll => true
  | .close u => u = v
  | .finish t => t.uri = v

/-- Whether an operation is about a document, or about all of them. -/
def Operation.concerns (v : Uri) : Operation → Bool
  | .call c => c.concerns v
  | .isOpen u => u = v
  | .state u => u = v

/-- Whether an answer is of interest for a document: tickets of others are not. -/
def Answer.concerns (v : Uri) : Answer → Bool
  | .outcome (.ticket t) => t.uri = v
  | _ => true

namespace Documents

/-- Carries out an operation. -/
def operate (d : Documents) : Operation → Documents × List Answer
  | .call c => ((d.call c).1, (d.call c).2.map .outcome)
  | .isOpen u => (d, [.outcome (.told (d.isOpen u))])
  | .state u => (d, [.state (d.state u)])

/-- The history of a sequence of operations on fresh documents, and the documents after it. -/
def execute (ops : List Operation) : List (Moment Documents Operation Answer) × Documents :=
  replay (fun d o => some (d.operate o)) empty ops

/-- A sequence without what is done about other documents, and with other numbers on tickets. -/
def alone (v : Uri) (f : ℕ → ℕ) (ops : List Operation) : List Operation :=
  (ops.filter (Operation.concerns v)).map (Operation.rename f)

/-- What was done and what it answered. -/
def transcript (past : List (Moment Documents Operation Answer)) :
    List (Operation × List Answer) :=
  past.map fun m => (m.action, m.effects)

/-- What was done about a document, and what it answered about the document. -/
def transcriptOf (v : Uri) (past : List (Moment Documents Operation Answer)) :
    List (Operation × List Answer) :=
  (past.filter fun m => m.action.concerns v).map fun m =>
    (m.action, m.effects.filter (Answer.concerns v))

/-- The number on a ticket for a document. -/
def tokenFor (v : Uri) : Answer → Option ℕ
  | .outcome (.ticket t) => if t.uri = v then some t.token else none
  | _ => none

/-- The numbers on the tickets for a document, in order. -/
def tokens (v : Uri) (past : List (Moment Documents Operation Answer)) : List ℕ :=
  past.flatMap fun m => m.effects.filterMap (tokenFor v)

/-- Only tickets that were given out before are handed in. -/
def FinishesIssued (past : List (Moment Documents Operation Answer)) : Prop :=
  ∀ i t, (HappensAt past i fun m => m.action = .call (.finish t)) →
    ∃ j, j < i ∧ HappensAt past j fun m => .outcome (.ticket t) ∈ m.effects

variable {past : List (Moment Documents Operation Answer)}
  {m : Moment Documents Operation Answer} {d d' : Documents} {c : Call} {o : Operation}
  {ops : List Operation} {u v : Uri} {t : Ticket} {ts : List Ticket} {f : ℕ → ℕ}

/-! ## Histories -/

/-- What an operation adds to the history. -/
def moment (d : Documents) (o : Operation) : Moment Documents Operation Answer :=
  ⟨d, o, (d.operate o).2, (d.operate o).1⟩

@[simp]
theorem execute_concat (ops : List Operation) (o : Operation) :
    execute (ops ++ [o]) =
      ((execute ops).1 ++ [(execute ops).2.moment o], ((execute ops).2.operate o).1) :=
  replay_concat _ empty ops o

@[simp]
theorem tokens_concat : tokens v (past ++ [m]) =
    tokens v past ++ m.effects.filterMap (tokenFor v) := by
  simp [tokens]

@[simp]
theorem transcriptOf_concat : transcriptOf v (past ++ [m]) = transcriptOf v past ++
    if m.action.concerns v then [(m.action, m.effects.filter (Answer.concerns v))] else [] := by
  unfold transcriptOf
  rw [List.filter_append, List.map_append]
  by_cases hm : m.action.concerns v = true
  · simp [hm]
  · simp [hm]

@[simp]
theorem alone_concat (v : Uri) (f : ℕ → ℕ) (ops : List Operation) (o : Operation) :
    alone v f (ops ++ [o]) = alone v f ops ++ if o.concerns v then [o.rename f] else [] := by
  unfold alone
  rw [List.filter_append, List.map_append]
  by_cases ho : o.concerns v = true
  · simp [ho]
  · simp [ho]

theorem FinishesIssued.of_concat (h : FinishesIssued (past ++ [m])) : FinishesIssued past := by
  intro i t ht
  obtain ⟨j, hj, hissued⟩ := h i t ht.concat
  have hlt := ht.lt_length
  rcases happensAt_concat.mp hissued with hissued | ⟨hlen, -⟩
  · exact ⟨j, hj, hissued⟩
  · omega

/-- A ticket that is handed in was given out before. -/
theorem FinishesIssued.token_mem (h : FinishesIssued (past ++ [m]))
    (hm : m.action = .call (.finish t)) : t.token ∈ tokens t.uri past := by
  obtain ⟨j, hj, hissued⟩ := h past.length t (HappensAt.last hm)
  rcases happensAt_concat.mp hissued with ⟨x, hx, he⟩ | ⟨hlen, -⟩
  · refine List.mem_flatMap.mpr ⟨x, List.mem_of_getElem? hx, List.mem_filterMap.mpr ⟨_, he, ?_⟩⟩
    simp [tokenFor]
  · omega

/-! ## Tickets for one document -/

/-- A document gets at most one of the tickets that are given out at once. -/
theorem Issues.ticket_cases (h : Issues d d' ts) (v : Uri) :
    (ts.filter (fun t => t.uri = v) = [] ∧ d'.get? v = d.get? v) ∨
      ∃ t, ts.filter (fun t => t.uri = v) = [t] ∧ t.uri = v ∧
        (d.get? v).bind Document.path = some t.path ∧
        d'.get? v = some ⟨some t.path, some t.token⟩ := by
  by_cases hv : ∃ t ∈ ts, t.uri = v
  · obtain ⟨t, ht, rfl⟩ := hv
    exact Or.inr ⟨t, filter_key_eq h.distinct ht, rfl, h.paths t ht, h.waits t ht⟩
  · have hnone : ∀ t ∈ ts, t.uri ≠ v := fun t ht htv => hv ⟨t, ht, htv⟩
    refine Or.inl ⟨by simpa [List.filter_eq_nil_iff] using hnone, h.others v fun hmem => ?_⟩
    obtain ⟨t, ht, htv⟩ := List.mem_map.mp hmem
    exact hnone t ht htv

/-- Whether a call asks for a run on a document. -/
def asks (v : Uri) : Call → Bool
  | .openDocument u => u = v
  | .request u => u = v
  | .requestAll => true
  | _ => false

/-- A document with a local file gets the ticket that is asked for. -/
theorem tickets_complete (h : WellFormed d) (ha : asks v c = true)
    (hp : ((d.touched c).get? v).bind Document.path ≠ none) : ∃ t ∈ d.tickets c, t.uri = v := by
  have hrequest : ∀ d : Documents, (d.get? v).bind Document.path ≠ none →
      ∃ t ∈ (d.request v).2.toList, t.uri = v := by
    intro d hp
    obtain ⟨path, hpath⟩ := Option.ne_none_iff_exists'.mp hp
    rw [request_some hpath]
    exact ⟨_, List.mem_singleton_self _, rfl⟩
  cases c with
  | openDocument u =>
    obtain rfl : u = v := by simpa [asks] using ha
    exact hrequest _ hp
  | request u =>
    obtain rfl : u = v := by simpa [asks] using ha
    exact hrequest d hp
  | requestAll =>
    have hopen : d.isOpen v = true := by
      rw [isOpen, Option.isSome_iff_ne_none]
      intro hnone
      exact hp (by rw [touched, hnone]; rfl)
    exact requestEach_complete _ h.keys d v (mem_keys_iff.mpr hopen) hp
  | close u => cases ha
  | finish t => cases ha

theorem tickets_eq_nil (ha : asks v c = false) (hc : c.concerns v = true) : d.tickets c = [] := by
  cases c with
  | openDocument u => rw [Call.concerns] at hc; rw [asks, hc] at ha; cases ha
  | request u => rw [Call.concerns] at hc; rw [asks, hc] at ha; cases ha
  | requestAll => cases ha
  | close u => rfl
  | finish t => rfl

/-- A call about a document gives out a ticket for it exactly if it asks for a run, and there is a
local file. -/
theorem tickets_iff (h : WellFormed d) (hc : c.concerns v = true) :
    (∃ t ∈ d.tickets c, t.uri = v) ↔
      asks v c = true ∧ ((d.touched c).get? v).bind Document.path ≠ none := by
  constructor
  · rintro ⟨t, ht, rfl⟩
    refine ⟨?_, ?_⟩
    · by_contra ha
      rw [tickets_eq_nil (Bool.not_eq_true _ ▸ ha) hc] at ht
      cases ht
    · rw [(issues_call h c).paths t ht]
      nofun
  · rintro ⟨ha, hp⟩
    exact tickets_complete h ha hp

/-- A call about other documents gives out no ticket for this one, and leaves it as it is. -/
theorem call_other (h : WellFormed d) (hc : c.concerns v = false) :
    (d.tickets c).filter (fun t => t.uri = v) = [] ∧ (d.call c).1.get? v = d.get? v := by
  have htouched : (d.touched c).get? v = d.get? v := by
    cases c with
    | openDocument u =>
      have hu : ¬v = u := by simpa [Call.concerns, eq_comm] using hc
      rw [touched, get?_set, if_neg hu]
    | request u => rfl
    | requestAll => rfl
    | close u =>
      have hu : ¬v = u := by simpa [Call.concerns, eq_comm] using hc
      rw [touched, get?_close, if_neg hu]
    | finish t =>
      have ht : v ≠ t.uri := by simpa [Call.concerns, eq_comm] using hc
      cases ha : (d.finish t).2 with
      | false => rw [touched, finish_refused ha]
      | true => rw [touched, get?_finish ha, if_neg ht]
  have huri : ∀ t ∈ d.tickets c, t.uri ≠ v := by
    intro t ht
    cases c with
    | openDocument u => rw [uri_request ht]; simpa [Call.concerns] using hc
    | request u => rw [uri_request ht]; simpa [Call.concerns] using hc
    | requestAll => cases hc
    | close u => cases ht
    | finish t' => cases ht
  rcases (issues_call h c).ticket_cases v with ⟨hnone, hget⟩ | ⟨t, hone, htv, -⟩
  · exact ⟨hnone, hget.trans htouched⟩
  · have hmem : t ∈ (d.tickets c).filter fun t => t.uri = v := hone ▸ List.mem_singleton_self t
    exact absurd htv (huri t (List.mem_of_mem_filter hmem))

/-- The numbers that an operation gives out for a document. -/
theorem filterMap_tokenFor (d : Documents) (c : Call) (v : Uri) :
    (d.operate (.call c)).2.filterMap (tokenFor v) =
      ((d.tickets c).filter fun t => t.uri = v).map Ticket.token := by
  have htickets : ∀ ts : List Ticket,
      ((ts.map Outcome.ticket).map Answer.outcome).filterMap (tokenFor v) =
        (ts.filter fun t => t.uri = v).map Ticket.token := by
    intro ts
    induction ts with
    | nil => rfl
    | cons t ts ih =>
      by_cases htv : t.uri = v
      · simpa [tokenFor, htv] using ih
      · simpa [tokenFor, htv] using ih
  cases c with
  | openDocument u => exact htickets _
  | request u => exact htickets _
  | requestAll => exact htickets _
  | close u => rfl
  | finish t => rfl

/-! ## Numbers and ranks -/

/-- Numbers are replaced by their ranks: the first by 1, the second by 2, and so on. -/
def Ranks (f : ℕ → ℕ) (l : List ℕ) : Prop := ∀ k n, l[k]? = some n → f n = k + 1

theorem Ranks.of_append {l l' : List ℕ} (h : Ranks f (l ++ l')) : Ranks f l := by
  intro k n hk
  have hlt := (List.getElem?_eq_some_iff.mp hk).1
  exact h k n (by rw [List.getElem?_append_left hlt, hk])

/-- Different numbers have different ranks. -/
theorem Ranks.inj {l : List ℕ} (h : Ranks f l) {n n' : ℕ} (hn : n ∈ l) (hn' : n' ∈ l)
    (hf : f n = f n') : n = n' := by
  obtain ⟨k, hk⟩ := List.mem_iff_getElem?.mp hn
  obtain ⟨k', hk'⟩ := List.mem_iff_getElem?.mp hn'
  rw [h k n hk, h k' n' hk'] at hf
  obtain rfl : k = k' := by omega
  rw [hk] at hk'
  exact Option.some.inj hk'

theorem ranks_idxOf {l : List ℕ} (h : l.Nodup) : Ranks (fun n => l.idxOf n + 1) l := by
  intro k n hk
  obtain ⟨hlt, rfl⟩ := List.getElem?_eq_some_iff.mp hk
  show l.idxOf l[k] + 1 = k + 1
  rw [h.idxOf_getElem]

/-- Ranks go up with the numbers if these are in order. -/
theorem Ranks.strictMonoOn {l : List ℕ} (h : Ranks f l) (hl : l.Pairwise (· < ·)) :
    StrictMonoOn f {n | n ∈ l} := by
  intro n hn n' hn' hlt
  obtain ⟨k, hk, rfl⟩ := List.mem_iff_getElem.mp hn
  obtain ⟨k', hk', rfl⟩ := List.mem_iff_getElem.mp hn'
  rw [h k _ (List.getElem?_eq_getElem hk), h k' _ (List.getElem?_eq_getElem hk')]
  by_contra hle
  rcases Nat.lt_or_eq_of_le (Nat.le_of_not_lt hle) with hkk | hkk
  · have := List.pairwise_iff_getElem.mp hl k' k hk' hk (by omega)
    omega
  · obtain rfl : k' = k := by omega
    omega

/-! ## With others and without -/

/-- A table with all documents after some history, and one with a single document: it is the same
there, but for the number that it waits for. -/
structure Twins (v : Uri) (f : ℕ → ℕ) (past : List (Moment Documents Operation Answer))
    (d d' : Documents) : Prop where
  wellFormed : d.WellFormed
  wellFormed' : d'.WellFormed
  lone : ∀ u, d'.isOpen u = true → u = v
  document : d'.get? v = (d.get? v).map (Document.rename f)
  last : d'.lastToken = (tokens v past).length
  source : ∀ n, d.pending? v = some n → n ∈ tokens v past

theorem twins_nil (v : Uri) (f : ℕ → ℕ) : Twins v f [] empty empty where
  wellFormed := wellFormed_empty
  wellFormed' := wellFormed_empty
  lone := by intro u h; cases h
  document := rfl
  last := rfl
  source := by intro n h; cases h

theorem Twins.isOpen_eq (h : Twins v f past d d') : d'.isOpen v = d.isOpen v := by
  rw [isOpen, isOpen, h.document, Option.isSome_map]

theorem Twins.pending?_eq (h : Twins v f past d d') : d'.pending? v = (d.pending? v).map f := by
  rw [pending?, pending?, h.document]
  cases d.get? v <;> rfl

theorem Twins.state_eq (h : Twins v f past d d') : d'.state v = d.state v := by
  unfold state
  rw [h.document]
  cases d.get? v with
  | none => rfl
  | some doc => simp [Document.rename]

/-- A ticket for the document is accepted in both or in none. -/
theorem Twins.finish_eq (h : Twins v f past d d') (hf : Ranks f (tokens v past)) (htv : t.uri = v)
    (ht : t.token ∈ tokens v past) : (d'.finish (t.rename f)).2 = (d.finish t).2 := by
  rw [Bool.eq_iff_iff, finish_accepts_iff, finish_accepts_iff]
  show d'.pending? t.uri = some (f t.token) ↔ _
  rw [htv, h.pending?_eq]
  constructor
  · intro heq
    obtain ⟨n, hn, hfn⟩ := Option.map_eq_some_iff.mp heq
    rw [hn, hf.inj (h.source n hn) ht hfn]
  · intro heq
    rw [heq]
    rfl

/-- Before tickets are given out, a call does the same to the document in both. -/
theorem Twins.touched_eq (h : Twins v f past d d') (hf : Ranks f (tokens v past))
    (hc : c.concerns v = true) (hissued : ∀ t, c = .finish t → t.token ∈ tokens v past) :
    (d'.touched (c.rename f)).get? v = ((d.touched c).get? v).map (Document.rename f) := by
  cases c with
  | openDocument u =>
    obtain rfl : u = v := by simpa [Call.concerns] using hc
    simp [Call.rename, touched, get?_set, Document.rename]
  | request u => exact h.document
  | requestAll => exact h.document
  | close u =>
    obtain rfl : u = v := by simpa [Call.concerns] using hc
    simp [Call.rename, touched, get?_close]
  | finish t =>
    have htv : t.uri = v := by simpa [Call.concerns] using hc
    have heq := h.finish_eq hf htv (hissued t rfl)
    show (d'.finish (t.rename f)).1.get? v = ((d.finish t).1.get? v).map _
    cases ha : (d.finish t).2 with
    | false => rw [finish_refused ha, finish_refused (heq.trans ha), h.document]
    | true =>
      have hself : v = (t.rename f).uri := htv.symm
      rw [get?_finish ha, get?_finish (heq.trans ha), if_pos htv.symm, if_pos hself, h.document]
      cases d.get? v <;> rfl

theorem asks_rename (c : Call) : asks v (c.rename f) = asks v c := by
  cases c <;> rfl

theorem concerns_rename (c : Call) : (c.rename f).concerns v = c.concerns v := by
  cases c <;> rfl

theorem rename_eq_openDocument : c.rename f = .openDocument u ↔ c = .openDocument u := by
  cases c <;> simp [Call.rename]

/-- A document alone stays alone. -/
theorem Twins.lone_call (h : Twins v f past d d') (hc : c.concerns v = true) (u : Uri)
    (hu : (d'.call (c.rename f)).1.isOpen u = true) : u = v := by
  rcases (isOpen_call_iff h.wellFormed').mp hu with hopen | ⟨-, hopen⟩
  · rw [rename_eq_openDocument.mp hopen] at hc
    simpa [Call.concerns] using hc
  · exact h.lone u hopen

/-- All tickets are for a document alone. -/
theorem Twins.uri_eq (h : Twins v f past d d') (hc : c.concerns v = true) {t : Ticket}
    (ht : t ∈ d'.tickets (c.rename f)) : t.uri = v := by
  refine h.lone_call hc t.uri (isOpen_of_pending? (n := t.token) ?_)
  exact (issues_call h.wellFormed' (c.rename f)).pending?_eq ht

section

variable (h : Twins v f past d d') (hf : Ranks f (tokens v (past ++ [d.moment (.call c)])))
  (hc : c.concerns v = true) (hissued : ∀ t, c = .finish t → t.token ∈ tokens v past)

include h hf hc hissued

theorem Twins.path_eq : ((d'.touched (c.rename f)).get? v).bind Document.path =
    ((d.touched c).get? v).bind Document.path := by
  rw [tokens_concat] at hf
  rw [h.touched_eq hf.of_append hc hissued]
  cases (d.touched c).get? v <;> rfl

/-- A ticket for a document alone is its ticket among others, but for the number. Both are the next
ticket for the document, and that is the rank of the number. -/
theorem Twins.ticket_eq {t' : Ticket} (ht : t ∈ d.tickets c) (htv : t.uri = v)
    (ht' : t' ∈ d'.tickets (c.rename f)) : d'.tickets (c.rename f) = [t.rename f] := by
  have hi := issues_call h.wellFormed c
  have hi' := issues_call h.wellFormed' (c.rename f)
  have htv' := h.uri_eq hc ht'
  have hone' : d'.tickets (c.rename f) = [t'] := by
    rw [← filter_key_eq hi'.distinct ht', eq_comm, List.filter_eq_self]
    intro other hother
    simpa [htv'] using h.uri_eq hc hother
  have htoken : t'.token = d'.lastToken + 1 := by
    have htokens := hi'.tokens
    rw [hone', lastToken_touched] at htokens
    simpa using htokens
  have hrank : f t.token = (tokens v past).length + 1 := by
    have hnew : (d.moment (.call c)).effects.filterMap (tokenFor v) = [t.token] := by
      rw [moment, filterMap_tokenFor, ← htv, filter_key_eq hi.distinct ht]
      rfl
    rw [tokens_concat, hnew] at hf
    exact hf _ _ (getElem?_concat_iff.mpr (Or.inr ⟨rfl, rfl⟩))
  have hpath : t'.path = t.path := by
    have hp := hi.paths t ht
    have hp' := hi'.paths t' ht'
    rw [htv] at hp
    rw [htv', h.path_eq hf hc hissued, hp] at hp'
    exact (Option.some.inj hp').symm
  obtain ⟨uri, path, token⟩ := t'
  dsimp only at htv' hpath htoken
  rw [hone', Ticket.rename, hrank, ← h.last, ← htoken, ← hpath, htv, htv']

/-- A call gives out the same ticket for the document in both, and then the document waits for it.
-/
theorem Twins.issue :
    d'.tickets (c.rename f) =
        ((d.tickets c).filter fun t => t.uri = v).map (Ticket.rename f) ∧
      (d'.call (c.rename f)).1.get? v = ((d.call c).1.get? v).map (Document.rename f) := by
  have hi := issues_call h.wellFormed c
  have hi' := issues_call h.wellFormed' (c.rename f)
  have hiff : (∃ t ∈ d'.tickets (c.rename f), t.uri = v) ↔ ∃ t ∈ d.tickets c, t.uri = v := by
    rw [tickets_iff h.wellFormed hc, tickets_iff h.wellFormed' ((concerns_rename c).trans hc),
      asks_rename, h.path_eq hf hc hissued]
  rcases hi.ticket_cases v with ⟨hnone, hget⟩ | ⟨t, hone, htv, -, hget⟩
  · have hnone' : d'.tickets (c.rename f) = [] := by
      rw [List.eq_nil_iff_forall_not_mem]
      intro t' ht'
      obtain ⟨t, ht, htv⟩ := hiff.mp ⟨t', ht', h.uri_eq hc ht'⟩
      exact (List.filter_eq_nil_iff.mp hnone t ht) (by simpa using htv)
    have hget' := hi'.others v (by rw [hnone']; nofun)
    rw [tokens_concat] at hf
    rw [hnone, hnone', hget, hget', h.touched_eq hf.of_append hc hissued]
    exact ⟨rfl, rfl⟩
  · have ht : t ∈ d.tickets c := List.mem_of_mem_filter (hone ▸ List.mem_singleton_self t)
    obtain ⟨t', ht', -⟩ := hiff.mpr ⟨t, ht, htv⟩
    have hone' := h.ticket_eq hf hc hissued ht htv ht'
    have hget' := hi'.waits (t.rename f) (hone' ▸ List.mem_singleton_self _)
    rw [show (t.rename f).uri = v from htv] at hget'
    rw [hone, hone', hget, hget']
    exact ⟨rfl, rfl⟩

/-- A call gives the same answers about the document in both. -/
theorem Twins.answers_eq : (d'.operate (.call (c.rename f))).2 =
    ((d.operate (.call c)).2.filter (Answer.concerns v)).map (Answer.rename f) := by
  have hasked : ((d'.tickets (c.rename f)).map Outcome.ticket).map Answer.outcome =
      ((((d.tickets c).map Outcome.ticket).map Answer.outcome).filter (Answer.concerns v)).map
        (Answer.rename f) := by
    rw [(h.issue hf hc hissued).1, List.map_map, List.map_map, List.map_map, List.filter_map,
      List.map_map]
    rfl
  cases c with
  | openDocument u => exact hasked
  | request u => exact hasked
  | requestAll => exact hasked
  | close u =>
    obtain rfl : u = v := by simpa [Call.concerns] using hc
    show [Answer.outcome (.told (d'.isOpen u))] = [Answer.outcome (.told (d.isOpen u))]
    rw [h.isOpen_eq]
  | finish t =>
    have htv : t.uri = v := by simpa [Call.concerns] using hc
    rw [tokens_concat] at hf
    show [Answer.outcome (.told (d'.finish (t.rename f)).2)] =
      [Answer.outcome (.told (d.finish t).2)]
    rw [h.finish_eq hf.of_append htv (hissued t rfl)]

/-- A call about the document is made in both. -/
theorem Twins.call : Twins v f (past ++ [d.moment (.call c)]) (d.call c).1
    (d'.call (c.rename f)).1 where
  wellFormed := h.wellFormed.call c
  wellFormed' := h.wellFormed'.call _
  lone := h.lone_call hc
  document := (h.issue hf hc hissued).2
  last := by
    rw [(issues_call h.wellFormed' _).last, lastToken_touched, h.last, (h.issue hf hc hissued).1,
      tokens_concat, moment, filterMap_tokenFor]
    simp
  source := by
    intro n hn
    rw [tokens_concat, moment, filterMap_tokenFor, List.mem_append]
    rcases (issues_call h.wellFormed c).ticket_cases v with ⟨-, hget⟩ | ⟨t, hone, -, -, hget⟩
    · rw [pending?_eq_of_get?_eq hget] at hn
      exact Or.inl (h.source n (pending?_of_touched hn))
    · rw [pending?, hget] at hn
      obtain rfl : t.token = n := Option.some.inj hn
      rw [hone]
      exact Or.inr (List.mem_singleton_self _)

end

/-- A question changes nothing. -/
theorem Twins.ask (h : Twins v f past d d') (hm : m.effects.filterMap (tokenFor v) = []) :
    Twins v f (past ++ [m]) d d' := by
  have htokens : tokens v (past ++ [m]) = tokens v past := by
    rw [tokens_concat, hm, List.append_nil]
  refine ⟨h.wellFormed, h.wellFormed', h.lone, h.document, ?_, ?_⟩
  · rw [htokens, h.last]
  · rw [htokens]
    exact h.source

/-- An operation about other documents is not seen. -/
theorem Twins.other (h : Twins v f past d d') (ho : o.concerns v = false) :
    Twins v f (past ++ [d.moment o]) (d.operate o).1 d' := by
  cases o with
  | call c =>
    obtain ⟨hnone, hget⟩ := call_other h.wellFormed ho
    have hsame : Twins v f past (d.call c).1 d' := by
      refine ⟨h.wellFormed.call c, h.wellFormed', h.lone, ?_, h.last, ?_⟩
      · rw [hget, h.document]
      · rw [pending?_eq_of_get?_eq hget]
        exact h.source
    refine hsame.ask ?_
    rw [moment, filterMap_tokenFor, hnone]
    rfl
  | isOpen u => exact h.ask rfl
  | state u => exact h.ask rfl

/-- An operation about the document does the same in both, and gives the same answers. -/
theorem Twins.operate (h : Twins v f past d d')
    (hf : Ranks f (tokens v (past ++ [d.moment o]))) (ho : o.concerns v = true)
    (hissued : ∀ t, o = .call (.finish t) → t.token ∈ tokens v past) :
    Twins v f (past ++ [d.moment o]) (d.operate o).1 (d'.operate (o.rename f)).1 ∧
      (d'.operate (o.rename f)).2 =
        ((d.operate o).2.filter (Answer.concerns v)).map (Answer.rename f) := by
  cases o with
  | call c =>
    have hissued' : ∀ t, c = .finish t → t.token ∈ tokens v past :=
      fun t ht => hissued t (congrArg _ ht)
    exact ⟨h.call hf ho hissued', h.answers_eq hf ho hissued'⟩
  | isOpen u =>
    obtain rfl : u = v := by simpa [Operation.concerns] using ho
    refine ⟨h.ask rfl, ?_⟩
    show [Answer.outcome (.told (d'.isOpen u))] = [Answer.outcome (.told (d.isOpen u))]
    rw [h.isOpen_eq]
  | state u =>
    obtain rfl : u = v := by simpa [Operation.concerns] using ho
    refine ⟨h.ask rfl, ?_⟩
    show [Answer.state (d'.state u)] = [Answer.state (d.state u)]
    rw [h.state_eq]

/-! ## Whole sequences -/

theorem WellFormed.operate (h : WellFormed d) (o : Operation) : WellFormed (d.operate o).1 := by
  cases o with
  | call c => exact h.call c
  | isOpen u => exact h
  | state u => exact h

theorem lastToken_le_operate (h : WellFormed d) (o : Operation) :
    d.lastToken ≤ (d.operate o).1.lastToken := by
  cases o with
  | call c => exact lastToken_touched d c ▸ (issues_call h c).lastToken_le
  | isOpen u => exact Nat.le_refl _
  | state u => exact Nat.le_refl _

/-- An operation gives out at most one number for a document, and it is new. -/
theorem tokens_operate (h : WellFormed d) (o : Operation) (v : Uri) :
    (d.moment o).effects.filterMap (tokenFor v) = [] ∨
      ∃ n, (d.moment o).effects.filterMap (tokenFor v) = [n] ∧ d.lastToken < n ∧
        n ≤ (d.operate o).1.lastToken := by
  cases o with
  | call c =>
    have hi := issues_call h c
    rw [moment, filterMap_tokenFor]
    rcases hi.ticket_cases v with ⟨hnone, -⟩ | ⟨t, hone, -⟩
    · rw [hnone]
      exact Or.inl rfl
    · have hmem := hi.token_mem (List.mem_of_mem_filter (hone ▸ List.mem_singleton_self t))
      rw [lastToken_touched] at hmem
      exact Or.inr ⟨t.token, by rw [hone]; rfl, hmem⟩
  | isOpen u => exact Or.inl rfl
  | state u => exact Or.inl rfl

theorem wellFormed_execute (ops : List Operation) : (execute ops).2.WellFormed := by
  induction ops using List.reverseRecOn with
  | nil => exact wellFormed_empty
  | append_singleton ops o ih =>
    rw [execute_concat]
    exact ih.operate o

/-- The numbers on the tickets for a document go up. -/
theorem tokens_sorted (ops : List Operation) (v : Uri) :
    (tokens v (execute ops).1).Pairwise (· < ·) ∧
      ∀ n ∈ tokens v (execute ops).1, n ≤ (execute ops).2.lastToken := by
  induction ops using List.reverseRecOn with
  | nil => exact ⟨List.Pairwise.nil, nofun⟩
  | append_singleton ops o ih =>
    obtain ⟨hsorted, hgiven⟩ := ih
    have hw := wellFormed_execute ops
    have hle := lastToken_le_operate hw o
    rw [execute_concat, tokens_concat]
    rcases tokens_operate hw o v with hnone | ⟨n, hone, hnew, hlast⟩
    · rw [hnone, List.append_nil]
      exact ⟨hsorted, fun n hn => Nat.le_trans (hgiven n hn) hle⟩
    · rw [hone, List.pairwise_append]
      refine ⟨⟨hsorted, List.pairwise_singleton _ _, fun k hk k' hk' => ?_⟩, fun k hk => ?_⟩
      · rw [List.mem_singleton.mp hk']
        exact Nat.lt_of_le_of_lt (hgiven k hk) hnew
      · rcases List.mem_append.mp hk with hk | hk
        · exact Nat.le_trans (hgiven k hk) hle
        · rw [List.mem_singleton.mp hk]
          exact hlast

/-- With others and without, a sequence of operations does the same to a document and gives the same
answers. -/
theorem twins_execute (v : Uri) (f : ℕ → ℕ) (ops : List Operation)
    (hf : Ranks f (tokens v (execute ops).1)) (hissued : FinishesIssued (execute ops).1) :
    Twins v f (execute ops).1 (execute ops).2 (execute (alone v f ops)).2 ∧
      transcript (execute (alone v f ops)).1 = (transcriptOf v (execute ops).1).map
        (Prod.map (Operation.rename f) (List.map (Answer.rename f))) := by
  induction ops using List.reverseRecOn with
  | nil => exact ⟨twins_nil v f, rfl⟩
  | append_singleton ops o ih =>
    rw [execute_concat] at hf hissued ⊢
    have hearlier := hf
    rw [tokens_concat] at hearlier
    obtain ⟨htwins, htranscript⟩ := ih hearlier.of_append hissued.of_concat
    rw [alone_concat, transcriptOf_concat]
    cases ho : o.concerns v with
    | false =>
      have ho' : (moment (execute ops).2 o).action.concerns v = false := ho
      rw [ho', if_neg Bool.false_ne_true, if_neg Bool.false_ne_true, List.append_nil,
        List.append_nil]
      exact ⟨htwins.other ho, htranscript⟩
    | true =>
      have ho' : (moment (execute ops).2 o).action.concerns v = true := ho
      rw [ho', if_pos rfl, if_pos rfl, execute_concat]
      have htoken : ∀ t, o = .call (.finish t) → t.token ∈ tokens v (execute ops).1 := by
        intro t ht
        have htv : t.uri = v := by
          rw [ht] at ho
          simpa [Operation.concerns, Call.concerns] using ho
        exact htv ▸ hissued.token_mem ht
      obtain ⟨hnext, hanswers⟩ := htwins.operate hf ho htoken
      refine ⟨hnext, ?_⟩
      rw [transcript, List.map_append, List.map_append]
      refine congrArg₂ (· ++ ·) htranscript ?_
      exact congrArg (fun answers => [(o.rename f, answers)]) hanswers

/-- What is known of a sequence of operations is known of its first part. -/
theorem ranks_of_append (ops more : List Operation)
    (hf : Ranks f (tokens v (execute (ops ++ more)).1))
    (hissued : FinishesIssued (execute (ops ++ more)).1) :
    Ranks f (tokens v (execute ops).1) ∧ FinishesIssued (execute ops).1 := by
  induction more using List.reverseRecOn with
  | nil =>
    rw [List.append_nil] at hf hissued
    exact ⟨hf, hissued⟩
  | append_singleton more o ih =>
    rw [← List.append_assoc, execute_concat] at hf hissued
    rw [tokens_concat] at hf
    exact ih hf.of_append hissued.of_concat

/-- **Documents do not interfere.** Take any sequence of operations in which only tickets are handed
in that were given out before, and a document. If all operations about other documents are left out,
and the numbers on its tickets are replaced in a way that keeps their order, the others give the
same answers about the document: the same calls give out a ticket for it with the same file, the
same tickets of it are accepted, and it is told to be open and closed at the same times. At every
point of the sequence it is in the same state. -/
theorem answers_without_others (v : Uri) (ops : List Operation)
    (h : FinishesIssued (execute ops).1) :
    ∃ f : ℕ → ℕ, StrictMonoOn f {n | n ∈ tokens v (execute ops).1} ∧
      transcript (execute (alone v f ops)).1 = (transcriptOf v (execute ops).1).map
        (Prod.map (Operation.rename f) (List.map (Answer.rename f))) ∧
      ∀ k, (execute (alone v f (ops.take k))).2.state v = (execute (ops.take k)).2.state v := by
  have hsorted := (tokens_sorted ops v).1
  have hranks := ranks_idxOf (hsorted.imp Nat.ne_of_lt)
  refine ⟨_, hranks.strictMonoOn hsorted, (twins_execute v _ ops hranks h).2, fun k => ?_⟩
  -- the first operations have the same numbers, with the same ranks
  obtain ⟨hfirst, hissued⟩ := ranks_of_append (ops.take k) (ops.drop k)
    (by rw [List.take_append_drop]; exact hranks) (by rw [List.take_append_drop]; exact h)
  exact (twins_execute v _ (ops.take k) hfirst hissued).1.state_eq

/-- Two documents are opened, and get new tickets at once. The old ticket of the second is handed in
too late, and its new one in time, after the first document is closed. -/
def crowded : List Operation :=
  [.call (.openDocument otherFile), .call (.openDocument sampleFile), .call .requestAll,
    .call (.finish ⟨sampleFile, [47, 97], 2⟩), .call (.close otherFile), .isOpen sampleFile,
    .call (.finish ⟨sampleFile, [47, 97], 4⟩), .state sampleFile]

theorem crowded_finishesIssued : FinishesIssued (execute crowded).1 := by
  rintro i t ⟨m, hm, hf⟩
  rcases i with _ | _ | _ | _ | _ | _ | _ | _ | i
  · cases hm; cases hf
  · cases hm; cases hf
  · cases hm; cases hf
  · cases hm; cases hf
    exact ⟨1, by decide, _, rfl, by decide⟩
  · cases hm; cases hf
  · cases hm; cases hf
  · cases hm; cases hf
    exact ⟨2, by decide, _, rfl, by decide⟩
  · cases hm; cases hf
  · cases hm

theorem answers_without_others_crowded :
    FinishesIssued (execute crowded).1 ∧ tokens sampleFile (execute crowded).1 = [2, 4] ∧
      ∃ f : ℕ → ℕ, f 2 < f 4 ∧
        transcript (execute [.call (.openDocument sampleFile), .call .requestAll,
            .call (.finish ⟨sampleFile, [47, 97], f 2⟩), .isOpen sampleFile,
            .call (.finish ⟨sampleFile, [47, 97], f 4⟩), .state sampleFile]).1 =
          [(.call (.openDocument sampleFile), [.outcome (.ticket ⟨sampleFile, [47, 97], f 2⟩)]),
            (.call .requestAll, [.outcome (.ticket ⟨sampleFile, [47, 97], f 4⟩)]),
            (.call (.finish ⟨sampleFile, [47, 97], f 2⟩), [.outcome (.told false)]),
            (.isOpen sampleFile, [.outcome (.told true)]),
            (.call (.finish ⟨sampleFile, [47, 97], f 4⟩), [.outcome (.told true)]),
            (.state sampleFile, [.state .idle])] := by
  have htokens : tokens sampleFile (execute crowded).1 = [2, 4] := by decide
  obtain ⟨f, hmono, hsame, -⟩ := answers_without_others sampleFile crowded crowded_finishesIssued
  rw [htokens] at hmono
  refine ⟨crowded_finishesIssued, htokens, f, hmono (by simp) (by simp) (by decide), ?_⟩
  have halone : transcriptOf sampleFile (execute crowded).1 =
      [(.call (.openDocument sampleFile), [.outcome (.ticket ⟨sampleFile, [47, 97], 2⟩)]),
        (.call .requestAll, [.outcome (.ticket ⟨sampleFile, [47, 97], 4⟩)]),
        (.call (.finish ⟨sampleFile, [47, 97], 2⟩), [.outcome (.told false)]),
        (.isOpen sampleFile, [.outcome (.told true)]),
        (.call (.finish ⟨sampleFile, [47, 97], 4⟩), [.outcome (.told true)]),
        (.state sampleFile, [.state .idle])] := by decide
  rw [halone] at hsame
  exact hsame

end Documents

end LineLint
