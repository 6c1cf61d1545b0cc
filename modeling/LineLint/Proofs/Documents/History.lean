import LineLint.Proofs.Documents.Table
import LineLint.Proofs.Trace

/-!
# Tickets and the history of calls

Whether a ticket is accepted is decided by a comparison of two numbers. Here that is told from the
calls that were made: a ticket is good until its document is closed or opened, gets another ticket,
or the ticket is used up. Tokens are natural numbers, so the number of tickets is not limited.

* `Call`, `Outcome`, `Documents.call` — the operations as one step function.
* `IssuedAt`, `AcceptedAt`, `Disturbs` — what a history says about a ticket.
* `ClosedBy`, `LastOpened`, `Awaited` — what a history says about a document.

Results:

* `pending?_call_iff`: what one call does to the wait for a ticket.
* `recorded`: the table and the history of calls agree.
* `tickets_by_history`: acceptance and document states are functions of the history.
-/

namespace LineLint

/-- A call on the open documents. -/
inductive Call where
  | openDocument (uri : Uri)
  | request (uri : Uri)
  | requestAll
  | close (uri : Uri)
  | finish (ticket : Ticket)
  deriving DecidableEq

/-- What a call gives back. -/
inductive Outcome where
  /-- A ticket is given out. -/
  | ticket (t : Ticket)
  /-- A document was open, or a ticket is accepted, or not. -/
  | told (yes : Bool)
  deriving DecidableEq

namespace Documents

/-- Makes a call. -/
def call (d : Documents) : Call → Documents × List Outcome
  | .openDocument u => ((d.openDocument u).1, (d.openDocument u).2.toList.map .ticket)
  | .request u => ((d.request u).1, (d.request u).2.toList.map .ticket)
  | .requestAll => (d.requestAll.1, d.requestAll.2.map .ticket)
  | .close u => ((d.close u).1, [.told (d.close u).2])
  | .finish t => ((d.finish t).1, [.told (d.finish t).2])

/-- A history of calls: every call can be made at any time. -/
abbrev Calls : List (Moment Documents Call Outcome) → Documents → Prop :=
  Trace (fun d c => some (d.call c)) empty

variable {past : List (Moment Documents Call Outcome)} {m : Moment Documents Call Outcome}
  {d : Documents} {c : Call} {u : Uri} {t t' : Ticket} {i : ℕ}

/-! ## What a history says -/

/-- A ticket was given out at a place. -/
def IssuedAt (past : List (Moment Documents Call Outcome)) (i : ℕ) (t : Ticket) : Prop :=
  HappensAt past i fun m => .ticket t ∈ m.effects

/-- A ticket was accepted at a place. -/
def AcceptedAt (past : List (Moment Documents Call Outcome)) (i : ℕ) (t : Ticket) : Prop :=
  HappensAt past i fun m => m.action = .finish t ∧ .told true ∈ m.effects

/-- A document was opened at a place. -/
def OpenedAt (past : List (Moment Documents Call Outcome)) (i : ℕ) (u : Uri) : Prop :=
  HappensAt past i fun m => m.action = .openDocument u

/-- A document was closed at a place. -/
def ClosedAt (past : List (Moment Documents Call Outcome)) (i : ℕ) (u : Uri) : Prop :=
  HappensAt past i fun m => m.action = .close u

/-- Only tickets that were given out before are handed in. -/
def HandsInIssued (past : List (Moment Documents Call Outcome)) : Prop :=
  ∀ i t, (HappensAt past i fun m => m.action = .finish t) → ∃ j, j < i ∧ IssuedAt past j t

/-- What ends the life of a ticket: its document is closed or opened, another ticket is given out
for its document, or it is accepted. -/
def Disturbs (t : Ticket) (m : Moment Documents Call Outcome) : Prop :=
  m.action = .close t.uri ∨ m.action = .openDocument t.uri ∨
    (∃ t', .ticket t' ∈ m.effects ∧ t'.uri = t.uri) ∨
    (m.action = .finish t ∧ .told true ∈ m.effects)

/-- The last that was done about a document, of opening and closing it, is that it was closed, or
nothing at all. -/
def ClosedBy (past : List (Moment Documents Call Outcome)) (u : Uri) : Prop :=
  ∀ i, OpenedAt past i u → ∃ j, i < j ∧ ClosedAt past j u

/-- The last that was done about a document, of opening and closing it, is that it was opened. -/
def LastOpened (past : List (Moment Documents Call Outcome)) (u : Uri) (i : ℕ) : Prop :=
  OpenedAt past i u ∧ ∀ j, i < j → ¬OpenedAt past j u ∧ ¬ClosedAt past j u

/-- The last ticket for a document. -/
def LastIssued (past : List (Moment Documents Call Outcome)) (u : Uri) (i : ℕ) (t : Ticket) :
    Prop :=
  IssuedAt past i t ∧ t.uri = u ∧ ∀ j t', i < j → IssuedAt past j t' → t'.uri ≠ u

/-- A document is open, and the last ticket for it, given out since it was last opened, has not been
accepted. -/
def Awaited (past : List (Moment Documents Call Outcome)) (u : Uri) : Prop :=
  ∃ i k t, LastOpened past u i ∧ i ≤ k ∧ LastIssued past u k t ∧ ∀ j, ¬AcceptedAt past j t

/-! ## One call -/

/-- The tickets that a call gives out. -/
def tickets (d : Documents) : Call → List Ticket
  | .openDocument u => (d.openDocument u).2.toList
  | .request u => (d.request u).2.toList
  | .requestAll => d.requestAll.2
  | .close _ => []
  | .finish _ => []

/-- The table when a call begins to give out tickets. -/
def touched (d : Documents) : Call → Documents
  | .openDocument u => d.set u ⟨u.localPath, none⟩
  | .request _ => d
  | .requestAll => d
  | .close u => (d.close u).1
  | .finish t => (d.finish t).1

theorem ticket_mem_call : .ticket t ∈ (d.call c).2 ↔ t ∈ d.tickets c := by
  cases c <;> simp [call, tickets]

theorem told_mem_finish : .told true ∈ (d.call (.finish t)).2 ↔ (d.finish t).2 = true := by
  simp [call]

/-- Every call changes at most one document and then gives out tickets. -/
theorem issues_call (h : WellFormed d) (c : Call) :
    Issues (d.touched c) (d.call c).1 (d.tickets c) := by
  cases c with
  | openDocument u => exact issues_openDocument d u
  | request u => exact issues_request d u
  | requestAll => exact issues_requestAll h
  | close u => exact Issues.nil _
  | finish t => exact Issues.nil _

theorem lastToken_touched (d : Documents) (c : Call) : (d.touched c).lastToken = d.lastToken := by
  cases c with
  | finish t => exact lastToken_finish d t
  | _ => rfl

theorem WellFormed.call (h : WellFormed d) (c : Call) : WellFormed (d.call c).1 := by
  cases c with
  | openDocument u => exact h.openDocument u
  | request u => exact h.request u
  | requestAll => exact h.requestAll
  | close u => exact h.close u
  | finish t => exact h.finish t

theorem isOpen_call_iff (h : WellFormed d) :
    (d.call c).1.isOpen u = true ↔ c = .openDocument u ∨ c ≠ .close u ∧ d.isOpen u = true := by
  rw [(issues_call h c).isOpen_eq]
  cases c with
  | openDocument v =>
    rw [touched, isOpen_set]
    by_cases hv : u = v
    · simp [hv]
    · have hv' : ¬v = u := fun h => hv h.symm
      simp [hv, hv']
  | request v => simp [touched]
  | requestAll => simp [touched]
  | close v =>
    rw [touched, isOpen, get?_close]
    by_cases hv : u = v
    · simp [hv]
    · have hv' : ¬v = u := fun h => hv h.symm
      simp [hv, hv', isOpen]
  | finish t => simp [touched, isOpen_finish]

/-- Before tickets are given out, a document can only stop waiting. -/
theorem pending?_touched
    (ht : ∀ t', c = .finish t' → t'.uri = t.uri → t'.token = t.token → t' = t) :
    (d.touched c).pending? t.uri = some t.token ↔
      d.pending? t.uri = some t.token ∧ c ≠ .close t.uri ∧ c ≠ .openDocument t.uri ∧
        ¬(c = .finish t ∧ .told true ∈ (d.call c).2) := by
  cases c with
  | openDocument v =>
    rw [touched, pending?, get?_set]
    by_cases hv : t.uri = v
    · simp [hv]
    · have hv' : ¬v = t.uri := fun h => hv h.symm
      simp [hv, hv', pending?]
  | request v => simp [touched]
  | requestAll => simp [touched]
  | close v =>
    rw [touched, pending?, get?_close]
    by_cases hv : t.uri = v
    · simp [hv]
    · have hv' : ¬v = t.uri := fun h => hv h.symm
      simp [hv, hv', pending?]
  | finish t' =>
    rw [touched]
    cases ha : (d.finish t').2 with
    | false => simp [finish_refused ha, call, ha]
    | true =>
      have hwait := (finish_accepts_iff d t').mp ha
      by_cases hu : t'.uri = t.uri
      · rw [← hu, pending?_finish_self ha, hwait]
        -- the accepted ticket is the very one, since its document waits for one token only
        constructor
        · intro h; cases h
        · rintro ⟨hn, -, -, hne⟩
          have heq := ht t' rfl hu (Option.some.inj hn)
          subst heq
          exact absurd ⟨rfl, told_mem_finish.mpr ha⟩ hne
      · have hne : t' ≠ t := fun h => hu (h ▸ rfl)
        rw [pending?_finish_other (fun h => hu h.symm)]
        simp [hne]

theorem pending?_of_touched {n : ℕ} (h : (d.touched c).pending? u = some n) :
    d.pending? u = some n := by
  cases c with
  | openDocument v =>
    rw [touched, pending?, get?_set] at h
    split_ifs at h
    · cases h
    · exact h
  | request v => exact h
  | requestAll => exact h
  | close v =>
    rw [touched, pending?, get?_close] at h
    split_ifs at h
    · cases h
    · exact h
  | finish t =>
    rw [touched] at h
    cases ha : (d.finish t).2 with
    | false => rwa [finish_refused ha] at h
    | true =>
      by_cases hu : u = t.uri
      · rw [hu, pending?_finish_self ha] at h
        cases h
      · rwa [pending?_finish_other hu] at h

theorem not_disturbs_iff : ¬Disturbs t ⟨d, c, (d.call c).2, (d.call c).1⟩ ↔
    (c ≠ .close t.uri ∧ c ≠ .openDocument t.uri ∧ ¬(c = .finish t ∧ .told true ∈ (d.call c).2)) ∧
      ∀ t' ∈ d.tickets c, t'.uri ≠ t.uri := by
  unfold Disturbs
  simp only [ticket_mem_call, not_or, not_exists]
  constructor
  · rintro ⟨hclose, hopen, hissue, hfinish⟩
    exact ⟨⟨hclose, hopen, hfinish⟩, fun t' ht' hu => hissue t' ⟨ht', hu⟩⟩
  · rintro ⟨⟨hclose, hopen, hfinish⟩, hissue⟩
    exact ⟨hclose, hopen, fun t' ⟨ht', hu⟩ => hissue t' ht' hu, hfinish⟩

/-- **One call and one ticket.** A document goes on waiting for a ticket that was given out before
exactly if the call does not disturb it. -/
theorem pending?_call_iff (h : WellFormed d) (hlast : t.token ≤ d.lastToken)
    (ht : ∀ t', c = .finish t' → t'.uri = t.uri → t'.token = t.token → t' = t) :
    (d.call c).1.pending? t.uri = some t.token ↔
      d.pending? t.uri = some t.token ∧ ¬Disturbs t ⟨d, c, (d.call c).2, (d.call c).1⟩ := by
  have hi := issues_call h c
  rw [not_disturbs_iff]
  by_cases hm : ∃ t' ∈ d.tickets c, t'.uri = t.uri
  · obtain ⟨t', ht', hu⟩ := hm
    have htok := (hi.token_mem ht').1
    rw [lastToken_touched] at htok
    rw [← hu, hi.pending?_eq ht']
    constructor
    · intro hn
      have := Option.some.inj hn
      omega
    · rintro ⟨-, -, hne⟩
      exact absurd rfl (hne t' ht')
  · have hne : ∀ t' ∈ d.tickets c, t'.uri ≠ t.uri := fun t' ht' hu => hm ⟨t', ht', hu⟩
    rw [hi.pending?_other hne, pending?_touched ht]
    exact ⟨fun ⟨h1, h2⟩ => ⟨h1, h2, hne⟩, fun ⟨h1, h2, _⟩ => ⟨h1, h2⟩⟩

/-! ## Histories -/

theorem issuedAt_concat : IssuedAt (past ++ [m]) i t ↔
    IssuedAt past i t ∨ i = past.length ∧ .ticket t ∈ m.effects :=
  happensAt_concat

theorem HandsInIssued.of_concat (h : HandsInIssued (past ++ [m])) : HandsInIssued past := by
  intro i t ht
  obtain ⟨j, hj, hji⟩ := h i t ht.concat
  have hlt := HappensAt.lt_length ht
  rcases issuedAt_concat.mp hji with hji | ⟨rfl, -⟩
  · exact ⟨j, hj, hji⟩
  · omega

theorem HandsInIssued.last (h : HandsInIssued (past ++ [m])) (hm : m.action = .finish t) :
    ∃ j, IssuedAt past j t := by
  obtain ⟨j, hj, hji⟩ := h past.length t (HappensAt.last hm)
  rcases issuedAt_concat.mp hji with hji | ⟨rfl, -⟩
  · exact ⟨j, hji⟩
  · omega

theorem closedBy_concat : ClosedBy (past ++ [m]) u ↔
    m.action = .close u ∨ m.action ≠ .openDocument u ∧ ClosedBy past u := by
  constructor
  · intro h
    by_cases hc : m.action = .close u
    · exact Or.inl hc
    · refine Or.inr ⟨fun ho => ?_, fun i hi => ?_⟩
      · obtain ⟨j, hj, hcl⟩ := h past.length (HappensAt.last ho)
        have := HappensAt.lt_length hcl
        simp at this
        omega
      · obtain ⟨j, hj, hcl⟩ := h i hi.concat
        rcases happensAt_concat.mp hcl with hcl | ⟨-, hcl⟩
        · exact ⟨j, hj, hcl⟩
        · exact absurd hcl hc
  · rintro (hc | ⟨ho, h⟩) i hi
    · rcases happensAt_concat.mp hi with hi | ⟨-, hi⟩
      · exact ⟨past.length, HappensAt.lt_length hi, HappensAt.last hc⟩
      · rw [hc] at hi
        cases hi
    · rcases happensAt_concat.mp hi with hi | ⟨-, hi⟩
      · obtain ⟨j, hj, hcl⟩ := h i hi
        exact ⟨j, hj, HappensAt.concat hcl⟩
      · exact absurd hi ho

theorem lastOpened_last (hm : m.action = .openDocument u) :
    LastOpened (past ++ [m]) u past.length := by
  refine ⟨HappensAt.last hm, fun j hj => ⟨fun h => ?_, fun h => ?_⟩⟩ <;>
    · have := HappensAt.lt_length h
      simp at this
      omega

theorem LastOpened.concat (h : LastOpened past u i) (ho : m.action ≠ .openDocument u)
    (hc : m.action ≠ .close u) : LastOpened (past ++ [m]) u i := by
  refine ⟨HappensAt.concat h.1, fun j hj => ⟨fun hj' => ?_, fun hj' => ?_⟩⟩
  · rcases happensAt_concat.mp hj' with hj' | ⟨-, hj'⟩
    · exact (h.2 j hj).1 hj'
    · exact ho hj'
  · rcases happensAt_concat.mp hj' with hj' | ⟨-, hj'⟩
    · exact (h.2 j hj).2 hj'
    · exact hc hj'

/-- How the table and the history of calls agree. -/
structure Recorded (past : List (Moment Documents Call Outcome)) (d : Documents) : Prop where
  wellFormed : WellFormed d
  /-- Tickets in the history have tokens that were given out. -/
  given : ∀ i t, IssuedAt past i t → t.token ≤ d.lastToken
  /-- No token is given out twice. -/
  unique : ∀ i j t t', IssuedAt past i t → IssuedAt past j t' → t.token = t'.token → i = j ∧ t = t'
  /-- A document waits for a ticket as long as the ticket is not disturbed. -/
  waits : ∀ i t, IssuedAt past i t →
    (d.pending? t.uri = some t.token ↔ ∀ j, i < j → ¬HappensAt past j (Disturbs t))
  /-- A document waits for tickets of the history only. -/
  source : ∀ u n, d.pending? u = some n → ∃ i t, IssuedAt past i t ∧ t.uri = u ∧ t.token = n
  /-- A document is closed by its last closing. -/
  closed : ∀ u, d.isOpen u = false ↔ ClosedBy past u
  /-- A document is open by its last opening. -/
  opened : ∀ u, d.isOpen u = true → ∃ i, LastOpened past u i

theorem recorded_nil : Recorded [] empty where
  wellFormed := wellFormed_empty
  given := fun _ _ h => absurd h not_happensAt_nil
  unique := fun _ _ _ _ h => absurd h not_happensAt_nil
  waits := fun _ _ h => absurd h not_happensAt_nil
  source := by intro u n h; cases h
  closed := fun u => ⟨fun _ _ h => absurd h not_happensAt_nil, fun _ => rfl⟩
  opened := by intro u h; cases h

section

variable (h : Recorded past d)
include h

theorem Recorded.unique_step (c : Call) (i j : ℕ) (t t' : Ticket)
    (ht : IssuedAt (past ++ [⟨d, c, (d.call c).2, (d.call c).1⟩]) i t)
    (ht' : IssuedAt (past ++ [⟨d, c, (d.call c).2, (d.call c).1⟩]) j t')
    (heq : t.token = t'.token) : i = j ∧ t = t' := by
  have hi := issues_call h.wellFormed c
  have hnew : ∀ t ∈ d.tickets c, d.lastToken < t.token := by
    intro t ht
    have := (hi.token_mem ht).1
    rwa [lastToken_touched] at this
  rcases issuedAt_concat.mp ht with ht | ⟨hlen, ht⟩ <;>
    rcases issuedAt_concat.mp ht' with ht' | ⟨hlen', ht'⟩
  · exact h.unique i j t t' ht ht' heq
  · have h1 := h.given i t ht
    have h2 := hnew t' (ticket_mem_call.mp ht')
    omega
  · have h1 := hnew t (ticket_mem_call.mp ht)
    have h2 := h.given j t' ht'
    omega
  · have hnodup : ((d.tickets c).map Ticket.token).Nodup := by
      rw [hi.tokens]
      exact List.nodup_range'
    refine ⟨hlen.trans hlen'.symm, ?_⟩
    exact List.inj_on_of_nodup_map hnodup (ticket_mem_call.mp ht) (ticket_mem_call.mp ht') heq

theorem Recorded.waits_step {c : Call} (hc : ∀ t', c = .finish t' → ∃ j, IssuedAt past j t')
    (i : ℕ) (t : Ticket) (ht : IssuedAt (past ++ [⟨d, c, (d.call c).2, (d.call c).1⟩]) i t) :
    (d.call c).1.pending? t.uri = some t.token ↔
      ∀ j, i < j → ¬HappensAt (past ++ [⟨d, c, (d.call c).2, (d.call c).1⟩]) j (Disturbs t) := by
  rcases issuedAt_concat.mp ht with ht | ⟨rfl, hnew⟩
  · -- a ticket given out before: one more call may disturb it
    have huniq : ∀ t', c = .finish t' → t'.uri = t.uri → t'.token = t.token → t' = t := by
      intro t' hf _ htok
      obtain ⟨j, hj⟩ := hc t' hf
      exact (h.unique j i t' t hj ht htok).2
    rw [pending?_call_iff h.wellFormed (h.given i t ht) huniq, h.waits i t ht]
    have hi := HappensAt.lt_length ht
    constructor
    · rintro ⟨hpast, hnow⟩ j hj hd
      rcases happensAt_concat.mp hd with hd | ⟨-, hd⟩
      · exact hpast j hj hd
      · exact hnow hd
    · intro hall
      refine ⟨fun j hj hd => hall j hj hd.concat, fun hd => ?_⟩
      exact hall past.length hi (HappensAt.last hd)
  · -- a ticket of this call: nothing has come after it
    have hw := (issues_call h.wellFormed c).pending?_eq (ticket_mem_call.mp hnew)
    refine ⟨fun _ j hj hd => ?_, fun _ => hw⟩
    have := hd.lt_length
    simp at this
    omega

theorem Recorded.source_step (c : Call) (u : Uri) (n : ℕ) (hn : (d.call c).1.pending? u = some n) :
    ∃ i t, IssuedAt (past ++ [⟨d, c, (d.call c).2, (d.call c).1⟩]) i t ∧ t.uri = u ∧
      t.token = n := by
  have hi := issues_call h.wellFormed c
  by_cases hu : ∃ t ∈ d.tickets c, t.uri = u
  · obtain ⟨t, ht, rfl⟩ := hu
    rw [hi.pending?_eq ht] at hn
    exact ⟨past.length, t, HappensAt.last (ticket_mem_call.mpr ht), rfl, Option.some.inj hn⟩
  · rw [hi.pending?_other fun t ht hu' => hu ⟨t, ht, hu'⟩] at hn
    obtain ⟨i, t, ht, rfl, rfl⟩ := h.source u n (pending?_of_touched hn)
    exact ⟨i, t, ht.concat, rfl, rfl⟩

theorem Recorded.step {c : Call} (hc : ∀ t', c = .finish t' → ∃ j, IssuedAt past j t') :
    Recorded (past ++ [⟨d, c, (d.call c).2, (d.call c).1⟩]) (d.call c).1 where
  wellFormed := h.wellFormed.call c
  given := by
    intro i t ht
    have hi := issues_call h.wellFormed c
    have hle := hi.lastToken_le
    rw [lastToken_touched] at hle
    rcases issuedAt_concat.mp ht with ht | ⟨-, ht⟩
    · exact Nat.le_trans (h.given i t ht) hle
    · exact (hi.token_mem (ticket_mem_call.mp ht)).2
  unique := h.unique_step c
  waits := h.waits_step hc
  source := h.source_step c
  closed := by
    intro u
    rw [closedBy_concat, ← h.closed u, ← Bool.not_eq_true, isOpen_call_iff h.wellFormed]
    by_cases hclose : c = .close u
    · simp [hclose]
    · simp [hclose]
  opened := by
    intro u ho
    by_cases hopen : c = .openDocument u
    · exact ⟨past.length, lastOpened_last hopen⟩
    · rcases (isOpen_call_iff h.wellFormed).mp ho with hc | ⟨hclose, ho⟩
      · exact absurd hc hopen
      · obtain ⟨i, hi⟩ := h.opened u ho
        exact ⟨i, hi.concat hopen hclose⟩

end

/-- The table agrees with every history of calls. -/
theorem recorded (h : Calls past d) (hf : HandsInIssued past) : Recorded past d := by
  induction h with
  | nil => exact recorded_nil
  | @snoc past d d' c effects _ hs ih =>
    have hcall := Option.some.inj hs
    rw [show d' = (d.call c).1 by rw [hcall], show effects = (d.call c).2 by rw [hcall]] at hf ⊢
    exact (ih hf.of_concat).step fun t' ht' => hf.last ht'

/-! ## The states of a document -/

theorem state_eq_closed_iff : d.state u = .closed ↔ d.isOpen u = false := by
  unfold state isOpen
  cases d.get? u with
  | none => simp
  | some doc => cases hp : doc.pending <;> simp [hp]

theorem state_eq_validating_iff : d.state u = .validating ↔ ∃ n, d.pending? u = some n := by
  unfold state pending?
  cases d.get? u with
  | none => simp
  | some doc => cases hp : doc.pending <;> simp [hp]

/-- A document waits exactly if, by the history, it is awaited. -/
theorem Recorded.pending?_iff (h : Recorded past d) (hf : HandsInIssued past) :
    (∃ n, d.pending? u = some n) ↔ Awaited past u := by
  constructor
  · rintro ⟨n, hn⟩
    obtain ⟨k, t, ht, rfl, rfl⟩ := h.source u n hn
    have hlive := (h.waits k t ht).mp hn
    obtain ⟨i, hi⟩ := h.opened t.uri (isOpen_of_pending? hn)
    have hik : i ≤ k := by
      by_contra hlt
      obtain ⟨m, hm, ho⟩ := hi.1
      exact hlive i (by omega) ⟨m, hm, Or.inr (Or.inl ho)⟩
    refine ⟨i, k, t, hi, hik, ⟨ht, rfl, fun j t' hj ht' hu => ?_⟩, fun j hj => ?_⟩
    · obtain ⟨m, hm, he⟩ := ht'
      exact hlive j hj ⟨m, hm, Or.inr (Or.inr (Or.inl ⟨t', he, hu⟩))⟩
    · -- it was given out before it was handed in, and that was at place `k`
      obtain ⟨m, hm, hfinish, hyes⟩ := hj
      obtain ⟨k', hk', ht'⟩ := hf j t ⟨m, hm, hfinish⟩
      obtain ⟨rfl, -⟩ := h.unique k' k t t ht' ht rfl
      exact hlive j hk' ⟨m, hm, Or.inr (Or.inr (Or.inr ⟨hfinish, hyes⟩))⟩
  · rintro ⟨i, k, t, hi, hik, ⟨ht, rfl, hlast⟩, hacc⟩
    refine ⟨t.token, (h.waits k t ht).mpr fun j hj hd => ?_⟩
    obtain ⟨m, hm, hclose | hopen | ⟨t', he, hu⟩ | hf⟩ := hd
    · exact (hi.2 j (by omega)).2 ⟨m, hm, hclose⟩
    · exact (hi.2 j (by omega)).1 ⟨m, hm, hopen⟩
    · exact hlast j t' hj ⟨m, hm, he⟩ hu
    · exact hacc j ⟨m, hm, hf⟩

/-- **Tickets by their history.** Take any history of calls in which only tickets are handed in that
were given out before. A ticket is accepted exactly if, since the call that gave it out, its
document was neither closed nor opened, no other ticket was given out for its document, and it was
not accepted. A document is closed if that was the last done about it, of opening and closing it; it
is validating if it is open and the last ticket for it, given out since it was last opened, has not
been accepted; and idle otherwise. -/
theorem tickets_by_history (h : Calls past d) (hf : HandsInIssued past) :
    (∀ i t, IssuedAt past i t →
      ((d.finish t).2 = true ↔ ∀ j, i < j → ¬HappensAt past j (Disturbs t))) ∧
    ∀ u, (d.state u = .closed ↔ ClosedBy past u) ∧
      (d.state u = .validating ↔ Awaited past u) ∧
      (d.state u = .idle ↔ ¬ClosedBy past u ∧ ¬Awaited past u) := by
  have hr := recorded h hf
  refine ⟨fun i t ht => ?_, fun u => ?_⟩
  · rw [finish_accepts_iff, hr.waits i t ht]
  · have hclosed : d.state u = .closed ↔ ClosedBy past u := by
      rw [state_eq_closed_iff, hr.closed u]
    have hvalidating : d.state u = .validating ↔ Awaited past u := by
      rw [state_eq_validating_iff, hr.pending?_iff hf]
    refine ⟨hclosed, hvalidating, ?_⟩
    rw [← hclosed, ← hvalidating]
    cases d.state u <;> simp

/-- A document is opened and gets a second ticket; the first is handed in too late, the second in
time. -/
def superseded : List (Moment Documents Call Outcome) × Documents :=
  replay (fun d c => some (d.call c)) empty
    [.openDocument sampleFile, .requestAll, .finish ⟨sampleFile, [47, 97], 1⟩,
      .finish ⟨sampleFile, [47, 97], 2⟩]

theorem superseded_handsInIssued : HandsInIssued superseded.1 := by
  rintro i t ⟨m, hm, hf⟩
  rcases i with _ | _ | _ | _ | i
  · cases hm; cases hf
  · cases hm; cases hf
  · cases hm; cases hf
    exact ⟨0, by decide, _, rfl, by decide⟩
  · cases hm; cases hf
    exact ⟨1, by decide, _, rfl, by decide⟩
  · cases hm

theorem tickets_by_history_superseded :
    HandsInIssued superseded.1 ∧ IssuedAt superseded.1 0 ⟨sampleFile, [47, 97], 1⟩ ∧
      (superseded.2.finish ⟨sampleFile, [47, 97], 1⟩).2 = false ∧
      (∃ j, 0 < j ∧ HappensAt superseded.1 j (Disturbs ⟨sampleFile, [47, 97], 1⟩)) ∧
      superseded.2.state sampleFile = .idle ∧ ¬ClosedBy superseded.1 sampleFile ∧
      ¬Awaited superseded.1 sampleFile := by
  have hc : Calls superseded.1 superseded.2 := replay_trace _ _ _
  have h := tickets_by_history hc superseded_handsInIssued
  have hissued : IssuedAt superseded.1 0 ⟨sampleFile, [47, 97], 1⟩ := ⟨_, rfl, by decide⟩
  have hrefused : (superseded.2.finish ⟨sampleFile, [47, 97], 1⟩).2 = false := by decide
  have hidle : superseded.2.state sampleFile = .idle := by decide
  refine ⟨superseded_handsInIssued, hissued, hrefused, ?_, hidle, ((h.2 sampleFile).2.2).mp hidle⟩
  by_contra hnone
  have haccepted := (h.1 0 _ hissued).mpr fun j hj hd => hnone ⟨j, hj, hd⟩
  rw [hrefused] at haccepted
  cases haccepted

end Documents

end LineLint
