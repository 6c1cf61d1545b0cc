import LineLint.Proofs.Server.Strides
import Mathlib.Logic.Relation

/-!
# Runs of different documents commute

Two runs of different documents can take their steps in either order, and nobody sees a difference.
So it does not matter for a document how its runs are interleaved with those of others, as long as
its own runs and the handlers take the same steps in the same order.

* `inView` — the actions that a document sees: those of its own runs, and of all handlers.
* `Swap` — two neighbours of different documents change places.
* `uriOf` — the document of the run that takes a step.
* `outgoing` — what goes out for a document: diagnostics, requests for settings, starts of the
  checker.

Results:

* `swaps_of_views`: lists that look the same to all come from each other by changing places.
* `Renamed.trace`: renamed servers have the same traces.
* `reorder_one`: two neighbours of a trace can change places.
* `runs_commute`: steps of runs commute, and so do whole schedules.
-/

namespace LineLint

/-! ## Views of a list -/

section

variable {α κ : Type} {f : α → Option κ} {x y : List α}

/-- Two neighbours that belong to different ones change places. -/
def Swap (f : α → Option κ) (x y : List α) : Prop :=
  ∃ l a b l' k k', x = l ++ a :: b :: l' ∧ y = l ++ b :: a :: l' ∧ f a = some k ∧
    f b = some k' ∧ k ≠ k'

theorem Swap.cons (h : Swap f x y) (c : α) : Swap f (c :: x) (c :: y) := by
  obtain ⟨l, a, b, l', k, k', rfl, rfl, ha, hb, hne⟩ := h
  exact ⟨c :: l, a, b, l', k, k', rfl, rfl, ha, hb, hne⟩

theorem swaps_cons (h : Relation.ReflTransGen (Swap f) x y) (c : α) :
    Relation.ReflTransGen (Swap f) (c :: x) (c :: y) :=
  h.lift (c :: ·) fun _ _ hswap => hswap.cons c

variable [DecidableEq κ]

/-- Whether someone sees an entry: it is theirs, or it is everybody's. -/
def inView (f : α → Option κ) (k : κ) (a : α) : Bool := f a = none ∨ f a = some k

/-- An entry can be brought to the front of others that do not see it. -/
theorem swaps_to_front {a : α} {k : κ} (ha : f a = some k) (l l' : List α)
    (hl : ∀ b ∈ l, inView f k b = false) :
    Relation.ReflTransGen (Swap f) (l ++ a :: l') (a :: (l ++ l')) := by
  induction l with
  | nil => exact .refl
  | cons b l ih =>
    have hrest := ih fun c hc => hl c (List.mem_cons_of_mem _ hc)
    have hb : ¬(f b = none ∨ f b = some k) := of_decide_eq_false (hl b List.mem_cons_self)
    obtain ⟨k', hk'⟩ := Option.ne_none_iff_exists'.mp fun h => hb (Or.inl h)
    have hne : k' ≠ k := fun h => hb (Or.inr (h ▸ hk'))
    exact (swaps_cons hrest b).tail ⟨[], b, a, l ++ l', k', k, rfl, rfl, hk', ha, hne⟩

theorem exists_inView [Nonempty κ] (f : α → Option κ) (a : α) : ∃ k, inView f k a = true := by
  cases hf : f a with
  | none => exact ⟨Classical.arbitrary κ, by simp [inView, hf]⟩
  | some k => exact ⟨k, by simp [inView, hf]⟩

/-- Lists that look the same to all come from each other by changing places. -/
theorem swaps_of_views [Nonempty κ]
    (h : ∀ k, y.filter (inView f k) = x.filter (inView f k)) :
    Relation.ReflTransGen (Swap f) x y := by
  induction y generalizing x with
  | nil =>
    cases x with
    | nil => exact .refl
    | cons a x =>
      obtain ⟨k, hk⟩ := exists_inView f a
      have hview := h k
      rw [List.filter_cons_of_pos hk] at hview
      cases hview
  | cons b y ih =>
    cases hf : f b with
    | none =>
      -- everybody sees it, so nothing can come before it
      have hb : ∀ k, inView f k b = true := fun k => by simp [inView, hf]
      cases x with
      | nil =>
        have hview := h (Classical.arbitrary κ)
        rw [List.filter_cons_of_pos (hb _)] at hview
        cases hview
      | cons a x =>
        obtain ⟨k, hk⟩ := exists_inView f a
        have hview := h k
        rw [List.filter_cons_of_pos (hb k), List.filter_cons_of_pos hk] at hview
        obtain rfl : b = a := (List.cons.inj hview).1
        refine swaps_cons (ih fun k => ?_) b
        have hview := h k
        rw [List.filter_cons_of_pos (hb k), List.filter_cons_of_pos (hb k)] at hview
        exact (List.cons.inj hview).2
    | some k =>
      have hb : inView f k b = true := by simp [inView, hf]
      have hview := h k
      rw [List.filter_cons_of_pos hb] at hview
      obtain ⟨l, l', rfl, hl, -, hrest⟩ := List.filter_eq_cons_iff.mp hview.symm
      have hnone : ∀ c ∈ l, inView f k c = false := fun c hc => by simpa using hl c hc
      refine (swaps_to_front hf l l' hnone).trans (swaps_cons (ih fun k' => ?_) b)
      by_cases hkk : k' = k
      · rw [hkk, List.filter_append, List.filter_eq_nil_iff.mpr hl, List.nil_append, hrest]
      · have hb' : ¬inView f k' b = true := by simp [inView, hf, Ne.symm hkk]
        have hview' := h k'
        rwa [List.filter_cons_of_neg hb', List.filter_append, List.filter_cons_of_neg hb',
          ← List.filter_append] at hview'

end

/-! ## What goes out -/

/-- The document for which an effect goes out: diagnostics, a request for settings, or a start of
the checker by a run. -/
def Effect.uri? (s : Server) : Effect → Option Uri
  | .publish u _ => some u
  | .fetch _ u => some u
  | .check r _ _ => (s.runs[r]?).map fun run => run.ticket.uri
  | _ => none

namespace Server

variable {s s' next : Server} {a a' : Action} {effects effects' : List Effect}
  {perResource registers : Bool} {past more : List (Moment Server Action Effect)}
  {m : Moment Server Action Effect} {u : Uri} {r r' : ℕ} {t : Ticket} {p : Phase}
  {run run' : Run} {π : Equiv.Perm ℕ}

/-- The tickets of all runs. -/
def tickets (s : Server) : List Ticket := s.runs.map Run.ticket

theorem ticket_eq (hr : s.runs[r]? = some run) : s.tickets[r]? = some run.ticket := by
  rw [tickets, List.getElem?_map, hr]
  rfl

/-- What goes out for a document in one step. -/
def outgoingBy (u : Uri) (m : Moment Server Action Effect) : List Effect :=
  m.effects.filter fun e => e.uri? m.before = some u

/-- What goes out for a document, in order. -/
def outgoing (u : Uri) (past : List (Moment Server Action Effect)) : List Effect :=
  past.flatMap (outgoingBy u)

@[simp]
theorem outgoing_append : outgoing u (past ++ more) = outgoing u past ++ outgoing u more :=
  List.flatMap_append

@[simp]
theorem outgoing_singleton : outgoing u [m] = outgoingBy u m := by
  rw [outgoing, List.flatMap_singleton]

/-- The diagnostics among what goes out for a document. -/
theorem publications_eq (u : Uri) (past : List (Moment Server Action Effect)) :
    publications u past = (outgoing u past).filterMap (publishedBy u) := by
  induction past with
  | nil => rfl
  | cons m past ih =>
    have hown :
        m.effects.filterMap (publishedBy u) = (outgoingBy u m).filterMap (publishedBy u) := by
      rw [outgoingBy, List.filterMap_filter]
      congr 1
      funext e
      cases e with
      | publish v found =>
        by_cases hv : v = u
        · simp [Effect.uri?, publishedBy, hv]
        · simp [Effect.uri?, publishedBy, hv]
      | _ => simp [publishedBy]
    rw [outgoing, List.flatMap_cons, List.filterMap_append, ← hown]
    exact congrArg (m.effects.filterMap (publishedBy u) ++ ·) ih

/-- The document for which an effect goes out depends on the tickets only. -/
theorem uri?_eq_of_tickets_eq (h : s'.tickets = s.tickets) (e : Effect) : e.uri? s' = e.uri? s := by
  cases e with
  | check r path maxLength =>
    have huri : ∀ x : Server, (x.runs[r]?).map (fun run => run.ticket.uri) =
        (x.tickets[r]?).map Ticket.uri := by
      intro x
      rw [tickets, List.getElem?_map, Option.map_map]
      rfl
    rw [Effect.uri?, Effect.uri?, huri, huri, h]
  | _ => rfl

theorem outgoingBy_eq_of_tickets_eq (h : s'.tickets = s.tickets) (u : Uri) (a a' : Action)
    (effects : List Effect) (x x' : Server) :
    outgoingBy u ⟨s', a, effects, x⟩ = outgoingBy u ⟨s, a', effects, x'⟩ := by
  unfold outgoingBy
  simp only [uri?_eq_of_tickets_eq h]

/-- A run takes its steps for its own document. -/
theorem Moves.outgoingBy_eq_nil (h : Moves s a s' effects) (ha : a.run? = some r)
    (hr : s.runs[r]? = some run) (hu : run.ticket.uri ≠ u) :
    outgoingBy u ⟨s, a, effects, s'⟩ = [] := by
  obtain ⟨t, p, q, hrun, -, hstep⟩ := h.advance ha
  rw [hr] at hrun
  cases hrun
  have hother : ¬t.uri = u := hu
  unfold outgoingBy
  cases hstep with
  | proceedAsk => simp [Effect.uri?, hother]
  | check => simp [Effect.uri?, hr, hother]
  | finishPublishes => simp [Effect.uri?, hother]
  | _ => simp [Effect.uri?]

theorem Moves.tickets_eq (h : Moves s a s' effects) (ha : a.run? = some r) :
    s'.tickets = s.tickets := by
  obtain ⟨_, _, k, -, -, rfl, -⟩ := h.stride ha
  exact map_modify_eq (by intro run; rfl) s.runs r

/-- What two runs of different documents send goes out for each in the same order, whichever of
them comes first. -/
theorem outgoing_swap {s₁ s₁' : Server} (ha : a.run? = some r) (ha' : a'.run? = some r')
    (hr : s.runs[r]? = some run) (hr' : s.runs[r']? = some run')
    (huri : run.ticket.uri ≠ run'.ticket.uri) (hs₁ : s.step a = some (s₁, effects))
    (hs₁' : s.step a' = some (s₁', effects')) (s₂ s₂' : Server) (u : Uri) :
    outgoing u [⟨s, a, effects, s₁⟩, ⟨s₁, a', effects', s₂⟩] =
      outgoing u [⟨s, a', effects', s₁'⟩, ⟨s₁', a, effects, s₂'⟩] := by
  have hm := moves_of_step hs₁
  have hm' := moves_of_step hs₁'
  have hlate : outgoingBy u ⟨s₁, a', effects', s₂⟩ = outgoingBy u ⟨s, a', effects', s₁'⟩ :=
    outgoingBy_eq_of_tickets_eq (hm.tickets_eq ha) u _ _ _ _ _
  have hlate' : outgoingBy u ⟨s₁', a, effects, s₂'⟩ = outgoingBy u ⟨s, a, effects, s₁⟩ :=
    outgoingBy_eq_of_tickets_eq (hm'.tickets_eq ha') u _ _ _ _ _
  simp only [outgoing, List.flatMap_cons, List.flatMap_nil, List.append_nil, hlate, hlate']
  -- at most one of the steps is for this document
  by_cases hu : run.ticket.uri = u
  · rw [hm'.outgoingBy_eq_nil ha' hr' fun h => huri (hu.trans h.symm)]
    simp
  · rw [hm.outgoingBy_eq_nil ha hr hu]
    simp

/-! ## Renamed traces -/

theorem Renamed.tickets_eq (h : Renamed π s s') : s'.tickets = s.tickets := by
  rw [tickets, h.runs, List.map_map]
  rfl

/-- Renamed servers have the same traces, and the same goes out. -/
theorem Renamed.trace (hsession : Session perResource registers past s) (h : Renamed π s s')
    (htrace : Trace step s more next) : ∃ more' next', Trace step s' more' next' ∧
      Renamed π next next' ∧ more'.map Moment.action = more.map Moment.action ∧
      ∀ u, outgoing u more' = outgoing u more := by
  induction htrace with
  | nil => exact ⟨[], s', .nil, h, rfl, fun _ => rfl⟩
  | @snoc more x x' a effects htrace hs ih =>
    obtain ⟨more', y, hmore, hrenamed, hactions, hout⟩ := ih
    have hn := (sheltered_of_session (hsession.append htrace)).distinct
    obtain ⟨y', hm', hrenamed'⟩ := hrenamed.follow hn (moves_of_step hs)
    refine ⟨_, y', hmore.snoc (step_of_moves hm'), hrenamed', ?_, fun u => ?_⟩
    · rw [List.map_append, List.map_append, hactions]
      rfl
    · rw [outgoing_append, outgoing_append, hout, outgoing_singleton, outgoing_singleton,
        outgoingBy_eq_of_tickets_eq hrenamed.tickets_eq u a a effects y' x']

/-! ## Schedules -/

/-- The document of the run that takes a step, if it is a run. -/
def uriOf (s : Server) (a : Action) : Option Uri :=
  a.run?.bind fun r => (s.tickets[r]?).map Ticket.uri

theorem uriOf_eq_some_iff : s.uriOf a = some u ↔
    ∃ r t, a.run? = some r ∧ s.tickets[r]? = some t ∧ t.uri = u := by
  simp only [uriOf, Option.bind_eq_some_iff, Option.map_eq_some_iff]
  constructor
  · rintro ⟨r, hr, t, ht, hu⟩
    exact ⟨r, t, hr, ht, hu⟩
  · rintro ⟨r, t, hr, ht, hu⟩
    exact ⟨r, hr, t, ht, hu⟩

/-- Runs keep their tickets. -/
theorem ticket_kept (htrace : Trace step s more next) (hr : s.runs[r]? = some run) :
    next.tickets[r]? = some run.ticket := by
  have hkept : ∃ q, next.runs[r]? = some ⟨run.ticket, q⟩ := by
    induction htrace with
    | nil => exact ⟨run.phase, hr⟩
    | snoc htrace hs ih =>
      obtain ⟨q, hq⟩ := ih
      exact (moves_of_step hs).reshapes.run_kept hq
  obtain ⟨q, hq⟩ := hkept
  have hticket := ticket_eq hq
  exact hticket

/-- Two steps in the middle of a session change places, and everything after them stays the same. -/
theorem swap_within {s₁ s₂ : Server} (h : Session perResource registers past s)
    (ha : a.run? = some r) (ha' : a'.run? = some r') (hr : s.runs[r]? = some run)
    (hr' : s.runs[r']? = some run') (huri : run.ticket.uri ≠ run'.ticket.uri)
    (hs₁ : s.step a = some (s₁, effects)) (hs₂ : s₁.step a' = some (s₂, effects'))
    (hmore : Trace step s₂ more next) : ∃ past' next' π,
      Session perResource registers past' next' ∧
      past'.map Moment.action = past.map Moment.action ++ a' :: a :: more.map Moment.action ∧
      Renamed π next next' ∧ ∀ u, outgoing u past' =
        outgoing u (past ++ ([⟨s, a, effects, s₁⟩, ⟨s₁, a', effects', s₂⟩] ++ more)) := by
  obtain ⟨s₁', s₂', π, hs₁', hs₂', hrenamed, -⟩ := swap_of_session h ha ha' hr hr' huri hs₁ hs₂
  obtain ⟨more', next', hmore', hrenamed', hactions, hout⟩ :=
    hrenamed.trace ((h.snoc hs₁).snoc hs₂) hmore
  refine ⟨_, next', π, ((h.snoc hs₁').snoc hs₂').append hmore', ?_, hrenamed', fun u => ?_⟩
  · simp [hactions]
  · have hpair := outgoing_swap ha ha' hr hr' huri hs₁ hs₁' s₂ s₂' u
    rw [List.append_assoc past, List.append_assoc past]
    simp only [outgoing_append, hout, hpair, outgoing_singleton]
    simp [outgoing]

/-- Two neighbours of a trace that belong to different documents can change places. -/
theorem reorder_one (h : Session perResource registers past s) {schedule : List Action}
    (hswap : Swap s.uriOf (past.map Moment.action) schedule) : ∃ past' s' π,
      Session perResource registers past' s' ∧ past'.map Moment.action = schedule ∧
      Renamed π s s' ∧ ∀ u, outgoing u past' = outgoing u past := by
  obtain ⟨l, a, a', l', v, v', hx, rfl, ha, ha', hne⟩ := hswap
  obtain ⟨first, rest, rfl, rfl, hrest⟩ := List.map_eq_append_iff.mp hx
  obtain ⟨m, rest', rfl, rfl, hrest'⟩ := List.map_eq_cons_iff.mp hrest
  obtain ⟨⟨before', a', effects', after'⟩, more, rfl, rfl, rfl⟩ := List.map_eq_cons_iff.mp hrest'
  obtain ⟨s₀, hfirst, htrace⟩ := h.split
  obtain ⟨rfl, hs₁, hlater⟩ := htrace.first
  obtain ⟨hbefore, hs₂, hmore⟩ := hlater.first
  dsimp only at hbefore
  subst hbefore
  obtain ⟨r, t, har, ht, rfl⟩ := uriOf_eq_some_iff.mp ha
  obtain ⟨r', t', har', ht', rfl⟩ := uriOf_eq_some_iff.mp ha'
  -- both runs are there before the two steps, with the tickets that they have in the end
  obtain ⟨_, _, _, hr, -⟩ := (moves_of_step hs₁).advance har
  obtain ⟨run', hr'⟩ : ∃ run', m.before.runs[r']? = some run' := by
    obtain ⟨_, _, _, hlate, -⟩ := (moves_of_step hs₂).advance har'
    have hticket := ticket_eq hlate
    rw [(moves_of_step hs₁).tickets_eq har, tickets, List.getElem?_map] at hticket
    obtain ⟨run', hrun', -⟩ := Option.map_eq_some_iff.mp hticket
    exact ⟨run', hrun'⟩
  have hticket := Option.some.inj ((ticket_kept htrace hr).symm.trans ht)
  have hticket' := Option.some.inj ((ticket_kept htrace hr').symm.trans ht')
  subst hticket hticket'
  exact swap_within hfirst har har' hr hr' hne hs₁ hs₂ hmore

/-- Neighbours can change places again and again. -/
theorem reorder (h : Session perResource registers past s) {schedule : List Action}
    (hswaps : Relation.ReflTransGen (Swap s.uriOf) (past.map Moment.action) schedule) :
    ∃ past' s' π, Session perResource registers past' s' ∧ past'.map Moment.action = schedule ∧
      Renamed π s s' ∧ ∀ u, outgoing u past' = outgoing u past := by
  induction hswaps with
  | refl => exact ⟨past, s, _, h, rfl, Renamed.refl s, fun _ => rfl⟩
  | tail _ hswap ih =>
    obtain ⟨past', s', π, hpast', rfl, hrenamed, hout⟩ := ih
    have huri : s'.uriOf = s.uriOf := by
      funext a
      rw [uriOf, uriOf, hrenamed.tickets_eq]
    rw [← huri] at hswap
    obtain ⟨past'', s'', π', hpast'', hactions, hrenamed', hout'⟩ := reorder_one hpast' hswap
    exact ⟨past'', s'', _, hpast'', hactions, hrenamed.trans hrenamed',
      fun u => (hout' u).trans (hout u)⟩

/-- **Runs of different documents commute.** In every state that can be reached, when two runs of
different documents can both take a step, they can do so in either order, with the same effects.
Both orders lead to the same documents, the same global value and the same entries, cells and runs,
except that cells which were made in these steps may have other names; and for every document the
same diagnostics, requests and starts of the checker go out in the same order. Hence the same holds
of whole schedules: any schedule in which handlers and the runs of each document take the same steps
in the same order, with the same answers and results of the checker, is possible, too, and for every
document the same is published. -/
theorem runs_commute (h : Session perResource registers past s) :
    (∀ (a a' : Action) (r r' : ℕ) (run run' : Run) (s₁ s₁' : Server)
      (effects effects' : List Effect), a.run? = some r → a'.run? = some r' →
      s.runs[r]? = some run → s.runs[r']? = some run' → run.ticket.uri ≠ run'.ticket.uri →
      s.step a = some (s₁, effects) → s.step a' = some (s₁', effects') →
      ∃ s₂ s₂' π, s₁.step a' = some (s₂, effects') ∧ s₁'.step a = some (s₂', effects) ∧
        Renamed π s₂ s₂' ∧ (∀ i < s.cache.cells.length, π i = i) ∧
        ∀ u, outgoing u [⟨s, a, effects, s₁⟩, ⟨s₁, a', effects', s₂⟩] =
          outgoing u [⟨s, a', effects', s₁'⟩, ⟨s₁', a, effects, s₂'⟩]) ∧
      ∀ schedule : List Action, (∀ u, schedule.filter (inView s.uriOf u) =
        (past.map Moment.action).filter (inView s.uriOf u)) →
      ∃ past' s' π, Session perResource registers past' s' ∧
        past'.map Moment.action = schedule ∧ Renamed π s s' ∧
        ∀ u, outgoing u past' = outgoing u past ∧ publications u past' = publications u past := by
  refine ⟨?_, fun schedule hviews => ?_⟩
  · intro a a' r r' run run' s₁ s₁' effects effects' ha ha' hr hr' huri hs₁ hs₁'
    obtain ⟨s₂, hs₂⟩ := step_after h ha ha' hr hr' huri hs₁ hs₁'
    obtain ⟨x, s₂', π, hx, hs₂', hrenamed, hold⟩ := swap_of_session h ha ha' hr hr' huri hs₁ hs₂
    obtain rfl : x = s₁' := by
      rw [hs₁'] at hx
      cases hx
      rfl
    exact ⟨s₂, s₂', π, hs₂, hs₂', hrenamed, hold,
      outgoing_swap ha ha' hr hr' huri hs₁ hs₁' s₂ s₂'⟩
  · have : Nonempty Uri := ⟨Documents.sampleFile⟩
    obtain ⟨past', s', π, hpast', hactions, hrenamed, hout⟩ := reorder h (swaps_of_views hviews)
    refine ⟨past', s', π, hpast', hactions, hrenamed, fun u => ⟨hout u, ?_⟩⟩
    rw [publications_eq, publications_eq, hout]

/-- Two documents are open, and their runs have not begun. -/
def waiting : List (Moment Server Action Effect) × Server :=
  replay step (initial.introduced true false)
    [.didOpen Documents.sampleFile, .didOpen Documents.otherFile]

/-- Two runs take their steps in turn. -/
def alternating : List Action :=
  [.didOpen Documents.sampleFile, .didOpen Documents.otherFile, .start 0, .start 1, .ask 0, .ask 1,
    .proceed 0, .proceed 1, .answered 0 (.ok ⟨60, 1000⟩), .answered 1 (.ok ⟨120, 1000⟩), .check 0,
    .check 1, .returned 0 (.ok "/a:1: long"), .returned 1 (.ok "/b:2: long"), .finish 0, .finish 1]

/-- The same steps, one run after the other. -/
def consecutive : List Action :=
  [.didOpen Documents.sampleFile, .didOpen Documents.otherFile, .start 1, .ask 1, .proceed 1,
    .answered 1 (.ok ⟨120, 1000⟩), .check 1, .returned 1 (.ok "/b:2: long"), .finish 1, .start 0,
    .ask 0, .proceed 0, .answered 0 (.ok ⟨60, 1000⟩), .check 0, .returned 0 (.ok "/a:1: long"),
    .finish 0]

/-- Every document sees the same steps in both schedules. -/
theorem views_alternating
    (hs : s.tickets.map Ticket.uri = [Documents.sampleFile, Documents.otherFile]) (u : Uri) :
    consecutive.filter (inView s.uriOf u) = alternating.filter (inView s.uriOf u) := by
  have hf : ∀ a, s.uriOf a =
      a.run?.bind fun r => [Documents.sampleFile, Documents.otherFile][r]? := by
    intro a
    rw [uriOf, ← hs]
    simp only [List.getElem?_map]
  by_cases hu : Documents.sampleFile = u
  · have hu' : ¬Documents.otherFile = u := by
      rw [← hu]
      decide
    simp [consecutive, alternating, inView, hf, Action.run?, hu, hu']
  · by_cases hu' : Documents.otherFile = u
    · simp [consecutive, alternating, inView, hf, Action.run?, hu, hu']
    · simp [consecutive, alternating, inView, hf, Action.run?, hu, hu']

theorem runs_commute_alternating :
    (∃ s₁ s₁' s₂ s₂' π, waiting.2.step (.start 0) = some (s₁, []) ∧
      waiting.2.step (.start 1) = some (s₁', []) ∧ s₁.step (.start 1) = some (s₂, []) ∧
      s₁'.step (.start 0) = some (s₂', []) ∧ Renamed π s₂ s₂' ∧
      s₂.cache.entries = [(Documents.sampleFile, 0), (Documents.otherFile, 1)] ∧
      s₂'.cache.entries = [(Documents.otherFile, 0), (Documents.sampleFile, 1)]) ∧
      ∃ past s, Session true false past s ∧ past.map Moment.action = consecutive ∧
        publications Documents.sampleFile past = [diagnosticsOf ⟨60, 1000⟩ "/a:1: long"] ∧
        publications Documents.otherFile past = [diagnosticsOf ⟨120, 1000⟩ "/b:2: long"] := by
  constructor
  · have h : Session true false waiting.1 waiting.2 := replay_trace _ _ _
    obtain ⟨s₂, s₂', π, hs₂, hs₂', hrenamed, -⟩ := (runs_commute h).1 (.start 0) (.start 1) 0 1
      _ _ _ _ _ _ rfl rfl rfl rfl (by decide) rfl rfl
    refine ⟨_, _, s₂, s₂', π, rfl, rfl, hs₂, hs₂', hrenamed, ?_, ?_⟩
    · cases hs₂
      rfl
    · cases hs₂'
      rfl
  · have h : Session true false (replay step _ alternating).1 (replay step _ alternating).2 :=
      replay_trace _ _ _
    obtain ⟨past, s, -, hpast, hactions, -, hout⟩ := (runs_commute h).2 consecutive
      (views_alternating rfl)
    exact ⟨past, s, hpast, hactions, (hout _).2.trans rfl, (hout _).2.trans rfl⟩

end Server

end LineLint
