import LineLint.Proofs.Settings.SingleFlight
import LineLint.Settings.Section

/-!
# Two ways to the same settings

A section of the configuration is pushed by the editor, or comes as the first item of its answer to
a request. Both ways lead to the same settings: those of the section if it can be read, and the
defaults otherwise. An answer is looked at once more before it fills a cell, which makes no
difference. Only a section that was read fills a cell; the defaults that stand in for a missing or
unusable one are not kept.

* `Settings.section?` — the section that an answer holds.
* `Settings.ofSection` — the settings of a section that may be missing or unusable.
* `Settings.Accepted` — an answer holds a section that can be read.
* `Resolver.Retains` — what is kept of the answers at a cell.

Results:

* `Settings.pushed_eq`, `Settings.resolved_answered`: where the two ways meet.
* `Settings.usable_answered_iff`: which answers fill a cell.
* `Resolver.retains_of_trace`: what is kept at a cell, in every trace.
-/

namespace LineLint

namespace Settings

variable {v : Json} {reply : Reply} {settings : Settings}

/-! ## A section and an answer -/

/-- The section that an answer holds: the first item of a list. -/
def section? : Reply → Option Json
  | .ok (.arr (v :: _)) => some v
  | _ => none

/-- The settings of a section: the defaults if it is missing or cannot be read. -/
def ofSection : Option Json → Settings
  | none => standard
  | some v =>
    match ofJson v with
    | .ok settings => settings
    | .error _ => standard

/-- An answer holds a section that can be read. -/
def Accepted (reply : Reply) (settings : Settings) : Prop :=
  ∃ v, section? reply = some v ∧ ofJson v = .ok settings

/-- A pushed configuration is read by its section. -/
theorem pushed_eq (configuration : Json) :
    (pushed configuration).1 = ofSection (configuration.get? sectionName) := by
  unfold pushed
  cases configuration.get? sectionName with
  | none => rfl
  | some v =>
    show (match ofJson v with | .ok s => (s, none) | .error e => (standard, some e)).1 =
      match ofJson v with | .ok settings => settings | .error _ => standard
    cases ofJson v <;> rfl

theorem eq_of_validated {found : Settings} (h : found.validated = .ok settings) :
    found = settings := by
  unfold validated at h
  split_ifs at h
  cases h
  rfl

/-- What was read is not refused later. -/
theorem validated_of_ofJson (h : ofJson v = .ok settings) : settings.validated = .ok settings := by
  unfold ofJson at h
  split_ifs at h
  · cases h
    rfl
  · split at h
    · cases h
    · obtain rfl := eq_of_validated h
      exact h

theorem answered_eq_ok_iff : answered reply = .ok settings ↔ Accepted reply settings := by
  constructor
  · intro h
    unfold answered at h
    split at h
    · cases h
    · cases h
    · exact ⟨_, rfl, h⟩
    · cases h
  · rintro ⟨v, hv, h⟩
    unfold section? at hv
    split at hv
    · cases hv
      exact h
    · cases hv

/-- The answers that fill a cell. -/
theorem usable_answered_iff :
    Resolver.Usable (answered reply) settings ↔ Accepted reply settings := by
  rw [← Resolver.bind_validated_eq_ok_iff, ← answered_eq_ok_iff]
  constructor
  · intro h
    cases ha : answered reply with
    | error e =>
      rw [ha] at h
      cases h
    | ok found =>
      rw [ha] at h
      exact congrArg _ (eq_of_validated h)
  · intro h
    obtain ⟨v, -, hv⟩ := answered_eq_ok_iff.mp h
    rw [h]
    exact validated_of_ofJson hv

theorem fails_answered_iff :
    Resolver.Fails (answered reply) ↔ ∀ settings, ¬Accepted reply settings :=
  forall_congr' fun _ => not_congr usable_answered_iff

/-- An answer is read by its section. -/
theorem resolved_answered (reply : Reply) :
    resolved (answered reply) = ofSection (section? reply) := by
  have hfails : (∀ settings, ¬Accepted reply settings) → resolved (answered reply) = standard :=
    fun hnone => (fails_answered_iff.mpr hnone).resolved_eq
  cases hs : section? reply with
  | none =>
    refine hfails ?_
    rintro settings ⟨v, hv, -⟩
    rw [hs] at hv
    cases hv
  | some v =>
    show _ = match ofJson v with | .ok settings => settings | .error _ => standard
    cases hv : ofJson v with
    | ok settings => exact (usable_answered_iff.mpr ⟨v, hs, hv⟩).resolved_eq
    | error e =>
      refine hfails ?_
      rintro settings ⟨w, hw, hok⟩
      rw [hs] at hw
      cases hw
      rw [hv] at hok
      cases hok

end Settings

/-! ## What is kept -/

namespace Resolver

variable {r : Resolver} {c i j n : ℕ} {past : List (Moment Resolver Action Effect)}
  {x y : ℕ × Except SettingsError Settings} {l : Ledger}

/-- Answers before another one have failed. -/
theorem Orderly.earlier_fails (h : Orderly l r c) (hx : l.answers[j]? = some x) (hij : i < j)
    (hy : l.answers[i]? = some y) : Fails y.2 := by
  intro settings hu
  obtain ⟨-, hlen, -⟩ := h.filled_of_usable hy hu
  have hj := (List.getElem?_eq_some_iff.mp hx).1
  omega

/-- What is kept of the answers at a cell. Answers are numbered like the lookups that were begun. -/
structure Retains (past : List (Moment Resolver Action Effect)) (r : Resolver) (c : ℕ) : Prop where
  /-- After an answer the cell holds the settings of its section, if that can be read, and nothing
  otherwise. -/
  value : ∀ n reply, (answers c past).getLast? = some (n, Settings.answered reply) →
    ∀ settings, (r.cache.cell c).value = some settings ↔ Settings.Accepted reply settings
  /-- A section that was read stays. No request is made after it, and all later lookups at the cell
  have got its settings, or can get them now. -/
  kept : ∀ j n reply settings, (answers c past)[j]? = some (n, Settings.answered reply) →
    Settings.Accepted reply settings →
    (r.cache.cell c).value = some settings ∧ returned n past = [settings] ∧
      (fetches c past).length = j + 1 ∧ ∀ i k, j < i → (started c past)[i]? = some k →
        returned k past = [settings] ∨ returned k past = [] ∧
          ∃ r', r.step (.advance k) = some (r', [.resolved k settings])
  /-- After any other answer the lookup has got the defaults, and the next one at the cell has asked
  again, or has got nothing and can ask now. -/
  retried : ∀ j n reply, (answers c past)[j]? = some (n, Settings.answered reply) →
    (∀ settings, ¬Settings.Accepted reply settings) →
    returned n past = [Settings.standard] ∧ ∀ k, (started c past)[j + 1]? = some k →
      (fetches c past)[j + 1]? = some k ∨ returned k past = [] ∧
        ∃ r' u, r.step (.advance k) = some (r', [.fetch k u])

theorem Orderly.value_iff (h : Orderly l r c) (hx : l.answers.getLast? = some x)
    (settings : Settings) : (r.cache.cell c).value = some settings ↔ Usable x.2 settings := by
  rw [List.getLast?_eq_getElem?] at hx
  constructor
  · intro hv
    cases h.stage with
    | asking failed cell waiting =>
      rw [cell] at hv
      cases hv
    | filled value cell last all later =>
      rw [cell] at hv
      cases hv
      obtain ⟨earlier, y, hans, hy, -⟩ := last
      rw [← List.getLast?_eq_getElem?, hans, List.getLast?_concat] at hx
      cases hx
      exact hy
  · intro hu
    obtain ⟨cell, -⟩ := h.filled_of_usable hx hu
    rw [cell]

/-- The lookup after a failed answer has asked, or has got nothing and can ask now. -/
theorem Orderly.next_asks (h : Orderly (ledger c past) r c) (htrace : Trace step initial past r)
    (hx : (answers c past)[j]? = some x) (hf : Fails x.2) {k : ℕ}
    (hk : (started c past)[j + 1]? = some k) :
    (fetches c past)[j + 1]? = some k ∨ returned k past = [] ∧
      ∃ r' u, r.step (.advance k) = some (r', [.fetch k u]) := by
  have hlt := (List.getElem?_eq_some_iff.mp hx).1
  have hanswers : (answers c past).length ≤ (fetches c past).length := h.answers_le
  by_cases hmade : j + 1 < (fetches c past).length
  · refine Or.inl ?_
    obtain ⟨more, hmore⟩ : fetches c past <+: started c past := h.fetched
    rwa [← hmore, List.getElem?_append_left hmade] at hk
  · -- no answer has come after this one, so none was usable
    have hfails : ∀ y ∈ answers c past, Fails y.2 := by
      intro y hy
      obtain ⟨i, hi⟩ := List.mem_iff_getElem?.mp hy
      have hle := (List.getElem?_eq_some_iff.mp hi).1
      rcases Nat.lt_or_ge i j with hij | hij
      · exact h.earlier_fails hx hij hi
      · obtain rfl : i = j := by omega
        rw [hx] at hi
        cases hi
        exact hf
    obtain ⟨-, hnothing, hnext⟩ := h.failing htrace hfails hk
    exact Or.inr ⟨hnothing (by omega), (hnext (by omega)).1 (by omega)⟩

/-- What is kept at a cell, in every trace. -/
theorem retains_of_trace (h : Trace step initial past r) (c : ℕ) : Retains past r c := by
  have ho := orderly_of_trace h c
  refine ⟨fun n reply hx settings => ?_, fun j n reply settings hx ha => ?_,
    fun j n reply hx hnone => ?_⟩
  · rw [ho.value_iff hx, Settings.usable_answered_iff]
  · have hu := Settings.usable_answered_iff.mpr ha
    obtain ⟨cell, -⟩ := ho.filled_of_usable hx hu
    obtain ⟨hfetched, hall⟩ := ho.filled h hx hu fun i y hi hy => ho.earlier_fails hx hi hy
    refine ⟨by rw [cell], ?_, hfetched, fun i k hi hk => (hall i k hk).2.2 hi⟩
    exact (hall j n (ho.answer_place hx)).2.1 rfl
  · have hf := Settings.fails_answered_iff.mpr hnone
    refine ⟨?_, fun k hk => ho.next_asks h hx hf hk⟩
    have hgot : returned n past = [Settings.resolved (Settings.answered reply)] :=
      ho.returned_answer hx (ho.answer_place hx)
    rw [hgot, hf.resolved_eq]

end Resolver

end LineLint
