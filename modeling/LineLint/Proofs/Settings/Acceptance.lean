import LineLint.Settings.Basic
import Mathlib.Data.List.Nodup

/-!
# Which sections are accepted

A section of a configuration is `null`, an object or a list. It may leave fields open, and each
field that it gives is a whole number within the bounds of the field. A section of any other shape
is invalid, whatever else it holds; one that has the shape is refused only for a limit of zero.

* `Settings.Gives` — a field that is left open, or given as a whole number below a bound.
* `Settings.given` — the settings of the fields that are given.
* `Settings.WellShaped` — a section of the right shape, with the fields that it gives.

Results:

* `Json.lookup_eq_some_iff`: what is found in an object with one entry for each key.
* `Settings.ofFields_of_gives`, `Settings.gives_of_ofFields`: which fields can be read.
* `Settings.shaped_of_wellShaped`, `Settings.wellShaped_of_shaped`: which sections can be read.
* `Settings.sections_accepted`: what becomes of every value, and what it does not depend on.
-/

namespace LineLint

/-! ## Entries of an object -/

namespace Json

variable {key : String} {entries entries' : List (String × Json)} {v : Json}

theorem lookup_cons (key : String) (entry : String × Json) (entries : List (String × Json)) :
    lookup key (entry :: entries) =
      (lookup key entries).or (if entry.1 = key then some entry.2 else none) := by
  rw [lookup]
  cases lookup key entries <;> rfl

theorem mem_of_lookup (h : lookup key entries = some v) : (key, v) ∈ entries := by
  induction entries with
  | nil => cases h
  | cons entry entries ih =>
    rw [lookup_cons, Option.or_eq_some_iff] at h
    rcases h with h | ⟨-, h⟩
    · exact List.mem_cons_of_mem entry (ih h)
    · split_ifs at h with hkey
      cases h
      exact hkey ▸ List.mem_cons_self

/-- In an object with one entry for each key, looking a key up finds its entry. -/
theorem lookup_eq_some_iff (hn : (entries.map Prod.fst).Nodup) :
    lookup key entries = some v ↔ (key, v) ∈ entries := by
  refine ⟨mem_of_lookup, fun hmem => ?_⟩
  induction entries with
  | nil => cases hmem
  | cons entry entries ih =>
    rw [List.map_cons, List.nodup_cons] at hn
    rw [lookup_cons, Option.or_eq_some_iff]
    rcases List.mem_cons.mp hmem with rfl | hmem
    · refine Or.inr ⟨?_, if_pos rfl⟩
      -- no later entry has the key
      cases hlater : lookup key entries with
      | none => rfl
      | some w => exact absurd (List.mem_map_of_mem (mem_of_lookup hlater)) hn.1
    · exact Or.inl (ih hn.2 hmem)

/-- Of an object with one entry for each key, only the entry of the key counts. -/
theorem lookup_congr (hn : (entries.map Prod.fst).Nodup) (hn' : (entries'.map Prod.fst).Nodup)
    (h : ∀ v, (key, v) ∈ entries ↔ (key, v) ∈ entries') :
    lookup key entries = lookup key entries' := by
  apply Option.ext
  intro v
  rw [lookup_eq_some_iff hn, lookup_eq_some_iff hn', h v]

/-- Which values are read as numbers below a bound. -/
theorem asNat_eq_ok_iff {limit n : ℕ} {expected : String} :
    v.asNat limit expected = .ok n ↔ n < limit ∧ v = .int n := by
  constructor
  · intro h
    unfold asNat at h
    split at h
    · rename_i i
      split_ifs at h with hi
      cases h
      obtain ⟨n, rfl⟩ := Int.eq_ofNat_of_zero_le hi.1
      exact ⟨Int.ofNat_lt.mp hi.2, rfl⟩
    · cases h
  · rintro ⟨hn, rfl⟩
    exact if_pos ⟨Int.natCast_nonneg n, Int.ofNat_lt.mpr hn⟩

end Json

namespace Settings

variable {α : Type} {limit : ℕ} {expected : String} {fallback a : α} {ofNat : ℕ → α}
  {field field' : Option Json} {n l p : Option ℕ} {v : Json} {s : Settings}

/-! ## Fields -/

/-- A field that is left open, or given as a whole number below a bound. -/
inductive Gives (limit : ℕ) : Option Json → Option ℕ → Prop
  | absent : Gives limit none none
  | whole {n : ℕ} (h : n < limit) : Gives limit (some (.int n)) (some n)

theorem gives_some_iff : Gives limit (some v) n ↔ ∃ k : ℕ, k < limit ∧ v = .int k ∧ n = some k := by
  constructor
  · rintro (_ | hk)
    exact ⟨_, hk, rfl, rfl⟩
  · rintro ⟨k, hk, rfl, rfl⟩
    exact .whole hk

theorem Gives.lt_limit (h : Gives limit field n) {k : ℕ} (hk : n = some k) : k < limit := by
  cases h with
  | absent => cases hk
  | whole h =>
    cases hk
    exact h

/-- Both fields are read in this way. -/
theorem fieldOr_of_gives (h : Gives limit field n) :
    fieldOr fallback (fun v => (v.asNat limit expected).map ofNat) field =
      .ok (n.elim fallback ofNat) := by
  cases h with
  | absent => rfl
  | whole h =>
    rw [fieldOr, Json.asNat_eq_ok_iff.mpr ⟨h, rfl⟩]
    rfl

theorem gives_of_fieldOr
    (h : fieldOr fallback (fun v => (v.asNat limit expected).map ofNat) field = .ok a) :
    ∃ n, Gives limit field n := by
  cases field with
  | none => exact ⟨none, .absent⟩
  | some v =>
    rw [fieldOr] at h
    cases hn : v.asNat limit expected with
    | error mismatch =>
      rw [hn] at h
      cases h
    | ok k =>
      obtain ⟨hk, rfl⟩ := Json.asNat_eq_ok_iff.mp hn
      exact ⟨some k, .whole hk⟩

/-- The settings of two fields, with the defaults for those left open. -/
def given (l p : Option ℕ) : Settings :=
  ⟨l.elim standard.maxLength UInt32.ofNat, p.elim standard.maxProblems UInt64.ofNat⟩

theorem ofFields_of_gives (hl : Gives (Nat.pow 2 32) field l) (hp : Gives (Nat.pow 2 64) field' p) :
    ofFields field field' = .ok (given l p) := by
  unfold ofFields readMaxLength readMaxProblems
  rw [fieldOr_of_gives hl, fieldOr_of_gives hp]
  rfl

theorem gives_of_ofFields (h : ofFields field field' = .ok s) :
    ∃ l p, Gives (Nat.pow 2 32) field l ∧ Gives (Nat.pow 2 64) field' p := by
  unfold ofFields readMaxLength readMaxProblems at h
  simp only [bind, Except.bind] at h
  split at h
  · cases h
  · rename_i maxLength hlength
    split at h
    · cases h
    · rename_i maxProblems hproblems
      obtain ⟨l, hl⟩ := gives_of_fieldOr hlength
      obtain ⟨p, hp⟩ := gives_of_fieldOr hproblems
      exact ⟨l, p, hl, hp⟩

/-! ## Sections -/

/-- A section of the right shape, with the two fields that it gives: `null`, an object that may have
other keys as well, or a list of at most two items. -/
inductive WellShaped : Json → Option ℕ → Option ℕ → Prop
  | null : WellShaped .null none none
  | object {entries : List (String × Json)} {l p : Option ℕ}
      (length : Gives (Nat.pow 2 32) (Json.lookup "maxLength" entries) l)
      (problems : Gives (Nat.pow 2 64) (Json.lookup "maxNumberOfProblems" entries) p) :
      WellShaped (.obj entries) l p
  | list {items : List Json} {l p : Option ℕ} (atMostTwo : items.length ≤ 2)
      (length : Gives (Nat.pow 2 32) items[0]? l)
      (problems : Gives (Nat.pow 2 64) items[1]? p) :
      WellShaped (.arr items) l p

/-- A section of the right shape can be read, unless it is `null`. -/
theorem shaped_of_wellShaped (h : WellShaped v l p) (hv : v.isNull = false) :
    shaped v = .ok (given l p) := by
  cases h with
  | null => cases hv
  | object hl hp => exact ofFields_of_gives hl hp
  | list htwo hl hp =>
    rw [shaped, ofFields_of_gives hl hp]
    exact if_neg (Nat.not_lt.mpr htwo)

/-- What can be read has the right shape. -/
theorem wellShaped_of_shaped (h : shaped v = .ok s) : ∃ l p, WellShaped v l p := by
  unfold shaped at h
  split at h
  · obtain ⟨l, p, hl, hp⟩ := gives_of_ofFields h
    exact ⟨l, p, .object hl hp⟩
  · simp only [bind, Except.bind] at h
    split at h
    · cases h
    · rename_i items found hfound
      split_ifs at h with hlong
      obtain ⟨l, p, hl, hp⟩ := gives_of_ofFields hfound
      exact ⟨l, p, .list (Nat.not_lt.mp hlong) hl hp⟩
  · cases h

theorem ofJson_of_shaped (hv : v.isNull = false) (h : shaped v = .ok s) :
    ofJson v = s.validated := by
  rw [ofJson, hv, h]
  rfl

theorem ofJson_invalid (h : ∀ l p, ¬WellShaped v l p) :
    ∃ mismatch, ofJson v = .error (.invalid mismatch) := by
  have hv : v.isNull = false := by
    cases v with
    | null => exact absurd .null (h none none)
    | _ => rfl
  cases hs : shaped v with
  | error mismatch =>
    refine ⟨mismatch, ?_⟩
    rw [ofJson, hv, hs]
    rfl
  | ok s =>
    obtain ⟨l, p, hshape⟩ := wellShaped_of_shaped hs
    exact absurd hshape (h l p)

/-! ## The limit of zero -/

theorem WellShaped.lt_limits (h : WellShaped v l p) :
    (∀ k, l = some k → k < Nat.pow 2 32) ∧ ∀ k, p = some k → k < Nat.pow 2 64 := by
  cases h with
  | null => exact ⟨nofun, nofun⟩
  | object hl hp => exact ⟨fun _ => hl.lt_limit, fun _ => hp.lt_limit⟩
  | list _ hl hp => exact ⟨fun _ => hl.lt_limit, fun _ => hp.lt_limit⟩

theorem WellShaped.toNat_maxLength (h : WellShaped v l p) :
    (given l p).maxLength.toNat = l.getD 80 := by
  cases l with
  | none => rfl
  | some k => exact UInt32.toNat_ofNat_of_lt' (h.lt_limits.1 k rfl)

theorem WellShaped.toNat_maxProblems (h : WellShaped v l p) :
    (given l p).maxProblems.toNat = p.getD 1000 := by
  cases p with
  | none => rfl
  | some k => exact UInt64.toNat_ofNat_of_lt' (h.lt_limits.2 k rfl)

theorem ofJson_zero (h : WellShaped v (some 0) p) : ofJson v = .error .nonPositiveMaxLength := by
  have hv : v.isNull = false := by cases h <;> rfl
  rw [ofJson_of_shaped hv (shaped_of_wellShaped h hv)]
  rfl

theorem ofJson_given (h : WellShaped v l p) (hl : l ≠ some 0) : ofJson v = .ok (given l p) := by
  by_cases hv : v.isNull = true
  · cases h with
    | null => rfl
    | object => cases hv
    | list => cases hv
  · have hv : v.isNull = false := Bool.eq_false_iff.mpr hv
    have hpos : (given l p).maxLength ≠ 0 := by
      intro hzero
      have hnat := h.toNat_maxLength
      rw [hzero] at hnat
      cases l with
      | none => exact absurd hnat (by decide)
      | some k => exact hl (congrArg some hnat.symm)
    rw [ofJson_of_shaped hv (shaped_of_wellShaped h hv), validated, if_neg hpos]

/-- Every value has the right shape or not, and what becomes of it follows from that. Without the
shape it is invalid. With it, it is refused if it gives a limit of zero; otherwise it is accepted
with the fields that it gives and the defaults for the others. A field that is given has to be a
whole number: no other kind of value will do, nor a negative number. So an object is read by its two
fields alone, whatever other keys it has and in whatever order they stand. -/
theorem sections_accepted :
    (∀ v, (∀ l p, ¬WellShaped v l p) → ∃ mismatch, ofJson v = .error (.invalid mismatch)) ∧
    (∀ v l p, WellShaped v l p →
      (l = some 0 → ofJson v = .error .nonPositiveMaxLength) ∧
      (l ≠ some 0 → ∃ s, ofJson v = .ok s ∧ s.maxLength.toNat = l.getD 80 ∧
        s.maxProblems.toNat = p.getD 1000)) ∧
    (∀ limit v n, Gives limit (some v) n ↔ ∃ k : ℕ, k < limit ∧ v = .int k ∧ n = some k) ∧
    (∀ entries entries',
      (∀ key ∈ ["maxLength", "maxNumberOfProblems"],
        Json.lookup key entries = Json.lookup key entries') →
      ofJson (.obj entries) = ofJson (.obj entries')) ∧
    ∀ entries entries' : List (String × Json),
      (entries.map Prod.fst).Nodup → (entries'.map Prod.fst).Nodup →
      (∀ key ∈ ["maxLength", "maxNumberOfProblems"], ∀ v,
        (key, v) ∈ entries ↔ (key, v) ∈ entries') →
      ofJson (.obj entries) = ofJson (.obj entries') := by
  have hfields : ∀ entries entries',
      (∀ key ∈ ["maxLength", "maxNumberOfProblems"],
        Json.lookup key entries = Json.lookup key entries') →
      ofJson (.obj entries) = ofJson (.obj entries') := by
    intro entries entries' h
    have hshaped : shaped (.obj entries) = shaped (.obj entries') := by
      rw [shaped, shaped, h _ List.mem_cons_self, h _ (List.mem_cons_of_mem _ List.mem_cons_self)]
    rw [ofJson, ofJson, hshaped]
    rfl
  refine ⟨fun v => ofJson_invalid, fun v l p h => ⟨?_, fun hl =>
    ⟨given l p, ofJson_given h hl, h.toNat_maxLength, h.toNat_maxProblems⟩⟩,
    fun limit v n => gives_some_iff, hfields, fun entries entries' hn hn' h => ?_⟩
  · rintro rfl
    exact ofJson_zero h
  · exact hfields entries entries' fun key hkey => Json.lookup_congr hn hn' (h key hkey)

/-- A section with its fields in the other order, another key between them and a limit of zero. -/
def misplaced : List (String × Json) :=
  [("maxNumberOfProblems", .int 7), ("colour", .null), ("maxLength", .int 0)]

theorem sections_accepted_misplaced :
    (∃ mismatch, ofJson (.obj [("maxLength", .int 0), ("maxNumberOfProblems", .str "7")]) =
      .error (.invalid mismatch)) ∧
    ofJson (.obj misplaced) = .error .nonPositiveMaxLength ∧
    (∃ s, ofJson (.arr [.int 120]) = .ok s ∧ s.maxLength.toNat = 120 ∧
      s.maxProblems.toNat = 1000) ∧
    ofJson (.obj misplaced) = ofJson (.obj [("maxLength", .int 0), ("maxNumberOfProblems", .int 7)])
    := by
  obtain ⟨hinvalid, hread, -, hfields, hentries⟩ := sections_accepted
  have hzero : WellShaped (.obj misplaced) (some 0) (some 7) :=
    .object (.whole (n := 0) (by decide)) (.whole (n := 7) (by decide))
  have hlist : WellShaped (.arr [.int 120]) (some 120) none :=
    .list (by decide) (.whole (n := 120) (by decide)) .absent
  refine ⟨hinvalid _ fun l p h => ?_, (hread _ _ _ hzero).1 rfl, (hread _ _ _ hlist).2 (by decide),
    hentries _ _ (by decide) (by decide) ?_⟩
  · cases h with
    | object _ hproblems =>
      obtain ⟨k, -, hk, -⟩ := gives_some_iff.mp hproblems
      cases hk
  · intro key hkey v
    simp only [List.mem_cons, List.not_mem_nil, or_false] at hkey
    rcases hkey with rfl | rfl <;> simp [misplaced]

end Settings

end LineLint
