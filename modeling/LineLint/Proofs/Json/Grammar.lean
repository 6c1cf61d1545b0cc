import LineLint.Json.Printer
import LineLint.Proofs.Json.Numerals
import LineLint.Proofs.Json.Strings

/-!
# The grammar of JSON texts

Which texts are spellings of a value, said without the reader: with blanks between the parts, any
escapes in strings, any literals for numbers, and arrays and objects nested to a depth. The reader
accepts exactly these, so a text spells one value at most.

* `Quoted`, `Scalar` — strings, and all values without parts.
* `Lead` — what stands before an item or an entry.
* `Spelled`, `Items`, `Entries` — values and their parts.
* `Document` — a whole text with one value in it.
* `ReadsEntry` — one entry of an object, as the reader takes it.

Results:

* `valueWith_cases`: what the reader can do at the start of a value.
* `entriesFrom_eq_ok_iff`: what it can do inside of an object.
* `Reads.items_eq_ok_iff`, `Reads.entries_eq_ok_iff`: arrays and objects, given their parts.
* `reads`: the reader and the grammar agree at every depth.
* `read_eq_ok_iff`: a whole text is read just if it is a spelling of what is read.
* `Document.unique`: a text spells one value at most.
-/

namespace LineLint.Json

variable {s t g g' rest : List Char} {c : Char} {v : Json} {d fuel : ℕ} {vs : List Json}
  {key : String} {es : List (String × Json)} {first : Bool}
  {item : List Char → Except (Located Reason) (Parsed Json)}
  {nested : Option (List Char → Except (Located Reason) (Parsed Json))}

/-! ## Spellings -/

/-- A string with its quotes. -/
inductive Quoted : List Char → String → Prop
  | of {t : List Char} {text : String} (h : Letters t text.toList) :
      Quoted ('"' :: (t ++ ['"'])) text

/-- A spelling of a value without parts. -/
inductive Scalar : List Char → Json → Prop
  | null : Scalar ['n', 'u', 'l', 'l'] .null
  | bool (b : Bool) : Scalar (boolText b) (.bool b)
  | number {s : List Char} {v : Json} (h : Numeral s v) : Scalar s v
  | string {s : List Char} {text : String} (h : Quoted s text) : Scalar s (.str text)

/-- What stands before an item or an entry: blanks, and a comma among them unless it is the first.
-/
inductive Lead : Bool → List Char → Prop
  | first {g : List Char} (hg : Gap g) : Lead true g
  | later {g g' : List Char} (hg : Gap g) (hg' : Gap g') : Lead false (g ++ ',' :: g')

mutual
/-- A spelling of a value in which arrays and objects nest at most so deep. -/
inductive Spelled : ℕ → List Char → Json → Prop
  | scalar {d : ℕ} {s : List Char} {v : Json} (h : Scalar s v) : Spelled d s v
  | array {d : ℕ} {s : List Char} {vs : List Json} (h : Items d true s vs) :
      Spelled (d + 1) ('[' :: (s ++ [']'])) (.arr vs)
  | object {d : ℕ} {s : List Char} {es : List (String × Json)} (h : Entries d true s es) :
      Spelled (d + 1) ('\x7b' :: (s ++ ['\x7d'])) (.obj es)

/-- Items of an array up to its closing bracket: all of them, or those after some first ones. -/
inductive Items : ℕ → Bool → List Char → List Json → Prop
  | done {d : ℕ} {first : Bool} {g : List Char} (hg : Gap g) : Items d first g []
  | item {d : ℕ} {first : Bool} {l s t : List Char} {v : Json} {vs : List Json}
      (hl : Lead first l) (h : Spelled d s v) (hmore : Items d false t vs) :
      Items d first (l ++ (s ++ t)) (v :: vs)

/-- Entries of an object up to its closing brace: all of them, or those after some first ones. -/
inductive Entries : ℕ → Bool → List Char → List (String × Json) → Prop
  | done {d : ℕ} {first : Bool} {g : List Char} (hg : Gap g) : Entries d first g []
  | entry {d : ℕ} {first : Bool} {l q g g' s t : List Char} {key : String} {v : Json}
      {es : List (String × Json)} (hl : Lead first l) (hq : Quoted q key) (hg : Gap g)
      (hg' : Gap g') (h : Spelled d s v) (hmore : Entries d false t es) :
      Entries d first (l ++ (q ++ (g ++ ':' :: (g' ++ (s ++ t))))) ((key, v) :: es)
end

/-- A whole text with one value in it and blanks around it. -/
def Document (text : List Char) (v : Json) : Prop :=
  ∃ g s g', Gap g ∧ Spelled maxDepth s v ∧ Gap g' ∧ text = g ++ (s ++ g')

/-! ## How spellings start and end -/

theorem cuts_of_isGap (h : isGap c = true) : Cuts c := by
  simp only [isGap, Bool.or_eq_true, beq_iff_eq] at h
  rcases h with ((rfl | rfl) | rfl) | rfl <;> exact ⟨by decide, by decide, by decide, by decide⟩

/-- A numeral can be followed by blanks and whatever can follow it without them. -/
theorem Gap.ends (hg : Gap g) (h : Ends rest) : Ends (g ++ rest) := by
  cases g with
  | nil => exact h
  | cons c g => exact starts_cons (cuts_of_isGap (hg c List.mem_cons_self)) _

theorem Lead.ends (h : Lead false t) (rest : List Char) : Ends (t ++ rest) := by
  have hcomma : Cuts ',' := ⟨by decide, by decide, by decide, by decide⟩
  obtain ⟨_, _⟩ | ⟨hg, _⟩ := h
  rw [List.append_assoc]
  exact hg.ends (starts_cons hcomma _)

theorem Items.ends (h : Items d false t vs) (rest : List Char) : Ends (t ++ ']' :: rest) := by
  cases h with
  | done hg => exact hg.ends (starts_cons ⟨by decide, by decide, by decide, by decide⟩ rest)
  | item hl _ _ =>
    rw [List.append_assoc]
    exact hl.ends _

theorem Entries.ends (h : Entries d false t es) (rest : List Char) :
    Ends (t ++ '\x7d' :: rest) := by
  cases h with
  | done hg => exact hg.ends (starts_cons ⟨by decide, by decide, by decide, by decide⟩ rest)
  | entry hl _ _ _ _ _ =>
    rw [List.append_assoc]
    exact hl.ends _

/-- A character with which the spelling of a value can start. -/
structure Opens (c : Char) : Prop where
  noGap : isGap c = false
  ne_bracket : c ≠ ']'

theorem opens_of_isDigit (h : c.isDigit = true) : Opens c := by
  constructor
  · by_contra hgap
    have hcuts : Cuts c := cuts_of_isGap (by simpa using hgap)
    rw [hcuts.noDigit] at h
    cases h
  · rintro rfl
    exact absurd h (by decide)

theorem Scalar.opens (h : Scalar s v) : ∃ c t, s = c :: t ∧ Opens c := by
  cases h with
  | null => exact ⟨_, _, rfl, by decide, by decide⟩
  | bool b => cases b <;> exact ⟨_, _, rfl, by decide, by decide⟩
  | number h =>
    obtain ⟨positive, c, t, rfl, hc, -⟩ := h.reads
    cases positive with
    | true => exact ⟨c, t, rfl, opens_of_isDigit hc⟩
    | false => exact ⟨_, _, rfl, by decide, by decide⟩
  | string h =>
    cases h
    exact ⟨_, _, rfl, by decide, by decide⟩

theorem Spelled.opens (h : Spelled d s v) : ∃ c t, s = c :: t ∧ Opens c := by
  cases h with
  | scalar h => exact h.opens
  | array h => exact ⟨_, _, rfl, by decide, by decide⟩
  | object h => exact ⟨_, _, rfl, by decide, by decide⟩

/-! ## Values without parts -/

theorem literal_eq_ok_iff {α : Type} {a b : α} {expected : List Char} :
    literal a expected s = .ok (b, rest) ↔ b = a ∧ s = expected ++ rest := by
  induction expected generalizing s with
  | nil =>
    rw [literal, Except.ok.injEq, Prod.mk.injEq, List.nil_append, eq_comm (a := a)]
  | cons c expected ih =>
    cases s with
    | nil => exact iff_of_false nofun nofun
    | cons c' s =>
      rw [literal]
      split_ifs with hc
      · rw [ih, hc, List.cons_append, List.cons.injEq]
        simp
      · refine iff_of_false nofun fun h => hc ?_
        exact List.head_eq_of_cons_eq h.2

/-- What the reader can do at the start of a value. -/
theorem valueWith_cases (h : valueWith nested s = .ok (v, rest)) :
    (∃ g t, Gap g ∧ Scalar t v ∧ s = g ++ (t ++ rest)) ∨
    (∃ item g r vs, nested = some item ∧ Gap g ∧ s = g ++ '[' :: r ∧
      items item r = .ok (vs, rest) ∧ v = .arr vs) ∨
    ∃ item g r es, nested = some item ∧ Gap g ∧ s = g ++ '\x7b' :: r ∧
      entries item r = .ok (es, rest) ∧ v = .obj es := by
  unfold valueWith at h
  split at h
  · cases h
  · rename_i r hskip
    obtain ⟨g, hg, rfl⟩ := exists_gap hskip
    obtain ⟨rfl, rfl⟩ := literal_eq_ok_iff.mp h
    exact .inl ⟨g, _, hg, .null, rfl⟩
  · rename_i r hskip
    obtain ⟨g, hg, rfl⟩ := exists_gap hskip
    obtain ⟨rfl, rfl⟩ := literal_eq_ok_iff.mp h
    exact .inl ⟨g, _, hg, .bool true, rfl⟩
  · rename_i r hskip
    obtain ⟨g, hg, rfl⟩ := exists_gap hskip
    obtain ⟨rfl, rfl⟩ := literal_eq_ok_iff.mp h
    exact .inl ⟨g, _, hg, .bool false, rfl⟩
  · rename_i r hskip
    obtain ⟨g, hg, rfl⟩ := exists_gap hskip
    obtain ⟨t, ht, rfl⟩ := exists_numeral h
    exact .inl ⟨g, _, hg, .number ht, rfl⟩
  · rename_i r hskip
    obtain ⟨g, hg, rfl⟩ := exists_gap hskip
    obtain ⟨⟨text, rest'⟩, htext, h⟩ := bind_eq_ok_iff.mp h
    cases h
    obtain ⟨t, ht, rfl⟩ := stringRest_eq_ok_iff.mp htext
    exact .inl ⟨g, _, hg, .string (.of ht), by simp⟩
  · rename_i r hskip
    obtain ⟨g, hg, rfl⟩ := exists_gap hskip
    split at h
    · cases h
    · obtain ⟨⟨vs, rest'⟩, hvs, h⟩ := bind_eq_ok_iff.mp h
      cases h
      exact .inr (.inl ⟨_, g, r, vs, rfl, hg, rfl, hvs, rfl⟩)
  · rename_i r hskip
    obtain ⟨g, hg, rfl⟩ := exists_gap hskip
    split at h
    · cases h
    · obtain ⟨⟨es, rest'⟩, hes, h⟩ := bind_eq_ok_iff.mp h
      cases h
      exact .inr (.inr ⟨_, g, r, es, rfl, hg, rfl, hes, rfl⟩)
  · rename_i c r _ _ _ _ _ _ _ hskip
    obtain ⟨g, hg, rfl⟩ := exists_gap hskip
    split_ifs at h with hc
    · obtain ⟨t, ht, heq⟩ := exists_numeral h
      exact .inl ⟨g, t, hg, .number ht, by rw [heq]⟩
    · cases h

theorem valueWith_digit (hg : Gap g) (hc : c.isDigit = true) (s : List Char) :
    valueWith nested (g ++ c :: s) = numeral true (c :: s) := by
  unfold valueWith
  rw [skipGap_append hg (opens_of_isDigit hc).noGap]
  split <;> rename_i heq <;> cases heq <;> first | exact absurd hc (by decide) | exact if_pos hc

theorem valueWith_null (hg : Gap g) (rest : List Char) :
    valueWith nested (g ++ 'n' :: 'u' :: 'l' :: 'l' :: rest) = .ok (.null, rest) := by
  unfold valueWith
  rw [skipGap_append hg (by decide)]
  exact literal_eq_ok_iff.mpr ⟨rfl, rfl⟩

theorem valueWith_bool (hg : Gap g) (b : Bool) (rest : List Char) :
    valueWith nested (g ++ (boolText b ++ rest)) = .ok (.bool b, rest) := by
  unfold valueWith
  cases b with
  | false =>
    rw [boolText, if_neg (by decide), List.cons_append, skipGap_append hg (by decide)]
    exact literal_eq_ok_iff.mpr ⟨rfl, rfl⟩
  | true =>
    rw [boolText, if_pos rfl, List.cons_append, skipGap_append hg (by decide)]
    exact literal_eq_ok_iff.mpr ⟨rfl, rfl⟩

theorem valueWith_string {text : String} (hg : Gap g) (h : stringRest s = .ok (text, rest)) :
    valueWith nested (g ++ '"' :: s) = .ok (.str text, rest) := by
  unfold valueWith
  rw [skipGap_append hg (by decide)]
  exact bind_eq_ok_iff.mpr ⟨_, h, rfl⟩

/-- A value without parts is read in full if what follows does not go on with it. -/
theorem valueWith_scalar (hg : Gap g) (h : Scalar t v) (hrest : Ends rest) :
    valueWith nested (g ++ (t ++ rest)) = .ok (v, rest) := by
  cases h with
  | null => exact valueWith_null hg rest
  | bool b => exact valueWith_bool hg b rest
  | number h =>
    obtain ⟨positive, c, t, rfl, hc, hread⟩ := h.reads
    cases positive with
    | true => exact (valueWith_digit hg hc _).trans (hread rest hrest)
    | false =>
      unfold valueWith
      rw [signText, if_neg (by decide), List.cons_append, skipGap_append hg (by decide)]
      exact hread rest hrest
  | string h =>
    obtain ⟨h⟩ := h
    exact valueWith_string hg (stringRest_eq_ok_iff.mpr ⟨_, h, by simp⟩)

theorem valueWith_array (hg : Gap g) (h : items item s = .ok (vs, rest)) :
    valueWith (some item) (g ++ '[' :: s) = .ok (.arr vs, rest) := by
  unfold valueWith
  rw [skipGap_append hg (by decide)]
  exact bind_eq_ok_iff.mpr ⟨_, h, rfl⟩

theorem valueWith_object (hg : Gap g) (h : entries item s = .ok (es, rest)) :
    valueWith (some item) (g ++ '\x7b' :: s) = .ok (.obj es, rest) := by
  unfold valueWith
  rw [skipGap_append hg (by decide)]
  exact bind_eq_ok_iff.mpr ⟨_, h, rfl⟩

theorem value_eq_valueWith (d : ℕ) : ∃ nested, value d = valueWith nested := by
  cases d with
  | zero => exact ⟨none, rfl⟩
  | succ d => exact ⟨some (value d), rfl⟩

/-- The reader and the grammar agree on values in which arrays and objects nest at most so deep. -/
structure Reads (d : ℕ) : Prop where
  sound : ∀ {s rest : List Char} {v : Json}, value d s = .ok (v, rest) →
    ∃ g t, Gap g ∧ Spelled d t v ∧ s = g ++ (t ++ rest)
  -- a numeral ends only where something else starts, so what follows matters here
  complete : ∀ {g t rest : List Char} {v : Json}, Gap g → Spelled d t v → Ends rest →
    value d (g ++ (t ++ rest)) = .ok (v, rest)

/-! ## Arrays -/

/-- Every item takes a character at least. -/
theorem Items.length_le (h : Items d first t vs) : vs.length ≤ t.length := by
  induction vs generalizing first t with
  | nil => exact Nat.zero_le _
  | cons v vs ih =>
    obtain _ | ⟨_, hv, hmore⟩ := h
    obtain ⟨c, s, rfl, _⟩ := hv.opens
    have hle := ih hmore
    simp only [List.length_append, List.length_cons]
    omega

theorem itemsAfter_done (hg : Gap g) (rest : List Char) :
    itemsAfter item (fuel + 1) (g ++ ']' :: rest) = .ok ([], rest) := by
  unfold itemsAfter
  rw [skipGap_append hg (by decide)]
  rfl

theorem itemsAfter_item (hl : Lead false t) (hc : Opens c) (s : List Char) :
    itemsAfter item (fuel + 1) (t ++ c :: s) = (do
      let (v, rest) ← item (c :: s)
      let (more, rest) ← itemsAfter item fuel rest
      return (v :: more, rest)) := by
  have hcomma : isGap ',' = false := by decide
  obtain _ | ⟨hg, hg'⟩ := hl
  rw [List.append_assoc, List.cons_append]
  simp only [itemsAfter, skipGap_append hg hcomma, skipGap_append hg' hc.noGap]
  split
  · rename_i heq
    cases heq
  · rename_i heq
    exact absurd (List.head_eq_of_cons_eq heq) hc.ne_bracket
  · rfl

theorem Reads.itemsAfter_sound (hd : Reads d) (h : itemsAfter (value d) fuel s = .ok (vs, rest)) :
    ∃ t, Items d false t vs ∧ s = t ++ ']' :: rest := by
  induction fuel generalizing s vs rest with
  | zero => cases h
  | succ fuel ih =>
    unfold itemsAfter at h
    split at h
    · cases h
    · rename_i rest' hskip
      obtain ⟨g, hg, rfl⟩ := exists_gap hskip
      cases h
      exact ⟨g, .done hg, rfl⟩
    · rename_i r hskip
      obtain ⟨g, hg, rfl⟩ := exists_gap hskip
      split at h
      · cases h
      · cases h
      · obtain ⟨g', hg', hr⟩ := exists_gap (s := r) rfl
        obtain ⟨⟨v, r'⟩, hv, h⟩ := bind_eq_ok_iff.mp h
        obtain ⟨⟨more, rest'⟩, hmore, h⟩ := bind_eq_ok_iff.mp h
        cases h
        obtain ⟨g'', t, hg'', ht, heq⟩ := hd.sound hv
        obtain ⟨t', ht', rfl⟩ := ih hmore
        refine ⟨_, .item (.later hg (hg'.append hg'')) ht ht', ?_⟩
        rw [hr, heq]
        simp
    · cases h

theorem Reads.itemsAfter_complete (hd : Reads d) (h : Items d false t vs) (rest : List Char)
    (hfuel : vs.length < fuel) : itemsAfter (value d) fuel (t ++ ']' :: rest) = .ok (vs, rest) := by
  induction vs generalizing t fuel with
  | nil =>
    obtain _ | fuel := fuel
    · cases hfuel
    · obtain ⟨hg⟩ := h
      exact itemsAfter_done hg rest
  | cons v vs ih =>
    obtain _ | fuel := fuel
    · cases hfuel
    · obtain _ | ⟨hl, hv, hmore⟩ := h
      rename_i l s t
      obtain ⟨c, s, rfl, hc⟩ := hv.opens
      have hvalue : value d (c :: (s ++ (t ++ ']' :: rest))) = .ok (v, t ++ ']' :: rest) :=
        hd.complete gap_nil hv (hmore.ends rest)
      have hrest : itemsAfter (value d) fuel (t ++ ']' :: rest) = .ok (vs, rest) :=
        ih hmore (Nat.lt_of_succ_lt_succ hfuel)
      simp only [List.append_assoc, List.cons_append]
      rw [itemsAfter_item hl hc]
      exact bind_eq_ok_iff.mpr ⟨_, hvalue, bind_eq_ok_iff.mpr ⟨_, hrest, rfl⟩⟩

theorem items_done (hg : Gap g) (rest : List Char) :
    items item (g ++ ']' :: rest) = .ok ([], rest) := by
  unfold items
  rw [skipGap_append hg (by decide)]
  rfl

theorem items_item (hg : Gap g) (hc : Opens c) (s : List Char) :
    items item (g ++ c :: s) = (do
      let (v, rest) ← item (c :: s)
      let (more, rest) ← itemsAfter item (c :: s).length rest
      return (v :: more, rest)) := by
  rw [items, skipGap_append hg hc.noGap]
  split
  · rename_i heq
    cases heq
  · rename_i heq
    exact absurd (List.head_eq_of_cons_eq heq) hc.ne_bracket
  · rfl

/-- What is read after an opening bracket. -/
theorem Reads.items_eq_ok_iff (hd : Reads d) : items (value d) s = .ok (vs, rest) ↔
    ∃ t, Items d true t vs ∧ s = t ++ ']' :: rest := by
  constructor
  · intro h
    unfold items at h
    split at h
    · cases h
    · rename_i rest' hskip
      obtain ⟨g, hg, rfl⟩ := exists_gap hskip
      cases h
      exact ⟨g, .done hg, rfl⟩
    · obtain ⟨g, hg, hs⟩ := exists_gap (s := s) rfl
      obtain ⟨⟨v, r⟩, hv, h⟩ := bind_eq_ok_iff.mp h
      obtain ⟨⟨more, rest'⟩, hmore, h⟩ := bind_eq_ok_iff.mp h
      cases h
      obtain ⟨g', t, hg', ht, heq⟩ := hd.sound hv
      obtain ⟨t', ht', rfl⟩ := hd.itemsAfter_sound hmore
      refine ⟨_, .item (.first (hg.append hg')) ht ht', ?_⟩
      rw [hs, heq]
      simp
  · rintro ⟨t, h, rfl⟩
    cases h with
    | done hg => exact items_done hg rest
    | item hl hv hmore =>
      rename_i l s t v vs
      obtain ⟨hg⟩ := hl
      obtain ⟨c, s, rfl, hc⟩ := hv.opens
      have hvalue : value d (c :: (s ++ (t ++ ']' :: rest))) = .ok (v, t ++ ']' :: rest) :=
        hd.complete gap_nil hv (hmore.ends rest)
      have hfuel : vs.length < (c :: (s ++ (t ++ ']' :: rest))).length := by
        have hle := hmore.length_le
        simp only [List.length_cons, List.length_append]
        omega
      have hrest := hd.itemsAfter_complete hmore rest hfuel
      simp only [List.append_assoc, List.cons_append]
      rw [items_item hg hc]
      exact bind_eq_ok_iff.mpr ⟨_, hvalue, bind_eq_ok_iff.mpr ⟨_, hrest, rfl⟩⟩

/-! ## Objects -/

theorem colon_eq_ok_iff {u : Unit} :
    colon s = .ok (u, rest) ↔ ∃ g, Gap g ∧ s = g ++ ':' :: rest := by
  constructor
  · intro h
    unfold colon at h
    split at h
    · cases h
    · rename_i rest' hskip
      cases h
      exact exists_gap hskip
    · cases h
  · rintro ⟨g, hg, rfl⟩
    unfold colon
    rw [skipGap_append hg (by decide)]
    rfl

theorem nextKey_eq_done_iff :
    nextKey first s = .ok (.done rest) ↔ ∃ g, Gap g ∧ s = g ++ '\x7d' :: rest := by
  constructor
  · intro h
    unfold nextKey at h
    split at h
    · cases h
    · rename_i rest' hskip
      cases h
      exact exists_gap hskip
    · split_ifs at h
      · cases h
      · split at h <;> cases h
  · rintro ⟨g, hg, rfl⟩
    unfold nextKey
    rw [skipGap_append hg (by decide)]
    rfl

theorem nextKey_eq_key_iff :
    nextKey first s = .ok (.key rest) ↔ ∃ l, Lead first l ∧ s = l ++ '"' :: rest := by
  have hquote : isGap '"' = false := by decide
  have hcomma : isGap ',' = false := by decide
  constructor
  · intro h
    unfold nextKey at h
    split at h
    · cases h
    · cases h
    · rename_i c r _ hskip
      obtain ⟨g, hg, rfl⟩ := exists_gap hskip
      split_ifs at h with hfirst hc hc
      · cases h
        rw [hfirst, hc]
        exact ⟨g, .first hg, rfl⟩
      · split at h
        · cases h
        · rename_i r' hskip'
          obtain ⟨g', hg', rfl⟩ := exists_gap hskip'
          cases h
          have hfalse : first = false := by simpa using hfirst
          rw [hfalse, hc]
          exact ⟨_, .later hg hg', by simp⟩
        · cases h
        · cases h
  · rintro ⟨l, hl, rfl⟩
    cases hl with
    | first hg =>
      unfold nextKey
      rw [skipGap_append hg hquote]
      rfl
    | later hg hg' =>
      rw [List.append_assoc, List.cons_append]
      simp [nextKey, skipGap_append hg hcomma, skipGap_append hg' hquote]

/-- An entry with what stands before it is taken from a text. -/
def ReadsEntry (item : List Char → Except (Located Reason) (Parsed Json)) (first : Bool)
    (s : List Char) (key : String) (v : Json) (rest : List Char) : Prop :=
  ∃ r r' r'', nextKey first s = .ok (.key r) ∧ stringRest r = .ok (key, r') ∧
    colon r' = .ok ((), r'') ∧ item r'' = .ok (v, rest)

/-- What the reader can do inside of an object: stop at its end, or take an entry. -/
theorem entriesFrom_eq_ok_iff : entriesFrom item (fuel + 1) first s = .ok (es, rest) ↔
    (nextKey first s = .ok (.done rest) ∧ es = []) ∨
    ∃ key v r more, ReadsEntry item first s key v r ∧
      entriesFrom item fuel false r = .ok (more, rest) ∧ es = (key, v) :: more := by
  rw [entriesFrom, bind_eq_ok_iff]
  constructor
  · rintro ⟨next, hnext, h⟩
    cases next with
    | done r =>
      cases h
      exact .inl ⟨hnext, rfl⟩
    | key r =>
      obtain ⟨⟨key, r'⟩, hkey, h⟩ := bind_eq_ok_iff.mp h
      obtain ⟨⟨u, r''⟩, hcolon, h⟩ := bind_eq_ok_iff.mp h
      obtain ⟨⟨v, r'''⟩, hv, h⟩ := bind_eq_ok_iff.mp h
      obtain ⟨⟨more, rest'⟩, hmore, h⟩ := bind_eq_ok_iff.mp h
      cases h
      exact .inr ⟨key, v, r''', more, ⟨r, r', r'', hnext, hkey, hcolon, hv⟩, hmore, rfl⟩
  · rintro (⟨hnext, rfl⟩ | ⟨key, v, r, more, ⟨r', r'', r''', hnext, hkey, hcolon, hv⟩, hmore, rfl⟩)
    · exact ⟨.done rest, hnext, rfl⟩
    · refine ⟨.key r', hnext, ?_⟩
      exact bind_eq_ok_iff.mpr ⟨_, hkey, bind_eq_ok_iff.mpr ⟨_, hcolon, bind_eq_ok_iff.mpr
        ⟨_, hv, bind_eq_ok_iff.mpr ⟨_, hmore, rfl⟩⟩⟩⟩

theorem Reads.entry_sound (hd : Reads d) (h : ReadsEntry (value d) first s key v rest) :
    ∃ l q g g' t, Lead first l ∧ Quoted q key ∧ Gap g ∧ Gap g' ∧ Spelled d t v ∧
      s = l ++ (q ++ (g ++ ':' :: (g' ++ (t ++ rest)))) := by
  obtain ⟨r, r', r'', hnext, hkey, hcolon, hv⟩ := h
  obtain ⟨l, hl, rfl⟩ := nextKey_eq_key_iff.mp hnext
  obtain ⟨q, hq, rfl⟩ := stringRest_eq_ok_iff.mp hkey
  obtain ⟨g, hg, rfl⟩ := colon_eq_ok_iff.mp hcolon
  obtain ⟨g', t, hg', ht, rfl⟩ := hd.sound hv
  exact ⟨l, _, g, g', t, hl, .of hq, hg, hg', ht, by simp⟩

theorem Reads.entry_complete (hd : Reads d) {l q : List Char} (hl : Lead first l)
    (hq : Quoted q key) (hg : Gap g) (hg' : Gap g') (ht : Spelled d t v) (hrest : Ends rest) :
    ReadsEntry (value d) first (l ++ (q ++ (g ++ ':' :: (g' ++ (t ++ rest))))) key v rest := by
  obtain ⟨hq⟩ := hq
  refine ⟨_, _, _, nextKey_eq_key_iff.mpr ⟨l, hl, rfl⟩, stringRest_eq_ok_iff.mpr ⟨_, hq, ?_⟩,
    colon_eq_ok_iff.mpr ⟨g, hg, rfl⟩, hd.complete hg' ht hrest⟩
  simp

theorem Reads.entriesFrom_sound (hd : Reads d)
    (h : entriesFrom (value d) fuel first s = .ok (es, rest)) :
    ∃ t, Entries d first t es ∧ s = t ++ '\x7d' :: rest := by
  induction fuel generalizing first s es with
  | zero => cases h
  | succ fuel ih =>
    obtain ⟨hnext, rfl⟩ | ⟨key, v, r, more, hentry, hmore, rfl⟩ := entriesFrom_eq_ok_iff.mp h
    · obtain ⟨g, hg, rfl⟩ := nextKey_eq_done_iff.mp hnext
      exact ⟨g, .done hg, rfl⟩
    · obtain ⟨t', ht', rfl⟩ := ih hmore
      obtain ⟨l, q, g, g', t, hl, hq, hg, hg', ht, rfl⟩ := hd.entry_sound hentry
      exact ⟨_, .entry hl hq hg hg' ht ht', by simp⟩

theorem Reads.entriesFrom_complete (hd : Reads d) (h : Entries d first t es) (rest : List Char)
    (hfuel : es.length < fuel) :
    entriesFrom (value d) fuel first (t ++ '\x7d' :: rest) = .ok (es, rest) := by
  induction es generalizing first t fuel with
  | nil =>
    obtain _ | fuel := fuel
    · cases hfuel
    · obtain ⟨hg⟩ := h
      exact entriesFrom_eq_ok_iff.mpr (.inl ⟨nextKey_eq_done_iff.mpr ⟨_, hg, rfl⟩, rfl⟩)
  | cons entry es ih =>
    obtain _ | fuel := fuel
    · cases hfuel
    · obtain _ | ⟨hl, hq, hg, hg', hv, hmore⟩ := h
      have hentry := hd.entry_complete hl hq hg hg' hv (hmore.ends rest)
      have hrest := ih hmore (Nat.lt_of_succ_lt_succ hfuel)
      refine entriesFrom_eq_ok_iff.mpr (.inr ⟨_, _, _, _, ?_, hrest, rfl⟩)
      simpa using hentry

/-- Every entry takes a character at least. -/
theorem Entries.length_le (h : Entries d first t es) : es.length ≤ t.length := by
  induction es generalizing first t with
  | nil => exact Nat.zero_le _
  | cons entry es ih =>
    obtain _ | ⟨_, _, _, _, _, hmore⟩ := h
    have hle := ih hmore
    simp only [List.length_append, List.length_cons]
    omega

/-- What is read after an opening brace. -/
theorem Reads.entries_eq_ok_iff (hd : Reads d) : entries (value d) s = .ok (es, rest) ↔
    ∃ t, Entries d true t es ∧ s = t ++ '\x7d' :: rest := by
  constructor
  · exact hd.entriesFrom_sound
  · rintro ⟨t, ht, rfl⟩
    have hle := ht.length_le
    refine hd.entriesFrom_complete ht rest ?_
    simp only [List.length_append, List.length_cons]
    omega

/-! ## Values and whole texts -/

theorem reads_zero : Reads 0 where
  sound h := by
    obtain ⟨g, t, hg, ht, rfl⟩ | ⟨_, _, _, _, hnone, _⟩ | ⟨_, _, _, _, hnone, _⟩ :=
      valueWith_cases h
    · exact ⟨g, t, hg, .scalar ht, rfl⟩
    · cases hnone
    · cases hnone
  complete hg ht hrest := by
    obtain ⟨ht⟩ := ht
    exact valueWith_scalar hg ht hrest

/-- Agreement at one level more of nesting. -/
theorem Reads.succ (hd : Reads d) : Reads (d + 1) where
  sound h := by
    obtain ⟨g, t, hg, ht, rfl⟩ | ⟨_, g, r, vs, hitem, hg, rfl, hvs, rfl⟩ |
      ⟨_, g, r, es, hitem, hg, rfl, hes, rfl⟩ := valueWith_cases h
    · exact ⟨g, t, hg, .scalar ht, rfl⟩
    · cases hitem
      obtain ⟨t, ht, rfl⟩ := hd.items_eq_ok_iff.mp hvs
      exact ⟨g, _, hg, .array ht, by simp⟩
    · cases hitem
      obtain ⟨t, ht, rfl⟩ := hd.entries_eq_ok_iff.mp hes
      exact ⟨g, _, hg, .object ht, by simp⟩
  complete hg ht hrest := by
    cases ht with
    | scalar ht => exact valueWith_scalar hg ht hrest
    | array ht => exact valueWith_array hg (hd.items_eq_ok_iff.mpr ⟨_, ht, by simp⟩)
    | object ht => exact valueWith_object hg (hd.entries_eq_ok_iff.mpr ⟨_, ht, by simp⟩)

/-- The reader and the grammar agree at every depth. -/
theorem reads (d : ℕ) : Reads d := by
  induction d with
  | zero => exact reads_zero
  | succ d ih => exact ih.succ

theorem not_scalar_obj : ¬Scalar t (.obj es) := by
  rintro (_ | _ | ⟨h⟩ | _)
  cases h.isNumber

/-- An object is read after an opening brace. -/
theorem value_succ_eq_obj_iff : value (d + 1) s = .ok (.obj es, rest) ↔
    ∃ g r, Gap g ∧ s = g ++ '\x7b' :: r ∧ entries (value d) r = .ok (es, rest) := by
  constructor
  · intro h
    obtain ⟨_, _, _, ht, _⟩ | ⟨_, _, _, _, _, _, _, _, hv⟩ |
      ⟨_, g, r, es', hitem, hg, hs, hes, hv⟩ := valueWith_cases h
    · exact absurd ht not_scalar_obj
    · cases hv
    · cases hitem
      cases hv
      exact ⟨g, r, hg, hs, hes⟩
  · rintro ⟨g, r, hg, rfl, hes⟩
    exact valueWith_object hg hes

theorem atEnd_eq_ok_iff {u : Unit} : atEnd s = .ok u ↔ Gap s := by
  constructor
  · intro h
    unfold atEnd at h
    split at h
    · rename_i hskip
      exact List.dropWhile_eq_nil_iff.mp hskip
    · cases h
  · intro hg
    rw [atEnd, skipGap, List.dropWhile_eq_nil_iff.mpr hg]

/-- A whole text is read just if it is a spelling of what is read. -/
theorem read_eq_ok_iff : read s = .ok v ↔ Document s v := by
  constructor
  · intro h
    obtain ⟨⟨v', rest⟩, hv, h⟩ := bind_eq_ok_iff.mp h
    obtain ⟨u, hend, h⟩ := bind_eq_ok_iff.mp h
    cases h
    obtain ⟨g, t, hg, ht, rfl⟩ := (reads maxDepth).sound hv
    exact ⟨g, t, rest, hg, ht, atEnd_eq_ok_iff.mp hend, rfl⟩
  · rintro ⟨g, t, g', hg, ht, hg', rfl⟩
    have hends : Ends g' := by simpa using hg'.ends starts_nil
    have hv := (reads maxDepth).complete hg ht hends
    exact bind_eq_ok_iff.mpr ⟨_, hv, bind_eq_ok_iff.mpr ⟨(), atEnd_eq_ok_iff.mpr hg', rfl⟩⟩

/-- A text spells one value at most. -/
theorem Document.unique {v' : Json} (h : Document s v) (h' : Document s v') : v = v' := by
  have hread := read_eq_ok_iff.mpr h
  rw [read_eq_ok_iff.mpr h'] at hread
  exact (Except.ok.inj hread).symm

end LineLint.Json
