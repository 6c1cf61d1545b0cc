import LineLint.Proofs.Json.Grammar
import LineLint.Proofs.Json.Range
import LineLint.Task.Configured

/-!
# Which configuration entries give a task

An entry is read in one pass: the label where it stands, the type once the object has ended. All
that counts in the end are the values that the object gives to these two keys.

* `Json.valuesOf` — the values that entries give to a key.
* `IsLabel`, `Labelled` — a value that can stand for a label, and the label of an entry.

Results:

* `labelValue_eq_ok_iff`: a label is read like any value, if it is one that can stand for a label.
* `fieldsFrom_succ_eq_ok_iff`: what the reader can do inside of an entry.
* `fieldsFrom_eq_ok_iff`: the pass over an entry in terms of the entries of an object.
* `parse_eq_ok_iff`, `parse_object_eq_ok_iff`: what a text has to be for an entry.
* `parse_of_perm`: other keys and the order do not count.
* `entries_resolved`: which texts give an entry, and the task that comes of it.
-/

namespace LineLint

/-- The values that entries give to a key, in order. -/
def Json.valuesOf (key : String) (es : List (String × Json)) : List Json :=
  (es.filter fun entry => entry.1 = key).map Prod.snd

@[simp]
theorem Json.valuesOf_cons_self (key : String) (v : Json) (es : List (String × Json)) :
    valuesOf key ((key, v) :: es) = v :: valuesOf key es := by
  simp [valuesOf]

theorem Json.valuesOf_cons_of_ne {key k : String} (h : k ≠ key) (v : Json)
    (es : List (String × Json)) : valuesOf key ((k, v) :: es) = valuesOf key es := by
  simp [valuesOf, h]

namespace Task

open Json (Document Located Parsed ReadsEntry Reason bind_eq_ok_iff maxDepth valuesOf
  valuesOf_cons_self valuesOf_cons_of_ne)

variable {α : Type} {s rest : List Char} {text : String} {c : Configured} {v : Json}
  {vs types : List Json} {es : List (String × Json)} {fuel d : ℕ} {first : Bool}
  {label : Option (Option String)} {l : Option String}

/-! ## Labels -/

/-- A value that can stand for a label. -/
inductive IsLabel : Json → Option String → Prop
  | null : IsLabel .null none
  | string (text : String) : IsLabel (.str text) (some text)

/-- The label of an entry, given what has been read of it and the values of the `label` keys that
follow. -/
inductive Labelled : Option (Option String) → List Json → Option String → Prop
  | kept (label : Option (Option String)) : Labelled label [] (label.getD none)
  | given {v : Json} {l : Option String} (h : IsLabel v l) : Labelled none [v] l

theorem labelled_nil_iff : Labelled label [] l ↔ l = label.getD none := by
  constructor
  · rintro ⟨⟩
    rfl
  · rintro rfl
    exact .kept label

theorem labelled_cons_iff :
    Labelled label (v :: vs) l ↔ label = none ∧ ∃ l', IsLabel v l' ∧ Labelled (some l') vs l := by
  constructor
  · rintro (_ | ⟨h⟩)
    exact ⟨rfl, l, h, .kept (some l)⟩
  · rintro ⟨rfl, l', h, hkept⟩
    cases hkept
    exact .given h

theorem grammar_eq_ok_iff {r : Except (Located Reason) α} {a : α} :
    grammar r = .ok a ↔ r = .ok a := by
  cases r with
  | error e => exact iff_of_false nofun nofun
  | ok b =>
    rw [grammar, Except.ok.injEq, Except.ok.injEq]

/-- What is refused gives no result. -/
theorem refuse_ne_ok {expected : String} {a : Parsed α} : refuse expected s ≠ .ok a := by
  intro h
  unfold refuse at h
  split at h
  · cases h
  · cases h
  · obtain ⟨_, _, h⟩ := bind_eq_ok_iff.mp h
    cases h

/-- A label is read like any value, if it is one that can stand for a label. -/
theorem labelValue_eq_ok_iff : labelValue s = .ok (l, rest) ↔
    ∃ v, Json.value d s = .ok (v, rest) ∧ IsLabel v l := by
  obtain ⟨nested, hvalue⟩ := Json.value_eq_valueWith d
  rw [hvalue]
  constructor
  · intro h
    unfold labelValue at h
    split at h
    · cases h
    · rename_i r hskip
      obtain ⟨g, hg, rfl⟩ := Json.exists_gap hskip
      obtain ⟨rfl, rfl⟩ := Json.literal_eq_ok_iff.mp (grammar_eq_ok_iff.mp h)
      exact ⟨.null, Json.valueWith_null hg rest, .null⟩
    · rename_i r hskip
      obtain ⟨g, hg, rfl⟩ := Json.exists_gap hskip
      obtain ⟨⟨text, rest'⟩, htext, h⟩ := bind_eq_ok_iff.mp h
      cases h
      exact ⟨.str text, Json.valueWith_string hg (grammar_eq_ok_iff.mp htext), .string text⟩
    · exact absurd h refuse_ne_ok
  · rintro ⟨v, hv, hl⟩
    obtain ⟨g, t, hg, ht, rfl⟩ | ⟨_, _, _, _, _, _, _, _, rfl⟩ | ⟨_, _, _, _, _, _, _, _, rfl⟩ :=
      Json.valueWith_cases hv
    · cases ht with
      | null =>
        cases hl
        unfold labelValue
        rw [List.cons_append, Json.skipGap_append hg (by decide)]
        exact grammar_eq_ok_iff.mpr (Json.literal_eq_ok_iff.mpr ⟨rfl, rfl⟩)
      | bool b => cases hl
      | number h => cases hl <;> cases h.isNumber
      | string h =>
        cases hl
        obtain ⟨h⟩ := h
        unfold labelValue
        rw [List.cons_append, Json.skipGap_append hg (by decide)]
        have htext := Json.stringRest_eq_ok_iff.mpr ⟨_, h, (List.append_cons _ _ rest).symm⟩
        exact bind_eq_ok_iff.mpr ⟨_, grammar_eq_ok_iff.mpr htext, rfl⟩
    · cases hl
    · cases hl

/-! ## Types -/

theorem asString_eq_ok_iff {t : String} : v.asString = .ok t ↔ v = .str t := by
  constructor
  · intro h
    unfold Json.asString at h
    split at h
    · cases h
      rfl
    · cases h
  · rintro rfl
    rfl

theorem typeOf_eq_ok_iff {t : String} : typeOf types = .ok t ↔ types = [.str t] := by
  match types with
  | [] => exact iff_of_false nofun nofun
  | [v] => rw [typeOf, asString_eq_ok_iff, List.cons.injEq, and_iff_left rfl]
  | v :: w :: more =>
    refine iff_of_false (fun h => ?_) nofun
    obtain ⟨_, _, h⟩ := bind_eq_ok_iff.mp h
    cases h

/-! ## Entries -/

/-- What the reader can do inside of an entry: stop at its end, take a label, or take anything
else. -/
theorem fieldsFrom_succ_eq_ok_iff :
    fieldsFrom (fuel + 1) first types label s = .ok (c, rest) ↔
      (Json.nextKey first s = .ok (.done rest) ∧ typeOf types = .ok c.type ∧
        c.label = label.getD none) ∨
      ∃ key v r, ReadsEntry (Json.value (maxDepth - 1)) first s key v r ∧
        ((key = "label" ∧ label = none ∧
          ∃ l, IsLabel v l ∧ fieldsFrom fuel false types (some l) r = .ok (c, rest)) ∨
        (key ≠ "label" ∧
          fieldsFrom fuel false (if key = "type" then types ++ [v] else types) label r =
            .ok (c, rest))) := by
  rw [fieldsFrom, bind_eq_ok_iff]
  constructor
  · rintro ⟨next, hnext, h⟩
    have hnext := grammar_eq_ok_iff.mp hnext
    cases next with
    | done r =>
      dsimp only at h
      split at h
      · cases h
      · rename_i t ht
        cases h
        exact .inl ⟨hnext, ht, rfl⟩
    | key r₁ =>
      obtain ⟨⟨key, r₂⟩, hkey, h⟩ := bind_eq_ok_iff.mp h
      have hkey := grammar_eq_ok_iff.mp hkey
      dsimp only at h
      by_cases hlabel : key = "label"
      · rw [if_pos hlabel] at h
        split at h
        · cases h
        · rename_i hnone
          obtain ⟨⟨u, r₃⟩, hcolon, h⟩ := bind_eq_ok_iff.mp h
          obtain ⟨⟨l, r⟩, hl, h⟩ := bind_eq_ok_iff.mp h
          have hcolon := grammar_eq_ok_iff.mp hcolon
          obtain ⟨v, hv, hl⟩ := (labelValue_eq_ok_iff (d := maxDepth - 1)).mp hl
          have hentry : ReadsEntry _ first s key v r := ⟨r₁, r₂, r₃, hnext, hkey, hcolon, hv⟩
          exact .inr ⟨key, v, r, hentry, .inl ⟨hlabel, by simpa using hnone, l, hl, h⟩⟩
      · rw [if_neg hlabel] at h
        obtain ⟨⟨u, r₃⟩, hcolon, h⟩ := bind_eq_ok_iff.mp h
        obtain ⟨⟨v, r⟩, hv, h⟩ := bind_eq_ok_iff.mp h
        have hcolon := grammar_eq_ok_iff.mp hcolon
        have hv := grammar_eq_ok_iff.mp hv
        have hentry : ReadsEntry _ first s key v r := ⟨r₁, r₂, r₃, hnext, hkey, hcolon, hv⟩
        exact .inr ⟨key, v, r, hentry, .inr ⟨hlabel, h⟩⟩
  · rintro (⟨hnext, ht, hl⟩ | ⟨key, v, r, ⟨r₁, r₂, r₃, hnext, hkey, hcolon, hv⟩, h⟩)
    · refine ⟨.done rest, grammar_eq_ok_iff.mpr hnext, ?_⟩
      dsimp only
      rw [ht, ← hl]
      rfl
    · refine ⟨.key r₁, grammar_eq_ok_iff.mpr hnext, bind_eq_ok_iff.mpr
        ⟨(key, r₂), grammar_eq_ok_iff.mpr hkey, ?_⟩⟩
      dsimp only
      obtain ⟨rfl, rfl, l, hl, h⟩ | ⟨hne, h⟩ := h
      · rw [if_pos rfl, if_neg (by decide)]
        have hlabel : labelValue r₃ = .ok (l, r) := labelValue_eq_ok_iff.mpr ⟨v, hv, hl⟩
        exact bind_eq_ok_iff.mpr ⟨_, grammar_eq_ok_iff.mpr hcolon,
          bind_eq_ok_iff.mpr ⟨_, hlabel, h⟩⟩
      · rw [if_neg hne]
        exact bind_eq_ok_iff.mpr ⟨_, grammar_eq_ok_iff.mpr hcolon,
          bind_eq_ok_iff.mpr ⟨_, grammar_eq_ok_iff.mpr hv, h⟩⟩

/-- The pass over an entry in terms of the entries of an object: whatever else they are, their types
and labels are what counts. -/
theorem fieldsFrom_eq_ok_iff : fieldsFrom fuel first types label s = .ok (c, rest) ↔
    ∃ es, Json.entriesFrom (Json.value (maxDepth - 1)) fuel first s = .ok (es, rest) ∧
      types ++ valuesOf "type" es = [.str c.type] ∧
      Labelled label (valuesOf "label" es) c.label := by
  -- What has been read stands before what is still to come: types as a list, a label in its place.
  induction fuel generalizing first types label s with
  | zero => exact iff_of_false nofun fun ⟨_, h, _⟩ => nomatch h
  | succ fuel ih =>
    rw [fieldsFrom_succ_eq_ok_iff]
    simp only [Json.entriesFrom_eq_ok_iff, ih, typeOf_eq_ok_iff]
    constructor
    · rintro (⟨hnext, ht, hl⟩ | ⟨key, v, r, hentry, h⟩)
      · exact ⟨[], .inl ⟨hnext, rfl⟩, by rw [ht]; rfl, labelled_nil_iff.mpr hl⟩
      · obtain ⟨rfl, hnone, l, hl, more, hmore, ht, hlabel⟩ | ⟨hne, more, hmore, ht, hlabel⟩ := h
        · refine ⟨("label", v) :: more, .inr ⟨"label", v, r, more, hentry, hmore, rfl⟩, ?_, ?_⟩
          · rwa [valuesOf_cons_of_ne (by decide)]
          · rw [valuesOf_cons_self]
            exact labelled_cons_iff.mpr ⟨hnone, l, hl, hlabel⟩
        · refine ⟨(key, v) :: more, .inr ⟨key, v, r, more, hentry, hmore, rfl⟩, ?_, ?_⟩
          · split_ifs at ht with htype
            · rwa [htype, valuesOf_cons_self, List.append_cons]
            · rwa [valuesOf_cons_of_ne htype]
          · rwa [valuesOf_cons_of_ne hne]
    · rintro ⟨es, ⟨hnext, rfl⟩ | ⟨key, v, r, more, hentry, hmore, rfl⟩, ht, hl⟩
      · exact .inl ⟨hnext, by simpa [valuesOf] using ht, labelled_nil_iff.mp hl⟩
      · refine .inr ⟨key, v, r, hentry, ?_⟩
        by_cases hlabel : key = "label"
        · subst hlabel
          rw [valuesOf_cons_of_ne (by decide)] at ht
          rw [valuesOf_cons_self] at hl
          obtain ⟨hnone, l, hisLabel, hl⟩ := labelled_cons_iff.mp hl
          exact .inl ⟨rfl, hnone, l, hisLabel, more, hmore, ht, hl⟩
        · rw [valuesOf_cons_of_ne hlabel] at hl
          refine .inr ⟨hlabel, more, hmore, ?_, hl⟩
          split_ifs with htype
          · rwa [htype, valuesOf_cons_self, List.append_cons] at ht
          · rwa [valuesOf_cons_of_ne htype] at ht

/-! ## Whole texts -/

theorem Configured.read_eq_ok_iff : Configured.read s = .ok c ↔
    ∃ es, Document s (.obj es) ∧ valuesOf "type" es = [.str c.type] ∧
      Labelled none (valuesOf "label" es) c.label := by
  constructor
  · intro h
    unfold Configured.read at h
    dsimp only at h
    split at h
    · cases h
    · rename_i r hskip
      obtain ⟨g, hg, rfl⟩ := Json.exists_gap hskip
      obtain ⟨⟨c', rest⟩, hfields, h⟩ := bind_eq_ok_iff.mp h
      obtain ⟨u, hend, h⟩ := bind_eq_ok_iff.mp h
      cases h
      obtain ⟨es, hes, ht, hl⟩ := fieldsFrom_eq_ok_iff.mp hfields
      have hvalue : Json.value maxDepth _ = .ok (.obj es, rest) :=
        Json.value_succ_eq_obj_iff.mpr ⟨g, r, hg, rfl, hes⟩
      have hread : Json.read _ = .ok (.obj es) := bind_eq_ok_iff.mpr
        ⟨_, hvalue, bind_eq_ok_iff.mpr ⟨u, grammar_eq_ok_iff.mp hend, rfl⟩⟩
      exact ⟨es, Json.read_eq_ok_iff.mp hread, ht, hl⟩
    · obtain ⟨_, hrefuse, _⟩ := bind_eq_ok_iff.mp h
      exact absurd hrefuse refuse_ne_ok
  · rintro ⟨es, hdoc, ht, hl⟩
    obtain ⟨⟨v, rest⟩, hvalue, h⟩ := bind_eq_ok_iff.mp (Json.read_eq_ok_iff.mpr hdoc)
    obtain ⟨u, hend, h⟩ := bind_eq_ok_iff.mp h
    cases h
    obtain ⟨g, r, hg, rfl, hes⟩ := Json.value_succ_eq_obj_iff.mp hvalue
    have hfields : fieldsFrom (r.length + 1) true [] none r = .ok (c, rest) :=
      fieldsFrom_eq_ok_iff.mpr ⟨es, hes, ht, hl⟩
    unfold Configured.read
    rw [Json.skipGap_append hg (by decide)]
    exact bind_eq_ok_iff.mpr
      ⟨_, hfields, bind_eq_ok_iff.mpr ⟨u, grammar_eq_ok_iff.mpr hend, rfl⟩⟩

/-- What a text has to be for an entry. -/
theorem parse_eq_ok_iff : Configured.parse text = .ok c ↔
    ∃ es, Document text.toList (.obj es) ∧ valuesOf "type" es = [.str c.type] ∧
      Labelled none (valuesOf "label" es) c.label := by
  rw [← Configured.read_eq_ok_iff, Configured.parse]
  cases Configured.read text.toList with
  | error e => exact iff_of_false nofun nofun
  | ok c' => rw [Except.ok.injEq, Except.ok.injEq]

/-- An object is an entry just by what it gives to the two keys. -/
theorem parse_object_eq_ok_iff (h : Document text.toList (.obj es)) :
    Configured.parse text = .ok c ↔
      valuesOf "type" es = [.str c.type] ∧ Labelled none (valuesOf "label" es) c.label := by
  rw [parse_eq_ok_iff]
  constructor
  · rintro ⟨es', h', hfields⟩
    cases h.unique h'
    exact hfields
  · exact fun hfields => ⟨es, h, hfields⟩

theorem parse_eq_error (h : ∀ c, Configured.parse text ≠ .ok c) :
    ∃ fault position, Configured.parse text = .error (.parse fault position) := by
  unfold Configured.parse at h ⊢
  cases hread : Configured.read text.toList with
  | error e => exact ⟨_, _, rfl⟩
  | ok c =>
    rw [hread] at h
    exact absurd rfl (h c)

theorem exists_labelled_iff : (∃ l, Labelled none vs l) ↔
    vs = [] ∨ vs = [.null] ∨ ∃ l, vs = [.str l] := by
  constructor
  · rintro ⟨l, _ | ⟨⟨⟩ | ⟨l⟩⟩⟩
    · exact .inl rfl
    · exact .inr (.inl rfl)
    · exact .inr (.inr ⟨l, rfl⟩)
  · rintro (rfl | rfl | ⟨l, rfl⟩)
    · exact ⟨none, .kept none⟩
    · exact ⟨none, .given .null⟩
    · exact ⟨some l, .given (.string l)⟩

theorem Labelled.eq_some_iff (h : Labelled none vs l) {t : String} :
    l = some t ↔ vs = [.str t] := by
  obtain _ | ⟨⟨⟩ | ⟨t'⟩⟩ := h
  · exact iff_of_false nofun nofun
  · exact iff_of_false nofun nofun
  · simp

/-- Entries that agree up to order on some keys give each of these the same values up to order. -/
theorem valuesOf_perm {key : String} {keys : List String} {es' : List (String × Json)}
    (hkey : key ∈ keys)
    (h : (es.filter fun entry => entry.1 ∈ keys).Perm (es'.filter fun entry => entry.1 ∈ keys)) :
    (valuesOf key es).Perm (valuesOf key es') := by
  have hfilter : ∀ es : List (String × Json),
      valuesOf key (es.filter fun entry => entry.1 ∈ keys) = valuesOf key es := by
    intro es
    rw [valuesOf, valuesOf, List.filter_filter]
    congr 2
    funext entry
    by_cases hentry : entry.1 = key
    · simp [hentry, hkey]
    · simp [hentry]
  rw [← hfilter es, ← hfilter es']
  exact (h.filter _).map _

theorem Labelled.perm {vs' : List Json} (h : Labelled none vs l) (hperm : vs.Perm vs') :
    Labelled none vs' l := by
  obtain _ | ⟨h⟩ := h
  · rw [← hperm.nil_eq]
    exact .kept none
  · rw [← List.singleton_perm.mp hperm]
    exact .given h

/-- Two objects that agree up to order on the two keys are the same entry, or neither is one. -/
theorem parse_of_perm {text' : String} {es' : List (String × Json)}
    (h : Document text.toList (.obj es)) (h' : Document text'.toList (.obj es'))
    (hperm : (es.filter fun entry => entry.1 ∈ ["type", "label"]).Perm
      (es'.filter fun entry => entry.1 ∈ ["type", "label"]))
    (hparse : Configured.parse text = .ok c) : Configured.parse text' = .ok c := by
  obtain ⟨ht, hl⟩ := (parse_object_eq_ok_iff h).mp hparse
  have hp : (valuesOf "type" es).Perm (valuesOf "type" es') := valuesOf_perm (by decide) hperm
  rw [ht] at hp
  exact (parse_object_eq_ok_iff h').mpr
    ⟨(List.singleton_perm.mp hp).symm, hl.perm (valuesOf_perm (by decide) hperm)⟩

theorem resolve_eq_unsupportedType_iff {folder : Folder} {t : String} :
    c.resolve folder = .error (.unsupportedType t) ↔ t = c.type ∧ t ≠ "lll" := by
  unfold Configured.resolve
  split_ifs with h
  · refine iff_of_false nofun fun ⟨ht, hne⟩ => hne ?_
    rw [ht, h]
    rfl
  · rw [Except.error.injEq, TaskError.unsupportedType.injEq]
    constructor
    · rintro rfl
      exact ⟨rfl, h⟩
    · exact fun ⟨ht, _⟩ => ht.symm

theorem resolve_eq_provided (h : c.type = "lll") (folder : Folder) :
    ∃ task, provided [folder] = [task] ∧
      c.resolve folder = .ok { task with name := c.label.getD task.name } := by
  refine ⟨make lintType folder (nameFor folder), rfl, ?_⟩
  have hlint : c.type = lintType := h
  rw [Configured.resolve, if_pos hlint, hlint]
  rfl

/-- **Only the type and the label of an entry count.** An object gives an entry just if one of its
keys is `type`, with a string, and at most one is `label`, with a string or `null`; other keys and
the order do not matter, whatever numbers in range stand there, and a text that is no object gives
none. In a folder the entry stands for the folder's own task under its label, even an empty one,
unless it is of another type. -/
theorem entries_resolved (path : Bytes) (text : String) :
    (∀ l : Json.Literal, l.InRange → ∃ v, Json.Numeral l.text v) ∧
    (∀ es, Document text.toList (.obj es) →
      ((∃ c, Configured.parse text = .ok c) ↔
        (∃ t, valuesOf "type" es = [.str t]) ∧
        (valuesOf "label" es = [] ∨ valuesOf "label" es = [.null] ∨
          ∃ l, valuesOf "label" es = [.str l])) ∧
      (∀ c, Configured.parse text = .ok c → valuesOf "type" es = [.str c.type] ∧
        ∀ l, c.label = some l ↔ valuesOf "label" es = [.str l]) ∧
      ∀ text' es', Document text'.toList (.obj es') →
        (es.filter fun entry => entry.1 ∈ ["type", "label"]).Perm
          (es'.filter fun entry => entry.1 ∈ ["type", "label"]) →
        ∀ c, Configured.parse text = .ok c ↔ Configured.parse text' = .ok c) ∧
    ((∀ es, ¬Document text.toList (.obj es)) →
      ∃ fault position, Configured.parse text = .error (.parse fault position)) ∧
    ∀ c : Configured,
      (∀ t, c.resolve (Folder.ofPath path) = .error (.unsupportedType t) ↔
        t = c.type ∧ t ≠ "lll") ∧
      (c.type = "lll" → ∃ task, provided [Folder.ofPath path] = [task] ∧
        c.resolve (Folder.ofPath path) = .ok { task with name := c.label.getD task.name }) := by
  refine ⟨fun l hl => ?_, fun es h => ⟨?_, fun c hc => ?_, fun text' es' h' hperm c => ?_⟩,
    fun h => ?_,
    fun c => ⟨fun t => resolve_eq_unsupportedType_iff, fun hc => resolve_eq_provided hc _⟩⟩
  · obtain ⟨v, hv⟩ := l.exists_value hl
    exact ⟨v, .of hv⟩
  · rw [← exists_labelled_iff]
    constructor
    · rintro ⟨c, hc⟩
      obtain ⟨ht, hl⟩ := (parse_object_eq_ok_iff h).mp hc
      exact ⟨⟨c.type, ht⟩, c.label, hl⟩
    · rintro ⟨⟨t, ht⟩, l, hl⟩
      exact ⟨⟨t, l⟩, (parse_object_eq_ok_iff h).mpr ⟨ht, hl⟩⟩
  · obtain ⟨ht, hl⟩ := (parse_object_eq_ok_iff h).mp hc
    exact ⟨ht, fun l => hl.eq_some_iff⟩
  · exact ⟨parse_of_perm h h' hperm, parse_of_perm h' h hperm.symm⟩
  · refine parse_eq_error fun c hc => ?_
    obtain ⟨es, hes, _⟩ := parse_eq_ok_iff.mp hc
    exact h es hes

/-- A number with all the parts that one can have. -/
def fullLiteral : Json.Literal where
  negative := true
  integer := ['0']
  fraction := ['5']
  exponent := some ⟨'e', ['+'], ['1'], .inl rfl, .inr (.inl rfl),
    List.forall_mem_singleton.mpr rfl, by decide⟩
  isInteger := List.forall_mem_singleton.mpr rfl
  isFraction := List.forall_mem_singleton.mpr rfl
  ne_nil := by decide
  zero := fun _ => rfl

/-- An entry with an empty label among other keys, the key of its type spelled with an escape. -/
def cluttered : String :=
  "\x7b\"label\" : \"\", \"n\":[7,-0.5e+1,\x7b\"type\":0\x7d],\"t\\u0079pe\":\"lll\"\x7d "

theorem entries_resolved_cluttered :
    (fullLiteral.text = "-0.5e+1".toList ∧ ∃ v, Json.Numeral fullLiteral.text v) ∧
    (∃ es task, Document cluttered.toList (.obj es) ∧ valuesOf "type" es = [.str "lll"] ∧
      valuesOf "label" es = [.str ""] ∧
      provided [Folder.ofPath (textBytes "/work/api")] = [task] ∧ task.name = "lint api" ∧
      ∃ c, Configured.parse cluttered = .ok c ∧
        c.resolve (Folder.ofPath (textBytes "/work/api")) = .ok { task with name := "" }) ∧
    (∀ c, Configured.parse "\x7b\x7d" ≠ .ok c) ∧
    ∃ fault position, Configured.parse "[]" = .error (.parse fault position) := by
  refine ⟨⟨by decide, ?_⟩, ?_, fun c hc => ?_, ?_⟩
  · refine (entries_resolved [] "").1 fullLiteral ⟨?_, ?_⟩
    · have hsize : fullLiteral.size = 5 := by
        have hdigits : fullLiteral.digits = 5 := by decide
        have hshift : fullLiteral.shift = 1 := by decide
        have hlength : fullLiteral.fraction.length = 1 := rfl
        rw [Json.Literal.size, hdigits, hshift, hlength]
        norm_num
      calc fullLiteral.size = 5 := hsize
        _ ≤ 1797 * 1 := by norm_num
        _ ≤ 1797 * 10 ^ 305 := by
          gcongr
          exact one_le_pow₀ (by norm_num)
    · rintro - e he -
      cases he
      decide
  · have hparse : Configured.parse cluttered = .ok ⟨"lll", some ""⟩ := by decide +kernel
    obtain ⟨es, hdoc, -⟩ := parse_eq_ok_iff.mp hparse
    obtain ⟨-, hobject, -, hresolve⟩ := entries_resolved (textBytes "/work/api") cluttered
    obtain ⟨htype, hlabel⟩ := (hobject es hdoc).2.1 _ hparse
    obtain ⟨task, hprovided, hresolved⟩ := (hresolve ⟨"lll", some ""⟩).2 rfl
    refine ⟨es, task, hdoc, htype, (hlabel "").mp rfl, hprovided, ?_, _, hparse, hresolved⟩
    rw [← List.singleton_inj.mp hprovided]
    decide
  · have hdoc : Document "\x7b\x7d".toList (.obj []) :=
      ⟨[], _, [], nofun, .object (d := 126) (.done Json.gap_nil), nofun, by decide⟩
    obtain ⟨⟨_, ht⟩, _⟩ := ((entries_resolved [] _).2.1 [] hdoc).1.mp ⟨c, hc⟩
    cases ht
  · have hdoc : Document "[]".toList (.arr []) :=
      ⟨[], _, [], nofun, .array (d := 126) (.done Json.gap_nil), nofun, by decide⟩
    exact (entries_resolved [] _).2.2.1 fun es hes => nomatch hdoc.unique hes

end Task

end LineLint
