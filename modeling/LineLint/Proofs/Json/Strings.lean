import LineLint.Json.Reader
import Mathlib.Data.List.TakeWhile

/-!
# Blanks and strings in JSON texts

Which texts are blanks and strings, said without the reader, and what the reader takes from a text
that starts with one. A string ends at its closing quote, whatever follows.

* `Gap` — blanks.
* `HexDigits`, `Escaped`, `Letters` — what stands between the quotes of a string.

Results:

* `skipGap_append`, `exists_gap`: blanks are passed over.
* `hexEscape_eq_ok_iff`, `escape_eq_ok_iff`, `stringRest_eq_ok_iff`: strings, exactly.
-/

namespace LineLint.Json

variable {α β ε : Type} {s t g rest cs : List Char} {c : Char} {n : ℕ}

/-- What a computation that succeeds has done on its way. -/
theorem bind_eq_ok_iff {x : Except ε α} {f : α → Except ε β} {b : β} :
    x >>= f = .ok b ↔ ∃ a, x = .ok a ∧ f a = .ok b := by
  cases x with
  | error e => exact iff_of_false nofun fun ⟨_, h, _⟩ => nomatch h
  | ok a => exact ⟨fun h => ⟨a, rfl, h⟩, fun ⟨_, ha, h⟩ => Except.ok.inj ha ▸ h⟩

/-! ## Blanks -/

/-- Blanks, any number of them. -/
def Gap (s : List Char) : Prop := ∀ c ∈ s, isGap c = true

@[simp]
theorem gap_nil : Gap [] := nofun

theorem Gap.append (hg : Gap g) (ht : Gap t) : Gap (g ++ t) := by
  intro c hc
  exact (List.mem_append.mp hc).elim (hg c) (ht c)

/-- Blanks before something else are passed over. -/
theorem skipGap_append (hg : Gap g) (hc : isGap c = false) : skipGap (g ++ c :: s) = c :: s := by
  rw [skipGap, List.dropWhile_append_of_pos hg, List.dropWhile_cons_of_neg (by simp [hc])]

/-- What is passed over are blanks. -/
theorem exists_gap (h : skipGap s = t) : ∃ g, Gap g ∧ s = g ++ t := by
  refine ⟨s.takeWhile isGap, fun _ => List.mem_takeWhile_imp, ?_⟩
  rw [← h]
  exact List.takeWhile_append_dropWhile.symm

/-! ## Strings -/

/-- Four hexadecimal digits and their value. -/
inductive HexDigits : List Char → ℕ → Prop
  | four {a b c d : Char} {w x y z : ℕ} (ha : hexValue? a = some w) (hb : hexValue? b = some x)
      (hc : hexValue? c = some y) (hd : hexValue? d = some z) :
      HexDigits [a, b, c, d] (((w * 16 + x) * 16 + y) * 16 + z)

/-- The letters that stand for a character after a backslash. -/
def shortEscapes : List (Char × Char) :=
  [('"', '"'), ('\\', '\\'), ('/', '/'), ('b', '\x08'), ('f', '\x0c'), ('n', '\n'), ('r', '\r'),
    ('t', '\t')]

/-- The character of a pair of surrogates. -/
def surrogatePair (high low : ℕ) : Char :=
  Char.ofNat (0x10000 + (high - 0xD800) * 1024 + (low - 0xDC00))

/-- What follows a backslash, and the character that it stands for: a letter, a code point that is
no surrogate, or a pair of surrogates. -/
inductive Escaped : List Char → Char → Prop
  | short {e c : Char} (h : (e, c) ∈ shortEscapes) : Escaped [e] c
  | unit {s : List Char} {n : ℕ} (h : HexDigits s n) (hn : n < 0xD800 ∨ 0xDFFF < n) :
      Escaped ('u' :: s) (Char.ofNat n)
  | pair {s t : List Char} {high low : ℕ} (hs : HexDigits s high) (ht : HexDigits t low)
      (hhigh : 0xD800 ≤ high ∧ high ≤ 0xDBFF) (hlow : 0xDC00 ≤ low ∧ low ≤ 0xDFFF) :
      Escaped ('u' :: (s ++ '\\' :: 'u' :: t)) (surrogatePair high low)

/-- What stands between the quotes of a string, and the characters of the string. -/
inductive Letters : List Char → List Char → Prop
  | nil : Letters [] []
  | plain {c : Char} {s cs : List Char} (hquote : c ≠ '"') (hslash : c ≠ '\\')
      (hcontrol : 0x20 ≤ c.toNat) (h : Letters s cs) : Letters (c :: s) (c :: cs)
  | escaped {e s cs : List Char} {c : Char} (he : Escaped e c) (h : Letters s cs) :
      Letters ('\\' :: (e ++ s)) (c :: cs)

theorem HexDigits.hexEscape_append (h : HexDigits t n) (rest : List Char) :
    hexEscape (t ++ rest) = .ok (n, rest) := by
  obtain ⟨ha, hb, hc, hd⟩ := h
  simp only [List.cons_append, List.nil_append, hexEscape, ha, hb, hc, hd]

theorem hexEscape_eq_ok_iff :
    hexEscape s = .ok (n, rest) ↔ ∃ t, HexDigits t n ∧ s = t ++ rest := by
  constructor
  · intro h
    unfold hexEscape at h
    split at h
    · split at h
      · cases h
        exact ⟨_, .four ‹_› ‹_› ‹_› ‹_›, rfl⟩
      · cases h
    · split_ifs at h
      cases h
  · rintro ⟨t, ht, rfl⟩
    exact ht.hexEscape_append rest

/-- The second half of a pair stands in an escape of its own. -/
theorem lowSurrogate_eq_ok_iff {high : ℕ} : lowSurrogate high s = .ok (c, rest) ↔
    ∃ t low, HexDigits t low ∧ (0xDC00 ≤ low ∧ low ≤ 0xDFFF) ∧ s = '\\' :: 'u' :: (t ++ rest) ∧
      c = surrogatePair high low := by
  constructor
  · intro h
    unfold lowSurrogate at h
    split at h
    · cases h
    · split at h
      · cases h
      · split at h
        · cases h
        · rename_i low rest' hlow
          split_ifs at h with hrange
          · cases h
          · obtain ⟨t, ht, rfl⟩ := hexEscape_eq_ok_iff.mp hlow
            obtain ⟨hc, rfl⟩ := Prod.mk.inj (Except.ok.inj h)
            exact ⟨t, low, ht, by omega, rfl, hc.symm⟩
      · cases h
    · cases h
  · rintro ⟨t, low, ht, hrange, rfl, hc⟩
    simp only [lowSurrogate, ht.hexEscape_append]
    rw [if_neg (by omega), hc, surrogatePair]

theorem escape_short {e : Char} (h : (e, c) ∈ shortEscapes) (rest : List Char) :
    escape (e :: rest) = .ok (c, rest) := by
  simp only [shortEscapes, List.mem_cons, Prod.mk.injEq, List.not_mem_nil, or_false] at h
  rcases h with ⟨rfl, rfl⟩ | ⟨rfl, rfl⟩ | ⟨rfl, rfl⟩ | ⟨rfl, rfl⟩ | ⟨rfl, rfl⟩ | ⟨rfl, rfl⟩ |
    ⟨rfl, rfl⟩ | ⟨rfl, rfl⟩ <;> rfl

theorem escape_eq_ok_iff : escape s = .ok (c, rest) ↔ ∃ t, Escaped t c ∧ s = t ++ rest := by
  constructor
  · intro h
    unfold escape at h
    split at h
    · cases h
    · unfold unicodeEscape at h
      split at h
      · cases h
      · rename_i digits _ code rest' hcode
        obtain ⟨t, ht, rfl⟩ := hexEscape_eq_ok_iff.mp hcode
        split_ifs at h with hlow hhigh
        · cases h
        · obtain ⟨t', low, ht', hrange, rfl, hc⟩ := lowSurrogate_eq_ok_iff.mp h
          rw [hc]
          exact ⟨_, .pair ht ht' hhigh hrange, by simp⟩
        · cases h
          exact ⟨_, .unit ht (by omega), rfl⟩
    · rename_i e rest' _
      refine ⟨[e], .short ?_, ?_⟩ <;> split_ifs at h with h₁ h₂ h₃ h₄ h₅ h₆ <;> cases h
      · rcases h₁ with rfl | rfl | rfl <;> decide
      all_goals first | rfl | (subst_vars; decide)
  · rintro ⟨t, ht, rfl⟩
    cases ht with
    | short h => exact escape_short h rest
    | unit h hn =>
      simp only [List.cons_append, escape, unicodeEscape, h.hexEscape_append]
      rw [if_neg (by omega), if_neg (by omega)]
    | pair hs ht hhigh hlow =>
      rename_i s t high low
      rw [List.cons_append, List.append_assoc]
      simp only [escape, unicodeEscape, hs.hexEscape_append]
      rw [if_neg (by omega), if_pos hhigh]
      exact lowSurrogate_eq_ok_iff.mpr ⟨t, low, ht, hlow, rfl, rfl⟩

theorem letters_of_stringBody {fuel : ℕ} (h : stringBody fuel s = .ok (cs, rest)) :
    ∃ t, Letters t cs ∧ s = t ++ '"' :: rest := by
  induction fuel generalizing s cs rest with
  | zero => cases s <;> cases h
  | succ fuel ih =>
    cases s with
    | nil => cases h
    | cons c s =>
      rw [stringBody] at h
      split_ifs at h with hquote hslash hcontrol
      · cases h
        exact ⟨[], .nil, by rw [hquote, List.nil_append]⟩
      · obtain ⟨⟨d, s'⟩, hd, h⟩ := bind_eq_ok_iff.mp h
        obtain ⟨⟨more, rest'⟩, hmore, h⟩ := bind_eq_ok_iff.mp h
        cases h
        obtain ⟨e, he, rfl⟩ := escape_eq_ok_iff.mp hd
        obtain ⟨t, ht, rfl⟩ := ih hmore
        exact ⟨_, .escaped he ht, by simp [hslash]⟩
      · cases h
      · obtain ⟨⟨more, rest'⟩, hmore, h⟩ := bind_eq_ok_iff.mp h
        cases h
        obtain ⟨t, ht, rfl⟩ := ih hmore
        exact ⟨_, .plain hquote hslash (Nat.not_lt.mp hcontrol) ht, rfl⟩

theorem stringBody_of_letters (h : Letters t cs) (rest : List Char) :
    ∀ fuel, t.length < fuel → stringBody fuel (t ++ '"' :: rest) = .ok (cs, rest) := by
  induction h with
  | nil =>
    rintro (_ | fuel) hfuel
    · cases hfuel
    · rfl
  | plain hquote hslash hcontrol _ ih =>
    rintro (_ | fuel) hfuel
    · cases hfuel
    · rw [List.length_cons] at hfuel
      rw [List.cons_append, stringBody, if_neg hquote, if_neg hslash,
        if_neg (Nat.not_lt.mpr hcontrol), ih fuel (by omega)]
      rfl
  | escaped he _ ih =>
    rintro (_ | fuel) hfuel
    · cases hfuel
    · rw [List.length_cons, List.length_append] at hfuel
      rw [List.cons_append, stringBody, if_neg (by decide), if_pos rfl, List.append_assoc,
        escape_eq_ok_iff.mpr ⟨_, he, rfl⟩]
      simp only [bind, Except.bind]
      rw [ih fuel (by omega)]
      rfl

/-- A string is read up to its closing quote. -/
theorem stringRest_eq_ok_iff {text : String} :
    stringRest s = .ok (text, rest) ↔ ∃ t, Letters t text.toList ∧ s = t ++ '"' :: rest := by
  rw [stringRest, bind_eq_ok_iff]
  constructor
  · rintro ⟨⟨cs, rest'⟩, hbody, h⟩
    cases h
    rw [String.toList_ofList]
    exact letters_of_stringBody hbody
  · rintro ⟨t, ht, rfl⟩
    refine ⟨(text.toList, rest), stringBody_of_letters ht rest _ (by simp), ?_⟩
    dsimp only
    rw [String.ofList_toList]
    rfl

end LineLint.Json
