import LineLint.Text.Utf8
import Mathlib.Data.List.Basic

/-!
# Decoding byte by byte

The decoder reads a byte at a time. A line feed byte is never part of a longer sequence: it ends
whatever has been begun, it is decoded as a line feed, and the decoder starts anew after it. No
other byte, well placed or not, gives a line feed. The bytes of a text are decoded as the text.

* `Start.yield`, `take` — what one byte yields, and the sequence begun after it.
* `Pending.Sound` — what is known of a sequence that has been begun.

Results:

* `unitsFrom_cons`: the decoder as a machine of single steps.
* `sound_take`, `take_lineFeed`, `take_other`: what a step does.
* `unitsFrom_lineFeed`, `decodeLossy_lineFeed`: what follows for whole byte strings.
* `unitsFrom_utf8EncodeChar`, `decode?_encode`: characters and texts are read back.
-/

namespace LineLint.Text

variable {b : UInt8} {p : Pending} {begun : Option Pending}

/-! ## Single steps -/

/-- The first byte of a sequence, by its number. -/
theorem start_eq (b : UInt8) : start b =
    if b.toNat < 128 then .char (Char.ofNat b.toNat)
    else if b.toNat < 194 then .gap
    else if b.toNat < 224 then .more ⟨b.toNat - 192, 1, 0x80, 0xBF⟩
    else if b.toNat = 224 then .more ⟨0, 2, 0xA0, 0xBF⟩
    else if b.toNat = 237 then .more ⟨13, 2, 0x80, 0x9F⟩
    else if b.toNat < 240 then .more ⟨b.toNat - 224, 2, 0x80, 0xBF⟩
    else if b.toNat = 240 then .more ⟨0, 3, 0x90, 0xBF⟩
    else if b.toNat < 244 then .more ⟨b.toNat - 240, 3, 0x80, 0xBF⟩
    else if b.toNat = 244 then .more ⟨4, 3, 0x80, 0x8F⟩
    else .gap := by
  simp only [start, UInt8.lt_iff_toNat_lt, ← UInt8.toNat_inj]
  rfl

/-- What the first byte of a sequence yields, and the sequence that it begins. -/
def Start.yield : Start → List (Option Char) × Option Pending
  | .char c => ([some c], none)
  | .gap => ([none], none)
  | .more p => ([], some p)

/-- What a byte yields after a sequence begun, if any, and the sequence begun after it. -/
def take (begun : Option Pending) (b : UInt8) : List (Option Char) × Option Pending :=
  match begun with
  | none => (start b).yield
  | some p =>
    if p.low ≤ b ∧ b ≤ p.high then
      let bits := p.bits * 64 + (b.toNat - 0x80)
      if p.left ≤ 1 then ([some (Char.ofNat bits)], none)
      else ([], some ⟨bits, p.left - 1, 0x80, 0xBF⟩)
    else (none :: (start b).yield.1, (start b).yield.2)

/-- The decoder is a machine of single steps. -/
theorem unitsFrom_cons (begun : Option Pending) (b : UInt8) (rest : Bytes) :
    unitsFrom begun (b :: rest) = (take begun b).1 ++ unitsFrom (take begun b).2 rest := by
  cases begun with
  | none =>
    simp only [unitsFrom, take]
    cases start b <;> rfl
  | some p =>
    simp only [unitsFrom, take]
    split_ifs
    · rfl
    · rfl
    · cases start b <;> rfl

/-! ## Sequences begun -/

/-- What is known of a sequence that has been begun: no byte of ASCII goes on with it, and some bit
of it is set when one byte is left. -/
structure Pending.Sound (p : Pending) : Prop where
  low_ge : 128 ≤ p.low.toNat
  bits_pos : 0 < p.bits ∨ (1 < p.left ∧ 128 < p.low.toNat)

theorem sound_of_start (h : start b = .more p) : p.Sound := by
  rw [start_eq] at h
  split_ifs at h <;> injection h with h <;> subst h
  -- where no bit is set yet, the next byte has to set one
  · exact ⟨Nat.le_refl 128, Or.inl (by dsimp only; omega)⟩
  · exact ⟨by decide, Or.inr (by decide)⟩
  · exact ⟨by decide, Or.inl (by decide)⟩
  · exact ⟨Nat.le_refl 128, Or.inl (by dsimp only; omega)⟩
  · exact ⟨by decide, Or.inr (by decide)⟩
  · exact ⟨Nat.le_refl 128, Or.inl (by dsimp only; omega)⟩
  · exact ⟨by decide, Or.inl (by decide)⟩

theorem Pending.Sound.next (h : p.Sound) (hb : p.low ≤ b) :
    Pending.Sound ⟨p.bits * 64 + (b.toNat - 0x80), p.left - 1, 0x80, 0xBF⟩ := by
  have hlow : p.low.toNat ≤ b.toNat := UInt8.le_iff_toNat_le.mp hb
  refine ⟨Nat.le_refl 128, Or.inl ?_⟩
  dsimp only
  rcases h.bits_pos with hbits | ⟨-, hset⟩ <;> omega

/-- A step begins and goes on with sound sequences only. -/
theorem sound_take (h : ∀ p ∈ begun, p.Sound) : ∀ p ∈ (take begun b).2, p.Sound := by
  have hstart : ∀ p ∈ (start b).yield.2, p.Sound := by
    intro p hp
    cases hs : start b with
    | char c => rw [hs] at hp; cases hp
    | gap => rw [hs] at hp; cases hp
    | more q =>
      rw [hs] at hp
      cases hp
      exact sound_of_start hs
  cases begun with
  | none => exact hstart
  | some q =>
    unfold take
    dsimp only
    split_ifs with hrange
    · exact nofun
    · intro p hp
      injection hp with hp
      subst hp
      exact (h q rfl).next hrange.1
    · exact hstart

/-- A line feed byte ends what has been begun, and is decoded as a line feed. -/
theorem take_lineFeed (h : ∀ p ∈ begun, p.Sound) :
    take begun 0x0A = (begun.toList.map (fun _ => none) ++ [some '\n'], none) := by
  cases begun with
  | none => rfl
  | some p =>
    have hlow := (h p rfl).low_ge
    have hout : ¬(p.low ≤ 0x0A ∧ 0x0A ≤ p.high) := by
      rintro ⟨hle, -⟩
      have hle : p.low.toNat ≤ 10 := UInt8.le_iff_toNat_le.mp hle
      omega
    unfold take
    dsimp only
    rw [if_neg hout]
    rfl

theorem ofNat_eq_lineFeed {n : ℕ} (h : Char.ofNat n = '\n') : n = 10 := by
  by_cases hvalid : n.isValidChar
  · have hn : (Char.ofNat n).toNat = n := by rw [Char.ofNat, dif_pos hvalid]; rfl
    rw [h] at hn
    exact hn.symm
  · have hzero : (Char.ofNat n).toNat = 0 := by rw [Char.ofNat, dif_neg hvalid]; rfl
    rw [h] at hzero
    exact absurd hzero (by decide)

theorem start_other (hb : b ≠ 0x0A) : some '\n' ∉ (start b).yield.1 := by
  intro h
  cases hs : start b with
  | gap => rw [hs] at h; simp [Start.yield] at h
  | more p => rw [hs] at h; cases h
  | char c =>
    rw [hs, Start.yield, List.mem_singleton, Option.some_inj] at h
    rw [start_eq] at hs
    split_ifs at hs
    injection hs with hs
    exact hb (UInt8.toNat_inj.mp (ofNat_eq_lineFeed (hs.trans h.symm)))

/-- No other byte is decoded as a line feed, wherever it stands. -/
theorem take_other (h : ∀ p ∈ begun, p.Sound) (hb : b ≠ 0x0A) :
    some '\n' ∉ (take begun b).1 := by
  cases begun with
  | none => exact start_other hb
  | some p =>
    unfold take
    dsimp only
    split_ifs with hrange hlast
    · -- the last byte of a sequence: a bit above the lowest six is set
      have hlow : p.low.toNat ≤ b.toNat := UInt8.le_iff_toNat_le.mp hrange.1
      rw [List.mem_singleton, Option.some_inj]
      intro hchar
      have hbits := ofNat_eq_lineFeed hchar.symm
      rcases (h p rfl).bits_pos with hpos | ⟨hleft, -⟩ <;> omega
    · exact List.not_mem_nil
    · rw [List.mem_cons]
      rintro (hgap | hstart)
      · cases hgap
      · exact start_other hb hstart

/-! ## Byte strings -/

/-- Up to a line feed byte, bytes are decoded by themselves, and the decoder starts anew after it.
Without one of their own they give no line feed. -/
theorem unitsFrom_lineFeed (a : Bytes) : ∀ begun : Option Pending, (∀ p ∈ begun, p.Sound) →
    ∃ us, (∀ rest, unitsFrom begun (a ++ 0x0A :: rest) = us ++ some '\n' :: unitsFrom none rest) ∧
      (0x0A ∉ a → some '\n' ∉ us) := by
  induction a with
  | nil =>
    intro begun h
    refine ⟨begun.toList.map fun _ => none, fun rest => ?_, fun _ hmem => ?_⟩
    · rw [List.nil_append, unitsFrom_cons, take_lineFeed h, List.append_assoc]
      rfl
    · obtain ⟨p, -, hp⟩ := List.mem_map.mp hmem
      cases hp
  | cons b a ih =>
    intro begun h
    obtain ⟨us, heq, hflat⟩ := ih (take begun b).2 (sound_take h)
    refine ⟨(take begun b).1 ++ us, fun rest => ?_, fun hno hmem => ?_⟩
    · rw [List.cons_append, unitsFrom_cons, heq, List.append_assoc]
    · rcases List.mem_append.mp hmem with hmem | hmem
      · exact take_other h (fun hb => hno (hb ▸ List.mem_cons_self)) hmem
      · exact hflat (fun ha => hno (List.mem_cons_of_mem _ ha)) hmem

/-- Up to a line feed byte, bytes are decoded by themselves to text that ends in a line feed. -/
theorem decodeLossy_lineFeed (a : Bytes) :
    ∃ s, (∀ rest, decodeLossy (a ++ 0x0A :: rest) = s ++ '\n' :: decodeLossy rest) ∧
      (0x0A ∉ a → '\n' ∉ s) := by
  obtain ⟨us, heq, hflat⟩ := unitsFrom_lineFeed a none nofun
  refine ⟨us.map fun u => u.getD replacement, fun rest => ?_, fun hno hmem => ?_⟩
  · rw [decodeLossy, units, heq, List.map_append]
    rfl
  · obtain ⟨u, hu, hchar⟩ := List.mem_map.mp hmem
    cases u with
    | none => exact absurd hchar (by decide)
    | some c => exact hflat hno (hchar ▸ hu)

/-! ## Encoded text -/

/-- A byte in the interval of a sequence goes on with it, by its lowest six bits. -/
theorem unitsFrom_within (bits left : ℕ) {low high : UInt8} {m : ℕ} (hm : m < 64)
    (hlow : low.toNat ≤ m + 128) (hhigh : m + 128 ≤ high.toNat) (rest : Bytes) :
    unitsFrom (some ⟨bits, left, low, high⟩) (UInt8.ofNat (m + 128) :: rest) =
      if left ≤ 1 then some (Char.ofNat (bits * 64 + m)) :: unitsFrom none rest
      else unitsFrom (some ⟨bits * 64 + m, left - 1, 0x80, 0xBF⟩) rest := by
  have hbyte : (UInt8.ofNat (m + 128)).toNat = m + 128 :=
    UInt8.toNat_ofNat_of_lt' (show _ < 256 by omega)
  have hin : low ≤ UInt8.ofNat (m + 128) ∧ UInt8.ofNat (m + 128) ≤ high := by
    rw [UInt8.le_iff_toNat_le, UInt8.le_iff_toNat_le, hbyte]
    exact ⟨hlow, hhigh⟩
  simp only [unitsFrom]
  rw [if_pos hin, hbyte, Nat.add_sub_cancel]

/-- Bytes after the second one may lie anywhere in the common interval. -/
theorem unitsFrom_further (bits left : ℕ) {m : ℕ} (hm : m < 64) (rest : Bytes) :
    unitsFrom (some ⟨bits, left, 0x80, 0xBF⟩) (UInt8.ofNat (m + 128) :: rest) =
      if left ≤ 1 then some (Char.ofNat (bits * 64 + m)) :: unitsFrom none rest
      else unitsFrom (some ⟨bits * 64 + m, left - 1, 0x80, 0xBF⟩) rest := by
  apply unitsFrom_within bits left hm
  · exact Nat.le_add_left 128 m
  · exact Nat.add_le_add_right (Nat.le_of_lt_succ hm) 128

/-- The first of three bytes. What would be overlong or a surrogate is kept out. -/
theorem start_three {k m : ℕ} (hk : k < 16) (hm : m < 64) (hoverlong : k = 0 → 32 ≤ m)
    (hsurrogate : k = 13 → m < 32) :
    ∃ low high, start (UInt8.ofNat (k + 224)) = .more ⟨k, 2, low, high⟩ ∧
      low.toNat ≤ m + 128 ∧ m + 128 ≤ high.toNat := by
  have hbyte : (UInt8.ofNat (k + 224)).toNat = k + 224 :=
    UInt8.toNat_ofNat_of_lt' (show _ < 256 by omega)
  rw [start_eq, hbyte, if_neg (by omega), if_neg (by omega), if_neg (by omega)]
  split_ifs with hE0 hED
  · obtain rfl : k = 0 := by omega
    have hover := hoverlong rfl
    refine ⟨0xA0, 0xBF, rfl, ?_, ?_⟩
    · change 160 ≤ m + 128; omega
    · change m + 128 ≤ 191; omega
  · obtain rfl : k = 13 := by omega
    have hsmall := hsurrogate rfl
    refine ⟨0x80, 0x9F, rfl, ?_, ?_⟩
    · change 128 ≤ m + 128; omega
    · change m + 128 ≤ 159; omega
  · refine ⟨0x80, 0xBF, by rw [Nat.add_sub_cancel], ?_, ?_⟩
    · change 128 ≤ m + 128; omega
    · change m + 128 ≤ 191; omega
  all_goals omega

/-- The first of four bytes. What would be overlong or too large is kept out. -/
theorem start_four {k m : ℕ} (hk : k < 5) (hm : m < 64) (hoverlong : k = 0 → 16 ≤ m)
    (hlarge : k = 4 → m < 16) :
    ∃ low high, start (UInt8.ofNat (k + 240)) = .more ⟨k, 3, low, high⟩ ∧
      low.toNat ≤ m + 128 ∧ m + 128 ≤ high.toNat := by
  have hbyte : (UInt8.ofNat (k + 240)).toNat = k + 240 :=
    UInt8.toNat_ofNat_of_lt' (show _ < 256 by omega)
  rw [start_eq, hbyte, if_neg (by omega), if_neg (by omega), if_neg (by omega), if_neg (by omega),
    if_neg (by omega), if_neg (by omega)]
  split_ifs with hF0 hF1 hF4
  · obtain rfl : k = 0 := by omega
    have hover := hoverlong rfl
    refine ⟨0x90, 0xBF, rfl, ?_, ?_⟩
    · change 144 ≤ m + 128; omega
    · change m + 128 ≤ 191; omega
  · refine ⟨0x80, 0xBF, by rw [Nat.add_sub_cancel], ?_, ?_⟩
    · change 128 ≤ m + 128; omega
    · change m + 128 ≤ 191; omega
  · obtain rfl : k = 4 := by omega
    have hsmall := hlarge rfl
    refine ⟨0x80, 0x8F, rfl, ?_, ?_⟩
    · change 128 ≤ m + 128; omega
    · change m + 128 ≤ 143; omega
  · omega

theorem unitsFrom_start {rest : Bytes} (h : start b = .more p) :
    unitsFrom none (b :: rest) = unitsFrom (some p) rest := by
  simp only [unitsFrom, h]

/-- The bytes of a character are decoded as the character. -/
theorem unitsFrom_utf8EncodeChar (c : Char) (rest : Bytes) :
    unitsFrom none (String.utf8EncodeChar c ++ rest) = some c :: unitsFrom none rest := by
  have hvalid : c.val.toNat < 55296 ∨ 57343 < c.val.toNat ∧ c.val.toNat < 1114112 := c.valid
  have hchar : ∀ n, n = c.val.toNat → Char.ofNat n = c := by
    rintro _ rfl
    exact Char.ofNat_toNat c
  unfold String.utf8EncodeChar
  dsimp only
  generalize c.val.toNat = v at hvalid hchar ⊢
  split_ifs with h1 h2 h3
  · have hbyte : (UInt8.ofNat v).toNat = v := UInt8.toNat_ofNat_of_lt' (show _ < 256 by omega)
    rw [List.singleton_append, unitsFrom_cons, take, start_eq, hbyte, if_pos (by omega),
      hchar v rfl]
    rfl
  · have hbyte : (UInt8.ofNat (v / 64 % 32 + 192)).toNat = v / 64 % 32 + 192 :=
      UInt8.toNat_ofNat_of_lt' (show _ < 256 by omega)
    have hstart : start (UInt8.ofNat (v / 64 % 32 + 192)) = .more ⟨v / 64 % 32, 1, 0x80, 0xBF⟩ := by
      rw [start_eq, hbyte, if_neg (by omega), if_neg (by omega), if_pos (by omega),
        Nat.add_sub_cancel]
    rw [List.cons_append, unitsFrom_start hstart, List.cons_append,
      unitsFrom_further _ _ (by omega), if_pos (by decide), hchar _ (by omega)]
    rfl
  · obtain ⟨low, high, hstart, hlow, hhigh⟩ := start_three (k := v / 4096 % 16)
      (m := v / 64 % 64) (by omega) (by omega) (by omega) (by omega)
    rw [List.cons_append, unitsFrom_start hstart, List.cons_append,
      unitsFrom_within _ _ (by omega) hlow hhigh, if_neg (by decide), List.cons_append,
      unitsFrom_further _ _ (by omega), if_pos (by decide), hchar _ (by omega)]
    rfl
  · obtain ⟨low, high, hstart, hlow, hhigh⟩ := start_four (k := v / 262144 % 8)
      (m := v / 4096 % 64) (by omega) (by omega) (by omega) (by omega)
    rw [List.cons_append, unitsFrom_start hstart, List.cons_append,
      unitsFrom_within _ _ (by omega) hlow hhigh, if_neg (by decide), List.cons_append,
      unitsFrom_further _ _ (by omega), if_neg (by decide), List.cons_append,
      unitsFrom_further _ _ (by omega), if_pos (by decide), hchar _ (by omega)]
    rfl

/-- Text is read back from its bytes. -/
theorem decode?_encode (s : List Char) : decode? (encode s) = some s := by
  have hunits : units (encode s) = s.map some := by
    unfold units encode
    induction s with
    | nil => rfl
    | cons c s ih => rw [List.flatMap_cons, unitsFrom_utf8EncodeChar, ih, List.map_cons]
  rw [decode?, hunits, List.mapM_map]
  exact List.mapM_pure.trans (by rw [List.map_id']; rfl)

end LineLint.Text
