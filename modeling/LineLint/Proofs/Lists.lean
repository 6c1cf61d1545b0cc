import Mathlib.Data.List.Basic

/-!
# Lists

Facts about lists for which there is more than one use: the places of a list that grows at its end
or is changed at one place, and a table from which a key is removed.
-/

namespace LineLint

variable {α κ : Type}

/-- The places of a list with one more entry. -/
theorem getElem?_concat (l : List α) (a : α) (i : ℕ) :
    (l ++ [a])[i]? = if i = l.length then some a else l[i]? := by
  rcases Nat.lt_trichotomy i l.length with h | h | h
  · rw [List.getElem?_append_left h, if_neg (by omega)]
  · subst h
    simp
  · rw [List.getElem?_eq_none (by simp; omega), if_neg (by omega), List.getElem?_eq_none (by omega)]

theorem getElem?_concat_iff {l : List α} {a b : α} {i : ℕ} :
    (l ++ [a])[i]? = some b ↔ l[i]? = some b ∨ i = l.length ∧ a = b := by
  rw [getElem?_concat]
  split_ifs with h
  · simp [h]
  · simp [h]

theorem filterMap_concat {β : Type} (f : α → Option β) (l : List α) (a : α) :
    (l ++ [a]).filterMap f = l.filterMap f ++ (f a).toList := by
  rw [List.filterMap_append]
  cases h : f a <;> simp [h]

/-- A list falls apart at each of its places. -/
theorem take_append_cons_drop {l : List α} {k : ℕ} {a : α} (h : l[k]? = some a) :
    l = l.take k ++ a :: l.drop (k + 1) := by
  obtain ⟨hk, rfl⟩ := List.getElem?_eq_some_iff.mp h
  rw [List.getElem_cons_drop, List.take_append_drop]

/-- The places of a list that is changed at one place. -/
theorem getElem?_modify_of_eq_some {l : List α} {x : α} {k : ℕ} (h : l[k]? = some x) (f : α → α)
    (i : ℕ) : (l.modify k f)[i]? = if i = k then some (f x) else l[i]? := by
  rw [List.getElem?_modify]
  by_cases hi : i = k
  · subst hi
    rw [h, if_pos rfl]
    simp
  · have hi' : ¬k = i := fun h => hi h.symm
    rw [if_neg hi]
    simp [hi']

/-- A change at one place, and what others see of it. -/
theorem map_modify {β : Type} {f : α → β} {g : α → α} {g' : β → β} (h : ∀ a, f (g a) = g' (f a))
    (l : List α) (i : ℕ) : (l.modify i g).map f = (l.map f).modify i g' := by
  apply List.ext_getElem?
  intro j
  simp only [List.getElem?_modify, List.getElem?_map]
  cases l[j]? with
  | none => rfl
  | some a => by_cases hij : i = j <;> simp [hij, h]

/-- A change at one place is not seen by those who do not look at what it changes. -/
theorem map_modify_eq {β : Type} {f : α → β} {g : α → α} (h : ∀ a, f (g a) = f a) (l : List α)
    (i : ℕ) : (l.modify i g).map f = l.map f := by
  have hid : ∀ a, f (g a) = id (f a) := h
  rw [map_modify hid, List.modify_id]

/-- A first part of a list can be made longer by the entry that follows it. -/
theorem concat_prefix {l l' : List α} {x : α} (h : l <+: l') (hx : l'[l.length]? = some x) :
    l ++ [x] <+: l' := by
  obtain ⟨more, rfl⟩ := h
  rw [List.getElem?_append_right (Nat.le_refl _), Nat.sub_self] at hx
  cases more with
  | nil => cases hx
  | cons y more =>
    cases hx
    exact ⟨more, by rw [List.append_assoc]; rfl⟩

/-- Of entries with different keys, only one has the key of a given one. -/
theorem filter_key_eq [DecidableEq κ] {l : List α} {f : α → κ} {a : α} (hn : (l.map f).Nodup)
    (ha : a ∈ l) : (l.filter fun b => f b = f a) = [a] := by
  induction l with
  | nil => cases ha
  | cons b l ih =>
    rw [List.map_cons, List.nodup_cons] at hn
    rcases List.mem_cons.mp ha with rfl | ha
    · have hnone : (l.filter fun b => f b = f a) = [] := by
        rw [List.filter_eq_nil_iff]
        intro b hb
        have hne : f b ≠ f a := fun h => hn.1 (h ▸ List.mem_map_of_mem hb)
        simpa using hne
      rw [List.filter_cons_of_pos (by simp), hnone]
    · have hne : f b ≠ f a := fun h => hn.1 (h ▸ List.mem_map_of_mem ha)
      rw [List.filter_cons_of_neg (by simpa using hne)]
      exact ih hn.2 ha

/-- In a table of different keys, what is found under a key is what stands there. -/
theorem map_find?_eq_some_iff [DecidableEq κ] {l : List (κ × α)} {k : κ} {a : α}
    (hn : (l.map Prod.fst).Nodup) :
    (l.find? fun entry => entry.1 == k).map Prod.snd = some a ↔ (k, a) ∈ l := by
  constructor
  · intro h
    obtain ⟨⟨k', a'⟩, hfound, rfl⟩ := Option.map_eq_some_iff.mp h
    obtain rfl : k' = k := by simpa using List.find?_some hfound
    exact List.mem_of_find?_eq_some hfound
  · intro h
    have hfind : (l.find? fun entry => entry.1 == k) = some (k, a) := by
      rw [← List.head?_filter]
      have hone := filter_key_eq hn h
      simp only [beq_eq_decide, hone, List.head?_cons]
    rw [hfind]
    rfl

/-- What is found in a table from which a key was removed. -/
theorem find?_filter_ne [DecidableEq κ] (l : List (κ × α)) (k k' : κ) :
    ((l.filter fun entry => entry.1 != k).find? fun entry => entry.1 == k').map Prod.snd =
      if k' = k then none else (l.find? fun entry => entry.1 == k').map Prod.snd := by
  rw [List.find?_filter]
  by_cases hk : k' = k
  · subst hk
    rw [if_pos rfl, Option.map_eq_none_iff, List.find?_eq_none]
    intro entry _
    simp
  · rw [if_neg hk]
    congr 2
    funext entry
    by_cases he : entry.1 = k'
    · simp [he, hk]
    · simp [he]

end LineLint
