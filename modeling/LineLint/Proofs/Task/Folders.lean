import LineLint.Task.Basic
import Mathlib.Data.List.Basic

/-!
# Names of folders

A folder is named by the last name of its path. Slashes at the end do not count, nor do dots that
stand alone between slashes; what is left is a name unless it leads to the directory above. The path
itself is kept as it was given, also in the tasks of the folder.

* `IsName` — a piece of a path that names something.
* `Padding` — what may follow the last name of a path.
* `components` — the pieces of a path that count.

Results:

* `intercalate_pathPieces`, `slash_notMem_of_mem`: the pieces of a path.
* `components_append_slash`, `components_append_padding`: the pieces that count.
* `getLast?_components_iff`: the last of them, exactly.
* `lastName?_eq_some_iff`: which paths have a last name.
* `folders_named`: the names of all folders and of their tasks.
-/

namespace LineLint

variable {path p s t piece : Bytes}

/-- The text of bytes that need not be text. -/
def lossyText (bytes : Bytes) : String := String.ofList (Text.decodeLossy bytes)

/-- A piece of a path that names something: not empty, without slashes, and neither `.` nor `..`. -/
structure IsName (s : Bytes) : Prop where
  ne_nil : s ≠ []
  slash_notMem : 47 ∉ s
  ne_dot : s ≠ [46]
  ne_dots : s ≠ [46, 46]

/-- What may follow the last name of a path: any number of `/` and of `/.`. Each of these starts
with a slash, so that after `/.` there is another slash or nothing. -/
inductive Padding : Bytes → Prop
  | nil : Padding []
  | slash {t : Bytes} (h : Padding t) : Padding (47 :: t)
  | dot {t : Bytes} (h : Padding t) : Padding (47 :: 46 :: t)

theorem Padding.append (hs : Padding s) (ht : Padding t) : Padding (s ++ t) := by
  induction hs with
  | nil => exact ht
  | slash _ ih => exact ih.slash
  | dot _ ih => exact ih.dot

/-! ## Pieces -/

theorem pathPieces_ne_nil (path : Bytes) : pathPieces path ≠ [] := by
  cases path with
  | nil => simp [pathPieces]
  | cons b path =>
    unfold pathPieces
    split_ifs
    · simp
    · split <;> simp

theorem pathPieces_slash (path : Bytes) : pathPieces (47 :: path) = [] :: pathPieces path := by
  simp [pathPieces]

theorem pathPieces_cons {b : UInt8} {more : List Bytes} (hb : b ≠ 47)
    (h : pathPieces path = piece :: more) : pathPieces (b :: path) = (b :: piece) :: more := by
  simp [pathPieces, hb, h]

/-- A path falls apart at each of its slashes. -/
theorem pathPieces_append_slash (p path : Bytes) :
    pathPieces (p ++ 47 :: path) = pathPieces p ++ pathPieces path := by
  induction p with
  | nil => exact pathPieces_slash path
  | cons b p ih =>
    by_cases hb : b = 47
    · rw [hb, List.cons_append, pathPieces_slash, pathPieces_slash, ih, List.cons_append]
    · obtain ⟨piece, more, hp⟩ := List.exists_cons_of_ne_nil (pathPieces_ne_nil p)
      have hlong : pathPieces (p ++ 47 :: path) = piece :: (more ++ pathPieces path) := by
        rw [ih, hp, List.cons_append]
      rw [List.cons_append, pathPieces_cons hb hlong, pathPieces_cons hb hp, List.cons_append]

theorem pathPieces_solid (h : 47 ∉ s) : pathPieces s = [s] := by
  induction s with
  | nil => rfl
  | cons b s ih =>
    rw [List.mem_cons, not_or] at h
    exact pathPieces_cons (Ne.symm h.1) (ih h.2)

/-- A path without slashes, or the part after the last one. -/
theorem solid_or_split (path : Bytes) : 47 ∉ path ∨ ∃ p s, 47 ∉ s ∧ path = p ++ 47 :: s := by
  by_cases h : 47 ∈ path
  · obtain ⟨back, front, hpath, hback⟩ := List.eq_append_cons_of_mem (List.mem_reverse.mpr h)
    refine Or.inr ⟨front.reverse, back.reverse, by simpa using hback, ?_⟩
    simpa using congrArg List.reverse hpath
  · exact Or.inl h

/-- No piece holds a slash. -/
theorem slash_notMem_of_mem (h : piece ∈ pathPieces path) : 47 ∉ piece := by
  induction path generalizing piece with
  | nil =>
    rw [List.mem_singleton.mp h]
    exact List.not_mem_nil
  | cons b path ih =>
    by_cases hb : b = 47
    · rw [hb, pathPieces_slash] at h
      rcases List.mem_cons.mp h with rfl | h
      · exact List.not_mem_nil
      · exact ih h
    · obtain ⟨first, more, hpath⟩ := List.exists_cons_of_ne_nil (pathPieces_ne_nil path)
      rw [pathPieces_cons hb hpath] at h
      rcases List.mem_cons.mp h with rfl | h
      · rw [List.mem_cons, not_or]
        exact ⟨Ne.symm hb, ih (hpath ▸ List.mem_cons_self)⟩
      · exact ih (hpath ▸ List.mem_cons_of_mem first h)

/-- Put together with slashes, the pieces are the path. -/
theorem intercalate_pathPieces (path : Bytes) : [47].intercalate (pathPieces path) = path := by
  induction path with
  | nil => rfl
  | cons b path ih =>
    obtain ⟨first, more, hpath⟩ := List.exists_cons_of_ne_nil (pathPieces_ne_nil path)
    by_cases hb : b = 47
    · rw [hb, pathPieces_slash, hpath, List.intercalate_cons_cons, ← hpath, ih]
      rfl
    · rw [hpath] at ih
      rw [pathPieces_cons hb hpath]
      cases more with
      | nil =>
        rw [List.intercalate_singleton] at ih ⊢
        rw [ih]
      | cons second more =>
        rw [List.intercalate_cons_cons] at ih ⊢
        rw [← ih]
        rfl

/-! ## Pieces that count -/

/-- The pieces of a path that count: those that are neither empty nor `.`. -/
def components (path : Bytes) : List Bytes :=
  (pathPieces path).filter fun piece => !piece.isEmpty && piece != [46]

theorem components_append_slash (p path : Bytes) :
    components (p ++ 47 :: path) = components p ++ components path := by
  rw [components, pathPieces_append_slash, List.filter_append]
  rfl

theorem components_solid (hs : 47 ∉ s) :
    components s = if s = [] ∨ s = [46] then [] else [s] := by
  rw [components, pathPieces_solid hs]
  by_cases hnil : s = []
  · simp [hnil]
  · by_cases hdot : s = [46]
    · simp [hdot]
    · simp [hnil, hdot]

/-- What follows the last name holds no piece that counts. -/
theorem components_append_padding (h : Padding t) (s : Bytes) :
    components (s ++ t) = components s := by
  induction h generalizing s with
  | nil => rw [List.append_nil]
  | slash _ ih =>
    have ht := ih []
    rw [List.nil_append] at ht
    rw [components_append_slash, ht]
    exact List.append_nil _
  | dot _ ih =>
    have ht := ih [46]
    rw [List.singleton_append] at ht
    rw [components_append_slash, ht]
    exact List.append_nil _

/-- A path that ends in a piece and what may follow it. -/
def EndsIn (path s : Bytes) : Prop :=
  ∃ t, Padding t ∧ (path = s ++ t ∨ ∃ p, path = p ++ 47 :: (s ++ t))

theorem EndsIn.append (h : EndsIn path s) (ht : Padding t) : EndsIn (path ++ t) s := by
  obtain ⟨t', ht', rfl | ⟨p, rfl⟩⟩ := h
  · exact ⟨t' ++ t, ht'.append ht, Or.inl (List.append_assoc _ _ _)⟩
  · exact ⟨t' ++ t, ht'.append ht, Or.inr ⟨p, by simp⟩⟩

/-- The last piece that counts, exactly. -/
theorem getLast?_components_iff :
    (components path).getLast? = some s ↔ s ≠ [] ∧ s ≠ [46] ∧ 47 ∉ s ∧ EndsIn path s := by
  constructor
  · intro h
    -- the induction drops the last piece if it does not count
    induction hn : path.length using Nat.strongRecOn generalizing path with
    | ind n ih =>
      rcases solid_or_split path with hsolid | ⟨p, last, hlast, rfl⟩
      · rw [components_solid hsolid] at h
        split_ifs at h with hcounts
        · cases h
        · cases h
          rw [not_or] at hcounts
          exact ⟨hcounts.1, hcounts.2, hsolid, [], .nil, Or.inl (List.append_nil _).symm⟩
      · rw [components_append_slash, components_solid hlast] at h
        split_ifs at h with hcounts
        · rw [List.append_nil] at h
          obtain ⟨hnil, hdot, hs, hends⟩ := ih p.length (by rw [← hn]; simp) h rfl
          have hpadding : Padding (47 :: last) := by
            rcases hcounts with rfl | rfl
            · exact .slash .nil
            · exact .dot .nil
          exact ⟨hnil, hdot, hs, hends.append hpadding⟩
        · rw [List.getLast?_concat] at h
          cases h
          rw [not_or] at hcounts
          exact ⟨hcounts.1, hcounts.2, hlast, [], .nil, Or.inr ⟨p, by rw [List.append_nil]⟩⟩
  · rintro ⟨hnil, hdot, hs, t, ht, rfl | ⟨p, rfl⟩⟩
    · rw [components_append_padding ht, components_solid hs, if_neg (by simp [hnil, hdot])]
      rfl
    · rw [components_append_slash, components_append_padding ht, components_solid hs,
        if_neg (by simp [hnil, hdot]), List.getLast?_concat]

theorem lastName?_eq (path : Bytes) :
    lastName? path = (components path).getLast?.filter (· ≠ [46, 46]) := by
  unfold lastName? components
  split
  · rename_i piece hpiece
    rw [hpiece, Option.filter_some]
    by_cases hdots : piece = [46, 46] <;> simp [hdots]
  · rename_i hnone
    rw [hnone]
    rfl

/-- Which paths have a last name. -/
theorem lastName?_eq_some_iff : lastName? path = some s ↔ IsName s ∧ EndsIn path s := by
  rw [lastName?_eq, Option.filter_eq_some_iff, getLast?_components_iff, decide_eq_true_eq]
  constructor
  · rintro ⟨⟨hnil, hdot, hs, hends⟩, hdots⟩
    exact ⟨⟨hnil, hs, hdot, hdots⟩, hends⟩
  · rintro ⟨hname, hends⟩
    exact ⟨⟨hname.ne_nil, hname.ne_dot, hname.slash_notMem, hends⟩, hname.ne_dots⟩

theorem lastName?_eq_none_iff :
    lastName? path = none ↔ components path = [] ∨ (components path).getLast? = some [46, 46] := by
  rw [lastName?_eq, ← List.getLast?_eq_none_iff]
  cases (components path).getLast? with
  | none => simp
  | some piece => simp

/-! ## Folders and tasks -/

namespace Folder

/-- A folder is named by its last name. -/
theorem name_ofPath_of_endsIn (hs : IsName s) (h : EndsIn path s) :
    (ofPath path).name = lossyText s := by
  rw [ofPath, lastName?_eq_some_iff.mpr ⟨hs, h⟩]
  rfl

/-- A folder without a last name is named by its whole path. -/
theorem name_ofPath_of_none (h : lastName? path = none) : (ofPath path).name = lossyText path := by
  rw [ofPath, h]
  rfl

/-- **A folder is named by the last name of its path,** whatever stands before it and with any
number of slashes and single dots after it. Every other path, in which no piece counts or the last
that does leads up, is the name of its folder as a whole. The path is kept as it was given, by the
folder and by its task, and there is one task for each folder, in order, under the folder's name. -/
theorem folders_named :
    (∀ p s t, IsName s → Padding t →
      (ofPath (p ++ 47 :: (s ++ t))).name = lossyText s ∧ (ofPath (s ++ t)).name = lossyText s) ∧
    (∀ path, (∀ s t, IsName s → Padding t → path ≠ s ++ t ∧ ∀ p, path ≠ p ++ 47 :: (s ++ t)) →
      (components path = [] ∨ (components path).getLast? = some [46, 46]) ∧
        (ofPath path).name = lossyText path) ∧
    (∀ path, components path = [] ∨ (components path).getLast? = some [46, 46] →
      ∀ s t, IsName s → Padding t → path ≠ s ++ t ∧ ∀ p, path ≠ p ++ 47 :: (s ++ t)) ∧
    (∀ path, [47].intercalate (pathPieces path) = path ∧ (∀ piece ∈ pathPieces path, 47 ∉ piece) ∧
      (ofPath path).path = path) ∧
    ∀ paths : List Bytes,
      (Task.provided (paths.map ofPath)).map (fun task => task.scope) = paths.map ofPath ∧
      (Task.provided (paths.map ofPath)).map (fun task => task.execution.cwd) = paths ∧
      (Task.provided (paths.map ofPath)).map (fun task => task.name) =
        paths.map fun path => "lint " ++ (ofPath path).name := by
  refine ⟨fun p s t hs ht => ?_, fun path h => ?_, fun path h s t hs ht => ?_, fun path => ?_,
    fun paths => ?_⟩
  · exact ⟨name_ofPath_of_endsIn hs ⟨t, ht, Or.inr ⟨p, rfl⟩⟩,
      name_ofPath_of_endsIn hs ⟨t, ht, Or.inl rfl⟩⟩
  · have hnone : lastName? path = none := by
      rw [Option.eq_none_iff_forall_ne_some]
      intro s hsome
      obtain ⟨hs, t, ht, hpath | ⟨p, hpath⟩⟩ := lastName?_eq_some_iff.mp hsome
      · exact (h s t hs ht).1 hpath
      · exact (h s t hs ht).2 p hpath
    exact ⟨lastName?_eq_none_iff.mp hnone, name_ofPath_of_none hnone⟩
  · have hnone := lastName?_eq_none_iff.mpr h
    have hends : ¬EndsIn path s := by
      intro hends
      rw [lastName?_eq_some_iff.mpr ⟨hs, hends⟩] at hnone
      cases hnone
    exact ⟨fun hpath => hends ⟨t, ht, Or.inl hpath⟩,
      fun p hpath => hends ⟨t, ht, Or.inr ⟨p, hpath⟩⟩⟩
  · exact ⟨intercalate_pathPieces path, fun _ => slash_notMem_of_mem, rfl⟩
  · simp [Task.provided, Task.make, Task.executionIn, Task.nameFor, ofPath, Function.comp_def]

/-- A folder whose name is not text, with much after it. -/
def padded : Bytes := textBytes "/work/../" ++ [0xFF, 97] ++ textBytes "//././"

theorem folders_named_padded :
    (ofPath padded).name = "\uFFFDa" ∧
      (ofPath (textBytes "/work/./..//")).name = "/work/./..//" := by
  obtain ⟨hnamed, -, -, -, -⟩ := folders_named
  constructor
  · refine (hnamed (textBytes "/work/..") [0xFF, 97] (textBytes "//././")
      ⟨by decide, by decide, by decide, by decide⟩ ?_).1.trans (by decide)
    exact .slash (.dot (.dot (.slash .nil)))
  · refine (folders_named.2.1 (textBytes "/work/./..//") ?_).2.trans (by decide)
    exact folders_named.2.2.1 _ (Or.inr (by decide))

end Folder

end LineLint
