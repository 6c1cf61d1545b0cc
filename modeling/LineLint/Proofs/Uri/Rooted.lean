import LineLint.Uri.Basic
import Mathlib.Data.List.Basic

/-!
# URIs with a local path

A URI has a local path if its path starts with a slash and it names no other machine. The scheme
plays no part in this. Reading a URI keeps the slash at the front of its path, whatever dot segments
follow, so that it can be seen from the text which URIs have one.

* `Rooted` — the path starts with a slash.

Results:

* `localPath_isSome_iff`: which URIs have a local path.
* `head?_readPath`: a path that is begun with a slash keeps it.
* `rooted_of_parse`: the URIs of files and of the web are rooted.
* `parse_slash`: in any other scheme a single slash makes a local path.
* `parse_opaque`: without a slash there is none.
-/

namespace LineLint.Uri

variable {u : Uri} {family : Family} {path s rest : List Char} {p : PathText} {text scheme : String}

/-- The path starts with a slash. -/
def Rooted (u : Uri) : Prop := u.path.toList.head? = some '/'

instance (u : Uri) : Decidable u.Rooted := inferInstanceAs (Decidable (_ = _))

/-- Which URIs have a local path. -/
theorem localPath_isSome_iff : u.localPath.isSome = true ↔ u.hostIsLocal = true ∧ u.Rooted := by
  unfold localPath Rooted
  split_ifs with h
  · exact iff_of_true rfl h
  · exact iff_of_false nofun h

/-! ## Paths that start with a slash -/

theorem head?_throughLastSlash (h : path.head? = some '/') :
    (throughLastSlash path).head? = some '/' := by
  obtain ⟨tail, rfl⟩ := List.head?_eq_some_iff.mp h
  rw [throughLastSlash, List.reverse_cons, List.dropWhile_append]
  split_ifs
  · rfl
  · simp

theorem head?_dropSegment (h : path.head? = some '/') :
    (dropSegment family path).head? = some '/' := by
  unfold dropSegment
  split_ifs
  · exact h
  · exact h
  · exact head?_throughLastSlash h

theorem head?_append_left {c : Char} (h : path.head? = some c) (more : List Char) :
    (path ++ more).head? = some c := by
  rw [List.head?_append, h]
  rfl

theorem head?_withSlash (h : path.head? = some '/') : (withSlash path).head? = some '/' := by
  unfold withSlash
  split_ifs
  · exact h
  · exact head?_append_left h _

/-- Going up never drops the first slash. -/
theorem head?_goUp (h : path.head? = some '/') (slash : Bool) :
    (goUp family path slash).head? = some '/' := by
  have hbase : (if path.getLast? = some '/' ∧ lastSlashRemovable path then path.dropLast
      else path).head? = some '/' := by
    split_ifs with hremovable
    · -- another slash stands before the last one
      obtain ⟨tail, rfl⟩ := List.head?_eq_some_iff.mp h
      have hmore := hremovable.2
      simp only [lastSlashRemovable, Bool.and_eq_true] at hmore
      cases tail with
      | nil => cases hmore.1
      | cons c tail => rfl
    · exact h
  unfold goUp
  dsimp only
  generalize (if path.getLast? = some '/' ∧ lastSlashRemovable path then path.dropLast
    else path) = base at hbase
  split_ifs
  · exact head?_withSlash (head?_dropSegment hbase)
  · exact head?_dropSegment hbase

theorem head?_add (h : p.path.head? = some '/') (segment : List Char) (slash : Bool) :
    (p.add family segment slash).path.head? = some '/' := by
  unfold PathText.add
  dsimp only
  generalize (if slash then ['/'] else []) = slashText
  split_ifs
  · exact head?_goUp h slash
  · exact head?_withSlash h
  · exact head?_append_left (head?_append_left h _) _
  · exact head?_append_left (head?_append_left h _) _

theorem head?_readSegments (s : List Char) : ∀ (p : PathText) (segment : List Char),
    p.path.head? = some '/' → (readSegments family p segment s).1.path.head? = some '/' := by
  induction s with
  | nil => intro p segment h; exact head?_add h segment false
  | cons c s ih =>
    intro p segment h
    unfold readSegments
    split_ifs
    · exact ih _ [] (head?_add h segment true)
    · exact head?_add h segment false
    · exact ih p _ h

/-- A path that is begun with a slash keeps it. -/
theorem head?_readPath (h : p.path.head? = some '/') (s : List Char) :
    (readPath family p s).1.path.head? = some '/' := by
  unfold readPath
  dsimp only
  split_ifs
  · rfl
  · exact head?_readSegments s p [] h

theorem rooted_assemble {authority : Option Authority} (h : path.head? = some '/') :
    (assemble family scheme authority path rest).Rooted := by
  unfold assemble Rooted
  rw [String.toList_ofList]
  exact h

/-! ## Reading -/

theorem rooted_readFile (h : readFile s = .ok u) : u.Rooted ∧ u.scheme = "file" := by
  unfold readFile at h
  extract_lets file noHost at h
  have hfile : ∀ host p s rest, (file host (readPath .file p s).1 rest).Rooted ∧
      (file host (readPath .file p s).1 rest).scheme = "file" :=
    fun _ _ _ _ => ⟨rooted_assemble rfl, rfl⟩
  have hnoHost : ∀ start s, (noHost start s).Rooted ∧ (noHost start s).scheme = "file" :=
    fun _ _ => ⟨rooted_assemble rfl, rfl⟩
  clear_value file noHost
  split at h
  · dsimp only at h
    split_ifs at h
    · cases h
      exact hnoHost _ _
    · cases h
      exact hnoHost _ _
    · simp only [bind, Except.bind] at h
      split at h
      · cases h
      · split_ifs at h
        · cases h
          exact hnoHost _ _
        · cases h
          exact hfile _ _ _ _
    · cases h
      exact hnoHost _ _
    · cases h
      exact hnoHost _ _
  · split_ifs at h <;> cases h <;> exact hnoHost _ _
  · cases h
    exact hnoHost _ _

theorem head?_pathAfterAuthority (hf : family.isSpecial = true) (s : List Char) :
    (pathAfterAuthority family s).1.head? = some '/' := by
  unfold pathAfterAuthority
  rw [if_pos hf]
  split
  · split_ifs <;> exact head?_readPath rfl _
  · exact head?_readPath rfl _

/-- A URI with an authority, read after its two slashes. -/
theorem readAuthority_eq (h : readAuthority family scheme s = .ok u) :
    ∃ authority s, u = assemble family scheme (some authority) (pathAfterAuthority family s).1
      (pathAfterAuthority family s).2 := by
  unfold readAuthority at h
  simp only [bind, Except.bind] at h
  -- every way but one ends in an error
  repeat' split at h
  all_goals cases h
  all_goals exact ⟨_, _, rfl⟩

theorem scheme_readOther (h : readOther scheme s = .ok u) : u.scheme = scheme := by
  unfold readOther at h
  split at h
  · obtain ⟨authority, rest, rfl⟩ := readAuthority_eq h
    rfl
  · cases h
    rfl
  · cases h
    rfl

/-- The URIs of files and of the web are rooted. -/
theorem rooted_of_parse (h : parse text = .ok u) (hf : familyOf u.scheme ≠ .other) : u.Rooted := by
  unfold parse at h
  split at h
  · cases h
  · rename_i scheme rest _
    split at h
    · exact (rooted_readFile h).1
    · obtain ⟨authority, s, rfl⟩ := readAuthority_eq h
      exact rooted_assemble (head?_pathAfterAuthority rfl s)
    · rename_i hother
      rw [scheme_readOther h] at hf
      exact absurd hother hf

/-- No escape starts with a slash. -/
theorem head?_of_escapeText {set : EscapeSet} (h : (escapeText set s).head? = some '/') :
    s.head? = some '/' := by
  cases s with
  | nil => cases h
  | cons c s =>
    rw [escapeText, List.flatMap_cons, escapeChar] at h
    split_ifs at h
    · exact h
    · have hsome : String.utf8EncodeChar c ≠ [] := String.utf8EncodeChar_ne_nil
      obtain ⟨b, bytes, hbytes⟩ := List.exists_cons_of_ne_nil hsome
      rw [hbytes] at h
      cases h

/-- In any scheme but those of files and of the web, a single slash makes a local path. -/
theorem parse_slash (h : splitScheme (cleaned text.toList) = some (scheme, '/' :: rest))
    (hf : familyOf scheme = .other) (hrest : rest.head? ≠ some '/') :
    ∃ u, parse text = .ok u ∧ u.scheme = scheme ∧ u.hostIsLocal = true ∧ u.Rooted := by
  refine ⟨assemble .other scheme none (readPath .other ⟨['/'], false⟩ rest).1.path
    (readPath .other ⟨['/'], false⟩ rest).2, ?_, rfl, rfl,
    rooted_assemble (head?_readPath rfl rest)⟩
  simp only [parse, h, hf, readOther]
  split
  · rename_i heq
    cases heq
    exact absurd rfl hrest
  · rename_i heq
    cases heq
    rfl
  · rename_i _ hnot
    exact absurd rfl (hnot rest)

/-- Without a slash there is none. -/
theorem parse_opaque (h : splitScheme (cleaned text.toList) = some (scheme, rest))
    (hf : familyOf scheme = .other) (hrest : rest.head? ≠ some '/') :
    ∃ u, parse text = .ok u ∧ u.scheme = scheme ∧ ¬u.Rooted := by
  let part := rest.takeWhile fun c => !(c == '?' || c == '#')
  refine ⟨assemble .other scheme none (escapeText controlSet part)
    (rest.dropWhile fun c => !(c == '?' || c == '#')), ?_, rfl, ?_⟩
  · simp only [parse, h, hf, readOther]
    split
    · exact absurd rfl hrest
    · exact absurd rfl hrest
    · rfl
  · intro hrooted
    unfold assemble Rooted at hrooted
    rw [String.toList_ofList] at hrooted
    have hpart := head?_of_escapeText hrooted
    rw [List.head?_takeWhile] at hpart
    exact hrest (Option.filter_eq_some_iff.mp hpart).1

end LineLint.Uri
