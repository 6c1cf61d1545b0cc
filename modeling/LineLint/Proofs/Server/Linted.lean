import LineLint.Proofs.Documents.History
import LineLint.Proofs.Server.Handling
import LineLint.Proofs.Server.Lifecycle
import LineLint.Proofs.Uri.Rooted

/-!
# Which documents are checked

A document is checked if its URI has a local path. Other documents are kept track of, but no run is
ever started for them. What is asked of the URI is that its path starts with a slash and that it
names no other machine. Its scheme is not looked at, so that documents of schemes that have nothing
to do with files are checked as well if their paths look like those of files.

Results:

* `Documents.openDocument_isSome_iff`: which documents get a ticket when they are opened.
* `checked_of_session`: the checker is started on local paths.
* `unlinted_of_session`: no run is started for other documents.
* `lints_local_paths`: a document is checked exactly if its URI has a local path.
* `virtual_document_checked`: this does not make it a file.
-/

namespace LineLint

open Uri (parse splitScheme cleaned familyOf)

/-- Opening a document keeps track of it. It gets a ticket exactly if its URI has a local path. -/
theorem Documents.openDocument_isSome_iff (d : Documents) (u : Uri) :
    (d.openDocument u).1.isOpen u = true ∧
      ((d.openDocument u).2.isSome = true ↔ u.localPath.isSome = true) := by
  have hget : (d.set u ⟨u.localPath, none⟩).get? u = some ⟨u.localPath, none⟩ := by
    rw [get?_set, if_pos rfl]
  have hpath : ((d.set u ⟨u.localPath, none⟩).get? u).bind Document.path = u.localPath := by
    rw [hget]
    rfl
  constructor
  · refine ((issues_openDocument d u).isOpen_eq u).trans ?_
    rw [isOpen, hget]
    rfl
  · cases hp : u.localPath with
    | none =>
      rw [openDocument, request_none (hpath.trans hp)]
      exact Iff.rfl
    | some path =>
      rw [openDocument, request_some (hpath.trans hp)]
      exact iff_of_true rfl rfl

namespace Server

variable {s : Server} {perResource registers : Bool} {past : List (Moment Server Action Effect)}
  {m : Moment Server Action Effect} {r : ℕ} {path : Bytes} {maxLength : UInt32} {u : Uri}

/-- The checker is started on local paths, for runs whose tickets name them. -/
theorem checked_of_session (h : Session perResource registers past s) (hm : m ∈ past)
    (he : .check r path maxLength ∈ m.effects) :
    ∃ run, m.before.runs[r]? = some run ∧ run.ticket.uri.localPath = some path := by
  obtain ⟨i, hi⟩ := List.mem_iff_getElem?.mp hm
  obtain ⟨-, t, settings, hr, rfl, -⟩ := (moves_of_step (h.step_at hi)).check_cases he
  exact ⟨_, hr, (ticketed_of_session (h.take_at hi) r _ hr).2⟩

/-- A document without a local path has no run, and waits for none. -/
theorem unlinted_of_session (h : Session perResource registers past s) (hu : u.localPath = none) :
    (∀ run ∈ s.runs, run.ticket.uri ≠ u) ∧
      (s.documents.isOpen u = true → s.documents.state u = .idle) := by
  constructor
  · rintro run hrun rfl
    obtain ⟨r, hr⟩ := List.mem_iff_getElem?.mp hrun
    rw [(ticketed_of_session h r run hr).2] at hu
    cases hu
  · intro hopen
    obtain ⟨_, htrace⟩ := Handling.handling_of_session h
    have hattended := Handling.attended_of_trace htrace
    cases hs : s.documents.state u with
    | idle => rfl
    | closed =>
      rw [Documents.state_eq_closed_iff.mp hs] at hopen
      cases hopen
    | validating =>
      -- it would wait for a ticket that names a local path
      obtain ⟨n, hn⟩ := Documents.state_eq_validating_iff.mp hs
      obtain ⟨t, ht, rfl, -⟩ := hattended.awaited u n hn
      rw [(hattended.given t ((Handling.outstanding_sublist _).subset ht)).2] at hu
      cases hu

/-- **Documents with a local path are checked.** Every document that is opened is kept track of. It
gets tickets, when it is opened, saved or when the configuration changes, exactly if its URI has a
local path: its path starts with a slash, and it names no other machine. In every session the
checker is started for such documents only, and no run is ever started for the others. The scheme
plays no part in this. So a URI is that of a file whenever it gets a ticket exactly if it is that of
a file, or names another machine, or has no slash at the front of its path. URIs of files and of the
web always have this slash; in every other scheme, a URI has a local path if a single slash follows
the colon, and none if no slash does. -/
theorem lints_local_paths (u : Uri) :
    (∀ d : Documents, (d.openDocument u).1.isOpen u = true ∧
      ((d.openDocument u).2.isSome = true ↔ u.hostIsLocal = true ∧ u.Rooted)) ∧
    (∀ d : Documents, d.WellFormed →
      (∀ v, u ∈ (d.request v).2.toList.map Ticket.uri ↔
        u = v ∧ d.isOpen v = true ∧ v.hostIsLocal = true ∧ v.Rooted) ∧
      (u ∈ d.requestAll.2.map Ticket.uri ↔
        d.isOpen u = true ∧ u.hostIsLocal = true ∧ u.Rooted)) ∧
    (∀ perResource registers past s, Session perResource registers past s →
      s.documents.WellFormed ∧
      (∀ m ∈ past, ∀ r path maxLength, .check r path maxLength ∈ m.effects →
        ∃ run, m.before.runs[r]? = some run ∧ run.ticket.uri.localPath = some path ∧
          run.ticket.uri.hostIsLocal = true ∧ run.ticket.uri.Rooted) ∧
      (¬(u.hostIsLocal = true ∧ u.Rooted) → (∀ run ∈ s.runs, run.ticket.uri ≠ u) ∧
        (s.documents.isOpen u = true → s.documents.state u = .idle))) ∧
    ((∀ d : Documents, (d.openDocument u).2.isSome = true → u.scheme = "file") ↔
      u.scheme = "file" ∨ u.hostIsLocal = false ∨ ¬u.Rooted) ∧
    (∀ text, parse text = .ok u → familyOf u.scheme ≠ .other → u.Rooted) ∧
    ∀ text scheme rest, splitScheme (cleaned text.toList) = some (scheme, rest) →
      familyOf scheme = .other →
      (∀ more, rest = '/' :: more → more.head? ≠ some '/' →
        ∃ v, parse text = .ok v ∧ v.scheme = scheme ∧ v.hostIsLocal = true ∧ v.Rooted) ∧
      (rest.head? ≠ some '/' → ∃ v, parse text = .ok v ∧ v.scheme = scheme ∧ ¬v.Rooted) := by
  have hopen : ∀ d : Documents, (d.openDocument u).1.isOpen u = true ∧
      ((d.openDocument u).2.isSome = true ↔ u.hostIsLocal = true ∧ u.Rooted) := by
    intro d
    rw [← Uri.localPath_isSome_iff]
    exact d.openDocument_isSome_iff u
  refine ⟨hopen, fun d hd => ⟨fun v => ?_, ?_⟩,
    fun perResource registers past s h => ⟨wellFormed_of_session h, ?_, ?_⟩, ⟨?_, ?_⟩,
    fun text hu hf => Uri.rooted_of_parse hu hf, fun text scheme rest htext hf => ⟨?_, ?_⟩⟩
  · rw [← Uri.localPath_isSome_iff]
    exact Documents.mem_uris_request_iff hd
  · rw [← Uri.localPath_isSome_iff]
    exact Documents.mem_uris_requestAll_iff hd
  · intro m hm r path maxLength he
    obtain ⟨run, hr, hpath⟩ := checked_of_session h hm he
    exact ⟨run, hr, hpath, Uri.localPath_isSome_iff.mp (by rw [hpath]; rfl)⟩
  · intro hu
    rw [← Uri.localPath_isSome_iff, Option.not_isSome_iff_eq_none] at hu
    exact unlinted_of_session h hu
  · intro hfile
    by_cases hhost : u.hostIsLocal = true
    · by_cases hrooted : u.Rooted
      · exact Or.inl (hfile Documents.empty ((hopen _).2.mpr ⟨hhost, hrooted⟩))
      · exact Or.inr (Or.inr hrooted)
    · exact Or.inr (Or.inl (Bool.eq_false_iff.mpr hhost))
  · rintro (hfile | hhost | hrooted) d hticket
    · exact hfile
    · rw [((hopen d).2.mp hticket).1] at hhost
      cases hhost
    · exact absurd ((hopen d).2.mp hticket).2 hrooted
  · rintro more rfl hmore
    exact Uri.parse_slash htext hf hmore
  · exact Uri.parse_opaque htext hf

/-- A document of a scheme that has nothing to do with files. -/
def virtualDocument : Uri := ⟨"git", none, "/proj/a.go", none, none⟩

/-- It is opened, and its run is taken as far as the checker. -/
def misread : List (Moment Server Action Effect) × Server :=
  replay step (initial.introduced false false)
    [.didOpen virtualDocument, .start 0, .ask 0, .check 0]

theorem lints_local_paths_misread :
    (∃ m ∈ misread.1, .check 0 (textBytes "/proj/a.go") 80 ∈ m.effects) ∧
      virtualDocument.hostIsLocal = true ∧ virtualDocument.Rooted ∧
      ∃ u, parse "git:/proj/a.go" = .ok u ∧ u.scheme = "git" ∧ u.hostIsLocal = true ∧ u.Rooted := by
  obtain ⟨-, -, hsession, -, -, hother⟩ := lints_local_paths virtualDocument
  have h : Session false false misread.1 misread.2 := replay_trace _ _ _
  have hm : ∃ m, misread.1[3]? = some m ∧ .check 0 (textBytes "/proj/a.go") 80 ∈ m.effects ∧
      m.before.runs[0]?.map (fun run => run.ticket.uri) = some virtualDocument :=
    ⟨_, rfl, List.mem_singleton.mpr rfl, rfl⟩
  obtain ⟨m, hm, he, huri⟩ := hm
  obtain ⟨run, hrun, -, hhost, hrooted⟩ :=
    (hsession _ _ _ _ h).2.1 m (List.mem_of_getElem? hm) 0 _ _ he
  have hsame : run.ticket.uri = virtualDocument := by
    rw [hrun] at huri
    exact Option.some.inj huri
  have htext : splitScheme (cleaned "git:/proj/a.go".toList) =
      some ("git", "/proj/a.go".toList) := by
    decide
  exact ⟨⟨m, List.mem_of_getElem? hm, he⟩, hsame ▸ hhost, hsame ▸ hrooted,
    (hother _ _ _ htext (by decide)).1 "proj/a.go".toList rfl (by decide)⟩

/-- Not only files are checked: a document whose scheme is not that of files gets a ticket, and the
checker is started on a local path for it. -/
theorem virtual_document_checked :
    parse "git:/proj/a.go" = .ok virtualDocument ∧ virtualDocument.scheme ≠ "file" ∧
      (Documents.empty.openDocument virtualDocument).2 =
        some ⟨virtualDocument, textBytes "/proj/a.go", 1⟩ ∧
      ¬∀ (d : Documents) u, (d.openDocument u).2.isSome = true → u.scheme = "file" := by
  have hticket : (Documents.empty.openDocument virtualDocument).2 =
      some ⟨virtualDocument, textBytes "/proj/a.go", 1⟩ := by decide
  refine ⟨by decide, by decide, hticket, fun hall => ?_⟩
  exact absurd (hall Documents.empty virtualDocument (by rw [hticket]; rfl)) (by decide)

end Server

end LineLint
