import LineLint.Host.Machine
import LineLint.Proofs.Documents.Table
import LineLint.Proofs.Text.Utf8

/-!
# Arguments of the checker

The path of a document comes from its URI, in which any byte can be written as an escape. The path
still starts with a slash, and it is an argument of its own, so that it is never taken for an option
or for more than one argument. The one byte that gets in the way is NUL: no argument can hold it, a
mark stands for the argument, and the checker is not started at all.

* `Checker.NulFree` — a checker whose program and leading arguments can be handed to the system.

Results:

* `Uri.head?_localPath`: local paths start with a slash, whatever escapes are in the URI.
* `Documents.localPath_of_openDocument`: tickets hold the local path of their document.
* `Checker.argv_eq`, `Checker.argv_inj`: the argument list, and what can be told from it.
* `Host.Machine.check_nul`: what becomes of a NUL byte.
* `Checker.argv_of_ticket`: the arguments with which documents are checked.
* `Checker.nul_path_marked`: the path of a document is not always among them.
-/

namespace LineLint

variable {u : Uri} {d : Documents} {t : Ticket} {path path' bytes : Bytes} {c : Checker}
  {maxLength maxLength' : UInt32}

/-! ## Paths of documents -/

/-- A local path starts with a slash, whatever escapes are in the URI. -/
theorem Uri.head?_localPath (h : u.localPath = some path) : path.head? = some 47 := by
  unfold localPath at h
  split_ifs at h with hlocal
  cases h
  obtain ⟨rest, hrest⟩ := List.head?_eq_some_iff.mp hlocal.2
  have hpath : unescape u.path.toList = 47 :: unescape rest := by
    rw [hrest]
    rfl
  split_ifs <;> rw [hpath] <;> rfl

/-- A ticket that a document gets when it is opened holds its local path. -/
theorem Documents.localPath_of_openDocument (h : (d.openDocument u).2 = some t) :
    u.localPath = some t.path := by
  have ht : t ∈ (d.openDocument u).2.toList := by
    rw [h]
    exact List.mem_singleton.mpr rfl
  have hpath := (issues_openDocument d u).paths t ht
  rw [uri_request ht, get?_set, if_pos rfl] at hpath
  exact hpath

/-! ## Strings without NUL bytes -/

/-- A mark stands for a string that holds a NUL byte. -/
theorem handedOver_eq (bytes : Bytes) :
    handedOver bytes = if 0 ∈ bytes then textBytes "<string-with-nul>" else bytes := by
  simp only [handedOver, List.contains_iff_mem]

theorem handedOver_of_notMem (h : 0 ∉ bytes) : handedOver bytes = bytes :=
  if_neg (by simpa using h)

theorem nul_notMem_option : (0 : UInt8) ∉ textBytes "-l" := by decide

/-- The bytes of a digit do not include NUL. -/
theorem nul_notMem_of_isDigit {a : Char} (h : a.isDigit = true) : 0 ∉ String.utf8EncodeChar a := by
  simp only [Char.isDigit, Bool.and_eq_true, decide_eq_true_eq] at h
  have hlow : 48 ≤ a.val.toNat := h.1
  have hhigh : a.val.toNat ≤ 57 := h.2
  have hsize : a.val.toNat < UInt8.size := Nat.lt_of_le_of_lt hhigh (by decide)
  rw [String.utf8EncodeChar, if_pos (by omega), List.mem_singleton]
  intro hzero
  have hnat := congrArg UInt8.toNat hzero
  rw [UInt8.toNat_ofNat_of_lt' hsize] at hnat
  change 0 = a.val.toNat at hnat
  omega

theorem nul_notMem_decimal (n : ℕ) : (0 : UInt8) ∉ textBytes (toString n) := by
  intro hmem
  rw [textBytes, Nat.toString_eq_ofList_toDigits, String.toList_ofList, Text.encode,
    List.mem_flatMap] at hmem
  obtain ⟨a, ha, hzero⟩ := hmem
  exact nul_notMem_of_isDigit (Nat.isDigit_of_mem_toDigits (by decide) (by decide) ha) hzero

theorem textBytes_injective : Function.Injective textBytes := by
  intro a b h
  have hlist : some a.toList = some b.toList := by
    rw [← Text.decode?_encode a.toList, ← Text.decode?_encode b.toList]
    exact congrArg Text.decode? h
  exact String.toList_inj.mp (Option.some.inj hlist)

/-- A limit can be told from its digits. -/
theorem decimal_injective {n k : ℕ} (h : textBytes (toString n) = textBytes (toString k)) :
    n = k := by
  have hdigits := textBytes_injective h
  rw [Nat.toString_eq_ofList_toDigits, Nat.toString_eq_ofList_toDigits,
    String.ofList_inj] at hdigits
  rw [← Nat.ofDigitChars_ten_toDigits (n := n), hdigits, Nat.ofDigitChars_ten_toDigits]

namespace Checker

/-! ## Argument lists -/

/-- A checker whose program and leading arguments can be handed to the system. -/
def NulFree (c : Checker) : Prop := ∀ text ∈ c.program :: c.leading, 0 ∉ textBytes text

instance (c : Checker) : Decidable c.NulFree := List.decidableBAll _ _

/-- The end of an argument list does not depend on what stands before it. -/
theorem argv_append (c : Checker) (maxLength : UInt32) (path : Bytes) :
    c.argv maxLength path =
      (textBytes c.program :: c.leading.map textBytes).map handedOver ++
        [textBytes "-l", textBytes (toString maxLength.toNat), handedOver path] := by
  rw [argv, arguments, ← List.cons_append, List.map_append]
  simp only [List.map_cons, List.map_nil, handedOver_of_notMem nul_notMem_option,
    handedOver_of_notMem (nul_notMem_decimal _)]

theorem argv_eq (hc : c.NulFree) (hpath : 0 ∉ path) :
    c.argv maxLength path =
      textBytes c.program :: (c.leading.map textBytes ++
        [textBytes "-l", textBytes (toString maxLength.toNat), path]) := by
  have hkept : (textBytes c.program :: c.leading.map textBytes).map handedOver =
      textBytes c.program :: c.leading.map textBytes := by
    rw [← List.map_cons, List.map_map]
    apply List.map_congr_left
    intro text htext
    exact handedOver_of_notMem (hc text htext)
  rw [argv_append, hkept, handedOver_of_notMem hpath, List.cons_append]

theorem getLast?_argv (hpath : 0 ∉ path) : (c.argv maxLength path).getLast? = some path := by
  rw [argv_append, handedOver_of_notMem hpath, List.getLast?_append]
  rfl

/-- Limit and path can be told from the argument list. -/
theorem argv_inj (hpath : 0 ∉ path) (hpath' : 0 ∉ path') :
    c.argv maxLength path = c.argv maxLength' path' ↔ maxLength = maxLength' ∧ path = path' := by
  constructor
  · intro h
    rw [argv_append, argv_append, handedOver_of_notMem hpath, handedOver_of_notMem hpath'] at h
    have hend := List.append_cancel_left h
    simp only [List.cons.injEq, true_and, and_true] at hend
    exact ⟨UInt32.toNat_inj.mp (decimal_injective hend.1), hend.2⟩
  · rintro ⟨rfl, rfl⟩
    rfl

end Checker

/-! ## NUL bytes -/

/-- A program is not started if one of its strings holds a NUL byte. -/
theorem Host.Machine.check_nul (m : Host.Machine) (h : 0 ∈ path ∨ ¬c.NulFree) :
    m.check c maxLength path = (m, .refused .nulByte) := by
  have hmem : ∃ bytes ∈ textBytes c.program :: c.arguments maxLength path, 0 ∈ bytes := by
    rcases h with hpath | hc
    · exact ⟨path, by simp [Checker.arguments], hpath⟩
    · simp only [Checker.NulFree, not_forall, not_not] at hc
      obtain ⟨text, htext, hzero⟩ := hc
      refine ⟨textBytes text, ?_, hzero⟩
      rcases List.mem_cons.mp htext with rfl | htext
      · exact List.mem_cons_self
      · exact List.mem_cons_of_mem _ (List.mem_append_left _ (List.mem_map_of_mem htext))
  have hany : ((textBytes c.program :: c.arguments maxLength path) ++
      (none : Option Bytes).toList).any (fun bytes => bytes.contains 0) = true := by
    rw [Option.toList_none, List.append_nil, List.any_eq_true]
    obtain ⟨bytes, hbytes, hzero⟩ := hmem
    exact ⟨bytes, hbytes, List.contains_iff_mem.mpr hzero⟩
  simp only [check, start, prepare, hany, if_true]

namespace Checker

/-- **A URI cannot bring in arguments of its own.** The path of a ticket starts with a slash.
Without a NUL byte it is the last argument as it is, and without NUL bytes in the configuration the
list is the program, the leading arguments, the limit after its option, and this path. Two lists for
paths without NUL bytes are the same just if limit and path are. With a NUL byte anywhere, the
checker is not started, and the run fails; the list has a mark for each string with such a byte and
everything else as it is. -/
theorem argv_of_ticket :
    (∀ (d : Documents) (u : Uri) (t : Ticket), (d.openDocument u).2 = some t →
      u.localPath = some t.path ∧ t.path.head? = some 47 ∧
      ∀ (c : Checker) (maxLength : UInt32), 0 ∉ t.path →
        (c.argv maxLength t.path).getLast? = some t.path ∧
        (c.NulFree → c.argv maxLength t.path =
          textBytes c.program :: (c.leading.map textBytes ++
            [textBytes "-l", textBytes (toString maxLength.toNat), t.path]))) ∧
    (∀ (c : Checker) (maxLength maxLength' : UInt32) (path path' : Bytes),
      0 ∉ path → 0 ∉ path' →
      (c.argv maxLength path = c.argv maxLength' path' ↔
        maxLength = maxLength' ∧ path = path')) ∧
    (∀ (m : Host.Machine) (c : Checker) (maxLength : UInt32) (path : Bytes),
      0 ∈ path ∨ ¬c.NulFree →
      m.check c maxLength path = (m, .refused .nulByte) ∧
        c.conclude (m.check c maxLength path).2 = .error (.spawn c.program .nulByte)) ∧
    (∀ (c : Checker) (maxLength : UInt32) (path : Bytes), c.argv maxLength path =
      (textBytes c.program :: c.leading.map textBytes).map handedOver ++
        [textBytes "-l", textBytes (toString maxLength.toNat), handedOver path]) ∧
    ∀ bytes, handedOver bytes = if 0 ∈ bytes then textBytes "<string-with-nul>" else bytes := by
  refine ⟨fun d u t h => ?_, fun c maxLength maxLength' path path' => argv_inj,
    fun m c maxLength path h => ?_, argv_append, handedOver_eq⟩
  · have hpath := Documents.localPath_of_openDocument h
    exact ⟨hpath, Uri.head?_localPath hpath,
      fun c maxLength hnul => ⟨getLast?_argv hnul, fun hc => argv_eq hc hnul⟩⟩
  · rw [m.check_nul h]
    exact ⟨rfl, rfl⟩

/-- A document whose path looks like options, quotes and lines. -/
def dashedDocument : Uri := ⟨"file", some ⟨"", .empty, none⟩, "/%2Dl%20%220%0A%2F%FF", none, none⟩

theorem argv_of_ticket_dashed :
    Uri.parse "file:///%2Dl%20%220%0A%2F%FF" = .ok dashedDocument ∧
    (∃ t, (Documents.empty.openDocument dashedDocument).2 = some t ∧ t.path.head? = some 47 ∧
      Checker.standard.argv 80 t.path =
        [textBytes "lll", textBytes "-l", textBytes "80",
          [47, 45, 108, 32, 34, 48, 10, 47, 255]]) ∧
    Checker.standard.argv 80 [47, 97] ≠ Checker.standard.argv 8 [47, 97] ∧
    Checker.standard.conclude ((Host.Machine.standard "/").check standard 80 [47, 0]).2 =
      .error (.spawn "lll" .nulByte) ∧
    Checker.standard.argv 80 [47, 0] =
      [textBytes "lll", textBytes "-l", textBytes "80", textBytes "<string-with-nul>"] := by
  obtain ⟨hticket, hsame, hnul, hlist, hmark⟩ := argv_of_ticket
  refine ⟨by decide, ?_, ?_, (hnul _ _ _ _ (Or.inl (by decide))).2, ?_⟩
  · obtain ⟨-, hhead, hargv⟩ := hticket Documents.empty dashedDocument
      ⟨dashedDocument, [47, 45, 108, 32, 34, 48, 10, 47, 255], 1⟩ (by decide)
    exact ⟨_, by decide, hhead, (hargv standard 80 (by decide)).2 (by decide)⟩
  · intro h
    exact absurd ((hsame _ _ _ _ _ (by decide) (by decide)).mp h).1 (by decide)
  · rw [hlist, hmark [47, 0], if_pos (by decide)]
    decide

/-- A document with a NUL byte in its path. -/
def nulDocument : Uri := ⟨"file", some ⟨"", .empty, none⟩, "/a%00b", none, none⟩

/-- The path of a document is not always the last argument: with a NUL byte in it, a mark stands in
its place, which does not start with a slash and is the same for all such paths. -/
theorem nul_path_marked :
    Uri.parse "file:///a%00b" = .ok nulDocument ∧
    (Documents.empty.openDocument nulDocument).2 = some ⟨nulDocument, [47, 97, 0, 98], 1⟩ ∧
    (standard.argv 80 [47, 97, 0, 98]).getLast? = some (textBytes "<string-with-nul>") ∧
    (textBytes "<string-with-nul>").head? ≠ some 47 ∧
    standard.argv 80 [47, 97, 0, 98] = standard.argv 80 [47, 0] ∧
    ¬∀ (d : Documents) (u : Uri) (t : Ticket) (c : Checker) (maxLength : UInt32),
      (d.openDocument u).2 = some t → (c.argv maxLength t.path).getLast? = some t.path := by
  have hticket : (Documents.empty.openDocument nulDocument).2 =
      some ⟨nulDocument, [47, 97, 0, 98], 1⟩ := by decide
  refine ⟨by decide, hticket, by decide, by decide, by decide, fun hall => ?_⟩
  exact absurd (hall _ _ _ standard 80 hticket) (by decide)

end Checker

end LineLint
