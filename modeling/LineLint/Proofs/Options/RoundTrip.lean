import LineLint.Options.Parse
import LineLint.Proofs.Text.Utf8
import Mathlib.Data.List.TakeWhile

/-!
# Options that are written and read back

The arguments that ask for given options are read as just these options. What a value looks like
does not matter, as long as it stands where it is taken as it is: behind an equals sign, after an
option that takes anything, or after the mark `--`.

* `Command.paths` — the paths that a command is given.
* `Scan.of` — a scan that has settled given entries, and nothing else.
* `Scan.Ready` — a scan between two arguments, which settles to given entries.
* `Grammar.Offers` — an option that can be given by its name.

Results:

* `Scan.Ready.scan_assigned`, `Scan.Ready.scan_flag`, `Scan.Ready.scan_pair`: what one option does
  to a scan.
* `Scan.Ready.scan_pairs`, `scan_marked`: what any number of values does.
* `subcommand_tasks`, `subcommand_resolveTask`: the subcommands are read back.
* `parse_arguments`: reading gives back what was asked for.
-/

namespace LineLint

/-- The paths that a command is given. -/
def Command.paths : Command → List Bytes
  | serve => []
  | tasks folders _ => folders
  | resolveTask _ folder _ => folder.toList

namespace Options

variable {g : Grammar} {spec : OptionSpec} {place : Positional} {s s' : Scan}
  {entries : List (String × Bytes)} {arg value : Bytes} {values : List Bytes}

/-! ## Text and numbers -/

/-- Text is read back from its bytes. -/
theorem text?_textBytes (s : String) : text? (textBytes s) = some s := by
  rw [text?, textBytes, Text.decode?_encode, Option.map_some, String.ofList_toList]

theorem checkText_textBytes (s : String) : checkText (textBytes s) = none := by
  rw [checkText, text?_textBytes]
  rfl

theorem withoutPlus_toDigits (n : ℕ) : withoutPlus (Nat.toDigits 10 n) = Nat.toDigits 10 n := by
  unfold withoutPlus
  split
  · rename_i rest hplus
    have hdigit : Char.isDigit '+' = true :=
      Nat.isDigit_of_mem_toDigits (by decide) (by decide) (hplus ▸ List.mem_cons_self)
    exact absurd hdigit (by decide)
  · rfl

/-- A number of 64 bits is read back from its digits. -/
theorem number?_toString {n : ℕ} (h : n ≤ Nat.pow 2 64 - 1) : number? (toString n) = some n := by
  have hlt : n < Nat.pow 2 64 := lt_of_le_of_lt h (by decide)
  have hall : (Nat.toDigits 10 n).all Char.isDigit = true :=
    List.all_eq_true.mpr fun c hc => Nat.isDigit_of_mem_toDigits (by decide) (by decide) hc
  unfold number?
  rw [Nat.toString_eq_ofList_toDigits, String.toList_ofList, withoutPlus_toDigits]
  dsimp only
  rw [hall, Nat.ofDigitChars_ten_toDigits, if_pos hlt, if_neg]
  simp [Nat.toDigits_ne_nil]

theorem checkNumber_toString {n : ℕ} (h : n ≤ Nat.pow 2 64 - 1) :
    checkNumber (textBytes (toString n)) = none := by
  rw [checkNumber, text?_textBytes]
  dsimp only
  rw [number?_toString h]
  rfl

/-! ## Entries -/

/-- Values under one name. -/
def keyed (name : String) (values : List Bytes) : List (String × Bytes) :=
  values.map fun v => (name, v)

/-- A scan that has settled given entries, and nothing else. -/
def Scan.of (entries : List (String × Bytes)) : Scan := ⟨entries, none, none, false, false⟩

@[simp]
theorem values_append (a b : List (String × Bytes)) (name : String) :
    (Scan.of (a ++ b)).values name = (Scan.of a).values name ++ (Scan.of b).values name := by
  simp [Scan.values, Scan.of]

@[simp]
theorem values_keyed (key name : String) (values : List Bytes) :
    (Scan.of (keyed key values)).values name = if key = name then values else [] := by
  split_ifs with h <;> simp [Scan.values, Scan.of, keyed, List.filter_map, Function.comp_def, h]

/-! ## Forms of arguments -/

/-- An option named alone. -/
def named (spec : OptionSpec) : Bytes := dash :: dash :: textBytes spec.name

/-- An option with a value behind an equals sign. -/
def assigned (spec : OptionSpec) (value : Bytes) : Bytes :=
  dash :: dash :: (textBytes spec.name ++ equals :: value)

/-- No subcommand starts with a dash. -/
def Grammar.Dashless (g : Grammar) : Prop :=
  ∀ name ∈ g.subcommands, (textBytes name).head? ≠ some dash

instance (g : Grammar) : Decidable g.Dashless :=
  List.decidableBAll _ g.subcommands

/-- An option that can be given by its name. -/
structure Grammar.Offers (g : Grammar) (spec : OptionSpec) : Prop where
  found : g.option? (textBytes spec.name) = some spec
  ne_help : textBytes spec.name ≠ textBytes "help"
  ne_version : textBytes spec.name ≠ textBytes "version"
  ne_nil : textBytes spec.name ≠ []
  unassigned : (textBytes spec.name).all (· != equals) = true
  dashless : g.Dashless

theorem formOf_named (h : g.Offers spec) :
    formOf (named spec) = .long (textBytes spec.name) none := by
  have hrest : (textBytes spec.name).dropWhile (· != equals) = [] :=
    List.dropWhile_eq_nil_iff.mpr (List.all_eq_true.mp h.unassigned)
  simp [formOf, named, longForm, h.ne_nil, hrest]

theorem formOf_assigned (h : g.Offers spec) (value : Bytes) :
    formOf (assigned spec value) = .long (textBytes spec.name) (some value) := by
  have hname : ∀ b ∈ textBytes spec.name, (b != equals) = true := List.all_eq_true.mp h.unassigned
  simp [formOf, assigned, longForm, List.dropWhile_append_of_pos hname,
    List.takeWhile_append_of_pos hname]

/-- What starts with a dash is no subcommand. -/
theorem Grammar.Dashless.subcommand?_eq (h : g.Dashless) (hdash : arg.head? = some dash) :
    g.subcommand? arg = none := by
  rw [Grammar.subcommand?, List.find?_eq_none]
  intro name hname heq
  have hbytes : textBytes name = arg := by simpa using heq
  exact h name hname (hbytes ▸ hdash)

/-! ## Scanning options -/

/-- A scan between two arguments: no option waits for a value, and all that has been gathered
settles to given entries. -/
structure Scan.Ready (s : Scan) (entries : List (String × Bytes)) : Prop where
  resolve_eq : s.resolve = .ok (Scan.of entries)
  awaiting_eq : s.awaiting = none
  trailing_eq : s.trailing = false

theorem ready_of (entries : List (String × Bytes)) : (Scan.of entries).Ready entries :=
  ⟨rfl, rfl, rfl⟩

/-- An argument that cannot be a subcommand. -/
theorem scan_taken (hseek : s.seeksSubcommand = false) (hstep : s.step g arg = .ok s')
    (rest : List Bytes) : g.scan s (arg :: rest) = g.scan s' rest := by
  rw [Grammar.scan, hseek, hstep]
  rfl

/-- An argument that starts with a dash. -/
theorem scan_dashed (hdashless : g.Dashless) (hdash : arg.head? = some dash)
    (hstep : s.step g arg = .ok s') (rest : List Bytes) :
    g.scan s (arg :: rest) = g.scan s' rest := by
  rw [Grammar.scan, hdashless.subcommand?_eq hdash, ite_self, hstep]

/-- An occurrence is settled if it may be repeated or is the first, and passes its check. -/
theorem settle_of (hfresh : spec.arity = .repeated ∨ (Scan.of entries).values spec.name = [])
    (hcheck : spec.check value = none) :
    (Scan.of entries).settle spec value = .ok (Scan.of (entries ++ [(spec.name, value)])) := by
  have hallowed : ¬(spec.arity ≠ .repeated ∧ (Scan.of entries).values spec.name ≠ []) := by
    rintro ⟨honce, hthere⟩
    exact hfresh.elim honce hthere
  rw [Scan.settle, if_neg hallowed, hcheck]
  rfl

/-- An offered option is taken by its name. -/
theorem Scan.Ready.step_offered (h : s.Ready entries) (hspec : g.Offers spec)
    {attached : Option Bytes} (hform : formOf arg = .long (textBytes spec.name) attached) :
    s.step g arg = s.occur spec attached := by
  have hlong : s.step g arg = s.long g (textBytes spec.name) attached := by
    simp [Scan.step, h.trailing_eq, h.awaiting_eq, hform]
  rw [hlong, Scan.long, if_neg hspec.ne_help, if_neg fun hv => hspec.ne_version hv.1, hspec.found]

/-- An option with a value behind an equals sign. -/
theorem Scan.Ready.scan_assigned (h : s.Ready entries) (hspec : g.Offers spec)
    (harity : spec.arity ≠ .flag)
    (hfresh : spec.arity = .repeated ∨ (Scan.of entries).values spec.name = [])
    (hcheck : spec.check value = none) (rest : List Bytes) :
    g.scan s (assigned spec value :: rest) =
      g.scan (Scan.of (entries ++ [(spec.name, value)])) rest := by
  refine scan_dashed hspec.dashless rfl ?_ rest
  rw [h.step_offered hspec (formOf_assigned hspec value)]
  unfold Scan.occur
  cases hkind : spec.arity with
  | flag => exact absurd hkind harity
  | once =>
    simp only [h.resolve_eq, bind, Except.bind, settle_of hfresh hcheck]
    rfl
  | repeated =>
    simp only [h.resolve_eq, bind, Except.bind, settle_of hfresh hcheck]
    rfl

/-- A flag. -/
theorem Scan.Ready.scan_flag (h : s.Ready entries) (hspec : g.Offers spec)
    (harity : spec.arity = .flag) (hfresh : (Scan.of entries).values spec.name = [])
    (hcheck : spec.check (textBytes "true") = none) (rest : List Bytes) :
    g.scan s (named spec :: rest) =
      g.scan (Scan.of (entries ++ [(spec.name, textBytes "true")])) rest := by
  refine scan_dashed hspec.dashless rfl ?_ rest
  rw [h.step_offered hspec (formOf_named hspec)]
  unfold Scan.occur
  rw [harity]
  simp only [h.resolve_eq, bind, Except.bind, settle_of (Or.inr hfresh) hcheck]
  rfl

/-- An option that takes anything, and the argument after it, whatever it looks like. -/
theorem Scan.Ready.scan_pair (h : s.Ready entries) (hspec : g.Offers spec)
    (harity : spec.arity = .repeated) (htakes : spec.takesHyphens = true)
    (hcheck : spec.check value = none) :
    ∃ s', s'.Ready (entries ++ [(spec.name, value)]) ∧
      ∀ rest, g.scan s (named spec :: value :: rest) = g.scan s' rest := by
  -- the option waits for a value, and then holds it until something else begins
  let waiting : Scan := ⟨entries, some (.option spec none), some spec, false, false⟩
  let holding : Scan := ⟨entries, some (.option spec (some value)), none, false, false⟩
  have hname : s.step g (named spec) = .ok waiting := by
    rw [h.step_offered hspec (formOf_named hspec)]
    unfold Scan.occur
    rw [harity]
    simp only [h.resolve_eq, bind, Except.bind]
    rfl
  have hvalue : waiting.step g value = .ok holding := by
    simp [waiting, holding, Scan.step, Scan.give, htakes]
  refine ⟨holding, ⟨settle_of (Or.inl harity) hcheck, rfl, rfl⟩, fun rest => ?_⟩
  rw [scan_dashed hspec.dashless rfl hname]
  exact scan_taken rfl hvalue rest

/-- An option that takes anything, any number of times. -/
theorem Scan.Ready.scan_pairs (hspec : g.Offers spec) (harity : spec.arity = .repeated)
    (htakes : spec.takesHyphens = true) (values : List Bytes)
    (hcheck : ∀ v ∈ values, spec.check v = none) : ∀ (s : Scan) (entries : List (String × Bytes)),
    s.Ready entries → ∃ s', s'.Ready (entries ++ keyed spec.name values) ∧
      ∀ rest, g.scan s ((values.flatMap fun v => [named spec, v]) ++ rest) = g.scan s' rest := by
  induction values with
  | nil =>
    intro s entries h
    exact ⟨s, by rwa [keyed, List.map_nil, List.append_nil], fun rest => rfl⟩
  | cons value values ih =>
    intro s entries h
    obtain ⟨t, ht, hpair⟩ := h.scan_pair hspec harity htakes (hcheck value List.mem_cons_self)
    obtain ⟨s', hs', hrest⟩ := ih (fun v hv => hcheck v (List.mem_cons_of_mem _ hv)) t _ ht
    refine ⟨s', by rwa [List.append_assoc] at hs', fun rest => ?_⟩
    rw [← hrest rest]
    exact hpair _

/-! ## Scanning what follows the mark -/

/-- A scan that gathers values for a place, with all that follows taken as it is. -/
def gathering (entries : List (String × Bytes)) (place : Positional) (values : List Bytes) : Scan :=
  ⟨entries, some (.positional place values), none, true, !place.many⟩

theorem scan_gathering (hplace : g.positional = some place) (more : List Bytes)
    (hmany : place.many = true ∨ more = []) : ∀ values : List Bytes,
    g.scan (gathering entries place values) more =
      .ok ⟨gathering entries place (values ++ more), none⟩ := by
  induction more with
  | nil =>
    intro values
    rw [List.append_nil]
    rfl
  | cons value more ih =>
    intro values
    have hmany : place.many = true := hmany.resolve_right (List.cons_ne_nil value more)
    have hstep : (gathering entries place values).step g value =
        .ok (gathering entries place (values ++ [value])) := by
      simp [gathering, Scan.step, Scan.place, hplace, hmany]
    rw [scan_taken rfl hstep, ih (Or.inl hmany), List.append_assoc, List.singleton_append]

/-- Values after the mark `--` go to the place for them, whatever they look like. -/
theorem scan_marked (hdashless : g.Dashless) (hplace : g.positional = some place)
    (entries : List (String × Bytes)) (values : List Bytes)
    (hmany : place.many = true ∨ values.length ≤ 1)
    (hcheck : firstFault place.check values = none) :
    ∃ s' t, g.scan (Scan.of entries) (textBytes "--" :: values) = .ok ⟨s', none⟩ ∧
      s'.resolve = .ok t ∧ t.settled = entries ++ keyed place.name values := by
  let marked : Scan := ⟨entries, none, none, true, false⟩
  have hmark : (Scan.of entries).step g (textBytes "--") = .ok marked := rfl
  rw [scan_dashed hdashless (by decide) hmark]
  cases values with
  | nil =>
    refine ⟨marked, marked, rfl, rfl, ?_⟩
    rw [keyed, List.map_nil, List.append_nil]
  | cons value more =>
    have hfirst : marked.step g value = .ok (gathering entries place [value]) := by
      simp [marked, Scan.step, Scan.place, hplace, Scan.resolve, gathering]
    have hmore : place.many = true ∨ more = [] := by
      rcases hmany with hmany | hlength
      · exact Or.inl hmany
      · exact Or.inr (List.length_eq_zero_iff.mp (by simpa using hlength))
    refine ⟨gathering entries place (value :: more),
      ⟨entries ++ keyed place.name (value :: more), none, none, true, !place.many⟩, ?_, ?_, rfl⟩
    · rw [scan_taken rfl hfirst, scan_gathering hplace more hmore, List.singleton_append]
    · rw [gathering, Scan.resolve]
      dsimp only
      rw [hcheck]
      rfl

/-! ## The grammars -/

theorem offers_program (h : spec ∈ [checkerSpec, checkerArgSpec, timeoutSpec, stdioSpec]) :
    programGrammar.Offers spec := by
  simp only [List.mem_cons, List.not_mem_nil, or_false] at h
  rcases h with rfl | rfl | rfl | rfl <;>
    exact ⟨rfl, by decide, by decide, by decide, by decide, by decide⟩

theorem offers_tasks : tasksGrammar.Offers runSpec :=
  ⟨rfl, by decide, by decide, by decide, by decide, by decide⟩

theorem offers_resolve (h : spec ∈ [folderSpec, runSpec]) : resolveGrammar.Offers spec := by
  simp only [List.mem_cons, List.not_mem_nil, or_false] at h
  rcases h with rfl | rfl <;> exact ⟨rfl, by decide, by decide, by decide, by decide, by decide⟩

/-- What a flag is settled with. -/
def flagValues (set : Bool) : List Bytes := if set then [textBytes "true"] else []

theorem isEmpty_flagValues (set : Bool) : (!(flagValues set).isEmpty) = set := by
  cases set <;> rfl

theorem scan_flagArgument (hspec : g.Offers spec) (harity : spec.arity = .flag)
    (hfresh : (Scan.of entries).values spec.name = [])
    (hcheck : spec.check (textBytes "true") = none) {name : String}
    (hname : textBytes name = named spec) (set : Bool) (rest : List Bytes) :
    g.scan (Scan.of entries) (flagArgument name set ++ rest) =
      g.scan (Scan.of (entries ++ keyed spec.name (flagValues set))) rest := by
  cases set with
  | false =>
    rw [flagValues, keyed]
    simp [flagArgument]
  | true =>
    show g.scan (Scan.of entries) (textBytes name :: rest) = _
    rw [hname]
    exact (ready_of entries).scan_flag hspec harity hfresh hcheck rest

theorem firstFault_eq_none {check : Bytes → Option UsageError}
    (h : ∀ v ∈ values, check v = none) : firstFault check values = none := by
  induction values with
  | nil => rfl
  | cons v more ih =>
    rw [firstFault, h v List.mem_cons_self]
    exact ih fun v hv => h v (List.mem_cons_of_mem _ hv)

/-- A scan is finished if its place is taken or need not be. -/
theorem finish_eq {t : Scan} (hplace : g.positional = some place) (hresolve : s.resolve = .ok t)
    (htaken : place.required = true → t.values place.name ≠ []) : g.finish s = .ok t := by
  have hfine : ¬(place.required = true ∧ t.values place.name = []) :=
    fun h => htaken h.1 h.2
  simp only [Grammar.finish, hresolve, bind, Except.bind, hplace]
  rw [if_neg hfine]
  rfl

theorem values_of_settled {t : Scan} (h : t.settled = entries) (name : String) :
    t.values name = (Scan.of entries).values name := by
  rw [Scan.values, h]
  rfl

/-! ## Subcommands -/

theorem checkPath_eq_none (h : value ≠ []) : checkPath value = none := by
  rw [checkPath, if_neg h]

theorem subcommand_tasks {folders : List Bytes} (hpaths : ∀ f ∈ folders, f ≠ []) (run : Bool) :
    subcommand "tasks" (flagArgument "--run" run ++ textBytes "--" :: folders) =
      .ok (.tasks folders run) := by
  obtain ⟨s, t, hscan, hresolve, hsettled⟩ :=
    scan_marked offers_tasks.dashless rfl (keyed "run" (flagValues run)) folders (Or.inl rfl)
      (firstFault_eq_none fun f hf => checkPath_eq_none (hpaths f hf))
  have hstop : tasksGrammar.scan .start (flagArgument "--run" run ++ textBytes "--" :: folders) =
      .ok ⟨s, none⟩ :=
    (scan_flagArgument offers_tasks rfl rfl rfl rfl run _).trans hscan
  have hfinish : tasksGrammar.finish s = .ok t := finish_eq rfl hresolve nofun
  have hfolders : t.values "folders" = folders := by
    simp [values_of_settled hsettled]
  have hrun : t.values "run" = flagValues run := by
    simp [values_of_settled hsettled]
  rw [subcommand, if_pos rfl]
  simp only [hstop, bind, Except.bind, hfinish, hfolders, hrun, isEmpty_flagValues]
  rfl

/-- The folder of a resolved task, if it is given. -/
theorem scan_folder {folder : Option Bytes} (hpaths : ∀ f ∈ folder, f ≠ []) (rest : List Bytes) :
    resolveGrammar.scan .start ((folder.map fun f => textBytes "--folder=" ++ f).toList ++ rest) =
      resolveGrammar.scan (Scan.of (keyed "folder" folder.toList)) rest := by
  cases folder with
  | none => rfl
  | some f =>
    have hspec : resolveGrammar.Offers folderSpec := offers_resolve (by simp)
    exact (ready_of []).scan_assigned hspec (by decide) (Or.inr rfl)
      (checkPath_eq_none (hpaths f rfl)) rest

theorem subcommand_resolveTask (task : String) {folder : Option Bytes}
    (hpaths : ∀ f ∈ folder, f ≠ []) (run : Bool) :
    subcommand "resolve-task" ((folder.map fun f => textBytes "--folder=" ++ f).toList ++
        flagArgument "--run" run ++ [textBytes "--", textBytes task]) =
      .ok (.resolveTask task folder run) := by
  have hrunSpec : resolveGrammar.Offers runSpec := offers_resolve (by simp)
  obtain ⟨s, t, hscan, hresolve, hsettled⟩ :=
    scan_marked hrunSpec.dashless rfl (keyed "folder" folder.toList ++ keyed "run" (flagValues run))
      [textBytes task] (Or.inr (le_refl 1))
      (firstFault_eq_none (by simpa using checkText_textBytes task))
  have hstop : resolveGrammar.scan .start
      ((folder.map fun f => textBytes "--folder=" ++ f).toList ++ flagArgument "--run" run ++ [textBytes "--", textBytes task]) = .ok ⟨s, none⟩ := by
    rw [List.append_assoc, scan_folder hpaths,
      scan_flagArgument hrunSpec rfl (by simp [runSpec]) rfl rfl]
    exact hscan
  have htask : t.values "task" = [textBytes task] := by
    simp [values_of_settled hsettled]
  have hfolder : t.values "folder" = folder.toList := by
    simp [values_of_settled hsettled]
  have hrun : t.values "run" = flagValues run := by
    simp [values_of_settled hsettled]
  have hfinish : resolveGrammar.finish s = .ok t :=
    finish_eq rfl hresolve (fun _ => by rw [htask]; exact List.cons_ne_nil _ _)
  rw [subcommand, if_neg (by decide), if_pos rfl]
  simp only [hstop, bind, Except.bind, hfinish, htask, hfolder, hrun, isEmpty_flagValues,
    List.head?_cons, Option.bind_some, text?_textBytes, Option.head?_toList]
  rfl

/-! ## The whole command line -/

/-- What the program's own arguments settle to. -/
def ownEntries (o : Options) : List (String × Bytes) :=
  keyed "checker" [textBytes o.checker] ++ keyed "checker-arg" (o.checkerArgs.map textBytes) ++
    keyed "timeout-secs" [textBytes (toString o.timeoutSecs)] ++ keyed "stdio" (flagValues o.stdio)

/-- The arguments before the command are settled one after the other. -/
theorem scan_own (o : Options) (htimeout : o.timeoutSecs ≤ Nat.pow 2 64 - 1) :
    programGrammar.scan .start o.arguments =
      programGrammar.scan (Scan.of (ownEntries o)) o.command.arguments := by
  have hchecker : programGrammar.Offers checkerSpec := offers_program (by simp)
  have hcheckerArg : programGrammar.Offers checkerArgSpec := offers_program (by simp)
  have htimeoutSpec : programGrammar.Offers timeoutSpec := offers_program (by simp)
  have hstdio : programGrammar.Offers stdioSpec := offers_program (by simp)
  have hnumber : timeoutSpec.check (textBytes (toString o.timeoutSecs)) = none := by
    simpa only [timeoutSpec] using checkNumber_toString htimeout
  obtain ⟨s, hs, hpairs⟩ := Scan.Ready.scan_pairs hcheckerArg rfl rfl
    (o.checkerArgs.map textBytes)
    (List.forall_mem_map.mpr fun a _ => checkText_textBytes a) _ _
    (ready_of (keyed "checker" [textBytes o.checker]))
  have hargs : o.arguments = assigned checkerSpec (textBytes o.checker) ::
      (((o.checkerArgs.map textBytes).flatMap fun v => [named checkerArgSpec, v]) ++
        assigned timeoutSpec (textBytes (toString o.timeoutSecs)) ::
          (flagArgument "--stdio" o.stdio ++ o.command.arguments)) := by
    rw [List.flatMap_map, arguments]
    simp only [List.append_assoc, List.singleton_append]
    rfl
  calc programGrammar.scan .start o.arguments
    _ = programGrammar.scan (Scan.of (keyed "checker" [textBytes o.checker])) _ := by
      rw [hargs]
      exact (ready_of []).scan_assigned hchecker (by decide) (Or.inr rfl)
        (checkText_textBytes o.checker) _
    _ = programGrammar.scan s (assigned timeoutSpec (textBytes (toString o.timeoutSecs)) ::
          (flagArgument "--stdio" o.stdio ++ o.command.arguments)) := hpairs _
    _ = programGrammar.scan (Scan.of (keyed "checker" [textBytes o.checker] ++
          keyed "checker-arg" (o.checkerArgs.map textBytes) ++
          keyed "timeout-secs" [textBytes (toString o.timeoutSecs)]))
          (flagArgument "--stdio" o.stdio ++ o.command.arguments) :=
      hs.scan_assigned htimeoutSpec (by decide)
        (Or.inr (by simp [timeoutSpec, checkerArgSpec])) hnumber _
    _ = programGrammar.scan (Scan.of (ownEntries o)) o.command.arguments :=
      scan_flagArgument hstdio rfl (by simp [stdioSpec]) rfl rfl _ _

/-- What the program's own arguments settle to gives the options back. -/
theorem ofScan_own (o : Options) (htimeout : o.timeoutSecs ≤ Nat.pow 2 64 - 1) :
    ofScan (Scan.of (ownEntries o)) o.command = o := by
  have htexts : (o.checkerArgs.map textBytes).filterMap text? = o.checkerArgs := by
    simp [List.filterMap_map, text?_textBytes]
  have hnumber : number? o.timeoutSecs.repr = some o.timeoutSecs := number?_toString htimeout
  simp [ofScan, ownEntries, text?_textBytes, htexts, hnumber,
    isEmpty_flagValues]

/-- Reading gives the options back if it stops where their command begins, and what is left there
gives the command back. -/
theorem parse_of_stop {o : Options} (htimeout : o.timeoutSecs ≤ Nat.pow 2 64 - 1)
    {left : Option (String × List Bytes)}
    (hstop : programGrammar.scan (Scan.of (ownEntries o)) o.command.arguments =
      .ok ⟨Scan.of (ownEntries o), left⟩)
    (hcommand : (match left with
      | none => pure .serve
      | some (name, rest) => subcommand name rest) = Except.ok o.command) :
    parse o.arguments = .ok o := by
  have hfinish :
      programGrammar.finish (Scan.of (ownEntries o)) = .ok (Scan.of (ownEntries o)) := rfl
  unfold parse
  simp only [scan_own o htimeout, hstop, bind, Except.bind]
  cases left with
  | none =>
    have hserve : Command.serve = o.command := Except.ok.inj hcommand
    simp only [pure, Except.pure, hfinish, hserve, ofScan_own o htimeout]
  | some named =>
    obtain ⟨name, rest⟩ := named
    simp only [hcommand, hfinish, ofScan_own o htimeout]
    rfl

/-- Options are read back from the arguments that ask for them. A path may be any bytes but none at
all, and the time is one that fits in 64 bits. -/
theorem parse_arguments (o : Options) (htimeout : o.timeoutSecs ≤ Nat.pow 2 64 - 1)
    (hpaths : ∀ path ∈ o.command.paths, path ≠ []) : parse o.arguments = .ok o := by
  obtain ⟨checker, checkerArgs, timeoutSecs, stdio, command⟩ := o
  cases command with
  | serve => exact parse_of_stop htimeout rfl rfl
  | tasks folders run =>
    exact parse_of_stop htimeout rfl (subcommand_tasks hpaths run)
  | resolveTask task folder run =>
    have hfolder : ∀ f ∈ folder, f ≠ [] := fun f hf => hpaths f (Option.mem_toList.mpr hf)
    exact parse_of_stop htimeout rfl (subcommand_resolveTask task hfolder run)

/-- Values that look like options, marks and subcommands, one path that starts with a dash and one
that is no text. -/
theorem parse_arguments_disguised :
    let tasks : Options :=
      ⟨"", ["", "--", "--help", "--checker-arg", "tasks"], 0, false,
        .tasks [textBytes "--run", [0xFF]] true⟩
    let resolve : Options :=
      ⟨"--stdio", ["=", "-V"], Nat.pow 2 64 - 1, true, .resolveTask "--" (some [dash]) false⟩
    parse tasks.arguments = .ok tasks ∧ parse resolve.arguments = .ok resolve :=
  ⟨parse_arguments _ (by decide) (by decide), parse_arguments _ (by decide) (by decide)⟩

end Options

end LineLint
