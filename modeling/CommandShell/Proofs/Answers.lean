import CommandShell.Builtin.Standard
import CommandShell.Shell
import Mathlib.Logic.Basic

/-!
# How builtins answer

A builtin looks at the files, at its command and at the state, perhaps reads all of its input, and
has then settled on an *answer*: a text, a complaint, another state, or the end of the session.
Only the giving of the answer touches the streams that it writes to, and it is the same for all
builtins.  So whatever is to be known of a builtin is known from its answer, and the nine builtins
are taken apart here once.

## Main definitions

* `Command.assigned?` — the variable that a command sets, and its value.
* `Command.destination?` — the folder that a command goes to.
* `Command.ReadsInput` — the commands that read their input.
* `Answer`, `Answer.give` — the answers, and how they are given.
* `Answer.Fits` — which commands may have which answers.
* `Responds` — something that has an answer to a command, whatever its streams are.

* `Answer.Answers` — an answer to a command, or the help text that it asks for.

## Main results

* `responds_of_mem_standard` — the standard builtins respond.
* `responds_run?` — **so does every command that names one of them**, also if it asks for help.
* `exists_answer`, `exists_outcome` — the input settles the answer.
-/

namespace CommandShell

/-! ### What a command asks for -/

namespace Command

/-- The variable that a command sets, and the value that it gets. -/
def assigned? (c : Command) : Option (Text × Text) :=
  if c.name = assignmentName then
    match c.args with
    | [name, value] => some (name, value)
    | _ => none
  else none

/-- The folder that a command goes to, seen from where the session is. -/
def destination? (c : Command) (location : Location) : Option Path :=
  if c.name = Builtin.cd.name then
    match c.args with
    | [] => some location.home
    | [folder] => some (location.resolve (Path.ofText folder))
    | _ => none
  else none

/-- The command reads its input when it is run: `cat` and `wc` without a file, and a search that
is understood and names no file. -/
def ReadsInput (c : Command) : Prop :=
  (c.name = Builtin.cat.name ∨ c.name = Builtin.wc.name) ∧ c.args = [] ∨
    c.name = Builtin.grep.name ∧
      ∃ request, SearchRequest.ofCommand c = .ok request ∧ request.file = none

/-- The command prints a help text and does nothing else. -/
def PrintsHelp (c : Command) : Prop :=
  c.options.has helpOption = true ∧ c.name ∉ [assignmentName, Builtin.exit.name]

/-- The command names a builtin that every session has. -/
def IsBuiltin (c : Command) : Prop := c.name ∈ Registry.standard.map Builtin.name

instance (c : Command) : Decidable c.PrintsHelp := inferInstanceAs (Decidable (_ ∧ _))

instance (c : Command) : Decidable c.IsBuiltin := inferInstanceAs (Decidable (_ ∈ _))

variable {c : Command}

theorem assigned?_eq_some_iff {name value : Text} :
    c.assigned? = some (name, value) ↔ c.name = assignmentName ∧ c.args = [name, value] := by
  rw [assigned?]
  constructor
  · intro h
    split at h
    · next hname =>
      split at h <;> simp_all
    · cases h
  · rintro ⟨hname, hargs⟩
    rw [if_pos hname, hargs]

theorem not_readsInput (h : c.name ∉ [Builtin.cat.name, Builtin.wc.name, Builtin.grep.name]) :
    ¬ c.ReadsInput := by
  simp only [List.mem_cons, List.not_mem_nil, or_false, not_or] at h
  rintro (⟨hcat | hwc, -⟩ | ⟨hgrep, -⟩)
  · exact h.1 hcat
  · exact h.2.1 hwc
  · exact h.2.2 hgrep

theorem not_readsInput_of_args (hargs : c.args ≠ []) (hname : c.name ≠ Builtin.grep.name) :
    ¬ c.ReadsInput := by
  rintro (⟨-, hnil⟩ | ⟨hgrep, -⟩)
  · exact hargs hnil
  · exact hname hgrep

theorem readsInput_iff_of_grep (hname : c.name = Builtin.grep.name) :
    c.ReadsInput ↔ ∃ request, SearchRequest.ofCommand c = .ok request ∧ request.file = none := by
  have hcat : c.name ≠ Builtin.cat.name := hname ▸ by decide
  have hwc : c.name ≠ Builtin.wc.name := hname ▸ by decide
  simp [ReadsInput, hname, hname ▸ hcat, hname ▸ hwc]

theorem name_of_destination? {location : Location} {target : Path}
    (h : c.destination? location = some target) : c.name = Builtin.cd.name := by
  rw [destination?] at h
  split at h
  · next hname => exact hname
  · cases h

/-- A `cd` that prints no help text was not asked for it. -/
theorem not_asked_of_cd (hname : c.name = Builtin.cd.name) (hhelp : ¬ c.PrintsHelp) :
    c.options.has helpOption = false := by
  rw [← Bool.not_eq_true]
  exact fun hasked => hhelp ⟨hasked, hname ▸ by decide⟩

end Command

/-! ### Answers -/

/-- What a builtin has settled on. -/
inductive Answer where
  /-- A text on the output. -/
  | print (text : Text)
  /-- A complaint; the command fails. -/
  | complain (message : Text)
  /-- Another state, and nothing is said. -/
  | change (after : ShellState)
  /-- The end of the session, with a complaint that may be empty. -/
  | leave (code : Int32) (complaint : Text)

namespace Answer

/-- An answer is given by the builtin of a name. -/
def give (name : Text) (state : ShellState) (s : Streams) :
    Answer → Status × ShellState × Streams
  | .print text => ((emit name text s).1, state, (emit name text s).2)
  | .complain message =>
      ((CommandShell.complain message s).1, state, (CommandShell.complain message s).2)
  | .change after => (.success, after, s)
  | .leave code complaint => (.exit code, state, s.putError complaint)

/-- An answer that a command may have.  The commands that change the state never print, and one that
sets a variable does not complain. -/
def Fits (files : FileTree) (c : Command) (state : ShellState) : Answer → Prop
  | .print _ => c.name ∉ [assignmentName, Builtin.cd.name]
  | .complain message => message ≠ [] ∧ c.assigned? = none
  | .change after =>
      (∃ name value, c.assigned? = some (name, value) ∧
        after = { state with vars := state.vars.insert name value }) ∨
      ∃ target, c.destination? state.location = some target ∧ files.isFolder [] target = true ∧
        after = { state with location := state.location.changeDir target }
  | .leave _ _ => c.name = Builtin.exit.name

/-- Commands other than the assignment and `cd` may print. -/
theorem fits_print {files : FileTree} {c : Command} {state : ShellState}
    (h : c.name ∉ [assignmentName, Builtin.cd.name]) (text : Text) :
    (print text).Fits files c state := h

/-- Commands other than the assignment may complain. -/
theorem fits_complain {files : FileTree} {c : Command} {state : ShellState}
    (h : c.name ≠ assignmentName) {message : Text} (hmessage : message ≠ []) :
    (complain message).Fits files c state := ⟨hmessage, if_neg h⟩

end Answer

/-- Something that is run for a command has an answer to it, whatever the streams are. -/
inductive Responds (files : FileTree) (c : Command) (state : ShellState)
    (run : Streams → Status × ShellState × Streams) : Prop
  /-- The answer does not depend on the input. -/
  | atOnce (answer : Answer) (hreads : ¬ c.ReadsInput) (hfits : answer.Fits files c state)
      (hrun : ∀ s, run s = answer.give c.name state s)
  /-- The input is read to its end first. -/
  | afterReading (answer : Option Bytes → Answer) (hreads : c.ReadsInput)
      (hfits : ∀ input, (answer input).Fits files c state)
      (hrun : ∀ s, run s = (answer s.readAll.1).give c.name state s.readAll.2)

/-! ### Streams -/

/-- To complain about nothing changes nothing. -/
@[simp] theorem Streams.putError_nil (s : Streams) : s.putError [] = s := by
  have hput : (s.error.put []).2 = s.error := by
    simp [Output.put, Output.write]
  rw [Streams.putError, Utf8.encode_nil, hput]

theorem Streams.readText_eq (s : Streams) :
    s.readText = (s.readAll.1.map Utf8.decodeLossy, s.readAll.2) := rfl

theorem input_emit (name text : Text) (s : Streams) : (emit name text s).2.input = s.input := by
  have hput : (s.putOutput text).2.input = s.input := rfl
  rw [emit]
  generalize s.putOutput text = answer at hput ⊢
  rcases answer with ⟨_ | _, after⟩
  · exact hput
  · exact hput

/-- To give an answer is not to read. -/
@[simp] theorem Answer.input_give (a : Answer) (name : Text) (state : ShellState) (s : Streams) :
    (a.give name state s).2.2.input = s.input := by
  cases a with
  | print text => exact input_emit name text s
  | complain message => rfl
  | change after => rfl
  | leave code complaint => rfl

/-! ### The builtins -/

namespace Builtin

variable {files : FileTree} {c : Command} {state : ShellState}

theorem responds_echo (hname : c.name = echo.name) :
    Responds files c state (echo.run files c state) := by
  have hreads : ¬ c.ReadsInput := Command.not_readsInput (hname ▸ by decide)
  exact .atOnce (.print _) hreads (Answer.fits_print (hname ▸ by decide) _)
    fun s => by rw [hname]; rfl

theorem responds_exit (hname : c.name = exit.name) :
    Responds files c state (exit.run files c state) := by
  have hreads : ¬ c.ReadsInput := Command.not_readsInput (hname ▸ by decide)
  cases hargs : c.args with
  | nil =>
    refine .atOnce (.leave 0 []) hreads hname fun s => ?_
    simp [exit, runExit, reading, hargs, Answer.give]
  | cons arg rest =>
    cases hcode : readInt32? arg with
    | some code =>
      refine .atOnce (.leave code []) hreads hname fun s => ?_
      simp [exit, runExit, reading, hargs, hcode, Answer.give]
    | none =>
      exact .atOnce (.leave 2 _) hreads hname
        fun s => by simp only [exit, runExit, reading, hargs, hcode]; rfl

theorem responds_assign (hname : c.name = assign.name) :
    Responds files c state (assign.run files c state) := by
  have hreads : ¬ c.ReadsInput := Command.not_readsInput (hname ▸ by decide)
  -- a value is given by two arguments only, and anything else is complained of
  by_cases hset : ∃ name value, c.args = [name, value]
  · obtain ⟨name, value, hargs⟩ := hset
    have hassigned : c.assigned? = some (name, value) := by
      rw [Command.assigned?, hargs]
      exact if_pos hname
    refine .atOnce (.change _) hreads (.inl ⟨name, value, hassigned, rfl⟩) fun s => ?_
    simp only [assign, runAssign, hargs, Answer.give]
  · have hnone : c.assigned? = none := by
      rw [Option.eq_none_iff_forall_ne_some]
      rintro ⟨name, value⟩ hassigned
      exact hset ⟨name, value, (Command.assigned?_eq_some_iff.mp hassigned).2⟩
    refine .atOnce (.complain "incorrect set variable statement") hreads ⟨by decide, hnone⟩
      fun s => ?_
    simp only [assign, runAssign]
    split
    · next name value hargs => exact absurd ⟨name, value, hargs⟩ hset
    · rfl

theorem responds_pwd (hname : c.name = pwd.name) :
    Responds files c state (pwd.run files c state) := by
  have hreads : ¬ c.ReadsInput := Command.not_readsInput (hname ▸ by decide)
  by_cases hargs : c.args = []
  · exact .atOnce (.print _) hreads (Answer.fits_print (hname ▸ by decide) _)
      fun s => by simp only [hname, pwd, runPwd, reading, if_pos hargs]; rfl
  · refine .atOnce (.complain "pwd does not have args") hreads
      (Answer.fits_complain (hname ▸ by decide) (by decide)) fun s => ?_
    simp only [pwd, runPwd, reading, if_neg hargs, Answer.give]

theorem responds_ls (hname : c.name = ls.name) :
    Responds files c state (ls.run files c state) := by
  have hreads : ¬ c.ReadsInput := Command.not_readsInput (hname ▸ by decide)
  have hprint (text : Text) : (Answer.print text).Fits files c state :=
    Answer.fits_print (hname ▸ by decide) text
  have hcomplain {text : Text} (h : text ≠ []) : (Answer.complain text).Fits files c state :=
    Answer.fits_complain (hname ▸ by decide) h
  rcases hargs : c.args with _ | ⟨folder, _ | ⟨next, rest⟩⟩
  · cases hlist : files.list [] state.location.cwd with
    | ok members =>
      exact .atOnce (.print _) hreads (hprint _)
        fun s => by simp only [hname, ls, runLs, reading, hargs, hlist]; rfl
    | error cause =>
      exact .atOnce (.complain ("ls: cannot resolve path: ".toList ++ ['.'])) hreads
        (hcomplain (by simp)) fun s => by simp only [ls, runLs, reading, hargs, hlist]; rfl
  · cases hlist : files.list [] (state.location.resolve (Path.ofText folder)) with
    | ok members =>
      exact .atOnce (.print _) hreads (hprint _)
        fun s => by simp only [hname, ls, runLs, reading, hargs, hlist]; rfl
    | error cause =>
      exact .atOnce (.complain ("ls: cannot resolve path: ".toList ++ folder)) hreads
        (hcomplain (by simp)) fun s => by simp only [ls, runLs, reading, hargs, hlist]; rfl
  · exact .atOnce (.complain "ls can take arguments eq or less 1 arg") hreads
      (hcomplain (by decide)) fun s => by simp only [ls, runLs, reading, hargs, Answer.give]

/-- What `cd` answers once it is known where to go. -/
def visit (files : FileTree) (state : ShellState) (target : Path) : Answer :=
  match files.stat [] target with
  | .ok (_, .folder) => .change { state with location := state.location.changeDir target }
  | .ok _ => .complain ("cd: not a directory (".toList ++ Path.display target ++ [')'])
  | .error _ => .complain ("cd: directory doesn't exist (".toList ++ Path.display target ++ [')'])

theorem fits_visit {target : Path} (hdest : c.destination? state.location = some target) :
    (visit files state target).Fits files c state := by
  have hcomplain {text : Text} (h : text ≠ []) : (Answer.complain text).Fits files c state :=
    Answer.fits_complain (Command.name_of_destination? hdest ▸ by decide) h
  rw [visit]
  split
  · next way hstat =>
    have hfolder : files.isFolder [] target = true := by rw [FileTree.isFolder, hstat]
    exact .inr ⟨target, hdest, hfolder, rfl⟩
  · exact hcomplain (by simp)
  · exact hcomplain (by simp)

theorem responds_cd (hname : c.name = cd.name) :
    Responds files c state (cd.run files c state) := by
  have hreads : ¬ c.ReadsInput := Command.not_readsInput (hname ▸ by decide)
  rcases hargs : c.args with _ | ⟨folder, _ | ⟨next, rest⟩⟩
  · have hdest : c.destination? state.location = some state.location.home := by
      simp [Command.destination?, hname, hargs]
    refine .atOnce (visit files state _) hreads (fits_visit hdest) fun s => ?_
    simp only [cd, runCd, hargs, visit]
    rcases files.stat [] state.location.home with cause | ⟨way, entry⟩
    · rfl
    · cases entry <;> rfl
  · have hdest : c.destination? state.location
        = some (state.location.resolve (Path.ofText folder)) := by
      simp [Command.destination?, hname, hargs]
    refine .atOnce (visit files state _) hreads (fits_visit hdest) fun s => ?_
    simp only [cd, runCd, hargs, visit]
    rcases files.stat [] (state.location.resolve (Path.ofText folder)) with cause | ⟨way, entry⟩
    · rfl
    · cases entry <;> rfl
  · exact .atOnce (.complain "cd: too many arguments") hreads
      (Answer.fits_complain (hname ▸ by decide) (by decide))
      fun s => by simp only [cd, runCd, hargs, Answer.give]

theorem responds_cat (hname : c.name = cat.name) :
    Responds files c state (cat.run files c state) := by
  have hprint (text : Text) : (Answer.print text).Fits files c state :=
    Answer.fits_print (hname ▸ by decide) text
  have hcomplain {text : Text} (h : text ≠ []) : (Answer.complain text).Fits files c state :=
    Answer.fits_complain (hname ▸ by decide) h
  by_cases hargs : c.args = []
  · refine .afterReading (fun input => input.elim (.complain "cat: error reading input stream")
      fun bytes => .print (Utf8.decodeLossy bytes)) (.inl ⟨.inl hname, hargs⟩) ?_ ?_
    · rintro (_ | bytes)
      · exact hcomplain (by decide)
      · exact hprint _
    · intro s
      simp only [hname, cat, runCat, reading, if_pos hargs, Streams.readText_eq]
      rcases s.readAll with ⟨_ | bytes, after⟩
      · rfl
      · rfl
  · have hreads : ¬ c.ReadsInput := Command.not_readsInput_of_args hargs (hname ▸ by decide)
    cases hread : readFiles files state.location c.args with
    | ok contents =>
      exact .atOnce (.print _) hreads (hprint _) fun s => by
        simp only [hname, cat, runCat, reading, if_neg hargs, hread]; rfl
    | error name =>
      exact .atOnce (.complain ("cat: cannot read file ".toList ++ name)) hreads
        (hcomplain (by simp)) fun s => by
          simp only [cat, runCat, reading, if_neg hargs, hread]; rfl

theorem responds_wc (hname : c.name = wc.name) :
    Responds files c state (wc.run files c state) := by
  have hprint (text : Text) : (Answer.print text).Fits files c state :=
    Answer.fits_print (hname ▸ by decide) text
  have hcomplain {text : Text} (h : text ≠ []) : (Answer.complain text).Fits files c state :=
    Answer.fits_complain (hname ▸ by decide) h
  by_cases hargs : c.args = []
  · refine .afterReading (fun input => input.elim (.complain "wc: error reading input stream")
      fun bytes => .print ((Counts.of bytes).render c.options none)) (.inl ⟨.inr hname, hargs⟩)
      ?_ ?_
    · rintro (_ | bytes)
      · exact hcomplain (by decide)
      · exact hprint _
    · intro s
      simp only [hname, wc, runWc, reading, if_pos hargs]
      rcases s.readAll with ⟨_ | bytes, after⟩
      · rfl
      · rfl
  · have hreads : ¬ c.ReadsInput := Command.not_readsInput_of_args hargs (hname ▸ by decide)
    cases hread : readFiles files state.location c.args with
    | ok contents =>
      exact .atOnce (.print _) hreads (hprint _) fun s => by
        simp only [hname, wc, runWc, reading, if_neg hargs, hread]; rfl
    | error name =>
      exact .atOnce (.complain ("wc: cannot read file ".toList ++ name)) hreads
        (hcomplain (by simp)) fun s => by
          simp only [wc, runWc, reading, if_neg hargs, hread]; rfl

/-- What `grep` answers once it has the text to be searched, or knows why there is none. -/
def search (request : SearchRequest) : Except Text Text → Answer
  | .error message => .complain ("grep: ".toList ++ message)
  | .ok text =>
      match request.regex with
      | .error e => .complain ("grep: invalid pattern: ".toList ++ e.message)
      | .ok regex =>
          .print (selectLines regex.occursIn regex.spans request.context request.color (lines text))

theorem fits_search (hname : c.name = grep.name) (request : SearchRequest)
    (found : Except Text Text) : (search request found).Fits files c state := by
  have hcomplain {text : Text} (h : text ≠ []) : (Answer.complain text).Fits files c state :=
    Answer.fits_complain (hname ▸ by decide) h
  rw [search.eq_def]
  split
  · exact hcomplain (by simp)
  · split
    · exact hcomplain (by simp)
    · exact Answer.fits_print (hname ▸ by decide) _

/-- A search that is understood answers by what it has found. -/
theorem runGrep_of_request {request : SearchRequest}
    (hrequest : SearchRequest.ofCommand c = .ok request) (s : Streams) :
    runGrep files c state s = (search request (searchText files request state s).1).give grep.name
      state (searchText files request state s).2 := by
  simp only [runGrep, reading, hrequest]
  rcases searchText files request state s with ⟨message | text, after⟩
  · rfl
  · simp only [search]
    cases request.regex <;> rfl

theorem responds_grep (hname : c.name = grep.name) :
    Responds files c state (grep.run files c state) := by
  have hreads := Command.readsInput_iff_of_grep hname
  cases hrequest : SearchRequest.ofCommand c with
  | error fault =>
    have hmessage : fault.message ≠ [] := by
      cases fault with
      | missing withContext => exact List.append_ne_nil_of_left_ne_nil (by decide) _
      | badContext => decide
    exact .atOnce (.complain fault.message) (by simp [hreads, hrequest])
      (Answer.fits_complain (hname ▸ by decide) hmessage)
      fun s => by simp only [grep, runGrep, reading, hrequest, Answer.give]
  | ok request =>
    have hrun (s : Streams) : runGrep files c state s
        = (search request (searchText files request state s).1).give grep.name state
            (searchText files request state s).2 := runGrep_of_request hrequest s
    cases hfile : request.file with
    | none =>
      have hfound (s : Streams) : searchText files request state s =
          (s.readAll.1.elim (.error Cause.stream.text) (.ok ∘ Utf8.decodeLossy), s.readAll.2) := by
        simp only [searchText, hfile, Streams.readText_eq]
        rcases s.readAll with ⟨_ | bytes, after⟩ <;> rfl
      refine .afterReading (fun input => search request
          (input.elim (.error Cause.stream.text) (.ok ∘ Utf8.decodeLossy)))
        (by simp [hreads, hrequest, hfile]) (fun input => fits_search hname request _) fun s => ?_
      rw [hname]
      refine (hrun s).trans ?_
      rw [hfound]
    | some file =>
      obtain ⟨found, hfound⟩ : ∃ found, ∀ s, searchText files request state s = (found, s) :=
        ⟨_, fun s => by simp only [searchText, hfile]; rfl⟩
      refine .atOnce (search request found) (by simp [hreads, hrequest, hfile])
        (fits_search hname request _) fun s => ?_
      rw [hname]
      refine (hrun s).trans ?_
      rw [hfound]

end Builtin

/-! ### Commands -/

/-- **The standard builtins** respond to the commands that name them. -/
theorem responds_of_mem_standard {b : Builtin} (hb : b ∈ Registry.standard) (files : FileTree)
    {c : Command} (hname : c.name = b.name) (state : ShellState) :
    Responds files c state (b.run files c state) := by
  simp only [Registry.standard, List.mem_cons, List.not_mem_nil, or_false] at hb
  rcases hb with rfl | rfl | rfl | rfl | rfl | rfl | rfl | rfl | rfl
  · exact Builtin.responds_wc hname
  · exact Builtin.responds_assign hname
  · exact Builtin.responds_pwd hname
  · exact Builtin.responds_ls hname
  · exact Builtin.responds_grep hname
  · exact Builtin.responds_exit hname
  · exact Builtin.responds_echo hname
  · exact Builtin.responds_cd hname
  · exact Builtin.responds_cat hname

/-- The builtins that have a help text. -/
theorem help_eq_none_iff {b : Builtin} (hb : b ∈ Registry.standard) :
    b.help = none ↔ b.name ∈ [assignmentName, Builtin.exit.name] := by
  simp only [Registry.standard, List.mem_cons, List.not_mem_nil, or_false] at hb
  rcases hb with rfl | rfl | rfl | rfl | rfl | rfl | rfl | rfl | rfl <;> decide

/-- A command that names a standard builtin finds one of that name. -/
theorem exists_get?_standard {c : Command} (hc : c.IsBuiltin) :
    ∃ b ∈ Registry.standard, c.name = b.name ∧ Registry.standard.get? c.name = some b := by
  obtain ⟨b, hb, hname⟩ := List.mem_map.mp hc
  have hsome : (Registry.standard.get? c.name).isSome := by
    rw [Registry.get?, List.find?_isSome]
    exact ⟨b, hb, by simpa using hname⟩
  obtain ⟨found, hget⟩ := Option.isSome_iff_exists.mp hsome
  -- what is found is the latest builtin of that name
  have hfound : found.name = c.name := by simpa using List.find?_some hget
  exact ⟨found, List.mem_of_find?_eq_some hget, hfound.symm, hget⟩

/-- Any other command is left to the host. -/
theorem run?_eq_none {c : Command} (hc : ¬ c.IsBuiltin) (files : FileTree) (state : ShellState)
    (s : Streams) : Registry.standard.run? files c state s = none := by
  have hget : Registry.standard.get? c.name = none := by
    rw [Registry.get?, List.find?_eq_none]
    exact fun b hb hname => hc (List.mem_map.mpr ⟨b, hb, by simpa using hname⟩)
  rw [Registry.run?, hget, Option.map_none]

/-- **What a command that names a standard builtin does**: it prints a help text, or it responds. -/
theorem responds_run? {c : Command} (hc : c.IsBuiltin) (files : FileTree) (state : ShellState) :
    (c.PrintsHelp ∧ ∃ text, ∀ s,
      Registry.standard.run? files c state s = some ((Answer.print text).give c.name state s)) ∨
    (¬ c.PrintsHelp ∧ ∃ run, (∀ s, Registry.standard.run? files c state s = some (run s)) ∧
      Responds files c state run) := by
  obtain ⟨b, hb, hname, hget⟩ := exists_get?_standard hc
  have hnone := help_eq_none_iff hb
  rw [← hname] at hnone
  by_cases hhelp : c.PrintsHelp
  · left
    obtain ⟨hasked, hnot⟩ := hhelp
    obtain ⟨help, hsome⟩ := Option.ne_none_iff_exists'.mp (mt hnone.mp hnot)
    refine ⟨⟨hasked, hnot⟩, help, fun s => ?_⟩
    rw [Registry.run?, hget, Option.map_some, if_pos hasked, hsome, hname]
    rfl
  · right
    -- a builtin without a help text does not care whether it is asked for one
    have hquiet : (if c.options.has helpOption then b.help else none) = none := by
      split
      · next hasked => exact hnone.mpr (Decidable.of_not_not fun hnot => hhelp ⟨hasked, hnot⟩)
      · rfl
    refine ⟨hhelp, b.run files c state, fun s => ?_, responds_of_mem_standard hb files hname state⟩
    rw [Registry.run?, hget, Option.map_some, hquiet]

/-- What a command answers if its input is given: a help text, or an answer that fits it. -/
def Answer.Answers (files : FileTree) (c : Command) (state : ShellState) (a : Answer) : Prop :=
  (c.PrintsHelp ∧ ∃ text, a = .print text) ∨ (¬ c.PrintsHelp ∧ a.Fits files c state)

/-- **The input settles the answer**, and what is left of the input: the streams that are written
to have no part in it. -/
theorem exists_answer {c : Command} (hc : c.IsBuiltin) (files : FileTree) (state : ShellState)
    (input : Input) :
    ∃ (a : Answer) (rest : Input), a.Answers files c state ∧ ∀ s, s.input = input →
      Registry.standard.run? files c state s
        = some (a.give c.name state { s with input := rest }) := by
  obtain ⟨hhelp, text, hrun⟩ | ⟨hhelp, run, hrun, hresponds⟩ := responds_run? hc files state
  · exact ⟨.print text, input, .inl ⟨hhelp, text, rfl⟩, fun s hs => hs ▸ hrun s⟩
  · cases hresponds with
    | atOnce answer hreads hfits hanswer =>
      exact ⟨answer, input, .inr ⟨hhelp, hfits⟩, fun s hs => by rw [hrun, hanswer, ← hs]⟩
    | afterReading answer hreads hfits hanswer =>
      refine ⟨answer input.readAll.1, input.readAll.2, .inr ⟨hhelp, hfits _⟩, fun s hs => ?_⟩
      rw [hrun, hanswer, ← hs]
      rfl

/-- What running a command gives if it has an answer. -/
def Answer.outcome (a : Answer) (name : Text) (m : Machine) (s : Streams) : Outcome Machine :=
  (.ok (a.give name m.state s).1, { m with state := (a.give name m.state s).2.1 },
    (a.give name m.state s).2.2)

/-- A builtin is run by giving an answer, whatever the programs of the host do. -/
theorem exists_outcome {c : Command} (hc : c.IsBuiltin) (host : Host) (m : Machine)
    (input : Input) :
    ∃ (a : Answer) (rest : Input), a.Answers m.files c m.state ∧ ∀ s, s.input = input →
      runCommand Registry.standard host c m s = a.outcome c.name m { s with input := rest } := by
  obtain ⟨a, rest, ha, hrun⟩ := exists_answer hc m.files m.state input
  refine ⟨a, rest, ha, fun s hs => ?_⟩
  rw [runCommand, hrun s hs]
  rfl

end CommandShell
