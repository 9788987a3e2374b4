import CommandShell.Proofs.AssignedValues
import CommandShell.Proofs.JoinedLines
import CommandShell.Proofs.LineFrames
import CommandShell.Proofs.NeutralStages
import CommandShell.Proofs.Numerals
import CommandShell.Proofs.QuotedLines
import CommandShell.Proofs.StatusVariable

/-!
# The status with which a session ends

The status of a line is a number for the session and a text for its commands.  On its way from one
to the other and back it is written in decimal into the variable `?`, put into a line in place of
`$?`, sorted among options and arguments, and read by `exit`.  Nothing of it is lost on the way, for
negative numbers neither: their dash is followed by a digit, so they are arguments.

`exit` reads more than what is written: any numeral of an integer of 32 bits.  Anything else gives
the status 2 and a complaint.

## Main definitions

* `StaysPositional` — a word that is an argument wherever it stands.
* `Shell.JustRecorded` — a session whose last status has just been recorded.
* `exitComplaint` — what `exit` says of a text that is no numeral.
* `Shell.ExitsWith` — a line that ends the session with what a text stands for.
* `Shell.GivesStatus` — what `$?` gives in a session.

## Main results

* `staysPositional_of_numeral` — a numeral is an argument.
* `exitsWith_exitLine`, `exitsWith_markedLine` — the lines `exit ARG` and `exit -- ARG`.
* `Shell.JustRecorded.givesStatus` — `$?` gives the status that has just been recorded.
* `exitStatuses_survive` — **a status is the same number after it has been a text.**
-/

namespace CommandShell

/-! ### Words that are arguments -/

/-- **A word is positional wherever it stands**: it comes after the arguments before it, and the
others and the options are those that there would be without it. -/
def StaysPositional (word : Text) : Prop :=
  ∀ before after : List Text, ∃ (more : List Text) (options : Options),
    splitOptions (before ++ after) = ((splitOptions before).1 ++ more, options) ∧
    splitOptions (before ++ word :: after) = ((splitOptions before).1 ++ word :: more, options)

/-- After the end of the options all words are arguments. -/
theorem splitOptions_endMarker {front : List Text} (h : endMarker ∉ front) (rest : List Text) :
    splitOptions (front ++ endMarker :: rest)
      = (front.filter (fun word => ¬ IsOptionWord word) ++ rest,
          Options.addItems .empty (front.flatMap wordItems)) := by
  rw [splitOptions, splitOptionsFrom_append h, splitOptionsFrom_endMarker, List.nil_append]

/-- A word that neither is an option nor ends them is positional. -/
theorem staysPositional {word : Text} (hmarker : word ≠ endMarker) (hoption : ¬ IsOptionWord word) :
    StaysPositional word := by
  intro before after
  by_cases hbefore : endMarker ∈ before
  · -- it stands behind the first `--`, where all words are arguments
    obtain ⟨front, back, rfl, hfront⟩ := List.eq_append_cons_of_mem hbefore
    refine ⟨after, (splitOptions (front ++ endMarker :: back)).2, ?_⟩
    simp only [List.append_assoc, List.cons_append, splitOptions_endMarker hfront, and_self]
  · -- it stands among the words before the next `--`, to whose options it adds nothing
    have hmid := endMarker_notMem_beforeMarker after
    have hread : readOption? word = none := by simpa [isOptionWord_iff] using hoption
    have hothers : endMarker ∉ before ++ beforeMarker after := by simp [hbefore, hmid]
    have hall : endMarker ∉ before ++ word :: beforeMarker after := by
      simp [hbefore, hmid, Ne.symm hmarker]
    have halone := splitOptions_append hbefore []
    have hwithout := splitOptions_append hothers after
    have hwith := splitOptions_append hall after
    have hafter : beforeMarker after ++ fromMarker after = after :=
      List.takeWhile_append_dropWhile
    have hnil : fromMarker [] = [] ∧ afterMarker [] = [] := ⟨rfl, rfl⟩
    rw [List.append_assoc, hafter] at hwithout
    rw [List.append_assoc, List.cons_append, hafter] at hwith
    rw [hnil.1, hnil.2, List.append_nil, List.append_nil] at halone
    refine ⟨(beforeMarker after).filter (fun word => ¬ IsOptionWord word) ++ afterMarker after,
      (splitOptions (before ++ after)).2, ?_, ?_⟩
    · rw [hwithout, halone, List.filter_append, List.append_assoc]
    · rw [hwith, halone, hwithout]
      simp [wordItems, hread, hoption]

/-- **A numeral is an argument**, whatever its sign. -/
theorem staysPositional_of_numeral {t : Text} {v : Int} (h : Numeral t v) : StaysPositional t :=
  staysPositional h.ne_endMarker h.not_isOptionWord

theorem StaysPositional.splitOptions_singleton {word : Text} (h : StaysPositional word) :
    splitOptions [word] = ([word], .empty) := by
  obtain ⟨more, options, hnone, hone⟩ := h [] []
  obtain ⟨rfl, rfl⟩ : [] = more ∧ Dictionary.empty = options := Prod.mk.inj hnone
  exact hone

/-! ### Texts that are written as words -/

/-- A text that is written as a word is a line with this word. -/
theorem Quoting.tokenize_write {q : Quoting} {t : Text} (h : q = .bare → t ≠ []) :
    tokenize (q.write t) = .ok [[q.word t]] := by
  have hread := tokenize_segments (segments_ne_nil h) (lexemesFit_segments (q.fits_segments t) [])
  rwa [spell_segments] at hread

/-- No digit is special. -/
theorem IsDigits.not_escapedPlain {t : Text} (h : IsDigits t) : ∀ c ∈ t, ¬ EscapedPlain c := by
  intro c hc
  have hname : isNameChar c = true := by
    have hdigit := h.2 c hc
    rw [isDigit] at hdigit
    rw [isNameChar, hdigit, Bool.or_true]
  rintro (hblank | hspecial)
  · exact absurd hblank (by simp [(isPlain_of_isNameChar hname).1])
  · simp only [List.mem_cons, List.not_mem_nil, or_false] at hspecial
    rcases hspecial with rfl | rfl | rfl | rfl | rfl
    all_goals exact absurd hname (by decide)

/-- No character of a numeral is special. -/
theorem Numeral.not_escapedPlain {t : Text} {v : Int} (h : Numeral t v) :
    ∀ c ∈ t, ¬ EscapedPlain c := by
  cases h with
  | digits hdigits => exact hdigits.not_escapedPlain
  | plus hdigits => exact List.forall_mem_cons.mpr ⟨by decide, hdigits.not_escapedPlain⟩
  | minus hdigits => exact List.forall_mem_cons.mpr ⟨by decide, hdigits.not_escapedPlain⟩

/-- **A numeral is a word that needs no quotes.** -/
theorem Numeral.tokenize_eq {t : Text} {v : Int} (h : Numeral t v) :
    tokenize t = .ok [[Quoting.word .bare t]] := by
  have hne : t ≠ [] := by
    cases h with
    | digits hd => exact hd.1
    | plus hd => exact List.cons_ne_nil _ _
    | minus hd => exact List.cons_ne_nil _ _
  have hwrite : Quoting.write .bare t = t :=
    (List.flatMap_congr fun c hc => if_neg (h.not_escapedPlain c hc)).trans
      (List.flatMap_singleton' t)
  have hread := Quoting.tokenize_write (q := .bare) fun _ => hne
  rwa [hwrite] at hread

/-! ### The variable that holds the status -/

namespace Shell

/-- **A status has just been recorded**, from outside or by a line that is not blank and that gave
it. -/
inductive JustRecorded : Shell → Int32 → Prop
  /-- From outside. -/
  | record (sh : Shell) (code : Int32) : JustRecorded (sh.recordStatus code) code
  /-- By a line. -/
  | line {sh : Shell} {host : Host} {line : Text} {s : Streams} {status : Status} :
      allBlank line = false → (sh.runLine Registry.standard host line s).1 = .ok status →
      JustRecorded (sh.runLine Registry.standard host line s).2.1 status.code

/-- Either way, the last thing that happened to the session is that the status was recorded. -/
theorem JustRecorded.exists_recordStatus {sh : Shell} {code : Int32} (h : sh.JustRecorded code) :
    ∃ before : Shell, sh = before.recordStatus code := by
  cases h with
  | record before => exact ⟨before, rfl⟩
  | @line sh host line s status hblank hstatus =>
    cases hread : readLine line sh.vars with
    | error e =>
      rw [runLine_of_error hread] at hstatus
      cases hstatus
    | ok stages =>
      rcases eq_or_ne stages [] with rfl | hne
      · rw [(readLine_eq_nil_iff line sh.vars).mp hread] at hblank
        cases hblank
      · rw [runLine_of_ok hread hne] at hstatus ⊢
        generalize runPipeline (runCommand _ host) stages sh.machine s = ended at hstatus ⊢
        rcases ended with ⟨e | status', machine, s'⟩
        · cases hstatus
        · obtain rfl : status' = status := Except.ok.inj hstatus
          exact ⟨_, rfl⟩

theorem JustRecorded.value_statusName {sh : Shell} {code : Int32} (h : sh.JustRecorded code) :
    sh.vars.value statusName = decimalInt32 code := by
  obtain ⟨before, rfl⟩ := h.exists_recordStatus
  rw [Variables.value, get?_vars_recordStatus, Option.getD_some]

end Shell

/-! ### Lines that end a session -/

/-- What `exit` says of a text that is no numeral. -/
def exitComplaint (t : Text) : Text :=
  "exit: numeric argument required (".toList ++ t ++ [')', '\n']

/-- A complaint is written once, unless the error stream takes nothing. -/
theorem written_putError {s : Streams} (h : s.error.mode ≠ .writeFails) (t : Text) :
    (s.putError t).error.written = s.error.written ++ Utf8.encode t := by
  simp [Streams.putError, Output.put, Output.write, h]

/-- **A line ends the session with the status that a text stands for**, and does nothing else.  If
the text does not stand for a status, the line says so and ends the session with 2. -/
structure Shell.ExitsWith (sh : Shell) (host : Host) (line : Text) (s : Streams) (t : Text) :
    Prop where
  /-- The text stands for a status. -/
  status : ∀ n : Int32, Numeral t n.toInt →
    sh.runLine Registry.standard host line s = (.ok (.exit n), sh.recordStatus n, s)
  /-- It does not. -/
  complaint : (∀ n : Int32, ¬ Numeral t n.toInt) →
    sh.runLine Registry.standard host line s
      = (.ok (.exit 2), sh.recordStatus 2, s.putError (exitComplaint t)) ∧
    (s.error.mode ≠ .writeFails → (s.putError (exitComplaint t)).error.written
      = s.error.written ++ Utf8.encode (exitComplaint t))

/-- A line with a single command, which calls `exit`, ends the session. -/
theorem Shell.exitsWith_of_calls {sh : Shell} {line : Text} {c : Command} {t : Text}
    (hread : readLine line sh.vars = .ok [c]) (hc : c.Calls Builtin.exit [t]) (host : Host)
    (s : Streams) : sh.ExitsWith host line s t := by
  have hexit : Registry.standard.get? Builtin.exit.name = some Builtin.exit := rfl
  have hline : sh.runLine Registry.standard host line s
      = sh.close (runCommand Registry.standard host c sh.machine s) :=
    runLine_of_ok hread (List.cons_ne_nil c [])
  rw [runCommand_of_calls hexit hc] at hline
  constructor
  · intro n hn
    rw [hline]
    simp only [Builtin.exit, Builtin.runExit, Builtin.reading, hc.args,
      readInt32?_eq_some_iff.mpr hn]
    rfl
  · intro hnone
    have ht : readInt32? t = none := Option.eq_none_iff_forall_ne_some.mpr fun n hn =>
      hnone n (readInt32?_eq_some_iff.mp hn)
    refine ⟨?_, fun hmode => written_putError hmode _⟩
    rw [hline]
    simp only [Builtin.exit, Builtin.runExit, Builtin.reading, hc.args, ht]
    rfl

/-- One more word at the end of a line is one more word of its last command. -/
theorem readLine_append_word {front : Text} {head : Word} {rest : Stage}
    (hfront : tokenize front = .ok [head :: rest])
    (hlast : lastPart? (head :: rest) ≠ some keptBackslash) (hhead : head.assignment? = none)
    {text : Text} {w : Word} (hw : tokenize text = .ok [[w]]) (vars : Variables) :
    readLine (front ++ ' ' :: text) vars
      = .ok [.ofWords (head.expand vars) ((rest ++ [w]).map (Word.expand vars))] := by
  have hlone : tokenize front = .ok ([] ++ [head :: rest]) := hfront
  have hline := resumes_blanks hlone hlast (List.cons_ne_nil ' ' []) (by decide) text
  rw [hw, List.append_assoc, List.singleton_append] at hline
  have htokens : tokenize (front ++ ' ' :: text) = .ok [head :: (rest ++ [w])] := hline
  rw [readLine, htokens, Except.map, List.map_singleton, readStage_of_run _ vars hhead]

/-- The word `exit`. -/
def exitWord : Word := ⟨[⟨"exit", true, false⟩]⟩

theorem expand_exitWord (vars : Variables) : exitWord.expand vars = Builtin.exit.name := rfl

/-- A command `exit` whose words have a single argument calls `exit`. -/
theorem Command.calls_exit {argv : List Text} {t : Text} (h : splitOptions argv = ([t], .empty)) :
    (Command.ofWords Builtin.exit.name argv).Calls Builtin.exit [t] := by
  refine ⟨rfl, congrArg Prod.fst h, ?_⟩
  rw [Command.ofWords, h]
  rfl

section ExitLines

variable {text : Text} {w : Word} (hw : tokenize text = .ok [[w]]) {sh : Shell} {t : Text}
  (hexpand : w.expand sh.vars = t) (host : Host) (s : Streams)
include hw hexpand

/-- **A line `exit ARG`**, the argument of which is no option. -/
theorem exitsWith_exitLine (ht : StaysPositional t) :
    sh.ExitsWith host ("exit ".toList ++ text) s t := by
  have hfront : tokenize "exit" = .ok [[exitWord]] := by decide
  have hread := readLine_append_word hfront (by decide) (by decide) hw sh.vars
  rw [expand_exitWord, List.nil_append, List.map_singleton, hexpand] at hread
  exact Shell.exitsWith_of_calls hread (Command.calls_exit ht.splitOptions_singleton) host s

/-- **A line `exit -- ARG`**, whatever the argument is. -/
theorem exitsWith_markedLine : sh.ExitsWith host ("exit -- ".toList ++ text) s t := by
  have hfront : tokenize "exit --" = .ok [[exitWord, ⟨[⟨"--", true, false⟩]⟩]] := by decide
  have hmarker : Word.expand sh.vars ⟨[⟨"--", true, false⟩]⟩ = endMarker := rfl
  have hread := readLine_append_word hfront (by decide) (by decide) hw sh.vars
  rw [expand_exitWord, List.singleton_append, List.map_cons, List.map_singleton, hexpand,
    hmarker] at hread
  exact Shell.exitsWith_of_calls hread
    (Command.calls_exit (splitOptions_endMarker List.not_mem_nil [t])) host s

end ExitLines

/-! ### The way of a status -/

/-- **What `$?` gives in a session.** -/
structure Shell.GivesStatus (sh : Shell) (n : Int32) : Prop where
  /-- The word `$?` is expanded to the status in decimal. -/
  word : ∃ w, tokenize "$?" = .ok [[w]] ∧ w.expand sh.vars = decimalInt32 n
  /-- So is every argument that is spelled like that. -/
  argument : PassesAs sh.vars "$?" (decimalInt32 n)
  /-- It is an argument wherever it stands, and never an option. -/
  positional : StaysPositional (decimalInt32 n)
  /-- The line `exit $?` ends the session with the status. -/
  exits : ∀ host s, sh.runLine Registry.standard host "exit $?" s
    = (.ok (.exit n), sh.recordStatus n, s)

/-- **`$?` gives the status that has just been recorded.** -/
theorem Shell.JustRecorded.givesStatus {sh : Shell} {n : Int32} (h : sh.JustRecorded n) :
    sh.GivesStatus n := by
  have hw : tokenize "$?" = .ok [[⟨[⟨"$?", true, false⟩]⟩]] := by decide
  have hexpand : Word.expand sh.vars ⟨[⟨"$?", true, false⟩]⟩ = decimalInt32 n := by
    rw [Word.expand_ofChars, ← h.value_statusName]
    exact expandChars_statusReference sh.vars
  have hpass := passesAs_of_tokenize hw sh.vars
  rw [hexpand] at hpass
  have hnumeral : Numeral (decimalInt32 n) n.toInt := numeral_decimalInt n.toInt
  have hpositional := staysPositional_of_numeral hnumeral
  exact ⟨⟨_, hw, hexpand⟩, hpass, hpositional, fun host s =>
    (exitsWith_exitLine hw hexpand host s hpositional).status n hnumeral⟩

/-- **A status is the same number after it has been a text.**  In every session, a line `exit N`
with the decimal of a status ends the session with this status, writes nothing and records it.  When
a status has just been recorded, `$?` gives it back: as a word, as an argument and never an option,
and as what a line `exit $?` ends the session with.  And of any text at all, in single quotes and
after `--`, `exit` takes just the numerals of integers of 32 bits; with any other it complains and
ends the session with 2. -/
theorem exitStatuses_survive (host : Host) (sh : Shell) (s : Streams) :
    (∀ n : Int32, sh.runLine Registry.standard host ("exit ".toList ++ decimalInt32 n) s
      = (.ok (.exit n), sh.recordStatus n, s)) ∧
    (∀ n : Int32, sh.JustRecorded n → sh.GivesStatus n) ∧
    ∀ t : Text, sh.ExitsWith host ("exit -- ".toList ++ inSingleQuotes t) s t := by
  refine ⟨fun n => ?_, fun n hn => hn.givesStatus, fun t => ?_⟩
  · have hnumeral : Numeral (decimalInt32 n) n.toInt := numeral_decimalInt n.toInt
    have hw := hnumeral.tokenize_eq
    have hexpand := Quoting.expand_word .bare (decimalInt32 n) sh.vars
    exact (exitsWith_exitLine hw hexpand host s (staysPositional_of_numeral hnumeral)).status n
      hnumeral
  · have hw := Quoting.tokenize_write (q := .single) (t := t) (by simp)
    exact exitsWith_markedLine hw (Quoting.expand_word .single t sh.vars) host s

/-- The least status, recorded by a line, and two texts that are no decimals of a status. -/
theorem exitStatuses_survive_least :
    let host : Host := fun _ files => (.ran [] [] (.exited 0), files)
    let s : Streams := ⟨.ofBytes [], .fresh, .fresh, false, false⟩
    let before : Shell := .start ⟨.empty, ⟨[], []⟩⟩ .empty
    let sh := (before.runLine Registry.standard host "exit -2147483648" s).2.1
    sh.JustRecorded Int32.minValue ∧ sh.GivesStatus Int32.minValue ∧
    Numeral "-007" (-7) ∧
    sh.runLine Registry.standard host "exit -- '-007'" s
      = (.ok (.exit (-7)), sh.recordStatus (-7), s) ∧
    (∀ n : Int32, ¬ Numeral "2147483648" n.toInt) ∧
    sh.runLine Registry.standard host "exit -- '2147483648'" s
      = (.ok (.exit 2), sh.recordStatus 2, s.putError (exitComplaint "2147483648")) := by
  intro host s before sh
  have hstatus : (before.runLine Registry.standard host "exit -2147483648" s).1
      = .ok (.exit Int32.minValue) := by decide
  have hrecorded : sh.JustRecorded Int32.minValue := .line (by decide) hstatus
  have hnumeral : Numeral "-007" (-7) := readInt?_eq_some_iff.mp (by decide)
  have hnone : ∀ n : Int32, ¬ Numeral "2147483648" n.toInt := by
    intro n hn
    have hread : readInt32? "2147483648" = none := by decide
    rw [readInt32?_eq_some_iff.mpr hn] at hread
    cases hread
  obtain ⟨-, hgives, hexits⟩ := exitStatuses_survive host sh s
  exact ⟨hrecorded, hgives _ hrecorded, hnumeral, (hexits "-007").status (-7) hnumeral, hnone,
    ((hexits "2147483648").complaint hnone).1⟩

end CommandShell
