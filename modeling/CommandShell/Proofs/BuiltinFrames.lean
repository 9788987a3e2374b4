import CommandShell.Proofs.Answers

/-!
# What builtins leave alone

A builtin does all that it is asked to do, or complains and does nothing.  It owns little: the
assignment a variable, `cd` the current folder, and those that read their input all of it.  What it
prints reaches the output whole or not at all.

Since a builtin is run by giving an answer, each of these is a fact about answers and the streams
that they are given to.

## Main definitions

* `Streams.Works` — the streams that a command writes to work.
* `Framed` — what a builtin may do, and what it leaves alone.

## Main results

* `Answer.eq_complain_of_failed`, `Answer.eq_of_succeeded`, `Answer.eq_of_exit` — the status tells
  the kind of an answer.
* `Answer.give_of_not_written` — an output that refuses is noticed only if it is written to.
* `run?_framed` — **builtins are all or nothing, and touch only what they own.**
-/

namespace CommandShell

/-! ### Streams that work, and streams that do not -/

namespace Streams

/-- The streams that a command writes to work. -/
def Works (s : Streams) : Prop := s.output.mode = .working ∧ s.error.mode = .working

/-- The same streams, with an output that behaves as it is told to. -/
def withOutputMode (s : Streams) (mode : OutputMode) : Streams :=
  { s with output := { s.output with mode := mode } }

end Streams

namespace Output

theorem put_of_working {o : Output} (h : o.mode = .working) (b : Bytes) :
    o.put b = (.ok (), { o with written := o.written ++ b }) := by
  simp [put, write, flush, h]

theorem put_of_writeFails {o : Output} (h : o.mode = .writeFails) (b : Bytes) :
    o.put b = (if b = [] then .ok () else .error .stream, o) := by
  obtain ⟨written, mode⟩ := o
  subst h
  by_cases hb : b = []
  · simp [put, write, flush, hb]
  · simp [put, write, hb]

end Output

section Answers

variable (name : Text) (state : ShellState) {s : Streams}

theorem emit_of_working (h : s.output.mode = .working) (text : Text) :
    emit name text s = (.success, { s with
      output := { s.output with written := s.output.written ++ Utf8.encode text } }) := by
  rw [emit, Streams.putOutput, Output.put_of_working h]

theorem complain_of_working (h : s.error.mode = .working) (message : Text) :
    complain message s = (.failure, { s with
      error := { s.error with
        written := s.error.written ++ Utf8.encode (message ++ ['\n']) } }) := by
  rw [complain, Streams.putError, Output.put_of_working h]

theorem emit_of_writeFails (h : s.output.mode = .writeFails) (text : Text) :
    emit name text s = if Utf8.encode text = [] then (.success, s)
      else (.failure, s.putError (name ++ ": cannot write to output stream\n".toList)) := by
  rw [emit, Streams.putOutput, Output.put_of_writeFails h]
  by_cases htext : Utf8.encode text = []
  · simp [htext]
  · simp [htext]

end Answers

/-! ### What an answer does -/

namespace Answer

variable {a : Answer} {name : Text} {state : ShellState} {s : Streams}

/-- A command that fails on working streams has complained. -/
theorem eq_complain_of_failed (h : s.Works) {code : Int32} (hcode : code ≠ 0)
    (hstatus : (a.give name state s).1 = .completed code) : ∃ message, a = .complain message := by
  cases a with
  | print text =>
    have hzero : Status.success = .completed code := by
      rw [← hstatus, give, emit_of_working name h.1]
    cases hzero
    exact absurd rfl hcode
  | complain message => exact ⟨message, rfl⟩
  | change after => cases hstatus; exact absurd rfl hcode
  | leave ended complaint => cases hstatus

/-- A command that succeeds has printed something or changed the state. -/
theorem eq_of_succeeded (hstatus : (a.give name state s).1 = .completed 0) :
    (∃ text, a = .print text) ∨ ∃ after, a = .change after := by
  cases a with
  | print text => exact .inl ⟨text, rfl⟩
  | complain message => exact absurd hstatus (by simp [give, CommandShell.complain, Status.failure])
  | change after => exact .inr ⟨after, rfl⟩
  | leave code complaint => cases hstatus

/-- Only a command that asks for it ends the session. -/
theorem eq_of_exit {code : Int32} (hstatus : (a.give name state s).1 = .exit code) :
    ∃ complaint, a = .leave code complaint := by
  cases a with
  | print text =>
    have hemit : (emit name text s).1 = .success ∨ (emit name text s).1 = .failure := by
      rw [emit]
      split
      · exact .inl rfl
      · exact .inr rfl
    rcases hemit with h | h
    · exact absurd (h.symm.trans hstatus) (by simp [Status.success])
    · exact absurd (h.symm.trans hstatus) (by simp [Status.failure])
  | complain message => cases hstatus
  | change after => cases hstatus
  | leave code complaint => cases hstatus; exact ⟨complaint, rfl⟩

/-- Nothing is ever written in part to an output that refuses. -/
theorem output_give_of_writeFails (h : s.output.mode = .writeFails) :
    (a.give name state s).2.2.output = s.output := by
  cases a with
  | print text =>
    rw [give, emit_of_writeFails name h]
    split <;> rfl
  | complain message => rfl
  | change after => rfl
  | leave code complaint => rfl

/-- An answer that a working output would write fails on one that refuses. -/
theorem status_give_of_written (h : s.output.mode = .writeFails)
    (hwritten : (a.give name state (s.withOutputMode .working)).2.2.output.written
      ≠ s.output.written) : (a.give name state s).1 = .failure := by
  cases a with
  | print text =>
    have htext : Utf8.encode text ≠ [] := by
      rintro htext
      rw [give, emit_of_working name rfl, htext] at hwritten
      exact hwritten (List.append_nil _)
    rw [give, emit_of_writeFails name h, if_neg htext]
  | complain message => exact absurd rfl hwritten
  | change after => exact absurd rfl hwritten
  | leave code complaint => exact absurd rfl hwritten

/-- An answer that writes nothing is given by an output that refuses as by one that works. -/
theorem give_of_not_written (h : s.output.mode = .writeFails)
    (hwritten : (a.give name state (s.withOutputMode .working)).2.2.output.written
      = s.output.written) :
    (a.give name state s).1 = (a.give name state (s.withOutputMode .working)).1 ∧
      (a.give name state s).2.1 = (a.give name state (s.withOutputMode .working)).2.1 := by
  cases a with
  | print text =>
    have htext : Utf8.encode text = [] := by
      rw [give, emit_of_working name rfl] at hwritten
      exact List.append_right_eq_self.mp hwritten
    rw [give, give, emit_of_writeFails name h, if_pos htext, emit_of_working name rfl]
    exact ⟨rfl, rfl⟩
  | complain message => exact ⟨rfl, rfl⟩
  | change after => exact ⟨rfl, rfl⟩
  | leave code complaint => exact ⟨rfl, rfl⟩

/-- An answer is given in the same way whatever the input is. -/
theorem give_withInput (input : Input) :
    a.give name state { s with input := input }
      = ((a.give name state s).1, (a.give name state s).2.1,
          { (a.give name state s).2.2 with input := input }) := by
  cases a with
  | print text =>
    simp only [give, emit, Streams.putOutput]
    rcases s.output.put (Utf8.encode text) with ⟨_ | _, output⟩
    · rfl
    · rfl
  | complain message => rfl
  | change after => rfl
  | leave code complaint => rfl

end Answer

/-! ### What a command does to what it has been given -/

/-- **What a builtin may do, and what it leaves alone.**  The command `c` is run with `s`, and ends
with the status, the state and the streams of `o`. -/
structure Framed (files : FileTree) (c : Command) (state : ShellState) (s : Streams)
    (o : Status × ShellState × Streams) : Prop where
  /-- A command that fails has complained, and has done nothing else. -/
  failed : s.Works → ∀ code, o.1 = .completed code → code ≠ 0 →
    o.2.2.output = s.output ∧ o.2.1 = state ∧ ∃ message, message ≠ [] ∧
      o.2.2.error.written = s.error.written ++ Utf8.encode (message ++ ['\n'])
  /-- A command that succeeds does not complain.  It gives a value to at most one variable, the
  first argument of an assignment, and moves to another folder only if it is a `cd`. -/
  succeeded : s.Works → o.1 = .completed 0 →
    o.2.2.error = s.error ∧ o.2.1.location.home = state.location.home ∧
      (o.2.1.vars = state.vars ∨ ∃ name value, c.name = assignmentName ∧
        c.args = [name, value] ∧ o.2.1.vars = state.vars.insert name value) ∧
      (o.2.1.location.cwd = state.location.cwd ∨
        c.name = Builtin.cd.name ∧ c.options.has helpOption = false)
  /-- A command that ends the session leaves everything to others. -/
  ended : s.Works → ∀ code, o.1 = .exit code → o.2.2.output = s.output ∧ o.2.1 = state
  /-- Nothing is written in part.  What an output refuses is a failure if it is anything. -/
  refused : s.output.mode = .writeFails → o.2.2.output = s.output ∧
    ∃ o', Registry.standard.run? files c state (s.withOutputMode .working) = some o' ∧
      (o'.2.2.output.written ≠ s.output.written → o.1 = .failure) ∧
      (o'.2.2.output.written = s.output.written → o.1 = o'.1 ∧ o.2.1 = o'.2.1)
  /-- A command that reads its input reads all of it. -/
  read : ¬ c.PrintsHelp → c.ReadsInput → o.2.2.input = { s.input with bytes := [] }
  /-- Any other command leaves its input as it is, and does the same with any other input. -/
  unread : c.PrintsHelp ∨ ¬ c.ReadsInput → o.2.2.input = s.input ∧
    ∀ input, Registry.standard.run? files c state { s with input := input }
      = some (o.1, o.2.1, { o.2.2 with input := input })

section Frames

variable {files : FileTree} {c : Command} {state : ShellState} {s : Streams} {a : Answer}

theorem failed_give (ha : a.Answers files c state) (h : s.Works) {code : Int32} (hcode : code ≠ 0)
    (hstatus : (a.give c.name state s).1 = .completed code) :
    (a.give c.name state s).2.2.output = s.output ∧ (a.give c.name state s).2.1 = state ∧
      ∃ message, message ≠ [] ∧ (a.give c.name state s).2.2.error.written
        = s.error.written ++ Utf8.encode (message ++ ['\n']) := by
  obtain ⟨message, rfl⟩ := Answer.eq_complain_of_failed h hcode hstatus
  obtain ⟨-, text, htext⟩ | ⟨-, hmessage, -⟩ := ha
  · cases htext
  · refine ⟨rfl, rfl, message, hmessage, ?_⟩
    rw [Answer.give, complain_of_working h.2]

theorem succeeded_give (ha : a.Answers files c state) (h : s.Works)
    (hstatus : (a.give c.name state s).1 = .completed 0) :
    (a.give c.name state s).2.2.error = s.error ∧
      (a.give c.name state s).2.1.location.home = state.location.home ∧
      ((a.give c.name state s).2.1.vars = state.vars ∨ ∃ name value, c.name = assignmentName ∧
        c.args = [name, value] ∧
        (a.give c.name state s).2.1.vars = state.vars.insert name value) ∧
      ((a.give c.name state s).2.1.location.cwd = state.location.cwd ∨
        c.name = Builtin.cd.name ∧ c.options.has helpOption = false) := by
  obtain ⟨text, rfl⟩ | ⟨after, rfl⟩ := Answer.eq_of_succeeded hstatus
  · rw [Answer.give, emit_of_working c.name h.1]
    exact ⟨rfl, rfl, .inl rfl, .inl rfl⟩
  · obtain ⟨-, text, htext⟩ | ⟨hhelp, hfits⟩ := ha
    · cases htext
    · obtain ⟨name, value, hassigned, rfl⟩ | ⟨target, hdest, -, rfl⟩ := hfits
      · obtain ⟨hname, hargs⟩ := Command.assigned?_eq_some_iff.mp hassigned
        exact ⟨rfl, rfl, .inr ⟨name, value, hname, hargs, rfl⟩, .inl rfl⟩
      · have hname := Command.name_of_destination? hdest
        exact ⟨rfl, rfl, .inl rfl, .inr ⟨hname, Command.not_asked_of_cd hname hhelp⟩⟩

end Frames

/-- What a command leaves of its input. -/
theorem input_run? {c : Command} (hc : c.IsBuiltin) {files : FileTree} {state : ShellState}
    {s : Streams} {o : Status × ShellState × Streams}
    (ho : Registry.standard.run? files c state s = some o) :
    (¬ c.PrintsHelp → c.ReadsInput → o.2.2.input = { s.input with bytes := [] }) ∧
    (c.PrintsHelp ∨ ¬ c.ReadsInput → o.2.2.input = s.input ∧
      ∀ input, Registry.standard.run? files c state { s with input := input }
        = some (o.1, o.2.1, { o.2.2 with input := input })) := by
  obtain ⟨hhelp, text, hrun⟩ | ⟨hhelp, run, hrun, hresponds⟩ := responds_run? hc files state
  · obtain rfl : (Answer.print text).give c.name state s = o := by simpa [hrun] using ho
    refine ⟨fun hnot => absurd hhelp hnot, fun _ => ⟨Answer.input_give _ _ _ _, fun input => ?_⟩⟩
    rw [hrun, Answer.give_withInput]
  · obtain rfl : run s = o := by simpa [hrun] using ho
    cases hresponds with
    | atOnce answer hreads hfits hanswer =>
      refine ⟨fun _ h => absurd h hreads, fun _ => ⟨?_, fun input => ?_⟩⟩
      · rw [hanswer, Answer.input_give]
      · rw [hrun, hanswer, hanswer, Answer.give_withInput]
    | afterReading answer hreads hfits hanswer =>
      refine ⟨fun _ _ => ?_, fun h => ?_⟩
      · rw [hanswer, Answer.input_give]
        rfl
      · exact absurd hreads (h.resolve_left hhelp)

/-- **Builtins are all or nothing, and touch only what they own.**  A command that names a standard
builtin has an outcome, whatever the files, the state and the streams are.  On working streams it
fails with a complaint and with nothing else done, or it succeeds without a complaint and has
changed at most the variable that it assigns or the folder that it goes to, or it ends the session.
Nothing is written in part.  The input is left alone or read to its end, and that by certain
commands only. -/
theorem run?_framed {c : Command} (hc : c.IsBuiltin) (files : FileTree) (state : ShellState)
    (s : Streams) :
    ∃ o, Registry.standard.run? files c state s = some o ∧ Framed files c state s o := by
  obtain ⟨a, rest, ha, hrun⟩ := exists_answer hc files state s.input
  have ho := hrun s rfl
  have hworking := hrun (s.withOutputMode .working) rfl
  obtain ⟨hread, hunread⟩ := input_run? hc ho
  refine ⟨_, ho, fun h code hstatus hcode => failed_give ha h hcode hstatus,
    fun h hstatus => succeeded_give ha h hstatus, fun h code hstatus => ?_, fun h => ?_, hread,
    hunread⟩
  · obtain ⟨complaint, rfl⟩ := Answer.eq_of_exit hstatus
    exact ⟨rfl, rfl⟩
  · have hsame : (a.give c.name state { s with input := rest }).2.2.output = s.output :=
      Answer.output_give_of_writeFails (s := { s with input := rest }) h
    exact ⟨hsame, _, hworking, Answer.status_give_of_written (s := { s with input := rest }) h,
      Answer.give_of_not_written (s := { s with input := rest }) h⟩

/-- The command `cat` reads its input, and fails because it cannot write what it has read. -/
theorem run?_framed_cat :
    let c := Command.plain "cat" []
    let state : ShellState := ⟨.empty, ⟨[], []⟩⟩
    let s : Streams := ⟨.ofBytes [0x78], ⟨[], .writeFails⟩, .fresh, false, false⟩
    c.IsBuiltin ∧ Framed .empty c state s (.failure, state, { s with
      input := .ofBytes []
      error := ⟨Utf8.encode "cat: cannot write to output stream\n", .working⟩ }) := by
  intro c state s
  have hc : c.IsBuiltin := by decide
  obtain ⟨o, ho, hframed⟩ := run?_framed hc .empty state s
  have hrun : Registry.standard.run? .empty c state s = some (.failure, state, { s with
      input := .ofBytes []
      error := ⟨Utf8.encode "cat: cannot write to output stream\n", .working⟩ }) := rfl
  obtain rfl := Option.some.inj (ho.symm.trans hrun)
  exact ⟨hc, hframed⟩

end CommandShell
