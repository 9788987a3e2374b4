import CommandShell.Proofs.Decoding
import CommandShell.Proofs.ScriptRuns

/-!
# A script of one line

A line can be run in two ways: as the only line of a script, or by itself.  As a script it comes
in bytes, which are cut after the newline, decoded and trimmed, and once it has run the end of the
script has to be found.  By itself it is there from the beginning, and the input is empty.

Both ways run the same line with an input that has ended.  What has ended stays so, whatever the
line does.  So the next round of the script finds the end, and gives the status that the line has
left.

## Main definitions

* `writtenLine` — a line as it stands in a script.
* `Input.StaysEnded` — an input that has ended is not filled again.

## Main results

* `scriptLine_writtenLine` — a line is read as it was written.
* `runScript_writtenLine` — **a script of one line is that line.**
-/

namespace CommandShell

/-! ### The bytes of a line -/

/-- A line as it stands in a script. -/
def writtenLine (line : Text) : Bytes := Utf8.encode (line ++ ['\n'])

theorem writtenLine_eq (line : Text) : writtenLine line = Utf8.encode line ++ [0x0A] :=
  Utf8.encode_append line ['\n']

section Written

variable {line : Text} (hnl : '\n' ∉ line)
include hnl

/-- A line is found in its script. -/
theorem takeLine_writtenLine : takeLine 0x0A (writtenLine line) = (writtenLine line, []) := by
  have hbytes : 0x0A ∉ Utf8.encode line :=
    mt (Utf8.mem_encode_iff (c := '\n') (by decide) line).mp hnl
  rw [writtenLine_eq, takeLine_append_cons hbytes]

/-- **A line is read as it was written**, unless it ends in a carriage return. -/
theorem scriptLine_writtenLine (hcr : line.getLast? ≠ some '\r') :
    scriptLine (writtenLine line) = line := by
  rw [scriptLine, writtenLine, Utf8.decodeLossy_encode, List.reverse_append,
    List.reverse_singleton, List.singleton_append, List.dropWhile_cons_of_pos (by simp)]
  rcases List.eq_nil_or_concat line with rfl | ⟨front, last, rfl⟩
  · rfl
  · have hlast : ¬ (last = '\n' ∨ last = '\r') := by
      rintro (rfl | rfl)
      · exact hnl (by simp)
      · exact hcr (by simp)
    rw [List.concat_eq_append, List.reverse_append, List.reverse_singleton, List.singleton_append,
      List.dropWhile_cons_of_neg (by simpa using hlast), List.reverse_cons, List.reverse_reverse]

end Written

/-! ### The end of the input -/

/-- If the input had ended before, it has ended after. -/
def Input.StaysEnded (i j : Input) : Prop := i = .ofBytes [] → j = .ofBytes []

theorem Input.Whole.staysEnded {i j : Input} (h : i.Whole j) : i.StaysEnded j := by
  rintro rfl
  rcases h with rfl | rfl
  · rfl
  · rfl

/-! ### Both ways to run a line -/

/-- To run a line by itself is a round, without more. -/
theorem runOnce_eq (registry : Registry) (host : Host) {r : Round} {line : Text}
    (hline : scriptLine r.raw = line) :
    r.shell.runOnce registry host line r.streams
      = ((r.ended? registry host).getD (.ok (r.after registry host).1.lastStatus),
          r.after registry host) := by
  subst hline
  rw [Shell.runOnce, r.execute_eq registry host]
  rcases r.ended? registry host with _ | (e | code) <;> rfl

/-- **A script of one line is that line.**  Run as a script without a prompt, from any session and
with outputs that may fail, a line gives the same result, leaves the same session, and writes the
same as if it is run by itself with an empty input.  That is so for every line that can be told from
its script, that is one without a newline and without a carriage return at its end.  Programs of
the host may do anything; builtins beyond the standard ones must not fill an input that has
ended. -/
theorem runScript_writtenLine {registry : Registry}
    (hregistry : ∀ b ∈ registry, b ∈ Registry.standard ∨ b.Takes Input.StaysEnded) (host : Host)
    {p : Prompt} (hp : p.shown = false) {line : Text} (hnl : '\n' ∉ line)
    (hcr : line.getLast? ≠ some '\r') (sh : Shell) (s : Streams) :
    sh.runScript registry host p { s with input := .ofBytes (writtenLine line) }
      = sh.runOnce registry host line { s with input := .ofBytes [] } := by
  have htakes : ∀ b ∈ registry, b.Takes Input.StaysEnded := by
    intro b hb
    refine (hregistry b hb).elim (fun hb files c state s => ?_) id
    exact (readsWhole_of_mem_standard hb files c state s).staysEnded
  have htake := takeLine_writtenLine hnl
  have hne : writtenLine line ≠ [] := by simp [writtenLine_eq]
  obtain ⟨r, hr⟩ : ∃ r : Round, r = ⟨writtenLine line, sh, { s with input := .ofBytes [] }⟩ :=
    ⟨_, rfl⟩
  have hround : r = ⟨(takeLine 0x0A (writtenLine line)).1, sh,
      { s with input := .ofBytes (takeLine 0x0A (writtenLine line)).2 }⟩ := by rw [htake, hr]
  -- there is one round for the line, and another to find the end
  obtain ⟨n, hn⟩ : ∃ n, (writtenLine line).length = n + 1 :=
    Nat.exists_eq_add_one.mpr (List.length_pos_iff.mpr hne)
  have hrest : (r.after registry host).2.input = .ofBytes [] :=
    r.takes_after host Input.Whole.staysEnded htakes (by rw [hr])
  have hline : scriptLine r.raw = line := by rw [hr, scriptLine_writtenLine hnl hcr]
  calc sh.runScript registry host p { s with input := .ofBytes (writtenLine line) }
      = Shell.runLines registry host p (n + 1 + 1) sh
          { s with input := .ofBytes (writtenLine line) } := by rw [Shell.runScript, ← hn]; rfl
    _ = ((r.ended? registry host).getD (.ok (r.after registry host).1.lastStatus),
          r.after registry host) := by
        rw [runLines_cons hp (n + 1) sh (s := { s with input := .ofBytes (writtenLine line) }) rfl
          hne hround]
        cases r.ended? registry host with
        | some result => rfl
        | none => exact runLines_nil hp n (r.after registry host).1 hrest
    _ = sh.runOnce registry host line { s with input := .ofBytes [] } := by
        rw [← runOnce_eq registry host hline, hr]

/-- A line whose first command would read the script and whose second cannot flush what it writes,
one that cannot be read, and one that asks for the end of the session. -/
theorem runScript_writtenLine_cat :
    let host : Host := fun _ files => (.ran [0x78] [] (.exited 0), files)
    let sh : Shell := .start ⟨.empty, .start [0x2F]⟩ .empty
    let p : Prompt := ⟨"$ ", false, false⟩
    let s : Streams := ⟨.ofBytes [], ⟨[], .flushFails⟩, .fresh, false, true⟩
    let run (line : Text) := sh.runScript Registry.standard host p
      { s with input := .ofBytes (writtenLine line) }
    (∀ b ∈ Registry.standard, b ∈ Registry.standard ∨ b.Takes Input.StaysEnded) ∧
    p.shown = false ∧
    (∀ line ∈ ["cat | pwd".toList, "pwd |".toList, "exit 3 | cat".toList],
      '\n' ∉ line ∧ line.getLast? ≠ some '\r' ∧
        run line = sh.runOnce Registry.standard host line { s with input := .ofBytes [] }) ∧
    run "cat | pwd" = (.ok 1, sh.recordStatus 1, { s with
      output := ⟨[0x2F, 0x0A], .flushFails⟩
      error := ⟨Utf8.encode "pwd: cannot write to output stream\n", .working⟩ }) ∧
    run "pwd |" = (.ok 2, sh.recordStatus 2, { s with
      error := ⟨Utf8.encode (LineError.emptyPipe.message ++ ['\n']), .working⟩ }) ∧
    run "exit 3 | cat" = (.ok 3, sh.recordStatus 3, s) := by
  intro host sh p s run
  have hrun {line : Text} (hnl : '\n' ∉ line) (hcr : line.getLast? ≠ some '\r') :
      run line = sh.runOnce Registry.standard host line { s with input := .ofBytes [] } :=
    runScript_writtenLine (fun b hb => .inl hb) host rfl hnl hcr sh s
  refine ⟨fun b hb => .inl hb, rfl, ?_, ?_, ?_, ?_⟩
  · have hlines : ∀ line ∈ ["cat | pwd".toList, "pwd |".toList, "exit 3 | cat".toList],
        '\n' ∉ line ∧ line.getLast? ≠ some '\r' := by decide
    exact fun line hline => ⟨(hlines line hline).1, (hlines line hline).2,
      hrun (hlines line hline).1 (hlines line hline).2⟩
  · exact (hrun (by decide) (by decide)).trans (by decide)
  · exact (hrun (by decide) (by decide)).trans (by decide)
  · exact (hrun (by decide) (by decide)).trans (by decide)

end CommandShell
