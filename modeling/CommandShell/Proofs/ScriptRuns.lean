import CommandShell.Proofs.Consumption
import CommandShell.Script
import Mathlib.Data.List.TakeWhile

/-!
# How a script is run

A script is cut after each newline, and its lines are run from the first one on: each of them
once, from what its predecessor has left.  That some lines are not run has three reasons only: a
line has asked for the end of the session, a stream of the shell has failed, or a command has
read the rest of the script.  A line never reads a part of what follows it, so no byte of a script
is lost, run twice, or both run and read.

A run is described by its *rounds*, the lines that are run together with the session and the
streams that each of them starts from.

## Main definitions

* `StandsIn line raw` — a line is what a piece of a script says, without its end.
* `Round` — a line that is run, with what it starts from.
* `Round.after`, `Round.ended?`, `Round.status?` — what it leaves.
* `Chained` — rounds of which each starts from what its predecessor has left.
* `ScriptRun` — all that is to be said of the rounds of a script.

## Main results

* `scriptLine_standsIn` — a line is what stands in its piece.
* `runScript_rounds` — **a script is run line by line.**
-/

namespace CommandShell

/-- **A line is what stands in a piece of a script before its end**: the piece is decoded, and the
longest ending of newlines and carriage returns is taken off. -/
def StandsIn (line : Text) (raw : Bytes) : Prop :=
  ∃ ending, Utf8.decodeLossy raw = line ++ ending ∧ (∀ c ∈ ending, c = '\n' ∨ c = '\r') ∧
    ∀ c ∈ line.getLast?, c ≠ '\n' ∧ c ≠ '\r'

theorem scriptLine_standsIn (raw : Bytes) : StandsIn (scriptLine raw) raw := by
  let p : Char → Bool := fun c => c = '\n' ∨ c = '\r'
  refine ⟨((Utf8.decodeLossy raw).reverse.takeWhile p).reverse, ?_, fun c hc => ?_, fun c hc => ?_⟩
  · rw [scriptLine, ← List.reverse_append, List.takeWhile_append_dropWhile, List.reverse_reverse]
  · have hp : p c = true := List.mem_takeWhile_imp (List.mem_reverse.mp hc)
    exact of_decide_eq_true hp
  · rw [scriptLine, List.getLast?_reverse] at hc
    have hnot := List.head?_dropWhile_not p (Utf8.decodeLossy raw).reverse
    rw [Option.mem_def.mp hc] at hnot
    simpa [p, not_or] using hnot

/-! ### Rounds -/

/-- A line that is run: the piece of the script that it is written in, and the session and the
streams that it starts from.  Their input is what follows the line. -/
structure Round where
  /-- The line with its end. -/
  raw : Bytes
  /-- The session before the line. -/
  shell : Shell
  /-- The streams before the line. -/
  streams : Streams

variable (registry : Registry) (host : Host)

namespace Round

variable (r : Round)

/-- What running the line gives. -/
def outcome : LineOutcome := r.shell.runLine registry host (scriptLine r.raw) r.streams

/-- The session and the streams after the line.  If it cannot be read, there is a complaint, and
the status is 2. -/
def after : Shell × Streams :=
  match r.outcome registry host with
  | (.error (.line e), sh, s) => (sh.recordStatus 2, s.putError (e.message ++ ['\n']))
  | (_, sh, s) => (sh, s)

/-- The result with which the line ends the session, if it does: an error of a stream, or the
status that was asked for. -/
def ended? : Option (Except ShellError Int32) :=
  match (r.outcome registry host).1 with
  | .error (.stream cause) => some (.error (.stream cause))
  | .ok (.exit code) => some (.ok code)
  | .error (.line _) | .ok (.completed _) => none

/-- The status that the line leaves.  It is 2 if the line cannot be read.  A blank line leaves
none, nor does a line that a stream fails. -/
def status? : Option Int32 :=
  match readLine (scriptLine r.raw) r.shell.vars, (r.outcome registry host).1 with
  | .ok [], _ => none
  | _, .ok status => some status.code
  | _, .error (.line _) => some 2
  | _, .error (.stream _) => none

/-- A line of a script is run as this says. -/
theorem execute_eq :
    r.shell.execute registry host (scriptLine r.raw) r.streams
      = (match r.ended? registry host with
          | none => .ok none
          | some (.ok code) => .ok (some code)
          | some (.error e) => .error e, r.after registry host) := by
  rw [Shell.execute, ended?, after, outcome]
  generalize r.shell.runLine registry host (scriptLine r.raw) r.streams = answer
  rcases answer with ⟨(e | cause) | (code | code), sh, s⟩ <;> rfl

/-- If the session goes on, the last status is the one that the line leaves, if it leaves one. -/
theorem lastStatus_after (h : r.ended? registry host = none) :
    (r.after registry host).1.lastStatus
      = (r.status? registry host).getD r.shell.lastStatus := by
  rw [ended?, outcome, Shell.runLine] at h
  rw [after, status?, outcome, Shell.runLine]
  generalize readLine (scriptLine r.raw) r.shell.vars = read at h ⊢
  rcases read with e | (_ | ⟨c, rest⟩)
  · rfl
  · rfl
  · simp only at h ⊢
    generalize runPipeline (runCommand registry host) (c :: rest) r.shell.machine r.streams
      = ended at h ⊢
    rcases ended with ⟨(e | cause) | status, machine, s⟩
    · rfl
    · exact absurd h (by simp)
    · rfl

variable {registry} in
/-- A round takes from what follows its line as builtins take from their input. -/
theorem takes_after {R : Input → Input → Prop} (hR : ∀ {i j}, i.Whole j → R i j)
    (hregistry : ∀ b ∈ registry, b.Takes R) :
    R r.streams.input (r.after registry host).2.input := by
  have hline := takes_runLine hR hregistry host r.shell (scriptLine r.raw) r.streams
  rw [after, outcome]
  generalize r.shell.runLine registry host (scriptLine r.raw) r.streams = answer at hline ⊢
  rcases answer with ⟨(e | cause) | status, sh, s⟩
  · exact hline
  · exact hline
  · exact hline

end Round

/-! ### Runs -/

/-- Lines are run one after the other, each from what its predecessor has left and with the
lines after it still to be read.  Pieces that are not run at all are `unread`. -/
inductive Chained (unread : List Bytes) : Shell × Streams → List Round → Shell × Streams → Prop
  /-- No line is run. -/
  | nil {x : Shell × Streams} : Chained unread x [] x
  /-- A line is run before others. -/
  | cons {raw : Bytes} {sh : Shell} {s s' : Streams} {rounds : List Round} {y : Shell × Streams} :
      s' = { s with input := .ofBytes (rounds.map Round.raw ++ unread).flatten } →
      Chained unread (Round.after registry host ⟨raw, sh, s'⟩) rounds y →
      Chained unread (sh, s) (⟨raw, sh, s'⟩ :: rounds) y

/-- **What is to be said of a script that is run.**  Its `pieces` are run in `rounds` up to those
that are `unread`, from a session with its streams to an end. -/
structure ScriptRun (pieces : List Bytes) (start : Shell × Streams) (rounds : List Round)
    (unread : List Bytes) (ended : Except ShellError Int32 × Shell × Streams) : Prop where
  /-- Lines are run from the first one on, each once and in order. -/
  pieces_eq : rounds.map Round.raw ++ unread = pieces
  /-- A line is what its piece says without its end. -/
  lines : ∀ r ∈ rounds, StandsIn (scriptLine r.raw) r.raw
  /-- Each of them starts from what its predecessor has left, and the last leaves the end. -/
  chained : Chained registry host unread start rounds ended.2
  /-- What follows a line is left as it was, or read to its end. -/
  whole : ∀ r ∈ rounds, r.streams.input.Whole (r.after registry host).2.input
  /-- A line that another follows has not ended the session nor read what follows it. -/
  continues : ∀ r ∈ rounds.dropLast, r.ended? registry host = none ∧
    (r.after registry host).2.input = r.streams.input
  /-- If pieces are unread, the last line has ended the session or read what follows it. -/
  stops : unread ≠ [] → ∃ r ∈ rounds.getLast?,
    r.ended? registry host ≠ none ∨ (r.after registry host).2.input = .ofBytes []
  /-- The result is the one with which the last line has ended the session, or else the last
  status that a line has left. -/
  result : ended.1 = (rounds.getLast?.bind (Round.ended? registry host)).getD
    (.ok (rounds.foldl (fun code r => (r.status? registry host).getD code) start.1.lastStatus))

section Runs

variable {registry} {host}

/-- A script without lines. -/
theorem ScriptRun.nil (sh : Shell) (s : Streams) :
    ScriptRun registry host [] (sh, s) [] [] (.ok sh.lastStatus, sh, s) :=
  ⟨rfl, by simp, .nil, by simp, by simp, fun h => absurd rfl h, rfl⟩

/-- A line is the last if it has ended the session, or if nothing is left of the input. -/
theorem ScriptRun.last {raw : Bytes} {sh : Shell} {s : Streams} {unread : List Bytes}
    {r : Round} (hr : r = ⟨raw, sh, { s with input := .ofBytes unread.flatten }⟩)
    (hwhole : r.streams.input.Whole (r.after registry host).2.input)
    (hstop : r.ended? registry host ≠ none ∨ (r.after registry host).2.input = .ofBytes []) :
    ScriptRun registry host (raw :: unread) (sh, s) [r] unread
      ((r.ended? registry host).getD (.ok (r.after registry host).1.lastStatus),
        r.after registry host) := by
  subst hr
  refine ⟨rfl, fun r _ => scriptLine_standsIn r.raw, .cons rfl .nil, ?_, by simp,
    fun _ => ⟨_, rfl, hstop⟩, ?_⟩
  · rwa [List.forall_mem_singleton]
  · rw [List.getLast?_singleton, Option.bind_some]
    cases hended : Round.ended? registry host _ with
    | some result => rfl
    | none => rw [Round.lastStatus_after registry host _ hended]; rfl

/-- A line before others leaves the session and what follows it. -/
theorem ScriptRun.cons {raw : Bytes} {sh : Shell} {s : Streams} {pieces unread : List Bytes}
    {r : Round} {rounds : List Round} {ended : Except ShellError Int32 × Shell × Streams}
    (hr : r = ⟨raw, sh, { s with input := .ofBytes pieces.flatten }⟩)
    (hended : r.ended? registry host = none)
    (hinput : (r.after registry host).2.input = r.streams.input)
    (h : ScriptRun registry host pieces (r.after registry host) rounds unread ended) :
    ScriptRun registry host (raw :: pieces) (sh, s) (r :: rounds) unread ended := by
  have hresult := h.result
  rw [Round.lastStatus_after registry host r hended] at hresult
  subst hr
  refine ⟨?_, fun r _ => scriptLine_standsIn r.raw, ?_, ?_, ?_, ?_, ?_⟩
  · rw [List.map_cons, List.cons_append, h.pieces_eq]
  -- what follows the line are the pieces that are run after it and those that are not
  · refine .cons ?_ h.chained
    rw [h.pieces_eq]
  · rw [List.forall_mem_cons]
    exact ⟨.inl hinput, h.whole⟩
  · rcases eq_or_ne rounds [] with rfl | hne
    · simp
    · rw [List.dropLast_cons_of_ne_nil hne, List.forall_mem_cons]
      exact ⟨⟨hended, hinput⟩, h.continues⟩
  · intro hunread
    obtain ⟨q, hq, hstop⟩ := h.stops hunread
    refine ⟨q, ?_, hstop⟩
    rw [List.getLast?_cons, Option.mem_def.mp hq]
    rfl
  -- the line does not end the session, so at most it has left a status
  · rcases eq_or_ne rounds [] with rfl | hne
    · simpa [hended] using hresult
    · rw [List.getLast?_cons_of_ne_nil hne]
      exact hresult

end Runs

/-! ### Running a script -/

section Running

variable {registry} {host} {p : Prompt} (hp : p.shown = false)
include hp

/-- At the end of the input the session ends with the last status. -/
theorem runLines_nil (fuel : Nat) (sh : Shell) {s : Streams} (hs : s.input = .ofBytes []) :
    Shell.runLines registry host p (fuel + 1) sh s = (.ok sh.lastStatus, sh, s) := by
  obtain ⟨input, output, error, inTerminal, outTerminal⟩ := s
  obtain rfl : input = .ofBytes [] := hs
  rw [Shell.runLines, Shell.showPrompt, hp]
  rfl

/-- A line is run, and then those after it, unless it has ended the session. -/
theorem runLines_cons (fuel : Nat) (sh : Shell) {s : Streams} {b : Bytes}
    (hs : s.input = .ofBytes b) (hb : b ≠ []) {r : Round}
    (hr : r = ⟨(takeLine 0x0A b).1, sh, { s with input := .ofBytes (takeLine 0x0A b).2 }⟩) :
    Shell.runLines registry host p (fuel + 1) sh s
      = match r.ended? registry host with
        | none => Shell.runLines registry host p fuel (r.after registry host).1
            (r.after registry host).2
        | some result => (result, r.after registry host) := by
  obtain ⟨input, output, error, inTerminal, outTerminal⟩ := s
  obtain rfl : input = .ofBytes b := hs
  have hread : (Input.ofBytes b).readUntil
      = (some (takeLine 0x0A b).1, .ofBytes (takeLine 0x0A b).2) := rfl
  have hraw := takeLine_ne_nil 0x0A hb
  have hexec := r.execute_eq registry host
  rw [Shell.runLines, Shell.showPrompt, hp]
  simp only [hread, Bool.false_eq_true, if_false]
  generalize (takeLine 0x0A b).1 = raw at hraw hr ⊢
  subst hr
  -- an empty piece is read only at the end of the input
  cases raw with
  | nil => exact absurd rfl hraw
  | cons x raw =>
    simp only at hexec ⊢
    rw [hexec]
    rcases Round.ended? registry host _ with _ | (e | code) <;> rfl

variable (hregistry : ∀ b ∈ registry, b.ReadsWhole)
include hregistry

/-- The input is run piece by piece. -/
theorem exists_rounds {fuel : Nat} {b : Bytes} (hfuel : b.length < fuel) (sh : Shell)
    {s : Streams} (hs : s.input = .ofBytes b) :
    ∃ rounds unread, ScriptRun registry host (brokenAfter 0x0A b) (sh, s) rounds unread
      (Shell.runLines registry host p fuel sh s) := by
  -- a round takes a byte at least, so the rounds do not run out before the input
  induction fuel generalizing b sh s with
  | zero => exact absurd hfuel (Nat.not_lt_zero _)
  | succ fuel ih =>
    rcases eq_or_ne b [] with rfl | hb
    · rw [runLines_nil hp fuel sh hs]
      exact ⟨[], [], .nil sh s⟩
    · have hrest : (takeLine 0x0A b).2.length < b.length := takeLine_rest_lt 0x0A hb
      obtain ⟨r, hr⟩ : ∃ r : Round,
          r = ⟨(takeLine 0x0A b).1, sh, { s with input := .ofBytes (takeLine 0x0A b).2 }⟩ :=
        ⟨_, rfl⟩
      have hround : r = ⟨(takeLine 0x0A b).1, sh,
          { s with input := .ofBytes (brokenAfter 0x0A (takeLine 0x0A b).2).flatten }⟩ := by
        rw [flatten_brokenAfter, hr]
      have hinput : r.streams.input = .ofBytes (takeLine 0x0A b).2 := by rw [hr]
      have hwhole : r.streams.input.Whole (r.after registry host).2.input :=
        r.takes_after host id hregistry
      rw [brokenAfter_eq_cons 0x0A hb, runLines_cons hp fuel sh hs hb hr]
      cases hended : r.ended? registry host with
      | some result =>
        have h := ScriptRun.last hround hwhole (.inl (by simp [hended]))
        rw [hended] at h
        exact ⟨[r], _, h⟩
      | none =>
        rcases hwhole with hkept | htaken
        · obtain ⟨rounds, unread, h⟩ := ih (by omega) (r.after registry host).1
            (hkept.trans hinput)
          exact ⟨r :: rounds, unread, .cons hround hended hkept h⟩
        · -- nothing is left to be run, and the next round finds the end of the input
          have hempty : (r.after registry host).2.input = .ofBytes [] := by
            rw [htaken, hinput]
            rfl
          obtain ⟨fuel, rfl⟩ : ∃ n, fuel = n + 1 := Nat.exists_eq_add_one.mpr (by omega)
          have h := ScriptRun.last hround (.inr htaken) (.inr hempty)
          rw [hended] at h
          simp only
          rw [runLines_nil hp fuel _ hempty]
          exact ⟨[r], _, h⟩

end Running

/-- **A script is run line by line.**  Without a prompt, from any session and with outputs that may
fail, the lines of a script are run from the first one on, each of them once and from what its
predecessor has left.  A line is a piece of the script, decoded and without its end.  A line leaves
what follows it as it was or reads all of it.  Lines are left unread only after one that has asked
for the end of the session, that a stream has failed, or that has read what follows it.  The result
is the error of the last line, or the status that it has asked for, or else the last status; that
is 2 after a line that cannot be read, is not changed by a blank line, and is the one of the session
if no line has left another.  Programs of the host may do anything; builtins beyond the standard
ones must read all of their input if they read it. -/
theorem runScript_rounds {registry : Registry}
    (hregistry : ∀ b ∈ registry, b ∈ Registry.standard ∨ b.ReadsWhole) (host : Host)
    {p : Prompt} (hp : p.shown = false) (script : Bytes) (sh : Shell) (output error : Output) :
    let s : Streams := ⟨.ofBytes script, output, error, false, false⟩
    ∃ rounds unread, ScriptRun registry host (brokenAfter 0x0A script) (sh, s) rounds unread
      (sh.runScript registry host p s) := by
  intro s
  have hwhole : ∀ b ∈ registry, b.ReadsWhole := by
    intro b hb
    exact (hregistry b hb).elim readsWhole_of_mem_standard id
  exact exists_rounds hp hwhole (Nat.lt_succ_self _) sh rfl

/-- The command `cat` prints the line that follows it, which is not run. -/
theorem runScript_rounds_cat :
    let host : Host := fun _ files => (.failed .notFound, files)
    let sh : Shell := .start ⟨.empty, ⟨[], []⟩⟩ .empty
    let p : Prompt := ⟨[], false, false⟩
    let script : Bytes := [0x63, 0x61, 0x74, 0x0A, 0x78, 0x0A]
    (∀ b ∈ Registry.standard, b ∈ Registry.standard ∨ b.ReadsWhole) ∧ p.shown = false ∧
    ∃ rounds unread, ScriptRun Registry.standard host [[0x63, 0x61, 0x74, 0x0A], [0x78, 0x0A]]
      (sh, ⟨.ofBytes script, .fresh, .fresh, false, false⟩) rounds unread
      (.ok 0, sh, ⟨.ofBytes [], ⟨[0x78, 0x0A], .working⟩, .fresh, false, false⟩) := by
  intro host sh p script
  have hp : p.shown = false := rfl
  have hrun : sh.runScript Registry.standard host p
      ⟨.ofBytes script, .fresh, .fresh, false, false⟩
      = (.ok 0, sh, ⟨.ofBytes [], ⟨[0x78, 0x0A], .working⟩, .fresh, false, false⟩) := rfl
  refine ⟨fun b hb => .inl hb, hp, ?_⟩
  rw [← hrun]
  exact runScript_rounds (fun b hb => .inl hb) host hp script sh .fresh .fresh

end CommandShell
