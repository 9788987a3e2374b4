import CommandShell.Builtin.Standard
import CommandShell.Proofs.Composition
import CommandShell.Proofs.IllFormed
import CommandShell.Shell

/-!
# Stages that make no difference

A stage between others is given a buffer and fills one.  If that is all it does, it is a map of byte
strings, and the stages after it are fed with what the map makes of what the stages before it have
handed over.  Such a stage can be left out where the map changes nothing.

The map of `cat` is to decode and to encode again.  It leaves a byte string as it is just if that is
well formed, and what it has made is well formed, so that a second `cat` never makes a difference.

## Main definitions

* `Step.Relays` — a command that maps what it is fed and does nothing else.
* `handedOver` — what the stages before a cut hand over to those after it.
* `Command.Calls` — a command that runs a builtin.
* `Command.CopiesInput` — a `cat` without arguments.

## Main results

* `runPipeline_relay`, `runPipeline_relay_relay` — when such a stage can be left out.
* `encode_decodeLossy_eq_iff` — what `cat` leaves as it is.
* `runPipeline_cat` — **`cat` is neutral between stages**, on well-formed bytes and after itself.
-/

namespace CommandShell

/-! ### Stages that map what they are fed -/

section Relays

variable {σ : Type} {step : Step σ}

/-- A command between others makes `f b` of what it is fed, succeeds, and does nothing else. -/
def Step.Relays (step : Step σ) (c : Command) (f : Bytes → Bytes) : Prop :=
  ∀ (x : σ) (s : Streams) (b : Bytes), step c x (s.capture.feed b)
    = (.ok .success, x, { s.capture.feed [] with output := ⟨f b, .working⟩ })

/-- What the stages before a cut hand over to those after it, if they come to that. -/
def handedOver (step : Step σ) (front : List Command) (x : σ) (s : Streams) : Option Bytes :=
  match runPipeline step front x s.capture with
  | (.ok (.completed _), _, after) => some after.output.written
  | _ => none

variable {c : Command} {f : Bytes → Bytes} (hrelays : step.Relays c f) {front back : List Command}
  (hback : back ≠ [])
include hrelays hback

/-- The stages after it are fed with what it has made. -/
theorem runStages_relay (b : Bytes) (x : σ) (s : Streams) :
    runStages step (some b) (c :: back) x s = runStages step (some (f b)) back x s := by
  have hstage : runStage step (some b) c x s.capture
      = (.ok .success, x, { s.capture with output := ⟨f b, .working⟩ }) := by
    have hstep := hrelays x s b
    exact congrArg (Outcome.mapStreams (·.unfeed s.capture)) hstep
  rw [runStages_cons step _ c hback, hstage]
  rfl

variable (hfront : front ≠ [])
include hfront

/-- **It can be left out where it changes nothing**, and where it is not reached. -/
theorem runPipeline_relay {x : σ} {s : Streams} (h : ∀ b ∈ handedOver step front x s, f b = b) :
    runPipeline step (front ++ c :: back) x s = runPipeline step (front ++ back) x s := by
  rw [handedOver] at h
  rw [runPipeline, runPipeline, runStages_append step hfront (List.cons_ne_nil c back),
    runStages_append step hfront hback, ← runPipeline]
  -- only stages that complete are followed by others
  generalize runPipeline step front x s.capture = o at h ⊢
  rcases o with ⟨(e | (code | code)), x, after⟩
  · rfl
  · simp only
    rw [runStages_relay hrelays hback, h _ rfl]
  · rfl

/-- **It can be left out after one whose outcomes it does not change.** -/
theorem runPipeline_relay_relay {c' : Command} {g : Bytes → Bytes} (hrelays' : step.Relays c' g)
    (h : ∀ b, f (g b) = g b) (x : σ) (s : Streams) :
    runPipeline step (front ++ c' :: c :: back) x s
      = runPipeline step (front ++ c' :: back) x s := by
  rw [runPipeline, runPipeline, runStages_append step hfront (List.cons_ne_nil c' _),
    runStages_append step hfront (List.cons_ne_nil c' _)]
  rcases runStages step none front x s.capture with ⟨(e | (code | code)), x, after⟩
  · rfl
  · simp only
    rw [runStages_relay hrelays' (List.cons_ne_nil c back), runStages_relay hrelays' hback,
      runStages_relay hrelays hback, h]
  · rfl

end Relays

/-! ### Commands that run a builtin -/

/-- A command that runs a builtin on some arguments: it does not ask for help. -/
structure Command.Calls (c : Command) (b : Builtin) (args : List Text) : Prop where
  /-- It names the builtin. -/
  name : c.name = b.name
  /-- These are the arguments. -/
  args : c.args = args
  /-- It does not ask for help. -/
  quiet : c.options.has helpOption = false

/-- A command that calls a builtin runs it. -/
theorem runCommand_of_calls {registry : Registry} {b : Builtin}
    (hb : registry.get? b.name = some b) {c : Command} {args : List Text} (hc : c.Calls b args)
    (host : Host) (m : Machine) (s : Streams) :
    runCommand registry host c m s = (.ok (b.run m.files c m.state s).1,
      { m with state := (b.run m.files c m.state s).2.1 },
      (b.run m.files c m.state s).2.2) := by
  have hrun : registry.run? m.files c m.state s = some (b.run m.files c m.state s) := by
    rw [Registry.run?, hc.name, hb, Option.map_some, hc.quiet]
    rfl
  rw [runCommand, hrun]

/-! ### What `cat` changes -/

/-- **To decode and to encode again changes nothing** just if the bytes are well formed. -/
theorem encode_decodeLossy_eq_iff {b : Bytes} :
    Utf8.encode (Utf8.decodeLossy b) = b ↔ (Utf8.decode? b).isSome = true := by
  rw [Option.isSome_iff_exists]
  constructor
  · intro h
    exact ⟨Utf8.decodeLossy b, Utf8.decode?_eq_some_iff.mpr h.symm⟩
  · rintro ⟨t, ht⟩
    rw [Utf8.decode?_eq_some_iff.mp ht, Utf8.decodeLossy_encode]

/-- A `cat` that copies its input: it names no file and does not ask for help. -/
structure Command.CopiesInput (c : Command) : Prop where
  /-- It is a `cat`. -/
  name : c.name = Builtin.cat.name
  /-- It names no file. -/
  args : c.args = []
  /-- It does not ask for help. -/
  quiet : c.options.has helpOption = false

section Cat

variable {registry : Registry} (hcat : registry.get? Builtin.cat.name = some Builtin.cat)
  (host : Host)
include hcat

/-- Between others, `cat` decodes and encodes what it is fed. -/
theorem relays_cat {c : Command} (hc : c.CopiesInput) :
    (runCommand registry host).Relays c fun b => Utf8.encode (Utf8.decodeLossy b) := by
  intro m s b
  have hcalls : c.Calls Builtin.cat [] := ⟨hc.name, hc.args, hc.quiet⟩
  rw [runCommand_of_calls hcat hcalls]
  simp only [Builtin.cat, Builtin.runCat, Builtin.reading, if_pos hc.args]
  rfl

/-- **`cat` is neutral between stages.**  A pipeline may be cut between any two stages, and a `cat`
put in.  If what is handed over there is well formed, or if the stages before the cut do not come to
that, the pipeline gives the same result, leaves the same session, files and input, and writes the
same output and complaints.  Whatever is handed over, a second `cat` makes no difference. -/
theorem runPipeline_cat {c c' : Command} (hc : c.CopiesInput) (hc' : c'.CopiesInput)
    {front back : List Command} (hfront : front ≠ []) (hback : back ≠ []) (m : Machine)
    (s : Streams) :
    ((∀ b ∈ handedOver (runCommand registry host) front m s, (Utf8.decode? b).isSome = true) →
      runPipeline (runCommand registry host) (front ++ c :: back) m s
        = runPipeline (runCommand registry host) (front ++ back) m s) ∧
    runPipeline (runCommand registry host) (front ++ c :: c' :: back) m s
      = runPipeline (runCommand registry host) (front ++ c :: back) m s := by
  have hrelays := relays_cat hcat host hc
  have hrelays' := relays_cat hcat host hc'
  refine ⟨fun hvalid => ?_, ?_⟩
  · exact runPipeline_relay hrelays hback hfront
      fun b hb => encode_decodeLossy_eq_iff.mpr (hvalid b hb)
  · exact runPipeline_relay_relay hrelays' hback hfront hrelays
      (fun b => by rw [Utf8.decodeLossy_encode]) m s

end Cat

/-- A `cat` between `echo` and a program of the host that writes two bytes for each that it is
given, the second of them none of a text. -/
theorem runPipeline_cat_echo :
    let host : Host := fun request files =>
      (.ran (request.input.flatMap fun b => [b, 0xFF]) [] (.exited 3), files)
    let cat := Command.plain "cat" []
    let front := [Command.plain "echo" ["é".toList]]
    let back := [Command.plain "od" []]
    let m : Machine := ⟨⟨.empty, ⟨[], []⟩⟩, .empty⟩
    let s : Streams := ⟨.ofBytes [0x78], .fresh, .fresh, false, false⟩
    Registry.standard.get? Builtin.cat.name = some Builtin.cat ∧ cat.CopiesInput ∧ front ≠ [] ∧
    back ≠ [] ∧ handedOver (runCommand Registry.standard host) front m s = some [0xC3, 0xA9, 0x0A] ∧
    runPipeline (runCommand Registry.standard host) (front ++ cat :: back) m s
      = (.ok (.completed 3), m, { s with
          output := ⟨[0xC3, 0xFF, 0xA9, 0xFF, 0x0A, 0xFF], .working⟩ }) ∧
    runPipeline (runCommand Registry.standard host) (back ++ cat :: cat :: front) m s
      = runPipeline (runCommand Registry.standard host) (back ++ cat :: front) m s := by
  intro host cat front back m s
  have hget : Registry.standard.get? Builtin.cat.name = some Builtin.cat := rfl
  have hcat : cat.CopiesInput := ⟨rfl, rfl, rfl⟩
  have hfront : front ≠ [] := List.cons_ne_nil _ _
  have hback : back ≠ [] := List.cons_ne_nil _ _
  have hover : handedOver (runCommand Registry.standard host) front m s
      = some [0xC3, 0xA9, 0x0A] := rfl
  have hvalid : ∀ b ∈ handedOver (runCommand Registry.standard host) front m s,
      (Utf8.decode? b).isSome = true := by
    intro b hb
    obtain rfl : [0xC3, 0xA9, 0x0A] = b := Option.some.inj (hover.symm.trans hb)
    decide
  refine ⟨hget, hcat, hfront, hback, hover, ?_, ?_⟩
  · exact ((runPipeline_cat hget host hcat hcat hfront hback m s).1 hvalid).trans rfl
  · exact (runPipeline_cat hget host hcat hcat hback hfront m s).2

end CommandShell
