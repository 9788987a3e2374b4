import CommandShell.Proofs.BuiltinFrames
import CommandShell.Proofs.LineReaders
import CommandShell.Proofs.NeutralStages

/-!
# Totals of counts

`wc` decodes and counts each of its files on its own, and adds the counts up.  `cat` decodes each of
its files on its own too, but then it encodes what it prints, so that a `wc` after it is fed with
other bytes where a file is no text.

All this comes to the same if each file consists of whole lines.  Decoding, the cutting into lines
and the cutting into words are each undisturbed by what stands behind a newline, be it in the middle
of a character that is cut short, so the counts of two such files are those of their bytes one after
the other.  And to encode what has been decoded changes neither the lines nor the words.

## Main definitions

* `WholeLines` — a file that is empty or ends with a newline.
* `Machine.Reads` — a file that can be read under a name.

## Main results

* `countWordsFrom_append_cons`, `brokenAfter_append_cons` — cutting in front of a newline, and
  behind it.
* `Counts.of_append`, `Counts.foldl_add` — counts of whole lines are added up.
* `runPipeline_wc_total` — **totals are the counts of the joined files**, and of a pipeline.
-/

namespace CommandShell

/-! ### Cutting at a newline -/

/-- **No word goes on behind a blank.** -/
theorem countWordsFrom_append_cons {c : Char} (hc : isBlank c = true) (inWord : Bool)
    (t u : Text) :
    countWordsFrom inWord (t ++ c :: u) = countWordsFrom inWord t + countWords u := by
  induction t generalizing inWord with
  | nil =>
    have hblank : countWordsFrom inWord (c :: u) = countWords u := if_pos hc
    rw [List.nil_append, hblank, countWordsFrom, Nat.zero_add]
  | cons d t ih =>
    rw [List.cons_append, countWordsFrom, countWordsFrom]
    split
    · exact ih false
    · rw [ih true, Nat.add_assoc]

/-- **No piece goes on behind a newline.** -/
theorem brokenAfter_append_cons {α : Type} [DecidableEq α] (nl : α) (xs ys : List α) :
    brokenAfter nl (xs ++ nl :: ys) = brokenAfter nl (xs ++ [nl]) ++ brokenAfter nl ys := by
  induction xs with
  | nil => simp [brokenAfter]
  | cons x xs ih =>
    rw [List.cons_append, List.cons_append, brokenAfter, brokenAfter, ih]
    split
    · rfl
    · -- the first character joins a piece, since a newline follows
      cases hpieces : brokenAfter nl (xs ++ [nl]) with
      | nil =>
        have hwhole := flatten_brokenAfter nl (xs ++ [nl])
        rw [hpieces] at hwhole
        exact absurd hwhole.symm (by simp)
      | cons piece rest => rfl

/-- A file that consists of whole lines: it is empty, or it ends with a newline. -/
def WholeLines (b : Bytes) : Prop := b = [] ∨ b.getLast? = some 0x0A

instance (b : Bytes) : Decidable (WholeLines b) := inferInstanceAs (Decidable (_ ∨ _))

/-- **Decoding starts anew behind whole lines.** -/
theorem decodeLossy_append {a : Bytes} (ha : WholeLines a) (b : Bytes) :
    Utf8.decodeLossy (a ++ b) = Utf8.decodeLossy a ++ Utf8.decodeLossy b := by
  rcases ha with rfl | ha
  · rw [List.nil_append, Utf8.decodeLossy_nil, List.nil_append]
  · obtain ⟨front, rfl⟩ := List.getLast?_eq_some_iff.mp ha
    rw [List.append_assoc, List.singleton_append, decodeLossy_newline, decodeLossy_newline,
      Utf8.decodeLossy_nil, List.append_assoc, List.singleton_append]

/-- The texts of some files make up the text of the files. -/
theorem flatMap_decodeLossy {contents : List Bytes} (h : ∀ b ∈ contents, WholeLines b) :
    contents.flatMap Utf8.decodeLossy = Utf8.decodeLossy contents.flatten := by
  induction contents with
  | nil => rfl
  | cons a contents ih =>
    obtain ⟨ha, hrest⟩ := List.forall_mem_cons.mp h
    rw [List.flatMap_cons, List.flatten_cons, decodeLossy_append ha, ih hrest]

/-! ### Adding counts up -/

namespace Counts

theorem add_assoc (a b c : Counts) : (a.add b).add c = a.add (b.add c) := by
  simp only [add, Nat.add_assoc]

theorem add_of_nil (a : Counts) : a.add (of []) = a := rfl

theorem zero_add (a : Counts) : zero.add a = a := by
  simp only [add, zero, Nat.zero_add]

/-- **Counts of whole lines are added to those of what follows.** -/
theorem of_append {a : Bytes} (ha : WholeLines a) (b : Bytes) :
    of (a ++ b) = (of a).add (of b) := by
  rcases ha with rfl | ha
  · exact (zero_add (of b)).symm
  · obtain ⟨front, rfl⟩ := List.getLast?_eq_some_iff.mp ha
    have hlines : (CommandShell.lines (Utf8.decodeLossy (front ++ 0x0A :: b))).length
        = (CommandShell.lines (Utf8.decodeLossy (front ++ [0x0A]))).length
          + (CommandShell.lines (Utf8.decodeLossy b)).length := by
      rw [decodeLossy_newline, decodeLossy_newline, Utf8.decodeLossy_nil, CommandShell.lines,
        brokenAfter_append_cons, List.map_append, List.length_append, CommandShell.lines,
        CommandShell.lines]
    have hwords : countWords (Utf8.decodeLossy (front ++ 0x0A :: b))
        = countWords (Utf8.decodeLossy (front ++ [0x0A])) + countWords (Utf8.decodeLossy b) := by
      rw [decodeLossy_newline, decodeLossy_newline, Utf8.decodeLossy_nil, countWords, countWords,
        countWordsFrom_append_cons (by decide), countWordsFrom_append_cons (by decide)]
      rfl
    rw [List.append_assoc, List.singleton_append, of, of, of, add, hlines, hwords,
      List.length_append, List.length_append, List.length_cons, List.length_singleton,
      Nat.add_assoc, Nat.add_comm 1]

/-- Without a newline between them, two files may have a character together that neither has. -/
example : of ([0xE2] ++ [0x82, 0xAC]) = ⟨1, 1, 3⟩ ∧
    (of [0xE2]).add (of [0x82, 0xAC]) = ⟨2, 2, 3⟩ := by decide +kernel

/-- **The counts of some files are added up to those of their bytes together.** -/
theorem foldl_add {contents : List Bytes} (h : ∀ b ∈ contents, WholeLines b) (total : Counts) :
    contents.foldl (fun total b => total.add (of b)) total = total.add (of contents.flatten) := by
  induction contents generalizing total with
  | nil => exact (add_of_nil total).symm
  | cons a contents ih =>
    obtain ⟨ha, hrest⟩ := List.forall_mem_cons.mp h
    rw [List.foldl_cons, ih hrest, List.flatten_cons, of_append ha, add_assoc]

/-- To encode what has been decoded does not change the lines. -/
theorem lines_of_encode_decodeLossy (b : Bytes) :
    (of (Utf8.encode (Utf8.decodeLossy b))).lines = (of b).lines := by
  rw [of, Utf8.decodeLossy_encode, of]

/-- To encode what has been decoded does not change the words. -/
theorem words_of_encode_decodeLossy (b : Bytes) :
    (of (Utf8.encode (Utf8.decodeLossy b))).words = (of b).words := by
  rw [of, Utf8.decodeLossy_encode, of]

end Counts

/-- Files that are well formed are well formed together. -/
theorem encode_decodeLossy_flatten {contents : List Bytes} (h : ∀ b ∈ contents, WholeLines b)
    (hvalid : ∀ b ∈ contents, (Utf8.decode? b).isSome = true) :
    Utf8.encode (Utf8.decodeLossy contents.flatten) = contents.flatten := by
  induction contents with
  | nil => rfl
  | cons a contents ih =>
    obtain ⟨ha, hrest⟩ := List.forall_mem_cons.mp h
    obtain ⟨hatext, hresttext⟩ := List.forall_mem_cons.mp hvalid
    rw [List.flatten_cons, decodeLossy_append ha, Utf8.encode_append,
      encode_decodeLossy_eq_iff.mpr hatext, ih hrest hresttext]

/-! ### Running the builtins -/

/-- The file that a session finds under a name can be read, and has the content `b`. -/
def Machine.Reads (m : Machine) (name : Text) (b : Bytes) : Prop :=
  m.files.read [] (m.state.location.resolve (Path.ofText name)) = .ok b

/-- Streams to whose output a text has been written. -/
def Streams.printed (s : Streams) (text : Text) : Streams :=
  { s with output := { s.output with written := s.output.written ++ Utf8.encode text } }

section Running

variable {m : Machine} {s : Streams} {files : List (Text × Bytes)}

/-- Files that can be read are read in order. -/
theorem readFiles_of_reads (hreads : ∀ f ∈ files, m.Reads f.1 f.2) :
    readFiles m.files m.state.location (files.map Prod.fst) = .ok files := by
  induction files with
  | nil => rfl
  | cons f files ih =>
    obtain ⟨hfirst, hrest⟩ := List.forall_mem_cons.mp hreads
    rw [Machine.Reads] at hfirst
    rw [List.map_cons, readFiles, hfirst, ih hrest]
    rfl

variable {c : Command} (hworks : s.output.mode = .working)
include hworks

/-- `wc` prints a row for what it is fed. -/
theorem runWc_of_input (hc : c.args = []) {b : Bytes} (hinput : s.input = .ofBytes b) :
    Builtin.wc.run m.files c m.state s = (.success, m.state,
      { s with input := .ofBytes [] }.printed ((Counts.of b).render c.options none)) := by
  have hread : s.readAll = (some b, { s with input := .ofBytes [] }) := by
    rw [Streams.readAll, hinput]
    rfl
  have hemit := emit_of_working "wc".toList (s := { s with input := .ofBytes [] }) hworks
  simp only [Builtin.wc, Builtin.runWc, Builtin.reading, if_pos hc, hread, hemit]
  rfl

variable (hreads : ∀ f ∈ files, m.Reads f.1 f.2) (hlines : ∀ f ∈ files, WholeLines f.2)
  (hc : c.args = files.map Prod.fst)
include hreads hlines hc

/-- `cat` prints the text of its files together. -/
theorem runCat_of_reads (hne : files ≠ []) : Builtin.cat.run m.files c m.state s
    = (.success, m.state, s.printed (Utf8.decodeLossy (files.flatMap Prod.snd))) := by
  have hargs : c.args ≠ [] := by rwa [hc, ne_eq, List.map_eq_nil_iff]
  have htext : (files.flatMap fun f => Utf8.decodeLossy f.2)
      = Utf8.decodeLossy (files.flatMap Prod.snd) := by
    rw [List.flatMap_def (f := Prod.snd), ← flatMap_decodeLossy (List.forall_mem_map.mpr hlines),
      List.flatMap_map]
  have hread : readFiles m.files m.state.location c.args = .ok files :=
    hc ▸ readFiles_of_reads hreads
  simp only [Builtin.cat, Builtin.runCat, Builtin.reading, if_neg hargs, hread, htext,
    emit_of_working _ hworks]
  rfl

/-- `wc` prints a row for each of several files, and one for all of them together. -/
theorem runWc_of_reads (hseveral : 2 ≤ files.length) :
    Builtin.wc.run m.files c m.state s = (.success, m.state, s.printed
      ((files.flatMap fun (name, b) => (Counts.of b).render c.options (some name)) ++
        (Counts.of (files.flatMap Prod.snd)).render c.options (some "total".toList))) := by
  have hargs : c.args ≠ [] := by
    rw [hc, ne_eq, List.map_eq_nil_iff]
    exact List.ne_nil_of_length_pos (Nat.zero_lt_of_lt hseveral)
  have hlength : c.args.length > 1 := by rwa [hc, List.length_map]
  have hread : readFiles m.files m.state.location c.args = .ok files :=
    hc ▸ readFiles_of_reads hreads
  have htotal : (files.map fun (name, bytes) => (name, Counts.of bytes)).foldl
      (fun total row => total.add row.2) Counts.zero = Counts.of (files.flatMap Prod.snd) := by
    rw [List.foldl_map, List.flatMap_def, ← Counts.zero_add (Counts.of _),
      ← Counts.foldl_add (List.forall_mem_map.mpr hlines), List.foldl_map]
  simp only [Builtin.wc, Builtin.runWc, Builtin.reading, if_neg hargs, hread, htotal,
    if_pos hlength, List.flatMap_map, emit_of_working _ hworks]
  rfl

end Running

section Totals

variable {registry : Registry} (host : Host) {m : Machine} {s : Streams}

/-- **Totals are the counts of the joined files.**  Several files are given that can be read and
consist of whole lines, whatever their bytes are.  In the row for all of them `wc` prints the
numbers of lines, words and bytes of the files one after the other.  If `cat` prints the same files
and a `wc` without arguments counts that, it prints the same numbers of lines and words, and if all
files are well formed, also of bytes. -/
theorem runPipeline_wc_total (hwc : registry.get? Builtin.wc.name = some Builtin.wc)
    (hcat : registry.get? Builtin.cat.name = some Builtin.cat) {files : List (Text × Bytes)}
    (hseveral : 2 ≤ files.length)
    (hreads : ∀ f ∈ files, m.Reads f.1 f.2) (hlines : ∀ f ∈ files, WholeLines f.2)
    {countFiles copyFiles countInput : Command}
    (hcountFiles : countFiles.Calls Builtin.wc (files.map Prod.fst))
    (hcopyFiles : copyFiles.Calls Builtin.cat (files.map Prod.fst))
    (hcountInput : countInput.Calls Builtin.wc []) (hworks : s.output.mode = .working) :
    let joined := Counts.of (files.flatMap Prod.snd)
    let piped := Counts.of (Utf8.encode (Utf8.decodeLossy (files.flatMap Prod.snd)))
    let rows := files.flatMap fun (name, b) => (Counts.of b).render countFiles.options (some name)
    runPipeline (runCommand registry host) [countFiles] m s
        = (.ok .success, m,
            s.printed (rows ++ joined.render countFiles.options (some "total".toList))) ∧
      runPipeline (runCommand registry host) [copyFiles, countInput] m s
        = (.ok .success, m, s.printed (piped.render countInput.options none)) ∧
      piped.lines = joined.lines ∧ piped.words = joined.words ∧
      ((∀ f ∈ files, (Utf8.decode? f.2).isSome = true) → piped.bytes = joined.bytes) := by
  intro joined piped rows
  have hne : files ≠ [] := List.ne_nil_of_length_pos (Nat.zero_lt_of_lt hseveral)
  refine ⟨?_, ?_, Counts.lines_of_encode_decodeLossy _, Counts.words_of_encode_decodeLossy _, ?_⟩
  · rw [runPipeline, runStages_singleton, runStage, runCommand_of_calls hwc hcountFiles,
      runWc_of_reads hworks hreads hlines hcountFiles.args hseveral]
  · have hcopied : runStage (runCommand registry host) none copyFiles m s.capture
        = (.ok .success, m, s.capture.printed (Utf8.decodeLossy (files.flatMap Prod.snd))) := by
      rw [runStage, runCommand_of_calls hcat hcopyFiles,
        runCat_of_reads rfl hreads hlines hcopyFiles.args hne]
    have hcounted (b : Bytes) : runStage (runCommand registry host) (some b) countInput m s
        = (.ok .success, m, s.printed ((Counts.of b).render countInput.options none)) := by
      rw [runStage, runCommand_of_calls hwc hcountInput, runWc_of_input _ hcountInput.args rfl]
      · rfl
      · exact hworks
    -- what `cat` has printed is the input of `wc`, whose output is that of the pipeline
    rw [runPipeline, runStages_cons _ _ _ (List.cons_ne_nil countInput []), hcopied]
    exact hcounted _
  · intro hvalid
    have hkept : Utf8.encode (Utf8.decodeLossy (files.flatMap Prod.snd))
        = files.flatMap Prod.snd := encode_decodeLossy_flatten (List.forall_mem_map.mpr hlines)
      (List.forall_mem_map.mpr hvalid)
    exact congrArg List.length hkept

/-- The first of two files ends in the middle of a character, so that `cat` makes it longer. -/
theorem runPipeline_wc_total_truncated :
    let host : Host := fun _ files => (.ran [] [] (.exited 0), files)
    let files : List (Text × Bytes) :=
      [("a".toList, [0xE2, 0x82, 0x0A]), ("b".toList, Utf8.encode "x y\n".toList)]
    let m : Machine := ⟨⟨.empty, .start (Utf8.encode "/".toList)⟩,
      ⟨files.map fun (name, b) => ([Utf8.encode name], .file b false)⟩⟩
    let s : Streams := ⟨.ofBytes [], .fresh, .fresh, false, false⟩
    let names := files.map Prod.fst
    (∀ f ∈ files, m.Reads f.1 f.2) ∧ (∀ f ∈ files, WholeLines f.2) ∧
    runPipeline (runCommand Registry.standard host) [.plain "wc".toList names] m s
      = (.ok .success, m, s.printed "1 1 3 a\n1 2 4 b\n2 3 7 total\n".toList) ∧
    runPipeline (runCommand Registry.standard host)
        [.plain "cat".toList names, .plain "wc".toList []] m s
      = (.ok .success, m, s.printed "2 3 8\n".toList) := by
  intro host files m s names
  have hget : Registry.standard.get? Builtin.wc.name = some Builtin.wc := rfl
  have hget' : Registry.standard.get? Builtin.cat.name = some Builtin.cat := rfl
  have hreads : ∀ f ∈ files, m.Reads f.1 f.2 :=
    List.forall_mem_cons.mpr ⟨rfl, List.forall_mem_singleton.mpr rfl⟩
  have hlines : ∀ f ∈ files, WholeLines f.2 := by decide
  have hcountFiles : (Command.plain "wc".toList names).Calls Builtin.wc names := ⟨rfl, rfl, rfl⟩
  have hcopyFiles : (Command.plain "cat".toList names).Calls Builtin.cat names := ⟨rfl, rfl, rfl⟩
  have hcountInput : (Command.plain "wc".toList []).Calls Builtin.wc [] := ⟨rfl, rfl, rfl⟩
  have hrows : ((files.flatMap fun (name, b) => (Counts.of b).render .empty (some name)) ++
      (Counts.of (files.flatMap Prod.snd)).render .empty (some "total".toList))
      = "1 1 3 a\n1 2 4 b\n2 3 7 total\n".toList := by decide
  have hrow : (Counts.of (Utf8.encode (Utf8.decodeLossy (files.flatMap Prod.snd)))).render .empty
      none = "2 3 8\n".toList := by decide
  obtain ⟨hcount, hpipe, -⟩ := runPipeline_wc_total host hget hget' (by decide) hreads hlines
    hcountFiles hcopyFiles hcountInput (s := s) rfl
  exact ⟨hreads, hlines, hrows ▸ hcount, hrow ▸ hpipe⟩

end Totals

end CommandShell
