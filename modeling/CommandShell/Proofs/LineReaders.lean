import CommandShell.Proofs.Answers
import CommandShell.Proofs.IllFormed

/-!
# Ways to read lines

The shell has several ways to come to the lines of a byte string.  It takes them from a stream one
by one, in bytes, and decodes each of them; or it decodes all there is and then cuts the text, to
count its lines or to search them.  In both cases a line ends with a newline and loses a carriage
return before it.

The ways agree because a newline and a carriage return are found in the text just where their bytes
are, also in bytes that are no text.  So to cut and then to decode is to decode and then to cut.

## Main definitions

* `Input.readLines` — the lines that are read one by one until the end is found.
* `Input.skipLines` — what is left when some lines have been read.
* `LinesAgree` — what is to be said of the lines of a byte string.

## Main results

* `brokenAfter_decodeLossy`, `decodeLossy_chomp` — cutting commutes with decoding.
* `Input.readLines_ofBytes` — lines that are read are the lines of the text.
* `linesAgree_decodeLossy` — **all ways to read lines agree.**
-/

namespace CommandShell

/-! ### Cutting bytes and cutting texts -/

section Cutting

/-- What is decoded before and after a newline. -/
theorem decodeLossy_newline (xs ys : Bytes) :
    Utf8.decodeLossy (xs ++ 0x0A :: ys) = Utf8.decodeLossy xs ++ '\n' :: Utf8.decodeLossy ys :=
  Utf8.decodeLossy_append_cons (c := '\n') (by decide) xs ys

/-- The first line of a text has the bytes of the first line. -/
theorem takeLine_decodeLossy (b : Bytes) : takeLine '\n' (Utf8.decodeLossy b)
    = (Utf8.decodeLossy (takeLine 0x0A b).1, Utf8.decodeLossy (takeLine 0x0A b).2) := by
  have hmem (xs : Bytes) : '\n' ∈ Utf8.decodeLossy xs ↔ 0x0A ∈ xs :=
    Utf8.mem_decodeLossy_iff (c := '\n') (by decide) xs
  by_cases hnl : 0x0A ∈ b
  · obtain ⟨front, rest, rfl, hfront⟩ := List.eq_append_cons_of_mem hnl
    rw [takeLine_append_cons hfront, decodeLossy_newline, decodeLossy_newline, Utf8.decodeLossy_nil,
      takeLine_append_cons (mt (hmem front).mp hfront)]
  · rw [takeLine_of_not_mem hnl, takeLine_of_not_mem (mt (hmem b).mp hnl), Utf8.decodeLossy_nil]

/-- **Cutting into pieces commutes with decoding.** -/
theorem brokenAfter_decodeLossy (b : Bytes) :
    brokenAfter '\n' (Utf8.decodeLossy b) = (brokenAfter 0x0A b).map Utf8.decodeLossy := by
  induction hlength : b.length using Nat.strongRecOn generalizing b with
  | ind n ih =>
    subst hlength
    rcases eq_or_ne b [] with rfl | hne
    · rfl
    · have hrest := ih _ (takeLine_rest_lt 0x0A hne) (takeLine 0x0A b).2 rfl
      rw [brokenAfter_eq_cons 0x0A hne, List.map_cons, ← hrest,
        brokenAfter_eq_cons '\n' (mt Utf8.decodeLossy_eq_nil_iff.mp hne), takeLine_decodeLossy]

/-- **Taking off the end of a line commutes with decoding.** -/
theorem decodeLossy_chomp (piece : Bytes) : Utf8.decodeLossy (chomp 0x0D 0x0A piece)
    = chomp '\r' '\n' (Utf8.decodeLossy piece) := by
  have hnewline : (Utf8.decodeLossy piece).getLast? = some '\n' ↔ piece.getLast? = some 0x0A :=
    Utf8.getLast?_decodeLossy_eq_iff (c := '\n') (by decide) piece
  by_cases hnl : piece.getLast? = some 0x0A
  · obtain ⟨front, rfl⟩ := List.getLast?_eq_some_iff.mp hnl
    have hreturn : (Utf8.decodeLossy front).getLast? = some '\r' ↔ front.getLast? = some 0x0D :=
      Utf8.getLast?_decodeLossy_eq_iff (c := '\r') (by decide) front
    rw [decodeLossy_newline, Utf8.decodeLossy_nil, chomp_concat, chomp_concat]
    by_cases hcr : front.getLast? = some 0x0D
    · rw [if_pos hcr, if_pos (hreturn.mpr hcr)]
      obtain ⟨front, rfl⟩ := List.getLast?_eq_some_iff.mp hcr
      have hcut : Utf8.decodeLossy (front ++ [0x0D]) = Utf8.decodeLossy front ++ ['\r'] :=
        Utf8.decodeLossy_append_cons (c := '\r') (by decide) front []
      rw [hcut, List.dropLast_concat, List.dropLast_concat]
    · rw [if_neg hcr, if_neg (mt hreturn.mp hcr)]
  · rw [chomp, if_neg hnl, chomp, if_neg (mt hnewline.mp hnl)]

/-- **The lines of a text are those of its bytes.** -/
theorem lines_decodeLossy (b : Bytes) : lines (Utf8.decodeLossy b)
    = (brokenAfter 0x0A b).map fun piece => Utf8.decodeLossy (chomp 0x0D 0x0A piece) := by
  rw [lines, brokenAfter_decodeLossy, List.map_map]
  exact List.map_congr_left fun piece _ => (decodeLossy_chomp piece).symm

end Cutting

/-! ### Reading line by line -/

namespace Input

theorem readLine_ofBytes_nil : (ofBytes []).readLine = (some none, ofBytes []) := rfl

/-- A line is read if there is anything left. -/
theorem readLine_ofBytes {b : Bytes} (h : b ≠ []) : (ofBytes b).readLine
    = (some (some (Utf8.decodeLossy (chomp 0x0D 0x0A (takeLine 0x0A b).1))),
        ofBytes (takeLine 0x0A b).2) := by
  have hread : (ofBytes b).readLine
      = (some (if (takeLine 0x0A b).1 = [] then none
          else some (Utf8.decodeLossy (chomp 0x0D 0x0A (takeLine 0x0A b).1))),
        ofBytes (takeLine 0x0A b).2) := rfl
  rw [hread, if_neg (takeLine_ne_nil 0x0A h)]

/-- A line that is read is taken from the stream. -/
theorem length_lt_of_readLine {i rest : Input} {line : Text}
    (h : i.readLine = (some (some line), rest)) : rest.bytes.length < i.bytes.length := by
  obtain ⟨bytes, failing⟩ := i
  obtain rfl : ⟨(takeLine 0x0A bytes).2, failing⟩ = rest := congrArg Prod.snd h
  rcases eq_or_ne bytes [] with rfl | hne
  · cases failing <;> cases h
  · exact takeLine_rest_lt 0x0A hne

/-- The lines that are read one after the other, until the end is found or the stream fails. -/
def readLines (i : Input) : List Text :=
  match _h : i.readLine with
  | (some (some line), rest) => line :: rest.readLines
  | _ => []
termination_by i.bytes.length
decreasing_by exact length_lt_of_readLine _h

/-- What is left when so many lines have been read. -/
def skipLines : Nat → Input → Input
  | 0, i => i
  | k + 1, i => skipLines k i.readLine.2

theorem readLines_of_ended {i rest : Input} (h : i.readLine = (some none, rest)) :
    i.readLines = [] := by
  rw [readLines]
  split
  · next hline => rw [h] at hline; cases hline
  · rfl

theorem readLines_of_line {i rest : Input} {line : Text}
    (h : i.readLine = (some (some line), rest)) : i.readLines = line :: rest.readLines := by
  rw [readLines]
  split
  · next hline => rw [h] at hline; cases hline; rfl
  · next hno => exact absurd h (hno line rest)

/-- **Lines that are read are the lines of the text.** -/
theorem readLines_ofBytes (b : Bytes) :
    (ofBytes b).readLines = lines (Utf8.decodeLossy b) := by
  rw [lines_decodeLossy]
  induction hlength : b.length using Nat.strongRecOn generalizing b with
  | ind n ih =>
    subst hlength
    rcases eq_or_ne b [] with rfl | hne
    · exact readLines_of_ended readLine_ofBytes_nil
    · rw [readLines_of_line (readLine_ofBytes hne), brokenAfter_eq_cons 0x0A hne, List.map_cons,
        ih _ (takeLine_rest_lt 0x0A hne) _ rfl]

/-- What is left when so many lines have been read are bytes whose lines are the others. -/
theorem exists_skipLines (k : Nat) (b : Bytes) : ∃ rest, (ofBytes b).skipLines k = ofBytes rest ∧
    (ofBytes rest).readLines = (ofBytes b).readLines.drop k := by
  induction k generalizing b with
  | zero => exact ⟨b, rfl, rfl⟩
  | succ k ih =>
    rcases eq_or_ne b [] with rfl | hne
    · obtain ⟨rest, hskip, hlines⟩ := ih []
      refine ⟨rest, hskip, ?_⟩
      rw [hlines, readLines_of_ended readLine_ofBytes_nil, List.drop_nil, List.drop_nil]
    · obtain ⟨rest, hskip, hlines⟩ := ih (takeLine 0x0A b).2
      refine ⟨rest, ?_, ?_⟩
      · rw [skipLines, readLine_ofBytes hne, hskip]
      · rw [hlines, readLines_of_line (readLine_ofBytes hne), List.drop_succ_cons]

/-- The next line is the first of those that are read, if there is any. -/
theorem readLine_eq_head? (b : Bytes) :
    (ofBytes b).readLine.1 = some (ofBytes b).readLines.head? := by
  rcases eq_or_ne b [] with rfl | hne
  · rw [readLines_of_ended readLine_ofBytes_nil]
    rfl
  · rw [readLines_of_line (readLine_ofBytes hne), readLine_ofBytes hne]
    rfl

end Input

/-! ### The ways to read lines -/

/-- **What is to be said of the lines of a byte string**, which are `rows`. -/
structure LinesAgree (b : Bytes) (rows : List Text) : Prop where
  /-- They are read one by one from a stream, until the end is found. -/
  read : (Input.ofBytes b).readLines = rows
  /-- After any number of them the next one is read, or the end is found if there is none. -/
  next : ∀ k, ((Input.ofBytes b).skipLines k).readLine.1 = some rows[k]?
  /-- After any number of them, what is left is a text, and its lines are the others. -/
  left : ∀ k, ∃ text, ((Input.ofBytes b).skipLines k).readText.1 = some text ∧
    lines text = rows.drop k
  /-- They are counted. -/
  counted : (Counts.of b).lines = rows.length
  /-- There are as many of them as newlines, and one more if the last lacks one. -/
  number : rows.length = b.count 0x0A + if b ≠ [] ∧ b.getLast? ≠ some 0x0A then 1 else 0
  /-- They are searched, if the bytes are the input of a search that is understood. -/
  searched : ∀ (files : FileTree) (c : Command) (state : ShellState) (s : Streams)
    (request : SearchRequest) (regex : Regex), SearchRequest.ofCommand c = .ok request →
    request.file = none → request.regex = .ok regex → s.input = .ofBytes b →
    Builtin.grep.run files c state s = (Answer.print (selectLines regex.occursIn regex.spans
      request.context request.color rows)).give Builtin.grep.name state
      { s with input := .ofBytes [] }

/-- What a search that names no file and finds an input finds in it. -/
theorem runGrep_of_input {b : Bytes} (files : FileTree) {c : Command} (state : ShellState)
    {s : Streams} {request : SearchRequest} {regex : Regex}
    (hrequest : SearchRequest.ofCommand c = .ok request) (hfile : request.file = none)
    (hregex : request.regex = .ok regex) (hinput : s.input = .ofBytes b) :
    Builtin.grep.run files c state s = (Answer.print (selectLines regex.occursIn regex.spans
      request.context request.color (lines (Utf8.decodeLossy b)))).give Builtin.grep.name state
      { s with input := .ofBytes [] } := by
  have hfound : Builtin.searchText files request state s
      = (.ok (Utf8.decodeLossy b), { s with input := .ofBytes [] }) := by
    simp only [Builtin.searchText, hfile, Streams.readText, hinput]
    rfl
  have hrun : Builtin.runGrep files c state s = (Builtin.search request
      (Builtin.searchText files request state s).1).give Builtin.grep.name state
      (Builtin.searchText files request state s).2 := Builtin.runGrep_of_request hrequest s
  rw [hfound] at hrun
  simp only [Builtin.search, hregex] at hrun
  exact hrun

/-- **All ways to read lines agree**, whatever the bytes are: the lines that are read one by one
from a stream are those of the text that all of the bytes stand for, and these are counted and
searched.  One may also read some of them and then the rest. -/
theorem linesAgree_decodeLossy (b : Bytes) : LinesAgree b (lines (Utf8.decodeLossy b)) where
  read := Input.readLines_ofBytes b
  next k := by
    obtain ⟨rest, hskip, hlines⟩ := Input.exists_skipLines k b
    rw [hskip, Input.readLine_eq_head?, hlines, Input.readLines_ofBytes, List.head?_drop]
  left k := by
    obtain ⟨rest, hskip, hlines⟩ := Input.exists_skipLines k b
    refine ⟨Utf8.decodeLossy rest, ?_, ?_⟩
    · rw [hskip]
      rfl
    · rw [← Input.readLines_ofBytes, hlines, Input.readLines_ofBytes]
  counted := rfl
  number := by
    rw [lines_decodeLossy, List.length_map, length_brokenAfter]
  searched files c state s request regex hrequest hfile hregex hinput :=
    runGrep_of_input files state hrequest hfile hregex hinput

/-- One carriage return is taken off before a newline, and none at the end. -/
example : lines (Utf8.decodeLossy [0xE2, 0x0D, 0x0D, 0x0A, 0x0D])
    = ["\uFFFD\r".toList, "\r".toList] := by decide

end CommandShell
