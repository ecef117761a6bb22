import PulsarMemory.External.RssFile

/-!
# The file the RSS monitor writes

The external measurement file holds a header `timestamp,pid,rss` and one line
`timestamp,pid,rss_kb` per sample, each ended by a newline. `for line in f`
reads it in text mode: universal newlines turn `\r\n` and a lone `\r` into
`\n`, and the text is cut after each `\n`. `ExternalSample` is a sample whose
line reads back: the timestamp starts with a digit, as both epoch seconds and
dates do, neither text field holds the separator or a line break, and the
value has no more digits than `int()` reads. On the text of such a file the
parse loop of `analyze_rss` and `load_external_rss` returns exactly the values
written, in the order written.
-/

namespace PulsarMemory.External

open PulsarMemory.Python

/-! ## Reading a text file by lines -/

/-- Universal newlines: the characters `open(filename, 'r')` reads, with
`\r\n` and a lone `\r` turned into `\n`. -/
def translateNewlines : List Char → List Char
  | '\r' :: '\n' :: rest => '\n' :: translateNewlines rest
  | '\r' :: rest => '\n' :: translateNewlines rest
  | c :: rest => c :: translateNewlines rest
  | [] => []

/-- The lines of a text cut at its newlines: every piece but the last keeps
the newline that ended it, and an empty last piece is no line. -/
def linesOfPieces : List (List Char) → List String
  | [] => []
  | [last] => if last.isEmpty then [] else [⟨last⟩]
  | piece :: next :: rest => ⟨piece ++ ['\n']⟩ :: linesOfPieces (next :: rest)

/-- The lines `for line in f` yields from the text of a file. -/
def fileLines (text : String) : List String :=
  linesOfPieces ((translateNewlines text.data).splitOn '\n')

/-- The text of a file of `lines`, each ended by a newline. -/
def fileText (lines : List String) : String :=
  ⟨(lines.map fun line => line.data ++ ['\n']).flatten⟩

/-- Text without a carriage return reads as it is. -/
theorem translateNewlines_of_not_mem {chars : List Char} (noReturn : '\r' ∉ chars) :
    translateNewlines chars = chars := by
  induction chars with
  | nil => rfl
  | cons c rest inductionHypothesis =>
      have notReturn : c ≠ '\r' := fun same => noReturn (same ▸ List.mem_cons_self _ _)
      rw [translateNewlines.eq_3 c rest (fun _ isReturn => absurd isReturn notReturn)
        (fun isReturn => absurd isReturn notReturn),
        inductionHypothesis fun member => noReturn (List.mem_cons_of_mem _ member)]

/-- Lines each ended by a newline are the pieces between newlines, the last
one empty. -/
theorem fileText_data (lines : List String) :
    (fileText lines).data = ['\n'].intercalate (lines.map String.data ++ [[]]) := by
  induction lines with
  | nil => rfl
  | cons line lines inductionHypothesis =>
      have cut : lines.map String.data ++ [[]] ≠ [] := by simp
      obtain ⟨next, rest, split⟩ := List.exists_cons_of_ne_nil cut
      simp only [fileText, List.map_cons, List.flatten_cons] at inductionHypothesis ⊢
      rw [inductionHypothesis, List.cons_append, split, List.append_assoc]
      rfl

/-- The lines of a file that holds no line break inside a line, with every
line ended by a newline, are read back each with its newline. -/
theorem fileLines_fileText {lines : List String}
    (oneLine : ∀ line ∈ lines, '\n' ∉ line.data ∧ '\r' ∉ line.data) :
    fileLines (fileText lines) = lines.map fun line => line ++ "\n" := by
  have noReturn : '\r' ∉ (fileText lines).data := by
    simp only [fileText, List.mem_flatten, List.mem_map, not_exists, not_and]
    rintro _ ⟨line, listed, rfl⟩ member
    rcases List.mem_append.mp member with inLine | isNewline
    · exact (oneLine line listed).2 inLine
    · simp at isNewline
  have noNewline : ∀ piece ∈ lines.map String.data ++ [[]], '\n' ∉ piece := by
    simp only [List.mem_append, List.mem_map, List.mem_singleton]
    rintro _ (⟨line, listed, rfl⟩ | rfl)
    · exact (oneLine line listed).1
    · simp
  have nonempty : lines.map String.data ++ [[]] ≠ [] := by simp
  rw [fileLines, translateNewlines_of_not_mem noReturn, fileText_data,
    List.splitOn_intercalate _ '\n' noNewline nonempty]
  clear noReturn oneLine noNewline nonempty
  induction lines with
  | nil => rfl
  | cons line lines inductionHypothesis =>
      obtain ⟨next, rest, split⟩ :=
        List.exists_cons_of_ne_nil (show lines.map String.data ++ [[]] ≠ [] by simp)
      rw [List.map_cons, List.cons_append, split, linesOfPieces, ← split, inductionHypothesis]
      rfl

/-- The newline that ends a line is stripped with the other whitespace. -/
theorem rssOfLine_append_newline (line : String) : rssOfLine (line ++ "\n") = rssOfLine line := by
  have stripped : pyStrip (line ++ "\n") = pyStrip line := by
    rw [pyStrip, pyStrip, String.data_append]
    exact congrArg String.mk (stripChars_append_space (by decide) line.data)
  simp only [rssOfLine, stripped]

/-! ## The monitor's samples -/

/-- One sample of the external monitor, with what its line needs to read
back as a field. -/
structure ExternalSample where
  timestamp : String
  pid : String
  rssKb : Nat
  timestamp_head : ∀ c ∈ timestamp.data.head?, c.isDigit = true
  timestamp_plain : ∀ c ∈ timestamp.data, c ≠ ',' ∧ c ≠ '\n' ∧ c ≠ '\r'
  pid_plain : ∀ c ∈ pid.data, c ≠ ',' ∧ c ≠ '\n' ∧ c ≠ '\r'
  rssKb_short : rssKb < 10 ^ intMaxStrDigits

/-- The line the monitor writes for a sample. -/
def ExternalSample.line (sample : ExternalSample) : String :=
  sample.timestamp ++ "," ++ sample.pid ++ "," ++ toString sample.rssKb

/-- The text the monitor writes: the header, then one line per sample. -/
def monitorText (samples : List ExternalSample) : String :=
  fileText ("timestamp,pid,rss" :: samples.map ExternalSample.line)

/-- A line is its three fields joined by commas. -/
theorem ExternalSample.line_data (sample : ExternalSample) :
    sample.line.data =
      [','].intercalate [sample.timestamp.data, sample.pid.data, (toString sample.rssKb).data] := by
  simp [ExternalSample.line, List.intercalate]

/-- A line starts with a digit of the timestamp, or with the separator when
the timestamp is empty. -/
theorem ExternalSample.line_head (sample : ExternalSample) :
    ∀ d ∈ sample.line.data.head?, d.isDigit = true ∨ d = ',' := by
  rw [sample.line_data]
  cases timestamp : sample.timestamp.data with
  | nil => simp [List.intercalate]
  | cons t ts =>
      have digit := sample.timestamp_head t (by simp [timestamp])
      simp [List.intercalate, digit]

/-- A sample's line is one line of the file: it holds no line break. -/
theorem ExternalSample.line_oneLine (sample : ExternalSample) :
    '\n' ∉ sample.line.data ∧ '\r' ∉ sample.line.data := by
  obtain ⟨c, rest, digits, digitsSpec, -, -⟩ := toString_digits sample.rssKb
  have spelled : sample.line.data =
      sample.timestamp.data ++ ',' :: sample.pid.data ++ ',' :: (toString sample.rssKb).data := by
    simp [ExternalSample.line]
  have noBreak : ∀ d ∈ sample.line.data, d ≠ '\n' ∧ d ≠ '\r' := by
    intro d member
    rw [spelled] at member
    simp only [List.mem_append, List.mem_cons] at member
    rcases member with (inTimestamp | rfl | inPid) | rfl | inDigits
    · exact (sample.timestamp_plain d inTimestamp).2
    · decide
    · exact (sample.pid_plain d inPid).2
    · decide
    · have digit := (digitsSpec d (digits ▸ inDigits)).1
      constructor <;> rintro rfl <;> exact absurd digit (by decide)
  exact ⟨fun member => (noBreak _ member).1 rfl, fun member => (noBreak _ member).2 rfl⟩

/-- `line.strip()` is the line: it starts with a digit or a comma and ends
with a digit. -/
theorem ExternalSample.pyStrip_line (sample : ExternalSample) : pyStrip sample.line = sample.line := by
  obtain ⟨c, rest, digits, digitsSpec, -, -⟩ := toString_digits sample.rssKb
  apply pyStrip_eq_self
  · intro d member
    rcases sample.line_head d member with digit | rfl
    · exact isPySpace_of_isDigit digit
    · decide
  · intro d member
    have suffix : sample.line.data =
        (sample.timestamp.data ++ ',' :: sample.pid.data ++ [',']) ++ (c :: rest) := by
      simp [ExternalSample.line, ← digits]
    rw [suffix, List.getLast?_append, List.getLast?_eq_getLast _ (List.cons_ne_nil c rest),
      Option.or_some, Option.mem_some_iff] at member
    exact (digitsSpec d (member ▸ List.getLast_mem _)).2.1

/-- No sample line is taken for the header. -/
theorem ExternalSample.pyStartsWith_line (sample : ExternalSample) :
    pyStartsWith sample.line "timestamp" = false := by
  cases first : sample.line.data with
  | nil => simp [sample.line_data, List.intercalate] at first
  | cons d ds =>
      simp only [pyStartsWith, first]
      rcases sample.line_head d (by simp [first]) with digit | rfl
      · have notT : d ≠ 't' := by
          rintro rfl
          exact absurd digit (by decide)
        simp [List.isPrefixOf, Ne.symm notT]
      · simp [List.isPrefixOf]

/-- `line.split(',')` gives back the three fields. -/
theorem ExternalSample.pySplit_line (sample : ExternalSample) :
    pySplit sample.line ',' = [sample.timestamp, sample.pid, toString sample.rssKb] := by
  obtain ⟨c, rest, digits, digitsSpec, -, -⟩ := toString_digits sample.rssKb
  rw [pySplit, sample.line_data, List.splitOn_intercalate]
  · rfl
  · simp only [List.mem_cons, List.mem_singleton, List.not_mem_nil, or_false]
    rintro l (rfl | rfl | rfl)
    · exact fun member => (sample.timestamp_plain ',' member).1 rfl
    · exact fun member => (sample.pid_plain ',' member).1 rfl
    · rw [digits]
      exact fun member => (digitsSpec ',' member).2.2.1 rfl
  · simp

/-- Every sample's line is accepted, with the value written. -/
theorem rssOfLine_line (sample : ExternalSample) : rssOfLine sample.line = some sample.rssKb := by
  have nonempty : sample.line ≠ "" := fun empty => by
    simpa [sample.line_data, List.intercalate] using congrArg String.data empty
  simp [rssOfLine, sample.pyStrip_line, sample.pyStartsWith_line, nonempty, sample.pySplit_line,
    pyInt_toString sample.rssKb_short]

/-- Reading back the file the monitor writes gives the values written, in
order: the text is cut into the lines written, the header is skipped and no
sample line is. -/
theorem readRssValues_samples (samples : List ExternalSample) :
    readRssValues (fileLines (monitorText samples)) = samples.map fun sample => (sample.rssKb : Int) := by
  have header : rssOfLine "timestamp,pid,rss" = none := by decide
  have oneLine : ∀ line ∈ "timestamp,pid,rss" :: samples.map ExternalSample.line,
      '\n' ∉ line.data ∧ '\r' ∉ line.data := by
    simp only [List.mem_cons, List.mem_map]
    rintro line (rfl | ⟨sample, -, rfl⟩)
    · decide
    · exact sample.line_oneLine
  rw [monitorText, fileLines_fileText oneLine, readRssValues_eq_filterMap, List.map_cons,
    List.filterMap_cons, rssOfLine_append_newline, header, List.map_map, List.filterMap_map]
  simp only [Function.comp_def, rssOfLine_append_newline, rssOfLine_line]
  exact congrFun (List.filterMap_eq_map _) samples

end PulsarMemory.External
