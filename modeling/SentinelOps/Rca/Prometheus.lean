import SentinelOps.Lib.Dict
import SentinelOps.Lib.PyText

/-!
# The exposition parser

`parseExposition` reads the samples of the wanted metrics out of a scrape. It goes through the text
line by line; two scanners that track whether they are inside quotes find the end of the labels and
the commas between them. `float` is the conversion of a text to a number, which fails on some texts.
-/

namespace SentinelOps

namespace Py

/-- The characters at which `str.splitlines` ends a line. -/
def isLineBreak (c : Char) : Bool :=
  let n := c.toNat
  (10 ≤ n && n ≤ 13) || (28 ≤ n && n ≤ 30) || n == 0x85 || n == 0x2028 || n == 0x2029

/-- `s.splitlines()`, with the characters of the current line so far. -/
def splitlines (line : List Char) : List Char → List (List Char)
  | [] => if line = [] then [] else [line]
  | '\r' :: '\n' :: cs => line :: splitlines [] cs
  | c :: cs => if isLineBreak c then line :: splitlines [] cs else splitlines (line ++ [c]) cs

/-- `s.strip(chars)`. -/
def stripBy (chars : Char → Bool) (s : List Char) : List Char :=
  ((s.dropWhile chars).reverse.dropWhile chars).reverse

/-- `s.partition(sep)`: what stands in front of a character and behind it. -/
def partition (sep : Char) (s : List Char) : List Char × List Char :=
  (s.takeWhile (· ≠ sep), (s.dropWhile (· ≠ sep)).drop 1)

/-- `s.split(sub)[0]`, for a text that is not empty. -/
def beforeFirst (sub : List Char) : List Char → List Char
  | [] => []
  | c :: cs => if sub.isPrefixOf (c :: cs) then [] else c :: beforeFirst sub cs

end Py

namespace Rca

/-- `_MAX_LINE_LEN`. -/
def maxLineLen : Nat := 4000

/-- `_MAX_SAMPLES_PER_METRIC`. -/
def maxSamplesPerMetric : Nat := 50

/-- One value of a metric. -/
structure Sample (ν : Type) where
  labels : Dict String String
  value : ν

/-- `_split_on_close_brace`: the labels in front of the first brace that is not quoted, and what
follows it. -/
def splitOnCloseBrace (inQuotes : Bool) : List Char → Option (List Char × List Char)
  | [] => none
  | c :: cs =>
    if c = '"' then (splitOnCloseBrace (!inQuotes) cs).map fun r => (c :: r.1, r.2)
    else if c = '}' && !inQuotes then some ([], cs)
    else (splitOnCloseBrace inQuotes cs).map fun r => (c :: r.1, r.2)

/-- `_split_top_level_commas`, with the parts so far and the current one. -/
def splitTopLevelCommas (out : List (List Char)) (buf : List Char) (inQuotes : Bool) :
    List Char → List (List Char)
  | [] => if buf = [] then out else out ++ [buf]
  | c :: cs =>
    if c = '"' then splitTopLevelCommas out (buf ++ [c]) (!inQuotes) cs
    else if c = ',' && !inQuotes then splitTopLevelCommas (out ++ [buf]) [] inQuotes cs
    else splitTopLevelCommas out (buf ++ [c]) inQuotes cs

/-- One label of `_parse_labels`. -/
def addLabel (labels : Dict String String) (part : List Char) : Dict String String :=
  if '=' ∉ part then labels
  else
    let (key, raw) := Py.partition '=' part
    labels.set (String.ofList (Py.stripBy Py.isSpace key))
      (String.ofList (Py.stripBy (· = '"') (Py.stripBy Py.isSpace raw)))

/-- `_parse_labels`. -/
def parseLabels (blob : List Char) : Dict String String :=
  (splitTopLevelCommas [] [] false blob).foldl addLabel .empty

/-- The name of a metric without what a suffix of a series starts. -/
def baseName (metric : List Char) : List Char :=
  Py.beforeFirst "_count".toList (Py.beforeFirst "_sum".toList
    (Py.beforeFirst "_bucket".toList metric))

/-- The name under which the samples of a metric are recorded. -/
def recordedUnder (wanted : List String) (metric : List Char) : Option String :=
  if String.ofList metric ∈ wanted then some (String.ofList metric)
  else if String.ofList (baseName metric) ∈ wanted then some (String.ofList (baseName metric))
  else none

section
variable {ν : Type} (float : String → Option ν)

/-- The metric of a line, its labels and the text of its value. -/
def lineParts (line : List Char) : Option (List Char × Dict String String × List Char) :=
  if '{' ∈ line then
    let (metric, afterBrace) := Py.partition '{' line
    (splitOnCloseBrace false afterBrace).map fun r => (metric, parseLabels r.1, r.2)
  else
    let (metric, valuePart) := Py.partition ' ' line
    some (metric, .empty, valuePart)

/-- What one line contributes: nothing when it is a comment, malformed or not wanted. -/
def parseLine (wanted : List String) (raw : List Char) : Option (String × Sample ν) :=
  let line := Py.stripBy Py.isSpace raw
  if line = [] ∨ line.head? = some '#' ∨ maxLineLen < line.length then none
  else
    match lineParts line with
    | none => none
    | some (metric, labels, valuePart) =>
      let valuePart := Py.stripBy Py.isSpace valuePart
      if valuePart = [] then none
      else
        match recordedUnder wanted metric with
        | none => none
        | some name =>
          (float (String.ofList (valuePart.takeWhile fun c => !Py.isSpace c))).map fun value =>
            (name, { labels := labels, value := value })

/-- Record a sample unless there are enough of its name. -/
def record (result : Dict String (List (Sample ν))) (found : String × Sample ν) :
    Dict String (List (Sample ν)) :=
  let bucket := (result.get? found.1).getD []
  result.set found.1 (if bucket.length < maxSamplesPerMetric then bucket ++ [found.2] else bucket)

/-- `parse_exposition`. -/
def parseExposition (text : String) (wanted : List String) : Dict String (List (Sample ν)) :=
  ((Py.splitlines [] text.toList).filterMap (parseLine float wanted)).foldl record .empty

end

/-- A text is parted at the first separator. -/
lemma partition_append {sep : Char} {s rest : List Char} (first : sep ∉ s) :
    Py.partition sep (s ++ sep :: rest) = (s, rest) := by
  have before : ∀ c ∈ s, decide (c ≠ sep) = true := by
    intro c mem
    rw [decide_eq_true_iff]
    rintro rfl
    exact first mem
  unfold Py.partition
  rw [List.takeWhile_append_of_pos before, List.dropWhile_append_of_pos before]
  simp

end Rca

end SentinelOps
