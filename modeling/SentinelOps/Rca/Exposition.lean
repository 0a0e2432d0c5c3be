import SentinelOps.Rca.Prometheus

/-!
# Reading what Prometheus writes

The text format of samples, with the label values escaped, and what the parser makes of it: samples
whose lines are not torn, whose names it recognises and whose wanted label values are plain are read
back in order (`readsExactly_of_plain`).
-/

namespace SentinelOps.Rca

/-- The characters of the names of labels. -/
def isLabelChar (c : Char) : Bool := c.isAlphanum || c == '_'

/-- A name of a label: letters, digits and underscores, no digit first. -/
def LabelName (s : String) : Prop :=
  s ≠ "" ∧ (∀ c ∈ s.toList, isLabelChar c = true) ∧ ∀ c ∈ s.toList.head?, c.isDigit = false

/-- A name of a metric may have colons as well. -/
def MetricName (s : String) : Prop :=
  s ≠ "" ∧ (∀ c ∈ s.toList, isLabelChar c = true ∨ c = ':') ∧ ∀ c ∈ s.toList.head?, c.isDigit = false

instance {s} : Decidable (LabelName s) :=
  @instDecidableAnd _ _ _ (@instDecidableAnd _ _ (List.decidableBAll _ _)
    (Option.decidableForallMem _))

instance {s} : Decidable (MetricName s) :=
  @instDecidableAnd _ _ _ (@instDecidableAnd _ _ (List.decidableBAll _ _)
    (Option.decidableForallMem _))

/-- A sample of a metric. -/
structure Exposed (ν : Type) where
  name : String
  labels : Dict String String
  value : ν
  timestamp : Option Int := none
  metricName : MetricName name
  labelNames : ∀ e ∈ labels.entries, LabelName e.1

/-- How a character of a label value is written. -/
def escapeChar (c : Char) : List Char :=
  if c = '\\' then ['\\', '\\'] else if c = '"' then ['\\', '"'] else if c = '\n' then ['\\', 'n']
  else [c]

/-- How a label is written. -/
def labelText (e : String × String) : List Char :=
  e.1.toList ++ '=' :: '"' :: (e.2.toList.flatMap escapeChar ++ ['"'])

/-- How the labels are written. -/
def labelsText : List (String × String) → List Char
  | [] => []
  | [e] => labelText e
  | e :: es => labelText e ++ ',' :: labelsText es

section
variable {ν : Type} (write : ν → String)

/-- The line of a sample. -/
def renderLine (s : Exposed ν) : List Char :=
  s.name.toList ++
    (if s.labels.entries = [] then [] else '{' :: (labelsText s.labels.entries ++ ['}'])) ++
    ' ' :: (write s.value).toList ++ s.timestamp.elim [] fun t => ' ' :: (toString t).toList

/-- The text format. -/
def renderText (samples : List (Exposed ν)) : String :=
  String.ofList (samples.flatMap fun s => renderLine write s ++ ['\n'])

end

/-- A text whose characters are those of numbers. -/
def NumberText (s : String) : Prop :=
  s ≠ "" ∧ ∀ c ∈ s.toList, c.isAlphanum = true ∨ c ∈ ['+', '-', '.']

/-- A value without characters that are escaped. -/
def PlainValue (v : String) : Prop := ∀ c ∈ v.toList, escapeChar c = [c]

instance {v} : Decidable (PlainValue v) := List.decidableBAll _ _

/-- A value in which no line ends but at a newline, which is escaped. -/
def UntornValue (v : String) : Prop := ∀ c ∈ v.toList, Py.isLineBreak c = true → c = '\n'

instance {v} : Decidable (UntornValue v) := List.decidableBAll (fun _ => _ → _) _

/-- The metric whose samples or series a name belongs to. -/
def seriesOf (wanted : List String) (name : String) : Option String :=
  if name ∈ wanted then some name
  else wanted.find? fun w => decide (name ∈ ["_bucket", "_sum", "_count"].map (w ++ ·))

lemma labelsText_cons {e e' : String × String} {es} :
    labelsText (e :: e' :: es) = labelText e ++ ',' :: labelsText (e' :: es) := rfl

/-- The scanner for the brace goes over what has no quote and, outside of quotes, no brace. -/
lemma splitOnCloseBrace_skip {inQuotes s rest} (quoteless : '"' ∉ s)
    (braceless : inQuotes = false → '}' ∉ s) :
    splitOnCloseBrace inQuotes (s ++ rest) =
      (splitOnCloseBrace inQuotes rest).map fun r => (s ++ r.1, r.2) := by
  induction s with
  | nil => exact Option.map_id'.symm
  | cons c s ih =>
    rw [List.mem_cons, not_or] at quoteless
    have open_ : (decide (c = '}') && !inQuotes) = false := by
      cases inQuotes with
      | true => exact Bool.and_false _
      | false =>
        have other := fun e : c = '}' => braceless rfl (e ▸ List.mem_cons_self)
        rw [decide_eq_false other]
        rfl
    rw [List.cons_append, splitOnCloseBrace, if_neg fun e => quoteless.1 e.symm, open_,
      if_neg Bool.false_ne_true,
      ih quoteless.2 fun e mem => braceless e (List.mem_cons_of_mem _ mem), Option.map_map]
    rfl

/-- The scanner for the commas goes over what has no quote and, outside of quotes, no comma. -/
lemma splitTopLevelCommas_skip {out buf inQuotes s rest} (quoteless : '"' ∉ s)
    (commaless : inQuotes = false → ',' ∉ s) :
    splitTopLevelCommas out buf inQuotes (s ++ rest) =
      splitTopLevelCommas out (buf ++ s) inQuotes rest := by
  induction s generalizing buf with
  | nil => rw [List.nil_append, List.append_nil]
  | cons c s ih =>
    rw [List.mem_cons, not_or] at quoteless
    have open_ : (decide (c = ',') && !inQuotes) = false := by
      cases inQuotes with
      | true => exact Bool.and_false _
      | false =>
        have other := fun e : c = ',' => commaless rfl (e ▸ List.mem_cons_self)
        rw [decide_eq_false other]
        rfl
    rw [List.cons_append, splitTopLevelCommas, if_neg fun e => quoteless.1 e.symm, open_,
      if_neg Bool.false_ne_true,
      ih quoteless.2 fun e mem => commaless e (List.mem_cons_of_mem _ mem), List.append_assoc]
    rfl

/-- A character of a label name is none of the format. -/
lemma not_mem_labelName {k : String} (name : LabelName k) {c : Char} (other : isLabelChar c = false) :
    c ∉ k.toList := by
  intro mem
  rw [name.2.1 c mem] at other
  cases other

/-- A plain value is written as it is and has no quote. -/
lemma PlainValue.written {v : String} (plain : PlainValue v) :
    v.toList.flatMap escapeChar = v.toList ∧ '"' ∉ v.toList := by
  constructor
  · have same : v.toList.flatMap escapeChar = v.toList.flatMap fun c => [c] :=
      List.flatMap_congr plain
    rw [same, List.flatMap_singleton']
  · intro mem
    exact absurd (plain _ mem) (by decide)

/-- A plain label, as the scanners see it. -/
lemma labelText_plain {e : String × String} (plain : PlainValue e.2) :
    labelText e = (e.1.toList ++ ['=']) ++ '"' :: (e.2.toList ++ ['"']) := by
  unfold labelText
  rw [plain.written.1, List.append_assoc]
  rfl

/-- The scanner for the brace goes over a plain label. -/
lemma splitOnCloseBrace_label {e : String × String} {rest} (name : LabelName e.1)
    (plain : PlainValue e.2) :
    splitOnCloseBrace false (labelText e ++ rest) =
      (splitOnCloseBrace false rest).map fun r => (labelText e ++ r.1, r.2) := by
  have key : ∀ c, isLabelChar c = false → c ≠ '=' → c ∉ e.1.toList ++ ['='] := by
    intro c other different mem
    obtain inside | last := List.mem_append.mp mem
    · exact not_mem_labelName name other inside
    · exact different (List.mem_singleton.mp last)
  have quoted : true = false → '}' ∉ e.2.toList := fun shut => absurd shut (by decide)
  rw [labelText_plain plain, List.append_assoc,
    splitOnCloseBrace_skip (key _ (by decide) (by decide)) fun _ => key _ (by decide) (by decide),
    List.cons_append, splitOnCloseBrace, if_pos rfl, List.append_assoc, Bool.not_false,
    splitOnCloseBrace_skip plain.written.2 quoted, List.singleton_append,
    splitOnCloseBrace, if_pos rfl, Bool.not_true]
  simp only [Option.map_map]
  congr 1
  funext r
  simp

/-- The scanner for the commas goes over a plain label. -/
lemma splitTopLevelCommas_label {e : String × String} {out buf rest} (name : LabelName e.1)
    (plain : PlainValue e.2) :
    splitTopLevelCommas out buf false (labelText e ++ rest) =
      splitTopLevelCommas out (buf ++ labelText e) false rest := by
  have key : ∀ c, isLabelChar c = false → c ≠ '=' → c ∉ e.1.toList ++ ['='] := by
    intro c other different mem
    obtain inside | last := List.mem_append.mp mem
    · exact not_mem_labelName name other inside
    · exact different (List.mem_singleton.mp last)
  have quoted : true = false → ',' ∉ e.2.toList := fun shut => absurd shut (by decide)
  rw [labelText_plain plain, List.append_assoc,
    splitTopLevelCommas_skip (key _ (by decide) (by decide)) fun _ => key _ (by decide) (by decide),
    List.cons_append, splitTopLevelCommas, if_pos rfl, List.append_assoc e.2.toList, Bool.not_false,
    splitTopLevelCommas_skip plain.written.2 quoted, List.singleton_append,
    splitTopLevelCommas, if_pos rfl, Bool.not_true]
  congr 1
  simp

/-- The labels end at their own brace. -/
lemma splitOnCloseBrace_labels {es : List (String × String)} {rest}
    (names : ∀ e ∈ es, LabelName e.1) (plain : ∀ e ∈ es, PlainValue e.2) :
    splitOnCloseBrace false (labelsText es ++ '}' :: rest) = some (labelsText es, rest) := by
  induction es with
  | nil => rfl
  | cons e es ih =>
    have first := names e List.mem_cons_self
    have value := plain e List.mem_cons_self
    cases es with
    | nil =>
      rw [labelsText, splitOnCloseBrace_label first value]
      simp [splitOnCloseBrace]
    | cons e' es =>
      have rest_ := ih (fun x mem => names x (List.mem_cons_of_mem _ mem))
        fun x mem => plain x (List.mem_cons_of_mem _ mem)
      rw [labelsText_cons, List.append_assoc, splitOnCloseBrace_label first value, List.cons_append,
        splitOnCloseBrace, if_neg (by decide), if_neg (by decide), rest_]
      rfl

/-- The labels are separated at the commas between them. -/
lemma splitTopLevelCommas_labels {e : String × String} {es out}
    (names : ∀ x ∈ e :: es, LabelName x.1) (plain : ∀ x ∈ e :: es, PlainValue x.2) :
    splitTopLevelCommas out [] false (labelsText (e :: es)) = out ++ (e :: es).map labelText := by
  induction es generalizing e out with
  | nil =>
    have visible : labelText e ≠ [] := by simp [labelText]
    rw [labelsText, ← List.append_nil (labelText e),
      splitTopLevelCommas_label (names e List.mem_cons_self) (plain e List.mem_cons_self),
      List.nil_append, splitTopLevelCommas, if_neg visible]
    rfl
  | cons e' es ih =>
    rw [labelsText_cons,
      splitTopLevelCommas_label (names e List.mem_cons_self) (plain e List.mem_cons_self),
      splitTopLevelCommas, if_neg (by decide), if_pos (by decide),
      ih (fun x mem => names x (List.mem_cons_of_mem _ mem))
        fun x mem => plain x (List.mem_cons_of_mem _ mem)]
    simp

/-- Stripping does not change a text that starts and ends otherwise. -/
lemma stripBy_eq {chars : Char → Bool} {s : List Char} (first : ∀ c ∈ s.head?, chars c = false)
    (last : ∀ c ∈ s.getLast?, chars c = false) : Py.stripBy chars s = s := by
  have kept {t : List Char} (other : ∀ c ∈ t.head?, chars c = false) : t.dropWhile chars = t := by
    cases t with
    | nil => rfl
    | cons c t =>
      rw [List.dropWhile_cons_of_neg]
      rw [other c rfl]
      exact Bool.false_ne_true
  have back : ∀ c ∈ s.reverse.head?, chars c = false := by
    rw [List.head?_reverse]
    exact last
  unfold Py.stripBy
  rw [kept first, kept back, List.reverse_reverse]

/-- The quotes around a text without quotes are stripped. -/
lemma stripBy_quoted {s : List Char} (quoteless : '"' ∉ s) :
    Py.stripBy (· = '"') ('"' :: (s ++ ['"'])) = s := by
  have kept {t : List Char} (h : '"' ∉ t) : (t ++ ['"']).dropWhile (· = '"') =
      if t = [] then [] else t ++ ['"'] := by
    cases t with
    | nil => rfl
    | cons c t =>
      have other : ¬ decide (c = '"') = true := fun e => h (of_decide_eq_true e ▸ List.mem_cons_self)
      rw [List.cons_append, List.dropWhile_cons, if_neg other]
      rfl
  have kept' {t : List Char} (h : '"' ∉ t) : t.dropWhile (· = '"') = t := by
    cases t with
    | nil => rfl
    | cons c t =>
      have other : ¬ decide (c = '"') = true := fun e => h (of_decide_eq_true e ▸ List.mem_cons_self)
      rw [List.dropWhile_cons, if_neg other]
  have back : '"' ∉ s.reverse := fun mem => quoteless (List.mem_reverse.mp mem)
  unfold Py.stripBy
  rw [List.dropWhile_cons_of_pos (by decide), kept quoteless]
  split
  · rename_i empty
    rw [empty]
    rfl
  · rw [List.reverse_append, List.reverse_singleton, List.singleton_append,
      List.dropWhile_cons_of_pos (by decide), kept' back, List.reverse_reverse]

/-- The characters that are neither spaces nor control characters. -/
def Visible (c : Char) : Prop := 33 ≤ c.toNat ∧ c.toNat ≤ 126

instance {c} : Decidable (Visible c) := inferInstanceAs (Decidable (_ ∧ _))

/-- A visible character is no space. -/
lemma Visible.isSpace {c : Char} (h : Visible c) : Py.isSpace c = false := by
  unfold Visible at h
  unfold Py.isSpace
  simp only [Bool.or_eq_false_iff, Bool.and_eq_false_iff, decide_eq_false_iff_not,
    beq_eq_false_iff_ne]
  omega

/-- A visible character ends no line. -/
lemma Visible.isLineBreak {c : Char} (h : Visible c) : Py.isLineBreak c = false := by
  unfold Visible at h
  unfold Py.isLineBreak
  simp only [Bool.or_eq_false_iff, Bool.and_eq_false_iff, decide_eq_false_iff_not,
    beq_eq_false_iff_ne]
  omega

/-- Letters and digits are visible. -/
lemma visible_alphanum {c : Char} (h : c.isAlphanum = true) : Visible c := by
  change ((decide ('A'.val ≤ c.val ∧ c.val ≤ 'Z'.val) ||
    (decide ('a'.val ≤ c.val) && decide (c.val ≤ 'z'.val))) ||
    (decide ('0'.val ≤ c.val) && decide (c.val ≤ '9'.val))) = true at h
  simp only [Bool.or_eq_true, Bool.and_eq_true, decide_eq_true_eq, UInt32.le_iff_toNat_le] at h
  obtain (upper | lower) | digit := h
  · exact ⟨le_trans (by decide) upper.1, le_trans upper.2 (by decide)⟩
  · exact ⟨le_trans (by decide) lower.1, le_trans lower.2 (by decide)⟩
  · exact ⟨le_trans (by decide) digit.1, le_trans digit.2 (by decide)⟩

/-- So are the characters of label names. -/
lemma visible_labelChar {c : Char} (h : isLabelChar c = true) : Visible c := by
  obtain alphanum | rfl := (Bool.or_eq_true _ _).mp h |>.imp_right beq_iff_eq.mp
  · exact visible_alphanum alphanum
  · decide

/-- A plain label is read back. -/
lemma addLabel_labelText {labels : Dict String String} {e : String × String}
    (name : LabelName e.1) (plain : PlainValue e.2) :
    addLabel labels (labelText e) = labels.set e.1 e.2 := by
  have parts : Py.partition '=' (labelText e) =
      (e.1.toList, '"' :: (e.2.toList ++ ['"'])) := by
    unfold labelText
    rw [plain.written.1, partition_append (not_mem_labelName name (by decide))]
  have key : Py.stripBy Py.isSpace e.1.toList = e.1.toList := by
    apply stripBy_eq
    · intro c first
      exact (visible_labelChar (name.2.1 c (List.mem_of_mem_head? first))).isSpace
    · intro c last
      exact (visible_labelChar (name.2.1 c (List.mem_of_mem_getLast? last))).isSpace
  have raw : Py.stripBy Py.isSpace ('"' :: (e.2.toList ++ ['"'])) = '"' :: (e.2.toList ++ ['"']) := by
    apply stripBy_eq
    · intro c first
      cases first
      decide
    · intro c last
      rw [← List.cons_append, List.getLast?_concat] at last
      cases last
      decide
  have there : '=' ∈ labelText e := by simp [labelText]
  unfold addLabel
  rw [if_neg (not_not.mpr there), parts]
  dsimp only
  rw [key, raw, stripBy_quoted plain.written.2, String.ofList_toList, String.ofList_toList]

/-- Plain labels are read back. -/
lemma parseLabels_labelsText {labels : Dict String String} (some_ : labels.entries ≠ [])
    (names : ∀ e ∈ labels.entries, LabelName e.1) (plain : ∀ e ∈ labels.entries, PlainValue e.2) :
    parseLabels (labelsText labels.entries) = labels := by
  have parts : splitTopLevelCommas [] [] false (labelsText labels.entries) =
      labels.entries.map labelText := by
    generalize labels.entries = es at *
    cases es with
    | nil => exact absurd rfl some_
    | cons e es => exact splitTopLevelCommas_labels names plain
  have each : ∀ es : List (String × String), (∀ e ∈ es, LabelName e.1 ∧ PlainValue e.2) → ∀ acc,
      (es.map labelText).foldl addLabel acc = es.foldl (fun acc e => acc.set e.1 e.2) acc := by
    intro es ok acc
    induction es generalizing acc with
    | nil => rfl
    | cons e es ih =>
      obtain ⟨name, value⟩ := ok e List.mem_cons_self
      rw [List.map_cons, List.foldl_cons, List.foldl_cons, addLabel_labelText name value]
      exact ih (fun x mem => ok x (List.mem_cons_of_mem _ mem)) _
  unfold parseLabels
  rw [parts, each _ fun e mem => ⟨names e mem, plain e mem⟩, Dict.foldl_set_entries]

section
variable {ν : Type} {write : ν → String} {float : String → Option ν} {s : Exposed ν}

/-- What follows the name and the labels of a sample. -/
def valueText (write : ν → String) (s : Exposed ν) : List Char :=
  (write s.value).toList ++ s.timestamp.elim [] fun t => ' ' :: (toString t).toList

/-- An integer is written as a number. -/
lemma numberText_intStr {n : Int} : NumberText (toString n) := by
  have digits (k : Nat) : NumberText (toString k) := by
    constructor
    · intro empty
      have nil := congrArg String.toList empty
      rw [Nat.toString_eq_repr, Nat.repr_eq_ofList_toDigits, String.toList_ofList] at nil
      exact Nat.toDigits_ne_nil nil
    · intro c mem
      rw [Nat.toString_eq_repr, Nat.repr_eq_ofList_toDigits, String.toList_ofList] at mem
      have digit := Nat.isDigit_of_mem_toDigits (by decide) (by decide) mem
      exact .inl (by rw [Char.isAlphanum, digit, Bool.or_true])
  cases n with
  | ofNat k => exact digits k
  | negSucc k =>
    have split : (toString (Int.negSucc k)).toList = '-' :: (toString (k + 1)).toList :=
      String.toList_append ..
    constructor
    · intro empty
      rw [empty] at split
      cases split
    · intro c mem
      rw [split] at mem
      obtain rfl | digit := List.mem_cons.mp mem
      · exact .inr (by decide)
      · exact (digits _).2 c digit

/-- The characters of numbers are visible. -/
lemma number_visible {c : Char} (h : c.isAlphanum = true ∨ c ∈ ['+', '-', '.']) : Visible c := by
  obtain alphanum | sign := h
  · exact visible_alphanum alphanum
  · revert sign
    simp only [List.mem_cons, List.not_mem_nil, or_false]
    rintro (rfl | rfl | rfl) <;> decide

/-- The text of a number is visible. -/
lemma NumberText.visible {t : String} (h : NumberText t) : ∀ c ∈ t.toList, Visible c :=
  fun c mem => number_visible (h.2 c mem)

/-- The name of a metric is visible. -/
lemma MetricName.visible {t : String} (h : MetricName t) : ∀ c ∈ t.toList, Visible c := by
  intro c mem
  obtain label | rfl := h.2.1 c mem
  · exact visible_labelChar label
  · decide

/-- A character that is none of names is none of the name of a metric. -/
lemma MetricName.not_mem {t : String} (h : MetricName t) {c : Char}
    (other : isLabelChar c = false) (other' : c ≠ ':') : c ∉ t.toList := by
  intro mem
  obtain label | colon := h.2.1 c mem
  · rw [other] at label
    cases label
  · exact other' colon

/-- A line is the name, the labels and the value. -/
lemma renderLine_eq : renderLine write s = s.name.toList ++
    (if s.labels.entries = [] then [] else '{' :: (labelsText s.labels.entries ++ ['}'])) ++
    ' ' :: valueText write s := by
  unfold renderLine valueText
  simp

/-- What follows the labels are numbers and spaces. -/
lemma NumberText.valueText (number : NumberText (write s.value)) : ∀ c ∈ valueText write s,
    c = ' ' ∨ c.isAlphanum = true ∨ c ∈ ['+', '-', '.'] := by
  intro c mem
  obtain value | stamp := List.mem_append.mp mem
  · exact .inr (number.2 c value)
  · cases at_ : s.timestamp with
    | none =>
      rw [at_] at stamp
      cases stamp
    | some t =>
      rw [at_] at stamp
      obtain rfl | digit := List.mem_cons.mp stamp
      · exact .inl rfl
      · exact .inr (numberText_intStr.2 c digit)

/-- The value of a line is followed by spaces only within it. -/
lemma getLast?_valueText (number : NumberText (write s.value)) :
    ∀ c ∈ (valueText write s).getLast?, Visible c := by
  intro c last
  unfold valueText at last
  cases stamp : s.timestamp with
  | none =>
    rw [stamp, Option.elim_none, List.append_nil] at last
    exact number.visible c (List.mem_of_mem_getLast? last)
  | some t =>
    have digits : (toString t).toList ≠ [] :=
      fun nil => numberText_intStr.1 (String.toList_eq_nil_iff.mp nil)
    rw [stamp, Option.elim_some, ← List.singleton_append, ← List.append_assoc,
      List.getLast?_append_of_ne_nil _ digits] at last
    exact numberText_intStr.visible c (List.mem_of_mem_getLast? last)

/-- The value of a line is not empty. -/
lemma head?_valueText (number : NumberText (write s.value)) :
    ∃ c, (valueText write s).head? = some c ∧ Visible c := by
  have some_ : (write s.value).toList ≠ [] := fun nil => number.1 (String.toList_eq_nil_iff.mp nil)
  obtain ⟨c, cs, e⟩ := List.exists_cons_of_ne_nil some_
  refine ⟨c, ?_, number.visible c (e ▸ List.mem_cons_self)⟩
  unfold valueText
  rw [e]
  rfl

/-- The parts of a line: those of the labels are found by the scanner. -/
lemma lineParts_renderLine (number : NumberText (write s.value)) :
    lineParts (renderLine write s) =
      if s.labels.entries = [] then some (s.name.toList, .empty, valueText write s)
      else (splitOnCloseBrace false
        (labelsText s.labels.entries ++ '}' :: ' ' :: valueText write s)).map
          fun r => (s.name.toList, parseLabels r.1, r.2) := by
  have braceless : '{' ∉ s.name.toList := s.metricName.not_mem (by decide) (by decide)
  have spaceless : ' ' ∉ s.name.toList := s.metricName.not_mem (by decide) (by decide)
  unfold lineParts
  rw [renderLine_eq]
  by_cases unlabelled : s.labels.entries = []
  · have braceless' : '{' ∉ valueText write s := fun mem => absurd (number.valueText _ mem) (by decide)
    have none_ : '{' ∉ s.name.toList ++ ' ' :: valueText write s := by
      rw [List.mem_append, List.mem_cons, not_or, not_or]
      exact ⟨braceless, by decide, braceless'⟩
    rw [if_pos unlabelled, if_pos unlabelled, List.append_nil, if_neg none_, partition_append spaceless]
  · rw [if_neg unlabelled, if_neg unlabelled, if_pos (by simp), List.append_assoc, List.cons_append,
      List.append_assoc, partition_append braceless]
    rfl

/-- Nothing is stripped from a line. -/
lemma stripBy_renderLine (number : NumberText (write s.value)) :
    Py.stripBy Py.isSpace (renderLine write s) = renderLine write s := by
  obtain ⟨c, cs, e⟩ := List.exists_cons_of_ne_nil fun nil =>
    s.metricName.1 (String.toList_eq_nil_iff.mp nil)
  apply stripBy_eq
  · intro d first
    rw [renderLine_eq, e] at first
    cases first
    exact (s.metricName.visible c (e ▸ List.mem_cons_self)).isSpace
  · intro d last
    rw [renderLine_eq] at last
    obtain ⟨first, starts, -⟩ := head?_valueText number
    have some_ : valueText write s ≠ [] := by
      rintro nil
      rw [nil] at starts
      cases starts
    rw [List.getLast?_append_of_ne_nil _ (List.cons_ne_nil _ _),
      List.getLast?_cons_of_ne_nil some_] at last
    exact (getLast?_valueText number d last).isSpace

/-- Nothing is stripped from the value. -/
lemma stripBy_valueText (number : NumberText (write s.value)) :
    Py.stripBy Py.isSpace (valueText write s) = valueText write s ∧
      Py.stripBy Py.isSpace (' ' :: valueText write s) = valueText write s ∧
      valueText write s ≠ [] := by
  obtain ⟨first, starts, visible⟩ := head?_valueText number
  have bare : Py.stripBy Py.isSpace (valueText write s) = valueText write s := by
    apply stripBy_eq
    · intro c here
      rw [starts] at here
      cases here
      exact visible.isSpace
    · exact fun c last => (getLast?_valueText number c last).isSpace
  refine ⟨bare, ?_, ?_⟩
  · conv_rhs => rw [← bare]
    unfold Py.stripBy
    rw [List.dropWhile_cons_of_pos (by decide)]
  · rintro nil
    rw [nil] at starts
    cases starts

/-- The first word of the value is the number. -/
lemma takeWhile_valueText (number : NumberText (write s.value)) :
    String.ofList ((valueText write s).takeWhile fun c => !Py.isSpace c) = write s.value := by
  have inside : ∀ c ∈ (write s.value).toList, (!Py.isSpace c) = true := by
    intro c mem
    rw [(number.visible c mem).isSpace]
    rfl
  have outside : (s.timestamp.elim [] fun t => ' ' :: (toString t).toList).takeWhile
      (fun c => !Py.isSpace c) = [] := by
    cases s.timestamp with
    | none => rfl
    | some t => exact List.takeWhile_cons_of_neg (by decide)
  unfold valueText
  rw [List.takeWhile_append_of_pos inside, outside, List.append_nil, String.ofList_toList]

variable {wanted : List String}

/-- A line is looked at: it is no comment and not too long. -/
lemma parseLine_renderLine (number : NumberText (write s.value))
    (short : (renderLine write s).length ≤ maxLineLen) :
    parseLine float wanted (renderLine write s) =
      match lineParts (renderLine write s) with
      | none => none
      | some (metric, labels, valuePart) =>
        if Py.stripBy Py.isSpace valuePart = [] then none
        else
          match recordedUnder wanted metric with
          | none => none
          | some name => (float (String.ofList ((Py.stripBy Py.isSpace valuePart).takeWhile
              fun c => !Py.isSpace c))).map fun value =>
                (name, { labels := labels, value := value }) := by
  obtain ⟨c, cs, e⟩ := List.exists_cons_of_ne_nil fun nil =>
    s.metricName.1 (String.toList_eq_nil_iff.mp nil)
  have starts : (renderLine write s).head? = some c := by
    rw [renderLine_eq, e]
    rfl
  have looked : ¬ (renderLine write s = [] ∨ (renderLine write s).head? = some '#' ∨
      maxLineLen < (renderLine write s).length) := by
    rintro (empty | comment | long)
    · rw [empty] at starts
      cases starts
    · rw [comment] at starts
      cases starts
      exact s.metricName.not_mem (c := '#') (by decide) (by decide) (e ▸ List.mem_cons_self)
    · omega
  unfold parseLine
  dsimp only
  rw [stripBy_renderLine number]
  exact if_neg looked

/-- A sample that is not wanted contributes nothing. -/
lemma parseLine_unwanted (number : NumberText (write s.value))
    (short : (renderLine write s).length ≤ maxLineLen)
    (unwanted : recordedUnder wanted s.name.toList = none) :
    parseLine float wanted (renderLine write s) = none := by
  rw [parseLine_renderLine number short, lineParts_renderLine number]
  split
  · rfl
  · rename_i metric labels valuePart parts
    have named : metric = s.name.toList := by
      split_ifs at parts with unlabelled
      · cases parts
        rfl
      · obtain ⟨r, -, e⟩ := Option.map_eq_some_iff.mp parts
        cases e
        rfl
    rw [named, unwanted]
    split <;> rfl

/-- A sample with plain labels is read back. -/
lemma parseLine_plain (number : NumberText (write s.value))
    (exact_ : float (write s.value) = some s.value)
    (short : (renderLine write s).length ≤ maxLineLen)
    (plain : ∀ e ∈ s.labels.entries, PlainValue e.2) :
    parseLine float wanted (renderLine write s) =
      (recordedUnder wanted s.name.toList).map fun w =>
        (w, { labels := s.labels, value := s.value }) := by
  obtain ⟨bare, spaced, some_⟩ := stripBy_valueText number
  have parts : ∃ valuePart, Py.stripBy Py.isSpace valuePart = valueText write s ∧
      lineParts (renderLine write s) = some (s.name.toList, s.labels, valuePart) := by
    rw [lineParts_renderLine number]
    split_ifs with unlabelled
    · exact ⟨_, bare, by rw [show s.labels = .empty from Dict.ext unlabelled]⟩
    · refine ⟨_, spaced, ?_⟩
      rw [splitOnCloseBrace_labels s.labelNames plain]
      simp only [Option.map_some]
      rw [parseLabels_labelsText unlabelled s.labelNames plain]
  obtain ⟨valuePart, stripped, parts⟩ := parts
  rw [parseLine_renderLine number short, parts]
  dsimp only
  rw [stripped, if_neg some_, takeWhile_valueText number, exact_]
  cases recordedUnder wanted s.name.toList <;> rfl

/-- A line without line breaks inside ends at its newline. -/
lemma splitlines_append {line l rest : List Char} (untorn : ∀ c ∈ l, Py.isLineBreak c = false) :
    Py.splitlines line (l ++ '\n' :: rest) = (line ++ l) :: Py.splitlines [] rest := by
  induction l generalizing line with
  | nil =>
    rw [List.nil_append, List.append_nil, Py.splitlines, if_pos (by decide)]
    intro cs e
    cases e
  | cons c l ih =>
    have whole := untorn c List.mem_cons_self
    rw [List.cons_append, Py.splitlines, if_neg (by rw [whole]; exact Bool.false_ne_true),
      ih fun d mem => untorn d (List.mem_cons_of_mem _ mem), List.append_assoc]
    · rfl
    · rintro cs rfl
      cases whole

/-- The lines of the text format. -/
lemma splitlines_renderText {samples : List (Exposed ν)}
    (untorn : ∀ s ∈ samples, ∀ c ∈ renderLine write s, Py.isLineBreak c = false) :
    Py.splitlines [] (renderText write samples).toList = samples.map (renderLine write) := by
  unfold renderText
  rw [String.toList_ofList]
  induction samples with
  | nil => rfl
  | cons s samples ih =>
    rw [List.flatMap_cons, List.append_assoc, List.singleton_append,
      splitlines_append (untorn s List.mem_cons_self),
      ih fun x mem => untorn x (List.mem_cons_of_mem _ mem)]
    rfl

/-- A line has no line break inside when its label values have none but newlines. -/
lemma renderLine_untorn (number : NumberText (write s.value))
    (values : ∀ e ∈ s.labels.entries, UntornValue e.2) :
    ∀ c ∈ renderLine write s, Py.isLineBreak c = false := by
  have escaped {v : String} (untorn : UntornValue v) {c} (mem : c ∈ v.toList.flatMap escapeChar) :
      Py.isLineBreak c = false := by
    obtain ⟨d, there, part⟩ := List.mem_flatMap.mp mem
    have whole := untorn d there
    unfold escapeChar at part
    split_ifs at part with slash quote newline
    · revert part
      simp only [List.mem_cons, List.not_mem_nil, or_false, or_self]
      rintro rfl
      decide
    · revert part
      simp only [List.mem_cons, List.not_mem_nil, or_false]
      rintro (rfl | rfl) <;> decide
    · revert part
      simp only [List.mem_cons, List.not_mem_nil, or_false]
      rintro (rfl | rfl) <;> decide
    · rw [List.mem_singleton.mp part]
      exact Bool.eq_false_iff.mpr fun torn => newline (whole torn)
  have label {e} (name : LabelName e.1) (untorn : UntornValue e.2) {c}
      (mem : c ∈ labelText e) : Py.isLineBreak c = false := by
    unfold labelText at mem
    simp only [List.mem_append, List.mem_cons, List.not_mem_nil, or_false] at mem
    obtain key | rfl | rfl | value | rfl := mem
    · exact (visible_labelChar (name.2.1 c key)).isLineBreak
    · decide
    · decide
    · exact escaped untorn value
    · decide
  have labels : ∀ es : List (String × String), (∀ e ∈ es, LabelName e.1 ∧ UntornValue e.2) →
      ∀ c ∈ labelsText es, Py.isLineBreak c = false := by
    intro es ok c mem
    induction es with
    | nil => cases mem
    | cons e es ih =>
      obtain ⟨name, untorn⟩ := ok e List.mem_cons_self
      cases es with
      | nil => exact label name untorn mem
      | cons e' es =>
        rw [labelsText_cons, List.mem_append, List.mem_cons] at mem
        obtain first | rfl | rest := mem
        · exact label name untorn first
        · decide
        · exact ih (fun x there => ok x (List.mem_cons_of_mem _ there)) rest
  intro c mem
  rw [renderLine_eq, List.mem_append, List.mem_append, List.mem_cons] at mem
  obtain (name | braces) | rfl | value := mem
  · exact (s.metricName.visible c name).isLineBreak
  · split_ifs at braces with unlabelled
    · cases braces
    · rw [List.mem_cons, List.mem_append, List.mem_singleton] at braces
      obtain rfl | inside | rfl := braces
      · decide
      · exact labels _ (fun e there => ⟨s.labelNames e there, values e there⟩) c inside
      · decide
  · decide
  · obtain rfl | digit := number.valueText c value
    · decide
    · exact (number_visible digit).isLineBreak

end

/-- The samples recorded under a name. -/
def underName {ν : Type} (name : String) (found : List (String × Sample ν)) : List (Sample ν) :=
  (found.filter (·.1 = name)).map (·.2)

/-- What a lookup finds: nothing for a name without samples. -/
def lookupResult {ν : Type} : List (Sample ν) → Option (List (Sample ν))
  | [] => none
  | l => some l

/-- Recording a sample changes what is found under its name. -/
lemma get?_record {ν : Type} {result : Dict String (List (Sample ν))} {f : String × Sample ν}
    {name : String} : (record result f).get? name =
      if name = f.1 then some (if ((result.get? f.1).getD []).length < maxSamplesPerMetric then
        (result.get? f.1).getD [] ++ [f.2] else (result.get? f.1).getD [])
      else result.get? name := Dict.get?_set

/-- Recording keeps the order, up to the maximum for each name. -/
lemma get?_foldl_record {ν : Type} {found : List (String × Sample ν)} {name : String} :
    (found.foldl record .empty).get? name =
      lookupResult ((underName name found).take maxSamplesPerMetric) := by
  induction found using List.reverseRecOn with
  | nil => rfl
  | append_singleton found f ih =>
    have bucket (l : List (Sample ν)) : (lookupResult l).getD [] = l := by
      cases l <;> rfl
    rw [List.foldl_append, List.foldl_cons, List.foldl_nil, get?_record]
    by_cases same : name = f.1
    · subst same
      have more : underName f.1 (found ++ [f]) = underName f.1 found ++ [f.2] := by
        simp [underName]
      rw [if_pos rfl, ih, bucket, more]
      split
      · rename_i room
        have all : (underName f.1 found).length < maxSamplesPerMetric := by
          rw [List.length_take] at room
          omega
        have room' : (underName f.1 found ++ [f.2]).length ≤ maxSamplesPerMetric := by
          rw [List.length_append, List.length_singleton]
          exact all
        rw [List.take_of_length_le all.le, List.take_of_length_le room']
        cases underName f.1 found <;> rfl
      · rename_i full
        have enough : maxSamplesPerMetric ≤ (underName f.1 found).length := by
          rw [List.length_take] at full
          omega
        rw [List.take_append_of_le_length enough]
        have some_ : 0 < ((underName f.1 found).take maxSamplesPerMetric).length := by
          rw [List.length_take, Nat.min_eq_left enough]
          decide
        obtain ⟨x, xs, e⟩ := List.exists_cons_of_length_pos some_
        rw [e]
        rfl
    · have others : underName name (found ++ [f]) = underName name found := by
        simp [underName, Ne.symm same]
      rw [if_neg same, ih, others]

section
variable {ν : Type} (write : ν → String) (float : String → Option ν) (wanted : List String)
  (samples : List (Exposed ν))

/-- The samples of a metric and of its series. -/
def samplesOf (name : String) : List (Sample ν) :=
  (samples.filter fun s => seriesOf wanted s.name = some name).map fun s =>
    { labels := s.labels, value := s.value }

/-- The parser returns the samples of the wanted metrics and of their series, in order, and no
others. -/
def ReadsExactly : Prop :=
  ∀ name, (parseExposition float (renderText write samples) wanted).get? name =
    lookupResult (samplesOf wanted samples name)

/-- The samples can be written: their values as numbers that are read back, their lines not too long
and at most as many under a name as the parser keeps. -/
structure Written : Prop where
  number : ∀ s ∈ samples, NumberText (write s.value)
  readBack : ∀ s ∈ samples, float (write s.value) = some s.value
  short : ∀ s ∈ samples, (renderLine write s).length ≤ maxLineLen
  few : ∀ name, (samplesOf wanted samples name).length ≤ maxSamplesPerMetric

end

section
variable {ν : Type} {write : ν → String} {float : String → Option ν} {wanted : List String}
  {samples : List (Exposed ν)}

/-- What the parser records for untorn lines. -/
lemma get?_parseExposition (written : Written write float wanted samples)
    (untorn : ∀ s ∈ samples, ∀ e ∈ s.labels.entries, UntornValue e.2) {name} :
    (parseExposition float (renderText write samples) wanted).get? name =
      lookupResult ((underName name (samples.filterMap fun s =>
        parseLine float wanted (renderLine write s))).take maxSamplesPerMetric) := by
  unfold parseExposition
  rw [splitlines_renderText fun s mem => renderLine_untorn (written.number s mem) (untorn s mem),
    List.filterMap_map, get?_foldl_record]
  rfl

/-- Samples with plain label values are read exactly. -/
lemma readsExactly_of_plain (written : Written write float wanted samples)
    (untorn : ∀ s ∈ samples, ∀ e ∈ s.labels.entries, UntornValue e.2)
    (named : ∀ s ∈ samples, recordedUnder wanted s.name.toList = seriesOf wanted s.name)
    (plain : ∀ s ∈ samples, seriesOf wanted s.name ≠ none →
      ∀ e ∈ s.labels.entries, PlainValue e.2) :
    ReadsExactly write float wanted samples := by
  have each : samples.filterMap (fun s => parseLine float wanted (renderLine write s)) =
      samples.filterMap fun s => (seriesOf wanted s.name).map fun w =>
        (w, ({ labels := s.labels, value := s.value } : Sample ν)) := by
    apply List.filterMap_congr
    intro s mem
    cases series : seriesOf wanted s.name with
    | none =>
      exact parseLine_unwanted (written.number s mem) (written.short s mem)
        ((named s mem).trans series)
    | some w =>
      rw [parseLine_plain (written.number s mem) (written.readBack s mem) (written.short s mem)
        (plain s mem (by rw [series]; exact Option.some_ne_none w)), named s mem, series]
  intro name
  have under : underName name (samples.filterMap fun s => (seriesOf wanted s.name).map fun w =>
      (w, ({ labels := s.labels, value := s.value } : Sample ν))) =
        samplesOf wanted samples name := by
    unfold underName samplesOf
    clear each named plain untorn written
    induction samples with
    | nil => rfl
    | cons s samples ih =>
      cases series : seriesOf wanted s.name with
      | none => simpa [series] using ih
      | some w =>
        by_cases same : w = name
        · simpa [series, same] using ih
        · simpa [series, same] using ih
  rw [get?_parseExposition written untorn, each, under, List.take_of_length_le (written.few name)]

end

end SentinelOps.Rca
