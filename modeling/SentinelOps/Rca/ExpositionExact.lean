import Mathlib.Data.List.TakeWhile
import SentinelOps.Rca.Exposition

/-!
# Which samples are read exactly

Labels whose values have quotes, backslashes or newlines are never read back. The commas show it:
the parts that a label list is split into have to carry the commas of all values and there has to be
one for each label, which leaves no comma to split at but the ones between the labels; then the
first part is the first label, whose value is plain.
-/

namespace SentinelOps.Rca

/-- The number of commas. -/
abbrev commas (s : List Char) : Nat := s.count ','

/-- The parts so far stay in front. -/
lemma splitTopLevelCommas_out {out buf inQuotes s} : splitTopLevelCommas out buf inQuotes s =
    out ++ splitTopLevelCommas [] buf inQuotes s := by
  induction s generalizing out buf inQuotes with
  | nil =>
    unfold splitTopLevelCommas
    split
    · exact (List.append_nil _).symm
    · rfl
  | cons c s ih =>
    rw [splitTopLevelCommas, splitTopLevelCommas]
    split_ifs
    · exact ih
    · rw [ih, @ih ([] ++ [buf]), List.append_assoc]
      rfl
    · exact ih

/-- Splitting takes a comma for every part but the first. -/
lemma commas_parts (buf inQuotes s) :
    ((splitTopLevelCommas [] buf inQuotes s).map commas).sum +
      (splitTopLevelCommas [] buf inQuotes s).length ≤ commas buf + commas s + 1 := by
  induction s generalizing buf inQuotes with
  | nil =>
    unfold splitTopLevelCommas
    split <;> simp
  | cons c s ih =>
    rw [splitTopLevelCommas]
    split_ifs with quote comma
    · have more := ih (buf ++ [c]) (!inQuotes)
      simp only [commas, List.count_append, List.count_cons, List.count_nil, quote] at more ⊢
      simpa using more
    · have here : c = ',' := by
        rw [Bool.and_eq_true, decide_eq_true_iff] at comma
        exact comma.1
      have more := ih [] inQuotes
      rw [splitTopLevelCommas_out]
      simp only [commas, List.nil_append, List.map_append, List.sum_append, List.length_append,
        List.map_cons, List.map_nil, List.sum_cons, List.sum_nil, List.length_cons,
        List.length_nil, List.count_cons, List.count_nil, here] at more ⊢
      simp only [beq_self_eq_true, if_true] at more ⊢
      omega
    · have more := ih (buf ++ [c]) inQuotes
      simp only [commas, List.count_append, List.count_cons, List.count_nil] at more ⊢
      omega

/-- The first part ends at a comma or at the end. -/
lemma first_part {buf inQuotes s p ps} (h : splitTopLevelCommas [] buf inQuotes s = p :: ps) :
    ∃ d r, buf ++ s ++ ['}'] = p ++ d :: r ∧ (d = ',' ∨ d = '}') := by
  induction s generalizing buf inQuotes with
  | nil =>
    unfold splitTopLevelCommas at h
    split at h
    · cases h
    · cases h
      exact ⟨'}', [], by simp, .inr rfl⟩
  | cons c s ih =>
    rw [splitTopLevelCommas] at h
    split_ifs at h with quote comma
    · obtain ⟨d, r, e, which⟩ := ih h
      exact ⟨d, r, by rw [← e]; simp, which⟩
    · rw [splitTopLevelCommas_out, List.nil_append, List.singleton_append] at h
      cases h
      rw [Bool.and_eq_true, decide_eq_true_iff] at comma
      exact ⟨c, s ++ ['}'], by simp, .inl comma.1⟩
    · obtain ⟨d, r, e, which⟩ := ih h
      exact ⟨d, r, by rw [← e]; simp, which⟩

/-- What the scanner found in front of its brace. -/
lemma splitOnCloseBrace_some {inQuotes s r} (h : splitOnCloseBrace inQuotes s = some r) :
    s = r.1 ++ '}' :: r.2 := by
  induction s generalizing inQuotes r with
  | nil => cases h
  | cons c s ih =>
    rw [splitOnCloseBrace] at h
    split_ifs at h with quote brace
    · obtain ⟨r', found, rfl⟩ := Option.map_eq_some_iff.mp h
      rw [List.cons_append, ← ih found]
    · cases h
      rw [Bool.and_eq_true, decide_eq_true_iff] at brace
      rw [brace.1]
      rfl
    · obtain ⟨r', found, rfl⟩ := Option.map_eq_some_iff.mp h
      rw [List.cons_append, ← ih found]

/-- A text that follows some backslashes and whose escape follows as many is continued by one. -/
lemma head?_of_backslashes {t R S : List Char} {m : Nat}
    (h : t ++ R = List.replicate (m + 1) '\\' ++ (t.flatMap escapeChar ++ S)) :
    R.head? = some '\\' := by
  induction t generalizing m with
  | nil =>
    rw [List.nil_append, List.replicate_succ] at h
    rw [h]
    rfl
  | cons c t ih =>
    rw [List.cons_append, List.replicate_succ, List.cons_append] at h
    obtain ⟨rfl, h⟩ := List.cons_eq_cons.mp h
    apply ih (m := m + 1)
    rw [h, List.flatMap_cons, show escapeChar '\\' = List.replicate 2 '\\' from rfl,
      List.append_assoc, ← List.append_assoc, List.replicate_append_replicate]

/-- Only a plain value is continued by something else when its escape is read as the value. -/
lemma plain_of_append {v : List Char} {R S : List Char} (h : v ++ R = v.flatMap escapeChar ++ S)
    (other : R.head? ≠ some '\\') : ∀ c ∈ v, escapeChar c = [c] := by
  induction v with
  | nil => exact nofun
  | cons c v ih =>
    rw [List.flatMap_cons, List.append_assoc] at h
    by_cases plain : escapeChar c = [c]
    · rw [plain] at h
      have rest := ih (List.cons_eq_cons.mp h).2
      intro d mem
      obtain rfl | later := List.mem_cons.mp mem
      · exact plain
      · exact rest d later
    · exfalso
      apply other
      have slash : c = '\\' := by
        unfold escapeChar at h plain
        split_ifs at h plain with is
        · exact is
        · exact (List.cons_eq_cons.mp h).1
        · exact (List.cons_eq_cons.mp h).1
        · exact absurd rfl plain
      subst slash
      apply head?_of_backslashes (m := 0)
      exact (List.cons_eq_cons.mp h).2

/-- The label that a part is read as, if it is one. -/
def readLabel (part : List Char) : Option (String × String) :=
  if '=' ∉ part then none
  else
    some (String.ofList (Py.stripBy Py.isSpace (Py.partition '=' part).1),
      String.ofList (Py.stripBy (· = '"') (Py.stripBy Py.isSpace (Py.partition '=' part).2)))

/-- A part is assigned as what it is read as. -/
lemma addLabel_eq {labels : Dict String String} {part} : addLabel labels part =
    (readLabel part).elim labels fun e => labels.set e.1 e.2 := by
  unfold addLabel readLabel
  split_ifs
  · rfl
  · rfl

/-- Stripping leaves a part of the text. -/
lemma stripBy_sublist {chars : Char → Bool} {s : List Char} : (Py.stripBy chars s).Sublist s := by
  unfold Py.stripBy
  rw [← List.reverse_sublist, List.reverse_reverse]
  exact (List.dropWhile_sublist _).trans (List.reverse_sublist.mpr (List.dropWhile_sublist _))

/-- The value of a label is a part of its text. -/
lemma commas_readLabel {part e} (h : readLabel part = some e) : commas e.2.toList ≤ commas part := by
  unfold readLabel at h
  split_ifs at h
  cases h
  rw [String.toList_ofList]
  apply List.Sublist.count_le
  exact stripBy_sublist.trans (stripBy_sublist.trans
    ((List.drop_sublist _ _).trans (List.dropWhile_sublist _)))

/-- The commas of the values. -/
def valueCommas (es : List (String × String)) : Nat := (es.map fun e => commas e.2.toList).sum

/-- An assignment adds at most one entry and the commas of its value; when it adds one, at the end. -/
lemma assign_commas (k v : String) (es : List (String × String)) :
    valueCommas (Dict.assign k v es) ≤ valueCommas es + commas v.toList ∧
      (Dict.assign k v es).length ≤ es.length + 1 ∧
      ((Dict.assign k v es).length = es.length + 1 → Dict.assign k v es = es ++ [(k, v)]) := by
  induction es with
  | nil => exact ⟨by simp [Dict.assign, valueCommas], le_refl _, fun _ => rfl⟩
  | cons e es ih =>
    obtain ⟨fewer, short, last⟩ := ih
    unfold Dict.assign
    split_ifs
    · refine ⟨?_, by simp, fun same => by simp at same⟩
      simp only [valueCommas, List.map_cons, List.sum_cons]
      omega
    · refine ⟨?_, ?_, ?_⟩
      · simp only [valueCommas, List.map_cons, List.sum_cons] at fewer ⊢
        omega
      · simp only [List.length_cons]
        omega
      · intro same
        rw [List.cons_append, last (by simpa using same)]

/-- The labels that are read have at most the commas of the parts, and one label for each part only
if the parts are these labels in order. -/
lemma foldl_addLabel (parts : List (List Char)) :
    valueCommas (parts.foldl addLabel .empty).entries ≤ (parts.map commas).sum ∧
      (parts.foldl addLabel .empty).entries.length ≤ parts.length ∧
      ((parts.foldl addLabel .empty).entries.length = parts.length →
        parts.map readLabel = (parts.foldl addLabel .empty).entries.map some) := by
  induction parts using List.reverseRecOn with
  | nil => exact ⟨le_refl _, le_refl _, fun _ => rfl⟩
  | append_singleton parts part ih =>
    obtain ⟨fewer, short, same⟩ := ih
    rw [List.foldl_append, List.foldl_cons, List.foldl_nil, addLabel_eq, List.map_append,
      List.sum_append, List.map_singleton, List.sum_singleton, List.length_append,
      List.length_singleton, List.map_append]
    cases read : readLabel part with
    | none =>
      rw [Option.elim_none]
      exact ⟨by omega, by omega, fun e => by omega⟩
    | some e =>
      obtain ⟨fewer', short', last⟩ := assign_commas e.1 e.2 (parts.foldl addLabel .empty).entries
      have value := commas_readLabel read
      rw [Option.elim_some, Dict.entries_set]
      refine ⟨by omega, by omega, ?_⟩
      intro full
      have before : (parts.foldl addLabel .empty).entries.length = parts.length := by omega
      rw [last (by omega), List.map_append, same before, List.map_singleton, List.map_singleton, read]

/-- The escapes have the commas of the text. -/
lemma commas_escape {v : List Char} : commas (v.flatMap escapeChar) = commas v := by
  induction v with
  | nil => rfl
  | cons c v ih =>
    have one : commas (escapeChar c) = commas [c] := by
      unfold escapeChar
      split_ifs with slash quote newline
      · rw [slash]
        rfl
      · rw [quote]
        rfl
      · rw [newline]
        rfl
      · rfl
    unfold commas at one ih ⊢
    rw [List.flatMap_cons, List.count_append, one, ih, ← List.count_append]
    rfl

/-- A list of labels has the commas of their values and those between the labels. -/
lemma commas_labelsText {es : List (String × String)} (some_ : es ≠ [])
    (names : ∀ e ∈ es, LabelName e.1) : commas (labelsText es) + 1 = valueCommas es + es.length := by
  have one {e : String × String} (name : LabelName e.1) :
      commas (labelText e) = commas e.2.toList := by
    have key : commas e.1.toList = 0 := List.count_eq_zero.mpr (not_mem_labelName name (by decide))
    unfold labelText
    simp only [commas, List.count_append, List.count_cons, List.count_nil] at key ⊢
    rw [key, ← commas, commas_escape]
    simp
  induction es with
  | nil => exact absurd rfl some_
  | cons e es ih =>
    have first := one (names e List.mem_cons_self)
    cases es with
    | nil => simpa [labelsText, valueCommas] using first
    | cons e' es =>
      have rest := ih (List.cons_ne_nil _ _) fun x mem => names x (List.mem_cons_of_mem _ mem)
      rw [labelsText_cons]
      simp only [commas, List.count_append, List.count_cons, valueCommas, List.map_cons,
        List.sum_cons, List.length_cons, beq_self_eq_true, if_true] at first rest ⊢
      omega

/-- Stripping the end of a text that starts otherwise. -/
lemma stripBy_append (chars : Char → Bool) (c : Char) (s : List Char) (first : chars c = false) :
    ∃ back, c :: s = Py.stripBy chars (c :: s) ++ back ∧ (∀ d ∈ back, chars d = true) ∧
      ∃ front, Py.stripBy chars (c :: s) = c :: front := by
  have kept : (c :: s).dropWhile chars = c :: s :=
    List.dropWhile_cons_of_neg (by rw [first]; exact Bool.false_ne_true)
  have split := List.takeWhile_append_dropWhile (p := chars) (l := (c :: s).reverse)
  have whole : c :: s = Py.stripBy chars (c :: s) ++ ((c :: s).reverse.takeWhile chars).reverse := by
    unfold Py.stripBy
    rw [kept, ← List.reverse_append, split, List.reverse_reverse]
  refine ⟨_, whole, fun d mem => List.mem_takeWhile_imp (List.mem_reverse.mp mem), ?_⟩
  cases stripped : Py.stripBy chars (c :: s) with
  | nil =>
    rw [stripped, List.nil_append] at whole
    have inside : c ∈ ((c :: s).reverse.takeWhile chars).reverse := by
      rw [← whole]
      exact List.mem_cons_self
    have yes := List.mem_takeWhile_imp (List.mem_reverse.mp inside)
    rw [first] at yes
    cases yes
  | cons d front =>
    rw [stripped, List.cons_append] at whole
    obtain ⟨rfl, -⟩ := List.cons_eq_cons.mp whole
    exact ⟨front, rfl⟩

/-- Two texts with the same first separator have the same parts. -/
lemma append_cons_inj {sep : Char} {s t x y : List Char} (first : sep ∉ s) (first' : sep ∉ t)
    (h : s ++ sep :: x = t ++ sep :: y) : s = t ∧ x = y := by
  have parted := congrArg (Py.partition sep) h
  rw [partition_append first, partition_append first'] at parted
  exact Prod.mk.inj parted

/-- A part that starts a label list and is read as its first label has a plain value. -/
lemma plain_of_readLabel {e : String × String} {part : List Char} {d : Char} {R S : List Char}
    (name : LabelName e.1) (read : readLabel part = some e)
    (text : part ++ d :: R = labelText e ++ S) (stop : d = ',' ∨ d = '}') : PlainValue e.2 := by
  unfold readLabel at read
  split_ifs at read with there
  obtain ⟨pre, raw, rfl, before⟩ := List.eq_append_cons_of_mem there
  rw [partition_append before] at read
  have value : e.2.toList = Py.stripBy (· = '"') (Py.stripBy Py.isSpace raw) := by
    rw [← Option.some.inj read, String.toList_ofList]
  have keyless : '=' ∉ e.1.toList := not_mem_labelName name (by decide)
  unfold labelText at text
  rw [List.append_assoc, List.cons_append, List.append_assoc, List.cons_append, List.cons_append,
    List.append_assoc] at text
  replace text := (append_cons_inj before keyless text).2
  unfold PlainValue
  generalize e.2.toList = v at value text ⊢
  -- the value is stripped of spaces, then of quotes: what is left was plain if nothing was escaped
  cases raw with
  | nil =>
    rw [value]
    exact nofun
  | cons c raw =>
    rw [List.cons_append] at text
    obtain ⟨rfl, inside⟩ := List.cons_eq_cons.mp text
    clear text
    obtain ⟨back, whole, spaces, front, starts⟩ :=
      stripBy_append Py.isSpace '"' raw (by decide)
    rw [starts] at whole value
    rw [List.cons_append] at whole
    replace whole := (List.cons_eq_cons.mp whole).2
    cases v with
    | nil => exact nofun
    | cons x v =>
      have front_ : ∃ f front', front = f :: front' ∧ f ≠ '"' := by
        cases front with
        | nil => cases value
        | cons f front' =>
          refine ⟨f, front', rfl, ?_⟩
          rintro rfl
          rw [whole, List.flatMap_cons] at inside
          unfold escapeChar at inside
          split_ifs at inside with slash quote newline
          · cases (List.cons_eq_cons.mp inside).1
          · cases (List.cons_eq_cons.mp inside).1
          · cases (List.cons_eq_cons.mp inside).1
          · exact quote (List.cons_eq_cons.mp inside).1.symm
      obtain ⟨f, front', rfl, visible⟩ := front_
      have unquoted : Py.stripBy (· = '"') ('"' :: f :: front') =
          Py.stripBy (· = '"') (f :: front') := by
        unfold Py.stripBy
        rw [List.dropWhile_cons_of_pos (by decide)]
      obtain ⟨quotes, split, only, -⟩ :=
        stripBy_append (· = '"') f front' (decide_eq_false visible)
      rw [unquoted] at value
      rw [← value] at split
      rw [whole, split, List.append_assoc, List.append_assoc] at inside
      apply plain_of_append inside
      intro next
      cases quotes with
      | cons q quotes =>
        have quote := only q List.mem_cons_self
        cases next
        cases quote
      | nil =>
        cases back with
        | cons b back =>
          have space := spaces b List.mem_cons_self
          cases next
          cases space
        | nil =>
          cases next
          obtain comma | brace := stop
          · cases comma
          · cases brace

/-- Labels that are read part by part are plain. -/
lemma plain_of_parts {es : List (String × String)} {r tail} (some_ : es ≠ [])
    (names : ∀ e ∈ es, LabelName e.1)
    (found : splitOnCloseBrace false (labelsText es ++ '}' :: tail) = some r)
    (read : (splitTopLevelCommas [] [] false r.1).map readLabel = es.map some) :
    ∀ e ∈ es, PlainValue e.2 := by
  induction es generalizing r with
  | nil => exact absurd rfl some_
  | cons e es ih =>
    have whole := splitOnCloseBrace_some found
    have name := names e List.mem_cons_self
    have first : PlainValue e.2 := by
      cases parts : splitTopLevelCommas [] [] false r.1 with
      | nil =>
        rw [parts] at read
        cases read
      | cons part rest =>
        rw [parts] at read
        obtain ⟨d, R, ends, stop⟩ := first_part parts
        rw [List.nil_append] at ends
        have starts : ∃ S, part ++ d :: (R ++ r.2) = labelText e ++ S := by
          have text : part ++ d :: (R ++ r.2) = labelsText (e :: es) ++ '}' :: tail := by
            rw [whole, ← List.cons_append, ← List.append_assoc, ← ends, List.append_assoc]
            rfl
          cases es with
          | nil => exact ⟨_, text⟩
          | cons e' es => exact ⟨_, text.trans (by rw [labelsText_cons, List.append_assoc])⟩
        obtain ⟨S, text⟩ := starts
        exact plain_of_readLabel name (List.cons_eq_cons.mp read).1 text stop
    intro x mem
    obtain rfl | later := List.mem_cons.mp mem
    · exact first
    · cases es with
      | nil => cases later
      | cons e' es =>
        rw [labelsText_cons, List.append_assoc, splitOnCloseBrace_label name first,
          List.cons_append, splitOnCloseBrace, if_neg (by decide), if_neg (by decide),
          Option.map_map] at found
        obtain ⟨r', found', rfl⟩ := Option.map_eq_some_iff.mp found
        refine ih (List.cons_ne_nil _ _) (fun y there => names y (List.mem_cons_of_mem _ there))
          found' ?_ x later
        dsimp only [Function.comp_apply] at read
        rw [splitTopLevelCommas_label name first, List.nil_append, splitTopLevelCommas,
          if_neg (by decide), if_pos (by decide), splitTopLevelCommas_out] at read
        exact (List.cons_eq_cons.mp read).2

/-- Labels that are read back as they were are plain. -/
lemma plain_of_parseLabels {labels : Dict String String} {r tail} (some_ : labels.entries ≠ [])
    (names : ∀ e ∈ labels.entries, LabelName e.1) (braceless : '}' ∉ tail)
    (found : splitOnCloseBrace false (labelsText labels.entries ++ '}' :: tail) = some r)
    (same : parseLabels r.1 = labels) : ∀ e ∈ labels.entries, PlainValue e.2 := by
  have whole := splitOnCloseBrace_some found
  have within : r.1 <+: labelsText labels.entries := by
    obtain ⟨more, left, right⟩ | ⟨more, left, right⟩ := List.append_eq_append_iff.mp whole.symm
    · exact ⟨more, left.symm⟩
    · cases more with
      | nil => exact ⟨[], by rw [left, List.append_nil, List.append_nil]⟩
      | cons c more =>
        obtain ⟨rfl, right'⟩ := List.cons_eq_cons.mp right
        have brace : '}' ∈ tail := by
          rw [right']
          exact List.mem_append_right _ List.mem_cons_self
        exact absurd brace braceless
  have budget := commas_parts [] false r.1
  have fewer : commas r.1 ≤ commas (labelsText labels.entries) := within.sublist.count_le _
  have text := commas_labelsText some_ names
  obtain ⟨values, short, ordered⟩ := foldl_addLabel (splitTopLevelCommas [] [] false r.1)
  unfold parseLabels at same
  rw [same] at values short ordered
  refine plain_of_parts some_ names found (ordered ?_)
  have none_ : commas [] = 0 := rfl
  omega

section
variable {ν : Type} {write : ν → String} {float : String → Option ν} {wanted : List String}
  {samples : List (Exposed ν)}

/-- What a line contributes is recorded under its name with the labels that were found. -/
lemma parseLine_some {s : Exposed ν} {f : String × Sample ν} (number : NumberText (write s.value))
    (short : (renderLine write s).length ≤ maxLineLen)
    (h : parseLine float wanted (renderLine write s) = some f) :
    recordedUnder wanted s.name.toList = some f.1 ∧
      (s.labels.entries ≠ [] → ∃ r, splitOnCloseBrace false
        (labelsText s.labels.entries ++ '}' :: ' ' :: valueText write s) = some r ∧
          f.2.labels = parseLabels r.1) := by
  rw [parseLine_renderLine number short, lineParts_renderLine number] at h
  split at h
  · cases h
  · rename_i metric labels valuePart parts
    split at h
    · cases h
    · split at h
      · cases h
      · rename_i name recorded
        obtain ⟨value, -, rfl⟩ := Option.map_eq_some_iff.mp h
        split_ifs at parts with unlabelled
        · cases parts
          exact ⟨recorded, fun some_ => absurd unlabelled some_⟩
        · obtain ⟨r, found, e⟩ := Option.map_eq_some_iff.mp parts
          cases e
          exact ⟨recorded, fun _ => ⟨r, found, rfl⟩⟩

/-- A selection yields at most what there was to select. -/
lemma length_filterMap_le_filter {α β : Type} {l : List α} {g : α → Option β} {P : α → Bool}
    (only : ∀ a ∈ l, g a ≠ none → P a = true) : (l.filterMap g).length ≤ (l.filter P).length := by
  induction l with
  | nil => exact le_refl _
  | cons a l ih =>
    have rest := ih fun b mem => only b (List.mem_cons_of_mem _ mem)
    cases here : g a with
    | none =>
      rw [List.filterMap_cons_none here, List.filter_cons]
      split
      · exact rest.trans (Nat.le_succ _)
      · exact rest
    | some b =>
      have chosen := only a List.mem_cons_self (by rw [here]; exact Option.some_ne_none b)
      rw [List.filterMap_cons_some here, List.filter_cons_of_pos chosen]
      exact Nat.succ_le_succ rest

/-- A selection that yields as much as there was to select selects everything. -/
lemma filterMap_eq_map_filter {α β : Type} {l : List α} {g : α → Option β} {P : α → Bool} {f : α → β}
    (only : ∀ a ∈ l, g a ≠ none → P a = true) (same : l.filterMap g = (l.filter P).map f) :
    ∀ a ∈ l, P a = true → g a = some (f a) := by
  induction l with
  | nil => exact nofun
  | cons a l ih =>
    have later : ∀ b ∈ l, g b ≠ none → P b = true :=
      fun b mem => only b (List.mem_cons_of_mem _ mem)
    by_cases chosen : P a = true
    · rw [List.filter_cons_of_pos chosen, List.map_cons] at same
      cases here : g a with
      | none =>
        rw [List.filterMap_cons_none here] at same
        have long := congrArg List.length same
        rw [List.length_cons, List.length_map] at long
        have bound := length_filterMap_le_filter later
        omega
      | some b =>
        rw [List.filterMap_cons_some here] at same
        obtain ⟨first, rest⟩ := List.cons_eq_cons.mp same
        intro c mem chosen'
        obtain rfl | mem := List.mem_cons.mp mem
        · rw [here, first]
        · exact ih later rest c mem chosen'
    · have here : g a = none := by
        by_contra some_
        exact chosen (only a List.mem_cons_self some_)
      rw [List.filter_cons_of_neg chosen, List.filterMap_cons_none here] at same
      intro c mem chosen'
      obtain rfl | mem := List.mem_cons.mp mem
      · exact absurd chosen' chosen
      · exact ih later same c mem chosen'

/-- A lookup shows the samples of a name. -/
lemma lookupResult_injective : Function.Injective (lookupResult (ν := ν)) := by
  intro a b same
  cases a with
  | nil =>
    cases b with
    | nil => rfl
    | cons => cases same
  | cons =>
    cases b with
    | nil => cases same
    | cons => exact Option.some.inj same

/-- Samples that are read exactly have plain label values, as far as they are wanted. -/
lemma plain_of_readsExactly (written : Written write float wanted samples)
    (untorn : ∀ s ∈ samples, ∀ e ∈ s.labels.entries, UntornValue e.2)
    (named : ∀ s ∈ samples, recordedUnder wanted s.name.toList = seriesOf wanted s.name)
    (reads : ReadsExactly write float wanted samples) {s} (mem : s ∈ samples)
    (series : seriesOf wanted s.name ≠ none) : ∀ e ∈ s.labels.entries, PlainValue e.2 := by
  obtain ⟨name, series⟩ := Option.ne_none_iff_exists'.mp series
  let contributed (s : Exposed ν) : Option (Sample ν) :=
    (parseLine float wanted (renderLine write s)).bind fun f => if f.1 = name then some f.2 else none
  have under : underName name (samples.filterMap fun s =>
      parseLine float wanted (renderLine write s)) = samples.filterMap contributed := by
    unfold underName
    rw [List.filter_filterMap, List.map_filterMap]
    congr 1
    funext s
    dsimp only [contributed]
    cases parseLine float wanted (renderLine write s) with
    | none => rfl
    | some f => by_cases same : f.1 = name <;> simp [Option.filter, same]
  have only : ∀ s ∈ samples, contributed s ≠ none →
      decide (seriesOf wanted s.name = some name) = true := by
    intro s mem some_
    rw [decide_eq_true_iff, ← named s mem]
    dsimp only [contributed] at some_
    cases parsed : parseLine float wanted (renderLine write s) with
    | none =>
      rw [parsed] at some_
      exact absurd rfl some_
    | some f =>
      rw [parsed, Option.bind_some] at some_
      split_ifs at some_ with same
      · rw [← same]
        exact (parseLine_some (written.number s mem) (written.short s mem) parsed).1
      · exact absurd rfl some_
  have found := reads name
  rw [get?_parseExposition written untorn, under] at found
  have within : (samples.filterMap contributed).length ≤ maxSamplesPerMetric := by
    refine (length_filterMap_le_filter only).trans ?_
    rw [← List.length_map]
    exact written.few name
  rw [List.take_of_length_le within] at found
  have each := filterMap_eq_map_filter only (lookupResult_injective found) s mem
    (decide_eq_true series)
  dsimp only [contributed] at each
  cases parsed : parseLine float wanted (renderLine write s) with
  | none =>
    rw [parsed] at each
    cases each
  | some f =>
    rw [parsed, Option.bind_some] at each
    split_ifs at each
    have labels : f.2.labels = s.labels := congrArg Sample.labels (Option.some.inj each)
    by_cases unlabelled : s.labels.entries = []
    · rw [unlabelled]
      exact nofun
    · obtain ⟨r, brace, read⟩ :=
        (parseLine_some (written.number s mem) (written.short s mem) parsed).2 unlabelled
      have braceless : '}' ∉ ' ' :: valueText write s := by
        rw [List.mem_cons, not_or]
        refine ⟨by decide, fun inside => ?_⟩
        exact absurd ((written.number s mem).valueText _ inside) (by decide)
      exact plain_of_parseLabels unlabelled s.labelNames braceless brace (read.symm.trans labels)

/-- Samples whose label values are torn by no line break and whose names the parser recognises are
read exactly when the label values of the wanted ones are plain: no quote, backslash or newline. -/
theorem readsExactly_iff (written : Written write float wanted samples)
    (untorn : ∀ s ∈ samples, ∀ e ∈ s.labels.entries, UntornValue e.2)
    (named : ∀ s ∈ samples, recordedUnder wanted s.name.toList = seriesOf wanted s.name) :
    ReadsExactly write float wanted samples ↔
      ∀ s ∈ samples, seriesOf wanted s.name ≠ none → ∀ e ∈ s.labels.entries, PlainValue e.2 :=
  ⟨fun reads _ mem series => plain_of_readsExactly written untorn named reads mem series,
    readsExactly_of_plain written untorn named⟩

end

/-- A request counter with one label. -/
def requests (path : String) : Exposed Int where
  name := "http_requests_total"
  labels := Dict.empty.set "path" path
  value := 3
  metricName := by decide
  labelNames := by
    intro e mem
    have name : LabelName "path" := by decide
    rw [List.mem_singleton.mp mem]
    exact name

/-- The conversion of its value. -/
def three (text : String) : Option Int := if text = "3" then some 3 else none

/-- It can be written. -/
lemma written_requests {path : String} {wanted}
    (short : (renderLine toString (requests path)).length ≤ maxLineLen) :
    Written toString three wanted [requests path] where
  number _ _ := numberText_intStr
  readBack s mem := by
    rw [List.mem_singleton.mp mem]
    rfl
  short s mem := by
    rw [List.mem_singleton.mp mem]
    exact short
  few name := by
    unfold samplesOf
    rw [List.length_map]
    have one : 1 ≤ maxSamplesPerMetric := by decide
    exact (List.length_filter_le _ _).trans one

/-- The values of its label. -/
lemma forall_requests {path : String} {P : String → Prop} (h : P path) :
    ∀ s ∈ [requests path], ∀ e ∈ s.labels.entries, P e.2 := by
  intro s there e mem
  rw [List.mem_singleton.mp there] at mem
  rw [List.mem_singleton.mp mem]
  exact h

/-- A path with a brace, a comma and a space is read back. -/
theorem readsExactly_iff_requests :
    ReadsExactly toString three ["http_requests_total"] [requests "/a, \x7bb\x7d"] := by
  have written : Written toString three ["http_requests_total"]
      [requests "/a, \x7bb\x7d"] := written_requests (by decide +kernel)
  have untorn : UntornValue "/a, \x7bb\x7d" := by decide +kernel
  have named : ∀ s ∈ [requests "/a, \x7bb\x7d"],
      recordedUnder ["http_requests_total"] s.name.toList =
        seriesOf ["http_requests_total"] s.name := by decide +kernel
  have plain : PlainValue "/a, \x7bb\x7d" := by decide +kernel
  exact (readsExactly_iff written (forall_requests untorn) named).mpr
    fun s there _ => forall_requests plain s there

/-- A path with a quote is not. -/
theorem not_readsExactly : ¬ ∀ (write : Int → String) (float : String → Option Int)
    (wanted : List String) (samples : List (Exposed Int)), Written write float wanted samples →
      ReadsExactly write float wanted samples := by
  intro always
  have written : Written toString three ["http_requests_total"] [requests "a\"b"] :=
    written_requests (by decide +kernel)
  have untorn : UntornValue "a\"b" := by decide +kernel
  have named : ∀ s ∈ [requests "a\"b"], recordedUnder ["http_requests_total"] s.name.toList =
      seriesOf ["http_requests_total"] s.name := by decide +kernel
  have plain := plain_of_readsExactly written (forall_requests untorn) named
    (always _ _ _ _ written) (List.mem_singleton_self _) (by decide) ("path", "a\"b")
      (List.mem_singleton_self _)
  exact absurd plain (by decide +kernel)

end SentinelOps.Rca
