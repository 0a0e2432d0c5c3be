import SentinelOps.Lib.RegexMatches
import SentinelOps.Remediation.Redaction

/-!
# Redaction leaves no secret, but for its cuts

`redactText`, `redactIdentity` and `redactMapping` replace every match of the sensitive pattern and
cut the result afterwards. The replacement alone leaves no match (`separated`); a cut makes one
exactly where it splits a word whose first part is a token (`redaction_leaves_no_secret_iff`).
-/

namespace SentinelOps.Remediation

/-- What `\w` says of the ASCII characters and of the ellipsis. -/
structure PlainTable (isWord : WordTable) : Prop where
  ascii : ∀ c : Char, c.toNat < 128 → isWord c = (c.isAlphanum || c == '_')
  ellipsis : isWord '…' = false

/-- What `redact_metadata` keeps of a value of any type, a value that is no scalar being `none`. -/
def redactAny (isWord : WordTable) (key : String) (raw : Option Scalar) : Option Scalar :=
  if Regex.search isWord sensitiveKey key then some (.str redacted)
  else raw.map (redactValue isWord key)

/-- The entries that `redact_metadata` looks at. -/
def boundedEntries {ν : Type} (data : Dict String ν) : List (String × ν) :=
  (data.entries.mergeSort fun a b => Py.strLe a.1 b.1).take 40

/-- `redact_metadata` on values of any type. -/
def redactMapping (isWord : WordTable) (data : Dict String (Option Scalar)) : Dict String Scalar :=
  .ofList ((boundedEntries data).filterMap fun e => (redactAny isWord e.1 e.2).map (e.1, ·))

/-- On scalar values it is `redactMetadata`. -/
lemma redactMapping_scalars {isWord} {data : Dict String Scalar} :
    redactMapping isWord (data.mapValues some) = redactMetadata isWord data := by
  have sorted : boundedEntries (data.mapValues some) =
      (boundedEntries data).map fun e => (e.1, some e.2) := by
    unfold boundedEntries
    rw [Dict.entries_mapValues, List.map_take]
    refine congrArg (List.take 40) (Eq.symm ?_)
    apply List.map_mergeSort
    intro _ _ _ _
    rfl
  unfold redactMapping redactMetadata
  rw [sorted, List.filterMap_map]
  congr 1
  rw [← List.filterMap_eq_map]
  apply List.filterMap_congr
  intro e _
  by_cases sensitive : Regex.search isWord sensitiveKey e.1 = true
  · simp [redactAny, redactValue, sensitive]
  · simp [redactAny, redactValue, sensitive]

/-- The pattern finds a secret in the text. -/
def Leaks (isWord : WordTable) (text : String) : Prop :=
  Regex.search isWord sensitiveValue text = true

/-- After the replacement of its secrets, the first `n` characters of a text end with a token, and a
word character follows them. -/
def SplitsToken (isWord : WordTable) (n : Nat) (text : String) : Prop :=
  Regex.Splits isWord sensitiveValue n (Regex.sub isWord sensitiveValue redacted text).toList

open Atom in
/-- The alternative for a PEM block. -/
def pemBlock : List Atom :=
  lit "-----BEGIN" ++ [one Py.isSpace, star fun c => isUpperOrDigit c || c == ' '] ++
    lit "PRIVATE" ++ [one Py.isSpace] ++ lit "KEY-----"

open Atom in
/-- The alternative for a `Bearer` header. -/
def bearerHeader : List Atom :=
  [boundary] ++ lit "Bearer" ++ [atLeast 1 Py.isSpace,
    atLeast 8 fun c => c.isAlphanum || oneOf "._~+/-" c, rep (· == '=') 0 (some 2)]

/-- The first characters of the tokens between boundaries. -/
def tokenStarts : List String := ["AKIA", "ASIA", "AROA", "AIDA", "gh", "xox", "eyJ", "AIza"]

/-- The other alternatives are tokens between boundaries. -/
lemma mem_sensitiveValue {as} (member : as ∈ sensitiveValue) :
    as = pemBlock ∨ as = bearerHeader ∨ ∃ text ∈ tokenStarts, ∃ as',
      as = .boundary :: (Atom.lit text ++ as' ++ [.boundary]) := by
  simp only [sensitiveValue, List.map_cons, List.map_nil, List.cons_append, List.nil_append,
    List.mem_cons, List.not_mem_nil, or_false] at member
  rcases member with h | h | h | h | h | h | h | h | h | h
  · exact .inl h
  · exact .inr (.inr ⟨"AKIA", by decide, [_], by simpa using h⟩)
  · exact .inr (.inr ⟨"ASIA", by decide, [_], by simpa using h⟩)
  · exact .inr (.inr ⟨"AROA", by decide, [_], by simpa using h⟩)
  · exact .inr (.inr ⟨"AIDA", by decide, [_], by simpa using h⟩)
  · exact .inr (.inr ⟨"gh", by decide, _ :: Atom.lit "_" ++ [_], by simpa using h⟩)
  · exact .inr (.inr ⟨"xox", by decide, _ :: Atom.lit "-" ++ [_], by simpa using h⟩)
  · exact .inr (.inr ⟨"eyJ", by decide, _ :: Atom.lit "." ++ _ :: Atom.lit "." ++ [_],
      by simpa using h⟩)
  · exact .inr (.inl h)
  · exact .inr (.inr ⟨"AIza", by decide, [_], by simpa using h⟩)

section

variable {isWord : WordTable} {as : List Atom} {prev next : Option Char} {token : List Char}

/-- The hyphen is no word character. -/
lemma hyphen (table : PlainTable isWord) : isWord '-' = false := by
  rw [table.ascii _ (by decide)]
  decide

/-- A literal begins with its first character. -/
lemma lit_head {text : String} {c cs} (e : text.toList = c :: cs) :
    Atom.lit text = .one (· == c) :: cs.map fun c => .one (· == c) := by
  unfold Atom.lit
  rw [e, List.map_cons]

/-- A match of a literal begins with its first character. -/
lemma matches_lit {text : String} {as'} {c}
    (h : Regex.Matches isWord (.boundary :: (Atom.lit text ++ as')) prev token next)
    (first : text.toList.head? = some c) : token.head? = some c := by
  obtain ⟨cs, e⟩ := List.head?_eq_some_iff.mp first
  rw [lit_head e, List.cons_append] at h
  cases h with
  | boundary _ h =>
    obtain ⟨b, head, own⟩ := h.head
    rw [head, beq_iff_eq.mp own]

/-- A match begins with a hyphen or with an ASCII letter or digit. -/
lemma token_head (member : as ∈ sensitiveValue) (h : Regex.Matches isWord as prev token next) :
    token.head? = some '-' ∨ ∃ c, token.head? = some c ∧ c.isAlphanum = true := by
  obtain rfl | rfl | ⟨text, known, as', rfl⟩ := mem_sensitiveValue member
  · obtain ⟨c, head, own⟩ := Regex.Matches.head (p := (· == '-')) h
    exact .inl (by rw [head, beq_iff_eq.mp own])
  · exact .inr ⟨'B', matches_lit h rfl, by decide⟩
  · have begins : text.toList.head?.any Char.isAlphanum = true := by
      have all : ∀ text ∈ tokenStarts, text.toList.head?.any Char.isAlphanum = true := by decide
      exact all text known
    obtain ⟨c, first, own⟩ := (Option.any_eq_true _ _).mp begins
    rw [List.append_assoc] at h
    exact .inr ⟨c, matches_lit h first, own⟩

/-- The replacement text keeps apart from the sensitive pattern. -/
lemma separated (table : PlainTable isWord) :
    Regex.Separated isWord sensitiveValue '[' "REDACTED".toList ']' where
  outer := ⟨by rw [table.ascii _ (by decide)]; decide, by rw [table.ascii _ (by decide)]; decide⟩
  bare as member prev token next h := by
    have rejected : ∀ as ∈ sensitiveValue, ∀ a ∈ as, a.rejects '[' ∧ a.rejects ']' := by decide
    exact ⟨h.not_mem fun a m => (rejected as member a m).1,
      h.not_mem fun a m => (rejected as member a m).2⟩
  outside as member prev token next h := by
    have lacks : ∀ as ∈ sensitiveValue, ∃ a ∈ as, a.lacks "REDACTED".toList := by decide
    obtain ⟨a, there, own⟩ := lacks as member
    exact h.exists_of_lacks there own
  opens as member prev token next h word := by
    obtain rfl | rfl | ⟨text, known, as', rfl⟩ := mem_sensitiveValue member
    · obtain ⟨c, head, own⟩ := Regex.Matches.head (p := (· == '-')) h
      rw [head, beq_iff_eq.mp own]
      exact hyphen table
    · exact h.starts word
    · exact h.starts word
  closes prev token rest found last after as member prev' token' next' h := by
    intro same
    obtain ⟨l, own, word⟩ := (Option.any_eq_true _ _).mp last
    -- A token or a PEM block ends at a boundary, a `Bearer` header takes all characters it can.
    obtain ⟨as', member', found⟩ := Regex.matchAt_sound found
    obtain rfl | rfl | ⟨text, known, as', rfl⟩ := mem_sensitiveValue member'
    · have shape : pemBlock = pemBlock.dropLast ++ [.one (· == '-')] := rfl
      rw [shape] at found
      obtain ⟨c, there, e⟩ := (Regex.matchSeq_length found).last
      rw [own] at there
      cases there
      rw [beq_iff_eq.mp e, hyphen table] at word
      cases word
    · have shape : bearerHeader = [.boundary] ++ Atom.lit "Bearer" ++ [.atLeast 1 Py.isSpace] ++
          [.rep (fun c => c.isAlphanum || oneOf "._~+/-" c) 8 none,
            .rep (· == '=') 0 (some 2)] := rfl
      rw [shape] at found
      obtain padding | full := Regex.matchSeq_greedy found
      · rw [own, Option.any_some, beq_iff_eq] at padding
        rw [padding, table.ascii _ (by decide)] at word
        revert word
        decide
      · obtain head | ⟨c, head, alphanumeric⟩ := token_head member h
        · rw [← same, head, Option.any_some, hyphen table] at after
          cases after
        · rw [← same, head, Option.any_some, alphanumeric] at full
          cases full
    · rw [← List.cons_append] at found
      have ends := (Regex.matchSeq_length found).ends
      rw [own, Option.some_or] at ends
      simp [Regex.atBoundary, word, after] at ends

/-- No secret is left by the replacement. -/
lemma not_contains_sub (table : PlainTable isWord) (text : String) :
    ¬ Regex.Contains isWord sensitiveValue none
      (Regex.sub isWord sensitiveValue redacted text).toList := by
  unfold Regex.sub
  rw [String.toList_ofList]
  exact (separated table).not_contains text.toList

/-- A text without secrets is left as it is. -/
lemma sub_of_not_leaks {text : String} (h : ¬ Leaks isWord text) :
    Regex.sub isWord sensitiveValue redacted text = text := by
  unfold Leaks at h
  rw [Regex.search_iff] at h
  unfold Regex.sub
  rw [Regex.subFrom_of_not_contains h, String.ofList_toList]

/-- A cut leaks exactly where it splits a token. -/
lemma leaks_cut_iff (table : PlainTable isWord) {text cut : String} {n tail}
    (e : cut.toList = (Regex.sub isWord sensitiveValue redacted text).toList.take n ++ tail)
    (plain : tail = [] ∨ tail = ['…']) : Leaks isWord cut ↔ SplitsToken isWord n text := by
  unfold Leaks SplitsToken
  rw [Regex.search_iff, e]
  apply Regex.contains_cut_iff (not_contains_sub table text)
  · rcases plain with rfl | rfl
    · rfl
    · exact table.ellipsis
  · intro as member prev token next h
    refine ⟨(separated table).ne_nil member h, ?_⟩
    have rejected : ∀ as ∈ sensitiveValue, ∀ a ∈ as, a.rejects '…' := by decide
    rcases plain with rfl | rfl
    · exact fun _ none => absurd none List.not_mem_nil
    · intro c there
      rw [List.mem_singleton.mp there]
      exact h.not_mem (rejected as member)

/-- The placeholder is no secret. -/
lemma not_leaks_redacted (table : PlainTable isWord) : ¬ Leaks isWord redacted := by
  unfold Leaks
  rw [Regex.search_iff]
  have none : ¬ Regex.Contains isWord sensitiveValue (some ']') [] := by
    rintro ⟨before, after, split, as, member, token, rest, split', h⟩
    obtain ⟨rfl, rfl⟩ := List.append_eq_nil_iff.mp split.symm
    obtain ⟨rfl, rfl⟩ := List.append_eq_nil_iff.mp split'.symm
    exact (separated table).ne_nil member h rfl
  exact (separated table).replacement none

/-- Redacted text leaks exactly where its cut splits a token. -/
lemma leaks_redactText_iff (table : PlainTable isWord) {value : String} :
    Leaks isWord (redactText isWord value) ↔
      1000 < (Regex.sub isWord sensitiveValue redacted value).length ∧
        SplitsToken isWord 999 value := by
  unfold redactText
  dsimp only
  split
  · rename_i long
    have cut : Leaks isWord
        (Py.takeFirst 999 (Regex.sub isWord sensitiveValue redacted value) ++ "…") ↔
          SplitsToken isWord 999 value :=
      leaks_cut_iff table (by simp [Py.takeFirst, String.toList_append]) (.inr rfl)
    rw [cut, and_iff_right long]
  · rename_i short
    simp only [short, false_and, iff_false]
    unfold Leaks
    rw [Regex.search_iff]
    exact not_contains_sub table value

/-- Redacted text is stable where it does not leak. -/
lemma redactText_redactText {value : String} (h : ¬ Leaks isWord (redactText isWord value)) :
    redactText isWord (redactText isWord value) = redactText isWord value := by
  generalize e : redactText isWord value = text at h ⊢
  have short : ¬ 1000 < text.length := Nat.not_lt.mpr (e ▸ length_redactText_le)
  unfold redactText
  rw [sub_of_not_leaks h]
  exact if_neg short

/-- A redacted identity leaks exactly where its cut splits a token. -/
lemma leaks_redactIdentity_iff (table : PlainTable isWord) {value : String} :
    Leaks isWord (redactIdentity isWord value) ↔ SplitsToken isWord 128 value := by
  have kept : (Py.takeFirst 128 (redactText isWord value)).toList =
      (Regex.sub isWord sensitiveValue redacted value).toList.take 128 := by
    unfold redactText
    dsimp only
    split
    · rename_i long
      have enough :
          128 ≤ ((Regex.sub isWord sensitiveValue redacted value).toList.take 999).length := by
        rw [List.length_take, String.length_toList]
        omega
      simp only [Py.takeFirst, String.toList_ofList, String.toList_append]
      rw [List.take_append_of_le_length enough, List.take_take]
      rfl
    · simp [Py.takeFirst]
  unfold redactIdentity Py.orElse
  split
  · rename_i empty
    constructor
    · intro h
      exact absurd h (not_leaks_redacted table)
    · rintro ⟨_, _, _, after, _⟩
      rw [empty] at kept
      have none := (List.take_eq_nil_iff.mp kept.symm).resolve_left (by decide)
      rw [none] at after
      cases after
  · exact leaks_cut_iff table (by rw [kept, List.append_nil]) (.inl rfl)

/-- The values of redacted metadata. -/
lemma get?_redactMapping {data : Dict String (Option Scalar)} {key value} :
    (redactMapping isWord data).get? key = some value ↔
      ∃ raw, (key, raw) ∈ boundedEntries data ∧ redactAny isWord key raw = some value := by
  have keys : ((boundedEntries data).map Prod.fst).Nodup := by
    unfold boundedEntries
    refine List.Nodup.sublist ((List.take_sublist 40 _).map _) ?_
    exact ((List.mergeSort_perm _ _).map _).nodup_iff.mpr data.nodup
  unfold redactMapping
  rw [Dict.get?_ofList, List.mem_filterMap]
  · constructor
    · rintro ⟨⟨k, raw⟩, member, e⟩
      obtain ⟨v, kept, e⟩ := Option.map_eq_some_iff.mp e
      obtain ⟨rfl, rfl⟩ := Prod.mk.inj e
      exact ⟨raw, member, kept⟩
    · rintro ⟨raw, member, kept⟩
      exact ⟨(key, raw), member, by rw [kept, Option.map_some]⟩
  · exact List.Nodup.sublist Dict.keys_filterMap_sublist keys

/-- Redacted metadata leaks exactly where a cut splits a token. -/
lemma leaks_redactMapping_iff (table : PlainTable isWord) {data : Dict String (Option Scalar)} :
    (∃ key s, (redactMapping isWord data).get? key = some (.str s) ∧ Leaks isWord s) ↔
      ∃ key s, (key, some (.str s)) ∈ boundedEntries data ∧
        Regex.search isWord sensitiveKey key = false ∧ SplitsToken isWord 500 s := by
  have cut {s : String} :
      Leaks isWord (Py.takeFirst 500 (Regex.sub isWord sensitiveValue redacted s)) ↔
        SplitsToken isWord 500 s :=
    leaks_cut_iff table (by simp [Py.takeFirst]) (.inl rfl)
  constructor
  · rintro ⟨key, s, found, leaks⟩
    obtain ⟨raw, member, kept⟩ := get?_redactMapping.mp found
    by_cases sensitive : Regex.search isWord sensitiveKey key = true
    · simp only [redactAny, sensitive, if_true, Option.some.injEq, Scalar.str.injEq] at kept
      exact absurd (kept ▸ leaks) (not_leaks_redacted table)
    · rw [Bool.not_eq_true] at sensitive
      obtain ⟨value, rfl, own⟩ : ∃ value, raw = some value ∧
          redactValue isWord key value = .str s := by
        simpa [redactAny, sensitive] using kept
      cases value with
      | int _ => simp [redactValue, sensitive] at own
      | bool _ => simp [redactValue, sensitive] at own
      | str text =>
        simp only [redactValue, sensitive, Bool.false_eq_true, if_false, Scalar.str.injEq] at own
        exact ⟨key, text, member, sensitive, cut.mp (own ▸ leaks)⟩
  · rintro ⟨key, s, member, sensitive, splits⟩
    refine ⟨key, _, get?_redactMapping.mpr ⟨_, member, ?_⟩, cut.mpr splits⟩
    simp [redactAny, redactValue, sensitive]

/-- Redacted text is within its limit; it is stable and free of secrets, and so are identities and
metadata free of them, exactly where no cut splits a token. -/
theorem redaction_leaves_no_secret_iff (table : PlainTable isWord) :
    (∀ value : String,
      (redactText isWord value).length ≤ 1000 ∧
        (redactText isWord (redactText isWord value) = redactText isWord value ∧
          ¬ Leaks isWord (redactText isWord value) ↔
        ¬ (1000 < (Regex.sub isWord sensitiveValue redacted value).length ∧
          SplitsToken isWord 999 value))) ∧
      (∀ value : String,
        ¬ Leaks isWord (redactIdentity isWord value) ↔ ¬ SplitsToken isWord 128 value) ∧
      ∀ data : Dict String (Option Scalar),
        (∀ key s, (redactMapping isWord data).get? key = some (.str s) → ¬ Leaks isWord s) ↔
          ∀ key s, (key, some (.str s)) ∈ boundedEntries data →
            Regex.search isWord sensitiveKey key = false → ¬ SplitsToken isWord 500 s := by
  refine ⟨fun value => ⟨length_redactText_le, ?_⟩, fun value => ?_, fun data => ?_⟩
  · rw [← leaks_redactText_iff table]
    exact ⟨fun stable => stable.2, fun clean => ⟨redactText_redactText clean, clean⟩⟩
  · rw [leaks_redactIdentity_iff table]
  · have := not_congr (@leaks_redactMapping_iff isWord table data)
    simpa only [not_exists, not_and] using this

end

/-- The word characters among the ASCII characters. -/
def asciiWords : WordTable := fun c => c.isAlphanum || c == '_'

lemma asciiWords_plain : PlainTable asciiWords := ⟨fun _ _ => rfl, by decide⟩

/-- A header is replaced, and nothing is left of it. -/
theorem redaction_leaves_no_secret_header :
    redactText asciiWords "Authorization: Bearer abcdefgh12345678" =
        "Authorization: [REDACTED]" ∧
      ¬ Leaks asciiWords (redactText asciiWords "Authorization: Bearer abcdefgh12345678") := by
  have cleaned : Regex.sub asciiWords sensitiveValue redacted
      "Authorization: Bearer abcdefgh12345678" = "Authorization: [REDACTED]" := by decide +kernel
  have short : ¬ 1000 < "Authorization: [REDACTED]".length := by decide
  have clean := (((redaction_leaves_no_secret_iff asciiWords_plain).1
    "Authorization: Bearer abcdefgh12345678").2).mpr fun cut => short (cleaned ▸ cut.1)
  refine ⟨?_, clean.2⟩
  unfold redactText
  rw [cleaned]
  exact if_neg short

/-- No match begins with a space. -/
lemma matchAt_space {isWord prev cs} :
    Regex.matchAt isWord sensitiveValue prev (' ' :: cs) = none := by
  rw [← Option.not_isSome_iff_eq_none, Regex.matchAt_isSome]
  rintro ⟨as, member, token, rest, split, h⟩
  cases token with
  | nil =>
    obtain head | ⟨c, head, _⟩ := token_head member h <;> cases head
  | cons b token =>
    obtain ⟨rfl, _⟩ := List.cons.inj split
    obtain head | ⟨c, head, alphanumeric⟩ := token_head member h
    · cases head
    · cases head
      revert alphanumeric
      decide

/-- Spaces are kept. -/
lemma subFrom_spaces {isWord repl} {cs : List Char} {n prev} :
    Regex.subFrom isWord sensitiveValue repl 0 prev (List.replicate (n + 1) ' ' ++ cs) =
      List.replicate (n + 1) ' ' ++ Regex.subFrom isWord sensitiveValue repl 0 (some ' ') cs := by
  have step {prev cs} : Regex.subFrom isWord sensitiveValue repl 0 prev (' ' :: cs) =
      ' ' :: Regex.subFrom isWord sensitiveValue repl 0 (some ' ') cs := by
    conv_lhs => unfold Regex.subFrom
    rw [matchAt_space]
  induction n generalizing prev with
  | zero => exact step
  | succ n ih =>
    rw [List.replicate_succ, List.cons_append, step, ih]
    rfl

/-- `redact_text` after 975 spaces. -/
lemma redactText_spaces {isWord text cs} {n : Nat}
    (e : Regex.subFrom isWord sensitiveValue redacted.toList 0 (some ' ') text = cs) :
    redactText isWord (String.ofList (List.replicate (n + 1) ' ' ++ text)) =
      if 1000 < n + 1 + cs.length then
        String.ofList ((List.replicate (n + 1) ' ' ++ cs).take 999 ++ ['…'])
      else String.ofList (List.replicate (n + 1) ' ' ++ cs) := by
  have cleaned : Regex.sub isWord sensitiveValue redacted
      (String.ofList (List.replicate (n + 1) ' ' ++ text)) =
      String.ofList (List.replicate (n + 1) ' ' ++ cs) := by
    unfold Regex.sub
    rw [String.toList_ofList, subFrom_spaces, e]
  unfold redactText
  rw [cleaned]
  dsimp only
  rw [String.length_ofList, List.length_append, List.length_replicate]
  apply if_congr Iff.rfl ?_ rfl
  rw [Py.takeFirst, String.toList_ofList, String.ofList_append]

/-- A text whose cut by `redact_text` falls within a word that begins with a token. -/
def splitToken : String :=
  String.ofList (List.replicate 975 ' ' ++ "ghp_abcdefghij0123456789__".toList)

/-- Its redaction ends with the token, and a second redaction replaces it. -/
theorem redaction_leaves_secret :
    Leaks asciiWords (redactText asciiWords splitToken) ∧
      redactText asciiWords (redactText asciiWords splitToken) ≠
        redactText asciiWords splitToken := by
  have once : redactText asciiWords splitToken =
      String.ofList (List.replicate 975 ' ' ++ "ghp_abcdefghij0123456789…".toList) := by
    have kept : Regex.subFrom asciiWords sensitiveValue redacted.toList 0 (some ' ')
        "ghp_abcdefghij0123456789__".toList = "ghp_abcdefghij0123456789__".toList := by
      decide +kernel
    unfold splitToken
    rw [redactText_spaces (n := 974) kept, if_pos (by decide), List.take_append,
      List.take_of_length_le (by rw [List.length_replicate]; decide), List.length_replicate,
      List.append_assoc]
    rfl
  have twice : redactText asciiWords (redactText asciiWords splitToken) =
      String.ofList (List.replicate 975 ' ' ++ "[REDACTED]…".toList) := by
    have replaced : Regex.subFrom asciiWords sensitiveValue redacted.toList 0 (some ' ')
        "ghp_abcdefghij0123456789…".toList = "[REDACTED]…".toList := by
      decide +kernel
    rw [once, redactText_spaces (n := 974) replaced, if_neg (by decide)]
  have unstable : redactText asciiWords (redactText asciiWords splitToken) ≠
      redactText asciiWords splitToken := by
    rw [twice, once]
    intro same
    have := List.append_cancel_left (String.ofList_injective same)
    revert this
    decide
  exact ⟨by_contra fun clean => unstable (redactText_redactText clean), unstable⟩

end SentinelOps.Remediation
