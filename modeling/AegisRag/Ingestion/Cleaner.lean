import AegisRag.Common.Redaction

/-!
# Canonical content

`canonicalize_content` of `packages/ingestion/cleaner.py`, whose result is hashed for the
checksum of a chunk. Compatibility normalisation comes first and invisible characters are
deleted after it, so that a letter and an accent may meet that were apart before. Nothing else
that is done to a text changes its words.
-/

namespace AegisRag.Ingestion

open Semantics Common

/-- `_ZERO_WIDTH`. -/
def zeroWidth : List Nat := [0x200B, 0x200C, 0x200D, 0xFEFF]

/-- A line feed for a carriage return and line feed. -/
def replaceCrLf : List Char → List Char
  | '\r' :: '\n' :: rest => '\n' :: replaceCrLf rest
  | char :: rest => char :: replaceCrLf rest
  | [] => []

/-- `rstrip` of every line: space goes if nothing but the end of its line is left behind it. -/
def rstripLines : List Char → List Char
  | [] => []
  | char :: rest =>
    if isSpace char ∧ char ≠ '\n' ∧ (rstripLines rest).head?.all (· = '\n') then rstripLines rest
    else char :: rstripLines rest

/-- Two line feeds for every run of three or more: one goes if two are left behind it. -/
def collapse : List Char → List Char
  | [] => []
  | char :: rest =>
    if char = '\n' ∧ (collapse rest).take 2 = ['\n', '\n'] then collapse rest
    else char :: collapse rest

/-- `translate(_ZERO_WIDTH)`. -/
def visible (text : List Char) : List Char := text.filter fun char => char.toNat ∉ zeroWidth

/-- What happens to a text after its normalisation. -/
def tidied (text : List Char) : List Char :=
  let shown := visible (replaceChar '\r' '\n' (replaceCrLf text))
  collapse (((rstripLines shown).dropWhile isSpace).rdropWhile isSpace)

/-- `canonicalize_content`, for a normalisation `nfkc`. -/
def canonicalizeContent (nfkc : List Char → List Char) (content : List Char) : List Char :=
  tidied (nfkc content)

/-- What is used of NFKC: it is idempotent, a line feed and every character of a normalised text
are normalised by themselves, space that is so keeps apart what is before and behind it, and from
characters that are so no space or zero width character arises. -/
structure IsNfkc (nfkc : List Char → List Char) : Prop where
  idempotent : ∀ text, nfkc (nfkc text) = nfkc text
  lineFeed : nfkc ['\n'] = ['\n']
  alone : ∀ text, ∀ char ∈ nfkc text, nfkc [char] = [char]
  divides : ∀ before char after, isSpace char = true → nfkc [char] = [char] →
    nfkc (before ++ char :: after) = nfkc before ++ char :: nfkc after
  arises : ∀ text, (∀ char ∈ text, nfkc [char] = [char]) → ∀ char ∈ nfkc text,
    isSpace char = true ∨ char.toNat ∈ zeroWidth → char ∈ text

variable {text : List Char}

/-! ## Words -/

/-- The word that a text begins with, and the later ones. -/
def scan : List Char → List Char × List (List Char)
  | [] => ([], [])
  | char :: rest =>
    let (word, later) := scan rest
    if isSpace char then ([], if word = [] then later else word :: later)
    else (char :: word, later)

def words (text : List Char) : List (List Char) :=
  if (scan text).1 = [] then (scan text).2 else (scan text).1 :: (scan text).2

theorem scan_space (isBlank : isSpace char = true) (rest : List Char) :
    scan (char :: rest) = ([], words rest) := if_pos isBlank

theorem words_space (isBlank : isSpace char = true) (rest : List Char) :
    words (char :: rest) = words rest := by
  rw [words, scan_space isBlank, if_pos rfl]

theorem scan_cons_congr (same : scan left = scan right) :
    scan (char :: left) = scan (char :: right) := by
  rw [scan, scan, same]

/-- Space before space or the end divides nothing. -/
theorem scan_space_space (isBlank : isSpace char = true) (ends : rest.head?.all isSpace = true) :
    scan (char :: rest) = scan rest := by
  cases rest with
  | nil => exact scan_space isBlank []
  | cons next others =>
    have isNext : isSpace next = true := ends
    rw [scan_space isBlank, words_space isNext, scan_space isNext]

theorem scan_rstripLines (text : List Char) : scan (rstripLines text) = scan text := by
  induction text with
  | nil => rfl
  | cons char rest ih =>
    rw [rstripLines]
    split
    · rename_i goes
      obtain ⟨isBlank, -, ends⟩ := goes
      rw [← scan_cons_congr ih, scan_space_space isBlank]
      cases left : (rstripLines rest).head? with
      | none => rfl
      | some next =>
        simp_all
        decide
    · exact scan_cons_congr ih

theorem scan_collapse (text : List Char) : scan (collapse text) = scan text := by
  induction text with
  | nil => rfl
  | cons char rest ih =>
    rw [collapse]
    split
    · rename_i run
      obtain ⟨rfl, run⟩ := run
      rw [← scan_cons_congr ih, scan_space_space (by decide)]
      cases kept : collapse rest with
      | nil => simp [kept] at run
      | cons next others => simp_all; decide
    · exact scan_cons_congr ih

theorem scan_rdropWhile (text : List Char) : scan (text.rdropWhile isSpace) = scan text := by
  induction text using List.reverseRecOn with
  | nil => rfl
  | append_singleton front last ih =>
    by_cases isBlank : isSpace last = true
    · rw [List.rdropWhile_concat_pos _ _ _ isBlank, ih]
      clear ih
      induction front with
      | nil => exact (scan_space isBlank []).symm
      | cons char rest ih => exact scan_cons_congr ih
    · rw [List.rdropWhile_concat_neg _ _ _ isBlank]

theorem words_dropWhile (text : List Char) : words (text.dropWhile isSpace) = words text := by
  induction text with
  | nil => rfl
  | cons char rest ih =>
    by_cases isBlank : isSpace char = true
    · rw [List.dropWhile_cons_of_pos isBlank, ih, words_space isBlank]
    · rw [List.dropWhile_cons_of_neg isBlank]

theorem scan_visible_congr (same : scan (visible left) = scan (visible right)) :
    scan (visible (char :: left)) = scan (visible (char :: right)) := by
  rw [visible, visible, List.filter_cons, List.filter_cons]
  split
  · exact scan_cons_congr same
  · exact same

theorem scan_visible_replaceCrLf (text : List Char) :
    scan (visible (replaceCrLf text)) = scan (visible text) := by
  induction text using replaceCrLf.induct with
  | case1 rest ih =>
    rw [replaceCrLf]
    have isReturn : isSpace '\r' = true := by decide
    have kept : visible ('\n' :: rest) = '\n' :: visible rest :=
      List.filter_cons_of_pos (by decide)
    refine (scan_visible_congr ih).trans (scan_space_space isReturn ?_).symm
    rw [kept]
    rfl
  | case2 char rest other ih =>
    rw [replaceCrLf]
    · exact scan_visible_congr ih
    · exact other
  | case3 => rfl

theorem scan_visible_replaceChar (text : List Char) :
    scan (visible (replaceChar '\r' '\n' text)) = scan (visible text) := by
  induction text with
  | nil => rfl
  | cons char rest ih =>
    refine (scan_visible_congr ih).trans ?_
    by_cases isReturn : char = '\r'
    · subst isReturn
      exact (scan_space (by decide) _).trans (scan_space (by decide) _).symm
    · simp only [if_neg isReturn]

/-- What happens to a text after its normalisation changes no word, apart from zero width
characters. -/
theorem words_tidied (text : List Char) : words (tidied text) = words (visible text) := by
  have same : scan (visible (replaceChar '\r' '\n' (replaceCrLf text))) = scan (visible text) :=
    (scan_visible_replaceChar _).trans (scan_visible_replaceCrLf text)
  rw [tidied, words, scan_collapse, scan_rdropWhile, ← words, words_dropWhile, words,
    scan_rstripLines, same, ← words]

theorem scan_append (isWord : ∀ char ∈ word, isSpace char = false) (text : List Char) :
    scan (word ++ text) = (word ++ (scan text).1, (scan text).2) := by
  induction word with
  | nil => rfl
  | cons char rest ih =>
    rw [List.forall_mem_cons] at isWord
    simp [scan, ih isWord.2, isWord.1]

theorem IsNfkc.nil (isNfkc : IsNfkc nfkc) : nfkc [] = [] := by
  have split := isNfkc.divides [] '\n' [] (by decide) isNfkc.lineFeed
  rw [List.nil_append, isNfkc.lineFeed] at split
  have lengths := congrArg List.length split
  rw [List.length_append, List.length_cons, List.length_cons,
    List.length_nil] at lengths
  exact List.length_eq_zero_iff.mp (by omega)

/-- A text of characters that are normalised by themselves is normalised if and only if its words
are. -/
theorem IsNfkc.normal_iff (isNfkc : IsNfkc nfkc) (alone : ∀ char ∈ text, nfkc [char] = [char]) :
    nfkc text = text ↔ ∀ word ∈ words text, nfkc word = word := by
  -- The induction moves characters from the text to the word before it.
  suffices general : ∀ word, (∀ char ∈ word, nfkc [char] = [char] ∧ isSpace char = false) →
      (nfkc (word ++ text) = word ++ text ↔ ∀ part ∈ words (word ++ text), nfkc part = part) from
    general [] (by simp)
  induction text with
  | nil =>
    intro word isWord
    rw [words, scan_append fun char isIn => (isWord char isIn).2]
    by_cases isEmpty : word = []
    · simp [isEmpty, scan, isNfkc.nil]
    · simp [isEmpty, scan]
  | cons char rest ih =>
    intro word isWord
    rw [List.forall_mem_cons] at alone
    by_cases isBlank : isSpace char = true
    · have inWord : char ∉ word := fun isIn => by simp [(isWord char isIn).2] at isBlank
      have inNormal : char ∉ nfkc word := fun isIn =>
        inWord (isNfkc.arises word (fun other isIn => (isWord other isIn).1) char isIn
          (.inl isBlank))
      have later := ih alone.2 [] (by simp)
      rw [isNfkc.divides word char rest isBlank alone.1]
      have parts : words (word ++ char :: rest) =
          if word = [] then words rest else word :: words rest := by
        rw [words, scan_append fun char isIn => (isWord char isIn).2, scan_space isBlank,
          List.append_nil]
      have divided : nfkc word ++ char :: nfkc rest = word ++ char :: rest ↔
          nfkc word = word ∧ nfkc rest = rest := by
        refine ⟨fun same => ?_, fun ⟨first, second⟩ => by rw [first, second]⟩
        have sameWord := congrArg (List.takeWhile (· ≠ char)) same
        rw [List.takeWhile_append_of_pos (by grind), List.takeWhile_append_of_pos (by grind),
          List.takeWhile_cons_of_neg (by simp), List.takeWhile_cons_of_neg (by simp),
          List.append_nil, List.append_nil] at sameWord
        rw [sameWord, List.append_cancel_left_eq, List.cons.injEq] at same
        exact ⟨sameWord, same.2⟩
      rw [divided, parts]
      by_cases isEmpty : word = []
      · simpa [isEmpty, isNfkc.nil] using later
      · rw [if_neg isEmpty, List.forall_mem_cons]
        exact and_congr_right fun _ => later
    · have longer := ih alone.2 (word ++ [char]) (by
        intro other isIn
        rcases List.mem_append.mp isIn with isIn | isIn
        · exact isWord other isIn
        · rw [List.mem_singleton.mp isIn]
          exact ⟨alone.1, by simpa using isBlank⟩)
      simpa using longer

/-- A line feed follows no other space. -/
abbrev Tight (text : List Char) : Prop :=
  text.IsChain fun char next => next = '\n' → isSpace char = true → char = '\n'

theorem dropWhile_eq_self_iff_head? :
    text.dropWhile isSpace = text ↔ ∀ char ∈ text.head?, isSpace char = false := by
  cases text <;> simp [List.dropWhile_eq_self_iff]

theorem rdropWhile_eq_self_iff_getLast? :
    text.rdropWhile isSpace = text ↔ ∀ char ∈ text.getLast?, isSpace char = false := by
  rw [List.rdropWhile_eq_self_iff]
  cases text <;> simp [List.getLast?_cons, List.getLast_eq_getLastD]

theorem rstripLines_sublist (text : List Char) : (rstripLines text).Sublist text := by
  induction text with
  | nil => exact .slnil
  | cons char rest ih =>
    rw [rstripLines]
    split
    · exact ih.cons char
    · exact ih.cons_cons char

theorem rstripLines_tight (text : List Char) : Tight (rstripLines text) := by
  induction text with
  | nil => exact .nil
  | cons char rest ih =>
    rw [rstripLines]
    split
    · exact ih
    · rename_i kept
      refine List.isChain_cons.mpr ⟨?_, ih⟩
      rintro next isNext rfl isBlank
      by_contra other
      exact kept ⟨isBlank, other, by simp [Option.mem_def.mp isNext]⟩

theorem rstripLines_eq (tight : Tight text) (ended : ∀ char ∈ text.getLast?, isSpace char = false) :
    rstripLines text = text := by
  induction text with
  | nil => rfl
  | cons char rest ih =>
    have same : rstripLines rest = rest := by
      apply ih tight.tail
      intro last isLast
      apply ended
      rw [List.getLast?_cons, Option.mem_def.mp isLast]
      rfl
    rw [rstripLines, same, if_neg]
    rintro ⟨isBlank, other, ends⟩
    cases rest with
    | nil => simp [ended char rfl] at isBlank
    | cons next rest =>
      exact other (tight.rel (by simpa using ends) isBlank)

theorem collapse_ends (text : List Char) :
    (collapse text).Sublist text ∧ (collapse text).head? = text.head? ∧
      (collapse text).getLast? = text.getLast? := by
  induction text with
  | nil => exact ⟨.slnil, rfl, rfl⟩
  | cons char rest ih =>
    obtain ⟨isSublist, sameHead, sameLast⟩ := ih
    rw [collapse]
    split
    · rename_i run
      obtain ⟨rfl, run⟩ := run
      cases kept : collapse rest with
      | nil => simp [kept] at run
      | cons first others =>
        rw [kept] at run isSublist sameLast
        refine ⟨isSublist.cons _, by simp_all, ?_⟩
        rw [sameLast, List.getLast?_cons, ← sameLast, List.getLast?_cons]
        rfl
    · refine ⟨isSublist.cons_cons char, rfl, ?_⟩
      rw [List.getLast?_cons, List.getLast?_cons, sameLast]

theorem collapse_tight (tight : Tight text) : Tight (collapse text) := by
  induction text with
  | nil => exact .nil
  | cons char rest ih =>
    obtain ⟨first, others⟩ := List.isChain_cons.mp tight
    rw [collapse]
    split
    · exact ih others
    · refine List.isChain_cons.mpr ⟨?_, ih others⟩
      rw [(collapse_ends rest).2.1]
      exact first

theorem collapse_collapse (text : List Char) : collapse (collapse text) = collapse text := by
  induction text with
  | nil => rfl
  | cons char rest ih =>
    rw [collapse]
    split
    · exact ih
    · rename_i kept
      rw [collapse, ih, if_neg kept]

/-- A text without carriage returns has no line ends to replace. -/
theorem replaceCrLf_eq (clean : '\r' ∉ text) : replaceCrLf text = text := by
  induction text with
  | nil => rfl
  | cons char rest ih =>
    rw [List.mem_cons, not_or] at clean
    rw [replaceCrLf, ih clean.2]
    rintro rest rfl
    exact absurd rfl clean.1

theorem replaceCrLf_sublist (text : List Char) : (replaceCrLf text).Sublist text := by
  induction text using replaceCrLf.induct with
  | case1 rest ih =>
    rw [replaceCrLf]
    exact (ih.cons_cons _).cons _
  | case2 char rest other ih =>
    rw [replaceCrLf]
    · exact ih.cons_cons char
    · exact other
  | case3 => exact .slnil

/-- A tidied text holds characters of the text, and line feeds. -/
theorem mem_tidied (isIn : char ∈ tidied text) :
    (char ≠ '\r' ∧ char.toNat ∉ zeroWidth) ∧ (char ∈ text ∨ char = '\n') := by
  have isShown := (rstripLines_sublist _).subset ((List.dropWhile_suffix _).subset
    ((List.rdropWhile_prefix _ _).subset ((collapse_ends _).1.subset isIn)))
  obtain ⟨isUnified, isWide⟩ := List.mem_filter.mp isShown
  obtain ⟨before, isBefore, rfl⟩ := List.mem_map.mp isUnified
  refine ⟨⟨?_, by simpa using isWide⟩, ?_⟩
  · split
    · decide
    · assumption
  · split
    · exact .inr rfl
    · exact .inl ((replaceCrLf_sublist text).subset isBefore)

/-- What happens to a text after its normalisation has nothing to do a second time. -/
theorem tidied_tidied (content : List Char) : tidied (tidied content) = tidied content := by
  generalize isText : tidied content = text
  rw [tidied] at isText
  set shown := visible (replaceChar '\r' '\n' (replaceCrLf content))
  obtain ⟨isSublist, sameHead, sameLast⟩ :=
    collapse_ends (((rstripLines shown).dropWhile isSpace).rdropWhile isSpace)
  rw [isText] at isSublist sameHead sameLast
  have front : text.dropWhile isSpace = text := by
    rw [dropWhile_eq_self_iff_head?, sameHead, ← dropWhile_eq_self_iff_head?]
    exact dropWhile_rdropWhile_dropWhile _
  have back : text.rdropWhile isSpace = text := by
    rw [rdropWhile_eq_self_iff_getLast?, sameLast, ← rdropWhile_eq_self_iff_getLast?]
    exact List.rdropWhile_idempotent _ _
  have tight : Tight text := by
    rw [← isText]
    apply collapse_tight
    apply List.IsChain.prefix _ (List.rdropWhile_prefix _ _)
    exact (rstripLines_tight shown).suffix (List.dropWhile_suffix _)
  have clean : ∀ char ∈ text, char ≠ '\r' ∧ char.toNat ∉ zeroWidth := by
    rw [← isText]
    exact fun char isIn => (mem_tidied isIn).1
  have unified : replaceChar '\r' '\n' text = text :=
    (List.map_congr_left fun char isIn => if_neg (clean char isIn).1).trans (List.map_id' text)
  have filtered : visible text = text :=
    List.filter_eq_self.mpr fun char isIn => by simpa using (clean char isIn).2
  rw [tidied, replaceCrLf_eq fun isIn => (clean _ isIn).1 rfl]
  simp only [unified, filtered]
  rw [rstripLines_eq tight (rdropWhile_eq_self_iff_getLast?.mp back), front, back, ← isText,
    collapse_collapse]

/-- Canonical content is canonicalised to itself, so that its checksum is that of the content it
came from, if and only if the normalised content is normalised without its zero width characters
too. -/
theorem canonicalizeContent_idempotent (isNfkc : IsNfkc nfkc) (content : List Char) :
    canonicalizeContent nfkc (canonicalizeContent nfkc content) =
        canonicalizeContent nfkc content ↔
      nfkc (visible (nfkc content)) = visible (nfkc content) := by
  have aloneShown : ∀ char ∈ visible (nfkc content), nfkc [char] = [char] := fun char isIn =>
    isNfkc.alone content char (List.mem_of_mem_filter isIn)
  have alone : ∀ char ∈ tidied (nfkc content), nfkc [char] = [char] := by
    intro char isIn
    rcases (mem_tidied isIn).2 with isIn | rfl
    · exact isNfkc.alone content char isIn
    · exact isNfkc.lineFeed
  rw [isNfkc.normal_iff aloneShown, ← words_tidied, ← isNfkc.normal_iff alone]
  simp only [canonicalizeContent]
  constructor
  · intro same
    -- The words of the second pass are normalised, and they are those of the first.
    have shown : visible (nfkc (tidied (nfkc content))) = nfkc (tidied (nfkc content)) := by
      refine List.filter_eq_self.mpr fun char isIn => decide_eq_true fun isZero => ?_
      exact (mem_tidied (isNfkc.arises _ alone char isIn (.inr isZero))).1.2 isZero
    rw [isNfkc.normal_iff alone]
    nth_rewrite 1 [← same]
    rw [words_tidied, shown, ← isNfkc.normal_iff (isNfkc.alone _)]
    exact isNfkc.idempotent _
  · intro normal
    rw [normal, tidied_tidied]

/-- The letter e, if an acute accent follows it, becomes the letter with the accent. -/
def addAcute (char : Char) : List Char → List Char
  | [] => [char]
  | accent :: rest =>
    if char = 'e' ∧ accent.toNat = 0x301 then Char.ofNat 0xE9 :: rest else char :: accent :: rest

/-- The normalisation of the letter e and its acute accent, which is a part of NFKC. -/
def composeAcute (text : List Char) : List Char := text.foldr addAcute []

theorem composeAcute_cons (char : Char) (rest : List Char) :
    composeAcute (char :: rest) = addAcute char (composeAcute rest) := rfl

theorem addAcute_of_ne (other : char ≠ 'e') (rest : List Char) :
    addAcute char rest = char :: rest := by
  cases rest <;> simp [addAcute, other]

theorem composeAcute_idempotent (text : List Char) :
    composeAcute (composeAcute text) = composeAcute text := by
  induction text with
  | nil => rfl
  | cons char rest ih =>
    rw [composeAcute_cons]
    generalize composeAcute rest = normal at ih
    cases normal with
    | nil => rfl
    | cons accent others =>
      rw [addAcute]
      split
      · rename_i composes
        -- Behind the accent the text was normalised before.
        have other : accent ≠ 'e' := by
          rintro rfl
          exact absurd composes.2 (by decide)
        rw [composeAcute_cons, addAcute_of_ne other, List.cons.injEq] at ih
        rw [composeAcute_cons, ih.2, addAcute_of_ne (by decide)]
      · rename_i kept
        rw [composeAcute_cons, ih, addAcute, if_neg kept]

theorem mem_composeAcute (isIn : char ∈ composeAcute text) :
    char ∈ text ∨ char = Char.ofNat 0xE9 := by
  induction text with
  | nil => exact .inl isIn
  | cons first rest ih =>
    rw [composeAcute_cons] at isIn
    generalize composeAcute rest = normal at ih isIn
    cases normal with
    | nil => simp_all [addAcute]
    | cons accent others =>
      rw [addAcute] at isIn
      split at isIn <;> grind

theorem composeAcute_divides (isBlank : isSpace char = true) (before after : List Char) :
    composeAcute (before ++ char :: after) = composeAcute before ++ char :: composeAcute after := by
  have notLetter : char ≠ 'e' := by
    rintro rfl
    exact absurd isBlank (by decide)
  have notAccent : char.toNat ≠ 0x301 := by
    intro isAccent
    rw [isSpace, isAccent] at isBlank
    exact absurd isBlank (by decide)
  induction before with
  | nil => exact addAcute_of_ne notLetter _
  | cons first rest ih =>
    rw [List.cons_append, composeAcute_cons, ih, composeAcute_cons]
    cases composeAcute rest with
    | nil => simp [addAcute, notAccent]
    | cons accent others =>
      rw [List.cons_append, addAcute, addAcute]
      split <;> rfl

theorem composeAcute_isNfkc : IsNfkc composeAcute where
  idempotent := composeAcute_idempotent
  lineFeed := rfl
  alone _ _ _ := rfl
  divides before _ after isBlank _ := composeAcute_divides isBlank before after
  arises text _ char isIn hidden := by
    rcases mem_composeAcute isIn with isIn | rfl
    · exact isIn
    · exact absurd hidden (by decide)

/-- A zero width space that keeps nothing apart does no harm. -/
theorem canonicalizeContent_idempotent_composed :
    let content := ['e', Char.ofNat 0x301, Char.ofNat 0x200B, 'a']
    canonicalizeContent composeAcute (canonicalizeContent composeAcute content) =
      canonicalizeContent composeAcute content :=
  (canonicalizeContent_idempotent composeAcute_isNfkc _).mpr (by decide +kernel)

/-- The accent that a zero width space kept from its letter is composed with it by the
second pass only. -/
theorem canonicalizeContent_not_idempotent :
    let content := ['e', Char.ofNat 0x200B, Char.ofNat 0x301]
    composeAcute content = content ∧
      canonicalizeContent composeAcute content = ['e', Char.ofNat 0x301] ∧
      canonicalizeContent composeAcute (canonicalizeContent composeAcute content) =
        [Char.ofNat 0xE9] := by
  decide +kernel

end AegisRag.Ingestion
