import FormScaffold.Proofs.Template.CommentLines
import FormScaffold.Proofs.Template.CommentLocality
import Mathlib.Data.List.DropRight

/-!
# Line comments, line by line

Where no block comment opens, every comment is a matter of one line.  A line
that holds nothing else goes as a whole; any other loses what stands from the
first two slashes on, with the blanks before them, and keeps its line break.
This needs every carriage return to belong to a line break, since one that does
not would end the comment before the line ends.
-/

namespace FormScaffold.Comment

open Text

/-- What stands before the first two slashes. -/
def beforeSlashes : Text → Text
  | [] => []
  | c :: s => if "//".toList <+: c :: s then [] else c :: beforeSlashes s

/-- What is left of a line without its line comment. -/
def stripLine (line : Text) : Text :=
  if "//".toList <:+: line then
    if "//".toList <+: skipBlanks line then []
    else (beforeSlashes line).rdropWhile isBlank ++ lineBreak line
  else line

variable {s body ending line source : Text} {lineStart : Bool}

/-! ## Slashes in a line -/

theorem skipBlanks_of_slashes (hslashes : "//".toList <+: s) :
    skipBlanks s = s := by
  rcases hslashes with ⟨said, rfl⟩
  exact skipBlanks_cons_of_not_isBlank rfl _

/-- Only blanks stand before the first two slashes, if the text begins with
these behind its blanks. -/
theorem forall_isBlank_beforeSlashes_iff (hslashes : "//".toList <:+: s) :
    (∀ c ∈ beforeSlashes s, isBlank c = true) ↔
      "//".toList <+: skipBlanks s := by
  induction s with
  | nil => simp at hslashes
  | cons c s ih =>
      by_cases hhead : "//".toList <+: c :: s
      · rw [beforeSlashes, if_pos hhead, skipBlanks_of_slashes hhead]
        simpa using hhead
      · have htail := (List.infix_cons_iff.mp hslashes).resolve_left hhead
        rw [beforeSlashes, if_neg hhead, List.forall_mem_cons, ih htail]
        by_cases hc : isBlank c = true
        · simp [skipBlanks, hc]
        · have hskip : skipBlanks (c :: s) = c :: s :=
            skipBlanks_cons_of_not_isBlank (by simpa using hc) s
          rw [hskip]
          exact iff_of_false (fun h => hc h.1) hhead

/-- The first character stays, unless all of them go. -/
theorem rdropWhile_cons {p : Char → Bool} {c : Char}
    (hmore : ¬ ∀ d ∈ c :: s, p d = true) :
    (c :: s).rdropWhile p = c :: s.rdropWhile p := by
  induction s using List.reverseRecOn with
  | nil =>
      have hc : ¬ p c = true := by simpa using hmore
      rw [List.rdropWhile_singleton, if_neg hc, List.rdropWhile_nil]
  | append_singleton s x ih =>
      rw [← List.cons_append, List.rdropWhile_concat, List.rdropWhile_concat]
      split
      next hx =>
        apply ih
        intro hall
        apply hmore
        rw [← List.cons_append, List.forall_mem_append]
        exact ⟨hall, by simpa using hx⟩
      next => rfl

/-! ## Where a comment begins -/

theorem afterBlock?_eq_none_of_not_infix (hblock : ¬ "/*".toList <:+: s) :
    afterBlock? s = none := by
  rw [Option.eq_none_iff_forall_ne_some]
  intro rest hsome
  rcases afterBlock?_eq_some_iff.mp hsome with ⟨inside, rfl, -⟩
  exact hblock ⟨[], inside, rfl⟩

theorem afterBlock?_skipBlanks_eq_none (hblock : ¬ "/*".toList <:+: s) :
    afterBlock? (skipBlanks s) = none :=
  afterBlock?_eq_none_of_not_infix fun h =>
    hblock (h.trans (List.dropWhile_suffix isBlank).isInfix)

/-- Behind the blanks, a line comment takes the line up to its end. -/
theorem afterLine?_skipBlanks (hbody : ∀ c ∈ body, endsLine c = false)
    (hending : ∀ c ∈ ending, endsLine c = true)
    (hslashes : "//".toList <+: skipBlanks (body ++ ending)) :
    afterLine? (skipBlanks (body ++ ending)) = some ending := by
  obtain ⟨said, hsaid⟩ := hslashes
  obtain ⟨blanks, hblanks, hsplit⟩ := exists_blanks (body ++ ending)
  have hlead : ∀ c ∈ blanks ++ "//".toList, (!endsLine c) = true := by
    intro c hc
    rcases List.mem_append.mp hc with hc | hc
    · rcases eq_of_isBlank (hblanks c hc) with rfl | rfl <;> rfl
    · rcases List.mem_cons.mp hc with rfl | hc
      · rfl
      · rw [List.mem_singleton.mp hc]
        rfl
  have hdrop : (body ++ ending).dropWhile (fun c => !endsLine c) = ending := by
    rw [List.dropWhile_append_of_pos fun c hc => by simp [hbody c hc]]
    cases ending with
    | nil => rfl
    | cons c rest => simp [hending c List.mem_cons_self]
  rw [afterLine?_eq_some_iff]
  refine ⟨said, hsaid.symm, ?_⟩
  rw [← hdrop, hsplit, ← hsaid, ← List.append_assoc,
    List.dropWhile_append_of_pos hlead]

theorem not_beginsBefore_of_not_slashes (hblock : ¬ "/*".toList <:+: s)
    (hslashes : ¬ "//".toList <+: skipBlanks s) (rest : Text) :
    ¬ BeginsBefore (skipBlanks s) rest := by
  rintro (hsome | hline)
  · rw [afterBlock?_skipBlanks_eq_none hblock] at hsome
    cases hsome
  · rcases afterLine?_eq_some_iff.mp hline with ⟨said, heq, -⟩
    exact hslashes ⟨said, heq.symm⟩

theorem stripFrom_of_not_mem_slash (hs : '/' ∉ s) (lineStart : Bool) :
    stripFrom lineStart s = s := by
  have hplain := Plain.nil.append_of_not_mem hs
  rw [List.append_nil] at hplain
  exact hplain.stripFrom_eq lineStart

/-! ## One line -/

/-- A line comment takes the blanks before it along and leaves the end of the
line, unless a line begins there that holds nothing else. -/
theorem stripFrom_of_slashes (hbody : ∀ c ∈ body, endsLine c = false)
    (hending : ∀ c ∈ ending, endsLine c = true)
    (hslashes : "//".toList <:+: body ++ ending)
    (hblock : ¬ "/*".toList <:+: body ++ ending)
    (hstart : lineStart = true → ¬ "//".toList <+:
      skipBlanks (body ++ ending)) :
    stripFrom lineStart (body ++ ending) =
      (beforeSlashes (body ++ ending)).rdropWhile isBlank ++ ending := by
  have hrest : '/' ∉ ending := fun hmem => by
    simpa [endsLine] using hending '/' hmem
  induction body generalizing lineStart with
  | nil => exact absurd (hslashes.subset List.mem_cons_self) hrest
  | cons c body ih =>
      have hwhole := forall_isBlank_beforeSlashes_iff hslashes
      by_cases hown : "//".toList <+: skipBlanks (c :: body ++ ending)
      · have hfound : pattern lineStart (c :: body ++ ending) =
            some ending := by
          have hfalse : lineStart = false := by
            rw [← Bool.not_eq_true]
            exact fun h => hstart h hown
          unfold pattern
          rw [hfalse, afterBlock?_eq_none_of_not_infix hblock,
            afterLine?_skipBlanks hbody hending hown]
          rfl
        rw [stripFrom_append_of_some (List.cons_ne_nil c body) hfound,
          stripFrom_of_not_mem_slash hrest,
          List.rdropWhile_eq_nil_iff.mpr (hwhole.mpr hown), List.nil_append]
      · have hhead : ¬ "//".toList <+: c :: (body ++ ending) := fun h =>
          hown (by rwa [List.cons_append, skipBlanks_of_slashes h])
        rw [List.forall_mem_cons] at hbody
        rw [List.cons_append] at hslashes hblock hown hwhole ⊢
        have htail := (List.infix_cons_iff.mp hslashes).resolve_left hhead
        have hfeed : (c == '\n') = false := by
          rw [beq_eq_false_iff_ne]
          rintro rfl
          simpa [endsLine] using hbody.1
        have hnext := ih hbody.2 htail (fun h => hblock (List.infix_cons h))
          (fun (h : false = true) => by cases h)
        rw [stripFrom_cons_of_not_begins
          (not_beginsBefore_of_not_slashes hblock hown),
          hfeed, hnext, beforeSlashes, if_neg hhead, rdropWhile_cons,
          List.cons_append]
        rw [← hwhole, beforeSlashes, if_neg hhead] at hown
        exact hown

theorem strip_of_not_slashes (hslashes : ¬ "//".toList <:+: s)
    (hblock : ¬ "/*".toList <:+: s) : strip s = s := by
  have hplain : Plain s := by
    rw [plain_iff_not_occurs]
    rintro (hline | ⟨inside, hsuffix, -⟩)
    · exact hslashes hline
    · exact hblock ((List.prefix_append _ inside).isInfix.trans hsuffix.isInfix)
  exact hplain.stripFrom_eq true

theorem endsLine_of_mem_lineBreak (hending : ending ∈ [] :: lineBreaks) :
    ∀ c ∈ ending, endsLine c = true := by
  rcases List.mem_cons.mp hending with rfl | hbreak
  · simp
  · rcases eq_of_mem_lineBreaks hbreak with rfl | rfl <;> simp [endsLine]

theorem strip_of_own_line (hbody : ∀ c ∈ body, endsLine c = false)
    (hending : ending ∈ [] :: lineBreaks)
    (hblock : ¬ "/*".toList <:+: body ++ ending)
    (hown : "//".toList <+: skipBlanks (body ++ ending)) :
    strip (body ++ ending) = [] := by
  have hline := afterLine?_skipBlanks hbody (endsLine_of_mem_lineBreak hending)
    hown
  have hread : afterLineEnd? ending = some [] := by
    rw [afterLineEnd?_eq_nil_iff]
    refine blanksTo_of_mem ?_
    rcases List.mem_cons.mp hending with rfl | hbreak
    · decide
    · exact List.mem_append_left _ hbreak
  have hfound : pattern true (body ++ ending) = some [] := by
    unfold pattern afterOwnLine?
    simp only [afterBlock?_skipBlanks_eq_none hblock, hline]
    simp [hread]
  have hne : body ++ ending ≠ [] := by
    rintro hnil
    simp [hnil, skipBlanks] at hown
  rw [← List.append_nil (body ++ ending)] at hfound ⊢
  rw [strip_eq_stripFrom, stripFrom_append_of_some hne hfound, stripFrom_nil]

theorem strip_line (hline : lines line = [line])
    (hblock : ¬ "/*".toList <:+: line)
    (hreturns : ReturnsBeforeFeeds line) : strip line = stripLine line := by
  obtain ⟨body, ending, hreturn, hfeed, hending, rfl⟩ :=
    exists_said hline hreturns
  have hbody : ∀ c ∈ body, endsLine c = false := by
    intro c hc
    rw [endsLine, Bool.or_eq_false_iff, beq_eq_false_iff_ne,
      beq_eq_false_iff_ne]
    exact ⟨fun h => hreturn (h ▸ hc), fun h => hfeed (h ▸ hc)⟩
  unfold stripLine
  rw [lineBreak_append hreturn hfeed hending]
  split
  next hslashes =>
    split
    next hown => exact strip_of_own_line hbody hending hblock hown
    next hown =>
      have hends := endsLine_of_mem_lineBreak hending
      rw [strip_eq_stripFrom,
        stripFrom_of_slashes hbody hends hslashes hblock fun _ => hown]
  next hslashes => exact strip_of_not_slashes hslashes hblock

/-! ## Every line -/

theorem infix_of_infix_stripFrom
    (hopen : "/*".toList <:+: stripFrom lineStart s) :
    "/*".toList <:+: s := by
  induction lineStart, s using pattern_findsSpans.walk with
  | nil lineStart => simp at hopen
  | kept lineStart c s hnone ih =>
      rw [stripFrom_cons_of_none hnone] at hopen
      rcases List.infix_cons_iff.mp hopen with ⟨left, hleft⟩ | htail
      · obtain ⟨rfl, hstar⟩ := List.cons_eq_cons.mp hleft
        by_contra hno
        have hblock : afterBlock? s = none :=
          afterBlock?_eq_none_of_not_infix fun h => hno (List.infix_cons h)
        obtain ⟨rest, rfl, -⟩ :=
          exists_cons_of_stripFrom_cons hstar.symm rfl hblock
        exact hno ⟨[], rest, rfl⟩
      · exact List.infix_cons (ih htail)
  | span lineStart span rest hne hsome ih =>
      rw [stripFrom_append_of_some hne hsome] at hopen
      exact (ih hopen).trans (List.suffix_append span rest).isInfix

theorem LeavesOpen.infix (hopen : LeavesOpen s) : "/*".toList <:+: s := by
  unfold LeavesOpen at hopen
  rw [strip_eq_stripFrom] at hopen
  exact infix_of_infix_stripFrom hopen

theorem strip_eq_flatMap_stripLine (hblock : ¬ "/*".toList <:+: source)
    (hreturns : ReturnsBeforeFeeds source) :
    strip source = (lines source).flatMap stripLine := by
  have hcut := isCut_lines source
  have hlineBlock : ∀ line ∈ lines source, ¬ "/*".toList <:+: line := by
    intro line hline hopen
    apply hblock
    rw [← flatten_lines source]
    exact hopen.trans (List.infix_of_mem_flatten hline)
  have hlineReturns : ∀ line ∈ lines source, ReturnsBeforeFeeds line := by
    apply hcut.returnsBeforeFeeds
    rwa [flatten_lines]
  calc strip source
      = strip (lines source).flatten := by rw [flatten_lines]
    _ = (lines source).flatMap strip := by
        apply strip_flatten
        intro line hline
        have hmem := List.mem_of_mem_dropLast hline
        exact ⟨hcut.lineAligned_of_mem_dropLast line hline,
          fun hopen => hlineBlock line hmem hopen.infix⟩
    _ = (lines source).flatMap stripLine := by
        apply List.flatMap_congr
        intro line hline
        exact strip_line (hcut.lines_eq_of_mem line hline)
          (hlineBlock line hline) (hlineReturns line hline)

/-! ## The lines that are left -/

theorem exists_beforeSlashes (hslashes : "//".toList <:+: s) :
    ∃ comment, comment ≠ [] ∧ s = beforeSlashes s ++ comment := by
  induction s with
  | nil => simp at hslashes
  | cons c s ih =>
      by_cases hhead : "//".toList <+: c :: s
      · exact ⟨c :: s, List.cons_ne_nil c s,
          by rw [beforeSlashes, if_pos hhead]; rfl⟩
      · obtain ⟨comment, hne, hs⟩ :=
          ih ((List.infix_cons_iff.mp hslashes).resolve_left hhead)
        refine ⟨comment, hne, ?_⟩
        rw [beforeSlashes, if_neg hhead, List.cons_append, ← hs]

theorem lines_stripLine (hline : lines line = [line])
    (hkept : stripLine line ≠ []) :
    lines (stripLine line) = [stripLine line] := by
  unfold stripLine at hkept ⊢
  split at hkept
  next hslashes =>
    rw [if_pos hslashes]
    split at hkept
    next => exact absurd rfl hkept
    next hown =>
      rw [if_neg hown]
      obtain ⟨comment, hne, hsplit⟩ := exists_beforeSlashes hslashes
      have hsaid : '\n' ∉ (beforeSlashes line).rdropWhile isBlank := by
        rw [hsplit] at hline
        exact fun hmem => (line_of_append hne hline).1
          ((List.rdropWhile_prefix _ _).subset hmem)
      rcases List.mem_cons.mp (lineBreak_mem line) with hnil | hbreak
      · rw [hnil, List.append_nil] at hkept ⊢
        exact lines_of_not_mem hkept hsaid
      · refine lines_append_of_line hsaid ?_
        rcases eq_of_mem_lineBreaks hbreak with hbreak |
          hbreak <;> rw [hbreak] <;> rfl
  next hslashes =>
    rw [if_neg hslashes]
    exact hline

theorem lineAligned_stripLine (haligned : LineAligned line) :
    LineAligned (stripLine line) := by
  unfold stripLine
  split
  next hslashes =>
    split
    next => exact lineAligned_nil
    next =>
      have hne : line ≠ [] := by
        rintro rfl
        simp at hslashes
      have hbreak := getLast?_lineBreak (haligned.resolve_left hne)
      right
      rw [List.getLast?_append, hbreak, Option.some_or]
  next => exact haligned

/-- Without block comments, and with carriage returns in line breaks only, a
text loses its comments line by line: the lines that are left are those of the
text, each without its comment, and no two of them are joined. -/
theorem strip_line_by_line (hblock : ¬ "/*".toList <:+: source)
    (hreturns : ReturnsBeforeFeeds source) :
    strip source = (lines source).flatMap stripLine ∧
      lines (strip source) =
        ((lines source).map stripLine).filter (· ≠ []) := by
  have hstrip := strip_eq_flatMap_stripLine hblock hreturns
  have hcut := (isCut_lines source).filter_map
    (fun _ => lines_stripLine) (fun _ => lineAligned_stripLine)
  refine ⟨hstrip, ?_⟩
  rw [hstrip, List.flatMap_def, ← hcut.lines_flatten,
    List.flatten_filter_ne_nil]

/-- A comment on a line of its own goes with its indentation and its line break,
one behind other text with the blanks before it, and what stands in a literal is
no exception. -/
theorem strip_line_by_line_of_crlf :
    let source := ("  // a\r\nb \t // c // d\r\n\r\n///\n" ++
      "e / f\n\t\n\"http://g\"\n \t//").toList
    ¬ "/*".toList <:+: source ∧ ReturnsBeforeFeeds source ∧
      strip source = "b\r\n\r\ne / f\n\t\n\"http:\n".toList ∧
      lines (strip source) =
        ["b\r\n".toList, "\r\n".toList, "e / f\n".toList, "\t\n".toList,
          "\"http:\n".toList] := by
  intro source
  have hblock : ¬ "/*".toList <:+: source := by decide +kernel
  have hreturns : ReturnsBeforeFeeds source := by decide +kernel
  obtain ⟨hstrip, hlines⟩ := strip_line_by_line hblock hreturns
  refine ⟨hblock, hreturns, hstrip.trans ?_, hlines.trans ?_⟩
  · decide +kernel
  · decide +kernel

end FormScaffold.Comment
