import FormScaffold.Proofs.Template.CommentAbsence
import FormScaffold.Proofs.Template.SectionSelection
import FormScaffold.Proofs.Text.LineReader

/-!
# Comments do not reach over the end of a closed text

A text whose lines are whole and that leaves no block comment open loses the
same comments whatever is put behind it: line comments end with their line, a
block comment that is closed ends there, and an opening without a closing is
left standing, where it can be seen.  So the sections of a template lose their
comments one by one, and what becomes of one section does not depend on the
others.
-/

namespace FormScaffold.Comment

open Text

/-- An opening of a block comment is left when the comments are gone. -/
def LeavesOpen (s : Text) : Prop := "/*".toList <:+: strip s

instance : DecidablePred LeavesOpen :=
  fun s => inferInstanceAs (Decidable (_ <:+: strip s))

/-- The text begins with a block comment that it does not close. -/
def OpensBlock (s : Text) : Prop := "/*".toList <+: s ∧ afterBlock? s = none

/-! ## The readers over the border -/

theorem staysInLine_afterLine? : StaysInLine afterLine? := by
  have hslashes : '\n' ∉ "//".toList := by decide
  have hbind : afterLine? = fun s => after? "//".toList s >>= fun said =>
      some (said.dropWhile fun c => !endsLine c) := by
    funext s
    unfold afterLine?
    cases after? "//".toList s <;> rfl
  rw [hbind]
  exact (staysInLine_after? hslashes).bind (staysInLine_dropWhile rfl)

theorem afterClose?_append {s rest : Text} (hclose : afterClose? s = some rest)
    (t : Text) : afterClose? (s ++ t) = some (rest ++ t) := by
  fun_induction afterClose? s with
  | case1 s => rw [← Option.some.inj hclose]; rfl
  | case2 c s hnot ih =>
      cases s with
      | nil => cases hclose
      | cons d s =>
          rw [List.cons_append, afterClose?]
          · exact ih hclose
          · rintro behind rfl heq
            obtain ⟨rfl, -⟩ := List.cons_eq_cons.mp heq
            exact hnot s rfl rfl
  | case3 => cases hclose

theorem afterBlock?_append {s : Text} (hs : s.getLast? = some '\n')
    (hclosed : ¬ OpensBlock s) (t : Text) :
    afterBlock? (s ++ t) = (afterBlock? s).map (· ++ t) := by
  have hopening : '\n' ∉ "/*".toList := by decide
  unfold afterBlock?
  rw [(staysInLine_after? hopening).passesOn hs]
  cases hlead : after? "/*".toList s with
  | none => rfl
  | some inside =>
      cases hclose : afterClose? inside with
      | none =>
          have hopen : afterBlock? s = none := by
            unfold afterBlock?
            rw [hlead]
            exact hclose
          exact absurd ⟨⟨inside, (eq_append_of_after? hlead).symm⟩, hopen⟩
            hclosed
      | some rest => simp [hclose, afterClose?_append hclose]

theorem getLast?_of_afterBlock? {s rest : Text} (hs : s.getLast? = some '\n')
    (hblock : afterBlock? s = some rest) : rest.getLast? = some '\n' := by
  obtain ⟨inside, rfl, hclose⟩ := afterBlock?_eq_some_iff.mp hblock
  obtain ⟨said, rfl⟩ := exists_of_afterClose? hclose
  have hsplit : '/' :: '*' :: (said ++ "*/".toList ++ rest) =
      ('/' :: '*' :: (said ++ ['*'])) ++ '/' :: rest := by simp
  rw [hsplit, List.getLast?_append_of_ne_nil _ (List.cons_ne_nil _ _)] at hs
  exact getLast?_of_cons_of_ne hs (by decide)

theorem skipBlanks_append_of_line {s : Text} (hs : s.getLast? = some '\n')
    (t : Text) :
    skipBlanks (s ++ t) = skipBlanks s ++ t ∧
      (skipBlanks s).getLast? = some '\n' :=
  ⟨by simpa using staysInLine_skipBlanks.passesOn hs t,
    staysInLine_skipBlanks.lineFeed hs rfl⟩

theorem afterOwnLine?_append {s : Text} (hs : s.getLast? = some '\n')
    (hclosed : ¬ OpensBlock (skipBlanks s)) (t : Text) :
    afterOwnLine? (s ++ t) = (afterOwnLine? s).map (· ++ t) := by
  obtain ⟨hskip, hlast⟩ := skipBlanks_append_of_line hs t
  have hbegins : ∀ behind, BeginsBefore (skipBlanks s) behind →
      behind.getLast? = some '\n' := by
    rintro behind (hblock | hline)
    · exact getLast?_of_afterBlock? hlast hblock
    · exact staysInLine_afterLine?.lineFeed hlast hline
  unfold afterOwnLine?
  simp only [hskip, afterBlock?_append hlast hclosed,
    staysInLine_afterLine?.passesOn hlast, Option.orElse_eq_orElse,
    Option.orElse_eq_or, ← Option.map_or]
  cases hfound : (afterBlock? (skipBlanks s)).or
    (afterLine? (skipBlanks s)) with
  | none => rfl
  | some behind =>
      have hcomment : BeginsBefore (skipBlanks s) behind := by
        rcases Option.or_eq_some_iff.mp hfound with hblock | ⟨-, hline⟩
        · exact Or.inl hblock
        · exact Or.inr hline
      exact passesOn_afterLineEnd? (hbegins behind hcomment) t

theorem pattern_append {s : Text} (hs : s.getLast? = some '\n')
    (hclosed : ¬ OpensBlock (skipBlanks s)) (lineStart : Bool) (t : Text) :
    pattern lineStart (s ++ t) = (pattern lineStart s).map (· ++ t) := by
  obtain ⟨hskip, hlast⟩ := skipBlanks_append_of_line hs t
  have hclosed' : ¬ OpensBlock s := by
    rintro ⟨⟨inside, rfl⟩, hblock⟩
    exact hclosed ⟨⟨inside, rfl⟩, hblock⟩
  unfold pattern
  simp only [hskip, afterOwnLine?_append hs hclosed,
    afterBlock?_append hs hclosed', staysInLine_afterLine?.passesOn hlast,
    Option.orElse_eq_orElse, Option.orElse_eq_or]
  cases lineStart <;> simp [Option.map_or]

/-! ## What is left open is seen -/

/-- No opening of a block comment is left, from a place on at which a line
begins or not. -/
def Closes (lineStart : Bool) (s : Text) : Prop :=
  ¬ "/*".toList <:+: stripFrom lineStart s

theorem not_beginsBefore_of_ne_slash {c : Char} (hc : c ≠ '/') (s rest : Text) :
    ¬ BeginsBefore (c :: s) rest := by
  rintro (hblock | hline)
  · rcases afterBlock?_eq_some_iff.mp hblock with ⟨inside, heq, -⟩
    exact hc (List.cons_eq_cons.mp heq).1
  · rcases afterLine?_eq_some_iff.mp hline with ⟨said, heq, -⟩
    exact hc (List.cons_eq_cons.mp heq).1

theorem stripFrom_cons_of_not_begins {c : Char} {s : Text}
    (hnot : ∀ rest, ¬ BeginsBefore (skipBlanks (c :: s)) rest)
    (lineStart : Bool) :
    stripFrom lineStart (c :: s) = c :: stripFrom (c == '\n') s :=
  stripFrom_cons_of_none (pattern_eq_none_of_not_begins hnot lineStart)

theorem stripFrom_cons_of_not_isBlank {c : Char} {s : Text}
    (hc : isBlank c = false) (hnot : ∀ rest, ¬ BeginsBefore (c :: s) rest)
    (lineStart : Bool) :
    stripFrom lineStart (c :: s) = c :: stripFrom (c == '\n') s := by
  refine stripFrom_cons_of_not_begins ?_ lineStart
  rwa [skipBlanks_cons_of_not_isBlank hc]

theorem OpensBlock.not_beginsBefore {s : Text} (hs : OpensBlock s)
    (rest : Text) :
    ¬ BeginsBefore s rest := by
  obtain ⟨⟨inside, rfl⟩, hblock⟩ := hs
  rintro (hsome | hline)
  · rw [hblock] at hsome
    cases hsome
  · rcases afterLine?_eq_some_iff.mp hline with ⟨said, heq, -⟩
    cases heq

/-- The blanks before an open comment are kept one by one, so its slash and its
star are too. -/
theorem Closes.not_opensBlock {lineStart : Bool} {s : Text}
    (hs : Closes lineStart s) : ¬ OpensBlock (skipBlanks s) := by
  intro hopen
  apply hs
  have hnot := hopen.not_beginsBefore
  obtain ⟨blanks, hblanks, hsplit⟩ := exists_blanks s
  obtain ⟨⟨inside, hinside⟩, -⟩ := hopen
  rw [← hinside] at hsplit hnot
  rw [hsplit]
  clear hs hsplit
  induction blanks generalizing lineStart with
  | nil =>
      have hslash : stripFrom lineStart ('/' :: '*' :: inside) =
          '/' :: stripFrom false ('*' :: inside) :=
        stripFrom_cons_of_not_isBlank rfl hnot lineStart
      have hstar : stripFrom false ('*' :: inside) =
          '*' :: stripFrom false inside :=
        stripFrom_cons_of_not_isBlank rfl
          (not_beginsBefore_of_ne_slash (by decide) inside) false
      rw [hstar] at hslash
      exact ⟨[], stripFrom false inside, hslash.symm⟩
  | cons c blanks ih =>
      rw [List.forall_mem_cons] at hblanks
      have hskip := skipBlanks_append (List.forall_mem_cons.mpr hblanks)
        ("/*".toList ++ inside)
      have hslash : skipBlanks ("/*".toList ++ inside) =
          "/*".toList ++ inside :=
        skipBlanks_cons_of_not_isBlank rfl _
      rw [List.cons_append, stripFrom_cons_of_not_begins]
      · exact List.infix_cons (ih hblanks.2)
      · rw [← List.cons_append, hskip, hslash]
        exact hnot

theorem Closes.of_kept {lineStart : Bool} {c : Char} {s : Text}
    (hnone : pattern lineStart (c :: s) = none)
    (hs : Closes lineStart (c :: s)) :
    Closes (c == '\n') s := by
  intro hopen
  apply hs
  rw [stripFrom_cons_of_none hnone]
  exact List.infix_cons hopen

theorem Closes.of_span {lineStart : Bool} {span rest : Text} (hne : span ≠ [])
    (hsome : pattern lineStart (span ++ rest) = some rest)
    (hs : Closes lineStart (span ++ rest)) :
    Closes (span.getLast? == some '\n') rest := by
  intro hopen
  apply hs
  rwa [stripFrom_append_of_some hne hsome]

/-- Behind a text that leaves no block comment open, another loses its own
comments. -/
theorem strip_append {s : Text} (haligned : LineAligned s)
    (hclosed : ¬ LeavesOpen s)
    (t : Text) : strip (s ++ t) = strip s ++ strip t :=
  pattern_findsSpans.replaceFrom_append _
    (fun hlast hcloses => pattern_append hlast (Closes.not_opensBlock hcloses)
      _ t)
    Closes.of_kept Closes.of_span haligned (fun _ => rfl) hclosed

/-- The texts but the last are whole lines and leave no block comment open. -/
theorem strip_flatten {texts : List Text}
    (hclosed : ∀ s ∈ texts.dropLast, LineAligned s ∧ ¬ LeavesOpen s) :
    strip texts.flatten = texts.flatMap strip :=
  flatten_eq_flatMap (stripFrom_nil true)
    fun s hs => strip_append (hclosed s hs).1 (hclosed s hs).2

end FormScaffold.Comment

namespace FormScaffold.Section

open Text

/-- The sections that stay: those for every project, those of no kind in the
catalog, and those of the chosen kinds. -/
def kept (chosen : List FieldKind) (source : Text) : List Section :=
  (split source).filter fun s =>
    ∀ k ∈ FieldKind.catalog, s.tag = .kind k.id → k ∈ chosen

theorem kept_eq_filter_staysWithout (chosen : List FieldKind) (source : Text) :
    kept chosen source =
      (split source).filter (staysWithout (FieldKind.unchosen chosen)) := by
  refine List.filter_congr fun s _ => ?_
  rw [Bool.eq_iff_iff, decide_eq_true_iff, staysWithout_iff]
  exact ⟨fun h k => h k k.mem_catalog, fun h k _ => h k⟩

theorem filter_eq_flatten_kept (chosen : List FieldKind) (source : Text) :
    filter chosen source = ((kept chosen source).map text).flatten := by
  rw [filter_eq_join_filter, kept_eq_filter_staysWithout, join,
    List.flatMap_def]

theorem lineAligned_of_mem_kept_dropLast {chosen : List FieldKind}
    {source : Text} {s : Section} (hs : s ∈ (kept chosen source).dropLast) :
    LineAligned s.text :=
  Or.inr (((wellFormed_split source).sublist List.filter_sublist).lineFeed s hs)

theorem strip_filter {chosen : List FieldKind} {source : Text}
    (hclosed : ∀ s ∈ (kept chosen source).dropLast,
      ¬ Comment.LeavesOpen s.text) :
    Comment.strip (filter chosen source) =
      (kept chosen source).flatMap fun s => Comment.strip s.text := by
  rw [filter_eq_flatten_kept, Comment.strip_flatten, List.flatMap_map]
  rw [← List.map_dropLast]
  intro t ht
  rcases List.mem_map.mp ht with ⟨s, hs, rfl⟩
  exact ⟨lineAligned_of_mem_kept_dropLast hs, hclosed s hs⟩

end FormScaffold.Section

namespace FormScaffold.Comment

open Text

/-- Two texts lose their comments one by one, if the lines of the first are
whole and it leaves no block comment open.  So do the sections that stay of a
template, if none but the last leaves one open: what becomes of a section is the
same beside any others. -/
theorem strip_of_closed_pieces :
    (∀ s t, LineAligned s → ¬ LeavesOpen s →
      strip (s ++ t) = strip s ++ strip t) ∧
    ∀ source chosen,
      (∀ s ∈ (Section.kept chosen source).dropLast, ¬ LeavesOpen s.text) →
        strip (Section.filter chosen source) =
          (Section.kept chosen source).flatMap fun s => strip s.text :=
  ⟨fun _ t haligned hclosed => strip_append haligned hclosed t,
    fun _ _ hclosed => Section.strip_filter hclosed⟩

/-- An opening within a line comment opens nothing, a block comment that ends
within its section is closed, and the section that would leave one open is not
chosen. -/
theorem strip_of_closed_sections :
    let source := ("a // /*\n  //split//text\n /* b\n*/ c\n" ++
      "//split//select\n/* d\n//split//body\ne */ // f").toList
    LineAligned "a // /*\n".toList ∧ ¬ LeavesOpen "a // /*\n".toList ∧
      strip ("a // /*\n".toList ++ "b */ c".toList) = "a\nb */ c".toList ∧
      (∀ s ∈ (Section.kept [.text] source).dropLast, ¬ LeavesOpen s.text) ∧
      strip (Section.filter [.text] source) = "a\n  c\ne */".toList ∧
      LeavesOpen "//split//select\n/* d\n".toList := by
  intro source
  have haligned : LineAligned "a // /*\n".toList := Or.inr rfl
  have hclosed : ¬ LeavesOpen "a // /*\n".toList := by decide +kernel
  have hsections : ∀ s ∈ (Section.kept [.text] source).dropLast,
      ¬ LeavesOpen s.text := by
    decide +kernel
  have happend := strip_of_closed_pieces.1 _ "b */ c".toList haligned hclosed
  have hfilter := strip_of_closed_pieces.2 _ _ hsections
  refine ⟨haligned, hclosed, happend.trans ?_, hsections, hfilter.trans ?_, ?_⟩
  · decide +kernel
  · decide +kernel
  · decide +kernel

end FormScaffold.Comment
