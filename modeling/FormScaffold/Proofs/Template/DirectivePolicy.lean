import FormScaffold.Proofs.Template.EmissionProjection

/-!
# The directive in what is emitted

The directive policy runs before the aliases are replaced, so it has to be seen
that no line becomes a directive line by that.  A directive line holds blanks,
quotes, a semicolon and the words of the directive; an alias with any other
character makes no such line, and finds none to change.
-/

namespace FormScaffold

open Text

namespace Text

/-- The reader goes past characters of this kind only. -/
def ReadsOnly (kind : Char → Prop) (reader : Text → Option Text) : Prop :=
  ∀ ⦃s rest : Text⦄, reader s = some rest → ∀ c ∈ s, kind c ∨ c ∈ rest

variable {kind : Char → Prop}

theorem ReadsOnly.bind {first next : Text → Option Text}
    (hfirst : ReadsOnly kind first) (hnext : ReadsOnly kind next) :
    ReadsOnly kind fun s => first s >>= next := by
  intro s rest hread c hc
  rcases Option.bind_eq_some_iff.mp hread with ⟨middle, hmiddle, hrest⟩
  rcases hfirst hmiddle c hc with hkind | hc
  · exact Or.inl hkind
  · exact hnext hrest c hc

theorem readsOnly_skipBlanks (hblank : ∀ c, isBlank c = true → kind c) :
    ReadsOnly kind fun s => some (skipBlanks s) := by
  intro s rest hread c hc
  obtain rfl := Option.some.inj hread
  rw [← List.takeWhile_append_dropWhile (p := isBlank) (l := s),
    List.mem_append] at hc
  exact hc.imp_left fun hc => hblank c (List.mem_takeWhile_imp hc)

theorem readsOnly_after? {lead : Text} (hlead : ∀ c ∈ lead, kind c) :
    ReadsOnly kind (after? lead) := by
  intro s rest hread c hc
  rw [eq_append_of_after? hread, List.mem_append] at hc
  exact hc.imp_left (hlead c)

theorem readsOnly_afterLineEnd? (hblank : ∀ c, isBlank c = true → kind c)
    (hreturn : kind '\r') (hfeed : kind '\n') :
    ReadsOnly kind afterLineEnd? := by
  have hkinds : ∀ c, (∃ ending ∈ lineBreaks ++ textEnds, c ∈ ending) →
      kind c := by
    rintro c ⟨ending, hending, hc⟩
    rcases eq_of_mem_ending hending hc with rfl | rfl
    · exact hreturn
    · exact hfeed
  intro s rest hread c hc
  rcases exists_of_afterLineEnd? hread with ⟨read, hends, -, rfl⟩
  rcases List.mem_append.mp hc with hc | hc
  · exact Or.inl ((hends.isBlank_or_mem hc).elim (hblank c) (hkinds c))
  · exact Or.inr hc

end Text

namespace Alias

/-- Import aliases hold one of these characters, by which they are told from the
names of packages. -/
def signs : Text := "/@~#".toList

theorem holds_signs_defaults :
    Holds (· ∈ signs) defaultComponents ∧ Holds (· ∈ signs) defaultUtils := by
  decide

end Alias

namespace Directive

/-! ## The characters of a directive line -/

def letters : Text := " \t\r\n;\"'".toList ++ words

theorem isBlank_mem_letters (c : Char) (hc : isBlank c = true) :
    c ∈ letters := by
  have hor : c = ' ' ∨ c = '\t' := by simpa [isBlank] using hc
  rcases hor with rfl | rfl <;> decide

theorem readsOnly_afterQuote? : ReadsOnly (· ∈ letters) afterQuote? := by
  intro s rest hread
  rcases afterQuote?_eq_some_iff.mp hread with ⟨quote, hquote, rfl⟩
  have hletter : quote ∈ letters := by
    rcases eq_of_mem_quotes hquote with rfl | rfl <;> decide
  exact List.forall_mem_cons.mpr ⟨Or.inl hletter, fun c hc => Or.inr hc⟩

theorem readsOnly_skipSemicolon :
    ReadsOnly (· ∈ letters) fun s => some (skipSemicolon s) := by
  intro s rest hread c hc
  obtain rfl := Option.some.inj hread
  rcases exists_semicolon s with ⟨semicolon, hsemicolon, hsplit⟩
  rw [hsplit, List.mem_append] at hc
  refine hc.imp_left fun hc => ?_
  rcases hsemicolon with rfl | rfl
  · cases hc
  · rw [List.mem_singleton.mp hc]
    decide

theorem readsOnly_afterLine? : ReadsOnly (· ∈ letters) afterLine? := by
  have hwords : ∀ c ∈ words, c ∈ letters :=
    fun c hc => List.mem_append_right _ hc
  have hend := readsOnly_afterLineEnd? isBlank_mem_letters
    (by decide : '\r' ∈ letters) (by decide)
  exact (readsOnly_skipBlanks isBlank_mem_letters).bind
    (readsOnly_afterQuote?.bind ((readsOnly_after? hwords).bind
      (readsOnly_afterQuote?.bind (readsOnly_skipSemicolon.bind hend))))

theorem IsDirectiveLine.mem_letters {line : Text} (hline : IsDirectiveLine line)
    {c : Char} (hc : c ∈ line) : c ∈ letters :=
  (readsOnly_afterLine? hline c hc).resolve_right List.not_mem_nil

theorem IsDirectiveLine.not_holds_signs {line : Text}
    (hline : IsDirectiveLine line) : ¬ Alias.Holds (· ∈ Alias.signs) line := by
  have happart : ¬ Alias.Holds (· ∈ letters) Alias.signs := by decide
  rintro ⟨c, hc, hsign⟩
  exact happart ⟨c, hsign, hline.mem_letters hc⟩

/-! ## Behind the policy -/

variable {components utils : Text}

theorem isDirectiveLine_replace_iff
    (hcomponents : Alias.Holds (· ∈ Alias.signs) components)
    (hutils : Alias.Holds (· ∈ Alias.signs) utils) (line : Text) :
    IsDirectiveLine (Alias.replace components utils line) ↔
      IsDirectiveLine line := by
  rcases Alias.replace_eq_self_or_holds Alias.holds_signs_defaults hcomponents
    hutils line with hsame | ⟨hbefore, hafter⟩
  · rw [hsame]
  · exact iff_of_false (fun h => h.not_holds_signs hafter)
      (fun h => h.not_holds_signs hbefore)

theorem replace_eq_self_of_directive
    (hcomponents : Alias.Holds (· ∈ Alias.signs) components)
    (hutils : Alias.Holds (· ∈ Alias.signs) utils) {line : Text}
    (hline : IsDirectiveLine line) : Alias.replace components utils line =
      line :=
  (Alias.replace_eq_self_or_holds Alias.holds_signs_defaults hcomponents hutils
    line).resolve_right fun h => hline.not_holds_signs h.1

def directiveLines (s : Text) : List Text :=
  (lines s).filter fun line => IsDirectiveLine line

theorem mem_directiveLines {s l : Text} :
    l ∈ directiveLines s ↔ l ∈ lines s ∧ IsDirectiveLine l := by
  simp [directiveLines]

theorem directiveLines_replace (hcomponents : Alias.FitsInLine components)
    (hutils : Alias.FitsInLine utils)
    (hcomponents' : Alias.Holds (· ∈ Alias.signs) components)
    (hutils' : Alias.Holds (· ∈ Alias.signs) utils) (s : Text) :
    directiveLines (Alias.replace components utils s) = directiveLines s := by
  have hsame :
      ∀ line, decide (IsDirectiveLine (Alias.replace components utils line)) =
      decide (IsDirectiveLine line) := fun line =>
    decide_eq_decide.mpr (isDirectiveLine_replace_iff hcomponents' hutils' line)
  have hkept : ∀ line ∈ directiveLines s,
      Alias.replace components utils line = line := by
    intro line hline
    exact replace_eq_self_of_directive hcomponents' hutils'
      (mem_directiveLines.mp hline).2
  unfold directiveLines at hkept ⊢
  rw [Alias.lines_replace hcomponents hutils, List.filter_map]
  simp only [Function.comp_def, hsame]
  calc
    (directiveLines s).map (Alias.replace components utils) =
        (directiveLines s).map id := List.map_congr_left hkept
    _ = directiveLines s := List.map_id _

theorem directiveLines_remove (s : Text) : directiveLines (remove s) = [] := by
  rw [List.eq_nil_iff_forall_not_mem]
  intro l hl
  rcases mem_directiveLines.mp hl with ⟨hline, hdirective⟩
  exact not_isDirectiveLine_of_mem_lines_remove hline hdirective

theorem directiveLines_dropBlankLines {s : Text} (hs : directiveLines s = []) :
    directiveLines (dropBlankLines s) = [] := by
  unfold directiveLines at hs ⊢
  rw [lines_dropBlankLines]
  have hsub := ((List.dropWhile_suffix
    (fun l => decide (IsBlankLine l)) (l := lines s)).sublist).filter
    (fun l => decide (IsDirectiveLine l))
  rwa [hs, List.sublist_nil] at hsub

theorem directiveLines_apply_true (s : Text) :
    directiveLines (apply true s) = [line ++ ['\n']] := by
  have htop : IsDirectiveLine (line ++ ['\n']) := by decide
  have hblank : ¬ IsDirectiveLine ['\n'] := by decide
  have hrest := directiveLines_dropBlankLines (directiveLines_remove s)
  unfold directiveLines at hrest ⊢
  rw [lines_apply_true, List.filter_cons_of_pos (by simpa using htop),
    List.filter_cons_of_neg (by simpa using hblank), hrest]

end Directive

namespace TemplateFile

theorem emit_eq_replace (file : TemplateFile) (choices : Choices)
    (source : Text) :
    file.emit choices source =
      Alias.replace choices.components choices.utils
        (Directive.apply (choices.directive && file.isClient)
          (file.selected choices.kinds source)) := rfl

/-- Replacing aliases leaves the directive at the top where it is. -/
theorem directive_prefix_replace {components utils : Text}
    (hcomponents : Alias.Holds (· ∈ Alias.signs) components)
    (hutils : Alias.Holds (· ∈ Alias.signs) utils) (s : Text) :
    Directive.line ++ "\n\n".toList <+:
      Alias.replace components utils (Directive.apply true s) := by
  have haligned : LineAligned (Directive.line ++ "\n\n".toList) := Or.inr rfl
  have hunsigned :
      ¬ Alias.Holds (· ∈ Alias.signs) (Directive.line ++ "\n\n".toList) := by
        decide
  have htop :=
    (Alias.replace_eq_self_or_holds Alias.holds_signs_defaults hcomponents
    hutils (Directive.line ++ "\n\n".toList)).resolve_right fun h =>
      hunsigned h.1
  unfold Directive.apply
  rw [if_pos rfl, Alias.replace_append _ _ haligned, htop]
  exact List.prefix_append _ _

/-- If the aliases of the project stay within a line and hold a sign of import
aliases, a client module that carries the directive begins with it and has no
other directive line, and whatever else is emitted has none. -/
theorem directiveLines_emit (choices : Choices)
    (hcomponents : '\n' ∉ choices.components ∧
      ∃ c ∈ choices.components, c ∈ Alias.signs)
    (hutils : '\n' ∉ choices.utils ∧ ∃ c ∈ choices.utils, c ∈ Alias.signs)
    (file : TemplateFile) (source : Text) :
    if choices.directive = true ∧ file.isClient = true then
      Directive.line ++ "\n\n".toList <+: file.emit choices source ∧
        Directive.directiveLines (file.emit choices source) =
          [Directive.line ++ ['\n']]
    else Directive.directiveLines (file.emit choices source) = [] := by
  have hlines := Directive.directiveLines_replace
    (.of_holds hcomponents.1 hcomponents.2)
    (.of_holds hutils.1 hutils.2) hcomponents.2 hutils.2
  rw [emit_eq_replace, hlines]
  split
  next hwanted =>
    rw [hwanted.1, hwanted.2]
    exact ⟨directive_prefix_replace hcomponents.2 hutils.2 _,
      Directive.directiveLines_apply_true _⟩
  next hunwanted =>
    have hfalse : (choices.directive && file.isClient) = false := by
      rwa [← Bool.not_eq_true, Bool.and_eq_true]
    rw [hfalse]
    exact Directive.directiveLines_remove _

/-- Two directive lines come to light when comments go, and an alias holds the
words of the directive in quotes. -/
theorem directiveLines_emit_uncovered :
    let file : TemplateFile := ⟨"form.tsx".toList, true, true⟩
    let choices : Choices :=
      ⟨"~/'use client'".toList, "#u".toList, true, [.text]⟩
    let source :=
      ("'use client' /* a */\n//split//text\n\t\"use client\" // b\n" ++
      "import \"@/components\";\n'use client'@/lib/utils\n").toList
    let emitted := ("\"use client\";\n\nimport \"~/'use client'\";\n" ++
      "'use client'#u\n").toList
    file.emit choices source = emitted ∧
      Directive.line ++ "\n\n".toList <+: emitted ∧
      Directive.directiveLines emitted = ["\"use client\";\n".toList] := by
  intro file choices source emitted
  have hemitted : file.emit choices source = emitted := by decide +kernel
  have hdirective := directiveLines_emit choices
    ⟨by decide, '~', by decide, by decide⟩ ⟨by decide,
      '#', by decide, by decide⟩
    file source
  rw [if_pos ⟨rfl, rfl⟩, hemitted] at hdirective
  exact ⟨hemitted, hdirective⟩

end TemplateFile

end FormScaffold
