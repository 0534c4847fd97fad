import FormScaffold.Proofs.Json.Spelling
import FormScaffold.Json.Relaxed
import Mathlib.Data.List.Chain
import Mathlib.Data.List.TakeWhile

/-!
# Decorated JSON

A text is decorated by putting comments between its tokens and a comma in front
of a closing bracket.  The first walk leaves a blank for every comment, because
it stands outside of string literals wherever the lexer stands between tokens.
The second takes just the commas that were put in, because no comma of a value
stands in front of a closing bracket.  What is left has the tokens of the text,
and a text that is not decorated is left as it is.
-/

namespace FormScaffold.Json

/-- What may stand between tokens: white space, a comment that is closed, and
one that takes the rest of its line. -/
inductive Filler where
  | space (c : Char) (isSpace : Token.isSpace c = true)
  | block (content : Text) (unclosed : ¬ "*/".toList <:+: content)
  | line (content : Text) (inLine : '\n' ∉ content)

namespace Filler

def text : Filler → Text
  | space c _ => [c]
  | block content _ => '/' :: '*' :: (content ++ ['*', '/'])
  | line content _ => '/' :: '/' :: (content ++ ['\n'])

/-- The white space that is left of it. -/
def blank : Filler → Char
  | space c _ => c
  | block _ _ => ' '
  | line _ _ => '\n'

/-- It is white space, and no comment. -/
def IsPlain : Filler → Prop
  | space _ _ => True
  | _ => False

theorem isSpace_blank (f : Filler) : Token.isSpace f.blank = true := by
  cases f with
  | space c hc => exact hc
  | block | line => rfl

theorem IsPlain.text_eq {f : Filler} (hf : f.IsPlain) : f.text = [f.blank] := by
  cases f with
  | space => rfl
  | block | line => exact hf.elim

end Filler

/-- A token with what stands in front of it.  In front of a closing bracket
there may be a comma, and more behind that. -/
structure Piece where
  lead : List Filler
  extra : Option (List Filler)
  token : Token
  closes : extra.isSome = true → token.isCloser = true

namespace Piece

def text (p : Piece) : Text :=
  p.lead.flatMap Filler.text ++
    (match p.extra with
      | some gap => ',' :: gap.flatMap Filler.text
      | none => []) ++ p.token.written

def uncommented (p : Piece) : Text :=
  p.lead.map Filler.blank ++
    (match p.extra with
      | some gap => ',' :: gap.map Filler.blank
      | none => []) ++ p.token.written

/-- The white space that is left in front of the token. -/
def blanks (p : Piece) : Text :=
  p.lead.map Filler.blank ++ (p.extra.getD []).map Filler.blank

def strict (p : Piece) : Text := p.blanks ++ p.token.written

structure IsPlain (p : Piece) : Prop where
  lead : ∀ f ∈ p.lead, f.IsPlain
  extra : p.extra = none

end Piece

/-- A decorated text.  The text may end in a comment that no line feed ends. -/
structure Decorated where
  pieces : List Piece
  ending : List Filler
  lastLine : Option {content : Text // '\n' ∉ content}

namespace Decorated

def tokens (a : Decorated) : List Token := a.pieces.map Piece.token

def text (a : Decorated) : Text :=
  a.pieces.flatMap Piece.text ++ a.ending.flatMap Filler.text ++
    (match a.lastLine with
      | some content => '/' :: '/' :: content.1
      | none => [])

def uncommented (a : Decorated) : Text :=
  a.pieces.flatMap Piece.uncommented ++ a.ending.map Filler.blank

def strict (a : Decorated) : Text :=
  a.pieces.flatMap Piece.strict ++ a.ending.map Filler.blank

/-- There is nothing but tokens and white space. -/
structure IsPlain (a : Decorated) : Prop where
  pieces : ∀ p ∈ a.pieces, p.IsPlain
  ending : ∀ f ∈ a.ending, f.IsPlain
  lastLine : a.lastLine = none

end Decorated

/-! ## Walks and the lexer -/

namespace Relaxed

variable {skip? : Text → Option (Text × Text)} {place : Place} {c : Char}
  {s x written rest : Text} {r r' : Token.Reading} {t : Token} {ts : List Token}

/-- Where a walk stands that has read as much as the lexer. -/
def placeOf : Token.Reading → Place
  | .inString _ => .inString
  | .inUnicode _ _ => .inString
  | .escaped _ => .escaped
  | _ => .outside

theorem next_placeOf_between (h : Token.beginWith c = some (ts, r')) :
    Place.outside.next c = placeOf r' := by
  unfold Token.beginWith at h
  simp only [Place.next]
  split at h
  next hspace =>
    cases h
    rcases Token.eq_of_isSpace hspace with rfl | rfl | rfl | rfl <;> rfl
  next =>
    split at h
    next hquote =>
      cases h
      rw [if_pos hquote]
      rfl
    next hquote =>
      rw [if_neg hquote]
      split at h
      next => cases h; rfl
      next =>
        split at h
        next => cases h; rfl
        next =>
          obtain ⟨t, -, hout⟩ := Option.map_eq_some_iff.mp h
          cases hout
          rfl

theorem next_of_ne_quote (hc : c ≠ '"') : Place.outside.next c = .outside := by
  simp [Place.next, hc]

/-- A walk keeps step with the lexer.  It knows nothing of hexadecimal digits,
but none of them is a quote or a backslash. -/
theorem next_placeOf (h : Token.step r c = some (ts, r')) :
    (placeOf r).next c = placeOf r' := by
  cases r with
  | between => exact next_placeOf_between h
  | inString read =>
      simp only [Token.step] at h
      simp only [placeOf, Place.next]
      split at h
      next hquote => cases h; subst hquote; rfl
      next hquote =>
        rw [if_neg hquote]
        split at h
        next hescape => cases h; rw [if_pos hescape]
        next hescape =>
          rw [if_neg hescape]
          split at h <;> cases h
          rfl
  | escaped read =>
      simp only [Token.step] at h
      split at h
      next => cases h; rfl
      next => split at h <;> cases h; rfl
  | inUnicode read missing =>
      simp only [Token.step] at h
      split at h
      next => cases h
      next hhex =>
        have hplain : Place.inString.next c = .inString := by
          have hescape : c ≠ '\\' := by
            rintro rfl
            exact hhex rfl
          have hquote : c ≠ '"' := by
            rintro rfl
            exact hhex rfl
          simp [Place.next, hescape, hquote]
        split at h <;> cases h <;> exact hplain
  | inNumber read =>
      rcases Token.exists_of_step_inNumber h with ⟨hc, -, rfl⟩ |
        ⟨t, us, -, hnext, -⟩
      · apply next_of_ne_quote
        rintro rfl
        cases hc
      · exact next_placeOf_between hnext
  | inWord read =>
      rcases Token.exists_of_step_inWord h with ⟨hc, -, rfl⟩ |
        ⟨t, us, -, hnext, -⟩
      · apply next_of_ne_quote
        rintro rfl
        cases hc
      · exact next_placeOf_between hnext

/-- What the lexer reads is copied, if nothing is skipped of it. -/
theorem copy_append_of_run {P : Token → Prop}
    (hkeep : ∀ r c us r', placeOf r = .outside →
      Token.step r c = some (us, r') →
      (∀ t ∈ us, P t) → ∀ s, skip? (c :: s) = none)
    (hrun : Token.run r x = some (ts, r')) (hts : ∀ t ∈ ts, P t) (s : Text) :
    copy skip? (placeOf r) (x ++ s) = x ++ copy skip? (placeOf r') s := by
  induction x generalizing r ts with
  | nil =>
      cases hrun
      rfl
  | cons c x ih =>
      obtain ⟨us, next, later, hstep, hlater, rfl⟩ :=
        Token.exists_of_run_cons hrun
      rw [List.forall_mem_append] at hts
      rw [List.cons_append, copy_cons fun hplace =>
        hkeep r c _ _ hplace hstep hts.1 _,
        next_placeOf hstep, ih hlater hts.2, List.cons_append]

theorem placeOf_of_finish (h : Token.finish r = some ts) :
    placeOf r = .outside := by
  cases r with
  | between | inNumber | inWord => rfl
  | inString | escaped | inUnicode => cases h

/-- A walk copies a token as it is written.  A number or a word is complete only
at its end, but the walk stands outside there. -/
theorem copy_written {P : Token → Prop}
    (hkeep : ∀ r c us r', placeOf r = .outside →
      Token.step r c = some (us, r') →
      (∀ t ∈ us, P t) → ∀ s, skip? (c :: s) = none)
    (ht : t.IsSpelled) (hP : P t) (s : Text) :
    copy skip? .outside (t.written ++ s) =
      t.written ++ copy skip? .outside s := by
  obtain ⟨before, last, behind, hrun, hfinish, hts⟩ :=
    Token.exists_run_of_scanFrom ht.scan
  have hbefore : ∀ u ∈ before, P u := by
    intro u hu
    have hmem : u ∈ [t] := by
      rw [← hts]
      exact List.mem_append_left _ hu
    rw [List.mem_singleton.mp hmem]
    exact hP
  have hcopy := copy_append_of_run hkeep hrun hbefore s
  rwa [placeOf_of_finish hfinish] at hcopy

/-! ## The first walk -/

/-- The lexer meets a slash only in string literals. -/
theorem comment?_of_step (hplace : placeOf r = .outside)
    (h : Token.step r c = some (ts, r')) (s : Text) :
    comment? (c :: s) = none := by
  apply comment?_eq_none
  rintro rfl
  cases r with
  | between => cases h
  | inNumber read | inWord read =>
      obtain ⟨t, -, hrest⟩ := Option.bind_eq_some_iff.mp h
      cases hrest
  | inString | escaped | inUnicode => cases hplace

theorem dropWhile_append_of_not_mem {content : Text} (h : '\n' ∉ content)
    (s : Text) :
    (content ++ s).dropWhile (fun c => c != '\n') =
      s.dropWhile (fun c => c != '\n') := by
  apply List.dropWhile_append_of_pos
  intro c hc
  have hne : c ≠ '\n' := by
    rintro rfl
    exact h hc
  simpa using hne

theorem copy_filler (f : Filler) (s : Text) :
    copy comment? .outside (f.text ++ s) =
      f.blank :: copy comment? .outside s := by
  cases f with
  | space c hspace =>
      have hslash : c ≠ '/' := by
        rintro rfl
        cases hspace
      have hquote : c ≠ '"' := by
        rintro rfl
        cases hspace
      rw [Filler.text, List.singleton_append,
        copy_cons fun _ => comment?_eq_none hslash s, next_of_ne_quote hquote]
      rfl
  | block content hopen =>
      have hcomment : comment? (Filler.text (.block content hopen) ++ s) =
          some ([' '], s) := by
        simp [Filler.text, comment?, afterClose_append hopen]
      exact copy_of_some hcomment (by simp; omega)
  | line content hline =>
      have hcomment : comment? (Filler.text (.line content hline) ++ s) =
          some ([], '\n' :: s) := by
        simp [Filler.text, comment?, dropWhile_append_of_not_mem hline]
      rw [Filler.text] at hcomment ⊢
      rw [List.cons_append] at hcomment ⊢
      rw [copy_of_some hcomment (by simp; omega),
        copy_cons fun _ => comment?_eq_none (by decide) s]
      rfl

theorem copy_fillers (fs : List Filler) (s : Text) :
    copy comment? .outside (fs.flatMap Filler.text ++ s) =
      fs.map Filler.blank ++ copy comment? .outside s := by
  induction fs with
  | nil => rfl
  | cons f fs ih =>
      rw [List.flatMap_cons, List.append_assoc, copy_filler, ih]; rfl

theorem copy_piece (p : Piece) (hp : p.token.IsSpelled) (s : Text) :
    copy comment? .outside (p.text ++ s) =
      p.uncommented ++ copy comment? .outside s := by
  have htoken := copy_written (P := fun _ => True)
    (fun r c us r' hplace hstep _ => comment?_of_step hplace hstep) hp trivial s
  unfold Piece.text Piece.uncommented
  rw [List.append_assoc, List.append_assoc, copy_fillers]
  cases p.extra with
  | none => simp [htoken]
  | some gap =>
      simp only [List.cons_append, List.append_assoc]
      rw [copy_cons fun _ => comment?_eq_none (by decide) _,
        next_of_ne_quote (by decide), copy_fillers, htoken]

/-- The first walk takes the comments, of which only the last may end with the
text. -/
theorem copy_comments (a : Decorated) (ha : ∀ t ∈ a.tokens, t.IsSpelled) :
    copy comment? .outside a.text = a.uncommented := by
  obtain ⟨pieces, ending, lastLine⟩ := a
  unfold Decorated.text Decorated.uncommented
  induction pieces with
  | nil =>
      rw [List.flatMap_nil, List.nil_append, copy_fillers]
      cases lastLine with
      | none => simp [copy_nil]
      | some content =>
          have hcomment : comment? ('/' :: '/' :: content.1) =
              some ([], []) := by
            have hall := dropWhile_append_of_not_mem content.2 []
            simp only [List.append_nil, List.dropWhile_nil] at hall
            simp [comment?, hall]
          simp only
          rw [copy_of_some hcomment (by simp), copy_nil]
          simp
  | cons p pieces ih =>
      have hhead : p.token.IsSpelled := ha _ (by simp [Decorated.tokens])
      have htail := ih fun t ht => ha t (List.mem_cons_of_mem _ ht)
      simp only [List.flatMap_cons, List.append_assoc] at htail ⊢
      rw [copy_piece p hhead, htail]

/-! ## The second walk -/

/-- Outside of string literals the lexer meets a comma only as a token. -/
theorem trailingComma?_of_step (hplace : placeOf r = .outside)
    (h : Token.step r c = some (ts, r')) (hts : ∀ t ∈ ts, t ≠ .comma)
    (s : Text) :
    trailingComma? (c :: s) = none := by
  apply trailingComma?_eq_none
  rintro rfl
  cases r with
  | between =>
      cases h
      simp at hts
  | inNumber read | inWord read =>
      obtain ⟨t, -, hrest⟩ := Option.bind_eq_some_iff.mp h
      cases hrest
      simp at hts
  | inString | escaped | inUnicode => cases hplace

theorem isWhiteSpace_of_isSpace (h : Token.isSpace c = true) :
    Text.isWhiteSpace c = true := by
  rcases Token.eq_of_isSpace h with rfl | rfl | rfl | rfl <;> rfl

theorem copy_blanks {blanks : Text}
    (hblanks : ∀ c ∈ blanks, Token.isSpace c = true)
    (s : Text) : copy trailingComma? .outside (blanks ++ s) =
      blanks ++ copy trailingComma? .outside s := by
  induction blanks with
  | nil => rfl
  | cons c blanks ih =>
      rw [List.forall_mem_cons] at hblanks
      have hcomma : c ≠ ',' := by
        rintro rfl
        cases hblanks.1
      have hquote : c ≠ '"' := by
        rintro rfl
        cases hblanks.1
      rw [List.cons_append, copy_cons fun _ => trailingComma?_eq_none hcomma _,
        next_of_ne_quote hquote, ih hblanks.2]
      rfl

/-- Behind a comma and blanks, this token decides whether the comma is taken. -/
theorem trailingComma?_token {blanks : Text} (ht : t.IsSpelled)
    (hblanks : ∀ c ∈ blanks, Token.isSpace c = true) (s : Text) :
    trailingComma? (',' :: (blanks ++ (t.written ++ s))) =
      if t.isCloser then some ([], blanks ++ (t.written ++ s)) else none := by
  obtain ⟨c, w, hwritten, hsolid, hcloser⟩ := ht.exists_head
  have htrim : Text.trimStart (blanks ++ (t.written ++ s)) =
      t.written ++ s := by
    unfold Text.trimStart
    rw [List.dropWhile_append_of_pos fun c hc =>
      isWhiteSpace_of_isSpace (hblanks c hc),
      hwritten, List.cons_append, List.dropWhile_cons_of_neg (by simp [hsolid])]
  simp only [trailingComma?, htrim]
  simp only [hwritten, List.cons_append, hcloser]

theorem copy_solid (ht : t.IsSpelled) (hcomma : t ≠ .comma) (s : Text) :
    copy trailingComma? .outside (t.written ++ s) =
      t.written ++ copy trailingComma? .outside s :=
  copy_written (fun _ _ _ _ hplace hstep hus =>
    trailingComma?_of_step hplace hstep hus) ht hcomma s

end Relaxed

/-! ## What follows what -/

namespace Token

/-- In a value, a number or a word is followed by a comma or a closing bracket,
and a comma is not followed by a closing bracket. -/
structure Follows (t u : Token) : Prop where
  scalar : t.isScalar = true → u = .comma ∨ u.isCloser = true
  comma : t = .comma → u.isCloser = false

end Token

namespace Value.State

variable {st st' st'' : State} {t u : Token}

theorem exists_after_of_beginValue {stack : List Frame} (ht : t.isScalar = true)
    (h : beginValue stack t = some st') : ∃ v, st' = .after v stack := by
  cases t with
  | null | bool | number =>
      cases h
      exact ⟨_, rfl⟩
  | _ => cases ht

theorem exists_after_of_scalar (ht : t.isScalar = true)
    (h : step st t = some st') :
    ∃ v stack, st' = .after v stack := by
  unfold step at h
  split at h
  next =>
    obtain ⟨v, hv⟩ := exists_after_of_beginValue ht h
    exact ⟨v, _, hv⟩
  next => cases ht
  next =>
    obtain ⟨v, hv⟩ := exists_after_of_beginValue ht h
    exact ⟨v, _, hv⟩
  all_goals first | cases ht | cases h

/-- Where a comma stood, a value or a key must come. -/
theorem closer_of_comma (h : step st .comma = some st')
    (hu : u.isCloser = true) :
    step st' u = none := by
  cases st with
  | after v stack =>
      cases stack with
      | nil => cases h
      | cons frame stack =>
          cases frame <;> cases h <;> cases u <;> first | rfl | cases hu
  | value | firstItem | firstKey | key | colon => cases h

theorem follows_of_step (h : step st t = some st')
    (h' : step st' u = some st'') :
    t.Follows u := by
  constructor
  · intro ht
    obtain ⟨v, stack, rfl⟩ := exists_after_of_scalar ht h
    unfold step at h'
    split at h' <;> simp_all [Token.isCloser]
  · rintro rfl
    by_contra hu
    rw [closer_of_comma h (by simpa using hu)] at h'
    cases h'

theorem isChain_of_foldlM {ts : List Token} (h : ts.foldlM step st = some st') :
    ts.IsChain Token.Follows := by
  induction ts generalizing st with
  | nil => exact .nil
  | cons t ts ih =>
      obtain ⟨next, hstep, hrest⟩ := Option.bind_eq_some_iff.mp h
      cases ts with
      | nil => exact .singleton t
      | cons u ts =>
          obtain ⟨next', hstep', -⟩ := Option.bind_eq_some_iff.mp hrest
          exact .cons_cons (follows_of_step hstep hstep') (ih hrest)

end Value.State

theorem Value.isChain_of_ofTokens? {ts : List Token} {v : Value}
    (h : Value.ofTokens? ts = some v) : ts.IsChain Token.Follows := by
  obtain ⟨st, hst, -⟩ := Option.bind_eq_some_iff.mp h
  exact State.isChain_of_foldlM hst

/-! ## What is left -/

namespace Decorated

open Relaxed

theorem isSpace_of_mem_blanks (fs : List Filler) :
    ∀ c ∈ fs.map Filler.blank, Token.isSpace c = true := by
  intro c hc
  obtain ⟨f, -, rfl⟩ := List.mem_map.mp hc
  exact f.isSpace_blank

theorem extra_eq_none {p : Piece} (hp : p.token.isCloser = false) :
    p.extra = none := by
  cases hextra : p.extra with
  | none => rfl
  | some gap =>
      have hcloser := p.closes (by simp [hextra])
      rw [hp] at hcloser
      cases hcloser

/-- A comma of the value itself is kept. -/
theorem copy_comma {pieces : List Piece}
    (hpieces : ∀ p ∈ pieces, p.token.IsSpelled)
    (hfollows : ∀ p ∈ pieces.head?, p.token.isCloser = false)
    (ending : List Filler) :
    trailingComma? (',' :: (pieces.flatMap Piece.uncommented ++
      ending.map Filler.blank)) = none := by
  cases pieces with
  | nil =>
      have htrim : Text.trimStart (ending.map Filler.blank) = [] := by
        unfold Text.trimStart
        rw [List.dropWhile_eq_nil_iff]
        exact fun c hc => isWhiteSpace_of_isSpace
          (isSpace_of_mem_blanks ending c hc)
      simp [trailingComma?, htrim]
  | cons p pieces =>
      have hopen := hfollows p rfl
      have htoken := trailingComma?_token (hpieces p List.mem_cons_self)
        (isSpace_of_mem_blanks p.lead)
        (pieces.flatMap Piece.uncommented ++ ending.map Filler.blank)
      rw [if_neg (by simp [hopen])] at htoken
      simpa [Piece.uncommented, extra_eq_none hopen] using htoken

theorem copy_uncommented_piece {p : Piece} {s : Text} (hp : p.token.IsSpelled)
    (hcomma : p.token = .comma → trailingComma? (',' :: s) = none) :
    copy trailingComma? .outside (p.uncommented ++ s) =
      p.strict ++ copy trailingComma? .outside s := by
  have htoken : copy trailingComma? .outside (p.token.written ++ s) =
      p.token.written ++ copy trailingComma? .outside s := by
    by_cases h : p.token = .comma
    · rw [h]
      exact copy_cons fun _ => hcomma h
    · exact copy_solid hp h s
  unfold Piece.uncommented Piece.strict Piece.blanks
  rw [List.append_assoc, List.append_assoc,
    copy_blanks (isSpace_of_mem_blanks p.lead)]
  cases hextra : p.extra with
  | none => simp [htoken]
  | some gap =>
      have hcloser := p.closes (by simp [hextra])
      have hskip := trailingComma?_token hp (isSpace_of_mem_blanks gap) s
      rw [if_pos hcloser] at hskip
      simp only [List.cons_append, List.append_assoc, Option.getD_some]
      rw [copy_of_some hskip (by simp), copy_blanks (isSpace_of_mem_blanks gap),
        htoken]
      rfl

theorem isChain_cons_tokens {p : Piece} {pieces : List Piece}
    (hchain : ((p :: pieces).map Piece.token).IsChain Token.Follows) :
    (∀ q ∈ pieces.head?, Token.Follows p.token q.token) ∧
      (pieces.map Piece.token).IsChain Token.Follows := by
  rw [List.map_cons, List.isChain_cons] at hchain
  refine ⟨fun q hq => hchain.1 q.token ?_, hchain.2⟩
  rw [List.head?_map, Option.mem_def.mp hq]
  rfl

theorem copy_uncommented {pieces : List Piece}
    (hpieces : ∀ p ∈ pieces, p.token.IsSpelled)
    (hchain : (pieces.map Piece.token).IsChain Token.Follows)
    (ending : List Filler) :
    copy trailingComma? .outside
        (pieces.flatMap Piece.uncommented ++ ending.map Filler.blank) =
      pieces.flatMap Piece.strict ++ ending.map Filler.blank := by
  induction pieces with
  | nil =>
      have hcopy := copy_blanks (isSpace_of_mem_blanks ending) []
      rwa [copy_nil, List.append_nil] at hcopy
  | cons p pieces ih =>
      rw [List.forall_mem_cons] at hpieces
      obtain ⟨hnext, hlater⟩ := isChain_cons_tokens hchain
      rw [List.flatMap_cons, List.append_assoc,
        copy_uncommented_piece hpieces.1, ih hpieces.2 hlater,
        List.flatMap_cons, List.append_assoc]
      intro hp
      exact copy_comma hpieces.2 (fun q hq => (hnext q hq).comma hp) ending

/-- The second walk takes the commas that were put in. -/
theorem toStrict_text (a : Decorated) (ha : ∀ t ∈ a.tokens, t.IsSpelled)
    (hchain : a.tokens.IsChain Token.Follows) : toStrict a.text = a.strict := by
  unfold toStrict
  rw [copy_comments a ha]
  exact copy_uncommented (fun p hp => ha _ (List.mem_map_of_mem hp)) hchain
    a.ending

end Decorated

end FormScaffold.Json
