import FormScaffold.Proofs.Json.Decoration
import FormScaffold.Proofs.Json.Scanning
import FormScaffold.Tsconfig.Mapping

/-!
# What a decorated configuration says

What the walks leave of a decorated text is read as the tokens that it
decorates.  So a configuration says the same with comments and trailing commas
as without, and every strict text is such a text with nothing put in.
-/

namespace FormScaffold.Json

open Token

variable {c : Char} {s : Text} {t : Token} {ts : List Token} {r r' : Reading}

/-! ## Reading what is left -/

theorem endsScalar_of_isSpace (h : isSpace c = true) : EndsScalar c := by
  rcases eq_of_isSpace h with rfl | rfl | rfl | rfl <;> exact ⟨rfl, rfl⟩

theorem endsScalar_head_written (ht : t = .comma ∨ t.isCloser = true)
    (s : Text) :
    ∀ c ∈ (t.written ++ s).head?, EndsScalar c := by
  intro c hc
  cases t with
  | comma | closeBrace | closeBracket =>
      cases hc
      exact ⟨rfl, rfl⟩
  | _ => simp [isCloser] at ht

theorem scanFrom_blanks {blanks : Text}
    (hblanks : ∀ c ∈ blanks, isSpace c = true)
    (s : Text) : scanFrom .between (blanks ++ s) = scanFrom .between s := by
  induction blanks with
  | nil => rfl
  | cons c blanks ih =>
      rw [List.forall_mem_cons] at hblanks
      have hstep : step .between c = some ([], .between) := if_pos hblanks.1
      rw [List.cons_append, scanFrom_cons hstep, ih hblanks.2]
      simp

namespace Decorated

theorem isSpace_of_mem_piece_blanks (p : Piece) :
    ∀ c ∈ p.blanks, isSpace c = true := by
  intro c hc
  rcases List.mem_append.mp hc with hlead | hgap
  · exact isSpace_of_mem_blanks _ c hlead
  · exact isSpace_of_mem_blanks _ c hgap

/-- What follows a number or a word ends it. -/
theorem endsScalar_head {pieces : List Piece} (ending : List Filler)
    (hfollows : ∀ p ∈ pieces.head?, p.token = .comma ∨
      p.token.isCloser = true) :
    ∀ c ∈ (pieces.flatMap Piece.strict ++ ending.map Filler.blank).head?,
      EndsScalar c := by
  cases pieces with
  | nil =>
      intro c hc
      exact endsScalar_of_isSpace
        (isSpace_of_mem_blanks ending c (List.mem_of_mem_head? hc))
  | cons p pieces =>
      intro c hc
      rw [List.flatMap_cons, Piece.strict, List.append_assoc,
        List.append_assoc] at hc
      cases hblanks : p.blanks with
      | nil =>
          rw [hblanks, List.nil_append] at hc
          exact endsScalar_head_written (hfollows p rfl) _ c hc
      | cons d blanks =>
          rw [hblanks, List.cons_append] at hc
          cases hc
          exact endsScalar_of_isSpace
            (isSpace_of_mem_piece_blanks p c (hblanks ▸ List.mem_cons_self))

theorem scanFrom_pieces {pieces : List Piece}
    (hpieces : ∀ p ∈ pieces, p.token.IsSpelled)
    (hchain : (pieces.map Piece.token).IsChain Follows) (ending : List Filler) :
    scanFrom .between (pieces.flatMap Piece.strict ++ ending.map Filler.blank) =
      some (pieces.map Piece.token) := by
  induction pieces with
  | nil =>
      have hscan := scanFrom_blanks (isSpace_of_mem_blanks ending) []
      rwa [List.append_nil] at hscan
  | cons p pieces ih =>
      rw [List.forall_mem_cons] at hpieces
      obtain ⟨hnext, hlater⟩ := isChain_cons_tokens hchain
      rw [List.flatMap_cons, Piece.strict, List.append_assoc, List.append_assoc,
        scanFrom_blanks (isSpace_of_mem_piece_blanks p),
        hpieces.1.scanFrom_append, ih hpieces.2 hlater]
      · rfl
      · intro hscalar
        exact endsScalar_head ending fun q hq => (hnext q hq).scalar hscalar

/-- What is left of a decorated text is read as its tokens. -/
theorem scan?_strict (a : Decorated) (ha : ∀ t ∈ a.tokens, t.IsSpelled)
    (hchain : a.tokens.IsChain Follows) : scan? a.strict = some a.tokens :=
  scanFrom_pieces (fun _ hp => ha _ (List.mem_map_of_mem hp)) hchain a.ending

/-! ## Strict texts -/

theorem blank_eq_of_isPlain {fs : List Filler} (hfs : ∀ f ∈ fs, f.IsPlain) :
    fs.map Filler.blank = fs.flatMap Filler.text := by
  induction fs with
  | nil => rfl
  | cons f fs ih =>
      rw [List.forall_mem_cons] at hfs
      rw [List.map_cons, List.flatMap_cons, hfs.1.text_eq, ih hfs.2]
      rfl

theorem strict_eq_of_isPlain {p : Piece} (hp : p.IsPlain) :
    p.strict = p.text := by
  unfold Piece.strict Piece.blanks Piece.text
  simp [hp.extra, blank_eq_of_isPlain hp.lead]

theorem IsPlain.strict_eq {a : Decorated} (ha : a.IsPlain) :
    a.strict = a.text := by
  unfold strict text
  rw [ha.lastLine, blank_eq_of_isPlain ha.ending,
    List.flatMap_congr fun p hp => strict_eq_of_isPlain (ha.pieces p hp)]
  simp

/-- With more white space in front. -/
def behind (f : Filler) : Decorated → Decorated
  | ⟨[], ending, lastLine⟩ => ⟨[], f :: ending, lastLine⟩
  | ⟨p :: pieces, ending, lastLine⟩ =>
    ⟨{ p with lead := f :: p.lead } :: pieces, ending, lastLine⟩

/-- With a token in front. -/
def cons (t : Token) (a : Decorated) : Decorated :=
  { a with pieces := ⟨[], none, t, nofun⟩ :: a.pieces }

theorem text_behind (f : Filler) (a : Decorated) :
    (a.behind f).text = f.text ++ a.text := by
  obtain ⟨pieces, ending, lastLine⟩ := a
  cases pieces <;> simp [behind, text, Piece.text]

theorem tokens_behind (f : Filler) (a : Decorated) :
    (a.behind f).tokens = a.tokens := by
  obtain ⟨pieces, ending, lastLine⟩ := a
  cases pieces <;> rfl

theorem IsPlain.behind {f : Filler} {a : Decorated} (hf : f.IsPlain)
    (ha : a.IsPlain) :
    (a.behind f).IsPlain := by
  obtain ⟨pieces, ending, lastLine⟩ := a
  cases pieces with
  | nil => exact ⟨nofun, List.forall_mem_cons.mpr ⟨hf, ha.ending⟩, ha.lastLine⟩
  | cons p pieces =>
      obtain ⟨hp, hpieces⟩ := List.forall_mem_cons.mp ha.pieces
      have hlead := List.forall_mem_cons.mpr ⟨hf, hp.lead⟩
      exact ⟨List.forall_mem_cons.mpr ⟨⟨hlead, hp.extra⟩, hpieces⟩, ha.ending,
        ha.lastLine⟩

theorem text_cons (t : Token) (a : Decorated) :
    (a.cons t).text = t.written ++ a.text := by
  simp [cons, text, Piece.text]

theorem IsPlain.cons {a : Decorated} (ha : a.IsPlain) (t : Token) :
    (a.cons t).IsPlain :=
  ⟨List.forall_mem_cons.mpr ⟨⟨nofun, rfl⟩, ha.pieces⟩, ha.ending, ha.lastLine⟩

/-- This text can be told apart into these tokens and white space. -/
def Parts (s : Text) (ts : List Token) : Prop :=
  ∃ a : Decorated, a.IsPlain ∧ a.text = s ∧ a.tokens = ts

theorem parts_of_advance {us : List Token} (hadvance : Advance r c ts r')
    (hs : Parts (r'.begun ++ s) us)
    (hnext : r ≠ .between → ∀ ts', beginWith c = some (ts', r') →
      Parts (c :: s) (ts' ++ us)) :
    Parts (r.begun ++ c :: s) (ts ++ us) := by
  obtain ⟨a, ha, htext, rfl⟩ := hs
  cases hadvance with
  | passes hr hc =>
      subst hr
      refine ⟨a.behind (.space c hc), ha.behind trivial, ?_, a.tokens_behind _⟩
      rw [text_behind, htext]
      rfl
  | reads hbegun =>
      refine ⟨a, ha, ?_, rfl⟩
      rw [htext, hbegun, List.append_assoc]
      rfl
  | completes hwritten =>
      refine ⟨a.cons _, ha.cons _, ?_, rfl⟩
      rw [text_cons, htext, hwritten, List.append_assoc]
      rfl
  | @ends t _ _ hfinish hbegin =>
      have hne : r ≠ .between := by
        rintro rfl
        cases hfinish
      obtain ⟨b, hb, hbtext, hbtokens⟩ := hnext hne _ hbegin
      refine ⟨b.cons t, hb.cons t, ?_, ?_⟩
      · rw [text_cons, hbtext, written_of_finish hfinish]
      · rw [List.cons_append, ← hbtokens]
        rfl

theorem parts_of_scanFrom (h : scanFrom r s = some ts) :
    Parts (r.begun ++ s) ts := by
  induction s generalizing r ts with
  | nil =>
      have hempty : IsPlain ⟨[], [], none⟩ := ⟨nofun, nofun, rfl⟩
      rcases finish_eq_some h with ⟨rfl, rfl⟩ | ⟨t, -, -, rfl⟩
      · exact ⟨_, hempty, rfl, rfl⟩
      · refine ⟨_, hempty.cons t, ?_, rfl⟩
        rw [text_cons, written_of_finish h]
        rfl
  | cons c s ih =>
      obtain ⟨ts, next, us, hstep, hus, rfl⟩ := exists_of_scanFrom_cons h
      exact parts_of_advance (advance_of_step hstep) (ih hus) fun _ _ hbegin =>
        parts_of_advance (advance_of_beginWith hbegin) (ih hus) fun hne =>
          absurd rfl hne

end Decorated
end FormScaffold.Json

namespace FormScaffold.Tsconfig

open Json Relaxed

theorem parse?_eq_toStrict (s : Text) :
    Options.parse? s = Value.parse? (toStrict s) >>= Options.ofValue? := by
  rw [Options.parse?, toStrict?_eq_some]
  rfl

/-- A strict text is its tokens with white space between them, and is left as it
is.  However it is decorated, what is left is a strict text of the same tokens,
each as it was written, and so the configuration says the same. -/
theorem parse?_decorated (s : Text) (v : Value) (hs : Value.parse? s = some v) :
    toStrict s = s ∧
    (∃ a : Decorated, a.IsPlain ∧ a.text = s ∧ Token.scan? s = some a.tokens) ∧
    ∀ a : Decorated, Token.scan? s = some a.tokens →
      Token.scan? (toStrict a.text) = some a.tokens ∧
      Value.parse? (toStrict a.text) = some v ∧
      Options.parse? a.text = Options.parse? s ∧
      ∀ (w w' : Workspace) (config : Path),
        w.readText config = .ok a.text → w'.readText config = .ok s →
        readConfig w config = readConfig w' config := by
  obtain ⟨ts, hscan, hvalue⟩ := Option.bind_eq_some_iff.mp hs
  have hspelled := Token.isSpelled_of_scan? hscan
  have hchain := Value.isChain_of_ofTokens? hvalue
  obtain ⟨a, ha, htext, htokens⟩ : Decorated.Parts s ts :=
    Decorated.parts_of_scanFrom hscan
  have hstrict : toStrict s = s := by
    rw [← htext, a.toStrict_text (htokens ▸ hspelled) (htokens ▸ hchain),
      ha.strict_eq]
  refine ⟨hstrict, ⟨a, ha, htext, htokens ▸ hscan⟩, ?_⟩
  intro b hb
  obtain rfl : b.tokens = ts := Option.some.inj (hb.symm.trans hscan)
  have hleft : Token.scan? (toStrict b.text) = some b.tokens := by
    rw [b.toStrict_text hspelled hchain, b.scan?_strict hspelled hchain]
  have hparse : Value.parse? (toStrict b.text) = some v := by
    rw [Value.parse?, hleft]
    exact hvalue
  have hoptions : Options.parse? b.text = Options.parse? s := by
    rw [parse?_eq_toStrict, parse?_eq_toStrict, hparse, hstrict, hs]
  refine ⟨hleft, hparse, hoptions, ?_⟩
  intro w w' config hw hw'
  simp only [readConfig, hw, hw', hoptions]

/-- A configuration with comments, one of them at its end, and trailing
commas. -/
def commented : Decorated where
  pieces :=
    [⟨[.line " \x7b \"".toList (by decide), .space ' ' rfl], none, .openBrace,
      nofun⟩, ⟨[], none, .string "extends".toList, nofun⟩,
      ⟨[.block " \" ] *".toList (by decide)], none, .colon, nofun⟩,
      ⟨[], none, .openBracket, nofun⟩,
      ⟨[], none, .string "./a//b".toList, nofun⟩,
      ⟨[], none, .comma, nofun⟩,
      ⟨[.space ' ' rfl], none, .string "./*\\\",]".toList, nofun⟩,
      ⟨[.block [] (by decide)], some [.line ",".toList (by decide)],
        .closeBracket, fun _ => rfl⟩,
      ⟨[], some [], .closeBrace, fun _ => rfl⟩]
  ending := [.space '\n' rfl]
  lastLine := some ⟨" end".toList, by decide⟩

/-- String literals that look like comments and trailing commas stay. -/
theorem parse?_commented :
    let s := "\x7b\"extends\":[\"./a//b\",\"./*\\\",]\"]\x7d".toList
    (∃ v, Value.parse? s = some v) ∧
      Token.scan? s = some commented.tokens ∧
      commented.text = "// \x7b \"
 \x7b\"extends\"/* \" ] **/:[\"./a//b\", \"./*\\\",]\"/**/,//,
],\x7d
// end".toList ∧
      Options.parse? commented.text =
        some ⟨["./a//b".toList, "./*\",]".toList], none, none⟩ := by
  intro s
  have hparse : Value.parse? s = some (.object [("extends".toList,
      .array [.string "./a//b".toList, .string "./*\\\",]".toList])]) := rfl
  have hscan : Token.scan? s = some commented.tokens := by decide +kernel
  obtain ⟨-, -, hdecorated⟩ := parse?_decorated s _ hparse
  obtain ⟨-, -, hoptions, -⟩ := hdecorated commented hscan
  refine ⟨⟨_, hparse⟩, hscan, by decide +kernel, ?_⟩
  rw [hoptions]
  decide +kernel

end FormScaffold.Tsconfig
