import FormScaffold.Json.Value
import Mathlib.Data.List.Basic

/-!
# How tokens are spelled

A text is read as the same tokens however it is cut, as long as no token is cut.
What has been read of a token is a beginning of what the token is written as,
and a number or a word ends where something follows that cannot belong to it.
So the tokens of a text stand in it as they are written, with white space
between them, and tokens that are written so are read again.
-/

namespace FormScaffold.Json

namespace Token

def written : Token → Text
  | openBrace => ['\x7b']
  | closeBrace => ['\x7d']
  | openBracket => ['[']
  | closeBracket => [']']
  | colon => [':']
  | comma => [',']
  | null => "null".toList
  | bool true => "true".toList
  | bool false => "false".toList
  | number w => w
  | string w => '"' :: (w ++ ['"'])

/-- Only a character that cannot belong to it ends a number or a word. -/
def isScalar : Token → Bool
  | null => true
  | bool _ => true
  | number _ => true
  | _ => false

def isCloser : Token → Bool
  | closeBrace => true
  | closeBracket => true
  | _ => false

/-- What has been read of a token, as it is written. -/
def Reading.begun : Reading → Text
  | between => []
  | inString read => '"' :: read.reverse
  | escaped read => '"' :: read.reverse
  | inUnicode read _ => '"' :: read.reverse
  | inNumber read => read.reverse
  | inWord read => read.reverse

/-- What a stretch of text brings: the tokens that it completes, and what it
leaves begun. -/
def run : Reading → Text → Option (List Token × Reading)
  | r, [] => some ([], r)
  | r, c :: s => do
    let (ts, next) ← step r c
    let (rest, last) ← run next s
    return (ts ++ rest, last)

variable {r r' : Reading} {c : Char} {s : Text} {t : Token}
  {ts ts' : List Token}

theorem scanFrom_cons (h : step r c = some (ts, r')) (s : Text) :
    scanFrom r (c :: s) = (scanFrom r' s).map (ts ++ ·) := by
  rw [scanFrom, h]
  cases hrest : scanFrom r' s <;> simp [hrest]

theorem exists_of_scanFrom_cons (h : scanFrom r (c :: s) = some ts) :
    ∃ us next later, step r c = some (us, next) ∧ scanFrom next s = some later ∧
      ts = us ++ later := by
  obtain ⟨⟨us, next⟩, hstep, hrest⟩ := Option.bind_eq_some_iff.mp h
  obtain ⟨later, hlater, hout⟩ := Option.bind_eq_some_iff.mp hrest
  exact ⟨us, next, later, hstep, hlater, (Option.some.inj hout).symm⟩

theorem run_cons {us : List Token} {next : Reading}
    (hstep : step r c = some (us, next)) (hrun : run next s = some (ts, r')) :
    run r (c :: s) = some (us ++ ts, r') := by
  simp [run, hstep, hrun]

theorem exists_of_run_cons (h : run r (c :: s) = some (ts, r')) :
    ∃ us next later, step r c = some (us, next) ∧
      run next s = some (later, r') ∧ ts = us ++ later := by
  obtain ⟨⟨us, next⟩, hstep, hrest⟩ := Option.bind_eq_some_iff.mp h
  obtain ⟨⟨later, last⟩, hlater, hout⟩ := Option.bind_eq_some_iff.mp hrest
  cases hout
  exact ⟨us, next, later, hstep, hlater, rfl⟩

theorem run_append {s' : Text} {r'' : Reading} (h : run r s = some (ts, r'))
    (h' : run r' s' = some (ts', r'')) :
    run r (s ++ s') = some (ts ++ ts', r'') := by
  induction s generalizing r ts with
  | nil =>
      cases h
      exact h'
  | cons c s ih =>
      obtain ⟨us, next, later, hstep, hrun, rfl⟩ := exists_of_run_cons h
      rw [List.cons_append, run_cons hstep (ih hrun), List.append_assoc]

theorem scanFrom_append (h : run r s = some (ts, r')) (s' : Text) :
    scanFrom r (s ++ s') = (scanFrom r' s').map (ts ++ ·) := by
  induction s generalizing r ts with
  | nil =>
      cases h
      simp
  | cons c s ih =>
      obtain ⟨us, next, later, hstep, hrun, rfl⟩ := exists_of_run_cons h
      rw [List.cons_append, scanFrom_cons hstep, ih hrun, Option.map_map]
      congr 1
      funext ts
      exact (List.append_assoc us later ts).symm

/-- A text is read by reading it and ending behind it. -/
theorem exists_run_of_scanFrom (h : scanFrom r s = some ts) :
    ∃ before last behind, run r s = some (before, last) ∧
      finish last = some behind ∧ before ++ behind = ts := by
  induction s generalizing r ts with
  | nil => exact ⟨[], r, ts, rfl, h, rfl⟩
  | cons c s ih =>
      obtain ⟨us, next, later, hstep, hlater, rfl⟩ := exists_of_scanFrom_cons h
      obtain ⟨before, last, behind, hrun, hfinish, rfl⟩ := ih hlater
      exact ⟨us ++ before, last, behind, run_cons hstep hrun, hfinish,
        List.append_assoc us before behind⟩

/-! ## One character -/

/-- What a character does where this is begun. -/
inductive Advance (r : Reading) (c : Char) : List Token → Reading → Prop
  /-- It stands between tokens. -/
  | passes (hr : r = .between) (hc : isSpace c = true) : Advance r c [] .between
  /-- It belongs to a token that is not complete yet. -/
  | reads {r' : Reading} (hbegun : r'.begun = r.begun ++ [c])
      (hc : r = .between → isSpace c = false) : Advance r c [] r'
  /-- It completes a token. -/
  | completes {t : Token} (hwritten : t.written = r.begun ++ [c])
      (hc : r = .between → isSpace c = false) : Advance r c [t] .between
  /-- It stands behind a token. -/
  | ends {t : Token} {ts : List Token} {r' : Reading}
      (hfinish : finish r = some [t])
      (hnext : beginWith c = some (ts, r')) : Advance r c (t :: ts) r'

theorem eq_of_isSpace (h : isSpace c = true) :
    c = ' ' ∨ c = '\t' ∨ c = '\n' ∨ c = '\r' := by
  simpa [isSpace, or_assoc] using h

theorem written_of_ofPunctuation? (h : ofPunctuation? c = some t) :
    t.written = [c] := by
  unfold ofPunctuation? at h
  split at h <;> cases h <;> rfl

theorem written_of_ofWord? (h : ofWord? s = some t) :
    t.written = s ∧ t.isScalar = true := by
  unfold ofWord? at h
  split at h
  next hs => cases h; exact ⟨hs.symm, rfl⟩
  next =>
    split at h
    next hs => cases h; exact ⟨hs.symm, rfl⟩
    next =>
      split at h
      next hs => cases h; exact ⟨hs.symm, rfl⟩
      next => cases h

theorem eq_number_of_ofNumber? (h : ofNumber? s = some t) : t = number s := by
  unfold ofNumber? at h
  split at h <;> cases h
  rfl

/-- A character belongs to the scalar that is begun, or completes it and begins
anew. -/
theorem exists_of_scalarStep {belongs : Bool} {grown : Reading}
    {token? : Option Token} (h : (if belongs then some ([], grown) else do
      let t ← token?
      let (us, next) ← beginWith c
      return (t :: us, next)) = some (ts, r')) :
    (belongs = true ∧ ts = [] ∧ r' = grown) ∨
      ∃ t us, token? = some t ∧ beginWith c = some (us, r') ∧ ts = t :: us := by
  split at h
  next hc =>
    cases h
    exact Or.inl ⟨hc, rfl, rfl⟩
  next =>
    obtain ⟨t, ht, hrest⟩ := Option.bind_eq_some_iff.mp h
    obtain ⟨⟨us, next⟩, hnext, hout⟩ := Option.bind_eq_some_iff.mp hrest
    cases hout
    exact Or.inr ⟨t, us, ht, hnext, rfl⟩

theorem exists_of_step_inNumber {read : Text}
    (h : step (.inNumber read) c = some (ts, r')) :
    (isNumberChar c = true ∧ ts = [] ∧ r' = .inNumber (c :: read)) ∨
      ∃ t us, ofNumber? read.reverse = some t ∧ beginWith c = some (us, r') ∧
        ts = t :: us :=
  exists_of_scalarStep h

theorem exists_of_step_inWord {read : Text}
    (h : step (.inWord read) c = some (ts, r')) :
    (c.isLower = true ∧ ts = [] ∧ r' = .inWord (c :: read)) ∨
      ∃ t us, ofWord? read.reverse = some t ∧ beginWith c = some (us, r') ∧
        ts = t :: us :=
  exists_of_scalarStep h

theorem advance_of_beginWith (h : beginWith c = some (ts, r')) :
    Advance .between c ts r' := by
  unfold beginWith at h
  split at h
  next hspace =>
    cases h
    exact .passes rfl hspace
  next hspace =>
    have hc : isSpace c = false := by simpa using hspace
    split at h
    next hquote =>
      cases h
      exact .reads (by simp [Reading.begun, hquote]) fun _ => hc
    next =>
      split at h
      next =>
        cases h
        exact .reads rfl fun _ => hc
      next =>
        split at h
        next =>
          cases h
          exact .reads rfl fun _ => hc
        next =>
          obtain ⟨t, ht, hout⟩ := Option.map_eq_some_iff.mp h
          cases hout
          exact .completes (written_of_ofPunctuation? ht) fun _ => hc

/-- All that a character can do. -/
theorem advance_of_step (h : step r c = some (ts, r')) : Advance r c ts r' := by
  cases r with
  | between => exact advance_of_beginWith h
  | inString read =>
      simp only [step] at h
      split at h
      next hquote =>
        cases h
        exact .completes (by simp [written, Reading.begun, hquote]) nofun
      next =>
        split at h
        next =>
          cases h
          exact .reads (by simp [Reading.begun]) nofun
        next =>
          split at h <;> cases h
          exact .reads (by simp [Reading.begun]) nofun
  | escaped read =>
      simp only [step] at h
      split at h
      next =>
        cases h
        exact .reads (by simp [Reading.begun]) nofun
      next =>
        split at h <;> cases h
        exact .reads (by simp [Reading.begun]) nofun
  | inUnicode read missing =>
      simp only [step] at h
      split at h
      next => cases h
      next =>
        split at h <;> cases h <;> exact .reads (by simp [Reading.begun]) nofun
  | inNumber read =>
      rcases exists_of_step_inNumber h with ⟨-, rfl, rfl⟩ |
        ⟨t, us, ht, hnext, rfl⟩
      · exact .reads (by simp [Reading.begun]) nofun
      · exact .ends (by simp [finish, ht]) hnext
  | inWord read =>
      rcases exists_of_step_inWord h with ⟨-, rfl, rfl⟩ |
        ⟨t, us, ht, hnext, rfl⟩
      · exact .reads (by simp [Reading.begun]) nofun
      · exact .ends (by simp [finish, ht]) hnext

/-! ## Tokens that are read as they are written -/

/-- Written, and without white space before it, the token is read as itself. -/
structure IsSpelled (t : Token) : Prop where
  scan : scan? t.written = some [t]
  head : ∀ c ∈ t.written.head?, isSpace c = false

/-- What is begun has been read from the beginning of a token. -/
structure Reading.WellBegun (r : Reading) : Prop where
  run : run .between r.begun = some ([], r)
  head : ∀ c ∈ r.begun.head?, isSpace c = false

theorem wellBegun_between : Reading.between.WellBegun :=
  ⟨rfl, by simp [Reading.begun]⟩

theorem Reading.WellBegun.head_append (hr : r.WellBegun)
    (hc : r = .between → isSpace c = false) :
    ∀ d ∈ (r.begun ++ [c]).head?, isSpace d = false := by
  cases hbegun : r.begun with
  | nil =>
      have hrun := hr.run
      rw [hbegun] at hrun
      have hbetween : r = .between := by
        cases hrun
        rfl
      simpa using hc hbetween
  | cons d s =>
      have hhead := hr.head
      rw [hbegun] at hhead
      simpa using hhead

theorem run_singleton (h : step r c = some (ts, r')) :
    run r [c] = some (ts, r') := by
  simp [run, h]

/-- At the end, nothing is begun or a number or a word is. -/
theorem finish_eq_some (h : finish r = some ts) :
    (r = .between ∧ ts = []) ∨
      ∃ t, t.isScalar = true ∧ t.written = r.begun ∧ ts = [t] := by
  cases r with
  | between =>
      cases h
      exact Or.inl ⟨rfl, rfl⟩
  | inNumber read =>
      obtain ⟨t, ht, hout⟩ := Option.map_eq_some_iff.mp h
      cases hout
      rw [eq_number_of_ofNumber? ht]
      exact Or.inr ⟨_, rfl, rfl, rfl⟩
  | inWord read =>
      obtain ⟨t, ht, hout⟩ := Option.map_eq_some_iff.mp h
      cases hout
      obtain ⟨hwritten, hscalar⟩ := written_of_ofWord? ht
      exact Or.inr ⟨t, hscalar, hwritten, rfl⟩
  | inString | escaped | inUnicode => cases h

theorem written_of_finish (h : finish r = some [t]) : t.written = r.begun := by
  rcases finish_eq_some h with ⟨-, hnil⟩ | ⟨t', -, hwritten, hsame⟩
  · cases hnil
  · cases hsame
    exact hwritten

/-- What the end of a text completes is spelled. -/
theorem Reading.WellBegun.isSpelled_of_finish (hr : r.WellBegun)
    (hfinish : finish r = some [t]) : t.IsSpelled := by
  have hwritten := written_of_finish hfinish
  refine ⟨?_, hwritten ▸ hr.head⟩
  have happend := scanFrom_append hr.run []
  rw [List.append_nil, scanFrom, hfinish] at happend
  rw [scan?, hwritten, happend]
  rfl

theorem Reading.WellBegun.of_step (hr : r.WellBegun)
    (hstep : Token.step r c = some (ts, r'))
    (hnext : r ≠ .between → ∀ us r'', beginWith c = some (us, r'') →
      r''.WellBegun ∧ ∀ t ∈ us, t.IsSpelled) :
    r'.WellBegun ∧ ∀ t ∈ ts, t.IsSpelled := by
  have hrun := run_append hr.run (run_singleton hstep)
  cases advance_of_step hstep with
  | passes => exact ⟨wellBegun_between, nofun⟩
  | reads hbegun hc =>
      rw [← hbegun] at hrun
      exact ⟨⟨hrun, hbegun ▸ hr.head_append hc⟩, nofun⟩
  | completes hwritten hc =>
      refine ⟨wellBegun_between, ?_⟩
      rw [List.forall_mem_singleton]
      refine ⟨?_, hwritten ▸ hr.head_append hc⟩
      have happend := scanFrom_append hrun []
      rw [List.append_nil, ← hwritten] at happend
      exact happend
  | ends hfinish hbegin =>
      have hne : r ≠ .between := by
        rintro rfl
        cases hfinish
      obtain ⟨hbegun, hspelled⟩ := hnext hne _ _ hbegin
      rw [List.forall_mem_cons]
      exact ⟨hbegun, hr.isSpelled_of_finish hfinish, hspelled⟩

/-- One character leaves well begun what it begins or goes on with, and what it
completes is spelled. -/
theorem Reading.WellBegun.step (hr : r.WellBegun)
    (hstep : Token.step r c = some (ts, r')) :
    r'.WellBegun ∧ ∀ t ∈ ts, t.IsSpelled :=
  hr.of_step hstep fun _ _ _ hbegin =>
    wellBegun_between.of_step hbegin fun hne => absurd rfl hne

theorem Reading.WellBegun.isSpelled (hr : r.WellBegun)
    (hscan : scanFrom r s = some ts) :
    ∀ t ∈ ts, t.IsSpelled := by
  induction s generalizing r ts with
  | nil =>
      rcases finish_eq_some hscan with ⟨-, rfl⟩ | ⟨t, -, -, rfl⟩
      · exact nofun
      · exact List.forall_mem_singleton.mpr (hr.isSpelled_of_finish hscan)
  | cons c s ih =>
      obtain ⟨us, next, later, hstep, hlater, rfl⟩ :=
        exists_of_scanFrom_cons hscan
      obtain ⟨hnext, hspelled⟩ := hr.step hstep
      exact List.forall_mem_append.mpr ⟨hspelled, ih hnext hlater⟩

/-- The tokens of a text are spelled. -/
theorem isSpelled_of_scan? (h : scan? s = some ts) : ∀ t ∈ ts, t.IsSpelled :=
  wellBegun_between.isSpelled h

/-! ## What a token is followed by -/

/-- A number or a word ends before this character. -/
def EndsScalar (c : Char) : Prop := isNumberChar c = false ∧ c.isLower = false

/-- A scalar is ended by a character that cannot go on with it, which begins
what is next. -/
theorem scanFrom_of_finish (hfinish : finish r = some [t])
    (hs : ∀ c ∈ s.head?, EndsScalar c) :
    scanFrom r s = (scanFrom .between s).map (t :: ·) := by
  cases s with
  | nil => exact hfinish
  | cons c s =>
      obtain ⟨hnumber, hword⟩ := hs c rfl
      have hstep : step r c =
          (beginWith c).map fun out => (t :: out.1, out.2) := by
        cases r with
        | inNumber read =>
            obtain ⟨t', ht, hout⟩ := Option.map_eq_some_iff.mp hfinish
            cases hout
            simp only [step, hnumber, ht]
            cases beginWith c <;> rfl
        | inWord read =>
            obtain ⟨t', ht, hout⟩ := Option.map_eq_some_iff.mp hfinish
            cases hout
            simp only [step, hword, ht]
            cases beginWith c <;> rfl
        | between | inString | escaped | inUnicode => cases hfinish
      cases hbegin : beginWith c with
      | none =>
          have hnone : step .between c = none := hbegin
          rw [scanFrom, scanFrom, hstep, hbegin, hnone]
          rfl
      | some out =>
          rw [hbegin] at hstep
          rw [scanFrom_cons hstep, scanFrom_cons (r := .between) hbegin,
            Option.map_map]
          rfl

/-- What a spelled token is read as, in front of more. -/
theorem IsSpelled.scanFrom_append (ht : t.IsSpelled)
    (hs : t.isScalar = true → ∀ c ∈ s.head?, EndsScalar c) :
    scanFrom .between (t.written ++ s) =
      (scanFrom .between s).map (t :: ·) := by
  obtain ⟨before, last, behind, hrun, hfinish, hts⟩ :=
    exists_run_of_scanFrom ht.scan
  rw [Token.scanFrom_append hrun]
  rcases finish_eq_some hfinish with ⟨rfl, rfl⟩ | ⟨t', hscalar, -, rfl⟩
  · rw [List.append_nil] at hts
    rw [hts]
    rfl
  · obtain ⟨rfl, rfl⟩ : before = [] ∧ t' = t := by
      cases before with
      | nil => simpa using hts
      | cons _ before => cases before <;> simp at hts
    rw [scanFrom_of_finish hfinish (hs hscalar), Option.map_map]
    rfl

/-! ## What a token begins with -/

theorem toNat_of_isLower (h : c.isLower = true) :
    97 ≤ c.toNat ∧ c.toNat ≤ 122 := by
  change (decide ('a'.val ≤ c.val) && decide (c.val ≤ 'z'.val)) = true at h
  simp only [UInt32.le_iff_toNat_le, Bool.and_eq_true, decide_eq_true_eq] at h
  exact h

theorem isWhiteSpace_of_beginWith {out : List Token × Reading}
    (h : beginWith c = some out) (hc : isSpace c = false) :
    Text.isWhiteSpace c = false := by
  have hascii : 0x20 < c.toNat ∧ c.toNat < 0x80 := by
    unfold beginWith at h
    rw [if_neg (by simp [hc])] at h
    split at h
    next hquote => subst hquote; decide
    next =>
      split at h
      next hnumber =>
        simp only [Bool.or_eq_true, beq_iff_eq] at hnumber
        rcases hnumber with hdigit | rfl
        · obtain ⟨hfirst, hlast⟩ := Char.isDigit_iff_toNat.mp hdigit
          change 48 ≤ c.toNat at hfirst
          change c.toNat ≤ 57 at hlast
          omega
        · decide
      next =>
        split at h
        next hlower =>
          obtain ⟨hfirst, hlast⟩ := toNat_of_isLower hlower
          omega
        next =>
          obtain ⟨t, ht, -⟩ := Option.map_eq_some_iff.mp h
          unfold ofPunctuation? at ht
          split at ht <;> first | decide | cases ht
  simp [Text.isWhiteSpace]
  omega

/-- A token that begins with punctuation is that. -/
theorem eq_of_beginWith {u : Token}
    (hbegin : beginWith c = some ([u], .between))
    (hscan : scan? (c :: s) = some [t]) : t = u := by
  obtain ⟨us, next, later, hstep, -, hts⟩ := exists_of_scanFrom_cons hscan
  obtain rfl : us = [u] :=
    congrArg Prod.fst (Option.some.inj (hstep.symm.trans hbegin))
  exact (List.cons.inj hts).1

theorem IsSpelled.exists_head (ht : t.IsSpelled) :
    ∃ c s, t.written = c :: s ∧ Text.isWhiteSpace c = false ∧
      (t.isCloser = true ↔ c = '\x7d' ∨ c = ']') := by
  have hscan := ht.scan
  have hhead := ht.head
  cases hwritten : t.written with
  | nil =>
      rw [hwritten] at hscan
      cases hscan
  | cons c s =>
      rw [hwritten] at hscan hhead
      obtain ⟨us, next, -, hbegin, -, -⟩ := exists_of_scanFrom_cons hscan
      refine ⟨c, s, rfl, isWhiteSpace_of_beginWith hbegin (hhead c rfl), ?_⟩
      constructor
      · intro hcloser
        cases t with
        | closeBrace => exact Or.inl (List.cons.inj hwritten).1.symm
        | closeBracket => exact Or.inr (List.cons.inj hwritten).1.symm
        | _ => cases hcloser
      · rintro (rfl | rfl)
        · rw [eq_of_beginWith (u := .closeBrace) rfl hscan]
          rfl
        · rw [eq_of_beginWith (u := .closeBracket) rfl hscan]
          rfl

end Token
end FormScaffold.Json
