import FormScaffold.Source
import Mathlib.Data.List.Basic

/-!
# Addresses of files

The address of a file is its base URL with one more segment.  A plain name is
written there as it is, because none of its characters is escaped and only dots
alone are read as steps.  What is written around the path stays, and a slash at
the end of the path stands for the one before the new segment.
-/

namespace FormScaffold.Url

variable {c : Char} {name s : Text} {escaped : EscapeSet}

/-! ## Plain names -/

def isPlainChar (c : Char) : Bool := c.isAlphanum || ['-', '_', '.'].contains c

/-- Whether a name is of plain characters and does not stand for a directory. -/
structure IsPlainName (name : Text) : Prop where
  nonempty : name ≠ []
  chars : ∀ c ∈ name, isPlainChar c = true
  ne_here : name ≠ ['.']
  ne_up : name ≠ "..".toList

instance : DecidablePred IsPlainName := fun name =>
  letI : Decidable (∀ c ∈ name, isPlainChar c = true) :=
    List.decidableBAll _ name
  decidable_of_iff
    (name ≠ [] ∧ (∀ c ∈ name, isPlainChar c = true) ∧ name ≠ ['.'] ∧
      name ≠ "..".toList)
    ⟨fun ⟨hne, hchars, hhere, hup⟩ => ⟨hne, hchars, hhere, hup⟩,
      fun ⟨hne, hchars, hhere, hup⟩ => ⟨hne, hchars, hhere, hup⟩⟩

theorem toNat_of_isPlainChar (hc : isPlainChar c = true) :
    0x20 ≤ c.toNat ∧ c.toNat < 0x7F := by
  rcases Bool.or_eq_true_iff.mp hc with hletter | hsign
  · have hrange := Text.toNat_of_isAlphanum hletter
    omega
  · simp only [List.contains_iff_mem, List.mem_cons, List.not_mem_nil,
      or_false] at hsign
    rcases hsign with rfl | rfl | rfl
    all_goals decide

theorem isVoid_of_isPlainChar (hc : isPlainChar c = true) :
    isVoid c = false := by
  have hvoid : c ∉ ['\t', '\n', '\r'] := Text.not_mem_of_all_not hc (by decide)
  simpa [isVoid, and_assoc] using hvoid

theorem contains_of_isPlainChar (special : Bool) (hc : isPlainChar c = true) :
    (EscapeSet.segment special).contains c = false := by
  have hrange := toNat_of_isPlainChar hc
  have hsigns : c ∉ (EscapeSet.segment special).escaped := by
    apply Text.not_mem_of_all_not hc
    cases special <;> decide
  unfold EscapeSet.contains
  rw [List.contains_eq_mem, decide_eq_false hsigns, Bool.or_false,
    Bool.or_eq_false_iff, decide_eq_false_iff_not, decide_eq_false_iff_not]
  omega

theorem withoutVoids_eq_self (hs : ∀ c ∈ s, isVoid c = false) :
    withoutVoids s = s := by
  unfold withoutVoids
  rw [List.filter_eq_self]
  intro c hc
  rw [hs c hc]
  rfl

theorem escape_eq_self (hs : ∀ c ∈ s, escaped.contains c = false) :
    escape escaped s = s := by
  induction s with
  | nil => rfl
  | cons c s ih =>
      rw [List.forall_mem_cons] at hs
      have hrest := ih hs.2
      unfold escape at hrest ⊢
      rw [List.flatMap_cons, hrest, hs.1]
      rfl

theorem eq_of_toLower_eq {d : Char} (hd : d.isLower = false)
    (h : c.toLower = d) :
    c = d := by
  unfold Char.toLower at h
  split at h
  next hupper =>
    have hlower : d.isLower = true := by
      rw [← h]
      change (decide ('a'.val ≤ c.val + 32) && decide (c.val + 32 ≤ 'z'.val)) =
        true
      have hvalues : 'A'.val.toNat = 65 ∧ 'Z'.val.toNat = 90 ∧
          'a'.val.toNat = 97 ∧
          'z'.val.toNat = 122 ∧ (32 : UInt32).toNat = 32 :=
            ⟨rfl, rfl, rfl, rfl, rfl⟩
      simp only [ge_iff_le, UInt32.le_iff_toNat_le] at hupper
      simp only [Bool.and_eq_true, decide_eq_true_eq, UInt32.le_iff_toNat_le,
        UInt32.toNat_add]
      omega
    rw [hd] at hlower
    cases hlower
  next => exact h

theorem map_toLower_ne_of_percent {d : Text} (hs : '%' ∉ s) (hd : '%' ∈ d) :
    s.map Char.toLower ≠ d := by
  rintro rfl
  obtain ⟨c, hc, hpercent⟩ := List.mem_map.mp hd
  rw [eq_of_toLower_eq (by decide) hpercent] at hc
  exact hs hc

theorem map_toLower_ne_up (hs : s ≠ "..".toList) :
    s.map Char.toLower ≠ "..".toList := by
  intro hup
  obtain ⟨c, t, rfl, hc, ht⟩ := List.map_eq_cons_iff.mp hup
  obtain ⟨d, t, rfl, hd, ht⟩ := List.map_eq_cons_iff.mp ht
  obtain rfl := List.map_eq_nil_iff.mp ht
  rw [eq_of_toLower_eq (by decide) hc, eq_of_toLower_eq (by decide) hd] at hs
  exact hs rfl

namespace IsPlainName

theorem percent_not_mem (hname : IsPlainName name) : '%' ∉ name := by
  intro hmem
  have hplain := hname.chars '%' hmem
  cases hplain

theorem isDot_eq_false (hname : IsPlainName name) : isDot name = false := by
  have hescaped : name.map Char.toLower ≠ "%2e".toList :=
    map_toLower_ne_of_percent hname.percent_not_mem (by decide)
  simpa [isDot] using ⟨hname.ne_here, hescaped⟩

theorem isDoubleDot_eq_false (hname : IsPlainName name) :
    isDoubleDot name = false := by
  unfold isDoubleDot
  rw [List.any_eq_false]
  intro d hd
  rw [beq_iff_eq]
  rcases List.mem_cons.mp hd with rfl | hescaped
  · exact map_toLower_ne_up hname.ne_up
  · apply map_toLower_ne_of_percent hname.percent_not_mem
    revert d
    decide

/-- A plain name is read as one segment, and kept as it is: only the first
segment can be a drive. -/
theorem enter_eq (hname : IsPlainName name) (kind : SchemeKind)
    (special last : Bool) {t : Trail} (ht : t.read ≠ []) :
    t.enter kind (.segment special) last name =
      { t with read := name :: t.read } := by
  have hvoids : withoutVoids name = name :=
    withoutVoids_eq_self fun c hc => isVoid_of_isPlainChar (hname.chars c hc)
  have hescape : escape (.segment special) name = name :=
    escape_eq_self fun c hc =>
      contains_of_isPlainChar special (hname.chars c hc)
  have hdrive : (kind == .file && t.read.isEmpty) = false := by
    simp [ht]
  unfold Trail.enter
  simp only [hvoids, hescape, hdrive, hname.isDot_eq_false,
    hname.isDoubleDot_eq_false]
  rfl

end IsPlainName

/-! ## The path and what is written around it -/

namespace UrlPath

/-- The path with one more slash at its end. -/
def withSlash : UrlPath → UrlPath
  | plain s => plain (s ++ ['/'])
  | segments list => segments (list ++ [[]])

theorem toText_withSlash (p : UrlPath) :
    p.withSlash.toText = p.toText ++ ['/'] := by
  cases p <;> simp [withSlash, toText]

theorem toText_concat (list : List Text) (s : Text) :
    (segments (list ++ [s])).toText = (segments list).toText ++ '/' :: s := by
  simp [toText]

end UrlPath

def withSlash (u : Url) : Url := { u with path := u.path.withSlash }

/-- What is written before the path: the scheme and the authority. -/
def front (u : Url) : Text :=
  u.scheme ++ [':'] ++
  (match u.authority? with
    | some a => "//".toList ++ a.toText
    | none => []) ++
  (if u.isSetOff then "/.".toList else [])

/-- What is written behind the path: the query and the fragment. -/
def rear (u : Url) : Text :=
  (match u.query? with
    | some q => '?' :: q
    | none => []) ++
  (match u.fragment? with
    | some f => '#' :: f
    | none => [])

theorem toText_eq (u : Url) :
    u.toText = u.front ++ u.path.toText ++ u.rear := by
  obtain ⟨scheme, authority?, isSetOff, path, query?, fragment?⟩ := u
  cases authority? <;> cases query? <;> cases fragment? <;>
    simp [toText, front, rear]

theorem toText_withPath (u : Url) (p : UrlPath) :
    toText { u with path := p } = u.front ++ p.toText ++ u.rear :=
  toText_eq _

/-! ## One more segment -/

variable {u : Url} {before list base : List Text} {last : Text}

theorem dropEmptyLast_concat (hlast : last ≠ []) :
    dropEmptyLast (before ++ [last]) = before ++ [last] := by
  unfold dropEmptyLast
  rw [if_neg]
  rintro ⟨-, hempty⟩
  rw [List.getLast?_concat, Option.some.injEq] at hempty
  exact hlast hempty

theorem dropEmptyLast_concat_empty (hne : list ≠ []) :
    dropEmptyLast (list ++ [[]]) = list := by
  have hlength := List.length_pos_of_ne_nil hne
  have hlong : (list ++ [[]]).length > 1 := by
    rw [List.length_append, List.length_singleton]
    omega
  unfold dropEmptyLast
  rw [if_pos ⟨hlong, List.getLast?_concat⟩, List.dropLast_concat]

theorem read_trail (hbase : base ≠ [[]]) :
    (trail base).read = base.reverse := by
  unfold trail
  rw [if_neg hbase]

theorem append?_of_dropEmptyLast (hpath : u.path = .segments list)
    (hbase : dropEmptyLast list = before ++ [last]) (hlast : last ≠ [])
    (hname : IsPlainName name) :
    u.append? name = some { u with
      path := .segments (before ++ [last] ++ [name]) } := by
  have hread : (trail (before ++ [last])).read =
      (before ++ [last]).reverse := by
    apply read_trail
    intro hroot
    rw [List.append_eq_singleton_iff] at hroot
    simp [hlast] at hroot
  have hstep : ¬ (name = ['.'] ∨ name = "..".toList) :=
    not_or.mpr ⟨hname.ne_here, hname.ne_up⟩
  unfold append?
  rw [hpath]
  simp only [hbase]
  rw [if_neg hstep, hname.enter_eq _ _ _ (by simp [hread])]
  simp [Trail.segments, hread]

theorem append?_concat (hpath : u.path = .segments (before ++ [last]))
    (hlast : last ≠ []) (hname : IsPlainName name) :
    u.append? name = some { u with
      path := .segments (before ++ [last] ++ [name]) } :=
  append?_of_dropEmptyLast hpath (dropEmptyLast_concat hlast) hlast hname

theorem append?_withSlash (hpath : u.path = .segments (before ++ [last]))
    (hlast : last ≠ []) (hname : IsPlainName name) :
    u.withSlash.append? name = u.append? name := by
  have hslash : u.withSlash.path = .segments (before ++ [last] ++ [[]]) := by
    unfold withSlash
    rw [hpath]
    rfl
  have hbase : dropEmptyLast (before ++ [last] ++ [[]]) = before ++ [last] :=
    dropEmptyLast_concat_empty (by simp)
  rw [append?_concat hpath hlast hname,
    append?_of_dropEmptyLast hslash hbase hlast hname]
  rfl

/-- Below a URL whose path does not end in a slash, a file with a plain name has
the address with one more slash and the name at the end of the path.  The rest
of the URL stays, and a slash that already stands there is used.  So files with
different names have different addresses.  A URL without segments has no files
below it, which is said of the file that was asked for. -/
theorem append?_one_segment (w : Workspace) (u : Url) :
    (∀ before last, u.path = .segments (before ++ [last]) → last ≠ [] →
      ∀ name, IsPlainName name →
        (∃ url, u.append? name = some url ∧
          url.scheme = u.scheme ∧ url.authority? = u.authority? ∧
          url.query? = u.query? ∧ url.fragment? = u.fragment? ∧
          url.path.toText = u.path.toText ++ '/' :: name ∧
          url.toText = u.front ++ (u.path.toText ++ '/' :: name) ++ u.rear ∧
          u.withSlash.append? name = some url ∧
          TemplateSource.fetch w (.remote u) name =
            TemplateSource.download w url.toText) ∧
        ∀ other, IsPlainName other → other ≠ name →
          (u.append? other).map toText ≠ (u.append? name).map toText) ∧
    u.withSlash.toText = u.front ++ (u.path.toText ++ ['/']) ++ u.rear ∧
    ∀ s, u.path = .plain s → ∀ name, u.append? name = none ∧
      TemplateSource.fetch w (.remote u) name = .error (.noSegments name u) ∧
      (SourceError.noSegments name u).message =
        "Invalid template URL for '".toList ++ name ++
          "': URL cannot have path segments: ".toList ++ u.toText := by
  refine ⟨?_, ?_, ?_⟩
  · intro before last hpath hlast name hname
    have htext : ∀ {n}, IsPlainName n → (u.append? n).map toText =
        some (u.front ++ (u.path.toText ++ '/' :: n) ++ u.rear) := by
      intro n hn
      rw [append?_concat hpath hlast hn, Option.map_some, toText_withPath,
        UrlPath.toText_concat, hpath]
    have happend := append?_concat hpath hlast hname
    constructor
    · refine ⟨_, happend, rfl, rfl, rfl, rfl, ?_, ?_, ?_, ?_⟩
      · rw [UrlPath.toText_concat, hpath]
      · rw [toText_withPath, UrlPath.toText_concat, hpath]
      · rw [append?_withSlash hpath hlast hname, happend]
      · simp only [TemplateSource.fetch, happend]
    · intro other hother hne hsame
      rw [htext hother, htext hname] at hsame
      exact hne (by simpa using hsame)
  · exact (toText_withPath u _).trans (by rw [UrlPath.toText_withSlash])
  · intro s hpath name
    have hnone : u.append? name = none := by
      unfold append?
      rw [hpath]
    refine ⟨hnone, ?_, rfl⟩
    simp only [TemplateSource.fetch, hnone]

/-- Slashes in the query and the fragment are not those of the path, and three
dots are a name. -/
theorem append?_one_segment_before_query :
    ∃ base, parse? "https://me@example.com:8/a%20b/c?ref=x/#y/".toList =
      some base ∧
      parse? "https://me@example.com:8/a%20b/c/?ref=x/#y/".toList =
        some base.withSlash ∧
      base.path = .segments (["a%20b".toList] ++ ["c".toList]) ∧
      IsPlainName "...".toList ∧ IsPlainName "-_.ts".toList ∧
      (base.append? "...".toList).map toText =
        some "https://me@example.com:8/a%20b/c/...?ref=x/#y/".toList ∧
      base.withSlash.append? "...".toList = base.append? "...".toList ∧
      (base.append? "-_.ts".toList).map toText ≠
        (base.append? "...".toList).map toText ∧
      ∀ w, TemplateSource.fetch w (.remote ⟨"mailto".toList, none, false,
        .plain "a@b".toList,
          none, none⟩) "types.ts".toList =
        .error (.noSegments "types.ts".toList
          ⟨"mailto".toList, none, false, .plain "a@b".toList, none, none⟩) := by
  let base : Url := ⟨"https".toList,
    some ⟨"me".toList, [], some (.domain "example.com".toList),
    some 8⟩, false, .segments ["a%20b".toList, "c".toList],
    some "ref=x/".toList, some "y/".toList⟩
  have hdots : IsPlainName "...".toList := by decide
  have hts : IsPlainName "-_.ts".toList := by decide
  have hw := (append?_one_segment ⟨FileTree.empty, []⟩ base).1 ["a%20b".toList]
    "c".toList rfl (by decide) "...".toList hdots
  obtain ⟨⟨url, happend, -, -, -, -, -, htext, hslash, -⟩, hdiffer⟩ := hw
  refine ⟨base, ?_, ?_, rfl, hdots, hts, ?_, ?_, hdiffer _ hts (by decide), ?_⟩
  · decide +kernel
  · decide +kernel
  · rw [happend, Option.map_some, htext]
    decide +kernel
  · rw [hslash, happend]
  · intro w
    exact ((append?_one_segment w _).2.2 _ rfl "types.ts".toList).2.1

end FormScaffold.Url
