import FormScaffold.CommandLine
import Mathlib.Data.List.Basic
import Mathlib.Data.List.Perm.Basic

/-!
# What a command line says of a request

A request is written as one argument for each choice that is made in it, and its
field kinds in groups, each group in an argument of its own.  Reading such
arguments is taking in the choices one after the other, and a choice bears on
nothing but its own option.  So their order does not matter, apart from that of
the groups; and an option that is met again is refused, however it is written
and whatever stands between.
-/

namespace FormScaffold.CommandLine

/-- One choice: the switch, or an option and the text of its value. -/
inductive Choice where
  | yes
  | valued (option : Valued) (value : Text)
  deriving DecidableEq, Repr

namespace Choice

def option : Choice → Meaning
  | yes => .inl .yes
  | valued o _ => .inr o

def longName : Valued → Text
  | .cwd => "--cwd".toList
  | .templates => "--template-dir".toList
  | .components => "--components".toList
  | .utils => "--utils".toList
  | .directive => "--rsc".toList
  | .kinds => "--fields".toList

/-- The choice in one argument, its value behind an equals sign. -/
def written : Choice → Text
  | yes => "--yes".toList
  | valued o value => longName o ++ '=' :: value

/-- The ways to write a choice in one argument or two. -/
inductive Spelled : Choice → List Text → Prop
  | attached (o : Valued) (value : Text) :
      Spelled (valued o value) [longName o ++ '=' :: value]
  | apart (o : Valued) {value : Text} (hvalue : form value = .word) :
      Spelled (valued o value) [longName o, value]
  | short {c : Char} {o : Valued} (hc : short? .init c = some (.inr o))
      {d : Char} (hd : d ≠ '=') (value : Text) :
        Spelled (valued o (d :: value)) ['-' :: c :: d :: value]
  | shortEquals {c : Char} {o : Valued} (hc : short? .init c = some (.inr o))
      (value : Text) : Spelled (valued o value) ['-' :: c :: '=' :: value]
  | shortApart {c : Char} {o : Valued} (hc : short? .init c = some (.inr o))
      {value : Text} (hvalue : form value = .word) :
        Spelled (valued o value) [['-', c], value]
  | yes : Spelled yes ["--yes".toList]
  | shortYes : Spelled yes ["-y".toList]

theorem spelled_written (c : Choice) : Spelled c [c.written] := by
  cases c with
  | yes => exact .yes
  | valued o value => exact .attached o value

def ofBool (b : Bool) : Text := if b then "true".toList else "false".toList

def ofKinds (group : List FieldKind) : Choice :=
  valued .kinds (List.intercalate [','] (group.map FieldKind.id))

/-- A request with the choice taken in. -/
def take (r : Request) : Choice → Except Usage Request
  | yes => if r.yes then .error .repeatedOption else .ok { r with yes := true }
  | valued o value => Progress.store r o value

end Choice

open Choice

/-! ## From arguments to choices -/

theorem form_attached (o : Valued) (value : Text) :
    form (longName o ++ '=' :: value) =
      .long ((longName o).drop 2) (some value) := by
  cases o <;> rfl

theorem form_longName (o : Valued) :
    form (longName o) = .long ((longName o).drop 2) none := by
  cases o <;> rfl

theorem long?_longName (o : Valued) :
    long? .init ((longName o).drop 2) = some (.inr o) := by
  cases o <;> rfl

/-- The options that have a short name. -/
theorem eq_of_short? {c : Char} {o : Valued}
    (hc : short? .init c = some (.inr o)) :
    c = 'c' ∧ o = .cwd ∨ c = 'f' ∧ o = .kinds := by
  unfold short? at hc
  split at hc <;> simp_all

theorem form_short {c : Char} {o : Valued} (hc : short? .init c = some (.inr o))
    (names : Text) : form ('-' :: c :: names) = .short (c :: names) := by
  rcases eq_of_short? hc with ⟨rfl, -⟩ | ⟨rfl, -⟩ <;> rfl

namespace Progress

variable {p : Progress}

theorem settle_of_none (hp : p.pending = none) : p.settle = .ok p := by
  unfold settle
  rw [hp]

theorem settle_bind_settle (p : Progress) : p.settle >>= settle = p.settle := by
  unfold settle
  split
  next hp => exact settle_of_none hp
  next => rfl
  next o value _ =>
    cases store p.request o value with
    | error e => rfl
    | ok r => rfl

theorem meet_eq (p : Progress) (o : Valued) (value : Text) :
    p.meet o (some value) = p.settle >>= fun p =>
      (take p.request (valued o value)).map fun r => { p with request := r } :=
  rfl

theorem turn_yes_eq (p : Progress) :
    p.turn .yes = p.settle >>= fun p =>
      (take p.request .yes).map fun r => { p with request := r } := by
  unfold turn
  congr 1
  funext p
  unfold take
  cases p.request.yes <;> rfl

end Progress

section Reading

variable {p : Progress} {o : Valued} {value : Text} {c : Choice}
  {args rest : List Text}

theorem readInit_long {name arg : Text} {value? : Option Text}
    (harg : form arg = .long name value?) (rest : List Text) :
    readInit p (arg :: rest) = p.meetLong .init name value? >>=
      fun p => readInit p rest := by
  simp only [readInit, harg]
  cases p.meetLong .init name value? <;> rfl

def readBehind (p : Progress) (c : Choice) (rest : List Text) :
    Except Usage Progress :=
  take p.request c >>= fun r => readInit { p with request := r } rest

theorem bind_readInit (p : Progress) (c : Choice) (rest : List Text) :
    ((take p.request c).map fun r => { p with request := r }) >>=
      (readInit · rest) = readBehind p c rest := by
  unfold readBehind
  cases take p.request c <;> rfl

/-- Whatever value is waiting is taken in when a choice is met. -/
theorem readInit_written (p : Progress) (c : Choice) (rest : List Text) :
    readInit p (c.written :: rest) = p.settle >>= (readBehind · c rest) := by
  have hmeet : readInit p (c.written :: rest) = (p.settle >>= fun p =>
      (take p.request c).map fun r => { p with request := r }) >>=
        (readInit · rest) := by
    cases c with
    | yes =>
        have hform : form yes.written = .long "yes".toList none := rfl
        rw [readInit_long hform, ← Progress.turn_yes_eq]
        rfl
    | valued o value =>
        rw [written, readInit_long (form_attached o value), ← Progress.meet_eq]
        simp only [Progress.meetLong, long?_longName]
  rw [hmeet]
  cases p.settle with
  | error e => rfl
  | ok p => exact bind_readInit p c rest

/-- A waiting value is taken in by whatever choice comes next, or at the end. -/
theorem readInit_map_written (p : Progress) (choices : List Choice) :
    readInit p (choices.map written) =
      p.settle >>= fun p => readInit p (choices.map written) := by
  cases choices with
  | nil =>
      simp only [List.map_nil, readInit]
      exact (p.settle_bind_settle).symm
  | cons c choices =>
      simp only [List.map_cons, readInit_written]
      conv_lhs => rw [← p.settle_bind_settle]
      cases p.settle <;> rfl

theorem readInit_short {names arg : Text} (harg : form arg = .short names)
    (rest : List Text) :
    readInit p (arg :: rest) = p.meetShort .init names >>=
      fun p => readInit p rest := by
  simp only [readInit, harg]
  cases p.meetShort .init names <;> rfl

/-- A value that stands in an argument of its own. -/
theorem readInit_word (hp : p.pending = some (o, none))
    (hvalue : form value = .word) (rest : List Text) :
    readInit p (value :: rest) = readInit { p with
      pending := some (o, some value) } rest := by
  have hawaits : p.awaitsValue = true := by simp [Progress.awaitsValue, hp]
  have hsupply : p.supply value = { p with
      pending := some (o, some value) } := by
    simp [Progress.supply, hp]
  simp only [readInit, hvalue, hawaits, if_true, hsupply]

theorem readInit_pending (hp : p.pending = none) (o : Valued) (value : Text)
    (choices : List Choice) :
    readInit { p with pending := some (o, some value) } (choices.map written) =
      readBehind p (valued o value) (choices.map written) := by
  have hnone (r : Request) : { p with request := r, pending := none } =
      { p with request := r } := by rw [hp]
  rw [readInit_map_written]
  simp only [Progress.settle, hnone, readBehind, take]
  cases Progress.store p.request o value <;> rfl

theorem readInit_apart (hp : p.pending = none) (o : Valued)
    (hvalue : form value = .word) (choices : List Choice) :
    readInit { p with pending := some (o, none) }
    (value :: choices.map written) =
      readBehind p (valued o value) (choices.map written) :=
  (readInit_word rfl hvalue _).trans (readInit_pending hp o value choices)

theorem meet_none (hp : p.pending = none) (o : Valued) :
    p.meet o none = .ok { p with pending := some (o, none) } := by
  unfold Progress.meet
  rw [Progress.settle_of_none hp]
  rfl

theorem meet_some (hp : p.pending = none) (o : Valued) (value : Text)
    (rest : List Text) :
    (p.meet o (some value) >>= fun p => readInit p rest) =
      readBehind p (valued o value) rest := by
  rw [Progress.meet_eq, Progress.settle_of_none hp]
  exact bind_readInit p _ rest

/-- Behind a choice, in whatever way it is written, reading goes on with the
choice taken in. -/
theorem readInit_spelled (hp : p.pending = none) (hargs : Spelled c args)
    (choices : List Choice) :
    readInit p (args ++ choices.map written) =
      readBehind p c (choices.map written) := by
  have hwritten (c : Choice) (rest : List Text) :
      readInit p (c.written :: rest) = readBehind p c rest := by
    rw [readInit_written, Progress.settle_of_none hp]
    rfl
  cases hargs with
  | attached o value => exact hwritten (valued o value) _
  | @apart o value hvalue =>
      have hmeet : p.meetLong .init ((longName o).drop 2) none =
          .ok { p with pending := some (o, none) } := by
        simp only [Progress.meetLong, long?_longName, meet_none hp]
      rw [List.cons_append, List.singleton_append,
        readInit_long (form_longName o), hmeet]
      exact readInit_apart hp o hvalue choices
  | @short c o hc d hd value =>
      have hmeet : p.meetShort .init (c :: d :: value) =
          p.meet o (some (d :: value)) := by
        rw [Progress.meetShort, hc]
        simp [hd]
      rw [List.singleton_append, readInit_short (form_short hc _), hmeet,
        meet_some hp]
  | @shortEquals c o hc value =>
      have hmeet : p.meetShort .init (c :: '=' :: value) =
          p.meet o (some value) := by
        simp only [Progress.meetShort, hc]
      rw [List.singleton_append, readInit_short (form_short hc _), hmeet,
        meet_some hp]
  | @shortApart c o hc value hvalue =>
      have hmeet : p.meetShort .init [c] =
          .ok { p with pending := some (o, none) } := by
        rw [Progress.meetShort, hc]
        exact meet_none hp o
      rw [List.cons_append, List.singleton_append,
        readInit_short (form_short hc _), hmeet]
      exact readInit_apart hp o hvalue choices
  | yes => exact hwritten .yes _
  | shortYes =>
      have hmeet : p.meetShort .init ['y'] = p.turn .yes := by
        simp only [Progress.meetShort, short?]
        cases p.turn .yes <;> rfl
      have hform : form "-y".toList = .short ['y'] := rfl
      rw [List.singleton_append, readInit_short hform, hmeet,
        Progress.turn_yes_eq, Progress.settle_of_none hp]
      exact bind_readInit p .yes _

/-! ### Several choices -/

/-- A request with choices taken in, one after the other. -/
def takeAll (r : Request) (choices : List Choice) : Except Usage Request :=
  choices.foldlM take r

theorem takeAll_cons (r : Request) (c : Choice) (choices : List Choice) :
    takeAll r (c :: choices) = take r c >>= (takeAll · choices) := rfl

theorem takeAll_append (r : Request) (first second : List Choice) :
    takeAll r (first ++ second) = takeAll r first >>= (takeAll · second) :=
  List.foldlM_append

/-- What the arguments behind the subcommand ask for, beyond a request. -/
def readFrom (r : Request) (args : List Text) : Except Usage Invocation :=
  (readInit { Progress.start with request := r } args).map fun p =>
    ⟨p.verbose, some p.request⟩

theorem parse_init (args : List Text) :
    parse ("init".toList :: args) = readFrom Request.empty args := by
  simp only [parse, readCommand, if_true]
  change readInit Progress.start args >>= _ =
    (readInit Progress.start args).map _
  cases readInit Progress.start args <;> rfl

theorem readFrom_spelled (r : Request) (hargs : Spelled c args)
    (choices : List Choice) :
    readFrom r (args ++ choices.map written) =
      take r c >>= (readFrom · (choices.map written)) := by
  unfold readFrom
  rw [readInit_spelled rfl hargs]
  unfold readBehind
  change (take r c >>= _).map _ = _
  cases take r c <;> rfl

theorem readFrom_choices (r : Request) (choices : List Choice)
    (rest : List Text) :
    readFrom r (choices.map written ++ rest) =
      takeAll r choices >>= (readFrom · rest) := by
  induction choices generalizing r with
  | nil => rfl
  | cons c choices ih =>
      have hfirst : readFrom r (c.written :: (choices.map written ++ rest)) =
          take r c >>= (readFrom · (choices.map written ++ rest)) := by
        unfold readFrom
        rw [readInit_written, Progress.settle_of_none rfl]
        change (take r c >>= _).map _ = _
        cases take r c <;> rfl
      rw [List.map_cons, List.cons_append, hfirst, takeAll_cons, bind_assoc]
      simp only [ih]

theorem readFrom_map_written (r : Request) (choices : List Choice) :
    readFrom r (choices.map written) =
      takeAll r choices >>= fun r => .ok ⟨false, some r⟩ := by
  have hread := readFrom_choices r choices []
  rwa [List.append_nil] at hread

/-- A choice that is written in any way between others is taken in at its
place. -/
theorem parse_spelled (before after : List Choice) (hargs : Spelled c args) :
    parse ("init".toList ::
      (before.map written ++ (args ++ after.map written))) =
      takeAll Request.empty (before ++ c :: after) >>=
        fun r => .ok ⟨false, some r⟩ := by
  rw [parse_init, readFrom_choices, takeAll_append, bind_assoc]
  simp only [readFrom_spelled _ hargs, readFrom_map_written, takeAll_cons,
    bind_assoc]

end Reading

/-! ## From choices to a request -/

/-- The choice that a request holds for an option that comes once. -/
def standing (r : Request) : Meaning → List Choice
  | .inl .yes => if r.yes then [.yes] else []
  | .inr .cwd => (r.cwd.map fun d => valued .cwd d.text).toList
  | .inr .templates =>
      (r.templates.map fun d => valued .templates d.text).toList
  | .inr .components => (r.components.map (valued .components)).toList
  | .inr .utils => (r.utils.map (valued .utils)).toList
  | .inr .directive =>
      (r.directive.map fun b => valued .directive (ofBool b)).toList
  | _ => []

/-- The choices of a request, the field kinds in these groups. -/
def spelled (r : Request) (groups : List (List FieldKind)) : List Choice :=
  standing r (.inr .cwd) ++ standing r (.inr .templates) ++
    standing r (.inr .components) ++
    standing r (.inr .utils) ++ standing r (.inr .directive) ++
      groups.map ofKinds ++
    standing r (.inl .yes)

variable {r r' : Request} {c : Choice} {m : Meaning}
  {groups : List (List FieldKind)} {choices : List Choice}

theorem option_of_mem_standing (hc : c ∈ standing r m) : c.option = m := by
  unfold standing at hc
  split at hc
  case h_1 => split at hc <;> simp_all [option]
  case h_7 => cases hc
  all_goals
    simp only [Option.mem_toList, Option.map_eq_some_iff] at hc
    obtain ⟨_, -, rfl⟩ := hc
    rfl

theorem length_standing_le (r : Request) (m : Meaning) :
    (standing r m).length ≤ 1 := by
  unfold standing
  split
  case h_1 => split <;> simp
  case h_7 => simp
  all_goals exact Option.length_toList_le

theorem eq_of_toList_map {α β : Type} {f : α → β} (hf : Function.Injective f)
    {a b : Option α} (h : (a.map f).toList = (b.map f).toList) : a = b := by
  cases a <;> cases b <;> simp_all [hf.eq_iff]

theorem ofBool_injective : Function.Injective ofBool := by
  intro a b
  cases a <;> cases b <;> decide

/-- What a request holds is the choices that come once, and its field kinds. -/
theorem eq_of_standing
    (hstanding : ∀ m ≠ .inr .kinds, standing r m = standing r' m)
    (hkinds : r.kinds = r'.kinds) : r = r' := by
  have hpath (o : Valued) :
      Function.Injective fun d : Path => valued o d.text := by
    rintro ⟨s⟩ ⟨t⟩ heq
    cases heq
    rfl
  have htext (o : Valued) : Function.Injective (valued o) := by
    intro s t heq
    cases heq
    rfl
  have hbool : Function.Injective fun b => valued .directive (ofBool b) :=
    (htext .directive).comp ofBool_injective
  have hcwd := eq_of_toList_map (hpath .cwd) (hstanding (.inr .cwd) nofun)
  have htemplates := eq_of_toList_map (hpath .templates)
    (hstanding (.inr .templates) nofun)
  have hcomponents :=
    eq_of_toList_map (htext .components) (hstanding (.inr .components) nofun)
  have hutils := eq_of_toList_map (htext .utils) (hstanding (.inr .utils) nofun)
  have hdirective := eq_of_toList_map hbool (hstanding (.inr .directive) nofun)
  have hyes : r.yes = r'.yes := by
    have heq := hstanding (.inl .yes) nofun
    unfold standing at heq
    cases hr : r.yes <;> cases hr' : r'.yes <;> simp_all
  cases r
  cases r'
  simp_all

/-! ### Taking in one choice -/

/-- The choice comes once, and its value is one that its option takes. -/
def Fits : Choice → Prop
  | .yes => True
  | .valued .cwd value => value ≠ []
  | .valued .templates value => value ≠ []
  | .valued .components _ => True
  | .valued .utils _ => True
  | .valued .directive value => ∃ b, value = ofBool b
  | .valued .kinds _ => False

/-- A request with a choice put in, whatever it held before. -/
def put (r : Request) : Choice → Request
  | .yes => { r with yes := true }
  | .valued .cwd value => { r with cwd := some ⟨value⟩ }
  | .valued .templates value => { r with templates := some ⟨value⟩ }
  | .valued .components value => { r with components := some value }
  | .valued .utils value => { r with utils := some value }
  | .valued .directive value =>
      { r with directive := some (value = ofBool true) }
  | .valued .kinds _ => r

theorem kinds_put (r : Request) (c : Choice) : (put r c).kinds = r.kinds := by
  unfold put
  split <;> rfl

theorem standing_put_self (r : Request) (hc : Fits c) :
    standing (put r c) c.option = [c] := by
  cases c with
  | yes => rfl
  | valued o value =>
      cases o with
      | directive =>
          obtain ⟨b, rfl⟩ := hc
          cases b <;> rfl
      | kinds => exact hc.elim
      | _ => rfl

theorem standing_put_of_ne (r : Request) (hm : m ≠ c.option) :
    standing (put r c) m = standing r m := by
  unfold put
  split <;> unfold standing <;> split <;> simp_all [option]

theorem map_setOnce_eq_ok_iff {α : Type} {now value : Option α}
    {f : Option α → Request} :
    (Progress.setOnce now value).map f = .ok r' ↔
      now = none ∧ ∃ v, value = some v ∧ r' = f (some v) := by
  cases now <;> cases value <;> simp [Progress.setOnce, Except.map, eq_comm]

theorem path?_eq_some_iff {s : Text} {p : Path} :
    Progress.path? s = some p ↔ s ≠ [] ∧ p = ⟨s⟩ := by
  unfold Progress.path?
  split <;> simp_all [eq_comm]

theorem bool?_eq_some_iff {s : Text} {b : Bool} :
    Progress.bool? s = some b ↔ s = ofBool b := by
  unfold Progress.bool?
  constructor
  · intro h
    split at h
    next htrue => rw [htrue, ← Option.some.inj h]; rfl
    next =>
      split at h
      next hfalse => rw [hfalse, ← Option.some.inj h]; rfl
      next => cases h
  · rintro rfl
    cases b <;> rfl

/-- A choice is taken in just in case its option is still open and takes the
value, and then it is put in. -/
theorem take_eq_ok_iff (hc : c.option ≠ .inr .kinds) :
    take r c = .ok r' ↔ Fits c ∧ standing r c.option = [] ∧ r' = put r c := by
  cases c with
  | yes =>
      cases hyes : r.yes <;> simp [take, hyes, Fits, standing, option, put,
        eq_comm]
  | valued o value =>
      cases o with
      | kinds => exact absurd rfl hc
      | directive =>
          simp only [take, Progress.store, map_setOnce_eq_ok_iff,
            bool?_eq_some_iff, Fits, standing, option, put]
          constructor
          · rintro ⟨hnone, b, rfl, rfl⟩
            refine ⟨⟨b, rfl⟩, by simp [hnone], ?_⟩
            cases b <;> rfl
          · rintro ⟨⟨b, rfl⟩, hnone, rfl⟩
            refine ⟨by simpa using hnone, b, rfl, ?_⟩
            cases b <;> rfl
      | cwd =>
          simp [take, Progress.store, map_setOnce_eq_ok_iff, path?_eq_some_iff,
            Fits, standing, option, put, and_left_comm]
      | templates =>
          simp [take, Progress.store, map_setOnce_eq_ok_iff, path?_eq_some_iff,
            Fits, standing, option, put, and_left_comm]
      | components =>
          simp [take, Progress.store, map_setOnce_eq_ok_iff, Fits, standing,
            option, put]
      | utils =>
          simp [take, Progress.store, map_setOnce_eq_ok_iff, Fits, standing,
            option, put]

theorem kinds?_written {group : List FieldKind} (hgroup : group ≠ []) :
    Progress.kinds? (List.intercalate [','] (group.map FieldKind.id)) =
      some group := by
  have hcomma : ∀ name ∈ group.map FieldKind.id, ',' ∉ name := by
    intro name hname
    obtain ⟨k, -, rfl⟩ := List.mem_map.mp hname
    cases k <;> decide
  have hread : (group.map FieldKind.id).mapM FieldKind.ofId? = some group := by
    clear hgroup hcomma
    induction group with
    | nil => rfl
    | cons k group ih => simp [List.mapM_cons, FieldKind.ofId?_id, ih]
  unfold Progress.kinds?
  rw [List.splitOn_intercalate ',' hcomma (by simpa using hgroup), hread]

theorem take_ofKinds (r : Request) {group : List FieldKind}
    (hgroup : group ≠ []) :
    take r (ofKinds group) =
      .ok { r with kinds := some (r.kinds.getD [] ++ group) } := by
  simp only [ofKinds, take, Progress.store, kinds?_written hgroup]

theorem exists_kinds_of_take (h : take r c = .ok r')
    (hc : c.option = .inr .kinds) :
    ∃ kinds, r' = { r with kinds } := by
  cases c with
  | yes => cases hc
  | valued o value =>
      obtain rfl : o = .kinds := Sum.inr.inj hc
      simp only [take, Progress.store] at h
      split at h
      next => exact ⟨_, (Except.ok.inj h).symm⟩
      next => cases h

theorem standing_kinds (r : Request) (kinds : Option (List FieldKind))
    (m : Meaning) :
    standing { r with kinds } m = standing r m := by
  unfold standing
  split <;> rfl

/-! ### Taking in all choices -/

def under (m : Meaning) (choices : List Choice) : List Choice :=
  choices.filter fun c => c.option = m

theorem under_cons_of_eq (hc : c.option = m) (choices : List Choice) :
    under m (c :: choices) = c :: under m choices :=
  List.filter_cons_of_pos (by simpa using hc)

theorem under_cons_of_ne (hc : c.option ≠ m) (choices : List Choice) :
    under m (c :: choices) = under m choices :=
  List.filter_cons_of_neg (by simpa using hc)

theorem under_append (m : Meaning) (first second : List Choice) :
    under m (first ++ second) = under m first ++ under m second :=
  List.filter_append ..

/-- Where all choices are taken in, the request holds of every option that comes
once what it held before and what was chosen: so one of both. -/
theorem standing_append_under (h : takeAll r choices = .ok r')
    (hm : m ≠ .inr .kinds) :
    standing r m ++ under m choices = standing r' m := by
  induction choices generalizing r with
  | nil =>
      cases h
      simp [under]
  | cons c choices ih =>
      obtain ⟨r₁, hfirst, hrest⟩ :
          ∃ r₁, take r c = .ok r₁ ∧ takeAll r₁ choices = .ok r' := by
        rw [takeAll_cons] at h
        cases hfirst : take r c with
        | error e =>
            rw [hfirst] at h
            cases h
        | ok r₁ =>
            rw [hfirst] at h
            exact ⟨r₁, rfl, h⟩
      rw [← ih hrest]
      by_cases hc : c.option = .inr .kinds
      · obtain ⟨kinds, rfl⟩ := exists_kinds_of_take hfirst hc
        rw [standing_kinds r kinds,
          under_cons_of_ne (by rw [hc]; exact hm.symm)]
      · obtain ⟨hfits, hopen, rfl⟩ := (take_eq_ok_iff hc).mp hfirst
        by_cases hsame : c.option = m
        · subst hsame
          rw [hopen, standing_put_self r hfits, under_cons_of_eq rfl]
          rfl
        · rw [standing_put_of_ne r (Ne.symm hsame), under_cons_of_ne hsame]

/-- An option that comes once is not met twice. -/
theorem exists_error_of_repeated {first second : List Choice}
    (hc : c.option ≠ .inr .kinds)
    (hrepeated : c.option ∈ (first ++ second).map option)
    (r : Request) : ∃ e, takeAll r (first ++ c :: second) = .error e := by
  cases hall : takeAll r (first ++ c :: second) with
  | error e => exact ⟨e, rfl⟩
  | ok r' =>
      exfalso
      obtain ⟨c', hmem, hsame⟩ := List.mem_map.mp hrepeated
      have hone := length_standing_le r' c.option
      have hthere : 0 < (under c.option (first ++ second)).length :=
        List.length_pos_of_mem (List.mem_filter.mpr
          ⟨hmem, by simpa using hsame⟩)
      rw [under_append, List.length_append] at hthere
      rw [← standing_append_under hall hc, under_append, under_cons_of_eq rfl,
        List.length_append, List.length_append, List.length_cons] at hone
      omega

/-- Choices that lead from one request to another: an option that comes once is
set in the first or chosen, and the field kinds are added group by group. -/
structure Lead (r : Request) (choices : List Choice)
    (groups : List (List FieldKind)) (r' : Request) : Prop where
  singles : ∀ m ≠ .inr .kinds, standing r m ++ under m choices = standing r' m
  fits : ∀ c ∈ choices, c.option ≠ .inr .kinds → Fits c
  grouped : under (.inr .kinds) choices = groups.map ofKinds
  ne_nil : ∀ group ∈ groups, group ≠ []
  kinds : r'.kinds = if groups = [] then r.kinds
    else some (r.kinds.getD [] ++ groups.flatten)

theorem takeAll_of_lead (h : Lead r choices groups r') :
    takeAll r choices = .ok r' := by
  induction choices generalizing r groups with
  | nil =>
      have hgroups : groups = [] := by simpa [under] using h.grouped
      have hsame : r = r' := eq_of_standing
        (fun m hm => by simpa [under] using h.singles m hm)
          (by simp [h.kinds, hgroups])
      rw [hsame]
      rfl
  | cons c choices ih =>
      have hfits := (List.forall_mem_cons.mp h.fits)
      rw [takeAll_cons]
      by_cases hc : c.option = .inr .kinds
      · have hgrouped := h.grouped
        rw [under_cons_of_eq hc] at hgrouped
        obtain ⟨group, groups, rfl, rfl, hrest⟩ :=
          List.map_eq_cons_iff.mp hgrouped.symm
        have hne := List.forall_mem_cons.mp h.ne_nil
        rw [take_ofKinds r hne.1]
        refine ih ⟨fun m hm => ?_, hfits.2, hrest.symm, hne.2, ?_⟩
        · rw [standing_kinds, ← h.singles m hm,
            under_cons_of_ne (by rw [hc]; exact hm.symm)]
        · rw [h.kinds]
          cases groups <;> simp
      · have hsingle := h.singles c.option hc
        rw [under_cons_of_eq rfl] at hsingle
        have hone := length_standing_le r' c.option
        rw [← hsingle, List.length_append, List.length_cons] at hone
        have hopen : standing r c.option = [] :=
          List.length_eq_zero_iff.mp (by omega)
        have hfirst := hfits.1 hc
        rw [(take_eq_ok_iff hc).mpr ⟨hfirst, hopen, rfl⟩]
        refine ih ⟨fun m hm => ?_, hfits.2, ?_,
          h.ne_nil, by rw [kinds_put, h.kinds]⟩
        · rw [← h.singles m hm]
          by_cases hsame : c.option = m
          · subst hsame
            rw [hopen, standing_put_self r hfirst, under_cons_of_eq rfl]
            rfl
          · rw [standing_put_of_ne r (Ne.symm hsame), under_cons_of_ne hsame]
        · rw [← h.grouped, under_cons_of_ne hc]

/-! ## A request as arguments -/

theorem under_standing (r : Request) (m m' : Meaning) :
    under m (standing r m') = if m' = m then standing r m' else [] := by
  split
  next hm =>
    subst hm
    exact List.filter_eq_self.mpr fun c hc => by
      simpa using option_of_mem_standing hc
  next hm =>
    refine List.filter_eq_nil_iff.mpr fun c hc => ?_
    rw [option_of_mem_standing hc]
    simpa using hm

theorem under_spelled (r : Request) (groups : List (List FieldKind))
    (hm : m ≠ .inr .kinds) :
    under m (spelled r groups) = standing r m := by
  have hgroups : under m (groups.map ofKinds) = [] := by
    refine List.filter_eq_nil_iff.mpr fun c hc => ?_
    obtain ⟨group, -, rfl⟩ := List.mem_map.mp hc
    exact fun hoption => hm (of_decide_eq_true hoption).symm
  unfold spelled
  simp only [under_append, under_standing, hgroups]
  rcases m with s | o
  · cases s <;> simp [standing]
  · cases o <;> simp_all

theorem fits_of_mem_standing (hcwd : ∀ d ∈ r.cwd, d.text ≠ [])
    (htemplates : ∀ d ∈ r.templates, d.text ≠ []) (hc : c ∈ standing r m) :
    Fits c := by
  unfold standing at hc
  split at hc
  case h_1 =>
    split at hc
    next => rw [List.mem_singleton.mp hc]; trivial
    next => cases hc
  case h_7 => cases hc
  all_goals
    simp only [Option.mem_toList, Option.map_eq_some_iff] at hc
    obtain ⟨value, hvalue, rfl⟩ := hc
  · exact hcwd value hvalue
  · exact htemplates value hvalue
  · trivial
  · trivial
  · exact ⟨value, rfl⟩

theorem lead_of_perm (hcwd : ∀ d ∈ r.cwd, d.text ≠ [])
    (htemplates : ∀ d ∈ r.templates, d.text ≠ []) (hkinds : r.kinds ≠ some [])
    (hne : ∀ group ∈ groups, group ≠ [])
    (hgroups : groups.flatten = r.kinds.getD [])
    (hperm : choices.Perm (spelled r groups))
    (horder : under (.inr .kinds) choices = groups.map ofKinds) :
    Lead Request.empty choices groups r where
  singles := by
    intro m hm
    have hunder : (under m choices).Perm (standing r m) := by
      rw [← under_spelled r groups hm]
      exact hperm.filter _
    have hone := length_standing_le r m
    have hempty : standing Request.empty m = [] := by
      unfold standing
      split <;> rfl
    rw [hempty, List.nil_append]
    cases hstanding : standing r m with
    | nil => rw [hstanding] at hunder; exact hunder.eq_nil
    | cons c rest =>
        rw [hstanding, List.length_cons] at hone
        obtain rfl : rest = [] := List.length_eq_zero_iff.mp (by omega)
        rw [hstanding] at hunder
        exact hunder.eq_singleton
  fits := by
    intro c hc hoption
    have hmem : c ∈ under c.option (spelled r groups) :=
      List.mem_filter.mpr ⟨hperm.subset hc, by simp⟩
    rw [under_spelled r groups hoption] at hmem
    exact fits_of_mem_standing hcwd htemplates hmem
  grouped := horder
  ne_nil := hne
  kinds := by
    cases hr : r.kinds with
    | none =>
        rw [hr] at hgroups
        have hnil : groups = [] := by
          refine List.eq_nil_iff_forall_not_mem.mpr fun group hgroup =>
            hne group hgroup ?_
          exact List.flatten_eq_nil_iff.mp hgroups group hgroup
        simp [hnil, Request.empty]
    | some kinds =>
        rw [hr] at hgroups hkinds
        have hgroup : groups ≠ [] := by
          rintro rfl
          exact hkinds (congrArg some hgroups.symm)
        simp [hgroup, hgroups, Request.empty]

/-- A request is read from its choices as it is, in whatever order they are
written, if only the groups of field kinds keep theirs, and then it holds what
was given and the defaults for the rest.  One more choice for an option that is
given already, whatever its value, however it is written and wherever it stands,
makes the line fail. -/
theorem parse_spelled_request (hcwd : ∀ d ∈ r.cwd, d.text ≠ [])
    (htemplates : ∀ d ∈ r.templates, d.text ≠ []) (hkinds : r.kinds ≠ some [])
    (hne : ∀ group ∈ groups, group ≠ [])
    (hgroups : groups.flatten = r.kinds.getD [])
    (hperm : choices.Perm (spelled r groups))
    (horder : under (.inr .kinds) choices = groups.map ofKinds) :
    parse ("init".toList :: choices.map written) = .ok ⟨false, some r⟩ ∧
      r.choices = ⟨r.components.getD Alias.defaultComponents,
        r.utils.getD Alias.defaultUtils,
        r.directive.getD true, r.kinds.getD [.text]⟩ ∧
      ∀ (before after : List Choice) (c : Choice) (args : List Text),
        choices = before ++ after → c.option ∈ choices.map option →
        c.option ≠ .inr .kinds → Spelled c args →
          ∃ e, parse ("init".toList ::
            (before.map written ++ (args ++ after.map written))) =
              .error e := by
  have hlead := lead_of_perm hcwd htemplates hkinds hne hgroups hperm horder
  refine ⟨?_, rfl, ?_⟩
  · rw [parse_init, readFrom_map_written, takeAll_of_lead hlead]
    rfl
  · rintro before after c args rfl hrepeated hc hargs
    obtain ⟨e, herror⟩ := exists_error_of_repeated hc hrepeated Request.empty
    rw [parse_spelled before after hargs, herror]
    exact ⟨e, rfl⟩

/-- Commas, equals signs and hyphens stay in the values, and a repeated field
kind stays. -/
theorem parse_spelled_request_of_signs :
    let r : Request := ⟨some ⟨"a=b,-c".toList⟩, none, some [],
      some "--yes".toList, some false, some [.text, .datePicker, .text], true⟩
    let args := ["--fields=text,date-picker".toList, "--utils=--yes".toList,
      "--rsc=false".toList, "--yes".toList, "--fields=text".toList,
      "--components=".toList, "--cwd=a=b,-c".toList]
    parse ("init".toList :: args) = .ok ⟨false, some r⟩ ∧
      r.choices = ⟨[], "--yes".toList, false, [.text, .datePicker, .text]⟩ ∧
      ∃ e, parse ("init".toList :: (["-c".toList, "d".toList] ++ args)) =
        .error e := by
  intro r args
  let choices : List Choice := [ofKinds [.text, .datePicker],
    valued .utils "--yes".toList,
    valued .directive (ofBool false), .yes, ofKinds [.text],
    valued .components [], valued .cwd "a=b,-c".toList]
  let groups : List (List FieldKind) := [[.text, .datePicker], [.text]]
  have hgroups : groups.flatten = r.kinds.getD [] := rfl
  have hperm : choices.Perm (spelled r groups) := by decide +kernel
  obtain ⟨hparse, hchoices, hrepeated⟩ := parse_spelled_request
    (by decide) (by decide) (by decide) (by decide) hgroups hperm (by decide)
  have hcwd : (valued .cwd "d".toList).option ∈ choices.map option :=
    List.mem_map.mpr ⟨valued .cwd "a=b,-c".toList, by decide, rfl⟩
  have hagain := hrepeated [] choices (valued .cwd "d".toList) ["-c".toList,
    "d".toList] rfl hcwd (by decide) (.shortApart rfl rfl)
  exact ⟨hparse, hchoices, hagain⟩

end FormScaffold.CommandLine
