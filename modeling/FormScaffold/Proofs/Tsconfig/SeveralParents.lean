import FormScaffold.Proofs.Tsconfig.NamedConfig
import Mathlib.Data.List.Forall2

/-!
# A configuration that extends several others

Of the configurations that one extends, a later one goes before an earlier one,
option by option.  The chain goes on with the last of them alone, so what is
inherited is what the last one states, and this is what they state together just
where the last one states the option or none of them does.
-/

namespace FormScaffold.Tsconfig

variable {w : Workspace} {config : Path} {own : Options}
  {entries : List (Path × Options)} {α : Type}

/-- The configurations that a configuration extends are there and can be read,
and extend nothing.  The entries say what they state, in their order. -/
structure ExtendsAll (w : Workspace) (config : Path) (own : Options)
    (entries : List (Path × Options)) : Prop where
  read : readConfig w config = .ok own
  found : List.Forall₂ (fun parent entry => ∃ c,
    parentConfig? w (directoryOf config) parent = some c ∧
    entry? w c = some entry)
    own.parents entries
  ends : ∀ entry ∈ entries, entry.2.parents = []

/-- What the last of the entries states that states anything. -/
def lastStated? (f : Path × Options → Option α)
    (entries : List (Path × Options)) : Option α :=
  entries.reverse.findSome? f

/-- If the last of the entries states nothing, none of them does. -/
def LastDecides (f : Path × Options → Option α)
    (entries : List (Path × Options)) : Prop :=
  ∀ last ∈ entries.getLast?, f last = none → ∀ entry ∈ entries, f entry = none

/-! ## The last entry and the others -/

theorem getLast?_of_forall₂ {β γ : Type} {R : β → γ → Prop} {l : List β}
    {m : List γ} (hall : List.Forall₂ R l m) :
    (l = [] ∧ m = []) ∨ ∃ b c, l.getLast? = some b ∧ m.getLast? = some c ∧
      R b c := by
  induction hall with
  | nil => exact Or.inl ⟨rfl, rfl⟩
  | @cons b c l m hbc hrest ih =>
      right
      rcases ih with ⟨rfl, rfl⟩ | ⟨b', c', hb', hc', hR⟩
      · exact ⟨b, c, rfl, rfl, hbc⟩
      · refine ⟨b', c', ?_, ?_, hR⟩
        · rw [List.getLast?_cons, hb', Option.getD_some]
        · rw [List.getLast?_cons, hc', Option.getD_some]

theorem lastStated?_concat (f : Path × Options → Option α)
    (before : List (Path × Options)) (last : Path × Options) :
    lastStated? f (before ++ [last]) = (f last).or (lastStated? f before) := by
  unfold lastStated?
  rw [List.reverse_append, List.reverse_singleton, List.singleton_append]
  cases hlast : f last <;> simp [hlast]

theorem lastStated?_eq_none_iff {f : Path × Options → Option α} :
    lastStated? f entries = none ↔ ∀ entry ∈ entries, f entry = none := by
  unfold lastStated?
  simp

/-- The last entry states what the entries state together, or nothing. -/
theorem getLast?_bind_eq_or (f : Path × Options → Option α)
    (entries : List (Path × Options)) :
    (entries.getLast? >>= f = lastStated? f entries ∧ LastDecides f entries) ∨
      (entries.getLast? >>= f = none ∧ lastStated? f entries ≠ none ∧
        ¬ LastDecides f entries) := by
  rcases List.eq_nil_or_concat entries with rfl | ⟨before, last, hentries⟩
  · exact Or.inl ⟨rfl, by simp [LastDecides]⟩
  rw [List.concat_eq_append] at hentries
  have hlast : entries.getLast? = some last := by simp [hentries]
  have hstated : lastStated? f entries =
      (f last).or (lastStated? f before) := by
    rw [hentries, lastStated?_concat]
  have hdecides : LastDecides f entries ↔
      (f last = none → lastStated? f entries = none) := by
    unfold LastDecides
    rw [hlast, lastStated?_eq_none_iff]
    simp
  have hbind : entries.getLast? >>= f = f last := by simp [hlast]
  rw [hbind, hdecides]
  cases hf : f last with
  | some a => simp [hstated, hf]
  | none =>
      cases hbefore : lastStated? f before <;> simp [hstated, hf, hbefore]

theorem getLast?_bind_eq_iff (f : Path × Options → Option α)
    (entries : List (Path × Options)) :
    entries.getLast? >>= f = lastStated? f entries ↔ LastDecides f entries := by
  rcases getLast?_bind_eq_or f entries with ⟨heq, hdecides⟩ |
    ⟨hnone, hsome, hnot⟩
  · exact iff_of_true heq hdecides
  · refine iff_of_false (fun heq => hsome ?_) hnot
    rw [← heq, hnone]

/-- With a value for what is not stated, the two also agree where the others
state this value. -/
theorem getLast?_bind_getD_eq_iff (f : Path × Options → Option α)
    (entries : List (Path × Options)) (a : α) :
    (entries.getLast? >>= f).getD a = (lastStated? f entries).getD a ↔
      LastDecides f entries ∨ lastStated? f entries = some a := by
  rcases getLast?_bind_eq_or f entries with ⟨heq, hdecides⟩ |
    ⟨hnone, hsome, hnot⟩
  · exact iff_of_true (by rw [heq]) (Or.inl hdecides)
  · obtain ⟨b, hb⟩ := Option.ne_none_iff_exists'.mp hsome
    simp [hnone, hb, hnot, eq_comm]

/-! ## The chain -/

/-- Behind a configuration that extends several the chain has the last of
them. -/
theorem ExtendsAll.chain_eq (hextends : ExtendsAll w config own entries)
    (fuel : ℕ) :
    chain w (fuel + 2) config =
      .ok ((directoryOf config, own) :: entries.getLast?.toList) := by
  rcases getLast?_of_forall₂ hextends.found with
    ⟨hparents, hentries⟩ | ⟨parent, entry, hparent, hentry, c, hc, hstates⟩
  · have hlast : extended? w config = none := by
      rw [extended?_of_ok hextends.read, hparents]
      rfl
    rw [chain_of_last hextends.read hlast, hentries]
    rfl
  · have hnext : extended? w config = some c := by
      rw [extended?_of_ok hextends.read, hparent]
      exact hc
    have hmem := List.mem_of_getLast? hentry
    obtain ⟨options, hoptions, hstated⟩ := Option.map_eq_some_iff.mp hstates
    have hread : readConfig w c = .ok options := by
      cases hread : readConfig w c with
      | error e => simp [hread, Except.toOption] at hoptions
      | ok o => simpa [hread, Except.toOption] using hoptions
    have hends : extended? w c = none := by
      rw [extended?_of_ok hread]
      have hnone : options.parents = [] := by
        simpa [← hstated] using hextends.ends entry hmem
      rw [hnone]
      rfl
    rw [chain_of_extended hextends.read hnext, chain_of_last hread hends,
      hentry, ← hstated]
    rfl

namespace Mapping

variable {project : Path}

/-- A project inherits from the last of the configurations that it extends.
What it does not set itself is what they set together, the later before the
earlier, exactly if the last one sets it or none does; for the patterns also if
what is set is what a project has that inherits none. -/
theorem load_of_several (hconfig : w.isFile (project.join fileName) = true)
    (hextends : ExtendsAll w (project.join fileName) own entries) :
    let mine := (directoryOf (project.join fileName), own)
    ∃ m, load w project = .ok m ∧
      m.baseUrl = (baseUrlOf mine).or (entries.getLast? >>= baseUrlOf) ∧
      (m.pathsDir, m.paths) =
        ((pathsOf mine).or (entries.getLast? >>= pathsOf)).getD (project, []) ∧
      (own.baseUrl = none →
        (m.baseUrl = lastStated? baseUrlOf entries ↔
          LastDecides baseUrlOf entries)) ∧
      (own.paths = none →
        ((m.pathsDir, m.paths) =
          (lastStated? pathsOf entries).getD (project, []) ↔
          LastDecides pathsOf entries ∨
            lastStated? pathsOf entries = some (project, []))) := by
  intro mine
  have hfound {β : Type} (f : Path × Options → Option β) :
      (mine :: entries.getLast?.toList).findSome? f =
        (f mine).or (entries.getLast? >>= f) := by
    cases hmine : f mine <;> cases entries.getLast? <;> simp [hmine]
  let found := ((pathsOf mine).or (entries.getLast? >>= pathsOf)).getD (project,
    [])
  let m : Mapping := ⟨project.join fileName,
    (baseUrlOf mine).or (entries.getLast? >>= baseUrlOf), found.1, found.2⟩
  have hload : load w project = .ok m :=
    (load_eq_ok_iff hconfig).mpr ⟨_, hextends.chain_eq 6, rfl, hfound baseUrlOf,
      congrArg (·.getD (project, [])) (hfound pathsOf)⟩
  refine ⟨m, hload, rfl, rfl, ?_, ?_⟩
  · intro hnone
    have hbase : m.baseUrl = entries.getLast? >>= baseUrlOf := by
      simp [m, mine, baseUrlOf, hnone]
    rw [hbase]
    exact getLast?_bind_eq_iff baseUrlOf entries
  · intro hnone
    have hpaths : (m.pathsDir, m.paths) =
        (entries.getLast? >>= pathsOf).getD (project, []) := by
      simp [m, found, mine, pathsOf, hnone]
    rw [hpaths]
    exact getLast?_bind_getD_eq_iff pathsOf entries (project, [])

/-- A project whose configuration extends two others, of which one sets the base
directory and the other one the patterns. -/
def divided : Workspace :=
  holding [("tsconfig.json",
    "\x7b\"extends\": [\"./base.json\", \"./aliases.json\"]\x7d"),
    ("base.json", "\x7b\"compilerOptions\": \x7b\"baseUrl\": \"src\"\x7d\x7d"),
    ("aliases.json",
      "\x7b\"compilerOptions\": \x7b\"paths\": \x7b\"@/*\": [\"*\"]\x7d\x7d\x7d")]

def baseEntry : Path × Options :=
  (⟨"app".toList⟩, ⟨[], some "src".toList, none⟩)

def aliasesEntry : Path × Options :=
  (⟨"app".toList⟩, ⟨[], none, some [("@/*".toList, ["*".toList])]⟩)

theorem extendsAll_divided :
    ExtendsAll divided ⟨"app/tsconfig.json".toList⟩
      ⟨["./base.json".toList, "./aliases.json".toList], none, none⟩
      [baseEntry, aliasesEntry] where
  read := by decide +kernel
  found :=
    .cons ⟨⟨"app/./base.json".toList⟩, by decide +kernel, by decide +kernel⟩
      (.cons
        ⟨⟨"app/./aliases.json".toList⟩, by decide +kernel, by decide +kernel⟩
        .nil)
  ends := by decide

/-- The patterns come from the last of the two, and with them no base
directory. -/
theorem load_of_several_divided :
    divided.isFile (Path.join ⟨"app".toList⟩ fileName) = true ∧
      ∃ m, load divided ⟨"app".toList⟩ = .ok m ∧ m.baseUrl = none ∧
        (m.pathsDir, m.paths) =
          (⟨"app".toList⟩, [("@/*".toList, ["*".toList])]) := by
  have hconfig : divided.isFile (Path.join ⟨"app".toList⟩ fileName) = true := by
    decide +kernel
  obtain ⟨m, hload, hbase, -, -, hpaths⟩ :=
    load_of_several hconfig extendsAll_divided
  have hdecides : LastDecides pathsOf [baseEntry, aliasesEntry] := by
    rw [← getLast?_bind_eq_iff]
    rfl
  exact ⟨hconfig, m, hload, hbase, (hpaths rfl).mpr (Or.inl hdecides)⟩

/-- The base directory that the first of the two sets is lost. -/
theorem load_divided_without_base :
    ExtendsAll divided (Path.join ⟨"app".toList⟩ fileName)
        ⟨["./base.json".toList, "./aliases.json".toList], none, none⟩
        [baseEntry, aliasesEntry] ∧
      lastStated? baseUrlOf [baseEntry, aliasesEntry] =
        some ⟨"app/src".toList⟩ ∧
      load divided ⟨"app".toList⟩ = .ok ⟨⟨"app/tsconfig.json".toList⟩, none,
        ⟨"app".toList⟩, [("@/*".toList, ["*".toList])]⟩ :=
  ⟨extendsAll_divided, by decide +kernel, by decide +kernel⟩

end Mapping

end FormScaffold.Tsconfig
