import FormScaffold.Proofs.Tsconfig.Inheritance

/-!
# Cleaning the base directory

The base directory of a configuration is cleaned when it is read, and what a
mapping names is cleaned again.  The first cleaning makes no difference to the
directory that an alias leads to, although a relative base may lie elsewhere
once it is cleaned.
-/

namespace FormScaffold.Tsconfig

/-- The base directory as a configuration writes it. -/
def writtenBaseUrlOf (entry : Path × Options) : Option Path :=
  entry.2.baseUrl.map fun base => entry.1.join ⟨base⟩

theorem nearestBaseUrl?_eq_map_clean (configs : List (Path × Options)) :
    nearestBaseUrl? configs =
      (configs.findSome? writtenBaseUrlOf).map Path.clean := by
  rw [List.map_findSome?]
  apply congrArg (configs.findSome? ·)
  funext entry
  simp [writtenBaseUrlOf, Function.comp_def]

namespace Mapping

/-- The mapping with its targets seen from another base directory. -/
def rebased (m : Mapping) (base? : Option Path) : Mapping :=
  { m with baseUrl := base? }

theorem resolve_rebased_map_clean (m : Mapping) (base? : Option Path)
    (importAlias : Text) :
    (m.rebased (base?.map Path.clean)).resolve importAlias =
      (m.rebased base?).resolve importAlias := by
  cases base? with
  | none => rfl
  | some base =>
      have hnamed : ∀ b : Path, (m.rebased (some b)).resolve importAlias =
          (bestFit? m.paths importAlias).bind fun fit =>
            fit.targets.head?.map fun target =>
              (b.join ⟨substitute fit.captured target⟩).clean := by
        intro b
        rw [resolve_eq_map_clean]
        simp [named?, rebased, Mapping.base, Option.map_bind, Function.comp_def]
      rw [Option.map_some, hnamed, hnamed]
      simp only [Path.clean_join_clean]

theorem exists_rebased_of_load {w : Workspace} {project : Path} {m : Mapping}
    (hload : load w project = .ok m) :
    ∃ configs, chain w maxChain (project.join fileName) = .ok configs ∧
      m = m.rebased ((configs.findSome? writtenBaseUrlOf).map Path.clean) := by
  cases hconfig : w.isFile (project.join fileName) with
  | false =>
      rw [load_of_not_isFile hconfig] at hload
      cases hload
  | true =>
      obtain ⟨configs, hchain, -, hbase, -⟩ := (load_eq_ok_iff hconfig).mp hload
      refine ⟨configs, hchain, ?_⟩
      change nearestBaseUrl? configs = m.baseUrl at hbase
      rw [← nearestBaseUrl?_eq_map_clean, hbase]
      rfl

/-- Cleaning in two steps is cleaning once: a path may be cleaned before another
is joined to it, and a clean path is left as it is.  Cleaning moves no path to
the root or away from it.  So an alias leads from the cleaned base directory
where it leads from the written one, and the mapping of a project leads where it
would if the base directory were kept as the nearest configuration writes it. -/
theorem clean_before_join :
    (∀ p q : Path, (p.clean.join q).clean = (p.join q).clean) ∧
    (∀ p : Path, p.clean.clean = p.clean ∧ p.clean.isAbsolute = p.isAbsolute) ∧
    (∀ (m : Mapping) (base : Path) (importAlias : Text),
      (m.rebased (some base.clean)).resolve importAlias =
        (m.rebased (some base)).resolve importAlias) ∧
    ∀ (w : Workspace) (project : Path) (m : Mapping), load w project = .ok m →
      ∃ configs, chain w maxChain (project.join fileName) = .ok configs ∧
        m.baseUrl = (configs.findSome? writtenBaseUrlOf).map Path.clean ∧
        ∀ importAlias, m.resolve importAlias =
          (m.rebased (configs.findSome? writtenBaseUrlOf)).resolve
            importAlias := by
  refine ⟨Path.clean_join_clean,
    fun p => ⟨p.clean_clean, p.isAbsolute_clean⟩, ?_, ?_⟩
  · intro m base importAlias
    exact m.resolve_rebased_map_clean (some base) importAlias
  · intro w project m hload
    obtain ⟨configs, hchain, hm⟩ := exists_rebased_of_load hload
    refine ⟨configs, hchain, congrArg Mapping.baseUrl hm, ?_⟩
    intro importAlias
    rw [← m.resolve_rebased_map_clean, ← hm]

/-- The base directory climbs three levels, of which cleaning keeps one, and the
target climbs another. -/
theorem clean_before_join_of_climbing_base :
    let w := configured
      "\x7b\"compilerOptions\": \x7b
        \"baseUrl\": \"../../..\", \"paths\": \x7b\"@/*\": [\"../*\"]\x7d\x7d\x7d".toList
    let project : Path := ⟨"../app".toList⟩
    ∃ m configs, load w project = .ok m ∧
      chain w maxChain (project.join fileName) = .ok configs ∧
      configs.findSome? writtenBaseUrlOf = some ⟨"../app/../../..".toList⟩ ∧
      m.baseUrl = some ⟨"..".toList⟩ ∧
      m.resolve "@/x".toList = some ⟨"x".toList⟩ ∧
      (m.rebased (some ⟨"../app/../../..".toList⟩)).resolve "@/x".toList =
        some ⟨"x".toList⟩ := by
  intro w project
  let m : Mapping := ⟨⟨"../app/tsconfig.json".toList⟩, some ⟨"..".toList⟩,
    ⟨"../app".toList⟩, [("@/*".toList, ["../*".toList])]⟩
  have hload : load w project = .ok m := by decide +kernel
  have hresolve : m.resolve "@/x".toList = some ⟨"x".toList⟩ := by
    decide +kernel
  obtain ⟨configs, hchain, -, hsame⟩ :=
    clean_before_join.2.2.2 w project m hload
  have hwritten : configs.findSome? writtenBaseUrlOf =
      some ⟨"../app/../../..".toList⟩ := by
    have hconfigs : (chain w maxChain (project.join fileName)).toOption.bind
        (·.findSome? writtenBaseUrlOf) = some ⟨"../app/../../..".toList⟩ := by
      decide +kernel
    rw [hchain] at hconfigs
    exact hconfigs
  refine ⟨m, configs, hload, hchain, hwritten, rfl, hresolve, ?_⟩
  rw [← hwritten, ← hsame, hresolve]

end Mapping
end FormScaffold.Tsconfig
