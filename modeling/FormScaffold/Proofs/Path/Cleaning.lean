import FormScaffold.Proofs.Path.Steps
import FormScaffold.FileTree.Basic
import Mathlib.Data.List.Infix

/-!
# What cleaning makes of a path

Read by the letter, a path leads up some levels and then down along some names;
two dots cancel the name before them, and climb where no name is left.  Cleaning
keeps the names.  Of the levels it keeps the last one only if their number is
odd: two dots that were kept are cancelled like a name by the next ones.  So a
relative path is spelled anew only if it climbs one level at most, and at the
root, above which there is nothing, the place stays the same.
-/

namespace FormScaffold

/-- So many levels up, and then down along these names. -/
structure Course where
  climbs : ℕ
  names : List Text
  deriving DecidableEq, Repr

namespace Course

def start : Course := ⟨0, []⟩

/-- One more component behind the course. -/
def follow (course : Course) : Component → Course
  | .root => course
  | .here => course
  | .name n => ⟨course.climbs, course.names ++ [n]⟩
  | .up =>
    if course.names = [] then ⟨course.climbs + 1, []⟩
    else ⟨course.climbs, course.names.dropLast⟩

/-- The steps that lead there without a detour. -/
def steps (course : Course) : List Component :=
  List.replicate course.climbs .up ++ course.names.map .name

/-- The course with its climbs cancelled in pairs. -/
def paired (course : Course) : Course := ⟨course.climbs % 2, course.names⟩

/-- The location that the course leads to.  Above the root there is the root. -/
def locationFrom (here : Location) (course : Course) : Location :=
  here.take (here.length - course.climbs) ++ course.names

end Course

/-- Where a path leads by the letter, from the place it is seen from. -/
def Path.course (p : Path) : Course :=
  p.components.foldl Course.follow Course.start

/-- The location that a component leads to.  Above the root there is the
root. -/
def Component.seenFrom (here : Location) : Component → Location
  | root => []
  | .here => here
  | up => here.dropLast
  | name n => here ++ [n]

/-- The location that a path leads to by the letter. -/
def Path.locationFrom (here : Location) (p : Path) : Location :=
  p.components.foldl Component.seenFrom here

/-! ## The names read so far -/

namespace Course

/-- The names that cleaning holds behind a course, the last on top. -/
def stack (course : Course) : List Text :=
  (course.paired.steps.map Component.segment).reverse

theorem stack_eq (course : Course) :
    course.stack =
      course.names.reverse ++
        List.replicate (course.climbs % 2) Component.upText := by
  have hsegment : Component.segment ∘ Component.name = id := rfl
  simp [stack, steps, paired, Component.segment, hsegment]

/-- The stack that is kept is that of the course.  Two dots on it are taken for
a name by the next two. -/
theorem cleanStep_stack (course : Course) (component : Component) :
    Path.cleanStep course.stack component =
      (course.follow component).stack := by
  cases component with
  | root => rfl
  | here => rfl
  | name n => simp [Path.cleanStep, follow, stack_eq]
  | up =>
      rw [stack_eq]
      by_cases hnames : course.names = []
      · rcases Nat.mod_two_eq_zero_or_one course.climbs with heven | hodd
        · have hnext : (course.climbs + 1) % 2 = 1 := by omega
          simp [Path.cleanStep, follow, stack_eq, hnames, heven, hnext]
        · have hnext : (course.climbs + 1) % 2 = 0 := by omega
          simp [Path.cleanStep, follow, stack_eq, hnames, hodd, hnext]
      · rcases List.eq_nil_or_concat course.names with hnil | ⟨names, n, hlast⟩
        · exact absurd hnil hnames
        · simp [Path.cleanStep, follow, stack_eq, hlast]

theorem foldl_cleanStep_stack (course : Course) (cs : List Component) :
    cs.foldl Path.cleanStep course.stack = (cs.foldl follow course).stack := by
  induction cs generalizing course with
  | nil => rfl
  | cons c cs ih =>
      rw [List.foldl_cons, List.foldl_cons, cleanStep_stack, ih]

theorem paired_follow_paired (course : Course) (component : Component) :
    (course.paired.follow component).paired =
      (course.follow component).paired := by
  cases component with
  | root => simp [follow, paired]
  | here => simp [follow, paired]
  | name n => simp [follow, paired]
  | up =>
      by_cases hnames : course.names = [] <;> simp [follow, paired, hnames]

theorem paired_foldl_follow_paired (course : Course) (cs : List Component) :
    (cs.foldl follow course.paired).paired =
      (cs.foldl follow course).paired := by
  induction cs generalizing course with
  | nil => simp [paired]
  | cons c cs ih =>
      rw [List.foldl_cons, List.foldl_cons, ← ih, paired_follow_paired, ih]

theorem isStep_of_mem_follow {course : Course} {component : Component}
    (hcourse : ∀ n ∈ course.names, (Component.name n).IsStep)
    (hcomponent : ∀ n, component = .name n → (Component.name n).IsStep) :
    ∀ n ∈ (course.follow component).names, (Component.name n).IsStep := by
  intro n hn
  cases component with
  | root => exact hcourse n hn
  | here => exact hcourse n hn
  | name m =>
      rcases List.mem_append.mp hn with hold | hnew
      · exact hcourse n hold
      · exact hcomponent n (by rw [List.mem_singleton.mp hnew])
  | up =>
      simp only [follow] at hn
      split at hn
      next => simp at hn
      next => exact hcourse n (List.mem_of_mem_dropLast hn)

theorem isStep_of_mem_foldl {cs : List Component} {course : Course}
    (hcourse : ∀ n ∈ course.names, (Component.name n).IsStep)
    (hcs : ∀ n, .name n ∈ cs → (Component.name n).IsStep) :
    ∀ n ∈ (cs.foldl follow course).names, (Component.name n).IsStep := by
  induction cs generalizing course with
  | nil => exact hcourse
  | cons c cs ih =>
      rw [List.foldl_cons]
      apply ih
      · apply isStep_of_mem_follow hcourse
        rintro n rfl
        exact hcs n List.mem_cons_self
      · intro n hn
        exact hcs n (List.mem_cons_of_mem c hn)

theorem isStep_of_mem_steps {course : Course}
    (hcourse : ∀ n ∈ course.names, (Component.name n).IsStep) :
    ∀ c ∈ course.steps, c.IsStep := by
  intro c hc
  rcases List.mem_append.mp hc with hup | hname
  · rw [List.eq_of_mem_replicate hup]
    exact Component.isStep_up
  · rcases List.mem_map.mp hname with ⟨n, hn, rfl⟩
    exact hcourse n hn

end Course

/-! ## Cleaning -/

namespace Path

theorem isStep_of_mem_course (p : Path) :
    ∀ n ∈ p.course.names, (Component.name n).IsStep := by
  apply Course.isStep_of_mem_foldl
  · intro n hn
    simp [Course.start] at hn
  · intro n hn
    rw [components_eq_lead_append_steps] at hn
    rcases List.mem_append.mp hn with hlead | hstep
    · unfold lead at hlead
      split at hlead
      next => simp at hlead
      next => split at hlead <;> simp at hlead
    · exact isStep_of_mem_steps hstep

theorem isStep_of_mem_paired (p : Path) :
    ∀ c ∈ p.course.paired.steps, c.IsStep :=
  Course.isStep_of_mem_steps p.isStep_of_mem_course

theorem clean_eq_ofNames (p : Path) :
    p.clean =
      ofNames p.isAbsolute (p.course.paired.steps.map Component.segment) := by
  have hstack : p.components.foldl cleanStep [] = p.course.stack :=
    Course.foldl_cleanStep_stack Course.start p.components
  unfold clean
  rw [hstack, Course.stack, List.reverse_reverse]

theorem isAbsolute_clean (p : Path) : p.clean.isAbsolute = p.isAbsolute := by
  rw [clean_eq_ofNames]
  exact isAbsolute_ofNames p.isStep_of_mem_paired p.isAbsolute

theorem steps_clean (p : Path) : p.clean.steps = p.course.paired.steps := by
  rw [clean_eq_ofNames, steps_ofNames p.isStep_of_mem_paired]

theorem components_clean (p : Path) :
    p.clean.components =
      (if p.isAbsolute then [.root] else []) ++ p.course.paired.steps := by
  rw [components_eq_lead_append_steps, steps_clean, clean_eq_ofNames,
    lead_ofNames p.isStep_of_mem_paired]

/-- Cleaning a relative path keeps its names and the parity of its climbs. -/
theorem components_clean_of_relative {p : Path} (hp : p.isAbsolute = false) :
    p.clean.components =
      List.replicate (p.course.climbs % 2) .up ++ p.course.names.map .name := by
  rw [components_clean, if_neg (by simp [hp])]
  rfl

theorem components_clean_eq_steps_iff {p : Path} (hp : p.isAbsolute = false) :
    p.clean.components = p.course.steps ↔ p.course.climbs ≤ 1 := by
  unfold Course.steps
  rw [components_clean_of_relative hp, List.append_cancel_right_eq]
  constructor
  · intro hsame
    have hlength := congrArg List.length hsame
    rw [List.length_replicate, List.length_replicate] at hlength
    omega
  · intro hclimbs
    rw [Nat.mod_eq_of_lt (by omega)]

/-! ## Locations -/

theorem seenFrom_locationFrom (here : Location) (course : Course)
    (component : Component) (hroot : component ≠ .root) :
    component.seenFrom (course.locationFrom here) =
      (course.follow component).locationFrom here := by
  cases component with
  | root => exact absurd rfl hroot
  | here => rfl
  | name n => simp [Component.seenFrom, Course.follow, Course.locationFrom]
  | up =>
      by_cases hnames : course.names = []
      · simp [Component.seenFrom, Course.follow, Course.locationFrom, hnames,
          List.dropLast_eq_take, List.take_take]
        omega
      · simp [Component.seenFrom, Course.follow, Course.locationFrom, hnames,
          List.dropLast_append_of_ne_nil]

theorem foldl_seenFrom (here : Location) {cs : List Component}
    (hcs : .root ∉ cs) (course : Course) :
    cs.foldl Component.seenFrom (course.locationFrom here) =
      (cs.foldl Course.follow course).locationFrom here := by
  induction cs generalizing course with
  | nil => rfl
  | cons c cs ih =>
      rw [List.mem_cons, not_or] at hcs
      rw [List.foldl_cons, List.foldl_cons,
        seenFrom_locationFrom here course c (Ne.symm hcs.1), ih hcs.2]

theorem root_not_mem_steps (p : Path) : .root ∉ p.steps := by
  intro hroot
  exact absurd rfl (isStep_of_mem_steps hroot).ne_nil

theorem locationFrom_start (here : Location) :
    Course.start.locationFrom here = here := by
  simp [Course.start, Course.locationFrom]

theorem locationFrom_nil (course : Course) :
    course.locationFrom [] = course.names := by
  simp [Course.locationFrom]

theorem follow_lead (p : Path) :
    p.lead.foldl Course.follow Course.start = Course.start := by
  unfold lead
  split
  · rfl
  · split <;> rfl

theorem course_eq_foldl_steps (p : Path) :
    p.course = p.steps.foldl Course.follow Course.start := by
  unfold course
  rw [components_eq_lead_append_steps, List.foldl_append, follow_lead]

theorem locationFrom_of_isAbsolute {p : Path} (hp : p.isAbsolute = true)
    (here : Location) : p.locationFrom here = p.course.names := by
  have hcomponents : p.components = .root :: p.steps := by
    rw [components_eq_lead_append_steps, lead, if_pos hp]
    rfl
  have hsteps := foldl_seenFrom [] p.root_not_mem_steps Course.start
  rw [locationFrom_start, locationFrom_nil, ← course_eq_foldl_steps] at hsteps
  unfold locationFrom
  rw [hcomponents]
  exact hsteps

theorem locationFrom_of_relative {p : Path} (hp : p.isAbsolute = false)
    (here : Location) : p.locationFrom here = p.course.locationFrom here := by
  have hlead : p.lead.foldl Component.seenFrom here = here := by
    unfold lead
    rw [if_neg (by simp [hp])]
    split <;> rfl
  have hsteps := foldl_seenFrom here p.root_not_mem_steps Course.start
  rw [locationFrom_start, ← course_eq_foldl_steps] at hsteps
  unfold locationFrom
  rw [components_eq_lead_append_steps, List.foldl_append, hlead]
  exact hsteps

theorem foldl_follow_ups (climbs more : ℕ) :
    (List.replicate more Component.up).foldl Course.follow ⟨climbs, []⟩ =
      ⟨climbs + more, []⟩ := by
  induction more generalizing climbs with
  | zero => rfl
  | succ more ih =>
      have hstep : Course.follow ⟨climbs, []⟩ .up = ⟨climbs + 1, []⟩ := rfl
      rw [List.replicate_succ, List.foldl_cons, hstep, ih, Nat.add_right_comm]
      rfl

theorem foldl_follow_names (climbs : ℕ) (names more : List Text) :
    (more.map Component.name).foldl Course.follow ⟨climbs, names⟩ =
      ⟨climbs, names ++ more⟩ := by
  induction more generalizing names with
  | nil => simp
  | cons n more ih =>
      have hstep : Course.follow ⟨climbs, names⟩ (.name n) =
          ⟨climbs, names ++ [n]⟩ := rfl
      rw [List.map_cons, List.foldl_cons, hstep, ih, List.append_assoc]
      rfl

theorem foldl_follow_steps (course : Course) :
    course.steps.foldl Course.follow Course.start = course := by
  unfold Course.steps Course.start
  rw [List.foldl_append, foldl_follow_ups, foldl_follow_names]
  simp

theorem course_clean (p : Path) : p.clean.course = p.course.paired := by
  rw [course_eq_foldl_steps, steps_clean, foldl_follow_steps]

theorem locationFrom_clean {p : Path} (hp : p.isAbsolute = true)
    (here : Location) : p.clean.locationFrom here = p.locationFrom here := by
  rw [locationFrom_of_isAbsolute hp,
    locationFrom_of_isAbsolute (p.isAbsolute_clean.trans hp), course_clean]
  rfl

/-- Cleaning a relative path leaves the place it leads to only if the path
climbs one level at most. -/
theorem locationFrom_clean_eq_iff {p : Path} (hp : p.isAbsolute = false) :
    (∀ here, p.clean.locationFrom here = p.locationFrom here) ↔
      p.course.climbs ≤ 1 := by
  have hclean : ∀ here,
      p.clean.locationFrom here = p.course.paired.locationFrom here := by
    intro here
    rw [locationFrom_of_relative (p.isAbsolute_clean.trans hp), course_clean]
  constructor
  · intro hsame
    have hplace := hsame (List.replicate p.course.climbs [])
    rw [hclean, locationFrom_of_relative hp] at hplace
    have hlength := congrArg List.length hplace
    simp [Course.locationFrom, Course.paired] at hlength
    omega
  · intro hclimbs here
    have hpaired : p.course.paired = p.course := by
      unfold Course.paired
      rw [Nat.mod_eq_of_lt (by omega)]
    rw [hclean, locationFrom_of_relative hp, hpaired]

theorem dot_not_mem_segments_clean {p : Path} (hp : p.isAbsolute = true) :
    ['.'] ∉ p.clean.segments := by
  rw [clean_eq_ofNames, hp]
  have hsteps := p.isStep_of_mem_paired
  rcases eq_or_ne p.course.paired.steps [] with hnil | hne
  · rw [hnil]
    decide
  · rw [segments_ofNames hsteps hne]
    intro hdot
    have hmem : ['.'] ∈ p.course.paired.steps.map Component.segment := by
      simpa using hdot
    rcases List.mem_map.mp hmem with ⟨c, hc, hsegment⟩
    have hread := (hsteps c hc).1
    simp [hsegment, Component.ofSegment?] at hread

/-! ## Cleaning in two steps -/

theorem course_join (p : Path) {q : Path} (hq : q.isAbsolute = false) :
    (p.join q).course = q.steps.foldl Course.follow p.course := by
  rw [course_eq_foldl_steps, steps_join p hq, List.foldl_append,
    ← course_eq_foldl_steps]

theorem clean_congr {p q : Path} (habsolute : p.isAbsolute = q.isAbsolute)
    (hcourse : p.course.paired = q.course.paired) : p.clean = q.clean := by
  rw [clean_eq_ofNames, clean_eq_ofNames, habsolute, hcourse]

/-- A path may be cleaned before another is joined to it, because the climbs
that cleaning drops are dropped in pairs. -/
theorem clean_join_clean (p q : Path) :
    (p.clean.join q).clean = (p.join q).clean := by
  cases hq : q.isAbsolute with
  | true => simp only [join, if_pos hq]
  | false =>
      apply clean_congr
      · rw [isAbsolute_join _ hq, isAbsolute_join _ hq, isAbsolute_clean]
      · rw [course_join _ hq, course_join _ hq, course_clean,
          Course.paired_foldl_follow_paired]

theorem clean_clean (p : Path) : p.clean.clean = p.clean := by
  apply clean_congr p.isAbsolute_clean
  rw [course_clean]
  exact Course.paired_foldl_follow_paired p.course []

end Path
end FormScaffold
