import Variadic.Expansion
import Variadic.Proofs.Defects
import Variadic.Proofs.Manifests

/-!
# What an expansion prints

An expansion ends in one of a few ways: the configuration is at fault, the input is, a number is
written, or a template is invoked. `Prints` says for each of them what is printed with a trace and
without one, and `expand_prints` that every expansion ends in one of these ways. A trace adds lines
of its own and changes nothing else.
-/

namespace Variadic

/-! ## Lines -/

namespace Report

/-- What is printed, each event with its text. -/
def lines (r : Report) : List String :=
  r.events.map Event.text

/-- The report without its trace. -/
def untraced (r : Report) : Report :=
  ⟨r.events.filter (!·.isTrace), r.outcome⟩

end Report

namespace Macro

def callLine (m : Macro) (input : List Token) : String :=
  m.title ++ "(" ++ Token.textAll input ++ ")"

/-- The line about a template that is going to be invoked, with the number of the fixed parameters
and that of the arguments. -/
def planLine (m : Macro) (path : Path) (fixed : Nat) (shape : Shape) (args : Nat) : String :=
  m.title ++ ": template `" ++ Token.textAll path.tokens ++ "`, " ++ toString fixed
    ++ " fixed parameter(s) (" ++ shape.name ++ "), " ++ toString args ++ " argument(s)"

def resultLine (m : Macro) (tokens : List Token) : String :=
  m.title ++ " => " ++ Token.textAll tokens

/-- How an expansion ends, given the limits or why there are none: the outcome, what is printed with
a trace, and what is printed without. -/
inductive Prints (m : Macro) (input : List Token) :
    Except Issue Limits → Except Issue (List Token) → List String → List String → Prop
  | misconfigured (fault : ConfigurationFault) :
      Prints m input (.error (Issue.general (.configuration fault)))
        (.error (Issue.general (.configuration fault))) [m.callLine input] []
  /-- A numeric macro fails. -/
  | noNumber {limits : Limits} {e : Issue} (hm : m.isNumeric)
      (h : m.evaluate input limits = .error e) :
      Prints m input (.ok limits) (.error e) [m.callLine input] []
  | number {limits : Limits} {x : Expansion} (hm : m.isNumeric)
      (h : m.evaluate input limits = .ok x) :
      Prints m input (.ok limits) (.ok x.tokens) [m.callLine input, m.resultLine x.tokens] []
  /-- An iteration fails at one of its stages. -/
  | noIteration {limits : Limits} {e : Issue} (hm : m.isNumeric = false)
      (h : m.Rejects input limits e) :
      Prints m input (.ok limits) (.error e) [m.callLine input] []
  /-- An iteration passes all its stages. -/
  | iteration {limits : Limits} {x : Expansion} {template : Argument}
      {given args fixed : List Argument} {stem : List Token} {path : Path} {shape : Shape}
      {warning : Option Issue}
      (hm : m.isNumeric = false) (hinput : m.Divides input template given args)
      (hstem : template.HasStem stem) (hpath : Path.parse stem = .ok path)
      (hfixed : m.GivenBy given fixed)
      (hshape : m.fixedParameters given = .ok (⟨shape, fixed⟩, warning))
      (hargs : args.length ≤ m.bound limits) (h : m.iterate input limits = .ok x)
      (hwarnings : x.warnings.length ≤ 1) :
      Prints m input (.ok limits) (.ok x.tokens)
        (m.callLine input :: m.planLine path fixed.length shape args.length
          :: x.warnings.map Issue.report ++ [m.resultLine x.tokens])
        (x.warnings.map Issue.report)

end Macro

theorem Event.map_text_warning (is : List Issue) :
    (is.map warning).map text = is.map Issue.report := by
  rw [List.map_map]
  rfl

/-- Of warnings between events of the trace, only the warnings are left without it. -/
theorem Report.lines_untraced {before after : List Event} (is : List Issue)
    (outcome : Except Issue (List Token)) (hbefore : ∀ event ∈ before, event.isTrace)
    (hafter : ∀ event ∈ after, event.isTrace) :
    (Report.untraced ⟨before ++ is.map .warning ++ after, outcome⟩).lines
      = is.map Issue.report := by
  have hnone {events : List Event} (h : ∀ event ∈ events, event.isTrace) :
      events.filter (!·.isTrace) = [] := by
    rw [List.filter_eq_nil_iff]
    intro event hevent
    rw [h event hevent]
    exact Bool.false_ne_true
  have hwarnings : (is.map Event.warning).filter (!·.isTrace) = is.map .warning := by
    rw [List.filter_eq_self]
    intro event hevent
    obtain ⟨i, -, rfl⟩ := List.mem_map.1 hevent
    rfl
  rw [untraced, lines, List.filter_append, List.filter_append, hnone hbefore, hnone hafter,
    hwarnings, List.nil_append, List.append_nil, Event.map_text_warning]

namespace Macro

variable {m : Macro} {input : List Token} {limits : Limits}

/-! ## Reports -/

theorem fullReport_of_evaluate_error (hm : m.isNumeric) {e : Issue}
    (h : m.evaluate input limits = .error e) :
    m.fullReport input (.ok limits) = ⟨[.call m input], .error e⟩ := by
  rw [fullReport, run, if_pos hm, h]

theorem fullReport_of_evaluate (hm : m.isNumeric) {x : Expansion}
    (h : m.evaluate input limits = .ok x) :
    m.fullReport input (.ok limits)
      = ⟨[.call m input] ++ x.warnings.map .warning ++ [.result m x.tokens], .ok x.tokens⟩ := by
  rw [fullReport, run, if_pos hm, h]
  rfl

theorem fullReport_of_plan_error (hm : m.isNumeric = false) {e : Issue}
    (h : m.plan input limits = .error e) :
    m.fullReport input (.ok limits) = ⟨[.call m input], .error e⟩ := by
  rw [fullReport, run, if_neg (by rw [hm]; exact Bool.false_ne_true), h]

theorem fullReport_of_plan (hm : m.isNumeric = false) {p : Plan}
    (h : m.plan input limits = .ok p) :
    m.fullReport input (.ok limits)
      = ⟨[.call m input, .planned p] ++ p.warnings.map .warning ++ [.result m p.tokens],
        .ok p.tokens⟩ := by
  rw [fullReport, run, if_neg (by rw [hm]; exact Bool.false_ne_true), h]
  rfl

section

variable (explain : String → String) (m : Macro) (input : List Token) (files : FileTree)
  (dir : Option String)

/-- With a trace, everything is printed. -/
theorem expand_traced :
    m.expand input ⟨explain, files, dir, true⟩
      = m.fullReport input (Limits.load explain files dir) :=
  rfl

/-- Without one, the lines of the trace are left out. -/
theorem expand_untraced :
    m.expand input ⟨explain, files, dir, false⟩
      = (m.fullReport input (Limits.load explain files dir)).untraced :=
  rfl

end

/-- The outcome is that of the full report, whether or not the trace is printed. -/
theorem outcome_expand (m : Macro) (input : List Token) (env : Environment) :
    (m.expand input env).outcome
      = (m.fullReport input (Limits.load env.explain env.files env.dir)).outcome := by
  unfold expand
  dsimp only
  split
  · rfl
  · rfl

/-- Without limits nothing is looked at. -/
theorem outcome_expand_of_load_error {env : Environment} {e : Issue}
    (h : Limits.load env.explain env.files env.dir = .error e) (m : Macro) (input : List Token) :
    (m.expand input env).outcome = .error e := by
  rw [outcome_expand, h]
  rfl

/-- Reading the configuration fails with a fault of the configuration only. -/
theorem exists_fault_of_load_error {explain : String → String} {files : FileTree}
    {dir : Option String} {e : Issue}
    (h : Limits.load explain files dir = .error e) :
    ∃ fault, e = Issue.general (.configuration fault) := by
  unfold Limits.load at h
  split at h
  · cases h
  · split at h
    · cases h
    · next fault _ =>
      obtain rfl := Except.error.inj h
      exact ⟨fault, rfl⟩

/-! ## Ends -/

/-- Numeric macros do not warn. -/
theorem warnings_of_evaluate {x : Expansion} (h : m.evaluate input limits = .ok x) :
    x.warnings = [] := by
  unfold evaluate at h
  split at h
  · cases h
  · obtain rfl := Except.ok.inj h
    rfl

/-- A numeric macro writes a number or fails. -/
theorem prints_numeric (hm : m.isNumeric) (input : List Token) (limits : Limits) :
    Prints m input (.ok limits) (m.fullReport input (.ok limits)).outcome
      (m.fullReport input (.ok limits)).lines
      (m.fullReport input (.ok limits)).untraced.lines := by
  cases h : m.evaluate input limits with
  | error e =>
    rw [fullReport_of_evaluate_error hm h]
    exact .noNumber hm h
  | ok x =>
    rw [fullReport_of_evaluate hm h, warnings_of_evaluate h]
    exact .number hm h

/-- An iteration is rejected for its first defect, or goes by its plan. -/
theorem prints_iteration (hm : m.isNumeric = false) (input : List Token) (limits : Limits) :
    Prints m input (.ok limits) (m.fullReport input (.ok limits)).outcome
      (m.fullReport input (.ok limits)).lines
      (m.fullReport input (.ok limits)).untraced.lines := by
  cases h : m.plan input limits with
  | error e =>
    rw [fullReport_of_plan_error hm h]
    exact .noIteration hm (rejects_of_plan_eq_error hm h)
  | ok p =>
    obtain ⟨template, given, hp⟩ := plan_eq_ok_iff.1 h
    obtain ⟨warning, hfixed, hwarnings⟩ := hp.fixed
    obtain ⟨stem, hstem, hpath⟩ := Template.parse_eq_ok_iff.1 hp.parse
    -- the plan has passed every stage
    have hargs : p.args.length ≤ m.bound limits := by
      rw [← get_ceiling_eq_bound]
      exact checkCeiling_eq_ok_iff.1 hp.ceiling
    have hwarning : p.expansion.warnings.length ≤ 1 := by
      show p.warnings.length ≤ 1
      rw [hwarnings]
      cases warning <;> simp
    have hprints := Prints.iteration hm
      (divides_iff.2 ⟨hp.split, hp.leading⟩) hstem hpath
      (givenBy_of_fixedParameters hp.leading hfixed) hfixed hargs
      (iterate_eq_ok_iff.2 ⟨p, h, rfl⟩) hwarning
    have hsummary : p.summary
        = m.planLine p.template.path p.fixed.params.length p.fixed.shape p.args.length := by
      rw [← hp.kind]
      rfl
    rw [fullReport_of_plan hm h, Report.lines_untraced p.warnings _ (by simp [Event.isTrace])
      (by simp [Event.isTrace]), Report.lines, List.map_append, List.map_append,
      Event.map_text_warning]
    simp only [List.map_cons, List.map_nil, Event.text, hsummary]
    exact hprints

/-- Every expansion ends in one of the ways listed, and prints what is said for it. -/
theorem prints_expand (explain : String → String) (m : Macro) (input : List Token)
    (files : FileTree) (dir : Option String) :
    Prints m input (Limits.load explain files dir)
      (m.expand input ⟨explain, files, dir, false⟩).outcome
      (m.expand input ⟨explain, files, dir, true⟩).lines
      (m.expand input ⟨explain, files, dir, false⟩).lines := by
  rw [outcome_expand, expand_traced, expand_untraced]
  dsimp only
  cases hload : Limits.load explain files dir with
  | error e =>
    obtain ⟨fault, rfl⟩ := exists_fault_of_load_error hload
    exact .misconfigured fault
  | ok limits =>
    cases hm : m.isNumeric with
    | true => exact prints_numeric hm input limits
    | false => exact prints_iteration hm input limits

/-- A template is announced if the input is accepted by an iteration. -/
theorem exists_planned_iff (m : Macro) (input : List Token) (limits : Except Issue Limits) :
    (∃ p, .planned p ∈ (m.fullReport input limits).events)
      ↔ ∃ l, limits = .ok l ∧ m.isNumeric = false ∧ m.Accepts input l := by
  cases limits with
  | error e => simp [fullReport]
  | ok limits =>
    simp only [Except.ok.injEq, exists_eq_left']
    cases hm : m.isNumeric with
    | true =>
      cases h : m.evaluate input limits with
      | error e => simp [fullReport_of_evaluate_error hm h]
      | ok x => simp [fullReport_of_evaluate hm h]
    | false =>
      rw [← exists_plan_iff]
      cases h : m.plan input limits with
      | error e => simp [fullReport_of_plan_error hm h]
      | ok p => simp [fullReport_of_plan hm h]

end Macro

/-- **Tracing changes nothing but what is printed.** The outcome is the same with a trace and
without one, and what is printed is told by the way in which the expansion ends. A template is
announced exactly where an iteration passes all its stages. Where there are no limits, every call
fails with the fault of the configuration. -/
theorem expand_prints (explain : String → String) (m : Macro) (input : List Token)
    (files : FileTree) (dir : Option String) :
    let limits := Limits.load explain files dir
    let on := m.expand input ⟨explain, files, dir, true⟩
    let off := m.expand input ⟨explain, files, dir, false⟩
    on.outcome = off.outcome
      ∧ m.Prints input limits off.outcome on.lines off.lines
      ∧ ((∃ p, .planned p ∈ on.events)
          ↔ ∃ l, limits = .ok l ∧ m.isNumeric = false ∧ m.Accepts input l)
      ∧ ∀ e, limits = .error e →
          (∃ fault, e = Issue.general (.configuration fault))
            ∧ ∀ trace, (m.expand input ⟨explain, files, dir, trace⟩).outcome = .error e := by
  refine ⟨rfl, Macro.prints_expand explain m input files dir,
    Macro.exists_planned_iff m input _, ?_⟩
  intro e he
  exact ⟨Macro.exists_fault_of_load_error he,
    fun trace => Macro.outcome_expand_of_load_error he m input⟩

/-- `par_each_idx!(f, (p), a)`, which has a warning between the lines of its trace, and which fails
in a directory with a manifest that cannot be read as one. -/
theorem expand_prints_warning :
    let comma : Token := .mark ','
    let p : Token := .ident "p" .callSite
    let a : Token := .ident "a" .callSite
    let input : List Token :=
      [.ident "f" .callSite, comma, .group .paren [p] .callSite, comma, a]
    let explain := explainLoneKey
    let broken : FileTree := .directory [(manifestName, .file (.text loneKey))]
    let warning := "[WARNING] Parentheses around a single fixed parameter are redundant, `p` is "
      ++ "passed as is. Use `((p))` to pass a parenthesized value."
    (Macro.parEachIdx.expand input ⟨explain, .empty, none, true⟩).lines
        = ["par_each_idx!(f , (p) , a)",
          "par_each_idx!: template `f`, 1 fixed parameter(s) (Tuple), 1 argument(s)", warning,
          "par_each_idx! => f ! { p , a , 0 }"]
      ∧ (Macro.parEachIdx.expand input ⟨explain, .empty, none, false⟩).lines = [warning]
      ∧ Macro.parEachIdx.Accepts input {}
      ∧ ∃ fault,
        Limits.load explain broken (some "") = .error (Issue.general (.configuration fault))
        ∧ ∀ trace, (Macro.parEachIdx.expand input ⟨explain, broken, some "", trace⟩).outcome
          = .error (Issue.general (.configuration fault)) := by
  intro comma p a input explain broken warning
  have hon : (Macro.parEachIdx.expand input ⟨explain, .empty, none, true⟩).lines
      = ["par_each_idx!(f , (p) , a)",
        "par_each_idx!: template `f`, 1 fixed parameter(s) (Tuple), 1 argument(s)", warning,
        "par_each_idx! => f ! { p , a , 0 }"] := by
    decide +kernel
  have hoff : (Macro.parEachIdx.expand input ⟨explain, .empty, none, false⟩).lines = [warning] := by
    decide +kernel
  have hbroken : (Limits.load explain broken (some "")).isOk = false := by
    decide +kernel
  obtain ⟨-, -, hplanned, -⟩ := expand_prints explain .parEachIdx input .empty none
  obtain ⟨limits, hlimits, -, haccepts⟩ := hplanned.1 ⟨_, List.mem_cons_of_mem _ List.mem_cons_self⟩
  obtain rfl := Except.ok.inj hlimits
  refine ⟨hon, hoff, haccepts, ?_⟩
  cases he : Limits.load explain broken (some "") with
  | ok limits =>
    rw [he] at hbroken
    cases hbroken
  | error e =>
    obtain ⟨-, -, -, hfault⟩ := expand_prints explain .parEachIdx input broken (some "")
    obtain ⟨⟨fault, rfl⟩, houtcome⟩ := hfault e he
    exact ⟨fault, rfl, houtcome⟩

end Variadic
