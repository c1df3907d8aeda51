import Variadic.Proofs.Planning

/-!
# What can be wrong with an iteration

The input of an iteration can have several defects at once, and only one of them is told. `Accepts`
says that there is none. `Rejects` lists them in the order in which they are looked for: each comes
with what has to be in order for it to be the first, and with the issue that tells it. What the
message of this issue says is in `Tells`.
-/

namespace Variadic

open Argument

/-! ## Templates -/

/-- `stem` is `ts` without the exclamation mark at its end, or `ts` itself if there is none. -/
inductive IsStem : List Token → List Token → Prop
  | bang {stem : List Token} {t : Token} (h : t.isPunct '!') : IsStem (stem ++ [t]) stem
  | bare {ts : List Token} (h : ∀ t, ts.getLast? = some t → ¬t.isPunct '!') : IsStem ts ts

/-- What has to be a path if the argument is to be a template: what it is without the invisible
groups around it, and without one exclamation mark. -/
def Argument.HasStem (a : Argument) (stem : List Token) : Prop :=
  ∃ ts, Token.Wraps ts a.tokens ∧ Token.IsBare ts ∧ IsStem ts stem

/-- Stems are what is left when an exclamation mark at the end is dropped. -/
theorem isStem_iff_dropBang_eq {ts stem : List Token} :
    IsStem ts stem ↔ Template.dropBang ts = stem := by
  rw [Template.dropBang]
  constructor
  · rintro (h | h)
    · rw [List.getLast?_concat, Option.any_some, if_pos h, List.dropLast_concat]
    · refine if_neg ?_
      rw [Option.any_eq_true]
      rintro ⟨t, ht, hbang⟩
      exact h t ht hbang
  · rintro rfl
    split
    · next h =>
      obtain ⟨t, ht, hbang⟩ := (Option.any_eq_true ..).1 h
      obtain ⟨stem, rfl⟩ := List.getLast?_eq_some_iff.1 ht
      rw [List.dropLast_concat]
      exact .bang hbang
    · next h =>
      refine .bare fun t ht hbang => h ?_
      rw [ht, Option.any_some]
      exact hbang

theorem Argument.hasStem_iff {a : Argument} {stem : List Token} :
    a.HasStem stem ↔ Template.dropBang a.peeled = stem := by
  rw [← isStem_iff_dropBang_eq, Argument.peeled]
  constructor
  · rintro ⟨ts, hwraps, hbare, hstem⟩
    rw [(Token.wraps_iff_peelAll_eq hbare).1 hwraps]
    exact hstem
  · intro hstem
    exact ⟨_, Token.wraps_peelAll _, Token.isBare_peelAll _, hstem⟩

/-- A template is a path, up to the invisible groups around it and one exclamation mark behind it.
-/
theorem Template.parse_eq_ok_iff {a : Argument} {t : Template} :
    parse a = .ok t ↔ ∃ stem, a.HasStem stem ∧ Path.parse stem = .ok t.path := by
  simp only [Argument.hasStem_iff, exists_eq_left']
  rw [parse]
  cases Path.parse (dropBang a.peeled) with
  | ok p =>
    constructor
    · intro h
      obtain rfl := Except.ok.inj h
      rfl
    · intro h
      rw [Except.ok.inj h]
  | error e =>
    constructor
    · intro h
      cases h
    · intro h
      cases h

/-- What is no template is told at the argument, and why it is no path at the fault in the path. -/
theorem Template.parse_eq_error_iff {a : Argument} {issue : Issue} :
    parse a = .error issue
      ↔ ∃ stem e, a.HasStem stem ∧ Path.parse stem = .error e
        ∧ issue = ⟨⟨.error, .notATemplate, some a.span⟩,
          [⟨.error, .path e.fault, some e.span⟩]⟩ := by
  simp only [Argument.hasStem_iff, exists_and_left, exists_eq_left']
  rw [parse]
  cases Path.parse (dropBang a.peeled) with
  | ok p =>
    constructor
    · intro h
      cases h
    · rintro ⟨e, h, -⟩
      cases h
  | error e =>
    constructor
    · intro h
      exact ⟨e, rfl, (Except.error.inj h).symm⟩
    · rintro ⟨_, ⟨⟩, rfl⟩
      rfl

theorem parse_of_hasStem {a : Argument} {stem : List Token} {path : Path} (h : a.HasStem stem)
    (hpath : Path.parse stem = .ok path) : Template.parse a = .ok ⟨path⟩ :=
  Template.parse_eq_ok_iff.2 ⟨stem, h, hpath⟩

namespace Macro

/-! ## Acceptance and rejection -/

/-- The number of arguments that a macro takes at most. -/
def bound (m : Macro) (limits : Limits) : Nat :=
  if m = each then limits.each else limits.count

/-- The input lists the template, the other leading arguments, and the arguments to iterate over. -/
structure Divides (m : Macro) (input : List Token) (template : Argument)
    (given args : List Argument) : Prop where
  listing : Listing ((template :: given ++ args).map tokens) input
  leading : given.length + 1 = m.leading.length

/-- Nothing is wrong with the input. -/
def Accepts (m : Macro) (input : List Token) (limits : Limits) : Prop :=
  ∃ template given args, m.Divides input template given args
    ∧ (∃ stem path, template.HasStem stem ∧ Path.parse stem = .ok path)
    ∧ (∃ fixed, m.GivenBy given fixed)
    ∧ args.length ≤ m.bound limits

/-- The first defect of the input, told by the issue. -/
inductive Rejects (m : Macro) (input : List Token) (limits : Limits) : Issue → Prop
  /-- The input is no list. -/
  | misplacedComma {comma : Token} (hcomma : FirstMisplaced input comma) :
      Rejects m input limits (Issue.error .emptyArgument comma.span)
  /-- The list is too short for the leading parameters, of which this is the first left out. -/
  | missingParameter {all : List Argument} {name : String} (hall : Listing (all.map tokens) input)
      (hname : m.leading[all.length]? = some name) :
      Rejects m input limits
        (Issue.error (.missingParameter m name) ((all.getLast?.map span).getD .callSite))
  /-- The first argument is no template. -/
  | notATemplate {template : Argument} {given args : List Argument} {stem : List Token}
      {e : SyntaxError} (hinput : m.Divides input template given args)
      (hstem : template.HasStem stem) (he : Path.parse stem = .error e) :
      Rejects m input limits
        ⟨⟨.error, .notATemplate, some template.span⟩, [⟨.error, .path e.fault, some e.span⟩]⟩
  /-- The second argument is in parentheses, and these hold no list. -/
  | invalidTuple {template list : Argument} {args : List Argument} {stem content : List Token}
      {path : Path} {s : Span} {comma : Token} (hm : m = parEachIdx)
      (hinput : m.Divides input template [list] args) (hstem : template.HasStem stem)
      (hpath : Path.parse stem = .ok path)
      (hlist : Token.Wraps [.group .paren content s] list.tokens)
      (hcomma : FirstMisplaced content comma) :
      Rejects m input limits
        ⟨⟨.error, .invalidTuple, some list.span⟩, [⟨.error, .emptyArgument, some comma.span⟩]⟩
  /-- There are more arguments than allowed, and `excess` is the first of those beyond. -/
  | tooMany {template : Argument} {given args fixed : List Argument} {stem : List Token}
      {path : Path} {excess : Argument} (hinput : m.Divides input template given args)
      (hstem : template.HasStem stem) (hpath : Path.parse stem = .ok path)
      (hfixed : m.GivenBy given fixed) (hexcess : args[m.bound limits]? = some excess) :
      Rejects m input limits
        (Issue.error (.ceilingExceeded m args.length (m.bound limits)) excess.span)

/-- What the message about a defect says: which argument is missing, and by how much a ceiling is
exceeded. -/
inductive Tells (m : Macro) : Issue → String → Prop
  | misplacedComma {s : Span} :
      Tells m (Issue.error .emptyArgument s) "Expected an argument before ','."
  | missingParameter {name : String} {s : Span} :
      Tells m (Issue.error (.missingParameter m name) s)
        (m.title ++ ": missing the " ++ name ++ ". Usage: " ++ m.title ++ "("
          ++ ", ".intercalate m.leading ++ ", args..).")
  | notATemplate {fault : SyntaxFault} {s s' : Span} :
      Tells m ⟨⟨.error, .notATemplate, some s⟩, [⟨.error, .path fault, some s'⟩]⟩
        ("Expected the path of a macro to use as the template." ++ "\nCaused by: "
          ++ fault.message)
  | invalidTuple {s s' : Span} :
      Tells m ⟨⟨.error, .invalidTuple, some s⟩, [⟨.error, .emptyArgument, some s'⟩]⟩
        ("Invalid fixed parameter tuple." ++ "\nCaused by: " ++ "Expected an argument before ','.")
  | tooMany {found limit : Nat} {s : Span} :
      Tells m (Issue.error (.ceilingExceeded m found limit) s)
        (m.title ++ ": " ++ toString found ++ " arguments exceed the ceiling of "
          ++ toString limit ++ ". The ceiling is set by '" ++ m.ceiling.key
          ++ "' in [package.metadata.va-iter].")

variable {m : Macro} {input : List Token} {limits : Limits}

/-- The message of a rejection is the one for its kind of defect. -/
theorem Rejects.tells {e : Issue} (h : m.Rejects input limits e) : m.Tells e e.message := by
  cases h with
  | misplacedComma hcomma =>
    rw [Issue.error, Issue.message_alone]
    exact .misplacedComma
  | missingParameter hall hname =>
    rw [Issue.error, Issue.message_alone]
    exact .missingParameter
  | notATemplate hinput hstem he =>
    rw [Issue.message_pair]
    exact .notATemplate
  | invalidTuple hm hinput hstem hpath hlist hcomma =>
    rw [Issue.message_pair]
    exact .invalidTuple
  | tooMany hinput hstem hpath hfixed hexcess =>
    rw [Issue.error, Issue.message_alone]
    exact .tooMany

theorem get_ceiling_eq_bound (m : Macro) (limits : Limits) :
    limits.get m.ceiling = m.bound limits := by
  cases m <;> rfl

/-- The input is divided by splitting it and taking the leading arguments off. -/
theorem divides_iff {template : Argument} {given args : List Argument} :
    m.Divides input template given args
      ↔ Argument.split input = .ok (template :: given ++ args)
        ∧ given.length + 1 = m.leading.length := by
  constructor
  · intro h
    exact ⟨h.listing.split_eq, h.leading⟩
  · intro h
    exact ⟨listing_of_split h.1, h.2⟩

/-- An iteration has at least the template as a leading parameter. -/
theorem leading_length_pos (hm : m.isNumeric = false) : 0 < m.leading.length := by
  revert hm
  cases m <;> decide

/-! ## Planning -/

/-- An iteration is planned if and only if nothing is wrong with its input. -/
theorem exists_plan_iff : (∃ p, m.plan input limits = .ok p) ↔ m.Accepts input limits := by
  simp only [plan_eq_ok_iff]
  constructor
  · rintro ⟨p, template, given, hp⟩
    obtain ⟨warning, hfixed, -⟩ := hp.fixed
    obtain ⟨stem, hstem, hpath⟩ := Template.parse_eq_ok_iff.1 hp.parse
    refine ⟨template, given, p.args, divides_iff.2 ⟨hp.split, hp.leading⟩,
      ⟨stem, p.template.path, hstem, hpath⟩,
      ⟨p.fixed.params, givenBy_of_fixedParameters hp.leading hfixed⟩, ?_⟩
    rw [← get_ceiling_eq_bound]
    exact checkCeiling_eq_ok_iff.1 hp.ceiling
  · rintro ⟨template, given, args, hinput, ⟨stem, path, hstem, hpath⟩, ⟨fixed, hfixed⟩, hargs⟩
    obtain ⟨hsplit, hleading⟩ := divides_iff.1 hinput
    obtain ⟨shape, warning, hgiven⟩ := hfixed.exists_fixedParameters
    rw [← get_ceiling_eq_bound] at hargs
    exact ⟨⟨m, ⟨path⟩, ⟨shape, fixed⟩, args, warning.toList⟩, template, given, rfl, hsplit,
      hleading, parse_of_hasStem hstem hpath, ⟨warning, hgiven, rfl⟩,
      checkCeiling_eq_ok_iff.2 hargs⟩

/-- Behind the split, the stages fail in the order in which they are written down. -/
theorem rejects_of_plan_eq_error (hm : m.isNumeric = false) {e : Issue}
    (h : m.plan input limits = .error e) : m.Rejects input limits e := by
  simp only [plan, bind_eq_error_iff, Prod.exists, takeLeading_eq_ok_iff] at h
  rcases h with hsplit | ⟨all, hsplit, hleading | ⟨leading, args, ⟨rfl, hlen⟩, h⟩⟩
  · obtain ⟨comma, hcomma, rfl⟩ := split_eq_error_iff.1 hsplit
    exact .misplacedComma hcomma
  · obtain ⟨name, hname, rfl⟩ := takeLeading_eq_error_iff.1 hleading
    exact .missingParameter (listing_of_split hsplit) hname
  · cases leading with
    | nil =>
      -- that the template is no leading parameter cannot be
      have hpos := leading_length_pos hm
      rw [← hlen] at hpos
      exact absurd hpos (Nat.lt_irrefl 0)
    | cons template given =>
      have hinput : m.Divides input template given args := divides_iff.2 ⟨hsplit, hlen⟩
      simp only [bind_eq_error_iff, Prod.exists] at h
      rcases h with hparse | ⟨t, hparse, h⟩
      · obtain ⟨stem, error, hstem, herror, rfl⟩ := Template.parse_eq_error_iff.1 hparse
        exact .notATemplate hinput hstem herror
      · obtain ⟨stem, hstem, hpath⟩ := Template.parse_eq_ok_iff.1 hparse
        rcases h with hfixed | ⟨fixed, warning, hfixed, hceiling | ⟨_, _, hpure⟩⟩
        · obtain ⟨list, rfl, rfl, hdetect⟩ := (fixedParameters_eq_error_iff hlen).1 hfixed
          obtain ⟨content, s, comma, hlist, hcomma, rfl⟩ := detect_eq_error_iff.1 hdetect
          exact .invalidTuple rfl hinput hstem hpath hlist hcomma
        · obtain ⟨excess, hexcess, rfl⟩ := checkCeiling_eq_error_iff.1 hceiling
          rw [get_ceiling_eq_bound] at hexcess ⊢
          exact .tooMany hinput hstem hpath (givenBy_of_fixedParameters hlen hfixed) hexcess
        · cases hpure

/-- A defect that is the first is the one that planning fails with. -/
theorem plan_eq_error_of_rejects {e : Issue} (h : m.Rejects input limits e) :
    m.plan input limits = .error e := by
  cases h with
  | misplacedComma hcomma =>
    rw [plan, split_eq_error_iff.2 ⟨_, hcomma, rfl⟩]
    rfl
  | @missingParameter all name hall hname =>
    rw [plan, hall.split_eq]
    change m.takeLeading all >>= _ = _
    rw [takeLeading_eq_error_iff.2 ⟨name, hname, rfl⟩]
    rfl
  | notATemplate hinput hstem he =>
    obtain ⟨hsplit, hlen⟩ := divides_iff.1 hinput
    rw [plan_of_split hsplit hlen, Template.parse_eq_error_iff.2 ⟨_, _, hstem, he, rfl⟩]
    rfl
  | invalidTuple hm hinput hstem hpath hlist hcomma =>
    obtain ⟨hsplit, hlen⟩ := divides_iff.1 hinput
    have hdetect := detect_eq_error_iff.2 ⟨_, _, _, hlist, hcomma, rfl⟩
    have hfixed := (fixedParameters_eq_error_iff hlen).2 ⟨_, hm, rfl, hdetect⟩
    rw [plan_of_split hsplit hlen, parse_of_hasStem hstem hpath, ok_bind, hfixed]
    rfl
  | tooMany hinput hstem hpath hfixed hexcess =>
    obtain ⟨hsplit, hlen⟩ := divides_iff.1 hinput
    obtain ⟨shape, warning, hgiven⟩ := hfixed.exists_fixedParameters
    rw [← get_ceiling_eq_bound] at hexcess ⊢
    rw [plan_of_split hsplit hlen, parse_of_hasStem hstem hpath, ok_bind, hgiven, ok_bind]
    dsimp only
    rw [checkCeiling_eq_error_iff.2 ⟨_, hexcess, rfl⟩]
    rfl

end Macro

/-- **An iteration fails at its first defect, and only at one.** The message says which. -/
theorem iterate_tells_first_defect {m : Macro} (hm : m.isNumeric = false) (input : List Token)
    (limits : Limits) :
    ((∃ x, m.iterate input limits = .ok x) ↔ m.Accepts input limits)
      ∧ (∀ e, m.iterate input limits = .error e ↔ m.Rejects input limits e)
      ∧ ∀ e, m.iterate input limits = .error e → m.Tells e e.message := by
  have hrejects (e : Issue) : m.iterate input limits = .error e ↔ m.Rejects input limits e := by
    rw [Macro.iterate, map_eq_error_iff]
    exact ⟨Macro.rejects_of_plan_eq_error hm, Macro.plan_eq_error_of_rejects⟩
  refine ⟨?_, hrejects, fun e he => ((hrejects e).1 he).tells⟩
  rw [← Macro.exists_plan_iff]
  simp only [Macro.iterate_eq_ok_iff]
  constructor
  · rintro ⟨x, p, hp, -⟩
    exact ⟨p, hp⟩
  · rintro ⟨p, hp⟩
    exact ⟨_, p, hp, rfl⟩

/-- `par_each_idx!(f !, (p , , p), p)` is wrong in two ways, the second comma in the parentheses and
the argument beyond a ceiling of zero, and is told of the first. `par2_each_idx!(f !, (p , , p))`
lacks its last leading parameter. Exactly at its ceiling, nothing is wrong with `each!(f, p)`. -/
theorem iterate_tells_first_defect_tuple :
    let place (column : Nat) : Span := .range ⟨0, 1, column⟩ ⟨0, 1, column + 1⟩
    let comma (column : Nat) : Token := .punct ',' .alone (place column)
    let f : Token := .ident "f" (place 0)
    let p (column : Nat) : Token := .ident "p" (place column)
    let list : Token := .group .paren [p 4, comma 5, comma 6, p 7] (place 3)
    let short : List Token := [f, .punct '!' .alone (place 1), comma 2, list]
    let input : List Token := short ++ [comma 8, p 9]
    let e : Issue :=
      ⟨⟨.error, .invalidTuple, some (place 3)⟩, [⟨.error, .emptyArgument, some (place 6)⟩]⟩
    let missing : Issue :=
      Issue.error (.missingParameter .par2EachIdx "second fixed parameter") (place 3)
    let x : Expansion :=
      ⟨[f, .mark '!', .group .brace [p 2] .callSite], []⟩
    Macro.parEachIdx.isNumeric = false ∧ Macro.par2EachIdx.isNumeric = false
      ∧ Macro.each.isNumeric = false
      ∧ Macro.parEachIdx.iterate input ⟨0, 0⟩ = .error e
      ∧ Macro.parEachIdx.Rejects input ⟨0, 0⟩ e
      ∧ Macro.parEachIdx.Tells e e.message
      ∧ e.message = "Invalid fixed parameter tuple.\nCaused by: Expected an argument before ','."
      ∧ Macro.par2EachIdx.Rejects short ⟨0, 0⟩ missing
      ∧ Macro.par2EachIdx.Tells missing missing.message
      ∧ missing.message = "par2_each_idx!: missing the second fixed parameter. Usage: "
        ++ "par2_each_idx!(template, first fixed parameter, second fixed parameter, args..)."
      ∧ Macro.each.iterate [f, comma 1, p 2] ⟨0, 1⟩ = .ok x
      ∧ Macro.each.Accepts [f, comma 1, p 2] ⟨0, 1⟩ := by
  intro place comma f p list short input e missing x
  have hfails : Macro.parEachIdx.iterate input ⟨0, 0⟩ = .error e := by rfl
  have hlacks : Macro.par2EachIdx.iterate short ⟨0, 0⟩ = .error missing := by rfl
  have hsucceeds : Macro.each.iterate [f, comma 1, p 2] ⟨0, 1⟩ = .ok x := by rfl
  obtain ⟨-, hrejects, htells⟩ :=
    iterate_tells_first_defect (m := .parEachIdx) rfl input ⟨0, 0⟩
  obtain ⟨-, hrejects', htells'⟩ :=
    iterate_tells_first_defect (m := .par2EachIdx) rfl short ⟨0, 0⟩
  exact ⟨rfl, rfl, rfl, hfails, (hrejects e).1 hfails, htells e hfails, by decide +kernel,
    (hrejects' missing).1 hlacks, htells' missing hlacks, by decide +kernel, hsucceeds,
    (iterate_tells_first_defect rfl _ _).1.1 ⟨x, hsucceeds⟩⟩

end Variadic
