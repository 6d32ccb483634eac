import Mathlib.Data.List.Infix
import Daybook.Command.Run

/-!
What the command writes, and where. It prints one text and nothing else, or it reports errors and
prints nothing; it prints the rendered template exactly if settings, file and template are in
order and rendering succeeds. On an axis with days, no series is without a first or a last day.
-/

namespace Daybook.Command

variable {env : Environment} {args : Arguments} {file : Option (List Char)} {settings : Settings}
  {r : Registry} {c : Context} {template : List Char}

/-- Nothing is wrong before the placeholders are looked at: the settings are read and do not
contradict each other, the file is loaded, and the template has no error of its own. -/
structure Ready (env : Environment) (args : Arguments) (file : Option (List Char))
    (settings : Settings) (r : Registry) (template : List Char) : Prop where
  read : Settings.ofEnvironment env = .ok settings
  agree : settings.conflict? = none
  loaded : Load.file args.file file = .ok r
  given : args.template.map String.toList = some template
  clean : (Lint.of settings.maxTemplateChars template).errors = []

/-- The format that a single value is written by. -/
def valueFormat (c : Context) : Scalar → List Char
  | .number _ => ['g']
  | .moment _ => c.dateFormat.toList

/-- The text that is to be printed: the rendered template, or its single value in writing. -/
inductive Shown (args : Arguments) (r : Registry) (c : Context) (template : List Char) :
    List Char → Prop
  | rendered {cs : List Char} : args.value = false → (Template.render r c template).2 = .ok cs →
      Shown args r c template cs
  | value {v : Scalar} {cs : List Char} : args.value = true →
      (Template.value r c template).2 = .ok v →
      v.write c.dateFormat.toList (some (valueFormat c v)) = .ok cs → Shown args r c template cs

/-- How the command can end: it breaks off, reports errors, or prints the text that is to be
printed. -/
inductive Ends (env : Environment) (args : Arguments) (file : Option (List Char)) :
    Except Break Result → Prop
  | broken (b : Break) : Ends env args file (.error b)
  | reported {messages : List String} : messages ≠ [] → Ends env args file (.ok (failed messages))
  | shown {settings : Settings} {r : Registry} {template cs : List Char} :
      Ready env args file settings r template →
      Shown args r (contextFor settings args r.axis) template cs →
      Ends env args file (.ok (printed cs))

/-! ### The two ways of printing -/

lemma ends_printTemplate (h : Ready env args file settings r template)
    (hvalue : args.value = false) :
    Ends env args file (printTemplate r (contextFor settings args r.axis) template) := by
  rw [printTemplate]
  split
  · exact .reported (List.cons_ne_nil _ _)
  · exact .broken _
  · rename_i hrender
    exact .shown h (.rendered hvalue hrender)

lemma ends_printValue (h : Ready env args file settings r template) (hvalue : args.value = true) :
    Ends env args file (printValue r (contextFor settings args r.axis) template) := by
  rw [printValue]
  split
  · exact .reported (List.cons_ne_nil _ _)
  · exact .broken _
  · rename_i v hv
    split
    · rename_i cs hwrite
      refine .shown h (.value hvalue hv ?_)
      cases v <;> exact hwrite
    · exact .reported (List.cons_ne_nil _ _)

lemma run_of_ready (h : Ready env args file settings r template) : run env args file =
    if args.value then printValue r (contextFor settings args r.axis) template
    else printTemplate r (contextFor settings args r.axis) template := by
  obtain ⟨text, htext, rfl⟩ := Option.map_eq_some_iff.1 h.given
  rw [run, h.read]
  simp only [h.agree, h.loaded, htext]
  exact if_neg fun hne => hne h.clean

/-- **Every way the command can end.** -/
lemma ends_run (env : Environment) (args : Arguments) (file : Option (List Char)) :
    Ends env args file (run env args file) := by
  rw [run]
  -- the checks in their order; each of them ends the run or lets it go on
  split
  · exact .broken _
  rename_i settings hsettings
  split
  · exact .reported (List.cons_ne_nil _ _)
  rename_i hagree
  split
  · split
    · exact .reported (List.cons_ne_nil _ _)
    · exact .broken _
  rename_i r hloaded
  split
  · exact .broken _
  rename_i template htemplate
  simp only
  split
  · rename_i hne
    exact .reported fun hnil => hne (List.map_eq_nil_iff.1 hnil)
  rename_i hclean
  have hready : Ready env args file settings r template.toList :=
    ⟨hsettings, hagree, hloaded, by rw [htemplate]; rfl, not_not.1 hclean⟩
  split
  · rename_i hvalue
    exact ends_printValue hready hvalue
  · rename_i hvalue
    exact ends_printTemplate hready (Bool.eq_false_iff.2 hvalue)

/-! ### The two channels -/

lemma prefix_errors_failed {messages : List String} (h : messages ≠ []) :
    "Error: ".toList <+: (failed messages).errors := by
  obtain ⟨m, ms, rfl⟩ := List.exists_cons_of_ne_nil h
  simp only [failed, List.flatMap_cons, line, String.toList_append, List.append_assoc]
  exact List.prefix_append _ _

lemma exists_run_eq_ok_iff (hvalue : args.value = false) :
    (∃ res, run env args file = .ok res ∧ res.code = 0) ↔ ∃ settings r template cs,
      Ready env args file settings r template ∧
        (Template.render r (contextFor settings args r.axis) template).2 = .ok cs := by
  constructor
  · rintro ⟨res, hrun, hcode⟩
    have hends := ends_run env args file
    rw [hrun] at hends
    cases hends with
    | reported => cases hcode
    | shown hready hshown =>
      cases hshown with
      | rendered _ hrender => exact ⟨_, _, _, _, hready, hrender⟩
      | value htrue =>
        rw [hvalue] at htrue
        cases htrue
  · rintro ⟨settings, r, template, cs, hready, hrender⟩
    refine ⟨printed cs, ?_, rfl⟩
    rw [run_of_ready hready, hvalue, if_neg (by decide), printTemplate, hrender]

lemma of_contextFor {axis : List Date} (h : axis ≠ []) (s : Series) :
    (∃ d, Summary.of (contextFor settings args axis) s .startDate = .ok (Summary.day d)) ∧
      ∃ d, Summary.of (contextFor settings args axis) s .endDate = .ok (Summary.day d) := by
  have hfirst : (s.stats.firstDay.or (settings.startDate.or axis.head?)).isSome = true := by
    simp [Option.isSome_or, List.isSome_head?, h]
  have hlast : (s.stats.lastDay.or (settings.endDate.or axis.getLast?)).isSome = true := by
    simp [Option.isSome_or, List.getLast?_isSome, h]
  obtain ⟨d, hd⟩ := Option.isSome_iff_exists.1 hfirst
  obtain ⟨e, he⟩ := Option.isSome_iff_exists.1 hlast
  constructor
  · refine ⟨d, ?_⟩
    simp only [Summary.of, contextFor, Settings.context, hd]
    rfl
  · refine ⟨e, ?_⟩
    simp only [Summary.of, contextFor, Settings.context, he]
    rfl

/-- **The command keeps its channels apart.** Unless it breaks off, it ends with the code 0 and
prints the text that is to be printed and the end of a line, and reports nothing; or it ends with
the code 1, prints nothing, and its report begins as errors do. It prints a template exactly if
settings, file and template are in order and the template can be rendered in the context that
comes of them. If there are days, this context gives every series a first and a last one. -/
theorem channels_of_run (env : Environment) (args : Arguments) (file : Option (List Char)) :
    (∀ res, run env args file = .ok res →
      (res.code = 0 ∧ res.errors = [] ∧ ∃ settings r template cs,
        Ready env args file settings r template ∧
        Shown args r (contextFor settings args r.axis) template cs ∧ res.output = cs ++ ['\n']) ∨
      (res.code = 1 ∧ res.output = [] ∧ "Error: ".toList <+: res.errors)) ∧
    (args.value = false → ((∃ res, run env args file = .ok res ∧ res.code = 0) ↔
      ∃ settings r template cs, Ready env args file settings r template ∧
        (Template.render r (contextFor settings args r.axis) template).2 = .ok cs)) ∧
    ∀ settings r, Load.file args.file file = .ok r → r.axis ≠ [] → ∀ s : Series,
      (∃ d, Summary.of (contextFor settings args r.axis) s .startDate = .ok (Summary.day d)) ∧
        ∃ d, Summary.of (contextFor settings args r.axis) s .endDate = .ok (Summary.day d) := by
  refine ⟨fun res hrun => ?_, exists_run_eq_ok_iff,
    fun settings r _ haxis s => of_contextFor haxis s⟩
  have hends := ends_run env args file
  rw [hrun] at hends
  cases hends with
  | reported hne => exact .inr ⟨rfl, rfl, prefix_errors_failed hne⟩
  | shown hready hshown => exact .inl ⟨rfl, rfl, _, _, _, _, hready, hshown, rfl⟩

end Daybook.Command
