import FieldTemplate.Command.Run

/-!
# The options of a command line

What `render` does is settled by the data files, the assignments, the other options and the
template, each kind in its own order (`Environment.runArgs_render_congr`).
-/

namespace FieldTemplate.Command

set_option autoImplicit false

/-- The options that give no layer of data. -/
def withoutLayers (given : List Given) : List Given :=
  given.filter fun g => g.1 ≠ .data ∧ g.1 ≠ .assign

theorem allOf_withoutLayers (given : List Given) {name : OptionName} (data : name ≠ .data)
    (assign : name ≠ .assign) : allOf (withoutLayers given) name = allOf given name := by
  rw [allOf, withoutLayers, List.filterMap_filter, allOf]
  congr 1
  funext g
  by_cases own : g.1 = name
  · simp [own, data, assign]
  · simp [own]

theorem isGiven_withoutLayers (given : List Given) {name : OptionName} (data : name ≠ .data)
    (assign : name ≠ .assign) : isGiven (withoutLayers given) name = isGiven given name := by
  rw [isGiven, withoutLayers, List.any_filter, isGiven]
  congr 1
  funext g
  by_cases own : g.1 = name
  · simp [own, data, assign]
  · simp [own]

theorem strictness_withoutLayers (given : List Given) :
    strictness (withoutLayers given) = strictness given := by
  rw [strictness, withoutLayers, List.filterMap_filter, strictness]
  congr 2
  funext g
  obtain ⟨name, s⟩ := g
  cases name <;> rfl

/-- Two lists of options that differ at most in how the data files, the assignments and the other
options lie among each other. -/
structure SameInOrder (given given' : List Given) : Prop where
  data : allOf given .data = allOf given' .data
  assign : allOf given .assign = allOf given' .assign
  others : withoutLayers given = withoutLayers given'

namespace SameInOrder

variable {given given' : List Given}

theorem lastOf (same : SameInOrder given given') {name : OptionName} (data : name ≠ .data)
    (assign : name ≠ .assign) : lastOf given name = lastOf given' name := by
  rw [Command.lastOf, Command.lastOf, ← allOf_withoutLayers given data assign, same.others,
    allOf_withoutLayers given' data assign]

theorem isGiven (same : SameInOrder given given') {name : OptionName} (data : name ≠ .data)
    (assign : name ≠ .assign) : isGiven given name = isGiven given' name := by
  rw [← isGiven_withoutLayers given data assign, same.others,
    isGiven_withoutLayers given' data assign]

theorem strictness (same : SameInOrder given given') :
    strictness given = strictness given' := by
  rw [← strictness_withoutLayers given, same.others, strictness_withoutLayers given']

theorem renderRequest (same : SameInOrder given given') (template : Text) :
    renderRequest given template = renderRequest given' template := by
  simp only [Command.renderRequest, same.data, same.assign, same.strictness,
    same.lastOf (by decide : OptionName.formatter ≠ .data) (by decide),
    same.lastOf (by decide : OptionName.output ≠ .data) (by decide),
    same.lastOf (by decide : OptionName.config ≠ .data) (by decide),
    same.isGiven (by decide : OptionName.verbose ≠ .data) (by decide)]

end SameInOrder

/-! ## The command -/

theorem Environment.runArgs_of_parse [Host] {env : Environment} {args : List Text}
    {request : Request} (parsed : Request.parse args = .ok request) :
    env.runArgs args = env.run request := by
  rw [runArgs, parsed]

/-- A word that is no option ends the options in front of any command. -/
theorem programOptions_word {name : Text} (plain : isOption name = false)
    (other : name ≠ ['-', '-']) (args : List Text) :
    programOptions (name :: args) = .ok (.inr (name :: args)) := by
  simp [programOptions, scan, plain, other]

theorem parse_render (args : List Text) :
    Request.parse ("render".toList :: args) =
      withTemplate .render args fun given t => (renderRequest given t).check := by
  have plain : isOption "render".toList = false := by decide
  rw [Request.parse, programOptions_word plain (by decide)]
  dsimp only
  rw [if_neg (by rw [plain]; exact Bool.false_ne_true), command, String.ofList_toList]
  rfl

/-- **How the kinds of options lie among each other makes no difference.** -/
theorem Environment.runArgs_render_congr [Host] (env : Environment) {args args' : List Text}
    {given given' : List Given} {others : List Text}
    (scanned : scan .render true args = .ok (given, others))
    (scanned' : scan .render true args' = .ok (given', others))
    (same : SameInOrder given given') :
    env.runArgs ("render".toList :: args) = env.runArgs ("render".toList :: args') := by
  have requests : Request.parse ("render".toList :: args) =
      Request.parse ("render".toList :: args') := by
    rw [parse_render, parse_render, withTemplate, withTemplate, scanned, scanned']
    simp only [same.renderRequest, same.isGiven (by decide : OptionName.help ≠ .data) (by decide)]
  rw [runArgs, runArgs, requests]

end FieldTemplate.Command
