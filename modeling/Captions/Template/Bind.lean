import Captions.Template.Token
import Captions.Traced

/-!
# Filling the argument slots of a template

Arguments go to the argument slots by position. Slots of one name share one value, that of the first
of them; a repeated slot still uses up an argument. A slot for which no argument is left, and every
icon slot, stays as written. What an argument brings in is not read again.

Results:
* `value_bind`, `effects_bind`: the filled template, and the report of surplus arguments.
-/

namespace Captions.Template

/-- The names of the argument slots, in order and with repetitions. -/
def argumentNames (ts : List Token) : List (List Char) := ts.filterMap Token.argumentName?

theorem mem_argumentNames_iff {name : List Char} {ts : List Token} :
    name ∈ argumentNames ts ↔ Token.argument name ∈ ts := by
  rw [argumentNames, List.mem_filterMap]
  constructor
  · rintro ⟨t, ht, heq⟩
    cases t <;> simp_all [Token.argumentName?]
  · exact fun h => ⟨_, h, rfl⟩

/-- What stands in place of a token when the names on the left of `values` have the values on the
right; of two values for a name the first one counts. -/
def Token.fill (values : List (List Char × List Char)) : Token → List Char
  | argument name => (values.lookup name).getD (argument name).source
  | t => t.source

/-- The template with its argument slots filled from `args`. -/
def fill (cs : List Char) (args : List (List Char)) : List Char :=
  let ts := tokens cs
  ts.flatMap (Token.fill ((argumentNames ts).zip args))

/-- The template with its argument slots filled from `args`; surplus arguments are reported. -/
def bind (template : String) (args : List String) : Traced String := do
  let slots := (argumentNames (tokens template.toList)).length
  if slots < args.length then Traced.report (.surplusArguments args.length slots)
  return String.ofList (fill template.toList (args.map String.toList))

theorem value_bind (template : String) (args : List String) :
    (bind template args).value =
      String.ofList (fill template.toList (args.map String.toList)) := by
  rw [bind]
  split <;> rfl

theorem toList_value_bind (template : String) (args : List String) :
    (bind template args).value.toList = fill template.toList (args.map String.toList) := by
  rw [value_bind, String.toList_ofList]

theorem effects_bind (template : String) (args : List String) :
    (bind template args).effects =
      if (argumentNames (tokens template.toList)).length < args.length then
        [.event (.surplusArguments args.length (argumentNames (tokens template.toList)).length)]
      else [] := by
  rw [bind]
  split <;> rfl

end Captions.Template
