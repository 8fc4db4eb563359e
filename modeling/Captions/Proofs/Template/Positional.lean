import Captions.Template.Bind
import Mathlib.Data.List.Basic

/-!
# Filling by position

Which argument a slot gets, told from the row of argument slots alone: slots are counted as they
stand in the template, repetitions included, and the number of the first slot of a text is the
number of the argument for all slots of that text.

Results:
* `fill_eq_byPosition`: every argument slot is filled by the argument with the number of the first
  slot like it.
* `bind_eq_byPosition`: the same for a whole template, and the report of surplus arguments.
-/

namespace Captions.Template

/-- The argument slots among `ts` as they stand in the text, in order and with repetitions. -/
def argumentSources (ts : List Token) : List (List Char) :=
  (ts.filter fun t => t.argumentName?.isSome).map Token.source

/-- What stands in place of a token when the argument slots are `slots`: for an argument slot the
argument with the number of the first slot like it, if there is one. -/
def Token.byPosition (slots args : List (List Char)) : Token → List Char
  | argument name =>
    let source := (argument name).source
    (args[slots.idxOf source]?).getD source
  | t => t.source

/-! ## Slots and their names -/

theorem source_argument_injective :
    Function.Injective fun name => (Token.argument name).source := by
  intro a b h
  simpa [Token.source] using h

theorem argumentSources_eq (ts : List Token) :
    argumentSources ts = (argumentNames ts).map fun name => (Token.argument name).source := by
  induction ts with
  | nil => rfl
  | cons t ts ih =>
    cases t with
    | literal text => exact ih
    | icon name => exact ih
    | argument name => exact congrArg ((Token.argument name).source :: ·) ih

theorem idxOf_map_of_injective {α β : Type} [BEq α] [LawfulBEq α] [BEq β] [LawfulBEq β]
    {f : α → β} (hf : Function.Injective f) (xs : List α) (a : α) :
    (xs.map f).idxOf (f a) = xs.idxOf a := by
  induction xs with
  | nil => rfl
  | cons x xs ih =>
    by_cases h : x = a
    · rw [h, List.map_cons, List.idxOf_cons_self, List.idxOf_cons_self]
    · rw [List.map_cons, List.idxOf_cons_ne _ h, List.idxOf_cons_ne _ (hf.ne h), ih]

/-- A slot has the number of its name. -/
theorem idxOf_argumentSources (ts : List Token) (name : List Char) :
    (argumentSources ts).idxOf (Token.argument name).source = (argumentNames ts).idxOf name := by
  rw [argumentSources_eq]
  exact idxOf_map_of_injective source_argument_injective _ _

/-! ## The first slot of a name -/

/-- Of the arguments given to a name, the first one is that of its first slot. -/
theorem lookup_zip {names args : List (List Char)} {name : List Char} (h : name ∈ names) :
    (names.zip args).lookup name = args[names.idxOf name]? := by
  induction names generalizing args with
  | nil => simp at h
  | cons n names ih =>
    cases args with
    | nil => simp
    | cons arg args =>
      by_cases hn : n = name
      · simp [hn]
      · have hmem : name ∈ names := (List.mem_cons.mp h).resolve_left (Ne.symm hn)
        have hne : (name == n) = false := by simpa using Ne.symm hn
        rw [List.zip_cons_cons, List.lookup_cons, hne, List.idxOf_cons_ne _ hn,
          List.getElem?_cons_succ]
        exact ih hmem

theorem fill_eq_byPosition (cs : List Char) (args : List (List Char)) :
    fill cs args = (tokens cs).flatMap (Token.byPosition (argumentSources (tokens cs)) args) := by
  refine List.flatMap_congr fun t ht => ?_
  cases t with
  | literal text => rfl
  | icon name => rfl
  | argument name =>
    have hmem : name ∈ argumentNames (tokens cs) := mem_argumentNames_iff.mpr ht
    rw [Token.fill, Token.byPosition, lookup_zip hmem, idxOf_argumentSources]

theorem length_argumentSources (ts : List Token) :
    (argumentSources ts).length = (argumentNames ts).length := by
  rw [argumentSources_eq, List.length_map]

/-- **Filling is by position.** A template is filled slot by slot from the arguments with the
numbers of the first slots, and arguments beyond the number of slots are reported, once. -/
theorem bind_eq_byPosition (template : String) (args : List String) :
    (bind template args).value = String.ofList ((tokens template.toList).flatMap
        (Token.byPosition (argumentSources (tokens template.toList))
          (args.map String.toList))) ∧
      (bind template args).effects =
        (if (argumentSources (tokens template.toList)).length < args.length then
          [.event (.surplusArguments args.length
            (argumentSources (tokens template.toList)).length)]
        else []) ∧
      ∀ e ∈ (bind template args).events, e.severity = .debug ∧
        e.fields = [("supplied", args.length.repr),
          ("consumed", (argumentSources (tokens template.toList)).length.repr)] := by
  rw [length_argumentSources]
  refine ⟨?_, ?_, ?_⟩
  · rw [value_bind, fill_eq_byPosition]
  · rw [effects_bind]
  · intro e he
    rw [Traced.events, effects_bind] at he
    split at he
    · obtain rfl : e = .surplusArguments args.length
          (argumentNames (tokens template.toList)).length := by
        simpa using he
      exact ⟨rfl, rfl⟩
    · simp at he

/-- A repeated slot uses up the second argument and shows the first one. -/
example : (bind "{{n}} {{n}} {{m}}" ["a", "b", "c"]).value = "a a c" := by
  decide +kernel

end Captions.Template
