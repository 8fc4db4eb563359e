import Captions.Event

/-!
# Traced results

A value together with what happened on the way to it: the events reported and the requests made to
the store and to the font host, in order.

Results:
* `value_bind`, `effects_bind`: one computation after another gives the second one's value and the
  effects of both.
* `events_bind`, `requests_bind`: the same for the events and for the store requests alone.
* `events_collect`, `requests_collect`: looking at a row of things reports and asks for what looking
  at each of them does.
-/

namespace Captions

/-- Something that happens on the way to a value. -/
inductive Effect where
  | event (event : Event)
  /-- The store is asked for a bundle. -/
  | bundleRequest (baseName : String) (locale : Locale)
  /-- The font host is asked for the icon face. -/
  | faceRequest
deriving DecidableEq

/-- A value and the effects of computing it. -/
structure Traced (α : Type) where
  value : α
  effects : List Effect
deriving DecidableEq

namespace Traced

variable {α β : Type}

instance : Monad Traced where
  pure a := ⟨a, []⟩
  bind x f := ⟨(f x.value).value, x.effects ++ (f x.value).effects⟩

/-- A lone effect. -/
def effect (e : Effect) : Traced Unit := ⟨(), [e]⟩

/-- A lone event. -/
def report (e : Event) : Traced Unit := effect (.event e)

/-- The values that `f` finds for the members of a list, and the effects of looking at all. -/
def collect (f : α → Traced (Option β)) (xs : List α) : Traced (List β) :=
  let found := xs.map f
  ⟨found.filterMap (·.value), found.flatMap (·.effects)⟩

/-- The events, in order. -/
def events (x : Traced α) : List Event :=
  x.effects.filterMap fun
    | .event e => some e
    | _ => none

/-- The requests made to the store, in order. -/
def requests (x : Traced α) : List (String × Locale) :=
  x.effects.filterMap fun
    | .bundleRequest baseName locale => some (baseName, locale)
    | _ => none

/-! ## Sequencing -/

@[simp]
theorem value_pure (a : α) : (pure a : Traced α).value = a := rfl

@[simp]
theorem effects_pure (a : α) : (pure a : Traced α).effects = [] := rfl

@[simp]
theorem value_bind (x : Traced α) (f : α → Traced β) : (x >>= f).value = (f x.value).value := rfl

@[simp]
theorem effects_bind (x : Traced α) (f : α → Traced β) :
    (x >>= f).effects = x.effects ++ (f x.value).effects := rfl

theorem mk_bind (a : α) (effects : List Effect) (f : α → Traced β) :
    Traced.mk a effects >>= f = ⟨(f a).value, effects ++ (f a).effects⟩ := rfl

@[simp]
theorem value_map (f : α → β) (x : Traced α) : (f <$> x).value = f x.value := rfl

@[simp]
theorem effects_map (f : α → β) (x : Traced α) : (f <$> x).effects = x.effects :=
  List.append_nil _

@[simp]
theorem value_collect (f : α → Traced (Option β)) (xs : List α) :
    (collect f xs).value = xs.filterMap fun x => (f x).value :=
  List.filterMap_map

@[simp]
theorem effects_collect (f : α → Traced (Option β)) (xs : List α) :
    (collect f xs).effects = xs.flatMap fun x => (f x).effects :=
  List.flatMap_map ..

@[simp]
theorem effects_report (e : Event) : (report e).effects = [.event e] := rfl

@[simp]
theorem events_pure (a : α) : (pure a : Traced α).events = [] := rfl

@[simp]
theorem events_map (f : α → β) (x : Traced α) : (f <$> x).events = x.events := by
  rw [events, effects_map, events]

@[simp]
theorem events_report (e : Event) : (report e).events = [e] := rfl

@[simp]
theorem events_bind (x : Traced α) (f : α → Traced β) :
    (x >>= f).events = x.events ++ (f x.value).events := by
  simp [events]

@[simp]
theorem requests_bind (x : Traced α) (f : α → Traced β) :
    (x >>= f).requests = x.requests ++ (f x.value).requests := by
  simp [requests]

@[simp]
theorem events_collect (f : α → Traced (Option β)) (xs : List α) :
    (collect f xs).events = xs.flatMap fun x => (f x).events := by
  simp [events, List.filterMap_flatMap]

@[simp]
theorem requests_collect (f : α → Traced (Option β)) (xs : List α) :
    (collect f xs).requests = xs.flatMap fun x => (f x).requests := by
  simp [requests, List.filterMap_flatMap]

instance : LawfulMonad Traced :=
  LawfulMonad.mk' Traced (fun _ => by simp [Functor.map]) (fun _ _ => by simp [Bind.bind, pure])
    (fun _ _ _ => by simp [Bind.bind])

end Traced

end Captions
