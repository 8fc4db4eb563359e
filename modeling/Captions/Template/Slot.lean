/-!
# Slots in running text

A slot is an opening mark, a name, and the first `}}` that leaves the name at least one character; a
name never reaches over a line break. A text is cut from left to right: where a slot starts it is
taken whole, and every other character is plain. The opening mark is a parameter, since the same
rule reads templates and finished captions.

Results:
* `splitClose?_eq_append`, `inner?_eq_append`, `slot?_eq_append`: what is cut off and what is left
  make up the text that was read.
* `pieces_of_slot?`, `pieces_of_no_slot`: how a text is cut, at a slot and elsewhere.
-/

namespace Captions.Template

/-! ## Marks -/

/-- The characters that end a line: LF, CR, NEL, and the line and paragraph separators. -/
def isLineBreak (c : Char) : Bool :=
  c = '\n' || c = '\r' || c = '\u0085' || c = '\u2028' || c = '\u2029'

/-- What closes every slot. -/
def closing : List Char := ['}', '}']

/-! ## One slot -/

/-- The text before the first closing mark and the text after it. -/
def splitClose? : List Char → Option (List Char × List Char)
  | '}' :: '}' :: rest => some ([], rest)
  | c :: rest => (splitClose? rest).map fun (before, after) => (c :: before, after)
  | [] => none

/-- The name at the head of `cs` and the text after its closing mark. The first character belongs to
the name even if it is a brace. -/
def inner? : List Char → Option (List Char × List Char)
  | [] => none
  | c :: cs =>
    match splitClose? cs with
    | some (name, rest) => if (c :: name).any isLineBreak then none else some (c :: name, rest)
    | none => none

/-- The slot with the given opening mark at the head of `cs`: its name and the text after it. -/
def slot? (opening cs : List Char) : Option (List Char × List Char) :=
  if opening.isPrefixOf cs then inner? (cs.drop opening.length) else none

theorem splitClose?_eq_append {cs before after : List Char}
    (h : splitClose? cs = some (before, after)) : cs = before ++ closing ++ after := by
  fun_induction splitClose? cs generalizing before with
  | case1 rest => simp_all [closing]
  | case2 c rest _ ih =>
    obtain ⟨⟨b, a⟩, hb, heq⟩ := Option.map_eq_some_iff.mp h
    simp only [Prod.mk.injEq] at heq
    obtain ⟨rfl, rfl⟩ := heq
    simp [ih hb]
  | case3 => simp at h

theorem inner?_eq_append {cs name rest : List Char} (h : inner? cs = some (name, rest)) :
    cs = name ++ closing ++ rest := by
  unfold inner? at h
  split at h
  · simp at h
  · split at h
    · next hsplit =>
      split at h
      · simp at h
      · simp only [Option.some.injEq, Prod.mk.injEq] at h
        obtain ⟨rfl, rfl⟩ := h
        simp [splitClose?_eq_append hsplit]
    · simp at h

theorem slot?_eq_append {opening cs name rest : List Char}
    (h : slot? opening cs = some (name, rest)) :
    cs = opening ++ (name ++ closing ++ rest) := by
  unfold slot? at h
  split at h
  · next hopen =>
    obtain ⟨after, rfl⟩ := List.isPrefixOf_iff_prefix.mp hopen
    rw [List.drop_left] at h
    rw [inner?_eq_append h]
  · simp at h

theorem length_rest_lt {opening cs name rest : List Char}
    (h : slot? opening cs = some (name, rest)) : rest.length < cs.length := by
  rw [slot?_eq_append h]
  simp [closing]
  omega

/-! ## Cutting a text -/

/-- A stretch of a text. -/
inductive Piece where
  /-- Characters outside of every slot. -/
  | plain (text : List Char)
  /-- A slot with the name that stands in it. -/
  | slot (name : List Char)
deriving DecidableEq, Repr

/-- Adds a plain character in front, to the first piece if that one is plain. -/
def consPlain (c : Char) : List Piece → List Piece
  | .plain text :: ps => .plain (c :: text) :: ps
  | ps => .plain [c] :: ps

/-- The pieces of a text, for slots with the given opening mark. -/
def pieces (opening cs : List Char) : List Piece :=
  match _ : slot? opening cs with
  | some (name, rest) => .slot name :: pieces opening rest
  | none =>
    match cs with
    | [] => []
    | c :: rest => consPlain c (pieces opening rest)
termination_by cs.length
decreasing_by
  · exact length_rest_lt ‹slot? _ _ = _›
  · simp

theorem pieces_of_slot? {opening cs name rest : List Char}
    (h : slot? opening cs = some (name, rest)) :
    pieces opening cs = .slot name :: pieces opening rest := by
  rw [pieces]
  split
  · next heq =>
    rw [h] at heq
    simp_all
  · next heq => simp [h] at heq

theorem pieces_of_no_slot {opening rest : List Char} {c : Char}
    (h : slot? opening (c :: rest) = none) :
    pieces opening (c :: rest) = consPlain c (pieces opening rest) := by
  rw [pieces]
  split
  · next heq => simp [h] at heq
  · rfl

end Captions.Template
