import Captions.Template.Mark
import Captions.Template.Token
import Captions.Text.Cut

/-!
# Scanning a text for its slots

A text is scanned from byte to byte: the next opening mark is searched for, from there the mark that
closes it, and what lies between the places found is cut out of the text. A mark that nothing closes
is passed by one byte. A stretch that cannot be cut out ends the scan as its fault.

Results:
* `close?_eq`: the place of the closing mark, and that it is found without a fault.
* `step_eq`: what one step of the scan comes to.
* `pos_lt_of_step`: every step moves on and not beyond the text, so the scan comes to an end.
-/

namespace Captions.Template

open Text

/-! ## What is scanned for -/

/-- How slots are written and which tokens they are. -/
structure Grammar where
  /-- What stands behind the two braces of an opening mark. -/
  mark : List Char
  /-- The token of the slot with some text between its marks. -/
  slot : List Char → Token

namespace Grammar

/-- The slots of a template. -/
def template : Grammar := ⟨[], .ofInner⟩

/-- The icon slots of a finished caption. -/
def caption : Grammar := ⟨iconMark, .icon⟩

def opening (g : Grammar) : List Char := Template.opening ++ g.mark

end Grammar

/-- A token and the text that was cut out for it. -/
structure Excerpt where
  source : List Char
  token : Token
deriving DecidableEq, Repr

/-- How far a scan has got. -/
structure Scan where
  /-- Where the search for the next opening mark starts. -/
  pos : Nat
  /-- Where the text starts that is in none of the tokens found. -/
  literalStart : Nat
  found : List Excerpt
deriving DecidableEq, Repr

namespace Scan

def start : Scan := ⟨0, 0, []⟩

/-! ## Searching -/

/-- The byte of `cs` at which the first `mark` starts. -/
def find? (mark cs : List Char) : Option Nat :=
  (splitMark? mark cs).map fun (before, _) => byteSize before

/-- Where the closing mark starts of a slot whose inner text starts at byte `innerStart`. -/
def close? (text : String) (innerStart : Nat) : Except Stretch (Option Nat) := do
  match ← cut text innerStart text.utf8ByteSize with
  | [] => return none
  | first :: _ =>
    if isLineBreak first then return none
    -- The first character belongs to the inner text even if it is a brace.
    let behindFirst := innerStart + first.utf8Size
    match find? closing (← cut text behindFirst text.utf8ByteSize) with
    | none => return none
    | some offset =>
      let innerStop := behindFirst + offset
      if (← cut text innerStart innerStop).any isLineBreak then return none
      return some innerStop

/-! ## Scanning -/

/-- The literal that goes up to byte `stop`, if there is any text for one. -/
def literal (text : String) (s : Scan) (stop : Nat) : Except Stretch (List Excerpt) := do
  if s.literalStart < stop then
    let source ← cut text s.literalStart stop
    return [⟨source, .literal source⟩]
  else return []

/-- One step of the scan: to the end of the next slot, or past an opening mark that opens none. -/
def step (g : Grammar) (text : String) (s : Scan) : Except Stretch (Option Scan) := do
  match find? g.opening (← cut text s.pos text.utf8ByteSize) with
  | none => return none
  | some offset =>
    let slotStart := s.pos + offset
    let innerStart := slotStart + byteSize g.opening
    match ← close? text innerStart with
    | none => return some { s with pos := slotStart + 1 }
    | some innerStop =>
      let literal ← s.literal text slotStart
      let slotStop := innerStop + byteSize closing
      let source ← cut text slotStart slotStop
      let inner ← cut text innerStart innerStop
      return some ⟨slotStop, slotStop, s.found ++ literal ++ [⟨source, g.slot inner⟩]⟩

/-- All tokens, when no further slot is found. -/
def finish (text : String) (s : Scan) : Except Stretch (List Excerpt) := do
  return s.found ++ (← s.literal text text.utf8ByteSize)

/-! ## Steps without faults -/

theorem splitMark?_closing (cs : List Char) : splitMark? closing cs = splitClose? cs := by
  fun_induction splitClose? cs with
  | case1 rest => rfl
  | case2 c rest hhead ih =>
    have hstart : closing.isPrefixOf (c :: rest) = false := by
      rw [← Bool.not_eq_true, List.isPrefixOf_iff_prefix]
      rintro ⟨after, hafter⟩
      obtain ⟨rfl, rfl⟩ := List.cons.inj hafter
      exact hhead after rfl rfl
    rw [splitMark?, hstart, ih]
    rfl
  | case3 => rfl

/-- The closing mark of an inner text is found without a fault. -/
theorem close?_eq {text : String} {before cs : List Char} (h : text.toList = before ++ cs) :
    close? text (byteSize before) = .ok ((inner? cs).map fun p => byteSize (before ++ p.1)) := by
  rw [close?, cut_to_end h, ok_bind]
  cases cs with
  | nil => rfl
  | cons first cs =>
    have hrest : text.toList = (before ++ [first]) ++ cs := by simp [h]
    have hbehind : byteSize (before ++ [first]) = byteSize before + first.utf8Size := by simp
    cases hfirst : isLineBreak first with
    | true =>
      have hinner : inner? (first :: cs) = none := by
        rw [inner?]
        split <;> simp [hfirst]
      rw [hinner]
      simp only [hfirst, if_true]
      rfl
    | false =>
      simp only [hfirst, Bool.false_eq_true, if_false]
      rw [← hbehind, cut_to_end hrest, ok_bind, find?, splitMark?_closing, inner?]
      cases hsplit : splitClose? cs with
      | none => rfl
      | some parts =>
        obtain ⟨name, rest⟩ := parts
        have htext : text.toList = before ++ (first :: name ++ (closing ++ rest)) := by
          rw [h, splitClose?_eq_append hsplit]
          simp
        have hstop : byteSize (before ++ [first]) + byteSize name =
            byteSize (before ++ first :: name) := by simp [Nat.add_assoc]
        simp only [Option.map_some, hstop, cut_byteSize htext, ok_bind]
        cases hline : (first :: name).any isLineBreak with
        | true => simp only [if_true]; rfl
        | false => simp only [Bool.false_eq_true, if_false]; rfl

theorem one_lt_byteSize_opening (g : Grammar) : 1 < byteSize g.opening := by
  have hbraces : byteSize Template.opening = 2 := by decide
  rw [Grammar.opening, byteSize_append]
  omega

theorem opening_ne_nil (g : Grammar) : g.opening ≠ [] := by
  simp [Grammar.opening, Template.opening]

/-- What a step comes to at a place between two characters, told from the text behind the place. -/
theorem step_eq {g : Grammar} {text : String} {s : Scan} {before cs : List Char}
    (h : text.toList = before ++ cs) (hpos : s.pos = byteSize before) :
    s.step g text =
      match splitMark? g.opening cs with
      | none => .ok none
      | some (front, behind) =>
        match inner? behind with
        | none => .ok (some { s with pos := byteSize (before ++ front) + 1 })
        | some (inner, _) => do
          let literal ← s.literal text (byteSize (before ++ front))
          let source := g.opening ++ inner ++ closing
          let slotStop := byteSize (before ++ front ++ source)
          return some ⟨slotStop, slotStop, s.found ++ literal ++ [⟨source, g.slot inner⟩]⟩ := by
  rw [step, hpos, cut_to_end h, ok_bind, find?]
  cases hmark : splitMark? g.opening cs with
  | none => rfl
  | some parts =>
    obtain ⟨front, behind⟩ := parts
    obtain ⟨rfl, -⟩ := (splitMark?_eq_some_iff (opening_ne_nil g)).mp hmark
    have hbehind : text.toList = (before ++ front ++ g.opening) ++ behind := by simp [h]
    simp only [Option.map_some, ← byteSize_append]
    rw [close?_eq hbehind, ok_bind]
    cases hslot : inner? behind with
    | none => rfl
    | some slot =>
      obtain ⟨inner, rest⟩ := slot
      obtain rfl := inner?_eq_append hslot
      have hsource : text.toList =
          (before ++ front) ++ (g.opening ++ inner ++ closing ++ rest) := by simp [h]
      have hinner : text.toList =
          (before ++ front ++ g.opening) ++ (inner ++ (closing ++ rest)) := by simp [h]
      have hstop : byteSize (before ++ front ++ g.opening ++ inner) + byteSize closing =
          byteSize (before ++ front ++ (g.opening ++ inner ++ closing)) := by simp [Nat.add_assoc]
      simp only [Option.map_some, hstop, cut_byteSize hsource, cut_byteSize hinner, ok_bind]

/-- **Every step moves on and not beyond the text.** -/
theorem pos_lt_of_step {g : Grammar} {text : String} {s s' : Scan}
    (h : s.step g text = .ok (some s')) : s.pos < s'.pos ∧ s'.pos ≤ text.utf8ByteSize := by
  cases hcut : cut text s.pos text.utf8ByteSize with
  | error fault =>
    rw [step, hcut] at h
    contradiction
  | ok cs =>
    obtain ⟨before, after, htext, hpos, hend⟩ := cut_eq_ok_iff.mp hcut
    obtain rfl : after = [] := by
      rw [utf8ByteSize_eq_byteSize, htext, ← List.append_assoc, byteSize_append _ after] at hend
      exact byteSize_eq_zero_iff.mp (by omega)
    rw [List.append_nil] at htext
    rw [step_eq htext hpos.symm] at h
    rw [utf8ByteSize_eq_byteSize, htext, ← hpos]
    cases hmark : splitMark? g.opening cs with
    | none => simp [hmark] at h
    | some parts =>
      obtain ⟨front, behind⟩ := parts
      obtain ⟨rfl, -⟩ := (splitMark?_eq_some_iff (opening_ne_nil g)).mp hmark
      have hopening : 1 < byteSize g.opening := one_lt_byteSize_opening g
      cases hslot : inner? behind with
      | none =>
        simp only [hmark, hslot, Except.ok.injEq, Option.some.injEq] at h
        subst h
        simp only [byteSize_append]
        omega
      | some slot =>
        obtain ⟨inner, rest⟩ := slot
        obtain rfl := inner?_eq_append hslot
        cases hliteral : s.literal text (byteSize (before ++ front)) with
        | error fault =>
          simp only [hmark, hslot, hliteral] at h
          contradiction
        | ok literal =>
          simp only [hmark, hslot, hliteral, ok_bind] at h
          obtain rfl := Option.some.inj (Except.ok.inj h)
          simp only [byteSize_append]
          omega

/-! ## The whole scan -/

/-- The scan from `s` on. -/
def run (g : Grammar) (text : String) (s : Scan) : Except Stretch (List Excerpt) :=
  match _ : s.step g text with
  | .error fault => .error fault
  | .ok none => s.finish text
  | .ok (some s') => run g text s'
termination_by text.utf8ByteSize - s.pos
decreasing_by
  have := pos_lt_of_step ‹s.step g text = _›
  omega

theorem run_of_step_none {g : Grammar} {text : String} {s : Scan}
    (h : s.step g text = .ok none) : s.run g text = s.finish text := by
  rw [run]
  split
  · next heq => simp [h] at heq
  · rfl
  · next heq => simp [h] at heq

theorem run_of_step_some {g : Grammar} {text : String} {s s' : Scan}
    (h : s.step g text = .ok (some s')) : s.run g text = s'.run g text := by
  rw [run]
  split
  · next heq => simp [h] at heq
  · next heq => simp [h] at heq
  · next heq =>
    rw [h] at heq
    rw [Option.some.inj (Except.ok.inj heq)]

end Scan

/-- The tokens of a text with their sources. -/
def Grammar.scan (g : Grammar) (text : String) : Except Stretch (List Excerpt) :=
  Scan.start.run g text

end Captions.Template
