import Captions.Proofs.Template.Reading
import Captions.Template.Scan
import Mathlib.Logic.Relation

/-!
# Scans find the tokens of a text, without a fault

Wherever a scan has got to, the text is parted into the pieces found, a stretch in which no slot
begins, and the rest. A step keeps it so. Hence all that a scan cuts out lies in the text, whatever
characters stand around the marks, and at its end it has found the tokens of the text.

Results:
* `At.step_cases`: what a step does wherever a scan has got to.
* `exists_at_of_reaches`: every scan that is on its way is at such a place.
* `At.exists_end`: from there it comes to its end, with the pieces of the text.
* `run_of_reaches`: a scan gives what is found at its end.
-/

namespace Captions.Template

open Text

/-! ## Texts without slots -/

/-- If no slot begins in the one stretch and none in the other one behind it, none begins in both
together. -/
theorem no_slot_append {opening text front rest : List Char}
    (htext : ∀ v, v ≠ [] → v <:+ text → slot? opening (v ++ (front ++ rest)) = none)
    (hfront : ∀ v, v ≠ [] → v <:+ front → slot? opening (v ++ rest) = none) :
    ∀ v, v ≠ [] → v <:+ text ++ front → slot? opening (v ++ rest) = none := by
  intro v hne hv
  rcases List.suffix_or_suffix_of_suffix hv (List.suffix_append text front) with hin | ⟨w, rfl⟩
  · exact hfront v hne hin
  · obtain ⟨u, hu⟩ := hv
    rw [← List.append_assoc] at hu
    have hw : w <:+ text := ⟨u, List.append_cancel_right hu⟩
    by_cases hempty : w = []
    · subst hempty
      exact hfront _ hne List.suffix_rfl
    · rw [List.append_assoc]
      exact htext w hempty hw

/-- The pieces of a text without slots: the one plain stretch that it is, if it is anything. -/
def plainPieces : List Char → List Piece
  | [] => []
  | text => [.plain text]

theorem flatMap_source_plainPieces (opening text : List Char) :
    (plainPieces text).flatMap (Piece.source opening) = text := by
  cases text with
  | nil => rfl
  | cons c text => simp [plainPieces, Piece.source]

theorem pieces_append_eq {opening text rest : List Char}
    (hno : ∀ v, v ≠ [] → v <:+ text → slot? opening (v ++ rest) = none)
    (hhead : ∀ t, (pieces opening rest).head? ≠ some (.plain t)) :
    pieces opening (text ++ rest) = plainPieces text ++ pieces opening rest := by
  rw [pieces_append_of_no_slot hno]
  cases text with
  | nil => rfl
  | cons c text => exact foldr_consPlain (List.cons_ne_nil c text) hhead

/-! ## Where a scan has got to -/

/-- A piece as a scan cuts it out. -/
def Grammar.excerpt (g : Grammar) : Piece → Excerpt
  | .plain text => ⟨text, .literal text⟩
  | .slot inner => ⟨g.opening ++ inner ++ closing, g.slot inner⟩

namespace Scan

variable {g : Grammar} {text : String} {s s' : Scan} {done : List Piece} {lit rest : List Char}

/-- The scan has found the pieces `done` and passed `lit` behind them; `rest` is to be searched. -/
structure At (g : Grammar) (text : String) (s : Scan) (done : List Piece) (lit rest : List Char) :
    Prop where
  pieces_eq : pieces g.opening text.toList = done ++ pieces g.opening (lit ++ rest)
  no_slot : ∀ v, v ≠ [] → v <:+ lit → slot? g.opening (v ++ rest) = none
  found_eq : s.found = done.map g.excerpt
  literalStart_eq : s.literalStart = byteSize (done.flatMap (Piece.source g.opening))
  pos_eq : s.pos = byteSize (done.flatMap (Piece.source g.opening) ++ lit)

theorem at_start (g : Grammar) (text : String) : At g text start [] [] text.toList :=
  ⟨rfl, fun _ hne hv => absurd (List.suffix_nil.mp hv) hne, rfl, rfl, rfl⟩

theorem At.text_eq (h : At g text s done lit rest) :
    text.toList = done.flatMap (Piece.source g.opening) ++ (lit ++ rest) := by
  have hsource := flatMap_source_pieces g.opening text.toList
  rw [h.pieces_eq, List.flatMap_append, flatMap_source_pieces] at hsource
  exact hsource.symm

/-- The literal in front of a slot, or of the end of the text, is cut out without a fault. -/
theorem At.literal_eq (h : At g text s done lit rest) {front behind : List Char}
    (hrest : rest = front ++ behind) :
    s.literal text (byteSize (done.flatMap (Piece.source g.opening) ++ lit ++ front)) =
      .ok ((plainPieces (lit ++ front)).map g.excerpt) := by
  have htext : text.toList = done.flatMap (Piece.source g.opening) ++ (lit ++ front ++ behind) := by
    rw [h.text_eq, hrest, List.append_assoc]
  rw [literal, h.literalStart_eq, List.append_assoc]
  cases hlit : lit ++ front with
  | nil =>
    rw [List.append_nil, if_neg (Nat.lt_irrefl _)]
    rfl
  | cons c cs =>
    have hpos := c.utf8Size_pos
    rw [hlit] at htext
    rw [cut_byteSize htext, if_pos (by simp; omega)]
    rfl

/-- At the end of a scan all pieces of the text are found. -/
theorem At.finish_eq (h : At g text s done lit rest)
    (hno : ∀ v, v ≠ [] → v <:+ lit ++ rest → slot? g.opening (v ++ []) = none) :
    s.finish text = .ok ((pieces g.opening text.toList).map g.excerpt) := by
  have hsize : text.utf8ByteSize =
      byteSize (done.flatMap (Piece.source g.opening) ++ lit ++ rest) := by
    rw [utf8ByteSize_eq_byteSize, h.text_eq, List.append_assoc]
  have hpieces := pieces_append_eq hno (by simp [pieces_nil])
  rw [List.append_nil, pieces_nil, List.append_nil] at hpieces
  rw [finish, hsize, h.literal_eq (List.append_nil rest).symm, h.pieces_eq, hpieces, h.found_eq,
    List.map_append]
  rfl

section Mark

variable {front behind : List Char}

/-- In front of the first mark no slot begins. -/
theorem At.no_slot_before (h : At g text s done lit (front ++ (g.opening ++ behind)))
    (hfirst : ∀ v, v ≠ [] → v <:+ front → ¬ g.opening <+: v ++ (g.opening ++ behind)) :
    ∀ v, v ≠ [] → v <:+ lit ++ front → slot? g.opening (v ++ (g.opening ++ behind)) = none :=
  no_slot_append h.no_slot fun v hne hv => slot?_eq_none_of_not_prefix (hfirst v hne hv)

/-- A mark that opens no slot is passed by its first brace. -/
theorem At.pass (h : At g text s done lit (front ++ (g.opening ++ behind)))
    (hno : ∀ v, v ≠ [] → v <:+ lit ++ front → slot? g.opening (v ++ (g.opening ++ behind)) = none)
    (hslot : inner? behind = none) :
    At g text
      { s with pos := byteSize (done.flatMap (Piece.source g.opening) ++ lit ++ front) + 1 } done
      (lit ++ front ++ ['{']) (g.opening.tail ++ behind) := by
  have hopening : g.opening ++ behind = ['{'] ++ (g.opening.tail ++ behind) := rfl
  have hbrace : ∀ v, v ≠ [] → v <:+ ['{'] →
      slot? g.opening (v ++ (g.opening.tail ++ behind)) = none := by
    intro v hne hv
    obtain rfl : v = ['{'] := (List.suffix_cons_iff.mp hv).resolve_right (by simp [hne])
    rw [← hopening, slot?_opening_append, hslot]
  refine ⟨?_, no_slot_append (hopening ▸ hno) hbrace, h.found_eq, h.literalStart_eq, ?_⟩
  · rw [h.pieces_eq, hopening]
    simp
  · have hsize : '{'.utf8Size = 1 := rfl
    simp [hsize, Nat.add_assoc]

/-- A slot is found, with the literal in front of it. -/
theorem At.take {inner after : List Char}
    (h : At g text s done lit (front ++ (g.opening ++ behind)))
    (hno : ∀ v, v ≠ [] → v <:+ lit ++ front → slot? g.opening (v ++ (g.opening ++ behind)) = none)
    (hslot : inner? behind = some (inner, after)) {stop : ℕ}
    (hstop : stop = byteSize (done.flatMap (Piece.source g.opening) ++ lit ++ front ++
      (g.opening ++ inner ++ closing))) :
    At g text
      ⟨stop, stop, s.found ++ (plainPieces (lit ++ front)).map g.excerpt ++
        [g.excerpt (.slot inner)]⟩
      (done ++ plainPieces (lit ++ front) ++ [.slot inner]) [] after := by
  have hfound : slot? g.opening (g.opening ++ behind) = some (inner, after) := by
    rw [slot?_opening_append, hslot]
  have hpieces : pieces g.opening (lit ++ front ++ (g.opening ++ behind)) =
      plainPieces (lit ++ front) ++ .slot inner :: pieces g.opening after := by
    have hhead : ∀ t, (pieces g.opening (g.opening ++ behind)).head? ≠ some (.plain t) := by
      simp [pieces_of_slot? hfound]
    rw [pieces_append_eq hno hhead, pieces_of_slot? hfound]
  have hsource : (done ++ plainPieces (lit ++ front) ++ [Piece.slot inner]).flatMap
      (Piece.source g.opening) = done.flatMap (Piece.source g.opening) ++ lit ++ front ++
        (g.opening ++ inner ++ closing) := by
    simp [flatMap_source_plainPieces, Piece.source]
  refine ⟨?_, fun _ hne hv => absurd (List.suffix_nil.mp hv) hne, ?_, ?_, ?_⟩
  · rw [h.pieces_eq, ← List.append_assoc lit, hpieces]
    simp
  · rw [h.found_eq, List.map_append, List.map_append]
    rfl
  · rw [hsource, hstop]
  · rw [List.append_nil, hsource, hstop]

end Mark

/-- **What a step does wherever a scan has got to.** It either finds that no slot is left or goes on
to a place of the same kind; it never fails. -/
theorem At.step_cases (h : At g text s done lit rest) :
    (s.step g text = .ok none ∧
        ∀ v, v ≠ [] → v <:+ lit ++ rest → slot? g.opening (v ++ []) = none) ∨
      ∃ s' done' lit' rest', s.step g text = .ok (some s') ∧ At g text s' done' lit' rest' := by
  have htext : text.toList = (done.flatMap (Piece.source g.opening) ++ lit) ++ rest := by
    rw [h.text_eq, List.append_assoc]
  rw [step_eq htext h.pos_eq]
  cases hmark : splitMark? g.opening rest with
  | none =>
    refine .inl ⟨rfl, no_slot_append (by rw [List.append_nil]; exact h.no_slot) ?_⟩
    intro v _ hv
    rw [List.append_nil]
    refine slot?_eq_none_of_not_prefix fun hstart => ?_
    exact (splitMark?_eq_none_iff (opening_ne_nil g)).mp hmark (hstart.isInfix.trans hv.isInfix)
  | some parts =>
    obtain ⟨front, behind⟩ := parts
    obtain ⟨rfl, hfirst⟩ := (splitMark?_eq_some_iff (opening_ne_nil g)).mp hmark
    have hno := h.no_slot_before hfirst
    cases hslot : inner? behind with
    | none =>
      simp only [hslot]
      exact .inr ⟨_, _, _, _, rfl, h.pass hno hslot⟩
    | some slot =>
      obtain ⟨inner, after⟩ := slot
      simp only [hslot, h.literal_eq rfl, ok_bind]
      exact .inr ⟨_, _, _, _, rfl, h.take hno hslot rfl⟩

/-! ## Whole scans -/

/-- The scan gets from `s` to `s'`, step by step. -/
def Reaches (g : Grammar) (text : String) : Scan → Scan → Prop :=
  Relation.ReflTransGen fun s s' => s.step g text = .ok (some s')

theorem exists_at_of_reaches (h : At g text s done lit rest) (hreach : Reaches g text s s') :
    ∃ done' lit' rest', At g text s' done' lit' rest' := by
  induction hreach with
  | refl => exact ⟨done, lit, rest, h⟩
  | tail _ hstep ih =>
    obtain ⟨_, _, _, hat⟩ := ih
    rcases hat.step_cases with ⟨hnone, -⟩ | ⟨s', done', lit', rest', hsome, hat'⟩
    · rw [hnone] at hstep
      exact absurd (Except.ok.inj hstep) (Option.some_ne_none _).symm
    · rw [hsome] at hstep
      obtain rfl := Option.some.inj (Except.ok.inj hstep)
      exact ⟨done', lit', rest', hat'⟩

/-- **A scan comes to its end**, and then it has found the pieces of the text. -/
theorem At.exists_end (h : At g text s done lit rest) :
    ∃ s', Reaches g text s s' ∧ s'.step g text = .ok none ∧
      s'.finish text = .ok ((pieces g.opening text.toList).map g.excerpt) := by
  -- What is left of the text behind the place of search gets less with every step.
  induction hleft : text.utf8ByteSize - s.pos using Nat.strong_induction_on
    generalizing s done lit rest with
  | _ left ih =>
    rcases h.step_cases with ⟨hnone, hno⟩ | ⟨s', done', lit', rest', hsome, hat⟩
    · exact ⟨s, .refl, hnone, h.finish_eq hno⟩
    · have hpos := pos_lt_of_step hsome
      obtain ⟨s'', hreach, hend⟩ := ih _ (by omega) hat rfl
      exact ⟨s'', .head hsome hreach, hend⟩

theorem run_of_reaches (hreach : Reaches g text s s') (hend : s'.step g text = .ok none) :
    s.run g text = s'.finish text := by
  induction hreach using Relation.ReflTransGen.head_induction_on with
  | refl => exact run_of_step_none hend
  | head hstep _ ih => rw [run_of_step_some hstep, ih]

end Scan

end Captions.Template
