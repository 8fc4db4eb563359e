import Captions.Proofs.Template.Copies

/-!
# Tokens cut out of their text

Whether an opening mark opens a slot depends on text that may be far behind it. Still a token needs
nothing of the text around it: cut out, it is read as the token that it was. And of the marks in a
literal those that could reach a slot behind the literal have the end of their line in between.

Results:
* `pieces_source`: a piece of a text, read on its own, is that one piece.
* `tokens_source`: the same for the tokens of a template and for those of a caption.
* `literal_before_slot`: in front of a slot no opening mark is left open on the line of the slot.
-/

namespace Captions.Template

/-! ## Tokens on their own -/

/-- A piece of a text, read on its own, is that one piece. -/
theorem pieces_source {opening cs : List Char} {p : Piece} (h : p ∈ pieces opening cs) :
    pieces opening (p.source opening) = [p] := by
  obtain ⟨as, bs, hps⟩ := List.append_of_mem h
  have hcuts := cuts_pieces opening cs
  rw [hps] at hcuts
  obtain ⟨rest, -, hcut⟩ := hcuts.append_right
  refine (cuts_iff_eq_pieces.mp ?_).symm
  cases hcut with
  | @slot inner rest _ hinner _ =>
    have hslot : Cuts opening (opening ++ (inner ++ (closing ++ []))) [.slot inner] :=
      .slot hinner .nil
    simpa [Piece.source] using hslot
  | @plain text rest _ hne hno _ _ =>
    -- A slot within the stretch would also be there with the rest of the text behind it.
    have hno' : ∀ v, v ≠ [] → v <:+ text → slot? opening (v ++ []) = none := by
      intro v hv hsuffix
      rw [List.append_nil]
      exact slot?_eq_none_of_append (hno v hv hsuffix)
    have hplain : Cuts opening (text ++ []) [.plain text] := .plain hne hno' (by simp) .nil
    simpa [Piece.source] using hplain

/-- **Tokens are self-delimiting.** Read on its own, as a template or as a caption, the source of a
token is that one token. -/
theorem tokens_source (cs : List Char) :
    (∀ t ∈ tokens cs, tokens t.source = [t]) ∧
      ∀ t ∈ iconTokens cs, iconTokens t.source = [t] := by
  constructor
  · intro t ht
    obtain ⟨p, hp, rfl⟩ := List.mem_map.mp ht
    rw [Piece.source_toToken, tokens, pieces_source hp, List.map_singleton]
  · intro t ht
    obtain ⟨p, hp, rfl⟩ := List.mem_map.mp ht
    rw [Piece.source_toIconToken, iconTokens, pieces_source hp, List.map_singleton]

/-- A literal with a mark that fails for the end of its line, and a slot with another mark in its
name. -/
theorem tokens_source_marks :
    let l := iconOpening ++ '\n' :: closing
    let t := Token.icon iconOpening
    (.literal l ∈ tokens (l ++ t.source) ∧ tokens l = [.literal l]) ∧
      t ∈ iconTokens (l ++ t.source) ∧ iconTokens t.source = [t] := by
  intro l t
  have hliteral : .literal l ∈ tokens (l ++ t.source) := by decide +kernel
  have hicon : t ∈ iconTokens (l ++ t.source) := by decide +kernel
  exact ⟨⟨hliteral, (tokens_source _).1 _ hliteral⟩, hicon, (tokens_source _).2 _ hicon⟩

/-! ## Literals in front of slots -/

theorem exists_isLineBreak_of_not_oneLine {cs : List Char} (h : ¬ OneLine cs) :
    ∃ c ∈ cs, isLineBreak c = true := by
  simpa [OneLine] using h

/-- **In front of a slot no mark is left open on its line.** A literal is followed by a slot, if by
anything; it does not end in an opening brace, and behind each opening mark in it a line ends within
it. -/
theorem literal_before_slot {cs l : List Char} {t : Token} (h : [.literal l, t] <:+: tokens cs) :
    t.isSlot = true ∧ ¬ ['{'] <:+ l ∧
      ∀ front rear, l = front ++ (opening ++ rear) → ∃ c ∈ rear, isLineBreak c = true := by
  obtain ⟨as, bs, hts⟩ := h
  have htokens : tokens cs = as ++ .literal l :: t :: bs := by simp [← hts]
  obtain ⟨hno, hbehind⟩ := literal_of_tokens htokens
  obtain ⟨inner, rest, hsources, hinner⟩ := hbehind.resolve_left (List.cons_ne_nil t bs)
  refine ⟨?_, ?_, ?_⟩
  · have hreading : IsReading opening TemplateSlot cs (tokens cs) :=
      isReading_map_pieces makesTokens_toToken cs
    have hsep := hreading.separated
    rw [htokens] at hsep
    have hpair := (List.isChain_cons_cons.mp (List.isChain_append.mp hsep).2.1).1
    exact hpair.resolve_left Bool.false_ne_true
  · rintro ⟨u, rfl⟩
    -- The brace and the first one of the slot would open a slot one character earlier.
    have hnone := hno ['{'] (by simp) (List.suffix_append u ['{'])
    have hline : OneLine ('{' :: inner) :=
      List.forall_mem_cons.mpr ⟨rfl, hinner.oneLine⟩
    refine slot?_ne_none (List.cons_ne_nil '{' inner) hline opening rest ?_
    rwa [hsources] at hnone
  · rintro front rear rfl
    have hnone := hno (opening ++ rear) (by simp [opening]) (List.suffix_append front _)
    rw [hsources] at hnone
    exact exists_isLineBreak_of_not_oneLine
      (not_oneLine_of_no_slot oneLine_opening hinner hnone)

/-- One mark has a closing mark behind it but the end of the line before that, the other one has a
line end as its first character. -/
theorem literal_before_slot_marks :
    let l := "{{}} \x7b\x7b\u2028 \x7bx".toList
    let t := Token.argument ['y']
    [.literal l, t] <:+: tokens (l ++ t.source) ∧ t.isSlot = true ∧ ¬ ['{'] <:+ l ∧
      ∀ front rear, l = front ++ (opening ++ rear) → ∃ c ∈ rear, isLineBreak c = true := by
  intro l t
  have hpair : [.literal l, t] <:+: tokens (l ++ t.source) := by decide +kernel
  exact ⟨hpair, literal_before_slot hpair⟩

end Captions.Template
