import Captions.Proofs.Template.SlotShape
import Captions.Template.Place
import Mathlib.Data.List.Chain

/-!
# The reading of a text

What the tokens of a text are, said by what may stand at which byte of it and not by a way to find
them: the tokens make up the text, every slot closes at the first closing mark it can, and no slot
begins inside of a literal. One row of tokens alone fulfils this.

Results:
* `slotAt_append_iff`: a slot stands at a place exactly when the rest of the text begins with it.
* `cuts_iff_eq_pieces`: the pieces of a text are the one row that takes every slot where it begins.
* `isReading_iff_eq_tokens`: the tokens of a template are its one reading.
* `isReading_iff_eq_iconTokens`: the tokens of a caption are its one reading.
-/

namespace Captions.Template

open Text

/-! ## Places in a text -/

/-- `mark` stands in `text` from byte `start` on. -/
def OccursAt (mark text : List Char) (start : Nat) : Prop :=
  ∃ before after, text = before ++ (mark ++ after) ∧ byteSize before = start

/-- A slot with `inner` between its marks stands in `text` from byte `start` on. -/
structure SlotAt (opening text : List Char) (start : Nat) (inner : List Char) : Prop where
  occurs : OccursAt (opening ++ (inner ++ closing)) text start
  ne_nil : inner ≠ []
  oneLine : OneLine inner
  /-- The closing mark is the first one from the second character of `inner` on. -/
  closesFirst : ∀ stop, OccursAt closing text stop →
    start + byteSize (opening ++ inner.take 1) ≤ stop → start + byteSize (opening ++ inner) ≤ stop

theorem slotAt_append_iff {opening before cs inner : List Char} :
    SlotAt opening (before ++ cs) (byteSize before) inner ↔
      ∃ rest, slot? opening cs = some (inner, rest) := by
  constructor
  · rintro ⟨⟨before', rest, heq, hsize⟩, hne, hbreak, hfirst⟩
    obtain ⟨rfl, rfl⟩ := append_inj_of_byteSize heq hsize.symm
    refine ⟨rest, slot?_eq_some_iff.mpr ⟨by simp, hne, hbreak, ?_⟩⟩
    obtain ⟨c, tail, rfl⟩ := List.exists_cons_of_ne_nil hne
    -- An earlier closing mark would have to be behind the end of `inner`, where there is no room.
    rintro ⟨u, v, huv⟩
    rw [List.tail_cons] at huv
    have hocc : OccursAt closing (before ++ (opening ++ (c :: tail ++ closing) ++ rest))
        (byteSize (before ++ opening ++ [c] ++ u)) := by
      refine ⟨before ++ opening ++ [c] ++ u, v ++ ['}'] ++ rest, ?_, rfl⟩
      have : tail ++ closing = u ++ closing ++ v ++ ['}'] := by
        rw [huv]
        simp [closing]
      simp [this]
    have hbrace : '}'.utf8Size = 1 := rfl
    have hsizes := congrArg byteSize huv
    have hle := hfirst _ hocc (by simp)
    simp [closing, hbrace] at hsizes hle
    omega
  · rintro ⟨rest, h⟩
    obtain ⟨rfl, hinner⟩ := slot?_eq_some_iff.mp h
    refine ⟨⟨before, rest, by simp, rfl⟩, hinner.ne_nil, hinner.oneLine, ?_⟩
    rintro _ ⟨before', after, heq, rfl⟩ hle
    obtain ⟨c, tail, rfl⟩ := List.exists_cons_of_ne_nil hinner.ne_nil
    have heq' : before' ++ (closing ++ after) =
        before ++ opening ++ [c] ++ (tail ++ (closing ++ rest)) := by
      rw [← heq]
      simp
    obtain ⟨u, rfl, hu⟩ := eq_append_of_byteSize_le heq' (by simpa [Nat.add_assoc] using hle)
    obtain ⟨w, rfl⟩ := prefix_of_append_closing hinner.noClosing hu
    simp

/-! ## Cutting where slots begin -/

def Piece.isPlain : Piece → Bool
  | plain _ => true
  | slot _ => false

/-- A row of pieces that makes up a text, takes a slot wherever one begins, and has nothing empty or
divided among its plain stretches. -/
inductive Cuts (opening : List Char) : List Char → List Piece → Prop
  | nil : Cuts opening [] []
  | slot {inner rest : List Char} {ps : List Piece} :
      IsInner inner → Cuts opening rest ps →
      Cuts opening (opening ++ (inner ++ (closing ++ rest))) (.slot inner :: ps)
  | plain {text rest : List Char} {ps : List Piece} :
      text ≠ [] → (∀ v, v ≠ [] → v <:+ text → slot? opening (v ++ rest) = none) →
      (∀ t, ps.head? ≠ some (.plain t)) → Cuts opening rest ps →
      Cuts opening (text ++ rest) (.plain text :: ps)

theorem Cuts.consPlain {opening rest : List Char} {c : Char} {ps : List Piece}
    (hc : slot? opening (c :: rest) = none) (h : Cuts opening rest ps) :
    Cuts opening (c :: rest) (consPlain c ps) := by
  have hlone : ∀ v, v ≠ [] → v <:+ [c] → slot? opening (v ++ rest) = none := by
    intro v hne hv
    rcases List.suffix_cons_iff.mp hv with rfl | hv
    · exact hc
    · exact absurd (List.suffix_nil.mp hv) hne
  cases h with
  | nil => exact .plain (by simp) hlone (by simp) .nil
  | slot hinner h => exact .plain (by simp) hlone (by simp) (.slot hinner h)
  | @plain text rest ps hne hno hhead h =>
    refine @Cuts.plain _ (c :: text) _ _ (by simp) ?_ hhead h
    intro v hne hv
    rcases List.suffix_cons_iff.mp hv with rfl | hv
    · exact hc
    · exact hno v hne hv

theorem cuts_pieces (opening cs : List Char) : Cuts opening cs (pieces opening cs) := by
  fun_induction pieces opening cs with
  | case1 cs inner rest h ih =>
    obtain ⟨rfl, hinner⟩ := slot?_eq_some_iff.mp h
    exact .slot hinner ih
  | case2 => exact .nil
  | case3 c rest h ih => exact ih.consPlain h

/-- A plain stretch in front of a row that does not begin with one stays in one piece. -/
theorem foldr_consPlain {text : List Char} {ps : List Piece} (hne : text ≠ [])
    (hps : ∀ t, ps.head? ≠ some (.plain t)) :
    text.foldr consPlain ps = .plain text :: ps := by
  induction text with
  | nil => exact absurd rfl hne
  | cons c text ih =>
    by_cases h : text = []
    · subst h
      rcases ps with _ | ⟨_ | _, ps⟩
      · rfl
      · exact absurd rfl (hps _)
      · rfl
    · rw [List.foldr_cons, ih h]
      rfl

theorem cuts_iff_eq_pieces {opening cs : List Char} {ps : List Piece} :
    Cuts opening cs ps ↔ ps = pieces opening cs := by
  constructor
  · intro h
    induction h with
    | nil => rw [pieces_nil]
    | slot hinner _ ih => rw [pieces_of_slot? (slot?_eq_some_iff.mpr ⟨rfl, hinner⟩), ih]
    | plain hne hno hhead _ ih =>
      rw [pieces_append_of_no_slot hno, ← ih, foldr_consPlain hne hhead]
  · rintro rfl
    exact cuts_pieces opening cs

/-- The rear part of a row of pieces cuts the rear part of the text. -/
theorem Cuts.append_right {opening cs : List Char} {as bs : List Piece}
    (h : Cuts opening cs (as ++ bs)) :
    ∃ rest, cs = as.flatMap (Piece.source opening) ++ rest ∧ Cuts opening rest bs := by
  induction as generalizing cs with
  | nil => exact ⟨cs, by simp, h⟩
  | cons p as ih =>
    cases h with
    | slot hinner h =>
      obtain ⟨rest, rfl, hrest⟩ := ih h
      exact ⟨rest, by simp [Piece.source], hrest⟩
    | plain _ _ _ h =>
      obtain ⟨rest, rfl, hrest⟩ := ih h
      exact ⟨rest, by simp [Piece.source], hrest⟩

theorem Cuts.plain_ne_nil {opening cs text : List Char} {ps : List Piece}
    (h : Cuts opening cs ps) (hmem : .plain text ∈ ps) : text ≠ [] := by
  obtain ⟨as, bs, rfl⟩ := List.append_of_mem hmem
  obtain ⟨rest, -, hrest⟩ := h.append_right
  cases hrest with
  | plain hne => exact hne

theorem Cuts.isInner {opening cs inner : List Char} {ps : List Piece}
    (h : Cuts opening cs (.slot inner :: ps)) : IsInner inner := by
  cases h with
  | slot hinner _ => exact hinner

/-- In a plain stretch no slot begins, and behind it a slot stands or nothing. -/
theorem Cuts.of_plain {opening cs text : List Char} {ps : List Piece}
    (h : Cuts opening cs (.plain text :: ps)) :
    ∃ rest, cs = text ++ rest ∧
      (∀ v, v ≠ [] → v <:+ text → slot? opening (v ++ rest) = none) ∧
      (ps = [] ∨ ∃ inner after, rest = opening ++ (inner ++ (closing ++ after)) ∧
        IsInner inner) := by
  cases h with
  | @plain _ rest _ _ hno hhead h =>
    refine ⟨rest, rfl, hno, ?_⟩
    cases h with
    | nil => exact .inl rfl
    | @slot inner after _ hinner _ => exact .inr ⟨inner, after, rfl, hinner⟩
    | @plain text => exact absurd rfl (hhead text)

/-- Of two pieces side by side, one is a slot. -/
theorem Cuts.separated {opening cs : List Char} {ps : List Piece} (h : Cuts opening cs ps) :
    ps.IsChain fun p q => ¬ (p.isPlain = true ∧ q.isPlain = true) := by
  induction h with
  | nil => exact .nil
  | slot _ _ ih => exact List.isChain_cons.mpr ⟨by simp [Piece.isPlain], ih⟩
  | plain _ _ hhead _ ih =>
    refine List.isChain_cons.mpr ⟨?_, ih⟩
    rintro (text | inner) hq
    · exact absurd hq (hhead text)
    · simp [Piece.isPlain]

/-- Within a stretch in which no slot begins there is no place of one. -/
theorem not_slotAt_of_no_slot {opening before text rest inner : List Char} {start : ℕ}
    (hno : ∀ v, v ≠ [] → v <:+ text → slot? opening (v ++ rest) = none)
    (hle : byteSize before ≤ start) (hlt : start < byteSize before + byteSize text) :
    ¬ SlotAt opening (before ++ (text ++ rest)) start inner := by
  intro hat
  obtain ⟨front, after, heq, rfl⟩ := hat.occurs
  -- The place parts the stretch, and a slot begins with the rear part.
  obtain ⟨u, rfl, hu⟩ := eq_append_of_byteSize_le heq.symm hle
  have hshort : byteSize u ≤ byteSize text := by
    rw [byteSize_append] at hlt
    omega
  obtain ⟨v, rfl, -⟩ := eq_append_of_byteSize_le hu hshort
  have hassoc : before ++ (u ++ v ++ rest) = before ++ u ++ (v ++ rest) := by simp
  rw [hassoc, slotAt_append_iff] at hat
  obtain ⟨tail, htail⟩ := hat
  have hne : v ≠ [] := by
    rintro rfl
    simp at hlt
  rw [hno v hne (List.suffix_append u v)] at htail
  exact absurd htail (by simp)

/-! ## Readings -/

/-- The slot of a template that has `inner` between its braces. -/
inductive TemplateSlot : List Char → Token → Prop
  | icon (name : List Char) : TemplateSlot (iconMark ++ name) (.icon name)
  | argument {inner : List Char} : ¬ iconMark <+: inner → TemplateSlot inner (.argument inner)

/-- A row of tokens that may be read in `text`, where `Slot` says which token the slot with some
text between its marks is. -/
structure IsReading (opening : List Char) (Slot : List Char → Token → Prop) (text : List Char)
    (ts : List Token) : Prop where
  sources_eq : sources ts = text
  literal_ne_nil : ∀ l, Token.literal l ∈ ts → l ≠ []
  /-- No two literals stand side by side. -/
  separated : ts.IsChain fun a b => a.isSlot = true ∨ b.isSlot = true
  slotAt : ∀ p ∈ placed 0 ts, p.token.isSlot = true →
    ∃ inner, p.token.source = opening ++ (inner ++ closing) ∧ Slot inner p.token ∧
      SlotAt opening text p.start inner
  /-- No slot begins inside of a literal. -/
  noSlotAt : ∀ p ∈ placed 0 ts, p.token.isSlot = false →
    ∀ start, p.start ≤ start → start < p.stop → ∀ inner, ¬ SlotAt opening text start inner

/-- The pieces of a text become tokens: a plain stretch a literal, a slot the token that `Slot`
tells. -/
structure MakesTokens (opening : List Char) (Slot : List Char → Token → Prop)
    (toToken : Piece → Token) : Prop where
  plain : ∀ text, toToken (.plain text) = .literal text
  slot_iff : ∀ inner t, Slot inner t ↔ t = toToken (.slot inner)
  source_slot : ∀ inner, (toToken (.slot inner)).source = opening ++ (inner ++ closing)
  isSlot_slot : ∀ inner, (toToken (.slot inner)).isSlot = true

theorem mem_placed_iff {p : Placed} {offset : Nat} {ts : List Token} :
    p ∈ placed offset ts ↔
      ∃ as t bs, ts = as ++ t :: bs ∧ p = ⟨offset + byteSize (sources as), t⟩ := by
  induction ts generalizing offset with
  | nil => simp [placed]
  | cons t ts ih =>
    rw [placed, List.mem_cons, ih]
    constructor
    · rintro (rfl | ⟨as, u, bs, rfl, rfl⟩)
      · exact ⟨[], t, ts, rfl, rfl⟩
      · exact ⟨t :: as, u, bs, rfl, by simp [Nat.add_assoc]⟩
    · rintro ⟨_ | ⟨a, as⟩, u, bs, heq, rfl⟩
      · obtain ⟨rfl, rfl⟩ := List.cons.inj heq
        exact .inl rfl
      · obtain ⟨rfl, rfl⟩ := List.cons.inj heq
        exact .inr ⟨as, u, bs, rfl, by simp [Nat.add_assoc]⟩

section Unique

variable {opening : List Char} {Slot : List Char → Token → Prop} {toToken : Piece → Token}

theorem MakesTokens.source_toToken (h : MakesTokens opening Slot toToken) (p : Piece) :
    (toToken p).source = p.source opening := by
  cases p with
  | plain text => rw [h.plain]; rfl
  | slot inner => rw [h.source_slot]; simp [Piece.source]

theorem MakesTokens.sources_map (h : MakesTokens opening Slot toToken) (ps : List Piece) :
    sources (ps.map toToken) = ps.flatMap (Piece.source opening) := by
  simp only [sources, List.flatMap_map, h.source_toToken]

/-- From each of its tokens on, a reading cuts the rest of the text where slots begin. -/
theorem IsReading.exists_cuts {text : List Char} {ts : List Token}
    (h : MakesTokens opening Slot toToken) (hr : IsReading opening Slot text ts) :
    ∀ bs as, ts = as ++ bs → ∃ ps, bs = ps.map toToken ∧ Cuts opening (sources bs) ps := by
  intro bs
  induction bs with
  | nil =>
    intro as _
    exact ⟨[], rfl, .nil⟩
  | cons t bs ih =>
    intro as hts
    obtain ⟨ps, hps, hcuts⟩ := ih (as ++ [t]) (by simp [hts])
    have hplace : ⟨byteSize (sources as), t⟩ ∈ placed 0 ts :=
      mem_placed_iff.mpr ⟨as, t, bs, hts, by simp⟩
    have hrest : sources (t :: bs) = t.source ++ sources bs := rfl
    have htext : text = sources as ++ (t.source ++ sources bs) := by
      rw [← hr.sources_eq, hts, ← hrest]
      simp [sources]
    rw [hrest]
    by_cases hslot : t.isSlot = true
    · obtain ⟨inner, hsource, hinner, hat⟩ := hr.slotAt _ hplace hslot
      rw [htext, slotAt_append_iff] at hat
      obtain ⟨rest, hrest⟩ := hat
      refine ⟨.slot inner :: ps, ?_, ?_⟩
      · rw [hps, (h.slot_iff inner t).mp hinner, List.map_cons]
      · have hcut : Cuts opening (opening ++ (inner ++ (closing ++ sources bs)))
            (.slot inner :: ps) := .slot (slot?_eq_some_iff.mp hrest).2 hcuts
        simpa [hsource] using hcut
    · obtain ⟨l, rfl⟩ : ∃ l, t = .literal l := by
        cases t <;> simp [Token.isSlot] at hslot ⊢
      have hne : l ≠ [] := hr.literal_ne_nil l (by simp [hts])
      have hno : ∀ v, v ≠ [] → v <:+ l → slot? opening (v ++ sources bs) = none := by
        rintro v hv ⟨u, rfl⟩
        by_contra hsome
        obtain ⟨⟨inner, rest⟩, hrest⟩ := Option.ne_none_iff_exists'.mp hsome
        have hpos : 0 < byteSize v := Nat.pos_of_ne_zero (mt byteSize_eq_zero_iff.mp hv)
        refine hr.noSlotAt _ hplace rfl (byteSize (sources as ++ u)) (by simp) ?_ inner ?_
        · simp [Placed.stop, Token.source]
          omega
        · have : text = sources as ++ u ++ (v ++ sources bs) := by
            rw [htext]
            simp [Token.source]
          rw [this]
          exact slotAt_append_iff.mpr ⟨rest, hrest⟩
      have hhead : ∀ m, ps.head? ≠ some (.plain m) := by
        intro m hm
        have hsep := hr.separated
        rw [hts, hps] at hsep
        obtain ⟨qs, rfl⟩ := List.head?_eq_some_iff.mp hm
        rw [List.map_cons, h.plain] at hsep
        have := (List.isChain_append.mp hsep).2.1
        simp [Token.isSlot] at this
      exact ⟨.plain l :: ps, by rw [hps, List.map_cons, h.plain], .plain hne hno hhead hcuts⟩

/-- What stands at a place is a piece, from which on the rest of the text is cut. -/
theorem MakesTokens.exists_cuts (h : MakesTokens opening Slot toToken) {text : List Char}
    {p : Placed} (hp : p ∈ placed 0 ((pieces opening text).map toToken)) :
    ∃ (before : List Char) (q : Piece) (bs : List Piece) (rest : List Char),
      p = ⟨byteSize before, toToken q⟩ ∧ text = before ++ rest ∧ Cuts opening rest (q :: bs) := by
  obtain ⟨as', t, bs', heq, rfl⟩ := mem_placed_iff.mp hp
  obtain ⟨as, qs, hps, rfl, hqs⟩ := List.map_eq_append_iff.mp heq
  obtain ⟨q, bs, rfl, rfl, rfl⟩ := List.map_eq_cons_iff.mp hqs
  have hcuts := cuts_pieces opening text
  rw [hps] at hcuts
  obtain ⟨rest, hrest, hcut⟩ := hcuts.append_right
  exact ⟨_, q, bs, rest, by rw [Nat.zero_add, h.sources_map], hrest, hcut⟩

theorem isReading_map_pieces (h : MakesTokens opening Slot toToken) (text : List Char) :
    IsReading opening Slot text ((pieces opening text).map toToken) := by
  have hcuts := cuts_pieces opening text
  refine ⟨?_, ?_, ?_, ?_, ?_⟩
  · rw [h.sources_map, flatMap_source_pieces]
  · intro l hl
    obtain ⟨p, hp, heq⟩ := List.mem_map.mp hl
    cases p with
    | plain text =>
      rw [h.plain, Token.literal.injEq] at heq
      exact heq ▸ hcuts.plain_ne_nil hp
    | slot inner =>
      have := h.isSlot_slot inner
      simp [heq, Token.isSlot] at this
  · refine (List.isChain_map toToken).mpr (hcuts.separated.imp ?_)
    rintro (_ | inner) (_ | inner') hpq
    · exact absurd ⟨rfl, rfl⟩ hpq
    all_goals simp [h.isSlot_slot]
  · intro p hp hslot
    obtain ⟨before, q, bs, rest, rfl, rfl, hcut⟩ := h.exists_cuts hp
    cases hcut with
    | @slot inner _ _ hinner =>
      exact ⟨inner, h.source_slot inner, (h.slot_iff inner _).mpr rfl,
        slotAt_append_iff.mpr ⟨_, slot?_eq_some_iff.mpr ⟨rfl, hinner⟩⟩⟩
    | plain => simp [h.plain, Token.isSlot] at hslot
  · intro p hp hslot start hle hlt inner
    obtain ⟨before, q, bs, rest, rfl, rfl, hcut⟩ := h.exists_cuts hp
    cases hcut with
    | slot => simp [h.isSlot_slot] at hslot
    | plain _ hno =>
      refine not_slotAt_of_no_slot hno hle ?_
      simpa [Placed.stop, h.plain, Token.source] using hlt

/-- The reading of a text is unique, and the pieces of the text give it. -/
theorem isReading_iff (h : MakesTokens opening Slot toToken) {text : List Char}
    {ts : List Token} :
    IsReading opening Slot text ts ↔ ts = (pieces opening text).map toToken := by
  constructor
  · intro hr
    obtain ⟨ps, hps, hcuts⟩ := hr.exists_cuts h ts [] rfl
    rw [hr.sources_eq, cuts_iff_eq_pieces] at hcuts
    rw [hps, hcuts]
  · rintro rfl
    exact isReading_map_pieces h text

end Unique

/-! ## Templates -/

theorem templateSlot_iff (inner : List Char) (t : Token) :
    TemplateSlot inner t ↔ t = Piece.toToken (.slot inner) := by
  have heq : Piece.toToken (.slot inner) =
      if iconMark.isPrefixOf inner then .icon (inner.drop iconMark.length) else .argument inner :=
    rfl
  rw [heq]
  constructor
  · rintro (name | hmark)
    · rw [if_pos (by simp), List.drop_left]
    · rw [if_neg (by simpa using hmark)]
  · rintro rfl
    split
    · next hmark =>
      obtain ⟨name, rfl⟩ := List.isPrefixOf_iff_prefix.mp hmark
      rw [List.drop_left]
      exact .icon name
    · next hmark => exact .argument (by simpa using hmark)

theorem makesTokens_toToken : MakesTokens opening TemplateSlot Piece.toToken where
  plain _ := rfl
  slot_iff := templateSlot_iff
  source_slot inner := by simpa [Piece.source] using Piece.source_toToken (.slot inner)
  isSlot_slot inner := by
    rw [Piece.toToken, Token.ofInner]
    split <;> rfl

/-- **The tokens of a template are its one reading.** -/
theorem isReading_iff_eq_tokens (text : List Char) (ts : List Token) :
    IsReading opening TemplateSlot text ts ↔ ts = tokens text :=
  isReading_iff makesTokens_toToken

/-- The first character of a slot may be a brace, and the first closing mark behind it closes. -/
example : tokens "{{{x}}}".toList = [.argument ['{', 'x'], .literal ['}']] := by
  decide +kernel

/-! ## Captions -/

/-- The slot of a caption that has `name` behind its opening mark: always one of an icon. -/
inductive CaptionSlot : List Char → Token → Prop
  | icon (name : List Char) : CaptionSlot name (.icon name)

theorem captionSlot_iff (name : List Char) (t : Token) :
    CaptionSlot name t ↔ t = Piece.toIconToken (.slot name) := by
  constructor
  · rintro ⟨⟩
    rfl
  · rintro rfl
    exact .icon name

theorem makesTokens_toIconToken : MakesTokens iconOpening CaptionSlot Piece.toIconToken where
  plain _ := rfl
  slot_iff := captionSlot_iff
  source_slot name := by simpa [Piece.source] using Piece.source_toIconToken (.slot name)
  isSlot_slot _ := rfl

/-- **The tokens of a caption are its one reading.** No argument slot is among them, and an icon slot
has a name. -/
theorem isReading_iff_eq_iconTokens (text : List Char) (ts : List Token) :
    IsReading iconOpening CaptionSlot text ts ↔ ts = iconTokens text :=
  isReading_iff makesTokens_toIconToken

/-- A slot takes the last opening mark that it can begin with, and its name may begin with a closing
brace. -/
example : iconTokens "\x7b{{icon:a}}{{icon:}}{{icon:b}}".toList =
    [.literal ['{'], .icon ['a'], .icon "\x7d\x7d\x7b\x7bicon:b".toList] := by
  decide +kernel

end Captions.Template
